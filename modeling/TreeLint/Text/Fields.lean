/-!
# Fields

A text is divided by a separator into fields. There is one field more than there are separators, so
the fields of a text lead back to it (`intercalate_fields`).
-/

namespace TreeLint.Text

/-- The fields of a text, empty ones included. -/
def fields (separator : Char) : List Char → List (List Char)
  | [] => [[]]
  | c :: rest =>
    match fields separator rest with
    | [] => [[c]]
    | field :: more => if c = separator then [] :: field :: more else (c :: field) :: more

theorem fields_ne_nil (separator : Char) (text : List Char) : fields separator text ≠ [] := by
  cases text with
  | nil => simp [fields]
  | cons c rest =>
    rw [fields]
    split
    · simp
    · split <;> simp

/-- The fields of a text, put together again. -/
theorem intercalate_fields (separator : Char) (text : List Char) :
    [separator].intercalate (fields separator text) = text := by
  induction text with
  | nil => rfl
  | cons c rest ih =>
    cases h : fields separator rest with
    | nil => exact absurd h (fields_ne_nil separator rest)
    | cons field more =>
      rw [h] at ih
      by_cases hc : c = separator
      · simp only [fields, h, hc, if_true]
        cases more <;> simp_all [List.intercalate]
      · simp only [fields, h, hc, if_false]
        cases more <;> simp_all [List.intercalate]

/-- The fields of a text, as texts. -/
def fieldsOf (separator : Char) (text : String) : List String :=
  (fields separator text.toList).map String.ofList

end TreeLint.Text
