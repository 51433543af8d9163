import TreeLint.Text.Decimal

/-!
# Message templates

The message of a rule is a template. Between braces stands the place of an argument, as in
`Use {0} rather than {1}`: an unsigned number, with or without a plus sign, that is less than the
number of arguments. Such a placeholder is replaced by its argument. All other text, stray braces
included, is kept as it is, and the text of an argument is never read as a template.
-/

namespace TreeLint.Message

/-- Splits a text at its first closing brace into what stands before and after it. -/
def splitClose : List Char → Option (List Char × List Char)
  | [] => none
  | c :: rest =>
    if c = '\x7d' then some ([], rest)
    else match splitClose rest with
      | some (word, after) => some (c :: word, after)
      | none => none

/-- What follows a closing brace is shorter than the whole. -/
theorem splitClose_length {text word after : List Char} (h : splitClose text = some (word, after)) :
    after.length < text.length := by
  induction text generalizing word with
  | nil => cases h
  | cons c rest ih =>
    rw [splitClose] at h
    split at h
    · cases h
      simp
    · split at h
      · rename_i word' after' hrest
        cases h
        exact Nat.lt_succ_of_lt (ih hrest)
      · cases h

/-- The argument that a placeholder names, where the text is what follows its opening brace,
together with what follows its closing brace. -/
def placeholder? (args : List String) (text : List Char) : Option (String × List Char) :=
  match splitClose text with
  | none => none
  | some (word, after) =>
    match Text.Decimal.word? word with
    | none => none
    | some index => args[index]?.map fun arg => (arg, after)

theorem placeholder?_length {args : List String} {text after : List Char} {arg : String}
    (h : placeholder? args text = some (arg, after)) : after.length < text.length := by
  unfold placeholder? at h
  split at h
  · cases h
  · rename_i word after' hsplit
    split at h
    · cases h
    · obtain ⟨_, _, heq⟩ := Option.map_eq_some_iff.mp h
      cases heq
      exact splitClose_length hsplit

/-- A template with its placeholders replaced, on characters. -/
def fillChars (args : List String) : List Char → List Char
  | [] => []
  | c :: rest =>
    if c = '\x7b' then
      match h : placeholder? args rest with
      | some (arg, after) =>
        have := placeholder?_length h
        arg.toList ++ fillChars args after
      | none => c :: fillChars args rest
    else c :: fillChars args rest
  termination_by text => text.length
  decreasing_by
    · simp only [List.length_cons]
      omega
    · simp
    · simp

/-- A template with its placeholders replaced by the arguments they name. -/
def fill (template : String) (args : List String) : String :=
  String.ofList (fillChars args template.toList)

end TreeLint.Message
