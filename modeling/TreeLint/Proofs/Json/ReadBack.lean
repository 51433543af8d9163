import Mathlib.Data.List.Basic
import TreeLint.Json.Value

/-!
# Written values are read back

**The law of a reader**: what was written for a value, with anything behind it that can stand behind a
value, is read as that value, and what stands behind it is left (`ReadsBack`). It is stated with the
rest of the text, so that the law of a container follows from the law of what it holds. Strings, names,
numbers that fit a word, lists and records have it.

Only the form on one line is covered, in which no blank stands between tokens. Nothing is said of texts
that no writer produces, nor of the list form of a record.
-/

namespace TreeLint

namespace Text.Decimal

theorem digit_ne_zero {n : Nat} (hn : n < 10) (h : n ≠ 0) : digit n ≠ '0' := by
  intro hzero
  have hvalue := digitValue_digit hn
  rw [hzero] at hvalue
  exact h hvalue.symm

/-- The digits of a number that is not zero start with a digit that is not zero. -/
theorem exists_digits_eq_cons {n : Nat} (h : n ≠ 0) :
    ∃ first rest, digits n = first :: rest ∧ first ≠ '0' := by
  fun_induction digits n with
  | case1 n hn => exact ⟨digit n, [], rfl, digit_ne_zero hn h⟩
  | case2 n hn ih =>
    obtain ⟨first, rest, hdigits, hfirst⟩ := ih (by omega)
    exact ⟨first, rest ++ [digit (n % 10)], by rw [hdigits]; rfl, hfirst⟩

end Text.Decimal

namespace Json

/-! ## Readers and what is written for them -/

/-- What can stand behind a value: the end of the text, a comma, or the end of a container. -/
inductive Ends : List Char → Prop
  | text : Ends []
  | comma (rest : List Char) : Ends (',' :: rest)
  | list (rest : List Char) : Ends (']' :: rest)
  | object (rest : List Char) : Ends ('\x7d' :: rest)

/-- **A reader takes a value back** from its written form, and leaves what stands behind it. -/
def ReadsBack {α : Type} (reader : Reader α) (written : List Char) (value : α) : Prop :=
  ∀ rest, Ends rest → reader (written ++ rest) = .ok (value, rest)

theorem skipBlanks_cons {c : Char} (h : isBlank c = false) (rest : List Char) :
    skipBlanks (c :: rest) = c :: rest := by
  unfold skipBlanks
  rw [List.dropWhile_cons, h]
  rfl

/-- A value that does not start like `null` may also be read where there may be none. -/
theorem ReadsBack.optional {α : Type} {reader : Reader α} {c : Char} {more : List Char} {value : α}
    (h : ReadsBack reader (c :: more) value) (hblank : isBlank c = false) (hnull : c ≠ 'n') :
    ReadsBack (readOptional reader) (c :: more) (some value) := by
  intro rest hrest
  have hread := h rest hrest
  unfold readOptional
  rw [List.cons_append] at hread ⊢
  rw [skipBlanks_cons hblank]
  split
  · next heq =>
    injection heq with heq _
    exact absurd heq hnull
  · rw [hread]

/-- What is made of a value that is read back is made of the value that was written. -/
theorem ReadsBack.map {α β : Type} {reader : Reader α} {written : List Char} {value : α}
    (h : ReadsBack reader written value) (f : α → β) :
    ReadsBack (fun text => do let (x, rest) ← reader text; return (f x, rest)) written (f value) := by
  intro rest hrest
  simp only [h rest hrest, bind, Except.bind, pure, Except.pure]

/-- A member that was not read yet is read back. -/
theorem ReadsBack.field {α : Type} {reader : Reader α} {written : List Char} {value : α}
    (h : ReadsBack reader written value) (name : String) :
    ReadsBack (readField name none reader) (':' :: written) value :=
  fun rest hrest => h rest hrest

/-- **A text that holds one written value** is read as that value. -/
theorem ReadsBack.readAll {α : Type} {reader : Reader α} {written : List Char} {value : α}
    (h : ReadsBack reader written value) : readAll reader (String.ofList written) = .ok value := by
  have hread := h [] .text
  rw [List.append_nil] at hread
  unfold Json.readAll
  rw [String.toList_ofList, hread]
  rfl

/-! ## Strings -/

theorem hexValue?_hexDigit : ∀ {n : Nat}, n < 16 → hexValue? (hexDigit n) = some n := by
  decide

theorem readHex_control {n : Nat} (h : n < 0x20) (rest : List Char) :
    readHex ('0' :: '0' :: hexDigit (n / 16) :: hexDigit (n % 16) :: rest) = .ok (n, rest) := by
  have hzero : hexValue? '0' = some 0 := rfl
  simp only [readHex, hzero, hexValue?_hexDigit (show n / 16 < 16 by omega),
    hexValue?_hexDigit (show n % 16 < 16 by omega)]
  congr 2
  omega

/-- A control character is read back from its numeric escape. -/
theorem readUnicode_control {c : Char} (h : c.toNat < 0x20) (rest : List Char) :
    readUnicode ('0' :: '0' :: hexDigit (c.toNat / 16) :: hexDigit (c.toNat % 16) :: rest) =
      .ok (c, rest) := by
  have htrailing : isTrailing c.toNat = false := by
    unfold isTrailing
    simp only [decide_eq_false_iff_not]
    omega
  have hleading : isLeading c.toNat = false := by
    unfold isLeading
    simp only [decide_eq_false_iff_not]
    omega
  unfold readUnicode
  rw [readHex_control h]
  simp [bind, Except.bind, htrailing, hleading]

/-- **Every character is read back** from what is written for it, in one step. -/
theorem readChars_escapeChar (c tick : Char) (clock done rest : List Char) :
    readChars (tick :: clock) done (escapeChar c ++ rest) = readChars clock (c :: done) rest := by
  unfold escapeChar
  -- The seven characters with a short escape of their own.
  iterate 7
    split
    · next h =>
      subst h
      rfl
  split
  · next h =>
    have hescape : readEscape ('u' :: '0' :: '0' :: hexDigit (c.toNat / 16) ::
        hexDigit (c.toNat % 16) :: rest) = .ok (c, rest) := readUnicode_control h rest
    simp only [List.cons_append, List.nil_append, readChars, hescape]
    rfl
  · next hquote hbackslash _ _ _ _ _ h =>
    simp only [List.cons_append, List.nil_append, readChars, if_neg hquote, if_neg hbackslash, if_neg h]

/-- The characters of a string are read back up to its closing quote. -/
theorem readChars_flatMap_escapeChar : ∀ {chars clock : List Char} (done rest : List Char),
    chars.length < clock.length →
      readChars clock done (chars.flatMap escapeChar ++ '"' :: rest) =
        .ok (done.reverse ++ chars, rest)
  | [], _ :: _, done, rest, _ => by
    rw [List.append_nil]
    rfl
  | c :: chars, tick :: clock, done, rest, hclock => by
    rw [List.flatMap_cons, List.append_assoc, readChars_escapeChar,
      readChars_flatMap_escapeChar _ _ (Nat.lt_of_succ_lt_succ hclock), List.reverse_cons,
      List.append_assoc]
    rfl

theorem escapeChar_ne_nil (c : Char) : escapeChar c ≠ [] := by
  unfold escapeChar
  iterate 8
    split
    · exact List.cons_ne_nil _ _
  exact List.cons_ne_nil _ _

/-- Pieces that are not empty make a text at least as long as there are pieces, so the text is a clock
that lasts for them. -/
theorem length_le_length_flatMap {α : Type} {write : α → List Char} (h : ∀ x, write x ≠ [])
    (items : List α) : items.length ≤ (items.flatMap write).length := by
  induction items with
  | nil => exact Nat.le_refl _
  | cons x items ih =>
    have := List.length_pos_of_ne_nil (h x)
    rw [List.flatMap_cons, List.length_append, List.length_cons]
    omega

/-- **A string is read back**, whatever stands behind it. -/
theorem readString_flatMap_escapeChar (text : String) (rest : List Char) :
    readString (text.toList.flatMap escapeChar ++ '"' :: rest) = .ok (text, rest) := by
  have hclock : text.toList.length < (text.toList.flatMap escapeChar ++ '"' :: rest).length := by
    have := length_le_length_flatMap escapeChar_ne_nil text.toList
    rw [List.length_append, List.length_cons]
    omega
  unfold readString
  rw [readChars_flatMap_escapeChar [] rest hclock]
  simp

theorem readsBack_text (expected text : String) :
    ReadsBack (readText expected) (writeString text) text := by
  intro rest _
  unfold readText writeString
  rw [List.cons_append, skipBlanks_cons rfl, List.append_assoc]
  exact readString_flatMap_escapeChar text rest

/-- A string is also read back where there may be none. -/
theorem readsBack_optionalText (expected text : String) :
    ReadsBack (readOptional (readText expected)) (writeString text) (some text) :=
  (readsBack_text expected text).optional rfl (by decide)

theorem readsBack_name {α : Type} {names : Names α} {name : String} {value : α}
    (h : names.ofName? name = some value) : ReadsBack (readName names) (writeString name) value := by
  intro rest _
  have hresolve : names.resolve name = .ok value := by
    unfold Names.resolve
    rw [h]
  unfold readName writeString
  rw [List.cons_append, skipBlanks_cons rfl, List.append_assoc]
  simp only [List.singleton_append, readString_flatMap_escapeChar, hresolve, bind, Except.bind, pure,
    Except.pure]

/-! ## Numbers -/

theorem isBlank_of_isDigit {c : Char} (h : c.isDigit = true) : isBlank c = false := by
  rw [Bool.eq_false_iff]
  intro hblank
  unfold isBlank at hblank
  simp only [Bool.or_eq_true, beq_iff_eq] at hblank
  rcases hblank with ((rfl | rfl) | rfl) | rfl <;> cases h

/-- The digits of a number are what stands before the first character that is no digit. -/
theorem takeWhile_digits (n : Nat) {rest : List Char} (h : Ends rest) :
    (Text.Decimal.digits n ++ rest).takeWhile Char.isDigit = Text.Decimal.digits n ∧
      (Text.Decimal.digits n ++ rest).dropWhile Char.isDigit = rest := by
  have hdigits : ∀ c ∈ Text.Decimal.digits n, c.isDigit = true := fun c =>
    Text.Decimal.isDigit_of_mem_digits
  have hrest : rest.takeWhile Char.isDigit = [] ∧ rest.dropWhile Char.isDigit = rest := by
    cases h <;> exact ⟨rfl, rfl⟩
  rw [List.takeWhile_append_of_pos hdigits, List.dropWhile_append_of_pos hdigits, hrest.1, hrest.2]
  exact ⟨List.append_nil _, rfl⟩

theorem readWhole_digits (atEnd : Error) (n : Nat) {rest : List Char} (h : Ends rest) :
    readWhole atEnd (Text.Decimal.digits n ++ rest) = .ok (Text.Decimal.digits n, rest) := by
  by_cases hzero : n = 0
  · have hdigits : Text.Decimal.digits n = ['0'] := by
      rw [hzero, Text.Decimal.digits]
      rfl
    rw [hdigits]
    cases h <;> rfl
  · obtain ⟨first, more, hdigits, hfirst⟩ := Text.Decimal.exists_digits_eq_cons hzero
    obtain ⟨htake, hdrop⟩ := takeWhile_digits n h
    have hdigit : first.isDigit = true :=
      Text.Decimal.isDigit_of_mem_digits (hdigits ▸ List.mem_cons_self)
    rw [hdigits, List.cons_append] at htake hdrop ⊢
    unfold readWhole
    split
    · next heq => cases heq
    · next heq =>
      injection heq with heq _
      exact absurd heq hfirst
    · next heq =>
      injection heq with heq _
      rw [if_pos (heq ▸ hdigit), htake, hdrop]

theorem readSpelling_digits (atEnd : Error) (n : Nat) {rest : List Char} (h : Ends rest) :
    readSpelling atEnd (Text.Decimal.digits n ++ rest) =
      .ok (⟨Text.Decimal.digits n, none, none⟩, rest) := by
  have hfraction : readFraction atEnd rest = .ok (none, rest) := by
    cases h <;> rfl
  have hexponent : readExponent atEnd rest = .ok (none, rest) := by
    cases h <;> rfl
  unfold readSpelling
  rw [readWhole_digits atEnd n h]
  simp only [bind, Except.bind, hfraction, hexponent, pure, Except.pure]

/-- **A number that fits a word is read back.** -/
theorem readsBack_word {n : Nat} (hn : n ≤ Text.Decimal.maxWord) :
    ReadsBack readWord (Text.Decimal.digits n) n := by
  intro rest hrest
  have hnumber : readNumber false (Text.Decimal.digits n ++ rest) = .ok (.natural n, rest) := by
    unfold readNumber
    rw [readSpelling_digits _ n hrest]
    simp only [bind, Except.bind, Literal.number, Text.Decimal.value_digits, Bool.false_eq_true,
      if_false, if_pos hn, pure, Except.pure]
  obtain ⟨first, more, hdigits⟩ := List.exists_cons_of_ne_nil (Text.Decimal.digits_ne_nil n)
  have hdigit : first.isDigit = true :=
    Text.Decimal.isDigit_of_mem_digits (hdigits ▸ List.mem_cons_self)
  have hminus : first ≠ '-' := by
    rintro rfl
    cases hdigit
  rw [hdigits, List.cons_append] at hnumber ⊢
  unfold readWord
  simp only [skipBlanks_cons (isBlank_of_isDigit hdigit), hdigit, if_true, hnumber]
  rfl

/-! ## Lists -/

theorem intercalate_cons (first : List Char) (rest : List (List Char)) :
    List.intercalate [','] (first :: rest) = first ++ rest.flatMap (',' :: ·) := by
  induction rest generalizing first with
  | nil => simp [List.intercalate]
  | cons second rest ih =>
    rw [List.flatMap_cons, List.cons_append, ← ih]
    simp [List.intercalate]

/-- Behind an item can stand further items, each behind a comma, and then what can stand anyway. -/
theorem Ends.commas {rest : List Char} (h : Ends rest) (items : List (List Char)) :
    Ends (items.flatMap (',' :: ·) ++ rest) := by
  cases items with
  | nil => exact h
  | cons x items => exact .comma _

theorem length_le_length_commas (items : List (List Char)) :
    items.length ≤ (items.flatMap (',' :: ·)).length :=
  length_le_length_flatMap (fun x => List.cons_ne_nil ',' x) items

/-- **An item of a list**: it is read back, and it starts with a brace, so it is not taken for the end
of the list. -/
def ReadsBackItem {α : Type} (item : Reader α) (write : α → List Char) (x : α) : Prop :=
  ReadsBack item (write x) x ∧ ∃ more, write x = '\x7b' :: more

/-- Items are read back, each behind a comma, up to the end of the list. -/
theorem readItems_commas {α : Type} {item : Reader α} {write : α → List Char} :
    ∀ {items : List α} {clock : List Char} (done : List α) (rest : List Char),
      (∀ x ∈ items, ReadsBackItem item write x) → items.length < clock.length →
      readItems item clock false done ((items.map write).flatMap (',' :: ·) ++ ']' :: rest) =
        .ok (done.reverse ++ items, rest)
  | [], _ :: _, done, rest, _, _ => by
    rw [List.append_nil]
    rfl
  | x :: items, tick :: clock, done, rest, hitems, hclock => by
    obtain ⟨⟨hread, more, hwrite⟩, hrest⟩ := List.forall_mem_cons.mp hitems
    have hnext : ∀ behind,
        nextItem false (',' :: (write x ++ behind)) = .ok (some (write x ++ behind)) := by
      rw [hwrite]
      exact fun behind => rfl
    rw [List.map_cons, List.flatMap_cons, List.cons_append, List.cons_append, List.append_assoc,
      readItems, hnext]
    simp only [hread _ ((Ends.list rest).commas (items.map write))]
    rw [readItems_commas (x :: done) rest hrest (Nat.lt_of_succ_lt_succ hclock), List.reverse_cons,
      List.append_assoc]
    rfl

/-- **A list is read back**, if its items are. -/
theorem readsBack_list {α : Type} {item : Reader α} {write : α → List Char} {items : List α}
    (hitems : ∀ x ∈ items, ReadsBackItem item write x) :
    ReadsBack (readList item) ('[' :: (List.intercalate [','] (items.map write) ++ [']'])) items := by
  intro rest _
  unfold readList
  rw [List.cons_append, skipBlanks_cons rfl, List.append_assoc, List.singleton_append]
  simp only
  cases items with
  | nil => rfl
  | cons x items =>
    obtain ⟨⟨hread, more, hwrite⟩, hothers⟩ := List.forall_mem_cons.mp hitems
    have hnext : ∀ behind, nextItem true ('\x7b' :: behind) = .ok (some ('\x7b' :: behind)) :=
      fun behind => rfl
    rw [List.map_cons, intercalate_cons, List.append_assoc, hwrite, List.cons_append, readItems, hnext]
    simp only
    rw [← List.cons_append, ← hwrite, hread _ ((Ends.list rest).commas (items.map write))]
    refine readItems_commas [x] rest hothers ?_
    have hclock := length_le_length_commas (items.map write)
    rw [List.length_map] at hclock
    rw [List.length_append, List.length_append, List.length_cons]
    omega

/-! ## Records -/

/-- **Members that lead from some gathered fields to others**, each being taken back by the reader of
members. -/
inductive Gathers {σ : Type} (member : σ → String → Reader σ) : σ → List (List Char) → σ → Prop
  | nil {gathered : σ} : Gathers member gathered [] gathered
  | cons {gathered next last : σ} {key : String} {value : List Char} {members : List (List Char)} :
      ReadsBack (member gathered key) (':' :: value) next → Gathers member next members last →
      Gathers member gathered ((writeString key ++ ':' :: value) :: members) last

/-- Members are read back, each behind a comma, up to the end of the object. -/
theorem readMembers_commas {σ : Type} {member : σ → String → Reader σ} {gathered last : σ}
    {members : List (List Char)} (h : Gathers member gathered members last) :
    ∀ {clock : List Char} (rest : List Char), members.length < clock.length →
      readMembers member clock false gathered (members.flatMap (',' :: ·) ++ '\x7d' :: rest) =
        .ok (last, rest) := by
  induction h with
  | nil =>
    rintro (_ | ⟨tick, clock⟩) rest hclock
    · cases hclock
    · rfl
  | @cons gathered next last key value members hread hrest ih =>
    rintro (_ | ⟨tick, clock⟩) rest hclock
    · cases hclock
    · have hnext : ∀ behind, nextKey false (',' :: '"' :: behind) = .ok (some behind) :=
        fun behind => rfl
      have htext : ((writeString key ++ ':' :: value) :: members).flatMap (',' :: ·) ++ '\x7d' :: rest =
          ',' :: '"' :: (key.toList.flatMap escapeChar ++ '"' ::
            (':' :: value ++ (members.flatMap (',' :: ·) ++ '\x7d' :: rest))) := by
        simp [writeString]
      rw [htext, readMembers, hnext]
      simp only [readString_flatMap_escapeChar, hread _ ((Ends.object rest).commas members)]
      exact ih rest (Nat.lt_of_succ_lt_succ hclock)

/-- **The members of an object are taken back**, behind its opening brace. -/
theorem readMembers_of_gathers {σ : Type} {member : σ → String → Reader σ} {gathered last : σ}
    {members : List (List Char)} (h : Gathers member gathered members last) (rest : List Char) :
    readMembers member (List.intercalate [','] members ++ '\x7d' :: rest) true gathered
      (List.intercalate [','] members ++ '\x7d' :: rest) = .ok (last, rest) := by
  cases h with
  | nil => rfl
  | @cons gathered next last key value members hread hrest =>
    have hnext : ∀ behind, nextKey true ('"' :: behind) = .ok (some behind) := fun behind => rfl
    have htext :
        List.intercalate [','] ((writeString key ++ ':' :: value) :: members) ++ '\x7d' :: rest =
        '"' :: (key.toList.flatMap escapeChar ++ '"' ::
          (':' :: value ++ (members.flatMap (',' :: ·) ++ '\x7d' :: rest))) := by
      rw [intercalate_cons]
      simp [writeString]
    rw [htext, readMembers, hnext]
    simp only [readString_flatMap_escapeChar, hread _ ((Ends.object rest).commas members)]
    refine readMembers_commas hrest rest ?_
    have hclock := length_le_length_commas members
    simp only [List.length_append, List.length_cons]
    omega

/-- A record in its object form is read back, if its members are. -/
theorem readsBack_record {α : Type} {form : RecordForm α} {members : List Char} {value : α}
    (h : ∀ rest, form.members (members ++ '\x7d' :: rest) = .ok (value, rest)) :
    ReadsBack (readRecord form) ('\x7b' :: (members ++ ['\x7d'])) value := by
  intro rest _
  unfold readRecord
  rw [List.cons_append, skipBlanks_cons rfl, List.append_assoc]
  exact h rest

end Json

end TreeLint
