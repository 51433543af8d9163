import Mathlib.Algebra.Group.Nat.Defs
import Mathlib.Data.List.Basic
import TreeLint.Message

/-!
# The pieces of a template

A template is read from left to right, and a brace that opens nothing is passed over. Nothing of that is
needed to say what comes out. `Message.Occurs` says where a placeholder stands in a text: anywhere, by
what is written there. `Message.Decomposes` takes a text apart into characters and placeholders such
that every placeholder that stands in it is a piece.

**The law** (`Message.fill_exact`): placeholders do not overlap, so a template has one decomposition, for
a number of arguments; and filling the template replaces the placeholders of the decomposition by their
arguments and keeps all else. The decomposition is made before the arguments are looked at, so their
texts are never read as templates.

Two facts carry it. A numeral has no brace in it, so between the braces of a placeholder no other one
begins or ends (`Message.exists_behind_close`). And a decomposition begins with a placeholder exactly
when one stands at the start of the text (`Message.Decomposes.head_eq`), so two decompositions agree
piece by piece.
-/

namespace TreeLint

/-! ## Numerals -/

namespace Text.Decimal

/-- **A numeral**: one or more digits, with or without a plus sign, for a number that fits a word. -/
def Numeral (word : List Char) (number : Nat) : Prop :=
  ∃ digits : List Char, (word = digits ∨ word = '+' :: digits) ∧ digits ≠ [] ∧
    (∀ c ∈ digits, c.isDigit = true) ∧ value digits = number ∧ number < 2 ^ 64

/-- A run of digits is read as the number it spells, if that fits a word. -/
theorem ite_value_eq_some {run : List Char} {number : Nat} :
    (if run ≠ [] ∧ run.all Char.isDigit ∧ value run ≤ maxWord then some (value run) else none) =
        some number ↔
      run ≠ [] ∧ (∀ c ∈ run, c.isDigit = true) ∧ value run = number ∧ number < 2 ^ 64 := by
  have hfits : ∀ n : Nat, n ≤ maxWord ↔ n < 2 ^ 64 := by
    intro n
    rw [show maxWord = 2 ^ 64 - 1 from rfl]
    omega
  simp only [Option.ite_none_right_eq_some, Option.some.injEq, List.all_eq_true, hfits]
  constructor
  · rintro ⟨⟨hne, hdigits, hlt⟩, rfl⟩
    exact ⟨hne, hdigits, rfl, hlt⟩
  · rintro ⟨hne, hdigits, rfl, hlt⟩
    exact ⟨⟨hne, hdigits, hlt⟩, rfl⟩

/-- The words that are read as numbers are the numerals. -/
theorem word?_eq_some {word : List Char} {number : Nat} :
    word? word = some number ↔ Numeral word number := by
  unfold word? Numeral
  rw [ite_value_eq_some]
  split
  · next rest =>
    constructor
    · intro h
      exact ⟨rest, .inr rfl, h⟩
    · rintro ⟨digits, rfl | hsign, hne, hdigits, h⟩
      · exact absurd (hdigits '+' List.mem_cons_self) (by decide)
      · cases hsign
        exact ⟨hne, hdigits, h⟩
  · next hunsigned =>
    constructor
    · intro h
      exact ⟨word, .inl rfl, h⟩
    · rintro ⟨digits, rfl | hsign, h⟩
      · exact h
      · exact absurd hsign (hunsigned digits)

theorem Numeral.unique {word : List Char} {first second : Nat} (hfirst : Numeral word first)
    (hsecond : Numeral word second) : first = second := by
  rw [← word?_eq_some] at hfirst hsecond
  rw [hfirst] at hsecond
  exact Option.some.inj hsecond

/-- What stands in no numeral: anything but digits and the plus sign. -/
theorem Numeral.notMem {word : List Char} {number : Nat} (h : Numeral word number) {c : Char}
    (hdigit : c.isDigit = false) (hplus : c ≠ '+') : c ∉ word := by
  obtain ⟨digits, hword, _, hdigits, _⟩ := h
  have hc : c ∉ digits := fun hmem => by
    rw [hdigits c hmem] at hdigit
    cases hdigit
  rcases hword with rfl | rfl
  · exact hc
  · exact List.not_mem_cons_of_ne_of_not_mem hplus hc

end Text.Decimal

open Text.Decimal

namespace Message

/-! ## Placeholders in a text -/

theorem splitClose_append {word : List Char} (after : List Char) (h : '\x7d' ∉ word) :
    splitClose (word ++ '\x7d' :: after) = some (word, after) := by
  induction word with
  | nil => rfl
  | cons c rest ih =>
    rw [List.mem_cons, not_or] at h
    obtain ⟨hc, hrest⟩ := h
    rw [List.cons_append, splitClose, if_neg (Ne.symm hc), ih hrest]

theorem splitClose_eq_some : ∀ {text word after : List Char}, splitClose text = some (word, after) →
    text = word ++ '\x7d' :: after := by
  intro text word after h
  induction text generalizing word with
  | nil => cases h
  | cons c rest ih =>
    rw [splitClose] at h
    split at h
    · next hc =>
      cases h
      rw [hc]
      rfl
    · split at h
      · next hrest =>
        cases h
        rw [ih hrest]
        rfl
      · cases h

/-- **A placeholder stands in a text**, behind some text and in front of some: between braces, the
numeral of one of the arguments, of which there are so many. -/
structure Occurs (count : Nat) (text before word : List Char) (index : Nat) (after : List Char) :
    Prop where
  split : text = before ++ '\x7b' :: (word ++ '\x7d' :: after)
  numeral : Numeral word index
  index_lt : index < count

variable {count : Nat} {text : List Char}

/-- Behind a word without an opening brace and the brace that closes it, the next opening brace stands
in what follows. -/
theorem exists_behind_close {word after gap tail : List Char} (hopen : '\x7b' ∉ word)
    (h : word ++ '\x7d' :: after = gap ++ '\x7b' :: tail) :
    ∃ rest, gap = word ++ '\x7d' :: rest ∧ after = rest ++ '\x7b' :: tail := by
  rcases List.append_eq_append_iff.mp h with ⟨rest, hgap, hafter⟩ | ⟨rest, hword, htail⟩
  · cases rest with
    | nil => exact absurd (List.cons.inj hafter).1 (by decide)
    | cons c rest =>
      obtain ⟨rfl, hbehind⟩ := List.cons.inj hafter
      exact ⟨rest, hgap, hbehind⟩
  · cases rest with
    | nil => exact absurd (List.cons.inj htail).1 (by decide)
    | cons c rest =>
      obtain ⟨rfl, _⟩ := List.cons.inj htail
      refine absurd ?_ hopen
      rw [hword]
      exact List.mem_append_right _ List.mem_cons_self

namespace Occurs

variable {before word after : List Char} {index : Nat}

theorem open_notMem (h : Occurs count text before word index after) : '\x7b' ∉ word :=
  h.numeral.notMem (by decide) (by decide)

theorem close_notMem (h : Occurs count text before word index after) : '\x7d' ∉ word :=
  h.numeral.notMem (by decide) (by decide)

/-- A placeholder stays where it is when text is put in front. -/
theorem append_left (h : Occurs count text before word index after) (front : List Char) :
    Occurs count (front ++ text) (front ++ before) word index after :=
  ⟨by rw [h.split, List.append_assoc], h.numeral, h.index_lt⟩

/-- A placeholder at the start of a text is given by the text. -/
theorem eq_of_start {word' after' : List Char} {index' : Nat}
    (h : Occurs count text [] word index after) (h' : Occurs count text [] word' index' after') :
    word = word' ∧ index = index' ∧ after = after' := by
  have hsplit := h.split.symm.trans h'.split
  have hbodies : word ++ '\x7d' :: after = word' ++ '\x7d' :: after' := (List.cons.inj hsplit).2
  have hread := congrArg splitClose hbodies
  rw [splitClose_append after h.close_notMem, splitClose_append after' h'.close_notMem] at hread
  cases hread
  exact ⟨rfl, h.numeral.unique h'.numeral, rfl⟩

/-- Behind a placeholder at the start of a text, the others stand in what follows it. -/
theorem behind_start {before' word' after' : List Char} {index' : Nat}
    (h : Occurs count text [] word index after) (h' : Occurs count text before' word' index' after')
    (hbehind : before' ≠ []) :
    ∃ rest, before' = '\x7b' :: (word ++ '\x7d' :: rest) ∧
      Occurs count after rest word' index' after' := by
  have hsplit := h.split.symm.trans h'.split
  cases before' with
  | nil => exact absurd rfl hbehind
  | cons c gap =>
    obtain ⟨rfl, hrest⟩ := List.cons.inj hsplit
    obtain ⟨rest, rfl, hafter⟩ := exists_behind_close h.open_notMem hrest
    exact ⟨rest, rfl, hafter, h'.numeral, h'.index_lt⟩

/-- What stands in front of a placeholder can be taken away. -/
theorem of_append_left (front : List Char)
    (h : Occurs count (front ++ text) (front ++ before) word index after) :
    Occurs count text before word index after := by
  refine ⟨?_, h.numeral, h.index_lt⟩
  have hsplit := h.split
  rw [List.append_assoc] at hsplit
  exact List.append_cancel_left hsplit

/-- **Placeholders do not overlap.** Of two that stand in a text, one ends before the other begins,
unless they are the same. -/
theorem disjoint {before' word' after' : List Char} {index' : Nat}
    (h : Occurs count text before word index after)
    (h' : Occurs count text before' word' index' after') (hle : before.length ≤ before'.length) :
    (before = before' ∧ word = word' ∧ index = index' ∧ after = after') ∨
      before.length + word.length + 2 ≤ before'.length := by
  have hfront : before <+: text := ⟨_, h.split.symm⟩
  have hfront' : before' <+: text := ⟨_, h'.split.symm⟩
  obtain ⟨gap, rfl⟩ := List.prefix_of_prefix_length_le hfront hfront' hle
  obtain ⟨tail, rfl⟩ : ∃ tail, text = before ++ tail := ⟨_, h.split⟩
  have hstart : Occurs count tail [] word index after := by
    refine of_append_left before ?_
    rw [List.append_nil]
    exact h
  have hother : Occurs count tail gap word' index' after' := of_append_left before h'
  by_cases hgap : gap = []
  · subst hgap
    exact .inl ⟨(List.append_nil _).symm, eq_of_start hstart hother⟩
  · obtain ⟨rest, rfl, _⟩ := behind_start hstart hother hgap
    right
    simp only [List.length_append, List.length_cons]
    omega

end Occurs

/-! ## Decompositions -/

/-- A piece of a template. -/
inductive Piece where
  /-- A character that is kept. -/
  | char (c : Char)
  /-- A placeholder: the word between its braces, and the argument it is for. -/
  | place (word : List Char) (index : Nat)
  deriving DecidableEq, Repr

namespace Piece

/-- What a piece is in the template. -/
def spelling : Piece → List Char
  | char c => [c]
  | place word _ => '\x7b' :: (word ++ ['\x7d'])

/-- What comes of a piece when the template is filled. -/
def filled (args : List String) : Piece → List Char
  | char c => [c]
  | place _ index => (args[index]?.getD "").toList

theorem spelling_ne_nil (piece : Piece) : piece.spelling ≠ [] := by
  cases piece <;> exact List.cons_ne_nil _ _

theorem spelling_place_append (word : List Char) (index : Nat) (after : List Char) :
    (place word index).spelling ++ after = '\x7b' :: (word ++ '\x7d' :: after) := by
  rw [spelling, List.cons_append, List.append_assoc]
  rfl

end Piece

/-- **A decomposition of a text**, for a number of arguments. The pieces spell the text, and the
placeholders among them are those that stand in the text, where they stand in it. -/
structure Decomposes (count : Nat) (text : List Char) (pieces : List Piece) : Prop where
  spells : pieces.flatMap Piece.spelling = text
  /-- A piece that is a placeholder is one for an argument. -/
  valid : ∀ {word : List Char} {index : Nat}, .place word index ∈ pieces →
    Numeral word index ∧ index < count
  /-- Every placeholder that stands in the text is a piece, behind those that spell what is in front. -/
  complete : ∀ {before word : List Char} {index : Nat} {after : List Char},
    Occurs count text before word index after →
      ∃ left right, pieces = left ++ .place word index :: right ∧
        left.flatMap Piece.spelling = before

namespace Decomposes

variable {pieces : List Piece} {word after : List Char} {index : Nat}

theorem nil (count : Nat) : Decomposes count [] [] where
  spells := rfl
  valid := fun hmem => nomatch hmem
  complete := fun h => absurd h.split.symm (List.append_ne_nil_of_right_ne_nil _ (List.cons_ne_nil _ _))

/-- A character at which no placeholder begins is a piece. -/
theorem char {c : Char} (hnone : ∀ word index after, ¬ Occurs count (c :: text) [] word index after)
    (h : Decomposes count text pieces) : Decomposes count (c :: text) (.char c :: pieces) where
  spells := congrArg (c :: ·) h.spells
  valid := by
    intro word index hmem
    rcases List.mem_cons.mp hmem with heq | hmem
    · cases heq
    · exact h.valid hmem
  complete := by
    intro before word index after hoccurs
    cases before with
    | nil => exact absurd hoccurs (hnone word index after)
    | cons first before =>
      obtain rfl : c = first := (List.cons.inj hoccurs.split).1
      have hrest : Occurs count text before word index after :=
        Occurs.of_append_left [c] hoccurs
      obtain ⟨left, right, rfl, rfl⟩ := h.complete hrest
      exact ⟨.char c :: left, right, rfl, rfl⟩

/-- A placeholder at the start of a text is a piece. -/
theorem place (hoccurs : Occurs count text [] word index after)
    (h : Decomposes count after pieces) : Decomposes count text (.place word index :: pieces) where
  spells := by
    rw [List.flatMap_cons, h.spells, Piece.spelling_place_append, hoccurs.split]
    rfl
  valid := by
    intro other place hmem
    rcases List.mem_cons.mp hmem with heq | hmem
    · cases heq
      exact ⟨hoccurs.numeral, hoccurs.index_lt⟩
    · exact h.valid hmem
  complete := by
    intro before other place behind hother
    by_cases hbefore : before = []
    · subst hbefore
      obtain ⟨rfl, rfl, rfl⟩ := hoccurs.eq_of_start hother
      exact ⟨[], pieces, rfl, rfl⟩
    · obtain ⟨rest, rfl, hrest⟩ := hoccurs.behind_start hother hbefore
      obtain ⟨left, right, rfl, rfl⟩ := h.complete hrest
      refine ⟨.place word index :: left, right, rfl, ?_⟩
      rw [List.flatMap_cons, Piece.spelling_place_append]

/-- **How a decomposition begins**: with the placeholder at the start of the text, if there is one. -/
theorem head_eq (h : Decomposes count text pieces) (hoccurs : Occurs count text [] word index after) :
    pieces.head? = some (.place word index) := by
  obtain ⟨left, right, rfl, hleft⟩ := h.complete hoccurs
  cases left with
  | nil => rfl
  | cons piece left =>
    exact absurd (List.append_eq_nil_iff.mp hleft).1 piece.spelling_ne_nil

/-- The other pieces decompose what follows the first. -/
theorem tail {piece : Piece} (h : Decomposes count (piece.spelling ++ text) (piece :: pieces)) :
    Decomposes count text pieces where
  spells := List.append_cancel_left h.spells
  valid := fun hmem => h.valid (List.mem_cons_of_mem _ hmem)
  complete := by
    intro before word index after hoccurs
    obtain ⟨left, right, hpieces, hleft⟩ := h.complete (hoccurs.append_left piece.spelling)
    cases left with
    | nil => exact absurd (List.append_eq_nil_iff.mp hleft.symm).1 piece.spelling_ne_nil
    | cons first left =>
      obtain ⟨rfl, rfl⟩ := List.cons.inj hpieces
      exact ⟨left, right, rfl, List.append_cancel_left hleft⟩

/-- A first piece that is a placeholder stands at the start of the text. -/
theorem occurs_of_head (h : Decomposes count text (.place word index :: pieces)) :
    ∃ after, Occurs count text [] word index after := by
  obtain ⟨numeral, hlt⟩ := h.valid List.mem_cons_self
  refine ⟨pieces.flatMap Piece.spelling, ?_, numeral, hlt⟩
  rw [← h.spells, List.flatMap_cons, Piece.spelling_place_append]
  rfl

/-- **Two decompositions of a text begin alike.** -/
theorem head_unique {first second : Piece} {others : List Piece}
    (h : Decomposes count text (first :: pieces)) (h' : Decomposes count text (second :: others)) :
    first = second := by
  cases first with
  | place word index =>
    obtain ⟨after, hoccurs⟩ := h.occurs_of_head
    exact (Option.some.inj (h'.head_eq hoccurs)).symm
  | char c =>
    cases second with
    | place word index =>
      obtain ⟨after, hoccurs⟩ := h'.occurs_of_head
      exact Option.some.inj (h.head_eq hoccurs)
    | char d =>
      have hspells := h.spells.trans h'.spells.symm
      rw [(List.cons.inj hspells).1]

/-- **A text has one decomposition.** -/
theorem unique : ∀ {text : List Char} {first second : List Piece},
    Decomposes count text first → Decomposes count text second → first = second
  | _, [], [], _, _ => rfl
  | _, [], piece :: rest, h, h' => by
    have hspells := h'.spells.trans h.spells.symm
    exact absurd (List.append_eq_nil_iff.mp hspells).1 piece.spelling_ne_nil
  | _, piece :: rest, [], h, h' => by
    have hspells := h.spells.trans h'.spells.symm
    exact absurd (List.append_eq_nil_iff.mp hspells).1 piece.spelling_ne_nil
  | _, piece :: rest, other :: others, h, h' => by
    obtain rfl := h.head_unique h'
    have hspells := h.spells
    subst hspells
    rw [unique (tail h) (tail h')]

end Decomposes

/-! ## Filling -/

/-- **What is read as a placeholder** at an opening brace stands there. -/
theorem placeholder?_eq_some {args : List String} {arg : String} {after : List Char}
    (h : placeholder? args text = some (arg, after)) :
    ∃ word index, Occurs args.length ('\x7b' :: text) [] word index after := by
  unfold placeholder? at h
  split at h
  · cases h
  · next word rest hsplit =>
    split at h
    · cases h
    · next index hword =>
      obtain ⟨found, hfound, heq⟩ := Option.map_eq_some_iff.mp h
      cases heq
      have hlt : index < args.length := (List.getElem?_eq_some_iff.mp hfound).1
      exact ⟨word, index, congrArg _ (splitClose_eq_some hsplit), word?_eq_some.mp hword, hlt⟩

/-- A character at which no placeholder begins is kept. -/
theorem fillChars_char {args : List String} {c : Char}
    (hnone : ∀ word index after, ¬ Occurs args.length (c :: text) [] word index after) :
    fillChars args (c :: text) = c :: fillChars args text := by
  rw [fillChars]
  split
  · next hopen =>
    subst hopen
    split
    · next hread =>
      obtain ⟨word, index, hoccurs⟩ := placeholder?_eq_some hread
      exact absurd hoccurs (hnone word index _)
    · rfl
  · rfl

theorem fillChars_append (args : List String) {text : List Char} (rest : List Char)
    (h : '\x7b' ∉ text) : fillChars args (text ++ rest) = text ++ fillChars args rest := by
  induction text with
  | nil => rfl
  | cons c text ih =>
    rw [List.mem_cons, not_or] at h
    obtain ⟨hc, htext⟩ := h
    rw [List.cons_append, fillChars, if_neg (Ne.symm hc), ih htext, List.cons_append]

theorem fillChars_plain (args : List String) {text : List Char} (h : '\x7b' ∉ text) :
    fillChars args text = text := by
  have happend := fillChars_append args [] h
  rw [List.append_nil, fillChars, List.append_nil] at happend
  exact happend

/-- A placeholder at the start of a text is replaced. -/
theorem fillChars_occurs {args : List String} {word after : List Char} {index : Nat}
    (h : Occurs args.length text [] word index after) :
    fillChars args text = (Piece.place word index).filled args ++ fillChars args after := by
  obtain ⟨arg, harg⟩ : ∃ arg, args[index]? = some arg := ⟨_, List.getElem?_eq_getElem h.index_lt⟩
  have hread : placeholder? args (word ++ '\x7d' :: after) = some (arg, after) := by
    unfold placeholder?
    rw [splitClose_append after h.close_notMem]
    simp only [word?_eq_some.mpr h.numeral, harg, Option.map_some]
  rw [h.split, List.nil_append, fillChars, if_pos rfl, Piece.filled, harg]
  split
  · next found rest hfound =>
    rw [hread] at hfound
    cases hfound
    rfl
  · next hnone =>
    rw [hread] at hnone
    cases hnone

/-- A template without placeholders. -/
theorem fill_plain (args : List String) {text : String} (h : '\x7b' ∉ text.toList) :
    fill text args = text := by
  unfold fill
  rw [fillChars_plain args h, String.ofList_toList]

/-- **A template with one placeholder.** -/
theorem fill_one {before after : String} (arg : String) (hbefore : '\x7b' ∉ before.toList)
    (hafter : '\x7b' ∉ after.toList) :
    fill (before ++ "\x7b0\x7d" ++ after) [arg] = before ++ arg ++ after := by
  have hchars : (before ++ "\x7b0\x7d" ++ after).toList =
      before.toList ++ ('\x7b' :: (['0'] ++ '\x7d' :: after.toList)) := by
    simp only [String.toList_append, List.append_assoc]
    rfl
  have hoccurs : Occurs [arg].length ('\x7b' :: (['0'] ++ '\x7d' :: after.toList)) [] ['0'] 0
      after.toList :=
    ⟨rfl, word?_eq_some.mp (by decide), Nat.one_pos⟩
  unfold fill
  rw [hchars, fillChars_append [arg] _ hbefore, fillChars_occurs hoccurs, fillChars_plain [arg] hafter]
  show String.ofList (before.toList ++ (arg.toList ++ after.toList)) = _
  rw [String.ofList_append, String.ofList_append, String.ofList_toList, String.ofList_toList,
    String.ofList_toList, String.append_assoc]

/-- **Every text has a decomposition, and it is the one that filling goes by.** -/
theorem exists_decomposes (count : Nat) (text : List Char) :
    ∃ pieces, Decomposes count text pieces ∧ ∀ args : List String, args.length = count →
      fillChars args text = pieces.flatMap (Piece.filled args) := by
  by_cases hstart : ∃ word index after, Occurs count text [] word index after
  · obtain ⟨word, index, after, hoccurs⟩ := hstart
    have hshorter : after.length < text.length := by
      rw [hoccurs.split]
      simp only [List.nil_append, List.length_cons, List.length_append]
      omega
    obtain ⟨pieces, hpieces, hfill⟩ := exists_decomposes count after
    refine ⟨_, hpieces.place hoccurs, fun args hargs => ?_⟩
    subst hargs
    rw [fillChars_occurs hoccurs, hfill args rfl, List.flatMap_cons]
  · match text with
    | [] => exact ⟨[], .nil count, fun args _ => by rw [fillChars]; rfl⟩
    | c :: rest =>
      have hnone : ∀ word index after, ¬ Occurs count (c :: rest) [] word index after :=
        fun word index after h => hstart ⟨word, index, after, h⟩
      obtain ⟨pieces, hpieces, hfill⟩ := exists_decomposes count rest
      refine ⟨_, hpieces.char hnone, fun args hargs => ?_⟩
      subst hargs
      rw [fillChars_char hnone, hfill args rfl]
      rfl
termination_by text.length

/-- Without arguments nothing is replaced. -/
theorem Decomposes.filled_nil {pieces : List Piece} (h : Decomposes 0 text pieces) :
    pieces.flatMap (Piece.filled []) = text := by
  refine Eq.trans (List.flatMap_congr fun piece hmem => ?_) h.spells
  cases piece with
  | char c => rfl
  | place word index => exact absurd (h.valid hmem).2 (Nat.not_lt_zero index)

/-- **Filling a template replaces exactly its placeholders.** For a number of arguments a template has
one decomposition, whatever the arguments are; what comes out is each character that is no part of a
placeholder, and in the place of each placeholder its argument. The placeholders that stand in a template
do not overlap. Without arguments a template is kept as it is. -/
theorem fill_exact (template : String) (count : Nat) :
    (∃ pieces, Decomposes count template.toList pieces ∧
      (∀ other, Decomposes count template.toList other → other = pieces) ∧
      ∀ args : List String, args.length = count →
        fill template args = String.ofList (pieces.flatMap (Piece.filled args))) ∧
    (∀ {before word after before' word' after' : List Char} {index index' : Nat},
      Occurs count template.toList before word index after →
      Occurs count template.toList before' word' index' after' → before.length ≤ before'.length →
      (before = before' ∧ word = word' ∧ index = index' ∧ after = after') ∨
        before.length + word.length + 2 ≤ before'.length) ∧
    fill template [] = template := by
  refine ⟨?_, Occurs.disjoint, ?_⟩
  · obtain ⟨pieces, hpieces, hfill⟩ := exists_decomposes count template.toList
    refine ⟨pieces, hpieces, fun other hother => hother.unique hpieces, fun args hargs => ?_⟩
    exact congrArg String.ofList (hfill args hargs)
  · obtain ⟨pieces, hpieces, hfill⟩ := exists_decomposes 0 template.toList
    unfold fill
    rw [hfill [] rfl, hpieces.filled_nil, String.ofList_toList]

/-- A template with a placeholder behind a brace that opens nothing, one for an argument that is not
there, and one that is not closed. -/
def nestedTemplate : String :=
  "\x7b\x7b+01\x7d \x7b2\x7d \x7b0"

/-- The one placeholder that stands in it is a piece, and the argument it is for is kept as it is. -/
theorem nestedTemplate_filled :
    Occurs 2 nestedTemplate.toList ['\x7b'] ['+', '0', '1'] 1 " \x7b2\x7d \x7b0".toList ∧
      ∃ pieces, Decomposes 2 nestedTemplate.toList pieces ∧ .place ['+', '0', '1'] 1 ∈ pieces ∧
        (∀ other, Decomposes 2 nestedTemplate.toList other → other = pieces) ∧
        ["a", "\x7b0\x7d"].length = 2 ∧ fill nestedTemplate ["a", "\x7b0\x7d"] =
          String.ofList (pieces.flatMap (Piece.filled ["a", "\x7b0\x7d"])) := by
  have hoccurs : Occurs 2 nestedTemplate.toList ['\x7b'] ['+', '0', '1'] 1 " \x7b2\x7d \x7b0".toList :=
    ⟨by decide, word?_eq_some.mp (by decide), by decide⟩
  obtain ⟨⟨pieces, hpieces, hunique, hfill⟩, _, _⟩ := fill_exact nestedTemplate 2
  refine ⟨hoccurs, pieces, hpieces, ?_, hunique, rfl, hfill _ rfl⟩
  obtain ⟨left, right, rfl, _⟩ := hpieces.complete hoccurs
  exact List.mem_append_right _ List.mem_cons_self

example : fill nestedTemplate ["a", "\x7b0\x7d"] = "\x7b\x7b0\x7d \x7b2\x7d \x7b0" := by
  cbv

end Message

end TreeLint
