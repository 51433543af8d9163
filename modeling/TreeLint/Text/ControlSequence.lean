import TreeLint.Text.Width

/-!
# Control sequences

An escape character begins a sequence that a terminal obeys and does not show. A sequence is a
bracket with all that follows up to a letter or sign, a command that ends in a bell or in an escape
with a backslash, or any other single character.
-/

namespace TreeLint.Text

/-- Where a reader of a text stands. -/
inductive SequenceState where
  | outside
  | begun
  | bracket
  /-- Inside a command, and whether the last character was an escape. -/
  | command (escape : Bool)
  deriving DecidableEq, Repr

namespace SequenceState

/-- Whether a character ends a sequence with a bracket. -/
def isFinal (c : Char) : Bool :=
  '@' ≤ c && c ≤ '~'

/-- The state behind a character. -/
def next : SequenceState → Char → SequenceState
  | outside, c => if c = '\x1b' then begun else outside
  | begun, c => if c = '[' then bracket else if c = ']' then command false else outside
  | bracket, c => if isFinal c then outside else bracket
  | command escape, c =>
    if c = '\x07' ∨ c = '\\' ∧ escape then outside else command (c = '\x1b')

/-- Whether a character is part of the text that shows. -/
def shows (state : SequenceState) (c : Char) : Bool :=
  state = outside && c ≠ '\x1b'

end SequenceState

/-- The characters of a text, each with whether it is part of the text that shows. -/
def markShown : SequenceState → List Char → List (Char × Bool)
  | _, [] => []
  | state, c :: rest => (c, state.shows c) :: markShown (state.next c) rest

/-- The number of columns that a character takes up, none inside a sequence. -/
def shownWidth (state : SequenceState) (c : Char) : Nat :=
  if state.shows c then charWidth c else 0

/-- The number of columns that a text takes up. -/
def textWidth (text : List Char) : Nat :=
  ((markShown .outside text).map fun (c, shown) => if shown then charWidth c else 0).foldl (· + ·) 0

end TreeLint.Text
