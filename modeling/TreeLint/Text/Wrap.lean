import TreeLint.Text.Alphanumeric
import TreeLint.Text.ControlSequence
import TreeLint.Text.Fields
import TreeLint.Text.LineBreak.Rules

/-!
# Wrapped text

A text is set in lines of limited width. A line ends only where the next word would not fit, a word
that is wider than a line is cut, and spaces at the end of a line are dropped. Line breaks in the
text stay. The first line has an indent of its own.
-/

namespace TreeLint.Text.Wrap

/-- A word, and the spaces behind it. -/
structure Word where
  chars : List Char
  spaces : Nat
  deriving DecidableEq, Repr

namespace Word

/-- The width of a word without the spaces behind it. -/
def width (word : Word) : Nat :=
  textWidth word.chars

/-- A word from its characters and the spaces behind it. -/
def ofChars (text : List Char) : Word :=
  let chars := (text.reverse.dropWhile (· = ' ')).reverse
  ⟨chars, text.length - chars.length⟩

end Word

/-! ## Words -/

/-- Whether a character is a hyphen, seen or unseen. A word may go on behind it. -/
def isHyphen (c : Char) : Bool :=
  c = '-' || c = '\u00ad'

/-- Takes back the last of some marks. -/
def dropLastMark : List Bool → List Bool
  | [] => []
  | mark :: rest =>
    if mark && !rest.any id then false :: rest else mark :: dropLastMark rest

/-- For each character of a text, whether a word ends behind it and another one follows: where a
line may end, unless behind a hyphen. The last of these places is where the text ends, and does not
count. -/
def wordEnds (text : List Char) : List Bool :=
  dropLastMark (List.zipWith (fun c ends => ends && !isHyphen c) text (LineBreak.lineEnds text))

/-- Cuts a text behind the characters that are marked. Only characters that show have marks. -/
def cutAt : List (Char × Bool) → List Bool → List (List Char)
  | [], _ => []
  | (c, true) :: rest, true :: marks => [c] :: cutAt rest marks
  | (c, shown) :: rest, marks =>
    match cutAt rest (if shown then marks.tail else marks) with
    | [] => [[c]]
    | part :: parts => (c :: part) :: parts

/-- The words of a text without line breaks. Spaces at its start follow an empty word. -/
def words (text : List Char) : List Word :=
  let cells := markShown .outside text
  let shown := (cells.filter Prod.snd).map Prod.fst
  (cutAt cells (wordEnds shown)).map Word.ofChars

/-! ## Parts of words -/

/-- The parts of a word: each but the last ends in a hyphen between letters or numbers. The
character before the word is given. -/
def hyphenParts : Option Char → List Char → List (List Char)
  | _, [] => [[]]
  | before, c :: rest =>
    match hyphenParts (some c) rest with
    | [] => [[c]]
    | part :: parts =>
      if c = '-' && before.any isAlphanumeric && rest.head?.any isAlphanumeric then
        [c] :: part :: parts
      else (c :: part) :: parts

/-- The parts of a word, where only the last one is followed by the spaces. -/
def withSpaces (spaces : Nat) : List (List Char) → List Word
  | [] => []
  | [part] => [⟨part, spaces⟩]
  | part :: parts => ⟨part, 0⟩ :: withSpaces spaces parts

/-- The parts of a word that may stand on different lines. -/
def Word.split (word : Word) : List Word :=
  withSpaces word.spaces (hyphenParts none word.chars)

/-- Cuts a word in pieces that fit a line, where a piece that takes up some width is begun, its last
character first. -/
def pieces (room : Nat) :
    (state : SequenceState) → (piece : List Char) → (used : Nat) → List Char → List (List Char)
  | _, piece, _, [] => [piece.reverse]
  | state, piece, used, c :: rest =>
    let width := shownWidth state c
    if state.shows c && 0 < used && room < used + width then
      piece.reverse :: pieces room (state.next c) [c] width rest
    else pieces room (state.next c) (c :: piece) (used + width) rest

/-- The pieces of a word, each of which fits a line. -/
def Word.cut (room : Nat) (word : Word) : List Word :=
  if word.width ≤ room then [word]
  else withSpaces word.spaces (pieces room .outside [] 0 word.chars)

/-! ## Lines -/

/-- Sets words in lines, where a line that takes up some width is begun. -/
def setLines (room : Nat) : (line : List Word) → (used : Nat) → List Word → List (List Word)
  | line, _, [] => [line.reverse]
  | line, used, word :: rest =>
    if line ≠ [] ∧ room < used + word.width then
      line.reverse :: setLines room [word] (word.width + word.spaces) rest
    else setLines room (word :: line) (used + word.width + word.spaces) rest

/-- The characters of a line, without the spaces at its end. -/
def lineChars : List Word → List Char
  | [] => []
  | [word] => word.chars
  | word :: rest => word.chars ++ List.replicate word.spaces ' ' ++ lineChars rest

/-- The lines of a text. -/
def linesOf (room : Nat) (text : String) : List String :=
  (fields '\n' text.toList).flatMap fun paragraph =>
    let parts := ((words paragraph).flatMap Word.split).flatMap (Word.cut room)
    (setLines room [] 0 parts).map fun line => String.ofList (lineChars line)

/-- A text in lines that are so wide each, not counting the indents. -/
def fill (room : Nat) (first later : String) (text : String) : String :=
  match linesOf room text with
  | [] => first
  | line :: lines => first ++ line ++ String.join (lines.map fun line => "\n" ++ later ++ line)

end TreeLint.Text.Wrap
