import TreeLint.Text.Decimal

/-!
# Glob patterns

In a pattern, `?` stands for one character and `*` for any run of characters, slashes included.
`**` stands for any number of whole directories, and has to be a whole part of the pattern between
slashes. A class in square brackets stands for one of its characters, or with `!` in front for any
other one; a closing bracket that comes first in a class is one of its characters.
-/

namespace TreeLint.Glob

/-- One part of a class of characters. -/
inductive Range where
  | single (c : Char)
  | span (first last : Char)
  deriving DecidableEq, Repr

/-- Whether a character is of a part. -/
def Range.contains : Range → Char → Bool
  | .single c, d => d == c
  | .span first last, d => decide (first ≤ d) && decide (d ≤ last)

/-- One part of a pattern. -/
inductive Token where
  | char (c : Char)
  | anyChar
  | anyRun
  | anyDirectories
  | oneOf (ranges : List Range)
  | noneOf (ranges : List Range)
  deriving DecidableEq, Repr

/-- A pattern. -/
structure Pattern where
  text : String
  tokens : List Token
  deriving DecidableEq, Repr

/-! ## Reading patterns -/

/-- What is wrong with a pattern. -/
inductive Fault where
  | tooManyStars
  | partialDirectories
  | badClass
  deriving DecidableEq, Repr

/-- The wording of a fault. -/
def Fault.message : Fault → String
  | .tooManyStars => "wildcards are either regular `*` or recursive `**`"
  | .partialDirectories => "recursive wildcards must form a single path component"
  | .badClass => "invalid range pattern"

/-- A fault and its place, in characters. -/
structure PatternError where
  position : Nat
  fault : Fault
  deriving DecidableEq, Repr

/-- The wording of an error. -/
def PatternError.message (error : PatternError) : String :=
  s!"Pattern syntax error near position {Text.Decimal.text error.position}: {error.fault.message}"

/-- The parts of a class. -/
def ranges : List Char → List Range
  | first :: '-' :: last :: rest => .span first last :: ranges rest
  | c :: rest => .single c :: ranges rest
  | [] => []

/-- The characters of a class up to its closing bracket, where the first character is never the
closing one, and what follows. -/
def splitClass? (text : List Char) : Option (List Char × List Char) :=
  match text with
  | [] => none
  | c :: rest =>
    let inside := rest.takeWhile (· ≠ ']')
    match rest.dropWhile (· ≠ ']') with
    | [] => none
    | _ :: after => some (c :: inside, after)

/-- Reads a class, behind its opening bracket. -/
def readClass? (text : List Char) : Option (Token × List Char) :=
  match text with
  | '!' :: rest => (splitClass? rest).map fun (inside, after) => (.noneOf (ranges inside), after)
  | _ => (splitClass? text).map fun (inside, after) => (.oneOf (ranges inside), after)

/-- Adds directories to the parts so far, which are held in reverse. Repeated ones count once,
except at the start of a pattern. -/
def pushDirectories : List Token → List Token
  | .anyDirectories :: token :: done => .anyDirectories :: token :: done
  | done => .anyDirectories :: done

/-- Reads a pattern from a place on. The parts so far are held in reverse, and `previous` is the
character before the place. -/
def readTokens : (fuel : Nat) → (done : List Token) → (position : Nat) → (previous : Option Char) →
    List Char → Except PatternError (List Token)
  | 0, done, _, _, _ => .ok done.reverse
  | _ + 1, done, _, _, [] => .ok done.reverse
  | fuel + 1, done, position, previous, c :: rest =>
    if c = '?' then readTokens fuel (.anyChar :: done) (position + 1) (some c) rest
    else if c = '*' then
      let stars := (rest.takeWhile (· = '*')).length + 1
      let after := rest.dropWhile (· = '*')
      if 2 < stars then .error ⟨position + 2, .tooManyStars⟩
      else if stars = 2 then
        if position = 0 ∨ previous = some '/' then
          match after with
          | [] => readTokens fuel (pushDirectories done) (position + 2) (some '*') []
          | d :: after =>
            if d = '/' then readTokens fuel (pushDirectories done) (position + 3) (some '/') after
            else .error ⟨position + 2, .partialDirectories⟩
        else .error ⟨position - 1, .partialDirectories⟩
      else readTokens fuel (.anyRun :: done) (position + 1) (some '*') after
    else if c = '[' then
      match readClass? rest with
      | some (token, after) =>
        let width := rest.length - after.length
        readTokens fuel (token :: done) (position + 1 + width) (some ']') after
      | none => .error ⟨position, .badClass⟩
    else readTokens fuel (.char c :: done) (position + 1) (some c) rest

/-- The pattern that a text spells. -/
def Pattern.compile (text : String) : Except PatternError Pattern :=
  match readTokens (text.length + 1) [] 0 none text.toList with
  | .ok tokens => .ok ⟨text, tokens⟩
  | .error error => .error error

/-! ## Matching -/

/-- How the match of the rest of a pattern ends. -/
inductive Outcome where
  | found
  | notHere
  /-- The text is too short, from here and from anywhere further on. -/
  | tooShort
  deriving DecidableEq, Repr

/-- Tries the rest of a pattern behind every character, or behind every slash only. If none fits,
the rest is tried at the end of the text. -/
def sweep (slashOnly : Bool) (rest : List Char → Outcome) : List Char → Outcome
  | [] => rest []
  | c :: text =>
    if slashOnly && c != '/' then sweep slashOnly rest text
    else
      match rest text with
      | .notHere => sweep slashOnly rest text
      | outcome => outcome

/-- Tries the rest of a pattern here and then further on. -/
def search (slashOnly : Bool) (rest : List Char → Outcome) (text : List Char) : Outcome :=
  match rest text with
  | .notHere => sweep slashOnly rest text
  | outcome => outcome

/-- Whether a part that stands for one character stands for a given one. -/
def Token.accepts : Token → Char → Bool
  | .char c, d => c == d
  | .anyChar, _ => true
  | .oneOf ranges, d => ranges.any fun range => range.contains d
  | .noneOf ranges, d => !ranges.any fun range => range.contains d
  | .anyRun, _ => false
  | .anyDirectories, _ => false

/-- Matches the parts of a pattern against the whole of a text. -/
def matchTokens : List Token → List Char → Outcome
  | [], [] => .found
  | [], _ :: _ => .notHere
  | .anyRun :: tokens, text => search false (matchTokens tokens) text
  | .anyDirectories :: tokens, text => search true (matchTokens tokens) text
  | _ :: _, [] => .tooShort
  | token :: tokens, c :: text => if token.accepts c then matchTokens tokens text else .notHere

/-- Whether a pattern matches the whole of a text. -/
def Pattern.isMatch (pattern : Pattern) (text : String) : Bool :=
  matchTokens pattern.tokens text.toList == .found

end TreeLint.Glob
