import TreeLint.Json.Scan

/-!
# Skipping JSON values

A member that nobody asked for is skipped. It has to be valid JSON all the same. Nesting is held in
a list of open containers, so it may be as deep as the text is long.
-/

namespace TreeLint.Json

/-- A container that is open while a value is skipped. -/
inductive Frame where
  | list
  | object
  deriving DecidableEq

namespace Frame

/-- The character that closes a container. -/
def closing : Frame → Char
  | .list => ']'
  | .object => '\x7d'

/-- The error for a text that ends inside a container. -/
def atEnd : Frame → Error
  | .list => .endInList
  | .object => .endInObject

/-- The error for an item that is followed by neither a comma nor the end. -/
def expectedEnd : Frame → Error
  | .list => .expectedListEnd
  | .object => .expectedObjectEnd

end Frame

/-- What the skipping of a value has come past just before. -/
inductive SkipPoint where
  | opened
  | closed

/-- Skips the key of a member and its colon. -/
def skipKey (text : List Char) : Except Error (List Char) :=
  match skipBlanks text with
  | '"' :: rest =>
    match skipString rest with
    | .error e => .error e
    | .ok rest =>
      match skipBlanks rest with
      | ':' :: rest => .ok rest
      | _ :: _ => .error .expectedColon
      | [] => .error .endInObject
  | _ :: _ => .error .keyNotString
  | [] => .error .endInObject

/-- Moves to the value of the next item of a container. -/
def Frame.enter (frame : Frame) (text : List Char) : Except Error (List Char) :=
  match frame with
  | .list => .ok text
  | .object => skipKey text

/-- Skips a value that is neither a list nor an object. -/
def skipScalar (text : List Char) : Except Error (List Char) :=
  match text with
  | 'n' :: rest => readLiteral ['u', 'l', 'l'] rest
  | 't' :: rest => readLiteral ['r', 'u', 'e'] rest
  | 'f' :: rest => readLiteral ['a', 'l', 's', 'e'] rest
  | '"' :: rest => skipString rest
  | '-' :: rest => (readSpelling .invalidNumber rest).map Prod.snd
  | c :: _ =>
    if c.isDigit then (readSpelling .invalidNumber text).map Prod.snd else .error .expectedValue
  | [] => .error .endInValue

/-- How far the skipping of a value has come. -/
structure SkipState where
  point : SkipPoint
  frames : List Frame
  text : List Char

/-- Skips the start of a value: an opening bracket, or else all of it. -/
def skipStart (frames : List Frame) (text : List Char) : Except Error SkipState :=
  match skipBlanks text with
  | '[' :: rest => .ok ⟨.opened, .list :: frames, rest⟩
  | '\x7b' :: rest => .ok ⟨.opened, .object :: frames, rest⟩
  | text => (skipScalar text).map fun rest => ⟨.closed, frames, rest⟩

/-- Skips up to the start of the next item of a container, and that start. -/
def skipItem (frame : Frame) (outer : List Frame) (text : List Char) : Except Error SkipState :=
  match frame.enter text with
  | .ok rest => skipStart (frame :: outer) rest
  | .error e => .error e

/-- Skips the next piece inside a container. -/
def skipPiece (point : SkipPoint) (frame : Frame) (outer : List Frame) (text : List Char) :
    Except Error SkipState :=
  match skipBlanks text with
  | [] => .error frame.atEnd
  | c :: rest =>
    if c = frame.closing then .ok ⟨.closed, outer, rest⟩
    else
      match point with
      | .opened => skipItem frame outer (c :: rest)
      | .closed => if c = ',' then skipItem frame outer rest else .error frame.expectedEnd

/-- Skips up to the end of the outermost open container. The clock is a list longer than the text;
every step takes one item off it and at least one character off the text. -/
def skipFrom : (clock : List Char) → SkipState → Except Error (List Char)
  | [], _ => .error .endInValue
  | _ :: clock, state =>
    match state.point, state.frames with
    | _, [] => .ok state.text
    | point, frame :: outer =>
      match skipPiece point frame outer state.text with
      | .ok state => skipFrom clock state
      | .error e => .error e

/-- Skips one value. -/
def skipValue (text : List Char) : Except Error (List Char) :=
  match skipStart [] text with
  | .ok state => skipFrom (' ' :: state.text) state
  | .error e => .error e

end TreeLint.Json
