import TreeLint.Toml.Value

/-!
# Scanning TOML text

The lexical level of a TOML document: blanks, comments, line ends, strings and keys. A scanner
answers what it read and what is left, or nothing if the text is not as it should be.
-/

namespace TreeLint.Toml

/-- Reads something from the front of a text and answers what is left. -/
abbrev Scanner (α : Type) : Type :=
  List Char → Option (α × List Char)

/-- Whether a character is a blank within a line. -/
def isBlank (c : Char) : Bool :=
  c == ' ' || c == '\t'

/-- Drops the blanks at the front. -/
def skipBlanks (text : List Char) : List Char :=
  text.dropWhile isBlank

/-- Whether a character may stand in a comment. -/
def isCommentChar (c : Char) : Bool :=
  c == '\t' || (0x20 ≤ c.toNat && c.toNat ≠ 0x7f)

/-- Drops a comment, if there is one. -/
def skipComment (text : List Char) : List Char :=
  match text with
  | '#' :: rest => rest.dropWhile isCommentChar
  | _ => text

/-- Drops a line end, which has to be there. -/
def lineEnd? (text : List Char) : Option (List Char) :=
  match text with
  | '\n' :: rest => some rest
  | '\r' :: '\n' :: rest => some rest
  | _ => none

/-- Drops blanks, comments and line ends. -/
def skipLines : (fuel : Nat) → List Char → List Char
  | 0, text => text
  | fuel + 1, text =>
    let after := skipBlanks text
    match lineEnd? (skipComment after) with
    | some rest => skipLines fuel rest
    | none => after

/-! ## Strings -/

/-- The number a hexadecimal digit stands for. -/
def hexValue? (c : Char) : Option Nat :=
  if '0' ≤ c ∧ c ≤ '9' then some (c.toNat - '0'.toNat)
  else if 'a' ≤ c ∧ c ≤ 'f' then some (c.toNat - 'a'.toNat + 10)
  else if 'A' ≤ c ∧ c ≤ 'F' then some (c.toNat - 'A'.toNat + 10)
  else none

/-- Reads a character given by a number of hexadecimal digits. -/
def readScalar (digits : Nat) : Scanner Char := fun text => do
  let front := text.take digits
  if front.length < digits then none
  else
    let values ← front.mapM hexValue?
    let n := values.foldl (fun n d => 16 * n + d) 0
    if n.isValidChar then some (Char.ofNat n, text.drop digits) else none

/-- Reads an escape, behind its backslash. -/
def readEscape : Scanner Char := fun text =>
  match text with
  | 'b' :: rest => some ('\x08', rest)
  | 't' :: rest => some ('\t', rest)
  | 'n' :: rest => some ('\n', rest)
  | 'f' :: rest => some ('\x0c', rest)
  | 'r' :: rest => some ('\r', rest)
  | '"' :: rest => some ('"', rest)
  | '\\' :: rest => some ('\\', rest)
  | 'u' :: rest => readScalar 4 rest
  | 'U' :: rest => readScalar 8 rest
  | _ => none

/-- Whether a character may stand in a string as it is. -/
def isStringChar (c : Char) : Bool :=
  c == '\t' || (0x20 ≤ c.toNat && c.toNat ≠ 0x7f)

/-- Reads a string with escapes on one line, behind its opening quote. -/
def readBasic : (fuel : Nat) → (done : List Char) → Scanner String
  | 0, _, _ => none
  | _ + 1, _, [] => none
  | fuel + 1, done, c :: rest =>
    if c = '"' then some (String.ofList done.reverse, rest)
    else if c = '\\' then
      match readEscape rest with
      | some (c, rest) => readBasic fuel (c :: done) rest
      | none => none
    else if isStringChar c then readBasic fuel (c :: done) rest
    else none

/-- Reads a string without escapes on one line, behind its opening quote. -/
def readLiteral : (done : List Char) → Scanner String
  | _, [] => none
  | done, c :: rest =>
    if c = '\x27' then some (String.ofList done.reverse, rest)
    else if isStringChar c then readLiteral (c :: done) rest
    else none

/-- The end of a string over several lines: a run of at least three quotes, of which the last three
close and up to two belong to the string. -/
def closeLong? (quote : Char) (text : List Char) : Option (List Char × List Char) :=
  let run := (text.takeWhile (· = quote)).length
  if 3 ≤ run then
    let kept := min run 5
    some (List.replicate (kept - 3) quote, text.drop kept)
  else none

/-- What follows a backslash at the end of a line: the next character that is neither a blank nor a
line end. -/
def continueLine? (text : List Char) : Option (List Char) :=
  let rec skip : (fuel : Nat) → List Char → List Char
    | 0, text => text
    | fuel + 1, text =>
      match text with
      | c :: rest =>
        if isBlank c then skip fuel rest
        else
          match lineEnd? text with
          | some rest => skip fuel rest
          | none => text
      | [] => text
  (lineEnd? (skipBlanks text)).map fun rest => skip (rest.length + 1) rest

/-- Reads a string with escapes over several lines, behind its opening quotes. -/
def readLongBasic : (fuel : Nat) → (done : List Char) → Scanner String
  | 0, _, _ => none
  | _ + 1, _, [] => none
  | fuel + 1, done, c :: rest =>
    match closeLong? '"' (c :: rest) with
    | some (quotes, rest) => some (String.ofList (done.reverse ++ quotes), rest)
    | none =>
      if c = '\\' then
        match continueLine? rest with
        | some rest => readLongBasic fuel done rest
        | none =>
          match readEscape rest with
          | some (c, rest) => readLongBasic fuel (c :: done) rest
          | none => none
      else
        match lineEnd? (c :: rest) with
        | some rest => readLongBasic fuel ('\n' :: done) rest
        | none => if isStringChar c then readLongBasic fuel (c :: done) rest else none

/-- Reads a string without escapes over several lines, behind its opening quotes. -/
def readLongLiteral : (fuel : Nat) → (done : List Char) → Scanner String
  | 0, _, _ => none
  | _ + 1, _, [] => none
  | fuel + 1, done, c :: rest =>
    match closeLong? '\x27' (c :: rest) with
    | some (quotes, rest) => some (String.ofList (done.reverse ++ quotes), rest)
    | none =>
      match lineEnd? (c :: rest) with
      | some rest => readLongLiteral fuel ('\n' :: done) rest
      | none => if isStringChar c then readLongLiteral fuel (c :: done) rest else none

/-- Drops the line end that may directly follow the opening quotes. -/
def skipFirstLineEnd (text : List Char) : List Char :=
  (lineEnd? text).getD text

/-- Reads a string of any form. -/
def readString : Scanner String := fun text =>
  match text with
  | '"' :: '"' :: '"' :: rest => readLongBasic (rest.length + 1) [] (skipFirstLineEnd rest)
  | '"' :: rest => readBasic (rest.length + 1) [] rest
  | '\x27' :: '\x27' :: '\x27' :: rest =>
    readLongLiteral (rest.length + 1) [] (skipFirstLineEnd rest)
  | '\x27' :: rest => readLiteral [] rest
  | _ => none

/-! ## Keys -/

/-- Whether a character may stand in a key without quotes. -/
def isBareChar (c : Char) : Bool :=
  c.isAlphanum || c == '-' || c == '_'

/-- Reads one part of a key. -/
def readPart : Scanner String := fun text =>
  match text with
  | '"' :: rest => readBasic (rest.length + 1) [] rest
  | '\x27' :: rest => readLiteral [] rest
  | _ =>
    let word := text.takeWhile isBareChar
    if word.isEmpty then none else some (String.ofList word, text.dropWhile isBareChar)

/-- The greatest number of parts of a key, and of containers around a value. -/
def maxDepth : Nat :=
  79

/-- Reads the parts of a key, which points separate. -/
def readParts : (fuel : Nat) → Scanner (List String)
  | 0, _ => none
  | fuel + 1, text =>
    match readPart (skipBlanks text) with
    | none => none
    | some (part, rest) =>
      let rest := skipBlanks rest
      match rest with
      | '.' :: rest =>
        match readParts fuel rest with
        | some (parts, rest) => some (part :: parts, rest)
        | none => none
      | _ => some ([part], rest)

/-- Reads a key and the blanks around it. -/
def readKey : Scanner (List String) :=
  readParts maxDepth

end TreeLint.Toml
