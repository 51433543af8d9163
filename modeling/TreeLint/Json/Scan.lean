import TreeLint.Json.Error

/-!
# Scanning JSON text

The lexical level of a JSON text: blanks, literals, strings and numbers. Every scanner takes the
text that is left and answers what it read together with what is left after it. The first error
ends the reading.
-/

namespace TreeLint.Json

/-- Whether a character is a blank between tokens. -/
def isBlank (c : Char) : Bool :=
  c == ' ' || c == '\n' || c == '\t' || c == '\r'

/-- Drops the blanks at the front. -/
def skipBlanks (text : List Char) : List Char :=
  text.dropWhile isBlank

/-- Reads the remaining characters of a literal. -/
def readLiteral : (rest : List Char) → (text : List Char) → Except Error (List Char)
  | [], text => .ok text
  | _ :: _, [] => .error .endInValue
  | w :: rest, c :: text => if w = c then readLiteral rest text else .error .expectedLiteral

/-! ## Strings -/

/-- The number a hexadecimal digit stands for. -/
def hexValue? (c : Char) : Option Nat :=
  if '0' ≤ c ∧ c ≤ '9' then some (c.toNat - '0'.toNat)
  else if 'a' ≤ c ∧ c ≤ 'f' then some (c.toNat - 'a'.toNat + 10)
  else if 'A' ≤ c ∧ c ≤ 'F' then some (c.toNat - 'A'.toNat + 10)
  else none

/-- Whether a text has at least four bytes. -/
def hasFourBytes (text : List Char) : Bool :=
  4 ≤ ((text.take 4).map Char.utf8Size).foldl (· + ·) 0

/-- Reads the four hexadecimal digits of an escape. -/
def readHex (text : List Char) : Except Error (Nat × List Char) :=
  match text with
  | a :: b :: c :: d :: rest =>
    match hexValue? a, hexValue? b, hexValue? c, hexValue? d with
    | some a, some b, some c, some d => .ok (((a * 16 + b) * 16 + c) * 16 + d, rest)
    | _, _, _, _ => .error .invalidEscape
  | _ => .error (if hasFourBytes text then .invalidEscape else .endInString)

/-- Whether a unit is the first half of a surrogate pair. -/
def isLeading (unit : Nat) : Bool :=
  0xD800 ≤ unit ∧ unit ≤ 0xDBFF

/-- Whether a unit is the second half of a surrogate pair. -/
def isTrailing (unit : Nat) : Bool :=
  0xDC00 ≤ unit ∧ unit ≤ 0xDFFF

/-- The character of a surrogate pair. -/
def joinSurrogates (leading trailing : Nat) : Char :=
  Char.ofNat (0x10000 + (leading - 0xD800) * 0x400 + (trailing - 0xDC00))

/-- Reads the rest of a numeric escape, behind its `u`. -/
def readUnicode (text : List Char) : Except Error (Char × List Char) := do
  let (unit, rest) ← readHex text
  if isTrailing unit then .error .loneSurrogate
  else if isLeading unit then
    match rest with
    | [] => .error .endInString
    | '\\' :: [] => .error .endInString
    | '\\' :: 'u' :: rest => do
      let (unit', rest) ← readHex rest
      if isTrailing unit' then .ok (joinSurrogates unit unit', rest) else .error .loneSurrogate
    | _ => .error .endOfHexEscape
  else .ok (Char.ofNat unit, rest)

/-- Reads an escape, behind its backslash. -/
def readEscape (text : List Char) : Except Error (Char × List Char) :=
  match text with
  | [] => .error .endInString
  | '"' :: rest => .ok ('"', rest)
  | '\\' :: rest => .ok ('\\', rest)
  | '/' :: rest => .ok ('/', rest)
  | 'b' :: rest => .ok ('\x08', rest)
  | 'f' :: rest => .ok ('\x0c', rest)
  | 'n' :: rest => .ok ('\n', rest)
  | 'r' :: rest => .ok ('\r', rest)
  | 't' :: rest => .ok ('\t', rest)
  | 'u' :: rest => readUnicode rest
  | _ => .error .invalidEscape

/-- Reads the characters of a string up to its closing quote. The characters read so far are held
in reverse. The clock is a list no shorter than the text; every step takes one item off it and at
least one character off the text. -/
def readChars : (clock done text : List Char) → Except Error (List Char × List Char)
  | [], _, _ => .error .endInString
  | _ :: _, _, [] => .error .endInString
  | _ :: clock, done, c :: rest =>
    if c = '"' then .ok (done.reverse, rest)
    else if c = '\\' then
      match readEscape rest with
      | .ok (c, rest) => readChars clock (c :: done) rest
      | .error e => .error e
    else if c.toNat < 0x20 then .error .controlCharacter
    else readChars clock (c :: done) rest

/-- Reads a string, behind its opening quote. -/
def readString (text : List Char) : Except Error (String × List Char) :=
  match readChars text [] text with
  | .ok (chars, rest) => .ok (String.ofList chars, rest)
  | .error e => .error e

/-- Skips an escape, behind its backslash. The digits of a numeric escape are checked and not what
they stand for. -/
def skipEscape (text : List Char) : Except Error (List Char) :=
  match text with
  | [] => .error .endInString
  | 'u' :: rest =>
    match readHex rest with
    | .ok (_, rest) => .ok rest
    | .error e => .error e
  | c :: rest =>
    if ['"', '\\', '/', 'b', 'f', 'n', 'r', 't'].contains c then .ok rest else .error .invalidEscape

/-- Skips the characters of a string up to its closing quote. The clock is a list no shorter than
the text. -/
def skipChars : (clock text : List Char) → Except Error (List Char)
  | [], _ => .error .endInString
  | _ :: _, [] => .error .endInString
  | _ :: clock, c :: rest =>
    if c = '"' then .ok rest
    else if c = '\\' then
      match skipEscape rest with
      | .ok rest => skipChars clock rest
      | .error e => .error e
    else if c.toNat < 0x20 then .error .controlCharacter
    else skipChars clock rest

/-- Skips a string, behind its opening quote. -/
def skipString (text : List Char) : Except Error (List Char) :=
  skipChars text text

/-! ## Numbers -/

/-- A number as it is spelt. -/
structure Literal where
  whole : List Char
  /-- The digits behind the point, if there is one. -/
  fraction : Option (List Char)
  /-- The sign (true if negative) and the digits of the exponent, if there is one. -/
  exponent : Option (Bool × List Char)

/-- Reads the digits before the point: a lone zero, or digits that do not start with one. -/
def readWhole (atEnd : Error) (text : List Char) : Except Error (List Char × List Char) :=
  match text with
  | [] => .error atEnd
  | '0' :: rest =>
    match rest with
    | d :: _ => if d.isDigit then .error .invalidNumber else .ok (['0'], rest)
    | [] => .ok (['0'], rest)
  | c :: _ =>
    if c.isDigit then .ok (text.takeWhile Char.isDigit, text.dropWhile Char.isDigit)
    else .error .invalidNumber

/-- Reads a run of digits that may not be empty. -/
def readDigits (atEnd : Error) (text : List Char) : Except Error (List Char × List Char) :=
  match text with
  | [] => .error atEnd
  | c :: _ =>
    if c.isDigit then .ok (text.takeWhile Char.isDigit, text.dropWhile Char.isDigit)
    else .error .invalidNumber

/-- Reads the digits behind the point, if there is one. -/
def readFraction (atEnd : Error) (text : List Char) :
    Except Error (Option (List Char) × List Char) :=
  match text with
  | '.' :: rest =>
    match readDigits atEnd rest with
    | .ok (digits, rest) => .ok (some digits, rest)
    | .error e => .error e
  | _ => .ok (none, text)

/-- Reads an exponent, if there is one. -/
def readExponent (atEnd : Error) (text : List Char) :
    Except Error (Option (Bool × List Char) × List Char) :=
  match text with
  | c :: rest =>
    if c = 'e' ∨ c = 'E' then
      let (negative, rest) := match rest with
        | '+' :: rest => (false, rest)
        | '-' :: rest => (true, rest)
        | _ => (false, rest)
      match readDigits atEnd rest with
      | .ok (digits, rest) => .ok (some (negative, digits), rest)
      | .error e => .error e
    else .ok (none, text)
  | [] => .ok (none, text)

/-- Reads a number without its sign. A text that ends inside it gives the error `atEnd`. -/
def readSpelling (atEnd : Error) (text : List Char) : Except Error (Literal × List Char) := do
  let (whole, rest) ← readWhole atEnd text
  let (fraction, rest) ← readFraction atEnd rest
  let (exponent, rest) ← readExponent atEnd rest
  return (⟨whole, fraction, exponent⟩, rest)

/-- The significand of a number and the power of ten that goes with it. Digits count as long as the
significand fits a word; after that, digits before the point only raise the power. -/
def significand (whole fraction : List Char) : Nat × Int :=
  let fits (n : Nat) (c : Char) : Bool := 10 * n + Text.Decimal.digitValue c ≤ Text.Decimal.maxWord
  let rec front : Nat → List Char → Nat × Int
    | n, [] => (n, 0)
    | n, c :: rest =>
      if fits n c then front (10 * n + Text.Decimal.digitValue c) rest
      else (n, ((rest.length + 1 : Nat) : Int))
  let rec back : Nat → Int → List Char → Nat × Int
    | n, power, [] => (n, power)
    | n, power, c :: rest =>
      if fits n c then back (10 * n + Text.Decimal.digitValue c) (power - 1) rest else (n, power)
  let (n, power) := front 0 whole
  back n power fraction

/-- The floating point value of a significand and a power of ten: the significand is rounded, then
the product or quotient with the rounded power. A power beyond the finite ones divides in two steps,
after which nothing is left of any smaller value. A value beyond all finite ones is refused. -/
def floatOfParts (negative : Bool) (n : Nat) (power : Int) : Except Error Binary64 :=
  if n = 0 then .ok (.finite negative 0 0)
  else if 308 < power then .error .numberOutOfRange
  else
    match Binary64.ofNat n with
    | .finite _ m e =>
      let result :=
        if 0 ≤ power then Binary64.mulPow10 negative m e power.toNat
        else if -308 ≤ power then Binary64.divPow10 negative m e power.natAbs
        else if -616 ≤ power then
          match Binary64.divPow10 negative m e 308 with
          | .finite _ m e => Binary64.divPow10 negative m e (power.natAbs - 308)
          | other => other
        else .finite negative 0 0
      match result with
      | .infinite _ => .error .numberOutOfRange
      | _ => .ok result
    | _ => .error .numberOutOfRange

/-- The number that a spelling denotes. Whole numbers that fit a word stay whole; negative zero and
all else are floating point. -/
def Literal.number (spelling : Literal) (negative : Bool) : Except Error Number :=
  match spelling.fraction, spelling.exponent with
  | none, none =>
    let n := Text.Decimal.value spelling.whole
    if negative then
      if 0 < n ∧ n ≤ Nat.pow 2 63 then .ok (.negative n)
      else
        let (n, power) := significand spelling.whole []
        (floatOfParts true n power).map .float
    else if n ≤ Text.Decimal.maxWord then .ok (.natural n)
    else
      let (n, power) := significand spelling.whole []
      (floatOfParts false n power).map .float
  | fraction, exponent =>
    let (n, power) := significand spelling.whole (fraction.getD [])
    match exponent with
    | none => (floatOfParts negative n power).map .float
    | some (negativeExponent, digits) =>
      let shift := Text.Decimal.value digits
      if negativeExponent then (floatOfParts negative n (power - shift)).map .float
      else (floatOfParts negative n (power + shift)).map .float

/-- Reads a number without its sign and takes its value. -/
def readNumber (negative : Bool) (text : List Char) : Except Error (Number × List Char) := do
  let (spelling, rest) ← readSpelling .endInValue text
  let number ← spelling.number negative
  return (number, rest)

/-! ## Values of the wrong type -/

/-- The error for a value that is not of the expected type. The value itself is read as far as it
takes to name it, so a misspelt value is reported as such. -/
def wrongType (expected : String) (text : List Char) : Error :=
  match text with
  | 'n' :: rest =>
    match readLiteral ['u', 'l', 'l'] rest with
    | .ok _ => .invalidType .null expected
    | .error e => e
  | 't' :: rest =>
    match readLiteral ['r', 'u', 'e'] rest with
    | .ok _ => .invalidType (.bool true) expected
    | .error e => e
  | 'f' :: rest =>
    match readLiteral ['a', 'l', 's', 'e'] rest with
    | .ok _ => .invalidType (.bool false) expected
    | .error e => e
  | '"' :: rest =>
    match readString rest with
    | .ok (value, _) => .invalidType (.string value) expected
    | .error e => e
  | '[' :: _ => .invalidType .list expected
  | '\x7b' :: _ => .invalidType .object expected
  | '-' :: rest =>
    match readNumber true rest with
    | .ok (number, _) => .invalidType (.number number) expected
    | .error e => e
  | c :: _ =>
    if c.isDigit then
      match readNumber false text with
      | .ok (number, _) => .invalidType (.number number) expected
      | .error e => e
    else .expectedValue
  | [] => .endInValue

end TreeLint.Json
