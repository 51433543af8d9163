import TreeLint.Toml.Scan

/-!
# Numbers in TOML

Whole numbers in four bases, which have to fit a signed word of 64 bits, and floating point numbers.
An underscore may stand between two digits.
-/

namespace TreeLint.Toml

/-- Reads digits that may have single underscores between them, and answers the digits. -/
def readRun (isDigit : Char → Bool) : (done : List Char) → Scanner (List Char)
  | done, [] => if done.isEmpty then none else some (done.reverse, [])
  | done, c :: rest =>
    if isDigit c then readRun isDigit (c :: done) rest
    else if done.isEmpty then none
    else
      match c, rest with
      | '_', d :: rest' =>
        if isDigit d then readRun isDigit (d :: done) rest' else some (done.reverse, c :: rest)
      | _, _ => some (done.reverse, c :: rest)

/-- Reads an optional sign, and answers whether it is a minus. -/
def readSign (text : List Char) : Bool × List Char :=
  match text with
  | '+' :: rest => (false, rest)
  | '-' :: rest => (true, rest)
  | _ => (false, text)

/-- Reads the digits of a decimal number, which does not start with a zero unless it is zero. -/
def readDecimal : Scanner (List Char) := fun text =>
  match text with
  | '0' :: rest => some (['0'], rest)
  | _ => readRun Char.isDigit [] text

/-- The number that digits of a base spell. -/
def valueIn (base : Nat) (digits : List Char) : Nat :=
  digits.foldl (fun n c => base * n + (hexValue? c).getD 0) 0

/-- Reads a whole number in a base, behind its mark. -/
def readBase (base : Nat) (isDigit : Char → Bool) : Scanner Value := fun text => do
  let (digits, rest) ← readRun isDigit [] text
  let n := valueIn base digits
  if n < Nat.pow 2 63 then some (.integer n, rest) else none

/-- Reads a whole number. -/
def readInteger : Scanner Value := fun text =>
  match text with
  | '0' :: 'x' :: rest => readBase 16 (fun c => (hexValue? c).isSome) rest
  | '0' :: 'o' :: rest => readBase 8 (fun c => '0' ≤ c ∧ c ≤ '7') rest
  | '0' :: 'b' :: rest => readBase 2 (fun c => c = '0' ∨ c = '1') rest
  | _ => do
    let (negative, rest) := readSign text
    let (digits, rest) ← readDecimal rest
    let n : Int := Text.Decimal.value digits
    let value := if negative then -n else n
    if -Int.ofNat (Nat.pow 2 63) ≤ value ∧ value < Int.ofNat (Nat.pow 2 63) then some (.integer value, rest) else none

/-- Reads the digits behind a point. -/
def readFraction : Scanner (List Char) := fun text =>
  match text with
  | '.' :: rest => readRun Char.isDigit [] rest
  | _ => none

/-- Reads an exponent. -/
def readExponent : Scanner Int := fun text =>
  match text with
  | c :: rest =>
    if c = 'e' ∨ c = 'E' then do
      let (negative, rest) := readSign rest
      let (digits, rest) ← readRun Char.isDigit [] rest
      let n : Int := Text.Decimal.value digits
      some (if negative then -n else n, rest)
    else none
  | [] => none

/-- The floating point number nearest to a decimal one. Exponents that are out of all proportion are
not computed with. -/
def floatOf (negative : Bool) (whole fraction : List Char) (exponent : Int) : Binary64 :=
  let significand := Text.Decimal.value (whole ++ fraction)
  let exponent := exponent - fraction.length
  let size : Int := exponent + (whole ++ fraction).length
  if significand = 0 ∨ size < -400 then .finite negative 0 0
  else if 400 + ((whole ++ fraction).length : Int) < size then .infinite negative
  else .ofDecimal negative significand exponent

/-- Reads a floating point number. One that is too large is refused. -/
def readFloat : Scanner Value := fun text =>
  let (negative, rest) := readSign text
  match rest with
  | 'i' :: 'n' :: 'f' :: rest => some (.float (.infinite negative), rest)
  | 'n' :: 'a' :: 'n' :: rest => some (.float .notANumber, rest)
  | _ => do
    let (whole, rest) ← readDecimal rest
    let (fraction, exponent, rest) ←
      match readExponent rest with
      | some (exponent, rest) => some ([], exponent, rest)
      | none =>
        match readFraction rest with
        | none => none
        | some (fraction, rest) =>
          match readExponent rest with
          | some (exponent, rest) => some (fraction, exponent, rest)
          | none => some (fraction, 0, rest)
    match floatOf negative whole fraction exponent with
    | .infinite false => none
    | value => some (.float value, rest)

end TreeLint.Toml
