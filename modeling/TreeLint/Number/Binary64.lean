import TreeLint.Text.Decimal

/-!
# Floating point numbers

The numbers of the 64-bit binary format, kept as exact values: a sign and a magnitude `m * 2 ^ e`
with `m` below `2 ^ 53`. Arithmetic is done exactly on natural numbers and rounded once, to the
nearest value, a tie going to the even one.
-/

namespace TreeLint

/-- A number of the 64-bit binary format. -/
inductive Binary64 where
  /-- The value `mantissa * 2 ^ exponent`, or its negation. -/
  | finite (negative : Bool) (mantissa : Nat) (exponent : Int)
  | infinite (negative : Bool)
  | notANumber
  deriving DecidableEq, Repr, Inhabited

namespace Binary64

/-- The least exponent. -/
def minExponent : Int :=
  -1074

/-- The greatest exponent. -/
def maxExponent : Int :=
  971

/-- The quotient of two numbers rounded to the nearest whole number, a tie going to the even one. -/
def divRound (num den : Nat) : Nat :=
  let q := num / den
  let r := num % den
  if 2 * r < den then q
  else if den < 2 * r then q + 1
  else if q % 2 = 0 then q
  else q + 1

/-- The quotient of two numbers divided by a power of two, as a fraction. -/
def scaled (num den : Nat) (exponent : Int) : Nat × Nat :=
  if exponent < 0 then (num * Nat.pow 2 exponent.natAbs, den) else (num, den * Nat.pow 2 exponent.natAbs)

/-- The value nearest to the fraction `num / den`. -/
def ofRatio (negative : Bool) (num den : Nat) : Binary64 :=
  if num = 0 ∨ den = 0 then .finite negative 0 0
  else
    let guess : Int := max ((num.log2 : Int) - den.log2 - 53) minExponent
    let (n, d) := scaled num den guess
    let exponent := if Nat.pow 2 53 ≤ n / d then guess + 1 else guess
    let (n, d) := scaled num den exponent
    let mantissa := divRound n d
    let (mantissa, exponent) :=
      if mantissa = Nat.pow 2 53 then (Nat.pow 2 52, exponent + 1) else (mantissa, exponent)
    if maxExponent < exponent then .infinite negative
    else .finite negative mantissa exponent

/-- The value nearest to a natural number. -/
def ofNat (n : Nat) : Binary64 :=
  ofRatio false n 1

/-- The value nearest to `significand * 10 ^ exponent`. -/
def ofDecimal (negative : Bool) (significand : Nat) (exponent : Int) : Binary64 :=
  if exponent < 0 then ofRatio negative significand (Nat.pow 10 exponent.natAbs)
  else ofRatio negative (significand * Nat.pow 10 exponent.natAbs) 1

/-- The magnitude of a finite value as a fraction. -/
def magnitude (mantissa : Nat) (exponent : Int) : Nat × Nat :=
  if exponent < 0 then (mantissa, Nat.pow 2 exponent.natAbs) else (mantissa * Nat.pow 2 exponent.natAbs, 1)

/-- The product with a power of ten, the power being rounded first and then the product. -/
def mulPow10 (negative : Bool) (mantissa : Nat) (exponent : Int) (power : Nat) : Binary64 :=
  match ofNat (Nat.pow 10 power) with
  | .finite _ m e =>
    let (n, d) := magnitude mantissa exponent
    let (n', d') := magnitude m e
    ofRatio negative (n * n') (d * d')
  | other => other

/-- The quotient by a power of ten, the power being rounded first and then the quotient. -/
def divPow10 (negative : Bool) (mantissa : Nat) (exponent : Int) (power : Nat) : Binary64 :=
  match ofNat (Nat.pow 10 power) with
  | .finite _ m e =>
    let (n, d) := magnitude mantissa exponent
    let (n', d') := magnitude m e
    ofRatio negative (n * d') (d * n')
  | other => other

/-! ## The shortest decimal text -/

/-- A decimal number: the digits after the first stand behind the point, and the whole is multiplied
by the power of ten. -/
structure Digits where
  /-- The digits, the first one before the point. -/
  digits : List Char
  exponent : Int

/-- The greatest `k` with `10 ^ k` at most the fraction, for a fraction that is not zero. -/
def decimalExponent (num den : Nat) : Int :=
  if den ≤ num then ((Text.Decimal.digits (num / den)).length : Int) - 1
  else
    let rec below : Nat → Nat → Int
      | 0, k => -(k : Int)
      | fuel + 1, k => if den ≤ num * Nat.pow 10 k then -(k : Int) else below fuel (k + 1)
    below 400 1

/-- The best candidate with a number of digits: of the two whole multiples of a power of ten next to
the value, the nearer one that lies between the given ends, a tie going to the even one. All three
are numerators over `den`. -/
def candidate? (low value high den : Nat) (closed : Bool) (grid : Int) : Option Nat :=
  let (up, down) := if grid < 0 then (Nat.pow 10 grid.natAbs, 1) else (1, Nat.pow 10 grid.natAbs)
  -- `k * 10 ^ grid` is `k * down / up`; compare it with `x / den`.
  let unit := den * down
  let k := value * up / unit
  let inside (k : Nat) : Bool :=
    let x := k * unit
    if closed then low * up ≤ x ∧ x ≤ high * up else low * up < x ∧ x < high * up
  let lowDistance := value * up - k * unit
  let highDistance := (k + 1) * unit - value * up
  match inside k, inside (k + 1) with
  | true, true =>
    let up := highDistance < lowDistance ∨ highDistance = lowDistance ∧ k % 2 = 1
    some (if up then k + 1 else k)
  | true, false => some k
  | false, true => some (k + 1)
  | false, false => none

/-- The fewest digits that read back as a finite value that is not zero. -/
def shortest (mantissa : Nat) (exponent : Int) : Digits :=
  let shift := Nat.pow 2 (exponent - 2).toNat
  let den := Nat.pow 2 (2 - exponent).toNat
  let value := 4 * mantissa * shift
  let high := (4 * mantissa + 2) * shift
  let low := (if mantissa = Nat.pow 2 52 ∧ minExponent < exponent then 4 * mantissa - 1
    else 4 * mantissa - 2) * shift
  let top := decimalExponent value den
  let rec search : Nat → Nat → Digits
    | 0, _ => ⟨Text.Decimal.digits mantissa, 0⟩
    | fuel + 1, count =>
      match candidate? low value high den (mantissa % 2 = 0) (top - count + 1) with
      | none => search fuel (count + 1)
      | some k =>
        let ds := Text.Decimal.digits k
        ⟨ds, top + (ds.length : Int) - count⟩
  search 17 1

/-- The digits without the zeros at their end, the first digit being kept. -/
def trimZeros (digits : List Char) : List Char :=
  match (digits.reverse.dropWhile (· = '0')).reverse with
  | [] => ['0']
  | kept => kept

/-- A decimal number as text: with a point between `10 ^ -5` and `10 ^ 16`, otherwise with an
exponent that always has a sign. -/
def Digits.text (d : Digits) : String :=
  let ds := trimZeros d.digits
  if 0 ≤ d.exponent ∧ d.exponent < 16 then
    let whole := d.exponent.toNat + 1
    let front := ds.take whole ++ List.replicate (whole - ds.length) '0'
    let back := ds.drop whole
    String.ofList (front ++ ['.'] ++ (if back.isEmpty then ['0'] else back))
  else if -5 ≤ d.exponent ∧ d.exponent < 0 then
    String.ofList (['0', '.'] ++ List.replicate (d.exponent.natAbs - 1) '0' ++ ds)
  else
    let front := ds.take 1
    let back := ds.drop 1
    let sign := if d.exponent < 0 then '-' else '+'
    String.ofList (front ++ (if back.isEmpty then [] else '.' :: back) ++ ['e', sign]
      ++ Text.Decimal.digits d.exponent.natAbs)

/-- The text of a number: the fewest digits that read back, always with a point or an exponent. -/
def text : Binary64 → String
  | .finite negative mantissa exponent =>
    let body := if mantissa = 0 then "0.0" else (shortest mantissa exponent).text
    if negative then "-" ++ body else body
  | .infinite negative => if negative then "-inf" else "inf"
  | .notANumber => "NaN"

end Binary64

end TreeLint
