/-!
# Decimal numbers

Natural numbers in decimal digits: the digits of a number, and the number that digits spell.
Reading the digits of a number gives the number back (`value_digits`).
-/

namespace TreeLint.Text.Decimal

/-- The number a digit stands for. -/
def digitValue (c : Char) : Nat :=
  c.toNat - '0'.toNat

/-- The number that a run of digits spells. -/
def value (digits : List Char) : Nat :=
  digits.foldl (fun n c => 10 * n + digitValue c) 0

/-- The digit for a number below ten. -/
def digit (n : Nat) : Char :=
  Char.ofNat ('0'.toNat + n)

/-- The decimal digits of a number, without leading zeros. -/
def digits (n : Nat) : List Char :=
  if n < 10 then [digit n] else digits (n / 10) ++ [digit (n % 10)]
  termination_by n

/-- The decimal text of a number. -/
def text (n : Nat) : String :=
  String.ofList (digits n)

/-- The largest number that fits an unsigned word of 64 bits. -/
def maxWord : Nat :=
  Nat.pow 2 64 - 1

/-- The number that an optional plus sign and a run of digits spell, if it fits a word. -/
def word? (chars : List Char) : Option Nat :=
  let run := match chars with
    | '+' :: rest => rest
    | _ => chars
  if run ≠ [] ∧ run.all Char.isDigit ∧ value run ≤ maxWord then some (value run) else none

theorem digitValue_digit {n : Nat} (h : n < 10) : digitValue (digit n) = n := by
  match n, h with
  | 0, _ | 1, _ | 2, _ | 3, _ | 4, _ | 5, _ | 6, _ | 7, _ | 8, _ | 9, _ => rfl

theorem isDigit_digit {n : Nat} (h : n < 10) : (digit n).isDigit = true := by
  match n, h with
  | 0, _ | 1, _ | 2, _ | 3, _ | 4, _ | 5, _ | 6, _ | 7, _ | 8, _ | 9, _ => rfl

/-- One more digit multiplies by ten and adds the digit. -/
theorem value_snoc (ds : List Char) (c : Char) :
    value (ds ++ [c]) = 10 * value ds + digitValue c := by
  simp [value]

/-- The digits of a number spell the number. -/
@[simp]
theorem value_digits (n : Nat) : value (digits n) = n := by
  fun_induction digits n with
  | case1 n h => simp [value, digitValue_digit h]
  | case2 n h ih =>
    rw [value_snoc, ih, digitValue_digit (Nat.mod_lt _ (by decide))]
    omega

/-- The digits of a number are digits. -/
theorem isDigit_of_mem_digits {n : Nat} {c : Char} (h : c ∈ digits n) : c.isDigit = true := by
  fun_induction digits n with
  | case1 n hn =>
    rw [List.mem_singleton.mp h]
    exact isDigit_digit hn
  | case2 n hn ih =>
    rcases List.mem_append.mp h with h | h
    · exact ih h
    · rw [List.mem_singleton.mp h]
      exact isDigit_digit (Nat.mod_lt _ (by decide))

/-- Every number has at least one digit. -/
theorem digits_ne_nil (n : Nat) : digits n ≠ [] := by
  rw [digits]
  split <;> simp

end TreeLint.Text.Decimal
