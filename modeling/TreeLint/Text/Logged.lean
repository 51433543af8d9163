import TreeLint.Text.Quoted

/-!
# Text of a log

A log is read on a terminal. The characters with which a text could steer the terminal are written
by number there, and all others as they are.
-/

namespace TreeLint.Text.Logged

/-- The single characters with which a text could steer a terminal. -/
def steering : List Char :=
  ['\x07', '\x08', '\x0c', '\x1b', '\x7f']

/-- A character in a log. -/
def escape (c : Char) : List Char :=
  if c ∈ steering then
    let digits := Quoted.hex c.toNat
    ['\\', 'x'] ++ List.replicate (2 - digits.length) '0' ++ digits
  else if 0x80 ≤ c.toNat ∧ c.toNat ≤ 0x9f then
    ['\\', 'u', '\x7b'] ++ Quoted.hex c.toNat ++ ['\x7d']
  else [c]

/-- A text in a log. -/
def write (text : String) : String :=
  String.ofList (text.toList.flatMap escape)

end TreeLint.Text.Logged
