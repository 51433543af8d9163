import TreeLint.Text.Hidden

/-!
# Quoted text

Text shown inside descriptions stands between double quotes. A quote, a backslash and the common
control characters get a short escape. Other characters that would not show, or that would attach
themselves to their neighbour, are written by number.
-/

namespace TreeLint.Text.Quoted

/-- The lower-case hexadecimal digits of a number. -/
def hex (n : Nat) : List Char :=
  Nat.toDigits 16 n

/-- A character inside quotes. -/
def escape (c : Char) : List Char :=
  match c with
  | '"' => ['\\', '"']
  | '\\' => ['\\', '\\']
  | '\n' => ['\\', 'n']
  | '\r' => ['\\', 'r']
  | '\t' => ['\\', 't']
  | '\x00' => ['\\', '0']
  | _ => if isHidden c then ['\\', 'u', '\x7b'] ++ hex c.toNat ++ ['\x7d'] else [c]

/-- A text between double quotes. -/
def quote (text : String) : String :=
  String.ofList ('"' :: (text.toList.flatMap escape ++ ['"']))

end TreeLint.Text.Quoted
