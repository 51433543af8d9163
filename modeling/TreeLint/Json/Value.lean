import TreeLint.Json.Reader

/-!
# JSON values

A JSON value as a tree, its two written forms (on one line, and indented by two blanks a level), and
its reader. The members of an object are held in the order of their keys; of members with one key,
the last counts.
-/

namespace TreeLint.Json

/-- A JSON value. -/
inductive Value where
  | null
  | bool (value : Bool)
  | number (value : Number)
  | string (value : String)
  | list (items : List Value)
  | object (members : List (String × Value))
  deriving Inhabited, Repr

/-! ## Writing -/

/-- A hexadecimal digit, in lower case. -/
def hexDigit (n : Nat) : Char :=
  if n < 10 then Char.ofNat ('0'.toNat + n) else Char.ofNat ('a'.toNat + (n - 10))

/-- A character inside a string: quotes, backslashes and controls are escaped, all else stands. -/
def escapeChar (c : Char) : List Char :=
  if c = '"' then ['\\', '"']
  else if c = '\\' then ['\\', '\\']
  else if c = '\x08' then ['\\', 'b']
  else if c = '\x0c' then ['\\', 'f']
  else if c = '\n' then ['\\', 'n']
  else if c = '\r' then ['\\', 'r']
  else if c = '\t' then ['\\', 't']
  else if c.toNat < 0x20 then
    ['\\', 'u', '0', '0', hexDigit (c.toNat / 16), hexDigit (c.toNat % 16)]
  else [c]

/-- A string between quotes. -/
def writeString (text : String) : List Char :=
  '"' :: (text.toList.flatMap escapeChar ++ ['"'])

/-- A number. What is no finite value has no number and is written as `null`. -/
def writeNumber : Number → List Char
  | .natural n => Text.Decimal.digits n
  | .negative n => '-' :: Text.Decimal.digits n
  | .float (.finite negative mantissa exponent) =>
    (Binary64.finite negative mantissa exponent).text.toList
  | .float _ => ['n', 'u', 'l', 'l']

/-- A truth value. -/
def writeBool : Bool → List Char
  | true => ['t', 'r', 'u', 'e']
  | false => ['f', 'a', 'l', 's', 'e']

mutual

/-- A value on one line, without blanks. -/
def Value.write : Value → List Char
  | .null => ['n', 'u', 'l', 'l']
  | .bool value => writeBool value
  | .number value => writeNumber value
  | .string value => writeString value
  | .list items => '[' :: (Value.writeItems items ++ [']'])
  | .object members => '\x7b' :: (Value.writeMembers members ++ ['\x7d'])

/-- Items with commas between them. -/
def Value.writeItems : List Value → List Char
  | [] => []
  | [item] => item.write
  | item :: rest => item.write ++ ',' :: Value.writeItems rest

/-- Members with commas between them. -/
def Value.writeMembers : List (String × Value) → List Char
  | [] => []
  | [(key, value)] => writeString key ++ ':' :: value.write
  | (key, value) :: rest =>
    writeString key ++ ':' :: (value.write ++ ',' :: Value.writeMembers rest)

end

/-- A new line indented by a number of levels. -/
def newline (level : Nat) : List Char :=
  '\n' :: List.replicate (2 * level) ' '

mutual

/-- A value over several lines, the containers being indented. -/
def Value.writePretty (level : Nat) : Value → List Char
  | .list [] => ['[', ']']
  | .object [] => ['\x7b', '\x7d']
  | .list (item :: rest) =>
    '[' :: (Value.writePrettyItems (level + 1) (item :: rest) ++ newline level ++ [']'])
  | .object (member :: rest) =>
    '\x7b' :: (Value.writePrettyMembers (level + 1) (member :: rest) ++ newline level ++ ['\x7d'])
  | .null => ['n', 'u', 'l', 'l']
  | .bool value => writeBool value
  | .number value => writeNumber value
  | .string value => writeString value

/-- Items on lines of their own. -/
def Value.writePrettyItems (level : Nat) : List Value → List Char
  | [] => []
  | [item] => newline level ++ item.writePretty level
  | item :: rest =>
    newline level ++ (item.writePretty level ++ ',' :: Value.writePrettyItems level rest)

/-- Members on lines of their own. -/
def Value.writePrettyMembers (level : Nat) : List (String × Value) → List Char
  | [] => []
  | [(key, value)] => newline level ++ (writeString key ++ ':' :: ' ' :: value.writePretty level)
  | (key, value) :: rest =>
    newline level ++ (writeString key ++ ':' :: ' ' :: (value.writePretty level
      ++ ',' :: Value.writePrettyMembers level rest))

end

/-- The text of a value on one line. -/
def Value.compact (value : Value) : String :=
  String.ofList value.write

/-- The text of a value over several lines. -/
def Value.pretty (value : Value) : String :=
  String.ofList (value.writePretty 0)

/-! ## Reading -/

/-- Puts a member at the place of its key, over one with the same key. -/
def insertMember (key : String) (value : Value) : List (String × Value) → List (String × Value)
  | [] => [(key, value)]
  | (k, v) :: rest =>
    if key < k then (key, value) :: (k, v) :: rest
    else if key = k then (key, value) :: rest
    else (k, v) :: insertMember key value rest

/-- Reads a value whose nesting is no deeper than the fuel. -/
def readNested : (fuel : Nat) → Reader Value
  | 0, _ => .error .endInValue
  | fuel + 1, text =>
    match skipBlanks text with
    | 'n' :: rest => (readLiteral ['u', 'l', 'l'] rest).map fun rest => (.null, rest)
    | 't' :: rest => (readLiteral ['r', 'u', 'e'] rest).map fun rest => (.bool true, rest)
    | 'f' :: rest => (readLiteral ['a', 'l', 's', 'e'] rest).map fun rest => (.bool false, rest)
    | '"' :: rest => (readString rest).map fun (value, rest) => (.string value, rest)
    | '[' :: rest =>
      (readItems (readNested fuel) rest true [] rest).map
        fun (items, rest) => (.list items, rest)
    | '\x7b' :: rest =>
      let member (members : List (String × Value)) (key : String) :
          Reader (List (String × Value)) := fun text => do
        let rest ← readColon text
        let (value, rest) ← readNested fuel rest
        return (insertMember key value members, rest)
      (readMembers member rest true [] rest).map
        fun (members, rest) => (.object members, rest)
    | '-' :: rest => (readNumber true rest).map fun (value, rest) => (.number value, rest)
    | c :: rest =>
      if c.isDigit then
        (readNumber false (c :: rest)).map fun (value, rest) => (.number value, rest)
      else .error .expectedValue
    | [] => .error .endInValue

/-- Reads a value. -/
def readValue : Reader Value := fun text =>
  readNested (text.length + 1) text

/-- The value that a text holds. -/
def Value.parse (text : String) : Except Error Value :=
  readAll readValue text

/-! ## Access -/

/-- The member of an object with a key. -/
def Value.get? (value : Value) (key : String) : Option Value :=
  match value with
  | .object members => members.lookup key
  | _ => none

/-- What a value is called when it is not of the expected type. -/
def Value.found : Value → Found
  | .null => .null
  | .bool value => .bool value
  | .number value => .number value
  | .string value => .string value
  | .list _ => .list
  | .object _ => .object

end TreeLint.Json
