import TreeLint.Number.Binary64
import TreeLint.Text.Quoted

/-!
# Errors in JSON

Reading JSON fails for one of two reasons: the text is not JSON, or it is not what the reader asked
for. Each cause is a constructor of `Json.Error`, and `Json.Error.message` holds the wording.
-/

namespace TreeLint.Json

/-- A number in a JSON text. -/
inductive Number where
  /-- A whole number from zero up to the largest word of 64 bits. -/
  | natural (n : Nat)
  /-- A whole number below zero, given by its magnitude, that fits a signed word. -/
  | negative (n : Nat)
  | float (value : Binary64)
  deriving DecidableEq, Repr, Inhabited

/-- The value that was found where another one was asked for. -/
inductive Found where
  | null
  | bool (value : Bool)
  | number (value : Number)
  | string (value : String)
  | list
  | object
  deriving DecidableEq, Repr

/-- How a found value is named in a message. -/
def Found.describe : Found → String
  | .null => "null"
  | .bool true => "boolean `true`"
  | .bool false => "boolean `false`"
  | .number (.natural n) => s!"integer `{Text.Decimal.text n}`"
  | .number (.negative n) => s!"integer `-{Text.Decimal.text n}`"
  | .number (.float value) => s!"floating point `{value.text}`"
  | .string value => s!"string {Text.Quoted.quote value}"
  | .list => "sequence"
  | .object => "map"

/-- Why a JSON text, or a value in it, is refused. -/
inductive Error where
  | endInValue
  | endInList
  | endInObject
  | endInString
  | expectedColon
  /-- A list item is followed by neither a comma nor the end. -/
  | expectedListEnd
  /-- An object member is followed by neither a comma nor the end. -/
  | expectedObjectEnd
  | expectedLiteral
  | expectedValue
  /-- A backslash is followed by no known escape. -/
  | invalidEscape
  | invalidNumber
  | numberOutOfRange
  | controlCharacter
  | keyNotString
  /-- One half of a surrogate pair stands alone. -/
  | loneSurrogate
  /-- The first half of a surrogate pair is followed by no second escape. -/
  | endOfHexEscape
  /-- A comma stands before the end of a list or object. -/
  | trailingComma
  | trailingCharacters
  | invalidType (found : Found) (expected : String)
  /-- A value has the right type and is out of range. -/
  | invalidValue (found : Found) (expected : String)
  | invalidLength (length : Nat) (expected : String)
  | unknownVariant (name : String) (known : List String)
  | missingField (name : String)
  | duplicateField (name : String)
  deriving DecidableEq, Repr

/-- How a list of known names is given in a message. -/
def Error.knownNames (known : List String) : String :=
  match known with
  | [] => "there are no variants"
  | [a] => s!"expected `{a}`"
  | [a, b] => s!"expected `{a}` or `{b}`"
  | _ => "expected one of " ++ ", ".intercalate (known.map fun name => s!"`{name}`")

/-- The wording of an error. -/
def Error.message : Error → String
  | .endInValue => "EOF while parsing a value"
  | .endInList => "EOF while parsing a list"
  | .endInObject => "EOF while parsing an object"
  | .endInString => "EOF while parsing a string"
  | .expectedColon => "expected `:`"
  | .expectedListEnd => "expected `,` or `]`"
  | .expectedObjectEnd => "expected `,` or `\x7d`"
  | .expectedLiteral => "expected ident"
  | .expectedValue => "expected value"
  | .invalidEscape => "invalid escape"
  | .invalidNumber => "invalid number"
  | .numberOutOfRange => "number out of range"
  | .controlCharacter => "control character (\\u0000-\\u001F) found while parsing a string"
  | .keyNotString => "key must be a string"
  | .loneSurrogate => "lone leading surrogate in hex escape"
  | .endOfHexEscape => "unexpected end of hex escape"
  | .trailingComma => "trailing comma"
  | .trailingCharacters => "trailing characters"
  | .invalidType found expected => s!"invalid type: {found.describe}, expected {expected}"
  | .invalidValue found expected => s!"invalid value: {found.describe}, expected {expected}"
  | .invalidLength length expected =>
    s!"invalid length {Text.Decimal.text length}, expected {expected}"
  | .unknownVariant name known => s!"unknown variant `{name}`, {Error.knownNames known}"
  | .missingField name => s!"missing field `{name}`"
  | .duplicateField name => s!"duplicate field `{name}`"

end TreeLint.Json
