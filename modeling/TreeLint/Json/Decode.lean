import TreeLint.Json.Value

/-!
# Typed values from JSON values

The counterpart of the typed readers for values that have been read already. A record is decoded
from an object or from the list of its fields. The members of an object are looked at in the order
of their keys, and the first one that does not fit is reported; only then is a missing one.
-/

namespace TreeLint.Json

/-- Makes something of a value. -/
abbrev Decoder (α : Type) : Type :=
  Value → Except Error α

/-- A string. -/
def decodeText (expected : String) : Decoder String
  | .string value => .ok value
  | value => .error (.invalidType value.found expected)

/-- A truth value. -/
def decodeBool : Decoder Bool
  | .bool value => .ok value
  | value => .error (.invalidType value.found "a boolean")

/-- An unsigned word. -/
def decodeWord : Decoder Nat
  | .number (.natural n) => .ok n
  | .number (.negative n) => .error (.invalidValue (.number (.negative n)) "usize")
  | value => .error (.invalidType value.found "usize")

/-- A value that may be `null`. -/
def decodeOptional {α : Type} (decode : Decoder α) : Decoder (Option α)
  | .null => .ok none
  | value => (decode value).map some

/-- A list. -/
def decodeList {α : Type} (decode : Decoder α) : Decoder (List α)
  | .list items => items.mapM decode
  | value => .error (.invalidType value.found "a sequence")

/-- One of a closed set of names. -/
def decodeName {α : Type} (names : Names α) : Decoder α
  | .string name => names.resolve name
  | .object [(name, value)] => do
    let result ← names.resolve name
    match value with
    | .null => return result
    | value => .error (.invalidType value.found "unit")
  | .object _ => .error (.invalidValue .object "map with a single key")
  | value => .error (.invalidType value.found "string or map")

/-- A field of a record. -/
structure Field where
  name : String
  /-- Whether the value of the field is as it should be. -/
  check : Decoder Unit
  /-- Whether the field may be left out at the end of the list form. -/
  mayEnd : Bool

/-- A field that has to be there. -/
def Field.required {α : Type} (name : String) (decode : Decoder α) : Field :=
  ⟨name, fun value => (decode value).map fun _ => (), false⟩

/-- A field that may be left out. -/
def Field.optional {α : Type} (name : String) (decode : Decoder α) : Field :=
  ⟨name, fun value => (decode value).map fun _ => (), true⟩

/-- Checks one member of an object. Unknown members are left alone. -/
def checkMember (fields : List Field) (member : String × Value) : Except Error Unit :=
  match fields.find? fun field => field.name == member.1 with
  | some field => field.check member.2
  | none => .ok ()

/-- Pairs the items of a list with the fields they belong to. -/
def pairItems (expected : String) :
    (index : Nat) → List Field → List Value → Except Error (List (String × Value))
  | _, [], _ => .ok []
  | index, field :: fields, [] =>
    if field.mayEnd then pairItems expected (index + 1) fields []
    else .error (.invalidLength index expected)
  | index, field :: fields, item :: items => do
    field.check item
    let rest ← pairItems expected (index + 1) fields items
    return (field.name, item) :: rest

/-- The members of a record, each of them checked. -/
def decodeRecord (name : String) (fields : List Field) : Decoder (List (String × Value))
  | .object members => do
    members.forM (checkMember fields)
    return members
  | .list items => do
    let expected := s!"struct {name} with {Text.Decimal.text fields.length} elements"
    let members ← pairItems expected 0 fields items
    if fields.length < items.length then
      .error (.invalidLength items.length "fewer elements in array")
    else return members
  | value => .error (.invalidType value.found s!"struct {name}")

/-- A member that has to be there. -/
def requireMember {α : Type} (members : List (String × Value)) (name : String)
    (decode : Decoder α) : Except Error α :=
  match members.lookup name with
  | some value => decode value
  | none => .error (.missingField name)

/-- A member that may be missing. -/
def memberOr {α : Type} (members : List (String × Value)) (name : String) (default : α)
    (decode : Decoder α) : Except Error α :=
  match members.lookup name with
  | some value => decode value
  | none => .ok default

end TreeLint.Json
