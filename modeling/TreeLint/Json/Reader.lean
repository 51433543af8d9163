import TreeLint.Json.Skip

/-!
# Reading typed values from JSON text

Readers take what they want straight from the text, without an intermediate value, and stop at the
first error. A record may be written as an object, whose members come in any order, or as the list
of its fields. A name from a closed set may be written as a string, or as an object with that name
as its only key and `null` as its value.
-/

namespace TreeLint.Json

/-- Reads a value from the front of a text and answers what is left. -/
abbrev Reader (α : Type) : Type :=
  List Char → Except Error (α × List Char)

/-- Reads an unsigned word. -/
def readWord : Reader Nat := fun text =>
  let accept (found : Number × List Char) : Except Error (Nat × List Char) :=
    match found with
    | (.natural n, rest) => .ok (n, rest)
    | (.negative n, _) => .error (.invalidValue (.number (.negative n)) "usize")
    | (.float value, _) => .error (.invalidType (.number (.float value)) "usize")
  match skipBlanks text with
  | '-' :: rest => readNumber true rest >>= accept
  | c :: rest =>
    if c.isDigit then readNumber false (c :: rest) >>= accept
    else .error (wrongType "usize" (c :: rest))
  | [] => .error .endInValue

/-- Reads a string. -/
def readText (expected : String) : Reader String := fun text =>
  match skipBlanks text with
  | '"' :: rest => readString rest
  | text => .error (wrongType expected text)

/-- Reads a value that may be `null`. -/
def readOptional {α : Type} (value : Reader α) : Reader (Option α) := fun text =>
  match skipBlanks text with
  | 'n' :: rest =>
    match readLiteral ['u', 'l', 'l'] rest with
    | .ok rest => .ok (none, rest)
    | .error e => .error e
  | text =>
    match value text with
    | .ok (x, rest) => .ok (some x, rest)
    | .error e => .error e

/-- Reads the colon between a key and its value. -/
def readColon (text : List Char) : Except Error (List Char) :=
  match skipBlanks text with
  | ':' :: rest => .ok rest
  | _ :: _ => .error .expectedColon
  | [] => .error .endInObject

/-- Reads the `null` that goes with a name written as a key. -/
def readUnit (text : List Char) : Except Error (List Char) :=
  match skipBlanks text with
  | 'n' :: rest => readLiteral ['u', 'l', 'l'] rest
  | text => .error (wrongType "unit" text)

/-- A closed set of names, each with the value it stands for. -/
structure Names (α : Type) where
  known : List String
  ofName? : String → Option α

/-- The value of a name. -/
def Names.resolve {α : Type} (names : Names α) (name : String) : Except Error α :=
  match names.ofName? name with
  | some value => .ok value
  | none => .error (.unknownVariant name names.known)

/-- Reads the name that is the only key of an object. -/
def readNameKey : Reader String := fun text =>
  match skipBlanks text with
  | '"' :: rest => readString rest
  | '\x7d' :: _ => .error .expectedValue
  | _ :: _ => .error .keyNotString
  | [] => .error .endInObject

/-- Reads one of a closed set of names. -/
def readName {α : Type} (names : Names α) : Reader α := fun text =>
  match skipBlanks text with
  | '"' :: rest => do
    let (name, rest) ← readString rest
    let value ← names.resolve name
    return (value, rest)
  | '\x7b' :: rest => do
    let (name, rest) ← readNameKey rest
    let value ← names.resolve name
    let rest ← readColon rest
    let rest ← readUnit rest
    match skipBlanks rest with
    | '\x7d' :: rest => return (value, rest)
    | _ :: _ => .error .expectedValue
    | [] => .error .endInObject
  | _ :: _ => .error .expectedValue
  | [] => .error .endInValue

/-! ## Lists -/

/-- Moves to the next item of a list, if there is one. -/
def nextItem (first : Bool) (text : List Char) : Except Error (Option (List Char)) :=
  match skipBlanks text with
  | [] => .error .endInList
  | c :: rest =>
    if c = ']' then .ok none
    else if first then .ok (some (c :: rest))
    else if c = ',' then
      match skipBlanks rest with
      | ']' :: _ => .error .trailingComma
      | [] => .error .endInValue
      | rest => .ok (some rest)
    else .error .expectedListEnd

/-- Reads the end of a list that is known to be complete. -/
def endList (text : List Char) : Except Error (List Char) :=
  match skipBlanks text with
  | ']' :: rest => .ok rest
  | ',' :: rest =>
    match skipBlanks rest with
    | ']' :: _ => .error .trailingComma
    | _ => .error .trailingCharacters
  | _ :: _ => .error .trailingCharacters
  | [] => .error .endInList

/-- Reads items up to the end of a list. The items read so far are held in reverse. The clock is a
list no shorter than the text; every step takes one item off it and at least one character off the
text. -/
def readItems {α : Type} (item : Reader α) :
    (clock : List Char) → (first : Bool) → (done : List α) → Reader (List α)
  | [], _, _, _ => .error .endInList
  | _ :: clock, first, done, text =>
    match nextItem first text with
    | .error e => .error e
    | .ok none =>
      match endList text with
      | .ok rest => .ok (done.reverse, rest)
      | .error e => .error e
    | .ok (some text) =>
      match item text with
      | .ok (x, rest) => readItems item clock false (x :: done) rest
      | .error e => .error e

/-- Reads a list. -/
def readList {α : Type} (item : Reader α) : Reader (List α) := fun text =>
  match skipBlanks text with
  | '[' :: rest => readItems item rest true [] rest
  | text => .error (wrongType "a sequence" text)

/-! ## Records -/

/-- Moves to the next key of an object, behind its opening quote, if there is one. -/
def nextKey (first : Bool) (text : List Char) : Except Error (Option (List Char)) :=
  match skipBlanks text with
  | [] => .error .endInObject
  | c :: rest =>
    if c = '\x7d' then .ok none
    else if first then
      if c = '"' then .ok (some rest) else .error .keyNotString
    else if c = ',' then
      match skipBlanks rest with
      | '"' :: rest => .ok (some rest)
      | '\x7d' :: _ => .error .trailingComma
      | _ :: _ => .error .keyNotString
      | [] => .error .endInValue
    else .error .expectedObjectEnd

/-- Reads members up to the end of an object. `member` takes what was gathered so far and a key,
and reads what follows the key. The clock is a list no shorter than the text. -/
def readMembers {σ : Type} (member : σ → String → Reader σ) :
    (clock : List Char) → (first : Bool) → σ → Reader σ
  | [], _, _, _ => .error .endInObject
  | _ :: clock, first, gathered, text =>
    match nextKey first text with
    | .error e => .error e
    | .ok none => .ok (gathered, (skipBlanks text).tail)
    | .ok (some text) =>
      match readString text with
      | .error e => .error e
      | .ok (key, rest) =>
        match member gathered key rest with
        | .ok (gathered, rest) => readMembers member clock false gathered rest
        | .error e => .error e

/-- Reads the value of a member that may be given once. -/
def readField {α : Type} (name : String) (present : Option α) (value : Reader α) : Reader α :=
  fun text =>
    match present with
    | some _ => .error (.duplicateField name)
    | none => do
      let rest ← readColon text
      value rest

/-- Skips a member that nobody asked for. -/
def skipField {σ : Type} (gathered : σ) : Reader σ := fun text => do
  let rest ← readColon text
  let rest ← skipValue rest
  return (gathered, rest)

/-- Reads the next item of a list if there is one. -/
def readNext {α : Type} (first : Bool) (value : Reader α) : Reader (Option α) := fun text =>
  match nextItem first text with
  | .error e => .error e
  | .ok none => .ok (none, text)
  | .ok (some text) =>
    match value text with
    | .ok (x, rest) => .ok (some x, rest)
    | .error e => .error e

/-- How a record is read: what it is called in messages, its form as an object and its form as a
list, each behind the opening bracket and the latter up to the closing one. -/
structure RecordForm (α : Type) where
  name : String
  members : Reader α
  items : Reader α

/-- Reads a record in either form. -/
def readRecord {α : Type} (form : RecordForm α) : Reader α := fun text =>
  match skipBlanks text with
  | '\x7b' :: rest => form.members rest
  | '[' :: rest => do
    let (value, rest) ← form.items rest
    let rest ← endList rest
    return (value, rest)
  | text => .error (wrongType s!"struct {form.name}" text)

/-- Reads a text that holds one value and nothing else. -/
def readAll {α : Type} (value : Reader α) (text : String) : Except Error α := do
  let (x, rest) ← value text.toList
  match skipBlanks rest with
  | [] => return x
  | _ :: _ => .error .trailingCharacters

end TreeLint.Json
