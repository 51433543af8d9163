import TreeLint.Number.Binary64

/-!
# TOML values

The values of a TOML document. Tables and arrays remember how they came to be, because that decides
whether a later part of the document may add to them.
-/

namespace TreeLint.Toml

/-- How a table came to be. -/
inductive Origin where
  /-- By a header of its own, or as the document. -/
  | header
  | implied
  | dotted
  | inline
  deriving DecidableEq, Repr

/-- A value. -/
inductive Value where
  | string (value : String)
  | integer (value : Int)
  | float (value : Binary64)
  | boolean (value : Bool)
  /-- A date, a time or both, in its written form. -/
  | datetime (text : String)
  /-- An array, with whether it is made of tables with headers. -/
  | array (ofHeaders : Bool) (items : List Value)
  | table (origin : Origin) (entries : List (String × Value))
  deriving Inhabited, Repr

/-- A table by itself. -/
structure Table where
  origin : Origin
  /-- The entries in the order of the document. -/
  entries : List (String × Value)

namespace Table

/-- The value of a key. -/
def get? (table : Table) (key : String) : Option Value :=
  table.entries.lookup key

/-- The entries with the value of a key replaced. -/
def replace (key : String) (value : Value) : List (String × Value) → List (String × Value)
  | [] => []
  | (k, v) :: rest => if k = key then (k, value) :: rest else (k, v) :: replace key value rest

/-- Gives a key a value, in its place if it had one and at the end otherwise. -/
def put (table : Table) (key : String) (value : Value) : Table :=
  match table.get? key with
  | some _ => { table with entries := replace key value table.entries }
  | none => { table with entries := table.entries ++ [(key, value)] }

/-- The table as a value. -/
def value (table : Table) : Value :=
  .table table.origin table.entries

end Table

/-- The key under which a date or time stands when it is read as a table. -/
def datetimeKey : String :=
  "$__toml_private_datetime"

/-- The entries of a value that is read as a table. A date or time is a table with one entry. -/
def Value.entries? : Value → Option (List (String × Value))
  | .table _ entries => some entries
  | .datetime text => some [(datetimeKey, .string text)]
  | _ => none

end TreeLint.Toml
