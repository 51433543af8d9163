import TreeLint.Toml.Scan

/-!
# Dates and times in TOML

A date, a time, or a date and a time with or without an offset. They are kept in one written form:
a `T` between date and time, a `Z` for no offset, and a fraction of a second without zeros at its
end. They stand in a document by themselves or, with wider limits, in a string.
-/

namespace TreeLint.Toml

/-- What a time may be. -/
structure TimeLimits where
  lastHour : Nat
  /-- Whether an offset of some hours and minutes is allowed. -/
  allowsOffset : Nat → Nat → Bool

/-- What a time may be that stands in a document by itself. -/
def TimeLimits.document : TimeLimits where
  lastHour := 23
  allowsOffset hours minutes := hours ≤ 23 && minutes ≤ 59

/-- What a time may be that stands in a string: the end of a day is an hour of its own, and an
offset is a day at most. -/
def TimeLimits.string : TimeLimits where
  lastHour := 24
  allowsOffset hours minutes := 60 * hours + minutes ≤ 24 * 60

/-- Reads a number of exactly so many digits. -/
def readFixed (count : Nat) : Scanner Nat := fun text =>
  let front := text.take count
  if front.length = count ∧ front.all Char.isDigit then
    some (Text.Decimal.value front, text.drop count)
  else none

/-- Reads one character. -/
def readChar (c : Char) (text : List Char) : Option (List Char) :=
  match text with
  | d :: rest => if c = d then some rest else none
  | [] => none

/-- Whether a year has a leap day. -/
def isLeapYear (year : Nat) : Bool :=
  year % 4 == 0 && (year % 100 != 0 || year % 400 == 0)

/-- The number of days of a month. -/
def daysIn (year month : Nat) : Nat :=
  if month = 2 then (if isLeapYear year then 29 else 28)
  else if month = 4 ∨ month = 6 ∨ month = 9 ∨ month = 11 then 30
  else 31

/-- A number with zeros in front up to a width. -/
def padded (width n : Nat) : List Char :=
  let digits := Text.Decimal.digits n
  List.replicate (width - digits.length) '0' ++ digits

/-- Reads a date. -/
def readDate : Scanner (List Char) := fun text => do
  let (year, rest) ← readFixed 4 text
  let rest ← readChar '-' rest
  let (month, rest) ← readFixed 2 rest
  let rest ← readChar '-' rest
  let (day, rest) ← readFixed 2 rest
  if 1 ≤ month ∧ month ≤ 12 ∧ 1 ≤ day ∧ day ≤ daysIn year month then
    some (padded 4 year ++ '-' :: padded 2 month ++ '-' :: padded 2 day, rest)
  else none

/-- Reads a fraction of a second, if there is one. Nine digits of it are kept. -/
def readSecondFraction (text : List Char) : List Char × List Char :=
  match text with
  | '.' :: rest =>
    let digits := rest.takeWhile Char.isDigit
    if digits.isEmpty then ([], text)
    else
      let kept := ((digits.take 9).reverse.dropWhile (· = '0')).reverse
      (if kept.isEmpty then [] else '.' :: kept, rest.dropWhile Char.isDigit)
  | _ => ([], text)

/-- Reads a time. -/
def readTime (limits : TimeLimits) : Scanner (List Char) := fun text => do
  let (hour, rest) ← readFixed 2 text
  let rest ← readChar ':' rest
  let (minute, rest) ← readFixed 2 rest
  let rest ← readChar ':' rest
  let (second, rest) ← readFixed 2 rest
  let (fraction, rest) := readSecondFraction rest
  if hour ≤ limits.lastHour ∧ minute ≤ 59 ∧ second ≤ 60 then
    some (padded 2 hour ++ ':' :: padded 2 minute ++ ':' :: padded 2 second ++ fraction, rest)
  else none

/-- The written form of an offset, given in minutes. -/
def offsetText (sign : Char) (minutes : Nat) : List Char :=
  (if minutes = 0 then '+' else sign) :: padded 2 (minutes / 60) ++ ':' :: padded 2 (minutes % 60)

/-- Reads an offset. -/
def readOffset (limits : TimeLimits) : Scanner (List Char) := fun text =>
  match text with
  | c :: rest =>
    if c = 'Z' ∨ c = 'z' then some (['Z'], rest)
    else if c = '+' ∨ c = '-' then do
      let (hours, rest) ← readFixed 2 rest
      let rest ← readChar ':' rest
      let (minutes, rest) ← readFixed 2 rest
      if limits.allowsOffset hours minutes then
        some (offsetText c (60 * hours + minutes), rest)
      else none
    else none
  | [] => none

/-- Reads what may follow a date: a time, with or without an offset. -/
def readTimeOfDate (limits : TimeLimits) : Scanner (List Char) := fun text =>
  match text with
  | c :: rest =>
    if c = 'T' ∨ c = 't' ∨ c = ' ' then do
      let (time, rest) ← readTime limits rest
      match readOffset limits rest with
      | some (offset, rest) => some ('T' :: time ++ offset, rest)
      | none => some ('T' :: time, rest)
    else none
  | [] => none

/-- Reads a date, a time or both. -/
def readDateTime (limits : TimeLimits) : Scanner Value := fun text =>
  match readDate text with
  | some (date, rest) =>
    match readTimeOfDate limits rest with
    | some (time, rest) => some (.datetime (String.ofList (date ++ time)), rest)
    | none => some (.datetime (String.ofList date), rest)
  | none =>
    match readTime limits text with
    | some (time, rest) => some (.datetime (String.ofList time), rest)
    | none => none

/-- The date, the time or both that a string spells. -/
def dateTimeOfText? (text : String) : Option Value :=
  match readDateTime .string text.toList with
  | some (value, []) => some value
  | _ => none

end TreeLint.Toml
