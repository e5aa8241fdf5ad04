import EventRouter.Instant.Basic
import EventRouter.Text.Blank
import EventRouter.Text.Numeral

/-! Reading an instant from a text: a date, a time of day and an offset from UTC. White space may
stand between the parts, fields may be short, and digits of the fraction behind the ninth count for
nothing. -/

namespace EventRouter.Instant

/-- The reasons for which a text is not an instant. -/
inductive ParseError where
  | tooShort
  | invalid
  | outOfRange
  | impossible
  | trailing
deriving DecidableEq, Repr

/-- The wording of an error. -/
def ParseError.message : ParseError → String
  | .tooShort => "premature end of input"
  | .invalid => "input contains invalid characters"
  | .outOfRange => "input is out of range"
  | .impossible => "no possible date and time matching input"
  | .trailing => "trailing input"

/-- The largest number that a field can hold: one of 63 bits. -/
def fieldLimit : Nat := 9223372036854775807

/-- Reads up to `width` further digits behind the number `n`. -/
def digitsAfter (n : Nat) (width : Nat) (cs : List Char) : Except ParseError (Nat × List Char) :=
  match width, cs with
  | width + 1, c :: rest =>
    if c.isDigit then
      let m := 10 * n + (c.toNat - '0'.toNat)
      if fieldLimit < m then .error .outOfRange else digitsAfter m width rest
    else .ok (n, c :: rest)
  | _, cs => .ok (n, cs)

/-- Reads a number of one to `width` digits. -/
def number (width : Nat) (cs : List Char) : Except ParseError (Nat × List Char) :=
  match cs with
  | [] => .error .tooShort
  | c :: _ => if c.isDigit then digitsAfter 0 width cs else .error .invalid

/-- Reads a number in the given bounds, with white space in front of it. -/
def field (least greatest : Nat) (cs : List Char) : Except ParseError (Nat × List Char) := do
  let (n, rest) ← number 2 (Text.trimStart cs)
  if least ≤ n ∧ n ≤ greatest then return (n, rest) else throw .outOfRange

/-- A year has at most 32 bits before it is checked against the calendar. -/
def yearInBounds (year : Int) : Except ParseError Int :=
  if -2147483648 ≤ year ∧ year < 2147483648 then .ok year else .error .outOfRange

/-- Reads a year: up to four digits, or a sign and any number of digits. -/
def year (cs : List Char) : Except ParseError (Int × List Char) :=
  match Text.trimStart cs with
  | '-' :: rest => do
    let (n, rest) ← number rest.length rest
    return (← yearInBounds (-(n : Int)), rest)
  | '+' :: rest => do
    let (n, rest) ← number rest.length rest
    return (← yearInBounds n, rest)
  | cs => do
    let (n, rest) ← number 4 cs
    return (← yearInBounds n, rest)

/-- Reads a character, with white space in front of it. -/
def literal (c : Char) (cs : List Char) : Except ParseError (List Char) :=
  match Text.trimStart cs with
  | [] => .error .tooShort
  | d :: rest => if d = c then .ok rest else .error .invalid

/-- Reads the character between date and time. -/
def dateEnd (cs : List Char) : Except ParseError (List Char) :=
  match cs with
  | [] => .error .tooShort
  | c :: rest => if c = 't' ∨ c = 'T' ∨ c = ' ' then .ok rest else .error .invalid

/-- Reads a fraction of a second, in nanoseconds. -/
def fraction (cs : List Char) : Except ParseError (Nat × List Char) :=
  match cs with
  | '.' :: rest => do
    let (n, behind) ← number 9 rest
    let taken := rest.length - behind.length
    return (n * Nat.pow 10 (9 - taken), behind.dropWhile Char.isDigit)
  | cs => .ok (0, cs)

/-- Two digits at the front of a text, or the way in which they are not there. A character beyond
ASCII counts as two that are no digits. -/
def twoDigits? (cs : List Char) : Except ParseError ((Char × Char) × List Char) :=
  match cs with
  | [] => .error .tooShort
  | [c] => if c.toNat < 128 then .error .tooShort else .error .invalid
  | a :: b :: rest => .ok ((a, b), rest)

/-- The value of two digits. -/
def twoDigitValue (a b : Char) : Option Nat := Numeral.read? 10 [a, b]

/-- The sign of an offset, negative or not, and the rest. -/
def offsetSign (cs : List Char) : Except ParseError (Bool × List Char) :=
  match cs with
  | [] => .error .tooShort
  | c :: rest =>
    if c = '+' then .ok (false, rest)
    else if c = '-' ∨ c = '\u2212' then .ok (true, rest)
    else .error .invalid

/-- Reads an offset of hours and minutes, in seconds. -/
def signedOffset (cs : List Char) : Except ParseError (Int × List Char) := do
  let (negative, cs) ← offsetSign cs
  let ((a, b), cs) ← twoDigits? cs
  let some hours := twoDigitValue a b | throw .invalid
  let ((a, b), cs) ← twoDigits? (cs.dropWhile fun c => c = ':' || Text.isBlank c)
  let some minutes := twoDigitValue a b | throw .invalid
  if 59 < minutes then throw .outOfRange
  let seconds : Int := hours * 3600 + minutes * 60
  return (if negative then -seconds else seconds, cs)

/-- Reads an offset from UTC, in seconds. -/
def offset (cs : List Char) : Except ParseError (Int × List Char) :=
  match cs with
  | u :: t :: c :: rest =>
    if (u = 'U' ∨ u = 'u') ∧ (t = 'T' ∨ t = 't') ∧ (c = 'C' ∨ c = 'c') then .ok (0, rest)
    else zoned (u :: t :: c :: rest)
  | cs => zoned cs
where
  /-- An offset written as `Z` or with a sign. -/
  zoned (cs : List Char) : Except ParseError (Int × List Char) :=
    match cs with
    | [] => .error .tooShort
    | c :: rest => if c = 'Z' ∨ c = 'z' then .ok (0, rest) else signedOffset (c :: rest)

/-- The fields of a written instant. -/
structure Fields where
  date : Date
  hour : Nat
  minute : Nat
  second : Nat
  nano : Nat
  offset : Int

/-- Reads the fields of an instant. -/
def fields (cs : List Char) : Except ParseError (Fields × List Char) := do
  let (year, cs) ← year cs
  let (month, cs) ← field 1 12 (← literal '-' cs)
  let (day, cs) ← field 1 31 (← literal '-' cs)
  let cs ← dateEnd cs
  let (hour, cs) ← field 0 23 cs
  let (minute, cs) ← field 0 59 (← literal ':' cs)
  let (second, cs) ← field 0 60 (← literal ':' cs)
  let (nano, cs) ← fraction cs
  let (offset, cs) ← offset (Text.trimStart cs)
  return (⟨⟨year, month, day⟩, hour, minute, second, nano, offset⟩, cs)

/-- The instant with the given fields. A second 60 is the second 59 going on. -/
def ofFields (f : Fields) : Except ParseError Instant :=
  if ¬ (f.date.isValid ∧ minYear ≤ f.date.year ∧ f.date.year ≤ maxYear) then .error .outOfRange
  else if secondsPerDay ≤ f.offset ∨ f.offset ≤ -secondsPerDay then .error .outOfRange
  else
    let second := if f.second = 60 then 59 else f.second
    let nanos := if f.second = 60 then nanosPerSecond + f.nano else f.nano
    let seconds := f.date.toDays * secondsPerDay + f.hour * 3600 + f.minute * 60 + second
    match of? (seconds - f.offset) nanos with
    | some t => .ok t
    | none => .error .impossible

/-- Reads an instant; only white space may follow it. -/
def parse (s : String) : Except ParseError Instant := do
  let (f, rest) ← fields s.toList
  if (Text.trimStart rest).isEmpty then ofFields f else throw .trailing

end EventRouter.Instant
