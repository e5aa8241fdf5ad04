import EventRouter.Instant.Basic
import EventRouter.Text.Numeral

/-! The text of an instant: date and time of day in UTC, in two forms that differ in the digits of
the fraction. -/

namespace EventRouter.Instant

/-- A year: four digits, or a sign and at least four digits outside the years 0 to 9999. -/
def yearText (year : Int) : List Char :=
  let digits := Numeral.writePadded 10 4 year.natAbs
  if year < 0 then '-' :: digits else if 9999 < year then '+' :: digits else digits

/-- Two digits. -/
def twoDigits (n : Nat) : List Char := Numeral.writePadded 10 2 n

/-- Date and time of day to the second. -/
def secondsText (t : Instant) : List Char :=
  yearText t.date.year ++ '-' :: twoDigits t.date.month ++ '-' :: twoDigits t.date.day ++
    'T' :: twoDigits t.hour ++ ':' :: twoDigits t.minute ++ ':' :: twoDigits t.second

/-- The text without the zeros at its end. -/
def dropZeros (cs : List Char) : List Char := (cs.reverse.dropWhile (· = '0')).reverse

/-- A fraction with as many digits as it needs. -/
def shortFraction (nano : Nat) : List Char :=
  if nano = 0 then [] else '.' :: dropZeros (Numeral.writePadded 10 9 nano)

/-- A fraction with three, six or nine digits, the fewest that hold it. -/
def groupedFraction (nano : Nat) : List Char :=
  if nano = 0 then []
  else if nano % 1000000 = 0 then '.' :: Numeral.writePadded 10 3 (nano / 1000000)
  else if nano % 1000 = 0 then '.' :: Numeral.writePadded 10 6 (nano / 1000)
  else '.' :: Numeral.writePadded 10 9 nano

/-- The text of an instant as an attribute: the fraction has no zeros at its end. -/
def text (t : Instant) : String :=
  String.ofList (t.secondsText ++ shortFraction t.nano ++ ['Z'])

/-- The text of an instant in a document: the fraction has whole groups of three digits. -/
def documentText (t : Instant) : String :=
  String.ofList (t.secondsText ++ groupedFraction t.nano ++ ['Z'])

end EventRouter.Instant
