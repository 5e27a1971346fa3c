import RiskScreen.Text.Blank
import RiskScreen.Text.Digits

/-!
# Points in time

A point in time is a date and a time of day in UTC, down to the nanosecond. A second that is
inserted at the end of a minute is kept as a nanosecond count of a whole second or more. Text
is read leniently: numbers may be short, white space may stand between them, and the offset
from UTC is taken off.
-/

namespace RiskScreen

/-- A day of the proleptic Gregorian calendar. -/
structure Date where
  year : Int
  month : Nat
  day : Nat
  deriving DecidableEq, Repr

namespace Date

/-- Whether the year has a leap day. -/
def isLeapYear (year : Int) : Bool :=
  (year % 4 = 0 && year % 100 ≠ 0) || year % 400 = 0

/-- The number of days of a month. -/
def monthLength (year : Int) (month : Nat) : Nat :=
  if month = 2 then (if isLeapYear year then 29 else 28)
  else if month = 4 || month = 6 || month = 9 || month = 11 then 30
  else 31

/-- The first and the last year there are dates for. -/
def minYear : Int := -262143

/-- The last year there are dates for. -/
def maxYear : Int := 262142

/-- Whether the parts name a day. -/
def isValid (date : Date) : Bool :=
  minYear ≤ date.year && date.year ≤ maxYear && 1 ≤ date.month && date.month ≤ 12 &&
    1 ≤ date.day && date.day ≤ monthLength date.year date.month

/-- The following day. -/
def next (date : Date) : Date :=
  if date.day < monthLength date.year date.month then { date with day := date.day + 1 }
  else if date.month < 12 then { date with month := date.month + 1, day := 1 }
  else ⟨date.year + 1, 1, 1⟩

/-- The preceding day. -/
def previous (date : Date) : Date :=
  if 1 < date.day then { date with day := date.day - 1 }
  else if 1 < date.month then
    { date with month := date.month - 1, day := monthLength date.year (date.month - 1) }
  else ⟨date.year - 1, 12, 31⟩

/-- The day a number of days later. -/
def addDays (date : Date) : Nat → Date
  | 0 => date
  | n + 1 => addDays date.next n

end Date

/-- A point in time in UTC. -/
structure Timestamp where
  date : Date
  hour : Nat
  minute : Nat
  second : Nat
  nano : Nat
  deriving DecidableEq, Repr

namespace Timestamp

/-- Nanoseconds in a second. -/
def nanosPerSecond : Nat := 1000000000

/-- The point a number of seconds after the start of 1970. -/
def ofEpochSeconds (seconds : Nat) : Timestamp :=
  let inDay := seconds % 86400
  ⟨Date.addDays ⟨1970, 1, 1⟩ (seconds / 86400), inDay / 3600, inDay / 60 % 60, inDay % 60, 0⟩

/-! ### Writing -/

/-- The year: four digits, with a sign where that is not enough. -/
def yearText (year : Int) : List Char :=
  if 0 ≤ year && year ≤ 9999 then Text.padded 4 year.toNat
  else (if 0 ≤ year then '+' else '-') :: Text.padded 4 year.natAbs

/-- The fraction of a second in three, six or nine digits, whichever is enough, or nothing. -/
def fractionText (nano : Nat) : List Char :=
  if nano = 0 then []
  else if nano % 1000000 = 0 then '.' :: Text.padded 3 (nano / 1000000)
  else if nano % 1000 = 0 then '.' :: Text.padded 6 (nano / 1000)
  else '.' :: Text.padded 9 nano

/-- The second as it is shown: an inserted second has the number sixty. -/
def shownSecond (t : Timestamp) : Nat :=
  if nanosPerSecond ≤ t.nano then t.second + 1 else t.second

/-- The nanoseconds as they are shown. -/
def shownNano (t : Timestamp) : Nat :=
  if nanosPerSecond ≤ t.nano then t.nano - nanosPerSecond else t.nano

/-- The written form. -/
def chars (t : Timestamp) : List Char :=
  yearText t.date.year ++ '-' :: Text.padded 2 t.date.month ++ '-' ::
    Text.padded 2 t.date.day ++ 'T' :: Text.padded 2 t.hour ++ ':' ::
    Text.padded 2 t.minute ++ ':' :: Text.padded 2 t.shownSecond ++ fractionText t.shownNano ++
    ['Z']

/-- The written form as a string. -/
def text (t : Timestamp) : String :=
  String.ofList t.chars

/-! ### Reading -/

/-- A number of one to `width` digits. -/
def number (width : Nat) (text : List Char) : Option (Nat × List Char) :=
  let digits := (text.take width).takeWhile Char.isDigit
  if digits.isEmpty then none else some (Text.digitsValue digits, text.drop digits.length)

/-- A number of at least one digit and of at most 63 bits. -/
def longNumber (text : List Char) : Option (Nat × List Char) :=
  let digits := text.takeWhile Char.isDigit
  if digits.isEmpty || 9223372036854775808 ≤ Text.digitsValue digits then none
  else some (Text.digitsValue digits, text.drop digits.length)

/-- The text without white space in front. -/
def skipBlank (text : List Char) : List Char :=
  text.dropWhile Text.isBlank

/-- A year: four digits at most, or any number of them after a sign. -/
def readYear (text : List Char) : Option (Int × List Char) :=
  match skipBlank text with
  | '-' :: rest => (longNumber rest).map fun step => (-(step.1 : Int), step.2)
  | '+' :: rest => (longNumber rest).map fun step => ((step.1 : Int), step.2)
  | rest => (number 4 rest).map fun step => ((step.1 : Int), step.2)

/-- A number of two digits at most that lies between the bounds, after white space. -/
def readTwo (low high : Nat) (text : List Char) : Option (Nat × List Char) :=
  match number 2 (skipBlank text) with
  | some (n, rest) => if low ≤ n && n ≤ high then some (n, rest) else none
  | none => none

/-- What follows `mark`, which may have white space in front. -/
def expect (mark : Char) (text : List Char) : Option (List Char) :=
  match skipBlank text with
  | c :: rest => if c = mark then some rest else none
  | [] => none

/-- A fraction of a second, if there is a point. Digits after the ninth are passed over. -/
def readFraction : List Char → Option (Nat × List Char)
  | '.' :: rest =>
      match number 9 rest with
      | none => none
      | some (n, after) =>
          some (n * Nat.pow 10 (9 - (rest.length - after.length)), after.dropWhile Char.isDigit)
  | text => some (0, text)

/-- The sign of an offset. -/
def readSign : List Char → Option (Bool × List Char)
  | '+' :: rest => some (false, rest)
  | '-' :: rest => some (true, rest)
  | '\u2212' :: rest => some (true, rest)
  | _ => none

/-- Exactly two digits. -/
def twoDigits : List Char → Option (Nat × List Char)
  | a :: b :: rest =>
      if a.isDigit && b.isDigit then some (Text.digitsValue [a, b], rest) else none
  | _ => none

/-- An offset from UTC in minutes: `Z`, `UTC`, or hours and minutes after a sign. -/
def readOffset (text : List Char) : Option (Int × List Char) :=
  if (text.take 3).map Char.toLower = "utc".toList then some (0, text.drop 3)
  else
    match text with
    | 'Z' :: rest => some (0, rest)
    | 'z' :: rest => some (0, rest)
    | _ =>
        match readSign text with
        | none => none
        | some (negative, rest) =>
            match twoDigits rest with
            | none => none
            | some (hours, rest) =>
                match twoDigits (rest.dropWhile fun c => c = ':' || Text.isBlank c) with
                | none => none
                | some (minutes, rest) =>
                    if 59 < minutes then none
                    else
                      let offset : Int := hours * 60 + minutes
                      some (if negative then -offset else offset, rest)

/-- A date. -/
def readDate (text : List Char) : Option (Date × List Char) := do
  let (year, rest) ← readYear text
  let rest ← expect '-' rest
  let (month, rest) ← readTwo 1 12 rest
  let rest ← expect '-' rest
  let (day, rest) ← readTwo 1 31 rest
  let date : Date := ⟨year, month, day⟩
  if date.isValid then some (date, rest) else none

/-- What follows the mark between date and time. -/
def afterDateMark : List Char → Option (List Char)
  | 'T' :: rest => some rest
  | 't' :: rest => some rest
  | ' ' :: rest => some rest
  | _ => none

/-- A time of day on `date`. Second sixty is the inserted second after second 59. -/
def readTime (date : Date) (text : List Char) : Option (Timestamp × List Char) := do
  let (hour, rest) ← readTwo 0 23 text
  let rest ← expect ':' rest
  let (minute, rest) ← readTwo 0 59 rest
  let rest ← expect ':' rest
  let (second, rest) ← readTwo 0 60 rest
  let (nano, rest) ← readFraction rest
  if second = 60 then some (⟨date, hour, minute, 59, nano + nanosPerSecond⟩, rest)
  else some (⟨date, hour, minute, second, nano⟩, rest)

/-- The same point given with an offset of `offset` minutes, in UTC. -/
def toUtc (offset : Int) (t : Timestamp) : Option Timestamp :=
  if offset = 0 then some t
  else if offset ≤ -1440 || 1440 ≤ offset then none
  else
    let minutes : Int := t.hour * 60 + t.minute - offset
    let date :=
      if minutes < 0 then t.date.previous
      else if 1440 ≤ minutes then t.date.next
      else t.date
    let inDay := (minutes % 1440).toNat
    if date.isValid then some { t with date, hour := inDay / 60, minute := inDay % 60 } else none

/-- Reads a point in time. -/
def read (text : List Char) : Option Timestamp := do
  let (date, rest) ← readDate text
  let rest ← afterDateMark rest
  let (time, rest) ← readTime date rest
  let (offset, rest) ← readOffset (skipBlank rest)
  if rest.all Text.isBlank then toUtc offset time else none

end Timestamp

end RiskScreen
