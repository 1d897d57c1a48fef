import ClusterQuery.Time.Calendar
import ClusterQuery.Text.Numeral

/-!
# Instants

A moment in time: the second it falls in, counted from 1970, and the nanoseconds since that
second began. A leap second is kept as the second before it with 1000000000 nanoseconds or more,
so instants in their order of seconds, then nanoseconds, are in the order of time.

The text of an instant is its UTC date and time in the form of RFC 3339, with the fewest of 0,
3, 6 or 9 fraction digits that are exact. Reading takes four-digit years, any offset, and a
second 60 in any minute.
-/

namespace ClusterQuery.Time

/-- A moment in time. -/
structure Instant where
  seconds : Int
  nanos : Nat
deriving DecidableEq, Repr

namespace Instant

def nanosPerSecond : Nat := 1000000000

/-- The least and the greatest number of milliseconds since 1970 that have an instant. -/
def millisRange : Int × Int := (-8334601228800000, 8210266876799999)

/-- The instant a number of milliseconds after 1970, within the range of the calendar. -/
def ofMillis? (millis : Int) : Option Instant :=
  if millisRange.1 ≤ millis ∧ millis ≤ millisRange.2 then
    some ⟨millis / 1000, (millis % 1000).toNat * 1000000⟩
  else none

/-- Order in time: by second, then by nanosecond. -/
def compare (left right : Instant) : Ordering :=
  (Ord.compare left.seconds right.seconds).then (Ord.compare left.nanos right.nanos)

/-- A year in four digits; outside 0 to 9999 with a sign and at least four digits. -/
def yearChars (year : Int) : List Char :=
  if year < 0 then '-' :: Text.decimalPadded 4 year.natAbs
  else if 9999 < year then '+' :: Text.decimalPadded 4 year.natAbs
  else Text.decimalPadded 4 year.natAbs

/-- A fraction of a second, in the fewest of 0, 3, 6 or 9 digits that are exact. -/
def fractionChars (nanos : Nat) : List Char :=
  if nanos = 0 then []
  else if nanos % 1000000 = 0 then '.' :: Text.decimalPadded 3 (nanos / 1000000)
  else if nanos % 1000 = 0 then '.' :: Text.decimalPadded 6 (nanos / 1000)
  else '.' :: Text.decimalPadded 9 nanos

def secondsPerDay : Int := 86400

/-- The RFC 3339 text of an instant, in UTC. -/
def chars (instant : Instant) : List Char :=
  let date := Date.ofDays (instant.seconds / secondsPerDay)
  let clock := (instant.seconds % secondsPerDay).toNat
  let second := clock % 60 + instant.nanos / nanosPerSecond
  yearChars date.year ++
    '-' :: (Text.decimalPadded 2 date.month ++
    '-' :: (Text.decimalPadded 2 date.day ++
    'T' :: (Text.decimalPadded 2 (clock / 3600) ++
    ':' :: (Text.decimalPadded 2 (clock / 60 % 60) ++
    ':' :: (Text.decimalPadded 2 second ++
    (fractionChars (instant.nanos % nanosPerSecond) ++ ['+', '0', '0', ':', '0', '0']))))))

/-- The RFC 3339 text of an instant, in UTC. -/
def text (instant : Instant) : String := String.ofList instant.chars

/-- Reads a number of exactly `width` digits. -/
def readFixed (width : Nat) (text : List Char) : Option (Nat × List Char) :=
  let digits := text.take width
  if digits.length = width ∧ digits.all Text.isDigit then
    some (Text.digitsValue digits, text.drop width)
  else none

def expect (c : Char) (text : List Char) : Option (List Char) :=
  match text with
  | first :: rest => if first = c then some rest else none
  | [] => none

/-- Reads a real date of a four-digit year. -/
def readDate (text : List Char) : Option (Date × List Char) := do
  let (year, rest) ← readFixed 4 text
  let rest ← expect '-' rest
  let (month, rest) ← readFixed 2 rest
  let rest ← expect '-' rest
  let (day, rest) ← readFixed 2 rest
  let date : Date := ⟨year, month, day⟩
  if date.isReal then return (date, rest) else failure

/-- A time of day: its second, with 59 for a leap second, and its nanoseconds. -/
structure Clock where
  second : Nat
  nanos : Nat
deriving DecidableEq, Repr

/-- Reads an optional fraction of a second; digits after the ninth are dropped. -/
def readFraction (text : List Char) : Option (Nat × List Char) :=
  match text with
  | '.' :: rest =>
      let (digits, rest) := Text.spanDigits rest
      if digits.isEmpty then none
      else
        let kept := digits.take 9
        some (Text.digitsValue kept * Nat.pow 10 (9 - kept.length), rest)
  | other => some (0, other)

def readClock (text : List Char) : Option (Clock × List Char) := do
  let (hour, rest) ← readFixed 2 text
  let rest ← expect ':' rest
  let (minute, rest) ← readFixed 2 rest
  let rest ← expect ':' rest
  let (second, rest) ← readFixed 2 rest
  let (nanos, rest) ← readFraction rest
  if hour < 24 ∧ minute < 60 ∧ second ≤ 60 then
    let minutes := (hour * 60 + minute) * 60
    if second = 60 then return (⟨minutes + 59, nanosPerSecond + nanos⟩, rest)
    else return (⟨minutes + second, nanos⟩, rest)
  else failure

/-- Reads an offset from UTC up to the end of the text, in seconds. -/
def readOffset (text : List Char) : Option Int := do
  match text with
  | ['Z'] | ['z'] => return 0
  | sign :: rest =>
      let (hours, rest) ← readFixed 2 rest
      let rest ← expect ':' rest
      let (minutes, rest) ← readFixed 2 rest
      let size : Int := ((hours * 60 + minutes) * 60 : Nat)
      if hours < 24 ∧ minutes < 60 ∧ rest = [] then
        if sign = '+' then return size
        else if sign = '-' ∨ sign = '\u2212' then return -size
        else failure
      else failure
  | [] => failure

/-- Reads an RFC 3339 date and time. -/
def ofRfc3339? (text : List Char) : Option Instant := do
  let (date, rest) ← readDate text
  match rest with
  | separator :: rest =>
      if separator = 'T' ∨ separator = 't' ∨ separator = ' ' then
        let (clock, rest) ← readClock rest
        let offset ← readOffset rest
        return ⟨date.toDays * secondsPerDay + clock.second - offset, clock.nanos⟩
      else failure
  | [] => failure

/-- Reads an instant: a 64-bit number of milliseconds, else an RFC 3339 date and time. A number
outside the calendar's range is not tried as a date. -/
def read? (text : List Char) : Option Instant :=
  match Text.readInt64 text with
  | some millis => ofMillis? millis
  | none => ofRfc3339? text

end Instant

end ClusterQuery.Time
