import ClusterQuery.Text.Blank
import ClusterQuery.Text.Numeral
import ClusterQuery.Text.Quoted

/-!
# Spans of time

A span is a number of nanoseconds. Its text uses the largest of `s`, `ms`, `µs` and `ns` of
which there is at least one, with the fraction that is needed. It is read from numbers with
units, such as `1h 30m` or `1.5s`, which are added up. A fraction of a minute or less must come to
whole nanoseconds, one of an hour or more to whole seconds; a nanosecond has no fractions.
-/

namespace ClusterQuery.Time

/-- A span of time, in nanoseconds. -/
@[ext] structure Span where
  nanos : Nat
deriving DecidableEq, Repr

namespace Span

def ofSeconds (seconds : Nat) : Span := ⟨seconds * 1000000000⟩

def ofMillis (millis : Nat) : Span := ⟨millis * 1000000⟩

def zero : Span := ⟨0⟩

def isZero (span : Span) : Bool := span.nanos == 0

/-- A quotient by `10 ^ places` in decimal, with the fraction digits that are needed. -/
def decimalChars (value places : Nat) : List Char :=
  let fraction :=
    (Text.decimalPadded places (value % Nat.pow 10 places)).reverse.dropWhile (· == '0')
  let whole := Text.writeNat (value / Nat.pow 10 places)
  if value % Nat.pow 10 places = 0 then whole else whole ++ '.' :: fraction.reverse

def text (span : Span) : String :=
  let number (places : Nat) := String.ofList (decimalChars span.nanos places)
  if 1000000000 ≤ span.nanos then number 9 ++ "s"
  else if 1000000 ≤ span.nanos then number 6 ++ "ms"
  else if 1000 ≤ span.nanos then number 3 ++ "µs"
  else number 0 ++ "ns"

/-- Why a text is no span. Positions count bytes. -/
inductive Fault where
  | empty
  | numberExpected (position : Nat)
  | invalidCharacter (position : Nat)
  | unitMissing (value : Nat)
  | unknownUnit (unit : String)
  | tooLarge
deriving DecidableEq, Repr

def Fault.message : Fault → String
  | .empty => "value was empty"
  | .numberExpected position => s!"expected number at {position}"
  | .invalidCharacter position => s!"invalid character at {position}"
  | .unitMissing value => s!"time unit needed, for example {value}sec or {value}ms"
  | .unknownUnit unit =>
      "unknown time unit " ++ Text.quoted unit ++ ", supported units: ns, us/µs, ms, sec, min, " ++
        "hours, days, weeks, months, years (and few variations)"
  | .tooLarge =>
      "number is too large or cannot be represented without a lack of precision " ++
        "(values below 1ns are not supported)"

/-- A scale: steps of a number of nanoseconds each. -/
structure Scale where
  steps : Nat
  size : Nat
deriving DecidableEq, Repr

/-- A unit of time: the scale of whole numbers of it, and that of its fractions, if it takes any. -/
structure TimeUnit where
  whole : Scale
  fraction : Option Scale
deriving DecidableEq, Repr

namespace TimeUnit

def second : Nat := 1000000000

def ofNanos (steps : Nat) : TimeUnit := ⟨⟨steps, 1⟩, some ⟨steps, 1⟩⟩

/-- A unit of seconds whose fractions count nanoseconds. -/
def short (seconds : Nat) : TimeUnit := ⟨⟨seconds, second⟩, some ⟨seconds * second, 1⟩⟩

/-- A unit of seconds whose fractions count seconds. -/
def long (seconds : Nat) : TimeUnit := ⟨⟨seconds, second⟩, some ⟨seconds, second⟩⟩

def ofName? (name : String) : Option TimeUnit :=
  if name ∈ ["nanos", "nsec", "ns"] then some ⟨⟨1, 1⟩, none⟩
  else if name ∈ ["usec", "us", "µs"] then some (ofNanos 1000)
  else if name ∈ ["millis", "msec", "ms"] then some (ofNanos 1000000)
  else if name ∈ ["seconds", "second", "secs", "sec", "s"] then some (short 1)
  else if name ∈ ["minutes", "minute", "mins", "min", "m"] then some (short 60)
  else if name ∈ ["hours", "hour", "hrs", "hr", "h"] then some (long 3600)
  else if name ∈ ["days", "day", "d"] then some (long 86400)
  else if name ∈ ["weeks", "week", "wks", "wk", "w"] then some (long 604800)
  else if name ∈ ["months", "month", "M"] then some (long 2630016)
  else if name ∈ ["years", "year", "yrs", "yr", "y"] then some (long 31557600)
  else none

end TimeUnit

/-- The longest span: 64 bits of seconds. -/
def maxNanos : Nat := (Text.maxNat64 + 1) * 1000000000 - 1

/-- A character that a unit may hold. -/
def isUnitChar (c : Char) : Bool :=
  ('a' ≤ c && c ≤ 'z') || ('A' ≤ c && c ≤ 'Z') || c == 'µ'

/-- A number that a 64-bit word can hold. -/
def bounded (value : Nat) : Except Fault Nat :=
  if value ≤ Text.maxNat64 then .ok value else .error .tooLarge

/-- The nanoseconds of a quotient on a scale; it must come to whole steps. -/
def Scale.nanos (scale : Scale) (numerator denominator : Nat) : Except Fault Nat := do
  let product ← bounded (numerator * scale.steps)
  if product % denominator = 0 then return product / denominator * scale.size
  else throw .tooLarge

/-- The nanoseconds of a fraction with some places; without places there is none. -/
def TimeUnit.fractionNanos (unit : TimeUnit) (digits places : Nat) : Except Fault Nat :=
  if places = 0 then .ok 0
  else
    match unit.fraction with
    | some scale => scale.nanos digits (Nat.pow 10 places)
    | none => .error .tooLarge

/-- The reader between two characters. -/
inductive ReaderState where
  /-- Before a number, with the position at which it was expected. -/
  | between (since : Nat)
  /-- In the whole part of a number, digits and blanks so far. -/
  | whole (value : Nat)
  /-- After a point, digits and blanks so far: the whole part, the fraction's digits as a number,
  their count, and the position after the last of them. -/
  | fraction (value digits places since : Nat)
  /-- In the unit after a number; the unit's characters stand in reverse. -/
  | unit (value digits places : Nat) (unit : List Char)

/-- A span read so far, the position of the next character, and where the reader stands. -/
structure Reader where
  total : Nat
  position : Nat
  started : Bool
  state : ReaderState

/-- Adds a number with its unit to the span read so far. -/
def addPart (total value digits places : Nat) (unit : List Char) : Except Fault Nat := do
  let name := String.ofList unit.reverse
  match TimeUnit.ofName? name with
  | none => throw (if name.isEmpty then .unitMissing value else .unknownUnit name)
  | some unit =>
      let whole ← unit.whole.nanos value 1
      let fraction ← unit.fractionNanos digits places
      if total + whole + fraction ≤ maxNanos then return total + whole + fraction
      else throw .tooLarge

def step (reader : Reader) (c : Char) : Except Fault Reader := do
  let after := { reader with position := reader.position + c.utf8Size }
  match reader.state, Text.digitValue? c with
  | .between _, some digit => return { after with started := true, state := .whole digit }
  | .between since, none => if Text.isBlank c then return after else throw (.numberExpected since)
  | .whole value, some digit => do
      let value ← bounded (10 * value + digit)
      return { after with state := .whole value }
  | .whole value, none =>
      if Text.isBlank c then return after
      else if isUnitChar c then return { after with state := .unit value 0 0 [c] }
      else if c = '.' then return { after with state := .fraction value 0 0 reader.position }
      else throw (.invalidCharacter reader.position)
  | .fraction value digits places _, some digit => do
      discard (bounded (Nat.pow 10 (places + 1)))
      let digits ← bounded (10 * digits + digit)
      return { after with state := .fraction value digits (places + 1) after.position }
  | .fraction value digits places since, none =>
      if Text.isBlank c then
        return { after with state := .fraction value digits places after.position }
      else if isUnitChar c ∧ places ≠ 0 then
        return { after with state := .unit value digits places [c] }
      else throw (.invalidCharacter since)
  | .unit value digits places unit, some digit => do
      let total ← addPart reader.total value digits places unit
      return { after with total, state := .whole digit }
  | .unit value digits places unit, none =>
      if isUnitChar c then return { after with state := .unit value digits places (c :: unit) }
      else if Text.isBlank c then do
        let total ← addPart reader.total value digits places unit
        return { after with total, state := .between after.position }
      else throw (.invalidCharacter reader.position)

/-- The span once the text has ended. -/
def finish (reader : Reader) : Except Fault Span :=
  match reader.state with
  | .between _ => if reader.started then .ok ⟨reader.total⟩ else .error .empty
  | .whole value => (addPart reader.total value 0 0 []).map Span.mk
  | .fraction value digits places since =>
      if places = 0 then .error (.invalidCharacter since)
      else (addPart reader.total value digits places []).map Span.mk
  | .unit value digits places unit =>
      (addPart reader.total value digits places unit).map Span.mk

/-- Reads a span. The text `0` alone needs no unit. -/
def read (text : String) : Except Fault Span := do
  if text = "0" then return zero
  let reader ← text.toList.foldlM step ⟨0, 0, false, .between 0⟩
  finish reader

end Span

end ClusterQuery.Time
