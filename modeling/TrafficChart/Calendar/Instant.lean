import TrafficChart.Calendar.Date
import TrafficChart.Calendar.Units
import TrafficChart.Decimal.Numeral
import TrafficChart.Overflow

/-!
# Instants as text

An instant is read from an integer, or else by a reader of dates, and written as date, hour and
minute in universal time. Dates with time and offset (RFC 3339) have such a reader.
-/

namespace TrafficChart

open Decimal (digit?)

/-- Exactly `n` digits at the beginning, and the rest. -/
def fixedDigits? : Nat → Nat → List Char → Option (Nat × List Char)
  | 0, value, cs => some (value, cs)
  | _ + 1, _, [] => none
  | n + 1, value, c :: rest =>
    match digit? c with
    | none => none
    | some d => fixedDigits? n (10 * value + d) rest

/-- The rest after one of the given characters. -/
def separator? (allowed : List Char) : List Char → Option (List Char)
  | c :: rest => if allowed.contains c then some rest else none
  | [] => none

/-- The milliseconds of the digits after a decimal point: three count, all are consumed. -/
def fraction? : List Char → Option (Nat × List Char)
  | '.' :: rest =>
    let digits := rest.takeWhile fun c => (digit? c).isSome
    let padded := (digits ++ ['0', '0', '0']).take 3
    if digits.isEmpty then none
    else some (padded.foldl (fun n c => 10 * n + (digit? c).getD 0) 0, rest.drop digits.length)
  | cs => some (0, cs)

/-- The minutes that a zone is ahead of universal time. The minus may be a hyphen or a true
minus sign. -/
def offset? (cs : List Char) : Option (Int × List Char) := do
  match cs with
  | [] => none
  | c :: rest =>
    if c = 'Z' ∨ c = 'z' then return (0, rest)
    if ¬ ['+', '-', '\u2212'].contains c then none
    let (hours, rest) ← fixedDigits? 2 0 rest
    let rest ← separator? [':'] rest
    let (minutes, rest) ← fixedDigits? 2 0 rest
    if 23 < hours ∨ 59 < minutes then none
    let ahead : Int := 60 * hours + minutes
    return (if c = '+' then ahead else -ahead, rest)

/-- A date with time and offset, in milliseconds. Second 60 is a leap second; it counts as the
first one of the next minute. -/
def readDateTime? (cs : List Char) : Option Int := do
  let (year, cs) ← fixedDigits? 4 0 cs
  let cs ← separator? ['-'] cs
  let (month, cs) ← fixedDigits? 2 0 cs
  let cs ← separator? ['-'] cs
  let (day, cs) ← fixedDigits? 2 0 cs
  let cs ← separator? ['T', 't', ' '] cs
  let (hour, cs) ← fixedDigits? 2 0 cs
  let cs ← separator? [':'] cs
  let (minute, cs) ← fixedDigits? 2 0 cs
  let cs ← separator? [':'] cs
  let (second, cs) ← fixedDigits? 2 0 cs
  let (millis, cs) ← fraction? cs
  let (ahead, cs) ← offset? cs
  let date : Date := ⟨year, month, day⟩
  if cs ≠ [] ∨ ¬ date.Valid ∨ 23 < hour ∨ 59 < minute ∨ 60 < second then none
  let minutes : Int := 1440 * date.dayNumber + 60 * hour + minute - ahead
  return 60000 * minutes + 1000 * second + millis

/-- The instant of a date with time and offset. -/
def readDateTime (text : String) : Option Int64 :=
  (readDateTime? text.toList).map Int64.ofInt

/-- An integer of fewer than twelve digits counts seconds, a longer one milliseconds. The absolute
value of the least integer overflows. -/
def ofCount (n : Int64) : Except Overflow Int64 := do
  let size ← word64 .negation n.toInt.natAbs
  if size < 100000000000 then word64 .multiplication (n.toInt * oneSecond.toInt) else return n

/-- The instant that a text names, if it is readable. What is no integer may be a date. -/
def readInstant (readDate : String → Option Int64) (text : String) :
    Except Overflow (Option Int64) :=
  if text.isEmpty then .ok none
  else
    match Decimal.readInt64 text with
    | .ok n => (ofCount n).map some
    | .error _ => .ok (readDate text)

/-- A number with at least `width` digits. -/
def padded (width n : Nat) : String :=
  let digits := Nat.toDigits 10 n
  String.ofList (List.replicate (width - digits.length) '0' ++ digits)

/-- Years from 0 to 9999 have four digits, all others a sign and at least four digits. -/
def renderYear (year : Int) : String :=
  if 0 ≤ year ∧ year ≤ 9999 then padded 4 year.toNat
  else if year < 0 then "-" ++ padded 4 year.natAbs
  else "+" ++ padded 4 year.toNat

/-- The years that are written as dates. -/
def CalendarYear (year : Int) : Prop := -262143 ≤ year ∧ year ≤ 262142

instance (year : Int) : Decidable (CalendarYear year) := inferInstanceAs (Decidable (_ ∧ _))

/-- Date, hour and minute of an instant; the bare number if its year is out of range. -/
def renderMinute (instant : Int64) : String :=
  let days := instant.toInt / oneDay.toInt
  let minutes := (instant.toInt % oneDay.toInt / oneMinute.toInt).toNat
  let date := Date.ofDayNumber days
  if CalendarYear date.year then
    renderYear date.year ++ "-" ++ padded 2 date.month ++ "-" ++ padded 2 date.day ++ " " ++
      padded 2 (minutes / 60) ++ ":" ++ padded 2 (minutes % 60)
  else toString instant

end TrafficChart
