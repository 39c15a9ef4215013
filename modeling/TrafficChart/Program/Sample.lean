import TrafficChart.Calendar.Units
import TrafficChart.Recorder

/-!
# Sample usage

Hourly usage to try a chart with: office hours every day, twice as much in the evening, less on
the last two days of a week.
-/

namespace TrafficChart.Program

/-- The transfers of a day. -/
def transfersOf (day : Nat) : List Transfer :=
  let base : UInt64 := if 5 ≤ day % 7 then 80000000 else 200000000
  let midnight := Int64.ofNat day * oneDay
  [⟨midnight + 8 * oneHour, midnight + 18 * oneHour, base, base / 20⟩,
   ⟨midnight + 19 * oneHour, midnight + 23 * oneHour, base * 2, base / 10⟩]

/-- Hourly usage over a number of weeks. -/
def sampleHistory (weeks : Int64) : Except Refusal History := do
  let days := (weeks.toInt * 7).toNat
  let recorder ← Recorder.create oneHour
  let recorder ← ((List.range days).flatMap transfersOf).foldlM Recorder.record recorder
  return recorder.toHistory

end TrafficChart.Program
