import TrafficChart.Bucket
import TrafficChart.Calendar.Instant
import TrafficChart.Table.Columns

/-!
# Rows

Each row of a usage table is a bucket. A row without a readable start is left out, whatever its
other cells hold; in all others these must be integers. Starts that are no integers are left to a
reader of dates.
-/

namespace TrafficChart.Table

/-- A cell without blanks around it. -/
def cell (fields : List String) (i : Nat) : String := Text.trim (fields[i]?.getD "")

/-- The integer of a cell. -/
def integer {α : Type} (row : Nat) (role : Role) (read : Except Decimal.NumeralError α) :
    Except (Stop LoadError) α :=
  read.mapError fun cause => .refused (.cell row role cause)

variable (readDate : String → Option Int64)

/-- The bucket of a row, or nothing if its start is not readable. -/
def readRow (c : Columns) (row : Nat) (fields : List String) :
    Except (Stop LoadError) (Option Bucket) := do
  match ← (readInstant readDate (cell fields c.start)).mapError .overflow with
  | none => return none
  | some start =>
    let duration ← integer row .duration (Decimal.readInt64 (cell fields c.duration))
    let rx ← integer row .rx (Decimal.readUInt64 (cell fields c.rx))
    let tx ← integer row .tx (Decimal.readUInt64 (cell fields c.tx))
    return some ⟨start, duration, rx, tx⟩

/-- The buckets of rows, the first of which has the given number. -/
def bucketsFrom (c : Columns) : Nat → List (List String) → Except (Stop LoadError) (List Bucket)
  | _, [] => .ok []
  | row, fields :: rest => do
    let found ← readRow readDate c row fields
    let others ← bucketsFrom c (row + 1) rest
    return found.toList ++ others

/-- The buckets of a table, or the first thing in it that cannot be read. -/
def bucketsOfRows (header : List String) (rows : List (List String)) :
    Except (Stop LoadError) (List Bucket) := do
  let c ← (columns header).mapError .refused
  bucketsFrom readDate c 0 rows

end TrafficChart.Table
