import TrafficChart.Diagnostic
import TrafficChart.History.Basic
import TrafficChart.Table.CommonDuration
import TrafficChart.Table.Rows
import TrafficChart.Text.Quoted

/-!
# Histories from tables

The buckets of a usage table are put in order of their starts, and their common duration is the
nominal one. How a file is taken apart into rows, and which texts are dates, is left to readers that
are given.
-/

namespace TrafficChart.Table

/-- The buckets in order of their starts; equal starts keep their order. -/
def inOrder (buckets : List Bucket) : List Bucket :=
  buckets.mergeSort fun a b => decide (a.start ≤ b.start)

theorem inOrder_perm (buckets : List Bucket) : (inOrder buckets).Perm buckets :=
  List.mergeSort_perm buckets _

/-- The history of buckets in any order. -/
def historyOf (buckets : List Bucket) : Except LoadError History :=
  (History.ofBuckets (nominalLength buckets) (inOrder buckets)).mapError .history

section

variable (readDate : String → Option Int64)

/-- The history of a table. -/
def ofRows (header : List String) (rows : List (List String)) :
    Except (Stop LoadError) History := do
  let buckets ← bucketsOfRows readDate header rows
  (historyOf buckets).mapError .refused

/-- The warnings about rows left out, up to the first row that cannot be read. -/
def rowWarnings (c : Columns) : Nat → List (List String) → List Diagnostic
  | _, [] => []
  | row, fields :: rest =>
    match readRow readDate c row fields with
    | .error _ => []
    | .ok (some _) => rowWarnings c (row + 1) rest
    | .ok none =>
      let start := cell fields c.start
      ⟨.warn, s!"row {row}: unreadable start '{start}', skipped"⟩ ::
        rowWarnings c (row + 1) rest

end

section

variable (readTable : List UInt8 → Except Csv.Fault Csv.Document)
  (readDate : String → Option Int64)

/-- The history of a file. The rows before a fault of the file are read first. -/
def load (bytes : List UInt8) : Except (Stop LoadError) History := do
  let document ← (readTable bytes).mapError fun fault => .refused (.document fault)
  let buckets ← bucketsOfRows readDate document.header document.rows
  match document.fault with
  | some fault => throw (.refused (.document fault))
  | none => (historyOf buckets).mapError .refused

/-- What `load` reports on the same file. -/
def diagnostics (bytes : List UInt8) : List Diagnostic :=
  match readTable bytes with
  | .error _ => []
  | .ok document =>
    let names := Text.quoteList (document.header.map normalName)
    let warnings :=
      match columns document.header with
      | .ok c => rowWarnings readDate c 0 document.rows
      | .error _ => []
    let nominal : List Diagnostic :=
      match bucketsOfRows readDate document.header document.rows, document.fault with
      | .ok buckets, none => [⟨.info, s!"nominal bucket duration {nominalLength buckets} ms"⟩]
      | _, _ => []
    ⟨.info, s!"headers: {names}"⟩ :: warnings ++ nominal

end

end TrafficChart.Table
