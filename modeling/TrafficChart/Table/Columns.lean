import TrafficChart.Csv.Document
import TrafficChart.Decimal.Numeral
import TrafficChart.Refusal
import TrafficChart.Text.Blank
import TrafficChart.Text.Lower

/-!
# Columns

A usage table has a column for the start, the duration, and the bytes received and sent. The
column of a role is the first one with a name of that role; blanks around a name and its case do
not matter.
-/

namespace TrafficChart.Table

inductive Role where
  | start
  | duration
  | rx
  | tx
  deriving DecidableEq

namespace Role

def label : Role → String
  | .start => "start"
  | .duration => "duration"
  | .rx => "rx"
  | .tx => "tx"

/-- The column names of a role, in lower case. -/
def names : Role → List String
  | .start => ["start", "start_ms", "bucket_start", "time", "timestamp"]
  | .duration => ["duration", "duration_ms", "bucket_duration"]
  | .rx => ["rx", "rx_bytes", "rxbytes"]
  | .tx => ["tx", "tx_bytes", "txbytes"]

end Role

inductive LoadError where
  | document (fault : Csv.Fault)
  | missingColumn (role : Role)
  | cell (row : Nat) (role : Role) (cause : Decimal.NumeralError)
  | history (cause : Refusal)

/-- What happened, followed by its cause, if that is told apart. -/
def LoadError.chain : LoadError → List String
  | .document fault => [fault.message]
  | .missingColumn role => [s!"missing {role.label} column"]
  | .cell row role cause => [s!"row {row}: {role.label}", cause.message]
  | .history cause => [cause.message]

/-- A column name without blanks around it, in lower case. -/
def normalName (s : String) : String := Text.lower (Text.trim s)

/-- The index of the column of each role. -/
structure Columns where
  start : Nat
  duration : Nat
  rx : Nat
  tx : Nat
  deriving DecidableEq

/-- The first column with a name of the role. -/
def column (header : List String) (role : Role) : Except LoadError Nat :=
  match header.findIdx? fun name => role.names.contains (normalName name) with
  | some i => .ok i
  | none => .error (.missingColumn role)

/-- The columns of a header, or the first role that has none. -/
def columns (header : List String) : Except LoadError Columns := do
  let start ← column header .start
  let duration ← column header .duration
  let rx ← column header .rx
  let tx ← column header .tx
  return ⟨start, duration, rx, tx⟩

end TrafficChart.Table
