import TrafficChart.Decimal.Reading
import TrafficChart.Program.FileTree
import TrafficChart.Table.Load

/-!
# Failures

Why the program stops early. A failure is told as a message, followed by its causes.
-/

namespace TrafficChart.Program

inductive InputError where
  | file (path : String) (cause : ReadError)
  | table (cause : Table.LoadError)

def InputError.chain : InputError → List String
  | .file path (.opening cause) => [s!"opening {path}", cause.message]
  | .file _ (.reading cause) => [cause.message]
  | .table cause => cause.chain

inductive Failure where
  | visibleDays (text : String) (cause : Decimal.NumeralError)
  | estimateDays (text : String) (cause : Decimal.NumeralError)
  | setting (name value : String) (cause : Decimal.RealError)
  | chart (cause : Refusal)
  | input (path : String) (cause : InputError)
  | emptyHistory
  | output (path : String) (cause : FileError)

/-- The message, followed by the causes. -/
def Failure.chain : Failure → List String
  | .visibleDays text cause => [s!"visible days '{text}'", cause.message]
  | .estimateDays text cause => [s!"estimate days '{text}'", cause.message]
  | .setting name value cause => [s!"{name}='{value}'", cause.message]
  | .chart cause => [cause.message]
  | .input path cause => s!"failed to load CSV '{path}'" :: cause.chain
  | .emptyHistory => ["history is empty, nothing to chart"]
  | .output path cause => [s!"creating {path}", cause.message]

/-- The lines of a text, of which all but the first begin with a margin. -/
def hang (width : Nat) (text : String) : String :=
  let margin := String.ofList (List.replicate width ' ')
  ("\n" ++ margin).intercalate (text.splitToList fun c => c = '\n')

/-- A cause in the list of causes. A number is set off to the right of five columns. -/
def causeLine (number : Option Nat) (cause : String) : String :=
  match number with
  | none => "    " ++ hang 4 cause
  | some n =>
    let digits := toString n
    let margin := String.ofList (List.replicate (5 - digits.length) ' ')
    margin ++ digits ++ ": " ++ hang 7 cause

/-- The causes, numbered from 0 if there are several. -/
def causeLines (causes : List String) : List String :=
  match causes with
  | [cause] => [causeLine none cause]
  | _ => causes.zipIdx.map fun (cause, i) => causeLine (some i) cause

/-- The text of a chain of messages. -/
def report (chain : List String) : String :=
  match chain with
  | [] => "Error: \n"
  | [message] => "Error: " ++ message ++ "\n"
  | message :: causes =>
    "Error: " ++ message ++ "\n\nCaused by:\n" ++ "\n".intercalate (causeLines causes) ++ "\n"

end TrafficChart.Program
