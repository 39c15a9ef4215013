import TrafficChart.Program.Failure
import TrafficChart.Geometry.Viewport

/-!
# Options

The settings of a run: the input and the days shown from the arguments, the size of the chart
from the environment.
-/

namespace TrafficChart.Program

/-- The environment variable for the width. -/
def widthVariable : String := "NETCHART_WIDTH"

/-- The environment variable for the height. -/
def heightVariable : String := "NETCHART_HEIGHT"

/-- How the program is called. -/
structure Invocation where
  arguments : List String
  /-- The text of the variable for the width, if it is set. -/
  width : Option String
  /-- The text of the variable for the height, if it is set. -/
  height : Option String

structure Options where
  /-- The input file; without one the history is a sample. -/
  input : Option String
  /-- Days shown before the last recorded instant. -/
  visibleDays : Int64
  /-- Days shown after it. -/
  estimateDays : Int64
  viewport : Viewport

namespace Options

def standard : Options := ⟨none, 21, 9, Viewport.standard⟩

/-- A pixel size from the environment. -/
def extent (name : String) (fallback : Float32) : Option String → Except Failure Float32
  | none => .ok fallback
  | some value =>
    (Decimal.readFloat32 (Text.trim value)).mapError (.setting name value)

/-- A number of days from an argument. -/
def days (fallback : Int64) (failure : String → Decimal.NumeralError → Failure) :
    Option String → Except Failure Int64
  | none => .ok fallback
  | some text => (Decimal.readInt64 text).mapError (failure text)

/-- The options of a call. Further arguments are not looked at. -/
def ofInvocation (call : Invocation) : Except Failure Options := do
  let input := call.arguments[0]?.filter fun text => text ≠ "--synthetic"
  let visibleDays ← days standard.visibleDays .visibleDays call.arguments[1]?
  let estimateDays ← days standard.estimateDays .estimateDays call.arguments[2]?
  let width ← extent widthVariable standard.viewport.width call.width
  let height ← extent heightVariable standard.viewport.height call.height
  let viewport : Viewport := ⟨width, height⟩
  viewport.validate.mapError .chart
  return ⟨input, visibleDays, estimateDays, viewport⟩

/-- A file name without its last extension. A dot at the beginning starts no extension. -/
def stemOf (name : String) : String :=
  let reversed := name.toList.reverse
  let base := (reversed.dropWhile fun c => c ≠ '.').drop 1
  if base.isEmpty then name else String.ofList base.reverse

/-- The name under which the outlines of an input are stored. -/
def stem (o : Options) : String :=
  match o.input with
  | none => "synthetic"
  | some path =>
    match ((pathParts path).filter fun part => part ≠ ".").getLast? with
    | none => "synthetic"
    | some name => if name = ".." then "synthetic" else stemOf name

end Options

end TrafficChart.Program
