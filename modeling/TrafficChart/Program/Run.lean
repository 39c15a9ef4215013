import TrafficChart.Chart
import TrafficChart.Decimal.Fixed
import TrafficChart.History.Window
import TrafficChart.Program.Host
import TrafficChart.Program.Options
import TrafficChart.Program.Sample

/-!
# A run of the program

The program loads a history, fits a chart to it, prints the figures of the chart and writes its
three outlines as tables of points. What was printed or written before a failure stays.
-/

namespace TrafficChart

/-- The points of an outline, one per line, under the header of their coordinates. -/
def Outline.table (o : Outline) : String :=
  let lines := o.points.map fun p => Decimal.render p.x ++ "," ++ Decimal.render p.y
  String.join (("x,y" :: lines).map (· ++ "\n"))

namespace Program

def outputFolder : String := "target/out"

/-- The file for an outline. -/
def outputPath (stem name : String) : String := s!"{outputFolder}/outline_{stem}_{name}.csv"

section

variable {m : Type → Type} [Monad m] [Host m]

/-- The history in the file at a path. -/
def readHistory (path : String) : ExceptT (Stop InputError) m History := do
  match ← Host.readFile path with
  | .error e => throw (.refused (.file path e))
  | .ok content =>
    match Table.load Csv.Document.ofBytes readDateTime content.toList with
    | .error e => throw (e.map .table)
    | .ok h => return h

/-- The history that a run is about. -/
def historyFor (options : Options) : ExceptT (Stop Failure) m History := do
  match options.input with
  | some path => (readHistory path).adapt (Stop.map (.input path))
  | none =>
    Host.printLine "No input file, synthesizing five weeks of usage"
    match sampleHistory 5 with
    | .ok h => return h
    | .error e => throw (.refused (.chart e))

end

/-- The window around the last recorded instant. -/
def windowOf (options : Options) (last : Int64) : Except Overflow (Int64 × Int64) := do
  let back ← word64 .multiplication (options.visibleDays.toInt * oneDay.toInt)
  let left ← word64 .subtraction (last.toInt - back.toInt)
  let ahead ← word64 .multiplication (options.estimateDays.toInt * oneDay.toInt)
  let right ← word64 .addition (last.toInt + ahead.toInt)
  return (left, right)

/-- The chart of a history that ends at `last`, with the given window. Recorded usage stops at
`asOf`, so that the estimate fills the right side. -/
def chartOf (options : Options) (h : History) (window : Int64 × Int64) (last asOf : Int64) :
    Except Overflow (Chart History) := do
  let chart := ((Chart.create options.viewport).showTimes window.1 window.2).bind h
  let lastWeek ← word64 .subtraction (last.toInt - oneWeek.toInt)
  let series := ((chart.series.holdUntil asOf).withPrimary lastWeek last).showEstimate true
  return { chart with series }

/-- The figures of a chart with the given window and top. -/
def figures (chart : Chart History) (window : Int64 × Int64) (top : Int64) : List String :=
  let (primaryLeft, primaryRight) := chart.series.primaryEdges chart.time.rightward
  let curves := chart.series.curves
  let fixed := Decimal.renderFixed 1
  [s!"Window {renderMinute window.1} .. {renderMinute window.2}",
   s!"Real total:     {curves.recordedTotal}",
   s!"Estimate total: {curves.estimatedTotal}",
   s!"Data axis top:  {top}",
   s!"Primary range:  x={fixed primaryLeft} .. {fixed primaryRight}"]

/-- The figures of the end of the estimate, if there is one. -/
def finalFigures (chart : Chart History) : Except Overflow (List String) := do
  match chart.series.curves.estimate.last? with
  | none => return []
  | some p =>
    let instant ← chart.time.instantAt p.x
    let bytes ← chart.data.bytesAt p.y
    return [s!"Estimate ends:  {renderMinute instant} at ~{bytes} bytes"]

section

variable {m : Type → Type} [Monad m] [Host m]

/-- Prints lines in order. -/
def printLines : List String → m Unit
  | [] => pure ()
  | line :: rest => do
    Host.printLine line
    printLines rest

/-- Writes an outline to its file. -/
def writeOutline (stem name : String) (o : Outline) : ExceptT (Stop Failure) m Unit := do
  let path := outputPath stem name
  Host.makeFolders outputFolder
  match ← Host.writeFile path o.table with
  | .error e => throw (.refused (.output path e))
  | .ok _ => Host.printLine s!"Wrote {path} ({o.size} points)"

/-- A value that may overflow. -/
def checked {α : Type} (value : Except Overflow α) : ExceptT (Stop Failure) m α :=
  ExceptT.mk (pure (value.mapError .overflow))

/-- The program, with the options of a call. -/
def runWith (options : Options) : ExceptT (Stop Failure) m Unit := do
  let h ← historyFor options
  Host.printLine s!"Loaded {h.size} buckets, {h.totalBytes} bytes total"
  match h.finish? with
  | none => throw (.refused .emptyHistory)
  | some last =>
    let window ← checked (windowOf options last)
    let asOf := min last (← Host.now)
    let chart ← checked (chartOf options h window last asOf)
    match chart.fit asOf with
    | (_, .error e) => throw (e.map .chart)
    | (chart, .ok top) =>
      printLines (figures chart window top)
      printLines (← checked (finalFigures chart))
      let curves := chart.series.curves
      writeOutline options.stem "stroke" curves.stroke
      writeOutline options.stem "fill" curves.fill
      writeOutline options.stem "estimate" curves.estimate

/-- The program. -/
def run (call : Invocation) : ExceptT (Stop Failure) m Unit := do
  match Options.ofInvocation call with
  | .error e => throw (.refused e)
  | .ok options => runWith options

end

end Program

end TrafficChart
