import TrafficChart.Chart
import TrafficChart.Diagnostic
import TrafficChart.History.Window
import TrafficChart.Main
import TrafficChart.Program.Run
import TrafficChart.Proofs.Chart.Fitting
import TrafficChart.Proofs.Chart.Refused
import TrafficChart.Proofs.Chart.Scales
import TrafficChart.Proofs.Curves.Clipping
import TrafficChart.Proofs.Curves.Columns
import TrafficChart.Proofs.Curves.Heights
import TrafficChart.Proofs.Curves.Joint
import TrafficChart.Proofs.Curves.LookAhead
import TrafficChart.Proofs.Curves.Rightward
import TrafficChart.Proofs.Curves.Shift
import TrafficChart.Proofs.Forecast.ClosedForm
import TrafficChart.Proofs.Forecast.Locality
import TrafficChart.Proofs.Forecast.Mean
import TrafficChart.Proofs.Forecast.Steady
import TrafficChart.Proofs.Geometry.Order
import TrafficChart.Proofs.History.Acceptance
import TrafficChart.Proofs.History.FullScan
import TrafficChart.Proofs.History.Nesting
import TrafficChart.Proofs.History.Overflow
import TrafficChart.Proofs.History.Portions
import TrafficChart.Proofs.History.Shift
import TrafficChart.Proofs.History.Splitting
import TrafficChart.Proofs.History.Steady
import TrafficChart.Proofs.History.Truncation
import TrafficChart.Proofs.Recorder.Alignment
import TrafficChart.Proofs.Recorder.Conservation
import TrafficChart.Proofs.Recorder.Counters
import TrafficChart.Proofs.Recorder.Order
import TrafficChart.Proofs.Recorder.Proportion
import TrafficChart.Proofs.Recorder.Spread
import TrafficChart.Proofs.Series.Operations
import TrafficChart.Proofs.Table.Load
import TrafficChart.Proofs.Trace.ClosedForm
import TrafficChart.Recorder
import TrafficChart.Table.Load
