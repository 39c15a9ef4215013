import TrafficChart.Decimal.Shortest

/-!
# Refusals

What a chart, a history and a recorder do not accept, and the wording of each refusal.
-/

namespace TrafficChart

/-- Why forecast settings are refused. -/
inductive SettingsFault where
  | emptyWindow
  | emptySeason
  | noWeight
  | noSteps
  deriving DecidableEq, Inhabited

def SettingsFault.message : SettingsFault → String
  | .emptyWindow => "windows must be positive"
  | .emptySeason => "season must be positive"
  | .noWeight => "weights must not both be zero"
  | .noSteps => "max_steps must be positive"

inductive Refusal where
  /-- A nominal bucket length that is not positive. -/
  | nominalLength (length : Int64)
  | emptyBucket (index : Nat) (duration : Int64)
  | unorderedBucket (index : Nat) (start previous : Int64)
  | overlappingBucket (index : Nat) (start previousFinish : Int64)
  | reversedTransfer (start finish : Int64)
  | viewport (width height : Float32)
  | settings (fault : SettingsFault)

def Refusal.message : Refusal → String
  | .nominalLength length =>
    s!"nominal bucket duration must be positive, got {length} ms"
  | .emptyBucket index duration =>
    s!"bucket {index} has non-positive duration {duration} ms"
  | .unorderedBucket index start previous =>
    s!"bucket {index} starts at {start}, before previous bucket start {previous}"
  | .overlappingBucket index start previousFinish =>
    s!"bucket {index} starts at {start}, inside previous bucket ending at {previousFinish}"
  | .reversedTransfer start finish =>
    s!"transfer interval [{start}, {finish}) is reversed"
  | .viewport width height =>
    s!"viewport {Decimal.render width}x{Decimal.render height} must be finite and non-negative"
  | .settings fault => s!"invalid forecast config: {fault.message}"

end TrafficChart
