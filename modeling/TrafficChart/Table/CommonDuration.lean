import TrafficChart.Bucket
import TrafficChart.Calendar.Units

/-!
# The common duration

The nominal bucket length of a table is the duration that most of its buckets have. Of equally
frequent durations the longest one is taken.
-/

namespace TrafficChart.Table

/-- A duration and how often it occurs. -/
structure Frequency where
  duration : Int64
  count : Nat
  deriving DecidableEq

/-- Whether `a` is taken rather than `b`. -/
def Frequency.Beats (a b : Frequency) : Prop :=
  b.count < a.count ∨ (b.count = a.count ∧ b.duration < a.duration)

instance (a b : Frequency) : Decidable (a.Beats b) := inferInstanceAs (Decidable (_ ∨ _))

/-- The better one of a frequency and the best of others. -/
def Frequency.better (a : Frequency) : Option Frequency → Frequency
  | none => a
  | some b => if b.Beats a then b else a

/-- Every duration with its frequency. -/
def frequencies (durations : List Int64) : List Frequency :=
  durations.eraseDups.map fun d => ⟨d, durations.count d⟩

def mostFrequent (fs : List Frequency) : Option Frequency :=
  fs.foldr (fun f best => some (f.better best)) none

/-- The most frequent duration, if there is a bucket. -/
def commonDuration (buckets : List Bucket) : Option Int64 :=
  (mostFrequent (frequencies (buckets.map Bucket.duration))).map Frequency.duration

/-- The nominal bucket length of a table, an hour if it has no bucket. -/
def nominalLength (buckets : List Bucket) : Int64 := (commonDuration buckets).getD oneHour

theorem mostFrequent_eq_none_iff (fs : List Frequency) : mostFrequent fs = none ↔ fs = [] := by
  cases fs <;> simp [mostFrequent]

end TrafficChart.Table
