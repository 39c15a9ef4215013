import TrafficChart.History.Basic

/-!
# Window queries

The traffic of a window is the sum of the shares of all buckets that overlap it. A bucket that
is still being filled counts in full, any other one by the part of its length inside the
window. The query starts at the newest bucket that begins before the window ends and goes back
until a bucket ends before the window.

## Main definitions

* `boundary`: the first index at which a condition stops to hold, by bisection.
* `visitedFrom`: the buckets that a query looks at, newest first.
* `Bucket.overlap`, `Bucket.partIn`: how much of a bucket counts.
* `History.usage`: the query.
-/

namespace TrafficChart

/-- The first index in `[lo, hi)` whose entry fails the condition, `hi` if there is none, when
no entry that fails stands before one that holds. -/
def boundary {α : Type} (holds : α → Bool) (xs : Array α) (lo hi : Nat) : Nat :=
  if lo < hi then
    let mid := lo + (hi - lo) / 2
    match xs[mid]? with
    | none => lo
    | some x => if holds x then boundary holds xs (mid + 1) hi else boundary holds xs lo mid
  else lo
termination_by hi - lo

namespace Bucket

/-- Whether the bucket is being filled at the instant `asOf`. -/
def Active (b : Bucket) (asOf : Int64) : Prop := b.start < asOf ∧ asOf < b.finish

instance (b : Bucket) (asOf : Int64) : Decidable (b.Active asOf) :=
  inferInstanceAs (Decidable (_ ∧ _))

/-- The length of the common part with the window, negative if they are apart. -/
def cut (b : Bucket) (start finish : Int64) : Int :=
  min b.finish.toInt finish.toInt - max b.start.toInt start.toInt

/-- The length that counts: all of an active bucket, else the common part. -/
def overlap (b : Bucket) (start finish asOf : Int64) : Int :=
  if b.Active asOf then b.duration.toInt else b.cut start finish

/-- The part of a counter of the bucket that falls into the window. -/
@[inline] def partIn (b : Bucket) (start finish asOf : Int64) (bytes : UInt64) : UInt64 :=
  share bytes (b.overlap start finish asOf) b.duration.toInt

end Bucket

/-- The buckets before index `count`, newest first, up to one that ends by `start`. -/
def visitedFrom (buckets : Array Bucket) (start : Int64) : Nat → List Bucket
  | 0 => []
  | i + 1 =>
    match buckets[i]? with
    | none => []
    | some b => if b.finish ≤ start then [] else b :: visitedFrom buckets start i

namespace History

/-- The buckets that a query over the window looks at, newest first. -/
def visited (h : History) (start finish : Int64) : List Bucket :=
  visitedFrom h.buckets start
    (boundary (fun b => decide (b.start < finish)) h.buckets 0 h.buckets.size)

/-- Adds the shares of a bucket to the counters of the window. -/
def credit (start finish asOf : Int64) (window b : Bucket) : Bucket :=
  { window with
    rx := satSum window.rx (b.partIn start finish asOf b.rx)
    tx := satSum window.tx (b.partIn start finish asOf b.tx) }

/-- The window itself, before anything is counted. -/
def emptyWindow (start finish : Int64) : Bucket :=
  ⟨start, if finish ≤ start then 0 else satSub finish start, 0, 0⟩

/-- The traffic of the window from `start` to before `finish`, as seen at `asOf`. -/
def usage (h : History) (start finish asOf : Int64) : Bucket :=
  if finish ≤ start then emptyWindow start finish
  else (h.visited start finish).foldl (credit start finish asOf) (emptyWindow start finish)

theorem usage_of_le (h : History) {start finish : Int64} (asOf : Int64)
    (hle : finish ≤ start) : h.usage start finish asOf = ⟨start, 0, 0, 0⟩ := by
  simp [usage, emptyWindow, hle]

instance : UsageSource History where
  size := History.size
  bucket? h i := h.buckets[i]?
  bucketLength := History.bucketLength
  usage := History.usage

end History

end TrafficChart
