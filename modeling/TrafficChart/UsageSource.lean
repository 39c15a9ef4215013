import TrafficChart.Bucket

/-!
# Sources of usage

What a chart reads: a sequence of buckets, their nominal length, and the usage of a window.

## Main definitions

* `UsageSource`: the interface.
* `UsageSource.buckets`: the buckets in order.
-/

namespace TrafficChart

class UsageSource (σ : Type) where
  size : σ → Nat
  bucket? : σ → Nat → Option Bucket
  /-- The nominal bucket length, the step of a forecast. -/
  bucketLength : σ → Int64
  /-- The usage from `start` to before `finish`, as seen at the instant `asOf`. -/
  usage : σ → (start finish asOf : Int64) → Bucket

namespace UsageSource

variable {σ : Type} [UsageSource σ]

/-- At most `count` buckets from index `i` on; a missing bucket ends the sequence. -/
def bucketsFrom (source : σ) (i : Nat) : Nat → List Bucket
  | 0 => []
  | count + 1 =>
    match bucket? source i with
    | none => []
    | some b => b :: bucketsFrom source (i + 1) count

/-- The buckets of a source, up to the first missing one. -/
def buckets (source : σ) : List Bucket := bucketsFrom source 0 (size source)

theorem bucketsFrom_eq_drop (source : σ) (bs : List Bucket)
    (h : ∀ i, bucket? source i = bs[i]?) (i count : Nat) (hc : i + count = bs.length) :
    bucketsFrom source i count = bs.drop i := by
  induction count generalizing i with
  | zero => simp [bucketsFrom, List.drop_of_length_le, ← hc]
  | succ count ih =>
    have hi : i < bs.length := by omega
    rw [bucketsFrom, h i, List.getElem?_eq_getElem hi, List.drop_eq_getElem_cons hi,
      ih (i + 1) (by omega)]

/-- A source that answers by the indices of a list has the buckets of that list. -/
theorem buckets_eq_of_bucket? (source : σ) (bs : List Bucket)
    (h : ∀ i, bucket? source i = bs[i]?) (hs : size source = bs.length) :
    buckets source = bs := by
  rw [buckets, bucketsFrom_eq_drop source bs h 0 _ (by omega), List.drop_zero]

end UsageSource

end TrafficChart
