import Mathlib.Data.List.TakeWhile
import TrafficChart.Proofs.History.Portions
import TrafficChart.Proofs.History.Shift

/-!
# Window queries do not overflow

A query takes a difference of instants in 64 bits and a product in 128, clamps the quotient to a
byte count, and passes over a bucket of which no time counts. The buckets that it looks at have a
length, begin before the window ends and end after it begins. So some time of each of them counts,
but no more than its length. Hence neither the difference nor the product overflows, no quotient is
clamped and no bucket is passed over. For this the buckets need to have a length and to be in order
of their starts only.
-/

namespace TrafficChart

/-! ## The buckets that a query looks at -/

/-- Buckets that have a length and are in order of their starts. They may overlap. -/
structure Searchable (buckets : List Bucket) : Prop where
  duration_pos : ∀ b ∈ buckets, 0 < b.duration
  start_mono : buckets.Pairwise fun a b => a.start ≤ b.start

theorem Ordered.searchable {buckets : List Bucket} (ho : Ordered buckets) : Searchable buckets :=
  ⟨ho.duration_pos, ho.start_mono⟩

/-- The bucket has a length, begins before the window ends and ends after it begins. -/
structure Bucket.Meets (b : Bucket) (start finish : Int64) : Prop where
  duration_pos : 0 < b.duration
  start_lt : b.start < finish
  lt_finish : start < b.finish

theorem Searchable.meets {h : History} (hs : Searchable h.toList) {start finish : Int64}
    {b : Bucket} (hb : b ∈ h.visited start finish) : b.Meets start finish := by
  rw [History.visited_eq_takeWhile hs.start_mono] at hb
  have hexit : start < b.finish := by simpa using List.mem_takeWhile_imp hb
  have hbound := (List.takeWhile_sublist _).mem hb
  rw [List.mem_reverse, List.mem_filter, decide_eq_true_eq] at hbound
  exact ⟨hs.duration_pos b hbound.1, hbound.2, hexit⟩

/-! ## Differences and shares -/

namespace Bucket

variable {b : Bucket} {start finish : Int64}

/-- The length that counts, if it can be computed on words. -/
def overlap? (b : Bucket) (start finish asOf : Int64) : Option Int :=
  if b.Active asOf then some b.duration.toInt
  else if InRange (b.cut start finish) then some (b.cut start finish)
  else none

theorem Meets.overlap_bounds (hm : b.Meets start finish) (hw : start < finish) (asOf : Int64) :
    0 < b.overlap start finish asOf ∧ b.overlap start finish asOf ≤ b.duration.toInt :=
  History.overlap_of_meets asOf hm.duration_pos hw hm.start_lt hm.lt_finish

theorem Meets.inRange_cut (hm : b.Meets start finish) (hw : start < finish) :
    InRange (b.cut start finish) := by
  -- A bucket is not yet being filled when it starts.
  have hidle : ¬ b.Active b.start := fun ha => Int64.lt_irrefl ha.1
  obtain ⟨hpos, hle⟩ := hm.overlap_bounds hw b.start
  rw [overlap, if_neg hidle] at hpos hle
  have hmax := b.duration.toInt_lt
  constructor <;> omega

theorem Meets.overlap?_eq (hm : b.Meets start finish) (hw : start < finish) (asOf : Int64) :
    b.overlap? start finish asOf = some (b.overlap start finish asOf) := by
  unfold overlap? overlap
  rw [if_pos (hm.inRange_cut hw)]
  split <;> rfl

end Bucket

/-- The part `part / whole` of a byte count, if some time counts, the product fits into 128 bits and
the quotient into 64. -/
def share? (bytes : UInt64) (part whole : Int) : Option UInt64 :=
  let product := bytes.toNat * part.toNat
  if 0 < part ∧ 0 < whole ∧ product < 2 ^ 128 ∧ product / whole.toNat < 2 ^ 64 then
    some (UInt64.ofNat (product / whole.toNat))
  else none

theorem mul_toNat_lt (bytes : UInt64) {part : Int} {whole : Int64} (hle : part ≤ whole.toInt) :
    bytes.toNat * part.toNat < 2 ^ 128 := by
  have hwhole := whole.toInt_lt
  have hpart : part.toNat < 2 ^ 63 := by omega
  calc bytes.toNat * part.toNat < 2 ^ 64 * 2 ^ 63 := Nat.mul_lt_mul'' bytes.toNat_lt hpart
    _ < 2 ^ 128 := by decide

theorem share?_of_le (bytes : UInt64) {part : Int} {whole : Int64} (hp : 0 < part)
    (hle : part ≤ whole.toInt) :
    share? bytes part whole.toInt = some (share bytes part whole.toInt) := by
  have hquotient := Nat.lt_of_le_of_lt (mul_toNat_div_le bytes.toNat hle) bytes.toNat_lt
  rw [share?, if_pos ⟨hp, Int.lt_of_lt_of_le hp hle, mul_toNat_lt bytes hle, hquotient⟩]
  refine congrArg some (UInt64.toNat_inj.1 ?_)
  rw [UInt64.toNat_ofNat_of_lt' hquotient, toNat_share_of_le bytes hp hle]

namespace History

variable {start finish : Int64}

/-! ## The whole query -/

/-- Adds the shares of a bucket to the counters of the window, if both can be computed on words. -/
def credit? (start finish asOf : Int64) (window b : Bucket) : Option Bucket := do
  let length ← b.overlap? start finish asOf
  let rx ← share? b.rx length b.duration.toInt
  let tx ← share? b.tx length b.duration.toInt
  return { window with rx := satSum window.rx rx, tx := satSum window.tx tx }

/-- The traffic of the window, if no bucket is passed over and nothing overflows or is clamped,
apart from the counters of the window. -/
def usage? (h : History) (start finish asOf : Int64) : Option Bucket :=
  if finish ≤ start then some (emptyWindow start finish)
  else (h.visited start finish).foldlM (credit? start finish asOf) (emptyWindow start finish)

theorem credit?_of_meets {b : Bucket} (hm : b.Meets start finish) (hw : start < finish)
    (asOf : Int64) (window : Bucket) :
    credit? start finish asOf window b = some (credit start finish asOf window b) := by
  obtain ⟨hpos, hle⟩ := hm.overlap_bounds hw asOf
  simp [credit?, hm.overlap?_eq hw, share?_of_le _ hpos hle, credit, Bucket.partIn]

theorem foldlM_credit? (hw : start < finish) (asOf : Int64) {buckets : List Bucket}
    (hm : ∀ b ∈ buckets, b.Meets start finish) (window : Bucket) :
    buckets.foldlM (credit? start finish asOf) window =
      some (buckets.foldl (credit start finish asOf) window) := by
  induction buckets generalizing window with
  | nil => rfl
  | cons b buckets ih =>
    rw [List.foldlM_cons, credit?_of_meets (hm b (List.mem_cons_self ..)) hw asOf, List.foldl_cons]
    exact ih (fun a ha => hm a (List.mem_cons_of_mem b ha)) _

theorem usage?_eq_some {h : History} (hs : Searchable h.toList) (start finish asOf : Int64) :
    h.usage? start finish asOf = some (h.usage start finish asOf) := by
  unfold usage? usage
  split
  · rfl
  · rename_i hw
    exact foldlM_credit? (Int64.not_le.1 hw) asOf (fun b hb => hs.meets hb) _

/-- The buckets of a history that can arise have a length and are in order of their starts. Over
such buckets a query never overflows, clamps a quotient or passes over a bucket. Of each bucket that
it looks at some time counts and no more than its length, the difference of instants is in the range
of instants, the product fits into 128 bits, and the quotient counts as it is and is no more than
the bytes of the bucket. -/
theorem usage_without_overflow (h : History) :
    (h.Reachable → Searchable h.toList) ∧
    (Searchable h.toList → ∀ start finish asOf : Int64,
      h.usage? start finish asOf = some (h.usage start finish asOf) ∧
      (start < finish → ∀ b ∈ h.visited start finish,
        (0 < b.overlap start finish asOf ∧ b.overlap start finish asOf ≤ b.duration.toInt) ∧
        InRange (min b.finish.toInt finish.toInt - max b.start.toInt start.toInt) ∧
        ∀ c : Counter,
          let product := (b.bytes c).toNat * (b.overlap start finish asOf).toNat
          product < 2 ^ 128 ∧
          (b.partIn start finish asOf (b.bytes c)).toNat = product / b.duration.toInt.toNat ∧
          b.partIn start finish asOf (b.bytes c) ≤ b.bytes c)) := by
  refine ⟨fun hr => hr.ordered.searchable, fun hs start finish asOf => ?_⟩
  refine ⟨usage?_eq_some hs start finish asOf, fun hw b hb => ?_⟩
  have hm : b.Meets start finish := hs.meets hb
  obtain ⟨hpos, hle⟩ := hm.overlap_bounds hw asOf
  refine ⟨⟨hpos, hle⟩, hm.inRange_cut hw, fun c => ⟨mul_toNat_lt _ hle, ?_, ?_⟩⟩
  · exact toNat_share_of_le (b.bytes c) hpos hle
  · exact share_le (b.bytes c) hpos hle

/-- The longest buckets, with the greatest byte counts, and the longest window. At -5 the first one
is still being filled. -/
theorem usage_of_longest_buckets :
    let b : Bucket := ⟨0, 9223372036854775807, 18446744073709551615, 1⟩
    ∃ h, ofBuckets 1 [⟨-9223372036854775808, 9223372036854775807, 18446744073709551615, 7⟩, b] =
        .ok h ∧
      Searchable h.toList ∧ (-9223372036854775808 : Int64) < 9223372036854775807 ∧
      b ∈ h.visited (-9223372036854775808) 9223372036854775807 ∧
      h.usage? (-9223372036854775808) 9223372036854775807 (-5) =
        some (h.usage (-9223372036854775808) 9223372036854775807 (-5)) ∧
      b.rx.toNat *
        (b.overlap (-9223372036854775808) 9223372036854775807 (-5)).toNat < 2 ^ 128 ∧
      b.partIn (-9223372036854775808) 9223372036854775807 (-5) b.rx ≤ b.rx := by
  intro b
  let h : History :=
    ⟨1, #[⟨-9223372036854775808, 9223372036854775807, 18446744073709551615, 7⟩, b]⟩
  have hb : ofBuckets 1 h.toList = .ok h := rfl
  have hw : (-9223372036854775808 : Int64) < 9223372036854775807 := by decide
  obtain ⟨hsearchable, hsafe⟩ := usage_without_overflow h
  have hs : Searchable h.toList := hsearchable (.ofBuckets hb)
  obtain ⟨hsome, hvisit⟩ := hsafe hs (-9223372036854775808) 9223372036854775807 (-5)
  have hvisited : b ∈ h.visited (-9223372036854775808) 9223372036854775807 := by
    rw [visited_eq_meeting (Reachable.ofBuckets hb).ordered, List.mem_reverse, mem_meeting]
    decide
  obtain ⟨-, -, hcounter⟩ := hvisit hw b hvisited
  obtain ⟨hproduct, -, hle⟩ := hcounter .rx
  exact ⟨h, hb, hs, hw, hvisited, hsome, hproduct, hle⟩

end History

end TrafficChart
