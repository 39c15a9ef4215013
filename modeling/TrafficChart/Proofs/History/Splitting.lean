import TrafficChart.Proofs.History.Acceptance
import TrafficChart.Proofs.History.Portions

/-!
# Splitting a window

A window that is cut in two counts what its two parts count, apart from the one bucket that may lie
across the cut. Each part rounds its share of that bucket down, so together they may miss one byte.
If the bucket is being filled, it counts in full on both sides.
-/

namespace TrafficChart

/-- At most one bucket lies across an instant. -/
theorem Ordered.not_across {older newer : List Bucket} {b : Bucket} {t : Int64}
    (ho : Ordered (older ++ b :: newer)) (hb : b.start < t ∧ t < b.finish) :
    ∀ a ∈ older ++ newer, ¬ (a.start < t ∧ t < a.finish) := by
  have hone := (List.pairwise_middle fun hab t ht => hab t ht.symm).1 ho.covers_one
  intro a hm ha
  exact (List.pairwise_cons.1 hone).1 a hm t
    ⟨⟨Int64.le_of_lt hb.1, hb.2⟩, Int64.le_of_lt ha.1, ha.2⟩

namespace Bucket

variable {b : Bucket} {start cut finish asOf : Int64} {c : Counter}

/-! ## A bucket beside the cut -/

theorem portion_congr {start' finish' : Int64}
    (hmeets : b.start < finish ∧ start < b.finish ↔ b.start < finish' ∧ start' < b.finish)
    (hcut : b.cut start finish = b.cut start' finish') :
    b.portion start finish asOf c = b.portion start' finish' asOf c := by
  simp only [portion, partIn, overlap, hcut, hmeets]

theorem portion_of_finish_le (hd : 0 < b.duration) (hr : cut < finish) (hf : b.finish ≤ cut) :
    b.portion start finish asOf c = b.portion start cut asOf c := by
  have hend := b.toInt_finish hd
  have hmax := finish.toInt_lt
  simp only [Int64.lt_iff_toInt_lt, Int64.le_iff_toInt_le, Int64.toInt_zero] at hd hr hf
  apply portion_congr
  · simp only [Int64.lt_iff_toInt_lt]
    omega
  · simp only [Bucket.cut]
    omega

theorem portion_of_le_start (hd : 0 < b.duration) (hl : start < cut) (hs : cut ≤ b.start) :
    b.portion start finish asOf c = b.portion cut finish asOf c := by
  have hend := b.toInt_finish hd
  have hmax := finish.toInt_lt
  simp only [Int64.lt_iff_toInt_lt, Int64.le_iff_toInt_le, Int64.toInt_zero] at hd hl hs
  apply portion_congr
  · simp only [Int64.lt_iff_toInt_lt]
    omega
  · simp only [Bucket.cut]
    omega

/-- A bucket that does not lie across the cut counts on one side only, and as in the whole. -/
theorem portion_of_beside (hd : 0 < b.duration) (hl : start < cut) (hr : cut < finish)
    (hbeside : ¬ (b.start < cut ∧ cut < b.finish)) :
    b.portion start finish asOf c =
      b.portion start cut asOf c + b.portion cut finish asOf c := by
  rcases not_and_or.1 hbeside with hs | hf
  · have hnone : b.portion start cut asOf c = 0 := portion_of_apart fun hm => hs hm.1
    rw [hnone, Nat.zero_add, portion_of_le_start hd hl (Int64.not_lt.1 hs)]
  · have hnone : b.portion cut finish asOf c = 0 := portion_of_apart fun hm => hf hm.2
    rw [hnone, Nat.add_zero, portion_of_finish_le hd hr (Int64.not_lt.1 hf)]

/-! ## A bucket across the cut -/

/-- The lengths on both sides make up the length in the whole window. -/
theorem cut_add_cut (hacross : b.start < cut ∧ cut < b.finish) :
    b.cut start cut + b.cut cut finish = b.cut start finish := by
  simp only [Int64.lt_iff_toInt_lt] at hacross
  simp only [Bucket.cut]
  omega

/-- A bucket across the cut meets the whole window. -/
theorem meets_of_across (hl : start < cut) (hr : cut < finish)
    (hacross : b.start < cut ∧ cut < b.finish) : b.start < finish ∧ start < b.finish :=
  ⟨Int64.lt_trans hacross.1 hr, Int64.lt_trans hl hacross.2⟩

/-- Rounding down on both sides misses at most one byte. -/
theorem portion_of_across (hd : 0 < b.duration) (hl : start < cut) (hr : cut < finish)
    (hacross : b.start < cut ∧ cut < b.finish) (hidle : ¬ b.Active asOf) :
    b.portion start cut asOf c + b.portion cut finish asOf c ≤ b.portion start finish asOf c ∧
      b.portion start finish asOf c ≤
        b.portion start cut asOf c + b.portion cut finish asOf c + 1 := by
  obtain ⟨hs, hf⟩ := hacross
  obtain ⟨hsf, hfs⟩ := meets_of_across hl hr ⟨hs, hf⟩
  have holder := (History.overlap_of_meets asOf hd hl hs hfs).1
  have hnewer := (History.overlap_of_meets asOf hd hr hsf hf).1
  rw [portion_of_meets hd hl hs hfs, portion_of_meets hd hr hsf hf,
    portion_of_meets hd (Int64.lt_trans hl hr) hsf hfs]
  simp only [overlap, if_neg hidle] at holder hnewer ⊢
  have hsum : b.cut start finish = b.cut start cut + b.cut cut finish :=
    (cut_add_cut ⟨hs, hf⟩).symm
  rw [hsum, Int.toNat_add holder.le hnewer.le, Nat.mul_add, Nat.add_div (duration_toNat_pos hd)]
  split <;> omega

/-- A bucket that is being filled counts in full on both sides. -/
theorem portion_of_across_active (hd : 0 < b.duration) (hl : start < cut) (hr : cut < finish)
    (hacross : b.start < cut ∧ cut < b.finish) (hactive : b.Active asOf) :
    b.portion start cut asOf c + b.portion cut finish asOf c =
      b.portion start finish asOf c + (b.bytes c).toNat := by
  obtain ⟨hs, hf⟩ := hacross
  obtain ⟨hsf, hfs⟩ := meets_of_across hl hr ⟨hs, hf⟩
  rw [portion_of_active hd hactive hs hfs, portion_of_active hd hactive hsf hf,
    portion_of_active hd hactive hsf hfs]

end Bucket

namespace History

variable {start cut finish : Int64}

theorem sum_portion_of_beside {buckets : List Bucket} (hd : ∀ b ∈ buckets, 0 < b.duration)
    (hl : start < cut) (hr : cut < finish) (asOf : Int64) (c : Counter)
    (hbeside : ∀ b ∈ buckets, ¬ (b.start < cut ∧ cut < b.finish)) :
    (buckets.map fun b => b.portion start finish asOf c).sum =
      (buckets.map fun b => b.portion start cut asOf c).sum +
        (buckets.map fun b => b.portion cut finish asOf c).sum := by
  rw [← List.sum_map_add]
  refine congrArg List.sum (List.map_congr_left fun b hb => ?_)
  exact Bucket.portion_of_beside (hd b hb) hl hr (hbeside b hb)

/-- All that the parts of a window miss or count twice is due to the bucket across the cut. -/
theorem sum_portion_of_across {buckets : List Bucket} (ho : Ordered buckets) (hl : start < cut)
    (hr : cut < finish) (asOf : Int64) (c : Counter) {b : Bucket} (hb : b ∈ buckets)
    (hacross : b.start < cut ∧ cut < b.finish) :
    ∃ beside,
      (buckets.map fun b => b.portion start finish asOf c).sum =
        b.portion start finish asOf c + beside ∧
      (buckets.map fun b => b.portion start cut asOf c).sum +
          (buckets.map fun b => b.portion cut finish asOf c).sum =
        b.portion start cut asOf c + b.portion cut finish asOf c + beside := by
  obtain ⟨older, newer, rfl⟩ := List.append_of_mem hb
  have hmiddle (f : Bucket → Nat) : ((older ++ b :: newer).map f).sum =
      f b + ((older ++ newer).map f).sum := by
    rw [(List.perm_middle.map f).sum_nat, List.map_cons, List.sum_cons]
  have hothers : ∀ a ∈ older ++ newer, 0 < a.duration := fun a ha =>
    ho.duration_pos a (List.perm_middle.mem_iff.2 (List.mem_cons_of_mem b ha))
  have hbeside := sum_portion_of_beside hothers hl hr asOf c (ho.not_across hacross)
  refine ⟨((older ++ newer).map fun b => b.portion start finish asOf c).sum, hmiddle _, ?_⟩
  rw [hmiddle, hmiddle, hbeside]
  omega

/-- A window that is cut in two counts what its parts count if no bucket lies across the cut. A
bucket across the cut makes the parts miss at most one byte, or counts in full in both of them if
it is being filled. -/
theorem usage_split {h : History} (hreach : h.Reachable) {c : Counter}
    (hfits : (h.toList.map fun b => (b.bytes c).toNat).sum ≤ 18446744073709551615)
    {start cut finish : Int64} (hl : start < cut) (hr : cut < finish) (asOf : Int64) :
    let whole := ((h.usage start finish asOf).bytes c).toNat
    let parts := ((h.usage start cut asOf).bytes c).toNat +
      ((h.usage cut finish asOf).bytes c).toNat
    ((∀ b ∈ h.toList, ¬ (b.start < cut ∧ cut < b.finish)) → whole = parts) ∧
    ∀ b ∈ h.toList, b.start < cut ∧ cut < b.finish →
      (¬ (b.start < asOf ∧ asOf < b.finish) → parts ≤ whole ∧ whole ≤ parts + 1) ∧
      (b.start < asOf ∧ asOf < b.finish → parts = whole + (b.bytes c).toNat) := by
  have ho : Ordered h.toList := hreach.ordered
  intro whole parts
  have hwhole : whole = (h.toList.map fun b => b.portion start finish asOf c).sum :=
    bytes_usage_of_fits ho (Int64.lt_trans hl hr) hfits
  have hparts : parts = (h.toList.map fun b => b.portion start cut asOf c).sum +
      (h.toList.map fun b => b.portion cut finish asOf c).sum :=
    congrArg₂ (· + ·) (bytes_usage_of_fits ho hl hfits) (bytes_usage_of_fits ho hr hfits)
  constructor
  · intro hbeside
    rw [hwhole, hparts, sum_portion_of_beside ho.duration_pos hl hr asOf c hbeside]
  · intro b hb hacross
    have hd := ho.duration_pos b hb
    obtain ⟨beside, hsum, hsums⟩ := sum_portion_of_across ho hl hr asOf c hb hacross
    rw [hwhole, hparts, hsum, hsums]
    constructor
    · intro hidle
      have := Bucket.portion_of_across (c := c) hd hl hr hacross hidle
      omega
    · intro hactive
      have := Bucket.portion_of_across_active (c := c) hd hl hr hacross hactive
      omega

/-- A cut within the first of three buckets, once it is complete and while it is being filled. -/
theorem usage_split_of_filling :
    ∃ h, ofBuckets 100 [⟨0, 100, 101, 7⟩, ⟨300, 50, 50, 1⟩, ⟨9223372036854775800, 400, 400, 3⟩] =
        .ok h ∧
      (h.toList.map fun b => (b.bytes .rx).toNat).sum ≤ 18446744073709551615 ∧
      (0 : Int64) < 50 ∧ (50 : Int64) < 400 ∧
      (h.usage 0 50 100).rx.toNat + (h.usage 50 400 100).rx.toNat ≤
        (h.usage 0 400 100).rx.toNat ∧
      (h.usage 0 400 100).rx.toNat ≤
        (h.usage 0 50 100).rx.toNat + (h.usage 50 400 100).rx.toNat + 1 ∧
      (h.usage 0 50 60).rx.toNat + (h.usage 50 400 60).rx.toNat =
        (h.usage 0 400 60).rx.toNat + 101 := by
  let h : History := ⟨100, #[⟨0, 100, 101, 7⟩, ⟨300, 50, 50, 1⟩,
    ⟨9223372036854775800, 400, 400, 3⟩]⟩
  have hb : ofBuckets 100 h.toList = .ok h := rfl
  have hfits : (h.toList.map fun b => (b.bytes .rx).toNat).sum ≤ 18446744073709551615 := by decide
  have hl : (0 : Int64) < 50 := by decide
  have hr : (50 : Int64) < 400 := by decide
  obtain ⟨-, hcomplete⟩ := usage_split (.ofBuckets hb) hfits hl hr 100
  obtain ⟨-, hfilling⟩ := usage_split (.ofBuckets hb) hfits hl hr 60
  obtain ⟨hless, hmore⟩ := (hcomplete ⟨0, 100, 101, 7⟩ (by decide) (by decide)).1 (by decide)
  have htwice := (hfilling ⟨0, 100, 101, 7⟩ (by decide) (by decide)).2 (by decide)
  exact ⟨h, hb, hfits, hl, hr, hless, hmore, htwice⟩

end History

end TrafficChart
