import TrafficChart.History.Window
import TrafficChart.Proofs.History.Reachable

/-!
# Window queries scan all buckets

A window query bisects for the newest bucket that begins before the window ends and stops at the
first one that ends before the window. Starts and ends of the buckets are both in order, so
these are exactly the buckets that meet the window, and the query counts what a scan of the
whole history counts.
-/

namespace TrafficChart

/-! ## Conditions that hold up to an index -/

section

variable {α : Type} {p : α → Bool}

theorem takeWhile_eq_filter {l : List α} (h : l.Pairwise fun a b => p b → p a) :
    l.takeWhile p = l.filter p := by
  induction l with
  | nil => rfl
  | cons a l ih =>
    obtain ⟨ha, hl⟩ := List.pairwise_cons.1 h
    by_cases hp : p a
    · simp [hp, ih hl]
    · have hnone : l.filter p = [] := List.filter_eq_nil_iff.2 fun b hb hpb => hp (ha b hb hpb)
      simp [hp, hnone]

theorem holds_getElem?_iff {l : List α} (h : l.Pairwise fun a b => p b → p a) {i : Nat} {x : α}
    (hx : l[i]? = some x) : p x ↔ i < (l.takeWhile p).length := by
  induction l generalizing i with
  | nil => simp at hx
  | cons a l ih =>
    obtain ⟨ha, hl⟩ := List.pairwise_cons.1 h
    by_cases hp : p a
    · cases i with
      | zero => simp_all
      | succ i => simpa [hp] using ih hl hx
    · have hfail : ¬ p x := by
        rcases List.mem_cons.1 (List.mem_of_getElem? hx) with rfl | hm
        · exact hp
        · exact fun hpx => hp (ha x hm hpx)
      simp [hp, hfail]

/-- Bisection finds the index at which a condition stops to hold. -/
theorem boundary_eq {xs : Array α} {lo hi stop : Nat}
    (hstop : ∀ i x, xs[i]? = some x → (p x ↔ i < stop)) (hlo : lo ≤ stop) (hhi : stop ≤ hi)
    (hsize : hi ≤ xs.size) : boundary p xs lo hi = stop := by
  fun_induction boundary p xs lo hi with
  | case1 lo hi hlt mid hnone =>
    have : mid < xs.size := by omega
    simp [this] at hnone
  | case2 lo hi hlt mid x hx hp ih =>
    have := (hstop mid x hx).1 hp
    exact ih (by omega) hhi hsize
  | case3 lo hi hlt mid x hx hp ih =>
    have := mt (hstop mid x hx).2 hp
    exact ih hlo (by omega) (by omega)
  | case4 lo hi hlt => omega

theorem boundary_eq_length {xs : Array α} (h : xs.toList.Pairwise fun a b => p b → p a) :
    boundary p xs 0 xs.size = (xs.toList.takeWhile p).length :=
  boundary_eq (fun i x hx => holds_getElem?_iff h (by simpa using hx)) (Nat.zero_le _)
    (List.takeWhile_prefix p).length_le (Nat.le_refl _)

theorem take_boundary {xs : Array α} (h : xs.toList.Pairwise fun a b => p b → p a) :
    xs.toList.take (boundary p xs 0 xs.size) = xs.toList.filter p := by
  rw [boundary_eq_length h, ← takeWhile_eq_filter h]
  exact (List.prefix_iff_eq_take.1 (List.takeWhile_prefix p)).symm

end

/-! ## The buckets that a query looks at -/

theorem visitedFrom_eq (buckets : Array Bucket) (start : Int64) (count : Nat)
    (hc : count ≤ buckets.size) :
    visitedFrom buckets start count =
      (buckets.toList.take count).reverse.takeWhile fun b => decide (start < b.finish) := by
  induction count with
  | zero => rfl
  | succ i ih =>
    have hi : i < buckets.size := hc
    rw [visitedFrom, Array.getElem?_eq_getElem hi, List.take_succ_eq_append_getElem (by simpa),
      List.reverse_append, List.reverse_singleton, List.singleton_append, Array.getElem_toList]
    by_cases hb : start < buckets[i].finish
    · simp only [Int64.not_le.2 hb, if_false]
      rw [ih (by omega), List.takeWhile_cons_of_pos (by simpa using hb)]
    · simp only [Int64.not_lt.1 hb, if_true]
      rw [List.takeWhile_cons_of_neg (by simpa using hb)]

namespace History

/-- The buckets that begin before the window ends and end after it begins. -/
def meeting (h : History) (start finish : Int64) : List Bucket :=
  h.toList.filter fun b => b.start < finish ∧ start < b.finish

theorem mem_meeting {h : History} {start finish : Int64} {b : Bucket} :
    b ∈ h.meeting start finish ↔ b ∈ h.toList ∧ b.start < finish ∧ start < b.finish := by
  simp [meeting]

/-- A query goes back from the newest bucket that begins before the window ends to the first one
that ends before the window. For this the buckets need to be in order of their starts only. -/
theorem visited_eq_takeWhile {h : History} (hs : h.toList.Pairwise fun a b => a.start ≤ b.start)
    (start finish : Int64) :
    h.visited start finish =
      (h.toList.filter fun b => b.start < finish).reverse.takeWhile fun b => start < b.finish := by
  have hstart : h.toList.Pairwise fun a b =>
      decide (b.start < finish) = true → decide (a.start < finish) = true :=
    hs.imp fun hab => by simpa using Int64.lt_of_le_of_lt hab
  have hle : boundary (fun b => decide (b.start < finish)) h.buckets 0 h.buckets.size ≤
      h.buckets.size := by
    rw [boundary_eq_length hstart]
    exact (List.takeWhile_prefix _).length_le
  rw [visited, visitedFrom_eq _ _ _ hle, take_boundary hstart]
  rfl

/-- A query looks at exactly the buckets that meet the window, the newest first. -/
theorem visited_eq_meeting {h : History} (ho : Ordered h.toList) (start finish : Int64) :
    h.visited start finish = (h.meeting start finish).reverse := by
  -- Bisection is right because starts ascend, the early exit because ends do.
  have hfinish : (h.toList.filter fun b => b.start < finish).reverse.Pairwise fun a b =>
      decide (start < b.finish) = true → decide (start < a.finish) = true :=
    List.pairwise_reverse.2 <| (ho.finish_mono.filter _).imp fun hab => by
      simpa using fun ha => Int64.lt_of_lt_of_le ha hab
  rw [visited_eq_takeWhile ho.start_mono, takeWhile_eq_filter hfinish, List.filter_reverse,
    List.filter_filter, meeting]
  simp [Bool.and_comm]

/-! ## The sum of the parts -/

/-- Every bucket that meets a window has a part in it, and no more than all of it. -/
theorem overlap_of_meets {b : Bucket} {start finish : Int64} (asOf : Int64)
    (hd : 0 < b.duration) (hw : start < finish) (hs : b.start < finish) (hf : start < b.finish) :
    0 < b.overlap start finish asOf ∧ b.overlap start finish asOf ≤ b.duration.toInt := by
  have hend := b.toInt_finish hd
  have hmax := finish.toInt_lt
  rw [Int64.lt_iff_toInt_lt] at hd hw hs hf
  rw [Int64.toInt_zero] at hd
  unfold Bucket.overlap Bucket.cut
  split <;> omega

theorem foldl_credit (start finish asOf : Int64) (buckets : List Bucket) {window : Bucket}
    (rx tx : Nat) (hrx : window.rx = clampUInt64 rx) (htx : window.tx = clampUInt64 tx) :
    buckets.foldl (credit start finish asOf) window =
      { window with
        rx := clampUInt64 (rx + (buckets.map fun b => (b.partIn start finish asOf b.rx).toNat).sum)
        tx := clampUInt64
          (tx + (buckets.map fun b => (b.partIn start finish asOf b.tx).toNat).sum) } := by
  induction buckets generalizing window rx tx with
  | nil => simp [← hrx, ← htx]
  | cons b buckets ih =>
    rw [List.foldl_cons, ih _ _ (by rw [credit, hrx, satSum_clampUInt64])
      (by rw [credit, htx, satSum_clampUInt64])]
    simp [credit, Nat.add_assoc]

/-- A query adds up the parts of the buckets that meet the window, and clamps once. -/
theorem usage_of_lt {h : History} (ho : Ordered h.toList) {start finish : Int64} (asOf : Int64)
    (hw : start < finish) :
    h.usage start finish asOf = {
      start
      duration := satSub finish start
      rx := clampUInt64
        ((h.meeting start finish).map fun b => (b.partIn start finish asOf b.rx).toNat).sum
      tx := clampUInt64
        ((h.meeting start finish).map fun b => (b.partIn start finish asOf b.tx).toNat).sum } := by
  have hnle := Int64.not_le.2 hw
  rw [usage, if_neg hnle, visited_eq_meeting ho, foldl_credit start finish asOf _ 0 0 rfl rfl]
  simp [emptyWindow, hnle]

/-- A query sees no more of a history than the buckets that meet its window. -/
theorem usage_congr {h k : History} (hh : Ordered h.toList) (hk : Ordered k.toList)
    {start finish : Int64} (asOf : Int64) (hm : h.meeting start finish = k.meeting start finish) :
    h.usage start finish asOf = k.usage start finish asOf := by
  by_cases hw : start < finish
  · rw [usage_of_lt hh asOf hw, usage_of_lt hk asOf hw, hm]
  · rw [usage_of_le h asOf (Int64.not_lt.1 hw), usage_of_le k asOf (Int64.not_lt.1 hw)]

/-- No bucket after one that ends with the window or later meets the window. -/
theorem meeting_eq_filter_take {h : History} (ho : Ordered h.toList) {n : Nat} {b : Bucket}
    (hb : h.toList[n]? = some b) {start finish : Int64} (hf : finish ≤ b.finish) :
    h.meeting start finish =
      (h.toList.take (n + 1)).filter fun b => b.start < finish ∧ start < b.finish := by
  obtain ⟨hn, rfl⟩ := List.getElem?_eq_some_iff.1 hb
  have hmem : h.toList[n] ∈ h.toList.take (n + 1) := by
    rw [List.take_succ_eq_append_getElem hn]
    exact List.mem_append_right _ (List.mem_singleton_self _)
  have hlater := ho.apart
  rw [← List.take_append_drop (n + 1) h.toList, List.pairwise_append] at hlater
  have hnone : (h.toList.drop (n + 1)).filter
      (fun b => decide (b.start < finish ∧ start < b.finish)) = [] := by
    refine List.filter_eq_nil_iff.2 fun c hc => ?_
    have hle : finish ≤ c.start := Int64.le_trans hf (hlater.2.2 _ hmem c hc)
    simp [Int64.not_lt.2 hle]
  conv_lhs => rw [meeting, ← List.take_append_drop (n + 1) h.toList, List.filter_append, hnone,
    List.append_nil]

/-! ## The plain scan -/

/-- What a scan of all buckets finds of a counter: each bucket that meets the window has its
proportional part, rounded down. A bucket that is being filled counts with its whole length. -/
def scanned (h : History) (start finish asOf : Int64) (counter : Bucket → UInt64) : Int :=
  ((h.toList.filter fun b => b.start < finish ∧ start < b.finish).map fun b =>
    (counter b).toNat *
      (if b.start < asOf ∧ asOf < b.finish then b.duration.toInt
        else min b.finish.toInt finish.toInt - max b.start.toInt start.toInt) /
      b.duration.toInt).sum

theorem toNat_partIn {b : Bucket} {start finish : Int64} (asOf : Int64) (bytes : UInt64)
    (hd : 0 < b.duration) (hw : start < finish) (hs : b.start < finish) (hf : start < b.finish) :
    ((b.partIn start finish asOf bytes).toNat : Int) =
      bytes.toNat * b.overlap start finish asOf / b.duration.toInt := by
  obtain ⟨hpos, hle⟩ := overlap_of_meets asOf hd hw hs hf
  exact toInt_share_of_le bytes hpos hle

theorem sum_partIn {h : History} (ho : Ordered h.toList) {start finish : Int64} (asOf : Int64)
    (hw : start < finish) (counter : Bucket → UInt64) :
    ((((h.meeting start finish).map fun b =>
      (b.partIn start finish asOf (counter b)).toNat).sum : Nat) : Int) =
        h.scanned start finish asOf counter := by
  rw [Nat.cast_list_sum, List.map_map]
  refine congrArg List.sum (List.map_congr_left fun b hb => ?_)
  obtain ⟨hb, hs, hf⟩ := mem_meeting.1 hb
  exact toNat_partIn asOf (counter b) (ho.duration_pos b hb) hw hs hf

/-- A query over a history that can arise finds what a scan of all its buckets finds, up to the
greatest byte count. -/
theorem usage_eq_scanned {h : History} (hr : h.Reachable) (start finish asOf : Int64) :
    (finish ≤ start → h.usage start finish asOf = ⟨start, 0, 0, 0⟩) ∧
    (start < finish →
      (h.usage start finish asOf).start = start ∧
      (h.usage start finish asOf).duration.toInt =
        min (finish.toInt - start.toInt) 9223372036854775807 ∧
      ((h.usage start finish asOf).rx.toNat : Int) =
        min 18446744073709551615 (h.scanned start finish asOf Bucket.rx) ∧
      ((h.usage start finish asOf).tx.toNat : Int) =
        min 18446744073709551615 (h.scanned start finish asOf Bucket.tx)) := by
  refine ⟨h.usage_of_le asOf, fun hw => ?_⟩
  have hlt : start.toInt < finish.toInt := Int64.lt_iff_toInt_lt.1 hw
  rw [usage_of_lt hr.ordered asOf hw, ← sum_partIn hr.ordered asOf hw, ←
    sum_partIn hr.ordered asOf hw]
  refine ⟨rfl, ?_, ?_, ?_⟩
  · rw [toInt_satSub]
    omega
  · rw [toNat_clampUInt64]
    omega
  · rw [toNat_clampUInt64]
    omega

/-- Of buckets of unequal length with a gap, of which the last runs beyond the range of
instants, the first is cut by the window and counts half, and the last is being filled. -/
theorem usage_of_irregular :
    ∃ h, ofBuckets 100 [⟨0, 100, 101, 0⟩, ⟨300, 50, 50, 1⟩,
        ⟨9223372036854775800, 400, 400, 3⟩] = .ok h ∧
      (h.usage 50 9223372036854775803 9223372036854775801).rx.toNat = 500 := by
  let h : History := ⟨100, #[⟨0, 100, 101, 0⟩, ⟨300, 50, 50, 1⟩,
    ⟨9223372036854775800, 400, 400, 3⟩]⟩
  have hb : ofBuckets 100 h.toList = .ok h := rfl
  have hscan := ((usage_eq_scanned (.ofBuckets hb) 50 9223372036854775803
    9223372036854775801).2 (by decide)).2.2.1
  exact ⟨h, hb, Int.ofNat.inj (hscan.trans (by decide))⟩

end History

end TrafficChart
