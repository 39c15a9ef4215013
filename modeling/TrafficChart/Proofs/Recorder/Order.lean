import TrafficChart.Proofs.Recorder.Conservation

/-!
# Recording does not depend on the order

What a transfer gives to a slot depends on the transfer alone, and adding up byte counts with a
clamp is clamping their exact sum once. So the counters of a slot are determined by which
transfers have been accepted, in whichever order they came.
-/

namespace TrafficChart

theorem Tally.ext_bytes {t u : Tally} (h : ∀ c, t.bytes c = u.bytes c) : t = u := by
  obtain ⟨rx, tx⟩ := t
  obtain ⟨rx', tx'⟩ := u
  obtain rfl : rx = rx' := h .rx
  obtain rfl : tx = tx' := h .tx
  rfl

/-- The bytes that a transfer gives to the slot of an index, none if it does not meet the slot. -/
def Transfer.bytesAt (t : Transfer) (width : Int) (c : Counter) (index : Int) : Nat :=
  ((t.parts width c).map fun s => if s.1 = index then s.2.toNat else 0).sum

theorem accepted_perm {ts us : List Transfer} (h : ts.Perm us) :
    (accepted ts).Perm (accepted us) := h.filter _

namespace Recorder

variable {r k : Recorder} {t : Transfer} {ts us : List Transfer}

/-! ## The counters of a slot -/

/-- A slot is credited with the sum of its shares, clamped once. -/
theorem bytes_foldl_credit (shares : List (Int × Tally)) (slots : Std.TreeMap Int Tally)
    (c : Counter) (i : Int) :
    ((shares.foldl (fun m s => credit m s.1 s.2.rx s.2.tx) slots).getD i Tally.zero).bytes c =
      clampUInt64 (((slots.getD i Tally.zero).bytes c).toNat +
        (shares.map fun s => if s.1 = i then (s.2.bytes c).toNat else 0).sum) := by
  induction shares generalizing slots with
  | nil => exact (clampUInt64_toNat _).symm
  | cons s shares ih =>
    rw [List.foldl_cons, ih, getD_credit, List.map_cons, List.sum_cons]
    split
    · rw [Tally.bytes_add, satSum, clampUInt64_clampUInt64_add, Nat.add_assoc]
    · rw [Nat.zero_add]

theorem bytes_record (hr : r.record t = .ok k) (c : Counter) (i : Int) :
    (k.slots.getD i Tally.zero).bytes c =
      clampUInt64 (((r.slots.getD i Tally.zero).bytes c).toNat +
        t.bytesAt r.width.toInt c i) := by
  rw [slots_record hr, bytes_foldl_credit, Transfer.bytesAt, ← Transfer.map_bytes_tallies,
    List.map_map]
  rfl

/-- A slot holds what it held before and what all accepted transfers give to it, clamped once. -/
theorem bytes_recordAll (r : Recorder) (ts : List Transfer) (c : Counter) (i : Int) :
    ((r.recordAll ts).slots.getD i Tally.zero).bytes c =
      clampUInt64 (((r.slots.getD i Tally.zero).bytes c).toNat +
        ((accepted ts).map fun t => t.bytesAt r.width.toInt c i).sum) := by
  induction ts generalizing r with
  | nil => exact (clampUInt64_toNat _).symm
  | cons t ts ih =>
    by_cases ht : t.start ≤ t.finish
    · obtain ⟨k, hk⟩ : ∃ k, r.record t = .ok k := ⟨_, r.record_of_le ht⟩
      rw [recordAll_cons_of_ok hk, ih, bytes_record hk, width_record hk, accepted_cons_of_le ht,
        List.map_cons, List.sum_cons, clampUInt64_clampUInt64_add, Nat.add_assoc]
    · rw [recordAll_cons_of_refused ht, ih, accepted_cons_of_refused ht]

/-- Those slots exist that existed before or that an accepted transfer meets. -/
theorem mem_slots_recordAll {i : Int} :
    i ∈ (r.recordAll ts).slots ↔ i ∈ r.slots ∨ ∃ t ∈ accepted ts,
      t.start.toInt / r.width.toInt ≤ i ∧
        i ≤ (t.start.toInt + t.length - 1) / r.width.toInt := by
  induction ts generalizing r with
  | nil => simp [recordAll, accepted]
  | cons t ts ih =>
    by_cases ht : t.start ≤ t.finish
    · obtain ⟨k, hk⟩ : ∃ k, r.record t = .ok k := ⟨_, r.record_of_le ht⟩
      rw [recordAll_cons_of_ok hk, ih, mem_slots_record hk, width_record hk,
        accepted_cons_of_le ht, List.exists_mem_cons_iff, or_assoc]
    · rw [recordAll_cons_of_refused ht, ih, accepted_cons_of_refused ht]

/-! ## The order of transfers -/

/-- The same accepted transfers lead to the same slots. -/
theorem equiv_slots_recordAll (r : Recorder) (h : (accepted ts).Perm (accepted us)) :
    (r.recordAll ts).slots.Equiv (r.recordAll us).slots := by
  have hmem (i : Int) : i ∈ (r.recordAll ts).slots ↔ i ∈ (r.recordAll us).slots := by
    simp only [mem_slots_recordAll, h.mem_iff]
  have hgetD (i : Int) : (r.recordAll ts).slots.getD i Tally.zero =
      (r.recordAll us).slots.getD i Tally.zero := by
    refine Tally.ext_bytes fun c => ?_
    rw [bytes_recordAll, bytes_recordAll, (h.map _).sum_nat]
  refine .of_forall_constGet?_eq fun i => ?_
  by_cases hi : i ∈ (r.recordAll ts).slots
  · rw [Std.TreeMap.getElem?_eq_some_getD hi, Std.TreeMap.getElem?_eq_some_getD ((hmem i).1 hi),
      hgetD]
  · rw [Std.TreeMap.getElem?_eq_none hi, Std.TreeMap.getElem?_eq_none (mt (hmem i).2 hi)]

/-- The same slots make the same history, in whichever order they were made. -/
theorem toHistory_eq_of_equiv (hwidth : r.width = k.width) (h : r.slots.Equiv k.slots) :
    r.toHistory = k.toHistory := by
  rw [toHistory, toHistory, hwidth, h.toList_eq]

theorem recordAll_append (r : Recorder) (ts us : List Transfer) :
    r.recordAll (ts ++ us) = (r.recordAll ts).recordAll us :=
  List.foldl_append

/-- From any recorder on, such as one without transfers, the same transfers make the same history
in every order, and a reversed transfer is refused and leaves no trace wherever it comes. -/
theorem recordAll_order_free (r : Recorder) :
    (∀ ts us : List Transfer, ts.Perm us →
      (r.recordAll ts).toHistory = (r.recordAll us).toHistory) ∧
    ∀ older t newer, t.finish < t.start →
      (r.recordAll older).record t = .error (.reversedTransfer t.start t.finish) ∧
        r.recordAll (older ++ t :: newer) = r.recordAll (older ++ newer) := by
  constructor
  · intro ts us h
    have hwidth : (r.recordAll ts).width = (r.recordAll us).width := by
      rw [width_recordAll, width_recordAll]
    exact toHistory_eq_of_equiv hwidth (r.equiv_slots_recordAll (accepted_perm h))
  · intro older t newer ht
    refine ⟨record_of_reversed _ ht, ?_⟩
    rw [recordAll_append, recordAll_append, recordAll_cons_of_refused (Int64.not_le.2 ht)]

/-- Two transfers that together exceed the counter of a slot, one that begins before the epoch and a
reversed one. In either order the counter stops at its greatest value. -/
theorem recordAll_of_reordered :
    let full : Transfer := ⟨200, 900, 18446744073709551615, 7⟩
    let more : Transfer := ⟨0, 3000, 10, 7⟩
    let early : Transfer := ⟨-1500, 2300, 10, 3⟩
    let reversed : Transfer := ⟨10, 5, 1, 1⟩
    let buckets : List Bucket :=
      [⟨-2000, 1000, 2, 1⟩, ⟨-1000, 1000, 3, 1⟩, ⟨0, 1000, 18446744073709551615, 11⟩,
        ⟨1000, 1000, 5, 2⟩, ⟨2000, 1000, 3, 2⟩]
    ∃ r, create 1000 = .ok r ∧
      [full, reversed, more, early].Perm [early, more, full, reversed] ∧
      (r.recordAll [full, reversed, more, early]).toHistory.toList = buckets ∧
      (r.recordAll [early, more, full, reversed]).toHistory.toList = buckets ∧
      reversed.finish < reversed.start ∧
      (r.recordAll [full]).record reversed = .error (.reversedTransfer 10 5) ∧
      r.recordAll [full, reversed, more] = r.recordAll [full, more] := by
  intro full more early reversed buckets
  have hp : [full, reversed, more, early].Perm [early, more, full, reversed] := by decide
  have ht : reversed.finish < reversed.start := by decide
  obtain ⟨hsame, hfree⟩ := recordAll_order_free ⟨1000, ∅⟩
  obtain ⟨hrefused, hskipped⟩ := hfree [full] reversed [more] ht
  have hbuckets :
      (recordAll ⟨1000, ∅⟩ [full, reversed, more, early]).toHistory.toList = buckets := by
    decide +kernel
  exact ⟨_, rfl, hp, hbuckets, hsame _ _ hp ▸ hbuckets, ht, hrefused, hskipped⟩

end Recorder

end TrafficChart
