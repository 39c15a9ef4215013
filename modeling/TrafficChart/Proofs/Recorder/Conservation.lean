import TrafficChart.Proofs.History.Reachable
import TrafficChart.Proofs.Recorder.Counters

/-!
# No byte is lost in recording

However transfers overlap and in whichever order they are recorded, the buckets of a recorder
hold together the bytes of all accepted transfers. Each transfer changes only the buckets that
meet its interval.
-/

namespace TrafficChart

/-- The transfers that do not end before they begin. -/
def accepted (ts : List Transfer) : List Transfer := ts.filter fun t => t.start ≤ t.finish

theorem accepted_cons_of_le {t : Transfer} (ht : t.start ≤ t.finish) (ts : List Transfer) :
    accepted (t :: ts) = t :: accepted ts := List.filter_cons_of_pos (by simpa using ht)

theorem accepted_cons_of_refused {t : Transfer} (ht : ¬ t.start ≤ t.finish)
    (ts : List Transfer) : accepted (t :: ts) = accepted ts :=
  List.filter_cons_of_neg (by simpa using ht)

/-- The interval of the transfer and that of the bucket have an instant in common. A transfer
that ends where it begins has the one instant of its start. -/
def Transfer.Meets (t : Transfer) (b : Bucket) : Prop :=
  b.start.toInt < t.start.toInt + t.length ∧ t.start.toInt < b.finish.toInt

instance (t : Transfer) (b : Bucket) : Decidable (t.Meets b) :=
  inferInstanceAs (Decidable (_ ∧ _))

namespace Recorder

/-- Records transfers one after the other. A refused one leaves the recorder as it was. -/
def recordAll (r : Recorder) (ts : List Transfer) : Recorder :=
  ts.foldl (fun r t => (r.record t).toOption.getD r) r

variable {r k : Recorder} {t : Transfer} {ts : List Transfer}

theorem recordAll_cons_of_ok (hr : r.record t = .ok k) :
    r.recordAll (t :: ts) = k.recordAll ts := by
  simp [recordAll, hr, Except.toOption]

theorem recordAll_cons_of_refused (ht : ¬ t.start ≤ t.finish) :
    r.recordAll (t :: ts) = r.recordAll ts := by
  simp [recordAll, record_of_reversed r (Int64.not_le.1 ht), Except.toOption]

theorem Reachable.recordAll (hr : r.Reachable)
    (hfits : ∀ t ∈ ts, t.start ≤ t.finish → t.Fits r.width.toInt) :
    (r.recordAll ts).Reachable := by
  induction ts generalizing r with
  | nil => exact hr
  | cons t ts ih =>
    have holder : ∀ u ∈ ts, u.start ≤ u.finish → u.Fits r.width.toInt :=
      fun u hu => hfits u (List.mem_cons_of_mem t hu)
    by_cases ht : t.start ≤ t.finish
    · obtain ⟨k, hk⟩ : ∃ k, r.record t = .ok k := ⟨_, r.record_of_le ht⟩
      rw [recordAll_cons_of_ok hk]
      exact ih (.record hr (hfits t (by simp) ht) hk) (width_record hk ▸ holder)
    · rw [recordAll_cons_of_refused ht]
      exact ih hr holder

theorem width_recordAll (r : Recorder) (ts : List Transfer) :
    (r.recordAll ts).width = r.width := by
  induction ts generalizing r with
  | nil => rfl
  | cons t ts ih =>
    by_cases ht : t.start ≤ t.finish
    · obtain ⟨k, hk⟩ : ∃ k, r.record t = .ok k := ⟨_, r.record_of_le ht⟩
      rw [recordAll_cons_of_ok hk, ih, width_record hk]
    · rw [recordAll_cons_of_refused ht, ih]

/-! ## The sum of all buckets -/

/-- The counters hold what they held before and all accepted bytes. -/
theorem bytesIn_recordAll (hw : 0 < r.width.toInt) {c : Counter}
    (hroom : bytesIn r.slots c + ((accepted ts).map fun t => (t.bytes c).toNat).sum ≤
      18446744073709551615) :
    bytesIn (r.recordAll ts).slots c =
      bytesIn r.slots c + ((accepted ts).map fun t => (t.bytes c).toNat).sum := by
  induction ts generalizing r with
  | nil => rfl
  | cons t ts ih =>
    by_cases ht : t.start ≤ t.finish
    · rw [accepted_cons_of_le ht, List.map_cons, List.sum_cons] at hroom ⊢
      obtain ⟨k, hk⟩ : ∃ k, r.record t = .ok k := ⟨_, r.record_of_le ht⟩
      have hbytes := bytesIn_record (c := c) hw hk (by omega)
      rw [recordAll_cons_of_ok hk, ih (width_record hk ▸ hw) (by omega), hbytes, Nat.add_assoc]
    · rw [accepted_cons_of_refused ht] at hroom ⊢
      rw [recordAll_cons_of_refused ht, ih hw hroom]

theorem bytes_bucketOf (width : Int64) (index : Int) (tally : Tally) (c : Counter) :
    (bucketOf width index tally).bytes c = tally.bytes c := by
  cases c <;> rfl

theorem sum_bytes_toHistory (r : Recorder) (c : Counter) :
    (r.toHistory.toList.map fun b => (b.bytes c).toNat).sum = bytesIn r.slots c := by
  rw [toList_toHistory, List.map_map, bytesIn]
  simp only [Function.comp_def, bytes_bucketOf]

/-! ## The buckets that change -/

theorem mem_toHistory {b : Bucket} :
    b ∈ r.toHistory.toList ↔
      ∃ i ∈ r.slots, bucketOf r.width i (r.slots.getD i Tally.zero) = b := by
  rw [toList_toHistory, List.mem_map]
  constructor
  · rintro ⟨s, hs, rfl⟩
    have hget := Std.TreeMap.mem_toList_iff_getElem?_eq_some.1 hs
    refine ⟨s.1, mem_of_mem_toList hs, ?_⟩
    rw [Std.TreeMap.getD_eq_getD_getElem?, hget, Option.getD_some]
  · rintro ⟨i, hi, rfl⟩
    exact ⟨(i, _), Std.TreeMap.mem_toList_iff_getElem?_eq_some.2
      (Std.TreeMap.getElem?_eq_some_getD hi), rfl⟩

/-- The buckets that meet a transfer are those of the slots from its first to its last instant. -/
theorem Sound.meets_bucketOf_iff (hs : r.Sound) {i : Int} (hi : i ∈ r.slots) (tally : Tally)
    (t : Transfer) :
    t.Meets (bucketOf r.width i tally) ↔ t.start.toInt / r.width.toInt ≤ i ∧
      i ≤ (t.start.toInt + t.length - 1) / r.width.toInt := by
  rw [Transfer.Meets, hs.toInt_start hi, hs.toInt_finish hi, t.meets_slot_iff hs.width_pos]
  exact and_comm

/-- Recording a transfer leaves the buckets alone that do not meet it. -/
theorem mem_toHistory_record (hr : r.Sound) (hk : k.Sound) (hrec : r.record t = .ok k)
    {b : Bucket} (hb : ¬ t.Meets b) : b ∈ k.toHistory.toList ↔ b ∈ r.toHistory.toList := by
  have hwidth := width_record hrec
  rw [mem_toHistory, mem_toHistory]
  constructor
  · rintro ⟨i, hi, rfl⟩
    rw [hk.meets_bucketOf_iff hi, hwidth] at hb
    refine ⟨i, ((mem_slots_record hrec).1 hi).resolve_right hb, ?_⟩
    rw [getD_slots_record_of_not_met hrec hb, hwidth]
  · rintro ⟨i, hi, rfl⟩
    rw [hr.meets_bucketOf_iff hi] at hb
    refine ⟨i, (mem_slots_record hrec).2 (.inl hi), ?_⟩
    rw [getD_slots_record_of_not_met hrec hb, hwidth]

/-- The buckets of a recorder are as long as its slots and aligned to them. -/
theorem Sound.aligned (hs : r.Sound) {b : Bucket} (hb : b ∈ r.toHistory.toList) :
    b.duration = r.width ∧ r.width.toInt ∣ b.start.toInt := by
  obtain ⟨i, hi, rfl⟩ := mem_toHistory.1 hb
  refine ⟨rfl, ?_⟩
  rw [hs.toInt_start hi]
  exact Int.dvd_mul_left i r.width.toInt

/-- A recorder that has recorded any transfers, of which it refuses the reversed ones, makes a
history that holds exactly the accepted bytes. Its buckets are aligned slots, and each accepted
transfer leaves all buckets as they are that do not meet its interval. -/
theorem recordAll_conserves {width : Int64} (hc : create width = .ok r) (ts : List Transfer)
    (hfits : ∀ t ∈ ts, t.start ≤ t.finish → t.Fits width.toInt) :
    (∀ c, ((accepted ts).map fun t => (t.bytes c).toNat).sum ≤ 18446744073709551615 →
      ((r.recordAll ts).toHistory.toList.map fun b => (b.bytes c).toNat).sum =
        ((accepted ts).map fun t => (t.bytes c).toNat).sum) ∧
    ∀ before t after, ts = before ++ t :: after → t.start ≤ t.finish →
      ∃ k, (r.recordAll before).record t = .ok k ∧
        (∀ b ∈ k.toHistory.toList, b.duration = width ∧ width.toInt ∣ b.start.toInt) ∧
        ∀ b, ¬ t.Meets b →
          (b ∈ k.toHistory.toList ↔ b ∈ (r.recordAll before).toHistory.toList) := by
  obtain ⟨hpos, rfl⟩ : 0 < width ∧ r = ⟨width, ∅⟩ := by
    unfold create at hc
    split at hc
    · cases hc
    · rename_i hle
      exact ⟨Int64.not_le.1 hle, (Except.ok.inj hc).symm⟩
  have hempty (c : Counter) : bytesIn ∅ c = 0 := rfl
  refine ⟨fun c hsum => ?_, ?_⟩
  · have hall := bytesIn_recordAll (r := ⟨width, ∅⟩) (c := c)
      (Int64.lt_iff_toInt_lt.1 hpos) (by rwa [hempty, Nat.zero_add])
    rw [sum_bytes_toHistory, hall, hempty, Nat.zero_add]
  · rintro before t after rfl ht
    have hbefore : (recordAll ⟨width, ∅⟩ before).Reachable :=
      Reachable.recordAll (.create hc) fun u hu => hfits u (List.mem_append_left _ hu)
    obtain ⟨k, hk⟩ : ∃ k, (recordAll ⟨width, ∅⟩ before).record t = .ok k :=
      ⟨_, record_of_le _ ht⟩
    have hwidth : (recordAll ⟨width, ∅⟩ before).width = width := width_recordAll _ _
    have hsound : k.Sound := (hbefore.record (hwidth.symm ▸ hfits t (by simp) ht) hk).sound
    refine ⟨k, hk, fun b hb => ?_, fun b => mem_toHistory_record hbefore.sound hsound hk⟩
    rw [← hwidth, ← width_record hk]
    exact hsound.aligned hb

/-- Transfers that overlap, take no time, are reversed, or go back in time before the epoch. The
last one does not reach the slot of the one that took no time. -/
theorem recordAll_of_overlapping :
    let early : Transfer := ⟨-1500, 2300, 10, 3⟩
    let ts : List Transfer := [⟨0, 3000, 10, 7⟩, ⟨4200, 4200, 5, 1⟩, ⟨10, 5, 1, 1⟩, early]
    let untouched : Bucket := ⟨4000, 1000, 5, 1⟩
    ∃ r, create 1000 = .ok r ∧ (∀ t ∈ ts, t.start ≤ t.finish → t.Fits 1000) ∧
      ((r.recordAll ts).toHistory.toList.map fun b => (b.bytes .rx).toNat).sum = 25 ∧
      ((r.recordAll ts).toHistory.toList.map fun b => (b.bytes .tx).toNat).sum = 11 ∧
      ¬ early.Meets untouched ∧
      untouched ∈ (r.recordAll (ts.take 3)).toHistory.toList ∧
      ∃ k, (r.recordAll (ts.take 3)).record early = .ok k ∧
        untouched ∈ k.toHistory.toList := by
  intro early ts untouched
  have hc : create 1000 = .ok ⟨1000, ∅⟩ := rfl
  have hfits : ∀ t ∈ ts, t.start ≤ t.finish → t.Fits 1000 := by decide
  obtain ⟨hsums, hlocal⟩ := recordAll_conserves hc ts hfits
  have hmeets : ¬ early.Meets untouched := by decide
  have hbefore : untouched ∈ (recordAll ⟨1000, ∅⟩ (ts.take 3)).toHistory.toList := by
    decide +kernel
  obtain ⟨k, hk, -, hkept⟩ := hlocal (ts.take 3) early [] rfl (by decide)
  exact ⟨_, hc, hfits, hsums .rx (by decide), hsums .tx (by decide), hmeets, hbefore, k, hk,
    (hkept untouched hmeets).2 hbefore⟩

end Recorder

end TrafficChart
