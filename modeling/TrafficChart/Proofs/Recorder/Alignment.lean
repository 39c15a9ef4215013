import TrafficChart.Proofs.History.Acceptance
import TrafficChart.Proofs.Recorder.Order

/-!
# Recorded histories are aligned

A recorder hands its history over unchecked. The slots that its transfers meet are whole multiples
of their length apart, so the buckets could as well have been given one after the other and would
all have been accepted. There is a bucket for each slot that an accepted transfer meets, and no
other one, however few bytes fell into it.
-/

namespace TrafficChart

namespace Recorder

variable {r : Recorder} {t : Transfer} {ts : List Transfer}

theorem create_of_pos {width : Int64} (hw : 0 < width) : create width = .ok ⟨width, ∅⟩ :=
  if_neg (Int64.not_le.2 hw)

/-- The accepted transfers are those that the recorder accepts when it comes to them. -/
theorem mem_accepted_iff (r : Recorder) :
    t ∈ accepted ts ↔ ∃ before after k,
      ts = before ++ t :: after ∧ (r.recordAll before).record t = .ok k := by
  constructor
  · intro ht
    obtain ⟨hmem, hle⟩ := List.mem_filter.1 ht
    obtain ⟨before, after, rfl⟩ := List.append_of_mem hmem
    exact ⟨before, after, _, rfl, record_of_le _ (of_decide_eq_true hle)⟩
  · rintro ⟨before, after, k, rfl, hk⟩
    have hle := start_le_finish_of_record hk
    exact List.mem_filter.2 ⟨by simp, decide_eq_true hle⟩

namespace Sound

/-- Later buckets begin later. -/
theorem start_strictMono (hs : r.Sound) :
    r.toHistory.toList.Pairwise fun a b => a.start < b.start := by
  refine hs.ordered.apart.imp_of_mem fun {a b} ha _ hab => ?_
  obtain ⟨i, hi, rfl⟩ := mem_toHistory.1 ha
  have hlt : (bucketOf r.width i (r.slots.getD i Tally.zero)).start.toInt <
      (bucketOf r.width i (r.slots.getD i Tally.zero)).finish.toInt := by
    rw [hs.toInt_start hi, hs.toInt_finish hi]
    exact Int.mul_lt_mul_of_pos_right (by omega) hs.width_pos
  exact Int64.lt_of_lt_of_le (Int64.lt_iff_toInt_lt.2 hlt) hab

/-- The buckets of a recorder would be accepted one by one. -/
theorem ofBuckets_toHistory (hs : r.Sound) :
    History.ofBuckets r.width r.toHistory.toList = .ok r.toHistory :=
  History.ofBuckets_eq_ok_iff.2 ⟨Int64.lt_iff_toInt_lt.2 hs.width_pos, hs.ordered, rfl⟩

/-- A bucket begins with each slot that exists, and with no other one. -/
theorem exists_start_eq_iff (hs : r.Sound) {m : Int} :
    (∃ b ∈ r.toHistory.toList, b.start.toInt = m * r.width.toInt) ↔ m ∈ r.slots := by
  constructor
  · rintro ⟨b, hb, hstart⟩
    obtain ⟨i, hi, rfl⟩ := mem_toHistory.1 hb
    rw [hs.toInt_start hi] at hstart
    exact Int.eq_of_mul_eq_mul_right hs.width_pos.ne' hstart ▸ hi
  · intro hm
    exact ⟨_, mem_toHistory.2 ⟨m, hm, rfl⟩, hs.toInt_start hm _⟩

end Sound

/-- Whatever a recorder has recorded, its history would be accepted bucket by bucket. The buckets
are as long as the slots and aligned to them, each begins later than the one before it, and they
are exactly those of the slots in which an accepted transfer has an instant. -/
theorem recordAll_aligned {width : Int64} (hw : 0 < width) (ts : List Transfer)
    (hfits : ∀ t ∈ ts, t.start ≤ t.finish → t.Fits width.toInt) :
    ∃ r, create width = .ok r ∧
      let h := (r.recordAll ts).toHistory
      History.ofBuckets width h.toList = .ok h ∧
      (∀ b ∈ h.toList, b.duration = width ∧ width.toInt ∣ b.start.toInt) ∧
      h.toList.Pairwise (fun a b => a.start < b.start) ∧
      ∀ m : Int, (∃ b ∈ h.toList, b.start.toInt = m * width.toInt) ↔
        ∃ t, (∃ before after k, ts = before ++ t :: after ∧
            (r.recordAll before).record t = .ok k) ∧
          t.start.toInt < (m + 1) * width.toInt ∧
          m * width.toInt < t.start.toInt + t.length := by
  have hc := create_of_pos hw
  refine ⟨⟨width, ∅⟩, hc, ?_⟩
  intro h
  have hwidth : (recordAll ⟨width, ∅⟩ ts).width = width := width_recordAll _ _
  have hs : (recordAll ⟨width, ∅⟩ ts).Sound := (Reachable.recordAll (.create hc) hfits).sound
  have haligned := fun b => hs.aligned (b := b)
  have hmade := hs.ofBuckets_toHistory
  rw [hwidth] at haligned hmade
  refine ⟨hmade, haligned, hs.start_strictMono, fun m => ?_⟩
  have hslots := hs.exists_start_eq_iff (m := m)
  rw [hwidth, mem_slots_recordAll] at hslots
  simp only [Std.TreeMap.not_mem_emptyc, false_or] at hslots
  rw [hslots]
  refine exists_congr fun t => and_congr (mem_accepted_iff _) ?_
  exact t.meets_slot_iff (Int64.lt_iff_toInt_lt.1 hw) m

/-- A transfer without bytes from before the epoch, a reversed one, and one that takes no time: the
slot before the epoch has a bucket, the slot between them has none. -/
theorem recordAll_of_silent :
    let ts : List Transfer := [⟨-1500, 300, 0, 0⟩, ⟨2500, 2400, 1, 1⟩, ⟨4200, 4200, 5, 0⟩]
    (0 : Int64) < 1000 ∧ (∀ t ∈ ts, t.start ≤ t.finish → t.Fits 1000) ∧
    ∃ r, create 1000 = .ok r ∧
      History.ofBuckets 1000 (r.recordAll ts).toHistory.toList = .ok (r.recordAll ts).toHistory ∧
      (∃ b ∈ (r.recordAll ts).toHistory.toList, b.start.toInt = -2 * 1000) ∧
      ¬ ∃ b ∈ (r.recordAll ts).toHistory.toList, b.start.toInt = 2 * 1000 := by
  intro ts
  have hw : (0 : Int64) < 1000 := by decide
  have hfits : ∀ t ∈ ts, t.start ≤ t.finish → t.Fits 1000 := by decide
  obtain ⟨r, hc, hmade, -, -, hmet⟩ := recordAll_aligned hw ts hfits
  refine ⟨hw, hfits, r, hc, hmade, (hmet (-2)).2 ?_, fun hbucket => ?_⟩
  · refine ⟨⟨-1500, 300, 0, 0⟩, ⟨[], _, _, rfl, record_of_le _ (by decide)⟩, ?_⟩
    decide
  · obtain ⟨t, ht, hmeets⟩ := (hmet 2).1 hbucket
    have hnone : ∀ t ∈ accepted ts,
        ¬ (t.start.toInt < (2 + 1) * 1000 ∧ 2 * 1000 < t.start.toInt + t.length) := by decide
    exact hnone t ((mem_accepted_iff r).2 ht) hmeets

end Recorder

end TrafficChart
