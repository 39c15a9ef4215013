import Mathlib.Tactic
import TrafficChart.Recorder

/-!
# Slots of a recorder

Recording a transfer makes exactly the slots exist that the transfer meets. As long as the
instants of these slots are representable, all slots of a recorder are.
-/

namespace TrafficChart

/-- All instants and lengths that recording the transfer computes are representable. The least
of these instants lies one slot before the oldest slot that is met. -/
def Transfer.Fits (width : Int) (t : Transfer) : Prop :=
  t.start.toInt + t.length ≤ 9223372036854775807 ∧ t.length ≤ 9223372036854775807 ∧
    -9223372036854775808 ≤ (t.start.toInt / width - 1) * width ∧
    ((t.start.toInt + t.length - 1) / width + 1) * width ≤ 9223372036854775807

instance (width : Int) (t : Transfer) : Decidable (t.Fits width) :=
  inferInstanceAs (Decidable (_ ∧ _))

/-! ## The slots of an interval -/

theorem mem_index_slotsDown {width start finish last i : Int} {count : Nat} :
    i ∈ (slotsDown width start finish last count).map Slot.index ↔
      last - count < i ∧ i ≤ last := by
  induction count generalizing last with
  | zero => simp [slotsDown]
  | succ count ih =>
    rw [slotsDown, List.map_cons, List.mem_cons, ih]
    simp only [slotAt]
    omega

/-- The slots that an interval meets lie between those of its first and its last instant. -/
theorem mem_index_slotsOf {width start finish i : Int} :
    i ∈ (slotsOf width start finish).map Slot.index ↔
      start / width ≤ i ∧ i ≤ (finish - 1) / width := by
  rw [slotsOf, mem_index_slotsDown]
  omega

/-- A transfer meets the slots in which it has an instant. -/
theorem Transfer.meets_slot_iff {width : Int} (hw : 0 < width) (t : Transfer) (m : Int) :
    t.start.toInt / width ≤ m ∧ m ≤ (t.start.toInt + t.length - 1) / width ↔
      t.start.toInt < (m + 1) * width ∧ m * width < t.start.toInt + t.length := by
  have hfirst := Int.ediv_lt_iff_lt_mul (a := t.start.toInt) (b := m + 1) hw
  have hlast := Int.le_ediv_iff_mul_le (a := m) (b := t.start.toInt + t.length - 1) hw
  omega

theorem index_spread (bytes : UInt64) (remaining : Int) (slots : List Slot) :
    (spread bytes remaining slots).map Prod.fst = slots.map Slot.index := by
  induction slots generalizing bytes remaining with
  | nil => rfl
  | cons slot older ih => simp [spread, ih]

theorem index_zip_spread (rx tx : UInt64) (remaining : Int) (slots : List Slot) :
    ((spread rx remaining slots).zip (spread tx remaining slots)).map (fun s => s.1.1) =
      slots.map Slot.index := by
  have hlen (bytes : UInt64) : (spread bytes remaining slots).length = slots.length := by
    simpa using congrArg List.length (index_spread bytes remaining slots)
  rw [← index_spread rx remaining slots, ← Function.comp_def Prod.fst Prod.fst, ← List.map_map,
    List.map_fst_zip (by rw [hlen, hlen])]

/-! ## The slots of a recorder -/

namespace Recorder

theorem mem_of_mem_toList {slots : Std.TreeMap Int Tally} {s : Int × Tally}
    (hm : s ∈ slots.toList) : s.1 ∈ slots := by
  have := Std.TreeMap.mem_toList_iff_getElem?_eq_some.1 hm
  exact Std.TreeMap.mem_iff_isSome_getElem?.2 (by simp [this])

theorem mem_credit {slots : Std.TreeMap Int Tally} {index i : Int} {rx tx : UInt64} :
    i ∈ credit slots index rx tx ↔ index = i ∨ i ∈ slots := by
  rw [credit, Std.TreeMap.mem_insert, Std.LawfulEqCmp.compare_eq_iff_eq]

theorem mem_foldl_credit {slots : Std.TreeMap Int Tally}
    {shares : List ((Int × UInt64) × (Int × UInt64))} {i : Int} :
    i ∈ shares.foldl (fun m s => credit m s.1.1 s.1.2 s.2.2) slots ↔
      i ∈ slots ∨ i ∈ shares.map (fun s => s.1.1) := by
  induction shares generalizing slots with
  | nil => simp
  | cons s shares ih =>
    rw [List.foldl_cons, ih, mem_credit, List.map_cons, List.mem_cons, eq_comm (a := i)]
    tauto

/-- After recording, those slots exist that existed before or that the transfer meets. -/
theorem mem_slots_record {r k : Recorder} {t : Transfer} (hr : r.record t = .ok k) {i : Int} :
    i ∈ k.slots ↔ i ∈ r.slots ∨ t.start.toInt / r.width.toInt ≤ i ∧
      i ≤ (t.start.toInt + t.length - 1) / r.width.toInt := by
  unfold record at hr
  split at hr
  · cases hr
  · obtain rfl := Except.ok.inj hr
    rw [mem_foldl_credit, index_zip_spread, mem_index_slotsOf]

theorem width_record {r k : Recorder} {t : Transfer} (hr : r.record t = .ok k) :
    k.width = r.width := by
  unfold record at hr
  split at hr
  · cases hr
  · obtain rfl := Except.ok.inj hr
    rfl

/-- The recorders that come of recording transfers within the range of instants. -/
inductive Reachable : Recorder → Prop
  | create {width : Int64} {r : Recorder} : create width = .ok r → Reachable r
  | record {r k : Recorder} {t : Transfer} :
    Reachable r → t.Fits r.width.toInt → r.record t = .ok k → Reachable k

/-- Slots have a length, and they begin and end at representable instants. -/
structure Sound (r : Recorder) : Prop where
  width_pos : 0 < r.width.toInt
  inRange : ∀ i ∈ r.slots, -9223372036854775808 ≤ i * r.width.toInt ∧
    (i + 1) * r.width.toInt ≤ 9223372036854775807

theorem Sound.create {width : Int64} {r : Recorder} (hc : create width = .ok r) : r.Sound := by
  unfold Recorder.create at hc
  split at hc
  · cases hc
  · rename_i hw
    obtain rfl := Except.ok.inj hc
    exact ⟨Int64.lt_iff_toInt_lt.1 (Int64.not_le.1 hw), by simp⟩

theorem Sound.record {r k : Recorder} {t : Transfer} (hs : r.Sound) (hf : t.Fits r.width.toInt)
    (hr : r.record t = .ok k) : k.Sound := by
  obtain ⟨-, -, hlow, hhigh⟩ := hf
  have hw := hs.width_pos
  rw [← width_record hr] at hlow hhigh hw
  refine ⟨hw, fun i hi => ?_⟩
  rcases (mem_slots_record hr).1 hi with hi | ⟨hfirst, hlast⟩
  · exact width_record hr ▸ hs.inRange i hi
  · rw [← width_record hr] at hfirst hlast
    constructor
    · calc -9223372036854775808 ≤ (t.start.toInt / k.width.toInt - 1) * k.width.toInt := hlow
        _ ≤ i * k.width.toInt := Int.mul_le_mul_of_nonneg_right (by omega) hw.le
    · calc (i + 1) * k.width.toInt
          ≤ ((t.start.toInt + t.length - 1) / k.width.toInt + 1) * k.width.toInt :=
            Int.mul_le_mul_of_nonneg_right (by omega) hw.le
        _ ≤ 9223372036854775807 := hhigh

theorem Reachable.sound {r : Recorder} (hr : r.Reachable) : r.Sound := by
  induction hr with
  | create hc => exact .create hc
  | record _ hf hr ih => exact ih.record hf hr

end Recorder

end TrafficChart
