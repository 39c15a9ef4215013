import TrafficChart.Proofs.Recorder.Slots

/-!
# Slots that tile an interval

The slots that an interval meets cover it without gaps and overlaps, so that the time that is
left for the older slots is always the time that they cover. The oldest one therefore takes all
that is left, and the shares of the slots add up to the bytes that are spread.
-/

namespace TrafficChart

/-- Slots that cover the time from `start` to before an instant, newest first. All of them but
the oldest begin after `start`. -/
inductive Tiling (width start : Int) : Int → List Slot → Prop
  | oldest {index finish : Int} : index * width ≤ start → start < finish →
    finish ≤ (index + 1) * width → Tiling width start finish [⟨index, finish - start⟩]
  | newer {index finish : Int} {older : List Slot} : start < index * width →
    index * width < finish → finish ≤ (index + 1) * width →
    Tiling width start (index * width) older →
    Tiling width start finish (⟨index, finish - index * width⟩ :: older)

variable {width start finish : Int} {slots : List Slot}

/-! ## The slots of an interval -/

theorem slotAt_of_le {index : Int} (h : index * width ≤ start) :
    slotAt width start finish index = ⟨index, min ((index + 1) * width) finish - start⟩ := by
  rw [slotAt, max_eq_right h]

theorem slotAt_of_lt {index : Int} (h : start < index * width) :
    slotAt width start finish index =
      ⟨index, min ((index + 1) * width) finish - index * width⟩ := by
  rw [slotAt, max_eq_left h.le]

theorem tiling_slotsDown (hw : 0 < width) (n : Nat) (hstart : start < finish)
    (hlast : (start / width + n) * width < finish) :
    Tiling width start (min ((start / width + n + 1) * width) finish)
      (slotsDown width start finish (start / width + n) (n + 1)) := by
  have hbelow : start / width * width ≤ start := Int.ediv_mul_le start hw.ne'
  have habove : start < (start / width + 1) * width := Int.lt_ediv_add_one_mul_self start hw
  induction n with
  | zero =>
    simp only [Nat.cast_zero, add_zero, slotsDown, slotAt_of_le hbelow]
    exact .oldest hbelow (lt_min habove hstart) (min_le_left _ _)
  | succ n ih =>
    have hbegin : start < (start / width + (n + 1 : Nat)) * width := by
      refine habove.trans_le (Int.mul_le_mul_of_nonneg_right ?_ hw.le)
      push_cast
      omega
    have hnext : (start / width + (n + 1 : Nat)) * width <
        (start / width + (n + 1 : Nat) + 1) * width :=
      Int.mul_lt_mul_of_pos_right (by omega) hw
    have hprev : start / width + (n + 1 : Nat) - 1 = start / width + n := by
      push_cast
      omega
    have hold := ih (lt_trans (Int.mul_lt_mul_of_pos_right (by push_cast; omega) hw) hlast)
    rw [show start / width + (n : Int) + 1 = start / width + (n + 1 : Nat) by push_cast; omega,
      min_eq_left hlast.le] at hold
    rw [slotsDown, slotAt_of_lt hbegin, hprev]
    exact .newer hbegin (lt_min hnext hlast) (min_le_left _ _) hold

/-- The slots that an interval meets tile it. -/
theorem tiling_slotsOf (hw : 0 < width) (hstart : start < finish) :
    Tiling width start finish (slotsOf width start finish) := by
  have hle : start / width ≤ (finish - 1) / width :=
    Int.ediv_le_ediv hw (by omega)
  obtain ⟨n, hn⟩ := Int.le.dest hle
  have hbelow : (finish - 1) / width * width ≤ finish - 1 := Int.ediv_mul_le _ hw.ne'
  have habove : finish - 1 < ((finish - 1) / width + 1) * width :=
    Int.lt_ediv_add_one_mul_self _ hw
  rw [← hn] at hbelow habove
  have htiling := tiling_slotsDown hw n hstart (by omega)
  rw [min_eq_right (by omega)] at htiling
  have hcount : ((finish - 1) / width - start / width + 1).toNat = n + 1 := by omega
  rw [slotsOf, hcount, ← hn]
  exact htiling

theorem eq_slotAt_of_mem_slotsDown {last : Int} {count : Nat} {slot : Slot}
    (hm : slot ∈ slotsDown width start finish last count) :
    slot = slotAt width start finish slot.index := by
  induction count generalizing last with
  | zero => cases hm
  | succ count ih =>
    rcases List.mem_cons.1 hm with rfl | hm
    · rfl
    · exact ih hm

theorem nodup_index_slotsDown (last : Int) (count : Nat) :
    ((slotsDown width start finish last count).map Slot.index).Nodup := by
  induction count generalizing last with
  | zero => exact .nil
  | succ count ih =>
    refine List.nodup_cons.2 ⟨fun hm => ?_, ih (last - 1)⟩
    have := (mem_index_slotsDown.1 hm).2
    simp only [slotAt] at this
    omega

/-! ## The shares -/

theorem Tiling.start_lt (h : Tiling width start finish slots) : start < finish := by
  cases h with
  | oldest _ hlt _ => exact hlt
  | newer hbegin hlt _ _ => exact hbegin.trans hlt

/-- No byte is lost and none is made when bytes are spread over an interval. -/
theorem Tiling.sum_spread (h : Tiling width start finish slots) (bytes : UInt64) :
    ((spread bytes (finish - start) slots).map fun s => s.2.toNat).sum = bytes.toNat := by
  induction h generalizing bytes with
  | oldest _ hlt _ => simp [spread, share_self bytes (Int.sub_pos_of_lt hlt)]
  | @newer index finish older hbegin hlt _ _ ih =>
    have hleft : finish - start - (finish - index * width) = index * width - start := by omega
    have htaken : share bytes (finish - index * width) (finish - start) ≤ bytes :=
      share_le bytes (by omega) (by omega)
    rw [spread, hleft, List.map_cons, List.sum_cons, ih, UInt64.toNat_sub_of_le _ _ htaken]
    exact Nat.add_sub_cancel' (UInt64.le_iff_toNat_le.1 htaken)

end TrafficChart
