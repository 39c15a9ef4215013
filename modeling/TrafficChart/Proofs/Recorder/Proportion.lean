import TrafficChart.Proofs.Recorder.Counters

/-!
# Rounding does not add up along a transfer

Each slot takes its part of what the newer ones have left over, and that is rounded already.
Still every slot is within one byte of its exact proportional part of the whole transfer, and
the oldest one within two, however many slots there are. What is left never falls behind its
exact part, and it never runs so far ahead that a whole slot takes more than its exact part
rounded up.

## Main definitions

* `Fair`: a slot takes nearly its exact part.
* `Balanced`: what is left for the older slots is nearly their exact part.
-/

namespace TrafficChart

/-- What a slot takes of `bytes` that are spread over `total` milliseconds differs from its exact
part by less than one byte. The oldest slot takes no less than its exact part and less than two
bytes more. Both sides are multiplied by `total`. -/
structure Fair (width start : Int) (bytes : UInt64) (total : Int) (slot : Slot)
    (part : Int × UInt64) : Prop where
  index_eq : part.1 = slot.index
  newer : start < slot.index * width →
    |part.2.toNat * total - bytes.toNat * slot.length| < total
  oldest : slot.index * width ≤ start →
    0 ≤ part.2.toNat * total - bytes.toNat * slot.length ∧
      part.2.toNat * total - bytes.toNat * slot.length < 2 * total

/-- Of `bytes` spread over `total` milliseconds, the rest `left` for the last `remaining` ones is
at least their exact part, and it would exceed the share `most` of whole slots by less than one
byte. That share is the exact part of a whole slot, rounded up. -/
structure Balanced (width bytes total most left remaining : Int) : Prop where
  le_most : bytes * width ≤ most * total
  most_lt : most * total < bytes * width + total
  ahead : bytes * remaining ≤ left * total
  bounded : left * width < most * remaining + width

/-- A quotient rounded up. -/
theorem exists_rounded_up (n : Int) {total : Int} (ht : 0 < total) :
    ∃ q, n ≤ q * total ∧ q * total < n + total := by
  have hlow := Int.ediv_mul_le (n + total - 1) ht.ne'
  have hhigh := Int.lt_ediv_add_one_mul_self (n + total - 1) ht
  exact ⟨(n + total - 1) / total, by linarith, by linarith⟩

theorem abs_ediv_mul_sub_lt (n : Int) {total : Int} (ht : 0 < total) :
    |n / total * total - n| < total := by
  have hlow := Int.ediv_mul_le n ht.ne'
  have hhigh := Int.lt_ediv_add_one_mul_self n ht
  exact abs_sub_lt_iff.2 ⟨by linarith, by linarith⟩

namespace Balanced

variable {width bytes total most left remaining length : Int}

/-! ## One slot -/

/-- The newest slot may be a part of a slot only. It leaves a balanced rest. -/
theorem newest (hw : 0 < width) (ht : 0 < total) (hle : length ≤ total)
    (hmost : bytes * width ≤ most * total) (hlt : most * total < bytes * width + total) :
    Balanced width bytes total most (bytes - bytes * length / total) (total - length) := by
  have hlow := Int.ediv_mul_le (bytes * length) ht.ne'
  have hhigh := Int.lt_ediv_add_one_mul_self (bytes * length) ht
  generalize bytes * length / total = taken at *
  refine ⟨hmost, hlt, by linarith, ?_⟩
  -- The bound is checked after multiplication with `total`.
  have htaken := mul_lt_mul_of_pos_right hhigh hw
  have hrest := mul_le_mul_of_nonneg_right hmost (sub_nonneg.2 hle)
  refine lt_of_mul_lt_mul_right ?_ ht.le
  linarith

/-- A whole slot does not take more than its exact part, rounded up. -/
theorem taken_le (h : Balanced width bytes total most left remaining) (hpos : 0 < remaining)
    (hle : width ≤ remaining) : left * width / remaining ≤ most := by
  refine Int.lt_add_one_iff.1 (Int.ediv_lt_of_lt_mul hpos ?_)
  have := h.bounded
  linarith

/-- A whole slot takes its exact part to within one byte. -/
theorem abs_sub_lt (h : Balanced width bytes total most left remaining) (hw : 0 < width)
    (ht : 0 < total) (hle : width ≤ remaining) :
    |left * width / remaining * total - bytes * width| < total := by
  have hpos : 0 < remaining := hw.trans_le hle
  have hmost := mul_le_mul_of_nonneg_right (h.taken_le hpos hle) ht.le
  have hhigh := Int.lt_ediv_add_one_mul_self (left * width) hpos
  generalize left * width / remaining = taken at *
  have hless : bytes * width < (taken + 1) * total := by
    refine lt_of_mul_lt_mul_right ?_ hpos.le
    have hahead := mul_le_mul_of_nonneg_right h.ahead hw.le
    have hnext := mul_lt_mul_of_pos_right hhigh ht
    linarith
  have := h.most_lt
  exact abs_sub_lt_iff.2 ⟨by linarith, by linarith⟩

/-- A whole slot leaves a balanced rest. -/
theorem step (h : Balanced width bytes total most left remaining) (hw : 0 < width)
    (ht : 0 < total) (hle : width ≤ remaining) :
    Balanced width bytes total most (left - left * width / remaining) (remaining - width) := by
  have hpos : 0 < remaining := hw.trans_le hle
  have hmost := h.taken_le hpos hle
  have hlow := Int.ediv_mul_le (left * width) hpos.ne'
  have hhigh := Int.lt_ediv_add_one_mul_self (left * width) hpos
  generalize left * width / remaining = taken at *
  refine ⟨h.le_most, h.most_lt, ?_, ?_⟩
  · refine le_of_mul_le_mul_right ?_ hpos
    have hahead := mul_le_mul_of_nonneg_right h.ahead (sub_nonneg.2 hle)
    have htaken := mul_le_mul_of_nonneg_right hlow ht.le
    linarith
  · have hbounded := h.bounded
    rcases hmost.eq_or_lt with rfl | hlt
    · linarith
    · have hspare := mul_nonneg (sub_nonneg.2 (Int.add_one_le_iff.2 hlt)) (sub_nonneg.2 hle)
      linarith

/-- What is left for the oldest slot exceeds its exact part by less than two bytes. -/
theorem sub_lt (h : Balanced width bytes total most left remaining) (hw : 0 < width)
    (ht : 0 < total) (hpos : 0 < remaining) (hle : remaining ≤ width) :
    left * total - bytes * remaining < 2 * total := by
  refine lt_of_mul_lt_mul_right ?_ hw.le
  have hbounded := mul_lt_mul_of_pos_right h.bounded ht
  have hmost := mul_lt_mul_of_pos_right h.most_lt hpos
  have hshort := mul_le_mul_of_nonneg_right hle ht.le
  linarith

end Balanced

/-! ## All slots -/

namespace Tiling

variable {width start finish : Int} {slots : List Slot}

/-- From a balanced rest, which begins with a whole slot, all slots take nearly their exact
parts. -/
theorem fair_spread_of_balanced (h : Tiling width start finish slots) (hw : 0 < width)
    (hdvd : width ∣ finish) {bytes : UInt64} {total most : Int} (ht : 0 < total) {left : UInt64}
    (hb : Balanced width bytes.toNat total most left.toNat (finish - start)) :
    List.Forall₂ (Fair width start bytes total) slots (spread left (finish - start) slots) := by
  induction h generalizing left with
  | @oldest index finish hbegin hlt hend =>
    have hpos : 0 < finish - start := sub_pos.2 hlt
    have hle : finish - start ≤ width := by linarith
    rw [spread, share_self left hpos]
    refine .cons ⟨rfl, fun hnew => absurd hbegin (not_le.2 hnew), fun _ => ?_⟩ .nil
    exact ⟨sub_nonneg.2 hb.ahead, hb.sub_lt hw ht hpos hle⟩
  | @newer index finish older hbegin hlt hend _ ih =>
    -- A multiple of the width in this slot but after its start is the end of the slot.
    have hwhole : finish = (index + 1) * width := by
      obtain ⟨n, rfl⟩ := hdvd
      rw [mul_comm width n] at *
      have hn := le_of_mul_le_mul_right hend hw
      have hi := lt_of_mul_lt_mul_right hlt hw.le
      rw [show n = index + 1 by omega]
    have hlength : finish - index * width = width := by linarith
    have hle : width ≤ finish - start := by linarith
    have hleft : finish - start - width = index * width - start := by linarith
    have hrest := hb.step hw ht hle
    rw [← toInt_sub_share left hw hle, hleft] at hrest
    rw [spread, hlength, hleft]
    refine .cons ⟨rfl, fun _ => ?_, fun hold => absurd hbegin (not_lt.2 hold)⟩
      (ih (Dvd.intro_left index rfl) hrest)
    rw [toInt_share_of_le left hw hle]
    exact hb.abs_sub_lt hw ht hle

/-- All slots of an interval take nearly their exact parts. -/
theorem fair_spread (h : Tiling width start finish slots) (hw : 0 < width) (bytes : UInt64) :
    List.Forall₂ (Fair width start bytes (finish - start)) slots
      (spread bytes (finish - start) slots) := by
  have ht : 0 < finish - start := sub_pos.2 h.start_lt
  cases h with
  | oldest hbegin hlt _ =>
    rw [spread, share_self bytes ht]
    refine .cons ⟨rfl, fun hnew => absurd hbegin (not_le.2 hnew), fun _ => ?_⟩ .nil
    rw [sub_self]
    exact ⟨le_rfl, by linarith⟩
  | @newer index _ older hbegin hlt hend holder =>
    have hle : finish - index * width ≤ finish - start := by linarith
    have hpos : 0 < finish - index * width := sub_pos.2 hlt
    have hleft : finish - start - (finish - index * width) = index * width - start := by ring
    obtain ⟨most, hmost, hbelow⟩ := exists_rounded_up (bytes.toNat * width) ht
    have hrest := Balanced.newest hw ht hle hmost hbelow
    rw [← toInt_sub_share bytes hpos hle, hleft] at hrest
    rw [spread, hleft]
    refine .cons ⟨rfl, fun _ => ?_, fun hold => absurd hbegin (not_lt.2 hold)⟩
      (holder.fair_spread_of_balanced hw (Dvd.intro_left index rfl) ht hrest)
    rw [toInt_share_of_le bytes hpos hle]
    exact abs_ediv_mul_sub_lt _ ht

end Tiling

namespace Recorder

variable {r k : Recorder} {t : Transfer}

/-- The bytes that a slot takes of a transfer are nearly its exact part. -/
theorem fair_parts {width : Int} (hw : 0 < width) (ht : t.start ≤ t.finish) (c : Counter) {i : Int}
    (hi : t.start.toInt / width ≤ i ∧ i ≤ (t.start.toInt + t.length - 1) / width) :
    ∃ s ∈ t.parts width c, s.1 = i ∧ Fair width t.start.toInt (t.bytes c) t.length
      (slotAt width t.start.toInt (t.start.toInt + t.length) i) s := by
  have hpos : 0 < t.length := Transfer.length_pos (Int64.not_lt.2 ht)
  have htiling := tiling_slotsOf hw (lt_add_of_pos_right t.start.toInt hpos)
  have hfair := htiling.fair_spread hw (t.bytes c)
  rw [add_sub_cancel_left] at hfair
  obtain ⟨slot, hslot, rfl⟩ := List.mem_map.1 (mem_index_slotsOf.2 hi)
  obtain ⟨n, hn, rfl⟩ := List.mem_iff_getElem.1 hslot
  have hn' : n < (t.parts width c).length := hfair.length_eq ▸ hn
  have hs := hfair.get hn hn'
  refine ⟨(t.parts width c)[n], List.getElem_mem hn', hs.index_eq, ?_⟩
  rw [← eq_slotAt_of_mem_slotsDown hslot]
  exact hs

/-- Each slot that an accepted transfer meets grows by nearly its exact proportional part, as
long as its counter has room: to within one byte, the oldest slot to within two. Both sides are
multiplied by the length of the transfer. -/
theorem record_proportional (hw : 0 < r.width) (hr : r.record t = .ok k) (c : Counter)
    (hroom : r.HasRoom t c) (i : Int) :
    let width := r.width.toInt
    let finish := t.start.toInt + t.length
    let overlap := min ((i + 1) * width) finish - max (i * width) t.start.toInt
    let excess := ((k.bytesAt c i : Int) - r.bytesAt c i) * t.length - (t.bytes c).toNat * overlap
    0 < overlap →
      (i ≠ t.start.toInt / width → |excess| < t.length) ∧
      (i = t.start.toInt / width → 0 ≤ excess ∧ excess < 2 * t.length) := by
  intro width finish overlap excess hoverlap
  have hpos : 0 < width := Int64.lt_iff_toInt_lt.1 hw
  have hfirst := Int.ediv_lt_iff_lt_mul (a := t.start.toInt) (b := i + 1) hpos
  have hlast := Int.le_ediv_iff_mul_le (a := i) (b := finish - 1) hpos
  have hmet : t.start.toInt / width ≤ i ∧ i ≤ (finish - 1) / width := by omega
  obtain ⟨s, hs, rfl, hfair⟩ := fair_parts hpos (start_le_finish_of_record hr) c hmet
  have hgrowth : ((k.bytesAt c s.1 : Int) - r.bytesAt c s.1) = s.2.toNat := by
    rw [bytesAt_record hr hroom hs]
    push_cast
    ring
  have hbegin := Int.le_ediv_iff_mul_le (a := s.1) (b := t.start.toInt) hpos
  simp only [excess, hgrowth]
  exact ⟨fun hne => hfair.newer (show t.start.toInt < s.1 * width by omega),
    fun he => hfair.oldest (show s.1 * width ≤ t.start.toInt by omega)⟩

/-- Ten bytes over five slots, of which the newest is met in a third and the oldest in a half:
the middle one holds its exact part rounded up or down, and the oldest one little more. -/
theorem record_proportional_of_five_slots :
    let r : Recorder := ⟨1000, ∅⟩
    let t : Transfer := ⟨-1500, 2300, 10, 3⟩
    0 < r.width ∧ r.HasRoom t .rx ∧ ∃ k, r.record t = .ok k ∧
      |(k.bytesAt .rx 0 : Int) * 3800 - 10 * 1000| < 3800 ∧
      0 ≤ (k.bytesAt .rx (-2) : Int) * 3800 - 10 * 500 ∧
      (k.bytesAt .rx (-2) : Int) * 3800 - 10 * 500 < 2 * 3800 := by
  intro r t
  have hw : 0 < r.width := by decide
  have hempty (i : Int) : r.bytesAt .rx i = 0 := rfl
  have hroom : r.HasRoom t .rx := by
    intro s _
    have := s.2.toNat_lt
    rw [hempty]
    omega
  obtain ⟨k, hk⟩ : ∃ k, r.record t = .ok k := ⟨_, r.record_of_le (by decide)⟩
  have hmiddle := (record_proportional hw hk .rx hroom 0 (by decide)).1 (by decide)
  have holdest := (record_proportional hw hk .rx hroom (-2) (by decide)).2 (by decide)
  have hlength : t.length = 3800 := by decide
  have hstart : t.start.toInt = -1500 := by decide
  have hwidth : r.width.toInt = 1000 := by decide
  have hbytes : (t.bytes .rx).toNat = 10 := by decide
  simp only [hempty, hlength, hstart, hwidth, hbytes] at hmiddle holdest
  exact ⟨hw, hroom, k, hk, hmiddle, holdest⟩

end Recorder

end TrafficChart
