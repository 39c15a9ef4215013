import TrafficChart.Proofs.Recorder.Spread

/-!
# The counters of a recorder

A recorder counts received and sent bytes in the same way. Recording a transfer adds to each slot
what the spread of the transfer gives to it, as long as the counter has room, and leaves all
other slots alone.
-/

namespace TrafficChart

/-- The two directions in which bytes are counted. -/
inductive Counter where
  | rx
  | tx
  deriving DecidableEq

def Tally.bytes (t : Tally) : Counter → UInt64
  | .rx => t.rx
  | .tx => t.tx

def Transfer.bytes (t : Transfer) : Counter → UInt64
  | .rx => t.rx
  | .tx => t.tx

def Bucket.bytes (b : Bucket) : Counter → UInt64
  | .rx => b.rx
  | .tx => b.tx

@[simp] theorem Tally.bytes_zero (c : Counter) : zero.bytes c = 0 := by cases c <;> rfl

theorem Tally.bytes_add (t u : Tally) (c : Counter) :
    (t.add u.rx u.tx).bytes c = satSum (t.bytes c) (u.bytes c) := by
  cases c <;> rfl

/-! ## What a transfer gives to the slots -/

namespace Transfer

/-- The slots that a transfer meets, newest first, each with the bytes that it takes. -/
def parts (t : Transfer) (width : Int) (c : Counter) : List (Int × UInt64) :=
  spread (t.bytes c) t.length (slotsOf width t.start.toInt (t.start.toInt + t.length))

/-- The parts of both counters. -/
def tallies (t : Transfer) (width : Int) : List (Int × Tally) :=
  ((t.parts width .rx).zip (t.parts width .tx)).map fun s => (s.1.1, ⟨s.1.2, s.2.2⟩)

theorem map_bytes_zip_spread (rx tx : UInt64) (remaining : Int) (slots : List Slot)
    (c : Counter) :
    ((spread rx remaining slots).zip (spread tx remaining slots)).map
        (fun s => (s.1.1, Tally.bytes ⟨s.1.2, s.2.2⟩ c)) =
      spread (Tally.bytes ⟨rx, tx⟩ c) remaining slots := by
  induction slots generalizing rx tx remaining with
  | nil => rfl
  | cons slot older ih =>
    simp only [spread, List.zip_cons_cons, List.map_cons, ih]
    cases c <;> rfl

theorem map_bytes_tallies (t : Transfer) (width : Int) (c : Counter) :
    (t.tallies width).map (fun s => (s.1, s.2.bytes c)) = t.parts width c := by
  rw [tallies, List.map_map]
  refine (map_bytes_zip_spread t.rx t.tx _ _ c).trans ?_
  cases c <;> rfl

theorem map_fst_parts (t : Transfer) (width : Int) (c : Counter) :
    (t.parts width c).map Prod.fst =
      (slotsOf width t.start.toInt (t.start.toInt + t.length)).map Slot.index :=
  index_spread _ _ _

theorem map_fst_tallies (t : Transfer) (width : Int) :
    (t.tallies width).map Prod.fst =
      (slotsOf width t.start.toInt (t.start.toInt + t.length)).map Slot.index := by
  rw [← t.map_fst_parts width .rx, ← map_bytes_tallies, List.map_map]
  rfl

/-- The bytes of a transfer are given out exactly. -/
theorem sum_parts {t : Transfer} {width : Int} (hw : 0 < width) (ht : t.start ≤ t.finish)
    (c : Counter) : ((t.parts width c).map fun s => s.2.toNat).sum = (t.bytes c).toNat := by
  have hpos : 0 < t.length := length_pos (Int64.not_lt.2 ht)
  have htiling := tiling_slotsOf hw (lt_add_of_pos_right t.start.toInt hpos)
  have hsum := htiling.sum_spread (t.bytes c)
  rwa [add_sub_cancel_left] at hsum

end Transfer

namespace Recorder

variable {slots : Std.TreeMap Int Tally} {r k : Recorder} {t : Transfer}

/-! ## One slot -/

/-- The bytes counted in the slot of an index. -/
def bytesAt (r : Recorder) (c : Counter) (index : Int) : Nat :=
  ((r.slots.getD index Tally.zero).bytes c).toNat

theorem getD_credit (index i : Int) (tally : Tally) :
    (credit slots index tally.rx tally.tx).getD i Tally.zero =
      if index = i then (slots.getD i Tally.zero).add tally.rx tally.tx
      else slots.getD i Tally.zero := by
  simp only [credit, Std.TreeMap.getD_insert, Std.LawfulEqCmp.compare_eq_iff_eq]
  split <;> simp_all

theorem getD_foldl_credit_of_notMem {shares : List (Int × Tally)} {i : Int}
    (hi : i ∉ shares.map Prod.fst) :
    (shares.foldl (fun m s => credit m s.1 s.2.rx s.2.tx) slots).getD i Tally.zero =
      slots.getD i Tally.zero := by
  induction shares generalizing slots with
  | nil => rfl
  | cons s shares ih =>
    obtain ⟨hne, hi⟩ : i ≠ s.1 ∧ i ∉ shares.map Prod.fst := by simpa using hi
    rw [List.foldl_cons, ih hi, getD_credit, if_neg hne.symm]

theorem getD_foldl_credit_of_mem {shares : List (Int × Tally)}
    (hnodup : (shares.map Prod.fst).Nodup) {s : Int × Tally} (hs : s ∈ shares) :
    (shares.foldl (fun m s => credit m s.1 s.2.rx s.2.tx) slots).getD s.1 Tally.zero =
      (slots.getD s.1 Tally.zero).add s.2.rx s.2.tx := by
  induction shares generalizing slots with
  | nil => cases hs
  | cons u shares ih =>
    obtain ⟨hu, hnodup⟩ := List.nodup_cons.1 hnodup
    rw [List.foldl_cons]
    rcases List.mem_cons.1 hs with rfl | hs
    · rw [getD_foldl_credit_of_notMem hu, getD_credit, if_pos rfl]
    · have hne : u.1 ≠ s.1 := fun he => hu (he ▸ List.mem_map_of_mem hs)
      rw [ih hnodup hs, getD_credit, if_neg hne]

/-! ## Recording -/

/-- A recorder accepts the transfers that do not end before they begin. -/
theorem record_of_le (r : Recorder) (ht : t.start ≤ t.finish) :
    r.record t = .ok
      { r with
        slots := (t.tallies r.width.toInt).foldl (fun m s => credit m s.1 s.2.rx s.2.tx)
          r.slots } := by
  rw [record, if_neg (Int64.not_lt.2 ht), Transfer.tallies, List.foldl_map]
  rfl

theorem start_le_finish_of_record (hr : r.record t = .ok k) : t.start ≤ t.finish := by
  by_contra hlt
  rw [record_of_reversed r (Int64.not_le.1 hlt)] at hr
  cases hr

theorem slots_record (hr : r.record t = .ok k) :
    k.slots =
      (t.tallies r.width.toInt).foldl (fun m s => credit m s.1 s.2.rx s.2.tx) r.slots := by
  rw [record_of_le r (start_le_finish_of_record hr)] at hr
  obtain rfl := Except.ok.inj hr
  rfl

/-- A slot that the transfer does not meet stays as it is. -/
theorem getD_slots_record_of_not_met (hr : r.record t = .ok k) {i : Int}
    (hi : ¬ (t.start.toInt / r.width.toInt ≤ i ∧
      i ≤ (t.start.toInt + t.length - 1) / r.width.toInt)) :
    k.slots.getD i Tally.zero = r.slots.getD i Tally.zero := by
  rw [slots_record hr]
  apply getD_foldl_credit_of_notMem
  rwa [Transfer.map_fst_tallies, mem_index_slotsOf]

/-- No counter of a slot that the transfer meets would exceed the greatest byte count. -/
def HasRoom (r : Recorder) (t : Transfer) (c : Counter) : Prop :=
  ∀ s ∈ t.parts r.width.toInt c, r.bytesAt c s.1 + s.2.toNat ≤ 18446744073709551615

/-- A slot that the transfer meets grows by its part. -/
theorem bytesAt_record (hr : r.record t = .ok k) {c : Counter} (hroom : r.HasRoom t c)
    {s : Int × UInt64} (hs : s ∈ t.parts r.width.toInt c) :
    k.bytesAt c s.1 = r.bytesAt c s.1 + s.2.toNat := by
  have hfits := hroom s hs
  rw [← Transfer.map_bytes_tallies] at hs
  obtain ⟨u, hu, rfl⟩ := List.mem_map.1 hs
  have hnodup : ((t.tallies r.width.toInt).map Prod.fst).Nodup := by
    rw [Transfer.map_fst_tallies]
    exact nodup_index_slotsDown _ _
  rw [bytesAt, slots_record hr, getD_foldl_credit_of_mem hnodup hu, Tally.bytes_add, toNat_satSum]
  exact min_eq_left hfits

/-! ## All slots -/

/-- The bytes counted in all slots. -/
def bytesIn (slots : Std.TreeMap Int Tally) (c : Counter) : Nat :=
  (slots.toList.map fun s => (s.2.bytes c).toNat).sum

/-- Replacing the tally of a slot replaces its bytes in the sum. -/
theorem bytesIn_insert (slots : Std.TreeMap Int Tally) (index : Int) (tally : Tally)
    (c : Counter) :
    bytesIn (slots.insert index tally) c + ((slots.getD index Tally.zero).bytes c).toNat =
      bytesIn slots c + (tally.bytes c).toNat := by
  have hsplit (tally : Tally) : bytesIn (slots.insert index tally) c = (tally.bytes c).toNat +
      ((slots.toList.filter (¬ index == ·.1)).map fun s => (s.2.bytes c).toNat).sum := by
    rw [bytesIn, (Std.TreeMap.toList_insert_perm.map _).sum_nat, List.map_cons, List.sum_cons]
  have hold : bytesIn slots c = ((slots.getD index Tally.zero).bytes c).toNat +
      ((slots.toList.filter (¬ index == ·.1)).map fun s => (s.2.bytes c).toNat).sum := by
    by_cases hm : index ∈ slots
    · -- Inserting what is there already changes nothing.
      have hsame : (slots.insert index (slots.getD index Tally.zero)).Equiv slots := by
        refine .of_forall_constGet?_eq fun i => ?_
        simp only [Std.TreeMap.getElem?_insert, Std.LawfulEqCmp.compare_eq_iff_eq]
        split
        · rename_i he
          rw [← he, Std.TreeMap.getElem?_eq_some_getD hm]
        · rfl
      rw [← hsplit, bytesIn, bytesIn, hsame.toList_eq]
    · have hall : slots.toList.filter (¬ index == ·.1) = slots.toList := by
        refine List.filter_eq_self.2 fun s hs => ?_
        have hne : index ≠ s.1 := fun he => hm (he ▸ mem_of_mem_toList hs)
        simpa using hne
      rw [hall, Std.TreeMap.getD_eq_fallback hm]
      simp [bytesIn]
  rw [hsplit, hold]
  omega

theorem getD_le_bytesIn (slots : Std.TreeMap Int Tally) (c : Counter) (index : Int) :
    ((slots.getD index Tally.zero).bytes c).toNat ≤ bytesIn slots c := by
  have := bytesIn_insert slots index Tally.zero c
  rw [Tally.bytes_zero, UInt64.toNat_zero] at this
  omega

theorem bytesIn_credit {index : Int} {tally : Tally} {c : Counter}
    (hroom : bytesIn slots c + (tally.bytes c).toNat ≤ 18446744073709551615) :
    bytesIn (credit slots index tally.rx tally.tx) c =
      bytesIn slots c + (tally.bytes c).toNat := by
  have hat := getD_le_bytesIn slots c index
  have hinsert := bytesIn_insert slots index
    ((slots.getD index Tally.zero).add tally.rx tally.tx) c
  rw [Tally.bytes_add, toNat_satSum] at hinsert
  rw [credit]
  omega

theorem bytesIn_foldl_credit {shares : List (Int × Tally)} {c : Counter}
    (hroom : bytesIn slots c + (shares.map fun s => (s.2.bytes c).toNat).sum ≤
      18446744073709551615) :
    bytesIn (shares.foldl (fun m s => credit m s.1 s.2.rx s.2.tx) slots) c =
      bytesIn slots c + (shares.map fun s => (s.2.bytes c).toNat).sum := by
  induction shares generalizing slots with
  | nil => rfl
  | cons s shares ih =>
    rw [List.map_cons, List.sum_cons] at hroom ⊢
    have hone : bytesIn (credit slots s.1 s.2.rx s.2.tx) c =
        bytesIn slots c + (s.2.bytes c).toNat := bytesIn_credit (by omega)
    rw [List.foldl_cons, ih (by omega), hone, Nat.add_assoc]

/-- Recording adds the bytes of a transfer, if that does not exceed the greatest byte count. -/
theorem bytesIn_record (hw : 0 < r.width.toInt) (hr : r.record t = .ok k) {c : Counter}
    (hroom : bytesIn r.slots c + (t.bytes c).toNat ≤ 18446744073709551615) :
    bytesIn k.slots c = bytesIn r.slots c + (t.bytes c).toNat := by
  have hsum : ((t.tallies r.width.toInt).map fun s => (s.2.bytes c).toNat).sum =
      (t.bytes c).toNat := by
    rw [← Transfer.sum_parts hw (start_le_finish_of_record hr) c, ← Transfer.map_bytes_tallies,
      List.map_map]
    rfl
  rw [← hsum] at hroom ⊢
  rw [slots_record hr, bytesIn_foldl_credit hroom]

end Recorder

end TrafficChart
