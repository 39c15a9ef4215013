import TrafficChart.Proofs.History.Reachable

/-!
# What a history accepts

A history compares a new bucket with its last one only. As every bucket it holds has a length, this
orders all of them: each ends before all later ones begin. Making a history of given buckets
accepts exactly those of which each fits its neighbour, and otherwise names the first one that does
not and the first rule that it breaks.
-/

namespace TrafficChart

/-! ## Buckets in sequence -/

/-- Buckets of positive length, of which each begins when the one before it has ended. -/
structure Sequential (buckets : List Bucket) : Prop where
  duration_pos : ∀ b ∈ buckets, 0 < b.duration
  adjacent : buckets.IsChain fun a b => a.finish ≤ b.start

theorem Ordered.of_append_left {older newer : List Bucket} (ho : Ordered (older ++ newer)) :
    Ordered older :=
  ⟨fun b hb => ho.duration_pos b (List.mem_append_left newer hb),
    (List.pairwise_append.1 ho.apart).1⟩

theorem ordered_append_singleton_iff {buckets : List Bucket} {b : Bucket}
    (ho : Ordered buckets) :
    Ordered (buckets ++ [b]) ↔
      0 < b.duration ∧ ∀ p ∈ buckets.getLast?, p.finish ≤ b.start := by
  constructor
  · intro h
    refine ⟨h.duration_pos b (by simp), fun p hp => ?_⟩
    exact (List.pairwise_append.1 h.apart).2.2 p (List.mem_of_getLast? hp) b (by simp)
  · rintro ⟨hd, hlast⟩
    exact ho.append_singleton hd hlast

/-- Neighbours that fit make all buckets fit. -/
theorem sequential_iff_ordered {buckets : List Bucket} : Sequential buckets ↔ Ordered buckets := by
  constructor
  · rintro ⟨hd, hadj⟩
    -- Newest last, as they are accepted.
    induction buckets using List.reverseRecOn with
    | nil => exact .nil
    | append_singleton older b ih =>
      obtain ⟨holder, -, hlast⟩ := List.isChain_append.1 hadj
      have ho := ih (fun a ha => hd a (List.mem_append_left [b] ha)) holder
      exact ho.append_singleton (hd b (by simp)) fun p hp => hlast p hp b rfl
  · intro ho
    exact ⟨ho.duration_pos, ho.apart.isChain⟩

namespace Bucket

/-- The instants of a bucket are those from its start to before its end. -/
def Covers (b : Bucket) (t : Int64) : Prop := b.start ≤ t ∧ t < b.finish

/-- Why a bucket may not stand at `index` after the last one. Each rule counts only if the bucket
keeps those before it. -/
inductive RefusedAt (index : Nat) (last : Option Bucket) (b : Bucket) : Refusal → Prop
  | empty : b.duration ≤ 0 → RefusedAt index last b (.emptyBucket index b.duration)
  | unordered {p : Bucket} : 0 < b.duration → last = some p → b.start < p.start →
    RefusedAt index last b (.unorderedBucket index b.start p.start)
  | overlapping {p : Bucket} : 0 < b.duration → last = some p → p.start ≤ b.start →
    b.start < p.finish → RefusedAt index last b (.overlappingBucket index b.start p.finish)

end Bucket

/-- No instant lies in two buckets. -/
theorem Ordered.covers_one {buckets : List Bucket} (ho : Ordered buckets) :
    buckets.Pairwise fun a b => ∀ t, ¬ (a.Covers t ∧ b.Covers t) := by
  refine ho.apart.imp fun hab t => ?_
  rintro ⟨⟨-, ha⟩, hb, -⟩
  exact Int64.not_le.2 ha (Int64.le_trans hab hb)

namespace History

variable {h k : History} {b : Bucket} {buckets : List Bucket} {e : Refusal}

/-! ## One bucket -/

theorem refusal?_eq_some_iff {index : Nat} {last : Option Bucket} :
    refusal? index last b = some e ↔ b.RefusedAt index last e := by
  constructor
  · intro he
    unfold refusal? at he
    split at he
    · rename_i hd
      obtain rfl := Option.some.inj he
      exact .empty hd
    · rename_i hd
      split at he
      · cases he
      · rename_i p
        split at he
        · rename_i hs
          obtain rfl := Option.some.inj he
          exact .unordered (Int64.not_le.1 hd) rfl hs
        · rename_i hs
          split at he
          · rename_i hf
            obtain rfl := Option.some.inj he
            exact .overlapping (Int64.not_le.1 hd) rfl (Int64.not_lt.1 hs) hf
          · cases he
  · intro he
    cases he with
    | empty hd => simp [refusal?, hd]
    | unordered hd hlast hs => simp [refusal?, Int64.not_le.2 hd, hlast, hs]
    | overlapping hd hlast hs hf =>
      simp [refusal?, Int64.not_le.2 hd, hlast, Int64.not_lt.2 hs, hf]

theorem push_eq_error_iff :
    h.push b = .error e ↔ b.RefusedAt h.size h.toList.getLast? e := by
  rw [← refusal?_eq_some_iff, getLast?_toList, push, size, last?]
  cases refusal? h.buckets.size h.buckets.back? b <;> simp

/-- A bucket is accepted if the buckets are in order with it. -/
theorem push_eq_ok_iff_ordered (ho : Ordered h.toList) :
    h.push b = .ok k ↔
      Ordered (h.toList ++ [b]) ∧ k = ⟨h.bucketLength, (h.toList ++ [b]).toArray⟩ := by
  have hpos : ∀ p ∈ h.toList.getLast?, 0 < p.duration := fun p hp =>
    ho.duration_pos p (List.mem_of_getLast? hp)
  have hnext : (h.toList ++ [b]).toArray = h.buckets.push b := by
    simp [toList, ← Array.toList_push]
  rw [push_eq_ok_iff, ← last?, ← getLast?_toList, refusal?_eq_none_iff hpos,
    ordered_append_singleton_iff ho, hnext]

/-! ## Many buckets -/

theorem foldlM_push_eq_ok_iff (ho : Ordered h.toList) :
    buckets.foldlM push h = .ok k ↔
      Ordered (h.toList ++ buckets) ∧ k = ⟨h.bucketLength, (h.toList ++ buckets).toArray⟩ := by
  induction buckets generalizing h with
  | nil =>
    rw [List.append_nil, and_iff_right ho, List.foldlM_nil, eq_comm (a := k)]
    simp [pure, Except.pure, toList]
  | cons b buckets ih =>
    rw [List.foldlM_cons]
    cases hb : h.push b with
    | error e =>
      simp only [bind, Except.bind, reduceCtorEq, false_iff, not_and]
      intro hall
      rw [List.append_cons] at hall
      have hok := (push_eq_ok_iff_ordered ho).2 ⟨hall.of_append_left, rfl⟩
      simp [hb] at hok
    | ok g =>
      have hg := toList_push hb
      simp only [bind, Except.bind]
      rw [ih (ordered_push ho hb), hg, bucketLength_push hb, ← List.append_cons]

/-- The first bucket that does not fit is refused, whatever comes after it. -/
theorem foldlM_push_eq_error_iff (ho : Ordered h.toList) :
    buckets.foldlM push h = .error e ↔
      ∃ older b newer, buckets = older ++ b :: newer ∧ Ordered (h.toList ++ older) ∧
        b.RefusedAt (h.size + older.length) (h.toList ++ older).getLast? e := by
  constructor
  · intro he
    induction buckets generalizing h with
    | nil => cases he
    | cons b buckets ih =>
      rw [List.foldlM_cons] at he
      cases hb : h.push b with
      | error d =>
        rw [hb] at he
        obtain rfl := Except.error.inj he
        exact ⟨[], b, buckets, rfl, by simpa using ho, by simpa using push_eq_error_iff.1 hb⟩
      | ok g =>
        rw [hb] at he
        obtain ⟨older, c, newer, rfl, holder, hc⟩ := ih (ordered_push ho hb) he
        have hsize : g.size = h.size + 1 := by
          simpa [size, toList] using congrArg List.length (toList_push hb)
        rw [toList_push hb, ← List.append_cons] at holder hc
        refine ⟨b :: older, c, newer, rfl, holder, ?_⟩
        rwa [hsize, Nat.add_assoc, Nat.add_comm 1] at hc
  · rintro ⟨older, b, newer, rfl, holder, hb⟩
    have hok := (foldlM_push_eq_ok_iff ho).2 ⟨holder, rfl⟩
    have hrefused : push ⟨h.bucketLength, (h.toList ++ older).toArray⟩ b = .error e := by
      rw [push_eq_error_iff]
      simpa [size, toList] using hb
    rw [List.foldlM_append, hok]
    simp only [bind, Except.bind, List.foldlM_cons, hrefused]

variable {bucketLength : Int64}

theorem ofBuckets_of_pos (hd : 0 < bucketLength) :
    ofBuckets bucketLength buckets = buckets.foldlM push ⟨bucketLength, #[]⟩ := by
  simp [ofBuckets, create, Int64.not_le.2 hd, bind, Except.bind]

theorem ofBuckets_of_le (hd : bucketLength ≤ 0) :
    ofBuckets bucketLength buckets = .error (.nominalLength bucketLength) := by
  simp [ofBuckets, create, hd, bind, Except.bind]

/-- A history can be made of given buckets if they are in order, and it holds just these. -/
theorem ofBuckets_eq_ok_iff :
    ofBuckets bucketLength buckets = .ok h ↔
      0 < bucketLength ∧ Ordered buckets ∧ h = ⟨bucketLength, buckets.toArray⟩ := by
  by_cases hd : 0 < bucketLength
  · rw [ofBuckets_of_pos hd, foldlM_push_eq_ok_iff (h := ⟨bucketLength, #[]⟩) Ordered.nil]
    simp [hd, toList]
  · simp [ofBuckets_of_le (Int64.not_lt.1 hd), hd]

/-- Otherwise the first bucket is refused that does not fit the ones before it. -/
theorem ofBuckets_eq_error_iff :
    ofBuckets bucketLength buckets = .error e ↔
      bucketLength ≤ 0 ∧ e = .nominalLength bucketLength ∨
      0 < bucketLength ∧ ∃ older b newer, buckets = older ++ b :: newer ∧ Ordered older ∧
        b.RefusedAt older.length older.getLast? e := by
  by_cases hd : 0 < bucketLength
  · rw [ofBuckets_of_pos hd, foldlM_push_eq_error_iff (h := ⟨bucketLength, #[]⟩) Ordered.nil]
    simp [hd, Int64.not_le.2 hd, toList, size]
  · simp [ofBuckets_of_le (Int64.not_lt.1 hd), hd, Int64.not_lt.1 hd, eq_comm]

/-! ## Any run of offers -/

/-- Offers buckets one after the other. A refused one leaves the history as it was. -/
def pushAll (h : History) (offered : List Bucket) : History :=
  offered.foldl (fun h b => (h.push b).toOption.getD h) h

theorem pushAll_append_singleton (h : History) (offered : List Bucket) (b : Bucket) :
    h.pushAll (offered ++ [b]) =
      ((h.pushAll offered).push b).toOption.getD (h.pushAll offered) := by
  simp [pushAll]

theorem Reachable.pushAll (hr : h.Reachable) (offered : List Bucket) :
    (h.pushAll offered).Reachable := by
  induction offered using List.reverseRecOn with
  | nil => exact hr
  | append_singleton offered b ih =>
    rw [pushAll_append_singleton]
    cases hb : (h.pushAll offered).push b with
    | error e => exact ih
    | ok k => exact ih.push hb

/-- However many buckets are offered to a history, refused ones included, those that it holds
have a length, are in order by their starts and by their ends, and share no instant. It accepts
just the buckets that begin when its last one has ended, and a refused one changes nothing. So a
history can be made of buckets exactly if each fits its neighbour, and otherwise it is the first
one that does not for which it is refused. -/
theorem pushAll_keeps_order {h : History} (hr : h.Reachable) (offered : List Bucket) :
    let k := h.pushAll offered
    ((∀ b ∈ k.toList, 0 < b.duration) ∧ k.toList.Pairwise fun a b =>
      a.finish ≤ b.start ∧ a.start ≤ b.start ∧ a.finish ≤ b.finish ∧
        ∀ t, ¬ (a.Covers t ∧ b.Covers t)) ∧
    (∀ b,
      ((∃ next, k.push b = .ok next) ↔
        0 < b.duration ∧ ∀ p ∈ k.toList.getLast?, p.finish ≤ b.start) ∧
      (∀ next, k.push b = .ok next →
        next = ⟨k.bucketLength, (k.toList ++ [b]).toArray⟩ ∧
          h.pushAll (offered ++ [b]) = next) ∧
      (∀ e, k.push b = .error e ↔ b.RefusedAt k.size k.toList.getLast? e) ∧
      ∀ e, k.push b = .error e → h.pushAll (offered ++ [b]) = k) ∧
    ∀ bucketLength buckets,
      (∀ made, ofBuckets bucketLength buckets = .ok made ↔
        0 < bucketLength ∧ Sequential buckets ∧ made = ⟨bucketLength, buckets.toArray⟩) ∧
      ∀ e, ofBuckets bucketLength buckets = .error e ↔
        bucketLength ≤ 0 ∧ e = .nominalLength bucketLength ∨
        0 < bucketLength ∧ ∃ older b newer, buckets = older ++ b :: newer ∧
          Sequential older ∧ b.RefusedAt older.length older.getLast? e := by
  intro k
  have ho : Ordered k.toList := (hr.pushAll offered).ordered
  refine ⟨⟨ho.duration_pos, ?_⟩, fun b => ⟨?_, ?_, fun e => push_eq_error_iff, ?_⟩, ?_⟩
  · exact ho.apart.and (ho.start_mono.and (ho.finish_mono.and ho.covers_one))
  · simp only [push_eq_ok_iff_ordered ho, ordered_append_singleton_iff ho, exists_and_left,
      exists_eq, and_true]
  · intro next hnext
    refine ⟨((push_eq_ok_iff_ordered ho).1 hnext).2, ?_⟩
    simp [pushAll_append_singleton, k, hnext, Except.toOption]
  · intro e he
    simp [pushAll_append_singleton, k, he, Except.toOption]
  · intro bucketLength buckets
    simp only [sequential_iff_ordered]
    exact ⟨fun made => ofBuckets_eq_ok_iff, fun e => ofBuckets_eq_error_iff⟩

/-- Of the buckets offered, the first three break one rule each. The fourth runs beyond the range of
instants, so that another one can begin at the greatest instant only. -/
theorem pushAll_of_refused :
    let offered : List Bucket :=
      [⟨10, 5, 9, 9⟩, ⟨22, 5, 9, 9⟩, ⟨30, 0, 9, 9⟩, ⟨9223372036854775800, 100, 3, 1⟩]
    let late : Bucket := ⟨9223372036854775806, 1, 4, 4⟩
    ∃ h, ofBuckets 10 [⟨0, 10, 1, 0⟩, ⟨20, 5, 2, 0⟩] = .ok h ∧
      (h.pushAll offered).size = 3 ∧
      (h.pushAll offered).push late =
        .error (.overlappingBucket 3 9223372036854775806 9223372036854775807) ∧
      h.pushAll (offered ++ [late]) = h.pushAll offered ∧
      ofBuckets 10 [⟨0, 10, 1, 0⟩, ⟨20, 5, 2, 0⟩, ⟨10, 5, 9, 9⟩, ⟨30, 0, 9, 9⟩] =
        .error (.unorderedBucket 2 10 20) := by
  intro offered late
  let h : History := ⟨10, #[⟨0, 10, 1, 0⟩, ⟨20, 5, 2, 0⟩]⟩
  let last : Bucket := ⟨9223372036854775800, 100, 3, 1⟩
  have hb : ofBuckets 10 h.toList = .ok h := rfl
  have hheld : (h.pushAll offered).toList = h.toList ++ [last] := by decide
  obtain ⟨-, hnext, hmade⟩ := pushAll_keeps_order (.ofBuckets hb) offered
  obtain ⟨-, -, hrefused, hsame⟩ := hnext late
  have hlast : (h.pushAll offered).toList.getLast? = some last := by rw [hheld]; rfl
  have hsize : (h.pushAll offered).size = 3 := congrArg List.length hheld
  have hlate := (hrefused _).2 (.overlapping (by decide) hlast (by decide) (by decide))
  have hfinish : last.finish = 9223372036854775807 := by decide
  rw [hsize, hfinish] at hlate
  have holder : Sequential h.toList := sequential_iff_ordered.2 (ofBuckets_eq_ok_iff.1 hb).2.1
  have hfirst := ((hmade 10 (h.toList ++ ⟨10, 5, 9, 9⟩ :: [⟨30, 0, 9, 9⟩])).2 _).2
    (.inr ⟨by decide, _, _, _, rfl, holder, .unordered (by decide) rfl (by decide)⟩)
  exact ⟨h, hb, hsize, hlate, hsame _ hlate, hfirst⟩

end History

end TrafficChart
