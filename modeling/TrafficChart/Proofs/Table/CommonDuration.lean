import Std.Data.HashMap
import TrafficChart.Table.CommonDuration

/-!
# Which duration is common

Frequencies are compared by their count and then by their duration, so that no two of them are
equally good. Hence a list has one best frequency at most, wherever it stands, and the common
duration depends neither on the order of the buckets nor on that in which a table of counts is read.
-/

namespace TrafficChart.Table

/-! ## The best frequency -/

namespace Frequency

variable {a b c : Frequency} {fs : List Frequency}

theorem not_beats_self (a : Frequency) : ¬ a.Beats a := by
  simp [Beats]

theorem Beats.asymm (h : a.Beats b) : ¬ b.Beats a := by
  simp only [Beats, Int64.lt_iff_toInt_lt] at *
  omega

theorem not_beats_trans (hab : ¬ a.Beats b) (hbc : ¬ b.Beats c) : ¬ a.Beats c := by
  simp only [Beats, Int64.lt_iff_toInt_lt] at *
  omega

/-- No two frequencies are equally good. -/
theorem eq_of_not_beats (hab : ¬ a.Beats b) (hba : ¬ b.Beats a) : a = b := by
  obtain ⟨d, m⟩ := a
  obtain ⟨e, n⟩ := b
  simp only [Beats, Int64.lt_iff_toInt_lt] at hab hba
  have hcount : m = n := by omega
  have hduration : d = e := Int64.toInt_inj.1 (by omega)
  rw [hcount, hduration]

/-- A frequency of the list that no other one beats. -/
def Best (fs : List Frequency) (f : Frequency) : Prop := f ∈ fs ∧ ∀ g ∈ fs, ¬ g.Beats f

theorem Best.eq (ha : Best fs a) (hb : Best fs b) : a = b :=
  eq_of_not_beats (hb.2 a ha.1) (ha.2 b hb.1)

theorem best_singleton (a : Frequency) : Best [a] a := by
  simp [Best, not_beats_self]

theorem Best.better (hb : Best fs b) (a : Frequency) : Best (a :: fs) (a.better (some b)) := by
  by_cases hwins : b.Beats a
  · have hbetter : a.better (some b) = b := if_pos hwins
    rw [hbetter]
    exact ⟨List.mem_cons_of_mem a hb.1, List.forall_mem_cons.2 ⟨hwins.asymm, hb.2⟩⟩
  · have hbetter : a.better (some b) = a := if_neg hwins
    rw [hbetter]
    refine ⟨List.mem_cons_self, List.forall_mem_cons.2 ⟨not_beats_self a, ?_⟩⟩
    intro g hg
    exact not_beats_trans (hb.2 g hg) hwins

end Frequency

open Frequency (Best)

variable {fs gs : List Frequency}

theorem best_of_mostFrequent {f : Frequency} (h : mostFrequent fs = some f) : Best fs f := by
  induction fs generalizing f with
  | nil => cases h
  | cons a fs ih =>
    obtain rfl : a.better (mostFrequent fs) = f := Option.some.inj h
    cases hrest : mostFrequent fs with
    | none =>
      rw [(mostFrequent_eq_none_iff fs).1 hrest]
      exact Frequency.best_singleton a
    | some b => exact (ih hrest).better a

theorem mostFrequent_eq_some_iff {f : Frequency} : mostFrequent fs = some f ↔ Best fs f := by
  constructor
  · exact best_of_mostFrequent
  · intro hf
    cases h : mostFrequent fs with
    | none =>
      rw [(mostFrequent_eq_none_iff fs).1 h] at hf
      exact absurd hf.1 List.not_mem_nil
    | some g => rw [hf.eq (best_of_mostFrequent h)]

/-- Only the members of the list count. -/
theorem mostFrequent_congr (h : ∀ f, f ∈ fs ↔ f ∈ gs) : mostFrequent fs = mostFrequent gs := by
  apply Option.ext
  intro f
  simp only [mostFrequent_eq_some_iff, Best, h]

/-! ## The common duration -/

variable {durations : List Int64} {buckets buckets' : List Bucket}

/-- A duration of the list that none exceeds in frequency. It is longer than the others that are as
frequent. -/
def Commonest (durations : List Int64) (d : Int64) : Prop :=
  d ∈ durations ∧ ∀ e ∈ durations, e ≠ d →
    durations.count e ≤ durations.count d ∧ (durations.count e = durations.count d → e < d)

theorem mem_frequencies {f : Frequency} :
    f ∈ frequencies durations ↔ f.duration ∈ durations ∧ f.count = durations.count f.duration := by
  obtain ⟨d, n⟩ := f
  simp only [frequencies, List.mem_map, List.mem_eraseDups, Frequency.mk.injEq]
  grind

theorem best_frequencies_iff {d : Int64} :
    Best (frequencies durations) ⟨d, durations.count d⟩ ↔ Commonest durations d := by
  simp only [Best, mem_frequencies, Commonest, and_true]
  refine and_congr_right fun _ => ⟨?_, ?_⟩
  · intro hbest e he hne
    have hbeats := hbest ⟨e, durations.count e⟩ ⟨he, rfl⟩
    have hne' : e.toInt ≠ d.toInt := mt Int64.toInt_inj.1 hne
    simp only [Frequency.Beats, Int64.lt_iff_toInt_lt] at hbeats ⊢
    omega
  · rintro hmost ⟨e, n⟩ ⟨he, hn⟩
    obtain rfl : n = durations.count e := hn
    simp only [Frequency.Beats, Int64.lt_iff_toInt_lt] at hmost ⊢
    by_cases hed : e = d
    · simp [hed]
    · have hless := hmost e he hed
      omega

theorem commonDuration_eq_some_iff {d : Int64} :
    commonDuration buckets = some d ↔ Commonest (buckets.map Bucket.duration) d := by
  rw [← best_frequencies_iff, commonDuration, Option.map_eq_some_iff]
  constructor
  · rintro ⟨f, hf, rfl⟩
    have hbest := mostFrequent_eq_some_iff.1 hf
    rwa [← (mem_frequencies.1 hbest.1).2]
  · intro hbest
    exact ⟨_, mostFrequent_eq_some_iff.2 hbest, rfl⟩

theorem commonDuration_eq_none_iff : commonDuration buckets = none ↔ buckets = [] := by
  cases buckets with
  | nil => simp [commonDuration, frequencies, mostFrequent]
  | cons b buckets => simp [commonDuration, frequencies, mostFrequent, List.eraseDups_cons]

/-- The order of the buckets does not matter. -/
theorem commonDuration_perm (h : buckets.Perm buckets') :
    commonDuration buckets = commonDuration buckets' := by
  apply Option.ext
  intro d
  have hd := h.map Bucket.duration
  simp only [commonDuration_eq_some_iff, Commonest, hd.mem_iff, hd.count_eq]

theorem nominalLength_perm (h : buckets.Perm buckets') :
    nominalLength buckets = nominalLength buckets' := by
  simp only [nominalLength, commonDuration_perm h]

/-! ## Counting one by one -/

/-- Counts a duration once more. -/
def countOnce (counts : Std.HashMap Int64 Nat) (d : Int64) : Std.HashMap Int64 Nat :=
  counts.insert d (counts.getD d 0 + 1)

/-- How often each duration occurs, counted one after the other. -/
def tally (durations : List Int64) : Std.HashMap Int64 Nat := durations.foldl countOnce ∅

/-- An entry of a table of counts. -/
def Frequency.ofEntry (entry : Int64 × Nat) : Frequency := ⟨entry.1, entry.2⟩

theorem getElem?_foldl_countOnce (counts : Std.HashMap Int64 Nat) (d : Int64) :
    (durations.foldl countOnce counts)[d]? =
      if d ∈ durations then some (counts.getD d 0 + durations.count d) else counts[d]? := by
  induction durations generalizing counts with
  | nil => simp
  | cons e durations ih =>
    simp only [List.foldl_cons, ih, countOnce, Std.HashMap.getD_insert,
      Std.HashMap.getElem?_insert, List.mem_cons, List.count_cons]
    by_cases hed : e = d
    · subst hed
      by_cases hmem : e ∈ durations
      · simp [hmem]
        omega
      · simp [hmem, List.count_eq_zero_of_not_mem hmem]
    · simp [hed, Ne.symm hed]

theorem mem_entries_tally {f : Frequency} :
    f ∈ (tally durations).toList.map Frequency.ofEntry ↔ f ∈ frequencies durations := by
  obtain ⟨d, n⟩ := f
  have hentry : (d, n) ∈ (tally durations).toList ↔ d ∈ durations ∧ n = durations.count d := by
    rw [Std.HashMap.mem_toList_iff_getElem?_eq_some, tally, getElem?_foldl_countOnce]
    grind
  rw [mem_frequencies, ← hentry]
  simp [Frequency.ofEntry]

/-- There is a common duration if there is a bucket, and it is the most frequent one, of several the
longest. It is found in a table of counts, in whatever order the table is read, and is the same for
the buckets in any other order. -/
theorem commonDuration_of_any_order (buckets : List Bucket) :
    let durations := buckets.map Bucket.duration
    (commonDuration buckets = none ↔ buckets = []) ∧
    (∀ d, commonDuration buckets = some d ↔ Commonest durations d) ∧
    (∀ read : List (Int64 × Nat), read.Perm (tally durations).toList →
      (mostFrequent (read.map Frequency.ofEntry)).map Frequency.duration =
        commonDuration buckets) ∧
    ∀ buckets', buckets'.Perm buckets → commonDuration buckets' = commonDuration buckets := by
  intro durations
  refine ⟨commonDuration_eq_none_iff, fun d => commonDuration_eq_some_iff, ?_, ?_⟩
  · intro read hread
    have hmem (f : Frequency) :
        f ∈ read.map Frequency.ofEntry ↔ f ∈ frequencies durations := by
      rw [(hread.map Frequency.ofEntry).mem_iff, mem_entries_tally]
    rw [mostFrequent_congr hmem, commonDuration]
  · intro buckets' h
    exact commonDuration_perm h

/-- Of two durations that occur twice the longer one is taken, though a third one is longer
still. -/
theorem commonDuration_of_two_pairs :
    let buckets : List Bucket :=
      [⟨0, 20, 0, 0⟩, ⟨20, 10, 0, 0⟩, ⟨30, 90, 0, 0⟩, ⟨120, 10, 0, 0⟩, ⟨130, 20, 0, 0⟩]
    let counts := tally (buckets.map Bucket.duration)
    commonDuration buckets = some 20 ∧ Commonest (buckets.map Bucket.duration) 20 ∧
      (mostFrequent (counts.toList.reverse.map Frequency.ofEntry)).map Frequency.duration =
        some 20 ∧
      commonDuration buckets.reverse = some 20 := by
  intro buckets counts
  have h : commonDuration buckets = some 20 := by decide
  obtain ⟨-, hmost, hread, hperm⟩ := commonDuration_of_any_order buckets
  refine ⟨h, (hmost 20).1 h, ?_, ?_⟩
  · rw [hread _ counts.toList.reverse_perm, h]
  · rw [hperm _ buckets.reverse_perm, h]

end TrafficChart.Table
