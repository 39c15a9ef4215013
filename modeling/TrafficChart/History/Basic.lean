import TrafficChart.Refusal
import TrafficChart.UsageSource

/-!
# Histories

A history is a sequence of buckets in order of time that do not overlap. Lengths may vary and
gaps are allowed. A bucket is refused with the first reason that applies, and the history then
stays as it was.

## Main definitions

* `History`, `History.create`, `History.push`, `History.ofBuckets`: building.
* `Ordered`: what the buckets of a history satisfy.
* `History.start?`, `History.finish?`, `History.totalBytes`: the extent and the sum.
-/

namespace TrafficChart

/-- Buckets of positive length, of which each ends before all later ones begin. -/
structure Ordered (buckets : List Bucket) : Prop where
  duration_pos : ∀ b ∈ buckets, 0 < b.duration
  apart : buckets.Pairwise fun a b => a.finish ≤ b.start

theorem Ordered.nil : Ordered [] := ⟨by simp, .nil⟩

theorem Ordered.append_singleton {buckets : List Bucket} {b : Bucket} (ho : Ordered buckets)
    (hd : 0 < b.duration) (hl : ∀ p ∈ buckets.getLast?, p.finish ≤ b.start) :
    Ordered (buckets ++ [b]) := by
  refine ⟨?_, List.pairwise_append.2 ⟨ho.apart, by simp, ?_⟩⟩
  · intro c hc
    rcases List.mem_append.1 hc with hc | hc
    · exact ho.duration_pos c hc
    · exact List.mem_singleton.1 hc ▸ hd
  · intro a ha c hc
    obtain rfl := List.mem_singleton.1 hc
    obtain rfl | ⟨older, last, rfl⟩ := List.eq_nil_or_concat buckets
    · cases ha
    · rw [List.concat_eq_append] at *
      have hlast : last.finish ≤ c.start := hl last (by simp)
      rcases List.mem_append.1 ha with ha | ha
      · have hs := Bucket.start_le_finish (ho.duration_pos last (by simp))
        have hal := (List.pairwise_append.1 ho.apart).2.2 a ha last (by simp)
        exact Int64.le_trans hal (Int64.le_trans hs hlast)
      · exact List.mem_singleton.1 ha ▸ hlast

structure History where
  bucketLength : Int64
  buckets : Array Bucket
  deriving DecidableEq

namespace History

/-- An empty history. The nominal bucket length is positive. -/
def create (bucketLength : Int64) : Except Refusal History :=
  if bucketLength ≤ 0 then .error (.nominalLength bucketLength)
  else .ok ⟨bucketLength, #[]⟩

/-- Why a bucket may not stand at `index`, directly after `last`. -/
def refusal? (index : Nat) (last : Option Bucket) (b : Bucket) : Option Refusal :=
  if b.duration ≤ 0 then some (.emptyBucket index b.duration)
  else
    match last with
    | none => none
    | some previous =>
      if b.start < previous.start then
        some (.unorderedBucket index b.start previous.start)
      else if b.start < previous.finish then
        some (.overlappingBucket index b.start previous.finish)
      else none

/-- Appends a bucket. -/
def push (h : History) (b : Bucket) : Except Refusal History :=
  match refusal? h.buckets.size h.buckets.back? b with
  | some e => .error e
  | none => .ok { h with buckets := h.buckets.push b }

/-- The history of the given buckets, or the refusal of the first one that does not fit. -/
def ofBuckets (bucketLength : Int64) (buckets : List Bucket) : Except Refusal History := do
  let empty ← create bucketLength
  buckets.foldlM push empty

def toList (h : History) : List Bucket := h.buckets.toList

def size (h : History) : Nat := h.buckets.size

def first? (h : History) : Option Bucket := h.buckets[0]?

def last? (h : History) : Option Bucket := h.buckets.back?

/-- The start of the oldest bucket. -/
def start? (h : History) : Option Int64 := h.first?.map Bucket.start

/-- The end of the newest bucket. -/
def finish? (h : History) : Option Int64 := h.last?.map Bucket.finish

/-- All bytes, received and sent. -/
def totalBytes (h : History) : UInt64 :=
  h.toList.foldl (fun sum b => satSum sum b.total) 0

theorem getElem?_toList (h : History) (i : Nat) : h.toList[i]? = h.buckets[i]? :=
  Array.getElem?_toList

theorem getLast?_toList (h : History) : h.toList.getLast? = h.last? :=
  Array.getLast?_toList h.buckets

theorem toList_ne_nil {h : History} (hsize : 2 ≤ h.size) : h.toList ≠ [] :=
  List.length_pos_iff.1 (Nat.lt_of_lt_of_le Nat.two_pos hsize)

theorem push_eq_ok_iff {h k : History} {b : Bucket} :
    h.push b = .ok k ↔
      refusal? h.buckets.size h.buckets.back? b = none ∧
        k = { h with buckets := h.buckets.push b } := by
  unfold push
  cases refusal? h.buckets.size h.buckets.back? b <;> simp [eq_comm]

theorem toList_push {h k : History} {b : Bucket} (hp : h.push b = .ok k) :
    k.toList = h.toList ++ [b] := by
  obtain ⟨_, rfl⟩ := push_eq_ok_iff.1 hp
  simp [toList]

theorem bucketLength_push {h k : History} {b : Bucket} (hp : h.push b = .ok k) :
    k.bucketLength = h.bucketLength := by
  obtain ⟨_, rfl⟩ := push_eq_ok_iff.1 hp
  rfl

/-- A bucket fits if it has a length and begins when the last one has ended. -/
theorem refusal?_eq_none_iff {index : Nat} {last : Option Bucket} {b : Bucket}
    (hl : ∀ p ∈ last, 0 < p.duration) :
    refusal? index last b = none ↔ 0 < b.duration ∧ ∀ p ∈ last, p.finish ≤ b.start := by
  unfold refusal?
  rw [← Int64.not_le]
  cases last with
  | none => simp
  | some p =>
    have hs : p.start ≤ p.finish := Bucket.start_le_finish (hl p rfl)
    simp only [Option.mem_def, Option.some.injEq, forall_eq', ← Int64.not_lt]
    rw [← Int64.not_lt] at hs
    split
    · simp_all
    · split
      · rename_i h
        simpa [*] using Int64.lt_of_lt_of_le h (Int64.not_lt.1 hs)
      · split <;> simp_all

/-- A history stays ordered when a bucket is accepted. -/
theorem ordered_push {h k : History} {b : Bucket} (ho : Ordered h.toList)
    (hp : h.push b = .ok k) : Ordered k.toList := by
  have hf := (push_eq_ok_iff.1 hp).1
  have hlast (p : Bucket) (hm : h.toList.getLast? = some p) : 0 < p.duration :=
    ho.duration_pos p (List.mem_of_getLast? hm)
  rw [← last?, ← getLast?_toList, refusal?_eq_none_iff hlast] at hf
  rw [toList_push hp]
  exact ho.append_singleton hf.1 hf.2

end History

end TrafficChart
