import Std.Data.TreeMap
import TrafficChart.History.Basic

/-!
# Recording transfers

A recorder collects transfers in slots of equal length, aligned to multiples of that length.
A transfer over an interval is spread over the slots it meets, the newest first: each takes
the proportional part of what is left for the time that is left, so that the remainders of
rounding end up in the oldest slot and no byte is lost.

## Main definitions

* `Transfer`: what is recorded.
* `Slot`: the part of an interval that falls into one slot.
* `slotsOf`: the slots of an interval, newest first.
* `spread`: the bytes that each slot takes.
* `Recorder.record`, `Recorder.toHistory`: recording and the resulting history.
-/

namespace TrafficChart

/-- Bytes received and sent from `start` to before `finish`. -/
structure Transfer where
  start : Int64
  finish : Int64
  rx : UInt64
  tx : UInt64
  deriving DecidableEq

/-- The milliseconds that a transfer takes. One that ends where it begins takes one. -/
def Transfer.length (t : Transfer) : Int :=
  if t.finish = t.start then 1 else t.finish.toInt - t.start.toInt

theorem Transfer.length_pos {t : Transfer} (h : ¬ t.finish < t.start) : 0 < t.length := by
  have hle : t.start.toInt ≤ t.finish.toInt := Int64.le_iff_toInt_le.1 (Int64.not_lt.1 h)
  unfold length
  split
  · omega
  · rename_i hne
    have : t.finish.toInt ≠ t.start.toInt := fun he => hne (Int64.toInt_inj.1 he)
    omega

/-- The slot with the given index holds `length` milliseconds of an interval. -/
structure Slot where
  index : Int
  length : Int
  deriving DecidableEq

/-- The part of the interval from `start` to before `finish` in the slot `index`. -/
def slotAt (width start finish index : Int) : Slot :=
  ⟨index, min ((index + 1) * width) finish - max (index * width) start⟩

/-- The `count` slots down from index `last`. -/
def slotsDown (width start finish : Int) : Int → Nat → List Slot
  | _, 0 => []
  | last, count + 1 =>
    slotAt width start finish last :: slotsDown width start finish (last - 1) count

/-- The slots that meet the interval from `start` to before `finish`, newest first. -/
def slotsOf (width start finish : Int) : List Slot :=
  let first := start / width
  let last := (finish - 1) / width
  slotsDown width start finish last (last - first + 1).toNat

/-- The bytes that each slot takes of a counter, when `remaining` milliseconds are left. -/
def spread (bytes : UInt64) (remaining : Int) : List Slot → List (Int × UInt64)
  | [] => []
  | slot :: older =>
    let taken := share bytes slot.length remaining
    (slot.index, taken) :: spread (bytes - taken) (remaining - slot.length) older

/-- The bytes received and sent in one slot. -/
structure Tally where
  rx : UInt64
  tx : UInt64
  deriving DecidableEq

namespace Tally

def zero : Tally := ⟨0, 0⟩

def add (t : Tally) (rx tx : UInt64) : Tally := ⟨satSum t.rx rx, satSum t.tx tx⟩

end Tally

structure Recorder where
  width : Int64
  slots : Std.TreeMap Int Tally

namespace Recorder

/-- A recorder without transfers. The slot length is positive. -/
def create (width : Int64) : Except Refusal Recorder :=
  if width ≤ 0 then .error (.nominalLength width) else .ok ⟨width, ∅⟩

/-- Adds bytes to a slot. The slot exists from then on, even if nothing fell into it. -/
def credit (slots : Std.TreeMap Int Tally) (index : Int) (rx tx : UInt64) :
    Std.TreeMap Int Tally :=
  slots.insert index ((slots.getD index Tally.zero).add rx tx)

/-- Spreads a transfer over the slots it meets. -/
def record (r : Recorder) (t : Transfer) : Except Refusal Recorder :=
  if t.finish < t.start then .error (.reversedTransfer t.start t.finish)
  else
    let slots := slotsOf r.width.toInt t.start.toInt (t.start.toInt + t.length)
    let shares := (spread t.rx t.length slots).zip (spread t.tx t.length slots)
    .ok { r with slots := shares.foldl (fun m s => credit m s.1.1 s.1.2 s.2.2) r.slots }

/-- The bucket of a slot. -/
def bucketOf (width : Int64) (index : Int) (tally : Tally) : Bucket :=
  ⟨Int64.ofInt (index * width.toInt), width, tally.rx, tally.tx⟩

/-- The slots that were met, in order of time. -/
def toHistory (r : Recorder) : History :=
  ⟨r.width, (r.slots.toList.map fun s => bucketOf r.width s.1 s.2).toArray⟩

theorem record_of_reversed (r : Recorder) {t : Transfer} (h : t.finish < t.start) :
    r.record t = .error (.reversedTransfer t.start t.finish) := if_pos h

end Recorder

end TrafficChart
