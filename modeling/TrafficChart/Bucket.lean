import TrafficChart.Saturating

/-!
# Buckets

A bucket counts the bytes received and sent during one interval of time.
-/

namespace TrafficChart

structure Bucket where
  start : Int64
  duration : Int64
  rx : UInt64
  tx : UInt64
  deriving DecidableEq, Inhabited

namespace Bucket

/-- The first instant after the bucket. -/
def finish (b : Bucket) : Int64 := satAdd b.start b.duration

/-- Received and sent bytes together. -/
def total (b : Bucket) : UInt64 := satSum b.rx b.tx

theorem toInt_finish (b : Bucket) (h : 0 < b.duration) :
    b.finish.toInt = min (b.start.toInt + b.duration.toInt) 9223372036854775807 := by
  have hs := b.start.le_toInt
  have hd : 0 < b.duration.toInt := Int64.lt_iff_toInt_lt.1 h
  rw [finish, toInt_satAdd]
  omega

theorem start_le_finish {b : Bucket} (h : 0 < b.duration) : b.start ≤ b.finish :=
  le_satAdd b.start (Int64.le_of_lt h)

theorem toNat_total (b : Bucket) :
    b.total.toNat = min (b.rx.toNat + b.tx.toNat) 18446744073709551615 :=
  toNat_satSum _ _

end Bucket

end TrafficChart
