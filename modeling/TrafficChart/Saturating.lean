/-!
# Saturating machine integers

Instants are 64-bit signed words and byte counts 64-bit unsigned words. Sums that leave
the range stop at its nearest end. Each operation is the exact operation on integers
followed by one clamp, and its value as an integer is the lemma beside it.

## Main definitions

* `clampInt64`, `clampUInt64`: the word nearest to an integer.
* `satAdd`, `satSub`, `satMul`: arithmetic on instants.
* `satSum`: addition of byte counts.
* `share`: a proportional part of a byte count, rounded down.
-/

namespace TrafficChart

/-- The signed word nearest to an integer. -/
def clampInt64 (n : Int) : Int64 :=
  Int64.ofInt (max (-9223372036854775808) (min n 9223372036854775807))

theorem toInt_clampInt64 (n : Int) :
    (clampInt64 n).toInt = max (-9223372036854775808) (min n 9223372036854775807) := by
  unfold clampInt64
  rw [Int64.toInt_ofInt_of_le] <;> omega

theorem clampInt64_toInt (a : Int64) : clampInt64 a.toInt = a := by
  have hl := a.le_toInt
  have hu := a.toInt_lt
  apply Int64.toInt_inj.1
  rw [toInt_clampInt64]
  omega

/-- The unsigned word nearest to a natural number. -/
def clampUInt64 (n : Nat) : UInt64 :=
  UInt64.ofNat (min n 18446744073709551615)

theorem toNat_clampUInt64 (n : Nat) :
    (clampUInt64 n).toNat = min n 18446744073709551615 := by
  unfold clampUInt64
  rw [UInt64.toNat_ofNat_of_lt']
  have : UInt64.size = 18446744073709551616 := rfl
  omega

theorem clampUInt64_toNat (a : UInt64) : clampUInt64 a.toNat = a := by
  have := a.toNat_lt
  apply UInt64.toNat_inj.1
  rw [toNat_clampUInt64]
  omega

theorem clampInt64_mono {m n : Int} (h : m ≤ n) : clampInt64 m ≤ clampInt64 n := by
  rw [Int64.le_iff_toInt_le, toInt_clampInt64, toInt_clampInt64]
  omega

theorem clampUInt64_mono {m n : Nat} (h : m ≤ n) : clampUInt64 m ≤ clampUInt64 n := by
  rw [UInt64.le_iff_toNat_le, toNat_clampUInt64, toNat_clampUInt64]
  omega

def satAdd (a b : Int64) : Int64 := clampInt64 (a.toInt + b.toInt)

def satSub (a b : Int64) : Int64 := clampInt64 (a.toInt - b.toInt)

def satMul (a b : Int64) : Int64 := clampInt64 (a.toInt * b.toInt)

def satSum (a b : UInt64) : UInt64 := clampUInt64 (a.toNat + b.toNat)

theorem toInt_satAdd (a b : Int64) :
    (satAdd a b).toInt =
      max (-9223372036854775808) (min (a.toInt + b.toInt) 9223372036854775807) :=
  toInt_clampInt64 _

theorem toInt_satSub (a b : Int64) :
    (satSub a b).toInt =
      max (-9223372036854775808) (min (a.toInt - b.toInt) 9223372036854775807) :=
  toInt_clampInt64 _

theorem toNat_satSum (a b : UInt64) :
    (satSum a b).toNat = min (a.toNat + b.toNat) 18446744073709551615 :=
  toNat_clampUInt64 _

theorem satAdd_mono {a b c d : Int64} (hac : a ≤ c) (hbd : b ≤ d) : satAdd a b ≤ satAdd c d :=
  clampInt64_mono (Int.add_le_add (Int64.le_iff_toInt_le.1 hac) (Int64.le_iff_toInt_le.1 hbd))

theorem le_satAdd (a : Int64) {b : Int64} (hb : 0 ≤ b) : a ≤ satAdd a b := by
  have ha := a.toInt_lt
  have hb : 0 ≤ b.toInt := Int64.le_iff_toInt_le.1 hb
  rw [Int64.le_iff_toInt_le, toInt_satAdd]
  omega

theorem satAdd_clampInt64 {n : Int} {a : Int64} (hn : 0 ≤ n) (ha : 0 ≤ a.toInt) :
    satAdd (clampInt64 n) a = clampInt64 (n + a.toInt) := by
  apply Int64.toInt_inj.1
  rw [toInt_satAdd, toInt_clampInt64, toInt_clampInt64]
  omega

theorem le_satSum (a b : UInt64) : a ≤ satSum a b := by
  have ha := a.toNat_lt
  rw [UInt64.le_iff_toNat_le, toNat_satSum]
  omega

/-- Adding after a clamp is adding before it. -/
theorem clampUInt64_clampUInt64_add (m n : Nat) :
    clampUInt64 ((clampUInt64 m).toNat + n) = clampUInt64 (m + n) := by
  apply UInt64.toNat_inj.1
  rw [toNat_clampUInt64, toNat_clampUInt64, toNat_clampUInt64]
  omega

theorem satSum_clampUInt64 (n : Nat) (b : UInt64) :
    satSum (clampUInt64 n) b = clampUInt64 (n + b.toNat) :=
  clampUInt64_clampUInt64_add n b.toNat

/-- The part `part / whole` of a byte count, rounded down. Nothing falls on an empty part,
and nothing is shared out over an empty whole. -/
def share (bytes : UInt64) (part whole : Int) : UInt64 :=
  if whole ≤ 0 ∨ part ≤ 0 then 0
  else clampUInt64 (bytes.toNat * part.toNat / whole.toNat)

theorem zero_share (part whole : Int) : share 0 part whole = 0 := by
  unfold share
  split
  · rfl
  · rw [UInt64.toNat_zero, Nat.zero_mul, Nat.zero_div]
    rfl

theorem share_of_pos {part whole : Int} (bytes : UInt64) (hp : 0 < part) (hw : 0 < whole) :
    share bytes part whole = clampUInt64 (bytes.toNat * part.toNat / whole.toNat) := by
  rw [share, if_neg (by omega)]

theorem mul_toNat_div_le {part whole : Int} (n : Nat) (hle : part ≤ whole) :
    n * part.toNat / whole.toNat ≤ n :=
  Nat.div_le_of_le_mul (by rw [Nat.mul_comm]; exact Nat.mul_le_mul_right _ (by omega))

/-- A part of the whole is shared out exactly: it is at most the whole, so it is no clamp. -/
theorem toNat_share_of_le {part whole : Int} (bytes : UInt64) (hp : 0 < part)
    (hle : part ≤ whole) :
    (share bytes part whole).toNat = bytes.toNat * part.toNat / whole.toNat := by
  have hshare := mul_toNat_div_le bytes.toNat hle
  have hbytes := bytes.toNat_lt
  rw [share_of_pos bytes hp (by omega), toNat_clampUInt64]
  omega

/-- The same on integers. -/
theorem toInt_share_of_le {part whole : Int} (bytes : UInt64) (hp : 0 < part)
    (hle : part ≤ whole) :
    ((share bytes part whole).toNat : Int) = bytes.toNat * part / whole := by
  rw [toNat_share_of_le bytes hp hle]
  push_cast
  rw [Int.toNat_of_nonneg (by omega), Int.toNat_of_nonneg (by omega)]

theorem share_le {part whole : Int} (bytes : UInt64) (hp : 0 < part) (hle : part ≤ whole) :
    share bytes part whole ≤ bytes := by
  rw [UInt64.le_iff_toNat_le, toNat_share_of_le bytes hp hle]
  exact mul_toNat_div_le bytes.toNat hle

/-- What is left when a part of the whole has been shared out. -/
theorem toInt_sub_share {part whole : Int} (bytes : UInt64) (hp : 0 < part)
    (hle : part ≤ whole) :
    ((bytes - share bytes part whole).toNat : Int) =
      bytes.toNat - bytes.toNat * part / whole := by
  have hshare := share_le bytes hp hle
  rw [UInt64.toNat_sub_of_le _ _ hshare, Int.ofNat_sub (UInt64.le_iff_toNat_le.1 hshare),
    toInt_share_of_le bytes hp hle]

/-- Who takes the whole takes all. -/
theorem share_self {whole : Int} (bytes : UInt64) (hw : 0 < whole) :
    share bytes whole whole = bytes := by
  apply UInt64.toNat_inj.1
  rw [toNat_share_of_le bytes hw (Int.le_refl whole)]
  exact Nat.mul_div_cancel _ (by omega)

end TrafficChart
