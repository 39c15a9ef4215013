import Mathlib.Data.List.Chain
import Mathlib.Data.Prod.Lex
import Mathlib.Tactic
import TrafficChart.Geometry.Outline
import TrafficChart.Geometry.Scale

/-!
# Order on the screen

Pixels are numbers of single precision. All of them but NaN have a place in a linear order, so
comparing pixels is comparing places, and the laws of the order follow. With them come the two
directions of an axis and the two directions of an outline.
-/

namespace TrafficChart

namespace Pixel

open Float.Model

/-! ## The places of numbers -/

/-- The place of a number: its class from one infinity to the other, then exponent and mantissa,
mirrored below zero. A NaN has no place. -/
def place : UnpackedFloat → Option (ℤ ×ₗ ℤ ×ₗ ℤ)
  | .notANumber => none
  | .infinity .negative => some (toLex (-2, toLex (0, 0)))
  | .finite .negative m e _ => some (toLex (-1, toLex (-e, -m)))
  | .zero _ => some (toLex (0, toLex (0, 0)))
  | .finite .positive m e _ => some (toLex (1, toLex (e, m)))
  | .infinity .positive => some (toLex (2, toLex (0, 0)))

theorem compare_neg (i j : ℤ) : compare (-i) (-j) = (compare i j).swap := by
  rw [Int.compare_swap, Int.compare_eq_ite_lt, Int.compare_eq_ite_lt]
  simp only [Int.neg_lt_neg_iff]

theorem compare_natCast (m n : ℕ) : compare (m : ℤ) n = compare m n := by
  rw [Int.compare_eq_ite_lt, Nat.compare_eq_ite_lt]
  simp only [Int.ofNat_lt]

/-- Within a class, exponents decide before mantissas. -/
theorem compare_toLex (kind e m f n : ℤ) :
    compare (toLex (kind, toLex (e, m))) (toLex (kind, toLex (f, n))) =
      (compare e f).then (compare m n) := by
  simp [Prod.Lex.compare_def, compareLex, compareOn]

theorem compare_eq_place (a b : UnpackedFloat) :
    a.compare b = (place a).bind fun i => (place b).map fun j => compare i j := by
  rcases a with (_ | _) | _ | _ | ⟨_ | _, m, e, _⟩ <;>
    rcases b with (_ | _) | _ | _ | ⟨_ | _, n, f, _⟩ <;> try rfl
  -- What is left are two finite numbers of the same sign.
  · refine congrArg some (Eq.trans ?_ (compare_toLex (-1) (-e) (-m) (-f) (-n)).symm)
    rw [compare_neg, compare_neg, compare_natCast, Ordering.swap_then]
  · refine congrArg some (Eq.trans ?_ (compare_toLex 1 e m f n).symm)
    rw [compare_natCast]

theorem lt_iff_place {x y : Float32} :
    x < y ↔ ∃ i ∈ place x.toModel.unpack, ∃ j ∈ place y.toModel.unpack, i < j := by
  have hlt : x < y ↔ x.toModel.unpack.lt y.toModel.unpack = true := decide_eq_true_iff
  rw [hlt, UnpackedFloat.lt, compare_eq_place]
  cases place x.toModel.unpack <;> cases place y.toModel.unpack <;> simp [compare_lt_iff_lt]

theorem le_iff_place {x y : Float32} :
    x ≤ y ↔ ∃ i ∈ place x.toModel.unpack, ∃ j ∈ place y.toModel.unpack, i ≤ j := by
  have hle : x ≤ y ↔ x.toModel.unpack.le y.toModel.unpack = true := decide_eq_true_iff
  rw [hle, UnpackedFloat.le, compare_eq_place]
  cases place x.toModel.unpack <;> cases place y.toModel.unpack <;>
    simp [Ordering.isLE_iff_ne_gt, compare_gt_iff_gt]

/-! ## The laws of the order -/

theorem lt_irrefl (x : Float32) : ¬ x < x := by
  rw [lt_iff_place]
  rintro ⟨i, hi, j, hj, hlt⟩
  exact hlt.ne (Option.mem_unique hi hj)

theorem le_of_lt {x y : Float32} (h : x < y) : x ≤ y := by
  obtain ⟨i, hi, j, hj, hlt⟩ := lt_iff_place.1 h
  exact le_iff_place.2 ⟨i, hi, j, hj, hlt.le⟩

theorem le_trans {x y z : Float32} (hxy : x ≤ y) (hyz : y ≤ z) : x ≤ z := by
  obtain ⟨i, hi, j, hj, hij⟩ := le_iff_place.1 hxy
  obtain ⟨j', hj', k, hk, hjk⟩ := le_iff_place.1 hyz
  obtain rfl := Option.mem_unique hj hj'
  exact le_iff_place.2 ⟨i, hi, k, hk, hij.trans hjk⟩

theorem lt_of_lt_of_le {x y z : Float32} (hxy : x < y) (hyz : y ≤ z) : x < z := by
  obtain ⟨i, hi, j, hj, hij⟩ := lt_iff_place.1 hxy
  obtain ⟨j', hj', k, hk, hjk⟩ := le_iff_place.1 hyz
  obtain rfl := Option.mem_unique hj hj'
  exact lt_iff_place.2 ⟨i, hi, k, hk, hij.trans_le hjk⟩

theorem lt_of_le_of_lt {x y z : Float32} (hxy : x ≤ y) (hyz : y < z) : x < z := by
  obtain ⟨i, hi, j, hj, hij⟩ := le_iff_place.1 hxy
  obtain ⟨j', hj', k, hk, hjk⟩ := lt_iff_place.1 hyz
  obtain rfl := Option.mem_unique hj hj'
  exact lt_iff_place.2 ⟨i, hi, k, hk, hij.trans_lt hjk⟩

theorem le_refl_of_le {x y : Float32} (h : x ≤ y) : y ≤ y := by
  obtain ⟨-, -, j, hj, -⟩ := le_iff_place.1 h
  exact le_iff_place.2 ⟨j, hj, j, hj, le_rfl⟩

/-- Numbers that are not NaN can be compared. -/
theorem le_of_not_lt {x y : Float32} (hx : x ≤ x) (hy : y ≤ y) (h : ¬ y < x) : x ≤ y := by
  obtain ⟨i, hi, -, -, -⟩ := le_iff_place.1 hx
  obtain ⟨j, hj, -, -, -⟩ := le_iff_place.1 hy
  exact le_iff_place.2 ⟨i, hi, j, hj, not_lt.1 fun hlt => h (lt_iff_place.2 ⟨j, hj, i, hi, hlt⟩)⟩

end Pixel

/-! ## Axes -/

namespace Axis

/-- A later instant never lies further left. -/
def Rising (a : Axis) : Prop := ∀ s t : Int64, s ≤ t → a s ≤ a t

/-- A larger byte total never lies further down. -/
def Inverted (a : Axis) : Prop :=
  ∀ m n : UInt64, m < n → ¬ a (axisValue m) < a (axisValue n)

theorem axisValue_mono {m n : UInt64} (hmn : m ≤ n) : axisValue m ≤ axisValue n :=
  clampInt64_mono (Int.ofNat_le.2 (UInt64.le_iff_toNat_le.1 hmn))

theorem Inverted.not_lt {a : Axis} (ha : a.Inverted) {m n : UInt64} (hmn : m ≤ n) :
    ¬ a (axisValue m) < a (axisValue n) := by
  rcases UInt64.lt_or_eq_of_le hmn with hlt | rfl
  · exact ha m n hlt
  · exact Pixel.lt_irrefl _

end Axis

/-! ## Outlines -/

namespace Outline

/-- No point lies left of the one before it. -/
def RunsRight (o : Outline) : Prop := o.points.IsChain fun p q => p.x ≤ q.x

/-- No point lies below the one before it. -/
def Climbs (o : Outline) : Prop := o.points.IsChain fun p q => ¬ p.y < q.y

end Outline

/-- Neighbours among the values at consecutive numbers. -/
theorem isChain_map_range' {α : Type} {R : α → α → Prop} {f : ℕ → α} {first count : ℕ} :
    ((List.range' first count).map f).IsChain R ↔
      ∀ i, first ≤ i → i + 1 < first + count → R (f i) (f (i + 1)) := by
  rw [List.isChain_iff_getElem]
  simp only [List.length_map, List.length_range', List.getElem_map, List.getElem_range', one_mul]
  constructor
  · intro h i hi hlt
    simpa [← Nat.add_assoc, Nat.add_sub_cancel' hi] using h (i - first) (by omega)
  · intro h i hlt
    exact h (first + i) (by omega) (by omega)

/-- The same when another value stands before them. -/
theorem isChain_cons_map_range' {α : Type} {R : α → α → Prop} {a : α} {f : ℕ → α} {count : ℕ} :
    (a :: (List.range' 1 count).map f).IsChain R ↔
      (count ≠ 0 → R a (f 1)) ∧ ∀ i, 1 ≤ i → i < count → R (f i) (f (i + 1)) := by
  rw [List.isChain_cons, isChain_map_range']
  cases count with
  | zero => simp
  | succ count => simp [List.range'_succ, Nat.add_comm 1]

end TrafficChart
