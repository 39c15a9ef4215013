import Mathlib.Algebra.BigOperators.Intervals
import Mathlib.Data.ENat.Lattice
import Mathlib.Tactic
import TrafficChart.History.Window
import TrafficChart.Proofs.Forecast.Exact

/-!
# The shape of a projection

A projection in closed form: how many steps it takes, where each of them leads, what is added,
and whether the limit of steps cuts it short. The time ahead of the origin and the total are
clamped, so each is given by one clamp of an exact value. It overflows if one of these steps does.
-/

namespace TrafficChart

namespace Forecast

section

variable (f : Forecast)

/-- How far ahead of the origin the bucket `k` ends. -/
def aheadAt (k : Nat) : Int64 := clampInt64 (k * f.bucketLength.toInt)

/-- Where a curve that begins at `x` stands after `k` steps. -/
def xAt (x : Float32) (k : Nat) : Float32 :=
  if k = 0 then x else f.axes.horiz (satAdd f.time (f.aheadAt k))

/-- The total after `k` steps. -/
def totalAt (total : UInt64) (k : Nat) : UInt64 :=
  clampUInt64 (total.toNat + ∑ j ∈ Finset.Icc 1 k, (f.gain (f.aheadAt j)).toNat)

/-- The projection after `k` steps. -/
def after (origin : Origin) (k : Nat) : Projection where
  outline := ⟨(.move origin.point :: (List.range' 1 k).map fun j =>
    .line ⟨f.xAt origin.point.x j, f.axes.vert (axisValue (f.totalAt origin.total j))⟩).toArray⟩
  total := f.totalAt origin.total k
  steps := k
  cutShort := false

/-- The least number of steps after which a curve that begins at `x` is not left of the right
edge, infinite if there is none. -/
noncomputable def exitStep (x : Float32) : ℕ∞ :=
  ⨅ k ∈ {k : ℕ | ¬ f.xAt x k < f.width}, (k : ℕ∞)

end

variable {f : Forecast}

/-! ## One step -/

theorem satAdd_aheadAt (hd : 0 < f.bucketLength.toInt) (k : Nat) :
    satAdd (f.aheadAt k) f.bucketLength = f.aheadAt (k + 1) := by
  have hk : 0 ≤ (k : Int) * f.bucketLength.toInt := Int.mul_nonneg (Int.natCast_nonneg k) hd.le
  rw [aheadAt, aheadAt, satAdd_clampInt64 hk hd.le]
  push_cast
  rw [add_one_mul]

theorem aheadAt_mono (hd : 0 < f.bucketLength.toInt) {i j : Nat} (h : i ≤ j) :
    f.aheadAt i ≤ f.aheadAt j :=
  clampInt64_mono (Int.mul_le_mul_of_nonneg_right (Int.ofNat_le.2 h) hd.le)

theorem aheadAt_zero (f : Forecast) : f.aheadAt 0 = 0 := by
  rw [aheadAt, Nat.cast_zero, Int.zero_mul]
  rfl

theorem aheadAt_one (f : Forecast) : f.aheadAt 1 = f.bucketLength := by
  rw [aheadAt, Nat.cast_one, Int.one_mul, clampInt64_toInt]

theorem totalAt_mono (f : Forecast) (total : UInt64) {i j : Nat} (h : i ≤ j) :
    f.totalAt total i ≤ f.totalAt total j :=
  clampUInt64_mono (Nat.add_le_add_left
    (Finset.sum_le_sum_of_subset (Finset.Icc_subset_Icc_right h)) total.toNat)

theorem totalAt_succ (f : Forecast) (total : UInt64) (k : Nat) :
    f.totalAt total (k + 1) = satSum (f.totalAt total k) (f.gain (f.aheadAt (k + 1))) := by
  rw [totalAt, totalAt, Finset.sum_Icc_succ_top (Nat.le_add_left 1 k), satSum_clampUInt64,
    Nat.add_assoc]

theorem le_totalAt (f : Forecast) (total : UInt64) (k : Nat) : total ≤ f.totalAt total k := by
  have := total.toNat_lt
  rw [UInt64.le_iff_toNat_le, totalAt, toNat_clampUInt64]
  omega

theorem totalAt_congr {gain : Nat → UInt64} {k : Nat}
    (h : ∀ j, 1 ≤ j → j ≤ k → f.gain (f.aheadAt j) = gain j) (total : UInt64) :
    f.totalAt total k = clampUInt64 (total.toNat + ∑ j ∈ Finset.Icc 1 k, (gain j).toNat) := by
  have hsum : ∑ j ∈ Finset.Icc 1 k, (f.gain (f.aheadAt j)).toNat =
      ∑ j ∈ Finset.Icc 1 k, (gain j).toNat :=
    Finset.sum_congr rfl fun j hj => by rw [h j (Finset.mem_Icc.1 hj).1 (Finset.mem_Icc.1 hj).2]
  rw [totalAt, hsum]

/-- Equal steps add up. -/
theorem totalAt_of_gain_eq {rate : UInt64} {k : Nat}
    (h : ∀ j, 1 ≤ j → j ≤ k → f.gain (f.aheadAt j) = rate) (total : UInt64) :
    f.totalAt total k = clampUInt64 (total.toNat + k * rate.toNat) := by
  rw [totalAt_congr h, Finset.sum_const, Nat.card_Icc, Nat.add_sub_cancel, smul_eq_mul]

theorem after_zero (f : Forecast) (origin : Origin) :
    f.after origin 0 = Projection.start origin := by
  have htotal : f.totalAt origin.total 0 = origin.total := by
    simp [totalAt, clampUInt64_toNat]
  rw [after, htotal]
  rfl

theorem toList_outline_after (f : Forecast) (origin : Origin) (k : Nat) :
    (f.after origin k).outline.toList = .move origin.point ::
      (List.range' 1 k).map fun j =>
        .line ⟨f.xAt origin.point.x j, f.axes.vert (axisValue (f.totalAt origin.total j))⟩ :=
  rfl

theorem extend_after (f : Forecast) (origin : Origin) (k : Nat) :
    f.extend (f.aheadAt (k + 1)) (f.after origin k) = f.after origin (k + 1) := by
  have htotal : satSum (f.after origin k).total (f.gain (f.aheadAt (k + 1))) =
      f.totalAt origin.total (k + 1) := (f.totalAt_succ origin.total k).symm
  have houtline : (f.after origin k).outline.lineTo
      (f.pointAt (f.aheadAt (k + 1)) (f.totalAt origin.total (k + 1))) =
        (f.after origin (k + 1)).outline := by
    apply Outline.ext_toList
    rw [Outline.toList_lineTo_of_ne (by simp [toList_outline_after]), toList_outline_after,
      toList_outline_after, List.range'_1_concat, Nat.add_comm 1 k]
    simp [pointAt, xAt]
  rw [extend, grow, htotal, houtline]
  rfl

/-! ## All steps -/

/-- From any number of steps on, a projection goes on until it leaves the screen or the steps
that remain are used up. It is cut short if it has not left the screen then, and it overflows if
one of these steps does. -/
theorem plot_after (hd : 0 < f.bucketLength.toInt) (origin : Origin) (remaining k : Nat) :
    ∃ m, k ≤ m ∧ m ≤ k + remaining ∧ (∀ i, k ≤ i → i < m → f.xAt origin.point.x i < f.width) ∧
      (m < k + remaining → ¬ f.xAt origin.point.x m < f.width) ∧
      (f.RunFits remaining (f.xAt origin.point.x k) (f.aheadAt k) ↔
        ∀ i, k < i → i ≤ m → f.Fits (f.aheadAt i)) ∧
      f.plot remaining (f.xAt origin.point.x k) (f.aheadAt k) (f.after origin k) =
        { f.after origin m with cutShort := decide (f.xAt origin.point.x m < f.width) } := by
  induction remaining generalizing k with
  | zero =>
    refine ⟨k, le_rfl, le_rfl, fun i hi hik => by omega, fun h => by omega, ?_, ?_⟩
    · exact iff_of_true (f.runFits_zero _ _) fun i hki hik => by omega
    · rw [plot]
      split <;> simp_all [after]
  | succ remaining ih =>
    by_cases hx : f.xAt origin.point.x k < f.width
    · obtain ⟨m, hkm, hm, hbefore, hlast, hfits, hplot⟩ := ih (k + 1)
      refine ⟨m, by omega, by omega, fun i hi him => ?_, fun h => hlast (by omega), ?_, ?_⟩
      · rcases Nat.eq_or_lt_of_le hi with rfl | hlt
        · exact hx
        · exact hbefore i hlt him
      · rw [f.runFits_succ_iff remaining _ hx, satAdd_aheadAt hd]
        constructor
        · rintro ⟨hfirst, hrest⟩ i hki him
          rcases Nat.eq_or_lt_of_le hki with rfl | hlt
          · exact hfirst
          · exact hfits.1 (by simpa [xAt] using hrest) i hlt him
        · intro hall
          refine ⟨hall _ k.lt_succ_self hkm, ?_⟩
          simpa [xAt] using hfits.2 fun i hki him => hall i (Nat.lt_of_succ_lt hki) him
      · rw [plot_succ_of_lt f remaining _ _ hx, satAdd_aheadAt hd, extend_after]
        simpa [xAt] using hplot
    · refine ⟨k, le_rfl, by omega, fun i hi hik => by omega, fun _ => hx, ?_, ?_⟩
      · exact iff_of_true (runFits_of_not_lt _ _ hx) fun i hki hik => by omega
      · rw [plot_of_not_lt f _ _ _ hx]
        simp [after, hx]

/-- The same from the start. -/
theorem plot_start_after (hd : 0 < f.bucketLength.toInt) (origin : Origin) (limit : Nat) :
    ∃ m, m ≤ limit ∧ (∀ i < m, f.xAt origin.point.x i < f.width) ∧
      (m < limit → ¬ f.xAt origin.point.x m < f.width) ∧
      (f.RunFits limit origin.point.x 0 ↔ ∀ i, 0 < i → i ≤ m → f.Fits (f.aheadAt i)) ∧
      f.plot limit origin.point.x 0 (Projection.start origin) =
        { f.after origin m with cutShort := decide (f.xAt origin.point.x m < f.width) } := by
  obtain ⟨m, -, hm, hbefore, hlast, hfits, hplot⟩ := plot_after hd origin limit 0
  rw [aheadAt_zero, xAt, if_pos rfl] at hfits hplot
  rw [after_zero] at hplot
  rw [Nat.zero_add] at hm hlast
  exact ⟨m, hm, fun i => hbefore i (Nat.zero_le i), hlast, hfits, hplot⟩

/-- A run with a lower limit ends where the run is after as many steps. -/
theorem plot_start_of_le (hd : 0 < f.bucketLength.toInt) (origin : Origin) {limit k : Nat}
    (hk : k ≤ (f.plot limit origin.point.x 0 (Projection.start origin)).steps) :
    f.plot k origin.point.x 0 (Projection.start origin) =
      { f.after origin k with cutShort := decide (f.xAt origin.point.x k < f.width) } := by
  obtain ⟨n, -, hbefore, -, -, hlong⟩ := plot_start_after hd origin limit
  obtain ⟨m, hm, -, hlast, -, hshort⟩ := plot_start_after hd origin k
  have hkn : k ≤ n := by
    rw [hlong] at hk
    exact hk
  obtain rfl : m = k := by
    by_contra hne
    exact hlast (by omega) (hbefore m (by omega))
  exact hshort

theorem toList_outline_after_take (f : Forecast) (origin : Origin) {k m : Nat} (hkm : k ≤ m) :
    (f.after origin m).outline.toList.take (k + 1) = (f.after origin k).outline.toList := by
  rw [toList_outline_after, toList_outline_after, List.take_succ_cons, ← List.map_take,
    List.take_range'_of_length_ge hkm]

/-! ## The step at which the curve leaves the screen -/

theorem exitStep_eq {x : Float32} {m : Nat} (hbefore : ∀ i < m, f.xAt x i < f.width)
    (hx : ¬ f.xAt x m < f.width) : f.exitStep x = m := by
  refine le_antisymm (iInf₂_le m hx) (le_iInf₂ fun k hk => Nat.cast_le.2 ?_)
  by_contra hlt
  exact hk (hbefore k (not_le.1 hlt))

theorem lt_exitStep {x : Float32} {m : Nat} (hbefore : ∀ i ≤ m, f.xAt x i < f.width) :
    (m : ℕ∞) < f.exitStep x := by
  have hnext : ((m + 1 : ℕ) : ℕ∞) ≤ f.exitStep x := by
    refine le_iInf₂ fun k hk => Nat.cast_le.2 ?_
    by_contra hlt
    exact hk (hbefore k (Nat.le_of_lt_succ (not_le.1 hlt)))
  exact (Nat.cast_lt.2 m.lt_succ_self).trans_le hnext

/-- A projection takes as many steps as it needs to leave the screen, or else as many as it may,
and it is cut short in the second case. -/
theorem plot_start (hd : 0 < f.bucketLength.toInt) (origin : Origin) (limit : Nat) :
    ∃ m : ℕ, (m : ℕ∞) = min (f.exitStep origin.point.x) limit ∧
      (f.xAt origin.point.x m < f.width ↔ (limit : ℕ∞) < f.exitStep origin.point.x) ∧
      (f.RunFits limit origin.point.x 0 ↔ ∀ i, 0 < i → i ≤ m → f.Fits (f.aheadAt i)) ∧
      f.plot limit origin.point.x 0 (Projection.start origin) =
        { f.after origin m with cutShort := decide (f.xAt origin.point.x m < f.width) } := by
  obtain ⟨m, hm, hbefore, hlast, hfits, hplot⟩ := plot_start_after hd origin limit
  by_cases hx : f.xAt origin.point.x m < f.width
  · have hlimit : m = limit := by
      by_contra hne
      exact hlast (by omega) hx
    have hexit : (limit : ℕ∞) < f.exitStep origin.point.x := by
      refine lt_exitStep fun i hi => ?_
      rcases Nat.eq_or_lt_of_le hi with rfl | hlt
      · exact hlimit ▸ hx
      · exact hbefore i (hlimit ▸ hlt)
    exact ⟨m, by rw [min_eq_right hexit.le, hlimit], iff_of_true hx hexit, hfits, hplot⟩
  · have hexit : f.exitStep origin.point.x = m :=
      exitStep_eq hbefore hx
    refine ⟨m, by rw [hexit, min_eq_left (Nat.cast_le.2 hm)], iff_of_false hx ?_, hfits, hplot⟩
    rw [hexit, Nat.cast_lt]
    omega

end Forecast

namespace Projection

variable {σ : Type} [UsageSource σ]

/-- The projection of a source with a positive bucket length, under valid settings and on a valid
viewport. Time and place after `k` steps, the trend, the seasonal rate of each step and the
total are as given; the steps end where the curve leaves the screen or at their limit. The
projection overflows if the mean of one of these steps does. -/
theorem steps_ofSource (source : σ) (axes : Axes) {viewport : Viewport} (origin : Origin)
    (now : Int64) {settings : ForecastSettings} (hd : 0 < UsageSource.bucketLength source)
    (hs : settings.Valid) (hv : viewport.Valid) :
    let d := UsageSource.bucketLength source
    let ahead (k : ℕ) : Int64 := clampInt64 (k * d.toInt)
    let x (k : ℕ) : Float32 :=
      if k = 0 then origin.point.x else axes.horiz (satAdd origin.time (ahead k))
    let trend : UInt64 :=
      ratePerBucket source (satSub origin.time settings.trendWindow) origin.time now d
    let anchor (k : ℕ) : Int64 :=
      satAdd (satSub origin.time settings.season)
        (Int64.ofInt ((ahead k).toInt % settings.season.toInt))
    let seasonal (k : ℕ) : UInt64 :=
      ratePerBucket source (satSub (anchor k) settings.seasonalWindow) (anchor k) now d
    let exit : ℕ∞ := ⨅ k ∈ {k : ℕ | ¬ x k < viewport.width}, (k : ℕ∞)
    let last : ℕ∞ := min exit settings.stepLimit
    (∀ gain : ℕ → UInt64,
      (∀ k : ℕ, 0 < k → k ≤ last → settings.mean trend (seasonal k) = .ok (gain k)) →
      let total (k : ℕ) : UInt64 :=
        clampUInt64 (origin.total.toNat + ∑ j ∈ Finset.Icc 1 k, (gain j).toNat)
      ∃ p, ofSource source axes viewport origin now settings = .ok p ∧
        p.steps = last ∧
        (p.cutShort = true ↔ settings.stepLimit < exit) ∧
        p.total = total p.steps ∧
        p.outline.toList = .move origin.point ::
          (List.range' 1 p.steps).map (fun k => .line ⟨x k, axes.vert (axisValue (total k))⟩) ∧
        p.steps ≤ settings.stepLimit ∧ origin.total ≤ p.total) ∧
    ∀ (k : ℕ) (e : Overflow), 0 < k → k ≤ last → settings.mean trend (seasonal k) = .error e →
      ofSource source axes viewport origin now settings = .error (.overflow e) := by
  intro d ahead x trend anchor seasonal exit last
  let f := Forecast.ofSource source axes viewport.width origin.time now settings
  have hf : 0 < f.bucketLength.toInt := Int64.lt_iff_toInt_lt.1 hd
  obtain ⟨m, hm, hcut, hfits, hplot⟩ := Forecast.plot_start hf origin settings.stepLimit
  have hlast (k : ℕ) : k ≤ last ↔ k ≤ m := by
    rw [← Nat.cast_le (α := ℕ∞), hm]
    rfl
  constructor
  · intro gain hgain total
    have hadded (k : ℕ) (hk : 0 < k) (hkm : k ≤ m) :
        f.Fits (f.aheadAt k) ∧ gain k = f.gain (f.aheadAt k) :=
      Forecast.increment_eq_ok_iff.1 (hgain k hk ((hlast k).2 hkm))
    have htotal (k : ℕ) (hkm : k ≤ m) : f.totalAt origin.total k = total k :=
      Forecast.totalAt_congr (fun j hj hjk => (hadded j hj (hjk.trans hkm)).2.symm) origin.total
    have hall : f.RunFits settings.stepLimit origin.point.x 0 :=
      hfits.2 fun k hk hkm => (hadded k hk hkm).1
    refine ⟨_, ofSource_of_fits hd hv hs hall, ?_⟩
    rw [plot, hplot]
    refine ⟨hm, decide_eq_true_iff.trans hcut, htotal m le_rfl, ?_,
      Nat.cast_le.1 (hm.trans_le (min_le_right _ _)), f.le_totalAt origin.total m⟩
    refine (f.toList_outline_after origin m).trans (congrArg _ (List.map_congr_left ?_))
    intro k hk
    have hkm : k ≤ m := by
      have := List.mem_range'_1.1 hk
      omega
    rw [htotal k hkm]
    rfl
  · intro k e hk hkl hover
    have hover : f.increment (f.aheadAt k) = .error e := hover
    obtain ⟨hnot, rfl⟩ := Forecast.increment_eq_error_iff.1 hover
    exact ofSource_of_not_fits hd hv hs fun hall => hnot (hfits.1 hall k hk ((hlast k).1 hkl))

/-- A history at the end of which a projection takes up the rates of its last buckets and leaves
the screen with the third step. -/
theorem steps_of_slow_history :
    let h : History := ⟨10, #[⟨0, 10, 1, 0⟩, ⟨10, 10, 2, 0⟩, ⟨20, 10, 3, 1⟩, ⟨30, 10, 4, 0⟩,
      ⟨40, 10, 5, 0⟩]⟩
    let settings : ForecastSettings := ⟨20, 10, 20, 1, 1, 5⟩
    let axes : Axes := ⟨fun t => if t ≤ 70 then 5 else 20, fun _ => 0⟩
    0 < UsageSource.bucketLength h ∧ settings.Valid ∧ Viewport.Valid ⟨10, 10⟩ ∧
      ∃ p, ofSource h axes ⟨10, 10⟩ ⟨⟨0, 0⟩, 50, 7⟩ 50 settings = .ok p ∧
        p.steps = 3 ∧ p.cutShort = false ∧ p.total = 19 := by
  intro h settings axes
  have hd : 0 < UsageSource.bucketLength h := by decide
  have hs : settings.Valid := by decide
  have hv : Viewport.Valid ⟨10, 10⟩ := by decide
  let f := Forecast.ofSource h axes 10 50 50 settings
  have hweight : settings.weight ≤ 2 ^ 64 + 1 := by decide
  obtain ⟨p, hp, hsteps, hcut, htotal, -⟩ :=
    (steps_ofSource h axes ⟨⟨0, 0⟩, 50, 7⟩ 50 hd hs hv).1 _ fun _ _ _ =>
      ForecastSettings.mean_of_fits (ForecastSettings.fits_of_weight_le hweight _ _)
  have hexit : f.exitStep 0 = (3 : ℕ) := Forecast.exitStep_eq (by decide) (by decide)
  have hthree : (p.steps : ℕ∞) = (3 : ℕ) :=
    calc (p.steps : ℕ∞) = min ((3 : ℕ) : ℕ∞) (5 : ℕ) :=
          hsteps.trans (congrArg (fun n => min n _) hexit)
      _ = (3 : ℕ) := min_eq_left (Nat.cast_le.2 (by decide))
  refine ⟨hd, hs, hv, p, hp, Nat.cast_injective hthree, ?_, ?_⟩
  · exact Bool.eq_false_iff.2 (mt hcut.1 (not_lt.2 (hexit.trans_le (Nat.cast_le.2 (by decide)))))
  · rw [htotal, Nat.cast_injective hthree]
    cbv

/-- With the greatest weights and rates there are, already the first step overflows. -/
theorem overflow_of_greatest_weights :
    let most : UInt64 := 18446744073709551615
    let h : History := ⟨10, #[⟨0, 10, most, 0⟩, ⟨10, 10, most, 0⟩]⟩
    let settings : ForecastSettings := ⟨10, 10, 10, most, most, 5⟩
    let axes : Axes := ⟨fun t => if t < 30 then 0 else 60, fun _ => 90⟩
    0 < UsageSource.bucketLength h ∧ settings.Valid ∧ Viewport.Valid ⟨50, 100⟩ ∧
      ofSource h axes ⟨50, 100⟩ ⟨⟨0, 90⟩, 20, 0⟩ 20 settings = .error (.overflow .addition) := by
  intro most h settings axes
  have hd : 0 < UsageSource.bucketLength h := by decide
  have hs : settings.Valid := by decide
  have hv : Viewport.Valid ⟨50, 100⟩ := by decide
  exact ⟨hd, hs, hv, ofSource_of_not_fits hd hv hs (by decide +kernel)⟩

end Projection

end TrafficChart
