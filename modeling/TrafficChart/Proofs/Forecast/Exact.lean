import TrafficChart.Forecast.Projection
import TrafficChart.Proofs.Forecast.Mean

/-!
# Forecasts without overflow

Each step of a run adds a mean, and each mean may overflow. A run succeeds exactly if the means of
all buckets that it comes to fit, and then it is the run with exact means, which cannot fail. What
is proved about the exact run therefore holds of every run that succeeds.
-/

namespace TrafficChart

namespace Forecast

section

variable (f : Forecast)

/-- The mean for the bucket that ends `ahead` of the origin does not overflow. -/
def Fits (ahead : Int64) : Prop := f.settings.Fits f.trend (f.seasonal (f.anchor ahead))

instance (ahead : Int64) : Decidable (f.Fits ahead) :=
  inferInstanceAs (Decidable (f.settings.Fits ..))

/-- What the bucket that ends `ahead` of the origin adds if it fits. -/
def gain (ahead : Int64) : UInt64 :=
  f.settings.exactMean f.trend (f.seasonal (f.anchor ahead))

/-- Adds the bucket that ends `ahead` of the origin, if it fits. -/
def extend (ahead : Int64) (p : Projection) : Projection := f.grow ahead (f.gain ahead) p

/-- How far ahead of the origin the buckets end that a run comes to. The first one that does not fit
is the last one. -/
def offsets : Nat → Float32 → Int64 → List Int64
  | 0, _, _ => []
  | remaining + 1, x, ahead =>
    if x < f.width then
      let ahead := satAdd ahead f.bucketLength
      let later := offsets remaining (f.axes.horiz (satAdd f.time ahead)) ahead
      ahead :: if f.Fits ahead then later else []
    else []

/-- All buckets that a run comes to fit. -/
def RunFits (remaining : Nat) (x : Float32) (ahead : Int64) : Prop :=
  ∀ next ∈ f.offsets remaining x ahead, f.Fits next

instance (remaining : Nat) (x : Float32) (ahead : Int64) :
    Decidable (f.RunFits remaining x ahead) :=
  List.decidableBAll _ _

/-- The run with exact means. -/
def plot : Nat → Float32 → Int64 → Projection → Projection
  | 0, x, _, p => if x < f.width then { p with cutShort := true } else p
  | remaining + 1, x, ahead, p =>
    if x < f.width then
      let ahead := satAdd ahead f.bucketLength
      plot remaining (f.axes.horiz (satAdd f.time ahead)) ahead (f.extend ahead p)
    else p

end

variable {f : Forecast} {ahead : Int64} {x : Float32} {p : Projection}

theorem increment_eq (f : Forecast) (ahead : Int64) :
    f.increment ahead = if f.Fits ahead then .ok (f.gain ahead) else .error .addition :=
  f.settings.mean_eq f.trend (f.seasonal (f.anchor ahead))

theorem increment_eq_ok_iff {m : UInt64} :
    f.increment ahead = .ok m ↔ f.Fits ahead ∧ m = f.gain ahead := ForecastSettings.mean_eq_ok_iff

theorem increment_eq_error_iff {e : Overflow} :
    f.increment ahead = .error e ↔ ¬ f.Fits ahead ∧ e = .addition := by
  rw [increment_eq]
  by_cases hfits : f.Fits ahead <;> simp [hfits, eq_comm]

theorem advance_of_fits (h : f.Fits ahead) (p : Projection) :
    f.advance ahead p = .ok (f.extend ahead p) := by
  rw [advance, increment_eq, if_pos h]
  rfl

theorem advance_of_not_fits (h : ¬ f.Fits ahead) (p : Projection) :
    f.advance ahead p = .error .addition := by
  rw [advance, increment_eq, if_neg h]
  rfl

/-! ## Runs -/

theorem offsets_of_not_lt (f : Forecast) (remaining : Nat) (ahead : Int64) (h : ¬ x < f.width) :
    f.offsets remaining x ahead = [] := by
  cases remaining with
  | zero => rfl
  | succ remaining => exact if_neg h

theorem offsets_succ_of_lt (f : Forecast) (remaining : Nat) (ahead : Int64) (h : x < f.width) :
    f.offsets (remaining + 1) x ahead = satAdd ahead f.bucketLength ::
      if f.Fits (satAdd ahead f.bucketLength) then
        f.offsets remaining (f.axes.horiz (satAdd f.time (satAdd ahead f.bucketLength)))
          (satAdd ahead f.bucketLength)
      else [] :=
  if_pos h

theorem runFits_zero (f : Forecast) (x : Float32) (ahead : Int64) : f.RunFits 0 x ahead := nofun

theorem runFits_of_not_lt (remaining : Nat) (ahead : Int64) (h : ¬ x < f.width) :
    f.RunFits remaining x ahead := by
  rw [RunFits, f.offsets_of_not_lt remaining ahead h]
  nofun

theorem runFits_succ_iff (f : Forecast) (remaining : Nat) (ahead : Int64) (h : x < f.width) :
    f.RunFits (remaining + 1) x ahead ↔
      f.Fits (satAdd ahead f.bucketLength) ∧
        f.RunFits remaining (f.axes.horiz (satAdd f.time (satAdd ahead f.bucketLength)))
          (satAdd ahead f.bucketLength) := by
  rw [RunFits, f.offsets_succ_of_lt remaining ahead h, List.forall_mem_cons]
  by_cases hfits : f.Fits (satAdd ahead f.bucketLength)
  · rw [if_pos hfits]
    exact Iff.rfl
  · simp only [hfits, false_and]

/-- Light weights never overflow. -/
theorem runFits_of_weight_le (h : f.settings.weight ≤ 2 ^ 64 + 1) (remaining : Nat) (x : Float32)
    (ahead : Int64) : f.RunFits remaining x ahead :=
  fun _ _ => ForecastSettings.fits_of_weight_le h _ _

theorem plot_of_not_lt (f : Forecast) (remaining : Nat) (ahead : Int64) (p : Projection)
    (h : ¬ x < f.width) : f.plot remaining x ahead p = p := by
  cases remaining with
  | zero => exact if_neg h
  | succ remaining => exact if_neg h

theorem plot_succ_of_lt (f : Forecast) (remaining : Nat) (ahead : Int64) (p : Projection)
    (h : x < f.width) :
    f.plot (remaining + 1) x ahead p =
      f.plot remaining (f.axes.horiz (satAdd f.time (satAdd ahead f.bucketLength)))
        (satAdd ahead f.bucketLength) (f.extend (satAdd ahead f.bucketLength) p) :=
  if_pos h

/-- A run succeeds exactly if all buckets fit that it comes to, and then it is the exact run. -/
theorem run_eq (f : Forecast) (remaining : Nat) (x : Float32) (ahead : Int64) (p : Projection) :
    f.run remaining x ahead p =
      if f.RunFits remaining x ahead then .ok (f.plot remaining x ahead p)
      else .error .addition := by
  induction remaining generalizing x ahead p with
  | zero => exact (if_pos (f.runFits_zero x ahead)).symm
  | succ remaining ih =>
    by_cases hx : x < f.width
    · simp only [f.run_succ_of_lt remaining ahead p hx, f.runFits_succ_iff remaining ahead hx,
        f.plot_succ_of_lt remaining ahead p hx]
      by_cases hfits : f.Fits (satAdd ahead f.bucketLength)
      · simp only [advance_of_fits hfits, hfits, true_and]
        exact ih _ _ _
      · simp only [advance_of_not_fits hfits, hfits, false_and, if_false]
        rfl
    · rw [f.run_of_not_lt _ _ _ hx, if_pos (runFits_of_not_lt _ _ hx), f.plot_of_not_lt _ _ _ hx]

theorem run_of_runFits {remaining : Nat} (h : f.RunFits remaining x ahead) (p : Projection) :
    f.run remaining x ahead p = .ok (f.plot remaining x ahead p) := by
  rw [run_eq, if_pos h]

end Forecast

/-! ## Projections -/

namespace Projection

variable {σ : Type} [UsageSource σ] {source : σ} {axes : Axes} {viewport : Viewport}
  {origin : Origin} {now : Int64} {settings : ForecastSettings}

/-- What a projection relies on. -/
def validate (source : σ) (viewport : Viewport) (settings : ForecastSettings) :
    Except Refusal Unit := do
  let bucketLength := UsageSource.bucketLength source
  if bucketLength ≤ 0 then throw (.nominalLength bucketLength)
  settings.validate
  viewport.validate

/-- No mean of a projection overflows. -/
def Fits (source : σ) (axes : Axes) (width : Float32) (origin : Origin) (now : Int64)
    (settings : ForecastSettings) : Prop :=
  (Forecast.ofSource source axes width origin.time now settings).RunFits settings.stepLimit
    origin.point.x 0

instance (source : σ) (axes : Axes) (width : Float32) (origin : Origin) (now : Int64)
    (settings : ForecastSettings) : Decidable (Fits source axes width origin now settings) :=
  inferInstanceAs (Decidable (Forecast.RunFits ..))

/-- The projection of a source that nothing refuses and no mean of which overflows. -/
def plot (source : σ) (axes : Axes) (width : Float32) (origin : Origin) (now : Int64)
    (settings : ForecastSettings) : Projection :=
  (Forecast.ofSource source axes width origin.time now settings).plot settings.stepLimit
    origin.point.x 0 (start origin)

theorem validate_of_valid (hd : 0 < UsageSource.bucketLength source) (hv : viewport.Valid)
    (hs : settings.Valid) : validate source viewport settings = .ok () := by
  have hsettings := (ForecastSettings.validate_eq_ok_iff settings).2 hs
  simp [validate, Int64.not_le.2 hd, hsettings, Viewport.validate_of_valid hv, bind, Except.bind]

/-- A projection is refused before its first step, and else it may overflow with any of them. -/
theorem ofSource_eq (source : σ) (axes : Axes) (viewport : Viewport) (origin : Origin)
    (now : Int64) (settings : ForecastSettings) :
    ofSource source axes viewport origin now settings =
      match validate source viewport settings with
      | .error e => .error (.refused e)
      | .ok _ =>
        if Fits source axes viewport.width origin now settings then
          .ok (plot source axes viewport.width origin now settings)
        else .error (.overflow .addition) := by
  let f := Forecast.ofSource source axes viewport.width origin.time now settings
  have hrun : f.run settings.stepLimit origin.point.x 0 (start origin) =
      if Fits source axes viewport.width origin now settings then
        .ok (plot source axes viewport.width origin now settings)
      else .error .addition := f.run_eq ..
  unfold ofSource validate
  by_cases hd : UsageSource.bucketLength source ≤ 0
  · simp [hd, bind, Except.bind, throw, throwThe, MonadExceptOf.throw]
  · simp only [hd, if_false]
    cases settings.validate with
    | error e => rfl
    | ok =>
      cases viewport.validate with
      | error e => rfl
      | ok =>
        by_cases hfits : Fits source axes viewport.width origin now settings
        · rw [if_pos hfits] at hrun ⊢
          exact congrArg (Except.mapError Stop.overflow) hrun
        · rw [if_neg hfits] at hrun ⊢
          exact congrArg (Except.mapError Stop.overflow) hrun

theorem ofSource_of_valid (hd : 0 < UsageSource.bucketLength source) (hv : viewport.Valid)
    (hs : settings.Valid) (axes : Axes) (origin : Origin) (now : Int64) :
    ofSource source axes viewport origin now settings =
      if Fits source axes viewport.width origin now settings then
        .ok (plot source axes viewport.width origin now settings)
      else .error (.overflow .addition) := by
  rw [ofSource_eq, validate_of_valid hd hv hs]

theorem ofSource_of_fits (hd : 0 < UsageSource.bucketLength source) (hv : viewport.Valid)
    (hs : settings.Valid) (hfits : Fits source axes viewport.width origin now settings) :
    ofSource source axes viewport origin now settings =
      .ok (plot source axes viewport.width origin now settings) := by
  rw [ofSource_of_valid hd hv hs, if_pos hfits]

theorem ofSource_of_not_fits (hd : 0 < UsageSource.bucketLength source) (hv : viewport.Valid)
    (hs : settings.Valid) (hfits : ¬ Fits source axes viewport.width origin now settings) :
    ofSource source axes viewport origin now settings = .error (.overflow .addition) := by
  rw [ofSource_of_valid hd hv hs, if_neg hfits]

/-- Light weights never overflow. -/
theorem fits_of_weight_le {width : Float32} (h : settings.weight ≤ 2 ^ 64 + 1) :
    Fits source axes width origin now settings :=
  Forecast.runFits_of_weight_le h _ _ _

end Projection

end TrafficChart
