import TrafficChart.Proofs.Forecast.ClosedForm
import TrafficChart.Proofs.Forecast.Windows
import TrafficChart.Proofs.History.FullScan

/-!
# What a forecast looks at

All windows of a forecast lie between its origin and the beginning of its trend window or of its
earliest seasonal window, whichever is earlier. Buckets beside this interval have no influence on a
projection, whether they are being filled or not, and without buckets in it nothing is added.
-/

namespace TrafficChart

/-! ## Buckets that meet a window -/

theorem Bucket.start_lt_finish {b : Bucket} (hd : 0 < b.duration) {t : Int64} (ht : b.start < t) :
    b.start < b.finish := by
  have hend := b.toInt_finish hd
  have hmax := t.toInt_lt
  simp only [Int64.lt_iff_toInt_lt, Int64.toInt_zero] at *
  omega

namespace History

variable {h k : History} {start finish start' finish' : Int64}

/-- The buckets that meet a window begin one after the other. -/
theorem pairwise_meeting (ho : Ordered h.toList) :
    (h.meeting start finish).Pairwise fun a b => a.start < b.start := by
  refine (ho.apart.filter _).imp_of_mem fun {a b} ha _ hab => ?_
  obtain ⟨ha, hs, -⟩ := mem_meeting.1 ha
  exact Int64.lt_of_lt_of_le (Bucket.start_lt_finish (ho.duration_pos a ha) hs) hab

/-- The buckets that meet a window are determined by which ones they are. -/
theorem meeting_eq_of_mem_iff (hh : Ordered h.toList) (hk : Ordered k.toList)
    (hmem : ∀ b, b ∈ h.meeting start finish ↔ b ∈ k.meeting start finish) :
    h.meeting start finish = k.meeting start finish := by
  have hnodup {g : History} (hg : Ordered g.toList) : (g.meeting start finish).Nodup := by
    refine (pairwise_meeting hg).imp ?_
    rintro a _ hlt rfl
    exact Int64.lt_irrefl hlt
  refine List.Perm.eq_of_pairwise (fun a b _ _ hab hba => ?_) (pairwise_meeting hh)
    (pairwise_meeting hk) ((List.perm_ext_iff_of_nodup (hnodup hh) (hnodup hk)).2 hmem)
  exact absurd (Int64.lt_trans hab hba) Int64.lt_irrefl

/-- The buckets that meet a window are among those that meet a larger one. -/
theorem meeting_eq_filter (h : History) (hl : start' ≤ start) (hr : finish ≤ finish') :
    h.meeting start finish =
      (h.meeting start' finish').filter fun b => b.start < finish ∧ start < b.finish := by
  rw [meeting, meeting, List.filter_filter]
  refine List.filter_congr fun b _ => ?_
  have hs : b.start < finish → b.start < finish' := fun hs => Int64.lt_of_lt_of_le hs hr
  have hf : start < b.finish → start' < b.finish := Int64.lt_of_le_of_lt hl
  grind

/-- No bucket has a share in a window that none meets. -/
theorem usage_of_meeting_eq_nil (ho : Ordered h.toList) (asOf : Int64)
    (hnone : h.meeting start finish = []) : (h.usage start finish asOf).total = 0 := by
  by_cases hw : start < finish
  · rw [usage_of_lt ho asOf hw, hnone]
    rfl
  · rw [usage_of_le h asOf (Int64.not_lt.1 hw)]
    rfl

end History

/-! ## Where the windows of a forecast begin -/

namespace ForecastSettings

/-- Where the windows of a forecast from an instant begin at the earliest. -/
def earliest (s : ForecastSettings) (time : Int64) : Int :=
  time.toInt - max s.trendWindow.toInt (s.season.toInt + s.seasonalWindow.toInt)

theorem earliest_lt {s : ForecastSettings} (hs : s.Valid) (time : Int64) :
    s.earliest time < time.toInt := by
  have htrend : 0 < s.trendWindow.toInt := Int64.lt_iff_toInt_lt.1 hs.1
  unfold earliest
  omega

end ForecastSettings

namespace Forecast

variable {f : Forecast} {start finish : Int64}

/-- Every window that a forecast asks for lies between where they begin at the earliest and the
origin, as long as they begin at a representable instant. -/
theorem Asks.within (ha : f.Asks start finish) (hs : f.settings.Valid)
    (hearliest : -9223372036854775808 ≤ f.settings.earliest f.time) :
    f.settings.earliest f.time ≤ start.toInt ∧ finish ≤ f.time := by
  have htrend : 0 < f.settings.trendWindow.toInt := Int64.lt_iff_toInt_lt.1 hs.1
  have hwindow : 0 < f.settings.seasonalWindow.toInt := Int64.lt_iff_toInt_lt.1 hs.2.1
  have hseason : 0 < f.settings.season.toInt := Int64.lt_iff_toInt_lt.1 hs.2.2.1
  have htime := f.time.toInt_lt
  unfold ForecastSettings.earliest at *
  have hback : -9223372036854775808 ≤ f.time.toInt - f.settings.season.toInt := by omega
  refine ⟨?_, ha.finish_le_time hs.2.2.1 hback⟩
  rcases ha with ⟨rfl, -⟩ | ⟨ahead, rfl, -⟩
  · rw [toInt_satSub]
    omega
  · have hanchor := f.anchor ahead |>.toInt_lt
    have hlow := Int.emod_nonneg ahead.toInt hseason.ne'
    rw [toInt_anchor hs.2.2.1 hback] at hanchor
    rw [toInt_satSub, toInt_anchor hs.2.2.1 hback]
    omega

/-! ## Forecasts that add nothing -/

/-- A forecast that finds nothing in its windows adds nothing. -/
theorem increment_of_unused {σ : Type} [UsageSource σ] {source : σ} {axes : Axes}
    {width : Float32} {time now : Int64} {settings : ForecastSettings}
    (hunused : ∀ start finish, (ofSource source axes width time now settings).Asks start finish →
      (UsageSource.usage source start finish now).total = 0) (ahead : Int64) :
    (ofSource source axes width time now settings).increment ahead = .ok 0 := by
  have hrate (start finish : Int64)
      (ha : (ofSource source axes width time now settings).Asks start finish) :
      ratePerBucket source start finish now (UsageSource.bucketLength source) = 0 := by
    rw [ratePerBucket, hunused start finish ha]
    exact zero_share _ _
  have htrend := hrate (satSub time settings.trendWindow) time (.inl ⟨rfl, rfl⟩)
  have hseasonal := hrate _ _ (.inr ⟨ahead, rfl, rfl⟩)
  rw [increment_ofSource, htrend]
  exact (congrArg _ hseasonal).trans settings.mean_zero

end Forecast

namespace Projection

/-- A projection that adds nothing stays at the total of its origin, with each of its steps. -/
theorem flat_of_increment_eq_zero {σ : Type} [UsageSource σ] {source : σ}
    (hd : 0 < UsageSource.bucketLength source) {axes : Axes} {viewport : Viewport}
    (hv : viewport.Valid) {origin : Origin} {now : Int64} {settings : ForecastSettings}
    (hs : settings.Valid) :
    let f := Forecast.ofSource source axes viewport.width origin.time now settings
    (∀ ahead, f.increment ahead = .ok 0) →
      ∃ p, ofSource source axes viewport origin now settings = .ok p ∧
        p.total = origin.total ∧
        (∀ q ∈ p.outline.points.tail, q.y = axes.vert (axisValue origin.total)) ∧
        ∀ k ≤ p.steps, ∃ q, f.run k origin.point.x 0 (start origin) = .ok q ∧
          q.steps = k ∧ q.total = origin.total := by
  intro f hzero
  have hf : 0 < f.bucketLength.toInt := Int64.lt_iff_toInt_lt.1 hd
  have hadded (ahead : Int64) := Forecast.increment_eq_ok_iff.1 (hzero ahead)
  have hfits (limit : ℕ) : f.RunFits limit origin.point.x 0 := fun ahead _ => (hadded ahead).1
  have htotal (j : ℕ) : f.totalAt origin.total j = origin.total := by
    rw [f.totalAt_of_gain_eq fun i _ _ => (hadded _).2.symm, UInt64.toNat_zero, Nat.mul_zero,
      Nat.add_zero, clampUInt64_toNat]
  obtain ⟨m, -, -, -, -, hplot⟩ := Forecast.plot_start_after hf origin settings.stepLimit
  refine ⟨_, ofSource_of_fits hd hv hs (hfits _), ?_⟩
  refine ⟨(congrArg total hplot).trans (htotal m), ?_, fun k hk => ?_⟩
  · have htail : (f.after origin m).outline.points.tail = (List.range' 1 m).map fun j =>
        ⟨f.xAt origin.point.x j, axes.vert (axisValue (f.totalAt origin.total j))⟩ := by
      rw [Outline.points, f.toList_outline_after, List.map_cons, List.tail_cons, List.map_map]
      rfl
    intro q hq
    rw [plot, hplot] at hq
    obtain ⟨j, -, rfl⟩ := List.mem_map.1 (htail ▸ hq)
    exact congrArg (fun total => axes.vert (axisValue total)) (htotal j)
  · refine ⟨_, Forecast.run_of_runFits (hfits k) _, ?_⟩
    rw [Forecast.plot_start_of_le hf origin hk]
    exact ⟨rfl, htotal k⟩

/-- Histories with the same buckets around all windows that are asked for have the same
projection. -/
theorem ofSource_congr_of_meeting_eq {k h : History} (hk : Ordered k.toList)
    (hh : Ordered h.toList) (hlen : k.bucketLength = h.bucketLength) {axes : Axes}
    {viewport : Viewport} {origin : Origin} {now : Int64} {settings : ForecastSettings}
    {since : Int64}
    (hwithin : ∀ start finish,
      (Forecast.ofSource h axes viewport.width origin.time now settings).Asks start finish →
      since ≤ start ∧ finish ≤ origin.time)
    (hmeeting : k.meeting since origin.time = h.meeting since origin.time) :
    ofSource k axes viewport origin now settings =
      ofSource h axes viewport origin now settings := by
  refine ofSource_congr hlen fun _ start finish ha => ?_
  obtain ⟨hl, hr⟩ := hwithin start finish ha
  refine History.usage_congr hk hh now ?_
  rw [k.meeting_eq_filter hl hr, h.meeting_eq_filter hl hr, hmeeting]

/-- A projection depends only on the buckets that overlap the interval from where its windows begin
at the earliest to its origin, also in whether it overflows. If there is none, each step adds
nothing and the curve stays flat. -/
theorem ofSource_local {h : History} (hreach : h.Reachable) (axes : Axes) {viewport : Viewport}
    (hv : viewport.Valid) (origin : Origin) (now : Int64) {settings : ForecastSettings}
    (hs : settings.Valid)
    (hearliest : -9223372036854775808 ≤ settings.earliest origin.time) :
    let Overlaps (b : Bucket) : Prop :=
      b.start < origin.time ∧ settings.earliest origin.time < b.finish.toInt
    let f := Forecast.ofSource h axes viewport.width origin.time now settings
    ((∃ p, ofSource h axes viewport origin now settings = .ok p) ∨
      ofSource h axes viewport origin now settings = .error (.overflow .addition)) ∧
    (∀ k : History, k.Reachable → k.bucketLength = h.bucketLength →
      (∀ b, Overlaps b → (b ∈ k.toList ↔ b ∈ h.toList)) →
      ofSource k axes viewport origin now settings =
        ofSource h axes viewport origin now settings) ∧
    ((∀ b ∈ h.toList, ¬ Overlaps b) →
      (∀ ahead, f.increment ahead = .ok 0) ∧
      ∃ p, ofSource h axes viewport origin now settings = .ok p ∧
        p.total = origin.total ∧
        (∀ q ∈ p.outline.points.tail, q.y = axes.vert (axisValue origin.total)) ∧
        ∀ k ≤ p.steps, ∃ q, f.run k origin.point.x 0 (start origin) = .ok q ∧
          q.steps = k ∧ q.total = origin.total) := by
  intro Overlaps f
  have hd : 0 < UsageSource.bucketLength h := hreach.bucketLength_pos
  let since := clampInt64 (settings.earliest origin.time)
  have hsince : since.toInt = settings.earliest origin.time := by
    have hlt := settings.earliest_lt hs origin.time
    have hmax := origin.time.toInt_lt
    rw [toInt_clampInt64]
    omega
  have hmem (g : History) (b : Bucket) :
      b ∈ g.meeting since origin.time ↔ b ∈ g.toList ∧ Overlaps b := by
    rw [History.mem_meeting, Int64.lt_iff_toInt_lt (x := since), hsince]
  have hwithin {start finish : Int64} (ha : f.Asks start finish) :
      since ≤ start ∧ finish ≤ origin.time := by
    rw [Int64.le_iff_toInt_le, hsince]
    exact ha.within hs hearliest
  refine ⟨?_, ?_, ?_⟩
  · rw [ofSource_of_valid hd hv hs]
    split
    · exact .inl ⟨_, rfl⟩
    · exact .inr rfl
  · intro k hk hlen hsame
    have hmeeting : k.meeting since origin.time = h.meeting since origin.time :=
      History.meeting_eq_of_mem_iff hk.ordered hreach.ordered fun b => by
        rw [hmem, hmem]
        exact and_congr_left (hsame b)
    exact ofSource_congr_of_meeting_eq hk.ordered hreach.ordered hlen (fun _ _ => hwithin) hmeeting
  · intro hnone
    have hmeeting : h.meeting since origin.time = [] :=
      List.eq_nil_iff_forall_not_mem.2 fun b hb => hnone b ((hmem h b).1 hb).1 ((hmem h b).1 hb).2
    have hunused : ∀ start finish, f.Asks start finish →
        (h.usage start finish now).total = 0 := fun start finish ha => by
      obtain ⟨hl, hr⟩ := hwithin ha
      apply History.usage_of_meeting_eq_nil hreach.ordered
      rw [h.meeting_eq_filter hl hr, hmeeting]
      rfl
    have hzero : ∀ ahead, f.increment ahead = .ok 0 := Forecast.increment_of_unused hunused
    exact ⟨hzero, flat_of_increment_eq_zero hd hv hs hzero⟩

/-- Two histories that differ in a bucket before the interval from 70 to 100 and in one after it,
which is being filled in the first of them, and a history without buckets in that interval. -/
theorem ofSource_of_distant_buckets :
    let h : History := ⟨10, #[⟨0, 10, 9, 9⟩, ⟨65, 10, 4, 0⟩, ⟨80, 10, 2, 1⟩, ⟨100, 50, 7, 7⟩]⟩
    let k : History := ⟨10, #[⟨30, 20, 500, 0⟩, ⟨65, 10, 4, 0⟩, ⟨80, 10, 2, 1⟩, ⟨110, 10, 1, 1⟩]⟩
    let distant : History := ⟨10, #[⟨0, 10, 9, 9⟩, ⟨100, 50, 7, 7⟩]⟩
    let axes : Axes := ⟨fun t => if t ≤ 120 then 5 else 60, fun _ => 90⟩
    let origin : Origin := ⟨⟨5, 90⟩, 100, 7⟩
    let settings : ForecastSettings := ⟨20, 10, 20, 1, 1, 5⟩
    settings.Valid ∧ Viewport.Valid ⟨50, 90⟩ ∧ settings.earliest origin.time = 70 ∧
      (∃ p, ofSource h axes ⟨50, 90⟩ origin 105 settings = .ok p ∧
        ofSource k axes ⟨50, 90⟩ origin 105 settings = .ok p) ∧
      ∃ p, ofSource distant axes ⟨50, 90⟩ origin 105 settings = .ok p ∧ p.total = 7 := by
  intro h k distant axes origin settings
  have hh : History.ofBuckets 10 h.toList = .ok h := rfl
  have hk : History.ofBuckets 10 k.toList = .ok k := rfl
  have hdistant : History.ofBuckets 10 distant.toList = .ok distant := rfl
  have hs : settings.Valid := by decide
  have hv : Viewport.Valid ⟨50, 90⟩ := by decide
  have hearliest : -9223372036854775808 ≤ settings.earliest origin.time := by decide
  have hweight : settings.weight ≤ 2 ^ 64 + 1 := by decide
  have hfits : Fits h axes 50 origin 105 settings := fits_of_weight_le hweight
  obtain ⟨-, hsame, -⟩ := ofSource_local (.ofBuckets hh) axes hv origin 105 hs hearliest
  obtain ⟨-, -, hflat⟩ := ofSource_local (.ofBuckets hdistant) axes hv origin 105 hs hearliest
  have hkh : ∀ b ∈ k.toList, b.start < 100 ∧ 70 < b.finish.toInt → b ∈ h.toList := by decide
  have hhk : ∀ b ∈ h.toList, b.start < 100 ∧ 70 < b.finish.toInt → b ∈ k.toList := by decide
  have hd : 0 < UsageSource.bucketLength h := by decide
  have hh' := ofSource_of_fits hd hv hs hfits
  have hk' := hsame k (.ofBuckets hk) rfl fun b hb => ⟨fun hm => hkh b hm hb, fun hm => hhk b hm hb⟩
  obtain ⟨-, q, hq, htotal, -⟩ := hflat (by decide)
  exact ⟨hs, hv, by decide, ⟨_, hh', hk'.trans hh'⟩, q, hq, htotal⟩

end Projection

end TrafficChart
