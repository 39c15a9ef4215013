import TrafficChart.History.Window
import TrafficChart.Proofs.Trace.Course

/-!
# The shape of a trace

The outlines of a trace of a history in closed form: which buckets are drawn and where, what is
counted, how the curve is held flat, and how the filled shape is closed.
-/

namespace TrafficChart

namespace Trace

/-! ## Holding and closing -/

/-- The instant up to which a curve is held flat, if that is later than where it has come. -/
def heldLater (heldUntil : Option Int64) (reached : Int64) : Option Int64 :=
  heldUntil.filter fun instant => reached < instant

theorem mem_heldLater {heldUntil : Option Int64} {reached instant : Int64} :
    instant ∈ heldLater heldUntil reached ↔ instant ∈ heldUntil ∧ reached < instant := by
  simp [heldLater, Option.filter_eq_some_iff]

/-- Holding moves the resting point of a trace that waits, and nothing else. -/
theorem close_hold_of_waiting {t : Trace} (ht : t.drawing = false) (axes : Axes)
    (heldUntil : Option Int64) (height : Float32) :
    (t.hold axes heldUntil).close height =
      { t with
        rest := ⟨((heldLater heldUntil t.reached).map axes.horiz).getD t.rest.x, t.rest.y⟩ } := by
  have hclose : t.close height = t := by simp [close, ht]
  cases heldUntil with
  | none => exact hclose
  | some instant =>
    by_cases hlt : t.reached < instant
    · simp [hold, close, draw, heldLater, Option.filter_some, hlt, ht]
    · simpa [hold, heldLater, Option.filter_some, hlt] using hclose

theorem hold_of_drawing {t : Trace} (ht : t.drawing = true) (axes : Axes)
    (heldUntil : Option Int64) :
    t.hold axes heldUntil =
      match heldLater heldUntil t.reached with
      | none => t
      | some instant =>
        { t with
          stroke := t.stroke.lineTo ⟨axes.horiz instant, t.rest.y⟩
          fill := t.fill.lineTo ⟨axes.horiz instant, t.rest.y⟩
          rest := ⟨axes.horiz instant, t.rest.y⟩ } := by
  cases heldUntil with
  | none => rfl
  | some instant =>
    by_cases hlt : t.reached < instant <;>
      simp [hold, heldLater, draw, Option.filter_some, hlt, ht]

/-- Beyond the outlines, holding and closing change nothing but the abscissa of the resting
point. -/
theorem close_hold_eq (axes : Axes) (heldUntil : Option Int64) (height : Float32) (t : Trace) :
    ∃ stroke fill, (t.hold axes heldUntil).close height =
      { t with
        stroke, fill
        rest := ⟨((heldLater heldUntil t.reached).map axes.horiz).getD t.rest.x, t.rest.y⟩ } := by
  by_cases ht : t.drawing = true
  · rw [hold_of_drawing ht]
    cases heldLater heldUntil t.reached <;> exact ⟨_, _, if_pos ht⟩
  · exact ⟨_, _, close_hold_of_waiting (Bool.eq_false_iff.2 ht) axes heldUntil height⟩

theorem reached_close_hold (axes : Axes) (heldUntil : Option Int64) (height : Float32)
    (t : Trace) : ((t.hold axes heldUntil).close height).reached = t.reached := by
  obtain ⟨_, _, h⟩ := close_hold_eq axes heldUntil height t
  rw [h]

theorem total_close_hold (axes : Axes) (heldUntil : Option Int64) (height : Float32)
    (t : Trace) : ((t.hold axes heldUntil).close height).total = t.total := by
  obtain ⟨_, _, h⟩ := close_hold_eq axes heldUntil height t
  rw [h]

theorem rest_close_hold (axes : Axes) (heldUntil : Option Int64) (height : Float32)
    (t : Trace) :
    ((t.hold axes heldUntil).close height).rest =
      ⟨((heldLater heldUntil t.reached).map axes.horiz).getD t.rest.x, t.rest.y⟩ := by
  obtain ⟨_, _, h⟩ := close_hold_eq axes heldUntil height t
  rw [h]

/-- What holding and closing make of a curve that both outlines have drawn. -/
theorem close_hold_of_drawing {t : Trace} (ht : t.drawing = true) (hsame : t.fill = t.stroke)
    (hne : t.stroke.toList ≠ []) (axes : Axes) (heldUntil : Option Int64) (height : Float32) :
    let held := heldLater heldUntil t.reached
    let lastX := (held.map axes.horiz).getD t.rest.x
    let c := (t.hold axes heldUntil).close height
    c.drawing = true ∧ c.total = t.total ∧ c.reached = t.reached ∧ c.beginX = t.beginX ∧
      c.rest = ⟨lastX, t.rest.y⟩ ∧
      c.stroke.toList = t.stroke.toList ++
        (held.toList.map fun instant => .line ⟨axes.horiz instant, t.rest.y⟩) ∧
      c.fill.toList = c.stroke.toList ++ [.line ⟨lastX, height⟩, .line ⟨t.beginX, height⟩] := by
  have hfill {o : Outline} (ho : o.toList ≠ []) (p q : Point) :
      ((o.lineTo p).lineTo q).toList = o.toList ++ [.line p, .line q] := by
    rw [Outline.toList_lineTo_of_ne (by simp [Outline.toList_lineTo]),
      Outline.toList_lineTo_of_ne ho]
    simp
  dsimp only
  rw [hold_of_drawing ht]
  cases heldLater heldUntil t.reached with
  | none => simp [close, ht, hsame, hfill hne]
  | some instant => simp [close, ht, hsame, Outline.toList_lineTo_of_ne hne, hfill]

/-- A trace counts no more than the source has recorded. -/
theorem total_ofSource_le {σ : Type} [UsageSource σ] (source : σ) (axes : Axes)
    (viewport : Viewport) (heldUntil : Option Int64) :
    (ofSource source axes viewport heldUntil).total.toNat ≤
      ((UsageSource.buckets source).map (·.total.toNat)).sum := by
  rw [ofSource]
  split
  · exact Nat.zero_le _
  · have hrun := total_run_le axes viewport.width true blank (UsageSource.buckets source)
    have hblank : blank.total.toNat = 0 := rfl
    rw [total_close_hold]
    omega

/-! ## Traces of histories -/

theorem ofSource_history {h : History} (hsize : 2 ≤ h.size) (axes : Axes) (viewport : Viewport)
    (heldUntil : Option Int64) :
    ofSource h axes viewport heldUntil =
      ((run axes viewport.width true blank h.toList).hold axes heldUntil).close
        viewport.height := by
  have hbuckets : UsageSource.buckets h = h.toList :=
    UsageSource.buckets_eq_of_bucket? h h.toList (fun i => (h.getElem?_toList i).symm) rfl
  have hmany : ¬ UsageSource.size h < 2 := Nat.not_lt.2 hsize
  rw [ofSource, if_neg hmany, hbuckets]

/-- The trace of a history with at least two buckets. The curve begins at the point before the
first bucket that ends right of the left edge and has a point for every bucket from there to the
one where the trace stops, at the height of the bytes counted before it. It is held flat from
the newest point that does not lie beyond the right edge. -/
theorem outlines_ofSource {h : History} (hsize : 2 ≤ h.size) (axes : Axes)
    (viewport : Viewport) (heldUntil : Option Int64) :
    let bs := h.toList
    let stop := stopIndex axes viewport.width bs
    let t := ofSource h axes viewport heldUntil
    t.reached = bs[stop]!.finish ∧
    (startIndex? axes viewport.width bs = none →
      t.stroke = ∅ ∧ t.fill = ∅ ∧ t.total = 0 ∧ t.drawing = false) ∧
    ∀ s, startIndex? axes viewport.width bs = some s →
      let newest := pointAt axes bs s
        (if viewport.width < endX axes bs stop then stop - 1 else stop)
      let held := heldUntil.filter fun instant => bs[stop]!.finish < instant
      let lastX := (held.map axes.horiz).getD newest.x
      t.drawing = true ∧ t.total = bytesOf bs s (stop + 1) ∧ t.rest = ⟨lastX, newest.y⟩ ∧
      t.stroke.toList =
        .move ⟨endX axes bs (s - 1), axes.vert 0⟩ ::
          ((List.range' s (stop + 1 - s)).map fun i => .line (pointAt axes bs s i)) ++
          (held.toList.map fun instant => .line ⟨axes.horiz instant, newest.y⟩) ∧
      t.fill.toList = t.stroke.toList ++
        [.line ⟨lastX, viewport.height⟩, .line ⟨endX axes bs (s - 1), viewport.height⟩] := by
  intro bs stop t
  have hne : bs ≠ [] := History.toList_ne_nil hsize
  have ht : t = _ := ofSource_history hsize axes viewport heldUntil
  cases hs : startIndex? axes viewport.width bs with
  | none =>
    rw [run_of_startIndex?_eq_none hne hs, close_hold_of_waiting (by rfl)] at ht
    exact ⟨by rw [ht]; rfl, fun _ => by rw [ht]; exact ⟨rfl, rfl, rfl, rfl⟩, nofun⟩
  | some s =>
    have hrun := run_of_startIndex?_eq_some hne hs
    have hpen : (drawn axes bs s (stop + 1)).stroke.toList = _ := toList_outline s (stop + 1)
    obtain ⟨hdrawing, htotal, hreached, -, hrest, hstroke, hfill⟩ :=
      close_hold_of_drawing (t := run axes viewport.width true blank bs) (by rw [hrun]; rfl)
        (fill_run rfl axes viewport.width true bs) (by rw [hrun, hpen]; simp) axes heldUntil
        viewport.height
    rw [← ht] at hdrawing htotal hreached hrest hstroke hfill
    rw [hrun] at htotal hreached hrest hstroke hfill
    refine ⟨hreached, nofun, ?_⟩
    rintro _ ⟨rfl⟩
    rw [hpen] at hstroke
    exact ⟨hdrawing, htotal, hrest, hstroke, hfill⟩

/-- Five buckets of ten milliseconds. -/
def fiveBuckets : History :=
  ⟨10, #[⟨0, 10, 1, 0⟩, ⟨10, 10, 2, 0⟩, ⟨20, 10, 3, 1⟩, ⟨30, 10, 4, 0⟩, ⟨40, 10, 5, 0⟩]⟩

/-- Axes that show two of these buckets, with the first two left of them and the last right. -/
def steppedAxes : Axes where
  horiz t := if t ≤ 20 then 0 else if t ≤ 40 then 30 else 60
  vert bytes := if bytes = 0 then 90 else 80

theorem outlines_of_fiveBuckets :
    2 ≤ fiveBuckets.size ∧
      let t := ofSource fiveBuckets steppedAxes ⟨50, 90⟩ (some 70)
      t.reached = 50 ∧ t.total = 13 ∧ t.stroke.toList =
        [.move ⟨0, 90⟩, .line ⟨30, 90⟩, .line ⟨30, 80⟩, .line ⟨60, 80⟩, .line ⟨60, 80⟩] := by
  have hs : startIndex? steppedAxes 50 fiveBuckets.toList = some 2 := by decide
  obtain ⟨hreached, -, hdrawn⟩ :=
    outlines_ofSource (h := fiveBuckets) (by decide) steppedAxes ⟨50, 90⟩ (some 70)
  obtain ⟨-, htotal, -, hstroke, -⟩ := hdrawn 2 hs
  refine ⟨by decide, hreached.trans (by decide), htotal.trans (by decide), hstroke.trans ?_⟩
  rfl

end Trace

end TrafficChart
