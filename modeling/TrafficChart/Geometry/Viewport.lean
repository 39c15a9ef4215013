import TrafficChart.Refusal

/-!
# The drawable area
-/

namespace TrafficChart

/-- The size of the screen area, in the pixels that the axes map to. -/
structure Viewport where
  width : Float32
  height : Float32

namespace Viewport

def standard : Viewport := ⟨1024, 640⟩

/-- A number that a drawable area may measure: finite and not negative. -/
def Measure (v : Float32) : Prop := v.isFinite = true ∧ 0 ≤ v

instance (v : Float32) : Decidable (Measure v) := inferInstanceAs (Decidable (_ ∧ _))

def Valid (v : Viewport) : Prop := Measure v.width ∧ Measure v.height

instance (v : Viewport) : Decidable v.Valid := inferInstanceAs (Decidable (_ ∧ _))

def validate (v : Viewport) : Except Refusal Unit :=
  if v.Valid then .ok () else .error (.viewport v.width v.height)

theorem validate_of_valid {v : Viewport} (h : v.Valid) : v.validate = .ok () := if_pos h

theorem validate_of_not_valid {v : Viewport} (h : ¬ v.Valid) :
    v.validate = .error (.viewport v.width v.height) := if_neg h

end Viewport

end TrafficChart
