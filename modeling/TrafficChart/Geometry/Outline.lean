/-!
# Outlines

An outline is the way of a pen over the screen: it is set down at a point and drawn on from
there. A line on an empty outline only sets the pen down, so an outline never begins with a
line.

## Main definitions

* `Point`, `PenStep`, `Outline`: the data.
* `Outline.moveTo`, `Outline.lineTo`: extend an outline by one step.
* `Bounds`, `Outline.bounds?`: the smallest box around all points.
-/

namespace TrafficChart

/-- A place on the screen, in pixels from the upper left corner. -/
structure Point where
  x : Float32
  y : Float32

def Point.origin : Point := ⟨0, 0⟩

inductive PenStep where
  /-- The pen is set down. -/
  | move (p : Point)
  /-- The pen draws. -/
  | line (p : Point)

/-- Where the step leads. -/
def PenStep.point : PenStep → Point
  | .move p => p
  | .line p => p

structure Outline where
  steps : Array PenStep

namespace Outline

instance : EmptyCollection Outline := ⟨⟨#[]⟩⟩

def toList (o : Outline) : List PenStep := o.steps.toList

def size (o : Outline) : Nat := o.steps.size

def isEmpty (o : Outline) : Bool := o.steps.isEmpty

/-- The points in the order of drawing. -/
def points (o : Outline) : List Point := o.toList.map PenStep.point

def first? (o : Outline) : Option Point := o.steps[0]?.map PenStep.point

def last? (o : Outline) : Option Point := o.steps.back?.map PenStep.point

def moveTo (o : Outline) (p : Point) : Outline := ⟨o.steps.push (.move p)⟩

/-- A line from the last point to `p`. On an empty outline the pen is set down at `p`. -/
def lineTo (o : Outline) (p : Point) : Outline :=
  if o.isEmpty then o.moveTo p else ⟨o.steps.push (.line p)⟩

theorem ext_toList {o p : Outline} (h : o.toList = p.toList) : o = p :=
  congrArg Outline.mk (Array.toList_inj.1 h)

@[simp] theorem toList_empty : (∅ : Outline).toList = [] := rfl

@[simp] theorem toList_moveTo (o : Outline) (p : Point) :
    (o.moveTo p).toList = o.toList ++ [.move p] := by
  simp [moveTo, toList]

theorem isEmpty_iff (o : Outline) : o.isEmpty = true ↔ o.toList = [] := by
  simp [isEmpty, toList]

theorem toList_lineTo (o : Outline) (p : Point) :
    (o.lineTo p).toList = o.toList ++ [if o.toList = [] then .move p else .line p] := by
  unfold lineTo
  split
  · rename_i h
    rw [toList_moveTo, if_pos ((isEmpty_iff o).1 h)]
  · rename_i h
    rw [if_neg fun he => h ((isEmpty_iff o).2 he)]
    simp [toList]

theorem toList_lineTo_of_ne {o : Outline} (ho : o.toList ≠ []) (p : Point) :
    (o.lineTo p).toList = o.toList ++ [.line p] := by
  rw [toList_lineTo, if_neg ho]

@[simp] theorem points_lineTo (o : Outline) (p : Point) :
    (o.lineTo p).points = o.points ++ [p] := by
  rw [points, toList_lineTo]
  split <;> simp [points, PenStep.point]

end Outline

/-- An axis-parallel box; `top` is its smaller `y`. -/
structure Bounds where
  left : Float32
  top : Float32
  right : Float32
  bottom : Float32

namespace Bounds

def width (b : Bounds) : Float32 := b.right - b.left

def height (b : Bounds) : Float32 := b.bottom - b.top

/-- The smaller number; a NaN gives way, and a tie keeps the first. -/
def lesser (a b : Float32) : Float32 := if b < a ∨ a.isNaN then b else a

/-- The greater number; a NaN gives way, and a tie keeps the first. -/
def greater (a b : Float32) : Float32 := if a < b ∨ a.isNaN then b else a

def ofPoint (p : Point) : Bounds := ⟨p.x, p.y, p.x, p.y⟩

/-- The smallest box around a box and a point. -/
def cover (b : Bounds) (p : Point) : Bounds where
  left := lesser b.left p.x
  top := lesser b.top p.y
  right := greater b.right p.x
  bottom := greater b.bottom p.y

end Bounds

/-- The smallest box around all points, if there are any. -/
def Outline.bounds? (o : Outline) : Option Bounds :=
  match o.points with
  | [] => none
  | p :: rest => some (rest.foldl Bounds.cover (Bounds.ofPoint p))

end TrafficChart
