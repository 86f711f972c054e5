import Cinematics.Box.Crossing

/-!
# Staying clear of a box

The camera moves in straight segments.  `Box.clear` shortens a segment that would enter the box, and
moves an end point that lies inside out through the nearest face.  Either way the camera keeps
`Box.clearance` from the surface.
-/

namespace Cinematics.Box

variable {α : Type} [Scalar α]

/-- The distance kept from the surface: a twentieth of the diagonal, within limits. -/
def clearance (b : Box α) : α :=
  Scalar.clamp (0.05 * b.diagonal) 0.1 0.5

/-- A face of a box: an axis, and whether the face is the one further along it. -/
structure Face where
  /-- The axis that the face stands across. -/
  axis : Axis
  /-- Whether the face belongs to the high corner. -/
  high : Bool
  deriving DecidableEq, Repr

/-- The faces in order, those of the low corner before those of the high one. -/
def faces : List Face := Axis.all.flatMap fun axis => [⟨axis, false⟩, ⟨axis, true⟩]

/-- How far a point has to go to reach a face. -/
def gap (b : Box α) (p : Vec α) (f : Face) : α :=
  if f.high then b.high.coord f.axis - p.coord f.axis else p.coord f.axis - b.low.coord f.axis

/-- The face nearest to a point inside, the first one of several. -/
def nearestFace (b : Box α) (p : Vec α) : Face :=
  faces.tail.foldl (fun best f => if b.gap p f < b.gap p best then f else best) ⟨.x, false⟩

/-- The point moved to a distance outside a face. -/
def beyond (b : Box α) (p : Vec α) (distance : α) (f : Face) : Vec α :=
  p.withCoord f.axis
    (if f.high then b.high.coord f.axis + distance else b.low.coord f.axis - distance)

/-- The point moved out through the nearest face. -/
def pushOut (b : Box α) (p : Vec α) (distance : α) : Vec α :=
  b.beyond p distance (b.nearestFace p)

/-- The point at which a segment from outside has to stop before it enters the box, if it enters. -/
def stop? (b : Box α) (start finish : Vec α) : Option (Vec α) := do
  let delta := finish - start
  let length := delta.norm
  if 0 < length ∧ !b.containsStrictly start then
    let c ← b.crossing? start delta
    if c.isLongerThan 1e-9 ∧ c.enter ≤ 1 then
      some (start + delta * (Scalar.max (c.enter * length - b.clearance) 0 / length))
    else none
  else none

/-- The end of a segment, kept clear of the box. -/
def clear (b : Box α) (start finish : Vec α) : Vec α :=
  match b.stop? start finish with
  | some p => p
  | none => if b.containsStrictly finish then b.pushOut finish b.clearance else finish

end Cinematics.Box
