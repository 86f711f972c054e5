import Cinematics.Box.Clearance
import Cinematics.Scene
import Cinematics.Settings

/-!
# Where the camera may go

Every move that changes the position goes through `place`: the height is brought into the envelope,
then the distance from the anchor, and then the segment from the start is kept clear of the
subject's box.  The stages can undo each other near the box; a place that is still not admissible
gives way to the start, if the start was.
-/

namespace Cinematics

variable {α : Type} [Scalar α]

namespace Envelope

/-- The position at the nearest height within the limits. -/
def clampHeight (e : Envelope α) (position : Vec α) : Vec α :=
  { position with y := Scalar.min (Scalar.max position.y e.minHeight) e.maxHeight }

/-- The position at the nearest distance from the anchor within the limits, moved along the ray from
the anchor; in the direction `fallback` from the anchor itself. -/
def clampDistance (e : Envelope α) (position anchor fallback : Vec α) (eps : α) : Vec α :=
  let offset := position - anchor
  let distance := offset.norm
  let goal := Scalar.min (Scalar.max distance e.minDistance) e.maxDistance
  if Scalar.abs (goal - distance) ≤ eps then position
  else
    let fallback := fallback.normalizeOr (Vec.unit .z) eps
    anchor + offset.normalizeOr fallback eps * goal

/-- The position within the limits of height and then of distance. -/
def confine (e : Envelope α) (position anchor fallback : Vec α) (eps : α) : Vec α :=
  e.clampDistance (e.clampHeight position) anchor fallback eps

end Envelope

namespace Scene

/-- How far beyond a limit a position still counts as within it. -/
def admitTolerance : α := 1e-6

/-- Whether a position keeps to the envelope, measured from the anchor, and out of the box. -/
def isAdmissible (scene : Scene α) (around : Surroundings α) (position anchor : Vec α) : Bool :=
  around.envelope.all (·.admits position anchor admitTolerance)
    && (scene.liftedBounds around).all (!·.containsStrictly position)

/-- The candidate brought into the envelope and then kept clear of the box. -/
def settle (scene : Scene α) (around : Surroundings α) (eps : α) (start candidate anchor : Vec α) :
    Vec α :=
  let confined :=
    match around.envelope with
    | some e => e.confine candidate anchor (start - anchor) eps
    | none => candidate
  match scene.liftedBounds around with
  | some b => b.clear start confined
  | none => confined

/-- Where the camera ends up when it leaves `start` for `candidate` and distances count from
`anchor`. -/
def place (scene : Scene α) (around : Surroundings α) (eps : α) (start candidate anchor : Vec α) :
    Vec α :=
  let settled := scene.settle around eps start candidate anchor
  if !scene.isAdmissible around settled anchor && scene.isAdmissible around start anchor then start
  else settled

end Scene

end Cinematics
