import Cinematics.Frame
import Cinematics.Move.Stage

/-!
# Orbit

An orbit carries the camera around a center, which it looks at all the way.  The arc is cut into
keyframes, and each of them is confined on its own, so that the whole way keeps to the envelope and
clear of the box.
-/

namespace Cinematics

variable {α : Type} [Scalar α]

namespace Orbit

/-- To the right is counter-clockwise, and positive. -/
def heading : Heading := ⟨[.right, .counterClockwise], [.left, .clockwise]⟩

/-- The center: the named place, else the center of the subject, else the target. -/
def center (orbit : Orbit α) (stage : Stage α) (pose : Pose α) : Outcome α (Vec α) :=
  match orbit.target with
  | some name => stage.locate pose name
  | none =>
    .ok ((stage.scene.locate stage.around pose.target "object_center").getD pose.target)

/-- The axes that an orbit can have. -/
inductive Around where
  /-- A coordinate axis. -/
  | world (axis : Axis)
  /-- The camera's own up. -/
  | cameraUp
  deriving DecidableEq, Repr

/-- The words for the axes of an orbit. -/
def vocabulary : Text.Vocabulary Around :=
  [("y", .world .y), ("world_y", .world .y), ("vertical", .world .y),
   ("x", .world .x), ("world_x", .world .x),
   ("z", .world .z), ("world_z", .world .z),
   ("camera_up", .cameraUp), ("local_up", .cameraUp), ("up", .cameraUp)]

/-- The key of a word for an axis: lowered, with underscores for hyphens and spaces. -/
def axisKey (word : String) : List Char :=
  (Text.lower (Text.trim word.toList)).map fun c => if c = '-' ∨ c = ' ' then '_' else c

/-- The axis that a word means, upright when there is no word. -/
def aroundFor (word : Option String) : Outcome α Around :=
  match word with
  | none => .ok (.world .y)
  | some word =>
    let key := axisKey word
    match vocabulary.find? key with
    | some around => .ok around
    | none => .error (.invalid "axis" (.unknownOrbitAxis (String.ofList key)))

/-- The axis as a vector.  A camera on its target has the world's up. -/
def Around.vec (pose : Pose α) (eps : α) : Around → Vec α
  | .world axis => Vec.unit axis
  | .cameraUp =>
    match Frame.ofView pose.position pose.target eps with
    | some frame => frame.up
    | none => Vec.up

/-- A circle to go along, cut into segments. -/
structure Arc (α : Type) where
  /-- The center. -/
  center : Vec α
  /-- The axis. -/
  axis : Vec α
  /-- The way from the center to the start. -/
  radius : Vec α
  /-- The angle of the whole arc in degrees. -/
  degrees : α
  /-- The radius at the end as a multiple of the radius at the start. -/
  radiusFactor : α
  /-- How many segments the arc is cut into. -/
  segments : Nat

namespace Arc

/-- The point at the end of segment `k`, counted from one. -/
def point (arc : Arc α) (k : Nat) : Vec α :=
  let fraction : α := Scalar.ofNat k / Scalar.ofNat arc.segments
  let scale := 1 + (arc.radiusFactor - 1) * fraction
  arc.center + arc.radius.rotate arc.axis (Scalar.radians arc.degrees * fraction) * scale

/-- The places along the arc, each confined on the way from the one before. -/
def places (arc : Arc α) (stage : Stage α) : (start : Vec α) → List Nat → List (Vec α)
  | _, [] => []
  | start, k :: ks =>
    let position := stage.place start (arc.point k) arc.center
    position :: arc.places stage position ks

/-- Goes along the arc. -/
def take (arc : Arc α) (stage : Stage α) (start : Vec α) (easing : Easing) : Take α :=
  let duration := stage.duration / Scalar.ofNat arc.segments
  let places := arc.places stage start (List.range' 1 arc.segments)
  { keyframes :=
      places.zipIdx.map fun (position, i) =>
        ⟨⟨position, arc.center⟩, duration, easing.forSegment i arc.segments⟩
    pose := ⟨places.getLastD start, arc.center⟩
    unsupported := [] }

end Arc

/-- The angle of an orbit in degrees, refused beyond the limit. -/
def angleFor (orbit : Orbit α) (stage : Stage α) : Outcome α α := do
  let direction ← heading.direction? orbit.direction
  let degrees ← signedAngle heading direction orbit.angle orbit.angleDescriptor
  if stage.settings.orbitLimit < Scalar.abs degrees then
    .error (.invalid "angle" (.beyondLimit degrees stage.settings.orbitLimit))
  else .ok degrees

/-- How many keyframes an arc takes, at least one. -/
def segmentsFor (settings : Settings α) (degrees : α) : Nat :=
  Nat.max 1 (Scalar.ceilNat (Scalar.abs degrees / settings.effectiveOrbitStep))

/-- What an orbit comes to. -/
inductive Way (α : Type) where
  /-- The camera stays in a pose. -/
  | stay (pose : Pose α)
  /-- The camera goes along an arc. -/
  | along (arc : Arc α)

/-- Takes the way from a start. -/
def Way.take (way : Way α) (stage : Stage α) (start : Vec α) (easing : Easing) : Take α :=
  match way with
  | .stay pose => stage.still pose
  | .along arc => arc.take stage start easing

/-- How many keyframes are made room for before the way is taken, none for a camera that stays. -/
def Way.reserved : Way α → Nat
  | .stay _ => 0
  | .along arc => arc.segments

/-- The way of an orbit.  A camera on the center stays there, and one that has no way to go looks at
it. -/
def way (orbit : Orbit α) (stage : Stage α) (pose : Pose α) : Outcome α (Way α) := do
  let eps := stage.settings.epsilon
  let center ← orbit.center stage pose
  let degrees ← orbit.angleFor stage
  let radiusFactor ← positive "radius_factor" (orbit.radiusFactor.getD 1)
  let around ← aroundFor orbit.axis
  let radius := pose.position - center
  if radius.norm < eps then .ok (.stay pose)
  else if Scalar.abs degrees < eps ∧ Scalar.abs (radiusFactor - 1) < eps then
    .ok (.stay ⟨pose.position, center⟩)
  else
    .ok (.along
      { center, radius, degrees, radiusFactor
        axis := around.vec pose eps
        segments := segmentsFor stage.settings degrees })

/-- Carries out an orbit. -/
def perform (orbit : Orbit α) (stage : Stage α) (pose : Pose α) : Outcome α (Take α) := do
  let way ← orbit.way stage pose
  .ok (way.take stage pose.position (stage.easing orbit.easing orbit.speed))

end Orbit

end Cinematics
