import Cinematics.Frame
import Cinematics.Move.Stage

/-!
# Pan, tilt and rotate

A turn changes what the camera looks at and never where it is.  Sideways it goes about the camera's
own up, up and down about its right axis, where the elevation of the view stays within a limit.  A
roll about the line of sight changes neither position nor target, so it is noted and nothing else.
-/

namespace Cinematics

variable {α : Type} [Scalar α]

namespace Turn

/-- The axes that a view can turn about. -/
inductive ViewAxis where
  /-- Up: the view goes sideways. -/
  | yaw
  /-- Right: the view goes up and down. -/
  | pitch
  /-- The line of sight: the view stays. -/
  | roll
  deriving DecidableEq, Repr

namespace ViewAxis

/-- The words for the axes of the view. -/
def vocabulary : Text.Vocabulary ViewAxis :=
  [("yaw", .yaw), ("y", .yaw), ("up", .yaw), ("vertical", .yaw),
   ("pitch", .pitch), ("x", .pitch), ("right", .pitch), ("horizontal", .pitch),
   ("roll", .roll), ("z", .roll), ("forward", .roll)]

/-- The axis that a word means, up when there is no word. -/
def parse (word : Option String) : Outcome α ViewAxis :=
  match word with
  | none => .ok .yaw
  | some word =>
    let key := Text.lower (Text.trim word.toList)
    match vocabulary.find? key with
    | some axis => .ok axis
    | none => .error (.invalid "axis" (.unknownViewAxis (String.ofList key)))

/-- The directions of a turn about an axis. -/
def heading : ViewAxis → Heading
  | .pitch => ⟨[.up], [.down]⟩
  | .yaw | .roll => ⟨[.right, .counterClockwise], [.left, .clockwise]⟩

end ViewAxis

/-- The part of a turn up or down that keeps the elevation of the view within `±limit`.  The right
axis is horizontal, so a turn about it adds to the elevation. -/
def clampPitch (forward : Vec α) (angle limit : α) : α :=
  let current := forward.elevation
  Scalar.clamp (current + angle) (-limit) limit - current

/-- The view turned about an axis of the camera by an angle in radians. -/
def turned (axis : ViewAxis) (frame : Frame α) (view : Vec α) (angle limit : α) : Vec α :=
  match axis with
  | .pitch => view.rotate frame.right (clampPitch frame.forward angle limit)
  | .yaw | .roll => view.rotate frame.up angle

/-- Carries out a turn about an axis.  A camera on its target stays as it is. -/
def about (turn : Turn α) (axis : ViewAxis) (stage : Stage α) (pose : Pose α) :
    Outcome α (Take α) := do
  let heading := axis.heading
  let eps := stage.settings.epsilon
  let direction ← heading.direction? turn.direction
  let degrees ← signedAngle heading direction turn.angle turn.angleDescriptor
  match Frame.ofView pose.position pose.target eps with
  | none => .ok (stage.still pose)
  | some frame =>
    if Scalar.abs degrees < eps then .ok (stage.still pose)
    else
      let limit := Scalar.radians stage.settings.pitchLimit
      let view := turned axis frame pose.view (Scalar.radians degrees) limit
      .ok (stage.reach ⟨pose.position, pose.position + view⟩ turn.easing turn.speed)

/-- Carries out a pan. -/
def pan (turn : Turn α) (stage : Stage α) (pose : Pose α) : Outcome α (Take α) :=
  turn.about .yaw stage pose

/-- The place that a name stands for, refused where the camera is. -/
def lookable (stage : Stage α) (pose : Pose α) (name : String) : Outcome α (Vec α) := do
  let target ← stage.locate pose name
  if (target - pose.position).norm < stage.settings.epsilon then
    .error (.invalid "target" (.atCamera name))
  else .ok target

/-- Carries out a tilt: straight to a named place if there is one, else by an angle. -/
def tilt (turn : Turn α) (stage : Stage α) (pose : Pose α) : Outcome α (Take α) :=
  match turn.target with
  | some name => do
    let target ← lookable stage pose name
    .ok (stage.reach ⟨pose.position, target⟩ turn.easing turn.speed)
  | none => turn.about .pitch stage pose

/-- Carries out a turn about a chosen axis. -/
def rotate (turn : Turn α) (stage : Stage α) (pose : Pose α) : Outcome α (Take α) := do
  match ← ViewAxis.parse turn.axis with
  | .roll => .ok ((stage.still pose).noting .roll)
  | axis => turn.about axis stage pose

end Turn

end Cinematics
