import Cinematics.Move.Turn

/-!
# Going to a place and looking at one

A relocation takes the camera to a named place, or short of it, on the side it comes from.  At the
pace of a cut it is there almost at once and rests for the remaining time.  A refocus stays and
looks.
-/

namespace Cinematics

variable {α : Type} [Scalar α]

namespace Relocation

/-- What a relocation looks at from its destination: the named place, else the target. -/
def lookingAt (relocation : Relocation) (stage : Stage α) (pose : Pose α) : Outcome α (Vec α) :=
  match relocation.lookAt with
  | some name => stage.locate pose name
  | none => .ok pose.target

/-- Where a relocation leads before it is confined: the destination, or a distance short of it. -/
def candidate (amount : Option Amount) (stage : Stage α) (pose : Pose α) (destination : Vec α) :
    Vec α :=
  match amount with
  | none => destination
  | some amount =>
    let eps := stage.settings.epsilon
    let backward := (-pose.view).normalizeOr (Vec.unit .z) eps
    destination
      + (pose.position - destination).normalizeOr backward eps * amount.framing stage.scene

/-- A cut to a pose, and a rest there for what time remains. -/
def cut (stage : Stage α) (pose : Pose α) : Take α :=
  let cut := Scalar.min stage.settings.cutDuration stage.duration
  let rest := stage.duration - cut
  let resting : List (Keyframe α) :=
    if stage.settings.durationTolerance < rest then [⟨pose, rest, .linear⟩] else []
  ⟨⟨pose, cut, .linear⟩ :: resting, pose, []⟩

/-- Carries out a relocation. -/
def perform (relocation : Relocation) (stage : Stage α) (pose : Pose α) : Outcome α (Take α) := do
  let eps := stage.settings.epsilon
  let name ← required "target" relocation.target
  let destination ← stage.locate pose name
  let target ← relocation.lookingAt stage pose
  let amount ← amount? relocation.distanceDescriptor "distance_descriptor"
  let candidate := candidate amount stage pose destination
  let position := stage.place pose.position candidate target
  if (target - position).norm < eps then .error (.invalid "look_at" .endsOnTarget)
  else if relocation.speed.bind Pace.parse? = some .instant then
    .ok (cut stage ⟨position, target⟩)
  else .ok (stage.reach ⟨position, target⟩ relocation.easing relocation.speed)

end Relocation

namespace Refocus

/-- Carries out a refocus. -/
def perform (refocus : Refocus) (stage : Stage α) (pose : Pose α) : Outcome α (Take α) := do
  let name ← required "target" refocus.target
  let target ← Turn.lookable stage pose name
  let take := stage.reach ⟨pose.position, target⟩ refocus.easing refocus.speed
  .ok (if refocus.adjustFraming = some true then take.noting .framing else take)

end Refocus

end Cinematics
