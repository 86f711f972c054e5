import Cinematics.Move.Dolly
import Cinematics.Move.Orbit
import Cinematics.Move.Relocation
import Cinematics.Move.Slide
import Cinematics.Move.Turn
import Cinematics.Move.Zoom

/-!
# Carrying out a move

`Move.perform` carries out any of the moves, and `Move.attempt` takes back what came out unsound: a
keyframe that is not finite, or one that takes less than no time.

An orbit makes room for all its keyframes before it starts.  There is a limit to the room that can
be asked for at once, whatever memory there is, and beyond it the program breaks off.
`Move.hasRoom` says that a move does not get there.
-/

namespace Cinematics

variable {α : Type} [Scalar α]

/-- Whether all of a take is finite and no keyframe takes less than no time. -/
def Take.isSound (take : Take α) : Bool :=
  take.pose.isFinite && take.keyframes.all (·.isSound)

namespace Move

/-- Carries out a move. -/
def perform (move : Move α) (stage : Stage α) (pose : Pose α) : Outcome α (Take α) :=
  match move with
  | .hold _ => .ok (stage.still pose)
  | .zoom request => request.perform stage pose
  | .orbit request => request.perform stage pose
  | .pan request => request.pan stage pose
  | .tilt request => request.tilt stage pose
  | .dolly request => request.perform stage pose
  | .truck request => request.truck stage pose
  | .pedestal request => request.pedestal stage pose
  | .moveTo request => request.perform stage pose
  | .focusOn request => request.perform stage pose
  | .rotate request => request.rotate stage pose

/-- Carries out a move and refuses an unsound take. -/
def attempt (move : Move α) (stage : Stage α) (pose : Pose α) : Outcome α (Take α) := do
  let take ← move.perform stage pose
  if take.isSound then .ok take
  else .error (.invalid "parameters" .unsoundKeyframe)

/-- How many keyframes a move makes room for before it starts. -/
def reserved (move : Move α) (stage : Stage α) (pose : Pose α) : Nat :=
  match move with
  | .orbit request =>
    match request.way stage pose with
    | .ok way => way.reserved
    | .error _ => 0
  | _ => 0

/-- Whether a move does not ask for more room than can be asked for: keyframes of 64 bytes (two
vectors, the seconds and the easing, aligned) in at most `2 ^ 63 - 1` bytes. -/
def hasRoom (move : Move α) (stage : Stage α) (pose : Pose α) : Bool :=
  move.reserved stage pose * 64 ≤ 0x7FFFFFFFFFFFFFFF

end Move

end Cinematics
