import Cinematics.Easing
import Cinematics.Vec

/-!
# Poses and keyframes

A `Pose` is where the camera stands and what it looks at; a `Keyframe` is a pose with the time and
the easing of the way to it.
-/

namespace Cinematics

/-- Where the camera stands and what it looks at. -/
@[ext] structure Pose (α : Type) where
  /-- Where the camera stands. -/
  position : Vec α
  /-- The point it looks at. -/
  target : Vec α
  deriving DecidableEq, Repr

namespace Pose

variable {α : Type} [Scalar α]

/-- The way from the camera to its target. -/
def view (p : Pose α) : Vec α := p.target - p.position

/-- The distance from the camera to its target. -/
def distance (p : Pose α) : α := p.view.norm

/-- Whether all coordinates are ordinary numbers. -/
def isFinite (p : Pose α) : Bool := p.position.isFinite && p.target.isFinite

end Pose

/-- A pose, and how the camera gets there. -/
@[ext] structure Keyframe (α : Type) where
  /-- The pose at the end. -/
  pose : Pose α
  /-- The seconds it takes. -/
  duration : α
  /-- The curve it follows in time. -/
  easing : Easing
  deriving DecidableEq, Repr

namespace Keyframe

variable {α : Type} [Scalar α]

/-- Whether the pose is finite and the duration is finite and not negative. -/
def isSound (k : Keyframe α) : Bool :=
  k.pose.isFinite && Scalar.isFinite k.duration && 0 ≤ k.duration

/-- The sum of the durations. -/
def totalDuration (ks : List (Keyframe α)) : α :=
  Scalar.sum (ks.map (·.duration))

/-- The lengths of the straight ways from `start` through the positions of the keyframes. -/
def segmentLengths (start : Vec α) : List (Keyframe α) → List α
  | [] => []
  | k :: ks => (k.pose.position - start).norm :: segmentLengths k.pose.position ks

/-- The length of the way from `start` through the positions of the keyframes. -/
def pathLength (start : Vec α) (ks : List (Keyframe α)) : α :=
  Scalar.sum (segmentLengths start ks)

end Keyframe

end Cinematics
