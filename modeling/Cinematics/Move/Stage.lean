import Cinematics.Amount
import Cinematics.Fault
import Cinematics.Landmark
import Cinematics.Move
import Cinematics.Placement
import Cinematics.Pose

/-!
# The stage of a move and what comes of it

A `Stage` is all that a move may read beside its request and the pose it starts from, and a `Take`
is what it gives.  This module also settles the parameters that several moves share: directions,
angles, distances and easings.  An explicit number comes before a descriptor, and a descriptor
before a destination; what comes later is not even looked at.
-/

namespace Cinematics

/-- What a move may read. -/
structure Stage (α : Type) where
  /-- The subject. -/
  scene : Scene α
  /-- What the user adds. -/
  around : Surroundings α
  /-- The settings. -/
  settings : Settings α
  /-- The seconds for the move. -/
  duration : α

/-- What comes of a move. -/
structure Take (α : Type) where
  /-- The keyframes in order. -/
  keyframes : List (Keyframe α)
  /-- The pose at the end. -/
  pose : Pose α
  /-- Requests that had no effect. -/
  unsupported : List Unsupported
  deriving DecidableEq, Repr

variable {α : Type}

namespace Take

/-- One keyframe. -/
def single (pose : Pose α) (duration : α) (easing : Easing) : Take α :=
  ⟨[⟨pose, duration, easing⟩], pose, []⟩

/-- The same pose all the time. -/
def still (pose : Pose α) (duration : α) : Take α :=
  single pose duration .linear

/-- The take with a note of a request that had no effect. -/
def noting (take : Take α) (u : Unsupported) : Take α :=
  { take with unsupported := take.unsupported ++ [u] }

end Take

/-- The amount that a phrase means, if there is a phrase. -/
def amount? (phrase : Option String) (parameter : String) :
    Outcome α (Option Amount) :=
  match phrase with
  | none => .ok none
  | some phrase =>
    match Amount.parse? phrase with
    | some amount => .ok (some amount)
    | none => .error (.invalid parameter (.unknownAmount phrase))

/-- The directions that a move takes. -/
structure Heading where
  /-- Those that count as positive. -/
  positive : List Direction
  /-- Those that count as negative. -/
  negative : List Direction

/-- The directions that a move takes, the positive ones first. -/
def Heading.all (h : Heading) : List Direction := h.positive ++ h.negative

/-- The direction that a word means, if there is a word, among those that a move takes. -/
def Heading.direction? (h : Heading) (word : Option String) :
    Outcome α (Option Direction) :=
  match word with
  | none => .ok none
  | some word =>
    match Direction.parse? word with
    | none => .error (.invalid "direction" (.unknownDirection word h.all))
    | some direction =>
      if h.all.contains direction then .ok (some direction)
      else .error (.invalid "direction" (.unfitDirection word h.all))

/-- A value that a parameter has to give. -/
def required {β : Type} (parameter : String) : Option β → Outcome α β
  | some b => .ok b
  | none => .error (.missing parameter)

variable [Scalar α]

/-- The sign of a direction. -/
def Heading.sign (h : Heading) (direction : Direction) : α :=
  if h.positive.contains direction then 1 else -1

/-- A signed angle in degrees.  A direction gives the sign and takes the size of an explicit angle;
without a direction, an explicit angle keeps its own sign. -/
def signedAngle (h : Heading) (direction : Option Direction) (angle : Option α)
    (descriptor : Option String) : Outcome α α :=
  match angle with
  | some angle =>
    if Scalar.isFinite angle then
      .ok (match direction with
        | some d => h.sign d * Scalar.abs angle
        | none => angle)
    else .error (.invalid "angle" .notFinite)
  | none => do
    let amount ← amount? descriptor "angle_descriptor"
    let amount ← required "angle" amount
    let direction ← required "direction" direction
    .ok (h.sign direction * amount.degrees)

/-- A number that has to be finite and positive. -/
def positive (parameter : String) (x : α) : Outcome α α :=
  if Scalar.isFinite x ∧ 0 < x then .ok x else .error (.invalid parameter (.notPositive x))

/-- The unsigned distance that a move is asked to travel, if it is. -/
def travel? (kind : MoveKind) (scene : Scene α) (pose : Pose α) (distance : Option α)
    (descriptor : Option String) : Outcome α (Option α) :=
  match distance with
  | some distance => (positive "distance" distance).map some
  | none => do
    let amount ← amount? descriptor "distance_descriptor"
    .ok (amount.map fun amount => amount.travel kind scene pose.distance)

namespace Stage

/-- The place that a name stands for, from a pose. -/
def locate (stage : Stage α) (pose : Pose α) (name : String) : Outcome α (Vec α) :=
  match stage.scene.locate stage.around pose.target name with
  | some p => .ok p
  | none => .error (.unresolved name)

/-- Where the camera ends up when it leaves `start` for `candidate`. -/
def place (stage : Stage α) (start candidate anchor : Vec α) : Vec α :=
  stage.scene.place stage.around stage.settings.epsilon start candidate anchor

/-- The easing: by its own name, else by the pace, else the ordinary one.  Unknown words are as good
as none. -/
def easing (stage : Stage α) (easing speed : Option String) : Easing :=
  let nominal := stage.settings.easing
  match easing.bind Easing.parse? with
  | some e => e
  | none =>
    match speed.bind Pace.parse? with
    | some pace => pace.easing nominal
    | none => nominal

/-- The pose all the time. -/
def still (stage : Stage α) (pose : Pose α) : Take α :=
  Take.still pose stage.duration

/-- One keyframe that takes all the time. -/
def reach (stage : Stage α) (pose : Pose α) (easing speed : Option String) : Take α :=
  Take.single pose stage.duration (stage.easing easing speed)

end Stage

end Cinematics
