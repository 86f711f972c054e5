import Cinematics.Document.Plan
import Cinematics.Inspection
import Cinematics.Interpretation

/-!
# Sessions

A session keeps the scene, its surroundings, the settings and the camera between requests, together
with all keyframes so far.  `Session.answer?` is one request and its reply; a plan that is refused
changes nothing, and one that the program breaks off at has no reply.
-/

namespace Cinematics

/-- What is kept between requests. -/
structure Session (α : Type) where
  /-- The subject. -/
  scene : Scene α
  /-- What the user adds. -/
  around : Surroundings α
  /-- The settings, which may be out of range. -/
  settings : Settings α
  /-- Where the camera is. -/
  pose : Pose α
  /-- All keyframes so far. -/
  keyframes : List (Keyframe α)

/-- What a session can be asked for. -/
inductive Request (α : Type) where
  /-- Interpret a plan from its text. -/
  | run (plan : String)
  /-- Replace the box. -/
  | setBounds (bounds : Option (Box α))
  /-- Add a feature. -/
  | addFeature (feature : Feature α)
  /-- Replace the envelope. -/
  | setEnvelope (envelope : Option (Envelope α))
  /-- Replace the lift. -/
  | setLift (lift : α)
  /-- Replace the settings. -/
  | setSettings (settings : Settings α)
  /-- Replace the pose. -/
  | setPose (pose : Pose α)
  /-- Look up a name. -/
  | locate (name : String)
  /-- Inspect all keyframes. -/
  | inspect

/-- What a session replies. -/
inductive Reply (α : Type) where
  /-- A plan was interpreted. -/
  | interpreted (result : Interpretation α)
  /-- A request was refused. -/
  | refused (fault : Fault α)
  /-- The box at the height where it is shown. -/
  | bounds (bounds : Option (Box α))
  /-- How many features there are. -/
  | features (count : Nat)
  /-- Whether the camera is at an admissible place. -/
  | admissible (yes : Bool)
  /-- The arc of one keyframe of an orbit. -/
  | orbitStep (degrees : α)
  /-- Whether the pose is finite. -/
  | finite (yes : Bool)
  /-- The place that a name stands for. -/
  | place (place : Option (Vec α))
  /-- The result of an inspection. -/
  | inspected (report : Report)

/-- Reads a plan from a text and interprets it, with `none` for a program that breaks off. -/
def Plan.interpretText? {α : Type} [Scalar α] [Numeric α] [Spelled α] (text : String)
    (scene : Scene α) (around : Surroundings α) (settings : Settings α) (initial : Pose α) :
    Option (Outcome α (Interpretation α)) :=
  match Plan.ofText? text with
  | some plan => plan.interpret? scene around settings initial
  | none => some (.error .unreadable)

namespace Session

variable {α : Type} [Scalar α] [Numeric α] [Spelled α]

/-- The box at the height where it is shown. -/
def liftedBounds (s : Session α) : Option (Box α) :=
  s.scene.liftedBounds s.around

/-- Answers a request for a plan. -/
def answerPlan (s : Session α) : Outcome α (Interpretation α) → Reply α × Session α
  | .ok result =>
    (.interpreted result,
      { s with pose := result.finalPose, keyframes := s.keyframes ++ result.keyframes })
  | .error fault => (.refused fault, s)

/-- Answers a request, and is the session after it, unless the program breaks off. -/
def answer? (s : Session α) : Request α → Option (Reply α × Session α)
  | .run plan =>
    (Plan.interpretText? plan s.scene s.around s.settings s.pose).map s.answerPlan
  | .setBounds bounds =>
    let s := { s with scene := { s.scene with bounds } }
    some (.bounds s.liftedBounds, s)
  | .addFeature feature =>
    let features := s.scene.features ++ [feature]
    some (.features features.length, { s with scene := { s.scene with features } })
  | .setEnvelope envelope =>
    let s := { s with around := { s.around with envelope } }
    some (.admissible (s.scene.isAdmissible s.around s.pose.position s.pose.target), s)
  | .setLift lift =>
    let s := { s with around := { s.around with lift } }
    some (.bounds s.liftedBounds, s)
  | .setSettings settings =>
    let reply :=
      match settings.check with
      | .ok () => .orbitStep settings.effectiveOrbitStep
      | .error fault => .refused fault
    some (reply, { s with settings })
  | .setPose pose => some (.finite pose.isFinite, { s with pose })
  | .locate name => some (.place (s.scene.locate s.around s.pose.target name), s)
  | .inspect => some (.inspected (s.scene.inspect s.around s.keyframes), s)

end Session

end Cinematics
