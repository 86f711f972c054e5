import Cinematics.Move.Perform
import Cinematics.Schedule

/-!
# Interpreting a plan

The steps of a plan are carried out in order, each from the pose that the one before it ended in.  A
step at fault is skipped and leaves a diagnostic, if its fault is of a kind that can be skipped; any
other fault would end the run.

`Plan.interpret` is what comes of a plan when there is room for all keyframes.  A program has to ask
for this room, and can ask for too much: `Plan.interpret?` is nothing at all then.
-/

namespace Cinematics

/-- What a diagnostic is about. -/
inductive DiagnosticKind where
  /-- The step gave no keyframes. -/
  | skipped
  /-- Part of the step's request had no effect. -/
  | unsupported
  deriving DecidableEq, Repr

instance : Named DiagnosticKind where
  all := [.skipped, .unsupported]
  name
    | .skipped => "skipped"
    | .unsupported => "unsupported"

/-- A remark about one step. -/
structure Diagnostic where
  /-- The number of the step, from zero. -/
  step : Nat
  /-- The kind of its move. -/
  move : MoveKind
  /-- What the remark is about. -/
  kind : DiagnosticKind
  /-- The remark. -/
  message : String
  deriving DecidableEq, Repr

namespace Diagnostic

/-- The remark with the step that it is about. -/
def text (d : Diagnostic) : String :=
  let move := Named.name d.move
  let skipped :=
    match d.kind with
    | .skipped => " skipped"
    | .unsupported => ""
  s!"step {d.step} ({move}){skipped}: {d.message}"

end Diagnostic

/-- What comes of a plan. -/
structure Interpretation (α : Type) where
  /-- The keyframes of all steps in order. -/
  keyframes : List (Keyframe α)
  /-- The pose after the last step. -/
  finalPose : Pose α
  /-- The seconds given to each step. -/
  stepDurations : List α
  /-- Remarks about steps, in the order of the steps. -/
  diagnostics : List Diagnostic
  deriving DecidableEq, Repr

namespace Interpretation

variable {α : Type}

/-- The numbers of the steps that gave no keyframes. -/
def skippedSteps (i : Interpretation α) : List Nat :=
  (i.diagnostics.filter (·.kind = .skipped)).map (·.step)

end Interpretation

variable {α : Type} [Scalar α] [Spelled α]

/-- What a run of steps has come to. -/
structure Progress (α : Type) where
  /-- The pose reached. -/
  pose : Pose α
  /-- The keyframes so far. -/
  keyframes : List (Keyframe α)
  /-- The remarks so far. -/
  diagnostics : List Diagnostic

namespace Progress

/-- Nothing done yet. -/
def start (pose : Pose α) : Progress α := ⟨pose, [], []⟩

/-- The progress after a step with a given outcome, unless its fault ends the run. -/
def record (p : Progress α) (step : Nat) (move : MoveKind) (outcome : Outcome α (Take α)) :
    Outcome α (Progress α) :=
  match outcome with
  | .ok take =>
    .ok
      { pose := take.pose
        keyframes := p.keyframes ++ take.keyframes
        diagnostics :=
          p.diagnostics ++ take.unsupported.map fun u => ⟨step, move, .unsupported, u.message⟩ }
  | .error fault =>
    if fault.isRecoverable then
      .ok { p with diagnostics := p.diagnostics ++ [⟨step, move, .skipped, fault.message⟩] }
    else .error fault

/-- Carries out one move. -/
def advance (p : Progress α) (stage : Stage α) (step : Nat) (move : Move α) :
    Outcome α (Progress α) :=
  p.record step move.kind (move.attempt stage p.pose)

end Progress

namespace Plan

/-- Carries out timed steps in order, numbered from `first`. -/
def run (scene : Scene α) (around : Surroundings α) (settings : Settings α) :
    (first : Nat) → (steps : List (Step α × α)) → Progress α → Outcome α (Progress α)
  | _, [], p => .ok p
  | n, (step, duration) :: rest, p => do
    let p ← p.advance ⟨scene, around, settings, duration⟩ n step.move
    run scene around settings (n + 1) rest p

/-- Carries out a plan from a pose, unless the pose, the settings or the plan make that
impossible. -/
def interpret (plan : Plan α) (scene : Scene α) (around : Surroundings α) (settings : Settings α)
    (initial : Pose α) : Outcome α (Interpretation α) :=
  if initial.isFinite then do
    let durations ← plan.schedule settings
    let p ← run scene around settings 0 (plan.steps.zip durations) (.start initial)
    .ok ⟨p.keyframes, p.pose, durations, p.diagnostics⟩
  else .error .poseNotFinite

/-- Carries out timed steps like `run`, and breaks off before a move that has no room. -/
def run? (scene : Scene α) (around : Surroundings α) (settings : Settings α) :
    (first : Nat) → (steps : List (Step α × α)) → Progress α → Option (Outcome α (Progress α))
  | _, [], p => some (.ok p)
  | n, (step, duration) :: rest, p =>
    let stage : Stage α := ⟨scene, around, settings, duration⟩
    if step.move.hasRoom stage p.pose then
      match p.advance stage n step.move with
      | .ok p => run? scene around settings (n + 1) rest p
      | .error fault => some (.error fault)
    else none

/-- Carries out a plan like `interpret`, with `none` for a program that breaks off. -/
def interpret? (plan : Plan α) (scene : Scene α) (around : Surroundings α) (settings : Settings α)
    (initial : Pose α) : Option (Outcome α (Interpretation α)) :=
  if initial.isFinite then
    match plan.schedule settings with
    | .ok durations => do
      let outcome ← run? scene around settings 0 (plan.steps.zip durations) (.start initial)
      some (outcome.map fun p => ⟨p.keyframes, p.pose, durations, p.diagnostics⟩)
    | .error fault => some (.error fault)
  else some (.error .poseNotFinite)

end Plan

end Cinematics
