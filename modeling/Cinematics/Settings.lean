import Cinematics.Easing

/-!
# Settings

The numbers that tune an interpretation.  `Settings.firstFault?` names the first one out of its
range, in the order in which they are declared.
-/

namespace Cinematics

/-- The numbers that tune an interpretation. -/
structure Settings (α : Type) where
  /-- The length below which a vector has no direction. -/
  epsilon : α
  /-- How far durations may add up to something else than was asked for. -/
  durationTolerance : α
  /-- The arc of one keyframe of an orbit, in degrees. -/
  orbitStep : α
  /-- The greatest arc of an orbit, in degrees. -/
  orbitLimit : α
  /-- The seconds that a cut takes. -/
  cutDuration : α
  /-- The easing where none is asked for. -/
  easing : Easing
  /-- The greatest elevation of the view after a tilt, in degrees. -/
  pitchLimit : α
  /-- The least distance to the target after a dolly. -/
  standoff : α
  deriving DecidableEq, Repr

/-- The settings that have a range. -/
inductive Setting where
  /-- See `Settings.epsilon`. -/
  | epsilon
  /-- See `Settings.durationTolerance`. -/
  | durationTolerance
  /-- See `Settings.orbitStep`. -/
  | orbitStep
  /-- See `Settings.orbitLimit`. -/
  | orbitLimit
  /-- See `Settings.cutDuration`. -/
  | cutDuration
  /-- See `Settings.pitchLimit`. -/
  | pitchLimit
  /-- See `Settings.standoff`. -/
  | standoff
  deriving DecidableEq, Repr

namespace Setting

/-- The settings with a range, in order. -/
def all : List Setting :=
  [.epsilon, .durationTolerance, .orbitStep, .orbitLimit, .cutDuration, .pitchLimit, .standoff]

/-- What a setting has to be. -/
def requirement : Setting → String
  | .epsilon => "epsilon must be positive"
  | .durationTolerance => "duration_tolerance must be positive"
  | .orbitStep => "orbit_step_degrees must be positive"
  | .orbitLimit => "max_orbit_degrees must be positive"
  | .cutDuration => "instant_cut_duration must be non-negative"
  | .pitchLimit => "max_pitch_degrees must be in (0, 90)"
  | .standoff => "min_target_standoff must be non-negative"

end Setting

namespace Settings

variable {α : Type} [Scalar α]

/-- The ordinary settings. -/
def standard : Settings α where
  epsilon := 1e-6
  durationTolerance := 1e-9
  orbitStep := 15.0
  orbitLimit := 3600.0
  cutDuration := 0.01
  easing := .inOutQuad
  pitchLimit := 89.0
  standoff := 0.1

/-- The least arc of one keyframe of an orbit, in degrees. -/
def minOrbitStep : α := 2.0

/-- The greatest arc of one keyframe of an orbit, in degrees. -/
def maxOrbitStep : α := 45.0

/-- Settings for final pictures: dense keyframes and cubic easing. -/
def cinematic : Settings α := { standard with orbitStep := 5.0, easing := .inOutCubic }

/-- Settings for quick looks: sparse keyframes and constant speed. -/
def preview : Settings α := { standard with orbitStep := maxOrbitStep, easing := .linear }

/-- Whether a setting lies in its range. -/
def isMet (s : Settings α) : Setting → Bool
  | .epsilon => 0 < s.epsilon && Scalar.isFinite s.epsilon
  | .durationTolerance => 0 < s.durationTolerance && Scalar.isFinite s.durationTolerance
  | .orbitStep => 0 < s.orbitStep && Scalar.isFinite s.orbitStep
  | .orbitLimit => 0 < s.orbitLimit && Scalar.isFinite s.orbitLimit
  | .cutDuration => 0 ≤ s.cutDuration && Scalar.isFinite s.cutDuration
  | .pitchLimit => 0 < s.pitchLimit && s.pitchLimit < 90.0
  | .standoff => 0 ≤ s.standoff && Scalar.isFinite s.standoff

/-- The first setting out of its range. -/
def firstFault? (s : Settings α) : Option Setting :=
  Setting.all.find? fun setting => !s.isMet setting

/-- The arc of one keyframe of an orbit, within its limits. -/
def effectiveOrbitStep (s : Settings α) : α :=
  Scalar.clamp s.orbitStep minOrbitStep maxOrbitStep

end Settings

end Cinematics
