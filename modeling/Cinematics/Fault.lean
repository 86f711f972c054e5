import Cinematics.Decimal.Spelling
import Cinematics.Direction
import Cinematics.Settings

/-!
# What can go wrong

A `Fault` is the reason why something cannot be carried out, be it one step or a whole plan.  It is
a cause; its wording is made here, from the eight kinds of `FaultKind`, each with its own heading.
The kind decides what becomes of a step at fault: it is skipped, and the camera stays where it is,
or nothing more is carried out at all.
-/

namespace Cinematics

/-- The kinds of faults, as messages tell them apart. -/
inductive FaultKind where
  /-- A plan that cannot be carried out. -/
  | invalidPlan
  /-- A starting pose that cannot be used. -/
  | invalidInput
  /-- Settings out of range. -/
  | invalidSettings
  /-- A parameter that a step needs and does not have. -/
  | missingParameter
  /-- A parameter that a step cannot use. -/
  | invalidParameter
  /-- A name that stands for no place. -/
  | unresolvedTarget
  /-- A request that has no meaning for the camera. -/
  | unsupported
  /-- A text that is not a plan. -/
  | unreadable
  deriving DecidableEq, Repr

namespace FaultKind

/-- Whether the step at fault can be skipped and the rest carried out. -/
def isRecoverable : FaultKind → Bool
  | .missingParameter | .invalidParameter | .unresolvedTarget | .unsupported => true
  | .invalidPlan | .invalidInput | .invalidSettings | .unreadable => false

/-- The message of a fault of this kind, about a parameter if the kind is about one. -/
def message (kind : FaultKind) (parameter detail : String) : String :=
  match kind with
  | .invalidPlan => s!"Invalid plan: {detail}"
  | .invalidInput => s!"Invalid input: {detail}"
  | .invalidSettings => s!"Invalid configuration: {detail}"
  | .missingParameter => s!"Missing parameter `{parameter}`"
  | .invalidParameter => s!"Invalid parameter `{parameter}`: {detail}"
  | .unresolvedTarget => s!"Unresolved target: {detail}"
  | .unsupported => s!"Unsupported: {detail}"
  | .unreadable => s!"Parse error: {detail}"

end FaultKind

/-- What is wrong with a parameter. -/
inductive Reason (α : Type) where
  /-- A number that has to be positive. -/
  | notPositive (given : α)
  /-- A number that has to be finite. -/
  | notFinite
  /-- A word that names no direction. -/
  | unknownDirection (word : String) (expected : List Direction)
  /-- A direction that the move cannot take. -/
  | unfitDirection (word : String) (expected : List Direction)
  /-- A word that names no amount. -/
  | unknownAmount (word : String)
  /-- An orbit beyond the limit. -/
  | beyondLimit (degrees limit : α)
  /-- A word that names no axis of an orbit. -/
  | unknownOrbitAxis (key : String)
  /-- A word that names no axis of the view. -/
  | unknownViewAxis (key : String)
  /-- A name for the very place of the camera. -/
  | atCamera (name : String)
  /-- A move that would put the camera on its target. -/
  | endsOnTarget
  /-- A move with a keyframe that is no keyframe. -/
  | unsoundKeyframe
  deriving DecidableEq, Repr

namespace Reason

variable {α : Type} [Spelled α]

/-- The wording of a reason. -/
def text : Reason α → String
  | .notPositive given =>
    let value := Spelled.spell given
    s!"must be a positive number, got {value}"
  | .notFinite => "must be finite"
  | .unknownDirection word expected =>
    let names := Named.listing expected
    s!"unknown direction `{word}`, expected one of {names}"
  | .unfitDirection word expected =>
    let names := Named.listing expected
    s!"`{word}` is not valid here, expected one of {names}"
  | .unknownAmount word => s!"unknown descriptor `{word}`"
  | .beyondLimit degrees limit =>
    let given := Spelled.spell degrees
    let most := Spelled.spell limit
    s!"{given}° exceeds the {most}° orbit limit"
  | .unknownOrbitAxis key => s!"unknown orbit axis `{key}`, expected x, y, z or camera_up"
  | .unknownViewAxis key => s!"unknown rotate axis `{key}`, expected yaw, pitch or roll"
  | .atCamera name => s!"`{name}` coincides with the camera position"
  | .endsOnTarget => "camera would end up on its own look-at point"
  | .unsoundKeyframe => "step produced a non-finite or negative keyframe"

end Reason

/-- Requests that have no meaning for the camera. -/
inductive Unsupported where
  /-- A turn about the line of sight. -/
  | roll
  /-- A distance chosen to fit the subject. -/
  | framing
  deriving DecidableEq, Repr

/-- The name of an unsupported request. -/
def Unsupported.text : Unsupported → String
  | .roll => "roll axis"
  | .framing => "adjust_framing"

/-- The message about an unsupported request. -/
def Unsupported.message (u : Unsupported) : String :=
  FaultKind.unsupported.message "" u.text

/-- Why something cannot be carried out. -/
inductive Fault (α : Type) where
  /-- The plan has no steps. -/
  | emptyPlan
  /-- The requested duration is not a positive number. -/
  | badDuration (requested : α)
  /-- The starting pose is not finite. -/
  | poseNotFinite
  /-- A setting is out of its range. -/
  | outOfRange (setting : Setting)
  /-- A parameter is missing. -/
  | missing (parameter : String)
  /-- A parameter cannot be used. -/
  | invalid (parameter : String) (reason : Reason α)
  /-- A name stands for no place. -/
  | unresolved (name : String)
  /-- A request has no meaning for the camera. -/
  | unsupported (request : Unsupported)
  /-- The text is not a plan. -/
  | unreadable
  deriving DecidableEq, Repr

/-- A result, or the fault that stands in its way. -/
abbrev Outcome (α β : Type) := Except (Fault α) β

namespace Fault

variable {α : Type}

/-- The kind of a fault. -/
def kind : Fault α → FaultKind
  | .emptyPlan | .badDuration _ => .invalidPlan
  | .poseNotFinite => .invalidInput
  | .outOfRange _ => .invalidSettings
  | .missing _ => .missingParameter
  | .invalid _ _ => .invalidParameter
  | .unresolved _ => .unresolvedTarget
  | .unsupported _ => .unsupported
  | .unreadable => .unreadable

/-- Whether the step at fault can be skipped and the rest carried out. -/
def isRecoverable (fault : Fault α) : Bool := fault.kind.isRecoverable

/-- The parameter that a fault is about, if it is about one. -/
def parameter? : Fault α → Option String
  | .missing parameter | .invalid parameter _ => some parameter
  | .emptyPlan | .badDuration _ | .poseNotFinite | .outOfRange _ | .unresolved _ | .unsupported _
  | .unreadable => none

variable [Spelled α]

/-- The wording of a fault, without its heading. -/
def text : Fault α → String
  | .emptyPlan => "plan has no steps"
  | .badDuration requested =>
    let value := Spelled.spell requested
    s!"requested duration must be positive, got {value}"
  | .poseNotFinite => "initial camera state must be finite"
  | .outOfRange setting => setting.requirement
  | .missing _ => ""
  | .invalid _ reason => reason.text
  | .unresolved name => name
  | .unsupported request => request.text
  | .unreadable => "the text is not a plan"

/-- The message of a fault. -/
def message (fault : Fault α) : String :=
  fault.kind.message (fault.parameter?.getD "") fault.text

end Fault

namespace Settings

variable {α : Type} [Scalar α]

/-- Refuses settings out of range. -/
def check (s : Settings α) : Outcome α Unit :=
  match s.firstFault? with
  | some setting => .error (.outOfRange setting)
  | none => .ok ()

end Settings

end Cinematics
