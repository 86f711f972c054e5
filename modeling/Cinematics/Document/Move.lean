import Cinematics.Document.Fields
import Cinematics.Move
import Cinematics.Text.Blank

/-!
# Moves in JSON

A move is written as its type and its parameters.  Numbers among the parameters are read leniently:
a text that spells a number will do, with degree signs behind it or without, and what spells none
counts as absent, so that one bad number costs one step and not the plan.
-/

namespace Cinematics

/-- The scalar that a text spells, if it does. -/
def Numeric.ofText? {α : Type} [Numeric α] (s : String) : Option α :=
  let bare := Text.trimEnd (Text.dropEndWhile (· = '°') (Text.trim s.toList))
  (Literal.parse? bare).map Numeric.ofLiteral

/-- Reads a number leniently: the outer option tells a value that can be read from one that cannot,
and the inner one a number from none. -/
def Json.lenient? {α : Type} [Scalar α] [Numeric α] : Json → Option (Option α)
  | .number n => (Numeric.read? n).map some
  | .string s => s.map Numeric.ofText?
  | .bool _ => some none
  | .null => some none
  | .array _ => none
  | .object _ => none

namespace Fields

/-- A text that may be absent. -/
def word (f : Fields) (name : String) : Option (Option String) :=
  f.optional name Json.text?

/-- A number that may be absent, read leniently. -/
def number {α : Type} [Scalar α] [Numeric α] (f : Fields) (name : String) : Option (Option α) :=
  f.getD name none Json.lenient?

end Fields

namespace Json

/-- A text, or `null`. -/
def ofWord : Option String → Json := .ofOption .text

/-- A number, or `null`. -/
def ofNumber {α : Type} [Scalar α] [Numeric α] : Option α → Json := .ofOption .ofScalar

end Json

open Json (ofWord ofNumber)

/-- Reads a request to keep still. -/
def Hold.ofJson? (j : Json) : Option Hold := do
  let f ← j.fields? ["speed"]
  let speed ← f.word "speed"
  some { speed }

/-- Writes a request to keep still. -/
def Hold.toJson (r : Hold) : Json :=
  .ofMembers [("speed", ofWord r.speed)]

/-- Reads a request to go to a named place. -/
def Relocation.ofJson? (j : Json) : Option Relocation := do
  let f ← j.fields? ["target", "look_at", "distance_descriptor", "speed", "easing"]
  let target ← f.word "target"
  let lookAt ← f.word "look_at"
  let distanceDescriptor ← f.word "distance_descriptor"
  let speed ← f.word "speed"
  let easing ← f.word "easing"
  some { target, lookAt, distanceDescriptor, speed, easing }

/-- Writes a request to go to a named place. -/
def Relocation.toJson (r : Relocation) : Json :=
  .ofMembers [("target", ofWord r.target), ("look_at", ofWord r.lookAt),
    ("distance_descriptor", ofWord r.distanceDescriptor), ("speed", ofWord r.speed),
    ("easing", ofWord r.easing)]

/-- Reads a request to look at a named place. -/
def Refocus.ofJson? (j : Json) : Option Refocus := do
  let f ← j.fields? ["target", "adjust_framing", "speed", "easing"]
  let target ← f.word "target"
  let adjustFraming ← f.optional "adjust_framing" Json.bool?
  let speed ← f.word "speed"
  let easing ← f.word "easing"
  some { target, adjustFraming, speed, easing }

/-- Writes a request to look at a named place. -/
def Refocus.toJson (r : Refocus) : Json :=
  .ofMembers [("target", ofWord r.target), ("adjust_framing", .ofOption .bool r.adjustFraming),
    ("speed", ofWord r.speed), ("easing", ofWord r.easing)]

variable {α : Type} [Scalar α] [Numeric α]

/-- Reads a request to scale the distance. -/
def Zoom.ofJson? (j : Json) : Option (Zoom α) := do
  let f ← j.fields?
    ["direction", "factor", "factor_descriptor", "target_distance_descriptor", "speed", "easing"]
  let direction ← f.word "direction"
  let factor ← f.number "factor"
  let factorDescriptor ← f.word "factor_descriptor"
  let targetDistanceDescriptor ← f.word "target_distance_descriptor"
  let speed ← f.word "speed"
  let easing ← f.word "easing"
  some { direction, factor, factorDescriptor, targetDistanceDescriptor, speed, easing }

/-- Writes a request to scale the distance. -/
def Zoom.toJson (r : Zoom α) : Json :=
  .ofMembers [("direction", ofWord r.direction), ("factor", ofNumber r.factor),
    ("factor_descriptor", ofWord r.factorDescriptor),
    ("target_distance_descriptor", ofWord r.targetDistanceDescriptor), ("speed", ofWord r.speed),
    ("easing", ofWord r.easing)]

/-- Reads a request to go along the line of sight. -/
def Dolly.ofJson? (j : Json) : Option (Dolly α) := do
  let f ← j.fields?
    ["direction", "distance", "distance_descriptor", "destination_target",
      "target_distance_descriptor", "speed", "easing"]
  let direction ← f.word "direction"
  let distance ← f.number "distance"
  let distanceDescriptor ← f.word "distance_descriptor"
  let destinationTarget ← f.word "destination_target"
  let targetDistanceDescriptor ← f.word "target_distance_descriptor"
  let speed ← f.word "speed"
  let easing ← f.word "easing"
  some
    { direction, distance, distanceDescriptor, destinationTarget, targetDistanceDescriptor, speed,
      easing }

/-- Writes a request to go along the line of sight. -/
def Dolly.toJson (r : Dolly α) : Json :=
  .ofMembers [("direction", ofWord r.direction), ("distance", ofNumber r.distance),
    ("distance_descriptor", ofWord r.distanceDescriptor),
    ("destination_target", ofWord r.destinationTarget),
    ("target_distance_descriptor", ofWord r.targetDistanceDescriptor), ("speed", ofWord r.speed),
    ("easing", ofWord r.easing)]

/-- Reads a request to go sideways, up or down. -/
def Slide.ofJson? (j : Json) : Option (Slide α) := do
  let f ← j.fields?
    ["direction", "distance", "distance_descriptor", "destination_target", "speed", "easing"]
  let direction ← f.word "direction"
  let distance ← f.number "distance"
  let distanceDescriptor ← f.word "distance_descriptor"
  let destinationTarget ← f.word "destination_target"
  let speed ← f.word "speed"
  let easing ← f.word "easing"
  some { direction, distance, distanceDescriptor, destinationTarget, speed, easing }

/-- Writes a request to go sideways, up or down. -/
def Slide.toJson (r : Slide α) : Json :=
  .ofMembers [("direction", ofWord r.direction), ("distance", ofNumber r.distance),
    ("distance_descriptor", ofWord r.distanceDescriptor),
    ("destination_target", ofWord r.destinationTarget), ("speed", ofWord r.speed),
    ("easing", ofWord r.easing)]

/-- Reads a request to go around a center. -/
def Orbit.ofJson? (j : Json) : Option (Orbit α) := do
  let f ← j.fields?
    ["direction", "angle", "angle_descriptor", "axis", "target", "radius_factor", "speed", "easing"]
  let direction ← f.word "direction"
  let angle ← f.number "angle"
  let angleDescriptor ← f.word "angle_descriptor"
  let axis ← f.word "axis"
  let target ← f.word "target"
  let radiusFactor ← f.number "radius_factor"
  let speed ← f.word "speed"
  let easing ← f.word "easing"
  some { direction, angle, angleDescriptor, axis, target, radiusFactor, speed, easing }

/-- Writes a request to go around a center. -/
def Orbit.toJson (r : Orbit α) : Json :=
  .ofMembers [("direction", ofWord r.direction), ("angle", ofNumber r.angle),
    ("angle_descriptor", ofWord r.angleDescriptor), ("axis", ofWord r.axis),
    ("target", ofWord r.target), ("radius_factor", ofNumber r.radiusFactor),
    ("speed", ofWord r.speed), ("easing", ofWord r.easing)]

/-- Reads a request to turn the view. -/
def Turn.ofJson? (j : Json) : Option (Turn α) := do
  let f ← j.fields?
    ["direction", "angle", "angle_descriptor", "axis", "target", "speed", "easing"]
  let direction ← f.word "direction"
  let angle ← f.number "angle"
  let angleDescriptor ← f.word "angle_descriptor"
  let axis ← f.word "axis"
  let target ← f.word "target"
  let speed ← f.word "speed"
  let easing ← f.word "easing"
  some { direction, angle, angleDescriptor, axis, target, speed, easing }

/-- Writes a request to turn the view. -/
def Turn.toJson (r : Turn α) : Json :=
  .ofMembers [("direction", ofWord r.direction), ("angle", ofNumber r.angle),
    ("angle_descriptor", ofWord r.angleDescriptor), ("axis", ofWord r.axis),
    ("target", ofWord r.target), ("speed", ofWord r.speed), ("easing", ofWord r.easing)]

namespace Move

/-- Reads the parameters of a move of a given kind. -/
def ofParameters? (kind : MoveKind) (parameters : Json) : Option (Move α) :=
  match kind with
  | .hold => (Hold.ofJson? parameters).map .hold
  | .zoom => (Zoom.ofJson? parameters).map .zoom
  | .orbit => (Orbit.ofJson? parameters).map .orbit
  | .pan => (Turn.ofJson? parameters).map .pan
  | .tilt => (Turn.ofJson? parameters).map .tilt
  | .dolly => (Dolly.ofJson? parameters).map .dolly
  | .truck => (Slide.ofJson? parameters).map .truck
  | .pedestal => (Slide.ofJson? parameters).map .pedestal
  | .moveTo => (Relocation.ofJson? parameters).map .moveTo
  | .focusOn => (Refocus.ofJson? parameters).map .focusOn
  | .rotate => (Turn.ofJson? parameters).map .rotate

/-- Writes the parameters of a move. -/
def parameters : Move α → Json
  | .hold r => r.toJson
  | .zoom r => r.toJson
  | .orbit r => r.toJson
  | .pan r => r.toJson
  | .tilt r => r.toJson
  | .dolly r => r.toJson
  | .truck r => r.toJson
  | .pedestal r => r.toJson
  | .moveTo r => r.toJson
  | .focusOn r => r.toJson
  | .rotate r => r.toJson

/-- The members of a move. -/
def members (m : Move α) : List (String × Json) :=
  [("type", .ofNamed m.kind), ("parameters", m.parameters)]

/-- Writes a move. -/
def toJson (m : Move α) : Json := .ofMembers m.members

/-- How many arrays and objects may be open at once where a value has to be kept until its meaning
is known. -/
def depthLimit : Nat := 127

/-- Whether a value can be kept until its meaning is known, where `enclosing` arrays and objects are
open. -/
def isKeepable (α : Type) [Scalar α] [Numeric α] (enclosing : Nat) (v : Json) : Bool :=
  enclosing + v.depth ≤ depthLimit && v.allMeaningful fun n => (Numeric.read? n : Option α).isSome

/-- Whether parameters stand in front of the type that they belong to. -/
def isTypeLast (members : List (Option String × Json)) : Bool :=
  (members.find? fun m => m.1 = some "type" || m.1 = some "parameters").any
    fun m => m.1 = some "parameters"

/-- Reads a move on its own: an array of type and parameters, or an object.  In an array the type
can only be a bare name.  Parameters that stand in front of the type have to be kept until the type
is known. -/
def ofJson? : Json → Option (Move α)
  | .array [type, parameters] => type.bareNamed?.bind fun kind => ofParameters? kind parameters
  | .object members => do
    let f ← (Json.object members).fields? ["type", "parameters"]
    let kind ← f.need "type" Json.named?
    let parameters ← f.get? "parameters"
    if isTypeLast members && !isKeepable α 1 parameters then none
    else ofParameters? kind parameters
  | _ => none

end Move

end Cinematics
