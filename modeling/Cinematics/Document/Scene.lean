import Cinematics.Document.Fields
import Cinematics.Scene

/-!
# Scenes, poses and keyframes in JSON

A vector is an array of three numbers.  A scene and its surroundings may leave out any field;
everything else has to be complete, apart from the description of a feature.
-/

namespace Cinematics

open Json (scalar? ofScalar)

variable {α : Type} [Scalar α] [Numeric α]

/-- Reads a vector. -/
def Vec.ofJson? : Json → Option (Vec α)
  | .array [x, y, z] => do
    let x ← scalar? x
    let y ← scalar? y
    let z ← scalar? z
    some ⟨x, y, z⟩
  | _ => none

/-- Writes a vector. -/
def Vec.toJson (v : Vec α) : Json :=
  .array [ofScalar v.x, ofScalar v.y, ofScalar v.z]

/-- Reads a box as it is given, whatever the order of its corners. -/
def Box.ofJson? (j : Json) : Option (Box α) := do
  let f ← j.fields? ["min", "max", "center"]
  let low ← f.need "min" Vec.ofJson?
  let high ← f.need "max" Vec.ofJson?
  let center ← f.need "center" Vec.ofJson?
  some ⟨low, high, center⟩

/-- Writes a box. -/
def Box.toJson (b : Box α) : Json :=
  .ofMembers [("min", b.low.toJson), ("max", b.high.toJson), ("center", b.center.toJson)]

/-- Reads a feature. -/
def Feature.ofJson? (j : Json) : Option (Feature α) := do
  let f ← j.fields? ["id", "description", "position"]
  let id ← f.need "id" Json.text?
  let description ← f.getD "description" "" Json.text?
  let position ← f.need "position" Vec.ofJson?
  some ⟨id, description, position⟩

/-- Writes a feature. -/
def Feature.toJson (p : Feature α) : Json :=
  .ofMembers [("id", .text p.id), ("description", .text p.description),
    ("position", p.position.toJson)]

/-- Reads a scene. -/
def Scene.ofJson? (j : Json) : Option (Scene α) := do
  let f ← j.fields? ["bounds", "features"]
  let bounds ← f.optional "bounds" Box.ofJson?
  let features ← f.getD "features" [] (Json.list? Feature.ofJson?)
  some ⟨bounds, features⟩

/-- Writes a scene. -/
def Scene.toJson (s : Scene α) : Json :=
  .ofMembers [("bounds", .ofOption Box.toJson s.bounds),
    ("features", .array (s.features.map Feature.toJson))]

/-- Reads an envelope. -/
def Envelope.ofJson? (j : Json) : Option (Envelope α) := do
  let f ← j.fields? ["minDistance", "maxDistance", "minHeight", "maxHeight"]
  let minDistance ← f.need "minDistance" scalar?
  let maxDistance ← f.need "maxDistance" scalar?
  let minHeight ← f.need "minHeight" scalar?
  let maxHeight ← f.need "maxHeight" scalar?
  some ⟨minDistance, maxDistance, minHeight, maxHeight⟩

/-- Writes an envelope. -/
def Envelope.toJson (e : Envelope α) : Json :=
  .ofMembers [("minDistance", ofScalar e.minDistance), ("maxDistance", ofScalar e.maxDistance),
    ("minHeight", ofScalar e.minHeight), ("maxHeight", ofScalar e.maxHeight)]

/-- Reads surroundings. -/
def Surroundings.ofJson? (j : Json) : Option (Surroundings α) := do
  let f ← j.fields? ["cameraConstraints", "userVerticalAdjustment"]
  let envelope ← f.optional "cameraConstraints" Envelope.ofJson?
  let lift ← f.getD "userVerticalAdjustment" 0 scalar?
  some ⟨envelope, lift⟩

/-- Writes surroundings. -/
def Surroundings.toJson (s : Surroundings α) : Json :=
  .ofMembers [("cameraConstraints", .ofOption Envelope.toJson s.envelope),
    ("userVerticalAdjustment", ofScalar s.lift)]

/-- Reads a pose. -/
def Pose.ofJson? (j : Json) : Option (Pose α) := do
  let f ← j.fields? ["position", "target"]
  let position ← f.need "position" Vec.ofJson?
  let target ← f.need "target" Vec.ofJson?
  some ⟨position, target⟩

/-- Writes a pose. -/
def Pose.toJson (p : Pose α) : Json :=
  .ofMembers [("position", p.position.toJson), ("target", p.target.toJson)]

/-- Reads a keyframe. -/
def Keyframe.ofJson? (j : Json) : Option (Keyframe α) := do
  let f ← j.fields? ["position", "target", "duration", "easing"]
  let position ← f.need "position" Vec.ofJson?
  let target ← f.need "target" Vec.ofJson?
  let duration ← f.need "duration" scalar?
  let easing ← f.need "easing" Json.named?
  some ⟨⟨position, target⟩, duration, easing⟩

/-- Writes a keyframe. -/
def Keyframe.toJson (k : Keyframe α) : Json :=
  .ofMembers [("position", k.pose.position.toJson), ("target", k.pose.target.toJson),
    ("duration", ofScalar k.duration), ("easing", .ofNamed k.easing)]

end Cinematics
