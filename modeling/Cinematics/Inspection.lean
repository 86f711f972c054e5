import Cinematics.Decimal.Spelling
import Cinematics.Scene

/-!
# Inspecting keyframes

An inspection looks for keyframes that put the camera inside the subject's box.  It trusts nothing:
the keyframes may come from anywhere.  The first violation is reported, and a scene without a box is
valid with a warning.
-/

namespace Cinematics

/-- The result of an inspection. -/
structure Report where
  /-- Whether nothing is wrong. -/
  isValid : Bool
  /-- What is wrong. -/
  errors : List String
  /-- What could not be looked at. -/
  warnings : List String
  deriving DecidableEq, Repr

namespace Report

/-- Nothing is wrong. -/
def clean : Report := ⟨true, [], []⟩

/-- Something is wrong. -/
def failure (error : String) : Report := ⟨false, [error], []⟩

/-- Nothing could be looked at. -/
def caution (warning : String) : Report := ⟨true, [], [warning]⟩

end Report

variable {α : Type} [Scalar α] [Spelled α]

/-- The message about a keyframe inside the box. -/
def collisionMessage (index : Nat) (position : Vec α) : String :=
  let x := Spelled.spellPlaces 3 position.x
  let y := Spelled.spellPlaces 3 position.y
  let z := Spelled.spellPlaces 3 position.z
  s!"command {index} places the camera inside the object bounds at ({x}, {y}, {z})"

/-- Looks for a keyframe inside a box. -/
def Box.inspect (bounds : Option (Box α)) (keyframes : List (Keyframe α)) : Report :=
  match bounds with
  | none => .caution "no object bounds available, collision check skipped"
  | some b =>
    match keyframes.zipIdx.find? fun (k, _) => b.containsStrictly k.pose.position with
    | some (k, index) => .failure (collisionMessage index k.pose.position)
    | none => .clean

/-- Looks for a keyframe inside the subject, at the height where it is shown. -/
def Scene.inspect (scene : Scene α) (around : Surroundings α) (keyframes : List (Keyframe α)) :
    Report :=
  Box.inspect (scene.liftedBounds around) keyframes

end Cinematics
