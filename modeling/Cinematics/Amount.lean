import Cinematics.Direction
import Cinematics.Move
import Cinematics.Scene

/-!
# Amounts

Words such as "a bit" or "very far" come down to five amounts.  What an amount is worth depends on
what is asked for: a factor and an angle come from tables, a distance grows with the subject and
with the camera's distance from it.
-/

namespace Cinematics

/-- How much of something. -/
inductive Amount where
  /-- Hardly any. -/
  | tiny
  /-- A little. -/
  | small
  /-- Some. -/
  | medium
  /-- Much. -/
  | large
  /-- Very much. -/
  | huge
  deriving DecidableEq, Repr

instance : Named Amount where
  all := [.tiny, .small, .medium, .large, .huge]
  name
    | .tiny => "tiny"
    | .small => "small"
    | .medium => "medium"
    | .large => "large"
    | .huge => "huge"

namespace Amount

/-- The phrases for amounts. -/
def vocabulary : Text.Vocabulary Amount :=
  [("tiny", .tiny), ("very_small", .tiny), ("minimal", .tiny), ("slight", .tiny),
   ("slightly", .tiny), ("a_bit", .tiny), ("very_close", .tiny), ("extreme_close_up", .tiny),
   ("small", .small), ("little", .small), ("a_little", .small), ("short", .small),
   ("close", .small), ("closer", .small), ("near", .small), ("nearer", .small),
   ("close_up", .small),
   ("medium", .medium), ("moderate", .medium), ("mid", .medium), ("normal", .medium),
   ("average", .medium), ("medium_distance", .medium), ("medium_shot", .medium),
   ("large", .large), ("big", .large), ("significant", .large), ("long", .large), ("far", .large),
   ("farther", .large), ("further", .large), ("distant", .large), ("wide", .large),
   ("wide_shot", .large),
   ("huge", .huge), ("very_large", .huge), ("massive", .huge), ("enormous", .huge),
   ("extreme", .huge), ("very_far", .huge), ("very_distant", .huge), ("extreme_wide", .huge)]

/-- The amount that a loosely written phrase means. -/
def parse? (phrase : String) : Option Amount :=
  vocabulary.find? (Text.slug phrase.toList)

variable {α : Type} [Scalar α]

/-- The factor on the distance for a zoom inward. -/
def inwardFactor : Amount → α
  | .tiny => 0.9
  | .small => 0.75
  | .medium => 0.6
  | .large => 0.45
  | .huge => 0.3

/-- The factor on the distance for a zoom outward. -/
def outwardFactor : Amount → α
  | .tiny => 1.1
  | .small => 1.3
  | .medium => 1.6
  | .large => 2.2
  | .huge => 3.0

/-- The part of a base distance to travel. -/
def travelScale : Amount → α
  | .tiny => 0.1
  | .small => 0.25
  | .medium => 0.5
  | .large => 1
  | .huge => 2.0

/-- The angle in degrees. -/
def degrees : Amount → α
  | .tiny => 10.0
  | .small => 20.0
  | .medium => 45.0
  | .large => 90.0
  | .huge => 180.0

/-- The distance to end at, as a multiple of the size of the subject. -/
def framingScale : Amount → α
  | .tiny => 0.5
  | .small => 1
  | .medium => 1.5
  | .large => 2.5
  | .huge => 4.0

end Amount

variable {α : Type} [Scalar α]

/-- The size of the subject, its largest extent; one when that is unknown or nothing. -/
def Scene.size (scene : Scene α) : α :=
  match scene.bounds with
  | some b => if 0 < b.maxExtent then b.maxExtent else 1
  | none => 1

namespace Amount

/-- A factor brought to where the distance after it keeps to the envelope, if it can. -/
def clampFactor (factor distance : α) (around : Surroundings α) : α :=
  match around.envelope with
  | some e =>
    let lo := e.minDistance / distance
    let hi := e.maxDistance / distance
    if 0 < distance ∧ lo ≤ hi then Scalar.clamp factor lo hi else factor
  | none => factor

/-- The factor on the distance for a zoom in a direction; inward when none is given. -/
def factor (amount : Amount) (direction : Option Direction) (distance : α)
    (around : Surroundings α) : α :=
  let table : α :=
    if direction = some .outward then amount.outwardFactor else amount.inwardFactor
  clampFactor table distance around

/-- The distance that travel is measured by: the height of the subject for a pedestal, its width for
a truck, half its size or half the distance to it for a dolly, and its diagonal otherwise. -/
def travelBase (kind : MoveKind) (scene : Scene α) (distance : α) : α :=
  let size := scene.size
  match kind, scene.bounds with
  | .dolly, _ => Scalar.max (0.5 * size) (0.5 * distance)
  | .pedestal, some b => b.size.y
  | .truck, some b => b.size.x
  | .pedestal, none => size
  | .truck, none => size
  | _, some b => b.diagonal
  | _, none => size * Scalar.sqrt 3.0

/-- The distance to travel, at most five sizes of the subject or twenty, whichever is more. -/
def travel (amount : Amount) (kind : MoveKind) (scene : Scene α) (distance : α) : α :=
  let size := scene.size
  let base := travelBase kind scene distance
  let cap := Scalar.max (5.0 * size) 20.0
  Scalar.min ((if 0 < base then base else size) * amount.travelScale) cap

/-- The distance from the subject to end at. -/
def framing (amount : Amount) (scene : Scene α) : α :=
  amount.framingScale * scene.size

end Amount

end Cinematics
