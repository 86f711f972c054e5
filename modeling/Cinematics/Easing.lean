import Cinematics.Named
import Cinematics.Scalar
import Cinematics.Text.Word

/-!
# Easing curves and paces

An `Easing` says how time turns into progress between two keyframes; `Easing.apply` is its curve.  A
move that is cut into several keyframes keeps the shape of its curve at the two ends only, which is
what `Easing.forSegment` distributes.  A `Pace` is the looser word for the same thing, and stands
for an easing once the ordinary one is known.
-/

namespace Cinematics

/-- A timing curve. -/
inductive Easing where
  /-- Constant speed. -/
  | linear
  /-- Quadratic, from rest. -/
  | inQuad
  /-- Quadratic, to rest. -/
  | outQuad
  /-- Quadratic, from rest to rest. -/
  | inOutQuad
  /-- Cubic, from rest. -/
  | inCubic
  /-- Cubic, to rest. -/
  | outCubic
  /-- Cubic, from rest to rest. -/
  | inOutCubic
  deriving DecidableEq, Repr

instance : Named Easing where
  all := [.linear, .inQuad, .outQuad, .inOutQuad, .inCubic, .outCubic, .inOutCubic]
  name
    | .linear => "linear"
    | .inQuad => "easeInQuad"
    | .outQuad => "easeOutQuad"
    | .inOutQuad => "easeInOutQuad"
    | .inCubic => "easeInCubic"
    | .outCubic => "easeOutCubic"
    | .inOutCubic => "easeInOutCubic"

namespace Easing

/-- The words for easings.  A family without an order means its quadratic member. -/
def vocabulary : Text.Vocabulary Easing :=
  [("linear", .linear), ("none", .linear),
   ("easein", .inQuad), ("easeinquad", .inQuad), ("in", .inQuad),
   ("easeout", .outQuad), ("easeoutquad", .outQuad), ("out", .outQuad),
   ("easeinout", .inOutQuad), ("easeinoutquad", .inOutQuad), ("inout", .inOutQuad),
   ("smooth", .inOutQuad),
   ("easeincubic", .inCubic), ("easeoutcubic", .outCubic), ("easeinoutcubic", .inOutCubic)]

/-- The easing that a loosely written word means. -/
def parse? (word : String) : Option Easing :=
  vocabulary.find? (Text.squeeze word.toList)

section Curve

variable {α : Type} [Scalar α]

/-- The curve on the unit interval. -/
def curve (e : Easing) (t : α) : α :=
  match e with
  | .linear => t
  | .inQuad => t * t
  | .outQuad => t * (2.0 - t)
  | .inOutQuad => if t < 0.5 then 2.0 * t * t else -1 + (4.0 - 2.0 * t) * t
  | .inCubic => t * t * t
  | .outCubic =>
    let u := t - 1
    u * u * u + 1
  | .inOutCubic =>
    if t < 0.5 then 4.0 * t * t * t
    else
      let u := 2.0 * t - 2.0
      0.5 * u * u * u + 1

/-- Progress at a time, which counts from the start to the end of the unit interval. -/
def apply (e : Easing) (t : α) : α :=
  e.curve (Scalar.clamp t 0 1)

end Curve

/-- The easing of segment `index` of a move in `count` segments: the start of the curve goes to the
first, its end to the last, and all between run at constant speed. -/
def forSegment (e : Easing) (index count : Nat) : Easing :=
  if count ≤ 1 then e
  else if index = 0 then
    match e with
    | .inQuad | .inOutQuad => .inQuad
    | .inCubic | .inOutCubic => .inCubic
    | .linear | .outQuad | .outCubic => .linear
  else if index + 1 = count then
    match e with
    | .outQuad | .inOutQuad => .outQuad
    | .outCubic | .inOutCubic => .outCubic
    | .linear | .inQuad | .inCubic => .linear
  else .linear

end Easing

/-- A word for how fast a move goes. -/
inductive Pace where
  /-- Abrupt, at constant speed. -/
  | veryFast
  /-- A quick start and a soft landing. -/
  | fast
  /-- The ordinary pace. -/
  | medium
  /-- Gentle at both ends. -/
  | slow
  /-- A cut. -/
  | instant
  deriving DecidableEq, Repr

instance : Named Pace where
  all := [.veryFast, .fast, .medium, .slow, .instant]
  name
    | .veryFast => "very_fast"
    | .fast => "fast"
    | .medium => "medium"
    | .slow => "slow"
    | .instant => "instant"

namespace Pace

/-- The words for paces. -/
def vocabulary : Text.Vocabulary Pace :=
  [("veryfast", .veryFast), ("rapid", .veryFast), ("snappy", .veryFast),
   ("fast", .fast), ("quick", .fast), ("brisk", .fast),
   ("medium", .medium), ("normal", .medium), ("moderate", .medium), ("default", .medium),
   ("slow", .slow), ("gentle", .slow), ("leisurely", .slow), ("veryslow", .slow),
   ("instant", .instant), ("instantaneous", .instant), ("immediate", .instant), ("cut", .instant)]

/-- The pace that a loosely written word means. -/
def parse? (word : String) : Option Pace :=
  vocabulary.find? (Text.squeeze word.toList)

/-- The easing that a pace stands for, where `nominal` is the ordinary one. -/
def easing (pace : Pace) (nominal : Easing) : Easing :=
  match pace with
  | .veryFast | .instant => .linear
  | .fast => .outQuad
  | .slow => .inOutQuad
  | .medium => nominal

end Pace

end Cinematics
