import Cinematics.Scene
import Cinematics.Text.Word

/-!
# Named places

A name in a plan is looked up in three steps: the point that the camera looks at now, the landmarks
of the subject's box, and the features of the scene.  The front of the subject faces the viewer, and
its corners are at the height of its center.
-/

namespace Cinematics

/-- A point of a box that has a name of its own. -/
inductive Landmark where
  /-- The center. -/
  | center
  /-- Above the center. -/
  | topCenter
  /-- Below the center. -/
  | bottomCenter
  /-- Left of the center. -/
  | leftCenter
  /-- Right of the center. -/
  | rightCenter
  /-- In front of the center. -/
  | frontCenter
  /-- Behind the center. -/
  | backCenter
  /-- The left corner in front. -/
  | frontLeftCorner
  /-- The right corner in front. -/
  | frontRightCorner
  /-- The left corner behind. -/
  | backLeftCorner
  /-- The right corner behind. -/
  | backRightCorner
  deriving DecidableEq, Repr

namespace Landmark

/-- The phrases for landmarks. -/
def vocabulary : Text.Vocabulary Landmark :=
  [("center", .center), ("top_center", .topCenter), ("bottom_center", .bottomCenter),
   ("left_center", .leftCenter), ("right_center", .rightCenter), ("front_center", .frontCenter),
   ("back_center", .backCenter), ("front_left_corner", .frontLeftCorner),
   ("front_right_corner", .frontRightCorner), ("back_left_corner", .backLeftCorner),
   ("back_right_corner", .backRightCorner)]

/-- The landmark that a key means, which may say that it belongs to the object. -/
def ofKey? (key : List Char) : Option Landmark :=
  let marker := "object_".toList
  vocabulary.find? (if marker.isPrefixOf key then key.drop marker.length else key)

/-- Where a landmark of a box is. -/
def point {α : Type} (b : Box α) : Landmark → Vec α
  | .center => b.center
  | .topCenter => { b.center with y := b.high.y }
  | .bottomCenter => { b.center with y := b.low.y }
  | .leftCenter => { b.center with x := b.low.x }
  | .rightCenter => { b.center with x := b.high.x }
  | .frontCenter => { b.center with z := b.high.z }
  | .backCenter => { b.center with z := b.low.z }
  | .frontLeftCorner => ⟨b.low.x, b.center.y, b.high.z⟩
  | .frontRightCorner => ⟨b.high.x, b.center.y, b.high.z⟩
  | .backLeftCorner => ⟨b.low.x, b.center.y, b.low.z⟩
  | .backRightCorner => ⟨b.high.x, b.center.y, b.low.z⟩

end Landmark

namespace Scene

variable {α : Type} [Scalar α]

/-- The key that names the point the camera looks at. -/
def currentTarget : String := "current_target"

/-- The first feature with a given id or, failing that, a given description.  The case of ASCII
letters makes no difference. -/
def feature? (scene : Scene α) (name : List Char) : Option (Feature α) :=
  let isCalled (s : List Char) : Bool := Text.sameIgnoringCase s name
  scene.features.find? (fun f => isCalled f.id.toList)
    <|> scene.features.find? fun f => isCalled (Text.trim f.description.toList)

/-- The landmark of the scene's box that a key means, at the height where it is shown. -/
def landmark? (scene : Scene α) (around : Surroundings α) (key : List Char) : Option (Vec α) := do
  let b ← scene.bounds
  let landmark ← Landmark.ofKey? key
  some (landmark.point b + Vec.height around.lift)

/-- The place that a name stands for, where `current` is the point the camera looks at. -/
def locate (scene : Scene α) (around : Surroundings α) (current : Vec α) (name : String) :
    Option (Vec α) :=
  let key := Text.slug name.toList
  if key.isEmpty then none
  else if key = currentTarget.toList then some current
  else
    scene.landmark? around key
      <|> (scene.feature? (Text.trim name.toList)).map (·.position)

end Scene

end Cinematics
