import Cinematics.Named
import Cinematics.Text.Word

/-!
# Directions

The eight directions a move can take, and the words for them.  Which of them a move accepts, and
which of those count as negative, is the move's own business.
-/

namespace Cinematics

/-- A direction of movement. -/
inductive Direction where
  /-- To the left of the picture. -/
  | left
  /-- To the right of the picture. -/
  | right
  /-- Upwards. -/
  | up
  /-- Downwards. -/
  | down
  /-- Towards the target. -/
  | inward
  /-- Away from the target. -/
  | outward
  /-- Clockwise. -/
  | clockwise
  /-- Counter-clockwise. -/
  | counterClockwise
  deriving DecidableEq, Repr

instance : Named Direction where
  all := [.left, .right, .up, .down, .inward, .outward, .clockwise, .counterClockwise]
  name
    | .left => "left"
    | .right => "right"
    | .up => "up"
    | .down => "down"
    | .inward => "in"
    | .outward => "out"
    | .clockwise => "clockwise"
    | .counterClockwise => "counter_clockwise"

namespace Direction

/-- The words for directions. -/
def vocabulary : Text.Vocabulary Direction :=
  [("left", .left), ("right", .right),
   ("up", .up), ("upward", .up), ("upwards", .up), ("raise", .up),
   ("down", .down), ("downward", .down), ("downwards", .down), ("lower", .down),
   ("in", .inward), ("forward", .inward), ("forwards", .inward), ("closer", .inward),
   ("toward", .inward), ("towards", .inward),
   ("out", .outward), ("backward", .outward), ("backwards", .outward), ("back", .outward),
   ("away", .outward),
   ("clockwise", .clockwise), ("cw", .clockwise),
   ("counterclockwise", .counterClockwise), ("anticlockwise", .counterClockwise),
   ("ccw", .counterClockwise)]

/-- The direction that a loosely written word means. -/
def parse? (word : String) : Option Direction :=
  vocabulary.find? (Text.squeeze word.toList)

end Direction

end Cinematics
