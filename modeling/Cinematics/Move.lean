import Cinematics.Named

/-!
# Moves as they are asked for

A `Move` is one request of a plan.  Numbers are optional and words stay words: what they mean
depends on the scene and the camera, and is found out when the move is carried out.  Moves that take
the same parameters share a request type.
-/

namespace Cinematics

/-- The kinds of moves. -/
inductive MoveKind where
  /-- Keep still. -/
  | hold
  /-- Scale the distance to the target. -/
  | zoom
  /-- Go around a center. -/
  | orbit
  /-- Turn the view sideways. -/
  | pan
  /-- Turn the view up or down. -/
  | tilt
  /-- Go along the line of sight. -/
  | dolly
  /-- Go sideways. -/
  | truck
  /-- Go up or down. -/
  | pedestal
  /-- Go to a named place. -/
  | moveTo
  /-- Look at a named place. -/
  | focusOn
  /-- Turn the view about a chosen axis. -/
  | rotate
  deriving DecidableEq, Repr

instance : Named MoveKind where
  all :=
    [.hold, .zoom, .orbit, .pan, .tilt, .dolly, .truck, .pedestal, .moveTo, .focusOn, .rotate]
  name
    | .hold => "static"
    | .zoom => "zoom"
    | .orbit => "orbit"
    | .pan => "pan"
    | .tilt => "tilt"
    | .dolly => "dolly"
    | .truck => "truck"
    | .pedestal => "pedestal"
    | .moveTo => "move_to"
    | .focusOn => "focus_on"
    | .rotate => "rotate"

/-- A request to keep still. -/
structure Hold where
  /-- The pace, which makes no difference. -/
  speed : Option String := none
  deriving DecidableEq, Repr

/-- A request to scale the distance to the target. -/
structure Zoom (α : Type) where
  /-- Inward or outward. -/
  direction : Option String := none
  /-- The factor on the distance. -/
  factor : Option α := none
  /-- The factor as an amount. -/
  factorDescriptor : Option String := none
  /-- The distance to end at, as an amount. -/
  targetDistanceDescriptor : Option String := none
  /-- The pace. -/
  speed : Option String := none
  /-- The easing. -/
  easing : Option String := none
  deriving DecidableEq, Repr

/-- A request to go along the line of sight. -/
structure Dolly (α : Type) where
  /-- Inward or outward. -/
  direction : Option String := none
  /-- The way to go. -/
  distance : Option α := none
  /-- The way to go as an amount. -/
  distanceDescriptor : Option String := none
  /-- A named place to come level with. -/
  destinationTarget : Option String := none
  /-- The distance to end at, as an amount. -/
  targetDistanceDescriptor : Option String := none
  /-- The pace. -/
  speed : Option String := none
  /-- The easing. -/
  easing : Option String := none
  deriving DecidableEq, Repr

/-- A request to go sideways, or up or down. -/
structure Slide (α : Type) where
  /-- Left or right, or up or down. -/
  direction : Option String := none
  /-- The way to go. -/
  distance : Option α := none
  /-- The way to go as an amount. -/
  distanceDescriptor : Option String := none
  /-- A named place to come level with. -/
  destinationTarget : Option String := none
  /-- The pace. -/
  speed : Option String := none
  /-- The easing. -/
  easing : Option String := none
  deriving DecidableEq, Repr

/-- A request to go around a center. -/
structure Orbit (α : Type) where
  /-- Left or right, or clockwise or counter-clockwise. -/
  direction : Option String := none
  /-- The arc in degrees. -/
  angle : Option α := none
  /-- The arc as an amount. -/
  angleDescriptor : Option String := none
  /-- The axis of the circle. -/
  axis : Option String := none
  /-- The name of the center. -/
  target : Option String := none
  /-- The radius at the end as a multiple of the radius at the start. -/
  radiusFactor : Option α := none
  /-- The pace. -/
  speed : Option String := none
  /-- The easing. -/
  easing : Option String := none
  deriving DecidableEq, Repr

/-- A request to turn the view. -/
structure Turn (α : Type) where
  /-- The direction of the turn. -/
  direction : Option String := none
  /-- The angle in degrees. -/
  angle : Option α := none
  /-- The angle as an amount. -/
  angleDescriptor : Option String := none
  /-- The axis, where there is a choice. -/
  axis : Option String := none
  /-- A named place to look at instead, where that is possible. -/
  target : Option String := none
  /-- The pace. -/
  speed : Option String := none
  /-- The easing. -/
  easing : Option String := none
  deriving DecidableEq, Repr

/-- A request to go to a named place. -/
structure Relocation where
  /-- The name of the place. -/
  target : Option String := none
  /-- The name of the place to look at from there. -/
  lookAt : Option String := none
  /-- The distance to keep from the place, as an amount. -/
  distanceDescriptor : Option String := none
  /-- The pace. -/
  speed : Option String := none
  /-- The easing. -/
  easing : Option String := none
  deriving DecidableEq, Repr

/-- A request to look at a named place. -/
structure Refocus where
  /-- The name of the place. -/
  target : Option String := none
  /-- Whether the distance should be made to fit the subject. -/
  adjustFraming : Option Bool := none
  /-- The pace. -/
  speed : Option String := none
  /-- The easing. -/
  easing : Option String := none
  deriving DecidableEq, Repr

/-- A request for one move. -/
inductive Move (α : Type) where
  /-- Keep still. -/
  | hold (request : Hold)
  /-- Scale the distance to the target. -/
  | zoom (request : Zoom α)
  /-- Go around a center. -/
  | orbit (request : Orbit α)
  /-- Turn the view sideways. -/
  | pan (request : Turn α)
  /-- Turn the view up or down. -/
  | tilt (request : Turn α)
  /-- Go along the line of sight. -/
  | dolly (request : Dolly α)
  /-- Go sideways. -/
  | truck (request : Slide α)
  /-- Go up or down. -/
  | pedestal (request : Slide α)
  /-- Go to a named place. -/
  | moveTo (request : Relocation)
  /-- Look at a named place. -/
  | focusOn (request : Refocus)
  /-- Turn the view about a chosen axis. -/
  | rotate (request : Turn α)
  deriving DecidableEq, Repr

/-- The kind of a move. -/
def Move.kind {α : Type} : Move α → MoveKind
  | .hold _ => .hold
  | .zoom _ => .zoom
  | .orbit _ => .orbit
  | .pan _ => .pan
  | .tilt _ => .tilt
  | .dolly _ => .dolly
  | .truck _ => .truck
  | .pedestal _ => .pedestal
  | .moveTo _ => .moveTo
  | .focusOn _ => .focusOn
  | .rotate _ => .rotate

/-- A move and its share of the time. -/
structure Step (α : Type) where
  /-- The move. -/
  move : Move α
  /-- The share of the time, out of one. -/
  ratio : α
  deriving DecidableEq, Repr

/-- A list of moves and the time for all of them. -/
structure Plan (α : Type) where
  /-- The moves in order. -/
  steps : List (Step α)
  /-- The requested seconds. -/
  duration : α
  deriving DecidableEq, Repr

end Cinematics
