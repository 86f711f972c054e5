import Cinematics.Scalar

/-!
# Vectors

Points and directions in space: the second axis points up, the third towards the viewer.  Sums of
three terms are taken from left to right, so that every length and product is one definite value
also where addition rounds.
-/

namespace Cinematics

/-- A point or a direction in space. -/
@[ext] structure Vec (α : Type) where
  /-- To the right. -/
  x : α
  /-- Upwards. -/
  y : α
  /-- Towards the viewer. -/
  z : α
  deriving DecidableEq, Repr

/-- One of the three coordinate axes. -/
inductive Axis where
  /-- The axis to the right. -/
  | x
  /-- The axis upwards. -/
  | y
  /-- The axis towards the viewer. -/
  | z
  deriving DecidableEq, Repr

/-- The axes in order. -/
def Axis.all : List Axis := [.x, .y, .z]

namespace Vec

variable {α : Type}

/-- The coordinate along an axis. -/
def coord (v : Vec α) : Axis → α
  | .x => v.x
  | .y => v.y
  | .z => v.z

/-- The vector with one coordinate replaced. -/
def withCoord (v : Vec α) (axis : Axis) (a : α) : Vec α :=
  match axis with
  | .x => { v with x := a }
  | .y => { v with y := a }
  | .z => { v with z := a }

variable [Scalar α]

instance : Zero (Vec α) := ⟨⟨0, 0, 0⟩⟩

instance : Add (Vec α) := ⟨fun u v => ⟨u.x + v.x, u.y + v.y, u.z + v.z⟩⟩

instance : Sub (Vec α) := ⟨fun u v => ⟨u.x - v.x, u.y - v.y, u.z - v.z⟩⟩

instance : Neg (Vec α) := ⟨fun v => ⟨-v.x, -v.y, -v.z⟩⟩

instance : HMul (Vec α) α (Vec α) := ⟨fun v s => ⟨v.x * s, v.y * s, v.z * s⟩⟩

instance : HDiv (Vec α) α (Vec α) := ⟨fun v s => ⟨v.x / s, v.y / s, v.z / s⟩⟩

@[simp] theorem zero_x : (0 : Vec α).x = 0 := rfl

@[simp] theorem zero_y : (0 : Vec α).y = 0 := rfl

@[simp] theorem zero_z : (0 : Vec α).z = 0 := rfl

@[simp] theorem add_x (u v : Vec α) : (u + v).x = u.x + v.x := rfl

@[simp] theorem add_y (u v : Vec α) : (u + v).y = u.y + v.y := rfl

@[simp] theorem add_z (u v : Vec α) : (u + v).z = u.z + v.z := rfl

@[simp] theorem sub_x (u v : Vec α) : (u - v).x = u.x - v.x := rfl

@[simp] theorem sub_y (u v : Vec α) : (u - v).y = u.y - v.y := rfl

@[simp] theorem sub_z (u v : Vec α) : (u - v).z = u.z - v.z := rfl

@[simp] theorem neg_x (v : Vec α) : (-v).x = -v.x := rfl

@[simp] theorem neg_y (v : Vec α) : (-v).y = -v.y := rfl

@[simp] theorem neg_z (v : Vec α) : (-v).z = -v.z := rfl

@[simp] theorem mul_x (v : Vec α) (s : α) : (v * s).x = v.x * s := rfl

@[simp] theorem mul_y (v : Vec α) (s : α) : (v * s).y = v.y * s := rfl

@[simp] theorem mul_z (v : Vec α) (s : α) : (v * s).z = v.z * s := rfl

@[simp] theorem div_x (v : Vec α) (s : α) : (v / s).x = v.x / s := rfl

@[simp] theorem div_y (v : Vec α) (s : α) : (v / s).y = v.y / s := rfl

@[simp] theorem div_z (v : Vec α) (s : α) : (v / s).z = v.z / s := rfl

/-- The unit vector along an axis. -/
def unit : Axis → Vec α
  | .x => ⟨1, 0, 0⟩
  | .y => ⟨0, 1, 0⟩
  | .z => ⟨0, 0, 1⟩

/-- Straight up. -/
def up : Vec α := unit .y

/-- The vector `a` high above the origin. -/
def height (a : α) : Vec α := ⟨0, a, 0⟩

/-- The scalar product. -/
def dot (u v : Vec α) : α :=
  u.x * v.x + u.y * v.y + u.z * v.z

/-- The vector product. -/
def cross (u v : Vec α) : Vec α :=
  ⟨u.y * v.z - u.z * v.y, u.z * v.x - u.x * v.z, u.x * v.y - u.y * v.x⟩

/-- The length. -/
def norm (v : Vec α) : α :=
  Scalar.sqrt (v.dot v)

/-- The vector of length one in the same direction. -/
def normalize (v : Vec α) : Vec α :=
  v / v.norm

/-- The direction of `v`, or `fallback` when `v` is shorter than `eps`. -/
def normalizeOr (v fallback : Vec α) (eps : α) : Vec α :=
  let length := v.norm
  if length < eps then fallback else v / length

/-- The angle between a direction and the horizontal plane, in radians. -/
def elevation (v : Vec α) : α :=
  let length := v.norm
  if length < 1e-12 then 0 else Scalar.asin (Scalar.clamp (v.y / length) (-1) 1)

/-- The vector turned about an axis by an angle in radians, by the rule of the right hand.  An axis
that is too short to have a direction turns nothing. -/
def rotate (v axis : Vec α) (angle : α) : Vec α :=
  let square := axis.dot axis
  if (1e-12 * 1e-12 : α) < square then
    let half := angle / 2.0
    let w := axis / Scalar.sqrt square * Scalar.sin half
    let t := w.cross v * (2.0 : α)
    t * Scalar.cos half + w.cross t + v
  else v

/-- Whether all coordinates are ordinary numbers. -/
def isFinite (v : Vec α) : Bool :=
  Scalar.isFinite v.x && Scalar.isFinite v.y && Scalar.isFinite v.z

/-- The coordinates that are smaller in each direction. -/
def inf (u v : Vec α) : Vec α :=
  let lesser (a b : α) : α := if a ≤ b then a else b
  ⟨lesser u.x v.x, lesser u.y v.y, lesser u.z v.z⟩

/-- The coordinates that are larger in each direction. -/
def sup (u v : Vec α) : Vec α :=
  let greater (a b : α) : α := if b ≤ a then a else b
  ⟨greater u.x v.x, greater u.y v.y, greater u.z v.z⟩

/-- The largest coordinate. -/
def maxCoord (v : Vec α) : α :=
  let greater (a b : α) : α := if b ≤ a then a else b
  greater (greater v.x v.y) v.z

end Vec

end Cinematics
