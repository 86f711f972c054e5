import Mathlib.Tactic.Linarith
import Mathlib.Tactic.NormNum
import Mathlib.Tactic.Ring
import Cinematics.Proofs.Real
import Cinematics.Vec

/-!
# Lengths over the reals

What the geometry of cameras needs of lengths: that they are not negative, that a multiple of a
vector is as many times as long, that no coordinate is longer than the vector, and that the
direction of a vector has length one.
-/

namespace Cinematics

/-- A way from a point leads away from it. -/
lemma Vec.add_sub_cancel_left_real (u v : Vec ℝ) : u + v - u = v := by
  ext
  · exact add_sub_cancel_left _ _
  · exact add_sub_cancel_left _ _
  · exact add_sub_cancel_left _ _

/-- The opposite of a way is the way back. -/
lemma Vec.neg_sub_real (u v : Vec ℝ) : -(u - v) = v - u := by
  ext
  · exact neg_sub _ _
  · exact neg_sub _ _
  · exact neg_sub _ _

namespace Vec

variable (u v : Vec ℝ) (s : ℝ)

/-- A vector's product with itself is not negative. -/
lemma dot_self_nonneg : 0 ≤ v.dot v := by
  simp only [dot]
  have hx := mul_self_nonneg v.x
  have hy := mul_self_nonneg v.y
  have hz := mul_self_nonneg v.z
  linarith

/-- A length is not negative. -/
lemma norm_nonneg_real : 0 ≤ v.norm := Real.sqrt_nonneg _

/-- The square of a length. -/
lemma norm_mul_norm_real : v.norm * v.norm = v.dot v := Real.mul_self_sqrt v.dot_self_nonneg

/-- Vectors with the same product with themselves are equally long. -/
lemma norm_eq_of_dot_eq {u v : Vec ℝ} (h : u.dot u = v.dot v) : u.norm = v.norm := by
  rw [norm, norm, h]

/-- A length is known by its square. -/
lemma norm_eq_of_dot_eq_mul_self {v : Vec ℝ} {s : ℝ} (hs : 0 ≤ s) (h : v.dot v = s * s) :
    v.norm = s := by
  rw [norm, h]
  exact Real.sqrt_mul_self hs

/-- A vector with one for its product with itself has length one. -/
lemma norm_of_dot_self {v : Vec ℝ} (h : v.dot v = 1) : v.norm = 1 :=
  norm_eq_of_dot_eq_mul_self zero_le_one (h.trans (one_mul 1).symm)

/-- The opposite vector is as long. -/
lemma norm_neg_real : (-v).norm = v.norm := by
  refine norm_eq_of_dot_eq ?_
  simp only [dot, neg_x, neg_y, neg_z]
  ring

/-- A way is as long as the way back. -/
lemma norm_sub_comm_real : (u - v).norm = (v - u).norm := by
  rw [← neg_sub_real v u, norm_neg_real]

/-- A multiple of a vector is as many times as long. -/
lemma norm_mul_real : (v * s).norm = v.norm * |s| := by
  have hdot : (v * s).dot (v * s) = v.dot v * (s * s) := by
    simp only [dot, mul_x, mul_y, mul_z]
    ring
  have hsqrt : (v * s).norm = Real.sqrt (v.dot v * (s * s)) := by
    rw [← hdot]
    rfl
  rw [hsqrt, Real.sqrt_mul v.dot_self_nonneg, Real.sqrt_mul_self_eq_abs]
  rfl

/-- No coordinate is longer than the vector. -/
lemma abs_coord_le_norm (axis : Axis) : |v.coord axis| ≤ v.norm := by
  have hx := mul_self_nonneg v.x
  have hy := mul_self_nonneg v.y
  have hz := mul_self_nonneg v.z
  have hsquare : v.coord axis * v.coord axis ≤ v.dot v := by
    cases axis with
    | x =>
      simp only [dot, coord]
      linarith
    | y =>
      simp only [dot, coord]
      linarith
    | z =>
      simp only [dot, coord]
      linarith
  calc |v.coord axis| = Real.sqrt (v.coord axis * v.coord axis) :=
        (Real.sqrt_mul_self_eq_abs _).symm
    _ ≤ Real.sqrt (v.dot v) := Real.sqrt_le_sqrt hsquare

/-- A vector without length is the zero vector. -/
lemma eq_zero_of_norm_eq_zero {v : Vec ℝ} (h : v.norm = 0) : v = 0 := by
  have hcoord : ∀ axis, v.coord axis = 0 := by
    intro axis
    have hle : |v.coord axis| ≤ 0 := h ▸ v.abs_coord_le_norm axis
    exact abs_eq_zero.mp (le_antisymm hle (abs_nonneg _))
  ext
  · exact hcoord .x
  · exact hcoord .y
  · exact hcoord .z

/-- The zero vector has no length. -/
lemma norm_zero_real : (0 : Vec ℝ).norm = 0 := by
  refine norm_eq_of_dot_eq_mul_self le_rfl ?_
  norm_num [dot]

/-- A vector that is longer than nothing is not the zero vector. -/
lemma ne_zero_of_norm_pos {v : Vec ℝ} (h : 0 < v.norm) : v ≠ 0 := by
  rintro rfl
  exact h.ne' norm_zero_real

/-- A direction has length one. -/
lemma dot_normalize {v : Vec ℝ} (h : v ≠ 0) : v.normalize.dot v.normalize = 1 := by
  have hnorm : v.norm ≠ 0 := fun hzero => h (eq_zero_of_norm_eq_zero hzero)
  have hdot : v.normalize.dot v.normalize = v.dot v / (v.norm * v.norm) := by
    simp only [normalize, dot, div_x, div_y, div_z]
    ring
  rw [hdot, ← norm_mul_norm_real, div_self (mul_ne_zero hnorm hnorm)]

/-- The direction of a vector has length one. -/
lemma norm_normalize {v : Vec ℝ} (h : v ≠ 0) : v.normalize.norm = 1 :=
  norm_of_dot_self (dot_normalize h)

/-- The coordinate axes have length one. -/
lemma norm_unit (axis : Axis) : (unit axis : Vec ℝ).norm = 1 := by
  apply norm_of_dot_self
  cases axis <;> norm_num [unit, dot]

end Vec

end Cinematics
