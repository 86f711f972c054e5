import Mathlib.Tactic.LinearCombination
import Cinematics.Proofs.Length

/-!
# Turned vectors are as long as before

Turning a vector about an axis is computed with half the angle: from a vector `w` along the axis,
as long as the sine, and the cosine `k`.  All that matters for lengths is that the squares of the
two add up to one.
-/

namespace Cinematics.Vec

/-- A vector is as long after the half-angle formula as before, if the squares of the two parts of
the rotation add up to one. -/
lemma dot_halfAngle {v w : Vec ℝ} {k : ℝ} (hunit : k * k + w.dot w = 1) :
    (w.cross v * (2.0 : ℝ) * k + w.cross (w.cross v * (2.0 : ℝ)) + v).dot
      (w.cross v * (2.0 : ℝ) * k + w.cross (w.cross v * (2.0 : ℝ)) + v) = v.dot v := by
  have htwo : (2.0 : ℝ) = 2 := by norm_num
  simp only [dot] at hunit
  simp only [dot, cross, add_x, add_y, add_z, mul_x, mul_y, mul_z, htwo]
  linear_combination
    4 * ((w.y * v.z - w.z * v.y) ^ 2 + (w.z * v.x - w.x * v.z) ^ 2 +
      (w.x * v.y - w.y * v.x) ^ 2) * hunit

/-- A vector that is a number times as long as a direction has the number's square for its product
with itself. -/
lemma dot_div_norm_mul {axis : Vec ℝ} (h : 0 < axis.dot axis) (s : ℝ) :
    (axis / Real.sqrt (axis.dot axis) * s).dot (axis / Real.sqrt (axis.dot axis) * s) = s * s := by
  set length := Real.sqrt (axis.dot axis) with hlengthdef
  have hpositive : 0 < length := Real.sqrt_pos.mpr h
  have hsquare : length * length = axis.dot axis := Real.mul_self_sqrt h.le
  simp only [dot, mul_x, mul_y, mul_z, div_x, div_y, div_z]
  simp only [dot] at hsquare
  field_simp
  linear_combination (-(s ^ 2)) * hsquare

/-- **A turned vector is as long as before.** -/
theorem norm_rotate (v axis : Vec ℝ) (angle : ℝ) : (v.rotate axis angle).norm = v.norm := by
  simp only [rotate]
  split
  · rename_i hlong
    have hpositive : 0 < axis.dot axis := hlong.trans' (by norm_num)
    refine norm_eq_of_dot_eq (dot_halfAngle ?_)
    have hw := dot_div_norm_mul hpositive (Real.sin (angle / 2.0))
    have hcircle := Real.sin_sq_add_cos_sq (angle / 2.0)
    change Real.cos (angle / 2.0) * Real.cos (angle / 2.0) +
      (axis / Real.sqrt (axis.dot axis) * Real.sin (angle / 2.0)).dot
        (axis / Real.sqrt (axis.dot axis) * Real.sin (angle / 2.0)) = 1
    rw [hw]
    linarith [hcircle]
  · rfl

end Cinematics.Vec
