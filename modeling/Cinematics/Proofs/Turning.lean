import Mathlib.Tactic.LinearCombination
import Cinematics.Proofs.Panning

/-!
# Turning about an axis

`Vec.rotate` turns vectors by half angles, about an axis of any length.  As soon as the axis is long
enough to have a direction, this is a rotation in every respect (`Vec.IsTurning`): the formula of
Rodrigues says where a vector ends up, lengths and scalar products stay as they are, turns add up,
and a whole turn leads nowhere.

The one fact that needs the half angles is `Vec.rotate_eq_turn`.  What is left to do for axes that
are not of length one is to see that the formula takes nothing but the direction from its axis
(`Vec.rotate_eq_turnAbout_of_long`); all else is then read off `Vec.turn`.
-/

namespace Cinematics.Vec

/-- What it is to turn vectors about a direction, by angles in radians. -/
structure IsTurning (u : Vec ℝ) (turned : Vec ℝ → ℝ → Vec ℝ) : Prop where
  /-- What lies along the direction stays, and what lies across goes around. -/
  eq_sum (v : Vec ℝ) (a : ℝ) : turned v a =
    v * Real.cos a + u.cross v * Real.sin a + u * (u.dot v * (1 - Real.cos a))
  /-- Vectors stay as long as they are. -/
  norm_eq (v : Vec ℝ) (a : ℝ) : (turned v a).norm = v.norm
  /-- Two vectors that are turned alike keep their product. -/
  dot_eq (v w : Vec ℝ) (a : ℝ) : (turned v a).dot (turned w a) = v.dot w
  /-- Vectors reach as far along the direction as before. -/
  along_eq (v : Vec ℝ) (a : ℝ) : u.dot (turned v a) = u.dot v
  /-- Turns add up. -/
  turned_turned (v : Vec ℝ) (a b : ℝ) : turned (turned v a) b = turned v (a + b)
  /-- A whole turn leads nowhere. -/
  wholeTurn (v : Vec ℝ) : turned v (Scalar.radians 360.0) = v

variable {u v w axis : Vec ℝ} {a : ℝ}

/-- Two vectors that are turned alike keep their product. -/
lemma dot_turn_turn (hu : u.dot u = 1) : (v.turn u a).dot (w.turn u a) = v.dot w := by
  have hcircle := Real.sin_sq_add_cos_sq a
  simp only [dot] at hu
  simp only [turn, dot, cross, add_x, add_y, add_z, mul_x, mul_y, mul_z]
  linear_combination
    (Real.sin a ^ 2 * (v.x * w.x + v.y * w.y + v.z * w.z) +
      (u.x * v.x + u.y * v.y + u.z * v.z) * (u.x * w.x + u.y * w.y + u.z * w.z) *
        (1 - Real.cos a) ^ 2) * hu +
    (v.x * w.x + v.y * w.y + v.z * w.z -
      (u.x * v.x + u.y * v.y + u.z * v.z) * (u.x * w.x + u.y * w.y + u.z * w.z)) * hcircle

/-- A vector that is turned about a direction reaches as far along it as before. -/
lemma dot_turn_self (hu : u.dot u = 1) : u.dot (v.turn u a) = u.dot v := by
  simp only [dot] at hu
  simp only [turn, dot, cross, add_x, add_y, add_z, mul_x, mul_y, mul_z]
  linear_combination ((u.x * v.x + u.y * v.y + u.z * v.z) * (1 - Real.cos a)) * hu

/-- About an axis that is long enough to have a direction, the half-angle formula turns, whatever
the length of the axis. -/
lemma rotate_eq_turnAbout_of_long (hlong : 1e-12 < axis.norm) :
    v.rotate axis a = v.turnAbout axis a := by
  have haxis : axis ≠ 0 := ne_zero_of_norm_pos (hlong.trans' (by norm_num))
  have hdirection := dot_normalize haxis
  have hsquare : (1e-12 * 1e-12 : ℝ) < axis.dot axis := by
    rw [← norm_mul_norm_real]
    exact mul_self_lt_mul_self (by norm_num) hlong
  -- the formula looks at the direction of its axis only
  have hformula : ∀ axis : Vec ℝ, (1e-12 * 1e-12 : ℝ) < axis.dot axis → v.rotate axis a =
      (axis.normalize * Real.sin (a / 2.0)).cross v * (2.0 : ℝ) * Real.cos (a / 2.0) +
        (axis.normalize * Real.sin (a / 2.0)).cross
          ((axis.normalize * Real.sin (a / 2.0)).cross v * (2.0 : ℝ)) + v :=
    fun _ h => if_pos h
  have hrotate : v.rotate axis a = v.rotate axis.normalize a := by
    rw [hformula axis hsquare, hformula axis.normalize (by rw [hdirection]; norm_num),
      normalize_of_dot_self hdirection]
  rw [hrotate, rotate_eq_turn hdirection, turnAbout, if_neg haxis]

/-- **Rotations are rotations.**  About an axis that is long enough to have a direction, `rotate`
turns vectors about this direction. -/
theorem isTurning_rotate (hlong : 1e-12 < axis.norm) :
    axis.normalize.norm = 1 ∧ IsTurning axis.normalize fun v a => v.rotate axis a := by
  have haxis : axis ≠ 0 := ne_zero_of_norm_pos (hlong.trans' (by norm_num))
  have hdirection := dot_normalize haxis
  have hrotate : ∀ (v : Vec ℝ) (a : ℝ), v.rotate axis a = v.turnAbout axis a :=
    fun _ _ => rotate_eq_turnAbout_of_long hlong
  have hturn : ∀ (v : Vec ℝ) (a : ℝ), v.rotate axis a = v.turn axis.normalize a :=
    fun v a => (hrotate v a).trans (if_neg haxis)
  refine ⟨norm_normalize haxis, ?_⟩
  constructor
  · exact hturn
  · exact fun v a => norm_rotate v axis a
  · intro v w a
    rw [hturn, hturn, dot_turn_turn hdirection]
  · intro v a
    rw [hturn, dot_turn_self hdirection]
  · intro v a b
    rw [hturn, hturn, hturn, turn_turn hdirection]
  · intro v
    have hwhole : Scalar.radians (360.0 : ℝ) = (1 : ℤ) * (2 * Real.pi) := by
      rw [Scalar.radians_real]
      norm_num
      ring
    rw [hrotate, hwhole, turnAbout_wholeTurns]

/-- A quarter of a turn about a slanting axis, and another one. -/
theorem isTurning_rotate_slanting :
    1e-12 < (⟨4, 4, 2⟩ : Vec ℝ).norm ∧
      (⟨9, 0, 0⟩ : Vec ℝ).rotate ⟨4, 4, 2⟩ (Real.pi / 2) = ⟨4, 7, -4⟩ ∧
      (⟨4, 7, -4⟩ : Vec ℝ).rotate ⟨4, 4, 2⟩ (Real.pi / 2) = ⟨-1, 8, 4⟩ := by
  have hnorm : (⟨4, 4, 2⟩ : Vec ℝ).norm = 6 :=
    norm_eq_of_dot_eq_mul_self (by norm_num) (by norm_num [dot])
  have hlong : 1e-12 < (⟨4, 4, 2⟩ : Vec ℝ).norm := by
    rw [hnorm]
    norm_num
  obtain ⟨-, hturning⟩ := isTurning_rotate hlong
  have hquarter : ∀ v : Vec ℝ, v.rotate ⟨4, 4, 2⟩ (Real.pi / 2) =
      v * (0 : ℝ) + (⟨4 / 6, 4 / 6, 2 / 6⟩ : Vec ℝ).cross v * (1 : ℝ) +
        (⟨4 / 6, 4 / 6, 2 / 6⟩ : Vec ℝ) * ((⟨4 / 6, 4 / 6, 2 / 6⟩ : Vec ℝ).dot v * (1 - 0)) := by
    intro v
    have heq := hturning.eq_sum v (Real.pi / 2)
    rw [Real.cos_pi_div_two, Real.sin_pi_div_two, normalize, hnorm] at heq
    exact heq
  refine ⟨hlong, ?_, ?_⟩
  · rw [hquarter]
    ext
    all_goals norm_num [dot, cross]
  · rw [hquarter]
    ext
    all_goals norm_num [dot, cross]

end Cinematics.Vec
