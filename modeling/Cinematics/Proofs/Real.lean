import Mathlib.Analysis.SpecialFunctions.Trigonometric.Inverse
import Cinematics.Decimal.Spelling

/-!
# The reals as scalars

Geometry is written over any scalars.  Over the reals nothing rounds, every value is finite, and the
operations are those that their names say; statements about lengths, angles and clearances are made
here.  The lemmas of this file turn the operations of `Scalar`, whose minimum and maximum make
provision for undefined values, into those of the library.
-/

namespace Cinematics

/-- The reals as scalars. -/
noncomputable instance : Scalar ℝ where
  abs x := |x|
  sqrt := Real.sqrt
  sin := Real.sin
  cos := Real.cos
  asin := Real.arcsin
  pi := Real.pi
  isFinite _ := true
  ceilNat x := ⌈x⌉₊
  ofNat n := n

/-- The decimal nearest to a real, with a fixed number of places. -/
noncomputable def Numeral.ofReal (places : ℕ) (x : ℝ) : Numeral where
  negative := decide (x < 0)
  mantissa := (round (|x| * 10 ^ places)).toNat
  places := places
  exponent := none

/-- Reals in messages are decimals. -/
noncomputable instance : Spelled ℝ where
  spell x := (Numeral.ofReal 17 x).text
  spellPlaces places x := (Numeral.ofReal places x).text

namespace Scalar

/-- Every real is finite. -/
@[simp] lemma isFinite_real (x : ℝ) : Scalar.isFinite x = true := rfl

/-- The magnitude is the absolute value. -/
@[simp] lemma abs_real (x : ℝ) : Scalar.abs x = |x| := rfl

/-- The smaller of two reals. -/
@[simp] lemma min_real (x y : ℝ) : Scalar.min x y = Min.min x y := by
  simp only [Scalar.min]
  split
  · rename_i h
    exact (min_eq_right (le_of_lt h)).symm
  · rename_i h
    rw [if_pos le_rfl]
    exact (min_eq_left (not_lt.mp h)).symm

/-- The larger of two reals. -/
@[simp] lemma max_real (x y : ℝ) : Scalar.max x y = Max.max x y := by
  simp only [Scalar.max]
  split
  · rename_i h
    exact (max_eq_right (le_of_lt h)).symm
  · rename_i h
    rw [if_pos le_rfl]
    exact (max_eq_left (not_lt.mp h)).symm

/-- A clamped real, if the limits are in order. -/
lemma clamp_real {x lo hi : ℝ} (h : lo ≤ hi) : clamp x lo hi = Max.max lo (Min.min hi x) := by
  rw [clamp]
  split
  · rename_i hlow
    exact (max_eq_left ((min_le_right _ _).trans hlow.le)).symm
  · rename_i hlow
    split
    · rename_i hhigh
      rw [min_eq_left hhigh.le, max_eq_right h]
    · rename_i hhigh
      rw [min_eq_right (not_lt.mp hhigh), max_eq_right (not_lt.mp hlow)]

/-- A clamped real is not below the lower limit, if the limits are in order. -/
lemma le_clamp {x lo hi : ℝ} (h : lo ≤ hi) : lo ≤ clamp x lo hi :=
  (le_max_left _ _).trans (clamp_real h).ge

/-- A clamped real is not above the upper limit, if the limits are in order. -/
lemma clamp_le {x lo hi : ℝ} (h : lo ≤ hi) : clamp x lo hi ≤ hi :=
  (clamp_real h).le.trans (max_le h (min_le_left _ _))

end Scalar

end Cinematics
