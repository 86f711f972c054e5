import Mathlib.Tactic.NormNum
import Cinematics.Proofs.Destination
import Cinematics.Proofs.Panning

/-!
# The axes of a camera

The axes that are recovered from where a camera stands and what it looks at have length one, the
right axis is horizontal, and up is at a right angle to both others, whatever the view
(`Frame.IsNearlyOrthonormal`).  A view that is too steep to tell its side has the first coordinate
axis for its right.  This axis need not be at a right angle to such a view, but it misses the right
angle by no more than the horizontal part of the view, which is what is too short.  Up is at a right
angle to both even then, as long as a direction cannot be too steep and lie along the first
coordinate axis at once.  That is what the upper limit for the tolerance is for.

All other views have axes that are orthonormal and upright (`Frame.IsUpright`).
-/

namespace Cinematics

namespace Frame

/-- What the axes of every camera are. -/
structure IsNearlyOrthonormal (frame : Frame ℝ) (eps : ℝ) : Prop where
  /-- Forward has length one. -/
  norm_forward : frame.forward.norm = 1
  /-- Right has length one. -/
  norm_right : frame.right.norm = 1
  /-- Up has length one. -/
  norm_up : frame.up.norm = 1
  /-- Right is horizontal. -/
  right_y : frame.right.y = 0
  /-- Up is at a right angle to right. -/
  up_dot_right : frame.up.dot frame.right = 0
  /-- Up is at a right angle to forward. -/
  up_dot_forward : frame.up.dot frame.forward = 0
  /-- Right is at a right angle to forward, up to the tolerance. -/
  abs_right_dot_forward : |frame.right.dot frame.forward| < eps

/-- What the axes of a camera are, moreover, if its view is not too steep. -/
structure IsUpright (frame : Frame ℝ) : Prop where
  /-- Right is at a right angle to forward. -/
  right_dot_forward : frame.right.dot frame.forward = 0
  /-- The three axes are right-handed. -/
  right_cross_forward : frame.right.cross frame.forward = frame.up
  /-- Up leads upwards. -/
  up_y_pos : 0 < frame.up.y
  /-- Right is forward without its height, a quarter of a turn further. -/
  right_eq : frame.right = (⟨-frame.forward.z, 0, frame.forward.x⟩ : Vec ℝ).normalize

variable {position target forward : Vec ℝ} {eps : ℝ} {frame : Frame ℝ}

/-- A direction is too steep and has the first coordinate axis for its right, or its right is the
direction of its product with up. -/
lemma rightOf_cases (forward : Vec ℝ) (eps : ℝ) :
    (forward.level.norm < eps ∧ rightOf forward eps = Vec.unit .x) ∨
      (eps ≤ forward.level.norm ∧ rightOf forward eps = (forward.cross Vec.up).normalize) := by
  simp only [rightOf, Vec.norm_cross_up]
  split
  · exact .inl ⟨‹_›, rfl⟩
  · exact .inr ⟨not_lt.mp ‹_›, rfl⟩

/-- The right of a direction is at a right angle to it, up to the length below which a vector has no
direction. -/
lemma abs_dot_rightOf_lt (hpos : 0 < eps) : |(rightOf forward eps).dot forward| < eps := by
  rcases rightOf_cases forward eps with ⟨hsteep, hright⟩ | ⟨-, hright⟩
  · have hdot : (rightOf forward eps).dot forward = forward.level.coord .x := by
      rw [hright]
      simp [Vec.dot, Vec.unit, Vec.coord]
    rw [hdot]
    exact (forward.level.abs_coord_le_norm .x).trans_lt hsteep
  · rw [hright, Vec.dot_normalize_cross_left, abs_zero]
    exact hpos

/-- The axes of a camera in terms of its forward axis. -/
lemma eq_of_ofView (h : ofView position target eps = some frame) :
    frame.right = rightOf frame.forward eps ∧
      frame.up = (frame.right.cross frame.forward).normalize := by
  obtain ⟨-, h⟩ := Option.ite_none_left_eq_some.mp h
  obtain rfl := Option.some.inj h
  exact ⟨rfl, rfl⟩

/-- The axes of a camera are nearly orthonormal, unless the length below which a vector has no
direction is above one. -/
lemma isNearlyOrthonormal_of_ofView (hpos : 0 < eps) (hle : eps ≤ 1)
    (h : ofView position target eps = some frame) : frame.IsNearlyOrthonormal eps := by
  obtain ⟨hright, hup⟩ := eq_of_ofView h
  obtain ⟨hforwardOne, hrightOne⟩ := dot_self_of_ofView hpos h
  constructor
  · exact Vec.norm_of_dot_self hforwardOne
  · exact Vec.norm_of_dot_self hrightOne
  · exact norm_up hpos hle h
  · rw [hright]
    exact Vec.y_rightOf
  · rw [hup]
    exact Vec.dot_normalize_cross_left _ _
  · rw [hup]
    exact Vec.dot_normalize_cross_right _ _
  · rw [hright]
    exact abs_dot_rightOf_lt hpos

/-- The axes of a camera are upright if its view is not too steep. -/
lemma isUpright_of_ofView (hpos : 0 < eps) (h : ofView position target eps = some frame)
    (hlevel : eps ≤ frame.forward.level.norm) : frame.IsUpright := by
  obtain ⟨hright, hup⟩ := eq_of_ofView h
  obtain ⟨hforwardOne, -⟩ := dot_self_of_ofView hpos h
  have hside : frame.right.IsSideOf frame.forward := by
    rw [hright]
    exact Vec.isSideOf_rightOf hpos (.inl hlevel)
  have hcross : frame.up = frame.right.cross frame.forward := by
    rw [hup]
    exact Vec.normalize_of_dot_self (hside.dot_cross_self.trans hforwardOne)
  constructor
  · exact hside.dot_right
  · exact hcross.symm
  · rw [hcross, hside.y_cross]
    exact hpos.trans_le hlevel
  · rw [hright, ← Vec.cross_up]
    rcases rightOf_cases frame.forward eps with ⟨hsteep, -⟩ | ⟨-, heq⟩
    · exact absurd hsteep (not_lt.mpr hlevel)
    · exact heq

/-- **The axes of a camera.**  A camera has axes unless it is closer to its target than the
tolerance.  Its forward axis leads to the target.  The axes are nearly orthonormal, and if the
horizontal part of the forward axis is not shorter than the tolerance, they are orthonormal and
upright. -/
theorem ofView_axes (position target : Vec ℝ) (hpos : 0 < eps) (hle : eps ≤ 1) :
    (ofView position target eps = none ↔ (target - position).norm < eps) ∧
      ∀ frame, ofView position target eps = some frame →
        frame.forward * (target - position).norm = target - position ∧
          frame.IsNearlyOrthonormal eps ∧
          (eps ≤ frame.forward.level.norm → frame.IsUpright) := by
  constructor
  · constructor
    · intro hnone
      by_contra hfar
      obtain ⟨frame, hframe, -⟩ := exists_ofView hfar
      rw [hnone] at hframe
      cases hframe
    · exact fun hclose => if_pos hclose
  · intro frame h
    obtain ⟨hforward, hfar⟩ := forward_of_ofView h
    refine ⟨?_, isNearlyOrthonormal_of_ofView hpos hle h, isUpright_of_ofView hpos h⟩
    rw [hforward]
    exact Vec.normalize_mul_norm (hpos.trans_le (not_lt.mp hfar))

/-- With a tolerance of a half, a camera that looks down at an angle has upright axes.  One that
looks up steeply, and somewhat to the right, has axes as well, but its right axis is not at a right
angle to its view. -/
theorem ofView_axes_inclined :
    ((0 : ℝ) < 0.5 ∧ (0.5 : ℝ) ≤ 1) ∧
      (∃ frame : Frame ℝ, ofView ⟨0, 3, 4⟩ ⟨0, 0, 0⟩ 0.5 = some frame ∧
        0.5 ≤ frame.forward.level.norm ∧ frame.IsUpright) ∧
      ∃ frame : Frame ℝ, ofView ⟨0, 0, 0⟩ ⟨5, 12, 0⟩ 0.5 = some frame ∧
        frame.IsNearlyOrthonormal 0.5 ∧ frame.right.dot frame.forward = 5 / 13 := by
  have hpos : (0 : ℝ) < 0.5 := by norm_num
  have hle : (0.5 : ℝ) ≤ 1 := by norm_num
  refine ⟨⟨hpos, hle⟩, ?_, ?_⟩
  · obtain ⟨hnone, haxes⟩ := ofView_axes ⟨0, 3, 4⟩ ⟨0, 0, 0⟩ hpos hle
    have hnorm : (⟨0, 0, 0⟩ - ⟨0, 3, 4⟩ : Vec ℝ).norm = 5 :=
      Vec.norm_eq_of_dot_eq_mul_self (by norm_num) (by norm_num [Vec.dot])
    rw [hnorm] at hnone
    obtain ⟨frame, hframe⟩ := Option.ne_none_iff_exists'.mp (mt hnone.mp (by norm_num))
    have hlevel : frame.forward.level.norm = 4 / 5 := by
      rw [(forward_of_ofView hframe).1, hnorm]
      exact Vec.norm_eq_of_dot_eq_mul_self (by norm_num) (by norm_num [Vec.dot])
    have hlong : 0.5 ≤ frame.forward.level.norm := by
      rw [hlevel]
      norm_num
    exact ⟨frame, hframe, hlong, (haxes frame hframe).2.2 hlong⟩
  · obtain ⟨hnone, haxes⟩ := ofView_axes ⟨0, 0, 0⟩ ⟨5, 12, 0⟩ hpos hle
    have hnorm : (⟨5, 12, 0⟩ - ⟨0, 0, 0⟩ : Vec ℝ).norm = 13 :=
      Vec.norm_eq_of_dot_eq_mul_self (by norm_num) (by norm_num [Vec.dot])
    rw [hnorm] at hnone
    obtain ⟨frame, hframe⟩ := Option.ne_none_iff_exists'.mp (mt hnone.mp (by norm_num))
    have hforward := (forward_of_ofView hframe).1
    rw [hnorm] at hforward
    have hlevel : frame.forward.level.norm = 5 / 13 := by
      rw [hforward]
      exact Vec.norm_eq_of_dot_eq_mul_self (by norm_num) (by norm_num [Vec.dot])
    have hsteep : frame.forward.level.norm < 0.5 := by
      rw [hlevel]
      norm_num
    refine ⟨frame, hframe, (haxes frame hframe).2.1, ?_⟩
    rcases rightOf_cases frame.forward 0.5 with ⟨-, hright⟩ | ⟨hlong, -⟩
    · rw [(eq_of_ofView hframe).1, hright, hforward]
      norm_num [Vec.dot, Vec.unit]
    · exact absurd hsteep (not_lt.mpr hlong)

end Frame

end Cinematics
