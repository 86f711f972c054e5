import Mathlib.Tactic.Linarith
import Cinematics.Proofs.Real
import Cinematics.Box.Clearance

/-!
# Crossings over the reals

A crossing stands for an interval of ray parameters.  Narrowing it intersects this interval with
another one (`Crossing.covers_narrow?`), and a parameter at which the ray is strictly inside a box
lies in the interval of every slab.  So a ray is outside the box before its crossing begins
(`Box.containsStrictly_before_enter`), with no assumption about the order of the box's corners: a
box whose corners are out of order has no inside.
-/

namespace Cinematics

/-- The coordinate of a point of a ray. -/
@[simp] lemma Vec.coord_along (o d : Vec ℝ) (t : ℝ) (axis : Axis) :
    (o + d * t).coord axis = o.coord axis + d.coord axis * t := by
  cases axis <;> rfl

/-- Every axis is one of the three. -/
lemma Axis.mem_all (axis : Axis) : axis ∈ Axis.all := by
  cases axis <;> simp [Axis.all]

namespace Crossing

/-- Whether a crossing has a ray parameter in it. -/
def Covers (c : Crossing ℝ) (t : ℝ) : Prop :=
  c.enter ≤ t ∧ ∀ l, c.leave = some l → t ≤ l

/-- The whole ray has all parameters that are not negative. -/
lemma covers_whole {t : ℝ} : whole.Covers t ↔ 0 ≤ t := by
  simp [Covers, whole]

/-- Narrowing keeps the parameters between the two that it is given. -/
lemma covers_narrow? {c c' : Crossing ℝ} {t₁ t₂ t : ℝ} (h : c.narrow? t₁ t₂ = some c') :
    c'.Covers t ↔ c.Covers t ∧ min t₁ t₂ ≤ t ∧ t ≤ max t₁ t₂ := by
  obtain ⟨enter, leave⟩ := c
  cases leave with
  | none =>
    simp only [narrow?, Scalar.min_real, Scalar.max_real, le_refl, if_true] at h
    split at h
    · cases h
    · obtain rfl := Option.some.inj h
      simp only [Covers, max_le_iff, Option.some.injEq, forall_eq', reduceCtorEq]
      tauto
  | some l =>
    simp only [narrow?, Scalar.min_real, Scalar.max_real] at h
    split at h
    · cases h
    · obtain rfl := Option.some.inj h
      simp only [Covers, max_le_iff, le_min_iff, Option.some.injEq, forall_eq']
      tauto

end Crossing

namespace Box

variable {b : Box ℝ} {origin dir : Vec ℝ} {c c' : Crossing ℝ} {t : ℝ} {axis : Axis}

/-- A point is strictly inside where it is strictly between the faces across every axis. -/
lemma containsStrictly_iff {p : Vec ℝ} :
    b.containsStrictly p = true ↔
      ∀ axis, b.low.coord axis < p.coord axis ∧ p.coord axis < b.high.coord axis := by
  simp only [containsStrictly, List.all_eq_true, Bool.and_eq_true, decide_eq_true_eq]
  exact ⟨fun h axis => h axis axis.mem_all, fun h axis _ => h axis⟩

/-- A number that changes is between two others exactly between the parameters at which it takes
them. -/
lemma between_iff {o d lo hi : ℝ} (hd : d ≠ 0) (horder : lo ≤ hi) :
    min ((lo - o) / d) ((hi - o) / d) ≤ t ∧ t ≤ max ((lo - o) / d) ((hi - o) / d) ↔
      lo ≤ o + d * t ∧ o + d * t ≤ hi := by
  rcases lt_or_gt_of_ne hd with hneg | hpos
  · -- going down, the number takes the upper one first
    have hfirst : (hi - o) / d ≤ (lo - o) / d :=
      div_le_div_of_nonpos_of_le hneg.le (sub_le_sub_right horder o)
    rw [min_eq_right hfirst, max_eq_left hfirst, div_le_iff_of_neg hneg, le_div_iff_of_neg hneg]
    constructor
    · rintro ⟨hhi, hlo⟩
      exact ⟨by linarith, by linarith⟩
    · rintro ⟨hlo, hhi⟩
      exact ⟨by linarith, by linarith⟩
  · have hfirst : (lo - o) / d ≤ (hi - o) / d :=
      div_le_div_of_nonneg_right (sub_le_sub_right horder o) hpos.le
    rw [min_eq_left hfirst, max_eq_right hfirst, div_le_iff₀ hpos, le_div_iff₀ hpos]
    constructor
    · rintro ⟨hlo, hhi⟩
      exact ⟨by linarith, by linarith⟩
    · rintro ⟨hlo, hhi⟩
      exact ⟨by linarith, by linarith⟩

/-- A slab either leaves a crossing as it is, for a ray along its faces that starts between them, or
narrows it between the parameters at which the ray meets the two faces. -/
lemma slab?_eq_some (h : b.slab? origin dir c axis = some c') :
    (|dir.coord axis| < 1e-12 ∧
      (b.low.coord axis < origin.coord axis ∧ origin.coord axis < b.high.coord axis) ∧ c' = c) ∨
    (¬ |dir.coord axis| < 1e-12 ∧
      c.narrow? ((b.low.coord axis - origin.coord axis) / dir.coord axis)
        ((b.high.coord axis - origin.coord axis) / dir.coord axis) = some c') := by
  simp only [slab?, Scalar.abs_real] at h
  by_cases hflat : |dir.coord axis| < 1e-12
  · rw [if_pos hflat] at h
    obtain ⟨hbetween, h⟩ := Option.ite_none_left_eq_some.mp h
    rw [not_or, not_le, not_le] at hbetween
    exact .inl ⟨hflat, hbetween, (Option.some.inj h).symm⟩
  · rw [if_neg hflat] at h
    exact .inr ⟨hflat, h⟩

/-- A coordinate that is changed is not changed by nothing. -/
lemma coord_ne_zero_of_steep (h : ¬ |dir.coord axis| < 1e-12) : dir.coord axis ≠ 0 := by
  intro hzero
  rw [hzero, abs_zero] at h
  norm_num at h

/-- A slab keeps the parameters at which the ray is strictly inside the box. -/
lemma covers_slab? (h : b.slab? origin dir c axis = some c')
    (hinside : b.containsStrictly (origin + dir * t) = true) (hc : c.Covers t) : c'.Covers t := by
  rcases slab?_eq_some h with ⟨-, -, rfl⟩ | ⟨hsteep, hnarrow⟩
  · exact hc
  · obtain ⟨hlow, hhigh⟩ := containsStrictly_iff.mp hinside axis
    rw [Vec.coord_along] at hlow hhigh
    have hbetween := (between_iff (coord_ne_zero_of_steep hsteep) (hlow.trans hhigh).le).mpr
      ⟨hlow.le, hhigh.le⟩
    exact (Crossing.covers_narrow? hnarrow).mpr ⟨hc, hbetween⟩

/-- What every slab keeps of a crossing, slabs across any axes keep.  The induction is on the axes
still to come. -/
lemma foldlM_slab?_keeps {P : Crossing ℝ → Prop} {axes : List Axis}
    (hkeeps : ∀ {c c' : Crossing ℝ} {axis : Axis},
      b.slab? origin dir c axis = some c' → P c → P c')
    (h : axes.foldlM (b.slab? origin dir) c = some c') (hc : P c) : P c' := by
  induction axes generalizing c with
  | nil =>
    obtain rfl := Option.some.inj h
    exact hc
  | cons axis axes ih =>
    rw [List.foldlM_cons] at h
    obtain ⟨middle, hslab, h⟩ := Option.bind_eq_some_iff.mp h
    exact ih h (hkeeps hslab hc)

/-- A crossing has the parameters at which the ray is strictly inside the box. -/
lemma covers_crossing?_of_containsStrictly (h : b.crossing? origin dir = some c) (ht : 0 ≤ t)
    (hinside : b.containsStrictly (origin + dir * t) = true) : c.Covers t :=
  foldlM_slab?_keeps (fun hslab => covers_slab? hslab hinside) h (Crossing.covers_whole.mpr ht)

/-- **A ray is outside before its crossing begins.** -/
theorem containsStrictly_before_enter (h : b.crossing? origin dir = some c) (ht : 0 ≤ t)
    (henter : t < c.enter) : b.containsStrictly (origin + dir * t) = false := by
  by_contra hinside
  rw [Bool.not_eq_false] at hinside
  have hcovers : c.Covers t := covers_crossing?_of_containsStrictly h ht hinside
  exact absurd hcovers.1 (not_le.mpr henter)

end Box

end Cinematics
