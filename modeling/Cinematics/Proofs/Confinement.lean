import Mathlib.Tactic.Linarith
import Mathlib.Tactic.NormNum
import Cinematics.Proofs.Containment
import Cinematics.Proofs.Slab

/-!
# When the camera is kept from its candidate

A candidate goes through three stages, and may still give way to the start after that.  This file is
about what the stages leave alone, and what they make sure of.

The distance from the anchor is clamped after the height, and in one of three directions: along the
candidate's own ray, along that of the start, or towards the viewer.  In each of them the camera
ends up at the distance that it is sent to, so without a box to come in between, every place is at
an allowed distance, give or take a tolerance (`Scene.allowsDistance_place`).  The height may be
undone.

A candidate that is within the limits, with a free way to it, is not touched at all
(`Scene.place_of_unhindered`).  Here the slabs of the box have to find nothing: a crossing that is
found begins at a point of the box, and the segment has none.
-/

namespace Cinematics

/-! ### Distances that are clamped -/

namespace Vec

/-- A direction that falls back to one of length one has length one. -/
lemma norm_normalizeOr {v fallback : Vec ℝ} {eps : ℝ} (heps : 0 < eps)
    (hfallback : fallback.norm = 1) : (v.normalizeOr fallback eps).norm = 1 := by
  by_cases hshort : v.norm < eps
  · have hdirection : v.normalizeOr fallback eps = fallback := if_pos hshort
    rw [hdirection, hfallback]
  · have hdirection : v.normalizeOr fallback eps = v.normalize := if_neg hshort
    have hlong : v ≠ 0 := ne_zero_of_norm_pos (heps.trans_le (not_lt.mp hshort))
    rw [hdirection, norm_normalize hlong]

end Vec

namespace Envelope

variable {e : Envelope ℝ} {tolerance eps : ℝ} {p anchor fallback : Vec ℝ}

/-- A height that is allowed is allowed with a greater tolerance. -/
lemma AllowsHeight.mono {tolerance' y : ℝ} (h : e.AllowsHeight tolerance y)
    (hle : tolerance ≤ tolerance') : e.AllowsHeight tolerance' y := by
  obtain ⟨hlo, hhi⟩ := h
  exact ⟨by linarith, by linarith⟩

/-- A distance that is allowed is allowed with a greater tolerance. -/
lemma AllowsDistance.mono {tolerance' d : ℝ} (h : e.AllowsDistance tolerance d)
    (hle : tolerance ≤ tolerance') : e.AllowsDistance tolerance' d := by
  obtain ⟨hlo, hhi⟩ := h
  exact ⟨by linarith, by linarith⟩

/-- A distance off one within the limits by no more than the tolerance is allowed. -/
lemma AllowsDistance.of_near {d d' : ℝ} (h : e.AllowsDistance 0 d) (hnear : |d - d'| ≤ tolerance) :
    e.AllowsDistance tolerance d' := by
  obtain ⟨hlo, hhi⟩ := abs_le.mp hnear
  have hmin := h.1
  have hmax := h.2
  exact ⟨by linarith, by linarith⟩

/-- A clamped distance is allowed, if the limits are in order. -/
lemma allowsDistance_clamp (horder : e.minDistance ≤ e.maxDistance) (d : ℝ) :
    e.AllowsDistance 0 (min (max d e.minDistance) e.maxDistance) := by
  rw [AllowsDistance, sub_zero, add_zero]
  exact ⟨le_min (le_max_right _ _) horder, min_le_right _ _⟩

/-- A position whose distance is clamped stays where it is, if that is near enough, or is at the
distance that it is brought to. -/
lemma norm_clampDistance_cases (p anchor fallback : Vec ℝ) (heps : 0 < eps)
    (hnonneg : 0 ≤ e.minDistance) (horder : e.minDistance ≤ e.maxDistance) :
    (e.clampDistance p anchor fallback eps = p ∧
      |min (max (p - anchor).norm e.minDistance) e.maxDistance - (p - anchor).norm| ≤ eps) ∨
    (e.clampDistance p anchor fallback eps - anchor).norm =
      min (max (p - anchor).norm e.minDistance) e.maxDistance := by
  set goal := min (max (p - anchor).norm e.minDistance) e.maxDistance with hgoal
  simp only [clampDistance, Scalar.min_real, Scalar.max_real, Scalar.abs_real, ← hgoal]
  by_cases hsame : |goal - (p - anchor).norm| ≤ eps
  · exact .inl ⟨if_pos hsame, hsame⟩
  · right
    have hunit := Vec.norm_normalizeOr (v := p - anchor) heps
      (Vec.norm_normalizeOr (v := fallback) heps (Vec.norm_unit .z))
    have hpositive : 0 ≤ goal := le_min (hnonneg.trans (le_max_right _ _)) (hnonneg.trans horder)
    rw [if_neg hsame, Vec.add_sub_cancel_left_real, Vec.norm_mul_real, hunit, one_mul,
      abs_of_nonneg hpositive]

/-- A position whose distance is clamped is at an allowed distance, up to the length below which no
difference counts. -/
lemma allowsDistance_clampDistance (heps : 0 < eps) (hnonneg : 0 ≤ e.minDistance)
    (horder : e.minDistance ≤ e.maxDistance) :
    e.AllowsDistance eps (e.clampDistance p anchor fallback eps - anchor).norm := by
  have hallowed := allowsDistance_clamp horder (p - anchor).norm
  rcases norm_clampDistance_cases p anchor fallback heps hnonneg horder with ⟨hsame, hnear⟩ | hgoal
  · rw [hsame]
    exact hallowed.of_near hnear
  · rw [hgoal]
    exact hallowed.mono heps.le

/-- A position at an allowed distance stays where it is when its distance is clamped. -/
lemma clampDistance_of_allowsDistance (heps : 0 ≤ eps)
    (h : e.AllowsDistance 0 (p - anchor).norm) :
    e.clampDistance p anchor fallback eps = p := by
  rw [AllowsDistance, sub_zero, add_zero] at h
  simp only [clampDistance, Scalar.min_real, Scalar.max_real, Scalar.abs_real]
  rw [max_eq_left h.1, min_eq_left h.2, sub_self, abs_zero, if_pos heps]

/-- A position within the limits is confined to where it is. -/
lemma confine_of_admits (heps : 0 ≤ eps) (h : e.admits p anchor 0 = true) :
    e.confine p anchor fallback eps = p := by
  obtain ⟨hheight, hdistance⟩ := admits_iff.mp h
  rw [confine, clampHeight_of_allowsHeight hheight, clampDistance_of_allowsDistance heps hdistance]

end Envelope

/-! ### Segments that miss the box -/

namespace Box

variable {b : Box ℝ} {start finish : Vec ℝ}

/-- Whether no point of a segment is in the box or on its surface. -/
def IsMissedBy (b : Box ℝ) (start finish : Vec ℝ) : Prop :=
  ∀ t : ℝ, 0 ≤ t → t ≤ 1 → b.contains (start + (finish - start) * t) = false

/-- A segment that misses the box is not stopped: a crossing of its ray begins at a point of the
box, and so after the segment has ended. -/
lemma stop?_of_isMissedBy (hb : b.InOrder)
    (hsteep : ∀ axis, (finish - start).coord axis = 0 ∨ 1e-12 ≤ |(finish - start).coord axis|)
    (hmiss : b.IsMissedBy start finish) : b.stop? start finish = none := by
  by_contra hstop
  obtain ⟨p, hp⟩ := Option.ne_none_iff_exists'.mp hstop
  obtain ⟨-, c, hc, ⟨-, henter⟩, -⟩ := stop?_eq_some hp
  obtain ⟨hnonneg, hspans⟩ := (covers_crossing?_iff hb hc).mp (covers_enter_crossing? hc)
  have hinside := contains_of_spans hsteep hspans
  rw [hmiss c.enter hnonneg henter] at hinside
  cases hinside

/-- A segment that misses the box is cleared to its own end. -/
lemma clear_of_isMissedBy (hb : b.InOrder)
    (hsteep : ∀ axis, (finish - start).coord axis = 0 ∨ 1e-12 ≤ |(finish - start).coord axis|)
    (hmiss : b.IsMissedBy start finish) : b.clear start finish = finish := by
  have hfinish : b.containsStrictly finish = false := by
    by_contra hinside
    rw [Bool.not_eq_false] at hinside
    have hend := hmiss 1 zero_le_one le_rfl
    rw [Vec.add_sub_mul_one_real, contains_of_containsStrictly hinside] at hend
    cases hend
  simp only [clear, stop?_of_isMissedBy hb hsteep hmiss, hfinish, Bool.false_eq_true, if_false]

end Box

/-! ### Places -/

namespace Scene

variable {scene : Scene ℝ} {around : Surroundings ℝ} {eps : ℝ} {start candidate anchor : Vec ℝ}
  {e : Envelope ℝ}

/-- A position within the limits and outside the box is admissible. -/
lemma isAdmissible_of_admits {p : Vec ℝ}
    (hadmits : ∀ e, around.envelope = some e → e.admits p anchor 0 = true)
    (houtside : scene.IsOutside around p) : scene.isAdmissible around p anchor = true := by
  have htolerance : (0 : ℝ) ≤ admitTolerance := by norm_num [admitTolerance]
  cases henvelope : around.envelope with
  | none => exact (isAdmissible_iff_isOutside henvelope).mpr houtside
  | some e =>
    obtain ⟨hheight, hdistance⟩ := Envelope.admits_iff.mp (hadmits e henvelope)
    exact (isAdmissible_iff henvelope).mpr
      ⟨⟨hheight.mono htolerance, hdistance.mono htolerance⟩, houtside⟩

/-- Without a box a candidate settles where it is confined. -/
lemma settle_of_bounds_none (henvelope : around.envelope = some e) (hbounds : scene.bounds = none) :
    scene.settle around eps start candidate anchor =
      e.confine candidate anchor (start - anchor) eps := by
  simp only [settle, liftedBounds, henvelope, hbounds, Option.map_none]

/-- Without a box every position is outside. -/
lemma isOutside_of_bounds_none (hbounds : scene.bounds = none) (p : Vec ℝ) :
    scene.IsOutside around p := by
  intro b hb
  rw [liftedBounds, hbounds] at hb
  cases hb

/-- **Without a box the distance keeps to its limits.**

Over the reals, and with limits of distance in order, the camera is placed at an allowed distance
from the anchor, up to the length below which no difference counts or up to the tolerance of
admission, whichever is greater.  This holds from any start, also one that is not admissible.  If
the candidate is at an allowed distance once its height has been clamped, that is where the camera
is placed. -/
theorem allowsDistance_place (henvelope : around.envelope = some e) (hbounds : scene.bounds = none)
    (heps : 0 < eps) (hnonneg : 0 ≤ e.minDistance) (horder : e.minDistance ≤ e.maxDistance)
    (start candidate anchor : Vec ℝ) :
    e.AllowsDistance (max eps admitTolerance)
        (scene.place around eps start candidate anchor - anchor).norm ∧
      (e.minHeight ≤ e.maxHeight → e.AllowsDistance 0 (e.clampHeight candidate - anchor).norm →
        scene.place around eps start candidate anchor = e.clampHeight candidate) := by
  constructor
  · rcases place_cases scene around eps start candidate anchor with ⟨hstart, hplace⟩ | hplace
    · obtain ⟨⟨-, hdistance⟩, -⟩ := (isAdmissible_iff henvelope).mp hstart
      rw [hplace]
      exact hdistance.mono (le_max_right _ _)
    · rw [hplace, settle_of_bounds_none henvelope hbounds, Envelope.confine]
      exact (Envelope.allowsDistance_clampDistance heps hnonneg horder).mono (le_max_left _ _)
  · intro hheights hdistance
    have hinOrder : e.InOrder := ⟨hheights, hnonneg, horder⟩
    have hsettle : scene.settle around eps start candidate anchor = e.clampHeight candidate := by
      rw [settle_of_bounds_none henvelope hbounds, Envelope.confine,
        Envelope.clampDistance_of_allowsDistance heps.le hdistance]
    have hadmissible : scene.isAdmissible around
        (scene.settle around eps start candidate anchor) anchor = true := by
      rw [hsettle]
      refine isAdmissible_of_admits (fun e' he' => ?_) (isOutside_of_bounds_none hbounds _)
      obtain rfl := Option.some.inj (henvelope.symm.trans he')
      exact Envelope.admits_iff.mpr ⟨hinOrder.allowsHeight_clampHeight candidate, hdistance⟩
    rw [place_of_isAdmissible_settle hadmissible, hsettle]

/-- Limits that keep a camera between two and ten units away, and no higher than six. -/
noncomputable def shell : Envelope ℝ := ⟨2.0, 10.0, 0, 6.0⟩

/-- A camera sent straight up from its anchor is placed at the greatest height, from wherever it
comes. -/
theorem allowsDistance_place_above :
    (0 < (Settings.standard : Settings ℝ).epsilon ∧ 0 ≤ shell.minDistance ∧
      shell.minDistance ≤ shell.maxDistance) ∧
    shell.AllowsDistance (max (Settings.standard : Settings ℝ).epsilon admitTolerance)
      ((empty : Scene ℝ).place ⟨some shell, 0⟩ (Settings.standard : Settings ℝ).epsilon
        ⟨0, 0, 0.1⟩ ⟨0, 9, 0⟩ ⟨0, 0, 0⟩ - ⟨0, 0, 0⟩).norm ∧
    (shell.minHeight ≤ shell.maxHeight ∧
      shell.AllowsDistance 0 (shell.clampHeight ⟨0, 9, 0⟩ - ⟨0, 0, 0⟩).norm) ∧
    (empty : Scene ℝ).place ⟨some shell, 0⟩ (Settings.standard : Settings ℝ).epsilon
      ⟨0, 0, 0.1⟩ ⟨0, 9, 0⟩ ⟨0, 0, 0⟩ = ⟨0, 6, 0⟩ := by
  have heps : 0 < (Settings.standard : Settings ℝ).epsilon := by norm_num [Settings.standard]
  have hnonneg : 0 ≤ shell.minDistance := by norm_num [shell]
  have horder : shell.minDistance ≤ shell.maxDistance := by norm_num [shell]
  have hheights : shell.minHeight ≤ shell.maxHeight := by norm_num [shell]
  have hclamp : shell.clampHeight ⟨0, 9, 0⟩ = ⟨0, 6, 0⟩ := by
    norm_num [Envelope.clampHeight, shell]
  have hlength : (shell.clampHeight ⟨0, 9, 0⟩ - ⟨0, 0, 0⟩).norm = 6 := by
    refine Vec.norm_eq_of_dot_eq_mul_self (by norm_num) ?_
    rw [hclamp]
    norm_num [Vec.dot]
  have hdistance : shell.AllowsDistance 0 (shell.clampHeight ⟨0, 9, 0⟩ - ⟨0, 0, 0⟩).norm := by
    rw [hlength]
    norm_num [Envelope.AllowsDistance, shell]
  have henvelope : (⟨some shell, 0⟩ : Surroundings ℝ).envelope = some shell := rfl
  have hnone : (empty : Scene ℝ).bounds = none := rfl
  obtain ⟨hallowed, hplace⟩ :=
    allowsDistance_place henvelope hnone heps hnonneg horder ⟨0, 0, 0.1⟩ ⟨0, 9, 0⟩ ⟨0, 0, 0⟩
  exact ⟨⟨heps, hnonneg, horder⟩, hallowed, ⟨hheights, hdistance⟩,
    (hplace hheights hdistance).trans hclamp⟩

/-- A candidate that is within the limits, and on a way that the box leaves clear, settles where it
is. -/
lemma settle_of_unhindered (heps : 0 ≤ eps)
    (hadmits : ∀ e, around.envelope = some e → e.admits candidate anchor 0 = true)
    (hclear : ∀ b, scene.liftedBounds around = some b → b.clear start candidate = candidate) :
    scene.settle around eps start candidate anchor = candidate := by
  have hconfine : ∀ e, around.envelope = some e →
      e.confine candidate anchor (start - anchor) eps = candidate :=
    fun e he => Envelope.confine_of_admits heps (hadmits e he)
  cases henvelope : around.envelope with
  | none =>
    cases hlifted : scene.liftedBounds around with
    | none => simp only [settle, henvelope, hlifted]
    | some b => simp only [settle, henvelope, hlifted, hclear b hlifted]
  | some e =>
    cases hlifted : scene.liftedBounds around with
    | none => simp only [settle, henvelope, hlifted, hconfine e henvelope]
    | some b => simp only [settle, henvelope, hlifted, hconfine e henvelope, hclear b hlifted]

/-- **Clamping leaves alone what needs no clamping.**

Over the reals, let a candidate be within the limits of height and distance, if there are any, and
let the segment to it from the start miss the lifted box, if there is one, whose corners are in
order.  If each coordinate changes along the segment either not at all or by enough to count as a
change, the camera is placed at the candidate itself. -/
theorem place_of_unhindered (heps : 0 < eps) (hbounds : ∀ b, scene.bounds = some b → b.InOrder)
    (hsteep : ∀ axis, (candidate - start).coord axis = 0 ∨
      1e-12 ≤ |(candidate - start).coord axis|)
    (hadmits : ∀ e, around.envelope = some e → e.admits candidate anchor 0 = true)
    (hmiss : ∀ b, scene.liftedBounds around = some b → b.IsMissedBy start candidate) :
    scene.place around eps start candidate anchor = candidate := by
  have hclear : ∀ b, scene.liftedBounds around = some b → b.clear start candidate = candidate := by
    intro b hlifted
    obtain ⟨b', hb', rfl⟩ := Option.map_eq_some_iff.mp hlifted
    exact Box.clear_of_isMissedBy ((hbounds b' hb').lift _) hsteep (hmiss _ hlifted)
  have hsettle : scene.settle around eps start candidate anchor = candidate :=
    settle_of_unhindered heps.le hadmits hclear
  have houtside : scene.IsOutside around candidate :=
    hsettle ▸ isOutside_settle eps start candidate anchor
  have hadmissible : scene.isAdmissible around
      (scene.settle around eps start candidate anchor) anchor = true := by
    rw [hsettle]
    exact isAdmissible_of_admits hadmits houtside
  rw [place_of_isAdmissible_settle hadmissible, hsettle]

/-- A camera that heads straight for the cube, and stops in time, is not stopped before. -/
theorem place_of_unhindered_ahead :
    (0 < (Settings.standard : Settings ℝ).epsilon ∧
      (∀ b, (cube : Scene ℝ).bounds = some b → b.InOrder) ∧
      (∀ axis, ((⟨0, 0, 3⟩ - ⟨0, 0, 5⟩ : Vec ℝ).coord axis = 0 ∨
        1e-12 ≤ |(⟨0, 0, 3⟩ - ⟨0, 0, 5⟩ : Vec ℝ).coord axis|)) ∧
      shell.admits ⟨0, 0, 3⟩ ⟨0, 0, 0⟩ 0 = true ∧
      ∀ b, (cube : Scene ℝ).liftedBounds ⟨some shell, 0⟩ = some b →
        b.IsMissedBy ⟨0, 0, 5⟩ ⟨0, 0, 3⟩) ∧
    (cube : Scene ℝ).place ⟨some shell, 0⟩ (Settings.standard : Settings ℝ).epsilon
      ⟨0, 0, 5⟩ ⟨0, 0, 3⟩ ⟨0, 0, 0⟩ = ⟨0, 0, 3⟩ := by
  have heps : 0 < (Settings.standard : Settings ℝ).epsilon := by norm_num [Settings.standard]
  have hbounds : ∀ b, (cube : Scene ℝ).bounds = some b → b.InOrder := by
    intro b hb axis
    obtain rfl := Option.some.inj hb
    cases axis <;> norm_num [Vec.coord]
  have hsteep : ∀ axis, (⟨0, 0, 3⟩ - ⟨0, 0, 5⟩ : Vec ℝ).coord axis = 0 ∨
      1e-12 ≤ |(⟨0, 0, 3⟩ - ⟨0, 0, 5⟩ : Vec ℝ).coord axis| := by
    intro axis
    cases axis with
    | x => exact .inl (sub_self 0)
    | y => exact .inl (sub_self 0)
    | z => exact .inr (by norm_num [Vec.coord])
  have hadmits : shell.admits ⟨0, 0, 3⟩ ⟨0, 0, 0⟩ 0 = true := by
    have hlength : ((⟨0, 0, 3⟩ : Vec ℝ) - ⟨0, 0, 0⟩).norm = 3 := by
      refine Vec.norm_eq_of_dot_eq_mul_self (by norm_num) ?_
      norm_num [Vec.dot]
    rw [Envelope.admits_iff, hlength]
    norm_num [Envelope.AllowsHeight, Envelope.AllowsDistance, shell]
  have hmiss : ∀ b, (cube : Scene ℝ).liftedBounds ⟨some shell, 0⟩ = some b →
      b.IsMissedBy ⟨0, 0, 5⟩ ⟨0, 0, 3⟩ := by
    intro b hb t h0 h1
    obtain rfl := Option.some.inj hb
    by_contra hinside
    rw [Bool.not_eq_false] at hinside
    have hfront := (Box.contains_iff.mp hinside .z).2
    norm_num [Box.lift, Box.translate, Vec.height, Vec.coord] at hfront
    linarith
  refine ⟨⟨heps, hbounds, hsteep, hadmits, hmiss⟩,
    place_of_unhindered heps hbounds hsteep (fun e he => ?_) hmiss⟩
  obtain rfl := Option.some.inj he
  exact hadmits

end Scene

end Cinematics
