import Mathlib.Tactic.Linarith
import Cinematics.Proofs.Clearance

/-!
# What the slabs of a box find

`Box.crossing?` looks at the axes one after the other and keeps the part of a ray that is between
the two faces across each of them.  A ray that hardly changes its coordinate along an axis is taken
to keep the one that it starts with, and then it must not start on a face (`Box.Spans`).

If the corners of the box are in order, a crossing is found if and only if the ray spans all three
axes at some parameter (`Box.exists_crossing?_iff`), and it has exactly the parameters at which the
ray does (`Box.covers_crossing?_iff`).  It begins at one of them (`Box.covers_enter_crossing?`), and
unless it begins with the ray it begins where the ray passes a face that it has been beyond before
(`Box.exists_passes_enter`).
-/

namespace Cinematics

namespace Crossing

variable {c c' : Crossing ℝ} {t₁ t₂ : ℝ}

/-- A crossing is narrowed to begin no earlier than the first of the two parameters. -/
lemma enter_narrow? (h : c.narrow? t₁ t₂ = some c') : c'.enter = max c.enter (min t₁ t₂) := by
  simp only [narrow?, Scalar.min_real, Scalar.max_real] at h
  obtain ⟨-, h⟩ := Option.ite_none_left_eq_some.mp h
  exact (congrArg enter (Option.some.inj h)).symm

/-- A crossing that is left after narrowing has the parameter at which it begins. -/
lemma covers_enter_narrow? (h : c.narrow? t₁ t₂ = some c') : c'.Covers c'.enter := by
  simp only [narrow?] at h
  obtain ⟨hopen, h⟩ := Option.ite_none_left_eq_some.mp h
  refine ⟨le_rfl, fun l hl => ?_⟩
  rw [← Option.some.inj h] at hl ⊢
  simp only at hl ⊢
  rw [hl, Option.any_some, decide_eq_true_eq] at hopen
  exact not_lt.mp hopen

/-- A crossing that has a parameter in it is not used up by narrowing it around the parameter. -/
lemma exists_narrow? {t : ℝ} (hc : c.Covers t) (hmin : min t₁ t₂ ≤ t)
    (hmax : t ≤ max t₁ t₂) : ∃ c', c.narrow? t₁ t₂ = some c' := by
  obtain ⟨enter, leave⟩ := c
  obtain ⟨henter, hleave⟩ := hc
  have hlow : max enter (min t₁ t₂) ≤ t := max_le henter hmin
  cases leave with
  | none =>
    have hopen : ¬ max t₁ t₂ < max enter (min t₁ t₂) := not_lt.mpr (hlow.trans hmax)
    simp only [narrow?, Scalar.min_real, Scalar.max_real, le_refl, if_true, Option.any_some,
      decide_eq_true_eq]
    rw [if_neg hopen]
    exact ⟨_, rfl⟩
  | some l =>
    have hhigh : t ≤ min l (max t₁ t₂) := le_min (hleave l rfl) hmax
    have hopen : ¬ min l (max t₁ t₂) < max enter (min t₁ t₂) := not_lt.mpr (hlow.trans hhigh)
    simp only [narrow?, Scalar.min_real, Scalar.max_real, Option.any_some, decide_eq_true_eq]
    rw [if_neg hopen]
    exact ⟨_, rfl⟩

end Crossing

namespace Box

/-! ### Boxes with their corners in order -/

/-- Whether the corners of a box are in order along each axis. -/
def InOrder (b : Box ℝ) : Prop := ∀ axis, b.low.coord axis ≤ b.high.coord axis

variable {b : Box ℝ} {origin dir : Vec ℝ} {c c' : Crossing ℝ} {t : ℝ} {axis : Axis}

/-- A box stays in order when it is lifted. -/
lemma InOrder.lift (hb : b.InOrder) (a : ℝ) : (b.lift a).InOrder := by
  intro axis
  have horder := hb axis
  cases axis with
  | x => exact add_le_add_left horder 0
  | y => exact add_le_add_left horder a
  | z => exact add_le_add_left horder 0

/-- A point is in the box where it is between the faces across every axis. -/
lemma contains_iff {p : Vec ℝ} :
    b.contains p = true ↔
      ∀ axis, b.low.coord axis ≤ p.coord axis ∧ p.coord axis ≤ b.high.coord axis := by
  simp only [contains, List.all_eq_true, Bool.and_eq_true, decide_eq_true_eq]
  exact ⟨fun h axis => h axis axis.mem_all, fun h axis _ => h axis⟩

/-- A box with a point strictly inside has its corners in order. -/
lemma inOrder_of_containsStrictly {p : Vec ℝ} (h : b.containsStrictly p = true) : b.InOrder := by
  intro axis
  obtain ⟨hlow, hhigh⟩ := containsStrictly_iff.mp h axis
  exact (hlow.trans hhigh).le

/-- A point strictly inside the box is in it. -/
lemma contains_of_containsStrictly {p : Vec ℝ} (h : b.containsStrictly p = true) :
    b.contains p = true :=
  contains_iff.mpr fun axis =>
    ⟨(containsStrictly_iff.mp h axis).1.le, (containsStrictly_iff.mp h axis).2.le⟩

/-! ### Rays between two faces -/

/-- Whether a ray is between the faces across an axis at a parameter, as a slab sees it: a ray that
hardly changes its coordinate keeps the one that it starts with. -/
def Spans (b : Box ℝ) (origin dir : Vec ℝ) (t : ℝ) (axis : Axis) : Prop :=
  if |dir.coord axis| < 1e-12 then
    b.low.coord axis < origin.coord axis ∧ origin.coord axis < b.high.coord axis
  else
    b.low.coord axis ≤ (origin + dir * t).coord axis ∧
      (origin + dir * t).coord axis ≤ b.high.coord axis

/-- A ray spans all axes at a parameter at which it is in the box, if it changes each coordinate
either not at all or by enough to count as a change. -/
lemma contains_of_spans (hsteep : ∀ axis, dir.coord axis = 0 ∨ 1e-12 ≤ |dir.coord axis|)
    (h : ∀ axis, b.Spans origin dir t axis) : b.contains (origin + dir * t) = true := by
  refine contains_iff.mpr fun axis => ?_
  have hspans := h axis
  rw [Spans] at hspans
  by_cases hflat : |dir.coord axis| < 1e-12
  · rw [if_pos hflat] at hspans
    have hzero : dir.coord axis = 0 := (hsteep axis).resolve_right (not_le.mpr hflat)
    rw [Vec.coord_along, hzero, zero_mul, add_zero]
    exact ⟨hspans.1.le, hspans.2.le⟩
  · rw [if_neg hflat] at hspans
    exact hspans

/-- A ray that spans all axes where it starts is in the box there. -/
lemma contains_of_spans_zero (h : ∀ axis, b.Spans origin dir 0 axis) :
    b.contains origin = true := by
  refine contains_iff.mpr fun axis => ?_
  have hspans := h axis
  rw [Spans, Vec.add_mul_zero_real] at hspans
  by_cases hflat : |dir.coord axis| < 1e-12
  · rw [if_pos hflat] at hspans
    exact ⟨hspans.1.le, hspans.2.le⟩
  · rw [if_neg hflat] at hspans
    exact hspans

/-! ### One axis, and all of them -/

/-- A slab keeps exactly the parameters at which the ray is between its faces. -/
lemma covers_slab?_iff (hb : b.InOrder) (h : b.slab? origin dir c axis = some c') :
    c'.Covers t ↔ c.Covers t ∧ b.Spans origin dir t axis := by
  rcases slab?_eq_some h with ⟨hflat, hbetween, rfl⟩ | ⟨hsteep, hnarrow⟩
  · rw [Spans, if_pos hflat]
    exact (and_iff_left hbetween).symm
  · have hne := coord_ne_zero_of_steep hsteep
    rw [Spans, if_neg hsteep, Crossing.covers_narrow? hnarrow, between_iff hne (hb axis),
      Vec.coord_along]

/-- Slabs keep exactly the parameters at which the ray is between the faces of each of them.  The
induction is on the axes still to come. -/
lemma covers_foldlM_slab?_iff (hb : b.InOrder) {axes : List Axis}
    (h : axes.foldlM (b.slab? origin dir) c = some c') :
    c'.Covers t ↔ c.Covers t ∧ ∀ axis ∈ axes, b.Spans origin dir t axis := by
  induction axes generalizing c with
  | nil =>
    obtain rfl := Option.some.inj h
    simp
  | cons axis axes ih =>
    rw [List.foldlM_cons] at h
    obtain ⟨middle, hslab, h⟩ := Option.bind_eq_some_iff.mp h
    rw [ih h, covers_slab?_iff hb hslab, List.forall_mem_cons, and_assoc]

/-- **A crossing has exactly the parameters at which the ray spans all axes.** -/
theorem covers_crossing?_iff (hb : b.InOrder) (h : b.crossing? origin dir = some c) :
    c.Covers t ↔ 0 ≤ t ∧ ∀ axis, b.Spans origin dir t axis := by
  rw [covers_foldlM_slab?_iff hb h, Crossing.covers_whole]
  refine and_congr_right fun _ => ?_
  exact ⟨fun hall axis => hall axis axis.mem_all, fun hall axis _ => hall axis⟩

/-- A slab leaves a crossing the parameter at which it begins. -/
lemma covers_enter_slab? (h : b.slab? origin dir c axis = some c') (hc : c.Covers c.enter) :
    c'.Covers c'.enter := by
  rcases slab?_eq_some h with ⟨-, -, rfl⟩ | ⟨-, hnarrow⟩
  · exact hc
  · exact Crossing.covers_enter_narrow? hnarrow

/-- **A crossing begins at a parameter at which the ray spans all axes.** -/
theorem covers_enter_crossing? (h : b.crossing? origin dir = some c) : c.Covers c.enter :=
  foldlM_slab?_keeps covers_enter_slab? h (Crossing.covers_whole.mpr le_rfl)

/-! ### Rays that cross a box -/

/-- A slab does not end a crossing at a parameter at which the ray is between its faces. -/
lemma exists_slab? (hb : b.InOrder) (hspans : b.Spans origin dir t axis) (hc : c.Covers t) :
    ∃ c', b.slab? origin dir c axis = some c' := by
  unfold Spans at hspans
  simp only [slab?, Scalar.abs_real]
  by_cases hflat : |dir.coord axis| < 1e-12
  · rw [if_pos hflat] at hspans
    have hbetween :
        ¬ (origin.coord axis ≤ b.low.coord axis ∨ b.high.coord axis ≤ origin.coord axis) :=
      not_or.mpr ⟨not_le.mpr hspans.1, not_le.mpr hspans.2⟩
    rw [if_pos hflat, if_neg hbetween]
    exact ⟨c, rfl⟩
  · rw [if_neg hflat, Vec.coord_along] at hspans
    obtain ⟨hmin, hmax⟩ := (between_iff (coord_ne_zero_of_steep hflat) (hb axis)).mpr hspans
    rw [if_neg hflat]
    exact Crossing.exists_narrow? hc hmin hmax

/-- Slabs do not end a crossing at a parameter at which the ray is between the faces of each of
them.  The induction is on the axes still to come; the crossing so far has the parameter. -/
lemma exists_foldlM_slab? (hb : b.InOrder) {axes : List Axis}
    (hspans : ∀ axis ∈ axes, b.Spans origin dir t axis) (hc : c.Covers t) :
    ∃ c', axes.foldlM (b.slab? origin dir) c = some c' := by
  induction axes generalizing c with
  | nil => exact ⟨c, rfl⟩
  | cons axis axes ih =>
    rw [List.forall_mem_cons] at hspans
    obtain ⟨middle, hslab⟩ := exists_slab? hb hspans.1 hc
    have hmiddle : middle.Covers t := (covers_slab?_iff hb hslab).mpr ⟨hc, hspans.1⟩
    rw [List.foldlM_cons, hslab]
    exact ih hspans.2 hmiddle

/-- **A ray crosses a box exactly if it spans all axes at some parameter.** -/
theorem exists_crossing?_iff (hb : b.InOrder) :
    (∃ c, b.crossing? origin dir = some c) ↔ ∃ t, 0 ≤ t ∧ ∀ axis, b.Spans origin dir t axis := by
  constructor
  · rintro ⟨c, hc⟩
    exact ⟨c.enter, (covers_crossing?_iff hb hc).mp (covers_enter_crossing? hc)⟩
  · rintro ⟨t, ht, hspans⟩
    exact exists_foldlM_slab? hb (fun axis _ => hspans axis) (Crossing.covers_whole.mpr ht)

/-! ### The face at which a crossing begins -/

/-- Whether a ray starts beyond a face and is level with it at a parameter. -/
def Passes (b : Box ℝ) (origin dir : Vec ℝ) (t : ℝ) (f : Face) : Prop :=
  b.gap origin f < 0 ∧ b.gap (origin + dir * t) f = 0

/-- Of the two parameters at which a ray is level with the faces across an axis, the first is where
it passes one of them, if this comes after the start. -/
lemma exists_passes_min (hb : b.InOrder) (hsteep : ¬ |dir.coord axis| < 1e-12)
    (hfirst : t = min ((b.low.coord axis - origin.coord axis) / dir.coord axis)
      ((b.high.coord axis - origin.coord axis) / dir.coord axis)) (hlate : 0 < t) :
    ∃ f, b.Passes origin dir t f := by
  have hne := coord_ne_zero_of_steep hsteep
  have horder := sub_le_sub_right (hb axis) (origin.coord axis)
  rcases lt_or_gt_of_ne hne with hneg | hpos
  · rw [min_eq_right (div_le_div_of_nonpos_of_le hneg.le horder)] at hfirst
    rw [hfirst, lt_div_iff_of_neg hneg, zero_mul] at hlate
    refine ⟨⟨axis, true⟩, hlate, ?_⟩
    simp only [gap, if_true, Vec.coord_along, hfirst]
    rw [mul_div_cancel₀ _ hne]
    ring
  · rw [min_eq_left (div_le_div_of_nonneg_right horder hpos.le)] at hfirst
    rw [hfirst, lt_div_iff₀ hpos, zero_mul] at hlate
    refine ⟨⟨axis, false⟩, sub_neg.mpr (sub_pos.mp hlate), ?_⟩
    simp only [gap, Bool.false_eq_true, if_false, Vec.coord_along, hfirst]
    rw [mul_div_cancel₀ _ hne]
    ring

/-- A slab lets a crossing begin no earlier. -/
lemma enter_le_slab? (h : b.slab? origin dir c axis = some c') : c.enter ≤ c'.enter := by
  rcases slab?_eq_some h with ⟨-, -, rfl⟩ | ⟨-, hnarrow⟩
  · exact le_rfl
  · rw [Crossing.enter_narrow? hnarrow]
    exact le_max_left _ _

/-- A slab lets a crossing begin where it began, or where the ray passes a face. -/
lemma exists_passes_slab? (hb : b.InOrder) (h : b.slab? origin dir c axis = some c')
    (hc : 0 ≤ c.enter) : c'.enter = c.enter ∨ ∃ f, b.Passes origin dir c'.enter f := by
  rcases slab?_eq_some h with ⟨-, -, rfl⟩ | ⟨hsteep, hnarrow⟩
  · exact .inl rfl
  · have henter := Crossing.enter_narrow? hnarrow
    rcases le_or_gt c'.enter c.enter with hsame | hlater
    · exact .inl (le_antisymm hsame (enter_le_slab? h))
    · refine .inr (exists_passes_min hb hsteep ?_ (hc.trans_lt hlater))
      rcases max_choice c.enter (min ((b.low.coord axis - origin.coord axis) / dir.coord axis)
        ((b.high.coord axis - origin.coord axis) / dir.coord axis)) with hmax | hmax
      · exact absurd (henter.trans hmax) hlater.ne'
      · exact henter.trans hmax

/-- **A crossing begins with the ray, or where the ray passes a face.** -/
theorem exists_passes_enter (hb : b.InOrder) (h : b.crossing? origin dir = some c) :
    c.enter = 0 ∨ ∃ f, b.Passes origin dir c.enter f := by
  -- a slab may rely on it that the crossing so far does not begin before the ray
  have hkeeps : ∀ {c c' : Crossing ℝ} {axis : Axis}, b.slab? origin dir c axis = some c' →
      0 ≤ c.enter ∧ (c.enter = 0 ∨ ∃ f, b.Passes origin dir c.enter f) →
      0 ≤ c'.enter ∧ (c'.enter = 0 ∨ ∃ f, b.Passes origin dir c'.enter f) := by
    rintro c c' axis hslab ⟨hstart, hbegins⟩
    refine ⟨hstart.trans (enter_le_slab? hslab), ?_⟩
    rcases exists_passes_slab? hb hslab hstart with hsame | hface
    · rw [hsame]
      exact hbegins
    · exact .inr hface
  have hwhole : 0 ≤ (Crossing.whole : Crossing ℝ).enter := le_rfl
  exact (foldlM_slab?_keeps hkeeps h ⟨hwhole, .inl rfl⟩).2

end Box

end Cinematics
