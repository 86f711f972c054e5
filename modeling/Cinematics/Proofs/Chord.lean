import Mathlib.Order.Interval.Set.Basic
import Mathlib.Tactic.NormNum
import Cinematics.Proofs.Incidence

/-!
# The chord of a ray in a box

The part of a ray within a closed box is a chord, and a crossing has the parameters at which the
chord begins and ends.  For a ray that changes each coordinate either not at all or by enough to
count, and that does not stand still, crossings are exact (`Box.crossing?_exact`): there is one if
and only if there is a chord, and it has the parameters of the chord and no others.

The exception is built in.  A ray that runs along a face of the box has a chord, but is not found to
cross the box, since that is sliding along the box and not entering it.  So where a ray keeps a
coordinate, it has to start strictly between the two faces across the axis (`Box.StartsBetween`).
-/

namespace Cinematics

/-! ### Where a crossing ends -/

/-- A crossing that has been narrowed has an end. -/
lemma Crossing.exists_leave_narrow? {c c' : Crossing ℝ} {t₁ t₂ : ℝ}
    (h : c.narrow? t₁ t₂ = some c') : ∃ leave, c'.leave = some leave := by
  simp only [narrow?, Scalar.min_real, Scalar.max_real, le_refl, if_true] at h
  obtain ⟨-, h⟩ := Option.ite_none_left_eq_some.mp h
  rw [← Option.some.inj h]
  cases c.leave with
  | none => exact ⟨_, rfl⟩
  | some l => exact ⟨_, rfl⟩

namespace Box

variable {b : Box ℝ} {origin dir : Vec ℝ} {c c' : Crossing ℝ} {axis : Axis} {t : ℝ}

/-- A slab leaves an end to a crossing that has one, and gives it one if the ray moves across the
slab. -/
lemma exists_leave_slab? (h : b.slab? origin dir c axis = some c')
    (hc : (∃ leave, c.leave = some leave) ∨ ¬ |dir.coord axis| < 1e-12) :
    ∃ leave, c'.leave = some leave := by
  rcases slab?_eq_some h with ⟨hflat, -, rfl⟩ | ⟨-, hnarrow⟩
  · exact hc.resolve_right (not_not_intro hflat)
  · exact Crossing.exists_leave_narrow? hnarrow

/-- Slabs leave an end to a crossing that has one, and give it one if the ray moves across any of
them.  The induction is on the axes still to come. -/
lemma exists_leave_foldlM_slab? {axes : List Axis}
    (h : axes.foldlM (b.slab? origin dir) c = some c')
    (hc : (∃ leave, c.leave = some leave) ∨ ∃ axis ∈ axes, ¬ |dir.coord axis| < 1e-12) :
    ∃ leave, c'.leave = some leave := by
  induction axes generalizing c with
  | nil =>
    obtain rfl := Option.some.inj h
    simpa using hc
  | cons axis axes ih =>
    rw [List.foldlM_cons] at h
    obtain ⟨middle, hslab, h⟩ := Option.bind_eq_some_iff.mp h
    apply ih h
    rcases hc with hends | ⟨moving, hmem, hmoves⟩
    · exact .inl (exists_leave_slab? hslab (.inl hends))
    · rcases List.mem_cons.mp hmem with rfl | hlater
      · exact .inl (exists_leave_slab? hslab (.inr hmoves))
      · exact .inr ⟨moving, hlater, hmoves⟩

/-- The crossing of a ray that moves has an end, and does not end before it begins. -/
lemma exists_leave_crossing? (hmoves : ¬ |dir.coord axis| < 1e-12)
    (h : b.crossing? origin dir = some c) : ∃ leave, c.leave = some leave ∧ c.enter ≤ leave := by
  obtain ⟨leave, hleave⟩ := exists_leave_foldlM_slab? h (.inr ⟨axis, axis.mem_all, hmoves⟩)
  exact ⟨leave, hleave, (covers_enter_crossing? h).2 leave hleave⟩

/-! ### Rays that are found to cross a box -/

/-- Whether a ray starts strictly between the two faces across each axis along which it keeps its
coordinate. -/
def StartsBetween (b : Box ℝ) (origin dir : Vec ℝ) : Prop :=
  ∀ axis, dir.coord axis = 0 →
    b.low.coord axis < origin.coord axis ∧ origin.coord axis < b.high.coord axis

/-- A ray spans all axes at a parameter exactly if it is in the box there and is not on a face that
it runs along. -/
lemma forall_spans_iff (hsteep : ∀ axis, dir.coord axis = 0 ∨ 1e-12 ≤ |dir.coord axis|) :
    (∀ axis, b.Spans origin dir t axis) ↔
      b.StartsBetween origin dir ∧ b.contains (origin + dir * t) = true := by
  constructor
  · intro h
    refine ⟨?_, contains_of_spans hsteep h⟩
    intro axis hkept
    have hspans := h axis
    rwa [Spans, hkept, abs_zero, if_pos (by norm_num)] at hspans
  · rintro ⟨hbetween, hinside⟩ axis
    unfold Spans
    split
    · rename_i hflat
      exact hbetween axis ((hsteep axis).resolve_right (not_le.mpr hflat))
    · exact contains_iff.mp hinside axis

/-- **Crossings are exact.**  A ray that changes each coordinate either not at all or by enough to
count, and not all of them by nothing, is found to cross a box if and only if it is in the box at
some parameter and does not run along a face or beside the box.  The crossing then begins and ends,
in this order and not before the ray does, and has exactly the parameters at which the ray is in the
box. -/
theorem crossing?_exact (origin : Vec ℝ) (hb : b.InOrder)
    (hsteep : ∀ axis, dir.coord axis = 0 ∨ 1e-12 ≤ |dir.coord axis|) (hmoves : dir ≠ 0) :
    ((∃ c, b.crossing? origin dir = some c) ↔
        b.StartsBetween origin dir ∧
          ∃ t : ℝ, 0 ≤ t ∧ b.contains (origin + dir * t) = true) ∧
      ∀ c, b.crossing? origin dir = some c →
        ∃ leave, c.leave = some leave ∧ 0 ≤ c.enter ∧ c.enter ≤ leave ∧
          {t : ℝ | 0 ≤ t ∧ b.contains (origin + dir * t) = true} = Set.Icc c.enter leave := by
  constructor
  · rw [exists_crossing?_iff hb]
    simp only [forall_spans_iff hsteep]
    tauto
  · intro c hc
    obtain ⟨axis, hchanges⟩ : ∃ axis, dir.coord axis ≠ 0 := by
      by_contra hstill
      rw [not_exists_not] at hstill
      exact hmoves (Vec.ext (hstill .x) (hstill .y) (hstill .z))
    have hcounts : ¬ |dir.coord axis| < 1e-12 :=
      not_lt.mpr ((hsteep axis).resolve_left hchanges)
    obtain ⟨leave, hleave, horder⟩ := exists_leave_crossing? hcounts hc
    obtain ⟨hstart, hspans⟩ := (covers_crossing?_iff hb hc).mp (covers_enter_crossing? hc)
    have hbetween : b.StartsBetween origin dir := ((forall_spans_iff hsteep).mp hspans).1
    refine ⟨leave, hleave, hstart, horder, ?_⟩
    ext t
    have hinside : c.Covers t ↔ 0 ≤ t ∧ b.contains (origin + dir * t) = true := by
      rw [covers_crossing?_iff hb hc, forall_spans_iff hsteep, and_iff_right hbetween]
    have hinterval : c.Covers t ↔ c.enter ≤ t ∧ t ≤ leave := by
      rw [Crossing.Covers, hleave]
      simp only [Option.some.injEq, forall_eq']
    rw [Set.mem_ofPred_eq, ← hinside, hinterval, Set.mem_Icc]

/-- A way to the left and away from the viewer, along one level. -/
def aslant {α : Type} [Scalar α] : Vec α := ⟨-2.0, 0, -1⟩

/-- A ray that leads aslant through a cube crosses it at exactly the parameters at which it is in
the cube.  The same way along the top of the cube does not cross it, though it is in the closed cube
for a while. -/
theorem crossing?_exact_aslant :
    (cube.InOrder ∧ (∀ axis, (aslant : Vec ℝ).coord axis = 0 ∨
        1e-12 ≤ |(aslant : Vec ℝ).coord axis|) ∧ (aslant : Vec ℝ) ≠ 0) ∧
    (∃ c leave, cube.crossing? ⟨3, 0, 2⟩ aslant = some c ∧ c.leave = some leave ∧
      {t : ℝ | 0 ≤ t ∧ cube.contains ((⟨3, 0, 2⟩ : Vec ℝ) + (aslant : Vec ℝ) * t) = true} =
        Set.Icc c.enter leave) ∧
    cube.crossing? ⟨3, 1, 2⟩ aslant = none ∧
      cube.contains ((⟨3, 1, 2⟩ : Vec ℝ) + (aslant : Vec ℝ) * (1.5 : ℝ)) = true := by
  have hsteep : ∀ axis, (aslant : Vec ℝ).coord axis = 0 ∨
      1e-12 ≤ |(aslant : Vec ℝ).coord axis| := by
    intro axis
    cases axis <;> norm_num [Vec.coord, aslant]
  have hmoves : (aslant : Vec ℝ) ≠ 0 := by
    intro hzero
    have hx : (-2.0 : ℝ) = 0 := congrArg Vec.x hzero
    norm_num at hx
  refine ⟨⟨inOrder_cube, hsteep, hmoves⟩, ?_, ?_, ?_⟩
  · obtain ⟨hfound, hinterval⟩ := crossing?_exact ⟨3, 0, 2⟩ inOrder_cube hsteep hmoves
    have hbetween : cube.StartsBetween ⟨3, 0, 2⟩ aslant := by
      intro axis hkept
      cases axis with
      | x => norm_num [Vec.coord, aslant] at hkept
      | y => norm_num [Vec.coord, cube]
      | z => norm_num [Vec.coord, aslant] at hkept
    have hinside : cube.contains ((⟨3, 0, 2⟩ : Vec ℝ) + (aslant : Vec ℝ) * (1.5 : ℝ)) = true := by
      norm_num [contains, Axis.all, Vec.coord, cube, aslant]
    obtain ⟨c, hc⟩ := hfound.mpr ⟨hbetween, 1.5, by norm_num, hinside⟩
    obtain ⟨leave, hleave, -, -, hset⟩ := hinterval c hc
    exact ⟨c, leave, hc, hleave, hset⟩
  · obtain ⟨hfound, -⟩ := crossing?_exact ⟨3, 1, 2⟩ inOrder_cube hsteep hmoves
    rw [← Option.not_isSome_iff_eq_none, Option.isSome_iff_exists, hfound]
    rintro ⟨hbetween, -⟩
    obtain ⟨-, hbelow⟩ := hbetween .y rfl
    exact lt_irrefl 1 hbelow
  · norm_num [contains, Axis.all, Vec.coord, cube, aslant]

end Box

end Cinematics
