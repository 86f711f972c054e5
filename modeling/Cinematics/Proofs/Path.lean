import Mathlib.Tactic.Linarith
import Mathlib.Tactic.NormNum
import Mathlib.Tactic.Ring
import Cinematics.Proofs.Clearance
import Cinematics.Proofs.Length
import Cinematics.Proofs.Lift
import Cinematics.Proofs.Slab

/-!
# The way to where a segment is cleared

A segment that is cleared of a box leads straight from its start to the end that it is given.  A
segment that comes from outside and has a point inside the box is stopped before it enters, so that
no point of the way is strictly inside (`Box.clear_path`).

There are two exceptions, and both are tolerances.  A segment whose crossing takes up no more than a
fixed part of it only *grazes* the box, and is let through; the part is one of the parameter, so a
segment that is very long for its box may graze it from face to face.  And a segment that starts on
a face and changes the coordinate across it by next to nothing counts as sliding along the face, and
*creeps* in.  The last theorem of the file is about two segments that enter a cube in these ways.
-/

namespace Cinematics

/-! ### Points of a segment -/

namespace Vec

/-- A part of a part of a way. -/
lemma add_sub_mul_mul_real (o d : Vec ℝ) (s t : ℝ) :
    o + (o + d * s - o) * t = o + d * (s * t) := by
  ext
  · simp only [add_x, sub_x, mul_x]
    ring
  · simp only [add_y, sub_y, mul_y]
    ring
  · simp only [add_z, sub_z, mul_z]
    ring

/-- The whole way from one point leads to the other. -/
lemma add_sub_mul_one_real (p q : Vec ℝ) : p + (q - p) * (1 : ℝ) = q := by
  ext
  · simp only [add_x, sub_x, mul_x]
    ring
  · simp only [add_y, sub_y, mul_y]
    ring
  · simp only [add_z, sub_z, mul_z]
    ring

end Vec

namespace Crossing

variable {c : Crossing ℝ}

/-- A crossing is longer than the distance of two parameters in it, if this is more than a touch. -/
lemma isLongerThan_of_covers {graze t₁ t₂ : ℝ} (h₁ : c.Covers t₁) (h₂ : c.Covers t₂)
    (hlong : graze < t₂ - t₁) : c.isLongerThan graze = true := by
  unfold isLongerThan
  split
  · rfl
  · rename_i l hl
    have henter : c.enter ≤ t₁ := h₁.1
    have hleave : t₂ ≤ l := h₂.2 l hl
    rw [decide_eq_true_eq]
    linarith

end Crossing

namespace Box

/-! ### What a cleared segment may do -/

/-- Whether the end of a segment is inside the box and has to be pushed out through a face. -/
def PushesOut {α : Type} [Scalar α] (b : Box α) (start finish : Vec α) : Prop :=
  b.stop? start finish = none ∧ b.containsStrictly finish = true

/-- Whether a segment has a point strictly inside the box. -/
def Enters (b : Box ℝ) (start finish : Vec ℝ) : Prop :=
  ∃ t : ℝ, 0 ≤ t ∧ t ≤ 1 ∧ b.containsStrictly (start + (finish - start) * t) = true

/-- Whether a segment enters the box from a face, or from beyond it, though it changes the
coordinate across the face by less than counts as a change. -/
def Creeps (b : Box ℝ) (start finish : Vec ℝ) : Prop :=
  b.Enters start finish ∧ ∃ axis,
    (start.coord axis ≤ b.low.coord axis ∨ b.high.coord axis ≤ start.coord axis) ∧
      |(finish - start).coord axis| < 1e-12

/-- Whether a segment enters the box, but its ray has no two points strictly inside that are further
apart than a touch. -/
def Grazes (b : Box ℝ) (start finish : Vec ℝ) : Prop :=
  b.Enters start finish ∧ ∀ t₁ t₂ : ℝ, 0 ≤ t₁ → 0 ≤ t₂ →
    b.containsStrictly (start + (finish - start) * t₁) = true →
    b.containsStrictly (start + (finish - start) * t₂) = true → t₂ - t₁ ≤ 1e-9

variable {b : Box ℝ} {start finish p : Vec ℝ} {c : Crossing ℝ} {t : ℝ}

/-! ### Crossings that are found -/

/-- A ray that is strictly inside the box at a parameter spans all axes there, unless it creeps
in. -/
lemma spans_of_containsStrictly (hcreep : ¬ b.Creeps start finish) (h0 : 0 ≤ t) (h1 : t ≤ 1)
    (hinside : b.containsStrictly (start + (finish - start) * t) = true) (axis : Axis) :
    b.Spans start (finish - start) t axis := by
  unfold Spans
  split
  · -- along the faces: the start is between them, or else the segment creeps
    rename_i hflat
    have hbetween :
        ¬ (start.coord axis ≤ b.low.coord axis ∨ b.high.coord axis ≤ start.coord axis) := by
      intro hbeyond
      exact hcreep ⟨⟨t, h0, h1, hinside⟩, axis, hbeyond, hflat⟩
    rwa [not_or, not_le, not_le] at hbetween
  · obtain ⟨hlow, hhigh⟩ := containsStrictly_iff.mp hinside axis
    exact ⟨hlow.le, hhigh.le⟩

/-- A ray that is strictly inside the box at a parameter crosses it, unless it creeps in. -/
lemma exists_crossing? (hcreep : ¬ b.Creeps start finish) (h0 : 0 ≤ t) (h1 : t ≤ 1)
    (hinside : b.containsStrictly (start + (finish - start) * t) = true) :
    ∃ c, b.crossing? start (finish - start) = some c :=
  (exists_crossing?_iff (inOrder_of_containsStrictly hinside)).mpr
    ⟨t, h0, spans_of_containsStrictly hcreep h0 h1 hinside⟩

/-! ### Segments that are stopped -/

/-- A segment with a point strictly inside the box has a length if it starts outside. -/
lemma norm_pos_of_inside (hstart : b.containsStrictly start = false)
    (hinside : b.containsStrictly (start + (finish - start) * t) = true) :
    0 < (finish - start).norm := by
  by_contra hshort
  have hnone : (finish - start).norm = 0 :=
    le_antisymm (not_lt.mp hshort) (finish - start).norm_nonneg_real
  have hzero : finish - start = 0 := Vec.eq_zero_of_norm_eq_zero hnone
  have hsame : start + (finish - start) * t = start := by
    rw [hzero]
    ext
    · simp
    · simp
    · simp
  rw [hsame, hstart] at hinside
  cases hinside

/-- A segment from outside with a point strictly inside the box is stopped, unless it creeps or
grazes. -/
lemma exists_stop? (hstart : b.containsStrictly start = false) (hcreep : ¬ b.Creeps start finish)
    (hgraze : ¬ b.Grazes start finish) (h0 : 0 ≤ t) (h1 : t ≤ 1)
    (hinside : b.containsStrictly (start + (finish - start) * t) = true) :
    ∃ p, b.stop? start finish = some p := by
  have hlength : 0 < (finish - start).norm := norm_pos_of_inside hstart hinside
  obtain ⟨c, hc⟩ := exists_crossing? hcreep h0 h1 hinside
  have hlong : c.isLongerThan 1e-9 = true := by
    by_contra hshort
    refine hgraze ⟨⟨t, h0, h1, hinside⟩, fun t₁ t₂ ht₁ ht₂ hinside₁ hinside₂ => ?_⟩
    by_contra hfar
    have hcovers₁ : c.Covers t₁ := covers_crossing?_of_containsStrictly hc ht₁ hinside₁
    have hcovers₂ : c.Covers t₂ := covers_crossing?_of_containsStrictly hc ht₂ hinside₂
    exact hshort (Crossing.isLongerThan_of_covers hcovers₁ hcovers₂ (not_le.mp hfar))
  have henter : c.enter ≤ 1 := (covers_crossing?_of_containsStrictly hc h0 hinside).1.trans h1
  have houtside : (!b.containsStrictly start) = true := by rw [hstart]; rfl
  simp only [stop?]
  rw [if_pos ⟨hlength, houtside⟩, hc]
  exact ⟨_, if_pos ⟨hlong, henter⟩⟩

/-- The point at which a segment is stopped is part of the way along, and no point before it is
strictly inside. -/
lemma stop?_along (h : b.stop? start finish = some p) :
    ∃ s : ℝ, 0 ≤ s ∧ s ≤ 1 ∧ p = start + (finish - start) * s ∧
      ∀ t : ℝ, 0 ≤ t → t ≤ s →
        b.containsStrictly (start + (finish - start) * t) = false := by
  obtain ⟨⟨hlength, hstart⟩, c, hc, ⟨-, henter⟩, rfl⟩ := stop?_eq_some h
  rw [Scalar.max_real]
  set length := (finish - start).norm with hlengthdef
  have hclear : 0 < b.clearance := b.clearance_pos
  have htravel : c.enter * length - b.clearance ≤ length := by
    have hle : c.enter * length ≤ length := mul_le_of_le_one_left hlength.le henter
    linarith
  -- the parameter of the point is its travel over the length, and comes before the entry
  refine ⟨max (c.enter * length - b.clearance) 0 / length, ?_, ?_, rfl, ?_⟩
  · exact div_nonneg (le_max_right _ _) hlength.le
  · exact (div_le_one hlength).mpr (max_le htravel hlength.le)
  · intro t h0 ht
    rcases le_total (c.enter * length - b.clearance) 0 with hshort | hlong
    · rw [max_eq_right hshort, zero_div] at ht
      rw [le_antisymm ht h0, Vec.add_mul_zero_real]
      exact hstart
    · rw [max_eq_left hlong, le_div_iff₀ hlength] at ht
      refine containsStrictly_before_enter hc h0 (lt_of_mul_lt_mul_right ?_ hlength.le)
      linarith

/-- A cleared segment ends part of the way along, or is pushed out through a face. -/
lemma clear_along (hpush : ¬ b.PushesOut start finish) :
    ∃ s : ℝ, 0 ≤ s ∧ s ≤ 1 ∧ b.clear start finish = start + (finish - start) * s := by
  simp only [clear]
  split
  · rename_i p hstop
    obtain ⟨s, h0, h1, hp, -⟩ := stop?_along hstop
    exact ⟨s, h0, h1, hp⟩
  · rename_i hstop
    have hfinish : b.containsStrictly finish = false := by
      by_contra hinside
      exact hpush ⟨hstop, Bool.not_eq_false _ ▸ hinside⟩
    rw [hfinish]
    exact ⟨1, zero_le_one, le_rfl, (Vec.add_sub_mul_one_real _ _).symm⟩

/-- A segment from outside is pushed out through a face only if it creeps or grazes. -/
lemma not_pushesOut (hstart : b.containsStrictly start = false) (hcreep : ¬ b.Creeps start finish)
    (hgraze : ¬ b.Grazes start finish) : ¬ b.PushesOut start finish := by
  rintro ⟨hstop, hinside⟩
  rw [← Vec.add_sub_mul_one_real start finish] at hinside
  obtain ⟨p, hp⟩ := exists_stop? hstart hcreep hgraze zero_le_one le_rfl hinside
  rw [hstop] at hp
  cases hp

/-- The way to where a segment from outside is cleared does not enter the box, unless the segment
creeps or grazes. -/
lemma not_enters_clear (hstart : b.containsStrictly start = false)
    (hcreep : ¬ b.Creeps start finish) (hgraze : ¬ b.Grazes start finish) :
    ¬ b.Enters start (b.clear start finish) := by
  rintro ⟨t, h0, h1, hinside⟩
  cases hstop : b.stop? start finish with
  | some p =>
    obtain ⟨s, hs0, -, hp, hbefore⟩ := stop?_along hstop
    have hclear : b.clear start finish = p := by
      simp only [clear, hstop]
    rw [hclear, hp, Vec.add_sub_mul_mul_real] at hinside
    rw [hbefore (s * t) (mul_nonneg hs0 h0) (mul_le_of_le_one_right hs0 h1)] at hinside
    cases hinside
  | none =>
    have hfinish : b.containsStrictly finish = false := by
      by_contra hin
      exact not_pushesOut hstart hcreep hgraze ⟨hstop, Bool.not_eq_false _ ▸ hin⟩
    have hclear : b.clear start finish = finish := by
      simp only [clear, hstop, hfinish, Bool.false_eq_true, if_false]
    rw [hclear] at hinside
    obtain ⟨p, hp⟩ := exists_stop? hstart hcreep hgraze h0 h1 hinside
    rw [hstop] at hp
    cases hp

/-- **The way to where a segment is cleared stays out of the box.**

Over the reals the end of a cleared segment is never strictly inside the lifted box.  If the segment
starts outside, and neither grazes the box nor creeps in, then no point of the straight way from the
start to that end is strictly inside. -/
theorem clear_path (b : Box ℝ) (a : ℝ) (start finish : Vec ℝ) :
    (b.lift a).containsStrictly ((b.lift a).clear start finish) = false ∧
      ((b.lift a).containsStrictly start = false →
        ¬ (b.lift a).Creeps start finish → ¬ (b.lift a).Grazes start finish →
          ¬ (b.lift a).Enters start ((b.lift a).clear start finish)) :=
  ⟨containsStrictly_clear _ start finish, not_enters_clear⟩

/-! ### A cube -/

/-- A cube two units wide around the origin. -/
def cube : Box ℝ := ⟨⟨-1, -1, -1⟩, ⟨1, 1, 1⟩, ⟨0, 0, 0⟩⟩

/-- A segment through the middle of the cube neither grazes it nor creeps in, and is stopped before
it enters. -/
theorem clear_path_through_cube :
    ((cube.lift 0).containsStrictly ⟨0, 0, 5⟩ = false ∧
      ¬ (cube.lift 0).Creeps ⟨0, 0, 5⟩ ⟨0, 0, -5⟩ ∧ ¬ (cube.lift 0).Grazes ⟨0, 0, 5⟩ ⟨0, 0, -5⟩) ∧
    ¬ (cube.lift 0).Enters ⟨0, 0, 5⟩ ((cube.lift 0).clear ⟨0, 0, 5⟩ ⟨0, 0, -5⟩) := by
  have hstart : (cube.lift 0).containsStrictly ⟨0, 0, 5⟩ = false := by
    rw [lift_zero_real]
    norm_num [containsStrictly, Axis.all, Vec.coord, cube]
  have hcreep : ¬ (cube.lift 0).Creeps ⟨0, 0, 5⟩ ⟨0, 0, -5⟩ := by
    rw [lift_zero_real]
    rintro ⟨-, axis, hbeyond, hflat⟩
    cases axis with
    | x => norm_num [Vec.coord, cube] at hbeyond
    | y => norm_num [Vec.coord, cube] at hbeyond
    | z => norm_num [Vec.coord] at hflat
  have hgraze : ¬ (cube.lift 0).Grazes ⟨0, 0, 5⟩ ⟨0, 0, -5⟩ := by
    rw [lift_zero_real]
    rintro ⟨-, htouch⟩
    have hfar := htouch 0.45 0.55 (by norm_num) (by norm_num)
      (by norm_num [containsStrictly, Axis.all, Vec.coord, cube])
      (by norm_num [containsStrictly, Axis.all, Vec.coord, cube])
    norm_num at hfar
  exact ⟨⟨hstart, hcreep, hgraze⟩, (clear_path cube 0 ⟨0, 0, 5⟩ ⟨0, 0, -5⟩).2 hstart hcreep hgraze⟩

/-- A segment over an edge of the cube, with less than a thousand-millionth of it inside, is not
stopped. -/
lemma stop?_cube_graze : cube.stop? ⟨0, 0, 1.999999999⟩ ⟨2, 0, -0.000000001⟩ = none := by
  have hx : cube.slab? ⟨0, 0, 1.999999999⟩ (⟨2, 0, -0.000000001⟩ - ⟨0, 0, 1.999999999⟩)
      Crossing.whole .x = some ⟨0, some 0.5⟩ := by
    norm_num [slab?, Crossing.whole, Crossing.narrow?, Vec.coord, cube]
  have hy : cube.slab? ⟨0, 0, 1.999999999⟩ (⟨2, 0, -0.000000001⟩ - ⟨0, 0, 1.999999999⟩)
      ⟨0, some 0.5⟩ .y = some ⟨0, some 0.5⟩ := by
    norm_num [slab?, Vec.coord, cube]
  have hz : cube.slab? ⟨0, 0, 1.999999999⟩ (⟨2, 0, -0.000000001⟩ - ⟨0, 0, 1.999999999⟩)
      ⟨0, some 0.5⟩ .z = some ⟨0.4999999995, some 0.5⟩ := by
    norm_num [slab?, Crossing.narrow?, Vec.coord, cube]
  have hcrossing : cube.crossing? ⟨0, 0, 1.999999999⟩
      (⟨2, 0, -0.000000001⟩ - ⟨0, 0, 1.999999999⟩) = some ⟨0.4999999995, some 0.5⟩ := by
    simp [crossing?, Axis.all, hx, hy, hz]
  simp only [stop?, hcrossing]
  norm_num [Crossing.isLongerThan]

/-- A segment that turns inwards from a face of the cube by less than a millionth of a millionth is
not stopped. -/
lemma stop?_cube_creep : cube.stop? ⟨-1, -2, 0⟩ ⟨-0.9999999999995, 2, 0⟩ = none := by
  have hx : cube.slab? ⟨-1, -2, 0⟩ (⟨-0.9999999999995, 2, 0⟩ - ⟨-1, -2, 0⟩) Crossing.whole .x =
      none := by
    norm_num [slab?, Vec.coord, cube]
  have hcrossing :
      cube.crossing? ⟨-1, -2, 0⟩ (⟨-0.9999999999995, 2, 0⟩ - ⟨-1, -2, 0⟩) = none := by
    simp [crossing?, Axis.all, hx]
  simp only [stop?, hcrossing]
  norm_num

/-- **Segments from outside that are let into a cube.**

The first one grazes the cube at an edge.  The second one creeps in from a face. -/
theorem enters_cube_clear :
    ((cube.lift 0).containsStrictly ⟨0, 0, 1.999999999⟩ = false ∧
      (cube.lift 0).Enters ⟨0, 0, 1.999999999⟩
        ((cube.lift 0).clear ⟨0, 0, 1.999999999⟩ ⟨2, 0, -0.000000001⟩)) ∧
    ((cube.lift 0).containsStrictly ⟨-1, -2, 0⟩ = false ∧
      (cube.lift 0).Enters ⟨-1, -2, 0⟩
        ((cube.lift 0).clear ⟨-1, -2, 0⟩ ⟨-0.9999999999995, 2, 0⟩)) := by
  rw [lift_zero_real]
  have hgraze : cube.clear ⟨0, 0, 1.999999999⟩ ⟨2, 0, -0.000000001⟩ = ⟨2, 0, -0.000000001⟩ := by
    simp only [clear, stop?_cube_graze]
    norm_num [containsStrictly, Axis.all, Vec.coord, cube]
  have hcreep : cube.clear ⟨-1, -2, 0⟩ ⟨-0.9999999999995, 2, 0⟩ = ⟨-0.9999999999995, 2, 0⟩ := by
    simp only [clear, stop?_cube_creep]
    norm_num [containsStrictly, Axis.all, Vec.coord, cube]
  rw [hgraze, hcreep]
  refine ⟨⟨?_, 0.49999999975, by norm_num, by norm_num, ?_⟩,
    ⟨?_, 0.5, by norm_num, by norm_num, ?_⟩⟩
  all_goals norm_num [containsStrictly, Axis.all, Vec.coord, cube]

end Box

end Cinematics
