import Mathlib.Tactic.Linarith
import Mathlib.Tactic.NormNum
import Mathlib.Tactic.Ring
import Cinematics.Proofs.Path
import Cinematics.Proofs.Slab

/-!
# How far from the surface a segment is cleared

The clearance is kept in two ways.  A point that is pushed out through a face ends up as far beyond
the face as the clearance says.  A segment that comes in from outside, however, is pulled back along
itself, and so the whole clearance lies between the camera and the point where the segment comes in,
but not between the camera and the surface.  From the surface only a part of it is left, which is
the cosine of the angle at which the segment meets the face (`Box.isAway_clear`).  A segment that
meets a face head-on keeps all of it, and one that comes in at a low angle next to nothing.  The
last theorem of the file is about a segment that keeps three fifths.
-/

namespace Cinematics.Box

variable {b : Box ℝ} {start finish p q : Vec ℝ} {d t : ℝ} {f : Face}

/-! ### Distances from a box -/

/-- Whether a point is at least a distance away from all points of the box. -/
def IsAway (b : Box ℝ) (d : ℝ) (p : Vec ℝ) : Prop :=
  ∀ q, b.contains q = true → d ≤ (p - q).norm

/-- A point of the box is not beyond any face. -/
lemma gap_nonneg (hq : b.contains q = true) (f : Face) : 0 ≤ b.gap q f := by
  obtain ⟨hlow, hhigh⟩ := contains_iff.mp hq f.axis
  rw [gap]
  split
  · exact sub_nonneg.mpr hhigh
  · exact sub_nonneg.mpr hlow

/-- Two points are at least as far apart as their gaps to a face differ. -/
lemma gap_sub_gap_le (b : Box ℝ) (p q : Vec ℝ) (f : Face) :
    b.gap q f - b.gap p f ≤ (p - q).norm := by
  have hcoord : |p.coord f.axis - q.coord f.axis| ≤ (p - q).norm := by
    have hle := (p - q).abs_coord_le_norm f.axis
    cases hf : f.axis <;> rwa [hf] at hle
  obtain ⟨hlow, hhigh⟩ := abs_le.mp hcoord
  rw [gap, gap]
  split
  · linarith
  · linarith

/-- A point beyond a face is as far away from the box as from the face, or farther. -/
lemma isAway_of_gap (h : b.gap p f ≤ -d) : b.IsAway d p := by
  intro q hq
  have hbetween := b.gap_sub_gap_le p q f
  have hnonneg := gap_nonneg hq f
  linarith

/-- A point that is away from the box is away from it by less. -/
lemma IsAway.mono {d' : ℝ} (h : b.IsAway d p) (hle : d' ≤ d) : b.IsAway d' p :=
  fun q hq => hle.trans (h q hq)

/-- A point that is moved beyond a face is as far beyond it as it is moved. -/
lemma gap_beyond (b : Box ℝ) (p : Vec ℝ) (distance : ℝ) (f : Face) :
    b.gap (b.beyond p distance f) f = -distance := by
  rw [gap, beyond, Vec.coord_withCoord]
  split
  · ring
  · ring

/-! ### The angle at which a face is met -/

/-- The cosine of the angle between a way and the normal of a face. -/
noncomputable def Face.incidence (f : Face) (way : Vec ℝ) : ℝ := |way.coord f.axis| / way.norm

/-- Along a ray the gap to a face changes evenly. -/
lemma gap_along (b : Box ℝ) (origin dir : Vec ℝ) (t : ℝ) (f : Face) :
    b.gap (origin + dir * t) f =
      b.gap origin f + (if f.high then -dir.coord f.axis else dir.coord f.axis) * t := by
  rw [gap, gap, Vec.coord_along]
  split
  · ring
  · ring

/-- A ray that passes a face comes nearer to it at the rate at which it changes the coordinate. -/
lemma Passes.rate {origin dir : Vec ℝ} (h : b.Passes origin dir t f) (ht : 0 < t) :
    (if f.high then -dir.coord f.axis else dir.coord f.axis) = |dir.coord f.axis| := by
  obtain ⟨hbeyond, hlevel⟩ := h
  rw [gap_along] at hlevel
  have hpos : 0 < (if f.high then -dir.coord f.axis else dir.coord f.axis) := by
    by_contra hneg
    have hless := mul_nonpos_of_nonpos_of_nonneg (not_lt.mp hneg) ht.le
    linarith
  split at hpos
  · rw [if_pos ‹_›, abs_of_neg (neg_pos.mp hpos)]
  · rw [if_neg ‹_›, abs_of_pos hpos]

/-- A ray is still beyond a face some way before it passes it, by the part of the way that the
incidence says. -/
lemma Passes.gap_before {way : Vec ℝ} (h : b.Passes start way t f) (ht : 0 < t) (d : ℝ) :
    b.gap (start + way * (t - d / way.norm)) f = -(d * f.incidence way) := by
  have hlevel := h.2
  rw [gap_along, h.rate ht] at hlevel ⊢
  rw [mul_sub, Face.incidence]
  calc b.gap start f + (|way.coord f.axis| * t - |way.coord f.axis| * (d / way.norm))
      = b.gap start f + |way.coord f.axis| * t - |way.coord f.axis| * (d / way.norm) := by ring
    _ = -(d * (|way.coord f.axis| / way.norm)) := by
        rw [hlevel]
        ring

/-! ### Segments that come in from outside -/

/-- Where a segment comes into the box, as the slabs see it: it passes a face there, and it spans
all axes. -/
structure ComesIn (b : Box ℝ) (start finish : Vec ℝ) (t : ℝ) : Prop where
  /-- This is after the start. -/
  pos : 0 < t
  /-- This is not after the end. -/
  le_one : t ≤ 1
  /-- A face is passed. -/
  passes : ∃ f, b.Passes start (finish - start) t f
  /-- All axes are spanned. -/
  spans : ∀ axis, b.Spans start (finish - start) t axis

/-- A segment that starts away from the box is stopped at its start, or pulled back by the clearance
from where it comes in. -/
lemma stop?_comesIn (hb : b.InOrder) (hstart : b.IsAway b.clearance start)
    (h : b.stop? start finish = some p) :
    p = start ∨ ∃ t, b.ComesIn start finish t ∧
      p = start + (finish - start) * (t - b.clearance / (finish - start).norm) := by
  obtain ⟨⟨hlength, -⟩, c, hc, ⟨-, henter⟩, rfl⟩ := stop?_eq_some h
  obtain ⟨hnonneg, hspans⟩ := (covers_crossing?_iff hb hc).mp (covers_enter_crossing? hc)
  have hlate : c.enter ≠ 0 := by
    intro hzero
    rw [hzero] at hspans
    have hclose := hstart start (contains_of_spans_zero hspans)
    have hnone : (start - start).norm = 0 := by
      refine Vec.norm_eq_of_dot_eq_mul_self le_rfl ?_
      simp [Vec.dot]
    linarith [b.clearance_pos]
  rw [Scalar.max_real]
  set length := (finish - start).norm with hlengthdef
  rcases le_total (c.enter * length - b.clearance) 0 with hshort | hlong
  · left
    rw [max_eq_right hshort, zero_div, Vec.add_mul_zero_real]
  · right
    refine ⟨c.enter, ⟨hnonneg.lt_of_ne' hlate, henter, ?_, hspans⟩, ?_⟩
    · exact (exists_passes_enter hb hc).resolve_left hlate
    · rw [max_eq_left hlong, sub_div, mul_div_cancel_right₀ _ hlength.ne']

/-- **A cleared segment ends away from the surface, by the clearance or its part.**

Over the reals, let the corners of a box be in order, and let a segment start at least the clearance
of the lifted box away from it.  If the segment is not cleared to its own end, it is cleared to a
point that is the whole clearance away from the box, or to the point where it comes in, pulled back
along the segment by the clearance.  Where it comes in it is in the box, unless it changes some
coordinate by too little for the slabs to see it.  The point is then beyond each face that the
segment passes there by the clearance times the cosine of the angle between the segment and the
normal of the face, and so it is at least this far away from the box. -/
theorem isAway_clear (hb : b.InOrder) (a : ℝ)
    (hstart : (b.lift a).IsAway (b.lift a).clearance start)
    (hmoved : (b.lift a).clear start finish ≠ finish) :
    (b.lift a).IsAway (b.lift a).clearance ((b.lift a).clear start finish) ∨
      ∃ t, (b.lift a).ComesIn start finish t ∧
        (b.lift a).clear start finish = start +
          (finish - start) * (t - (b.lift a).clearance / (finish - start).norm) ∧
        ((∀ axis, (finish - start).coord axis = 0 ∨ 1e-12 ≤ |(finish - start).coord axis|) →
          (b.lift a).contains (start + (finish - start) * t) = true) ∧
        ∀ f, (b.lift a).Passes start (finish - start) t f →
          (b.lift a).gap ((b.lift a).clear start finish) f =
              -((b.lift a).clearance * f.incidence (finish - start)) ∧
            (b.lift a).IsAway ((b.lift a).clearance * f.incidence (finish - start))
              ((b.lift a).clear start finish) := by
  have horder := hb.lift a
  set b' := b.lift a
  cases hstop : b'.stop? start finish with
  | some p =>
    have hclear : b'.clear start finish = p := by simp only [clear, hstop]
    rw [hclear]
    rcases stop?_comesIn horder hstart hstop with rfl | ⟨t, hcomes, hp⟩
    · exact .inl hstart
    · refine .inr ⟨t, hcomes, hp, fun hsteep => contains_of_spans hsteep hcomes.spans,
        fun f hf => ?_⟩
      have hgap : b'.gap p f = -(b'.clearance * f.incidence (finish - start)) := by
        rw [hp]
        exact hf.gap_before hcomes.pos _
      exact ⟨hgap, isAway_of_gap hgap.le⟩
  | none =>
    left
    by_cases hinside : b'.containsStrictly finish = true
    · have hclear : b'.clear start finish = b'.pushOut finish b'.clearance := by
        simp only [clear, hstop, hinside, if_true]
      rw [hclear, pushOut]
      exact isAway_of_gap (b'.gap_beyond finish b'.clearance _).le
    · exact absurd (by simp only [clear, hstop, if_neg hinside]) hmoved

/-! ### A segment at an angle -/

/-- The corners of the cube are in order. -/
lemma inOrder_cube : cube.InOrder := by
  intro axis
  cases axis <;> norm_num [Vec.coord, cube]

/-- The point above the cube where a segment starts is far from it. -/
lemma isAway_cube : cube.IsAway cube.clearance ⟨-4, 4, 0⟩ := by
  have hle := cube.clearance_le
  refine isAway_of_gap (f := ⟨.y, true⟩) ?_
  norm_num [gap, Vec.coord, cube] at hle ⊢
  linarith

/-- The segment down to the top of the cube, at an angle, is ten units long. -/
lemma norm_oblique : (⟨4, -2, 0⟩ - ⟨-4, 4, 0⟩ : Vec ℝ).norm = 10 := by
  refine Vec.norm_eq_of_dot_eq_mul_self (by norm_num) ?_
  norm_num [Vec.dot]

/-- The segment at an angle crosses the cube from half of its way on. -/
lemma crossing?_cube_oblique : cube.crossing? ⟨-4, 4, 0⟩ (⟨4, -2, 0⟩ - ⟨-4, 4, 0⟩) =
    some ⟨1 / 2, some (5 / 8)⟩ := by
  have hx : cube.slab? ⟨-4, 4, 0⟩ (⟨4, -2, 0⟩ - ⟨-4, 4, 0⟩) Crossing.whole .x =
      some ⟨3 / 8, some (5 / 8)⟩ := by
    norm_num [slab?, Crossing.whole, Crossing.narrow?, Vec.coord, cube]
  have hy : cube.slab? ⟨-4, 4, 0⟩ (⟨4, -2, 0⟩ - ⟨-4, 4, 0⟩) ⟨3 / 8, some (5 / 8)⟩ .y =
      some ⟨1 / 2, some (5 / 8)⟩ := by
    norm_num [slab?, Crossing.narrow?, Vec.coord, cube]
  have hz : cube.slab? ⟨-4, 4, 0⟩ (⟨4, -2, 0⟩ - ⟨-4, 4, 0⟩) ⟨1 / 2, some (5 / 8)⟩ .z =
      some ⟨1 / 2, some (5 / 8)⟩ := by
    norm_num [slab?, Vec.coord, cube]
  simp only [crossing?, Axis.all, List.foldlM_cons, List.foldlM_nil, hx, hy, hz,
    Option.bind_eq_bind, Option.bind_some, Option.pure_def]

/-- The segment at an angle is pulled back by the clearance along itself. -/
lemma clear_cube_oblique : cube.clear ⟨-4, 4, 0⟩ ⟨4, -2, 0⟩ =
    ⟨-(4 / 5 * cube.clearance), 1 + 3 / 5 * cube.clearance, 0⟩ := by
  have hstart : cube.containsStrictly ⟨-4, 4, 0⟩ = false := by
    norm_num [containsStrictly, Axis.all, Vec.coord, cube]
  have hfree : (0 : ℝ) < 10 ∧ (!false) = true := ⟨by norm_num, rfl⟩
  have hhit : (⟨1 / 2, some (5 / 8)⟩ : Crossing ℝ).isLongerThan 1e-9 = true ∧ (1 / 2 : ℝ) ≤ 1 := by
    norm_num [Crossing.isLongerThan]
  have htravel : max (1 / 2 * 10 - cube.clearance) 0 = 5 - cube.clearance := by
    have hle := cube.clearance_le
    norm_num at hle ⊢
    linarith
  have hstop : cube.stop? ⟨-4, 4, 0⟩ ⟨4, -2, 0⟩ =
      some ((⟨-4, 4, 0⟩ : Vec ℝ) +
        (⟨4, -2, 0⟩ - ⟨-4, 4, 0⟩ : Vec ℝ) * ((5 - cube.clearance) / 10)) := by
    rw [← htravel, ← Scalar.max_real]
    simp only [stop?, norm_oblique, hstart]
    rw [if_pos hfree, crossing?_cube_oblique]
    exact if_pos hhit
  simp only [clear, hstop]
  ext
  · simp only [Vec.add_x, Vec.sub_x, Vec.mul_x]
    ring
  · simp only [Vec.add_y, Vec.sub_y, Vec.mul_y]
    ring
  · simp only [Vec.add_z, Vec.sub_z, Vec.mul_z]
    ring

/-- The segment at an angle is not cleared to its own end. -/
lemma clear_cube_oblique_ne : cube.clear ⟨-4, 4, 0⟩ ⟨4, -2, 0⟩ ≠ ⟨4, -2, 0⟩ := by
  rw [clear_cube_oblique]
  intro hsame
  have hheight := congrArg Vec.y hsame
  simp only at hheight
  linarith [cube.clearance_pos]

/-- The segment at an angle comes in through the top of the cube. -/
lemma eq_top_of_passes (hcomes : cube.ComesIn ⟨-4, 4, 0⟩ ⟨4, -2, 0⟩ t)
    (hf : cube.Passes ⟨-4, 4, 0⟩ (⟨4, -2, 0⟩ - ⟨-4, 4, 0⟩) t f) : f = ⟨.y, true⟩ := by
  have hheight := hcomes.spans .y
  obtain ⟨hbeyond, hlevel⟩ := hf
  obtain ⟨axis, high⟩ := f
  cases axis with
  | x =>
    cases high with
    | false =>
      -- where the segment passes this face, it is still above the cube
      norm_num [Spans, gap, Vec.coord, cube] at hheight hlevel
      linarith
    | true => norm_num [gap, Vec.coord, cube] at hbeyond
  | y =>
    cases high with
    | false => norm_num [gap, Vec.coord, cube] at hbeyond
    | true => rfl
  | z => cases high <;> norm_num [gap, Vec.coord, cube] at hbeyond

/-- A segment that meets the top of the cube at an angle keeps three fifths of the clearance. -/
theorem isAway_clear_oblique :
    (cube.InOrder ∧ (cube.lift 0).IsAway (cube.lift 0).clearance ⟨-4, 4, 0⟩ ∧
      (cube.lift 0).clear ⟨-4, 4, 0⟩ ⟨4, -2, 0⟩ ≠ ⟨4, -2, 0⟩) ∧
    (cube.lift 0).IsAway ((cube.lift 0).clearance * (3 / 5))
      ((cube.lift 0).clear ⟨-4, 4, 0⟩ ⟨4, -2, 0⟩) := by
  have hstart : (cube.lift 0).IsAway (cube.lift 0).clearance ⟨-4, 4, 0⟩ := by
    rw [lift_zero_real]
    exact isAway_cube
  have hmoved : (cube.lift 0).clear ⟨-4, 4, 0⟩ ⟨4, -2, 0⟩ ≠ ⟨4, -2, 0⟩ := by
    rw [lift_zero_real]
    exact clear_cube_oblique_ne
  refine ⟨⟨inOrder_cube, hstart, hmoved⟩, ?_⟩
  have hpos := (cube.lift 0).clearance_pos
  rcases isAway_clear inOrder_cube 0 hstart hmoved with hwhole | ⟨t, hcomes, -, -, hfaces⟩
  · exact hwhole.mono (by linarith)
  · obtain ⟨f, hf⟩ := hcomes.passes
    have hpart := (hfaces f hf).2
    rw [lift_zero_real] at hcomes hf
    have hincidence : f.incidence (⟨4, -2, 0⟩ - ⟨-4, 4, 0⟩ : Vec ℝ) = 3 / 5 := by
      rw [eq_top_of_passes hcomes hf, Face.incidence, norm_oblique]
      norm_num [Vec.coord]
    rwa [hincidence] at hpart

/-- **A segment that ends too near to the surface.**

A segment that starts far from the cube and comes down to its top at an angle is cleared to a point
that is nearer to the cube than the clearance. -/
theorem not_isAway_clear_cube :
    cube.InOrder ∧ (cube.lift 0).IsAway (cube.lift 0).clearance ⟨-4, 4, 0⟩ ∧
    (cube.lift 0).clear ⟨-4, 4, 0⟩ ⟨4, -2, 0⟩ ≠ ⟨4, -2, 0⟩ ∧
    ¬ (cube.lift 0).IsAway (cube.lift 0).clearance
      ((cube.lift 0).clear ⟨-4, 4, 0⟩ ⟨4, -2, 0⟩) := by
  rw [lift_zero_real]
  refine ⟨inOrder_cube, isAway_cube, clear_cube_oblique_ne, fun haway => ?_⟩
  have hpos := cube.clearance_pos
  have hle : cube.clearance ≤ 1 / 2 := cube.clearance_le.trans (by norm_num)
  -- the point of the top right below
  have hleft : (-1 : ℝ) ≤ -(4 / 5 * cube.clearance) := by linarith
  have hright : -(4 / 5 * cube.clearance) ≤ (1 : ℝ) := by linarith
  have hbelow : cube.contains ⟨-(4 / 5 * cube.clearance), 1, 0⟩ = true := by
    refine contains_iff.mpr fun axis => ?_
    cases axis with
    | x => exact ⟨hleft, hright⟩
    | y => norm_num [Vec.coord, cube]
    | z => norm_num [Vec.coord, cube]
  have hnear := haway _ hbelow
  have hlength : (cube.clear ⟨-4, 4, 0⟩ ⟨4, -2, 0⟩ -
      ⟨-(4 / 5 * cube.clearance), 1, 0⟩).norm = 3 / 5 * cube.clearance := by
    refine Vec.norm_eq_of_dot_eq_mul_self (by linarith) ?_
    rw [clear_cube_oblique]
    simp only [Vec.dot, Vec.sub_x, Vec.sub_y, Vec.sub_z]
    ring
  rw [hlength] at hnear
  linarith

end Cinematics.Box
