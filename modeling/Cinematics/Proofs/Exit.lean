import Mathlib.Tactic.Linarith
import Mathlib.Tactic.NormNum
import Mathlib.Tactic.Ring
import Cinematics.Proofs.Incidence

/-!
# The cheapest way out of a box

A point inside a box is moved out through the nearest face.  The faces are looked at one after the
other, and a face takes the place of the one kept so far only if it is nearer, so the one that is
kept in the end is as near as any (`Box.gap_nearestFace_le`).  The way out through a face is as long
as the gap to the face and the distance to keep together, and so no way out through another face is
shorter (`Box.pushOut_cheapest`).
-/

namespace Cinematics

namespace Vec

variable (p : Vec ℝ) {axis other : Axis} (a : ℝ)

/-- Replacing a coordinate leaves the others as they are. -/
lemma coord_withCoord_of_ne (h : other ≠ axis) :
    (p.withCoord axis a).coord other = p.coord other := by
  cases axis <;> cases other <;> simp_all [withCoord, coord]

/-- Replacing a coordinate moves a point along the axis. -/
lemma withCoord_sub : p.withCoord axis a - p = (unit axis : Vec ℝ) * (a - p.coord axis) := by
  cases axis
  all_goals
    ext
    all_goals simp [withCoord, unit, coord]

/-- A point is moved as far as its coordinate is changed. -/
lemma norm_withCoord_sub : (p.withCoord axis a - p).norm = |a - p.coord axis| := by
  rw [withCoord_sub, norm_mul_real, norm_unit, one_mul]

end Vec

namespace Box

variable {b : Box ℝ} {p : Vec ℝ} {offset : ℝ} {f : Face}

/-! ### The nearest face -/

/-- Every face is one of the six. -/
lemma Face.mem_faces (f : Face) : f ∈ faces := by
  obtain ⟨axis, high⟩ := f
  cases axis <;> cases high <;> simp [faces, Axis.all]

/-- Of faces that are looked at one after the other none is nearer than the one that is kept.  The
induction is on the faces still to come. -/
lemma gap_foldl_le (b : Box ℝ) (p : Vec ℝ) (faces : List Face) (best : Face) :
    ∀ f ∈ best :: faces,
      b.gap p (faces.foldl (fun best f => if b.gap p f < b.gap p best then f else best) best) ≤
        b.gap p f := by
  induction faces generalizing best with
  | nil =>
    intro f hf
    rw [List.mem_singleton.mp hf]
    exact le_rfl
  | cons g faces ih =>
    intro f hf
    rw [List.foldl_cons]
    set kept := if b.gap p g < b.gap p best then g else best with hkept
    have hbest : b.gap p kept ≤ b.gap p best ∧ b.gap p kept ≤ b.gap p g := by
      rw [hkept]
      split
      · exact ⟨le_of_lt ‹_›, le_rfl⟩
      · exact ⟨le_rfl, not_lt.mp ‹_›⟩
    have hleast := ih kept kept List.mem_cons_self
    rcases List.mem_cons.mp hf with rfl | hf
    · exact hleast.trans hbest.1
    · rcases List.mem_cons.mp hf with rfl | hlater
      · exact hleast.trans hbest.2
      · exact ih kept f (List.mem_cons_of_mem _ hlater)

/-- No face is nearer than the nearest one. -/
lemma gap_nearestFace_le (b : Box ℝ) (p : Vec ℝ) (f : Face) :
    b.gap p (b.nearestFace p) ≤ b.gap p f :=
  gap_foldl_le b p faces.tail ⟨.x, false⟩ f f.mem_faces

/-! ### The way out -/

/-- A point strictly inside the box has some way to go to each face. -/
lemma gap_pos (hinside : b.containsStrictly p = true) (f : Face) : 0 < b.gap p f := by
  obtain ⟨hlow, hhigh⟩ := containsStrictly_iff.mp hinside f.axis
  unfold gap
  split
  · exact sub_pos.mpr hhigh
  · exact sub_pos.mpr hlow

/-- The way to a distance beyond a face leads over the gap and the distance. -/
lemma norm_beyond_sub (h : 0 ≤ b.gap p f + offset) :
    (b.beyond p offset f - p).norm = b.gap p f + offset := by
  unfold beyond gap at *
  rw [Vec.norm_withCoord_sub]
  split at h
  · rw [if_pos ‹_›, if_pos ‹_›, abs_of_nonneg (by linarith)]
    ring
  · rw [if_neg ‹_›, if_neg ‹_›, abs_of_nonpos (by linarith)]
    ring

/-- **The cheapest way out.**  A point strictly inside a box is pushed out through a face, along the
axis across it and along no other, to where it is exactly the offset beyond the face, and so no
longer inside.  To the same offset beyond any other face it would have been as far, or farther. -/
theorem pushOut_cheapest (hinside : b.containsStrictly p = true) (hoffset : 0 < offset) :
    ∃ f : Face,
      (∀ axis, (b.pushOut p offset).coord axis ≠ p.coord axis ↔ axis = f.axis) ∧
      (b.pushOut p offset).coord f.axis =
        (if f.high then b.high.coord f.axis + offset else b.low.coord f.axis - offset) ∧
      b.containsStrictly (b.pushOut p offset) = false ∧
      ∀ g : Face, (b.pushOut p offset - p).norm ≤ (b.beyond p offset g - p).norm := by
  have hway : ∀ g : Face, (b.beyond p offset g - p).norm = b.gap p g + offset := by
    intro g
    exact norm_beyond_sub (add_pos (gap_pos hinside g) hoffset).le
  refine ⟨b.nearestFace p, ?_, ?_, containsStrictly_beyond hoffset.le _, ?_⟩
  · intro axis
    constructor
    · intro hmoved
      by_contra hother
      exact hmoved (Vec.coord_withCoord_of_ne p _ hother)
    · rintro rfl hsame
      -- the point would be as far beyond the face as it has to go to reach it
      have hpositive := gap_pos hinside (b.nearestFace p)
      have hbeyond := b.gap_beyond p offset (b.nearestFace p)
      have hgap : b.gap (b.pushOut p offset) (b.nearestFace p) = b.gap p (b.nearestFace p) := by
        rw [gap, gap, hsame]
      rw [pushOut] at hgap
      linarith
  · rw [pushOut, beyond, Vec.coord_withCoord]
  · intro g
    rw [pushOut, hway, hway]
    exact add_le_add_left (b.gap_nearestFace_le p g) offset

/-- A point in a cube that is as near to the face on the right as to the bottom. -/
def offCenter {α : Type} [Scalar α] : Vec α := ⟨0.5, -0.5, 0⟩

/-- A point between two faces that are equally near is pushed out, and not farther than to either of
the two, or to any other face. -/
theorem pushOut_cheapest_tie :
    (cube.containsStrictly offCenter = true ∧ (0 : ℝ) < 0.1) ∧
      cube.gap offCenter ⟨.x, true⟩ = cube.gap offCenter ⟨.y, false⟩ ∧
      cube.containsStrictly (cube.pushOut offCenter 0.1) = false ∧
      ∀ g : Face, (cube.pushOut offCenter 0.1 - offCenter).norm ≤
        (cube.beyond offCenter 0.1 g - offCenter).norm := by
  have hinside : cube.containsStrictly offCenter = true := by
    norm_num [containsStrictly, Axis.all, Vec.coord, cube, offCenter]
  have hoffset : (0 : ℝ) < 0.1 := by norm_num
  have htie : cube.gap offCenter ⟨.x, true⟩ = cube.gap offCenter ⟨.y, false⟩ := by
    norm_num [gap, Vec.coord, cube, offCenter]
  obtain ⟨f, -, -, houtside, hcheapest⟩ := pushOut_cheapest hinside hoffset
  exact ⟨⟨hinside, hoffset⟩, htie, houtside, hcheapest⟩

end Box

end Cinematics
