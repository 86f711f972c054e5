import Cinematics.Proofs.Crossing

/-!
# A cleared segment ends outside the box

`Box.clear` has three ways out: it stops a segment short of the box, it pushes an end point out
through a face, or it leaves the end point where it is.  Over the reals none of them ends strictly
inside the box, whatever the segment (`Box.containsStrictly_clear`).  The start may be inside, on a
face or outside, and the corners of the box may be out of order.
-/

namespace Cinematics

/-- A replaced coordinate is the one that was put in. -/
@[simp] lemma Vec.coord_withCoord {α : Type} (v : Vec α) (axis : Axis) (a : α) :
    (v.withCoord axis a).coord axis = a := by
  cases axis <;> rfl

/-- A ray starts at its origin. -/
@[simp] lemma Vec.add_mul_zero_real (o d : Vec ℝ) : o + d * (0 : ℝ) = o := by
  ext
  · simp
  · simp
  · simp

namespace Box

section Stop

variable {α : Type} [Scalar α] {b : Box α} {start finish p : Vec α}

/-- A segment is stopped if it comes from outside and crosses the box before it ends, and then short
of where it would enter. -/
lemma stop?_eq_some (h : b.stop? start finish = some p) :
    (0 < (finish - start).norm ∧ b.containsStrictly start = false) ∧
      ∃ c, b.crossing? start (finish - start) = some c ∧
        (c.isLongerThan 1e-9 = true ∧ c.enter ≤ 1) ∧
        p = start + (finish - start) *
          (Scalar.max (c.enter * (finish - start).norm - b.clearance) 0 /
            (finish - start).norm) := by
  simp only [stop?] at h
  split at h
  · rename_i hstart
    rw [Bool.not_eq_true'] at hstart
    obtain ⟨c, hc, h⟩ := Option.bind_eq_some_iff.mp h
    split at h
    · rename_i hlong
      exact ⟨hstart, c, hc, hlong, (Option.some.inj h).symm⟩
    · cases h
  · cases h

end Stop

variable {b : Box ℝ} {start finish p : Vec ℝ}

/-- There is always some distance kept from the surface. -/
lemma clearance_pos (b : Box ℝ) : 0 < b.clearance := by
  have hclamp : (0.1 : ℝ) ≤ b.clearance := Scalar.le_clamp (by norm_num)
  linarith

/-- There is never more than half a unit kept from the surface. -/
lemma clearance_le (b : Box ℝ) : b.clearance ≤ 0.5 := Scalar.clamp_le (by norm_num)

/-- A point beyond a face is not strictly inside. -/
lemma containsStrictly_beyond {distance : ℝ} (hdistance : 0 ≤ distance) (f : Face) :
    b.containsStrictly (b.beyond p distance f) = false := by
  by_contra hinside
  rw [Bool.not_eq_false] at hinside
  obtain ⟨hlow, hhigh⟩ := containsStrictly_iff.mp hinside f.axis
  simp only [beyond, Vec.coord_withCoord] at hlow hhigh
  split at hhigh
  · linarith
  · rename_i hface
    rw [if_neg hface] at hlow
    linarith

/-- The point at which a segment is stopped is not strictly inside: it is the start itself, or a
point before the crossing begins. -/
lemma containsStrictly_stop? (h : b.stop? start finish = some p) :
    b.containsStrictly p = false := by
  obtain ⟨⟨hlength, hstart⟩, c, hc, -, rfl⟩ := stop?_eq_some h
  rw [Scalar.max_real]
  rcases le_total (c.enter * (finish - start).norm - b.clearance) 0 with hshort | hlong
  · rw [max_eq_right hshort, zero_div, Vec.add_mul_zero_real]
    exact hstart
  · rw [max_eq_left hlong]
    refine containsStrictly_before_enter hc (div_nonneg hlong hlength.le) ?_
    rw [div_lt_iff₀ hlength]
    linarith [b.clearance_pos]

/-- **A cleared segment does not end strictly inside the box.** -/
theorem containsStrictly_clear (b : Box ℝ) (start finish : Vec ℝ) :
    b.containsStrictly (b.clear start finish) = false := by
  simp only [clear]
  split
  · rename_i p hstop
    exact containsStrictly_stop? hstop
  · split
    · exact containsStrictly_beyond b.clearance_pos.le _
    · rename_i hfinish
      exact Bool.eq_false_iff.mpr hfinish

end Box

end Cinematics
