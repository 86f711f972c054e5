import Cinematics.Proofs.Bookkeeping

/-!
# What an allocation comes to

`Schedule.allocate` works with weights relative to the largest ratio, so that no sum leaves the
range of doubles.  Over the reals the weights cancel, and what remains is the allocation one would
write down (`Schedule.allocate_eq`): equal parts when the shares come to nothing, parts in
proportion to the shares when they do not come to what was requested, and otherwise the shares of
the request as they are.  From this form one reads off that no part is negative, that the parts add
up to the request, up to the tolerance, and that they are in proportion to the shares.
`Plan.schedule_proportional` says so of the schedule of a plan.
-/

namespace Cinematics

/-- The sum of a list of reals is that of the library. -/
lemma Scalar.sum_real (xs : List ℝ) : Scalar.sum xs = xs.sum :=
  List.sum_eq_foldl.symm

namespace Schedule

/-- A share is not negative. -/
lemma share_nonneg (ratio : ℝ) : 0 ≤ share ratio := by
  rw [share]
  split
  · rename_i h
    exact h.2
  · exact le_rfl

/-- No share of a list, and not the value that one starts from, exceeds the largest. -/
lemma le_foldl_max (shares : List ℝ) (start : ℝ) :
    start ≤ shares.foldl Scalar.max start ∧ ∀ r ∈ shares, r ≤ shares.foldl Scalar.max start := by
  induction shares generalizing start with
  | nil => simp
  | cons r rest ih =>
    obtain ⟨hstart, hrest⟩ := ih (Scalar.max start r)
    rw [Scalar.max_real] at hstart hrest
    rw [List.foldl_cons, Scalar.max_real]
    refine ⟨(le_max_left _ _).trans hstart, ?_⟩
    intro r' hr'
    rcases List.mem_cons.mp hr' with rfl | hr'
    · exact (le_max_right _ _).trans hstart
    · exact hrest r' hr'

/-- No share exceeds the largest. -/
lemma le_largest {shares : List ℝ} {r : ℝ} (h : r ∈ shares) : r ≤ largest shares :=
  (le_foldl_max shares 0).2 r h

/-- The largest share times the sum of the weights is the sum of the shares. -/
lemma largest_mul_sum_weights {shares : List ℝ} (hshares : ∀ r ∈ shares, 0 ≤ r) :
    largest shares * (weights shares).sum = shares.sum := by
  by_cases hlargest : 0 < largest shares
  · simp only [weights, if_pos hlargest, div_eq_mul_inv]
    rw [List.sum_map_mul_right, List.map_id', mul_comm, mul_assoc,
      inv_mul_cancel₀ (ne_of_gt hlargest), mul_one]
  · -- No share is positive, so there is nothing to sum up on either side.
    have hzero : ∀ r ∈ shares, r = 0 := fun r hr =>
      le_antisymm ((le_largest hr).trans (not_lt.mp hlargest)) (hshares r hr)
    simp only [weights, if_neg hlargest, List.sum_map_zero, mul_zero]
    exact (List.sum_eq_zero hzero).symm

variable {tolerance requested : ℝ} {ratios : List ℝ}

/-- An allocation without its weights. -/
theorem allocate_eq (htolerance : 0 ≤ tolerance) :
    allocate tolerance requested ratios =
      if requested * (ratios.map share).sum ≤ tolerance then
        ratios.map fun _ => requested / ratios.length
      else if tolerance < |requested * (ratios.map share).sum - requested| then
        ratios.map fun r => requested * (share r / (ratios.map share).sum)
      else ratios.map fun r => requested * share r := by
  have hshares : ∀ r ∈ ratios.map share, 0 ≤ r := by
    intro r hr
    obtain ⟨ratio, -, rfl⟩ := List.mem_map.mp hr
    exact share_nonneg ratio
  have hsum : requested * largest (ratios.map share) * (weights (ratios.map share)).sum =
      requested * (ratios.map share).sum := by
    rw [mul_assoc, largest_mul_sum_weights hshares]
  simp only [allocate, Scalar.sum_real, Scalar.abs_real, hsum]
  split
  · rw [List.map_map, List.length_map]
    rfl
  · rename_i hshort
    split
    · -- Without a positive share the sum would be zero, which the first case has taken care of.
      have hlargest : 0 < largest (ratios.map share) := by
        by_contra hnot
        rw [← largest_mul_sum_weights hshares, le_antisymm (not_lt.mp hnot)
          (le_foldl_max _ 0).1, zero_mul, mul_zero] at hshort
        exact hshort htolerance
      have hweights : weights (ratios.map share) =
          ratios.map fun r => share r / largest (ratios.map share) := by
        simp only [weights, if_pos hlargest, List.map_map]
        rfl
      rw [← largest_mul_sum_weights hshares, hweights, List.map_map]
      refine List.map_congr_left fun r _ => ?_
      rw [Function.comp_apply, div_div]
    · rw [List.map_map]
      rfl

/-- No part is negative. -/
lemma allocate_nonneg (htolerance : 0 ≤ tolerance) (hrequested : 0 ≤ requested) :
    ∀ d ∈ allocate tolerance requested ratios, 0 ≤ d := by
  intro d hd
  rw [allocate_eq htolerance] at hd
  split at hd
  · obtain ⟨r, -, rfl⟩ := List.mem_map.mp hd
    exact div_nonneg hrequested (Nat.cast_nonneg _)
  · have hsum : 0 ≤ (ratios.map share).sum := by
      refine List.sum_nonneg fun r hr => ?_
      obtain ⟨ratio, -, rfl⟩ := List.mem_map.mp hr
      exact share_nonneg ratio
    split at hd
    · obtain ⟨r, -, rfl⟩ := List.mem_map.mp hd
      exact mul_nonneg hrequested (div_nonneg (share_nonneg r) hsum)
    · obtain ⟨r, -, rfl⟩ := List.mem_map.mp hd
      exact mul_nonneg hrequested (share_nonneg r)

/-- Shares that come to nothing are replaced by equal parts. -/
lemma allocate_of_le (htolerance : 0 ≤ tolerance)
    (h : requested * (ratios.map share).sum ≤ tolerance) :
    allocate tolerance requested ratios = ratios.map fun _ => requested / ratios.length := by
  rw [allocate_eq htolerance, if_pos h]

/-- Shares that come to something are all scaled alike. -/
lemma exists_allocate_eq_map (htolerance : 0 ≤ tolerance)
    (h : tolerance < requested * (ratios.map share).sum) :
    ∃ scale, allocate tolerance requested ratios = ratios.map fun r => scale * share r := by
  rw [allocate_eq htolerance, if_neg (not_le.mpr h)]
  split
  · refine ⟨requested / (ratios.map share).sum, List.map_congr_left fun r _ => ?_⟩
    rw [mul_div_assoc', div_mul_eq_mul_div]
  · exact ⟨requested, rfl⟩

/-- Parts that are not the shares as they are add up to the request exactly. -/
lemma sum_allocate (htolerance : 0 ≤ tolerance) (hratios : ratios ≠ [])
    (h : requested * (ratios.map share).sum ≤ tolerance ∨
      tolerance < |requested * (ratios.map share).sum - requested|) :
    (allocate tolerance requested ratios).sum = requested := by
  rw [allocate_eq htolerance]
  split
  · have hlength : (ratios.length : ℝ) ≠ 0 :=
      Nat.cast_ne_zero.mpr (List.length_eq_zero_iff.not.mpr hratios)
    rw [List.map_const', List.sum_replicate, nsmul_eq_mul, mul_div_cancel₀ _ hlength]
  · rename_i hshort
    have hsum : (ratios.map share).sum ≠ 0 := by
      intro hzero
      rw [hzero, mul_zero] at hshort
      exact hshort htolerance
    rw [if_pos (h.resolve_left hshort)]
    simp only [div_eq_mul_inv]
    rw [List.sum_map_mul_left, List.sum_map_mul_right, mul_inv_cancel₀ hsum, mul_one]

/-- **The parts add up to the request,** up to the tolerance. -/
theorem abs_sum_allocate_sub_le (htolerance : 0 ≤ tolerance) (hratios : ratios ≠ []) :
    |(allocate tolerance requested ratios).sum - requested| ≤ tolerance := by
  by_cases h : requested * (ratios.map share).sum ≤ tolerance ∨
      tolerance < |requested * (ratios.map share).sum - requested|
  · rw [sum_allocate htolerance hratios h, sub_self, abs_zero]
    exact htolerance
  · rw [not_or] at h
    rw [allocate_eq htolerance, if_neg h.1, if_neg h.2, List.sum_map_mul_left]
    exact not_lt.mp h.2

end Schedule

/-! ### Schedules of plans -/

namespace Plan

/-- **Time is shared out in proportion.**  The share of a step is its ratio, if that is finite and
not negative, and else nothing.  Every schedule has one part for each step, none of them negative.
If the shares of the request come to no more than the tolerance, the parts are equal.  Otherwise
they are in proportion to the shares, so that a step without a share gets no time.  They add up to
the request up to the tolerance, and exactly where the shares do not. -/
theorem schedule_proportional {plan : Plan ℝ} {settings : Settings ℝ} {durations : List ℝ}
    (h : plan.schedule settings = .ok durations) :
    let share : Step ℝ → ℝ := fun step =>
      if Scalar.isFinite step.ratio = true ∧ 0 ≤ step.ratio then step.ratio else 0
    let requested : ℝ := plan.duration * (plan.steps.map share).sum
    durations.length = plan.steps.length ∧
    (∀ d ∈ durations, 0 ≤ d) ∧
    (requested ≤ settings.durationTolerance →
      ∀ d ∈ durations, d = plan.duration / plan.steps.length) ∧
    (settings.durationTolerance < requested →
      (∀ a ∈ durations.zip plan.steps, ∀ b ∈ durations.zip plan.steps,
        a.1 * share b.2 = b.1 * share a.2) ∧
      ∀ a ∈ durations.zip plan.steps, share a.2 = 0 → a.1 = 0) ∧
    |durations.sum - plan.duration| ≤ settings.durationTolerance ∧
    (settings.durationTolerance < |requested - plan.duration| →
      durations.sum = plan.duration) := by
  intro share requested
  obtain ⟨hsettings, hplan, rfl⟩ := schedule_ok h
  obtain ⟨hsteps, -, hduration⟩ := check_eq_ok_iff.mp hplan
  have htolerance := (Settings.durationTolerance_pos hsettings).le
  have hratios : plan.steps.map (·.ratio) ≠ [] := List.map_eq_nil_iff.not.mpr hsteps
  have hrequested :
      requested = plan.duration * ((plan.steps.map (·.ratio)).map Schedule.share).sum := by
    rw [List.map_map]
    rfl
  rw [hrequested]
  refine ⟨length_of_schedule h, Schedule.allocate_nonneg htolerance hduration.le, ?_, ?_,
    Schedule.abs_sum_allocate_sub_le htolerance hratios,
    fun hapart => Schedule.sum_allocate htolerance hratios (.inr hapart)⟩
  · intro hsum d hd
    rw [Schedule.allocate_of_le htolerance hsum] at hd
    obtain ⟨-, -, rfl⟩ := List.mem_map.mp hd
    rw [List.length_map]
  · intro hsum
    obtain ⟨scale, hscale⟩ := Schedule.exists_allocate_eq_map htolerance hsum
    -- every part is the share of the step beside it, scaled
    have hpart : ∀ a ∈ (Schedule.allocate settings.durationTolerance plan.duration
        (plan.steps.map (·.ratio))).zip plan.steps, a.1 = scale * share a.2 := by
      intro a ha
      rw [hscale, List.map_map, List.zip_map_left, List.mem_map] at ha
      obtain ⟨b, hb, rfl⟩ := ha
      obtain ⟨i, hi, rfl⟩ := List.getElem_of_mem hb
      rw [Prod.map_fst, Prod.map_snd, List.getElem_zip]
      rfl
    refine ⟨fun a ha b hb => ?_, fun a ha hzero => ?_⟩
    · rw [hpart a ha, hpart b hb]
      ring
    · rw [hpart a ha, hzero, mul_zero]

/-- A plan whose ratios do not add up to one, and one of which is no share. -/
def lopsided {α : Type} [Scalar α] : Plan α where
  steps := [⟨.hold {}, 1⟩, ⟨.hold {}, 3.0⟩, ⟨.hold {}, -1⟩]
  duration := 4.0

/-- A step with a negative ratio gets no time, and the others share all of it, one to three. -/
theorem schedule_proportional_lopsided :
    (lopsided : Plan ℝ).schedule .standard = .ok [1, 3, 0] := by
  have hplan : (lopsided : Plan ℝ).check = .ok () :=
    check_of_pos (List.cons_ne_nil _ _) (by simp only [lopsided]; norm_num)
  obtain ⟨durations, h⟩ := exists_schedule Settings.check_standard hplan
  have htolerance : (Settings.standard : Settings ℝ).durationTolerance < 12 := by
    simp only [Settings.standard]
    norm_num
  obtain ⟨hlength, -, -, hproportional, -, htotal⟩ := schedule_proportional h
  have hfinite (x : ℝ) : Scalar.isFinite x = true := rfl
  obtain ⟨x, y, z, rfl⟩ := List.length_eq_three.mp hlength
  -- the shares are one, three and nothing, and come to sixteen seconds instead of four
  simp only [lopsided, List.map_cons, List.map_nil, hfinite, true_and] at hproportional htotal
  norm_num at hproportional htotal
  obtain ⟨⟨⟨hy, hz⟩, -⟩, -⟩ := hproportional (by linarith only [htolerance])
  have hx : x = 1 := by linarith only [htotal htolerance, hy, hz]
  rw [h, hz, ← hy, hx, one_mul]

end Plan

end Cinematics
