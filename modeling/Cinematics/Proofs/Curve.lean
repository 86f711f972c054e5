import Mathlib.Algebra.Order.Monoid.Unbundled.Pow
import Mathlib.Order.Monotone.Union
import Mathlib.Tactic.Linarith
import Mathlib.Tactic.NormNum
import Mathlib.Tactic.Ring
import Mathlib.Topology.Algebra.Monoid
import Mathlib.Topology.Order.OrderClosed
import Cinematics.Proofs.Real
import Cinematics.Easing

/-!
# The shape of easing curves

All easing curves come from the powers of time by two constructions.  A curve that is *reversed* is
run backwards, in time and in progress.  A curve that is *joined* to its own reversal is run at
double speed through the first half of the time and of the way, and the reversal through the second.
The curves from rest are powers, those to rest are powers that are reversed, and those from rest to
rest are powers that are joined.

Both constructions keep what makes a timing curve (`IsTiming`): it leads from zero to one on the
unit interval, always upwards and without a jump.  So this is shown of a joined curve once, where
its two halves meet, and not for each branch of each curve.  Clamping the time adds that progress
rests at zero before the start and at one after the end (`Easing.apply_timing`).
-/

namespace Cinematics

/-! ### Timing curves -/

/-- What is asked of a timing curve. -/
structure IsTiming (f : ℝ → ℝ) : Prop where
  /-- It starts at zero. -/
  zero : f 0 = 0
  /-- It ends at one. -/
  one : f 1 = 1
  /-- It always goes upwards in between. -/
  strictMonoOn : StrictMonoOn f (Set.Icc 0 1)
  /-- It has no jumps. -/
  continuous : Continuous f

/-- A curve run backwards. -/
noncomputable def reversed (f : ℝ → ℝ) (t : ℝ) : ℝ := 1 - f (1 - t)

/-- A curve at double speed through the first half, and run backwards through the second. -/
noncomputable def joined (f : ℝ → ℝ) (t : ℝ) : ℝ :=
  if t < 0.5 then f (2.0 * t) / 2.0 else 1 - f (2.0 * (1 - t)) / 2.0

variable {f : ℝ → ℝ} {t : ℝ}

/-- The first half of a joined curve. -/
lemma joined_of_lt (ht : t < 0.5) : joined f t = f (2 * t) / 2 := by
  have htwo : (2.0 : ℝ) = 2 := by norm_num
  rw [joined, if_pos ht, htwo]

/-- The second half of a joined curve. -/
lemma joined_of_ge (ht : 0.5 ≤ t) : joined f t = 1 - f (2 * (1 - t)) / 2 := by
  have htwo : (2.0 : ℝ) = 2 := by norm_num
  rw [joined, if_neg (not_lt.mpr ht), htwo]

/-- In the middle, too, a joined curve may be read as the first half, if the curve ends at one. -/
lemma joined_of_le (hone : f 1 = 1) (ht : t ≤ 0.5) : joined f t = f (2 * t) / 2 := by
  rcases lt_or_eq_of_le ht with hearly | hmiddle
  · exact joined_of_lt hearly
  · have hleft : 2 * t = 1 := by
      rw [hmiddle]
      norm_num
    have hright : 2 * (1 - t) = 1 := by
      rw [hmiddle]
      norm_num
    rw [joined_of_ge hmiddle.ge, hleft, hright, hone]
    norm_num

/-- A joined curve that is reversed is the same curve. -/
lemma reversed_joined (hone : f 1 = 1) : reversed (joined f) t = joined f t := by
  unfold reversed
  rcases le_total t 0.5 with hearly | hlate
  · have hmirror : (0.5 : ℝ) ≤ 1 - t := by
      norm_num at hearly ⊢
      linarith
    rw [joined_of_ge hmirror, joined_of_le hone hearly, sub_sub_cancel, sub_sub_cancel]
  · have hmirror : 1 - t ≤ (0.5 : ℝ) := by
      norm_num at hlate ⊢
      linarith
    rw [joined_of_le hone hmirror, joined_of_ge hlate]

/-- The powers of time are timing curves. -/
lemma isTiming_pow {n : ℕ} (hn : n ≠ 0) : IsTiming fun t => t ^ n where
  zero := zero_pow hn
  one := one_pow n
  strictMonoOn := (pow_left_strictMonoOn₀ hn).mono fun _ ht => ht.1
  continuous := continuous_pow n

namespace IsTiming

/-- A timing curve run backwards is one. -/
lemma reverse (hf : IsTiming f) : IsTiming (reversed f) where
  zero := by
    rw [reversed, sub_zero, hf.one, sub_self]
  one := by
    rw [reversed, sub_self, hf.zero, sub_zero]
  strictMonoOn := by
    intro s hs t ht hst
    have hback : f (1 - t) < f (1 - s) :=
      hf.strictMonoOn ⟨sub_nonneg.mpr ht.2, sub_le_self 1 ht.1⟩
        ⟨sub_nonneg.mpr hs.2, sub_le_self 1 hs.1⟩ (sub_lt_sub_left hst 1)
    exact sub_lt_sub_left hback 1
  continuous := by
    unfold reversed
    exact continuous_const.sub (hf.continuous.comp (continuous_const.sub continuous_id))

/-- A joined curve goes upwards through both halves, and so, as they share the middle, through the
whole interval. -/
lemma strictMonoOn_joined (hf : IsTiming f) : StrictMonoOn (joined f) (Set.Icc 0 1) := by
  have hfirst : StrictMonoOn (joined f) (Set.Icc 0 0.5) := by
    intro s hs t ht hst
    obtain ⟨hs0, hs1⟩ := hs
    obtain ⟨ht0, ht1⟩ := ht
    rw [joined_of_le hf.one hs1, joined_of_le hf.one ht1]
    norm_num at hs1 ht1
    have hup : f (2 * s) < f (2 * t) := by
      apply hf.strictMonoOn
      · exact ⟨by linarith, by linarith⟩
      · exact ⟨by linarith, by linarith⟩
      · linarith
    linarith
  have hsecond : StrictMonoOn (joined f) (Set.Icc 0.5 1) := by
    intro s hs t ht hst
    obtain ⟨hs0, hs1⟩ := hs
    obtain ⟨ht0, ht1⟩ := ht
    rw [joined_of_ge hs0, joined_of_ge ht0]
    norm_num at hs0 ht0
    have hdown : f (2 * (1 - t)) < f (2 * (1 - s)) := by
      apply hf.strictMonoOn
      · exact ⟨by linarith, by linarith⟩
      · exact ⟨by linarith, by linarith⟩
      · linarith
    linarith
  have hwhole : Set.Icc (0 : ℝ) 1 = Set.Icc 0 0.5 ∪ Set.Icc 0.5 1 :=
    (Set.Icc_union_Icc_eq_Icc (by norm_num) (by norm_num)).symm
  rw [hwhole]
  exact hfirst.union hsecond (isGreatest_Icc (by norm_num)) (isLeast_Icc (by norm_num))

/-- The two halves of a joined curve meet in the middle. -/
lemma continuous_joined (hf : IsTiming f) : Continuous (joined f) := by
  have hbranches :
      joined f = fun t => if t ≤ 0.5 then f (2 * t) / 2 else 1 - f (2 * (1 - t)) / 2 := by
    funext t
    split
    · exact joined_of_le hf.one ‹_›
    · exact joined_of_ge (not_le.mp ‹_›).le
  have hfirst : Continuous fun t => f (2 * t) / 2 :=
    (hf.continuous.comp (continuous_const.mul continuous_id)).div_const 2
  have hsecond : Continuous fun t => 1 - f (2 * (1 - t)) / 2 :=
    continuous_const.sub ((hf.continuous.comp
      (continuous_const.mul (continuous_const.sub continuous_id))).div_const 2)
  rw [hbranches]
  refine hfirst.if_le hsecond continuous_id continuous_const ?_
  intro t ht
  rw [← joined_of_le hf.one ht.le, joined_of_ge ht.ge]

/-- A timing curve joined to its reversal is one. -/
lemma join (hf : IsTiming f) : IsTiming (joined f) where
  zero := by
    rw [joined_of_le hf.one (by norm_num), mul_zero, hf.zero, zero_div]
  one := by
    rw [joined_of_ge (by norm_num), sub_self, mul_zero, hf.zero, zero_div, sub_zero]
  strictMonoOn := hf.strictMonoOn_joined
  continuous := hf.continuous_joined

/-- A timing curve stays between zero and one on the unit interval. -/
lemma mem_Icc (hf : IsTiming f) (ht : t ∈ Set.Icc 0 1) : f t ∈ Set.Icc 0 1 := by
  have hstart : f 0 ≤ f t := hf.strictMonoOn.monotoneOn ⟨le_rfl, zero_le_one⟩ ht ht.1
  have hend : f t ≤ f 1 := hf.strictMonoOn.monotoneOn ht ⟨zero_le_one, le_rfl⟩ ht.2
  rw [hf.zero] at hstart
  rw [hf.one] at hend
  exact ⟨hstart, hend⟩

end IsTiming

/-! ### Clamped time -/

/-- Time is clamped to the unit interval. -/
lemma Scalar.clamp_mem_Icc (t : ℝ) : clamp t 0 1 ∈ Set.Icc (0 : ℝ) 1 :=
  ⟨le_clamp zero_le_one, clamp_le zero_le_one⟩

/-- What is left of the time is clamped to what is left of the clamped time. -/
lemma Scalar.clamp_one_sub (t : ℝ) : clamp (1 - t) 0 1 = 1 - clamp t 0 1 := by
  rw [clamp_real zero_le_one, clamp_real zero_le_one]
  rcases le_total t 0 with hearly | hstarted
  · rw [min_eq_left (by linarith), min_eq_right (by linarith), max_eq_right zero_le_one,
      max_eq_left hearly, sub_zero]
  · rcases le_total t 1 with hrunning | hover
    · rw [min_eq_right (by linarith), min_eq_right hrunning, max_eq_right (by linarith),
        max_eq_right hstarted]
    · rw [min_eq_right (by linarith), min_eq_left hover, max_eq_left (by linarith),
        max_eq_right zero_le_one, sub_self]

/-! ### The curves of the easings -/

namespace Easing

/-- The easing that runs the curve of another one backwards. -/
def mirror : Easing → Easing
  | .linear => .linear
  | .inQuad => .outQuad
  | .outQuad => .inQuad
  | .inOutQuad => .inOutQuad
  | .inCubic => .outCubic
  | .outCubic => .inCubic
  | .inOutCubic => .inOutCubic

variable (e : Easing)

/-- Time itself is its first power. -/
lemma curve_linear : (linear.curve : ℝ → ℝ) = fun t => t ^ 1 := by
  funext t
  exact (pow_one t).symm

/-- The quadratic curve from rest is a power. -/
lemma curve_inQuad : (inQuad.curve : ℝ → ℝ) = fun t => t ^ 2 := by
  funext t
  exact (sq t).symm

/-- The cubic curve from rest is a power. -/
lemma curve_inCubic : (inCubic.curve : ℝ → ℝ) = fun t => t ^ 3 := by
  funext t
  exact (pow_three' t).symm

/-- The quadratic curve to rest is the one from rest, run backwards. -/
lemma curve_outQuad : (outQuad.curve : ℝ → ℝ) = reversed inQuad.curve := by
  funext t
  simp only [curve, reversed]
  norm_num
  ring

/-- The cubic curve to rest is the one from rest, run backwards. -/
lemma curve_outCubic : (outCubic.curve : ℝ → ℝ) = reversed inCubic.curve := by
  funext t
  simp only [curve, reversed]
  ring

/-- The quadratic curve from rest to rest is joined of the other two. -/
lemma curve_inOutQuad : (inOutQuad.curve : ℝ → ℝ) = joined inQuad.curve := by
  funext t
  simp only [curve, joined]
  split
  · norm_num
    ring
  · norm_num
    ring

/-- The cubic curve from rest to rest is joined of the other two. -/
lemma curve_inOutCubic : (inOutCubic.curve : ℝ → ℝ) = joined inCubic.curve := by
  funext t
  simp only [curve, joined]
  split
  · norm_num
    ring
  · norm_num
    ring

/-- The curves of all easings are timing curves. -/
lemma isTiming_curve : IsTiming e.curve := by
  have hquad : IsTiming inQuad.curve := by
    rw [curve_inQuad]
    exact isTiming_pow two_ne_zero
  have hcubic : IsTiming inCubic.curve := by
    rw [curve_inCubic]
    exact isTiming_pow three_ne_zero
  cases e with
  | linear =>
    rw [curve_linear]
    exact isTiming_pow one_ne_zero
  | inQuad => exact hquad
  | outQuad =>
    rw [curve_outQuad]
    exact hquad.reverse
  | inOutQuad =>
    rw [curve_inOutQuad]
    exact hquad.join
  | inCubic => exact hcubic
  | outCubic =>
    rw [curve_outCubic]
    exact hcubic.reverse
  | inOutCubic =>
    rw [curve_inOutCubic]
    exact hcubic.join

/-- The mirror of an easing has its curve, run backwards. -/
lemma curve_mirror (t : ℝ) : e.mirror.curve t = reversed e.curve t := by
  have hone : ∀ e : Easing, e.curve (1 : ℝ) = 1 := fun e => e.isTiming_curve.one
  cases e with
  | linear => exact (sub_sub_cancel 1 t).symm
  | inQuad => exact congrFun curve_outQuad t
  | outQuad =>
    rw [mirror, curve_outQuad, reversed, reversed, sub_sub_cancel, sub_sub_cancel]
  | inOutQuad =>
    rw [mirror, curve_inOutQuad, reversed_joined (hone inQuad)]
  | inCubic => exact congrFun curve_outCubic t
  | outCubic =>
    rw [mirror, curve_outCubic, reversed, reversed, sub_sub_cancel, sub_sub_cancel]
  | inOutCubic =>
    rw [mirror, curve_inOutCubic, reversed_joined (hone inCubic)]

/-! ### Progress -/

/-- Within the unit interval progress follows the curve. -/
lemma apply_of_mem {t : ℝ} (ht : t ∈ Set.Icc (0 : ℝ) 1) : e.apply t = e.curve t := by
  rw [apply, Scalar.clamp, if_neg (not_lt.mpr ht.1), if_neg (not_lt.mpr ht.2)]

/-- Progress has no jumps. -/
lemma continuous_apply : Continuous (e.apply : ℝ → ℝ) := by
  have hclamp : (fun t : ℝ => Scalar.clamp t 0 1) = fun t => max 0 (min 1 t) := by
    funext t
    exact Scalar.clamp_real zero_le_one
  have htime : Continuous fun t : ℝ => Scalar.clamp t 0 1 := by
    rw [hclamp]
    exact continuous_const.max (continuous_const.min continuous_id)
  exact e.isTiming_curve.continuous.comp htime

/-- **Easing curves are timing functions.**  Progress lies between zero and one, at zero before the
start and at one after the end.  In between it always grows, and nowhere does it jump, so that the
halves of a curve with two of them meet.  The mirror of an easing makes the same progress backwards;
it is the counterpart to rest or from rest of an easing that has one, and otherwise the easing
itself. -/
theorem apply_timing :
    (∀ t : ℝ, 0 ≤ e.apply t ∧ e.apply t ≤ 1) ∧
      (∀ t : ℝ, t ≤ 0 → e.apply t = 0) ∧ (∀ t : ℝ, 1 ≤ t → e.apply t = 1) ∧
      StrictMonoOn (e.apply : ℝ → ℝ) (Set.Icc 0 1) ∧ Continuous (e.apply : ℝ → ℝ) ∧
      ∀ t : ℝ, e.mirror.apply t = 1 - e.apply (1 - t) := by
  have hcurve := e.isTiming_curve
  refine ⟨?_, ?_, ?_, ?_, e.continuous_apply, ?_⟩
  · intro t
    exact hcurve.mem_Icc (Scalar.clamp_mem_Icc t)
  · intro t ht
    rw [apply, Scalar.clamp_real zero_le_one, max_eq_left ((min_le_right _ _).trans ht),
      hcurve.zero]
  · intro t ht
    rw [apply, Scalar.clamp_real zero_le_one, min_eq_left ht, max_eq_right zero_le_one, hcurve.one]
  · intro s hs t ht hst
    rw [e.apply_of_mem hs, e.apply_of_mem ht]
    exact hcurve.strictMonoOn hs ht hst
  · intro t
    rw [apply, apply, Scalar.clamp_one_sub]
    exact e.curve_mirror _

/-- The cubic curve from rest to rest rests before the start and after the end, grows from a time in
its first half to one in its second, and is symmetric at these. -/
theorem apply_timing_acrossMiddle :
    ((-1.0 : ℝ) ≤ 0 ∧ inOutCubic.apply (-1.0 : ℝ) = 0) ∧
      ((1 : ℝ) ≤ 2.0 ∧ inOutCubic.apply (2.0 : ℝ) = 1) ∧
      inOutCubic.apply (0.4 : ℝ) < inOutCubic.apply (0.6 : ℝ) ∧
      inOutCubic.apply (0.6 : ℝ) = 1 - inOutCubic.apply (0.4 : ℝ) := by
  obtain ⟨-, hbefore, hafter, hgrows, -, hmirror⟩ := apply_timing inOutCubic
  have hstart : (-1.0 : ℝ) ≤ 0 := by norm_num
  have hend : (1 : ℝ) ≤ 2.0 := by norm_num
  have hleft : (1 : ℝ) - 0.6 = 0.4 := by norm_num
  refine ⟨⟨hstart, hbefore _ hstart⟩, ⟨hend, hafter _ hend⟩, ?_, ?_⟩
  · apply hgrows
    · norm_num
    · norm_num
    · norm_num
  · rw [← hleft]
    exact hmirror 0.6

end Easing

end Cinematics
