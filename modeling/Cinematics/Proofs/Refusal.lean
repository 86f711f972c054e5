import Cinematics.Proofs.Real
import Cinematics.Proofs.Run

/-!
# When an interpretation is refused

An interpretation is refused for its pose, its settings or its plan, in this order, and for nothing
else (`Plan.exists_interpret_iff`).  In particular no step is the reason, since every fault of a
step is of a kind that can be skipped.
-/

namespace Cinematics

variable {α : Type}

/-- Every setting is among those that are checked. -/
lemma Setting.mem_all (setting : Setting) : setting ∈ Setting.all := by
  cases setting <;> decide

variable [Scalar α]

/-! ### The three checks -/

namespace Settings

variable {settings : Settings α}

/-- Settings pass the check when each of them is in its range. -/
lemma check_eq_ok_iff : settings.check = .ok () ↔ ∀ setting, settings.isMet setting = true := by
  unfold check
  cases hfault : settings.firstFault? with
  | some setting =>
    have hunmet := List.find?_some hfault
    simp only [reduceCtorEq, false_iff, not_forall]
    exact ⟨setting, by simpa using hunmet⟩
  | none =>
    have hmet := List.find?_eq_none.mp hfault
    simp only [true_iff]
    intro setting
    simpa using hmet setting setting.mem_all

/-- Settings that fail the check do so for one that is out of its range. -/
lemma check_eq_error {fault : Fault α} (h : settings.check = .error fault) :
    ∃ setting, fault = .outOfRange setting ∧ settings.isMet setting = false := by
  unfold check at h
  cases hfault : settings.firstFault? with
  | some setting =>
    rw [hfault] at h
    have hunmet := List.find?_some hfault
    exact ⟨setting, (Except.error.inj h).symm, by simpa using hunmet⟩
  | none =>
    rw [hfault] at h
    cases h

/-- A tolerance in its range is positive. -/
lemma durationTolerance_pos (h : settings.check = .ok ()) : 0 < settings.durationTolerance := by
  have hmet := check_eq_ok_iff.mp h .durationTolerance
  rw [isMet, Bool.and_eq_true, decide_eq_true_eq] at hmet
  exact hmet.1

/-- The length below which a vector has no direction is positive, if it is in its range. -/
lemma epsilon_pos (h : settings.check = .ok ()) : 0 < settings.epsilon := by
  have hmet := check_eq_ok_iff.mp h .epsilon
  rw [isMet, Bool.and_eq_true, decide_eq_true_eq] at hmet
  exact hmet.1

/-- A stand-off in its range is not negative. -/
lemma standoff_nonneg (h : settings.check = .ok ()) : 0 ≤ settings.standoff := by
  have hmet := check_eq_ok_iff.mp h .standoff
  rw [isMet, Bool.and_eq_true, decide_eq_true_eq] at hmet
  exact hmet.1

/-- The standard settings pass the check, over the reals. -/
lemma check_standard : (standard : Settings ℝ).check = .ok () := by
  rw [check_eq_ok_iff]
  intro setting
  cases setting
  all_goals
    simp only [isMet, standard, Scalar.isFinite_real, Bool.and_true, Bool.and_eq_true]
    norm_num

end Settings

namespace Plan

variable {plan : Plan α} {scene : Scene α} {around : Surroundings α} {settings : Settings α}
  {initial : Pose α}

/-- A plan passes the check when it has steps and a positive finite duration. -/
lemma check_eq_ok_iff :
    plan.check = .ok () ↔
      plan.steps ≠ [] ∧ Scalar.isFinite plan.duration = true ∧ 0 < plan.duration := by
  unfold check
  split
  · rename_i hempty
    simp [List.isEmpty_iff.mp hempty]
  · rename_i hsteps
    rw [List.isEmpty_iff] at hsteps
    split
    · rename_i hduration
      simp [hsteps, hduration]
    · rename_i hduration
      simp [hsteps, hduration]

/-- Over the reals, a plan with steps and a positive duration passes the check. -/
lemma check_of_pos {plan : Plan ℝ} (hsteps : plan.steps ≠ []) (hduration : 0 < plan.duration) :
    plan.check = .ok () :=
  check_eq_ok_iff.mpr ⟨hsteps, rfl, hduration⟩

/-- A plan that fails the check is at fault itself. -/
lemma check_eq_error {fault : Fault α} (h : plan.check = .error fault) :
    fault.kind = .invalidPlan := by
  unfold check at h
  split at h
  · rw [← Except.error.inj h]
    rfl
  · split at h
    · cases h
    · rw [← Except.error.inj h]
      rfl

/-- A schedule needs settings in range and a plan that passes its check, and nothing else. -/
lemma exists_schedule (hsettings : settings.check = .ok ()) (hplan : plan.check = .ok ()) :
    ∃ durations, plan.schedule settings = .ok durations := by
  rw [schedule, hsettings, hplan]
  exact ⟨_, rfl⟩

variable [Spelled α]

/-- An interpretation needs a finite pose and a schedule, and nothing else. -/
lemma exists_interpret (hinitial : initial.isFinite = true) (hsettings : settings.check = .ok ())
    (hplan : plan.check = .ok ()) :
    ∃ i, plan.interpret scene around settings initial = .ok i := by
  obtain ⟨durations, hdurations⟩ := exists_schedule hsettings hplan
  rw [interpret_eq, if_pos hinitial, hdurations]
  exact ⟨_, rfl⟩

/-- An interpretation comes of a finite pose, settings in range and a plan in order, and of nothing
else. -/
lemma exists_interpret_iff :
    (∃ i, plan.interpret scene around settings initial = .ok i) ↔
      initial.isFinite = true ∧ settings.check = .ok () ∧ plan.check = .ok () := by
  constructor
  · rintro ⟨i, h⟩
    obtain ⟨hinitial, _, _, hschedule, -, -⟩ := interpret_ok h
    obtain ⟨hsettings, hplan, -⟩ := schedule_ok hschedule
    exact ⟨hinitial, hsettings, hplan⟩
  · rintro ⟨hinitial, hsettings, hplan⟩
    exact exists_interpret hinitial hsettings hplan

/-- A plan in order is read off its entries. -/
lemma interpret_of_check (hinitial : initial.isFinite = true) (hsettings : settings.check = .ok ())
    (hplan : plan.check = .ok ()) :
    plan.interpret scene around settings initial =
      .ok ⟨(plan.entries scene around settings initial).flatMap Entry.block,
        poseAfter initial (plan.entries scene around settings initial), plan.durations settings,
        Entry.allRemarks 0 (plan.entries scene around settings initial)⟩ := by
  obtain ⟨i, h⟩ := exists_interpret hinitial hsettings hplan
  rw [h, interpret_eq_entries h]

/-- A pose that is not finite is refused before anything else is looked at. -/
lemma interpret_of_pose (hinitial : initial.isFinite = false) :
    plan.interpret scene around settings initial = .error .poseNotFinite := by
  rw [interpret, if_neg (by simp [hinitial])]

/-- Settings out of range are refused before the plan is looked at. -/
lemma interpret_of_settings (hinitial : initial.isFinite = true)
    (hsettings : settings.check ≠ .ok ()) :
    ∃ setting, settings.isMet setting = false ∧
      plan.interpret scene around settings initial = .error (.outOfRange setting) := by
  cases hcheck : settings.check with
  | ok _ => exact absurd hcheck hsettings
  | error fault =>
    obtain ⟨setting, rfl, hunmet⟩ := Settings.check_eq_error hcheck
    refine ⟨setting, hunmet, ?_⟩
    rw [interpret, if_pos hinitial, schedule, hcheck]
    rfl

/-- With all else in order, a plan that cannot be carried out is refused as such. -/
lemma interpret_of_plan (hinitial : initial.isFinite = true) (hsettings : settings.check = .ok ())
    (hplan : plan.check ≠ .ok ()) :
    ∃ fault, fault.kind = .invalidPlan ∧
      plan.interpret scene around settings initial = .error fault := by
  cases hcheck : plan.check with
  | ok _ => exact absurd hcheck hplan
  | error fault =>
    refine ⟨fault, check_eq_error hcheck, ?_⟩
    rw [interpret, if_pos hinitial, schedule, hsettings, hcheck]
    rfl

end Plan

end Cinematics
