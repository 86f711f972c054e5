import Cinematics.Proofs.FreeArc

/-!
# Room for keyframes

`Plan.interpret` is what comes of a plan where there is room for all keyframes.  An orbit asks for
its room before it starts, and the limit of the settings on its angle may be any positive number.
So there are plans that ask for more room than there can be, and the program breaks off at them:
`Plan.interpret?` is nothing then.

This file ties the two together.  A plan that has room at every step comes to the same in both, and
one that has no room at some step comes to nothing, unless it is refused before its first step
(`Plan.interpret?_verdict`).  Settings with an ordinary limit always leave room, so that all that is
known of `Plan.interpret` then holds of the program (`Plan.interpret?_of_orbitLimit`).  The last
theorem of the file is about settings that do not.
-/

namespace Cinematics

section

variable {α : Type} [Scalar α]

/-! ### The room for one move -/

/-- Whether a step has room: if it is an orbit that goes along an arc, this takes fewer than
`2 ^ 57` keyframes. -/
def Entry.HasRoom (scene : Scene α) (around : Surroundings α) (settings : Settings α)
    (e : Entry α) : Prop :=
  ∀ orbit duration arc, e.move = .orbit orbit →
    orbit.GoesAlong ⟨scene, around, settings, duration⟩ e.start arc →
      Scalar.ceilNat (Scalar.abs arc.degrees / settings.effectiveOrbitStep) < 2 ^ 57

/-- An arc is cut into fewer than `2 ^ 57` segments when so many steps would do. -/
lemma Orbit.segmentsFor_lt_iff {settings : Settings α} {degrees : α} :
    segmentsFor settings degrees < 2 ^ 57 ↔
      Scalar.ceilNat (Scalar.abs degrees / settings.effectiveOrbitStep) < 2 ^ 57 :=
  Nat.max_lt.trans (and_iff_right (by norm_num))

variable {scene : Scene α} {around : Surroundings α} {settings : Settings α}

/-- A program finds room for a step, in whatever time, if the step has room. -/
lemma Entry.hasRoom_iff {e : Entry α} (duration : α) :
    e.move.hasRoom ⟨scene, around, settings, duration⟩ e.start = true ↔
      e.HasRoom scene around settings := by
  obtain ⟨move, start, outcome⟩ := e
  have hbytes : move.hasRoom ⟨scene, around, settings, duration⟩ start = true ↔
      move.reserved ⟨scene, around, settings, duration⟩ start < 2 ^ 57 := by
    rw [Move.hasRoom, decide_eq_true_iff]
    omega
  rw [hbytes]
  constructor
  · rintro h orbit _ arc rfl hgoes
    -- the seconds of the step make no difference to its way
    have hway : orbit.way ⟨scene, around, settings, duration⟩ start = .ok (.along arc) :=
      Orbit.way_of_goesAlong hgoes
    obtain ⟨_, _, _, _, _, _, _, hsegments, _⟩ := hgoes
    rw [Move.reserved, hway] at h
    exact Orbit.segmentsFor_lt_iff.mp (hsegments ▸ h)
  · intro h
    cases move with
    | orbit orbit =>
      rw [Move.reserved]
      split
      · rename_i way hway
        obtain ⟨center, degrees, radiusFactor, axis, hcenter, hangle, hfactor, haxis, hcases⟩ :=
          Orbit.way_ok hway
        rcases hcases with ⟨-, rfl⟩ | ⟨-, -, rfl⟩ | ⟨hfar, hlarge, rfl⟩
        · exact Nat.two_pow_pos 57
        · exact Nat.two_pow_pos 57
        · have hgoes : orbit.GoesAlong ⟨scene, around, settings, duration⟩ start
              { center, radius := start.position - center, degrees, radiusFactor
                axis := axis.vec start settings.epsilon
                segments := Orbit.segmentsFor settings degrees } :=
            ⟨axis, hcenter, hangle, hfactor, haxis, rfl, rfl, rfl, hfar, hlarge⟩
          exact Orbit.segmentsFor_lt_iff.mpr (h orbit duration _ rfl hgoes)
      · exact Nat.two_pow_pos 57
    | _ => exact Nat.two_pow_pos 57

/-! ### The room for a plan -/

namespace Plan

/-- Whether each step of a plan has room, from where the steps before it lead. -/
def HasRoom (plan : Plan α) (scene : Scene α) (around : Surroundings α) (settings : Settings α)
    (initial : Pose α) : Prop :=
  ∀ e ∈ plan.entries scene around settings initial, e.HasRoom scene around settings

variable [Spelled α] {plan : Plan α} {initial : Pose α}

/-- A run breaks off at the first step without room, and there only.  The induction is on the steps,
with the progress before them left general. -/
lemma run?_cases (n : Nat) (steps : List (Step α × α)) (p : Progress α) :
    ((∀ e ∈ ledger scene around settings steps p.pose, e.HasRoom scene around settings) →
      run? scene around settings n steps p = some (run scene around settings n steps p)) ∧
    ((¬ ∀ e ∈ ledger scene around settings steps p.pose, e.HasRoom scene around settings) →
      run? scene around settings n steps p = none) := by
  induction steps generalizing n p with
  | nil => simp [ledger, run?, run]
  | cons timed rest ih =>
    obtain ⟨step, duration⟩ := timed
    let entry : Entry α :=
      ⟨step.move, p.pose, step.move.attempt ⟨scene, around, settings, duration⟩ p.pose⟩
    rw [ledger, List.forall_mem_cons]
    by_cases hroom : step.move.hasRoom ⟨scene, around, settings, duration⟩ p.pose = true
    · have hfirst : entry.HasRoom scene around settings := (Entry.hasRoom_iff duration).mp hroom
      obtain ⟨hsome, hnone⟩ := ih (n + 1)
        ⟨entry.finish, p.keyframes ++ entry.block, p.diagnostics ++ entry.remarks n⟩
      rw [run?, if_pos hroom, run, Progress.advance_eq]
      exact ⟨fun h => hsome h.2, fun h => hnone fun hrest => h ⟨hfirst, hrest⟩⟩
    · rw [run?, if_neg hroom]
      have hfirst : ¬ entry.HasRoom scene around settings :=
        mt (Entry.hasRoom_iff duration).mpr hroom
      exact ⟨fun h => absurd h.1 hfirst, fun _ => rfl⟩

/-- With room at every step, a program comes to the interpretation of the plan. -/
theorem interpret?_of_hasRoom (h : plan.HasRoom scene around settings initial) :
    plan.interpret? scene around settings initial =
      some (plan.interpret scene around settings initial) := by
  unfold interpret? interpret
  split
  · cases hschedule : plan.schedule settings with
    | ok durations =>
      obtain ⟨-, -, hdurations⟩ := schedule_ok hschedule
      subst hdurations
      have hrun := (run?_cases 0 _ (.start initial)).1 h
      simp only [durations] at hrun
      simp only [hrun]
      rfl
    | error fault => rfl
  · rfl

/-- Without room at some step, a program that gets to its first step comes to nothing. -/
theorem interpret?_of_not_hasRoom (hinitial : initial.isFinite = true)
    (hsettings : settings.check = .ok ()) (hplan : plan.check = .ok ())
    (h : ¬ plan.HasRoom scene around settings initial) :
    plan.interpret? scene around settings initial = none := by
  obtain ⟨_, hschedule⟩ := exists_schedule hsettings hplan
  obtain ⟨-, -, rfl⟩ := schedule_ok hschedule
  have hrun := (run?_cases 0 _ (.start initial)).2 h
  simp only [durations] at hrun
  unfold interpret?
  rw [if_pos hinitial, hschedule]
  simp only [hrun]
  rfl

/-- A plan that is refused is refused whether it has room or not. -/
theorem interpret?_of_error {fault : Fault α}
    (h : plan.interpret scene around settings initial = .error fault) :
    plan.interpret? scene around settings initial = some (.error fault) := by
  rw [interpret_eq] at h
  unfold interpret?
  split at h
  · rename_i hinitial
    rw [if_pos hinitial]
    cases hschedule : plan.schedule settings with
    | ok durations =>
      rw [hschedule] at h
      cases h
    | error fault' =>
      rw [hschedule] at h
      obtain rfl := Except.error.inj h
      rfl
  · rename_i hinitial
    obtain rfl := Except.error.inj h
    exact if_neg hinitial

/-- **Steps do not make an interpretation fail, unless they ask for too much room.**

A program comes to an interpretation exactly when the initial pose is finite, the settings are in
range, the plan has steps and a positive finite duration, and there is room at every step.  It
refuses for the pose first, then for the settings, and then for the plan, whether there is room or
not; with all that in order and without room at some step, it comes to nothing.  Every fault of a
step is about the request of the step and can be skipped. -/
theorem interpret?_verdict (plan : Plan α) (scene : Scene α) (around : Surroundings α)
    (settings : Settings α) (initial : Pose α) :
    ((∃ i, plan.interpret? scene around settings initial = some (.ok i)) ↔
      initial.isFinite = true ∧ settings.check = .ok () ∧
        (plan.steps ≠ [] ∧ Scalar.isFinite plan.duration = true ∧ 0 < plan.duration) ∧
        plan.HasRoom scene around settings initial) ∧
    (initial.isFinite = false →
      ∃ fault, plan.interpret? scene around settings initial = some (.error fault) ∧
        fault.kind = .invalidInput) ∧
    (initial.isFinite = true → settings.check ≠ .ok () →
      ∃ fault, plan.interpret? scene around settings initial = some (.error fault) ∧
        fault.kind = .invalidSettings) ∧
    (initial.isFinite = true → settings.check = .ok () →
      ¬ (plan.steps ≠ [] ∧ Scalar.isFinite plan.duration = true ∧ 0 < plan.duration) →
      ∃ fault, plan.interpret? scene around settings initial = some (.error fault) ∧
        fault.kind = .invalidPlan) ∧
    (initial.isFinite = true → settings.check = .ok () →
      plan.steps ≠ [] ∧ Scalar.isFinite plan.duration = true ∧ 0 < plan.duration →
      ¬ plan.HasRoom scene around settings initial →
      plan.interpret? scene around settings initial = none) ∧
    ∀ (move : Move α) stage pose fault, move.attempt stage pose = .error fault →
      fault.isRecoverable = true ∧
        fault.Blames ("parameters" :: move.kind.parameters) move.placeNames := by
  rw [← check_eq_ok_iff]
  refine ⟨⟨?_, ?_⟩, ?_, ?_, ?_, fun hinitial hsettings hplan hroom => ?_, ?_⟩
  · rintro ⟨i, h⟩
    cases hinterpret : plan.interpret scene around settings initial with
    | error fault =>
      rw [interpret?_of_error hinterpret] at h
      cases h
    | ok i' =>
      obtain ⟨hinitial, hsettings, hplan⟩ := exists_interpret_iff.mp ⟨i', hinterpret⟩
      refine ⟨hinitial, hsettings, hplan, by_contra fun hroom => ?_⟩
      rw [interpret?_of_not_hasRoom hinitial hsettings hplan hroom] at h
      cases h
  · rintro ⟨hinitial, hsettings, hplan, hroom⟩
    obtain ⟨i, h⟩ := exists_interpret hinitial hsettings hplan
    exact ⟨i, (interpret?_of_hasRoom hroom).trans (congrArg some h)⟩
  · intro hinitial
    exact ⟨_, interpret?_of_error (interpret_of_pose hinitial), rfl⟩
  · intro hinitial hsettings
    obtain ⟨setting, -, h⟩ := interpret_of_settings hinitial hsettings
    exact ⟨_, interpret?_of_error h, rfl⟩
  · intro hinitial hsettings hplan
    obtain ⟨fault, hkind, h⟩ := interpret_of_plan hinitial hsettings hplan
    exact ⟨fault, interpret?_of_error h, hkind⟩
  · exact interpret?_of_not_hasRoom hinitial hsettings hplan hroom
  · intro move stage pose fault h
    exact ⟨Move.isRecoverable_of_attempt h, Move.attempt_error h⟩

end Plan

end

/-! ### Settings that leave room -/

/-- Over the reals, a step always has room when the limit on the angle of an orbit is below `2 ^ 58`
degrees, since no keyframe takes less than two degrees of an arc. -/
theorem Entry.hasRoom_of_orbitLimit {settings : Settings ℝ}
    (h : settings.orbitLimit ≤ 2 * (2 ^ 57 - 1)) (scene : Scene ℝ) (around : Surroundings ℝ)
    (e : Entry ℝ) : e.HasRoom scene around settings := by
  rintro orbit duration arc - ⟨_, -, hangle, -⟩
  have hlimit : |arc.degrees| ≤ settings.orbitLimit := Orbit.abs_le_of_angleFor hangle
  have hstep := settings.effectiveOrbitStep_mem.1
  have hquotient : |arc.degrees| / settings.effectiveOrbitStep ≤ ((2 ^ 57 - 1 : ℕ) : ℝ) := by
    rw [div_le_iff₀ (by linarith)]
    push_cast
    nlinarith
  have hsteps : Scalar.ceilNat (Scalar.abs arc.degrees / settings.effectiveOrbitStep) ≤
      2 ^ 57 - 1 := Nat.ceil_le.mpr hquotient
  omega

namespace Plan

/-- Over the reals, a program comes to the interpretation of every plan when the settings limit
orbits to less than `2 ^ 58` degrees. -/
theorem interpret?_of_orbitLimit {settings : Settings ℝ}
    (h : settings.orbitLimit ≤ 2 * (2 ^ 57 - 1)) (plan : Plan ℝ) (scene : Scene ℝ)
    (around : Surroundings ℝ) (initial : Pose ℝ) :
    plan.interpret? scene around settings initial =
      some (plan.interpret scene around settings initial) :=
  interpret?_of_hasRoom fun e _ => e.hasRoom_of_orbitLimit h scene around

/-- A plan whose only step has no angle to go by is interpreted all the same, and a plan without
steps is refused as such. -/
theorem interpret?_verdict_missing_angle :
    (∃ i, (⟨[⟨.orbit {}, 1⟩], 2⟩ : Plan ℝ).interpret? .empty .free .standard .ahead =
      some (.ok i)) ∧
    ∃ fault, (⟨[], 2⟩ : Plan ℝ).interpret? .empty .free .standard .ahead =
      some (.error fault) ∧ fault.kind = .invalidPlan := by
  obtain ⟨hok, -, -, -, -⟩ := interpret?_verdict (⟨[⟨.orbit {}, 1⟩], 2⟩ : Plan ℝ) .empty .free
    .standard .ahead
  obtain ⟨-, -, -, hplan, -⟩ := interpret?_verdict (⟨[], 2⟩ : Plan ℝ) .empty .free .standard .ahead
  have hlimit : (Settings.standard : Settings ℝ).orbitLimit ≤ 2 * (2 ^ 57 - 1) := by
    norm_num [Settings.standard]
  refine ⟨hok.mpr ⟨rfl, Settings.check_standard, ⟨by simp, rfl, by norm_num⟩, ?_⟩, ?_⟩
  · exact fun e _ => e.hasRoom_of_orbitLimit hlimit _ _
  · exact hplan rfl Settings.check_standard (by simp)

end Plan

/-! ### A plan without room -/

/-- Settings with hardly any limit on the angle of an orbit. -/
def Settings.boundless {α : Type} [Scalar α] : Settings α :=
  { Settings.standard with orbitLimit := 1e300 }

/-- A request to go around far too often. -/
def Orbit.endless {α : Type} [Scalar α] : Orbit α := { angle := some 1e300 }

/-- The arc of the request, for a camera in front of the origin. -/
noncomputable def Orbit.Arc.endless : Orbit.Arc ℝ where
  center := Pose.ahead.target
  axis := Vec.unit .y
  radius := Pose.ahead.position - Pose.ahead.target
  degrees := 1e300
  radiusFactor := 1
  segments := segmentsFor .boundless (1e300 : ℝ)

/-- Settings with hardly any limit are in their range. -/
lemma Settings.check_boundless : (boundless : Settings ℝ).check = .ok () := by
  rw [check_eq_ok_iff]
  intro setting
  cases setting
  all_goals
    simp only [isMet, boundless, standard, Scalar.isFinite_real, Bool.and_true, Bool.and_eq_true]
    norm_num

/-- The request goes along its arc. -/
lemma Orbit.goesAlong_endless (duration : ℝ) :
    endless.GoesAlong ⟨.empty, .free, .boundless, duration⟩ .ahead .endless := by
  refine ⟨.world .y, rfl, ?_, ?_, rfl, rfl, rfl, rfl, ?_, ?_⟩
  · exact angleFor_of_angle rfl rfl (by norm_num [Arc.endless, Settings.boundless])
  · have hfactor : Scalar.isFinite (1 : ℝ) = true ∧ (0 : ℝ) < 1 := ⟨rfl, one_pos⟩
    exact if_pos hfactor
  · have hlength : Arc.endless.radius.norm = 5 := norm_radius_ahead
    rw [hlength]
    norm_num [Settings.boundless, Settings.standard]
  · norm_num [Arc.endless, Settings.boundless, Settings.standard]

/-- The request takes too many keyframes. -/
lemma Orbit.le_ceilNat_endless : 2 ^ 57 ≤ Scalar.ceilNat
    (Scalar.abs (Arc.endless.degrees) / (Settings.boundless : Settings ℝ).effectiveOrbitStep) := by
  have hstep := (Settings.boundless : Settings ℝ).effectiveOrbitStep_mem
  refine Nat.cast_le.mp ((Nat.le_ceil _).trans' ?_ : _ ≤ (_ : ℝ))
  rw [le_div_iff₀ (by linarith only [hstep.1])]
  norm_num [Arc.endless]
  linarith only [hstep.2]

/-- **A plan in order that comes to nothing.**  The pose is finite, the settings are in range, and
the plan has a step and a positive duration; yet there is no interpretation and no fault. -/
theorem Plan.interpret?_endless :
    Pose.ahead.isFinite = true ∧ (Settings.boundless : Settings ℝ).check = .ok () ∧
      ((only (.orbit .endless)).steps ≠ [] ∧
        Scalar.isFinite (only (.orbit .endless)).duration = true ∧
        0 < (only (.orbit .endless)).duration) ∧
      (only (.orbit .endless)).interpret? .empty .free .boundless .ahead = none := by
  have hplan : (only (.orbit .endless)).check = .ok () :=
    check_of_pos (List.cons_ne_nil _ _) one_pos
  refine ⟨rfl, Settings.check_boundless, check_eq_ok_iff.mp hplan,
    interpret?_of_not_hasRoom rfl Settings.check_boundless hplan fun hroom => ?_⟩
  obtain ⟨d, -, hentries⟩ := entries_only Settings.check_boundless (.orbit .endless) .empty .ahead
  rw [HasRoom, hentries] at hroom
  exact Orbit.le_ceilNat_endless.not_gt
    (hroom _ List.mem_cons_self .endless d .endless rfl (Orbit.goesAlong_endless d))

end Cinematics
