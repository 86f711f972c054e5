import Cinematics.Proofs.Allocation
import Cinematics.Proofs.Admissibility
import Cinematics.Proofs.Bookkeeping
import Cinematics.Proofs.Sketch

/-!
# Where the time goes

A plan is given some seconds, the steps are given shares of them, and the keyframes of a step are
given parts of its share.  No time appears on the way, and little gets lost: a sketch takes the time
of its stage exactly, except for a cut, which drops a rest that is below the tolerance
(`Sketch.fills_take`).  The time of a step that is skipped is not spent at all.

Losses add up along a run.  `Keyframe.Fills` says that keyframes take no more than some time and
lose no more than some slack, and both are added when keyframes are appended.  So the ledger of a
run fills the time of its steps up to one tolerance for each cut (`Plan.fills_ledger`).
-/

namespace Cinematics

/-! ### Totals -/

namespace Keyframe

/-- The total of durations is the sum that the library knows. -/
lemma totalDuration_eq (ks : List (Keyframe ℝ)) : totalDuration ks = (ks.map (·.duration)).sum :=
  Scalar.sum_real _

/-- Keyframes take at most some time, and all of it up to some slack. -/
structure Fills (ks : List (Keyframe ℝ)) (duration slack : ℝ) : Prop where
  /-- No more than the time is taken. -/
  le : totalDuration ks ≤ duration
  /-- No more than the slack is lost. -/
  ge : duration ≤ totalDuration ks + slack

namespace Fills

variable {ks ks' : List (Keyframe ℝ)} {duration duration' slack slack' : ℝ}

/-- No keyframes fill no time. -/
lemma nil (hslack : 0 ≤ slack) : Fills [] 0 slack := by
  constructor
  · simp [totalDuration_eq]
  · simpa [totalDuration_eq] using hslack

/-- Keyframes fill the sum of their durations. -/
lemma of_eq (h : totalDuration ks = duration) : Fills ks duration 0 :=
  ⟨h.le, by rw [h, add_zero]⟩

/-- Times and slacks are added when keyframes are appended. -/
lemma append (h : Fills ks duration slack) (h' : Fills ks' duration' slack') :
    Fills (ks ++ ks') (duration + duration') (slack + slack') := by
  have htotal : totalDuration (ks ++ ks') = totalDuration ks + totalDuration ks' := by
    simp only [totalDuration_eq, List.map_append, List.sum_append]
  constructor
  · rw [htotal]
    exact add_le_add h.le h'.le
  · rw [htotal]
    linarith only [h.ge, h'.ge]

/-- The distance of the total from the time is bounded by the slack. -/
lemma abs_sub_le (h : Fills ks duration slack) : |totalDuration ks - duration| ≤ slack := by
  rw [abs_sub_comm, abs_of_nonneg (sub_nonneg.mpr h.le)]
  exact sub_le_iff_le_add'.mpr h.ge

end Fills

end Keyframe

/-! ### One step -/

/-- What a move may lose of its time: a cut loses a rest below the tolerance. -/
def Settings.slackIf (settings : Settings ℝ) (isCut : Bool) : ℝ :=
  if isCut then settings.durationTolerance else 0

/-- A loss is not negative. -/
lemma Settings.slackIf_nonneg (settings : Settings ℝ) (htolerance : 0 ≤ settings.durationTolerance)
    (isCut : Bool) : 0 ≤ settings.slackIf isCut := by
  cases isCut with
  | true => exact htolerance
  | false => exact le_rfl

/-- A loss is not more than the tolerance. -/
lemma Settings.slackIf_le (settings : Settings ℝ) (htolerance : 0 ≤ settings.durationTolerance)
    (isCut : Bool) : settings.slackIf isCut ≤ settings.durationTolerance := by
  cases isCut with
  | true => exact le_rfl
  | false => exact htolerance

/-- A cut takes the time of its stage, but for a rest below the tolerance. -/
lemma Relocation.fills_cut {stage : Stage ℝ} (htolerance : 0 ≤ stage.settings.durationTolerance)
    (pose : Pose ℝ) :
    Keyframe.Fills (cut stage pose).keyframes stage.duration stage.settings.durationTolerance := by
  have hle : Scalar.min stage.settings.cutDuration stage.duration ≤ stage.duration := by
    rw [Scalar.min_real]
    exact min_le_right _ _
  simp only [cut]
  generalize Scalar.min stage.settings.cutDuration stage.duration = cut at hle
  split
  · have htotal : Keyframe.totalDuration [⟨pose, cut, .linear⟩,
        ⟨pose, stage.duration - cut, .linear⟩] = stage.duration := by
      simp [Keyframe.totalDuration_eq]
    exact ⟨htotal.le, by rw [htotal]; exact le_add_of_nonneg_right htolerance⟩
  · -- The rest is dropped, and it is this case that makes the slack necessary.
    rename_i hrest
    have htotal : Keyframe.totalDuration [⟨pose, cut, .linear⟩] = cut := by
      simp [Keyframe.totalDuration_eq]
    rw [not_lt, sub_le_iff_le_add'] at hrest
    exact ⟨htotal.trans_le hle, by rw [htotal]; exact hrest⟩

/-- A sketch takes the time of its stage, but for what a cut loses. -/
lemma Sketch.fills_take {stage : Stage ℝ} (htolerance : 0 ≤ stage.settings.durationTolerance)
    (s : Sketch ℝ) :
    Keyframe.Fills (s.take stage).keyframes stage.duration (stage.settings.slackIf s.isCut) := by
  cases s with
  | single pose easing unsupported =>
    refine .of_eq ?_
    simp [take, Take.single, Keyframe.totalDuration_eq]
  | arc center first rest easing =>
    refine .of_eq ?_
    have hlength : ((first :: rest).length : ℝ) ≠ 0 :=
      Nat.cast_ne_zero.mpr (List.length_eq_zero_iff.not.mpr (List.cons_ne_nil _ _))
    simp only [take, Keyframe.totalDuration_eq, List.map_map, Function.comp_def]
    rw [List.map_const', List.sum_replicate, List.length_zipIdx, nsmul_eq_mul]
    exact mul_div_cancel₀ _ hlength
  | cut pose => exact Relocation.fills_cut htolerance pose

/-- A move that succeeds takes its time, but for what a cut loses. -/
lemma Move.fills_attempt {stage : Stage ℝ} (htolerance : 0 ≤ stage.settings.durationTolerance)
    {move : Move ℝ} {pose : Pose ℝ} {take : Take ℝ} (h : move.attempt stage pose = .ok take) :
    Keyframe.Fills take.keyframes stage.duration (stage.settings.slackIf move.isCut) := by
  obtain ⟨hperform, -⟩ := attempt_eq_ok_iff.mp h
  obtain ⟨s, hcut, rfl⟩ := perform_eq_take hperform
  rw [← hcut]
  exact s.fills_take htolerance

/-! ### Whole runs -/

/-- A step is remarked as skipped if its number is among those of skipped steps. -/
lemma Interpretation.mem_skippedSteps {α : Type} {i : Interpretation α} {n : ℕ} :
    n ∈ i.skippedSteps ↔ ∃ d ∈ i.diagnostics, d.step = n ∧ d.kind = .skipped := by
  simp only [skippedSteps, List.mem_map, List.mem_filter, decide_eq_true_eq]
  constructor
  · rintro ⟨d, ⟨hd, hkind⟩, hstep⟩
    exact ⟨d, hd, hstep, hkind⟩
  · rintro ⟨d, hd, hstep, hkind⟩
    exact ⟨d, ⟨hd, hkind⟩, hstep⟩

/-- The durations that are not skipped, counted from `n`. -/
def playedFrom {α : Type} (skipped : List ℕ) (n : ℕ) (durations : List α) : List α :=
  ((durations.zipIdx n).filter fun d => d.2 ∉ skipped).map (·.1)

section Played

variable {α : Type} {skipped : List ℕ} {n : ℕ} {d : α} {durations : List α}

/-- The duration of a step that is skipped is left out. -/
lemma playedFrom_cons_of_mem (h : n ∈ skipped) :
    playedFrom skipped n (d :: durations) = playedFrom skipped (n + 1) durations := by
  simp [playedFrom, List.zipIdx_cons, h]

/-- The duration of a step that is not skipped is kept. -/
lemma playedFrom_cons_of_notMem (h : n ∉ skipped) :
    playedFrom skipped n (d :: durations) = d :: playedFrom skipped (n + 1) durations := by
  simp [playedFrom, List.zipIdx_cons, h]

/-- Where nothing is skipped, all durations are kept. -/
lemma playedFrom_nil : playedFrom [] n durations = durations := by
  simp [playedFrom]

end Played

/-- The seconds of the steps that gave keyframes. -/
def Interpretation.playedDurations {α : Type} (i : Interpretation α) : List α :=
  playedFrom i.skippedSteps 0 i.stepDurations

namespace Plan

variable {scene : Scene ℝ} {around : Surroundings ℝ} {settings : Settings ℝ}

/-- A ledger fills the time of its steps, save those that are skipped, but for what the cuts lose.
The induction is on the steps; a step that is skipped has no keyframes and no time. -/
lemma fills_ledger (htolerance : 0 ≤ settings.durationTolerance) {skipped : List ℕ} {n : ℕ}
    {steps : List (Step ℝ × ℝ)} {pose : Pose ℝ}
    (hskipped : ∀ (m : ℕ) (e : Entry ℝ), (ledger scene around settings steps pose)[m]? = some e →
      (n + m ∈ skipped ↔ e.block = [])) :
    Keyframe.Fills ((ledger scene around settings steps pose).flatMap Entry.block)
      (playedFrom skipped n (steps.map (·.2))).sum
      (settings.durationTolerance * steps.countP (·.1.move.isCut)) := by
  induction steps generalizing n pose with
  | nil => exact .nil (by simp)
  | cons timed rest ih =>
    obtain ⟨step, duration⟩ := timed
    have hslack : settings.durationTolerance * ((step, duration) :: rest).countP (·.1.move.isCut) =
        settings.slackIf step.move.isCut +
          settings.durationTolerance * rest.countP (·.1.move.isCut) := by
      rw [List.countP_cons, Settings.slackIf]
      cases step.move.isCut with
      | true => push_cast; simp only [if_true]; ring
      | false => simp
    have hhead := hskipped 0 _ rfl
    rw [Nat.add_zero] at hhead
    -- The entries of the rest are numbered from the next step on.
    have hrest := ih fun m e he => by
      rw [Nat.add_assoc, Nat.add_comm 1 m]
      exact hskipped (m + 1) e he
    rw [hslack, ledger, List.flatMap_cons, List.map_cons]
    cases hattempt : step.move.attempt ⟨scene, around, settings, duration⟩ pose with
    | ok take =>
      obtain ⟨hperform, -⟩ := Move.attempt_eq_ok_iff.mp hattempt
      rw [hattempt] at hhead hrest
      rw [playedFrom_cons_of_notMem
        (hhead.not.mpr (Move.perform_endsAtPose hperform).keyframes_ne_nil), List.sum_cons]
      exact (Move.fills_attempt htolerance hattempt).append hrest
    | error fault =>
      rw [hattempt] at hhead hrest
      rw [playedFrom_cons_of_mem (hhead.mpr rfl), ← zero_add (List.sum _)]
      exact (Keyframe.Fills.nil (settings.slackIf_nonneg htolerance _)).append hrest

variable {plan : Plan ℝ} {initial : Pose ℝ} {i : Interpretation ℝ}

/-- Step `n` of an interpretation is skipped if its entry has no keyframes. -/
lemma mem_skippedSteps_iff (h : plan.interpret scene around settings initial = .ok i) {n : ℕ}
    {e : Entry ℝ} (he : (plan.entries scene around settings initial)[n]? = some e) :
    n ∈ i.skippedSteps ↔ e.block = [] := by
  have hattempted := isAttempted_of_mem_ledger (List.mem_of_getElem? he)
  rw [Interpretation.mem_skippedSteps, interpret_eq_entries h, Entry.exists_mem_allRemarks_iff he]
  exact hattempted.exists_skipped_iff

/-- The keyframes of a step that is not skipped fill its time, up to the tolerance. -/
lemma fills_entry (htolerance : 0 ≤ settings.durationTolerance)
    (h : plan.interpret scene around settings initial = .ok i) {n : ℕ} {e : Entry ℝ}
    (he : (plan.entries scene around settings initial)[n]? = some e) (hn : n ∉ i.skippedSteps) :
    ∃ d, i.stepDurations[n]? = some d ∧
      Keyframe.Fills e.block d settings.durationTolerance := by
  obtain ⟨step, duration, -, hduration, -, houtcome⟩ := attempt_of_ledger he
  rw [mem_skippedSteps_iff h he, Entry.block] at hn
  refine ⟨duration, by rw [interpret_eq_entries h]; exact hduration, ?_⟩
  cases hattempt : e.outcome with
  | ok take =>
    rw [houtcome] at hattempt
    have hfills := Move.fills_attempt htolerance hattempt
    rw [Entry.block, houtcome, hattempt]
    exact ⟨hfills.le, hfills.ge.trans
      (add_le_add_right (settings.slackIf_le htolerance _) _)⟩
  | error fault =>
    rw [hattempt] at hn
    exact absurd rfl hn

/-- The keyframes of an interpretation fill the time of the steps that are not skipped, but for what
the cuts lose. -/
lemma fills_interpret (htolerance : 0 ≤ settings.durationTolerance)
    (h : plan.interpret scene around settings initial = .ok i) :
    Keyframe.Fills i.keyframes i.playedDurations.sum
      (settings.durationTolerance * plan.steps.countP (·.move.isCut)) := by
  have hdurations : (plan.steps.zip (plan.durations settings)).map (·.2) = i.stepDurations := by
    rw [map_snd_zip_durations, interpret_eq_entries h]
  have hcuts : (plan.steps.zip (plan.durations settings)).countP (·.1.move.isCut) =
      plan.steps.countP (·.move.isCut) := by
    conv_rhs => rw [← map_fst_zip_durations plan settings, List.countP_map]
    rfl
  have hfills := fills_ledger (n := 0) htolerance fun m e he => by
    rw [Nat.zero_add]
    exact mem_skippedSteps_iff h he
  rw [hdurations, hcuts] at hfills
  rw [keyframes_eq h]
  exact hfills

/-- **Time is conserved.**

The keyframes of a step that is not skipped take no more than its seconds, and lose no more than the
tolerance.  So all keyframes together take the time of the steps that are not skipped, up to one
tolerance for each cut.  The seconds of the steps add up to those of the plan, up to one tolerance,
and when no step is skipped the keyframes take the time of the plan, up to one tolerance for each
step and one more. -/
theorem duration_conserved (h : plan.interpret scene around settings initial = .ok i) :
    i.keyframes = (plan.entries scene around settings initial).flatMap Entry.block ∧
    (∀ n < plan.steps.length, n ∉ i.skippedSteps →
      ∃ (e : Entry ℝ) (d : ℝ),
        (plan.entries scene around settings initial)[n]? = some e ∧ i.stepDurations[n]? = some d ∧
          Keyframe.totalDuration e.block ≤ d ∧
          d - Keyframe.totalDuration e.block ≤ settings.durationTolerance) ∧
    |Keyframe.totalDuration i.keyframes - i.playedDurations.sum| ≤
      settings.durationTolerance * plan.steps.countP (·.move.isCut) ∧
    |i.stepDurations.sum - plan.duration| ≤ settings.durationTolerance ∧
    (i.skippedSteps = [] →
      |Keyframe.totalDuration i.keyframes - plan.duration| ≤
        (plan.steps.length + 1) * settings.durationTolerance) := by
  obtain ⟨-, durations, -, hschedule, -, -⟩ := interpret_ok h
  obtain ⟨hsettings, hplan, -⟩ := schedule_ok hschedule
  have htolerance := (Settings.durationTolerance_pos hsettings).le
  have htotal := (fills_interpret htolerance h).abs_sub_le
  have hsum : |i.stepDurations.sum - plan.duration| ≤ settings.durationTolerance := by
    rw [interpret_eq_entries h]
    refine Schedule.abs_sum_allocate_sub_le htolerance ?_
    exact List.map_eq_nil_iff.not.mpr (check_eq_ok_iff.mp hplan).1
  refine ⟨keyframes_eq h, ?_, htotal, hsum, ?_⟩
  · intro n hn hplayed
    have hlt : n < (plan.entries scene around settings initial).length := by
      rw [length_entries]
      exact hn
    have he := List.getElem?_eq_getElem hlt
    obtain ⟨d, hd, hfills⟩ := fills_entry htolerance h he hplayed
    exact ⟨_, d, he, hd, hfills.le, sub_le_iff_le_add'.mpr hfills.ge⟩
  · intro hnone
    have hplayed : i.playedDurations = i.stepDurations := by
      rw [Interpretation.playedDurations, hnone, playedFrom_nil]
    have hcuts : (plan.steps.countP (·.move.isCut) : ℝ) ≤ plan.steps.length :=
      Nat.cast_le.mpr List.countP_le_length
    rw [hplayed] at htotal
    calc |Keyframe.totalDuration i.keyframes - plan.duration|
        ≤ |Keyframe.totalDuration i.keyframes - i.stepDurations.sum| +
            |i.stepDurations.sum - plan.duration| := abs_sub_le _ _ _
      _ ≤ settings.durationTolerance * plan.steps.length + settings.durationTolerance :=
          add_le_add (htotal.trans (mul_le_mul_of_nonneg_left hcuts htolerance)) hsum
      _ = (plan.steps.length + 1) * settings.durationTolerance := by ring

/-- A plan that stays for a quarter of the time and cuts to a place for the rest. -/
def cutting {α : Type} [Scalar α] : Plan α where
  steps :=
    [⟨.hold {}, 1⟩, ⟨.moveTo { target := some "front_center", speed := some "instant" }, 3.0⟩]
  duration := 4.0

/-- A plan with one cut loses at most one tolerance on the way, and one in the schedule. -/
theorem duration_conserved_cutting :
    ∃ i, cutting.interpret .cube .free .standard ⟨⟨0, 0, 5⟩, ⟨0, 0, 0⟩⟩ = .ok i ∧
      |Keyframe.totalDuration i.keyframes - i.playedDurations.sum| ≤
        (Settings.standard : Settings ℝ).durationTolerance ∧
      |i.stepDurations.sum - (cutting : Plan ℝ).duration| ≤
        (Settings.standard : Settings ℝ).durationTolerance := by
  have hplan : (cutting : Plan ℝ).check = .ok () :=
    check_of_pos (List.cons_ne_nil _ _) (by simp only [cutting]; norm_num)
  obtain ⟨i, h⟩ : ∃ i, cutting.interpret .cube .free .standard ⟨⟨0, 0, 5⟩, ⟨0, 0, 0⟩⟩ = .ok i :=
    exists_interpret rfl Settings.check_standard hplan
  obtain ⟨-, -, htotal, hsum, -⟩ := duration_conserved h
  have hcuts : (cutting : Plan ℝ).steps.countP (·.move.isCut) = 1 := rfl
  rw [hcuts, Nat.cast_one, mul_one] at htotal
  exact ⟨i, h, htotal, hsum⟩

end Plan

end Cinematics
