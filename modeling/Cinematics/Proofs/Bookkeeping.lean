import Cinematics.Proofs.Refusal

/-!
# The books of an interpretation

An interpretation hands out lists that have lost their steps: keyframes one after the other, a pose
at the end, durations, and remarks here and there.  `Interpretation.IsAccountedBy` says that a
ledger, with one entry for each step of the plan, explains all of them at once.  Every
interpretation has such a ledger, namely that of its run.

What makes the books balance is one fact about a step, `Entry.IsAttempted.remarks_cases`: it either
gives no keyframes and leaves one remark that it was skipped, or gives some and leaves at most one
remark, that it asked for something in vain.
-/

namespace Cinematics

variable {α : Type}

/-! ### Requests in vain -/

/-- Whether a request asks for something that has no meaning for the camera: a turn about the line
of sight, or a distance that fits the subject. -/
def Move.AsksInVain : Move α → Prop
  | .rotate request => (Turn.ViewAxis.parse request.axis : Outcome α Turn.ViewAxis) = .ok .roll
  | .focusOn request => request.adjustFraming = some true
  | _ => False

/-- A request asks in vain for one thing or for nothing. -/
lemma Move.unrealized_cases (move : Move α) :
    (move.AsksInVain ∧ ∃ u, move.unrealized = [u]) ∨
      (¬ move.AsksInVain ∧ move.unrealized = []) := by
  cases move with
  | rotate request =>
    by_cases haxis : (Turn.ViewAxis.parse request.axis : Outcome α Turn.ViewAxis) = .ok .roll
    · refine .inl ⟨haxis, .roll, ?_⟩
      simp only [unrealized, haxis]
    · refine .inr ⟨haxis, ?_⟩
      simp only [unrealized]
  | focusOn request =>
    by_cases hframing : request.adjustFraming = some true
    · exact .inl ⟨hframing, .framing, if_pos hframing⟩
    · exact .inr ⟨hframing, if_neg hframing⟩
  | _ => exact .inr ⟨id, rfl⟩

/-! ### Remarks in the order of steps -/

/-- The remark as one about a step that comes later by some steps. -/
def Diagnostic.later (d : Diagnostic) (steps : Nat) : Diagnostic :=
  { d with step := d.step + steps }

variable {e : Entry α} {entries : List (Entry α)} {n : Nat}

section Remarks

variable [Spelled α] {d : Diagnostic}

/-- A remark about a step carries its number and its kind. -/
lemma Entry.of_mem_remarks (h : d ∈ e.remarks n) : d.step = n ∧ d.move = e.move.kind := by
  unfold remarks at h
  split at h
  · obtain ⟨u, -, rfl⟩ := List.mem_map.mp h
    exact ⟨rfl, rfl⟩
  · rw [List.mem_singleton.mp h]
    exact ⟨rfl, rfl⟩

/-- The remarks of a ledger are those of its entries, numbered in order. -/
lemma Entry.mem_allRemarks :
    d ∈ allRemarks n entries ↔
      ∃ (m : Nat) (e : Entry α), entries[m]? = some e ∧ d ∈ e.remarks (n + m) := by
  induction entries generalizing n with
  | nil => simp [allRemarks]
  | cons entry rest ih =>
    rw [allRemarks, List.mem_append, ih]
    constructor
    · rintro (hd | ⟨m, e, he, hd⟩)
      · exact ⟨0, entry, rfl, hd⟩
      · refine ⟨m + 1, e, he, ?_⟩
        rwa [show n + (m + 1) = n + 1 + m by omega]
    · rintro ⟨_ | m, e, he, hd⟩
      · obtain rfl := Option.some.inj he
        exact .inl hd
      · refine .inr ⟨m, e, he, ?_⟩
        rwa [show n + 1 + m = n + (m + 1) by omega]

/-- The remarks about one step among those of a ledger are the remarks of its entry. -/
lemma Entry.mem_allRemarks_step (he : entries[n]? = some e) :
    d ∈ allRemarks 0 entries ∧ d.step = n ↔ d ∈ e.remarks n := by
  rw [mem_allRemarks]
  constructor
  · rintro ⟨⟨m, e', he', hd⟩, hstep⟩
    obtain rfl : 0 + m = n := (of_mem_remarks hd).1.symm.trans hstep
    rw [Nat.zero_add] at he
    obtain rfl : e = e' := Option.some.inj (he.symm.trans he')
    exact hd
  · intro hd
    exact ⟨⟨n, e, he, by rwa [Nat.zero_add]⟩, (of_mem_remarks hd).1⟩

/-- There is a remark of some kind about a step if its entry has one. -/
lemma Entry.exists_mem_allRemarks_iff (he : entries[n]? = some e) (kind : DiagnosticKind) :
    (∃ d ∈ allRemarks 0 entries, d.step = n ∧ d.kind = kind) ↔
      ∃ d ∈ e.remarks n, d.kind = kind := by
  constructor
  · rintro ⟨d, hd, hstep, hkind⟩
    exact ⟨d, (mem_allRemarks_step he).mp ⟨hd, hstep⟩, hkind⟩
  · rintro ⟨d, hd, hkind⟩
    obtain ⟨hd, hstep⟩ := (mem_allRemarks_step he).mpr hd
    exact ⟨d, hd, hstep, hkind⟩

/-- The remarks about some steps and more, the later ones numbered on. -/
lemma Entry.allRemarks_append (n : Nat) (entries entries' : List (Entry α)) :
    allRemarks n (entries ++ entries') =
      allRemarks n entries ++ allRemarks (n + entries.length) entries' := by
  induction entries generalizing n with
  | nil => rfl
  | cons e rest ih =>
    rw [List.cons_append, allRemarks, allRemarks, ih, List.append_assoc, List.length_cons,
      Nat.add_right_comm, Nat.add_assoc n]

/-- Remarks that are numbered on from `n` are those numbered from zero, moved by `n`. -/
lemma Entry.allRemarks_add (n m : Nat) (entries : List (Entry α)) :
    allRemarks (m + n) entries = (allRemarks m entries).map (·.later n) := by
  induction entries generalizing m with
  | nil => rfl
  | cons e rest ih =>
    have hhead : e.remarks (m + n) = (e.remarks m).map (·.later n) := by
      unfold remarks
      cases e.outcome with
      | ok take => rw [List.map_map]; rfl
      | error fault => rfl
    rw [allRemarks, allRemarks, List.map_append, hhead, Nat.add_right_comm, ih]

end Remarks

/-! ### What an attempted step adds -/

variable [Scalar α] {scene : Scene α} {around : Surroundings α} {settings : Settings α}

/-- A sound keyframe is finite and takes no less than no time. -/
lemma Keyframe.isSound_iff {k : Keyframe α} :
    k.isSound = true ↔
      k.pose.isFinite = true ∧ Scalar.isFinite k.duration = true ∧ 0 ≤ k.duration := by
  rw [isSound, Bool.and_eq_true, Bool.and_eq_true, decide_eq_true_eq, and_assoc]

/-- A step ends in the pose of its last keyframe, and without keyframes where it started. -/
lemma Entry.IsAttempted.finish_eq (h : e.IsAttempted scene around settings) :
    e.finish = (e.block.getLast?.map (·.pose)).getD e.start := by
  rcases h.cases with ⟨_, take, hperform, -, houtcome⟩ | ⟨fault, houtcome⟩
  · have hend := Move.perform_endsAtPose hperform
    rw [Take.EndsAtPose, List.getLast?_map] at hend
    simp only [finish, block, houtcome, hend, Option.getD_some]
  · simp only [finish, block, houtcome, List.getLast?_nil, Option.map_none, Option.getD_none]

/-- All keyframes of a step are sound. -/
lemma Entry.IsAttempted.isSound_of_mem_block (h : e.IsAttempted scene around settings) :
    ∀ k ∈ e.block, k.isSound = true := by
  intro k hk
  rcases h.cases with ⟨_, take, -, hsound, houtcome⟩ | ⟨fault, houtcome⟩
  · simp only [block, houtcome] at hk
    rw [Take.isSound, Bool.and_eq_true, List.all_eq_true] at hsound
    exact hsound.2 k hk
  · simp [block, houtcome] at hk

/-- A step is skipped with one remark, or gives keyframes with at most one. -/
lemma Entry.IsAttempted.remarks_cases [Spelled α] (h : e.IsAttempted scene around settings)
    (n : Nat) :
    (e.block = [] ∧ ∃ message, e.remarks n = [⟨n, e.move.kind, .skipped, message⟩]) ∨
      (e.block ≠ [] ∧ e.move.AsksInVain ∧
        ∃ message, e.remarks n = [⟨n, e.move.kind, .unsupported, message⟩]) ∨
      (e.block ≠ [] ∧ ¬ e.move.AsksInVain ∧ e.remarks n = []) := by
  rcases h.cases with ⟨_, take, hperform, -, houtcome⟩ | ⟨fault, houtcome⟩
  · have hblock : e.block ≠ [] := by
      simp only [block, houtcome]
      exact (Move.perform_endsAtPose hperform).keyframes_ne_nil
    have hremarks : e.remarks n =
        e.move.unrealized.map fun u => ⟨n, e.move.kind, .unsupported, u.message⟩ := by
      simp only [remarks, houtcome, Move.perform_unsupported hperform]
    rcases e.move.unrealized_cases with ⟨hvain, u, hu⟩ | ⟨hvain, hnone⟩
    · exact .inr (.inl ⟨hblock, hvain, u.message, by rw [hremarks, hu]; rfl⟩)
    · exact .inr (.inr ⟨hblock, hvain, by rw [hremarks, hnone]; rfl⟩)
  · refine .inl ⟨?_, fault.message, ?_⟩
    · simp only [block, houtcome]
    · simp only [remarks, houtcome]

/-- The steps that are remarked as skipped are those without keyframes. -/
lemma Entry.IsAttempted.exists_skipped_iff [Spelled α] (h : e.IsAttempted scene around settings) :
    (∃ d ∈ e.remarks n, d.kind = .skipped) ↔ e.block = [] := by
  rcases h.remarks_cases n with
    ⟨hblock, _, hone⟩ | ⟨hblock, -, _, hone⟩ | ⟨hblock, -, hnone⟩
  · simp [hone, hblock]
  · simp [hone, hblock]
  · simp [hnone, hblock]

/-- The steps that are remarked as unsupported are those with keyframes that ask in vain. -/
lemma Entry.IsAttempted.exists_unsupported_iff [Spelled α]
    (h : e.IsAttempted scene around settings) :
    (∃ d ∈ e.remarks n, d.kind = .unsupported) ↔ e.block ≠ [] ∧ e.move.AsksInVain := by
  rcases h.remarks_cases n with
    ⟨hblock, _, hone⟩ | ⟨hblock, hvain, _, hone⟩ | ⟨hblock, hvain, hnone⟩
  · simp [hone, hblock]
  · simp [hone, hblock, hvain]
  · simp [hnone, hvain]

/-- The remarks of a ledger come in the order of the steps, at most one for each.  The induction is
on the entries; what comes later has a larger number. -/
lemma Entry.pairwise_allRemarks [Spelled α]
    (h : ∀ e ∈ entries, e.IsAttempted scene around settings) (n : Nat) :
    (allRemarks n entries).Pairwise (·.step < ·.step) := by
  induction entries generalizing n with
  | nil => exact .nil
  | cons entry rest ih =>
    rw [allRemarks, List.pairwise_append]
    refine ⟨?_, ih (fun e he => h e (List.mem_cons_of_mem _ he)) (n + 1), ?_⟩
    · rcases (h entry List.mem_cons_self).remarks_cases n with
        ⟨-, _, hone⟩ | ⟨-, -, _, hone⟩ | ⟨-, -, hnone⟩
      · rw [hone]
        exact List.pairwise_singleton _ _
      · rw [hone]
        exact List.pairwise_singleton _ _
      · rw [hnone]
        exact .nil
    · intro d hd d' hd'
      obtain ⟨m, e', -, hd'⟩ := mem_allRemarks.mp hd'
      rw [(of_mem_remarks hd).1, (of_mem_remarks hd').1]
      omega

/-! ### Ledgers of timed steps -/

/-- Every ratio has a share of the time. -/
lemma Schedule.length_allocate (tolerance requested : α) (ratios : List α) :
    (Schedule.allocate tolerance requested ratios).length = ratios.length := by
  simp only [Schedule.allocate]
  split
  · simp
  · split
    · simp [Schedule.weights]
    · simp

namespace Plan

/-- A ledger ends in the pose of its last keyframe, and without keyframes where it started.  The
induction is on the steps. -/
lemma poseAfter_ledger (steps : List (Step α × α)) (pose : Pose α) :
    poseAfter pose (ledger scene around settings steps pose) =
      (((ledger scene around settings steps pose).flatMap Entry.block).getLast?.map
        (·.pose)).getD pose := by
  induction steps generalizing pose with
  | nil => rfl
  | cons timed rest ih =>
    obtain ⟨step, duration⟩ := timed
    have hattempted : Entry.IsAttempted scene around settings
        ⟨step.move, pose, step.move.attempt ⟨scene, around, settings, duration⟩ pose⟩ :=
      ⟨duration, rfl⟩
    rw [ledger, poseAfter, List.foldl_cons, ← poseAfter, ih, hattempted.finish_eq,
      List.flatMap_cons, List.getLast?_append]
    cases (((ledger scene around settings rest _).flatMap Entry.block).getLast?) with
    | none => rfl
    | some k => rfl

/-- An entry starts where the entry before it ended. -/
lemma start_of_ledger {steps : List (Step α × α)} {pose : Pose α} {e' : Entry α}
    (he : (ledger scene around settings steps pose)[n]? = some e)
    (he' : (ledger scene around settings steps pose)[n + 1]? = some e') : e'.start = e.finish := by
  obtain ⟨_, _, -, -, -, hstart⟩ := getElem?_ledger he'
  rw [hstart, List.take_add_one, he, poseAfter, List.foldl_append]
  rfl

/-- The first entry starts where the ledger does. -/
lemma start_of_ledger_zero {steps : List (Step α × α)} {pose : Pose α}
    (he : (ledger scene around settings steps pose)[0]? = some e) : e.start = pose := by
  obtain ⟨_, _, -, -, -, hstart⟩ := getElem?_ledger he
  exact hstart

/-- An entry of timed steps is the attempt of a step in its time. -/
lemma attempt_of_ledger {steps : List (Step α)} {durations : List α} {pose : Pose α}
    (he : (ledger scene around settings (steps.zip durations) pose)[n]? = some e) :
    ∃ (step : Step α) (duration : α),
      steps[n]? = some step ∧ durations[n]? = some duration ∧ e.move = step.move ∧
        e.outcome = step.move.attempt ⟨scene, around, settings, duration⟩ e.start := by
  obtain ⟨step, duration, htimed, hmove, houtcome, -⟩ := getElem?_ledger he
  obtain ⟨hstep, hduration⟩ := List.getElem?_zip_eq_some.mp htimed
  exact ⟨step, duration, hstep, hduration, hmove, houtcome⟩

/-- All keyframes of a ledger are sound. -/
lemma isSound_of_mem_ledger {steps : List (Step α × α)} {pose : Pose α} :
    ∀ k ∈ (ledger scene around settings steps pose).flatMap Entry.block, k.isSound = true := by
  intro k hk
  obtain ⟨e, he, hk⟩ := List.mem_flatMap.mp hk
  exact (isAttempted_of_mem_ledger he).isSound_of_mem_block k hk

/-- The durations of a schedule are one for each step. -/
lemma length_of_schedule {plan : Plan α} {durations : List α}
    (h : plan.schedule settings = .ok durations) : durations.length = plan.steps.length := by
  obtain ⟨-, -, hdurations⟩ := schedule_ok h
  rw [hdurations, Schedule.length_allocate, List.length_map]

/-- Every step of a plan has its seconds. -/
lemma length_durations (plan : Plan α) (settings : Settings α) :
    (plan.durations settings).length = plan.steps.length := by
  rw [durations, Schedule.length_allocate, List.length_map]

/-- The timed steps of a plan are its steps. -/
lemma map_fst_zip_durations (plan : Plan α) (settings : Settings α) :
    (plan.steps.zip (plan.durations settings)).map (·.1) = plan.steps :=
  List.map_fst_zip (length_durations plan settings).ge

/-- The times of the timed steps of a plan are its durations. -/
lemma map_snd_zip_durations (plan : Plan α) (settings : Settings α) :
    (plan.steps.zip (plan.durations settings)).map (·.2) = plan.durations settings :=
  List.map_snd_zip (length_durations plan settings).le

/-- Every step of a plan has an entry. -/
lemma length_entries (plan : Plan α) (initial : Pose α) :
    (plan.entries scene around settings initial).length = plan.steps.length := by
  rw [entries, length_ledger, List.length_zip, length_durations, Nat.min_self]

end Plan

/-! ### The books -/

variable [Spelled α]

/-- Whether a ledger, with one entry for each step of a plan, accounts for all that an
interpretation hands out. -/
structure Interpretation.IsAccountedBy (i : Interpretation α) (plan : Plan α) (scene : Scene α)
    (around : Surroundings α) (settings : Settings α) (initial : Pose α)
    (entries : List (Entry α)) : Prop where
  /-- Each step has a duration. -/
  length_stepDurations : i.stepDurations.length = plan.steps.length
  /-- Each step has an entry. -/
  length_entries : entries.length = plan.steps.length
  /-- An entry is the attempt of its step, in the time of the step. -/
  attempted : ∀ (n : Nat) (e : Entry α), entries[n]? = some e →
    ∃ (step : Step α) (duration : α),
      plan.steps[n]? = some step ∧ i.stepDurations[n]? = some duration ∧ e.move = step.move ∧
        e.outcome = step.move.attempt ⟨scene, around, settings, duration⟩ e.start
  /-- The first step starts from the initial pose. -/
  start_first : ∀ e : Entry α, entries[0]? = some e → e.start = initial
  /-- The next step starts from the last keyframe of a step, or where a skipped step started. -/
  start_next : ∀ (n : Nat) (e e' : Entry α), entries[n]? = some e → entries[n + 1]? = some e' →
    e'.start = (e.block.getLast?.map (·.pose)).getD e.start
  /-- The keyframes are those of the steps in order. -/
  keyframes_eq : i.keyframes = entries.flatMap Entry.block
  /-- The final pose is that of the last keyframe, if there is one. -/
  finalPose_eq : i.finalPose = (i.keyframes.getLast?.map (·.pose)).getD initial
  /-- The remarks are in the order of the steps, and no step has two of them. -/
  diagnostics_increasing : i.diagnostics.Pairwise (·.step < ·.step)
  /-- A remark is about a step and carries the kind of its move. -/
  diagnostics_move : ∀ d ∈ i.diagnostics, ∃ step : Step α,
    plan.steps[d.step]? = some step ∧ d.move = step.move.kind
  /-- The numbers of the skipped steps increase. -/
  skippedSteps_increasing : i.skippedSteps.Pairwise (· < ·)
  /-- The steps that are remarked as skipped are those without keyframes. -/
  skipped_iff : ∀ (n : Nat) (e : Entry α), entries[n]? = some e →
    ((∃ d ∈ i.diagnostics, d.step = n ∧ d.kind = .skipped) ↔ e.block = [])
  /-- The steps with another remark are those with keyframes that ask for something in vain. -/
  unsupported_iff : ∀ (n : Nat) (e : Entry α), entries[n]? = some e →
    ((∃ d ∈ i.diagnostics, d.step = n ∧ d.kind = .unsupported) ↔
      e.block ≠ [] ∧ e.move.AsksInVain)
  /-- All keyframes are finite and take no less than no time. -/
  keyframes_sound : ∀ k ∈ i.keyframes,
    k.pose.isFinite = true ∧ Scalar.isFinite k.duration = true ∧ 0 ≤ k.duration
  /-- The final pose is finite. -/
  finalPose_finite : i.finalPose.isFinite = true

/-- **The books balance.**  Every interpretation is accounted for by a ledger of the steps of its
plan. -/
theorem Plan.exists_isAccountedBy {plan : Plan α} {initial : Pose α} {i : Interpretation α}
    (h : plan.interpret scene around settings initial = .ok i) :
    ∃ entries, i.IsAccountedBy plan scene around settings initial entries := by
  obtain ⟨hinitial, durations, entries, hschedule, hentries, rfl⟩ := interpret_ok h
  have hlength := length_of_schedule hschedule
  have hattempted : ∀ e ∈ entries, e.IsAttempted scene around settings := by
    rw [hentries]
    exact fun e he => isAttempted_of_mem_ledger he
  have hsteps : ∀ (n : Nat) (e : Entry α), entries[n]? = some e →
      ∃ (step : Step α) (duration : α),
        plan.steps[n]? = some step ∧ durations[n]? = some duration ∧ e.move = step.move ∧
          e.outcome = step.move.attempt ⟨scene, around, settings, duration⟩ e.start := by
    rw [hentries]
    exact fun n e he => attempt_of_ledger he
  have hsound : ∀ k ∈ entries.flatMap Entry.block, k.isSound = true := by
    rw [hentries]
    exact isSound_of_mem_ledger
  have hfinal : poseAfter initial entries =
      ((entries.flatMap Entry.block).getLast?.map (·.pose)).getD initial := by
    rw [hentries]
    exact poseAfter_ledger _ _
  have hincreasing : (Entry.allRemarks 0 entries).Pairwise (·.step < ·.step) :=
    Entry.pairwise_allRemarks hattempted 0
  refine ⟨entries, ?_⟩
  constructor
  case length_stepDurations => exact hlength
  case length_entries => rw [hentries, length_ledger, List.length_zip, hlength, Nat.min_self]
  case attempted => exact hsteps
  case start_first =>
    intro e he
    rw [hentries] at he
    exact start_of_ledger_zero he
  case start_next =>
    intro n e e' he he'
    rw [← (hattempted e (List.mem_of_getElem? he)).finish_eq]
    rw [hentries] at he he'
    exact start_of_ledger he he'
  case keyframes_eq => rfl
  case finalPose_eq => exact hfinal
  case diagnostics_increasing => exact hincreasing
  case diagnostics_move =>
    intro d hd
    obtain ⟨n, e, he, hd⟩ := Entry.mem_allRemarks.mp hd
    obtain ⟨hstep, hmove⟩ := Entry.of_mem_remarks hd
    obtain ⟨step, _, hplan, -, hkind, -⟩ := hsteps n e he
    rw [hstep, hmove, hkind, Nat.zero_add]
    exact ⟨step, hplan, rfl⟩
  case skippedSteps_increasing => exact List.pairwise_map.mpr (hincreasing.filter _)
  case skipped_iff =>
    intro n e he
    rw [Entry.exists_mem_allRemarks_iff he]
    exact (hattempted e (List.mem_of_getElem? he)).exists_skipped_iff
  case unsupported_iff =>
    intro n e he
    rw [Entry.exists_mem_allRemarks_iff he]
    exact (hattempted e (List.mem_of_getElem? he)).exists_unsupported_iff
  case keyframes_sound => exact fun k hk => Keyframe.isSound_iff.mp (hsound k hk)
  case finalPose_finite =>
    rw [hfinal]
    cases hlast : (entries.flatMap Entry.block).getLast? with
    | none => exact hinitial
    | some k => exact (Keyframe.isSound_iff.mp (hsound k (List.mem_of_getLast? hlast))).1

/-- A plan with a step that is carried out, one that lacks an angle and one that asks in vain. -/
def Plan.mixed : Plan α where
  steps :=
    [⟨.zoom { factor := some 2.0 }, 1⟩, ⟨.orbit {}, 1⟩, ⟨.rotate { axis := some "roll" }, 1⟩]
  duration := 6.0

/-- The books of a mixed plan balance. -/
theorem Plan.exists_isAccountedBy_mixed :
    ∃ (i : Interpretation ℝ) (entries : List (Entry ℝ)),
      mixed.interpret .empty .free .standard ⟨⟨0, 0, 5⟩, ⟨0, 0, 0⟩⟩ = .ok i ∧
        i.IsAccountedBy mixed .empty .free .standard ⟨⟨0, 0, 5⟩, ⟨0, 0, 0⟩⟩ entries := by
  have hplan : (mixed : Plan ℝ).check = .ok () := by
    rw [check_eq_ok_iff]
    refine ⟨List.cons_ne_nil _ _, rfl, ?_⟩
    simp only [mixed]
    norm_num
  obtain ⟨i, h⟩ : ∃ i : Interpretation ℝ,
      mixed.interpret .empty .free .standard ⟨⟨0, 0, 5⟩, ⟨0, 0, 0⟩⟩ = .ok i :=
    exists_interpret rfl Settings.check_standard hplan
  obtain ⟨entries, hentries⟩ := exists_isAccountedBy h
  exact ⟨i, entries, h, hentries⟩

end Cinematics
