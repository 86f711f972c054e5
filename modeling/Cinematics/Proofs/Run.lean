import Cinematics.Interpretation
import Cinematics.Proofs.Fault
import Cinematics.Proofs.Take

/-!
# Runs and their ledgers

A run folds the steps of a plan into three things at once: the pose reached, the keyframes and the
remarks.  The ledger of a run keeps the steps apart instead.  It has an `Entry` for each of them,
with the pose that the step started from and what came of it, and the three results of the run are
read off the entries (`Plan.run_eq_ledger`).  In particular every run comes to an end: no step is at
fault in a way that could not be skipped.

What every step preserves then holds of the whole run: `Plan.interpret_poses` is the induction over
the ledger that later statements about whole interpretations rest on.
-/

namespace Cinematics

variable {α : Type} [Scalar α]

/-! ### One step -/

/-- An attempt succeeds with the takes that are performed and sound. -/
lemma Move.attempt_eq_ok_iff {move : Move α} {stage : Stage α} {pose : Pose α} {take : Take α} :
    move.attempt stage pose = .ok take ↔
      move.perform stage pose = .ok take ∧ take.isSound = true := by
  simp only [Move.attempt]
  rw [bind_eq_ok_iff]
  constructor
  · rintro ⟨performed, hperform, h⟩
    split at h
    · rename_i hsound
      obtain rfl := Except.ok.inj h
      exact ⟨hperform, hsound⟩
    · cases h
  · rintro ⟨hperform, hsound⟩
    exact ⟨take, hperform, if_pos hsound⟩

/-- One step of a run: its move, the pose that it starts from, and what comes of it. -/
structure Entry (α : Type) where
  /-- The move. -/
  move : Move α
  /-- The pose that the step starts from. -/
  start : Pose α
  /-- What comes of the move. -/
  outcome : Outcome α (Take α)

namespace Entry

/-- The keyframes of a step, none when it is skipped. -/
def block (e : Entry α) : List (Keyframe α) :=
  match e.outcome with
  | .ok take => take.keyframes
  | .error _ => []

/-- The pose after a step, the one before it when it is skipped. -/
def finish (e : Entry α) : Pose α :=
  match e.outcome with
  | .ok take => take.pose
  | .error _ => e.start

/-- The remarks about a step with a given number. -/
def remarks [Spelled α] (e : Entry α) (n : Nat) : List Diagnostic :=
  match e.outcome with
  | .ok take => take.unsupported.map fun u => ⟨n, e.move.kind, .unsupported, u.message⟩
  | .error fault => [⟨n, e.move.kind, .skipped, fault.message⟩]

/-- Whether a step was attempted from its start, for some time. -/
def IsAttempted (scene : Scene α) (around : Surroundings α) (settings : Settings α)
    (e : Entry α) : Prop :=
  ∃ duration, e.outcome = e.move.attempt ⟨scene, around, settings, duration⟩ e.start

end Entry

/-- An attempted step either gave a take of its move, from its start, or was at fault. -/
lemma Entry.IsAttempted.cases {scene : Scene α} {around : Surroundings α} {settings : Settings α}
    {e : Entry α} (h : e.IsAttempted scene around settings) :
    (∃ duration take,
      e.move.perform ⟨scene, around, settings, duration⟩ e.start = .ok take ∧
        take.isSound = true ∧ e.outcome = .ok take) ∨
      ∃ fault, e.outcome = .error fault := by
  obtain ⟨duration, houtcome⟩ := h
  cases hattempt : e.move.attempt ⟨scene, around, settings, duration⟩ e.start with
  | ok take =>
    obtain ⟨hperform, hsound⟩ := Move.attempt_eq_ok_iff.mp hattempt
    exact .inl ⟨duration, take, hperform, hsound, houtcome.trans hattempt⟩
  | error fault => exact .inr ⟨fault, houtcome.trans hattempt⟩

/-- The remarks about steps that are numbered from `n`. -/
def Entry.allRemarks [Spelled α] : (n : Nat) → List (Entry α) → List Diagnostic
  | _, [] => []
  | n, e :: es => e.remarks n ++ allRemarks (n + 1) es

/-- One step adds what its entry has.  The arm that would end the run is not taken, since every
fault of a step can be skipped. -/
lemma Progress.advance_eq [Spelled α] (p : Progress α) (stage : Stage α) (n : Nat) (move : Move α) :
    let entry : Entry α := ⟨move, p.pose, move.attempt stage p.pose⟩
    p.advance stage n move =
      .ok ⟨entry.finish, p.keyframes ++ entry.block, p.diagnostics ++ entry.remarks n⟩ := by
  intro entry
  unfold advance
  cases hattempt : move.attempt stage p.pose with
  | ok take => simp [record, entry, hattempt, Entry.finish, Entry.block, Entry.remarks]
  | error fault =>
    simp [record, entry, hattempt, Move.isRecoverable_of_attempt hattempt, Entry.finish,
      Entry.block, Entry.remarks]

namespace Plan

variable {scene : Scene α} {around : Surroundings α} {settings : Settings α}

/-- The entries of timed steps that are carried out in order from a pose. -/
def ledger (scene : Scene α) (around : Surroundings α) (settings : Settings α) :
    List (Step α × α) → Pose α → List (Entry α)
  | [], _ => []
  | (step, duration) :: rest, pose =>
    let entry : Entry α :=
      ⟨step.move, pose, step.move.attempt ⟨scene, around, settings, duration⟩ pose⟩
    entry :: ledger scene around settings rest entry.finish

/-- The pose after some entries. -/
def poseAfter (pose : Pose α) (entries : List (Entry α)) : Pose α :=
  entries.foldl (fun _ e => e.finish) pose

/-! ### The ledger of a run -/

/-- There is one entry for each step. -/
lemma length_ledger (steps : List (Step α × α)) (pose : Pose α) :
    (ledger scene around settings steps pose).length = steps.length := by
  induction steps generalizing pose with
  | nil => rfl
  | cons timed rest ih => simp [ledger, ih]

/-- Entry `n` is the attempt of step `n`, from where the entries before it lead. -/
lemma getElem?_ledger {steps : List (Step α × α)} {pose : Pose α} {n : Nat} {e : Entry α}
    (h : (ledger scene around settings steps pose)[n]? = some e) :
    ∃ step duration, steps[n]? = some (step, duration) ∧ e.move = step.move ∧
      e.outcome = step.move.attempt ⟨scene, around, settings, duration⟩ e.start ∧
      e.start = poseAfter pose ((ledger scene around settings steps pose).take n) := by
  induction steps generalizing pose n with
  | nil => simp [ledger] at h
  | cons timed rest ih =>
    obtain ⟨step, duration⟩ := timed
    cases n with
    | zero =>
      rw [ledger, List.getElem?_cons_zero] at h
      obtain rfl := Option.some.inj h
      exact ⟨step, duration, rfl, rfl, rfl, rfl⟩
    | succ n =>
      rw [ledger, List.getElem?_cons_succ] at h
      obtain ⟨step', duration', hstep, hmove, houtcome, hstart⟩ := ih h
      exact ⟨step', duration', hstep, hmove, houtcome, hstart⟩

/-- Every entry is an attempt. -/
lemma isAttempted_of_mem_ledger {steps : List (Step α × α)} {pose : Pose α} {e : Entry α}
    (h : e ∈ ledger scene around settings steps pose) : e.IsAttempted scene around settings := by
  obtain ⟨n, hn⟩ := List.mem_iff_getElem?.mp h
  obtain ⟨_, duration, -, hmove, houtcome, -⟩ := getElem?_ledger hn
  exact ⟨duration, hmove ▸ houtcome⟩

/-- What every performed move of a kind preserves holds of all poses in a ledger of moves of this
kind, where the kind may depend on the pose that a move starts from.  The induction is on the steps;
a step at fault leaves the pose as it was. -/
lemma ledger_poses_of {J : Pose α → Prop} {Q : Move α → Pose α → Prop}
    (hstep : ∀ (move : Move α) duration pose take, J pose → Q move pose →
      move.perform ⟨scene, around, settings, duration⟩ pose = .ok take →
        ∀ k ∈ take.keyframes, J k.pose)
    (steps : List (Step α × α)) {pose : Pose α}
    (hkind : ∀ e ∈ ledger scene around settings steps pose, Q e.move e.start) (hpose : J pose) :
    (∀ k ∈ (ledger scene around settings steps pose).flatMap Entry.block, J k.pose) ∧
      J (poseAfter pose (ledger scene around settings steps pose)) := by
  induction steps generalizing pose with
  | nil => simp [ledger, poseAfter, hpose]
  | cons timed rest ih =>
    obtain ⟨step, duration⟩ := timed
    rw [ledger, List.forall_mem_cons] at hkind
    obtain ⟨hfirst, hrest⟩ := hkind
    rw [ledger, poseAfter, List.foldl_cons, List.flatMap_cons]
    cases hattempt : step.move.attempt ⟨scene, around, settings, duration⟩ pose with
    | ok take =>
      obtain ⟨hperform, -⟩ := Move.attempt_eq_ok_iff.mp hattempt
      have hall := hstep _ _ _ _ hpose hfirst hperform
      have hend : J take.pose := (Move.perform_endsAtPose hperform).of_forall hall
      rw [hattempt] at hrest
      obtain ⟨hlater, hfinal⟩ := ih hrest hend
      refine ⟨fun k hk => ?_, hfinal⟩
      rcases List.mem_append.mp hk with hk | hk
      · exact hall k hk
      · exact hlater k hk
    | error fault =>
      rw [hattempt] at hrest
      exact ih hrest hpose

/-- A ledger of some steps and more is the ledger of the first and that of the rest, from where the
first ones end. -/
lemma ledger_append (steps steps' : List (Step α × α)) (pose : Pose α) :
    ledger scene around settings (steps ++ steps') pose =
      ledger scene around settings steps pose ++
        ledger scene around settings steps'
          (poseAfter pose (ledger scene around settings steps pose)) := by
  induction steps generalizing pose with
  | nil => rfl
  | cons timed rest ih =>
    obtain ⟨step, duration⟩ := timed
    rw [List.cons_append, ledger, ledger, ih]
    rfl

/-- A ledger that starts from a finite pose ends in one. -/
lemma isFinite_poseAfter (steps : List (Step α × α)) {pose : Pose α}
    (hpose : pose.isFinite = true) :
    (poseAfter pose (ledger scene around settings steps pose)).isFinite = true := by
  induction steps generalizing pose with
  | nil => exact hpose
  | cons timed rest ih =>
    obtain ⟨step, duration⟩ := timed
    refine ih ?_
    cases hattempt : step.move.attempt ⟨scene, around, settings, duration⟩ pose with
    | ok take =>
      obtain ⟨-, hsound⟩ := Move.attempt_eq_ok_iff.mp hattempt
      rw [Take.isSound, Bool.and_eq_true] at hsound
      exact hsound.1
    | error fault => exact hpose

/-- A schedule is made of settings in their range and a plan that can be carried out. -/
lemma schedule_ok {plan : Plan α} {durations : List α}
    (h : plan.schedule settings = .ok durations) :
    settings.check = .ok () ∧ plan.check = .ok () ∧
      durations = Schedule.allocate settings.durationTolerance plan.duration
        (plan.steps.map (·.ratio)) := by
  simp only [schedule] at h
  obtain ⟨⟨⟩, hsettings, h⟩ := bind_eq_ok_iff.mp h
  obtain ⟨⟨⟩, hplan, h⟩ := bind_eq_ok_iff.mp h
  exact ⟨hsettings, hplan, (Except.ok.inj h).symm⟩

/-- The seconds of each step of a plan that passes its check. -/
def durations (plan : Plan α) (settings : Settings α) : List α :=
  Schedule.allocate settings.durationTolerance plan.duration (plan.steps.map (·.ratio))

/-- The entries of the steps of a plan, each in its time. -/
def entries (plan : Plan α) (scene : Scene α) (around : Surroundings α) (settings : Settings α)
    (initial : Pose α) : List (Entry α) :=
  ledger scene around settings (plan.steps.zip (plan.durations settings)) initial

variable [Spelled α]

/-- **A run is what its ledger says.**  The induction is on the steps, with the progress before them
left general. -/
theorem run_eq_ledger (n : Nat) (steps : List (Step α × α)) (p : Progress α) :
    run scene around settings n steps p =
      .ok
        { pose := poseAfter p.pose (ledger scene around settings steps p.pose)
          keyframes :=
            p.keyframes ++ (ledger scene around settings steps p.pose).flatMap Entry.block
          diagnostics :=
            p.diagnostics ++ Entry.allRemarks n (ledger scene around settings steps p.pose) } := by
  induction steps generalizing n p with
  | nil => simp [run, ledger, poseAfter, Entry.allRemarks]
  | cons timed rest ih =>
    obtain ⟨step, duration⟩ := timed
    rw [run, Progress.advance_eq]
    simp only [bind, Except.bind, ih]
    simp [ledger, poseAfter, Entry.allRemarks]

/-- An interpretation needs a finite pose and a schedule, and is read off the ledger of the timed
steps. -/
lemma interpret_eq (plan : Plan α) (initial : Pose α) :
    plan.interpret scene around settings initial =
      if initial.isFinite then
        (plan.schedule settings).map fun durations =>
          let entries := ledger scene around settings (plan.steps.zip durations) initial
          ⟨entries.flatMap Entry.block, poseAfter initial entries, durations,
            Entry.allRemarks 0 entries⟩
      else .error .poseNotFinite := by
  simp only [interpret, run_eq_ledger]
  split
  · cases plan.schedule settings with
    | ok durations => rfl
    | error fault => rfl
  · rfl

variable {plan : Plan α} {initial : Pose α} {i : Interpretation α}

/-- An interpretation starts from a finite pose and is read off the ledger of the timed steps. -/
lemma interpret_ok (h : plan.interpret scene around settings initial = .ok i) :
    initial.isFinite = true ∧ ∃ durations entries,
      plan.schedule settings = .ok durations ∧
      entries = ledger scene around settings (plan.steps.zip durations) initial ∧
      i = ⟨entries.flatMap Entry.block, poseAfter initial entries, durations,
        Entry.allRemarks 0 entries⟩ := by
  rw [interpret_eq] at h
  split at h
  · rename_i hfinite
    cases hschedule : plan.schedule settings with
    | ok durations =>
      rw [hschedule] at h
      exact ⟨hfinite, durations, _, rfl, rfl, (Except.ok.inj h).symm⟩
    | error fault =>
      rw [hschedule] at h
      cases h
  · cases h

/-- An interpretation is read off the entries of its plan. -/
lemma interpret_eq_entries (h : plan.interpret scene around settings initial = .ok i) :
    i = ⟨(plan.entries scene around settings initial).flatMap Entry.block,
      poseAfter initial (plan.entries scene around settings initial), plan.durations settings,
      Entry.allRemarks 0 (plan.entries scene around settings initial)⟩ := by
  obtain ⟨-, durations, entries, hschedule, rfl, rfl⟩ := interpret_ok h
  obtain ⟨-, -, rfl⟩ := schedule_ok hschedule
  rfl

/-- The keyframes of an interpretation are those of its steps, in order. -/
lemma keyframes_eq (h : plan.interpret scene around settings initial = .ok i) :
    i.keyframes = (plan.entries scene around settings initial).flatMap Entry.block :=
  congrArg Interpretation.keyframes (interpret_eq_entries h)

/-- What every performed move of a kind preserves holds of all keyframes of an interpretation, and
of its final pose, if it holds of the initial one and all its moves are of this kind where they
start. -/
lemma interpret_poses_of {J : Pose α → Prop} {Q : Move α → Pose α → Prop}
    (hstep : ∀ (move : Move α) duration pose take, J pose → Q move pose →
      move.perform ⟨scene, around, settings, duration⟩ pose = .ok take →
        ∀ k ∈ take.keyframes, J k.pose)
    (h : plan.interpret scene around settings initial = .ok i)
    (hkind : ∀ e ∈ plan.entries scene around settings initial, Q e.move e.start)
    (hinitial : J initial) :
    (∀ k ∈ i.keyframes, J k.pose) ∧ J i.finalPose := by
  rw [interpret_eq_entries h]
  exact ledger_poses_of hstep _ hkind hinitial

/-- **What every move preserves holds throughout.**  A property of poses that performed moves
preserve holds of all keyframes of an interpretation, and of its final pose, if it holds of the
initial one. -/
theorem interpret_poses {J : Pose α → Prop}
    (hstep : ∀ (move : Move α) duration pose take, J pose →
      move.perform ⟨scene, around, settings, duration⟩ pose = .ok take →
        ∀ k ∈ take.keyframes, J k.pose)
    (h : plan.interpret scene around settings initial = .ok i) (hinitial : J initial) :
    (∀ k ∈ i.keyframes, J k.pose) ∧ J i.finalPose :=
  interpret_poses_of (Q := fun _ _ => True)
    (fun move duration pose take hpose _ => hstep move duration pose take hpose) h
    (fun _ _ => trivial) hinitial

end Plan

end Cinematics
