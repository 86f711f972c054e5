import Cinematics.Proofs.Allocation
import Cinematics.Proofs.Admissibility
import Cinematics.Proofs.Bookkeeping
import Cinematics.Proofs.Sketch

/-!
# What does not depend on time

The seconds of a step are shared out of those of the whole plan, and every move is handed its share.
Still no pose, no remark and no decision to skip depends on them.  A move at another time comes to
the take of the same sketch (`Move.perform_at_time`), a take is refused for its poses alone as long
as its seconds are those of a clock, and so the ledgers of two runs of the same moves are alike
entry by entry (`Plan.ledger_alike`).

Plans can therefore be chained.  The second of two plans, carried out from where the first one ended
and in its own time, does what it would do as the second part of one plan.

Doubles and reals keep different laws, and of the arithmetic of durations only three are needed.
`KeepsTime` names them; the reals keep them, whatever the poses are made of.
-/

namespace Cinematics

variable {α : Type}

/-! ### Steps that are alike -/

/-- The poses of a step.  A cut has only one, which may come twice, on the way and at rest. -/
def Entry.path (e : Entry α) : List (Pose α) :=
  if e.move.isCut then (e.block.map (·.pose)).take 1 else e.block.map (·.pose)

/-- Two steps are alike if they differ in their seconds only. -/
structure Entry.Alike [Spelled α] (e e' : Entry α) : Prop where
  /-- They have the same poses. -/
  path_eq : e.path = e'.path
  /-- They end in the same pose. -/
  finish_eq : e.finish = e'.finish
  /-- They leave the same remarks. -/
  remarks_eq : ∀ n, e.remarks n = e'.remarks n

/-- Ledgers that are alike entry by entry have the same poses, the same remarks and the same end. -/
lemma Entry.ledgers_of_alike [Spelled α] {entries entries' : List (Entry α)}
    (h : List.Forall₂ Alike entries entries') :
    entries.map path = entries'.map path ∧
      (∀ n, allRemarks n entries = allRemarks n entries') ∧
        ∀ pose, Plan.poseAfter pose entries = Plan.poseAfter pose entries' := by
  induction h with
  | nil => exact ⟨rfl, fun _ => rfl, fun _ => rfl⟩
  | cons halike _ ih =>
    obtain ⟨hpaths, hremarks, hend⟩ := ih
    refine ⟨?_, fun n => ?_, fun pose => ?_⟩
    · rw [List.map_cons, List.map_cons, halike.path_eq, hpaths]
    · rw [allRemarks, allRemarks, halike.remarks_eq, hremarks]
    · rw [Plan.poseAfter, List.foldl_cons, ← Plan.poseAfter, halike.finish_eq, hend]
      rfl

/-! ### The poses of a sketch -/

namespace Sketch

/-- The poses of a sketch. -/
def path : Sketch α → List (Pose α)
  | .single pose _ _ => [pose]
  | .arc center first rest _ => (first :: rest).map (⟨·, center⟩)
  | .cut pose => [pose]

/-- The last pose of a sketch. -/
def pose : Sketch α → Pose α
  | .single pose _ _ => pose
  | .arc center first rest _ => ⟨(first :: rest).getLastD first, center⟩
  | .cut pose => pose

/-- What a sketch notes as unsupported. -/
def unsupported : Sketch α → List Unsupported
  | .single _ _ unsupported => unsupported
  | .arc _ _ _ _ => []
  | .cut _ => []

/-- The last pose of a sketch is one of its poses. -/
lemma pose_mem_path (s : Sketch α) : s.pose ∈ s.path := by
  cases s with
  | single pose easing unsupported => exact List.mem_singleton_self _
  | arc center first rest easing =>
    refine List.mem_map.mpr ⟨(first :: rest).getLastD first, ?_, rfl⟩
    rw [List.getLastD_cons]
    exact List.getLastD_mem_cons
  | cut pose => exact List.mem_singleton_self _

end Sketch

variable [Scalar α]

/-! ### Seconds -/

/-- A number of seconds: finite and not negative. -/
structure Scalar.IsTime (d : α) : Prop where
  /-- It is finite. -/
  isFinite : Scalar.isFinite d = true
  /-- It is not negative. -/
  nonneg : 0 ≤ d

/-- Scalars whose seconds stay seconds when they are shared out, cut into equal parts, and shortened
by less than all. -/
class KeepsTime (α : Type) [Scalar α] : Prop where
  /-- Shares of a positive request are seconds. -/
  isTime_allocate : ∀ {tolerance requested : α} {ratios : List α}, 0 < tolerance →
    Scalar.isFinite tolerance = true → 0 < requested → Scalar.isFinite requested = true →
      ∀ d ∈ Schedule.allocate tolerance requested ratios, Scalar.IsTime d
  /-- Equal parts of seconds are seconds. -/
  isTime_div : ∀ {d : α} {n : Nat}, Scalar.IsTime d → 0 < n → Scalar.IsTime (d / Scalar.ofNat n)
  /-- A positive rest of seconds is seconds. -/
  isTime_sub : ∀ {tolerance c d : α}, 0 < tolerance → Scalar.IsTime c → Scalar.IsTime d →
    tolerance < d - c → Scalar.IsTime (d - c)

/-- The reals keep time. -/
instance : KeepsTime ℝ where
  isTime_allocate htolerance _ hrequested _ d hd :=
    ⟨rfl, Schedule.allocate_nonneg htolerance.le hrequested.le d hd⟩
  isTime_div hd _ := ⟨rfl, div_nonneg hd.nonneg (Nat.cast_nonneg _)⟩
  isTime_sub htolerance _ _ hrest := ⟨rfl, (htolerance.trans hrest).le⟩

/-- The smaller of two times is a time. -/
lemma Scalar.IsTime.min {c d : α} (hc : IsTime c) (hd : IsTime d) : IsTime (Scalar.min c d) := by
  rw [Scalar.min]
  split
  · exact hd
  · split
    · exact hc
    · exact hd

/-- A tolerance in its range is finite. -/
lemma Settings.isFinite_durationTolerance {settings : Settings α} (h : settings.check = .ok ()) :
    Scalar.isFinite settings.durationTolerance = true := by
  have hmet := check_eq_ok_iff.mp h .durationTolerance
  rw [isMet, Bool.and_eq_true] at hmet
  exact hmet.2

/-- The time of a cut is a time, if it is in its range. -/
lemma Settings.isTime_cutDuration {settings : Settings α} (h : settings.check = .ok ()) :
    Scalar.IsTime settings.cutDuration := by
  have hmet := check_eq_ok_iff.mp h .cutDuration
  rw [isMet, Bool.and_eq_true, decide_eq_true_eq] at hmet
  exact ⟨hmet.2, hmet.1⟩

/-- The timed steps of a plan that passes its check have times. -/
lemma Plan.isTime_of_mem_zip [KeepsTime α] {plan : Plan α} {settings : Settings α}
    (hsettings : settings.check = .ok ()) (hplan : plan.check = .ok ()) :
    ∀ timed ∈ plan.steps.zip (plan.durations settings), Scalar.IsTime timed.2 := by
  obtain ⟨-, hfinite, hpositive⟩ := check_eq_ok_iff.mp hplan
  have hshares : ∀ d ∈ plan.durations settings, Scalar.IsTime d :=
    KeepsTime.isTime_allocate (Settings.durationTolerance_pos hsettings)
      (Settings.isFinite_durationTolerance hsettings) hpositive hfinite
  exact fun timed htimed => hshares timed.2 (List.of_mem_zip htimed).2

/-- The moves of a plan, without their ratios. -/
def Plan.moves (plan : Plan α) : List (Move α) := plan.steps.map (·.move)

/-- The timed steps of a plan have its moves. -/
lemma Plan.map_move_zip_durations (plan : Plan α) (settings : Settings α) :
    (plan.steps.zip (plan.durations settings)).map (·.1.move) = plan.moves := by
  conv_rhs => rw [moves, ← map_fst_zip_durations plan settings, List.map_map]
  rfl

/-! ### Takes of a sketch -/

namespace Sketch

/-- A take ends in the last pose of its sketch. -/
lemma pose_take (stage : Stage α) (s : Sketch α) : (s.take stage).pose = s.pose := by
  cases s <;> rfl

/-- A take notes what its sketch does. -/
lemma unsupported_take (stage : Stage α) (s : Sketch α) :
    (s.take stage).unsupported = s.unsupported := by
  cases s <;> rfl

/-- The poses of a take are those of its sketch, in order, but for one that is held after a cut. -/
lemma path_take (stage : Stage α) (s : Sketch α) :
    (s.take stage).keyframes.map (·.pose) = s.path ∨
      s.isCut = true ∧ s.path = [s.pose] ∧
        (s.take stage).keyframes.map (·.pose) = [s.pose, s.pose] := by
  cases s with
  | single pose easing unsupported => exact .inl rfl
  | arc center first rest easing =>
    left
    simp only [take, path, List.map_map]
    conv_rhs => rw [← List.zipIdx_map_fst 0 (first :: rest), List.map_map]
    rfl
  | cut pose =>
    simp only [take, Relocation.cut]
    split
    · exact .inr ⟨rfl, rfl, rfl⟩
    · exact .inl rfl

/-- The poses of a take are those of its sketch. -/
lemma mem_path_iff (stage : Stage α) (s : Sketch α) (p : Pose α) :
    p ∈ (s.take stage).keyframes.map (·.pose) ↔ p ∈ s.path := by
  rcases s.path_take stage with hsame | ⟨-, hpath, htwice⟩
  · rw [hsame]
  · rw [hpath, htwice]
    simp

variable [KeepsTime α]

/-- The durations of a take are times, if its stage has one. -/
lemma isTime_of_mem_take (stage : Stage α) (hsettings : stage.settings.check = .ok ())
    (htime : Scalar.IsTime stage.duration) (s : Sketch α) :
    ∀ k ∈ (s.take stage).keyframes, Scalar.IsTime k.duration := by
  intro k hk
  cases s with
  | single pose easing unsupported =>
    rw [List.mem_singleton.mp hk]
    exact htime
  | arc center first rest easing =>
    obtain ⟨_, -, rfl⟩ := List.mem_map.mp hk
    exact KeepsTime.isTime_div htime (Nat.zero_lt_succ _)
  | cut pose =>
    have hcut := (Settings.isTime_cutDuration hsettings).min htime
    rcases List.mem_cons.mp hk with rfl | hk
    · exact hcut
    · split at hk
      · rename_i hrest
        rw [List.mem_singleton.mp hk]
        exact KeepsTime.isTime_sub (Settings.durationTolerance_pos hsettings) hcut htime hrest
      · cases hk

/-- A take is sound if the poses of its sketch are finite. -/
lemma isSound_take_iff (stage : Stage α) (hsettings : stage.settings.check = .ok ())
    (htime : Scalar.IsTime stage.duration) (s : Sketch α) :
    (s.take stage).isSound = true ↔ ∀ p ∈ s.path, p.isFinite = true := by
  rw [Take.isSound, Bool.and_eq_true, List.all_eq_true, pose_take]
  constructor
  · rintro ⟨-, hall⟩ p hp
    obtain ⟨k, hk, rfl⟩ := List.mem_map.mp ((s.mem_path_iff stage p).mpr hp)
    exact (Keyframe.isSound_iff.mp (hall k hk)).1
  · intro hfinite
    refine ⟨hfinite _ s.pose_mem_path, fun k hk => ?_⟩
    have hduration := s.isTime_of_mem_take stage hsettings htime k hk
    have hpose := hfinite _ ((s.mem_path_iff stage k.pose).mp (List.mem_map.mpr ⟨k, hk, rfl⟩))
    exact Keyframe.isSound_iff.mpr ⟨hpose, hduration.isFinite, hduration.nonneg⟩

end Sketch

/-! ### One step -/

/-- A step that gives the take of a sketch has the poses of the sketch. -/
lemma Entry.path_eq {e : Entry α} {stage : Stage α} {s : Sketch α} (hcut : s.isCut = e.move.isCut)
    (h : e.outcome = .ok (s.take stage)) : e.path = s.path := by
  rw [path, block, h, ← hcut]
  rcases s.path_take stage with hsame | ⟨hcut, hpath, htwice⟩
  · rw [hsame]
    cases s <;> rfl
  · rw [htwice, hpath, if_pos hcut]
    rfl

/-- The poses of a step are those of its keyframes, save for the rest after a cut. -/
lemma Entry.IsAttempted.map_pose_block {scene : Scene α} {around : Surroundings α}
    {settings : Settings α} {e : Entry α} (h : e.IsAttempted scene around settings) :
    e.block.map (·.pose) = e.path ∨
      e.move.isCut = true ∧ ∃ p, e.path = [p] ∧ e.block.map (·.pose) = [p, p] := by
  rcases h.cases with ⟨_, take, hperform, -, houtcome⟩ | ⟨fault, houtcome⟩
  · obtain ⟨s, hcut, rfl⟩ := Move.perform_eq_take hperform
    rw [path_eq hcut houtcome, block, houtcome, ← hcut]
    rcases s.path_take _ with hsame | ⟨hcut, hpath, htwice⟩
    · exact .inl hsame
    · exact .inr ⟨hcut, _, hpath, htwice⟩
  · left
    simp [path, block, houtcome]

variable [KeepsTime α] [Spelled α]

/-- A move that is attempted at another time is attempted alike. -/
lemma Move.alike_attempt {stage : Stage α} {duration : α}
    (hsettings : stage.settings.check = .ok ()) (htime : Scalar.IsTime stage.duration)
    (htime' : Scalar.IsTime duration) (move : Move α) (pose : Pose α) :
    Entry.Alike ⟨move, pose, move.attempt stage pose⟩
      ⟨move, pose, move.attempt { stage with duration } pose⟩ := by
  simp only [attempt]
  rcases move.perform_at_time stage duration pose with
    ⟨fault, hfault, hfault'⟩ | ⟨s, hcut, htake, htake'⟩
  · rw [hfault, hfault']
    exact ⟨rfl, rfl, fun _ => rfl⟩
  · rw [htake, htake']
    simp only [bind, Except.bind]
    -- Both takes are refused or neither is, since that is up to the poses of the sketch.
    have hsound := s.isSound_take_iff stage hsettings htime
    have hsound' := s.isSound_take_iff { stage with duration } hsettings htime'
    by_cases hfinite : ∀ p ∈ s.path, p.isFinite = true
    · rw [if_pos (hsound.mpr hfinite), if_pos (hsound'.mpr hfinite)]
      constructor
      case path_eq => rw [Entry.path_eq hcut rfl, Entry.path_eq hcut rfl]
      case finish_eq => simp only [Entry.finish, s.pose_take]
      case remarks_eq =>
        intro n
        simp only [Entry.remarks, s.unsupported_take]
    · rw [if_neg (mt hsound.mp hfinite), if_neg (mt hsound'.mp hfinite)]
      exact ⟨rfl, rfl, fun _ => rfl⟩

/-! ### Whole runs -/

namespace Plan

variable {scene : Scene α} {around : Surroundings α} {settings : Settings α}

/-- The ledgers of the same moves at different times are alike.  The induction is on the steps;
steps that are alike end in the same pose, from which the next ones start. -/
theorem ledger_alike (hsettings : settings.check = .ok ()) {steps steps' : List (Step α × α)}
    (hmoves : steps.map (·.1.move) = steps'.map (·.1.move))
    (htime : ∀ timed ∈ steps, Scalar.IsTime timed.2)
    (htime' : ∀ timed ∈ steps', Scalar.IsTime timed.2) (pose : Pose α) :
    List.Forall₂ Entry.Alike (ledger scene around settings steps pose)
      (ledger scene around settings steps' pose) := by
  induction steps generalizing steps' pose with
  | nil =>
    rw [List.map_nil, eq_comm, List.map_eq_nil_iff] at hmoves
    rw [hmoves]
    exact .nil
  | cons timed rest ih =>
    obtain ⟨step, duration⟩ := timed
    obtain ⟨⟨step', duration'⟩, rest', rfl, hmove, hrest⟩ := List.map_eq_cons_iff.mp hmoves.symm
    obtain ⟨hduration, htime⟩ := List.forall_mem_cons.mp htime
    obtain ⟨hduration', htime'⟩ := List.forall_mem_cons.mp htime'
    have halike : Entry.Alike
        ⟨step.move, pose, step.move.attempt ⟨scene, around, settings, duration⟩ pose⟩
        ⟨step'.move, pose, step'.move.attempt ⟨scene, around, settings, duration'⟩ pose⟩ := by
      rw [show step'.move = step.move from hmove]
      exact Move.alike_attempt hsettings hduration hduration' step.move pose
    rw [ledger, ledger]
    refine .cons halike ?_
    rw [halike.finish_eq]
    exact ih hrest.symm htime htime' _

/-- Plans of the same moves have ledgers that are alike. -/
lemma entries_alike (scene : Scene α) (around : Surroundings α)
    (hsettings : settings.check = .ok ()) {plan plan' : Plan α}
    (hplan : plan.check = .ok ()) (hplan' : plan'.check = .ok ()) (hmoves : plan.moves = plan'.moves)
    (pose : Pose α) :
    List.Forall₂ Entry.Alike (plan.entries scene around settings pose)
      (plan'.entries scene around settings pose) := by
  refine ledger_alike hsettings ?_ (isTime_of_mem_zip hsettings hplan)
    (isTime_of_mem_zip hsettings hplan') pose
  rw [map_move_zip_durations, map_move_zip_durations, hmoves]

/-- A plan that is made of two has a ledger like that of the first, followed by that of the second
from where the first ends. -/
lemma entries_alike_append (scene : Scene α) (around : Surroundings α)
    (hsettings : settings.check = .ok ()) {whole first second : Plan α}
    (hwhole : whole.check = .ok ()) (hfirst : first.check = .ok ())
    (hsecond : second.check = .ok ()) (hmoves : whole.moves = first.moves ++ second.moves)
    (pose : Pose α) :
    List.Forall₂ Entry.Alike (whole.entries scene around settings pose)
      (first.entries scene around settings pose ++
        second.entries scene around settings
          (poseAfter pose (first.entries scene around settings pose))) := by
  have happend : first.entries scene around settings pose ++
      second.entries scene around settings
        (poseAfter pose (first.entries scene around settings pose)) =
      ledger scene around settings (first.steps.zip (first.durations settings) ++
        second.steps.zip (second.durations settings)) pose :=
    (ledger_append _ _ _).symm
  -- The steps of both plans, each in its own time, are compared with those of the whole at once.
  rw [happend]
  refine ledger_alike hsettings ?_ (isTime_of_mem_zip hsettings hwhole) ?_ pose
  · rw [List.map_append, map_move_zip_durations, map_move_zip_durations, map_move_zip_durations,
      hmoves]
  · exact List.forall_mem_append.mpr
      ⟨isTime_of_mem_zip hsettings hfirst, isTime_of_mem_zip hsettings hsecond⟩

/-- The poses of each step of a plan. -/
def paths (plan : Plan α) (scene : Scene α) (around : Surroundings α) (settings : Settings α)
    (initial : Pose α) : List (List (Pose α)) :=
  (plan.entries scene around settings initial).map Entry.path

variable {initial : Pose α}

/-- **Timing has no influence on what is seen, and plans can be chained.**

Let the scalars keep time, as the reals do.  The keyframes of a plan are those of its steps, and the
poses of a step are those of its keyframes, but for the one that is held after a cut.  Plans of the
same moves come to the same final pose, the same remarks and the same poses step by step, whatever
their ratios and durations are.  So does a plan that is made of two, when the second one is carried
out in its own time from where the first one ended. -/
theorem interpret_chain (hinitial : initial.isFinite = true) (hsettings : settings.check = .ok ()) :
    (∀ (plan : Plan α) (start : Pose α) (i : Interpretation α),
      plan.interpret scene around settings start = .ok i →
        i.keyframes = (plan.entries scene around settings start).flatMap Entry.block ∧
        ∀ e ∈ plan.entries scene around settings start,
          e.block.map (·.pose) = e.path ∨
            e.move.isCut = true ∧ ∃ p, e.path = [p] ∧ e.block.map (·.pose) = [p, p]) ∧
    (∀ plan plan' : Plan α, plan.check = .ok () → plan'.check = .ok () → plan.moves = plan'.moves →
      ∃ i i', plan.interpret scene around settings initial = .ok i ∧
        plan'.interpret scene around settings initial = .ok i' ∧
        i.finalPose = i'.finalPose ∧ i.diagnostics = i'.diagnostics ∧
        plan.paths scene around settings initial = plan'.paths scene around settings initial) ∧
    (∀ whole first second : Plan α, whole.check = .ok () → first.check = .ok () →
      second.check = .ok () → whole.moves = first.moves ++ second.moves →
      ∃ i i₁ i₂, whole.interpret scene around settings initial = .ok i ∧
        first.interpret scene around settings initial = .ok i₁ ∧
        second.interpret scene around settings i₁.finalPose = .ok i₂ ∧
        i.finalPose = i₂.finalPose ∧
        i.diagnostics = i₁.diagnostics ++ i₂.diagnostics.map (·.later first.steps.length) ∧
        whole.paths scene around settings initial =
          first.paths scene around settings initial ++
            second.paths scene around settings i₁.finalPose) := by
  refine ⟨?_, ?_, ?_⟩
  · intro plan start i h
    exact ⟨keyframes_eq h, fun e he => (isAttempted_of_mem_ledger he).map_pose_block⟩
  · intro plan plan' hplan hplan' hmoves
    obtain ⟨hpaths, hremarks, hend⟩ :=
      Entry.ledgers_of_alike (entries_alike scene around hsettings hplan hplan' hmoves initial)
    exact ⟨_, _, interpret_of_check hinitial hsettings hplan,
      interpret_of_check hinitial hsettings hplan', hend initial, hremarks 0, hpaths⟩
  · intro whole first second hwhole hfirst hsecond hmoves
    obtain ⟨hpaths, hremarks, hend⟩ := Entry.ledgers_of_alike
      (entries_alike_append scene around hsettings hwhole hfirst hsecond hmoves initial)
    have hmiddle : (poseAfter initial (first.entries scene around settings initial)).isFinite = true :=
      isFinite_poseAfter _ hinitial
    refine ⟨_, _, _, interpret_of_check hinitial hsettings hwhole,
      interpret_of_check hinitial hsettings hfirst, interpret_of_check hmiddle hsettings hsecond,
      ?_, ?_, ?_⟩
    · exact (hend initial).trans List.foldl_append
    · rw [hremarks 0, Entry.allRemarks_append, length_entries, Entry.allRemarks_add]
    · rw [paths, hpaths, List.map_append]
      rfl

/-- A plan that draws back, and lacks the angle for an orbit. -/
def departure : Plan α where
  steps := [⟨.zoom { factor := some 2.0 }, 1⟩, ⟨.orbit {}, 3.0⟩]
  duration := 2.0

/-- A plan that cuts to a place, and asks for a roll in vain. -/
def arrival : Plan α where
  steps :=
    [⟨.moveTo { target := some "front_center", speed := some "instant" }, 1⟩,
     ⟨.rotate { axis := some "roll" }, 0⟩]
  duration := 5.0

/-- A plan of the moves of both, with other ratios and another duration. -/
def journey : Plan α where
  steps :=
    [⟨.zoom { factor := some 2.0 }, 0⟩, ⟨.orbit {}, 7.0⟩,
     ⟨.moveTo { target := some "front_center", speed := some "instant" }, 2.0⟩,
     ⟨.rotate { axis := some "roll" }, 1⟩]
  duration := 3.0

/-- A journey is a departure and an arrival, one after the other. -/
theorem interpret_chain_journey :
    ∃ i i₁ i₂ : Interpretation ℝ,
      journey.interpret .cube .free .standard ⟨⟨0, 0, 5⟩, ⟨0, 0, 0⟩⟩ = .ok i ∧
      departure.interpret .cube .free .standard ⟨⟨0, 0, 5⟩, ⟨0, 0, 0⟩⟩ = .ok i₁ ∧
      arrival.interpret .cube .free .standard i₁.finalPose = .ok i₂ ∧
      i.finalPose = i₂.finalPose ∧
      i.diagnostics = i₁.diagnostics ++ i₂.diagnostics.map (·.later 2) := by
  have hjourney : (journey : Plan ℝ).check = .ok () :=
    check_of_pos (List.cons_ne_nil _ _) (by simp only [journey]; norm_num)
  have hdeparture : (departure : Plan ℝ).check = .ok () :=
    check_of_pos (List.cons_ne_nil _ _) (by simp only [departure]; norm_num)
  have harrival : (arrival : Plan ℝ).check = .ok () :=
    check_of_pos (List.cons_ne_nil _ _) (by simp only [arrival]; norm_num)
  obtain ⟨i, i₁, i₂, h, h₁, h₂, hend, hremarks, -⟩ :=
    (interpret_chain rfl Settings.check_standard).2.2 journey departure arrival
      hjourney hdeparture harrival rfl
  exact ⟨i, i₁, i₂, h, h₁, h₂, hend, hremarks⟩

end Plan

end Cinematics
