import Cinematics.Proofs.Sketch
import Cinematics.Proofs.Run

/-!
# Interpretations in corresponding stages

Two scenes with their surroundings correspond along a map of points when all stages that are made of
them do.  A plan is then interpreted alike in both: where the poses of the one interpretation are,
those of the other are the mapped ones, and durations and remarks are the same
(`Plan.interpret_map`).

The step from stages to interpretations has nothing to do with geometry.  A sketch takes the map
along (`Sketch.take_map`), so does the attempt of a move, and the ledger of a run is mapped entry by
entry.
-/

namespace Cinematics

variable {α : Type}

/-- The interpretation with all its poses mapped. -/
def Interpretation.map (τ : Vec α → Vec α) (i : Interpretation α) : Interpretation α :=
  { i with keyframes := i.keyframes.map (·.map τ), finalPose := i.finalPose.map τ }

/-- Points that stay where they are change nothing. -/
lemma Interpretation.map_self (i : Interpretation α) : i.map (fun p => p) = i := by
  have hkeyframes : i.keyframes.map (Keyframe.map fun p => p) = i.keyframes := List.map_id _
  rw [map, hkeyframes]
  rfl

/-- The step with its poses mapped. -/
def Entry.map (τ : Vec α → Vec α) (e : Entry α) : Entry α :=
  { e with start := e.start.map τ, outcome := e.outcome.map (Take.map τ) }

/-! ### Steps whose poses are mapped -/

namespace Entry

variable {τ : Vec α → Vec α}

/-- The keyframes of a mapped step are the mapped ones. -/
lemma block_map (e : Entry α) : (e.map τ).block = e.block.map (Keyframe.map τ) := by
  unfold block map
  cases e.outcome with
  | ok take => rfl
  | error fault => rfl

/-- A mapped step ends in the mapped pose. -/
lemma finish_map (e : Entry α) : (e.map τ).finish = e.finish.map τ := by
  unfold finish map
  cases e.outcome with
  | ok take => rfl
  | error fault => rfl

/-- The remarks about a mapped step are the same. -/
lemma remarks_map [Spelled α] (e : Entry α) (n : Nat) : (e.map τ).remarks n = e.remarks n := by
  unfold remarks map
  cases e.outcome with
  | ok take => rfl
  | error fault => rfl

/-- The remarks about mapped steps are the same. -/
lemma allRemarks_map [Spelled α] (n : Nat) (entries : List (Entry α)) :
    allRemarks n (entries.map (·.map τ)) = allRemarks n entries := by
  induction entries generalizing n with
  | nil => rfl
  | cons e rest ih => rw [List.map_cons, allRemarks, allRemarks, remarks_map, ih]

/-- The keyframes of mapped steps are the mapped ones. -/
lemma flatMap_block_map (entries : List (Entry α)) :
    (entries.map (·.map τ)).flatMap block = (entries.flatMap block).map (Keyframe.map τ) := by
  induction entries with
  | nil => rfl
  | cons e rest ih =>
    rw [List.map_cons, List.flatMap_cons, List.flatMap_cons, List.map_append, block_map, ih]

end Entry

/-- Mapped steps end in the mapped pose. -/
lemma Plan.poseAfter_map {τ : Vec α → Vec α} (pose : Pose α) (entries : List (Entry α)) :
    poseAfter (pose.map τ) (entries.map (·.map τ)) = (poseAfter pose entries).map τ := by
  induction entries generalizing pose with
  | nil => rfl
  | cons e rest ih =>
    rw [List.map_cons, poseAfter, List.foldl_cons, Entry.finish_map]
    exact ih e.finish

variable [Scalar α] {τ : Vec α → Vec α}

/-! ### One step -/

/-- The take of a mapped sketch is the mapped take. -/
lemma Sketch.take_map {stage stage' : Stage α} (hsettings : stage'.settings = stage.settings)
    (hduration : stage'.duration = stage.duration) (s : Sketch α) :
    (s.map τ).take stage' = (s.take stage).map τ := by
  cases s with
  | single pose easing unsupported =>
    rw [map, take, hduration]
    rfl
  | arc center first rest easing =>
    have hlast : ((first :: rest).map τ).getLastD (τ first) =
        τ ((first :: rest).getLastD first) := by
      rw [List.getLastD_eq_getLast?, List.getLastD_eq_getLast?, List.getLast?_map, Option.getD_map]
    simp only [map, take, Take.map, hduration, ← List.map_cons, hlast, List.length_map,
      List.zipIdx_map, List.map_map]
    rfl
  | cut pose =>
    simp only [map, take, Relocation.cut, Take.map, hsettings, hduration]
    split
    · rfl
    · rfl

/-- A mapped take is as sound as the take. -/
lemma Take.isSound_map (hfinite : ∀ p : Vec α, (τ p).isFinite = p.isFinite) (take : Take α) :
    (take.map τ).isSound = take.isSound := by
  have hpose : ∀ p : Pose α, (p.map τ).isFinite = p.isFinite := by
    intro p
    rw [Pose.isFinite, Pose.isFinite, Pose.map_position, Pose.map_target, hfinite, hfinite]
  have hkeyframe : ∀ k : Keyframe α, (k.map τ).isSound = k.isSound := by
    intro k
    rw [Keyframe.isSound, Keyframe.isSound, Keyframe.map, hpose]
  simp only [isSound, map, hpose, List.all_map, Function.comp_def, hkeyframe]

/-- In a corresponding stage of the same time, a move comes to the mapped take. -/
lemma Move.attempt_map {stage stage' : Stage α} (h : stage.Corresponds τ stage')
    (hduration : stage'.duration = stage.duration) (move : Move α) (pose : Pose α) :
    move.attempt stage' (pose.map τ) = (move.attempt stage pose).map (Take.map τ) := by
  have hsketched := move.sketched_perform h pose
  simp only [attempt]
  generalize move.perform stage pose = x at hsketched
  generalize move.perform stage' (pose.map τ) = x' at hsketched
  cases hsketched with
  | error fault => rfl
  | ok s =>
    -- With the same seconds, the take of the mapped sketch is the mapped take.
    rw [s.take_map h.settings_eq hduration]
    simp only [bind, Except.bind, Take.isSound_map h.isFinite_eq]
    split
    · rfl
    · rfl

/-! ### Whole runs -/

namespace Plan

variable {scene scene' : Scene α} {around around' : Surroundings α} {settings : Settings α}

/-- A ledger in corresponding stages is the mapped one.  The induction is on the steps; each starts
from the mapped pose of the step before. -/
lemma ledger_map
    (h : ∀ duration, Stage.Corresponds τ ⟨scene, around, settings, duration⟩
      ⟨scene', around', settings, duration⟩)
    (steps : List (Step α × α)) (pose : Pose α) :
    ledger scene' around' settings steps (pose.map τ) =
      (ledger scene around settings steps pose).map (·.map τ) := by
  induction steps generalizing pose with
  | nil => rfl
  | cons timed rest ih =>
    obtain ⟨step, duration⟩ := timed
    have hentry : (⟨step.move, pose.map τ,
        step.move.attempt ⟨scene', around', settings, duration⟩ (pose.map τ)⟩ : Entry α) =
          Entry.map τ
            ⟨step.move, pose, step.move.attempt ⟨scene, around, settings, duration⟩ pose⟩ := by
      rw [Entry.map, step.move.attempt_map (h duration) rfl]
    simp only [ledger, List.map_cons]
    rw [hentry, Entry.finish_map, ih]

/-- **Plans are interpreted alike in corresponding stages.**  An interpretation from the mapped pose
is the mapped interpretation, and one that is refused is refused for the same reason. -/
theorem interpret_map [Spelled α]
    (h : ∀ duration, Stage.Corresponds τ ⟨scene, around, settings, duration⟩
      ⟨scene', around', settings, duration⟩)
    (plan : Plan α) (initial : Pose α) :
    plan.interpret scene' around' settings (initial.map τ) =
      (plan.interpret scene around settings initial).map (Interpretation.map τ) := by
  have hfinite : (initial.map τ).isFinite = initial.isFinite := by
    simp only [Pose.isFinite, Pose.map_position, Pose.map_target, (h 0).isFinite_eq]
  simp only [interpret_eq, hfinite]
  split
  · cases plan.schedule settings with
    | error fault => rfl
    | ok durations =>
      simp only [Except.map, ledger_map h, Entry.flatMap_block_map, Entry.allRemarks_map,
        poseAfter_map, Interpretation.map]
  · rfl

end Plan

end Cinematics
