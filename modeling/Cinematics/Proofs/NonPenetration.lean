import Cinematics.Proofs.Clearance
import Cinematics.Proofs.Admissibility
import Cinematics.Inspection

/-!
# No camera inside the subject

Over the reals the camera is never placed strictly inside the subject, wherever it comes from
(`Scene.isOutside_place`): a start that a place gives way to is admissible and so outside, and any
other place has been kept clear of the box.  Only the initial position can be inside, and only as
long as the camera has not moved.

Unlike the preservation of admissible places, this needs arithmetic that does not round, and needs
nothing of the start.
-/

namespace Cinematics

namespace Scene

variable {scene : Scene ℝ} {around : Surroundings ℝ}

/-- What a candidate settles at is outside the subject. -/
lemma isOutside_settle (eps : ℝ) (start candidate anchor : Vec ℝ) :
    scene.IsOutside around (scene.settle around eps start candidate anchor) := by
  intro b hb
  rw [settle, hb]
  exact b.containsStrictly_clear _ _

/-- **The camera is placed outside the subject.** -/
theorem isOutside_place (eps : ℝ) (start candidate anchor : Vec ℝ) :
    scene.IsOutside around (scene.place around eps start candidate anchor) := by
  simp only [place]
  split
  · rename_i hfallback
    exact .of_isAdmissible (Bool.and_eq_true_iff.mp hfallback).2
  · exact isOutside_settle eps start candidate anchor

end Scene

/-- What is placed outside or not at all is outside or where it started. -/
lemma Move.isOutside_or_start {stage : Stage ℝ} {pose : Pose ℝ} {move : Move ℝ} {take : Take ℝ}
    {origin : Vec ℝ} (h : move.perform stage pose = .ok take)
    (hstart : pose.position = origin ∨ stage.scene.IsOutside stage.around pose.position) :
    ∀ k ∈ take.keyframes,
      k.pose.position = origin ∨ stage.scene.IsOutside stage.around k.pose.position := by
  refine perform_positions
    (P := fun p => p = origin ∨ stage.scene.IsOutside stage.around p) ?_ h hstart
  intro s c a _ _
  exact .inr (Scene.isOutside_place _ s c a)

/-- An inspection finds fault exactly if there is a keyframe inside the box. -/
lemma Box.isValid_inspect_eq_false_iff {α : Type} [Scalar α] [Spelled α] {box : Box α}
    {keyframes : List (Keyframe α)} :
    (inspect (some box) keyframes).isValid = false ↔
      ∃ k ∈ keyframes, box.containsStrictly k.pose.position = true := by
  unfold inspect
  split
  · rename_i hnone
    cases hnone
  · rename_i b hb
    obtain rfl := Option.some.inj hb
    split
    · rename_i k index hfind
      have hk : k ∈ keyframes := List.fst_mem_of_mem_zipIdx (List.mem_of_find?_eq_some hfind)
      exact iff_of_true rfl ⟨k, hk, by simpa using List.find?_some hfind⟩
    · rename_i hfind
      refine iff_of_false (fun h => nomatch h) ?_
      rintro ⟨k, hk, hinside⟩
      obtain ⟨index, hindex, rfl⟩ := List.mem_iff_getElem.mp hk
      have hmem : (keyframes[index], index) ∈ keyframes.zipIdx :=
        List.mk_mem_zipIdx_iff_getElem?.mpr (List.getElem?_eq_getElem hindex)
      have houtside := List.find?_eq_none.mp hfind _ hmem
      exact houtside hinside

/-- Keyframes that are all outside the subject pass the inspection. -/
lemma Scene.isValid_inspect {α : Type} [Scalar α] [Spelled α] {scene : Scene α}
    {around : Surroundings α} {keyframes : List (Keyframe α)}
    (h : ∀ k ∈ keyframes, scene.IsOutside around k.pose.position) :
    (scene.inspect around keyframes).isValid = true := by
  unfold inspect
  cases hb : scene.liftedBounds around with
  | none => rfl
  | some b =>
    refine Bool.eq_true_of_not_eq_false fun hfault => ?_
    obtain ⟨k, hk, hinside⟩ := Box.isValid_inspect_eq_false_iff.mp hfault
    rw [h k hk b hb] at hinside
    cases hinside

/-- **No camera inside the subject.**

Over the reals, every keyframe of an interpretation is at the initial position or outside the
subject.  In particular, if the initial position is outside, the keyframes pass the inspection. -/
theorem non_penetration {plan : Plan ℝ} {scene : Scene ℝ} {around : Surroundings ℝ}
    {settings : Settings ℝ} {initial : Pose ℝ} {i : Interpretation ℝ}
    (h : plan.interpret scene around settings initial = .ok i) :
    (∀ k ∈ i.keyframes,
      k.pose.position = initial.position ∨ scene.IsOutside around k.pose.position) ∧
    (scene.IsOutside around initial.position →
      (scene.inspect around i.keyframes).isValid = true) := by
  have hall : ∀ k ∈ i.keyframes,
      k.pose.position = initial.position ∨ scene.IsOutside around k.pose.position := by
    refine (Plan.interpret_poses
      (J := fun p => p.position = initial.position ∨ scene.IsOutside around p.position)
      ?_ h (.inl rfl)).1
    intro move duration pose take hpose hperform
    exact Move.isOutside_or_start hperform hpose
  refine ⟨hall, fun hinitial => Scene.isValid_inspect fun k hk => ?_⟩
  rcases hall k hk with hsame | houtside
  · rw [hsame]
    exact hinitial
  · exact houtside

/-- A zoom towards the center of a cube passes the inspection. -/
theorem non_penetration_zoom :
    ∃ i, Plan.zoomIn.interpret .cube .free .standard ⟨⟨0, 0, 5⟩, ⟨0, 0, 0⟩⟩ = .ok i ∧
      ((Scene.cube : Scene ℝ).inspect .free i.keyframes).isValid = true := by
  obtain ⟨i, h⟩ := Plan.exists_interpret_zoomIn
  exact ⟨i, h, (non_penetration h).2 Scene.isOutside_cube⟩

end Cinematics
