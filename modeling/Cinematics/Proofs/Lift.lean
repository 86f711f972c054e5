import Cinematics.Proofs.Translation
import Cinematics.Inspection

/-!
# The lift of the subject

The user may show the subject higher than its box says.  This lift is applied wherever the place of
the box matters, to landmarks, to clearances and to inspections, each time on its own, while sizes
are read off the box as it is.  Over the reals all of this comes to the same as moving the box once
and for all (`lift_eq_shown`): no path applies the lift twice or forgets it.
-/

namespace Cinematics

section Data

variable {α : Type} [Scalar α]

/-- The scene with its box at the height where the subject is shown.  Features stay. -/
def Scene.shown (scene : Scene α) (around : Surroundings α) : Scene α :=
  { scene with bounds := scene.bounds.map (·.lift around.lift) }

/-- The surroundings without a lift. -/
def Surroundings.grounded (around : Surroundings α) : Surroundings α := { around with lift := 0 }

end Data

/-- No height is no way. -/
lemma Vec.add_height_zero_real (p : Vec ℝ) : p + Vec.height 0 = p := by
  ext
  · exact add_zero _
  · exact add_zero _
  · exact add_zero _

/-- A box that is not lifted stays where it is. -/
lemma Box.lift_zero_real (b : Box ℝ) : b.lift 0 = b := by
  simp only [lift, translate, Vec.add_height_zero_real]

namespace Scene

variable (scene : Scene ℝ) (around : Surroundings ℝ)

/-- The box of the shown scene is where the subject is shown. -/
lemma liftedBounds_shown :
    (scene.shown around).liftedBounds around.grounded = scene.liftedBounds around := by
  simp only [liftedBounds, shown, Surroundings.grounded, Option.map_map]
  cases scene.bounds with
  | none => rfl
  | some b => exact congrArg some (Box.lift_zero_real _)

/-- The shown scene admits the same positions. -/
lemma isAdmissible_shown (p anchor : Vec ℝ) :
    (scene.shown around).isAdmissible around.grounded p anchor =
      scene.isAdmissible around p anchor := by
  rw [isAdmissible, isAdmissible, liftedBounds_shown]
  rfl

/-- The camera is placed at the same place in the shown scene. -/
lemma place_shown (eps : ℝ) (start candidate anchor : Vec ℝ) :
    (scene.shown around).place around.grounded eps start candidate anchor =
      scene.place around eps start candidate anchor := by
  simp only [place, settle, isAdmissible_shown, liftedBounds_shown]
  rfl

/-- The landmarks of the shown scene are those that the subject is shown with. -/
lemma landmark?_shown (key : List Char) :
    (scene.shown around).landmark? around.grounded key = scene.landmark? around key := by
  simp only [landmark?, shown, Surroundings.grounded]
  cases scene.bounds with
  | none => rfl
  | some b =>
    simp only [Option.map_some, bind, Option.bind]
    cases Landmark.ofKey? key with
    | none => rfl
    | some landmark =>
      simp only [Box.lift, Landmark.point_translate, Vec.add_height_zero_real]

/-- A name stands for the same place in the shown scene. -/
lemma locate_shown (current : Vec ℝ) (name : String) :
    (scene.shown around).locate around.grounded current name =
      scene.locate around current name := by
  simp only [locate, landmark?_shown]
  rfl

/-- Inspections of the shown scene report the same. -/
lemma inspect_shown (keyframes : List (Keyframe ℝ)) :
    (scene.shown around).inspect around.grounded keyframes = scene.inspect around keyframes := by
  rw [inspect, inspect, liftedBounds_shown]

end Scene

/-- The stages of the shown scene correspond to those of the scene, point by point. -/
lemma Stage.corresponds_shown (scene : Scene ℝ) (around : Surroundings ℝ) (settings : Settings ℝ)
    (duration : ℝ) :
    Stage.Corresponds (fun p => p) ⟨scene, around, settings, duration⟩
      ⟨scene.shown around, around.grounded, settings, duration⟩ where
  sub_eq _ _ := rfl
  add_eq _ _ := rfl
  isFinite_eq _ := rfl
  settings_eq := rfl
  size_eq := Scene.size_of_bounds rfl
  travelBase_eq := Scene.travelBase_of_bounds rfl
  clampFactor_eq _ _ := rfl
  locate_eq current name := by
    rw [scene.locate_shown around current name]
    exact Option.map_id'.symm
  place_eq := scene.place_shown around settings.epsilon
  candidate_eq _ _ _ := rfl

/-- **A lift moves the box and nothing else.**

Over the reals, a plan is interpreted with a lift exactly as it is without one in the scene whose
box stands where the subject is shown, and an inspection of any keyframes, those of the
interpretation among them, reports the same in both settings. -/
theorem lift_eq_shown (plan : Plan ℝ) (scene : Scene ℝ) (around : Surroundings ℝ)
    (settings : Settings ℝ) (initial : Pose ℝ) :
    plan.interpret (scene.shown around) around.grounded settings initial =
        plan.interpret scene around settings initial ∧
      ∀ keyframes : List (Keyframe ℝ),
        (scene.shown around).inspect around.grounded keyframes =
          scene.inspect around keyframes := by
  refine ⟨?_, scene.inspect_shown around⟩
  -- The points stay where they are, so the mapped interpretation is the interpretation itself.
  have hmap := Plan.interpret_map (Stage.corresponds_shown scene around settings) plan initial
  cases hinterpret : plan.interpret scene around settings initial with
  | error refusal =>
    rw [hinterpret] at hmap
    exact hmap
  | ok i =>
    rw [hinterpret, Except.map, i.map_self] at hmap
    exact hmap

end Cinematics
