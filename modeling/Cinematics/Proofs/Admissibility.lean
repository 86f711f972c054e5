import Cinematics.Proofs.Refusal

/-!
# Admissible places stay admissible

`Scene.place` confines a candidate in three stages, and near the box the stages can undo each other.
What makes it safe is its last line alone: a place that is not admissible gives way to the start,
if the start was.  So placing never leaves the admissible places (`Scene.isAdmissible_place`),
whatever the stages before it have computed, and this file derives from it that whole moves and
whole runs do not leave them either.

No law of arithmetic is used.  Everything here holds of doubles as they are computed with, rounding,
infinities and undefined values included.
-/

namespace Cinematics

variable {α : Type} [Scalar α]

namespace Scene

variable {scene : Scene α} {around : Surroundings α}

/-- Whether a position is not strictly inside the subject, at the height where it is shown. -/
def IsOutside (scene : Scene α) (around : Surroundings α) (position : Vec α) : Prop :=
  ∀ b, scene.liftedBounds around = some b → b.containsStrictly position = false

/-- Without an envelope the admissible places are those outside the subject. -/
lemma isAdmissible_iff_isOutside (henvelope : around.envelope = none) {position anchor : Vec α} :
    scene.isAdmissible around position anchor = true ↔ scene.IsOutside around position := by
  rw [isAdmissible, henvelope, IsOutside]
  cases scene.liftedBounds around with
  | none => simp
  | some b => simp

/-- An admissible place is outside the subject. -/
lemma IsOutside.of_isAdmissible {position anchor : Vec α}
    (h : scene.isAdmissible around position anchor = true) : scene.IsOutside around position := by
  intro b hb
  rw [isAdmissible, hb] at h
  simpa using (Bool.and_eq_true_iff.mp h).2

/-- A candidate that settles at an admissible place is placed there. -/
lemma place_of_isAdmissible_settle {eps : α} {start candidate anchor : Vec α}
    (h : scene.isAdmissible around (scene.settle around eps start candidate anchor) anchor = true) :
    scene.place around eps start candidate anchor =
      scene.settle around eps start candidate anchor := by
  simp only [place, h, Bool.not_true, Bool.false_and, Bool.false_eq_true, if_false]

/-- A place is the start, which is admissible then, or where the candidate settles. -/
lemma place_cases (scene : Scene α) (around : Surroundings α) (eps : α)
    (start candidate anchor : Vec α) :
    (scene.isAdmissible around start anchor = true ∧
      scene.place around eps start candidate anchor = start) ∨
    scene.place around eps start candidate anchor =
      scene.settle around eps start candidate anchor := by
  simp only [place]
  split
  · rename_i hkept
    rw [Bool.and_eq_true] at hkept
    exact .inl ⟨hkept.2, rfl⟩
  · exact .inr rfl

/-- **Placing keeps to the admissible places.**  The start is what a place that is not admissible
gives way to. -/
theorem isAdmissible_place (eps : α) {start anchor : Vec α} (candidate : Vec α)
    (h : scene.isAdmissible around start anchor = true) :
    scene.isAdmissible around (scene.place around eps start candidate anchor) anchor = true := by
  simp only [place]
  split
  · exact h
  · rename_i hsettled
    rw [h, Bool.and_true, Bool.not_eq_true', Bool.not_eq_false] at hsettled
    exact hsettled

end Scene

namespace Move

variable {stage : Stage α} {pose : Pose α} {move : Move α} {take : Take α}

/-- The moves that are placed about one point know which it is. -/
lemma exists_countsFrom_iff (hkind : move.kind ∈ [.zoom, .dolly, .orbit, .moveTo])
    (h : move.perform stage pose = .ok take) :
    ∃ anchor, ∀ a, move.CountsFrom stage pose a ↔ a = anchor := by
  cases move with
  | zoom request => exact ⟨pose.target, fun _ => Iff.rfl⟩
  | dolly request => exact ⟨pose.target, fun _ => Iff.rfl⟩
  | orbit request =>
    obtain ⟨center, _, _, _, hcenter, -⟩ := Orbit.perform_ok h
    exact ⟨center, fun a => by rw [CountsFrom, hcenter, Except.ok.injEq, eq_comm]⟩
  | moveTo request =>
    obtain ⟨_, _, target, _, -, -, htarget, -⟩ := Relocation.perform_ok h
    exact ⟨target, fun a => by rw [CountsFrom, htarget, Except.ok.injEq, eq_comm]⟩
  | hold request => simp [kind] at hkind
  | pan request => simp [kind] at hkind
  | tilt request => simp [kind] at hkind
  | truck request => simp [kind] at hkind
  | pedestal request => simp [kind] at hkind
  | focusOn request => simp [kind] at hkind
  | rotate request => simp [kind] at hkind

/-- A move that counts distances from one point only keeps to the places that are admissible about
it. -/
lemma isAdmissible_of_perform {anchor : Vec α}
    (hanchor : ∀ a, move.CountsFrom stage pose a → a = anchor)
    (h : move.perform stage pose = .ok take)
    (hstart : stage.scene.isAdmissible stage.around pose.position anchor = true) :
    ∀ k ∈ take.keyframes, stage.scene.isAdmissible stage.around k.pose.position anchor = true := by
  refine perform_positions (P := fun p => stage.scene.isAdmissible stage.around p anchor = true)
    ?_ h hstart
  intro s c a ha hs
  rw [hanchor a ha]
  exact Scene.isAdmissible_place _ c hs

/-- Without an envelope no move enters the subject from outside, wherever it counts distances
from. -/
lemma isOutside_of_perform (henvelope : stage.around.envelope = none)
    (h : move.perform stage pose = .ok take)
    (hstart : stage.scene.IsOutside stage.around pose.position) :
    ∀ k ∈ take.keyframes, stage.scene.IsOutside stage.around k.pose.position := by
  refine perform_positions (P := stage.scene.IsOutside stage.around) ?_ h hstart
  intro s c a _ hs
  have hadmissible : stage.scene.isAdmissible stage.around s a = true :=
    (Scene.isAdmissible_iff_isOutside henvelope).mpr hs
  exact .of_isAdmissible (Scene.isAdmissible_place _ c hadmissible)

end Move

/-- **Admissibility is preserved, whatever the rounding.**

A zoom, a dolly, an orbit or a relocation counts distances from one point, and if it starts from a
place that is admissible about this point, all its keyframes are at such places.  Consequently,
without an envelope, a run of any moves that starts outside the subject stays outside. -/
theorem admissible_throughout [Spelled α] (scene : Scene α) (around : Surroundings α)
    (settings : Settings α) :
    (∀ (move : Move α) duration pose take, move.kind ∈ [.zoom, .dolly, .orbit, .moveTo] →
      move.perform ⟨scene, around, settings, duration⟩ pose = .ok take →
      ∃ anchor,
        (∀ a, move.CountsFrom ⟨scene, around, settings, duration⟩ pose a ↔ a = anchor) ∧
        (scene.isAdmissible around pose.position anchor = true →
          ∀ k ∈ take.keyframes, scene.isAdmissible around k.pose.position anchor = true)) ∧
    (around.envelope = none → ∀ (plan : Plan α) initial i,
      plan.interpret scene around settings initial = .ok i →
      scene.IsOutside around initial.position →
        ∀ k ∈ i.keyframes, scene.IsOutside around k.pose.position) := by
  constructor
  · intro move duration pose take hkind h
    obtain ⟨anchor, hanchor⟩ := Move.exists_countsFrom_iff hkind h
    refine ⟨anchor, hanchor, ?_⟩
    exact Move.isAdmissible_of_perform (fun a ha => (hanchor a).mp ha) h
  · intro henvelope plan initial i h hinitial
    refine (Plan.interpret_poses (J := fun p => scene.IsOutside around p.position) ?_ h
      hinitial).1
    intro move duration pose take hpose hperform
    exact Move.isOutside_of_perform henvelope hperform hpose

/-- A cube two units wide around the origin. -/
def Scene.cube : Scene α := ⟨some ⟨⟨-1, -1, -1⟩, ⟨1, 1, 1⟩, ⟨0, 0, 0⟩⟩, []⟩

/-- A point in front of the cube is outside. -/
lemma Scene.isOutside_cube : (cube : Scene ℝ).IsOutside .free ⟨0, 0, 5⟩ := by
  intro b hb
  obtain rfl := Option.some.inj hb
  simp [Box.containsStrictly, Axis.all, Box.lift, Box.translate, Vec.height, Vec.coord,
    Surroundings.free]

/-- A plan of one zoom towards the target. -/
def Plan.zoomIn : Plan α := ⟨[⟨.zoom { factor := some 0.1 }, 1⟩], 2.0⟩

/-- A zoom towards the center of the cube is interpreted. -/
lemma Plan.exists_interpret_zoomIn :
    ∃ i, (zoomIn : Plan ℝ).interpret .cube .free .standard ⟨⟨0, 0, 5⟩, ⟨0, 0, 0⟩⟩ = .ok i := by
  have hplan : (zoomIn : Plan ℝ).check = .ok () := by
    rw [check_eq_ok_iff]
    refine ⟨List.cons_ne_nil _ _, rfl, ?_⟩
    simp only [zoomIn]
    norm_num
  exact exists_interpret rfl Settings.check_standard hplan

/-- A zoom towards the center of a cube ends at an admissible place, and a plan of it never enters
the cube. -/
theorem admissible_throughout_zoom :
    (∃ take, (Move.zoom { factor := some 0.1 } : Move ℝ).perform
        ⟨.cube, .free, .standard, 2⟩ ⟨⟨0, 0, 5⟩, ⟨0, 0, 0⟩⟩ = .ok take ∧
      ∀ k ∈ take.keyframes, Scene.cube.isAdmissible .free k.pose.position ⟨0, 0, 0⟩ = true) ∧
    ∃ i, Plan.zoomIn.interpret .cube .free .standard ⟨⟨0, 0, 5⟩, ⟨0, 0, 0⟩⟩ = .ok i ∧
      ∀ k ∈ i.keyframes, (Scene.cube : Scene ℝ).IsOutside .free k.pose.position := by
  constructor
  · have hfactor : Scalar.isFinite (0.1 : ℝ) = true ∧ 0 < (0.1 : ℝ) := ⟨rfl, by norm_num⟩
    obtain ⟨take, h⟩ : ∃ take, (Move.zoom { factor := some 0.1 } : Move ℝ).perform
        ⟨.cube, .free, .standard, 2⟩ ⟨⟨0, 0, 5⟩, ⟨0, 0, 0⟩⟩ = .ok take := by
      simp only [Move.perform, Zoom.perform]
      split
      · exact ⟨_, rfl⟩
      · simp only [Zoom.factorFor, positive, if_pos hfactor]
        exact ⟨_, rfl⟩
    obtain ⟨anchor, hanchor, hall⟩ :=
      (admissible_throughout Scene.cube .free .standard).1 _ 2 _ take (by simp [Move.kind]) h
    obtain rfl : (⟨0, 0, 0⟩ : Vec ℝ) = anchor := (hanchor _).mp rfl
    exact ⟨take, h, hall ((Scene.isAdmissible_iff_isOutside rfl).mpr Scene.isOutside_cube)⟩
  · obtain ⟨i, h⟩ := Plan.exists_interpret_zoomIn
    exact ⟨i, h,
      (admissible_throughout Scene.cube .free .standard).2 rfl _ _ i h Scene.isOutside_cube⟩

end Cinematics
