import Cinematics.Proofs.Return

/-!
# What a move leaves as it is

Each move changes a part of the pose and no more.  Turns change where the camera looks and never
where it is; zooms and dollies go along the line of sight and keep the target; slides carry the
target along by the very vector that the camera goes by; an orbit looks at its center all the way;
and a relocation is at its end from the first keyframe on, cut or not.  `Move.Keeps` says this of a
take as a whole, and every performed move keeps what it says (`Move.keeps_perform`), whatever the
scalars are and on every branch: where a move degrades to holding a pose, it is the pose that it
started from, or for an orbit without a way to go, the one that looks at the center.

A plan keeps what all its moves keep: a plan of turns never moves the camera
(`Plan.position_of_turns`), and a plan of zooms and dollies never changes what it looks at
(`Plan.target_of_approaches`).
-/

namespace Cinematics

variable {α : Type}

/-! ### All through a take -/

/-- Whether all keyframes of a take, and its end, are in poses of some kind. -/
def Take.Throughout (take : Take α) (Q : Pose α → Prop) : Prop :=
  (∀ k ∈ take.keyframes, Q k.pose) ∧ Q take.pose

namespace Take.Throughout

variable {take : Take α} {Q : Pose α → Prop} {next : Pose α}

/-- A take of a single keyframe is in its pose throughout. -/
lemma single_iff {duration : α} {easing : Easing} :
    (Take.single next duration easing).Throughout Q ↔ Q next :=
  ⟨And.right, fun h => ⟨Take.single_poses Q h, h⟩⟩

/-- A note of a request in vain makes no difference to the poses. -/
lemma noting (h : take.Throughout Q) (u : Unsupported) : (take.noting u).Throughout Q :=
  h

end Take.Throughout

variable [Scalar α] {stage : Stage α} {pose : Pose α} {take : Take α}

/-- A cut is in the pose that it leads to throughout. -/
lemma Relocation.throughout_cut (next : Pose α) : (cut stage next).Throughout (· = next) :=
  ⟨cut_poses (· = next) rfl, rfl⟩

/-- An arc looks at its center throughout. -/
lemma Orbit.Arc.throughout_take (arc : Orbit.Arc α) (start : Vec α) (easing : Easing) :
    (arc.take stage start easing).Throughout (·.target = arc.center) := by
  refine ⟨fun k hk => ?_, rfl⟩
  have hpose : k.pose ∈ (arc.take stage start easing).keyframes.map (·.pose) :=
    List.mem_map_of_mem hk
  rw [map_pose_take] at hpose
  obtain ⟨p, -, hpose⟩ := List.mem_map.mp hpose
  exact hpose ▸ rfl

/-! ### What each move keeps -/

namespace Move

/-- What a move keeps all through a take from a pose. -/
def Keeps (move : Move α) (stage : Stage α) (pose : Pose α) (take : Take α) : Prop :=
  match move with
  | .hold _ => take.Throughout (· = pose)
  | .pan _ | .tilt _ | .rotate _ | .focusOn _ => take.Throughout (·.position = pose.position)
  | .zoom _ | .dolly _ => take.Throughout (·.target = pose.target)
  | .truck _ | .pedestal _ =>
    take.Throughout (· = pose) ∨
      take.Throughout fun next => next.target = pose.target + (next.position - pose.position)
  | .orbit request =>
    ∃ center, request.center stage pose = .ok center ∧
      (((pose.position - center).norm < stage.settings.epsilon ∧ take = stage.still pose) ∨
        take.Throughout (·.target = center))
  | .moveTo _ => take.Throughout (· = take.pose)

end Move

/-- A zoom keeps the target. -/
lemma Zoom.throughout_perform {zoom : Zoom α} (h : zoom.perform stage pose = .ok take) :
    take.Throughout (·.target = pose.target) := by
  obtain ⟨-, rfl⟩ | ⟨_, _, -, -, -, rfl⟩ := Zoom.perform_ok h
  · exact Take.Throughout.single_iff.mpr rfl
  · exact Take.Throughout.single_iff.mpr rfl

/-- A dolly keeps the target. -/
lemma Dolly.throughout_perform {dolly : Dolly α} (h : dolly.perform stage pose = .ok take) :
    take.Throughout (·.target = pose.target) := by
  obtain ⟨-, rfl⟩ | ⟨_, _, _, -, -, -, ⟨-, rfl⟩ | ⟨-, rfl⟩⟩ := Dolly.perform_ok h
  · exact Take.Throughout.single_iff.mpr rfl
  · exact Take.Throughout.single_iff.mpr rfl
  · exact Take.Throughout.single_iff.mpr rfl

/-- A turn about an axis keeps the position. -/
lemma Turn.throughout_about {turn : Turn α} {axis : Turn.ViewAxis}
    (h : turn.about axis stage pose = .ok take) :
    take.Throughout (·.position = pose.position) := by
  obtain ⟨_, _, -, -, ⟨-, rfl⟩ | ⟨_, -, ⟨-, rfl⟩ | ⟨-, rfl⟩⟩⟩ := Turn.about_ok h
  · exact Take.Throughout.single_iff.mpr rfl
  · exact Take.Throughout.single_iff.mpr rfl
  · exact Take.Throughout.single_iff.mpr rfl

/-- A tilt keeps the position. -/
lemma Turn.throughout_tilt {turn : Turn α} (h : turn.tilt stage pose = .ok take) :
    take.Throughout (·.position = pose.position) := by
  obtain ⟨_, _, -, -, rfl⟩ | ⟨-, habout⟩ := Turn.tilt_ok h
  · exact Take.Throughout.single_iff.mpr rfl
  · exact throughout_about habout

/-- A rotation keeps the position. -/
lemma Turn.throughout_rotate {turn : Turn α} (h : turn.rotate stage pose = .ok take) :
    take.Throughout (·.position = pose.position) := by
  obtain ⟨-, rfl⟩ | ⟨_, -, -, habout⟩ := Turn.rotate_ok h
  · have hstill : (stage.still pose).Throughout (·.position = pose.position) :=
      Take.Throughout.single_iff.mpr rfl
    exact hstill.noting .roll
  · exact throughout_about habout

/-- A refocus keeps the position. -/
lemma Refocus.throughout_perform {refocus : Refocus} (h : refocus.perform stage pose = .ok take) :
    take.Throughout (·.position = pose.position) := by
  obtain ⟨_, target, -, -, rfl⟩ := Refocus.perform_ok h
  have hreach : (stage.reach ⟨pose.position, target⟩ refocus.easing refocus.speed).Throughout
      (·.position = pose.position) := Take.Throughout.single_iff.mpr rfl
  split
  · exact hreach.noting .framing
  · exact hreach

/-- A slide along an axis keeps the pose, or the target goes with the position. -/
lemma Slide.throughout_along {slide : Slide α} {kind : MoveKind} {heading : Heading} {axis : Vec α}
    (h : slide.along stage pose kind heading axis = .ok take) :
    take.Throughout (· = pose) ∨
      take.Throughout fun next => next.target = pose.target + (next.position - pose.position) := by
  obtain ⟨_, _, -, -, ⟨-, rfl⟩ | ⟨-, rfl⟩⟩ := Slide.along_ok h
  · exact .inl (Take.Throughout.single_iff.mpr rfl)
  · exact .inr (Take.Throughout.single_iff.mpr rfl)

/-- **Each move changes its own part of the pose.**

For scalars of any kind, doubles included, let a move be carried out on any stage and from any pose.
All through the take, a hold keeps the pose; a pan, a tilt, a rotation and a refocus keep the
position; a zoom and a dolly keep the target; a slide keeps the pose or moves the target by the
difference of the positions; an orbit looks at its center, unless the camera is on the center and
holds the pose; and a relocation is in one pose. -/
theorem Move.keeps_perform {move : Move α} (h : move.perform stage pose = .ok take) :
    move.Keeps stage pose take := by
  unfold Keeps
  cases move with
  | hold request =>
    obtain rfl := Except.ok.inj h
    exact Take.Throughout.single_iff.mpr rfl
  | zoom request => exact Zoom.throughout_perform h
  | orbit request =>
    obtain ⟨center, _, _, _, hcenter, -, -, -, ⟨hnear, rfl⟩ | ⟨-, -, rfl⟩ | ⟨-, -, rfl⟩⟩ :=
      Orbit.perform_ok h
    · exact ⟨center, hcenter, .inl ⟨hnear, rfl⟩⟩
    · exact ⟨center, hcenter, .inr (Take.Throughout.single_iff.mpr rfl)⟩
    · exact ⟨center, hcenter, .inr (Orbit.Arc.throughout_take _ _ _)⟩
  | pan request => exact Turn.throughout_about h
  | tilt request => exact Turn.throughout_tilt h
  | dolly request => exact Dolly.throughout_perform h
  | truck request =>
    obtain ⟨-, rfl⟩ | ⟨_, -, halong⟩ := Slide.truck_ok h
    · exact .inl (Take.Throughout.single_iff.mpr rfl)
    · exact Slide.throughout_along halong
  | pedestal request => exact Slide.throughout_along (Slide.pedestal_ok h)
  | moveTo request =>
    obtain ⟨_, _, _, _, -, -, -, -, _, -, -, ⟨-, rfl⟩ | ⟨-, rfl⟩⟩ := Relocation.perform_ok h
    · exact Relocation.throughout_cut _
    · exact Take.Throughout.single_iff.mpr rfl
  | focusOn request => exact Refocus.throughout_perform h
  | rotate request => exact Turn.throughout_rotate h

/-- A request to cut to a door. -/
def Relocation.toDoor : Relocation := { target := some "door", speed := some "instant" }

/-- A stage with a door. -/
noncomputable def Stage.withDoor : Stage ℝ :=
  ⟨⟨none, [⟨"door", "", ⟨3.0, 0, 4.0⟩⟩]⟩, .free, .standard, 1⟩

/-- A camera that cuts to a door is there in both of its keyframes. -/
theorem Move.keeps_perform_toDoor :
    ∃ take, (Move.moveTo .toDoor).perform .withDoor .ahead = .ok take ∧
      take.keyframes.length = 2 ∧ take.Throughout (· = ⟨⟨3.0, 0, 4.0⟩, ⟨0, 0, 0⟩⟩) := by
  have hlocate : Stage.withDoor.locate .ahead "door" = .ok ⟨3.0, 0, 4.0⟩ := rfl
  have hplace : Stage.withDoor.place Pose.ahead.position ⟨3.0, 0, 4.0⟩ Pose.ahead.target =
      ⟨3.0, 0, 4.0⟩ := Stage.withDoor.place_open rfl rfl _ _ _
  have haway : ¬ (Pose.ahead.target - ⟨3.0, 0, 4.0⟩ : Vec ℝ).norm <
      Stage.withDoor.settings.epsilon := by
    have hlength : (Pose.ahead.target - ⟨3.0, 0, 4.0⟩ : Vec ℝ).norm = 5 := by
      refine Vec.norm_eq_of_dot_eq_mul_self (by norm_num) ?_
      norm_num [Pose.ahead, Vec.dot]
    rw [hlength]
    norm_num [Stage.withDoor, Settings.standard]
  have hperform : (Move.moveTo .toDoor).perform .withDoor .ahead =
      .ok (Relocation.cut .withDoor ⟨⟨3.0, 0, 4.0⟩, ⟨0, 0, 0⟩⟩) := by
    simp only [perform, Relocation.perform]
    refine bind_eq_ok_iff.mpr ⟨"door", rfl, bind_eq_ok_iff.mpr ⟨_, hlocate, ?_⟩⟩
    refine bind_eq_ok_iff.mpr ⟨_, rfl, bind_eq_ok_iff.mpr ⟨none, rfl, ?_⟩⟩
    simp only [Relocation.candidate, hplace, if_neg haway]
    rfl
  refine ⟨_, hperform, ?_, keeps_perform hperform⟩
  have hrest : Stage.withDoor.settings.durationTolerance <
      Stage.withDoor.duration -
        Scalar.min Stage.withDoor.settings.cutDuration Stage.withDoor.duration := by
    norm_num [Stage.withDoor, Settings.standard]
  simp only [Relocation.cut, if_pos hrest]
  rfl

/-! ### Plans whose moves keep a part of the pose -/

namespace Plan

variable {scene : Scene α} {around : Surroundings α} {settings : Settings α} {plan : Plan α}
  {initial : Pose α}

/-- The move of an entry is that of a step. -/
lemma exists_step_of_mem_entries {e : Entry α}
    (he : e ∈ plan.entries scene around settings initial) : ∃ s ∈ plan.steps, e.move = s.move := by
  obtain ⟨n, hn⟩ := List.mem_iff_getElem?.mp he
  obtain ⟨step, duration, hstep, hmove, -, -⟩ := getElem?_ledger hn
  exact ⟨step, (List.of_mem_zip (List.mem_of_getElem? hstep)).1, hmove⟩

variable [Spelled α] {i : Interpretation α}

/-- What all moves of a plan keep holds of all keyframes of its interpretation, and of its final
pose, if it holds of the initial one. -/
lemma interpret_poses_of_moves {J : Pose α → Prop} {Q : Move α → Prop}
    (hstep : ∀ (move : Move α) duration pose take, J pose → Q move →
      move.perform ⟨scene, around, settings, duration⟩ pose = .ok take →
        ∀ k ∈ take.keyframes, J k.pose)
    (h : plan.interpret scene around settings initial = .ok i)
    (hmoves : ∀ s ∈ plan.steps, Q s.move) (hinitial : J initial) :
    (∀ k ∈ i.keyframes, J k.pose) ∧ J i.finalPose := by
  refine interpret_poses_of (Q := fun move _ => Q move) hstep h (fun e he => ?_) hinitial
  obtain ⟨s, hs, hmove⟩ := exists_step_of_mem_entries he
  exact hmove ▸ hmoves s hs

/-- **A plan of turns never moves the camera.** -/
theorem position_of_turns (h : plan.interpret scene around settings initial = .ok i)
    (hmoves : ∀ s ∈ plan.steps,
      s.move.kind ∈ [MoveKind.hold, .pan, .tilt, .rotate, .focusOn]) :
    (∀ k ∈ i.keyframes, k.pose.position = initial.position) ∧
      i.finalPose.position = initial.position := by
  refine interpret_poses_of_moves (J := (·.position = initial.position))
    (Q := fun move => move.kind ∈ [MoveKind.hold, .pan, .tilt, .rotate, .focusOn])
    (fun move duration pose take hpose hkind hperform => ?_) h hmoves rfl
  rw [← hpose]
  cases move with
  | hold request =>
    obtain rfl := Except.ok.inj hperform
    exact Take.single_poses (·.position = pose.position) rfl
  | pan request => exact (Turn.throughout_about hperform).1
  | tilt request => exact (Turn.throughout_tilt hperform).1
  | rotate request => exact (Turn.throughout_rotate hperform).1
  | focusOn request => exact (Refocus.throughout_perform hperform).1
  | _ => simp [Move.kind] at hkind

/-- **A plan of zooms and dollies never changes what the camera looks at.** -/
theorem target_of_approaches (h : plan.interpret scene around settings initial = .ok i)
    (hmoves : ∀ s ∈ plan.steps, s.move.kind ∈ [MoveKind.hold, .zoom, .dolly]) :
    (∀ k ∈ i.keyframes, k.pose.target = initial.target) ∧ i.finalPose.target = initial.target := by
  refine interpret_poses_of_moves (J := (·.target = initial.target))
    (Q := fun move => move.kind ∈ [MoveKind.hold, .zoom, .dolly])
    (fun move duration pose take hpose hkind hperform => ?_) h hmoves rfl
  rw [← hpose]
  cases move with
  | hold request =>
    obtain rfl := Except.ok.inj hperform
    exact Take.single_poses (·.target = pose.target) rfl
  | zoom request => exact (Zoom.throughout_perform hperform).1
  | dolly request => exact (Dolly.throughout_perform hperform).1
  | _ => simp [Move.kind] at hkind

end Plan

end Cinematics
