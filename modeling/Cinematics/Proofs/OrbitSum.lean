import Cinematics.Proofs.FreeArc
import Cinematics.Proofs.Timing

/-!
# Orbits add up

Turns about one axis add up, and in the open so do orbits about one coordinate axis: a plan of such
orbits ends where one orbit by the sum of the angles does (`Plan.finalPose_of_turns`).

An orbit without a name for its center, or with the name of the current target, finds its center out
anew.  What a later orbit finds out is what an earlier one has left the camera looking at, so that
the center stays the same all the same (`Scene.centerOf_centerOf`).  An orbit may also come to
nothing: its center may be unknown, or the camera may be on it.  Then every other orbit about the
center comes to nothing as well, whatever the angle, since a turn leaves the radius as long as it
was.  `Scene.turned` puts these cases together, and orbits add up in all of them.
-/

namespace Cinematics

/-! ### Turns about one axis -/

namespace Vec

variable {u v axis : Vec ℝ} {a b : ℝ}

/-- Turns about one direction add up. -/
lemma turn_turn (hu : u.dot u = 1) : (v.turn u a).turn u b = v.turn u (a + b) := by
  simp only [dot] at hu
  simp only [turn, Real.cos_add, Real.sin_add]
  ext
  · simp only [dot, cross, add_x, add_y, add_z, mul_x, mul_y, mul_z]
    linear_combination (u.x * (u.x * v.x + u.y * v.y + u.z * v.z) * (1 - Real.cos a) *
      (1 - Real.cos b) - v.x * Real.sin a * Real.sin b) * hu
  · simp only [dot, cross, add_x, add_y, add_z, mul_x, mul_y, mul_z]
    linear_combination (u.y * (u.x * v.x + u.y * v.y + u.z * v.z) * (1 - Real.cos a) *
      (1 - Real.cos b) - v.y * Real.sin a * Real.sin b) * hu
  · simp only [dot, cross, add_x, add_y, add_z, mul_x, mul_y, mul_z]
    linear_combination (u.z * (u.x * v.x + u.y * v.y + u.z * v.z) * (1 - Real.cos a) *
      (1 - Real.cos b) - v.z * Real.sin a * Real.sin b) * hu

/-- Turns about one axis add up. -/
lemma turnAbout_turnAbout : (v.turnAbout axis a).turnAbout axis b = v.turnAbout axis (a + b) := by
  simp only [turnAbout]
  split
  · rfl
  · rename_i haxis
    exact turn_turn (dot_normalize haxis)

/-- Whole turns lead nowhere. -/
lemma turnAbout_wholeTurns (n : ℤ) : v.turnAbout axis (n * (2 * Real.pi)) = v := by
  have hturn : ∀ u : Vec ℝ, v.turn u (0 + n * (2 * Real.pi)) = v.turn u 0 := by
    intro u
    rw [turn, turn, Real.cos_add_int_mul_two_pi, Real.sin_add_int_mul_two_pi]
  rw [← zero_add (n * (2 * Real.pi)), turnAbout, hturn]
  exact turnAbout_zero

end Vec

namespace Pose

/-- The pose of a camera that was carried around a center by an angle in degrees, and looks at the
center. -/
noncomputable def carried (pose : Pose ℝ) (center axis : Vec ℝ) (degrees : ℝ) : Pose ℝ :=
  ⟨center + (pose.position - center).turnAbout axis (Scalar.radians degrees), center⟩

variable {pose : Pose ℝ} {center axis : Vec ℝ} {a b : ℝ}

/-- The way from the center is turned. -/
lemma carried_sub_center : (pose.carried center axis a).position - center =
    (pose.position - center).turnAbout axis (Scalar.radians a) :=
  Vec.add_sub_cancel_left_real _ _

/-- To be carried twice is to be carried by the sum. -/
lemma carried_carried :
    (pose.carried center axis a).carried center axis b = pose.carried center axis (a + b) := by
  have hsum : Scalar.radians a + Scalar.radians b = Scalar.radians (a + b) := by
    rw [Scalar.radians_real, Scalar.radians_real, Scalar.radians_real, add_mul]
  rw [carried, carried_sub_center, Vec.turnAbout_turnAbout, hsum, carried]

/-- Whole turns carry a camera back to where it was. -/
lemma position_carried_wholeTurns (n : ℤ) :
    (pose.carried center axis (n * 360)).position = pose.position := by
  have hangle : Scalar.radians ((n : ℝ) * 360) = n * (2 * Real.pi) := by
    rw [Scalar.radians_real]
    ring
  rw [carried, hangle, Vec.turnAbout_wholeTurns]
  ext
  · exact add_sub_cancel _ _
  · exact add_sub_cancel _ _
  · exact add_sub_cancel _ _

/-- A camera that is carried by no angle stays and looks at the center. -/
lemma carried_zero : pose.carried center axis 0 = ⟨pose.position, center⟩ := by
  have hposition : (pose.carried center axis ((0 : ℤ) * 360)).position = pose.position :=
    position_carried_wholeTurns 0
  rw [Int.cast_zero, zero_mul] at hposition
  exact Pose.ext hposition rfl

end Pose

/-! ### The center of an orbit -/

section Center

variable {α : Type} [Scalar α] {scene : Scene α} {around : Surroundings α} {name : Option String}

/-- A name stands for the point that the camera looks at, whichever that is, or what it stands for
does not depend on this point. -/
lemma Scene.locate_cases (scene : Scene α) (around : Surroundings α) (name : String) :
    (∀ current, scene.locate around current name = some current) ∨
      ∃ place, ∀ current, scene.locate around current name = place := by
  by_cases hempty : (Text.slug name.toList).isEmpty = true
  · exact .inr ⟨none, fun current => if_pos hempty⟩
  · by_cases hcurrent : Text.slug name.toList = currentTarget.toList
    · exact .inl fun current => (if_neg hempty).trans (if_pos hcurrent)
    · exact .inr ⟨_, fun current => (if_neg hempty).trans (if_neg hcurrent)⟩

/-- The center of an orbit with a name for it, or without one, by what the camera looks at. -/
def Scene.centerOf (scene : Scene α) (around : Surroundings α) (name : Option String)
    (current : Vec α) : Option (Vec α) :=
  match name with
  | some name => scene.locate around current name
  | none => some ((scene.locate around current "object_center").getD current)

/-- A camera that looks at the center of an orbit has the same center for the next one. -/
lemma Scene.centerOf_centerOf {current center : Vec α}
    (h : scene.centerOf around name current = some center) :
    scene.centerOf around name center = some center := by
  cases name with
  | some name =>
    rcases scene.locate_cases around name with hcurrent | ⟨place, hplace⟩
    · exact hcurrent center
    · exact (hplace center).trans ((hplace current).symm.trans h)
  | none =>
    simp only [centerOf, Option.some.injEq] at h ⊢
    rcases scene.locate_cases around "object_center" with hcurrent | ⟨place, hplace⟩
    · rw [hcurrent, Option.getD_some]
    · rw [hplace] at h ⊢
      cases place with
      | some place => exact h
      | none => rfl

variable {orbit : Orbit α} {stage : Stage α} {pose : Pose α}

/-- An orbit finds out its center, or is at fault without one. -/
lemma Orbit.center_cases (orbit : Orbit α) (stage : Stage α) (pose : Pose α) :
    (∃ center, stage.scene.centerOf stage.around orbit.target pose.target = some center ∧
      orbit.center stage pose = .ok center) ∨
    stage.scene.centerOf stage.around orbit.target pose.target = none ∧
      ∃ fault, orbit.center stage pose = .error fault := by
  simp only [Scene.centerOf, center]
  cases orbit.target with
  | none => exact .inl ⟨_, rfl, rfl⟩
  | some name =>
    simp only [Stage.locate]
    cases stage.scene.locate stage.around pose.target name with
    | some place => exact .inl ⟨place, rfl, rfl⟩
    | none => exact .inr ⟨rfl, _, rfl⟩

end Center

/-! ### Where an orbit ends -/

namespace Scene

/-- Where an orbit by an angle about a coordinate axis ends in the open.  It leads nowhere if its
center is unknown, or nearer to the camera than the length below which a vector has no direction. -/
noncomputable def turned (scene : Scene ℝ) (around : Surroundings ℝ) (eps : ℝ)
    (name : Option String) (axis : Axis) (degrees : ℝ) (pose : Pose ℝ) : Pose ℝ :=
  match scene.centerOf around name pose.target with
  | some center =>
    if (pose.position - center).norm < eps then pose else pose.carried center (.unit axis) degrees
  | none => pose

variable {scene : Scene ℝ} {around : Surroundings ℝ} {eps : ℝ} {name : Option String} {axis : Axis}
  {pose : Pose ℝ}

/-- Either all orbits about a center lead nowhere, or all carry the camera around it. -/
lemma turned_cases (scene : Scene ℝ) (around : Surroundings ℝ) (eps : ℝ) (name : Option String)
    (axis : Axis) (pose : Pose ℝ) :
    (∀ degrees, scene.turned around eps name axis degrees pose = pose) ∨
    ∃ center, scene.centerOf around name pose.target = some center ∧
      ¬ (pose.position - center).norm < eps ∧
      ∀ degrees, scene.turned around eps name axis degrees pose =
        pose.carried center (.unit axis) degrees := by
  simp only [turned]
  cases scene.centerOf around name pose.target with
  | none => exact .inl fun _ => rfl
  | some center =>
    by_cases hnear : (pose.position - center).norm < eps
    · exact .inl fun _ => if_pos hnear
    · exact .inr ⟨center, rfl, hnear, fun _ => if_neg hnear⟩

/-- **Orbits about one center add up**, those that lead nowhere among them. -/
lemma turned_turned (a b : ℝ) :
    scene.turned around eps name axis b (scene.turned around eps name axis a pose) =
      scene.turned around eps name axis (a + b) pose := by
  rcases scene.turned_cases around eps name axis pose with hstays | ⟨center, hcenter, hfar, hgoes⟩
  · rw [hstays, hstays, hstays]
  · -- the radius is as long as before, and the camera looks at the center
    have hradius : ¬ ((pose.carried center (.unit axis) a).position - center).norm < eps := by
      rwa [Pose.carried_sub_center, Vec.norm_turnAbout]
    have hsame : scene.centerOf around name (pose.carried center (.unit axis) a).target =
        some center := centerOf_centerOf hcenter
    rw [hgoes, hgoes, turned, hsame, ← Pose.carried_carried]
    exact if_neg hradius

/-- An orbit by whole turns ends where it began. -/
lemma position_turned_wholeTurns (n : ℤ) :
    (scene.turned around eps name axis (n * 360) pose).position = pose.position := by
  rcases scene.turned_cases around eps name axis pose with hstays | ⟨center, -, -, hgoes⟩
  · rw [hstays]
  · rw [hgoes, Pose.position_carried_wholeTurns]

end Scene

/-- Over the reals nothing that a move gives is unsound. -/
lemma Move.attempt_eq_perform {stage : Stage ℝ} (hsettings : stage.settings.check = .ok ())
    (htime : Scalar.IsTime stage.duration) (move : Move ℝ) (pose : Pose ℝ) :
    move.attempt stage pose = move.perform stage pose := by
  cases hperform : move.perform stage pose with
  | error fault =>
    rw [attempt, hperform]
    rfl
  | ok take =>
    obtain ⟨s, -, rfl⟩ := perform_eq_take hperform
    exact attempt_eq_ok_iff.mpr
      ⟨hperform, (s.isSound_take_iff stage hsettings htime).mpr fun _ _ => rfl⟩

/-- Whether settings have room for an angle: it is within the limit, and nothing or not too
small. -/
def Settings.Permits (settings : Settings ℝ) (degrees : ℝ) : Prop :=
  |degrees| ≤ settings.orbitLimit ∧ (degrees = 0 ∨ settings.epsilon ≤ |degrees|)

namespace Orbit

/-- An orbit by a number of degrees about a coordinate axis, which keeps its radius. -/
structure IsTurn (orbit : Orbit ℝ) (name : Option String) (axis : Axis) (degrees : ℝ) : Prop where
  /-- The sign of the angle is its own. -/
  direction_eq : orbit.direction = none
  /-- The angle is given. -/
  angle_eq : orbit.angle = some degrees
  /-- No other radius is asked for. -/
  radiusFactor_eq : orbit.radiusFactor = none
  /-- The center has the name, or none. -/
  target_eq : orbit.target = name
  /-- The word for the axis, or its absence, means the axis. -/
  axis_eq : (aroundFor orbit.axis : Outcome ℝ Around) = .ok (.world axis)

variable {orbit : Orbit ℝ} {stage : Stage ℝ} {name : Option String} {axis : Axis} {degrees : ℝ}

/-- The angle of a turn within the limit is its own. -/
lemma IsTurn.angleFor_eq (h : orbit.IsTurn name axis degrees)
    (hlimit : |degrees| ≤ stage.settings.orbitLimit) : orbit.angleFor stage = .ok degrees :=
  angleFor_of_angle h.direction_eq h.angle_eq hlimit

/-- A turn keeps its radius. -/
lemma IsTurn.radiusFactor_getD (h : orbit.IsTurn name axis degrees) :
    (positive "radius_factor" (orbit.radiusFactor.getD 1) : Outcome ℝ ℝ) = .ok 1 := by
  rw [h.radiusFactor_eq]
  exact if_pos ⟨rfl, one_pos⟩

/-- In the open a turn about a center that is far enough away carries the camera around it. -/
lemma IsTurn.exists_perform (h : orbit.IsTurn name axis degrees)
    (hsettings : stage.settings.check = .ok ()) (henvelope : stage.around.envelope = none)
    (hbounds : stage.scene.bounds = none) (hdegrees : stage.settings.Permits degrees)
    {pose : Pose ℝ} {center : Vec ℝ} (hcenter : orbit.center stage pose = .ok center)
    (hfar : ¬ (pose.position - center).norm < stage.settings.epsilon) :
    ∃ take, orbit.perform stage pose = .ok take ∧
      take.pose = pose.carried center (.unit axis) degrees := by
  have hangle := h.angleFor_eq hdegrees.1
  rcases hdegrees.2 with rfl | hlarge
  · -- without an angle the camera looks at the center, and that is all
    have hepsilon := Settings.epsilon_pos hsettings
    have hnothing : Scalar.abs (0 : ℝ) < stage.settings.epsilon ∧
        Scalar.abs (1 - 1 : ℝ) < stage.settings.epsilon := by
      rw [sub_self, Scalar.abs_real, abs_zero]
      exact ⟨hepsilon, hepsilon⟩
    refine ⟨stage.still ⟨pose.position, center⟩, ?_, Pose.carried_zero.symm⟩
    simp only [perform_eq, hcenter, hangle, h.radiusFactor_getD, h.axis_eq]
    exact (if_neg hfar).trans (if_pos hnothing)
  · set arc : Arc ℝ :=
      { center, radius := pose.position - center, degrees, radiusFactor := 1
        axis := .unit axis, segments := segmentsFor stage.settings degrees } with harc
    have hgoes : orbit.GoesAlong stage pose arc :=
      ⟨.world axis, hcenter, hangle, h.radiusFactor_getD, h.axis_eq, rfl, rfl, rfl, hfar,
        fun hsmall => hsmall.1.not_ge hlarge⟩
    have hend : (arc.take stage pose.position (stage.easing orbit.easing orbit.speed)).pose =
        ⟨arc.along 1, center⟩ :=
      (Arc.take_open henvelope hbounds (.inr (Vec.norm_unit axis)) (segmentsFor_pos _ _) _ _).2
    have halong : arc.along 1 = (pose.carried center (.unit axis) degrees).position := by
      rw [Arc.along, mul_one, sub_self, zero_mul, add_zero]
      ext
      all_goals simp [Pose.carried, harc]
    exact ⟨_, perform_of_goesAlong hgoes, hend.trans (Pose.ext halong rfl)⟩

/-- In the open a turn ends where `Scene.turned` says, also when it leads nowhere. -/
lemma IsTurn.finish_attempt (h : orbit.IsTurn name axis degrees)
    (hsettings : stage.settings.check = .ok ()) (henvelope : stage.around.envelope = none)
    (hbounds : stage.scene.bounds = none) (hdegrees : stage.settings.Permits degrees)
    (htime : Scalar.IsTime stage.duration) (pose : Pose ℝ) :
    Entry.finish ⟨.orbit orbit, pose, (Move.orbit orbit).attempt stage pose⟩ =
      stage.scene.turned stage.around stage.settings.epsilon name axis degrees pose := by
  rw [Move.attempt_eq_perform hsettings htime]
  change Entry.finish ⟨.orbit orbit, pose, orbit.perform stage pose⟩ = _
  rcases orbit.center_cases stage pose with ⟨center, hsome, hcenter⟩ | ⟨hnone, fault, hfault⟩
  · rw [h.target_eq] at hsome
    rw [Scene.turned, hsome]
    by_cases hnear : (pose.position - center).norm < stage.settings.epsilon
    · have hstill : orbit.perform stage pose = .ok (stage.still pose) := by
        simp only [perform_eq, hcenter, h.angleFor_eq hdegrees.1, h.radiusFactor_getD, h.axis_eq]
        exact if_pos hnear
      rw [hstill]
      exact (if_pos hnear).symm
    · obtain ⟨take, htake, hend⟩ :=
        h.exists_perform hsettings henvelope hbounds hdegrees hcenter hnear
      rw [htake]
      exact hend.trans (if_neg hnear).symm
  · rw [h.target_eq] at hnone
    have hskipped : orbit.perform stage pose = .error fault := by
      simp only [perform_eq, hfault]
      rfl
    rw [hskipped, Scene.turned, hnone]
    rfl

end Orbit

/-! ### Plans of orbits -/

/-- An orbit by a number of degrees about a coordinate axis, for which settings have room. -/
def Move.IsTurn (move : Move ℝ) (settings : Settings ℝ) (name : Option String) (axis : Axis)
    (degrees : ℝ) : Prop :=
  ∃ orbit, move = .orbit orbit ∧ orbit.IsTurn name axis degrees ∧ settings.Permits degrees

namespace Plan

variable {scene : Scene ℝ} {around : Surroundings ℝ} {settings : Settings ℝ} {name : Option String}
  {axis : Axis}

/-- A ledger that begins with a turn goes on from where the turn ends. -/
lemma poseAfter_cons_turn (hsettings : settings.check = .ok ())
    (henvelope : around.envelope = none) (hbounds : scene.bounds = none) {timed : Step ℝ × ℝ}
    {degrees : ℝ} (hturn : timed.1.move.IsTurn settings name axis degrees)
    (htime : Scalar.IsTime timed.2) (rest : List (Step ℝ × ℝ)) (pose : Pose ℝ) :
    poseAfter pose (ledger scene around settings (timed :: rest) pose) =
      poseAfter (scene.turned around settings.epsilon name axis degrees pose)
        (ledger scene around settings rest
          (scene.turned around settings.epsilon name axis degrees pose)) := by
  obtain ⟨⟨move, ratio⟩, duration⟩ := timed
  obtain ⟨orbit, rfl, hturn, hpermits⟩ := hturn
  have hfinish : Entry.finish ⟨.orbit orbit, pose,
      (Move.orbit orbit).attempt ⟨scene, around, settings, duration⟩ pose⟩ =
        scene.turned around settings.epsilon name axis degrees pose :=
    hturn.finish_attempt hsettings henvelope hbounds hpermits htime pose
  rw [ledger, poseAfter, List.foldl_cons, hfinish]
  rfl

/-- Turns that follow a turn add to it.  The induction is on the steps; each starts from where one
turn by the sum of the angles so far ends. -/
lemma poseAfter_turns (hsettings : settings.check = .ok ()) (henvelope : around.envelope = none)
    (hbounds : scene.bounds = none) {steps : List (Step ℝ × ℝ)} {angles : List ℝ}
    (hsteps : List.Forall₂ (fun timed => Move.IsTurn timed.1.move settings name axis) steps angles)
    (htime : ∀ timed ∈ steps, Scalar.IsTime timed.2) (a : ℝ) (pose : Pose ℝ) :
    poseAfter (scene.turned around settings.epsilon name axis a pose)
        (ledger scene around settings steps
          (scene.turned around settings.epsilon name axis a pose)) =
      scene.turned around settings.epsilon name axis (a + angles.sum) pose := by
  induction hsteps generalizing a with
  | nil =>
    rw [List.sum_nil, add_zero]
    rfl
  | @cons timed b rest angles hfirst hrest ih =>
    obtain ⟨hduration, htime⟩ := List.forall_mem_cons.mp htime
    rw [poseAfter_cons_turn hsettings henvelope hbounds hfirst hduration, Scene.turned_turned,
      List.sum_cons, ← add_assoc]
    exact ih htime (a + b)

/-- **A plan of orbits is one orbit.**  In the open, orbits about one center and one coordinate axis
end where `Scene.turned` leads by the sum of their angles. -/
theorem finalPose_of_turns (hsettings : settings.check = .ok ())
    (henvelope : around.envelope = none) (hbounds : scene.bounds = none) {plan : Plan ℝ}
    (hplan : plan.check = .ok ()) {angles : List ℝ}
    (hmoves : List.Forall₂ (fun move => Move.IsTurn move settings name axis) plan.moves angles)
    (initial : Pose ℝ) :
    ∃ i, plan.interpret scene around settings initial = .ok i ∧
      i.finalPose = scene.turned around settings.epsilon name axis angles.sum initial := by
  refine ⟨_, interpret_of_check rfl hsettings hplan, ?_⟩
  have hsome : plan.moves ≠ [] := fun hnone =>
    (check_eq_ok_iff.mp hplan).1 (List.map_eq_nil_iff.mp hnone)
  have htime := isTime_of_mem_zip hsettings hplan
  rw [← plan.map_move_zip_durations settings] at hmoves hsome
  have hsteps := List.forall₂_map_left_iff.mp hmoves
  simp only [entries]
  generalize plan.steps.zip (plan.durations settings) = steps at hsome htime hsteps
  cases hsteps with
  | nil => exact absurd rfl hsome
  | @cons timed a rest angles hfirst hrest =>
    obtain ⟨hduration, htime⟩ := List.forall_mem_cons.mp htime
    rw [poseAfter_cons_turn hsettings henvelope hbounds hfirst hduration, List.sum_cons]
    exact poseAfter_turns hsettings henvelope hbounds hrest htime a initial

variable {a b : ℝ} {first second sum : Orbit ℝ} {plan whole : Plan ℝ}

/-- **Two orbits are one orbit by the sum of their angles.**

Over the reals, without an envelope and without a box, let a plan be made of two orbits, by given
numbers of degrees, about the same center and the same coordinate axis, and another one of a single
orbit by the sum.  The center may have a name or none, and the name may be unknown; the directions
and factors on the radius are left out, all else is up to the plans.  If the settings have room for
the three angles, both plans are carried out and end in the same pose: where the camera was, if the
center is unknown or the camera is on it, and else carried around the center by the sum.  When the
sum is a number of whole turns, they end at the position where they began.  So does an orbit that is
followed by the opposite one, which makes no turn, and an orbit by 360 degrees, which makes one. -/
theorem interpret_orbits_add (hsettings : settings.check = .ok ())
    (henvelope : around.envelope = none) (hbounds : scene.bounds = none)
    (hfirst : first.IsTurn name axis a) (hsecond : second.IsTurn name axis b)
    (hsum : sum.IsTurn name axis (a + b)) (ha : settings.Permits a) (hb : settings.Permits b)
    (hab : settings.Permits (a + b)) (hplan : plan.check = .ok ())
    (hmoves : plan.moves = [.orbit first, .orbit second]) (hwhole : whole.check = .ok ())
    (hmove : whole.moves = [.orbit sum]) (initial : Pose ℝ) :
    ∃ i j, plan.interpret scene around settings initial = .ok i ∧
      whole.interpret scene around settings initial = .ok j ∧
      i.finalPose = j.finalPose ∧
      j.finalPose = scene.turned around settings.epsilon name axis (a + b) initial ∧
      ∀ n : ℤ, a + b = n * 360 →
        i.finalPose.position = initial.position ∧ j.finalPose.position = initial.position := by
  have htwo : List.Forall₂ (fun move => Move.IsTurn move settings name axis) plan.moves [a, b] :=
    hmoves ▸ .cons ⟨first, rfl, hfirst, ha⟩ (.cons ⟨second, rfl, hsecond, hb⟩ .nil)
  have hone : List.Forall₂ (fun move => Move.IsTurn move settings name axis) whole.moves [a + b] :=
    hmove ▸ .cons ⟨sum, rfl, hsum, hab⟩ .nil
  obtain ⟨i, hi, hiend⟩ := finalPose_of_turns hsettings henvelope hbounds hplan htwo initial
  obtain ⟨j, hj, hjend⟩ := finalPose_of_turns hsettings henvelope hbounds hwhole hone initial
  rw [List.sum_pair] at hiend
  rw [List.sum_singleton] at hjend
  refine ⟨i, j, hi, hj, hiend.trans hjend.symm, hjend, fun n hturns => ?_⟩
  rw [hiend, hjend, hturns]
  exact ⟨Scene.position_turned_wholeTurns n, Scene.position_turned_wholeTurns n⟩

end Plan

/-- A request to go around what the camera looks at. -/
def Orbit.by {α : Type} (degrees : α) : Orbit α := { angle := some degrees }

namespace Plan

/-- A plan to go around in two parts. -/
def parts {α : Type} [Scalar α] : Plan α where
  steps := [⟨.orbit (.by 270.0), 3.0⟩, ⟨.orbit (.by 90.0), 1⟩]
  duration := 4.0

/-- A plan to go around at once. -/
def circle {α : Type} [Scalar α] : Plan α where
  steps := [⟨.orbit (.by 360.0), 1⟩]
  duration := 2.0

/-- Three quarters of a turn and one more are a whole one, which ends where it began. -/
theorem interpret_orbits_add_circle :
    ∃ i j, (parts : Plan ℝ).interpret .empty .free .standard .ahead = .ok i ∧
      (circle : Plan ℝ).interpret .empty .free .standard .ahead = .ok j ∧
      i.finalPose = j.finalPose ∧ j.finalPose.position = Pose.ahead.position := by
  have hfree : (Surroundings.free : Surroundings ℝ).envelope = none := rfl
  have hempty : (Scene.empty : Scene ℝ).bounds = none := rfl
  have hparts : (parts : Plan ℝ).check = .ok () :=
    check_of_pos (List.cons_ne_nil _ _) (by simp only [parts]; norm_num)
  have hcircle : (circle : Plan ℝ).check = .ok () :=
    check_of_pos (List.cons_ne_nil _ _) (by simp only [circle]; norm_num)
  have hsum : (360.0 : ℝ) = 270.0 + 90.0 := by norm_num
  have hwhole : (270.0 + 90.0 : ℝ) = (1 : ℤ) * 360 := by norm_num
  have hturn : ∀ degrees : ℝ, (Orbit.by degrees).IsTurn none .y degrees :=
    fun _ => ⟨rfl, rfl, rfl, rfl, rfl⟩
  have hpermits : ∀ degrees : ℝ, 1 ≤ degrees → degrees ≤ 3600 →
      (Settings.standard : Settings ℝ).Permits degrees := by
    intro degrees hlow hhigh
    have heps : (Settings.standard : Settings ℝ).epsilon ≤ 1 := by norm_num [Settings.standard]
    have hlimit : (3600 : ℝ) ≤ (Settings.standard : Settings ℝ).orbitLimit := by
      norm_num [Settings.standard]
    rw [Settings.Permits, abs_of_nonneg (zero_le_one.trans hlow)]
    exact ⟨hhigh.trans hlimit, .inr (heps.trans hlow)⟩
  obtain ⟨i, j, hi, hj, hsame, -, hback⟩ :=
    interpret_orbits_add Settings.check_standard hfree hempty (hturn 270.0) (hturn 90.0)
      (hsum ▸ hturn 360.0) (hpermits _ (by norm_num) (by norm_num))
      (hpermits _ (by norm_num) (by norm_num)) (hpermits _ (by norm_num) (by norm_num))
      hparts rfl hcircle rfl .ahead
  exact ⟨i, j, hi, hj, hsame, (hback 1 hwhole).2⟩

end Plan

end Cinematics
