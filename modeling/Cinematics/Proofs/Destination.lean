import Mathlib.Tactic.LinearCombination
import Cinematics.Proofs.Return

/-!
# Coming level with a destination

A dolly, a truck or a pedestal that is given a destination and no amount goes along its axis for as
long as the way to the destination is along this axis.  The axis has length one, also where the
right of a vertical view has to be made up (`Frame.dot_rightOf_self`), so this brings the camera
into the plane through the destination at a right angle to the axis (`Vec.dot_sub_along`).  A dolly
stops at its stand-off, and what it falls short of is what was cut off (`Move.sub_travel`).

What the envelope and the box make of the way is not the concern of this module: the main result,
`Move.comesLevel_perform`, is about moves that are let pass.
-/

namespace Cinematics

/-! ### Along an axis of length one -/

/-- Going along an axis of length one takes as much off the way that is left along the axis. -/
lemma Vec.dot_sub_along {u : Vec ℝ} (hu : u.dot u = 1) (destination p : Vec ℝ) (t : ℝ) :
    (destination - (p + u * t)).dot u = (destination - p).dot u - t := by
  simp only [dot] at hu
  simp only [dot, sub_x, sub_y, sub_z, add_x, add_y, add_z, mul_x, mul_y, mul_z]
  linear_combination (-t) * hu

namespace Frame

variable {forward position target : Vec ℝ} {eps : ℝ} {frame : Frame ℝ}

/-- The right axis has length one, whether or not the view has a side. -/
lemma dot_rightOf_self (heps : 0 < eps) : (rightOf forward eps).dot (rightOf forward eps) = 1 := by
  simp only [rightOf]
  split
  · norm_num [Vec.unit, Vec.dot]
  · rename_i hlong
    exact Vec.dot_normalize (Vec.ne_zero_of_norm_pos (heps.trans_le (not_lt.mp hlong)))

/-- Forward and right have length one. -/
lemma dot_self_of_ofView (heps : 0 < eps) (h : ofView position target eps = some frame) :
    frame.forward.dot frame.forward = 1 ∧ frame.right.dot frame.right = 1 := by
  obtain ⟨hfar, h⟩ := Option.ite_none_left_eq_some.mp h
  obtain rfl := Option.some.inj h
  have hview := Vec.ne_zero_of_norm_pos (heps.trans_le (not_lt.mp hfar))
  exact ⟨Vec.dot_normalize hview, dot_rightOf_self heps⟩

end Frame

/-! ### The way to a destination -/

section Ways

variable {stage : Stage ℝ} {pose : Pose ℝ} {name : String} {destination : Vec ℝ}

/-- A name that stands for a place is found. -/
lemma Stage.locate_of_some
    (hplace : stage.scene.locate stage.around pose.target name = some destination) :
    stage.locate pose name = .ok destination := by
  simp only [Stage.locate, hplace]

/-- The way of a slide to a destination is the one along its axis. -/
lemma Slide.travelFor_of_destination {slide : Slide ℝ} {kind : MoveKind} {heading : Heading}
    {axis : Vec ℝ} (hdistance : slide.distance = none) (hamount : slide.distanceDescriptor = none)
    (hname : slide.destinationTarget = some name)
    (hplace : stage.scene.locate stage.around pose.target name = some destination)
    (direction : Option Direction) :
    slide.travelFor stage pose kind heading axis direction =
      .ok ((destination - pose.position).dot axis) := by
  simp only [travelFor, hdistance, hamount, hname]
  refine bind_eq_ok_iff.mpr ⟨none, rfl, bind_eq_ok_iff.mpr ⟨name, rfl, ?_⟩⟩
  exact bind_eq_ok_iff.mpr ⟨_, Stage.locate_of_some hplace, rfl⟩

/-- The way of a dolly to a destination is the one along the line of sight. -/
lemma Dolly.travelFor_of_destination {dolly : Dolly ℝ} {forward : Vec ℝ}
    (hdistance : dolly.distance = none) (hamount : dolly.distanceDescriptor = none)
    (hname : dolly.destinationTarget = some name)
    (hplace : stage.scene.locate stage.around pose.target name = some destination)
    (direction : Option Direction) :
    dolly.travelFor stage pose forward direction =
      .ok ((destination - pose.position).dot forward) := by
  simp only [travelFor, hdistance, hamount, hname]
  exact bind_eq_ok_iff.mpr ⟨none, rfl, bind_eq_ok_iff.mpr ⟨_, Stage.locate_of_some hplace, rfl⟩⟩

/-- A slide succeeds once its direction and its way are settled. -/
lemma Slide.exists_along {slide : Slide ℝ} {kind : MoveKind} {heading : Heading} {axis : Vec ℝ}
    {direction : Option Direction} {way : ℝ}
    (hdirection : (heading.direction? slide.direction : Outcome ℝ (Option Direction)) =
      .ok direction)
    (hway : slide.travelFor stage pose kind heading axis direction = .ok way) :
    ∃ take, slide.along stage pose kind heading axis = .ok take := by
  unfold along
  exact ⟨_, bind_eq_ok_iff.mpr ⟨_, hdirection, bind_eq_ok_iff.mpr
    ⟨_, hway, (apply_ite Except.ok _ _ _).symm⟩⟩⟩

end Ways

/-! ### Moves that head for a destination -/

namespace Move

/-- A move with a destination and without an amount that comes before it. -/
inductive HeadsTo (name : String) : Move ℝ → Prop
  /-- A dolly. -/
  | dolly {dolly : Dolly ℝ} (hdistance : dolly.distance = none)
      (hamount : dolly.distanceDescriptor = none)
      (hname : dolly.destinationTarget = some name) : HeadsTo name (.dolly dolly)
  /-- A truck. -/
  | truck {slide : Slide ℝ} (hdistance : slide.distance = none)
      (hamount : slide.distanceDescriptor = none)
      (hname : slide.destinationTarget = some name) : HeadsTo name (.truck slide)
  /-- A pedestal. -/
  | pedestal {slide : Slide ℝ} (hdistance : slide.distance = none)
      (hamount : slide.distanceDescriptor = none)
      (hname : slide.destinationTarget = some name) : HeadsTo name (.pedestal slide)

section Definitions

variable {α : Type} [Scalar α]

/-- The axis of a move that goes along one: forward for a dolly, to the right for a truck, and up
for a pedestal. -/
def axis (move : Move α) (frame : Frame α) : Vec α :=
  match move with
  | .dolly _ => frame.forward
  | .truck _ => frame.right
  | _ => Vec.up

/-- The way from a point to a destination along the axis of a move. -/
def way (move : Move α) (frame : Frame α) (start destination : Vec α) : α :=
  (destination - start).dot (move.axis frame)

/-- The point that distances count from when a move leads to a point: a slide takes its target
along. -/
def anchor (move : Move α) (pose : Pose α) (p : Vec α) : Vec α :=
  match move with
  | .dolly _ => pose.target
  | _ => p + pose.view

end Definitions

/-- The part of a way along the axis that a move makes.  A dolly goes no further forward than to its
stand-off. -/
noncomputable def travel (move : Move ℝ) (stage : Stage ℝ) (pose : Pose ℝ) (way : ℝ) : ℝ :=
  match move with
  | .dolly _ => min way (max 0 (pose.distance - stage.settings.standoff))
  | _ => way

/-- The part of a way along the axis that a move leaves. -/
noncomputable def shortfall (move : Move ℝ) (stage : Stage ℝ) (pose : Pose ℝ) (way : ℝ) : ℝ :=
  match move with
  | .dolly _ => max 0 (way - max 0 (pose.distance - stage.settings.standoff))
  | _ => 0

/-- Whether a move is let pass to a point: its height needs no clamping, and it is placed where it
is. -/
structure LetsPass (move : Move ℝ) (stage : Stage ℝ) (pose : Pose ℝ) (p : Vec ℝ) : Prop where
  /-- The height is within the limits. -/
  clampHeight_eq : ∀ e, stage.around.envelope = some e → e.clampHeight p = p
  /-- The point is placed where it is. -/
  place_eq : stage.place pose.position p (move.anchor pose p) = p

variable {move : Move ℝ} {stage : Stage ℝ} {pose : Pose ℝ} {frame : Frame ℝ} {name : String}
  {destination : Vec ℝ} {take : Take ℝ}

/-- In the open every move is let pass to every point. -/
lemma letsPass_open (henvelope : stage.around.envelope = none)
    (hbounds : stage.scene.bounds = none) (p : Vec ℝ) : move.LetsPass stage pose p where
  clampHeight_eq e he := by
    rw [henvelope] at he
    cases he
  place_eq := stage.place_open henvelope hbounds _ _ _

/-- The axis of a move has length one. -/
lemma dot_axis_self (heps : 0 < stage.settings.epsilon)
    (hframe : Frame.ofView pose.position pose.target stage.settings.epsilon = some frame) :
    (move.axis frame).dot (move.axis frame) = 1 := by
  obtain ⟨hforward, hright⟩ := Frame.dot_self_of_ofView heps hframe
  cases move with
  | dolly _ => exact hforward
  | truck _ => exact hright
  | _ => norm_num [axis, Vec.up, Vec.unit, Vec.dot]

/-- A move makes a part of a way and leaves the rest. -/
lemma sub_travel (way : ℝ) : way - move.travel stage pose way = move.shortfall stage pose way := by
  cases move with
  | dolly _ =>
    simp only [travel, shortfall]
    rw [← max_sub_sub_left, sub_self]
  | _ => exact sub_self _

/-- What becomes of a move along an axis, of which a part of the way is to be made: it stays if this
part does not count, and else goes there if it is let pass. -/
inductive GoesAlong (move : Move ℝ) (stage : Stage ℝ) (pose : Pose ℝ) (axis : Vec ℝ) (part : ℝ)
    (next : Pose ℝ) : Prop
  /-- The way does not count. -/
  | stays (hshort : |part| < stage.settings.epsilon) (hsame : next = pose)
  /-- The way counts. -/
  | goes (hlong : stage.settings.epsilon ≤ |part|)
      (hpass : move.LetsPass stage pose (pose.position + axis * part) →
        next.position = pose.position + axis * part)

/-- A slide to a destination goes along its axis. -/
lemma goesAlong_of_along {slide : Slide ℝ} {kind : MoveKind} {heading : Heading} {axis : Vec ℝ}
    (hanchor : ∀ p, move.anchor pose p = p + pose.view) (hdistance : slide.distance = none)
    (hamount : slide.distanceDescriptor = none) (hname : slide.destinationTarget = some name)
    (hplace : stage.scene.locate stage.around pose.target name = some destination)
    (h : slide.along stage pose kind heading axis = .ok take) :
    ∃ next easing, take = .single next stage.duration easing ∧
      GoesAlong move stage pose axis ((destination - pose.position).dot axis) next := by
  obtain ⟨direction, travel, -, htravel, hcases⟩ := Slide.along_ok h
  rw [Slide.travelFor_of_destination hdistance hamount hname hplace] at htravel
  obtain rfl := Except.ok.inj htravel
  rcases hcases with ⟨hshort, rfl⟩ | ⟨hlong, rfl⟩
  · exact ⟨pose, .linear, rfl, .stays hshort rfl⟩
  · refine ⟨_, _, rfl, .goes (not_lt.mp hlong) fun hpass => ?_⟩
    have hcandidate : Slide.candidate stage pose axis ((destination - pose.position).dot axis) =
        pose.position + axis * (destination - pose.position).dot axis := by
      simp only [Slide.candidate]
      split
      · rename_i e he
        exact hpass.clampHeight_eq e he
      · rfl
    have hplaced := hpass.place_eq
    rw [hanchor] at hplaced
    rw [hcandidate]
    exact hplaced

/-- A dolly to a destination goes along the line of sight, up to its stand-off. -/
lemma goesAlong_of_dolly {dolly : Dolly ℝ}
    (hframe : Frame.ofView pose.position pose.target stage.settings.epsilon = some frame)
    (hdistance : dolly.distance = none) (hamount : dolly.distanceDescriptor = none)
    (hname : dolly.destinationTarget = some name)
    (hplace : stage.scene.locate stage.around pose.target name = some destination)
    (h : dolly.perform stage pose = .ok take) :
    ∃ next easing, take = .single next stage.duration easing ∧
      GoesAlong (.dolly dolly) stage pose frame.forward
        (travel (.dolly dolly) stage pose ((destination - pose.position).dot frame.forward))
        next := by
  rcases Dolly.perform_ok h with ⟨hnone, -⟩ | ⟨frame', direction, free, hframe', -, hfree, hcases⟩
  · rw [hframe] at hnone
    cases hnone
  · rw [hframe] at hframe'
    obtain rfl := Option.some.inj hframe'
    rw [Dolly.travelFor_of_destination hdistance hamount hname hplace] at hfree
    obtain rfl := Except.ok.inj hfree
    have hcap : Dolly.cap stage pose.distance ((destination - pose.position).dot frame.forward) =
        travel (.dolly dolly) stage pose ((destination - pose.position).dot frame.forward) := by
      simp only [Dolly.cap, travel, Scalar.min_real, Scalar.max_real, max_comm]
    rw [hcap] at hcases
    rcases hcases with ⟨hshort, rfl⟩ | ⟨hlong, rfl⟩
    · exact ⟨pose, .linear, rfl, .stays hshort rfl⟩
    · exact ⟨_, _, rfl, .goes (not_lt.mp hlong) fun hpass => hpass.place_eq⟩

/-- A move that heads for a destination and succeeds goes along its axis. -/
lemma HeadsTo.perform_ok (h : HeadsTo name move)
    (hframe : Frame.ofView pose.position pose.target stage.settings.epsilon = some frame)
    (hplace : stage.scene.locate stage.around pose.target name = some destination)
    (hperform : move.perform stage pose = .ok take) :
    ∃ next easing, take = .single next stage.duration easing ∧
      GoesAlong move stage pose (move.axis frame)
        (move.travel stage pose (move.way frame pose.position destination)) next := by
  cases h with
  | dolly hdistance hamount hname =>
    exact goesAlong_of_dolly hframe hdistance hamount hname hplace hperform
  | truck hdistance hamount hname =>
    rcases Slide.truck_ok hperform with ⟨hnone, -⟩ | ⟨frame', hframe', halong⟩
    · rw [hframe] at hnone
      cases hnone
    · rw [hframe] at hframe'
      obtain rfl := Option.some.inj hframe'
      exact goesAlong_of_along (fun _ => rfl) hdistance hamount hname hplace halong
  | pedestal hdistance hamount hname =>
    exact goesAlong_of_along (fun _ => rfl) hdistance hamount hname hplace hperform

/-- **A move to a destination comes level with it.**

Over the reals, let the camera be far enough from its target to have axes, and let a dolly, a truck
or a pedestal be given a destination and no amount that comes before it.  If the move succeeds, it
gives one keyframe.  Either the part of the way that the move makes does not count, and the camera
stays, or it counts.  Then, if the camera is let pass to the end of this part, what is left of the
way along the axis is the shortfall of the move: nothing for a truck or a pedestal, and for a dolly
what lies beyond its stand-off. -/
theorem comesLevel_perform (hsettings : stage.settings.check = .ok ())
    (hfar : stage.settings.epsilon ≤ pose.distance) (hmove : HeadsTo name move)
    (hplace : stage.scene.locate stage.around pose.target name = some destination)
    (hperform : move.perform stage pose = .ok take) :
    ∃ frame part next easing,
      Frame.ofView pose.position pose.target stage.settings.epsilon = some frame ∧
      part = move.travel stage pose (move.way frame pose.position destination) ∧
      take = .single next stage.duration easing ∧
      ((|part| < stage.settings.epsilon ∧ next = pose) ∨
        (stage.settings.epsilon ≤ |part| ∧
          (move.LetsPass stage pose (pose.position + move.axis frame * part) →
            move.way frame next.position destination =
              move.shortfall stage pose (move.way frame pose.position destination)))) := by
  have hepsilon := Settings.epsilon_pos hsettings
  obtain ⟨frame, hframe, -⟩ := Frame.exists_ofView (not_lt.mpr hfar)
  obtain ⟨next, easing, htake, halong⟩ := hmove.perform_ok hframe hplace hperform
  refine ⟨frame, _, next, easing, hframe, rfl, htake, ?_⟩
  cases halong with
  | stays hshort hsame => exact .inl ⟨hshort, hsame⟩
  | goes hlong hpass =>
    refine .inr ⟨hlong, fun hlets => ?_⟩
    rw [hpass hlets, way, Vec.dot_sub_along (dot_axis_self hepsilon hframe)]
    exact sub_travel _

end Move

/-- A scene with a named point and without a box. -/
noncomputable def Scene.marked : Scene ℝ := ⟨none, [⟨"marker", "", ⟨4.0, 1, 2.0⟩⟩]⟩

/-- A camera that looks straight down. -/
noncomputable def Pose.overhead : Pose ℝ := ⟨⟨0, 5.0, 0⟩, ⟨0, 0, 0⟩⟩

/-- It is five units above its target. -/
lemma Pose.distance_overhead : overhead.distance = 5 := by
  refine Vec.norm_eq_of_dot_eq_mul_self (by norm_num) ?_
  norm_num [Vec.dot, view, overhead]

/-- It has the first coordinate axis for its right, as its view has no side. -/
lemma Pose.right_overhead {frame : Frame ℝ} (h : Frame.ofView Pose.overhead.position
    Pose.overhead.target (Settings.standard : Settings ℝ).epsilon = some frame) :
    frame.right = Vec.unit .x := by
  obtain ⟨-, h⟩ := Option.ite_none_left_eq_some.mp h
  obtain rfl := Option.some.inj h
  have hcross : ((Pose.overhead.target - Pose.overhead.position) /
      (Pose.overhead.target - Pose.overhead.position).norm).cross Vec.up = 0 := by
    ext
    all_goals norm_num [Vec.cross, Vec.up, Vec.unit, Pose.overhead]
  refine if_pos ?_
  rw [hcross, Vec.norm_zero_real]
  norm_num [Settings.standard]

namespace Move

/-- A request to go to the side as far as the named point. -/
def toMarker {α : Type} : Slide α := { destinationTarget := some "marker" }

/-- A camera that looks straight down goes to the side as far as the named point. -/
theorem comesLevel_perform_overhead :
    ((Settings.standard : Settings ℝ).epsilon ≤ Pose.overhead.distance ∧
      Scene.marked.locate .free Pose.overhead.target "marker" = some ⟨4.0, 1, 2.0⟩) ∧
    ∃ frame next easing,
      (Move.truck toMarker).perform ⟨.marked, .free, .standard, 1⟩ .overhead =
        .ok (.single next 1 easing) ∧
      (Move.truck toMarker).way frame next.position ⟨4.0, 1, 2.0⟩ = 0 ∧
      frame.right = Vec.unit .x := by
  have hfar : (Settings.standard : Settings ℝ).epsilon ≤ Pose.overhead.distance := by
    rw [Pose.distance_overhead]
    norm_num [Settings.standard]
  let stage : Stage ℝ := ⟨.marked, .free, .standard, 1⟩
  have hplace : stage.scene.locate stage.around Pose.overhead.target "marker" =
      some ⟨4.0, 1, 2.0⟩ := rfl
  have hmove : HeadsTo "marker" (.truck toMarker) := .truck rfl rfl rfl
  obtain ⟨take, hperform⟩ : ∃ take, (Move.truck toMarker).perform stage .overhead = .ok take := by
    obtain ⟨frame, hframe, -⟩ := Frame.exists_ofView (not_lt.mpr hfar)
    have hway : toMarker.travelFor stage .overhead .truck ⟨[.right], [.left]⟩ frame.right none =
        .ok ((⟨4.0, 1, 2.0⟩ - Pose.overhead.position).dot frame.right) :=
      Slide.travelFor_of_destination rfl rfl rfl hplace none
    simp only [Move.perform, Slide.truck, stage, hframe]
    exact Slide.exists_along rfl hway
  obtain ⟨frame, part, next, easing, hframe, hpart, rfl, hcases⟩ :=
    comesLevel_perform Settings.check_standard hfar hmove hplace hperform
  have hright : frame.right = Vec.unit .x := Pose.right_overhead hframe
  have hfour : part = 4 := by
    rw [hpart]
    simp only [travel, way, axis, hright]
    norm_num [Vec.dot, Vec.unit, Pose.overhead]
  refine ⟨⟨hfar, hplace⟩, frame, next, easing, hperform, ?_, hright⟩
  rcases hcases with ⟨hshort, -⟩ | ⟨-, hlevel⟩
  · rw [hfour] at hshort
    norm_num [stage, Settings.standard] at hshort
  · exact hlevel (letsPass_open rfl rfl _)

end Move

end Cinematics
