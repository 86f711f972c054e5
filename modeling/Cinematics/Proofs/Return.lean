import Mathlib.Tactic.Linarith
import Mathlib.Tactic.Ring
import Cinematics.Proofs.LineOfSight
import Cinematics.Proofs.OrbitSum

/-!
# There and back

A move by an explicit amount, followed by one of the same kind by the same amount in the opposite
direction, brings the camera back in the open (`Plan.interpret_thereAndBack`).  The way back is
found out anew from where the way there has ended: a truck finds its side in the view, a dolly is
cut off by the stand-off from a new distance, and a zoom chooses between its factor and the inverse.
So the law rests on what a move keeps of that which the next one reads.  Slides keep the view, and
with it the side, also where the view is vertical.  Dollies and zooms keep the line of sight and
multiply the distance, the way there by one factor and the way back by its inverse.

There has to be room for the way (`Settings.LeavesRoom`): lengths that are too short to count make
no way, and a dolly that is cut off makes a shorter one than is asked for.  A dolly that is too
short to count stays where it is, and so does the one back.
-/

namespace Cinematics

/-! ### Runs along a trail -/

section Trails

variable {α : Type} [Scalar α]

/-- Whether a move leads from one pose to another in one keyframe, whatever time there is for it. -/
def Move.Leads (move : Move α) (scene : Scene α) (around : Surroundings α) (settings : Settings α)
    (pose next : Pose α) : Prop :=
  ∀ duration, ∃ easing, move.perform ⟨scene, around, settings, duration⟩ pose =
    .ok (.single next duration easing)

/-- Moves that lead one after the other from a pose, and the poses that they lead to. -/
inductive Trail (scene : Scene α) (around : Surroundings α) (settings : Settings α) :
    Pose α → List (Move α) → List (Pose α) → Prop
  /-- Without moves. -/
  | nil (pose : Pose α) : Trail scene around settings pose [] []
  /-- A move, and those from where it leads. -/
  | cons {pose next : Pose α} {move : Move α} {moves : List (Move α)} {poses : List (Pose α)}
      (hfirst : move.Leads scene around settings pose next)
      (hrest : Trail scene around settings next moves poses) :
      Trail scene around settings pose (move :: moves) (next :: poses)

end Trails

namespace Plan

variable {scene : Scene ℝ} {around : Surroundings ℝ} {settings : Settings ℝ} {pose : Pose ℝ}
  {poses : List (Pose ℝ)}

/-- The ledger of moves along a trail has the poses of the trail, and no remarks.  The induction is
on the trail. -/
lemma ledger_of_trail (hsettings : settings.check = .ok ()) {moves : List (Move ℝ)}
    (htrail : Trail scene around settings pose moves poses) {steps : List (Step ℝ × ℝ)}
    (hmoves : steps.map (·.1.move) = moves) (htime : ∀ timed ∈ steps, Scalar.IsTime timed.2)
    (n : ℕ) :
    ((ledger scene around settings steps pose).flatMap Entry.block).map (·.pose) = poses ∧
      poseAfter pose (ledger scene around settings steps pose) = poses.getLastD pose ∧
      Entry.allRemarks n (ledger scene around settings steps pose) = [] := by
  induction htrail generalizing steps n with
  | nil pose =>
    obtain rfl := List.map_eq_nil_iff.mp hmoves
    exact ⟨rfl, rfl, rfl⟩
  | @cons pose next _ moves poses hfirst hrest ih =>
    obtain ⟨⟨⟨move, ratio⟩, duration⟩, rest, rfl, rfl, hlater⟩ := List.map_eq_cons_iff.mp hmoves
    obtain ⟨hduration, htime⟩ := List.forall_mem_cons.mp htime
    obtain ⟨easing, hperform⟩ := hfirst duration
    have hattempt : move.attempt ⟨scene, around, settings, duration⟩ pose =
        .ok (.single next duration easing) :=
      (move.attempt_eq_perform hsettings hduration pose).trans hperform
    obtain ⟨hposes, hfinal, hremarks⟩ := ih hlater htime (n + 1)
    rw [ledger, hattempt]
    refine ⟨?_, ?_, ?_⟩
    · rw [List.flatMap_cons, List.map_append]
      exact congrArg (next :: ·) hposes
    · rw [List.getLastD_cons]
      exact hfinal
    · exact hremarks

/-- **A plan whose moves form a trail** is interpreted without remarks and has the poses of the
trail. -/
theorem interpret_of_trail (hsettings : settings.check = .ok ()) {plan : Plan ℝ}
    (hplan : plan.check = .ok ()) (htrail : Trail scene around settings pose plan.moves poses) :
    ∃ i, plan.interpret scene around settings pose = .ok i ∧
      i.keyframes.map (·.pose) = poses ∧ i.finalPose = poses.getLastD pose ∧
      i.diagnostics = [] :=
  ⟨_, interpret_of_check rfl hsettings hplan,
    ledger_of_trail hsettings htrail (plan.map_move_zip_durations settings)
      (isTime_of_mem_zip hsettings hplan) 0⟩

end Plan

/-! ### Opposite directions -/

namespace Direction

/-- The direction back. -/
def opposite : Direction → Direction
  | .left => .right
  | .right => .left
  | .up => .down
  | .down => .up
  | .inward => .outward
  | .outward => .inward
  | .clockwise => .counterClockwise
  | .counterClockwise => .clockwise

/-- The way back from the way back is the way there. -/
lemma opposite_opposite (direction : Direction) : direction.opposite.opposite = direction := by
  cases direction
  all_goals rfl

/-- With a direction, the one back is among two opposite ones. -/
lemma opposite_mem_pair (first : Direction) {direction : Direction}
    (hmem : direction ∈ [first, first.opposite]) :
    direction.opposite ∈ [first, first.opposite] := by
  rcases List.mem_pair.mp hmem with rfl | rfl
  · simp
  · simp [opposite_opposite]

/-- The sign that a direction gives to an amount. -/
def sense : Direction → ℝ
  | .right | .up | .inward | .counterClockwise => 1
  | .left | .down | .outward | .clockwise => -1

/-- The sign of the direction back is the opposite one. -/
lemma sense_opposite (direction : Direction) : direction.opposite.sense = -direction.sense := by
  cases direction
  all_goals simp [opposite, sense]

/-- A direction changes the sign of an amount at most. -/
lemma abs_sense_mul (direction : Direction) {x : ℝ} (hx : 0 < x) : |direction.sense * x| = x := by
  have hone : |direction.sense| = 1 := by
    cases direction
    all_goals simp [sense]
  rw [abs_mul, hone, one_mul, abs_of_pos hx]

end Direction

/-- A heading of one direction of each sign gives a direction its own. -/
lemma Heading.sign_pair {first second direction : Direction} (hfirst : first.sense = 1)
    (hsecond : second.sense = -1) (hmem : direction ∈ [first, second]) :
    (Heading.sign ⟨[first], [second]⟩ direction : ℝ) = direction.sense := by
  unfold sign
  rcases List.mem_pair.mp hmem with rfl | rfl
  · rw [hfirst]
    exact if_pos (by simp)
  · have hdistinct : direction ≠ first := by
      rintro rfl
      linarith
    rw [hsecond]
    exact if_neg (by simpa using hdistinct)

/-! ### Moves in the open -/

/-- The horizontal axis to the right of a camera. -/
noncomputable def Pose.right (pose : Pose ℝ) (eps : ℝ) : Vec ℝ :=
  Frame.rightOf (pose.view / pose.distance) eps

/-- A move of a kind by an explicit amount in a direction.  What else is in the request does not
matter. -/
inductive Move.GoesBy (direction : Direction) (x : ℝ) : MoveKind → Move ℝ → Prop
  /-- A truck by a distance. -/
  | truck {slide : Slide ℝ} (hdirection : slide.direction.bind Direction.parse? = some direction)
      (hamount : slide.distance = some x) : GoesBy direction x .truck (.truck slide)
  /-- A pedestal by a distance. -/
  | pedestal {slide : Slide ℝ} (hdirection : slide.direction.bind Direction.parse? = some direction)
      (hamount : slide.distance = some x) : GoesBy direction x .pedestal (.pedestal slide)
  /-- A dolly by a distance. -/
  | dolly {dolly : Dolly ℝ} (hdirection : dolly.direction.bind Direction.parse? = some direction)
      (hamount : dolly.distance = some x) : GoesBy direction x .dolly (.dolly dolly)
  /-- A zoom by a factor. -/
  | zoom {zoom : Zoom ℝ} (hdirection : zoom.direction.bind Direction.parse? = some direction)
      (hamount : zoom.factor = some x) : GoesBy direction x .zoom (.zoom zoom)

/-- Where a move of a kind by an amount in a direction leads in the open.  A dolly that is too short
to count leads nowhere. -/
noncomputable def Pose.gone (pose : Pose ℝ) (eps : ℝ) (kind : MoveKind) (direction : Direction)
    (x : ℝ) : Pose ℝ :=
  match kind with
  | .truck => Slide.carry pose (pose.position + pose.right eps * (direction.sense * x))
  | .pedestal => Slide.carry pose (pose.position + (Vec.up : Vec ℝ) * (direction.sense * x))
  | .dolly => if x < eps then pose else pose.scaled (1 - direction.sense * x / pose.distance)
  | .zoom => pose.scaled (Zoom.orient (some direction) x)
  | _ => pose

section Open

variable {scene : Scene ℝ} {around : Surroundings ℝ} {settings : Settings ℝ} {pose : Pose ℝ}
  {direction : Direction} {x : ℝ}

/-- In the open a slide by a distance carries the camera along its axis. -/
lemma Slide.along_open (stage : Stage ℝ) (henvelope : stage.around.envelope = none)
    (hbounds : stage.scene.bounds = none) (hx : 0 < x) (hlong : stage.settings.epsilon ≤ x)
    {slide : Slide ℝ} (kind : MoveKind) {first second : Direction} (hfirst : first.sense = 1)
    (hsecond : second.sense = -1) (axis : Vec ℝ) (hmem : direction ∈ [first, second])
    (hdirection : slide.direction.bind Direction.parse? = some direction)
    (hamount : slide.distance = some x) :
    slide.along stage pose kind ⟨[first], [second]⟩ axis = .ok (stage.reach
      (carry pose (pose.position + axis * (direction.sense * x))) slide.easing slide.speed) := by
  have hpositive : Scalar.isFinite x = true ∧ 0 < x := ⟨rfl, hx⟩
  have htravel : slide.travelFor stage pose kind ⟨[first], [second]⟩ axis (some direction) =
      .ok (direction.sense * x) := by
    simp only [travelFor, travel?, hamount, positive, if_pos hpositive,
      ← Heading.sign_pair hfirst hsecond hmem]
    rfl
  have hcandidate : candidate stage pose axis (direction.sense * x) =
      pose.position + axis * (direction.sense * x) := by
    simp only [candidate, henvelope]
  have hcounts : ¬ Scalar.abs (direction.sense * x) < stage.settings.epsilon := by
    rw [Scalar.abs_real, direction.abs_sense_mul hx]
    exact not_lt.mpr hlong
  unfold along
  refine bind_eq_ok_iff.mpr ⟨_, Heading.direction?_of_parse? hdirection hmem, ?_⟩
  refine bind_eq_ok_iff.mpr ⟨_, htravel, ?_⟩
  simp only [if_neg hcounts, stage.place_open henvelope hbounds, hcandidate]

/-- In the open a truck by a distance leads to the side. -/
lemma Slide.leads_truck {slide : Slide ℝ} (henvelope : around.envelope = none)
    (hbounds : scene.bounds = none) (hfar : settings.epsilon ≤ pose.distance) (hx : 0 < x)
    (hlong : settings.epsilon ≤ x) (hmem : direction ∈ [Direction.right, .left])
    (hdirection : slide.direction.bind Direction.parse? = some direction)
    (hamount : slide.distance = some x) :
    (Move.truck slide).Leads scene around settings pose
      (pose.gone settings.epsilon .truck direction x) := by
  intro duration
  let stage : Stage ℝ := ⟨scene, around, settings, duration⟩
  have hview : Frame.ofView pose.position pose.target settings.epsilon = some
      ⟨pose.view / pose.distance, pose.right settings.epsilon,
        ((pose.right settings.epsilon).cross (pose.view / pose.distance)).normalize⟩ :=
    if_neg (not_lt.mpr hfar)
  refine ⟨stage.easing slide.easing slide.speed, ?_⟩
  simp only [Move.perform, truck, hview]
  exact along_open stage henvelope hbounds hx hlong .truck rfl rfl _ hmem hdirection hamount

/-- In the open a pedestal by a distance leads up or down. -/
lemma Slide.leads_pedestal {slide : Slide ℝ} (henvelope : around.envelope = none)
    (hbounds : scene.bounds = none) (hx : 0 < x) (hlong : settings.epsilon ≤ x)
    (hmem : direction ∈ [Direction.up, .down])
    (hdirection : slide.direction.bind Direction.parse? = some direction)
    (hamount : slide.distance = some x) :
    (Move.pedestal slide).Leads scene around settings pose
      (pose.gone settings.epsilon .pedestal direction x) := by
  intro duration
  let stage : Stage ℝ := ⟨scene, around, settings, duration⟩
  exact ⟨stage.easing slide.easing slide.speed, along_open stage henvelope hbounds hx
    hlong .pedestal rfl rfl _ hmem hdirection hamount⟩

/-- A dolly by a distance is to travel it with the sign of its direction. -/
lemma Dolly.travelFor_of_sense {dolly : Dolly ℝ} (stage : Stage ℝ) (pose : Pose ℝ)
    (forward : Vec ℝ) (hx : 0 < x) (hmem : direction ∈ [Direction.inward, .outward])
    (hamount : dolly.distance = some x) :
    dolly.travelFor stage pose forward (some direction) = .ok (direction.sense * x) := by
  rw [travelFor_of_distance hamount ⟨rfl, hx⟩]
  exact congrArg (fun s => Except.ok (s * x)) (Heading.sign_pair rfl rfl hmem)

/-- In the open a dolly by a distance that leaves the stand-off leads along the line of sight. -/
lemma Dolly.leads {dolly : Dolly ℝ} (hsettings : settings.check = .ok ())
    (henvelope : around.envelope = none) (hbounds : scene.bounds = none)
    (hfar : settings.epsilon ≤ pose.distance) (hx : 0 < x) (hlong : settings.epsilon ≤ x)
    (hfree : direction.sense * x ≤ max (pose.distance - settings.standoff) 0)
    (hmem : direction ∈ [Direction.inward, .outward])
    (hdirection : dolly.direction.bind Direction.parse? = some direction)
    (hamount : dolly.distance = some x) :
    (Move.dolly dolly).Leads scene around settings pose
      (pose.gone settings.epsilon .dolly direction x) := by
  intro duration
  let stage : Stage ℝ := ⟨scene, around, settings, duration⟩
  obtain ⟨frame, hframe, -⟩ := Frame.exists_ofView (not_lt.mpr hfar)
  have htravel := travelFor_of_sense stage pose frame.forward hx hmem hamount
  have hcap : cap stage pose.distance (direction.sense * x) = direction.sense * x := by
    simp only [cap, Scalar.min_real, Scalar.max_real]
    exact min_eq_left hfree
  have hcounts : ¬ Scalar.abs (direction.sense * x) < settings.epsilon := by
    rw [Scalar.abs_real, direction.abs_sense_mul hx]
    exact not_lt.mpr hlong
  have hcandidate := (candidate_eq (Settings.epsilon_pos hsettings) hframe (direction.sense * x)).1
  have hperform := perform_of_travel hframe (Heading.direction?_of_parse? hdirection hmem) htravel
  rw [hcap, if_neg hcounts, stage.place_open henvelope hbounds, hcandidate] at hperform
  rw [Pose.gone, if_neg (not_lt.mpr hlong)]
  exact ⟨stage.easing dolly.easing dolly.speed, hperform⟩

/-- A dolly by a distance that is too short to count leads nowhere, whether it is cut off or not. -/
lemma Dolly.leads_short {dolly : Dolly ℝ} (hfar : settings.epsilon ≤ pose.distance) (hx : 0 < x)
    (hshort : x < settings.epsilon) (hmem : direction ∈ [Direction.inward, .outward])
    (hdirection : dolly.direction.bind Direction.parse? = some direction)
    (hamount : dolly.distance = some x) :
    (Move.dolly dolly).Leads scene around settings pose
      (pose.gone settings.epsilon .dolly direction x) := by
  intro duration
  let stage : Stage ℝ := ⟨scene, around, settings, duration⟩
  obtain ⟨frame, hframe, -⟩ := Frame.exists_ofView (not_lt.mpr hfar)
  have htravel := travelFor_of_sense stage pose frame.forward hx hmem hamount
  have hcap : |cap stage pose.distance (direction.sense * x)| ≤ |direction.sense * x| := by
    simp only [cap, Scalar.min_real, Scalar.max_real]
    rcases le_total (direction.sense * x) (max (pose.distance - settings.standoff) 0) with h | h
    · rw [min_eq_left h]
    · have hnonneg := le_max_right (pose.distance - settings.standoff) 0
      rw [min_eq_right h, abs_of_nonneg hnonneg]
      exact h.trans (le_abs_self _)
  have hnothing : Scalar.abs (cap stage pose.distance (direction.sense * x)) <
      settings.epsilon := by
    rw [direction.abs_sense_mul hx] at hcap
    exact hcap.trans_lt hshort
  have hperform := perform_of_travel hframe (Heading.direction?_of_parse? hdirection hmem) htravel
  rw [if_pos hnothing] at hperform
  rw [Pose.gone, if_pos hshort]
  exact ⟨.linear, hperform⟩

/-- In the open a zoom by a factor leads along the line of sight. -/
lemma Zoom.leads {zoom : Zoom ℝ} (henvelope : around.envelope = none)
    (hbounds : scene.bounds = none) (hfar : settings.epsilon ≤ pose.distance) (hx : 0 < x)
    (hmem : direction ∈ [Direction.inward, .outward])
    (hdirection : zoom.direction.bind Direction.parse? = some direction)
    (hamount : zoom.factor = some x) :
    (Move.zoom zoom).Leads scene around settings pose
      (pose.gone settings.epsilon .zoom direction x) := by
  intro duration
  have hpositive : Scalar.isFinite x = true ∧ 0 < x := ⟨rfl, hx⟩
  have hmem' : direction ∈ heading.all := List.mem_pair.mpr (List.mem_pair.mp hmem).symm
  let stage : Stage ℝ := ⟨scene, around, settings, duration⟩
  have hfactor : zoom.factorFor stage pose.distance (some direction) =
      .ok (orient (some direction) x) := by
    simp only [factorFor, hamount, positive, if_pos hpositive]
    rfl
  have hperform := perform_of_factor (not_lt.mpr hfar)
    (Heading.direction?_of_parse? hdirection hmem') hfactor
  rw [stage.place_open henvelope hbounds] at hperform
  exact ⟨stage.easing zoom.easing zoom.speed, hperform⟩

end Open

/-! ### The way back -/

/-- One direction gives a zoom the smaller of a factor and its inverse, the other the larger. -/
lemma Zoom.orient_mul_orient {direction : Direction} {x : ℝ} (hx : 0 < x)
    (hmem : direction ∈ [Direction.inward, .outward]) :
    orient (some direction) x * orient (some direction.opposite) x = 1 := by
  rcases List.mem_pair.mp hmem with rfl | rfl
  · simp only [orient, Direction.opposite, Scalar.min_real, Scalar.max_real]
    rw [min_mul_max, mul_one_div_cancel hx.ne']
  · simp only [orient, Direction.opposite, Scalar.min_real, Scalar.max_real]
    rw [max_mul_min, mul_one_div_cancel hx.ne']

namespace Pose

variable {pose : Pose ℝ} {eps x : ℝ} {direction : Direction}

/-- A pose that is carried along has the same side. -/
lemma right_carry (p : Vec ℝ) : (Slide.carry pose p).right eps = pose.right eps := by
  rw [right, right, distance, distance, Slide.view_carry]

/-- A pose that is carried along an axis and back is where it was. -/
lemma carry_carry (axis : Vec ℝ) (t : ℝ) :
    Slide.carry (Slide.carry pose (pose.position + axis * t))
      (pose.position + axis * t + axis * -t) = pose := by
  refine Pose.ext ?_ ?_
  all_goals
    ext
    all_goals simp [Slide.carry]

/-- A slide keeps the distance. -/
lemma distance_carry (p : Vec ℝ) : (Slide.carry pose p).distance = pose.distance :=
  congrArg Vec.norm (Slide.view_carry pose p)

/-- A dolly takes its way off the distance. -/
lemma distance_gone_dolly (hpose : 0 < pose.distance) (hlong : eps ≤ x)
    (hleft : 0 ≤ pose.distance - direction.sense * x) :
    (pose.gone eps .dolly direction x).distance = pose.distance - direction.sense * x := by
  have hfactor : pose.distance * (1 - direction.sense * x / pose.distance) =
      pose.distance - direction.sense * x := by
    rw [mul_sub, mul_one, mul_div_cancel₀ _ hpose.ne']
  have hnonneg : 0 ≤ 1 - direction.sense * x / pose.distance :=
    nonneg_of_mul_nonneg_right (hfactor ▸ hleft) hpose
  rw [gone, if_neg (not_lt.mpr hlong)]
  exact (pose.distance_scaled hnonneg).trans hfactor

/-- A truck and the truck back cancel: the side is the same. -/
lemma gone_truck_back :
    (pose.gone eps .truck direction x).gone eps .truck direction.opposite x = pose := by
  simp only [gone, right_carry, Direction.sense_opposite, neg_mul]
  exact carry_carry _ _

/-- A pedestal and the pedestal back cancel. -/
lemma gone_pedestal_back :
    (pose.gone eps .pedestal direction x).gone eps .pedestal direction.opposite x = pose := by
  simp only [gone, Direction.sense_opposite, neg_mul]
  exact carry_carry _ _

/-- A dolly and the dolly back cancel, unless the way there ends on the target. -/
lemma gone_dolly_back (hpose : 0 < pose.distance) (hlong : eps ≤ x)
    (hleft : 0 < pose.distance - direction.sense * x) :
    (pose.gone eps .dolly direction x).gone eps .dolly direction.opposite x = pose := by
  have hdistance : (pose.gone eps .dolly direction x).distance =
      pose.distance - direction.sense * x := distance_gone_dolly hpose hlong hleft.le
  have hone : (1 - direction.sense * x / pose.distance) *
      (1 - direction.opposite.sense * x / (pose.distance - direction.sense * x)) = 1 := by
    rw [direction.sense_opposite]
    field_simp
    ring
  have hcounts : ¬ x < eps := not_lt.mpr hlong
  rw [gone, if_neg hcounts, hdistance, gone, if_neg hcounts, scaled_scaled, hone, scaled_one]

/-- A zoom and the zoom back cancel. -/
lemma gone_zoom_back (hx : 0 < x) (hmem : direction ∈ [Direction.inward, .outward]) :
    (pose.gone eps .zoom direction x).gone eps .zoom direction.opposite x = pose := by
  simp only [gone]
  rw [scaled_scaled, Zoom.orient_mul_orient hx hmem, scaled_one]

end Pose

/-- Whether there is room to go by an amount in a direction, and back, at a distance from the
target. -/
inductive Settings.LeavesRoom (settings : Settings ℝ) (distance x : ℝ) :
    MoveKind → Direction → Prop
  /-- To the side, by a length that counts. -/
  | truck {direction : Direction} (hmem : direction ∈ [Direction.right, .left])
      (hlong : settings.epsilon ≤ x) : LeavesRoom settings distance x .truck direction
  /-- Up or down, by a length that counts. -/
  | pedestal {direction : Direction} (hmem : direction ∈ [Direction.up, .down])
      (hlong : settings.epsilon ≤ x) : LeavesRoom settings distance x .pedestal direction
  /-- Outward by a length that counts, from a distance that is not within the stand-off. -/
  | outward (hlong : settings.epsilon ≤ x) (hstandoff : settings.standoff ≤ distance) :
      LeavesRoom settings distance x .dolly .outward
  /-- Inward by a length that counts, up to the stand-off and to a distance that counts. -/
  | inward (hlong : settings.epsilon ≤ x) (hstandoff : x ≤ distance - settings.standoff)
      (hleft : settings.epsilon ≤ distance - x) : LeavesRoom settings distance x .dolly .inward
  /-- Inward or outward by a length that is too short to count, from anywhere. -/
  | short {direction : Direction} (hmem : direction ∈ [Direction.inward, .outward])
      (hshort : x < settings.epsilon) : LeavesRoom settings distance x .dolly direction
  /-- To a multiple of the distance that counts. -/
  | zoom {direction : Direction} (hmem : direction ∈ [Direction.inward, .outward])
      (hleft : settings.epsilon ≤ distance * Zoom.orient (some direction) x) :
      LeavesRoom settings distance x .zoom direction

namespace Settings.LeavesRoom

variable {scene : Scene ℝ} {around : Surroundings ℝ} {settings : Settings ℝ} {pose : Pose ℝ}
  {kind : MoveKind} {direction : Direction} {x : ℝ} {first second : Move ℝ}

/-- A dolly that has room and is long enough stops short of the target by a length that counts. -/
lemma le_distance_sub (h : settings.LeavesRoom pose.distance x .dolly direction) (hx : 0 < x)
    (hlong : settings.epsilon ≤ x) (hfar : settings.epsilon ≤ pose.distance) :
    settings.epsilon ≤ pose.distance - direction.sense * x := by
  cases h with
  | outward _ hstandoff =>
    simp only [Direction.sense]
    linarith
  | inward _ hstandoff hleft =>
    simp only [Direction.sense]
    linarith
  | short _ hshort => exact absurd hlong (not_le.mpr hshort)

/-- A dolly that has room and is long enough is not cut off. -/
lemma sense_mul_le {distance : ℝ} (h : settings.LeavesRoom distance x .dolly direction)
    (hx : 0 < x) (hlong : settings.epsilon ≤ x) :
    direction.sense * x ≤ max (distance - settings.standoff) 0 := by
  cases h with
  | outward _ hstandoff =>
    simp only [Direction.sense]
    exact le_max_of_le_right (by linarith)
  | inward _ hstandoff hleft =>
    simp only [Direction.sense, one_mul]
    exact le_max_of_le_left hstandoff
  | short _ hshort => exact absurd hlong (not_le.mpr hshort)

/-- A zoom that has room multiplies the distance. -/
lemma distance_gone_zoom (h : settings.LeavesRoom pose.distance x .zoom direction)
    (hepsilon : 0 < settings.epsilon) (hfar : settings.epsilon ≤ pose.distance) :
    (pose.gone settings.epsilon .zoom direction x).distance =
      pose.distance * Zoom.orient (some direction) x := by
  cases h with
  | zoom hmem hleft =>
    exact pose.distance_scaled
      (nonneg_of_mul_nonneg_right (hepsilon.le.trans hleft) (hepsilon.trans_le hfar))

/-- A dolly that has room and is long enough takes its way off the distance. -/
lemma distance_gone_dolly (h : settings.LeavesRoom pose.distance x .dolly direction)
    (hepsilon : 0 < settings.epsilon) (hx : 0 < x) (hlong : settings.epsilon ≤ x)
    (hfar : settings.epsilon ≤ pose.distance) :
    (pose.gone settings.epsilon .dolly direction x).distance =
      pose.distance - direction.sense * x :=
  Pose.distance_gone_dolly (hepsilon.trans_le hfar) hlong
    (hepsilon.le.trans (h.le_distance_sub hx hlong hfar))

/-- A move that has room ends at a distance that counts. -/
lemma le_distance_gone (h : settings.LeavesRoom pose.distance x kind direction)
    (hepsilon : 0 < settings.epsilon) (hx : 0 < x) (hfar : settings.epsilon ≤ pose.distance) :
    settings.epsilon ≤ (pose.gone settings.epsilon kind direction x).distance := by
  cases kind with
  | truck | pedestal => exact hfar.trans (Pose.distance_carry _).ge
  | dolly =>
    rcases lt_or_ge x settings.epsilon with hshort | hlong
    · rwa [Pose.gone, if_pos hshort]
    · exact (h.le_distance_sub hx hlong hfar).trans
        (h.distance_gone_dolly hepsilon hx hlong hfar).ge
  | zoom =>
    rw [h.distance_gone_zoom hepsilon hfar]
    cases h with
    | zoom hmem hleft => exact hleft
  | hold | orbit | pan | tilt | moveTo | focusOn | rotate => cases h

/-- A move that has room and the move back cancel. -/
lemma gone_gone (h : settings.LeavesRoom pose.distance x kind direction)
    (hepsilon : 0 < settings.epsilon) (hx : 0 < x) (hfar : settings.epsilon ≤ pose.distance) :
    (pose.gone settings.epsilon kind direction x).gone settings.epsilon kind direction.opposite x =
      pose := by
  cases kind with
  | truck => exact Pose.gone_truck_back
  | pedestal => exact Pose.gone_pedestal_back
  | dolly =>
    rcases lt_or_ge x settings.epsilon with hshort | hlong
    · rw [Pose.gone, if_pos hshort, Pose.gone, if_pos hshort]
    · exact Pose.gone_dolly_back (hepsilon.trans_le hfar) hlong
        (hepsilon.trans_le (h.le_distance_sub hx hlong hfar))
  | zoom =>
    cases h with
    | zoom hmem _ => exact Pose.gone_zoom_back hx hmem
  | hold | orbit | pan | tilt | moveTo | focusOn | rotate => cases h

/-- In the open a move that has room leads where it is to lead. -/
lemma leads (h : settings.LeavesRoom pose.distance x kind direction)
    (hfirst : first.GoesBy direction x kind) (hsettings : settings.check = .ok ())
    (henvelope : around.envelope = none) (hbounds : scene.bounds = none) (hx : 0 < x)
    (hfar : settings.epsilon ≤ pose.distance) :
    first.Leads scene around settings pose (pose.gone settings.epsilon kind direction x) := by
  cases hfirst with
  | truck hdirection hamount =>
    cases h with
    | truck hmem hlong =>
      exact Slide.leads_truck henvelope hbounds hfar hx hlong hmem hdirection hamount
  | pedestal hdirection hamount =>
    cases h with
    | pedestal hmem hlong =>
      exact Slide.leads_pedestal henvelope hbounds hx hlong hmem hdirection hamount
  | dolly hdirection hamount =>
    have hfree := h.sense_mul_le hx
    cases h with
    | outward hlong _ =>
      exact Dolly.leads hsettings henvelope hbounds hfar hx hlong (hfree hlong) (by simp) hdirection
        hamount
    | inward hlong _ _ =>
      exact Dolly.leads hsettings henvelope hbounds hfar hx hlong (hfree hlong) (by simp) hdirection
        hamount
    | short hmem hshort => exact Dolly.leads_short hfar hx hshort hmem hdirection hamount
  | zoom hdirection hamount =>
    cases h with
    | zoom hmem hleft => exact Zoom.leads henvelope hbounds hfar hx hmem hdirection hamount

/-- Where there is room for the way there, there is room for the way back. -/
lemma back (h : settings.LeavesRoom pose.distance x kind direction)
    (hepsilon : 0 < settings.epsilon) (hx : 0 < x) (hfar : settings.epsilon ≤ pose.distance) :
    settings.LeavesRoom (pose.gone settings.epsilon kind direction x).distance x kind
      direction.opposite := by
  cases kind with
  | truck =>
    cases h with
    | truck hmem hlong => exact .truck (Direction.opposite_mem_pair .right hmem) hlong
  | pedestal =>
    cases h with
    | pedestal hmem hlong => exact .pedestal (Direction.opposite_mem_pair .up hmem) hlong
  | dolly =>
    have hdistance := h.distance_gone_dolly hepsilon hx
    cases h with
    | outward hlong hstandoff =>
      rw [hdistance hlong hfar]
      simp only [Direction.sense]
      exact .inward hlong (by linarith) (by linarith)
    | inward hlong hstandoff hleft =>
      rw [hdistance hlong hfar]
      simp only [Direction.sense]
      exact .outward hlong (by linarith)
    | short hmem hshort => exact .short (Direction.opposite_mem_pair .inward hmem) hshort
  | zoom =>
    rw [h.distance_gone_zoom hepsilon hfar]
    cases h with
    | zoom hmem hleft =>
      refine .zoom (Direction.opposite_mem_pair .inward hmem) ?_
      rwa [mul_assoc, Zoom.orient_mul_orient hx hmem, mul_one]
  | hold | orbit | pan | tilt | moveTo | focusOn | rotate => cases h

end Settings.LeavesRoom

/-! ### Plans that lead there and back -/

namespace Plan

variable {scene : Scene ℝ} {around : Surroundings ℝ} {settings : Settings ℝ} {kind : MoveKind}
  {direction : Direction} {x : ℝ} {first second : Move ℝ} {initial : Pose ℝ}

/-- **Opposite moves cancel.**

Over the reals, without an envelope and without a box, let a plan be made of two moves of one kind,
by the same explicit positive amount and in opposite directions: trucks, pedestals or dollies by a
distance, or zooms by a factor, in either order.  If there is room for the way there, from a camera
that is far enough from its target, both moves are carried out without a remark, and the camera ends
exactly in the pose that it started from. -/
theorem interpret_thereAndBack (hsettings : settings.check = .ok ())
    (henvelope : around.envelope = none) (hbounds : scene.bounds = none) (hx : 0 < x)
    (hfar : settings.epsilon ≤ initial.distance)
    (hroom : settings.LeavesRoom initial.distance x kind direction)
    (hfirst : first.GoesBy direction x kind) (hsecond : second.GoesBy direction.opposite x kind)
    {plan : Plan ℝ} (hplan : plan.check = .ok ()) (hmoves : plan.moves = [first, second]) :
    ∃ i, plan.interpret scene around settings initial = .ok i ∧
      i.keyframes.map (·.pose) = [initial.gone settings.epsilon kind direction x, initial] ∧
      i.finalPose = initial ∧ i.diagnostics = [] := by
  have hepsilon := Settings.epsilon_pos hsettings
  have hthere := hroom.leads hfirst hsettings henvelope hbounds hx hfar
  have hback := (hroom.back hepsilon hx hfar).leads hsecond hsettings henvelope hbounds hx
    (hroom.le_distance_gone hepsilon hx hfar)
  rw [hroom.gone_gone hepsilon hx hfar] at hback
  exact interpret_of_trail hsettings hplan (hmoves ▸ .cons hthere (.cons hback (.nil _)))

/-- A plan to go inward and back. -/
def inwardAndBack {α : Type} [Scalar α] : Plan α where
  steps :=
    [⟨.dolly { direction := some "in", distance := some 2.0 }, 1⟩,
      ⟨.dolly { direction := some "out", distance := some 2.0 }, 1⟩]
  duration := 4.0

/-- A camera that goes inward by two units, short of its stand-off, comes back. -/
theorem interpret_thereAndBack_inward :
    ((Settings.standard : Settings ℝ).epsilon ≤ Pose.ahead.distance ∧
      (Settings.standard : Settings ℝ).LeavesRoom Pose.ahead.distance 2.0 .dolly .inward) ∧
    ∃ i, (inwardAndBack : Plan ℝ).interpret .empty .free .standard .ahead = .ok i ∧
      i.keyframes.map (·.pose) =
        [Pose.ahead.gone (Settings.standard : Settings ℝ).epsilon .dolly .inward 2.0, .ahead] ∧
      i.finalPose = .ahead ∧ i.diagnostics = [] := by
  have hfar : (Settings.standard : Settings ℝ).epsilon ≤ Pose.ahead.distance := by
    rw [Pose.distance_ahead]
    norm_num [Settings.standard]
  have hroom : (Settings.standard : Settings ℝ).LeavesRoom Pose.ahead.distance 2.0 .dolly
      .inward := by
    rw [Pose.distance_ahead]
    apply Settings.LeavesRoom.inward
    all_goals norm_num [Settings.standard]
  have hplan : (inwardAndBack : Plan ℝ).check = .ok () :=
    check_of_pos (List.cons_ne_nil _ _) (by norm_num [inwardAndBack])
  exact ⟨⟨hfar, hroom⟩, interpret_thereAndBack Settings.check_standard rfl rfl (by norm_num) hfar
    hroom (.dolly rfl rfl) (.dolly rfl rfl) hplan rfl⟩

end Plan

end Cinematics
