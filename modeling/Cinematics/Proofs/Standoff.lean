import Mathlib.Tactic.FieldSimp
import Mathlib.Tactic.Linarith
import Mathlib.Tactic.Ring
import Cinematics.Proofs.Allocation
import Cinematics.Proofs.Bookkeeping
import Cinematics.Proofs.Containment
import Cinematics.Proofs.Rotation

/-!
# Keeping off the target

A camera on its target has no view.  Most moves cannot bring it there: turns and slides keep the
distance, a dolly stops short of the target, and a relocation or a new target that is too near is
refused.  A zoom and an orbit, however, scale the distance by whatever factor they are asked for,
and the box may displace the camera to anywhere.

So without an envelope the camera keeps off its target in the course of a whole plan
(`Plan.keeps_off`) as long as no zoom and no orbit asks for a distance that is too short, and the
box pushes no zoom and no dolly out of itself and keeps no orbit from its arc.  The last theorem of
the file is about a zoom and a dolly that end on their targets.
-/

namespace Cinematics

/-! ### Ways along a ray -/

/-- A point on the way between two points of a ray is no nearer to the origin of the ray than the
nearer one. -/
lemma Vec.le_norm_along {target p : Vec ℝ} {f s d : ℝ} (hnear : d ≤ (p - target).norm)
    (hfar : d ≤ (p - target).norm * f) (h0 : 0 ≤ s) (h1 : s ≤ 1) :
    d ≤ (target - (p + (target + (p - target) * f - p) * s)).norm := by
  have hray : p + (target + (p - target) * f - p) * s - target =
      (p - target) * (1 + (f - 1) * s) := by
    ext
    · simp only [add_x, sub_x, mul_x]
      ring
    · simp only [add_y, sub_y, mul_y]
      ring
    · simp only [add_z, sub_z, mul_z]
      ring
  have hstart : d * (1 - s) ≤ (p - target).norm * (1 - s) :=
    mul_le_mul_of_nonneg_right hnear (sub_nonneg.mpr h1)
  have hend : d * s ≤ (p - target).norm * f * s := mul_le_mul_of_nonneg_right hfar h0
  rw [norm_sub_comm_real, hray, norm_mul_real]
  calc d = d * (1 - s) + d * s := by ring
    _ ≤ (p - target).norm * (1 - s) + (p - target).norm * f * s := add_le_add hstart hend
    _ = (p - target).norm * (1 + (f - 1) * s) := by ring
    _ ≤ (p - target).norm * |1 + (f - 1) * s| :=
        mul_le_mul_of_nonneg_left (le_abs_self _) (norm_nonneg_real _)

/-! ### Places without an envelope -/

namespace Scene

variable {scene : Scene ℝ} {around : Surroundings ℝ} {eps : ℝ} {start candidate anchor : Vec ℝ}

/-- Whether the box pushes the camera out of itself at the end of a way. -/
def PushesOut (scene : Scene ℝ) (around : Surroundings ℝ) (start finish : Vec ℝ) : Prop :=
  ∃ b, scene.liftedBounds around = some b ∧ b.PushesOut start finish

/-- Without an envelope a candidate is placed where it settles. -/
lemma place_eq_settle (henvelope : around.envelope = none) :
    scene.place around eps start candidate anchor =
      scene.settle around eps start candidate anchor := by
  have hadmissible : scene.isAdmissible around
      (scene.settle around eps start candidate anchor) anchor = true :=
    (isAdmissible_iff_isOutside henvelope).mpr (isOutside_settle eps start candidate anchor)
  exact place_of_isAdmissible_settle hadmissible

/-- Without an envelope a place is part of the way to the candidate, unless the box pushes the
camera out. -/
lemma place_along (eps : ℝ) (anchor : Vec ℝ) (henvelope : around.envelope = none)
    (hpush : ¬ scene.PushesOut around start candidate) :
    ∃ s : ℝ, 0 ≤ s ∧ s ≤ 1 ∧
      scene.place around eps start candidate anchor = start + (candidate - start) * s := by
  rw [place_eq_settle henvelope]
  simp only [settle, henvelope]
  cases hbounds : scene.liftedBounds around with
  | none => exact ⟨1, zero_le_one, le_rfl, (Vec.add_sub_mul_one_real _ _).symm⟩
  | some b => exact Box.clear_along fun hb => hpush ⟨b, hbounds, hb⟩

end Scene

/-! ### What moves ask for -/

section Requests

variable {α : Type} [Scalar α] (stage : Stage α) (pose : Pose α)

/-- Whether a zoom, by its parameters, heads for a distance and a point. -/
def Zoom.HeadsFor (zoom : Zoom α) (distance : α) (p : Vec α) : Prop :=
  ∃ direction factor,
    (heading.direction? zoom.direction : Outcome α (Option Direction)) = .ok direction ∧
    zoom.factorFor stage pose.distance direction = .ok factor ∧
    distance = pose.distance * factor ∧ p = pose.target + (pose.position - pose.target) * factor

/-- Whether a dolly, by its parameters, heads for a point. -/
def Dolly.HeadsFor (dolly : Dolly α) (p : Vec α) : Prop :=
  ∃ frame direction free,
    Frame.ofView pose.position pose.target stage.settings.epsilon = some frame ∧
    (heading.direction? dolly.direction : Outcome α (Option Direction)) = .ok direction ∧
    dolly.travelFor stage pose frame.forward direction = .ok free ∧
    p = pose.position + frame.forward * cap stage pose.distance free

/-- Whether an orbit, by its parameters, goes along an arc. -/
def Orbit.GoesAlong (orbit : Orbit α) (arc : Arc α) : Prop :=
  ∃ around,
    orbit.center stage pose = .ok arc.center ∧ orbit.angleFor stage = .ok arc.degrees ∧
    positive "radius_factor" (orbit.radiusFactor.getD 1) = .ok arc.radiusFactor ∧
    (aroundFor orbit.axis : Outcome α Around) = .ok around ∧
    arc.radius = pose.position - arc.center ∧
    arc.axis = around.vec pose stage.settings.epsilon ∧
    arc.segments = segmentsFor stage.settings arc.degrees ∧
    ¬ arc.radius.norm < stage.settings.epsilon ∧
    ¬ (Scalar.abs arc.degrees < stage.settings.epsilon ∧
      Scalar.abs (arc.radiusFactor - 1) < stage.settings.epsilon)

/-- The radius of an arc at the end of segment `k`. -/
def Orbit.Arc.radiusAt (arc : Arc α) (k : Nat) : α :=
  arc.radius.norm * (1 + (arc.radiusFactor - 1) * (Scalar.ofNat k / Scalar.ofNat arc.segments))

/-- The numbers of the segments of an arc. -/
def Orbit.Arc.numbers (arc : Arc α) : List Nat := List.range' 1 arc.segments

/-- Whether a move asks for a distance of the camera from what it looks at.  Only zooms and orbits
do. -/
def Move.AsksFor (distance : α) : Move α → Prop
  | .zoom request => ∃ p, request.HeadsFor stage pose distance p
  | .orbit request =>
    ∃ arc, request.GoesAlong stage pose arc ∧ ∃ k ∈ arc.numbers, distance = arc.radiusAt k
  | _ => False

end Requests

/-- Whether the box displaces the camera in the course of a move: pushes it out of itself at the end
of a zoom or a dolly, or keeps it from a point of the arc of an orbit. -/
def Move.IsDisplaced (stage : Stage ℝ) (pose : Pose ℝ) : Move ℝ → Prop
  | .zoom request =>
    ∃ distance p, request.HeadsFor stage pose distance p ∧
      stage.scene.PushesOut stage.around pose.position p
  | .dolly request =>
    ∃ p, request.HeadsFor stage pose p ∧ stage.scene.PushesOut stage.around pose.position p
  | .orbit request =>
    ∃ arc, request.GoesAlong stage pose arc ∧
      arc.places stage pose.position arc.numbers ≠ arc.numbers.map arc.point
  | _ => False

/-! ### Distances in the course of a move -/

variable {stage : Stage ℝ} {pose : Pose ℝ} {take : Take ℝ} {d : ℝ}

/-- A camera that leaves for a multiple of its way from the target keeps the lesser of the two
distances, unless it is pushed out of the box. -/
lemma Stage.le_distance_place {f : ℝ} {candidate : Vec ℝ} (henvelope : stage.around.envelope = none)
    (hpose : d ≤ pose.distance) (hfar : d ≤ pose.distance * f)
    (hcandidate : candidate = pose.target + (pose.position - pose.target) * f)
    (hpush : ¬ stage.scene.PushesOut stage.around pose.position candidate) :
    d ≤ (⟨stage.place pose.position candidate pose.target, pose.target⟩ : Pose ℝ).distance := by
  have hlength : pose.distance = (pose.position - pose.target).norm := Vec.norm_sub_comm_real _ _
  rw [hlength] at hpose hfar
  obtain ⟨s, h0, h1, hs⟩ :=
    Scene.place_along stage.settings.epsilon pose.target henvelope hpush
  rw [Pose.distance, Pose.view, Stage.place, hs, hcandidate]
  exact Vec.le_norm_along hpose hfar h0 h1

/-- A zoom keeps a distance that it starts with and asks for, unless it is displaced. -/
lemma Zoom.le_distance {zoom : Zoom ℝ} (henvelope : stage.around.envelope = none)
    (hpose : d ≤ pose.distance)
    (hasked : ∀ distance p, zoom.HeadsFor stage pose distance p → d ≤ distance)
    (hplaced : ∀ distance p, zoom.HeadsFor stage pose distance p →
      ¬ stage.scene.PushesOut stage.around pose.position p)
    (h : zoom.perform stage pose = .ok take) : ∀ k ∈ take.keyframes, d ≤ k.pose.distance := by
  rcases perform_ok h with ⟨-, rfl⟩ | ⟨direction, factor, -, hdirection, hfactor, rfl⟩
  · exact Take.single_poses (d ≤ ·.distance) hpose
  · have hheads : zoom.HeadsFor stage pose (pose.distance * factor)
        (pose.target + (pose.position - pose.target) * factor) :=
      ⟨direction, factor, hdirection, hfactor, rfl, rfl⟩
    have hfar : d ≤ pose.distance * factor := hasked _ _ hheads
    exact Take.single_poses (d ≤ ·.distance)
      (stage.le_distance_place henvelope hpose hfar rfl (hplaced _ _ hheads))

/-- The way that a dolly is allowed leaves a distance of the start or the stand-off. -/
lemma Dolly.le_sub_cap {current free : ℝ} (hcurrent : d ≤ current)
    (hstandoff : d ≤ stage.settings.standoff) : d ≤ current - cap stage current free := by
  have hcap : cap stage current free ≤ max (current - stage.settings.standoff) 0 := by
    simp only [cap, Scalar.min_real, Scalar.max_real]
    exact min_le_right _ _
  rcases le_total (current - stage.settings.standoff) 0 with hnear | hfar
  · -- within the stand-off a dolly can only lead away
    rw [max_eq_right hnear] at hcap
    linarith
  · rw [max_eq_left hfar] at hcap
    linarith

/-- The forward axis is the view over its length, which is not nothing. -/
lemma Frame.forward_of_ofView {position target : Vec ℝ} {eps : ℝ} {frame : Frame ℝ}
    (h : ofView position target eps = some frame) :
    frame.forward = (target - position) / (target - position).norm ∧
      ¬ (target - position).norm < eps := by
  simp only [ofView] at h
  split at h
  · cases h
  · rename_i hfar
    rw [← Option.some.inj h]
    exact ⟨rfl, hfar⟩

/-- A camera away from its target has axes, and the view gives the forward one. -/
lemma Frame.exists_ofView {position target : Vec ℝ} {eps : ℝ}
    (h : ¬ (target - position).norm < eps) :
    ∃ frame, ofView position target eps = some frame ∧
      frame.forward = (target - position) / (target - position).norm :=
  ⟨_, if_neg h, rfl⟩

/-- The candidate of a dolly is a multiple of the way from the target, like that of a zoom. -/
lemma Dolly.candidate_eq {frame : Frame ℝ} {eps : ℝ} (hepsilon : 0 < eps)
    (hview : Frame.ofView pose.position pose.target eps = some frame) (travel : ℝ) :
    pose.position + frame.forward * travel =
      pose.target + (pose.position - pose.target) * (1 - travel / pose.distance) ∧
    pose.distance * (1 - travel / pose.distance) = pose.distance - travel := by
  obtain ⟨hforward, hfar⟩ := Frame.forward_of_ofView hview
  have hpositive : 0 < pose.distance := hepsilon.trans_le (not_lt.mp hfar)
  constructor
  · rw [hforward]
    ext
    · simp only [Pose.distance, Pose.view, Vec.add_x, Vec.sub_x, Vec.mul_x, Vec.div_x]
      ring
    · simp only [Pose.distance, Pose.view, Vec.add_y, Vec.sub_y, Vec.mul_y, Vec.div_y]
      ring
    · simp only [Pose.distance, Pose.view, Vec.add_z, Vec.sub_z, Vec.mul_z, Vec.div_z]
      ring
  · rw [mul_sub, mul_one, mul_div_cancel₀ _ hpositive.ne']

/-- A dolly keeps a distance that it starts with and that is not more than the stand-off, unless it
is displaced. -/
lemma Dolly.le_distance {dolly : Dolly ℝ} (henvelope : stage.around.envelope = none)
    (hepsilon : 0 < stage.settings.epsilon) (hpose : d ≤ pose.distance)
    (hstandoff : d ≤ stage.settings.standoff)
    (hplaced : ∀ p, dolly.HeadsFor stage pose p →
      ¬ stage.scene.PushesOut stage.around pose.position p)
    (h : dolly.perform stage pose = .ok take) : ∀ k ∈ take.keyframes, d ≤ k.pose.distance := by
  rcases perform_ok h with ⟨-, rfl⟩ |
    ⟨frame, direction, free, hview, hdirection, hfree, ⟨-, rfl⟩ | ⟨-, rfl⟩⟩
  · exact Take.single_poses (d ≤ ·.distance) hpose
  · exact Take.single_poses (d ≤ ·.distance) hpose
  · obtain ⟨hcandidate, hleft⟩ :=
      candidate_eq hepsilon hview (cap stage pose.distance free)
    have hfar : d ≤ pose.distance * (1 - cap stage pose.distance free / pose.distance) := by
      rw [hleft]
      exact le_sub_cap hpose hstandoff
    exact Take.single_poses (d ≤ ·.distance)
      (stage.le_distance_place henvelope hpose hfar hcandidate
        (hplaced _ ⟨frame, direction, free, hview, hdirection, hfree, rfl⟩))

/-- A point of an arc is as far from the center as its radius there, or farther. -/
lemma Orbit.Arc.radiusAt_le (arc : Arc ℝ) (k : ℕ) :
    arc.radiusAt k ≤ (arc.center - arc.point k).norm := by
  set scale : ℝ := 1 + (arc.radiusFactor - 1) * (Scalar.ofNat k / Scalar.ofNat arc.segments)
    with hscale
  have hpoint : arc.point k - arc.center = arc.radius.rotate arc.axis (Scalar.radians arc.degrees *
      (Scalar.ofNat k / Scalar.ofNat arc.segments)) * scale := Vec.add_sub_cancel_left_real _ _
  rw [Vec.norm_sub_comm_real, hpoint, Vec.norm_mul_real, Vec.norm_rotate]
  exact mul_le_mul_of_nonneg_left (le_abs_self scale) (Vec.norm_nonneg_real _)

/-- An orbit keeps a distance that it starts with and asks for, unless it is displaced. -/
lemma Orbit.le_distance {orbit : Orbit ℝ} (hpose : d ≤ pose.distance)
    (hd : d ≤ stage.settings.epsilon)
    (hasked : ∀ arc, orbit.GoesAlong stage pose arc → ∀ k ∈ arc.numbers, d ≤ arc.radiusAt k)
    (hplaced : ∀ arc, orbit.GoesAlong stage pose arc →
      arc.places stage pose.position arc.numbers = arc.numbers.map arc.point)
    (h : orbit.perform stage pose = .ok take) : ∀ k ∈ take.keyframes, d ≤ k.pose.distance := by
  obtain ⟨center, degrees, radiusFactor, around, hcenter, hdegrees, hfactor, haround,
    ⟨-, rfl⟩ | ⟨hfar, -, rfl⟩ | ⟨hfar, hlarge, rfl⟩⟩ := perform_ok h
  · exact Take.single_poses (d ≤ ·.distance) hpose
  · refine Take.single_poses (d ≤ ·.distance) ?_
    rw [Pose.distance, Pose.view, Vec.norm_sub_comm_real]
    exact hd.trans (not_lt.mp hfar)
  · set arc : Arc ℝ :=
      { center, radius := pose.position - center, degrees, radiusFactor
        axis := around.vec pose stage.settings.epsilon
        segments := segmentsFor stage.settings degrees } with harc
    have halong : orbit.GoesAlong stage pose arc :=
      ⟨around, hcenter, hdegrees, hfactor, haround, rfl, rfl, rfl, hfar, hlarge⟩
    -- a keyframe is at a place of the arc, and the places are the points of the arc
    intro k hk
    have hpose : k.pose ∈ (arc.take stage pose.position
        (stage.easing orbit.easing orbit.speed)).keyframes.map (·.pose) :=
      List.mem_map.mpr ⟨k, hk, rfl⟩
    rw [Arc.map_pose_take] at hpose
    obtain ⟨p, hp, hkp⟩ := List.mem_map.mp hpose
    change p ∈ arc.places stage pose.position arc.numbers at hp
    rw [hplaced arc halong] at hp
    obtain ⟨n, hn, rfl⟩ := List.mem_map.mp hp
    rw [← hkp]
    exact (hasked arc halong n hn).trans (arc.radiusAt_le n)

/-- A turn keeps the distance. -/
lemma Turn.le_distance {turn : Turn ℝ} {axis : Turn.ViewAxis} (hpose : d ≤ pose.distance)
    (h : turn.about axis stage pose = .ok take) : ∀ k ∈ take.keyframes, d ≤ k.pose.distance := by
  obtain ⟨-, degrees, -, -, ⟨-, rfl⟩ | ⟨frame, -, ⟨-, rfl⟩ | ⟨-, rfl⟩⟩⟩ := about_ok h
  · exact Take.single_poses (d ≤ ·.distance) hpose
  · exact Take.single_poses (d ≤ ·.distance) hpose
  · refine Take.single_poses (d ≤ ·.distance) ?_
    set limit := Scalar.radians stage.settings.pitchLimit
    -- whatever the axis, the view is turned; the limit of a pitch is about the angle only
    set view := turned axis frame pose.view (Scalar.radians degrees) limit with hview
    have hturned : view.norm = pose.view.norm := by
      rw [hview]
      cases axis with
      | pitch => exact Vec.norm_rotate _ _ _
      | yaw => exact Vec.norm_rotate _ _ _
      | roll => exact Vec.norm_rotate _ _ _
    rw [Pose.distance, Pose.view, Vec.add_sub_cancel_left_real, hturned]
    exact hpose

/-- A slide keeps the distance. -/
lemma Slide.le_distance {slide : Slide ℝ} {kind : MoveKind} {heading : Heading} {axis : Vec ℝ}
    (hpose : d ≤ pose.distance) (h : slide.along stage pose kind heading axis = .ok take) :
    ∀ k ∈ take.keyframes, d ≤ k.pose.distance := by
  intro k hk
  rcases pose_of_along h hk with hsame | ⟨travel, hcarried⟩
  · rw [hsame]
    exact hpose
  · rw [hcarried, Pose.distance, view_carry]
    exact hpose

/-- A new target is at a distance that is not too short. -/
lemma Turn.le_distance_lookable {name : String} {target : Vec ℝ} {easing : Easing}
    (hd : d ≤ stage.settings.epsilon) (htarget : lookable stage pose name = .ok target) :
    ∀ k ∈ (Take.single ⟨pose.position, target⟩ stage.duration easing).keyframes,
      d ≤ k.pose.distance :=
  Take.single_poses (d ≤ ·.distance)
    (hd.trans (not_lt.mp (lookable_ok htarget).2))

/-- A relocation ends at a distance that is not too short. -/
lemma Relocation.le_distance {relocation : Relocation} (hd : d ≤ stage.settings.epsilon)
    (h : relocation.perform stage pose = .ok take) : ∀ k ∈ take.keyframes, d ≤ k.pose.distance := by
  obtain ⟨_, _, target, _, -, -, -, -, position, -, hfar, ⟨-, rfl⟩ | ⟨-, rfl⟩⟩ := perform_ok h
  · exact cut_poses (d ≤ ·.distance) (hd.trans (not_lt.mp hfar))
  · exact Take.single_poses (d ≤ ·.distance) (hd.trans (not_lt.mp hfar))

/-- **A move keeps a distance** that it starts with, if the distance is no more than the settings
allow, the move does not ask for less, and the box does not displace the camera. -/
theorem Move.le_distance {move : Move ℝ} (henvelope : stage.around.envelope = none)
    (hepsilon : 0 < stage.settings.epsilon) (hd : d ≤ stage.settings.epsilon)
    (hstandoff : d ≤ stage.settings.standoff) (hpose : d ≤ pose.distance)
    (hasked : ∀ distance, move.AsksFor stage pose distance → d ≤ distance)
    (hplaced : ¬ move.IsDisplaced stage pose) (h : move.perform stage pose = .ok take) :
    ∀ k ∈ take.keyframes, d ≤ k.pose.distance := by
  cases move with
  | hold request =>
    obtain rfl := Except.ok.inj h
    exact Take.single_poses (d ≤ ·.distance) hpose
  | zoom request =>
    exact Zoom.le_distance henvelope hpose (fun _ p hp => hasked _ ⟨p, hp⟩)
      (fun distance p hp hpush => hplaced ⟨distance, p, hp, hpush⟩) h
  | orbit request =>
    refine Orbit.le_distance hpose hd (fun arc harc k hk => hasked _ ⟨arc, harc, k, hk, rfl⟩)
      (fun arc harc => ?_) h
    by_contra hoff
    exact hplaced ⟨arc, harc, hoff⟩
  | pan request => exact Turn.le_distance hpose h
  | tilt request =>
    rcases Turn.tilt_ok h with ⟨_, _, -, htarget, rfl⟩ | ⟨-, habout⟩
    · exact Turn.le_distance_lookable hd htarget
    · exact Turn.le_distance hpose habout
  | dolly request =>
    exact Dolly.le_distance henvelope hepsilon hpose hstandoff
      (fun p hp hpush => hplaced ⟨p, hp, hpush⟩) h
  | truck request =>
    rcases Slide.truck_ok h with ⟨-, rfl⟩ | ⟨_, -, halong⟩
    · exact Take.single_poses (d ≤ ·.distance) hpose
    · exact Slide.le_distance hpose halong
  | pedestal request => exact Slide.le_distance hpose (Slide.pedestal_ok h)
  | moveTo request => exact Relocation.le_distance hd h
  | focusOn request =>
    obtain ⟨_, _, -, htarget, rfl⟩ := Refocus.perform_ok h
    split
    · exact Turn.le_distance_lookable hd htarget
    · exact Turn.le_distance_lookable hd htarget
  | rotate request =>
    rcases Turn.rotate_ok h with ⟨-, rfl⟩ | ⟨_, -, -, habout⟩
    · exact Take.single_poses (d ≤ ·.distance) hpose
    · exact Turn.le_distance hpose habout

/-! ### Distances in the course of a plan -/

namespace Plan

variable {plan : Plan ℝ} {scene : Scene ℝ} {around : Surroundings ℝ} {settings : Settings ℝ}
  {initial : Pose ℝ} {i : Interpretation ℝ}

/-- **The camera keeps off its target.**

Over the reals, without an envelope and with a stand-off of at least the length below which a vector
has no direction, a camera that starts at least this length from its target keeps it throughout an
interpretation, if no zoom and no orbit of the plan asks for less where it starts, and the box does
not displace the camera in the course of a move. -/
theorem keeps_off (henvelope : around.envelope = none)
    (hstandoff : settings.epsilon ≤ settings.standoff)
    (hinitial : settings.epsilon ≤ initial.distance)
    (hasked : ∀ e ∈ plan.entries scene around settings initial, ∀ duration distance,
      e.move.AsksFor ⟨scene, around, settings, duration⟩ e.start distance →
        settings.epsilon ≤ distance)
    (hplaced : ∀ e ∈ plan.entries scene around settings initial, ∀ duration,
      ¬ e.move.IsDisplaced ⟨scene, around, settings, duration⟩ e.start)
    (h : plan.interpret scene around settings initial = .ok i) :
    (∀ k ∈ i.keyframes, settings.epsilon ≤ k.pose.distance) ∧
      settings.epsilon ≤ i.finalPose.distance := by
  obtain ⟨-, durations, -, hschedule, -, -⟩ := interpret_ok h
  have hepsilon : 0 < settings.epsilon := Settings.epsilon_pos (schedule_ok hschedule).1
  refine interpret_poses_of (J := fun p => settings.epsilon ≤ p.distance)
    (Q := fun move start => ∀ duration,
      (∀ distance, move.AsksFor ⟨scene, around, settings, duration⟩ start distance →
        settings.epsilon ≤ distance) ∧
      ¬ move.IsDisplaced ⟨scene, around, settings, duration⟩ start)
    ?_ h (fun e he duration => ⟨hasked e he duration, hplaced e he duration⟩) hinitial
  intro move duration pose take hpose hmove hperform
  exact Move.le_distance henvelope hepsilon le_rfl hstandoff hpose (hmove duration).1
    (hmove duration).2 hperform

end Plan

/-! ### Plans of one move -/

namespace Plan

/-- A plan of one move. -/
def only (move : Move ℝ) : Plan ℝ := ⟨[⟨move, 1⟩], 1⟩

variable {move : Move ℝ} {scene : Scene ℝ} {pose next : Pose ℝ}

/-- The ledger of one move has one entry. -/
lemma entries_only {settings : Settings ℝ} (hsettings : settings.check = .ok ()) (move : Move ℝ)
    (scene : Scene ℝ) (pose : Pose ℝ) :
    ∃ d : ℝ, 0 ≤ d ∧ (only move).entries scene .free settings pose =
      [⟨move, pose, move.attempt ⟨scene, .free, settings, d⟩ pose⟩] := by
  have hlength : ((only move).durations settings).length = 1 := length_durations _ _
  obtain ⟨d, hd⟩ := List.length_eq_one_iff.mp hlength
  refine ⟨d, ?_, ?_⟩
  · have htolerance := (Settings.durationTolerance_pos hsettings).le
    have hmem : d ∈ (only move).durations settings := by
      rw [hd]
      exact List.mem_singleton_self d
    exact Schedule.allocate_nonneg htolerance zero_le_one d hmem
  · rw [entries, hd]
    rfl

/-- A plan of one move is interpreted. -/
lemma exists_interpret_only (move : Move ℝ) (scene : Scene ℝ) (pose : Pose ℝ) :
    ∃ i, (only move).interpret scene .free .standard pose = .ok i :=
  exists_interpret rfl Settings.check_standard (check_of_pos (List.cons_ne_nil _ _) one_pos)

/-- A plan of one move that reaches a pose has a keyframe there. -/
lemma exists_keyframe_only {easing speed : Option String}
    (h : ∀ d, move.perform ⟨scene, .free, .standard, d⟩ pose =
      .ok ((⟨scene, .free, .standard, d⟩ : Stage ℝ).reach next easing speed)) :
    ∃ i, (only move).interpret scene .free .standard pose = .ok i ∧
      ∃ k ∈ i.keyframes, k.pose = next := by
  obtain ⟨d, hd, hentries⟩ := entries_only Settings.check_standard move scene pose
  obtain ⟨i, hi⟩ := exists_interpret_only move scene pose
  set take := (⟨scene, .free, .standard, d⟩ : Stage ℝ).reach next easing speed with htake
  have hsound : take.isSound = true := by
    simp [htake, Stage.reach, Take.single, Take.isSound, Keyframe.isSound, Pose.isFinite,
      Vec.isFinite, hd]
  have hattempt : move.attempt ⟨scene, .free, .standard, d⟩ pose = .ok take :=
    Move.attempt_eq_ok_iff.mpr ⟨h d, hsound⟩
  have hkeyframes : i.keyframes = take.keyframes := by
    rw [keyframes_eq hi, hentries, hattempt]
    exact List.append_nil _
  refine ⟨i, hi, ?_⟩
  rw [hkeyframes]
  exact ⟨_, List.mem_singleton_self _, rfl⟩

end Plan

/-- A request to zoom by a factor. -/
def Zoom.by (x : ℝ) : Zoom ℝ := { factor := some x }

/-- A camera in front of the origin, which it looks at. -/
noncomputable def Pose.ahead : Pose ℝ := ⟨⟨0, 0, 5.0⟩, ⟨0, 0, 0⟩⟩

/-- The camera in front of the origin is five units away. -/
lemma Pose.distance_ahead : ahead.distance = 5 := by
  refine Vec.norm_eq_of_dot_eq_mul_self (by norm_num) ?_
  norm_num [Vec.dot, view, ahead]

/-- A zoom by a positive factor asks for this multiple of the distance, and heads for the point
there. -/
lemma Zoom.headsFor_by (stage : Stage ℝ) {x distance : ℝ} {p : Vec ℝ} (hx : 0 < x) :
    (Zoom.by x).HeadsFor stage .ahead distance p ↔ distance = 5 * x ∧ p = ⟨0, 0, 5 * x⟩ := by
  have hfactor : (Zoom.by x).factorFor stage Pose.ahead.distance none = .ok x := by
    have hpositive : Scalar.isFinite x = true ∧ 0 < x := ⟨rfl, hx⟩
    simp only [Zoom.factorFor, Zoom.by, positive, if_pos hpositive]
    rfl
  have hpoint : Pose.ahead.target + (Pose.ahead.position - Pose.ahead.target) * x =
      ⟨0, 0, 5 * x⟩ := by
    ext
    · norm_num [Pose.ahead]
    · norm_num [Pose.ahead]
    · norm_num [Pose.ahead]
  constructor
  · rintro ⟨direction, factor, hdirection, hasked, rfl, rfl⟩
    obtain rfl := Except.ok.inj hdirection
    rw [hfactor] at hasked
    obtain rfl := Except.ok.inj hasked
    rw [Pose.distance_ahead, hpoint]
    exact ⟨rfl, rfl⟩
  · rintro ⟨rfl, rfl⟩
    exact ⟨none, x, rfl, hfactor, by rw [Pose.distance_ahead], hpoint.symm⟩

/-- A zoom halfway to the origin, in front of the cube around it, keeps the camera off its
target. -/
theorem Plan.keeps_off_halfway :
    (Settings.standard : Settings ℝ).epsilon ≤ (Settings.standard : Settings ℝ).standoff ∧
    (Settings.standard : Settings ℝ).epsilon ≤ Pose.ahead.distance ∧
    ∃ i, (only (.zoom (.by 0.5))).interpret .cube .free .standard .ahead = .ok i ∧
      (∀ k ∈ i.keyframes, (Settings.standard : Settings ℝ).epsilon ≤ k.pose.distance) ∧
      (Settings.standard : Settings ℝ).epsilon ≤ i.finalPose.distance := by
  have hhalf : (0 : ℝ) < 0.5 := by norm_num
  have hstandoff :
      (Settings.standard : Settings ℝ).epsilon ≤ (Settings.standard : Settings ℝ).standoff := by
    norm_num [Settings.standard]
  have hinitial : (Settings.standard : Settings ℝ).epsilon ≤ Pose.ahead.distance := by
    rw [Pose.distance_ahead]
    norm_num [Settings.standard]
  obtain ⟨d, -, hentries⟩ := entries_only Settings.check_standard (.zoom (.by 0.5)) .cube .ahead
  obtain ⟨i, hi⟩ := exists_interpret_only (.zoom (.by 0.5)) .cube .ahead
  refine ⟨hstandoff, hinitial, i, hi, keeps_off rfl hstandoff hinitial ?_ ?_ hi⟩
  · rw [hentries]
    intro e he duration distance hasks
    obtain rfl := List.mem_singleton.mp he
    obtain ⟨p, hheads⟩ := hasks
    rw [((Zoom.headsFor_by _ hhalf).mp hheads).1]
    norm_num [Settings.standard]
  · rw [hentries]
    intro e he duration hdisplaced
    obtain rfl := List.mem_singleton.mp he
    obtain ⟨distance, p, hheads, b, hb, -, hinside⟩ := hdisplaced
    rw [((Zoom.headsFor_by _ hhalf).mp hheads).2] at hinside
    obtain rfl := Option.some.inj hb
    norm_num [Box.containsStrictly, Axis.all, Box.lift, Box.translate, Vec.height, Vec.coord,
      Surroundings.free] at hinside

/-- A zoom in an empty scene ends where it heads for. -/
lemma Zoom.perform_by {x : ℝ} (hx : 0 < x) (d : ℝ) :
    (Move.zoom (.by x)).perform ⟨.empty, .free, .standard, d⟩ .ahead =
      .ok ((⟨.empty, .free, .standard, d⟩ : Stage ℝ).reach ⟨⟨0, 0, 5 * x⟩, ⟨0, 0, 0⟩⟩
        none none) := by
  obtain ⟨direction, factor, hdirection, hfactor, -, hpoint⟩ :=
    (Zoom.headsFor_by ⟨.empty, .free, .standard, d⟩ hx).mpr ⟨rfl, rfl⟩
  have hfar : ¬ Pose.ahead.distance < (Settings.standard : Settings ℝ).epsilon := by
    rw [Pose.distance_ahead]
    norm_num [Settings.standard]
  have hplace : (Scene.empty : Scene ℝ).place .free (Settings.standard : Settings ℝ).epsilon
      Pose.ahead.position ⟨0, 0, 5 * x⟩ Pose.ahead.target = ⟨0, 0, 5 * x⟩ := by
    rw [Scene.place_eq_settle rfl]
    rfl
  simp only [Move.perform, Zoom.perform]
  rw [if_neg hfar]
  refine bind_eq_ok_iff.mpr ⟨direction, hdirection, bind_eq_ok_iff.mpr ⟨factor, hfactor, ?_⟩⟩
  rw [← hpoint, Stage.place, hplace]
  rfl

/-- A camera within a slab that looks out of it. -/
noncomputable def Pose.within : Pose ℝ := ⟨⟨0, 0, 0⟩, ⟨0, 0, 0.15⟩⟩

/-- The camera within the slab is a little way from its target. -/
lemma Pose.distance_within : within.distance = 0.15 := by
  refine Vec.norm_eq_of_dot_eq_mul_self (by norm_num) ?_
  norm_num [Vec.dot, view, within]

/-- A slab around the origin. -/
noncomputable def Box.slab : Box ℝ := ⟨⟨-0.1, -0.1, -0.05⟩, ⟨0.1, 0.1, 0.05⟩, ⟨0, 0, 0⟩⟩

/-- The distance kept from the slab. -/
lemma Box.clearance_slab : slab.clearance = 0.1 := by
  have hdiagonal : slab.diagonal = 0.3 := by
    refine Vec.norm_eq_of_dot_eq_mul_self (by norm_num) ?_
    norm_num [Vec.dot, size, slab]
  norm_num [clearance, hdiagonal, Scalar.clamp]

/-- A way within the slab ends out of it. -/
lemma Box.clear_slab : slab.clear ⟨0, 0, 0⟩ ⟨0, 0, 0.01⟩ = ⟨0, 0, 0.15⟩ := by
  have hstart : slab.containsStrictly ⟨0, 0, 0⟩ = true := by
    norm_num [containsStrictly, Axis.all, Vec.coord, slab]
  have hstop : slab.stop? ⟨0, 0, 0⟩ ⟨0, 0, 0.01⟩ = none := by
    simp only [stop?, hstart, Bool.not_true, Bool.false_eq_true, and_false, if_false]
  have hinside : slab.containsStrictly ⟨0, 0, 0.01⟩ = true := by
    norm_num [containsStrictly, Axis.all, Vec.coord, slab]
  have hface : slab.nearestFace ⟨0, 0, 0.01⟩ = ⟨.z, true⟩ := by
    norm_num [nearestFace, faces, Axis.all, gap, Vec.coord, slab]
  simp only [clear, hstop, hinside, if_true, pushOut, hface, clearance_slab]
  norm_num [beyond, Vec.withCoord, slab, Vec.coord]

/-- A request to go a little inward. -/
noncomputable def Dolly.inward : Dolly ℝ := { direction := some "in", distance := some 0.01 }

/-- A dolly within the slab ends on its target. -/
lemma Dolly.perform_inward (d : ℝ) :
    (Move.dolly .inward).perform ⟨⟨some .slab, []⟩, .free, .standard, d⟩ .within =
      .ok ((⟨⟨some .slab, []⟩, .free, .standard, d⟩ : Stage ℝ).reach
        ⟨⟨0, 0, 0.15⟩, ⟨0, 0, 0.15⟩⟩ none none) := by
  have hpositive : Scalar.isFinite (0.01 : ℝ) = true ∧ 0 < (0.01 : ℝ) := ⟨rfl, by norm_num⟩
  have hsign : (heading.sign .inward : ℝ) = 1 := rfl
  have hfar : ¬ Pose.within.distance < (Settings.standard : Settings ℝ).epsilon := by
    rw [Pose.distance_within]
    norm_num [Settings.standard]
  obtain ⟨frame, hframe, hforward⟩ := Frame.exists_ofView hfar
  have hcandidate : Pose.within.position + frame.forward * (0.01 : ℝ) = ⟨0, 0, 0.01⟩ := by
    rw [hforward]
    change _ + Pose.within.view / Pose.within.distance * (0.01 : ℝ) = _
    rw [Pose.distance_within]
    ext
    · norm_num [Pose.view, Pose.within]
    · norm_num [Pose.view, Pose.within]
    · norm_num [Pose.view, Pose.within]
  have htravel : Dolly.inward.travelFor ⟨⟨some .slab, []⟩, .free, .standard, d⟩ .within
      frame.forward (some .inward) = .ok 0.01 := by
    simp only [travelFor, travel?, inward, positive, if_pos hpositive]
    exact congrArg Except.ok ((congrArg (· * (0.01 : ℝ)) hsign).trans (one_mul _))
  have hcap : cap ⟨⟨some .slab, []⟩, .free, .standard, d⟩ Pose.within.distance 0.01 = 0.01 := by
    rw [cap, Pose.distance_within]
    norm_num [Settings.standard]
  have hlong : ¬ Scalar.abs (0.01 : ℝ) < (Settings.standard : Settings ℝ).epsilon := by
    norm_num [Settings.standard]
  have hplace : (⟨some .slab, []⟩ : Scene ℝ).place .free (Settings.standard : Settings ℝ).epsilon
      Pose.within.position ⟨0, 0, 0.01⟩ Pose.within.target = ⟨0, 0, 0.15⟩ := by
    rw [Scene.place_eq_settle rfl]
    change (Box.slab.lift 0).clear ⟨0, 0, 0⟩ ⟨0, 0, 0.01⟩ = ⟨0, 0, 0.15⟩
    rw [Box.lift_zero_real, Box.clear_slab]
  simp only [Move.perform, Dolly.perform, hframe]
  refine bind_eq_ok_iff.mpr ⟨some .inward, rfl, bind_eq_ok_iff.mpr ⟨0.01, htravel, ?_⟩⟩
  rw [hcap, if_neg hlong, hcandidate, Stage.place, hplace]
  rfl

/-- **Moves onto the target.**

With the standard settings, a zoom by a small factor brings the camera nearer to its target than the
length below which a vector has no direction, and a box can push a camera within it onto its
target. -/
theorem Plan.ends_on_target :
    (Settings.standard : Settings ℝ).epsilon ≤ (Settings.standard : Settings ℝ).standoff ∧
    ((Settings.standard : Settings ℝ).epsilon ≤ Pose.ahead.distance ∧
      ∃ i, (only (.zoom (.by 0.0000001))).interpret .empty .free .standard .ahead = .ok i ∧
        ∃ k ∈ i.keyframes, k.pose.distance < (Settings.standard : Settings ℝ).epsilon) ∧
    (Settings.standard : Settings ℝ).epsilon ≤ Pose.within.distance ∧
      ∃ i, (only (.dolly .inward)).interpret ⟨some .slab, []⟩ .free .standard .within = .ok i ∧
        ∃ k ∈ i.keyframes, k.pose.distance < (Settings.standard : Settings ℝ).epsilon := by
  have hx : (0 : ℝ) < 0.0000001 := by norm_num
  obtain ⟨i, hi, k, hk, hpose⟩ := exists_keyframe_only (Zoom.perform_by hx)
  obtain ⟨i', hi', k', hk', hpose'⟩ := exists_keyframe_only Dolly.perform_inward
  refine ⟨by norm_num [Settings.standard], ⟨?_, i, hi, k, hk, ?_⟩, ?_, i', hi', k', hk', ?_⟩
  · rw [Pose.distance_ahead]
    norm_num [Settings.standard]
  · have hdistance : (⟨⟨0, 0, 5 * 0.0000001⟩, ⟨0, 0, 0⟩⟩ : Pose ℝ).distance = 0.0000005 := by
      refine Vec.norm_eq_of_dot_eq_mul_self (by norm_num) ?_
      norm_num [Vec.dot, Pose.view]
    rw [hpose, hdistance]
    norm_num [Settings.standard]
  · rw [Pose.distance_within]
    norm_num [Settings.standard]
  · have hdistance : (⟨⟨0, 0, 0.15⟩, ⟨0, 0, 0.15⟩⟩ : Pose ℝ).distance = 0 := by
      refine Vec.norm_eq_of_dot_eq_mul_self le_rfl ?_
      norm_num [Vec.dot, Pose.view]
    rw [hpose', hdistance]
    norm_num [Settings.standard]

end Cinematics
