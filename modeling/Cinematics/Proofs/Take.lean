import Cinematics.Proofs.Performance

/-!
# What all takes have in common

The eleven moves give very different takes, but the camera can do only four things: look somewhere
from where it is, go to one place, go along an arc, or cut to a place (`Move.Course`).  One case
analysis over the moves shows this (`Move.perform_course`), and what takes have in common follows
from it.  A take is never empty and ends in the pose of its last keyframe
(`Move.perform_endsAtPose`); what it notes as unsupported can be read off the request
(`Move.perform_unsupported`); and the camera gets to a new position in one way only, by being placed
from the position before it.

The last fact is stated as a principle, `Move.perform_positions`: a property of positions that
placing preserves holds of every position of a take, if it holds where the move starts.  Placing
counts distances from an anchor, and which one is the move's own choice, so the principle asks for
preservation only under the anchors that `Move.CountsFrom` allows.
-/

namespace Cinematics

variable {α : Type}

/-! ### The end of a take -/

/-- The take has keyframes, and its pose is that of the last one. -/
def Take.EndsAtPose (take : Take α) : Prop :=
  (take.keyframes.map (·.pose)).getLast? = some take.pose

/-- What holds of the pose of a single keyframe holds of all poses of the take. -/
lemma Take.single_poses (Q : Pose α → Prop) {next : Pose α} {duration : α} {easing : Easing}
    (h : Q next) : ∀ k ∈ (Take.single next duration easing).keyframes, Q k.pose := by
  intro k hk
  rw [List.mem_singleton.mp hk]
  exact h

/-- A take that ends at a pose is not empty. -/
lemma Take.EndsAtPose.keyframes_ne_nil {take : Take α} (h : take.EndsAtPose) :
    take.keyframes ≠ [] := by
  intro hnil
  simp [Take.EndsAtPose, hnil] at h

/-- What holds of the poses of all keyframes holds of the pose at the end. -/
lemma Take.EndsAtPose.of_forall {take : Take α} (h : take.EndsAtPose) {Q : Pose α → Prop}
    (hall : ∀ k ∈ take.keyframes, Q k.pose) : Q take.pose := by
  obtain ⟨k, hk, hpose⟩ := List.mem_map.mp (List.mem_of_getLast? h)
  exact hpose ▸ hall k hk

variable [Scalar α] {stage : Stage α} {pose : Pose α} {take : Take α}

namespace Orbit.Arc

variable {arc : Arc α} {start : Vec α}

/-- There is one place for each segment. -/
lemma length_places (ks : List Nat) : (arc.places stage start ks).length = ks.length := by
  induction ks generalizing start with
  | nil => rfl
  | cons k ks ih => simp [places, ih]

/-- What placing about the center preserves holds of all places along an arc.  The induction is on
the segments; each place is the start of the next one. -/
lemma forall_places {P : Vec α → Prop}
    (hplace : ∀ s c, P s → P (stage.place s c arc.center)) (hstart : P start) (ks : List Nat) :
    ∀ p ∈ arc.places stage start ks, P p := by
  induction ks generalizing start with
  | nil => simp [places]
  | cons k ks ih =>
    intro p hp
    rw [places, List.mem_cons] at hp
    rcases hp with rfl | hp
    · exact hplace _ _ hstart
    · exact ih (hplace _ _ hstart) p hp

/-- The poses along an arc are its places, seen from which the camera looks at the center. -/
lemma map_pose_take (easing : Easing) :
    (arc.take stage start easing).keyframes.map (·.pose) =
      (arc.places stage start (List.range' 1 arc.segments)).map (⟨·, arc.center⟩) := by
  have hmap : ∀ places : List (Vec α),
      places.map (fun p => (⟨p, arc.center⟩ : Pose α)) =
        (places.zipIdx.map Prod.fst).map (⟨·, arc.center⟩) := by
    intro places
    rw [List.zipIdx_map_fst]
  rw [hmap]
  simp only [take, List.map_map]
  rfl

/-- What placing about the center preserves holds at every position of an arc. -/
lemma take_positions {P : Vec α → Prop}
    (hplace : ∀ s c, P s → P (stage.place s c arc.center)) (hstart : P start) (easing : Easing) :
    ∀ k ∈ (arc.take stage start easing).keyframes, P k.pose.position := by
  intro k hk
  have hpose : k.pose ∈ (arc.take stage start easing).keyframes.map (·.pose) :=
    List.mem_map.mpr ⟨k, hk, rfl⟩
  rw [map_pose_take] at hpose
  obtain ⟨p, hp, hpose⟩ := List.mem_map.mp hpose
  rw [← hpose]
  exact forall_places hplace hstart _ p hp

/-- An arc with a segment ends at its last place. -/
lemma take_endsAtPose (easing : Easing) (h : 0 < arc.segments) :
    (arc.take stage start easing).EndsAtPose := by
  have hlength : (arc.places stage start (List.range' 1 arc.segments)).length =
      (List.range' 1 arc.segments).length := length_places _
  rw [Take.EndsAtPose, map_pose_take, List.getLast?_map]
  simp only [take, List.getLastD_eq_getLast?]
  cases hlast : (arc.places stage start (List.range' 1 arc.segments)).getLast? with
  | some p => rfl
  | none =>
    rw [List.getLast?_eq_none_iff] at hlast
    rw [hlast, List.length_range'] at hlength
    exact absurd hlength (Nat.ne_of_lt h)

end Orbit.Arc

/-- Every arc has a segment. -/
lemma Orbit.segmentsFor_pos (settings : Settings α) (degrees : α) :
    0 < Orbit.segmentsFor settings degrees :=
  Nat.lt_of_lt_of_le Nat.zero_lt_one (Nat.le_max_left _ _)

/-- A cut ends where it leads, with a rest or without. -/
lemma Relocation.cut_endsAtPose (pose : Pose α) : (Relocation.cut stage pose).EndsAtPose := by
  simp only [Relocation.cut, Take.EndsAtPose]
  split
  · rfl
  · rfl

/-- A cut is in the pose it leads to all the time. -/
lemma Relocation.cut_poses (Q : Pose α → Prop) {next : Pose α} (h : Q next) :
    ∀ k ∈ (Relocation.cut stage next).keyframes, Q k.pose := by
  intro k hk
  simp only [Relocation.cut, List.mem_cons] at hk
  rcases hk with rfl | hk
  · exact h
  · split at hk
    · rw [List.mem_singleton.mp hk]
      exact h
    · cases hk

/-! ### The course of a move -/

namespace Move

/-- Whether a move that is placed counts distances from a point.  A slide carries its target along,
and may count them from anywhere; a turn is not placed. -/
def CountsFrom (move : Move α) (stage : Stage α) (pose : Pose α) (anchor : Vec α) : Prop :=
  match move with
  | .zoom _ | .dolly _ => anchor = pose.target
  | .orbit request => request.center stage pose = .ok anchor
  | .moveTo request => request.lookingAt stage pose = .ok anchor
  | .truck _ | .pedestal _ => True
  | .hold _ | .pan _ | .tilt _ | .focusOn _ | .rotate _ => False

/-- What a request asks for that has no meaning for the camera. -/
def unrealized : Move α → List Unsupported
  | .rotate request =>
    match (Turn.ViewAxis.parse request.axis : Outcome α Turn.ViewAxis) with
    | .ok .roll => [.roll]
    | _ => []
  | .focusOn request => if request.adjustFraming = some true then [.framing] else []
  | _ => []

/-- What the camera does in the course of a move. -/
inductive Course (move : Move α) (stage : Stage α) (pose : Pose α) : Take α → Prop where
  /-- It stays and looks somewhere. -/
  | look (target : Vec α) (easing : Easing) :
      Course move stage pose
        { Take.single ⟨pose.position, target⟩ stage.duration easing with
          unsupported := move.unrealized }
  /-- It goes to one place. -/
  | go {anchor : Vec α} (candidate target : Vec α) (easing : Easing)
      (hanchor : move.CountsFrom stage pose anchor) (hnone : move.unrealized = []) :
      Course move stage pose
        (.single ⟨stage.place pose.position candidate anchor, target⟩ stage.duration easing)
  /-- It goes along an arc. -/
  | arc (arc : Orbit.Arc α) (easing : Easing) (hcenter : move.CountsFrom stage pose arc.center)
      (hsegments : 0 < arc.segments) (hnone : move.unrealized = []) :
      Course move stage pose (arc.take stage pose.position easing)
  /-- It cuts to one place. -/
  | cut {anchor : Vec α} (candidate target : Vec α)
      (hanchor : move.CountsFrom stage pose anchor) (hnone : move.unrealized = []) :
      Course move stage pose
        (Relocation.cut stage ⟨stage.place pose.position candidate anchor, target⟩)

variable {move : Move α}

/-- A look of a move that asks for nothing in vain. -/
lemma Course.look_of_nil (target : Vec α) (easing : Easing) (hnone : move.unrealized = []) :
    move.Course stage pose (.single ⟨pose.position, target⟩ stage.duration easing) := by
  have hcourse : move.Course stage pose
      { Take.single ⟨pose.position, target⟩ stage.duration easing with
        unsupported := move.unrealized } := .look target easing
  rw [hnone] at hcourse
  exact hcourse

/-- A look of a move that asks for one thing in vain. -/
lemma Course.look_noting {u : Unsupported} (target : Vec α) (easing : Easing)
    (hone : move.unrealized = [u]) :
    move.Course stage pose
      ((Take.single ⟨pose.position, target⟩ stage.duration easing).noting u) := by
  have hcourse : move.Course stage pose
      { Take.single ⟨pose.position, target⟩ stage.duration easing with
        unsupported := move.unrealized } := .look target easing
  rw [hone] at hcourse
  exact hcourse

/-- A turn about an axis is a look. -/
lemma Course.of_about {turn : Turn α} {axis : Turn.ViewAxis} (hnone : move.unrealized = [])
    (h : turn.about axis stage pose = .ok take) : move.Course stage pose take := by
  obtain ⟨_, _, -, -, ⟨-, rfl⟩ | ⟨_, -, ⟨-, rfl⟩ | ⟨-, rfl⟩⟩⟩ := Turn.about_ok h
  · exact .look_of_nil _ _ hnone
  · exact .look_of_nil _ _ hnone
  · exact .look_of_nil _ _ hnone

/-- A slide stays or goes to one place. -/
lemma Course.of_along {slide : Slide α} {kind : MoveKind} {heading : Heading} {axis : Vec α}
    (hanchor : ∀ anchor, move.CountsFrom stage pose anchor) (hnone : move.unrealized = [])
    (h : slide.along stage pose kind heading axis = .ok take) : move.Course stage pose take := by
  obtain ⟨_, _, -, -, ⟨-, rfl⟩ | ⟨-, rfl⟩⟩ := Slide.along_ok h
  · exact .look_of_nil _ _ hnone
  · exact .go _ _ _ (hanchor _) hnone

/-- **The camera can do four things.**  The case analysis over the moves is made here, and nowhere
else. -/
theorem perform_course (h : move.perform stage pose = .ok take) :
    move.Course stage pose take := by
  cases move with
  | hold request =>
    obtain rfl := Except.ok.inj h
    exact .look _ _
  | zoom request =>
    obtain ⟨-, rfl⟩ | ⟨_, _, -, -, -, rfl⟩ := Zoom.perform_ok h
    · exact .look _ _
    · exact .go _ _ _ rfl rfl
  | orbit request =>
    obtain ⟨center, degrees, _, _, hcenter, -, -, -, ⟨-, rfl⟩ | ⟨-, -, rfl⟩ | ⟨-, -, rfl⟩⟩ :=
      Orbit.perform_ok h
    · exact .look _ _
    · exact .look _ _
    · exact .arc _ _ hcenter (Orbit.segmentsFor_pos _ degrees) rfl
  | pan request => exact .of_about rfl h
  | tilt request =>
    obtain ⟨_, _, -, -, rfl⟩ | ⟨-, habout⟩ := Turn.tilt_ok h
    · exact .look _ _
    · exact .of_about rfl habout
  | dolly request =>
    obtain ⟨-, rfl⟩ | ⟨_, _, _, -, -, -, ⟨-, rfl⟩ | ⟨-, rfl⟩⟩ := Dolly.perform_ok h
    · exact .look _ _
    · exact .look _ _
    · exact .go _ _ _ rfl rfl
  | truck request =>
    obtain ⟨-, rfl⟩ | ⟨_, -, halong⟩ := Slide.truck_ok h
    · exact .look _ _
    · exact .of_along (fun _ => trivial) rfl halong
  | pedestal request => exact .of_along (fun _ => trivial) rfl (Slide.pedestal_ok h)
  | moveTo request =>
    obtain ⟨_, _, _, _, -, -, htarget, -, _, rfl, -, ⟨-, rfl⟩ | ⟨-, rfl⟩⟩ :=
      Relocation.perform_ok h
    · exact .cut _ _ htarget rfl
    · exact .go _ _ _ htarget rfl
  | focusOn request =>
    obtain ⟨_, _, -, -, rfl⟩ := Refocus.perform_ok h
    by_cases hframing : request.adjustFraming = some true
    · rw [if_pos hframing]
      exact .look_noting _ _ (if_pos hframing)
    · rw [if_neg hframing]
      exact .look_of_nil _ _ (if_neg hframing)
  | rotate request =>
    obtain ⟨haxis, rfl⟩ | ⟨axis, haxis, hroll, habout⟩ := Turn.rotate_ok h
    · refine .look_noting _ _ ?_
      simp only [unrealized, haxis]
    · refine .of_about ?_ habout
      cases axis with
      | roll => exact absurd rfl hroll
      | yaw => simp only [unrealized, haxis]
      | pitch => simp only [unrealized, haxis]

/-! ### What follows for all moves -/

/-- A take is not empty, and its pose is that of its last keyframe. -/
theorem perform_endsAtPose (h : move.perform stage pose = .ok take) : take.EndsAtPose := by
  cases perform_course h with
  | look target easing => rfl
  | go candidate target easing => rfl
  | arc arc easing hcenter hsegments => exact Orbit.Arc.take_endsAtPose easing hsegments
  | cut candidate target => exact Relocation.cut_endsAtPose _

/-- A take notes what its request asks for in vain, and nothing else. -/
theorem perform_unsupported (h : move.perform stage pose = .ok take) :
    take.unsupported = move.unrealized := by
  cases perform_course h with
  | look target easing => rfl
  | go candidate target easing hanchor hnone => exact hnone.symm
  | arc arc easing hcenter hsegments hnone => exact hnone.symm
  | cut candidate target hanchor hnone => exact hnone.symm

/-- **Placing is the only way to move.**  What placing preserves, with distances counted from an
anchor of the move, holds at every position of a take if it holds where the move starts. -/
theorem perform_positions {P : Vec α → Prop}
    (hplace : ∀ s c a, move.CountsFrom stage pose a → P s → P (stage.place s c a))
    (h : move.perform stage pose = .ok take) (hstart : P pose.position) :
    ∀ k ∈ take.keyframes, P k.pose.position := by
  cases perform_course h with
  | look target easing => exact Take.single_poses (P ·.position) hstart
  | go candidate target easing hanchor =>
    exact Take.single_poses (P ·.position) (hplace _ _ _ hanchor hstart)
  | arc arc easing hcenter =>
    exact Orbit.Arc.take_positions (fun s c => hplace s c _ hcenter) hstart easing
  | cut candidate target hanchor =>
    exact Relocation.cut_poses (P ·.position) (hplace _ _ _ hanchor hstart)

end Move

end Cinematics
