import Cinematics.Proofs.Take

/-!
# Takes before they are timed

A move reads its stage in a few ways only, and `Stage.Corresponds` lists them: it looks up names,
has places confined, and asks for sizes and limits.  Two stages correspond along a map of points
when every such reading gives the same in both, up to the map; the seconds that they give to the
move may differ.

In corresponding stages a move comes to the same fault, or to takes of the same `Sketch`, which is a
take before its time is shared out (`Move.sketched_perform`).  The eleven moves are walked through
once for this, and what follows for scenes that are translated, for subjects that are shown higher
and for plans that are timed differently are facts about sketches.
-/

namespace Cinematics

variable {α : Type}

/-! ### Points that are mapped -/

/-- The pose with both points mapped. -/
def Pose.map (τ : Vec α → Vec α) (p : Pose α) : Pose α := ⟨τ p.position, τ p.target⟩

@[simp] lemma Pose.map_position (τ : Vec α → Vec α) (p : Pose α) :
    (p.map τ).position = τ p.position := rfl

@[simp] lemma Pose.map_target (τ : Vec α → Vec α) (p : Pose α) :
    (p.map τ).target = τ p.target := rfl

/-- The keyframe with its pose mapped. -/
def Keyframe.map (τ : Vec α → Vec α) (k : Keyframe α) : Keyframe α := { k with pose := k.pose.map τ }

/-- The take with all its poses mapped. -/
def Take.map (τ : Vec α → Vec α) (take : Take α) : Take α :=
  { take with keyframes := take.keyframes.map (·.map τ), pose := take.pose.map τ }

/-- A mapped result and the result itself lead to the same, if what follows makes up for the map. -/
lemma map_bind_congr {ε β γ δ : Type} {x : Except ε β} {g : β → γ} {f : β → Except ε δ}
    {f' : γ → Except ε δ} (hf : ∀ b, f' (g b) = f b) : x.map g >>= f' = x >>= f := by
  cases x with
  | error e => rfl
  | ok b => exact hf b

/-! ### Sketches -/

/-- A take before it is timed. -/
inductive Sketch (α : Type) where
  /-- One pose. -/
  | single (pose : Pose α) (easing : Easing) (unsupported : List Unsupported)
  /-- One place after the other, seen from which the camera looks at a center. -/
  | arc (center first : Vec α) (rest : List (Vec α)) (easing : Easing)
  /-- A cut to one pose. -/
  | cut (pose : Pose α)

/-- Whether a move is at its place almost at once and rests there. -/
def Move.isCut : Move α → Bool
  | .moveTo request => request.speed.bind Pace.parse? = some .instant
  | _ => false

namespace Sketch

/-- Whether a sketch is one of a cut. -/
def isCut : Sketch α → Bool
  | .cut _ => true
  | .single _ _ _ | .arc _ _ _ _ => false

/-- The sketch with all its points mapped. -/
def map (τ : Vec α → Vec α) : Sketch α → Sketch α
  | .single pose easing unsupported => .single (pose.map τ) easing unsupported
  | .arc center first rest easing => .arc (τ center) (τ first) (rest.map τ) easing
  | .cut pose => .cut (pose.map τ)

/-- Points that stay where they are change nothing. -/
lemma map_self (s : Sketch α) : s.map (fun p => p) = s := by
  cases s with
  | single pose easing unsupported => rfl
  | arc center first rest easing => rw [map, List.map_id']
  | cut pose => rfl

variable [Scalar α]

/-- The take of a sketch in the time of a stage. -/
def take (stage : Stage α) : Sketch α → Take α
  | .single pose easing unsupported => { Take.single pose stage.duration easing with unsupported }
  | .arc center first rest easing =>
    { keyframes :=
        (first :: rest).zipIdx.map fun (position, i) =>
          ⟨⟨position, center⟩, stage.duration / Scalar.ofNat (first :: rest).length,
            easing.forSegment i (first :: rest).length⟩
      pose := ⟨(first :: rest).getLastD first, center⟩
      unsupported := [] }
  | .cut pose => Relocation.cut stage pose

end Sketch

variable [Scalar α]

/-! ### Stages that correspond -/

/-- Two stages correspond along a map of points when whatever a move reads in one of them, apart
from the seconds, it reads in the other up to the map.  The map keeps the ways between points. -/
structure Stage.Corresponds (τ : Vec α → Vec α) (stage stage' : Stage α) : Prop where
  /-- The way from one point to another is kept. -/
  sub_eq : ∀ p q, τ p - τ q = p - q
  /-- A way from a point leads where it led before. -/
  add_eq : ∀ p d, τ p + d = τ (p + d)
  /-- Points stay finite or not. -/
  isFinite_eq : ∀ p : Vec α, (τ p).isFinite = p.isFinite
  /-- The settings are the same. -/
  settings_eq : stage'.settings = stage.settings
  /-- The size of the subject is the same. -/
  size_eq : stage'.scene.size = stage.scene.size
  /-- Travel is measured by the same distance. -/
  travelBase_eq : ∀ kind distance,
    Amount.travelBase kind stage'.scene distance = Amount.travelBase kind stage.scene distance
  /-- The limits of distance are the same. -/
  clampFactor_eq : ∀ factor distance,
    Amount.clampFactor factor distance stage'.around =
      Amount.clampFactor factor distance stage.around
  /-- A name stands for the same place, or for none in both. -/
  locate_eq : ∀ current name,
    stage'.scene.locate stage'.around (τ current) name =
      (stage.scene.locate stage.around current name).map τ
  /-- The camera is placed where it would be placed. -/
  place_eq : ∀ start candidate anchor,
    stage'.place (τ start) (τ candidate) (τ anchor) = τ (stage.place start candidate anchor)
  /-- A slide leads where it would lead. -/
  candidate_eq : ∀ pose axis travel,
    Slide.candidate stage' (Pose.map τ pose) axis travel = τ (Slide.candidate stage pose axis travel)

namespace Stage.Corresponds

variable {τ : Vec α → Vec α} {stage stage' : Stage α} (h : stage.Corresponds τ stage')

/-- A stage corresponds to itself at any time. -/
lemma refl (stage : Stage α) (duration : α) :
    stage.Corresponds (fun p => p) { stage with duration } where
  sub_eq _ _ := rfl
  add_eq _ _ := rfl
  isFinite_eq _ := rfl
  settings_eq := rfl
  size_eq := rfl
  travelBase_eq _ _ := rfl
  clampFactor_eq _ _ := rfl
  locate_eq current name := by cases stage.scene.locate stage.around current name <;> rfl
  place_eq _ _ _ := rfl
  candidate_eq _ _ _ := rfl

include h

/-- The view is the same. -/
lemma view_map (pose : Pose α) : (pose.map τ).view = pose.view :=
  h.sub_eq _ _

/-- The distance to the target is the same. -/
lemma distance_map (pose : Pose α) : (pose.map τ).distance = pose.distance := by
  rw [Pose.distance, Pose.distance, h.view_map]

/-- The camera has the same axes. -/
lemma ofView_map (p t : Vec α) (eps : α) : Frame.ofView (τ p) (τ t) eps = Frame.ofView p t eps := by
  rw [Frame.ofView, Frame.ofView, h.sub_eq]

/-- Easings are the same. -/
lemma easing_eq (easing speed : Option String) :
    stage'.easing easing speed = stage.easing easing speed := by
  rw [Stage.easing, Stage.easing, h.settings_eq]

/-- A place is found where it was, or is at fault in the same way. -/
lemma locate_map (pose : Pose α) (name : String) :
    stage'.locate (pose.map τ) name = (stage.locate pose name).map τ := by
  rw [Stage.locate, Stage.locate, Pose.map_target, h.locate_eq]
  cases stage.scene.locate stage.around pose.target name with
  | some p => rfl
  | none => rfl

/-- The distance to end at is the same. -/
lemma framing_eq (amount : Amount) : amount.framing stage'.scene = amount.framing stage.scene := by
  rw [Amount.framing, Amount.framing, h.size_eq]

/-- The distance to travel is the same. -/
lemma travel?_map (kind : MoveKind) (pose : Pose α) (distance : Option α)
    (descriptor : Option String) :
    travel? kind stage'.scene (pose.map τ) distance descriptor =
      travel? kind stage.scene pose distance descriptor := by
  simp only [travel?, Amount.travel, h.size_eq, h.travelBase_eq, h.distance_map]

/-- A place to look at is found where it was, or is at fault in the same way. -/
lemma lookable_map (pose : Pose α) (name : String) :
    Turn.lookable stage' (pose.map τ) name = (Turn.lookable stage pose name).map τ := by
  simp only [Turn.lookable, h.locate_map, h.settings_eq, Pose.map_position]
  cases stage.locate pose name with
  | error fault => rfl
  | ok target =>
    simp only [Except.map, bind, Except.bind, h.sub_eq]
    split
    · rfl
    · rfl

end Stage.Corresponds

/-! ### Outcomes of one sketch -/

/-- Two outcomes of one move in corresponding stages: the takes of one sketch, or the same fault. -/
inductive Sketched (τ : Vec α → Vec α) (stage stage' : Stage α) (isCut : Bool) :
    Outcome α (Take α) → Outcome α (Take α) → Prop where
  /-- The moves succeed alike. -/
  | ok (s : Sketch α) (hcut : s.isCut = isCut) :
      Sketched τ stage stage' isCut (.ok (s.take stage)) (.ok ((s.map τ).take stage'))
  /-- The moves fail alike. -/
  | error (fault : Fault α) : Sketched τ stage stage' isCut (.error fault) (.error fault)

namespace Sketched

variable {β : Type} {τ : Vec α → Vec α} {stage stage' : Stage α} {isCut : Bool}

/-- What follows on the same result. -/
lemma bind {x : Outcome α β} {f f' : β → Outcome α (Take α)}
    (hf : ∀ b, x = .ok b → Sketched τ stage stage' isCut (f b) (f' b)) :
    Sketched τ stage stage' isCut (x >>= f) (x >>= f') := by
  cases x with
  | error fault => exact .error fault
  | ok b => exact hf b rfl

/-- What follows on a point and on the point that it is mapped to. -/
lemma bind_map {x : Outcome α (Vec α)} {f f' : Vec α → Outcome α (Take α)}
    (hf : ∀ p, x = .ok p → Sketched τ stage stage' isCut (f p) (f' (τ p))) :
    Sketched τ stage stage' isCut (x >>= f) (x.map τ >>= f') := by
  cases x with
  | error fault => exact .error fault
  | ok p => exact hf p rfl

/-- A camera that stays. -/
lemma still (pose : Pose α) :
    Sketched τ stage stage' false (.ok (stage.still pose)) (.ok (stage'.still (pose.map τ))) :=
  .ok (.single pose .linear []) rfl

/-- A camera that takes all the time to get to a pose. -/
lemma reach (h : stage.Corresponds τ stage') (pose : Pose α) (easing speed : Option String) :
    Sketched τ stage stage' false (.ok (stage.reach pose easing speed))
      (.ok (stage'.reach (pose.map τ) easing speed)) := by
  rw [Stage.reach, Stage.reach, h.easing_eq]
  exact .ok (.single pose (stage.easing easing speed) []) rfl

end Sketched

/-! ### The moves -/

section Moves

variable {τ : Vec α → Vec α} {stage stage' : Stage α}

/-- Zooms in corresponding stages. -/
lemma Zoom.sketched_perform (h : stage.Corresponds τ stage') (zoom : Zoom α) (pose : Pose α) :
    Sketched τ stage stage' false (zoom.perform stage pose)
      (zoom.perform stage' (pose.map τ)) := by
  have hfactor : ∀ current direction,
      zoom.factorFor stage' current direction = zoom.factorFor stage current direction := by
    intro current direction
    simp only [factorFor, Amount.factor, h.clampFactor_eq, h.framing_eq]
  simp only [perform, h.distance_map, h.settings_eq, hfactor, Pose.map_position, Pose.map_target,
    h.sub_eq, h.add_eq, h.place_eq]
  split
  · exact .still pose
  · refine .bind fun direction _ => .bind fun factor _ => ?_
    exact .reach h ⟨_, pose.target⟩ _ _

/-- Dollies in corresponding stages. -/
lemma Dolly.sketched_perform (h : stage.Corresponds τ stage') (dolly : Dolly α) (pose : Pose α) :
    Sketched τ stage stage' false (dolly.perform stage pose)
      (dolly.perform stage' (pose.map τ)) := by
  have htravel : ∀ forward direction,
      dolly.travelFor stage' (pose.map τ) forward direction =
        dolly.travelFor stage pose forward direction := by
    intro forward direction
    simp only [travelFor, h.travel?_map, h.distance_map, h.framing_eq, h.locate_map,
      Pose.map_position]
    refine bind_congr fun travel => ?_
    cases travel with
    | some travel => rfl
    | none =>
      cases dolly.destinationTarget with
      | none => rfl
      | some name => exact map_bind_congr fun destination => by rw [h.sub_eq]
  have hcap : ∀ current travel, cap stage' current travel = cap stage current travel := by
    intro current travel
    rw [cap, cap, h.settings_eq]
  simp only [perform, h.distance_map, h.settings_eq, h.ofView_map, htravel, hcap,
    Pose.map_position, Pose.map_target, h.add_eq, h.place_eq]
  split
  · exact .still pose
  · refine .bind fun direction _ => .bind fun travel _ => ?_
    split
    · exact .still pose
    · exact .reach h ⟨_, pose.target⟩ _ _

/-- Slides along one axis in corresponding stages. -/
lemma Slide.sketched_along (h : stage.Corresponds τ stage') (slide : Slide α) (pose : Pose α)
    (kind : MoveKind) (heading : Heading) (axis : Vec α) :
    Sketched τ stage stage' false (slide.along stage pose kind heading axis)
      (slide.along stage' (pose.map τ) kind heading axis) := by
  have htravel : ∀ direction,
      slide.travelFor stage' (pose.map τ) kind heading axis direction =
        slide.travelFor stage pose kind heading axis direction := by
    intro direction
    simp only [travelFor, h.travel?_map, h.locate_map, Pose.map_position]
    refine bind_congr fun travel => ?_
    cases travel with
    | some travel => rfl
    | none =>
      refine bind_congr fun name => ?_
      exact map_bind_congr fun destination => by rw [h.sub_eq]
  have hcarry : ∀ position, carry (pose.map τ) (τ position) = (carry pose position).map τ := by
    intro position
    simp only [carry, Pose.map, h.sub_eq, h.add_eq]
  simp only [along, htravel, h.settings_eq, h.candidate_eq, h.view_map, Pose.map_position, h.add_eq,
    h.place_eq, hcarry]
  refine .bind fun direction _ => .bind fun travel _ => ?_
  split
  · exact .still pose
  · exact .reach h _ _ _

/-- Trucks in corresponding stages. -/
lemma Slide.sketched_truck (h : stage.Corresponds τ stage') (slide : Slide α) (pose : Pose α) :
    Sketched τ stage stage' false (slide.truck stage pose) (slide.truck stage' (pose.map τ)) := by
  simp only [truck, h.settings_eq, Pose.map_position, Pose.map_target, h.ofView_map]
  split
  · exact .still pose
  · exact sketched_along h slide pose _ _ _

/-- An arc about the mapped center goes through the mapped places.  The induction is on the
segments; each place is the start of the next one. -/
lemma Orbit.Arc.places_map (h : stage.Corresponds τ stage') (arc : Orbit.Arc α) (start : Vec α)
    (ks : List Nat) :
    Orbit.Arc.places { arc with center := τ arc.center } stage' (τ start) ks =
      (arc.places stage start ks).map τ := by
  induction ks generalizing start with
  | nil => rfl
  | cons k ks ih =>
    have hpoint : Orbit.Arc.point { arc with center := τ arc.center } k = τ (arc.point k) :=
      h.add_eq _ _
    rw [places, places, List.map_cons, hpoint, h.place_eq, ih]

/-- An arc with a segment is a sketch of its places. -/
lemma Orbit.Arc.take_eq_take {arc : Orbit.Arc α} {start first : Vec α} {rest : List (Vec α)}
    (easing : Easing)
    (hplaces : arc.places stage start (List.range' 1 arc.segments) = first :: rest) :
    arc.take stage start easing = (Sketch.arc arc.center first rest easing).take stage := by
  have hlength : (first :: rest).length = arc.segments := by
    rw [← hplaces, length_places, List.length_range']
  simp only [take, Sketch.take, hplaces, hlength, List.getLastD_cons]

/-- Arcs about a center and about the mapped one. -/
lemma Sketched.arc (h : stage.Corresponds τ stage') (arc : Orbit.Arc α) (start : Vec α)
    (easing : Easing) (hsegments : 0 < arc.segments) :
    Sketched τ stage stage' false (.ok (arc.take stage start easing))
      (.ok (Orbit.Arc.take { arc with center := τ arc.center } stage' (τ start) easing)) := by
  cases hplaces : arc.places stage start (List.range' 1 arc.segments) with
  | nil =>
    -- An arc has at least one segment, and each segment ends at a place.
    have hlength : (arc.places stage start (List.range' 1 arc.segments)).length =
        (List.range' 1 arc.segments).length := Orbit.Arc.length_places _
    rw [hplaces, List.length_range'] at hlength
    exact absurd hlength (Nat.ne_of_lt hsegments)
  | cons first rest =>
    have hplaces' : Orbit.Arc.places { arc with center := τ arc.center } stage' (τ start)
        (List.range' 1 arc.segments) = τ first :: rest.map τ := by
      rw [Orbit.Arc.places_map h, hplaces, List.map_cons]
    rw [Orbit.Arc.take_eq_take easing hplaces, Orbit.Arc.take_eq_take easing hplaces']
    exact .ok (.arc arc.center first rest easing) rfl

/-- Orbits in corresponding stages. -/
lemma Orbit.sketched_perform (h : stage.Corresponds τ stage') (orbit : Orbit α) (pose : Pose α) :
    Sketched τ stage stage' false (orbit.perform stage pose)
      (orbit.perform stage' (pose.map τ)) := by
  have hcenter : orbit.center stage' (pose.map τ) = (orbit.center stage pose).map τ := by
    simp only [center, h.locate_map, Pose.map_target, h.locate_eq]
    cases orbit.target with
    | some name => rfl
    | none => cases stage.scene.locate stage.around pose.target "object_center" <;> rfl
  have hangle : orbit.angleFor stage' = orbit.angleFor stage := by
    simp only [angleFor, h.settings_eq]
  have haxis : ∀ (around : Around) (eps : α), around.vec (pose.map τ) eps = around.vec pose eps := by
    intro around eps
    cases around with
    | world axis => rfl
    | cameraUp => simp only [Around.vec, Pose.map_position, Pose.map_target, h.ofView_map]
  simp only [perform_eq, hcenter, hangle, haxis, h.settings_eq]
  refine .bind_map fun center _ => .bind fun degrees _ => .bind fun radiusFactor _ =>
    .bind fun around _ => ?_
  simp only [Pose.map_position, h.sub_eq, h.easing_eq]
  split
  · exact .still pose
  · split
    · exact .still ⟨pose.position, center⟩
    · exact .arc h _ _ _ (segmentsFor_pos _ degrees)

/-- Turns about one axis in corresponding stages. -/
lemma Turn.sketched_about (h : stage.Corresponds τ stage') (turn : Turn α) (axis : ViewAxis)
    (pose : Pose α) :
    Sketched τ stage stage' false (turn.about axis stage pose)
      (turn.about axis stage' (pose.map τ)) := by
  simp only [about, h.settings_eq, h.view_map, Pose.map_position, Pose.map_target, h.ofView_map,
    h.add_eq]
  refine .bind fun direction _ => .bind fun degrees _ => ?_
  split
  · exact .still pose
  · split
    · exact .still pose
    · exact .reach h ⟨pose.position, _⟩ _ _

/-- Tilts in corresponding stages. -/
lemma Turn.sketched_tilt (h : stage.Corresponds τ stage') (turn : Turn α) (pose : Pose α) :
    Sketched τ stage stage' false (turn.tilt stage pose) (turn.tilt stage' (pose.map τ)) := by
  simp only [tilt, h.lookable_map, Pose.map_position]
  cases turn.target with
  | none => exact sketched_about h turn .pitch pose
  | some name => exact .bind_map fun target _ => .reach h ⟨pose.position, target⟩ _ _

/-- Turns about a chosen axis in corresponding stages. -/
lemma Turn.sketched_rotate (h : stage.Corresponds τ stage') (turn : Turn α) (pose : Pose α) :
    Sketched τ stage stage' false (turn.rotate stage pose) (turn.rotate stage' (pose.map τ)) := by
  simp only [rotate]
  refine .bind fun axis _ => ?_
  cases axis with
  | yaw => exact sketched_about h turn .yaw pose
  | pitch => exact sketched_about h turn .pitch pose
  | roll => exact .ok (.single pose .linear [.roll]) rfl

/-- Relocations in corresponding stages. -/
lemma Relocation.sketched_perform (h : stage.Corresponds τ stage') (relocation : Relocation)
    (pose : Pose α) :
    Sketched τ stage stage' (Move.isCut (.moveTo relocation : Move α))
      (relocation.perform stage pose) (relocation.perform stage' (pose.map τ)) := by
  have hlook : relocation.lookingAt stage' (pose.map τ) =
      (relocation.lookingAt stage pose).map τ := by
    simp only [lookingAt, h.locate_map, Pose.map_target]
    cases relocation.lookAt with
    | some name => rfl
    | none => rfl
  have hcandidate : ∀ amount destination,
      candidate amount stage' (pose.map τ) (τ destination) =
        τ (candidate amount stage pose destination) := by
    intro amount destination
    cases amount with
    | none => rfl
    | some amount =>
      simp only [candidate, h.settings_eq, h.view_map, Pose.map_position, h.sub_eq, h.framing_eq,
        h.add_eq]
  simp only [perform, h.locate_map, hlook, h.settings_eq, Move.isCut]
  refine .bind fun name _ => .bind_map fun destination _ => .bind_map fun target _ =>
    .bind fun amount _ => ?_
  simp only [hcandidate, Pose.map_position, h.place_eq, h.sub_eq]
  split
  · exact .error _
  · split
    · rename_i hinstant
      exact .ok (.cut ⟨_, target⟩) (by simp [Sketch.isCut, hinstant])
    · rename_i hinstant
      rw [decide_eq_false hinstant]
      exact .reach h ⟨_, target⟩ _ _

/-- Refocuses in corresponding stages. -/
lemma Refocus.sketched_perform (h : stage.Corresponds τ stage') (refocus : Refocus)
    (pose : Pose α) :
    Sketched τ stage stage' false (refocus.perform stage pose)
      (refocus.perform stage' (pose.map τ)) := by
  simp only [perform, h.lookable_map, Pose.map_position]
  refine .bind fun name _ => .bind_map fun target _ => ?_
  split
  · simp only [Stage.reach, h.easing_eq]
    exact .ok (.single ⟨pose.position, target⟩ _ [.framing]) rfl
  · exact .reach h ⟨pose.position, target⟩ _ _

/-- **A move sees its stage and nothing else.**  In corresponding stages it comes to the same fault,
or to takes of one sketch. -/
theorem Move.sketched_perform (h : stage.Corresponds τ stage') (move : Move α) (pose : Pose α) :
    Sketched τ stage stage' move.isCut (move.perform stage pose)
      (move.perform stage' (pose.map τ)) := by
  cases move with
  | hold request => exact .still pose
  | zoom request => exact request.sketched_perform h pose
  | orbit request => exact request.sketched_perform h pose
  | pan request => exact request.sketched_about h .yaw pose
  | tilt request => exact request.sketched_tilt h pose
  | dolly request => exact request.sketched_perform h pose
  | truck request => exact request.sketched_truck h pose
  | pedestal request => exact request.sketched_along h pose _ _ _
  | moveTo request => exact request.sketched_perform h pose
  | focusOn request => exact request.sketched_perform h pose
  | rotate request => exact request.sketched_rotate h pose

/-- At another time a move comes to the same fault, or to the take of the same sketch. -/
lemma Move.perform_at_time (move : Move α) (stage : Stage α) (duration : α) (pose : Pose α) :
    (∃ fault, move.perform stage pose = .error fault ∧
      move.perform { stage with duration } pose = .error fault) ∨
    ∃ s : Sketch α, s.isCut = move.isCut ∧ move.perform stage pose = .ok (s.take stage) ∧
      move.perform { stage with duration } pose = .ok (s.take { stage with duration }) := by
  have hsketched := move.sketched_perform (.refl stage duration) pose
  have hpose : pose.map (fun p => p) = pose := rfl
  rw [hpose] at hsketched
  generalize move.perform stage pose = x at hsketched
  generalize move.perform { stage with duration } pose = x' at hsketched
  cases hsketched with
  | ok s hcut => exact .inr ⟨s, hcut, rfl, by rw [s.map_self]⟩
  | error fault => exact .inl ⟨fault, rfl, rfl⟩

/-- A take is that of a sketch. -/
lemma Move.perform_eq_take {move : Move α} {pose : Pose α} {take : Take α}
    (h : move.perform stage pose = .ok take) :
    ∃ s : Sketch α, s.isCut = move.isCut ∧ take = s.take stage := by
  rcases move.perform_at_time stage stage.duration pose with
    ⟨fault, hfault, -⟩ | ⟨s, hcut, htake, -⟩
  · rw [hfault] at h
    cases h
  · exact ⟨s, hcut, Except.ok.inj (h.symm.trans htake)⟩

end Moves

end Cinematics
