import Cinematics.Proofs.Performance

/-!
# What a step can be blamed for

A step fails for a reason that lies in its own request: a parameter is missing or cannot be used, or
a name stands for no place.  This file follows the errors of all moves through the functions that
settle their parameters, and shows that each of them blames a parameter that the move has, or a
place that the request names (`Move.attempt_error`).  A take that is taken back as unsound blames
the parameters as a whole.

`FaultsIn ps ns x` says that the outcome `x` blames nothing but the parameters `ps` and the names
`ns`.  It passes through sequences of outcomes, so every move is a walk along its definition.  A
fault of the plan, the settings or the initial pose blames neither, so no step is at fault in a way
that could not be skipped (`Move.isRecoverable_of_attempt`).
-/

namespace Cinematics

variable {α β γ : Type}

/-- Whether a fault is about one of some parameters or one of some names. -/
def Fault.Blames (ps ns : List String) : Fault α → Prop
  | .missing p => p ∈ ps
  | .invalid p _ => p ∈ ps
  | .unresolved n => n ∈ ns
  | .emptyPlan | .badDuration _ | .poseNotFinite | .outOfRange _ | .unsupported _ | .unreadable =>
    False

namespace Fault

variable {ps ps' ns ns' : List String} {fault : Fault α}

/-- A fault about some parameters and names is about more of them, too. -/
lemma Blames.mono (h : fault.Blames ps ns) (hps : ps ⊆ ps') (hns : ns ⊆ ns') :
    fault.Blames ps' ns' := by
  cases fault with
  | missing p => exact hps h
  | invalid p reason => exact hps h
  | unresolved n => exact hns h
  | _ => exact h.elim

/-- A fault about a parameter or a name can be skipped. -/
lemma Blames.isRecoverable (h : fault.Blames ps ns) : fault.isRecoverable = true := by
  cases fault with
  | missing p => rfl
  | invalid p reason => rfl
  | unresolved n => rfl
  | _ => exact h.elim

end Fault

/-- Whether an outcome blames nothing but some parameters and some names. -/
def FaultsIn (ps ns : List String) (x : Outcome α β) : Prop :=
  ∀ fault, x = .error fault → fault.Blames ps ns

namespace FaultsIn

variable {ps ns : List String}

/-- A success blames nothing. -/
lemma ok (b : β) : FaultsIn ps ns (.ok b : Outcome α β) := by
  intro fault h
  cases h

/-- A fault blames what it is about. -/
lemma error {fault : Fault α} (h : fault.Blames ps ns) :
    FaultsIn ps ns (.error fault : Outcome α β) := by
  intro fault' h'
  rw [← Except.error.inj h']
  exact h

/-- A sequence blames what its parts blame. -/
lemma bind {x : Outcome α β} {f : β → Outcome α γ} (hx : FaultsIn ps ns x)
    (hf : ∀ b, FaultsIn ps ns (f b)) : FaultsIn ps ns (x >>= f) := by
  intro fault h
  rcases bind_eq_error_iff.mp h with h | ⟨b, -, h⟩
  · exact hx fault h
  · exact hf b fault h

/-- A result that is changed afterwards blames what it blamed before. -/
lemma map {x : Outcome α β} {f : β → γ} (hx : FaultsIn ps ns x) :
    FaultsIn ps ns (x.map f) := by
  intro fault h
  cases x with
  | ok b => cases h
  | error fault' =>
    rw [← Except.error.inj h]
    exact hx fault' rfl

/-- Of two outcomes, the one that is chosen blames what both may. -/
lemma ite {c : Prop} [Decidable c] {x y : Outcome α β} (hx : FaultsIn ps ns x)
    (hy : FaultsIn ps ns y) : FaultsIn ps ns (if c then x else y) := by
  split
  · exact hx
  · exact hy

/-! ### Parameters that several moves share -/

/-- What is required is blamed by its own name. -/
lemma required {p : String} (hp : p ∈ ps) (given : Option β) :
    FaultsIn ps ns (required p given : Outcome α β) := by
  cases given with
  | some b => exact .ok b
  | none => exact .error hp

/-- What follows on a required value may count on it. -/
lemma required_bind {p : String} (hp : p ∈ ps) {given : Option β} {f : β → Outcome α γ}
    (hf : ∀ b, given = some b → FaultsIn ps ns (f b)) :
    FaultsIn ps ns (Cinematics.required p given >>= f) := by
  cases given with
  | some b => exact hf b rfl
  | none => exact .error hp

/-- An amount is blamed by the name of its parameter. -/
lemma amount? {p : String} (hp : p ∈ ps) (phrase : Option String) :
    FaultsIn ps ns (amount? phrase p : Outcome α (Option Amount)) := by
  unfold Cinematics.amount?
  split
  · exact .ok none
  · split
    · exact .ok _
    · exact .error hp

/-- A direction is blamed as the direction. -/
lemma direction? (hp : "direction" ∈ ps) (heading : Heading) (word : Option String) :
    FaultsIn ps ns (heading.direction? word : Outcome α (Option Direction)) := by
  unfold Heading.direction?
  split
  · exact .ok none
  · split
    · exact .error hp
    · exact .ite (.ok _) (.error hp)

variable [Scalar α]

/-- A number that has to be positive is blamed by the name of its parameter. -/
lemma positive {p : String} (hp : p ∈ ps) (x : α) :
    FaultsIn ps ns (positive p x : Outcome α α) :=
  .ite (.ok x) (.error hp)

/-- A signed angle is settled by three parameters. -/
lemma signedAngle (hps : ["angle", "angle_descriptor", "direction"] ⊆ ps) (heading : Heading)
    (direction : Option Direction) (angle : Option α) (descriptor : Option String) :
    FaultsIn ps ns (signedAngle heading direction angle descriptor) := by
  have hangle : "angle" ∈ ps := hps (by simp)
  have hdescriptor : "angle_descriptor" ∈ ps := hps (by simp)
  have hdirection : "direction" ∈ ps := hps (by simp)
  unfold Cinematics.signedAngle
  cases angle with
  | some angle => exact .ite (.ok _) (.error hangle)
  | none =>
    refine .bind (.amount? hdescriptor _) fun amount => ?_
    refine .bind (.required hangle _) fun amount => ?_
    exact .bind (.required hdirection _) fun direction => .ok _

/-- A distance to travel is settled by two parameters. -/
lemma travel? (hps : ["distance", "distance_descriptor"] ⊆ ps) (kind : MoveKind) (scene : Scene α)
    (pose : Pose α) (distance : Option α) (descriptor : Option String) :
    FaultsIn ps ns (travel? kind scene pose distance descriptor) := by
  have hdistance : "distance" ∈ ps := hps (by simp)
  have hdescriptor : "distance_descriptor" ∈ ps := hps (by simp)
  unfold Cinematics.travel?
  cases distance with
  | some distance => exact .map (.positive hdistance distance)
  | none => exact .bind (.amount? hdescriptor _) fun amount => .ok _

variable {stage : Stage α} {pose : Pose α}

/-- A place is blamed by the name that it was looked up by. -/
lemma locate {name : String} (hn : name ∈ ns) : FaultsIn ps ns (stage.locate pose name) := by
  unfold Stage.locate
  split
  · exact .ok _
  · exact .error hn

/-- A place to look at is blamed by its name or as the target. -/
lemma lookable {name : String} (hn : name ∈ ns) (hp : "target" ∈ ps) :
    FaultsIn ps ns (Turn.lookable stage pose name) :=
  .bind (.locate hn) fun _ => .ite (.error hp) (.ok _)

end FaultsIn

/-! ### What a request can be blamed for -/

/-- The parameters of a kind of move that can be missing or of no use. -/
def MoveKind.parameters : MoveKind → List String
  | .hold => []
  | .zoom => ["direction", "factor", "factor_descriptor", "target_distance_descriptor"]
  | .orbit => ["direction", "angle", "angle_descriptor", "axis", "radius_factor"]
  | .pan => ["direction", "angle", "angle_descriptor"]
  | .tilt => ["direction", "angle", "angle_descriptor", "target"]
  | .dolly => ["direction", "distance", "distance_descriptor", "target_distance_descriptor"]
  | .truck | .pedestal => ["direction", "distance", "distance_descriptor"]
  | .moveTo => ["target", "look_at", "distance_descriptor"]
  | .focusOn => ["target"]
  | .rotate => ["direction", "angle", "angle_descriptor", "axis"]

/-- The names of places in a request. -/
def Move.placeNames : Move α → List String
  | .orbit request => request.target.toList
  | .tilt request => request.target.toList
  | .dolly request => request.destinationTarget.toList
  | .truck request => request.destinationTarget.toList
  | .pedestal request => request.destinationTarget.toList
  | .moveTo request => request.target.toList ++ request.lookAt.toList
  | .focusOn request => request.target.toList
  | .hold _ | .zoom _ | .pan _ | .rotate _ => []

/-! ### The moves -/

section Moves

variable [Scalar α] {ps ns : List String} {stage : Stage α} {pose : Pose α}

/-- A zoom is at fault for its own parameters. -/
lemma Zoom.faultsIn_perform (zoom : Zoom α) :
    FaultsIn MoveKind.zoom.parameters ns (zoom.perform stage pose) := by
  have hfactor : ∀ current direction, FaultsIn MoveKind.zoom.parameters ns
      (zoom.factorFor stage current direction) := by
    intro current direction
    unfold Zoom.factorFor
    cases zoom.factor with
    | some factor => exact .map (.positive (by decide) factor)
    | none =>
      refine .bind (.amount? (by decide) _) fun amount => ?_
      cases amount with
      | some amount => exact .bind (.required (by decide) _) fun _ => .ok _
      | none =>
        refine .bind (.amount? (by decide) _) fun amount => ?_
        exact .bind (.required (by decide) _) fun _ => .ok _
  refine .ite (.ok _) ?_
  refine .bind (.direction? (by decide) _ _) fun direction => ?_
  exact .bind (hfactor _ _) fun _ => .ok _

/-- A dolly is at fault for its own parameters and its destination. -/
lemma Dolly.faultsIn_perform (dolly : Dolly α) :
    FaultsIn MoveKind.dolly.parameters dolly.destinationTarget.toList
      (dolly.perform stage pose) := by
  have htravel : ∀ forward direction,
      FaultsIn MoveKind.dolly.parameters dolly.destinationTarget.toList
        (dolly.travelFor stage pose forward direction) := by
    intro forward direction
    unfold Dolly.travelFor
    refine .bind (.travel? (by decide) _ _ _ _ _) fun travel => ?_
    cases travel with
    | some travel => exact .bind (.required (by decide) _) fun _ => .ok _
    | none =>
      cases dolly.destinationTarget with
      | some name => exact .bind (.locate (by simp)) fun _ => .ok _
      | none =>
        refine .bind (.amount? (by decide) _) fun amount => ?_
        exact .bind (.required (by decide) _) fun _ => .ok _
  unfold Dolly.perform
  cases Frame.ofView pose.position pose.target stage.settings.epsilon with
  | none => exact .ok _
  | some frame =>
    refine .bind (.direction? (by decide) _ _) fun direction => ?_
    refine .bind (htravel _ _) fun travel => ?_
    exact .ite (.ok _) (.ok _)

/-- A slide is at fault for a direction, a distance or its destination. -/
lemma Slide.faultsIn_along (hps : ["direction", "distance", "distance_descriptor"] ⊆ ps)
    (slide : Slide α) (kind : MoveKind) (heading : Heading) (axis : Vec α) :
    FaultsIn ps slide.destinationTarget.toList (slide.along stage pose kind heading axis) := by
  have hdirection : "direction" ∈ ps := hps (by simp)
  have hdistance : "distance" ∈ ps := hps (by simp)
  have htravel : ∀ direction, FaultsIn ps slide.destinationTarget.toList
      (slide.travelFor stage pose kind heading axis direction) := by
    intro direction
    unfold Slide.travelFor
    refine .bind (.travel? (fun p hp => hps (List.mem_cons_of_mem _ hp)) _ _ _ _ _)
      fun travel => ?_
    cases travel with
    | some travel => exact .bind (.required hdirection _) fun _ => .ok _
    | none =>
      refine .required_bind hdistance fun name hname => ?_
      exact .bind (.locate (by simp [hname])) fun _ => .ok _
  refine .bind (.direction? hdirection _ _) fun direction => ?_
  refine .bind (htravel _) fun travel => ?_
  exact .ite (.ok _) (.ok _)

/-- An orbit is at fault for its own parameters and its center. -/
lemma Orbit.faultsIn_perform (orbit : Orbit α) :
    FaultsIn MoveKind.orbit.parameters orbit.target.toList (orbit.perform stage pose) := by
  have hcenter : FaultsIn MoveKind.orbit.parameters orbit.target.toList
      (orbit.center stage pose) := by
    unfold Orbit.center
    cases orbit.target with
    | some name => exact .locate (by simp)
    | none => exact .ok _
  have hangle : FaultsIn MoveKind.orbit.parameters orbit.target.toList (orbit.angleFor stage) := by
    refine .bind (.direction? (by decide) _ _) fun direction => ?_
    refine .bind (.signedAngle (by decide) _ _ _ _) fun degrees => ?_
    exact .ite (.error (by simp [Fault.Blames, MoveKind.parameters])) (.ok _)
  have haround : FaultsIn MoveKind.orbit.parameters orbit.target.toList
      (Orbit.aroundFor orbit.axis : Outcome α Orbit.Around) := by
    unfold Orbit.aroundFor
    split
    · exact .ok _
    · dsimp only
      split
      · exact .ok _
      · exact .error (by simp [Fault.Blames, MoveKind.parameters])
  rw [perform_eq]
  refine .bind hcenter fun center => .bind hangle fun degrees => ?_
  refine .bind (.positive (by decide) _) fun radiusFactor => .bind haround fun around => ?_
  exact .ite (.ok _) (.ite (.ok _) (.ok _))

/-- A turn about an axis is at fault for its direction or its angle. -/
lemma Turn.faultsIn_about (hps : ["angle", "angle_descriptor", "direction"] ⊆ ps)
    (turn : Turn α) (axis : Turn.ViewAxis) : FaultsIn ps ns (turn.about axis stage pose) := by
  refine .bind (.direction? (hps (by simp)) _ _) fun direction => ?_
  refine .bind (.signedAngle hps _ _ _ _) fun degrees => ?_
  cases Frame.ofView pose.position pose.target stage.settings.epsilon with
  | none => exact .ok _
  | some frame => exact .ite (.ok _) (.ok _)

/-- A tilt is at fault for its own parameters and the place to look at. -/
lemma Turn.faultsIn_tilt (turn : Turn α) :
    FaultsIn MoveKind.tilt.parameters turn.target.toList (turn.tilt stage pose) := by
  unfold Turn.tilt
  cases turn.target with
  | some name => exact .bind (.lookable (by simp) (by decide)) fun _ => .ok _
  | none => exact faultsIn_about (by decide) turn .pitch

/-- A rotation is at fault for its own parameters. -/
lemma Turn.faultsIn_rotate (turn : Turn α) :
    FaultsIn MoveKind.rotate.parameters ns (turn.rotate stage pose) := by
  have haxis : FaultsIn MoveKind.rotate.parameters ns
      (Turn.ViewAxis.parse turn.axis : Outcome α Turn.ViewAxis) := by
    unfold Turn.ViewAxis.parse
    split
    · exact .ok _
    · dsimp only
      split
      · exact .ok _
      · exact .error (by simp [Fault.Blames, MoveKind.parameters])
  refine .bind haxis fun axis => ?_
  cases axis with
  | roll => exact .ok _
  | yaw => exact faultsIn_about (by decide) turn .yaw
  | pitch => exact faultsIn_about (by decide) turn .pitch

/-- A relocation is at fault for its own parameters and its two places. -/
lemma Relocation.faultsIn_perform (relocation : Relocation) :
    FaultsIn MoveKind.moveTo.parameters
      (relocation.target.toList ++ relocation.lookAt.toList)
      (relocation.perform stage pose) := by
  have hlook : FaultsIn MoveKind.moveTo.parameters
      (relocation.target.toList ++ relocation.lookAt.toList)
      (relocation.lookingAt stage pose) := by
    unfold Relocation.lookingAt
    cases relocation.lookAt with
    | some name => exact .locate (by simp)
    | none => exact .ok _
  refine .required_bind (by decide) fun name hname => ?_
  refine .bind (.locate (by simp [hname])) fun destination => .bind hlook fun target => ?_
  refine .bind (.amount? (by decide) _) fun amount => ?_
  exact .ite (.error (by simp [Fault.Blames, MoveKind.parameters])) (.ite (.ok _) (.ok _))

/-- A refocus is at fault for the place to look at. -/
lemma Refocus.faultsIn_perform (refocus : Refocus) :
    FaultsIn MoveKind.focusOn.parameters refocus.target.toList (refocus.perform stage pose) := by
  refine .required_bind (by decide) fun name hname => ?_
  exact .bind (.lookable (by simp [hname]) (by decide)) fun _ => .ok _

namespace Move

/-- A move is at fault for its own parameters and the places that its request names. -/
lemma faultsIn_perform (move : Move α) :
    FaultsIn move.kind.parameters move.placeNames (move.perform stage pose) := by
  cases move with
  | hold request => exact .ok _
  | zoom request => exact request.faultsIn_perform
  | orbit request => exact request.faultsIn_perform
  | pan request => exact request.faultsIn_about (by simp [kind, MoveKind.parameters]) .yaw
  | tilt request => exact request.faultsIn_tilt
  | dolly request => exact request.faultsIn_perform
  | truck request =>
    unfold perform Slide.truck
    cases Frame.ofView pose.position pose.target stage.settings.epsilon with
    | none => exact .ok _
    | some frame => exact request.faultsIn_along (by simp [kind, MoveKind.parameters]) _ _ _
  | pedestal request =>
    exact request.faultsIn_along (by simp [kind, MoveKind.parameters]) _ _ _
  | moveTo request => exact request.faultsIn_perform
  | focusOn request => exact request.faultsIn_perform
  | rotate request => exact request.faultsIn_rotate

/-- **A step fails for its own request.**  The fault is about a parameter of the move, or about its
parameters as a whole when the take is unsound, or about a place that the request names. -/
theorem attempt_error {move : Move α} {fault : Fault α}
    (h : move.attempt stage pose = .error fault) :
    fault.Blames ("parameters" :: move.kind.parameters) move.placeNames := by
  have hperform : FaultsIn move.kind.parameters move.placeNames (move.perform stage pose) :=
    move.faultsIn_perform
  rcases bind_eq_error_iff.mp h with h | ⟨take, -, h⟩
  · exact (hperform fault h).mono (List.subset_cons_self _ _) (List.Subset.refl _)
  · split at h
    · cases h
    · obtain rfl := Except.error.inj h
      exact List.mem_cons_self

/-- A step at fault can be skipped. -/
lemma isRecoverable_of_attempt {move : Move α} {fault : Fault α}
    (h : move.attempt stage pose = .error fault) : fault.isRecoverable = true :=
  (attempt_error h).isRecoverable

end Move

end Moves

end Cinematics
