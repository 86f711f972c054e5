import Cinematics.Proofs.Elevation
import Cinematics.Proofs.Leniency
import Cinematics.Proofs.Return

/-!
# What comes later is not looked at

An amount can be asked for in several ways, and a request may be full of them: a number comes before
a word for an amount, a word before a destination, and a destination before a distance to end at.
Moves that differ only in what comes later than the first of these (`Move.HeededAlike`) come to the
same, faults included.  So a word that nobody asks for may be unknown, or stand for no place.

The parameters that moves share are settled by `signedAngle`, `amount?` and `travel?`.  For each of
these there is one lemma on when it looks at its words, or what follows at more, and the moves are
cases of them.
-/

namespace Cinematics

variable {α : Type}

/-! ### Requests that are alike -/

/-- Two moves that are the same but for words that are not looked at, since something is given that
comes before them. -/
inductive Move.HeededAlike : Move α → Move α → Prop
  /-- Zooms with other words behind the factor, or behind the amount where there is no factor. -/
  | zoom {zoom : Zoom α} {amount goal : Option String}
      (hamount : zoom.factor = none → amount = zoom.factorDescriptor)
      (hgoal : zoom.factor = none → zoom.factorDescriptor = none →
        goal = zoom.targetDistanceDescriptor) :
      HeededAlike (.zoom zoom)
        (.zoom { zoom with factorDescriptor := amount, targetDistanceDescriptor := goal })
  /-- Dollies with other words behind the distance, behind the amount or behind the destination. -/
  | dolly {dolly : Dolly α} {amount destination goal : Option String}
      (hamount : dolly.distance = none → amount = dolly.distanceDescriptor)
      (hdestination : dolly.distance = none → dolly.distanceDescriptor = none →
        destination = dolly.destinationTarget)
      (hgoal : dolly.distance = none → dolly.distanceDescriptor = none →
        dolly.destinationTarget = none → goal = dolly.targetDistanceDescriptor) :
      HeededAlike (.dolly dolly)
        (.dolly { dolly with
          distanceDescriptor := amount, destinationTarget := destination
          targetDistanceDescriptor := goal })
  /-- Trucks with other words behind the distance or behind the amount. -/
  | truck {slide : Slide α} {amount destination : Option String}
      (hamount : slide.distance = none → amount = slide.distanceDescriptor)
      (hdestination : slide.distance = none → slide.distanceDescriptor = none →
        destination = slide.destinationTarget) :
      HeededAlike (.truck slide)
        (.truck { slide with distanceDescriptor := amount, destinationTarget := destination })
  /-- Pedestals with other words behind the distance or behind the amount. -/
  | pedestal {slide : Slide α} {amount destination : Option String}
      (hamount : slide.distance = none → amount = slide.distanceDescriptor)
      (hdestination : slide.distance = none → slide.distanceDescriptor = none →
        destination = slide.destinationTarget) :
      HeededAlike (.pedestal slide)
        (.pedestal { slide with distanceDescriptor := amount, destinationTarget := destination })
  /-- Orbits with another word behind the angle. -/
  | orbit {orbit : Orbit α} {amount : Option String}
      (hamount : orbit.angle = none → amount = orbit.angleDescriptor) :
      HeededAlike (.orbit orbit) (.orbit { orbit with angleDescriptor := amount })
  /-- Pans with another word behind the angle. -/
  | pan {turn : Turn α} {amount : Option String}
      (hamount : turn.angle = none → amount = turn.angleDescriptor) :
      HeededAlike (.pan turn) (.pan { turn with angleDescriptor := amount })
  /-- Tilts with another word behind the angle. -/
  | tilt {turn : Turn α} {amount : Option String}
      (hamount : turn.angle = none → amount = turn.angleDescriptor) :
      HeededAlike (.tilt turn) (.tilt { turn with angleDescriptor := amount })
  /-- Turns with another word behind the angle. -/
  | rotate {turn : Turn α} {amount : Option String}
      (hamount : turn.angle = none → amount = turn.angleDescriptor) :
      HeededAlike (.rotate turn) (.rotate { turn with angleDescriptor := amount })
  /-- One and the same move. -/
  | refl (move : Move α) : HeededAlike move move

/-! ### Parameters that moves share -/

section Parameters

variable {β : Type} {f g : Option Amount → Outcome α β}

/-- What comes after an amount is looked at only without a phrase for it. -/
lemma amount?_bind_congr {phrase : Option String} (parameter : String)
    (hsome : ∀ amount, f (some amount) = g (some amount))
    (hnone : phrase = none → f none = g none) :
    amount? phrase parameter >>= f = amount? phrase parameter >>= g := by
  cases phrase with
  | none => exact hnone rfl
  | some phrase =>
    simp only [amount?]
    cases Amount.parse? phrase with
    | none => rfl
    | some amount => exact hsome amount

variable [Scalar α] {distance : Option α} {phrase other : Option String}

/-- A phrase for a way is looked at only without a distance. -/
lemma travel?_congr {kind : MoveKind} {scene : Scene α} {pose : Pose α}
    (h : distance = none → other = phrase) :
    travel? kind scene pose distance other = travel? kind scene pose distance phrase := by
  cases distance with
  | none => rw [h rfl]
  | some distance => rfl

/-- What comes after a way is looked at only without a distance and without a phrase for it. -/
lemma travel?_bind_congr {kind : MoveKind} {scene : Scene α} {pose : Pose α}
    {f g : Option α → Outcome α β} (hsome : ∀ way, f (some way) = g (some way))
    (hnone : distance = none → phrase = none → f none = g none) :
    travel? kind scene pose distance phrase >>= f =
      travel? kind scene pose distance phrase >>= g := by
  cases distance with
  | none =>
    cases phrase with
    | none => exact hnone rfl rfl
    | some phrase =>
      simp only [travel?, amount?]
      cases Amount.parse? phrase with
      | none => rfl
      | some amount => exact hsome _
  | some distance =>
    simp only [travel?]
    cases positive "distance" distance with
    | error fault => rfl
    | ok way => exact hsome way

/-- A phrase for an angle is looked at only without an angle. -/
lemma signedAngle_congr {heading : Heading} {direction : Option Direction} {angle : Option α}
    (h : angle = none → other = phrase) :
    signedAngle heading direction angle other = signedAngle heading direction angle phrase := by
  cases angle with
  | none => rw [h rfl]
  | some angle => rfl

end Parameters

/-! ### Moves that come to the same -/

section Moves

variable [Scalar α] {stage : Stage α} {pose : Pose α} {amount destination goal : Option String}

/-- The factor of a zoom is settled by what comes first. -/
lemma Zoom.factorFor_congr {zoom : Zoom α}
    (hamount : zoom.factor = none → amount = zoom.factorDescriptor)
    (hgoal : zoom.factor = none → zoom.factorDescriptor = none →
      goal = zoom.targetDistanceDescriptor) (current : α) (direction : Option Direction) :
    factorFor { zoom with factorDescriptor := amount, targetDistanceDescriptor := goal } stage
        current direction =
      zoom.factorFor stage current direction := by
  simp only [factorFor]
  cases hfactor : zoom.factor with
  | some factor => rfl
  | none =>
    rw [hamount hfactor]
    refine amount?_bind_congr _ (fun _ => rfl) fun hnone => ?_
    rw [hgoal hfactor hnone]

/-- The way of a dolly is settled by what comes first. -/
lemma Dolly.travelFor_congr {dolly : Dolly α}
    (hamount : dolly.distance = none → amount = dolly.distanceDescriptor)
    (hdestination : dolly.distance = none → dolly.distanceDescriptor = none →
      destination = dolly.destinationTarget)
    (hgoal : dolly.distance = none → dolly.distanceDescriptor = none →
      dolly.destinationTarget = none → goal = dolly.targetDistanceDescriptor)
    (forward : Vec α) (direction : Option Direction) :
    travelFor { dolly with
        distanceDescriptor := amount, destinationTarget := destination
        targetDistanceDescriptor := goal } stage pose forward direction =
      dolly.travelFor stage pose forward direction := by
  simp only [travelFor, travel?_congr hamount]
  refine travel?_bind_congr (fun _ => rfl) fun hdistance hphrase => ?_
  rw [hdestination hdistance hphrase]
  cases hname : dolly.destinationTarget with
  | some name => rfl
  | none => rw [hgoal hdistance hphrase hname]

/-- The way of a slide is settled by what comes first. -/
lemma Slide.travelFor_congr {slide : Slide α}
    (hamount : slide.distance = none → amount = slide.distanceDescriptor)
    (hdestination : slide.distance = none → slide.distanceDescriptor = none →
      destination = slide.destinationTarget)
    (kind : MoveKind) (heading : Heading) (axis : Vec α) (direction : Option Direction) :
    travelFor { slide with distanceDescriptor := amount, destinationTarget := destination } stage
        pose kind heading axis direction =
      slide.travelFor stage pose kind heading axis direction := by
  simp only [travelFor, travel?_congr hamount]
  refine travel?_bind_congr (fun _ => rfl) fun hdistance hphrase => ?_
  rw [hdestination hdistance hphrase]

/-- A turn does not look at a phrase behind its angle. -/
lemma Turn.about_congr {turn : Turn α} (hamount : turn.angle = none → amount = turn.angleDescriptor)
    (axis : Turn.ViewAxis) :
    about { turn with angleDescriptor := amount } axis stage pose =
      turn.about axis stage pose := by
  simp only [about, signedAngle_congr hamount]

namespace Move.HeededAlike

variable {move move' : Move α}

omit [Scalar α] in
/-- Moves that are alike are of one kind. -/
lemma kind_eq (h : HeededAlike move move') : move'.kind = move.kind := by
  cases h with
  | _ => rfl

/-- Moves that are alike are carried out alike. -/
lemma perform_eq (h : HeededAlike move move') (stage : Stage α) (pose : Pose α) :
    move'.perform stage pose = move.perform stage pose := by
  cases h with
  | zoom hamount hgoal =>
    simp only [perform, Zoom.perform, Zoom.factorFor_congr hamount hgoal]
  | dolly hamount hdestination hgoal =>
    simp only [perform, Dolly.perform, Dolly.travelFor_congr hamount hdestination hgoal]
  | truck hamount hdestination =>
    simp only [perform, Slide.truck, Slide.along, Slide.travelFor_congr hamount hdestination]
  | pedestal hamount hdestination =>
    simp only [perform, Slide.pedestal, Slide.along, Slide.travelFor_congr hamount hdestination]
  | orbit hamount =>
    simp only [perform, Orbit.perform_eq, Orbit.angleFor, signedAngle_congr hamount]
    rfl
  | pan hamount => exact Turn.about_congr hamount .yaw
  | tilt hamount => simp only [perform, Turn.tilt, Turn.about_congr hamount]
  | rotate hamount => simp only [perform, Turn.rotate, Turn.about_congr hamount]
  | refl => rfl

/-- What becomes of moves that are alike is alike. -/
lemma attempt_eq (h : HeededAlike move move') (stage : Stage α) (pose : Pose α) :
    move'.attempt stage pose = move.attempt stage pose := by
  rw [attempt, attempt, h.perform_eq]

end Move.HeededAlike

/-- **What comes later is not looked at.**

Let two moves differ only in words that something comes before.  These words may be any, also ones
that mean no amount or stand for no place.  On every stage and from every pose the two moves are
carried out alike, whether they succeed or not. -/
theorem Move.attempt_of_heededAlike {move move' : Move α} (h : HeededAlike move move')
    (stage : Stage α) (pose : Pose α) :
    move'.perform stage pose = move.perform stage pose ∧
      move'.attempt stage pose = move.attempt stage pose :=
  ⟨h.perform_eq stage pose, h.attempt_eq stage pose⟩

end Moves

namespace Slide

/-- A request to go up by one. -/
noncomputable def upward : Slide ℝ := { direction := some "up", distance := some 1 }

/-- The same request, with words that mean no amount and stand for no place. -/
noncomputable def upwardSomehow : Slide ℝ :=
  { upward with distanceDescriptor := some "somehow", destinationTarget := some "nowhere" }

/-- A camera goes up by one in spite of the words behind the distance.  It does not go where these
words come first. -/
theorem attempt_of_heededAlike_upward :
    Move.HeededAlike (.pedestal upward) (.pedestal upwardSomehow) ∧
      (Move.pedestal upwardSomehow).perform Turn.emptyStage .ahead =
        .ok (.single ⟨⟨0, 1, 5.0⟩, ⟨0, 1, 0⟩⟩ 1 .inOutQuad) ∧
      (Move.pedestal { upwardSomehow with distance := none }).perform Turn.emptyStage .ahead =
        .error (.invalid "distance_descriptor" (.unknownAmount "somehow")) := by
  have hunheeded : Move.HeededAlike (.pedestal upward) (.pedestal upwardSomehow) :=
    .pedestal (fun h => nomatch h) (fun h => nomatch h)
  refine ⟨hunheeded, ?_, ?_⟩
  · have hlong : Turn.emptyStage.settings.epsilon ≤ (1 : ℝ) := by
      norm_num [Turn.emptyStage, Settings.standard]
    have halong : (Move.pedestal upward).perform Turn.emptyStage .ahead =
        .ok (Turn.emptyStage.reach (carry .ahead
          (Pose.ahead.position + (Vec.up : Vec ℝ) * (Direction.up.sense * 1))) none none) :=
      along_open _ rfl rfl one_pos hlong .pedestal rfl rfl Vec.up List.mem_cons_self rfl rfl
    have hup : carry .ahead
        (Pose.ahead.position + (Vec.up : Vec ℝ) * (Direction.up.sense * 1)) =
          ⟨⟨0, 1, 5.0⟩, ⟨0, 1, 0⟩⟩ := by
      refine Pose.ext (Vec.ext ?_ ?_ ?_) (Vec.ext ?_ ?_ ?_)
      all_goals norm_num [carry, Pose.ahead, Direction.sense, Vec.up, Vec.unit]
    rw [(Move.attempt_of_heededAlike hunheeded Turn.emptyStage .ahead).1, halong, hup]
    rfl
  · rfl

end Slide

namespace Plan

section Alike

variable [Scalar α] [Spelled α] {scene : Scene α} {around : Surroundings α} {settings : Settings α}
  {p p' : Plan α}

/-- Steps with moves that are alike, in the same times, come to the same.  The induction is on the
steps, and each of them starts from the same progress. -/
lemma run_of_heededAlike {steps steps' : List (Step α)}
    (hsteps : List.Forall₂ (fun s s' => Move.HeededAlike s.move s'.move) steps steps')
    (durations : List α) (first : ℕ) (progress : Progress α) :
    run scene around settings first (steps'.zip durations) progress =
      run scene around settings first (steps.zip durations) progress := by
  induction hsteps generalizing durations first progress with
  | nil => rfl
  | cons hmove _ ih =>
    cases durations with
    | nil => rfl
    | cons duration durations =>
      rw [List.zip_cons_cons, List.zip_cons_cons, run, run, Progress.advance, Progress.advance,
        hmove.kind_eq, hmove.attempt_eq]
      exact bind_congr fun p => ih durations (first + 1) p

/-- **Words that are not looked at do not change what becomes of a plan.**  Plans in the same time,
with moves that are alike in the same parts of it, are refused alike or come to the same
interpretation. -/
theorem interpret_of_heededAlike (hduration : p'.duration = p.duration)
    (hsteps : List.Forall₂ (fun s s' => s'.ratio = s.ratio ∧ Move.HeededAlike s.move s'.move)
      p.steps p'.steps) (initial : Pose α) :
    p'.interpret scene around settings initial = p.interpret scene around settings initial := by
  have hratios : p'.steps.map (·.ratio) = p.steps.map (·.ratio) := by
    refine List.forall₂_eq_eq_eq ▸ ?_
    rw [List.forall₂_map_left_iff, List.forall₂_map_right_iff]
    exact hsteps.flip.imp fun _ _ h => h.1
  have hmoves := hsteps.imp fun _ _ h => h.2
  simp only [interpret, schedule_congr hduration hratios, run_of_heededAlike hmoves]

end Alike

end Plan

end Cinematics
