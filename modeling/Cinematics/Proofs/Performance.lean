import Cinematics.Move.Perform
import Mathlib.Tactic.Common

/-!
# What a move comes to

A successful move has done one of a few things, and this file says which.  For every move there is
one lemma, `Zoom.perform_ok`, `Dolly.perform_ok` and so on, that takes a success apart into the
parameters that were settled, the guards that were passed and the take that came of them.  All later
statements about moves are case analyses over these lemmas; none of them opens a move again.

The lemmas say nothing of numbers, so they hold for scalars of any kind, doubles included.
-/

namespace Cinematics

/-! ### Outcomes in sequence -/

section Sequence

variable {ε β γ : Type}

/-- A sequence of two outcomes succeeds through a success of both. -/
lemma bind_eq_ok_iff {x : Except ε β} {f : β → Except ε γ} {c : γ} :
    x >>= f = .ok c ↔ ∃ b, x = .ok b ∧ f b = .ok c := by
  cases x with
  | error e => simp [bind, Except.bind]
  | ok b => simp [bind, Except.bind]

/-- A sequence of two outcomes fails with its first part, or with its second after the first. -/
lemma bind_eq_error_iff {x : Except ε β} {f : β → Except ε γ} {e : ε} :
    x >>= f = .error e ↔ x = .error e ∨ ∃ b, x = .ok b ∧ f b = .error e := by
  cases x with
  | error e' => simp [bind, Except.bind]
  | ok b => simp [bind, Except.bind]

end Sequence

/-- A parameter that is required and settled was there. -/
lemma required_ok {α β : Type} {parameter : String} {given : Option β} {b : β}
    (h : (required parameter given : Outcome α β) = .ok b) : given = some b := by
  cases given with
  | none => cases h
  | some c => rw [Except.ok.inj h]

variable {α : Type} [Scalar α] {stage : Stage α} {pose : Pose α} {take : Take α}

/-! ### Moves along the line of sight -/

/-- A zoom stays where the camera is on its target, and else leads to a multiple of the distance. -/
lemma Zoom.perform_ok {zoom : Zoom α} (h : zoom.perform stage pose = .ok take) :
    (pose.distance < stage.settings.epsilon ∧ take = stage.still pose) ∨
    ∃ direction factor,
      ¬ pose.distance < stage.settings.epsilon ∧
      (Zoom.heading.direction? zoom.direction : Outcome α (Option Direction)) = .ok direction ∧
      zoom.factorFor stage pose.distance direction = .ok factor ∧
      take = stage.reach
        ⟨stage.place pose.position (pose.target + (pose.position - pose.target) * factor)
          pose.target, pose.target⟩ zoom.easing zoom.speed := by
  simp only [Zoom.perform] at h
  split at h
  · rename_i hnear
    exact .inl ⟨hnear, (Except.ok.inj h).symm⟩
  · rename_i hfar
    obtain ⟨direction, hdirection, h⟩ := bind_eq_ok_iff.mp h
    obtain ⟨factor, hfactor, h⟩ := bind_eq_ok_iff.mp h
    exact .inr ⟨direction, factor, hfar, hdirection, hfactor, (Except.ok.inj h).symm⟩

/-- A dolly stays where the camera has no view or no way to go, and else leads along the view. -/
lemma Dolly.perform_ok {dolly : Dolly α} (h : dolly.perform stage pose = .ok take) :
    (Frame.ofView pose.position pose.target stage.settings.epsilon = none ∧
      take = stage.still pose) ∨
    ∃ frame direction free,
      Frame.ofView pose.position pose.target stage.settings.epsilon = some frame ∧
      (Dolly.heading.direction? dolly.direction : Outcome α (Option Direction)) = .ok direction ∧
      dolly.travelFor stage pose frame.forward direction = .ok free ∧
      ((Scalar.abs (Dolly.cap stage pose.distance free) < stage.settings.epsilon ∧
          take = stage.still pose) ∨
        (¬ Scalar.abs (Dolly.cap stage pose.distance free) < stage.settings.epsilon ∧
          take = stage.reach
            ⟨stage.place pose.position
              (pose.position + frame.forward * Dolly.cap stage pose.distance free) pose.target,
              pose.target⟩ dolly.easing dolly.speed)) := by
  simp only [Dolly.perform] at h
  split at h
  · rename_i hview
    exact .inl ⟨hview, (Except.ok.inj h).symm⟩
  · rename_i frame hview
    obtain ⟨direction, hdirection, h⟩ := bind_eq_ok_iff.mp h
    obtain ⟨free, hfree, h⟩ := bind_eq_ok_iff.mp h
    refine .inr ⟨frame, direction, free, hview, hdirection, hfree, ?_⟩
    split at h
    · rename_i hshort
      exact .inl ⟨hshort, (Except.ok.inj h).symm⟩
    · rename_i hlong
      exact .inr ⟨hlong, (Except.ok.inj h).symm⟩

/-! ### Slides -/

/-- A slide that has no way to go stays, and any other carries the whole pose along. -/
lemma Slide.along_ok {slide : Slide α} {kind : MoveKind} {heading : Heading} {axis : Vec α}
    (h : slide.along stage pose kind heading axis = .ok take) :
    ∃ direction travel,
      (heading.direction? slide.direction : Outcome α (Option Direction)) = .ok direction ∧
      slide.travelFor stage pose kind heading axis direction = .ok travel ∧
      ((Scalar.abs travel < stage.settings.epsilon ∧ take = stage.still pose) ∨
        (¬ Scalar.abs travel < stage.settings.epsilon ∧
          take = stage.reach
            (Slide.carry pose (stage.place pose.position (Slide.candidate stage pose axis travel)
              (Slide.candidate stage pose axis travel + pose.view))) slide.easing slide.speed)) := by
  simp only [Slide.along] at h
  obtain ⟨direction, hdirection, h⟩ := bind_eq_ok_iff.mp h
  obtain ⟨travel, htravel, h⟩ := bind_eq_ok_iff.mp h
  refine ⟨direction, travel, hdirection, htravel, ?_⟩
  split at h
  · rename_i hshort
    exact .inl ⟨hshort, (Except.ok.inj h).symm⟩
  · rename_i hlong
    exact .inr ⟨hlong, (Except.ok.inj h).symm⟩

/-- A truck stays where the camera has no sides, and else is a slide to the side. -/
lemma Slide.truck_ok {slide : Slide α} (h : slide.truck stage pose = .ok take) :
    (Frame.ofView pose.position pose.target stage.settings.epsilon = none ∧
      take = stage.still pose) ∨
    ∃ frame,
      Frame.ofView pose.position pose.target stage.settings.epsilon = some frame ∧
      slide.along stage pose .truck ⟨[.right], [.left]⟩ frame.right = .ok take := by
  simp only [Slide.truck] at h
  split at h
  · rename_i hview
    exact .inl ⟨hview, (Except.ok.inj h).symm⟩
  · rename_i frame hview
    exact .inr ⟨frame, hview, h⟩

/-- A pedestal is a slide along the upright axis. -/
lemma Slide.pedestal_ok {slide : Slide α} (h : slide.pedestal stage pose = .ok take) :
    slide.along stage pose .pedestal ⟨[.up], [.down]⟩ Vec.up = .ok take := h

/-! ### Orbits -/

/-- An orbit takes its way once all that settles the way is settled. -/
lemma Orbit.perform_eq (orbit : Orbit α) (stage : Stage α) (pose : Pose α) :
    orbit.perform stage pose = (do
      let center ← orbit.center stage pose
      let degrees ← orbit.angleFor stage
      let radiusFactor ← positive "radius_factor" (orbit.radiusFactor.getD 1)
      let around ← Orbit.aroundFor orbit.axis
      if (pose.position - center).norm < stage.settings.epsilon then .ok (stage.still pose)
      else if Scalar.abs degrees < stage.settings.epsilon ∧
          Scalar.abs (radiusFactor - 1) < stage.settings.epsilon then
        .ok (stage.still ⟨pose.position, center⟩)
      else
        .ok (Orbit.Arc.take
          { center, radius := pose.position - center, degrees, radiusFactor
            axis := around.vec pose stage.settings.epsilon
            segments := Orbit.segmentsFor stage.settings degrees }
          stage pose.position (stage.easing orbit.easing orbit.speed))) := by
  simp only [perform, way, bind_assoc]
  refine bind_congr fun center => bind_congr fun degrees => bind_congr fun radiusFactor =>
    bind_congr fun around => ?_
  split
  · rfl
  · split
    · rfl
    · rfl

/-- The way of an orbit stays on the center, turns to it where there is no way to go, and else goes
along an arc about it. -/
lemma Orbit.way_ok {orbit : Orbit α} {way : Orbit.Way α} (h : orbit.way stage pose = .ok way) :
    ∃ center degrees radiusFactor around,
      orbit.center stage pose = .ok center ∧
      orbit.angleFor stage = .ok degrees ∧
      positive "radius_factor" (orbit.radiusFactor.getD 1) = .ok radiusFactor ∧
      (Orbit.aroundFor orbit.axis : Outcome α Orbit.Around) = .ok around ∧
      (((pose.position - center).norm < stage.settings.epsilon ∧ way = .stay pose) ∨
        (¬ (pose.position - center).norm < stage.settings.epsilon ∧
          (Scalar.abs degrees < stage.settings.epsilon ∧
            Scalar.abs (radiusFactor - 1) < stage.settings.epsilon) ∧
          way = .stay ⟨pose.position, center⟩) ∨
        (¬ (pose.position - center).norm < stage.settings.epsilon ∧
          ¬ (Scalar.abs degrees < stage.settings.epsilon ∧
            Scalar.abs (radiusFactor - 1) < stage.settings.epsilon) ∧
          way = .along
            { center, radius := pose.position - center, degrees, radiusFactor
              axis := around.vec pose stage.settings.epsilon
              segments := Orbit.segmentsFor stage.settings degrees })) := by
  simp only [Orbit.way] at h
  obtain ⟨center, hcenter, h⟩ := bind_eq_ok_iff.mp h
  obtain ⟨degrees, hdegrees, h⟩ := bind_eq_ok_iff.mp h
  obtain ⟨radiusFactor, hfactor, h⟩ := bind_eq_ok_iff.mp h
  obtain ⟨around, haround, h⟩ := bind_eq_ok_iff.mp h
  refine ⟨center, degrees, radiusFactor, around, hcenter, hdegrees, hfactor, haround, ?_⟩
  split at h
  · rename_i hnear
    exact .inl ⟨hnear, (Except.ok.inj h).symm⟩
  · rename_i hfar
    split at h
    · rename_i hsmall
      exact .inr (.inl ⟨hfar, hsmall, (Except.ok.inj h).symm⟩)
    · rename_i hlarge
      exact .inr (.inr ⟨hfar, hlarge, (Except.ok.inj h).symm⟩)

/-- An orbit stays on its center, turns to it where there is no way to go, and else goes along an
arc about it. -/
lemma Orbit.perform_ok {orbit : Orbit α} (h : orbit.perform stage pose = .ok take) :
    ∃ center degrees radiusFactor around,
      orbit.center stage pose = .ok center ∧
      orbit.angleFor stage = .ok degrees ∧
      positive "radius_factor" (orbit.radiusFactor.getD 1) = .ok radiusFactor ∧
      (Orbit.aroundFor orbit.axis : Outcome α Orbit.Around) = .ok around ∧
      (((pose.position - center).norm < stage.settings.epsilon ∧ take = stage.still pose) ∨
        (¬ (pose.position - center).norm < stage.settings.epsilon ∧
          (Scalar.abs degrees < stage.settings.epsilon ∧
            Scalar.abs (radiusFactor - 1) < stage.settings.epsilon) ∧
          take = stage.still ⟨pose.position, center⟩) ∨
        (¬ (pose.position - center).norm < stage.settings.epsilon ∧
          ¬ (Scalar.abs degrees < stage.settings.epsilon ∧
            Scalar.abs (radiusFactor - 1) < stage.settings.epsilon) ∧
          take = Orbit.Arc.take
            { center, radius := pose.position - center, degrees, radiusFactor
              axis := around.vec pose stage.settings.epsilon
              segments := Orbit.segmentsFor stage.settings degrees }
            stage pose.position (stage.easing orbit.easing orbit.speed))) := by
  obtain ⟨way, hway, h⟩ := bind_eq_ok_iff.mp h
  obtain rfl := Except.ok.inj h
  obtain ⟨center, degrees, radiusFactor, around, hcenter, hdegrees, hfactor, haround, hcases⟩ :=
    Orbit.way_ok hway
  refine ⟨center, degrees, radiusFactor, around, hcenter, hdegrees, hfactor, haround, ?_⟩
  rcases hcases with ⟨hnear, rfl⟩ | ⟨hfar, hsmall, rfl⟩ | ⟨hfar, hlarge, rfl⟩
  · exact .inl ⟨hnear, rfl⟩
  · exact .inr (.inl ⟨hfar, hsmall, rfl⟩)
  · exact .inr (.inr ⟨hfar, hlarge, rfl⟩)

/-! ### Turns -/

/-- A turn about an axis stays where there is no view or no angle to turn by, and else keeps the
position and looks along the turned view. -/
lemma Turn.about_ok {turn : Turn α} {axis : Turn.ViewAxis}
    (h : turn.about axis stage pose = .ok take) :
    ∃ direction degrees,
      (axis.heading.direction? turn.direction : Outcome α (Option Direction)) = .ok direction ∧
      signedAngle axis.heading direction turn.angle turn.angleDescriptor = .ok degrees ∧
      ((Frame.ofView pose.position pose.target stage.settings.epsilon = none ∧
          take = stage.still pose) ∨
        ∃ frame,
          Frame.ofView pose.position pose.target stage.settings.epsilon = some frame ∧
          ((Scalar.abs degrees < stage.settings.epsilon ∧ take = stage.still pose) ∨
            (¬ Scalar.abs degrees < stage.settings.epsilon ∧
              take = stage.reach
                ⟨pose.position, pose.position + Turn.turned axis frame pose.view
                  (Scalar.radians degrees) (Scalar.radians stage.settings.pitchLimit)⟩
                turn.easing turn.speed))) := by
  simp only [Turn.about] at h
  obtain ⟨direction, hdirection, h⟩ := bind_eq_ok_iff.mp h
  obtain ⟨degrees, hdegrees, h⟩ := bind_eq_ok_iff.mp h
  refine ⟨direction, degrees, hdirection, hdegrees, ?_⟩
  split at h
  · rename_i hview
    exact .inl ⟨hview, (Except.ok.inj h).symm⟩
  · rename_i frame hview
    refine .inr ⟨frame, hview, ?_⟩
    split at h
    · rename_i hsmall
      exact .inl ⟨hsmall, (Except.ok.inj h).symm⟩
    · rename_i hlarge
      exact .inr ⟨hlarge, (Except.ok.inj h).symm⟩

/-- A place to look at is one that the name stands for, away from the camera. -/
lemma Turn.lookable_ok {name : String} {target : Vec α}
    (h : Turn.lookable stage pose name = .ok target) :
    stage.locate pose name = .ok target ∧
      ¬ (target - pose.position).norm < stage.settings.epsilon := by
  simp only [Turn.lookable] at h
  obtain ⟨place, hplace, h⟩ := bind_eq_ok_iff.mp h
  split at h
  · cases h
  · rename_i haway
    obtain rfl := Except.ok.inj h
    exact ⟨hplace, haway⟩

/-- A tilt goes straight to a named place, and without one turns up or down. -/
lemma Turn.tilt_ok {turn : Turn α} (h : turn.tilt stage pose = .ok take) :
    (∃ name target,
      turn.target = some name ∧ Turn.lookable stage pose name = .ok target ∧
      take = stage.reach ⟨pose.position, target⟩ turn.easing turn.speed) ∨
    (turn.target = none ∧ turn.about .pitch stage pose = .ok take) := by
  simp only [Turn.tilt] at h
  split at h
  · rename_i name hname
    obtain ⟨target, htarget, h⟩ := bind_eq_ok_iff.mp h
    exact .inl ⟨name, target, hname, htarget, (Except.ok.inj h).symm⟩
  · rename_i hnone
    exact .inr ⟨hnone, h⟩

/-- A rotation about the line of sight is noted and changes nothing, and any other is a turn. -/
lemma Turn.rotate_ok {turn : Turn α} (h : turn.rotate stage pose = .ok take) :
    ((Turn.ViewAxis.parse turn.axis : Outcome α Turn.ViewAxis) = .ok .roll ∧
      take = (stage.still pose).noting .roll) ∨
    ∃ axis,
      (Turn.ViewAxis.parse turn.axis : Outcome α Turn.ViewAxis) = .ok axis ∧ axis ≠ .roll ∧
      turn.about axis stage pose = .ok take := by
  simp only [Turn.rotate] at h
  obtain ⟨axis, haxis, h⟩ := bind_eq_ok_iff.mp h
  cases axis with
  | roll => exact .inl ⟨haxis, (Except.ok.inj h).symm⟩
  | yaw => exact .inr ⟨.yaw, haxis, by decide, h⟩
  | pitch => exact .inr ⟨.pitch, haxis, by decide, h⟩

/-! ### Relocations and refocuses -/

/-- A relocation leads to a place away from what it looks at, by a cut or by a move. -/
lemma Relocation.perform_ok {relocation : Relocation}
    (h : relocation.perform stage pose = .ok take) :
    ∃ name destination target amount,
      relocation.target = some name ∧
      stage.locate pose name = .ok destination ∧
      relocation.lookingAt stage pose = .ok target ∧
      (amount? relocation.distanceDescriptor "distance_descriptor" :
        Outcome α (Option Amount)) = .ok amount ∧
      ∃ position,
        position = stage.place pose.position
          (Relocation.candidate amount stage pose destination) target ∧
        ¬ (target - position).norm < stage.settings.epsilon ∧
        ((relocation.speed.bind Pace.parse? = some .instant ∧
            take = Relocation.cut stage ⟨position, target⟩) ∨
          (relocation.speed.bind Pace.parse? ≠ some .instant ∧
            take = stage.reach ⟨position, target⟩ relocation.easing relocation.speed)) := by
  simp only [Relocation.perform] at h
  obtain ⟨name, hname, h⟩ := bind_eq_ok_iff.mp h
  obtain ⟨destination, hdestination, h⟩ := bind_eq_ok_iff.mp h
  obtain ⟨target, htarget, h⟩ := bind_eq_ok_iff.mp h
  obtain ⟨amount, hamount, h⟩ := bind_eq_ok_iff.mp h
  refine ⟨name, destination, target, amount, required_ok hname, hdestination, htarget, hamount,
    _, rfl, ?_⟩
  split at h
  · cases h
  · rename_i haway
    refine ⟨haway, ?_⟩
    split at h
    · rename_i hcut
      exact .inl ⟨hcut, (Except.ok.inj h).symm⟩
    · rename_i hmove
      exact .inr ⟨hmove, (Except.ok.inj h).symm⟩

/-- A refocus keeps the position and looks at a named place; a wish for a fitting distance is
noted. -/
lemma Refocus.perform_ok {refocus : Refocus} (h : refocus.perform stage pose = .ok take) :
    ∃ name target,
      refocus.target = some name ∧ Turn.lookable stage pose name = .ok target ∧
      take =
        if refocus.adjustFraming = some true then
          (stage.reach ⟨pose.position, target⟩ refocus.easing refocus.speed).noting .framing
        else stage.reach ⟨pose.position, target⟩ refocus.easing refocus.speed := by
  simp only [Refocus.perform] at h
  obtain ⟨name, hname, h⟩ := bind_eq_ok_iff.mp h
  obtain ⟨target, htarget, h⟩ := bind_eq_ok_iff.mp h
  exact ⟨name, target, required_ok hname, htarget, (Except.ok.inj h).symm⟩

end Cinematics
