import Mathlib.Tactic.Linarith
import Mathlib.Tactic.Ring
import Cinematics.Proofs.Confinement
import Cinematics.Proofs.FreeArc

/-!
# Along the line of sight

Zooms and dollies lead the camera along its line of sight: the candidate of either is a multiple of
the way from the target (`Pose.scaled`).  What the two differ in is how they come by the multiple.
A zoom scales the distance, and a dolly travels a length that is cut off at the stand-off.

How near a dolly comes is not settled by the cut alone, since the candidate is still to be brought
to an allowed height and to an allowed distance.  Neither harms, for different reasons.  A clamped
height is no nearer to the target than the candidate or than the start
(`Envelope.le_norm_clampHeight`), and a clamped distance is shortened to the greatest one at most.
`Dolly.perform_keepsStandoff` puts this together.

Where both moves are asked for the same framing, the two ways to come by the multiple agree, and so
do the moves (`Framing.zoom_eq_dolly`).
-/

namespace Cinematics

namespace Pose

/-- The pose of a camera on the same line of sight, at a multiple of the distance. -/
def scaled {α : Type} [Scalar α] (pose : Pose α) (f : α) : Pose α :=
  ⟨pose.target + (pose.position - pose.target) * f, pose.target⟩

variable (pose : Pose ℝ) {f g : ℝ}

/-- A scaled pose is as many times as far from its target. -/
lemma distance_scaled (hf : 0 ≤ f) : (pose.scaled f).distance = pose.distance * f := by
  have hview : (pose.scaled f).view = pose.view * f := by
    unfold scaled view
    ext
    · simp only [Vec.sub_x, Vec.add_x, Vec.mul_x]
      ring
    · simp only [Vec.sub_y, Vec.add_y, Vec.mul_y]
      ring
    · simp only [Vec.sub_z, Vec.add_z, Vec.mul_z]
      ring
  rw [distance, hview, Vec.norm_mul_real, abs_of_nonneg hf]
  rfl

/-- A pose that is scaled by one is the same. -/
lemma scaled_one : pose.scaled 1 = pose := by
  refine Pose.ext ?_ rfl
  ext
  · simp [scaled]
  · simp [scaled]
  · simp [scaled]

/-- Multiples of a distance multiply. -/
lemma scaled_scaled : (pose.scaled f).scaled g = pose.scaled (f * g) := by
  refine Pose.ext ?_ rfl
  ext
  · simp only [scaled, Vec.add_x, Vec.sub_x, Vec.mul_x]
    ring
  · simp only [scaled, Vec.add_y, Vec.sub_y, Vec.mul_y]
    ring
  · simp only [scaled, Vec.add_z, Vec.sub_z, Vec.mul_z]
    ring

end Pose

/-! ### What a zoom and a dolly come to -/

section Performed

variable {α : Type}

/-- A word for a direction that a move takes is understood. -/
lemma Heading.direction?_of_parse? {heading : Heading} {word : Option String}
    {direction : Direction} (hword : word.bind Direction.parse? = some direction)
    (hmem : direction ∈ heading.all) :
    (heading.direction? word : Outcome α (Option Direction)) = .ok (some direction) := by
  obtain ⟨word, rfl, hparse⟩ := Option.bind_eq_some_iff.mp hword
  unfold direction?
  simp only [hparse]
  exact if_pos (List.contains_iff_mem.mpr hmem)

variable [Scalar α] {stage : Stage α} {pose : Pose α}

/-- A zoom away from the target, with its direction and its factor settled, reaches a place. -/
lemma Zoom.perform_of_factor {zoom : Zoom α} {direction : Option Direction} {factor : α}
    (hfar : ¬ pose.distance < stage.settings.epsilon)
    (hdirection : (heading.direction? zoom.direction : Outcome α (Option Direction)) =
      .ok direction)
    (hfactor : zoom.factorFor stage pose.distance direction = .ok factor) :
    zoom.perform stage pose = .ok (stage.reach
      ⟨stage.place pose.position (pose.target + (pose.position - pose.target) * factor)
        pose.target, pose.target⟩ zoom.easing zoom.speed) := by
  unfold perform
  rw [if_neg hfar]
  exact bind_eq_ok_iff.mpr ⟨_, hdirection, bind_eq_ok_iff.mpr ⟨_, hfactor, rfl⟩⟩

/-- A dolly with its axes, its direction and its way settled stays, or reaches a place. -/
lemma Dolly.perform_of_travel {dolly : Dolly α} {frame : Frame α} {direction : Option Direction}
    {free : α} (hframe : Frame.ofView pose.position pose.target stage.settings.epsilon = some frame)
    (hdirection : (heading.direction? dolly.direction : Outcome α (Option Direction)) =
      .ok direction)
    (hfree : dolly.travelFor stage pose frame.forward direction = .ok free) :
    dolly.perform stage pose = .ok
      (if Scalar.abs (cap stage pose.distance free) < stage.settings.epsilon then stage.still pose
      else stage.reach
        ⟨stage.place pose.position
          (pose.position + frame.forward * cap stage pose.distance free) pose.target,
          pose.target⟩ dolly.easing dolly.speed) := by
  unfold perform
  rw [hframe]
  refine bind_eq_ok_iff.mpr ⟨_, hdirection, bind_eq_ok_iff.mpr ⟨_, hfree, ?_⟩⟩
  exact (apply_ite Except.ok _ _ _).symm

/-- An explicit distance in a direction is the way of a dolly. -/
lemma Dolly.travelFor_of_distance {dolly : Dolly α} {x : α} (hdistance : dolly.distance = some x)
    (hx : Scalar.isFinite x = true ∧ 0 < x) (forward : Vec α) (direction : Direction) :
    dolly.travelFor stage pose forward (some direction) =
      .ok (heading.sign direction * x) := by
  simp only [travelFor, hdistance, travel?, positive, if_pos hx]
  rfl

end Performed

/-! ### The stand-off of a dolly -/

/-- A coordinate between the ends of a way along a line is further from the origin of the line than
the nearer end is. -/
lemma abs_mul_min_le_abs_sub {a y f lo : ℝ} (hf : 0 ≤ f) (hstart : lo ≤ y)
    (hend : a + (y - a) * f ≤ lo) : |y - a| * min 1 f ≤ |lo - a| := by
  rcases le_total a y with hup | hdown
  · -- the way leads down, towards the origin, and the coordinate is above its end
    have hway : 0 ≤ y - a := sub_nonneg.mpr hup
    have hrest : 0 ≤ (y - a) * f := mul_nonneg hway hf
    have hlo : (y - a) * f ≤ lo - a := by linarith
    calc |y - a| * min 1 f
        ≤ |y - a| * f := mul_le_mul_of_nonneg_left (min_le_right _ _) (abs_nonneg _)
      _ = (y - a) * f := by rw [abs_of_nonneg hway]
      _ ≤ lo - a := hlo
      _ ≤ |lo - a| := le_abs_self _
  · -- the way leads down, away from the origin, and the coordinate is below its start
    have hway : y - a ≤ 0 := sub_nonpos.mpr hdown
    calc |y - a| * min 1 f
        ≤ |y - a| * 1 := mul_le_mul_of_nonneg_left (min_le_left _ _) (abs_nonneg _)
      _ = a - y := by rw [mul_one, abs_of_nonpos hway, neg_sub]
      _ ≤ -(lo - a) := by linarith
      _ ≤ |lo - a| := neg_le_abs _

namespace Envelope

variable {e : Envelope ℝ} {start anchor p fallback : Vec ℝ} {eps f : ℝ}

/-- The height of a point on a ray, once clamped, is no nearer to the origin of the ray than that of
the point or of the start, if the height of the start is allowed. -/
lemma abs_mul_min_le_clampHeight (hstart : e.AllowsHeight 0 start.y) (hf : 0 ≤ f)
    (hp : p = anchor + (start - anchor) * f) :
    |start.y - anchor.y| * min 1 f ≤ |(e.clampHeight p).y - anchor.y| := by
  rw [AllowsHeight, sub_zero, add_zero] at hstart
  obtain ⟨hlow, hhigh⟩ := hstart
  have hheight : p.y = anchor.y + (start.y - anchor.y) * f := by
    rw [hp]
    rfl
  have hclamped : (e.clampHeight p).y = min (max p.y e.minHeight) e.maxHeight := by
    simp only [clampHeight, Scalar.min_real, Scalar.max_real]
  rw [hclamped]
  rcases le_total p.y e.minHeight with hbelow | habove
  · rw [max_eq_right hbelow, min_eq_left (hlow.trans hhigh)]
    exact abs_mul_min_le_abs_sub hf hlow (hheight ▸ hbelow)
  · rw [max_eq_left habove]
    rcases le_total p.y e.maxHeight with hwithin | hbeyond
    · rw [min_eq_left hwithin, hheight, add_sub_cancel_left, abs_mul, abs_of_nonneg hf]
      exact mul_le_mul_of_nonneg_left (min_le_right _ _) (abs_nonneg _)
    · -- upside down, the greatest height is a least one
      rw [min_eq_right hbeyond]
      have hupside := abs_mul_min_le_abs_sub (y := -start.y) (a := -anchor.y) hf
        (neg_le_neg hhigh) (by linarith)
      rwa [neg_sub_neg, neg_sub_neg, abs_sub_comm, abs_sub_comm anchor.y] at hupside

/-- **A clamped height leads no nearer to the target** than the candidate on the line of sight, or
than the start. -/
lemma le_norm_clampHeight (hstart : e.AllowsHeight 0 start.y) (hf : 0 ≤ f)
    (hp : p = anchor + (start - anchor) * f) :
    (start - anchor).norm * min 1 f ≤ (e.clampHeight p - anchor).norm := by
  set m := min 1 f with hm
  have hm0 : 0 ≤ m := le_min zero_le_one hf
  have hside : m * m ≤ f * f := mul_self_le_mul_self hm0 (min_le_right _ _)
  have hheight := abs_mul_min_le_clampHeight hstart hf hp
  rw [← hm, ← abs_of_nonneg hm0, ← abs_mul, ← Vec.sub_y, ← Vec.sub_y] at hheight
  have hsquare := mul_self_le_mul_self (abs_nonneg _) hheight
  rw [abs_mul_abs_self, abs_mul_abs_self] at hsquare
  have hx : (e.clampHeight p - anchor).x = (start - anchor).x * f := by
    rw [hp]
    exact add_sub_cancel_left _ _
  have hz : (e.clampHeight p - anchor).z = (start - anchor).z * f := by
    rw [hp]
    exact add_sub_cancel_left _ _
  rw [← abs_of_nonneg hm0, ← Vec.norm_mul_real]
  refine Real.sqrt_le_sqrt ?_
  simp only [Vec.dot, Vec.mul_x, Vec.mul_y, Vec.mul_z, hx, hz]
  have hxs := mul_le_mul_of_nonneg_left hside (mul_self_nonneg (start - anchor).x)
  have hzs := mul_le_mul_of_nonneg_left hside (mul_self_nonneg (start - anchor).z)
  linarith

/-- A clamped distance is shortened to the greatest one at most. -/
lemma le_norm_clampDistance (heps : 0 < eps) (hnonneg : 0 ≤ e.minDistance)
    (horder : e.minDistance ≤ e.maxDistance) :
    min (p - anchor).norm e.maxDistance ≤
      (e.clampDistance p anchor fallback eps - anchor).norm := by
  rcases norm_clampDistance_cases p anchor fallback heps hnonneg horder with ⟨hsame, -⟩ | hgoal
  · rw [hsame]
    exact min_le_left _ _
  · rw [hgoal]
    exact min_le_min_right _ (le_max_left _ _)

end Envelope

namespace Scene

variable {scene : Scene ℝ} {around : Surroundings ℝ} {e : Envelope ℝ} {eps f : ℝ}
  {start candidate anchor : Vec ℝ}

/-- Without a box, a candidate on the line of sight is placed no nearer to the target than the
nearer of the candidate and the start, or else at the greatest distance. -/
lemma le_norm_place (henvelope : around.envelope = some e) (hbounds : scene.bounds = none)
    (heps : 0 < eps) (he : e.InOrder) (hstart : e.AllowsHeight 0 start.y) (hf : 0 ≤ f)
    (hcandidate : candidate = anchor + (start - anchor) * f) :
    min ((start - anchor).norm * min 1 f) e.maxDistance ≤
      (scene.place around eps start candidate anchor - anchor).norm := by
  rcases scene.place_cases around eps start candidate anchor with ⟨-, hplace⟩ | hplace
  · rw [hplace]
    calc min ((start - anchor).norm * min 1 f) e.maxDistance
        ≤ (start - anchor).norm * min 1 f := min_le_left _ _
      _ ≤ (start - anchor).norm :=
          mul_le_of_le_one_right (Vec.norm_nonneg_real _) (min_le_left _ _)
  · rw [hplace, settle_of_bounds_none henvelope hbounds, Envelope.confine]
    calc min ((start - anchor).norm * min 1 f) e.maxDistance
        ≤ min (e.clampHeight candidate - anchor).norm e.maxDistance :=
          min_le_min_right _ (Envelope.le_norm_clampHeight hstart hf hcandidate)
      _ ≤ _ := Envelope.le_norm_clampDistance heps he.nonneg he.distance

end Scene

namespace Dolly

/-- What is certain of where a dolly leads. -/
structure KeepsStandoff (stage : Stage ℝ) (pose next : Pose ℝ) : Prop where
  /-- The target stays where it is. -/
  target_eq : next.target = pose.target
  /-- The camera keeps the distance of the start, the stand-off or the greatest distance. -/
  le_distance : ∀ e, stage.around.envelope = some e →
    min (min pose.distance stage.settings.standoff) e.maxDistance ≤ next.distance
  /-- Without an envelope it keeps the distance of the start or the stand-off. -/
  le_distance_free : stage.around.envelope = none →
    min pose.distance stage.settings.standoff ≤ next.distance
  /-- Without an envelope it keeps to the ray from the target through the start. -/
  onRay : stage.around.envelope = none →
    ∃ s : ℝ, 0 ≤ s ∧ next.position = pose.target + (pose.position - pose.target) * s

variable {dolly : Dolly ℝ} {stage : Stage ℝ} {pose : Pose ℝ} {take : Take ℝ}

/-- A dolly that stays keeps its stand-off. -/
lemma KeepsStandoff.refl (stage : Stage ℝ) (pose : Pose ℝ) : KeepsStandoff stage pose pose where
  target_eq := rfl
  le_distance _ _ := (min_le_left _ _).trans (min_le_left _ _)
  le_distance_free _ := min_le_left _ _
  onRay _ := ⟨1, zero_le_one, congrArg Pose.position pose.scaled_one.symm⟩

/-- A dolly that is placed keeps its stand-off, if its candidate does. -/
lemma KeepsStandoff.of_scaled {f : ℝ} (hepsilon : 0 < stage.settings.epsilon)
    (hbounds : stage.scene.bounds = none)
    (henvelope : ∀ e, stage.around.envelope = some e →
      e.InOrder ∧ e.AllowsHeight 0 pose.position.y)
    (hf : 0 ≤ f) (hkept : min pose.distance stage.settings.standoff ≤ pose.distance * f) :
    KeepsStandoff stage pose
      ⟨stage.place pose.position (pose.scaled f).position pose.target, pose.target⟩ where
  target_eq := rfl
  le_distance e he := by
    obtain ⟨horder, hheight⟩ := henvelope e he
    have hnonneg : 0 ≤ pose.distance := Vec.norm_nonneg_real _
    have hcandidate : (pose.scaled f).position =
        pose.target + (pose.position - pose.target) * f := rfl
    have hplaced := Scene.le_norm_place he hbounds hepsilon horder hheight hf hcandidate
    rw [Vec.norm_sub_comm_real pose.position, Vec.norm_sub_comm_real (Scene.place _ _ _ _ _ _)]
      at hplaced
    have hnearer : min pose.distance stage.settings.standoff ≤ pose.distance * min 1 f := by
      rw [mul_min_of_nonneg _ _ hnonneg, mul_one]
      exact le_min (min_le_left _ _) hkept
    exact (min_le_min_right _ hnearer).trans hplaced
  le_distance_free hnone := by
    have hplaced : stage.place pose.position (pose.scaled f).position pose.target =
        (pose.scaled f).position := stage.place_open hnone hbounds _ _ _
    rw [hplaced]
    exact hkept.trans (pose.distance_scaled hf).ge
  onRay hnone := ⟨f, hf, stage.place_open hnone hbounds _ _ _⟩

/-- **A dolly keeps its stand-off.**

Over the reals and without a box, a dolly that succeeds gives one keyframe and leaves the target
where it is.  If there is no envelope, or one whose limits are in order and allow the height that
the camera starts at, the camera ends at least as far from its target as the least of three
distances: that at the start, the stand-off, and, where there is an envelope, the greatest one
allowed.  Without an envelope it ends on the ray from the target through its start. -/
theorem perform_keepsStandoff (hsettings : stage.settings.check = .ok ())
    (hbounds : stage.scene.bounds = none)
    (henvelope : ∀ e, stage.around.envelope = some e →
      e.InOrder ∧ e.AllowsHeight 0 pose.position.y)
    (h : dolly.perform stage pose = .ok take) :
    ∃ next easing, take = .single next stage.duration easing ∧ KeepsStandoff stage pose next := by
  have hepsilon := Settings.epsilon_pos hsettings
  rcases perform_ok h with ⟨-, rfl⟩ | ⟨frame, direction, free, hview, -, -, ⟨-, rfl⟩ | ⟨-, rfl⟩⟩
  · exact ⟨pose, .linear, rfl, .refl stage pose⟩
  · exact ⟨pose, .linear, rfl, .refl stage pose⟩
  · obtain ⟨hcandidate, hleft⟩ := candidate_eq hepsilon hview (cap stage pose.distance free)
    set f := 1 - cap stage pose.distance free / pose.distance
    have hpositive : 0 < pose.distance :=
      hepsilon.trans_le (not_lt.mp (Frame.forward_of_ofView hview).2)
    have hkept : min pose.distance stage.settings.standoff ≤ pose.distance * f := by
      rw [hleft]
      exact le_sub_cap (min_le_left _ _) (min_le_right _ _)
    have hleast : 0 ≤ min pose.distance stage.settings.standoff :=
      le_min hpositive.le (Settings.standoff_nonneg hsettings)
    have hf : 0 ≤ f := nonneg_of_mul_nonneg_right (hleast.trans hkept) hpositive
    rw [hcandidate]
    exact ⟨_, _, rfl, .of_scaled hepsilon hbounds henvelope hf hkept⟩

/-- A camera at the greatest height of the shell, whose target is above it. -/
noncomputable def lookingUp : Pose ℝ := ⟨⟨0, 6.0, 8.0⟩, ⟨0, 12.0, 0⟩⟩

/-- A stage without a subject, within the shell. -/
noncomputable def shellStage : Stage ℝ := ⟨.empty, ⟨some Scene.shell, 0⟩, .standard, 1⟩

/-- A request to go five units inward. -/
def fiveInward {α : Type} [Scalar α] : Dolly α := { direction := some "in", distance := some 5.0 }

/-- A dolly up to a target above the greatest height is brought down again, and keeps its
stand-off. -/
theorem perform_keepsStandoff_lookingUp :
    (Scene.shell.InOrder ∧ Scene.shell.AllowsHeight 0 lookingUp.position.y) ∧
    ∃ next easing,
      fiveInward.perform shellStage lookingUp = .ok (.single next shellStage.duration easing) ∧
      next.target = lookingUp.target ∧ 0.1 ≤ next.distance := by
  have horder : Scene.shell.InOrder := by
    constructor
    all_goals norm_num [Scene.shell]
  have hheight : Scene.shell.AllowsHeight 0 lookingUp.position.y := by
    norm_num [Envelope.AllowsHeight, Scene.shell, lookingUp]
  have hlength : lookingUp.distance = 10 := by
    refine Vec.norm_eq_of_dot_eq_mul_self (by norm_num) ?_
    norm_num [Vec.dot, Pose.view, lookingUp]
  have hfar : ¬ lookingUp.distance < shellStage.settings.epsilon := by
    rw [hlength]
    norm_num [shellStage, Settings.standard]
  obtain ⟨frame, hframe, -⟩ := Frame.exists_ofView hfar
  have hdirection : (heading.direction? (fiveInward : Dolly ℝ).direction :
      Outcome ℝ (Option Direction)) =
      .ok (some .inward) := rfl
  have htravel : fiveInward.travelFor shellStage lookingUp frame.forward (some .inward) =
      .ok (heading.sign .inward * 5.0) :=
    travelFor_of_distance rfl ⟨rfl, by norm_num⟩ _ _
  have hperform := perform_of_travel hframe hdirection htravel
  obtain ⟨next, easing, htake, hkeeps⟩ := perform_keepsStandoff Settings.check_standard rfl
    (fun e he => Option.some.inj he ▸ ⟨horder, hheight⟩) hperform
  refine ⟨⟨horder, hheight⟩, next, easing, hperform.trans (congrArg _ htake), hkeeps.target_eq, ?_⟩
  refine le_trans ?_ (hkeeps.le_distance _ rfl)
  rw [hlength]
  norm_num [Scene.shell, shellStage, Settings.standard]

end Dolly

/-! ### Framing by a zoom or by a dolly -/

/-- A request for a distance from the target, which a zoom and a dolly can both be asked for. -/
structure Framing where
  /-- Inward or outward, which makes no difference. -/
  direction : Option String := none
  /-- The distance to end at, as an amount. -/
  amount : Option String := none
  /-- The pace. -/
  speed : Option String := none
  /-- The easing. -/
  easing : Option String := none

namespace Framing

section Requests

variable {α : Type}

/-- The zoom that asks for no more than a framing. -/
def zoom (framing : Framing) : Zoom α where
  direction := framing.direction
  targetDistanceDescriptor := framing.amount
  speed := framing.speed
  easing := framing.easing

/-- The dolly that asks for no more than a framing. -/
def dolly (framing : Framing) : Dolly α where
  direction := framing.direction
  targetDistanceDescriptor := framing.amount
  speed := framing.speed
  easing := framing.easing

/-- Whether two outcomes are faults of one kind. -/
def FailAlike {β : Type} (x y : Outcome α β) : Prop :=
  ∃ fault fault', x = .error fault ∧ y = .error fault' ∧ fault.kind = fault'.kind

/-- A zoom and a dolly take the same words for directions. -/
lemma direction_cases (word : Option String) :
    FailAlike (Zoom.heading.direction? word : Outcome α (Option Direction))
      (Dolly.heading.direction? word) ∨
    ∃ direction,
      (Zoom.heading.direction? word : Outcome α (Option Direction)) = .ok direction ∧
      (Dolly.heading.direction? word : Outcome α (Option Direction)) = .ok direction := by
  unfold Heading.direction?
  cases word with
  | none => exact .inr ⟨none, rfl, rfl⟩
  | some word =>
    simp only
    cases Direction.parse? word with
    | none => exact .inl ⟨_, _, rfl, rfl, rfl⟩
    | some direction =>
      cases direction with
      | inward => exact .inr ⟨some .inward, rfl, rfl⟩
      | outward => exact .inr ⟨some .outward, rfl, rfl⟩
      | left | right | up | down | clockwise | counterClockwise =>
        exact .inl ⟨_, _, rfl, rfl, rfl⟩

/-- An amount that is required is understood, or it is at fault whatever it is required for. -/
lemma amount_cases (phrase : Option String) (first second : String) :
    FailAlike
      ((amount? phrase "target_distance_descriptor" >>= required first : Outcome α Amount))
      (amount? phrase "target_distance_descriptor" >>= required second) ∨
    ∃ word amount, phrase = some word ∧ Amount.parse? word = some amount ∧
      (amount? phrase "target_distance_descriptor" : Outcome α (Option Amount)) =
        .ok (some amount) := by
  unfold amount?
  cases phrase with
  | none => exact .inl ⟨_, _, rfl, rfl, rfl⟩
  | some word =>
    simp only
    cases hparse : Amount.parse? word with
    | none => exact .inl ⟨_, _, rfl, rfl, rfl⟩
    | some amount => exact .inr ⟨word, amount, rfl, hparse, rfl⟩

/-- Outcomes that fail alike do so in any sequence that they begin. -/
lemma FailAlike.bind {β γ : Type} {x y : Outcome α β} (h : FailAlike x y)
    (f g : β → Outcome α γ) : FailAlike (x >>= f) (y >>= g) := by
  obtain ⟨fault, fault', rfl, rfl, hkind⟩ := h
  exact ⟨fault, fault', rfl, rfl, hkind⟩

variable [Scalar α] {stage : Stage α} {pose : Pose α}

/-- A framing asks a zoom for the factor that leads to its distance. -/
lemma factorFor_zoom (framing : Framing) (stage : Stage α) (current : α)
    (direction : Option Direction) :
    framing.zoom.factorFor stage current direction =
      (amount? framing.amount "target_distance_descriptor" >>= required "factor") >>=
        fun amount => .ok (amount.framing stage.scene / current) := by
  rw [bind_assoc]
  rfl

/-- A framing asks a dolly for the way that leads to its distance. -/
lemma travelFor_dolly (framing : Framing) (stage : Stage α) (pose : Pose α) (forward : Vec α)
    (direction : Option Direction) :
    framing.dolly.travelFor stage pose forward direction =
      (amount? framing.amount "target_distance_descriptor" >>= required "distance") >>=
        fun amount => .ok (pose.distance - amount.framing stage.scene) := by
  rw [bind_assoc]
  rfl

variable {frame : Frame α} {framing : Framing}

/-- A zoom and a dolly fail alike over a word for a direction. -/
lemma failAlike_of_direction (hfar : ¬ pose.distance < stage.settings.epsilon)
    (hframe : Frame.ofView pose.position pose.target stage.settings.epsilon = some frame)
    (hfail : FailAlike (Zoom.heading.direction? framing.direction : Outcome α (Option Direction))
      (Dolly.heading.direction? framing.direction)) :
    FailAlike (framing.zoom.perform stage pose) (framing.dolly.perform stage pose) := by
  unfold Zoom.perform Dolly.perform
  rw [if_neg hfar, hframe]
  exact hfail.bind _ _

/-- A zoom and a dolly fail alike over an amount, once they have their direction. -/
lemma failAlike_of_amount {direction : Option Direction}
    (hfar : ¬ pose.distance < stage.settings.epsilon)
    (hframe : Frame.ofView pose.position pose.target stage.settings.epsilon = some frame)
    (hzoom : (Zoom.heading.direction? framing.direction : Outcome α (Option Direction)) =
      .ok direction)
    (hdolly : (Dolly.heading.direction? framing.direction : Outcome α (Option Direction)) =
      .ok direction)
    (hfail : FailAlike
      (amount? framing.amount "target_distance_descriptor" >>= required "factor" :
        Outcome α Amount)
      (amount? framing.amount "target_distance_descriptor" >>= required "distance")) :
    FailAlike (framing.zoom.perform stage pose) (framing.dolly.perform stage pose) := by
  have hparameter : FailAlike (framing.zoom.factorFor stage pose.distance direction)
      (framing.dolly.travelFor stage pose frame.forward direction) := by
    rw [factorFor_zoom, travelFor_dolly]
    exact hfail.bind _ _
  unfold Zoom.perform Dolly.perform
  rw [if_neg hfar, hframe]
  change FailAlike (Zoom.heading.direction? framing.direction >>= _)
    (Dolly.heading.direction? framing.direction >>= _)
  rw [hzoom, hdolly]
  exact hparameter.bind _ _

/-- A zoom and a dolly that are asked for the same framing both stay, fail alike, or both have their
parameters settled. -/
lemma perform_cases (framing : Framing) (stage : Stage α) (pose : Pose α) :
    (framing.zoom.perform stage pose = .ok (stage.still pose) ∧
      framing.dolly.perform stage pose = .ok (stage.still pose)) ∨
    FailAlike (framing.zoom.perform stage pose) (framing.dolly.perform stage pose) ∨
    ∃ word amount frame,
      framing.amount = some word ∧ Amount.parse? word = some amount ∧
      Frame.ofView pose.position pose.target stage.settings.epsilon = some frame ∧
      framing.zoom.perform stage pose = .ok (stage.reach
        ⟨stage.place pose.position (pose.target + (pose.position - pose.target) *
          (amount.framing stage.scene / pose.distance)) pose.target, pose.target⟩
        framing.easing framing.speed) ∧
      framing.dolly.perform stage pose = .ok
        (if Scalar.abs (Dolly.cap stage pose.distance
            (pose.distance - amount.framing stage.scene)) < stage.settings.epsilon then
          stage.still pose
        else stage.reach
          ⟨stage.place pose.position (pose.position + frame.forward *
            Dolly.cap stage pose.distance (pose.distance - amount.framing stage.scene))
            pose.target, pose.target⟩ framing.easing framing.speed) := by
  by_cases hnear : pose.distance < stage.settings.epsilon
  · have hview : Frame.ofView pose.position pose.target stage.settings.epsilon = none :=
      if_pos hnear
    refine .inl ⟨if_pos hnear, ?_⟩
    unfold Dolly.perform
    rw [hview]
  · right
    obtain ⟨frame, hframe⟩ :
        ∃ frame, Frame.ofView pose.position pose.target stage.settings.epsilon = some frame :=
      ⟨_, if_neg hnear⟩
    rcases direction_cases framing.direction with hfail | ⟨direction, hzoom, hdolly⟩
    · exact .inl (failAlike_of_direction hnear hframe hfail)
    · rcases amount_cases framing.amount "factor" "distance" with
        hfail | ⟨word, amount, hword, hparse, hamount⟩
      · exact .inl (failAlike_of_amount hnear hframe hzoom hdolly hfail)
      · refine .inr ⟨word, amount, frame, hword, hparse, hframe, ?_, ?_⟩
        · refine Zoom.perform_of_factor hnear hzoom ?_
          rw [factorFor_zoom, hamount]
          rfl
        · refine Dolly.perform_of_travel hframe hdolly ?_
          rw [travelFor_dolly, hamount]
          rfl

end Requests

variable {stage : Stage ℝ} {pose : Pose ℝ}

/-- A way that leaves the stand-off is not cut off. -/
lemma cap_of_standoff_le {current goal : ℝ} (h : stage.settings.standoff ≤ goal) :
    Dolly.cap stage current (current - goal) = current - goal := by
  simp only [Dolly.cap, Scalar.min_real, Scalar.max_real]
  refine min_eq_left (le_max_of_le_left ?_)
  linarith

/-- **A zoom and a dolly agree on framings.**

Over the reals, let a zoom and a dolly be asked for nothing but a framing: the same amount, and the
same words for direction, pace and easing.  Whatever the box and the envelope, both succeed or both
fail, and then with faults of one kind.  Where the amount stands for a distance that is not within
the stand-off, and that differs from the distance of the camera by enough to count as a way, they
give the same take. -/
theorem zoom_eq_dolly (hsettings : stage.settings.check = .ok ()) (framing : Framing)
    (pose : Pose ℝ) :
    ((∃ take, framing.zoom.perform stage pose = .ok take) ↔
      ∃ take, framing.dolly.perform stage pose = .ok take) ∧
    (∀ fault fault', framing.zoom.perform stage pose = .error fault →
      framing.dolly.perform stage pose = .error fault' → fault.kind = fault'.kind) ∧
    ∀ word amount, framing.amount = some word → Amount.parse? word = some amount →
      stage.settings.standoff ≤ amount.framing stage.scene →
      stage.settings.epsilon ≤ |amount.framing stage.scene - pose.distance| →
      ∀ take, framing.zoom.perform stage pose = .ok take ↔
        framing.dolly.perform stage pose = .ok take := by
  rcases framing.perform_cases stage pose with ⟨hzoom, hdolly⟩ |
    ⟨fault, fault', hzoom, hdolly, hkind⟩ |
    ⟨word, amount, frame, hword, hparse, hframe, hzoom, hdolly⟩
  · rw [hzoom, hdolly]
    refine ⟨Iff.rfl, ?_, fun _ _ _ _ _ _ _ => Iff.rfl⟩
    intro _ _ hfault
    cases hfault
  · rw [hzoom, hdolly]
    refine ⟨by simp, ?_, by simp⟩
    intro _ _ h h'
    rw [← Except.error.inj h, ← Except.error.inj h']
    exact hkind
  · refine ⟨by simp [hzoom, hdolly], by simp [hzoom], ?_⟩
    intro word' amount' hword' hparse' hstandoff hway take
    obtain rfl := Option.some.inj (hword.symm.trans hword')
    obtain rfl := Option.some.inj (hparse.symm.trans hparse')
    set goal := amount.framing stage.scene with hgoal
    have hepsilon := Settings.epsilon_pos hsettings
    have hpositive : 0 < pose.distance :=
      hepsilon.trans_le (not_lt.mp (Frame.forward_of_ofView hframe).2)
    rw [cap_of_standoff_le hstandoff, Scalar.abs_real, abs_sub_comm, if_neg (not_lt.mpr hway)]
      at hdolly
    -- the factor of the zoom and the way of the dolly lead to the same point
    have hfactor : goal / pose.distance = 1 - (pose.distance - goal) / pose.distance := by
      rw [sub_div, div_self hpositive.ne', sub_sub_cancel]
    rw [(Dolly.candidate_eq hepsilon hframe _).1, ← hfactor] at hdolly
    rw [hzoom, hdolly]

/-- A request to come very close. -/
def veryClose : Framing := { amount := some "very close" }

/-- A stage with the cube, within the shell. -/
noncomputable def cubeStage : Stage ℝ := ⟨.cube, ⟨some Scene.shell, 0⟩, .standard, 1⟩

/-- Asked to come very close to the cube, where the cube and the least distance are both in the way,
a zoom and a dolly give the same take. -/
theorem zoom_eq_dolly_veryClose :
    (cubeStage.settings.standoff ≤ Amount.tiny.framing cubeStage.scene ∧
      cubeStage.settings.epsilon ≤
        |Amount.tiny.framing cubeStage.scene - Pose.ahead.distance|) ∧
    ∃ take, veryClose.zoom.perform cubeStage .ahead = .ok take ∧
      veryClose.dolly.perform cubeStage .ahead = .ok take := by
  have hgoal : Amount.tiny.framing cubeStage.scene = 1 := by
    norm_num [Amount.framing, Amount.framingScale, Scene.size, cubeStage, Scene.cube, Box.maxExtent,
      Box.size, Vec.maxCoord]
  have hstandoff : cubeStage.settings.standoff ≤ Amount.tiny.framing cubeStage.scene := by
    rw [hgoal]
    norm_num [cubeStage, Settings.standard]
  have hway : cubeStage.settings.epsilon ≤
      |Amount.tiny.framing cubeStage.scene - Pose.ahead.distance| := by
    rw [hgoal, Pose.distance_ahead]
    norm_num [cubeStage, Settings.standard, abs_of_neg]
  have hfar : ¬ Pose.ahead.distance < cubeStage.settings.epsilon := by
    rw [Pose.distance_ahead]
    norm_num [cubeStage, Settings.standard]
  have hparse : Amount.parse? "very close" = some .tiny := by rfl
  have hfactor : veryClose.zoom.factorFor cubeStage Pose.ahead.distance none =
      .ok (Amount.tiny.framing cubeStage.scene / Pose.ahead.distance) := by rfl
  have hzoom := Zoom.perform_of_factor hfar rfl hfactor
  have hsettings : cubeStage.settings.check = .ok () := Settings.check_standard
  obtain ⟨-, -, hagree⟩ := zoom_eq_dolly hsettings veryClose .ahead
  exact ⟨⟨hstandoff, hway⟩, _, hzoom, (hagree _ _ rfl hparse hstandoff hway _).mp hzoom⟩

end Framing

end Cinematics
