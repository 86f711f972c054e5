import Mathlib.Tactic.Linarith
import Mathlib.Tactic.NormNum
import Mathlib.Tactic.Ring
import Cinematics.Proofs.NonPenetration
import Cinematics.Proofs.Path

/-!
# Slides within the envelope

A slide moves the camera and its target together, so its distance to the target stays as it is, and
the limits that it could break are the height and the box.  It is placed about the point to which
the target would follow the candidate.  This is not always the point to which the target will have
followed the camera, and the start may be out of the distances from it.

Even so, a slide from an admissible place ends at a place that is admissible about its own target
(`Slide.contained`), with one exception: the box may push the camera out of itself, and then beyond
a height.  This takes a segment that grazes the box or creeps into it, and a start that is out of
the distances from the anticipated target, and so is not fallen back to.  The last theorem of the
file is about a slide of this kind under a plate.
-/

namespace Cinematics

/-! ### Heights and distances -/

namespace Envelope

/-- Whether the limits of an envelope are in order. -/
structure InOrder (e : Envelope ℝ) : Prop where
  /-- The least height is not above the greatest. -/
  height : e.minHeight ≤ e.maxHeight
  /-- The least distance is not negative. -/
  nonneg : 0 ≤ e.minDistance
  /-- The least distance is not beyond the greatest. -/
  distance : e.minDistance ≤ e.maxDistance

/-- Whether a height keeps to the limits, give or take a tolerance. -/
def AllowsHeight (e : Envelope ℝ) (tolerance y : ℝ) : Prop :=
  e.minHeight - tolerance ≤ y ∧ y ≤ e.maxHeight + tolerance

/-- Whether a distance keeps to the limits, give or take a tolerance. -/
def AllowsDistance (e : Envelope ℝ) (tolerance distance : ℝ) : Prop :=
  e.minDistance - tolerance ≤ distance ∧ distance ≤ e.maxDistance + tolerance

variable {e : Envelope ℝ} {tolerance eps : ℝ} {p start anchor : Vec ℝ}

/-- An envelope admits positions by their height and their distance from the anchor. -/
lemma admits_iff :
    e.admits p anchor tolerance = true ↔
      e.AllowsHeight tolerance p.y ∧ e.AllowsDistance tolerance (p - anchor).norm := by
  simp only [admits, Bool.and_eq_true, decide_eq_true_eq, AllowsHeight, AllowsDistance, and_assoc]

/-- A height between two that are allowed is allowed. -/
lemma AllowsHeight.between {y₁ y₂ s : ℝ} (h₁ : e.AllowsHeight tolerance y₁)
    (h₂ : e.AllowsHeight tolerance y₂) (h0 : 0 ≤ s) (h1 : s ≤ 1) :
    e.AllowsHeight tolerance (y₁ + (y₂ - y₁) * s) := by
  have hrest : 0 ≤ 1 - s := sub_nonneg.mpr h1
  have hmean : y₁ + (y₂ - y₁) * s = y₁ * (1 - s) + y₂ * s := by ring
  have hlo₁ := mul_le_mul_of_nonneg_right h₁.1 hrest
  have hlo₂ := mul_le_mul_of_nonneg_right h₂.1 h0
  have hhi₁ := mul_le_mul_of_nonneg_right h₁.2 hrest
  have hhi₂ := mul_le_mul_of_nonneg_right h₂.2 h0
  rw [hmean]
  constructor
  · linarith
  · linarith

/-- A height off one within the limits by no more than the tolerance is allowed. -/
lemma AllowsHeight.of_near {y y' : ℝ} (h : e.AllowsHeight 0 y) (hnear : |y' - y| ≤ tolerance) :
    e.AllowsHeight tolerance y' := by
  obtain ⟨hlo, hhi⟩ := abs_le.mp hnear
  have hmin := h.1
  have hmax := h.2
  constructor
  · linarith
  · linarith

/-- A position with its height clamped is at an allowed height. -/
lemma InOrder.allowsHeight_clampHeight (he : e.InOrder) (p : Vec ℝ) :
    e.AllowsHeight 0 (e.clampHeight p).y := by
  have hy : (e.clampHeight p).y = min (max p.y e.minHeight) e.maxHeight := by
    simp only [clampHeight, Scalar.min_real, Scalar.max_real]
  rw [AllowsHeight, sub_zero, add_zero, hy]
  exact ⟨le_min (le_max_right _ _) he.height, min_le_right _ _⟩

/-- A position at an allowed height stays where it is when its height is clamped. -/
lemma clampHeight_of_allowsHeight (h : e.AllowsHeight 0 p.y) : e.clampHeight p = p := by
  rw [AllowsHeight, sub_zero, add_zero] at h
  have hy : min (max p.y e.minHeight) e.maxHeight = p.y := by
    rw [max_eq_left h.1, min_eq_left h.2]
  simp only [clampHeight, Scalar.min_real, Scalar.max_real, hy]

/-- The distance that a distance is brought to is no further off than its tolerance. -/
lemma AllowsDistance.abs_clamp_sub_le {d : ℝ} (he : e.InOrder)
    (h : e.AllowsDistance tolerance d) (htolerance : 0 ≤ tolerance) :
    |min (max d e.minDistance) e.maxDistance - d| ≤ tolerance := by
  have hlo := h.1
  have hhi := h.2
  have horder := he.distance
  rw [abs_le]
  rcases le_total d e.minDistance with hnear | hfar
  · rw [max_eq_right hnear, min_eq_left horder]
    constructor
    · linarith
    · linarith
  · rw [max_eq_left hfar]
    rcases le_total d e.maxDistance with hwithin | hbeyond
    · rw [min_eq_left hwithin, sub_self]
      exact ⟨neg_nonpos.mpr htolerance, htolerance⟩
    · rw [min_eq_right hbeyond]
      constructor
      · linarith
      · linarith

/-- The height of a point at a distance from the anchor on the ray through another point. -/
lemma abs_y_ray_sub_le {distance : ℝ} (hlength : 0 < (p - anchor).norm) :
    |(anchor + (p - anchor) / (p - anchor).norm * distance).y - p.y| ≤
      |distance - (p - anchor).norm| := by
  set length := (p - anchor).norm with hlengthdef
  have hslope : |(p - anchor).y / length| ≤ 1 := by
    rw [abs_div, abs_of_pos hlength, div_le_one hlength]
    exact (p - anchor).abs_coord_le_norm .y
  have hcancel : (p - anchor).y / length * length = (p - anchor).y :=
    div_mul_cancel₀ _ hlength.ne'
  have hdiff : (anchor + (p - anchor) / length * distance).y - p.y =
      (p - anchor).y / length * (distance - length) := by
    simp only [Vec.add_y, Vec.mul_y, Vec.div_y]
    rw [mul_sub, hcancel, Vec.sub_y]
    ring
  calc |(anchor + (p - anchor) / length * distance).y - p.y|
      = |(p - anchor).y / length| * |distance - length| := by rw [hdiff, abs_mul]
    _ ≤ 1 * |distance - length| := mul_le_mul_of_nonneg_right hslope (abs_nonneg _)
    _ = |distance - length| := one_mul _

/-- The height of a point at a distance from the anchor in the fallback direction, away from where
the start is, or else level with the anchor.  The start is too far from the anchor, since it would
be admitted if it were nearer than the distance. -/
lemma AllowsHeight.toward_start {distance : ℝ} (hanchor : e.AllowsHeight tolerance anchor.y)
    (hstart : e.AllowsHeight tolerance start.y) (hnonneg : 0 ≤ distance) (heps : 0 < eps)
    (hfar : eps ≤ (start - anchor).norm → distance ≤ (start - anchor).norm) :
    e.AllowsHeight tolerance
      (anchor + (start - anchor).normalizeOr (Vec.unit .z) eps * distance).y := by
  by_cases hshort : (start - anchor).norm < eps
  · have hy : (anchor + (start - anchor).normalizeOr (Vec.unit .z) eps * distance).y =
        anchor.y := by
      simp only [Vec.normalizeOr, if_pos hshort, Vec.add_y, Vec.mul_y, Vec.unit]
      ring
    rw [hy]
    exact hanchor
  · have hlength : 0 < (start - anchor).norm := heps.trans_le (not_lt.mp hshort)
    have hpart : distance / (start - anchor).norm ≤ 1 :=
      (div_le_one hlength).mpr (hfar (not_lt.mp hshort))
    have hy : (anchor + (start - anchor).normalizeOr (Vec.unit .z) eps * distance).y =
        anchor.y + (start.y - anchor.y) * (distance / (start - anchor).norm) := by
      simp only [Vec.normalizeOr, if_neg hshort, Vec.add_y, Vec.mul_y, Vec.div_y, Vec.sub_y]
      ring
    rw [hy]
    exact hanchor.between hstart (div_nonneg hnonneg hlength.le) hpart

/-- **Clamping a distance keeps to the heights**, if the distance was within the tolerance, and the
start, which gives the fallback direction, is not at an allowed distance itself. -/
theorem AllowsHeight.clampDistance (he : e.InOrder) (heps : 0 < eps) (htolerance : 0 ≤ tolerance)
    (hheight : e.AllowsHeight 0 p.y) (hdistance : e.AllowsDistance tolerance (p - anchor).norm)
    (hstart : e.AllowsHeight tolerance start.y)
    (hfar : ¬ e.AllowsDistance tolerance (start - anchor).norm) :
    e.AllowsHeight tolerance (e.clampDistance p anchor (start - anchor) eps).y := by
  have hgoal := hdistance.abs_clamp_sub_le he htolerance
  set length := (p - anchor).norm with hlengthdef
  set goal := min (max length e.minDistance) e.maxDistance with hgoaldef
  simp only [Envelope.clampDistance, Scalar.min_real, Scalar.max_real, Scalar.abs_real,
    ← hlengthdef, ← hgoaldef]
  by_cases hsame : |goal - length| ≤ eps
  · rw [if_pos hsame]
    exact hheight.of_near (by rw [sub_self, abs_zero]; exact htolerance)
  · rw [if_neg hsame]
    by_cases hshort : length < eps
    · -- the position is next to the anchor: it goes out to the least distance
      have hnonneg : 0 ≤ length := Vec.norm_nonneg_real _
      have hmin : length < e.minDistance := by
        by_contra hbeyond
        have hgoalle : goal ≤ length :=
          (min_le_left _ _).trans (max_le le_rfl (not_lt.mp hbeyond))
        have hgoalnonneg : 0 ≤ goal :=
          le_min (hnonneg.trans (le_max_left _ _)) (he.nonneg.trans he.distance)
        rw [abs_sub_comm, abs_of_nonneg (sub_nonneg.mpr hgoalle)] at hsame
        linarith
      have hgoalmin : goal = e.minDistance := by
        rw [hgoaldef, max_eq_right hmin.le, min_eq_left he.distance]
      have hanchor : e.AllowsHeight tolerance anchor.y := by
        refine hheight.of_near ?_
        have hdrop : |p.y - anchor.y| ≤ length := (p - anchor).abs_coord_le_norm .y
        rw [abs_sub_comm]
        linarith [not_le.mp hsame]
      have hstartfar :
          eps ≤ (start - anchor).norm → goal ≤ (start - anchor).norm := by
        intro hlong
        by_contra hnear
        have hlow := hdistance.1
        refine hfar ⟨by linarith, ?_⟩
        linarith [not_le.mp hnear, he.distance]
      have hfallback : (p - anchor).normalizeOr ((start - anchor).normalizeOr (Vec.unit .z) eps)
          eps = (start - anchor).normalizeOr (Vec.unit .z) eps := by
        simp only [Vec.normalizeOr, ← hlengthdef, if_pos hshort]
      rw [hfallback]
      exact hanchor.toward_start hstart (hgoalmin ▸ he.nonneg) heps hstartfar
    · -- the position goes along its ray, and no further in height than in distance
      have hpositive : 0 < length := heps.trans_le (not_lt.mp hshort)
      have hray : (p - anchor).normalizeOr ((start - anchor).normalizeOr (Vec.unit .z) eps) eps =
          (p - anchor) / length := by
        simp only [Vec.normalizeOr, ← hlengthdef, if_neg hshort]
      rw [hray]
      exact hheight.of_near ((abs_y_ray_sub_le hpositive).trans hgoal)

end Envelope

/-- Whether the envelope, if there is one, has its limits in order. -/
def Surroundings.InOrder (around : Surroundings ℝ) : Prop :=
  ∀ e, around.envelope = some e → e.InOrder

/-! ### Places -/

namespace Scene

variable {scene : Scene ℝ} {around : Surroundings ℝ} {eps : ℝ} {start candidate anchor p : Vec ℝ}

/-- Whether a position is where the subject's box pushes the camera out of itself, at the end of a
segment that the box has let in. -/
def IsPushedOut (scene : Scene ℝ) (around : Surroundings ℝ) (start p : Vec ℝ) : Prop :=
  ∃ b finish, scene.liftedBounds around = some b ∧
    (b.Creeps start finish ∨ b.Grazes start finish) ∧
    b.containsStrictly finish = true ∧ p = b.pushOut finish b.clearance

/-- Within an envelope the admissible places are those at an allowed height, at an allowed distance
and outside the subject. -/
lemma isAdmissible_iff {e : Envelope ℝ} (henvelope : around.envelope = some e) :
    scene.isAdmissible around p anchor = true ↔
      (e.AllowsHeight admitTolerance p.y ∧ e.AllowsDistance admitTolerance (p - anchor).norm) ∧
        scene.IsOutside around p := by
  rw [isAdmissible, henvelope, Option.all_some, Bool.and_eq_true, Envelope.admits_iff, IsOutside]
  cases scene.liftedBounds around with
  | none => simp
  | some b => simp

/-- From outside, what a candidate settles at is part of the way to where it is confined, unless it
is pushed out of the box. -/
lemma settle_along {e : Envelope ℝ} (henvelope : around.envelope = some e)
    (hstart : scene.IsOutside around start) :
    scene.IsPushedOut around start (scene.settle around eps start candidate anchor) ∨
      ∃ s : ℝ, 0 ≤ s ∧ s ≤ 1 ∧ scene.settle around eps start candidate anchor =
        start + (e.confine candidate anchor (start - anchor) eps - start) * s := by
  simp only [settle, henvelope]
  set confined := e.confine candidate anchor (start - anchor) eps with hconfined
  cases hbounds : scene.liftedBounds around with
  | none => exact .inr ⟨1, zero_le_one, le_rfl, (Vec.add_sub_mul_one_real _ _).symm⟩
  | some b =>
    by_cases hpush : b.PushesOut start confined
    · refine .inl ⟨b, confined, hbounds, ?_, hpush.2, ?_⟩
      · by_contra hclean
        rw [not_or] at hclean
        exact Box.not_pushesOut (hstart b hbounds) hclean.1 hclean.2 hpush
      · simp only [Box.clear, hpush.1, hpush.2, if_true]
    · exact .inr (Box.clear_along hpush)

/-- The height of a place is allowed if the start is admissible about its own anchor, which the
candidate is as far from as it should be, and unless the place is pushed out of the box. -/
lemma allowsHeight_place {e : Envelope ℝ} {own : Vec ℝ} (henvelope : around.envelope = some e)
    (he : e.InOrder) (heps : 0 < eps) (hstart : scene.isAdmissible around start own = true)
    (hcandidate : e.AllowsHeight 0 candidate.y)
    (hdistance : e.AllowsDistance admitTolerance (candidate - anchor).norm)
    (hpush : ¬ scene.IsPushedOut around start (scene.place around eps start candidate anchor)) :
    e.AllowsHeight admitTolerance (scene.place around eps start candidate anchor).y := by
  have htolerance : (0 : ℝ) ≤ admitTolerance := by norm_num [admitTolerance]
  obtain ⟨⟨hheight, -⟩, houtside⟩ := (isAdmissible_iff henvelope).mp hstart
  simp only [place] at hpush ⊢
  split
  · exact hheight
  · rename_i hkept
    rw [if_neg hkept] at hpush
    by_cases hsettled :
        scene.isAdmissible around (scene.settle around eps start candidate anchor) anchor = true
    · exact ((isAdmissible_iff henvelope).mp hsettled).1.1
    · -- the start was not fallen back to, which only its distance from the anchor can explain
      have hfar : ¬ e.AllowsDistance admitTolerance (start - anchor).norm := by
        intro hnear
        refine hkept ?_
        rw [(isAdmissible_iff henvelope).mpr ⟨⟨hheight, hnear⟩, houtside⟩, Bool.and_true,
          Bool.not_eq_true', ← Bool.not_eq_true]
        exact hsettled
      have hconfined : e.AllowsHeight admitTolerance
          (e.confine candidate anchor (start - anchor) eps).y := by
        rw [Envelope.confine, Envelope.clampHeight_of_allowsHeight hcandidate]
        exact .clampDistance he heps htolerance hcandidate hdistance hheight hfar
      rcases settle_along henvelope houtside with hpushed | ⟨s, h0, h1, hs⟩
      · exact absurd hpushed hpush
      · rw [hs]
        exact hheight.between hconfined h0 h1

end Scene

/-! ### Slides -/

namespace Slide

variable {stage : Stage ℝ} {pose : Pose ℝ} {take : Take ℝ}

/-- A pose that is carried along keeps its view. -/
lemma view_carry (pose : Pose ℝ) (p : Vec ℝ) : (carry pose p).view = pose.view := by
  ext
  · simp only [carry, Pose.view, Vec.sub_x, Vec.add_x]
    ring
  · simp only [carry, Pose.view, Vec.sub_y, Vec.add_y]
    ring
  · simp only [carry, Pose.view, Vec.sub_z, Vec.add_z]
    ring

/-- A position is as far from the target as the view is long. -/
lemma norm_position_sub_target (pose : Pose ℝ) :
    (pose.position - pose.target).norm = pose.view.norm := Vec.norm_sub_comm_real _ _

/-- The candidate of a slide is as far from the anticipated target as the view is long. -/
lemma norm_sub_add_view (p : Vec ℝ) (pose : Pose ℝ) :
    (p - (p + pose.view)).norm = pose.view.norm := by
  rw [Vec.norm_sub_comm_real, Vec.add_sub_cancel_left_real]

/-- Where a slide leads a pose, one keyframe at a time: it stays, or it is carried to a place. -/
lemma pose_of_along {slide : Slide ℝ} {kind : MoveKind} {heading : Heading} {axis : Vec ℝ}
    (h : slide.along stage pose kind heading axis = .ok take) {k : Keyframe ℝ}
    (hk : k ∈ take.keyframes) :
    k.pose = pose ∨ ∃ travel,
      k.pose = carry pose (stage.place pose.position (candidate stage pose axis travel)
        (candidate stage pose axis travel + pose.view)) := by
  obtain ⟨-, travel, -, -, ⟨-, rfl⟩ | ⟨-, rfl⟩⟩ := along_ok h
  · exact .inl (Take.single_poses (· = pose) rfl k hk)
  · exact .inr ⟨travel, Take.single_poses (· = carry pose _) rfl k hk⟩

/-- A pose that is carried to a place is admissible about its own target, unless the place is pushed
out of the box. -/
lemma isAdmissible_carry (hepsilon : 0 < stage.settings.epsilon) (horder : stage.around.InOrder)
    (hstart : stage.scene.isAdmissible stage.around pose.position pose.target = true)
    {axis p : Vec ℝ} {travel : ℝ}
    (hp : p = stage.place pose.position (candidate stage pose axis travel)
      (candidate stage pose axis travel + pose.view))
    (hpush : ¬ stage.scene.IsPushedOut stage.around pose.position p) :
    stage.scene.isAdmissible stage.around p (carry pose p).target = true := by
  subst hp
  set p := stage.place pose.position (candidate stage pose axis travel)
    (candidate stage pose axis travel + pose.view)
  have houtside : stage.scene.IsOutside stage.around p := Scene.isOutside_place _ _ _ _
  cases henvelope : stage.around.envelope with
  | none => exact (Scene.isAdmissible_iff_isOutside henvelope).mpr houtside
  | some e =>
    have he : e.InOrder := horder e henvelope
    have hcandidate : e.AllowsHeight 0 (candidate stage pose axis travel).y := by
      simp only [candidate, henvelope]
      exact he.allowsHeight_clampHeight _
    obtain ⟨⟨-, hdistance⟩, -⟩ := (Scene.isAdmissible_iff henvelope).mp hstart
    rw [norm_position_sub_target] at hdistance
    have hheight : e.AllowsHeight Scene.admitTolerance p.y := by
      refine Scene.allowsHeight_place henvelope he hepsilon hstart hcandidate ?_ hpush
      rw [norm_sub_add_view]
      exact hdistance
    have hkept : (p - (carry pose p).target).norm = pose.view.norm := by
      rw [← view_carry pose p]
      exact norm_position_sub_target (carry pose p)
    exact (Scene.isAdmissible_iff henvelope).mpr ⟨⟨hheight, hkept ▸ hdistance⟩, houtside⟩

/-- **A slide keeps the view, and keeps to the admissible places.**

Over the reals, a truck or a pedestal leaves the vector from the camera to its target as it is.  If
the limits of the envelope are in order and the camera starts at a place that is admissible about
its target, then it ends at a place that is admissible about its new target, unless the box has
pushed it out of itself. -/
theorem contained {move : Move ℝ} (hkind : move.kind ∈ [.truck, .pedestal])
    (hsettings : stage.settings.check = .ok ()) (horder : stage.around.InOrder)
    (hstart : stage.scene.isAdmissible stage.around pose.position pose.target = true)
    (h : move.perform stage pose = .ok take) :
    ∀ k ∈ take.keyframes, k.pose.view = pose.view ∧
      (¬ stage.scene.IsPushedOut stage.around pose.position k.pose.position →
        stage.scene.isAdmissible stage.around k.pose.position k.pose.target = true) := by
  have hepsilon : 0 < stage.settings.epsilon := Settings.epsilon_pos hsettings
  have hpose : ∀ k ∈ take.keyframes, k.pose = pose ∨ ∃ axis travel,
      k.pose = carry pose (stage.place pose.position (candidate stage pose axis travel)
        (candidate stage pose axis travel + pose.view)) := by
    intro k hk
    cases move with
    | truck slide =>
      rcases truck_ok h with ⟨-, rfl⟩ | ⟨frame, -, halong⟩
      · exact .inl (Take.single_poses (· = pose) rfl k hk)
      · exact (pose_of_along halong hk).imp_right fun ⟨travel, hk⟩ => ⟨frame.right, travel, hk⟩
    | pedestal slide =>
      exact (pose_of_along (pedestal_ok h) hk).imp_right fun ⟨travel, hk⟩ => ⟨Vec.up, travel, hk⟩
    | hold _ | zoom _ | orbit _ | pan _ | tilt _ | dolly _ | moveTo _ | focusOn _ | rotate _ =>
      simp [Move.kind] at hkind
  intro k hk
  rcases hpose k hk with hsame | ⟨axis, travel, hcarried⟩
  · rw [hsame]
    exact ⟨rfl, fun _ => hstart⟩
  · rw [hcarried]
    exact ⟨view_carry _ _, isAdmissible_carry hepsilon horder hstart rfl⟩

/-! ### A plate above the camera -/

/-- The limits that the next slides are about: a camera a little above the ground at most. -/
noncomputable def low : Envelope ℝ := ⟨0.5, 2, -5, 0.05⟩

/-- A stage with these limits. -/
noncomputable def lowStage (bounds : Option (Box ℝ)) : Stage ℝ :=
  ⟨⟨bounds, []⟩, ⟨some low, 0⟩, .standard, 1⟩

/-- The limits of the stage are in order. -/
lemma inOrder_lowStage (bounds : Option (Box ℝ)) : (lowStage bounds).around.InOrder := by
  intro e he
  rw [← Option.some.inj he]
  constructor
  all_goals norm_num [low]

/-- The box of the stage is not lifted. -/
lemma liftedBounds_lowStage (bounds : Option (Box ℝ)) :
    (lowStage bounds).scene.liftedBounds (lowStage bounds).around = bounds := by
  cases bounds with
  | none => rfl
  | some b => exact congrArg some b.lift_zero_real

/-- A camera below the ground that looks ahead. -/
def below : Pose ℝ := ⟨⟨0, -2, 0⟩, ⟨0, -2, -1⟩⟩

/-- A pedestal up. -/
def upBy (x : ℝ) : Move ℝ := .pedestal { direction := some "up", distance := some x }

/-- Where a pedestal up leads the camera. -/
noncomputable def landing (bounds : Option (Box ℝ)) (x : ℝ) : Vec ℝ :=
  (lowStage bounds).place below.position (candidate (lowStage bounds) below Vec.up x)
    (candidate (lowStage bounds) below Vec.up x + below.view)

/-- A pedestal up carries the pose as far as its number says. -/
lemma perform_up (bounds : Option (Box ℝ)) {x : ℝ} (hx : 0.000001 ≤ x) :
    (upBy x).perform (lowStage bounds) below =
      .ok ((lowStage bounds).reach (carry below (landing bounds x)) none none) := by
  have hpositive : Scalar.isFinite x = true ∧ 0 < x := ⟨rfl, by linarith⟩
  have hdirection : (Heading.direction? ⟨[.up], [.down]⟩ (some "up") :
      Outcome ℝ (Option Direction)) = .ok (some .up) := rfl
  have hsign : (Heading.sign ⟨[.up], [.down]⟩ .up : ℝ) = 1 := rfl
  have htravel :
      Slide.travelFor { direction := some "up", distance := some x } (lowStage bounds) below
        .pedestal ⟨[.up], [.down]⟩ Vec.up (some .up) = .ok x := by
    simp only [travelFor, travel?, positive, if_pos hpositive]
    exact congrArg Except.ok ((congrArg (· * x) hsign).trans (one_mul x))
  have hlong : ¬ Scalar.abs x < (lowStage bounds).settings.epsilon := by
    rw [Scalar.abs_real, abs_of_pos hpositive.2, not_lt]
    exact hx.trans' (by norm_num [lowStage, Settings.standard])
  simp only [upBy, Move.perform, pedestal, along, hdirection]
  refine bind_eq_ok_iff.mpr ⟨_, rfl, bind_eq_ok_iff.mpr ⟨x, htravel, ?_⟩⟩
  rw [if_neg hlong]
  rfl

/-- The candidate of a pedestal up is above the start, and not higher than allowed. -/
lemma candidate_up (bounds : Option (Box ℝ)) (x : ℝ) :
    candidate (lowStage bounds) below Vec.up x = ⟨0, min (max (x - 2) (-5)) 0.05, 0⟩ := by
  ext
  · simp [candidate, lowStage, Envelope.clampHeight, Vec.up, Vec.unit, below]
  · simp [candidate, lowStage, Envelope.clampHeight, Vec.up, Vec.unit, below, low]
    ring_nf
  · simp [candidate, lowStage, Envelope.clampHeight, Vec.up, Vec.unit, below]

/-- The start is admissible about its target, if it is outside the box. -/
lemma isAdmissible_below (bounds : Option (Box ℝ))
    (houtside : (lowStage bounds).scene.IsOutside (lowStage bounds).around below.position) :
    (lowStage bounds).scene.isAdmissible (lowStage bounds).around below.position below.target =
      true := by
  have hlength : (below.position - below.target).norm = 1 := by
    apply Vec.norm_of_dot_self
    norm_num [Vec.dot, below]
  refine (Scene.isAdmissible_iff (e := low) rfl).mpr ⟨⟨?_, ?_⟩, houtside⟩
  · norm_num [Envelope.AllowsHeight, low, below, Scene.admitTolerance]
  · rw [hlength]
    norm_num [Envelope.AllowsDistance, low, Scene.admitTolerance]

/-- A pedestal that would lead above the greatest height ends at an admissible place. -/
theorem contained_up :
    ∃ take,
      (upBy 10).perform (lowStage none) below = .ok take ∧
      ∀ k ∈ take.keyframes, k.pose.view = below.view ∧
        (lowStage none).scene.isAdmissible (lowStage none).around k.pose.position k.pose.target =
          true := by
  have hstart := isAdmissible_below none fun _ hb => by cases hb
  have hpushed :
      ∀ p, ¬ (lowStage none).scene.IsPushedOut (lowStage none).around below.position p := by
    rintro p ⟨b, -, hb, -⟩
    cases hb
  have hperform := perform_up none (x := 10) (by norm_num)
  refine ⟨_, hperform, fun k hk => ?_⟩
  have hcontained := contained (by simp [upBy, Move.kind]) Settings.check_standard
    (inOrder_lowStage none) hstart hperform k hk
  exact ⟨hcontained.1, hcontained.2 (hpushed _)⟩

end Slide

/-- A plate two units wide and a thousand-millionth thick. -/
noncomputable def Box.plate : Box ℝ := ⟨⟨-1, 0, -1⟩, ⟨1, 0.000000001, 1⟩, ⟨0, 0, 0⟩⟩

/-- A segment that ends within the plate is let in, and its end is pushed out on top. -/
lemma Box.clear_plate :
    Box.plate.clear ⟨0, -2, 0⟩ ⟨0, 0.0000000007, 0⟩ =
      ⟨0, 0.000000001 + Box.plate.clearance, 0⟩ := by
  have hx : plate.slab? ⟨0, -2, 0⟩ (⟨0, 0.0000000007, 0⟩ - ⟨0, -2, 0⟩) Crossing.whole .x =
      some Crossing.whole := by
    norm_num [slab?, Vec.coord, plate]
  have hy : plate.slab? ⟨0, -2, 0⟩ (⟨0, 0.0000000007, 0⟩ - ⟨0, -2, 0⟩) Crossing.whole .y =
      some ⟨2 / 2.0000000007, some (2.000000001 / 2.0000000007)⟩ := by
    norm_num [slab?, Crossing.whole, Crossing.narrow?, Vec.coord, plate]
  have hz : plate.slab? ⟨0, -2, 0⟩ (⟨0, 0.0000000007, 0⟩ - ⟨0, -2, 0⟩)
      ⟨2 / 2.0000000007, some (2.000000001 / 2.0000000007)⟩ .z =
      some ⟨2 / 2.0000000007, some (2.000000001 / 2.0000000007)⟩ := by
    norm_num [slab?, Vec.coord, plate]
  have hcrossing : plate.crossing? ⟨0, -2, 0⟩ (⟨0, 0.0000000007, 0⟩ - ⟨0, -2, 0⟩) =
      some ⟨2 / 2.0000000007, some (2.000000001 / 2.0000000007)⟩ := by
    simp only [crossing?, Axis.all, List.foldlM_cons, List.foldlM_nil, hx, hy, hz,
      Option.bind_eq_bind, Option.bind_some, Option.pure_def]
  have hstop : plate.stop? ⟨0, -2, 0⟩ ⟨0, 0.0000000007, 0⟩ = none := by
    simp only [stop?, hcrossing]
    norm_num [Crossing.isLongerThan]
  have hinside : plate.containsStrictly ⟨0, 0.0000000007, 0⟩ = true := by
    norm_num [containsStrictly, Axis.all, Vec.coord, plate]
  have hface : plate.nearestFace ⟨0, 0.0000000007, 0⟩ = ⟨.y, true⟩ := by
    norm_num [nearestFace, faces, Axis.all, gap, Vec.coord, plate]
  simp only [clear, hstop, hinside, if_true, pushOut, hface]
  simp [beyond, Vec.withCoord, plate, Vec.coord]

namespace Slide

/-- The start is outside the plate. -/
lemma isOutside_below :
    (lowStage (some Box.plate)).scene.IsOutside (lowStage (some Box.plate)).around
      below.position := by
  intro b hb
  rw [liftedBounds_lowStage] at hb
  rw [← Option.some.inj hb]
  norm_num [Box.containsStrictly, Axis.all, Vec.coord, Box.plate, below]

/-- The start is too far from the anticipated target to be fallen back to. -/
lemma not_isAdmissible_below :
    ¬ (lowStage (some Box.plate)).scene.isAdmissible (lowStage (some Box.plate)).around
      below.position ⟨0, 0.0000000007, -1⟩ = true := by
  intro hadmissible
  have hnear := ((Scene.isAdmissible_iff (e := low) rfl).mp hadmissible).1.2.2
  set length := (below.position - ⟨0, 0.0000000007, -1⟩).norm with hlength
  have hsquare : length * length = 2.0000000007 * 2.0000000007 + 1 := by
    rw [hlength, Vec.norm_mul_norm_real]
    norm_num [Vec.dot, below]
  have hnonneg : 0 ≤ length := Vec.norm_nonneg_real _
  norm_num [low, Scene.admitTolerance] at hnear
  nlinarith

/-- A pedestal up into the plate lands on top of it. -/
lemma landing_plate :
    landing (some Box.plate) 2.0000000007 = ⟨0, 0.000000001 + Box.plate.clearance, 0⟩ := by
  have hcandidate : candidate (lowStage (some Box.plate)) below Vec.up 2.0000000007 =
      ⟨0, 0.0000000007, 0⟩ := by
    rw [candidate_up]
    norm_num
  have hanchor : (⟨0, 0.0000000007, 0⟩ + below.view : Vec ℝ) = ⟨0, 0.0000000007, -1⟩ := by
    ext
    · norm_num [Pose.view, below]
    · norm_num [Pose.view, below]
    · norm_num [Pose.view, below]
  have hlength : (⟨0, 0.0000000007, 0⟩ - ⟨0, 0.0000000007, -1⟩ : Vec ℝ).norm = 1 := by
    refine Vec.norm_eq_of_dot_eq_mul_self zero_le_one ?_
    norm_num [Vec.dot]
  have hconfined : low.confine ⟨0, 0.0000000007, 0⟩ ⟨0, 0.0000000007, -1⟩
      (below.position - ⟨0, 0.0000000007, -1⟩) (Settings.standard : Settings ℝ).epsilon =
        ⟨0, 0.0000000007, 0⟩ := by
    have hheight : low.AllowsHeight 0 0.0000000007 := by
      norm_num [Envelope.AllowsHeight, low]
    rw [Envelope.confine, Envelope.clampHeight_of_allowsHeight hheight, Envelope.clampDistance,
      hlength]
    norm_num [low, Settings.standard]
  have hsettled : (lowStage (some Box.plate)).scene.settle (lowStage (some Box.plate)).around
      (Settings.standard : Settings ℝ).epsilon below.position ⟨0, 0.0000000007, 0⟩
        ⟨0, 0.0000000007, -1⟩ = ⟨0, 0.000000001 + Box.plate.clearance, 0⟩ := by
    have henvelope : (lowStage (some Box.plate)).around.envelope = some low := rfl
    simp only [Scene.settle, henvelope, liftedBounds_lowStage, hconfined]
    exact Box.clear_plate
  have hkept : (lowStage (some Box.plate)).scene.isAdmissible (lowStage (some Box.plate)).around
      below.position ⟨0, 0.0000000007, -1⟩ = false := by
    rw [← Bool.not_eq_true]
    exact not_isAdmissible_below
  rw [landing, hcandidate, hanchor]
  simp only [Stage.place, Scene.place, hkept, Bool.and_false, Bool.false_eq_true, if_false]
  exact hsettled

/-- **A slide that is pushed above the greatest height.**

A camera below a thin plate starts at an admissible place.  Sent up into the plate, it is let in and
pushed out on top, where it is too high; and it stays there. -/
theorem not_contained_plate :
    (lowStage (some Box.plate)).around.InOrder ∧
    (lowStage (some Box.plate)).scene.isAdmissible (lowStage (some Box.plate)).around
      below.position below.target = true ∧
    ∃ take, (upBy 2.0000000007).perform (lowStage (some Box.plate)) below = .ok take ∧
      ∃ k ∈ take.keyframes,
        (lowStage (some Box.plate)).scene.isAdmissible (lowStage (some Box.plate)).around
          k.pose.position k.pose.target = false := by
  refine ⟨inOrder_lowStage _, isAdmissible_below _ isOutside_below, _,
    perform_up _ (by norm_num), _, List.mem_singleton.mpr rfl, ?_⟩
  rw [← Bool.not_eq_true]
  intro hadmissible
  have hlow : (landing (some Box.plate) 2.0000000007).y ≤ 0.05 + Scene.admitTolerance :=
    ((Scene.isAdmissible_iff (e := low) rfl).mp hadmissible).1.1.2
  have hclearance : 0.1 ≤ Box.plate.clearance := Scalar.le_clamp (by norm_num)
  rw [landing_plate] at hlow
  norm_num [Scene.admitTolerance] at hlow
  linarith

end Slide

end Cinematics
