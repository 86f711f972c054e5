import Mathlib.Tactic.FieldSimp
import Mathlib.Tactic.Linarith
import Mathlib.Tactic.LinearCombination
import Cinematics.Proofs.FreeArc

/-!
# The elevation after a tilt

A turn up or down goes about the right axis of the camera, which is horizontal and at a right angle
to the view.  Such a turn adds its angle to the elevation of the view (`Vec.IsSideOf.y_rotate`) and
leads the view around in the upright plane that it is in (`Vec.IsSideOf.level_rotate`).  Since the
angle is cut off so that the elevation stays within the limit of the settings, and the limit is
short of the vertical, a tilt lands at the clamped elevation and never turns the view over the top
(`Turn.elevation_perform`).

A vertical view is at a right angle to every horizontal axis, so that any of them does for it.
-/

namespace Cinematics

/-! ### Elevation and level part -/

namespace Vec

variable {v f : Vec ℝ} {s : ℝ}

/-- The horizontal part of a vector. -/
def level (v : Vec ℝ) : Vec ℝ := ⟨v.x, 0, v.z⟩

@[simp] lemma level_x (v : Vec ℝ) : v.level.x = v.x := rfl

@[simp] lemma level_y (v : Vec ℝ) : v.level.y = 0 := rfl

@[simp] lemma level_z (v : Vec ℝ) : v.level.z = v.z := rfl

/-- The horizontal part of a multiple is a multiple of the horizontal part. -/
lemma level_mul : (v * s).level = v.level * s := by
  ext
  all_goals simp

/-- The square of the horizontal part. -/
lemma norm_level_mul_norm_level : v.level.norm * v.level.norm = v.x * v.x + v.z * v.z := by
  rw [norm_mul_norm_real, dot, level_x, level_y, level_z]
  ring

/-- The horizontal vector at a right angle to a vector, to its right. -/
lemma cross_up : v.cross up = ⟨-v.z, 0, v.x⟩ := by
  ext
  all_goals simp [cross, up, unit]

/-- It is as long as the horizontal part. -/
lemma norm_cross_up : (v.cross up).norm = v.level.norm := by
  refine norm_eq_of_dot_eq ?_
  rw [cross_up]
  simp only [dot, level_x, level_y, level_z]
  ring

/-- A vector is its direction times its length. -/
lemma normalize_mul_norm (hv : 0 < v.norm) : v.normalize * v.norm = v := by
  unfold normalize
  ext
  · exact div_mul_cancel₀ _ hv.ne'
  · exact div_mul_cancel₀ _ hv.ne'
  · exact div_mul_cancel₀ _ hv.ne'

/-- The direction of a multiple is the same. -/
lemma normalize_mul (hs : 0 < s) : (v * s).normalize = v.normalize := by
  unfold normalize
  rw [norm_mul_real, abs_of_pos hs]
  ext
  · exact mul_div_mul_right _ _ hs.ne'
  · exact mul_div_mul_right _ _ hs.ne'
  · exact mul_div_mul_right _ _ hs.ne'

/-- The direction of a vertical vector is vertical. -/
lemma level_normalize_of_vertical (hvertical : v.level = 0) : v.normalize.level = 0 := by
  have hx : v.x = 0 := congrArg Vec.x hvertical
  have hz : v.z = 0 := congrArg Vec.z hvertical
  ext
  · simp [normalize, hx]
  · rfl
  · simp [normalize, hz]

/-- The height of a vector is at most its length. -/
lemma abs_y_div_norm_le (hv : 0 < v.norm) : |v.y / v.norm| ≤ 1 := by
  rw [abs_div, abs_of_pos hv, div_le_one hv]
  exact abs_coord_le_norm v .y

/-- The sine of the elevation. -/
lemma sin_arcsin_y (hv : 0 < v.norm) : Real.sin (Real.arcsin (v.y / v.norm)) = v.y / v.norm := by
  obtain ⟨hlow, hhigh⟩ := abs_le.mp (abs_y_div_norm_le hv)
  exact Real.sin_arcsin hlow hhigh

/-- The cosine of the elevation. -/
lemma cos_arcsin_y (hv : 0 < v.norm) :
    Real.cos (Real.arcsin (v.y / v.norm)) = v.level.norm / v.norm := by
  have hsquare : 1 - (v.y / v.norm) ^ 2 = (v.level.norm / v.norm) ^ 2 := by
    have hnorm := v.norm_mul_norm_real
    have hlevel := v.norm_level_mul_norm_level
    simp only [dot] at hnorm
    field_simp
    linarith only [hnorm, hlevel]
  rw [Real.cos_arcsin, hsquare]
  exact Real.sqrt_sq (div_nonneg v.level.norm_nonneg_real hv.le)

/-- The elevation that is computed for a direction is the angle with its height for a sine. -/
lemma elevation_of_norm (hf : f.norm = 1) : f.elevation = Real.arcsin f.y := by
  have hlong : ¬ (1 : ℝ) < 1e-12 := by norm_num
  obtain ⟨hlow, hhigh⟩ := abs_le.mp ((abs_coord_le_norm f .y).trans hf.le)
  have hclamp : Scalar.clamp f.y (-1) 1 = f.y := by
    rw [Scalar.clamp_real (by norm_num)]
    exact (congrArg _ (min_eq_right hhigh)).trans (max_eq_right hlow)
  simp only [elevation, hf, if_neg hlong, div_one, hclamp]
  rfl

/-! ### Turning about the side -/

/-- What makes a direction the side of a vector: it is at a right angle to the vector, and a turn
about it leads up and around in the upright plane of the vector. -/
structure IsSideOf (side v : Vec ℝ) : Prop where
  /-- The side has length one. -/
  dot_self : side.dot side = 1
  /-- It is at a right angle to the vector. -/
  dot_right : side.dot v = 0
  /-- A turn takes the vector up at the rate of its horizontal part. -/
  y_cross : (side.cross v).y = v.level.norm
  /-- It takes the horizontal part back at the rate of the height. -/
  level_cross : (side.cross v).level * v.level.norm = v.level * -v.y

variable {side : Vec ℝ} {eps angle : ℝ}

/-- A vector that is not vertical has a side to its right. -/
lemma isSideOf_cross_up (hlevel : 0 < v.level.norm) : (v.cross up / v.level.norm).IsSideOf v := by
  have hsquare := v.norm_level_mul_norm_level
  rw [cross_up]
  set h := v.level.norm
  constructor
  · simp only [dot, div_x, div_y, div_z]
    field_simp
    linarith only [hsquare]
  · simp only [dot, div_x, div_y, div_z]
    ring
  · simp only [cross, div_x, div_z]
    field_simp
    linarith only [hsquare]
  · ext
    · simp only [level_x, cross, mul_x, div_x, div_y, div_z]
      field_simp
      ring
    · simp
    · simp only [level_z, cross, mul_z, div_x, div_y, div_z]
      field_simp
      ring

/-- The first coordinate axis is a side of a vertical vector. -/
lemma isSideOf_of_vertical (hvertical : v.level = 0) : (unit .x).IsSideOf v := by
  have hx : v.x = 0 := congrArg Vec.x hvertical
  have hz : v.z = 0 := congrArg Vec.z hvertical
  constructor
  · simp [dot, unit]
  · simp [dot, unit, hx]
  · rw [hvertical, norm_zero_real]
    simp [cross, unit, hz]
  · rw [hvertical, norm_zero_real]
    ext
    all_goals simp

/-- The right axis of a direction is horizontal. -/
lemma y_rightOf : (Frame.rightOf f eps).y = 0 := by
  simp only [Frame.rightOf]
  split
  · rfl
  · rw [cross_up]
    exact zero_div _

/-- The right axis of a direction that is vertical, or level enough, is a side of it. -/
lemma isSideOf_rightOf (heps : 0 < eps) (hf : eps ≤ f.level.norm ∨ f.level = 0) :
    (Frame.rightOf f eps).IsSideOf f := by
  simp only [Frame.rightOf, normalize, norm_cross_up]
  rcases hf with hlong | hvertical
  · rw [if_neg (not_lt.mpr hlong)]
    exact isSideOf_cross_up (heps.trans_le hlong)
  · rw [hvertical, norm_zero_real, if_pos heps]
    exact isSideOf_of_vertical hvertical

namespace IsSideOf

/-- The product with the side is as long as the vector. -/
lemma dot_cross_self (h : side.IsSideOf v) : (side.cross v).dot (side.cross v) = v.dot v := by
  rw [Vec.dot_cross_self, h.dot_self, h.dot_right]
  ring

/-- A side of a vector is a side of its multiples. -/
lemma mul (h : side.IsSideOf v) (hs : 0 ≤ s) : side.IsSideOf (v * s) where
  dot_self := h.dot_self
  dot_right := by
    have hright := h.dot_right
    simp only [dot, mul_x, mul_y, mul_z] at hright ⊢
    linear_combination s * hright
  y_cross := by
    have hup := h.y_cross
    rw [level_mul, norm_mul_real, abs_of_nonneg hs, ← hup]
    simp only [cross, mul_x, mul_z]
    ring
  level_cross := by
    have hcross : side.cross (v * s) = side.cross v * s := by
      ext
      all_goals
        simp only [cross, mul_x, mul_y, mul_z]
        ring
    have hx := congrArg Vec.x h.level_cross
    have hz := congrArg Vec.z h.level_cross
    rw [level_mul, norm_mul_real, abs_of_nonneg hs, hcross, level_mul]
    simp only [mul_x, mul_z] at hx hz
    ext
    · simp only [mul_x, mul_y]
      linear_combination s * s * hx
    · simp
    · simp only [mul_y, mul_z]
      linear_combination s * s * hz

/-- **A rotation about the side adds to the elevation**: the height is in the ratio of the sine of
the sum. -/
lemma y_rotate (h : side.IsSideOf v) (hv : 0 < v.norm) :
    (v.rotate side angle).y / v.norm = Real.sin (Real.arcsin (v.y / v.norm) + angle) := by
  rw [Real.sin_add, sin_arcsin_y hv, cos_arcsin_y hv, ← h.y_cross, rotate_eq_turn h.dot_self]
  simp only [turn, h.dot_right, add_y, mul_y]
  ring

/-- A rotation about the side leads around in the upright plane of the vector: the horizontal part
is in the ratio of the cosines. -/
lemma level_rotate (h : side.IsSideOf v) (hv : 0 < v.norm) (hlevel : 0 < v.level.norm) :
    (v.rotate side angle).level = v.level *
      (Real.cos (Real.arcsin (v.y / v.norm) + angle) / Real.cos (Real.arcsin (v.y / v.norm))) := by
  rw [Real.cos_add, sin_arcsin_y hv, cos_arcsin_y hv, rotate_eq_turn h.dot_self]
  have hx := congrArg Vec.x h.level_cross
  have hz := congrArg Vec.z h.level_cross
  simp only [level_x, level_z, mul_x, mul_z] at hx hz
  ext
  · simp only [turn, h.dot_right, level_x, add_x, mul_x]
    field_simp
    linear_combination Real.sin angle * hx
  · simp
  · simp only [turn, h.dot_right, level_z, add_z, mul_z]
    field_simp
    linear_combination Real.sin angle * hz

/-- A vector that is rotated about its side, and stays short of the vertical, keeps its heading. -/
lemma heading_rotate (h : side.IsSideOf v) (hv : 0 < v.norm) (hlevel : v.level ≠ 0)
    (hshort : 0 < Real.cos (Real.arcsin (v.y / v.norm) + angle)) :
    (v.rotate side angle).level.normalize = v.level.normalize := by
  have hpos : 0 < v.level.norm :=
    v.level.norm_nonneg_real.lt_of_ne (mt (fun hzero => eq_zero_of_norm_eq_zero hzero.symm) hlevel)
  have hstart : 0 < Real.cos (Real.arcsin (v.y / v.norm)) := by
    rw [cos_arcsin_y hv]
    exact div_pos hpos hv
  rw [h.level_rotate hv hpos]
  exact normalize_mul (div_pos hshort hstart)

end IsSideOf

end Vec

/-! ### Turns by an angle -/

/-- The elevation of the view above the horizontal plane, in degrees. -/
noncomputable def Pose.elevation (pose : Pose ℝ) : ℝ :=
  Real.arcsin (pose.view.y / pose.distance) / (Real.pi / 180)

namespace Turn

section Angle

variable {α : Type} [Scalar α]

/-- The signed angle that a turn asks for, in degrees. -/
def angleFor (turn : Turn α) (heading : Heading) : Outcome α α := do
  let direction ← heading.direction? turn.direction
  signedAngle heading direction turn.angle turn.angleDescriptor

/-- A turn by an angle that counts, of a camera with axes, turns the view. -/
lemma about_of_angleFor {turn : Turn α} {axis : ViewAxis} {stage : Stage α} {pose : Pose α}
    {frame : Frame α} {degrees : α} (hangle : turn.angleFor axis.heading = .ok degrees)
    (hframe : Frame.ofView pose.position pose.target stage.settings.epsilon = some frame)
    (hcounts : ¬ Scalar.abs degrees < stage.settings.epsilon) :
    turn.about axis stage pose = .ok (stage.reach
      ⟨pose.position, pose.position + turned axis frame pose.view (Scalar.radians degrees)
        (Scalar.radians stage.settings.pitchLimit)⟩ turn.easing turn.speed) := by
  obtain ⟨direction, hdirection, hsigned⟩ := bind_eq_ok_iff.mp hangle
  unfold about
  refine bind_eq_ok_iff.mpr ⟨direction, hdirection, bind_eq_ok_iff.mpr ⟨degrees, hsigned, ?_⟩⟩
  simp only [hframe]
  exact if_neg hcounts

end Angle

/-- The moves that turn the view up or down by an angle. -/
inductive TurnsUp (turn : Turn ℝ) : Move ℝ → Prop
  /-- A tilt without a place to look at. -/
  | tilt (htarget : turn.target = none) : TurnsUp turn (.tilt turn)
  /-- A turn about the right axis. -/
  | rotate (haxis : (ViewAxis.parse turn.axis : Outcome ℝ ViewAxis) = .ok .pitch) :
      TurnsUp turn (.rotate turn)

variable {turn : Turn ℝ} {move : Move ℝ} {stage : Stage ℝ} {pose : Pose ℝ} {degrees : ℝ}

/-- A move that turns the view up or down is a turn about the right axis. -/
lemma TurnsUp.perform_eq (h : turn.TurnsUp move) :
    move.perform stage pose = turn.about .pitch stage pose := by
  cases h with
  | tilt htarget => simp only [Move.perform, Turn.tilt, htarget]
  | rotate haxis =>
    simp only [Move.perform, Turn.rotate, haxis]
    rfl

/-- The limit of the elevation, in radians, is positive and short of the vertical. -/
lemma limit_mem {settings : Settings ℝ} (h : settings.check = .ok ()) :
    0 < Scalar.radians settings.pitchLimit ∧
      Scalar.radians settings.pitchLimit < Real.pi / 2 := by
  have hmet := Settings.check_eq_ok_iff.mp h .pitchLimit
  rw [Settings.isMet, Bool.and_eq_true, decide_eq_true_eq, decide_eq_true_eq] at hmet
  obtain ⟨hpositive, hless⟩ := hmet
  norm_num at hless
  have hunit : 0 < Real.pi / 180 := div_pos Real.pi_pos (by norm_num)
  rw [Scalar.radians_real]
  refine ⟨mul_pos hpositive hunit, ?_⟩
  calc settings.pitchLimit * (Real.pi / 180)
      < 90 * (Real.pi / 180) := mul_lt_mul_of_pos_right hless hunit
    _ = Real.pi / 2 := by ring

/-- A clamped elevation is short of the vertical on either side. -/
lemma max_min_mem_Ioo {limit : ℝ} (hpositive : 0 < limit) (hshort : limit < Real.pi / 2) (x : ℝ) :
    max (-limit) (min limit x) ∈ Set.Ioo (-(Real.pi / 2)) (Real.pi / 2) := by
  constructor
  · exact (neg_lt_neg hshort).trans_le (le_max_left _ _)
  · exact (max_le (by linarith only [hpositive]) (min_le_left _ _)).trans_lt hshort

/-- It makes no difference whether elevations are clamped in radians or in degrees. -/
lemma max_min_radians (limit degrees x : ℝ) :
    max (-Scalar.radians limit) (min (Scalar.radians limit) (x + Scalar.radians degrees)) /
        (Real.pi / 180) =
      max (-limit) (min limit (x / (Real.pi / 180) + degrees)) := by
  have hunit : 0 < Real.pi / 180 := div_pos Real.pi_pos (by norm_num)
  rw [Scalar.radians_real, Scalar.radians_real, ← max_div_div_right hunit.le,
    ← min_div_div_right hunit.le, neg_div, add_div, mul_div_cancel_right₀ _ hunit.ne',
    mul_div_cancel_right₀ _ hunit.ne']

/-- The elevation plus the angle that is left of a turn up or down is the clamped sum. -/
lemma arcsin_add_clampPitch {forward : Vec ℝ} (hforward : forward.norm = 1) {angle limit : ℝ}
    (hlimit : 0 ≤ limit) :
    Real.arcsin forward.y + clampPitch forward angle limit =
      max (-limit) (min limit (Real.arcsin forward.y + angle)) := by
  have horder : -limit ≤ limit := by linarith only [hlimit]
  rw [clampPitch, Vec.elevation_of_norm hforward, add_sub_cancel, Scalar.clamp_real horder]

/-- **A tilt lands at the clamped elevation.**

Over the reals, let the view of a camera be at least as long as the length below which a vector has
no direction, and let it be vertical, or else let the horizontal part of its direction be at least
as long as this, too.  A tilt without a target or a turn about the right axis, by an angle that
counts, gives one keyframe.  The camera stays where it is and its target as far away, and the
elevation of the view is the one before plus the angle, clamped to the limit.  If the view was not
vertical, it has the same heading as before. -/
theorem elevation_perform (hsettings : stage.settings.check = .ok ())
    (hfar : stage.settings.epsilon ≤ pose.distance)
    (hview : stage.settings.epsilon ≤ pose.view.normalize.level.norm ∨ pose.view.level = 0)
    (hmove : turn.TurnsUp move) (hangle : turn.angleFor ViewAxis.pitch.heading = .ok degrees)
    (hcounts : stage.settings.epsilon ≤ |degrees|) :
    ∃ next easing, move.perform stage pose = .ok (.single next stage.duration easing) ∧
      next.position = pose.position ∧ next.distance = pose.distance ∧
      next.elevation = max (-stage.settings.pitchLimit)
        (min stage.settings.pitchLimit (pose.elevation + degrees)) ∧
      (pose.view.level ≠ 0 → next.view.level.normalize = pose.view.level.normalize) := by
  have hepsilon := Settings.epsilon_pos hsettings
  have hpose : 0 < pose.view.norm := hepsilon.trans_le hfar
  obtain ⟨hpositive, hshort⟩ := limit_mem hsettings
  set limit := Scalar.radians stage.settings.pitchLimit
  set forward := pose.view.normalize
  set side := Frame.rightOf forward stage.settings.epsilon
  have hside : side.IsSideOf pose.view := by
    rw [← Vec.normalize_mul_norm hpose]
    exact (Vec.isSideOf_rightOf hepsilon (hview.imp_right Vec.level_normalize_of_vertical)).mul
      hpose.le
  set angle := clampPitch forward (Scalar.radians degrees) limit
  set landing := Real.arcsin (pose.view.y / pose.view.norm) + angle
  have hclamped : landing = max (-limit)
      (min limit (Real.arcsin (pose.view.y / pose.view.norm) + Scalar.radians degrees)) :=
    arcsin_add_clampPitch (Vec.norm_normalize (Vec.ne_zero_of_norm_pos hpose)) hpositive.le
  have hlanding : landing ∈ Set.Ioo (-(Real.pi / 2)) (Real.pi / 2) := by
    rw [hclamped]
    exact max_min_mem_Ioo hpositive hshort _
  set view := pose.view.rotate side angle
  have hnext : (⟨pose.position, pose.position + view⟩ : Pose ℝ).view = view :=
    Vec.add_sub_cancel_left_real _ _
  have hlength : view.norm = pose.view.norm := Vec.norm_rotate _ _ _
  have hframe : Frame.ofView pose.position pose.target stage.settings.epsilon =
      some ⟨forward, side, (side.cross forward).normalize⟩ := if_neg (not_lt.mpr hfar)
  refine ⟨⟨pose.position, pose.position + view⟩, stage.easing turn.easing turn.speed, ?_, rfl, ?_,
    ?_, ?_⟩
  · rw [hmove.perform_eq]
    exact about_of_angleFor hangle hframe (not_lt.mpr hcounts)
  · rw [Pose.distance, hnext]
    exact hlength
  · calc (⟨pose.position, pose.position + view⟩ : Pose ℝ).elevation
        = Real.arcsin (view.y / pose.view.norm) / (Real.pi / 180) := by
          rw [Pose.elevation, Pose.distance, hnext, hlength]
      _ = landing / (Real.pi / 180) := by
          rw [hside.y_rotate hpose, Real.arcsin_sin hlanding.1.le hlanding.2.le]
      _ = max (-stage.settings.pitchLimit)
            (min stage.settings.pitchLimit (pose.elevation + degrees)) := by
          rw [hclamped]
          exact max_min_radians _ _ _
  · rw [hnext]
    intro hlevel
    exact hside.heading_rotate hpose hlevel (Real.cos_pos_of_mem_Ioo hlanding)

/-- A stage without a subject. -/
noncomputable def emptyStage : Stage ℝ := ⟨.empty, .free, .standard, 1⟩

/-- A request to turn up by more than to the vertical. -/
def upAndOver {α : Type} [Scalar α] : Turn α := { direction := some "up", angle := some 100.0 }

/-- A camera with a level view that is tilted by more than a right angle stops at the limit, and
does not look back over the top. -/
theorem elevation_perform_upAndOver :
    (emptyStage.settings.epsilon ≤ Pose.ahead.distance ∧
      emptyStage.settings.epsilon ≤ Pose.ahead.view.normalize.level.norm ∧
      Pose.ahead.view.level ≠ 0) ∧
    ∃ next easing,
      (Move.tilt upAndOver).perform emptyStage .ahead =
        .ok (.single next emptyStage.duration easing) ∧
      next.position = Pose.ahead.position ∧ next.distance = Pose.ahead.distance ∧
      next.elevation = 89.0 ∧
      next.view.level.normalize = Pose.ahead.view.level.normalize := by
  have hfar : emptyStage.settings.epsilon ≤ Pose.ahead.distance := by
    rw [Pose.distance_ahead]
    norm_num [emptyStage, Settings.standard]
  have hnonzero : Pose.ahead.view.level ≠ 0 := by
    intro hzero
    have hz := congrArg Vec.z hzero
    norm_num [Pose.view, Pose.ahead] at hz
  have hlength : Pose.ahead.view.norm = 5 := Pose.distance_ahead
  have hone : Pose.ahead.view.normalize.level.norm = 1 := by
    refine Vec.norm_eq_of_dot_eq_mul_self zero_le_one ?_
    rw [Vec.normalize, hlength]
    norm_num [Vec.dot, Pose.view, Pose.ahead]
  have hlevel : emptyStage.settings.epsilon ≤ Pose.ahead.view.normalize.level.norm := by
    rw [hone]
    norm_num [emptyStage, Settings.standard]
  have hcounts : emptyStage.settings.epsilon ≤ |(100.0 : ℝ)| := by
    norm_num [emptyStage, Settings.standard]
  have hangle : (upAndOver : Turn ℝ).angleFor ViewAxis.pitch.heading = .ok 100.0 := by
    have hsize : (1 : ℝ) * |100.0| = 100.0 := by norm_num
    exact congrArg Except.ok hsize
  obtain ⟨next, easing, hperform, hposition, hdistance, helevation, hheading⟩ :=
    elevation_perform Settings.check_standard hfar (.inl hlevel) (.tilt rfl) hangle hcounts
  refine ⟨⟨hfar, hlevel, hnonzero⟩, next, easing, hperform, hposition, hdistance, ?_,
    hheading hnonzero⟩
  have hstart : Pose.ahead.elevation = 0 := by
    norm_num [Pose.elevation, Pose.view, Pose.ahead]
  rw [helevation, hstart]
  norm_num [emptyStage, Settings.standard]

end Turn

end Cinematics
