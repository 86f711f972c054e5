import Mathlib.Tactic.FieldSimp
import Mathlib.Tactic.LinearCombination
import Cinematics.Proofs.Elevation
import Cinematics.Proofs.Return

/-!
# Panning

A pan turns the view about the camera's own up, `Pose.up`, which is at a right angle to the view
also where the camera looks up or down.  So the view is led around in the plane that it spans with
its right side, and while it is not vertical this gives it in closed form
(`Pose.view_panned_of_level`).

The up is found anew before each pan, from the view that the last one has left.  A pan of an
inclined camera brings the view nearer to the horizon, and with it the up nearer to the vertical.
Hence two opposite pans are about different axes, and as a rotation tells its axis by the product of
a vector with what it becomes (`Vec.cross_rotate`), they cancel only if the axes are the same or the
angle is a number of half turns (`Pose.panned_panned_eq_iff`).
-/

namespace Cinematics

/-- The opposite angle. -/
lemma Scalar.radians_neg_real (degrees : ℝ) :
    Scalar.radians (-degrees) = -Scalar.radians degrees := by
  rw [radians_real, radians_real, neg_mul]

/-! ### Axes at a right angle -/

namespace Vec

variable {u u' v : Vec ℝ} {a : ℝ}

/-- The product of a vector of length one with itself. -/
lemma dot_self_of_norm (h : v.norm = 1) : v.dot v = 1 := by
  rw [← norm_mul_norm_real, h, one_mul]

/-- A vector of length one is its own direction. -/
lemma normalize_of_dot_self (h : v.dot v = 1) : v.normalize = v := by
  rw [normalize, norm_of_dot_self h]
  ext
  · exact div_one _
  · exact div_one _
  · exact div_one _

/-- The opposite of the opposite vector is the vector. -/
lemma neg_neg_real : - -v = v := by
  ext
  · exact neg_neg _
  · exact neg_neg _
  · exact neg_neg _

/-- The opposite vector has the opposite direction. -/
lemma normalize_neg : (-v).normalize = -v.normalize := by
  unfold normalize
  rw [norm_neg_real]
  ext
  · exact neg_div _ _
  · exact neg_div _ _
  · exact neg_div _ _

/-- The product of the opposite vector is the opposite. -/
lemma neg_cross : (-u).cross v = -u.cross v := by
  ext
  all_goals
    simp only [cross, neg_x, neg_y, neg_z]
    ring

/-- The product with the opposite vector is the opposite. -/
lemma cross_neg : u.cross (-v) = -u.cross v := by
  ext
  all_goals
    simp only [cross, neg_x, neg_y, neg_z]
    ring

/-- Two quarter turns lead to the opposite side. -/
lemma cross_cross_mul (hv : v.dot v = 1) (h : u.dot v = 0) (s : ℝ) :
    (u.cross v).cross (v * s) = u * -s := by
  simp only [dot] at hv h
  ext
  · simp only [cross, mul_x, mul_y, mul_z]
    linear_combination v.x * s * h - u.x * s * hv
  · simp only [cross, mul_x, mul_y, mul_z]
    linear_combination v.y * s * h - u.y * s * hv
  · simp only [cross, mul_x, mul_y, mul_z]
    linear_combination v.z * s * h - u.z * s * hv

/-- The horizontal part of a direction, by its height. -/
lemma norm_level_normalize_mul_self (hv : 0 < v.norm) :
    v.normalize.level.norm * v.normalize.level.norm = 1 - (v.y / v.norm) ^ 2 := by
  have hunit := dot_normalize (ne_zero_of_norm_pos hv)
  have hy : v.y / v.norm = v.normalize.y := rfl
  rw [dot] at hunit
  rw [norm_level_mul_norm_level, hy, ← hunit]
  ring

/-- A vector that is rotated about an axis at a right angle to it leads around in a plane. -/
lemma rotate_of_dot_eq_zero (hu : u.dot u = 1) (h : u.dot v = 0) :
    v.rotate u a = v * Real.cos a + u.cross v * Real.sin a := by
  rw [rotate_eq_turn hu, turn, h]
  ext
  all_goals simp

/-- A vector at a right angle to an axis stays so when it is rotated about the axis. -/
lemma dot_rotate (hu : u = 0 ∨ u.norm = 1) (h : u.dot v = 0) : u.dot (v.rotate u a) = 0 := by
  rcases hu with rfl | hu
  · simp only [dot, zero_x, zero_y, zero_z]
    ring
  · rw [rotate_of_dot_eq_zero (dot_self_of_norm hu) h]
    simp only [dot] at h
    simp only [dot, cross, add_x, add_y, add_z, mul_x, mul_y, mul_z]
    linear_combination Real.cos a * h

/-- How far a vector is rotated about an axis at a right angle to it, and about which axis, is seen
from its product with what it becomes. -/
lemma cross_rotate (hu : u = 0 ∨ u.norm = 1) (h : u.dot v = 0) :
    v.cross (v.rotate u a) = u * (v.dot v * Real.sin a) := by
  rcases hu with rfl | hu
  · rw [rotate_eq_turnAbout (.inl rfl), turnAbout, if_pos rfl]
    ext
    all_goals
      simp only [cross, mul_x, mul_y, mul_z, zero_x, zero_y, zero_z]
      ring
  · rw [rotate_of_dot_eq_zero (dot_self_of_norm hu) h]
    simp only [dot] at h
    ext
    · simp only [cross, dot, add_y, add_z, mul_x, mul_y, mul_z]
      linear_combination (-(v.x * Real.sin a)) * h
    · simp only [cross, dot, add_x, add_z, mul_x, mul_y, mul_z]
      linear_combination (-(v.y * Real.sin a)) * h
    · simp only [cross, dot, add_x, add_y, mul_x, mul_y, mul_z]
      linear_combination (-(v.z * Real.sin a)) * h

/-- Rotations of a vector by one angle, about axes at a right angle to it, agree only if the axes do
or the angle makes no difference to the side. -/
lemma sin_eq_zero_or_eq_of_rotate_eq (hu : u = 0 ∨ u.norm = 1) (hu' : u' = 0 ∨ u'.norm = 1)
    (h : u.dot v = 0) (h' : u'.dot v = 0) (hv : 0 < v.norm)
    (heq : v.rotate u a = v.rotate u' a) : Real.sin a = 0 ∨ u = u' := by
  refine or_iff_not_imp_left.mpr fun hsin => ?_
  have hpos : 0 < v.dot v := by
    rw [← norm_mul_norm_real]
    exact mul_pos hv hv
  have hne : v.dot v * Real.sin a ≠ 0 := mul_ne_zero hpos.ne' hsin
  have hcross : u * (v.dot v * Real.sin a) = u' * (v.dot v * Real.sin a) := by
    rw [← cross_rotate hu h, ← cross_rotate hu' h', heq]
  ext
  · exact mul_right_cancel₀ hne (congrArg Vec.x hcross)
  · exact mul_right_cancel₀ hne (congrArg Vec.y hcross)
  · exact mul_right_cancel₀ hne (congrArg Vec.z hcross)

end Vec

/-! ### The axes of a camera -/

namespace Pose

/-- The axis to the top of the picture of a camera. -/
noncomputable def up (pose : Pose ℝ) (eps : ℝ) : Vec ℝ :=
  ((pose.right eps).cross (pose.view / pose.distance)).normalize

/-- The pose of a camera whose view was turned about its own up by an angle in degrees. -/
noncomputable def panned (pose : Pose ℝ) (eps degrees : ℝ) : Pose ℝ :=
  ⟨pose.position, pose.position + pose.view.rotate (pose.up eps) (Scalar.radians degrees)⟩

variable {pose next : Pose ℝ} {eps d : ℝ}

/-- A camera away from its target has its right and its up. -/
lemma ofView_eq (hfar : eps ≤ pose.distance) :
    Frame.ofView pose.position pose.target eps =
      some ⟨pose.view / pose.distance, pose.right eps, pose.up eps⟩ := if_neg (not_lt.mpr hfar)

/-- Up has length one, if it is any direction. -/
lemma up_cases : pose.up eps = 0 ∨ (pose.up eps).norm = 1 := Vec.normalize_cases _

/-- Up is at a right angle to the view. -/
lemma up_dot_view : (pose.up eps).dot pose.view = 0 := by
  simp only [up, Vec.normalize, Vec.dot, Vec.cross, Vec.div_x, Vec.div_y, Vec.div_z]
  ring

/-- The view of a camera that was panned. -/
lemma view_panned :
    (pose.panned eps d).view = pose.view.rotate (pose.up eps) (Scalar.radians d) :=
  Vec.add_sub_cancel_left_real _ _

/-- A pan keeps the distance. -/
lemma distance_panned : (pose.panned eps d).distance = pose.distance := by
  rw [distance, view_panned, Vec.norm_rotate]
  rfl

/-- Cameras at one position with one view have one pose. -/
lemma ext_view (hposition : next.position = pose.position) (hview : next.view = pose.view) :
    next = pose := by
  refine Pose.ext hposition ?_
  have htarget : ∀ p : Pose ℝ, p.target = p.position + p.view := by
    intro p
    ext
    all_goals simp [view]
  rw [htarget, htarget pose, hposition, hview]

/-- The right and the up of a camera are those of its view. -/
lemma up_congr (hview : next.view = pose.view) : next.up eps = pose.up eps := by
  simp only [up, right, distance, hview]

/-- A camera that looks the opposite way has its up where it was, or upside down. -/
lemma up_of_view_neg (hview : next.view = -pose.view) :
    next.up eps = pose.up eps ∨ next.up eps = -pose.up eps := by
  have hforward : next.view / next.distance = -(pose.view / pose.distance) := by
    have hnormalize : next.view.normalize = -pose.view.normalize := by
      rw [hview, Vec.normalize_neg]
    exact hnormalize
  rw [up, up, right, right, hforward]
  set forward := pose.view / pose.distance
  simp only [Frame.rightOf, Vec.neg_cross, Vec.norm_neg_real]
  split
  · right
    rw [Vec.cross_neg, Vec.normalize_neg]
  · left
    rw [Vec.normalize_neg, Vec.neg_cross, Vec.cross_neg, Vec.neg_neg_real]

/-- The view after a pan is at a right angle to the up before it. -/
lemma up_dot_view_panned : (pose.up eps).dot (pose.panned eps d).view = 0 := by
  rw [view_panned]
  exact Vec.dot_rotate up_cases up_dot_view

/-- A pan by the opposite angle about the same up undoes a pan. -/
lemma rotate_view_panned :
    (pose.panned eps d).view.rotate (pose.up eps) (Scalar.radians (-d)) = pose.view := by
  have haxis : pose.up eps = 0 ∨ (pose.up eps).norm = 1 := up_cases
  rw [view_panned, Vec.rotate_eq_turnAbout haxis, Vec.rotate_eq_turnAbout haxis,
    Vec.turnAbout_turnAbout, Scalar.radians_neg_real, add_neg_cancel, Vec.turnAbout_zero]

/-- A camera that is panned by a multiple of half a turn looks the way that it did, or the opposite
way. -/
lemma view_panned_of_sin_eq_zero (hsin : Real.sin (Scalar.radians d) = 0) :
    (pose.panned eps d).view = pose.view ∨
      Real.cos (Scalar.radians d) = -1 ∧ (pose.up eps).norm = 1 ∧
        (pose.panned eps d).view = -pose.view := by
  rw [view_panned]
  have haxis : pose.up eps = 0 ∨ (pose.up eps).norm = 1 := up_cases
  rcases haxis with hnone | hone
  · left
    rw [hnone, Vec.rotate_eq_turnAbout (.inl rfl), Vec.turnAbout, if_pos rfl]
  · rw [Vec.rotate_of_dot_eq_zero (Vec.dot_self_of_norm hone) up_dot_view, hsin]
    rcases Real.sin_eq_zero_iff_cos_eq.mp hsin with hcos | hcos
    · left
      rw [hcos]
      ext
      all_goals simp
    · refine .inr ⟨hcos, hone, ?_⟩
      rw [hcos]
      ext
      all_goals simp

/-- **Two opposite pans cancel** if the second one is about the same up as the first, or if they are
by a multiple of half a turn, and only then. -/
lemma panned_panned_eq_iff (hpose : 0 < pose.distance) :
    (pose.panned eps d).panned eps (-d) = pose ↔
      Real.sin (Scalar.radians d) = 0 ∨ (pose.panned eps d).up eps = pose.up eps := by
  have hcancels : (pose.panned eps d).panned eps (-d) = pose ↔
      (pose.panned eps d).view.rotate ((pose.panned eps d).up eps) (Scalar.radians (-d)) =
        pose.view := by
    rw [← view_panned]
    exact ⟨fun h => congrArg view h, ext_view rfl⟩
  have hback : (pose.panned eps d).view.rotate (pose.up eps) (Scalar.radians (-d)) = pose.view :=
    rotate_view_panned
  rw [hcancels]
  constructor
  · intro h
    have hlong : 0 < (pose.panned eps d).view.norm := hpose.trans_eq distance_panned.symm
    have hcases := Vec.sin_eq_zero_or_eq_of_rotate_eq up_cases up_cases up_dot_view
      up_dot_view_panned hlong (h.trans hback.symm)
    rwa [Scalar.radians_neg_real, Real.sin_neg, neg_eq_zero] at hcases
  · rintro (hsin | hsame)
    · rcases view_panned_of_sin_eq_zero hsin with hview | ⟨hcos, hone, hview⟩
      · rw [up_congr hview, hback]
      · -- the camera looks the opposite way, and half a turn about either up turns it around
        have hone' : ((pose.panned eps d).up eps).norm = 1 := by
          rcases up_of_view_neg hview with hup | hup
          · rw [hup, hone]
          · rw [hup, Vec.norm_neg_real, hone]
        rw [Vec.rotate_of_dot_eq_zero (Vec.dot_self_of_norm hone') up_dot_view,
          Scalar.radians_neg_real, Real.cos_neg, Real.sin_neg, hcos, hsin, hview]
        ext
        all_goals simp
    · rw [hsame, hback]

/-! ### Views that are not vertical -/

/-- The right axis is horizontal. -/
lemma right_y : (pose.right eps).y = 0 := Vec.y_rightOf

section Level

variable (heps : 0 < eps) (hfar : eps ≤ pose.distance)
  (hlevel : eps ≤ pose.view.normalize.level.norm)
include heps hfar hlevel

/-- The right axis is a side of a view that is not vertical. -/
lemma isSideOf_right : (pose.right eps).IsSideOf pose.view := by
  have hpose : 0 < pose.view.norm := heps.trans_le hfar
  rw [← Vec.normalize_mul_norm hpose]
  exact (Vec.isSideOf_rightOf heps (.inl hlevel)).mul hpose.le

/-- The up of a view that is not vertical is the product of right and forward, which has length one
already. -/
lemma up_eq_cross :
    pose.up eps = (pose.right eps).cross pose.view.normalize ∧
      (pose.right eps).IsSideOf pose.view.normalize ∧
      pose.view.normalize.dot pose.view.normalize = 1 := by
  have hunit := Vec.dot_normalize (Vec.ne_zero_of_norm_pos (heps.trans_le hfar))
  have hside : (pose.right eps).IsSideOf pose.view.normalize :=
    Vec.isSideOf_rightOf heps (.inl hlevel)
  exact ⟨Vec.normalize_of_dot_self (hside.dot_cross_self.trans hunit), hside, hunit⟩

/-- A turn about up leads the view away from its right side. -/
lemma up_cross_view : (pose.up eps).cross pose.view = pose.right eps * -pose.distance := by
  obtain ⟨hup, hside, hunit⟩ := up_eq_cross heps hfar hlevel
  have hview : pose.view.normalize * pose.distance = pose.view :=
    Vec.normalize_mul_norm (heps.trans_le hfar)
  calc (pose.up eps).cross pose.view
      = ((pose.right eps).cross pose.view.normalize).cross
          (pose.view.normalize * pose.distance) := by rw [hup, hview]
    _ = pose.right eps * -pose.distance := Vec.cross_cross_mul hunit hside.dot_right _

/-- **A pan in closed form**: the view is led around in the plane of the view and its right side. -/
lemma view_panned_of_level : (pose.panned eps d).view =
    pose.view * Real.cos (Scalar.radians d) -
      pose.right eps * (pose.distance * Real.sin (Scalar.radians d)) := by
  obtain ⟨hup, hside, hunit⟩ := up_eq_cross heps hfar hlevel
  have hdot : (pose.up eps).dot (pose.up eps) = 1 := by
    rw [hup, hside.dot_cross_self, hunit]
  rw [view_panned, Vec.rotate_of_dot_eq_zero hdot up_dot_view, up_cross_view heps hfar hlevel]
  ext
  · simp only [Vec.add_x, Vec.sub_x, Vec.mul_x]
    ring
  · simp only [Vec.add_y, Vec.sub_y, Vec.mul_y]
    ring
  · simp only [Vec.add_z, Vec.sub_z, Vec.mul_z]
    ring

/-- The part of the view after a pan that is along the right axis before it. -/
lemma view_panned_dot_right : (pose.panned eps d).view.dot (pose.right eps) =
    -(pose.distance * Real.sin (Scalar.radians d)) := by
  have hside := isSideOf_right heps hfar hlevel
  have hself := hside.dot_self
  have hright := hside.dot_right
  rw [view_panned_of_level heps hfar hlevel]
  simp only [Vec.dot] at hself hright
  simp only [Vec.dot, Vec.sub_x, Vec.sub_y, Vec.sub_z, Vec.mul_x, Vec.mul_y, Vec.mul_z]
  linear_combination Real.cos (Scalar.radians d) * hright -
    pose.distance * Real.sin (Scalar.radians d) * hself

/-- A pan scales the height of the view, since the side is horizontal. -/
lemma y_view_panned :
    (pose.panned eps d).view.y = pose.view.y * Real.cos (Scalar.radians d) := by
  rw [view_panned_of_level heps hfar hlevel, Vec.sub_y, Vec.mul_y, Vec.mul_y, right_y, zero_mul,
    sub_zero]

/-- A view that is not vertical does not become so by a pan. -/
lemma le_level_panned : eps ≤ (pose.panned eps d).view.normalize.level.norm := by
  have hpose : 0 < pose.view.norm := heps.trans_le hfar
  have hlength : (pose.panned eps d).view.norm = pose.view.norm := distance_panned
  refine hlevel.trans ((mul_self_le_mul_self_iff (Vec.norm_nonneg_real _)
    (Vec.norm_nonneg_real _)).mpr ?_)
  rw [Vec.norm_level_normalize_mul_self hpose,
    Vec.norm_level_normalize_mul_self (hpose.trans_eq hlength.symm), hlength,
    y_view_panned heps hfar hlevel, mul_div_right_comm, mul_pow]
  exact sub_le_sub_left (mul_le_of_le_one_right (sq_nonneg _) (Real.cos_sq_le_one _)) 1

/-- The height of the view after two opposite pans. -/
lemma y_view_panned_panned : ((pose.panned eps d).panned eps (-d)).view.y =
    pose.view.y * Real.cos (Scalar.radians d) ^ 2 := by
  rw [y_view_panned heps (hfar.trans_eq distance_panned.symm) (le_level_panned heps hfar hlevel),
    y_view_panned heps hfar hlevel, Scalar.radians_neg_real, Real.cos_neg, sq, mul_assoc]

/-- The up of a camera with a level view is straight up. -/
lemma up_of_y_eq_zero (hy : pose.view.y = 0) : pose.up eps = Vec.up := by
  obtain ⟨hup, hside, hunit⟩ := up_eq_cross heps hfar hlevel
  have hforward : pose.view.normalize.y = 0 := by
    rw [Vec.normalize, Vec.div_y, hy, zero_div]
  have hone : pose.view.normalize.level.norm = 1 := by
    apply Vec.norm_of_dot_self
    simp only [Vec.dot, hforward] at hunit
    simp only [Vec.dot, Vec.level_x, Vec.level_y, Vec.level_z]
    linear_combination hunit
  have hstraight := hside.y_cross
  have hflat := hside.level_cross
  rw [hone] at hstraight hflat
  rw [hup]
  ext
  · simpa [hforward, Vec.up, Vec.unit] using congrArg Vec.x hflat
  · exact hstraight
  · simpa [hforward, Vec.up, Vec.unit] using congrArg Vec.z hflat

/-- Two opposite pans cancel if the view is level, or if they are by a multiple of half a turn, and
only then. -/
lemma panned_panned_eq_iff_of_level :
    (pose.panned eps d).panned eps (-d) = pose ↔
      Real.sin (Scalar.radians d) = 0 ∨ pose.view.y = 0 := by
  have hpose : 0 < pose.distance := heps.trans_le hfar
  constructor
  · intro h
    have hheight := y_view_panned_panned heps hfar hlevel (d := d)
    have hcircle := Real.sin_sq_add_cos_sq (Scalar.radians d)
    rw [h] at hheight
    have hzero : Real.sin (Scalar.radians d) ^ 2 * pose.view.y = 0 := by
      linear_combination hheight + pose.view.y * hcircle
    exact (mul_eq_zero.mp hzero).imp_left (pow_eq_zero_iff two_ne_zero).mp
  · rintro (hsin | hy)
    · exact (panned_panned_eq_iff hpose).mpr (.inl hsin)
    · have hy' : (pose.panned eps d).view.y = 0 := by
        rw [y_view_panned heps hfar hlevel, hy, zero_mul]
      refine (panned_panned_eq_iff hpose).mpr (.inr ?_)
      rw [up_of_y_eq_zero heps hfar hlevel hy, up_of_y_eq_zero heps
        (hfar.trans_eq distance_panned.symm) (le_level_panned heps hfar hlevel) hy']

end Level

end Pose

/-! ### Turns to the side -/

namespace Turn

/-- The moves that turn the view sideways. -/
inductive TurnsSideways (turn : Turn ℝ) : Move ℝ → Prop
  /-- A pan. -/
  | pan : TurnsSideways turn (.pan turn)
  /-- A turn about the up of the camera. -/
  | rotate (haxis : (ViewAxis.parse turn.axis : Outcome ℝ ViewAxis) = .ok .yaw) :
      TurnsSideways turn (.rotate turn)

variable {turn : Turn ℝ} {move : Move ℝ} {stage : Stage ℝ} {pose : Pose ℝ} {degrees x : ℝ}

/-- A move that turns the view sideways is a turn about up. -/
lemma TurnsSideways.perform_eq (h : turn.TurnsSideways move) :
    move.perform stage pose = turn.about .yaw stage pose := by
  cases h with
  | pan => rfl
  | rotate haxis =>
    simp only [Move.perform, Turn.rotate, haxis]
    rfl

/-- A turn sideways by an angle that counts pans the camera. -/
lemma TurnsSideways.perform_of_angleFor (h : turn.TurnsSideways move)
    (hfar : stage.settings.epsilon ≤ pose.distance)
    (hangle : turn.angleFor ViewAxis.yaw.heading = .ok degrees)
    (hcounts : stage.settings.epsilon ≤ |degrees|) :
    move.perform stage pose = .ok (.single (pose.panned stage.settings.epsilon degrees)
      stage.duration (stage.easing turn.easing turn.speed)) := by
  rw [h.perform_eq]
  exact about_of_angleFor hangle (Pose.ofView_eq hfar) (not_lt.mpr hcounts)

/-- A direction to the side has its own sign. -/
lemma sign_yaw {direction : Direction} (hmem : direction ∈ [Direction.right, .left]) :
    (ViewAxis.yaw.heading.sign direction : ℝ) = direction.sense := by
  rcases List.mem_pair.mp hmem with rfl | rfl
  · exact if_pos rfl
  · exact if_neg (by decide)

/-- A direction to the side is one of those of a turn sideways. -/
lemma mem_all_yaw {direction : Direction} (hmem : direction ∈ [Direction.right, .left]) :
    direction ∈ ViewAxis.yaw.heading.all := by
  rcases List.mem_pair.mp hmem with rfl | rfl
  · decide
  · decide

/-- An explicit angle in a direction has the sign of the direction. -/
lemma angleFor_of_angle {direction : Direction} (hmem : direction ∈ [Direction.right, .left])
    (hdirection : turn.direction.bind Direction.parse? = some direction)
    (hangle : turn.angle = some x) :
    turn.angleFor ViewAxis.yaw.heading = .ok (direction.sense * |x|) := by
  have hfinite : Scalar.isFinite x = true := rfl
  refine bind_eq_ok_iff.mpr
    ⟨_, Heading.direction?_of_parse? hdirection (mem_all_yaw hmem), ?_⟩
  simp only [signedAngle, hangle, if_pos hfinite, sign_yaw hmem, Scalar.abs_real]

/-- The size of an explicit angle is that of the angle. -/
lemma abs_of_angleFor {heading : Heading} (hangle : turn.angleFor heading = .ok degrees)
    (hx : turn.angle = some x) : |degrees| = |x| := by
  have hfinite : Scalar.isFinite x = true := rfl
  obtain ⟨direction, -, hsigned⟩ := bind_eq_ok_iff.mp hangle
  simp only [signedAngle, hx, if_pos hfinite] at hsigned
  rw [← Except.ok.inj hsigned]
  cases direction with
  | none => rfl
  | some direction =>
    simp only [Heading.sign]
    split
    · simp
    · simp

/-- The amounts of angles are positive. -/
lemma amount_degrees_pos (amount : Amount) : (0 : ℝ) < amount.degrees := by
  cases amount
  all_goals norm_num [Amount.degrees]

/-- An angle in a direction has the sign of the direction, also when it is an amount. -/
lemma eq_sense_mul_abs {direction : Direction} (hmem : direction ∈ [Direction.right, .left])
    (hdirection : turn.direction.bind Direction.parse? = some direction)
    (hangle : turn.angleFor ViewAxis.yaw.heading = .ok degrees) :
    degrees = direction.sense * |degrees| := by
  cases hgiven : turn.angle with
  | some x =>
    rw [abs_of_angleFor hangle hgiven]
    exact Except.ok.inj (hangle.symm.trans (angleFor_of_angle hmem hdirection hgiven))
  | none =>
    obtain ⟨given, hword, hsigned⟩ := bind_eq_ok_iff.mp hangle
    rw [Heading.direction?_of_parse? hdirection (mem_all_yaw hmem)] at hword
    obtain rfl := Except.ok.inj hword
    simp only [signedAngle, hgiven] at hsigned
    obtain ⟨_, -, hsigned⟩ := bind_eq_ok_iff.mp hsigned
    obtain ⟨amount, -, hsigned⟩ := bind_eq_ok_iff.mp hsigned
    have hdegrees : direction.sense * amount.degrees = degrees := by
      rw [← sign_yaw hmem]
      exact Except.ok.inj hsigned
    rw [← hdegrees, direction.abs_sense_mul (amount_degrees_pos amount)]

/-- An angle of less than half a turn has a positive sine. -/
lemma sin_radians_pos (hpos : 0 < x) (hshort : x < 180) : 0 < Real.sin (Scalar.radians x) := by
  have hunit : 0 < Real.pi / 180 := div_pos Real.pi_pos (by norm_num)
  rw [Scalar.radians_real]
  refine Real.sin_pos_of_pos_of_lt_pi (mul_pos hpos hunit) ?_
  calc x * (Real.pi / 180)
      < 180 * (Real.pi / 180) := mul_lt_mul_of_pos_right hshort hunit
    _ = Real.pi := by ring

/-- **A pan in closed form.**

Over the reals, let the view of a camera be at least as long as the length below which a vector has
no direction, and the horizontal part of its direction be at least as long as this, too.  A pan or a
turn about up, by an angle `d` that counts, gives one keyframe.  The camera stays where it is and
its target as far away, and its view is `cos d` times the view before, less `sin d` times its length
along the right axis before.  So less than half a turn to the left leads towards this axis, and one
to the right away from it. -/
theorem view_perform (hsettings : stage.settings.check = .ok ())
    (hfar : stage.settings.epsilon ≤ pose.distance)
    (hlevel : stage.settings.epsilon ≤ pose.view.normalize.level.norm)
    (hmove : turn.TurnsSideways move)
    (hangle : turn.angleFor ViewAxis.yaw.heading = .ok degrees)
    (hcounts : stage.settings.epsilon ≤ |degrees|) :
    ∃ frame next easing,
      Frame.ofView pose.position pose.target stage.settings.epsilon = some frame ∧
      move.perform stage pose = .ok (.single next stage.duration easing) ∧
      next.position = pose.position ∧ next.distance = pose.distance ∧
      next.view = pose.view * Real.cos (Scalar.radians degrees) -
        frame.right * (pose.distance * Real.sin (Scalar.radians degrees)) ∧
      (∀ x, turn.angle = some x → |degrees| = |x|) ∧
      (|degrees| < 180 →
        (turn.direction.bind Direction.parse? = some .left → 0 < next.view.dot frame.right) ∧
        (turn.direction.bind Direction.parse? = some .right → next.view.dot frame.right < 0)) := by
  have hepsilon := Settings.epsilon_pos hsettings
  have hview := Pose.view_panned_of_level hepsilon hfar hlevel (d := degrees)
  refine ⟨_, pose.panned stage.settings.epsilon degrees, _, Pose.ofView_eq hfar,
    hmove.perform_of_angleFor hfar hangle hcounts, rfl, Pose.distance_panned, hview,
    fun x hx => abs_of_angleFor hangle hx, fun hshort => ?_⟩
  have hpose : 0 < pose.distance := hepsilon.trans_le hfar
  have hsin := sin_radians_pos (hepsilon.trans_le hcounts) hshort
  refine ⟨fun hleft => ?_, fun hright => ?_⟩
  · have hsign : degrees = -|degrees| := by
      simpa [Direction.sense] using eq_sense_mul_abs (by simp) hleft hangle
    have hneg : Real.sin (Scalar.radians degrees) = -Real.sin (Scalar.radians |degrees|) := by
      rw [← Real.sin_neg, ← Scalar.radians_neg_real, ← hsign]
    rw [Pose.view_panned_dot_right hepsilon hfar hlevel, hneg, mul_neg, neg_neg]
    exact mul_pos hpose hsin
  · have hsign : degrees = |degrees| := by
      simpa [Direction.sense] using eq_sense_mul_abs (by simp) hright hangle
    rw [Pose.view_panned_dot_right hepsilon hfar hlevel, hsign]
    exact neg_neg_of_pos (mul_pos hpose hsin)

end Turn

/-- A camera at the origin that looks ahead and up. -/
noncomputable def Pose.aslant : Pose ℝ := ⟨⟨0, 0, 0⟩, ⟨0, 3.0, -4.0⟩⟩

/-- It is five units away from its target. -/
lemma Pose.distance_aslant : aslant.distance = 5 := by
  refine Vec.norm_eq_of_dot_eq_mul_self (by norm_num) ?_
  norm_num [Vec.dot, view, aslant]

/-- The horizontal part of its direction. -/
lemma Pose.level_aslant : aslant.view.normalize.level.norm = 0.8 := by
  have hlength : aslant.view.norm = 5 := distance_aslant
  refine Vec.norm_eq_of_dot_eq_mul_self (by norm_num) ?_
  rw [Vec.normalize, hlength]
  norm_num [Vec.dot, view, aslant]

/-- It is far enough from its target, and far enough from the vertical. -/
lemma Pose.aslant_counts :
    (Settings.standard : Settings ℝ).epsilon ≤ aslant.distance ∧
      (Settings.standard : Settings ℝ).epsilon ≤ aslant.view.normalize.level.norm := by
  rw [distance_aslant, level_aslant]
  norm_num [Settings.standard]

namespace Turn

/-- A request to turn about up by a right angle. -/
def quarter {α : Type} [Scalar α] (word : String) : Turn α :=
  { direction := some word, angle := some 90.0, axis := some "yaw" }

/-- A camera that looks up is turned to the left by a right angle, and then looks along what was its
right axis. -/
theorem view_perform_aslant :
    ((Settings.standard : Settings ℝ).epsilon ≤ Pose.aslant.distance ∧
      (Settings.standard : Settings ℝ).epsilon ≤ Pose.aslant.view.normalize.level.norm ∧
      (Settings.standard : Settings ℝ).epsilon ≤ |(-90.0 : ℝ)|) ∧
    ∃ frame next easing,
      Frame.ofView Pose.aslant.position Pose.aslant.target emptyStage.settings.epsilon =
        some frame ∧
      (Move.rotate (quarter "left")).perform emptyStage .aslant =
        .ok (.single next emptyStage.duration easing) ∧
      next.position = Pose.aslant.position ∧ next.distance = Pose.aslant.distance ∧
      next.view = Pose.aslant.view * Real.cos (Scalar.radians (-90.0)) -
        frame.right * (Pose.aslant.distance * Real.sin (Scalar.radians (-90.0))) ∧
      0 < next.view.dot frame.right := by
  obtain ⟨hfar, hlevel⟩ := Pose.aslant_counts
  have hcounts : (Settings.standard : Settings ℝ).epsilon ≤ |(-90.0 : ℝ)| := by
    norm_num [Settings.standard, abs_of_neg]
  have hleft : ((quarter "left" : Turn ℝ).direction).bind Direction.parse? = some .left := rfl
  have hangle : (quarter "left" : Turn ℝ).angleFor ViewAxis.yaw.heading = .ok (-90.0) := by
    have hsize : Direction.left.sense * |(90.0 : ℝ)| = -90.0 := by
      norm_num [Direction.sense]
    rw [← hsize]
    exact angleFor_of_angle (by simp) hleft rfl
  have hshort : |(-90.0 : ℝ)| < 180 := by
    norm_num [abs_of_neg]
  have hsettings : emptyStage.settings.check = .ok () := Settings.check_standard
  obtain ⟨frame, next, easing, hframe, hperform, hposition, hdistance, hview, -, hside⟩ :=
    view_perform hsettings hfar hlevel (.rotate rfl) hangle hcounts
  exact ⟨⟨hfar, hlevel, hcounts⟩, frame, next, easing, hframe, hperform, hposition, hdistance,
    hview, (hside hshort).1 hleft⟩

end Turn

/-! ### Pans there and back -/

/-- A pan, or a turn about up, by an explicit angle in a direction. -/
def Move.PansBy (move : Move ℝ) (direction : Direction) (x : ℝ) : Prop :=
  ∃ turn : Turn ℝ, turn.TurnsSideways move ∧
    turn.direction.bind Direction.parse? = some direction ∧ turn.angle = some x

section Runs

variable {scene : Scene ℝ} {around : Surroundings ℝ} {settings : Settings ℝ} {pose : Pose ℝ}
  {direction : Direction} {x : ℝ} {move first second : Move ℝ} {plan : Plan ℝ} {initial : Pose ℝ}

/-- A pan by an angle that counts leads to where the camera is panned to, whatever is around. -/
lemma Move.PansBy.leads (h : move.PansBy direction x)
    (hmem : direction ∈ [Direction.right, .left]) (hepsilon : 0 < settings.epsilon)
    (hfar : settings.epsilon ≤ pose.distance) (hx : settings.epsilon ≤ x) :
    move.Leads scene around settings pose
      (pose.panned settings.epsilon (direction.sense * x)) := by
  obtain ⟨turn, hmove, hdirection, hgiven⟩ := h
  intro duration
  let stage : Stage ℝ := ⟨scene, around, settings, duration⟩
  have hpos : 0 < x := hepsilon.trans_le hx
  have hangle := Turn.angleFor_of_angle hmem hdirection hgiven
  rw [abs_of_pos hpos] at hangle
  have hcounts : settings.epsilon ≤ |direction.sense * x| := by
    rwa [direction.abs_sense_mul hpos]
  exact ⟨stage.easing turn.easing turn.speed, hmove.perform_of_angleFor hfar hangle hcounts⟩

namespace Plan

/-- A pan to the left and one to the right by the same angle are carried out without a remark. -/
lemma exists_interpret_pans (hsettings : settings.check = .ok ())
    (hfar : settings.epsilon ≤ initial.distance) (hx : settings.epsilon ≤ x)
    (hfirst : first.PansBy .left x) (hsecond : second.PansBy .right x)
    (hplan : plan.check = .ok ()) (hmoves : plan.moves = [first, second]) :
    ∃ i, plan.interpret scene around settings initial = .ok i ∧
      i.keyframes.map (·.pose) = [initial.panned settings.epsilon (-x),
        (initial.panned settings.epsilon (-x)).panned settings.epsilon (- -x)] ∧
      i.finalPose = (initial.panned settings.epsilon (-x)).panned settings.epsilon (- -x) ∧
      i.diagnostics = [] := by
  have hepsilon := Settings.epsilon_pos hsettings
  have hthere : first.Leads scene around settings initial
      (initial.panned settings.epsilon (-x)) := by
    simpa [Direction.sense] using hfirst.leads (by simp) hepsilon hfar hx
  have hback : second.Leads scene around settings (initial.panned settings.epsilon (-x))
      ((initial.panned settings.epsilon (-x)).panned settings.epsilon (- -x)) := by
    simpa [Direction.sense] using
      hsecond.leads (by simp) hepsilon (hfar.trans_eq Pose.distance_panned.symm) hx
  exact interpret_of_trail hsettings hplan (hmoves ▸ .cons hthere (.cons hback (.nil _)))

/-- An angle makes no difference to the side if it is a number of half turns. -/
lemma sin_radians_neg_eq_zero_iff :
    Real.sin (Scalar.radians (-x)) = 0 ↔ ∃ n : ℤ, x = n * 180 := by
  rw [Scalar.radians_neg_real, Real.sin_neg, neg_eq_zero, Scalar.radians_real,
    Real.sin_eq_zero_iff]
  refine exists_congr fun n => ?_
  have hpi := Real.pi_ne_zero
  field_simp
  exact eq_comm

/-- **A pan to the left and a pan to the right.**

Over the reals, let a plan be to turn the view to the left and then to the right, both about up and
by one angle `x` that counts.  It is carried out without a remark, whatever is around, and keeps the
position and the distance.  The camera ends in the pose that it started from if `x` is a number of
half turns or the view after the first turn has the same up as the one before, and only then.  For a
view that is not vertical this is to say that `x` is a number of half turns or the view is level, as
the height of the view at the end is `cos x ^ 2` times that at the start. -/
theorem interpret_leftAndRight (hsettings : settings.check = .ok ())
    (hfar : settings.epsilon ≤ initial.distance) (hx : settings.epsilon ≤ x)
    (hfirst : first.PansBy .left x) (hsecond : second.PansBy .right x)
    (hplan : plan.check = .ok ()) (hmoves : plan.moves = [first, second]) :
    ∃ i, plan.interpret scene around settings initial = .ok i ∧ i.diagnostics = [] ∧
      i.keyframes.map (·.pose) = [initial.panned settings.epsilon (-x), i.finalPose] ∧
      i.finalPose.position = initial.position ∧ i.finalPose.distance = initial.distance ∧
      (i.finalPose = initial ↔ (∃ n : ℤ, x = n * 180) ∨
        (initial.panned settings.epsilon (-x)).up settings.epsilon =
          initial.up settings.epsilon) ∧
      (settings.epsilon ≤ initial.view.normalize.level.norm →
        (i.finalPose = initial ↔ (∃ n : ℤ, x = n * 180) ∨ initial.view.y = 0) ∧
        i.finalPose.view.y = initial.view.y * Real.cos (Scalar.radians x) ^ 2) := by
  have hepsilon := Settings.epsilon_pos hsettings
  obtain ⟨i, hi, hposes, hfinal, hnone⟩ :=
    exists_interpret_pans hsettings hfar hx hfirst hsecond hplan hmoves
  refine ⟨i, hi, hnone, hposes.trans (by rw [hfinal]), ?_, ?_, ?_, fun hlevel => ⟨?_, ?_⟩⟩
  · rw [hfinal]
    rfl
  · rw [hfinal, Pose.distance_panned, Pose.distance_panned]
  · rw [hfinal, Pose.panned_panned_eq_iff (hepsilon.trans_le hfar), sin_radians_neg_eq_zero_iff]
  · rw [hfinal, Pose.panned_panned_eq_iff_of_level hepsilon hfar hlevel,
      sin_radians_neg_eq_zero_iff]
  · rw [hfinal, Pose.y_view_panned_panned hepsilon hfar hlevel, Scalar.radians_neg_real,
      Real.cos_neg]

end Plan

end Runs

namespace Plan

/-- A plan to pan to the left by a right angle, and to the right. -/
def leftAndRight {α : Type} [Scalar α] : Plan α where
  steps := [⟨.pan (.quarter "left"), 1⟩, ⟨.pan (.quarter "right"), 1⟩]
  duration := 2.0

/-- It is a plan to pan to the left and to the right by one angle. -/
lemma leftAndRight_isPlan :
    (leftAndRight : Plan ℝ).check = .ok () ∧
      (Move.pan (.quarter "left")).PansBy .left 90.0 ∧
      (Move.pan (.quarter "right")).PansBy .right 90.0 := by
  have hduration : 0 < (leftAndRight : Plan ℝ).duration := by
    norm_num [leftAndRight]
  exact ⟨check_of_pos (List.cons_ne_nil _ _) hduration, ⟨_, .pan, rfl, rfl⟩, ⟨_, .pan, rfl, rfl⟩⟩

/-- A right angle counts. -/
lemma quarter_counts : (Settings.standard : Settings ℝ).epsilon ≤ 90.0 := by
  norm_num [Settings.standard]

/-- A camera with a level view is back where it was after a pan to the left and one to the right. -/
theorem interpret_leftAndRight_ahead :
    ((Settings.standard : Settings ℝ).epsilon ≤ Pose.ahead.distance ∧
      (Settings.standard : Settings ℝ).epsilon ≤ 90.0) ∧
    ∃ i, (leftAndRight : Plan ℝ).interpret .empty .free .standard .ahead = .ok i ∧
      i.diagnostics = [] ∧ i.finalPose = .ahead := by
  have hfar : (Settings.standard : Settings ℝ).epsilon ≤ Pose.ahead.distance := by
    rw [Pose.distance_ahead]
    norm_num [Settings.standard]
  have hlevel : (Settings.standard : Settings ℝ).epsilon ≤
      Pose.ahead.view.normalize.level.norm := by
    have hlength : Pose.ahead.view.norm = 5 := Pose.distance_ahead
    have hone : Pose.ahead.view.normalize.level.norm = 1 := by
      refine Vec.norm_eq_of_dot_eq_mul_self zero_le_one ?_
      rw [Vec.normalize, hlength]
      norm_num [Vec.dot, Pose.view, Pose.ahead]
    rw [hone]
    norm_num [Settings.standard]
  have hheight : Pose.ahead.view.y = 0 := by
    norm_num [Pose.view, Pose.ahead]
  obtain ⟨hplan, hfirst, hsecond⟩ := leftAndRight_isPlan
  obtain ⟨i, hi, hnone, -, -, -, -, hback⟩ := interpret_leftAndRight Settings.check_standard hfar
    quarter_counts hfirst hsecond hplan rfl
  exact ⟨⟨hfar, quarter_counts⟩, i, hi, hnone, (hback hlevel).1.mpr (.inr hheight)⟩

/-- **Opposite pans of a camera that looks up do not cancel**: by right angles they lead to a level
view. -/
theorem not_back_leftAndRight :
    (Settings.standard : Settings ℝ).check = .ok () ∧
    (Settings.standard : Settings ℝ).epsilon ≤ Pose.aslant.distance ∧
    (Settings.standard : Settings ℝ).epsilon ≤ Pose.aslant.view.normalize.level.norm ∧
    (Settings.standard : Settings ℝ).epsilon ≤ 90.0 ∧
    ∃ i, (leftAndRight : Plan ℝ).interpret .empty .free .standard .aslant = .ok i ∧
      i.finalPose ≠ .aslant := by
  obtain ⟨hfar, hlevel⟩ := Pose.aslant_counts
  obtain ⟨hplan, hfirst, hsecond⟩ := leftAndRight_isPlan
  obtain ⟨i, hi, -, hfinal, -⟩ := exists_interpret_pans Settings.check_standard hfar
    quarter_counts hfirst hsecond hplan rfl
  refine ⟨Settings.check_standard, hfar, hlevel, quarter_counts, i, hi, fun hback => ?_⟩
  have hepsilon := Settings.epsilon_pos (Settings.check_standard : Settings.standard.check = .ok ())
  have hheight := Pose.y_view_panned_panned hepsilon hfar hlevel (d := -90.0)
  have hright : Scalar.radians (-90.0) = -(Real.pi / 2) := by
    rw [Scalar.radians_real]
    norm_num
    ring
  rw [← hfinal, hback, hright, Real.cos_neg, Real.cos_pi_div_two] at hheight
  norm_num [Pose.view, Pose.aslant] at hheight

end Plan

end Cinematics
