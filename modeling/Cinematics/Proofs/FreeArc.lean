import Cinematics.Proofs.Standoff

/-!
# Arcs in the open

Without an envelope and without a box nothing stands in the way of an orbit, and it can be said
where each keyframe is.  `Vec.turnAbout` turns a vector about an axis by what is known as the
formula of Rodrigues, and the half angles of `Vec.rotate` come to the same
(`Vec.rotate_eq_turnAbout`).  Two vectors turned about one axis are no further apart in angle than
they were turned, so the points of an arc are as close together as the step of the settings demands.

The arc itself knows nothing of steps: `Orbit.Arc.along` gives its points by the fraction of the
way.  A step settles only which of them become keyframes, and the last one always does.
-/

namespace Cinematics

/-- Half a turn has a hundred and eighty degrees. -/
lemma Scalar.radians_real (degrees : ℝ) : Scalar.radians degrees = degrees * (Real.pi / 180) := by
  have hhalf : (180.0 : ℝ) = 180 := by norm_num
  rw [radians, hhalf]
  rfl

/-! ### Turning about an axis -/

namespace Vec

/-- A vector turned by an angle about a direction of length one: what lies along the direction
stays, and what lies across goes around. -/
noncomputable def turn (v u : Vec ℝ) (angle : ℝ) : Vec ℝ :=
  v * Real.cos angle + u.cross v * Real.sin angle + u * (u.dot v * (1 - Real.cos angle))

/-- A vector turned about an axis by an angle.  About no axis nothing turns. -/
noncomputable def turnAbout (v axis : Vec ℝ) (angle : ℝ) : Vec ℝ :=
  if axis = 0 then v else v.turn axis.normalize angle

/-- The angle between two vectors. -/
noncomputable def angle (u v : Vec ℝ) : ℝ :=
  Real.arccos (u.dot v / (u.norm * v.norm))

variable {u v axis : Vec ℝ} {a b s t : ℝ}

/-- The half-angle formula turns about a direction of length one. -/
lemma rotate_eq_turn (hu : u.dot u = 1) : v.rotate u a = v.turn u a := by
  have hlong : (1e-12 * 1e-12 : ℝ) < u.dot u := by
    rw [hu]
    norm_num
  have hhalf : 2 * (a / 2.0) = a := by
    norm_num
    ring
  have hsin : Real.sin a = 2 * Real.sin (a / 2.0) * Real.cos (a / 2.0) := by
    rw [← Real.sin_two_mul, hhalf]
  have hcos : Real.cos a = 1 - 2 * Real.sin (a / 2.0) ^ 2 := by
    have hdouble := Real.cos_two_mul (a / 2.0)
    rw [hhalf] at hdouble
    linarith only [hdouble, Real.sin_sq_add_cos_sq (a / 2.0)]
  have hrotate : v.rotate u a =
      (u / Real.sqrt (u.dot u) * Real.sin (a / 2.0)).cross v * (2.0 : ℝ) * Real.cos (a / 2.0) +
        (u / Real.sqrt (u.dot u) * Real.sin (a / 2.0)).cross
          ((u / Real.sqrt (u.dot u) * Real.sin (a / 2.0)).cross v * (2.0 : ℝ)) + v :=
    if_pos hlong
  have htwo : (2.0 : ℝ) = 2 := by norm_num
  rw [hrotate, hu, Real.sqrt_one, turn, hsin, hcos]
  set half := Real.sin (a / 2.0)
  simp only [dot] at hu
  ext
  · simp only [dot, cross, add_x, mul_x, mul_y, mul_z, div_x, div_y, div_z, div_one, htwo]
    linear_combination (-(2 * half ^ 2 * v.x)) * hu
  · simp only [dot, cross, add_y, mul_x, mul_y, mul_z, div_x, div_y, div_z, div_one, htwo]
    linear_combination (-(2 * half ^ 2 * v.y)) * hu
  · simp only [dot, cross, add_z, mul_x, mul_y, mul_z, div_x, div_y, div_z, div_one, htwo]
    linear_combination (-(2 * half ^ 2 * v.z)) * hu

/-- How far a vector that is turned twice is turned from the one to the other: by the difference of
the angles across the direction, and not at all along it. -/
lemma dot_turn (hu : u.dot u = 1) : (v.turn u a).dot (v.turn u b) =
    v.dot v * Real.cos (a - b) + (u.dot v) ^ 2 * (1 - Real.cos (a - b)) := by
  rw [Real.cos_sub]
  simp only [dot] at hu
  simp only [turn, dot, cross, add_x, add_y, add_z, mul_x, mul_y, mul_z]
  linear_combination
    (Real.sin a * Real.sin b * (v.x ^ 2 + v.y ^ 2 + v.z ^ 2) +
      (u.x * v.x + u.y * v.y + u.z * v.z) ^ 2 * (1 - Real.cos a) * (1 - Real.cos b)) * hu

/-- The direction of a vector has length one, if there is any. -/
lemma normalize_cases (v : Vec ℝ) : v.normalize = 0 ∨ v.normalize.norm = 1 := by
  by_cases hv : v = 0
  · left
    rw [hv, normalize]
    ext
    · exact zero_div _
    · exact zero_div _
    · exact zero_div _
  · exact .inr (norm_normalize hv)

/-- Vectors turned about the same axis are no further apart than their angles. -/
lemma le_dot_turnAbout :
    v.dot v * Real.cos (a - b) ≤ (v.turnAbout axis a).dot (v.turnAbout axis b) := by
  rw [turnAbout, turnAbout]
  split
  · exact mul_le_of_le_one_right v.dot_self_nonneg (Real.cos_le_one _)
  · rename_i haxis
    rw [dot_turn (dot_normalize haxis)]
    have hrest := mul_nonneg (sq_nonneg (axis.normalize.dot v))
      (sub_nonneg.mpr (Real.cos_le_one (a - b)))
    linarith only [hrest]

/-- A vector that is turned is as long as before. -/
lemma norm_turnAbout : (v.turnAbout axis a).norm = v.norm := by
  rw [turnAbout]
  split
  · rfl
  · rename_i haxis
    refine norm_eq_of_dot_eq ?_
    rw [dot_turn (dot_normalize haxis), sub_self, Real.cos_zero]
    ring

/-- Nothing turns by no angle. -/
lemma turnAbout_zero : v.turnAbout axis 0 = v := by
  rw [turnAbout]
  split
  · rfl
  · ext
    all_goals simp [turn]

/-- About an axis of length one, or none, the half-angle formula turns. -/
lemma rotate_eq_turnAbout (h : axis = 0 ∨ axis.norm = 1) :
    v.rotate axis a = v.turnAbout axis a := by
  rcases h with rfl | h
  · have hshort : ¬ (1e-12 * 1e-12 : ℝ) < (0 : Vec ℝ).dot 0 := by
      norm_num [dot]
    rw [turnAbout, if_pos rfl]
    exact if_neg hshort
  · have haxis : axis ≠ 0 := ne_zero_of_norm_pos (h.symm ▸ one_pos)
    have hnormalize : axis.normalize = axis := by
      rw [normalize, h]
      ext
      · exact div_one _
      · exact div_one _
      · exact div_one _
    rw [turnAbout, if_neg haxis, hnormalize, rotate_eq_turn]
    rw [← norm_mul_norm_real, h, one_mul]

/-- **Vectors turned about the same axis are no further apart in angle than they were turned.** -/
lemma angle_turnAbout_le (hv : 0 < v.norm) (hs : 0 < s) (ht : 0 < t) (h : |a - b| ≤ Real.pi) :
    angle (v.turnAbout axis a * s) (v.turnAbout axis b * t) ≤ |a - b| := by
  have hdot : (v.turnAbout axis a * s).dot (v.turnAbout axis b * t) =
      (v.turnAbout axis a).dot (v.turnAbout axis b) * (s * t) := by
    simp only [dot, mul_x, mul_y, mul_z]
    ring
  have hnorms : (v.turnAbout axis a * s).norm * (v.turnAbout axis b * t).norm =
      v.dot v * (s * t) := by
    rw [norm_mul_real, norm_mul_real, norm_turnAbout, norm_turnAbout, abs_of_pos hs, abs_of_pos ht,
      ← norm_mul_norm_real]
    ring
  have hpos : 0 < v.dot v := by
    rw [← norm_mul_norm_real]
    exact mul_pos hv hv
  have hcos : Real.cos |a - b| ≤ (v.turnAbout axis a * s).dot (v.turnAbout axis b * t) /
      ((v.turnAbout axis a * s).norm * (v.turnAbout axis b * t).norm) := by
    rw [hdot, hnorms, Real.cos_abs, mul_div_mul_right _ _ (mul_pos hs ht).ne', le_div_iff₀ hpos,
      mul_comm]
    exact le_dot_turnAbout
  calc angle (v.turnAbout axis a * s) (v.turnAbout axis b * t)
      ≤ Real.arccos (Real.cos |a - b|) := Real.arccos_le_arccos hcos
    _ = |a - b| := Real.arccos_cos (abs_nonneg _) h

/-- The direction of a vector product is at a right angle to the first factor. -/
lemma dot_normalize_cross_left (u v : Vec ℝ) : (u.cross v).normalize.dot u = 0 := by
  simp only [normalize, dot, cross, div_x, div_y, div_z]
  ring

/-- The direction of a vector product is at a right angle to the second factor. -/
lemma dot_normalize_cross_right (u v : Vec ℝ) : (u.cross v).normalize.dot v = 0 := by
  simp only [normalize, dot, cross, div_x, div_y, div_z]
  ring

/-- The square of a vector product. -/
lemma dot_cross_self :
    (u.cross v).dot (u.cross v) = u.dot u * v.dot v - u.dot v ^ 2 := by
  simp only [dot, cross]
  ring

end Vec

/-! ### The step and the axis of an orbit -/

/-- The arc of one keyframe lies within its limits. -/
lemma Settings.effectiveOrbitStep_mem (settings : Settings ℝ) :
    2 ≤ settings.effectiveOrbitStep ∧ settings.effectiveOrbitStep ≤ 45 := by
  have hleast : (minOrbitStep : ℝ) = 2 := by norm_num [minOrbitStep]
  have hgreatest : (maxOrbitStep : ℝ) = 45 := by norm_num [maxOrbitStep]
  rw [effectiveOrbitStep, hleast, hgreatest]
  exact ⟨Scalar.le_clamp (by norm_num), Scalar.clamp_le (by norm_num)⟩

/-- The right of a picture is not along the view, unless the length below which a vector has no
direction is above one. -/
lemma Frame.cross_rightOf_ne_zero {forward : Vec ℝ} {eps : ℝ} (hpos : 0 < eps) (hle : eps ≤ 1)
    (hforward : forward.dot forward = 1) : (rightOf forward eps).cross forward ≠ 0 := by
  intro hzero
  have hcross : (rightOf forward eps).dot (rightOf forward eps) =
      (rightOf forward eps).dot forward ^ 2 := by
    have hsquare := Vec.dot_cross_self (u := rightOf forward eps) (v := forward)
    have hnone : (0 : Vec ℝ).dot 0 = 0 := by norm_num [Vec.dot]
    rw [hzero, hnone, hforward] at hsquare
    linarith only [hsquare]
  by_cases hshort : (forward.cross Vec.up).norm < eps
  · -- the view would be along the first coordinate axis, and far from vertical
    have hright : rightOf forward eps = Vec.unit .x := if_pos hshort
    have hsquare :
        (forward.cross Vec.up).norm * (forward.cross Vec.up).norm = 1 - forward.y ^ 2 := by
      rw [Vec.norm_mul_norm_real, Vec.dot_cross_self, hforward]
      norm_num [Vec.dot, Vec.up, Vec.unit]
    rw [hright] at hcross
    simp only [Vec.dot, Vec.unit] at hcross hforward
    have hnorm := Vec.norm_nonneg_real (forward.cross Vec.up)
    nlinarith [hshort.trans_le hle, sq_nonneg forward.z]
  · have hright : rightOf forward eps = (forward.cross Vec.up).normalize := if_neg hshort
    have hlong := Vec.ne_zero_of_norm_pos (hpos.trans_le (not_lt.mp hshort))
    rw [hright, Vec.dot_normalize_cross_left, Vec.dot_normalize hlong] at hcross
    norm_num at hcross

/-- The top of a picture has length one, unless the length below which a vector has no direction is
above one. -/
lemma Frame.norm_up {position target : Vec ℝ} {eps : ℝ} {frame : Frame ℝ} (hpos : 0 < eps)
    (hle : eps ≤ 1) (h : ofView position target eps = some frame) : frame.up.norm = 1 := by
  obtain ⟨hfar, h⟩ := Option.ite_none_left_eq_some.mp h
  obtain rfl := Option.some.inj h
  have hview := Vec.ne_zero_of_norm_pos (hpos.trans_le (not_lt.mp hfar))
  exact Vec.norm_normalize (cross_rightOf_ne_zero hpos hle (Vec.dot_normalize hview))

namespace Orbit

variable {pose : Pose ℝ} {eps : ℝ}

/-- The axis of an orbit has length one, if it has any. -/
lemma Around.vec_cases (around : Around) :
    around.vec pose eps = 0 ∨ (around.vec pose eps).norm = 1 := by
  cases around with
  | world axis => exact .inr (Vec.norm_unit axis)
  | cameraUp =>
    rw [vec]
    split
    · rename_i frame hframe
      obtain ⟨-, hframe⟩ := Option.ite_none_left_eq_some.mp hframe
      obtain rfl := Option.some.inj hframe
      exact Vec.normalize_cases _
    · exact .inr (Vec.norm_unit .y)

/-- The axis of an orbit has length one. -/
lemma Around.norm_vec (hpos : 0 < eps) (hle : eps ≤ 1) (around : Around) :
    (around.vec pose eps).norm = 1 := by
  cases around with
  | world axis => exact Vec.norm_unit axis
  | cameraUp =>
    rw [vec]
    split
    · rename_i frame hframe
      exact Frame.norm_up hpos hle hframe
    · exact Vec.norm_unit .y

end Orbit

/-- A number that has to be positive is. -/
lemma pos_of_positive {parameter : String} {x y : ℝ} (h : positive parameter x = .ok y) :
    0 < y := by
  rw [positive] at h
  split at h
  · rename_i hrange
    obtain rfl := Except.ok.inj h
    exact hrange.2
  · cases h

/-! ### The way along an arc -/

section Open

variable {α : Type} [Scalar α] {stage : Stage α}

/-- Without an envelope and without a box the camera goes where it heads for. -/
lemma Stage.place_open (henvelope : stage.around.envelope = none)
    (hbounds : stage.scene.bounds = none) (start candidate anchor : Vec α) :
    stage.place start candidate anchor = candidate := by
  have hlifted : stage.scene.liftedBounds stage.around = none := by
    rw [Scene.liftedBounds, hbounds]
    rfl
  simp [place, Scene.place, Scene.settle, Scene.isAdmissible, henvelope, hlifted]

/-- In the open the places along an arc are its points. -/
lemma Orbit.Arc.places_open (henvelope : stage.around.envelope = none)
    (hbounds : stage.scene.bounds = none) (arc : Arc α) (start : Vec α) (ks : List ℕ) :
    arc.places stage start ks = ks.map arc.point := by
  induction ks generalizing start with
  | nil => rfl
  | cons k ks ih => rw [places, stage.place_open henvelope hbounds, ih, List.map_cons]

variable {orbit : Orbit α} {pose : Pose α} {arc : Orbit.Arc α}

/-- An orbit that goes along an arc has it as its way. -/
lemma Orbit.way_of_goesAlong (h : orbit.GoesAlong stage pose arc) :
    orbit.way stage pose = .ok (.along arc) := by
  obtain ⟨center, axis, radius, degrees, radiusFactor, segments⟩ := arc
  obtain ⟨around, hcenter, hdegrees, hfactor, haround, hradius, haxis, hsegments, hfar, hlarge⟩ := h
  simp only at hcenter hdegrees hfactor hradius haxis hsegments hfar hlarge
  subst hradius haxis hsegments
  simp only [way]
  refine bind_eq_ok_iff.mpr ⟨center, hcenter, bind_eq_ok_iff.mpr ⟨degrees, hdegrees, ?_⟩⟩
  refine bind_eq_ok_iff.mpr ⟨radiusFactor, hfactor, bind_eq_ok_iff.mpr ⟨around, haround, ?_⟩⟩
  rw [if_neg hfar, if_neg hlarge]

/-- An orbit that goes along an arc takes it. -/
lemma Orbit.perform_of_goesAlong (h : orbit.GoesAlong stage pose arc) :
    orbit.perform stage pose =
      .ok (arc.take stage pose.position (stage.easing orbit.easing orbit.speed)) := by
  rw [perform, way_of_goesAlong h]
  rfl

end Open

namespace Orbit

variable {orbit : Orbit ℝ} {stage : Stage ℝ} {pose : Pose ℝ} {arc : Arc ℝ} {take : Take ℝ}

/-- An orbit by an angle in degrees goes by it, up to the limit. -/
lemma angleFor_of_angle {degrees : ℝ} (hdirection : orbit.direction = none)
    (hangle : orbit.angle = some degrees) (hlimit : |degrees| ≤ stage.settings.orbitLimit) :
    orbit.angleFor stage = .ok degrees := by
  have hfinite : Scalar.isFinite degrees = true := rfl
  simp only [angleFor, hdirection, hangle, Heading.direction?, signedAngle, if_pos hfinite]
  exact if_neg (not_lt.mpr hlimit)

/-- No orbit goes by more than the limit. -/
lemma abs_le_of_angleFor {degrees : ℝ} (h : orbit.angleFor stage = .ok degrees) :
    |degrees| ≤ stage.settings.orbitLimit := by
  simp only [angleFor] at h
  obtain ⟨direction, -, h⟩ := bind_eq_ok_iff.mp h
  obtain ⟨signed, -, h⟩ := bind_eq_ok_iff.mp h
  split at h
  · cases h
  · rename_i hlimit
    rw [← Except.ok.inj h]
    exact not_lt.mp hlimit

/-- The point that lies a fraction of the way along an arc. -/
noncomputable def Arc.along (arc : Arc ℝ) (fraction : ℝ) : Vec ℝ :=
  arc.center + arc.radius.turnAbout arc.axis (Scalar.radians arc.degrees * fraction) *
    (1 + (arc.radiusFactor - 1) * fraction)

/-- About an axis of length one, or none, the points of an arc lie evenly along it. -/
lemma Arc.point_eq_along (haxis : arc.axis = 0 ∨ arc.axis.norm = 1) (k : ℕ) :
    arc.point k = arc.along (k / arc.segments) := by
  rw [along, ← Vec.rotate_eq_turnAbout haxis]
  rfl

lemma Arc.along_sub_center (arc : Arc ℝ) (x : ℝ) : arc.along x - arc.center =
    arc.radius.turnAbout arc.axis (Scalar.radians arc.degrees * x) *
      (1 + (arc.radiusFactor - 1) * x) :=
  Vec.add_sub_cancel_left_real _ _

/-- An arc starts at the end of its radius. -/
lemma Arc.along_zero {p : Vec ℝ} (hradius : arc.radius = p - arc.center) : arc.along 0 = p := by
  rw [along, mul_zero, mul_zero, add_zero, Vec.turnAbout_zero, hradius]
  ext
  all_goals simp

variable {x y : ℝ}

/-- Along an arc no radius is negative or zero. -/
lemma Arc.scale_pos (hfactor : 0 < arc.radiusFactor) (h0 : 0 ≤ x) (h1 : x ≤ 1) :
    0 < 1 + (arc.radiusFactor - 1) * x := by
  rcases h1.lt_or_eq with h1 | rfl
  · have hrest := mul_nonneg hfactor.le h0
    linarith only [hrest, h1]
  · linarith only [hfactor]

/-- The radius grows or shrinks evenly along an arc. -/
lemma Arc.norm_along (hfactor : 0 < arc.radiusFactor) (h0 : 0 ≤ x) (h1 : x ≤ 1) :
    (arc.along x - arc.center).norm = arc.radius.norm * (1 + (arc.radiusFactor - 1) * x) := by
  rw [along_sub_center, Vec.norm_mul_real, Vec.norm_turnAbout, abs_of_pos (scale_pos hfactor h0 h1)]

/-- Two points along an arc are no further apart in angle than the part of the arc between them. -/
lemma Arc.angle_along_le (hfactor : 0 < arc.radiusFactor) (hradius : 0 < arc.radius.norm)
    (hx : 0 ≤ x ∧ x ≤ 1) (hy : 0 ≤ y ∧ y ≤ 1)
    (h : Scalar.radians (|arc.degrees| * |x - y|) ≤ Real.pi) :
    Vec.angle (arc.along x - arc.center) (arc.along y - arc.center) ≤
      Scalar.radians (|arc.degrees| * |x - y|) := by
  have hbetween : |Scalar.radians arc.degrees * x - Scalar.radians arc.degrees * y| =
      Scalar.radians (|arc.degrees| * |x - y|) := by
    have hdegree : |Real.pi / 180| = Real.pi / 180 :=
      abs_of_nonneg (div_nonneg Real.pi_pos.le (by norm_num))
    rw [Scalar.radians_real, Scalar.radians_real, ← mul_sub, abs_mul, abs_mul, hdegree]
    ring
  rw [along_sub_center, along_sub_center, ← hbetween]
  rw [← hbetween] at h
  exact Vec.angle_turnAbout_le hradius (scale_pos hfactor hx.1 hx.2) (scale_pos hfactor hy.1 hy.2) h

/-- An arc is cut finely enough. -/
lemma abs_div_segmentsFor_le (settings : Settings ℝ) (degrees : ℝ) :
    |degrees| / segmentsFor settings degrees ≤ settings.effectiveOrbitStep := by
  have hstep : 0 < settings.effectiveOrbitStep := by
    linarith only [settings.effectiveOrbitStep_mem.1]
  have hpos : (0 : ℝ) < segmentsFor settings degrees :=
    Nat.cast_pos.mpr (segmentsFor_pos settings degrees)
  have hceil : |degrees| / settings.effectiveOrbitStep ≤ segmentsFor settings degrees :=
    (Nat.le_ceil _).trans (Nat.cast_le.mpr (Nat.le_max_right _ _))
  rw [div_le_iff₀ hpos, mul_comm]
  exact (div_le_iff₀ hstep).mp hceil

/-- The keyframes of an arc lie on the way. -/
lemma Arc.fraction_mem {k : ℕ} (hk : k ≤ arc.segments) :
    0 ≤ (k : ℝ) / arc.segments ∧ (k : ℝ) / arc.segments ≤ 1 :=
  ⟨div_nonneg k.cast_nonneg arc.segments.cast_nonneg,
    div_le_one_of_le₀ (Nat.cast_le.mpr hk) arc.segments.cast_nonneg⟩

/-- Two keyframes of an arc one after the other are no more than a step apart in angle. -/
lemma Arc.angle_neighbours_le {settings : Settings ℝ}
    (hsegments : arc.segments = segmentsFor settings arc.degrees) (hfactor : 0 < arc.radiusFactor)
    (hradius : 0 < arc.radius.norm) {k : ℕ} (hk : k < arc.segments) :
    Vec.angle (arc.along (k / arc.segments) - arc.center)
      (arc.along ((k + 1 : ℕ) / arc.segments) - arc.center) ≤
        Scalar.radians settings.effectiveOrbitStep := by
  have hneighbours : |(k : ℝ) / arc.segments - (k + 1 : ℕ) / arc.segments| = 1 / arc.segments := by
    rw [← sub_div, Nat.cast_add, Nat.cast_one, sub_add_cancel_left, abs_div, abs_neg, abs_one,
      Nat.abs_cast]
  have hpart : |arc.degrees| * |(k : ℝ) / arc.segments - (k + 1 : ℕ) / arc.segments| ≤
      settings.effectiveOrbitStep := by
    rw [hneighbours, mul_one_div, hsegments]
    exact abs_div_segmentsFor_le _ _
  have hradians : Scalar.radians
      (|arc.degrees| * |(k : ℝ) / arc.segments - (k + 1 : ℕ) / arc.segments|) ≤
        Scalar.radians settings.effectiveOrbitStep := by
    rw [Scalar.radians_real, Scalar.radians_real]
    exact mul_le_mul_of_nonneg_right hpart (div_nonneg Real.pi_pos.le (by norm_num))
  -- a step is far from half a turn, so the angle is the one that was turned
  have hturn : Scalar.radians settings.effectiveOrbitStep ≤ Real.pi := by
    have hmost := settings.effectiveOrbitStep_mem.2
    rw [Scalar.radians_real]
    nlinarith [Real.pi_pos]
  exact (angle_along_le hfactor hradius (fraction_mem hk.le) (fraction_mem hk)
    (hradians.trans hturn)).trans hradians

/-- In the open an arc about an axis of length one, or none, is taken point by point. -/
lemma Arc.take_open (henvelope : stage.around.envelope = none) (hbounds : stage.scene.bounds = none)
    (haxis : arc.axis = 0 ∨ arc.axis.norm = 1) (hsegments : 0 < arc.segments) (start : Vec ℝ)
    (easing : Easing) :
    (arc.take stage start easing).keyframes.map (·.pose) =
        (List.range' 1 arc.segments).map (fun k => ⟨arc.along (k / arc.segments), arc.center⟩) ∧
      (arc.take stage start easing).pose = ⟨arc.along 1, arc.center⟩ := by
  have hposes : (arc.take stage start easing).keyframes.map (·.pose) =
      (List.range' 1 arc.segments).map fun k => ⟨arc.along (k / arc.segments), arc.center⟩ := by
    rw [map_pose_take, places_open henvelope hbounds, List.map_map]
    exact List.map_congr_left fun k _ => by rw [Function.comp_apply, point_eq_along haxis]
  refine ⟨hposes, ?_⟩
  have hlast : ((arc.take stage start easing).keyframes.map (·.pose)).getLast? =
      some (arc.take stage start easing).pose := arc.take_endsAtPose easing hsegments
  have hone : ((1 + arc.segments - 1 : ℕ) : ℝ) / arc.segments = 1 := by
    rw [Nat.add_sub_cancel_left, div_self (Nat.cast_ne_zero.mpr hsegments.ne')]
  rw [hposes, List.getLast?_map, List.getLast?_range', if_neg hsegments.ne', Option.map_some,
    Option.some.injEq, hone] at hlast
  exact hlast.symm

/-- In the open the end of an orbit does not depend on the step. -/
lemma exists_perform_orbitStep (henvelope : stage.around.envelope = none)
    (hbounds : stage.scene.bounds = none) (haxis : arc.axis = 0 ∨ arc.axis.norm = 1)
    (h : orbit.GoesAlong stage pose arc) (step : ℝ) :
    ∃ take, orbit.perform
        { stage with settings := { stage.settings with orbitStep := step } } pose = .ok take ∧
      take.pose = ⟨arc.along 1, arc.center⟩ := by
  obtain ⟨around, hcenter, hdegrees, hfactor, haround, hradius, hvec, -, hfar, hlarge⟩ := h
  -- another step cuts the same arc into other segments
  set stage' : Stage ℝ := { stage with settings := { stage.settings with orbitStep := step } }
  set arc' : Arc ℝ := { arc with segments := segmentsFor stage'.settings arc.degrees }
  have hgoes : orbit.GoesAlong stage' pose arc' :=
    ⟨around, hcenter, hdegrees, hfactor, haround, hradius, hvec, rfl, hfar, hlarge⟩
  have haxis' : arc'.axis = 0 ∨ arc'.axis.norm = 1 := haxis
  have henvelope' : stage'.around.envelope = none := henvelope
  exact ⟨_, perform_of_goesAlong hgoes,
    (Arc.take_open henvelope' hbounds haxis' (segmentsFor_pos _ _) _ _).2⟩

/-- **An orbit in the open.**

Over the reals, without an envelope and without a box, let an orbit go along an arc.  It takes as
many keyframes as steps are needed, at least one.  All of them look at the center, and they lie
evenly along the arc: the radius is turned about the axis, by equal angles, and grows or shrinks
evenly up to its factor.  No two points one after the other are more than a step apart in angle, as
seen from the center.  The axis has length one, unless the length below which a vector has no
direction is above one; then there may be none.  The orbit ends at the end of its arc, whatever the
step. -/
theorem perform_open (hsettings : stage.settings.check = .ok ())
    (henvelope : stage.around.envelope = none) (hbounds : stage.scene.bounds = none)
    (hgoes : orbit.GoesAlong stage pose arc) (h : orbit.perform stage pose = .ok take) :
    arc.segments = Nat.max 1 ⌈|arc.degrees| / stage.settings.effectiveOrbitStep⌉₊ ∧
    take.keyframes.length = arc.segments ∧
    take.keyframes.map (·.pose) =
      (List.range' 1 arc.segments).map (fun k => ⟨arc.along (k / arc.segments), arc.center⟩) ∧
    arc.along 0 = pose.position ∧
    (∀ k ≤ arc.segments, (arc.along (k / arc.segments) - arc.center).norm =
      (pose.position - arc.center).norm * (1 + (arc.radiusFactor - 1) * (k / arc.segments))) ∧
    (∀ k < arc.segments,
      Vec.angle (arc.along (k / arc.segments) - arc.center)
        (arc.along ((k + 1 : ℕ) / arc.segments) - arc.center) ≤
          Scalar.radians stage.settings.effectiveOrbitStep) ∧
    (arc.axis = 0 ∨ arc.axis.norm = 1) ∧ (stage.settings.epsilon ≤ 1 → arc.axis.norm = 1) ∧
    take.pose = ⟨arc.along 1, arc.center⟩ ∧
    ∀ step : ℝ, ∃ take', orbit.perform
        { stage with settings := { stage.settings with orbitStep := step } } pose = .ok take' ∧
      take'.pose = take.pose := by
  obtain ⟨around, -, -, hfactor, -, hradius, haxis, hsegments, hfar, -⟩ := id hgoes
  have hepsilon := Settings.epsilon_pos hsettings
  have hpositive : 0 < arc.radiusFactor := pos_of_positive hfactor
  have hlong : 0 < arc.radius.norm := hepsilon.trans_le (not_lt.mp hfar)
  have hunit : arc.axis = 0 ∨ arc.axis.norm = 1 := haxis ▸ around.vec_cases
  have hsome : 0 < arc.segments := hsegments ▸ segmentsFor_pos _ _
  obtain rfl := Except.ok.inj (h.symm.trans (perform_of_goesAlong hgoes))
  obtain ⟨hposes, hend⟩ := Arc.take_open henvelope hbounds hunit hsome pose.position
    (stage.easing orbit.easing orbit.speed)
  refine ⟨hsegments, ?_, hposes, Arc.along_zero hradius, fun k hk => ?_,
    fun k hk => Arc.angle_neighbours_le hsegments hpositive hlong hk, hunit,
    fun hle => haxis ▸ around.norm_vec hepsilon hle, hend, fun step => ?_⟩
  · have hlength := congrArg List.length hposes
    rwa [List.length_map, List.length_map, List.length_range'] at hlength
  · rw [← hradius]
    exact Arc.norm_along hpositive (Arc.fraction_mem hk).1 (Arc.fraction_mem hk).2
  · rw [hend]
    exact exists_perform_orbitStep henvelope hbounds hunit hgoes step

/-- A request for a quarter of a turn that ends at half the distance. -/
def quarter {α : Type} [Scalar α] : Orbit α := { angle := some 90.0, radiusFactor := some 0.5 }

/-- A camera in front of the origin is five units away from it. -/
lemma norm_radius_ahead : (Pose.ahead.position - Pose.ahead.target : Vec ℝ).norm = 5 :=
  (Vec.norm_sub_comm_real _ _).trans Pose.distance_ahead

/-- The arc of a quarter of a turn, for a camera in front of the origin. -/
noncomputable def Arc.quarter : Arc ℝ where
  center := Pose.ahead.target
  axis := Vec.unit .y
  radius := Pose.ahead.position - Pose.ahead.target
  degrees := 90.0
  radiusFactor := 0.5
  segments := segmentsFor .standard (90.0 : ℝ)

/-- A quarter of a turn in an empty scene takes six keyframes. -/
theorem perform_open_quarter :
    ∃ take, quarter.perform ⟨.empty, .free, .standard, 1⟩ .ahead = .ok take ∧
      take.keyframes.length = 6 ∧ take.pose = ⟨Arc.quarter.along 1, Pose.ahead.target⟩ := by
  have hgoes : quarter.GoesAlong ⟨.empty, .free, .standard, 1⟩ .ahead .quarter := by
    refine ⟨.world .y, rfl, ?_, ?_, rfl, rfl, rfl, rfl, ?_, ?_⟩
    · exact angleFor_of_angle rfl rfl (by norm_num [Arc.quarter, Settings.standard])
    · have hfactor : Scalar.isFinite (0.5 : ℝ) = true ∧ (0 : ℝ) < 0.5 := ⟨rfl, by norm_num⟩
      exact if_pos hfactor
    · have hlength : Arc.quarter.radius.norm = 5 := norm_radius_ahead
      rw [hlength]
      norm_num [Settings.standard]
    · norm_num [Arc.quarter, Settings.standard]
  have h := perform_of_goesAlong hgoes
  obtain ⟨hsegments, hlength, -, -, -, -, -, -, hend, -⟩ :=
    perform_open Settings.check_standard rfl rfl hgoes h
  refine ⟨_, h, ?_, hend⟩
  have hstep : (Settings.standard : Settings ℝ).effectiveOrbitStep = 15 := by
    norm_num [Settings.effectiveOrbitStep, Settings.standard, Settings.minOrbitStep,
      Settings.maxOrbitStep, Scalar.clamp]
  rw [hlength, hsegments, hstep]
  norm_num [Arc.quarter]

end Orbit

end Cinematics
