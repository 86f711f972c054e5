import Mathlib.Algebra.Order.Group.MinMax
import Cinematics.Proofs.Real
import Cinematics.Proofs.Correspondence

/-!
# Translated scenes

Geometry over the reals knows no origin.  When a scene, the heights of its envelope and the initial
pose are all translated by one vector, an interpretation is translated with them and keeps its
durations, its easings and its remarks (`Plan.interpret_translate`).

Every operation on boxes, envelopes and names is followed in turn: a length, a crossing or a
comparison of heights depends on differences only, and a point that comes out is moved like the
points that went in.  All of this together makes the stages correspond.
-/

namespace Cinematics

/-! ### Translated data -/

section Data

variable {α : Type} [Scalar α]

/-- The feature at a translated position. -/
def Feature.translate (f : Feature α) (v : Vec α) : Feature α := { f with position := f.position + v }

@[simp] lemma Feature.translate_id (f : Feature α) (v : Vec α) : (f.translate v).id = f.id := rfl

@[simp] lemma Feature.translate_description (f : Feature α) (v : Vec α) :
    (f.translate v).description = f.description := rfl

/-- The scene with its box and all its features translated. -/
def Scene.translate (scene : Scene α) (v : Vec α) : Scene α where
  bounds := scene.bounds.map (·.translate v)
  features := scene.features.map (·.translate v)

/-- The envelope with its heights translated.  Distances stay. -/
def Envelope.translate (e : Envelope α) (v : Vec α) : Envelope α :=
  { e with minHeight := e.minHeight + v.y, maxHeight := e.maxHeight + v.y }

/-- The surroundings with a translated envelope. -/
def Surroundings.translate (around : Surroundings α) (v : Vec α) : Surroundings α :=
  { around with envelope := around.envelope.map (·.translate v) }

/-- Whether there is an envelope does not change. -/
@[simp] lemma Surroundings.translate_envelope (around : Surroundings α) (v : Vec α) :
    (around.translate v).envelope = around.envelope.map (·.translate v) := rfl

end Data

/-! ### Points -/

namespace Vec

/-- The coordinate of a sum is the sum of the coordinates. -/
@[simp] lemma coord_add {α : Type} [Scalar α] (u v : Vec α) (axis : Axis) :
    (u + v).coord axis = u.coord axis + v.coord axis := by
  cases axis <;> rfl

/-- A coordinate is replaced before or after a translation. -/
lemma withCoord_add {α : Type} [Scalar α] (p v : Vec α) (axis : Axis) (a : α) :
    (p + v).withCoord axis (a + v.coord axis) = p.withCoord axis a + v := by
  cases axis <;> rfl

/-- The way between two points is kept by a translation. -/
lemma add_sub_add_real (p q v : Vec ℝ) : p + v - (q + v) = p - q := by
  ext
  · exact add_sub_add_right_eq_sub _ _ _
  · exact add_sub_add_right_eq_sub _ _ _
  · exact add_sub_add_right_eq_sub _ _ _

/-- A way leads from the translated point to where it led, translated. -/
lemma add_right_comm_real (p v d : Vec ℝ) : p + v + d = p + d + v := by
  ext
  · exact add_right_comm _ _ _
  · exact add_right_comm _ _ _
  · exact add_right_comm _ _ _

end Vec

/-! ### Boxes -/

namespace Box

variable (b : Box ℝ) (v : Vec ℝ)

/-- A translated box has the same extents. -/
@[simp] lemma size_translate : (b.translate v).size = b.size :=
  Vec.add_sub_add_real _ _ _

/-- A translated box has the same diagonal. -/
@[simp] lemma diagonal_translate : (b.translate v).diagonal = b.diagonal := by
  rw [diagonal, diagonal, size_translate]

/-- A translated box has the same largest extent. -/
@[simp] lemma maxExtent_translate : (b.translate v).maxExtent = b.maxExtent := by
  rw [maxExtent, maxExtent, size_translate]

/-- The camera keeps the same distance from a translated box. -/
@[simp] lemma clearance_translate : (b.translate v).clearance = b.clearance := by
  rw [clearance, clearance, diagonal_translate]

/-- It makes no difference whether a box is lifted before or after it is translated. -/
lemma lift_translate (a : ℝ) : (b.translate v).lift a = (b.lift a).translate v := by
  simp only [lift, translate, Vec.add_right_comm_real _ v]

/-- A translated box has the translated points inside. -/
@[simp] lemma containsStrictly_translate (p : Vec ℝ) :
    (b.translate v).containsStrictly (p + v) = b.containsStrictly p := by
  simp only [containsStrictly, translate, Vec.coord_add, add_lt_add_iff_right]

/-- A translated ray crosses a translated slab at the same parameters. -/
lemma slab?_translate (origin dir : Vec ℝ) (c : Crossing ℝ) (axis : Axis) :
    (b.translate v).slab? (origin + v) dir c axis = b.slab? origin dir c axis := by
  simp only [slab?, translate, Vec.coord_add, add_sub_add_right_eq_sub, add_le_add_iff_right]

/-- A translated ray crosses a translated box at the same parameters. -/
lemma crossing?_translate (origin dir : Vec ℝ) :
    (b.translate v).crossing? (origin + v) dir = b.crossing? origin dir := by
  have hslab : (b.translate v).slab? (origin + v) dir = b.slab? origin dir := by
    funext c axis
    exact b.slab?_translate v origin dir c axis
  rw [crossing?, crossing?, hslab]

/-- A translated point is as near to the faces of the translated box. -/
lemma gap_translate (p : Vec ℝ) (f : Face) : (b.translate v).gap (p + v) f = b.gap p f := by
  simp only [gap, translate, Vec.coord_add, add_sub_add_right_eq_sub]

/-- The same face of the translated box is the nearest to the translated point. -/
lemma nearestFace_translate (p : Vec ℝ) :
    (b.translate v).nearestFace (p + v) = b.nearestFace p := by
  simp only [nearestFace, gap_translate]

/-- The point beyond a face is translated with the box. -/
lemma beyond_translate (p : Vec ℝ) (distance : ℝ) (f : Face) :
    (b.translate v).beyond (p + v) distance f = b.beyond p distance f + v := by
  simp only [beyond, translate, Vec.coord_add]
  split
  · rw [add_right_comm, Vec.withCoord_add]
  · rw [add_sub_right_comm, Vec.withCoord_add]

/-- The point that a segment is stopped at is translated with the box and the segment. -/
lemma stop?_translate (start finish : Vec ℝ) :
    (b.translate v).stop? (start + v) (finish + v) = (b.stop? start finish).map (· + v) := by
  simp only [stop?, Vec.add_sub_add_real, containsStrictly_translate, crossing?_translate,
    clearance_translate]
  split
  · cases b.crossing? start (finish - start) with
    | none => rfl
    | some c =>
      simp only [bind, Option.bind]
      split
      · rw [Vec.add_right_comm_real]
        rfl
      · rfl
  · rfl

/-- A cleared end of a segment is translated with the box and the segment. -/
lemma clear_translate (start finish : Vec ℝ) :
    (b.translate v).clear (start + v) (finish + v) = b.clear start finish + v := by
  simp only [clear, stop?_translate, containsStrictly_translate, pushOut, nearestFace_translate,
    clearance_translate, beyond_translate]
  cases b.stop? start finish with
  | some p => rfl
  | none =>
    simp only [Option.map_none]
    split
    · rfl
    · rfl

end Box

/-- A landmark is translated with its box. -/
lemma Landmark.point_translate (landmark : Landmark) (b : Box ℝ) (v : Vec ℝ) :
    landmark.point (b.translate v) = landmark.point b + v := by
  cases landmark <;> rfl

/-! ### Envelopes -/

namespace Envelope

variable (e : Envelope ℝ) (v : Vec ℝ)

/-- The nearest height within the limits is translated with them. -/
lemma clampHeight_translate (p : Vec ℝ) :
    (e.translate v).clampHeight (p + v) = e.clampHeight p + v := by
  ext
  · rfl
  · simp only [clampHeight, translate, Vec.add_y, Scalar.min_real, Scalar.max_real]
    rw [max_add_add_right, min_add_add_right]
  · rfl

/-- A position brought to the nearest distance is translated with its anchor. -/
lemma clampDistance_translate (p anchor fallback : Vec ℝ) (eps : ℝ) :
    (e.translate v).clampDistance (p + v) (anchor + v) fallback eps =
      e.clampDistance p anchor fallback eps + v := by
  simp only [clampDistance, translate, Vec.add_sub_add_real]
  split
  · rfl
  · exact Vec.add_right_comm_real _ _ _

/-- A translated envelope admits the translated positions. -/
lemma admits_translate (p anchor : Vec ℝ) (tolerance : ℝ) :
    (e.translate v).admits (p + v) (anchor + v) tolerance = e.admits p anchor tolerance := by
  have hlow : e.minHeight + v.y - tolerance ≤ p.y + v.y ↔ e.minHeight - tolerance ≤ p.y := by
    rw [add_sub_right_comm, add_le_add_iff_right]
  have hhigh : p.y + v.y ≤ e.maxHeight + v.y + tolerance ↔ p.y ≤ e.maxHeight + tolerance := by
    rw [add_right_comm, add_le_add_iff_right]
  simp only [admits, translate, Vec.add_sub_add_real, Vec.add_y, hlow, hhigh]

end Envelope

/-! ### Scenes -/

namespace Scene

variable (scene : Scene ℝ) (around : Surroundings ℝ) (v : Vec ℝ)

/-- The subject of a translated scene is shown at the translated place. -/
lemma liftedBounds_translate :
    (scene.translate v).liftedBounds (around.translate v) =
      (scene.liftedBounds around).map (·.translate v) := by
  simp only [liftedBounds, translate, Option.map_map]
  cases scene.bounds with
  | none => rfl
  | some b => exact congrArg some (b.lift_translate v _)

/-- A translated scene admits the translated positions. -/
lemma isAdmissible_translate (p anchor : Vec ℝ) :
    (scene.translate v).isAdmissible (around.translate v) (p + v) (anchor + v) =
      scene.isAdmissible around p anchor := by
  simp only [isAdmissible, liftedBounds_translate, Surroundings.translate_envelope, Option.all_map,
    Envelope.admits_translate, Box.containsStrictly_translate]

/-- What a candidate settles at is translated with the scene. -/
lemma settle_translate (eps : ℝ) (start candidate anchor : Vec ℝ) :
    (scene.translate v).settle (around.translate v) eps (start + v) (candidate + v) (anchor + v) =
      scene.settle around eps start candidate anchor + v := by
  simp only [settle, liftedBounds_translate, Surroundings.translate_envelope, Vec.add_sub_add_real]
  cases around.envelope with
  | none =>
    cases scene.liftedBounds around with
    | none => rfl
    | some b => exact b.clear_translate v _ _
  | some e =>
    simp only [Option.map_some, Envelope.confine, e.clampHeight_translate,
      e.clampDistance_translate]
    cases scene.liftedBounds around with
    | none => rfl
    | some b => exact b.clear_translate v _ _

/-- Where the camera is placed is translated with the scene. -/
lemma place_translate (eps : ℝ) (start candidate anchor : Vec ℝ) :
    (scene.translate v).place (around.translate v) eps (start + v) (candidate + v) (anchor + v) =
      scene.place around eps start candidate anchor + v := by
  simp only [place, settle_translate, isAdmissible_translate]
  split
  · rfl
  · rfl

/-- The landmarks of a translated scene are the translated ones. -/
lemma landmark?_translate (key : List Char) :
    (scene.translate v).landmark? (around.translate v) key =
      (scene.landmark? around key).map (· + v) := by
  simp only [landmark?, translate, Surroundings.translate]
  cases scene.bounds with
  | none => rfl
  | some b =>
    simp only [Option.map_some, bind, Option.bind]
    cases Landmark.ofKey? key with
    | none => rfl
    | some landmark =>
      simp only [Option.map_some, Landmark.point_translate]
      rw [Vec.add_right_comm_real]

/-- The same features are found in a translated scene. -/
lemma feature?_translate (name : List Char) :
    (scene.translate v).feature? name = (scene.feature? name).map (·.translate v) := by
  simp only [feature?, translate, List.find?_map, Function.comp_def, Feature.translate_id,
    Feature.translate_description]
  cases scene.features.find? fun f => Text.sameIgnoringCase f.id.toList name with
  | some f => rfl
  | none => rfl

/-- A name stands for the translated place in a translated scene. -/
lemma locate_translate (current : Vec ℝ) (name : String) :
    (scene.translate v).locate (around.translate v) (current + v) name =
      (scene.locate around current name).map (· + v) := by
  simp only [locate, landmark?_translate, feature?_translate]
  split
  · rfl
  · split
    · rfl
    · cases scene.landmark? around (Text.slug name.toList) with
      | some p => rfl
      | none => cases scene.feature? (Text.trim name.toList) <;> rfl

variable {scene v} {scene' : Scene ℝ}

/-- A subject whose box is translated has the same size. -/
lemma size_of_bounds (h : scene'.bounds = scene.bounds.map (·.translate v)) :
    scene'.size = scene.size := by
  simp only [size, h]
  cases scene.bounds with
  | none => rfl
  | some b => simp only [Option.map_some, Box.maxExtent_translate]

/-- Travel about a subject whose box is translated is measured by the same distance. -/
lemma travelBase_of_bounds (h : scene'.bounds = scene.bounds.map (·.translate v)) (kind : MoveKind)
    (distance : ℝ) :
    Amount.travelBase kind scene' distance = Amount.travelBase kind scene distance := by
  simp only [Amount.travelBase, size_of_bounds h, h]
  cases scene.bounds with
  | none => cases kind <;> rfl
  | some b => cases kind <;> simp only [Option.map_some, Box.size_translate, Box.diagonal_translate]

end Scene

/-- A slide in a translated scene leads to the translated place. -/
lemma Slide.candidate_translate (scene : Scene ℝ) (around : Surroundings ℝ) (settings : Settings ℝ)
    (duration : ℝ) (v : Vec ℝ) (pose : Pose ℝ) (axis : Vec ℝ) (travel : ℝ) :
    candidate ⟨scene.translate v, around.translate v, settings, duration⟩ (pose.map (· + v)) axis
        travel =
      candidate ⟨scene, around, settings, duration⟩ pose axis travel + v := by
  simp only [candidate, Surroundings.translate_envelope, Pose.map_position, Vec.add_right_comm_real _ v]
  cases around.envelope with
  | none => rfl
  | some e => exact e.clampHeight_translate v _

/-- The stages of a translated scene correspond to those of the scene. -/
lemma Stage.corresponds_translate (scene : Scene ℝ) (around : Surroundings ℝ)
    (settings : Settings ℝ) (v : Vec ℝ) (duration : ℝ) :
    Stage.Corresponds (· + v) ⟨scene, around, settings, duration⟩
      ⟨scene.translate v, around.translate v, settings, duration⟩ where
  sub_eq p q := Vec.add_sub_add_real p q v
  add_eq p d := Vec.add_right_comm_real p v d
  isFinite_eq _ := rfl
  settings_eq := rfl
  size_eq := Scene.size_of_bounds rfl
  travelBase_eq := Scene.travelBase_of_bounds rfl
  clampFactor_eq _ _ := by
    simp only [Amount.clampFactor, Surroundings.translate_envelope]
    cases around.envelope with
    | none => rfl
    | some e => rfl
  locate_eq := scene.locate_translate around v
  place_eq := scene.place_translate around v settings.epsilon
  candidate_eq := Slide.candidate_translate scene around settings duration v

/-- **Interpretations are translated with their scenes.**

Over the reals, a plan is interpreted in a translated scene, with the heights of the envelope and
the initial pose translated alike, exactly when it is in the scene itself.  Every keyframe and the
final pose are then translated by the same vector, and durations, easings, remarks and refusals are
the same. -/
theorem Plan.interpret_translate (plan : Plan ℝ) (scene : Scene ℝ) (around : Surroundings ℝ)
    (settings : Settings ℝ) (initial : Pose ℝ) (v : Vec ℝ) :
    plan.interpret (scene.translate v) (around.translate v) settings (initial.map (· + v)) =
      (plan.interpret scene around settings initial).map (Interpretation.map (· + v)) :=
  interpret_map (Stage.corresponds_translate scene around settings v) plan initial

end Cinematics
