import Cinematics.Proofs.Real
import Cinematics.Document.Interpretation
import Cinematics.Document.Plan
import Cinematics.Proofs.Records
import Cinematics.Proofs.Rendering

/-!
# Documents are read as they were written

Everything that is kept in a document is read back as it was written (`Json.round_trips`): plans and
their steps and moves, scenes and what surrounds them, poses and keyframes, and what comes of a
plan.  For each of these there is a list of its scalars, which is all that a document could lose,
and a lemma that reads its JSON value field by field.  The text of that value is read by
`Json.parse?_toText`.
-/

namespace Cinematics

open Json (scalar?_ofScalar list?_map fields?_ofMembers)
open Numeric (Writable)

/-! ### Names

Values are found by their names, since no two of a kind have the same. -/

lemma MoveKind.distinct : Named.Distinct MoveKind := by
  intro kind
  cases kind <;> rfl

lemma Easing.distinct : Named.Distinct Easing := by
  intro easing
  cases easing <;> rfl

lemma DiagnosticKind.distinct : Named.Distinct DiagnosticKind := by
  intro kind
  cases kind <;> rfl

/-! ### Scenes and poses

Each record is read as it was written, field by field and in the order of its declaration: the first
line of a proof gives the fields, and every further line reads one. -/

section Scenes

variable {α : Type}

/-- The scalars of a vector. -/
def Vec.scalars (v : Vec α) : List α := [v.x, v.y, v.z]

/-- The scalars of a box. -/
def Box.scalars (b : Box α) : List α := b.low.scalars ++ (b.high.scalars ++ b.center.scalars)

/-- The scalars of a scene. -/
def Scene.scalars (s : Scene α) : List α :=
  s.bounds.toList.flatMap Box.scalars ++ s.features.flatMap fun p => p.position.scalars

/-- The scalars of an envelope. -/
def Envelope.scalars (e : Envelope α) : List α :=
  [e.minDistance, e.maxDistance, e.minHeight, e.maxHeight]

/-- The scalars of surroundings. -/
def Surroundings.scalars (s : Surroundings α) : List α :=
  s.envelope.toList.flatMap Envelope.scalars ++ [s.lift]

/-- The scalars of a pose. -/
def Pose.scalars (p : Pose α) : List α := p.position.scalars ++ p.target.scalars

/-- The scalars of a keyframe. -/
def Keyframe.scalars (k : Keyframe α) : List α := k.pose.scalars ++ [k.duration]

variable [Scalar α] [Numeric α]

lemma Vec.ofJson?_toJson {v : Vec α} (h : Writable v.scalars) : Vec.ofJson? v.toJson = some v := by
  simp only [Vec.toJson, Vec.ofJson?, Option.bind_eq_bind, Option.bind_eq_some_iff]
  exact ⟨v.x, scalar?_ofScalar h (by simp [scalars]), v.y, scalar?_ofScalar h (by simp [scalars]),
    v.z, scalar?_ofScalar h (by simp [scalars]), rfl⟩

lemma Box.ofJson?_toJson {b : Box α} (h : Writable b.scalars) : Box.ofJson? b.toJson = some b := by
  simp only [Box.toJson, Box.ofJson?, Option.bind_eq_bind, Option.bind_eq_some_iff]
  exact ⟨_, fields?_ofMembers rfl (by decide),
    b.low, Fields.need_of rfl (Vec.ofJson?_toJson h.left),
    b.high, Fields.need_of rfl (Vec.ofJson?_toJson h.right.left),
    b.center, Fields.need_of rfl (Vec.ofJson?_toJson h.right.right), rfl⟩

lemma Feature.ofJson?_toJson {p : Feature α} (h : Writable p.position.scalars) :
    Feature.ofJson? p.toJson = some p := by
  simp only [Feature.toJson, Feature.ofJson?, Option.bind_eq_bind, Option.bind_eq_some_iff]
  exact ⟨_, fields?_ofMembers rfl (by decide),
    p.id, Fields.need_of rfl rfl,
    p.description, Fields.getD_of rfl rfl,
    p.position, Fields.need_of rfl (Vec.ofJson?_toJson h), rfl⟩

lemma Scene.ofJson?_toJson {s : Scene α} (h : Writable s.scalars) :
    Scene.ofJson? s.toJson = some s := by
  have hbounds : ∀ b ∈ s.bounds, Box.ofJson? b.toJson = some b :=
    fun b hb => Box.ofJson?_toJson (h.left.of_mem (Option.mem_toList.mpr hb))
  have hfeatures : ∀ p ∈ s.features, Feature.ofJson? p.toJson = some p :=
    fun p hp => Feature.ofJson?_toJson (h.right.of_mem hp)
  simp only [Scene.toJson, Scene.ofJson?, Option.bind_eq_bind, Option.bind_eq_some_iff]
  exact ⟨_, fields?_ofMembers rfl (by decide),
    s.bounds, Fields.optional_of rfl (fun _ hnull => nomatch hnull) hbounds,
    s.features, Fields.getD_of rfl (list?_map hfeatures), rfl⟩

lemma Envelope.ofJson?_toJson {e : Envelope α} (h : Writable e.scalars) :
    Envelope.ofJson? e.toJson = some e := by
  simp only [Envelope.toJson, Envelope.ofJson?, Option.bind_eq_bind, Option.bind_eq_some_iff]
  exact ⟨_, fields?_ofMembers rfl (by decide),
    e.minDistance, Fields.need_of rfl (scalar?_ofScalar h (by simp [scalars])),
    e.maxDistance, Fields.need_of rfl (scalar?_ofScalar h (by simp [scalars])),
    e.minHeight, Fields.need_of rfl (scalar?_ofScalar h (by simp [scalars])),
    e.maxHeight, Fields.need_of rfl (scalar?_ofScalar h (by simp [scalars])), rfl⟩

lemma Surroundings.ofJson?_toJson {s : Surroundings α} (h : Writable s.scalars) :
    Surroundings.ofJson? s.toJson = some s := by
  have henvelope : ∀ e ∈ s.envelope, Envelope.ofJson? e.toJson = some e :=
    fun e he => Envelope.ofJson?_toJson (h.left.of_mem (Option.mem_toList.mpr he))
  simp only [Surroundings.toJson, Surroundings.ofJson?, Option.bind_eq_bind,
    Option.bind_eq_some_iff]
  exact ⟨_, fields?_ofMembers rfl (by decide),
    s.envelope, Fields.optional_of rfl (fun _ hnull => nomatch hnull) henvelope,
    s.lift, Fields.getD_of rfl (scalar?_ofScalar h.right (List.mem_singleton.mpr rfl)), rfl⟩

lemma Pose.ofJson?_toJson {p : Pose α} (h : Writable p.scalars) :
    Pose.ofJson? p.toJson = some p := by
  simp only [Pose.toJson, Pose.ofJson?, Option.bind_eq_bind, Option.bind_eq_some_iff]
  exact ⟨_, fields?_ofMembers rfl (by decide),
    p.position, Fields.need_of rfl (Vec.ofJson?_toJson h.left),
    p.target, Fields.need_of rfl (Vec.ofJson?_toJson h.right), rfl⟩

lemma Keyframe.ofJson?_toJson {k : Keyframe α} (h : Writable k.scalars) :
    Keyframe.ofJson? k.toJson = some k := by
  simp only [Keyframe.toJson, Keyframe.ofJson?, Option.bind_eq_bind, Option.bind_eq_some_iff]
  exact ⟨_, fields?_ofMembers rfl (by decide),
    k.pose.position, Fields.need_of rfl (Vec.ofJson?_toJson h.left.left),
    k.pose.target, Fields.need_of rfl (Vec.ofJson?_toJson h.left.right),
    k.duration, Fields.need_of rfl (scalar?_ofScalar h.right (List.mem_singleton.mpr rfl)),
    k.easing, Fields.need_of rfl (Json.named?_ofNamed Easing.distinct k.easing), rfl⟩

end Scenes

/-! ### Moves

Requests are records of words and numbers that may be absent. -/

section Moves

lemma Hold.ofJson?_toJson (r : Hold) : Hold.ofJson? r.toJson = some r := by
  simp only [Hold.toJson, Hold.ofJson?, Option.bind_eq_bind, Option.bind_eq_some_iff]
  exact ⟨_, fields?_ofMembers rfl (by decide), r.speed, Fields.word_of rfl, rfl⟩

lemma Relocation.ofJson?_toJson (r : Relocation) : Relocation.ofJson? r.toJson = some r := by
  simp only [Relocation.toJson, Relocation.ofJson?, Option.bind_eq_bind, Option.bind_eq_some_iff]
  exact ⟨_, fields?_ofMembers rfl (by decide),
    r.target, Fields.word_of rfl,
    r.lookAt, Fields.word_of rfl,
    r.distanceDescriptor, Fields.word_of rfl,
    r.speed, Fields.word_of rfl,
    r.easing, Fields.word_of rfl, rfl⟩

lemma Refocus.ofJson?_toJson (r : Refocus) : Refocus.ofJson? r.toJson = some r := by
  simp only [Refocus.toJson, Refocus.ofJson?, Option.bind_eq_bind, Option.bind_eq_some_iff]
  exact ⟨_, fields?_ofMembers rfl (by decide),
    r.target, Fields.word_of rfl,
    r.adjustFraming, Fields.optional_of rfl (fun _ hnull => nomatch hnull) fun _ _ => rfl,
    r.speed, Fields.word_of rfl,
    r.easing, Fields.word_of rfl, rfl⟩

variable {α : Type} [Scalar α] [Numeric α]

lemma Zoom.ofJson?_toJson {r : Zoom α} (h : Writable r.factor.toList) :
    Zoom.ofJson? r.toJson = some r := by
  simp only [Zoom.toJson, Zoom.ofJson?, Option.bind_eq_bind, Option.bind_eq_some_iff]
  exact ⟨_, fields?_ofMembers rfl (by decide),
    r.direction, Fields.word_of rfl,
    r.factor, Fields.number_of rfl h,
    r.factorDescriptor, Fields.word_of rfl,
    r.targetDistanceDescriptor, Fields.word_of rfl,
    r.speed, Fields.word_of rfl,
    r.easing, Fields.word_of rfl, rfl⟩

lemma Dolly.ofJson?_toJson {r : Dolly α} (h : Writable r.distance.toList) :
    Dolly.ofJson? r.toJson = some r := by
  simp only [Dolly.toJson, Dolly.ofJson?, Option.bind_eq_bind, Option.bind_eq_some_iff]
  exact ⟨_, fields?_ofMembers rfl (by decide),
    r.direction, Fields.word_of rfl,
    r.distance, Fields.number_of rfl h,
    r.distanceDescriptor, Fields.word_of rfl,
    r.destinationTarget, Fields.word_of rfl,
    r.targetDistanceDescriptor, Fields.word_of rfl,
    r.speed, Fields.word_of rfl,
    r.easing, Fields.word_of rfl, rfl⟩

lemma Slide.ofJson?_toJson {r : Slide α} (h : Writable r.distance.toList) :
    Slide.ofJson? r.toJson = some r := by
  simp only [Slide.toJson, Slide.ofJson?, Option.bind_eq_bind, Option.bind_eq_some_iff]
  exact ⟨_, fields?_ofMembers rfl (by decide),
    r.direction, Fields.word_of rfl,
    r.distance, Fields.number_of rfl h,
    r.distanceDescriptor, Fields.word_of rfl,
    r.destinationTarget, Fields.word_of rfl,
    r.speed, Fields.word_of rfl,
    r.easing, Fields.word_of rfl, rfl⟩

lemma Orbit.ofJson?_toJson {r : Orbit α}
    (h : Writable (r.angle.toList ++ r.radiusFactor.toList)) :
    Orbit.ofJson? r.toJson = some r := by
  simp only [Orbit.toJson, Orbit.ofJson?, Option.bind_eq_bind, Option.bind_eq_some_iff]
  exact ⟨_, fields?_ofMembers rfl (by decide),
    r.direction, Fields.word_of rfl,
    r.angle, Fields.number_of rfl h.left,
    r.angleDescriptor, Fields.word_of rfl,
    r.axis, Fields.word_of rfl,
    r.target, Fields.word_of rfl,
    r.radiusFactor, Fields.number_of rfl h.right,
    r.speed, Fields.word_of rfl,
    r.easing, Fields.word_of rfl, rfl⟩

lemma Turn.ofJson?_toJson {r : Turn α} (h : Writable r.angle.toList) :
    Turn.ofJson? r.toJson = some r := by
  simp only [Turn.toJson, Turn.ofJson?, Option.bind_eq_bind, Option.bind_eq_some_iff]
  exact ⟨_, fields?_ofMembers rfl (by decide),
    r.direction, Fields.word_of rfl,
    r.angle, Fields.number_of rfl h,
    r.angleDescriptor, Fields.word_of rfl,
    r.axis, Fields.word_of rfl,
    r.target, Fields.word_of rfl,
    r.speed, Fields.word_of rfl,
    r.easing, Fields.word_of rfl, rfl⟩

namespace Move

omit [Scalar α] [Numeric α] in
/-- The scalars of a move. -/
def scalars : Move α → List α
  | .hold _ => []
  | .zoom r => r.factor.toList
  | .orbit r => r.angle.toList ++ r.radiusFactor.toList
  | .pan r => r.angle.toList
  | .tilt r => r.angle.toList
  | .dolly r => r.distance.toList
  | .truck r => r.distance.toList
  | .pedestal r => r.distance.toList
  | .moveTo _ => []
  | .focusOn _ => []
  | .rotate r => r.angle.toList

/-- The parameters of a move are read as they were written, once its kind is known. -/
lemma ofParameters?_parameters {m : Move α} (h : Writable m.scalars) :
    ofParameters? m.kind m.parameters = some m := by
  cases m with
  | hold r => exact congrArg (Option.map _) (Hold.ofJson?_toJson r)
  | zoom r => exact congrArg (Option.map _) (Zoom.ofJson?_toJson h)
  | orbit r => exact congrArg (Option.map _) (Orbit.ofJson?_toJson h)
  | pan r => exact congrArg (Option.map _) (Turn.ofJson?_toJson h)
  | tilt r => exact congrArg (Option.map _) (Turn.ofJson?_toJson h)
  | dolly r => exact congrArg (Option.map _) (Dolly.ofJson?_toJson h)
  | truck r => exact congrArg (Option.map _) (Slide.ofJson?_toJson h)
  | pedestal r => exact congrArg (Option.map _) (Slide.ofJson?_toJson h)
  | moveTo r => exact congrArg (Option.map _) (Relocation.ofJson?_toJson r)
  | focusOn r => exact congrArg (Option.map _) (Refocus.ofJson?_toJson r)
  | rotate r => exact congrArg (Option.map _) (Turn.ofJson?_toJson h)

open Json (fits_ofMembers fits_ofWord fits_ofNumber fits_ofOption) in
/-- The parameters of a move can be kept until its kind is known. -/
lemma fits_parameters {m : Move α} (h : Writable m.scalars) : Json.Fits α 1 m.parameters := by
  have hbool (o : Option Bool) : Json.Fits α 0 (.ofOption .bool o) :=
    fits_ofOption fun _ _ => ⟨le_rfl, rfl⟩
  cases m with
  | hold r => exact fits_ofMembers (by simp [fits_ofWord])
  | zoom r => exact fits_ofMembers (by simp [fits_ofWord, fits_ofNumber h])
  | orbit r =>
    exact fits_ofMembers (by simp [fits_ofWord, fits_ofNumber h.left, fits_ofNumber h.right])
  | pan r => exact fits_ofMembers (by simp [fits_ofWord, fits_ofNumber h])
  | tilt r => exact fits_ofMembers (by simp [fits_ofWord, fits_ofNumber h])
  | dolly r => exact fits_ofMembers (by simp [fits_ofWord, fits_ofNumber h])
  | truck r => exact fits_ofMembers (by simp [fits_ofWord, fits_ofNumber h])
  | pedestal r => exact fits_ofMembers (by simp [fits_ofWord, fits_ofNumber h])
  | moveTo r => exact fits_ofMembers (by simp [fits_ofWord])
  | focusOn r => exact fits_ofMembers (by simp [fits_ofWord, hbool])
  | rotate r => exact fits_ofMembers (by simp [fits_ofWord, fits_ofNumber h])

/-- A move is read as it was written.  Its type stands in front, so nothing has to be kept. -/
lemma ofJson?_toJson {m : Move α} (h : Writable m.scalars) : Move.ofJson? m.toJson = some m := by
  have htype : isTypeLast (Json.spelled m.members) = false := rfl
  rw [toJson, Json.ofMembers_eq, ofJson?]
  simp only [Option.bind_eq_bind, Option.bind_eq_some_iff, htype, Bool.false_and,
    Bool.false_eq_true, if_false]
  exact ⟨_, fields?_ofMembers rfl (by decide),
    m.kind, Fields.need_of rfl (Json.named?_ofNamed MoveKind.distinct m.kind),
    m.parameters, rfl, ofParameters?_parameters h⟩

end Move

end Moves

/-! ### Plans -/

section Plans

variable {α : Type}

/-- The scalars of a step. -/
def Step.scalars (s : Step α) : List α := s.move.scalars ++ [s.ratio]

/-- The scalars of a plan. -/
def Plan.scalars (p : Plan α) : List α := p.steps.flatMap Step.scalars ++ [p.duration]

variable [Scalar α] [Numeric α]

/-- A step is read as it was written, if not too much is open around it.  All of it can be kept
until its type is known. -/
lemma Step.ofJson?_toJson {s : Step α} {enclosing : ℕ} (h : Writable s.scalars)
    (hopen : enclosing + 1 ≤ Move.depthLimit) : Step.ofJson? enclosing s.toJson = some s := by
  have hratio : s.ratio ∈ s.scalars := List.mem_append_right _ (List.mem_singleton.mpr rfl)
  have hkept : (Json.spelled (s.move.members ++ [("duration_ratio", Json.ofScalar s.ratio)])).all
      (fun m => Move.isKeepable α enclosing m.2) = true := by
    -- the type and the ratio are no deeper than the step itself, the parameters are by one
    have hleaf : enclosing + 0 ≤ Move.depthLimit := by omega
    simp only [Json.spelled, Move.members, List.cons_append, List.nil_append, List.map_cons,
      List.map_nil, List.all_cons, List.all_nil, Json.ofNamed, (Json.fits_text _).isKeepable hleaf,
      (Move.fits_parameters h.left).isKeepable hopen,
      (Json.fits_ofScalar h hratio).isKeepable hleaf, Bool.and_self]
  rw [toJson, Json.ofMembers_eq, ofJson?]
  simp only [Option.bind_eq_bind, Option.bind_eq_some_iff, hkept, if_true]
  exact ⟨_, fields?_ofMembers rfl (by decide),
    s.move.kind, Fields.need_of rfl (Json.keptNamed?_ofNamed MoveKind.distinct s.move.kind),
    s.move, Fields.need_of rfl (Move.ofParameters?_parameters h.left),
    s.ratio, Fields.need_of rfl (scalar?_ofScalar h hratio), rfl⟩

/-- A plan is read as it was written. -/
lemma Plan.ofJson?_toJson {p : Plan α} (h : Writable p.scalars) :
    Plan.ofJson? p.toJson = some p := by
  have hsteps : ∀ s ∈ p.steps, Step.ofJson? 3 s.toJson = some s :=
    fun s hs => Step.ofJson?_toJson (h.left.of_mem hs) (by decide)
  have hmetadata : Plan.metadata? (Plan.metadata p.duration) = some p.duration := by
    simp only [metadata, metadata?, Option.bind_eq_bind, Option.bind_eq_some_iff]
    exact ⟨_, fields?_ofMembers rfl (by decide),
      Fields.need_of rfl (scalar?_ofScalar h.right (List.mem_singleton.mpr rfl))⟩
  simp only [Plan.toJson, Plan.ofJson?, Option.bind_eq_bind, Option.bind_eq_some_iff]
  exact ⟨_, fields?_ofMembers rfl (by decide),
    p.steps, Fields.need_of rfl (list?_map hsteps),
    p.duration, Fields.need_of rfl hmetadata, rfl⟩

end Plans

/-! ### Results -/

section Results

/-- A remark is read as it was written, if the number of its step has at most 64 bits. -/
lemma Diagnostic.ofJson?_toJson {d : Diagnostic} (h : d.step < UInt64.size) :
    Diagnostic.ofJson? d.toJson = some d := by
  simp only [Diagnostic.toJson, Diagnostic.ofJson?, Option.bind_eq_bind, Option.bind_eq_some_iff]
  exact ⟨_, fields?_ofMembers rfl (by decide),
    d.step, Fields.need_of rfl (Json.index?_ofNat h),
    d.move, Fields.need_of rfl (Json.named?_ofNamed MoveKind.distinct d.move),
    d.kind, Fields.need_of rfl (Json.named?_ofNamed DiagnosticKind.distinct d.kind),
    d.message, Fields.need_of rfl rfl, rfl⟩

/-- A report is read as it was written. -/
lemma Report.ofJson?_toJson (r : Report) : Report.ofJson? r.toJson = some r := by
  simp only [Report.toJson, Report.ofJson?, Option.bind_eq_bind, Option.bind_eq_some_iff]
  exact ⟨_, fields?_ofMembers rfl (by decide),
    r.isValid, Fields.need_of rfl rfl,
    r.errors, Fields.need_of rfl (list?_map fun _ _ => rfl),
    r.warnings, Fields.need_of rfl (list?_map fun _ _ => rfl), rfl⟩

variable {α : Type}

/-- The scalars of an interpretation. -/
def Interpretation.scalars (i : Interpretation α) : List α :=
  i.keyframes.flatMap Keyframe.scalars ++ (i.finalPose.scalars ++ i.stepDurations)

variable [Scalar α] [Numeric α]

/-- An interpretation is read as it was written, if the numbers of its steps have at most 64
bits. -/
lemma Interpretation.ofJson?_toJson {i : Interpretation α} (h : Writable i.scalars)
    (hsteps : ∀ d ∈ i.diagnostics, d.step < UInt64.size) :
    Interpretation.ofJson? i.toJson = some i := by
  have hkeyframes : ∀ k ∈ i.keyframes, Keyframe.ofJson? k.toJson = some k :=
    fun k hk => Keyframe.ofJson?_toJson (h.left.of_mem hk)
  have hdurations : ∀ x ∈ i.stepDurations, Json.scalar? (Json.ofScalar x) = some x :=
    fun x hx => scalar?_ofScalar h.right.right hx
  have hdiagnostics : ∀ d ∈ i.diagnostics, Diagnostic.ofJson? d.toJson = some d :=
    fun d hd => Diagnostic.ofJson?_toJson (hsteps d hd)
  simp only [Interpretation.toJson, Interpretation.ofJson?, Option.bind_eq_bind,
    Option.bind_eq_some_iff]
  exact ⟨_, fields?_ofMembers rfl (by decide),
    i.keyframes, Fields.need_of rfl (list?_map hkeyframes),
    i.finalPose, Fields.need_of rfl (Pose.ofJson?_toJson h.right.left),
    i.stepDurations, Fields.need_of rfl (list?_map hdurations),
    i.diagnostics, Fields.need_of rfl (list?_map hdiagnostics), rfl⟩

end Results

/-! ### Texts -/

namespace Json

/-- Whether a value is read from its text as it was written. -/
def RoundTrips {β : Type} (toJson : β → Json) (read? : Json → Option β) (b : β) : Prop :=
  (parse? (toJson b).toText.toList).bind read? = some b

/-- A value is read from its text if it is read from its JSON value. -/
lemma roundTrips_of {β : Type} {toJson : β → Json} {read? : Json → Option β} {b : β}
    (h : read? (toJson b) = some b) : RoundTrips toJson read? b := by
  rw [RoundTrips, parse?_toText, Option.bind_some, h]

variable {α : Type} [Scalar α] [Numeric α]

/-- **What has been written is read back as the same value**, for everything that documents hold:
plans, steps, moves, scenes, surroundings, envelopes, boxes, poses, lists of keyframes, remarks,
reports and interpretations.  All scalars have to be ordinary numbers, and each is assumed to be
written so that it reads back; the number of a step has 64 bits. -/
theorem round_trips :
    (∀ p : Plan α, Writable p.scalars → RoundTrips Plan.toJson Plan.ofJson? p) ∧
    (∀ s : Step α, Writable s.scalars → RoundTrips Step.toJson (Step.ofJson? 1) s) ∧
    (∀ m : Move α, Writable m.scalars → RoundTrips Move.toJson Move.ofJson? m) ∧
    (∀ s : Scene α, Writable s.scalars → RoundTrips Scene.toJson Scene.ofJson? s) ∧
    (∀ s : Surroundings α, Writable s.scalars →
      RoundTrips Surroundings.toJson Surroundings.ofJson? s) ∧
    (∀ e : Envelope α, Writable e.scalars → RoundTrips Envelope.toJson Envelope.ofJson? e) ∧
    (∀ b : Box α, Writable b.scalars → RoundTrips Box.toJson Box.ofJson? b) ∧
    (∀ p : Pose α, Writable p.scalars → RoundTrips Pose.toJson Pose.ofJson? p) ∧
    (∀ ks : List (Keyframe α), Writable (ks.flatMap Keyframe.scalars) →
      RoundTrips (fun ks => .array (ks.map Keyframe.toJson)) (list? Keyframe.ofJson?) ks) ∧
    (∀ d : Diagnostic, d.step < UInt64.size →
      RoundTrips Diagnostic.toJson Diagnostic.ofJson? d) ∧
    (∀ r : Report, RoundTrips Report.toJson Report.ofJson? r) ∧
    ∀ i : Interpretation α, Writable i.scalars → (∀ d ∈ i.diagnostics, d.step < UInt64.size) →
      RoundTrips Interpretation.toJson Interpretation.ofJson? i := by
  refine ⟨fun p h => ?_, fun s h => ?_, fun m h => ?_, fun s h => ?_, fun s h => ?_, fun e h => ?_,
    fun b h => ?_, fun p h => ?_, fun ks h => ?_, fun d h => ?_, fun r => ?_, fun i h hsteps => ?_⟩
  · exact roundTrips_of (Plan.ofJson?_toJson h)
  · exact roundTrips_of (Step.ofJson?_toJson h (by decide))
  · exact roundTrips_of (Move.ofJson?_toJson h)
  · exact roundTrips_of (Scene.ofJson?_toJson h)
  · exact roundTrips_of (Surroundings.ofJson?_toJson h)
  · exact roundTrips_of (Envelope.ofJson?_toJson h)
  · exact roundTrips_of (Box.ofJson?_toJson h)
  · exact roundTrips_of (Pose.ofJson?_toJson h)
  · exact roundTrips_of (list?_map fun k hk => Keyframe.ofJson?_toJson (h.of_mem hk))
  · exact roundTrips_of (Diagnostic.ofJson?_toJson h)
  · exact roundTrips_of (Report.ofJson?_toJson r)
  · exact roundTrips_of (Interpretation.ofJson?_toJson h hsteps)

end Json

/-! ### Documents over the reals -/

/-- The value of a numeral. -/
noncomputable def Numeral.toReal (n : Numeral) : ℝ :=
  (if n.negative then -1 else 1) * n.mantissa / (Decimal.unit n.places : ℕ) *
    (10 : ℕ) ^ n.exponent.getD 0

/-- Reals in documents are decimals.  Texts in the free form that spell no number count as zero. -/
noncomputable instance : Numeric ℝ where
  ofNumeral := Numeral.toReal
  ofLiteral
    | .numeral n => n.toReal
    | .infinite _ => 0
    | .notANumber => 0
  numeral? x := some (.ofReal 17 x)

/-- A decimal of no more places than are written is written so that it reads back. -/
lemma Numeric.faithful_of_mul_eq {x : ℝ} {z : ℤ} (h : x * 10 ^ 17 = z) : Faithful x := by
  have hunit : ((Decimal.unit 17 : ℕ) : ℝ) = 10 ^ 17 := by norm_num [Decimal.unit]
  have hpos : (0 : ℝ) < 10 ^ 17 := by positivity
  have hmantissa : ((round (|x| * 10 ^ 17)).toNat : ℝ) = |x| * 10 ^ 17 := by
    have habs : |x| * 10 ^ 17 = ((|z| : ℤ) : ℝ) := by
      rw [Int.cast_abs, ← h, abs_mul, abs_of_pos hpos]
    rw [habs, round_intCast]
    exact_mod_cast Int.toNat_of_nonneg (abs_nonneg z)
  have hsign : (if decide (x < 0) = true then (-1 : ℝ) else 1) * |x| = x := by
    by_cases hx : x < 0
    · rw [if_pos (decide_eq_true hx), abs_of_neg hx]
      ring
    · rw [if_neg (by simpa using hx), abs_of_nonneg (not_lt.mp hx), one_mul]
  have hvalue : (Numeral.ofReal 17 x).toReal = x := by
    have hopen : (Numeral.ofReal 17 x).toReal = (if decide (x < 0) = true then (-1 : ℝ) else 1) *
        ((round (|x| * 10 ^ 17)).toNat : ℝ) / (Decimal.unit 17 : ℕ) * (10 : ℕ) ^ (0 : ℤ) := rfl
    rw [hopen, hmantissa, hunit, zpow_zero, mul_one, ← mul_assoc, hsign, mul_div_assoc,
      div_self hpos.ne', mul_one]
  exact fun _ => ⟨.ofReal 17 x, rfl, congrArg some hvalue⟩

section Beside

variable {α : Type} [Scalar α]

/-- A box beside the origin. -/
def Box.beside : Box α := ⟨⟨0.5, 0.5, 0.5⟩, ⟨2.5, 2.5, 2.5⟩, ⟨1.5, 1.5, 1.5⟩⟩

/-- A scene with a quoted name and a description of two lines. -/
def Scene.beside : Scene α :=
  ⟨some .beside, [⟨"the \"door\"", "to the left\nor behind", ⟨0.5, 1.5, 2.5⟩⟩]⟩

/-- An envelope around the box. -/
def Envelope.beside : Envelope α := ⟨0.5, 2.5, 0.5, 1.5⟩

/-- Surroundings with an envelope. -/
def Surroundings.beside : Surroundings α := ⟨some .beside, 0.5⟩

/-- A pose that looks at a corner of the box. -/
def Pose.beside : Pose α := ⟨⟨2.5, 0.5, 2.5⟩, ⟨0.5, 0.5, 0.5⟩⟩

/-- A keyframe that looks at a corner of the box. -/
def Keyframe.beside : Keyframe α := ⟨.beside, 1.5, .inOutQuad⟩

/-- A narrowing arc around the door. -/
def Move.aroundDoor : Move α :=
  .orbit { angle := some 2.5, target := some "the \"door\"", radiusFactor := some 0.5 }

/-- A step of half the time around the door. -/
def Step.aroundDoor : Step α := ⟨.aroundDoor, 0.5⟩

/-- A plan of one arc. -/
def Plan.aroundDoor : Plan α := ⟨[.aroundDoor], 1.5⟩

/-- A remark about an arc. -/
def Diagnostic.aroundDoor : Diagnostic := ⟨0, .orbit, .unsupported, "the path a\\b is\tclosed"⟩

/-- An interpretation with a remark. -/
def Interpretation.aroundDoor : Interpretation α := ⟨[.beside], .beside, [1.5], [.aroundDoor]⟩

end Beside

namespace Json

/-- Documents over the reals, with quotes, line breaks, tabulators and backslashes in their texts,
are read as they were written. -/
theorem round_trips_beside :
    RoundTrips Plan.toJson Plan.ofJson? (.aroundDoor : Plan ℝ) ∧
    RoundTrips Step.toJson (Step.ofJson? 1) (.aroundDoor : Step ℝ) ∧
    RoundTrips Move.toJson Move.ofJson? (.aroundDoor : Move ℝ) ∧
    RoundTrips Scene.toJson Scene.ofJson? (.beside : Scene ℝ) ∧
    RoundTrips Surroundings.toJson Surroundings.ofJson? (.beside : Surroundings ℝ) ∧
    RoundTrips Envelope.toJson Envelope.ofJson? (.beside : Envelope ℝ) ∧
    RoundTrips Box.toJson Box.ofJson? (.beside : Box ℝ) ∧
    RoundTrips Pose.toJson Pose.ofJson? (.beside : Pose ℝ) ∧
    RoundTrips (fun ks => .array (ks.map Keyframe.toJson)) (list? Keyframe.ofJson?)
      [(.beside : Keyframe ℝ)] ∧
    RoundTrips Diagnostic.toJson Diagnostic.ofJson? .aroundDoor ∧
    RoundTrips Report.toJson Report.ofJson? (.failure "below\n\"zero\"") ∧
    RoundTrips Interpretation.toJson Interpretation.ofJson? (.aroundDoor : Interpretation ℝ) := by
  have hall : Writable [(0.5 : ℝ), 1.5, 2.5] := by
    refine ⟨fun _ _ => rfl, ?_⟩
    simp only [List.forall_mem_cons]
    refine ⟨?_, ?_, ?_, List.forall_mem_nil _⟩
    · exact Numeric.faithful_of_mul_eq (z := 50000000000000000) (by norm_num)
    · exact Numeric.faithful_of_mul_eq (z := 150000000000000000) (by norm_num)
    · exact Numeric.faithful_of_mul_eq (z := 250000000000000000) (by norm_num)
  obtain ⟨hplan, hstep, hmove, hscene, haround, henvelope, hbox, hpose, hkeyframes, hremark,
    hreport, hinterpretation⟩ := round_trips (α := ℝ)
  refine ⟨hplan _ (hall.mono ?_), hstep _ (hall.mono ?_), hmove _ (hall.mono ?_),
    hscene _ (hall.mono ?_), haround _ (hall.mono ?_), henvelope _ (hall.mono ?_),
    hbox _ (hall.mono ?_), hpose _ (hall.mono ?_), hkeyframes _ (hall.mono ?_),
    hremark _ (by decide), hreport _, hinterpretation _ (hall.mono ?_) ?_⟩
  · simp [Plan.scalars, Plan.aroundDoor, Step.scalars, Step.aroundDoor, Move.scalars,
      Move.aroundDoor]
  · simp [Step.scalars, Step.aroundDoor, Move.scalars, Move.aroundDoor]
  · simp [Move.scalars, Move.aroundDoor]
  · simp [Scene.scalars, Scene.beside, Box.scalars, Vec.scalars, Box.beside]
  · simp [Surroundings.scalars, Surroundings.beside, Envelope.scalars, Envelope.beside]
  · simp [Envelope.scalars, Envelope.beside]
  · simp [Box.scalars, Vec.scalars, Box.beside]
  · simp [Pose.scalars, Vec.scalars, Pose.beside]
  · simp [Keyframe.scalars, Pose.scalars, Vec.scalars, Keyframe.beside, Pose.beside]
  · simp [Interpretation.scalars, Interpretation.aroundDoor, Keyframe.scalars, Pose.scalars,
      Vec.scalars, Keyframe.beside, Pose.beside]
  · rintro _ hd
    rw [List.mem_singleton.mp hd]
    decide

end Json

end Cinematics
