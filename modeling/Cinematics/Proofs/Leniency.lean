import Mathlib.Data.List.TakeWhile
import Cinematics.Proofs.Bookkeeping
import Cinematics.Proofs.Documents
import Cinematics.Proofs.Place

/-!
# One bad number costs one number

A number among the parameters of a step may also be written as a text, as a truth value or as
`null`; `Json.StandsFor` says which number that is, if any.  Let one of these be replaced by another
in the text of a plan.  The readers on the way from the plan to the number, one lemma for each, find
the plan with another number there (`Plan.ofJson?_withNumber`).  Since time is shared out by the
ratios alone, what the plan comes to before this step is what it was (`Plan.interpret_agree`).
-/

namespace Cinematics

/-! ### What a text stands for -/

namespace Text

variable {p : Char → Bool} {s t : List Char}

/-- Whether a text is another one without all the characters of a class in front of it. -/
def StripsStart (p : Char → Bool) (s t : List Char) : Prop :=
  ∃ lead, s = lead ++ t ∧ (∀ c ∈ lead, p c = true) ∧ ∀ c ∈ t.head?, p c = false

/-- Whether a text is another one without all the characters of a class at its end. -/
def StripsEnd (p : Char → Bool) (s t : List Char) : Prop :=
  ∃ tail, s = t ++ tail ∧ (∀ c ∈ tail, p c = true) ∧ ∀ c ∈ t.getLast?, p c = false

/-- What is left of a text without the white space at both ends, then without degree signs at its
end, and then without white space at its end. -/
def Bares (s bare : List Char) : Prop :=
  ∃ fromStart trimmed unsigned, StripsStart isBlank s fromStart ∧
    StripsEnd isBlank fromStart trimmed ∧ StripsEnd (· = '°') trimmed unsigned ∧
      StripsEnd isBlank unsigned bare

lemma stripsStart_iff : StripsStart p s t ↔ t = s.dropWhile p := by
  constructor
  · rintro ⟨lead, rfl, hlead, hfirst⟩
    rw [List.dropWhile_append_of_pos hlead]
    cases t with
    | nil => rfl
    | cons c rest => rw [List.dropWhile_cons_of_neg (by simpa using hfirst c rfl)]
  · rintro rfl
    refine ⟨s.takeWhile p, List.takeWhile_append_dropWhile.symm, fun c hc => ?_, fun c hc => ?_⟩
    · exact List.mem_takeWhile_imp hc
    · have hhead := List.head?_dropWhile_not p s
      rw [hc] at hhead
      simpa using hhead

lemma stripsEnd_iff : StripsEnd p s t ↔ t = dropEndWhile p s := by
  -- a text stripped at its end is the reverse stripped at its start
  have hreverse : StripsEnd p s t ↔ StripsStart p s.reverse t.reverse := by
    constructor
    · rintro ⟨tail, rfl, htail, hlast⟩
      refine ⟨tail.reverse, List.reverse_append, fun c hc => htail c (List.mem_reverse.mp hc), ?_⟩
      rwa [List.head?_reverse]
    · rintro ⟨lead, hs, hlead, hfirst⟩
      refine ⟨lead.reverse, ?_, fun c hc => hlead c (List.mem_reverse.mp hc), ?_⟩
      · rw [← List.reverse_reverse s, hs, List.reverse_append, List.reverse_reverse]
      · rwa [List.head?_reverse] at hfirst
  rw [hreverse, stripsStart_iff, dropEndWhile, ← List.reverse_eq_iff]

/-- A text has one bare form, the one that is computed. -/
lemma bares_iff {bare : List Char} :
    Bares s bare ↔ bare = trimEnd (dropEndWhile (· = '°') (trim s)) := by
  simp only [Bares, stripsStart_iff, stripsEnd_iff]
  constructor
  · rintro ⟨_, _, _, rfl, rfl, rfl, rfl⟩
    rfl
  · rintro rfl
    exact ⟨_, _, _, rfl, rfl, rfl, rfl⟩

end Text

section Lenient

variable {α : Type} [Scalar α] [Numeric α] {v : Json}

omit [Scalar α] in
/-- A text spells what its bare form does. -/
lemma Numeric.ofText?_eq {s : String} {bare : List Char} (h : Text.Bares s.toList bare) :
    (ofText? s : Option α) = (Literal.parse? bare).map ofLiteral := by
  rw [Text.bares_iff.mp h]
  rfl

namespace Json

/-- What a value stands for where a number may be absent: a number, or none. -/
inductive StandsFor : Json → Option α → Prop where
  /-- A number that is not too large is itself. -/
  | number {n : Numeral} {x : α} (h : Numeric.read? n = some x) : StandsFor (.number n) (some x)
  /-- A truth value is no number. -/
  | bool (b : Bool) : StandsFor (.bool b) none
  /-- Neither is `null`. -/
  | null : StandsFor .null none
  /-- A text is the number that it spells, white space and degree signs apart. -/
  | spelled {s : String} {bare : List Char} {l : Literal} (hbare : Text.Bares s.toList bare)
      (h : Literal.parse? bare = some l) : StandsFor (.text s) (some (Numeric.ofLiteral l))
  /-- A text that spells no number is none. -/
  | unspelled {s : String} {bare : List Char} (hbare : Text.Bares s.toList bare)
      (h : Literal.parse? bare = none) : StandsFor (.text s) none

/-- Whether a value is a text, a truth value, `null` or a number that is not too large. -/
def IsPlain (α : Type) [Scalar α] [Numeric α] : Json → Prop
  | .null => True
  | .bool _ => True
  | .number n => (Numeric.read? n : Option α).isSome = true
  | .string s => s.isSome = true
  | .array _ => False
  | .object _ => False

/-- A lenient reader finds what a value stands for. -/
lemma lenient?_eq_some_iff {x : Option α} : lenient? v = some x ↔ StandsFor v x := by
  constructor
  · intro h
    cases v with
    | null =>
      obtain rfl := Option.some.inj h
      exact .null
    | bool b =>
      obtain rfl := Option.some.inj h
      exact .bool b
    | number n =>
      obtain ⟨y, hread, rfl⟩ := Option.map_eq_some_iff.mp h
      exact .number hread
    | string s =>
      obtain ⟨s, rfl, rfl⟩ := Option.map_eq_some_iff.mp h
      obtain ⟨bare, hbare⟩ : ∃ bare, Text.Bares s.toList bare := ⟨_, Text.bares_iff.mpr rfl⟩
      rw [Numeric.ofText?_eq hbare]
      cases hparse : Literal.parse? bare with
      | none => exact .unspelled hbare hparse
      | some l => exact .spelled hbare hparse
    | array items => cases h
    | object members => cases h
  · intro h
    cases h with
    | number hread => exact congrArg (Option.map some) hread
    | bool b => rfl
    | null => rfl
    | spelled hbare hparse =>
      rw [text, lenient?, Option.map_some, Numeric.ofText?_eq hbare, hparse, Option.map_some]
    | unspelled hbare hparse =>
      rw [text, lenient?, Option.map_some, Numeric.ofText?_eq hbare, hparse, Option.map_none]

/-- Every plain value stands for something. -/
lemma IsPlain.exists_standsFor (h : IsPlain α v) : ∃ x : Option α, StandsFor v x := by
  simp only [← lenient?_eq_some_iff]
  cases v with
  | null => exact ⟨none, rfl⟩
  | bool b => exact ⟨none, rfl⟩
  | number n =>
    obtain ⟨x, hread⟩ := Option.isSome_iff_exists.mp h
    exact ⟨some x, congrArg (Option.map some) hread⟩
  | string s =>
    obtain ⟨s, rfl⟩ := Option.isSome_iff_exists.mp h
    exact ⟨Numeric.ofText? s, rfl⟩
  | array items => exact h.elim
  | object members => exact h.elim

/-- A plain value fits anywhere. -/
lemma IsPlain.fits (h : IsPlain α v) : Fits α 0 v := by
  cases v with
  | null => exact ⟨Nat.le_refl _, rfl⟩
  | bool b => exact ⟨Nat.le_refl _, rfl⟩
  | number n => exact ⟨Nat.le_refl _, h⟩
  | string s => exact ⟨Nat.le_refl _, h⟩
  | array items => exact h.elim
  | object members => exact h.elim

end Json

end Lenient

/-! ### Numbers among parameters -/

/-- The numbers among the parameters of moves. -/
inductive Quantity where
  /-- The factor of a zoom. -/
  | factor
  /-- The way to go. -/
  | distance
  /-- The angle to turn. -/
  | angle
  /-- The factor on the radius of an arc. -/
  | radiusFactor

namespace Quantity

/-- The key of a number. -/
def key : Quantity → String
  | factor => "factor"
  | distance => "distance"
  | angle => "angle"
  | radiusFactor => "radius_factor"

/-- Whether a number is among the parameters of a kind of moves. -/
def IsOf : Quantity → MoveKind → Prop
  | factor, kind => kind = .zoom
  | distance, kind => kind = .dolly ∨ kind = .truck ∨ kind = .pedestal
  | angle, kind => kind = .orbit ∨ kind = .pan ∨ kind = .tilt ∨ kind = .rotate
  | radiusFactor, kind => kind = .orbit

end Quantity

/-- A move with another number for one of its parameters, or without one. -/
def Move.withNumber {α : Type} : Quantity → Option α → Move α → Move α
  | .factor, x, .zoom r => .zoom { r with factor := x }
  | .distance, x, .dolly r => .dolly { r with distance := x }
  | .distance, x, .truck r => .truck { r with distance := x }
  | .distance, x, .pedestal r => .pedestal { r with distance := x }
  | .angle, x, .orbit r => .orbit { r with angle := x }
  | .angle, x, .pan r => .pan { r with angle := x }
  | .angle, x, .tilt r => .tilt { r with angle := x }
  | .angle, x, .rotate r => .rotate { r with angle := x }
  | .radiusFactor, x, .orbit r => .orbit { r with radiusFactor := x }
  | _, _, m => m

/-- A step with another number for one of the parameters of its move. -/
def Step.withNumber {α : Type} (q : Quantity) (x : Option α) (s : Step α) : Step α :=
  { s with move := s.move.withNumber q x }

/-- A plan with another number for one of the parameters of one of its moves. -/
def Plan.withNumber {α : Type} (n : ℕ) (q : Quantity) (x : Option α) (p : Plan α) : Plan α :=
  { p with steps := p.steps.modify n (Step.withNumber q x) }

section Requests

variable {α : Type} [Scalar α] [Numeric α] {x : Option α}
  {before after : List (Option String × Json)} {key : String} {old v : Json}

/-- A record with another value for one member is read as its fields with this value are. -/
lemma Json.record_member {β : Type} (update : β → β) {names : List String}
    {body : Fields → Option β} (hkey : key ∈ names)
    (hbody : ∀ f b, body f = some b → body (f.set key v) = some (update b)) {b : β}
    (h : (object (before ++ (some key, old) :: after)).fields? names >>= body = some b) :
    (object (before ++ (some key, v) :: after)).fields? names >>= body = some (update b) := by
  obtain ⟨f, hfields, hf⟩ := Option.bind_eq_some_iff.mp h
  exact Option.bind_eq_some_iff.mpr ⟨_, (Json.fields?_member hkey hfields).2 v, hbody f b hf⟩

lemma Zoom.ofJson?_factor (hv : Json.lenient? v = some x) {r : Zoom α}
    (h : Zoom.ofJson? (.object (before ++ (some "factor", old) :: after)) = some r) :
    Zoom.ofJson? (.object (before ++ (some "factor", v) :: after)) =
      some { r with factor := x } := by
  refine Json.record_member (fun r => { r with factor := x }) (by decide) (fun f r h => ?_) h
  simp (disch := decide) only [Option.bind_eq_bind, Option.bind_eq_some_iff, Option.some.injEq,
    Fields.word_set_of_ne, Fields.number_set_self, hv] at h ⊢
  obtain ⟨direction, h₁, _, -, factorDescriptor, h₂, targetDistanceDescriptor, h₃, speed, h₄,
    easing, h₅, rfl⟩ := h
  exact ⟨direction, h₁, x, rfl, factorDescriptor, h₂, targetDistanceDescriptor, h₃, speed, h₄,
    easing, h₅, rfl⟩

lemma Dolly.ofJson?_distance (hv : Json.lenient? v = some x) {r : Dolly α}
    (h : Dolly.ofJson? (.object (before ++ (some "distance", old) :: after)) = some r) :
    Dolly.ofJson? (.object (before ++ (some "distance", v) :: after)) =
      some { r with distance := x } := by
  refine Json.record_member (fun r => { r with distance := x }) (by decide) (fun f r h => ?_) h
  simp (disch := decide) only [Option.bind_eq_bind, Option.bind_eq_some_iff, Option.some.injEq,
    Fields.word_set_of_ne, Fields.number_set_self, hv] at h ⊢
  obtain ⟨direction, h₁, _, -, distanceDescriptor, h₂, destinationTarget, h₃,
    targetDistanceDescriptor, h₄, speed, h₅, easing, h₆, rfl⟩ := h
  exact ⟨direction, h₁, x, rfl, distanceDescriptor, h₂, destinationTarget, h₃,
    targetDistanceDescriptor, h₄, speed, h₅, easing, h₆, rfl⟩

lemma Slide.ofJson?_distance (hv : Json.lenient? v = some x) {r : Slide α}
    (h : Slide.ofJson? (.object (before ++ (some "distance", old) :: after)) = some r) :
    Slide.ofJson? (.object (before ++ (some "distance", v) :: after)) =
      some { r with distance := x } := by
  refine Json.record_member (fun r => { r with distance := x }) (by decide) (fun f r h => ?_) h
  simp (disch := decide) only [Option.bind_eq_bind, Option.bind_eq_some_iff, Option.some.injEq,
    Fields.word_set_of_ne, Fields.number_set_self, hv] at h ⊢
  obtain ⟨direction, h₁, _, -, distanceDescriptor, h₂, destinationTarget, h₃, speed, h₄, easing, h₅,
    rfl⟩ := h
  exact ⟨direction, h₁, x, rfl, distanceDescriptor, h₂, destinationTarget, h₃, speed, h₄, easing,
    h₅, rfl⟩

lemma Orbit.ofJson?_angle (hv : Json.lenient? v = some x) {r : Orbit α}
    (h : Orbit.ofJson? (.object (before ++ (some "angle", old) :: after)) = some r) :
    Orbit.ofJson? (.object (before ++ (some "angle", v) :: after)) =
      some { r with angle := x } := by
  refine Json.record_member (fun r => { r with angle := x }) (by decide) (fun f r h => ?_) h
  simp (disch := decide) only [Option.bind_eq_bind, Option.bind_eq_some_iff, Option.some.injEq,
    Fields.word_set_of_ne, Fields.number_set_self, Fields.number_set_of_ne, hv] at h ⊢
  obtain ⟨direction, h₁, _, -, angleDescriptor, h₂, axis, h₃, target, h₄, radiusFactor, h₅, speed,
    h₆, easing, h₇, rfl⟩ := h
  exact ⟨direction, h₁, x, rfl, angleDescriptor, h₂, axis, h₃, target, h₄, radiusFactor, h₅, speed,
    h₆, easing, h₇, rfl⟩

lemma Orbit.ofJson?_radiusFactor (hv : Json.lenient? v = some x) {r : Orbit α}
    (h : Orbit.ofJson? (.object (before ++ (some "radius_factor", old) :: after)) = some r) :
    Orbit.ofJson? (.object (before ++ (some "radius_factor", v) :: after)) =
      some { r with radiusFactor := x } := by
  refine Json.record_member (fun r => { r with radiusFactor := x }) (by decide) (fun f r h => ?_) h
  simp (disch := decide) only [Option.bind_eq_bind, Option.bind_eq_some_iff, Option.some.injEq,
    Fields.word_set_of_ne, Fields.number_set_self, Fields.number_set_of_ne, hv] at h ⊢
  obtain ⟨direction, h₁, angle, h₂, angleDescriptor, h₃, axis, h₄, target, h₅, _, -, speed, h₆,
    easing, h₇, rfl⟩ := h
  exact ⟨direction, h₁, angle, h₂, angleDescriptor, h₃, axis, h₄, target, h₅, x, rfl, speed, h₆,
    easing, h₇, rfl⟩

lemma Turn.ofJson?_angle (hv : Json.lenient? v = some x) {r : Turn α}
    (h : Turn.ofJson? (.object (before ++ (some "angle", old) :: after)) = some r) :
    Turn.ofJson? (.object (before ++ (some "angle", v) :: after)) =
      some { r with angle := x } := by
  refine Json.record_member (fun r => { r with angle := x }) (by decide) (fun f r h => ?_) h
  simp (disch := decide) only [Option.bind_eq_bind, Option.bind_eq_some_iff, Option.some.injEq,
    Fields.word_set_of_ne, Fields.number_set_self, hv] at h ⊢
  obtain ⟨direction, h₁, _, -, angleDescriptor, h₂, axis, h₃, target, h₄, speed, h₅, easing, h₆,
    rfl⟩ := h
  exact ⟨direction, h₁, x, rfl, angleDescriptor, h₂, axis, h₃, target, h₄, speed, h₅, easing, h₆,
    rfl⟩

/-- Another value for a number among the parameters of a move makes the move with another number. -/
lemma Move.ofParameters?_withNumber (hv : Json.lenient? v = some x) {kind : MoveKind} {q : Quantity}
    (hq : q.IsOf kind) {m : Move α}
    (h : ofParameters? kind (.object (before ++ (some q.key, old) :: after)) = some m) :
    ofParameters? kind (.object (before ++ (some q.key, v) :: after)) =
      some (m.withNumber q x) := by
  cases q with
  | factor =>
    obtain rfl := hq
    obtain ⟨r, hr, rfl⟩ := Option.map_eq_some_iff.mp h
    exact congrArg (Option.map _) (Zoom.ofJson?_factor hv hr)
  | distance =>
    rcases hq with rfl | rfl | rfl
    · obtain ⟨r, hr, rfl⟩ := Option.map_eq_some_iff.mp h
      exact congrArg (Option.map _) (Dolly.ofJson?_distance hv hr)
    all_goals
      obtain ⟨r, hr, rfl⟩ := Option.map_eq_some_iff.mp h
      exact congrArg (Option.map _) (Slide.ofJson?_distance hv hr)
  | angle =>
    rcases hq with rfl | rfl | rfl | rfl
    · obtain ⟨r, hr, rfl⟩ := Option.map_eq_some_iff.mp h
      exact congrArg (Option.map _) (Orbit.ofJson?_angle hv hr)
    all_goals
      obtain ⟨r, hr, rfl⟩ := Option.map_eq_some_iff.mp h
      exact congrArg (Option.map _) (Turn.ofJson?_angle hv hr)
  | radiusFactor =>
    obtain rfl := hq
    obtain ⟨r, hr, rfl⟩ := Option.map_eq_some_iff.mp h
    exact congrArg (Option.map _) (Orbit.ofJson?_radiusFactor hv hr)

/-- The kind of a move is the one whose parameters were read. -/
lemma Move.kind_of_ofParameters? {kind : MoveKind} {parameters : Json} {m : Move α}
    (h : ofParameters? kind parameters = some m) : m.kind = kind := by
  cases kind <;>
    · obtain ⟨r, -, rfl⟩ := Option.map_eq_some_iff.mp h
      rfl

end Requests

/-! ### Steps and plans -/

section Plans

variable {α : Type} [Scalar α] [Numeric α] {x : Option α} {q : Quantity} {old v : Json}

/-- Another value for a number of a step makes the step with another number. -/
lemma Step.ofJson?_withNumber (hplain : Json.IsPlain α v) (hv : Json.StandsFor v x)
    {place : Json.Place} (hpath : place.path = [.name (some "parameters"), .name (some q.key)])
    {enclosing : ℕ} {s : Step α} (hq : q.IsOf s.move.kind)
    (h : ofJson? enclosing (place.fill old) = some s) :
    ofJson? enclosing (place.fill v) = some (s.withNumber q x) := by
  obtain ⟨before, inside, after, rfl, hinside⟩ := Json.Place.eq_member hpath
  obtain ⟨before', inside', after', rfl, hinside'⟩ := Json.Place.eq_member hinside
  obtain rfl := Json.Place.eq_whole hinside'
  simp only [Json.Place.fill] at h ⊢
  obtain ⟨f, hfields, h⟩ := Option.bind_eq_some_iff.mp h
  obtain ⟨hkeepable, h⟩ := Option.ite_none_right_eq_some.mp h
  obtain ⟨kind, hkind, h⟩ := Option.bind_eq_some_iff.mp h
  obtain ⟨move, hmove, h⟩ := Option.bind_eq_some_iff.mp h
  obtain ⟨ratio, hratio, h⟩ := Option.bind_eq_some_iff.mp h
  obtain rfl := Option.some.inj h
  obtain ⟨hget, hset⟩ := Json.fields?_member (by decide) hfields
  rw [Fields.need, hget, Option.bind_some] at hmove
  rw [Move.kind_of_ofParameters? hmove] at hq
  have hmove' := Move.ofParameters?_withNumber (Json.lenient?_eq_some_iff.mpr hv) hq hmove
  have hkeepable' : (before ++ (some "parameters",
      Json.object (before' ++ (some q.key, v) :: after')) :: after).all
        (fun m => Move.isKeepable α enclosing m.2) = true := by
    rw [List.all_append, List.all_cons, Bool.and_eq_true, Bool.and_eq_true] at hkeepable ⊢
    refine ⟨hkeepable.1, Json.isKeepable_of_fits (fun n hn => ?_) hkeepable.2.1, hkeepable.2.2⟩
    exact (Json.Place.member before' (some q.key) .whole after').fits_fill
      (fun n _ => hplain.fits.mono (Nat.zero_le n)) hn
  refine Option.bind_eq_some_iff.mpr ⟨_, hset _, ?_⟩
  rw [if_pos hkeepable']
  refine Option.bind_eq_some_iff.mpr
    ⟨kind, ?_, Option.bind_eq_some_iff.mpr ⟨move.withNumber q x, ?_, ?_⟩⟩
  · rw [Fields.need_set_of_ne f (by decide), hkind]
  · rw [Fields.need_set_self, hmove']
  · rw [Fields.need_set_of_ne f (by decide), hratio]
    rfl

/-- A list with another value for one item is the list of what its items were read as, but for what
this value is read as. -/
lemma Json.mapM_replace {β : Type} {read? : Json → Option β} {before after : List Json}
    {bs : List β} (h : (before ++ old :: after).mapM read? = some bs) :
    ∃ b, bs[before.length]? = some b ∧ read? old = some b ∧ ∀ v b', read? v = some b' →
      (before ++ v :: after).mapM read? = some (bs.set before.length b') := by
  induction before generalizing bs with
  | nil =>
    rw [List.nil_append, List.mapM_cons] at h
    obtain ⟨b, hb, h⟩ := Option.bind_eq_some_iff.mp h
    obtain ⟨rest, hrest, h⟩ := Option.bind_eq_some_iff.mp h
    obtain rfl := Option.some.inj h
    refine ⟨b, rfl, hb, fun v b' hv => ?_⟩
    rw [List.nil_append, List.mapM_cons, hv, hrest]
    rfl
  | cons item before ih =>
    rw [List.cons_append, List.mapM_cons] at h
    obtain ⟨first, hfirst, h⟩ := Option.bind_eq_some_iff.mp h
    obtain ⟨rest, hrest, h⟩ := Option.bind_eq_some_iff.mp h
    obtain rfl := Option.some.inj h
    obtain ⟨b, hget, hb, hset⟩ := ih hrest
    refine ⟨b, hget, hb, fun v b' hv => ?_⟩
    rw [List.cons_append, List.mapM_cons, hfirst, hset v b' hv]
    rfl

namespace Plan

/-- The ways to a parameter of step `n` of a plan, which may be written as an object or as an
array. -/
def parameterPaths (n : ℕ) (q : Quantity) : List (List Json.Key) :=
  [[.name (some "steps"), .index n, .name (some "parameters"), .name (some q.key)],
    [.index 0, .index n, .name (some "parameters"), .name (some q.key)]]

variable {n : ℕ} {step : Step α} {p : Plan α}

/-- Another value for a number of a step in a list makes the list with another number. -/
lemma list?_withNumber (hplain : Json.IsPlain α v) (hv : Json.StandsFor v x) {place : Json.Place}
    (hpath : place.path = [.index n, .name (some "parameters"), .name (some q.key)])
    {steps : List (Step α)} (hstep : steps[n]? = some step) (hq : q.IsOf step.move.kind)
    (h : Json.list? (Step.ofJson? 3) (place.fill old) = some steps) :
    Json.list? (Step.ofJson? 3) (place.fill v) =
      some (steps.modify n (Step.withNumber q x)) := by
  obtain ⟨before, inside, after, rfl, rfl, hinside⟩ := Json.Place.eq_item hpath
  obtain ⟨s, hget, hold, hset⟩ := Json.mapM_replace h
  obtain rfl := Option.some.inj (hget.symm.trans hstep)
  have hstep' := Step.ofJson?_withNumber hplain hv hinside hq hold
  have : Inhabited (Step α) := ⟨s⟩
  rw [List.modify_eq_set, hget, Option.getD_some]
  exact hset _ _ hstep'

/-- **A number by another one.** -/
lemma ofJson?_withNumber (hplain : Json.IsPlain α v) (hv : Json.StandsFor v x) {place : Json.Place}
    (hpath : place.path ∈ parameterPaths n q) (hstep : p.steps[n]? = some step)
    (hq : q.IsOf step.move.kind) (h : ofJson? (place.fill old) = some p) :
    ofJson? (place.fill v) = some (p.withNumber n q x) := by
  obtain ⟨f, hfields, h⟩ := Option.bind_eq_some_iff.mp h
  obtain ⟨steps, hsteps, h⟩ := Option.bind_eq_some_iff.mp h
  obtain ⟨duration, hduration, h⟩ := Option.bind_eq_some_iff.mp h
  obtain rfl := Option.some.inj h
  obtain ⟨inside, hinside, hget, hset⟩ : ∃ inside : Json.Place,
      inside.path = [.index n, .name (some "parameters"), .name (some q.key)] ∧
        f.get? "steps" = some (inside.fill old) ∧
          (place.fill v).fields? ["steps", "metadata"] = some (f.set "steps" (inside.fill v)) := by
    simp only [parameterPaths, List.mem_cons, List.not_mem_nil, or_false] at hpath
    rcases hpath with hpath | hpath
    · obtain ⟨before, inside, after, rfl, hinside⟩ := Json.Place.eq_member hpath
      obtain ⟨hget, hset⟩ := Json.fields?_member (by decide) hfields
      exact ⟨inside, hinside, hget, hset _⟩
    · obtain ⟨before, inside, after, rfl, hlength, hinside⟩ := Json.Place.eq_item hpath
      obtain rfl := List.length_eq_zero_iff.mp hlength
      obtain ⟨hget, hset⟩ := Json.fields?_first hfields
      exact ⟨inside, hinside, hget, hset _⟩
  rw [Fields.need, hget, Option.bind_some] at hsteps
  refine Option.bind_eq_some_iff.mpr ⟨_, hset, Option.bind_eq_some_iff.mpr
    ⟨steps.modify n (Step.withNumber q x), ?_, ?_⟩⟩
  · rw [Fields.need_set_self]
    exact list?_withNumber hplain hv hinside hstep hq hsteps
  · rw [Fields.need_set_of_ne f (by decide), hduration]
    rfl

end Plan

end Plans

/-! ### Earlier steps

What a plan comes to before some step is settled by the steps before it, once the time is shared
out. -/

section Earlier

variable {α : Type} {n : ℕ}

/-- Whether two interpretations, with their ledgers, say the same of the first `n` steps. -/
structure Interpretation.AgreeUpTo (n : ℕ) (i i' : Interpretation α)
    (entries entries' : List (Entry α)) : Prop where
  /-- The keyframes are those of the steps in order. -/
  keyframes_eq : i.keyframes = entries.flatMap Entry.block ∧
    i'.keyframes = entries'.flatMap Entry.block
  /-- The first steps start from the same poses and come to the same. -/
  entries_eq : entries'.take n = entries.take n
  /-- All steps have the same seconds. -/
  stepDurations_eq : i'.stepDurations = i.stepDurations
  /-- The first steps leave the same remarks. -/
  diagnostics_eq :
    i'.diagnostics.filter (·.step < n) = i.diagnostics.filter (·.step < n)

/-- The remarks about the first steps are those of their entries. -/
lemma Entry.filter_allRemarks [Spelled α] (n : ℕ) (entries : List (Entry α)) :
    (allRemarks 0 entries).filter (·.step < n) = allRemarks 0 (entries.take n) := by
  have hearly : ∀ d ∈ allRemarks 0 (entries.take n), d.step < n := by
    intro d hd
    obtain ⟨m, e, he, hd⟩ := mem_allRemarks.mp hd
    have hm : m < (entries.take n).length := (List.getElem?_eq_some_iff.mp he).1
    rw [(of_mem_remarks hd).1, Nat.zero_add]
    exact hm.trans_le (List.length_take_le _ _)
  have hlate : ∀ d ∈ allRemarks (0 + (entries.take n).length) (entries.drop n), ¬ d.step < n := by
    intro d hd
    obtain ⟨m, e, he, hd⟩ := mem_allRemarks.mp hd
    have hm : m < (entries.drop n).length := (List.getElem?_eq_some_iff.mp he).1
    rw [List.length_drop] at hm
    rw [(of_mem_remarks hd).1, List.length_take]
    omega
  conv_lhs => rw [← List.take_append_drop n entries]
  rw [allRemarks_append, List.filter_append,
    List.filter_eq_self.mpr fun d hd => decide_eq_true (hearly d hd),
    List.filter_eq_nil_iff.mpr fun d hd => by simpa using hlate d hd, List.append_nil]

namespace Plan

variable [Scalar α] {scene : Scene α} {around : Surroundings α} {settings : Settings α}
  {p p' : Plan α} {initial : Pose α}

/-- The first entries of a ledger are the ledger of the first steps.  The induction is on their
number. -/
lemma take_ledger (n : ℕ) (steps : List (Step α × α)) (pose : Pose α) :
    (ledger scene around settings steps pose).take n =
      ledger scene around settings (steps.take n) pose := by
  induction n generalizing steps pose with
  | zero => rw [List.take_zero, List.take_zero, ledger]
  | succ n ih =>
    cases steps with
    | nil => rfl
    | cons timed rest =>
      obtain ⟨step, duration⟩ := timed
      rw [ledger, List.take_succ_cons, List.take_succ_cons, ledger, ih]

/-- Plans with the same ratios and the same duration have the same schedule. -/
lemma schedule_congr (hduration : p'.duration = p.duration)
    (hratios : p'.steps.map (·.ratio) = p.steps.map (·.ratio)) :
    p'.schedule settings = p.schedule settings := by
  have hempty : p'.steps.isEmpty = p.steps.isEmpty := by
    rw [← List.isEmpty_map (f := (·.ratio)), hratios, List.isEmpty_map]
  rw [schedule, schedule, check, check, hempty, hduration, hratios]

/-- Plans that have the same schedule and the same first steps come to the same in these. -/
lemma take_entries (hduration : p'.duration = p.duration)
    (hratios : p'.steps.map (·.ratio) = p.steps.map (·.ratio))
    (hsteps : p'.steps.take n = p.steps.take n) :
    (p'.entries scene around settings initial).take n =
      (p.entries scene around settings initial).take n := by
  simp only [entries, durations, take_ledger, List.zip, List.take_zipWith, hduration, hratios,
    hsteps]

variable [Spelled α]

/-- **What comes first does not depend on what follows.**  Plans that have the same schedule and the
same first steps are refused alike, and otherwise their interpretations agree up to these steps. -/
theorem interpret_agree (hduration : p'.duration = p.duration)
    (hratios : p'.steps.map (·.ratio) = p.steps.map (·.ratio))
    (hsteps : p'.steps.take n = p.steps.take n) :
    (∀ refusal, p.interpret scene around settings initial = .error refusal →
        p'.interpret scene around settings initial = .error refusal) ∧
      ∀ i, p.interpret scene around settings initial = .ok i →
        ∃ i', p'.interpret scene around settings initial = .ok i' ∧
          Interpretation.AgreeUpTo n i i' (p.entries scene around settings initial)
            (p'.entries scene around settings initial) := by
  have hschedule : p'.schedule settings = p.schedule settings := schedule_congr hduration hratios
  refine ⟨fun refusal h => ?_, fun i h => ?_⟩
  · rw [interpret_eq] at h ⊢
    rw [hschedule]
    cases hfinite : initial.isFinite with
    | false =>
      rw [hfinite] at h
      exact h
    | true =>
      rw [hfinite] at h
      cases hdurations : p.schedule settings with
      | error _ =>
        rw [hdurations] at h
        exact h
      | ok durations =>
        rw [hdurations] at h
        cases h
  · obtain ⟨hinitial, durations, -, hdurations, -, -⟩ := interpret_ok h
    obtain ⟨hsettings, hplan, -⟩ := schedule_ok (hschedule.trans hdurations)
    refine ⟨_, interpret_of_check hinitial hsettings hplan, ?_⟩
    have hentries : (p'.entries scene around settings initial).take n =
      (p.entries scene around settings initial).take n := take_entries hduration hratios hsteps
    rw [interpret_eq_entries h]
    constructor
    case keyframes_eq => exact ⟨rfl, rfl⟩
    case entries_eq => exact hentries
    case stepDurations_eq => rw [Plan.durations, Plan.durations, hduration, hratios]
    case diagnostics_eq => rw [Entry.filter_allRemarks, Entry.filter_allRemarks, hentries]

end Plan

end Earlier

namespace Plan

variable {α : Type} {n : ℕ} {q : Quantity} {x : Option α} {p : Plan α}

/-- Another number leaves the ratios as they are. -/
lemma map_ratio_withNumber :
    (p.withNumber n q x).steps.map (·.ratio) = p.steps.map (·.ratio) := by
  refine List.ext_getElem? fun m => ?_
  rw [List.getElem?_map, List.getElem?_map, withNumber, List.getElem?_modify]
  cases p.steps[m]? with
  | none => rfl
  | some step =>
    by_cases hm : n = m
    · simp [hm, Step.withNumber]
    · simp [hm]

/-- Another number leaves earlier steps as they are. -/
lemma take_steps_withNumber : (p.withNumber n q x).steps.take n = p.steps.take n := by
  refine List.ext_getElem? fun m => ?_
  rw [List.getElem?_take, List.getElem?_take, withNumber, List.getElem?_modify]
  split
  · rename_i hm
    simp [hm.ne']
  · rfl

variable [Scalar α] [Spelled α] [Numeric α] {s s' : String} {place : Json.Place} {old v : Json}
  {step : Step α}

/-- **One bad number costs one number.**  In the text of a plan, let the value of a number among the
parameters of a step be replaced by a text, a truth value, `null` or a number that is not too large.
The plan is read as before, but for this number, which is the one that the new value stands for, if
any.  An interpretation of it is refused as before, and otherwise it agrees with the one before in
all that it says of earlier steps. -/
theorem replace_number (hs : Json.parse? s.toList = some (place.fill old)) (h : ofText? s = some p)
    (hpath : place.path ∈ parameterPaths n q) (hstep : p.steps[n]? = some step)
    (hq : q.IsOf step.move.kind) (hv : Json.IsPlain α v)
    (hs' : Json.parse? s'.toList = some (place.fill v)) :
    ∃ x : Option α, (∀ y, Json.StandsFor v y ↔ y = x) ∧ ofText? s' = some (p.withNumber n q x) ∧
      ∀ (scene : Scene α) (around : Surroundings α) (settings : Settings α) (initial : Pose α),
        (∀ refusal, p.interpret scene around settings initial = .error refusal →
          (p.withNumber n q x).interpret scene around settings initial = .error refusal) ∧
        ∀ i, p.interpret scene around settings initial = .ok i →
          ∃ i', (p.withNumber n q x).interpret scene around settings initial = .ok i' ∧
            Interpretation.AgreeUpTo n i i' (p.entries scene around settings initial)
              ((p.withNumber n q x).entries scene around settings initial) := by
  obtain ⟨x, hx⟩ := hv.exists_standsFor
  have hread : Json.lenient? v = some x := Json.lenient?_eq_some_iff.mpr hx
  refine ⟨x, fun y => ?_, ?_, fun scene around settings initial => ?_⟩
  · rw [← Json.lenient?_eq_some_iff, hread, Option.some.injEq, eq_comm]
  · rw [ofText?, hs, Option.bind_some] at h
    rw [ofText?, hs', Option.bind_some]
    exact ofJson?_withNumber hv hx hpath hstep hq h
  · exact interpret_agree rfl map_ratio_withNumber take_steps_withNumber

/-- The place of the angle in a plan of one turn. -/
def anglePlace : Json.Place :=
  .member [] (some "steps")
    (.item [] (.member [(some "type", .text "pan")] (some "parameters")
      (.member [(some "direction", .text "left")] (some "angle") .whole [])
      [(some "duration_ratio", .ofNat 1)]) [])
    [(some "metadata", .object [(some "requested_duration", .ofNat 2)])]

/-- A plan of one turn by ninety degrees. -/
noncomputable def panLeft : Plan ℝ where
  steps :=
    [⟨.pan { direction := some "left", angle := some (Numeric.ofNumeral (.ofNat 90)) },
      Numeric.ofNumeral (.ofNat 1)⟩]
  duration := Numeric.ofNumeral (.ofNat 2)

/-- A plan with an angle that spells no number is the plan without the angle.  White space and a
degree sign at the end do not count. -/
theorem replace_number_panLeft :
    ofText? (anglePlace.fill (.ofNat 90)).toText = some panLeft ∧
      ofText? (anglePlace.fill (.text "a bit °")).toText =
        some (panLeft.withNumber 0 .angle none) ∧
      ofText? (anglePlace.fill (.text " 45 ° ")).toText =
        some (panLeft.withNumber 0 .angle (some (Numeric.ofNumeral (.ofNat 45)))) := by
  have hread : ofText? (anglePlace.fill (.ofNat 90)).toText = some panLeft := by
    rw [ofText?, Json.parse?_toText]
    rfl
  have hpath : anglePlace.path ∈ parameterPaths 0 .angle := List.mem_cons_self
  obtain ⟨x, hx, hread', -⟩ := replace_number (v := .text "a bit °") (Json.parse?_toText _) hread
    hpath rfl (.inr (.inl rfl)) rfl (Json.parse?_toText _)
  have hnone : Json.StandsFor (.text "a bit °") (none : Option ℝ) :=
    .unspelled (Text.bares_iff.mpr rfl) (by decide)
  obtain ⟨y, hy, hread'', -⟩ := replace_number (v := .text " 45 ° ") (Json.parse?_toText _) hread
    hpath rfl (.inr (.inl rfl)) rfl (Json.parse?_toText _)
  have hsome : Json.StandsFor (.text " 45 ° ") (some (Numeric.ofNumeral (.ofNat 45)) : Option ℝ) :=
    .spelled (l := .numeral (.ofNat 45)) (Text.bares_iff.mpr rfl) (by decide)
  rw [← (hx none).mp hnone] at hread'
  rw [← (hy _).mp hsome] at hread''
  exact ⟨hread, hread', hread''⟩

end Plan

end Cinematics
