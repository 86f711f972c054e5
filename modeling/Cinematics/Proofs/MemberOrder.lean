import Mathlib.Data.List.Forall2
import Mathlib.Logic.Relation
import Cinematics.Document.Interpretation
import Cinematics.Document.Plan
import Cinematics.Proofs.Place
import Cinematics.Proofs.Rendering

/-!
# The order of members

Members of an object may come in any order.  Two values are `Json.Reordered` if one becomes the
other by putting the members of objects into another order, at any depth and any number of times,
and `Json.IgnoresOrder` says of a reader that it does not tell such values apart.  A record is read
through its fields, whose values differ in their order at most (`Json.Swaps.fields?`), so all
readers of records are seen to ignore the order by their fields (`Json.ignoresOrder_record`).

There is one exception.  A move that stands alone may be read on the way if its type comes first,
and then members that nobody asks for need not make sense; parameters in front of the type have to
be kept, so they do.  `Move.ofJson?_eq` says what is left of the order there, and the last theorem
of the file shows that it makes a difference.
-/

namespace Cinematics

namespace Json

/-! ### Values up to the order of members -/

/-- Somewhere in a value, the members of an object are put into another order. -/
inductive Swaps : Json → Json → Prop where
  /-- The object stands in some place. -/
  | intro (place : Place) {members members' : List (Option String × Json)}
      (h : members.Perm members') :
      Swaps (place.fill (.object members)) (place.fill (.object members'))

/-- Two values are the same up to the order of members, in any number of objects at any depth. -/
def Reordered : Json → Json → Prop := Relation.ReflTransGen Swaps

/-- Members with the same keys, whose values are the same up to order. -/
abbrev SameMembers : List (Option String × Json) → List (Option String × Json) → Prop :=
  List.Forall₂ fun m m' => m.1 = m'.1 ∧ Reordered m.2 m'.2

/-- Lists that differ in one element are related if the elements are. -/
lemma forall₂_replace {β : Type} {R : β → β → Prop} (hrefl : ∀ b, R b b) {b b' : β} (h : R b b')
    (before after : List β) : List.Forall₂ R (before ++ b :: after) (before ++ b' :: after) := by
  induction before with
  | nil => exact .cons h (List.forall₂_same.mpr fun x _ => hrefl x)
  | cons x before ih => exact .cons (hrefl x) ih

/-- Two values that differ by one change of order are both arrays or both objects.  The items of
arrays are the same up to order; the members of objects are the same in another order, or the values
of the same keys are the same up to order. -/
lemma Swaps.cases {j j' : Json} (h : Swaps j j') :
    (∃ items items', j = .array items ∧ j' = .array items' ∧
      List.Forall₂ Reordered items items') ∨
    ∃ members members', j = .object members ∧ j' = .object members' ∧
      (members.Perm members' ∨ SameMembers members members') := by
  obtain ⟨place, hperm⟩ := h
  cases place with
  | whole => exact .inr ⟨_, _, rfl, rfl, .inl hperm⟩
  | item before inside after =>
    refine .inl ⟨_, _, rfl, rfl, forall₂_replace (fun _ => .refl) ?_ before after⟩
    exact .single ⟨inside, hperm⟩
  | member before key inside after =>
    refine .inr ⟨_, _, rfl, rfl, .inr (forall₂_replace (fun _ => ⟨rfl, .refl⟩) ?_ before after)⟩
    exact ⟨rfl, .single ⟨inside, hperm⟩⟩

/-! ### Readers that ignore the order -/

/-- Whether a reader does not tell values apart that are the same up to the order of members. -/
def IgnoresOrder {β : Type} (read? : Json → Option β) : Prop :=
  ∀ j j', Reordered j j' → read? j = read? j'

section Readers

variable {β γ : Type} {read? : Json → Option β}

/-- A reader ignores the order if it ignores one change.  The induction is on the number of
changes. -/
lemma ignoresOrder_of_swaps (h : ∀ j j', Swaps j j' → read? j = read? j') :
    IgnoresOrder read? := by
  intro j j' hreordered
  induction hreordered with
  | refl => rfl
  | tail _ hswaps ih => exact ih.trans (h _ _ hswaps)

/-- A reader ignores the order if it reads no arrays and no objects. -/
lemma ignoresOrder_of_flat (harray : ∀ items, read? (.array items) = none)
    (hobject : ∀ members, read? (.object members) = none) : IgnoresOrder read? := by
  refine ignoresOrder_of_swaps fun j j' h => ?_
  rcases h.cases with ⟨_, _, rfl, rfl, -⟩ | ⟨_, _, rfl, rfl, -⟩
  · rw [harray, harray]
  · rw [hobject, hobject]

lemma text?_ignoresOrder : IgnoresOrder text? :=
  ignoresOrder_of_flat (fun _ => rfl) fun _ => rfl

lemma bool?_ignoresOrder : IgnoresOrder bool? :=
  ignoresOrder_of_flat (fun _ => rfl) fun _ => rfl

lemma index?_ignoresOrder : IgnoresOrder index? :=
  ignoresOrder_of_flat (fun _ => rfl) fun _ => rfl

lemma scalar?_ignoresOrder {α : Type} [Scalar α] [Numeric α] :
    IgnoresOrder (scalar? : Json → Option α) :=
  ignoresOrder_of_flat (fun _ => rfl) fun _ => rfl

lemma lenient?_ignoresOrder {α : Type} [Scalar α] [Numeric α] :
    IgnoresOrder (lenient? : Json → Option (Option α)) :=
  ignoresOrder_of_flat (fun _ => rfl) fun _ => rfl

lemma bareNamed?_ignoresOrder [Named β] : IgnoresOrder (bareNamed? : Json → Option β) :=
  ignoresOrder_of_flat (fun _ => rfl) fun _ => rfl

/-- Items are read one by one. -/
lemma mapM_eq_of_forall₂ (h : IgnoresOrder read?) {items items' : List Json}
    (hitems : List.Forall₂ Reordered items items') : items.mapM read? = items'.mapM read? := by
  induction hitems with
  | nil => rfl
  | cons hitem _ ih => rw [List.mapM_cons, List.mapM_cons, h _ _ hitem, ih]

lemma list?_ignoresOrder (h : IgnoresOrder read?) : IgnoresOrder (list? read?) := by
  refine ignoresOrder_of_swaps fun j j' hswaps => ?_
  rcases hswaps.cases with ⟨_, _, rfl, rfl, hitems⟩ | ⟨_, _, rfl, rfl, -⟩
  · exact mapM_eq_of_forall₂ h hitems
  · rfl

end Readers

/-! ### Fields of records

A member that occurs once is found wherever it stands. -/

section Members

variable {members members' : List (Option String × Json)} {name : String}

/-- A key that is not repeated belongs to the member that is found by it. -/
lemma member?_eq_some_iff (h : isUnrepeated members name = true) {v : Json} :
    member? members name = some v ↔ (some name, v) ∈ members := by
  induction members with
  | nil => simp [member?]
  | cons m members ih =>
    obtain ⟨key, value⟩ := m
    rw [isUnrepeated, decide_eq_true_eq, List.countP_cons] at h
    rw [member?, List.lookup_cons, List.mem_cons, Prod.mk.injEq]
    by_cases hkey : key = some name
    · -- the key of the first member stands in front of no other
      have hnone : members.countP (fun m => m.1 = some name) = 0 := by
        rw [if_pos (decide_eq_true hkey)] at h
        omega
      have habsent : (some name, v) ∉ members := fun hmem =>
        List.countP_eq_zero.mp hnone _ hmem (decide_eq_true rfl)
      simp [hkey, habsent, eq_comm]
    · have hrest : isUnrepeated members name = true := by
        rw [isUnrepeated, decide_eq_true_eq]
        omega
      have hne : (some name == key) = false := beq_eq_false_iff_ne.mpr (Ne.symm hkey)
      rw [hne, ← ih hrest, member?]
      simp [Ne.symm hkey]

/-- The order of members makes no record of what is none. -/
lemma isRecord_perm (h : members.Perm members') (names : List String) :
    isRecord names members = isRecord names members' := by
  have hunrepeated : isUnrepeated members = isUnrepeated members' := by
    funext name
    rw [isUnrepeated, isUnrepeated, h.countP_eq]
  rw [isRecord, isRecord, h.all_eq, hunrepeated]

/-- A declared member of a record is found in any order. -/
lemma member?_perm {names : List String} (hname : name ∈ names)
    (hrecord : isRecord names members = true) (h : members.Perm members') :
    member? members name = member? members' name := by
  have hunrepeated {members : List (Option String × Json)}
      (hrecord : isRecord names members = true) : isUnrepeated members name = true := by
    rw [isRecord, Bool.and_eq_true, List.all_eq_true, List.all_eq_true] at hrecord
    exact hrecord.2 name hname
  ext v
  rw [member?_eq_some_iff (hunrepeated hrecord),
    member?_eq_some_iff (hunrepeated ((isRecord_perm h names).symm.trans hrecord)), h.mem_iff]

lemma SameMembers.map_fst_eq (h : SameMembers members members') :
    members.map Prod.fst = members'.map Prod.fst := by
  induction h with
  | nil => rfl
  | cons hm _ ih => rw [List.map_cons, List.map_cons, hm.1, ih]

lemma SameMembers.member? (h : SameMembers members members') (name : String) :
    Option.Rel Reordered (Json.member? members name) (Json.member? members' name) := by
  induction h with
  | nil => exact .none
  | cons hm _ ih =>
    rw [Json.member?, List.lookup_cons, Json.member?, List.lookup_cons, hm.1]
    split
    · exact .some hm.2
    · exact ih

end Members

end Json

/-- Whether the declared fields of two records have the same values up to the order of members. -/
def Fields.Alike (names : List String) (f f' : Fields) : Prop :=
  ∀ name ∈ names, Option.Rel Json.Reordered (f.get? name) (f'.get? name)

namespace Json

/-- Items give fields by their positions. -/
lemma lookup_zip_rel {items items' : List Json} (h : List.Forall₂ Reordered items items')
    (names : List String) (name : String) :
    Option.Rel Reordered ((names.zip items).lookup name) ((names.zip items').lookup name) := by
  induction h generalizing names with
  | nil =>
    rw [List.zip_nil_right]
    exact .none
  | cons hitem _ ih =>
    cases names with
    | nil => exact .none
    | cons first names =>
      rw [List.zip_cons_cons, List.lookup_cons, List.zip_cons_cons, List.lookup_cons]
      split
      · exact .some hitem
      · exact ih names

/-- **Records do not depend on the order of members.**  After a change of order, either there is no
record as before, or its declared fields are alike. -/
theorem Swaps.fields? {j j' : Json} (h : Swaps j j') (names : List String) :
    Option.Rel (Fields.Alike names) (j.fields? names) (j'.fields? names) := by
  rcases h.cases with ⟨items, items', rfl, rfl, hitems⟩ | ⟨members, members', rfl, rfl, hmembers⟩
  · rw [Json.fields?, Json.fields?, hitems.length_eq]
    split
    · exact .some fun name _ => lookup_zip_rel hitems names name
    · exact .none
  · rcases hmembers with hperm | hsame
    · rw [Json.fields?, Json.fields?, isRecord_perm hperm]
      split
      · rename_i hrecord
        rw [← isRecord_perm hperm] at hrecord
        refine .some fun name hname => ?_
        change Option.Rel Reordered (member? members name) (member? members' name)
        rw [member?_perm hname hrecord hperm]
        cases member? members' name with
        | none => exact .none
        | some v => exact .some .refl
      · exact .none
    · rw [Json.fields?, Json.fields?, isRecord_congr hsame.map_fst_eq]
      split
      · exact .some fun name _ => hsame.member? name
      · exact .none

/-- What follows on related results is the same if it is the same for related values. -/
lemma bind_eq_of_rel {β γ δ : Type} {R : β → γ → Prop} {x : Option β} {y : Option γ}
    {f : β → Option δ} {g : γ → Option δ} (h : Option.Rel R x y)
    (hfg : ∀ b c, R b c → f b = g c) : x.bind f = y.bind g := by
  cases h with
  | none => rfl
  | some hbc => exact hfg _ _ hbc

/-- Results that follow on related results are related if they are for related values. -/
lemma rel_bind {β γ δ ε : Type} {R : β → γ → Prop} {S : δ → ε → Prop} {x : Option β} {y : Option γ}
    {f : β → Option δ} {g : γ → Option ε} (h : Option.Rel R x y)
    (hfg : ∀ b c, R b c → Option.Rel S (f b) (g c)) : Option.Rel S (x.bind f) (y.bind g) := by
  cases h with
  | none => exact .none
  | some hbc => exact hfg _ _ hbc

/-- A record is read in any order if alike fields are read alike. -/
lemma ignoresOrder_record {β : Type} {names : List String} {body : Fields → Option β}
    (h : ∀ f f' : Fields, f.Alike names f' → body f = body f') :
    IgnoresOrder fun j => j.fields? names >>= body :=
  ignoresOrder_of_swaps fun _ _ hswaps => bind_eq_of_rel (hswaps.fields? names) h

end Json

namespace Json

/-- Reads what may be `null`. -/
def orNull? {β : Type} (read? : Json → Option β) : Json → Option (Option β)
  | .null => some none
  | v => (read? v).map some

lemma orNull?_ignoresOrder {β : Type} {read? : Json → Option β} (h : IgnoresOrder read?) :
    IgnoresOrder (orNull? read?) := by
  refine ignoresOrder_of_swaps fun j j' hswaps => ?_
  have hread := h j j' (.single hswaps)
  rcases hswaps.cases with ⟨_, _, rfl, rfl, -⟩ | ⟨_, _, rfl, rfl, -⟩
  · exact congrArg (Option.map some) hread
  · exact congrArg (Option.map some) hread

end Json

/-- A field that may be absent or `null` is absent by itself, or read as what may be `null`. -/
lemma Fields.optional_eq {β : Type} (f : Fields) (name : String) (read? : Json → Option β) :
    f.optional name read? = f.getD name none (Json.orNull? read?) := by
  rw [optional, getD]
  cases f.get? name with
  | none => rfl
  | some v => cases v <;> rfl

namespace Fields.Alike

open Json (IgnoresOrder)

variable {β : Type} {names : List String} {f f' : Fields} (h : f.Alike names f')
  {read? : Json → Option β}

include h

lemma need (name : String) (hname : name ∈ names) (hread : IgnoresOrder read?) :
    f.need name read? = f'.need name read? :=
  Json.bind_eq_of_rel (h name hname) hread

lemma getD (name : String) (hname : name ∈ names) (absent : β) (hread : IgnoresOrder read?) :
    f.getD name absent read? = f'.getD name absent read? := by
  have hrel := h name hname
  rw [Fields.getD, Fields.getD]
  generalize f.get? name = v at hrel ⊢
  generalize f'.get? name = v' at hrel ⊢
  cases hrel with
  | none => rfl
  | some hvalue => exact hread _ _ hvalue

lemma optional (name : String) (hname : name ∈ names) (hread : IgnoresOrder read?) :
    f.optional name read? = f'.optional name read? := by
  rw [optional_eq, optional_eq]
  exact h.getD name hname none (Json.orNull?_ignoresOrder hread)

lemma word (name : String) (hname : name ∈ names) : f.word name = f'.word name :=
  h.optional name hname Json.text?_ignoresOrder

lemma number {α : Type} [Scalar α] [Numeric α] (name : String) (hname : name ∈ names) :
    (f.number name : Option (Option α)) = f'.number name :=
  h.getD name hname none Json.lenient?_ignoresOrder

end Fields.Alike

/-! ### Named values

Objects with one member may stand for a name. -/

namespace Json

variable {β : Type}

/-- A reader that looks into objects with one member at most ignores the order if it does so in the
value of this member. -/
lemma ignoresOrder_of_one {read? : Json → Option β} (harray : ∀ items, read? (.array items) = none)
    (hmany : ∀ m n rest, read? (.object (m :: n :: rest)) = none)
    (hone : ∀ key, IgnoresOrder fun v => read? (.object [(key, v)])) : IgnoresOrder read? := by
  refine ignoresOrder_of_swaps fun j j' hswaps => ?_
  rcases hswaps.cases with ⟨_, _, rfl, rfl, -⟩ | ⟨members, members', rfl, rfl, hperm | hsame⟩
  · rw [harray, harray]
  · match members, members', hperm with
    | [], _, hperm => rw [hperm.nil_eq]
    | [m], _, hperm => rw [List.singleton_perm.mp hperm]
    | _ :: _ :: _, _ :: _ :: _, _ => rw [hmany, hmany]
    | _ :: _ :: _, [], hperm => exact absurd hperm.length_eq (by simp)
    | _ :: _ :: _, [_], hperm => exact absurd hperm.length_eq (by simp)
  · match members, members', hsame with
    | [], _, .nil => rfl
    | [(key, v)], [(key', v')], .cons hm .nil =>
      obtain rfl : key = key' := hm.1
      exact hone key v v' hm.2
    | _ :: _ :: _, _ :: _ :: _, _ => rw [hmany, hmany]

variable [Named β]

lemma named?_ignoresOrder : IgnoresOrder (named? : Json → Option β) := by
  refine ignoresOrder_of_one (fun _ => rfl) (fun m _ _ => ?_) fun key => ?_
  · obtain ⟨key, v⟩ := m
    cases v <;> rfl
  · exact ignoresOrder_of_flat (fun _ => rfl) fun _ => rfl

lemma keptNamed?_ignoresOrder : IgnoresOrder (keptNamed? : Json → Option β) := by
  refine ignoresOrder_of_one (fun _ => rfl) (fun m _ _ => ?_) fun key => ?_
  · obtain ⟨key, v⟩ := m
    cases v with
    | object members => cases members <;> rfl
    | null | bool | number | string | array => rfl
  refine ignoresOrder_of_swaps fun j j' hswaps => ?_
  rcases hswaps.cases with ⟨_, _, rfl, rfl, -⟩ | ⟨members, members', rfl, rfl, hmembers⟩
  · rfl
  · -- only an empty object counts, and an empty object has one order
    have hlength : members.length = members'.length :=
      hmembers.elim List.Perm.length_eq List.Forall₂.length_eq
    match members, members', hlength with
    | [], [], _ => rfl
    | _ :: _, _ :: _, _ => rfl

end Json

/-! ### Scenes, poses, results and requests -/

section Records

open Json (IgnoresOrder ignoresOrder_record ignoresOrder_of_swaps scalar?_ignoresOrder
  text?_ignoresOrder list?_ignoresOrder named?_ignoresOrder)

lemma Diagnostic.ofJson?_ignoresOrder : IgnoresOrder Diagnostic.ofJson? :=
  ignoresOrder_record fun f f' h => by
    rw [h.need "step_index" (by decide) Json.index?_ignoresOrder,
      h.need "primitive" (by decide) named?_ignoresOrder,
      h.need "kind" (by decide) named?_ignoresOrder,
      h.need "message" (by decide) text?_ignoresOrder]

lemma Report.ofJson?_ignoresOrder : IgnoresOrder Report.ofJson? :=
  ignoresOrder_record fun f f' h => by
    rw [h.need "is_valid" (by decide) Json.bool?_ignoresOrder,
      h.need "errors" (by decide) (list?_ignoresOrder text?_ignoresOrder),
      h.need "warnings" (by decide) (list?_ignoresOrder text?_ignoresOrder)]

variable {α : Type} [Scalar α] [Numeric α]

lemma Vec.ofJson?_ignoresOrder : IgnoresOrder (Vec.ofJson? : Json → Option (Vec α)) := by
  refine ignoresOrder_of_swaps fun j j' hswaps => ?_
  rcases hswaps.cases with ⟨_, _, rfl, rfl, hitems⟩ | ⟨_, _, rfl, rfl, -⟩
  · rcases hitems with _ | ⟨hx, _ | ⟨hy, _ | ⟨hz, _ | _⟩⟩⟩
    case cons.cons.cons.nil =>
      simp only [Vec.ofJson?, scalar?_ignoresOrder _ _ hx, scalar?_ignoresOrder _ _ hy,
        scalar?_ignoresOrder _ _ hz]
    all_goals rfl
  · rfl

lemma Box.ofJson?_ignoresOrder : IgnoresOrder (Box.ofJson? : Json → Option (Box α)) :=
  ignoresOrder_record fun f f' h => by
    rw [h.need "min" (by decide) Vec.ofJson?_ignoresOrder,
      h.need "max" (by decide) Vec.ofJson?_ignoresOrder,
      h.need "center" (by decide) Vec.ofJson?_ignoresOrder]

lemma Feature.ofJson?_ignoresOrder : IgnoresOrder (Feature.ofJson? : Json → Option (Feature α)) :=
  ignoresOrder_record fun f f' h => by
    rw [h.need "id" (by decide) text?_ignoresOrder,
      h.getD "description" (by decide) "" text?_ignoresOrder,
      h.need "position" (by decide) Vec.ofJson?_ignoresOrder]

lemma Scene.ofJson?_ignoresOrder : IgnoresOrder (Scene.ofJson? : Json → Option (Scene α)) :=
  ignoresOrder_record fun f f' h => by
    rw [h.optional "bounds" (by decide) Box.ofJson?_ignoresOrder,
      h.getD "features" (by decide) [] (list?_ignoresOrder Feature.ofJson?_ignoresOrder)]

lemma Envelope.ofJson?_ignoresOrder :
    IgnoresOrder (Envelope.ofJson? : Json → Option (Envelope α)) :=
  ignoresOrder_record fun f f' h => by
    rw [h.need "minDistance" (by decide) scalar?_ignoresOrder,
      h.need "maxDistance" (by decide) scalar?_ignoresOrder,
      h.need "minHeight" (by decide) scalar?_ignoresOrder,
      h.need "maxHeight" (by decide) scalar?_ignoresOrder]

lemma Surroundings.ofJson?_ignoresOrder :
    IgnoresOrder (Surroundings.ofJson? : Json → Option (Surroundings α)) :=
  ignoresOrder_record fun f f' h => by
    rw [h.optional "cameraConstraints" (by decide) Envelope.ofJson?_ignoresOrder,
      h.getD "userVerticalAdjustment" (by decide) 0 scalar?_ignoresOrder]

lemma Pose.ofJson?_ignoresOrder : IgnoresOrder (Pose.ofJson? : Json → Option (Pose α)) :=
  ignoresOrder_record fun f f' h => by
    rw [h.need "position" (by decide) Vec.ofJson?_ignoresOrder,
      h.need "target" (by decide) Vec.ofJson?_ignoresOrder]

lemma Keyframe.ofJson?_ignoresOrder :
    IgnoresOrder (Keyframe.ofJson? : Json → Option (Keyframe α)) :=
  ignoresOrder_record fun f f' h => by
    rw [h.need "position" (by decide) Vec.ofJson?_ignoresOrder,
      h.need "target" (by decide) Vec.ofJson?_ignoresOrder,
      h.need "duration" (by decide) scalar?_ignoresOrder,
      h.need "easing" (by decide) named?_ignoresOrder]

lemma Interpretation.ofJson?_ignoresOrder :
    IgnoresOrder (Interpretation.ofJson? : Json → Option (Interpretation α)) :=
  ignoresOrder_record fun f f' h => by
    rw [h.need "commands" (by decide) (list?_ignoresOrder Keyframe.ofJson?_ignoresOrder),
      h.need "final_state" (by decide) Pose.ofJson?_ignoresOrder,
      h.need "step_durations" (by decide) (list?_ignoresOrder scalar?_ignoresOrder),
      h.need "diagnostics" (by decide) (list?_ignoresOrder Diagnostic.ofJson?_ignoresOrder)]

lemma Hold.ofJson?_ignoresOrder : IgnoresOrder Hold.ofJson? :=
  ignoresOrder_record fun f f' h => by rw [h.word "speed" (by decide)]

lemma Relocation.ofJson?_ignoresOrder : IgnoresOrder Relocation.ofJson? :=
  ignoresOrder_record fun f f' h => by
    rw [h.word "target" (by decide), h.word "look_at" (by decide),
      h.word "distance_descriptor" (by decide), h.word "speed" (by decide),
      h.word "easing" (by decide)]

lemma Refocus.ofJson?_ignoresOrder : IgnoresOrder Refocus.ofJson? :=
  ignoresOrder_record fun f f' h => by
    rw [h.word "target" (by decide),
      h.optional "adjust_framing" (by decide) Json.bool?_ignoresOrder, h.word "speed" (by decide),
      h.word "easing" (by decide)]

lemma Zoom.ofJson?_ignoresOrder : IgnoresOrder (Zoom.ofJson? : Json → Option (Zoom α)) :=
  ignoresOrder_record fun f f' h => by
    rw [h.word "direction" (by decide), h.number "factor" (by decide),
      h.word "factor_descriptor" (by decide), h.word "target_distance_descriptor" (by decide),
      h.word "speed" (by decide), h.word "easing" (by decide)]

lemma Dolly.ofJson?_ignoresOrder : IgnoresOrder (Dolly.ofJson? : Json → Option (Dolly α)) :=
  ignoresOrder_record fun f f' h => by
    rw [h.word "direction" (by decide), h.number "distance" (by decide),
      h.word "distance_descriptor" (by decide), h.word "destination_target" (by decide),
      h.word "target_distance_descriptor" (by decide), h.word "speed" (by decide),
      h.word "easing" (by decide)]

lemma Slide.ofJson?_ignoresOrder : IgnoresOrder (Slide.ofJson? : Json → Option (Slide α)) :=
  ignoresOrder_record fun f f' h => by
    rw [h.word "direction" (by decide), h.number "distance" (by decide),
      h.word "distance_descriptor" (by decide), h.word "destination_target" (by decide),
      h.word "speed" (by decide), h.word "easing" (by decide)]

lemma Orbit.ofJson?_ignoresOrder : IgnoresOrder (Orbit.ofJson? : Json → Option (Orbit α)) :=
  ignoresOrder_record fun f f' h => by
    rw [h.word "direction" (by decide), h.number "angle" (by decide),
      h.word "angle_descriptor" (by decide), h.word "axis" (by decide),
      h.word "target" (by decide), h.number "radius_factor" (by decide),
      h.word "speed" (by decide), h.word "easing" (by decide)]

lemma Turn.ofJson?_ignoresOrder : IgnoresOrder (Turn.ofJson? : Json → Option (Turn α)) :=
  ignoresOrder_record fun f f' h => by
    rw [h.word "direction" (by decide), h.number "angle" (by decide),
      h.word "angle_descriptor" (by decide), h.word "axis" (by decide),
      h.word "target" (by decide), h.word "speed" (by decide), h.word "easing" (by decide)]

end Records

/-! ### Steps and plans -/

section Plans

open Json (IgnoresOrder Reordered Swaps Fits ignoresOrder_record ignoresOrder_of_swaps
  scalar?_ignoresOrder list?_ignoresOrder keptNamed?_ignoresOrder named?_ignoresOrder)

variable {α : Type} [Scalar α] [Numeric α]

lemma Move.ofParameters?_ignoresOrder (kind : MoveKind) :
    IgnoresOrder (Move.ofParameters? kind : Json → Option (Move α)) := by
  intro j j' h
  cases kind with
  | hold => exact congrArg (Option.map _) (Hold.ofJson?_ignoresOrder j j' h)
  | zoom => exact congrArg (Option.map _) (Zoom.ofJson?_ignoresOrder j j' h)
  | orbit => exact congrArg (Option.map _) (Orbit.ofJson?_ignoresOrder j j' h)
  | dolly => exact congrArg (Option.map _) (Dolly.ofJson?_ignoresOrder j j' h)
  | moveTo => exact congrArg (Option.map _) (Relocation.ofJson?_ignoresOrder j j' h)
  | focusOn => exact congrArg (Option.map _) (Refocus.ofJson?_ignoresOrder j j' h)
  | pan | tilt | rotate => exact congrArg (Option.map _) (Turn.ofJson?_ignoresOrder j j' h)
  | truck | pedestal => exact congrArg (Option.map _) (Slide.ofJson?_ignoresOrder j j' h)

/-- A value fits in any order of members. -/
lemma Json.Reordered.fits {j j' : Json} (h : Reordered j j') {n : ℕ} (hfits : Fits α n j) :
    Fits α n j' := by
  induction h with
  | refl => exact hfits
  | tail _ hswaps ih =>
    obtain ⟨place, hperm⟩ := hswaps
    refine place.fits_fill (fun n hobject => ?_) ih
    obtain ⟨m, rfl, hmembers⟩ := Json.fits_object_iff.mp hobject
    exact Json.fits_object_iff.mpr ⟨m, rfl, fun member h => hmembers member (hperm.mem_iff.mpr h)⟩

/-- Orders of members can be undone. -/
lemma Json.Reordered.symm {j j' : Json} (h : Reordered j j') : Reordered j' j := by
  induction h with
  | refl => exact .refl
  | tail _ hswaps ih =>
    obtain ⟨place, hperm⟩ := hswaps
    exact .head ⟨place, hperm.symm⟩ ih

/-- A value can be kept in any order of members. -/
lemma Json.Reordered.isKeepable_eq {j j' : Json} (h : Reordered j j') (enclosing : ℕ) :
    Move.isKeepable α enclosing j = Move.isKeepable α enclosing j' :=
  Bool.eq_iff_iff.mpr ⟨Json.isKeepable_of_fits fun _ => h.fits,
    Json.isKeepable_of_fits fun _ => h.symm.fits⟩

/-- After a change of order, the members of an object can all be kept or cannot as before. -/
lemma Json.all_isKeepable_eq {members members' : List (Option String × Json)} (enclosing : ℕ)
    (h : members.Perm members' ∨ Json.SameMembers members members') :
    members.all (fun m => Move.isKeepable α enclosing m.2) =
      members'.all fun m => Move.isKeepable α enclosing m.2 := by
  rcases h with hperm | hsame
  · exact hperm.all_eq
  · induction hsame with
    | nil => rfl
    | cons hm _ ih => rw [List.all_cons, List.all_cons, hm.2.isKeepable_eq, ih]

lemma Step.ofJson?_ignoresOrder (enclosing : ℕ) :
    IgnoresOrder (Step.ofJson? enclosing : Json → Option (Step α)) := by
  refine ignoresOrder_of_swaps fun j j' hswaps => ?_
  rcases hswaps.cases with ⟨_, _, rfl, rfl, -⟩ | ⟨members, members', rfl, rfl, hmembers⟩
  · rfl
  · refine Json.bind_eq_of_rel (hswaps.fields? _) fun f f' h => ?_
    rw [Json.all_isKeepable_eq enclosing hmembers,
      h.need "type" (by decide) keptNamed?_ignoresOrder]
    split
    · refine congrArg (Option.bind _) (funext fun kind => ?_)
      rw [h.need "parameters" (by decide) (Move.ofParameters?_ignoresOrder kind),
        h.need "duration_ratio" (by decide) scalar?_ignoresOrder]
    · rfl

lemma Plan.metadata?_ignoresOrder : IgnoresOrder (Plan.metadata? : Json → Option α) :=
  ignoresOrder_record fun f f' h => by
    rw [h.need "requested_duration" (by decide) scalar?_ignoresOrder]

lemma Plan.ofJson?_ignoresOrder : IgnoresOrder (Plan.ofJson? : Json → Option (Plan α)) :=
  ignoresOrder_record fun f f' h => by
    rw [h.need "steps" (by decide) (list?_ignoresOrder (Step.ofJson?_ignoresOrder 3)),
      h.need "metadata" (by decide) Plan.metadata?_ignoresOrder]

/-! ### A move alone -/

namespace Move

/-- Whether a move alone has its parameters in front of its type. -/
def hasTypeLast : Json → Bool
  | .object members => isTypeLast members
  | _ => false

/-- The parameters of a move alone, not read yet. -/
def rawParameters? (j : Json) : Option Json :=
  (j.fields? ["type", "parameters"]).bind fun f => f.get? "parameters"

/-- Whether the parameters of a move alone, if there are any, could be kept until its type is
known. -/
def keepsParameters (α : Type) [Scalar α] [Numeric α] (j : Json) : Bool :=
  (rawParameters? j).all (isKeepable α 1)

/-- Reads a move on its own without regard to where its type stands. -/
def ofMembers? : Json → Option (Move α)
  | .array [type, parameters] => type.bareNamed?.bind fun kind => ofParameters? kind parameters
  | .object members => do
    let f ← (Json.object members).fields? ["type", "parameters"]
    let kind ← f.need "type" Json.named?
    f.need "parameters" (ofParameters? kind)
  | _ => none

/-- **The order of a move alone.**  A move alone is read wherever its type stands, but for
parameters in front of the type that cannot be kept. -/
theorem ofJson?_eq (j : Json) : (ofJson? j : Option (Move α)) =
    if hasTypeLast j && !keepsParameters α j then none else ofMembers? j := by
  cases j with
  | null | bool | number | string => rfl
  | array items =>
    -- an array has its type in front
    change ofJson? (Json.array items) = ofMembers? (Json.array items)
    match items with
    | [] | [_] | [_, _] | _ :: _ :: _ :: _ => rfl
  | object members =>
    rw [ofJson?, ofMembers?, hasTypeLast, keepsParameters, rawParameters?]
    cases (Json.object members).fields? ["type", "parameters"] with
    | none => exact (ite_self _).symm
    | some f =>
      change ((f.need "type" Json.named?).bind fun kind => (f.get? "parameters").bind
        fun parameters => if isTypeLast members && !isKeepable α 1 parameters then none
          else ofParameters? kind parameters) = _
      cases hkind : f.need "type" (Json.named? : Json → Option MoveKind) with
      | none => simp [hkind]
      | some kind =>
        have hneed : f.need "parameters" (ofParameters? kind : Json → Option (Move α)) =
          (f.get? "parameters").bind (ofParameters? kind) := rfl
        cases hparameters : f.get? "parameters" <;> simp [hkind, hneed, hparameters]

lemma ofMembers?_ignoresOrder : IgnoresOrder (ofMembers? : Json → Option (Move α)) := by
  refine ignoresOrder_of_swaps fun j j' hswaps => ?_
  rcases hswaps.cases with ⟨_, _, rfl, rfl, hitems⟩ | ⟨_, _, rfl, rfl, -⟩
  · rcases hitems with _ | ⟨htype, _ | ⟨hparameters, _ | _⟩⟩
    case cons.cons.nil =>
      rw [ofMembers?, Json.bareNamed?_ignoresOrder _ _ htype, ofMembers?]
      exact congrArg (Option.bind _) (funext fun kind =>
        ofParameters?_ignoresOrder kind _ _ hparameters)
    all_goals rfl
  · refine Json.bind_eq_of_rel (hswaps.fields? _) fun f f' h => ?_
    rw [h.need "type" (by decide) named?_ignoresOrder]
    exact congrArg (Option.bind _) (funext fun kind =>
      h.need "parameters" (by decide) (ofParameters?_ignoresOrder kind))

/-- Whether parameters could be kept does not depend on the order of members. -/
lemma keepsParameters_eq {j j' : Json} (h : Reordered j j') :
    keepsParameters α j = keepsParameters α j' := by
  induction h with
  | refl => rfl
  | @tail b c _ hswaps ih =>
    refine ih.trans ?_
    have hraw : Option.Rel Reordered (rawParameters? b) (rawParameters? c) :=
      Json.rel_bind (hswaps.fields? _) fun f f' h => h "parameters" (by decide)
    rw [keepsParameters, keepsParameters]
    generalize rawParameters? b = v at hraw ⊢
    generalize rawParameters? c = v' at hraw ⊢
    cases hraw with
    | none => rfl
    | some hvalue => exact hvalue.isKeepable_eq 1

end Move

/-! ### Texts -/

/-- Reads a text as one value. -/
def Json.readText? {β : Type} (read? : Json → Option β) (text : String) : Option β :=
  (Json.parse? text.toList).bind read?

/-- Whether two texts say the same for every type of value but a move alone: both give the same
value, or neither gives one. -/
structure ReadAlike (α : Type) [Scalar α] [Numeric α] (s s' : String) : Prop where
  plan : (Json.readText? Plan.ofJson? s : Option (Plan α)) = Json.readText? Plan.ofJson? s'
  step : (Json.readText? (Step.ofJson? 1) s : Option (Step α)) = Json.readText? (Step.ofJson? 1) s'
  metadata : (Json.readText? Plan.metadata? s : Option α) = Json.readText? Plan.metadata? s'
  scene : (Json.readText? Scene.ofJson? s : Option (Scene α)) = Json.readText? Scene.ofJson? s'
  feature :
    (Json.readText? Feature.ofJson? s : Option (Feature α)) = Json.readText? Feature.ofJson? s'
  bounds : (Json.readText? Box.ofJson? s : Option (Box α)) = Json.readText? Box.ofJson? s'
  surroundings : (Json.readText? Surroundings.ofJson? s : Option (Surroundings α)) =
    Json.readText? Surroundings.ofJson? s'
  envelope :
    (Json.readText? Envelope.ofJson? s : Option (Envelope α)) = Json.readText? Envelope.ofJson? s'
  pose : (Json.readText? Pose.ofJson? s : Option (Pose α)) = Json.readText? Pose.ofJson? s'
  keyframe :
    (Json.readText? Keyframe.ofJson? s : Option (Keyframe α)) = Json.readText? Keyframe.ofJson? s'
  diagnostic : Json.readText? Diagnostic.ofJson? s = Json.readText? Diagnostic.ofJson? s'
  report : Json.readText? Report.ofJson? s = Json.readText? Report.ofJson? s'
  interpretation : (Json.readText? Interpretation.ofJson? s : Option (Interpretation α)) =
    Json.readText? Interpretation.ofJson? s'

/-- **Members in any order.**  Two texts whose values are the same up to the order of members, of
any objects at any depth, are read alike.  The same holds of a move alone whenever both are read,
and even if one is not, provided that the type and the parameters stand in the same order in both or
that the parameters can be kept. -/
theorem read_of_reordered {s s' : String} {j j' : Json} (hs : Json.parse? s.toList = some j)
    (hs' : Json.parse? s'.toList = some j') (h : Reordered j j') :
    ReadAlike α s s' ∧
      (∀ m m' : Move α, Json.readText? Move.ofJson? s = some m →
        Json.readText? Move.ofJson? s' = some m' → m = m') ∧
      (Move.hasTypeLast j = Move.hasTypeLast j' ∨ Move.keepsParameters α j = true →
        (Json.readText? Move.ofJson? s : Option (Move α)) = Json.readText? Move.ofJson? s') := by
  have hread {β : Type} {read? : Json → Option β} (hread : IgnoresOrder read?) :
      Json.readText? read? s = Json.readText? read? s' := by
    rw [Json.readText?, Json.readText?, hs, hs', Option.bind_some, Option.bind_some]
    exact hread j j' h
  have hmove : (Move.ofMembers? j : Option (Move α)) = Move.ofMembers? j' :=
    Move.ofMembers?_ignoresOrder j j' h
  simp only [Json.readText?, hs, hs', Option.bind_some, Move.ofJson?_eq,
    ← Move.keepsParameters_eq (α := α) h, ← hmove]
  refine ⟨?_, fun m m' hm hm' => ?_, ?_⟩
  · exact
      { plan := hread Plan.ofJson?_ignoresOrder
        step := hread (Step.ofJson?_ignoresOrder 1)
        metadata := hread Plan.metadata?_ignoresOrder
        scene := hread Scene.ofJson?_ignoresOrder
        feature := hread Feature.ofJson?_ignoresOrder
        bounds := hread Box.ofJson?_ignoresOrder
        surroundings := hread Surroundings.ofJson?_ignoresOrder
        envelope := hread Envelope.ofJson?_ignoresOrder
        pose := hread Pose.ofJson?_ignoresOrder
        keyframe := hread Keyframe.ofJson?_ignoresOrder
        diagnostic := hread Diagnostic.ofJson?_ignoresOrder
        report := hread Report.ofJson?_ignoresOrder
        interpretation := hread Interpretation.ofJson?_ignoresOrder }
  · rw [Option.ite_none_left_eq_some] at hm hm'
    exact Option.some.inj (hm.2.symm.trans hm'.2)
  · rintro (hlast | hkeeps)
    · rw [hlast]
    · rw [hkeeps, Bool.not_true, Bool.and_false, Bool.and_false]

/-- A plan of one step, and the same plan with the members of the step and its own the other way
round. -/
theorem read_of_reordered_still :
    let step := Json.object
      [(some "type", .text "static"), (some "parameters", .object []),
        (some "duration_ratio", .ofNat 1)]
    let step' := Json.object
      [(some "duration_ratio", .ofNat 1), (some "parameters", .object []),
        (some "type", .text "static")]
    let time := Json.object [(some "requested_duration", .ofNat 2)]
    let j := Json.object [(some "steps", .array [step]), (some "metadata", time)]
    let j' := Json.object [(some "metadata", time), (some "steps", .array [step'])]
    Json.parse? j.toText.toList = some j ∧ Json.parse? j'.toText.toList = some j' ∧
      Reordered j j' ∧ ReadAlike Float j.toText j'.toText := by
  intro step step' time j j'
  have hmembers : Reordered j (.object [(some "metadata", time), (some "steps", .array [step])]) :=
    .single ⟨.whole, .swap _ _ []⟩
  have hstep : Reordered (.object [(some "metadata", time), (some "steps", .array [step])]) j' :=
    .single ⟨.member [(some "metadata", time)] (some "steps") (.item [] .whole []) [],
      (List.reverse_perm _).symm⟩
  have hreordered : Reordered j j' := hmembers.trans hstep
  have hread := read_of_reordered (α := Float) (Json.parse?_toText j) (Json.parse?_toText j')
    hreordered
  exact ⟨Json.parse?_toText j, Json.parse?_toText j', hreordered, hread.1⟩

/-- A move alone is read if its type comes first, and is not if parameters come first that hold a
string without a meaning. -/
theorem not_read_of_reordered_move :
    let parameters := Json.object [(some "q", .string none)]
    let j := Json.object [(some "type", .text "static"), (some "parameters", parameters)]
    let j' := Json.object [(some "parameters", parameters), (some "type", .text "static")]
    let s := "\x7b\"type\":\"static\",\"parameters\":\x7b\"q\":\"\\ud800\"\x7d\x7d"
    let s' := "\x7b\"parameters\":\x7b\"q\":\"\\ud800\"\x7d,\"type\":\"static\"\x7d"
    Json.parse? s.toList = some j ∧ Json.parse? s'.toList = some j' ∧ Reordered j j' ∧
      (Json.readText? Move.ofJson? s : Option (Move Float)) = some (.hold ⟨none⟩) ∧
      (Json.readText? Move.ofJson? s' : Option (Move Float)) = none := by
  intro parameters j j' s s'
  have hs : Json.parse? s.toList = some j := Json.parse?_toText j
  have hs' : Json.parse? s'.toList = some j' := Json.parse?_toText j'
  refine ⟨hs, hs', .single ⟨.whole, .swap _ _ []⟩, ?_, ?_⟩
  · rw [Json.readText?, hs, Option.bind_some]
    rfl
  · rw [Json.readText?, hs', Option.bind_some]
    rfl

end Plans

end Cinematics
