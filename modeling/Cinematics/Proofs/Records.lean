import Mathlib.Data.List.Nodup
import Cinematics.Document.Move

/-!
# Written fields are read as they are

A record is written with all its fields, in the order of their declaration, and `Json.fields?` finds
each of them again (`Json.fields?_ofMembers`).  What a field holds then depends on how it is read:
there is one lemma for each way.  A number comes back if it is an ordinary one and if its digits
were chosen well, which `Numeric.Writable` asks of a list of scalars; how digits are chosen and how
they round is not looked into here.  The last section bounds what has to be kept before its type is
known.
-/

namespace Cinematics

/-! ### Scalars -/

namespace Numeric

variable {α : Type} [Scalar α] [Numeric α]

/-- Whether a scalar that is an ordinary number is written so that it reads back as the same. -/
def Faithful (x : α) : Prop :=
  Scalar.isFinite x = true → ∃ n, numeral? x = some n ∧ read? n = some x

/-- Scalars that documents can hold: all are ordinary numbers, and are written so that they read
back. -/
structure Writable (xs : List α) : Prop where
  /-- All scalars are ordinary numbers. -/
  finite : ∀ x ∈ xs, Scalar.isFinite x = true
  /-- All scalars are written so that they read back. -/
  faithful : ∀ x ∈ xs, Faithful x

namespace Writable

variable {xs ys : List α}

/-- Some of the scalars that documents can hold. -/
lemma mono (h : Writable ys) (hsub : xs ⊆ ys) : Writable xs :=
  ⟨fun x hx => h.finite x (hsub hx), fun x hx => h.faithful x (hsub hx)⟩

lemma left (h : Writable (xs ++ ys)) : Writable xs := h.mono (List.subset_append_left xs ys)

lemma right (h : Writable (xs ++ ys)) : Writable ys := h.mono (List.subset_append_right xs ys)

/-- The scalars of one of several things whose scalars documents can hold. -/
lemma of_mem {β : Type} {scalars : β → List α} {items : List β} {b : β}
    (h : Writable (items.flatMap scalars)) (hb : b ∈ items) : Writable (scalars b) :=
  h.mono fun _ hx => List.mem_flatMap.mpr ⟨b, hb, hx⟩

end Writable

end Numeric

namespace Json

open Numeric (Writable)

section Scalars

variable {α : Type} [Scalar α] [Numeric α]

/-- A scalar that documents can hold is written as a number that fits. -/
lemma ofScalar_eq {xs : List α} {x : α} (h : Writable xs) (hx : x ∈ xs) :
    ∃ n, ofScalar x = .number n ∧ Numeric.read? n = some x := by
  obtain ⟨n, hn, hread⟩ := h.faithful x hx (h.finite x hx)
  refine ⟨n, ?_, hread⟩
  rw [ofScalar, hn]

/-- A scalar that documents can hold is read as it was written. -/
lemma scalar?_ofScalar {xs : List α} {x : α} (h : Writable xs) (hx : x ∈ xs) :
    scalar? (ofScalar x) = some x := by
  obtain ⟨n, hn, hread⟩ := ofScalar_eq h hx
  rw [hn]
  exact hread

/-- A number that may be absent is read leniently as it was written. -/
lemma lenient?_ofNumber {o : Option α} (h : Writable o.toList) :
    lenient? (ofNumber o) = some o := by
  cases o with
  | none => rfl
  | some x =>
    obtain ⟨n, hn, hread⟩ := ofScalar_eq h (List.mem_singleton.mpr rfl)
    have hjson : ofNumber (some x) = .number n := hn
    rw [hjson, lenient?, hread, Option.map_some]

end Scalars

/-! ### Lists and names -/

/-- A list is read as it was written if its items are. -/
lemma list?_map {β : Type} {toJson : β → Json} {read? : Json → Option β} {items : List β}
    (h : ∀ b ∈ items, read? (toJson b) = some b) :
    list? read? (.array (items.map toJson)) = some items := by
  rw [list?]
  induction items with
  | nil => rfl
  | cons b items ih =>
    obtain ⟨hb, hitems⟩ := List.forall_mem_cons.mp h
    rw [List.map_cons, List.mapM_cons, hb, ih hitems]
    rfl

/-- A natural number of at most 64 bits is read as it was written. -/
lemma index?_ofNat {n : ℕ} (hn : n < UInt64.size) : index? (ofNat n) = some n := by
  have hnatural : (Numeral.ofNat n).natural? = some n := rfl
  rw [ofNat, index?, hnatural, Option.filter_some, if_pos (decide_eq_true hn)]

end Json

/-- Whether every value is found by its name. -/
def Named.Distinct (β : Type) [Named β] : Prop :=
  ∀ b : β, Named.ofName? (Named.name b) = some b

namespace Json

/-- A named value is read as it was written. -/
lemma named?_ofNamed {β : Type} [Named β] (h : Named.Distinct β) (b : β) :
    named? (ofNamed b) = some b := h b

/-- A named value that has been kept is read as it was written. -/
lemma keptNamed?_ofNamed {β : Type} [Named β] (h : Named.Distinct β) (b : β) :
    keptNamed? (ofNamed b) = some b := h b

/-! ### Records -/

/-- Members as an object holds them, whose keys spell texts. -/
def spelled (members : List (String × Json)) : List (Option String × Json) :=
  members.map fun m => (some m.1, m.2)

/-- An object with members whose keys spell texts. -/
lemma ofMembers_eq (members : List (String × Json)) :
    ofMembers members = .object (spelled members) := rfl

/-- The members of a record are found by their keys. -/
lemma member?_spelled (members : List (String × Json)) (name : String) :
    member? (spelled members) name = members.lookup name := by
  induction members with
  | nil => rfl
  | cons m members ih =>
    obtain ⟨key, value⟩ := m
    have hkey : (some name == some key) = (name == key) := rfl
    rw [spelled, List.map_cons, member?, List.lookup_cons, List.lookup_cons, hkey]
    cases name == key with
    | true => rfl
    | false => exact ih

/-- Members whose keys differ are those of a record. -/
lemma isRecord_spelled {members : List (String × Json)} (h : (members.map Prod.fst).Nodup)
    (names : List String) : isRecord names (spelled members) = true := by
  -- an object has a key as often as the text of the key stands among the names
  have hcount (name : String) : isUnrepeated (spelled members) name = true := by
    have hle := List.nodup_iff_count_le_one.mp h name
    rw [isUnrepeated, decide_eq_true_eq, spelled, List.countP_map]
    rw [List.count, List.countP_map] at hle
    refine le_of_eq_of_le (List.countP_congr fun m _ => ?_) hle
    simp
  simp only [isRecord, spelled, Bool.and_eq_true, List.all_eq_true, List.mem_map]
  refine ⟨?_, fun name _ => hcount name⟩
  rintro _ ⟨m, -, rfl⟩
  rfl

/-- The fields of a record that has been written with its declared names. -/
lemma fields?_ofMembers {names : List String} {members : List (String × Json)}
    (hkeys : members.map Prod.fst = names) (hnames : names.Nodup) :
    (ofMembers members).fields? names = some ⟨fun name => members.lookup name⟩ := by
  have hnodup : (members.map Prod.fst).Nodup := by
    rw [hkeys]
    exact hnames
  rw [ofMembers_eq, fields?, if_pos (isRecord_spelled hnodup names)]
  exact congrArg (some ∘ Fields.mk) (funext (member?_spelled members))

end Json

namespace Fields

open Numeric (Writable)

variable {β : Type} {f : Fields} {name : String}

/-- A field that has to be present is read as its value is. -/
lemma need_of {v : Json} {read? : Json → Option β} {b : β} (hget : f.get? name = some v)
    (hread : read? v = some b) : f.need name read? = some b := by
  rw [need, hget, Option.bind_some, hread]

/-- A field with a value of its own is read as the value that is there. -/
lemma getD_of {v : Json} {absent : β} {read? : Json → Option β} {b : β}
    (hget : f.get? name = some v) (hread : read? v = some b) :
    f.getD name absent read? = some b := by
  rw [getD, hget]
  exact hread

/-- A field that may be absent is read as it was written, if only its absence is `null`. -/
lemma optional_of {toJson : β → Json} {read? : Json → Option β} {o : Option β}
    (hget : f.get? name = some (.ofOption toJson o)) (hnull : ∀ b, toJson b ≠ .null)
    (hread : ∀ b ∈ o, read? (toJson b) = some b) : f.optional name read? = some o := by
  rw [optional, hget]
  cases o with
  | none => rfl
  | some b =>
    rw [Json.ofOption]
    split
    · rename_i h
      cases h
    · rename_i h
      exact absurd (Option.some.inj h) (hnull b)
    · rename_i h
      obtain rfl := Option.some.inj h
      rw [hread b rfl, Option.map_some]

/-- A text that may be absent is read as it was written. -/
lemma word_of {w : Option String} (hget : f.get? name = some (Json.ofWord w)) :
    f.word name = some w :=
  optional_of hget (fun _ h => nomatch h) fun _ _ => rfl

/-- A number that may be absent is read as it was written. -/
lemma number_of {α : Type} [Scalar α] [Numeric α] {o : Option α}
    (hget : f.get? name = some (Json.ofNumber o)) (h : Writable o.toList) :
    f.number name = some o :=
  getD_of hget (Json.lenient?_ofNumber h)

end Fields

/-! ### What has to be kept -/

namespace Json

open Numeric (Writable)

variable {α : Type} [Scalar α] [Numeric α]

variable (α) in
/-- Whether a value is no deeper than a bound, spells all its texts and has only numbers that
fit. -/
structure Fits (height : ℕ) (v : Json) : Prop where
  /-- The value is no deeper than the bound. -/
  depth_le : v.depth ≤ height
  /-- The value spells all its texts and has only numbers that fit. -/
  meaningful : (v.allMeaningful fun n => (Numeric.read? n : Option α).isSome) = true

lemma fits_text (s : String) : Fits α 0 (text s) := ⟨Nat.le_refl _, rfl⟩

/-- A scalar that documents can hold fits. -/
lemma fits_ofScalar {xs : List α} {x : α} (h : Writable xs) (hx : x ∈ xs) :
    Fits α 0 (ofScalar x) := by
  obtain ⟨n, hn, hread⟩ := ofScalar_eq h hx
  rw [hn]
  refine ⟨Nat.le_refl _, ?_⟩
  rw [allMeaningful, hread, Option.isSome_some]

/-- What may be absent fits if what is there does. -/
lemma fits_ofOption {β : Type} {toJson : β → Json} {o : Option β}
    (h : ∀ b ∈ o, Fits α 0 (toJson b)) : Fits α 0 (ofOption toJson o) := by
  cases o with
  | none => exact ⟨Nat.le_refl _, rfl⟩
  | some b => exact h b rfl

lemma fits_ofWord (w : Option String) : Fits α 0 (ofWord w) :=
  fits_ofOption fun s _ => fits_text s

lemma fits_ofNumber {o : Option α} (h : Writable o.toList) : Fits α 0 (ofNumber o) :=
  fits_ofOption fun _ hx => fits_ofScalar h (Option.mem_toList.mpr hx)

/-- A record fits if its values do. -/
lemma fits_ofMembers {height : ℕ} {members : List (String × Json)}
    (h : ∀ m ∈ members, Fits α height m.2) : Fits α (height + 1) (ofMembers members) := by
  suffices hmembers : depthOfMembers (spelled members) ≤ height ∧
      allMeaningfulMembers (fun n => (Numeric.read? n : Option α).isSome) (spelled members) =
        true from
    ⟨Nat.succ_le_succ hmembers.1, hmembers.2⟩
  induction members with
  | nil => exact ⟨Nat.zero_le height, rfl⟩
  | cons m members ih =>
    obtain ⟨hm, hrest⟩ := List.forall_mem_cons.mp h
    obtain ⟨hdepth, hmeaningful⟩ := ih hrest
    refine ⟨Nat.max_le.mpr ⟨hm.depth_le, hdepth⟩, ?_⟩
    exact (Bool.and_eq_true _ _).mpr ⟨(Bool.true_and _).trans hm.meaningful, hmeaningful⟩

/-- What fits can be kept, if not too much is open around it. -/
lemma Fits.isKeepable {height enclosing : ℕ} {v : Json} (h : Fits α height v)
    (hopen : enclosing + height ≤ Move.depthLimit) : Move.isKeepable α enclosing v = true := by
  rw [Move.isKeepable, h.meaningful, Bool.and_true, decide_eq_true_eq]
  exact Nat.le_trans (Nat.add_le_add_left h.depth_le enclosing) hopen

end Json

end Cinematics
