import Cinematics.Proofs.Records

/-!
# Places in a value

A `Json.Place` is a value from which one part has been taken out, and `Json.Place.fill` puts a part
in.  So two documents that differ in one place only are two ways to fill it.  Two things are shown
of such documents.  What can be kept until its meaning is known still can with a part that is no
harder to keep (`Json.Place.fits_fill`).  And with another value for a declared member, the fields
of a record are the same but for this one (`Json.fields?_member`, `Json.fields?_first`).
-/

namespace Cinematics

namespace Json

/-! ### Places -/

/-- One step on the way into a value. -/
inductive Key where
  /-- To an item of an array, by its index. -/
  | index (n : ℕ)
  /-- To a member of an object, by its key. -/
  | name (s : Option String)

/-- A place in a value: all of the value but for what stands in this place. -/
inductive Place where
  /-- The place of the whole value. -/
  | whole
  /-- A place inside an item of an array. -/
  | item (before : List Json) (inside : Place) (after : List Json)
  /-- A place inside the value of a member of an object. -/
  | member (before : List (Option String × Json)) (key : Option String) (inside : Place)
      (after : List (Option String × Json))

namespace Place

/-- The value with a part put in a place. -/
def fill : Place → Json → Json
  | whole, v => v
  | item before inside after, v => .array (before ++ inside.fill v :: after)
  | member before key inside after, v => .object (before ++ (key, inside.fill v) :: after)

/-- The way to a place. -/
def path : Place → List Key
  | whole => []
  | item before inside _ => .index before.length :: inside.path
  | member _ key inside _ => .name key :: inside.path

/-- A way of no steps leads to the whole value. -/
lemma eq_whole {place : Place} (h : place.path = []) : place = whole := by
  cases place with
  | whole => rfl
  | item before inside after => cases h
  | member before key inside after => cases h

/-- A way that starts with an index leads into an item. -/
lemma eq_item {place : Place} {n : ℕ} {rest : List Key} (h : place.path = .index n :: rest) :
    ∃ before inside after,
      place = item before inside after ∧ before.length = n ∧ inside.path = rest := by
  cases place with
  | whole => cases h
  | item before inside after =>
    obtain ⟨hindex, hrest⟩ := List.cons.inj h
    exact ⟨before, inside, after, rfl, Key.index.inj hindex, hrest⟩
  | member before key inside after => cases h

/-- A way that starts with a name leads into a member with this key. -/
lemma eq_member {place : Place} {s : Option String} {rest : List Key}
    (h : place.path = .name s :: rest) :
    ∃ before inside after, place = member before s inside after ∧ inside.path = rest := by
  cases place with
  | whole => cases h
  | item before inside after => cases h
  | member before key inside after =>
    obtain ⟨hname, hrest⟩ := List.cons.inj h
    obtain rfl := Key.name.inj hname
    exact ⟨before, inside, after, rfl, hrest⟩

end Place

/-! ### What has to be kept

An array or an object fits one level deeper than all its contents do. -/

section Kept

lemma depthOfItems_le_iff {items : List Json} {n : ℕ} :
    depthOfItems items ≤ n ↔ ∀ item ∈ items, item.depth ≤ n := by
  induction items with
  | nil => simp [depthOfItems]
  | cons item items ih => rw [depthOfItems, List.forall_mem_cons, ← ih, Nat.max_le]

lemma depthOfMembers_le_iff {members : List (Option String × Json)} {n : ℕ} :
    depthOfMembers members ≤ n ↔ ∀ m ∈ members, m.2.depth ≤ n := by
  induction members with
  | nil => simp [depthOfMembers]
  | cons m members ih => rw [depthOfMembers, List.forall_mem_cons, ← ih, Nat.max_le]

variable {fits : Numeral → Bool}

lemma allMeaningfulItems_iff {items : List Json} :
    allMeaningfulItems fits items = true ↔ ∀ item ∈ items, item.allMeaningful fits = true := by
  induction items with
  | nil => simp [allMeaningfulItems]
  | cons item items ih => rw [allMeaningfulItems, List.forall_mem_cons, ← ih, Bool.and_eq_true]

lemma allMeaningfulMembers_iff {members : List (Option String × Json)} :
    allMeaningfulMembers fits members = true ↔
      ∀ m ∈ members, m.1.isSome = true ∧ m.2.allMeaningful fits = true := by
  induction members with
  | nil => simp [allMeaningfulMembers]
  | cons m members ih =>
    rw [allMeaningfulMembers, List.forall_mem_cons, ← ih, Bool.and_eq_true, Bool.and_eq_true]

variable {α : Type} [Scalar α] [Numeric α]

/-- What fits does so with more room. -/
lemma Fits.mono {m n : ℕ} {v : Json} (h : Fits α m v) (hmn : m ≤ n) : Fits α n v :=
  ⟨Nat.le_trans h.depth_le hmn, h.meaningful⟩

/-- An array fits if there is a level for it and all its items fit below. -/
lemma fits_array_iff {n : ℕ} {items : List Json} :
    Fits α n (.array items) ↔ ∃ m, n = m + 1 ∧ ∀ item ∈ items, Fits α m item := by
  constructor
  · rintro ⟨hdepth, hmeaningful⟩
    obtain ⟨m, rfl⟩ := Nat.exists_eq_add_of_lt (Nat.lt_of_lt_of_le (Nat.succ_pos _) hdepth)
    rw [Nat.zero_add] at hdepth ⊢
    refine ⟨m, rfl, fun item hitem => ⟨?_, ?_⟩⟩
    · exact depthOfItems_le_iff.mp (Nat.le_of_succ_le_succ hdepth) item hitem
    · exact allMeaningfulItems_iff.mp hmeaningful item hitem
  · rintro ⟨m, rfl, h⟩
    refine ⟨Nat.succ_le_succ (depthOfItems_le_iff.mpr fun item hitem => ?_), ?_⟩
    · exact (h item hitem).depth_le
    · exact allMeaningfulItems_iff.mpr fun item hitem => (h item hitem).meaningful

/-- An object fits if there is a level for it, its keys spell texts and all its values fit below. -/
lemma fits_object_iff {n : ℕ} {members : List (Option String × Json)} :
    Fits α n (.object members) ↔
      ∃ m, n = m + 1 ∧ ∀ member ∈ members, member.1.isSome = true ∧ Fits α m member.2 := by
  constructor
  · rintro ⟨hdepth, hmeaningful⟩
    obtain ⟨m, rfl⟩ := Nat.exists_eq_add_of_lt (Nat.lt_of_lt_of_le (Nat.succ_pos _) hdepth)
    rw [Nat.zero_add] at hdepth ⊢
    refine ⟨m, rfl, fun member hmember => ?_⟩
    obtain ⟨hkey, hvalue⟩ := allMeaningfulMembers_iff.mp hmeaningful member hmember
    exact ⟨hkey, depthOfMembers_le_iff.mp (Nat.le_of_succ_le_succ hdepth) member hmember, hvalue⟩
  · rintro ⟨m, rfl, h⟩
    refine ⟨Nat.succ_le_succ (depthOfMembers_le_iff.mpr fun member hmember => ?_), ?_⟩
    · exact (h member hmember).2.depth_le
    · exact allMeaningfulMembers_iff.mpr fun member hmember =>
        ⟨(h member hmember).1, (h member hmember).2.meaningful⟩

/-- A value fits with any part that fits wherever the part before did.  The induction is on the
place; one level is used up by each array and object on the way. -/
lemma Place.fits_fill {old v : Json} (hpart : ∀ n, Fits α n old → Fits α n v) (place : Place)
    {n : ℕ} (h : Fits α n (place.fill old)) : Fits α n (place.fill v) := by
  induction place generalizing n with
  | whole => exact hpart n h
  | item before inside after ih =>
    obtain ⟨m, rfl, hitems⟩ := fits_array_iff.mp h
    refine fits_array_iff.mpr ⟨m, rfl, ?_⟩
    rw [List.forall_mem_append, List.forall_mem_cons] at hitems ⊢
    exact ⟨hitems.1, ih hitems.2.1, hitems.2.2⟩
  | member before key inside after ih =>
    obtain ⟨m, rfl, hmembers⟩ := fits_object_iff.mp h
    refine fits_object_iff.mpr ⟨m, rfl, ?_⟩
    rw [List.forall_mem_append, List.forall_mem_cons] at hmembers ⊢
    exact ⟨hmembers.1, ⟨hmembers.2.1.1, ih hmembers.2.1.2⟩, hmembers.2.2⟩

/-- A value can be kept if it fits into the levels that are left. -/
lemma isKeepable_iff {enclosing : ℕ} {v : Json} :
    Move.isKeepable α enclosing v = true ↔
      ∃ n, enclosing + n ≤ Move.depthLimit ∧ Fits α n v := by
  constructor
  · intro h
    rw [Move.isKeepable, Bool.and_eq_true, decide_eq_true_eq] at h
    exact ⟨v.depth, h.1, Nat.le_refl _, h.2⟩
  · rintro ⟨n, hopen, hfits⟩
    exact hfits.isKeepable hopen

/-- A value can be kept if it fits wherever one does that can be kept. -/
lemma isKeepable_of_fits {enclosing : ℕ} {v w : Json} (hfits : ∀ n, Fits α n v → Fits α n w)
    (h : Move.isKeepable α enclosing v = true) : Move.isKeepable α enclosing w = true := by
  obtain ⟨n, hopen, hv⟩ := isKeepable_iff.mp h
  exact isKeepable_iff.mpr ⟨n, hopen, hfits n hv⟩

end Kept

end Json

/-! ### Records with another value for one field -/

namespace Fields

variable {β : Type} (f : Fields) {name other : String} {v : Json}

/-- The fields with another value for one of them. -/
def set (name : String) (v : Json) : Fields :=
  ⟨fun other => if other = name then some v else f.get? other⟩

lemma get?_set_self : (f.set name v).get? name = some v := if_pos rfl

lemma get?_set_of_ne (h : other ≠ name) : (f.set name v).get? other = f.get? other := if_neg h

/-- A field that has been set is read from its new value, if it has to be present. -/
lemma need_set_self (read? : Json → Option β) : (f.set name v).need name read? = read? v := by
  rw [need, get?_set_self, Option.bind_some]

lemma need_set_of_ne (h : other ≠ name) (read? : Json → Option β) :
    (f.set name v).need other read? = f.need other read? := by
  rw [need, get?_set_of_ne f h, need]

lemma word_set_of_ne (h : other ≠ name) : (f.set name v).word other = f.word other := by
  rw [word, optional, get?_set_of_ne f h, word, optional]

variable {α : Type} [Scalar α] [Numeric α]

/-- A number that has been set is read leniently from its new value. -/
lemma number_set_self : (f.set name v).number name = (Json.lenient? v : Option (Option α)) := by
  rw [number, getD, get?_set_self]

lemma number_set_of_ne (h : other ≠ name) :
    (f.set name v).number other = (f.number other : Option (Option α)) := by
  rw [number, getD, get?_set_of_ne f h, number, getD]

end Fields

namespace Json

variable {names : List String} {name : String} {old : Json} {f : Fields}

/-- Whether members are those of a record depends on their keys only. -/
lemma isRecord_congr {members members' : List (Option String × Json)}
    (h : members.map Prod.fst = members'.map Prod.fst) :
    isRecord names members = isRecord names members' := by
  have hkeys (members : List (Option String × Json)) : isRecord names members =
      ((members.map Prod.fst).all Option.isSome &&
        names.all fun name => decide ((members.map Prod.fst).countP (· = some name) ≤ 1)) := by
    simp only [isRecord, List.all_map, List.countP_map]
    rfl
  rw [hkeys, hkeys, h]

/-- In front of a declared member of a record there is none with its key. -/
lemma lookup_before_eq_none {before after : List (Option String × Json)} (hname : name ∈ names)
    (h : isRecord names (before ++ (some name, old) :: after) = true) :
    before.lookup (some name) = none := by
  rw [isRecord, Bool.and_eq_true, List.all_eq_true, List.all_eq_true] at h
  have hcount := h.2 name hname
  rw [isUnrepeated, decide_eq_true_eq, List.countP_append, List.countP_cons,
    if_pos (decide_eq_true rfl)] at hcount
  have hnone : before.countP (fun m => m.1 = some name) = 0 := by omega
  rw [List.countP_eq_zero] at hnone
  rw [List.lookup_eq_none_iff]
  intro m hm
  rw [bne_iff_ne]
  exact fun hkey => hnone m hm (decide_eq_true hkey.symm)

/-- A declared member of an object gives a field of the record, and with another value for the
member the record is the same but for this field. -/
lemma fields?_member {before after : List (Option String × Json)} (hname : name ∈ names)
    (h : (object (before ++ (some name, old) :: after)).fields? names = some f) :
    f.get? name = some old ∧
      ∀ v, (object (before ++ (some name, v) :: after)).fields? names = some (f.set name v) := by
  simp only [fields?] at h ⊢
  split at h
  · rename_i hrecord
    obtain rfl := Option.some.inj h
    have hbefore := lookup_before_eq_none hname hrecord
    have hlookup (v : Json) (other : String) :
        member? (before ++ (some name, v) :: after) other =
          if other = name then some v
          else (before.lookup (some other)).or (after.lookup (some other)) := by
      rw [member?, List.lookup_append, List.lookup_cons]
      by_cases hother : other = name
      · rw [hother, hbefore, Option.none_or, beq_self_eq_true, if_pos rfl]
      · have hne : (some other == some name) = false := by simpa using hother
        rw [hne, if_neg hother]
    refine ⟨(hlookup old name).trans (if_pos rfl), fun v => ?_⟩
    rw [if_pos ((isRecord_congr (by simp)).trans hrecord)]
    refine congrArg (some ∘ Fields.mk) (funext fun other => ?_)
    rw [hlookup]
    split
    · rfl
    · rename_i hother
      exact ((hlookup old other).trans (if_neg hother)).symm
  · cases h

/-- The first item of an array gives the first field of a record, and with another first item the
record is the same but for this field. -/
lemma fields?_first {rest : List Json}
    (h : (array (old :: rest)).fields? (name :: names) = some f) :
    f.get? name = some old ∧
      ∀ v, (array (v :: rest)).fields? (name :: names) = some (f.set name v) := by
  simp only [fields?, List.length_cons] at h ⊢
  split at h
  · rename_i hlength
    obtain rfl := Option.some.inj h
    have hlookup (v : Json) (other : String) : ((name :: names).zip (v :: rest)).lookup other =
        if other = name then some v else (names.zip rest).lookup other := by
      rw [List.zip_cons_cons, List.lookup_cons]
      by_cases hother : other = name
      · rw [hother, beq_self_eq_true, if_pos rfl]
      · have hne : (other == name) = false := by simpa using hother
        rw [hne, if_neg hother]
    refine ⟨(hlookup old name).trans (if_pos rfl), fun v => ?_⟩
    rw [if_pos hlength]
    refine congrArg (some ∘ Fields.mk) (funext fun other => ?_)
    rw [hlookup]
    split
    · rfl
    · rename_i hother
      exact ((hlookup old other).trans (if_neg hother)).symm
  · cases h

end Json

end Cinematics
