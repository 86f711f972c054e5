import Cinematics.Proofs.Admissibility
import Cinematics.Proofs.Words

/-!
# Features by their ids

A feature is found by its id unless something stands in the way of the id.  Three things can.  The
names of the point that the camera looks at and of the landmarks of a box come before the ids
(`Scene.IsReserved`); an id of separators only has no key, and a name without a key stands for
nothing; and of the features that are called the same, the case of ASCII letters apart, the first
one is found (`Scene.IsFirst`).

There is a fourth, which the main result, `Scene.locate_id`, leaves open.  A name is trimmed before
it is compared with the ids, and the ids are not, so an id with white space at its ends is not
compared with itself.
-/

namespace Cinematics

/-! ### Texts without white space at their ends -/

namespace Text

/-- Whether a text neither starts nor ends with white space. -/
def IsTight (s : List Char) : Prop :=
  (∀ c ∈ s.head?, isBlank c = false) ∧ ∀ c ∈ s.getLast?, isBlank c = false

/-- Nothing is trimmed off a text without white space at its ends. -/
lemma IsTight.trim_eq {s : List Char} (h : IsTight s) : trim s = s := by
  have hstart : s = s.dropWhile isBlank :=
    stripsStart_iff.mp ⟨[], rfl, List.forall_mem_nil _, h.1⟩
  have hend : s = dropEndWhile isBlank s :=
    stripsEnd_iff.mp ⟨[], (List.append_nil s).symm, List.forall_mem_nil _, h.2⟩
  rw [trim, ← hstart, trimEnd, ← hend]

/-- Every text is called what itself is called. -/
lemma sameIgnoringCase_self (s : List Char) : sameIgnoringCase s s = true :=
  decide_eq_true rfl

/-- A phrase with a character that does not separate words has a key. -/
lemma slug_ne_nil {s : List Char} (h : ∃ c ∈ s, isSeparator c = false) : slug s ≠ [] := by
  obtain ⟨c, hc, hword⟩ := h
  intro hnil
  rw [slug_eq_nil_iff.mp hnil c hc] at hword
  cases hword

end Text

/-! ### The names of landmarks -/

namespace Landmark

/-- The names of landmarks, with or without a note that they belong to the object. -/
def IsName (key : List Char) : Prop :=
  ∃ entry ∈ vocabulary, key = entry.1.toList ∨ key = "object_".toList ++ entry.1.toList

/-- A key without the note means a landmark if it is the name of one. -/
lemma isSome_find?_iff {key : List Char} :
    (vocabulary.find? key).isSome = true ↔ ∃ entry ∈ vocabulary, key = entry.1.toList := by
  rw [Text.Vocabulary.find?, List.lookup_isSome_iff]
  constructor
  · rintro ⟨entry, hentry, hkey⟩
    refine ⟨entry, hentry, ?_⟩
    rw [← eq_of_beq hkey, String.toList_ofList]
  · rintro ⟨entry, hentry, rfl⟩
    refine ⟨entry, hentry, ?_⟩
    rw [String.ofList_toList]
    exact BEq.rfl

/-- The note that a landmark belongs to the object is left out. -/
lemma ofKey?_marked (rest : List Char) :
    ofKey? ("object_".toList ++ rest) = vocabulary.find? rest := by
  have hmarked : "object_".toList.isPrefixOf ("object_".toList ++ rest) = true :=
    List.isPrefixOf_iff_prefix.mpr (List.prefix_append _ _)
  refine (congrArg vocabulary.find? (if_pos hmarked)).trans ?_
  rw [List.drop_left]

/-- A key without this note is looked up as it is. -/
lemma ofKey?_unmarked {key : List Char} (h : ¬ "object_".toList.isPrefixOf key = true) :
    ofKey? key = vocabulary.find? key :=
  congrArg vocabulary.find? (if_neg h)

/-- A key means a landmark if it is the name of one. -/
lemma isSome_ofKey?_iff {key : List Char} : (ofKey? key).isSome = true ↔ IsName key := by
  -- no landmark has the note in its own name, so the two ways to name it do not interfere
  have hunmarked : ∀ entry ∈ vocabulary, ¬ "object_".toList.isPrefixOf entry.1.toList = true := by
    decide
  by_cases hmarked : "object_".toList.isPrefixOf key = true
  · obtain ⟨rest, rfl⟩ := List.isPrefixOf_iff_prefix.mp hmarked
    rw [ofKey?_marked, isSome_find?_iff]
    constructor
    · rintro ⟨entry, hentry, hrest⟩
      exact ⟨entry, hentry, .inr (congrArg _ hrest)⟩
    · rintro ⟨entry, hentry, hplain | hrest⟩
      · exact absurd (hplain ▸ hmarked) (hunmarked entry hentry)
      · exact ⟨entry, hentry, List.append_cancel_left hrest⟩
  · rw [ofKey?_unmarked hmarked, isSome_find?_iff]
    constructor
    · rintro ⟨entry, hentry, hkey⟩
      exact ⟨entry, hentry, .inl hkey⟩
    · rintro ⟨entry, hentry, hkey | rfl⟩
      · exact ⟨entry, hentry, hkey⟩
      · exact absurd (List.isPrefixOf_iff_prefix.mpr (List.prefix_append _ _)) hmarked

end Landmark

/-! ### What a name stands for -/

namespace Scene

variable {α : Type} [Scalar α] {scene : Scene α} {around : Surroundings α} {current : Vec α}
  {name : String} {f : Feature α}

/-- Whether a name means the point that the camera looks at or, in a scene with a box, one of its
landmarks. -/
def IsReserved (scene : Scene α) (name : String) : Prop :=
  Text.slug name.toList = currentTarget.toList ∨
    scene.bounds.isSome = true ∧ Landmark.IsName (Text.slug name.toList)

/-- Whether a feature is the first one of a scene that has a given id, the case of ASCII letters
apart. -/
def IsFirst (scene : Scene α) (name : String) (f : Feature α) : Prop :=
  ∃ before after, scene.features = before ++ f :: after ∧
    Text.sameIgnoringCase f.id.toList name.toList = true ∧
    ∀ g ∈ before, Text.sameIgnoringCase g.id.toList name.toList = false

/-- A name without a key stands for nothing. -/
lemma locate_of_slug_eq_nil (hkey : Text.slug name.toList = []) :
    scene.locate around current name = none :=
  if_pos (List.isEmpty_iff.mpr hkey)

/-- A key means a landmark of the scene if the scene has a box and the key is the name of one. -/
lemma isSome_landmark?_iff (around : Surroundings α) {key : List Char} :
    (scene.landmark? around key).isSome = true ↔
      scene.bounds.isSome = true ∧ Landmark.IsName key := by
  rw [← Landmark.isSome_ofKey?_iff, landmark?]
  cases scene.bounds with
  | none => simp
  | some b =>
    cases Landmark.ofKey? key with
    | none => simp
    | some landmark => simp

/-- A reserved name stands for a place. -/
lemma exists_locate_of_isReserved (h : scene.IsReserved name)
    (hkey : Text.slug name.toList ≠ []) : ∃ p, scene.locate around current name = some p := by
  have hkey' : ¬ (Text.slug name.toList).isEmpty = true := by rwa [List.isEmpty_iff]
  by_cases hcurrent : Text.slug name.toList = currentTarget.toList
  · exact ⟨current, (if_neg hkey').trans (if_pos hcurrent)⟩
  · obtain ⟨p, hp⟩ := Option.isSome_iff_exists.mp
      ((isSome_landmark?_iff around).mpr (h.resolve_left hcurrent))
    refine ⟨p, (if_neg hkey').trans ((if_neg hcurrent).trans ?_)⟩
    rw [hp]
    rfl

/-- A name that is not reserved stands for the place of a feature. -/
lemma locate_of_not_isReserved (h : ¬ scene.IsReserved name)
    (hkey : Text.slug name.toList ≠ []) :
    scene.locate around current name =
      (scene.feature? (Text.trim name.toList)).map (·.position) := by
  have hkey' : ¬ (Text.slug name.toList).isEmpty = true := by rwa [List.isEmpty_iff]
  obtain ⟨hcurrent, hlandmark⟩ := not_or.mp h
  refine (if_neg hkey').trans ((if_neg hcurrent).trans ?_)
  rw [← isSome_landmark?_iff around, Option.not_isSome_iff_eq_none] at hlandmark
  rw [hlandmark]
  rfl

omit [Scalar α] in
/-- The first feature with a given id comes before all that are so described. -/
lemma feature?_of_isFirst (h : scene.IsFirst name f) : scene.feature? name.toList = some f := by
  obtain ⟨before, after, hfeatures, hcalled, hbefore⟩ := h
  have hfind : scene.features.find?
      (fun f => Text.sameIgnoringCase f.id.toList name.toList) = some f := by
    refine List.find?_eq_some_iff_append.mpr ⟨hcalled, before, after, hfeatures, fun g hg => ?_⟩
    rw [hbefore g hg]
    rfl
  simp only [feature?, hfind]
  rfl

omit [Scalar α] in
/-- If there is a feature with a given id, there is a first one. -/
lemma exists_isFirst (hf : f ∈ scene.features)
    (hcalled : Text.sameIgnoringCase f.id.toList name.toList = true) :
    ∃ g, scene.IsFirst name g := by
  have hany : (scene.features.find?
      fun f => Text.sameIgnoringCase f.id.toList name.toList).isSome = true :=
    List.find?_isSome.mpr ⟨f, hf, hcalled⟩
  obtain ⟨g, hfind⟩ := Option.isSome_iff_exists.mp hany
  obtain ⟨hg, before, after, hfeatures, hbefore⟩ := List.find?_eq_some_iff_append.mp hfind
  exact ⟨g, before, after, hfeatures, hg, fun h hh => by simpa using hbefore h hh⟩

/-- **A feature is found by its id.**  If its id has a character that does not separate words, and
has no white space at its ends or is reserved, then the id stands for a place.  Unless the id is
reserved, this is the place of the first feature with this id. -/
theorem locate_id (around : Surroundings α) (current : Vec α) (hf : f ∈ scene.features)
    (hword : ∃ c ∈ f.id.toList, Text.isSeparator c = false)
    (hid : Text.IsTight f.id.toList ∨ scene.IsReserved f.id) :
    (∃ p, scene.locate around current f.id = some p) ∧
      (¬ scene.IsReserved f.id →
        ∃ g, scene.IsFirst f.id g ∧ scene.locate around current f.id = some g.position) := by
  have hkey := Text.slug_ne_nil hword
  by_cases hreserved : scene.IsReserved f.id
  · exact ⟨exists_locate_of_isReserved hreserved hkey, fun h => absurd hreserved h⟩
  · have htight := hid.resolve_right hreserved
    obtain ⟨g, hg⟩ := exists_isFirst hf (Text.sameIgnoringCase_self f.id.toList)
    have hlocate : scene.locate around current f.id = some g.position := by
      rw [locate_of_not_isReserved hreserved hkey, htight.trim_eq, feature?_of_isFirst hg]
      rfl
    exact ⟨⟨g.position, hlocate⟩, fun _ => ⟨g, hg, hlocate⟩⟩

/-- A scene with a box and two features whose ids differ in case only. -/
def twoTails : Scene α :=
  { cube with features := [⟨"TAIL", "", Vec.unit .x⟩, ⟨"tail", "", Vec.unit .y⟩] }

/-- The id of the second feature stands for the place of the first one. -/
theorem locate_id_twoTails :
    ((⟨"tail", "", Vec.unit .y⟩ : Feature ℝ) ∈ twoTails.features ∧
      (∃ c ∈ "tail".toList, Text.isSeparator c = false) ∧ Text.IsTight "tail".toList) ∧
    ¬ (twoTails : Scene ℝ).IsReserved "tail" ∧
    ∃ g, (twoTails : Scene ℝ).IsFirst "tail" g ∧
      twoTails.locate .free 0 "tail" = some g.position ∧ g.position = Vec.unit .x := by
  have hf : (⟨"tail", "", Vec.unit .y⟩ : Feature ℝ) ∈ twoTails.features :=
    List.mem_cons_of_mem _ List.mem_cons_self
  have hword : ∃ c ∈ "tail".toList, Text.isSeparator c = false := ⟨'t', by decide, by decide⟩
  have htight : Text.IsTight "tail".toList := by
    constructor
    · rintro _ ⟨⟩
      decide
    · rintro _ ⟨⟩
      decide
  have hreserved : ¬ (twoTails : Scene ℝ).IsReserved "tail" := by
    rintro (hcurrent | ⟨-, hlandmark⟩)
    · exact absurd hcurrent (by decide)
    · exact absurd (Landmark.isSome_ofKey?_iff.mpr hlandmark) (by decide)
  obtain ⟨g, hg, hlocate⟩ := (locate_id .free 0 hf hword (.inl htight)).2 hreserved
  refine ⟨⟨hf, hword, htight⟩, hreserved, g, hg, hlocate, ?_⟩
  have hfirst : (twoTails : Scene ℝ).feature? "tail".toList =
      some ⟨"TAIL", "", Vec.unit .x⟩ := rfl
  rw [feature?_of_isFirst hg] at hfirst
  rw [Option.some.inj hfirst]

/-- A scene with an id of separators only and an id with white space in front. -/
def oddIds : Scene α := ⟨none, [⟨"--", "", Vec.unit .x⟩, ⟨" tail", "", Vec.unit .y⟩]⟩

/-- Neither id is empty or reserved, and neither stands for a place. -/
theorem locate_id_oddIds :
    (oddIds : Scene ℝ).features.map (·.id) = ["--", " tail"] ∧
      (¬ (oddIds : Scene ℝ).IsReserved "--" ∧ (oddIds : Scene ℝ).locate .free 0 "--" = none) ∧
      ¬ (oddIds : Scene ℝ).IsReserved " tail" ∧
        (oddIds : Scene ℝ).locate .free 0 " tail" = none := by
  have hdashes : ¬ (oddIds : Scene ℝ).IsReserved "--" := by
    rintro (hcurrent | ⟨hbox, -⟩)
    · exact absurd hcurrent (by decide)
    · cases hbox
  have hpadded : ¬ (oddIds : Scene ℝ).IsReserved " tail" := by
    rintro (hcurrent | ⟨hbox, -⟩)
    · exact absurd hcurrent (by decide)
    · cases hbox
  refine ⟨rfl, ⟨hdashes, ?_⟩, hpadded, ?_⟩
  · exact locate_of_slug_eq_nil rfl
  · rw [locate_of_not_isReserved hpadded (Text.slug_ne_nil ⟨'t', by decide, by decide⟩)]
    rfl

end Scene

end Cinematics
