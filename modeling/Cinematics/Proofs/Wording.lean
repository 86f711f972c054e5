import Mathlib.Logic.Relation
import Cinematics.Easing
import Cinematics.Proofs.Lowering
import Cinematics.Proofs.Naming

/-!
# Loose spellings

Words and names in a plan mean the same however they are spelled (`reads_alike`).  What counts as
another spelling depends on the key that a text is looked up by.  The key of a single word forgets
where its hyphens, underscores and spaces are, and the key of a phrase remembers that there is some
separator between two words, but not which, nor how many.  `Text.Respells` and `Text.Rephrases` are
the changes that make the one and the other no difference, one at a time; both keys forget the case
of ASCII letters.

For phrases everything follows from two equations about a text with a separator in it.  Its words
are those on both sides of the separator (`Text.wordsBy_append_separator`), and it is lowered by
lowering both sides on their own (`Text.lowerAfter_append_separator`).
-/

namespace Cinematics

namespace Text

variable {c d : Char} {s t gap word : List Char}

/-! ### The words on both sides of a separator -/

section Words

variable {separates : Char → Bool} {words : List (List Char)}

/-- A character that does not separate is a word. -/
lemma wordsBy_singleton (hc : ¬ separates c = true) : wordsBy separates [c] = [[c]] :=
  if_neg hc

/-- A word of one character ends where a separator follows. -/
lemma wordsBy_cons_separator (hc : ¬ separates c = true) (hd : separates d = true)
    (rest : List Char) :
    wordsBy separates (c :: d :: rest) = [c] :: wordsBy separates (d :: rest) := by
  refine (if_neg hc).trans ?_
  cases wordsBy separates (d :: rest) with
  | nil => rfl
  | cons word words => exact if_pos hd

/-- A character in front of a word belongs to it. -/
lemma wordsBy_cons_cons (hc : ¬ separates c = true) (hd : ¬ separates d = true)
    (rest : List Char) :
    wordsBy separates (c :: d :: rest) =
      (wordsBy separates (d :: rest)).modifyHead (c :: ·) := by
  refine (if_neg hc).trans ?_
  obtain ⟨word, words, hwords, -⟩ := exists_wordsBy_cons hd rest
  rw [hwords]
  exact if_neg hd

/-- **The words of a text with a separator in it are those on both sides.** -/
theorem wordsBy_append_separator (hc : separates c = true) (s t : List Char) :
    wordsBy separates (s ++ c :: t) = wordsBy separates s ++ wordsBy separates t := by
  induction s with
  | nil => exact wordsBy_cons_of_separates hc t
  | cons d rest ih =>
    by_cases hd : separates d = true
    · rw [List.cons_append, wordsBy_cons_of_separates hd, wordsBy_cons_of_separates hd, ih]
    · -- whether a word begins or goes on is decided by the next character
      cases rest with
      | nil =>
        rw [wordsBy_singleton hd, List.cons_append, List.nil_append, wordsBy_cons_separator hd hc,
          wordsBy_cons_of_separates hc]
        rfl
      | cons e rest =>
        rw [List.cons_append] at ih ⊢
        rw [List.cons_append]
        by_cases he : separates e = true
        · rw [wordsBy_cons_separator hd he, wordsBy_cons_separator hd he, ih]
          rfl
        · obtain ⟨word, words, hwords, -⟩ := exists_wordsBy_cons he rest
          rw [wordsBy_cons_cons hd he, wordsBy_cons_cons hd he, ih, hwords]
          rfl

/-- The words, one after the other, are the text without what separates them. -/
lemma flatten_wordsBy (s : List Char) :
    (wordsBy separates s).flatten = s.filter fun c => !separates c := by
  induction s with
  | nil => rfl
  | cons c rest ih =>
    by_cases hc : separates c = true
    · rw [wordsBy_cons_of_separates hc, ih, List.filter_cons_of_neg (by simpa using hc)]
    · rw [List.filter_cons_of_pos (by simpa using hc), ← ih]
      cases rest with
      | nil =>
        rw [wordsBy_singleton hc]
        rfl
      | cons d rest =>
        by_cases hd : separates d = true
        · rw [wordsBy_cons_separator hc hd]
          rfl
        · obtain ⟨word, words, hwords, -⟩ := exists_wordsBy_cons hd rest
          rw [wordsBy_cons_cons hc hd, hwords]
          rfl

/-- The characters of a word come from the text and do not separate. -/
lemma of_mem_wordsBy (hword : word ∈ wordsBy separates s) (hc : c ∈ word) :
    separates c = false ∧ c ∈ s := by
  have hmem : c ∈ (wordsBy separates s).flatten := List.mem_flatten.mpr ⟨word, hword, hc⟩
  rw [flatten_wordsBy, List.mem_filter, Bool.not_eq_true'] at hmem
  exact hmem.symm

/-- A text without separators is one word, unless it is empty. -/
lemma wordsBy_of_forall (hne : word ≠ []) (h : ∀ c ∈ word, separates c = false) :
    wordsBy separates word = [word] := by
  induction word with
  | nil => exact absurd rfl hne
  | cons c rest ih =>
    obtain ⟨hc, hrest⟩ := List.forall_mem_cons.mp h
    have hc : ¬ separates c = true := by rw [hc]; decide
    cases rest with
    | nil => exact wordsBy_singleton hc
    | cons d rest =>
      have hd : ¬ separates d = true := by rw [hrest d List.mem_cons_self]; decide
      rw [wordsBy_cons_cons hc hd, ih (List.cons_ne_nil _ _) hrest]
      rfl

/-- Words that are joined by a separator are told apart again. -/
lemma wordsBy_intercalate (hc : separates c = true)
    (h : ∀ word ∈ words, word ≠ [] ∧ ∀ d ∈ word, separates d = false) :
    wordsBy separates ([c].intercalate words) = words := by
  induction words with
  | nil => rfl
  | cons word rest ih =>
    obtain ⟨⟨hne, hword⟩, hrest⟩ := List.forall_mem_cons.mp h
    cases rest with
    | nil => rw [List.intercalate_singleton, wordsBy_of_forall hne hword]
    | cons next rest =>
      rw [List.intercalate_cons_cons, List.append_assoc, List.singleton_append,
        wordsBy_append_separator hc, ih hrest, wordsBy_of_forall hne hword]
      rfl

/-- The characters of joined words are those of the words and of what joins them. -/
lemma mem_intercalate (h : d ∈ [c].intercalate words) : d = c ∨ ∃ word ∈ words, d ∈ word := by
  induction words with
  | nil => cases h
  | cons word rest ih =>
    cases rest with
    | nil =>
      rw [List.intercalate_singleton] at h
      exact .inr ⟨word, List.mem_cons_self, h⟩
    | cons next rest =>
      rw [List.intercalate_cons_cons, List.mem_append, List.mem_append, List.mem_singleton] at h
      rcases h with (h | h) | h
      · exact .inr ⟨word, List.mem_cons_self, h⟩
      · exact .inl h
      · obtain hd | ⟨other, hother, hd⟩ := ih h
        · exact .inl hd
        · exact .inr ⟨other, List.mem_cons_of_mem _ hother, hd⟩

end Words

/-! ### Words in lower case -/

/-- The words of a lowered text. -/
def loweredWords (s : List Char) : List (List Char) :=
  wordsBy isSeparator (lower s)

/-- The lowered words of a text with a separator in it are those on both sides. -/
lemma loweredWords_append_separator (hc : isSeparator c = true) (s t : List Char) :
    loweredWords (s ++ c :: t) = loweredWords s ++ loweredWords t := by
  have hlower : lower (s ++ c :: t) = lower s ++ c :: lower t :=
    lowerAfter_append_separator hc [] s t
  rw [loweredWords, hlower, wordsBy_append_separator hc]
  rfl

/-- Separators in front of a text do not add words. -/
lemma loweredWords_gap_append (hgap : ∀ c ∈ gap, isSeparator c = true) (s : List Char) :
    loweredWords (gap ++ s) = loweredWords s := by
  induction gap with
  | nil => rfl
  | cons c rest ih =>
    obtain ⟨hc, hrest⟩ := List.forall_mem_cons.mp hgap
    exact (loweredWords_append_separator hc [] (rest ++ s)).trans (ih hrest)

/-- The words on the two sides of a gap do not depend on what the gap consists of. -/
lemma loweredWords_across (hne : gap ≠ []) (hgap : ∀ c ∈ gap, isSeparator c = true)
    (s t : List Char) : loweredWords (s ++ gap ++ t) = loweredWords s ++ loweredWords t := by
  cases gap with
  | nil => exact absurd rfl hne
  | cons c rest =>
    obtain ⟨hc, hrest⟩ := List.forall_mem_cons.mp hgap
    rw [List.append_assoc, List.cons_append, loweredWords_append_separator hc,
      loweredWords_gap_append hrest]

/-- Separators at the ends of a text do not add words. -/
lemma loweredWords_padded {lead tail : List Char} (hlead : ∀ c ∈ lead, isSeparator c = true)
    (htail : ∀ c ∈ tail, isSeparator c = true) (s : List Char) :
    loweredWords (lead ++ s ++ tail) = loweredWords s := by
  rw [List.append_assoc, loweredWords_gap_append hlead]
  cases tail with
  | nil => rw [List.append_nil]
  | cons c rest =>
    have hafter := loweredWords_across (List.cons_ne_nil c rest) htail s []
    rw [List.append_nil] at hafter
    exact hafter.trans (List.append_nil _)

/-- The key of a phrase is made of its lowered words.  Trimming makes no difference, since what is
trimmed off are separators. -/
theorem slug_eq (s : List Char) : slug s = ['_'].intercalate (loweredWords s) := by
  obtain ⟨lead, tail, hs, hlead, htail⟩ := exists_eq_trim s
  have hwords : loweredWords s = loweredWords (trim s) := by
    conv_lhs => rw [hs]
    exact loweredWords_padded (fun c hc => isSeparator_of_isBlank (hlead c hc))
      (fun c hc => isSeparator_of_isBlank (htail c hc)) _
  rw [hwords]
  rfl

/-- Lowered words are not empty, and consist of characters that neither separate nor are changed by
lowering. -/
lemma of_mem_loweredWords (hword : word ∈ loweredWords s) :
    word ≠ [] ∧ ∀ c ∈ word, isSeparator c = false ∧ lowerChar c = [c] := by
  refine ⟨ne_nil_of_mem_wordsBy hword, fun c hc => ?_⟩
  obtain ⟨hkept, hmem⟩ := of_mem_wordsBy hword hc
  exact ⟨hkept, lowerChar_of_mem_lowerAfter hmem⟩

/-! ### Keys of keys -/

/-- The key of a single word has no joints, and lowering does not change its characters. -/
lemma of_mem_squeeze (h : d ∈ squeeze s) : isJoint d = false ∧ lowerChar d = [d] := by
  obtain ⟨c, hc, hd⟩ := List.mem_flatMap.mp h
  refine ⟨?_, lowerChar_of_mem_lowerChar hd⟩
  rw [← Bool.not_eq_true]
  intro hjoint
  have hseparates : ∀ c, isJoint c = true → isSeparator c = true := by
    intro c hc
    simp only [isJoint, Bool.or_eq_true, decide_eq_true_eq] at hc
    rcases hc with (rfl | rfl) | rfl <;> decide
  -- only a joint is lowered to one, and joints are left out before
  have hlower : lowerChar c = [c] :=
    lowerChar_of_isSeparator ((isSeparator_of_mem_lowerChar hd).symm.trans (hseparates d hjoint))
  rw [hlower, List.mem_singleton] at hd
  rw [← hd, List.mem_filter, hjoint] at hc
  exact absurd hc.2 (by decide)

/-- **The key of a single word is its own key.** -/
theorem squeeze_squeeze (s : List Char) : squeeze (squeeze s) = squeeze s := by
  have hfilter : (squeeze s).filter (fun c => !isJoint c) = squeeze s := by
    refine List.filter_eq_self.mpr fun c hc => ?_
    rw [(of_mem_squeeze hc).1]
    rfl
  have hlower : (squeeze s).flatMap lowerChar = (squeeze s).flatMap fun c => [c] :=
    List.flatMap_congr fun c hc => (of_mem_squeeze hc).2
  rw [squeeze, hfilter, hlower, List.flatMap_singleton']

/-- **The key of a phrase is its own key.** -/
theorem slug_slug (s : List Char) : slug (slug s) = slug s := by
  have hlower : lower (slug s) = slug s := by
    refine lowerAfter_of_forall fun c hc => ?_
    rw [slug_eq] at hc
    rcases mem_intercalate hc with rfl | ⟨word, hword, hc⟩
    · exact lowerChar_of_isSeparator (by decide)
    · exact ((of_mem_loweredWords hword).2 c hc).2
  have hwords : loweredWords (slug s) = loweredWords s := by
    rw [loweredWords, hlower, slug_eq]
    refine wordsBy_intercalate (by decide) fun word hword => ?_
    obtain ⟨hne, hchars⟩ := of_mem_loweredWords hword
    exact ⟨hne, fun c hc => (hchars c hc).1⟩
  rw [slug_eq (slug s), hwords, ← slug_eq]

/-! ### Changes that make no difference -/

/-- One change to a single word that makes no difference: to the case of ASCII letters, or by an
underscore, a hyphen or a space that is put in or taken out. -/
inductive Respells : List Char → List Char → Prop
  /-- The case of ASCII letters is changed. -/
  | recase {s t : List Char} (h : sameIgnoringCase s t = true) : Respells s t
  /-- An underscore, a hyphen or a space is put in. -/
  | insert (before after : List Char) {c : Char} (hc : isJoint c = true) :
      Respells (before ++ after) (before ++ c :: after)
  /-- An underscore, a hyphen or a space is taken out. -/
  | delete (before after : List Char) {c : Char} (hc : isJoint c = true) :
      Respells (before ++ c :: after) (before ++ after)

/-- One change to a phrase that makes no difference: to the case of ASCII letters, to what there is
between two words, or to what there is at the two ends.  Only between words there has to be
something, before and after the change. -/
inductive Rephrases : List Char → List Char → Prop
  /-- The case of ASCII letters is changed. -/
  | recase {s t : List Char} (h : sameIgnoringCase s t = true) : Rephrases s t
  /-- Separators are replaced by others. -/
  | respace (before after : List Char) {gap gap' : List Char} (hne : gap ≠ []) (hne' : gap' ≠ [])
      (hgap : ∀ c ∈ gap, isSeparator c = true) (hgap' : ∀ c ∈ gap', isSeparator c = true) :
      Rephrases (before ++ gap ++ after) (before ++ gap' ++ after)
  /-- Separators at the ends are replaced by others, or by none. -/
  | repad (s : List Char) {lead tail lead' tail' : List Char}
      (hlead : ∀ c ∈ lead, isSeparator c = true) (htail : ∀ c ∈ tail, isSeparator c = true)
      (hlead' : ∀ c ∈ lead', isSeparator c = true) (htail' : ∀ c ∈ tail', isSeparator c = true) :
      Rephrases (lead ++ s ++ tail) (lead' ++ s ++ tail')

/-- Whether `t` is obtained from `s` by any number of changes to single words. -/
def IsRespelling (s t : String) : Prop :=
  Relation.ReflTransGen Respells s.toList t.toList

/-- Whether `t` is obtained from `s` by any number of changes to phrases. -/
def IsRephrasing (s t : String) : Prop :=
  Relation.ReflTransGen Rephrases s.toList t.toList

/-- The case of ASCII letters makes no difference to what does not depend on it in one text. -/
lemma eq_of_sameIgnoringCase {β : Type} {key : List Char → β}
    (hkey : ∀ s, key (s.map Char.toLower) = key s) (h : sameIgnoringCase s t = true) :
    key t = key s := by
  rw [← hkey t, ← hkey s, of_decide_eq_true h]

/-- The case of ASCII letters makes no difference to the key of a single word. -/
lemma squeeze_map_toLower (s : List Char) : squeeze (s.map Char.toLower) = squeeze s := by
  have hjoint : ∀ c, isJoint c.toLower = isJoint c := apply_toLower (by decide)
  simp only [squeeze, List.filter_map, List.flatMap_map, Function.comp_def, hjoint,
    lowerChar_toLower]

/-- The case of ASCII letters makes no difference to the key of a phrase. -/
lemma slug_map_toLower (s : List Char) : slug (s.map Char.toLower) = slug s := by
  rw [slug_eq, slug_eq, loweredWords, lower_map_toLower]
  rfl

/-- A joint makes no difference to the key of a single word. -/
lemma squeeze_append_joint (hc : isJoint c = true) (s t : List Char) :
    squeeze (s ++ c :: t) = squeeze (s ++ t) := by
  have hfilter : (s ++ c :: t).filter (fun c => !isJoint c) =
      (s ++ t).filter fun c => !isJoint c := by
    rw [List.filter_append, List.filter_append, List.filter_cons_of_neg (by rw [hc]; decide)]
  rw [squeeze, hfilter]
  rfl

/-- A change to a single word keeps its key. -/
lemma squeeze_of_respells (h : Respells s t) : squeeze t = squeeze s := by
  cases h with
  | recase h => exact eq_of_sameIgnoringCase squeeze_map_toLower h
  | insert before after hc => exact squeeze_append_joint hc before after
  | delete before after hc => exact (squeeze_append_joint hc before after).symm

/-- A change to a phrase keeps its key. -/
lemma slug_of_rephrases (h : Rephrases s t) : slug t = slug s := by
  cases h with
  | recase h => exact eq_of_sameIgnoringCase slug_map_toLower h
  | respace before after hne hne' hgap hgap' =>
    rw [slug_eq, slug_eq, loweredWords_across hne hgap, loweredWords_across hne' hgap']
  | repad s hlead htail hlead' htail' =>
    rw [slug_eq, slug_eq, loweredWords_padded hlead htail, loweredWords_padded hlead' htail']

/-- What is kept by one change is kept by any number of them. -/
lemma eq_of_reflTransGen {β : Type} {r : List Char → List Char → Prop} {key : List Char → β}
    (hstep : ∀ {s t}, r s t → key t = key s) (h : Relation.ReflTransGen r s t) :
    key t = key s := by
  induction h with
  | refl => rfl
  | tail _ hlast ih => exact (hstep hlast).trans ih

/-- Other spellings of a single word have the same key. -/
theorem IsRespelling.squeeze_eq {s t : String} (h : IsRespelling s t) :
    squeeze t.toList = squeeze s.toList :=
  eq_of_reflTransGen squeeze_of_respells h

/-- Other spellings of a phrase have the same key. -/
theorem IsRephrasing.slug_eq {s t : String} (h : IsRephrasing s t) :
    slug t.toList = slug s.toList :=
  eq_of_reflTransGen slug_of_rephrases h

/-- What it is to read the words of a vocabulary however they are spelled. -/
structure Vocabulary.IsReadLoosely {β : Type} (v : Vocabulary β) (parse? : String → Option β)
    (IsSpelling : String → String → Prop) : Prop where
  /-- The words of the vocabulary are read as listed. -/
  listed : ∀ entry ∈ v, parse? entry.1 = some entry.2
  /-- Other spellings of a text are read like the text. -/
  alike : ∀ s t, IsSpelling s t → parse? t = parse? s

end Text

/-! ### The readers -/

/-- The words for easings are read however they are spelled. -/
lemma Easing.isReadLoosely : vocabulary.IsReadLoosely parse? Text.IsRespelling :=
  ⟨by decide, fun _ _ h => congrArg vocabulary.find? h.squeeze_eq⟩

/-- The words for paces are read however they are spelled. -/
lemma Pace.isReadLoosely : vocabulary.IsReadLoosely parse? Text.IsRespelling :=
  ⟨by decide, fun _ _ h => congrArg vocabulary.find? h.squeeze_eq⟩

/-- The words for directions are read however they are spelled. -/
lemma Direction.isReadLoosely : vocabulary.IsReadLoosely parse? Text.IsRespelling :=
  ⟨by decide, fun _ _ h => congrArg vocabulary.find? h.squeeze_eq⟩

/-- The phrases for amounts are read however they are spelled. -/
lemma Amount.isReadLoosely : vocabulary.IsReadLoosely parse? Text.IsRephrasing :=
  ⟨by decide, fun _ _ h => congrArg vocabulary.find? h.slug_eq⟩

namespace Scene

variable {α : Type} [Scalar α] {scene : Scene α} {name name' : String}

omit [Scalar α] in
/-- A reserved name has a key. -/
lemma IsReserved.slug_ne_nil (h : scene.IsReserved name) : Text.slug name.toList ≠ [] := by
  have hlisted : ∀ entry ∈ Landmark.vocabulary, entry.1.toList ≠ [] := by decide
  rcases h with hcurrent | ⟨-, entry, hentry, hplain | hmarked⟩
  · rw [hcurrent]
    decide
  · rw [hplain]
    exact hlisted entry hentry
  · rw [hmarked]
    exact List.append_ne_nil_of_right_ne_nil _ (hlisted entry hentry)

/-- Two names with the same key stand for the same place if one of them is reserved: features, which
are not found by keys, come last. -/
lemma locate_of_slug_eq (around : Surroundings α) (current : Vec α) (h : scene.IsReserved name)
    (hkey : Text.slug name'.toList = Text.slug name.toList) :
    scene.locate around current name' = scene.locate around current name := by
  simp only [locate, hkey]
  refine ite_congr rfl (fun _ => rfl) fun _ => ite_congr rfl (fun _ => rfl) fun hcurrent => ?_
  obtain ⟨p, hp⟩ := Option.isSome_iff_exists.mp
    ((isSome_landmark?_iff around).mpr (h.resolve_left hcurrent))
  rw [hp]
  rfl

end Scene

/-- **Words mean the same however they are spelled.**  The words for easings, paces and directions
are read in all their spellings, and so are the phrases for amounts.  A name for the point that the
camera looks at or for a landmark stands for the same place in all its spellings.  Nothing is left
to be done in a key: the key of a key is the key itself. -/
theorem reads_alike {α : Type} [Scalar α] :
    (Easing.vocabulary.IsReadLoosely Easing.parse? Text.IsRespelling ∧
      Pace.vocabulary.IsReadLoosely Pace.parse? Text.IsRespelling ∧
      Direction.vocabulary.IsReadLoosely Direction.parse? Text.IsRespelling) ∧
    Amount.vocabulary.IsReadLoosely Amount.parse? Text.IsRephrasing ∧
    (∀ (scene : Scene α) (around : Surroundings α) (current : Vec α) (s t : String),
      scene.IsReserved s → Text.IsRephrasing s t →
        ∃ p, scene.locate around current s = some p ∧ scene.locate around current t = some p) ∧
    (∀ s, Text.squeeze (Text.squeeze s) = Text.squeeze s) ∧
    ∀ s, Text.slug (Text.slug s) = Text.slug s := by
  refine ⟨⟨Easing.isReadLoosely, Pace.isReadLoosely, Direction.isReadLoosely⟩,
    Amount.isReadLoosely, ?_, Text.squeeze_squeeze, Text.slug_slug⟩
  intro scene around current s t hreserved h
  obtain ⟨p, hp⟩ := Scene.exists_locate_of_isReserved hreserved hreserved.slug_ne_nil
  exact ⟨p, hp, (Scene.locate_of_slug_eq around current hreserved h.slug_eq).trans hp⟩

/-- A hyphen within a word, and other gaps between the words of two phrases. -/
theorem reads_alike_variants :
    (Text.IsRespelling "fast" "Fa-st" ∧ Pace.parse? "Fa-st" = some .fast) ∧
    (Text.IsRephrasing "very far" " VERY-_far" ∧ Amount.parse? " VERY-_far" = some .huge) ∧
    (Text.IsRephrasing "object center" "Object--Center" ∧
      (.cube : Scene ℝ).IsReserved "object center") ∧
    ∃ p, (.cube : Scene ℝ).locate .free 0 "object center" = some p ∧
      (.cube : Scene ℝ).locate .free 0 "Object--Center" = some p := by
  have hword : Text.IsRespelling "fast" "Fa-st" := by
    have hcase : Text.Respells "fast".toList "Fast".toList := .recase (by decide)
    have hhyphen : Text.Respells "Fast".toList "Fa-st".toList :=
      .insert "Fa".toList "st".toList (by decide)
    exact .tail (.single hcase) hhyphen
  have hspace : ∀ c ∈ [' '], Text.isSeparator c = true := List.all_eq_true.mp (by decide)
  have hpair : ∀ c ∈ ['-', '_'], Text.isSeparator c = true := List.all_eq_true.mp (by decide)
  have hhyphens : ∀ c ∈ ['-', '-'], Text.isSeparator c = true := List.all_eq_true.mp (by decide)
  have hnothing : ∀ c ∈ [], Text.isSeparator c = true := List.forall_mem_nil _
  have hphrase : Text.IsRephrasing "very far" " VERY-_far" := by
    have hcase : Text.Rephrases "very far".toList "VERY far".toList := .recase (by decide)
    have hgap : Text.Rephrases "VERY far".toList "VERY-_far".toList :=
      .respace "VERY".toList "far".toList (List.cons_ne_nil _ _) (List.cons_ne_nil _ _) hspace hpair
    have hends : Text.Rephrases "VERY-_far".toList " VERY-_far".toList :=
      .repad "VERY-_far".toList hnothing hnothing hspace hnothing
    exact .tail (.tail (.single hcase) hgap) hends
  have hname : Text.IsRephrasing "object center" "Object--Center" := by
    have hcase : Text.Rephrases "object center".toList "Object Center".toList := .recase (by decide)
    have hgap : Text.Rephrases "Object Center".toList "Object--Center".toList :=
      .respace "Object".toList "Center".toList (List.cons_ne_nil _ _) (List.cons_ne_nil _ _)
        hspace hhyphens
    exact .tail (.single hcase) hgap
  have hreserved : (.cube : Scene ℝ).IsReserved "object center" :=
    .inr ⟨rfl, Landmark.isSome_ofKey?_iff.mp (by decide)⟩
  obtain ⟨⟨-, hpace, -⟩, hamount, hlocate, -⟩ := reads_alike (α := ℝ)
  refine ⟨⟨hword, ?_⟩, ⟨hphrase, ?_⟩, ⟨hname, hreserved⟩, ?_⟩
  · exact (hpace.alike _ _ hword).trans (by decide)
  · exact (hamount.alike _ _ hphrase).trans (by decide)
  · exact hlocate .cube .free 0 _ _ hreserved hname

end Cinematics
