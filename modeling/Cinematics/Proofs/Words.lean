import Mathlib.Data.List.TakeWhile
import Cinematics.Proofs.Leniency
import Cinematics.Text.Word

/-!
# Words and what stands between them

The key of a phrase is made of its words, so a phrase without words has an empty key.  This file
shows that there are no other phrases with an empty key (`Text.slug_eq_nil_iff`): a phrase has a
word as soon as it has one character that does not separate words.

The point is that lowering, which comes before the words are told apart, neither makes separators
nor takes them away, and never drops a character.  For characters with an entry in the case table
this is checked on the table: no run of it, and no run of lower-case forms, meets a separator
(`Text.keepsOff_caseRuns`).
-/

namespace Cinematics.Text

/-! ### Separators and the case table -/

/-- The code points of white space, of the hyphen and of the underscore. -/
def separatorRanges : List (ℕ × ℕ) :=
  [(0x9, 0xD), (0x20, 0x20), (0x2D, 0x2D), (0x5F, 0x5F), (0x85, 0x85), (0xA0, 0xA0),
   (0x1680, 0x1680), (0x2000, 0x200A), (0x2028, 0x2029), (0x202F, 0x202F), (0x205F, 0x205F),
   (0x3000, 0x3000)]

/-- A character separates words if its code point is among those that do. -/
lemma isSeparator_iff {c : Char} :
    isSeparator c = true ↔ ∃ r ∈ separatorRanges, r.1 ≤ c.toNat ∧ c.toNat ≤ r.2 := by
  have hhyphen : c = '-' ↔ c.toNat = 0x2D :=
    ⟨fun h => h ▸ rfl, fun h => by rw [← Char.ofNat_toNat c, h]⟩
  have hunderscore : c = '_' ↔ c.toNat = 0x5F :=
    ⟨fun h => h ▸ rfl, fun h => by rw [← Char.ofNat_toNat c, h]⟩
  simp only [isSeparator, isBlank, separatorRanges, hhyphen, hunderscore, Bool.or_eq_true,
    Bool.and_eq_true, decide_eq_true_eq, List.mem_cons, List.not_mem_nil, or_false,
    exists_eq_or_imp, exists_eq_left]
  omega

/-- Whether a run of the case table, and the lower-case forms of its characters, keep off some
ranges. -/
def CaseRun.keepsOff (run : CaseRun) (ranges : List (ℕ × ℕ)) : Bool :=
  ranges.all fun r =>
    (run.last < r.1 || r.2 < run.first) &&
      (run.last + run.shift < (r.1 : ℤ) || (r.2 : ℤ) < run.first + run.shift)

/-- The case table keeps off separators. -/
lemma keepsOff_caseRuns : ∀ run ∈ caseRuns, run.keepsOff separatorRanges = true := by
  decide +kernel

/-- The code point of a character that is made of a number. -/
lemma toNat_ofNat_cases (n : ℕ) : (Char.ofNat n).toNat = n ∨ (Char.ofNat n).toNat = 0 := by
  by_cases h : n.isValidChar
  · exact .inl (congrArg Char.toNat (dif_pos h))
  · exact .inr (congrArg Char.toNat (dif_neg h))

/-- A character with an entry in the case table is no separator, and neither is its lower-case
form. -/
lemma CaseRun.isSeparator_of_covers {run : CaseRun} {n : ℕ} (hrun : run ∈ caseRuns)
    (hcovers : run.covers n = true) {c : Char}
    (hc : c.toNat = n ∨ c.toNat = (n + run.shift).toNat ∨ c.toNat = 0) :
    isSeparator c = false := by
  have hoff := keepsOff_caseRuns run hrun
  simp only [keepsOff, List.all_eq_true, Bool.and_eq_true, Bool.or_eq_true,
    decide_eq_true_eq] at hoff
  simp only [covers, Bool.and_eq_true, decide_eq_true_eq] at hcovers
  rw [← Bool.not_eq_true, isSeparator_iff]
  rintro ⟨r, hr, hfirst, hlast⟩
  have hpositive : ∀ r ∈ separatorRanges, 0 < r.1 := by decide
  have hzero := hpositive r hr
  have hrun := hoff r hr
  omega

/-- Lowering a character neither makes a separator nor takes one away. -/
lemma isSeparator_of_mem_lowerChar {c d : Char} (h : d ∈ lowerChar c) :
    isSeparator d = isSeparator c := by
  unfold lowerChar at h
  split at h
  · -- few enough characters to look at each
    rename_i hascii
    have hall : ∀ n < 0x80, isSeparator (Char.ofNat n).toLower = isSeparator (Char.ofNat n) := by
      decide +kernel
    have hc := hall c.toNat hascii
    rw [Char.ofNat_toNat] at hc
    rw [List.mem_singleton.mp h, hc]
  · split at h
    · rename_i hdotted
      have hc : isSeparator c = false := by
        rw [← Char.ofNat_toNat c, hdotted]
        decide
      rw [hc]
      rcases List.mem_pair.mp h with rfl | rfl
      · decide
      · decide
    · split at h
      · rename_i run hfind
        have hrun := List.mem_of_find?_eq_some hfind
        have hcovers := List.find?_some hfind
        rw [List.mem_singleton.mp h, CaseRun.isSeparator_of_covers hrun hcovers (.inl rfl),
          CaseRun.isSeparator_of_covers hrun hcovers (.inr (toNat_ofNat_cases _))]
      · rw [List.mem_singleton.mp h]

/-- Lowering does not drop a character. -/
lemma lowerChar_ne_nil (c : Char) : lowerChar c ≠ [] := by
  unfold lowerChar
  split
  · exact List.cons_ne_nil _ _
  · split
    · exact List.cons_ne_nil _ _
    · split
      · exact List.cons_ne_nil _ _
      · exact List.cons_ne_nil _ _

/-- A small sigma is no separator. -/
lemma isSeparator_lowerSigma (before after : List Char) :
    isSeparator (lowerSigma before after) = false := by
  unfold lowerSigma
  split
  · decide
  · decide

/-! ### Texts of separators only -/

/-- A text that stands behind another is lowered to separators only if it has nothing else.  The
induction is on the text; what stands before it matters only to a capital sigma, which is no
separator in either form. -/
lemma forall_isSeparator_lowerAfter (before s : List Char) :
    (∀ d ∈ lowerAfter before s, isSeparator d = true) ↔ ∀ c ∈ s, isSeparator c = true := by
  induction s generalizing before with
  | nil => simp [lowerAfter]
  | cons c rest ih =>
    rw [lowerAfter, List.forall_mem_append, ih, List.forall_mem_cons]
    refine and_congr_left fun _ => ?_
    split
    · rename_i hsigma
      rw [List.forall_mem_singleton, isSeparator_lowerSigma, hsigma]
      decide
    · constructor
      · intro hall
        obtain ⟨d, hd⟩ := List.exists_mem_of_ne_nil _ (lowerChar_ne_nil c)
        exact (isSeparator_of_mem_lowerChar hd).symm.trans (hall d hd)
      · intro hc d hd
        exact (isSeparator_of_mem_lowerChar hd).trans hc

/-- A text is lowered to separators only if it has nothing else. -/
lemma forall_isSeparator_lower (s : List Char) :
    (∀ d ∈ lower s, isSeparator d = true) ↔ ∀ c ∈ s, isSeparator c = true :=
  forall_isSeparator_lowerAfter [] s

/-- White space separates words. -/
lemma isSeparator_of_isBlank {c : Char} (h : isBlank c = true) : isSeparator c = true := by
  rw [isSeparator, h, Bool.true_or, Bool.true_or]

/-- What is trimmed off a text is white space at its two ends. -/
lemma exists_eq_trim (s : List Char) :
    ∃ lead tail, s = lead ++ trim s ++ tail ∧ (∀ c ∈ lead, isBlank c = true) ∧
      ∀ c ∈ tail, isBlank c = true := by
  obtain ⟨lead, hs, hlead, -⟩ := stripsStart_iff.mpr (rfl : s.dropWhile isBlank = _)
  obtain ⟨tail, hrest, htail, -⟩ := stripsEnd_iff.mpr (rfl : trim s = _)
  refine ⟨lead, tail, ?_, hlead, htail⟩
  rw [List.append_assoc, ← hrest, ← hs]

/-- A text is trimmed to separators only if it has nothing else. -/
lemma forall_isSeparator_trim (s : List Char) :
    (∀ c ∈ trim s, isSeparator c = true) ↔ ∀ c ∈ s, isSeparator c = true := by
  obtain ⟨lead, tail, hs, hlead, htail⟩ := exists_eq_trim s
  constructor
  · intro h
    rw [hs, List.forall_mem_append, List.forall_mem_append]
    exact ⟨⟨fun c hc => isSeparator_of_isBlank (hlead c hc), h⟩,
      fun c hc => isSeparator_of_isBlank (htail c hc)⟩
  · intro h c hc
    refine h c ?_
    rw [hs]
    exact List.mem_append_left _ (List.mem_append_right _ hc)

/-! ### The words of a phrase -/

section Words

variable {separates : Char → Bool} {s : List Char}

/-- A separator in front of a phrase does not belong to its words. -/
lemma wordsBy_cons_of_separates {c : Char} (hc : separates c = true) (rest : List Char) :
    wordsBy separates (c :: rest) = wordsBy separates rest :=
  if_pos hc

/-- A character that does not separate begins a word, and the other words are those of the rest. -/
lemma exists_wordsBy_cons {c : Char} (hc : ¬ separates c = true) (rest : List Char) :
    ∃ word words, wordsBy separates (c :: rest) = (c :: word) :: words ∧
      ∀ w ∈ words, w ∈ wordsBy separates rest := by
  cases rest with
  | nil => exact ⟨[], [], if_neg hc, List.forall_mem_nil _⟩
  | cons d tail =>
    cases hwords : wordsBy separates (d :: tail) with
    | nil =>
      refine ⟨[], [], (if_neg hc).trans ?_, List.forall_mem_nil _⟩
      rw [hwords]
    | cons word words =>
      have hopen : wordsBy separates (c :: d :: tail) =
          if separates d = true then [c] :: word :: words else (c :: word) :: words := by
        refine (if_neg hc).trans ?_
        rw [hwords]
      rw [hopen]
      split
      · exact ⟨[], word :: words, rfl, fun w hw => hw⟩
      · exact ⟨word, words, rfl, fun w hw => List.mem_cons_of_mem _ hw⟩

/-- A phrase without words has separators only. -/
lemma wordsBy_eq_nil_iff : wordsBy separates s = [] ↔ ∀ c ∈ s, separates c = true := by
  induction s with
  | nil => simp [wordsBy]
  | cons c rest ih =>
    rw [List.forall_mem_cons]
    by_cases hc : separates c = true
    · rw [wordsBy_cons_of_separates hc, ih]
      exact (and_iff_right hc).symm
    · obtain ⟨word, words, hwords, -⟩ := exists_wordsBy_cons hc rest
      rw [hwords]
      exact iff_of_false (List.cons_ne_nil _ _) fun h => hc h.1

/-- A word has a character. -/
lemma ne_nil_of_mem_wordsBy {word : List Char} (h : word ∈ wordsBy separates s) : word ≠ [] := by
  induction s with
  | nil => simp [wordsBy] at h
  | cons c rest ih =>
    by_cases hc : separates c = true
    · exact ih (wordsBy_cons_of_separates hc rest ▸ h)
    · obtain ⟨first, words, hwords, hrest⟩ := exists_wordsBy_cons hc rest
      rw [hwords] at h
      rcases List.mem_cons.mp h with rfl | h
      · exact List.cons_ne_nil _ _
      · exact ih (hrest word h)

end Words

/-- **A phrase has an empty key exactly if it has separators only.** -/
theorem slug_eq_nil_iff {s : List Char} : slug s = [] ↔ ∀ c ∈ s, isSeparator c = true := by
  rw [← forall_isSeparator_trim, ← forall_isSeparator_lower, ← wordsBy_eq_nil_iff, slug]
  cases hwords : wordsBy isSeparator (lower (trim s)) with
  | nil => exact iff_of_true rfl rfl
  | cons word words =>
    have hword : word ≠ [] := ne_nil_of_mem_wordsBy (hwords ▸ List.mem_cons_self)
    refine iff_of_false ?_ (List.cons_ne_nil _ _)
    cases words with
    | nil => simpa [List.intercalate] using hword
    | cons word' words => simp [List.intercalate_cons_cons]

end Cinematics.Text
