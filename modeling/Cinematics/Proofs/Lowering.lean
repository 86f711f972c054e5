import Mathlib.Algebra.Order.Ring.GeomSum
import Cinematics.Proofs.Words

/-!
# Lower case

What lowering a text depends on, and what it leaves alone.  It does not look at the case of ASCII
letters (`Text.lower_map_toLower`), it does not look past a separator
(`Text.lowerAfter_append_separator`), and it has nothing left to do in a text that it has been
through (`Text.lowerChar_of_mem_lowerAfter`, `Text.lowerAfter_of_forall`).

Only a capital sigma looks at the text around it, and it looks at two classes of characters.  The
first fact holds since a letter and its small form are in the same classes, and the second one since
separators are in neither.  The third fact is about the case table: no lower-case form is changed by
lowering.

So what there is to know about the tables is that certain sets of characters have none in common.
To compare two tables entry by entry would take long.  Instead a set is written as one number with a
bit for each of its characters, and then one operation on two numbers compares all of two tables.
-/

namespace Cinematics.Text

variable {c d : Char} {s t before before' : List Char} {run : CaseRun} {n : ℕ}

/-! ### Tables as sets of characters -/

section Sets

variable {β : Type} {mask : β → ℕ} {xs : List β} {a b first stride count i : ℕ}

/-- The set of `first`, `first + stride`, …, `count` numbers in all. -/
def progression (first stride count : ℕ) : ℕ :=
  ((2 ^ (stride * count) - 1) / (2 ^ stride - 1)) <<< first

/-- The union of the sets that are given for the entries of a table. -/
def unionOf (mask : β → ℕ) (xs : List β) : ℕ :=
  xs.foldl (fun bits x => bits ||| mask x) 0

/-- The bits of a progression that starts at zero, one after the other. -/
lemma repunit_succ (hstride : 0 < stride) (count : ℕ) :
    (2 ^ (stride * (count + 1)) - 1) / (2 ^ stride - 1) =
      2 ^ stride * ((2 ^ (stride * count) - 1) / (2 ^ stride - 1)) + 1 := by
  have htwo : 2 ≤ 2 ^ stride := Nat.one_lt_two_pow hstride.ne'
  rw [pow_mul, pow_mul, ← Nat.geomSum_eq htwo, ← Nat.geomSum_eq htwo, Finset.sum_range_succ',
    Finset.mul_sum, pow_zero]
  simp only [pow_succ']

/-- A progression contains its members. -/
lemma testBit_progression (hstride : 0 < stride) (hi : i < count) :
    (progression first stride count).testBit (first + stride * i) = true := by
  have hrepunit : ((2 ^ (stride * count) - 1) / (2 ^ stride - 1)).testBit (stride * i) = true := by
    induction count generalizing i with
    | zero => omega
    | succ count ih =>
      have hone : 1 < 2 ^ stride := Nat.one_lt_two_pow hstride.ne'
      rw [repunit_succ hstride, Nat.testBit_two_pow_mul_add _ hone]
      -- the lowest bit, and the bits of a shorter progression above it
      cases i with
      | zero => simp [hstride]
      | succ i =>
        have hge : ¬ stride * (i + 1) < stride := by
          rw [Nat.mul_succ]
          omega
        rw [if_neg hge, Nat.mul_succ, Nat.add_sub_cancel]
        exact ih (by omega)
  rw [progression, Nat.testBit_shiftLeft, Nat.add_sub_cancel_left, hrepunit]
  simp

/-- A union contains what one of the sets contains. -/
lemma testBit_unionOf {x : β} (hx : x ∈ xs) (h : (mask x).testBit n = true) :
    (unionOf mask xs).testBit n = true := by
  have hfold : ∀ bits : ℕ, bits.testBit n = true ∨ x ∈ xs →
      (xs.foldl (fun bits x => bits ||| mask x) bits).testBit n = true := by
    clear hx
    induction xs with
    | nil => simp
    | cons y ys ih =>
      intro bits hbits
      refine ih _ ?_
      rw [Nat.testBit_or, Bool.or_eq_true]
      rcases hbits with hbits | hx
      · exact .inl (.inl hbits)
      · rcases List.mem_cons.mp hx with rfl | hx
        · exact .inl (.inr h)
        · exact .inr hx
  exact hfold 0 (.inr hx)

/-- What is in one of two sets that have nothing in common is not in the other. -/
lemma testBit_eq_false_of_and_eq_zero (h : a &&& b = 0) (ha : a.testBit n = true) :
    b.testBit n = false := by
  have hbit := congrArg (Nat.testBit · n) h
  simpa only [Nat.testBit_and, ha, Bool.true_and, Nat.zero_testBit] using hbit

end Sets

/-! ### The classes of characters and the case table -/

/-- The set of the code points in some ranges. -/
def rangeSet (ranges : List (ℕ × ℕ)) : ℕ :=
  unionOf (fun r => progression r.1 1 (r.2 + 1 - r.1)) ranges

/-- A set of ranges contains what is in one of them. -/
lemma testBit_rangeSet {ranges : List (ℕ × ℕ)} (h : ∃ r ∈ ranges, r.1 ≤ n ∧ n ≤ r.2) :
    (rangeSet ranges).testBit n = true := by
  obtain ⟨r, hr, hfirst, hlast⟩ := h
  refine testBit_unionOf hr ?_
  have hn : n = r.1 + 1 * (n - r.1) := by omega
  rw [hn]
  exact testBit_progression one_pos (by omega)

/-- A character is in some ranges if its code point is in one of them. -/
lemma inRanges_iff {ranges : List (ℕ × ℕ)} :
    inRanges ranges c = true ↔ ∃ r ∈ ranges, r.1 ≤ c.toNat ∧ c.toNat ≤ r.2 := by
  simp only [inRanges, List.any_eq_true, Bool.and_eq_true, decide_eq_true_eq]

/-- A character is not in ranges that have nothing in common with those it is in. -/
lemma inRanges_eq_false {ranges others : List (ℕ × ℕ)}
    (h : rangeSet ranges &&& rangeSet others = 0) (hc : inRanges ranges c = true) :
    inRanges others c = false := by
  rw [← Bool.not_eq_true]
  intro hother
  have hbit := testBit_eq_false_of_and_eq_zero h (testBit_rangeSet (inRanges_iff.mp hc))
  rw [testBit_rangeSet (inRanges_iff.mp hother)] at hbit
  cases hbit

/-- How many characters belong to a run of the case table. -/
def CaseRun.count (run : CaseRun) : ℕ :=
  (run.last - run.first) / run.stride + 1

/-- The set of the characters with an entry in the case table. -/
def entrySet : ℕ :=
  unionOf (fun run => progression run.first run.stride run.count) caseRuns

/-- The set of the lower-case forms in the case table. -/
def formSet : ℕ :=
  unionOf (fun run => progression (run.first + run.shift).toNat run.stride run.count) caseRuns

/-- The set of all characters that are changed by lowering. -/
def changedSet : ℕ :=
  entrySet ||| rangeSet [(0x41, 0x5A), (0x130, 0x130)]

/-- What characters outside ASCII are lowered to without the case table: the two characters that the
capital I with a dot becomes, the two forms of the small sigma, and the character that `Char.ofNat`
makes of a number that is no code point. -/
def otherForms : List (ℕ × ℕ) := [(0, 0), (0x69, 0x69), (0x307, 0x307), (0x3C2, 0x3C3)]

/-- The set of the characters that those outside ASCII are lowered to. -/
def loweredSet : ℕ :=
  formSet ||| rangeSet otherForms

/-- The letters of ASCII. -/
def letterRanges : List (ℕ × ℕ) := [(0x41, 0x5A), (0x61, 0x7A)]

/-- The letters of ASCII are not passed over.  Separators are neither passed over nor letters, and
lowering does not change them; nor does it change what it makes of characters outside ASCII. -/
lemma tables_apart :
    rangeSet letterRanges &&& rangeSet ignorableRanges = 0 ∧
    (rangeSet separatorRanges &&& rangeSet ignorableRanges = 0 ∧
      rangeSet separatorRanges &&& rangeSet casedRanges = 0 ∧
      rangeSet separatorRanges &&& changedSet = 0) ∧
    loweredSet &&& changedSet = 0 := by
  decide +kernel

/-- The runs of the case table go on, and their lower-case forms do not begin below zero. -/
lemma caseRuns_sound : ∀ run ∈ caseRuns, 0 < run.stride ∧ 0 ≤ run.first + run.shift := by
  decide +kernel

/-- What a run covers is one of its characters, counted from the first. -/
lemma CaseRun.exists_of_covers (h : run.covers n = true) :
    ∃ i < run.count, n = run.first + run.stride * i := by
  simp only [covers, Bool.and_eq_true, decide_eq_true_eq] at h
  obtain ⟨⟨hfirst, hlast⟩, hstep⟩ := h
  refine ⟨(n - run.first) / run.stride, ?_, ?_⟩
  · exact Nat.lt_succ_of_le (Nat.div_le_div_right (by omega))
  · have hdiv := Nat.div_add_mod (n - run.first) run.stride
    omega

/-- The set of entries contains what a run covers. -/
lemma testBit_entrySet (hrun : run ∈ caseRuns) (h : run.covers n = true) :
    entrySet.testBit n = true := by
  have hstride := (caseRuns_sound run hrun).1
  obtain ⟨i, hi, rfl⟩ := run.exists_of_covers h
  exact testBit_unionOf hrun (testBit_progression hstride hi)

/-- The set of lower-case forms contains that of what a run covers. -/
lemma testBit_formSet (hrun : run ∈ caseRuns) (h : run.covers n = true) :
    formSet.testBit (n + run.shift).toNat = true := by
  obtain ⟨hstride, hbegin⟩ := caseRuns_sound run hrun
  obtain ⟨i, hi, rfl⟩ := run.exists_of_covers h
  have hform : ((run.first + run.stride * i : ℕ) + run.shift).toNat =
      (run.first + run.shift).toNat + run.stride * i := by
    omega
  rw [hform]
  exact testBit_unionOf hrun (testBit_progression hstride hi)

/-- A character that is no capital letter of ASCII is its own small letter. -/
lemma toLower_of_not_capital (h : ¬ (0x41 ≤ c.toNat ∧ c.toNat ≤ 0x5A)) : c.toLower = c :=
  dif_neg h

/-- Only the characters of `changedSet` are changed by lowering. -/
lemma lowerChar_of_not_changed (h : changedSet.testBit c.toNat = false) : lowerChar c = [c] := by
  rw [changedSet, Nat.testBit_or, Bool.or_eq_false_iff] at h
  obtain ⟨hentry, hother⟩ := h
  have hranges : ¬ ∃ r ∈ [(0x41, 0x5A), (0x130, 0x130)], r.1 ≤ c.toNat ∧ c.toNat ≤ r.2 := by
    intro hr
    rw [testBit_rangeSet hr] at hother
    cases hother
  simp only [List.mem_cons, List.not_mem_nil, or_false, exists_eq_or_imp, exists_eq_left] at hranges
  by_cases hascii : c.toNat < 0x80
  · rw [lowerChar, if_pos hascii, toLower_of_not_capital (by omega)]
  · have hnone : ∀ run ∈ caseRuns, ¬ run.covers c.toNat = true := by
      intro run hrun hcovers
      rw [testBit_entrySet hrun hcovers] at hentry
      cases hentry
    rw [lowerChar, if_neg hascii, if_neg (by omega), List.find?_eq_none.mpr hnone]

/-! ### The case of ASCII letters -/

/-- What is the same for a small letter of ASCII and its capital does not depend on the case of
ASCII letters. -/
lemma apply_toLower {β : Type} {f : Char → β}
    (hletters : ∀ n < 26, f (Char.ofNat (0x41 + n)).toLower = f (Char.ofNat (0x41 + n)))
    (c : Char) : f c.toLower = f c := by
  by_cases h : 0x41 ≤ c.toNat ∧ c.toNat ≤ 0x5A
  · have hc := hletters (c.toNat - 0x41) (by omega)
    rwa [Nat.add_sub_cancel' h.1, Char.ofNat_toNat] at hc
  · rw [toLower_of_not_capital h]

/-- The lower-case form of an ASCII letter is that of its small letter. -/
lemma lowerChar_toLower (c : Char) : lowerChar c.toLower = lowerChar c :=
  apply_toLower (by decide) c

/-- The capital sigma is no ASCII letter. -/
lemma toLower_eq_sigma_iff : c.toLower = 'Σ' ↔ c = 'Σ' :=
  decide_eq_decide.mp (apply_toLower (f := fun c => decide (c = 'Σ')) (by decide) c)

/-- A character that has a small letter is a letter of ASCII, and so is its small letter. -/
lemma toLower_cases (c : Char) : c.toLower = c ∨
    inRanges letterRanges c.toLower = true ∧ inRanges letterRanges c = true := by
  by_cases h : 0x41 ≤ c.toNat ∧ c.toNat ≤ 0x5A
  · have hc : inRanges letterRanges c = true := inRanges_iff.mpr ⟨_, List.mem_cons_self, h⟩
    exact .inr ⟨(apply_toLower (by decide) c).trans hc, hc⟩
  · exact .inl (toLower_of_not_capital h)

/-- A small letter is passed over where its capital is. -/
lemma isIgnorable_toLower (c : Char) :
    inRanges ignorableRanges c.toLower = inRanges ignorableRanges c := by
  obtain ⟨hapart, -⟩ := tables_apart
  rcases toLower_cases c with h | ⟨hsmall, hcapital⟩
  · rw [h]
  · rw [inRanges_eq_false hapart hsmall, inRanges_eq_false hapart hcapital]

/-- A small letter has a case where its capital has one. -/
lemma isCased_toLower (c : Char) : inRanges casedRanges c.toLower = inRanges casedRanges c := by
  have hcased : ∀ c, inRanges letterRanges c = true → inRanges casedRanges c = true := by
    have hsubset : letterRanges ⊆ casedRanges := List.take_subset 2 casedRanges
    intro c hc
    obtain ⟨r, hr, hcode⟩ := inRanges_iff.mp hc
    exact inRanges_iff.mpr ⟨r, hsubset hr, hcode⟩
  rcases toLower_cases c with h | ⟨hsmall, hcapital⟩
  · rw [h]
  · rw [hcased _ hsmall, hcased _ hcapital]

/-- The first character decides unless it is passed over. -/
lemma startsCased_cons (c : Char) (s : List Char) :
    startsCased (c :: s) =
      if inRanges ignorableRanges c then startsCased s else inRanges casedRanges c := by
  cases h : inRanges ignorableRanges c with
  | true => simp [startsCased, h]
  | false => simp [startsCased, h]

/-- The case of ASCII letters makes no difference to whether a letter comes first. -/
lemma startsCased_map_toLower (s : List Char) :
    startsCased (s.map Char.toLower) = startsCased s := by
  induction s with
  | nil => rfl
  | cons c rest ih =>
    rw [List.map_cons, startsCased_cons, startsCased_cons, isIgnorable_toLower, isCased_toLower, ih]

/-- The case of ASCII letters, in a text and in front of it, makes no difference to lowering. -/
lemma lowerAfter_map_toLower (before s : List Char) :
    lowerAfter (before.map Char.toLower) (s.map Char.toLower) = lowerAfter before s := by
  induction s generalizing before with
  | nil => rfl
  | cons c rest ih =>
    rw [List.map_cons, lowerAfter, lowerAfter, ← List.map_cons, ih, lowerChar_toLower]
    simp only [toLower_eq_sigma_iff, lowerSigma, startsCased_map_toLower]

/-- **The case of ASCII letters makes no difference to lowering.** -/
theorem lower_map_toLower (s : List Char) : lower (s.map Char.toLower) = lower s :=
  lowerAfter_map_toLower [] s

/-! ### Separators -/

/-- No letter comes first where a separator does. -/
lemma startsCased_of_isSeparator (hc : isSeparator c = true) (s : List Char) :
    startsCased (c :: s) = false := by
  have hrange : inRanges separatorRanges c = true := inRanges_iff.mpr (isSeparator_iff.mp hc)
  obtain ⟨-, ⟨hignorable, hcased, -⟩, -⟩ := tables_apart
  rw [startsCased_cons, inRanges_eq_false hignorable hrange, inRanges_eq_false hcased hrange]
  rfl

/-- What stands behind a separator makes no difference to what comes first. -/
lemma startsCased_append_separator (hc : isSeparator c = true) (s t : List Char) :
    startsCased (s ++ c :: t) = startsCased s := by
  induction s with
  | nil => exact startsCased_of_isSeparator hc t
  | cons d rest ih => rw [List.cons_append, startsCased_cons, startsCased_cons, ih]

/-- All that counts of the text in front is whether a letter comes first. -/
lemma lowerAfter_congr (h : startsCased before = startsCased before') :
    lowerAfter before s = lowerAfter before' s := by
  induction s generalizing before before' with
  | nil => rfl
  | cons c rest ih =>
    have hnext : startsCased (c :: before) = startsCased (c :: before') := by
      rw [startsCased_cons, startsCased_cons, h]
    rw [lowerAfter, lowerAfter, ih hnext, lowerSigma, lowerSigma, h]

/-- A separator is its own lower-case form. -/
lemma lowerChar_of_isSeparator (hc : isSeparator c = true) : lowerChar c = [c] := by
  obtain ⟨-, ⟨-, -, hapart⟩, -⟩ := tables_apart
  exact lowerChar_of_not_changed
    (testBit_eq_false_of_and_eq_zero hapart (testBit_rangeSet (isSeparator_iff.mp hc)))

/-- **Lowering does not look past a separator.**  The texts on its two sides are lowered as if each
stood alone. -/
theorem lowerAfter_append_separator (hc : isSeparator c = true) (before s t : List Char) :
    lowerAfter before (s ++ c :: t) = lowerAfter before s ++ c :: lower t := by
  induction s generalizing before with
  | nil =>
    have hsigma : c ≠ 'Σ' := by
      rintro rfl
      exact absurd hc (by decide)
    have hstart : startsCased (c :: before) = startsCased [] :=
      startsCased_of_isSeparator hc before
    rw [List.nil_append, lowerAfter, lowerAfter, if_neg hsigma, lowerChar_of_isSeparator hc,
      lowerAfter_congr hstart]
    rfl
  | cons d rest ih =>
    rw [List.cons_append, lowerAfter, lowerAfter, ih, List.append_assoc, lowerSigma, lowerSigma,
      startsCased_append_separator hc]

/-! ### Lowered texts -/

/-- What a character outside ASCII is lowered to is its own lower-case form. -/
lemma lowerChar_of_lowered (h : loweredSet.testBit c.toNat = true) : lowerChar c = [c] := by
  obtain ⟨-, -, hapart⟩ := tables_apart
  exact lowerChar_of_not_changed (testBit_eq_false_of_and_eq_zero hapart h)

/-- The forms that are not in the case table are their own lower-case forms. -/
lemma lowerChar_of_otherForms (h : ∃ r ∈ otherForms, r.1 ≤ c.toNat ∧ c.toNat ≤ r.2) :
    lowerChar c = [c] := by
  refine lowerChar_of_lowered ?_
  rw [loweredSet, Nat.testBit_or, testBit_rangeSet h, Bool.or_true]

/-- The lower-case form of a character with an entry in the case table is its own lower-case
form. -/
lemma lowerChar_of_covers (hrun : run ∈ caseRuns) (hcovers : run.covers n = true) :
    lowerChar (Char.ofNat (n + run.shift).toNat) = [Char.ofNat (n + run.shift).toNat] := by
  rcases toNat_ofNat_cases (n + run.shift).toNat with hcode | hcode
  · refine lowerChar_of_lowered ?_
    rw [hcode, loweredSet, Nat.testBit_or, testBit_formSet hrun hcovers, Bool.true_or]
  · refine lowerChar_of_otherForms ?_
    rw [hcode]
    decide

/-- A lower-case form is its own lower-case form. -/
lemma lowerChar_of_mem_lowerChar (h : d ∈ lowerChar c) : lowerChar d = [d] := by
  unfold lowerChar at h
  split at h
  · rename_i hascii
    rw [List.mem_singleton.mp h, lowerChar_toLower, lowerChar, if_pos hascii]
  · split at h
    · rcases List.mem_pair.mp h with rfl | rfl
      · exact lowerChar_of_otherForms (by decide)
      · exact lowerChar_of_otherForms (by decide)
    · split at h
      · rename_i run hfind
        have hcovers := List.find?_some hfind
        rw [List.mem_singleton.mp h]
        exact lowerChar_of_covers (List.mem_of_find?_eq_some hfind) hcovers
      · rename_i hascii hdotted _ hfind
        rw [List.mem_singleton.mp h, lowerChar, if_neg hascii, if_neg hdotted, hfind]

/-- A small sigma is its own lower-case form. -/
lemma lowerChar_lowerSigma (before after : List Char) :
    lowerChar (lowerSigma before after) = [lowerSigma before after] := by
  unfold lowerSigma
  split
  · exact lowerChar_of_otherForms (by decide)
  · exact lowerChar_of_otherForms (by decide)

/-- Every character of a lowered text is its own lower-case form. -/
lemma lowerChar_of_mem_lowerAfter (h : d ∈ lowerAfter before s) : lowerChar d = [d] := by
  induction s generalizing before with
  | nil => cases h
  | cons c rest ih =>
    rw [lowerAfter, List.mem_append] at h
    rcases h with h | h
    · split at h
      · rw [List.mem_singleton.mp h]
        exact lowerChar_lowerSigma before rest
      · exact lowerChar_of_mem_lowerChar h
    · exact ih h

/-- A text of characters that are their own lower-case forms is lowered already.  The capital sigma,
which alone looks at its surroundings, is not among them. -/
lemma lowerAfter_of_forall (h : ∀ c ∈ s, lowerChar c = [c]) : lowerAfter before s = s := by
  induction s generalizing before with
  | nil => rfl
  | cons c rest ih =>
    obtain ⟨hc, hrest⟩ := List.forall_mem_cons.mp h
    have hsigma : c ≠ 'Σ' := by
      rintro rfl
      exact absurd hc (by decide)
    rw [lowerAfter, if_neg hsigma, hc, ih hrest]
    rfl

end Cinematics.Text
