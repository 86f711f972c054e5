import Mathlib.Tactic.IntervalCases
import Cinematics.Decimal.Scan

/-!
# Written numerals are scanned as they are

`Numeral.render` writes a numeral with exactly the digits it has, and `Numeral.scan?` takes the
longest numeral off the front of a text.  So scanning what has been written gives the numeral back,
with its point and its power of ten where they were, if what follows cannot be mistaken for more of
it (`Numeral.scan?_render`).  Nothing here depends on the value of a numeral.
-/

namespace Cinematics

namespace Decimal

/-! ### Digits -/

/-- The character of a digit is a digit. -/
lemma isDigit_digitChar {d : ℕ} (hd : d < 10) : (digitChar d).isDigit = true := by
  interval_cases d <;> decide

/-- The character of a digit has its value. -/
lemma digitValue_digitChar {d : ℕ} (hd : d < 10) : digitValue (digitChar d) = d := by
  interval_cases d <;> decide

/-- The last digit of a number. -/
lemma mod_ten_lt (n : ℕ) : n % 10 < 10 := Nat.mod_lt n (by decide)

/-- One more digit makes ten times as much and the digit. -/
lemma ofDigits_concat (ds : List Char) (c : Char) :
    ofDigits (ds ++ [c]) = 10 * ofDigits ds + digitValue c := by
  rw [ofDigits, List.foldl_append]
  rfl

/-- The only digit of a number below ten. -/
lemma digits_of_lt {n : ℕ} (hn : n < 10) (tail : List Char) :
    digits n tail = digitChar n :: tail := by
  rw [digits, if_pos hn]

/-- The digits of a larger number end in one digit more. -/
lemma digits_of_not_lt {n : ℕ} (hn : ¬ n < 10) (tail : List Char) :
    digits n tail = digits (n / 10) (digitChar (n % 10) :: tail) := by
  rw [digits, if_neg hn]

/-- Digits are written in front of what follows.  The induction is on the digits. -/
lemma digits_eq_append (n : ℕ) (tail : List Char) : digits n tail = digits n [] ++ tail := by
  induction n using Nat.strong_induction_on generalizing tail with
  | _ n ih =>
    by_cases hn : n < 10
    · rw [digits_of_lt hn, digits_of_lt hn]
      rfl
    · have hless : n / 10 < n := by omega
      rw [digits_of_not_lt hn, digits_of_not_lt hn, ih _ hless, ih _ hless [digitChar (n % 10)],
        List.append_assoc]
      rfl

/-- The digits of a number of more than one. -/
lemma digits_eq_concat {n : ℕ} (hn : ¬ n < 10) :
    digits n [] = digits (n / 10) [] ++ [digitChar (n % 10)] := by
  rw [digits_of_not_lt hn, digits_eq_append]

/-- What is written for a number are digits. -/
lemma isDigit_of_mem_digits {n : ℕ} {c : Char} (h : c ∈ digits n []) : c.isDigit = true := by
  induction n using Nat.strong_induction_on with
  | _ n ih =>
    by_cases hn : n < 10
    · rw [digits_of_lt hn] at h
      rw [List.mem_singleton.mp h]
      exact isDigit_digitChar hn
    · rw [digits_eq_concat hn] at h
      rcases List.mem_append.mp h with h | h
      · exact ih _ (by omega) h
      · rw [List.mem_singleton.mp h]
        exact isDigit_digitChar (mod_ten_lt n)

/-- The digits of a number denote it. -/
lemma ofDigits_digits (n : ℕ) : ofDigits (digits n []) = n := by
  induction n using Nat.strong_induction_on with
  | _ n ih =>
    by_cases hn : n < 10
    · rw [digits_of_lt hn]
      exact (Nat.zero_add _).trans (digitValue_digitChar hn)
    · rw [digits_eq_concat hn, ofDigits_concat, ih _ (by omega),
        digitValue_digitChar (mod_ten_lt n)]
      exact Nat.div_add_mod n 10

/-- The first digit of a number is zero only if the number is. -/
lemma digits_eq_cons (n : ℕ) :
    ∃ d ds, d < 10 ∧ digits n [] = digitChar d :: ds ∧ (d = 0 → n = 0) := by
  induction n using Nat.strong_induction_on with
  | _ n ih =>
    by_cases hn : n < 10
    · rw [digits_of_lt hn]
      exact ⟨n, [], hn, rfl, id⟩
    · obtain ⟨d, ds, hd, hdigits, hzero⟩ := ih (n / 10) (by omega)
      refine ⟨d, ds ++ [digitChar (n % 10)], hd, ?_, fun h => ?_⟩
      · rw [digits_eq_concat hn, hdigits]
        rfl
      · have hsmall : n / 10 = 0 := hzero h
        omega

/-- The digits of a number may stand in front of a point. -/
lemma isWholePart_digits (n : ℕ) : isWholePart (digits n []) = true := by
  obtain ⟨d, ds, hd, hdigits, hzero⟩ := digits_eq_cons n
  by_cases h : d = 0
  · obtain rfl := hzero h
    rw [digits_of_lt (by decide)]
    rfl
  · -- the first digit is not zero, so no needless zero leads
    rw [hdigits]
    have hchar : digitChar d ≠ '0' := by
      interval_cases d
      · exact absurd rfl h
      all_goals decide
    unfold isWholePart
    split
    · rename_i heq
      cases heq
    · rfl
    · rename_i heq
      exact absurd (List.cons.inj heq).1 hchar
    · rfl

/-- The last digits of a number are written in front of what follows. -/
lemma lastDigits_eq_append (count n : ℕ) (tail : List Char) :
    lastDigits count n tail = lastDigits count n [] ++ tail := by
  induction count generalizing n tail with
  | zero => rfl
  | succ count ih =>
    rw [lastDigits, lastDigits, ih, ih _ [digitChar (n % 10)], List.append_assoc]
    rfl

/-- There are as many last digits as are asked for. -/
lemma length_lastDigits (count n : ℕ) : (lastDigits count n []).length = count := by
  induction count generalizing n with
  | zero => rfl
  | succ count ih =>
    rw [lastDigits, lastDigits_eq_append, List.length_append, ih]
    rfl

/-- The last digits of a number are digits. -/
lemma isDigit_of_mem_lastDigits {count n : ℕ} {c : Char} (h : c ∈ lastDigits count n []) :
    c.isDigit = true := by
  induction count generalizing n with
  | zero => cases h
  | succ count ih =>
    rw [lastDigits, lastDigits_eq_append] at h
    rcases List.mem_append.mp h with h | h
    · exact ih h
    · rw [List.mem_singleton.mp h]
      exact isDigit_digitChar (mod_ten_lt n)

/-- More digits behind some denote the sum of both, the first ones moved up.  The induction is on
the number of the last digits, which are split off one by one. -/
lemma ofDigits_append_lastDigits (ds : List Char) (count n : ℕ) :
    ofDigits (ds ++ lastDigits count n []) = ofDigits ds * unit count + n % unit count := by
  induction count generalizing n with
  | zero =>
    rw [lastDigits, List.append_nil, unit]
    simp [Nat.mod_one]
  | succ count ih =>
    have hunit : unit (count + 1) = 10 * unit count := by
      simp only [unit, Nat.pow_eq, pow_succ, mul_comm]
    rw [lastDigits, lastDigits_eq_append, ← List.append_assoc, ofDigits_concat, ih,
      digitValue_digitChar (mod_ten_lt n), hunit, Nat.mod_mul, Nat.mul_left_comm]
    omega

/-! ### Runs of digits -/

/-- Whether a text does not go on with a digit. -/
def NoDigit (s : List Char) : Prop := ∀ c rest, s = c :: rest → c.isDigit = false

/-- A run of digits is scanned up to its end. -/
lemma scanDigits_append {ds tail : List Char} (hds : ∀ c ∈ ds, c.isDigit = true)
    (htail : NoDigit tail) : scanDigits (ds ++ tail) = (ds, tail) := by
  have hstop : tail.takeWhile Char.isDigit = [] ∧ tail.dropWhile Char.isDigit = tail := by
    cases tail with
    | nil => exact ⟨rfl, rfl⟩
    | cons c rest =>
      have hc : ¬ c.isDigit = true := by rw [htail c rest rfl]; exact Bool.false_ne_true
      exact ⟨List.takeWhile_cons_of_neg hc, List.dropWhile_cons_of_neg hc⟩
  rw [scanDigits, List.takeWhile_append_of_pos hds, List.dropWhile_append_of_pos hds, hstop.1,
    hstop.2, List.append_nil]

/-- A run of some digits is scanned up to its end. -/
lemma scanSomeDigits?_append {ds tail : List Char} (hne : ds ≠ [])
    (hds : ∀ c ∈ ds, c.isDigit = true) (htail : NoDigit tail) :
    scanSomeDigits? (ds ++ tail) = some (ds, tail) := by
  have hempty : ds.isEmpty = false := by
    rw [List.isEmpty_eq_false_iff]
    exact hne
  simp only [scanSomeDigits?, scanDigits_append hds htail, hempty, Bool.false_eq_true, if_false]

/-- The digits of a number are some. -/
lemma digits_ne_nil (n : ℕ) : digits n [] ≠ [] := by
  obtain ⟨d, ds, -, hdigits, -⟩ := digits_eq_cons n
  rw [hdigits]
  exact List.cons_ne_nil _ _

/-- A number starts with a digit. -/
lemma digits_start (n : ℕ) (tail : List Char) :
    ∃ d rest, d < 10 ∧ digits n tail = digitChar d :: rest := by
  obtain ⟨d, ds, hd, hdigits, -⟩ := digits_eq_cons n
  refine ⟨d, ds ++ tail, hd, ?_⟩
  rw [digits_eq_append, hdigits]
  rfl

/-- A number has no sign in front of its digits. -/
lemma scanSign_digits (n : ℕ) (tail : List Char) :
    scanSign (digits n tail) = (false, digits n tail) := by
  obtain ⟨d, rest, hd, hdigits⟩ := digits_start n tail
  rw [hdigits]
  interval_cases d <;> rfl

/-- A number has no minus sign in front of its digits. -/
lemma scanMinus_digits (n : ℕ) (tail : List Char) :
    scanMinus (digits n tail) = (false, digits n tail) := by
  obtain ⟨d, rest, hd, hdigits⟩ := digits_start n tail
  rw [hdigits]
  interval_cases d <;> rfl

end Decimal

namespace Numeral

open Decimal

/-! ### Numerals -/

/-- Whether a text does not go on with what could be part of a numeral. -/
def NoMore (s : List Char) : Prop :=
  ∀ c rest, s = c :: rest → c.isDigit = false ∧ c ≠ '.' ∧ c ≠ 'e' ∧ c ≠ 'E'

/-- What does not go on with a numeral does not go on with a digit. -/
lemma NoMore.noDigit {s : List Char} (h : NoMore s) : NoDigit s := fun c rest hs => (h c rest hs).1

/-- A power of ten that has been written is scanned as it is. -/
lemma scanExponent?_render (exponent : Option ℤ) {tail : List Char} (htail : NoMore tail) :
    scanExponent? (renderExponent exponent tail) = some (exponent, tail) := by
  cases exponent with
  | none =>
    cases tail with
    | nil => rfl
    | cons c rest =>
      obtain ⟨-, -, hlower, hupper⟩ := htail c rest rfl
      rw [renderExponent]
      unfold scanExponent?
      split
      · rename_i heq
        exact absurd (List.cons.inj heq).1 hlower
      · rename_i heq
        exact absurd (List.cons.inj heq).1 hupper
      · rfl
  | some e =>
    have hscan : scanSomeDigits? (digits e.natAbs tail) = some (digits e.natAbs [], tail) := by
      rw [digits_eq_append]
      exact scanSomeDigits?_append (digits_ne_nil _) (fun _ => isDigit_of_mem_digits) htail.noDigit
    by_cases hneg : e < 0
    · have hvalue : -(e.natAbs : ℤ) = e := by omega
      have hsign : scanSign ('-' :: digits e.natAbs tail) = (true, digits e.natAbs tail) := rfl
      simp only [renderExponent, if_pos hneg, scanExponent?, scanSigned?, hsign, hscan,
        Option.map_some, if_true, ofDigits_digits, hvalue]
    · have hvalue : (e.natAbs : ℤ) = e := by omega
      simp only [renderExponent, if_neg hneg, scanExponent?, scanSigned?, scanSign_digits, hscan,
        Option.map_some, Bool.false_eq_true, if_false, ofDigits_digits, hvalue]

/-- A power of ten does not start like a digit or a point. -/
lemma renderExponent_start (exponent : Option ℤ) {tail : List Char} (htail : NoMore tail) :
    ∀ c rest, renderExponent exponent tail = c :: rest → c.isDigit = false ∧ c ≠ '.' := by
  intro c rest hs
  cases exponent with
  | none =>
    obtain ⟨hdigit, hpoint, -⟩ := htail c rest hs
    exact ⟨hdigit, hpoint⟩
  | some e =>
    rw [renderExponent] at hs
    rw [← (List.cons.inj hs).1]
    decide

/-- A fraction that has been written is scanned as it is, and so is one that is absent. -/
lemma scanFraction?_render (places m : ℕ) {power : List Char}
    (hpower : ∀ c rest, power = c :: rest → c.isDigit = false ∧ c ≠ '.') :
    scanFraction? (if places = 0 then power else '.' :: lastDigits places m power) =
      some (lastDigits places m [], power) := by
  cases places with
  | zero =>
    rw [if_pos rfl]
    unfold scanFraction?
    split
    · exact absurd rfl (hpower _ _ rfl).2
    · rfl
  | succ places =>
    rw [if_neg (Nat.succ_ne_zero places), lastDigits_eq_append]
    have hne : lastDigits (places + 1) m [] ≠ [] := by
      intro hnil
      have hlength := length_lastDigits (places + 1) m
      rw [hnil] at hlength
      cases hlength
    exact scanSomeDigits?_append hne (fun _ => isDigit_of_mem_lastDigits)
      fun c rest hs => (hpower c rest hs).1

/-- What is written behind the whole part does not go on with a digit. -/
lemma noDigit_fraction (places m : ℕ) {power : List Char}
    (hpower : ∀ c rest, power = c :: rest → c.isDigit = false ∧ c ≠ '.') :
    NoDigit (if places = 0 then power else '.' :: lastDigits places m power) := by
  intro c rest hs
  split at hs
  · exact (hpower c rest hs).1
  · rw [← (List.cons.inj hs).1]
    decide

/-- A numeral starts with a sign or a digit. -/
lemma render_start (n : Numeral) (tail : List Char) :
    ∃ c rest, n.render tail = c :: rest ∧ (c = '-' ∨ c.isDigit = true) := by
  obtain ⟨negative, mantissa, places, exponent⟩ := n
  cases negative with
  | true => exact ⟨'-', _, rfl, .inl rfl⟩
  | false =>
    obtain ⟨d, rest, hd, hdigits⟩ := digits_start (mantissa / unit places) _
    exact ⟨digitChar d, rest, hdigits, .inr (isDigit_digitChar hd)⟩

/-- **A numeral that has been written is scanned as it is.** -/
theorem scan?_render (n : Numeral) {tail : List Char} (htail : NoMore tail) :
    scan? (n.render tail) = some (n, tail) := by
  obtain ⟨negative, mantissa, places, exponent⟩ := n
  have hpower := renderExponent_start exponent htail
  set whole := mantissa / unit places with hwhole
  set fraction := if places = 0 then renderExponent exponent tail
    else '.' :: lastDigits places (mantissa % unit places) (renderExponent exponent tail)
    with hfraction
  have hminus : scanMinus (render ⟨negative, mantissa, places, exponent⟩ tail) =
      (negative, digits whole fraction) := by
    cases negative with
    | true => rfl
    | false => exact scanMinus_digits whole fraction
  have hdigits : scanDigits (digits whole fraction) = (digits whole [], fraction) := by
    rw [digits_eq_append]
    exact scanDigits_append (fun _ => isDigit_of_mem_digits) (noDigit_fraction _ _ hpower)
  have hvalue : ofDigits (digits whole [] ++ lastDigits places (mantissa % unit places) []) =
      mantissa := by
    rw [ofDigits_append_lastDigits, ofDigits_digits, Nat.mod_mod]
    exact Nat.div_add_mod' mantissa (unit places)
  simp only [scan?, hminus, hdigits, isWholePart_digits, if_true]
  rw [hfraction, scanFraction?_render _ _ hpower, Option.bind_some,
    scanExponent?_render exponent htail, Option.map_some, hvalue, length_lastDigits]

end Numeral

end Cinematics
