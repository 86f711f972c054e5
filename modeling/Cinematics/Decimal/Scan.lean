import Cinematics.Decimal.Numeral

/-!
# Scanning numerals

Two grammars of numbers share their digits and their exponents.  `Numeral.scan?` takes the strict
form used in documents, where a whole part is required and does not start with a needless zero, and
returns what follows it.  `Literal.parse?` takes a whole text in the free form used for amounts in
words: a plus sign, a missing side of the point, and names for the infinities and the undefined
value are all allowed.
-/

namespace Cinematics

namespace Decimal

/-- Whether a minus sign leads a text, and the text without it. -/
def scanMinus (s : List Char) : Bool × List Char :=
  match s with
  | '-' :: rest => (true, rest)
  | _ => (false, s)

/-- Whether a minus sign leads a text, and the text without a leading sign of either kind. -/
def scanSign (s : List Char) : Bool × List Char :=
  match s with
  | '+' :: rest => (false, rest)
  | _ => scanMinus s

/-- The leading digits of a text, and what follows them. -/
def scanDigits (s : List Char) : List Char × List Char :=
  (s.takeWhile Char.isDigit, s.dropWhile Char.isDigit)

/-- At least one digit, and what follows. -/
def scanSomeDigits? (s : List Char) : Option (List Char × List Char) :=
  let (digits, rest) := scanDigits s
  if digits.isEmpty then none else some (digits, rest)

/-- A whole number with an optional sign, and what follows. -/
def scanSigned? (s : List Char) : Option (Int × List Char) :=
  let (negative, s) := scanSign s
  (scanSomeDigits? s).map fun (digits, rest) =>
    (if negative then -(ofDigits digits : Int) else ofDigits digits, rest)

/-- An exponent and what follows; none of the text is taken when there is no exponent. -/
def scanExponent? (s : List Char) : Option (Option Int × List Char) :=
  match s with
  | 'e' :: rest | 'E' :: rest => (scanSigned? rest).map fun (e, rest) => (some e, rest)
  | _ => some (none, s)

/-- The digits after a point and what follows; none of the text is taken when there is no point. -/
def scanFraction? (s : List Char) : Option (List Char × List Char) :=
  match s with
  | '.' :: rest => scanSomeDigits? rest
  | _ => some ([], s)

/-- Whether digits may stand before the point: some, and no needless zero in front. -/
def isWholePart : List Char → Bool
  | [] => false
  | ['0'] => true
  | '0' :: _ => false
  | _ => true

theorem length_scanMinus (s : List Char) : (scanMinus s).2.length ≤ s.length := by
  unfold scanMinus
  split <;> simp

theorem length_scanSign (s : List Char) : (scanSign s).2.length ≤ s.length := by
  unfold scanSign
  split
  · simp
  · exact length_scanMinus s

theorem length_scanDigits (s : List Char) :
    (scanDigits s).1.length + (scanDigits s).2.length = s.length := by
  simp only [scanDigits, ← List.length_append, List.takeWhile_append_dropWhile]

theorem length_of_scanSomeDigits? {s : List Char} {r : List Char × List Char}
    (h : scanSomeDigits? s = some r) : r.2.length ≤ s.length := by
  have := length_scanDigits s
  simp only [scanSomeDigits?] at h
  split at h
  · simp at h
  · simp only [Option.some.injEq] at h
    subst h
    show (scanDigits s).2.length ≤ s.length
    omega

theorem length_of_scanSigned? {s : List Char} {r : Int × List Char} (h : scanSigned? s = some r) :
    r.2.length ≤ s.length := by
  have := length_scanSign s
  obtain ⟨d, hd, rfl⟩ := Option.map_eq_some_iff.1 h
  have : d.2.length ≤ (scanSign s).2.length := length_of_scanSomeDigits? hd
  simp only
  omega

theorem length_of_scanExponent? {s : List Char} {r : Option Int × List Char}
    (h : scanExponent? s = some r) : r.2.length ≤ s.length := by
  unfold scanExponent? at h
  split at h
  · obtain ⟨e, he, rfl⟩ := Option.map_eq_some_iff.1 h
    have := length_of_scanSigned? he
    simp only [List.length_cons]
    omega
  · obtain ⟨e, he, rfl⟩ := Option.map_eq_some_iff.1 h
    have := length_of_scanSigned? he
    simp only [List.length_cons]
    omega
  · simp only [Option.some.injEq] at h
    subst h
    simp

theorem length_of_scanFraction? {s : List Char} {r : List Char × List Char}
    (h : scanFraction? s = some r) : r.2.length ≤ s.length := by
  unfold scanFraction? at h
  split at h
  · have := length_of_scanSomeDigits? h
    simp only [List.length_cons]
    omega
  · simp only [Option.some.injEq] at h
    subst h
    simp

end Decimal

namespace Numeral

open Decimal in
/-- The numeral at the start of a text in the strict form, and what follows it. -/
def scan? (s : List Char) : Option (Numeral × List Char) :=
  let (negative, s) := scanMinus s
  let (whole, s) := scanDigits s
  if isWholePart whole then
    (scanFraction? s).bind fun (fraction, s) =>
      (scanExponent? s).map fun (exponent, s) =>
        (⟨negative, ofDigits (whole ++ fraction), fraction.length, exponent⟩, s)
  else none

open Decimal in
/-- A numeral has at least one character. -/
theorem length_of_scan? {s : List Char} {r : Numeral × List Char} (h : scan? s = some r) :
    r.2.length < s.length := by
  have hm := length_scanMinus s
  have hd := length_scanDigits (scanMinus s).2
  simp only [scan?] at h
  split at h
  case isTrue hw =>
    have : 0 < (scanDigits (scanMinus s).2).1.length := by
      cases hq : (scanDigits (scanMinus s).2).1 with
      | nil => simp [hq, isWholePart] at hw
      | cons => simp
    obtain ⟨f, hf, h⟩ := Option.bind_eq_some_iff.1 h
    obtain ⟨e, he, rfl⟩ := Option.map_eq_some_iff.1 h
    have := length_of_scanFraction? hf
    have := length_of_scanExponent? he
    simp only
    omega
  case isFalse => simp at h

end Numeral

/-- What a number written in the free form denotes. -/
inductive Literal where
  /-- A decimal number. -/
  | numeral (n : Numeral)
  /-- One of the two infinities. -/
  | infinite (negative : Bool)
  /-- The undefined value. -/
  | notANumber
  deriving DecidableEq, Repr

namespace Literal

open Decimal

/-- The decimal number that makes up a whole text in the free form, apart from its sign. -/
def unsigned? (negative : Bool) (s : List Char) : Option Numeral :=
  let (whole, s) := scanDigits s
  let (fraction, s) :=
    match s with
    | '.' :: rest => scanDigits rest
    | _ => ([], s)
  if whole.isEmpty && fraction.isEmpty then none
  else
    match scanExponent? s with
    | some (exponent, []) =>
      some ⟨negative, ofDigits (whole ++ fraction), fraction.length, exponent⟩
    | _ => none

/-- Reads a whole text in the free form. -/
def parse? (s : List Char) : Option Literal :=
  let (negative, s) := scanSign s
  match String.ofList (s.map Char.toLower) with
  | "inf" | "infinity" => some (.infinite negative)
  | "nan" => some .notANumber
  | _ => (unsigned? negative s).map .numeral

end Literal

end Cinematics
