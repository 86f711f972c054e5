import Cinematics.Decimal.Scan

/-!
# JSON tokens

`Token.scan?` cuts a JSON text into tokens.  Strings are decoded on the way: an escape gives a
character or a surrogate, a pair of surrogates gives a character, and a literal in which one stands
alone spells no text.  Raw control characters and unknown escapes are no JSON.
-/

namespace Cinematics.Json

/-- A part of a string literal. -/
inductive Piece where
  /-- A character. -/
  | char (c : Char)
  /-- Half of a character outside the basic plane. -/
  | surrogate (n : Nat)
  deriving DecidableEq, Repr

/-- The first code of the second halves. -/
def lowSurrogate : Nat := 0xDC00

namespace Piece

/-- What an escaped code unit stands for. -/
def ofUnit (n : Nat) : Piece :=
  if 0xD800 ≤ n ∧ n < 0xE000 then .surrogate n else .char (Char.ofNat n)

/-- The text that some pieces spell, if surrogates come in pairs. -/
def spell? : List Piece → Option (List Char)
  | [] => some []
  | .char c :: rest => (spell? rest).map (c :: ·)
  | .surrogate high :: .surrogate low :: rest =>
    if high < lowSurrogate ∧ lowSurrogate ≤ low then
      let c := Char.ofNat (0x10000 + (high - 0xD800) * 0x400 + (low - lowSurrogate))
      (spell? rest).map (c :: ·)
    else none
  | .surrogate _ :: _ => none

end Piece

/-- The value of a hexadecimal digit. -/
def hexValue? (c : Char) : Option Nat :=
  if '0' ≤ c ∧ c ≤ '9' then some (c.toNat - '0'.toNat)
  else if 'a' ≤ c ∧ c ≤ 'f' then some (c.toNat - 'a'.toNat + 10)
  else if 'A' ≤ c ∧ c ≤ 'F' then some (c.toNat - 'A'.toNat + 10)
  else none

/-- The code unit that four hexadecimal digits denote. -/
def unit? (a b c d : Char) : Option Nat := do
  let a ← hexValue? a
  let b ← hexValue? b
  let c ← hexValue? c
  let d ← hexValue? d
  some (((a * 16 + b) * 16 + c) * 16 + d)

/-- The character of an escape of one letter. -/
def escaped? : Char → Option Char
  | '"' => some '"'
  | '\\' => some '\\'
  | '/' => some '/'
  | 'b' => some '\x08'
  | 'f' => some '\x0c'
  | 'n' => some '\n'
  | 'r' => some '\r'
  | 't' => some '\t'
  | _ => none

/-- The pieces of a string literal behind its opening quote, added to those already `found` in
reverse, and what follows the closing quote. -/
def scanString? (found : List Piece) : List Char → Option (List Piece × List Char)
  | [] => none
  | '"' :: rest => some (found.reverse, rest)
  | '\\' :: 'u' :: a :: b :: c :: d :: rest =>
    match unit? a b c d with
    | some n => scanString? (.ofUnit n :: found) rest
    | none => none
  | '\\' :: e :: rest =>
    match escaped? e with
    | some c => scanString? (.char c :: found) rest
    | none => none
  | c :: rest => if c.toNat < 0x20 ∨ c = '\\' then none else scanString? (.char c :: found) rest

/-- A token of a JSON text. -/
inductive Token where
  /-- The start of an array. -/
  | openArray
  /-- The end of an array. -/
  | closeArray
  /-- The start of an object. -/
  | openObject
  /-- The end of an object. -/
  | closeObject
  /-- Between two items or members. -/
  | comma
  /-- Between a key and its value. -/
  | colon
  /-- The literal `null`. -/
  | null
  /-- A truth value. -/
  | bool (b : Bool)
  /-- A number. -/
  | number (n : Numeral)
  /-- A string, or a string literal that spells none. -/
  | string (s : Option String)
  deriving DecidableEq, Repr

namespace Token

/-- The token of a string literal. -/
def ofPieces (pieces : List Piece) : Token :=
  .string ((Piece.spell? pieces).map String.ofList)

/-- The token at the start of a text, and what follows it. -/
def next? : List Char → Option (Token × List Char)
  | '[' :: rest => some (.openArray, rest)
  | ']' :: rest => some (.closeArray, rest)
  | '{' :: rest => some (.openObject, rest)
  | '}' :: rest => some (.closeObject, rest)
  | ',' :: rest => some (.comma, rest)
  | ':' :: rest => some (.colon, rest)
  | 'n' :: 'u' :: 'l' :: 'l' :: rest => some (.null, rest)
  | 't' :: 'r' :: 'u' :: 'e' :: rest => some (.bool true, rest)
  | 'f' :: 'a' :: 'l' :: 's' :: 'e' :: rest => some (.bool false, rest)
  | '"' :: rest => (scanString? [] rest).map fun (pieces, rest) => (ofPieces pieces, rest)
  | s => (Numeral.scan? s).map fun (n, rest) => (.number n, rest)

/-- Whether a character may stand between tokens. -/
def isSpace (c : Char) : Bool :=
  c = ' ' || c = '\t' || c = '\n' || c = '\r'

end Token

/-- What follows a string literal is shorter than the literal and what follows. -/
theorem length_of_scanString? {found : List Piece} {s : List Char} {r : List Piece × List Char}
    (h : scanString? found s = some r) : r.2.length < s.length := by
  fun_induction scanString? found s with
  | case1 => simp at h
  | case2 => simp at h; subst h; simp
  | case3 _ _ _ _ _ _ _ _ ih => have := ih h; simp at this ⊢; omega
  | case4 => simp at h
  | case5 _ _ _ _ _ _ ih => have := ih h; simp at this ⊢; omega
  | case6 => simp at h
  | case7 => simp at h
  | case8 _ _ _ _ _ _ _ ih => have := ih h; simp; omega

namespace Token

/-- What follows a token is shorter than the token and what follows. -/
theorem length_of_next? {s : List Char} {r : Token × List Char} (h : next? s = some r) :
    r.2.length < s.length := by
  unfold next? at h
  split at h
  case h_10 rest =>
    obtain ⟨⟨pieces, after⟩, hscan, rfl⟩ := Option.map_eq_some_iff.1 h
    have := length_of_scanString? hscan
    simp at this ⊢
    omega
  case h_11 =>
    obtain ⟨⟨n, after⟩, hscan, rfl⟩ := Option.map_eq_some_iff.1 h
    exact Numeral.length_of_scan? hscan
  all_goals
    simp only [Option.some.injEq] at h
    subst h
    simp
    try omega

/-- The tokens of a text, added to those already `found` in reverse. -/
def scanOnto? (found : List Token) (s : List Char) : Option (List Token) :=
  match s with
  | [] => some found.reverse
  | c :: rest =>
    if isSpace c then scanOnto? found rest
    else
      match _h : next? (c :: rest) with
      | some (token, rest) => scanOnto? (token :: found) rest
      | none => none
termination_by s.length
decreasing_by
  · simp
  · exact length_of_next? _h

/-- The tokens of a text. -/
def scan? (s : List Char) : Option (List Token) :=
  scanOnto? [] s

end Token

end Cinematics.Json
