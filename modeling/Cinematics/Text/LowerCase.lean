import Cinematics.Text.CaseTable

/-!
# Lower case

`lowerChar` lowers one character on its own and `lower` a whole text.  They differ in one point: in
a text, a capital sigma at the end of a word becomes the final form of the small letter.
-/

namespace Cinematics.Text

/-- The lower-case form of a character.  Only the capital I with a dot has one of two characters. -/
def lowerChar (c : Char) : List Char :=
  if c.toNat < 0x80 then [c.toLower]
  else if c.toNat = 0x130 then ['i', Char.ofNat 0x307]
  else
    match caseRuns.find? (·.covers c.toNat) with
    | some run => [Char.ofNat (c.toNat + run.shift).toNat]
    | none => [c]

/-- Whether a character lies in one of some ranges. -/
def inRanges (ranges : List (Nat × Nat)) (c : Char) : Bool :=
  ranges.any fun (first, last) => first ≤ c.toNat && c.toNat ≤ last

/-- Whether the first character that counts is a letter with a case. -/
def startsCased (s : List Char) : Bool :=
  match s.find? fun c => !inRanges ignorableRanges c with
  | some c => inRanges casedRanges c
  | none => false

/-- The small sigma between the text `before`, nearest character first, and the text `after`: final
at the end of a word, that is, behind a letter and with none ahead. -/
def lowerSigma (before after : List Char) : Char :=
  if startsCased before && !startsCased after then 'ς' else 'σ'

/-- Lowers a text that stands behind `before`, nearest character first. -/
def lowerAfter (before : List Char) : List Char → List Char
  | [] => []
  | c :: rest =>
    (if c = 'Σ' then [lowerSigma before rest] else lowerChar c) ++ lowerAfter (c :: before) rest

/-- Lowers a text. -/
def lower (s : List Char) : List Char :=
  lowerAfter [] s

end Cinematics.Text
