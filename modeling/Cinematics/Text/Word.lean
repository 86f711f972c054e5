import Cinematics.Text.Blank
import Cinematics.Text.LowerCase

/-!
# Loose words

Words in a plan are written loosely: `easeInOut`, `ease_in_out` and `Ease-In-Out` mean the same.
Two keys take the looseness out.  `squeeze` leaves out separators altogether and suits single words;
`slug` turns every run of separators into one underscore and suits phrases, where the boundaries
between words matter.  A `Vocabulary` lists the keys that mean something.
-/

namespace Cinematics.Text

/-- Whether `squeeze` leaves out a character. -/
def isJoint (c : Char) : Bool :=
  c = '_' || c = '-' || c = ' '

/-- The key of a single word: without underscores, hyphens and spaces, every character lowered on
its own. -/
def squeeze (s : List Char) : List Char :=
  (s.filter fun c => !isJoint c).flatMap lowerChar

/-- Whether `slug` takes a character for a boundary between words. -/
def isSeparator (c : Char) : Bool :=
  isBlank c || c = '-' || c = '_'

/-- The maximal runs of characters outside a class. -/
def wordsBy (separates : Char → Bool) : List Char → List (List Char)
  | [] => []
  | c :: rest =>
    if separates c then wordsBy separates rest
    else
      match rest, wordsBy separates rest with
      | d :: _, word :: words => if separates d then [c] :: word :: words else (c :: word) :: words
      | _, words => [c] :: words

/-- The key of a phrase: lowered, its words joined by single underscores. -/
def slug (s : List Char) : List Char :=
  ['_'].intercalate (wordsBy isSeparator (lower (trim s)))

/-- Whether two texts differ at most in the case of ASCII letters. -/
def sameIgnoringCase (s t : List Char) : Bool :=
  s.map Char.toLower = t.map Char.toLower

/-- The keys that mean something, with their meanings. -/
abbrev Vocabulary (α : Type) := List (String × α)

/-- The meaning of a key. -/
def Vocabulary.find? {α : Type} (v : Vocabulary α) (key : List Char) : Option α :=
  v.lookup (String.ofList key)

end Cinematics.Text
