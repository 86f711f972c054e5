/-!
# Named values

A type whose values are few and have canonical names.  Documents write the names and read them back
letter by letter; loose spellings are another matter, and belong to the vocabularies.
-/

namespace Cinematics

/-- A finite list of values, each with its canonical name. -/
class Named (α : Type) where
  /-- All values. -/
  all : List α
  /-- The canonical name of a value. -/
  name : α → String

namespace Named

variable {α : Type} [Named α]

/-- The value with a given canonical name. -/
def ofName? (s : String) : Option α :=
  (all : List α).find? fun a => name a = s

/-- Names separated by commas. -/
def listing (values : List α) : String :=
  ", ".intercalate (values.map name)

end Named

end Cinematics
