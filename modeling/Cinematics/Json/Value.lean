import Cinematics.Decimal.Numeral

/-!
# JSON values

A `Json` is a JSON text after its punctuation has been understood, and before anything has been
asked of its contents.  So it keeps what a text can say and a value cannot: numerals of any size,
the order and the repetition of members, and string literals that spell no text because a surrogate
stands alone.  Such a literal is `none` here.
-/

namespace Cinematics

/-- A JSON value as it is written. -/
inductive Json where
  /-- The literal `null`. -/
  | null
  /-- A truth value. -/
  | bool (b : Bool)
  /-- A number. -/
  | number (n : Numeral)
  /-- A string, or a string literal that spells none. -/
  | string (s : Option String)
  /-- An array. -/
  | array (items : List Json)
  /-- An object, its members in order. -/
  | object (members : List (Option String × Json))
  deriving Repr

namespace Json

/-- A string. -/
def text (s : String) : Json := .string (some s)

/-- An object with the given members. -/
def ofMembers (members : List (String × Json)) : Json :=
  .object (members.map fun (key, value) => (some key, value))

/-- The value of an optional part, `null` when it is absent. -/
def ofOption {β : Type} (toJson : β → Json) : Option β → Json
  | some b => toJson b
  | none => .null

mutual

/-- How many arrays and objects are open at the deepest point of a value. -/
def depth : Json → Nat
  | .array items => depthOfItems items + 1
  | .object members => depthOfMembers members + 1
  | _ => 0

/-- The greatest depth of some items. -/
def depthOfItems : List Json → Nat
  | [] => 0
  | item :: items => Nat.max item.depth (depthOfItems items)

/-- The greatest depth of the values of some members. -/
def depthOfMembers : List (Option String × Json) → Nat
  | [] => 0
  | (_, value) :: members => Nat.max value.depth (depthOfMembers members)

end

mutual

/-- Whether every string spells a text and every number is one of a class. -/
def allMeaningful (fits : Numeral → Bool) : Json → Bool
  | .null => true
  | .bool _ => true
  | .number n => fits n
  | .string s => s.isSome
  | .array items => allMeaningfulItems fits items
  | .object members => allMeaningfulMembers fits members

/-- Whether `allMeaningful` holds of all items. -/
def allMeaningfulItems (fits : Numeral → Bool) : List Json → Bool
  | [] => true
  | item :: items => item.allMeaningful fits && allMeaningfulItems fits items

/-- Whether all keys spell a text and `allMeaningful` holds of all values. -/
def allMeaningfulMembers (fits : Numeral → Bool) : List (Option String × Json) → Bool
  | [] => true
  | (key, value) :: members =>
    key.isSome && value.allMeaningful fits && allMeaningfulMembers fits members

end

end Json

end Cinematics
