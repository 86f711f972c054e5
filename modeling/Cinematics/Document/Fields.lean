import Cinematics.Decimal.Spelling
import Cinematics.Json.Value
import Cinematics.Named

/-!
# Reading values from JSON

A record may be written as an object or as an array.  In an object members come in any order,
unknown ones are passed over and a known one may not be repeated; in an array the fields come in the
order of their declaration and only the last ones may be left out.  `Json.fields?` makes the two
alike.  Whether a field may be absent is for the record to say: with `Fields.need`,
`Fields.optional` or `Fields.getD`.
-/

namespace Cinematics

/-- The values of the declared fields of a record, as far as they are present. -/
structure Fields where
  /-- The value of a field. -/
  get? : String → Option Json

namespace Fields

variable {β : Type}

/-- A field that has to be present. -/
def need (f : Fields) (name : String) (read? : Json → Option β) : Option β :=
  (f.get? name).bind read?

/-- A field that may be absent or `null`. -/
def optional (f : Fields) (name : String) (read? : Json → Option β) : Option (Option β) :=
  match f.get? name with
  | none => some none
  | some .null => some none
  | some v => (read? v).map some

/-- A field with a value of its own when it is absent. -/
def getD (f : Fields) (name : String) (absent : β) (read? : Json → Option β) : Option β :=
  match f.get? name with
  | none => some absent
  | some v => read? v

end Fields

namespace Json

/-- The value of the first member with a key. -/
def member? (members : List (Option String × Json)) (key : String) : Option Json :=
  members.lookup (some key)

/-- Whether a key occurs at most once. -/
def isUnrepeated (members : List (Option String × Json)) (key : String) : Bool :=
  members.countP (fun m => m.1 = some key) ≤ 1

/-- Whether members are those of a record: every key spells a text, and no declared one is
repeated. -/
def isRecord (names : List String) (members : List (Option String × Json)) : Bool :=
  members.all (·.1.isSome) && names.all (isUnrepeated members)

/-- The fields of a record with the given names. -/
def fields? (names : List String) : Json → Option Fields
  | .object members => if isRecord names members then some ⟨member? members⟩ else none
  | .array items =>
    if items.length ≤ names.length then some ⟨fun name => (names.zip items).lookup name⟩ else none
  | _ => none

/-- A text. -/
def text? : Json → Option String
  | .string s => s
  | _ => none

/-- A truth value. -/
def bool? : Json → Option Bool
  | .bool b => some b
  | _ => none

/-- A list. -/
def list? {β : Type} (read? : Json → Option β) : Json → Option (List β)
  | .array items => items.mapM read?
  | _ => none

/-- A natural number of at most 64 bits, written without point and exponent. -/
def index? : Json → Option Nat
  | .number n => n.natural?.filter (· < UInt64.size)
  | _ => none

/-- A named value that may only be written as its name. -/
def bareNamed? {β : Type} [Named β] (j : Json) : Option β :=
  j.text?.bind Named.ofName?

/-- A named value: its name, or an object with the name as its only key and `null`. -/
def named? {β : Type} [Named β] : Json → Option β
  | .object [(key, .null)] => key.bind Named.ofName?
  | j => j.bareNamed?

/-- A named value that has been kept until its meaning is known.  In an object with the name as its
only key, an empty object does as well as `null`. -/
def keptNamed? {β : Type} [Named β] : Json → Option β
  | .object [(key, .object [])] => key.bind Named.ofName?
  | j => j.named?

/-- The name of a named value. -/
def ofNamed {β : Type} [Named β] (b : β) : Json := .text (Named.name b)

/-- A natural number. -/
def ofNat (n : Nat) : Json := .number (.ofNat n)

variable {α : Type} [Scalar α] [Numeric α]

/-- A number that is not too large. -/
def scalar? : Json → Option α
  | .number n => Numeric.read? n
  | _ => none

/-- A number, `null` when it is not finite. -/
def ofScalar (x : α) : Json :=
  match Numeric.numeral? x with
  | some n => .number n
  | none => .null

end Json

end Cinematics
