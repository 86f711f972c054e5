import Cinematics.Json.Token
import Cinematics.Json.Value

/-!
# Reading JSON

`Json.parse?` reads a whole text as one value.  A reader takes one token at a time: it knows what
may come next, and the arrays and objects that are still open wait on a stack of frames.  So values
may nest to any depth, and reading is a fold over the tokens.
-/

namespace Cinematics.Json

/-- An array or object that is still open, its contents so far in reverse. -/
inductive Frame where
  /-- An array. -/
  | array (items : List Json)
  /-- An object with a member whose key is known. -/
  | object (members : List (Option String × Json)) (key : Option String)

/-- What may come next. -/
inductive Due where
  /-- A value. -/
  | value
  /-- The first item of an array, or its end. -/
  | item
  /-- The first key of an object, or its end. -/
  | firstKey
  /-- A key of the object with the given members, in reverse. -/
  | key (members : List (Option String × Json))
  /-- The colon behind a key of the object with the given members. -/
  | colon (members : List (Option String × Json)) (key : Option String)
  /-- Whatever may follow a complete value. -/
  | after (value : Json)

/-- Where a reader is. -/
structure Reader where
  /-- What may come next. -/
  due : Due
  /-- The open arrays and objects, the innermost one first. -/
  frames : List Frame

namespace Reader

/-- Before the first token. -/
def start : Reader := ⟨.value, []⟩

/-- Takes a token where a value starts. -/
def begin? (frames : List Frame) : Token → Option Reader
  | .openArray => some ⟨.item, .array [] :: frames⟩
  | .openObject => some ⟨.firstKey, frames⟩
  | .null => some ⟨.after .null, frames⟩
  | .bool b => some ⟨.after (.bool b), frames⟩
  | .number n => some ⟨.after (.number n), frames⟩
  | .string s => some ⟨.after (.string s), frames⟩
  | .closeArray | .closeObject | .comma | .colon => none

/-- Takes a token behind a value. -/
def continue? (v : Json) : List Frame → Token → Option Reader
  | .array items :: below, .comma => some ⟨.value, .array (v :: items) :: below⟩
  | .array items :: below, .closeArray => some ⟨.after (.array (v :: items).reverse), below⟩
  | .object members key :: below, .comma => some ⟨.key ((key, v) :: members), below⟩
  | .object members key :: below, .closeObject =>
    some ⟨.after (.object ((key, v) :: members).reverse), below⟩
  | _, _ => none

/-- Takes a token. -/
def step? (r : Reader) (t : Token) : Option Reader :=
  match r.due, t with
  | .value, t => begin? r.frames t
  | .item, .closeArray => some ⟨.after (.array []), r.frames.tail⟩
  | .item, t => begin? r.frames t
  | .firstKey, .closeObject => some ⟨.after (.object []), r.frames⟩
  | .firstKey, .string s => some ⟨.colon [] s, r.frames⟩
  | .key members, .string s => some ⟨.colon members s, r.frames⟩
  | .colon members key, .colon => some ⟨.value, .object members key :: r.frames⟩
  | .after v, t => continue? v r.frames t
  | _, _ => none

/-- The value that has been read, if nothing is open. -/
def result? (r : Reader) : Option Json :=
  match r.due, r.frames with
  | .after v, [] => some v
  | _, _ => none

end Reader

/-- Reads a whole text as one value. -/
def parse? (s : List Char) : Option Json :=
  (Token.scan? s).bind fun tokens => (tokens.foldlM Reader.step? .start).bind Reader.result?

end Cinematics.Json
