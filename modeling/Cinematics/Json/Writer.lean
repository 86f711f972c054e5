import Cinematics.Json.Token
import Cinematics.Json.Value

/-!
# Writing JSON

`Json.render` writes a value without any space between tokens.  Quotes, backslashes and control
characters are escaped and all else stands for itself.  A literal that spells no text is written as
a surrogate that stands alone, which is what it came from.
-/

namespace Cinematics.Json

/-- The hexadecimal digit of a number below sixteen. -/
def hexDigit (n : Nat) : Char :=
  Char.ofNat (if n < 10 then '0'.toNat + n else 'a'.toNat + (n - 10))

/-- A character inside a string literal, in front of `tail`. -/
def escape (c : Char) (tail : List Char) : List Char :=
  match c with
  | '"' => '\\' :: '"' :: tail
  | '\\' => '\\' :: '\\' :: tail
  | '\n' => '\\' :: 'n' :: tail
  | '\r' => '\\' :: 'r' :: tail
  | '\t' => '\\' :: 't' :: tail
  | c =>
    if c.toNat < 0x20 then
      '\\' :: 'u' :: '0' :: '0' :: hexDigit (c.toNat / 16) :: hexDigit (c.toNat % 16) :: tail
    else c :: tail

/-- A string literal in front of `tail`. -/
def renderString (s : Option String) (tail : List Char) : List Char :=
  match s with
  | some s => '"' :: s.toList.foldr escape ('"' :: tail)
  | none => '"' :: '\\' :: 'u' :: 'd' :: '8' :: '0' :: '0' :: '"' :: tail

mutual

/-- The text of a value in front of `tail`. -/
def render : Json → List Char → List Char
  | .null, tail => 'n' :: 'u' :: 'l' :: 'l' :: tail
  | .bool true, tail => 't' :: 'r' :: 'u' :: 'e' :: tail
  | .bool false, tail => 'f' :: 'a' :: 'l' :: 's' :: 'e' :: tail
  | .number n, tail => n.render tail
  | .string s, tail => renderString s tail
  | .array [], tail => '[' :: ']' :: tail
  | .array (item :: items), tail => '[' :: item.render (renderItems items (']' :: tail))
  | .object [], tail => '{' :: '}' :: tail
  | .object ((key, value) :: members), tail =>
    '{' :: renderString key (':' :: value.render (renderMembers members ('}' :: tail)))

/-- The text of further items in front of `tail`. -/
def renderItems : List Json → List Char → List Char
  | [], tail => tail
  | item :: items, tail => ',' :: item.render (renderItems items tail)

/-- The text of further members in front of `tail`. -/
def renderMembers : List (Option String × Json) → List Char → List Char
  | [], tail => tail
  | (key, value) :: members, tail =>
    ',' :: renderString key (':' :: value.render (renderMembers members tail))

end

/-- The text of a value. -/
def toText (v : Json) : String :=
  String.ofList (v.render [])

end Cinematics.Json
