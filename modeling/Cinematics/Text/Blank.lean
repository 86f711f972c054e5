/-!
# White space

White space here means every character with Unicode's property of that name, not only those that
`Char.isWhitespace` knows.  `trim` takes it off both ends of a text and `trimEnd` off the end.
-/

namespace Cinematics.Text

/-- Whether a character is white space. -/
def isBlank (c : Char) : Bool :=
  let n := c.toNat
  (0x9 ≤ n && n ≤ 0xD) || n = 0x20 || n = 0x85 || n = 0xA0 || n = 0x1680
    || (0x2000 ≤ n && n ≤ 0x200A) || n = 0x2028 || n = 0x2029 || n = 0x202F || n = 0x205F
    || n = 0x3000

/-- Takes the characters of a class off the end of a text. -/
def dropEndWhile (p : Char → Bool) (s : List Char) : List Char :=
  (s.reverse.dropWhile p).reverse

/-- Takes white space off the end of a text. -/
def trimEnd (s : List Char) : List Char :=
  dropEndWhile isBlank s

/-- Takes white space off both ends of a text. -/
def trim (s : List Char) : List Char :=
  trimEnd (s.dropWhile isBlank)

end Cinematics.Text
