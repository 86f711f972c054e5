import Cinematics.Json.Reader
import Cinematics.Json.Writer
import Cinematics.Proofs.Digits

/-!
# Written values are read as they are

`Json.render` writes any value, those with surrogates that stand alone and with repeated members
included, and `Json.parse?` understands what it has written (`Json.parse?_toText`).  Between the two
stands the list of tokens: the scanner finds the tokens of a value in its text, and the reader makes
the value of its tokens.  Both are inductions over values, their items and their members.
-/

namespace Cinematics.Json

/-! ### Strings -/

/-- A hexadecimal digit has its value. -/
lemma hexValue?_hexDigit {n : ℕ} (hn : n < 16) : hexValue? (hexDigit n) = some n := by
  interval_cases n <;> decide

/-- The escape of a control character is its code. -/
lemma unit?_hexDigits {n : ℕ} (hn : n < 32) :
    unit? '0' '0' (hexDigit (n / 16)) (hexDigit (n % 16)) = some n := by
  have hzero : hexValue? '0' = some 0 := by decide
  have hvalue : ((0 * 16 + 0) * 16 + n / 16) * 16 + n % 16 = n := by omega
  simp only [unit?, hzero, hexValue?_hexDigit (show n / 16 < 16 by omega),
    hexValue?_hexDigit (show n % 16 < 16 by omega), Option.bind_eq_bind, Option.bind_some, hvalue]

/-- A control character is not half of a character. -/
lemma ofUnit_toNat {c : Char} (hc : c.toNat < 32) : Piece.ofUnit c.toNat = .char c := by
  rw [Piece.ofUnit, if_neg (by omega), Char.ofNat_toNat]

/-- Any other character of a literal stands for itself. -/
lemma scanString?_cons (found : List Piece) {c : Char} (tail : List Char) (hquote : c ≠ '"')
    (hslash : c ≠ '\\') (hc : ¬ c.toNat < 0x20) :
    scanString? found (c :: tail) = scanString? (.char c :: found) tail := by
  rw [scanString?]
  · rw [if_neg]
    rintro (h | h)
    · exact hc h
    · exact hslash h
  · exact hquote
  · intro _ _ _ _ _ h
    exact absurd h hslash
  · intro _ _ h
    exact absurd h hslash

/-- A character that has been written into a literal is scanned as it is. -/
lemma scanString?_escape (found : List Piece) (c : Char) (tail : List Char) :
    scanString? found (escape c tail) = scanString? (.char c :: found) tail := by
  unfold escape
  split
  · rfl
  · rfl
  · rfl
  · rfl
  · rfl
  · rename_i hquote hslash _ _ _
    split
    · rename_i hc
      simp only [scanString?, unit?_hexDigits hc, ofUnit_toNat hc]
    · rename_i hc
      exact scanString?_cons found tail hquote hslash hc

/-- A text that has been written as a literal is scanned as it is. -/
lemma scanString?_escapes (found : List Piece) (s tail : List Char) :
    scanString? found (s.foldr escape ('"' :: tail)) =
      some (found.reverse ++ s.map .char, tail) := by
  induction s generalizing found with
  | nil =>
    rw [List.map_nil, List.append_nil]
    rfl
  | cons c s ih =>
    rw [List.foldr_cons, scanString?_escape, ih, List.reverse_cons, List.append_assoc]
    rfl

/-- Characters spell themselves. -/
lemma spell?_map_char (s : List Char) : Piece.spell? (s.map .char) = some s := by
  induction s with
  | nil => rfl
  | cons c s ih => rw [List.map_cons, Piece.spell?, ih, Option.map_some]

namespace Token

/-- A string literal that has been written gives its token. -/
lemma next?_renderString (s : Option String) (tail : List Char) :
    next? (renderString s tail) = some (.string s, tail) := by
  cases s with
  | none => rfl
  | some s =>
    have htext : ofPieces (s.toList.map .char) = .string (some s) := by
      rw [ofPieces, spell?_map_char, Option.map_some, String.ofList_toList]
    simp only [renderString, next?, scanString?_escapes, Option.map_some, List.reverse_nil,
      List.nil_append, htext]

/-! ### Tokens -/

/-- Whether a text ends or goes on with what may stand behind a value. -/
def Follows (tail : List Char) : Prop :=
  ∀ c rest, tail = c :: rest → c = ',' ∨ c = ']' ∨ c = '}'

/-- What may stand behind a value cannot be mistaken for more of a number. -/
lemma Follows.noMore {tail : List Char} (h : Follows tail) : Numeral.NoMore tail := by
  intro c rest hs
  rcases h c rest hs with rfl | rfl | rfl <;> decide

lemma follows_nil : Follows [] := fun _ _ h => nomatch h

lemma follows_comma (rest : List Char) : Follows (',' :: rest) :=
  fun _ _ h => .inl (List.cons.inj h).1.symm

lemma follows_closeArray (rest : List Char) : Follows (']' :: rest) :=
  fun _ _ h => .inr (.inl (List.cons.inj h).1.symm)

lemma follows_closeObject (rest : List Char) : Follows ('}' :: rest) :=
  fun _ _ h => .inr (.inr (List.cons.inj h).1.symm)

/-- A text that starts with a token other than a space is scanned on behind that token. -/
lemma scanOnto?_of_next? (found : List Token) {c : Char} {s rest : List Char} {t : Token}
    (hspace : isSpace c = false) (h : next? (c :: s) = some (t, rest)) :
    scanOnto? found (c :: s) = scanOnto? (t :: found) rest := by
  rw [scanOnto?, if_neg (by rw [hspace]; exact Bool.false_ne_true)]
  split
  · rename_i token after hnext
    obtain ⟨rfl, rfl⟩ := Prod.mk.inj (Option.some.inj (hnext.symm.trans h))
    rfl
  · rename_i hnext
    cases hnext.symm.trans h

/-- A number that has been written gives its token. -/
lemma scanOnto?_number (found : List Token) (n : Numeral) {tail : List Char}
    (htail : Follows tail) :
    scanOnto? found (n.render tail) = scanOnto? (.number n :: found) tail := by
  obtain ⟨c, rest, hrender, hc⟩ := n.render_start tail
  have hspace : isSpace c = false := by
    rcases hc with rfl | hc
    · rfl
    · cases hs : isSpace c with
      | false => rfl
      | true =>
        simp only [isSpace, Bool.or_eq_true, decide_eq_true_eq] at hs
        rcases hs with ((rfl | rfl) | rfl) | rfl <;> exact absurd hc (by decide)
  have hnext : next? (c :: rest) = some (.number n, tail) := by
    have hscan : Numeral.scan? (c :: rest) = some (n, tail) := by
      rw [← hrender]
      exact Numeral.scan?_render n htail.noMore
    unfold next?
    split
    case h_11 => rw [hscan, Option.map_some]
    -- every other token starts with a character that starts no numeral
    all_goals
      rename_i heq
      obtain ⟨rfl, -⟩ := List.cons.inj heq
      exact absurd hc (by decide)
  rw [hrender, scanOnto?_of_next? found hspace hnext]

/-- A string literal that has been written gives its token. -/
lemma scanOnto?_string (found : List Token) (s : Option String) (tail : List Char) :
    scanOnto? found (renderString s tail) = scanOnto? (.string s :: found) tail := by
  have hnext := next?_renderString s tail
  cases s with
  | none => exact scanOnto?_of_next? found rfl hnext
  | some s => exact scanOnto?_of_next? found rfl hnext

end Token

mutual

/-- The tokens of a value. -/
def tokens : Json → List Token
  | .null => [.null]
  | .bool b => [.bool b]
  | .number n => [.number n]
  | .string s => [.string s]
  | .array [] => [.openArray, .closeArray]
  | .array (item :: items) =>
    .openArray :: (item.tokens ++ (tokensOfItems items ++ [.closeArray]))
  | .object [] => [.openObject, .closeObject]
  | .object ((key, value) :: members) =>
    .openObject :: .string key :: .colon ::
      (value.tokens ++ (tokensOfMembers members ++ [.closeObject]))

/-- The tokens of further items. -/
def tokensOfItems : List Json → List Token
  | [] => []
  | item :: items => .comma :: (item.tokens ++ tokensOfItems items)

/-- The tokens of further members. -/
def tokensOfMembers : List (Option String × Json) → List Token
  | [] => []
  | (key, value) :: members =>
    .comma :: .string key :: .colon :: (value.tokens ++ tokensOfMembers members)

end

/-! ### The tokens of a written value -/

/-- What follows the first item may stand behind it. -/
lemma follows_renderItems (items : List Json) (tail : List Char) :
    Token.Follows (renderItems items (']' :: tail)) := by
  cases items with
  | nil => exact Token.follows_closeArray tail
  | cons item items => exact Token.follows_comma _

/-- What follows the first member may stand behind it. -/
lemma follows_renderMembers (members : List (Option String × Json)) (tail : List Char) :
    Token.Follows (renderMembers members ('}' :: tail)) := by
  cases members with
  | nil => exact Token.follows_closeObject tail
  | cons member members => exact Token.follows_comma _

mutual

/-- The tokens of a written value are its tokens.  The induction is on the value. -/
theorem scanOnto?_render (v : Json) (found : List Token) {tail : List Char}
    (htail : Token.Follows tail) :
    Token.scanOnto? found (v.render tail) = Token.scanOnto? (v.tokens.reverse ++ found) tail :=
  match v with
  | .null => Token.scanOnto?_of_next? found rfl rfl
  | .bool true => Token.scanOnto?_of_next? found rfl rfl
  | .bool false => Token.scanOnto?_of_next? found rfl rfl
  | .number n => Token.scanOnto?_number found n htail
  | .string s => Token.scanOnto?_string found s tail
  | .array [] => by
    rw [render, Token.scanOnto?_of_next? found rfl rfl, Token.scanOnto?_of_next? _ rfl rfl]
    rfl
  | .array (item :: items) => by
    rw [render, Token.scanOnto?_of_next? found rfl rfl,
      scanOnto?_render item _ (follows_renderItems items tail), scanOnto?_renderItems items,
      Token.scanOnto?_of_next? _ rfl rfl, tokens]
    simp only [List.reverse_cons, List.reverse_append, List.append_assoc, List.cons_append,
      List.nil_append, List.reverse_nil]
  | .object [] => by
    rw [render, Token.scanOnto?_of_next? found rfl rfl, Token.scanOnto?_of_next? _ rfl rfl]
    rfl
  | .object ((key, value) :: members) => by
    rw [render, Token.scanOnto?_of_next? found rfl rfl, Token.scanOnto?_string,
      Token.scanOnto?_of_next? _ rfl rfl,
      scanOnto?_render value _ (follows_renderMembers members tail),
      scanOnto?_renderMembers members, Token.scanOnto?_of_next? _ rfl rfl, tokens]
    simp only [List.reverse_cons, List.reverse_append, List.append_assoc, List.cons_append,
      List.nil_append, List.reverse_nil]

/-- The tokens of further items that have been written are theirs. -/
theorem scanOnto?_renderItems (items : List Json) (found : List Token) {tail : List Char} :
    Token.scanOnto? found (renderItems items (']' :: tail)) =
      Token.scanOnto? ((tokensOfItems items).reverse ++ found) (']' :: tail) :=
  match items with
  | [] => rfl
  | item :: items => by
    rw [renderItems, Token.scanOnto?_of_next? found rfl rfl,
      scanOnto?_render item _ (follows_renderItems items tail), scanOnto?_renderItems items,
      tokensOfItems]
    simp only [List.reverse_cons, List.reverse_append, List.append_assoc, List.cons_append,
      List.nil_append]

/-- The tokens of further members that have been written are theirs. -/
theorem scanOnto?_renderMembers (members : List (Option String × Json)) (found : List Token)
    {tail : List Char} :
    Token.scanOnto? found (renderMembers members ('}' :: tail)) =
      Token.scanOnto? ((tokensOfMembers members).reverse ++ found) ('}' :: tail) :=
  match members with
  | [] => rfl
  | (key, value) :: members => by
    rw [renderMembers, Token.scanOnto?_of_next? found rfl rfl, Token.scanOnto?_string,
      Token.scanOnto?_of_next? _ rfl rfl,
      scanOnto?_render value _ (follows_renderMembers members tail),
      scanOnto?_renderMembers members, tokensOfMembers]
    simp only [List.reverse_cons, List.reverse_append, List.append_assoc, List.cons_append,
      List.nil_append]

end

/-! ### The value of some tokens -/

namespace Reader

/-- Where an item or the end of an array may come, the tokens of a value are read as where only a
value may come. -/
lemma step?_item (v : Json) (frames : List Frame) (rest : List Token) :
    (v.tokens ++ rest).foldlM step? ⟨.item, frames⟩ =
      (v.tokens ++ rest).foldlM step? ⟨.value, frames⟩ := by
  unfold tokens
  split <;> rfl

end Reader

mutual

/-- The tokens of a value are read as the value, whatever is open around it.  The induction is on
the value. -/
theorem foldlM_tokens (v : Json) (frames : List Frame) :
    v.tokens.foldlM Reader.step? ⟨.value, frames⟩ = some ⟨.after v, frames⟩ :=
  match v with
  | .null => rfl
  | .bool _ => rfl
  | .number _ => rfl
  | .string _ => rfl
  | .array [] => rfl
  | .array (item :: items) => by
    -- the bracket opens a frame, in which the first item is due
    have hopen : (item.tokens ++ (tokensOfItems items ++ [Token.closeArray])).foldlM Reader.step?
        ⟨.item, .array [] :: frames⟩ = some ⟨.after (.array (item :: items)), frames⟩ := by
      rw [Reader.step?_item, List.foldlM_append, foldlM_tokens item]
      exact foldlM_tokensOfItems items item [] frames
    exact hopen
  | .object [] => rfl
  | .object ((key, value) :: members) => by
    -- the frame is opened behind the colon, with the first key in it
    have hopen : (value.tokens ++
        (tokensOfMembers members ++ [Token.closeObject])).foldlM Reader.step?
          ⟨.value, .object [] key :: frames⟩ =
          some ⟨.after (.object ((key, value) :: members)), frames⟩ := by
      rw [List.foldlM_append, foldlM_tokens value]
      exact foldlM_tokensOfMembers members key value [] frames
    exact hopen

/-- Further items are read up to the end of their array. -/
theorem foldlM_tokensOfItems (items : List Json) (v : Json) (before : List Json)
    (frames : List Frame) :
    (tokensOfItems items ++ [Token.closeArray]).foldlM Reader.step?
        ⟨.after v, .array before :: frames⟩ =
      some ⟨.after (.array (before.reverse ++ v :: items)), frames⟩ :=
  match items with
  | [] => by
    have hclose : (v :: before).reverse = before.reverse ++ [v] := List.reverse_cons
    rw [← hclose]
    rfl
  | item :: items => by
    -- the comma puts the item before it into the frame
    have hcomma : (item.tokens ++ (tokensOfItems items ++ [Token.closeArray])).foldlM Reader.step?
        ⟨.value, .array (v :: before) :: frames⟩ =
          some ⟨.after (.array (before.reverse ++ v :: item :: items)), frames⟩ := by
      rw [List.foldlM_append, foldlM_tokens item]
      have hrest := foldlM_tokensOfItems items item (v :: before) frames
      rw [List.reverse_cons, List.append_assoc] at hrest
      exact hrest
    rw [tokensOfItems, List.cons_append, List.append_assoc]
    exact hcomma

/-- Further members are read up to the end of their object. -/
theorem foldlM_tokensOfMembers (members : List (Option String × Json)) (key : Option String)
    (v : Json) (before : List (Option String × Json)) (frames : List Frame) :
    (tokensOfMembers members ++ [Token.closeObject]).foldlM Reader.step?
        ⟨.after v, .object before key :: frames⟩ =
      some ⟨.after (.object (before.reverse ++ (key, v) :: members)), frames⟩ :=
  match members with
  | [] => by
    have hclose : ((key, v) :: before).reverse = before.reverse ++ [(key, v)] := List.reverse_cons
    rw [← hclose]
    rfl
  | (next, value) :: members => by
    -- the comma puts the member before it into the frame, and the next key waits behind it
    have hcomma : (value.tokens ++
        (tokensOfMembers members ++ [Token.closeObject])).foldlM Reader.step?
          ⟨.value, .object ((key, v) :: before) next :: frames⟩ =
          some ⟨.after (.object (before.reverse ++ (key, v) :: (next, value) :: members)),
            frames⟩ := by
      rw [List.foldlM_append, foldlM_tokens value]
      have hrest := foldlM_tokensOfMembers members next value ((key, v) :: before) frames
      rw [List.reverse_cons, List.append_assoc] at hrest
      exact hrest
    rw [tokensOfMembers, List.cons_append, List.cons_append, List.cons_append, List.append_assoc]
    exact hcomma

end

/-- **A value that has been written is read as it is.** -/
theorem parse?_toText (v : Json) : parse? v.toText.toList = some v := by
  have hscan : Token.scan? (v.render []) = some v.tokens := by
    rw [Token.scan?, scanOnto?_render v [] Token.follows_nil, List.append_nil, Token.scanOnto?,
      List.reverse_reverse]
  have hread : v.tokens.foldlM Reader.step? .start = some ⟨.after v, []⟩ := foldlM_tokens v []
  rw [toText, String.toList_ofList, parse?, hscan, Option.bind_some, hread, Option.bind_some]
  rfl

end Cinematics.Json
