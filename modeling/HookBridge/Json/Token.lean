/-
**The tokens of a JSON text.**

Main definitions:

* `HookBridge.Json.Piece` — what a string literal is made of: bytes, and the 16-bit units that
  `\u` escapes name;
* `HookBridge.Json.Piece.text?` — the text of a literal, if its units pair up and its bytes are
  UTF-8;
* `HookBridge.Json.Token` — brackets, separators and scalars;
* `HookBridge.Json.lex?` — the tokens of a whole text.

A literal that spells no text is still a token: only whoever needs its text has to refuse it.
-/

import HookBridge.Text.Percent

set_option relaxedAutoImplicit false
set_option autoImplicit false

namespace HookBridge

namespace Json

/-! ### String literals -/

/-- A piece of a string literal. -/
inductive Piece
  /-- a byte, as it stands or by a short escape -/
  | byte (b : UInt8)
  /-- the 16-bit unit of a `\u` escape -/
  | unit (u : Nat)
  deriving DecidableEq, Repr

/-- The first half of a surrogate pair. -/
def isHighUnit (u : Nat) : Bool := 0xD800 ≤ u && u < 0xDC00

/-- The second half of a surrogate pair. -/
def isLowUnit (u : Nat) : Bool := 0xDC00 ≤ u && u < 0xE000

/-- The character of a surrogate pair. -/
def pairedChar (high low : Nat) : Char :=
  Char.ofNat (0x10000 + (high - 0xD800) * 0x400 + (low - 0xDC00))

/-- The bytes of pieces behind `done`, the latter in reverse; `none` at a unit that is half a pair
without the other half next to it. -/
def Piece.bytesOnto? (done : Bytes) : List Piece → Option Bytes
  | [] => some done.reverse
  | .byte b :: rest => bytesOnto? (b :: done) rest
  | .unit u :: rest =>
      if isHighUnit u then
        match rest with
        | .unit low :: rest =>
            if isLowUnit low then
              bytesOnto? ((String.utf8EncodeChar (pairedChar u low)).reverse ++ done) rest
            else none
        | _ => none
      else if isLowUnit u then none
      else bytesOnto? ((String.utf8EncodeChar (Char.ofNat u)).reverse ++ done) rest

/-- The text of a literal. -/
def Piece.text? (pieces : List Piece) : Option String :=
  match bytesOnto? [] pieces with
  | some bytes => Utf8.decode? bytes
  | none => none

/-- The byte that a short escape stands for. -/
def shortEscape? (e : UInt8) : Option UInt8 :=
  if e = 0x22 ∨ e = 0x5C ∨ e = 0x2F then some e
  else if e = 0x62 then some 0x08
  else if e = 0x66 then some 0x0C
  else if e = 0x6E then some 0x0A
  else if e = 0x72 then some 0x0D
  else if e = 0x74 then some 0x09
  else none

/-- The unit named by four hexadecimal digits. -/
def unit? (a b c d : UInt8) : Option Nat :=
  match Percent.byte? a b, Percent.byte? c d with
  | some high, some low => some (256 * high.toNat + low.toNat)
  | _, _ => none

/-- Reads a literal up to its closing quote, behind the pieces read already, those in reverse. -/
def readLiteral (done : List Piece) : Bytes → Option (List Piece × Bytes)
  | [] => none
  | b :: rest =>
      if b = 0x22 then some (done.reverse, rest)
      else if b = 0x5C then
        match rest with
        | [] => none
        | e :: rest =>
            if e = 0x75 then
              match rest with
              | a :: b :: c :: d :: rest =>
                  match unit? a b c d with
                  | some u => readLiteral (.unit u :: done) rest
                  | none => none
              | _ => none
            else
              match shortEscape? e with
              | some x => readLiteral (.byte x :: done) rest
              | none => none
      else if b < 0x20 then none
      else readLiteral (.byte b :: done) rest

/-! ### Numbers -/

/-- A decimal digit. -/
def isDigit (b : UInt8) : Bool := 0x30 ≤ b && b ≤ 0x39

/-- The bytes that numbers are written with. -/
def isNumberByte (b : UInt8) : Bool :=
  isDigit b || b == 0x2B || b == 0x2D || b == 0x2E || b == 0x45 || b == 0x65

/-- An exponent: its letter, a sign or none, and digits. -/
def isExponent : Bytes → Bool
  | e :: rest =>
      let digits := match rest with
        | s :: digits => if s == 0x2B || s == 0x2D then digits else rest
        | [] => []
      (e == 0x45 || e == 0x65) && !digits.isEmpty && digits.all isDigit
  | [] => false

/-- What may follow the integer part: a fraction, an exponent, both or neither. -/
def isNumberTail : Bytes → Bool
  | [] => true
  | p :: rest =>
      if p == 0x2E then
        match rest with
        | d :: rest =>
            let tail := rest.dropWhile isDigit
            isDigit d && (tail.isEmpty || isExponent tail)
        | [] => false
      else isExponent (p :: rest)

/-- A number: the integer part has no needless zero in front. -/
def isNumber (bs : Bytes) : Bool :=
  let unsigned := match bs with
    | s :: rest => if s == 0x2D then rest else bs
    | [] => []
  match unsigned with
  | d :: rest =>
      if d == 0x30 then isNumberTail rest
      else isDigit d && isNumberTail (rest.dropWhile isDigit)
  | [] => false

/-! ### Tokens -/

/-- A bracket, a separator or a scalar.  A string token holds its text, if it spells one. -/
inductive Token
  | openBrace
  | closeBrace
  | openBracket
  | closeBracket
  | colon
  | comma
  | null
  | bool (b : Bool)
  | number
  | str (text : Option String)
  deriving DecidableEq, Repr

/-- Blanks between tokens. -/
def isBlank (b : UInt8) : Bool := b == 0x20 || b == 0x09 || b == 0x0A || b == 0x0D

/-- A word token, if its letters stand next. -/
def readWord (word : String) (token : Token) (bs : Bytes) : Option (Token × Bytes) :=
  match (Utf8.encode word).isPrefixOf? bs with
  | some rest => some (token, rest)
  | none => none

/-- The token that is a single byte. -/
def Token.ofByte? (b : UInt8) : Option Token :=
  if b = 0x7B then some .openBrace
  else if b = 0x7D then some .closeBrace
  else if b = 0x5B then some .openBracket
  else if b = 0x5D then some .closeBracket
  else if b = 0x3A then some .colon
  else if b = 0x2C then some .comma
  else none

/-- Reads the scalar that begins with `b`. -/
def Token.readScalar? (b : UInt8) (rest : Bytes) : Option (Token × Bytes) :=
  if b = 0x22 then
    (readLiteral [] rest).map fun (pieces, rest) => (.str (Piece.text? pieces), rest)
  else if b = 0x6E then readWord "ull" .null rest
  else if b = 0x74 then readWord "rue" (.bool true) rest
  else if b = 0x66 then readWord "alse" (.bool false) rest
  else if isNumber (b :: rest.takeWhile isNumberByte) then
    some (.number, rest.dropWhile isNumberByte)
  else none

/-- Reads the token that begins with `b`, a byte that is no blank. -/
def Token.read? (b : UInt8) (rest : Bytes) : Option (Token × Bytes) :=
  match ofByte? b with
  | some t => some (t, rest)
  | none => readScalar? b rest

theorem readLiteral_length {done pieces : List Piece} {bs rest : Bytes}
    (h : readLiteral done bs = some (pieces, rest)) : rest.length ≤ bs.length := by
  fun_induction readLiteral done bs <;> simp_all <;> omega

theorem isPrefixOf?_length {p bs rest : Bytes} (h : p.isPrefixOf? bs = some rest) :
    rest.length ≤ bs.length := by
  induction p generalizing bs with
  | nil => cases h; exact Nat.le_refl _
  | cons x p ih =>
      cases bs with
      | nil => cases h
      | cons b bs =>
          change (if (x == b) = true then p.isPrefixOf? bs else none) = some rest at h
          split at h
          · have := ih h
            simp only [List.length_cons]
            omega
          · simp at h

theorem readWord_length {word : String} {t t' : Token} {bs rest : Bytes}
    (h : readWord word t bs = some (t', rest)) : rest.length ≤ bs.length := by
  unfold readWord at h
  split at h
  · next hp =>
    cases h
    exact isPrefixOf?_length hp
  · simp at h

theorem length_dropWhile_le {α : Type} (p : α → Bool) (l : List α) :
    (l.dropWhile p).length ≤ l.length :=
  (List.dropWhile_sublist p).length_le

theorem Token.readScalar?_length {b : UInt8} {rest rest' : Bytes} {t : Token}
    (h : readScalar? b rest = some (t, rest')) : rest'.length ≤ rest.length := by
  unfold readScalar? at h
  split at h
  · obtain ⟨⟨pieces, r⟩, hl, he⟩ := Option.map_eq_some_iff.1 h
    cases he
    exact readLiteral_length hl
  split at h; · exact readWord_length h
  split at h; · exact readWord_length h
  split at h; · exact readWord_length h
  split at h
  · cases h; exact length_dropWhile_le _ _
  · simp at h

/-- A token takes at least its first byte. -/
theorem Token.read?_length {b : UInt8} {rest rest' : Bytes} {t : Token}
    (h : read? b rest = some (t, rest')) : rest'.length ≤ rest.length := by
  unfold read? at h
  split at h
  · cases h; exact Nat.le_refl _
  · exact readScalar?_length h

/-- The tokens of `bs` behind those read already, the latter in reverse. -/
def lexOnto? (done : List Token) (bs : Bytes) : Option (List Token) :=
  match _hb : bs.dropWhile isBlank with
  | [] => some done.reverse
  | b :: rest =>
      match _ht : Token.read? b rest with
      | some (t, rest') => lexOnto? (t :: done) rest'
      | none => none
termination_by bs.length
decreasing_by
  have h₁ := Token.read?_length _ht
  have h₂ := length_dropWhile_le isBlank bs
  rw [_hb, List.length_cons] at h₂
  omega

/-- The tokens of a text; `none` if some part of it is no token. -/
def lex? (bs : Bytes) : Option (List Token) := lexOnto? [] bs

end Json

end HookBridge
