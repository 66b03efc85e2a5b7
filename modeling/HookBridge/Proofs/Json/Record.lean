/-
**Records are read as they were written.**

Whatever texts a record holds, its JSON text is read as an object with just these members in this
order, each with just its text.  So nothing that stands in a text gets out of its literal.  The
argument goes from characters to literals, from literals to tokens and from tokens to the object;
on each level what has been written is read in the same way whatever follows it.

Main definitions:

* `HookBridge.Json.ReadsAs` — characters of a literal are read as the bytes of a text;
* `HookBridge.Json.LexesAs` — characters are read as tokens.

Main results:

* `HookBridge.Json.ReadsAs.escape` — **every character is read from the way it is escaped**;
* `HookBridge.Json.LexesAs.quote` — a text is read from its literal;
* `HookBridge.Json.lex?_record` — a record is read as its tokens;
* `HookBridge.Json.parse?_record` — **a record is read as it was written**.
-/

import HookBridge.Json.Record
import HookBridge.Proofs.Text.Spelling

set_option relaxedAutoImplicit false
set_option autoImplicit false

namespace HookBridge

namespace Json

/-! ### Literals -/

/-- The characters `text`, inside a literal, are read as pieces that make up the bytes `bs`,
whatever stands around them. -/
structure ReadsAs (text : List Char) (bs : Bytes) (pieces : List Piece) : Prop where
  read : ∀ done rest, readLiteral done (text.flatMap String.utf8EncodeChar ++ rest) =
    readLiteral (pieces.reverse ++ done) rest
  bytes : ∀ done rest, Piece.bytesOnto? done (pieces ++ rest) =
    Piece.bytesOnto? (bs.reverse ++ done) rest

theorem ReadsAs.nil : ReadsAs [] [] [] := ⟨fun _ _ => rfl, fun _ _ => rfl⟩

theorem ReadsAs.append {text text' : List Char} {bs bs' : Bytes} {pieces pieces' : List Piece}
    (h : ReadsAs text bs pieces) (h' : ReadsAs text' bs' pieces') :
    ReadsAs (text ++ text') (bs ++ bs') (pieces ++ pieces') where
  read := by
    intro done rest
    rw [List.flatMap_append, List.append_assoc, h.read, h'.read, List.reverse_append,
      List.append_assoc]
  bytes := by
    intro done rest
    rw [List.append_assoc, h.bytes, h'.bytes, List.reverse_append, List.append_assoc]

/-- Bytes that stand for themselves make up themselves. -/
theorem bytesOnto?_bytes (bs done : Bytes) (rest : List Piece) :
    Piece.bytesOnto? done (bs.map .byte ++ rest) = Piece.bytesOnto? (bs.reverse ++ done) rest := by
  induction bs generalizing done with
  | nil => rfl
  | cons b bs ih =>
      rw [List.map_cons, List.cons_append, Piece.bytesOnto?, ih, List.reverse_cons,
        List.append_assoc, List.singleton_append]

/-- Bytes that mean nothing else in a literal stand for themselves. -/
theorem readLiteral_plain {bs : Bytes} (h : ∀ b ∈ bs, b ≠ 0x22 ∧ b ≠ 0x5C ∧ ¬ b < 0x20)
    (done : List Piece) (rest : Bytes) :
    readLiteral done (bs ++ rest) = readLiteral ((bs.map Piece.byte).reverse ++ done) rest := by
  induction bs generalizing done with
  | nil => rfl
  | cons b bs ih =>
      obtain ⟨⟨hquote, hescape, hcontrol⟩, hbs⟩ := List.forall_mem_cons.1 h
      rw [List.cons_append, readLiteral.eq_def]
      simp only [if_neg hquote, if_neg hescape, if_neg hcontrol]
      rw [ih hbs, List.map_cons, List.reverse_cons, List.append_assoc, List.singleton_append]

/-- A character that needs no escape. -/
theorem ReadsAs.plain {c : Char} (hquote : c ≠ '"') (hescape : c ≠ '\\')
    (hcontrol : ¬ c.toNat < 32) :
    ReadsAs [c] (String.utf8EncodeChar c) ((String.utf8EncodeChar c).map .byte) where
  read := by
    intro done rest
    rw [List.flatMap_singleton]
    refine readLiteral_plain (fun b hb => ?_) done rest
    -- a byte of ASCII can only be the character itself
    have hself : b < 0x80 → c.toNat = b.toNat := Percent.toNat_eq_of_mem hb
    refine ⟨?_, ?_, ?_⟩
    · rintro rfl
      exact hquote (Char.toNat_inj.1 (hself (by decide)))
    · rintro rfl
      exact hescape (Char.toNat_inj.1 (hself (by decide)))
    · intro hlt
      have hlt : b.toNat < 32 := hlt
      have hsmall : b < 0x80 := Nat.lt_trans hlt (by decide)
      exact hcontrol (hself hsmall ▸ hlt)
  bytes := bytesOnto?_bytes _

/-- A short escape. -/
theorem ReadsAs.short (c e : Char) (b mark : UInt8)
    (h : String.utf8EncodeChar c = [b] ∧ String.utf8EncodeChar e = [mark] ∧ mark ≠ 0x75 ∧
      shortEscape? mark = some b) :
    ReadsAs ['\\', e] (String.utf8EncodeChar c) [.byte b] where
  read := by
    intro done rest
    obtain ⟨-, he, hunit, hmark⟩ := h
    have hbackslash : String.utf8EncodeChar '\\' = [0x5C] := by decide
    simp only [List.flatMap_cons, List.flatMap_nil, hbackslash, he, List.append_nil,
      List.cons_append, List.nil_append]
    rw [readLiteral.eq_def]
    simp only [if_neg (by decide : ¬ (0x5C : UInt8) = 0x22), if_true, if_neg hunit, hmark]
    rfl
  bytes := by
    rw [h.1]
    exact bytesOnto?_bytes [b]

theorem hexValue?_hexDigit {n : Nat} (h : n < 16) :
    ∃ b, String.utf8EncodeChar (hexDigit n) = [b] ∧ Percent.hexValue? b = some n := by
  have hall : ∀ n < 16,
      (String.utf8EncodeChar (hexDigit n)).map Percent.hexValue? = [some n] := by decide
  obtain ⟨b, hb, hvalue⟩ := List.map_eq_singleton_iff.1 (hall n h)
  exact ⟨b, hb, hvalue⟩

/-- A long escape. -/
theorem ReadsAs.long {c : Char} (hcontrol : c.toNat < 32) :
    ReadsAs ['\\', 'u', '0', '0', hexDigit (c.toNat / 16), hexDigit (c.toNat % 16)]
      (String.utf8EncodeChar c) [.unit c.toNat] where
  read := by
    intro done rest
    obtain ⟨high, hhigh, hhigh'⟩ := hexValue?_hexDigit (n := c.toNat / 16) (by omega)
    obtain ⟨low, hlow, hlow'⟩ := hexValue?_hexDigit (n := c.toNat % 16) (by omega)
    have hunit : unit? 0x30 0x30 high low = some c.toNat := by
      have hzero : Percent.byte? 0x30 0x30 = some 0 := by decide
      have hbyte : Percent.byte? high low = some (UInt8.ofNat c.toNat) := by
        simp only [Percent.byte?, hhigh', hlow', Nat.div_add_mod]
      simp only [unit?, hzero, hbyte, UInt8.toNat_ofNat']
      congr 1
      simp
      omega
    have hbackslash : String.utf8EncodeChar '\\' = [0x5C] := by decide
    have hletter : String.utf8EncodeChar 'u' = [0x75] := by decide
    have hzero : String.utf8EncodeChar '0' = [0x30] := by decide
    simp only [List.flatMap_cons, List.flatMap_nil, hbackslash, hletter, hzero, hhigh, hlow,
      List.append_nil, List.cons_append, List.nil_append]
    rw [readLiteral.eq_def]
    simp only [if_neg (by decide : ¬ (0x5C : UInt8) = 0x22), if_true, hunit]
    rfl
  bytes := by
    intro done rest
    have hhigh : isHighUnit c.toNat = false := by simp [isHighUnit]; omega
    have hlow : isLowUnit c.toNat = false := by simp [isLowUnit]; omega
    rw [List.singleton_append, Piece.bytesOnto?.eq_def]
    simp [hhigh, hlow]

/-- **Every character is read from the way it is escaped.** -/
theorem ReadsAs.escape (c : Char) :
    ∃ pieces, ReadsAs (escape c) (String.utf8EncodeChar c) pieces := by
  rw [Json.escape]
  split
  · next hc =>
    subst hc
    exact ⟨_, .short '"' '"' 0x22 0x22 (by decide)⟩
  split
  · next hc =>
    subst hc
    exact ⟨_, .short '\\' '\\' 0x5C 0x5C (by decide)⟩
  split
  · next hc =>
    subst hc
    exact ⟨_, .short '\x08' 'b' 0x08 0x62 (by decide)⟩
  split
  · next hc =>
    subst hc
    exact ⟨_, .short '\x0c' 'f' 0x0C 0x66 (by decide)⟩
  split
  · next hc =>
    subst hc
    exact ⟨_, .short '\n' 'n' 0x0A 0x6E (by decide)⟩
  split
  · next hc =>
    subst hc
    exact ⟨_, .short '\r' 'r' 0x0D 0x72 (by decide)⟩
  split
  · next hc =>
    subst hc
    exact ⟨_, .short '\t' 't' 0x09 0x74 (by decide)⟩
  split
  · next hcontrol => exact ⟨_, .long hcontrol⟩
  · next hquote hescape _ _ _ _ _ hcontrol => exact ⟨_, .plain hquote hescape hcontrol⟩

/-- A text is read from its escaped form. -/
theorem ReadsAs.escapes (text : List Char) :
    ∃ pieces, ReadsAs (text.flatMap Json.escape) (text.flatMap String.utf8EncodeChar) pieces := by
  induction text with
  | nil => exact ⟨[], .nil⟩
  | cons c text ih =>
      obtain ⟨pieces, hc⟩ := ReadsAs.escape c
      obtain ⟨pieces', htext⟩ := ih
      exact ⟨pieces ++ pieces', hc.append htext⟩

/-- Between quotes a text is read as it is. -/
theorem readLiteral_quote (s : String) (rest : Bytes) :
    ∃ pieces, readLiteral []
        ((s.toList.flatMap escape).flatMap String.utf8EncodeChar ++ 0x22 :: rest) =
          some (pieces, rest) ∧
      Piece.text? pieces = some s := by
  obtain ⟨pieces, h⟩ := ReadsAs.escapes s.toList
  refine ⟨pieces, ?_, ?_⟩
  · rw [h.read, List.append_nil, readLiteral.eq_def]
    simp
  · have hbytes := h.bytes [] []
    simp only [List.append_nil, Piece.bytesOnto?, List.reverse_reverse] at hbytes
    rw [Piece.text?, hbytes]
    exact Utf8.decode?_encode s

/-! ### Tokens -/

/-- The characters are read as the tokens, whatever stands around them. -/
def LexesAs (text : List Char) (tokens : List Token) : Prop :=
  ∀ done rest, lexOnto? done (text.flatMap String.utf8EncodeChar ++ rest) =
    lexOnto? (tokens.reverse ++ done) rest

theorem LexesAs.nil : LexesAs [] [] := fun _ _ => rfl

theorem LexesAs.append {text text' : List Char} {tokens tokens' : List Token}
    (h : LexesAs text tokens) (h' : LexesAs text' tokens') :
    LexesAs (text ++ text') (tokens ++ tokens') := by
  intro done rest
  rw [List.flatMap_append, List.append_assoc, h, h', List.reverse_append, List.append_assoc]

/-- A token is read and put behind those read already. -/
theorem lexOnto?_cons {b : UInt8} {bs rest : Bytes} {t : Token} (hb : isBlank b = false)
    (ht : Token.read? b bs = some (t, rest)) (done : List Token) :
    lexOnto? done (b :: bs) = lexOnto? (t :: done) rest := by
  have hdrop : (b :: bs).dropWhile isBlank = b :: bs := List.dropWhile_cons_of_neg (by simp [hb])
  rw [lexOnto?.eq_def]
  split
  · next hnil =>
    rw [hdrop] at hnil
    exact absurd hnil (by simp)
  · next b' bs' hcons =>
    rw [hdrop] at hcons
    obtain ⟨rfl, rfl⟩ := List.cons.inj hcons
    split
    · next t' rest' hread =>
      rw [ht] at hread
      obtain ⟨rfl, rfl⟩ := Prod.mk.inj (Option.some.inj hread)
      rfl
    · next hread =>
      rw [ht] at hread
      exact absurd hread (by simp)

/-- A bracket or a separator. -/
theorem LexesAs.mark (c : Char) (b : UInt8) (t : Token)
    (h : String.utf8EncodeChar c = [b] ∧ isBlank b = false ∧ Token.ofByte? b = some t) :
    LexesAs [c] [t] := by
  obtain ⟨hc, hb, ht⟩ := h
  intro done rest
  rw [List.flatMap_singleton, hc, List.singleton_append]
  exact lexOnto?_cons hb (by rw [Token.read?, ht]) done

/-- A text is read from its literal. -/
theorem LexesAs.quote (s : String) : LexesAs (quote s) [.str (some s)] := by
  intro done rest
  have hquote : String.utf8EncodeChar '"' = [0x22] := by decide
  obtain ⟨pieces, hread, htext⟩ := readLiteral_quote s rest
  rw [Json.quote, List.cons_append, List.flatMap_cons, List.flatMap_append, List.flatMap_singleton,
    hquote, List.singleton_append, List.cons_append, List.append_assoc, List.singleton_append]
  refine lexOnto?_cons (by decide) ?_ done
  have hbyte : Token.ofByte? 0x22 = none := by decide
  simp only [Token.read?, hbyte, Token.readScalar?, if_true, hread, Option.map_some, htext]

/-- The tokens of a field of a record. -/
def fieldTokens (entry : String × String) : List Token :=
  [.str (some entry.1), .colon, .str (some entry.2)]

theorem LexesAs.field (entry : String × String) : LexesAs (field entry) (fieldTokens entry) :=
  (LexesAs.quote entry.1).append
    ((LexesAs.mark ':' 0x3A .colon (by decide)).append (LexesAs.quote entry.2))

/-- What stands between separators is a first thing, and a separator in front of each other one. -/
theorem intercalate_map_cons {α β : Type} (separator : β) (f : α → List β) (x : α) (xs : List α) :
    [separator].intercalate ((x :: xs).map f) = f x ++ xs.flatMap fun y => separator :: f y := by
  induction xs generalizing x with
  | nil => simp
  | cons y xs ih =>
      rw [List.map_cons, List.map_cons, List.intercalate_cons_cons, ← List.map_cons, ih,
        List.flatMap_cons, List.append_assoc, List.singleton_append, List.cons_append]

theorem LexesAs.fields (entries : List (String × String)) :
    LexesAs ([','].intercalate (entries.map Json.field))
      ([Token.comma].intercalate (entries.map fieldTokens)) := by
  have hcomma : LexesAs [','] [.comma] := .mark ',' 0x2C .comma (by decide)
  have hrest : ∀ entries : List (String × String),
      LexesAs (entries.flatMap fun entry => ',' :: Json.field entry)
        (entries.flatMap fun entry => .comma :: fieldTokens entry) := by
    intro entries
    induction entries with
    | nil => exact .nil
    | cons entry entries ih => exact (hcomma.append (.field entry)).append ih
  cases entries with
  | nil => exact .nil
  | cons entry entries =>
      rw [intercalate_map_cons, intercalate_map_cons]
      exact (LexesAs.field entry).append (hrest entries)

/-- The tokens of a record. -/
def recordTokens (entries : List (String × String)) : List Token :=
  .openBrace :: [Token.comma].intercalate (entries.map fieldTokens) ++ [.closeBrace]

theorem lex?_record (entries : List (String × String)) :
    lex? (Utf8.encode (record entries)) = some (recordTokens entries) := by
  have hopen : LexesAs ['\x7b'] [.openBrace] := .mark '\x7b' 0x7B .openBrace (by decide)
  have hclose : LexesAs ['\x7d'] [.closeBrace] := .mark '\x7d' 0x7D .closeBrace (by decide)
  have hlex := ((hopen.append (.fields entries)).append hclose) [] []
  have hend : lexOnto? (recordTokens entries).reverse [] = some (recordTokens entries) := by
    rw [lexOnto?.eq_def]
    simp
  rw [List.append_nil, List.append_nil] at hlex
  rw [lex?, Utf8.encode, record, String.toList_ofList]
  exact hlex.trans hend

/-! ### Objects -/

/-- The members of the object that a record is written as. -/
def members (entries : List (String × String)) : List (Option String × Value) :=
  entries.map fun entry => (some entry.1, .str (some entry.2))

theorem run_cons (s : State) (t : Token) (ts : List Token) :
    State.run s (t :: ts) = (State.step s t).bind fun s => State.run s ts := rfl

/-- A field is one member more. -/
theorem run_field (entry : String × String) (ts : List Token)
    (done : List (Option String × Value)) :
    State.run (.key [] done) (fieldTokens entry ++ ts) =
      State.run (.afterMember [] ((some entry.1, .str (some entry.2)) :: done)) ts := rfl

/-- The fields behind the first one, and the end of the object. -/
theorem run_fields (entries : List (String × String)) (done : List (Option String × Value)) :
    State.run (.afterMember [] done)
      ((entries.flatMap fun entry => .comma :: fieldTokens entry) ++ [.closeBrace]) =
      some (.complete (.obj (done.reverse ++ members entries))) := by
  induction entries generalizing done with
  | nil =>
      rw [members, List.map_nil, List.append_nil]
      rfl
  | cons entry entries ih =>
      rw [List.flatMap_cons, List.append_assoc, List.cons_append, run_cons]
      change State.run (.key [] done) _ = _
      rw [run_field, ih, members, members, List.map_cons, List.reverse_cons, List.append_assoc,
        List.singleton_append]

theorem ofTokens?_recordTokens (entries : List (String × String)) :
    ofTokens? (recordTokens entries) = some (.obj (members entries)) := by
  have hrun : State.run (.value []) (recordTokens entries) =
      some (.complete (.obj (members entries))) := by
    cases entries with
    | nil => rfl
    | cons entry entries =>
        rw [recordTokens, intercalate_map_cons, List.cons_append, run_cons, List.append_assoc]
        -- behind the brace the first field is read as one behind a comma would be
        exact (run_field entry _ []).trans (run_fields entries _)
  rw [ofTokens?, hrun]

/-- **A record is read as it was written**: as the object with its fields for members. -/
theorem parse?_record (entries : List (String × String)) :
    parse? (Utf8.encode (record entries)) = some (.obj (members entries)) := by
  rw [parse?, lex?_record]
  exact ofTokens?_recordTokens entries

end Json

end HookBridge
