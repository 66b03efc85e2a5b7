/-
**Tokens, and the texts that they are laid out in.**

A text is laid out as tokens, each in one of its spellings, with any blanks in front of, between and
behind them.  A text that is read as tokens is laid out as these.  For the converse the tokens must
not run together: it takes something else behind a number to see where it ends.

Main definitions:

* `HookBridge.Json.Token.Spelt` — the spellings of a token;
* `HookBridge.Json.Layout` — the texts that tokens are laid out in;
* `HookBridge.Json.Apart` — behind every number stands a bracket or a separator, or nothing.

Main results:

* `HookBridge.Json.Layout.lexOnto?` — **a layout is read as its tokens**, whatever follows it;
* `HookBridge.Json.lex?_eq_some_iff` — and a text that is read as tokens is a layout of them.
-/

import HookBridge.Proofs.Json.Literal
import HookBridge.Proofs.Json.Numeral
import HookBridge.Proofs.Json.Record
import Mathlib.Data.List.Basic
import Mathlib.Data.List.Chain

set_option relaxedAutoImplicit false
set_option autoImplicit false

namespace HookBridge

namespace Json

/-! ### Spellings of tokens -/

/-- The brackets and the separators. -/
def marks : List (UInt8 × Token) :=
  [(0x7B, .openBrace), (0x7D, .closeBrace), (0x5B, .openBracket), (0x5D, .closeBracket),
   (0x3A, .colon), (0x2C, .comma)]

/-- The token is a bracket or a separator. -/
def Token.IsMark (t : Token) : Prop := ∃ b, (b, t) ∈ marks

/-- `Spelt t bs`: the bytes are a spelling of the token. -/
inductive Token.Spelt : Token → Bytes → Prop
  | mark {b : UInt8} {t : Token} (h : (b, t) ∈ marks) : Spelt t [b]
  | null : Spelt .null (Utf8.encode "null")
  | boolTrue : Spelt (.bool true) (Utf8.encode "true")
  | boolFalse : Spelt (.bool false) (Utf8.encode "false")
  | number {bs : Bytes} (h : IsNumeral bs) : Spelt .number bs
  | str {content : Bytes} {text : Option String} (h : Spells content text) :
      Spelt (.str text) (0x22 :: (content ++ [0x22]))

/-- `Layout ts bs`: the bytes are spellings of the tokens with blanks between them. -/
inductive Layout : List Token → Bytes → Prop
  | nil {blanks : Bytes} (hblanks : ∀ b ∈ blanks, isBlank b = true) : Layout [] blanks
  | cons {blanks bs rest : Bytes} {t : Token} {ts : List Token}
      (hblanks : ∀ b ∈ blanks, isBlank b = true) (ht : t.Spelt bs) (hrest : Layout ts rest) :
      Layout (t :: ts) (blanks ++ (bs ++ rest))

/-- Behind every number stands a bracket or a separator, or nothing. -/
def Apart (ts : List Token) : Prop := ts.IsChain fun t t' => t = .number → t'.IsMark

/-! ### Reading a token -/

namespace Token

theorem ofByte?_eq_some_iff {b : UInt8} {t : Token} : ofByte? b = some t ↔ (b, t) ∈ marks := by
  have hread : ∀ b, ∀ t ∈ ofByte? b, (b, t) ∈ marks := Percent.forall_byte (by decide +kernel)
  have hlisted : ∀ entry ∈ marks, ofByte? entry.1 = some entry.2 := by decide
  exact ⟨hread b t, hlisted (b, t)⟩

theorem readWord_eq_some_iff {word : String} {t t' : Token} {bs rest : Bytes} :
    readWord word t bs = some (t', rest) ↔ t' = t ∧ bs = Utf8.encode word ++ rest := by
  rw [readWord]
  cases hrest : (Utf8.encode word).isPrefixOf? bs with
  | none =>
      simp only [reduceCtorEq, false_iff, not_and]
      rintro - rfl
      rw [List.isPrefixOf?_eq_some_iff_append_eq.2 rfl] at hrest
      exact absurd hrest (by simp)
  | some rest' =>
      rw [← List.isPrefixOf?_eq_some_iff_append_eq.1 hrest]
      simp [eq_comm]

/-- What is read as a token is a spelling of it. -/
theorem spelt_of_read? {b : UInt8} {rest rest' : Bytes} {t : Token}
    (h : read? b rest = some (t, rest')) : ∃ bs, t.Spelt bs ∧ b :: rest = bs ++ rest' := by
  rw [read?] at h
  split at h
  · next t' hmark =>
    obtain ⟨rfl, rfl⟩ := Prod.mk.inj (Option.some.inj h)
    exact ⟨[b], .mark (ofByte?_eq_some_iff.1 hmark), rfl⟩
  rw [readScalar?] at h
  split at h
  · next hquote =>
    obtain ⟨⟨pieces, after⟩, hliteral, heq⟩ := Option.map_eq_some_iff.1 h
    obtain ⟨rfl, rfl⟩ := Prod.mk.inj heq
    obtain ⟨content, hcontent, rfl⟩ := readLiteral_eq_some_iff.1 hliteral
    refine ⟨_, .str (spells_iff.2 ⟨pieces, hcontent, rfl⟩), ?_⟩
    rw [hquote]
    simp
  split at h
  · next hb =>
    obtain ⟨rfl, rfl⟩ := readWord_eq_some_iff.1 h
    exact ⟨_, .null, by rw [hb]; rfl⟩
  split at h
  · next hb =>
    obtain ⟨rfl, rfl⟩ := readWord_eq_some_iff.1 h
    exact ⟨_, .boolTrue, by rw [hb]; rfl⟩
  split at h
  · next hb =>
    obtain ⟨rfl, rfl⟩ := readWord_eq_some_iff.1 h
    exact ⟨_, .boolFalse, by rw [hb]; rfl⟩
  split at h
  · next hnumber =>
    obtain ⟨rfl, rfl⟩ := Prod.mk.inj (Option.some.inj h)
    refine ⟨_, .number ((isNumber_iff _).1 hnumber), ?_⟩
    rw [List.cons_append, List.takeWhile_append_dropWhile]
  · exact absurd h (by simp)

/-- A bracket or a separator is no blank, and no number is written with it. -/
theorem not_isBlank_of_mark {b : UInt8} {t : Token} (h : (b, t) ∈ marks) :
    isBlank b = false ∧ isNumberByte b = false := by
  have hall : ∀ entry ∈ marks, isBlank entry.1 = false ∧ isNumberByte entry.1 = false := by decide
  exact hall (b, t) h

/-- The first byte of a numeral begins neither a blank nor any other token. -/
theorem of_numeral_head {b : UInt8} (h : isDigit b = true ∨ b = 0x2D) :
    isBlank b = false ∧ ofByte? b = none ∧ b ≠ 0x22 ∧ b ≠ 0x6E ∧ b ≠ 0x74 ∧ b ≠ 0x66 := by
  have hall : ∀ b, isDigit b = true ∨ b = 0x2D → isBlank b = false ∧ ofByte? b = none ∧
      b ≠ 0x22 ∧ b ≠ 0x6E ∧ b ≠ 0x74 ∧ b ≠ 0x66 := Percent.forall_byte (by decide +kernel)
  exact hall b h

/-- **A spelling is read as its token**, if it is seen to end. -/
theorem Spelt.read? {t : Token} {bs rest : Bytes} (h : t.Spelt bs)
    (hend : t = .number → ∀ b ∈ rest.head?, isNumberByte b = false) :
    ∃ b more, bs = b :: more ∧ isBlank b = false ∧
      Token.read? b (more ++ rest) = some (t, rest) := by
  cases h with
  | @mark b _ h =>
      refine ⟨b, [], rfl, (not_isBlank_of_mark h).1, ?_⟩
      rw [Token.read?, ofByte?_eq_some_iff.2 h]
      rfl
  | null =>
      have hword : Token.read? 0x6E (Utf8.encode "ull" ++ rest) =
          readWord "ull" .null (Utf8.encode "ull" ++ rest) := rfl
      exact ⟨0x6E, _, rfl, by decide, hword.trans (readWord_eq_some_iff.2 ⟨rfl, rfl⟩)⟩
  | boolTrue =>
      have hword : Token.read? 0x74 (Utf8.encode "rue" ++ rest) =
          readWord "rue" (.bool true) (Utf8.encode "rue" ++ rest) := rfl
      exact ⟨0x74, _, rfl, by decide, hword.trans (readWord_eq_some_iff.2 ⟨rfl, rfl⟩)⟩
  | boolFalse =>
      have hword : Token.read? 0x66 (Utf8.encode "alse" ++ rest) =
          readWord "alse" (.bool false) (Utf8.encode "alse" ++ rest) := rfl
      exact ⟨0x66, _, rfl, by decide, hword.trans (readWord_eq_some_iff.2 ⟨rfl, rfl⟩)⟩
  | number h =>
      obtain ⟨b, more, rfl, hhead⟩ := h.exists_head
      obtain ⟨hblank, hmark, hquote, hnull, htrue, hfalse⟩ := of_numeral_head hhead
      have hmore : ∀ d ∈ more, isNumberByte d = true := fun d hd =>
        h.allNumberBytes d (List.mem_cons_of_mem _ hd)
      have htake : (more ++ rest).takeWhile isNumberByte = more := by
        rw [List.takeWhile_append_of_pos hmore]
        cases rest with
        | nil => simp
        | cons d rest => simp [hend rfl d rfl]
      have hdrop : (more ++ rest).dropWhile isNumberByte = rest := by
        rw [List.dropWhile_append_of_pos hmore]
        cases rest with
        | nil => rfl
        | cons d rest => simp [hend rfl d rfl]
      refine ⟨b, more, rfl, hblank, ?_⟩
      simp only [Token.read?, hmark, readScalar?, if_neg hquote, if_neg hnull, if_neg htrue,
        if_neg hfalse, htake, hdrop, (isNumber_iff _).2 h, if_true]
  | @str content text h =>
      obtain ⟨pieces, hcontent, rfl⟩ := spells_iff.1 h
      have hread := hcontent.readLiteral [] rest
      have hmark : ofByte? 0x22 = none := by decide
      refine ⟨0x22, content ++ [0x22], rfl, by decide, ?_⟩
      rw [List.append_assoc, List.singleton_append]
      simp only [Token.read?, hmark, readScalar?, if_true, hread, Option.map_some,
        List.reverse_nil, List.nil_append]

end Token

/-! ### Reading a layout -/

/-- The tokens of a text, one step at a time. -/
theorem lexOnto?_eq (done : List Token) (bs : Bytes) :
    lexOnto? done bs =
      match bs.dropWhile isBlank with
      | [] => some done.reverse
      | b :: rest =>
          match Token.read? b rest with
          | some (t, rest') => lexOnto? (t :: done) rest'
          | none => none := by
  rw [lexOnto?.eq_def]
  split
  · next hnil => simp only [hnil]
  · next b rest hcons =>
    simp only [hcons]
    split
    · next t rest' hread => simp only [hread]
    · next hread => simp only [hread]

/-- Blanks do not count. -/
theorem lexOnto?_blanks {blanks : Bytes} (h : ∀ b ∈ blanks, isBlank b = true) (done : List Token)
    (rest : Bytes) : lexOnto? done (blanks ++ rest) = lexOnto? done rest := by
  rw [lexOnto?_eq, lexOnto?_eq, List.dropWhile_append_of_pos h]

theorem isBlank_of_mem_takeWhile (bs : Bytes) :
    ∀ b ∈ bs.takeWhile isBlank, isBlank b = true := fun _ hb => List.mem_takeWhile_imp hb

/-- **What is read as tokens is a layout of them.** -/
theorem layout_of_lexOnto? {done out : List Token} {bs : Bytes}
    (h : lexOnto? done bs = some out) : ∃ ts, Layout ts bs ∧ out = done.reverse ++ ts := by
  fun_induction lexOnto? done bs with
  | case1 done bs hdrop =>
      refine ⟨[], .nil ?_, by rw [← Option.some.inj h, List.append_nil]⟩
      exact List.dropWhile_eq_nil_iff.1 hdrop
  | case2 done bs b rest hdrop t rest' hread ih =>
      obtain ⟨ts, hts, rfl⟩ := ih h
      obtain ⟨spelling, ht, heq⟩ := Token.spelt_of_read? hread
      refine ⟨t :: ts, ?_, by simp⟩
      have hbs : bs = bs.takeWhile isBlank ++ (spelling ++ rest') := by
        rw [← heq, ← hdrop, List.takeWhile_append_dropWhile]
      rw [hbs]
      exact .cons (isBlank_of_mem_takeWhile bs) ht hts
  | case3 => exact absurd h (by simp)

/-- Where a bracket or a separator is laid out, or nothing up to the end, no number goes on. -/
theorem Layout.not_isNumberByte_head {ts : List Token} {bs tail : Bytes} (h : Layout ts bs)
    (hmark : ∀ t ∈ ts.head?, t.IsMark) (htail : ts = [] → tail = []) :
    ∀ b ∈ (bs ++ tail).head?, isNumberByte b = false := by
  have hblank : ∀ b, isBlank b = true → isNumberByte b = false := Percent.forall_byte (by decide +kernel)
  cases h with
  | nil hblanks =>
      rw [htail rfl, List.append_nil]
      exact fun b hb => hblank b (hblanks b (List.mem_of_mem_head? hb))
  | @cons blanks bs rest t ts hblanks ht hrest =>
      cases blanks with
      | cons d blanks =>
          rintro b hb
          obtain rfl := Option.some.inj hb
          exact hblank d (hblanks d (List.mem_cons_self ..))
      | nil =>
          obtain ⟨d, hd⟩ := hmark t rfl
          -- a bracket or a separator has no spelling but its byte
          cases ht with
          | mark hd' =>
              rintro b hb
              obtain rfl := Option.some.inj hb
              exact (Token.not_isBlank_of_mark hd').2
          | _ => exact absurd hd (by simp [marks])

/-- **A layout is read as its tokens, whatever follows it**: unless it ends with a number, which
only the end of the text is known to end. -/
theorem Layout.lexOnto? {ts : List Token} {bs : Bytes} (h : Layout ts bs) (hapart : Apart ts)
    {tail : Bytes} (hend : ts.getLast? = some .number → tail = []) (done : List Token) :
    Json.lexOnto? done (bs ++ tail) = Json.lexOnto? (ts.reverse ++ done) tail := by
  induction h generalizing done with
  | nil hblanks => exact lexOnto?_blanks hblanks done tail
  | @cons blanks bs rest t ts hblanks ht hrest ih =>
      rw [Apart, List.isChain_cons] at hapart
      obtain ⟨hnext, hapart⟩ := hapart
      have hstop : t = .number → ∀ b ∈ (rest ++ tail).head?, isNumberByte b = false := by
        rintro rfl
        refine hrest.not_isNumberByte_head (fun t' ht' => hnext t' ht' rfl) ?_
        rintro rfl
        exact hend rfl
      have hend' : ts.getLast? = some .number → tail = [] := fun hlast =>
        hend (by rw [List.getLast?_cons, hlast, Option.getD_some])
      obtain ⟨b, more, rfl, hb, hread⟩ := ht.read? hstop
      rw [List.append_assoc, lexOnto?_blanks hblanks, List.append_assoc, List.cons_append,
        lexOnto?_cons hb hread, ih hapart hend', List.reverse_cons, List.append_assoc,
        List.singleton_append]

/-- **A text is read as tokens that stand apart exactly if it is a layout of them.** -/
theorem lex?_eq_some_iff {ts : List Token} (hapart : Apart ts) {bs : Bytes} :
    lex? bs = some ts ↔ Layout ts bs := by
  constructor
  · intro h
    obtain ⟨ts', hts, rfl⟩ := layout_of_lexOnto? h
    exact hts
  · intro h
    have hread := h.lexOnto? hapart (fun _ => rfl) []
    rw [List.append_nil, List.append_nil] at hread
    rw [lex?, hread, lexOnto?_eq]
    simp

end Json

end HookBridge
