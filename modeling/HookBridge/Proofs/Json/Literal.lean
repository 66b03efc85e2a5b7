/-
**String literals, and the texts that they spell.**

What stands between the quotes of a literal is written in pieces: a byte as it stands, a short
escape, or a long one that names a 16-bit unit.  Units make up characters as in UTF-16, so one half
of a surrogate pair makes up nothing without the other.  This module says both in rules, apart from
any reader, and shows that literals are read by these rules and by no others.

Main definitions:

* `HookBridge.Json.WritesUnit`, `HookBridge.Json.Content` — what may stand between two quotes, and
  the pieces that it is made of;
* `HookBridge.Json.utf16`, `HookBridge.Json.MakeUp` — the bytes that pieces make up;
* `HookBridge.Json.Spells` — the text of a literal, if it has one.

Main results:

* `HookBridge.Json.readLiteral_eq_some_iff` — **a literal is read up to the quote that ends it**;
* `HookBridge.Json.bytesOnto?_eq_some_iff` — pieces are put together to what they make up;
* `HookBridge.Json.text?_eq_some_iff` — and to the text whose bytes these are.
-/

import HookBridge.Json.Token
import HookBridge.Proofs.Text.Spelling
import Mathlib.Data.Bool.AllAny

set_option relaxedAutoImplicit false
set_option autoImplicit false

namespace HookBridge

namespace Json

/-! ### Contents of literals -/

/-- The short escapes: what follows the backslash, and the byte that both stand for. -/
def shortEscapes : List (UInt8 × UInt8) :=
  [(0x22, 0x22), (0x5C, 0x5C), (0x2F, 0x2F), (0x62, 0x08), (0x66, 0x0C), (0x6E, 0x0A),
   (0x72, 0x0D), (0x74, 0x09)]

/-- `WritesUnit u digits`: the bytes are four hexadecimal digits, small or capital, that write the
unit. -/
def WritesUnit (u : Nat) (digits : Bytes) : Prop :=
  u < 0x10000 ∧ ∃ a b c d, Percent.IsDigit (u / 0x1000) a ∧ Percent.IsDigit (u / 0x100 % 16) b ∧
    Percent.IsDigit (u / 16 % 16) c ∧ Percent.IsDigit (u % 16) d ∧
    digits = [a, b, c, d].flatMap String.utf8EncodeChar

/-- `Content bs pieces`: the bytes may stand between two quotes, and are made of the pieces. -/
inductive Content : Bytes → List Piece → Prop
  | nil : Content [] []
  /-- a byte that is no quote, no backslash and no control character stands for itself -/
  | plain {b : UInt8} {rest : Bytes} {pieces : List Piece}
      (hb : b ≠ 0x22 ∧ b ≠ 0x5C ∧ ¬ b < 0x20) (hrest : Content rest pieces) :
      Content (b :: rest) (.byte b :: pieces)
  /-- a backslash and what may follow it -/
  | short {e b : UInt8} {rest : Bytes} {pieces : List Piece} (he : (e, b) ∈ shortEscapes)
      (hrest : Content rest pieces) : Content (0x5C :: e :: rest) (.byte b :: pieces)
  /-- a backslash, a `u` and the digits of a unit -/
  | long {u : Nat} {digits rest : Bytes} {pieces : List Piece} (hu : WritesUnit u digits)
      (hrest : Content rest pieces) :
      Content (0x5C :: 0x75 :: (digits ++ rest)) (.unit u :: pieces)

/-! ### Digits -/

/-- Two digits write the byte whose halves have their values. -/
theorem byte?_eq_some_iff {high low b : UInt8} :
    Percent.byte? high low = some b ↔
      Percent.hexValue? high = some (b.toNat / 16) ∧
        Percent.hexValue? low = some (b.toNat % 16) := by
  constructor
  · intro h
    rw [Percent.byte?] at h
    split at h
    · next x y hx hy =>
      have hx' := (Percent.hexValue?_eq_some_iff.1 hx).1
      have hy' := (Percent.hexValue?_eq_some_iff.1 hy).1
      obtain rfl := Option.some.inj h
      rw [hx, hy, UInt8.toNat_ofNat', Option.some.injEq, Option.some.injEq]
      omega
    · exact absurd h (by simp)
  · rintro ⟨hhigh, hlow⟩
    exact Percent.byte?_of_values hhigh hlow

/-- **Four digits name the unit that they write.** -/
theorem unit?_eq_some_iff {a b c d : UInt8} {u : Nat} :
    unit? a b c d = some u ↔ WritesUnit u [a, b, c, d] := by
  constructor
  · intro h
    rw [unit?] at h
    split at h
    · next high low hhigh hlow =>
      obtain rfl := Option.some.inj h
      have hhigh' := high.toNat_lt
      have hlow' := low.toNat_lt
      obtain ⟨ha, hb⟩ := byte?_eq_some_iff.1 hhigh
      obtain ⟨hc, hd⟩ := byte?_eq_some_iff.1 hlow
      obtain ⟨-, a', ha', hab⟩ := Percent.hexValue?_eq_some_iff.1 ha
      obtain ⟨-, b', hb', hbb⟩ := Percent.hexValue?_eq_some_iff.1 hb
      obtain ⟨-, c', hc', hcb⟩ := Percent.hexValue?_eq_some_iff.1 hc
      obtain ⟨-, d', hd', hdb⟩ := Percent.hexValue?_eq_some_iff.1 hd
      have h₁ : (256 * high.toNat + low.toNat) / 0x1000 = high.toNat / 16 := by omega
      have h₂ : (256 * high.toNat + low.toNat) / 0x100 % 16 = high.toNat % 16 := by omega
      have h₃ : (256 * high.toNat + low.toNat) / 16 % 16 = low.toNat / 16 := by omega
      have h₄ : (256 * high.toNat + low.toNat) % 16 = low.toNat % 16 := by omega
      refine ⟨by omega, a', b', c', d', by rwa [h₁], by rwa [h₂], by rwa [h₃], by rwa [h₄], ?_⟩
      simp [hab, hbb, hcb, hdb]
    · exact absurd h (by simp)
  · rintro ⟨hu, a', b', c', d', ha', hb', hc', hd', hdigits⟩
    obtain ⟨⟨a'', ha, hav⟩, -⟩ := ha'.byte (by omega)
    obtain ⟨⟨b'', hb, hbv⟩, -⟩ := hb'.byte (by omega)
    obtain ⟨⟨c'', hc, hcv⟩, -⟩ := hc'.byte (by omega)
    obtain ⟨⟨d'', hd, hdv⟩, -⟩ := hd'.byte (by omega)
    simp only [List.flatMap_cons, List.flatMap_nil, ha, hb, hc, hd, List.append_nil,
      List.cons_append, List.nil_append, List.cons.injEq, and_true] at hdigits
    obtain ⟨rfl, rfl, rfl, rfl⟩ := hdigits
    have hhigh : Percent.byte? a b = some (UInt8.ofNat (u / 256)) := by
      rw [byte?_eq_some_iff, UInt8.toNat_ofNat', hav, hbv, Option.some.injEq, Option.some.injEq]
      omega
    have hlow : Percent.byte? c d = some (UInt8.ofNat (u % 256)) := by
      rw [byte?_eq_some_iff, UInt8.toNat_ofNat', hcv, hdv, Option.some.injEq, Option.some.injEq]
      omega
    simp only [unit?, hhigh, hlow, UInt8.toNat_ofNat', Option.some.injEq]
    omega

/-- The digits of a unit are four bytes. -/
theorem WritesUnit.exists_bytes {u : Nat} {digits : Bytes} (h : WritesUnit u digits) :
    ∃ a b c d, digits = [a, b, c, d] ∧ unit? a b c d = some u := by
  obtain ⟨hu, a', b', c', d', ha', hb', hc', hd', rfl⟩ := h
  obtain ⟨⟨a, ha, -⟩, -⟩ := ha'.byte (by omega)
  obtain ⟨⟨b, hb, -⟩, -⟩ := hb'.byte (by omega)
  obtain ⟨⟨c, hc, -⟩, -⟩ := hc'.byte (by omega)
  obtain ⟨⟨d, hd, -⟩, -⟩ := hd'.byte (by omega)
  have hdigits : [a', b', c', d'].flatMap String.utf8EncodeChar = [a, b, c, d] := by
    simp [ha, hb, hc, hd]
  exact ⟨a, b, c, d, hdigits,
    unit?_eq_some_iff.2 ⟨hu, a', b', c', d', ha', hb', hc', hd', hdigits.symm⟩⟩

theorem shortEscape?_eq_some_iff {e b : UInt8} :
    shortEscape? e = some b ↔ (e, b) ∈ shortEscapes := by
  have hread : ∀ e, ∀ b ∈ shortEscape? e, (e, b) ∈ shortEscapes := Percent.forall_byte (by decide +kernel)
  have hlisted : ∀ entry ∈ shortEscapes, shortEscape? entry.1 = some entry.2 :=
    List.all_iff_forall_prop.1 (by decide)
  exact ⟨hread e b, hlisted (e, b)⟩

/-! ### Reading contents -/

theorem Content.readLiteral {content : Bytes} {pieces : List Piece} (h : Content content pieces)
    (done : List Piece) (rest : Bytes) :
    Json.readLiteral done (content ++ 0x22 :: rest) = some (done.reverse ++ pieces, rest) := by
  induction h generalizing done with
  | nil =>
      rw [List.nil_append, readLiteral.eq_def]
      simp
  | @plain b content pieces hb _ ih =>
      obtain ⟨hquote, hescape, hcontrol⟩ := hb
      rw [List.cons_append, readLiteral.eq_def]
      simp only [if_neg hquote, if_neg hescape, if_neg hcontrol]
      rw [ih, List.reverse_cons, List.append_assoc, List.singleton_append]
  | @short e b content pieces he _ ih =>
      have hvalue := shortEscape?_eq_some_iff.2 he
      have hletter : e ≠ 0x75 := by
        rintro rfl
        have hnone : shortEscape? 0x75 = none := by decide
        exact absurd (hnone.symm.trans hvalue) (by simp)
      rw [List.cons_append, List.cons_append, readLiteral.eq_def]
      simp only [if_neg (by decide : ¬ (0x5C : UInt8) = 0x22), if_true, if_neg hletter, hvalue]
      rw [ih, List.reverse_cons, List.append_assoc, List.singleton_append]
  | @long u digits content pieces hu _ ih =>
      obtain ⟨a, b, c, d, rfl, hunit⟩ := hu.exists_bytes
      rw [List.cons_append, List.cons_append, readLiteral.eq_def]
      simp only [if_neg (by decide : ¬ (0x5C : UInt8) = 0x22), if_true, List.cons_append,
        List.nil_append, hunit]
      rw [ih, List.reverse_cons, List.append_assoc, List.singleton_append]

theorem content_of_readLiteral {done pieces : List Piece} {bs rest : Bytes}
    (h : readLiteral done bs = some (pieces, rest)) :
    ∃ content pieces', Content content pieces' ∧ bs = content ++ 0x22 :: rest ∧
      pieces = done.reverse ++ pieces' := by
  fun_induction readLiteral done bs with
  | case2 done bs =>
      obtain ⟨rfl, rfl⟩ := Prod.mk.inj (Option.some.inj h)
      exact ⟨[], [], .nil, rfl, (List.append_nil _).symm⟩
  | case4 done a b c d bs u hunit hquote ih =>
      obtain ⟨content, pieces', hcontent, rfl, rfl⟩ := ih h
      exact ⟨_, _, .long (unit?_eq_some_iff.1 hunit) hcontent, rfl, by simp⟩
  | case7 done e bs hletter b he hquote ih =>
      obtain ⟨content, pieces', hcontent, rfl, rfl⟩ := ih h
      exact ⟨_, _, .short (shortEscape?_eq_some_iff.1 he) hcontent, rfl, by simp⟩
  | case10 done b bs hquote hescape hcontrol ih =>
      obtain ⟨content, pieces', hcontent, rfl, rfl⟩ := ih h
      exact ⟨_, _, .plain ⟨hquote, hescape, hcontrol⟩ hcontent, rfl, by simp⟩
  | _ => exact absurd h (by simp)

/-- **A literal is read up to the quote that ends it**, into the pieces of its content. -/
theorem readLiteral_eq_some_iff {pieces : List Piece} {bs rest : Bytes} :
    readLiteral [] bs = some (pieces, rest) ↔
      ∃ content, Content content pieces ∧ bs = content ++ 0x22 :: rest := by
  constructor
  · intro h
    obtain ⟨content, pieces', hcontent, hbs, rfl⟩ := content_of_readLiteral h
    exact ⟨content, hcontent, hbs⟩
  · rintro ⟨content, hcontent, rfl⟩
    exact hcontent.readLiteral [] rest

/-! ### What pieces make up -/

/-- The 16-bit units of a character: its number, or a surrogate pair. -/
def utf16 (c : Char) : List Nat :=
  if c.toNat < 0x10000 then [c.toNat]
  else [0xD800 + (c.toNat - 0x10000) / 0x400, 0xDC00 + (c.toNat - 0x10000) % 0x400]

/-- `MakeUp pieces bs`: the pieces make up the bytes.  Units do so by whole characters. -/
inductive MakeUp : List Piece → Bytes → Prop
  | nil : MakeUp [] []
  | byte (b : UInt8) {pieces : List Piece} {bs : Bytes} (hrest : MakeUp pieces bs) :
      MakeUp (.byte b :: pieces) (b :: bs)
  | char (c : Char) {pieces : List Piece} {bs : Bytes} (hrest : MakeUp pieces bs) :
      MakeUp ((utf16 c).map .unit ++ pieces) (String.utf8EncodeChar c ++ bs)

theorem toNat_ofNat {n : Nat} (h : n.isValidChar) : (Char.ofNat n).toNat = n := by
  rw [Char.ofNat, dif_pos h]
  rfl

/-- The units of a character are put together to this character. -/
theorem bytesOnto?_char (c : Char) (done : Bytes) (rest : List Piece) :
    Piece.bytesOnto? done ((utf16 c).map .unit ++ rest) =
      Piece.bytesOnto? ((String.utf8EncodeChar c).reverse ++ done) rest := by
  have hvalid : c.toNat < 0xD800 ∨ 0xDFFF < c.toNat ∧ c.toNat < 0x110000 := c.valid
  rw [utf16]
  split
  · have hhigh : isHighUnit c.toNat = false := by simp [isHighUnit]; omega
    have hlow : isLowUnit c.toNat = false := by simp [isLowUnit]; omega
    rw [List.map_singleton, List.singleton_append, Piece.bytesOnto?.eq_def]
    simp [hhigh, hlow]
  · have hhigh : isHighUnit (0xD800 + (c.toNat - 0x10000) / 0x400) = true := by
      simp [isHighUnit]; omega
    have hlow : isLowUnit (0xDC00 + (c.toNat - 0x10000) % 0x400) = true := by
      simp [isLowUnit]; omega
    have hpair : pairedChar (0xD800 + (c.toNat - 0x10000) / 0x400)
        (0xDC00 + (c.toNat - 0x10000) % 0x400) = c := by
      have hnumber : 0x10000 + (0xD800 + (c.toNat - 0x10000) / 0x400 - 0xD800) * 0x400 +
          (0xDC00 + (c.toNat - 0x10000) % 0x400 - 0xDC00) = c.toNat := by omega
      rw [pairedChar, hnumber, Char.ofNat_toNat]
    rw [List.map_cons, List.map_singleton, List.cons_append, List.singleton_append,
      Piece.bytesOnto?.eq_def]
    simp only [hhigh, hlow, hpair, if_true]

theorem MakeUp.bytesOnto? {pieces : List Piece} {bs : Bytes} (h : MakeUp pieces bs)
    (done : Bytes) : Piece.bytesOnto? done pieces = some (done.reverse ++ bs) := by
  induction h generalizing done with
  | nil => rw [Piece.bytesOnto?, List.append_nil]
  | byte b _ ih =>
      rw [Piece.bytesOnto?, ih, List.reverse_cons, List.append_assoc, List.singleton_append]
  | char c _ ih =>
      rw [bytesOnto?_char, ih, List.reverse_append, List.reverse_reverse, List.append_assoc]

/-- Every unit is one of 16 bits. -/
def Narrow (pieces : List Piece) : Prop := ∀ u, Piece.unit u ∈ pieces → u < 0x10000

theorem Narrow.tail {piece : Piece} {pieces : List Piece} (h : Narrow (piece :: pieces)) :
    Narrow pieces := fun u hu => h u (List.mem_cons_of_mem _ hu)

theorem Content.narrow {content : Bytes} {pieces : List Piece} (h : Content content pieces) :
    Narrow pieces := by
  induction h with
  | nil => simp [Narrow]
  | plain _ _ ih => simpa [Narrow] using ih
  | short _ _ ih => simpa [Narrow] using ih
  | long hu _ ih =>
      intro v hv
      rcases List.mem_cons.1 hv with heq | hv
      · obtain rfl := Piece.unit.inj heq
        exact hu.1
      · exact ih v hv

theorem makeUp_of_bytesOnto? {done out : Bytes} {pieces : List Piece} (hnarrow : Narrow pieces)
    (h : Piece.bytesOnto? done pieces = some out) :
    ∃ bs, MakeUp pieces bs ∧ out = done.reverse ++ bs := by
  fun_induction Piece.bytesOnto? done pieces with
  | case1 done => exact ⟨[], .nil, by rw [← Option.some.inj h, List.append_nil]⟩
  | case2 done b pieces ih =>
      obtain ⟨bs, hbs, rfl⟩ := ih hnarrow.tail h
      exact ⟨_, .byte b hbs, by simp⟩
  | case3 done u hhigh low pieces hlow ih =>
      obtain ⟨bs, hbs, hout⟩ := ih hnarrow.tail.tail h
      simp only [isHighUnit, isLowUnit, Bool.and_eq_true, decide_eq_true_eq] at hhigh hlow
      -- both units together are the number of a character beyond those of one unit
      have hvalid : (0x10000 + (u - 0xD800) * 0x400 + (low - 0xDC00)).isValidChar := by
        unfold Nat.isValidChar
        omega
      have hnumber : (pairedChar u low).toNat =
          0x10000 + (u - 0xD800) * 0x400 + (low - 0xDC00) := by
        rw [pairedChar, toNat_ofNat hvalid]
      have hunits : utf16 (pairedChar u low) = [u, low] := by
        rw [utf16, if_neg (by omega), hnumber]
        simp only [List.cons.injEq, and_true]
        omega
      exact ⟨_, hunits ▸ MakeUp.char (pairedChar u low) hbs, by simp [hout]⟩
  | case7 done u pieces hhigh hlow ih =>
      obtain ⟨bs, hbs, rfl⟩ := ih hnarrow.tail h
      have hwidth := hnarrow u (List.mem_cons_self ..)
      simp only [isHighUnit, isLowUnit, Bool.and_eq_true, decide_eq_true_eq] at hhigh hlow
      have hnumber : (Char.ofNat u).toNat = u := by
        refine toNat_ofNat ?_
        rcases Nat.lt_or_ge u 0xD800 with hu | hu
        · exact Or.inl hu
        · exact Or.inr ⟨by omega, by omega⟩
      have hunits : utf16 (Char.ofNat u) = [u] := by
        rw [utf16, hnumber, if_pos hwidth]
      exact ⟨_, hunits ▸ MakeUp.char (Char.ofNat u) hbs, by simp⟩
  | _ => exact absurd h (by simp)

/-- **Pieces are put together to what they make up**, if they make up anything. -/
theorem bytesOnto?_eq_some_iff {pieces : List Piece} (hnarrow : Narrow pieces) {bs : Bytes} :
    Piece.bytesOnto? [] pieces = some bs ↔ MakeUp pieces bs := by
  constructor
  · intro h
    obtain ⟨bs', hbs, rfl⟩ := makeUp_of_bytesOnto? hnarrow h
    exact hbs
  · intro h
    exact h.bytesOnto? []

/-- `Spells content text`: the content of a literal spells the text, or none at all if what its
pieces make up are not the bytes of one. -/
def Spells (content : Bytes) (text : Option String) : Prop :=
  ∃ pieces, Content content pieces ∧ ∀ s, text = some s ↔ MakeUp pieces (Utf8.encode s)

theorem text?_eq_some_iff {pieces : List Piece} (hnarrow : Narrow pieces) {s : String} :
    Piece.text? pieces = some s ↔ MakeUp pieces (Utf8.encode s) := by
  rw [← bytesOnto?_eq_some_iff hnarrow, Piece.text?]
  cases hbytes : Piece.bytesOnto? [] pieces with
  | none => simp
  | some bs => simp [Utf8.decode?_eq_some_iff]

/-- **The content of a literal spells the text of its pieces.** -/
theorem spells_iff {content : Bytes} {text : Option String} :
    Spells content text ↔ ∃ pieces, Content content pieces ∧ Piece.text? pieces = text := by
  refine exists_congr fun pieces => and_congr_right fun hcontent => ?_
  constructor
  · intro h
    refine Option.ext fun s => ?_
    rw [text?_eq_some_iff hcontent.narrow, h s]
  · rintro rfl s
    exact text?_eq_some_iff hcontent.narrow

end Json

end HookBridge
