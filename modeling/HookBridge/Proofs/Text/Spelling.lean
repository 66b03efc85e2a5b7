/-
**Spellings with percent escapes.**

Whoever writes a text for `Percent.unescape?` has a choice for every character: it may stand as it
is, or as the escapes of its bytes, with letters of either case for the digits.  Only the characters
that mean something else in such a text have no choice.  This module says which spellings there are,
and that all of them are read alike, wherever they stand.

Main definitions:

* `HookBridge.Percent.Escapes` — the escapes of bytes;
* `HookBridge.Percent.Spells` — a character is written in one of its spellings;
* `HookBridge.Percent.Reads` — bytes are read as others, whatever follows them.

Main results:

* `HookBridge.Percent.Spells.reads` — **every spelling of a character is read as its bytes**;
* `HookBridge.Percent.exists_spells` — every character has a spelling;
* `HookBridge.Percent.Reads.unescape?_eq_ok` — bytes that are read as a text are its escaped form.
-/

import HookBridge.Proofs.Text.Percent

set_option relaxedAutoImplicit false
set_option autoImplicit false

namespace HookBridge

namespace Percent

/-! ### Spellings -/

/-- `Escapes bs text`: the bytes are written as escapes, one behind the other. -/
inductive Escapes : Bytes → List Char → Prop
  | nil : Escapes [] []
  | cons {b : UInt8} {bs : Bytes} {high low : Char} {text : List Char}
      (hhigh : IsDigit (b.toNat / 16) high) (hlow : IsDigit (b.toNat % 16) low)
      (hrest : Escapes bs text) : Escapes (b :: bs) ('%' :: high :: low :: text)

/-- `Spells c text`: the character is written as it is, or as the escapes of its bytes.  A percent
sign, a plus sign and a question mark cannot be written as they are. -/
inductive Spells (c : Char) : List Char → Prop
  | plain (h : c ≠ '%' ∧ c ≠ '+' ∧ c ≠ '?') : Spells c [c]
  | escaped {text : List Char} (h : Escapes (String.utf8EncodeChar c) text) : Spells c text

/-! ### Digits -/

theorem exists_isDigit (n : Nat) : ∃ c, IsDigit n c := ⟨_, Or.inl rfl⟩

/-- The two digits of a byte write this byte. -/
theorem byte?_of_values {b high low : UInt8} (hhigh : hexValue? high = some (b.toNat / 16))
    (hlow : hexValue? low = some (b.toNat % 16)) : byte? high low = some b := by
  simp only [byte?, hhigh, hlow]
  rw [Nat.div_add_mod, UInt8.ofNat_toNat]

/-! ### Reading -/

/-- The bytes `bs` are read as `out` wherever they stand: none of their escapes is broken or reaches
into what follows. -/
structure Reads (bs out : Bytes) : Prop where
  complete : ∀ rest, complete (bs ++ rest) = Percent.complete rest
  onePass : ∀ rest, onePass (bs ++ rest) = out ++ Percent.onePass rest

theorem Reads.nil : Reads [] [] := ⟨fun _ => rfl, fun _ => rfl⟩

theorem Reads.append {bs bs' out out' : Bytes} (h : Reads bs out) (h' : Reads bs' out') :
    Reads (bs ++ bs') (out ++ out') where
  complete := by
    intro rest
    rw [List.append_assoc, h.complete, h'.complete]
  onePass := by
    intro rest
    rw [List.append_assoc, h.onePass, h'.onePass, List.append_assoc]

/-- A byte that means nothing else stands for itself. -/
theorem Reads.plain {b : UInt8} (hsign : b ≠ sign) (hplus : b ≠ plus) : Reads [b] [b] where
  complete := fun rest => complete_cons_of_ne hsign rest
  onePass := by
    intro rest
    rw [List.singleton_append, Percent.onePass.eq_def]
    simp only [if_neg hplus, if_neg hsign, List.singleton_append]

theorem Reads.plains {bs : Bytes} (h : ∀ b ∈ bs, b ≠ sign ∧ b ≠ plus) : Reads bs bs := by
  induction bs with
  | nil => exact Reads.nil
  | cons b bs ih =>
      obtain ⟨hsign, hplus⟩ := h b (List.mem_cons_self ..)
      exact (Reads.plain hsign hplus).append (ih fun d hd => h d (List.mem_cons_of_mem _ hd))

/-- A percent sign with the digits of a byte stands for this byte. -/
theorem Reads.escape {b high low : UInt8} (h : byte? high low = some b) :
    Reads [sign, high, low] [b] where
  complete := by
    intro rest
    obtain ⟨hhigh, hlow⟩ := ne_of_byte? h (by decide : hexValue? sign = none)
    rw [← complete_cons_of_ne hlow rest, ← complete_cons_of_ne hhigh (low :: rest)]
    simp [Percent.complete, h]
  onePass := by
    intro rest
    have hplus : sign ≠ plus := sign_ne_plus
    rw [show [sign, high, low] ++ rest = sign :: high :: low :: rest from rfl,
      Percent.onePass.eq_def]
    simp only [if_neg hplus, if_true, h, List.singleton_append]

/-- Bytes that are read as those of a text are an escaped form of it. -/
theorem Reads.unescape?_eq_ok {raw text : String} (h : Reads (Utf8.encode raw) (Utf8.encode text)) :
    unescape? raw = .ok text := by
  have hcomplete := h.complete []
  have honce := h.onePass []
  rw [List.append_nil] at hcomplete honce
  rw [unescape?_eq_ok_iff, ← complete_iff, honce, hcomplete]
  simp [Percent.onePass]

/-! ### Reading spellings -/

/-- A byte of ASCII in the bytes of a character is the character itself. -/
theorem toNat_eq_of_mem {c : Char} {b : UInt8} (h : b ∈ String.utf8EncodeChar c) (hb : b < 0x80) :
    c.toNat = b.toNat := by
  have hlt : b.toNat < 128 := hb
  have htoNat : c.toNat = c.val.toNat := rfl
  simp only [String.utf8EncodeChar] at h
  split at h
  · rw [List.mem_singleton.1 h, UInt8.toNat_ofNat']
    omega
  · -- in more than one byte every byte has its highest bit set
    exfalso
    split at h
    · simp only [List.mem_cons, List.not_mem_nil, or_false] at h
      rcases h with rfl | rfl <;> simp only [UInt8.toNat_ofNat'] at hlt <;> omega
    · split at h
      · simp only [List.mem_cons, List.not_mem_nil, or_false] at h
        rcases h with rfl | rfl | rfl <;> simp only [UInt8.toNat_ofNat'] at hlt <;> omega
      · simp only [List.mem_cons, List.not_mem_nil, or_false] at h
        rcases h with rfl | rfl | rfl | rfl <;> simp only [UInt8.toNat_ofNat'] at hlt <;> omega

/-- The escapes of bytes are read as these bytes. -/
theorem Escapes.reads {bs : Bytes} {text : List Char} (h : Escapes bs text) :
    Reads (text.flatMap String.utf8EncodeChar) bs := by
  induction h with
  | nil => exact Reads.nil
  | @cons b bs high low text hhigh hlow hrest ih =>
      have hlt : b.toNat < 256 := b.toNat_lt
      obtain ⟨⟨high', hencode, hvalue⟩, -⟩ := hhigh.byte (by omega)
      obtain ⟨⟨low', hencode', hvalue'⟩, -⟩ := hlow.byte (Nat.mod_lt _ (by omega))
      have hsign : String.utf8EncodeChar '%' = [sign] := by decide
      have hescape := Reads.escape (byte?_of_values hvalue hvalue')
      simpa [hsign, hencode, hencode'] using hescape.append ih

/-- **Every spelling of a character is read as its bytes.** -/
theorem Spells.reads {c : Char} {text : List Char} (h : Spells c text) :
    Reads (text.flatMap String.utf8EncodeChar) (String.utf8EncodeChar c) := by
  cases h with
  | plain h =>
      obtain ⟨hsign, hplus, -⟩ := h
      rw [List.flatMap_singleton]
      refine Reads.plains fun b hb => ⟨?_, ?_⟩
      · rintro rfl
        exact hsign (Char.toNat_inj.1 (toNat_eq_of_mem hb (by decide)))
      · rintro rfl
        exact hplus (Char.toNat_inj.1 (toNat_eq_of_mem hb (by decide)))
  | escaped h => exact h.reads

/-! ### Question marks -/

theorem Escapes.no_mark {bs : Bytes} {text : List Char} (h : Escapes bs text) : '?' ∉ text := by
  induction h with
  | nil => simp
  | @cons b bs high low text hhigh hlow hrest ih =>
      have hlt : b.toNat < 256 := b.toNat_lt
      have hhigh' := (hhigh.byte (by omega)).2
      have hlow' := (hlow.byte (Nat.mod_lt _ (by omega))).2
      simp [hhigh'.symm, hlow'.symm, ih]

/-- No spelling holds a question mark. -/
theorem Spells.no_mark {c : Char} {text : List Char} (h : Spells c text) : '?' ∉ text := by
  cases h with
  | plain h => simpa using h.2.2.symm
  | escaped h => exact h.no_mark

/-! ### Writing -/

theorem exists_escapes (bs : Bytes) : ∃ text, Escapes bs text := by
  induction bs with
  | nil => exact ⟨[], Escapes.nil⟩
  | cons b bs ih =>
      obtain ⟨high, hhigh⟩ := exists_isDigit (b.toNat / 16)
      obtain ⟨low, hlow⟩ := exists_isDigit (b.toNat % 16)
      obtain ⟨text, htext⟩ := ih
      exact ⟨_, Escapes.cons hhigh hlow htext⟩

/-- Every character has a spelling. -/
theorem exists_spells (c : Char) : ∃ text, Spells c text := by
  obtain ⟨text, h⟩ := exists_escapes (String.utf8EncodeChar c)
  exact ⟨text, Spells.escaped h⟩

end Percent

end HookBridge
