/-
**Escaped texts in parts.**

An escaped text can be cut in front of any byte that is no hexadecimal digit: an escape in front of
the cut is whole or broken there already, and what stands behind the cut cannot mend it.  Bytes of
UTF-8 can be cut at any character of ASCII, whose byte is part of no other character.  So wherever a
character of ASCII that is no digit is written, in whatever spelling, the text in front of it and
the text behind it are read on their own.

Main definitions:

* `HookBridge.Percent.IsMark` — the characters at which an escaped text can be cut.

Main results:

* `HookBridge.Percent.complete_append`, `HookBridge.Percent.onePass_append` — **no escape reaches
  over a cut**;
* `HookBridge.Utf8.decode?_append_cons` — **a character of ASCII parts what is UTF-8**;
* `HookBridge.Percent.unescape?_append_mark` — both sides of a cut are read on their own;
* `HookBridge.Percent.length_onePass` — how much shorter a text becomes by its escapes.
-/

import HookBridge.Proofs.Text.Spelling

set_option relaxedAutoImplicit false
set_option autoImplicit false

namespace HookBridge

/-! ### Cuts of UTF-8 -/

namespace Utf8

variable {c : Char} {b : UInt8}

/-- The byte of a character of ASCII is part of no other character. -/
theorem eq_of_mem_encodeChar (hc : String.utf8EncodeChar c = [b]) (hb : b < 0x80) {d : Char}
    (hd : b ∈ String.utf8EncodeChar d) : d = c := by
  have hmem : b ∈ String.utf8EncodeChar c := by simp [hc]
  exact Char.toNat_inj.1
    ((Percent.toNat_eq_of_mem hd hb).trans (Percent.toNat_eq_of_mem hmem hb).symm)

/-- A character of ASCII stands in a text if its byte stands in the bytes of the text. -/
theorem mem_encode_iff (hc : String.utf8EncodeChar c = [b]) (hb : b < 0x80) (text : String) :
    b ∈ encode text ↔ c ∈ text.toList := by
  rw [encode, List.mem_flatMap]
  constructor
  · rintro ⟨d, hd, hmem⟩
    rwa [← eq_of_mem_encodeChar hc hb hmem]
  · intro h
    exact ⟨c, h, by simp [hc]⟩

/-- A character of ASCII stands where its byte stands. -/
theorem exists_of_flatMap_eq_append_cons (hc : String.utf8EncodeChar c = [b]) (hb : b < 0x80)
    {text : List Char} {front rest : Bytes}
    (h : text.flatMap String.utf8EncodeChar = front ++ b :: rest) :
    ∃ before after, text = before ++ c :: after ∧
      before.flatMap String.utf8EncodeChar = front ∧
      after.flatMap String.utf8EncodeChar = rest := by
  induction text generalizing front with
  | nil => simp at h
  | cons d text ih =>
      rw [List.flatMap_cons] at h
      rcases List.append_eq_append_iff.1 h with ⟨gap, hfront, hrest⟩ | ⟨gap, hchar, hrest⟩
      · obtain ⟨before, after, rfl, hbefore, hafter⟩ := ih hrest
        refine ⟨d :: before, after, rfl, ?_, hafter⟩
        rw [List.flatMap_cons, hbefore, hfront]
      · cases gap with
        | nil =>
            obtain ⟨before, after, rfl, hbefore, hafter⟩ := @ih [] (by simpa using hrest.symm)
            refine ⟨d :: before, after, rfl, ?_, hafter⟩
            rw [List.flatMap_cons, hbefore, hchar, List.append_nil, List.append_nil]
        | cons b' gap =>
            obtain ⟨rfl, hgap⟩ := List.cons.inj hrest
            have hmem : b ∈ String.utf8EncodeChar d := by simp [hchar]
            obtain rfl := eq_of_mem_encodeChar hc hb hmem
            rw [hc] at hchar
            -- the character has no other byte, so nothing stands in front of it
            obtain ⟨rfl, rfl⟩ : front = [] ∧ gap = [] := by
              have hlength := congrArg List.length hchar
              simp only [List.length_append, List.length_cons, List.length_nil] at hlength
              exact ⟨List.length_eq_zero_iff.1 (by omega), List.length_eq_zero_iff.1 (by omega)⟩
            exact ⟨[], text, rfl, rfl, by simpa using hgap.symm⟩

/-- **A character of ASCII parts what is UTF-8**: both sides of it are, or the whole is not. -/
theorem decode?_append_cons (hc : String.utf8EncodeChar c = [b]) (hb : b < 0x80)
    (front rest : Bytes) (text : String) :
    decode? (front ++ b :: rest) = some text ↔
      ∃ before after, decode? front = some before ∧ decode? rest = some after ∧
        text = before ++ String.singleton c ++ after := by
  simp only [decode?_eq_some_iff]
  constructor
  · intro h
    obtain ⟨before, after, htext, hbefore, hafter⟩ := exists_of_flatMap_eq_append_cons hc hb h.symm
    refine ⟨String.ofList before, String.ofList after, ?_, ?_, ?_⟩
    · rw [encode, String.toList_ofList, hbefore]
    · rw [encode, String.toList_ofList, hafter]
    · rw [← String.toList_inj, htext]
      simp
  · rintro ⟨before, after, rfl, rfl, rfl⟩
    simp [encode, hc]

end Utf8

namespace Percent

/-! ### Cuts of escaped texts -/

theorem complete_sign_cons_cons (high low : UInt8) (rest : Bytes) :
    complete (sign :: high :: low :: rest) =
      ((byte? high low).isSome && complete (high :: low :: rest)) := by
  rw [complete, bne_self_eq_false, Bool.false_or]

/-- **No escape reaches over a cut**: what is broken in front of a byte that is no digit stays
broken. -/
theorem complete_append {b : UInt8} (hb : hexValue? b = none) (front rest : Bytes) :
    complete (front ++ b :: rest) = (complete front && complete (b :: rest)) := by
  induction front with
  | nil => rfl
  | cons d front ih =>
      by_cases hd : d = sign
      · subst hd
        match front with
        | [] => cases rest <;> simp [complete, byte?_of_high hb]
        | [high] => simp [complete, byte?_of_low high hb]
        | high :: low :: front =>
            rw [List.cons_append, List.cons_append, List.cons_append, complete_sign_cons_cons,
              complete_sign_cons_cons, Bool.and_assoc, ← ih]
            rfl
      · rw [List.cons_append, complete_cons_of_ne hd, complete_cons_of_ne hd, ih]

theorem onePass_cons_of_ne {b : UInt8} (hplus : b ≠ plus) (hsign : b ≠ sign) (rest : Bytes) :
    onePass (b :: rest) = b :: onePass rest :=
  (Reads.plain hsign hplus).onePass rest

theorem onePass_plus (rest : Bytes) : onePass (plus :: rest) = space :: onePass rest := by
  rw [onePass.eq_def]
  simp only [if_true]

theorem onePass_escape {high low b : UInt8} (h : byte? high low = some b) (rest : Bytes) :
    onePass (sign :: high :: low :: rest) = b :: onePass rest := by
  rw [onePass.eq_def]
  simp only [if_neg sign_ne_plus, if_true, h]

/-- A `%` that begins no escape stays as it is. -/
theorem onePass_sign {rest : Bytes}
    (h : ∀ high low after, rest = high :: low :: after → byte? high low = none) :
    onePass (sign :: rest) = sign :: onePass rest := by
  rw [onePass.eq_def]
  rcases rest with _ | ⟨high, _ | ⟨low, after⟩⟩
  · simp only [if_neg sign_ne_plus, if_true]
  · simp only [if_neg sign_ne_plus, if_true]
  · simp only [if_neg sign_ne_plus, if_true, h high low after rfl]

/-- **No escape reaches over a cut**: both sides of it are read on their own. -/
theorem onePass_append {b : UInt8} (hb : hexValue? b = none) (front rest : Bytes) :
    onePass (front ++ b :: rest) = onePass front ++ onePass (b :: rest) := by
  -- along the one pass over the front, which looks ahead at a `%` only
  fun_induction onePass front with
  | case1 => rfl
  | case2 front ih => rw [List.cons_append, onePass_plus, ih, List.cons_append]
  | case3 high low front x hx hplus ih =>
      rw [List.cons_append, List.cons_append, List.cons_append, onePass_escape hx, ih,
        List.cons_append]
  | case4 high low front hx hplus ih =>
      rw [List.cons_append, onePass_sign, ih, List.cons_append]
      rintro high' low' after heq
      obtain ⟨rfl, hlow⟩ := List.cons.inj heq
      obtain ⟨rfl, -⟩ := List.cons.inj hlow
      exact hx
  | case5 front hshort hplus ih =>
      rw [List.cons_append, onePass_sign, ih, List.cons_append]
      intro high low after heq
      -- with less than two bytes in front of the cut, one of the two that follow is behind it
      rcases front with _ | ⟨d, _ | ⟨e, front⟩⟩
      · obtain ⟨rfl, -⟩ := List.cons.inj heq
        exact byte?_of_high hb low
      · obtain ⟨rfl, hlow⟩ := List.cons.inj heq
        obtain ⟨rfl, -⟩ := List.cons.inj hlow
        exact byte?_of_low _ hb
      · exact absurd rfl (hshort d e front)
  | case6 d front hplus hsign ih =>
      rw [List.cons_append, onePass_cons_of_ne hplus hsign, ih, List.cons_append]

/-! ### Marks -/

/-- The characters at which an escaped text can be cut: they are of ASCII and no hexadecimal
digits. -/
def IsMark (c : Char) : Prop :=
  ∃ b, String.utf8EncodeChar c = [b] ∧ b < 0x80 ∧ hexValue? b = none

/-- No spelling of a mark begins with a digit. -/
theorem Spells.exists_head {c : Char} (hc : IsMark c) {text : List Char} (h : Spells c text) :
    ∃ b bs, text.flatMap String.utf8EncodeChar = b :: bs ∧ hexValue? b = none := by
  obtain ⟨b, hb, -, hdigit⟩ := hc
  cases h with
  | plain => exact ⟨b, [], by simp [hb], hdigit⟩
  | escaped h =>
      rw [hb] at h
      cases h with
      | cons hhigh hlow hrest => exact ⟨sign, _, rfl, by decide⟩

/-- **Both sides of a mark are read on their own**, in whatever spelling it stands between them. -/
theorem unescape?_append_mark {c : Char} (hc : IsMark c) {x : String} (hx : Spells c x.toList)
    (raw raw' text : String) :
    unescape? (raw ++ x ++ raw') = .ok text ↔
      ∃ before after, unescape? raw = .ok before ∧ unescape? raw' = .ok after ∧
        text = before ++ String.singleton c ++ after := by
  obtain ⟨d, ds, hhead, hdigit⟩ := hx.exists_head hc
  obtain ⟨b, hb, hascii, -⟩ := hc
  have hreads : Reads (d :: ds) [b] := by
    rw [← hhead, ← hb]
    exact hx.reads
  have hencode : Utf8.encode (raw ++ x ++ raw') =
      Utf8.encode raw ++ d :: (ds ++ Utf8.encode raw') := by
    rw [Utf8.encode_append, Utf8.encode_append, List.append_assoc, ← List.cons_append, ← hhead]
    rfl
  have hcomplete := hreads.complete (Utf8.encode raw')
  have honce := hreads.onePass (Utf8.encode raw')
  rw [List.cons_append] at hcomplete honce
  simp only [unescape?_eq_ok_iff, ← complete_iff, hencode, complete_append hdigit,
    onePass_append hdigit, hcomplete, honce, Bool.and_eq_true]
  rw [List.singleton_append, Utf8.decode?_append_cons hb hascii]
  constructor
  · rintro ⟨⟨hraw, hraw'⟩, before, after, hbefore, hafter, htext⟩
    exact ⟨before, after, ⟨hraw, hbefore⟩, ⟨hraw', hafter⟩, htext⟩
  · rintro ⟨before, after, ⟨hraw, hbefore⟩, ⟨hraw', hafter⟩, htext⟩
    exact ⟨⟨hraw, hraw'⟩, before, after, hbefore, hafter, htext⟩

/-! ### Lengths -/

/-- Each escape is by two bytes longer than the byte that it writes, and nothing else changes its
length. -/
theorem length_onePass {bs : Bytes} (h : complete bs = true) :
    (onePass bs).length + 2 * bs.count sign = bs.length := by
  fun_induction onePass bs with
  | case1 => rfl
  | case2 rest ih =>
      have hne : plus ≠ sign := sign_ne_plus.symm
      rw [complete_cons_of_ne hne] at h
      have hrest := ih h
      rw [List.count_cons_of_ne hne, List.length_cons, List.length_cons]
      omega
  | case3 high low rest x hx hplus ih =>
      obtain ⟨hhigh, hlow⟩ := ne_of_byte? hx (by decide : hexValue? sign = none)
      rw [complete_sign, complete_cons_of_ne hhigh, complete_cons_of_ne hlow] at h
      have hrest := ih h.2
      rw [List.count_cons_self, List.count_cons_of_ne hhigh, List.count_cons_of_ne hlow]
      simp only [List.length_cons]
      omega
  | case4 high low rest hx hplus ih =>
      refine absurd ?_ ((complete_sign _).1 h).1
      rintro high' low' after heq
      obtain ⟨rfl, hlow⟩ := List.cons.inj heq
      obtain ⟨rfl, -⟩ := List.cons.inj hlow
      exact hx
  | case5 rest hshort hplus ih =>
      refine absurd ?_ ((complete_sign _).1 h).1
      exact fun high low after heq => absurd heq (hshort high low after)
  | case6 b rest hplus hsign ih =>
      rw [complete_cons_of_ne hsign] at h
      have hrest := ih h
      rw [List.count_cons_of_ne hsign, List.length_cons, List.length_cons]
      omega

end Percent

end HookBridge
