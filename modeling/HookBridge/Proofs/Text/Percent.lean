/-
**Percent escapes in one pass.**

`Percent.unescape?` goes over its text three times.  This module shows that the passes do not get in
each other's way: together they are one pass from the left, in which every byte is looked at once.
The `+` that the second pass rewrites is no hexadecimal digit and neither is the space that it
becomes, so the second pass makes no escape and breaks none.

Main definitions:

* `HookBridge.Percent.HasBrokenEscape` — some `%` is not followed by two hexadecimal digits;
* `HookBridge.Percent.onePass` — escapes and `+` replaced in one pass from the left.

Main results:

* `HookBridge.Percent.complete_iff` — the first pass refuses exactly the broken escapes;
* `HookBridge.Percent.decode_spaced` — **the other two passes are one pass**;
* `HookBridge.Percent.unescape?_eq_ok_iff`, `HookBridge.Percent.unescape?_eq_error_iff` — what is
  read, and what is refused for which reason.
-/

import HookBridge.Text.Percent

set_option relaxedAutoImplicit false
set_option autoImplicit false

namespace HookBridge

namespace Percent

/-! ### Escapes -/

/-- Some `%` of the bytes is not followed by two hexadecimal digits. -/
def HasBrokenEscape (bs : Bytes) : Prop :=
  ∃ before after, bs = before ++ sign :: after ∧
    ∀ high low rest, after = high :: low :: rest → byte? high low = none

/-- Every `+` becomes a space, every `%` with two hexadecimal digits becomes the byte that they
write, and every other byte stays: one pass from the left. -/
def onePass : Bytes → Bytes
  | [] => []
  | b :: rest =>
      if b = plus then space :: onePass rest
      else if b = sign then
        match rest with
        | high :: low :: after =>
            match byte? high low with
            | some x => x :: onePass after
            | none => sign :: onePass (high :: low :: after)
        | short => sign :: onePass short
      else b :: onePass rest

theorem sign_ne_plus : sign ≠ plus := by decide

/-- A space for a `+` neither adds a hexadecimal digit nor takes one away. -/
theorem hexValue?_spaced (b : UInt8) : hexValue? (if b = plus then space else b) = hexValue? b := by
  by_cases h : b = plus
  · subst h
    decide
  · rw [if_neg h]

theorem byte?_spaced (high low : UInt8) :
    byte? (if high = plus then space else high) (if low = plus then space else low)
      = byte? high low := by
  simp only [byte?, hexValue?_spaced]

/-- Nothing that is no digit is the first digit of a byte. -/
theorem byte?_of_high {high : UInt8} (h : hexValue? high = none) (low : UInt8) :
    byte? high low = none := by
  simp [byte?, h]

/-- Nothing that is no digit is the second digit of a byte. -/
theorem byte?_of_low (high : UInt8) {low : UInt8} (h : hexValue? low = none) :
    byte? high low = none := by
  cases hhigh : hexValue? high <;> simp [byte?, h, hhigh]

/-- What is no digit is none of the digits of a byte. -/
theorem ne_of_byte? {high low b d : UInt8} (h : byte? high low = some b)
    (hd : hexValue? d = none) : high ≠ d ∧ low ≠ d := by
  constructor
  · rintro rfl
    rw [byte?_of_high hd] at h
    exact absurd h (by simp)
  · rintro rfl
    rw [byte?_of_low high hd] at h
    exact absurd h (by simp)

/-! ### The first pass -/

@[simp] theorem complete_nil : complete [] = true := rfl

theorem complete_cons_of_ne {b : UInt8} (h : b ≠ sign) (rest : Bytes) :
    complete (b :: rest) = complete rest := by
  simp [complete, h]

/-- A broken escape begins with the first byte or later. -/
theorem hasBrokenEscape_cons (b : UInt8) (rest : Bytes) :
    HasBrokenEscape (b :: rest) ↔
      (b = sign ∧ ∀ high low after, rest = high :: low :: after → byte? high low = none) ∨
        HasBrokenEscape rest := by
  constructor
  · rintro ⟨before, after, heq, hnone⟩
    cases before with
    | nil =>
        obtain ⟨rfl, rfl⟩ := List.cons.inj heq
        exact Or.inl ⟨rfl, hnone⟩
    | cons c before =>
        obtain ⟨-, rfl⟩ := List.cons.inj heq
        exact Or.inr ⟨before, after, rfl, hnone⟩
  · rintro (⟨rfl, hnone⟩ | ⟨before, after, rfl, hnone⟩)
    · exact ⟨[], rest, rfl, hnone⟩
    · exact ⟨b :: before, after, rfl, hnone⟩

/-- What the first pass wants of a `%`. -/
theorem complete_sign (rest : Bytes) :
    complete (sign :: rest) = true ↔
      ¬ (∀ high low after, rest = high :: low :: after → byte? high low = none) ∧
        complete rest = true := by
  rcases rest with _ | ⟨high, _ | ⟨low, after⟩⟩
  · simp [complete]
  · simp [complete]
  · rw [complete, Bool.and_eq_true]
    refine and_congr_left fun _ => ?_
    cases hx : byte? high low <;> simp [hx]

/-- **The first pass refuses exactly the broken escapes.** -/
theorem complete_iff (bs : Bytes) : complete bs = true ↔ ¬ HasBrokenEscape bs := by
  induction bs with
  | nil => simp [HasBrokenEscape]
  | cons b rest ih =>
      rw [hasBrokenEscape_cons, not_or, ← ih]
      by_cases hb : b = sign
      · subst hb
        rw [complete_sign]
        simp
      · rw [complete_cons_of_ne hb]
        simp [hb]

/-! ### The other two passes -/

theorem decode_cons_of_ne {b : UInt8} (h : b ≠ sign) (rest : Bytes) :
    decode (b :: rest) = b :: decode rest := by
  match rest with
  | [] => rfl
  | [c] => rfl
  | high :: low :: after => rw [decode, if_neg h]

theorem decode_escape {high low x : UInt8} (h : byte? high low = some x) (rest : Bytes) :
    decode (sign :: high :: low :: rest) = x :: decode rest := by
  simp [decode, h]

theorem decode_broken {high low : UInt8} (h : byte? high low = none) (rest : Bytes) :
    decode (sign :: high :: low :: rest) = sign :: decode (high :: low :: rest) := by
  rw [decode, if_pos rfl, h]

@[simp] theorem spaced_cons (b : UInt8) (rest : Bytes) :
    spaced (b :: rest) = (if b = plus then space else b) :: spaced rest := rfl

/-- **The other two passes are one pass.** -/
theorem decode_spaced (bs : Bytes) : decode (spaced bs) = onePass bs := by
  -- along the one pass: what it looks at next is what the two passes look at next
  fun_induction onePass bs with
  | case1 => rfl
  | case2 rest ih =>
      rw [spaced_cons, if_pos rfl, decode_cons_of_ne (by decide), ih]
  | case3 high low rest x hx hplus ih =>
      rw [spaced_cons, if_neg sign_ne_plus, spaced_cons, spaced_cons,
        decode_escape (by rw [byte?_spaced, hx]), ih]
  | case4 high low rest hx hplus ih =>
      rw [spaced_cons, if_neg sign_ne_plus, spaced_cons, spaced_cons,
        decode_broken (by rw [byte?_spaced, hx]), ← spaced_cons, ← spaced_cons, ih]
  | case5 rest hshort hplus ih =>
      rw [spaced_cons, if_neg sign_ne_plus, ← ih]
      match rest with
      | [] => rfl
      | [c] => rfl
      | high :: low :: after => exact absurd rfl (hshort high low after)
  | case6 b rest hplus hsign ih =>
      rw [spaced_cons, if_neg hplus, decode_cons_of_ne hsign, ih]

/-! ### All passes -/

/-- What is read: the text that the bytes of the one pass spell. -/
theorem unescape?_eq_ok_iff (raw text : String) :
    unescape? raw = .ok text ↔
      ¬ HasBrokenEscape (Utf8.encode raw) ∧
        Utf8.decode? (onePass (Utf8.encode raw)) = some text := by
  rw [← complete_iff, ← decode_spaced, unescape?]
  by_cases hc : complete (Utf8.encode raw) = true
  · simp only [hc, if_true, true_and]
    cases Utf8.decode? (decode (spaced (Utf8.encode raw))) <;> simp
  · simp [hc]

/-- What is refused: first of all a broken escape, and then what is no text. -/
theorem unescape?_eq_error_iff (raw : String) (fault : Fault) :
    unescape? raw = .error fault ↔
      (HasBrokenEscape (Utf8.encode raw) ∧ fault = .brokenEscape) ∨
        (¬ HasBrokenEscape (Utf8.encode raw) ∧
          Utf8.decode? (onePass (Utf8.encode raw)) = none ∧ fault = .notText) := by
  have hbroken : HasBrokenEscape (Utf8.encode raw) ↔ ¬ complete (Utf8.encode raw) = true := by
    rw [complete_iff, Classical.not_not]
  rw [hbroken, ← decode_spaced, unescape?]
  by_cases hc : complete (Utf8.encode raw) = true
  · simp only [hc, if_true]
    cases Utf8.decode? (decode (spaced (Utf8.encode raw))) <;> simp [eq_comm]
  · simp [hc, eq_comm]

end Percent

end HookBridge
