/-
**Percent escapes.**

In the text of a query a space may be written `+`, and any byte as `%` with two hexadecimal
digits.  Reading goes in three passes: every `%` is checked to begin an escape, every `+` becomes
a space, and every escape becomes its byte.

Main definitions:

* `HookBridge.Percent.hexValue?` — the value of a hexadecimal digit;
* `HookBridge.Percent.IsDigit` — the characters of such a digit;
* `HookBridge.Percent.complete` — every `%` is followed by two hexadecimal digits;
* `HookBridge.Percent.spaced` — `+` written as a space;
* `HookBridge.Percent.decode` — escapes replaced by their bytes, all else passed through;
* `HookBridge.Percent.unescape?` — the three passes together;
* `HookBridge.Percent.scan?` — the same reading in a single pass from the left.

Main results:

* `HookBridge.Percent.hexValue?_eq_some_iff` — the bytes that have a value are those of the digits.
-/

import HookBridge.Text.Utf8

set_option relaxedAutoImplicit false
set_option autoImplicit false

namespace HookBridge

namespace Percent

/-! ### Digits -/

/-- The byte of `%`. -/
def sign : UInt8 := 0x25

/-- The byte of `+`. -/
def plus : UInt8 := 0x2B

/-- The byte of a space. -/
def space : UInt8 := 0x20

/-- The value of a hexadecimal digit, of either case. -/
def hexValue? (b : UInt8) : Option Nat :=
  if 0x30 ≤ b ∧ b ≤ 0x39 then some (b.toNat - 0x30)
  else if 0x41 ≤ b ∧ b ≤ 0x46 then some (b.toNat - 0x41 + 10)
  else if 0x61 ≤ b ∧ b ≤ 0x66 then some (b.toNat - 0x61 + 10)
  else none

/-- `IsDigit n c`: the hexadecimal digit of value `n` is written `c`, small or capital. -/
def IsDigit (n : Nat) (c : Char) : Prop := c = Nat.digitChar n ∨ c = (Nat.digitChar n).toUpper

/-- A digit has one byte, whose value is its own, and is no question mark. -/
theorem IsDigit.byte {n : Nat} (hn : n < 16) {c : Char} (h : IsDigit n c) :
    (∃ b, String.utf8EncodeChar c = [b] ∧ hexValue? b = some n) ∧ c ≠ '?' := by
  have hsmall : ∀ n < 16, (String.utf8EncodeChar (Nat.digitChar n)).map hexValue? = [some n] ∧
      Nat.digitChar n ≠ '?' := by decide
  have hcapital : ∀ n < 16,
      (String.utf8EncodeChar (Nat.digitChar n).toUpper).map hexValue? = [some n] ∧
        (Nat.digitChar n).toUpper ≠ '?' := by decide
  obtain ⟨hvalue, hmark⟩ : (String.utf8EncodeChar c).map hexValue? = [some n] ∧ c ≠ '?' := by
    rcases h with rfl | rfl
    · exact hsmall n hn
    · exact hcapital n hn
  obtain ⟨b, hb, hvalue⟩ := List.map_eq_singleton_iff.1 hvalue
  exact ⟨⟨b, hb, hvalue⟩, hmark⟩

/-- There are no more than 256 bytes. -/
theorem forall_byte {P : UInt8 → Prop} (h : ∀ k < 256, P (UInt8.ofNat k)) (b : UInt8) : P b := by
  have hb := h b.toNat b.toNat_lt
  rwa [UInt8.ofNat_toNat] at hb

/-- A byte has the value of the digit that it is, and of no other. -/
theorem hexValue?_eq_some_iff {b : UInt8} {n : Nat} :
    hexValue? b = some n ↔ n < 16 ∧ ∃ c, IsDigit n c ∧ String.utf8EncodeChar c = [b] := by
  constructor
  · have hall : ∀ b, ∀ n ∈ hexValue? b, n < 16 ∧
        (String.utf8EncodeChar (Nat.digitChar n) = [b] ∨
          String.utf8EncodeChar (Nat.digitChar n).toUpper = [b]) := forall_byte (by decide +kernel)
    intro h
    obtain ⟨hn, hc⟩ := hall b n h
    rcases hc with hc | hc
    · exact ⟨hn, _, Or.inl rfl, hc⟩
    · exact ⟨hn, _, Or.inr rfl, hc⟩
  · rintro ⟨hn, c, hc, hb⟩
    obtain ⟨⟨b', hb', hvalue⟩, -⟩ := hc.byte hn
    obtain rfl := List.singleton_inj.1 (hb.symm.trans hb')
    exact hvalue

/-- The byte written by two hexadecimal digits, the high one first. -/
def byte? (high low : UInt8) : Option UInt8 :=
  match hexValue? high, hexValue? low with
  | some h, some l => some (UInt8.ofNat (16 * h + l))
  | _, _ => none

/-! ### The three passes -/

/-- Every `%` is followed by two hexadecimal digits. -/
def complete : Bytes → Bool
  | [] => true
  | b :: rest =>
      (b != sign ||
        match rest with
        | high :: low :: _ => (byte? high low).isSome
        | _ => false)
      && complete rest

/-- Every `+` is a space. -/
def spaced (bs : Bytes) : Bytes := bs.map fun b => if b = plus then space else b

/-- Replaces every escape by its byte.  A `%` that begins no escape stays as it is. -/
def decode : Bytes → Bytes
  | [] => []
  | [b] => [b]
  | [b, c] => [b, c]
  | b :: high :: low :: rest =>
      if b = sign then
        match byte? high low with
        | some x => x :: decode rest
        | none => b :: decode (high :: low :: rest)
      else b :: decode (high :: low :: rest)

/-- What is wrong with an escaped text. -/
inductive Fault
  /-- some `%` is not followed by two hexadecimal digits -/
  | brokenEscape
  /-- the bytes behind the escapes are no UTF-8 -/
  | notText
  deriving DecidableEq, Repr

/-- The text behind `raw`, read in three passes. -/
def unescape? (raw : String) : Except Fault String :=
  let bytes := Utf8.encode raw
  if complete bytes then
    match Utf8.decode? (decode (spaced bytes)) with
    | some text => .ok text
    | none => .error .notText
  else .error .brokenEscape

/-! ### A single pass -/

/-- Reads from the left, turns `+` into a space and an escape into its byte, and stops at a `%`
that begins no escape. -/
def scan? : Bytes → Option Bytes
  | [] => some []
  | b :: rest =>
      if b = sign then
        match rest with
        | high :: low :: rest =>
            match byte? high low with
            | some x => (scan? rest).map (x :: ·)
            | none => none
        | _ => none
      else (scan? rest).map ((if b = plus then space else b) :: ·)

end Percent

end HookBridge
