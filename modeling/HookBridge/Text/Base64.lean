/-
**Base64.**

Three bytes are four digits of six bits.  A last group of one or two bytes is written with two or
three digits, the unused low bits zero, and `=` up to the fourth place.  Writing always pads;
reading takes the padding whole, in part or not at all, but neither more of it nor unused bits that
are not zero.

Main definitions:

* `HookBridge.Base64.encode` — the padded text of a byte sequence;
* `HookBridge.Base64.decode?` — the bytes of a text whose padding may be cut short.
-/

import HookBridge.Text.Utf8

set_option relaxedAutoImplicit false
set_option autoImplicit false

namespace HookBridge

namespace Base64

/-! ### Digits -/

/-- The digit of a six-bit value. -/
def digit (n : Nat) : Char :=
  if n < 26 then Char.ofNat (n + 65)
  else if n < 52 then Char.ofNat (n - 26 + 97)
  else if n < 62 then Char.ofNat (n - 52 + 48)
  else if n = 62 then '+'
  else '/'

/-- The six-bit value of a digit. -/
def value? (c : Char) : Option Nat :=
  if 'A' ≤ c ∧ c ≤ 'Z' then some (c.toNat - 65)
  else if 'a' ≤ c ∧ c ≤ 'z' then some (c.toNat - 97 + 26)
  else if '0' ≤ c ∧ c ≤ '9' then some (c.toNat - 48 + 52)
  else if c = '+' then some 62
  else if c = '/' then some 63
  else none

/-! ### Writing -/

/-- The text of `bs` behind what is written already, the latter in reverse. -/
def encodeOnto (done : List Char) : Bytes → List Char
  | [] => done.reverse
  | [a] =>
      let n := a.toNat * 16
      done.reverse ++ [digit (n / 64), digit (n % 64), '=', '=']
  | [a, b] =>
      let n := (a.toNat * 256 + b.toNat) * 4
      done.reverse ++ [digit (n / 4096), digit (n / 64 % 64), digit (n % 64), '=']
  | a :: b :: c :: rest =>
      let n := (a.toNat * 256 + b.toNat) * 256 + c.toNat
      encodeOnto (digit (n % 64) :: digit (n / 64 % 64) :: digit (n / 4096 % 64)
        :: digit (n / 262144) :: done) rest

/-- The padded text of a byte sequence. -/
def encode (bs : Bytes) : String := String.ofList (encodeOnto [] bs)

/-! ### Reading -/

/-- The bytes of six-bit values behind what is read already, the latter in reverse. -/
def unpackOnto (done : Bytes) : List Nat → Option Bytes
  | [] => some done.reverse
  | [_] => none
  | [a, b] =>
      if b % 16 = 0 then some (done.reverse ++ [UInt8.ofNat (a * 4 + b / 16)]) else none
  | [a, b, c] =>
      let n := (a * 64 + b) * 64 + c
      if n % 4 = 0 then some (done.reverse ++ [UInt8.ofNat (n / 1024), UInt8.ofNat (n / 4)])
      else none
  | a :: b :: c :: d :: rest =>
      let n := ((a * 64 + b) * 64 + c) * 64 + d
      unpackOnto (UInt8.ofNat n :: UInt8.ofNat (n / 256) :: UInt8.ofNat (n / 65536) :: done) rest

/-- The padding that belongs to a number of digits. -/
def padding (digits : Nat) : Nat :=
  match digits % 4 with
  | 2 => 2
  | 3 => 1
  | _ => 0

/-- The bytes of a text; its padding may be cut short. -/
def decode? (text : String) : Option Bytes :=
  let digits := text.toList.takeWhile (· != '=')
  let pad := text.toList.dropWhile (· != '=')
  match digits.mapM value? with
  | none => none
  | some values =>
      if pad.all (· == '=') && pad.length ≤ padding values.length then unpackOnto [] values
      else none

end Base64

end HookBridge
