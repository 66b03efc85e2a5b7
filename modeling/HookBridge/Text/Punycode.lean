/-
**Punycode.**

A text in any characters, written in letters, digits and hyphens: its ASCII characters come first,
and behind the last hyphen stand the others, in the order of their code points, each as the distance
from the one before it.  A distance counts code points and places in the text together, and is
written in digits of base 36 whose thresholds adapt to the distances so far.

Main definitions:

* `HookBridge.Punycode.digit?`, `HookBridge.Punycode.threshold`, `HookBridge.Punycode.adapt` —
  digits and their weights;
* `HookBridge.Punycode.Decoder`, `HookBridge.Punycode.Decoder.take?` — what has been read so far, and
  one more digit;
* `HookBridge.Punycode.decode?` — the text that is written so.
-/

set_option relaxedAutoImplicit false
set_option autoImplicit false

namespace HookBridge

namespace Punycode

/-- The value of a digit. -/
def digit? (c : Char) : Option Nat :=
  if c.isAlpha then some (c.toLower.toNat - 97)
  else if c.isDigit then some (c.toNat - 48 + 26)
  else none

/-- A digit below the threshold of its place is the last of its number. -/
def threshold (bias place : Nat) : Nat :=
  if place ≤ bias then 1 else min 26 (place - bias)

/-- The bias for a distance, `k` places further up for each time it is too large for one. -/
def biasOf (delta k : Nat) : Nat :=
  if 455 < delta then biasOf (delta / 35) (k + 36) else k + 36 * delta / (delta + 38)
termination_by delta
decreasing_by exact Nat.div_lt_self (by omega) (by omega)

/-- The bias behind a distance, where `count` characters have been placed. -/
def adapt (delta count : Nat) (first : Bool) : Nat :=
  let scaled := if first then delta / 700 else delta / 2
  biasOf (scaled + scaled / count) 0

/-- What has been read of the distances. -/
structure Decoder where
  text : List Char
  /-- the code point that is being placed -/
  codePoint : Nat
  /-- where in the text -/
  place : Nat
  bias : Nat
  /-- no character has been placed -/
  first : Bool
  /-- the part of the present distance that has been read -/
  delta : Nat
  /-- the weight of its next digit -/
  weight : Nat
  /-- the place of its next digit -/
  digitPlace : Nat
  deriving DecidableEq, Repr

namespace Decoder

/-- Nothing but the ASCII characters has been read. -/
def start (text : List Char) : Decoder := ⟨text, 128, 0, 72, true, 0, 1, 36⟩

/-- Places a character behind the last digit of its distance. -/
def insert? (d : Decoder) : Option Decoder :=
  let count := d.text.length + 1
  let position := d.place + d.delta
  let codePoint := d.codePoint + position / count
  let place := position % count
  if h : codePoint.isValidChar then
    some ⟨d.text.take place ++ Char.ofNatAux codePoint h :: d.text.drop place, codePoint, place + 1,
      adapt d.delta count d.first, false, 0, 1, 36⟩
  else none

/-- Takes one more digit. -/
def take? (d : Decoder) (c : Char) : Option Decoder :=
  match digit? c with
  | none => none
  | some digit =>
      let t := threshold d.bias d.digitPlace
      let read := { d with delta := d.delta + digit * d.weight }
      if digit < t then read.insert?
      else some { read with weight := d.weight * (36 - t), digitPlace := d.digitPlace + 36 }

end Decoder

/-- The text that is written so. -/
def decode? (cs : List Char) : Option (List Char) :=
  let back := cs.reverse
  let digits := (back.takeWhile (· != '-')).reverse
  let basic := ((back.dropWhile (· != '-')).drop 1).reverse
  if basic.any (128 ≤ ·.toNat) then none
  else
    match digits.foldlM Decoder.take? (.start basic) with
    | some d => if d.digitPlace = 36 then some d.text else none
    | none => none

end Punycode

end HookBridge
