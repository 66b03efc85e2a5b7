/-
**Domain names.**

A domain name may be spelt in many ways.  Letter case does not count, characters that show nothing do
not count, and wide, round or small forms of letters, digits and stops are as good as the plain ones.
A part of a name that begins with `xn--` holds the punycode of characters that are not ASCII.

Main definitions:

* `HookBridge.Http.Domain.plain?` — what stands for a character in a name;
* `HookBridge.Http.Domain.isLabel` — whether a part of a name is one;
* `HookBridge.Http.Domain.normalize?` — the plain form of a name.
-/

import HookBridge.Http.Domain.Table
import HookBridge.Text.Punycode

set_option relaxedAutoImplicit false
set_option autoImplicit false

namespace HookBridge

namespace Http

namespace Domain

/-! ### Characters -/

/-- The code point is in one of several ranges. -/
def isIn (ranges : List (Nat × Nat)) (n : Nat) : Bool :=
  ranges.any fun (first, last) => first ≤ n && n ≤ last

/-- The ASCII text that a character stands for, if it stands for one. -/
def plainForm? (n : Nat) : Option (List Char) :=
  (plainForms.find? fun (first, count, _) => first ≤ n && n < first + count).map
    fun (first, _, text) =>
      match text.toList with
      | [c] => [Char.ofNat (c.toNat + (n - first))]
      | cs => cs

/-- The ASCII characters with no place in a name. -/
def unfitAscii : List Char :=
  [' ', '"', '#', '%', '/', ':', '<', '>', '?', '@', '[', '\\', ']', '^', '\x60', '\x7b', '|',
   '\x7d', '\x7f']

/-- A character that a name may hold as it is. -/
def isFit (c : Char) : Bool :=
  if c.toNat < 128 then 0x20 < c.toNat && !unfitAscii.contains c && !c.isUpper
  else !isIn unfit c.toNat && !isIn ignored c.toNat && (plainForm? c.toNat).isNone

/-- What stands for a character in a name; nothing if it has no place in one. -/
def plain? (c : Char) : Option (List Char) :=
  let cs :=
    if c.toNat < 128 then [c.toLower]
    else if isIn ignored c.toNat then []
    else (plainForm? c.toNat).getD [c]
  if cs.all isFit then some cs else none

/-! ### Names -/

/-- The part of a name does not begin with a mark that needs a character before it. -/
def beginsWell (label : List Char) : Bool :=
  match label with
  | c :: _ => !isIn marks c.toNat
  | [] => true

/-- The fit characters make a part of a name. -/
def isLabel : List Char → Bool
  | 'x' :: 'n' :: '-' :: '-' :: code =>
      match Punycode.decode? code with
      | some text => text.all isFit && text.any (128 ≤ ·.toNat) && beginsWell text
      | none => false
  | label => beginsWell label

/-- The plain form of a name. -/
def normalize? (cs : List Char) : Option (List Char) :=
  match cs.mapM plain? with
  | none => none
  | some parts =>
      let name := parts.flatten
      if !name.isEmpty && (name.splitOnP (· == '.')).all isLabel then some name else none

end Domain

end Http

end HookBridge
