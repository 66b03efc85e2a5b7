/-
**Quoted texts.**

A text between quotation marks, on one line, in which every character can be told apart.

Main definitions:

* `HookBridge.Quoted.escape` — a character between the marks;
* `HookBridge.Quoted.quote` — a text between marks.
-/

import HookBridge.Text.Unseen

set_option relaxedAutoImplicit false
set_option autoImplicit false

namespace HookBridge

namespace Quoted

/-- The code point of a character, in hexadecimal between braces. -/
def codePoint (c : Char) : List Char :=
  ['\\', 'u', '\x7b'] ++ Nat.toDigits 16 c.toNat ++ ['\x7d']

/-- A character between the marks. -/
def escape (c : Char) : List Char :=
  if c = '"' then ['\\', '"']
  else if c = '\\' then ['\\', '\\']
  else if c = '\n' then ['\\', 'n']
  else if c = '\r' then ['\\', 'r']
  else if c = '\t' then ['\\', 't']
  else if c = '\x00' then ['\\', '0']
  else if Unseen.isUnseen c then codePoint c
  else [c]

/-- A text between marks. -/
def quote (s : String) : String := String.ofList ('"' :: s.toList.flatMap escape ++ ['"'])

end Quoted

end HookBridge
