/-
**Control characters and control sequences.**

A terminal takes control characters as commands, and with them what an escape character begins: a
few characters more, or all up to an end of its own.  A text from outside that is shown among others
goes without any of them.  Line breaks, tabs and form feeds are no commands in this sense.

Main definitions:

* `HookBridge.ControlSequence.State`, `HookBridge.ControlSequence.step` — how far a sequence has come,
  and one more character of it;
* `HookBridge.ControlSequence.strip` — a text without its control characters and sequences.
-/

set_option relaxedAutoImplicit false
set_option autoImplicit false

namespace HookBridge

namespace ControlSequence

/-- How far a control sequence has come. -/
inductive State
  /-- there is none -/
  | text
  /-- behind the escape character -/
  | escape
  /-- behind an escape character and characters that call for one more -/
  | intermediate
  /-- behind `[`, up to a letter -/
  | parameters
  /-- behind `]`, up to a bell or the next escape character -/
  | title
  /-- behind a letter that begins a string, up to the terminator of strings or the next escape
  character -/
  | string
  deriving DecidableEq, Repr

/-- A control character that lays a text out. -/
def isLayout (c : Char) : Bool := c == '\t' || c == '\n' || c == '\x0c' || c == '\r'

/-- The code point of a character is from `low` to `high`. -/
def isWithin (low high : Nat) (c : Char) : Bool := low ≤ c.toNat && c.toNat ≤ high

/-- What follows an escape character and the character `c`. -/
def State.behindEscape (c : Char) : State :=
  if c == '[' then parameters
  else if c == ']' then title
  else if c == 'P' || c == 'X' || c == '^' || c == '_' then string
  else if isWithin 0x20 0x2F c then intermediate
  else if isWithin 0x30 0x7E c then text
  else escape

/-- Takes one more character: how far the sequence has come with it, and whether it is shown.  A
character that lays a text out ends a sequence in which it is no content. -/
def step (s : State) (c : Char) : State × Bool :=
  if c == '\x1b' then (.escape, false)
  else if c == '\x18' || c == '\x1a' then (.text, false)
  else
    match s with
    | .text => (.text, isLayout c || 0x20 ≤ c.toNat && c != '\x7f')
    | .title => (if c == '\x07' then .text else .title, false)
    | .string => (if (String.utf8EncodeChar c).contains 0x9C then .text else .string, false)
    | .escape => if isLayout c then (.text, true) else (.behindEscape c, false)
    | .intermediate =>
        if isLayout c then (.text, true)
        else (if isWithin 0x30 0x7E c then .text else .intermediate, false)
    | .parameters =>
        if isLayout c then (.text, true)
        else (if isWithin 0x40 0x7E c then .text else .parameters, false)

/-- What is shown of the characters that follow. -/
def stripFrom (s : State) : List Char → List Char
  | [] => []
  | c :: rest =>
      let (next, shown) := step s c
      if shown then c :: stripFrom next rest else stripFrom next rest

/-- A text without its control characters and sequences. -/
def strip (text : String) : String := String.ofList (stripFrom .text text.toList)

end ControlSequence

end HookBridge
