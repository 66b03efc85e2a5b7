/-
**Records of texts.**

The JSON texts that the bridge reads and writes are records: a fixed list of named fields, each
holding a text.

Main definitions:

* `HookBridge.Json.quote` — a text as a string literal;
* `HookBridge.Json.record` — a record as an object, its fields in the order given;
* `HookBridge.Json.texts?` — the fields of a record, read from an object by name or from an array
  by position.
-/

import HookBridge.Json.Value

set_option relaxedAutoImplicit false
set_option autoImplicit false

namespace HookBridge

namespace Json

/-! ### Writing -/

/-- A hexadecimal digit. -/
def hexDigit (n : Nat) : Char := if n < 10 then Char.ofNat (n + 48) else Char.ofNat (n - 10 + 97)

/-- A character inside a string literal: quotes, backslashes and control characters are escaped,
the latter by their short escape where there is one. -/
def escape (c : Char) : List Char :=
  if c = '"' then ['\\', '"']
  else if c = '\\' then ['\\', '\\']
  else if c = '\x08' then ['\\', 'b']
  else if c = '\x0c' then ['\\', 'f']
  else if c = '\n' then ['\\', 'n']
  else if c = '\r' then ['\\', 'r']
  else if c = '\t' then ['\\', 't']
  else if c.toNat < 32 then
    ['\\', 'u', '0', '0', hexDigit (c.toNat / 16), hexDigit (c.toNat % 16)]
  else [c]

/-- A text as a string literal. -/
def quote (s : String) : List Char := '"' :: s.toList.flatMap escape ++ ['"']

/-- A field of a record: its name, a colon and its text. -/
def field (entry : String × String) : List Char := quote entry.1 ++ ':' :: quote entry.2

/-- A record as an object without blanks. -/
def record (entries : List (String × String)) : String :=
  String.ofList ('{' :: [','].intercalate (entries.map field) ++ ['}'])

/-! ### Reading -/

/-- The values of `name` among the members of an object. -/
def valuesOf (name : String) (members : List (Option String × Value)) : List Value :=
  (members.filter (·.1 == some name)).map (·.2)

/-- A field that holds a text, or is absent. -/
def textOf? : List Value → Option (Option String)
  | [] => some none
  | [.str (some text)] => some (some text)
  | _ => none

/-- The fields of a record: of each name its text, or nothing if the field is absent.

An object gives its members to the fields of their names; members of other names do not count, but
every key has to spell a text, and no field may be given twice.  An array gives its items to the
fields in order and may be shorter than the record, not longer.  Nothing else is a record. -/
def texts? (names : List String) : Value → Option (List (Option String))
  | .obj members =>
      if members.all (·.1.isSome) then names.mapM fun name => textOf? (valuesOf name members)
      else none
  | .arr items =>
      if items.length ≤ names.length then
        (List.range names.length).mapM fun i => textOf? (items[i]?).toList
      else none
  | _ => none

end Json

end HookBridge
