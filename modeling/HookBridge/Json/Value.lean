/-
**JSON values and their reading.**

A text is read token by token with the unfinished brackets on a stack, so nesting costs no more
than length.

Main definitions:

* `HookBridge.Json.Value` — a value; strings hold their text if they spell one, numbers are told
  apart from other values but not evaluated;
* `HookBridge.Json.State`, `HookBridge.Json.State.step` — what has been read and what may follow;
* `HookBridge.Json.ofTokens?`, `HookBridge.Json.parse?` — the value of a token list, of a text.
-/

import HookBridge.Json.Token

set_option relaxedAutoImplicit false
set_option autoImplicit false

namespace HookBridge

namespace Json

/-- A JSON value.  Members keep their order, and a key may occur more than once. -/
inductive Value
  | null
  | bool (b : Bool)
  | number
  | str (text : Option String)
  | arr (items : List Value)
  | obj (members : List (Option String × Value))
  deriving Repr, Inhabited

/-! ### Reading -/

/-- A bracket that is still open, with what stands in it so far, last first. -/
inductive Frame
  /-- an array -/
  | items (done : List Value)
  /-- an object, and the key whose value is due -/
  | members (done : List (Option String × Value)) (key : Option String)

/-- What has been read, and with that what may follow.  What stands in a bracket so far is listed
last first. -/
inductive State
  /-- a value is due -/
  | value (stack : List Frame)
  /-- an array has just been opened -/
  | firstItem (stack : List Frame)
  /-- an object has just been opened -/
  | firstKey (stack : List Frame)
  /-- a separator stood in an object -/
  | key (stack : List Frame) (done : List (Option String × Value))
  /-- a key stood in an object -/
  | colon (stack : List Frame) (done : List (Option String × Value)) (key : Option String)
  /-- an item stood in an array -/
  | afterItem (stack : List Frame) (done : List Value)
  /-- a member stood in an object -/
  | afterMember (stack : List Frame) (done : List (Option String × Value))
  /-- the text is complete -/
  | complete (v : Value)

/-- The state once `v` has been read inside the brackets of `stack`. -/
def State.close (v : Value) : List Frame → State
  | [] => .complete v
  | .items done :: stack => .afterItem stack (v :: done)
  | .members done k :: stack => .afterMember stack ((k, v) :: done)

/-- The state once the first token of a value has been read. -/
def State.begin? (stack : List Frame) : Token → Option State
  | .openBrace => some (.firstKey stack)
  | .openBracket => some (.firstItem stack)
  | .null => some (close .null stack)
  | .bool b => some (close (.bool b) stack)
  | .number => some (close .number stack)
  | .str text => some (close (.str text) stack)
  | _ => none

/-- The state after one more token; `none` if the token is out of place. -/
def State.step : State → Token → Option State
  | .value stack, t => begin? stack t
  | .firstItem stack, .closeBracket => some (close (.arr []) stack)
  | .firstItem stack, t => begin? (.items [] :: stack) t
  | .firstKey stack, .closeBrace => some (close (.obj []) stack)
  | .firstKey stack, .str k => some (.colon stack [] k)
  | .key stack done, .str k => some (.colon stack done k)
  | .colon stack done k, .colon => some (.value (.members done k :: stack))
  | .afterItem stack done, .comma => some (.value (.items done :: stack))
  | .afterItem stack done, .closeBracket => some (close (.arr done.reverse) stack)
  | .afterMember stack done, .comma => some (.key stack done)
  | .afterMember stack done, .closeBrace => some (close (.obj done.reverse) stack)
  | _, _ => none

/-- The state after a list of tokens. -/
def State.run (s : State) (ts : List Token) : Option State := ts.foldlM step s

/-- The value of a token list. -/
def ofTokens? (ts : List Token) : Option Value :=
  match State.run (.value []) ts with
  | some (.complete v) => some v
  | _ => none

/-- The value of a text. -/
def parse? (bs : Bytes) : Option Value :=
  match lex? bs with
  | some ts => ofTokens? ts
  | none => none

end Json

end HookBridge
