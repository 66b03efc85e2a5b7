/-
**Scripted surroundings.**

A script fixes in advance what the things service answers and which messages are not taken.  Against
a script every run of the bridge is determined, and everything it does to its surroundings can be
read off.

Main definitions:

* `HookBridge.Script` — what the surroundings do;
* `HookBridge.Script.State` — how far the script has been used, and what the current step did;
* `HookBridge.Script.things`, `HookBridge.Script.publisher` — the surroundings of a script;
* `HookBridge.Script.Trace` — what a step came to and what it did;
* `HookBridge.Script.runSteps`, `HookBridge.Script.runRequests` — whole runs.
-/

import HookBridge.Router

set_option relaxedAutoImplicit false
set_option autoImplicit false

namespace HookBridge

/-- What the surroundings do. -/
structure Script where
  /-- the answers of the things service in turn, the last one again and again -/
  replies : List Things.Reply
  /-- for each message in turn why it is not taken, if it is not -/
  refusals : List (Option String)

namespace Script

/-- How far the script has been used, and what the current step did. -/
structure State where
  /-- the number of questions asked -/
  asked : Nat
  /-- the number of messages handed over -/
  handed : Nat
  /-- the questions of the current step, in order -/
  calls : List Things.Call
  /-- the messages of the current step that were taken, in order -/
  published : List Message
  deriving DecidableEq, Repr

/-- Nothing has been used yet. -/
def State.start : State := ⟨0, 0, [], []⟩

/-- A new step begins. -/
def State.next (s : State) : State := { s with calls := [], published := [] }

/-- The answer of a things service of which nothing is known. -/
def defaultReply : Things.Reply := ⟨.ok "u1", .zero⟩

/-- The answer to question number `n`. -/
def reply (script : Script) (n : Nat) : Things.Reply :=
  (script.replies[n]?).getD (script.replies.getLastD defaultReply)

/-- The things service of a script. -/
def things (script : Script) : Things.Service State := fun call s =>
  (script.reply s.asked, { s with asked := s.asked + 1, calls := s.calls ++ [call] })

/-- Why message number `n` is not taken, if it is not. -/
def refusal (script : Script) (n : Nat) : Option String := (script.refusals[n]?).getD none

/-- The publisher of a script. -/
def publisher (script : Script) : Publisher State := fun message s =>
  match script.refusal s.handed with
  | some reason => (.error ⟨reason⟩, { s with handed := s.handed + 1 })
  | none =>
      (.ok (), { s with handed := s.handed + 1, published := s.published ++ [message] })

/-- The authorizer of a script. -/
def authorizer (script : Script) (timeout : Duration) : Authorizer State :=
  ⟨script.things, timeout⟩

/-! ### Runs -/

/-- What a step came to and what it did. -/
structure Trace (β : Type) where
  value : β
  calls : List Things.Call
  published : List Message
  deriving DecidableEq, Repr

/-- A step that came to `value` and left the state `s`. -/
def State.trace {β : Type} (s : State) (value : β) : Trace β := ⟨value, s.calls, s.published⟩

variable {α β : Type}

/-- Runs an activity for each of `inputs` in turn. -/
def runSteps (activity : α → State → β × State) : List α → State → List (Trace β) × State
  | [], s => ([], s)
  | input :: rest, s =>
      let (value, s) := activity input s.next
      let (traces, final) := runSteps activity rest s
      (s.trace value :: traces, final)

/-- Answers each of a list of requests in turn. -/
def runRequests (b : Bridge State) :
    List Http.Request → BridgeState State → List (Trace Http.Response) × BridgeState State
  | [], s => ([], s)
  | request :: rest, s =>
      let (response, s) := b.route request { s with outside := s.outside.next }
      let (traces, final) := runRequests b rest s
      (s.outside.trace response :: traces, final)

/-- What one of the two questions of an authorizer comes to, and the time it takes. -/
def askStep (a : Authorizer State) (call : Things.Call) (s : State) :
    (Except AuthError String × Duration) × State :=
  let v := match call with
    | .identify token => a.authenticate token s
    | .canAccess token channel => a.authorize token channel s
  ((v.result, v.elapsed), v.state)

/-- What a hook request comes to before anything is handed to a publisher. -/
def hookStep (a : Authorizer State) (request : Hook × Http.Headers × Bytes) (s : State) :
    Except HookError Decision × State :=
  let (h, headers, body) := request
  match h.decode headers body with
  | .error error => (.error error, s)
  | .ok r =>
      let v := r.decision a s
      (v.result, v.state)

end Script

end HookBridge
