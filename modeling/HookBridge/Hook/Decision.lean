/-
**Deciding hook requests.**

Main definitions:

* `HookBridge.Decision` — what an accepted hook request leads to;
* `HookBridge.HookRequest.decision` — the decision on a hook request.

The checks that need no one else come first: a topic that addresses nothing is refused before the
things service is asked.
-/

import HookBridge.Hook.Basic
import HookBridge.Subtopic

set_option relaxedAutoImplicit false
set_option autoImplicit false

namespace HookBridge

/-- What an accepted hook request leads to. -/
inductive Decision
  /-- the thing may go on -/
  | accepted (thing : String)
  /-- the message is to be handed to the bus -/
  | publish (message : Message)
  deriving DecidableEq, Repr

namespace HookRequest

variable {σ : Type}

/-- A refusal that takes no time and asks no one. -/
def refuse {α : Type} (error : HookError) (s : σ) : Verdict HookError α σ :=
  ⟨.error error, .zero, s⟩

/-- A decision once the things service has spoken. -/
def settle (accept : String → Decision) (v : Verdict AuthError String σ) :
    Verdict HookError Decision σ :=
  v.mapResult fun
    | .ok thing => .ok (accept thing)
    | .error error => .error (.auth error)

/-- The decision on a hook request. -/
def decision (a : Authorizer σ) (r : HookRequest) (s : σ) : Verdict HookError Decision σ :=
  match r with
  | .register password => settle .accepted (a.authenticate password s)
  | .publish username topic payload contentType =>
      match ChannelTopic.parse topic with
      | .error error => refuse (.topic error) s
      | .ok address =>
          match Subtopic.normalize address.path with
          | .error fault => refuse (.topic fault.toError) s
          | .ok subtopic =>
              settle
                (fun thing =>
                  .publish ⟨thing, Message.mqtt, contentType, address.channel, subtopic, payload⟩)
                (a.authorize username address.channel s)
  | .subscribe username topic =>
      match ChannelTopic.parse topic with
      | .error error => refuse (.topic error) s
      | .ok address => settle .accepted (a.authorize username address.channel s)

end HookRequest

end HookBridge
