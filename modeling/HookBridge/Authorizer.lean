/-
**The authorizer.**

The authorizer turns a credential into the identifier of a thing.  It asks the things service once,
waits no longer than its timeout, and keeps no answer for later.

Main definitions:

* `HookBridge.AuthError` — why a client is turned away;
* `HookBridge.Verdict` — what an authorization came to, the time it took, and the state it left;
* `HookBridge.Authorizer` — a things service with a timeout;
* `HookBridge.Authorizer.authenticate`, `HookBridge.Authorizer.authorize` — who is this, and may it
  use that channel?
-/

import HookBridge.Things.Basic

set_option relaxedAutoImplicit false
set_option autoImplicit false

namespace HookBridge

/-- Why a client is turned away. -/
inductive AuthError
  /-- it gave no credential -/
  | unauthorized
  /-- the things service gave no identifier -/
  | backend (error : Things.Error)
  deriving DecidableEq, Repr

/-- The words for turning a client away. -/
def AuthError.message : AuthError → String
  | .unauthorized => "missing or invalid credentials"
  | .backend error => error.message

/-- What an activity came to, the time it took, and the state that it left. -/
structure Verdict (ε α σ : Type) where
  result : Except ε α
  elapsed : Duration
  state : σ

/-- A verdict under other results. -/
def Verdict.mapResult {ε ε' α β σ : Type} (f : Except ε α → Except ε' β)
    (v : Verdict ε α σ) : Verdict ε' β σ :=
  ⟨f v.result, v.elapsed, v.state⟩

/-- A things service, and how long to wait for it. -/
structure Authorizer (σ : Type) where
  things : Things.Service σ
  timeout : Duration

namespace Authorizer

variable {σ : Type}

/-- The failure of a service that does not answer in time. -/
def overdue (timeout : Duration) : Things.Error :=
  ⟨.deadlineExceeded, "no answer from things service within " ++ timeout.text⟩

/-- The reply of a service as it is seen by someone who waits no longer than `timeout`. -/
def bounded (timeout : Duration) (reply : Things.Reply) :
    Except AuthError String × Duration :=
  if reply.delay ≤ timeout then (reply.result.mapError .backend, reply.delay)
  else (.error (.backend (overdue timeout)), timeout)

/-- Asks the things service once; not at all if there is no credential. -/
def ask (a : Authorizer σ) (credential : String) (call : Things.Call) (s : σ) :
    Verdict AuthError String σ :=
  if credential = "" then ⟨.error .unauthorized, .zero, s⟩
  else
    let (reply, s) := a.things call s
    let (result, elapsed) := bounded a.timeout reply
    ⟨result, elapsed, s⟩

/-- Which thing gives this credential? -/
def authenticate (a : Authorizer σ) (credential : String) (s : σ) :
    Verdict AuthError String σ :=
  a.ask credential (.identify credential) s

/-- Which thing gives this credential, if it may use `channel`? -/
def authorize (a : Authorizer σ) (credential channel : String) (s : σ) :
    Verdict AuthError String σ :=
  a.ask credential (.canAccess credential channel) s

end Authorizer

end HookBridge
