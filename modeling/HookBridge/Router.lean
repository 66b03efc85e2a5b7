/-
**The router.**

Main definitions:

* `HookBridge.Bridge` — an authorizer and a publisher with a common state;
* `HookBridge.Bridge.runHook` — a hook request from its bytes to its outcome;
* `HookBridge.Bridge.answerHook` — the status of a hook request, which is then counted;
* `HookBridge.Bridge.route` — the answer to any request.

The broker reads nothing but the status of a hook's answer, so its body is empty.
-/

import HookBridge.Hook.Body
import HookBridge.Hook.Decision
import HookBridge.Metrics

set_option relaxedAutoImplicit false
set_option autoImplicit false

namespace HookBridge

/-- Whom the bridge asks, and to whom it hands messages. -/
structure Bridge (σ : Type) where
  authorizer : Authorizer σ
  publisher : Publisher σ

/-- The state of a running bridge: that of its surroundings, and its counters. -/
structure BridgeState (σ : Type) where
  outside : σ
  metrics : MetricsWorker

namespace Bridge

variable {σ : Type}

/-! ### Hooks -/

/-- The status of an accepted hook request. -/
def acceptedStatus : Nat := 202

/-- The status of a hook's outcome. -/
def statusOf : Except HookError Unit → Nat
  | .ok () => acceptedStatus
  | .error error => error.status

/-- Hands a message to the publisher if the decision asks for it. -/
def carryOut (b : Bridge σ) (v : Verdict HookError Decision σ) : Verdict HookError Unit σ :=
  match v.result with
  | .error error => ⟨.error error, v.elapsed, v.state⟩
  | .ok (.accepted _) => ⟨.ok (), v.elapsed, v.state⟩
  | .ok (.publish message) =>
      let (result, s) := b.publisher message v.state
      ⟨result.mapError .ofPublish, v.elapsed, s⟩

/-- A hook request from its bytes to its outcome. -/
def runHook (b : Bridge σ) (h : Hook) (headers : Http.Headers) (body : Bytes) (s : σ) :
    Verdict HookError Unit σ :=
  match h.decode headers body with
  | .error error => ⟨.error error, .zero, s⟩
  | .ok request => b.carryOut (request.decision b.authorizer s)

/-- The longest body that is read. -/
def bodyLimit : Nat := 2097152

/-- The answer to a body that cannot be read. -/
def unreadable (status : Nat) (reason : String) : Http.Response :=
  ⟨status, some "text/plain; charset=utf-8", none, "Failed to buffer the request body: " ++ reason⟩

/-- The answer to a body that is too long. -/
def tooLong : Http.Response := unreadable 413 "length limit exceeded"

/-- The answer to a body that breaks off or is not what its header fields say. -/
def broken (fault : Http.Chunked.Fault) : Http.Response :=
  unreadable 400 ("error reading a body from connection: " ++ fault.message)

/-- The answer to a hook request.  Where the body cannot be read there is nothing to decide and
nothing to count. -/
def answerHook (b : Bridge σ) (h : Hook) (r : Http.Request) (s : BridgeState σ) :
    Http.Response × BridgeState σ :=
  if bodyLimit < r.body.length then (tooLong, s)
  else
    match r.fault with
    | some fault => (broken fault, s)
    | none =>
        let v := b.runHook h r.headers r.body s.outside
        let status := statusOf v.result
        (.bare status, ⟨v.state, s.metrics.handled ⟨h, status⟩ v.elapsed⟩)

/-! ### Pages -/

/-- The text of the counters, if the worker gives it. -/
def metricsPage (worker : MetricsWorker) : Http.Response :=
  match worker.snapshot? with
  | some text => ⟨200, some "text/plain; version=0.0.4", none, text⟩
  | none => .bare 500

/-- The version of the bridge. -/
def version : String := "0.1.0"

/-- The version as a page. -/
def versionPage : Http.Response :=
  ⟨200, some "application/json", none, Json.record [("service", "http"), ("version", version)]⟩

/-- A page under a method: it can be read, or its header fields alone. -/
def readPage (method : String) (page : Http.Response) : Http.Response :=
  if method = "GET" then page
  else if method = "HEAD" then { page with body := "" }
  else { Http.Response.bare 405 with allow := some "GET,HEAD" }

/-! ### Routes -/

/-- What stands at a path. -/
inductive Route
  | hook (h : Hook)
  | metrics
  | version
  | nothing
  deriving DecidableEq, Repr

/-- What stands at a path. -/
def routeOf (path : String) : Route :=
  match Hook.ofPath? path with
  | some h => .hook h
  | none =>
      if path = "/metrics" then .metrics
      else if path = "/version" then .version
      else .nothing

/-- The answer to a request, and the state of the bridge after it. -/
def route (b : Bridge σ) (r : Http.Request) (s : BridgeState σ) :
    Http.Response × BridgeState σ :=
  match routeOf r.path with
  | .hook h =>
      if r.method = "POST" then b.answerHook h r s
      else ({ Http.Response.bare 405 with allow := some "POST" }, s)
  | .metrics => (readPage r.method (metricsPage s.metrics), s)
  | .version => (readPage r.method versionPage, s)
  | .nothing => (.bare 404, s)

end Bridge

end HookBridge
