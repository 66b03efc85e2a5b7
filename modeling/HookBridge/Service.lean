/-
**The running service.**

Main definitions:

* `HookBridge.Settings.bridge` — the bridge that settings describe, over a transport;
* `HookBridge.Service` — a bridge that runs on a network of peers;
* `HookBridge.ServiceError` — why it does not;
* `HookBridge.Service.Event`, `HookBridge.Service.Outcome` — what may happen to it, and what comes
  of it;
* `HookBridge.Service.step`, `HookBridge.Service.run` — one event, and a list of them.
-/

import HookBridge.Http.Reception
import HookBridge.Publisher
import HookBridge.Router
import HookBridge.Settings.Basic
import HookBridge.Things.Client

set_option relaxedAutoImplicit false
set_option autoImplicit false

namespace HookBridge

namespace Settings

/-- The time that the things service is given. -/
def thingsPatience (s : Settings) : Duration := .ofSeconds s.thingsTimeout.toNat

/-- The time that the message bus is given. -/
def publisherPatience (s : Settings) : Duration := .ofSeconds s.publisherTimeout.toNat

variable {σ : Type}

/-- The publisher that settings describe, over a transport. -/
def publisher (s : Settings) (post : Http.Transport σ) : Publisher σ :=
  match s.publisherUrl with
  | some url => (BusClient.mk url s.publisherPatience).publisher post
  | none => Publisher.drop

/-- The bridge that settings describe, over a transport. -/
def bridge (s : Settings) (post : Http.Transport σ) : Bridge σ :=
  ⟨⟨(Things.Client.new s.thingsUrl s.thingsPatience).service post, s.thingsPatience⟩,
    s.publisher post⟩

end Settings

/-- Why a bridge does not run. -/
inductive ServiceError
  /-- the system refuses something -/
  | system (reason : String)
  /-- the things service cannot be used -/
  | things (error : Things.Error)
  /-- the message bus cannot be used -/
  | publish (error : PublishError)
  /-- anything else -/
  | other (reason : String)
  deriving DecidableEq, Repr

/-- The words for a bridge that does not run. -/
def ServiceError.message : ServiceError → String
  | system reason => reason
  | things error => error.message
  | publish error => error.message
  | other reason => reason

/-- A bridge that runs on a network of peers: the bridge, and its state. -/
structure Service where
  bridge : Bridge Http.Network
  state : BridgeState Http.Network

namespace Service

/-- The bridge of the settings begins to run. -/
def start (s : Settings) (net : Http.Network) : Service :=
  ⟨s.bridge Http.Network.post, ⟨net, .running .empty⟩⟩

/-- What may happen to a running bridge. -/
inductive Event
  | request (r : Http.Request)
  /-- it is asked to read its settings again, which it does not do -/
  | hangup

/-- What comes of an event. -/
inductive Outcome
  | response (r : Http.Response)
  /-- it goes on running -/
  | alive
  deriving DecidableEq, Repr

/-- The bridge at the beginning of a step. -/
def next (s : Service) : Service :=
  { s with state := { s.state with outside := s.state.outside.next } }

/-- What a request comes to that is received as it was sent, and the bridge after it. -/
def answer (s : Service) (r : Http.Request) : Http.Response × Service :=
  match r.receive with
  | .error refusal => (.bare refusal.status, s)
  | .ok r =>
      let (response, state) := s.bridge.route r s.state
      (response, { s with state })

/-- What an event comes to, and the bridge after it. -/
def step (s : Service) : Event → Outcome × Service
  | .request r =>
      let (response, s) := s.next.answer r
      (.response response, s)
  | .hangup => (.alive, s.next)

/-- What a step came to, and the network after it. -/
structure Trace where
  outcome : Outcome
  network : Http.Network

/-- A list of events, each with what it came to, and the bridge after all of them. -/
def run (s : Service) : List Event → List Trace × Service
  | [] => ([], s)
  | e :: rest =>
      let (outcome, s) := s.step e
      let (traces, final) := s.run rest
      (⟨outcome, s.state.outside⟩ :: traces, final)

end Service

end HookBridge
