/-
**Exchanges, and a network of HTTP peers.**

A transport posts JSON texts to addresses.  A network is a transport whose peers are fixed in advance:
every exchange on it is determined, and the requests that a peer has seen can be read off.

Main definitions:

* `HookBridge.Http.Posting`, `HookBridge.Http.Exchange` — a text to be posted, and what comes of it;
* `HookBridge.Http.Transport` — whatever posts texts, with a state;
* `HookBridge.Http.PeerAnswer`, `HookBridge.Http.Peer` — what a peer does with its requests, and
  those that it has seen;
* `HookBridge.Http.Network`, `HookBridge.Http.Network.post` — peers, and the transport to them.
-/

import HookBridge.Duration
import HookBridge.Http.Status
import HookBridge.Http.Url

set_option relaxedAutoImplicit false
set_option autoImplicit false

namespace HookBridge

namespace Http

/-! ### Exchanges -/

/-- A JSON text to be posted to an address, and how long to wait for the answer. -/
structure Posting where
  url : String
  body : String
  timeout : Duration
  deriving DecidableEq, Repr

/-- How a posting may end. -/
inductive Outcome
  /-- the address is none that a request can be sent to -/
  | noAddress
  /-- nobody listens there -/
  | refused
  /-- no answer has come within the timeout -/
  | overdue
  /-- the connection has been closed without an answer -/
  | closed
  /-- there is an answer -/
  | response (status : Nat) (body : Bytes)
  deriving DecidableEq, Repr, Inhabited

/-- How a posting has ended, and after which time. -/
structure Exchange where
  outcome : Outcome
  elapsed : Duration
  deriving DecidableEq, Repr

/-- Whatever posts texts, with a state. -/
abbrev Transport (σ : Type) := Posting → σ → Exchange × σ

/-! ### Peers -/

/-- What a peer does with a request. -/
inductive PeerAnswer
  /-- it answers -/
  | response (status : Nat) (body : Bytes)
  /-- it never answers -/
  | silent
  /-- it closes the connection without an answer -/
  | close
  deriving DecidableEq, Repr

/-- An answer as it arrives: some statuses go without a body. -/
def PeerAnswer.arrives : PeerAnswer → PeerAnswer
  | response status body => response status (if status = 204 ∨ status = 304 then [] else body)
  | other => other

/-- A request as a peer sees it. -/
structure SeenRequest where
  method : String
  target : String
  contentType : String
  body : String
  deriving DecidableEq, Repr

/-- A peer: where it listens, what it does with its requests in turn, the last thing again and
again, how many requests it has had, and those of them that belong to the current step. -/
structure Peer where
  endpoint : String
  answers : List PeerAnswer
  count : Nat
  seen : List SeenRequest
  deriving Repr

namespace Peer

/-- A peer that has had no request yet. -/
def listening (endpoint : String) (answers : List PeerAnswer) : Peer := ⟨endpoint, answers, 0, []⟩

/-- What the peer does with its next request. -/
def answer (p : Peer) : PeerAnswer :=
  ((p.answers[p.count]?).getD (p.answers.getLastD (.response 200 []))).arrives

/-- The peer after one more request. -/
def receive (p : Peer) (r : SeenRequest) : Peer :=
  { p with count := p.count + 1, seen := p.seen ++ [r] }

/-- A new step begins. -/
def next (p : Peer) : Peer := { p with seen := [] }

end Peer

/-- The peers of a network. -/
abbrev Network := List Peer

namespace Network

/-- The requests of the current step that the peer at `endpoint` has seen. -/
def seenAt (net : Network) (endpoint : String) : List SeenRequest :=
  (net.filter (·.endpoint == endpoint)).flatMap (·.seen)

/-- A new step begins. -/
def next (net : Network) : Network := net.map Peer.next

/-- Gives a request to the peer at `endpoint`, if there is one. -/
def deliver (endpoint : String) (r : SeenRequest) : Network → Option PeerAnswer × Network
  | [] => (none, [])
  | p :: rest =>
      if p.endpoint == endpoint then (some p.answer, p.receive r :: rest)
      else
        let (answer, rest) := deliver endpoint r rest
        (answer, p :: rest)

/-- What a posting comes to whose peer does the given thing, if there is a peer.  Peers need no time
to answer, and what has not the status of an answer is as good as none. -/
def exchange (timeout : Duration) : Option PeerAnswer → Exchange
  | none => ⟨.refused, .zero⟩
  | some .silent => ⟨.overdue, timeout⟩
  | some .close => ⟨.closed, .zero⟩
  | some (.response status body) =>
      ⟨if isFinal status then .response status body else .closed, .zero⟩

/-- Posts a text to a peer.  There are no encrypted connections, so nobody listens where one is
needed. -/
def post : Transport Network := fun posting net =>
  match Url.parse? posting.url with
  | none => (⟨.noAddress, .zero⟩, net)
  | some u =>
      if u.secure then (exchange posting.timeout none, net)
      else
        let seen : SeenRequest := ⟨"POST", u.target, "application/json", posting.body⟩
        let (answer, net) := deliver u.endpoint seen net
        (exchange posting.timeout answer, net)

end Network

end Http

end HookBridge
