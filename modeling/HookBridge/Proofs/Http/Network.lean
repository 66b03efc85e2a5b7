/-
**A network of two peers.**

What is posted on a network goes to the peer that the address leads to, and to no other.  For a
network of two peers that listen at different places this module says what a posting comes to and
which of the two has seen it.

Main definitions:

* `HookBridge.Http.Url.LeadsTo` — where postings to an address arrive, and what they ask for;
* `HookBridge.Http.SeenRequest.posted` — a posting as its peer sees it;
* `HookBridge.Http.Peer.having`, `HookBridge.Http.Peer.answerTo` — a peer after so many requests,
  and its answer to one of them.

Main results:

* `HookBridge.Http.Network.post_first`, `HookBridge.Http.Network.post_second` — **a posting goes to
  one peer**, which answers it and is the only one to see it;
* `HookBridge.Http.Network.seenAt_first`, `HookBridge.Http.Network.seenAt_second` — what each of the
  two has seen.
-/

import HookBridge.Http.Network

set_option relaxedAutoImplicit false
set_option autoImplicit false

namespace HookBridge

namespace Http

/-- Postings to the address arrive at `endpoint` and ask for `target`. -/
def Url.LeadsTo (url endpoint target : String) : Prop :=
  ∃ u, Url.parse? url = some u ∧ u.secure = false ∧ u.endpoint = endpoint ∧ u.target = target

/-- A posting as its peer sees it. -/
def SeenRequest.posted (target body : String) : SeenRequest :=
  ⟨"POST", target, "application/json", body⟩

/-! ### Peers -/

namespace Peer

/-- The peer after `n` requests, of which it has seen `seen` in the current step. -/
def having (p : Peer) (n : Nat) (seen : List SeenRequest) : Peer :=
  { p with count := n, seen := seen }

/-- What the peer does with request number `n`. -/
def answerTo (p : Peer) (n : Nat) : PeerAnswer := (p.having n []).answer

variable (p : Peer) (n : Nat) (seen : List SeenRequest)

/-- What a peer does depends on the number of the request, and on nothing that it has seen. -/
@[simp] theorem having_answer : (p.having n seen).answer = p.answerTo n := rfl

@[simp] theorem having_receive (r : SeenRequest) :
    (p.having n seen).receive r = p.having (n + 1) (seen ++ [r]) := rfl

end Peer

/-! ### Postings -/

namespace Network

variable {p q : Peer} {posting : Posting} {target : String}

/-- A posting to the first peer. -/
theorem post_first (h : Url.LeadsTo posting.url p.endpoint target) :
    post posting [p, q] =
      (exchange posting.timeout (some p.answer), [p.receive (.posted target posting.body), q]) := by
  obtain ⟨u, hparse, hsecure, hendpoint, rfl⟩ := h
  simp only [post, hparse, hsecure, hendpoint, deliver, beq_self_eq_true, if_true,
    Bool.false_eq_true, if_false]
  rfl

/-- A posting to the second peer, at which the first one does not listen. -/
theorem post_second (h : Url.LeadsTo posting.url q.endpoint target)
    (hne : p.endpoint ≠ q.endpoint) :
    post posting [p, q] =
      (exchange posting.timeout (some q.answer), [p, q.receive (.posted target posting.body)]) := by
  obtain ⟨u, hparse, hsecure, hendpoint, rfl⟩ := h
  have hother : (p.endpoint == q.endpoint) = false := by simpa using hne
  simp only [post, hparse, hsecure, hendpoint, deliver, hother, beq_self_eq_true, if_true,
    Bool.false_eq_true, if_false]
  rfl

theorem seenAt_first (hne : p.endpoint ≠ q.endpoint) : seenAt [p, q] p.endpoint = p.seen := by
  simp [seenAt, hne.symm]

theorem seenAt_second (hne : p.endpoint ≠ q.endpoint) : seenAt [p, q] q.endpoint = q.seen := by
  simp [seenAt, hne]

end Network

end Http

end HookBridge
