/-
**Hook requests on a network.**

A running bridge stands between a things service and a message bus, which it talks to over HTTP.  A
hook request may have a fault that the bridge sees on its own.  One without such a fault is put to
the things service as a question, and the meaning of the answer decides whether the client is turned
away, whether it is let in, and whether the bus is to have a message.

Main definitions:

* `HookBridge.Hook.FailsCheck` — a request has a fault that the bridge sees on its own;
* `HookBridge.Settings.thingsClient` — the client that settings describe;
* `HookBridge.Service.among` — a bridge among its peers.

Main results:

* `HookBridge.Hook.failsCheck_iff` — a request has no such fault exactly if it is whole and has a
  question;
* `HookBridge.Bridge.outside_route_of_no_inquiry` — without a question nobody else learns of it;
* `HookBridge.Inquiry.outcome_of_denial`, `HookBridge.Inquiry.outcome_of_failure`,
  `HookBridge.Inquiry.outcome_of_grant` — what a question comes to, by the meaning of its answer;
* `HookBridge.Service.runHook_of_inquiry` — **a hook request on the network**, and all that it does
  to the peers.
-/

import HookBridge.Proofs.Answers
import HookBridge.Proofs.Http.Network
import HookBridge.Proofs.Router
import HookBridge.Proofs.Scripted
import HookBridge.Service

set_option relaxedAutoImplicit false
set_option autoImplicit false

namespace HookBridge

/-! ### Faults that the bridge sees on its own -/

/-- The request has a fault that is found before the things service is asked: its body breaks off,
its header does not name the hook, its body makes up no request, the topic of this request addresses
nothing, the path of the topic has no canonical form and the request is one to publish, or its
credential is empty. -/
inductive Hook.FailsCheck (h : Hook) (r : Http.Request) : Prop
  | broken (hfault : r.fault ≠ none)
  | header (hname : ¬ h.name.toList <:+: (r.headers.text "vernemq-hook").toList)
  | body (hbody : h.readBody? (r.headers.text "content-type") r.body = none)
  | topic {request : HookRequest}
      (hbody : h.readBody? (r.headers.text "content-type") r.body = some request)
      (htopic : request.HasNoChannel)
  | subtopic {request : HookRequest}
      (hbody : h.readBody? (r.headers.text "content-type") r.body = some request)
      (hsubtopic : request.HasNoSubtopic)
  | credential {request : HookRequest}
      (hbody : h.readBody? (r.headers.text "content-type") r.body = some request)
      (hcredential : request.credential = "")

/-- A request without a fault is a whole one with a question. -/
theorem Hook.failsCheck_iff (h : Hook) (r : Http.Request) :
    h.FailsCheck r ↔ ¬ (r.fault = none ∧ ∃ q, h.inquiry r.headers r.body = .ok q) := by
  constructor
  · rintro hfails ⟨hwhole, q, hq⟩
    obtain ⟨hnamed, request, hrequest, hinquiry⟩ := inquiry_eq_ok_iff.1 hq
    obtain ⟨hchannel, hsubtopic, hcredential, -⟩ := HookRequest.inquiry_eq_ok hinquiry
    cases hfails with
    | broken hfault => exact hfault hwhole
    | header hname => exact hname ((isNamedBy_iff h _).1 hnamed)
    | body hbody => simp [hrequest] at hbody
    | topic hbody htopic =>
        obtain rfl := Option.some.inj (hrequest.symm.trans hbody)
        exact hchannel htopic
    | subtopic hbody hsub =>
        obtain rfl := Option.some.inj (hrequest.symm.trans hbody)
        exact hsubtopic hsub
    | credential hbody hempty =>
        obtain rfl := Option.some.inj (hrequest.symm.trans hbody)
        exact hcredential hempty
  · intro hnone
    by_cases hwhole : r.fault = none
    · by_cases hname : h.name.toList <:+: (r.headers.text "vernemq-hook").toList
      · have hnamed : h.isNamedBy (r.headers.text headerName) = true := (isNamedBy_iff h _).2 hname
        cases hbody : h.readBody? (r.headers.text "content-type") r.body with
        | none => exact FailsCheck.body hbody
        | some request =>
            cases hinquiry : request.inquiry with
            | ok q =>
                have hq := inquiry_eq_ok_iff.2 ⟨hnamed, request, hbody, hinquiry⟩
                exact absurd ⟨hwhole, q, hq⟩ hnone
            | error error =>
                rcases HookRequest.inquiry_eq_error hinquiry with ⟨htopic, -⟩ | ⟨-, hsub, -⟩ |
                  ⟨-, -, hempty, -⟩
                · exact FailsCheck.topic hbody htopic
                · exact FailsCheck.subtopic hbody hsub
                · exact FailsCheck.credential hbody hempty
      · exact FailsCheck.header hname
    · exact FailsCheck.broken hwhole

/-- Without a question, whatever a request is answered, nobody else learns of it. -/
theorem Bridge.outside_route_of_no_inquiry {σ : Type} (b : Bridge σ) {r : Http.Request}
    (s : BridgeState σ)
    (hnone : ∀ h q, r.method = "POST" → r.path = Hook.path h → r.IsReadable →
      h.inquiry r.headers r.body ≠ .ok q) :
    (b.route r s).2.outside = s.outside := by
  by_cases hhook : ∃ h : Hook, r.path = h.path
  · obtain ⟨h, hpath⟩ := hhook
    by_cases hmethod : r.method = "POST"
    · rw [route_eq_answerHook b h s hmethod hpath]
      by_cases hread : r.IsReadable
      · rw [answerHook_of_readable b h s hread]
        cases hq : h.inquiry r.headers r.body with
        | error error => rw [runHook_of_refused hq]
        | ok q => exact absurd hq (hnone h q hmethod hpath hread)
      · obtain ⟨status, reason, -, heq⟩ := answerHook_of_not_readable b h s hread
        rw [heq]
    · rw [route_of_not_post b h s hmethod hpath]
  · rw [route_of_no_hook b s fun h heq => hhook ⟨h, heq⟩]

/-! ### What a question comes to -/

namespace Inquiry

open Http

variable (q : Inquiry) (timeout : Duration) {a : PeerAnswer}

/-- An answer that turns the client away. -/
theorem outcome_of_denial (ha : a.Denies) (refusal : Option String) :
    q.message? timeout (Things.replyOf timeout a) = none ∧
      Bridge.statusOf (q.outcome timeout (Things.replyOf timeout a) refusal) = 403 := by
  obtain ⟨e, hresult, hdenial⟩ := (Things.isDenial_replyOf_iff timeout a).2 ha
  have hb := Authorizer.bounded_of_error (Things.replyOf_delay_le timeout a) hresult
  constructor
  · simp only [message?, hb]
  · simp only [outcome, hb, Bridge.statusOf, HookError.status, hdenial, if_true]

/-- An answer that neither lets the client in nor turns it away. -/
theorem outcome_of_failure (hdenies : ¬ a.Denies) (hgrants : ∀ thing, ¬ a.Grants thing)
    (refusal : Option String) :
    q.message? timeout (Things.replyOf timeout a) = none ∧
      Bridge.statusOf (q.outcome timeout (Things.replyOf timeout a) refusal) = 503 := by
  cases hresult : (Things.replyOf timeout a).result with
  | ok thing =>
      exact absurd ((Things.replyOf_eq_ok_iff timeout a thing).1 hresult) (hgrants thing)
  | error e =>
      have hdenial : ¬ e.isDenial = true := fun hdenial =>
        hdenies ((Things.isDenial_replyOf_iff timeout a).1 ⟨e, hresult, hdenial⟩)
      have hb := Authorizer.bounded_of_error (Things.replyOf_delay_le timeout a) hresult
      constructor
      · simp only [message?, hb]
      · simp only [outcome, hb, Bridge.statusOf, HookError.status, if_neg hdenial]

/-- An answer that lets the client in leads to what was to come of the identifier: to a message and
then to what becomes of it, or to a good end. -/
theorem outcome_of_grant {thing : String} (ha : a.Grants thing) (refusal : Option String) :
    (∀ m, q.accept thing = .publish m → q.message? timeout (Things.replyOf timeout a) = some m ∧
      Bridge.statusOf (q.outcome timeout (Things.replyOf timeout a) refusal) =
        if refusal = none then 202 else 500) ∧
    ((∀ m, q.accept thing ≠ .publish m) → q.message? timeout (Things.replyOf timeout a) = none ∧
      Bridge.statusOf (q.outcome timeout (Things.replyOf timeout a) refusal) = 202) := by
  have hresult := (Things.replyOf_eq_ok_iff timeout a thing).2 ha
  have hb := Authorizer.bounded_of_ok (Things.replyOf_delay_le timeout a) hresult
  constructor
  · intro m haccept
    have hmessage : q.message? timeout (Things.replyOf timeout a) = some m := by
      simp only [message?, hb, haccept]
    refine ⟨hmessage, ?_⟩
    cases refusal <;> simp [outcome, hb, hmessage, Bridge.statusOf, Bridge.acceptedStatus,
      HookError.status, HookError.ofPublish]
  · intro haccept
    have hmessage : q.message? timeout (Things.replyOf timeout a) = none := by
      simp only [message?, hb]
      split
      · rfl
      · next m heq => exact absurd heq (haccept m)
    refine ⟨hmessage, ?_⟩
    simp [outcome, hb, hmessage, Bridge.statusOf, Bridge.acceptedStatus]

end Inquiry

/-! ### A bridge and its peers -/

/-- The client of the things service that settings describe. -/
def Settings.thingsClient (s : Settings) : Things.Client :=
  Things.Client.new s.thingsUrl s.thingsPatience

namespace Service

open Http

variable (s : Settings) (things bus : Peer)

/-- A bridge among its peers, of which the things service has had `n` requests and the bus `k`. -/
def among (n : Nat) (seen : List SeenRequest) (k : Nat) (seen' : List SeenRequest)
    (worker : MetricsWorker) : Service :=
  ⟨s.bridge Network.post, ⟨[things.having n seen, bus.having k seen'], worker⟩⟩

section Exchanges

variable {s things bus} {target : String} (n k : Nat) (seen seen' : List SeenRequest)

/-- A question goes to the things service. -/
theorem things_of_leadsTo (bus : Peer) {call : Things.Call}
    (h : Url.LeadsTo (s.thingsClient.posting call).url things.endpoint target) :
    s.thingsClient.service Network.post call [things.having n seen, bus.having k seen'] =
      (Things.replyOf s.thingsPatience (things.answerTo n),
        [things.having (n + 1) (seen ++ [.posted target call.body]), bus.having k seen']) := by
  have hpost := Network.post_first (p := things.having n seen) (q := bus.having k seen') h
  simp only [Things.Client.service, hpost, Peer.having_answer, Peer.having_receive]
  rfl

/-- A message goes to the bus. -/
theorem publisher_of_leadsTo {url : String} (hurl : s.publisherUrl = some url)
    (h : Url.LeadsTo url bus.endpoint target) (hne : things.endpoint ≠ bus.endpoint)
    (m : Message) :
    s.publisher Network.post m [things.having n seen, bus.having k seen'] =
      ((match BusClient.refusalOf s.publisherPatience (bus.answerTo k) with
        | none => .ok ()
        | some reason => .error ⟨reason⟩),
        [things.having n seen, bus.having (k + 1) (seen' ++ [.posted target m.json])]) := by
  have hpost : Network.post ⟨url, m.json, s.publisherPatience⟩
      [things.having n seen, bus.having k seen'] = _ := Network.post_second h hne
  simp only [Settings.publisher, hurl, BusClient.publisher, hpost, Peer.having_answer,
    Peer.having_receive]
  exact Prod.ext (BusClient.read_eq_of_refusalOf _ _) rfl

variable {h : Hook} {headers : Headers} {body : Bytes}

/-- **A hook request with a question** puts it to the things service, as its next request, and sends
the message that it leads to to the bus, as its next request. -/
theorem runHook_of_inquiry {q : Inquiry} (hq : h.inquiry headers body = .ok q)
    {target' url : String}
    (hthings : Url.LeadsTo (s.thingsClient.posting q.call).url things.endpoint target)
    (hurl : s.publisherUrl = some url) (hbus : Url.LeadsTo url bus.endpoint target')
    (hne : things.endpoint ≠ bus.endpoint) :
    (s.bridge Network.post).runHook h headers body [things.having n [], bus.having k []] =
      let reply := Things.replyOf s.thingsPatience (things.answerTo n)
      let refusal := BusClient.refusalOf s.publisherPatience (bus.answerTo k)
      let messages := (q.message? s.thingsPatience reply).toList
      ⟨q.outcome s.thingsPatience reply refusal, (Authorizer.bounded s.thingsPatience reply).2,
        [things.having (n + 1) [.posted target q.call.body],
          bus.having (k + messages.length) (messages.map fun m => .posted target' m.json)]⟩ := by
  rw [Bridge.runHook_of_inquiry hq]
  have hask := things_of_leadsTo n k [] [] bus hthings
  have hpublish := publisher_of_leadsTo (n + 1) k [.posted target q.call.body] [] hurl hbus hne
  simp only [Inquiry.verdict, Settings.bridge]
  rw [← Settings.thingsClient, hask]
  simp only [HookRequest.settle, Verdict.mapResult, Inquiry.outcome, Inquiry.message?,
    List.nil_append]
  -- what is left is what becomes of the reply, of its decision and of the message, in this order
  obtain ⟨result, elapsed⟩ := Authorizer.bounded s.thingsPatience
    (Things.replyOf s.thingsPatience (things.answerTo n))
  cases result with
  | error error =>
      cases BusClient.refusalOf s.publisherPatience (bus.answerTo k) <;> simp [Bridge.carryOut]
  | ok thing =>
      cases haccept : q.accept thing with
      | accepted thing' =>
          cases BusClient.refusalOf s.publisherPatience (bus.answerTo k) <;>
            simp [Bridge.carryOut, haccept]
      | publish m =>
          simp only [Bridge.carryOut, haccept, hpublish m]
          cases BusClient.refusalOf s.publisherPatience (bus.answerTo k) <;> rfl

end Exchanges

end Service

end HookBridge
