/-
**The bridge among its peers.**

What a hook request comes to on a network is decided by the answers of the peers alone: those are
told apart as they arrive, and nothing else is read into them.  Like authorization this is a
property of runs.  Whatever the bridge has been asked before, each of its requests takes the next
answer of the things service if it gets as far, and each message the next answer of the bus.

Main definitions:

* `HookBridge.Settings.Connects` — the addresses of the settings lead to the two peers;
* `HookBridge.Service.Event.IsHook` — an event is a request to a hook;
* `HookBridge.Service.MakesFor` — the message that a request makes on behalf of a thing;
* `HookBridge.Service.Exchanged` — what a request comes to that is put to the things service;
* `HookBridge.Service.StepSound` — what any event comes to.

Main results:

* `HookBridge.Service.Exchanged.of_inquiry` — a request with a question is put to the things
  service;
* `HookBridge.Service.step_sound` — every step is sound, whatever happened before it;
* `HookBridge.Service.run_exchanges_from` — and so are the steps of a run from any state;
* `HookBridge.Service.run_exchanges` — **every step of every run is sound**.
-/

import HookBridge.Proofs.Exchange

set_option relaxedAutoImplicit false
set_option autoImplicit false

namespace HookBridge

/-- The addresses of the settings lead to the two peers, which listen at different places. -/
structure Settings.Connects (s : Settings) (things bus : Http.Peer) : Prop where
  apart : things.endpoint ≠ bus.endpoint
  things : ∀ call, ∃ target,
    Http.Url.LeadsTo (s.thingsClient.posting call).url things.endpoint target
  bus : ∃ url target, s.publisherUrl = some url ∧ Http.Url.LeadsTo url bus.endpoint target

namespace Service

open Http

variable (s : Settings) (things bus : Peer)

/-! ### What events come to -/

/-- The event is a request to the hook, which arrives as `r`. -/
def Event.IsHook (e : Event) (h : Hook) (r : Request) : Prop :=
  ∃ sent, e = .request sent ∧ sent.receive = .ok r ∧ r.method = "POST" ∧ r.path = h.path

/-- An event is a request to one hook at most. -/
theorem Event.IsHook.unique {e : Event} {h h' : Hook} {r r' : Request} (he : e.IsHook h r)
    (he' : e.IsHook h' r') : h' = h ∧ r' = r := by
  obtain ⟨sent, rfl, hreceive, -, hpath⟩ := he
  obtain ⟨sent', hsent, hreceive', -, hpath'⟩ := he'
  obtain rfl := Event.request.inj hsent
  obtain rfl := Except.ok.inj (hreceive'.symm.trans hreceive)
  have hroute := (Bridge.routeOf_eq_hook_iff _ h).2 hpath
  rw [(Bridge.routeOf_eq_hook_iff _ h').2 hpath'] at hroute
  exact ⟨Bridge.Route.hook.inj hroute, rfl⟩

/-- On behalf of the thing, the request makes the message. -/
inductive MakesFor (r : Request) (thing : String) (m : Message) : Prop
  | intro {username topic path : String}
      (decoded : Hook.publish.readBody? (r.headers.text "content-type") r.body =
        some (.publish username topic m.payload m.contentType))
      (contentType : m.contentType = r.headers.text "content-type")
      (channel : ChannelTopic.parse? topic = some ⟨m.channel, path⟩)
      (subtopic : Subtopic.normalize path = .ok m.subtopic)
      (publisher : m.publisher = thing)
      (protocol : m.protocol = "mqtt")

/-- What a request `r` to a hook comes to that is put to the things service, as its request number
`n`: what it answers decides, and after it, on a message, what the bus does with request number
`k`. -/
structure Exchanged (n k : Nat) (h : Hook) (r : Request) (t : Trace) : Prop where
  /-- the things service sees the question of the request, and nothing else -/
  asked : ∃ request call target,
    h.readBody? (r.headers.text "content-type") r.body = some request ∧
      request.call? = some call ∧
      Url.LeadsTo (s.thingsClient.posting call).url things.endpoint target ∧
      t.network.seenAt things.endpoint = [.posted target call.body]
  denied : (things.answerTo n).Denies →
    t.outcome = .response (.bare 403) ∧ t.network.seenAt bus.endpoint = []
  failed : ¬ (things.answerTo n).Denies → (∀ thing, ¬ (things.answerTo n).Grants thing) →
    t.outcome = .response (.bare 503) ∧ t.network.seenAt bus.endpoint = []
  accepted : ∀ thing, (things.answerTo n).Grants thing → h ≠ .publish →
    t.outcome = .response (.bare 202) ∧ t.network.seenAt bus.endpoint = []
  /-- the bus sees the message of the request, and nothing else -/
  published : ∀ thing, (things.answerTo n).Grants thing → h = .publish →
    ∃ m url target, MakesFor r thing m ∧ s.publisherUrl = some url ∧
      Url.LeadsTo url bus.endpoint target ∧
      t.network.seenAt bus.endpoint = [.posted target m.json] ∧
      ((bus.answerTo k).Takes → t.outcome = .response (.bare 202)) ∧
      (¬ (bus.answerTo k).Takes → t.outcome = .response (.bare 500))

/-- Neither of the peers has seen anything of the step. -/
def Trace.IsSilent (t : Trace) (things bus : Peer) : Prop :=
  t.network.seenAt things.endpoint = [] ∧ t.network.seenAt bus.endpoint = []

/-- What an event comes to before which the things service has had `n` requests and the bus `k`. -/
structure StepSound (n k : Nat) (e : Event) (t : Trace) : Prop where
  exchanged : ∀ h r, e.IsHook h r → r.body.length ≤ 2097152 → ¬ h.FailsCheck r →
    Exchanged s things bus n k h r t
  refused : ∀ h r, e.IsHook h r → 2097152 < r.body.length ∨ h.FailsCheck r →
    t.IsSilent things bus
  other : (∀ h r, ¬ e.IsHook h r) → t.IsSilent things bus
  hangup : e = .hangup → t.outcome = .alive

section Steps

variable {s things bus} (n k : Nat)

/-- What the two peers have seen of a step, and have had after it. -/
theorem seenAt_among (seen seen' : List SeenRequest) (hne : things.endpoint ≠ bus.endpoint) :
    let net : Network := [things.having n seen, bus.having k seen']
    net.seenAt things.endpoint = seen ∧ net.seenAt bus.endpoint = seen' :=
  ⟨Network.seenAt_first (p := things.having n seen) (q := bus.having k seen') hne,
    Network.seenAt_second (p := things.having n seen) (q := bus.having k seen') hne⟩

/-- The message that a question leads to is that of its request. -/
theorem MakesFor.of_inquiry {h : Hook} {r : Request} {q : Inquiry} {thing : String} {m : Message}
    (hq : h.inquiry r.headers r.body = .ok q) (hm : q.accept thing = .publish m) :
    MakesFor r thing m := by
  -- since there is a message the hook is the one to publish, and then the request is one, too
  obtain rfl := (Hook.eq_publish_iff hq thing).2 ⟨m, hm⟩
  obtain ⟨-, request, hbody, hinquiry⟩ := Hook.inquiry_eq_ok_iff.1 hq
  obtain ⟨username, topic, path, rfl, -, hchannel, hsubtopic, -, hpublisher, hprotocol⟩ :=
    HookRequest.inquiry_publishes hinquiry hm
  exact ⟨hbody, (Hook.of_readBody? hbody).2 username topic m.payload m.contentType rfl, hchannel,
    hsubtopic, hpublisher, hprotocol⟩

/-- A request to a hook that has a question is put to the things service. -/
theorem Exchanged.of_inquiry (hc : s.Connects things bus) {h : Hook} {r : Request} {q : Inquiry}
    (hq : h.inquiry r.headers r.body = .ok q) :
    let v := (s.bridge Network.post).runHook h r.headers r.body
      [things.having n [], bus.having k []]
    Exchanged s things bus n k h r ⟨.response (.bare (Bridge.statusOf v.result)), v.state⟩ ∧
      ∃ now now', v.state =
        [things.having (n + now.length) now, bus.having (k + now'.length) now'] := by
  obtain ⟨target, htarget⟩ := hc.things q.call
  obtain ⟨url, target', hurl, htarget'⟩ := hc.bus
  obtain ⟨-, request, hbody, hinquiry⟩ := Hook.inquiry_eq_ok_iff.1 hq
  rw [runHook_of_inquiry n k hq htarget hurl htarget' hc.apart]
  refine ⟨?_, [.posted target q.call.body], _, by rw [List.length_map]; rfl⟩
  -- what the peers see of a question whose answer leads to `message`
  have hseen := fun message : Option Message =>
    seenAt_among (n + 1) (k + message.toList.length) [.posted target q.call.body]
      (message.toList.map fun m => .posted target' m.json) hc.apart
  refine ⟨⟨request, q.call, target, hbody, (HookRequest.inquiry_eq_ok hinquiry).2.2.2, htarget,
    (hseen _).1⟩, ?_, ?_, ?_, ?_⟩
  · intro hdenies
    obtain ⟨hmessage, hstatus⟩ := q.outcome_of_denial s.thingsPatience hdenies _
    exact ⟨by rw [hstatus], by rw [(hseen _).2, hmessage]; rfl⟩
  · intro hdenies hgrants
    obtain ⟨hmessage, hstatus⟩ :=
      q.outcome_of_failure s.thingsPatience hdenies hgrants _
    exact ⟨by rw [hstatus], by rw [(hseen _).2, hmessage]; rfl⟩
  · intro thing hgrants hhook
    obtain ⟨hmessage, hstatus⟩ :=
      (q.outcome_of_grant s.thingsPatience hgrants _).2 fun m hm =>
        hhook ((Hook.eq_publish_iff hq thing).2 ⟨m, hm⟩)
    exact ⟨by rw [hstatus], by rw [(hseen _).2, hmessage]; rfl⟩
  · intro thing hgrants hhook
    obtain ⟨m, hm⟩ := (Hook.eq_publish_iff hq thing).1 hhook
    obtain ⟨hmessage, hstatus⟩ :=
      (q.outcome_of_grant s.thingsPatience hgrants _).1 m hm
    refine ⟨m, url, target', .of_inquiry hq hm, hurl, htarget', ?_, ?_, ?_⟩
    · rw [(hseen _).2, hmessage]
      rfl
    · intro htakes
      rw [hstatus, if_pos ((BusClient.refusalOf_eq_none_iff _ _).2 htakes)]
    · intro htakes
      rw [hstatus, if_neg fun hnone => htakes ((BusClient.refusalOf_eq_none_iff _ _).1 hnone)]

variable (seen seen' : List SeenRequest) (worker : MetricsWorker)

/-- What is not even received leaves no trace. -/
theorem step_of_refusal {sent : Request} {refusal : Refusal}
    (hreceive : sent.receive = .error refusal) :
    (among s things bus n seen k seen' worker).step (.request sent) =
      (.response (.bare refusal.status), among s things bus n [] k [] worker) := by
  simp only [step, answer, hreceive]
  rfl

/-- What is received is routed. -/
theorem step_of_receive {sent r : Request} (hreceive : sent.receive = .ok r) :
    (among s things bus n seen k seen' worker).step (.request sent) =
      let routed := (s.bridge Network.post).route r
        ⟨[things.having n [], bus.having k []], worker⟩
      (.response routed.1, ⟨s.bridge Network.post, routed.2⟩) := by
  simp only [step, answer, hreceive]
  rfl

/-- A step that leaves the network as it was is sound if it is not for a request with a question. -/
theorem StepSound.of_quiet (hne : things.endpoint ≠ bus.endpoint) {e : Event} {outcome : Outcome}
    (hnone : ∀ h r, e.IsHook h r → r.body.length ≤ 2097152 → h.FailsCheck r)
    (halive : e = .hangup → outcome = .alive) :
    StepSound s things bus n k e ⟨outcome, [things.having n [], bus.having k []]⟩ where
  exchanged := fun h r he hlength hfails => absurd (hnone h r he hlength) hfails
  refused := fun _ _ _ _ => seenAt_among n k [] [] hne
  other := fun _ => seenAt_among n k [] [] hne
  hangup := halive

/-- A step for a request with a question is sound if the request is put to the things service. -/
theorem StepSound.of_exchanged {e : Event} {h : Hook} {r : Request} {t : Trace}
    (he : e.IsHook h r) (hlength : r.body.length ≤ 2097152) (hfails : ¬ h.FailsCheck r)
    (hexchanged : Exchanged s things bus n k h r t) : StepSound s things bus n k e t where
  exchanged := by
    intro h' r' he' _ _
    obtain ⟨rfl, rfl⟩ := he.unique he'
    exact hexchanged
  refused := by
    intro h' r' he' hrefused
    obtain ⟨rfl, rfl⟩ := he.unique he'
    rcases hrefused with hlong | hfails'
    · exact absurd hlong (Nat.not_lt.2 hlength)
    · exact absurd hfails' hfails
  other := fun hnone => absurd he (hnone h r)
  hangup := by
    rintro rfl
    obtain ⟨sent, hsent, -⟩ := he
    exact absurd hsent (by simp)

/-- A step for a request that is received is sound. -/
theorem StepSound.of_receive (hc : s.Connects things bus) {sent r : Request}
    (hreceive : sent.receive = .ok r) :
    let routed := (s.bridge Network.post).route r ⟨[things.having n [], bus.having k []], worker⟩
    StepSound s things bus n k (.request sent) ⟨.response routed.1, routed.2.outside⟩ ∧
      ∃ now now', routed.2.outside =
        [things.having (n + now.length) now, bus.having (k + now'.length) now'] := by
  intro routed
  by_cases hinquiry : ∃ h q, r.method = "POST" ∧ r.path = Hook.path h ∧ r.IsReadable ∧
      h.inquiry r.headers r.body = .ok q
  · obtain ⟨h, q, hmethod, hpath, hread, hq⟩ := hinquiry
    have hroute : routed = _ := Bridge.route_eq_answerHook _ h _ hmethod hpath
    obtain ⟨hexchanged, hafter⟩ := Exchanged.of_inquiry n k hc hq
    rw [hroute, Bridge.answerHook_of_readable _ h _ hread]
    refine ⟨?_, hafter⟩
    exact StepSound.of_exchanged n k ⟨sent, rfl, hreceive, hmethod, hpath⟩ hread.length_le
      (fun hfails => (Hook.failsCheck_iff h r).1 hfails ⟨hread.whole, q, hq⟩) hexchanged
  · have houtside : routed.2.outside = [things.having n [], bus.having k []] :=
      Bridge.outside_route_of_no_inquiry _ _ fun h q hmethod hpath hread hq =>
        hinquiry ⟨h, q, hmethod, hpath, hread, hq⟩
    rw [houtside]
    refine ⟨StepSound.of_quiet n k hc.apart ?_ (by simp), [], [], rfl⟩
    rintro h r' ⟨sent', hsent, hreceive', hmethod, hpath⟩ hlength
    obtain rfl := Event.request.inj hsent
    obtain rfl := Except.ok.inj (hreceive'.symm.trans hreceive)
    rw [Hook.failsCheck_iff]
    rintro ⟨hwhole, q, hq⟩
    exact hinquiry ⟨h, q, hmethod, hpath, ⟨hlength, hwhole⟩, hq⟩

/-- **Every step is sound**, whatever happened before it, and each of the peers has had as many
requests more as it has seen. -/
theorem step_sound (hc : s.Connects things bus) (e : Event) :
    let after := (among s things bus n seen k seen' worker).step e
    StepSound s things bus n k e ⟨after.1, after.2.state.outside⟩ ∧
      ∃ now now' worker', after.2 =
        among s things bus (n + now.length) now (k + now'.length) now' worker' := by
  intro after
  cases e with
  | hangup =>
      refine ⟨StepSound.of_quiet n k hc.apart ?_ fun _ => rfl, [], [], worker, rfl⟩
      rintro h r ⟨sent, hsent, -⟩
      exact absurd hsent (by simp)
  | request sent =>
      cases hreceive : sent.receive with
      | error refusal =>
          have hafter : after = _ := step_of_refusal n k seen seen' worker hreceive
          rw [hafter]
          refine ⟨StepSound.of_quiet n k hc.apart ?_ (by simp), [], [], worker, rfl⟩
          rintro h r ⟨sent', hsent, hreceive', -⟩
          obtain rfl := Event.request.inj hsent
          rw [hreceive] at hreceive'
          exact absurd hreceive' (by simp)
      | ok r =>
          have hafter : after = _ := step_of_receive n k seen seen' worker hreceive
          obtain ⟨hsound, now, now', houtside⟩ := StepSound.of_receive n k worker hc hreceive
          constructor
          · rw [hafter]
            exact hsound
          · refine ⟨now, now', after.2.state.metrics, ?_⟩
            rw [among, ← houtside, hafter]

end Steps

/-! ### Runs -/

/-- A run is a step and then a run. -/
theorem run_cons (svc : Service) (e : Event) (rest : List Event) :
    (svc.run (e :: rest)).1 =
      let after := svc.step e
      ⟨after.1, after.2.state.outside⟩ :: (after.2.run rest).1 := rfl

/-- A run has a step for each event. -/
theorem length_run (svc : Service) (events : List Event) :
    (svc.run events).1.length = events.length := by
  induction events generalizing svc with
  | nil => rfl
  | cons e rest ih =>
      rw [run_cons]
      exact congrArg (· + 1) (ih _)

section Runs

variable {s things bus}

/-- From any state, every step of a run is sound, with what the peers have seen of the steps before
it behind what they had had at the start. -/
theorem run_exchanges_from (hc : s.Connects things bus) (events : List Event) (n k : Nat)
    (seen seen' : List SeenRequest) (worker : MetricsWorker) :
    let traces := ((among s things bus n seen k seen' worker).run events).1
    ∀ (i : Nat) e t, events[i]? = some e → traces[i]? = some t →
      StepSound s things bus
        (n + ((traces.take i).flatMap (·.network.seenAt things.endpoint)).length)
        (k + ((traces.take i).flatMap (·.network.seenAt bus.endpoint)).length) e t := by
  -- induction on the events: the first step moves each peer on by what it sees of it
  induction events generalizing n k seen seen' worker with
  | nil =>
      intro traces i e t he
      exact absurd he (by simp)
  | cons e rest ih =>
      intro traces i
      have htraces : traces = _ := run_cons (among s things bus n seen k seen' worker) e rest
      obtain ⟨hstep, now, now', worker', hafter⟩ := step_sound n k seen seen' worker hc e
      generalize (among s things bus n seen k seen' worker).step e = step
        at htraces hstep hafter
      obtain ⟨outcome, after⟩ := step
      obtain rfl := hafter
      obtain ⟨hthings, hbus⟩ :=
        seenAt_among (n + now.length) (k + now'.length) now now' hc.apart
      cases i with
      | zero =>
          intro e' t he ht
          rw [htraces] at ht
          obtain rfl := Option.some.inj he
          obtain rfl := Option.some.inj ht
          exact hstep
      | succ i =>
          intro e' t he ht
          rw [htraces] at ht ⊢
          have hrest := ih (n + now.length) (k + now'.length) now now' worker' i e' t he ht
          simpa [List.take_succ_cons, among, hthings, hbus, Nat.add_assoc] using hrest

end Runs

/-- **Every step of every run is sound.**  A bridge runs between a things service and a bus that
answer in any way they like.  Whatever events come, and whatever came before: a request to a hook
with a fault that the bridge sees on its own, or that is too long, is seen by neither of the two;
any other is put to the things service once and answered by what this says to it; and nothing is
seen by the bus but the message of a request to publish that the things service has let in, once. -/
theorem run_exchanges (place place' : String) (answers answers' : List PeerAnswer)
    (hc : s.Connects (.listening place answers) (.listening place' answers'))
    (events : List Event) :
    let things := Peer.listening place answers
    let bus := Peer.listening place' answers'
    let traces := ((start s [things, bus]).run events).1
    traces.length = events.length ∧
      ∀ (i : Nat) e t, events[i]? = some e → traces[i]? = some t →
        StepSound s things bus
          ((traces.take i).flatMap (·.network.seenAt things.endpoint)).length
          ((traces.take i).flatMap (·.network.seenAt bus.endpoint)).length e t := by
  refine ⟨length_run _ events, ?_⟩
  have hfrom := run_exchanges_from hc events 0 0 [] [] (.running .empty)
  simp only [Nat.zero_add] at hfrom
  exact hfrom

/-- Settings with a things service and a bus. -/
def localSettings : Settings :=
  Settings.ofSource ⟨none, some "http://127.0.0.1:8183", none,
    some "http://127.0.0.1:7000/messages", none, none, none⟩

/-- A things service that turns the first client away and lets in everyone after it. -/
def localThings : Peer :=
  .listening "127.0.0.1:8183"
    [.response 403 [], .response 200 (Utf8.encode "\x7b\"value\":\"u1\"\x7d")]

/-- A bus that hangs up on everyone. -/
def localBus : Peer := .listening "127.0.0.1:7000" [.close]

/-- Someone publishes. -/
def publishing : Event :=
  .request ⟨"POST", "/auth_on_publish",
    [("vernemq-hook", Utf8.encode "auth_on_publish"), ("content-length", Utf8.encode "67")],
    Utf8.encode ("\x7b\"username\":\"key\",\"payload\":\"aGk\"," ++
      "\"topic\":\"/channels/c/messages/a\"\x7d"), none⟩

theorem localSettings_connects : localSettings.Connects localThings localBus where
  apart := by decide
  things := by
    intro call
    -- the address depends on the kind of the question only
    cases call with
    | identify token =>
        refine ⟨"/identify", ⟨false, "127.0.0.1", 8183, "/identify"⟩, ?_, rfl, by decide, rfl⟩
        change Url.parse? (localSettings.thingsClient.base ++ "/identify") = _
        decide +kernel
    | canAccess token channel =>
        refine ⟨"/access", ⟨false, "127.0.0.1", 8183, "/access"⟩, ?_, rfl, by decide, rfl⟩
        change Url.parse? (localSettings.thingsClient.base ++ "/access") = _
        decide +kernel
  bus := ⟨"http://127.0.0.1:7000/messages", "/messages", rfl,
    ⟨false, "127.0.0.1", 7000, "/messages"⟩, by decide +kernel⟩

/-- What it comes to that someone publishes twice, and a signal arrives in between. -/
def localTraces : List Trace :=
  ((start localSettings [localThings, localBus]).run [publishing, .hangup, publishing]).1

/-- At the second time the client is let in, but the bus does not take the message. -/
theorem run_exchanges_second :
    localSettings.Connects localThings localBus ∧
      ∃ t, localTraces[2]? = some t ∧ t.outcome = .response (.bare 500) ∧
        StepSound localSettings localThings localBus
          ((localTraces.take 2).flatMap (·.network.seenAt localThings.endpoint)).length
          ((localTraces.take 2).flatMap (·.network.seenAt localBus.endpoint)).length
          publishing t := by
  have houtcome : localTraces[2]?.map (·.outcome) = some (.response (.bare 500)) := by
    decide +kernel
  obtain ⟨t, ht, hout⟩ := Option.map_eq_some_iff.1 houtcome
  exact ⟨localSettings_connects, t, ht, hout,
    (run_exchanges localSettings _ _ _ _ localSettings_connects
      [publishing, .hangup, publishing]).2 2 publishing t rfl ht⟩

end Service

end HookBridge
