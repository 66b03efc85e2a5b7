/-
**Nothing reaches the bus without authorization.**

The bridge hands a message to the bus only on behalf of a thing that the things service has just
vouched for, in the same step, for the same channel.  This is a property of runs: whatever requests
came before, whatever the things service answered to them and whatever the bus did with their
messages, each message on the bus is covered by the request of its own step and by the one question
that this step asked.  Nothing is carried over from one step to the next but the position in the
script.

Main definitions:

* `HookBridge.Script.Vouched` — all that must be so for a message to be on the bus;
* `HookBridge.Script.StepSound` — a step has put on the bus what it should have, and nothing else.

Main results:

* `HookBridge.Script.route_sound` — every step is sound, whatever happened before it;
* `HookBridge.Script.runRequests_sound_from` — and so are the steps of a run from any state;
* `HookBridge.Script.runRequests_sound` — **every step of every run is sound**.
-/

import HookBridge.Proofs.Router
import HookBridge.Proofs.Scripted

set_option relaxedAutoImplicit false
set_option autoImplicit false

namespace HookBridge

namespace Script

/-! ### Steps -/

/-- All that must be so for the message `m` to be on the bus after the step `t` for the request `r`,
before which `n` questions had been asked: the request is one to publish, of someone with the
credential `username`, under `topic`, which has `path` behind its channel. -/
structure Vouched (script : Script) (timeout : Duration) (n : Nat) (r : Http.Request)
    (t : Trace Http.Response) (m : Message) (username topic path : String) : Prop where
  method : r.method = "POST"
  target : r.path = "/auth_on_publish"
  named : "auth_on_publish".toList <:+: (r.headers.text "vernemq-hook").toList
  decoded : Hook.publish.readBody? (r.headers.text "content-type") r.body =
    some (.publish username topic m.payload m.contentType)
  credential : username ≠ ""
  channel : ChannelTopic.parse? topic = some ⟨m.channel, path⟩
  subtopic : Subtopic.normalize path = .ok m.subtopic
  asked : t.calls = [.canAccess username m.channel]
  granted : (script.reply n).result = .ok m.publisher
  inTime : (script.reply n).delay ≤ timeout
  contentType : m.contentType = r.headers.text "content-type"
  protocol : m.protocol = "mqtt"
  accepted : t.value = .bare 202

/-- A step has put on the bus what it should have, and nothing else: every message is vouched for,
there is exactly one if the step has accepted a request to publish, and there is none otherwise. -/
structure StepSound (script : Script) (timeout : Duration) (n : Nat) (r : Http.Request)
    (t : Trace Http.Response) : Prop where
  vouched : ∀ m ∈ t.published, ∃ username topic path,
    script.Vouched timeout n r t m username topic path
  one : r.path = "/auth_on_publish" → t.value.status = 202 → ∃ m, t.published = [m]
  silent : ¬ (r.path = "/auth_on_publish" ∧ t.value.status = 202) → t.published = []

variable (script : Script) (timeout : Duration)

/-- A step that puts nothing on the bus is sound if it has not accepted a request to publish. -/
theorem StepSound.of_silent {n : Nat} {r : Http.Request} {t : Trace Http.Response}
    (hpublished : t.published = [])
    (hstatus : r.path = "/auth_on_publish" → t.value.status ≠ 202) :
    script.StepSound timeout n r t where
  vouched := by simp [hpublished]
  one := fun hpath haccepted => absurd haccepted (hstatus hpath)
  silent := fun _ => hpublished

/-- A message that was taken is vouched for. -/
theorem Vouched.of_taken {r : Http.Request} {h : Hook} {q : Inquiry} {n k : Nat} {m : Message}
    (hmethod : r.method = "POST") (hpath : r.path = h.path)
    (hq : h.inquiry r.headers r.body = .ok q)
    (hm : q.taken? timeout (script.reply n) (script.refusal k) = some m) :
    ∃ username topic path,
      script.Vouched timeout n r ⟨.bare 202, [q.call], [m]⟩ m username topic path := by
  obtain ⟨hmessage, -⟩ := Inquiry.taken?_eq_some_iff.1 hm
  obtain ⟨thing, hresult, htime, haccept⟩ := Inquiry.message?_eq_some_iff.1 hmessage
  -- since there is a message the hook is the one to publish, and then the request is one, too
  obtain rfl := (Hook.eq_publish_iff hq thing).2 ⟨m, haccept⟩
  obtain ⟨hnamed, request, hbody, hinquiry⟩ := Hook.inquiry_eq_ok_iff.1 hq
  obtain ⟨username, topic, path, rfl, hne, hchannel, hsubtopic, hcall, rfl, hprotocol⟩ :=
    HookRequest.inquiry_publishes hinquiry haccept
  exact ⟨username, topic, path, {
    method := hmethod
    target := hpath
    named := (Hook.isNamedBy_iff .publish _).1 hnamed
    decoded := hbody
    credential := hne
    channel := hchannel
    subtopic := hsubtopic
    asked := by rw [hcall]
    granted := hresult
    inTime := htime
    contentType := (Hook.of_readBody? hbody).2 username topic m.payload m.contentType rfl
    protocol := hprotocol
    accepted := rfl }⟩

/-- A step with a question is sound. -/
theorem StepSound.of_inquiry {r : Http.Request} {s : State} {h : Hook} {q : Inquiry}
    (hmethod : r.method = "POST") (hpath : r.path = h.path)
    (hq : h.inquiry r.headers r.body = .ok q) :
    let v := (script.bridge timeout).runHook h r.headers r.body s.next
    script.StepSound timeout s.asked r (v.state.trace (.bare (Bridge.statusOf v.result))) := by
  rw [runHook_of_inquiry script timeout hq]
  simp only [State.next, State.trace, List.nil_append]
  cases ht : q.taken? timeout (script.reply s.asked) (script.refusal s.handed) with
  | some m =>
      obtain ⟨hmessage, hrefusal⟩ := Inquiry.taken?_eq_some_iff.1 ht
      rw [(Inquiry.outcome_of_message hmessage).2 hrefusal]
      obtain ⟨username, topic, path, hv⟩ := Vouched.of_taken script timeout hmethod hpath hq ht
      refine ⟨?_, fun _ _ => ⟨m, rfl⟩, fun hnot => absurd ⟨hv.target, rfl⟩ hnot⟩
      intro m' hm'
      rw [List.mem_singleton.1 hm']
      exact ⟨username, topic, path, hv⟩
  | none =>
      refine StepSound.of_silent script timeout rfl ?_
      intro htarget hstatus
      -- an accepted request to publish would have had its message taken
      have hhook : h = .publish := by
        rw [hpath] at htarget
        cases h
        · exact absurd htarget (by decide)
        · rfl
        · exact absurd htarget (by decide)
      subst hhook
      obtain ⟨m, hm⟩ := Hook.taken_of_outcome hq ((Bridge.statusOf_eq_accepted_iff _).1 hstatus)
      rw [ht] at hm
      exact absurd hm (by simp)

/-- **Every step is sound**, whatever happened before it. -/
theorem route_sound (r : Http.Request) (s : State) (worker : MetricsWorker) :
    let step := (script.bridge timeout).route r ⟨s.next, worker⟩
    script.StepSound timeout s.asked r (step.2.outside.trace step.1) ∧
      step.2.outside.asked = s.asked + step.2.outside.calls.length := by
  intro step
  by_cases hhook : ∃ h : Hook, r.path = h.path
  · obtain ⟨h, hpath⟩ := hhook
    by_cases hmethod : r.method = "POST"
    · have hroute : step = _ := Bridge.route_eq_answerHook _ h _ hmethod hpath
      rw [hroute]
      by_cases hread : r.IsReadable
      · rw [Bridge.answerHook_of_readable _ h _ hread]
        cases hq : h.inquiry r.headers r.body with
        | error error =>
            rw [Bridge.runHook_of_refused hq]
            refine ⟨StepSound.of_silent script timeout rfl fun _ hstatus => ?_, rfl⟩
            exact absurd ((Bridge.statusOf_eq_accepted_iff (.error error)).1 hstatus) (by simp)
        | ok q =>
            refine ⟨StepSound.of_inquiry script timeout hmethod hpath hq, ?_⟩
            rw [runHook_of_inquiry script timeout hq]
            rfl
      · -- a body that cannot be read is answered without a question
        obtain ⟨status, reason, hstatus, heq⟩ :=
          Bridge.answerHook_of_not_readable (script.bridge timeout) h ⟨s.next, worker⟩ hread
        rw [heq]
        refine ⟨StepSound.of_silent script timeout rfl fun _ haccepted => ?_, rfl⟩
        have hne : status ≠ 202 := by
          rintro rfl
          exact absurd hstatus (by decide)
        exact hne haccepted
    · have hroute : step = _ := Bridge.route_of_not_post _ h _ hmethod hpath
      rw [hroute]
      exact ⟨StepSound.of_silent script timeout rfl fun _ => by simp [State.trace], rfl⟩
  · have hpath : ∀ h : Hook, r.path ≠ h.path := fun h heq => hhook ⟨h, heq⟩
    have hstate : step.2 = ⟨s.next, worker⟩ := Bridge.route_of_no_hook _ _ hpath
    rw [hstate]
    refine ⟨StepSound.of_silent script timeout rfl fun htarget => ?_, rfl⟩
    exact absurd htarget (hpath .publish)

/-! ### Runs -/

/-- From any state, every step of a run is sound, with the questions of the steps before it behind
those that had been asked at the start. -/
theorem runRequests_sound_from (requests : List Http.Request) (s : BridgeState State) :
    let traces := (runRequests (script.bridge timeout) requests s).1
    ∀ (i : Nat) r t, requests[i]? = some r → traces[i]? = some t →
      script.StepSound timeout
        (s.outside.asked + ((traces.take i).flatMap (·.calls)).length) r t := by
  -- induction on the requests: the first step moves the script on by the questions it asks
  induction requests generalizing s with
  | nil =>
      intro traces i r t hr
      exact absurd hr (by simp)
  | cons r rest ih =>
      intro traces i
      have htraces : traces = _ := runRequests_cons (script.bridge timeout) r rest s
      obtain ⟨hstep, hasked⟩ := route_sound script timeout r s.outside s.metrics
      generalize (script.bridge timeout).route r ⟨s.outside.next, s.metrics⟩ = step
        at htraces hstep hasked
      cases i with
      | zero =>
          intro r' t hr ht
          rw [htraces] at ht
          obtain rfl := Option.some.inj hr
          obtain rfl := Option.some.inj ht
          exact hstep
      | succ i =>
          intro r' t hr ht
          rw [htraces] at ht ⊢
          have hrest := ih step.2 i r' t hr ht
          rw [hasked] at hrest
          simpa [List.take_succ_cons, State.trace, Nat.add_assoc] using hrest

/-- Someone registers, and then publishes under a topic with a query. -/
def twoRequests : List Http.Request :=
  [⟨"POST", "/auth_on_register", [("vernemq-hook", Utf8.encode "auth_on_register")],
      Utf8.encode "\x7b\"password\":\"key\"\x7d", none⟩,
    ⟨"POST", "/auth_on_publish", [("vernemq-hook", Utf8.encode "auth_on_publish")],
      Utf8.encode ("\x7b\"username\":\"key\",\"payload\":\"aGk\"," ++
        "\"topic\":\"/channels/c/messages/a%2Fb?q\"\x7d"), none⟩]

/-- A things service that takes its time, and names another thing each time. -/
def lateScript : Script := ⟨[⟨.ok "u1", .zero⟩, ⟨.ok "u2", .ofSeconds 1⟩], []⟩

/-- What comes of the second step. -/
def secondTrace : Trace Http.Response :=
  ⟨.bare 202, [.canAccess "key" "c"], [⟨"u2", "mqtt", "", "c", "a.b", [0x68, 0x69]⟩]⟩

end Script

end HookBridge
