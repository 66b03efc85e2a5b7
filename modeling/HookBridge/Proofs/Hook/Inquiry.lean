/-
**The question behind a hook request.**

A hook request is either refused by the bridge on its own, or it comes down to one question to the
things service and to what an identifier leads to.  `HookBridge.Hook.inquiry` says which, with all
the checks in front of the question in their order; and everything that happens to a hook request
afterwards is the one exchange of `HookBridge.Inquiry.verdict`.  What is proved about hook requests
elsewhere starts from these two.

Main definitions:

* `HookBridge.Inquiry` — a question to the things service, and what an identifier leads to;
* `HookBridge.HookRequest.inquiry`, `HookBridge.Hook.inquiry` — the question of a hook request, or
  why there is none;
* `HookBridge.Inquiry.verdict` — the question asked, once.

Main results:

* `HookBridge.HookRequest.decision_eq` — **a decision is a question asked once, or none**;
* `HookBridge.Bridge.runHook_of_refused`, `HookBridge.Bridge.runHook_of_inquiry` — the two ways of a
  hook request;
* `HookBridge.Hook.inquiry_eq_ok_iff` — which requests get as far as the question;
* `HookBridge.HookRequest.inquiry_publishes` — what must be so for a message to be handed on;
* `HookBridge.HookRequest.settle_eq_ok_iff`, `HookBridge.HookRequest.settle_eq_error_iff` — what
  becomes of the answer to a question.
-/

import HookBridge.Router

set_option relaxedAutoImplicit false
set_option autoImplicit false

namespace HookBridge

/-- A question to the things service, and what an identifier leads to. -/
structure Inquiry where
  call : Things.Call
  accept : String → Decision

namespace Inquiry

/-- A question on behalf of someone who gave a credential. -/
def ofCredential (credential : String) (call : Things.Call) (accept : String → Decision) :
    Except HookError Inquiry :=
  if credential = "" then .error (.auth .unauthorized) else .ok ⟨call, accept⟩

/-- The question asked, once. -/
def verdict {σ : Type} (q : Inquiry) (a : Authorizer σ) (s : σ) : Verdict HookError Decision σ :=
  let (reply, s) := a.things q.call s
  let (result, elapsed) := Authorizer.bounded a.timeout reply
  HookRequest.settle q.accept ⟨result, elapsed, s⟩

theorem ofCredential_eq_ok_iff {credential : String} {call : Things.Call}
    {accept : String → Decision} {q : Inquiry} :
    ofCredential credential call accept = .ok q ↔ credential ≠ "" ∧ q = ⟨call, accept⟩ := by
  by_cases h : credential = ""
  · simp [ofCredential, h]
  · simp [ofCredential, h, eq_comm]

theorem ofCredential_eq_error_iff {credential : String} {call : Things.Call}
    {accept : String → Decision} {error : HookError} :
    ofCredential credential call accept = .error error ↔
      credential = "" ∧ error = .auth .unauthorized := by
  by_cases h : credential = ""
  · simp [ofCredential, h, eq_comm]
  · simp [ofCredential, h]

theorem settle_ask {σ : Type} (a : Authorizer σ) (credential : String) (call : Things.Call)
    (accept : String → Decision) (s : σ) :
    HookRequest.settle accept (a.ask credential call s) =
      match ofCredential credential call accept with
      | .error error => HookRequest.refuse error s
      | .ok q => q.verdict a s := by
  by_cases h : credential = ""
  · simp only [Authorizer.ask, ofCredential, if_pos h]
    rfl
  · simp only [Authorizer.ask, ofCredential, if_neg h]
    rfl

end Inquiry

/-! ### Topics -/

namespace ChannelTopic

theorem parse_eq_ok_iff {topic : String} {address : ChannelTopic} :
    parse topic = .ok address ↔ parse? topic = some address := by
  rw [parse]
  cases parse? topic <;> simp

theorem parse_fails_iff {topic : String} :
    (∃ error, parse topic = .error error) ↔ parse? topic = none := by
  rw [parse]
  cases parse? topic <;> simp

end ChannelTopic

/-! ### Requests -/

/-- Whom a question is about. -/
def Things.Call.token : Things.Call → String
  | .identify token => token
  | .canAccess token _ => token

namespace HookRequest

/-- The hook that a request is for. -/
def hook : HookRequest → Hook
  | .register _ => .register
  | .publish .. => .publish
  | .subscribe .. => .subscribe

/-- Whom a request speaks for. -/
def credential : HookRequest → String
  | .register password => password
  | .publish username _ _ _ => username
  | .subscribe username _ => username

/-- The topic of a request, if it has one. -/
def topic? : HookRequest → Option String
  | .register _ => none
  | .publish _ topic _ _ => some topic
  | .subscribe _ topic => some topic

/-- The question that a request would put, if it has no topic or one that addresses a channel. -/
def call? : HookRequest → Option Things.Call
  | .register password => some (.identify password)
  | .publish username topic _ _ =>
      (ChannelTopic.parse? topic).map fun address => .canAccess username address.channel
  | .subscribe username topic =>
      (ChannelTopic.parse? topic).map fun address => .canAccess username address.channel

/-- The topic of a request addresses nothing. -/
def HasNoChannel (r : HookRequest) : Prop := ∃ topic ∈ r.topic?, ChannelTopic.parse? topic = none

/-- A request is one to publish, and the path of its topic has no canonical form. -/
def HasNoSubtopic (r : HookRequest) : Prop :=
  r.hook = .publish ∧ ∃ topic ∈ r.topic?, ∃ address ∈ ChannelTopic.parse? topic,
    ∃ fault, Subtopic.normalize address.path = .error fault

/-- The question of a request, or why there is none. -/
def inquiry : HookRequest → Except HookError Inquiry
  | .register password => Inquiry.ofCredential password (.identify password) .accepted
  | .publish username topic payload contentType =>
      match ChannelTopic.parse topic with
      | .error error => .error (.topic error)
      | .ok address =>
          match Subtopic.normalize address.path with
          | .error fault => .error (.topic fault.toError)
          | .ok subtopic =>
              Inquiry.ofCredential username (.canAccess username address.channel) fun thing =>
                .publish ⟨thing, Message.mqtt, contentType, address.channel, subtopic, payload⟩
  | .subscribe username topic =>
      match ChannelTopic.parse topic with
      | .error error => .error (.topic error)
      | .ok address =>
          Inquiry.ofCredential username (.canAccess username address.channel) .accepted

/-- **A decision is a question asked once, or none.** -/
theorem decision_eq {σ : Type} (r : HookRequest) (a : Authorizer σ) (s : σ) :
    r.decision a s =
      match r.inquiry with
      | .error error => refuse error s
      | .ok q => q.verdict a s := by
  cases r with
  | register password => exact Inquiry.settle_ask a password _ _ s
  | publish username topic payload contentType =>
      simp only [decision, inquiry]
      cases ChannelTopic.parse topic with
      | error error => rfl
      | ok address =>
          cases hs : Subtopic.normalize address.path with
          | error fault => simp only [hs]
          | ok subtopic =>
              simp only [hs]
              exact Inquiry.settle_ask a username _ _ s
  | subscribe username topic =>
      simp only [decision, inquiry]
      cases ChannelTopic.parse topic with
      | error error => rfl
      | ok address => exact Inquiry.settle_ask a username _ _ s

end HookRequest

/-! ### Which requests get as far as the question -/

namespace HookRequest

/-- A request is refused for the first of three reasons. -/
theorem inquiry_eq_error {r : HookRequest} {error : HookError} (hq : r.inquiry = .error error) :
    (r.HasNoChannel ∧ error.status = 400) ∨
    (¬ r.HasNoChannel ∧ r.HasNoSubtopic ∧ error.status = 400) ∨
    (¬ r.HasNoChannel ∧ ¬ r.HasNoSubtopic ∧ r.credential = "" ∧ error.status = 403) := by
  cases r with
  | register password =>
      obtain ⟨hempty, rfl⟩ := Inquiry.ofCredential_eq_error_iff.1 hq
      exact Or.inr (Or.inr ⟨by simp [HasNoChannel, topic?], by simp [HasNoSubtopic, topic?], hempty,
        rfl⟩)
  | publish username topic payload contentType =>
      rw [inquiry] at hq
      cases hp : ChannelTopic.parse? topic with
      | none =>
          obtain ⟨error', hp'⟩ := ChannelTopic.parse_fails_iff.2 hp
          simp only [hp'] at hq
          obtain rfl := Except.error.inj hq
          exact Or.inl ⟨⟨topic, rfl, hp⟩, rfl⟩
      | some address =>
          have hc : ¬ (publish username topic payload contentType).HasNoChannel := by
            simp [HasNoChannel, topic?, hp]
          simp only [ChannelTopic.parse_eq_ok_iff.2 hp] at hq
          cases hs : Subtopic.normalize address.path with
          | error fault =>
              simp only [hs] at hq
              obtain rfl := Except.error.inj hq
              exact Or.inr (Or.inl ⟨hc, ⟨rfl, topic, rfl, address, hp, fault, hs⟩, rfl⟩)
          | ok subtopic =>
              simp only [hs] at hq
              obtain ⟨hempty, rfl⟩ := Inquiry.ofCredential_eq_error_iff.1 hq
              exact Or.inr (Or.inr ⟨hc, by simp [HasNoSubtopic, topic?, hp, hs], hempty, rfl⟩)
  | subscribe username topic =>
      rw [inquiry] at hq
      cases hp : ChannelTopic.parse? topic with
      | none =>
          obtain ⟨error', hp'⟩ := ChannelTopic.parse_fails_iff.2 hp
          simp only [hp'] at hq
          obtain rfl := Except.error.inj hq
          exact Or.inl ⟨⟨topic, rfl, hp⟩, rfl⟩
      | some address =>
          simp only [ChannelTopic.parse_eq_ok_iff.2 hp] at hq
          obtain ⟨hempty, rfl⟩ := Inquiry.ofCredential_eq_error_iff.1 hq
          exact Or.inr (Or.inr ⟨by simp [HasNoChannel, topic?, hp], by simp [HasNoSubtopic, hook],
            hempty, rfl⟩)

/-- What a request with a question is like, hook by hook. -/
theorem inquiry_ok_cases {r : HookRequest} {q : Inquiry} (hq : r.inquiry = .ok q) :
    (∃ password, r = .register password ∧ password ≠ "" ∧ q = ⟨.identify password, .accepted⟩) ∨
    (∃ username topic payload contentType address subtopic,
      r = .publish username topic payload contentType ∧ username ≠ "" ∧
      ChannelTopic.parse? topic = some address ∧ Subtopic.normalize address.path = .ok subtopic ∧
      q = ⟨.canAccess username address.channel, fun thing =>
        .publish ⟨thing, Message.mqtt, contentType, address.channel, subtopic, payload⟩⟩) ∨
    (∃ username topic address, r = .subscribe username topic ∧ username ≠ "" ∧
      ChannelTopic.parse? topic = some address ∧
      q = ⟨.canAccess username address.channel, .accepted⟩) := by
  cases r with
  | register password =>
      obtain ⟨hne, rfl⟩ := Inquiry.ofCredential_eq_ok_iff.1 hq
      exact Or.inl ⟨password, rfl, hne, rfl⟩
  | publish username topic payload contentType =>
      rw [inquiry] at hq
      cases hp : ChannelTopic.parse topic with
      | error error => simp [hp] at hq
      | ok address =>
          cases hs : Subtopic.normalize address.path with
          | error fault => simp [hp, hs] at hq
          | ok subtopic =>
              simp only [hp, hs] at hq
              obtain ⟨hne, rfl⟩ := Inquiry.ofCredential_eq_ok_iff.1 hq
              exact Or.inr (Or.inl ⟨username, topic, payload, contentType, address, subtopic, rfl,
                hne, ChannelTopic.parse_eq_ok_iff.1 hp, hs, rfl⟩)
  | subscribe username topic =>
      rw [inquiry] at hq
      cases hp : ChannelTopic.parse topic with
      | error error => simp [hp] at hq
      | ok address =>
          simp only [hp] at hq
          obtain ⟨hne, rfl⟩ := Inquiry.ofCredential_eq_ok_iff.1 hq
          exact Or.inr (Or.inr ⟨username, topic, address, rfl, hne,
            ChannelTopic.parse_eq_ok_iff.1 hp, rfl⟩)

/-- A question is about whoever the request speaks for. -/
theorem token_of_inquiry {r : HookRequest} {q : Inquiry} (hq : r.inquiry = .ok q) :
    q.call.token = r.credential := by
  rcases inquiry_ok_cases hq with ⟨_, rfl, -, rfl⟩ | ⟨_, _, _, _, _, _, rfl, -, -, -, rfl⟩ |
    ⟨_, _, _, rfl, -, -, rfl⟩
  · rfl
  · rfl
  · rfl

/-- A request with a question has none of the three faults. -/
theorem inquiry_eq_ok {r : HookRequest} {q : Inquiry} (hq : r.inquiry = .ok q) :
    ¬ r.HasNoChannel ∧ ¬ r.HasNoSubtopic ∧ r.credential ≠ "" ∧ r.call? = some q.call := by
  rcases inquiry_ok_cases hq with ⟨password, rfl, hne, rfl⟩ |
    ⟨username, topic, payload, contentType, address, subtopic, rfl, hne, hp, hs, rfl⟩ |
    ⟨username, topic, address, rfl, hne, hp, rfl⟩
  · exact ⟨by simp [HasNoChannel, topic?], by simp [HasNoSubtopic, topic?], hne, rfl⟩
  · exact ⟨by simp [HasNoChannel, topic?, hp], by simp [HasNoSubtopic, topic?, hp, hs], hne,
      by simp [call?, hp]⟩
  · exact ⟨by simp [HasNoChannel, topic?, hp], by simp [HasNoSubtopic, hook], hne,
      by simp [call?, hp]⟩

/-- **What must be so for a message to be handed on**: the request is one to publish, its credential
is not empty, its topic addresses the message's channel and subtopic, and the question is whether
the credential may use that channel. -/
theorem inquiry_publishes {r : HookRequest} {q : Inquiry} {thing : String} {m : Message}
    (hq : r.inquiry = .ok q) (hm : q.accept thing = .publish m) :
    ∃ username topic path,
      r = .publish username topic m.payload m.contentType ∧ username ≠ "" ∧
      ChannelTopic.parse? topic = some ⟨m.channel, path⟩ ∧
      Subtopic.normalize path = .ok m.subtopic ∧
      q.call = .canAccess username m.channel ∧ m.publisher = thing ∧ m.protocol = Message.mqtt := by
  rcases inquiry_ok_cases hq with ⟨password, rfl, hne, rfl⟩ |
    ⟨username, topic, payload, contentType, address, subtopic, rfl, hne, hp, hs, rfl⟩ |
    ⟨username, topic, address, rfl, hne, hp, rfl⟩
  · exact absurd hm (by simp)
  · obtain rfl := Decision.publish.inj hm
    exact ⟨username, topic, address.path, rfl, hne, hp, hs, rfl, rfl, rfl⟩
  · exact absurd hm (by simp)

end HookRequest

/-! ### What becomes of an answer -/

namespace HookRequest

variable {σ : Type}

theorem settle_eq_ok_iff {accept : String → Decision} {v : Verdict AuthError String σ}
    {d : Decision} :
    (settle accept v).result = .ok d ↔ ∃ thing, v.result = .ok thing ∧ accept thing = d := by
  cases hv : v.result <;> simp [settle, Verdict.mapResult, hv]

theorem settle_eq_error_iff {accept : String → Decision} {v : Verdict AuthError String σ}
    {error : HookError} :
    (settle accept v).result = .error error ↔
      ∃ reason, v.result = .error reason ∧ .auth reason = error := by
  cases hv : v.result <;> simp [settle, Verdict.mapResult, hv]

end HookRequest

/-! ### Bodies and headers -/

namespace Hook

/-- The pattern stands in the text, with anything around it. -/
theorem occursIn_iff (pattern text : List Char) :
    occursIn pattern text = true ↔ pattern <:+: text := by
  induction text with
  | nil => simp [occursIn]
  | cons c rest ih =>
      rw [occursIn, Bool.or_eq_true, List.isPrefixOf_iff_prefix, ih, List.infix_cons_iff]

/-- A header value names a hook if the hook's name stands in it. -/
theorem isNamedBy_iff (h : Hook) (header : String) :
    h.isNamedBy header = true ↔ h.name.toList <:+: header.toList := occursIn_iff _ _

/-- A body is read through the texts of its fields. -/
theorem requestOf?_of_readBody? {h : Hook} {contentType : String} {body : Bytes} {r : HookRequest}
    (hr : h.readBody? contentType body = some r) :
    ∃ texts, h.requestOf? contentType texts = some r := by
  rw [readBody?] at hr
  split at hr
  · split at hr
    · exact ⟨_, hr⟩
    · exact absurd hr (by simp)
  · exact absurd hr (by simp)

/-- A body makes up a request for the hook that it was sent to, and one to publish takes over the
media type that came with it. -/
theorem of_readBody? {h : Hook} {contentType : String} {body : Bytes} {r : HookRequest}
    (hr : h.readBody? contentType body = some r) :
    r.hook = h ∧
      ∀ username topic payload mediaType, r = .publish username topic payload mediaType →
        mediaType = contentType := by
  obtain ⟨texts, htexts⟩ := requestOf?_of_readBody? hr
  unfold requestOf? at htexts
  split at htexts
  · obtain rfl := Option.some.inj htexts
    exact ⟨rfl, by simp⟩
  · obtain ⟨payload, -, rfl⟩ := Option.map_eq_some_iff.1 htexts
    exact ⟨rfl, by simp [eq_comm]⟩
  · obtain rfl := Option.some.inj htexts
    exact ⟨rfl, by simp⟩
  · exact absurd htexts (by simp)

theorem decode_eq_ok_iff {h : Hook} {headers : Http.Headers} {body : Bytes} {r : HookRequest} :
    h.decode headers body = .ok r ↔
      h.isNamedBy (headers.text headerName) = true ∧
        h.readBody? (headers.text "content-type") body = some r := by
  rw [decode]
  by_cases hn : h.isNamedBy (headers.text headerName) = true
  · rw [if_pos hn]
    cases h.readBody? (headers.text "content-type") body <;> simp [hn]
  · simp [hn]

/-- The question of a hook request, from its header fields and its body, or why there is none. -/
def inquiry (h : Hook) (headers : Http.Headers) (body : Bytes) : Except HookError Inquiry :=
  match h.decode headers body with
  | .error error => .error error
  | .ok r => r.inquiry

/-- Which requests get as far as the question. -/
theorem inquiry_eq_ok_iff {h : Hook} {headers : Http.Headers} {body : Bytes} {q : Inquiry} :
    h.inquiry headers body = .ok q ↔
      h.isNamedBy (headers.text headerName) = true ∧
        ∃ r, h.readBody? (headers.text "content-type") body = some r ∧ r.inquiry = .ok q := by
  rw [inquiry]
  cases hd : h.decode headers body with
  | error error =>
      simp only [reduceCtorEq, false_iff]
      rintro ⟨hn, r, hbody, -⟩
      rw [decode_eq_ok_iff.2 ⟨hn, hbody⟩] at hd
      exact absurd hd (by simp)
  | ok r =>
      obtain ⟨hn, hbody⟩ := decode_eq_ok_iff.1 hd
      simp [hn, hbody]

/-- It is the publish hook, and no other, whose questions lead to messages. -/
theorem eq_publish_iff {h : Hook} {headers : Http.Headers} {body : Bytes} {q : Inquiry}
    (hq : h.inquiry headers body = .ok q) (thing : String) :
    h = .publish ↔ ∃ m, q.accept thing = .publish m := by
  obtain ⟨-, r, hbody, hr⟩ := inquiry_eq_ok_iff.1 hq
  rw [← (of_readBody? hbody).1]
  rcases HookRequest.inquiry_ok_cases hr with ⟨password, rfl, -, rfl⟩ |
    ⟨username, topic, payload, contentType, address, subtopic, rfl, -, -, -, rfl⟩ |
    ⟨username, topic, address, rfl, -, -, rfl⟩
  · simp [HookRequest.hook]
  · simp [HookRequest.hook]
  · simp [HookRequest.hook]

end Hook

/-! ### The two ways of a hook request -/

namespace Bridge

variable {σ : Type} {b : Bridge σ} {h : Hook} {headers : Http.Headers} {body : Bytes}

/-- A request that is refused leaves no trace. -/
theorem runHook_of_refused {error : HookError} (hq : h.inquiry headers body = .error error)
    (s : σ) :
    b.runHook h headers body s = ⟨.error error, .zero, s⟩ := by
  rw [Hook.inquiry] at hq
  rw [runHook]
  cases hd : h.decode headers body with
  | error error' =>
      rw [hd] at hq
      obtain rfl := Except.error.inj hq
      rfl
  | ok r =>
      rw [hd] at hq
      simp only [HookRequest.decision_eq, hq]
      rfl

/-- A request that is not refused is what its question comes to. -/
theorem runHook_of_inquiry {q : Inquiry} (hq : h.inquiry headers body = .ok q) (s : σ) :
    b.runHook h headers body s = b.carryOut (q.verdict b.authorizer s) := by
  rw [Hook.inquiry] at hq
  rw [runHook]
  cases hd : h.decode headers body with
  | error error =>
      rw [hd] at hq
      exact absurd hq (by simp)
  | ok r =>
      rw [hd] at hq
      simp only [HookRequest.decision_eq, hq]

end Bridge

end HookBridge
