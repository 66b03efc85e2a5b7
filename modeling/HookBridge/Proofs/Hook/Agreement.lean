/-
**Publishing and subscribing are authorized alike.**

A client may publish under a topic exactly if it may subscribe to it.  The two hooks put the same
question and refuse for the same reasons; they differ in what an identifier leads to, and in that a
message needs a canonical subtopic, of which a subscription knows nothing.

Main definitions:

* `HookBridge.HookRequest.Agree` — two verdicts that differ in what an identifier leads to, and in
  nothing else.

Main results:

* `HookBridge.HookRequest.Agree.of_settle` — two requests with one question agree;
* `HookBridge.HookRequest.subscribe_congr_channel` — **a subscription depends on the channel of its
  topic only**;
* `HookBridge.HookRequest.publish_agrees_with_subscribe` — **the two hooks agree** wherever there is
  a subtopic.
-/

import HookBridge.Proofs.Topic
import HookBridge.Proofs.Hook.Inquiry
import HookBridge.Scripted

set_option relaxedAutoImplicit false
set_option autoImplicit false

namespace HookBridge

/-- The topic that is nothing but the channel of another topic. -/
theorem ChannelTopic.parse_channel_alone {topic : String} {address : ChannelTopic}
    (h : parse topic = .ok address) :
    parse ("/channels/" ++ address.channel ++ "/messages") = .ok ⟨address.channel, ""⟩ := by
  obtain ⟨part, query, hwritten⟩ := parse?_eq_some_iff.1 (parse_eq_ok_iff.1 h)
  rw [parse_eq_ok_iff, parse?_eq_some_iff]
  refine ⟨"", "", ?_, hwritten.channel, IsPathPart.absent, IsQueryPart.absent⟩
  rw [String.append_empty, String.append_empty]

namespace HookRequest

variable {σ : Type}

/-! ### Agreement -/

/-- The verdict `p` on a request to publish and the verdict `q` on one to subscribe agree: the same
has been asked in the same time, the same identifier or the same error has come of it. -/
structure Agree (p q : Verdict HookError Decision σ) : Prop where
  state : p.state = q.state
  elapsed : p.elapsed = q.elapsed
  accepted : ∀ thing, (∃ m, p.result = .ok (.publish m) ∧ m.publisher = thing) ↔
    q.result = .ok (.accepted thing)
  refused : ∀ error, p.result = .error error ↔ q.result = .error error

/-- Two requests that are refused alike agree. -/
theorem Agree.of_refuse (error : HookError) (s : σ) : Agree (refuse error s) (refuse error s) where
  state := rfl
  elapsed := rfl
  accepted := by simp [refuse]
  refused := fun _ => Iff.rfl

/-- Two requests with one question agree, if a message of the one is published by whoever the other
accepts. -/
theorem Agree.of_settle {message : String → Message}
    (hm : ∀ thing, (message thing).publisher = thing) (v : Verdict AuthError String σ) :
    Agree (settle (fun thing => .publish (message thing)) v) (settle .accepted v) where
  state := rfl
  elapsed := rfl
  accepted := by
    intro thing
    simp only [settle_eq_ok_iff, Decision.publish.injEq, Decision.accepted.injEq]
    constructor
    · rintro ⟨m, ⟨thing', hv, rfl⟩, rfl⟩
      exact ⟨thing', hv, (hm thing').symm⟩
    · rintro ⟨thing', hv, rfl⟩
      exact ⟨message thing', ⟨thing', hv, rfl⟩, hm thing'⟩
  refused := fun error => by rw [settle_eq_error_iff, settle_eq_error_iff]

/-! ### The two hooks -/

variable (a : Authorizer σ) (username topic contentType : String) (payload : Bytes) (s : σ)

/-- The path of the topic may be anything that has a canonical form. -/
theorem publish_agrees (hpath : ∀ address fault, ChannelTopic.parse topic = .ok address →
      Subtopic.normalize address.path ≠ .error fault) :
    Agree ((publish username topic payload contentType).decision a s)
      ((subscribe username topic).decision a s) := by
  cases hparse : ChannelTopic.parse topic with
  | error error =>
      simp only [decision, hparse]
      exact Agree.of_refuse (.topic error) s
  | ok address =>
      cases hnormalize : Subtopic.normalize address.path with
      | error fault => exact absurd hnormalize (hpath address fault hparse)
      | ok subtopic =>
          simp only [decision, hparse, hnormalize]
          exact Agree.of_settle (fun _ => rfl) (a.authorize username address.channel s)

/-- The message that is published is the one that the request makes up. -/
theorem publish_eq_ok_iff {address : ChannelTopic} {subtopic : String}
    (hparse : ChannelTopic.parse topic = .ok address)
    (hnormalize : Subtopic.normalize address.path = .ok subtopic) (m : Message) :
    ((publish username topic payload contentType).decision a s).result = .ok (.publish m) ↔
      ((subscribe username topic).decision a s).result = .ok (.accepted m.publisher) ∧
        m = ⟨m.publisher, "mqtt", contentType, address.channel, subtopic, payload⟩ := by
  simp only [decision, hparse, hnormalize, settle_eq_ok_iff, Decision.publish.injEq,
    Decision.accepted.injEq, exists_eq_right]
  constructor
  · rintro ⟨thing, hv, rfl⟩
    exact ⟨hv, rfl⟩
  · rintro ⟨hv, hm⟩
    exact ⟨m.publisher, hv, hm.symm⟩

/-- **A subscription depends on the channel of its topic only.** -/
theorem subscribe_congr_channel {topic topic' : String} {address address' : ChannelTopic}
    (hparse : ChannelTopic.parse topic = .ok address)
    (hparse' : ChannelTopic.parse topic' = .ok address')
    (hchannel : address.channel = address'.channel) :
    (subscribe username topic).decision a s = (subscribe username topic').decision a s := by
  simp only [decision, hparse, hparse', hchannel]

/-- **The two hooks agree.**  Started from one position of a script, a request to publish and one to
subscribe to the same topic by the same client ask the same and come to the same, be it an
identifier or an error; only where the path of the topic has no canonical form the one to publish is
refused for this, and asks nothing.  What is behind the channel of its topic makes no difference to
a subscription. -/
theorem publish_agrees_with_subscribe (script : Script) (timeout : Duration) (s : Script.State)
    (username topic contentType : String) (payload : Bytes) :
    let a := script.authorizer timeout
    let p := (publish username topic payload contentType).decision a s
    let q := (subscribe username topic).decision a s
    (∀ address fault, ChannelTopic.parse topic = .ok address →
      Subtopic.normalize address.path = .error fault →
        p = ⟨.error (.topic (.malformedSubtopic fault.detail)), .zero, s⟩) ∧
    ((∀ address fault, ChannelTopic.parse topic = .ok address →
      Subtopic.normalize address.path ≠ .error fault) → Agree p q) ∧
    (∀ address subtopic m, ChannelTopic.parse topic = .ok address →
      Subtopic.normalize address.path = .ok subtopic →
        (p.result = .ok (.publish m) ↔ q.result = .ok (.accepted m.publisher) ∧
          m = ⟨m.publisher, "mqtt", contentType, address.channel, subtopic, payload⟩)) ∧
    (∀ address, ChannelTopic.parse topic = .ok address →
      q = (subscribe username ("/channels/" ++ address.channel ++ "/messages")).decision a s) := by
  intro a p q
  refine ⟨?_, ?_, ?_, ?_⟩
  · intro address fault hparse hnormalize
    simp only [p, decision, hparse, hnormalize]
    rfl
  · intro hpath
    exact publish_agrees a username topic contentType payload s hpath
  · intro address subtopic m hparse hnormalize
    exact publish_eq_ok_iff a username topic contentType payload s hparse hnormalize m
  · intro address hparse
    exact subscribe_congr_channel a username s hparse (ChannelTopic.parse_channel_alone hparse) rfl

/-- A mixed wild card, and two levels with an escaped separator, when the second answer of a things
service comes just in time. -/
theorem publish_agrees_with_subscribe_wildcard :
    let script : Script := ⟨[⟨.error ⟨.notFound, "mock"⟩, .zero⟩, ⟨.ok "u7", .ofSeconds 1⟩], []⟩
    let a := script.authorizer (.ofSeconds 1)
    let s : Script.State := ⟨1, 0, [], []⟩
    let mixed := "/channels/c/messages/a*b"
    let levels := "/channels/c/messages/a%2Fb?q"
    let m : Message := ⟨"u7", "mqtt", "text/plain", "c", "a.b", [0x31]⟩
    ChannelTopic.parse mixed = .ok ⟨"c", "a*b"⟩ ∧
      Subtopic.normalize "a*b" = .error (.mixedWildcard "a*b") ∧
      ((publish "key" mixed [0x31] "text/plain").decision a s).state = s ∧
      Agree ((publish "key" levels [0x31] "text/plain").decision a s)
        ((subscribe "key" levels).decision a s) ∧
      ((publish "key" levels [0x31] "text/plain").decision a s).result = .ok (.publish m) ∧
      (subscribe "key" mixed).decision a s =
        (subscribe "key" "/channels/c/messages").decision a s := by
  intro script a s mixed levels m
  have hmixed : ChannelTopic.parse mixed = .ok ⟨"c", "a*b"⟩ := by decide
  have hfault : Subtopic.normalize "a*b" = .error (.mixedWildcard "a*b") := by rfl
  have hlevels : ChannelTopic.parse levels = .ok ⟨"c", "a%2Fb"⟩ := by decide
  have hsubtopic : Subtopic.normalize "a%2Fb" = .ok "a.b" := by rfl
  have haccepted : ((subscribe "key" levels).decision a s).result = .ok (.accepted "u7") := by
    simp only [decision, hlevels]
    rfl
  have hall := publish_agrees_with_subscribe script (.ofSeconds 1) s "key" levels "text/plain"
    [0x31]
  have hall' := publish_agrees_with_subscribe script (.ofSeconds 1) s "key" mixed "text/plain"
    [0x31]
  refine ⟨hmixed, hfault, ?_, ?_, ?_, hall'.2.2.2 _ hmixed⟩
  · exact congrArg Verdict.state (hall'.1 _ _ hmixed hfault)
  · refine hall.2.1 fun address fault haddress => ?_
    rw [hlevels] at haddress
    obtain rfl := Except.ok.inj haddress
    rw [hsubtopic]
    simp
  · exact (hall.2.2.1 _ _ m hlevels hsubtopic).2 ⟨haccepted, rfl⟩

end HookRequest

end HookBridge
