/-
**Payloads go through unread.**

Between the broker and the bus a payload is written in base64 twice, once by each of them, and in
JSON around it.  What the bridge reads are the bytes themselves, from whichever spelling the broker
has chosen; what it writes are the same bytes, padded.  Nothing in between depends on them, nor on
the media type that came with them.

Main definitions:

* `HookBridge.Hook.HoldsFields` — a body holds three texts to publish;
* `HookBridge.Http.Request.Publishes` — a request that publishes a payload;
* `HookBridge.Http.recording` — a transport that keeps record of what is posted;
* `HookBridge.Message.carrying` — a message with another payload and media type.

Main results:

* `HookBridge.Hook.readBody?_publish_iff` — a body to publish holds a spelling of its payload;
* `HookBridge.Message.parse?_json` — the text of a message says what the message does;
* `HookBridge.Bridge.posted_of_accepted` — what is posted for a request that is accepted;
* `HookBridge.Script.route_congr_payload` — **requests that differ in what they carry are one and
  the same**, but for what they carry;
* `HookBridge.payload_transparent` — **payloads go through unread**.
-/

import HookBridge.Proofs.Exchange
import HookBridge.Proofs.Json.Record
import HookBridge.Proofs.Text.Base64

set_option relaxedAutoImplicit false
set_option autoImplicit false

namespace HookBridge

/-! ### Bodies -/

namespace Hook

/-- The body holds these texts in the three fields of a request to publish, an absent one being
empty. -/
def HoldsFields (body : Bytes) (username topic payload : String) : Prop :=
  ∃ value username? topic? payload?, Json.parse? body = some value ∧
    Json.texts? Hook.publish.fields value = some [username?, topic?, payload?] ∧
    username?.getD "" = username ∧ topic?.getD "" = topic ∧ payload?.getD "" = payload

/-- A record of the three fields holds their texts. -/
theorem holdsFields_record (username topic payload : String) :
    HoldsFields (Utf8.encode (Json.record
      [("username", username), ("topic", topic), ("payload", payload)])) username topic payload :=
  ⟨_, some username, some topic, some payload, Json.parse?_record _,
    by simp [Json.texts?, Json.members, Json.valuesOf, Json.textOf?, fields], rfl, rfl, rfl⟩

/-- **A body to publish holds a spelling of its payload**, and any spelling will do. -/
theorem readBody?_publish_iff {mediaType : String} {body : Bytes}
    {username topic contentType : String} {payload : Bytes} :
    Hook.publish.readBody? mediaType body = some (.publish username topic payload contentType) ↔
      contentType = mediaType ∧
        ∃ text, HoldsFields body username topic text ∧ Base64.IsSpelling payload text := by
  constructor
  · intro h
    rw [readBody?] at h
    split at h
    · next value hvalue =>
      split at h
      · next texts htexts =>
        unfold requestOf? at h
        split at h
        · exact absurd h (by simp)
        · next username? topic? payload? =>
          obtain ⟨payload', hpayload, hr⟩ := Option.map_eq_some_iff.1 h
          obtain ⟨rfl, rfl, rfl, rfl⟩ := HookRequest.publish.inj hr
          exact ⟨rfl, _, ⟨value, _, _, _, hvalue, htexts, rfl, rfl, rfl⟩,
            Base64.decode?_eq_some_iff.1 hpayload⟩
        · exact absurd h (by simp)
        · exact absurd h (by simp)
      · exact absurd h (by simp)
    · exact absurd h (by simp)
  · rintro ⟨rfl, text, ⟨value, username?, topic?, payload?, hvalue, htexts, rfl, rfl, rfl⟩, htext⟩
    simp only [readBody?, hvalue, htexts, requestOf?, Base64.decode?_eq_some_iff.2 htext,
      Option.map_some]

end Hook

/-! ### Messages -/

/-- **The text of a message says what the message does.** -/
theorem Message.parse?_json (m : Message) :
    ∃ members, Json.parse? (Utf8.encode m.json) = some (.obj members) ∧
      Json.valuesOf "payload" members = [.str (some (Base64.encode m.payload))] ∧
      Json.valuesOf "contentType" members = [.str (some m.contentType)] :=
  ⟨_, Json.parse?_record m.fields, by simp [Json.valuesOf, Json.members, Message.fields],
    by simp [Json.valuesOf, Json.members, Message.fields]⟩

/-- The message with another payload and another media type. -/
def Message.carrying (m : Message) (payload : Bytes) (contentType : String) : Message :=
  { m with payload, contentType }

/-! ### What is posted -/

/-- The request is one to publish, and its body can be read and makes up these things. -/
structure Http.Request.Publishes (r : Http.Request) (username topic : String) (payload : Bytes) :
    Prop where
  method : r.method = "POST"
  path : r.path = "/auth_on_publish"
  readable : r.IsReadable
  decoded : Hook.publish.readBody? (r.headers.text "content-type") r.body =
    some (.publish username topic payload (r.headers.text "content-type"))

/-- A transport that keeps record of what is posted. -/
def Http.recording {σ : Type} (post : Http.Transport σ) : Http.Transport (σ × List Http.Posting) :=
  fun posting s =>
    let (exchange, outside) := post posting s.1
    (exchange, outside, s.2 ++ [posting])

namespace Bridge

/-- A question that comes to a good end has had an identifier for an answer, and the message that
this leads to, if any, has been handed over. -/
theorem carryOut_verdict_eq_ok {σ : Type} {b : Bridge σ} {q : Inquiry} {s : σ}
    (h : (b.carryOut (q.verdict b.authorizer s)).result = .ok ()) :
    let asked := b.authorizer.things q.call s
    ∃ thing, asked.1.result = .ok thing ∧ ∀ m, q.accept thing = .publish m →
      (b.carryOut (q.verdict b.authorizer s)).state = (b.publisher m asked.2).2 := by
  intro asked
  have hverdict : q.verdict b.authorizer s = HookRequest.settle q.accept
      ⟨(Authorizer.bounded b.authorizer.timeout asked.1).1, _, asked.2⟩ := rfl
  rw [hverdict] at h ⊢
  cases hb : (Authorizer.bounded b.authorizer.timeout asked.1).1 with
  | error error =>
      rw [hb] at h
      exact absurd h (by simp [carryOut, HookRequest.settle, Verdict.mapResult])
  | ok thing =>
      refine ⟨thing, ((Authorizer.bounded_eq_ok_iff _ _ _).1 hb).1, fun m hm => ?_⟩
      simp only [carryOut, HookRequest.settle, Verdict.mapResult, hm]

variable {σ : Type} (s : Settings) (post : Http.Transport σ) {r : Http.Request}

/-- **What is posted for a request to publish that is accepted**: its question, and then a text for
the bus that holds its payload, padded, and its media type. -/
theorem posted_of_accepted {url username topic : String} {payload : Bytes}
    (hurl : s.publisherUrl = some url) (hr : r.Publishes username topic payload) (outside : σ)
    (before : List Http.Posting) (worker : MetricsWorker) :
    let step := (s.bridge (Http.recording post)).route r ⟨(outside, before), worker⟩
    step.1.status = 202 →
      ∃ call m, step.2.outside.2 = before ++
          [s.thingsClient.posting call, ⟨url, Message.json m, s.publisherPatience⟩] ∧
        m.payload = payload ∧ m.contentType = r.headers.text "content-type" := by
  intro step
  have hroute : step = _ := route_eq_answerHook _ .publish _ hr.method hr.path
  rw [hroute, answerHook_of_readable _ .publish _ hr.readable]
  intro haccepted
  have hresult := (statusOf_eq_accepted_iff _).1 haccepted
  clear hroute haccepted
  cases hq : Hook.publish.inquiry r.headers r.body with
  | error error =>
      rw [runHook_of_refused hq] at hresult
      exact absurd hresult (by simp)
  | ok q =>
      obtain ⟨-, request, hrequest, hinquiry⟩ := Hook.inquiry_eq_ok_iff.1 hq
      obtain rfl := Option.some.inj (hr.decoded.symm.trans hrequest)
      rw [runHook_of_inquiry hq] at hresult ⊢
      obtain ⟨thing, -, hstate⟩ := carryOut_verdict_eq_ok hresult
      obtain ⟨m, hm⟩ := (Hook.eq_publish_iff hq thing).1 rfl
      obtain ⟨_, _, _, hpublish, -⟩ := HookRequest.inquiry_publishes hinquiry hm
      obtain ⟨-, -, rfl, hcontentType⟩ := HookRequest.publish.inj hpublish
      refine ⟨q.call, m, (congrArg Prod.snd (hstate m hm)).trans ?_, rfl, hcontentType.symm⟩
      simp only [Settings.bridge, Settings.publisher, hurl]
      exact List.append_assoc before [s.thingsClient.posting q.call] _

end Bridge

/-! ### Requests that differ in what they carry -/

/-- The question of a message that carries a payload and a media type. -/
def Inquiry.sending (call : Things.Call) (message : String → Message) (payload : Bytes)
    (contentType : String) : Inquiry :=
  ⟨call, fun thing => .publish ((message thing).carrying payload contentType)⟩

/-- Whatever a request carries, it is refused for the same reason, or it has the same question and
leads to the same message, which carries this. -/
theorem HookRequest.inquiry_publish_cases (username topic : String) :
    (∃ error, ∀ payload contentType,
      (publish username topic payload contentType).inquiry = .error error) ∨
    ∃ call message, ∀ payload contentType,
      (publish username topic payload contentType).inquiry =
        .ok (Inquiry.sending call message payload contentType) := by
  cases hparse : ChannelTopic.parse topic with
  | error error =>
      exact Or.inl ⟨.topic error, fun payload contentType => by simp only [inquiry, hparse]⟩
  | ok address =>
      cases hnormalize : Subtopic.normalize address.path with
      | error fault =>
          refine Or.inl ⟨.topic fault.toError, fun payload contentType => ?_⟩
          simp only [inquiry, hparse, hnormalize]
      | ok subtopic =>
          by_cases hcredential : username = ""
          · refine Or.inl ⟨.auth .unauthorized, fun payload contentType => ?_⟩
            simp only [inquiry, hparse, hnormalize, Inquiry.ofCredential, if_pos hcredential]
          · refine Or.inr ⟨.canAccess username address.channel,
              fun thing => ⟨thing, Message.mqtt, "", address.channel, subtopic, []⟩,
              fun payload contentType => ?_⟩
            simp only [inquiry, hparse, hnormalize, Inquiry.ofCredential, if_neg hcredential]
            rfl

/-- The same goes for two requests as they arrive, if they name their hooks alike. -/
theorem Http.Request.Publishes.inquiry_cases {r r' : Http.Request} {username topic : String}
    {payload payload' : Bytes} (hr : r.Publishes username topic payload)
    (hr' : r'.Publishes username topic payload')
    (hname : r.headers.text "vernemq-hook" = r'.headers.text "vernemq-hook") :
    (∃ error, Hook.publish.inquiry r.headers r.body = .error error ∧
      Hook.publish.inquiry r'.headers r'.body = .error error) ∨
    ∃ call message, Hook.publish.inquiry r.headers r.body =
        .ok (Inquiry.sending call message payload (r.headers.text "content-type")) ∧
      Hook.publish.inquiry r'.headers r'.body =
        .ok (Inquiry.sending call message payload' (r'.headers.text "content-type")) := by
  simp only [Hook.inquiry, Hook.decode, Hook.headerName, hname, hr.decoded, hr'.decoded]
  by_cases hnamed : Hook.publish.isNamedBy (r'.headers.text "vernemq-hook") = true
  · simp only [if_pos hnamed]
    rcases HookRequest.inquiry_publish_cases username topic with ⟨error, herror⟩ |
      ⟨call, message, hok⟩
    · exact Or.inl ⟨error, herror _ _, herror _ _⟩
    · exact Or.inr ⟨call, message, hok _ _, hok _ _⟩
  · simp only [if_neg hnamed]
    exact Or.inl ⟨_, rfl, rfl⟩

namespace Inquiry

variable (call : Things.Call) (message : String → Message) (timeout : Duration)
  (reply : Things.Reply)

/-- The message of an answer is the same whatever it carries. -/
theorem message?_sending : ∃ m : Option Message, ∀ payload contentType,
    (sending call message payload contentType).message? timeout reply =
      m.map (·.carrying payload contentType) := by
  cases hb : (Authorizer.bounded timeout reply).1 with
  | error error => exact ⟨none, fun _ _ => by simp only [message?, hb, Option.map_none]⟩
  | ok thing =>
      exact ⟨some (message thing), fun _ _ => by
        simp only [message?, hb, sending, Option.map_some]⟩

/-- And so is what becomes of it. -/
theorem outcome_sending (refusal : Option String) (payload payload' : Bytes)
    (contentType contentType' : String) :
    (sending call message payload contentType).outcome timeout reply refusal =
      (sending call message payload' contentType').outcome timeout reply refusal := by
  cases hb : (Authorizer.bounded timeout reply).1 with
  | error error => simp only [outcome, hb]
  | ok thing =>
      simp only [outcome, message?, hb, sending]
      cases refusal <;> rfl

end Inquiry

namespace Script

variable (script : Script) (timeout : Duration)

/-- **Requests that differ in what they carry are one and the same** but for what they carry: from
one state they are answered alike, ask the same, and have the same messages taken. -/
theorem route_congr_payload {r r' : Http.Request} {username topic : String}
    {payload payload' : Bytes} (hr : r.Publishes username topic payload)
    (hr' : r'.Publishes username topic payload')
    (hname : r.headers.text "vernemq-hook" = r'.headers.text "vernemq-hook") (s : State)
    (worker : MetricsWorker) :
    let step := (script.bridge timeout).route r ⟨s, worker⟩
    let step' := (script.bridge timeout).route r' ⟨s, worker⟩
    step.1 = step'.1 ∧ step.2.metrics = step'.2.metrics ∧
      step.2.outside.asked = step'.2.outside.asked ∧
      step.2.outside.handed = step'.2.outside.handed ∧
      step.2.outside.calls = step'.2.outside.calls ∧ ∃ messages : List Message,
        step.2.outside.published = s.published ++
          messages.map (·.carrying payload (r.headers.text "content-type")) ∧
        step'.2.outside.published = s.published ++
          messages.map (·.carrying payload' (r'.headers.text "content-type")) := by
  intro step step'
  have hroute : step = _ := Bridge.route_eq_answerHook _ .publish _ hr.method hr.path
  have hroute' : step' = _ := Bridge.route_eq_answerHook _ .publish _ hr'.method hr'.path
  rw [hroute, hroute', Bridge.answerHook_of_readable _ .publish _ hr.readable,
    Bridge.answerHook_of_readable _ .publish _ hr'.readable]
  rcases hr.inquiry_cases hr' hname with ⟨error, hq, hq'⟩ | ⟨call, message, hq, hq'⟩
  · rw [Bridge.runHook_of_refused hq, Bridge.runHook_of_refused hq']
    exact ⟨rfl, rfl, rfl, rfl, rfl, [], by simp, by simp⟩
  · obtain ⟨m, hm⟩ := Inquiry.message?_sending call message timeout (script.reply s.asked)
    rw [runHook_of_inquiry script timeout hq, runHook_of_inquiry script timeout hq']
    have houtcome := Inquiry.outcome_sending call message timeout (script.reply s.asked)
      (script.refusal s.handed) payload payload' (r.headers.text "content-type")
      (r'.headers.text "content-type")
    refine ⟨?_, ?_, rfl, ?_, rfl, ?_⟩
    · simp only [houtcome]
    · simp only [houtcome]
    · simp only [hm, Option.toList_map, List.length_map]
    · -- a message that is not taken is none, whatever it carries
      cases script.refusal s.handed with
      | none => exact ⟨m.toList, by simp only [Inquiry.taken?, hm, Option.toList_map],
          by simp only [Inquiry.taken?, hm, Option.toList_map]⟩
      | some reason => exact ⟨[], rfl, rfl⟩

end Script

/-- **Payloads go through unread.**  A body to publish says which bytes are the payload by any
spelling of them, and by nothing else.  If the request is accepted, the text that is posted to the
bus holds the payload, padded, and the media type that came with it.  And two requests that differ
in these two only are one and the same but for these two: whatever has been before, they are
answered alike, ask the same, and have the same messages taken. -/
theorem payload_transparent :
    (∀ (mediaType : String) (body : Bytes) (username topic contentType : String) (payload : Bytes),
      Hook.publish.readBody? mediaType body =
          some (.publish username topic payload contentType) ↔
        contentType = mediaType ∧
          ∃ text, Hook.HoldsFields body username topic text ∧ Base64.IsSpelling payload text) ∧
    (∀ (σ : Type) (s : Settings) (post : Http.Transport σ) (url : String) (r : Http.Request)
      (username topic : String) (payload : Bytes) (outside : σ) (before : List Http.Posting)
      (worker : MetricsWorker), s.publisherUrl = some url → r.Publishes username topic payload →
      let step := (s.bridge (Http.recording post)).route r ⟨(outside, before), worker⟩
      step.1.status = 202 →
        ∃ call sent members,
          step.2.outside.2 = before ++ [s.thingsClient.posting call, sent] ∧ sent.url = url ∧
          Json.parse? (Utf8.encode sent.body) = some (.obj members) ∧
          Json.valuesOf "payload" members = [.str (some (Base64.encode payload))] ∧
          Json.valuesOf "contentType" members =
            [.str (some (r.headers.text "content-type"))]) ∧
    ∀ (script : Script) (timeout : Duration) (r r' : Http.Request) (username topic : String)
      (payload payload' : Bytes) (s : Script.State) (worker : MetricsWorker),
      r.Publishes username topic payload → r'.Publishes username topic payload' →
      r.headers.text "vernemq-hook" = r'.headers.text "vernemq-hook" →
      let step := (script.bridge timeout).route r ⟨s, worker⟩
      let step' := (script.bridge timeout).route r' ⟨s, worker⟩
      step.1 = step'.1 ∧ step.2.metrics = step'.2.metrics ∧
        step.2.outside.asked = step'.2.outside.asked ∧
        step.2.outside.handed = step'.2.outside.handed ∧
        step.2.outside.calls = step'.2.outside.calls ∧ ∃ messages : List Message,
          step.2.outside.published = s.published ++
            messages.map (·.carrying payload (r.headers.text "content-type")) ∧
          step'.2.outside.published = s.published ++
            messages.map (·.carrying payload' (r'.headers.text "content-type")) := by
  refine ⟨fun _ _ _ _ _ _ => Hook.readBody?_publish_iff, ?_, ?_⟩
  · intro σ s post url r username topic payload outside before worker hurl hr step haccepted
    obtain ⟨call, m, hposted, hpayload, hcontentType⟩ :=
      Bridge.posted_of_accepted s post hurl hr outside before worker haccepted
    obtain ⟨members, hparse, hvalue, hvalue'⟩ := m.parse?_json
    exact ⟨call, _, members, hposted, rfl, hparse, hpayload ▸ hvalue, hcontentType ▸ hvalue'⟩
  · intro script timeout r r' username topic payload payload' s worker hr hr' hname
    exact script.route_congr_payload timeout hr hr' hname s worker

/-- A request to publish a payload, however it is spelled, of a media type. -/
def carrier (payload contentType : String) : Http.Request :=
  ⟨"POST", "/auth_on_publish",
    [("vernemq-hook", Utf8.encode "auth_on_publish"), ("content-type", Utf8.encode contentType)],
    Utf8.encode (Json.record
      [("username", "key"), ("topic", "/channels/c/messages"), ("payload", payload)]), none⟩

theorem carrier_publishes {payload : Bytes} {text contentType : String}
    (htext : Base64.IsSpelling payload text)
    (hlength : (carrier text contentType).body.length ≤ 2097152) :
    (carrier text contentType).Publishes "key" "/channels/c/messages" payload where
  method := rfl
  path := by
    simp only [Http.Request.path, carrier]
    decide
  readable := ⟨hlength, rfl⟩
  decoded := by
    refine Hook.readBody?_publish_iff.2 ⟨rfl, text, ?_, htext⟩
    simp only [carrier]
    exact Hook.holdsFields_record "key" "/channels/c/messages" text

/-- Settings with a bus. -/
def withBus : Settings := ⟨0, "http://things", 1, some "http://bus", 1, "stdout", "info"⟩

/-- A transport to someone who takes everything and knows everyone. -/
def obligingPost : Http.Transport Unit := fun _ s =>
  (⟨.response 200 (Utf8.encode "\x7b\"value\":\"u1\"\x7d"), .zero⟩, s)

/-- The payload is not padded on its way in, and is on its way out. -/
theorem payload_transparent_unpadded :
    let r := carrier "aGk" "text/plain"
    let r' := carrier "AA=" ""
    let step := (withBus.bridge (Http.recording obligingPost)).route r ⟨((), []), .gone⟩
    let b := (Script.mk [] []).bridge .zero
    (∃ text, Hook.HoldsFields r.body "key" "/channels/c/messages" text ∧
        Base64.IsSpelling [0x68, 0x69] text) ∧
      r.Publishes "key" "/channels/c/messages" [0x68, 0x69] ∧
      r'.Publishes "key" "/channels/c/messages" [0] ∧ step.1.status = 202 ∧
      (∃ call sent members,
        step.2.outside.2 = [withBus.thingsClient.posting call, sent] ∧
        sent.url = "http://bus" ∧ Json.parse? (Utf8.encode sent.body) = some (.obj members) ∧
        Json.valuesOf "payload" members = [.str (some "aGk=")] ∧
        Json.valuesOf "contentType" members = [.str (some "text/plain")]) ∧
      (b.route r ⟨.start, .gone⟩).1 = (b.route r' ⟨.start, .gone⟩).1 := by
  intro r r' step b
  obtain ⟨hread, hposted, hcongr⟩ := payload_transparent
  have hr : r.Publishes "key" "/channels/c/messages" [0x68, 0x69] :=
    carrier_publishes ⟨1, by decide⟩ (by decide +kernel)
  have hr' : r'.Publishes "key" "/channels/c/messages" [0] :=
    carrier_publishes ⟨1, by decide⟩ (by decide +kernel)
  have haccepted : step.1.status = 202 := by decide +kernel
  have hencode : Base64.encode [0x68, 0x69] = "aGk=" := by decide
  have htype : r.headers.text "content-type" = "text/plain" := by decide +kernel
  refine ⟨((hread ..).1 hr.decoded).2, hr, hr', haccepted, ?_, ?_⟩
  · rw [← hencode, ← htype]
    exact hposted Unit withBus obligingPost "http://bus" r "key" "/channels/c/messages" [0x68, 0x69]
      () [] .gone rfl hr haccepted
  · exact (hcongr (Script.mk [] []) .zero r r' "key" "/channels/c/messages" [0x68, 0x69] [0] .start
      .gone hr hr' (by decide +kernel)).1

end HookBridge
