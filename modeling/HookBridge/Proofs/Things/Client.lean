/-
**Credentials arrive as they are.**

A credential is a text that a stranger has chosen, and the bridge hands it on to the things service
in a text of its own.  Whatever the credential holds, it is one string in this text and nothing
else: the service reads back what was asked, at the path of the question, and once.

Main definitions:

* `HookBridge.Things.Call.read?` — the question that a body holds, for whoever reads it;
* `HookBridge.Things.baseText` — a plain base address, with slashes behind it;
* `HookBridge.Things.Client.PostsTo` — a client asks a question once, and where.

Main results:

* `HookBridge.Things.Call.read?_body` — **what is read back is the question**;
* `HookBridge.Things.Client.new_append_slashes` — slashes behind a base address do not count;
* `HookBridge.Things.Client.postsTo_plain` — where the questions of a client go;
* `HookBridge.Bridge.posted_of_hook` — what is posted for a hook request;
* `HookBridge.Things.credentials_arrive` — **credentials arrive as they are**.
-/

import HookBridge.Proofs.Http.Url
import HookBridge.Proofs.Json.Text
import HookBridge.Proofs.Payload

set_option relaxedAutoImplicit false
set_option autoImplicit false

namespace HookBridge

/-! ### Peers that listen -/

/-- What is posted goes to the first peer that listens there. -/
theorem Http.Network.deliver_of_listening {endpoint : String} {net : Http.Network}
    (h : ∃ p ∈ net, p.endpoint = endpoint) (r : Http.SeenRequest) :
    ∃ before p after, net = before ++ p :: after ∧ p.endpoint = endpoint ∧
      deliver endpoint r net = (some p.answer, before ++ p.receive r :: after) := by
  induction net with
  | nil =>
      obtain ⟨p, hp, -⟩ := h
      exact absurd hp (by simp)
  | cons q net ih =>
      by_cases hq : q.endpoint = endpoint
      · refine ⟨[], q, net, rfl, hq, ?_⟩
        rw [deliver, if_pos (by simpa using hq)]
        rfl
      · have hrest : ∃ p ∈ net, p.endpoint = endpoint := by
          obtain ⟨p, hp, hendpoint⟩ := h
          rcases List.mem_cons.1 hp with rfl | hp
          · exact absurd hendpoint hq
          · exact ⟨p, hp, hendpoint⟩
        obtain ⟨before, p, after, rfl, hp, hdeliver⟩ := ih hrest
        refine ⟨q :: before, p, after, rfl, hp, ?_⟩
        rw [deliver, if_neg (by simpa using hq), hdeliver]
        rfl

namespace Things

open Http

/-! ### Questions -/

namespace Call

/-- The object that the things service is told. -/
def value : Call → Json.Value
  | identify token => .obj [(some "token", .str (some token))]
  | canAccess token channel =>
      .obj [(some "token", .str (some token)), (some "chanID", .str (some channel))]

/-- The question that the fields of a record make up. -/
def ofTexts? : List (Option String) → Option Call
  | [some token, none] => some (identify token)
  | [some token, some channel] => some (canAccess token channel)
  | _ => none

/-- The question that a body holds. -/
def read? (body : Bytes) : Option Call :=
  (Json.parse? body).bind fun v => (Json.texts? ["token", "chanID"] v).bind ofTexts?

/-- The text of a question is one of its object, and of nothing else. -/
theorem isText_body_iff {call : Call} {v : Json.Value} :
    Json.IsText (Utf8.encode call.body) v ↔ v = call.value := by
  cases call with
  | identify token => exact Json.isText_record_iff
  | canAccess token channel => exact Json.isText_record_iff

/-- **What is read back is the question.** -/
theorem read?_body (call : Call) : read? (Utf8.encode call.body) = some call := by
  rw [read?, Json.parse?_eq_some_iff.2 (isText_body_iff.2 rfl), Option.bind_some]
  cases call with
  | identify token => simp [value, Json.texts?, Json.valuesOf, Json.textOf?, ofTexts?]
  | canAccess token channel => simp [value, Json.texts?, Json.valuesOf, Json.textOf?, ofTexts?]

/-- Different questions have different texts. -/
theorem body_injective : Function.Injective body := by
  intro call call' h
  exact Option.some.inj ((read?_body call).symm.trans (h ▸ read?_body call'))

end Call

/-! ### Addresses -/

/-- A plain base address: a place and segments of a path, with slashes behind them. -/
def baseText (place : List Char) (segments : List (List Char)) (slashes : Nat) : String :=
  String.ofList ("http://".toList ++ (place ++ Url.pathText segments)) ++
    String.ofList (List.replicate slashes '/')

namespace Client

/-- **Slashes behind a base address do not count**, however many there are. -/
theorem new_append_slashes (base : String) (slashes : Nat) (timeout : Duration) :
    new (base ++ String.ofList (List.replicate slashes '/')) timeout = new base timeout := by
  have hslashes : ∀ c ∈ List.replicate slashes '/', (c == '/') = true := fun c hc => by
    simp [(List.mem_replicate.1 hc).2]
  rw [new, new, String.toList_append, String.toList_ofList, List.reverse_append,
    List.reverse_replicate, List.dropWhile_append_of_pos hslashes]

/-- A base address that does not end with a slash is kept as it is. -/
theorem base_new {cs front : List Char} {c : Char} (h : cs = front ++ [c]) (hc : c ≠ '/')
    (timeout : Duration) : (new (String.ofList cs) timeout).base = String.ofList cs := by
  subst h
  have hlast : ¬ (c == '/') = true := by simpa using hc
  rw [new, String.toList_ofList, List.reverse_append, List.reverse_singleton,
    List.singleton_append, List.dropWhile_cons, if_neg hlast, List.reverse_cons,
    List.reverse_reverse]

/-- A plain base address does not end with a slash. -/
theorem exists_last {place : List Char} {host : String} {port : Nat}
    (hplace : Url.Names place host port) {segments : List (List Char)}
    (hsegments : ∀ s ∈ segments, Url.IsPlainSegment s) :
    ∃ front c, "http://".toList ++ (place ++ Url.pathText segments) = front ++ [c] ∧ c ≠ '/' := by
  have hslash : Url.isSlash '/' = true := by decide
  rcases List.eq_nil_or_concat segments with rfl | ⟨init, segment, rfl⟩
  · obtain ⟨front, c, rfl⟩ := (List.eq_nil_or_concat place).resolve_left hplace.ne_nil
    refine ⟨"http://".toList ++ front, c, by simp [Url.pathText], ?_⟩
    rintro rfl
    have hc := (hplace.unbroken '/' (by simp)).1
    exact absurd (hslash.symm.trans hc) (by simp)
  · have hsegment := hsegments segment (by simp)
    obtain ⟨front, c, rfl⟩ := (List.eq_nil_or_concat segment).resolve_left hsegment.nonempty
    refine ⟨"http://".toList ++ (place ++ (Url.pathText init ++ '/' :: front)), c,
      by simp [Url.pathText], ?_⟩
    rintro rfl
    have hc := (hsegment.ordinary '/' (by simp)).1
    exact absurd (hslash.symm.trans hc) (by simp)

/-- A client keeps a plain base address without the slashes behind it. -/
theorem base_plain {place : List Char} {host : String} {port : Nat}
    (hplace : Url.Names place host port) {segments : List (List Char)}
    (hsegments : ∀ s ∈ segments, Url.IsPlainSegment s) (slashes : Nat) (timeout : Duration) :
    (new (baseText place segments slashes) timeout).base =
      String.ofList ("http://".toList ++ (place ++ Url.pathText segments)) := by
  obtain ⟨front, c, heq, hc⟩ := exists_last hplace hsegments
  exact (congrArg Client.base (new_append_slashes _ slashes timeout)).trans
    (base_new heq hc timeout)

/-- A question is asked once, at `endpoint` and at the path `target`, as a text that holds it. -/
structure PostsTo (c : Client) (call : Call) (endpoint target : String) : Prop where
  /-- one text is posted, whoever carries it -/
  once : ∀ {σ : Type} (post : Transport σ) (s : σ) (before : List Posting),
    (c.service (recording post) call (s, before)).2.2 = before ++ [c.posting call]
  /-- on a network where someone listens there, one peer sees one request, and nobody else any -/
  seen : ∀ net : Network, (∃ p ∈ net, p.endpoint = endpoint) →
    ∃ before p after, net = before ++ p :: after ∧ p.endpoint = endpoint ∧
      (c.service Network.post call net).2 =
        before ++ p.receive ⟨"POST", target, "application/json", call.body⟩ :: after

theorem PostsTo.of_leadsTo {c : Client} {call : Call} {endpoint target : String}
    (h : Url.LeadsTo (c.posting call).url endpoint target) : PostsTo c call endpoint target where
  once := fun _ _ _ => rfl
  seen := by
    intro net hnet
    obtain ⟨u, hparse, hsecure, hendpoint, rfl⟩ := h
    obtain ⟨before, p, after, rfl, hp, hdeliver⟩ := Network.deliver_of_listening hnet
      ⟨"POST", u.target, "application/json", call.body⟩
    refine ⟨before, p, after, rfl, hp, ?_⟩
    have hbody : (c.posting call).body = call.body := rfl
    simp only [service, Network.post, hparse, hsecure, hendpoint, hbody, hdeliver,
      Bool.false_eq_true, if_false]

/-- **Where the questions of a client go**: behind a plain base address, to the path that has its
segments and one more. -/
theorem postsTo_plain {place : List Char} {host : String} {port : Nat}
    (hplace : Url.Names place host port) {segments : List (List Char)}
    (hsegments : ∀ s ∈ segments, Url.IsPlainSegment s) (slashes : Nat) (timeout : Duration)
    {call : Call} {segment : List Char} (hsegment : Url.IsPlainSegment segment)
    (hpath : call.path = String.ofList ('/' :: segment)) :
    PostsTo (new (baseText place segments slashes) timeout) call (host ++ ":" ++ toString port)
      (String.ofList (Url.pathText segments) ++ call.path) := by
  have hbase := base_plain hplace hsegments slashes timeout
  have hwhole : Url.pathText (segments ++ [segment]) = Url.pathText segments ++ '/' :: segment := by
    simp [Url.pathText]
  have hall : ∀ s ∈ segments ++ [segment], Url.IsPlainSegment s := by
    intro s hs
    rcases List.mem_append.1 hs with hs | hs
    · exact hsegments s hs
    · rw [List.mem_singleton.1 hs]
      exact hsegment
  have hurl : ((new (baseText place segments slashes) timeout).posting call).url =
      String.ofList ("http://".toList ++ (place ++ Url.pathText (segments ++ [segment]))) := by
    rw [posting, hbase, hpath, hwhole, ← String.ofList_append, List.append_assoc,
      List.append_assoc]
  have hparse := Url.parse?_plain hplace (by simp) hall
  rw [← hurl, hwhole, String.ofList_append, ← hpath] at hparse
  exact .of_leadsTo ⟨_, hparse, rfl, rfl, rfl⟩

/-- The paths of the two questions are plain. -/
theorem isPlainSegment_questions :
    Url.IsPlainSegment "identify".toList ∧ Url.IsPlainSegment "access".toList :=
  ⟨by decide, by decide⟩

end Client

end Things

/-! ### Hook requests -/

namespace Bridge

variable (s : Settings) {σ : Type} (post : Http.Transport σ)

/-- What is handed to the bus is one message, if there is a bus. -/
theorem posted_publisher (m : Message) (outside : σ) (before : List Http.Posting) :
    ∃ rest, ((s.publisher (Http.recording post)) m (outside, before)).2.2 = before ++ rest ∧
      (rest = [] ∨ ∃ url, s.publisherUrl = some url ∧
        rest = [⟨url, Message.json m, s.publisherPatience⟩]) := by
  rw [Settings.publisher]
  cases hurl : s.publisherUrl with
  | none => exact ⟨[], (List.append_nil before).symm, Or.inl rfl⟩
  | some url => exact ⟨_, rfl, Or.inr ⟨url, rfl, rfl⟩⟩

/-- What is posted once a request has a question: the question, and a message for the bus or
none. -/
theorem posted_of_inquiry (q : Inquiry) (outside : σ) (before : List Http.Posting) :
    let b := s.bridge (Http.recording post)
    ∃ rest, (b.carryOut (q.verdict b.authorizer (outside, before))).state.2 =
        before ++ s.thingsClient.posting q.call :: rest ∧
      (rest = [] ∨ ∃ url m, s.publisherUrl = some url ∧
        rest = [⟨url, Message.json m, s.publisherPatience⟩]) := by
  intro b
  have hstate : (q.verdict b.authorizer (outside, before)).state.2 =
      before ++ [s.thingsClient.posting q.call] := rfl
  generalize q.verdict b.authorizer (outside, before) = v at hstate
  obtain ⟨result, elapsed, outside', posted⟩ := v
  obtain rfl : posted = before ++ [s.thingsClient.posting q.call] := hstate
  cases result with
  | error error => exact ⟨[], rfl, Or.inl rfl⟩
  | ok decision =>
      cases decision with
      | accepted thing => exact ⟨[], rfl, Or.inl rfl⟩
      | publish m =>
          obtain ⟨rest, hrest, hbus⟩ := posted_publisher s post m outside'
            (before ++ [s.thingsClient.posting q.call])
          refine ⟨rest, hrest.trans (List.append_assoc before _ rest), ?_⟩
          rcases hbus with hnone | ⟨url, hurl, hmessage⟩
          · exact Or.inl hnone
          · exact Or.inr ⟨url, m, hurl, hmessage⟩

/-- **What is posted for a hook request.**  Anything is posted only if there is a request in its
body, and then first of all one question, about whoever this request speaks for; and a request is
not accepted without it. -/
theorem posted_of_hook {r : Http.Request} {h : Hook} (hmethod : r.method = "POST")
    (hpath : r.path = h.path) (outside : σ) (before : List Http.Posting)
    (worker : MetricsWorker) :
    let step := (s.bridge (Http.recording post)).route r ⟨(outside, before), worker⟩
    (step.1.status = 202 → step.2.outside.2 ≠ before) ∧
    (step.2.outside.2 ≠ before → ∃ request call rest,
      h.decode r.headers r.body = .ok request ∧ call.token = request.credential ∧
      step.2.outside.2 = before ++ s.thingsClient.posting call :: rest ∧
      (rest = [] ∨ ∃ url m, s.publisherUrl = some url ∧
        rest = [⟨url, Message.json m, s.publisherPatience⟩])) := by
  intro step
  have hroute : step = _ := route_eq_answerHook _ h _ hmethod hpath
  by_cases hread : r.IsReadable
  · rw [hroute, answerHook_of_readable _ h _ hread]
    cases hq : h.inquiry r.headers r.body with
    | error error =>
        rw [runHook_of_refused hq]
        refine ⟨fun haccepted => ?_, fun hposted => absurd rfl hposted⟩
        have hstatus : statusOf (.error error) = 202 := haccepted
        exact absurd ((statusOf_eq_accepted_iff _).1 hstatus) (by simp)
    | ok q =>
        rw [runHook_of_inquiry hq]
        obtain ⟨rest, hposted, hbus⟩ := posted_of_inquiry s post q outside before
        obtain ⟨hnamed, request, hrequest, hinquiry⟩ := Hook.inquiry_eq_ok_iff.1 hq
        refine ⟨fun _ hnone => ?_, fun _ => ⟨request, q.call, rest,
          Hook.decode_eq_ok_iff.2 ⟨hnamed, hrequest⟩, HookRequest.token_of_inquiry hinquiry,
          hposted, hbus⟩⟩
        have hlength := congrArg List.length (hposted.symm.trans hnone)
        simp at hlength
  · obtain ⟨status, reason, hstatus, heq⟩ := answerHook_of_not_readable _ h _ hread
    rw [hroute, heq]
    refine ⟨fun haccepted => ?_, fun hposted => absurd rfl hposted⟩
    obtain rfl : status = 202 := haccepted
    exact absurd hstatus (by decide)

end Bridge

namespace Things

open Http

/-- **Credentials arrive as they are.**  Behind a plain base address, however many slashes end it,
each question is asked once, in one request for the path of the question.  The text that goes with
it is a text of JSON, of an object with the token, and the channel if there is one, and no other
member; so it can be read back, and different questions have different texts.  And what is asked for
a hook request is about the password or the username that its body says, and nobody else: nothing
else is posted but the message that the bus is to have, and no request is accepted unasked. -/
theorem credentials_arrive :
    (∀ (place : List Char) (host : String) (port : Nat) (segments : List (List Char))
      (slashes : Nat) (timeout : Duration), Url.Names place host port →
      (∀ s ∈ segments, Url.IsPlainSegment s) →
      let client := Client.new (baseText place segments slashes) timeout
      let endpoint := host ++ ":" ++ toString port
      let path := String.ofList (Url.pathText segments)
      client = Client.new (baseText place segments 0) timeout ∧
      (∀ token, client.PostsTo (.identify token) endpoint (path ++ "/identify")) ∧
      ∀ token channel, client.PostsTo (.canAccess token channel) endpoint (path ++ "/access")) ∧
    (∀ (token : String) (v : Json.Value),
      Json.IsText (Utf8.encode (Call.identify token).body) v ↔
        v = .obj [(some "token", .str (some token))]) ∧
    (∀ (token channel : String) (v : Json.Value),
      Json.IsText (Utf8.encode (Call.canAccess token channel).body) v ↔
        v = .obj [(some "token", .str (some token)), (some "chanID", .str (some channel))]) ∧
    (∀ call : Call, Call.read? (Utf8.encode call.body) = some call) ∧
    Function.Injective Call.body ∧
    ∀ (s : Settings) (σ : Type) (post : Transport σ) (h : Hook) (r : Request) (outside : σ)
      (before : List Posting) (worker : MetricsWorker), r.method = "POST" → r.path = h.path →
      let step := (s.bridge (recording post)).route r ⟨(outside, before), worker⟩
      (step.1.status = 202 → step.2.outside.2 ≠ before) ∧
      (step.2.outside.2 ≠ before → ∃ request call rest,
        h.decode r.headers r.body = .ok request ∧ call.token = request.credential ∧
        step.2.outside.2 = before ++
          (Client.new s.thingsUrl s.thingsPatience).posting call :: rest ∧
        (rest = [] ∨ ∃ url m, s.publisherUrl = some url ∧
          rest = [⟨url, Message.json m, s.publisherPatience⟩])) := by
  refine ⟨?_, fun _ _ => Call.isText_body_iff, fun _ _ _ => Call.isText_body_iff, Call.read?_body,
    Call.body_injective, ?_⟩
  · intro place host port segments slashes timeout hplace hsegments client endpoint path
    obtain ⟨hidentify, haccess⟩ := Client.isPlainSegment_questions
    refine ⟨?_, fun token => ?_, fun token channel => ?_⟩
    · exact (Client.new_append_slashes _ slashes timeout).trans
        (Client.new_append_slashes _ 0 timeout).symm
    · exact Client.postsTo_plain hplace hsegments slashes timeout hidentify rfl
    · exact Client.postsTo_plain hplace hsegments slashes timeout haccess rfl
  · intro s σ post h r outside before worker hmethod hpath
    exact Bridge.posted_of_hook s post hmethod hpath outside before worker

/-- A place with a port. -/
theorem names_local : Url.Names "127.0.0.1:8183".toList "127.0.0.1" 8183 := by
  have hhost : Url.hostOf? "127.0.0.1".toList = some "127.0.0.1" := by decide +kernel
  have hplain : ∀ c ∈ "127.0.0.1".toList, Url.IsPlain c := List.all_iff_forall_prop.1 (by decide)
  have hplace : "127.0.0.1:8183".toList = "127.0.0.1".toList ++ ':' :: (toString 8183).toList := by
    decide +kernel
  rw [hplace]
  exact Url.names_of_hostOf? hhost hplain (by decide)

/-- Settings of a bridge without a bus, whose things service has an address that ends with
slashes. -/
def slashed : Settings := ⟨0, "http://127.0.0.1:8183/things//", 1, none, 1, "stdout", "info"⟩

/-- A password with a quote and a brace in it is asked for as it is. -/
theorem credentials_arrive_slashed :
    let client := Client.new (baseText "127.0.0.1:8183".toList ["things".toList] 2) (.ofSeconds 1)
    let r : Request := ⟨"POST", "/auth_on_register",
      [("vernemq-hook", Utf8.encode "auth_on_register")],
      Utf8.encode (Json.record [("password", "\"\x7d")]), none⟩
    let step := (slashed.bridge (recording obligingPost)).route r ⟨((), []), .gone⟩
    Url.Names "127.0.0.1:8183".toList "127.0.0.1" 8183 ∧
      client.PostsTo (.identify "\"\x7d") "127.0.0.1:8183" "/things/identify" ∧
      step.1.status = 202 ∧ ∃ request call,
        Hook.register.decode r.headers r.body = .ok request ∧ call.token = request.credential ∧
        step.2.outside.2 =
          [(Client.new slashed.thingsUrl slashed.thingsPatience).posting call] := by
  intro client r step
  obtain ⟨hclient, -, -, -, -, hhook⟩ := credentials_arrive
  have hsegments : ∀ s ∈ ["things".toList], Url.IsPlainSegment s := by
    intro s hs
    rw [List.mem_singleton.1 hs]
    decide
  have hposts := (hclient _ _ _ _ 2 (.ofSeconds 1) names_local hsegments).2.1 "\"\x7d"
  have hpath : r.path = Hook.register.path := by
    simp only [Request.path, r]
    decide
  have haccepted : step.1.status = 202 := by decide +kernel
  obtain ⟨hasked, hposted⟩ := hhook slashed Unit obligingPost .register r () [] .gone rfl hpath
  obtain ⟨request, call, rest, hdecode, htoken, hall, hbus⟩ := hposted (hasked haccepted)
  refine ⟨names_local, hposts, haccepted, request, call, hdecode, htoken, ?_⟩
  rcases hbus with rfl | ⟨url, m, hurl, -⟩
  · exact hall
  · exact absurd hurl (by simp [slashed])

end Things

end HookBridge
