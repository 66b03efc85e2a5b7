/-
**What the things service can tell the broker.**

A reply of the things service is an identifier, a denial, or as good as none.  Nothing else of it
gets through to the broker: not the kind of any other failure, not its description, not the time
that the reply took as long as it was in time.  Two runs whose replies are of the same classes, one
by one, are the same for the broker, and they ask the same and hand over the same messages, but for
the identifiers that these are published under.

Main definitions:

* `HookBridge.Things.ReplyClass`, `HookBridge.Things.Reply.classIn` — the class of a reply under a
  timeout;
* `HookBridge.Http.Response.Alike` — two answers that differ in times only;
* `HookBridge.Http.Request.ReadsCounters` — a request for the counters;
* `HookBridge.Bridge.DecideAlike` — two bridges that come to the same status from related states;
* `HookBridge.Script.Trace.Alike` — two steps that the broker cannot tell apart;
* `HookBridge.Script.Aligned` — two states that go on alike.

Main results:

* `HookBridge.Authorizer.bounded_of_granted`, `HookBridge.Authorizer.bounded_of_not_granted` — what
  the class of a reply says of what becomes of it;
* `HookBridge.Hook.accept_cases` — an identifier leads to the same whatever it is;
* `HookBridge.Bridge.DecideAlike.route` — **bridges that decide alike answer alike**;
* `HookBridge.Script.decideAlike_aligned` — replies of the same classes lead to the same;
* `HookBridge.Script.runRequests_congr_class` — **runs with replies of the same classes are alike**.
-/

import HookBridge.Proofs.Authorization
import HookBridge.Proofs.Metrics.Exposition
import Mathlib.Data.List.Forall2

set_option relaxedAutoImplicit false
set_option autoImplicit false

namespace HookBridge

/-! ### Classes of replies -/

namespace Things

/-- What a reply of the things service may come down to. -/
inductive ReplyClass
  | granted
  | denied
  | failed
  deriving DecidableEq, Repr

/-- The class of a reply for someone who waits no longer than `timeout`: an identifier in time, a
denial in time, or anything else. -/
def Reply.classIn (timeout : Duration) (reply : Reply) : ReplyClass :=
  if reply.delay ≤ timeout then
    match reply.result with
    | .ok _ => .granted
    | .error e => if e.kind = .permissionDenied then .denied else .failed
  else .failed

end Things

namespace Authorizer

open Things

variable {timeout : Duration} {reply : Reply}

/-- An identifier in time gets through. -/
theorem bounded_of_granted (h : reply.classIn timeout = .granted) :
    ∃ thing, (bounded timeout reply).1 = .ok thing := by
  rw [Reply.classIn] at h
  split at h
  · next htime =>
    split at h
    · next thing hresult => exact ⟨thing, bounded_of_ok htime hresult⟩
    · split at h <;> exact absurd h (by decide)
  · exact absurd h (by decide)

/-- Of anything else the class gets through, as the status. -/
theorem bounded_of_not_granted (h : reply.classIn timeout ≠ .granted) :
    ∃ error, (bounded timeout reply).1 = .error error ∧
      (HookError.auth error).status = if reply.classIn timeout = .denied then 403 else 503 := by
  by_cases htime : reply.delay ≤ timeout
  · cases hresult : reply.result with
    | ok thing => exact absurd (by simp [Reply.classIn, htime, hresult]) h
    | error e =>
        refine ⟨_, bounded_of_error htime hresult, ?_⟩
        by_cases hkind : e.kind = .permissionDenied
        · simp [Reply.classIn, htime, hresult, hkind, HookError.status, Error.isDenial]
        · simp [Reply.classIn, htime, hresult, hkind, HookError.status, Error.isDenial]
  · refine ⟨_, bounded_of_late htime, ?_⟩
    simp [Reply.classIn, htime, HookError.status, Error.isDenial, overdue]

end Authorizer

/-! ### What identifiers lead to -/

/-- A message without the identifier that it is published under. -/
def Message.anonymous (m : Message) : Message := { m with publisher := "" }

/-- **An identifier leads to the same whatever it is**: to letting the client in, or to a message
that differs in its publisher only. -/
theorem Hook.accept_cases {h : Hook} {headers : Http.Headers} {body : Bytes} {q : Inquiry}
    (hq : h.inquiry headers body = .ok q) :
    (∀ thing, q.accept thing = .accepted thing) ∨
      ∃ m : Message, ∀ thing, q.accept thing = .publish { m with publisher := thing } := by
  obtain ⟨-, r, -, hr⟩ := Hook.inquiry_eq_ok_iff.1 hq
  rcases HookRequest.inquiry_ok_cases hr with ⟨password, rfl, -, rfl⟩ |
    ⟨username, topic, payload, contentType, address, subtopic, rfl, -, -, -, rfl⟩ |
    ⟨username, topic, address, rfl, -, -, rfl⟩
  · exact Or.inl fun _ => rfl
  · exact Or.inr ⟨⟨"", Message.mqtt, contentType, address.channel, subtopic, payload⟩, fun _ => rfl⟩
  · exact Or.inl fun _ => rfl

namespace Inquiry

variable {q : Inquiry} {timeout : Duration} {reply reply' : Things.Reply}

/-- Replies of one class lead to the same message, but for its publisher, or both to none. -/
theorem message?_congr_class {h : Hook} {headers : Http.Headers} {body : Bytes}
    (hq : h.inquiry headers body = .ok q)
    (hclass : reply.classIn timeout = reply'.classIn timeout) :
    (q.message? timeout reply).map Message.anonymous =
      (q.message? timeout reply').map Message.anonymous := by
  by_cases hgranted : reply.classIn timeout = .granted
  · obtain ⟨thing, hb⟩ := Authorizer.bounded_of_granted hgranted
    obtain ⟨thing', hb'⟩ := Authorizer.bounded_of_granted (hclass ▸ hgranted)
    rcases Hook.accept_cases hq with haccept | ⟨m, haccept⟩
    · simp only [message?, hb, hb', haccept]
    · simp only [message?, hb, hb', haccept, Option.map_some, Message.anonymous]
  · obtain ⟨error, hb, -⟩ := Authorizer.bounded_of_not_granted hgranted
    obtain ⟨error', hb', -⟩ := Authorizer.bounded_of_not_granted (hclass ▸ hgranted)
    simp only [message?, hb, hb']

/-- Replies of one class lead to one status. -/
theorem outcome_congr_class {h : Hook} {headers : Http.Headers} {body : Bytes}
    (hq : h.inquiry headers body = .ok q)
    (hclass : reply.classIn timeout = reply'.classIn timeout) (refusal : Option String) :
    Bridge.statusOf (q.outcome timeout reply refusal) =
      Bridge.statusOf (q.outcome timeout reply' refusal) := by
  by_cases hgranted : reply.classIn timeout = .granted
  · obtain ⟨thing, hb⟩ := Authorizer.bounded_of_granted hgranted
    obtain ⟨thing', hb'⟩ := Authorizer.bounded_of_granted (hclass ▸ hgranted)
    rcases Hook.accept_cases hq with haccept | ⟨m, haccept⟩
    · simp only [outcome, message?, hb, hb', haccept]
    · simp only [outcome, message?, hb, hb', haccept]
      cases refusal <;> rfl
  · obtain ⟨error, hb, hstatus⟩ := Authorizer.bounded_of_not_granted hgranted
    obtain ⟨error', hb', hstatus'⟩ := Authorizer.bounded_of_not_granted (hclass ▸ hgranted)
    simp only [outcome, hb, hb', Bridge.statusOf, hstatus, hstatus', hclass]

end Inquiry

/-- A request that cannot be read is answered in the same way by any bridge. -/
theorem Bridge.answerHook_of_not_readable_const (σ : Type) (h : Hook) {r : Http.Request}
    (hread : ¬ r.IsReadable) :
    ∃ answer, ∀ (b : Bridge σ) (s : BridgeState σ), b.answerHook h r s = (answer, s) := by
  by_cases hlength : 2097152 < r.body.length
  · exact ⟨tooLong, fun b s => answerHook_of_too_long b h s hlength⟩
  · cases hfault : r.fault with
    | none => exact absurd ⟨Nat.not_lt.1 hlength, hfault⟩ hread
    | some fault =>
        refine ⟨broken fault, fun b s => ?_⟩
        have hlimit : ¬ bodyLimit < r.body.length := hlength
        rw [answerHook, if_neg hlimit, hfault]

/-! ### Alike answers and workers -/

/-- Two answers that differ at most in the times in a text of counters. -/
structure Http.Response.Alike (a a' : Http.Response) : Prop where
  status : a.status = a'.status
  contentType : a.contentType = a'.contentType
  allow : a.allow = a'.allow
  body : Metrics.maskSums a.body = Metrics.maskSums a'.body
  /-- only the text of counters holds times -/
  exact : a.contentType ≠ some "text/plain; version=0.0.4" → a.body = a'.body

theorem Http.Response.Alike.refl (a : Http.Response) : a.Alike a :=
  ⟨rfl, rfl, rfl, rfl, fun _ => rfl⟩

/-- Two workers that are in the same condition and have counted the same. -/
inductive MetricsWorker.Alike : MetricsWorker → MetricsWorker → Prop
  | running {m m' : Metrics} (h : m.Alike m') : Alike (.running m) (.running m')
  | gone : Alike .gone .gone
  | mute : Alike .mute .mute

theorem MetricsWorker.Alike.refl (w : MetricsWorker) : w.Alike w := by
  cases w with
  | running m => exact .running (.refl m)
  | gone => exact .gone
  | mute => exact .mute

/-- Workers that have counted the same go on so. -/
theorem MetricsWorker.Alike.handled {w w' : MetricsWorker} (h : w.Alike w') (key : HookStatus)
    (d d' : Duration) : (w.handled key d).Alike (w'.handled key d') := by
  cases h with
  | running h => exact .running (h.observe key d d')
  | gone => exact .gone
  | mute => exact .mute

/-- The pages of workers that have counted the same are alike, under any method. -/
theorem MetricsWorker.Alike.readPage {w w' : MetricsWorker} (h : w.Alike w') (method : String) :
    (Bridge.readPage method (Bridge.metricsPage w)).Alike
      (Bridge.readPage method (Bridge.metricsPage w')) := by
  cases h with
  | running h =>
      simp only [Bridge.readPage]
      split
      · exact ⟨rfl, rfl, rfl, h.maskSums_render, fun hne => absurd rfl hne⟩
      · split <;> exact .refl _
  | gone => exact .refl _
  | mute => exact .refl _

/-! ### Requests for the counters -/

/-- A request reads the counters: it is for their page, or for the header fields of this page. -/
structure Http.Request.ReadsCounters (r : Http.Request) : Prop where
  path : r.path = "/metrics"
  method : r.method = "GET" ∨ r.method = "HEAD"

/-- The counters stand at one path. -/
theorem Bridge.routeOf_eq_metrics {path : String} (h : routeOf path = .metrics) :
    path = "/metrics" := by
  rw [routeOf] at h
  split at h
  · exact absurd h (by simp)
  · split at h
    · next hpath => exact hpath
    · split at h <;> exact absurd h (by simp)

/-- Whoever does not read the counters is answered the same, whatever stands in them. -/
theorem Bridge.readPage_of_not_read {method : String} (hget : method ≠ "GET")
    (hhead : method ≠ "HEAD") (page page' : Http.Response) :
    readPage method page = readPage method page' := by
  rw [readPage, readPage, if_neg hget, if_neg hget, if_neg hhead, if_neg hhead]

/-! ### Bridges that decide alike -/

section DecideAlike

variable {σ : Type} {R : σ → σ → Prop} {b b' : Bridge σ}

/-- Two bridges that come to the same status from states that `R` relates, and to such states
again. -/
def Bridge.DecideAlike (R : σ → σ → Prop) (b b' : Bridge σ) : Prop :=
  ∀ h headers body s s', R s s' →
    let v := b.runHook h headers body s
    let v' := b'.runHook h headers body s'
    statusOf v.result = statusOf v'.result ∧ R v.state v'.state

/-- A bridge decides alike from one state. -/
theorem Bridge.DecideAlike.refl (b : Bridge σ) : b.DecideAlike Eq b := by
  rintro h headers body s _ rfl
  exact ⟨rfl, rfl⟩

/-- **Bridges that decide alike answer alike**, whatever becomes of their workers: a request that
does not read the counters is answered the same, and one that does is so but for times if the
workers have counted the same. -/
theorem Bridge.DecideAlike.route (hd : b.DecideAlike R b') (r : Http.Request) {s s' : σ}
    (hs : R s s') (w w' : MetricsWorker) :
    let step := b.route r ⟨s, w⟩
    let step' := b'.route r ⟨s', w'⟩
    R step.2.outside step'.2.outside ∧ (¬ r.ReadsCounters → step.1 = step'.1) ∧
      (w.Alike w' → step.1.Alike step'.1 ∧ step.2.metrics.Alike step'.2.metrics) := by
  intro step step'
  simp only [step, step', Bridge.route]
  cases hroute : routeOf r.path with
  | hook h =>
      by_cases hmethod : r.method = "POST"
      · simp only [if_pos hmethod]
        by_cases hread : r.IsReadable
        · obtain ⟨hstatus, hstate⟩ := hd h r.headers r.body s s' hs
          rw [answerHook_of_readable _ h _ hread, answerHook_of_readable _ h _ hread]
          simp only [hstatus]
          exact ⟨hstate, fun _ => trivial, fun hw => ⟨.refl _, hw.handled _ _ _⟩⟩
        · obtain ⟨answer, hanswer⟩ := answerHook_of_not_readable_const σ h hread
          rw [hanswer, hanswer]
          exact ⟨hs, fun _ => rfl, fun hw => ⟨.refl _, hw⟩⟩
      · simp only [if_neg hmethod]
        exact ⟨hs, fun _ => trivial, fun hw => ⟨.refl _, hw⟩⟩
  | metrics =>
      refine ⟨hs, fun hnot => ?_, fun hw => ⟨hw.readPage r.method, hw⟩⟩
      have hpath := routeOf_eq_metrics hroute
      exact readPage_of_not_read (fun hget => hnot ⟨hpath, .inl hget⟩)
        (fun hhead => hnot ⟨hpath, .inr hhead⟩) _ _
  | version => exact ⟨hs, fun _ => rfl, fun hw => ⟨.refl _, hw⟩⟩
  | nothing => exact ⟨hs, fun _ => rfl, fun hw => ⟨.refl _, hw⟩⟩

end DecideAlike

namespace Script

/-! ### Alike steps -/

/-- Two steps that the broker cannot tell apart, in which the same was asked, and the same messages
were taken but for the identifiers that they are published under. -/
structure Trace.Alike (t t' : Trace Http.Response) : Prop where
  value : t.value.Alike t'.value
  calls : t.calls = t'.calls
  published : t.published.map Message.anonymous = t'.published.map Message.anonymous

/-- Two states of scripts that go on alike, and in which the current step has done the like. -/
structure Aligned (s s' : State) : Prop where
  asked : s.asked = s'.asked
  handed : s.handed = s'.handed
  calls : s.calls = s'.calls
  published : s.published.map Message.anonymous = s'.published.map Message.anonymous

theorem Aligned.refl (s : State) : Aligned s s := ⟨rfl, rfl, rfl, rfl⟩

theorem Aligned.next {s s' : State} (h : Aligned s s') : Aligned s.next s'.next :=
  ⟨h.asked, h.handed, rfl, rfl⟩

/-- The replies of two scripts are of the same classes, one by one, and their refusals are the
same. -/
structure SameClasses (script script' : Script) (timeout : Duration) : Prop where
  replies : ∀ n, (script.reply n).classIn timeout = (script'.reply n).classIn timeout
  refusals : script.refusals = script'.refusals

variable {script script' : Script} {timeout : Duration}

/-- A hook request is one and the same, whatever identifiers, errors and times there are. -/
theorem decideAlike_aligned (hc : SameClasses script script' timeout) :
    (script.bridge timeout).DecideAlike Aligned (script'.bridge timeout) := by
  intro h headers body s s' hs v v'
  cases hq : h.inquiry headers body with
  | error error =>
      have hv : v = _ := Bridge.runHook_of_refused hq s
      have hv' : v' = _ := Bridge.runHook_of_refused hq s'
      rw [hv, hv']
      exact ⟨rfl, hs⟩
  | ok q =>
      have hv : v = _ := runHook_of_inquiry script timeout hq s
      have hv' : v' = _ := runHook_of_inquiry script' timeout hq s'
      have hclass := hc.replies s.asked
      have hrefusal : script.refusal s.handed = script'.refusal s'.handed := by
        rw [refusal, refusal, hc.refusals, hs.handed]
      rw [hs.asked] at hclass hv
      rw [hv, hv', hrefusal]
      have hmessage := Inquiry.message?_congr_class hq hclass
      refine ⟨Inquiry.outcome_congr_class hq hclass _, ⟨rfl, ?_, ?_, ?_⟩⟩
      · have hcount := congrArg (fun m : Option Message => m.toList.length) hmessage
        simp only [Option.toList_map, List.length_map] at hcount
        simp only [hs.handed, hcount]
      · simp only [hs.calls]
      · have htaken : ∀ refusal, (q.taken? timeout (script.reply s'.asked) refusal).map
            Message.anonymous = (q.taken? timeout (script'.reply s'.asked) refusal).map
            Message.anonymous := by
          rintro (_ | _)
          · exact hmessage
          · rfl
        simp only [List.map_append, hs.published, ← Option.toList_map, htaken]

/-! ### Runs -/

/-- **A run goes on alike** from states that are, step by step. -/
theorem runRequests_aligned (hc : SameClasses script script' timeout)
    (requests : List Http.Request) {s s' : BridgeState State}
    (hs : Aligned s.outside s'.outside) (hw : s.metrics.Alike s'.metrics) :
    List.Forall₂ Trace.Alike (runRequests (script.bridge timeout) requests s).1
      (runRequests (script'.bridge timeout) requests s').1 := by
  induction requests generalizing s s' with
  | nil => exact .nil
  | cons r rest ih =>
      obtain ⟨hstate, -, halike⟩ := (decideAlike_aligned hc).route r hs.next _ _
      obtain ⟨hanswer, hworker⟩ := halike hw
      rw [runRequests_cons, runRequests_cons]
      exact .cons ⟨hanswer, hstate.calls, hstate.published⟩ (ih hstate hworker)

/-- Alike runs have asked as often in front of any step. -/
theorem calls_take_of_alike {traces traces' : List (Trace Http.Response)}
    (h : List.Forall₂ Trace.Alike traces traces') (i : Nat) :
    (traces.take i).flatMap (·.calls) = (traces'.take i).flatMap (·.calls) := by
  have hcalls : traces.map (·.calls) = traces'.map (·.calls) := by
    rw [← List.forall₂_eq_eq_eq, List.forall₂_map_left_iff, List.forall₂_map_right_iff]
    exact h.imp fun _ _ hstep => hstep.calls
  rw [List.flatMap_def, List.flatMap_def, List.map_take, List.map_take, hcalls]

/-- What is published is so under the identifier that the reply to the step's question holds. -/
theorem publisher_of_reply (script : Script) (timeout : Duration) (requests : List Http.Request)
    (worker : MetricsWorker) {i : Nat} {t : Trace Http.Response} {m : Message} :
    let traces := (runRequests (script.bridge timeout) requests ⟨.start, worker⟩).1
    traces[i]? = some t → m ∈ t.published →
      (script.reply ((traces.take i).flatMap (·.calls)).length).result = .ok m.publisher := by
  intro traces ht hm
  have hlt : i < requests.length := by
    rw [← length_runRequests (script.bridge timeout) requests ⟨.start, worker⟩]
    exact (List.getElem?_eq_some_iff.1 ht).1
  have hsound := runRequests_sound_from script timeout requests ⟨.start, worker⟩ i requests[i] t
    (List.getElem?_eq_getElem hlt) ht
  obtain ⟨username, topic, path, hvouched⟩ := hsound.vouched m hm
  have hgranted := hvouched.granted
  change (script.reply (0 + _)).result = _ at hgranted
  rwa [Nat.zero_add] at hgranted

/-- **Runs with replies of the same classes are alike.**  Whatever the requests are, the things
service gets through to the broker by the classes of its replies only: step by step the same is
answered but for times in the text of the counters, the same is asked, and the same messages are
taken, each under the identifier that its own run was given in reply to this question. -/
theorem runRequests_congr_class (hc : SameClasses script script' timeout)
    (requests : List Http.Request) (worker : MetricsWorker) :
    let traces := (runRequests (script.bridge timeout) requests ⟨.start, worker⟩).1
    let traces' := (runRequests (script'.bridge timeout) requests ⟨.start, worker⟩).1
    List.Forall₂ Trace.Alike traces traces' ∧
      ∀ (i : Nat) t t', traces[i]? = some t → traces'[i]? = some t' →
        let n := ((traces.take i).flatMap (·.calls)).length
        (∀ m ∈ t.published, (script.reply n).result = .ok m.publisher) ∧
          ∀ m' ∈ t'.published, (script'.reply n).result = .ok m'.publisher := by
  intro traces traces'
  have halike : List.Forall₂ Trace.Alike traces traces' :=
    runRequests_aligned hc requests (.refl _) (.refl _)
  refine ⟨halike, fun i t t' ht ht' => ⟨fun m hm => ?_, fun m' hm' => ?_⟩⟩
  · exact publisher_of_reply script timeout requests worker ht hm
  · rw [calls_take_of_alike halike]
    exact publisher_of_reply script' timeout requests worker ht' hm'

/-- A things service that is slow but in time, and then out of order. -/
def slowScript : Script :=
  ⟨[⟨.ok "u1", .ofSeconds 1⟩, ⟨.error ⟨.permissionDenied, "no"⟩, .zero⟩,
    ⟨.error ⟨.internal, "broken"⟩, .zero⟩], []⟩

/-- A things service that is fast, and then not there. -/
def fastScript : Script :=
  ⟨[⟨.ok "u2", .zero⟩, ⟨.error ⟨.permissionDenied, ""⟩, .ofSeconds 1⟩,
    ⟨.ok "u3", .ofSeconds 2⟩], []⟩

/-- Behind its end a script goes on with its last reply. -/
theorem reply_of_length_le {n : Nat} (h : script.replies.length ≤ n) :
    script.reply n = script.replies.getLastD defaultReply := by
  rw [reply, List.getElem?_eq_none h, Option.getD_none]

theorem sameClasses_slow_fast : SameClasses slowScript fastScript (.ofSeconds 1) where
  replies
    | 0 => by decide
    | 1 => by decide
    | 2 => by decide
    | n + 3 => by
        rw [reply_of_length_le (Nat.le_add_left 3 n), reply_of_length_le (Nat.le_add_left 3 n)]
        decide
  refusals := rfl

/-- Someone publishes three times. -/
def threeRequests : List Http.Request := List.replicate 3 twoRequests[1]

theorem runRequests_congr_class_slow_fast :
    let traces :=
      (runRequests (slowScript.bridge (.ofSeconds 1)) threeRequests ⟨.start, .running .empty⟩).1
    let traces' :=
      (runRequests (fastScript.bridge (.ofSeconds 1)) threeRequests ⟨.start, .running .empty⟩).1
    SameClasses slowScript fastScript (.ofSeconds 1) ∧ List.Forall₂ Trace.Alike traces traces' ∧
      traces.map (·.value.status) = [202, 403, 503] ∧
      ∀ t t', traces[0]? = some t → traces'[0]? = some t' →
        (∀ m ∈ t.published, m.publisher = "u1") ∧ ∀ m' ∈ t'.published, m'.publisher = "u2" := by
  intro traces traces'
  obtain ⟨halike, hpublisher⟩ :=
    runRequests_congr_class sameClasses_slow_fast threeRequests (.running .empty)
  refine ⟨sameClasses_slow_fast, halike, by decide +kernel, fun t t' ht ht' => ?_⟩
  obtain ⟨hslow, hfast⟩ := hpublisher 0 t t' ht ht'
  exact ⟨fun m hm => (Except.ok.inj (hslow m hm)).symm,
    fun m' hm' => (Except.ok.inj (hfast m' hm')).symm⟩

end Script

end HookBridge
