/-
**Bystanders.**

The worker that counts the requests and the bus that takes the messages stand by while a request is
decided.  Whether the worker counts, is gone, or hears everything and answers nothing is seen by
those who ask for the counters, and by nobody else; and whether there is a bus behind the bridge or
none is seen by nobody, as long as the bus takes what it is given.

Two runs are compared step by step.  Their surroundings are in states that need not be the same, but
are related in a way that each question and each message keeps; this is enough for the same answers.

Main definitions:

* `HookBridge.Bridge.Matches` — two bridges whose surroundings answer the same from related states;
* `HookBridge.Script.NeverFails` — a publisher that takes every message.

Main results:

* `HookBridge.Bridge.Matches.decideAlike` — bridges that match decide alike;
* `HookBridge.Script.runRequests_alike` — **runs of bridges that decide alike are alike**, step by
  step;
* `HookBridge.Script.runRequests_bystanders` — **neither the worker nor the bus changes a
  decision**.
-/

import HookBridge.Proofs.Accounting
import HookBridge.Proofs.ReplyClass

set_option relaxedAutoImplicit false
set_option autoImplicit false

namespace HookBridge

/-! ### Bridges that match -/

variable {σ : Type}

/-- Two verdicts that are the same, but for the states that they left, which are related. -/
structure Verdict.Matches {ε α : Type} (R : σ → σ → Prop) (v v' : Verdict ε α σ) : Prop where
  result : v.result = v'.result
  elapsed : v.elapsed = v'.elapsed
  state : R v.state v'.state

/-- Two bridges that wait equally long, and whose surroundings answer the same from states that `R`
relates, and come to such states again. -/
structure Bridge.Matches (R : σ → σ → Prop) (b b' : Bridge σ) : Prop where
  timeout : b.authorizer.timeout = b'.authorizer.timeout
  things : ∀ call s s', R s s' →
    (b.authorizer.things call s).1 = (b'.authorizer.things call s').1 ∧
      R (b.authorizer.things call s).2 (b'.authorizer.things call s').2
  publisher : ∀ message s s', R s s' →
    (b.publisher message s).1 = (b'.publisher message s').1 ∧
      R (b.publisher message s).2 (b'.publisher message s').2

namespace Bridge

variable {R : σ → σ → Prop} {b b' : Bridge σ}

/-- A question comes to the same. -/
theorem Matches.verdict (hm : Matches R b b') (q : Inquiry) {s s' : σ} (hs : R s s') :
    (q.verdict b.authorizer s).Matches R (q.verdict b'.authorizer s') := by
  obtain ⟨hreply, hstate⟩ := hm.things q.call s s' hs
  simp only [Inquiry.verdict, hreply, hm.timeout]
  exact ⟨rfl, rfl, hstate⟩

/-- So does what is made of it. -/
theorem Matches.carryOut (hm : Matches R b b') {v v' : Verdict HookError Decision σ}
    (hv : v.Matches R v') : (b.carryOut v).Matches R (b'.carryOut v') := by
  obtain ⟨result, elapsed, s⟩ := v
  obtain ⟨result', elapsed', s'⟩ := v'
  obtain ⟨rfl, rfl, hs⟩ := hv
  cases result with
  | error error => exact ⟨rfl, rfl, hs⟩
  | ok decision =>
      cases decision with
      | accepted thing => exact ⟨rfl, rfl, hs⟩
      | publish message =>
          obtain ⟨hresult, hstate⟩ := hm.publisher message s s' hs
          exact ⟨congrArg (·.mapError HookError.ofPublish) hresult, rfl, hstate⟩

/-- A hook request comes to the same at bridges that match. -/
theorem Matches.runHook (hm : Matches R b b') (h : Hook) (headers : Http.Headers) (body : Bytes)
    {s s' : σ} (hs : R s s') :
    (b.runHook h headers body s).Matches R (b'.runHook h headers body s') := by
  cases hq : h.inquiry headers body with
  | error error =>
      rw [runHook_of_refused hq, runHook_of_refused hq]
      exact ⟨rfl, rfl, hs⟩
  | ok q =>
      rw [runHook_of_inquiry hq, runHook_of_inquiry hq]
      exact hm.carryOut (hm.verdict q hs)

/-- Bridges that match decide alike. -/
theorem Matches.decideAlike (hm : Matches R b b') : b.DecideAlike R b' := by
  intro h headers body s s' hs v v'
  have hv : v.Matches R v' := hm.runHook h headers body hs
  exact ⟨congrArg statusOf hv.result, hv.state⟩

/-! ### Workers that do not answer -/

variable {s : BridgeState σ}

/-- A worker that does not answer goes on so. -/
theorem metrics_route_of_silent (hs : s.metrics ∈ [MetricsWorker.gone, .mute]) (b : Bridge σ)
    (r : Http.Request) : (b.route r s).2.metrics = s.metrics := by
  have hhandled : ∀ key d, s.metrics.handled key d = s.metrics := by
    simp only [List.mem_cons, List.not_mem_nil, or_false] at hs
    rcases hs with hw | hw <;> rw [hw] <;> exact fun _ _ => rfl
  by_cases hr : ∃ h, r.IsHandled h
  · obtain ⟨h, hr⟩ := hr
    obtain ⟨-, d, hmetrics⟩ := metrics_route_of_handled b s hr
    exact hmetrics.trans (hhandled _ _)
  · exact metrics_route_of_not_handled b s fun h hh => hr ⟨h, hh⟩

/-- Whoever asks it for the counters is told of a failure. -/
theorem route_of_silent (hs : s.metrics ∈ [MetricsWorker.gone, .mute]) (b : Bridge σ)
    {r : Http.Request} (hr : r.ReadsCounters) : (b.route r s).1 = .bare 500 := by
  have hroute : routeOf "/metrics" = .metrics := by decide
  have hpage : metricsPage s.metrics = .bare 500 := by
    simp only [List.mem_cons, List.not_mem_nil, or_false] at hs
    rcases hs with hw | hw <;> rw [hw] <;> rfl
  simp only [route, hr.path, hroute, hpage]
  rcases hr.method with hmethod | hmethod <;> rw [hmethod] <;> rfl

end Bridge

namespace Script

/-! ### Runs -/

variable {R : State → State → Prop} {b b' : Bridge State}

/-- **Runs of bridges that decide alike are alike**, step by step, if their states stay related from
one step to the next. -/
theorem runRequests_alike (hd : b.DecideAlike R b') (hnext : ∀ s s', R s s' → R s.next s'.next)
    (requests : List Http.Request) (s s' : BridgeState State) (hs : R s.outside s'.outside) :
    ∀ step ∈ requests.zip ((runRequests b requests s).1.zip (runRequests b' requests s').1),
      ∃ o o', R o o' ∧ step.2.1 = o.trace step.2.1.value ∧ step.2.2 = o'.trace step.2.2.value ∧
        (¬ step.1.ReadsCounters → step.2.1.value = step.2.2.value) ∧
        (s.metrics.Alike s'.metrics → step.2.1.value.Alike step.2.2.value) := by
  induction requests generalizing s s' with
  | nil => simp
  | cons r rest ih =>
      obtain ⟨hstate, hvalue, halike⟩ := hd.route r (hnext _ _ hs) s.metrics s'.metrics
      rw [runRequests_cons, runRequests_cons, List.zip_cons_cons, List.zip_cons_cons,
        List.forall_mem_cons]
      refine ⟨⟨_, _, hstate, rfl, rfl, hvalue, fun hw => (halike hw).1⟩, fun step hstep => ?_⟩
      obtain ⟨o, o', ho, ht, ht', hsame, hrest⟩ := ih _ _ hstate step hstep
      exact ⟨o, o', ho, ht, ht', hsame, fun hw => hrest (halike hw).2⟩

/-- Where the worker does not answer, whoever asks for the counters is told of a failure. -/
theorem runRequests_silent (b : Bridge State) (requests : List Http.Request)
    {s : BridgeState State} (hs : s.metrics ∈ [MetricsWorker.gone, .mute]) :
    ∀ step ∈ requests.zip (runRequests b requests s).1, step.1.ReadsCounters →
      step.2.value = .bare 500 := by
  induction requests generalizing s with
  | nil => simp
  | cons r rest ih =>
      have hnext : (⟨s.outside.next, s.metrics⟩ : BridgeState State).metrics ∈
          [MetricsWorker.gone, .mute] := hs
      rw [runRequests_cons, List.zip_cons_cons, List.forall_mem_cons]
      refine ⟨Bridge.route_of_silent hnext b, ih ?_⟩
      rwa [Bridge.metrics_route_of_silent hnext b r]

/-! ### Publishers -/

/-- A publisher that takes every message, and does not meddle with what is asked. -/
structure NeverFails (p : Publisher State) : Prop where
  taken : ∀ m s, (p m s).1 = .ok ()
  asked : ∀ m s, (p m s).2.asked = s.asked
  calls : ∀ m s, (p m s).2.calls = s.calls

theorem neverFails_drop : NeverFails Publisher.drop where
  taken := fun _ _ => rfl
  asked := fun _ _ => rfl
  calls := fun _ _ => rfl

/-- The publisher of a script in which no message is refused takes every message. -/
theorem neverFails_publisher {script : Script} (h : ∀ n, script.refusal n = none) :
    NeverFails script.publisher where
  taken := by simp [publisher, h]
  asked := by simp [publisher, h]
  calls := by simp [publisher, h]

/-- As much has been asked in all, and the same in the current step. -/
structure SameQuestions (s s' : State) : Prop where
  asked : s.asked = s'.asked
  calls : s.calls = s'.calls

/-- Publishers that take every message are the same to the one who decides. -/
theorem matches_of_neverFails (script : Script) (timeout : Duration) {p p' : Publisher State}
    (hp : NeverFails p) (hp' : NeverFails p') :
    Bridge.Matches SameQuestions ⟨script.authorizer timeout, p⟩
      ⟨script.authorizer timeout, p'⟩ where
  timeout := rfl
  things := by
    rintro call s s' ⟨hasked, hcalls⟩
    simp only [authorizer, things, hasked, hcalls]
    exact ⟨trivial, rfl, rfl⟩
  publisher := by
    rintro message s s' ⟨hasked, hcalls⟩
    refine ⟨(hp.taken _ _).trans (hp'.taken _ _).symm, ?_, ?_⟩
    · rw [hp.asked, hp'.asked, hasked]
    · rw [hp.calls, hp'.calls, hcalls]

/-! ### Bystanders -/

/-- **Neither the worker nor the bus changes a decision.**  Whatever becomes of the worker, each
step asks the same, publishes the same and, unless it is for the counters, is answered the same;
from a worker that is gone or mute the counters cannot be had.  And without a bus, each step asks
the same and is answered the same, but for times in the text of the counters, as with a bus that
takes every message. -/
theorem runRequests_bystanders (script : Script) (timeout : Duration)
    (requests : List Http.Request) (outside : State) :
    let run := fun (p : Publisher State) (w : MetricsWorker) =>
      (runRequests ⟨script.authorizer timeout, p⟩ requests ⟨outside, w⟩).1
    (∀ p w, (run p w).length = requests.length) ∧
    (∀ p w w' (i : Nat) r t t', requests[i]? = some r → (run p w)[i]? = some t →
      (run p w')[i]? = some t' → t.calls = t'.calls ∧ t.published = t'.published ∧
        (¬ r.ReadsCounters → t.value = t'.value)) ∧
    (∀ p, ∀ w ∈ [MetricsWorker.gone, .mute], ∀ (i : Nat) r t, requests[i]? = some r →
      (run p w)[i]? = some t → r.ReadsCounters → t.value = ⟨500, none, none, ""⟩) ∧
    ∀ p, NeverFails p → ∀ w w', w.Alike w' → ∀ (i : Nat) r t t', requests[i]? = some r →
      (run Publisher.drop w)[i]? = some t → (run p w')[i]? = some t' →
        t.calls = t'.calls ∧ t.value.Alike t'.value := by
  intro run
  -- steps of one position are compared in the list of all positions
  have hzip : ∀ {ts ts' : List (Trace Http.Response)} {i : Nat} {r t t'}, requests[i]? = some r →
      ts[i]? = some t → ts'[i]? = some t' → (r, t, t') ∈ requests.zip (ts.zip ts') := by
    intro ts ts' i r t t' hr ht ht'
    have hpair : (ts.zip ts')[i]? = some (t, t') := List.getElem?_zip_eq_some.2 ⟨ht, ht'⟩
    exact List.mem_of_getElem? (List.getElem?_zip_eq_some.2 ⟨hr, hpair⟩)
  refine ⟨fun p w => length_runRequests _ requests _, ?_, ?_, ?_⟩
  · intro p w w' i r t t' hr ht ht'
    obtain ⟨o, _, rfl, hto, hto', hsame, -⟩ := runRequests_alike (.refl _)
      (fun _ _ => congrArg State.next) requests ⟨outside, w⟩ ⟨outside, w'⟩ rfl _ (hzip hr ht ht')
    exact ⟨(congrArg Trace.calls hto).trans (congrArg Trace.calls hto').symm,
      (congrArg Trace.published hto).trans (congrArg Trace.published hto').symm, hsame⟩
  · intro p w hw i r t hr ht
    exact runRequests_silent _ requests hw (r, t)
      (List.mem_of_getElem? (List.getElem?_zip_eq_some.2 ⟨hr, ht⟩))
  · intro p hp w w' hw i r t t' hr ht ht'
    obtain ⟨o, o', ho, hto, hto', -, halike⟩ := runRequests_alike
      (matches_of_neverFails script timeout neverFails_drop hp).decideAlike
      (fun _ _ hs => ⟨hs.asked, rfl⟩) requests ⟨outside, w⟩ ⟨outside, w'⟩ ⟨rfl, rfl⟩ _
      (hzip hr ht ht')
    refine ⟨?_, halike hw⟩
    calc t.calls = o.calls := congrArg Trace.calls hto
      _ = o'.calls := ho.calls
      _ = t'.calls := (congrArg Trace.calls hto').symm

/-- A message is published, and then the counters are read: with a worker and with one that is gone,
and without a bus. -/
theorem runRequests_bystanders_publish :
    let requests := twoRequests ++ [getCounters]
    let run := fun (p : Publisher State) (w : MetricsWorker) =>
      (runRequests ⟨lateScript.authorizer (.ofSeconds 1), p⟩ requests ⟨.start, w⟩).1
    let p := lateScript.publisher
    let w := MetricsWorker.running .empty
    NeverFails p ∧ w.Alike w ∧ getCounters.ReadsCounters ∧
      (run p .gone)[1]? = some secondTrace ∧
      ∃ t c d, (run p w)[1]? = some t ∧ (run p .gone)[2]? = some c ∧
        (run Publisher.drop w)[1]? = some d ∧
        t = secondTrace ∧ c.value = ⟨500, none, none, ""⟩ ∧
        d.calls = t.calls ∧ d.value.Alike t.value := by
  intro requests run p w
  obtain ⟨hlength, hworkers, hsilent, hbus⟩ :=
    runRequests_bystanders lateScript (.ofSeconds 1) requests .start
  have hp : NeverFails p := neverFails_publisher fun n => by simp [refusal, lateScript]
  have hreads : getCounters.ReadsCounters := ⟨by decide, .inl rfl⟩
  have hgone : (run p .gone)[1]? = some secondTrace := by decide +kernel
  have hget : ∀ p w, ∀ i < 3, ∃ t, (run p w)[i]? = some t := fun p w i hi =>
    ⟨_, List.getElem?_eq_getElem (by rw [hlength]; exact hi)⟩
  obtain ⟨t, ht⟩ := hget p w 1 (by decide)
  obtain ⟨c, hc⟩ := hget p .gone 2 (by decide)
  obtain ⟨d, hd⟩ := hget Publisher.drop w 1 (by decide)
  obtain ⟨hcalls, hpublished, hvalue⟩ := hworkers p w .gone 1 _ t secondTrace rfl ht hgone
  have hnot : ¬ twoRequests[1].ReadsCounters := fun h => absurd h.path (by decide)
  have hsame : t = secondTrace := by
    obtain ⟨value, calls, published⟩ := t
    rw [secondTrace, Trace.mk.injEq]
    exact ⟨hvalue hnot, hcalls, hpublished⟩
  obtain ⟨hasked, halike⟩ := hbus p hp w w (.refl w) 1 _ d t rfl hd ht
  exact ⟨hp, .refl w, hreads, hgone, t, c, d, ht, hc, hd, hsame,
    hsilent p .gone (by simp) 2 _ c rfl hc hreads, hasked, halike⟩

end Script

end HookBridge
