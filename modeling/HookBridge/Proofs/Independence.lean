/-
**Requests do not depend on each other.**

A bridge remembers nothing of a request but that it has been counted.  If the things service answers
a question in the same way whenever it is asked, and the bus takes every message, then each request
comes to what it would come to if it were the only one, and the order of the requests is seen by
nobody: not by those who send them, not in the bus, where the same messages arrive, and not in the
counters.

What a request comes to on its own is compared with what it comes to within a run, where the
surroundings and the counters are in any state.  A bridge in steady surroundings decides alike from
any two states, so the step lemma is the one for bridges that decide alike.

Main definitions:

* `HookBridge.Script.AnswersBy` — a things service whose replies depend on the questions only;
* `HookBridge.Script.Keeps` — a publisher that takes every message, and what it keeps of each;
* `HookBridge.Script.alone` — what a request comes to when it is the only one;
* `HookBridge.Script.AsAlone` — a step that comes to this.

Main results:

* `HookBridge.Script.runRequests_asAlone` — each step of a run is as alone;
* `HookBridge.Script.published_eq_flatMap`, `HookBridge.Script.answeredWith_eq_countP` — what has
  been published and counted in a run is known from its requests, one by one;
* `HookBridge.Script.runRequests_perm` — **requests do not depend on each other, nor on their
  order**.
-/

import HookBridge.Proofs.Bystanders

set_option relaxedAutoImplicit false
set_option autoImplicit false

namespace HookBridge

/-- A request that a hook handles is not one for the counters. -/
theorem Http.Request.IsHandled.not_readsCounters {r : Http.Request} {h : Hook}
    (hr : r.IsHandled h) : ¬ r.ReadsCounters := by
  rintro ⟨-, hget | hhead⟩
  · exact absurd (hr.method.symm.trans hget) (by decide)
  · exact absurd (hr.method.symm.trans hhead) (by decide)

namespace Script

/-! ### Steady surroundings -/

/-- A things service that answers a question in the same way, and in the same time, whenever it is
asked. -/
structure AnswersBy (things : Things.Service State) (answer : Things.Call → Things.Reply) :
    Prop where
  reply : ∀ call s, (things call s).1 = answer call
  calls : ∀ call s, (things call s).2.calls = s.calls ++ [call]
  published : ∀ call s, (things call s).2.published = s.published

/-- A publisher that takes every message, and keeps `kept message` of it: the message for a bus, and
nothing where there is none. -/
structure Keeps (p : Publisher State) (kept : Message → List Message) : Prop
    extends NeverFails p where
  published : ∀ m s, (p m s).2.published = s.published ++ kept m

/-- The things service of a script with one reply answers in the same way whenever it is asked. -/
theorem answersBy_things {script : Script} {reply : Things.Reply}
    (h : ∀ n, script.reply n = reply) : AnswersBy script.things fun _ => reply where
  reply := fun _ s => h s.asked
  calls := fun _ _ => rfl
  published := fun _ _ => rfl

/-- The publisher of a script in which no message is refused keeps every message. -/
theorem keeps_publisher {script : Script} (h : ∀ n, script.refusal n = none) :
    Keeps script.publisher fun m => [m] where
  toNeverFails := neverFails_publisher h
  published := by simp [publisher, h]

/-- The current step has asked the same and published the same. -/
structure SameStep (s s' : State) : Prop where
  calls : s.calls = s'.calls
  published : s.published = s'.published

variable {b : Bridge State} {answer : Things.Call → Things.Reply} {kept : Message → List Message}

/-- In steady surroundings a bridge matches itself from any two states. -/
theorem matches_of_steady (ht : AnswersBy b.authorizer.things answer)
    (hp : Keeps b.publisher kept) : b.Matches SameStep b where
  timeout := rfl
  things := by
    rintro call s s' ⟨hcalls, hpublished⟩
    refine ⟨(ht.reply _ _).trans (ht.reply _ _).symm, ?_, ?_⟩
    · rw [ht.calls, ht.calls, hcalls]
    · rw [ht.published, ht.published, hpublished]
  publisher := by
    rintro message s s' ⟨hcalls, hpublished⟩
    refine ⟨(hp.taken _ _).trans (hp.taken _ _).symm, ?_, ?_⟩
    · rw [hp.calls, hp.calls, hcalls]
    · rw [hp.published, hp.published, hpublished]

/-! ### Requests on their own -/

/-- What a request comes to when it is the only one. -/
def alone (b : Bridge State) (s : BridgeState State) (r : Http.Request) : Trace Http.Response :=
  let step := b.route r ⟨s.outside.next, s.metrics⟩
  step.2.outside.trace step.1

theorem runRequests_singleton (b : Bridge State) (s : BridgeState State) (r : Http.Request) :
    (runRequests b [r] s).1 = [alone b s r] := rfl

/-- A step that comes to the same as alone, but for the text of the counters. -/
structure AsAlone (b : Bridge State) (s : BridgeState State) (r : Http.Request)
    (t : Trace Http.Response) : Prop where
  calls : t.calls = (alone b s r).calls
  published : t.published = (alone b s r).published
  value : ¬ r.ReadsCounters → t.value = (alone b s r).value

/-- Unless the counters are read, such a step is the same. -/
theorem AsAlone.eq {s : BridgeState State} {r : Http.Request} {t : Trace Http.Response}
    (h : AsAlone b s r t) (hr : ¬ r.ReadsCounters) : t = alone b s r := by
  obtain ⟨value, calls, published⟩ := t
  obtain ⟨rfl, rfl, hvalue⟩ := h
  obtain rfl := hvalue hr
  rfl

/-- **Each step of a run is as alone**, whatever the run has come to before it. -/
theorem runRequests_asAlone (hd : b.DecideAlike SameStep b) (s₀ s : BridgeState State)
    (requests : List Http.Request) :
    List.Forall₂ (AsAlone b s₀) requests (runRequests b requests s).1 := by
  induction requests generalizing s with
  | nil => exact .nil
  | cons r rest ih =>
      rw [runRequests_cons]
      -- a step begins with nothing asked and nothing published, so it does not matter after what
      have hnext : SameStep s.outside.next s₀.outside.next := ⟨rfl, rfl⟩
      obtain ⟨hstep, hvalue, -⟩ := hd.route r hnext s.metrics s₀.metrics
      exact .cons ⟨hstep.calls, hstep.published, hvalue⟩ (ih _)

/-! ### What is left of a run -/

section Left

variable {s : BridgeState State} {requests : List Http.Request}
  {traces : List (Trace Http.Response)}

/-- What is published in a run is what its requests publish alone. -/
theorem published_eq_flatMap (h : List.Forall₂ (AsAlone b s) requests traces) :
    traces.flatMap (·.published) = requests.flatMap fun r => (alone b s r).published := by
  induction h with
  | nil => rfl
  | cons hstep _ ih => rw [List.flatMap_cons, List.flatMap_cons, ih, hstep.published]

/-- What is counted in a run under a status are the requests that have this status alone. -/
theorem answeredWith_eq_countP (h : List.Forall₂ (AsAlone b s) requests traces) (hook : Hook)
    (status : Nat) :
    answeredWith hook status (requests.zip traces) =
      requests.countP fun r => r.IsHandled hook ∧ (alone b s r).value.status = status := by
  induction h with
  | nil => rfl
  | @cons r t rest traces hstep _ ih =>
      have hstatus : (r.IsHandled hook ∧ t.value.status = status) ↔
          r.IsHandled hook ∧ (alone b s r).value.status = status :=
        and_congr_right fun hr => by rw [hstep.value hr.not_readsCounters]
      simp only [List.zip_cons_cons, answeredWith_cons, List.countP_cons, decide_eq_true_eq, ih,
        hstatus]

/-- What is timed in a run are the requests that a hook handles. -/
theorem handledBy_eq_countP (h : List.Forall₂ (AsAlone b s) requests traces) (hook : Hook) :
    handledBy hook (requests.zip traces) = requests.countP fun r => r.IsHandled hook := by
  induction h with
  | nil => rfl
  | cons _ _ ih =>
      simp only [List.zip_cons_cons, handledBy_cons, List.countP_cons, decide_eq_true_eq, ih]

end Left

/-! ### Requests in another order -/

/-- The counters after a run: whoever asks for them then is shown what the requests of the run add
to them alone. -/
theorem runRequests_then_counters (hd : b.DecideAlike SameStep b) (requests : List Http.Request)
    (outside : State) {g : Http.Request} (hmethod : g.method = "GET")
    (hpath : g.path = "/metrics") :
    let start : BridgeState State := ⟨outside, .running .empty⟩
    ∃ t, ∃ m : Metrics, (runRequests b (requests ++ [g]) start).1[requests.length]? = some t ∧
      t.value = ⟨200, some "text/plain; version=0.0.4", none, m.render⟩ ∧ m.WellFormed ∧
      (∀ hook status, m.number ⟨hook, status⟩ =
        requests.countP fun r => r.IsHandled hook ∧ (alone b start r).value.status = status) ∧
      ∀ hook, m.timed hook = requests.countP fun r => r.IsHandled hook := by
  intro start
  have hget : (requests ++ [g])[requests.length]? = some g := List.getElem?_concat_length
  have hlength : (runRequests b (requests ++ [g]) start).1.length = requests.length + 1 := by
    rw [length_runRequests, List.length_append, List.length_singleton]
  have hlt : requests.length < (runRequests b (requests ++ [g]) start).1.length := by omega
  have ht := List.getElem?_eq_getElem hlt
  obtain ⟨s', m, htrace, hmetrics, hcounted⟩ :=
    runRequests_counted_from b (requests ++ [g]) start rfl .empty _ g _ hget ht
  -- of the run before the counters are read, each step is as alone
  have hasAlone := List.forall₂_take requests.length
    (runRequests_asAlone hd start start (requests ++ [g]))
  rw [List.take_left] at hasAlone
  rw [List.zip, List.take_zipWith, List.take_left, ← List.zip] at hcounted
  refine ⟨_, m, ht, ?_, hcounted.wellFormed, fun hook status => ?_, fun hook => ?_⟩
  · rw [htrace]
    exact Bridge.route_metrics b s' hmetrics hmethod hpath
  · rw [hcounted.number, answeredWith_eq_countP hasAlone]
    exact Nat.zero_add _
  · rw [hcounted.timed, handledBy_eq_countP hasAlone]
    exact Nat.zero_add _

/-- **Requests do not depend on each other, nor on their order.**  Where the things service answers
the same whenever it is asked, and the publisher takes every message: each request of a run that is
not for the counters comes to what it comes to as the only one; and two runs of the same requests in
different orders publish the same messages, and show the same counters afterwards, but for times. -/
theorem runRequests_perm (ht : AnswersBy b.authorizer.things answer) (hp : Keeps b.publisher kept)
    {requests requests' : List Http.Request} (hperm : requests.Perm requests')
    (outside : State) :
    let run := fun requests => (runRequests b requests ⟨outside, .running .empty⟩).1
    (∀ l : List Http.Request, (run l).length = l.length ∧
      ∀ (i : Nat) r t, l[i]? = some r → (run l)[i]? = some t → ¬ r.ReadsCounters →
        run [r] = [t]) ∧
    ((run requests).flatMap (·.published)).Perm ((run requests').flatMap (·.published)) ∧
    ∀ g : Http.Request, g.method = "GET" → g.path = "/metrics" →
      ∃ t t', (run (requests ++ [g]))[requests.length]? = some t ∧
        (run (requests' ++ [g]))[requests'.length]? = some t' ∧
        t.value.status = 200 ∧ t'.value.status = 200 ∧ t.value.Alike t'.value ∧
        (∀ h status n, HasLine t.value.body (Metrics.counterLine h status n) ↔
          HasLine t'.value.body (Metrics.counterLine h status n)) ∧
        ∀ h n, HasLine t.value.body (Metrics.latencyCountLine h n) ↔
          HasLine t'.value.body (Metrics.latencyCountLine h n) := by
  intro run
  have hd := (matches_of_steady ht hp).decideAlike
  have hrun : ∀ l, List.Forall₂ (AsAlone b ⟨outside, .running .empty⟩) l (run l) :=
    runRequests_asAlone hd _ _
  refine ⟨fun l => ⟨length_runRequests b l _, fun i r t hr htrace hreads => ?_⟩, ?_, ?_⟩
  · have hmem : (r, t) ∈ l.zip (run l) :=
      List.mem_of_getElem? (List.getElem?_zip_eq_some.2 ⟨hr, htrace⟩)
    rw [((List.forall₂_iff_zip.1 (hrun l)).2 hmem).eq hreads]
    exact runRequests_singleton b _ r
  · rw [published_eq_flatMap (hrun requests), published_eq_flatMap (hrun requests')]
    exact hperm.flatMap_right _
  · intro g hmethod hpath
    obtain ⟨t, m, hget, hvalue, hwell, hnumber, htimed⟩ :=
      runRequests_then_counters hd requests outside hmethod hpath
    obtain ⟨t', m', hget', hvalue', hwell', hnumber', htimed'⟩ :=
      runRequests_then_counters hd requests' outside hmethod hpath
    have hnumbers : ∀ key, m.number key = m'.number key := fun key => by
      rw [hnumber, hnumber', hperm.countP_eq]
    have htimes : ∀ hook, m.timed hook = m'.timed hook := fun hook => by
      rw [htimed, htimed', hperm.countP_eq]
    have halike := Metrics.Alike.of_number hwell hwell' hnumbers htimes
    refine ⟨t, t', hget, hget', ?_⟩
    rw [hvalue, hvalue']
    refine ⟨rfl, rfl, ⟨rfl, rfl, rfl, halike.maskSums_render, fun hne => absurd rfl hne⟩, ?_, ?_⟩
    · intro h status n
      rw [Metrics.hasLine_counterLine_iff hwell, Metrics.hasLine_counterLine_iff hwell',
        hnumbers]
    · intro h n
      rw [Metrics.hasLine_latencyCountLine_iff hwell, Metrics.hasLine_latencyCountLine_iff hwell',
        htimes]

/-- A things service that gives the same identifier to any question, after a second. -/
def steadyScript : Script := ⟨[⟨.ok "u1", .ofSeconds 1⟩], []⟩

/-- Someone registers and someone publishes, or the other way around, and then the counters are
read. -/
theorem runRequests_perm_reverse :
    let b := steadyScript.bridge (.ofSeconds 1)
    let run := fun requests => (runRequests b requests ⟨.start, .running .empty⟩).1
    AnswersBy b.authorizer.things (fun _ => ⟨.ok "u1", .ofSeconds 1⟩) ∧
      Keeps b.publisher (fun m => [m]) ∧ twoRequests.Perm twoRequests.reverse ∧
      ¬ twoRequests[1].ReadsCounters ∧
      (∃ t, (run twoRequests)[1]? = some t ∧ run [twoRequests[1]] = [t] ∧
        t.published.length = 1) ∧
      ((run twoRequests).flatMap (·.published)).Perm
        ((run twoRequests.reverse).flatMap (·.published)) ∧
      ∃ t t', (run (twoRequests ++ [getCounters]))[2]? = some t ∧
        (run (twoRequests.reverse ++ [getCounters]))[2]? = some t' ∧ t.value.Alike t'.value := by
  intro b run
  have ht : AnswersBy b.authorizer.things fun _ => ⟨.ok "u1", .ofSeconds 1⟩ :=
    answersBy_things fun n => by cases n <;> rfl
  have hp : Keeps steadyScript.publisher fun m => [m] :=
    keeps_publisher fun n => by simp [refusal, steadyScript]
  have hperm : twoRequests.Perm twoRequests.reverse := (List.reverse_perm _).symm
  have hnot : ¬ twoRequests[1].ReadsCounters := fun h => absurd h.path (by decide)
  obtain ⟨halone, hpublished, hcounters⟩ := runRequests_perm ht hp hperm .start
  obtain ⟨hlength, hsteps⟩ := halone twoRequests
  have htaken : (run twoRequests)[1]?.map (·.published.length) = some 1 := by decide +kernel
  obtain ⟨t, hget, hcount⟩ := Option.map_eq_some_iff.1 htaken
  obtain ⟨c, c', hc, hc', -, -, halike, -⟩ := hcounters getCounters rfl (by decide)
  exact ⟨ht, hp, hperm, hnot, ⟨t, hget, hsteps 1 _ t rfl hget hnot, hcount⟩, hpublished,
    c, c', hc, hc', halike⟩

end Script

end HookBridge
