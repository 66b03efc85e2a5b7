/-
**Every hook request is counted once.**

Each request to a hook that can be read is counted under the status with which it has been answered,
and nothing else is counted.  The answer and the count come to one status on two ways, and this
module ties them together.  It is a property of runs: at any time the text of the counters says how
many of the requests so far have been answered with which status, whatever came between them.

Main definitions:

* `HookBridge.Http.Request.IsHandled` — a request is handled by a hook;
* `HookBridge.Script.answeredWith` — how many steps were requests to a hook that have been answered
  with a status.

Main results:

* `HookBridge.Bridge.metrics_route_of_handled`, `HookBridge.Bridge.metrics_route_of_not_handled` —
  which requests are counted, and under what;
* `HookBridge.Script.sum_answeredWith` — each of them has one status of five;
* `HookBridge.Script.runRequests_counted_from` — the counters in front of any step of a run;
* `HookBridge.Script.runRequests_metrics` — **the text of the counters accounts for every request
  before it**.
-/

import HookBridge.Proofs.Metrics.Exposition
import HookBridge.Proofs.Router
import HookBridge.Proofs.Scripted
import Mathlib

set_option relaxedAutoImplicit false
set_option autoImplicit false

namespace HookBridge

/-! ### Requests that are handled -/

instance (r : Http.Request) : Decidable r.IsReadable :=
  decidable_of_iff (r.body.length ≤ 2097152 ∧ r.fault.isNone = true)
    ⟨fun h => ⟨h.1, Option.isNone_iff_eq_none.1 h.2⟩,
      fun h => ⟨h.length_le, Option.isNone_iff_eq_none.2 h.whole⟩⟩

/-- A request is handled by a hook: it is a `POST` to the path of the hook, and its body is there
and is not too long. -/
structure Http.Request.IsHandled (r : Http.Request) (h : Hook) : Prop where
  method : r.method = "POST"
  path : r.path = h.path
  readable : r.IsReadable

instance (r : Http.Request) (h : Hook) : Decidable (r.IsHandled h) :=
  decidable_of_iff (r.method = "POST" ∧ r.path = h.path ∧ r.IsReadable)
    ⟨fun hr => ⟨hr.1, hr.2.1, hr.2.2⟩, fun hr => ⟨hr.method, hr.path, hr.readable⟩⟩

/-- A request is handled by one hook at most. -/
theorem Http.Request.IsHandled.unique {r : Http.Request} {h h' : Hook} (hr : r.IsHandled h)
    (hr' : r.IsHandled h') : h = h' := by
  have hroute := (Bridge.routeOf_eq_hook_iff _ h).2 hr.path
  rw [(Bridge.routeOf_eq_hook_iff _ h').2 hr'.path] at hroute
  exact (Bridge.Route.hook.inj hroute).symm

namespace Bridge

variable {σ : Type} (b : Bridge σ) {r : Http.Request} (s : BridgeState σ)

/-- A request that is handled is answered with a status that the broker knows, and is counted under
this status. -/
theorem metrics_route_of_handled {h : Hook} (hr : r.IsHandled h) :
    (b.route r s).1.status ∈ brokerStatuses ∧
      ∃ d, (b.route r s).2.metrics = s.metrics.handled ⟨h, (b.route r s).1.status⟩ d := by
  rw [route_eq_answerHook b h s hr.method hr.path, answerHook_of_readable b h s hr.readable]
  exact ⟨statusOf_mem_brokerStatuses _, _, rfl⟩

/-- A request that is not handled by a hook is not counted. -/
theorem metrics_route_of_not_handled (hr : ∀ h, ¬ r.IsHandled h) :
    (b.route r s).2.metrics = s.metrics := by
  by_cases hhook : ∃ h : Hook, r.path = h.path
  · obtain ⟨h, hpath⟩ := hhook
    by_cases hmethod : r.method = "POST"
    · have hread : ¬ r.IsReadable := fun hread => hr h ⟨hmethod, hpath, hread⟩
      obtain ⟨status, reason, -, heq⟩ := answerHook_of_not_readable b h s hread
      rw [route_eq_answerHook b h s hmethod hpath, heq]
    · rw [route_of_not_post b h s hmethod hpath]
  · rw [route_of_no_hook b s fun h heq => hhook ⟨h, heq⟩]

/-- Whoever asks a worker that counts for the counters is given their text. -/
theorem route_metrics {m : Metrics} (hs : s.metrics = .running m) (hmethod : r.method = "GET")
    (hpath : r.path = "/metrics") :
    (b.route r s).1 = ⟨200, some "text/plain; version=0.0.4", none, m.render⟩ := by
  have hroute : routeOf "/metrics" = .metrics := by decide
  rw [route, hpath, hroute, hmethod, hs]
  rfl

end Bridge

namespace Script

/-! ### Numbers of steps -/

/-- How many of the steps were requests that a hook has handled and answered with a status. -/
def answeredWith (h : Hook) (status : Nat) (steps : List (Http.Request × Trace Http.Response)) :
    Nat :=
  steps.countP fun step => step.1.IsHandled h ∧ step.2.value.status = status

/-- How many of the steps were requests that a hook has handled. -/
def handledBy (h : Hook) (steps : List (Http.Request × Trace Http.Response)) : Nat :=
  steps.countP fun step => step.1.IsHandled h

theorem answeredWith_cons (h : Hook) (status : Nat) (step : Http.Request × Trace Http.Response)
    (steps : List (Http.Request × Trace Http.Response)) :
    answeredWith h status (step :: steps) = answeredWith h status steps +
      if step.1.IsHandled h ∧ step.2.value.status = status then 1 else 0 := by
  simp only [answeredWith, List.countP_cons, decide_eq_true_eq]

theorem handledBy_cons (h : Hook) (step : Http.Request × Trace Http.Response)
    (steps : List (Http.Request × Trace Http.Response)) :
    handledBy h (step :: steps) = handledBy h steps + if step.1.IsHandled h then 1 else 0 := by
  simp only [handledBy, List.countP_cons, decide_eq_true_eq]

/-- A step has its status, and no other. -/
theorem sum_map_ite_eq (status : Nat) (hstatus : status ∈ Bridge.brokerStatuses) :
    (Bridge.brokerStatuses.map fun other => if status = other then 1 else 0).sum = 1 := by
  revert status
  decide

/-- **Each request that is handled has one of the statuses that the broker knows**, so their numbers
add up. -/
theorem sum_answeredWith (h : Hook) (steps : List (Http.Request × Trace Http.Response))
    (hsteps : ∀ step ∈ steps, step.1.IsHandled h →
      step.2.value.status ∈ Bridge.brokerStatuses) :
    (Bridge.brokerStatuses.map fun status => answeredWith h status steps).sum =
      handledBy h steps := by
  induction steps with
  | nil => rfl
  | cons step steps ih =>
      obtain ⟨hstep, hrest⟩ := List.forall_mem_cons.1 hsteps
      simp only [answeredWith_cons, handledBy_cons, List.sum_map_add, ih hrest]
      by_cases hhandled : step.1.IsHandled h
      · simp only [hhandled, true_and, if_true, sum_map_ite_eq _ (hstep hhandled)]
      · simp [hhandled]

/-! ### Steps -/

/-- The counters `m` have become `m'` while the steps were counted. -/
structure Counted (steps : List (Http.Request × Trace Http.Response)) (m m' : Metrics) : Prop where
  wellFormed : m'.WellFormed
  number : ∀ h status, m'.number ⟨h, status⟩ = m.number ⟨h, status⟩ + answeredWith h status steps
  timed : ∀ h, m'.timed h = m.timed h + handledBy h steps

theorem Counted.nil {m : Metrics} (hm : m.WellFormed) : Counted [] m m where
  wellFormed := hm
  number := fun _ _ => rfl
  timed := fun _ => rfl

theorem Counted.cons {step : Http.Request × Trace Http.Response}
    {steps : List (Http.Request × Trace Http.Response)} {m m' m'' : Metrics}
    (h : Counted [step] m m') (h' : Counted steps m' m'') : Counted (step :: steps) m m'' where
  wellFormed := h'.wellFormed
  number := by
    intro hook status
    rw [h'.number, h.number, answeredWith_cons, answeredWith_cons]
    simp only [answeredWith, List.countP_nil]
    omega
  timed := by
    intro hook
    rw [h'.timed, h.timed, handledBy_cons, handledBy_cons]
    simp only [handledBy, List.countP_nil]
    omega

/-- A request that is handled is counted once. -/
theorem Counted.of_handled {r : Http.Request} {t : Trace Http.Response} {h : Hook} {m : Metrics}
    (hm : m.WellFormed) (hr : r.IsHandled h) (d : Duration) :
    Counted [(r, t)] m (m.observe ⟨h, t.value.status⟩ d) where
  wellFormed := hm.observe _ d
  number := by
    intro hook status
    have hkey : (⟨hook, status⟩ : HookStatus) = ⟨h, t.value.status⟩ ↔
        r.IsHandled hook ∧ t.value.status = status := by
      rw [HookStatus.mk.injEq]
      exact ⟨fun ⟨hhook, hstatus⟩ => ⟨hhook ▸ hr, hstatus.symm⟩,
        fun ⟨hhandled, hstatus⟩ => ⟨hhandled.unique hr, hstatus.symm⟩⟩
    rw [Metrics.number_observe hm, answeredWith_cons]
    simp only [hkey, answeredWith, List.countP_nil, Nat.zero_add]
  timed := by
    intro hook
    have hhook : hook = h ↔ r.IsHandled hook := ⟨fun heq => heq ▸ hr, fun hr' => hr'.unique hr⟩
    rw [Metrics.timed_observe hm, handledBy_cons]
    simp only [hhook, handledBy, List.countP_nil, Nat.zero_add]

/-- A request that is not handled is not counted. -/
theorem Counted.of_not_handled {r : Http.Request} {t : Trace Http.Response} {m : Metrics}
    (hm : m.WellFormed) (hr : ∀ h, ¬ r.IsHandled h) : Counted [(r, t)] m m where
  wellFormed := hm
  number := by simp [answeredWith, hr]
  timed := by simp [handledBy, hr]

/-- Every step is counted as it should be, whatever happened before it. -/
theorem route_counted (b : Bridge State) (r : Http.Request) (s : BridgeState State) {m : Metrics}
    (hs : s.metrics = .running m) (hm : m.WellFormed) :
    let step := b.route r s
    ∃ m', step.2.metrics = .running m' ∧
      Counted [(r, step.2.outside.trace step.1)] m m' := by
  intro step
  by_cases hhandled : ∃ h, r.IsHandled h
  · obtain ⟨h, hr⟩ := hhandled
    obtain ⟨-, d, hmetrics⟩ := Bridge.metrics_route_of_handled b s hr
    rw [hs] at hmetrics
    exact ⟨_, hmetrics, Counted.of_handled hm hr d⟩
  · have hr : ∀ h, ¬ r.IsHandled h := fun h hr => hhandled ⟨h, hr⟩
    exact ⟨m, (Bridge.metrics_route_of_not_handled b s hr).trans hs, Counted.of_not_handled hm hr⟩

/-! ### Runs -/

/-- In front of any step of a run, the steps before it have been counted. -/
theorem runRequests_counted_from (b : Bridge State) (requests : List Http.Request)
    (s : BridgeState State) {m : Metrics} (hs : s.metrics = .running m) (hm : m.WellFormed) :
    let traces := (runRequests b requests s).1
    ∀ (i : Nat) r t, requests[i]? = some r → traces[i]? = some t →
      ∃ (s' : BridgeState State) (m' : Metrics),
        t = (b.route r s').2.outside.trace (b.route r s').1 ∧ s'.metrics = .running m' ∧
          Counted ((requests.zip traces).take i) m m' := by
  -- induction on the requests: the first step is counted, and the run goes on with new counters
  induction requests generalizing s m with
  | nil =>
      intro traces i r t hr
      exact absurd hr (by simp)
  | cons r rest ih =>
      intro traces i
      have htraces : traces = _ := runRequests_cons b r rest s
      obtain ⟨m', hmetrics, hcounted⟩ :=
        route_counted b r ⟨s.outside.next, s.metrics⟩ (m := m) hs hm
      cases i with
      | zero =>
          intro r' t hr ht
          rw [htraces] at ht
          obtain rfl := Option.some.inj hr
          obtain rfl := Option.some.inj ht
          exact ⟨⟨s.outside.next, s.metrics⟩, m, rfl, hs, Counted.nil hm⟩
      | succ i =>
          intro r' t hr ht
          rw [htraces] at ht ⊢
          obtain ⟨s'', m'', htrace, hmetrics'', hcounted''⟩ :=
            ih _ hmetrics hcounted.wellFormed i r' t hr ht
          exact ⟨s'', m'', htrace, hmetrics'', hcounted.cons hcounted''⟩

/-- Each request of a run that is handled is answered with a status that the broker knows. -/
theorem runRequests_status_mem (b : Bridge State) (requests : List Http.Request)
    (s : BridgeState State) (h : Hook) :
    ∀ step ∈ requests.zip (runRequests b requests s).1, step.1.IsHandled h →
      step.2.value.status ∈ Bridge.brokerStatuses := by
  induction requests generalizing s with
  | nil => simp
  | cons r rest ih =>
      rw [runRequests_cons, List.zip_cons_cons, List.forall_mem_cons]
      exact ⟨fun hr => (Bridge.metrics_route_of_handled b _ hr).1, ih _⟩

/-- **The text of the counters accounts for every request before it.**  Whenever the counters are
asked for in a run, their text has a line for a hook and a status exactly if requests that this hook
has handled were answered with this status so far, and then the line says how many; and it has a
line of numbers for a hook exactly if the hook has handled any, which says how many there are under
all statuses together.  Other requests do not change the counters. -/
theorem runRequests_metrics (b : Bridge State) (requests : List Http.Request) (outside : State) :
    let traces := (runRequests b requests ⟨outside, .running .empty⟩).1
    let before := fun i => (requests.zip traces).take i
    traces.length = requests.length ∧
    (∀ (i : Nat) r t, requests[i]? = some r → traces[i]? = some t →
      r.method = "GET" → r.path = "/metrics" →
        t.value.status = 200 ∧
        (∀ h status n, HasLine t.value.body (Metrics.counterLine h status n) ↔
          1 ≤ n ∧ n = answeredWith h status (before i)) ∧
        (∀ h n, HasLine t.value.body (Metrics.latencyCountLine h n) ↔ 1 ≤ n ∧
          n = (Bridge.brokerStatuses.map fun status => answeredWith h status (before i)).sum) ∧
        ∀ h, ∀ status ∉ Bridge.brokerStatuses, answeredWith h status (before i) = 0) ∧
    ∀ r s, (∀ h, ¬ r.IsHandled h) → (b.route r s).2.metrics = s.metrics := by
  intro traces before
  refine ⟨length_runRequests b requests _, ?_,
    fun r s hr => Bridge.metrics_route_of_not_handled b s hr⟩
  intro i r t hr ht hmethod hpath
  obtain ⟨s', m', rfl, hmetrics, hcounted⟩ :=
    runRequests_counted_from b requests ⟨outside, .running .empty⟩ rfl .empty i r t hr ht
  have hstatuses : ∀ h, ∀ step ∈ before i, step.1.IsHandled h →
      step.2.value.status ∈ Bridge.brokerStatuses := fun h step hstep =>
    runRequests_status_mem b requests _ h step (List.mem_of_mem_take hstep)
  have hnone : ∀ h status, Metrics.empty.number ⟨h, status⟩ = 0 ∧ Metrics.empty.timed h = 0 :=
    fun _ _ => ⟨rfl, rfl⟩
  have hanswer := Bridge.route_metrics b s' hmetrics hmethod hpath
  simp only [State.trace, hanswer]
  refine ⟨trivial, ?_, ?_, ?_⟩
  · intro h status n
    rw [Metrics.hasLine_counterLine_iff hcounted.wellFormed, hcounted.number, (hnone h status).1,
      Nat.zero_add]
  · intro h n
    rw [Metrics.hasLine_latencyCountLine_iff hcounted.wellFormed, hcounted.timed, (hnone h 0).2,
      Nat.zero_add, sum_answeredWith h _ (hstatuses h)]
  · intro h status hstatus
    rw [answeredWith, List.countP_eq_zero]
    intro step hstep
    rw [decide_eq_true_eq]
    rintro ⟨hhandled, rfl⟩
    exact hstatus (hstatuses h step hstep hhandled)

/-- A request for the counters. -/
def getCounters : Http.Request := ⟨"GET", "/metrics", [], [], none⟩

/-- Someone registers twice and publishes without saying so, and then the counters are read. -/
def fourRequests : List Http.Request :=
  let register : Http.Request :=
    ⟨"POST", "/auth_on_register", [("vernemq-hook", Utf8.encode "auth_on_register")],
      Utf8.encode "\x7b\"password\":\"key\"\x7d", none⟩
  [register, ⟨"POST", "/auth_on_publish", [], [], none⟩, register, getCounters]

theorem runRequests_metrics_fourth :
    let b := (Script.mk [] []).bridge .zero
    let traces := (runRequests b fourRequests ⟨.start, .running .empty⟩).1
    ∃ t, traces[3]? = some t ∧ t.value.status = 200 ∧
      HasLine t.value.body (Metrics.counterLine .register 202 2) ∧
      HasLine t.value.body (Metrics.counterLine .publish 400 1) ∧
      HasLine t.value.body (Metrics.latencyCountLine .register 2) ∧
      ¬ HasLine t.value.body (Metrics.latencyCountLine .subscribe 1) ∧
      answeredWith .register 413 ((fourRequests.zip traces).take 3) = 0 ∧
      (b.route getCounters ⟨.start, .mute⟩).2.metrics = .mute := by
  intro b traces
  obtain ⟨hlength, hmetrics, hother⟩ := runRequests_metrics b fourRequests .start
  have hlt : 3 < traces.length := by
    rw [hlength]
    decide
  have ht : traces[3]? = some traces[3] := List.getElem?_eq_getElem hlt
  obtain ⟨hstatus, hcounter, hcount, hnone⟩ :=
    hmetrics 3 getCounters traces[3] rfl ht rfl (by decide)
  refine ⟨traces[3], ht, hstatus, ?_, ?_, ?_, ?_, ?_, ?_⟩
  · exact (hcounter .register 202 2).2 (by decide +kernel)
  · exact (hcounter .publish 400 1).2 (by decide +kernel)
  · exact (hcount .register 2).2 (by decide +kernel)
  · exact fun h => absurd ((hcount .subscribe 1).1 h) (by decide +kernel)
  · exact hnone .register 413 (by decide)
  · exact hother getCounters _ fun h hr => absurd hr.method (by decide)

end Script

end HookBridge
