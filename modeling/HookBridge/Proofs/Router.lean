/-
**What the broker is answered.**

The broker knows five statuses and reads no body.  The outcome of a hook request always is one of
the five, and its answer has no body.  But a request has an outcome only if its body could be read:
a body that is too long, or that breaks off on its way, is answered before anyone looks at the
header of the hook, in words and, if it is too long, with a status that is none of the five.  This
module draws the line between the two.

Main definitions:

* `HookBridge.Bridge.brokerStatuses` — the statuses that the broker knows;
* `HookBridge.Http.Request.IsReadable` — the body is there, and is not too long.

Main results:

* `HookBridge.Bridge.routeOf_eq_hook_iff` — what stands at the path of a hook;
* `HookBridge.Bridge.answerHook_of_readable` — a readable request to a hook is answered with the
  status of its outcome;
* `HookBridge.Bridge.statusOf_mem_brokerStatuses` — the statuses of outcomes;
* `HookBridge.Bridge.route_hook_contract_iff` — **the contract is kept exactly where the body can be
  read**;
* `HookBridge.Bridge.route_hook_contract_fails` — so it is not always kept.
-/

import HookBridge.Proofs.Hook.Inquiry

set_option relaxedAutoImplicit false
set_option autoImplicit false

namespace HookBridge

/-! ### Readable requests -/

/-- The body of a request is there, and is not too long. -/
structure Http.Request.IsReadable (r : Http.Request) : Prop where
  length_le : r.body.length ≤ 2097152
  whole : r.fault = none

namespace Bridge

/-! ### Routes of hooks -/

/-- Each hook stands at its path, and nothing else does. -/
theorem routeOf_eq_hook_iff (path : String) (h : Hook) :
    routeOf path = .hook h ↔ path = h.path := by
  constructor
  · intro hr
    cases hp : Hook.ofPath? path with
    | none =>
        simp only [routeOf, hp] at hr
        split at hr
        · exact absurd hr (by simp)
        · split at hr <;> exact absurd hr (by simp)
    | some h' =>
        -- the hook that was found stands at the path that it was looked for by
        simp only [routeOf, hp] at hr
        obtain rfl := Route.hook.inj hr
        have hfound := List.find?_some hp
        exact (beq_iff_eq.1 hfound).symm
  · rintro rfl
    cases h <;> rfl

/-! ### The statuses of outcomes -/

/-- The statuses that the broker knows. -/
def brokerStatuses : List Nat := [202, 400, 403, 500, 503]

theorem status_mem (error : HookError) : error.status ∈ [400, 403, 500, 503] := by
  match error with
  | .unsupportedRequest => simp [HookError.status]
  | .malformedBody _ => simp [HookError.status]
  | .topic _ => simp [HookError.status]
  | .auth .unauthorized => simp [HookError.status]
  | .auth (.backend error) =>
      rw [HookError.status]
      split <;> decide
  | .unclassified _ => simp [HookError.status]

/-- The status of an outcome is one that the broker knows. -/
theorem statusOf_mem_brokerStatuses (outcome : Except HookError Unit) :
    statusOf outcome ∈ brokerStatuses := by
  cases outcome with
  | error error => exact List.mem_cons_of_mem _ (status_mem error)
  | ok _ => exact List.mem_cons_self ..

/-- Only what is accepted has the status of what is accepted. -/
theorem statusOf_eq_accepted_iff (outcome : Except HookError Unit) :
    statusOf outcome = 202 ↔ outcome = .ok () := by
  cases outcome with
  | error error =>
      have hne : error.status ≠ 202 := by
        intro heq
        exact absurd (heq ▸ status_mem error) (by decide)
      simpa [statusOf] using hne
  | ok _ => simp [statusOf, acceptedStatus]

/-! ### The answers of hooks -/

variable {σ : Type} (b : Bridge σ) (h : Hook) {r : Http.Request} (s : BridgeState σ)

theorem route_eq_answerHook (hmethod : r.method = "POST") (hpath : r.path = h.path) :
    b.route r s = b.answerHook h r s := by
  rw [route, (routeOf_eq_hook_iff r.path h).2 hpath]
  simp only [if_pos hmethod]

/-- A readable request to a hook is answered with the status of its outcome, and counted. -/
theorem answerHook_of_readable (hread : r.IsReadable) :
    b.answerHook h r s =
      let v := b.runHook h r.headers r.body s.outside
      (.bare (statusOf v.result),
        ⟨v.state, s.metrics.handled ⟨h, statusOf v.result⟩ v.elapsed⟩) := by
  have hlength : ¬ bodyLimit < r.body.length := Nat.not_lt.2 hread.length_le
  rw [answerHook, if_neg hlength, hread.whole]

/-- A body that is too long is answered before anything else is looked at. -/
theorem answerHook_of_too_long (hlength : 2097152 < r.body.length) :
    b.answerHook h r s = (tooLong, s) := by
  have hlimit : bodyLimit < r.body.length := hlength
  rw [answerHook, if_pos hlimit]

/-- A request that cannot be read is answered in words, and changes nothing. -/
theorem answerHook_of_not_readable (hread : ¬ r.IsReadable) :
    ∃ status reason, status ∈ [400, 413] ∧ b.answerHook h r s = (unreadable status reason, s) := by
  by_cases hlength : 2097152 < r.body.length
  · exact ⟨413, _, by decide, answerHook_of_too_long b h s hlength⟩
  · have hlimit : ¬ bodyLimit < r.body.length := hlength
    rw [answerHook, if_neg hlimit]
    cases hfault : r.fault with
    | none => exact absurd ⟨Nat.not_lt.1 hlength, hfault⟩ hread
    | some fault => exact ⟨400, _, by decide, rfl⟩

theorem unreadable_body_ne (status : Nat) (reason : String) :
    (unreadable status reason).body ≠ "" := by
  simp [unreadable, String.append_eq_empty_iff]

/-- Only a request that could be read is answered without a word. -/
theorem isReadable_of_body_eq_empty (hbody : (b.answerHook h r s).1.body = "") : r.IsReadable := by
  refine Classical.byContradiction fun hread => ?_
  obtain ⟨status, reason, -, heq⟩ := answerHook_of_not_readable b h s hread
  rw [heq] at hbody
  exact unreadable_body_ne status reason hbody

/-- A request that does not name its hook is a bad one, whatever its body is. -/
theorem runHook_of_not_named {headers : Http.Headers} {body : Bytes} {s : σ}
    (hn : ¬ h.name.toList <:+: (headers.text Hook.headerName).toList) :
    b.runHook h headers body s = ⟨.error .unsupportedRequest, .zero, s⟩ := by
  refine runHook_of_refused ?_ s
  rw [← Hook.isNamedBy_iff] at hn
  rw [Hook.inquiry, Hook.decode, if_neg hn]

/-! ### Everything else -/

/-- A page can be read, and that is all. -/
theorem route_of_no_hook (hpath : ∀ h : Hook, r.path ≠ h.path) : (b.route r s).2 = s := by
  rw [route]
  cases hr : routeOf r.path with
  | hook h => exact absurd ((routeOf_eq_hook_iff r.path h).1 hr) (hpath h)
  | _ => rfl

/-- A hook takes nothing but a `POST`. -/
theorem route_of_not_post (hmethod : r.method ≠ "POST") (hpath : r.path = h.path) :
    b.route r s = (⟨405, none, some "POST", ""⟩, s) := by
  rw [route, (routeOf_eq_hook_iff r.path h).2 hpath]
  simp only [if_neg hmethod]
  rfl

/-! ### The contract -/

/-- **The contract is kept exactly where the body can be read.**  A `POST` to the path of a hook is
answered with one of the five statuses and no body, and with 400 if the request does not name the
hook, if and only if its body is there and is not too long.  One that is too long is answered with
413, in words, whatever its header fields are. -/
theorem route_hook_contract_iff (hmethod : r.method = "POST") (hpath : r.path = h.path) :
    (((b.route r s).1.status ∈ brokerStatuses ∧ (b.route r s).1.body = "") ↔ r.IsReadable) ∧
    (¬ h.name.toList <:+: (r.headers.text Hook.headerName).toList →
      ((b.route r s).1 = .bare 400 ↔ r.IsReadable)) ∧
    (2097152 < r.body.length → (b.route r s).1 =
      ⟨413, some "text/plain; charset=utf-8", none,
        "Failed to buffer the request body: length limit exceeded"⟩) := by
  rw [route_eq_answerHook b h s hmethod hpath]
  refine ⟨⟨?_, ?_⟩, ?_, ?_⟩
  · rintro ⟨-, hbody⟩
    exact isReadable_of_body_eq_empty b h s hbody
  · intro hread
    rw [answerHook_of_readable b h s hread]
    exact ⟨statusOf_mem_brokerStatuses _, rfl⟩
  · intro hn
    constructor
    · intro hanswer
      exact isReadable_of_body_eq_empty b h s (congrArg Http.Response.body hanswer)
    · intro hread
      rw [answerHook_of_readable b h s hread, runHook_of_not_named b h hn]
      rfl
  · intro hlength
    rw [answerHook_of_too_long b h s hlength]
    rfl

/-- A request to register with a body of one byte too many and no header fields. -/
def oversized : Http.Request :=
  ⟨"POST", "/auth_on_register", [], List.replicate 2097153 0x20, none⟩

theorem oversized_path : oversized.path = Hook.register.path := by decide

theorem oversized_length : 2097152 < oversized.body.length := by
  rw [oversized, List.length_replicate]
  omega

/-- A bridge that knows everyone does not look at the request either. -/
theorem route_hook_contract_iff_oversized :
    oversized.method = "POST" ∧ oversized.path = Hook.register.path ∧
      2097152 < oversized.body.length ∧
      (@Bridge.route Unit ⟨⟨fun _ s => (⟨.ok "u1", .zero⟩, s), .zero⟩, Publisher.drop⟩
        oversized ⟨(), .gone⟩).1 =
        ⟨413, some "text/plain; charset=utf-8", none,
          "Failed to buffer the request body: length limit exceeded"⟩ :=
  ⟨rfl, oversized_path, oversized_length,
    (route_hook_contract_iff _ .register ⟨(), .gone⟩ rfl oversized_path).2.2 oversized_length⟩

/-- The contract is not always kept: a body of one byte too many is answered with a status that the
broker does not know. -/
theorem route_hook_contract_fails :
    ¬ ∀ (b : Bridge Unit) (h : Hook) (r : Http.Request) (s : BridgeState Unit),
      r.method = "POST" → r.path = h.path →
        (b.route r s).1.status ∈ brokerStatuses ∧ (b.route r s).1.body = "" := by
  intro hall
  have hstatus := (hall ⟨⟨fun _ s => (⟨.ok "u1", .zero⟩, s), .zero⟩, Publisher.drop⟩ .register
    oversized ⟨(), .gone⟩ rfl oversized_path).1
  rw [route_eq_answerHook _ .register _ rfl oversized_path,
    answerHook_of_too_long _ _ _ oversized_length] at hstatus
  exact absurd hstatus (by decide)

end Bridge

end HookBridge
