/-
**Hook requests against a script.**

Against a script, a hook request that is not refused asks the next question of the script and, if a
message comes of the answer, hands it over next.  This module says so in one equation, and with it
what a request does to the state of the script.

Main definitions:

* `HookBridge.Script.bridge` — the bridge whose surroundings are a script;
* `HookBridge.Inquiry.message?`, `HookBridge.Inquiry.taken?` — the message that a reply leads to,
  and whether the bus has it in the end;
* `HookBridge.Inquiry.outcome` — what a question comes to.

Main results:

* `HookBridge.Authorizer.bounded_eq_ok_iff`, `HookBridge.Authorizer.bounded_eq_error` — what a
  reply in time is, and what becomes of any other;
* `HookBridge.Inquiry.message?_eq_some_iff` — when a message comes of a question;
* `HookBridge.Script.runHook_of_inquiry` — **a hook request with a question**, and all that it does
  to the state of the script;
* `HookBridge.Script.runRequests_cons`, `HookBridge.Script.length_runRequests` — a run is a step and
  then a run, with a step for each request.
-/

import HookBridge.Proofs.Hook.Inquiry
import HookBridge.Scripted

set_option relaxedAutoImplicit false
set_option autoImplicit false

namespace HookBridge

/-! ### Replies in time -/

namespace Authorizer

theorem bounded_of_late {timeout : Duration} {reply : Things.Reply}
    (ht : ¬ reply.delay ≤ timeout) :
    (bounded timeout reply).1 = .error (.backend (overdue timeout)) := by
  rw [bounded, if_neg ht]

theorem bounded_of_error {timeout : Duration} {reply : Things.Reply} {e : Things.Error}
    (ht : reply.delay ≤ timeout) (hr : reply.result = .error e) :
    (bounded timeout reply).1 = .error (.backend e) := by
  rw [bounded, if_pos ht, hr]
  rfl

theorem bounded_of_ok {timeout : Duration} {reply : Things.Reply} {thing : String}
    (ht : reply.delay ≤ timeout) (hr : reply.result = .ok thing) :
    (bounded timeout reply).1 = .ok thing := by
  rw [bounded, if_pos ht, hr]
  rfl

/-- An identifier comes of a reply that holds it and is in time. -/
theorem bounded_eq_ok_iff (timeout : Duration) (reply : Things.Reply) (thing : String) :
    (bounded timeout reply).1 = .ok thing ↔
      reply.result = .ok thing ∧ reply.delay ≤ timeout := by
  by_cases ht : reply.delay ≤ timeout
  · cases hr : reply.result with
    | error e => simp [bounded_of_error ht hr]
    | ok thing' => simp [bounded_of_ok ht hr, ht]
  · simp [bounded_of_late ht, ht]

end Authorizer

/-! ### What a question comes to -/

namespace Inquiry

variable (q : Inquiry) (timeout : Duration) (reply : Things.Reply) (refusal : Option String)

/-- The message that is handed over, if the reply leads to one. -/
def message? : Option Message :=
  match (Authorizer.bounded timeout reply).1 with
  | .error _ => none
  | .ok thing =>
      match q.accept thing with
      | .accepted _ => none
      | .publish m => some m

/-- The message that is handed over and taken. -/
def taken? : Option Message :=
  match refusal with
  | none => q.message? timeout reply
  | some _ => none

/-- What a question comes to, given the reply and, if a message is handed over, why it is not
taken. -/
def outcome : Except HookError Unit :=
  match (Authorizer.bounded timeout reply).1, q.message? timeout reply, refusal with
  | .error error, _, _ => .error (.auth error)
  | .ok _, some _, some reason => .error (.ofPublish ⟨reason⟩)
  | .ok _, _, _ => .ok ()

variable {q timeout reply refusal}

theorem message?_eq_some_iff {m : Message} :
    q.message? timeout reply = some m ↔
      ∃ thing, reply.result = .ok thing ∧ reply.delay ≤ timeout ∧ q.accept thing = .publish m := by
  rw [message?]
  cases hb : (Authorizer.bounded timeout reply).1 with
  | error error =>
      simp only [reduceCtorEq, false_iff]
      rintro ⟨thing, hresult, htime, -⟩
      rw [(Authorizer.bounded_eq_ok_iff timeout reply thing).2 ⟨hresult, htime⟩] at hb
      exact absurd hb (by simp)
  | ok thing =>
      obtain ⟨hresult, htime⟩ := (Authorizer.bounded_eq_ok_iff timeout reply thing).1 hb
      simp only [hresult, htime, Except.ok.injEq, true_and, exists_eq_left']
      cases q.accept thing <;> simp

/-- A message that is taken is one that is handed over, and its request comes to a good end. -/
theorem taken?_eq_some_iff {m : Message} :
    q.taken? timeout reply refusal = some m ↔
      q.message? timeout reply = some m ∧ refusal = none := by
  cases refusal <;> simp [taken?]

theorem outcome_of_message {m : Message} (hm : q.message? timeout reply = some m) :
    q.outcome timeout reply refusal = .ok () ↔ refusal = none := by
  obtain ⟨thing, hresult, htime, -⟩ := message?_eq_some_iff.1 hm
  have hb := (Authorizer.bounded_eq_ok_iff timeout reply thing).2 ⟨hresult, htime⟩
  cases refusal <;> simp [outcome, hm, hb]

end Inquiry

/-- A request to publish that comes to a good end has had its message taken. -/
theorem Hook.taken_of_outcome {headers : Http.Headers} {body : Bytes} {q : Inquiry}
    (hq : Hook.publish.inquiry headers body = .ok q) {timeout : Duration} {reply : Things.Reply}
    {refusal : Option String} (ho : q.outcome timeout reply refusal = .ok ()) :
    ∃ m, q.taken? timeout reply refusal = some m := by
  cases hb : (Authorizer.bounded timeout reply).1 with
  | error error => simp [Inquiry.outcome, hb] at ho
  | ok thing =>
      obtain ⟨hresult, htime⟩ := (Authorizer.bounded_eq_ok_iff timeout reply thing).1 hb
      obtain ⟨m, haccept⟩ := (Hook.eq_publish_iff hq thing).1 rfl
      have hm : q.message? timeout reply = some m :=
        Inquiry.message?_eq_some_iff.2 ⟨thing, hresult, htime, haccept⟩
      exact ⟨m, Inquiry.taken?_eq_some_iff.2 ⟨hm, (Inquiry.outcome_of_message hm).1 ho⟩⟩

/-! ### Hook requests -/

namespace Script

/-- The bridge whose surroundings are a script. -/
def bridge (script : Script) (timeout : Duration) : Bridge State :=
  ⟨script.authorizer timeout, script.publisher⟩

variable (script : Script) (timeout : Duration)
variable {h : Hook} {headers : Http.Headers} {body : Bytes}

/-- **A hook request with a question** asks it once, as the next question of the script, and hands
over the message that it leads to, as the next message. -/
theorem runHook_of_inquiry {q : Inquiry} (hq : h.inquiry headers body = .ok q) (s : State) :
    (script.bridge timeout).runHook h headers body s =
      let reply := script.reply s.asked
      let refusal := script.refusal s.handed
      ⟨q.outcome timeout reply refusal, (Authorizer.bounded timeout reply).2,
        ⟨s.asked + 1, s.handed + (q.message? timeout reply).toList.length, s.calls ++ [q.call],
          s.published ++ (q.taken? timeout reply refusal).toList⟩⟩ := by
  rw [Bridge.runHook_of_inquiry hq]
  simp only [Inquiry.verdict, bridge, authorizer, things, HookRequest.settle, Verdict.mapResult,
    Inquiry.outcome, Inquiry.taken?, Inquiry.message?]
  -- what is left is what becomes of the reply, of its decision and of the message, in this order
  obtain ⟨result, elapsed⟩ := Authorizer.bounded timeout (script.reply s.asked)
  cases result with
  | error error => cases script.refusal s.handed <;> simp [Bridge.carryOut]
  | ok thing =>
      cases haccept : q.accept thing with
      | accepted thing' => cases script.refusal s.handed <;> simp [Bridge.carryOut, haccept]
      | publish m =>
          cases hr : script.refusal s.handed with
          | some reason =>
              simp only [Bridge.carryOut, haccept, publisher, hr, Option.toList_none,
                List.append_nil, Option.toList_some, List.length_singleton]
              rfl
          | none =>
              simp only [Bridge.carryOut, haccept, publisher, hr, Option.toList_some,
                List.length_singleton]
              rfl

/-! ### Runs -/

/-- A run is a step and then a run. -/
theorem runRequests_cons (b : Bridge State) (r : Http.Request) (rest : List Http.Request)
    (s : BridgeState State) :
    (runRequests b (r :: rest) s).1 =
      let step := b.route r ⟨s.outside.next, s.metrics⟩
      step.2.outside.trace step.1 :: (runRequests b rest step.2).1 := rfl

/-- A run has a step for each request. -/
theorem length_runRequests (b : Bridge State) (requests : List Http.Request)
    (s : BridgeState State) : (runRequests b requests s).1.length = requests.length := by
  induction requests generalizing s with
  | nil => rfl
  | cons r rest ih =>
      rw [runRequests_cons]
      exact congrArg (· + 1) (ih _)

end Script

end HookBridge
