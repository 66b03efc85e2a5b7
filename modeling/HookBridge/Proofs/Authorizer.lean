/-
**Every question is asked once, and answered by its own reply.**

The authorizer keeps no answer, asks nothing twice and waits no longer than its timeout.  Against a
script this can be said of every step of a run: a step without a credential does nothing at all, and
any other uses up exactly one reply, the next one, whatever becomes of it.  So the replies can be
told by counting, and a run takes no longer than its questions may.

Main definitions:

* `HookBridge.Script.asking` — the steps that have a credential;
* `HookBridge.Script.stepTrace` — what a step comes to, given the reply to it;
* `HookBridge.Script.Answers` — the same, in words.

Main results:

* `HookBridge.Script.askStep_eq` — what one step does;
* `HookBridge.Script.getElem?_runSteps` — **which reply answers which step** of a run;
* `HookBridge.Script.runSteps_fresh` — **a run is bounded, fresh, and asks nothing twice**.
-/

import HookBridge.Proofs.Scripted
import Mathlib.Algebra.GroupWithZero.Nat

set_option relaxedAutoImplicit false
set_option autoImplicit false

namespace HookBridge

/-- A reply is waited for as long as it takes, or as long as the timeout allows. -/
theorem Authorizer.bounded_elapsed (timeout : Duration) (reply : Things.Reply) :
    (bounded timeout reply).2.nanos = min reply.delay.nanos timeout.nanos := by
  rw [bounded]
  split
  · next htime => exact (Nat.min_eq_left htime).symm
  · next hlate => exact (Nat.min_eq_right (Nat.le_of_not_le hlate)).symm

namespace Script

/-- What a step comes to: what is said, and after which time. -/
abbrev StepTrace := Trace (Except AuthError String × Duration)

/-- The steps that have a credential. -/
def asking (calls : List Things.Call) : List Things.Call :=
  calls.filter fun call => call.token ≠ ""

/-- What a step comes to, given the reply to it. -/
def stepTrace (timeout : Duration) (reply : Things.Reply) (call : Things.Call) : StepTrace :=
  if call.token = "" then ⟨(.error .unauthorized, .zero), [], []⟩
  else ⟨Authorizer.bounded timeout reply, [call], []⟩

/-- A step is answered as it should be, if `reply` is the next reply of the things service. -/
structure Answers (timeout : Duration) (reply : Things.Reply) (call : Things.Call)
    (t : StepTrace) : Prop where
  /-- without a credential it is refused, and nobody is asked -/
  refused : call.token = "" → t.value = (.error .unauthorized, .zero) ∧ t.calls = []
  /-- with one, one question is asked, and it is the one of the step -/
  once : call.token ≠ "" → t.calls = [call]
  /-- it takes the time of the reply, or that of the timeout if this is less -/
  elapsed : call.token ≠ "" → t.value.2.nanos = min reply.delay.nanos timeout.nanos
  /-- an identifier in time is the answer -/
  granted : call.token ≠ "" → reply.delay ≤ timeout → ∀ thing, reply.result = .ok thing →
    t.value.1 = .ok thing
  /-- and so is an error in time, as it is -/
  failed : call.token ≠ "" → reply.delay ≤ timeout → ∀ error, reply.result = .error error →
    t.value.1 = .error (.backend error)
  /-- what is late is an error of its own kind -/
  late : call.token ≠ "" → ¬ reply.delay ≤ timeout →
    ∃ description, t.value.1 = .error (.backend ⟨.deadlineExceeded, description⟩)

theorem answers_stepTrace (timeout : Duration) (reply : Things.Reply) (call : Things.Call) :
    Answers timeout reply call (stepTrace timeout reply call) := by
  rw [stepTrace]
  by_cases hempty : call.token = ""
  · rw [if_pos hempty]
    exact ⟨fun _ => ⟨rfl, rfl⟩, fun h => absurd hempty h, fun h => absurd hempty h,
      fun h => absurd hempty h, fun h => absurd hempty h, fun h => absurd hempty h⟩
  · rw [if_neg hempty]
    exact {
      refused := fun h => absurd h hempty
      once := fun _ => rfl
      elapsed := fun _ => Authorizer.bounded_elapsed timeout reply
      granted := fun _ htime _ hresult => Authorizer.bounded_of_ok htime hresult
      failed := fun _ htime _ hresult => Authorizer.bounded_of_error htime hresult
      late := fun _ hlate => ⟨_, Authorizer.bounded_of_late hlate⟩ }

theorem stepTrace_calls (timeout : Duration) (reply : Things.Reply) (call : Things.Call) :
    (stepTrace timeout reply call).calls = asking [call] := by
  by_cases hempty : call.token = "" <;> simp [stepTrace, asking, hempty]

/-- A step takes no time without a credential, and no more than the timeout with one. -/
theorem stepTrace_elapsed_le (timeout : Duration) (reply : Things.Reply) (call : Things.Call) :
    (stepTrace timeout reply call).value.2.nanos ≤ (asking [call]).length * timeout.nanos := by
  by_cases hempty : call.token = ""
  · rw [stepTrace, if_pos hempty]
    exact Nat.zero_le _
  · have hasking : (asking [call]).length = 1 := by simp [asking, hempty]
    rw [stepTrace, if_neg hempty, hasking, Nat.one_mul, Authorizer.bounded_elapsed]
    exact Nat.min_le_right ..

theorem asking_cons (call : Things.Call) (calls : List Things.Call) :
    asking (call :: calls) = asking [call] ++ asking calls := List.filter_append [call] calls

/-- Both kinds of step ask their question on behalf of its token. -/
theorem askStep_eq_ask (a : Authorizer State) (call : Things.Call) (s : State) :
    askStep a call s = let v := a.ask call.token call s; ((v.result, v.elapsed), v.state) := by
  cases call <;> rfl

/-- **What one step does**: it comes to what the next reply says, and uses it up if it asks. -/
theorem askStep_eq (script : Script) (timeout : Duration) (call : Things.Call) (s : State) :
    askStep (script.authorizer timeout) call s.next =
      ((stepTrace timeout (script.reply s.asked) call).value,
        ⟨s.asked + (asking [call]).length, s.handed, asking [call], []⟩) := by
  rw [askStep_eq_ask, Authorizer.ask, stepTrace]
  by_cases hempty : call.token = ""
  · have hasking : asking [call] = [] := by simp [asking, hempty]
    rw [if_pos hempty, if_pos hempty, hasking]
    rfl
  · have hasking : asking [call] = [call] := by simp [asking, hempty]
    rw [if_neg hempty, if_neg hempty, hasking]
    rfl

/-! ### Runs -/

/-- A run is a step and then a run. -/
theorem runSteps_askStep_cons (script : Script) (timeout : Duration) (call : Things.Call)
    (calls : List Things.Call) (s : State) :
    let rest := runSteps (askStep (script.authorizer timeout)) calls
      ⟨s.asked + (asking [call]).length, s.handed, asking [call], []⟩
    runSteps (askStep (script.authorizer timeout)) (call :: calls) s =
      (stepTrace timeout (script.reply s.asked) call :: rest.1, rest.2) := by
  intro rest
  have htrace : stepTrace timeout (script.reply s.asked) call =
      ⟨(stepTrace timeout (script.reply s.asked) call).value, asking [call], []⟩ := by
    rw [← stepTrace_calls timeout (script.reply s.asked) call, stepTrace]
    split <;> rfl
  rw [runSteps, askStep_eq]
  exact congrArg (fun t => (t :: rest.1, rest.2)) htrace.symm

/-- A run has a step for each input. -/
theorem length_runSteps {α β : Type} (activity : α → State → β × State) (inputs : List α)
    (s : State) : (runSteps activity inputs s).1.length = inputs.length := by
  induction inputs generalizing s with
  | nil => rfl
  | cons input rest ih => exact congrArg (· + 1) (ih _)

variable (script : Script) (timeout : Duration) (calls : List Things.Call) (s : State)

/-- **Which reply answers which step**: the first one that no step in front has used up. -/
theorem getElem?_runSteps (i : Nat) :
    (runSteps (askStep (script.authorizer timeout)) calls s).1[i]? = calls[i]?.map
      (stepTrace timeout (script.reply (s.asked + (asking (calls.take i)).length))) := by
  induction calls generalizing s i with
  | nil => rfl
  | cons call calls ih =>
      rw [runSteps_askStep_cons]
      cases i with
      | zero => rfl
      | succ i =>
          rw [List.getElem?_cons_succ, ih, List.getElem?_cons_succ, List.take_succ_cons,
            asking_cons call (calls.take i), List.length_append, Nat.add_assoc]

/-- What a run asks, and how far it uses up the replies. -/
theorem runSteps_asks :
    let run := runSteps (askStep (script.authorizer timeout)) calls s
    run.1.flatMap (·.calls) = asking calls ∧ run.2.asked = s.asked + (asking calls).length := by
  induction calls generalizing s with
  | nil => exact ⟨rfl, rfl⟩
  | cons call calls ih =>
      obtain ⟨hcalls, hasked⟩ :=
        ih ⟨s.asked + (asking [call]).length, s.handed, asking [call], []⟩
      rw [runSteps_askStep_cons, asking_cons call calls, List.length_append, ← Nat.add_assoc]
      refine ⟨?_, hasked⟩
      rw [List.flatMap_cons, stepTrace_calls, hcalls]

/-- A run takes no longer than its questions may. -/
theorem runSteps_elapsed_le :
    ((runSteps (askStep (script.authorizer timeout)) calls s).1.map (·.value.2.nanos)).sum ≤
      (asking calls).length * timeout.nanos := by
  induction calls generalizing s with
  | nil => exact Nat.zero_le _
  | cons call calls ih =>
      rw [runSteps_askStep_cons, asking_cons call calls, List.length_append, Nat.add_mul]
      exact Nat.add_le_add (stepTrace_elapsed_le timeout _ call) (ih _)

/-- The replies come in turn, the last one again and again. -/
theorem reply_in_turn (hne : script.replies ≠ []) (n : Nat) :
    script.replies[min n (script.replies.length - 1)]? = some (script.reply n) := by
  have hpos : 0 < script.replies.length := List.length_pos_iff.2 hne
  rw [reply]
  rcases Nat.lt_or_ge n script.replies.length with hn | hn
  · rw [Nat.min_eq_left (by omega), List.getElem?_eq_getElem hn, Option.getD_some]
  · rw [Nat.min_eq_right (by omega), List.getElem?_eq_none hn, Option.getD_none,
      List.getLastD_eq_getLast?, ← List.getLast?_eq_getElem?, List.getLast?_eq_some_getLast hne,
      Option.getD_some]

/-- A step with a credential uses up its reply for good. -/
theorem asking_take_lt {i j : Nat} {call : Things.Call} (hcall : calls[i]? = some call)
    (htoken : call.token ≠ "") (hij : i < j) :
    (asking (calls.take i)).length < (asking (calls.take j)).length := by
  obtain ⟨hi, rfl⟩ := List.getElem?_eq_some_iff.1 hcall
  have hsub : List.Sublist (calls.take (i + 1)) (calls.take j) :=
    List.take_sublist_take_left hij
  have hone : asking (calls.take (i + 1)) = asking (calls.take i) ++ [calls[i]] := by
    rw [List.take_succ_eq_append_getElem hi, asking, List.filter_append]
    simp [asking, htoken]
  have hle := (hsub.filter fun call => call.token ≠ "").length_le
  have hlt : (asking (calls.take i)).length < (asking (calls.take (i + 1))).length := by
    rw [hone, List.length_append, List.length_singleton]
    omega
  exact Nat.lt_of_lt_of_le hlt hle

/-- **A run is bounded, fresh, and asks nothing twice.**  Each step is answered as it should be by
the reply whose number is that of the steps with a credential in front of it; the replies come in
turn, the last one again and again.  So as many questions are asked as there are steps with a
credential, each of them by its own step, and a run takes no longer than the timeout for each.  No
reply serves two steps, as long as another one is there, and nothing but its own reply has a part in
what a step comes to. -/
theorem runSteps_fresh :
    let run := runSteps (askStep (script.authorizer timeout)) calls s
    let number := fun i : Nat => s.asked + (asking (calls.take i)).length
    run.1.length = calls.length ∧
    (∀ (i : Nat) (call : Things.Call), calls[i]? = some call →
      ∃ t, run.1[i]? = some t ∧ Answers timeout (script.reply (number i)) call t) ∧
    (script.replies ≠ [] → ∀ n, script.replies[min n (script.replies.length - 1)]? =
      some (script.reply n)) ∧
    (run.1.flatMap (·.calls) = asking calls ∧
      run.2.asked = s.asked + (asking calls).length) ∧
    (run.1.map (·.value.2.nanos)).sum ≤ (asking calls).length * timeout.nanos ∧
    (∀ (i j : Nat) (call : Things.Call), calls[i]? = some call → call.token ≠ "" → i < j →
      number i < number j) ∧
    ∀ (script' : Script) (i : Nat), script'.reply (number i) = script.reply (number i) →
      (runSteps (askStep (script'.authorizer timeout)) calls s).1[i]? = run.1[i]? := by
  intro run number
  refine ⟨length_runSteps _ calls s, fun i call hcall => ?_, script.reply_in_turn,
    runSteps_asks script timeout calls s, runSteps_elapsed_le script timeout calls s,
    fun i j call hcall htoken hij =>
      Nat.add_lt_add_left (asking_take_lt calls hcall htoken hij) _, fun script' i hreply => ?_⟩
  · refine ⟨_, ?_, answers_stepTrace timeout (script.reply (number i)) call⟩
    rw [getElem?_runSteps, hcall]
    rfl
  · rw [getElem?_runSteps, getElem?_runSteps, hreply]

/-- A service that first refuses and is then late. -/
def refusingThenLate : Script :=
  ⟨[⟨.error ⟨.permissionDenied, "no"⟩, .zero⟩, ⟨.ok "u1", .ofSeconds 2⟩], []⟩

/-- The same question twice, behind one without a credential. -/
def askedTwice : List Things.Call := [.identify "", .canAccess "k" "c", .canAccess "k" "c"]

/-- The second time it is not answered as it was the first time, and would not be otherwise had the
first answer been another one. -/
theorem runSteps_fresh_repeated :
    let run := runSteps (askStep (refusingThenLate.authorizer (.ofSeconds 1))) askedTwice .start
    let friendly : Script := ⟨[⟨.ok "u2", .zero⟩, ⟨.ok "u1", .ofSeconds 2⟩], []⟩
    (∃ t, run.1[1]? = some t ∧ t.calls = [.canAccess "k" "c"] ∧
      t.value.1 = .error (.backend ⟨.permissionDenied, "no"⟩)) ∧
    (∃ t, run.1[2]? = some t ∧ t.calls = [.canAccess "k" "c"] ∧ t.value.2.nanos = 1000000000 ∧
      ∃ description, t.value.1 = .error (.backend ⟨.deadlineExceeded, description⟩)) ∧
    (asking (askedTwice.take 1)).length < (asking (askedTwice.take 2)).length ∧
    refusingThenLate.replies[min 7 1]? = some (refusingThenLate.reply 7) ∧ run.2.asked = 2 ∧
    (runSteps (askStep (friendly.authorizer (.ofSeconds 1))) askedTwice .start).1[2]? =
      run.1[2]? := by
  intro run friendly
  obtain ⟨-, hanswers, hturn, ⟨-, hasked⟩, -, hlt, hfresh⟩ :=
    runSteps_fresh refusingThenLate (.ofSeconds 1) askedTwice .start
  obtain ⟨t, ht, hfirst⟩ := hanswers 1 (.canAccess "k" "c") rfl
  obtain ⟨t', ht', hsecond⟩ := hanswers 2 (.canAccess "k" "c") rfl
  have htoken : (Things.Call.canAccess "k" "c").token ≠ "" := by decide
  have hnumber := hlt 1 2 (.canAccess "k" "c") rfl htoken (by decide)
  refine ⟨⟨t, ht, hfirst.once htoken, hfirst.failed htoken (by decide) _ rfl⟩,
    ⟨t', ht', hsecond.once htoken, hsecond.elapsed htoken, hsecond.late htoken (by decide)⟩,
    by simpa using hnumber, hturn (by decide) 7, hasked, hfresh friendly 2 rfl⟩

end Script

end HookBridge
