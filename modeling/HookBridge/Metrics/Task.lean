/-
**The worker at its channel.**

The worker is told of hook requests over a channel.  Whoever can send may let others send too, and
what has been sent waits until the worker receives it, the oldest first.  The worker comes to its end
when nothing waits and nobody is left who could send.

Main definitions:

* `HookBridge.MetricsTask` — the worker and the channel on which it is told;
* `HookBridge.MetricsTask.Move` — what may happen next, to either of them;
* `HookBridge.MetricsTask.step?`, `HookBridge.MetricsTask.run?` — one move, and a list of them.
-/

import HookBridge.Metrics

set_option relaxedAutoImplicit false
set_option autoImplicit false

namespace HookBridge

/-- The worker and the channel on which it is told. -/
structure MetricsTask where
  metrics : Metrics
  /-- what has been sent and not been received, the oldest first -/
  waiting : List MetricsEvent
  /-- how many can send -/
  senders : Nat
  /-- what each event that has been received came to -/
  answers : List (Option String)
  /-- the worker has come to its end -/
  ended : Bool

namespace MetricsTask

/-- The worker has been told nothing, and there is one who can tell it something. -/
def start : MetricsTask := ⟨.empty, [], 1, [], false⟩

/-- What may happen next. -/
inductive Move
  /-- one who can send does so -/
  | send (e : MetricsEvent)
  /-- one who can send lets another one send -/
  | share
  /-- one who can send goes away -/
  | leave
  /-- the worker looks for an event -/
  | receive
  deriving DecidableEq, Repr

/-- The worker receives the event that has waited longest, or comes to its end if none waits and none
can come any more.  If one may come, it does nothing until then. -/
def receive? (t : MetricsTask) : Option MetricsTask :=
  if t.ended then none
  else
    match t.waiting, t.senders with
    | e :: rest, _ =>
        let (answer, metrics) := t.metrics.receive e
        some { t with metrics, waiting := rest, answers := t.answers ++ [answer] }
    | [], 0 => some { t with ended := true }
    | [], _ + 1 => none

/-- What a move comes to, if it is possible. -/
def step? (t : MetricsTask) : Move → Option MetricsTask
  | .send e => if t.senders = 0 then none else some { t with waiting := t.waiting ++ [e] }
  | .share => if t.senders = 0 then none else some { t with senders := t.senders + 1 }
  | .leave => if t.senders = 0 then none else some { t with senders := t.senders - 1 }
  | .receive => t.receive?

/-- What a list of moves comes to, if each is possible in its turn. -/
def run? (t : MetricsTask) : List Move → Option MetricsTask
  | [] => some t
  | move :: rest => (t.step? move).bind (·.run? rest)

end MetricsTask

end HookBridge
