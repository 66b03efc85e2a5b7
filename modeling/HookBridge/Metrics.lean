/-
**Metrics.**

Every hook request that has been handled is counted by hook and status, and its duration is added
up by hook.  The counters are kept by a worker that answers requests for their text.

Main definitions:

* `HookBridge.Metrics` — the counters, in the order in which they are listed;
* `HookBridge.Metrics.observe` — the counters after one more hook request;
* `HookBridge.Metrics.render` — their text;
* `HookBridge.MetricsEvent`, `HookBridge.Metrics.receive` — what the worker is told, and what it
  answers;
* `HookBridge.MetricsWorker` — a worker as it is seen by those who talk to it.
-/

import HookBridge.Hook.Basic
import HookBridge.Text.Decimal

set_option relaxedAutoImplicit false
set_option autoImplicit false

namespace HookBridge

/-- A hook and the status of its answer: what hook requests are counted by. -/
structure HookStatus where
  hook : Hook
  status : Nat
  deriving DecidableEq, Repr

/-- Keys are listed by hook, and those of one hook by the number of their status. -/
def HookStatus.before (a b : HookStatus) : Bool :=
  a.hook.rank < b.hook.rank || (a.hook.rank == b.hook.rank && a.status < b.status)

/-- The durations of a hook's requests: their sum in seconds, and their number. -/
structure Latency where
  sum : Float
  count : Nat
  deriving Repr, Inhabited

/-- The counters: a number for each key that occurred, and the durations for each hook that
occurred, both in the order of the list. -/
structure Metrics where
  requests : List (HookStatus × Nat)
  latencies : List (Hook × Latency)
  deriving Repr

namespace Metrics

/-- No hook request has been handled. -/
def empty : Metrics := ⟨[], []⟩

/-! ### Counting -/

/-- Counts one more occurrence of a key. -/
def count (key : HookStatus) : List (HookStatus × Nat) → List (HookStatus × Nat)
  | [] => [(key, 1)]
  | (k, n) :: rest =>
      if key = k then (k, n + 1) :: rest
      else if key.before k then (key, 1) :: (k, n) :: rest
      else (k, n) :: count key rest

/-- A span of time in seconds. -/
def seconds (d : Duration) : Float :=
  Float.ofNat (d.nanos / 1000000000) + Float.ofNat (d.nanos % 1000000000) / 1000000000

/-- Adds the duration of one more request of a hook. -/
def time (hook : Hook) (d : Duration) : List (Hook × Latency) → List (Hook × Latency)
  | [] => [(hook, ⟨0 + seconds d, 1⟩)]
  | (h, l) :: rest =>
      if hook = h then (h, ⟨l.sum + seconds d, l.count + 1⟩) :: rest
      else if hook.rank < h.rank then (hook, ⟨0 + seconds d, 1⟩) :: (h, l) :: rest
      else (h, l) :: time hook d rest

/-- The counters after one more hook request. -/
def observe (m : Metrics) (key : HookStatus) (d : Duration) : Metrics :=
  ⟨count key m.requests, time key.hook d m.latencies⟩

/-! ### Text -/

/-- The name of the request counters. -/
def requestCount : String := "mqtt_api_request_count"

/-- The name of the durations. -/
def requestLatency : String := "mqtt_api_request_latency_seconds"

/-- The line of a request counter. -/
def requestLine (entry : HookStatus × Nat) : String :=
  requestCount ++ "\x7bmethod=\"" ++ entry.1.hook.name ++ "\",code=\"" ++
    toString entry.1.status ++ "\"\x7d " ++ toString entry.2 ++ "\n"

/-- The line of a hook's sum of durations. -/
def sumLine (entry : Hook × Latency) : String :=
  requestLatency ++ "_sum\x7bmethod=\"" ++ entry.1.name ++ "\"\x7d " ++
    Decimal.ofFloat entry.2.sum ++ "\n"

/-- The line of a hook's number of durations. -/
def countLine (entry : Hook × Latency) : String :=
  requestLatency ++ "_count\x7bmethod=\"" ++ entry.1.name ++ "\"\x7d " ++
    toString entry.2.count ++ "\n"

/-- The lines that say what a group of counters is. -/
def heading (name help kind : String) : String :=
  "# HELP " ++ name ++ " " ++ help ++ "\n# TYPE " ++ name ++ " " ++ kind ++ "\n"

/-- The text of the counters. -/
def render (m : Metrics) : String :=
  heading requestCount "Number of hook requests received." "counter" ++
    String.join (m.requests.map requestLine) ++
    heading requestLatency "Total duration of hook requests in seconds." "summary" ++
    String.join (m.latencies.map fun entry => sumLine entry ++ countLine entry)

end Metrics

/-! ### The worker -/

/-- What the worker is told. -/
inductive MetricsEvent
  /-- a hook request has been handled -/
  | handled (key : HookStatus) (duration : Duration)
  /-- someone waits for the text of the counters -/
  | snapshot
  /-- someone asked for the text of the counters and does not wait for it any more -/
  | abandoned
  deriving DecidableEq, Repr

/-- The counters after an event, and the text for whoever waits for it. -/
def Metrics.receive (m : Metrics) : MetricsEvent → Option String × Metrics
  | .handled key d => (none, m.observe key d)
  | .snapshot => (some m.render, m)
  | .abandoned => (none, m)

/-- The answers to a list of events in turn, and the counters after it. -/
def Metrics.receiveAll (m : Metrics) : List MetricsEvent → List (Option String) × Metrics
  | [] => ([], m)
  | e :: rest =>
      let (answer, m) := m.receive e
      let (answers, m) := m.receiveAll rest
      (answer :: answers, m)

/-- A worker as it is seen by those who talk to it. -/
inductive MetricsWorker
  /-- it counts and answers -/
  | running (metrics : Metrics)
  /-- it hears nothing -/
  | gone
  /-- it hears everything and answers nothing -/
  | mute
  deriving Repr

namespace MetricsWorker

/-- Tells the worker of a hook request.  Nobody waits for it to be counted. -/
def handled (w : MetricsWorker) (key : HookStatus) (d : Duration) : MetricsWorker :=
  match w with
  | running metrics => running (metrics.receive (.handled key d)).2
  | gone => gone
  | mute => mute

/-- Asks the worker for the text of the counters. -/
def snapshot? : MetricsWorker → Option String
  | running metrics => (metrics.receive .snapshot).1
  | gone => none
  | mute => none

end MetricsWorker

end HookBridge
