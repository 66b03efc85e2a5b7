/-
**The account that the counters give.**

The worker is told of hook requests one after the other and is asked for the text of the counters in
between.  Whatever it has been told, this text is an account of it: a line for each hook and status
under which requests were handled, in order, and two lines for each hook.  Who asks changes nothing,
so the text is known from the requests alone.

Main definitions:

* `HookBridge.Metrics.occurrences`, `HookBridge.Metrics.durations` — how often requests were handled
  under a hook and a status, and how long those of a hook took;
* `HookBridge.Metrics.requestLinesOf` — the lines of a text that count requests;
* `HookBridge.Metrics.IsAccount` — **a text gives an account of events**;
* `HookBridge.Metrics.Tallied` — counters have counted events.

Main results:

* `HookBridge.Metrics.Tallied.receive`, `HookBridge.Metrics.Tallied.receiveAll` — one event, and a
  list of them, are counted;
* `HookBridge.Metrics.Tallied.isAccount` — the text of the counters gives an account of what they
  have counted;
* `HookBridge.Metrics.IsAccount.requestLinesOf_eq_iff` — **the lines that count requests tell how
  often each of them occurred**, and nothing else.
-/

import HookBridge.Proofs.Metrics.Exposition
import Mathlib

set_option relaxedAutoImplicit false
set_option autoImplicit false

namespace HookBridge

/-! ### Events -/

namespace MetricsEvent

/-- The hook and the status of a request that has been handled. -/
def key? : MetricsEvent → Option HookStatus
  | handled key _ => some key
  | snapshot => none
  | abandoned => none

/-- The duration of a request that a hook has handled. -/
def duration? (hook : Hook) : MetricsEvent → Option Duration
  | handled key d => if key.hook = hook then some d else none
  | snapshot => none
  | abandoned => none

/-- The event tells of a request that has been handled. -/
def isHandled (e : MetricsEvent) : Bool := e.key?.isSome

end MetricsEvent

namespace Metrics

open Entries

/-- The hooks and the statuses of the requests that have been handled. -/
def keysOf (events : List MetricsEvent) : List HookStatus := events.filterMap (·.key?)

/-- How many requests were handled under a key. -/
def occurrences (key : HookStatus) (events : List MetricsEvent) : Nat := (keysOf events).count key

/-- The durations of the requests that a hook has handled, in turn. -/
def durations (hook : Hook) (events : List MetricsEvent) : List Duration :=
  events.filterMap (·.duration? hook)

/-- Durations added up in turn, in seconds. -/
def total (ds : List Duration) : Float := ds.foldl (fun sum d => sum + seconds d) 0

/-- A hook has an entry once it has handled a request. -/
def latencyOf? (ds : List Duration) : Option Latency :=
  if ds = [] then none else some ⟨total ds, ds.length⟩

variable {m : Metrics} {events : List MetricsEvent}

theorem keysOf_append (events events' : List MetricsEvent) :
    keysOf (events ++ events') = keysOf events ++ keysOf events' := List.filterMap_append

theorem occurrences_append (key : HookStatus) (events events' : List MetricsEvent) :
    occurrences key (events ++ events') = occurrences key events + occurrences key events' := by
  rw [occurrences, keysOf_append, List.count_append]
  rfl

theorem durations_append (hook : Hook) (events events' : List MetricsEvent) :
    durations hook (events ++ events') = durations hook events ++ durations hook events' :=
  List.filterMap_append

/-- A key occurs if it is that of a request. -/
theorem one_le_occurrences_iff (key : HookStatus) : 1 ≤ occurrences key events ↔
    key ∈ keysOf events := List.count_pos_iff

/-- Every request of a hook has a duration. -/
theorem length_durations (hook : Hook) (events : List MetricsEvent) :
    (durations hook events).length = (keysOf events).countP (·.hook = hook) := by
  induction events with
  | nil => rfl
  | cons e rest ih =>
      cases e with
      | handled key d =>
          by_cases h : key.hook = hook
          · simpa [durations, keysOf, MetricsEvent.duration?, MetricsEvent.key?, h] using ih
          · simpa [durations, keysOf, MetricsEvent.duration?, MetricsEvent.key?, h] using ih
      | snapshot => exact ih
      | abandoned => exact ih

theorem durations_ne_nil_iff (hook : Hook) :
    durations hook events ≠ [] ↔ ∃ key ∈ keysOf events, key.hook = hook := by
  rw [← List.length_pos_iff, length_durations, List.countP_pos_iff]
  simp only [decide_eq_true_eq]

/-- One more duration is added to those before it. -/
theorem latencyOf?_concat (ds : List Duration) (d : Duration) :
    latencyOf? (ds ++ [d]) = some ⟨((latencyOf? ds).getD ⟨0, 0⟩).sum + seconds d,
      ((latencyOf? ds).getD ⟨0, 0⟩).count + 1⟩ := by
  have hgetD : (latencyOf? ds).getD ⟨0, 0⟩ = ⟨total ds, ds.length⟩ := by
    rw [latencyOf?]
    split
    · next h =>
      subst h
      rfl
    · rfl
  have htotal : total (ds ++ [d]) = total ds + seconds d := List.foldl_concat ..
  rw [hgetD, latencyOf?, if_neg (List.append_ne_nil_of_right_ne_nil _ (List.cons_ne_nil _ _)),
    htotal, List.length_append]
  rfl

/-! ### Counting events -/

theorem receiveAll_append (m : Metrics) (events events' : List MetricsEvent) :
    m.receiveAll (events ++ events') =
      ((m.receiveAll events).1 ++ ((m.receiveAll events).2.receiveAll events').1,
        ((m.receiveAll events).2.receiveAll events').2) := by
  induction events generalizing m with
  | nil => rfl
  | cons e rest ih => simp only [List.cons_append, receiveAll, ih]

/-- Each event has its answer. -/
theorem length_receiveAll (m : Metrics) (events : List MetricsEvent) :
    (m.receiveAll events).1.length = events.length := by
  induction events generalizing m with
  | nil => rfl
  | cons e rest ih => simp only [receiveAll, List.length_cons, ih]

/-- Each event is answered from the counters of those before it. -/
theorem getElem?_receiveAll (m : Metrics) (events : List MetricsEvent) (i : Nat) :
    (m.receiveAll events).1[i]? =
      events[i]?.map fun e => ((m.receiveAll (events.take i)).2.receive e).1 := by
  induction events generalizing m i with
  | nil => rfl
  | cons e rest ih =>
      cases i with
      | zero => rfl
      | succ i => exact ih (m.receive e).2 i

/-- Whoever asks for the text of the counters changes nothing. -/
theorem receiveAll_filter_isHandled (m : Metrics) (events : List MetricsEvent) :
    (m.receiveAll (events.filter (·.isHandled))).2 = (m.receiveAll events).2 := by
  induction events generalizing m with
  | nil => rfl
  | cons e rest ih =>
      cases e with
      | handled key d => exact ih (m.observe key d)
      | snapshot => exact ih m
      | abandoned => exact ih m

/-- The counters have counted the events. -/
structure Tallied (events : List MetricsEvent) (m : Metrics) : Prop where
  wellFormed : m.WellFormed
  number : ∀ key, m.number key = occurrences key events
  latency : ∀ hook, m.latencies.lookup hook = latencyOf? (durations hook events)

theorem Tallied.empty : Tallied [] empty where
  wellFormed := WellFormed.empty
  number := fun _ => rfl
  latency := fun _ => rfl

/-- One more request of its hook is timed, and its duration is added to those before it. -/
theorem lookup_latencies_observe (hm : m.WellFormed) (key : HookStatus) (hook : Hook)
    (d : Duration) : (m.observe key d).latencies.lookup hook =
      if hook = key.hook then
        some ⟨((m.latencies.lookup key.hook).getD ⟨0, 0⟩).sum + seconds d,
          ((m.latencies.lookup key.hook).getD ⟨0, 0⟩).count + 1⟩
      else m.latencies.lookup hook := by
  rw [observe, time_eq_alter]
  exact lookup_alter Hook.isOrder_before hm.latencies key.hook hook _

/-- A request that has been handled is counted. -/
theorem Tallied.observe (h : Tallied events m) (key : HookStatus) (d : Duration) :
    Tallied (events ++ [.handled key d]) (m.observe key d) where
  wellFormed := h.wellFormed.observe key d
  number := by
    intro key'
    have hone : occurrences key' [.handled key d] = if key' = key then 1 else 0 := by
      by_cases hkey : key' = key
      · simp [occurrences, keysOf, MetricsEvent.key?, hkey]
      · simp [occurrences, keysOf, MetricsEvent.key?, hkey, Ne.symm hkey]
    rw [occurrences_append, hone, ← h.number key']
    exact number_observe h.wellFormed key key' d
  latency := by
    intro hook
    rw [durations_append, lookup_latencies_observe h.wellFormed]
    by_cases hhook : hook = key.hook
    · subst hhook
      have hone : durations key.hook [.handled key d] = [d] := by
        simp [durations, MetricsEvent.duration?]
      rw [if_pos rfl, hone, latencyOf?_concat, h.latency]
    · have hone : durations hook [.handled key d] = [] := by
        simp [durations, MetricsEvent.duration?, Ne.symm hhook]
      rw [if_neg hhook, hone, List.append_nil, h.latency]

/-- Whoever asks for the counters, waiting or not, is not counted. -/
theorem Tallied.asked (h : Tallied events m) {e : MetricsEvent} (he : e.isHandled = false) :
    Tallied (events ++ [e]) m := by
  have hkeys : keysOf [e] = [] := by
    cases e with
    | handled key d => simp [MetricsEvent.isHandled, MetricsEvent.key?] at he
    | snapshot => rfl
    | abandoned => rfl
  have hdurations : ∀ hook, durations hook [e] = [] := by
    intro hook
    rw [← List.length_eq_zero_iff, length_durations, hkeys]
    rfl
  refine ⟨h.wellFormed, fun key => ?_, fun hook => ?_⟩
  · rw [occurrences_append, occurrences.eq_def key [e], hkeys]
    exact h.number key
  · rw [durations_append, hdurations, List.append_nil, h.latency]

/-- One more event is counted. -/
theorem Tallied.receive (h : Tallied events m) (e : MetricsEvent) :
    Tallied (events ++ [e]) (m.receive e).2 := by
  cases e with
  | handled key d => exact h.observe key d
  | snapshot => exact h.asked rfl
  | abandoned => exact h.asked rfl

/-- All events are counted. -/
theorem Tallied.receiveAll (h : Tallied events m) (events' : List MetricsEvent) :
    Tallied (events ++ events') (m.receiveAll events').2 := by
  -- induction on the events to come: each of them joins those that have been counted
  induction events' generalizing events m with
  | nil => rwa [List.append_nil]
  | cons e rest ih =>
      have hrest := ih (h.receive e)
      rwa [List.append_assoc] at hrest

/-! ### Accounts -/

/-- The lines of a text that count requests. -/
def requestLinesOf (text : String) : List (List Char) :=
  (Lines.ofText text).filter (counterHead.toList.isPrefixOf ·)

/-- The hooks among keys, in their order. -/
def hooksOf (keys : List HookStatus) : List Hook :=
  Hook.all.filter fun hook => keys.any (·.hook = hook)

/-- How many requests a hook has handled, under all its keys. -/
def sumOf (hook : Hook) (keys : List HookStatus) (events : List MetricsEvent) : Nat :=
  ((keys.filter (·.hook = hook)).map (occurrences · events)).sum

/-- **A text gives an account of events.**  Under the first heading it has a line for each key under
which requests were handled, in the order of the keys, with the number of these requests; under the
second one it has two lines for each hook that handled any, one with the time that they took and one
with their number. -/
structure IsAccount (events : List MetricsEvent) (keys : List HookStatus) (text : String) : Prop where
  mem_keys : ∀ key, key ∈ keys ↔ 1 ≤ occurrences key events
  ordered : keys.Pairwise fun a b => a.before b = true
  requestLines : requestLinesOf text =
    keys.map fun key => (counterLine key.hook key.status (occurrences key events)).toList
  lines : Lines.ofText text =
    (counterHeading ++ keys.map (fun key =>
        counterLine key.hook key.status (occurrences key events)) ++
      latencyHeading ++ (hooksOf keys).flatMap fun hook =>
        [latencySumLine hook (total (durations hook events)),
          latencyCountLine hook (sumOf hook keys events)]).map String.toList ++ [[]]

/-- A line that begins as the lines of request counters do has their mark. -/
theorem mark_of_isPrefixOf {cs : List Char} (h : counterHead.toList.isPrefixOf cs = true) :
    cs[17]? = some 'c' := by
  obtain ⟨rest, rfl⟩ := List.isPrefixOf_iff_prefix.1 h
  rw [List.getElem?_append_left (by decide)]
  decide

/-- The lines of request counters begin as they do. -/
theorem filter_counterLines (requests : List (HookStatus × Nat)) :
    (requests.map fun entry =>
      (counterLine entry.1.hook entry.1.status entry.2).toList).filter
        (counterHead.toList.isPrefixOf ·) = requests.map fun entry =>
          (counterLine entry.1.hook entry.1.status entry.2).toList := by
  rw [List.filter_eq_self]
  intro line hline
  obtain ⟨entry, -, rfl⟩ := List.mem_map.1 hline
  rw [List.isPrefixOf_iff_prefix]
  simp only [counterLine, String.append_assoc, String.toList_append]
  exact List.prefix_append _ _

/-- The lines of durations do not. -/
theorem filter_latencyLines (latencies : List (Hook × Latency)) :
    (latencies.flatMap fun entry =>
      [(latencySumLine entry.1 entry.2.sum).toList,
        (latencyCountLine entry.1 entry.2.count).toList]).filter
          (counterHead.toList.isPrefixOf ·) = [] := by
  rw [List.filter_eq_nil_iff]
  intro line hline hprefix
  obtain ⟨entry, -, hmem⟩ := List.mem_flatMap.1 hline
  have hmark := mark_of_isPrefixOf hprefix
  rcases List.mem_pair.1 hmem with rfl | rfl
  · rw [(latencySumLine_mark _ _).1] at hmark
    exact absurd hmark (by decide)
  · rw [(latencyCountLine_mark _ _).1] at hmark
    exact absurd hmark (by decide)

/-- Nor do the headings. -/
theorem filter_heading : ∀ heading ∈ [counterHeading, latencyHeading],
    (heading.map String.toList).filter (counterHead.toList.isPrefixOf ·) = [] := by
  decide +kernel

/-- Only the lines of request counters begin as they do. -/
theorem requestLinesOf_render (m : Metrics) : requestLinesOf m.render =
    m.requests.map fun entry => (counterLine entry.1.hook entry.1.status entry.2).toList := by
  rw [requestLinesOf, render_eq_write, Lines.ofText_write (no_break_lines m), lines]
  simp only [List.map_append, List.map_map, Function.comp_def, List.map_flatMap, List.map_cons,
    List.map_nil, List.filter_append, filter_counterLines, filter_latencyLines,
    filter_heading counterHeading (List.mem_cons_self ..),
    filter_heading latencyHeading (List.mem_cons_of_mem _ (List.mem_cons_self ..))]
  rw [List.nil_append, List.append_nil, List.append_nil]
  exact List.append_nil _

/-- The requests of a hook are those under all its keys together. -/
theorem sumOf_eq (hook : Hook) {keys : List HookStatus} (hnodup : keys.Nodup)
    (hkeys : ∀ key, key ∈ keys ↔ key ∈ keysOf events) :
    sumOf hook keys events = (durations hook events).length := by
  have hperm : keys.Perm (keysOf events).dedup :=
    (List.perm_ext_iff_of_nodup hnodup (List.nodup_dedup _)).2 fun key => by
      rw [hkeys, List.mem_dedup]
  calc
    sumOf hook keys events
        = (((keysOf events).dedup.filter (·.hook = hook)).map (occurrences · events)).sum :=
          ((hperm.filter _).map _).sum_eq
    _ = (keysOf events).countP (·.hook = hook) := List.sum_map_count_dedup_filter_eq_countP _ _
    _ = (durations hook events).length := (length_durations hook events).symm

/-- What is listed for requests is how often each key occurred. -/
theorem Tallied.map_requests {α : Type} (h : Tallied events m) (f : HookStatus × Nat → α) :
    m.requests.map f = (m.requests.map (·.1)).map fun key => f (key, occurrences key events) := by
  rw [List.map_map]
  refine List.map_congr_left ?_
  rintro ⟨key, n⟩ hmem
  rw [((mem_requests_iff h.wellFormed key n).1 hmem).2, h.number]
  rfl

/-- A key is listed if it occurred. -/
theorem Tallied.mem_keys (h : Tallied events m) (key : HookStatus) :
    key ∈ m.requests.map (·.1) ↔ 1 ≤ occurrences key events := by
  rw [List.mem_map, ← h.number]
  constructor
  · rintro ⟨⟨key, n⟩, hmem, rfl⟩
    obtain ⟨hpos, rfl⟩ := (mem_requests_iff h.wellFormed key n).1 hmem
    exact hpos
  · intro hpos
    exact ⟨(key, m.number key), (mem_requests_iff h.wellFormed key _).2 ⟨hpos, rfl⟩, rfl⟩

/-- What is listed for durations is those of each hook, added up in turn. -/
theorem Tallied.latencies (h : Tallied events m) :
    m.latencies = (hooksOf (m.requests.map (·.1))).map fun hook =>
      (hook, ⟨total (durations hook events), (durations hook events).length⟩) := by
  have hall : Hook.all.Pairwise fun a b => Hook.before a b = true := by decide
  refine Ordered.ext Hook.isOrder_before h.wellFormed.latencies
    (List.pairwise_map.2 (hall.filter _)) ?_
  rintro ⟨hook, l⟩
  have hoccurs : hook ∈ hooksOf (m.requests.map (·.1)) ↔ durations hook events ≠ [] := by
    rw [hooksOf, List.mem_filter, List.any_eq_true, durations_ne_nil_iff]
    simp only [h.mem_keys, one_le_occurrences_iff, decide_eq_true_eq, and_iff_right_iff_imp]
    intro
    cases hook <;> decide
  rw [mem_iff_lookup Hook.isOrder_before h.wellFormed.latencies, h.latency, List.mem_map, latencyOf?]
  by_cases hnil : durations hook events = []
  · rw [if_pos hnil]
    refine ⟨fun hsome => absurd hsome (by simp), ?_⟩
    rintro ⟨hook', hmem, heq⟩
    obtain rfl := (Prod.mk.inj heq).1
    exact absurd hnil (hoccurs.1 hmem)
  · rw [if_neg hnil, Option.some.injEq]
    constructor
    · rintro rfl
      exact ⟨hook, hoccurs.2 hnil, rfl⟩
    · rintro ⟨hook', -, heq⟩
      obtain rfl := (Prod.mk.inj heq).1
      exact (Prod.mk.inj heq).2

/-- **The text of the counters gives an account of what they have counted.** -/
theorem Tallied.isAccount (h : Tallied events m) :
    IsAccount events (m.requests.map (·.1)) m.render := by
  have hordered : (m.requests.map (·.1)).Pairwise fun a b => HookStatus.before a b = true :=
    List.pairwise_map.2 h.wellFormed.requests
  have hnodup : (m.requests.map (·.1)).Nodup := hordered.imp fun {a b} hab heq => by
    rw [heq, HookStatus.isOrder_before.irrefl] at hab
    exact absurd hab (by decide)
  have hsum : ∀ hook, (durations hook events).length = sumOf hook (m.requests.map (·.1)) events :=
    fun hook => (sumOf_eq hook hnodup fun key =>
      (h.mem_keys key).trans (one_le_occurrences_iff key)).symm
  refine ⟨h.mem_keys, hordered, ?_, ?_⟩
  · rw [requestLinesOf_render, h.map_requests]
  · rw [render_eq_write, Lines.ofText_write (no_break_lines m), lines, h.map_requests, h.latencies,
      List.flatMap_map]
    simp only [hsum]

section Texts

variable {events' : List MetricsEvent} {keys keys' : List HookStatus} {text text' : String}

/-- A key of one text has its line, and this tells how often it occurred in another one that has the
same lines. -/
theorem IsAccount.occurrences_eq (h : IsAccount events keys text)
    (h' : IsAccount events' keys' text') (heq : requestLinesOf text = requestLinesOf text')
    {key : HookStatus} (hkey : 1 ≤ occurrences key events) :
    occurrences key events = occurrences key events' := by
  rw [h.requestLines, h'.requestLines] at heq
  have hline := List.mem_map_of_mem
    (f := fun key => (counterLine key.hook key.status (occurrences key events)).toList)
    ((h.mem_keys key).2 hkey)
  rw [heq] at hline
  obtain ⟨key', -, hline⟩ := List.mem_map.1 hline
  obtain ⟨hhook, hstatus, hn⟩ := counterLine_inj (String.toList_inj.1 hline)
  have hkey' : key' = key := by
    change (⟨key'.hook, key'.status⟩ : HookStatus) = ⟨key.hook, key.status⟩
    rw [hhook, hstatus]
  rw [← hn, hkey']

/-- The keys of an account are known from how often each of them occurred. -/
theorem IsAccount.keys_eq (h : IsAccount events keys text) (h' : IsAccount events' keys' text')
    (hcount : ∀ key, occurrences key events = occurrences key events') : keys = keys' := by
  have hentries : keys.map (fun key => (key, ())) = keys'.map (fun key => (key, ())) := by
    refine Ordered.ext HookStatus.isOrder_before (List.pairwise_map.2 h.ordered)
      (List.pairwise_map.2 h'.ordered) ?_
    rintro ⟨key, ⟨⟩⟩
    simp [h.mem_keys, h'.mem_keys, hcount]
  simpa [Function.comp_def] using congrArg (List.map Prod.fst) hentries

/-- **The lines that count requests tell how often each of them occurred**, in whatever order they
were handled, and nothing else. -/
theorem IsAccount.requestLinesOf_eq_iff (h : IsAccount events keys text)
    (h' : IsAccount events' keys' text') : requestLinesOf text = requestLinesOf text' ↔
      ∀ key, occurrences key events = occurrences key events' := by
  constructor
  · intro heq key
    rcases Nat.eq_zero_or_pos (occurrences key events) with hzero | hpos
    · rcases Nat.eq_zero_or_pos (occurrences key events') with hzero' | hpos'
      · rw [hzero, hzero']
      · exact (h'.occurrences_eq h heq.symm hpos').symm
    · exact h.occurrences_eq h' heq hpos
  · intro hcount
    rw [h.requestLines, h'.requestLines, h.keys_eq h' hcount]
    exact List.map_congr_left fun key _ => by rw [hcount]

end Texts

end Metrics

end HookBridge
