/-
**The text of the counters.**

The counters are read by others as a text of lines: a line for each hook and status, and two for
each hook, of which one holds a time.  No two entries make one line, so a line tells the entry that
it was made of.  The times differ from run to run.  Whoever compares two texts masks them first, and
then the texts of counters that have counted the same are the same.

Main definitions:

* `HookBridge.Metrics.counterLine`, `HookBridge.Metrics.latencySumLine`,
  `HookBridge.Metrics.latencyCountLine` — the lines of entries;
* `HookBridge.Metrics.lines` — all lines of the counters;
* `HookBridge.Metrics.maskSums` — a text without its times;
* `HookBridge.Metrics.Alike` — counters that differ in their times only.

Main results:

* `HookBridge.Metrics.render_eq_write` — the text is written line by line;
* `HookBridge.Metrics.hasLine_counterLine_iff`, `HookBridge.Metrics.hasLine_latencyCountLine_iff` —
  **which lines the text has**;
* `HookBridge.Metrics.Alike.of_number` — counters are known from the numbers in them;
* `HookBridge.Metrics.Alike.observe`, `HookBridge.Metrics.Alike.maskSums_render` — **counters that
  differ in their times only go on so**, and have one text without the times.
-/

import HookBridge.Proofs.Metrics.Counters
import HookBridge.Proofs.Text.Lines

set_option relaxedAutoImplicit false
set_option autoImplicit false

namespace HookBridge

/-! ### Names of hooks -/

/-- A hook is known from its name. -/
theorem Hook.eq_of_name {h h' : Hook} (heq : h.name = h'.name) : h = h' := by
  revert heq
  cases h <;> cases h' <;> decide

/-- No name holds a character that ends it in a line. -/
theorem Hook.name_chars (h : Hook) :
    '\n' ∉ h.name.toList ∧ '"' ∉ h.name.toList ∧ ' ' ∉ h.name.toList := by
  cases h <;> decide

namespace Metrics

/-! ### Lines -/

/-- How the lines of request counters begin. -/
def counterHead : String := "mqtt_api_request_count\x7bmethod=\""

/-- How the lines of sums of durations begin. -/
def latencySumHead : String := "mqtt_api_request_latency_seconds_sum\x7bmethod=\""

/-- How the lines of numbers of durations begin. -/
def latencyCountHead : String := "mqtt_api_request_latency_seconds_count\x7bmethod=\""

/-- The line that says how many requests to a hook have been answered with a status. -/
def counterLine (hook : Hook) (status n : Nat) : String :=
  counterHead ++ hook.name ++ "\",code=\"" ++ toString status ++ "\"\x7d " ++ toString n

/-- The line that says how long the requests to a hook have taken. -/
def latencySumLine (hook : Hook) (sum : Float) : String :=
  latencySumHead ++ hook.name ++ "\"\x7d " ++ Decimal.ofFloat sum

/-- The line that says how many requests to a hook have been timed. -/
def latencyCountLine (hook : Hook) (n : Nat) : String :=
  latencyCountHead ++ hook.name ++ "\"\x7d " ++ toString n

/-- The lines in front of the request counters. -/
def counterHeading : List String :=
  ["# HELP mqtt_api_request_count Number of hook requests received.",
    "# TYPE mqtt_api_request_count counter"]

/-- The lines in front of the durations. -/
def latencyHeading : List String :=
  ["# HELP mqtt_api_request_latency_seconds Total duration of hook requests in seconds.",
    "# TYPE mqtt_api_request_latency_seconds summary"]

/-- All lines of the counters. -/
def lines (m : Metrics) : List String :=
  counterHeading ++
  (m.requests.map fun entry => counterLine entry.1.hook entry.1.status entry.2) ++
  latencyHeading ++
  m.latencies.flatMap fun entry =>
    [latencySumLine entry.1 entry.2.sum, latencyCountLine entry.1 entry.2.count]

theorem heads_eq : requestCount ++ "\x7bmethod=\"" = counterHead ∧
    requestLatency ++ "_sum\x7bmethod=\"" = latencySumHead ∧
    requestLatency ++ "_count\x7bmethod=\"" = latencyCountHead := ⟨rfl, rfl, rfl⟩

theorem requestLine_eq (entry : HookStatus × Nat) :
    requestLine entry = counterLine entry.1.hook entry.1.status entry.2 ++ "\n" := by
  rw [requestLine, counterLine, heads_eq.1]

theorem sumLine_eq (entry : Hook × Latency) :
    sumLine entry = latencySumLine entry.1 entry.2.sum ++ "\n" := by
  rw [sumLine, latencySumLine, heads_eq.2.1]

theorem countLine_eq (entry : Hook × Latency) :
    countLine entry = latencyCountLine entry.1 entry.2.count ++ "\n" := by
  rw [countLine, latencyCountLine, heads_eq.2.2]

theorem join_requestLines (entries : List (HookStatus × Nat)) :
    String.join (entries.map requestLine) =
      Lines.write (entries.map fun entry => counterLine entry.1.hook entry.1.status entry.2) := by
  rw [Lines.write, List.map_map]
  exact congrArg String.join (List.map_congr_left fun entry _ => requestLine_eq entry)

theorem join_latencyLines (entries : List (Hook × Latency)) :
    String.join (entries.map fun entry => sumLine entry ++ countLine entry) =
      Lines.write (entries.flatMap fun entry =>
        [latencySumLine entry.1 entry.2.sum, latencyCountLine entry.1 entry.2.count]) := by
  induction entries with
  | nil => rfl
  | cons entry rest ih =>
      rw [List.map_cons, String.join_cons, ih, List.flatMap_cons, Lines.write_append,
        Lines.write_cons, Lines.write_cons, Lines.write_nil, sumLine_eq, countLine_eq,
        String.append_empty]

/-- The text of the counters is written line by line. -/
theorem render_eq_write (m : Metrics) : m.render = Lines.write m.lines := by
  rw [render, lines, Lines.write_append, Lines.write_append, Lines.write_append,
    join_requestLines, join_latencyLines]
  rfl

/-! ### Lines are told apart -/

theorem no_break_counterLine (hook : Hook) (status n : Nat) :
    '\n' ∉ (counterLine hook status n).toList := by
  have hhead : '\n' ∉ counterHead.toList := by decide
  simp only [counterLine, String.toList_append, List.mem_append, not_or]
  exact ⟨⟨⟨⟨⟨hhead, hook.name_chars.1⟩, by decide⟩, Lines.no_break_toString _⟩, by decide⟩,
    Lines.no_break_toString _⟩

theorem no_break_latencySumLine (hook : Hook) (sum : Float) :
    '\n' ∉ (latencySumLine hook sum).toList := by
  have hhead : '\n' ∉ latencySumHead.toList := by decide
  simp only [latencySumLine, String.toList_append, List.mem_append, not_or]
  exact ⟨⟨⟨hhead, hook.name_chars.1⟩, by decide⟩, Lines.no_break_ofFloat _⟩

theorem no_break_latencyCountLine (hook : Hook) (n : Nat) :
    '\n' ∉ (latencyCountLine hook n).toList := by
  have hhead : '\n' ∉ latencyCountHead.toList := by decide
  simp only [latencyCountLine, String.toList_append, List.mem_append, not_or]
  exact ⟨⟨⟨hhead, hook.name_chars.1⟩, by decide⟩, Lines.no_break_toString _⟩

/-- No heading has a break of its own, or is a line of an entry. -/
theorem of_mem_heading : ∀ line ∈ counterHeading ++ latencyHeading,
    '\n' ∉ line.toList ∧ line.toList[17]? ≠ some 'c' ∧ line.toList[17]? ≠ some 'l' := by
  decide +kernel

/-- A line of the counters is a heading, or the line of an entry. -/
theorem mem_lines_iff (m : Metrics) (line : String) :
    line ∈ m.lines ↔
      line ∈ counterHeading ++ latencyHeading ∨
      (∃ key n, (key, n) ∈ m.requests ∧ line = counterLine key.hook key.status n) ∨
      (∃ hook l, (hook, l) ∈ m.latencies ∧ line = latencySumLine hook l.sum) ∨
      ∃ hook l, (hook, l) ∈ m.latencies ∧ line = latencyCountLine hook l.count := by
  simp only [lines, List.mem_append, List.mem_cons, List.mem_map, List.mem_flatMap,
    List.not_mem_nil, or_false, Prod.exists]
  grind

/-- No line of the counters has a break of its own. -/
theorem no_break_lines (m : Metrics) : ∀ line ∈ m.lines, '\n' ∉ line.toList := by
  intro line hline
  rcases (mem_lines_iff m line).1 hline with
    hheading | ⟨_, _, -, rfl⟩ | ⟨_, _, -, rfl⟩ | ⟨_, _, -, rfl⟩
  · exact (of_mem_heading line hheading).1
  · exact no_break_counterLine _ _ _
  · exact no_break_latencySumLine _ _
  · exact no_break_latencyCountLine _ _

/-- The names of requests and of durations part at one character, and those of sums and of numbers
at another one. -/
theorem counterLine_mark (hook : Hook) (status n : Nat) :
    (counterLine hook status n).toList[17]? = some 'c' := by
  simp only [counterLine, String.append_assoc, String.toList_append]
  rw [List.getElem?_append_left (by decide)]
  decide

theorem latencySumLine_mark (hook : Hook) (sum : Float) :
    (latencySumLine hook sum).toList[17]? = some 'l' ∧
      (latencySumLine hook sum).toList[33]? = some 's' := by
  simp only [latencySumLine, String.append_assoc, String.toList_append]
  rw [List.getElem?_append_left (by decide), List.getElem?_append_left (by decide)]
  decide

theorem latencyCountLine_mark (hook : Hook) (n : Nat) :
    (latencyCountLine hook n).toList[17]? = some 'l' ∧
      (latencyCountLine hook n).toList[33]? = some 'c' := by
  simp only [latencyCountLine, String.append_assoc, String.toList_append]
  rw [List.getElem?_append_left (by decide), List.getElem?_append_left (by decide)]
  decide

/-- No digit of a number is the mark behind it. -/
theorem no_quote_toString (n : Nat) : '"' ∉ (toString n).toList := by
  rw [Lines.toList_toString]
  exact fun hmem => absurd (Lines.isDigit_of_mem_toDigits hmem) (by decide)

/-- **A counter is known from its line.** -/
theorem counterLine_inj {hook hook' : Hook} {status status' n n' : Nat}
    (h : counterLine hook status n = counterLine hook' status' n') :
    hook = hook' ∧ status = status' ∧ n = n' := by
  have hlist := congrArg String.toList h
  simp only [counterLine, String.append_assoc, String.toList_append, List.append_cancel_left_eq]
    at hlist
  -- each of the three stands in front of a quotation mark that it does not hold, or at the end
  obtain ⟨hname, hrest⟩ := Lines.eq_of_append_cons hook.name_chars.2.1
    hook'.name_chars.2.1 hlist
  have hcode : ",code=\"".toList ++ _ = ",code=\"".toList ++ _ := hrest
  obtain ⟨hstatus, hrest⟩ := Lines.eq_of_append_cons (no_quote_toString status)
    (no_quote_toString status') (List.append_cancel_left hcode)
  have hend : "\x7d ".toList ++ _ = "\x7d ".toList ++ _ := hrest
  have hn := List.append_cancel_left hend
  exact ⟨Hook.eq_of_name (String.toList_inj.1 hname), Lines.eq_of_toString hstatus,
    Lines.eq_of_toString hn⟩

theorem latencyCountLine_inj {hook hook' : Hook} {n n' : Nat}
    (h : latencyCountLine hook n = latencyCountLine hook' n') : hook = hook' ∧ n = n' := by
  have hlist := congrArg String.toList h
  simp only [latencyCountLine, String.append_assoc, String.toList_append,
    List.append_cancel_left_eq] at hlist
  obtain ⟨hname, hrest⟩ := Lines.eq_of_append_cons hook.name_chars.2.1
    hook'.name_chars.2.1 hlist
  have hend : "\x7d ".toList ++ _ = "\x7d ".toList ++ _ := hrest
  have hn := List.append_cancel_left hend
  exact ⟨Hook.eq_of_name (String.toList_inj.1 hname), Lines.eq_of_toString hn⟩

/-! ### Lines of the text -/

variable {m : Metrics}

/-- **The text has a line for a hook and a status exactly if there have been such requests**, and
this line says how many. -/
theorem hasLine_counterLine_iff (hm : m.WellFormed) (hook : Hook) (status n : Nat) :
    HasLine m.render (counterLine hook status n) ↔ 1 ≤ n ∧ n = m.number ⟨hook, status⟩ := by
  have hmark := counterLine_mark hook status n
  rw [render_eq_write, hasLine_write_iff (no_break_lines m), mem_lines_iff,
    ← mem_requests_iff hm]
  · constructor
    · rintro (hheading | ⟨key, k, hmem, heq⟩ | ⟨hook', l, -, heq⟩ | ⟨hook', l, -, heq⟩)
      · exact absurd hmark (of_mem_heading _ hheading).2.1
      · obtain ⟨rfl, rfl, rfl⟩ := counterLine_inj heq
        exact hmem
      · rw [heq, (latencySumLine_mark hook' l.sum).1] at hmark
        exact absurd hmark (by decide)
      · rw [heq, (latencyCountLine_mark hook' l.count).1] at hmark
        exact absurd hmark (by decide)
    · intro hmem
      exact Or.inr (Or.inl ⟨_, n, hmem, rfl⟩)
  · intro hempty
    rw [hempty] at hmark
    exact absurd hmark (by decide)

/-- **The text has a line of numbers for a hook exactly if there have been requests to it**, and
this line says how many. -/
theorem hasLine_latencyCountLine_iff (hm : m.WellFormed) (hook : Hook) (n : Nat) :
    HasLine m.render (latencyCountLine hook n) ↔ 1 ≤ n ∧ n = m.timed hook := by
  obtain ⟨hmark, hmark'⟩ := latencyCountLine_mark hook n
  rw [render_eq_write, hasLine_write_iff (no_break_lines m), mem_lines_iff,
    ← mem_latencies_iff hm]
  · constructor
    · rintro (hheading | ⟨key, k, -, heq⟩ | ⟨hook', l, -, heq⟩ | ⟨hook', l, hmem, heq⟩)
      · exact absurd hmark (of_mem_heading _ hheading).2.2
      · rw [heq, counterLine_mark] at hmark
        exact absurd hmark (by decide)
      · rw [heq, (latencySumLine_mark hook' l.sum).2] at hmark'
        exact absurd hmark' (by decide)
      · obtain ⟨rfl, rfl⟩ := latencyCountLine_inj heq
        exact ⟨l.sum, hmem⟩
    · rintro ⟨sum, hmem⟩
      exact Or.inr (Or.inr (Or.inr ⟨hook, ⟨sum, n⟩, hmem, rfl⟩))
  · intro hempty
    rw [hempty] at hmark
    exact absurd hmark (by decide)

/-! ### Texts without their times -/

/-- A line without its time, if it is one of a sum of durations. -/
def maskLine (line : List Char) : List Char :=
  if "mqtt_api_request_latency_seconds_sum\x7b".toList.isPrefixOf line then
    line.takeWhile (· != ' ') ++ " <sum>".toList
  else line

/-- A text without the times in its lines. -/
def maskSums (text : String) : String :=
  String.ofList (['\n'].intercalate ((Lines.ofText text).map maskLine))

/-- Of a line of a sum of durations the hook is left. -/
theorem maskLine_latencySumLine (hook : Hook) (sum : Float) :
    maskLine (latencySumLine hook sum).toList =
      latencySumHead.toList ++ hook.name.toList ++ "\"\x7d <sum>".toList := by
  have hsplit : (latencySumLine hook sum).toList =
      (latencySumHead.toList ++ hook.name.toList ++ "\"\x7d".toList) ++
        ' ' :: (Decimal.ofFloat sum).toList := by
    simp [latencySumLine]
  have hprefix : "mqtt_api_request_latency_seconds_sum\x7b".toList.isPrefixOf
      (latencySumLine hook sum).toList = true := by
    rw [List.isPrefixOf_iff_prefix, hsplit, List.append_assoc, List.append_assoc]
    exact (List.isPrefixOf_iff_prefix.1 (by decide : List.isPrefixOf _ latencySumHead.toList)).trans
      (List.prefix_append _ _)
  have hfree : ∀ c ∈ latencySumHead.toList ++ hook.name.toList ++ "\"\x7d".toList,
      (c != ' ') = true := by
    have hhead : latencySumHead.toList.all (· != ' ') = true := by decide
    have htail : "\"\x7d".toList.all (· != ' ') = true := by decide
    intro c hc
    rcases List.mem_append.1 hc with hc | hc
    · rcases List.mem_append.1 hc with hc | hc
      · exact List.all_eq_true.1 hhead c hc
      · exact bne_iff_ne.2 fun heq => hook.name_chars.2.2 (heq ▸ hc)
    · exact List.all_eq_true.1 htail c hc
  rw [maskLine, if_pos hprefix, hsplit, List.takeWhile_append_of_pos hfree]
  simp

/-- The lines of the counters without their times. -/
theorem map_maskLine_lines (m : Metrics) :
    m.lines.map (fun line => maskLine line.toList) =
      ({ m with latencies := m.latencies.map fun entry =>
        (entry.1, ⟨0, entry.2.count⟩) } : Metrics).lines.map fun line => maskLine line.toList := by
  simp only [lines, List.map_append, List.map_flatMap, List.flatMap_map, List.map_cons,
    List.map_nil, maskLine_latencySumLine]

/-- Counters that have counted the same and differ in their times only. -/
structure Alike (m m' : Metrics) : Prop where
  requests : m.requests = m'.requests
  latencies : (m.latencies.map fun entry => (entry.1, entry.2.count)) =
    m'.latencies.map fun entry => (entry.1, entry.2.count)

theorem Alike.refl (m : Metrics) : Alike m m := ⟨rfl, rfl⟩

/-- **Counters are known from the numbers in them**, but for their times. -/
theorem Alike.of_number {m m' : Metrics} (hm : m.WellFormed) (hm' : m'.WellFormed)
    (hnumber : ∀ key, m.number key = m'.number key)
    (htimed : ∀ hook, m.timed hook = m'.timed hook) : Alike m m' where
  requests := by
    refine Entries.Ordered.ext HookStatus.isOrder_before hm.requests hm'.requests ?_
    rintro ⟨key, n⟩
    rw [mem_requests_iff hm, mem_requests_iff hm', hnumber]
  latencies := by
    -- without the sums, what is listed for a hook is the number of its requests
    have hmem : ∀ {m : Metrics}, m.WellFormed → ∀ hook n,
        (hook, n) ∈ m.latencies.map (fun entry => (entry.1, entry.2.count)) ↔
          1 ≤ n ∧ n = m.timed hook := by
      intro m hm hook n
      rw [← mem_latencies_iff hm, List.mem_map]
      constructor
      · rintro ⟨⟨hook', sum, count⟩, hentry, heq⟩
        obtain ⟨rfl, rfl⟩ := Prod.mk.inj heq
        exact ⟨sum, hentry⟩
      · rintro ⟨sum, hentry⟩
        exact ⟨_, hentry, rfl⟩
    refine Entries.Ordered.ext Hook.isOrder_before (List.pairwise_map.2 hm.latencies)
      (List.pairwise_map.2 hm'.latencies) ?_
    rintro ⟨hook, n⟩
    rw [hmem hm, hmem hm', htimed]

/-- **Counters that differ in their times only go on so**, whatever time the next request takes. -/
theorem Alike.observe {m m' : Metrics} (h : Alike m m') (key : HookStatus) (d d' : Duration) :
    Alike (m.observe key d) (m'.observe key d') where
  requests := congrArg (count key) h.requests
  latencies := by
    have htime := fun (d : Duration) (entries : List (Hook × Latency)) =>
      (congrArg _ (time_eq_alter key.hook d entries)).trans
        (Entries.map_alter Latency.count (fun n => n.getD 0 + 1)
          (fun l => by cases l <;> rfl) key.hook)
    simp only [Metrics.observe, htime, h.latencies]

/-- **Counters that differ in their times only have one text** without them. -/
theorem Alike.maskSums_render {m m' : Metrics} (h : Alike m m') :
    maskSums m.render = maskSums m'.render := by
  have hlatencies : (m.latencies.map fun entry => (entry.1, (⟨0, entry.2.count⟩ : Latency))) =
      m'.latencies.map fun entry => (entry.1, (⟨0, entry.2.count⟩ : Latency)) := by
    simpa only [List.map_map, Function.comp_def] using
      congrArg (List.map fun entry : Hook × Nat => (entry.1, (⟨0, entry.2⟩ : Latency))) h.latencies
  have hlines := map_maskLine_lines m
  rw [h.requests, hlatencies, ← map_maskLine_lines m'] at hlines
  rw [maskSums, maskSums, render_eq_write, render_eq_write, Lines.ofText_write (no_break_lines m),
    Lines.ofText_write (no_break_lines m'), List.map_append, List.map_append, List.map_map,
    List.map_map]
  exact congrArg (fun ls => String.ofList (['\n'].intercalate (ls ++ [[]].map maskLine))) hlines

end Metrics

end HookBridge
