/-
**The worker loses nothing.**

Whatever those who can send do, and whenever the worker receives, what has been sent is what the
worker has received and what still waits, in this order.  So each event is answered from the counters
of those sent before it.  The worker comes to its end only when nothing waits and nobody can send any
more, and then it does so after as many moves as there are events waiting, and one.

Main definitions:

* `HookBridge.MetricsTask.sentBy` — the events that moves send;
* `HookBridge.MetricsTask.Kept` — no event is lost, and each that was received is answered;
* `HookBridge.MetricsTask.left` — how many moves the worker makes if nobody sends any more.

Main results:

* `HookBridge.MetricsTask.Kept.step`, `HookBridge.MetricsTask.Kept.run` — a move, and a list of
  them, lose nothing;
* `HookBridge.MetricsTask.length_add_left` — without senders there are only so many moves left;
* `HookBridge.MetricsTask.run_accounts` — **each text of a run gives an account of what was sent
  before it, and the worker ends when all has been received**.
-/

import HookBridge.Metrics.Task
import HookBridge.Proofs.Metrics.Account

set_option relaxedAutoImplicit false
set_option autoImplicit false

namespace HookBridge

namespace MetricsTask

open Metrics

/-- The event that a move sends. -/
def Move.event? : Move → Option MetricsEvent
  | send e => some e
  | share => none
  | leave => none
  | receive => none

/-- The events that moves send, in turn. -/
def sentBy (moves : List Move) : List MetricsEvent := moves.filterMap (·.event?)

variable {t t' : MetricsTask} {sent : List MetricsEvent}

/-! ### One move -/

/-- The worker takes the oldest event, or comes to its end. -/
theorem receive?_cases (h : t.receive? = some t') :
    t.ended = false ∧
      ((∃ e rest, t.waiting = e :: rest ∧
          t' = ⟨(t.metrics.receive e).2, rest, t.senders, t.answers ++ [(t.metrics.receive e).1],
            t.ended⟩) ∨
        (t.waiting = [] ∧ t.senders = 0 ∧ t' = { t with ended := true })) := by
  rw [receive?] at h
  split at h
  · exact absurd h (by simp)
  next hended =>
  refine ⟨by simpa using hended, ?_⟩
  split at h
  · next _ e rest hwaiting =>
    exact Or.inl ⟨e, rest, hwaiting, (Option.some.inj h).symm⟩
  · next hwaiting hsenders =>
    exact Or.inr ⟨hwaiting, hsenders, (Option.some.inj h).symm⟩
  · exact absurd h (by simp)

/-- A worker that has not come to its end receives an event, unless it has to wait for one. -/
theorem exists_receive? (hended : t.ended = false) (h : t.senders = 0 ∨ t.waiting ≠ []) :
    ∃ t', t.receive? = some t' := by
  rw [receive?, hended]
  cases hwaiting : t.waiting with
  | cons e rest => exact ⟨_, rfl⟩
  | nil =>
      cases hsenders : t.senders with
      | zero => exact ⟨_, rfl⟩
      | succ n =>
          rcases h with hzero | hne
          · exact absurd (hsenders.symm.trans hzero) (Nat.succ_ne_zero n)
          · exact absurd hwaiting hne

/-- Whoever sends, shares or leaves changes only what waits, and how many can send. -/
theorem step?_cases {move : Move} (h : t.step? move = some t') :
    (move = .receive ∧ t.receive? = some t') ∨
      (t.senders ≠ 0 ∧ t'.metrics = t.metrics ∧ t'.answers = t.answers ∧ t'.ended = t.ended ∧
        t'.waiting = t.waiting ++ move.event?.toList) := by
  cases move with
  | receive => exact Or.inl ⟨rfl, h⟩
  | send e =>
      obtain ⟨hsenders, rfl⟩ : t.senders ≠ 0 ∧ _ = t' := by simpa [step?] using h
      exact Or.inr ⟨hsenders, rfl, rfl, rfl, rfl⟩
  | share =>
      obtain ⟨hsenders, rfl⟩ : t.senders ≠ 0 ∧ _ = t' := by simpa [step?] using h
      exact Or.inr ⟨hsenders, rfl, rfl, rfl, (List.append_nil _).symm⟩
  | leave =>
      obtain ⟨hsenders, rfl⟩ : t.senders ≠ 0 ∧ _ = t' := by simpa [step?] using h
      exact Or.inr ⟨hsenders, rfl, rfl, rfl, (List.append_nil _).symm⟩

/-! ### Nothing is lost -/

/-- What has been sent is what has been received, each event with its answer, and what still waits. -/
structure Kept (sent : List MetricsEvent) (t : MetricsTask) : Prop where
  received : ∃ events, sent = events ++ t.waiting ∧
    Metrics.empty.receiveAll events = (t.answers, t.metrics)
  ended : t.ended = true → t.senders = 0 ∧ t.waiting = []

theorem Kept.start : Kept [] start where
  received := ⟨[], rfl, rfl⟩
  ended := fun h => absurd h (by decide)

/-- The worker receives without losing anything. -/
theorem Kept.receive (h : Kept sent t) (hstep : t.receive? = some t') : Kept sent t' := by
  obtain ⟨hended, ⟨e, rest, hwaiting, rfl⟩ | ⟨hwaiting, hsenders, rfl⟩⟩ := receive?_cases hstep
  · obtain ⟨events, hsent, hevents⟩ := h.received
    refine ⟨⟨events ++ [e], ?_, ?_⟩, fun hover => ?_⟩
    · rw [hsent, hwaiting, List.append_assoc]
      rfl
    · rw [receiveAll_append, hevents]
      rfl
    · exact absurd (hended.symm.trans hover) (by decide)
  · exact ⟨h.received, fun _ => ⟨hsenders, hwaiting⟩⟩

/-- **A move loses nothing.** -/
theorem Kept.step (h : Kept sent t) {move : Move} (hstep : t.step? move = some t') :
    Kept (sent ++ move.event?.toList) t' := by
  rcases step?_cases hstep with ⟨rfl, hreceive⟩ | ⟨hsenders, hmetrics, hanswers, hended, hwaiting⟩
  · have hnothing : sent ++ Move.receive.event?.toList = sent := List.append_nil _
    rw [hnothing]
    exact h.receive hreceive
  · obtain ⟨events, hsent, hevents⟩ := h.received
    refine ⟨⟨events, ?_, ?_⟩, fun hover => ?_⟩
    · rw [hsent, hwaiting, List.append_assoc]
    · rw [hevents, hmetrics, hanswers]
    · exact absurd (h.ended (hended ▸ hover)).1 hsenders

theorem run?_cons_eq_some_iff {move : Move} {rest : List Move} :
    t.run? (move :: rest) = some t' ↔ ∃ t'', t.step? move = some t'' ∧ t''.run? rest = some t' :=
  Option.bind_eq_some_iff

/-- **No list of moves loses anything.** -/
theorem Kept.run (h : Kept sent t) {moves : List Move} (hrun : t.run? moves = some t') :
    Kept (sent ++ sentBy moves) t' := by
  -- induction on the moves: what the first one sends joins what was sent before
  induction moves generalizing sent t with
  | nil =>
      obtain rfl := Option.some.inj hrun
      rwa [sentBy, List.filterMap_nil, List.append_nil]
  | cons move rest ih =>
      obtain ⟨t'', hstep, hrest⟩ := run?_cons_eq_some_iff.1 hrun
      have hsent : sentBy (move :: rest) = move.event?.toList ++ sentBy rest := by
        cases move <;> rfl
      rw [hsent, ← List.append_assoc]
      exact ih (h.step hstep) hrest

/-- Each answer is that of the event in its place, from the counters of those sent before it. -/
theorem Kept.getElem?_answers (h : Kept sent t) {i : Nat} {answer : Option String}
    (hi : t.answers[i]? = some answer) : ∃ e, sent[i]? = some e ∧
      answer = ((Metrics.empty.receiveAll (sent.take i)).2.receive e).1 := by
  obtain ⟨events, hsent, hevents⟩ := h.received
  have hanswers : (Metrics.empty.receiveAll events).1 = t.answers := by rw [hevents]
  rw [← hanswers, getElem?_receiveAll] at hi
  obtain ⟨e, he, rfl⟩ := Option.map_eq_some_iff.1 hi
  have hlt : i < events.length := (List.getElem?_eq_some_iff.1 he).1
  refine ⟨e, ?_, ?_⟩
  · rw [hsent, List.getElem?_append_left hlt, he]
  · rw [hsent, List.take_append_of_le_length hlt.le]

/-- Each event is answered or waits. -/
theorem Kept.length_eq (h : Kept sent t) : t.answers.length + t.waiting.length = sent.length := by
  obtain ⟨events, hsent, hevents⟩ := h.received
  have hlength := length_receiveAll .empty events
  rw [hevents] at hlength
  rw [hsent, List.length_append, ← hlength]

/-- Whoever is given a text has asked for it, and it is that of the counters at this time. -/
theorem Kept.text_eq (h : Kept sent t) {i : Nat} {text : String}
    (hi : t.answers[i]? = some (some text)) :
    text = (Metrics.empty.receiveAll (sent.take i)).2.render := by
  obtain ⟨e, -, htext⟩ := h.getElem?_answers hi
  cases e with
  | snapshot => exact Option.some.inj htext
  | handled key d => exact absurd htext (by simp [Metrics.receive])
  | abandoned => exact absurd htext (by simp [Metrics.receive])

/-! ### The end -/

/-- How many moves the worker makes if nobody sends any more: one for each event that waits, and one
to come to its end. -/
def left (t : MetricsTask) : Nat := if t.ended then 0 else t.waiting.length + 1

/-- Without senders the worker makes every move, and each is one less. -/
theorem step?_left (hsenders : t.senders = 0) {move : Move} (h : t.step? move = some t') :
    t'.senders = 0 ∧ t.left = t'.left + 1 := by
  rcases step?_cases h with ⟨-, hreceive⟩ | ⟨hne, -⟩
  · obtain ⟨hended, ⟨e, rest, hwaiting, rfl⟩ | ⟨hwaiting, -, rfl⟩⟩ := receive?_cases hreceive
    · refine ⟨hsenders, ?_⟩
      simp [left, hended, hwaiting]
    · refine ⟨hsenders, ?_⟩
      simp [left, hended, hwaiting]
  · exact absurd hsenders hne

/-- **Without senders there are only so many moves left.** -/
theorem length_add_left (hsenders : t.senders = 0) {moves : List Move}
    (h : t.run? moves = some t') : t'.senders = 0 ∧ moves.length + t'.left = t.left := by
  induction moves generalizing t with
  | nil =>
      obtain rfl := Option.some.inj h
      exact ⟨hsenders, Nat.zero_add _⟩
  | cons move rest ih =>
      obtain ⟨t'', hstep, hrest⟩ := run?_cons_eq_some_iff.1 h
      obtain ⟨hsenders'', hleft⟩ := step?_left hsenders hstep
      obtain ⟨hsenders', hlength⟩ := ih hsenders'' hrest
      refine ⟨hsenders', ?_⟩
      rw [hleft, ← hlength, List.length_cons]
      omega

/-! ### Runs -/

/-- **Each text of a run gives an account of what was sent before it, and the worker ends when all
has been received.**  Whatever happens to the channel and whenever the worker receives, each event is
answered in turn or still waits.  Whoever asks and waits is given an account of the requests that were
sent before; nobody else is given anything.  Two texts, of one run or of two, agree in the lines that
count requests exactly if each of them occurred equally often before both, and they are the same if
the requests before them are, whoever else has asked.  The worker is at its end only if nobody can
send and all events are answered, and once nobody can send it makes no more moves than it takes, and
does not stop before its end. -/
theorem run_accounts (moves : List Move) (t : MetricsTask) (h : start.run? moves = some t) :
    let sent := sentBy moves
    t.answers.length + t.waiting.length = sent.length ∧
    (∀ (i : Nat) answer, t.answers[i]? = some answer → ∃ e, sent[i]? = some e ∧
      (e = .snapshot → ∃ text keys, answer = some text ∧ IsAccount (sent.take i) keys text) ∧
      (e ≠ .snapshot → answer = none)) ∧
    (∀ moves' t', start.run? moves' = some t' → ∀ (i j : Nat) text text',
      t.answers[i]? = some (some text) → t'.answers[j]? = some (some text') →
        (requestLinesOf text = requestLinesOf text' ↔ ∀ key,
          occurrences key (sent.take i) = occurrences key ((sentBy moves').take j)) ∧
        ((sent.take i).filter (·.isHandled) = ((sentBy moves').take j).filter (·.isHandled) →
          text = text')) ∧
    (t.ended = true → t.senders = 0 ∧ t.answers.length = sent.length) ∧
    (t.senders = 0 → ∀ more t', t.run? more = some t' →
      more.length ≤ t.waiting.length + 1 ∧ (t'.ended = true ∨ ∃ t'', t'.step? .receive = some t'')) := by
  intro sent
  have hkept : Kept sent t := Kept.start.run h
  refine ⟨hkept.length_eq, ?_, ?_, ?_, ?_⟩
  · intro i answer hi
    obtain ⟨e, he, rfl⟩ := hkept.getElem?_answers hi
    refine ⟨e, he, ?_, ?_⟩
    · rintro rfl
      exact ⟨_, _, rfl, (Tallied.empty.receiveAll (sent.take i)).isAccount⟩
    · intro hne
      cases e with
      | snapshot => exact absurd rfl hne
      | handled key d => rfl
      | abandoned => rfl
  · intro moves' t' h' i j text text' hi hj
    have hkept' : Kept (sentBy moves') t' := Kept.start.run h'
    rw [hkept.text_eq hi, hkept'.text_eq hj]
    refine ⟨(Tallied.empty.receiveAll _).isAccount.requestLinesOf_eq_iff
      (Tallied.empty.receiveAll _).isAccount, fun hsame => ?_⟩
    rw [← receiveAll_filter_isHandled, hsame, receiveAll_filter_isHandled]
  · intro hended
    obtain ⟨hsenders, hwaiting⟩ := hkept.ended hended
    have hlength := hkept.length_eq
    rw [hwaiting] at hlength
    exact ⟨hsenders, hlength⟩
  · intro hsenders more t' hrun
    obtain ⟨hsenders', hlength⟩ := length_add_left hsenders hrun
    have hleft : t.left ≤ t.waiting.length + 1 := by
      rw [left]
      split <;> omega
    refine ⟨by omega, ?_⟩
    cases hended : t'.ended with
    | true => exact Or.inl rfl
    | false => exact Or.inr (exists_receive? hended (Or.inl hsenders'))

/-- Two publish requests end with a status of four digits and one with a status of three; someone asks
and goes away, someone asks and waits, and then nobody is left. -/
def busyMoves : List Move :=
  let late : MetricsEvent := .handled ⟨.publish, 1000⟩ (.ofMillis 2)
  let early : MetricsEvent := .handled ⟨.publish, 202⟩ .zero
  [.send late, .share, .send early, .receive, .send .abandoned, .leave, .send late,
    .send .snapshot, .leave, .receive, .receive, .receive, .receive, .receive]

/-- The worker after these moves. -/
def busyTask : MetricsTask :=
  let once := Metrics.empty.observe ⟨.publish, 1000⟩ (.ofMillis 2)
  let thrice := (once.observe ⟨.publish, 202⟩ .zero).observe ⟨.publish, 1000⟩ (.ofMillis 2)
  ⟨thrice, [], 0, [none, none, none, none, some thrice.render], true⟩

theorem run_accounts_busy : start.run? busyMoves = some busyTask ∧ busyTask.senders = 0 ∧
    busyTask.answers.length = 5 ∧ ∃ text keys, busyTask.answers[4]? = some (some text) ∧
      IsAccount ((sentBy busyMoves).take 4) keys text ∧ (⟨.publish, 202⟩ : HookStatus) ∈ keys ∧
      occurrences ⟨.publish, 1000⟩ ((sentBy busyMoves).take 4) = 2 := by
  have hrun : start.run? busyMoves = some busyTask := by rfl
  obtain ⟨-, hanswers, -, hended, -⟩ := run_accounts busyMoves busyTask hrun
  obtain ⟨hsenders, hlength⟩ := hended rfl
  obtain ⟨e, he, hsnapshot, -⟩ := hanswers 4 _ rfl
  obtain ⟨text, keys, htext, haccount⟩ := hsnapshot (Option.some.inj he).symm
  refine ⟨hrun, hsenders, hlength, text, keys, congrArg some htext, haccount, ?_, by decide⟩
  exact (haccount.mem_keys _).2 (by decide)

end MetricsTask

end HookBridge
