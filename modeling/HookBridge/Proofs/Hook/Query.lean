/-
**Queries of topics.**

A query behind a topic says nothing about the channel or the path, and the bridge is to ignore it.
It does so for a query on one line: the topic is read as it would be without the query, so
publishing and subscribing ask the same and decide the same.  But the reader of topics takes no line
break in a query, while it takes one in a path.  A topic with such a query is no topic at all,
whatever stands before the query, and the client is refused without a question.

Main definitions:

* `HookBridge.HookError.SameKind` — two errors differ in the words about a malformed topic at most;
* `HookBridge.HookRequest.Alike` — two verdicts that are the same up to these words;
* `HookBridge.HookRequest.DifferInTopic` — two requests that differ in their topics only.

Main results:

* `HookBridge.ChannelTopic.parse?_query_eq_some_iff` — what a topic with a query is read as;
* `HookBridge.HookRequest.DifferInTopic.alike` — topics that are read alike lead to the like;
* `HookBridge.HookRequest.query_ignored_iff` — **a query is ignored exactly if it is on one line**,
  or stands behind something that is no topic;
* `HookBridge.HookRequest.query_not_always_ignored` — so it is not always ignored.
-/

import HookBridge.Proofs.Topic
import HookBridge.Proofs.Hook.Inquiry
import HookBridge.Proofs.Text.Lines
import HookBridge.Scripted

set_option relaxedAutoImplicit false
set_option autoImplicit false

namespace HookBridge

/-! ### Topics with a query -/

namespace ChannelTopic

/-- Only a query holds a question mark. -/
theorem IsPathPart.no_mark {path part : String} (h : IsPathPart path part) : '?' ∉ part.toList := by
  cases h with
  | absent => simp
  | given hmark => simpa using hmark

/-- In front of the query a topic holds no question mark. -/
theorem Written.no_mark {topic channel path part query : String}
    (h : Written topic channel path part query) :
    '?' ∉ ("/channels/" ++ channel ++ "/messages" ++ part).toList := by
  have hchannel : '?' ∉ channel.toList := by
    intro hmark
    have hid := (isIdChar_iff '?').2 (h.channel.chars '?' hmark)
    exact absurd hid (by decide)
  simp [hchannel, h.path.no_mark]

variable {base : String} (hbase : '?' ∉ base.toList) (query : String)

include hbase

/-- **What a topic with a query is read as**: what it would be read as without it, if the query is
on one line, and nothing otherwise. -/
theorem parse?_query_eq_some_iff (address : ChannelTopic) :
    parse? (base ++ "?" ++ query) = some address ↔
      parse? base = some address ∧ '\n' ∉ query.toList := by
  rw [parse?_eq_some_iff, parse?_eq_some_iff]
  constructor
  · rintro ⟨part, written, hwritten⟩
    have heq := hwritten.topic_eq
    generalize hq : written = text at hwritten heq
    cases hwritten.query with
    | absent =>
        -- without a query there would be no question mark
        refine absurd ?_ hwritten.no_mark
        rw [String.append_empty] at heq
        simp [← heq]
    | @given line hline =>
        have hlist : base.toList ++ '?' :: query.toList =
            ("/channels/" ++ address.channel ++ "/messages" ++ part).toList ++
              '?' :: line.toList := by
          simpa only [String.toList_append, String.reduceToList, List.append_assoc,
            List.cons_append, List.nil_append] using congrArg String.toList heq
        obtain ⟨hfront, hrest⟩ := Lines.eq_of_append_cons hbase hwritten.no_mark hlist
        refine ⟨⟨part, "", ?_, hwritten.channel, hwritten.path, IsQueryPart.absent⟩, ?_⟩
        · rw [String.append_empty, ← String.toList_inj, hfront]
        · rwa [hrest]
  · rintro ⟨⟨part, written, hwritten⟩, hline⟩
    have heq := hwritten.topic_eq
    generalize hq : written = text at hwritten heq
    cases hwritten.query with
    | absent =>
        rw [String.append_empty] at heq
        refine ⟨part, "?" ++ query, ?_, hwritten.channel, hwritten.path, IsQueryPart.given hline⟩
        rw [heq, ← String.append_assoc]
    | given _ =>
        refine absurd ?_ hbase
        rw [heq]
        simp

/-- A query on one line is not looked at. -/
theorem parse?_query_of_line (hline : '\n' ∉ query.toList) :
    parse? (base ++ "?" ++ query) = parse? base := by
  refine Option.ext fun address => ?_
  simp [parse?_query_eq_some_iff hbase, hline]

/-- A query with a line break is no query, and what holds it no topic. -/
theorem parse?_query_of_break (hbreak : '\n' ∈ query.toList) :
    parse? (base ++ "?" ++ query) = none := by
  refine Option.eq_none_iff_forall_ne_some.2 fun address haddress => ?_
  exact ((parse?_query_eq_some_iff hbase query address).1 haddress).2 hbreak

omit hbase

/-- What addresses no channel is refused as such. -/
theorem parse_of_parse?_eq_none {topic : String} (h : parse? topic = none) :
    parse topic = .error (.malformedTopic ("\"" ++ topic ++ "\" is not a channel topic")) := by
  rw [parse, h]

end ChannelTopic

/-! ### Errors of one kind -/

/-- Two errors are the same, up to the words about a topic that addresses nothing: these quote the
topic. -/
inductive HookError.SameKind : HookError → HookError → Prop
  | same (error : HookError) : SameKind error error
  | malformedTopic (detail detail' : String) :
      SameKind (.topic (.malformedTopic detail)) (.topic (.malformedTopic detail'))

/-- Errors of one kind have one status. -/
theorem HookError.SameKind.status_eq {e e' : HookError} (h : e.SameKind e') :
    e.status = e'.status := by
  cases h <;> rfl

namespace HookRequest

variable {σ : Type}

/-- Two verdicts are alike: the same has been asked in the same time, and either both lead to the
same decision, or both are errors of one kind, and with that of one status. -/
structure Alike (v w : Verdict HookError Decision σ) : Prop where
  state : v.state = w.state
  elapsed : v.elapsed = w.elapsed
  decided : ∀ d, v.result = .ok d ↔ w.result = .ok d
  refused : ∀ e, v.result = .error e →
    ∃ e', w.result = .error e' ∧ e.SameKind e' ∧ e.status = e'.status

theorem Alike.refl (v : Verdict HookError Decision σ) : Alike v v where
  state := rfl
  elapsed := rfl
  decided := fun _ => Iff.rfl
  refused := fun e he => ⟨e, he, .same e, (HookError.SameKind.same e).status_eq⟩

/-- Two topics that address nothing are refused alike. -/
theorem Alike.of_malformedTopic (detail detail' : String) (s : σ) :
    Alike (refuse (.topic (.malformedTopic detail)) s)
      (refuse (.topic (.malformedTopic detail')) s) where
  state := rfl
  elapsed := rfl
  decided := by simp [refuse]
  refused := by
    intro e he
    obtain rfl := Except.error.inj he
    have hkind := HookError.SameKind.malformedTopic detail detail'
    exact ⟨_, rfl, hkind, hkind.status_eq⟩

/-! ### Requests that differ in their topics -/

/-- Two requests to publish, or two to subscribe, that differ in nothing but their topics. -/
inductive DifferInTopic (topic topic' : String) : HookRequest → HookRequest → Prop
  | publish (username contentType : String) (payload : Bytes) :
      DifferInTopic topic topic' (.publish username topic payload contentType)
        (.publish username topic' payload contentType)
  | subscribe (username : String) :
      DifferInTopic topic topic' (.subscribe username topic) (.subscribe username topic')

theorem DifferInTopic.symm {topic topic' : String} {r r' : HookRequest}
    (h : DifferInTopic topic topic' r r') : DifferInTopic topic' topic r' r := by
  cases h with
  | publish username contentType payload => exact .publish username contentType payload
  | subscribe username => exact .subscribe username

variable (a : Authorizer σ) (s : σ) {topic topic' : String} {r r' : HookRequest}

/-- A topic that addresses nothing is refused before anything else is looked at. -/
theorem DifferInTopic.decision_of_none (h : DifferInTopic topic topic' r r')
    (hparse : ChannelTopic.parse? topic = none) :
    r.decision a s =
      refuse (.topic (.malformedTopic ("\"" ++ topic ++ "\" is not a channel topic"))) s := by
  cases h <;> simp only [decision, ChannelTopic.parse_of_parse?_eq_none hparse]

/-- A topic that addresses a channel is not refused for addressing none. -/
theorem DifferInTopic.result_ne_malformedTopic (h : DifferInTopic topic topic' r r')
    {address : ChannelTopic} (hparse : ChannelTopic.parse? topic = some address) (detail : String) :
    (r.decision a s).result ≠ .error (.topic (.malformedTopic detail)) := by
  have hok := ChannelTopic.parse_eq_ok_iff.2 hparse
  intro herror
  cases h with
  | publish username contentType payload =>
      cases hsubtopic : Subtopic.normalize address.path with
      | error fault =>
          simp only [decision, hok, hsubtopic] at herror
          have hdetail := HookError.topic.inj (Except.error.inj herror)
          exact absurd hdetail (by simp [Subtopic.Fault.toError])
      | ok subtopic =>
          simp only [decision, hok, hsubtopic, settle_eq_error_iff] at herror
          obtain ⟨reason, -, hreason⟩ := herror
          exact absurd hreason (by simp)
  | subscribe username =>
      simp only [decision, hok, settle_eq_error_iff] at herror
      obtain ⟨reason, -, hreason⟩ := herror
      exact absurd hreason (by simp)

/-- Topics that are read alike lead to the like. -/
theorem DifferInTopic.alike (h : DifferInTopic topic topic' r r')
    (hparse : ChannelTopic.parse? topic = ChannelTopic.parse? topic') :
    Alike (r.decision a s) (r'.decision a s) := by
  cases haddress : ChannelTopic.parse? topic' with
  | none =>
      rw [h.decision_of_none a s (hparse.trans haddress), h.symm.decision_of_none a s haddress]
      exact Alike.of_malformedTopic _ _ s
  | some address =>
      have hok := ChannelTopic.parse_eq_ok_iff.2 haddress
      have hok' := ChannelTopic.parse_eq_ok_iff.2 (hparse.trans haddress)
      cases h <;> simp only [decision, hok, hok'] <;> exact Alike.refl _

/-- Of two topics that lead to the like, both address a channel or neither does. -/
theorem DifferInTopic.parse?_eq_none_of_alike (h : DifferInTopic topic topic' r r')
    (halike : Alike (r.decision a s) (r'.decision a s))
    (hparse : ChannelTopic.parse? topic = none) : ChannelTopic.parse? topic' = none := by
  rw [h.decision_of_none a s hparse] at halike
  obtain ⟨e, hresult, hkind, -⟩ := halike.refused _ rfl
  -- an error of this kind comes of a topic that addresses nothing
  refine Option.eq_none_iff_forall_ne_some.2 fun address haddress => ?_
  have hne := h.symm.result_ne_malformedTopic a s haddress
  cases hkind with
  | same => exact hne _ hresult
  | malformedTopic _ detail => exact hne detail hresult

/-! ### Requests with a query -/

variable {base : String} (hbase : '?' ∉ base.toList) (query : String)

include hbase

/-- With a query the like happens as without it exactly if the query is on one line, or there is no
topic in front of it. -/
theorem DifferInTopic.alike_query_iff (h : DifferInTopic (base ++ "?" ++ query) base r r') :
    Alike (r.decision a s) (r'.decision a s) ↔
      '\n' ∉ query.toList ∨ ChannelTopic.parse? base = none := by
  constructor
  · intro halike
    by_cases hbreak : '\n' ∈ query.toList
    · exact Or.inr (h.parse?_eq_none_of_alike a s halike
        (ChannelTopic.parse?_query_of_break hbase query hbreak))
    · exact Or.inl hbreak
  · rintro (hline | hnone)
    · exact h.alike a s (ChannelTopic.parse?_query_of_line hbase query hline)
    · refine h.alike a s (hnone ▸ ?_)
      refine Option.eq_none_iff_forall_ne_some.2 fun address haddress => ?_
      have hsome := ((ChannelTopic.parse?_query_eq_some_iff hbase query address).1 haddress).1
      rw [hnone] at hsome
      exact absurd hsome (by simp)

/-- **A query is ignored exactly if it is on one line**, or stands behind something that is no topic
to begin with.  Then publishing and subscribing ask the same in the same time and come to the same
decision or to an error of the same kind and status, with the query and without it.  With a line
break in its query no topic is one, so both are refused without a question. -/
theorem query_ignored_iff (username contentType : String) (payload : Bytes) :
    let topic := base ++ "?" ++ query
    let malformed : HookError :=
      .topic (.malformedTopic ("\"" ++ topic ++ "\" is not a channel topic"))
    (Alike ((publish username topic payload contentType).decision a s)
        ((publish username base payload contentType).decision a s) ↔
      '\n' ∉ query.toList ∨ ChannelTopic.parse? base = none) ∧
    (Alike ((subscribe username topic).decision a s) ((subscribe username base).decision a s) ↔
      '\n' ∉ query.toList ∨ ChannelTopic.parse? base = none) ∧
    ('\n' ∈ query.toList →
      (publish username topic payload contentType).decision a s = ⟨.error malformed, .zero, s⟩ ∧
      (subscribe username topic).decision a s = ⟨.error malformed, .zero, s⟩) := by
  intro topic malformed
  have hpublish : DifferInTopic topic base _ _ := .publish username contentType payload
  have hsubscribe : DifferInTopic topic base _ _ := .subscribe username
  refine ⟨hpublish.alike_query_iff a s hbase query, hsubscribe.alike_query_iff a s hbase query, ?_⟩
  intro hbreak
  have hnone := ChannelTopic.parse?_query_of_break hbase query hbreak
  exact ⟨hpublish.decision_of_none a s hnone, hsubscribe.decision_of_none a s hnone⟩

omit hbase

/-- A query with slashes, escapes, a wild card and another question mark, behind a path with a line
break; and the same query with a line break of its own. -/
theorem query_ignored_iff_break :
    let a := Script.authorizer ⟨[⟨.ok "u7", .zero⟩], []⟩ (.ofSeconds 1)
    let base := "/channels/c/messages/a\nb"
    let line := "x=/%2A*?y"
    let broken := "x=/%2A*?y\n"
    '?' ∉ base.toList ∧ '\n' ∉ line.toList ∧ '\n' ∈ broken.toList ∧
      Alike ((publish "key" (base ++ "?" ++ line) [0x31] "").decision a Script.State.start)
        ((publish "key" base [0x31] "").decision a Script.State.start) ∧
      ¬ Alike ((subscribe "key" (base ++ "?" ++ broken)).decision a Script.State.start)
        ((subscribe "key" base).decision a Script.State.start) := by
  intro a base line broken
  have hbase : '?' ∉ base.toList := by decide
  have hline : '\n' ∉ line.toList := by decide
  have hbroken : '\n' ∈ broken.toList := by decide
  have hparse : ChannelTopic.parse? base = some ⟨"c", "a\nb"⟩ := by decide
  refine ⟨hbase, hline, hbroken, ?_, ?_⟩
  · exact (query_ignored_iff a Script.State.start hbase line "key" "" [0x31]).1.2 (Or.inl hline)
  · intro halike
    rcases (query_ignored_iff a Script.State.start hbase broken "key" "" [0x31]).2.1.1 halike with
      hline' | hnone
    · exact hline' hbroken
    · rw [hparse] at hnone
      exact absurd hnone (by simp)

/-- A query is not always ignored: with a line break in it, it turns a client away that may
subscribe without it. -/
theorem query_not_always_ignored :
    ¬ ∀ (script : Script) (timeout : Duration) (s : Script.State) (base query username : String),
      '?' ∉ base.toList →
        Alike ((subscribe username (base ++ "?" ++ query)).decision (script.authorizer timeout) s)
          ((subscribe username base).decision (script.authorizer timeout) s) := by
  intro hall
  have hbase : '?' ∉ "/channels/c/messages".toList := by decide
  have halike := hall ⟨[⟨.ok "u1", .zero⟩], []⟩ (.ofSeconds 1) .start "/channels/c/messages" "a\nb"
    "key" hbase
  rcases ((DifferInTopic.subscribe "key").alike_query_iff _ _ hbase "a\nb").1 halike with
    hline | hnone
  · exact absurd hline (by decide)
  · exact absurd hnone (by decide)

end HookRequest

end HookBridge
