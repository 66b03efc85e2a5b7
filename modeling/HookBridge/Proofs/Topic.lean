/-
**The grammar of topics.**

A topic is written from the identifier of a channel and two optional parts behind it: a path, and a
query that says nothing.  This module writes the form down without reading anything, and shows that
`ChannelTopic.parse` accepts it and nothing else.  The form leaves no choice: an identifier holds no
slash, so it ends at the first one, and a path holds no question mark, so the query begins at the
first one behind it.

Main definitions:

* `HookBridge.ChannelTopic.IsChannelId` — the identifiers of channels;
* `HookBridge.ChannelTopic.IsPathPart`, `HookBridge.ChannelTopic.IsQueryPart` — what may stand
  behind `/messages`;
* `HookBridge.ChannelTopic.Written` — a topic is written from its parts.

Main results:

* `HookBridge.ChannelTopic.parse?_eq_some_iff` — **reading a topic finds the parts that it is
  written from**;
* `HookBridge.ChannelTopic.Written.unique` — there is one way to take it apart;
* `HookBridge.ChannelTopic.parse_grammar` — what is read, what is refused, and both at most once.
-/

import HookBridge.Topic
import Mathlib.Data.List.Basic
import Mathlib.Data.List.TakeWhile

set_option relaxedAutoImplicit false
set_option autoImplicit false

namespace HookBridge

namespace ChannelTopic

/-! ### The parts of a topic -/

/-- A letter or a digit of ASCII, `_` or `-`. -/
def IsIdChar (c : Char) : Prop :=
  ('A' ≤ c ∧ c ≤ 'Z') ∨ ('a' ≤ c ∧ c ≤ 'z') ∨ ('0' ≤ c ∧ c ≤ '9') ∨ c = '_' ∨ c = '-'

/-- The identifier of a channel: at least one character, and none but those of identifiers. -/
structure IsChannelId (channel : String) : Prop where
  ne_empty : channel ≠ ""
  chars : ∀ c ∈ channel.toList, IsIdChar c

/-- `IsPathPart path part`: behind `/messages`, the path is written as `part`. -/
inductive IsPathPart : String → String → Prop
  /-- nothing is written, and the path is empty -/
  | absent : IsPathPart "" ""
  /-- a slash is written, and then the path up to a question mark -/
  | given {path : String} (h : '?' ∉ path.toList) : IsPathPart path ("/" ++ path)

/-- What may be written at the end of a topic: nothing, or a query on one line. -/
inductive IsQueryPart : String → Prop
  | absent : IsQueryPart ""
  | given {text : String} (h : '\n' ∉ text.toList) : IsQueryPart ("?" ++ text)

/-- The topic is written from a channel, from `part` for the path, and from `query`. -/
structure Written (topic channel path part query : String) : Prop where
  topic_eq : topic = "/channels/" ++ channel ++ "/messages" ++ part ++ query
  channel : IsChannelId channel
  path : IsPathPart path part
  query : IsQueryPart query

/-! ### Reading the parts -/

theorem isIdChar_iff (c : Char) : isIdChar c = true ↔ IsIdChar c := by
  have hranges : isIdChar c = (decide ('A' ≤ c ∧ c ≤ 'Z') ||
      (decide ('a' ≤ c) && decide (c ≤ 'z')) || (decide ('0' ≤ c) && decide (c ≤ '9')) ||
      c == '_' || c == '-') := rfl
  simp only [hranges, Bool.or_eq_true, Bool.and_eq_true, decide_eq_true_eq, beq_iff_eq, IsIdChar,
    or_assoc]

theorem isChannelId_iff (channel : String) :
    IsChannelId channel ↔ channel ≠ "" ∧ channel.toList.all isIdChar = true := by
  simp only [List.all_eq_true, isIdChar_iff]
  exact ⟨fun h => ⟨h.ne_empty, h.chars⟩, fun h => ⟨h.1, h.2⟩⟩

instance : DecidablePred IsChannelId := fun channel =>
  decidable_of_iff _ (isChannelId_iff channel).symm

/-- An identifier ends where something else begins. -/
theorem not_isIdChar_slash : ¬ isIdChar '/' = true := by decide

theorem isQuery_iff (text : List Char) :
    isQuery text = true ↔ IsQueryPart (String.ofList text) := by
  constructor
  · intro h
    cases text with
    | nil => exact IsQueryPart.absent
    | cons c rest =>
        simp only [isQuery, Bool.and_eq_true, beq_iff_eq, Bool.not_eq_true',
          List.contains_eq_mem, decide_eq_false_iff_not] at h
        obtain ⟨rfl, hline⟩ := h
        have heq : String.ofList ('?' :: rest) = "?" ++ String.ofList rest := by
          rw [← String.toList_inj]
          simp
        rw [heq]
        exact IsQueryPart.given (by simpa using hline)
  · intro h
    generalize hq : String.ofList text = query at h
    obtain rfl : text = query.toList := by rw [← hq, String.toList_ofList]
    cases h with
    | absent => rfl
    | @given text hline => simpa [isQuery] using hline

/-- A query begins with a question mark, if there is one. -/
theorem IsQueryPart.head {query : String} (h : IsQueryPart query) :
    query.toList = [] ∨ ∃ rest, query.toList = '?' :: rest := by
  cases h with
  | absent => exact Or.inl rfl
  | @given text _ => exact Or.inr ⟨text.toList, by simp⟩

/-- The path and the query are told apart as they were put together. -/
theorem splitPath_of_parts {path part query : String} (hpath : IsPathPart path part)
    (hquery : IsQueryPart query) :
    splitPath (part.toList ++ query.toList) = (path.toList, query.toList) := by
  cases hpath with
  | absent =>
      rcases hquery.head with hq | ⟨rest, hq⟩
      · simp [hq, splitPath]
      · simp [hq, splitPath]
  | given hmark =>
      have hfree : ∀ c ∈ path.toList, (c != '?') = true := by
        intro c hc
        rw [bne_iff_ne]
        rintro rfl
        exact hmark hc
      have hread : ("/" ++ path).toList ++ query.toList = '/' :: (path.toList ++ query.toList) := by
        simp
      rw [hread, splitPath, List.takeWhile_append_of_pos hfree, List.dropWhile_append_of_pos hfree]
      rcases hquery.head with hq | ⟨rest, hq⟩
      · simp [hq]
      · simp [hq]

/-- What is told apart was put together from a path and the rest. -/
theorem parts_of_splitPath (text : List Char) :
    ∃ part, text = part.toList ++ (splitPath text).2 ∧
      IsPathPart (String.ofList (splitPath text).1) part := by
  rw [splitPath.eq_def]
  split
  · next rest =>
      refine ⟨"/" ++ String.ofList (rest.takeWhile (· != '?')), ?_, IsPathPart.given ?_⟩
      · simp
      · rw [String.toList_ofList]
        intro hmark
        simpa using List.mem_takeWhile_imp hmark
  · exact ⟨"", by simp, IsPathPart.absent⟩

/-! ### Reading a topic -/

/-- A topic that is written from parts is read as these parts. -/
theorem Written.parse? {topic channel path part query : String}
    (h : Written topic channel path part query) :
    parse? topic = some ⟨channel, path⟩ := by
  obtain ⟨rfl, ⟨hne, hchars⟩, hpath, hquery⟩ := h
  have hid : ∀ c ∈ channel.toList, isIdChar c = true := fun c hc => (isIdChar_iff c).2 (hchars c hc)
  have hroot : "/channels/".toList.isPrefixOf?
      ("/channels/" ++ channel ++ "/messages" ++ part ++ query).toList
        = some (channel.toList ++ ("/messages".toList ++ (part.toList ++ query.toList))) := by
    rw [List.isPrefixOf?_eq_some_iff_append_eq]
    simp only [String.toList_append, List.append_assoc]
  -- the identifier ends at the slash of `/messages`
  have htake : (channel.toList ++ ("/messages".toList ++ (part.toList ++ query.toList))).takeWhile
      isIdChar = channel.toList := by
    rw [List.takeWhile_append_of_pos hid]
    simp [List.takeWhile_cons_of_neg not_isIdChar_slash]
  have hdrop : (channel.toList ++ ("/messages".toList ++ (part.toList ++ query.toList))).dropWhile
      isIdChar = "/messages".toList ++ (part.toList ++ query.toList) := by
    rw [List.dropWhile_append_of_pos hid]
    exact List.dropWhile_cons_of_neg not_isIdChar_slash
  have hmessages : "/messages".toList.isPrefixOf?
      ("/messages".toList ++ (part.toList ++ query.toList)) = some (part.toList ++ query.toList) :=
    List.isPrefixOf?_eq_some_iff_append_eq.2 rfl
  have hempty : channel.toList.isEmpty = false := by simpa using hne
  have hq : isQuery query.toList = true := by
    rw [isQuery_iff, String.ofList_toList]
    exact hquery
  rw [ChannelTopic.parse?, hroot]
  dsimp only
  rw [htake, hdrop, hmessages]
  dsimp only
  rw [splitPath_of_parts hpath hquery, hempty, hq]
  simp

/-- What is read as a topic is written from parts. -/
theorem written_of_parse? {topic : String} {address : ChannelTopic}
    (h : parse? topic = some address) :
    ∃ part query, Written topic address.channel address.path part query := by
  rw [parse?] at h
  split at h
  · exact absurd h (by simp)
  next afterRoot hroot =>
  split at h
  · exact absurd h (by simp)
  next afterChannel hmessages =>
  split at h
  next path query hsplit =>
  dsimp only at h
  split at h
  · exact absurd h (by simp)
  next hok =>
  obtain rfl := Option.some.inj h
  simp only [Bool.or_eq_true, List.isEmpty_iff, Bool.not_eq_true', not_or, Bool.not_eq_false] at hok
  obtain ⟨hne, hquery⟩ := hok
  obtain ⟨part, hpart, hpath⟩ := parts_of_splitPath afterChannel
  rw [hsplit] at hpart hpath
  rw [List.isPrefixOf?_eq_some_iff_append_eq] at hroot hmessages
  have hwhole : topic.toList = "/channels/".toList ++
      (afterRoot.takeWhile isIdChar ++ ("/messages".toList ++ (part.toList ++ query))) := by
    rw [← hpart, hmessages, List.takeWhile_append_dropWhile, hroot]
  refine ⟨part, String.ofList query, ?_, ⟨?_, ?_⟩, hpath, (isQuery_iff query).1 hquery⟩
  · rw [← String.toList_inj, hwhole]
    simp only [String.toList_append, String.toList_ofList, List.append_assoc]
  · simpa [← String.toList_inj] using hne
  · intro c hc
    rw [String.toList_ofList] at hc
    exact (isIdChar_iff c).1 (List.mem_takeWhile_imp hc)

/-- **Reading a topic finds the parts that it is written from.** -/
theorem parse?_eq_some_iff {topic channel path : String} :
    parse? topic = some ⟨channel, path⟩ ↔ ∃ part query, Written topic channel path part query := by
  constructor
  · exact written_of_parse?
  · rintro ⟨part, query, h⟩
    exact h.parse?

/-! ### One way to take a topic apart -/

/-- With the path and the whole known, what is written for the path is known. -/
theorem IsPathPart.unique {path part part' query query' : String} (h : IsPathPart path part)
    (h' : IsPathPart path part') (hq : IsQueryPart query) (hq' : IsQueryPart query')
    (heq : part ++ query = part' ++ query') : part = part' := by
  have hlist : part.toList ++ query.toList = part'.toList ++ query'.toList := by
    rw [← String.toList_append, heq, String.toList_append]
  cases h with
  | absent =>
      -- a slash on the other side would have to be the first character of a query
      cases h' with
      | absent => rfl
      | given _ => rcases hq.head with hh | ⟨rest, hh⟩ <;> simp [hh] at hlist
  | given _ =>
      generalize hp : path = path' at h'
      cases h' with
      | absent => rcases hq'.head with hh | ⟨rest, hh⟩ <;> simp [hh] at hlist
      | given _ => rfl

/-- **There is one way to take a topic apart.** -/
theorem Written.unique {topic channel path part query channel' path' part' query' : String}
    (h : Written topic channel path part query) (h' : Written topic channel' path' part' query') :
    channel = channel' ∧ path = path' ∧ part = part' ∧ query = query' := by
  -- channel and path are what is read
  have hread : (⟨channel, path⟩ : ChannelTopic) = ⟨channel', path'⟩ :=
    Option.some.inj (h.parse?.symm.trans h'.parse?)
  obtain ⟨rfl, rfl⟩ := ChannelTopic.mk.inj hread
  have hends : part ++ query = part' ++ query' := by
    have heq := h.topic_eq.symm.trans h'.topic_eq
    simpa only [String.append_assoc, String.append_right_inj] using heq
  obtain rfl := h.path.unique h'.path h.query h'.query hends
  exact ⟨rfl, rfl, rfl, (String.append_right_inj part).1 hends⟩

/-! ### The grammar -/

/-- **The grammar of topics.**  A topic is read as a channel and a path exactly if it is written
from them; whatever is written in no such way is refused as a malformed topic; and nothing is
written in two ways. -/
theorem parse_grammar (topic : String) :
    (∀ channel path, parse topic = .ok ⟨channel, path⟩ ↔
      ∃ part query, Written topic channel path part query) ∧
    (parse topic = .error (.malformedTopic ("\"" ++ topic ++ "\" is not a channel topic")) ↔
      ¬ ∃ channel path part query, Written topic channel path part query) ∧
    (∀ channel path part query channel' path' part' query',
      Written topic channel path part query → Written topic channel' path' part' query' →
        channel = channel' ∧ path = path' ∧ part = part' ∧ query = query') := by
  refine ⟨?_, ?_, fun _ _ _ _ _ _ _ _ => Written.unique⟩
  · intro channel path
    rw [← parse?_eq_some_iff, parse]
    cases parse? topic <;> simp
  · have hnone : parse? topic = none ↔ ¬ ∃ channel path part query,
        Written topic channel path part query := by
      rw [Option.eq_none_iff_forall_ne_some, not_exists]
      refine ⟨fun h channel => ?_, fun h address => ?_⟩
      · rintro ⟨path, hwritten⟩
        exact h ⟨channel, path⟩ (parse?_eq_some_iff.2 hwritten)
      · intro haddress
        exact h address.channel ⟨address.path, parse?_eq_some_iff.1 haddress⟩
    rw [← hnone, parse]
    cases parse? topic <;> simp

/-- A path with a line break and another `/messages`, and a query with slashes and question marks,
which begins at the first of them. -/
theorem parse_grammar_line_break :
    let topic := "/channels/c-_9Z/messages//a/messages\n?b?/c"
    Written topic "c-_9Z" "/a/messages\n" "//a/messages\n" "?b?/c" ∧
      parse topic = .ok ⟨"c-_9Z", "/a/messages\n"⟩ ∧
      ¬ Written topic "c-_9Z" "/a/messages\n?b" "//a/messages\n?b" "?/c" := by
  intro topic
  have hid : IsChannelId "c-_9Z" := by decide
  have hw : Written topic "c-_9Z" "/a/messages\n" "//a/messages\n" "?b?/c" :=
    ⟨by decide, hid, @IsPathPart.given "/a/messages\n" (by decide),
      @IsQueryPart.given "b?/c" (by decide)⟩
  refine ⟨hw, ((parse_grammar topic).1 _ _).2 ⟨_, _, hw⟩, ?_⟩
  intro hw'
  exact absurd ((parse_grammar topic).2.2 _ _ _ _ _ _ _ _ hw hw').2.2.2 (by decide)

end ChannelTopic

end HookBridge
