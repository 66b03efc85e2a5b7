/-
**Addresses that can be published to.**

A message is addressed by the identifier of a channel and a canonical subtopic, and the client
writes both into one topic.  It may write the subtopic in many ways: any character as it is or as
escapes, and a slash or a dot between two levels, escaped or not.  This module shows that all these
ways lead to the subtopic that was meant, and that no topic leads anywhere else: the addresses that
a message can have are the identifiers of channels together with the canonical subtopics, and no
others.

Main definitions:

* `HookBridge.Subtopic.IsCanonical` — a subtopic as the bus knows it;
* `HookBridge.Subtopic.Spelled` — a subtopic is written in one of its spellings;
* `HookBridge.HookRequest.CanReach` — some request to publish leads to a message for an address.

Main results:

* `HookBridge.Subtopic.levels_join` — the levels of a canonical subtopic are those that it was
  joined from;
* `HookBridge.Subtopic.normalize_of_spelled` — **every spelling of a canonical subtopic leads back
  to it**;
* `HookBridge.Subtopic.isCanonical_of_normalize` — and every path to a canonical one;
* `HookBridge.HookRequest.reached_addresses` — the way there and back, and the addresses that can be
  reached.
-/

import HookBridge.Proofs.Hook.Inquiry
import HookBridge.Proofs.Subtopic
import HookBridge.Proofs.Text.Spelling
import HookBridge.Proofs.Topic
import HookBridge.Scripted

set_option relaxedAutoImplicit false
set_option autoImplicit false

namespace HookBridge

/-! ### Canonical subtopics -/

namespace Subtopic

/-- A subtopic as the bus knows it: any number of levels, joined with dots. -/
def IsCanonical (subtopic : String) : Prop :=
  ∃ levels, (∀ level ∈ levels, IsLevel level) ∧ subtopic = join levels

theorem IsLevel.no_separator {level : List Char} (h : IsLevel level) :
    ∀ c ∈ level, isSeparator c = false := by
  intro c hc
  rw [Bool.eq_false_iff, ne_eq, isSeparator_iff]
  rintro (rfl | rfl)
  · exact h.no_slash hc
  · exact h.no_dot hc

theorem IsLevel.not_isMixedRun {level : List Char} (h : IsLevel level) : ¬ IsMixedRun level := by
  rintro ⟨hlength, hwild⟩
  have hone : ∃ c, level = [c] := by
    rcases hwild with hc | hc
    · exact ⟨_, h.wildcard _ hc (Or.inl rfl)⟩
    · exact ⟨_, h.wildcard _ hc (Or.inr rfl)⟩
  obtain ⟨c, rfl⟩ := hone
  exact absurd hlength (by simp)

/-- The levels of a canonical subtopic are those that it was joined from. -/
theorem levels_join {ls : List (List Char)} (h : ∀ level ∈ ls, IsLevel level) :
    levels (join ls).toList = ls := by
  rw [toList_join]
  induction ls with
  | nil => exact levels_nil
  | cons level rest ih =>
      obtain ⟨hlevel, hrest⟩ := List.forall_mem_cons.1 h
      have hone : levels level = [level] := levels_of_run hlevel.ne_nil hlevel.no_separator
      cases rest with
      | nil => simpa [List.intercalate] using hone
      | cons next rest =>
          have hjoin : ['.'].intercalate (level :: next :: rest) =
              level ++ '.' :: ['.'].intercalate (next :: rest) := by
            simp [List.intercalate, List.intersperse]
          rw [hjoin, levels_append_separator (by decide), hone, ih hrest]
          rfl

/-- Every path that has a canonical form has one that the bus knows. -/
theorem isCanonical_of_normalize {path subtopic : String} (h : normalize path = .ok subtopic) :
    IsCanonical subtopic := by
  obtain ⟨text, -, hmixed, rfl⟩ := (normalize_eq_ok_iff path subtopic).1 h
  exact ⟨levels text.toList, fun level hl => isLevel_of_mem_levels hl (hmixed level hl), rfl⟩

/-! ### Spellings -/

/-- `Spelled subtopic raw`: every character of the subtopic is written in one of its spellings, and
every dot in one of those of a slash or of a dot. -/
inductive Spelled : List Char → List Char → Prop
  | nil : Spelled [] []
  | char {c : Char} {text cs raw : List Char} (hc : c ≠ '.') (h : Percent.Spells c text)
      (hrest : Spelled cs raw) : Spelled (c :: cs) (text ++ raw)
  | separator {c : Char} {text cs raw : List Char} (hc : c = '/' ∨ c = '.')
      (h : Percent.Spells c text) (hrest : Spelled cs raw) : Spelled ('.' :: cs) (text ++ raw)

/-- A slash is as good as a dot. -/
def dotted (c : Char) : Char := if c = '/' then '.' else c

@[simp] theorem isSeparator_dotted (c : Char) : isSeparator (dotted c) = isSeparator c := by
  by_cases h : c = '/'
  · subst h
    decide
  · rw [dotted, if_neg h]

theorem dotted_of_no_separator {c : Char} (h : isSeparator c = false) : dotted c = c := by
  rw [dotted, if_neg]
  rintro rfl
  exact absurd h (by decide)

/-- A text without separators has no slash to write a dot for. -/
theorem map_dotted_of_no_separator {text : List Char} (h : ∀ c ∈ text, isSeparator c = false) :
    text.map dotted = text :=
  calc text.map dotted = text.map id :=
        List.map_congr_left fun c hc => dotted_of_no_separator (h c hc)
    _ = text := List.map_id text

theorem Runs.map_dotted {text : List Char} {runs : List (List Char)} (h : Runs text runs) :
    Runs (text.map dotted) runs := by
  induction h with
  | done hgap => exact Runs.done (by simpa using hgap)
  | @run gap run rest runs hgap hne hrun hend hrest ih =>
      rw [List.map_append, List.map_append, map_dotted_of_no_separator hrun]
      exact Runs.run (by simpa using hgap) hne hrun (by simpa using hend) ih

/-- Levels do not know whether a slash or a dot is between them. -/
theorem levels_map_dotted (text : List Char) : levels (text.map dotted) = levels text :=
  (runs_iff.1 (runs_iff.2 rfl : Runs text (levels text)).map_dotted).symm

/-- A spelling is read as a text that differs from the subtopic in slashes and dots at most. -/
theorem Spelled.reads {subtopic raw : List Char} (h : Spelled subtopic raw) :
    ∃ text : List Char, Percent.Reads (raw.flatMap String.utf8EncodeChar)
        (text.flatMap String.utf8EncodeChar) ∧ text.map dotted = subtopic.map dotted := by
  induction h with
  | nil => exact ⟨[], Percent.Reads.nil, rfl⟩
  | @char c text cs raw hc h hrest ih =>
      obtain ⟨rest, hreads, hsame⟩ := ih
      refine ⟨c :: rest, ?_, by simp [hsame]⟩
      rw [List.flatMap_append, List.flatMap_cons]
      exact h.reads.append hreads
  | @separator c text cs raw hc h hrest ih =>
      obtain ⟨rest, hreads, hsame⟩ := ih
      refine ⟨c :: rest, ?_, ?_⟩
      · rw [List.flatMap_append, List.flatMap_cons]
        exact h.reads.append hreads
      · rcases hc with rfl | rfl <;> simp [hsame, dotted]

/-- **Every spelling of a canonical subtopic leads back to it.** -/
theorem normalize_of_spelled {subtopic raw : String} (hcanonical : IsCanonical subtopic)
    (h : Spelled subtopic.toList raw.toList) : normalize raw = .ok subtopic := by
  obtain ⟨ls, hlevels, rfl⟩ := hcanonical
  obtain ⟨text, hreads, hsame⟩ := h.reads
  have hunescape : Percent.unescape? raw = .ok (String.ofList text) :=
    Percent.Reads.unescape?_eq_ok (by rwa [Utf8.encode, Utf8.encode, String.toList_ofList])
  have htext : levels text = ls := by
    rw [← levels_map_dotted, hsame, levels_map_dotted, levels_join hlevels]
  refine (normalize_eq_ok_iff raw _).2 ⟨_, hunescape, ?_, ?_⟩
  · rw [String.toList_ofList, htext]
    exact fun level hl => (hlevels level hl).not_isMixedRun
  · rw [String.toList_ofList, htext]

/-- No spelling holds a question mark, with which the path would end. -/
theorem Spelled.no_mark {subtopic raw : List Char} (h : Spelled subtopic raw) : '?' ∉ raw := by
  induction h with
  | nil => simp
  | char hc h hrest ih => simpa using ⟨h.no_mark, ih⟩
  | separator hc h hrest ih => simpa using ⟨h.no_mark, ih⟩

/-- Every subtopic has a spelling. -/
theorem exists_spelled (subtopic : List Char) : ∃ raw, Spelled subtopic raw := by
  induction subtopic with
  | nil => exact ⟨[], Spelled.nil⟩
  | cons c cs ih =>
      obtain ⟨raw, hraw⟩ := ih
      obtain ⟨text, htext⟩ := Percent.exists_spells c
      by_cases hc : c = '.'
      · subst hc
        exact ⟨_, Spelled.separator (Or.inr rfl) htext hraw⟩
      · exact ⟨_, Spelled.char hc htext hraw⟩

end Subtopic

/-! ### Topics of spelled subtopics -/

/-- A topic with a spelled subtopic is read as its channel and that spelling. -/
theorem ChannelTopic.parse_of_spelled {channel raw : String} {subtopic : List Char}
    (hchannel : IsChannelId channel) (h : Subtopic.Spelled subtopic raw.toList) :
    parse ("/channels/" ++ channel ++ "/messages/" ++ raw) = .ok ⟨channel, raw⟩ := by
  rw [parse_eq_ok_iff, parse?_eq_some_iff]
  refine ⟨"/" ++ raw, "", ?_, hchannel, IsPathPart.given h.no_mark, IsQueryPart.absent⟩
  have hslash : ("/messages/" : String) = "/messages" ++ "/" := by decide
  rw [hslash]
  simp only [String.append_assoc, String.append_empty]

/-! ### Addresses that can be reached -/

namespace HookRequest

/-- Some request to publish leads to a message for the address, whoever sends it and whatever it
says, with some things service behind the bridge. -/
def CanReach (channel subtopic : String) : Prop :=
  ∃ (script : Script) (timeout : Duration) (s : Script.State) (username topic contentType : String)
    (payload : Bytes) (m : Message),
    ((publish username topic payload contentType).decision (script.authorizer timeout) s).result =
        .ok (.publish m) ∧
      m.channel = channel ∧ m.subtopic = subtopic

/-- A message is addressed by what its topic and its path are read as. -/
theorem address_of_decision {σ : Type} {a : Authorizer σ} {s : σ}
    {username topic contentType : String} {payload : Bytes} {m : Message}
    (h : ((publish username topic payload contentType).decision a s).result = .ok (.publish m)) :
    ∃ path, ChannelTopic.parse topic = .ok ⟨m.channel, path⟩ ∧
      Subtopic.normalize path = .ok m.subtopic := by
  rw [decision] at h
  cases hparse : ChannelTopic.parse topic with
  | error error => simp [hparse, refuse] at h
  | ok address =>
      cases hnormalize : Subtopic.normalize address.path with
      | error fault => simp [hparse, hnormalize, refuse] at h
      | ok subtopic =>
          simp only [hparse, hnormalize, settle_eq_ok_iff] at h
          obtain ⟨thing, -, hm⟩ := h
          obtain rfl := Decision.publish.inj hm
          exact ⟨address.path, rfl, hnormalize⟩

/-- With a things service that lets everyone in, a request is published where its topic says. -/
theorem canReach_of_topic {topic channel path subtopic : String}
    (hparse : ChannelTopic.parse topic = .ok ⟨channel, path⟩)
    (hnormalize : Subtopic.normalize path = .ok subtopic) : CanReach channel subtopic := by
  refine ⟨⟨[], []⟩, .zero, .start, "key", topic, "", [],
    ⟨"u1", Message.mqtt, "", channel, subtopic, []⟩, ?_, rfl, rfl⟩
  simp only [decision, hparse, hnormalize]
  rfl

/-- **The addresses that can be reached.**  However a canonical subtopic is spelled behind the
identifier of a channel, the topic is read as this channel and a path whose canonical form is this
subtopic; every topic that is read at all leads to such a pair; and so these pairs are the addresses
that a message can have. -/
theorem reached_addresses :
    (∀ channel subtopic raw, ChannelTopic.IsChannelId channel → Subtopic.IsCanonical subtopic →
      Subtopic.Spelled subtopic.toList raw.toList →
        ∃ path, ChannelTopic.parse ("/channels/" ++ channel ++ "/messages/" ++ raw) =
            .ok ⟨channel, path⟩ ∧
          Subtopic.normalize path = .ok subtopic) ∧
    (∀ topic channel path subtopic, ChannelTopic.parse topic = .ok ⟨channel, path⟩ →
      Subtopic.normalize path = .ok subtopic →
        ChannelTopic.IsChannelId channel ∧ Subtopic.IsCanonical subtopic) ∧
    (∀ channel subtopic, CanReach channel subtopic ↔
      ChannelTopic.IsChannelId channel ∧ Subtopic.IsCanonical subtopic) := by
  have hthere : ∀ channel subtopic raw, ChannelTopic.IsChannelId channel →
      Subtopic.IsCanonical subtopic → Subtopic.Spelled subtopic.toList raw.toList →
        ∃ path, ChannelTopic.parse ("/channels/" ++ channel ++ "/messages/" ++ raw) =
            .ok ⟨channel, path⟩ ∧
          Subtopic.normalize path = .ok subtopic := by
    intro channel subtopic raw hchannel hcanonical hspelled
    exact ⟨raw, ChannelTopic.parse_of_spelled hchannel hspelled,
      Subtopic.normalize_of_spelled hcanonical hspelled⟩
  have hback : ∀ topic channel path subtopic, ChannelTopic.parse topic = .ok ⟨channel, path⟩ →
      Subtopic.normalize path = .ok subtopic →
        ChannelTopic.IsChannelId channel ∧ Subtopic.IsCanonical subtopic := by
    intro topic channel path subtopic hparse hnormalize
    obtain ⟨part, query, hwritten⟩ :=
      ChannelTopic.parse?_eq_some_iff.1 (ChannelTopic.parse_eq_ok_iff.1 hparse)
    exact ⟨hwritten.channel, Subtopic.isCanonical_of_normalize hnormalize⟩
  refine ⟨hthere, hback, ?_⟩
  intro channel subtopic
  constructor
  · rintro ⟨script, timeout, s, username, topic, contentType, payload, m, hm, rfl, rfl⟩
    obtain ⟨path, hparse, hnormalize⟩ := address_of_decision hm
    exact hback topic m.channel path m.subtopic hparse hnormalize
  · rintro ⟨hchannel, hcanonical⟩
    obtain ⟨raw, hraw⟩ := Subtopic.exists_spelled subtopic.toList
    obtain ⟨path, hparse, hnormalize⟩ := hthere channel subtopic (String.ofList raw) hchannel
      hcanonical (by rwa [String.toList_ofList])
    exact canReach_of_topic hparse hnormalize

/-- Escaped wild card, separator, plus sign and character of two bytes, with digits of either case,
and then a plain separator and a plain character. -/
theorem reached_addresses_escaped :
    let subtopic := "*.+é.x"
    let raw := "%2A%2f%2b%C3%a9/x"
    ChannelTopic.IsChannelId "c-_9Z" ∧ Subtopic.IsCanonical subtopic ∧
      Subtopic.Spelled subtopic.toList raw.toList ∧
      (∃ path, ChannelTopic.parse ("/channels/" ++ "c-_9Z" ++ "/messages/" ++ raw) =
          .ok ⟨"c-_9Z", path⟩ ∧
        Subtopic.normalize path = .ok subtopic) ∧
      CanReach "c-_9Z" subtopic := by
  intro subtopic raw
  have hchannel : ChannelTopic.IsChannelId "c-_9Z" := by decide
  have hlevel : ∀ level ∈ [['*'], ['+', 'é'], ['x']], Subtopic.IsLevel level := by
    simp only [List.forall_mem_cons, List.not_mem_nil, false_implies, implies_true, and_true]
    exact ⟨⟨by simp, by simp, by simp, by simp⟩, ⟨by simp, by simp, by simp, by simp⟩,
      ⟨by simp, by simp, by simp, by simp⟩⟩
  have hcanonical : Subtopic.IsCanonical subtopic := ⟨_, hlevel, by decide⟩
  have hstar : Percent.Spells '*' "%2A".toList := .escaped (.cons (.inl rfl) (.inr rfl) .nil)
  have hslash : Percent.Spells '/' "%2f".toList := .escaped (.cons (.inl rfl) (.inl rfl) .nil)
  have hplus : Percent.Spells '+' "%2b".toList := .escaped (.cons (.inl rfl) (.inl rfl) .nil)
  have haccent : Percent.Spells 'é' "%C3%a9".toList :=
    .escaped (.cons (.inr rfl) (.inl rfl) (.cons (.inl rfl) (.inl rfl) .nil))
  have hplain : Percent.Spells '/' ['/'] ∧ Percent.Spells 'x' ['x'] :=
    ⟨.plain (by decide), .plain (by decide)⟩
  have hpieces : Subtopic.Spelled ['*', '.', '+', 'é', '.', 'x'] _ :=
    .char (by decide) hstar (.separator (.inl rfl) hslash (.char (by decide) hplus
      (.char (by decide) haccent (.separator (.inl rfl) hplain.1 (.char (by decide) hplain.2
        .nil)))))
  have hspelled : Subtopic.Spelled subtopic.toList raw.toList := by
    simpa [subtopic, raw] using hpieces
  exact ⟨hchannel, hcanonical, hspelled,
    reached_addresses.1 "c-_9Z" subtopic raw hchannel hcanonical hspelled,
    (reached_addresses.2.2 "c-_9Z" subtopic).2 ⟨hchannel, hcanonical⟩⟩

end HookRequest

end HookBridge
