/-
**Subtopics in parts.**

Levels on both sides of a separator do not know of each other, however the separator is written.  So
a path in two parts has a canonical form exactly if both parts have one, and then it is made of
theirs: of both with a dot between them, or of one alone if the other has no level.  Nothing that is
wrong with a part is put right by what stands next to it: an escape that breaks off in front of the
separator, the first bytes of a character that ends behind it, a wild card next to it.

Main definitions:

* `HookBridge.Subtopic.separatorSpellings` — the ways to write a separator.

Main results:

* `HookBridge.Subtopic.join_levels_append` — the levels of two texts, joined;
* `HookBridge.Subtopic.normalize_append_eq_ok_iff` — the canonical form of a path in two parts;
* `HookBridge.Subtopic.normalize_append` — **a path in two parts**, all of it.
-/

import HookBridge.Proofs.Subtopic
import HookBridge.Proofs.Text.Concat

set_option relaxedAutoImplicit false
set_option autoImplicit false

namespace HookBridge

namespace Subtopic

/-! ### Separators -/

/-- The ways to write a separator: as it is, or as an escape with a digit of either case. -/
def separatorSpellings : List String := ["/", ".", "%2F", "%2f", "%2E", "%2e"]

/-- A path can be cut at any of its separators. -/
theorem isMark_of_isSeparator {c : Char} (h : isSeparator c = true) : Percent.IsMark c := by
  rcases isSeparator_iff.1 h with rfl | rfl
  · exact ⟨0x2F, by decide, by decide, by decide⟩
  · exact ⟨0x2E, by decide, by decide, by decide⟩

/-- Each of these ways is a spelling of a slash or of a dot. -/
theorem exists_spells_separator {x : String} (hx : x ∈ separatorSpellings) :
    ∃ c, isSeparator c = true ∧ Percent.Spells c x.toList := by
  simp only [separatorSpellings, List.mem_cons, List.not_mem_nil, or_false] at hx
  rcases hx with rfl | rfl | rfl | rfl | rfl | rfl
  · exact ⟨'/', by decide, .plain (by decide)⟩
  · exact ⟨'.', by decide, .plain (by decide)⟩
  · exact ⟨'/', by decide, .escaped (.cons (.inl rfl) (.inr rfl) .nil)⟩
  · exact ⟨'/', by decide, .escaped (.cons (.inl rfl) (.inl rfl) .nil)⟩
  · exact ⟨'.', by decide, .escaped (.cons (.inl rfl) (.inr rfl) .nil)⟩
  · exact ⟨'.', by decide, .escaped (.cons (.inl rfl) (.inl rfl) .nil)⟩

/-! ### Joined levels -/

theorem intercalate_append {α : Type} (sep : List α) {xs ys : List (List α)} (hxs : xs ≠ [])
    (hys : ys ≠ []) :
    sep.intercalate (xs ++ ys) = sep.intercalate xs ++ sep ++ sep.intercalate ys := by
  induction xs with
  | nil => exact absurd rfl hxs
  | cons x xs ih =>
      rw [List.cons_append, List.intercalate_cons_of_ne_nil (by simp [hys])]
      by_cases hnil : xs = []
      · simp [hnil]
      · rw [ih hnil, List.intercalate_cons_of_ne_nil hnil]
        simp only [List.append_assoc]

/-- Of levels there is something to be seen when they are joined. -/
theorem intercalate_levels_eq_nil_iff (text : List Char) :
    ['.'].intercalate (levels text) = [] ↔ levels text = [] := by
  constructor
  · intro h
    cases hls : levels text with
    | nil => rfl
    | cons level rest =>
        have hne := (mem_levels (hls ▸ List.mem_cons_self : level ∈ levels text)).1
        rw [hls] at h
        by_cases hrest : rest = []
        · exact absurd (by simpa [hrest] using h) hne
        · rw [List.intercalate_cons_of_ne_nil hrest] at h
          exact absurd (List.append_eq_nil_iff.1 (List.append_eq_nil_iff.1 h).1).1 hne
  · intro h
    rw [h]
    rfl

/-- The levels of two texts, joined, are what is to be seen of each of them, with a dot between if
this is something of both. -/
theorem join_levels_append (text text' : List Char) :
    join (levels text ++ levels text') =
      join ([(join (levels text)).toList, (join (levels text')).toList].filter (!·.isEmpty)) := by
  rw [← String.toList_inj, toList_join, toList_join, toList_join, toList_join]
  by_cases h : levels text = []
  · by_cases h' : levels text' = []
    · simp [h, h']
    · have hne := mt (intercalate_levels_eq_nil_iff text').1 h'
      simp [h, hne]
  · have hne := mt (intercalate_levels_eq_nil_iff text).1 h
    by_cases h' : levels text' = []
    · simp [h', hne]
    · have hne' := mt (intercalate_levels_eq_nil_iff text').1 h'
      rw [intercalate_append _ h h']
      simp [hne, hne', List.intercalate_cons_of_ne_nil]

/-! ### Paths in two parts -/

/-- The canonical form of a path in two parts: both parts have one, and it is made of theirs. -/
theorem normalize_append_eq_ok_iff {c : Char} (hc : isSeparator c = true) {x : String}
    (hx : Percent.Spells c x.toList) (raw raw' s : String) :
    normalize (raw ++ x ++ raw') = .ok s ↔
      ∃ front back, normalize raw = .ok front ∧ normalize raw' = .ok back ∧
        s = join ([front.toList, back.toList].filter (!·.isEmpty)) := by
  have hlevels : ∀ before after : String,
      levels (before ++ String.singleton c ++ after).toList =
        levels before.toList ++ levels after.toList := by
    intro before after
    rw [← levels_append_separator hc]
    simp
  simp only [normalize_eq_ok_iff, Percent.unescape?_append_mark (isMark_of_isSeparator hc) hx]
  constructor
  · rintro ⟨_, ⟨before, after, hbefore, hafter, rfl⟩, hmixed, rfl⟩
    rw [hlevels, List.forall_mem_append] at hmixed
    rw [hlevels, join_levels_append]
    exact ⟨_, _, ⟨before, hbefore, hmixed.1, rfl⟩, ⟨after, hafter, hmixed.2, rfl⟩, rfl⟩
  · rintro ⟨_, _, ⟨before, hbefore, hmixed, rfl⟩, ⟨after, hafter, hmixed', rfl⟩, rfl⟩
    refine ⟨_, ⟨before, after, hbefore, hafter, rfl⟩, ?_, ?_⟩
    · rw [hlevels, List.forall_mem_append]
      exact ⟨hmixed, hmixed'⟩
    · rw [hlevels, join_levels_append]

/-- **A path in two parts**, with a separator between them that is written in any way, has a
canonical form exactly if both parts have one.  Then it is made of theirs, with a dot between them
if both have levels; and otherwise the subtopic is malformed. -/
theorem normalize_append (raw raw' : String) {x : String} (hx : x ∈ separatorSpellings) :
    ((∃ s, normalize (raw ++ x ++ raw') = .ok s) ↔
      (∃ front, normalize raw = .ok front) ∧ ∃ back, normalize raw' = .ok back) ∧
    (∀ front back, normalize raw = .ok front → normalize raw' = .ok back →
      normalize (raw ++ x ++ raw') =
        .ok (join ([front.toList, back.toList].filter (!·.isEmpty)))) ∧
    ((∃ fault, normalize raw = .error fault) ∨ (∃ fault, normalize raw' = .error fault) →
      ∃ fault detail, normalize (raw ++ x ++ raw') = .error fault ∧
        fault.toError = .malformedSubtopic detail) := by
  obtain ⟨c, hc, hspells⟩ := exists_spells_separator hx
  have hiff := normalize_append_eq_ok_iff hc hspells raw raw'
  refine ⟨?_, ?_, ?_⟩
  · constructor
    · rintro ⟨s, hs⟩
      obtain ⟨front, back, hfront, hback, -⟩ := (hiff s).1 hs
      exact ⟨⟨front, hfront⟩, back, hback⟩
    · rintro ⟨⟨front, hfront⟩, back, hback⟩
      exact ⟨_, (hiff _).2 ⟨front, back, hfront, hback, rfl⟩⟩
  · intro front back hfront hback
    exact (hiff _).2 ⟨front, back, hfront, hback, rfl⟩
  · intro hfault
    cases hnormalize : normalize (raw ++ x ++ raw') with
    | error fault => exact ⟨fault, fault.detail, rfl, rfl⟩
    | ok s =>
        obtain ⟨front, back, hfront, hback, -⟩ := (hiff s).1 hnormalize
        rcases hfault with ⟨fault, hfault⟩ | ⟨fault, hfault⟩
        · exact absurd (hfront.symm.trans hfault) (by simp)
        · exact absurd (hback.symm.trans hfault) (by simp)

/-- A `+` in front of an escaped slash, and a wild card behind it; and a character of two bytes that
an escaped slash cuts in two. -/
theorem normalize_append_escaped :
    "%2f" ∈ separatorSpellings ∧ normalize ("/a+" ++ "%2f" ++ "*/b") = .ok "a .*.b" ∧
      ∃ fault detail, normalize ("a%C3" ++ "%2f" ++ "%A9") = .error fault ∧
        fault.toError = .malformedSubtopic detail := by
  have hx : "%2f" ∈ separatorSpellings := by decide
  refine ⟨hx, ?_, ?_⟩
  · exact (normalize_append "/a+" "*/b" hx).2.1 "a " "*.b" (by rfl) (by rfl)
  · exact (normalize_append "a%C3" "%A9" hx).2.2 (.inl ⟨.notText "a%C3", by rfl⟩)

end Subtopic

end HookBridge
