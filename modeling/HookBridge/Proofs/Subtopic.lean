/-
**The canonical form of a subtopic.**

The levels of a text are its maximal runs of characters that separate nothing.  This module says so
without splitting anything, by a relation between a text and its runs, and with it says what
`Subtopic.normalize` accepts, what it returns, and what every canonical subtopic looks like.

Main definitions:

* `HookBridge.Subtopic.Runs` — the maximal runs of a text without separators, in order;
* `HookBridge.Subtopic.IsMixedRun` — a wild card shares a run with other characters;
* `HookBridge.Subtopic.IsLevel` — what may stand between the dots of a canonical subtopic.

Main results:

* `HookBridge.Subtopic.runs_iff` — **the runs of a text are its levels**, and there is one list of
  them;
* `HookBridge.Subtopic.levels_append_separator` — levels on both sides of a separator do not know of
  each other;
* `HookBridge.Subtopic.normalize_eq_ok_iff`, `HookBridge.Subtopic.normalize_fails_iff` — what has a
  canonical form, and which;
* `HookBridge.Subtopic.normalize_canonical` — **the canonical form**, all of it.
-/

import HookBridge.Proofs.Text.Percent
import HookBridge.Subtopic

set_option relaxedAutoImplicit false
set_option autoImplicit false

namespace HookBridge

namespace Subtopic

/-! ### Runs -/

/-- `Runs text runs`: the maximal runs of `text` without separators are `runs`, in this order.  A
gap of separators may stand in front of each run, and must stand behind it unless the text ends. -/
inductive Runs : List Char → List (List Char) → Prop
  /-- nothing but separators is left -/
  | done {gap : List Char} (hgap : ∀ c ∈ gap, isSeparator c = true) : Runs gap []
  /-- behind a gap there is a run, and then a separator or the end -/
  | run {gap run rest : List Char} {runs : List (List Char)}
      (hgap : ∀ c ∈ gap, isSeparator c = true)
      (hne : run ≠ []) (hrun : ∀ c ∈ run, isSeparator c = false)
      (hend : ∀ c ∈ rest.head?, isSeparator c = true)
      (hrest : Runs rest runs) : Runs (gap ++ run ++ rest) (run :: runs)

/-- One more separator in front changes no run. -/
theorem Runs.cons_separator {c : Char} (hc : isSeparator c = true) {text : List Char}
    {runs : List (List Char)} (h : Runs text runs) : Runs (c :: text) runs := by
  cases h with
  | done hgap => exact Runs.done (List.forall_mem_cons.2 ⟨hc, hgap⟩)
  | run hgap hne hrun hend hrest =>
      rw [← List.cons_append, ← List.cons_append]
      exact Runs.run (List.forall_mem_cons.2 ⟨hc, hgap⟩) hne hrun hend hrest

/-- Another character in front of a separator, or of nothing, is a run of its own. -/
theorem Runs.cons_lone {c : Char} (hc : isSeparator c = false) {text : List Char}
    {runs : List (List Char)} (hend : ∀ d ∈ text.head?, isSeparator d = true)
    (h : Runs text runs) : Runs (c :: text) ([c] :: runs) :=
  @Runs.run [] [c] text runs (by simp) (by simp) (by simpa using hc) hend h

/-- Every text has a list of runs. -/
theorem exists_runs (text : List Char) : ∃ runs, Runs text runs := by
  induction text with
  | nil => exact ⟨[], Runs.done (by simp)⟩
  | cons c text ih =>
      obtain ⟨runs, h⟩ := ih
      cases hc : isSeparator c with
      | true => exact ⟨runs, h.cons_separator hc⟩
      | false =>
          -- the character is a run of its own unless a run begins right behind it
          cases h with
          | done hgap =>
              refine ⟨[[c]], Runs.cons_lone hc ?_ (Runs.done hgap)⟩
              intro d hd
              exact hgap d (List.mem_of_mem_head? hd)
          | @run gap run rest runs hgap hne hrun hend hrest =>
              cases gap with
              | nil =>
                  refine ⟨(c :: run) :: runs, ?_⟩
                  rw [List.nil_append, ← List.cons_append, ← List.nil_append (c :: run)]
                  exact Runs.run (by simp) (by simp) (List.forall_mem_cons.2 ⟨hc, hrun⟩) hend hrest
              | cons d gap =>
                  have hrest' := Runs.run hgap hne hrun hend hrest
                  refine ⟨[c] :: run :: runs, Runs.cons_lone hc ?_ hrest'⟩
                  simpa using (List.forall_mem_cons.1 hgap).1

/-! ### Levels -/

@[simp] theorem levels_nil : levels [] = [] := by simp [levels]

/-- **A separator is seen by neither side**: the levels in front of it and those behind it are the
levels of the whole. -/
theorem levels_append_separator {c : Char} (hc : isSeparator c = true) (before after : List Char) :
    levels (before ++ c :: after) = levels before ++ levels after := by
  rw [levels, List.splitOnP_append_cons before after hc, List.filter_append]
  rfl

theorem levels_cons_separator {c : Char} (hc : isSeparator c = true) (text : List Char) :
    levels (c :: text) = levels text := by
  simpa using levels_append_separator hc [] text

theorem levels_of_separators {gap : List Char} (h : ∀ c ∈ gap, isSeparator c = true)
    (text : List Char) : levels (gap ++ text) = levels text := by
  induction gap with
  | nil => rfl
  | cons c gap ih =>
      rw [List.cons_append, levels_cons_separator (h c (List.mem_cons_self ..))]
      exact ih fun d hd => h d (List.mem_cons_of_mem _ hd)

theorem levels_of_run {run : List Char} (hne : run ≠ []) (h : ∀ c ∈ run, isSeparator c = false) :
    levels run = [run] := by
  rw [levels, List.splitOnP_eq_singleton h]
  simp [hne]

/-- The runs of a text are its levels. -/
theorem Runs.eq_levels {text : List Char} {runs : List (List Char)} (h : Runs text runs) :
    runs = levels text := by
  induction h with
  | done hgap => simpa using (levels_of_separators hgap []).symm
  | @run gap run rest runs hgap hne hrun hend hrest ih =>
      rw [List.append_assoc, levels_of_separators hgap]
      -- the run reaches up to the end or up to a separator, which keeps the rest apart from it
      cases rest with
      | nil =>
          rw [List.append_nil, levels_of_run hne hrun, ih]
          simp
      | cons c rest =>
          have hc : isSeparator c = true := hend c rfl
          rw [levels_append_separator hc, levels_of_run hne hrun, ih, levels_cons_separator hc]
          rfl

/-- **The runs of a text are its levels**: there is one list of runs. -/
theorem runs_iff {text : List Char} {runs : List (List Char)} :
    Runs text runs ↔ runs = levels text := by
  constructor
  · exact Runs.eq_levels
  · rintro rfl
    obtain ⟨runs, h⟩ := exists_runs text
    rwa [← h.eq_levels]

/-- A level is a run of at least one character, none of which separates. -/
theorem mem_levels {text level : List Char} (h : level ∈ levels text) :
    level ≠ [] ∧ ∀ c ∈ level, isSeparator c = false := by
  -- along the runs and not along the text, in which a level may begin anywhere
  obtain ⟨runs, hruns⟩ := exists_runs text
  rw [← hruns.eq_levels] at h
  induction hruns with
  | done => simp at h
  | run hgap hne hrun hend hrest ih =>
      rcases List.mem_cons.1 h with rfl | h
      · exact ⟨hne, hrun⟩
      · exact ih h

/-! ### Wild cards -/

/-- A wild card shares a run with other characters. -/
def IsMixedRun (run : List Char) : Prop := 2 ≤ run.length ∧ ('*' ∈ run ∨ '>' ∈ run)

theorem isMixed_iff (level : List Char) : isMixed level = true ↔ IsMixedRun level := by
  simp [isMixed, IsMixedRun, isWildcard, and_or_left, exists_or, Nat.lt_iff_add_one_le]

/-- What may stand between the dots of a canonical subtopic: a wild card alone, or characters that
are neither wild cards nor separators. -/
structure IsLevel (level : List Char) : Prop where
  ne_nil : level ≠ []
  no_slash : '/' ∉ level
  no_dot : '.' ∉ level
  wildcard : ∀ c ∈ level, c = '*' ∨ c = '>' → level = [c]

/-- A run is a level of a canonical subtopic unless it is mixed. -/
theorem isLevel_of_mem_levels {text level : List Char} (h : level ∈ levels text)
    (hm : ¬ IsMixedRun level) : IsLevel level := by
  obtain ⟨hne, hfree⟩ := mem_levels h
  refine ⟨hne, ?_, ?_, ?_⟩
  · intro hc
    exact absurd (hfree _ hc) (by decide)
  · intro hc
    exact absurd (hfree _ hc) (by decide)
  · intro c hc hwild
    -- with a second character the run would be mixed
    have hlen : ¬ 2 ≤ level.length := by
      intro hlen
      rcases hwild with rfl | rfl
      · exact hm ⟨hlen, Or.inl hc⟩
      · exact hm ⟨hlen, Or.inr hc⟩
    match level with
    | [] => exact absurd rfl hne
    | [d] => rw [List.mem_singleton.1 hc]
    | d :: e :: rest => exact absurd (by simp) hlen

/-! ### The canonical form -/

theorem canonical_eq_ok_iff (text : List Char) (s : String) :
    canonical text = .ok s ↔
      (∀ run ∈ levels text, ¬ IsMixedRun run) ∧ s = join (levels text) := by
  have hfind : (levels text).find? isMixed = none ↔ ∀ run ∈ levels text, ¬ IsMixedRun run := by
    simp only [List.find?_eq_none, isMixed_iff]
  rw [← hfind, canonical]
  cases (levels text).find? isMixed <;> simp [eq_comm]

theorem canonical_fails_iff (text : List Char) :
    (∃ fault, canonical text = .error fault) ↔ ∃ run ∈ levels text, IsMixedRun run := by
  have hfind : ((levels text).find? isMixed).isSome ↔ ∃ run ∈ levels text, IsMixedRun run := by
    simp only [List.find?_isSome, isMixed_iff]
  rw [← hfind, canonical]
  cases (levels text).find? isMixed <;> simp

/-- What has a canonical form, and which. -/
theorem normalize_eq_ok_iff (raw s : String) :
    normalize raw = .ok s ↔
      ∃ text, Percent.unescape? raw = .ok text ∧
        (∀ run ∈ levels text.toList, ¬ IsMixedRun run) ∧ s = join (levels text.toList) := by
  rw [normalize]
  cases h : Percent.unescape? raw with
  | error fault => cases fault <;> simp
  | ok text => simp [canonical_eq_ok_iff]

/-- What has no canonical form. -/
theorem normalize_fails_iff (raw : String) :
    (∃ fault, normalize raw = .error fault) ↔
      (∃ fault, Percent.unescape? raw = .error fault) ∨
        ∃ text, Percent.unescape? raw = .ok text ∧ ∃ run ∈ levels text.toList, IsMixedRun run := by
  rw [normalize]
  cases h : Percent.unescape? raw with
  | error fault => cases fault <;> simp
  | ok text => simp [canonical_fails_iff]

@[simp] theorem toList_join (levels : List (List Char)) :
    (join levels).toList = ['.'].intercalate levels := by
  rw [join, String.toList_ofList]

/-- The levels between the dots of a canonical subtopic. -/
theorem splitOn_join_levels {text : List Char} (h : levels text ≠ []) :
    (join (levels text)).toList.splitOn '.' = levels text := by
  rw [toList_join]
  refine List.splitOn_intercalate '.' ?_ h
  intro level hlevel hdot
  exact absurd ((mem_levels hlevel).2 _ hdot) (by decide)

/-- The levels of a canonical subtopic that is not empty. -/
theorem isLevel_of_normalize {raw s : String} (h : normalize raw = .ok s) :
    s = "" ∨ ∀ level ∈ s.toList.splitOn '.', IsLevel level := by
  obtain ⟨text, -, hmixed, rfl⟩ := (normalize_eq_ok_iff raw s).1 h
  by_cases hnil : levels text.toList = []
  · rw [hnil]
    exact Or.inl rfl
  · right
    rw [splitOn_join_levels hnil]
    intro level hlevel
    exact isLevel_of_mem_levels hlevel (hmixed level hlevel)

/-- **The canonical form of a path.**  A path has none if one of its escapes is broken, if the bytes
behind its escapes are no text, or if a run of that text mixes a wild card with other characters;
this is a malformed subtopic.  Otherwise its canonical form is the runs of that text, joined with
dots, and so each of its levels is one that the bus takes. -/
theorem normalize_canonical (raw : String) :
    ((∃ fault detail, normalize raw = .error fault ∧ fault.toError = .malformedSubtopic detail) ↔
      Percent.HasBrokenEscape (Utf8.encode raw) ∨
        Utf8.decode? (Percent.onePass (Utf8.encode raw)) = none ∨
        ∃ text runs, Utf8.decode? (Percent.onePass (Utf8.encode raw)) = some text ∧
          Runs text.toList runs ∧ ∃ run ∈ runs, IsMixedRun run) ∧
    (∀ s, normalize raw = .ok s ↔
      ¬ Percent.HasBrokenEscape (Utf8.encode raw) ∧
        ∃ text runs, Utf8.decode? (Percent.onePass (Utf8.encode raw)) = some text ∧
          Runs text.toList runs ∧ (∀ run ∈ runs, ¬ IsMixedRun run) ∧ s = join runs) ∧
    (∀ s, normalize raw = .ok s → s = "" ∨ ∀ level ∈ s.toList.splitOn '.', IsLevel level) := by
  refine ⟨?_, ?_, fun s => isLevel_of_normalize⟩
  · have hfault : (∃ fault detail, normalize raw = .error fault ∧
        fault.toError = .malformedSubtopic detail) ↔ ∃ fault, normalize raw = .error fault := by
      simp [Fault.toError]
    rw [hfault, normalize_fails_iff]
    simp only [Percent.unescape?_eq_error_iff, Percent.unescape?_eq_ok_iff, runs_iff]
    by_cases hb : Percent.HasBrokenEscape (Utf8.encode raw)
    · simp [hb]
    · simp [hb]
  · intro s
    rw [normalize_eq_ok_iff]
    simp only [Percent.unescape?_eq_ok_iff, runs_iff]
    constructor
    · rintro ⟨text, ⟨hb, htext⟩, hmixed, hs⟩
      exact ⟨hb, text, _, htext, rfl, hmixed, hs⟩
    · rintro ⟨hb, text, _, htext, rfl, hmixed, hs⟩
      exact ⟨text, ⟨hb, htext⟩, hmixed, hs⟩

/-- Escaped separators and an escaped wild card, an empty level at each end, a `+` and an escape of
one. -/
theorem normalize_canonical_escaped :
    normalize "/a%2F%2a%2e//b+%2B." = .ok "a.*.b +" ∧
      ("a.*.b +" = "" ∨ ∀ level ∈ "a.*.b +".toList.splitOn '.', IsLevel level) :=
  ⟨by rfl, (normalize_canonical "/a%2F%2a%2e//b+%2B.").2.2 "a.*.b +" (by rfl)⟩

end Subtopic

end HookBridge
