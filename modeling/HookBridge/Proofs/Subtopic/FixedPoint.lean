/-
**Subtopics that stay as they are.**

A canonical subtopic that is normalized once more need not stay as it is: its escapes have been
read, but a level may hold a percent sign or a `+` of its own, which mean something else when they
are read again.  These two are all that can happen.  A path becomes shorter with each escape in it
and with each separator that it has too many, and never longer, so what comes out as it went in had
no escape; and then a `+` in it would have become a space.

Main results:

* `HookBridge.Subtopic.isCanonical_iff` — canonical subtopics, told by the characters in them;
* `HookBridge.Subtopic.join_levels_sublist` — what is left of a text in its levels;
* `HookBridge.Subtopic.normalize_eq_self` — a canonical subtopic without these two characters stays
  as it is;
* `HookBridge.Subtopic.no_sign_of_normalize_eq_self`,
  `HookBridge.Subtopic.no_plus_of_normalize_eq_self` — and no subtopic with one of them does;
* `HookBridge.Subtopic.normalize_fixed_points` — **the fixed points**, and when a second pass
  changes nothing.
-/

import HookBridge.Proofs.Address
import HookBridge.Proofs.Text.Concat
import Mathlib.Data.List.Flatten

set_option relaxedAutoImplicit false
set_option autoImplicit false

namespace HookBridge

namespace Percent

/-! ### Texts without escapes -/

/-- The byte of a percent sign stands for a percent sign. -/
theorem sign_mem_encode_iff (text : String) : sign ∈ Utf8.encode text ↔ '%' ∈ text.toList :=
  Utf8.mem_encode_iff (by decide) (by decide) text

/-- The byte of a `+` stands for a `+`. -/
theorem plus_mem_encode_iff (text : String) : plus ∈ Utf8.encode text ↔ '+' ∈ text.toList :=
  Utf8.mem_encode_iff (by decide) (by decide) text

/-- A text without percent signs and `+` is read as it is. -/
theorem unescape?_eq_self {text : String} (hsign : '%' ∉ text.toList) (hplus : '+' ∉ text.toList) :
    unescape? text = .ok text := by
  refine Reads.unescape?_eq_ok (Reads.plains fun b hb => ⟨?_, ?_⟩)
  · rintro rfl
    exact hsign ((sign_mem_encode_iff text).1 hb)
  · rintro rfl
    exact hplus ((plus_mem_encode_iff text).1 hb)

/-- Without percent signs the one pass does nothing but write spaces for `+`. -/
theorem onePass_of_no_sign {bs : Bytes} (h : sign ∉ bs) : onePass bs = spaced bs := by
  induction bs with
  | nil => rfl
  | cons b rest ih =>
      obtain ⟨hb, hrest⟩ := not_or.1 (mt List.mem_cons.2 h)
      rw [spaced_cons, ← ih hrest]
      by_cases hplus : b = plus
      · rw [hplus, onePass_plus, if_pos rfl]
      · rw [onePass_cons_of_ne hplus (Ne.symm hb), if_neg hplus]

/-- No `+` is left where a space has been written for each. -/
theorem plus_not_mem_spaced (bs : Bytes) : plus ∉ spaced bs := by
  rw [spaced, List.mem_map]
  rintro ⟨b, -, hb⟩
  by_cases hplus : b = plus
  · rw [if_pos hplus] at hb
    exact absurd hb (by decide)
  · rw [if_neg hplus] at hb
    exact hplus hb

end Percent

namespace Subtopic

/-! ### Canonical subtopics -/

/-- The parts of a text are made of its characters, and the breaks between them are left out. -/
theorem of_mem_splitOnP {isBreak : Char → Bool} {text part : List Char}
    (h : part ∈ text.splitOnP isBreak) : ∀ c ∈ part, isBreak c = false ∧ c ∈ text := by
  induction text generalizing part with
  | nil => simp_all [List.splitOnP_nil]
  | cons d text ih =>
      have hlater : ∀ {part}, part ∈ text.splitOnP isBreak →
          ∀ c ∈ part, isBreak c = false ∧ c ∈ d :: text := fun hpart c hc =>
        (ih hpart c hc).imp_right (List.mem_cons_of_mem d)
      rw [List.splitOnP_cons_eq_if_modifyHead] at h
      split at h
      · rcases List.mem_cons.1 h with rfl | hpart
        · simp
        · exact hlater hpart
      · next hd =>
        obtain ⟨first, parts, hparts⟩ :=
          List.exists_cons_of_ne_nil (List.splitOnP_ne_nil isBreak text)
        rw [hparts, List.modifyHead_cons] at h
        rcases List.mem_cons.1 h with rfl | hpart
        · have hfirst := hlater (hparts ▸ List.mem_cons_self : first ∈ text.splitOnP isBreak)
          exact List.forall_mem_cons.2 ⟨⟨by simpa using hd, List.mem_cons_self⟩, hfirst⟩
        · exact hlater (hparts ▸ List.mem_cons_of_mem first hpart)

/-- What is joined is made of the parts and of dots. -/
theorem of_mem_intercalate {c : Char} {parts : List (List Char)}
    (h : c ∈ ['.'].intercalate parts) : c = '.' ∨ ∃ part ∈ parts, c ∈ part := by
  induction parts with
  | nil => exact absurd h (by simp)
  | cons part parts ih =>
      by_cases hnil : parts = []
      · subst hnil
        exact Or.inr ⟨part, List.mem_cons_self, by simpa using h⟩
      · rw [List.intercalate_cons_of_ne_nil hnil, List.mem_append, List.mem_append,
          List.mem_singleton] at h
        rcases h with (hpart | hdot) | hrest
        · exact Or.inr ⟨part, List.mem_cons_self, hpart⟩
        · exact Or.inl hdot
        · exact (ih hrest).imp_right fun ⟨other, hother, hc⟩ =>
            ⟨other, List.mem_cons_of_mem part hother, hc⟩

/-- Canonical subtopics, told by the characters in them. -/
theorem isCanonical_iff (s : String) :
    IsCanonical s ↔ '/' ∉ s.toList ∧ (s = "" ∨ ∀ level ∈ s.toList.splitOn '.',
      level ≠ [] ∧ ∀ c ∈ level, c = '*' ∨ c = '>' → level = [c]) := by
  constructor
  · rintro ⟨ls, hls, rfl⟩
    rw [toList_join]
    constructor
    · intro hslash
      rcases of_mem_intercalate hslash with hdot | ⟨level, hlevel, hmem⟩
      · exact absurd hdot (by decide)
      · exact (hls level hlevel).no_slash hmem
    · by_cases hnil : ls = []
      · exact Or.inl (by rw [hnil]; rfl)
      · right
        rw [List.splitOn_intercalate '.' (fun level hlevel => (hls level hlevel).no_dot) hnil]
        exact fun level hlevel => ⟨(hls level hlevel).ne_nil, (hls level hlevel).wildcard⟩
  · rintro ⟨hslash, rfl | hlevels⟩
    · exact ⟨[], by simp, rfl⟩
    · refine ⟨s.toList.splitOn '.', fun level hlevel => ?_, ?_⟩
      · obtain ⟨hne, hwild⟩ := hlevels level hlevel
        rw [List.splitOn_eq_splitOnP] at hlevel
        have hchars := of_mem_splitOnP hlevel
        exact ⟨hne, fun hmem => hslash (hchars _ hmem).2,
          fun hmem => absurd (hchars _ hmem).1 (by decide), hwild⟩
      · rw [← String.toList_inj, toList_join, List.intercalate_splitOn]

/-! ### What is left of a text -/

/-- What is left of a text in its runs is part of it, with dots for slashes; and so it is with a dot
in front, if the text begins with a separator. -/
theorem Runs.sublist {text : List Char} {runs : List (List Char)} (h : Runs text runs) :
    (['.'].intercalate runs).Sublist (text.map dotted) ∧
      (runs ≠ [] → (∀ c ∈ text.head?, isSeparator c = true) →
        ('.' :: ['.'].intercalate runs).Sublist (text.map dotted)) := by
  induction h with
  | done => simp
  | @run gap run rest runs hgap hne hrun hend hrest ih =>
      have hinner : (['.'].intercalate (run :: runs)).Sublist (run ++ rest.map dotted) := by
        by_cases hnil : runs = []
        · simp [hnil]
        · -- the dot behind the run is the separator that ends it
          rw [List.intercalate_cons_of_ne_nil hnil, List.append_assoc]
          exact (ih.2 hnil hend).append_left run
      rw [List.map_append, List.map_append, map_dotted_of_no_separator hrun, List.append_assoc]
      refine ⟨hinner.trans (List.sublist_append_right _ _), fun _ hhead => ?_⟩
      cases gap with
      | nil =>
          obtain ⟨c, run, rfl⟩ := List.exists_cons_of_ne_nil hne
          exact absurd (hhead c rfl) (by simp [hrun c])
      | cons c gap =>
          have hdot : dotted c = '.' := by
            rcases isSeparator_iff.1 (hgap c List.mem_cons_self) with rfl | rfl <;> rfl
          rw [List.map_cons, List.cons_append, hdot]
          exact (hinner.trans (List.sublist_append_right _ _)).cons_cons '.'

/-- What is left of a text in its levels is part of it, with dots for slashes. -/
theorem join_levels_sublist (text : List Char) :
    (['.'].intercalate (levels text)).Sublist (text.map dotted) :=
  (runs_iff.2 rfl : Runs text (levels text)).sublist.1

/-- A dot takes as many bytes as a slash. -/
theorem length_encode_dotted (text : List Char) :
    ((text.map dotted).flatMap String.utf8EncodeChar).length =
      (text.flatMap String.utf8EncodeChar).length := by
  induction text with
  | nil => rfl
  | cons c text ih =>
      have hc : (String.utf8EncodeChar (dotted c)).length = (String.utf8EncodeChar c).length := by
        by_cases hslash : c = '/'
        · subst hslash
          decide
        · rw [dotted, if_neg hslash]
      simp only [List.map_cons, List.flatMap_cons, List.length_append, hc, ih]

/-- A text takes no more bytes by what is left of it in its levels. -/
theorem length_encode_join_levels (text : String) :
    (Utf8.encode (join (levels text.toList))).length ≤ (Utf8.encode text).length := by
  rw [Utf8.encode, toList_join, Utf8.encode, ← length_encode_dotted text.toList]
  exact ((join_levels_sublist text.toList).flatMap _).length_le

/-! ### Fixed points -/

/-- A canonical subtopic without percent signs and `+` stays as it is. -/
theorem normalize_eq_self {s : String} (h : IsCanonical s) (hsign : '%' ∉ s.toList)
    (hplus : '+' ∉ s.toList) : normalize s = .ok s := by
  obtain ⟨ls, hls, rfl⟩ := h
  refine (normalize_eq_ok_iff _ _).2 ⟨_, Percent.unescape?_eq_self hsign hplus, ?_, ?_⟩
  · rw [levels_join hls]
    exact fun level hlevel => (hls level hlevel).not_isMixedRun
  · rw [levels_join hls]

/-- A path that stays as it is has no escape: with one it would have become shorter. -/
theorem no_sign_of_normalize_eq_self {s : String} (h : normalize s = .ok s) : '%' ∉ s.toList := by
  obtain ⟨text, htext, -, hs⟩ := (normalize_eq_ok_iff s s).1 h
  obtain ⟨hwhole, hread⟩ := (Percent.unescape?_eq_ok_iff s text).1 htext
  rw [← Percent.complete_iff] at hwhole
  rw [Utf8.decode?_eq_some_iff] at hread
  have hlength := Percent.length_onePass hwhole
  have hle := length_encode_join_levels text
  rw [← hs, ← hread] at hle
  have hcount : (Utf8.encode s).count Percent.sign = 0 := by omega
  rw [← Percent.sign_mem_encode_iff]
  exact List.count_eq_zero.1 hcount

/-- A path that stays as it is has no `+`: it would have become a space. -/
theorem no_plus_of_normalize_eq_self {s : String} (h : normalize s = .ok s) : '+' ∉ s.toList := by
  obtain ⟨text, htext, -, hs⟩ := (normalize_eq_ok_iff s s).1 h
  obtain ⟨-, hread⟩ := (Percent.unescape?_eq_ok_iff s text).1 htext
  have hsign := mt (Percent.sign_mem_encode_iff s).1 (no_sign_of_normalize_eq_self h)
  rw [Utf8.decode?_eq_some_iff, Percent.onePass_of_no_sign hsign] at hread
  have htextplus : '+' ∉ text.toList := by
    rw [← Percent.plus_mem_encode_iff, ← hread]
    exact Percent.plus_not_mem_spaced _
  intro hplus
  rw [hs, toList_join] at hplus
  obtain ⟨c, hc, hdotted⟩ := List.mem_map.1 ((join_levels_sublist text.toList).mem hplus)
  have hne : c ≠ '/' := by
    rintro rfl
    exact absurd hdotted (by decide)
  rw [dotted, if_neg hne] at hdotted
  exact htextplus (hdotted ▸ hc)

/-- **The fixed points**: a subtopic stays as it is if it holds no percent sign, no `+` and no
slash, and is empty or made of levels with dots between them, of which one with a wild card is
nothing but this wild card.  So what a path has been normalized to stays as it is exactly if it
holds no percent sign and no `+`. -/
theorem normalize_fixed_points :
    (∀ s, normalize s = .ok s ↔
      '%' ∉ s.toList ∧ '+' ∉ s.toList ∧ '/' ∉ s.toList ∧
        (s = "" ∨ ∀ level ∈ s.toList.splitOn '.',
          level ≠ [] ∧ ∀ c ∈ level, c = '*' ∨ c = '>' → level = [c])) ∧
    ∀ raw s, normalize raw = .ok s →
      (normalize s = .ok s ↔ '%' ∉ s.toList ∧ '+' ∉ s.toList) := by
  have hiff : ∀ s, normalize s = .ok s ↔
      '%' ∉ s.toList ∧ '+' ∉ s.toList ∧ IsCanonical s := by
    intro s
    constructor
    · intro h
      exact ⟨no_sign_of_normalize_eq_self h, no_plus_of_normalize_eq_self h,
        isCanonical_of_normalize h⟩
    · rintro ⟨hsign, hplus, hcanonical⟩
      exact normalize_eq_self hcanonical hsign hplus
  refine ⟨fun s => ?_, fun raw s h => ?_⟩
  · rw [hiff, isCanonical_iff]
  · rw [hiff]
    simp [isCanonical_of_normalize h]

/-- A path whose escaped percent sign and `+` are read once, and one with a wild card alone. -/
theorem normalize_fixed_points_twice :
    normalize "a/%252A%2B" = .ok "a.%2A+" ∧ normalize "a.%2A+" ≠ .ok "a.%2A+" ∧
      normalize "//a+b/%2a." = .ok "a b.*" ∧ normalize "a b.*" = .ok "a b.*" := by
  have hfirst : normalize "a/%252A%2B" = .ok "a.%2A+" := by rfl
  have hsecond : normalize "//a+b/%2a." = .ok "a b.*" := by rfl
  refine ⟨hfirst, ?_, hsecond, ?_⟩
  · exact fun h => absurd ((normalize_fixed_points.2 _ _ hfirst).1 h).1 (by decide)
  · exact (normalize_fixed_points.2 _ _ hsecond).2 (by decide)

end Subtopic

end HookBridge
