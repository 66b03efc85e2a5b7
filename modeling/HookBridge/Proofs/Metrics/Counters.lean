/-
**What the counters count.**

The counters are two lists of entries in the order of their keys: one of hooks and statuses, one of
hooks.  A request changes one entry of each, or puts one where its key belongs.  Both are cases of
one operation on ordered lists of entries, and what this operation does is said through look-up:
the entry of one key changes and no other does.

Main definitions:

* `HookBridge.Entries.Ordered`, `HookBridge.Entries.alter` — lists in the order of their keys, and
  the change of one entry;
* `HookBridge.Metrics.number`, `HookBridge.Metrics.timed` — how many requests are counted under a
  key, and how many of a hook there are;
* `HookBridge.Metrics.WellFormed` — what is so of all counters that come of counting.

Main results:

* `HookBridge.Entries.lookup_alter` — **the entry of one key changes and no other does**;
* `HookBridge.Entries.Ordered.ext` — an ordered list is known from its entries;
* `HookBridge.Metrics.WellFormed.observe` — counting keeps the lists in order;
* `HookBridge.Metrics.number_observe`, `HookBridge.Metrics.timed_observe` — what is counted;
* `HookBridge.Metrics.mem_requests_iff`, `HookBridge.Metrics.mem_latencies_iff` — what is listed.
-/

import HookBridge.Metrics
import Mathlib.Data.List.Basic

set_option relaxedAutoImplicit false
set_option autoImplicit false

namespace HookBridge

/-! ### Ordered lists of entries -/

namespace Entries

variable {κ β : Type} [DecidableEq κ]

/-- The keys of the entries follow each other, so no key occurs twice. -/
def Ordered (before : κ → κ → Bool) (entries : List (κ × β)) : Prop :=
  entries.Pairwise fun x y => before x.1 y.1 = true

/-- The entries with that of `key` changed by `f`, or with one put where it belongs. -/
def alter (before : κ → κ → Bool) (key : κ) (f : Option β → β) : List (κ × β) → List (κ × β)
  | [] => [(key, f none)]
  | (k, v) :: rest =>
      if key = k then (k, f (some v)) :: rest
      else if before key k then (key, f none) :: (k, v) :: rest
      else (k, v) :: alter before key f rest

/-- Any two keys are in order, and none is in front of itself. -/
structure IsOrder (before : κ → κ → Bool) : Prop where
  irrefl : ∀ a, before a a = false
  trans : ∀ {a b c}, before a b = true → before b c = true → before a c = true
  total : ∀ {a b}, a ≠ b → before a b = false → before b a = true

theorem lookup_cons (key k : κ) (v : β) (rest : List (κ × β)) :
    ((k, v) :: rest).lookup key = if key = k then some v else rest.lookup key := by
  rw [List.lookup_cons]
  by_cases h : key = k
  · simp [h]
  · simp [h, beq_eq_false_iff_ne.2 h]

variable {before : κ → κ → Bool} {entries : List (κ × β)}

/-- A key in front of all entries is that of none. -/
theorem lookup_eq_none {key : κ} (hb : IsOrder before)
    (h : ∀ entry ∈ entries, before key entry.1 = true) : entries.lookup key = none := by
  rw [List.lookup_eq_none_iff]
  intro entry hentry
  have hne : key ≠ entry.1 := by
    rintro heq
    have hself := h entry hentry
    rw [← heq, hb.irrefl key] at hself
    exact absurd hself (by decide)
  simpa using hne

/-- **The entry of one key changes and no other does.** -/
theorem lookup_alter (hb : IsOrder before) (h : Ordered before entries) (key key' : κ)
    (f : Option β → β) :
    (alter before key f entries).lookup key' =
      if key' = key then some (f (entries.lookup key)) else entries.lookup key' := by
  induction entries with
  | nil => by_cases heq : key' = key <;> simp [alter, lookup_cons, heq]
  | cons entry rest ih =>
      obtain ⟨k, v⟩ := entry
      obtain ⟨hfront, hrest⟩ := List.pairwise_cons.1 h
      rw [alter]
      by_cases hk : key = k
      · subst hk
        by_cases heq : key' = key <;> simp [lookup_cons, heq]
      · rw [if_neg hk]
        by_cases hbefore : before key k = true
        · -- the new entry stands in front of all others, so there was none of its key
          have hnone : ((k, v) :: rest).lookup key = none := by
            refine lookup_eq_none hb fun entry hentry => ?_
            rcases List.mem_cons.1 hentry with rfl | hmem
            · exact hbefore
            · exact hb.trans hbefore (hfront entry hmem)
          rw [if_pos hbefore, hnone]
          by_cases heq : key' = key <;> simp [lookup_cons, heq]
        · rw [if_neg hbefore]
          by_cases heq : key' = key
          · subst heq
            simp [lookup_cons, hk, ih hrest]
          · simp [lookup_cons, heq, ih hrest]

theorem mem_alter {key : κ} {f : Option β → β} {entry : κ × β}
    (h : entry ∈ alter before key f entries) : entry.1 = key ∨ entry ∈ entries := by
  induction entries with
  | nil => simp_all [alter]
  | cons head rest ih =>
      obtain ⟨k, v⟩ := head
      rw [alter] at h
      split at h
      · next heq =>
        rcases List.mem_cons.1 h with rfl | hmem
        · exact Or.inl heq.symm
        · exact Or.inr (List.mem_cons_of_mem _ hmem)
      · split at h
        · rcases List.mem_cons.1 h with rfl | hmem
          · exact Or.inl rfl
          · exact Or.inr hmem
        · rcases List.mem_cons.1 h with rfl | hmem
          · exact Or.inr List.mem_cons_self
          · exact (ih hmem).imp_right (List.mem_cons_of_mem _)

/-- A change keeps the entries in order. -/
theorem Ordered.alter (hb : IsOrder before) (h : Ordered before entries) (key : κ)
    (f : Option β → β) : Ordered before (alter before key f entries) := by
  induction entries with
  | nil => simp [Entries.alter, Ordered]
  | cons head rest ih =>
      obtain ⟨k, v⟩ := head
      obtain ⟨hfront, hrest⟩ := List.pairwise_cons.1 h
      rw [Entries.alter]
      split
      · exact List.pairwise_cons.2 ⟨hfront, hrest⟩
      next hk =>
      split
      · next hbefore =>
        refine List.pairwise_cons.2 ⟨fun entry hentry => ?_, h⟩
        rcases List.mem_cons.1 hentry with rfl | hmem
        · exact hbefore
        · exact hb.trans hbefore (hfront entry hmem)
      · next hbefore =>
        refine List.pairwise_cons.2 ⟨fun entry hentry => ?_, ih hrest⟩
        rcases mem_alter hentry with heq | hmem
        · rw [heq]
          exact hb.total hk (by simpa using hbefore)
        · exact hfront entry hmem

/-- What is so of all values, and of what the change comes to, is so after it. -/
theorem forall_mem_alter (P : β → Prop) {key : κ} {f : Option β → β} (hf : ∀ v, P (f v))
    (h : ∀ entry ∈ entries, P entry.2) : ∀ entry ∈ alter before key f entries, P entry.2 := by
  induction entries with
  | nil => simpa [alter] using hf none
  | cons head rest ih =>
      obtain ⟨k, v⟩ := head
      obtain ⟨hhead, hrest⟩ := List.forall_mem_cons.1 h
      rw [alter]
      split
      · exact List.forall_mem_cons.2 ⟨hf _, hrest⟩
      · split
        · exact List.forall_mem_cons.2 ⟨hf _, h⟩
        · exact List.forall_mem_cons.2 ⟨hhead, ih hrest⟩

/-- A change is seen in what is seen of the values. -/
theorem map_alter {γ : Type} (g : β → γ) {f : Option β → β} (f' : Option γ → γ)
    (hf : ∀ v, g (f v) = f' (v.map g)) (key : κ) :
    (alter before key f entries).map (fun entry => (entry.1, g entry.2)) =
      alter before key f' (entries.map fun entry => (entry.1, g entry.2)) := by
  induction entries with
  | nil => simp [alter, hf]
  | cons head rest ih =>
      obtain ⟨k, v⟩ := head
      simp only [alter, List.map_cons]
      split
      · simp [hf]
      · split
        · simp [hf]
        · simp [ih]

/-- What stands in an ordered list is what is found there. -/
theorem mem_iff_lookup (hb : IsOrder before) (h : Ordered before entries) (key : κ) (v : β) :
    (key, v) ∈ entries ↔ entries.lookup key = some v := by
  induction entries with
  | nil => simp
  | cons head rest ih =>
      obtain ⟨k, w⟩ := head
      obtain ⟨hfront, hrest⟩ := List.pairwise_cons.1 h
      by_cases hk : key = k
      · subst hk
        have hnone : rest.lookup key = none := lookup_eq_none hb hfront
        have hmem : (key, v) ∉ rest := by
          rw [ih hrest, hnone]
          simp
        simp [hmem, eq_comm]
      · simp [lookup_cons, hk, ih hrest]

omit [DecidableEq κ] in
/-- Two ordered lists with the same entries are the same. -/
theorem Ordered.ext (hb : IsOrder before) {entries' : List (κ × β)} (h : Ordered before entries)
    (h' : Ordered before entries') (hmem : ∀ entry, entry ∈ entries ↔ entry ∈ entries') :
    entries = entries' := by
  have hne : ∀ x y : κ × β, before x.1 y.1 = true → x ≠ y := by
    rintro x y hxy rfl
    rw [hb.irrefl] at hxy
    exact absurd hxy (by decide)
  have hperm : entries.Perm entries' :=
    (List.perm_ext_iff_of_nodup (h.imp (hne _ _)) (h'.imp (hne _ _))).2 hmem
  refine hperm.eq_of_pairwise (fun x y _ _ hxy hyx => ?_) h h'
  exact absurd rfl (hne x x (hb.trans hxy hyx))

end Entries

/-! ### Counting -/

theorem HookStatus.isOrder_before : Entries.IsOrder HookStatus.before where
  irrefl := by simp [HookStatus.before]
  trans := by
    intro a b c hab hbc
    simp only [HookStatus.before, Bool.or_eq_true, Bool.and_eq_true, decide_eq_true_eq,
      beq_iff_eq] at hab hbc ⊢
    omega
  total := by
    intro a b hne hab
    have hkey : ¬ (a.hook.rank = b.hook.rank ∧ a.status = b.status) := by
      rintro ⟨hrank, hstatus⟩
      have hhook : a.hook = b.hook := by
        revert hrank
        cases a.hook <;> cases b.hook <;> decide
      obtain ⟨hook, status⟩ := a
      exact hne (by rw [HookStatus.mk.injEq]; exact ⟨hhook, hstatus⟩)
    simp only [HookStatus.before, Bool.or_eq_false_iff, Bool.and_eq_false_iff, Bool.or_eq_true,
      Bool.and_eq_true, decide_eq_true_eq, decide_eq_false_iff_not, beq_iff_eq,
      beq_eq_false_iff_ne] at hab ⊢
    omega

/-- The order of the list of all hooks. -/
def Hook.before (a b : Hook) : Bool := a.rank < b.rank

theorem Hook.isOrder_before : Entries.IsOrder Hook.before where
  irrefl := by simp [Hook.before]
  trans := by
    intro a b c
    cases a <;> cases b <;> cases c <;> decide
  total := by
    intro a b
    cases a <;> cases b <;> decide

namespace Metrics

open Entries

variable {m : Metrics}

theorem count_eq_alter (key : HookStatus) (entries : List (HookStatus × Nat)) :
    count key entries = alter HookStatus.before key (fun n => n.getD 0 + 1) entries := by
  induction entries with
  | nil => rfl
  | cons entry rest ih =>
      obtain ⟨k, n⟩ := entry
      simp only [count, alter, ih, Option.getD_some, Option.getD_none, Nat.zero_add]

theorem time_eq_alter (hook : Hook) (d : Duration) (entries : List (Hook × Latency)) :
    time hook d entries = alter Hook.before hook
      (fun l => ⟨(l.getD ⟨0, 0⟩).sum + seconds d, (l.getD ⟨0, 0⟩).count + 1⟩) entries := by
  induction entries with
  | nil => rfl
  | cons entry rest ih =>
      obtain ⟨h, l⟩ := entry
      simp only [time, alter, ih, Option.getD_some, Option.getD_none, Nat.zero_add, Hook.before,
        decide_eq_true_eq]

/-- The number of requests that are counted under a key. -/
def number (m : Metrics) (key : HookStatus) : Nat := (m.requests.lookup key).getD 0

/-- The number of requests of a hook that have been timed. -/
def timed (m : Metrics) (hook : Hook) : Nat := ((m.latencies.lookup hook).map (·.count)).getD 0

/-- What is so of all counters that come of counting: both lists are in order, and no entry stands
there for nothing. -/
structure WellFormed (m : Metrics) : Prop where
  requests : Ordered HookStatus.before m.requests
  latencies : Ordered Hook.before m.latencies
  number_pos : ∀ entry ∈ m.requests, 1 ≤ entry.2
  timed_pos : ∀ entry ∈ m.latencies, 1 ≤ entry.2.count

theorem WellFormed.empty : WellFormed empty where
  requests := List.Pairwise.nil
  latencies := List.Pairwise.nil
  number_pos := by simp [Metrics.empty]
  timed_pos := by simp [Metrics.empty]

/-- Counting keeps the lists in order. -/
theorem WellFormed.observe (hm : m.WellFormed) (key : HookStatus) (d : Duration) :
    (m.observe key d).WellFormed where
  requests := by
    rw [Metrics.observe, count_eq_alter]
    exact hm.requests.alter HookStatus.isOrder_before key _
  latencies := by
    rw [Metrics.observe, time_eq_alter]
    exact hm.latencies.alter Hook.isOrder_before key.hook _
  number_pos := by
    rw [Metrics.observe, count_eq_alter]
    exact forall_mem_alter (1 ≤ ·) (fun _ => Nat.le_add_left 1 _) hm.number_pos
  timed_pos := by
    rw [Metrics.observe, time_eq_alter]
    exact forall_mem_alter (1 ≤ Latency.count ·) (fun _ => Nat.le_add_left 1 _) hm.timed_pos

/-- One more request is counted under its key. -/
theorem number_observe (hm : m.WellFormed) (key key' : HookStatus) (d : Duration) :
    (m.observe key d).number key' = m.number key' + if key' = key then 1 else 0 := by
  rw [number, number, observe, count_eq_alter,
    lookup_alter HookStatus.isOrder_before hm.requests]
  by_cases h : key' = key
  · simp [h]
  · simp [h]

/-- One more request of its hook is timed. -/
theorem timed_observe (hm : m.WellFormed) (key : HookStatus) (hook : Hook) (d : Duration) :
    (m.observe key d).timed hook = m.timed hook + if hook = key.hook then 1 else 0 := by
  rw [timed, timed, observe, time_eq_alter, lookup_alter Hook.isOrder_before hm.latencies]
  by_cases h : hook = key.hook
  · subst h
    cases m.latencies.lookup key.hook <;> simp
  · simp [h]

/-- A key is listed with the number of its requests, if there are any. -/
theorem mem_requests_iff (hm : m.WellFormed) (key : HookStatus) (n : Nat) :
    (key, n) ∈ m.requests ↔ 1 ≤ n ∧ n = m.number key := by
  have hlookup := mem_iff_lookup HookStatus.isOrder_before hm.requests key
  rw [hlookup, number]
  cases hfound : m.requests.lookup key with
  | none => simp; omega
  | some k =>
      have hpos : 1 ≤ k := hm.number_pos _ ((hlookup k).2 hfound)
      simp only [Option.some.injEq, Option.getD_some]
      omega

/-- A hook is listed with the number of its requests, if there are any. -/
theorem mem_latencies_iff (hm : m.WellFormed) (hook : Hook) (n : Nat) :
    (∃ sum, (hook, ⟨sum, n⟩) ∈ m.latencies) ↔ 1 ≤ n ∧ n = m.timed hook := by
  have hlookup := mem_iff_lookup Hook.isOrder_before hm.latencies hook
  simp only [hlookup, timed]
  cases hfound : m.latencies.lookup hook with
  | none => simp; omega
  | some l =>
      have hpos : 1 ≤ l.count := hm.timed_pos _ ((hlookup l).2 hfound)
      obtain ⟨sum, count⟩ := l
      simp only [Option.some.injEq, Latency.mk.injEq, exists_and_right, exists_eq', true_and,
        Option.map_some, Option.getD_some] at hpos ⊢
      omega

end Metrics

end HookBridge
