/-
**One value for each key.**

A line of a document may reach deep into its tables, but the table at the top gets at most one key
more, and only one that it does not have yet.  So each key of a document has one value.

Main definitions:

* `HookBridge.Toml.Entries.keys` — the keys of a table.

Main results:

* `HookBridge.Toml.Entries.keys_of_alter?` — what a change does to the keys;
* `HookBridge.Toml.Entries.get?_eq_some_iff`, `HookBridge.Toml.Entries.get?_eq_none_iff` — the value of
  a key, if no key is repeated;
* `HookBridge.Toml.Draft.nodup_keys_of_add?` — what a line does to the keys;
* `HookBridge.Toml.nodup_keys_of_parse?` — **each key of a document has one value**.
-/

import HookBridge.Toml.Document
import Mathlib

set_option relaxedAutoImplicit false
set_option autoImplicit false

namespace HookBridge

namespace Toml

/-! ### Keys of tables -/

namespace Entries

/-- The keys of a table, in order. -/
def keys (es : Entries) : List String := es.map (·.1)

variable {change : Option Node → Option Node} {key : String} {es es' : Entries}

/-- A change keeps the keys as they are, or puts a new one behind them. -/
theorem keys_of_alter? (h : alter? change key es = some es') :
    es'.keys = es.keys ∨ key ∉ es.keys ∧ es'.keys = es.keys ++ [key] := by
  induction es generalizing es' with
  | nil =>
      obtain ⟨v, -, rfl⟩ := Option.map_eq_some_iff.1 h
      exact Or.inr ⟨by simp [keys], rfl⟩
  | cons e es ih =>
      obtain ⟨k, v⟩ := e
      rw [alter?] at h
      split at h
      · obtain ⟨v', -, rfl⟩ := Option.map_eq_some_iff.1 h
        exact Or.inl rfl
      · next hne =>
        obtain ⟨rest, hrest, rfl⟩ := Option.map_eq_some_iff.1 h
        rcases ih hrest with hkeys | ⟨hnew, hkeys⟩
        · exact Or.inl (congrArg (k :: ·) hkeys)
        · exact Or.inr ⟨List.not_mem_cons_of_ne_of_not_mem (Ne.symm hne) hnew,
            congrArg (k :: ·) hkeys⟩

/-- What a table without repetitions has for a key is the value of the key. -/
theorem get?_eq_some_iff (hes : es.keys.Nodup) {node : Node} :
    es.get? key = some node ↔ (key, node) ∈ es := by
  rw [get?, Option.map_eq_some_iff]
  constructor
  · rintro ⟨e, hfind, rfl⟩
    have hkey := List.find?_some hfind
    obtain rfl := beq_iff_eq.1 hkey
    exact List.mem_of_find?_eq_some hfind
  · intro hmem
    cases hfind : es.find? (·.1 == key) with
    | none => exact absurd (List.find?_eq_none.1 hfind _ hmem) (by simp)
    | some e =>
        have hkey := List.find?_some hfind
        have heq : e = (key, node) := List.inj_on_of_nodup_map hes
          (List.mem_of_find?_eq_some hfind) hmem (beq_iff_eq.1 hkey)
        exact ⟨e, rfl, congrArg Prod.snd heq⟩

theorem get?_eq_none_iff : es.get? key = none ↔ ∀ node, (key, node) ∉ es := by
  rw [get?, Option.map_eq_none_iff, List.find?_eq_none]
  constructor
  · exact fun h node hmem => h _ hmem (by simp)
  · rintro h ⟨k, node⟩ hmem heq
    obtain rfl : k = key := beq_iff_eq.1 heq
    exact h node hmem

theorem nodup_keys_of_alter? (h : alter? change key es = some es') (hes : es.keys.Nodup) :
    es'.keys.Nodup := by
  rcases keys_of_alter? h with hkeys | ⟨hnew, hkeys⟩
  · rwa [hkeys]
  · rw [hkeys, ← List.concat_eq_append]
    exact hes.concat hnew

/-- Whatever a path leads to, the table at its beginning gets at most one key more. -/
theorem nodup_keys_of_within {inner : Entries → Option Entries} {path : List String}
    (hinner : ∀ {es es'}, inner es = some es' → es.keys.Nodup → es'.keys.Nodup)
    (h : within inner path es = some es') (hes : es.keys.Nodup) : es'.keys.Nodup := by
  cases path with
  | nil => exact hinner h hes
  | cons k path => exact nodup_keys_of_alter? h hes

theorem nodup_keys_of_assignPath {entry : List String × Node} (h : assignPath entry es = some es')
    (hes : es.keys.Nodup) : es'.keys.Nodup := by
  rw [assignPath] at h
  split at h
  · cases hpath : entry.1.dropLast with
    | nil =>
        rw [hpath, assign, add] at h
        exact nodup_keys_of_alter? h hes
    | cons k path =>
        rw [hpath, assign] at h
        exact nodup_keys_of_alter? h hes
  · exact absurd h (by simp)

end Entries

/-! ### Keys of documents -/

variable {d d' : Draft}

/-- One more line gives no key a second value. -/
theorem Draft.nodup_keys_of_add? {line : Line} (h : d.add? line = some d')
    (hd : d.root.keys.Nodup) : d'.root.keys.Nodup := by
  cases line with
  | table path =>
      simp only [Draft.add?] at h
      split at h
      · obtain ⟨root, hroot, rfl⟩ := Option.map_eq_some_iff.1 h
        exact Entries.nodup_keys_of_within Entries.nodup_keys_of_alter? hroot hd
      · exact absurd h (by simp)
  | element path =>
      simp only [Draft.add?] at h
      split at h
      · obtain ⟨root, hroot, rfl⟩ := Option.map_eq_some_iff.1 h
        exact Entries.nodup_keys_of_within Entries.nodup_keys_of_alter? hroot hd
      · exact absurd h (by simp)
  | entry path v =>
      obtain ⟨root, hroot, rfl⟩ := Option.map_eq_some_iff.1 h
      exact Entries.nodup_keys_of_within Entries.nodup_keys_of_assignPath hroot hd

theorem Draft.nodup_keys_of_foldlM {lines : List Line} (h : lines.foldlM Draft.add? d = some d')
    (hd : d.root.keys.Nodup) : d'.root.keys.Nodup := by
  induction lines generalizing d with
  | nil =>
      obtain rfl := Option.some.inj h
      exact hd
  | cons line lines ih =>
      rw [List.foldlM_cons] at h
      obtain ⟨next, hnext, hrest⟩ := Option.bind_eq_some_iff.1 h
      exact ih hrest (Draft.nodup_keys_of_add? hnext hd)

/-- **Each key of a document has one value.** -/
theorem nodup_keys_of_parse? {text : String} {es : Entries} (h : parse? text = some es) :
    es.keys.Nodup := by
  rw [parse?] at h
  split at h
  · obtain ⟨d, hd, rfl⟩ := Option.map_eq_some_iff.1 h
    exact Draft.nodup_keys_of_foldlM hd List.nodup_nil
  · exact absurd h (by simp)

end Toml

end HookBridge
