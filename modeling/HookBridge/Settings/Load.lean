/-
**Loading settings.**

Main definitions:

* `HookBridge.Settings.Source.ofEntries?` — what the table of a document gives;
* `HookBridge.Settings.LoadError` — why there are no settings;
* `HookBridge.Settings.ofText`, `HookBridge.Settings.ofFile` — the settings of a text, of a file.
-/

import HookBridge.Files
import HookBridge.Settings.Basic
import HookBridge.Text.Quoted
import HookBridge.Toml.Document

set_option relaxedAutoImplicit false
set_option autoImplicit false

namespace HookBridge

namespace Settings

/-! ### Values of a document -/

/-- A text. -/
def text? : Toml.Node → Option String
  | .scalar (.text s) => some s
  | _ => none

/-- A whole number below `bound`. -/
def natural? (bound : Nat) : Toml.Node → Option Nat
  | .scalar (.integer n) => if 0 ≤ n ∧ n < bound then some n.toNat else none
  | _ => none

/-- A port. -/
def port? (node : Toml.Node) : Option UInt16 := (natural? UInt16.size node).map UInt16.ofNat

/-- A number of seconds. -/
def seconds? (node : Toml.Node) : Option UInt64 := (natural? UInt64.size node).map UInt64.ofNat

/-- The value of a key: nothing if the key is absent, refused if the value is of the wrong kind. -/
def valueOf? {α : Type} (read : Toml.Node → Option α) (key : String) (es : Toml.Entries) :
    Option (Option α) :=
  match Toml.Entries.get? es key with
  | none => some none
  | some node => (read node).map some

/-- What the table of a document gives.  Keys that are no settings do not count. -/
def Source.ofEntries? (es : Toml.Entries) : Option Source := do
  let httpPort ← valueOf? port? "http_port" es
  let thingsUrl ← valueOf? text? "things_url" es
  let thingsTimeout ← valueOf? seconds? "things_timeout" es
  let publisherUrl ← valueOf? text? "publisher_url" es
  let publisherTimeout ← valueOf? seconds? "publisher_timeout" es
  let logDestination ← valueOf? text? "log_dest" es
  let logLevel ← valueOf? text? "log_level" es
  return ⟨httpPort, thingsUrl, thingsTimeout, publisherUrl, publisherTimeout, logDestination,
    logLevel⟩

/-! ### Loading -/

/-- Why there are no settings. -/
inductive LoadError
  /-- the file cannot be read -/
  | file (error : FileError)
  /-- the text is no document of settings -/
  | document (text : String)
  /-- a value is not supported -/
  | value (fault : Fault)
  deriving DecidableEq, Repr

/-- The words for settings that cannot be loaded.  What is wrong with a text that is no document of
settings is said by `complaint`, in the words of whoever reads documents. -/
def LoadError.message (complaint : String → String) : LoadError → String
  | file error => "ConfigFile(" ++ Quoted.quote error.message ++ ")"
  | document text => "ConfigFile(" ++ Quoted.quote (complaint text) ++ ")"
  | value fault => "WrongValue(" ++ Quoted.quote fault.message ++ ")"

/-- The settings in effect under a source. -/
def check (s : Source) : Except LoadError Settings :=
  match s.fault? with
  | some fault => .error (.value fault)
  | none => .ok (ofSource s)

/-- The settings of a text. -/
def ofText (text : String) : Except LoadError Settings :=
  match (Toml.parse? text).bind Source.ofEntries? with
  | some source => check source
  | none => .error (.document text)

/-- The settings of a file. -/
def ofFile (files : Files) (path : String) : Except LoadError Settings :=
  match files.readText path with
  | .ok text => ofText text
  | .error e => .error (.file e)

end Settings

end HookBridge
