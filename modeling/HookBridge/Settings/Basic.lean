/-
**Settings.**

A settings file may give any of seven keys.  What it gives is checked, and what it does not give takes
a default of its own.

Main definitions:

* `HookBridge.Settings.Source` — what a file gives;
* `HookBridge.Settings.Fault` — a value that is not supported;
* `HookBridge.Settings.Source.fault?` — the first such value of a source;
* `HookBridge.Settings`, `HookBridge.Settings.ofSource` — the settings in effect.
-/

set_option relaxedAutoImplicit false
set_option autoImplicit false

namespace HookBridge

/-! ### Settings in effect -/

/-- The settings in effect.  Timeouts are counted in seconds. -/
structure Settings where
  /-- where hook requests are taken -/
  httpPort : UInt16
  thingsUrl : String
  thingsTimeout : UInt64
  /-- where messages go; if nowhere, they are dropped -/
  publisherUrl : Option String
  publisherTimeout : UInt64
  logDestination : String
  logLevel : String
  deriving DecidableEq, Repr

namespace Settings

/-- What a settings file gives. -/
structure Source where
  httpPort : Option UInt16
  thingsUrl : Option String
  thingsTimeout : Option UInt64
  publisherUrl : Option String
  publisherTimeout : Option UInt64
  logDestination : Option String
  logLevel : Option String
  deriving DecidableEq, Repr

/-- A file that gives nothing. -/
def Source.empty : Source := ⟨none, none, none, none, none, none, none⟩

/-- The settings in effect: what the source gives, and for the rest the defaults. -/
def ofSource (s : Source) : Settings where
  httpPort := s.httpPort.getD 8080
  thingsUrl := s.thingsUrl.getD "http://localhost:8183"
  thingsTimeout := s.thingsTimeout.getD 1
  publisherUrl := s.publisherUrl
  publisherTimeout := s.publisherTimeout.getD 1
  logDestination := s.logDestination.getD "stdout"
  logLevel := s.logLevel.getD "info"

/-- The settings without a file. -/
def default : Settings := ofSource .empty

/-- The address where hook requests are taken: that port, on every interface. -/
def address (s : Settings) : String := "0.0.0.0:" ++ toString s.httpPort

/-! ### Checks -/

/-- The destinations that are outputs of the process. -/
def outputs : List String := ["stdout", "stderr"]

/-- What stands before the path of a log file. -/
def fileScheme : String := "file:"

/-- The levels of a logger, the gravest first. -/
def levels : List String := ["error", "warn", "info", "debug"]

/-- What stands before the host of an address. -/
def webSchemes : List String := ["http://", "https://"]

/-- Some output, or a file with a path. -/
def isDestination (destination : String) : Bool :=
  outputs.contains destination ||
    (fileScheme.toList.isPrefixOf destination.toList &&
      fileScheme.length < destination.length)

/-- Some level. -/
def isLevel (level : String) : Bool := levels.contains level

/-- An address on the web. -/
def isWebAddress (url : String) : Bool :=
  webSchemes.any fun scheme => scheme.toList.isPrefixOf url.toList

/-- A value that is not supported. -/
inductive Fault
  | destination (value : String)
  | level (value : String)
  | address (key value : String)
  | timeout (key : String)
  deriving DecidableEq, Repr

/-- A text between quotation marks, as it is. -/
def marked (s : String) : String := "\"" ++ s ++ "\""

/-- The words for a value that is not supported. -/
def Fault.message : Fault → String
  | destination value =>
      "Unsupported log destination " ++ marked value ++ ".\nSupported values: " ++
        ", ".intercalate ((outputs ++ [fileScheme ++ "<path>"]).map marked)
  | level value =>
      "Unsupported log level " ++ value ++ ".\nSupported values: [" ++
        ", ".intercalate (levels.map marked) ++ "]"
  | address key value => key ++ " should be an http(s) URL, got " ++ marked value
  | timeout key => key ++ " should be at least 1 second"

namespace Source

/-- The fault of a value that is given and fails its check. -/
def faultOf {α : Type} (check : α → Bool) (fault : α → Fault) (value : Option α) : Option Fault :=
  match value with
  | some v => if check v then none else some (fault v)
  | none => none

/-- The faults of a source, each key's own, in the order in which they are looked for. -/
def faults (s : Source) : List (Option Fault) :=
  [faultOf isDestination .destination s.logDestination,
   faultOf isLevel .level s.logLevel,
   faultOf isWebAddress (.address "things_url") s.thingsUrl,
   faultOf isWebAddress (.address "publisher_url") s.publisherUrl,
   faultOf (· != 0) (fun _ => .timeout "things_timeout") s.thingsTimeout,
   faultOf (· != 0) (fun _ => .timeout "publisher_timeout") s.publisherTimeout]

/-- The first fault of a source. -/
def fault? (s : Source) : Option Fault := s.faults.findSome? id

end Source

end Settings

end HookBridge
