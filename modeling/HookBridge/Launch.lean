/-
**Start-up.**

Start-up goes through its inputs in a fixed order: the settings file, the port on the command line,
the logger.  The first that fails ends the program, and what comes after it is not touched.

Main definitions:

* `HookBridge.LaunchError` — why the program ends before it runs;
* `HookBridge.Launch.settings` — the settings under a command line;
* `HookBridge.Launch.start` — start-up up to the logger;
* `HookBridge.Launch.Exit`, `HookBridge.Launch.main` — how the program ends, if it does not run.
-/

import HookBridge.CommandLine
import HookBridge.Logger
import HookBridge.Router
import HookBridge.Settings.Load

set_option relaxedAutoImplicit false
set_option autoImplicit false

namespace HookBridge

/-- Why the program ends before it runs. -/
inductive LaunchError
  | settings (error : Settings.LoadError)
  | port
  | logger (error : LoggerError)
  deriving DecidableEq, Repr

/-- The words for a failed start-up, with `complaint` for a text that is no document of settings. -/
def LaunchError.message (complaint : String → String) : LaunchError → String
  | settings error => error.message complaint
  | port => "Unable to parse HTTP port provided as a first argument."
  | logger error => error.message

namespace Launch

/-- The settings before the port of the command line is looked at. -/
def baseSettings (files : Files) (configFile : Option String) : Except LaunchError Settings :=
  match configFile with
  | some path => (Settings.ofFile files path).mapError .settings
  | none => .ok Settings.default

/-- The settings under a command line.  Its port goes before the one of the file. -/
def settings (files : Files) (line : CommandLine) : Except LaunchError Settings :=
  match baseSettings files line.configFile with
  | .error e => .error e
  | .ok base =>
      match line.httpPort with
      | none => .ok base
      | some argument =>
          match CommandLine.port? argument with
          | some port => .ok { base with httpPort := port }
          | none => .error .port

/-- Start-up up to the logger. -/
def start (line : CommandLine) (host : Host) : Except LaunchError Settings × Host :=
  match settings host.files line with
  | .error e => (.error e, host)
  | .ok s =>
      match host.initLogger s.logLevel s.logDestination with
      | (.error e, host) => (.error (.logger e), host)
      | (.ok (), host) => (.ok s, host)

/-- How the program ends: its exit code, and what it writes to its two outputs. -/
structure Exit where
  code : Nat
  stdout : String
  stderr : String
  deriving DecidableEq, Repr

/-- How a command line ends the program that cannot be run. -/
def exitOfStop : CommandLine.Stop → Exit
  | .help => ⟨0, CommandLine.help, ""⟩
  | .version => ⟨0, CommandLine.versionText Bridge.version, ""⟩
  | .usage fault => ⟨2, "", fault.message ++ "\n"⟩

/-- How a failed start-up ends the program. -/
def exitOfError (complaint : String → String) (e : LaunchError) : Exit :=
  ⟨1, "", e.message complaint ++ "\n"⟩

/-- From the arguments to the settings with which the program runs, or to its end.  What is wrong with
a text that is no document of settings is said by `complaint`. -/
def main (complaint : String → String) (arguments : List String) (host : Host) :
    Except Exit Settings × Host :=
  match CommandLine.read arguments with
  | .error stop => (.error (exitOfStop stop), host)
  | .ok line =>
      let (result, host) := start line host
      (result.mapError (exitOfError complaint), host)

end Launch

end HookBridge
