/-
**The logger.**

A process has one logger for all its life.  The level decides which records it takes, the destination
where their lines go.

Main definitions:

* `HookBridge.Level`, `HookBridge.Appender` — how grave a record is, and where its line goes;
* `HookBridge.LoggerError`, `HookBridge.LoggerError.message` — why there is no logger;
* `HookBridge.Host` — the surroundings and outputs of a process, and its logger;
* `HookBridge.Host.initLogger` — sets the logger up;
* `HookBridge.Host.log` — writes a record.
-/

import HookBridge.Files
import HookBridge.LogPath

set_option relaxedAutoImplicit false
set_option autoImplicit false

namespace HookBridge

/-! ### Levels -/

/-- How grave a record is. -/
inductive Level
  | error
  | warn
  | info
  | debug
  | trace
  deriving DecidableEq, Repr

namespace Level

/-- The name of a level on a line. -/
def name : Level → String
  | error => "ERROR"
  | warn => "WARN"
  | info => "INFO"
  | debug => "DEBUG"
  | trace => "TRACE"

/-- All levels, the gravest first. -/
def all : List Level := [error, warn, info, debug, trace]

/-- The level of a name on a line. -/
def ofName? (name : String) : Option Level := all.find? (·.name == name)

/-- The graver a level, the lower its rank. -/
def rank : Level → Nat
  | error => 0
  | warn => 1
  | info => 2
  | debug => 3
  | trace => 4

/-- The level up to which a logger takes records, by its name in the settings. -/
def ofSetting? : String → Option Level
  | "error" => some error
  | "warn" => some warn
  | "info" => some info
  | "debug" => some debug
  | _ => none

end Level

/-! ### Destinations -/

/-- Where the lines of a logger go. -/
inductive Appender
  | stdout
  | stderr
  | file (path : String)
  deriving DecidableEq, Repr

/-- What stands before a path that lines go to. -/
def Appender.fileScheme : String := "file:"

/-- The appender that a destination names. -/
def Appender.ofSetting? (destination : String) : Option Appender :=
  if destination = "stdout" then some .stdout
  else if destination = "stderr" then some .stderr
  else (fileScheme.toList.isPrefixOf? destination.toList).map fun path => .file (String.ofList path)

/-! ### Set-up -/

/-- Why there is no logger. -/
inductive LoggerError
  | unsupportedLevel (level : String)
  | unsupportedDestination (destination : String)
  | cannotOpen (path : String) (error : FileError)
  | alreadySet
  deriving DecidableEq, Repr

/-- The words for a failed set-up. -/
def LoggerError.message : LoggerError → String
  | unsupportedLevel level => "Unsupported logging level " ++ level
  | unsupportedDestination destination => "Unsupported log destination " ++ destination
  | cannotOpen path error => "Unable to open log file " ++ path ++ ": " ++ error.message
  | alreadySet => "Unable to initialize a logger: SetLoggerError(())"

/-- Takes records up to a level, and writes their lines to one place. -/
structure Logger where
  level : Level
  appender : Appender
  deriving DecidableEq, Repr

/-- What a process finds when it begins. -/
structure Surroundings where
  files : Files
  environment : Environment
  now : Moment
  deriving DecidableEq, Repr

/-- A process: what it finds, what it has written to its two outputs, and its logger once there is
one. -/
structure Host extends Surroundings where
  stdout : String
  stderr : String
  logger : Option Logger
  deriving DecidableEq, Repr

namespace Host

/-- A process that has just begun. -/
def start (s : Surroundings) : Host := ⟨s, "", "", none⟩

/-- Makes the place ready that an appender writes to, and gives the appender to that place. -/
def openAppender (host : Host) : Appender → Except LoggerError (Appender × Host)
  | .stdout => .ok (.stdout, host)
  | .stderr => .ok (.stderr, host)
  | .file path =>
      let place := LogPath.fill host.environment host.now path
      match host.files.openLog place with
      | .ok files => .ok (.file place, { host with files := files })
      | .error e => .error (.cannotOpen path e)

/-- Sets the logger up.  The level is looked at first, then the destination; a log file is made even
if there is a logger already. -/
def initLogger (level destination : String) (host : Host) : Except LoggerError Unit × Host :=
  match Level.ofSetting? level with
  | none => (.error (.unsupportedLevel level), host)
  | some level =>
      match Appender.ofSetting? destination with
      | none => (.error (.unsupportedDestination destination), host)
      | some appender =>
          match host.openAppender appender with
          | .error e => (.error e, host)
          | .ok (appender, host) =>
              match host.logger with
              | some _ => (.error .alreadySet, host)
              | none => (.ok (), { host with logger := some ⟨level, appender⟩ })

/-! ### Records -/

/-- What a program says about itself. -/
structure Record where
  level : Level
  /-- the part of the program that speaks -/
  target : String
  message : String
  deriving DecidableEq, Repr

/-- The line of a record. -/
def Record.line (time : String) (r : Record) : String :=
  time ++ " " ++ r.level.name ++ " " ++ r.target ++ " - " ++ r.message ++ "\n"

/-- Writes a line to where an appender says. -/
def write (host : Host) (line : String) : Appender → Host
  | .stdout => { host with stdout := host.stdout ++ line }
  | .stderr => { host with stderr := host.stderr ++ line }
  | .file path => { host with files := host.files.append path (Utf8.encode line) }

/-- Writes a record if there is a logger that takes it. -/
def log (host : Host) (time : String) (r : Record) : Host :=
  match host.logger with
  | some logger =>
      if r.level.rank ≤ logger.level.rank then host.write (r.line time) logger.appender else host
  | none => host

end Host

end HookBridge
