/-
**The command line.**

The program takes one option with a value, and one argument.  Arguments are read from left to right.
The value of an option may stand in the same argument or in the next; a value from the next argument
counts only once something else follows or the line ends, and that is when a second value is refused.

Main definitions:

* `HookBridge.CommandLine` — what a command line gives;
* `HookBridge.CommandLine.Stop` — why the program does not go on;
* `HookBridge.CommandLine.Scan`, `HookBridge.CommandLine.Scan.take` — one more argument;
* `HookBridge.CommandLine.read` — a whole command line.
-/

import HookBridge.Text.ControlSequence

set_option relaxedAutoImplicit false
set_option autoImplicit false

namespace HookBridge

/-- What a command line gives. -/
structure CommandLine where
  configFile : Option String
  httpPort : Option String
  deriving DecidableEq, Repr

namespace CommandLine

/-! ### Texts -/

/-- The name of the program as a command. -/
def command : String := "mqtt-auth-bridge"

/-- The title of the program. -/
def title : String := "MQTT auth bridge - VerneMQ webhooks to things service"

/-- The version of the program, under its title. -/
def versionText (version : String) : String := title ++ " " ++ version ++ "\n"

/-- What the program can be asked. -/
def help : String :=
  "Usage: " ++ command ++ " [OPTIONS] [HTTP_PORT]\n\n" ++
  "Arguments:\n" ++
  "  [HTTP_PORT]  HTTP port the bridge will start listening on for broker hooks.\n\n" ++
  "Options:\n" ++
  "  -c, --config <FILE>  Bridge configuration file\n" ++
  "  -h, --help           Print help\n" ++
  "  -V, --version        Print version\n"

/-- The option with a value, as texts show it. -/
def configOption : String := "--config <FILE>"

/-- What is wrong with a command line. -/
inductive Fault
  /-- there is no such option, or no room for the argument -/
  | unexpected (argument : String)
  /-- the option has no value -/
  | missingValue
  /-- the option has two values -/
  | repeated
  /-- an option that has no value is given one -/
  | needlessValue (option value : String)
  deriving DecidableEq, Repr

/-- The words for a fault.  What comes from the command line cannot command a terminal. -/
def Fault.message : Fault → String
  | unexpected argument =>
      "error: unexpected argument '" ++ ControlSequence.strip argument ++ "' found"
  | missingValue => "error: a value is required for '" ++ configOption ++ "' but none was supplied"
  | repeated => "error: the argument '" ++ configOption ++ "' cannot be used multiple times"
  | needlessValue option value =>
      "error: unexpected value '" ++ ControlSequence.strip value ++ "' for '" ++ option ++
        "' found; no more were expected"

/-- Why the program does not go on. -/
inductive Stop
  | help
  | version
  | usage (fault : Fault)
  deriving DecidableEq, Repr

/-! ### Reading -/

/-- How far a command line has been read. -/
structure Scan where
  found : CommandLine
  /-- the option stands last, or its value does, as an argument of its own -/
  pending : Option (Option String)
  /-- no more options follow -/
  plain : Bool
  deriving DecidableEq, Repr

/-- What an option stands for. -/
inductive Meaning
  | config
  | help
  | version
  deriving DecidableEq, Repr

/-- The option of a long name. -/
def Meaning.ofName? : String → Option Meaning
  | "config" => some config
  | "help" => some help
  | "version" => some version
  | _ => none

/-- The option of a letter. -/
def Meaning.ofLetter? : Char → Option Meaning
  | 'c' => some config
  | 'h' => some help
  | 'V' => some version
  | _ => none

namespace Scan

/-- Nothing has been read. -/
def start : Scan := ⟨⟨none, none⟩, none, false⟩

/-- Gives the option its value. -/
def setConfig (s : Scan) (value : String) : Except Stop Scan :=
  match s.found.configFile with
  | some _ => .error (.usage .repeated)
  | none => .ok { s with found := { s.found with configFile := some value } }

/-- Whatever is pending is over. -/
def settle (s : Scan) : Except Stop Scan :=
  match s.pending with
  | none => .ok s
  | some none => .error (.usage .missingValue)
  | some (some value) => { s with pending := none }.setConfig value

/-- An option without a value in the same argument. -/
def option (s : Scan) (meaning : Meaning) : Except Stop Scan :=
  match s.settle with
  | .error stop => .error stop
  | .ok s =>
      match meaning with
      | .config => .ok { s with pending := some none }
      | .help => .error .help
      | .version => .error .version

/-- The option with a value in the same argument. -/
def attached (s : Scan) (value : String) : Except Stop Scan :=
  match s.settle with
  | .error stop => .error stop
  | .ok s => s.setConfig value

/-- An argument that is no option. -/
def positional (s : Scan) (argument : String) : Except Stop Scan :=
  match s.found.httpPort with
  | some _ => .error (.usage (.unexpected argument))
  | none =>
      match s.settle with
      | .error stop => .error stop
      | .ok s => .ok { s with found := { s.found with httpPort := some argument } }

/-- An option by its long name, from what follows the two hyphens. -/
def long (s : Scan) (text : List Char) : Except Stop Scan :=
  let name := String.ofList (text.takeWhile (· != '='))
  let value := (text.dropWhile (· != '=')).tail?.map String.ofList
  match Meaning.ofName? name, value with
  | none, _ => .error (.usage (.unexpected ("--" ++ name)))
  | some meaning, none => s.option meaning
  | some .config, some value => s.attached value
  | some _, some value => .error (.usage (.needlessValue ("--" ++ name) value))

/-- Options by their letters, from what follows the hyphen.  The letter of the option with a value
takes what follows it, less an `=` in front. -/
def short (s : Scan) : List Char → Except Stop Scan
  | [] => .ok s
  | c :: rest =>
      match Meaning.ofLetter? c with
      | none => .error (.usage (.unexpected (String.ofList ['-', c])))
      | some .config =>
          match rest with
          | [] => s.option .config
          | '=' :: value => s.attached (String.ofList value)
          | value => s.attached (String.ofList value)
      | some meaning =>
          match s.option meaning with
          | .error stop => .error stop
          | .ok s => s.short rest

/-- An argument that can be the value of a pending option, and else stands for itself. -/
def value (s : Scan) (argument : String) : Except Stop Scan :=
  match s.pending with
  | some none => .ok { s with pending := some (some argument) }
  | _ => s.positional argument

/-- Takes one more argument. -/
def take (s : Scan) (argument : String) : Except Stop Scan :=
  if s.plain then s.positional argument
  else
    match argument.toList with
    | ['-', '-'] => .ok { s with plain := true }
    | '-' :: '-' :: text => s.long text
    | ['-'] => s.value argument
    | '-' :: letters => s.short letters
    | _ => s.value argument

end Scan

/-- Reads a whole command line. -/
def read (arguments : List String) : Except Stop CommandLine :=
  match arguments.foldlM Scan.take Scan.start with
  | .error stop => .error stop
  | .ok s => s.settle.map (·.found)

/-! ### The port -/

/-- The port that an argument names: decimal digits, perhaps behind a plus sign. -/
def port? (argument : String) : Option UInt16 :=
  let digits := match argument.toList with
    | '+' :: rest => rest
    | cs => cs
  if digits ≠ [] ∧ digits.all Char.isDigit then
    let n := digits.foldl (fun n d => 10 * n + (d.toNat - 48)) 0
    if n < UInt16.size then some (UInt16.ofNat n) else none
  else none

end CommandLine

end HookBridge
