/-
**Paths of log files.**

A path may hold places to fill in: `$ENV`, with the name of a variable between braces, stands for its
value, and `$TIME`, with a pattern between braces, for the time by that pattern.

Main definitions:

* `HookBridge.LogPath.variableNames` — the names of the variables that a path asks for;
* `HookBridge.LogPath.fillVariables`, `HookBridge.LogPath.fillTime` — fill the places of one kind in;
* `HookBridge.LogPath.fill` — fills all places in.
-/

import HookBridge.Moment

set_option relaxedAutoImplicit false
set_option autoImplicit false

namespace HookBridge

/-- The variables of a process with their values. -/
abbrev Environment := List (String × String)

namespace LogPath

/-- What stands before a variable. -/
def variableMark : List Char := "$ENV\x7b".toList

/-- What stands before a pattern of the time. -/
def timeMark : List Char := "$TIME\x7b".toList

/-- A text with its closing brace in front: what stands before the brace, and what behind it. -/
def braced? (cs : List Char) : Option (List Char × List Char) :=
  match cs.dropWhile (· != '\x7d') with
  | _ :: rest => some (cs.takeWhile (· != '\x7d'), rest)
  | [] => none

/-- The characters make the name of a variable. -/
def isName : List Char → Bool
  | first :: rest =>
      (first.isAlphanum || first == '_') && rest.all fun c => c.isAlphanum || c == '_' || c == '.'
  | [] => false

/-! ### Variables -/

/-- The name of the variable that stands in front, if one does. -/
def nameAhead? (cs : List Char) : Option (List Char) :=
  match (variableMark.isPrefixOf? cs).bind braced? with
  | some (name, _) => if isName name then some name else none
  | none => none

/-- The names of the variables that a path asks for. -/
def variableNames : List Char → List String
  | [] => []
  | c :: rest =>
      match nameAhead? (c :: rest) with
      | some name => String.ofList name :: variableNames rest
      | none => variableNames rest

/-- Fills variables in, the next `skipped` characters left out.  A variable that is not set is kept
as it is written. -/
def fillVariablesFrom (env : Environment) (skipped : Nat) : List Char → List Char
  | [] => []
  | c :: rest =>
      if skipped = 0 then
        match nameAhead? (c :: rest) with
        | some name =>
            match env.lookup (String.ofList name) with
            | some value =>
                value.toList ++ fillVariablesFrom env (variableMark.length + name.length) rest
            | none => c :: fillVariablesFrom env 0 rest
        | none => c :: fillVariablesFrom env 0 rest
      else fillVariablesFrom env (skipped - 1) rest

/-- Fills variables in. -/
def fillVariables (env : Environment) (cs : List Char) : List Char := fillVariablesFrom env 0 cs

/-! ### Times -/

/-- Fills in the first time of a path; nothing if there is none.  The time reaches up to the first
closing brace. -/
def fillFirstTime? (now : Moment) : List Char → Option (List Char)
  | [] => none
  | c :: rest =>
      match timeMark.isPrefixOf? (c :: rest) with
      | some inner => (braced? inner).map fun (pattern, rest) => now.write pattern ++ rest
      | none => (fillFirstTime? now rest).map (c :: ·)

/-- The most times of one path that are filled in. -/
def timeLimit : Nat := 5

/-- Fills times in, each where the one before may have put it, at most as many as the second argument
says. -/
def fillTime (now : Moment) : Nat → List Char → List Char
  | 0, cs => cs
  | n + 1, cs =>
      match fillFirstTime? now cs with
      | some cs => fillTime now n cs
      | none => cs

/-- Fills all places of a path in, variables first. -/
def fill (env : Environment) (now : Moment) (path : String) : String :=
  String.ofList (fillTime now timeLimit (fillVariables env path.toList))

end LogPath

end HookBridge
