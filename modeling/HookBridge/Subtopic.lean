/-
**Canonical subtopics.**

Below its channel a message is addressed by a list of levels.  Clients spell the list in many ways:
levels are separated by `/` or `.`, any character may be a percent escape, empty levels are allowed.
The bus knows one spelling only: the non-empty levels, joined with `.`.  A wild card stands for a
whole level, never for a part of one.

Main definitions:

* `HookBridge.Subtopic.levels` — the non-empty levels of a text;
* `HookBridge.Subtopic.Fault` — why a path has no canonical form;
* `HookBridge.Subtopic.normalize` — the canonical form of a path.

Main results:

* `HookBridge.Subtopic.isSeparator_iff` — the two characters that separate levels.
-/

import HookBridge.Text.Percent
import HookBridge.Topic

set_option relaxedAutoImplicit false
set_option autoImplicit false

namespace HookBridge

namespace Subtopic

/-- The characters between two levels. -/
def isSeparator (c : Char) : Bool := c == '/' || c == '.'

theorem isSeparator_iff {c : Char} : isSeparator c = true ↔ c = '/' ∨ c = '.' := by
  simp [isSeparator]

/-- The characters that stand for a whole level, or for all levels below. -/
def isWildcard (c : Char) : Bool := c == '*' || c == '>'

/-- A wild card shares the level with other characters. -/
def isMixed (level : List Char) : Bool := 1 < level.length && level.any isWildcard

/-- The non-empty levels of a text, in order. -/
def levels (text : List Char) : List (List Char) :=
  (text.splitOnP isSeparator).filter (!·.isEmpty)

/-- Levels in the one spelling that the bus knows. -/
def join (levels : List (List Char)) : String := String.ofList (['.'].intercalate levels)

/-- Why a path has no canonical form. -/
inductive Fault
  /-- some `%` of the path begins no escape -/
  | brokenEscape (raw : String)
  /-- the bytes behind the escapes are no UTF-8 -/
  | notText (raw : String)
  /-- a wild card stands for a part of a level -/
  | mixedWildcard (level : String)
  deriving DecidableEq, Repr

/-- The words for a fault. -/
def Fault.detail : Fault → String
  | .brokenEscape raw => "invalid escape in \"" ++ raw ++ "\""
  | .notText raw => "\"" ++ raw ++ "\" is not valid UTF-8 once decoded"
  | .mixedWildcard level => "wild card is mixed with other characters in \"" ++ level ++ "\""

/-- A path with a fault is a malformed subtopic. -/
def Fault.toError (fault : Fault) : TopicError := .malformedSubtopic fault.detail

/-- The canonical form of the text behind a path. -/
def canonical (text : List Char) : Except Fault String :=
  match (levels text).find? isMixed with
  | some level => .error (.mixedWildcard (String.ofList level))
  | none => .ok (join (levels text))

/-- The canonical form of a path.  Escapes are read before levels are told apart, so an escaped
separator separates and an escaped wild card is one. -/
def normalize (raw : String) : Except Fault String :=
  match Percent.unescape? raw with
  | .error .brokenEscape => .error (.brokenEscape raw)
  | .error .notText => .error (.notText raw)
  | .ok text => canonical text.toList

end Subtopic

end HookBridge
