/-
**What a request asks for.**

The target of a request is a path with whatever follows it, a whole address with a scheme, a host
alone, or a star.

Main definitions:

* `HookBridge.Http.Target` — the parts of a target that a server looks at;
* `HookBridge.Http.Target.parse?` — the target that a text spells.
-/

set_option relaxedAutoImplicit false
set_option autoImplicit false

namespace HookBridge

namespace Http

/-- What a request asks for, and where it expects that to be. -/
structure Target where
  authority : List Char
  /-- the path, without query and fragment; nothing if a host alone is meant -/
  path : List Char
  deriving DecidableEq, Repr

namespace Target

/-- The longest target, in bytes. -/
def lengthLimit : Nat := 65534

/-! ### Paths -/

/-- A character that may stand in a query. -/
def isOfQuery (c : Char) : Bool :=
  0x21 ≤ c.toNat && c.toNat ≤ 0x7E && !"\"#<>".toList.contains c

/-- A character that may stand in a path. -/
def isOfPath (c : Char) : Bool :=
  c == '"' || isOfQuery c && c != '?' && c != '\x60'

/-- The path in front of a query and a fragment.  Neither path nor query may hold a character that
has to be escaped there; what stands in a fragment does not count. -/
def pathOf? (cs : List Char) : Option (List Char) :=
  let path := cs.takeWhile fun c => c != '?' && c != '#'
  let query := match cs.drop path.length with
    | '?' :: rest => rest.takeWhile (· != '#')
    | _ => []
  if path.all isOfPath && query.all isOfQuery then some path else none

/-! ### Authorities -/

/-- A character that may stand in an authority. -/
def isOfAuthority (c : Char) : Bool :=
  c.isAlphanum || "!$&'()*+,-.:;=@[]_~%".toList.contains c

/-- How far the check of an authority has come. -/
structure Scan where
  /-- the colons since the last `@` or closing bracket -/
  colons : Nat
  opened : Bool
  closed : Bool
  /-- there is an escape since then -/
  escaped : Bool
  deriving DecidableEq, Repr

/-- Checks one more character of an authority. -/
def Scan.take? (s : Scan) (c : Char) : Option Scan :=
  if !isOfAuthority c then none
  else if c == ':' then if s.colons < 8 then some { s with colons := s.colons + 1 } else none
  else if c == '[' then if s.escaped || s.opened then none else some { s with opened := true }
  else if c == ']' then
    if !s.opened || s.closed then none
    else some { s with closed := true, colons := 0, escaped := false }
  else if c == '@' then some { s with colons := 0, escaped := false }
  else if c == '%' then some { s with escaped := true }
  else some s

/-- The characters make an authority: user information if there is some, a host without escapes, and
at most one port. -/
def isAuthority (cs : List Char) : Bool :=
  match cs.foldlM Scan.take? ⟨0, false, false, false⟩ with
  | some s => s.opened == s.closed && s.colons ≤ 1 && !s.escaped && cs.getLast? != some '@'
  | none => false

/-! ### Targets -/

/-- A character that may stand in a scheme. -/
def isOfScheme (c : Char) : Bool := c.isAlphanum || ['+', '-', '.', '~'].contains c

/-- The longest scheme. -/
def schemeLimit : Nat := 64

/-- What stands behind the scheme of a whole address; nothing if there is no scheme. -/
def behindScheme? (cs : List Char) : Option (List Char) :=
  match cs.dropWhile isOfScheme with
  | ':' :: '/' :: '/' :: rest => some rest
  | _ => none

/-- The target of a whole address, from what stands behind its scheme. -/
def ofAddress? (cs : List Char) : Option Target :=
  let authority := cs.takeWhile fun c => c != '/' && c != '?' && c != '#'
  match pathOf? (cs.drop authority.length) with
  | none => none
  | some path =>
      if authority.isEmpty || !isAuthority authority then none
      else some ⟨authority, if path.isEmpty then ['/'] else path⟩

/-- The target that a text spells. -/
def parse? (text : String) : Option Target :=
  match text.toList with
  | [] => none
  | ['*'] => some ⟨[], ['*']⟩
  | '/' :: rest => (pathOf? ('/' :: rest)).map fun path => ⟨[], path⟩
  | cs =>
      match behindScheme? cs with
      | some rest =>
          if schemeLimit < (cs.takeWhile isOfScheme).length then none else ofAddress? rest
      | none => if isAuthority cs then some ⟨cs, []⟩ else none

end Target

end Http

end HookBridge
