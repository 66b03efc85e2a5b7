/-
**Addresses of HTTP services.**

Main definitions:

* `HookBridge.Http.Url` — the address of a resource: where to connect, and what to ask for;
* `HookBridge.Http.Url.parse?` — the address that a text spells, if it is one of HTTP.

Spelling is lenient as usual for web addresses: surrounding blanks and inner line breaks do not
count, letter case of scheme and host does not count, `\` is as good as `/`, dot segments are
resolved, and characters that do not belong into a path or a query are percent-escaped.  A host may be
escaped, and a host that is a number is written as one with dots.
-/

import HookBridge.Http.Address
import HookBridge.Http.Domain
import HookBridge.Text.Percent

set_option relaxedAutoImplicit false
set_option autoImplicit false

namespace HookBridge

namespace Http

/-- The address of a resource. -/
structure Url where
  /-- the connection is encrypted -/
  secure : Bool
  host : String
  port : Nat
  /-- the path, and the query if there is one -/
  target : String
  deriving DecidableEq, Repr

namespace Url

/-- Where to connect. -/
def endpoint (u : Url) : String := u.host ++ ":" ++ toString u.port

/-! ### Escaping -/

/-- A capital hexadecimal digit. -/
def hexDigit (n : Nat) : Char := if n < 10 then Char.ofNat (n + 48) else Char.ofNat (n - 10 + 65)

/-- The percent escapes of a character's bytes. -/
def escapeChar (c : Char) : List Char :=
  (String.utf8EncodeChar c).flatMap fun b =>
    ['%', hexDigit (b.toNat / 16), hexDigit (b.toNat % 16)]

/-- Escapes control characters, characters that are not ASCII, and those in `set`. -/
def escape (set : List Char) (cs : List Char) : List Char :=
  cs.flatMap fun c =>
    if c.toNat ≤ 0x1F || 0x7F ≤ c.toNat || set.contains c then escapeChar c else [c]

/-- The characters to escape in a path. -/
def pathSet : List Char := [' ', '"', '<', '>', '\x60', '#', '?', '\x7b', '\x7d']

/-- The characters to escape in a query. -/
def querySet : List Char := [' ', '"', '<', '>', '#', '\x27']

/-! ### Paths -/

/-- A slash of either direction. -/
def isSlash (c : Char) : Bool := c == '/' || c == '\\'

/-- A segment that stands for the directory itself. -/
def isDot (segment : List Char) : Bool :=
  let s := String.ofList (segment.map Char.toLower)
  s == "." || s == "%2e"

/-- A segment that stands for the directory above. -/
def isDotDot (segment : List Char) : Bool :=
  let s := String.ofList (segment.map Char.toLower)
  s == ".." || s == ".%2e" || s == "%2e." || s == "%2e%2e"

/-- A segment that names a drive, which is never left. -/
def isDrive (segment : List Char) : Bool :=
  match segment with
  | [c, mark] => c.isAlpha && (mark == ':' || mark == '|')
  | _ => false

/-- The directory above, as its segments from the last one on. -/
def leave : List (List Char) → List (List Char)
  | [] => []
  | segment :: above => if isDrive segment then segment :: above else above

/-- The segments of a path with dot segments resolved, behind those before them, the latter last
first.  A dot segment at the end leaves an empty one. -/
def resolve (done : List (List Char)) : List (List Char) → List (List Char)
  | [] => done.reverse
  | segment :: rest =>
      if isDotDot segment then
        if rest.isEmpty then (leave done).reverse ++ [[]] else resolve (leave done) rest
      else if isDot segment then
        if rest.isEmpty then done.reverse ++ [[]] else resolve done rest
      else resolve (segment :: done) rest

/-- The path that is asked for, from what stands between authority and query. -/
def pathOf (cs : List Char) : List Char :=
  let segments := match cs with
    | c :: rest => if isSlash c then rest.splitOnP isSlash else cs.splitOnP isSlash
    | [] => [[]]
  '/' :: ['/'].intercalate ((resolve [] segments).map (escape pathSet))

/-! ### Authorities -/

/-- A host in its usual spelling: an address of version 6 in brackets, one of version 4, or a domain
name. -/
def hostOf? (cs : List Char) : Option String :=
  match cs with
  | '[' :: rest =>
      if rest.getLast? == some ']' && Address.isVersion6 rest.dropLast then
        some (String.ofList (cs.map Char.toLower))
      else none
  | _ =>
      match Utf8.decode? (Percent.decode (Utf8.encode (String.ofList cs))) with
      | none => none
      | some text =>
          match Domain.normalize? text.toList with
          | none => none
          | some name =>
              if Address.isNumeric name then
                (Address.version4? name).map fun n => String.ofList (Address.text4 n)
              else some (String.ofList name)

/-- A port; the usual one if none is given. -/
def portOf? (usual : Nat) (cs : List Char) : Option Nat :=
  if cs.isEmpty then some usual
  else if cs.all Char.isDigit then
    let n := cs.foldl (fun n c => 10 * n + (c.toNat - 48)) 0
    if n < 65536 then some n else none
  else none

/-- Splits a text at the last character for which `p` holds: what stands before it, the character,
and what stands behind it. -/
def splitLast (p : Char → Bool) (cs : List Char) : Option (List Char × Char × List Char) :=
  let back := cs.reverse
  match back.dropWhile (!p ·) with
  | [] => none
  | c :: front => some (front.reverse, c, (back.takeWhile (!p ·)).reverse)

/-- Host and port of an authority, whose user information does not count.  A colon inside brackets
separates no port. -/
def authorityOf? (usual : Nat) (cs : List Char) : Option (String × Nat) :=
  let place := match splitLast (· == '@') cs with
    | some (_, _, rest) => rest
    | none => cs
  let (host, port) := match splitLast (fun c => c == ':' || c == ']') place with
    | some (host, ':', port) => (host, port)
    | _ => (place, [])
  match hostOf? host, portOf? usual port with
  | some host, some port => some (host, port)
  | _, _ => none

/-! ### Addresses -/

/-- The scheme of an address in small letters, and what follows its colon. -/
def schemeOf? (cs : List Char) : Option (String × List Char) :=
  let name := cs.takeWhile fun c => c.isAlphanum || c == '+' || c == '-' || c == '.'
  match name, cs.drop name.length with
  | first :: _, ':' :: rest =>
      if first.isAlpha then some (String.ofList (name.map Char.toLower), rest) else none
  | _, _ => none

/-- The address that a text spells, if it is one of HTTP. -/
def parse? (text : String) : Option Url :=
  let isEdge := fun c : Char => c.toNat ≤ 0x20
  let trimmed := ((text.toList.dropWhile isEdge).reverse.dropWhile isEdge).reverse
  let cs := trimmed.filter fun c => c != '\t' && c != '\n' && c != '\r'
  match schemeOf? cs with
  | none => none
  | some (scheme, rest) =>
      if scheme = "http" ∨ scheme = "https" then
        let secure := scheme == "https"
        let rest := rest.dropWhile isSlash
        let isEnd := fun c : Char => isSlash c || c == '?' || c == '#'
        let authority := rest.takeWhile (!isEnd ·)
        let rest := (rest.dropWhile (!isEnd ·)).takeWhile (· != '#')
        let path := rest.takeWhile (· != '?')
        let query := rest.dropWhile (· != '?')
        let queryText := match query with
          | [] => []
          | _ :: q => '?' :: escape querySet q
        match authorityOf? (if secure then 443 else 80) authority with
        | some (host, port) => some ⟨secure, host, port, String.ofList (pathOf path ++ queryText)⟩
        | none => none
      else none

end Url

end Http

end HookBridge
