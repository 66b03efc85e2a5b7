/-
**Requests and responses.**

Main definitions:

* `HookBridge.Http.Headers` — header fields in the order they were given;
* `HookBridge.Http.Headers.text` — the value of a field as far as it is printable;
* `HookBridge.Http.Request`, `HookBridge.Http.Request.path` — a request, and the path it asks for;
* `HookBridge.Http.Response` — an answer.
-/

import HookBridge.Http.Chunked
import HookBridge.Http.Target

set_option relaxedAutoImplicit false
set_option autoImplicit false

namespace HookBridge

namespace Http

/-- Header fields: names and values in the order they were given. -/
abbrev Headers := List (String × Bytes)

/-- The bytes of a printable field value: ASCII without control characters, but with tabs. -/
def isPrintable (b : UInt8) : Bool := (0x20 ≤ b && b ≤ 0x7E) || b == 0x09

namespace Headers

/-- The first value of a field; names are compared without regard to case. -/
def first? (headers : Headers) (name : String) : Option Bytes :=
  (headers.find? fun field => field.1.toLower == name.toLower).map (·.2)

/-- The text of a field: its first value, or nothing if that is not printable or not given. -/
def text (headers : Headers) (name : String) : String :=
  match headers.first? name with
  | some value =>
      if value.all isPrintable then String.ofList (value.map fun b => Char.ofNat b.toNat) else ""
  | none => ""

/-- The fields as they arrive after a passage over the wire, which does not keep the blanks around
a value. -/
def overWire (headers : Headers) : Headers :=
  let isBlank := fun b : UInt8 => b == 0x20 || b == 0x09
  headers.map fun (name, value) =>
    (name, ((value.dropWhile isBlank).reverse.dropWhile isBlank).reverse)

end Headers

/-- A request. -/
structure Request where
  method : String
  target : String
  headers : Headers
  body : Bytes
  /-- why the body could not be read to its end, if it could not -/
  fault : Option Chunked.Fault

/-- The path that a request asks for. -/
def Request.path (r : Request) : String :=
  match Target.parse? r.target with
  | some target => String.ofList target.path
  | none => ""

/-- An answer: its status, two of its header fields, and its body. -/
structure Response where
  status : Nat
  contentType : Option String
  allow : Option String
  body : String
  deriving DecidableEq, Repr

/-- An answer that is nothing but a status. -/
def Response.bare (status : Nat) : Response := ⟨status, none, none, ""⟩

end Http

end HookBridge
