/-
**Requests as they are received.**

Before a request is looked at it must be well formed: its method and the names of its header fields
are tokens, its target can be read, and its header fields agree on where its body ends.

Main definitions:

* `HookBridge.Http.Refusal`, `HookBridge.Http.Refusal.status` — why a request is refused at once;
* `HookBridge.Http.Framing`, `HookBridge.Http.Headers.framing?` — where a body ends;
* `HookBridge.Http.Request.receive` — a request as it is looked at, from what has been sent.
-/

import HookBridge.Http.Message

set_option relaxedAutoImplicit false
set_option autoImplicit false

namespace HookBridge

namespace Http

/-! ### Refusals -/

/-- Why a request is refused at once. -/
inductive Refusal
  | malformed
  | targetTooLong
  | tooManyFields
  deriving DecidableEq, Repr

/-- The status of a refusal. -/
def Refusal.status : Refusal → Nat
  | malformed => 400
  | targetTooLong => 414
  | tooManyFields => 431

/-! ### Framing -/

/-- Where a body ends. -/
inductive Framing
  /-- after so many bytes -/
  | length (n : Nat)
  /-- behind the last of its chunks -/
  | chunks
  deriving DecidableEq, Repr

/-- The text of bytes, byte by byte. -/
def plainText (bs : Bytes) : List Char := bs.map fun b => Char.ofNat b.toNat

/-- The last of several values that commas separate, in small letters and without blanks around. -/
def lastValue (cs : List Char) : List Char :=
  let isBlank := fun c : Char => c == ' ' || c == '\t'
  let last := (cs.reverse.takeWhile (· != ',')).dropWhile isBlank
  (last.reverse.dropWhile isBlank).map Char.toLower

/-- The number of bytes that a header field tells. -/
def lengthOf? (value : Bytes) : Option Nat :=
  let digits := plainText value
  if !digits.isEmpty && digits.all Char.isDigit then
    let n := digits.foldl (fun n c => 10 * n + (c.toNat - 48)) 0
    if n < UInt64.size then some n else none
  else none

/-- What header fields have told about the end of a body. -/
structure FramingNote where
  /-- whether the body is in chunks, once a field has told how it is encoded -/
  chunked : Option Bool
  length : Option Nat
  deriving DecidableEq, Repr

/-- Takes note of one more header field.  A length counts if nothing has been told about an encoding
yet, and lengths must not differ. -/
def FramingNote.take? (note : FramingNote) (field : String × Bytes) : Option FramingNote :=
  match field.1.toLower, note.chunked with
  | "transfer-encoding", _ =>
      some { note with chunked := some (lastValue (plainText field.2) == "chunked".toList) }
  | "content-length", none =>
      match lengthOf? field.2 with
      | none => none
      | some n =>
          if note.length.all (· == n) then some { note with length := some n } else none
  | _, _ => some note

/-- Where the body ends according to the header fields.  An encoding goes before a length, and must
end in chunks; without either there is no body. -/
def Headers.framing? (headers : Headers) : Option Framing :=
  match headers.foldlM FramingNote.take? ⟨none, none⟩ with
  | none => none
  | some ⟨some true, _⟩ => some .chunks
  | some ⟨some false, _⟩ => none
  | some ⟨none, length⟩ => some (.length (length.getD 0))

/-! ### Reception -/

/-- A character of a token. -/
def isOfToken (c : Char) : Bool := c.isAlphanum || "!#$%&'*+-.^_`|~".toList.contains c

/-- The text is a token. -/
def isToken (s : String) : Bool := s != "" && s.toList.all isOfToken

/-- A byte of a header field's value. -/
def isOfValue (b : UInt8) : Bool := b == 0x09 || 0x20 ≤ b && b != 0x7F

/-- A character that ends a target, or a control character. -/
def isBreak (c : Char) : Bool := c.toNat ≤ 0x20 || c == '\x7f'

/-- The most header fields that a request may have. -/
def fieldLimit : Nat := 100

namespace Request

/-- Why a request is refused whatever it asks for. -/
def refusal? (r : Request) : Option Refusal :=
  if !isToken r.method then some .malformed
  else if Target.lengthLimit < r.target.utf8ByteSize then some .targetTooLong
  else if fieldLimit < r.headers.length then some .tooManyFields
  else if r.headers.any fun field => !isToken field.1 || !field.2.all isOfValue then some .malformed
  else if r.target.toList.any isBreak || (Target.parse? r.target).isNone then some .malformed
  else none

/-- The request as it is looked at, from one whose body is still as it was sent.  Three
refusals of a server are left out: of a head that is too long in all, of a field whose name is too
long, and of an encoding whose value has bytes that are no visible text. -/
def receive (r : Request) : Except Refusal Request :=
  match r.refusal? with
  | some refusal => .error refusal
  | none =>
      let headers := r.headers.overWire
      match headers.framing? with
      | none => .error .malformed
      | some (.length n) =>
          .ok ⟨r.method, r.target, headers, r.body.take n,
            if r.body.length < n then some .chunkBrokenOff else none⟩
      | some .chunks =>
          match Chunked.read r.body with
          | .ok body => .ok ⟨r.method, r.target, headers, body, none⟩
          | .error fault => .ok ⟨r.method, r.target, headers, [], some fault⟩

end Request

end Http

end HookBridge
