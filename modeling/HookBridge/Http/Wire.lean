/-
**Messages on the wire.**

A message is a first line, header fields, an empty line and a body, which ends where the header fields
say.

Main definitions:

* `HookBridge.Http.Wire.Part` — what has arrived of a message: not enough, nonsense, or all;
* `HookBridge.Http.Wire.request` — the request at the beginning of a stream, its body as it was sent;
* `HookBridge.Http.Wire.response?` — the status and the body of an answer that has come to its end;
* `HookBridge.Http.Wire.ofResponse`, `HookBridge.Http.Wire.ofPosting` — an answer and a request to
  be sent.
-/

import HookBridge.Http.Network
import HookBridge.Http.Reception
import HookBridge.Http.Status

set_option relaxedAutoImplicit false
set_option autoImplicit false

namespace HookBridge

namespace Http

namespace Wire

/-! ### Heads -/

/-- What has arrived of something. -/
inductive Part (α : Type)
  | incomplete
  | malformed
  | complete (value : α)

/-- The first line and the header fields of a message, and what follows them. -/
structure Head where
  words : List String
  headers : Headers
  rest : Bytes

/-- Splits off the first line, without its line break. -/
def splitLine (bs : Bytes) : Option (Bytes × Bytes) :=
  match bs.dropWhile (· != 0x0A) with
  | [] => none
  | _ :: rest =>
      let line := bs.takeWhile (· != 0x0A)
      some (if line.getLast? = some 0x0D then line.dropLast else line, rest)

/-- A header field, from its line. -/
def fieldOf? (line : Bytes) : Option (String × Bytes) :=
  match line.dropWhile (· != 0x3A) with
  | [] => none
  | _ :: value => some (String.ofList (plainText (line.takeWhile (· != 0x3A))), value)

/-- Reads header fields up to the empty line, at most as many as the first argument says. -/
def readFields : Nat → Bytes → Part (Headers × Bytes)
  | 0, _ => .malformed
  | n + 1, bs =>
      match splitLine bs with
      | none => .incomplete
      | some ([], rest) => .complete ([], rest)
      | some (line, rest) =>
          match fieldOf? line, readFields n rest with
          | none, _ => .malformed
          | some field, .complete (fields, rest) => .complete (field :: fields, rest)
          | some _, part => part

/-- The most header fields of a message that are read. -/
def readLimit : Nat := 2 * fieldLimit

/-- Reads the head of a message. -/
def readHead (bs : Bytes) : Part Head :=
  match splitLine bs with
  | none => .incomplete
  | some (line, rest) =>
      match readFields readLimit rest with
      | .complete (headers, rest) =>
          let words := (line.splitOnP (· == 0x20)).map fun word => String.ofList (plainText word)
          .complete ⟨words, headers.overWire, rest⟩
      | .incomplete => .incomplete
      | .malformed => .malformed

/-! ### Messages -/

/-- The request of a head, with what has arrived of its body. -/
def Head.request? (head : Head) : Option Request :=
  match head.words with
  | [method, target, _] => some ⟨method, target, head.headers, head.rest, none⟩
  | _ => none

/-- The whole body has arrived. -/
def isWhole (framing : Framing) (body : Bytes) : Bool :=
  match framing with
  | .length n => n ≤ body.length
  | .chunks => Chunked.isSettled body

/-- The request at the beginning of a stream, its body as it was sent. -/
def request (bs : Bytes) : Part Request :=
  match readHead bs with
  | .incomplete => .incomplete
  | .malformed => .malformed
  | .complete head =>
      match head.request?, head.headers.framing? with
      | none, _ => .malformed
      | some r, none => .complete r
      | some r, some framing => if isWhole framing r.body then .complete r else .incomplete

/-- The body of a head's message, if all of it has arrived.  A body that says no length ends with the
stream. -/
def Head.body? (head : Head) : Option Bytes :=
  match head.headers.framing? with
  | none => none
  | some .chunks => (Chunked.read head.rest).toOption
  | some (.length n) =>
      if (head.headers.first? "content-length").isNone then some head.rest
      else if head.rest.length < n then none
      else some (head.rest.take n)

/-- The status and the body of an answer that has come to its end. -/
def response? (bs : Bytes) : Option (Nat × Bytes) :=
  match readHead bs with
  | .complete head =>
      match head.words with
      | _ :: code :: _ =>
          match lengthOf? (Utf8.encode code), head.body? with
          | some status, some body => if isFinal status then some (status, body) else none
          | _, _ => none
      | _ => none
  | _ => none

/-! ### Sending -/

/-- A message of a first line, header fields and a body. -/
def write (start : String) (headers : List (String × String)) (body : Bytes) : Bytes :=
  let lines := start :: headers.map fun (name, value) => name ++ ": " ++ value
  Utf8.encode (String.join (lines.map (· ++ "\r\n")) ++ "\r\n") ++ body

/-- The header fields that tell the length of a body and the end of the connection. -/
def closing (body : Bytes) : List (String × String) :=
  [("content-length", toString body.length), ("connection", "close")]

/-- An answer to be sent, after which the connection ends. -/
def ofResponse (r : Response) : Bytes :=
  let body := Utf8.encode r.body
  write ("HTTP/1.1 " ++ statusLine r.status)
    ((r.contentType.map ("content-type", ·)).toList ++ (r.allow.map ("allow", ·)).toList ++
      closing body) body

/-- A posting to be sent to its address, after whose answer the connection ends. -/
def ofPosting (u : Url) (posting : Posting) : Bytes :=
  let body := Utf8.encode posting.body
  write ("POST " ++ u.target ++ " HTTP/1.1")
    ([("host", u.endpoint), ("content-type", "application/json")] ++ closing body) body

end Wire

end Http

end HookBridge
