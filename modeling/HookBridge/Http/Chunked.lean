/-
**Bodies in chunks.**

A body whose length is not known in advance is sent in chunks.  Each has its size in front, in
hexadecimal digits on a line of its own, and a line break behind it.  A chunk of size 0 is the end;
behind it there may be lines that do not count, and then comes an empty line.

Main definitions:

* `HookBridge.Http.Chunked.Fault`, `HookBridge.Http.Chunked.Fault.message` — why chunks make no body;
* `HookBridge.Http.Chunked.State`, `HookBridge.Http.Chunked.State.step` — where a reader stands, and
  one more byte;
* `HookBridge.Http.Chunked.read` — the body of chunks.
-/

import HookBridge.Text.Utf8

set_option relaxedAutoImplicit false
set_option autoImplicit false

namespace HookBridge

namespace Http

namespace Chunked

/-- Why chunks make no body. -/
inductive Fault
  | noSize
  | badSize
  | hugeSize
  | afterSize
  | lineFeedInExtension
  | noLineFeedAfterSize
  | noReturnAfterChunk
  | noLineFeedAfterChunk
  | noLineFeedInTrailer
  | noLineFeedAtEnd
  /-- the bytes end in a chunk -/
  | chunkBrokenOff
  /-- the bytes end elsewhere -/
  | brokenOff
  deriving DecidableEq, Repr

/-- The words for chunks that make no body. -/
def Fault.message : Fault → String
  | noSize => "Invalid chunk size line: missing size digit"
  | badSize => "Invalid chunk size line: Invalid Size"
  | hugeSize => "invalid chunk size: overflow"
  | afterSize => "Invalid chunk size linear white space"
  | lineFeedInExtension => "invalid chunk extension contains newline"
  | noLineFeedAfterSize => "Invalid chunk size LF"
  | noReturnAfterChunk => "Invalid chunk body CR"
  | noLineFeedAfterChunk => "Invalid chunk body LF"
  | noLineFeedInTrailer => "Invalid trailer end LF"
  | noLineFeedAtEnd => "Invalid chunk end LF"
  | chunkBrokenOff => "end of file before message length reached"
  | brokenOff => "unexpected EOF during chunk size line"

/-- Where a reader of chunks stands. -/
inductive State
  /-- before a size -/
  | start
  /-- in a size -/
  | size (n : Nat)
  /-- in blanks behind a size -/
  | blank (n : Nat)
  /-- in what may follow a size -/
  | extension (n : Nat)
  /-- behind the return of a size -/
  | sizeReturn (n : Nat)
  /-- in a chunk, of which `n + 1` bytes are to come -/
  | chunk (n : Nat)
  /-- behind a chunk -/
  | chunkEnd
  /-- behind a chunk and a return -/
  | chunkReturn
  /-- at the beginning of a line behind the last chunk -/
  | line
  /-- in a line behind the last chunk -/
  | trailer
  /-- behind the return of such a line -/
  | trailerReturn
  /-- behind the return of the empty line -/
  | lastReturn
  | finished
  | broken (fault : Fault)
  deriving DecidableEq, Repr

/-- The value of a hexadecimal digit. -/
def digit? (b : UInt8) : Option Nat :=
  if 0x30 ≤ b && b ≤ 0x39 then some (b.toNat - 0x30)
  else if 0x61 ≤ b && b ≤ 0x66 then some (b.toNat - 0x61 + 10)
  else if 0x41 ≤ b && b ≤ 0x46 then some (b.toNat - 0x41 + 10)
  else none

/-- What follows a size: blanks, an extension, or the end of its line. -/
def State.behindSize (n : Nat) (fault : Fault) (b : UInt8) : State :=
  if b == 0x20 || b == 0x09 then blank n
  else if b == 0x3B then extension n
  else if b == 0x0D then sizeReturn n
  else broken fault

/-- The state behind a line feed that has to come. -/
def State.lineFeed (next : State) (fault : Fault) (b : UInt8) : State :=
  if b == 0x0A then next else broken fault

/-- The state behind a size line. -/
def State.ofSize : Nat → State
  | 0 => line
  | n + 1 => chunk n

/-- Takes one more byte. -/
def State.step (s : State) (b : UInt8) : State :=
  match s with
  | start =>
      match digit? b with
      | some d => size d
      | none => broken .noSize
  | size n =>
      match digit? b with
      | some d => if 16 * n + d < UInt64.size then size (16 * n + d) else broken .hugeSize
      | none => behindSize n .badSize b
  | blank n => behindSize n .afterSize b
  | extension n =>
      if b == 0x0D then sizeReturn n
      else if b == 0x0A then broken .lineFeedInExtension
      else extension n
  | sizeReturn n => lineFeed (ofSize n) .noLineFeedAfterSize b
  | chunk 0 => chunkEnd
  | chunk (n + 1) => chunk n
  | chunkEnd => if b == 0x0D then chunkReturn else broken .noReturnAfterChunk
  | chunkReturn => lineFeed start .noLineFeedAfterChunk b
  | line => if b == 0x0D then lastReturn else trailer
  | trailer => if b == 0x0D then trailerReturn else trailer
  | trailerReturn => lineFeed line .noLineFeedInTrailer b
  | lastReturn => lineFeed finished .noLineFeedAtEnd b
  | finished => finished
  | broken fault => broken fault

/-- The state of a reader, and the bytes of the body so far, the last first. -/
structure Progress where
  state : State
  taken : Bytes
  deriving DecidableEq, Repr

/-- Takes one more byte, into the body if it belongs to a chunk. -/
def Progress.step (p : Progress) (b : UInt8) : Progress :=
  ⟨p.state.step b,
    match p.state with
    | .chunk _ => b :: p.taken
    | _ => p.taken⟩

/-- A reader behind some bytes. -/
def progress (bs : Bytes) : Progress := bs.foldl Progress.step ⟨.start, []⟩

/-- There is nothing to wait for behind these bytes. -/
def isSettled (bs : Bytes) : Bool :=
  match (progress bs).state with
  | .finished => true
  | .broken _ => true
  | _ => false

/-- The body of chunks.  What stands behind the last of them does not count. -/
def read (bs : Bytes) : Except Fault Bytes :=
  let p := progress bs
  match p.state with
  | .finished => .ok p.taken.reverse
  | .broken fault => .error fault
  | .chunk _ => .error .chunkBrokenOff
  | _ => .error .brokenOff

end Chunked

end Http

end HookBridge
