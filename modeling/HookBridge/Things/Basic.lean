/-
**The things service.**

A things service knows which key belongs to which thing, and which thing may use which channel.
The bridge asks it two questions only.

Main definitions:

* `HookBridge.Things.ErrorKind`, `HookBridge.Things.Error` — how a question may fail;
* `HookBridge.Things.ErrorKind.ofStatus` — the kind of failure that a status code reports;
* `HookBridge.Things.Call` — the two questions;
* `HookBridge.Things.Reply` — what a question comes to, and after which time;
* `HookBridge.Things.Service` — a things service with a state.
-/

import HookBridge.Duration

set_option relaxedAutoImplicit false
set_option autoImplicit false

namespace HookBridge

namespace Things

/-! ### Failures -/

/-- How a question to the things service may fail. -/
inductive ErrorKind
  | permissionDenied
  | unauthenticated
  | notFound
  | invalidArgument
  | unavailable
  | deadlineExceeded
  | internal
  | unknown
  deriving DecidableEq, Repr

namespace ErrorKind

/-- All kinds of failure. -/
def all : List ErrorKind :=
  [permissionDenied, unauthenticated, notFound, invalidArgument, unavailable, deadlineExceeded,
   internal, unknown]

/-- The name of a kind of failure. -/
def name : ErrorKind → String
  | permissionDenied => "PermissionDenied"
  | unauthenticated => "Unauthenticated"
  | notFound => "NotFound"
  | invalidArgument => "InvalidArgument"
  | unavailable => "Unavailable"
  | deadlineExceeded => "DeadlineExceeded"
  | internal => "Internal"
  | unknown => "Unknown"

/-- The kind of failure of a given name. -/
def ofName? (name : String) : Option ErrorKind := all.find? (·.name == name)

/-- The kind of failure that a status code reports. -/
def ofStatus (status : Nat) : ErrorKind :=
  if status = 400 ∨ status = 422 then invalidArgument
  else if status = 401 then unauthenticated
  else if status = 403 then permissionDenied
  else if status = 404 then notFound
  else if status = 408 ∨ status = 504 then deadlineExceeded
  else if status = 502 ∨ status = 503 then unavailable
  else if 500 ≤ status ∧ status < 600 then internal
  else unknown

end ErrorKind

/-- A failed question: the kind of failure, and what is known about it. -/
structure Error where
  kind : ErrorKind
  description : String
  deriving DecidableEq, Repr

/-- The service knows the thing and refuses it. -/
def Error.isDenial (e : Error) : Bool := e.kind == .permissionDenied

/-- The words for a failure. -/
def Error.message (e : Error) : String :=
  "things service " ++ e.kind.name ++ ": " ++ e.description

/-! ### Questions and answers -/

/-- A question to the things service. -/
inductive Call
  /-- which thing has this key? -/
  | identify (token : String)
  /-- which thing has this key, and may it use this channel? -/
  | canAccess (token channel : String)
  deriving DecidableEq, Repr

/-- What a question comes to: the identifier of a thing or a failure, after some time. -/
structure Reply where
  result : Except Error String
  delay : Duration

/-- A things service with a state: how it answers a question, and its state afterwards. -/
abbrev Service (σ : Type) := Call → σ → Reply × σ

end Things

end HookBridge
