/-
**A things service over HTTP.**

Main definitions:

* `HookBridge.Things.Call.path`, `HookBridge.Things.Call.body` — a question as a request;
* `HookBridge.Things.readAnswer` — what an answer says;
* `HookBridge.Things.Client` — the service at a base address, with a timeout;
* `HookBridge.Things.Client.service` — the client as a things service, over a transport.
-/

import HookBridge.Http.Network
import HookBridge.Http.Status
import HookBridge.Json.Record
import HookBridge.Things.Basic

set_option relaxedAutoImplicit false
set_option autoImplicit false

namespace HookBridge

namespace Things

/-- The path of a question, below the base address. -/
def Call.path : Call → String
  | .identify _ => "/identify"
  | .canAccess _ _ => "/access"

/-- The fields of a question. -/
def Call.fields : Call → List (String × String)
  | .identify token => [("token", token)]
  | .canAccess token channel => [("token", token), ("chanID", channel)]

/-- The text of a question. -/
def Call.body (call : Call) : String := Json.record call.fields

/-- The identifier of a thing in the body of an answer. -/
def readThing? (body : Bytes) : Option String :=
  match Json.parse? body with
  | some value =>
      match Json.texts? ["value"] value with
      | some [some thing] => some thing
      | _ => none
  | none => none

/-- The failure that a status reports. -/
def Error.ofStatus (status : Nat) : Error :=
  ⟨.ofStatus status, "things service responded with " ++ Http.statusLine status⟩

/-- What an answer says: a status of success and the identifier of a thing, or a failure. -/
def readAnswer (status : Nat) (body : Bytes) : Except Error String :=
  if Http.isSuccess status then
    match readThing? body with
    | some thing => .ok thing
    | none => .error ⟨.internal, "unable to read thing id"⟩
  else .error (.ofStatus status)

/-- A things service at a base address. -/
structure Client where
  base : String
  timeout : Duration

namespace Client

/-- The client of a base address, in which slashes at the end do not count. -/
def new (base : String) (timeout : Duration) : Client :=
  ⟨String.ofList (base.toList.reverse.dropWhile (· == '/')).reverse, timeout⟩

/-- What an exchange says. -/
def read : Http.Outcome → Except Error String
  | .noAddress => .error ⟨.unknown, "no request can be sent to the address"⟩
  | .refused => .error ⟨.unavailable, "nobody listens at the address"⟩
  | .overdue => .error ⟨.deadlineExceeded, "the request timed out"⟩
  | .closed => .error ⟨.unknown, "the connection was closed"⟩
  | .response status body => readAnswer status body

/-- A question as a text to be posted. -/
def posting (c : Client) (call : Call) : Http.Posting := ⟨c.base ++ call.path, call.body, c.timeout⟩

/-- The client as a things service, over a transport. -/
def service {σ : Type} (c : Client) (post : Http.Transport σ) : Service σ := fun call s =>
  let (exchange, s) := post (c.posting call) s
  (⟨read exchange.outcome, exchange.elapsed⟩, s)

end Client

end Things

end HookBridge
