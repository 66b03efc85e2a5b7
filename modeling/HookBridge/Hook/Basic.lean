/-
**Hooks.**

The broker asks the bridge at three points of a client's life: when it registers, when it publishes
and when it subscribes.

Main definitions:

* `HookBridge.Hook` — the three hooks, with their names, paths and fields;
* `HookBridge.Hook.isNamedBy` — whether a header value names a hook;
* `HookBridge.HookRequest` — what a hook request says;
* `HookBridge.HookError`, `HookBridge.HookError.status` — why a hook request is not accepted, and
  the status that tells the broker.
-/

import HookBridge.Authorizer
import HookBridge.Message
import HookBridge.Topic

set_option relaxedAutoImplicit false
set_option autoImplicit false

namespace HookBridge

/-- The points of a client's life at which the broker asks. -/
inductive Hook
  | register
  | publish
  | subscribe
  deriving DecidableEq, Repr

namespace Hook

/-- All hooks, in the order in which they are listed. -/
def all : List Hook := [register, publish, subscribe]

/-- The name of a hook. -/
def name : Hook → String
  | register => "auth_on_register"
  | publish => "auth_on_publish"
  | subscribe => "auth_on_subscribe"

/-- The path of a hook. -/
def path (h : Hook) : String := "/" ++ h.name

/-- The hook of a given name. -/
def ofName? (name : String) : Option Hook := all.find? (·.name == name)

/-- The hook at a given path. -/
def ofPath? (path : String) : Option Hook := all.find? (·.path == path)

/-- The place of a hook in the list of all hooks. -/
def rank : Hook → Nat
  | register => 0
  | publish => 1
  | subscribe => 2

/-- `pattern` stands somewhere in a text. -/
def occursIn (pattern : List Char) : List Char → Bool
  | [] => pattern.isEmpty
  | c :: rest => pattern.isPrefixOf (c :: rest) || occursIn pattern rest

/-- The value of the hook header names the hook: the hook's name stands somewhere in it. -/
def isNamedBy (h : Hook) (header : String) : Bool := occursIn h.name.toList header.toList

/-- The header field in which the broker names the hook. -/
def headerName : String := "vernemq-hook"

/-- The fields of a hook's body. -/
def fields : Hook → List String
  | register => ["password"]
  | publish => ["username", "topic", "payload"]
  | subscribe => ["username", "topic"]

end Hook

/-- What a hook request says. -/
inductive HookRequest
  /-- a client registers with a password -/
  | register (password : String)
  /-- a client publishes a payload of a media type under a topic -/
  | publish (username topic : String) (payload : Bytes) (contentType : String)
  /-- a client subscribes to a topic -/
  | subscribe (username topic : String)
  deriving DecidableEq, Repr

/-- Why a hook request is not accepted. -/
inductive HookError
  /-- the hook header does not name the hook -/
  | unsupportedRequest
  /-- the body does not say what the hook needs to know -/
  | malformedBody (detail : String)
  /-- the topic addresses nothing -/
  | topic (error : TopicError)
  /-- the client is turned away -/
  | auth (error : AuthError)
  /-- anything else -/
  | unclassified (reason : String)
  deriving DecidableEq, Repr

namespace HookError

/-- A message that was not taken. -/
def ofPublish (error : PublishError) : HookError := .unclassified error.message

/-- The status that tells the broker: a bad request, a refusal, a service out of order, or a
failure of the bridge. -/
def status : HookError → Nat
  | .unsupportedRequest => 400
  | .malformedBody _ => 400
  | .topic _ => 400
  | .auth .unauthorized => 403
  | .auth (.backend error) => if error.isDenial then 403 else 503
  | .unclassified _ => 500

/-- The words for a hook request that is not accepted. -/
def message : HookError → String
  | .unsupportedRequest => "unsupported hook request"
  | .malformedBody detail => "malformed request body: " ++ detail
  | .topic error => error.message
  | .auth error => error.message
  | .unclassified reason => reason

end HookError

end HookBridge
