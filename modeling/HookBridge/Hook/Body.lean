/-
**Reading hook requests.**

Main definitions:

* `HookBridge.Hook.requestOf?` — the request that the fields of a body make up;
* `HookBridge.Hook.readBody?` — the request that a body makes up;
* `HookBridge.Hook.decode` — the request of headers and body, or why there is none.
-/

import HookBridge.Hook.Basic
import HookBridge.Http.Message

set_option relaxedAutoImplicit false
set_option autoImplicit false

namespace HookBridge

namespace Hook

/-- The request that the fields of a body make up; an absent field is empty. -/
def requestOf? (h : Hook) (contentType : String) (texts : List (Option String)) :
    Option HookRequest :=
  match h, texts with
  | .register, [password] => some (.register (password.getD ""))
  | .publish, [username, topic, payload] =>
      (Base64.decode? (payload.getD "")).map fun payload =>
        .publish (username.getD "") (topic.getD "") payload contentType
  | .subscribe, [username, topic] => some (.subscribe (username.getD "") (topic.getD ""))
  | _, _ => none

/-- The request that a body makes up. -/
def readBody? (h : Hook) (contentType : String) (body : Bytes) : Option HookRequest :=
  match Json.parse? body with
  | some value =>
      match Json.texts? h.fields value with
      | some texts => h.requestOf? contentType texts
      | none => none
  | none => none

/-- The request of headers and body.  A request that is not for this hook is refused before its
body is looked at. -/
def decode (h : Hook) (headers : Http.Headers) (body : Bytes) : Except HookError HookRequest :=
  if h.isNamedBy (headers.text headerName) then
    match h.readBody? (headers.text "content-type") body with
    | some request => .ok request
    | none => .error (.malformedBody ("no record of the " ++ h.name ++ " hook"))
  else .error .unsupportedRequest

end Hook

end HookBridge
