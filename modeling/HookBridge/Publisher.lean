/-
**A message bus over HTTP.**

Main definitions:

* `HookBridge.BusClient` — the bus at an address;
* `HookBridge.BusClient.publisher` — the client as a publisher, over a transport.
-/

import HookBridge.Http.Network
import HookBridge.Http.Status
import HookBridge.Message

set_option relaxedAutoImplicit false
set_option autoImplicit false

namespace HookBridge

/-- A message bus at an address, with a timeout. -/
structure BusClient where
  url : String
  timeout : Duration

namespace BusClient

/-- What an exchange with the bus comes to.  The body of an answer does not count. -/
def read : Http.Outcome → Except PublishError Unit
  | .noAddress => .error ⟨"no request can be sent to the address"⟩
  | .refused => .error ⟨"nobody listens at the address"⟩
  | .overdue => .error ⟨"the request timed out"⟩
  | .closed => .error ⟨"the connection was closed"⟩
  | .response status _ =>
      if Http.isSuccess status then .ok ()
      else .error ⟨"message bus responded with " ++ Http.statusLine status⟩

/-- The client as a publisher, over a transport. -/
def publisher {σ : Type} (c : BusClient) (post : Http.Transport σ) : Publisher σ := fun message s =>
  let (exchange, s) := post ⟨c.url, message.json, c.timeout⟩ s
  (read exchange.outcome, s)

end BusClient

end HookBridge
