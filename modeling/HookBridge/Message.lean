/-
**Messages.**

A publish hook that is accepted becomes a message for the bus.

Main definitions:

* `HookBridge.Message` — who publishes what to which address;
* `HookBridge.Message.json` — the text of a message on the bus;
* `HookBridge.Publisher` — whatever takes messages, with a state;
* `HookBridge.Publisher.drop` — the publisher that takes every message and keeps none.
-/

import HookBridge.Json.Record
import HookBridge.Text.Base64

set_option relaxedAutoImplicit false
set_option autoImplicit false

namespace HookBridge

/-- A message for the bus. -/
structure Message where
  /-- the identifier of the thing that publishes -/
  publisher : String
  /-- the protocol that the message came by -/
  protocol : String
  /-- the media type of the payload, empty if unknown -/
  contentType : String
  /-- the channel -/
  channel : String
  /-- the canonical subtopic below the channel -/
  subtopic : String
  payload : Bytes
  deriving DecidableEq, Repr

/-- The protocol of every message that comes through a hook. -/
def Message.mqtt : String := "mqtt"

/-- The fields of a message on the bus, the payload in base64. -/
def Message.fields (m : Message) : List (String × String) :=
  [("publisher", m.publisher), ("protocol", m.protocol), ("contentType", m.contentType),
   ("channel", m.channel), ("subtopic", m.subtopic), ("payload", Base64.encode m.payload)]

/-- The text of a message on the bus. -/
def Message.json (m : Message) : String := Json.record m.fields

/-- A message that was not taken, and why. -/
structure PublishError where
  reason : String
  deriving DecidableEq, Repr

/-- The words for a message that was not taken. -/
def PublishError.message (e : PublishError) : String := "unable to publish message: " ++ e.reason

/-- Whatever takes messages, with a state. -/
abbrev Publisher (σ : Type) := Message → σ → Except PublishError Unit × σ

/-- Takes every message and keeps none. -/
def Publisher.drop {σ : Type} : Publisher σ := fun _ s => (.ok (), s)

end HookBridge
