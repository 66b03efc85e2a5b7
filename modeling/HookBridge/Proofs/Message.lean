/-
**Messages arrive on the bus as they are.**

A message has six texts and some bytes, and none of them is under the bridge's control.  What is
posted to the bus is a text of JSON all the same, with these six members and no other, and reading
it back gives the message itself.  So no content of a field can pass for the end of its string, let
alone for another member.

Main definitions:

* `HookBridge.Message.value` — the object that the bus is told;
* `HookBridge.Message.read?` — the message that a body holds, for whoever reads it.

Main results:

* `HookBridge.Message.isText_json_iff` — the text of a message is one of its object;
* `HookBridge.Message.read?_json` — **what is read back is the message**;
* `HookBridge.BusClient.posts_lossless` — **a message loses nothing on its way to the bus**.
-/

import HookBridge.Proofs.Json.Text
import HookBridge.Proofs.Payload

set_option relaxedAutoImplicit false
set_option autoImplicit false

namespace HookBridge

namespace Message

/-- The object that the bus is told. -/
def value (m : Message) : Json.Value :=
  .obj [(some "publisher", .str (some m.publisher)), (some "protocol", .str (some m.protocol)),
    (some "contentType", .str (some m.contentType)), (some "channel", .str (some m.channel)),
    (some "subtopic", .str (some m.subtopic)),
    (some "payload", .str (some (Base64.encode m.payload)))]

/-- The names of the fields of a message. -/
def names : List String :=
  ["publisher", "protocol", "contentType", "channel", "subtopic", "payload"]

/-- The message that the fields of a record make up, none of which may be absent. -/
def ofTexts? : List (Option String) → Option Message
  | [some publisher, some protocol, some contentType, some channel, some subtopic, some payload] =>
      (Base64.decode? payload).map (⟨publisher, protocol, contentType, channel, subtopic, ·⟩)
  | _ => none

/-- The message that a body holds. -/
def read? (body : Bytes) : Option Message :=
  (Json.parse? body).bind fun v => (Json.texts? names v).bind ofTexts?

/-- The text of a message is one of its object, and of nothing else. -/
theorem isText_json_iff {m : Message} {v : Json.Value} :
    Json.IsText (Utf8.encode m.json) v ↔ v = m.value := Json.isText_record_iff

/-- **What is read back is the message.** -/
theorem read?_json (m : Message) : read? (Utf8.encode m.json) = some m := by
  have htexts : Json.texts? names m.value = some [some m.publisher, some m.protocol,
      some m.contentType, some m.channel, some m.subtopic, some (Base64.encode m.payload)] := by
    simp [Json.texts?, value, names, Json.valuesOf, Json.textOf?]
  rw [read?, Json.parse?_eq_some_iff.2 (isText_json_iff.2 rfl), Option.bind_some, htexts,
    Option.bind_some, ofTexts?, Base64.decode?_encode, Option.map_some]

/-- Different messages have different texts. -/
theorem json_injective : Function.Injective json := by
  intro m m' h
  exact Option.some.inj ((read?_json m).symm.trans (h ▸ read?_json m'))

/-- Where the text of a message ends can be told whatever follows, and so can the message. -/
theorem json_append_inj {m m' : Message} {rest rest' : String} :
    m.json ++ rest = m'.json ++ rest' ↔ m = m' ∧ rest = rest' := by
  rw [json, json, Json.record_append_inj]
  refine and_congr_left fun _ => ⟨fun h => json_injective (congrArg Json.record h), ?_⟩
  rintro rfl
  rfl

end Message

namespace BusClient

/-- **A message loses nothing on its way to the bus.**  Whatever is to be published, one text is
posted, and it is the one of the message.  This text is a text of JSON, of an object with the six
members and no other, and whoever reads it back has the message itself.  So different messages have
different texts, also where more text follows; and in front of any text the literal of a field ends
where it ends, whatever the field holds. -/
theorem posts_lossless :
    (∀ (σ : Type) (c : BusClient) (post : Http.Transport σ) (m : Message) (s : σ)
      (before : List Http.Posting),
      (c.publisher (Http.recording post) m (s, before)).2.2 =
        before ++ [⟨c.url, m.json, c.timeout⟩]) ∧
    (∀ (m : Message) (v : Json.Value), Json.IsText (Utf8.encode m.json) v ↔
      v = .obj [(some "publisher", .str (some m.publisher)),
        (some "protocol", .str (some m.protocol)),
        (some "contentType", .str (some m.contentType)),
        (some "channel", .str (some m.channel)), (some "subtopic", .str (some m.subtopic)),
        (some "payload", .str (some (Base64.encode m.payload)))]) ∧
    (∀ m : Message, Message.read? (Utf8.encode m.json) = some m) ∧
    Function.Injective Message.json ∧
    (∀ (m m' : Message) (rest rest' : String),
      m.json ++ rest = m'.json ++ rest' ↔ m = m' ∧ rest = rest') ∧
    ∀ (text text' : String) (rest rest' : List Char),
      Json.quote text ++ rest = Json.quote text' ++ rest' ↔ text = text' ∧ rest = rest' :=
  ⟨fun _ _ _ _ _ _ => rfl, fun _ _ => Message.isText_json_iff, Message.read?_json,
    Message.json_injective, fun _ _ _ _ => Message.json_append_inj,
    fun _ _ _ _ => Json.quote_append_inj⟩

/-- A message whose channel would like to be its payload. -/
def forged : Message :=
  ⟨"u1", "mqtt", "", "c\",\"payload\":\"AA==\"\x7d", "\u0000\\", [0x68, 0x69]⟩

/-- It is not. -/
theorem posts_lossless_forged :
    Json.IsText (Utf8.encode forged.json) forged.value ∧
      Message.read? (Utf8.encode forged.json) = some forged :=
  ⟨(posts_lossless.2.1 forged forged.value).2 rfl, posts_lossless.2.2.1 forged⟩

end BusClient

end HookBridge
