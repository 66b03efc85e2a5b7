/-
**Channel topics.**

A client addresses a channel by a topic of the form `/channels/<id>/messages`, optionally followed
by a path below the channel and by a query.  This module takes such a topic apart.

Main definitions:

* `HookBridge.TopicError` — a refused address, with the words for it;
* `HookBridge.ChannelTopic` — a channel and the path below it, still as the client wrote it;
* `HookBridge.ChannelTopic.parse?`, `HookBridge.ChannelTopic.parse` — the reading of a topic.
-/

set_option relaxedAutoImplicit false
set_option autoImplicit false

namespace HookBridge

/-- A refused address: which part of it is malformed, and in what way. -/
inductive TopicError
  /-- the topic addresses no channel -/
  | malformedTopic (detail : String)
  /-- the path below the channel has no canonical form -/
  | malformedSubtopic (detail : String)
  deriving DecidableEq, Repr

/-- The words for a refused address. -/
def TopicError.message : TopicError → String
  | .malformedTopic detail => "malformed topic: " ++ detail
  | .malformedSubtopic detail => "malformed subtopic: " ++ detail

/-- A channel, and the path below it as the client wrote it. -/
structure ChannelTopic where
  /-- the identifier of the channel -/
  channel : String
  /-- the path below the channel, without the separator before it -/
  path : String
  deriving DecidableEq, Repr

namespace ChannelTopic

/-- The characters of a channel identifier. -/
def isIdChar (c : Char) : Bool := c.isAlphanum || c == '_' || c == '-'

/-- What may follow the path: nothing, or a query on one line. -/
def isQuery : List Char → Bool
  | [] => true
  | c :: rest => c == '?' && !rest.contains '\n'

/-- The path below the channel and what follows it, at the end of `/channels/<id>/messages`. -/
def splitPath : List Char → List Char × List Char
  | '/' :: rest => (rest.takeWhile (· != '?'), rest.dropWhile (· != '?'))
  | rest => ([], rest)

/-- Takes a topic apart; `none` if it addresses no channel. -/
def parse? (topic : String) : Option ChannelTopic :=
  match "/channels/".toList.isPrefixOf? topic.toList with
  | none => none
  | some afterRoot =>
      let channel := afterRoot.takeWhile isIdChar
      match "/messages".toList.isPrefixOf? (afterRoot.dropWhile isIdChar) with
      | none => none
      | some afterChannel =>
          let (path, query) := splitPath afterChannel
          if channel.isEmpty || !isQuery query then none
          else some ⟨String.ofList channel, String.ofList path⟩

/-- Takes a topic apart, or says that it addresses no channel. -/
def parse (topic : String) : Except TopicError ChannelTopic :=
  match parse? topic with
  | some t => .ok t
  | none => .error (.malformedTopic ("\"" ++ topic ++ "\" is not a channel topic"))

end ChannelTopic

end HookBridge
