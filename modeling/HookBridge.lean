import HookBridge.Authorizer
import HookBridge.CommandLine
import HookBridge.Duration
import HookBridge.Files
import HookBridge.Hook.Basic
import HookBridge.Hook.Body
import HookBridge.Hook.Decision
import HookBridge.Http.Address
import HookBridge.Http.Chunked
import HookBridge.Http.Domain
import HookBridge.Http.Domain.Table
import HookBridge.Http.Message
import HookBridge.Http.Network
import HookBridge.Http.Reception
import HookBridge.Http.Replay
import HookBridge.Http.Status
import HookBridge.Http.Target
import HookBridge.Http.Url
import HookBridge.Http.Wire
import HookBridge.Json.Record
import HookBridge.Json.Token
import HookBridge.Json.Value
import HookBridge.Launch
import HookBridge.LogPath
import HookBridge.Logger
import HookBridge.Main
import HookBridge.Message
import HookBridge.Metrics
import HookBridge.Metrics.Task
import HookBridge.Moment
import HookBridge.Publisher
import HookBridge.Router
import HookBridge.Scripted
import HookBridge.Service
import HookBridge.Settings.Basic
import HookBridge.Settings.Load
import HookBridge.Subtopic
import HookBridge.Text.Base64
import HookBridge.Text.ControlSequence
import HookBridge.Text.Decimal
import HookBridge.Text.Percent
import HookBridge.Text.Punycode
import HookBridge.Text.Quoted
import HookBridge.Text.Unseen
import HookBridge.Text.Utf8
import HookBridge.Things.Basic
import HookBridge.Things.Client
import HookBridge.Toml.Document
import HookBridge.Toml.Scalar
import HookBridge.Toml.Table
import HookBridge.Toml.Text
import HookBridge.Topic
import HookBridge.Proofs.Topic
import HookBridge.Proofs.Text.Spelling
import HookBridge.Proofs.Subtopic
import HookBridge.Proofs.Hook.Inquiry
import HookBridge.Proofs.Router
import HookBridge.Proofs.Scripted
import HookBridge.Proofs.Hook.Rules
import HookBridge.Proofs.Authorization
import HookBridge.Proofs.Hook.Agreement
import HookBridge.Proofs.Address
import HookBridge.Proofs.Answers
import HookBridge.Proofs.Http.Network
import HookBridge.Proofs.Service
import HookBridge.Proofs.Hook.Query
import HookBridge.Proofs.Accounting
import HookBridge.Proofs.ReplyClass
import HookBridge.Proofs.Payload
import HookBridge.Proofs.Bystanders
import HookBridge.Proofs.Independence
import HookBridge.Proofs.Subtopic.Concat
import HookBridge.Proofs.Subtopic.FixedPoint
import HookBridge.Proofs.Hook.Body
import HookBridge.Proofs.Message
import HookBridge.Proofs.Things.Client
import HookBridge.Proofs.Authorizer
import HookBridge.Proofs.Metrics.Task
import HookBridge.Proofs.Settings
import HookBridge.Proofs.Toml.Plain
import HookBridge.Proofs.Settings.Load
import HookBridge.Proofs.Launch
import HookBridge.Proofs.Logger
import HookBridge.Proofs.Subtopic.Unescape
