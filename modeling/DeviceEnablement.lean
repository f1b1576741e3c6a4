import DeviceEnablement.Checksum
import DeviceEnablement.Config.Basic
import DeviceEnablement.Config.Document
import DeviceEnablement.Config.Environment
import DeviceEnablement.Device.Basic
import DeviceEnablement.Device.Dispatch
import DeviceEnablement.Device.Lifecycle
import DeviceEnablement.Device.Queue
import DeviceEnablement.Dictionary.Basic
import DeviceEnablement.Dictionary.Key
import DeviceEnablement.Dictionary.Store
import DeviceEnablement.Export
import DeviceEnablement.Failure
import DeviceEnablement.Files.Folder
import DeviceEnablement.Files.Local
import DeviceEnablement.InstanceIds
import DeviceEnablement.Json.Basic
import DeviceEnablement.Json.Raw
import DeviceEnablement.Json.Reading
import DeviceEnablement.Json.Writing
import DeviceEnablement.Main
import DeviceEnablement.Manager.Basic
import DeviceEnablement.Manager.Service
import DeviceEnablement.Message.Command
import DeviceEnablement.Message.CompletionCode
import DeviceEnablement.Message.Error
import DeviceEnablement.Message.Header
import DeviceEnablement.Message.Json
import DeviceEnablement.Message.Operation
import DeviceEnablement.Message.Outgoing
import DeviceEnablement.Message.Request
import DeviceEnablement.Message.Response
import DeviceEnablement.Message.Transfer
import DeviceEnablement.Metadata
import DeviceEnablement.Metadata.Json
import DeviceEnablement.ModelError
import DeviceEnablement.Proofs.Device.Answers
import DeviceEnablement.Proofs.Device.Coherence
import DeviceEnablement.Proofs.Device.Completions
import DeviceEnablement.Proofs.Device.Dispatch
import DeviceEnablement.Proofs.Device.History
import DeviceEnablement.Proofs.Device.IdsInUse
import DeviceEnablement.Proofs.Device.LateResponses
import DeviceEnablement.Proofs.Device.Moves
import DeviceEnablement.Proofs.Device.Outstanding
import DeviceEnablement.Proofs.Device.Reports
import DeviceEnablement.Proofs.Device.Sessions
import DeviceEnablement.Proofs.InstanceIds
import DeviceEnablement.Proofs.Session
import DeviceEnablement.Proofs.Table
import DeviceEnablement.Property.Codec
import DeviceEnablement.Property.Text
import DeviceEnablement.Property.Tree
import DeviceEnablement.Resource.Dump
import DeviceEnablement.Resource.Hierarchy
import DeviceEnablement.Resource.Record
import DeviceEnablement.Resource.Registry
import DeviceEnablement.Session.Basic
import DeviceEnablement.Session.Download
import DeviceEnablement.Session.Negotiation
import DeviceEnablement.Session.Operation
import DeviceEnablement.Session.Step
import DeviceEnablement.State
import DeviceEnablement.Table
import DeviceEnablement.Text.Double
import DeviceEnablement.Text.Hexadecimal
import DeviceEnablement.Text.Numeral
import DeviceEnablement.Transfer.Receiver
import DeviceEnablement.Transfer.Sender
import DeviceEnablement.Transfer.State
import DeviceEnablement.Transport
import DeviceEnablement.Uuid
import DeviceEnablement.Wire.Bytes
import DeviceEnablement.Wire.Reader
import DeviceEnablement.Wire.VarString
import DeviceEnablement.Yaml.Basic
import DeviceEnablement.Yaml.BlockScalar
import DeviceEnablement.Yaml.Cell
import DeviceEnablement.Yaml.Character
import DeviceEnablement.Yaml.Gap
import DeviceEnablement.Yaml.Lexer
import DeviceEnablement.Yaml.Plain
import DeviceEnablement.Yaml.Quoted
import DeviceEnablement.Yaml.Reading
import DeviceEnablement.Yaml.Tag
import DeviceEnablement.Yaml.Token
import DeviceEnablement.Yaml.Writing
import DeviceEnablement.Proofs.Device.Endings
import DeviceEnablement.Proofs.Manager.Course
import DeviceEnablement.Proofs.Manager.Chronicle
import DeviceEnablement.Proofs.Manager.Accounts
import DeviceEnablement.Proofs.Manager.Delivery
import DeviceEnablement.Proofs.Manager.Waiters
import DeviceEnablement.Proofs.Manager.Jobs
import DeviceEnablement.Proofs.Manager.TimeOut
import DeviceEnablement.Proofs.Device.Exchange
import DeviceEnablement.Proofs.Terms
import DeviceEnablement.Proofs.Device.Strides
import DeviceEnablement.Proofs.Device.Outcomes
import DeviceEnablement.Proofs.Device.Stages
import DeviceEnablement.Proofs.Device.Agreement
import DeviceEnablement.Proofs.Device.Queue
import DeviceEnablement.Proofs.Device.Concurrency
import DeviceEnablement.Proofs.Session.Awaiting
import DeviceEnablement.Proofs.Session.Replies
import DeviceEnablement.Proofs.Session.Failures
import DeviceEnablement.Proofs.Session.Subject
import DeviceEnablement.Proofs.Device.Commands
import DeviceEnablement.Proofs.Device.Provisions
import DeviceEnablement.Proofs.Transfer.Sending
import DeviceEnablement.Proofs.Transfer.Receiving
import DeviceEnablement.Proofs.Session.Dialogue
import DeviceEnablement.Proofs.Session.Opening
import DeviceEnablement.Proofs.Session.Progress
import DeviceEnablement.Proofs.Session.Body
import DeviceEnablement.Proofs.Session.Result
import DeviceEnablement.Proofs.Device.Dictionaries
import DeviceEnablement.Proofs.Device.Retention
import DeviceEnablement.Proofs.Device.OperationIds
import DeviceEnablement.Proofs.Device.ReservedKey
import DeviceEnablement.Proofs.Resource.Record
import DeviceEnablement.Proofs.Dictionary.Persistence
import DeviceEnablement.Proofs.Manager.Independence
import DeviceEnablement.Proofs.Manager.Expiry
import DeviceEnablement.Proofs.Resource.Uris
import DeviceEnablement.Proofs.Json.Pretty
import DeviceEnablement.Proofs.Resource.Dump
import DeviceEnablement.Proofs.Resource.Lookup
import DeviceEnablement.Proofs.Dictionary.Reloading
import DeviceEnablement.Proofs.Device.Rejections
import DeviceEnablement.Proofs.Wire.Chunk
import DeviceEnablement.Proofs.Transfer.Outcome
import DeviceEnablement.Proofs.Wire.Truncation
import DeviceEnablement.Proofs.Resource.Truncation
import DeviceEnablement.Proofs.Wire.Response
import DeviceEnablement.Proofs.Wire.Framing
import DeviceEnablement.Proofs.Wire.Interruption
import DeviceEnablement.Proofs.Wire.Request
import DeviceEnablement.Proofs.Checksum
import DeviceEnablement.Proofs.Dictionary.Integrity
import DeviceEnablement.Proofs.Device.Downloads
import DeviceEnablement.Proofs.Device.FetchOrder
import DeviceEnablement.Proofs.Dictionary.Gathering
import DeviceEnablement.Proofs.InstanceIds.Calls
import DeviceEnablement.Proofs.Resource.Contents
import DeviceEnablement.Proofs.Text.Order
import DeviceEnablement.Proofs.Json.Ordered
import DeviceEnablement.Proofs.Property.Tree
import DeviceEnablement.Proofs.Resource.Rebuild
import DeviceEnablement.Proofs.Device.Handling
import DeviceEnablement.Proofs.Device.Termination
