import Centro.Library.TransitionSystem
import Centro.Library.OrderedMap
import Centro.Library.Words
import Centro.Library.Trace
import Centro.Library.Emitter
import Centro.Library.Layers
import Centro.Library.Regex
import Centro.Library.Backtracking
import Centro.Library.JsonSchema
import Centro.Library.JsonText
import Centro.Library.Unicode
import Centro.Library.EventStream
import Centro.Construction.Text
import Centro.Construction.Config
import Centro.Construction.Token
import Centro.Construction.Pattern
import Centro.Construction.ServerConfig
import Centro.Construction.Authorization
import Centro.Construction.Connection
import Centro.Construction.Dstroy
import Centro.Construction.Expiry
import Centro.Construction.Service
import Centro.Construction.Keystore
import Centro.Construction.Lifecycle
import Centro.Construction.Server
import Centro.Construction.Number
import Centro.Construction.Client
import Centro.Construction.Application
import Centro.Construction.Unsubscription
import Centro.Construction.Http
import Centro.Construction.Frame
import Centro.Construction.Claims
import Centro.Construction.Handshake
import Centro.Construction.Mux
import Centro.Construction.LimitActive
import Centro.Construction.ActiveConnections
import Centro.Construction.ActivePublications
import Centro.Construction.Backoff
import Centro.Construction.Sse
import Centro.Construction.HttpExchange
import Centro.Construction.HttpDone
import Centro.Construction.Http2
import Centro.Construction.InMem
import Centro.Construction.Pipeline
import Centro.Construction.ExtensionStack
import Centro.Construction.MessageFilter
import Centro.Construction.InMemClose
import Centro.Proof.Replace
import Centro.Proof.Frame
import Centro.Proof.FrameSettled
import Centro.Proof.Pattern
import Centro.Proof.Ambiguity
import Centro.Proof.Number
import Centro.Proof.Authorization.Lift
import Centro.Proof.Authorization.Attempt
import Centro.Proof.Authorization.Cancel
import Centro.Proof.Authorization.Verified
import Centro.Proof.Connection.Effects
import Centro.Proof.Connection.Lift
import Centro.Proof.Connection.Closing
import Centro.Proof.Connection.Registry
import Centro.Proof.Connection.RegistryRun
import Centro.Proof.Connection.Moves
import Centro.Proof.Connection.Isolation
import Centro.Proof.Connection.Destroyed
import Centro.Proof.Connection.Loops
import Centro.Proof.Connection.Change
import Centro.Proof.Connection.Presence
import Centro.Proof.Connection.Revocation
import Centro.Proof.Connection.Greeting
import Centro.Proof.Connection.Limits
import Centro.Proof.Connection.Interference
import Centro.Proof.Connection.Dstroy
import Centro.Proof.Connection.Expiry
import Centro.Proof.Connection.Events
import Centro.Proof.Server.Starts
import Centro.Proof.Server.Steps
import Centro.Proof.Server.Phases
import Centro.Proof.Server.Close
import Centro.Proof.Server.Control
import Centro.Proof.Server.Drained
import Centro.Proof.Server.Answered
import Centro.Proof.Server.Registered
import Centro.Proof.Server.Progress
import Centro.Proof.Server.FailedStart
import Centro.Proof.Server.ReleasedStart
import Centro.Proof.Client.Handlers
import Centro.Proof.Client.Operations
import Centro.Proof.Client.Delivery
import Centro.Proof.Client.Subscribers
import Centro.Proof.Client.Tables
import Centro.Proof.Client.Agreement
import Centro.Proof.Client.Sweep
import Centro.Proof.Client.PreSubscription
import Centro.Proof.Client.Scope
import Centro.Proof.Client.Unsubscribed
import Centro.Proof.Client.Tokens
import Centro.Proof.Client.Restored
import Centro.Proof.Client.Accepted
import Centro.Proof.Mux.Decoder
import Centro.Proof.Mux.Received
import Centro.Proof.Mux.Handshake
import Centro.Proof.Mux.Exchange
import Centro.Proof.LimitActive.Steps
import Centro.Proof.LimitActive.Limit
import Centro.Proof.LimitActive.Counter
import Centro.Proof.LimitActive.Connections
import Centro.Proof.LimitActive.Publications
import Centro.Proof.Backoff
import Centro.Proof.Sse
import Centro.Proof.HttpExchange.Done
import Centro.Proof.HttpExchange.Steps
import Centro.Proof.HttpExchange.Head
import Centro.Proof.HttpExchange.Left
import Centro.Proof.HttpExchange.Discipline
import Centro.Proof.Http2.Tracked
import Centro.Proof.Http2.Slots
import Centro.Proof.Http2.Limit
import Centro.Proof.InMem.Transfer
import Centro.Proof.InMem.Pair
import Centro.Proof.Pipeline.Lawful
import Centro.Proof.Pipeline.Fold
import Centro.Proof.ExtensionStack.Steps
import Centro.Proof.ExtensionStack.Answers
import Centro.Proof.ExtensionStack.Way
import Centro.Proof.ExtensionStack.Limits
import Centro.Proof.ExtensionStack.Publishing
import Centro.Proof.MessageFilter
import Centro.Proof.InMem.Close
