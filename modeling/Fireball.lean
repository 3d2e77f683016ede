import Fireball.Foundation.Ascii
import Fireball.Foundation.JsMap
import Fireball.Foundation.Machine
import Fireball.Foundation.Json
import Fireball.Foundation.WebSocket
import Fireball.Foundation.Substitution
import Fireball.Foundation.Url
import Fireball.Foundation.Bytes
import Fireball.Session.Types
import Fireball.Session.Service
import Fireball.Session.Transition
import Fireball.Session.Records
import Fireball.Session.Lifecycle
import Fireball.Session.Trace
import Fireball.Session.Quota
import Fireball.Session.Credentials
import Fireball.Session.Rotation
import Fireball.Session.Revocation
import Fireball.Signaling.Registry
import Fireball.Signaling.Gateway
import Fireball.Signaling.Situation
import Fireball.Signaling.OneRelay
import Fireball.Signaling.Coverage
import Fireball.Signaling.System
import Fireball.Signaling.Connector
import Fireball.Signaling.ConnectorErrors
import Fireball.Supervisor.Proxy
import Fireball.Supervisor.Lease
import Fireball.Supervisor.Listeners
import Fireball.Supervisor.Reservation
import Fireball.Tabs.Controller
import Fireball.Tabs.Driver
import Fireball.Tabs.Runtime
import Fireball.Docker.Create
import Fireball.Docker.Reconcile
import Fireball.Docker.Rollback
import Fireball.Docker.Status
import Fireball.Docker.Transport
import Fireball.Evidence.Documents
import Fireball.Evidence.Files
import Fireball.Evidence.Recreation
import Fireball.Foundation.Terminated
import Fireball.Sandbox.Arguments
import Fireball.Sandbox.Grammar
import Fireball.Deployment.Install
import Fireball.Deployment.Render
import Fireball.Deployment.Transaction
import Fireball.Session.InMemory
import Fireball.Session.Isolation
import Fireball.Session.Observation
import Fireball.Session.Provenance
import Fireball.Session.TwoRuns
import Fireball.Signaling.Closed
import Fireball.Signaling.Handles
import Fireball.Signaling.Handoff
import Fireball.Signaling.Inspection
import Fireball.Supervisor.Forwarding
import Fireball.Tabs.Admission
import Fireball.Tabs.Agreement
import Fireball.Tabs.Atomicity
import Fireball.Tabs.Hops
import Fireball.Tabs.Snapshots
import Fireball.Tabs.HexCodec
import Fireball.Foundation.Base64
import Fireball.Foundation.Decimal
import Fireball.Docker.Usable
import Fireball.Supervisor.TurnArguments
import Fireball.Supervisor.IceSchema
import Fireball.Evidence.Schema
import Fireball.Evidence.Written
import Fireball.Sandbox.Seccomp
import Fireball.Foundation.Channel
import Fireball.Signaling.Link
import Fireball.Supervisor.Reasons
import Fireball.Signaling.Ends
import Fireball.Signaling.Handshake
import Fireball.Signaling.Relaying
import Fireball.Docker.Instances
import Fireball.Docker.Restart
import Fireball.Docker.Operations
import Fireball.Tabs.CommandLine
import Fireball.Supervisor.Startup
import Fireball.Supervisor.Container
