import PluggableHost.CommandLine.Arguments
import PluggableHost.CommandLine.Program
import PluggableHost.Config.Document
import PluggableHost.Config.Problem
import PluggableHost.Config.Setting
import PluggableHost.Config.Settings
import PluggableHost.Crypto.Aes
import PluggableHost.Crypto.Curve
import PluggableHost.Crypto.Sha2
import PluggableHost.Crypto.Stretching
import PluggableHost.Decimal.Binary
import PluggableHost.Decimal.Shortest
import PluggableHost.Error
import PluggableHost.Http.Limiter
import PluggableHost.Http.Message
import PluggableHost.Http.Posture
import PluggableHost.Http.Router
import PluggableHost.Http.Wire
import PluggableHost.Lifecycle.Host
import PluggableHost.Lifecycle.Job
import PluggableHost.Lifecycle.Pool
import PluggableHost.Lifecycle.State
import PluggableHost.Lifecycle.Step
import PluggableHost.Main
import PluggableHost.Net.Address
import PluggableHost.Net.Address.Reader
import PluggableHost.Net.Listener
import PluggableHost.Net.Material
import PluggableHost.Net.Protocol
import PluggableHost.Net.Reservation
import PluggableHost.Net.Socket
import PluggableHost.Net.Url
import PluggableHost.Net.Url.Reader
import PluggableHost.Observability.Event
import PluggableHost.Observability.Filter
import PluggableHost.Observability.Journal
import PluggableHost.Observability.LogLine
import PluggableHost.Observability.Metric
import PluggableHost.Os.Failure
import PluggableHost.Os.FileTree
import PluggableHost.Plugin.Activity
import PluggableHost.Plugin.Capability
import PluggableHost.Plugin.Chain
import PluggableHost.Plugin.Hook
import PluggableHost.Plugin.Locator
import PluggableHost.Plugin.Stock
import PluggableHost.Proofs.Lifecycle.AllOrNothing
import PluggableHost.Proofs.Lifecycle.Alone
import PluggableHost.Proofs.Lifecycle.Counting
import PluggableHost.Proofs.Lifecycle.Custody
import PluggableHost.Proofs.Lifecycle.Forward
import PluggableHost.Proofs.Lifecycle.Guard
import PluggableHost.Proofs.Lifecycle.Scene
import PluggableHost.Proofs.Lifecycle.Sparing
import PluggableHost.Proofs.Lifecycle.Stages
import PluggableHost.Proofs.Lifecycle.Writings
import PluggableHost.Proofs.Net.Opening
import PluggableHost.Proofs.Observability.Reading
import PluggableHost.Proofs.Observability.Writing
import PluggableHost.Proofs.Registry.Publication
import PluggableHost.Proofs.Registry.Telling
import PluggableHost.Registry.Directory
import PluggableHost.Registry.Endpoint
import PluggableHost.Registry.Refusing
import PluggableHost.Registry.Registration
import PluggableHost.Registry.SwitchBoard
import PluggableHost.Text.Blank
import PluggableHost.Text.Digits
import PluggableHost.Text.Letters
import PluggableHost.Text.Lossy
import PluggableHost.Text.Quoted
import PluggableHost.Text.Shapeless
import PluggableHost.Text.Similarity
import PluggableHost.Tls.Base64
import PluggableHost.Tls.Certificate
import PluggableHost.Tls.Context
import PluggableHost.Tls.Der
import PluggableHost.Tls.EncryptedKey
import PluggableHost.Tls.Pem
import PluggableHost.Tls.PrivateKey
import PluggableHost.Toml.Item
import PluggableHost.Toml.Number
import PluggableHost.Toml.Quotation
import PluggableHost.Toml.Reader
import PluggableHost.Toml.Tree
import PluggableHost.Proofs.Lifecycle.Deferral
import PluggableHost.Proofs.Lifecycle.Progress
import PluggableHost.Proofs.Lifecycle.Heeding
import PluggableHost.Proofs.Lifecycle.Bookkeeping
import PluggableHost.Proofs.Registry.Office
import PluggableHost.Proofs.Registry.Accounting
import PluggableHost.Proofs.Lifecycle.Published
import PluggableHost.Proofs.Registry.Conservation
import PluggableHost.Proofs.Lifecycle.Heartbeat
import PluggableHost.Proofs.Net.Handles
import PluggableHost.Proofs.Lifecycle.Listeners
import PluggableHost.Proofs.Lifecycle.Draining
import PluggableHost.Proofs.Lifecycle.Effects
import PluggableHost.Proofs.Lifecycle.Agenda
import PluggableHost.Proofs.Lifecycle.Charge
import PluggableHost.Proofs.Lifecycle.SeeingOff
import PluggableHost.Proofs.Lifecycle.SingleFlight
import PluggableHost.Proofs.Lifecycle.Measure
import PluggableHost.Proofs.Lifecycle.Returning
import PluggableHost.Proofs.Registry.Roll
import PluggableHost.Proofs.Registry.Holdings
import PluggableHost.Proofs.Registry.Desk
import PluggableHost.Proofs.Registry.Agreement
import PluggableHost.Proofs.Plugin.Course
import PluggableHost.Proofs.Plugin.Passage
import PluggableHost.Proofs.Plugin.Assembly
import PluggableHost.Proofs.Http.Reception
import PluggableHost.Proofs.Http.Permits
import PluggableHost.Proofs.Http.Serving
import PluggableHost.Proofs.Http.Services
import PluggableHost.Proofs.Http.Twins
import PluggableHost.Proofs.Http.Presentation
import PluggableHost.Proofs.Http.KeepAlive
import PluggableHost.Proofs.Text.Digits
import PluggableHost.Proofs.Text.Utf8
import PluggableHost.Proofs.Net.Spelling
import PluggableHost.Proofs.Config.Validity
import PluggableHost.Proofs.Net.Binding
import PluggableHost.Proofs.Net.Requests
import PluggableHost.Proofs.Net.Together
import PluggableHost.Proofs.Observability.Outcome
import PluggableHost.Proofs.Tls.Making
import PluggableHost.Proofs.Tls.Block
import PluggableHost.Proofs.Lifecycle.Blame
import PluggableHost.Proofs.Lifecycle.OneAddress
import PluggableHost.Proofs.Lifecycle.Secrecy
import PluggableHost.Proofs.Registry.Gate
import PluggableHost.Proofs.Net.Path
import PluggableHost.Proofs.Net.Authority
import PluggableHost.Proofs.Registry.Showing
import PluggableHost.Proofs.Plugin.Isolation
import PluggableHost.Proofs.Lifecycle.HookRun
import PluggableHost.Proofs.Plugin.Provision
import PluggableHost.Proofs.Toml.Distinct
import PluggableHost.Proofs.Config.Value
import PluggableHost.Proofs.Config.Decoding
import PluggableHost.Proofs.Observability.Complaint
import PluggableHost.Proofs.Lifecycle.Complaints
import PluggableHost.Proofs.Lifecycle.Speaking
import PluggableHost.Proofs.Lifecycle.FailingAloud
