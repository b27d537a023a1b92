import AgentOperator.Agent.Condition
import AgentOperator.Agent.Defaults
import AgentOperator.Agent.Resource
import AgentOperator.Agent.Spec
import AgentOperator.Api.Answer
import AgentOperator.Api.Client
import AgentOperator.Api.Nodes
import AgentOperator.Api.Request
import AgentOperator.Api.Server
import AgentOperator.Api.Store
import AgentOperator.Codec.Basic
import AgentOperator.Codec.Described
import AgentOperator.Codec.Outline
import AgentOperator.Codec.Schema
import AgentOperator.Config
import AgentOperator.Controller.Event
import AgentOperator.Controller.Finalizer
import AgentOperator.Controller.Outside
import AgentOperator.Controller.Ownership
import AgentOperator.Controller.Reconcile
import AgentOperator.Controller.World
import AgentOperator.Dataplane.Apply
import AgentOperator.Dataplane.Component
import AgentOperator.Dataplane.Deployments
import AgentOperator.Dataplane.Mutate
import AgentOperator.Dataplane.Names
import AgentOperator.Dataplane.NodeAgent
import AgentOperator.Dataplane.Outside
import AgentOperator.Dataplane.Pass
import AgentOperator.Dataplane.Plan
import AgentOperator.Dataplane.Service
import AgentOperator.Dataplane.Webhooks
import AgentOperator.Dataplane.World
import AgentOperator.Dict
import AgentOperator.Duration
import AgentOperator.Error
import AgentOperator.Gateway
import AgentOperator.HttpStatus
import AgentOperator.Json.Basic
import AgentOperator.Json.Double
import AgentOperator.Json.Patch
import AgentOperator.Json.Source
import AgentOperator.Json.Text
import AgentOperator.Json.Yaml
import AgentOperator.Keyed
import AgentOperator.Kube.ApiVersion
import AgentOperator.Kube.Config
import AgentOperator.Kube.Container
import AgentOperator.Kube.Key
import AgentOperator.Kube.Meta
import AgentOperator.Kube.Node
import AgentOperator.Kube.Object
import AgentOperator.Kube.Parts
import AgentOperator.Kube.Placement
import AgentOperator.Kube.Pod
import AgentOperator.Kube.Quantity
import AgentOperator.Kube.Service
import AgentOperator.Kube.Webhook
import AgentOperator.Kube.Workload
import AgentOperator.Main
import AgentOperator.Metrics
import AgentOperator.Path
import AgentOperator.Script
import AgentOperator.Store.Call
import AgentOperator.Store.Table
import AgentOperator.Text.Base64
import AgentOperator.Text.Blank
import AgentOperator.Text.Certificate
import AgentOperator.Text.Der
import AgentOperator.Text.Pem
import AgentOperator.Text.Utf8
import AgentOperator.Timestamp
import AgentOperator.Tls
import AgentOperator.TlsDirectory
import AgentOperator.Workload.Container
import AgentOperator.Workload.Env
import AgentOperator.Workload.Labels
import AgentOperator.Workload.Placement
import AgentOperator.Workload.Volumes
import AgentOperator.Proofs.Containers
import AgentOperator.Proofs.Deployments
import AgentOperator.Proofs.NodeAgent
import AgentOperator.Proofs.Mutate
import AgentOperator.Proofs.Codecs
import AgentOperator.Proofs.Schemas
import AgentOperator.Proofs.Objects
import AgentOperator.Proofs.Readings
import AgentOperator.Proofs.Runs
import AgentOperator.Proofs.Applying
import AgentOperator.Proofs.Tidy
import AgentOperator.Proofs.Wanted
import AgentOperator.Proofs.Placed
import AgentOperator.Proofs.Moments
import AgentOperator.Proofs.Anchors
import AgentOperator.Proofs.Orderly
import AgentOperator.Proofs.Settling
import AgentOperator.Proofs.Convergence
import AgentOperator.Proofs.Frames
import AgentOperator.Proofs.Withdrawal
import AgentOperator.Proofs.Steps
import AgentOperator.Proofs.Inventory
import AgentOperator.Proofs.Assembly
import AgentOperator.Proofs.Interruption
import AgentOperator.Proofs.Certificates
import AgentOperator.Proofs.Writes
import AgentOperator.Proofs.Plain
import AgentOperator.Proofs.Prefixes
import AgentOperator.Proofs.Accounting
import AgentOperator.Proofs.Retention
import AgentOperator.Proofs.Resumption
import AgentOperator.Proofs.Recovery
import AgentOperator.Proofs.Contention
import AgentOperator.Proofs.Overwriting
import AgentOperator.Proofs.Gist
import AgentOperator.Proofs.History
import AgentOperator.Proofs.Ownership
import AgentOperator.Proofs.Fresh
import AgentOperator.Proofs.Rendering
import AgentOperator.Proofs.References
import AgentOperator.Proofs.Pruning
import AgentOperator.Proofs.Rereading
import AgentOperator.Proofs.Flapping
import AgentOperator.Proofs.Wire
import AgentOperator.Proofs.Rewriting
import AgentOperator.Proofs.Conversations
import AgentOperator.Proofs.Atomicity
import AgentOperator.Proofs.Calls
import AgentOperator.Proofs.Schedule
import AgentOperator.Proofs.Reports
import AgentOperator.Proofs.Gates
import AgentOperator.Proofs.Furnishing
import AgentOperator.Proofs.Leftovers
import AgentOperator.Proofs.Drift
import AgentOperator.Proofs.Scope
import AgentOperator.Proofs.Precedence
import AgentOperator.Proofs.Entries
import AgentOperator.Proofs.Versions
import AgentOperator.Proofs.Generations
import AgentOperator.Proofs.Eligibility
import AgentOperator.Proofs.Selection
import AgentOperator.Proofs.Scraping
import AgentOperator.Proofs.RootCertificates
import AgentOperator.Proofs.Conditions
import AgentOperator.Proofs.SoleController
import AgentOperator.Proofs.Labels
import AgentOperator.Proofs.Defaults
import AgentOperator.Proofs.Limits
import AgentOperator.Proofs.Images
import AgentOperator.Proofs.Variants
import AgentOperator.Proofs.Sections
import AgentOperator.Proofs.InPlace
import AgentOperator.Proofs.NodeTerms
import AgentOperator.Proofs.KubeletVersion
import AgentOperator.Proofs.Untyped
import AgentOperator.Proofs.Addresses
import AgentOperator.Proofs.StoreCalls
import AgentOperator.Proofs.KeyedStore
import AgentOperator.Proofs.MemoryServer
import AgentOperator.Proofs.Scaling
