import ProxyChain.Command.Failure
import ProxyChain.Command.Grammar
import ProxyChain.Command.Invocation
import ProxyChain.Command.Perform
import ProxyChain.Command.Table
import ProxyChain.Config.Balancers
import ProxyChain.Config.Basic
import ProxyChain.Config.Codec
import ProxyChain.Config.Compile
import ProxyChain.Decimal.Double
import ProxyChain.Decimal.Fixed
import ProxyChain.Decimal.Reader
import ProxyChain.Decimal.Shortest
import ProxyChain.Deploy.Client
import ProxyChain.Deploy.Response
import ProxyChain.Deploy.Retry
import ProxyChain.Deploy.Session
import ProxyChain.Document
import ProxyChain.Error
import ProxyChain.FileFormat
import ProxyChain.Json.Printer
import ProxyChain.Json.Reader
import ProxyChain.Json.Token
import ProxyChain.Json.Value
import ProxyChain.Log.Line
import ProxyChain.Log.Record
import ProxyChain.Main
import ProxyChain.Net.Address
import ProxyChain.Net.Exchange
import ProxyChain.Net.Host
import ProxyChain.Net.Percent
import ProxyChain.Net.Url
import ProxyChain.Net.Wire
import ProxyChain.Node.Codec
import ProxyChain.Node.Definition
import ProxyChain.Node.Kind
import ProxyChain.Program.Basic
import ProxyChain.Program.Directory
import ProxyChain.Program.Run
import ProxyChain.RoundRobin.Fingerprint
import ProxyChain.RoundRobin.Plan
import ProxyChain.RoundRobin.Ports
import ProxyChain.Sequence
import ProxyChain.Settings.Active
import ProxyChain.Settings.Basic
import ProxyChain.Settings.Check
import ProxyChain.Settings.Codec
import ProxyChain.Tag
import ProxyChain.Text.Blank
import ProxyChain.Text.Digits
import ProxyChain.Text.Units
import ProxyChain.Topology.Basic
import ProxyChain.Topology.Codec
import ProxyChain.Topology.Edit
import ProxyChain.Topology.Index
import ProxyChain.Topology.Link
import ProxyChain.Topology.Normalize
import ProxyChain.Topology.Profile
import ProxyChain.Topology.Session
import ProxyChain.Yaml.Cursor
import ProxyChain.Yaml.Layout
import ProxyChain.Yaml.Node
import ProxyChain.Yaml.Plain
import ProxyChain.Yaml.Printer
import ProxyChain.Yaml.Reader
import ProxyChain.Yaml.Scalar
import ProxyChain.Yaml.Token
import ProxyChain.Proofs.Sequence
import ProxyChain.Proofs.Text.Digits
import ProxyChain.Proofs.Json.Canonical
import ProxyChain.Proofs.Document
import ProxyChain.Proofs.Node.Codec
import ProxyChain.Proofs.Topology.Codec
import ProxyChain.Proofs.Config.Codec
import ProxyChain.Proofs.Topology.Placement
import ProxyChain.Proofs.Topology.NormalForm
import ProxyChain.Proofs.Topology.Repair
import ProxyChain.Proofs.Topology.Normalize
import ProxyChain.Proofs.Topology.Renaming
import ProxyChain.Proofs.Topology.Link
import ProxyChain.Proofs.Topology.Linking
import ProxyChain.Proofs.Topology.LookUps
import ProxyChain.Proofs.Topology.LinkRuns
import ProxyChain.Proofs.Topology.Clearing
import ProxyChain.Proofs.Topology.Counters
import ProxyChain.Proofs.Topology.Layers
import ProxyChain.Proofs.Topology.Edit
import ProxyChain.Proofs.Topology.NewIds
import ProxyChain.Proofs.Topology.Moving
import ProxyChain.Proofs.Topology.Consistency
import ProxyChain.Proofs.Topology.NoRepair
import ProxyChain.Proofs.Topology.Session
import ProxyChain.Proofs.Topology.Rejection
import ProxyChain.Proofs.Topology.Saving
import ProxyChain.Proofs.Topology.Deletion
import ProxyChain.Proofs.Topology.Relabelling
import ProxyChain.Proofs.RoundRobin.Freshness
import ProxyChain.Proofs.RoundRobin.Ports
import ProxyChain.Proofs.RoundRobin.Outputs
import ProxyChain.Proofs.RoundRobin.Plan
import ProxyChain.Proofs.RoundRobin.PortRanges
import ProxyChain.Proofs.RoundRobin.SyntheticIds
import ProxyChain.Proofs.RoundRobin.Dialling
import ProxyChain.Proofs.RoundRobin.Checks
import ProxyChain.Proofs.RoundRobin.Renaming
import ProxyChain.Proofs.Config.Compile
import ProxyChain.Proofs.Config.References
import ProxyChain.Proofs.Config.Forwarding
import ProxyChain.Proofs.Config.Outcome
import ProxyChain.Proofs.Config.Candidates
import ProxyChain.Proofs.Config.SyntheticTags
import ProxyChain.Proofs.Config.Balancers
import ProxyChain.Proofs.Config.BalancerOrder
import ProxyChain.Proofs.Config.Listeners
import ProxyChain.Proofs.Config.Tags
import ProxyChain.Proofs.Config.Order
import ProxyChain.Proofs.Config.Chains
import ProxyChain.Proofs.Config.Terminals
import ProxyChain.Proofs.Config.Renaming
import ProxyChain.Proofs.Config.Graph
import ProxyChain.Proofs.Program.Run
import ProxyChain.Proofs.Deploy.Posting
import ProxyChain.Proofs.Deploy.Attempts
import ProxyChain.Proofs.Deploy.Session
