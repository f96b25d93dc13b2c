import OpticalTestbed.Binary64
import OpticalTestbed.Binding
import OpticalTestbed.Bindings
import OpticalTestbed.BringUp.Basic
import OpticalTestbed.BringUp.Operations
import OpticalTestbed.CommandLine.Arguments
import OpticalTestbed.CommandLine.Commands
import OpticalTestbed.Configuration
import OpticalTestbed.Console
import OpticalTestbed.Devices
import OpticalTestbed.Dict
import OpticalTestbed.Dpid
import OpticalTestbed.Duration
import OpticalTestbed.Emulator
import OpticalTestbed.Failure
import OpticalTestbed.FileTree
import OpticalTestbed.Home
import OpticalTestbed.HostAddress
import OpticalTestbed.HostName.Composition
import OpticalTestbed.HostName.Direction
import OpticalTestbed.HostName.Joining
import OpticalTestbed.HostName.Mapping
import OpticalTestbed.HostName.Punycode
import OpticalTestbed.HostName.Reading
import OpticalTestbed.Interfaces
import OpticalTestbed.Inventory
import OpticalTestbed.Invocation
import OpticalTestbed.Json.Basic
import OpticalTestbed.Json.Parser
import OpticalTestbed.Json.Printer
import OpticalTestbed.Loading
import OpticalTestbed.Main
import OpticalTestbed.NetworkConfig
import OpticalTestbed.OpenVSwitch
import OpticalTestbed.Path
import OpticalTestbed.Poll
import OpticalTestbed.Proofs.Accounting
import OpticalTestbed.Proofs.BindReport
import OpticalTestbed.Proofs.Bindings
import OpticalTestbed.Proofs.BringUp.Aborting
import OpticalTestbed.Proofs.BringUp.Cancelling
import OpticalTestbed.Proofs.BringUp.Consistency
import OpticalTestbed.Proofs.BringUp.Course
import OpticalTestbed.Proofs.BringUp.CrossConnects
import OpticalTestbed.Proofs.BringUp.Forgetting
import OpticalTestbed.Proofs.BringUp.Installing
import OpticalTestbed.Proofs.BringUp.Numbering
import OpticalTestbed.Proofs.BringUp.Order
import OpticalTestbed.Proofs.BringUp.Phases
import OpticalTestbed.Proofs.BringUp.Preparing
import OpticalTestbed.Proofs.BringUp.Provisioning
import OpticalTestbed.Proofs.BringUp.Pushing
import OpticalTestbed.Proofs.BringUp.Restarting
import OpticalTestbed.Proofs.BringUp.Run
import OpticalTestbed.Proofs.BringUp.Severity
import OpticalTestbed.Proofs.BringUp.Start
import OpticalTestbed.Proofs.BringUp.Stopping
import OpticalTestbed.Proofs.BringUp.Teardown
import OpticalTestbed.Proofs.BringUp.Verdict
import OpticalTestbed.Proofs.Calls
import OpticalTestbed.Proofs.Console
import OpticalTestbed.Proofs.Devices
import OpticalTestbed.Proofs.Dict
import OpticalTestbed.Proofs.Documents.Controller
import OpticalTestbed.Proofs.Documents.Emulator
import OpticalTestbed.Proofs.Dpid
import OpticalTestbed.Proofs.DpidForms
import OpticalTestbed.Proofs.FileTree
import OpticalTestbed.Proofs.Held
import OpticalTestbed.Proofs.Interfaces
import OpticalTestbed.Proofs.Inventory
import OpticalTestbed.Proofs.Json.Records
import OpticalTestbed.Proofs.Json.RoundTrip
import OpticalTestbed.Proofs.Json.Tokens
import OpticalTestbed.Proofs.Json.Values
import OpticalTestbed.Proofs.NetworkConfig
import OpticalTestbed.Proofs.Passes
import OpticalTestbed.Proofs.Pointwise
import OpticalTestbed.Proofs.Poll
import OpticalTestbed.Proofs.PollBudget
import OpticalTestbed.Proofs.Rebinding
import OpticalTestbed.Proofs.Recovery
import OpticalTestbed.Proofs.Reordering
import OpticalTestbed.Proofs.Subjects
import OpticalTestbed.Proofs.SysConfig.Agreement
import OpticalTestbed.Proofs.SysConfig.Alike
import OpticalTestbed.Proofs.SysConfig.Counting
import OpticalTestbed.Proofs.SysConfig.Discovery
import OpticalTestbed.Proofs.SysConfig.Layout
import OpticalTestbed.Proofs.SysConfig.Lookup
import OpticalTestbed.Proofs.SysConfig.Markers
import OpticalTestbed.Proofs.SysConfig.Patching
import OpticalTestbed.Proofs.SysConfig.Repatching
import OpticalTestbed.Proofs.SysConfig.Search
import OpticalTestbed.Proofs.SysConfig.SwitchIds
import OpticalTestbed.Proofs.SysConfig.TapNames
import OpticalTestbed.Proofs.SysConfig.Terms
import OpticalTestbed.Proofs.Tables
import OpticalTestbed.Proofs.Text.Chars
import OpticalTestbed.Proofs.Text.Infix
import OpticalTestbed.Proofs.Text.Lowercase
import OpticalTestbed.Proofs.Text.Numeral
import OpticalTestbed.Proofs.Text.Split
import OpticalTestbed.Proofs.TopoConfig
import OpticalTestbed.Proofs.Topology.Acceptance
import OpticalTestbed.Proofs.Topology.Built
import OpticalTestbed.Proofs.Topology.Description
import OpticalTestbed.Proofs.Topology.Partition
import OpticalTestbed.Proofs.Topology.PortView
import OpticalTestbed.Proofs.Topology.Ports
import OpticalTestbed.Proofs.Topology.Reordering
import OpticalTestbed.Proofs.Topology.Requests
import OpticalTestbed.Proofs.Topology.Sides
import OpticalTestbed.Proofs.Topology.Turning
import OpticalTestbed.Proofs.Topology.Validity
import OpticalTestbed.Proofs.Topology.WellFormed
import OpticalTestbed.Proofs.Traces
import OpticalTestbed.Proofs.Turning
import OpticalTestbed.Proofs.Unbinding
import OpticalTestbed.Proofs.Waiting
import OpticalTestbed.Proofs.World
import OpticalTestbed.Push
import OpticalTestbed.Record.Source
import OpticalTestbed.Rehearsal.Scene
import OpticalTestbed.Rehearsal.Script
import OpticalTestbed.Rehearsal.Session
import OpticalTestbed.Rehearsal.Shell.Machine
import OpticalTestbed.Rehearsal.Shell.Script
import OpticalTestbed.Rehearsal.Shell.Utility
import OpticalTestbed.Release
import OpticalTestbed.Settings
import OpticalTestbed.Synthesis
import OpticalTestbed.SysConfig.Controllers
import OpticalTestbed.SysConfig.Generation
import OpticalTestbed.SysConfig.Markers
import OpticalTestbed.SysConfig.SwitchIds
import OpticalTestbed.SysConfig.Taps
import OpticalTestbed.Text.Chars
import OpticalTestbed.Text.DecimalDigit
import OpticalTestbed.Text.Lowercase
import OpticalTestbed.Text.Numeral
import OpticalTestbed.Text.Quoted
import OpticalTestbed.Text.Utf8
import OpticalTestbed.TopoConfig
import OpticalTestbed.Topology.Basic
import OpticalTestbed.Topology.Description
import OpticalTestbed.Topology.Graph
import OpticalTestbed.Waiting
import OpticalTestbed.World
import OpticalTestbed.Yaml.BlockText
import OpticalTestbed.Yaml.Cursor
import OpticalTestbed.Yaml.Fold
import OpticalTestbed.Yaml.Node
import OpticalTestbed.Yaml.Parser
import OpticalTestbed.Yaml.Plain
import OpticalTestbed.Yaml.Quoted
import OpticalTestbed.Yaml.Scalar
import OpticalTestbed.Yaml.Scanner
import OpticalTestbed.Yaml.Token
import OpticalTestbed.Proofs.SysConfig.Clause
