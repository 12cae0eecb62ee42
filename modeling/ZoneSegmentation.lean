import ZoneSegmentation.Library.Dict
import ZoneSegmentation.Library.Run
import ZoneSegmentation.Library.HostTree
import ZoneSegmentation.Library.KeepAlive
import ZoneSegmentation.Library.Cidr
import ZoneSegmentation.Config.Json
import ZoneSegmentation.Config.IPAddress
import ZoneSegmentation.Config.FirewallRules
import ZoneSegmentation.Config.Partition
import ZoneSegmentation.Config.AddressText
import ZoneSegmentation.Config.Verdicts
import ZoneSegmentation.Conntrack.Table
import ZoneSegmentation.Conntrack.History
import ZoneSegmentation.Conntrack.Policy
import ZoneSegmentation.Library.Loop
import ZoneSegmentation.Daemon.PolicyHeader
import ZoneSegmentation.Daemon.Decision
import ZoneSegmentation.Daemon.Representation
import ZoneSegmentation.Library.Bytes
import ZoneSegmentation.Library.Pipe
import ZoneSegmentation.Daemon.Wire
import ZoneSegmentation.Daemon.Server
import ZoneSegmentation.Daemon.Isolation
import ZoneSegmentation.Daemon.Client
import ZoneSegmentation.Config.Network
import ZoneSegmentation.Config.Readings
import ZoneSegmentation.Config.Layout
import ZoneSegmentation.Config.Wiring
import ZoneSegmentation.Config.Reordering
import ZoneSegmentation.Config.ZoneTable
import ZoneSegmentation.Config.Malformed
import ZoneSegmentation.Daemon.Spelling
import ZoneSegmentation.Daemon.Canonical
import ZoneSegmentation.Library.Newlines
import ZoneSegmentation.Daemon.HeaderFile
import ZoneSegmentation.Library.Procedure
import ZoneSegmentation.Controller.Packet
import ZoneSegmentation.Controller.Router
import ZoneSegmentation.Controller.Outcome
import ZoneSegmentation.Controller.Invariant
import ZoneSegmentation.Controller.Interference
import ZoneSegmentation.Controller.Routing
import ZoneSegmentation.Controller.Conservation
import ZoneSegmentation.Controller.Pending
import ZoneSegmentation.Controller.Confinement
import ZoneSegmentation.Controller.DropRules
import ZoneSegmentation.Controller.Tracking
import ZoneSegmentation.Controller.RuleOrigin
import ZoneSegmentation.Controller.FastPath
import ZoneSegmentation.Controller.Fallback
import ZoneSegmentation.Switch.Fabric
import ZoneSegmentation.Switch.Ping
import ZoneSegmentation.Switch.Cabling
import ZoneSegmentation.Switch.Conversation
import ZoneSegmentation.Switch.Hop
import ZoneSegmentation.Switch.Site
import ZoneSegmentation.Switch.Copies
import ZoneSegmentation.Switch.Broadcast
import ZoneSegmentation.Switch.Located
import ZoneSegmentation.Switch.Origin
import ZoneSegmentation.Switch.EndToEnd
import ZoneSegmentation.Switch.Rest
import ZoneSegmentation.Switch.Aimed
import ZoneSegmentation.Switch.Unicast
import ZoneSegmentation.Switch.Delivery
