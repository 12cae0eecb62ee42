import ZoneSegmentation.Config.FirewallRules

/-!
# The network layout

`network.py`: the layout file states every switch, uplink and host port. It is read and checked
against the zones of the policy, and the controller's port maps are derived from it.

## Main definitions

* `Network`: the switches, uplinks and hosts of a layout
* `loadNetwork`: `load_network`, with the exception of a file it does not accept
* `PortMaps`, `portMaps`: `port_maps`
* `zoneOfPort`, `isLeafUplink`, `corePortFor`, `zoneCorePorts`: the controller's readings of them
* `networkJson`, `network`, `networkMaps`: the layout file of the repository, what is read from it,
  and its port maps
-/

namespace ZoneSegmentation

/-- What is wrong with a layout file; the message of each `NetworkError` names these. -/
inductive NetworkFault where
  /-- `switch {}: dpid must be a unique positive integer` -/
  | badDpid (switch : String)
  /-- `switch {}: zone {!r} is not in policy.json ...` -/
  | unknownZone (switch : String)
  /-- `need exactly one core switch, found {}` -/
  | cores (found : List String)
  /-- `uplink: {!r} is not a leaf switch`, by the uplink's place in the file -/
  | notALeaf (uplink : ℕ)
  /-- `leaf {} has more than one uplink` -/
  | secondUplink (leaf : String)
  /-- `leaf switches without an uplink: {}` -/
  | noUplink (leaves : List String)
  /-- `host {}: {}`, with the complaint of `ip_address` -/
  | badHostIp (host : String)
  /-- `host {}: {} is outside every zone in policy.json` -/
  | outsideZones (host : String) (ip : IPAddress)
  /-- `host {}: {} is reserved in {}` -/
  | reservedIp (host : String) (ip : IPAddress) (subnet : IPNetwork)
  /-- `host {}: {} is used by another host` -/
  | usedIp (host : String) (ip : IPAddress)
  /-- `host {}: unknown switch {!r}` -/
  | unknownSwitch (host : String)
  /-- `host {}: {} is in {} but plugged into {} ({})` -/
  | wrongZone (host : String) (ip : IPAddress) (zone switch : String) (switchZone : Option String)
  /-- `{}: port on {} must be a positive integer` -/
  | badPort (what switch : String)
  /-- `{} port {} is used by both {} and {}` -/
  | usedPort (switch : String) (port : ℕ) (what other : String)
  deriving DecidableEq

/-- A switch; the core has no zone. -/
structure Switch where
  dpid : ℕ
  zone : Option String
  deriving DecidableEq

/-- The two ends of an uplink. Until they are checked, port numbers are any JSON values. -/
structure Uplink (Port : Type) where
  leafPort : Port
  corePort : Port
  deriving DecidableEq

/-- A host and where it is plugged in. -/
structure Host (Port : Type) where
  ip : IPAddress
  prefixLen : ℕ
  zone : String
  switch : String
  port : Port
  deriving DecidableEq

/-- `Network`. -/
structure Network where
  core : String
  switches : Dict String Switch
  uplinks : Dict String (Uplink ℕ)
  hosts : Dict String (Host ℕ)
  deriving DecidableEq

/-! ## Reading the file -/

/-- A positive integer of the file. -/
def positiveInt? (x : Json) : Option ℕ :=
  x.int?.bind fun n => if 0 < n then some n.toNat else none

/-- One turn of the loop over the switches: the cores and the switches so far. -/
def loadSwitch (zones : Dict String ZoneEntry) (acc : List String × Dict String Switch)
    (name : String) (s : Json) :
    Except (PyError NetworkFault) (List String × Dict String Switch) := do
  let (cores, switches) := acc
  let dpid ← orRaise (positiveInt? (← s.get "dpid" .null)) (.fault (.badDpid name))
  raiseIf (dpid ∈ switches.values.map Switch.dpid) (.fault (.badDpid name))
  if (← s.get "core" .null).truthy then
    return (cores ++ [name], switches.set name ⟨dpid, none⟩)
  else
    let zone ← s.get "zone" .null
    raiseIf (!(← zone.inKeys zones)) (.fault (.unknownZone name))
    return (cores, switches.set name ⟨dpid, zone.str?⟩)

/-- `_load_switches`: the core switch and all switches. -/
def loadSwitches (raw : Json) (zones : Dict String ZoneEntry) :
    Except (PyError NetworkFault) (String × Dict String Switch) := do
  let (cores, switches) ← (← (← raw.get "switches" (.obj [])).items).foldlM
    (fun acc (name, s) => loadSwitch zones acc name s) ([], Dict.empty)
  match cores with
  | [core] => return (core, switches)
  | _ => .error (.fault (.cores cores))

/-- One turn of the loop over the uplinks. -/
def loadUplink (switches : Dict String Switch) (core : String)
    (uplinks : Dict String (Uplink Json)) (i : ℕ) (link : Json) :
    Except (PyError NetworkFault) (Dict String (Uplink Json)) := do
  let leaf ← link.get "leaf" .null
  raiseIf (!(← leaf.inKeys switches) || leaf.str? = some core) (.fault (.notALeaf i))
  let name := leaf.str?.getD ""
  raiseIf (uplinks.contains name) (.fault (.secondUplink name))
  return uplinks.set name ⟨← link.get "leaf_port" .null, ← link.get "core_port" .null⟩

/-- `_load_uplinks`. -/
def loadUplinks (raw : Json) (switches : Dict String Switch) (core : String) :
    Except (PyError NetworkFault) (Dict String (Uplink Json)) := do
  let uplinks ← (← (← raw.get "uplinks" (.arr [])).iter).zipIdx.foldlM
    (fun uplinks (link, i) => loadUplink switches core uplinks i link) Dict.empty
  let missing := (switches.keys.filter fun name => name ≠ core && !uplinks.contains name).mergeSort
  raiseIf (!missing.isEmpty) (.fault (.noUplink missing))
  return uplinks

/-- One turn of the loop over the hosts. The zone of an address is that of the policy the
program loaded, whatever zones the layout is read against. -/
def loadHost (P : Policy) (zones : Dict String ZoneEntry) (switches : Dict String Switch)
    (core : String) (hosts : Dict String (Host Json)) (name : String) (h : Json) :
    Except (PyError NetworkFault) (Dict String (Host Json)) := do
  let ip ← orRaise (ipAddress (← h.get "ip" .null)) (.fault (.badHostIp name))
  let zone ← orRaise (zoneForIp P ip) (.fault (.outsideZones name ip))
  let entry ← orRaise (zones.get? zone) .keyError
  let subnet := entry.subnet
  raiseIf (ip = entry.gateway || ip = subnet.networkAddress || ip = subnet.broadcastAddress)
    (.fault (.reservedIp name ip subnet))
  raiseIf (ip ∈ hosts.values.map Host.ip) (.fault (.usedIp name ip))
  let switch ← h.get "switch" .null
  raiseIf (!(← switch.inKeys switches)) (.fault (.unknownSwitch name))
  let switchName := switch.str?.getD ""
  let switchZone := (switches.get? switchName).bind Switch.zone
  raiseIf (switchName ≠ core && switchZone ≠ some zone)
    (.fault (.wrongZone name ip zone switchName switchZone))
  return hosts.set name ⟨ip, subnet.prefixlen, zone, switchName, ← h.get "port" .null⟩

/-- `_load_hosts`. -/
def loadHosts (P : Policy) (raw : Json) (switches : Dict String Switch) (core : String)
    (zones : Dict String ZoneEntry) : Except (PyError NetworkFault) (Dict String (Host Json)) := do
  (← (← raw.get "hosts" (.obj [])).items).foldlM
    (fun hosts (name, h) => loadHost P zones switches core hosts name h) Dict.empty

/-- `attachments`: the switch, the port and what is plugged in, for hosts and both ends of
uplinks. -/
def attachments {Port : Type} (core : String) (uplinks : Dict String (Uplink Port))
    (hosts : Dict String (Host Port)) : List (String × Port × String) :=
  hosts.entries.map (fun (name, h) => (h.switch, h.port, "host " ++ name)) ++
    uplinks.entries.flatMap fun (leaf, link) =>
      [(leaf, link.leafPort, "uplink to core"), (core, link.corePort, "uplink from " ++ leaf)]

/-- One turn of the loop over the attachments: what is plugged into each port so far. -/
def checkPort (used : Dict (String × ℕ) String) (a : String × Json × String) :
    Except (PyError NetworkFault) (Dict (String × ℕ) String) := do
  let (switch, port, what) := a
  let port ← orRaise (positiveInt? port) (.fault (.badPort what switch))
  match used.get? (switch, port) with
  | some other => .error (.fault (.usedPort switch port other what))
  | none => return used.set (switch, port) what

/-- `_check_ports_unique`: what is plugged into each port. -/
def checkPortsUnique (core : String) (uplinks : Dict String (Uplink Json))
    (hosts : Dict String (Host Json)) :
    Except (PyError NetworkFault) (Dict (String × ℕ) String) :=
  (attachments core uplinks hosts).foldlM checkPort Dict.empty

/-- The number of a port that was checked. -/
def portNumber (x : Json) : ℕ := (positiveInt? x).getD 0

/-- `load_network`, on the value `json.load` returns, in a program that loaded the policy `P`. -/
def loadNetwork (P : Policy) (raw : Json) (zones : Dict String ZoneEntry) :
    Except (PyError NetworkFault) Network := do
  let (core, switches) ← loadSwitches raw zones
  let uplinks ← loadUplinks raw switches core
  let hosts ← loadHosts P raw switches core zones
  let _ ← checkPortsUnique core uplinks hosts
  return {
    core, switches
    uplinks := uplinks.mapValues fun u => ⟨portNumber u.leafPort, portNumber u.corePort⟩
    hosts := hosts.mapValues fun h => { h with port := portNumber h.port } }

/-! ## Port maps -/

/-- The maps of `port_maps`. -/
structure PortMaps where
  coreDpid : ℕ
  switchZone : Dict ℕ (Option String)
  leafUplinkPort : Dict ℕ ℕ
  leafCorePort : Dict ℕ ℕ
  corePortZones : Dict ℕ (Option String)
  deriving DecidableEq

/-- `net.switches[name]`. -/
def Network.switch (net : Network) (name : String) : Except (PyError NetworkFault) Switch :=
  orRaise (net.switches.get? name) .keyError

/-- `port_maps`. -/
def portMaps (net : Network) : Except (PyError NetworkFault) PortMaps := do
  let links ← net.uplinks.entries.mapM fun e => return (← net.switch e.1, e.2)
  let corePorts := Dict.ofList (links.map fun l => (l.2.corePort, l.1.zone))
  let coreHosts := net.hosts.values.filter fun h => h.switch = net.core
  let leaves := net.switches.entries.filter fun e => e.1 ≠ net.core
  return {
    coreDpid := (← net.switch net.core).dpid
    switchZone := Dict.ofList (leaves.map fun e => (e.2.dpid, e.2.zone))
    leafUplinkPort := Dict.ofList (links.map fun l => (l.1.dpid, l.2.leafPort))
    leafCorePort := Dict.ofList (links.map fun l => (l.1.dpid, l.2.corePort))
    corePortZones := coreHosts.foldl (fun d h => d.set h.port (some h.zone)) corePorts }

variable (M : PortMaps)

/-- `zone_of_port`. -/
def zoneOfPort (dpid port : ℕ) : Option String :=
  if dpid = M.coreDpid then (M.corePortZones.get? port).join else (M.switchZone.get? dpid).join

/-- `is_leaf_uplink`. -/
def isLeafUplink (dpid port : ℕ) : Bool := M.leafUplinkPort.get? dpid = some port

/-- `core_port_for`. -/
def corePortFor (dpid port : ℕ) : Option ℕ :=
  if dpid = M.coreDpid then some port else M.leafCorePort.get? dpid

/-- `ZONE_CORE_PORTS`: the core ports of each zone, in the order of `CORE_PORT_ZONES`. -/
def zoneCorePortsTable : Dict (Option String) (List ℕ) :=
  M.corePortZones.entries.foldl
    (fun d (port, zone) => d.set zone ((d.get? zone).getD [] ++ [port])) Dict.empty

/-- `ZONE_CORE_PORTS.get(zone, [])`. -/
def zoneCorePorts (zone : Option String) : List ℕ := ((zoneCorePortsTable M).get? zone).getD []

/-! ## The layout of the repository -/

/-- A leaf switch of `network.json`. -/
def leafJson (dpid : ℤ) (zone : String) : Json := .obj [("dpid", .int dpid), ("zone", .str zone)]

/-- An uplink of `network.json`. -/
def uplinkJson (leaf : String) (leafPort corePort : ℤ) : Json :=
  .obj [("leaf", .str leaf), ("leaf_port", .int leafPort), ("core_port", .int corePort)]

/-- A host of `network.json`. -/
def hostJson (ip switch : String) (port : ℤ) : Json :=
  .obj [("ip", .str ip), ("switch", .str switch), ("port", .int port)]

/-- `network.json`. -/
def networkJson : Json := .obj [
  ("switches", .obj [
    ("s1", leafJson 1 "DeptA"), ("s2", leafJson 2 "DeptA"), ("s3", leafJson 3 "DeptB"),
    ("s4", leafJson 4 "DeptB"), ("s5", leafJson 5 "DataCenter"),
    ("s6", .obj [("dpid", .int 6), ("core", .bool true)])]),
  ("uplinks", .arr [
    uplinkJson "s1" 3 1, uplinkJson "s2" 3 2, uplinkJson "s3" 3 3, uplinkJson "s4" 3 4,
    uplinkJson "s5" 2 5]),
  ("hosts", .obj [
    ("h101", hostJson "10.1.1.101" "s1" 1), ("h102", hostJson "10.1.1.102" "s1" 2),
    ("h103", hostJson "10.1.1.103" "s2" 1), ("h104", hostJson "10.1.1.104" "s2" 2),
    ("h201", hostJson "10.1.2.201" "s3" 1), ("h202", hostJson "10.1.2.202" "s3" 2),
    ("h203", hostJson "10.1.2.203" "s4" 1), ("h204", hostJson "10.1.2.204" "s4" 2),
    ("h_server", hostJson "10.1.3.178" "s5" 1), ("h_trust", hostJson "192.47.38.109" "s6" 6),
    ("h_untrust", hostJson "108.35.24.113" "s6" 7)])]

/-- The layout of `network.json`. -/
def network : Network where
  core := "s6"
  switches := ⟨[
    ("s1", ⟨1, "DeptA"⟩), ("s2", ⟨2, "DeptA"⟩), ("s3", ⟨3, "DeptB"⟩), ("s4", ⟨4, "DeptB"⟩),
    ("s5", ⟨5, "DataCenter"⟩), ("s6", ⟨6, none⟩)], by decide⟩
  uplinks := ⟨[
    ("s1", ⟨3, 1⟩), ("s2", ⟨3, 2⟩), ("s3", ⟨3, 3⟩), ("s4", ⟨3, 4⟩), ("s5", ⟨2, 5⟩)], by decide⟩
  hosts := ⟨[
    ("h101", ⟨.v4 0x0A010165, 24, "DeptA", "s1", 1⟩),
    ("h102", ⟨.v4 0x0A010166, 24, "DeptA", "s1", 2⟩),
    ("h103", ⟨.v4 0x0A010167, 24, "DeptA", "s2", 1⟩),
    ("h104", ⟨.v4 0x0A010168, 24, "DeptA", "s2", 2⟩),
    ("h201", ⟨.v4 0x0A0102C9, 24, "DeptB", "s3", 1⟩),
    ("h202", ⟨.v4 0x0A0102CA, 24, "DeptB", "s3", 2⟩),
    ("h203", ⟨.v4 0x0A0102CB, 24, "DeptB", "s4", 1⟩),
    ("h204", ⟨.v4 0x0A0102CC, 24, "DeptB", "s4", 2⟩),
    ("h_server", ⟨.v4 0x0A0103B2, 24, "DataCenter", "s5", 1⟩),
    ("h_trust", ⟨.v4 0xC02F266D, 24, "Trust", "s6", 6⟩),
    ("h_untrust", ⟨.v4 0x6C231871, 24, "Untrust", "s6", 7⟩)], by decide⟩

theorem loadNetwork_networkJson : loadNetwork policy networkJson policy.zones = .ok network :=
  Loop.eq_ok_of_toOption (by decide +kernel)

/-- The port maps of the layout. -/
def networkMaps : PortMaps where
  coreDpid := 6
  switchZone := ⟨[(1, "DeptA"), (2, "DeptA"), (3, "DeptB"), (4, "DeptB"), (5, "DataCenter")],
    by decide⟩
  leafUplinkPort := ⟨[(1, 3), (2, 3), (3, 3), (4, 3), (5, 2)], by decide⟩
  leafCorePort := ⟨[(1, 1), (2, 2), (3, 3), (4, 4), (5, 5)], by decide⟩
  corePortZones := ⟨[(1, "DeptA"), (2, "DeptA"), (3, "DeptB"), (4, "DeptB"), (5, "DataCenter"),
    (6, "Trust"), (7, "Untrust")], by decide⟩

theorem portMaps_network : portMaps network = .ok networkMaps :=
  Loop.eq_ok_of_toOption (by decide +kernel)

end ZoneSegmentation
