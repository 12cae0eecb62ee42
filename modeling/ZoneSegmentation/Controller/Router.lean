import ZoneSegmentation.Config.Layout
import ZoneSegmentation.Controller.Packet
import ZoneSegmentation.Library.Procedure
import Mathlib.Algebra.Order.Ring.Rat

/-!
# The controller

`controller.py`: `ZoneRouter` handles the packets that switches pass on. Its tables are the state
of the handlers, the messages it sends are what they emit, and a failed lookup raises. Handlers
run one at a time, each at one instant of the clock.

## Main definitions

* `ZoneRouter`: the tables of the controller, and the timers that run for it
* `handlePacketIn`, `handleArp`, `handleIp`, `route`, `queueAndResolve`, `retryArp`,
  `resolvePending`, `l2Forward`, ...: the methods of `ZoneRouter`
* `Event`, `handle`, `step`: what the controller reacts to, and how
-/

namespace ZoneSegmentation

open Proc

/-! ## State -/

/-- An entry of `ip_to_loc`. -/
structure Location where
  corePort : ℕ
  mac : EthAddr
  zone : String
  deriving DecidableEq

/-- A packet that waits for its destination, with the port it entered. -/
structure QueuedPacket where
  dpid : ℕ
  port : ℕ
  packet : Frame
  ip : Ipv4
  deriving DecidableEq

/-- An entry of `pending`. -/
structure PendingEntry where
  zone : String
  queue : List QueuedPacket
  retries : ℕ
  timer : Option ℕ
  deriving DecidableEq

/-- The state of `ZoneRouter`. -/
structure ZoneRouter where
  connections : Finset ℕ
  macTable : Dict ℕ (Dict EthAddr ℕ)
  ipToLoc : Dict IPAddr Location
  pending : Dict IPAddr PendingEntry
  /-- Whether there is a client of the C++ daemon (`USE_CPP_FIREWALL`). -/
  fwClient : Bool
  fwFallbackWarned : Bool
  conns : ConnectionTable ℚ
  /-- The recurring timers that run, with the argument of their `_retry_arp` calls. -/
  timers : Dict ℕ IPAddr
  /-- The identity of the next timer. -/
  nextTimer : ℕ

/-- The exceptions of a handler. -/
inductive Fault where
  | keyError
  | attributeError
  /-- `IPAddr` of a text that is not an IPv4 address. -/
  | badAddress
  deriving DecidableEq

/-- A method of `ZoneRouter`. -/
abbrev Handler := Proc ZoneRouter Sent Fault

/-- A packet-in, with what the firewall daemon would answer about it (`none` when it cannot be
reached) and the reading of the clock. -/
structure PacketIn where
  dpid : ℕ
  port : ℕ
  packet : Frame
  firewall : Option (Bool × BitVec 8)
  now : ℚ
  deriving DecidableEq

def idleTimeout : ℚ := 120
def routedFlowIdleTimeout : ℕ := 30
def routedFlowHardTimeout : ℕ := 60
def dropFlowIdleTimeout : ℕ := 10
def dropFlowHardTimeout : ℕ := 30
def arpMaxRetries : ℕ := 3
def icmpDestUnreach : ℕ := 3
def icmpCodeHostUnreach : ℕ := 1
def icmpTimeExceeded : ℕ := 11
def icmpCodeTtlExceeded : ℕ := 0

namespace ZoneRouter

/-- `__init__`. -/
def init (fwClient : Bool) : ZoneRouter where
  connections := ∅
  macTable := Dict.empty
  ipToLoc := Dict.empty
  pending := Dict.empty
  fwClient := fwClient
  fwFallbackWarned := false
  conns := .init idleTimeout
  timers := Dict.empty
  nextTimer := 0

/-- `self.mac_table.get(dpid, {}).get(mac)`. -/
def macPort (s : ZoneRouter) (dpid : ℕ) (mac : EthAddr) : Option ℕ :=
  (s.macTable.get? dpid).bind fun table => table.get? mac

/-- `self.mac_table.setdefault(dpid, {})[mac] = port`. -/
def setMac (s : ZoneRouter) (dpid : ℕ) (mac : EthAddr) (port : ℕ) : ZoneRouter :=
  { s with macTable := s.macTable.set dpid (((s.macTable.get? dpid).getD Dict.empty).set mac port) }

end ZoneRouter

/-- Change the pending entry of an address. -/
def modifyEntry (ip : IPAddr) (f : PendingEntry → PendingEntry) : Handler Unit :=
  modify fun s => match s.pending.get? ip with
    | some entry => { s with pending := s.pending.set ip (f entry) }
    | none => s

/-- `Timer(ARP_RETRY_INTERVAL, self._retry_arp, args=[ip], recurring=True)`. -/
def startTimer (ip : IPAddr) : Handler ℕ := do
  let s ← get
  modify fun s => { s with timers := s.timers.set s.nextTimer ip, nextTimer := s.nextTimer + 1 }
  return s.nextTimer

/-- `timer.cancel()`. -/
def cancelTimer (timer : ℕ) : Handler Unit :=
  modify fun s => { s with timers := s.timers.erase timer }

/-- Send a message to a switch. -/
def send (dpid : ℕ) (message : Message) : Handler Unit := emit ⟨dpid, message⟩

variable (D : Deployment)

/-- `ZONES[zone]`. -/
def zoneEntry (zone : String) : Handler ZoneEntry := ofOption (D.policy.zones.get? zone) .keyError

/-- The IPv4 address of an address, for POX. -/
def ipv4? : IPAddress → Option IPAddr
  | .v4 ip => some ip
  | .v6 .. => none

/-- `any(str(ip) == z['gateway'] for z in ZONES.values())`. -/
def isGateway (ip : IPAddr) : Bool := D.policy.zones.values.any fun z => .v4 ip = z.gateway

/-! ## Layer 2 -/

/-- `_learn`. -/
def learn (dpid port : ℕ) (ip : IPAddr) (mac : EthAddr) (zone : String) : Handler Unit := do
  modify fun s => s.setMac dpid mac port
  match corePortFor D.maps dpid port with
  | some corePort => modify fun s => { s with ipToLoc := s.ipToLoc.set ip ⟨corePort, mac, zone⟩ }
  | none => pure ()

/-- `_flood_in_zone`. -/
def floodInZone (ev : PacketIn) : Handler Unit :=
  if ev.dpid = D.maps.coreDpid then
    let zone := (D.maps.corePortZones.get? ev.port).join
    (zoneCorePorts D.maps zone).forM fun port =>
      if port = ev.port then pure () else send ev.dpid (.packetOutData ev.packet port)
  else send ev.dpid (.packetOutFlood ev.packet)

/-- `_l2_forward`. -/
def l2Forward (ev : PacketIn) (dstMac : EthAddr) : Handler Unit := do
  match (← get).macPort ev.dpid dstMac with
  | none => floodInZone D ev
  | some outPort => send ev.dpid (.flowMod {
      ofpMatch := .fromPacket ev.packet ev.port
      idleTimeout := 30
      hardTimeout := 60
      actions := [.output outPort]
      data := some ev.packet })

/-- `_handle_transit`. -/
def handleTransit (ev : PacketIn) : Handler Unit := do
  modify fun s => s.setMac ev.dpid ev.packet.src ev.port
  if isMulticast ev.packet.dst then floodInZone D ev else l2Forward D ev ev.packet.dst

/-! ## Errors and routed packets -/

/-- `_send_icmp_error`. -/
def sendIcmpError (packet : Frame) (ip : Ipv4) (dpid port type code : ℕ) : Handler Unit := do
  if dpid ∈ (← get).connections then
    match zoneOfPort D.maps dpid port with
    | none => pure ()
    | some srcZone =>
      let gw ← zoneEntry D srcZone
      let srcip ← ofOption (ipv4? gw.gateway) .badAddress
      send dpid (.packetOut {
        src := ethAddr gw.gatewayMac
        dst := packet.src
        content := .icmpError { srcip, dstip := ip.srcip, type, code, quoted := ip } } port)
  else pure ()

/-- `_forward_ip`. What `pack` makes of the packet is the packet. -/
def forwardIp (origDpid origPort : ℕ) (dstZone : String) (packet : Frame) (ip : Ipv4)
    (outPort : ℕ) (dstMac : EthAddr) : Handler Unit := do
  if ip.ttl ≤ 1 then
    sendIcmpError D packet ip origDpid origPort icmpTimeExceeded icmpCodeTtlExceeded
  else if D.maps.coreDpid ∈ (← get).connections then
    let gw ← zoneEntry D dstZone
    send D.maps.coreDpid (.packetOut {
      src := ethAddr gw.gatewayMac
      dst := dstMac
      content := .ip { ip with ttl := ip.ttl - 1 } } outPort)
  else pure ()

/-- The rule of the core for a routed connection. -/
def installCoreFlow (ev : PacketIn) (dstZone : String) (outPort : ℕ) (dstMac : EthAddr) :
    Handler Unit := do
  let gw ← zoneEntry D dstZone
  send D.maps.coreDpid (.flowMod {
    ofpMatch := { OfpMatch.fromPacket ev.packet ev.port with
      inPort := corePortFor D.maps ev.dpid ev.port }
    idleTimeout := routedFlowIdleTimeout
    hardTimeout := routedFlowHardTimeout
    actions := [.setDlSrc (ethAddr gw.gatewayMac), .setDlDst dstMac, .decTtl, .output outPort]
    data := none })

/-- The rule of the sender's leaf for a routed connection. -/
def installLeafFlow (ev : PacketIn) : Handler Unit := do
  let uplink ← ofOption (D.maps.leafUplinkPort.get? ev.dpid) .keyError
  send ev.dpid (.flowMod {
    ofpMatch := .fromPacket ev.packet ev.port
    idleTimeout := routedFlowIdleTimeout
    hardTimeout := routedFlowHardTimeout
    actions := [.output uplink]
    data := none })

/-- `_install_route_flows`: the core first, then the leaf. -/
def installRouteFlows (ev : PacketIn) (dstZone : String) (outPort : ℕ) (dstMac : EthAddr) :
    Handler Unit := do
  if D.maps.coreDpid ∈ (← get).connections then
    installCoreFlow D ev dstZone outPort dstMac
    if ev.dpid = D.maps.coreDpid then pure () else installLeafFlow D ev
  else pure ()

/-- `_install_drop_flow`. -/
def installDropFlow (ev : PacketIn) : Handler Unit :=
  send ev.dpid (.flowMod {
    ofpMatch := .fromPacket ev.packet ev.port
    idleTimeout := dropFlowIdleTimeout
    hardTimeout := dropFlowHardTimeout
    actions := []
    data := none })

/-! ## Resolution -/

/-- `_send_arp_reply`. -/
def sendArpReply (dpid outPort : ℕ) (senderIp : IPAddr) (senderMac : EthAddr) (targetIp : IPAddr)
    (targetMac : EthAddr) : Handler Unit :=
  send dpid (.packetOut {
    src := senderMac
    dst := targetMac
    content := .arp {
      opcode := arpReply, hwsrc := senderMac, hwdst := targetMac
      protosrc := senderIp, protodst := targetIp } } outPort)

/-- `_send_arp_probe`. -/
def sendArpProbe (dstIp : IPAddr) (dstZone : String) : Handler Unit := do
  if D.maps.coreDpid ∈ (← get).connections then
    let gw ← zoneEntry D dstZone
    let protosrc ← ofOption (ipv4? gw.gateway) .badAddress
    let hwsrc := ethAddr gw.gatewayMac
    (zoneCorePorts D.maps (some dstZone)).forM fun port =>
      send D.maps.coreDpid (.packetOut {
        src := hwsrc
        dst := etherBroadcast
        content := .arp {
          opcode := arpRequest, hwsrc, hwdst := etherBroadcast, protosrc
          protodst := dstIp } } port)
  else pure ()

/-- A new entry of `pending`, with its first probe and its timer. -/
def openEntry (dstIp : IPAddr) (dstZone : String) : Handler Unit := do
  modify fun s => { s with pending := s.pending.set dstIp ⟨dstZone, [], 1, none⟩ }
  sendArpProbe D dstIp dstZone
  let timer ← startTimer dstIp
  modifyEntry dstIp fun entry => { entry with timer := some timer }

/-- `_queue_and_resolve`. -/
def queueAndResolve (origDpid origPort : ℕ) (packet : Frame) (ip : Ipv4) (dstZone : String) :
    Handler Unit := do
  if ((← get).pending.get? ip.dstip).isNone then openEntry D ip.dstip dstZone else pure ()
  modifyEntry ip.dstip fun entry =>
    { entry with queue := entry.queue ++ [⟨origDpid, origPort, packet, ip⟩] }

/-- `_retry_arp`. -/
def retryArp (dstIp : IPAddr) : Handler Unit := do
  match (← get).pending.get? dstIp with
  | none => pure ()
  | some entry =>
    if arpMaxRetries ≤ entry.retries then
      let timer ← ofOption entry.timer .attributeError
      cancelTimer timer
      modify fun s => { s with pending := s.pending.erase dstIp }
      entry.queue.forM fun q =>
        sendIcmpError D q.packet q.ip q.dpid q.port icmpDestUnreach icmpCodeHostUnreach
    else
      sendArpProbe D dstIp entry.zone
      modifyEntry dstIp fun entry => { entry with retries := entry.retries + 1 }

/-- `_resolve_pending`. -/
def resolvePending (ip : IPAddr) (mac : EthAddr) : Handler Unit := do
  match (← get).pending.get? ip with
  | none => pure ()
  | some entry =>
    modify fun s => { s with pending := s.pending.erase ip }
    entry.timer.elim (pure ()) cancelTimer
    let loc ← ofOption ((← get).ipToLoc.get? ip) .keyError
    entry.queue.forM fun q =>
      forwardIp D q.dpid q.port entry.zone q.packet q.ip loc.corePort mac

/-! ## Packet-ins -/

/-- `_firewall_allowed`: the daemon's answer, or that of the rules when it cannot be reached. -/
def askFirewall (srcZone dstZone : String) (isIcmp : Bool) (answer : Option (Bool × BitVec 8)) :
    Handler Bool := do
  if (← get).fwClient then
    match answer with
    | some (allowed, _) => return allowed
    | none =>
      modify fun s => { s with fwFallbackWarned := true }
      return firewallAllowed D.policy (some srcZone) (some dstZone) isIcmp
  else return firewallAllowed D.policy (some srcZone) (some dstZone) isIcmp

/-- `self.conns.check(policy_allowed, packet)`. -/
def checkConns (now : ℚ) (policyAllowed : Bool) (packet : Option TrackedPacket) :
    Handler (Option Verdict) := do
  let (verdict, conns) := (← get).conns.check now policyAllowed packet
  modify fun s => { s with conns }
  return verdict

/-- `_route`. -/
def route (ev : PacketIn) (ip : Ipv4) (dstZone : String) : Handler Unit := do
  match (← get).ipToLoc.get? ip.dstip with
  | some loc =>
    if 1 < ip.ttl then installRouteFlows D ev dstZone loc.corePort loc.mac else pure ()
    forwardIp D ev.dpid ev.port dstZone ev.packet ip loc.corePort loc.mac
  | none => queueAndResolve D ev.dpid ev.port ev.packet ip dstZone

/-- `_handle_ip`. -/
def handleIp (ev : PacketIn) (ip : Ipv4) : Handler Unit := do
  match zoneOfPort D.maps ev.dpid ev.port with
  | none => pure ()
  | some srcZone =>
    -- a spoofed packet is dropped before anything is learned from it
    if !sourceIpValidForZone D.policy (.v4 ip.srcip) srcZone then pure ()
    else
      learn D ev.dpid ev.port ip.srcip ev.packet.src srcZone
      if isGateway D ip.dstip then pure ()
      else
        match zoneForIp D.policy (.v4 ip.dstip) with
        | none => pure ()
        | some dstZone =>
          if dstZone = srcZone then l2Forward D ev ev.packet.dst
          else
            let policyAllowed ← askFirewall D srcZone dstZone ip.isIcmp ev.firewall
            match ← checkConns ev.now policyAllowed ip.tracked with
            | none => installDropFlow ev
            | some _ => route D ev ip dstZone

/-- `_handle_arp`. -/
def handleArp (ev : PacketIn) (arp : Arp) : Handler Unit := do
  match zoneOfPort D.maps ev.dpid ev.port with
  | none => pure ()
  | some srcZone =>
    if !sourceIpValidForZone D.policy (.v4 arp.protosrc) srcZone then pure ()
    else if arp.opcode = arpRequest ∧ isGateway D arp.protodst then
      learn D ev.dpid ev.port arp.protosrc arp.hwsrc srcZone
      let gw ← zoneEntry D srcZone
      sendArpReply ev.dpid ev.port arp.protodst (ethAddr gw.gatewayMac) arp.protosrc arp.hwsrc
    else if arp.opcode = arpReply ∧ isGateway D arp.protodst then
      learn D ev.dpid ev.port arp.protosrc arp.hwsrc srcZone
      resolvePending D arp.protosrc arp.hwsrc
    else
      learn D ev.dpid ev.port arp.protosrc arp.hwsrc srcZone
      floodInZone D ev

/-- `_handle_PacketIn`. -/
def handlePacketIn (ev : PacketIn) : Handler Unit :=
  if !ev.packet.parsed then pure ()
  else if ev.packet.body = .lldp then pure ()
  else if isLeafUplink D.maps ev.dpid ev.port then handleTransit D ev
  else
    match ev.packet.body with
    | .arp a => handleArp D ev a
    | .ip p => handleIp D ev p
    | _ => floodInZone D ev

/-- `_handle_ConnectionUp`. -/
def handleConnectionUp (dpid : ℕ) : Handler Unit :=
  modify fun s => { s with
    connections := insert dpid s.connections
    macTable := s.macTable.set dpid ((s.macTable.get? dpid).getD Dict.empty) }

/-! ## Events -/

/-- What the controller reacts to. -/
inductive Event where
  | connectionUp (dpid : ℕ)
  | packetIn (ev : PacketIn)
  /-- A timer of a pending entry fires. -/
  | retryTick (timer : ℕ)
  /-- The timer of the connection table fires. -/
  | connExpire (now : ℚ)
  deriving DecidableEq

/-- The handler of an event; a timer that was cancelled does not fire. -/
def handle : Event → Handler Unit
  | .connectionUp dpid => handleConnectionUp dpid
  | .packetIn ev => handlePacketIn D ev
  | .retryTick timer => do
    match (← get).timers.get? timer with
    | none => pure ()
    | some ip => retryArp D ip
  | .connExpire now => modify fun s => { s with conns := (s.conns.expire now).2 }

/-- One event: the state after it, and the messages sent. An exception ends the handler, not the
controller. -/
def step (s : ZoneRouter) (e : Event) : ZoneRouter × List Sent :=
  (((handle D e).run s).state, ((handle D e).run s).log)

/-! ## Hosts -/

/-- Where a host is attached, and its addresses. -/
structure Station where
  dpid : ℕ
  port : ℕ
  mac : EthAddr
  ip : IPAddr
  deriving DecidableEq

namespace Station

/-- A frame of a host, as its switch hands it in; the firewall daemon is not reached. -/
def frameIn (h : Station) (dst : EthAddr) (body : Body) (now : ℚ) : PacketIn :=
  ⟨h.dpid, h.port, ⟨true, h.mac, dst, body⟩, none, now⟩

/-- A frame of a host comes in. -/
def sends (h : Station) (dst : EthAddr) (body : Body) (now : ℚ) : Event :=
  .packetIn (h.frameIn dst body now)

/-- A TCP packet of a host. -/
def tcp (h : Station) (uid : ℕ) (dst : IPAddr) (srcport dstport : ℕ) : Ipv4 where
  uid := uid
  srcip := h.ip
  dstip := dst
  protocol := ipprotoTcp
  tos := 0
  ttl := 64
  payload := .tcp srcport dstport
  payload_proto := by simp [Payload.proto?]

/-- An ICMP packet of a host. -/
def icmp (h : Station) (uid : ℕ) (dst : IPAddr) (type echoId : ℕ) : Ipv4 where
  uid := uid
  srcip := h.ip
  dstip := dst
  protocol := ipprotoIcmp
  tos := 0
  ttl := 64
  payload := .icmp type 0 echoId
  payload_proto := by simp [Payload.proto?]

end Station

/-- Hosts of `network.json`. -/
def h101 : Station := ⟨1, 1, 0x1, 0x0A010165⟩
def h103 : Station := ⟨2, 1, 0x3, 0x0A010167⟩
def h201 : Station := ⟨3, 1, 0x5, 0x0A0102C9⟩
def hServer : Station := ⟨5, 1, 0x9, 0x0A0103B2⟩
def hUntrust : Station := ⟨6, 7, 0xB, 0x6C231871⟩

end ZoneSegmentation
