import ZoneSegmentation.Controller.Router

/-!
# What a packet-in does

Every way a packet-in can be handled, with the state it leaves and the messages it causes. The
handlers raise nothing as long as the pending entries are sound, which they are in every state
the controller reaches.

## Main definitions

* `acceptedSender`, `crossing`: the sender of a packet-in that passes the anti-spoofing check, and
  its IP packet if that is for another zone
* `ZoneRouter.learned`, `ZoneRouter.enqueued`, ...: what the handlers write
* `floodSent`, `l2Sent`, `forwardSent`, ...: what they send
* `EntryOk`, `PendingOk`: sound pending entries
* `Handled`: the ways a packet-in can be handled

## Main results

* `handlePacketIn_handled`, `retryArp_run`: the handlers do nothing else
-/

namespace ZoneSegmentation

open Proc

variable (D : Deployment)

/-! ## Senders -/

/-- What a packet-in tells about its sender. -/
structure Sender where
  ip : IPAddr
  mac : EthAddr
  zone : String
  deriving DecidableEq

/-- The addresses a frame claims for its sender. -/
def Frame.claim (packet : Frame) : Option (IPAddr × EthAddr) :=
  match packet.body with
  | .arp a => some (a.protosrc, a.hwsrc)
  | .ip p => some (p.srcip, packet.src)
  | _ => none

/-- The sender of a packet-in that passes the anti-spoofing check at a host's port. -/
def acceptedSender (ev : PacketIn) : Option Sender :=
  if ev.packet.parsed = false ∨ isLeafUplink D.maps ev.dpid ev.port = true then none
  else do
    let (ip, mac) ← ev.packet.claim
    let zone ← zoneOfPort D.maps ev.dpid ev.port
    if sourceIpValidForZone D.policy (.v4 ip) zone then some ⟨ip, mac, zone⟩ else none

/-- The IP packet of a packet-in that is to cross zones, with its sender and the zone of its
destination: the firewall is asked about it. -/
def crossing (ev : PacketIn) : Option (Ipv4 × Sender × String) := do
  let snd ← acceptedSender D ev
  match ev.packet.body with
  | .ip p =>
    let dstZone ← zoneForIp D.policy (.v4 p.dstip)
    if isGateway D p.dstip = false ∧ dstZone ≠ snd.zone then some (p, snd, dstZone) else none
  | _ => none

/-- The MAC address of a zone's gateway. -/
def gatewayMac (zone : String) : EthAddr :=
  ((D.policy.zones.get? zone).map fun z => ethAddr z.gatewayMac).getD 0

/-- The IPv4 address of a zone's gateway. -/
def gatewayIp (zone : String) : IPAddr :=
  ((D.policy.zones.get? zone).bind fun z => ipv4? z.gateway).getD 0

/-- A zone of IPv4 addresses. -/
def Ipv4Zone (zone : String) : Prop :=
  ∃ z ip, D.policy.zones.get? zone = some z ∧ z.gateway = .v4 ip

/-! ## What the handlers write -/

namespace ZoneRouter

/-- The tables after `_learn`. -/
def learned (s : ZoneRouter) (dpid port : ℕ) (snd : Sender) : ZoneRouter :=
  { s.setMac dpid snd.mac port with
    ipToLoc := match corePortFor D.maps dpid port with
      | some corePort => s.ipToLoc.set snd.ip ⟨corePort, snd.mac, snd.zone⟩
      | none => s.ipToLoc }

/-- The tables after `_queue_and_resolve`. -/
def enqueued (s : ZoneRouter) (q : QueuedPacket) (zone : String) : ZoneRouter :=
  match s.pending.get? q.ip.dstip with
  | some entry =>
    { s with pending := s.pending.set q.ip.dstip { entry with queue := entry.queue ++ [q] } }
  | none =>
    { s with
      pending := s.pending.set q.ip.dstip ⟨zone, [q], 1, some s.nextTimer⟩
      timers := s.timers.set s.nextTimer q.ip.dstip
      nextTimer := s.nextTimer + 1 }

section

variable (s : ZoneRouter) (q : QueuedPacket) (zone : String)

/-- To queue a packet touches the entries and their timers alone. -/
@[simp] theorem connections_enqueued : (s.enqueued q zone).connections = s.connections := by
  unfold enqueued
  split <;> rfl

@[simp] theorem macTable_enqueued : (s.enqueued q zone).macTable = s.macTable := by
  unfold enqueued
  split <;> rfl

@[simp] theorem ipToLoc_enqueued : (s.enqueued q zone).ipToLoc = s.ipToLoc := by
  unfold enqueued
  split <;> rfl

@[simp] theorem conns_enqueued : (s.enqueued q zone).conns = s.conns := by
  unfold enqueued
  split <;> rfl

end

/-- The tables after an entry and its timer are removed. -/
def removed (s : ZoneRouter) (ip : IPAddr) (timer : ℕ) : ZoneRouter :=
  { s with pending := s.pending.erase ip, timers := s.timers.erase timer }

/-- The verdict of the policy, asked for a packet between two zones. -/
def policyAllowed (s : ZoneRouter) (srcZone dstZone : String) (isIcmp : Bool)
    (answer : Option (Bool × BitVec 8)) : Bool :=
  if s.fwClient then
    match answer with
    | some (allowed, _) => allowed
    | none => firewallAllowed D.policy (some srcZone) (some dstZone) isIcmp
  else firewallAllowed D.policy (some srcZone) (some dstZone) isIcmp

/-- The verdict of the connection table on an IP packet between two zones. -/
def verdict (s : ZoneRouter) (ev : PacketIn) (ip : Ipv4) (srcZone dstZone : String) :
    Option Verdict :=
  (s.conns.check ev.now (s.policyAllowed D srcZone dstZone ip.isIcmp ev.firewall) ip.tracked).1

/-- The tables after the verdict. -/
def checked (s : ZoneRouter) (ev : PacketIn) (ip : Ipv4) (srcZone dstZone : String) : ZoneRouter :=
  { s with
    fwFallbackWarned := s.fwFallbackWarned || (s.fwClient && ev.firewall.isNone)
    conns := (s.conns.check ev.now (s.policyAllowed D srcZone dstZone ip.isIcmp ev.firewall)
      ip.tracked).2 }

end ZoneRouter

/-! ## What the handlers send -/

/-- The messages of `_flood_in_zone`. -/
def floodSent (ev : PacketIn) : List Sent :=
  if ev.dpid = D.maps.coreDpid then
    (zoneCorePorts D.maps (D.maps.corePortZones.get? ev.port).join).flatMap fun port =>
      if port = ev.port then [] else [⟨ev.dpid, .packetOutData ev.packet port⟩]
  else [⟨ev.dpid, .packetOutFlood ev.packet⟩]

/-- The rule of `_l2_forward`. -/
def l2Mod (ev : PacketIn) (outPort : ℕ) : FlowMod where
  ofpMatch := .fromPacket ev.packet ev.port
  idleTimeout := 30
  hardTimeout := 60
  actions := [.output outPort]
  data := some ev.packet

/-- The messages of `_l2_forward`. -/
def l2Sent (s : ZoneRouter) (ev : PacketIn) : List Sent :=
  match s.macPort ev.dpid ev.packet.dst with
  | none => floodSent D ev
  | some outPort => [⟨ev.dpid, .flowMod (l2Mod ev outPort)⟩]

/-- The rule of `_install_drop_flow`. -/
def dropMod (ev : PacketIn) : FlowMod where
  ofpMatch := .fromPacket ev.packet ev.port
  idleTimeout := dropFlowIdleTimeout
  hardTimeout := dropFlowHardTimeout
  actions := []
  data := none

/-- The rule of the core for a routed connection. -/
def coreMod (ev : PacketIn) (dstZone : String) (loc : Location) : FlowMod where
  ofpMatch := { OfpMatch.fromPacket ev.packet ev.port with
    inPort := corePortFor D.maps ev.dpid ev.port }
  idleTimeout := routedFlowIdleTimeout
  hardTimeout := routedFlowHardTimeout
  actions := [.setDlSrc (gatewayMac D dstZone), .setDlDst loc.mac, .decTtl, .output loc.corePort]
  data := none

/-- The rule of the sender's leaf for a routed connection. -/
def leafMod (ev : PacketIn) (uplink : ℕ) : FlowMod where
  ofpMatch := .fromPacket ev.packet ev.port
  idleTimeout := routedFlowIdleTimeout
  hardTimeout := routedFlowHardTimeout
  actions := [.output uplink]
  data := none

/-- The messages of `_install_route_flows`. -/
def routeFlowsSent (s : ZoneRouter) (ev : PacketIn) (dstZone : String) (loc : Location) :
    List Sent :=
  if D.maps.coreDpid ∈ s.connections then
    ⟨D.maps.coreDpid, .flowMod (coreMod D ev dstZone loc)⟩ ::
      if ev.dpid = D.maps.coreDpid then []
      else ((D.maps.leafUplinkPort.get? ev.dpid).map fun uplink =>
        ⟨ev.dpid, .flowMod (leafMod ev uplink)⟩).toList
  else []

/-- The frame of `_send_icmp_error`, to a sender in `zone`. -/
def errorFrame (q : QueuedPacket) (zone : String) (type code : ℕ) : OutFrame where
  src := gatewayMac D zone
  dst := q.packet.src
  content := .icmpError ⟨gatewayIp D zone, q.ip.srcip, type, code, q.ip⟩

/-- The messages of `_send_icmp_error`. -/
def errorSent (s : ZoneRouter) (q : QueuedPacket) (type code : ℕ) : List Sent :=
  if q.dpid ∈ s.connections then
    ((zoneOfPort D.maps q.dpid q.port).map fun zone =>
      ⟨q.dpid, .packetOut (errorFrame D q zone type code) q.port⟩).toList
  else []

/-- The frame of `_forward_ip`. -/
def routedFrame (q : QueuedPacket) (dstZone : String) (mac : EthAddr) : OutFrame where
  src := gatewayMac D dstZone
  dst := mac
  content := .ip { q.ip with ttl := q.ip.ttl - 1 }

/-- The messages of `_forward_ip`. -/
def forwardSent (s : ZoneRouter) (q : QueuedPacket) (dstZone : String) (outPort : ℕ)
    (mac : EthAddr) : List Sent :=
  if q.ip.ttl ≤ 1 then errorSent D s q icmpTimeExceeded icmpCodeTtlExceeded
  else if D.maps.coreDpid ∈ s.connections then
    [⟨D.maps.coreDpid, .packetOut (routedFrame D q dstZone mac) outPort⟩]
  else []

/-- The frame of `_send_arp_probe`. -/
def probeFrame (ip : IPAddr) (zone : String) : OutFrame where
  src := gatewayMac D zone
  dst := etherBroadcast
  content := .arp ⟨arpRequest, gatewayMac D zone, etherBroadcast, gatewayIp D zone, ip⟩

/-- The messages of `_send_arp_probe`. -/
def probeSent (s : ZoneRouter) (ip : IPAddr) (zone : String) : List Sent :=
  if D.maps.coreDpid ∈ s.connections then
    (zoneCorePorts D.maps (some zone)).flatMap fun port =>
      [⟨D.maps.coreDpid, .packetOut (probeFrame D ip zone) port⟩]
  else []

/-- The messages of `_queue_and_resolve`: a probe when the entry is new. -/
def queueSent (s : ZoneRouter) (ip : IPAddr) (zone : String) : List Sent :=
  if (s.pending.get? ip).isNone then probeSent D s ip zone else []

/-- The message of `_send_arp_reply` to the sender of an ARP request for a gateway. -/
def replySent (ev : PacketIn) (arp : Arp) (snd : Sender) : List Sent :=
  [⟨ev.dpid, .packetOut ⟨gatewayMac D snd.zone, snd.mac,
    .arp ⟨arpReply, gatewayMac D snd.zone, snd.mac, arp.protodst, snd.ip⟩⟩ ev.port⟩]

section

variable {D} {s : ZoneRouter}

theorem mem_floodSent {ev : PacketIn} {m : Sent} : m ∈ floodSent D ev ↔
    (ev.dpid = D.maps.coreDpid ∧
      ∃ port ∈ zoneCorePorts D.maps (D.maps.corePortZones.get? ev.port).join,
        port ≠ ev.port ∧ m = ⟨ev.dpid, .packetOutData ev.packet port⟩) ∨
    (ev.dpid ≠ D.maps.coreDpid ∧ m = ⟨ev.dpid, .packetOutFlood ev.packet⟩) := by
  unfold floodSent
  split
  · rename_i hcore
    simp only [hcore, List.mem_flatMap, ne_eq, not_true_eq_false, true_and, false_and, or_false]
    refine exists_congr fun port => and_congr_right fun _ => ?_
    split <;> simp_all
  · rename_i hleaf
    simp [hleaf]

theorem mem_l2Sent {ev : PacketIn} {m : Sent} : m ∈ l2Sent D s ev ↔
    (∃ outPort, s.macPort ev.dpid ev.packet.dst = some outPort ∧
      m = ⟨ev.dpid, .flowMod (l2Mod ev outPort)⟩) ∨
    (s.macPort ev.dpid ev.packet.dst = none ∧ m ∈ floodSent D ev) := by
  unfold l2Sent
  cases s.macPort ev.dpid ev.packet.dst <;> simp

theorem l2Sent_cases (s : ZoneRouter) (ev : PacketIn) : l2Sent D s ev = floodSent D ev ∨
    ∃ outPort, l2Sent D s ev = [⟨ev.dpid, .flowMod (l2Mod ev outPort)⟩] := by
  unfold l2Sent
  cases s.macPort ev.dpid ev.packet.dst with
  | none => exact .inl rfl
  | some outPort => exact .inr ⟨outPort, rfl⟩

/-- Layer 2 builds no frames. -/
theorem built?_of_mem_floodSent {ev : PacketIn} :
    ∀ m ∈ floodSent D ev, m.message.built? = none := by
  intro m hm
  rcases mem_floodSent.mp hm with ⟨-, port, -, -, rfl⟩ | ⟨-, rfl⟩ <;> rfl

theorem built?_of_mem_l2Sent {ev : PacketIn} : ∀ m ∈ l2Sent D s ev, m.message.built? = none := by
  intro m hm
  rcases mem_l2Sent.mp hm with ⟨outPort, -, rfl⟩ | ⟨-, hm⟩
  · rfl
  · exact built?_of_mem_floodSent m hm

theorem mem_probeSent {ip : IPAddr} {zone : String} {m : Sent} : m ∈ probeSent D s ip zone ↔
    D.maps.coreDpid ∈ s.connections ∧ ∃ port ∈ zoneCorePorts D.maps (some zone),
      m = ⟨D.maps.coreDpid, .packetOut (probeFrame D ip zone) port⟩ := by
  unfold probeSent
  split <;> simp_all

/-- A packet that is queued causes a probe at most. -/
theorem mem_queueSent {ip : IPAddr} {zone : String} {m : Sent} : m ∈ queueSent D s ip zone ↔
    s.pending.get? ip = none ∧ m ∈ probeSent D s ip zone := by
  unfold queueSent
  split <;> simp_all

theorem mem_errorSent {q : QueuedPacket} {type code : ℕ} {m : Sent} :
    m ∈ errorSent D s q type code ↔ q.dpid ∈ s.connections ∧
      ∃ zone, zoneOfPort D.maps q.dpid q.port = some zone ∧
        m = ⟨q.dpid, .packetOut (errorFrame D q zone type code) q.port⟩ := by
  unfold errorSent
  split <;> simp_all [eq_comm]

theorem mem_routeFlowsSent {ev : PacketIn} {dstZone : String} {loc : Location} {m : Sent} :
    m ∈ routeFlowsSent D s ev dstZone loc ↔ D.maps.coreDpid ∈ s.connections ∧
      (m = ⟨D.maps.coreDpid, .flowMod (coreMod D ev dstZone loc)⟩ ∨
        ev.dpid ≠ D.maps.coreDpid ∧ ∃ uplink, D.maps.leafUplinkPort.get? ev.dpid = some uplink ∧
          m = ⟨ev.dpid, .flowMod (leafMod ev uplink)⟩) := by
  unfold routeFlowsSent
  split
  · split <;> simp_all [eq_comm]
  · simp_all

/-- The rules of a routed connection are the core's, and that of the sender's leaf. -/
theorem flowMod_of_mem_routeFlowsSent {ev : PacketIn} {dstZone : String} {loc : Location}
    {dpid : ℕ} {mod : FlowMod} (hm : ⟨dpid, .flowMod mod⟩ ∈ routeFlowsSent D s ev dstZone loc) :
    (dpid = D.maps.coreDpid ∧ mod = coreMod D ev dstZone loc) ∨
      dpid = ev.dpid ∧ ev.dpid ≠ D.maps.coreDpid ∧
        ∃ uplink, D.maps.leafUplinkPort.get? ev.dpid = some uplink ∧ mod = leafMod ev uplink := by
  obtain ⟨-, h | ⟨hleaf, uplink, hup, h⟩⟩ := mem_routeFlowsSent.mp hm
  · obtain ⟨hdpid, hmod⟩ := Sent.mk.inj h
    exact .inl ⟨hdpid, Message.flowMod.inj hmod⟩
  · obtain ⟨hdpid, hmod⟩ := Sent.mk.inj h
    exact .inr ⟨hdpid, hleaf, uplink, hup, Message.flowMod.inj hmod⟩

theorem built?_of_mem_routeFlowsSent {ev : PacketIn} {dstZone : String} {loc : Location} :
    ∀ m ∈ routeFlowsSent D s ev dstZone loc, m.message.built? = none := by
  intro m hm
  obtain ⟨-, rfl | ⟨-, uplink, -, rfl⟩⟩ := mem_routeFlowsSent.mp hm <;> rfl

theorem mem_forwardSent {q : QueuedPacket} {dstZone : String} {outPort : ℕ} {mac : EthAddr}
    {m : Sent} : m ∈ forwardSent D s q dstZone outPort mac ↔
      (q.ip.ttl ≤ 1 ∧ m ∈ errorSent D s q icmpTimeExceeded icmpCodeTtlExceeded) ∨
      (1 < q.ip.ttl ∧ D.maps.coreDpid ∈ s.connections ∧
        m = ⟨D.maps.coreDpid, .packetOut (routedFrame D q dstZone mac) outPort⟩) := by
  unfold forwardSent
  split
  · rename_i httl
    simp [httl, Nat.not_lt.mpr httl]
  · rename_i httl
    split <;> simp_all

end

/-! ## The methods, one by one -/

section

variable {D} {s : ZoneRouter}

theorem run_learn (dpid port : ℕ) (snd : Sender) :
    (learn D dpid port snd.ip snd.mac snd.zone).run s =
      ⟨.ok (), s.learned D dpid port snd, []⟩ := by
  unfold learn ZoneRouter.learned
  cases corePortFor D.maps dpid port <;> rfl

theorem run_floodInZone (ev : PacketIn) :
    (floodInZone D ev).run s = ⟨.ok (), s, floodSent D ev⟩ := by
  unfold floodInZone floodSent
  split
  · exact run_forM fun port _ => by split <;> rfl
  · rfl

theorem run_l2Forward (ev : PacketIn) :
    (l2Forward D ev ev.packet.dst).run s = ⟨.ok (), s, l2Sent D s ev⟩ := by
  rw [l2Forward, run_bind_of_ok (run_get s), after_nil]
  unfold l2Sent
  cases s.macPort ev.dpid ev.packet.dst with
  | none => exact run_floodInZone ev
  | some outPort => rfl

theorem run_zoneEntry {zone : String} {z : ZoneEntry} (h : D.policy.zones.get? zone = some z) :
    (zoneEntry D zone).run s = ⟨.ok z, s, []⟩ := by
  rw [zoneEntry, h, run_ofOption_some]

theorem run_sendIcmpError {q : QueuedPacket} {type code : ℕ}
    (hzone : ∀ zone, zoneOfPort D.maps q.dpid q.port = some zone → Ipv4Zone D zone) :
    (sendIcmpError D q.packet q.ip q.dpid q.port type code).run s =
      ⟨.ok (), s, errorSent D s q type code⟩ := by
  rw [sendIcmpError, run_bind_of_ok (run_get s), after_nil]
  unfold errorSent
  split
  · cases hz : zoneOfPort D.maps q.dpid q.port with
    | none => rfl
    | some zone =>
      obtain ⟨z, ip, hentry, hgw⟩ := hzone zone hz
      simp only
      rw [run_bind_of_ok (run_zoneEntry hentry), after_nil, hgw]
      simp [errorFrame, gatewayMac, gatewayIp, hentry, hgw, ipv4?]
      rfl
  · rfl

theorem run_forwardIp {q : QueuedPacket} {dstZone : String} {outPort : ℕ} {mac : EthAddr}
    (hzone : ∀ zone, zoneOfPort D.maps q.dpid q.port = some zone → Ipv4Zone D zone)
    (hdst : Ipv4Zone D dstZone) :
    (forwardIp D q.dpid q.port dstZone q.packet q.ip outPort mac).run s =
      ⟨.ok (), s, forwardSent D s q dstZone outPort mac⟩ := by
  unfold forwardIp forwardSent
  split
  · exact run_sendIcmpError hzone
  · rw [run_bind_of_ok (run_get s), after_nil]
    split
    · obtain ⟨z, ip, hentry, -⟩ := hdst
      rw [run_bind_of_ok (run_zoneEntry hentry), after_nil, routedFrame, gatewayMac, hentry]
      rfl
    · rfl

theorem run_installRouteFlows {ev : PacketIn} {dstZone : String} {loc : Location}
    (hdst : Ipv4Zone D dstZone)
    (hleaf : ev.dpid ≠ D.maps.coreDpid → ∃ p, D.maps.leafUplinkPort.get? ev.dpid = some p) :
    (installRouteFlows D ev dstZone loc.corePort loc.mac).run s =
      ⟨.ok (), s, routeFlowsSent D s ev dstZone loc⟩ := by
  rw [installRouteFlows, run_bind_of_ok (run_get s), after_nil]
  unfold routeFlowsSent
  split
  · obtain ⟨z, ip, hentry, -⟩ := hdst
    have hcore : (installCoreFlow D ev dstZone loc.corePort loc.mac).run s =
        ⟨.ok (), s, [⟨D.maps.coreDpid, .flowMod (coreMod D ev dstZone loc)⟩]⟩ := by
      rw [installCoreFlow, run_bind_of_ok (run_zoneEntry hentry), after_nil, coreMod, gatewayMac,
        hentry]
      rfl
    rw [run_bind_of_ok hcore]
    split
    · rfl
    · rename_i hne
      obtain ⟨uplink, hup⟩ := hleaf hne
      simp only [installLeafFlow, hup]
      rfl
  · rfl

theorem run_sendArpProbe {ip : IPAddr} {zone : String} (hzone : Ipv4Zone D zone) :
    (sendArpProbe D ip zone).run s = ⟨.ok (), s, probeSent D s ip zone⟩ := by
  rw [sendArpProbe, run_bind_of_ok (run_get s), after_nil]
  unfold probeSent
  split
  · obtain ⟨z, gw, hentry, hgw⟩ := hzone
    rw [run_bind_of_ok (run_zoneEntry hentry), after_nil, hgw]
    have hframe : probeFrame D ip zone = ⟨ethAddr z.gatewayMac, etherBroadcast,
        .arp ⟨arpRequest, ethAddr z.gatewayMac, etherBroadcast, gw, ip⟩⟩ := by
      simp [probeFrame, gatewayMac, gatewayIp, hentry, hgw, ipv4?]
    rw [hframe]
    exact run_forM fun port _ => rfl
  · rfl

theorem run_modifyEntry {ip : IPAddr} {entry : PendingEntry} (h : s.pending.get? ip = some entry)
    (f : PendingEntry → PendingEntry) : (modifyEntry ip f).run s =
      ⟨.ok (), { s with pending := s.pending.set ip (f entry) }, []⟩ := by
  simp only [modifyEntry, run_modify, h]

theorem run_startTimer (ip : IPAddr) : (startTimer ip).run s = ⟨.ok s.nextTimer,
    { s with timers := s.timers.set s.nextTimer ip, nextTimer := s.nextTimer + 1 }, []⟩ := rfl

theorem run_openEntry {ip : IPAddr} {dstZone : String} (hdst : Ipv4Zone D dstZone) :
    (openEntry D ip dstZone).run s =
      ⟨.ok (), { s with
        pending := s.pending.set ip ⟨dstZone, [], 1, some s.nextTimer⟩
        timers := s.timers.set s.nextTimer ip
        nextTimer := s.nextTimer + 1 }, probeSent D s ip dstZone⟩ := by
  rw [openEntry, run_bind_of_ok (run_modify _ s), after_nil,
    run_bind_of_ok (run_sendArpProbe hdst), run_bind_of_ok (run_startTimer ip), after_nil,
    run_modifyEntry (Dict.get?_set_self ..), after_mk, List.append_nil]
  simp only [Dict.set_set]
  rfl

theorem run_queueAndResolve {q : QueuedPacket} {dstZone : String} (hdst : Ipv4Zone D dstZone) :
    (queueAndResolve D q.dpid q.port q.packet q.ip dstZone).run s =
      ⟨.ok (), s.enqueued q dstZone, queueSent D s q.ip.dstip dstZone⟩ := by
  rw [queueAndResolve, run_bind_of_ok (run_get s), after_nil]
  unfold ZoneRouter.enqueued queueSent
  cases hentry : s.pending.get? q.ip.dstip with
  | some entry =>
    simp only [Option.isNone_some, Bool.false_eq_true, if_false]
    rw [run_modifyEntry hentry]
  | none =>
    simp only [Option.isNone_none, if_true]
    rw [run_bind_of_ok (run_openEntry hdst), run_modifyEntry (Dict.get?_set_self ..), after_mk,
      List.append_nil]
    simp only [Dict.set_set, List.nil_append]

theorem run_askFirewall (srcZone dstZone : String) (isIcmp : Bool)
    (answer : Option (Bool × BitVec 8)) :
    (askFirewall D srcZone dstZone isIcmp answer).run s =
      ⟨.ok (s.policyAllowed D srcZone dstZone isIcmp answer),
        { s with fwFallbackWarned := s.fwFallbackWarned || (s.fwClient && answer.isNone) },
        []⟩ := by
  unfold askFirewall ZoneRouter.policyAllowed
  rw [run_bind_of_ok (run_get s), after_nil]
  obtain ⟨connections, macTable, ipToLoc, pending, fwClient, warned, conns, timers, nextTimer⟩ := s
  cases fwClient with
  | false => simp
  | true =>
    cases answer with
    | none =>
      simp only [if_true, Option.isNone_none, Bool.and_self, Bool.or_true]
      rfl
    | some answer => simp

/-- Asking the firewall and the connection table gives the verdict. -/
theorem run_checkConns (ev : PacketIn) (ip : Ipv4) (srcZone dstZone : String)
    (f : Option Verdict → Handler Unit) :
    (do
      let policyAllowed ← askFirewall D srcZone dstZone ip.isIcmp ev.firewall
      f (← checkConns ev.now policyAllowed ip.tracked)).run s =
      (f (s.verdict D ev ip srcZone dstZone)).run (s.checked D ev ip srcZone dstZone) := by
  rw [run_bind_of_ok (run_askFirewall ..), after_nil]
  rfl

/-! ## Sound pending entries -/

/-- A waiting packet: it goes to the address it waits for, and entered with a valid source at a
port of another zone. -/
structure QueuedOk (D : Deployment) (dstIp : IPAddr) (dstZone : String) (q : QueuedPacket) :
    Prop where
  dstip : q.ip.dstip = dstIp
  zone : ∃ z, zoneOfPort D.maps q.dpid q.port = some z ∧
    sourceIpValidForZone D.policy (.v4 q.ip.srcip) z = true ∧ z ≠ dstZone

/-- A sound entry of an address: it has the zone of the address and a running timer, and probes
left or just used up. -/
structure EntryOk (D : Deployment) (timers : Dict ℕ IPAddr) (ip : IPAddr) (entry : PendingEntry) :
    Prop where
  zone : zoneForIp D.policy (.v4 ip) = some entry.zone
  timer : ∃ t, entry.timer = some t ∧ timers.get? t = some ip
  retries : 1 ≤ entry.retries ∧ entry.retries ≤ arpMaxRetries
  queue : ∀ q ∈ entry.queue, QueuedOk D ip entry.zone q

theorem ipv4Zone_of_zoneForIp {ip : IPAddr} {zone : String}
    (h : zoneForIp D.policy (.v4 ip) = some zone) : Ipv4Zone D zone := by
  obtain ⟨entry, hentry, hcontains⟩ := zoneForIp_mem h
  have hgw := (loadPolicy_zone_ok D.policy_ok hentry).1
  cases hsubnet : entry.subnet with
  | v6 b scope => simp [hsubnet, IPNetwork.contains] at hcontains
  | v4 b =>
    cases hg : entry.gateway with
    | v6 a scope => simp [hsubnet, hg, IPNetwork.contains] at hgw
    | v4 gw => exact ⟨entry, gw, hentry, hg⟩

theorem Ipv4Zone.mem_keys {zone : String} (h : Ipv4Zone D zone) : zone ∈ D.policy.zones.keys := by
  obtain ⟨z, ip, hz, -⟩ := h
  exact Dict.mem_keys_iff.mpr ⟨z, hz⟩

theorem ipv4Zone_of_sourceIpValid {ip : IPAddr} {zone : String}
    (h : sourceIpValidForZone D.policy (.v4 ip) zone = true) : Ipv4Zone D zone :=
  ipv4Zone_of_zoneForIp (sourceIpValidForZone_iff.mp h).1

theorem EntryOk.ipv4Zone {timers : Dict ℕ IPAddr} {ip : IPAddr} {entry : PendingEntry}
    (h : EntryOk D timers ip entry) : Ipv4Zone D entry.zone := ipv4Zone_of_zoneForIp h.zone

theorem QueuedOk.ipv4Zone {ip : IPAddr} {dstZone : String} {q : QueuedPacket}
    (h : QueuedOk D ip dstZone q) (zone : String)
    (hzone : zoneOfPort D.maps q.dpid q.port = some zone) : Ipv4Zone D zone := by
  obtain ⟨z, hz, hvalid, -⟩ := h.zone
  obtain rfl := Option.some.inj (hzone.symm.trans hz)
  exact ipv4Zone_of_sourceIpValid hvalid

/-- What waits after a packet was queued is the packet, or waited before. -/
theorem mem_queue_enqueued {q q' : QueuedPacket} {zone : String} {ip : IPAddr}
    {entry : PendingEntry} (hentry : (s.enqueued q zone).pending.get? ip = some entry)
    (hq : q' ∈ entry.queue) :
    q' = q ∨ ∃ entry, s.pending.get? ip = some entry ∧ q' ∈ entry.queue := by
  unfold ZoneRouter.enqueued at hentry
  cases hold : s.pending.get? q.ip.dstip with
  | some old =>
    simp only [hold] at hentry
    rcases Dict.get?_set_eq_some.mp hentry with ⟨rfl, rfl⟩ | ⟨-, hentry⟩
    · rcases List.mem_append.mp hq with hq | hq
      · exact .inr ⟨old, hold, hq⟩
      · exact .inl (List.mem_singleton.mp hq)
    · exact .inr ⟨entry, hentry, hq⟩
  | none =>
    simp only [hold] at hentry
    rcases Dict.get?_set_eq_some.mp hentry with ⟨rfl, rfl⟩ | ⟨-, hentry⟩
    · exact .inl (List.mem_singleton.mp hq)
    · exact .inr ⟨entry, hentry, hq⟩

/-! ## Resolution -/

/-- What a tick of an entry's timer does: the last one removes the entry and reports every packet
unreachable, the others probe again. -/
theorem run_retryArp {ip : IPAddr} {entry : PendingEntry} {timer : ℕ}
    (hentry : s.pending.get? ip = some entry) (hok : EntryOk D s.timers ip entry)
    (htimer : entry.timer = some timer) :
    (retryArp D ip).run s =
      if arpMaxRetries ≤ entry.retries then
        ⟨.ok (), s.removed ip timer,
          entry.queue.flatMap fun q => errorSent D s q icmpDestUnreach icmpCodeHostUnreach⟩
      else
        ⟨.ok (), { s with
          pending := s.pending.set ip { entry with retries := entry.retries + 1 } },
          probeSent D s ip entry.zone⟩ := by
  rw [retryArp, run_bind_of_ok (run_get s), after_nil, hentry]
  simp only
  split
  · -- the retries are used up: `retryArp` cancels the timer and drops the queue
    rw [htimer, run_bind_of_ok (run_ofOption_some ..), after_nil]
    have hcancel : (cancelTimer timer).run s =
        ⟨.ok (), { s with timers := s.timers.erase timer }, []⟩ := rfl
    rw [run_bind_of_ok hcancel, after_nil, run_bind_of_ok (run_modify ..), after_nil]
    exact run_forM fun q hq => run_sendIcmpError (hok.queue q hq).ipv4Zone
  · rw [run_bind_of_ok (run_sendArpProbe hok.ipv4Zone), run_modifyEntry hentry, after_mk,
      List.append_nil]

/-- What the answer to a probe does: the entry is removed, and every packet forwarded. -/
theorem run_resolvePending {ip : IPAddr} {mac : EthAddr} {entry : PendingEntry} {timer : ℕ}
    {loc : Location} (hentry : s.pending.get? ip = some entry) (hok : EntryOk D s.timers ip entry)
    (htimer : entry.timer = some timer) (hloc : s.ipToLoc.get? ip = some loc) :
    (resolvePending D ip mac).run s =
      ⟨.ok (), s.removed ip timer,
        entry.queue.flatMap fun q => forwardSent D s q entry.zone loc.corePort mac⟩ := by
  rw [resolvePending, run_bind_of_ok (run_get s), after_nil, hentry]
  simp only
  have hcancel (s' : ZoneRouter) : (cancelTimer timer).run s' =
      ⟨.ok (), { s' with timers := s'.timers.erase timer }, []⟩ := rfl
  rw [run_bind_of_ok (run_modify ..), after_nil, htimer, Option.elim_some,
    run_bind_of_ok (hcancel _), after_nil, run_bind_of_ok (run_get _), after_nil, hloc,
    run_bind_of_ok (run_ofOption_some ..), after_nil]
  exact run_forM fun q hq => run_forwardIp (hok.queue q hq).ipv4Zone hok.ipv4Zone

theorem run_resolvePending_of_none {ip : IPAddr} {mac : EthAddr}
    (hentry : s.pending.get? ip = none) :
    (resolvePending D ip mac).run s = ⟨.ok (), s, []⟩ := by
  rw [resolvePending, run_bind_of_ok (run_get s), after_nil, hentry]
  rfl

/-! ## Packet-ins -/

/-- An IP packet-in, as it would be queued. -/
def PacketIn.queued (ev : PacketIn) (p : Ipv4) : QueuedPacket := ⟨ev.dpid, ev.port, ev.packet, p⟩

/-- The ways a packet-in can be handled, with the state it leaves and the messages it causes. -/
inductive Handled (D : Deployment) (s : ZoneRouter) (ev : PacketIn) :
    ZoneRouter → List Sent → Prop where
  | ignored (hsender : acceptedSender D ev = none) : Handled D s ev s []
  | transit (huplink : isLeafUplink D.maps ev.dpid ev.port = true) :
    Handled D s ev (s.setMac ev.dpid ev.packet.src ev.port)
      (if isMulticast ev.packet.dst then floodSent D ev
        else l2Sent D (s.setMac ev.dpid ev.packet.src ev.port) ev)
  | other (huplink : isLeafUplink D.maps ev.dpid ev.port = false)
      (hclaim : ev.packet.claim = none) : Handled D s ev s (floodSent D ev)
  | arpRequest {a : Arp} {snd : Sender} (hsender : acceptedSender D ev = some snd)
      (hbody : ev.packet.body = .arp a) (hop : a.opcode = arpRequest)
      (hgw : isGateway D a.protodst = true) :
    Handled D s ev (s.learned D ev.dpid ev.port snd) (replySent D ev a snd)
  | arpReply {a : Arp} {snd : Sender} (hsender : acceptedSender D ev = some snd)
      (hbody : ev.packet.body = .arp a) (hop : a.opcode = arpReply)
      (hgw : isGateway D a.protodst = true) (hentry : s.pending.get? snd.ip = none) :
    Handled D s ev (s.learned D ev.dpid ev.port snd) []
  | arpResolve {a : Arp} {snd : Sender} {entry : PendingEntry} {timer corePort : ℕ}
      (hsender : acceptedSender D ev = some snd) (hbody : ev.packet.body = .arp a)
      (hop : a.opcode = arpReply) (hgw : isGateway D a.protodst = true)
      (hentry : s.pending.get? snd.ip = some entry) (htimer : entry.timer = some timer)
      (hport : corePortFor D.maps ev.dpid ev.port = some corePort) :
    Handled D s ev ((s.learned D ev.dpid ev.port snd).removed snd.ip timer)
      (entry.queue.flatMap fun q => forwardSent D s q entry.zone corePort snd.mac)
  | arpOrdinary {a : Arp} {snd : Sender} (hsender : acceptedSender D ev = some snd)
      (hbody : ev.packet.body = .arp a)
      (hop : ¬ ((a.opcode = arpRequest ∨ a.opcode = arpReply) ∧ isGateway D a.protodst = true)) :
    Handled D s ev (s.learned D ev.dpid ev.port snd) (floodSent D ev)
  | ipUnrouted {p : Ipv4} {snd : Sender} (hsender : acceptedSender D ev = some snd)
      (hbody : ev.packet.body = .ip p)
      (hdst : isGateway D p.dstip = true ∨ zoneForIp D.policy (.v4 p.dstip) = none) :
    Handled D s ev (s.learned D ev.dpid ev.port snd) []
  | ipSameZone {p : Ipv4} {snd : Sender} (hsender : acceptedSender D ev = some snd)
      (hbody : ev.packet.body = .ip p) (hgw : isGateway D p.dstip = false)
      (hdst : zoneForIp D.policy (.v4 p.dstip) = some snd.zone) :
    Handled D s ev (s.learned D ev.dpid ev.port snd)
      (l2Sent D (s.learned D ev.dpid ev.port snd) ev)
  | ipBlocked {p : Ipv4} {snd : Sender} {dstZone : String}
      (hsender : acceptedSender D ev = some snd) (hbody : ev.packet.body = .ip p)
      (hgw : isGateway D p.dstip = false)
      (hdst : zoneForIp D.policy (.v4 p.dstip) = some dstZone) (hne : dstZone ≠ snd.zone)
      (hverdict : s.verdict D ev p snd.zone dstZone = none) :
    Handled D s ev ((s.learned D ev.dpid ev.port snd).checked D ev p snd.zone dstZone)
      [⟨ev.dpid, .flowMod (dropMod ev)⟩]
  | ipForwarded {p : Ipv4} {snd : Sender} {dstZone : String} {v : Verdict} {loc : Location}
      (hsender : acceptedSender D ev = some snd) (hbody : ev.packet.body = .ip p)
      (hgw : isGateway D p.dstip = false)
      (hdst : zoneForIp D.policy (.v4 p.dstip) = some dstZone) (hne : dstZone ≠ snd.zone)
      (hverdict : s.verdict D ev p snd.zone dstZone = some v)
      (hloc : (s.learned D ev.dpid ev.port snd).ipToLoc.get? p.dstip = some loc) :
    Handled D s ev ((s.learned D ev.dpid ev.port snd).checked D ev p snd.zone dstZone)
      ((if 1 < p.ttl then routeFlowsSent D s ev dstZone loc else []) ++
        forwardSent D s (ev.queued p) dstZone loc.corePort loc.mac)
  | ipQueued {p : Ipv4} {snd : Sender} {dstZone : String} {v : Verdict}
      (hsender : acceptedSender D ev = some snd) (hbody : ev.packet.body = .ip p)
      (hgw : isGateway D p.dstip = false)
      (hdst : zoneForIp D.policy (.v4 p.dstip) = some dstZone) (hne : dstZone ≠ snd.zone)
      (hverdict : s.verdict D ev p snd.zone dstZone = some v)
      (hloc : (s.learned D ev.dpid ev.port snd).ipToLoc.get? p.dstip = none) :
    Handled D s ev
      (((s.learned D ev.dpid ev.port snd).checked D ev p snd.zone dstZone).enqueued
        (ev.queued p) dstZone)
      (queueSent D s p.dstip dstZone)

/-- An accepted sender's zone is that of the port and of the claimed address. -/
theorem acceptedSender_eq_some {ev : PacketIn} {snd : Sender}
    (h : acceptedSender D ev = some snd) :
    ev.packet.parsed = true ∧ isLeafUplink D.maps ev.dpid ev.port = false ∧
      ev.packet.claim = some (snd.ip, snd.mac) ∧
      zoneOfPort D.maps ev.dpid ev.port = some snd.zone ∧
      sourceIpValidForZone D.policy (.v4 snd.ip) snd.zone = true := by
  unfold acceptedSender at h
  split at h
  · cases h
  · rename_i hhost
    rw [not_or, Bool.not_eq_false, Bool.not_eq_true] at hhost
    obtain ⟨⟨ip, mac⟩, hclaim, h⟩ := Option.bind_eq_some_iff.mp h
    obtain ⟨zone, hzone, h⟩ := Option.bind_eq_some_iff.mp h
    split at h
    · rename_i hvalid
      cases h
      exact ⟨hhost.1, hhost.2, hclaim, hzone, hvalid⟩
    · cases h

theorem Sender.zone_mem {ev : PacketIn} {snd : Sender} (hsender : acceptedSender D ev = some snd) :
    snd.zone ∈ D.policy.zones.keys :=
  (ipv4Zone_of_sourceIpValid (acceptedSender_eq_some hsender).2.2.2.2).mem_keys

/-- The anti-spoofing check of a handler decides whether the sender is accepted. -/
theorem acceptedSender_of_claim {ev : PacketIn} {ip : IPAddr} {mac : EthAddr} {zone : String}
    (hparsed : ev.packet.parsed = true) (huplink : isLeafUplink D.maps ev.dpid ev.port = false)
    (hclaim : ev.packet.claim = some (ip, mac))
    (hzone : zoneOfPort D.maps ev.dpid ev.port = some zone) :
    acceptedSender D ev = if sourceIpValidForZone D.policy (.v4 ip) zone then
      some ⟨ip, mac, zone⟩ else none := by
  simp [acceptedSender, hparsed, huplink, hclaim, hzone]

theorem acceptedSender_of_zone_none {ev : PacketIn}
    (hzone : zoneOfPort D.maps ev.dpid ev.port = none) : acceptedSender D ev = none := by
  unfold acceptedSender
  split
  · rfl
  · simp [hzone]

/-- The core port of an accepted sender. -/
theorem corePort_of_acceptedSender {ev : PacketIn} {snd : Sender}
    (h : acceptedSender D ev = some snd) : ∃ p, corePortFor D.maps ev.dpid ev.port = some p ∧
      D.maps.corePortZones.get? p = some (some snd.zone) :=
  D.exists_corePortFor (acceptedSender_eq_some h).2.2.2.1

theorem get?_learned {dpid port : ℕ} {snd : Sender} {p : ℕ}
    (hport : corePortFor D.maps dpid port = some p) (ip : IPAddr) :
    (s.learned D dpid port snd).ipToLoc.get? ip =
      if ip = snd.ip then some ⟨p, snd.mac, snd.zone⟩ else s.ipToLoc.get? ip := by
  simp only [ZoneRouter.learned, hport]
  exact Dict.get?_set ..

theorem handleTransit_handled {ev : PacketIn}
    (huplink : isLeafUplink D.maps ev.dpid ev.port = true) :
    ∃ s' log, (handleTransit D ev).run s = ⟨.ok (), s', log⟩ ∧ Handled D s ev s' log := by
  refine ⟨_, _, ?_, .transit huplink⟩
  rw [handleTransit, run_bind_of_ok (run_modify ..), after_nil]
  split
  · exact run_floodInZone ev
  · exact run_l2Forward ev

theorem handleArp_handled
    (hok : ∀ ip entry, s.pending.get? ip = some entry → EntryOk D s.timers ip entry)
    {ev : PacketIn} {a : Arp} (hparsed : ev.packet.parsed = true)
    (huplink : isLeafUplink D.maps ev.dpid ev.port = false) (hbody : ev.packet.body = .arp a) :
    ∃ s' log, (handleArp D ev a).run s = ⟨.ok (), s', log⟩ ∧ Handled D s ev s' log := by
  have hclaim : ev.packet.claim = some (a.protosrc, a.hwsrc) := by simp [Frame.claim, hbody]
  unfold handleArp
  cases hzone : zoneOfPort D.maps ev.dpid ev.port with
  | none => exact ⟨s, [], rfl, .ignored (acceptedSender_of_zone_none hzone)⟩
  | some srcZone =>
    have hacc := acceptedSender_of_claim hparsed huplink hclaim hzone
    simp only
    cases hvalid : sourceIpValidForZone D.policy (.v4 a.protosrc) srcZone with
    | false =>
      rw [hvalid] at hacc
      exact ⟨s, [], rfl, .ignored hacc⟩
    | true =>
      let snd : Sender := ⟨a.protosrc, a.hwsrc, srcZone⟩
      replace hacc : acceptedSender D ev = some snd := by rw [hacc, hvalid, if_pos rfl]
      have hlearn := run_learn (D := D) (s := s) ev.dpid ev.port snd
      simp only [Bool.not_true, Bool.false_eq_true, if_false]
      split
      · rename_i hop
        obtain ⟨z, ip, hentry, -⟩ := ipv4Zone_of_sourceIpValid hvalid
        refine ⟨_, _, ?_, .arpRequest hacc hbody hop.1 hop.2⟩
        rw [run_bind_of_ok hlearn, after_nil, run_bind_of_ok (run_zoneEntry hentry), after_nil]
        simp only [replySent, gatewayMac, hentry, snd]
        rfl
      · rename_i hreq
        split
        · rename_i hop
          rw [run_bind_of_ok hlearn, after_nil]
          cases hentry : s.pending.get? snd.ip with
          | none =>
            exact ⟨_, _, run_resolvePending_of_none hentry,
              .arpReply hacc hbody hop.1 hop.2 hentry⟩
          | some entry =>
            obtain ⟨timer, htimer, -⟩ := (hok _ _ hentry).timer
            obtain ⟨p, hport, -⟩ := corePort_of_acceptedSender hacc
            have hloc : (s.learned D ev.dpid ev.port snd).ipToLoc.get? snd.ip =
                some ⟨p, snd.mac, snd.zone⟩ := by rw [get?_learned hport, if_pos rfl]
            exact ⟨_, _, run_resolvePending hentry (hok _ _ hentry) htimer hloc,
              .arpResolve hacc hbody hop.1 hop.2 hentry htimer hport⟩
        · rename_i hrep
          refine ⟨_, _, ?_, .arpOrdinary hacc hbody fun h => ?_⟩
          · rw [run_bind_of_ok hlearn, after_nil]
            exact run_floodInZone ev
          · exact h.1.elim (fun h1 => hreq ⟨h1, h.2⟩) fun h1 => hrep ⟨h1, h.2⟩

theorem route_handled {ev : PacketIn} {p : Ipv4} {snd : Sender} {dstZone : String} {v : Verdict}
    (hacc : acceptedSender D ev = some snd) (hbody : ev.packet.body = .ip p)
    (hgw : isGateway D p.dstip = false) (hdst : zoneForIp D.policy (.v4 p.dstip) = some dstZone)
    (hne : dstZone ≠ snd.zone) (hverdict : s.verdict D ev p snd.zone dstZone = some v) :
    ∃ s' log, (route D ev p dstZone).run
        ((s.learned D ev.dpid ev.port snd).checked D ev p snd.zone dstZone) =
      ⟨.ok (), s', log⟩ ∧ Handled D s ev s' log := by
  have hdst4 := ipv4Zone_of_zoneForIp hdst
  obtain ⟨-, -, -, hzone, hvalid⟩ := acceptedSender_eq_some hacc
  let s₁ := (s.learned D ev.dpid ev.port snd).checked D ev p snd.zone dstZone
  have hsame : s₁.ipToLoc = (s.learned D ev.dpid ev.port snd).ipToLoc := rfl
  rw [route, run_bind_of_ok (run_get s₁), after_nil, hsame]
  cases hloc : (s.learned D ev.dpid ev.port snd).ipToLoc.get? p.dstip with
  | none =>
    exact ⟨_, _, run_queueAndResolve (q := ev.queued p) hdst4,
      .ipQueued hacc hbody hgw hdst hne hverdict hloc⟩
  | some loc =>
    refine ⟨_, _, ?_, .ipForwarded hacc hbody hgw hdst hne hverdict hloc⟩
    have hforward : (forwardIp D ev.dpid ev.port dstZone ev.packet p loc.corePort loc.mac).run s₁ =
        ⟨.ok (), s₁, forwardSent D s (ev.queued p) dstZone loc.corePort loc.mac⟩ :=
      run_forwardIp (q := ev.queued p) (fun zone hz => by
        obtain rfl := Option.some.inj (hzone.symm.trans hz)
        exact ipv4Zone_of_sourceIpValid hvalid) hdst4
    -- a packet whose time to live is over gets no rules: only an error is sent for it
    by_cases httl : 1 < p.ttl
    · have hflows : (installRouteFlows D ev dstZone loc.corePort loc.mac).run s₁ =
          ⟨.ok (), s₁, routeFlowsSent D s ev dstZone loc⟩ :=
        run_installRouteFlows hdst4 fun hcore => D.exists_leafUplinkPort hzone hcore
      simp only [if_pos httl]
      rw [run_bind_of_ok hflows, hforward, after_mk]
    · simp only [if_neg httl, List.nil_append]
      exact hforward

theorem handleIp_handled {ev : PacketIn} {p : Ipv4} (hparsed : ev.packet.parsed = true)
    (huplink : isLeafUplink D.maps ev.dpid ev.port = false) (hbody : ev.packet.body = .ip p) :
    ∃ s' log, (handleIp D ev p).run s = ⟨.ok (), s', log⟩ ∧ Handled D s ev s' log := by
  have hclaim : ev.packet.claim = some (p.srcip, ev.packet.src) := by simp [Frame.claim, hbody]
  unfold handleIp
  cases hzone : zoneOfPort D.maps ev.dpid ev.port with
  | none => exact ⟨s, [], rfl, .ignored (acceptedSender_of_zone_none hzone)⟩
  | some srcZone =>
    have hacc := acceptedSender_of_claim hparsed huplink hclaim hzone
    simp only
    cases hvalid : sourceIpValidForZone D.policy (.v4 p.srcip) srcZone with
    | false =>
      rw [hvalid] at hacc
      exact ⟨s, [], rfl, .ignored hacc⟩
    | true =>
      let snd : Sender := ⟨p.srcip, ev.packet.src, srcZone⟩
      replace hacc : acceptedSender D ev = some snd := by rw [hacc, hvalid, if_pos rfl]
      simp only [Bool.not_true, Bool.false_eq_true, if_false]
      rw [run_bind_of_ok (run_learn (D := D) (s := s) ev.dpid ev.port snd), after_nil]
      split
      · rename_i hgw
        exact ⟨_, _, rfl, .ipUnrouted hacc hbody (.inl hgw)⟩
      · rename_i hgw
        rw [Bool.not_eq_true] at hgw
        cases hdst : zoneForIp D.policy (.v4 p.dstip) with
        | none => exact ⟨_, _, rfl, .ipUnrouted hacc hbody (.inr hdst)⟩
        | some dstZone =>
          simp only
          split
          · rename_i heq
            subst heq
            exact ⟨_, _, run_l2Forward ev, .ipSameZone hacc hbody hgw hdst⟩
          · rename_i hne
            have hsame : (s.learned D ev.dpid ev.port snd).verdict D ev p srcZone dstZone =
                s.verdict D ev p snd.zone dstZone := rfl
            cases hverdict : s.verdict D ev p snd.zone dstZone with
            | none =>
              refine ⟨_, _, (run_checkConns ev p srcZone dstZone _).trans ?_,
                .ipBlocked hacc hbody hgw hdst hne hverdict⟩
              rw [hsame, hverdict]
              rfl
            | some v =>
              obtain ⟨s', log, hrun, hhandled⟩ := route_handled hacc hbody hgw hdst hne hverdict
              refine ⟨s', log, (run_checkConns ev p srcZone dstZone _).trans ?_, hhandled⟩
              rw [hsame, hverdict]
              exact hrun

/-- **A packet-in is handled in one of the ways of `Handled`**, and raises nothing. -/
theorem handlePacketIn_handled
    (hok : ∀ ip entry, s.pending.get? ip = some entry → EntryOk D s.timers ip entry)
    (ev : PacketIn) :
    ∃ s' log, (handlePacketIn D ev).run s = ⟨.ok (), s', log⟩ ∧ Handled D s ev s' log := by
  unfold handlePacketIn
  cases hparsed : ev.packet.parsed with
  | false => exact ⟨s, [], rfl, .ignored (by simp [acceptedSender, hparsed])⟩
  | true =>
    simp only [Bool.not_true, Bool.false_eq_true, if_false]
    split
    · rename_i hlldp
      exact ⟨s, [], rfl, .ignored (by simp [acceptedSender, Frame.claim, hlldp])⟩
    · split
      · rename_i huplink
        exact handleTransit_handled huplink
      · rename_i huplink
        rw [Bool.not_eq_true] at huplink
        cases hbody : ev.packet.body with
        | arp a => exact handleArp_handled hok hparsed huplink hbody
        | ip p => exact handleIp_handled hparsed huplink hbody
        | lldp | other =>
          exact ⟨s, _, run_floodInZone ev, .other huplink (by simp [Frame.claim, hbody])⟩

end

end ZoneSegmentation
