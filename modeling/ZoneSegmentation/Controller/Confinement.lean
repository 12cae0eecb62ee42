import ZoneSegmentation.Controller.Invariant

/-!
# Layer 2 and the zones

Layer-2 delivery stays in the zone a frame came from when it floods: a flood at the core goes to
the ports of that zone alone. But the core has one MAC table for all zones, and forwards a frame
within a zone to whatever port the table has for its destination. So the frame leaves the zone
exactly when the last host that claimed the MAC address did so from another zone.

## Main definitions

* `Sent.ConfinedTo`: a message that sends received frames only to ports of a zone
* `lastClaim`: where the core last saw a MAC address claimed
* `DeliversWithin`: the condition under which a packet-in stays in its zone

## Main results

* `macPort_stateAfter`: the core's MAC table is the last claim of each address
* `l2_confined_iff`: layer-2 delivery stays in the zone exactly under the condition
* `l2_confined_fails`: a packet between two hosts of a zone that goes to another zone
-/

namespace ZoneSegmentation

variable (D : Deployment)

/-! ## Confinement -/

/-- A port of a switch is in a zone: at the core by its entry; all ports of a leaf are in the
leaf's own zone. -/
def PortInZone (dpid port : ℕ) (zone : String) : Prop :=
  dpid = D.maps.coreDpid → D.maps.corePortZones.get? port = some (some zone)

/-- A message about a packet-in whose layer-2 outputs go only to ports of its switch in `zone`. A
frame does not go back out of its own port, and only a leaf may flood. -/
def Sent.ConfinedTo (ev : PacketIn) (zone : String) (m : Sent) : Prop :=
  match m.message with
  | .packetOutData _ port => m.dpid = ev.dpid ∧ PortInZone D ev.dpid port zone
  | .packetOutFlood _ => m.dpid = ev.dpid ∧ ev.dpid ≠ D.maps.coreDpid
  | .flowMod mod => mod.data.isSome → m.dpid = ev.dpid ∧
      ∀ port, .output port ∈ mod.actions → port ≠ ev.port → PortInZone D ev.dpid port zone
  | .packetOut .. => True

/-! ## The MAC table of the core -/

/-- The port of the core on which an event claims a MAC address, if it does: a packet with a valid
source does so for the address it is learned with. -/
def coreClaim (mac : EthAddr) : Event → Option ℕ
  | .packetIn ev =>
    if ev.dpid = D.maps.coreDpid ∧ (acceptedSender D ev).map Sender.mac = some mac then some ev.port
    else none
  | _ => none

/-- The port of the core on which a MAC address was last claimed. -/
def lastClaim (es : List Event) (mac : EthAddr) : Option ℕ := es.reverse.findSome? (coreClaim D mac)

/-- A packet-in is delivered within its zone: if it is an IP packet at the core for its own zone,
the MAC address it goes to, if ever claimed, was last claimed on a port of that zone. -/
def DeliversWithin (es : List Event) (ev : PacketIn) (zone : String) : Prop :=
  ev.dpid = D.maps.coreDpid → ∀ snd p, acceptedSender D ev = some snd → ev.packet.body = .ip p →
    isGateway D p.dstip = false → zoneForIp D.policy (.v4 p.dstip) = some zone →
      ∀ port, lastClaim D (es ++ [.packetIn ev]) ev.packet.dst = some port →
        D.maps.corePortZones.get? port = some (some zone)

variable {D} {s : ZoneRouter}

@[simp] theorem macPort_setMac (dpid dpid' port : ℕ) (mac mac' : EthAddr) :
    (s.setMac dpid mac port).macPort dpid' mac' =
      if dpid' = dpid ∧ mac' = mac then some port else s.macPort dpid' mac' := by
  unfold ZoneRouter.macPort ZoneRouter.setMac
  by_cases hd : dpid' = dpid
  · subst hd
    rw [Dict.get?_set_self, Option.bind_some, Dict.get?_set]
    cases s.macTable.get? dpid' with
    | none => by_cases hm : mac' = mac <;> simp [hm]
    | some table => simp
  · rw [Dict.get?_set_of_ne _ _ hd, if_neg fun h => hd h.1]

theorem macPort_congr {s s' : ZoneRouter} (h : s'.macTable = s.macTable) :
    s'.macPort = s.macPort := by
  unfold ZoneRouter.macPort
  rw [h]

/-- A packet-in that is not transit writes what it claims. -/
theorem macPort_handled {ev : PacketIn} {s' : ZoneRouter} {log : List Sent}
    (hstep : Handled D s ev s' log) (mac : EthAddr) :
    s'.macPort D.maps.coreDpid mac =
      (coreClaim D mac (.packetIn ev)).or (s.macPort D.maps.coreDpid mac) := by
  have hkept : acceptedSender D ev = none → s'.macTable = s.macTable →
      s'.macPort D.maps.coreDpid mac =
        (coreClaim D mac (.packetIn ev)).or (s.macPort D.maps.coreDpid mac) := by
    intro hsender htable
    simp [macPort_congr htable, coreClaim, hsender]
  have hlearned : ∀ {snd : Sender}, acceptedSender D ev = some snd →
      s'.macTable = (s.setMac ev.dpid snd.mac ev.port).macTable →
      s'.macPort D.maps.coreDpid mac =
        (coreClaim D mac (.packetIn ev)).or (s.macPort D.maps.coreDpid mac) := by
    intro snd hsender htable
    rw [macPort_congr htable, macPort_setMac, coreClaim, hsender]
    by_cases hclaim : ev.dpid = D.maps.coreDpid ∧ snd.mac = mac
    · simp [hclaim.1, hclaim.2]
    · rw [if_neg fun h => hclaim ⟨h.1.symm, h.2.symm⟩, if_neg (by simpa using hclaim)]
      rfl
  cases hstep with
  | ignored hsender => exact hkept hsender rfl
  | other _ hclaim => exact hkept (by simp [acceptedSender, hclaim]) rfl
  | transit huplink =>
    have hleaf := D.ne_core_of_isLeafUplink huplink
    simp [hleaf, coreClaim, hleaf.symm]
  | arpRequest hsender | arpReply hsender | arpResolve hsender | arpOrdinary hsender
  | ipUnrouted hsender | ipSameZone hsender | ipBlocked hsender | ipForwarded hsender =>
    exact hlearned hsender rfl
  | ipQueued hsender => exact hlearned hsender (ZoneRouter.macTable_enqueued ..)

theorem macPort_stepped {e : Event} {s' : ZoneRouter} {log : List Sent}
    (hstep : Stepped D s e s' log) (mac : EthAddr) : s'.macPort D.maps.coreDpid mac =
      (coreClaim D mac e).or (s.macPort D.maps.coreDpid mac) := by
  cases hstep with
  | packetIn hhandled => exact macPort_handled hhandled mac
  | connectionUp dpid =>
    unfold ZoneRouter.macPort
    simp only [coreClaim, Option.none_or, Dict.get?_set]
    split
    · rename_i hdpid
      rw [hdpid]
      cases s.macTable.get? dpid <;> rfl
    · rfl
  | cancelled | probed | gaveUp | connExpire => rfl

theorem lastClaim_snoc (es : List Event) (e : Event) (mac : EthAddr) :
    lastClaim D (es ++ [e]) mac = (coreClaim D mac e).or (lastClaim D es mac) := by
  rw [lastClaim, List.reverse_append, List.reverse_singleton, List.singleton_append,
    List.findSome?_cons]
  cases coreClaim D mac e <;> rfl

/-- **The core's MAC table is the last claim of each address.** -/
theorem macPort_stateAfter (fwClient : Bool) (es : List Event) (mac : EthAddr) :
    (stateAfter D fwClient es).macPort D.maps.coreDpid mac = lastClaim D es mac := by
  induction es using List.reverseRecOn with
  | nil => rfl
  | append_singleton es e ih =>
    rw [stateAfter_snoc, macPort_stepped (step_stepped (routerOk_stateAfter fwClient es) e), ih,
      lastClaim_snoc]

/-! ## Layer-2 outputs -/

/-- A flood stays in the zone of its port. -/
theorem confinedTo_of_mem_floodSent {ev : PacketIn} {zone : String}
    (hzone : zoneOfPort D.maps ev.dpid ev.port = some zone) :
    ∀ m ∈ floodSent D ev, m.ConfinedTo D ev zone := by
  intro m hm
  rcases mem_floodSent.mp hm with ⟨hcore, port, hport, -, rfl⟩ | ⟨hleaf, rfl⟩
  · rw [zoneOfPort, if_pos hcore] at hzone
    rw [hzone] at hport
    exact ⟨rfl, fun _ => mem_zoneCorePorts.mp hport⟩
  · exact ⟨rfl, hleaf⟩

/-- A rule of layer 2 stays in the zone exactly when its port is the frame's own or in the zone. -/
theorem confinedTo_l2Mod {ev : PacketIn} {zone : String} {outPort : ℕ} :
    (⟨ev.dpid, .flowMod (l2Mod ev outPort)⟩ : Sent).ConfinedTo D ev zone ↔
      (outPort ≠ ev.port → PortInZone D ev.dpid outPort zone) := by
  simp [Sent.ConfinedTo, l2Mod]

/-- The messages of the routing branch are not about layer 2. -/
theorem confinedTo_of_mem_routeFlowsSent {ev ev' : PacketIn} {zone dstZone : String}
    {loc : Location} : ∀ m ∈ routeFlowsSent D s ev' dstZone loc, m.ConfinedTo D ev zone := by
  intro m hm
  obtain ⟨-, rfl | ⟨-, uplink, -, rfl⟩⟩ := mem_routeFlowsSent.mp hm
  · simp [Sent.ConfinedTo, coreMod]
  · simp [Sent.ConfinedTo, leafMod]

theorem confinedTo_of_mem_forwardSent {ev : PacketIn} {zone : String} {q : QueuedPacket}
    {dstZone : String} {outPort : ℕ} {mac : EthAddr} :
    ∀ m ∈ forwardSent D s q dstZone outPort mac, m.ConfinedTo D ev zone := by
  intro m hm
  rcases mem_forwardSent.mp hm with ⟨-, hm⟩ | ⟨-, -, rfl⟩
  · obtain ⟨-, srcZone, -, rfl⟩ := mem_errorSent.mp hm
    trivial
  · trivial

/-- A packet-in at a host's port keeps to its zone, unless it is an IP packet for the same zone;
then what counts is the port of the address it goes to. -/
theorem confinedTo_of_handled {ev : PacketIn} {zone : String} {s' : ZoneRouter} {log : List Sent}
    (hzone : zoneOfPort D.maps ev.dpid ev.port = some zone)
    (huplink : isLeafUplink D.maps ev.dpid ev.port = false) (hstep : Handled D s ev s' log)
    (hl2 : ∀ snd p, acceptedSender D ev = some snd → ev.packet.body = .ip p →
      isGateway D p.dstip = false → zoneForIp D.policy (.v4 p.dstip) = some zone →
        ∀ port, s'.macPort ev.dpid ev.packet.dst = some port → PortInZone D ev.dpid port zone) :
    ∀ m ∈ log, m.ConfinedTo D ev zone := by
  cases hstep with
  | ignored | arpReply | ipUnrouted => simp
  | transit htransit => simp [htransit] at huplink
  | other | arpOrdinary => exact confinedTo_of_mem_floodSent hzone
  | arpRequest => simp [replySent, Sent.ConfinedTo]
  | arpResolve =>
    intro m hm
    obtain ⟨q, -, hm⟩ := List.mem_flatMap.mp hm
    exact confinedTo_of_mem_forwardSent m hm
  | @ipSameZone p snd hsender hbody hgw hdst =>
    obtain rfl : snd.zone = zone :=
      Option.some.inj ((acceptedSender_eq_some hsender).2.2.2.1.symm.trans hzone)
    intro m hm
    rcases mem_l2Sent.mp hm with ⟨outPort, hport, rfl⟩ | ⟨-, hm⟩
    · exact confinedTo_l2Mod.mpr fun _ => hl2 snd p hsender hbody hgw hdst outPort hport
    · exact confinedTo_of_mem_floodSent hzone m hm
  | ipBlocked => simp [Sent.ConfinedTo, dropMod]
  | ipForwarded =>
    intro m hm
    rcases List.mem_append.mp hm with hm | hm
    · split at hm
      · exact confinedTo_of_mem_routeFlowsSent m hm
      · cases hm
    · exact confinedTo_of_mem_forwardSent m hm
  | ipQueued =>
    intro m hm
    obtain ⟨-, hm⟩ := mem_queueSent.mp hm
    obtain ⟨-, port, -, rfl⟩ := mem_probeSent.mp hm
    trivial

/-- An IP packet for the zone of its own port goes to layer 2. -/
theorem Handled.log_of_sameZone {ev : PacketIn} {s' : ZoneRouter} {log : List Sent} {snd : Sender}
    {p : Ipv4} (hstep : Handled D s ev s' log) (hsender : acceptedSender D ev = some snd)
    (hbody : ev.packet.body = .ip p) (hgw : isGateway D p.dstip = false)
    (hdst : zoneForIp D.policy (.v4 p.dstip) = some snd.zone) : log = l2Sent D s' ev := by
  have hother : ∀ {p' : Ipv4} {snd' : Sender} {dstZone : String}, acceptedSender D ev = some snd' →
      ev.packet.body = .ip p' → zoneForIp D.policy (.v4 p'.dstip) = some dstZone →
        dstZone = snd'.zone := by
    intro p' snd' dstZone hsender' hbody' hdst'
    obtain rfl := Option.some.inj (hsender.symm.trans hsender')
    obtain rfl := Body.ip.inj (hbody.symm.trans hbody')
    exact Option.some.inj (hdst'.symm.trans hdst)
  cases hstep with
  | ignored hnone => simp [hnone] at hsender
  | transit huplink => simp [acceptedSender, huplink] at hsender
  | other _ hclaim => simp [acceptedSender, hclaim] at hsender
  | arpRequest _ harp | arpReply _ harp | arpResolve _ harp | arpOrdinary _ harp =>
    simp [hbody] at harp
  | ipUnrouted _ hbody' hunrouted =>
    obtain rfl := Body.ip.inj (hbody.symm.trans hbody')
    simp [hgw, hdst] at hunrouted
  | ipSameZone => rfl
  | ipBlocked hsender' hbody' _ hdst' hne | ipForwarded hsender' hbody' _ hdst' hne
  | ipQueued hsender' hbody' _ hdst' hne => exact absurd (hother hsender' hbody' hdst') hne

/-- **Layer-2 delivery stays in the zone exactly under the condition.** Whatever happened before, a
packet-in at a host's port of `zone` has only outputs of layer 2 to ports of `zone`, if and only if
it is no IP packet at the core to an address last claimed from another zone. -/
theorem l2_confined_iff (fwClient : Bool) (es : List Event) {ev : PacketIn} {zone : String}
    (hzone : zoneOfPort D.maps ev.dpid ev.port = some zone)
    (huplink : isLeafUplink D.maps ev.dpid ev.port = false) :
    (∀ m ∈ (step D (stateAfter D fwClient es) (.packetIn ev)).2, m.ConfinedTo D ev zone) ↔
      DeliversWithin D es ev zone := by
  have htable := macPort_stateAfter (D := D) fwClient (es ++ [.packetIn ev]) ev.packet.dst
  rw [stateAfter_snoc] at htable
  have hstep := step_stepped (routerOk_stateAfter (D := D) fwClient es) (.packetIn ev)
  generalize (step D (stateAfter D fwClient es) (.packetIn ev)).1 = s',
    (step D (stateAfter D fwClient es) (.packetIn ev)).2 = log at hstep htable
  cases hstep with
  | packetIn hhandled =>
    constructor
    · intro hconfined hcore snd p hsender hbody hgw hdst port hclaim
      have hsame : snd.zone = zone :=
        Option.some.inj ((acceptedSender_eq_some hsender).2.2.2.1.symm.trans hzone)
      have hlog := hhandled.log_of_sameZone hsender hbody hgw (hsame ▸ hdst)
      have hport : s'.macPort ev.dpid ev.packet.dst = some port := by rw [hcore, htable, hclaim]
      -- the packet went to the port of the last claim, as the table says
      have hmod := hconfined _ (hlog ▸ mem_l2Sent.mpr (.inl ⟨port, hport, rfl⟩))
      -- back to the port it came from, or confined by assumption
      by_cases heq : port = ev.port
      · rw [zoneOfPort, if_pos hcore] at hzone
        exact heq ▸ Option.join_eq_some_iff.mp hzone
      · exact confinedTo_l2Mod.mp hmod heq hcore
    · intro hwithin
      refine confinedTo_of_handled hzone huplink hhandled
        fun snd p hsender hbody hgw hdst port hport hcore => ?_
      rw [hcore, htable] at hport
      exact hwithin hcore snd p hsender hbody hgw hdst port hport

/-- A host outside claims the MAC address of a host in a department; a packet between two hosts of
the department then leaves the core to the outside. -/
def macClaimedOutside : List Event :=
  [6, 1, 2, 3, 4, 5].map .connectionUp ++ [
    hUntrust.sends etherBroadcast (.arp ⟨arpRequest, h103.mac, 0, hUntrust.ip, 0x6C231801⟩) 0]

/-- The packet, as it arrives at the core from the first host's leaf. -/
def departmentPacket : PacketIn :=
  ⟨6, 1, ⟨true, h101.mac, h103.mac, .ip (h101.tcp 1 h103.ip 4000 80)⟩, none, 1⟩

/-- Then the host in the department claims its address itself, by the port of its leaf. -/
def macReclaimed : List Event := macClaimedOutside ++ [.packetIn ⟨6, 2, ⟨true, h103.mac,
  etherBroadcast, .arp ⟨arpRequest, h103.mac, 0, h103.ip, h101.ip⟩⟩, none, 1⟩]

/-- After its own claim the packet stays in the department; after the claim from outside that is
decided by the condition, too. -/
theorem l2_confined_iff_departmentPacket :
    ((step deployment (stateAfter deployment false macReclaimed) (.packetIn departmentPacket)).2 =
        [⟨6, .flowMod (l2Mod departmentPacket 2)⟩] ∧
      ∀ m ∈ (step deployment (stateAfter deployment false macReclaimed)
        (.packetIn departmentPacket)).2, m.ConfinedTo deployment departmentPacket "DeptA") ∧
    ((∀ m ∈ (step deployment (stateAfter deployment false macClaimedOutside)
        (.packetIn departmentPacket)).2, m.ConfinedTo deployment departmentPacket "DeptA") ↔
      DeliversWithin deployment macClaimedOutside departmentPacket "DeptA") := by
  have hwithin : DeliversWithin deployment macReclaimed departmentPacket "DeptA" := by
    intro _ snd p _ _ _ _ port hclaim
    have hlast : lastClaim deployment (macReclaimed ++ [.packetIn departmentPacket]) h103.mac =
        some 2 := by decide +kernel
    obtain rfl := Option.some.inj (hclaim.symm.trans hlast)
    decide +kernel
  exact ⟨⟨by decide +kernel,
    (l2_confined_iff false macReclaimed (by decide +kernel) (by decide +kernel)).mpr hwithin⟩,
    l2_confined_iff false macClaimedOutside (by decide +kernel) (by decide +kernel)⟩

/-- The packet is sent out of the outside host's port. -/
theorem l2_confined_fails :
    zoneOfPort deployment.maps departmentPacket.dpid departmentPacket.port = some "DeptA" ∧
    isLeafUplink deployment.maps departmentPacket.dpid departmentPacket.port = false ∧
    (step deployment (stateAfter deployment false macClaimedOutside)
        (.packetIn departmentPacket)).2 =
      [⟨6, .flowMod (l2Mod departmentPacket 7)⟩] ∧
    deployment.maps.corePortZones.get? 7 = some (some "Untrust") ∧
    ¬ ∀ m ∈ (step deployment (stateAfter deployment false macClaimedOutside)
        (.packetIn departmentPacket)).2, m.ConfinedTo deployment departmentPacket "DeptA" := by
  have hlog : (step deployment (stateAfter deployment false macClaimedOutside)
      (.packetIn departmentPacket)).2 = [⟨6, .flowMod (l2Mod departmentPacket 7)⟩] := by
    decide +kernel
  have hport : deployment.maps.corePortZones.get? 7 = some (some "Untrust") := by decide +kernel
  refine ⟨by decide +kernel, by decide +kernel, hlog, hport, fun hconfined => ?_⟩
  have hmod := hconfined _ (hlog ▸ List.mem_singleton_self _)
  have hzone := confinedTo_l2Mod.mp hmod (by decide) (by decide +kernel)
  exact absurd (hport.symm.trans hzone) (by decide)

end ZoneSegmentation
