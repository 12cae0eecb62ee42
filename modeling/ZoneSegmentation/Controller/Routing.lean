import ZoneSegmentation.Controller.Invariant

/-!
# Where routed traffic goes

A frame that the controller routes, and a rule with which the core routes the rest of a
connection, leave the core toward the zone of the destination address, with that zone's gateway
as their source. That zone is never the one the packet entered from.

## Main definitions

* `MayForward`: the packets an event may route
* `Toward`: an output of the core toward the zone of a packet's destination
* `RoutingOk`: what holds of a message that routes

## Main results

* `routingOk_of_stepped`: every message of an event that routes is sound
* `routed_traffic_toward_destination`: the locations, the pending entries and the routed traffic
  of every run
-/

namespace ZoneSegmentation

variable {D : Deployment} {s : ZoneRouter}

/-- The packets an event may route: the one that came in, and those that wait. -/
def MayForward (s : ZoneRouter) (e : Event) (q : QueuedPacket) : Prop :=
  (∃ ev p, e = .packetIn ev ∧ ev.packet.body = .ip p ∧ q = ev.queued p) ∨
    ∃ ip entry, s.pending.get? ip = some entry ∧ q ∈ entry.queue

/-- An output of the core toward the zone of a packet's destination, with that zone's gateway as
the source; the packet entered from another zone. -/
def Toward (D : Deployment) (q : QueuedPacket) (src : EthAddr) (outPort : ℕ) : Prop :=
  ∃ zone srcZone, zoneForIp D.policy (.v4 q.ip.dstip) = some zone ∧
    D.maps.corePortZones.get? outPort = some (some zone) ∧ src = gatewayMac D zone ∧
    zoneOfPort D.maps q.dpid q.port = some srcZone ∧ srcZone ≠ zone

/-- A routed frame, the port it leaves from, and the packet in it. -/
def Message.routed? : Message → Option (OutFrame × ℕ × Ipv4)
  | .packetOut frame outPort =>
    match frame.content with
    | .ip p => some (frame, outPort, p)
    | _ => none
  | _ => none

/-- A rule with which the core routes: it answers no packet-in, and does not drop. -/
def Sent.coreRule? (D : Deployment) (m : Sent) : Option FlowMod :=
  match m.message with
  | .flowMod mod =>
    if m.dpid = D.maps.coreDpid ∧ mod.data = none ∧ mod.actions ≠ [] then some mod else none
  | _ => none

/-- What holds of a message that routes: a frame leaves the core toward the zone of its
destination, and so do the packets of a core rule, which never go back out of their own port. -/
structure RoutingOk (D : Deployment) (s : ZoneRouter) (e : Event) (m : Sent) : Prop where
  frame : ∀ frame outPort p, m.message.routed? = some (frame, outPort, p) →
    m.dpid = D.maps.coreDpid ∧ ∃ q, MayForward s e q ∧ p = { q.ip with ttl := q.ip.ttl - 1 } ∧
      Toward D q frame.src outPort
  rule : ∀ mod, m.coreRule? D = some mod →
    ∃ q src dst outPort, MayForward s e q ∧ Toward D q src outPort ∧
      mod.actions = [.setDlSrc src, .setDlDst dst, .decTtl, .output outPort] ∧
      mod.ofpMatch.nwDst = some q.ip.dstip ∧
      mod.ofpMatch.inPort = corePortFor D.maps q.dpid q.port ∧
      mod.ofpMatch.inPort ≠ some outPort

/-- A message that does not route. -/
def Sent.Plain (D : Deployment) (m : Sent) : Prop :=
  m.message.routed? = none ∧ m.coreRule? D = none

theorem Sent.Plain.routingOk {m : Sent} (h : m.Plain D) (e : Event) : RoutingOk D s e m where
  frame frame outPort p hm := by simp [h.1] at hm
  rule mod hm := by simp [h.2] at hm

/-! ## Messages that do not route -/

theorem plain_of_mem_floodSent {ev : PacketIn} : ∀ m ∈ floodSent D ev, m.Plain D := by
  intro m hm
  rcases mem_floodSent.mp hm with ⟨-, port, -, -, rfl⟩ | ⟨-, rfl⟩ <;> exact ⟨rfl, rfl⟩

theorem plain_of_mem_l2Sent {ev : PacketIn} : ∀ m ∈ l2Sent D s ev, m.Plain D := by
  intro m hm
  rcases mem_l2Sent.mp hm with ⟨outPort, -, rfl⟩ | ⟨-, hm⟩
  · exact ⟨rfl, by simp [Sent.coreRule?, l2Mod]⟩
  · exact plain_of_mem_floodSent m hm

theorem plain_of_mem_probeSent {ip : IPAddr} {zone : String} :
    ∀ m ∈ probeSent D s ip zone, m.Plain D := by
  intro m hm
  obtain ⟨-, port, -, rfl⟩ := mem_probeSent.mp hm
  exact ⟨rfl, rfl⟩

theorem plain_of_mem_errorSent {q : QueuedPacket} {type code : ℕ} :
    ∀ m ∈ errorSent D s q type code, m.Plain D := by
  intro m hm
  obtain ⟨-, zone, -, rfl⟩ := mem_errorSent.mp hm
  exact ⟨rfl, rfl⟩

/-! ## Messages that route -/

/-- A packet forwarded toward the zone of its destination. -/
theorem routingOk_of_mem_forwardSent {e : Event} {q : QueuedPacket} {dstZone : String}
    {outPort : ℕ} {mac : EthAddr} (hq : MayForward s e q)
    (htoward : Toward D q (gatewayMac D dstZone) outPort) :
    ∀ m ∈ forwardSent D s q dstZone outPort mac, RoutingOk D s e m := by
  intro m hm
  rcases mem_forwardSent.mp hm with ⟨-, hm⟩ | ⟨-, -, rfl⟩
  · exact (plain_of_mem_errorSent m hm).routingOk e
  · refine ⟨fun frame port p hmsg => ?_, by simp [Sent.coreRule?]⟩
    obtain ⟨rfl, rfl, rfl⟩ : routedFrame D q dstZone mac = frame ∧ outPort = port ∧
        { q.ip with ttl := q.ip.ttl - 1 } = p := by
      simpa [Message.routed?, routedFrame] using hmsg
    exact ⟨rfl, q, hq, rfl, htoward⟩

/-- The rules of a connection routed toward the zone of its destination. -/
theorem routingOk_of_mem_routeFlowsSent {ev : PacketIn} {p : Ipv4} {dstZone : String}
    {loc : Location} (hbody : ev.packet.body = .ip p)
    (htoward : Toward D (ev.queued p) (gatewayMac D dstZone) loc.corePort) :
    ∀ m ∈ routeFlowsSent D s ev dstZone loc, RoutingOk D s (.packetIn ev) m := by
  intro m hm
  obtain ⟨-, rfl | ⟨hleaf, uplink, -, rfl⟩⟩ := mem_routeFlowsSent.mp hm
  · refine ⟨by simp [Message.routed?], fun mod hmod => ?_⟩
    obtain rfl : coreMod D ev dstZone loc = mod := by
      simpa [Sent.coreRule?, coreMod] using hmod
    have hin : (coreMod D ev dstZone loc).ofpMatch.inPort = corePortFor D.maps ev.dpid ev.port :=
      rfl
    refine ⟨ev.queued p, _, _, _, .inl ⟨ev, p, rfl, hbody, rfl⟩, htoward, rfl, ?_, hin, ?_⟩
    · simp [coreMod, OfpMatch.fromPacket, hbody, PacketIn.queued]
    · obtain ⟨zone, srcZone, -, hout, -, hport, hne⟩ := htoward
      obtain ⟨inPort, hinPort, hzone⟩ := D.exists_corePortFor hport
      rw [hin]
      intro heq
      obtain rfl := Option.some.inj (heq.symm.trans hinPort)
      exact hne (Option.some.inj (Option.some.inj (hzone.symm.trans hout)))
  · exact Sent.Plain.routingOk ⟨rfl, by simp [Sent.coreRule?, hleaf]⟩ _

/-- A sound location of a destination leads toward its zone. -/
theorem toward_of_locationOk {q : QueuedPacket} {zone srcZone : String} {loc : Location}
    (hloc : LocationOk D q.ip.dstip loc) (hzone : zoneForIp D.policy (.v4 q.ip.dstip) = some zone)
    (hport : zoneOfPort D.maps q.dpid q.port = some srcZone) (hne : srcZone ≠ zone) :
    Toward D q (gatewayMac D zone) loc.corePort := by
  refine ⟨zone, srcZone, hzone, ?_, rfl, hport, hne⟩
  rw [hloc.corePort, Option.some.inj (hloc.zone.symm.trans hzone)]

/-- Every message of a packet-in that routes is sound. -/
theorem routingOk_of_handled (h : RouterOk D s) {ev : PacketIn} {s' : ZoneRouter} {log : List Sent}
    (hstep : Handled D s ev s' log) : ∀ m ∈ log, RoutingOk D s (.packetIn ev) m := by
  intro m hm
  cases hstep with
  | ignored | arpReply | ipUnrouted => cases hm
  | transit =>
    split at hm
    · exact (plain_of_mem_floodSent m hm).routingOk _
    · exact (plain_of_mem_l2Sent m hm).routingOk _
  | other | arpOrdinary => exact (plain_of_mem_floodSent m hm).routingOk _
  | ipSameZone => exact (plain_of_mem_l2Sent m hm).routingOk _
  | arpRequest =>
    obtain rfl := List.mem_singleton.mp hm
    exact Sent.Plain.routingOk ⟨rfl, rfl⟩ _
  | ipBlocked =>
    obtain rfl := List.mem_singleton.mp hm
    exact Sent.Plain.routingOk ⟨rfl, by simp [Sent.coreRule?, dropMod]⟩ _
  | @arpResolve a snd entry timer corePort hsender _ _ _ hentry _ hport =>
    obtain ⟨q, hq, hm⟩ := List.mem_flatMap.mp hm
    have hok := h.entry _ _ hentry
    obtain ⟨hdst, srcZone, hzone, -, hne⟩ := hok.queue q hq
    have hloc := (h.learned hsender).location snd.ip ⟨corePort, snd.mac, snd.zone⟩ (by
      rw [get?_learned hport, if_pos rfl])
    exact routingOk_of_mem_forwardSent (.inr ⟨snd.ip, entry, hentry, hq⟩)
      (toward_of_locationOk (hdst ▸ hloc) (hdst ▸ hok.zone) hzone hne) m hm
  | @ipForwarded p snd dstZone v loc hsender hbody _ hdst hne _ hloc =>
    have htoward : Toward D (ev.queued p) (gatewayMac D dstZone) loc.corePort :=
      toward_of_locationOk ((h.learned hsender).location _ _ hloc) hdst
        (acceptedSender_eq_some hsender).2.2.2.1 (Ne.symm hne)
    rcases List.mem_append.mp hm with hm | hm
    · split at hm
      · exact routingOk_of_mem_routeFlowsSent hbody htoward m hm
      · cases hm
    · exact routingOk_of_mem_forwardSent (.inl ⟨ev, p, rfl, hbody, rfl⟩) htoward m hm
  | ipQueued =>
    exact (plain_of_mem_probeSent m (mem_queueSent.mp hm).2).routingOk _

/-- Every message of an event that routes is sound. -/
theorem routingOk_of_stepped (h : RouterOk D s) {e : Event} {s' : ZoneRouter} {log : List Sent}
    (hstep : Stepped D s e s' log) : ∀ m ∈ log, RoutingOk D s e m := by
  intro m hm
  cases hstep with
  | connectionUp | cancelled | connExpire => cases hm
  | packetIn hhandled => exact routingOk_of_handled h hhandled m hm
  | probed => exact (plain_of_mem_probeSent m hm).routingOk _
  | gaveUp =>
    obtain ⟨q, -, hm⟩ := List.mem_flatMap.mp hm
    exact (plain_of_mem_errorSent m hm).routingOk _

/-- **Routed traffic only leaves toward the destination's own zone.** After every run, the
locations and the pending entries have the zone of their address; a location's core port is in
that zone, and its address is not the gateway. The next event, whichever it is, raises nothing,
and everything it routes leaves toward the zone of its destination. -/
theorem routed_traffic_toward_destination (D : Deployment) (fwClient : Bool) (es : List Event) :
    (∀ ip loc, (stateAfter D fwClient es).ipToLoc.get? ip = some loc →
      zoneForIp D.policy (.v4 ip) = some loc.zone ∧
      D.maps.corePortZones.get? loc.corePort = some (some loc.zone) ∧
      ∀ z, D.policy.zones.get? loc.zone = some z → .v4 ip ≠ z.gateway) ∧
    (∀ ip entry, (stateAfter D fwClient es).pending.get? ip = some entry →
      zoneForIp D.policy (.v4 ip) = some entry.zone) ∧
    ∀ e, ((handle D e).run (stateAfter D fwClient es)).result = .ok () ∧
      ∀ m ∈ (step D (stateAfter D fwClient es) e).2,
        RoutingOk D (stateAfter D fwClient es) e m := by
  have hok := routerOk_stateAfter (D := D) fwClient es
  refine ⟨fun ip loc hloc => ?_, fun ip entry hentry => (hok.entry ip entry hentry).zone,
    fun e => ⟨?_, routingOk_of_stepped hok (step_stepped hok e)⟩⟩
  · have hl := hok.location ip loc hloc
    refine ⟨hl.zone, hl.corePort, fun z hz hgw => ?_⟩
    obtain ⟨-, z', hz', hne⟩ := sourceIpValidForZone_iff.mp hl.valid
    obtain rfl := Option.some.inj (hz.symm.trans hz')
    exact hne hgw
  · obtain ⟨s', log, hrun, -⟩ := handle_stepped hok e
    rw [hrun]

end ZoneSegmentation
