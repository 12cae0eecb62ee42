import ZoneSegmentation.Controller.RuleOrigin
import ZoneSegmentation.Switch.Broadcast

/-!
# Where frames come from

Hosts may forge whatever they like. A frame that comes in by a port of a host, or of the core, is
checked there; what comes down from the core is not checked again. So what has passed the checks
once must be all that ever comes down, in packets of the controller and by rules of the switches,
and in whatever order frames, packet-ins and messages arrive.

## Main definitions

* `endZone`: the zone of the end of a cable
* `Origins`: what hosts send, what the controller builds, and what the firewall lets pass
* `Origins.FromHost`: a frame that a host of a zone sent
* `Origins.Crosses`, `Origins.Genuine`: packets that may leave their zone, and frames that a host
  may receive
* `Origins.Vetted`: a frame under way is from its zone, or genuine
* `Origins.RuleVetted`, `Origins.ToldVetted`: sound rules and messages
* `Origins.SiteVetted`: what holds in every state of the network
* `ReceivedAsSent`, `ReceivedAfterHop`: how a received frame is related to the one that was sent

## Main results

* `Origins.QueueVetted.handled`: what a packet-in keeps
* `Origins.SiteVetted.moved`: what a step keeps
* `claims_are_genuine`: what a host receives was sent, or built, in the name that it has
-/

namespace ZoneSegmentation

open HostTree (End)
open OfpMatch

variable (D : Deployment) in
/-- The zone of the end of a cable: that of the host, or of the port. -/
def endZone : End ℕ ℕ String → Option String
  | .host name => hostZone D.net name
  | .switch d p => zoneOfPort D.maps d p

/-- Both ends of a cable are in the same zone. -/
theorem endZone_farEnd {D : Deployment} {d q : ℕ} {e : End ℕ ℕ String}
    (hfar : farEnd D.net d q = some e) : endZone D e = zoneOfPort D.maps d q := by
  cases e with
  | host name =>
    obtain ⟨h, hhost, hzone, -⟩ := D.zoneOfPort_seat (D.farEnd_eq_host.mp hfar)
    rw [hzone, endZone, hostZone, hhost, Option.map_some]
  | switch d' p' => exact D.zoneOfPort_farEnd hfar

/-- What hosts send, what the controller builds, and which packets the firewall lets leave their
zone. It cannot tell packets apart that have the same fields for a rule. -/
structure Origins where
  sent : String → Frame → Prop
  built : OutFrame → Prop
  passed : Ipv4 → Prop
  passed_of_sameFields : ∀ {p q : Ipv4}, SameFields p q → passed p → passed q

namespace Origins

variable (O : Origins) (D : Deployment)

/-- A frame that a host of a zone sent. -/
def FromHost (zone : String) (f : Frame) : Prop :=
  ∃ name f₀, O.sent name f₀ ∧ hostZone D.net name = some zone ∧ (f = f₀ ∨ f = f₀.resent)

/-- A packet that a host of a zone sent with an address of its own, and that may leave its zone. -/
structure Crosses (zone dstZone : String) (f : Frame) (p : Ipv4) : Prop where
  origin : O.FromHost D zone f
  body : f.body = .ip p
  valid : sourceIpValidForZone D.policy (.v4 p.srcip) zone = true
  dst : zoneForIp D.policy (.v4 p.dstip) = some dstZone
  ne : dstZone ≠ zone
  passed : O.passed p

/-- What may come down to the hosts of a place's zone. -/
inductive Genuine (place : Option String) (f : Frame) : Prop where
  /-- A frame of a host that claims an address of its zone. If it is a packet, its destination is
  there, too, but layer 2 may lead it elsewhere; if not, it is still there. -/
  | relayed {zone : String} (origin : O.FromHost D zone f)
      (valid : ∀ ip mac, f.claim = some (ip, mac) →
        sourceIpValidForZone D.policy (.v4 ip) zone = true)
      (inside : ∀ p, f.body = .ip p → zoneForIp D.policy (.v4 p.dstip) = some zone)
      (stays : (∀ p, f.body ≠ .ip p) → place = some zone)
  /-- A packet after its hop. -/
  | routed {zone dstZone : String} {f₀ : Frame} {p : Ipv4} (crosses : O.Crosses D zone dstZone f₀ p)
      (ttl : 1 < p.ttl) (hplace : place = some dstZone) (src : f.src = gatewayMac D dstZone)
      (body : f.body = .ip { p with ttl := p.ttl - 1 })
  /-- A probe of the place's gateway, or its answer. -/
  | arp {zone : String} {frame : OutFrame} {a : Arp} (hbuilt : O.built frame)
      (hframe : f = frame.sent) (hplace : place = some zone) (content : frame.content = .arp a)
      (gateway : isGateway D a.protosrc = true) (hwsrc : a.hwsrc = gatewayMac D zone)
  /-- An error of the place's gateway about a packet of a host there. -/
  | error {zone : String} {frame : OutFrame} {f₀ : Frame} {e : IcmpError} (hbuilt : O.built frame)
      (hframe : f = frame.sent) (hplace : place = some zone) (hzone : Ipv4Zone D zone)
      (origin : O.FromHost D zone f₀) (about : f₀.body = .ip e.quoted)
      (content : frame.content = .icmpError e) (src : frame.src = gatewayMac D zone)
      (gateway : e.srcip = gatewayIp D zone) (dst : e.dstip = e.quoted.srcip)

/-- A frame under way: where it will be checked it is from a host of the zone, and what comes down
is genuine. -/
structure Vetted (x : InFlight) : Prop where
  entering : ∀ d p, x.dest = .switch d p → isLeafUplink D.maps d p = false →
    ∃ zone, zoneOfPort D.maps d p = some zone ∧ O.FromHost D zone x.frame
  down : (∀ d p, x.dest = .switch d p → isLeafUplink D.maps d p = true) →
    O.Genuine D (endZone D x.dest) x.frame

/-- A packet that waits for its destination. -/
def Waits (q : QueuedPacket) : Prop :=
  ∃ zone dstZone, O.Crosses D zone dstZone q.packet q.ip ∧
    zoneOfPort D.maps q.dpid q.port = some zone ∧ isLeafUplink D.maps q.dpid q.port = false

/-- A rule of a switch drops; or it sends on what came down; or what stays in its zone, from an
address of it; or it sends to the core, where it is checked; or it is a route of the core for a
packet that may leave its zone. -/
inductive RuleVetted (dpid : ℕ) (mod : FlowMod) : Prop where
  | drop (hactions : mod.actions = [])
  | transit {packet : Frame} {port q : ℕ} (hmatch : mod.ofpMatch = fromPacket packet port)
      (hactions : mod.actions = [.output q])
      (huplink : isLeafUplink D.maps dpid port = true)
  | inside {packet : Frame} {p : Ipv4} {port q : ℕ} {zone : String}
      (hmatch : mod.ofpMatch = fromPacket packet port) (hactions : mod.actions = [.output q])
      (hbody : packet.body = .ip p) (hport : zoneOfPort D.maps dpid port = some zone)
      (huplink : isLeafUplink D.maps dpid port = false)
      (hvalid : sourceIpValidForZone D.policy (.v4 p.srcip) zone = true)
      (hdst : zoneForIp D.policy (.v4 p.dstip) = some zone)
  | up {packet : Frame} {port q : ℕ} (hmatch : mod.ofpMatch = fromPacket packet port)
      (hactions : mod.actions = [.output q])
      (huplink : isLeafUplink D.maps dpid port = false)
      (hq : D.maps.leafUplinkPort.get? dpid = some q)
  | route {packet : Frame} {p : Ipv4} {port inPort : ℕ} {zone dstZone : String} {loc : Location}
      (hdpid : dpid = D.maps.coreDpid)
      (hmatch : mod.ofpMatch = { fromPacket packet port with inPort := some inPort })
      (hactions : mod.actions =
        [.setDlSrc (gatewayMac D dstZone), .setDlDst loc.mac, .decTtl, .output loc.corePort])
      (hbody : packet.body = .ip p) (hport : zoneOfPort D.maps D.maps.coreDpid inPort = some zone)
      (hvalid : sourceIpValidForZone D.policy (.v4 p.srcip) zone = true)
      (hdst : zoneForIp D.policy (.v4 p.dstip) = some dstZone) (hne : dstZone ≠ zone)
      (hout : zoneOfPort D.maps D.maps.coreDpid loc.corePort = some dstZone) (hpassed : O.passed p)

/-- What a message makes go under way is vetted, and so is what its rule will. -/
structure ToldVetted (t : Told) : Prop where
  out : ∀ x ∈ t.out D, O.Vetted D x
  rule : ∀ mod, t.sent.message = .flowMod mod → O.RuleVetted D t.sent.dpid mod

/-- Every packet that waits may leave its zone. -/
def QueueVetted (s : ZoneRouter) : Prop :=
  ∀ ip entry, s.pending.get? ip = some entry → ∀ q ∈ entry.queue, O.Waits D q

/-- What holds in every state of the network. -/
structure SiteVetted (w : Site) : Prop where
  router : RouterOk D w.router
  queue : O.QueueVetted D w.router
  wires : ∀ x ∈ w.wires, O.Vetted D x
  asks : ∀ a ∈ w.asks, O.Vetted D ⟨.switch a.dpid a.port, a.frame⟩
  rules : ∀ r ∈ w.rules, O.RuleVetted D r.dpid r.mod
  tells : ∀ t ∈ w.tells, O.ToldVetted D t

/-- What happens next is accounted for: what a host sends, what the controller builds, and what the
firewall lets pass. -/
structure Covers (w : Site) (e : SiteEvent) : Prop where
  sent : ∀ name f, e = .sends name f → O.sent name f
  built : ∀ m ∈ w.said D e, ∀ b, m.message.built? = some b → O.built b.1
  passed : ∀ ev p snd dstZone, w.heard e = some (.packetIn ev) →
    crossing D ev = some (p, snd, dstZone) → w.router.verdict D ev p snd.zone dstZone ≠ none →
      O.passed p

variable {O D} {s s' : ZoneRouter} {zone : String} {place : Option String} {d p q : ℕ} {f : Frame}
  {ev : PacketIn}

/-! ## Frames that are sent on -/

theorem FromHost.resent (h : O.FromHost D zone f) : O.FromHost D zone f.resent := by
  obtain ⟨name, f₀, hsent, hzone, rfl | rfl⟩ := h
  · exact ⟨name, f, hsent, hzone, .inr rfl⟩
  · exact ⟨name, f₀, hsent, hzone, .inr (resent_resent f₀)⟩

theorem Genuine.resent (h : O.Genuine D place f) : O.Genuine D place f.resent := by
  cases h with
  | relayed origin valid inside stays =>
    refine .relayed origin.resent (fun ip mac hclaim => ?_)
      (fun p hp => inside p (body_of_resent hp)) fun hno => stays fun p hp => hno p (body_resent hp)
    exact valid ip mac (claim_resent f ▸ hclaim)
  | routed crosses ttl hplace src body => exact .routed crosses ttl hplace src (body_resent body)
  | arp hbuilt hframe hplace content gateway hwsrc =>
    exact .arp hbuilt (by rw [hframe, OutFrame.resent_sent]) hplace content gateway hwsrc
  | error hbuilt hframe hplace hzone origin about content src gateway dst =>
    exact .error hbuilt (by rw [hframe, OutFrame.resent_sent]) hplace hzone origin about content src
      gateway dst

/-- A port that is no uplink leads to a host, or down to a leaf. -/
theorem vetted_of_genuine (h : O.Genuine D (zoneOfPort D.maps d q) f)
    (hq : isLeafUplink D.maps d q = false) : ∀ x ∈ leaving D d [q] f, O.Vetted D x := by
  intro x hx
  obtain ⟨q', hq', hfar, hframe⟩ := mem_leaving.mp hx
  obtain rfl := List.mem_singleton.mp hq'
  refine ⟨fun d' p' hdest hup => ?_, fun _ => by rwa [endZone_farEnd hfar, hframe]⟩
  rw [hdest] at hfar
  rcases D.farEnd_eq_switch.mp hfar with ⟨-, huplink, -⟩ | ⟨-, huplink, -⟩
  · simp [isLeafUplink, huplink] at hq
  · simp [isLeafUplink, huplink] at hup

/-- **A frame that is sent on from where it was checked** is still from its zone; and it is genuine
if it comes down. -/
theorem FromHost.vetted (h : O.FromHost D zone f) (hzone : zoneOfPort D.maps d p = some zone)
    (hdown : D.maps.leafUplinkPort.get? d ≠ some q → O.Genuine D (zoneOfPort D.maps d q) f) :
    ∀ x ∈ leaving D d [q] f, O.Vetted D x := by
  intro x hx
  obtain ⟨q', hq', hfar, hframe⟩ := mem_leaving.mp hx
  obtain rfl := List.mem_singleton.mp hq'
  refine ⟨fun d' p' hdest hup => ?_, fun hdest => ?_⟩
  · rw [hdest] at hfar
    refine ⟨zone, ?_, hframe ▸ h⟩
    rw [D.zoneOfPort_farEnd hfar, ← hzone]
    rcases D.farEnd_eq_switch.mp hfar with ⟨-, huplink, -⟩ | ⟨-, huplink, -⟩
    · exact D.zoneOfPort_of_leaf (D.ne_core_of_uplink huplink)
    · simp [isLeafUplink, huplink] at hup
  · rw [hframe, endZone_farEnd hfar]
    refine hdown fun huplink => ?_
    obtain ⟨c, hc⟩ := D.exists_leafCorePort huplink
    have hcore := D.farEnd_eq_switch.mpr (.inl ⟨rfl, huplink, hc⟩)
    have hup := hdest _ _ (Option.some.inj (hfar.symm.trans hcore))
    exact D.ne_core_of_isLeafUplink hup rfl

/-- A frame with an address of its zone that stays there. -/
theorem FromHost.genuine (h : O.FromHost D zone f) (hclear : ∀ ip mac, f.claim = some (ip, mac) →
      sourceIpValidForZone D.policy (.v4 ip) zone = true)
    (hinside : ∀ p, f.body = .ip p → zoneForIp D.policy (.v4 p.dstip) = some zone)
    (hstays : (∀ p, f.body ≠ .ip p) → place = some zone) : O.Genuine D place f.resent :=
  (Genuine.relayed h hclear hinside hstays).resent

/-! ## Messages -/

theorem zoneOfPort_core (h : D.maps.corePortZones.get? q = some (some zone)) :
    zoneOfPort D.maps D.maps.coreDpid q = some zone := by
  rw [zoneOfPort, if_pos rfl, h]
  rfl

/-- What a packet-in came in as: it came down, or it is from its zone. -/
theorem Vetted.cases_port (h : O.Vetted D ⟨.switch d p, f⟩) :
    (isLeafUplink D.maps d p = true ∧ O.Genuine D (zoneOfPort D.maps d p) f) ∨
      isLeafUplink D.maps d p = false ∧
        ∃ zone, zoneOfPort D.maps d p = some zone ∧ O.FromHost D zone f := by
  cases hup : isLeafUplink D.maps d p with
  | true =>
    refine .inl ⟨rfl, h.down fun d' p' hdest => ?_⟩
    cases hdest
    exact hup
  | false => exact .inr ⟨rfl, h.entering d p rfl hup⟩

theorem toldVetted_of_built {inPort : Option ℕ} {frame : OutFrame}
    (h : O.Genuine D (zoneOfPort D.maps d q) frame.sent) (hq : isLeafUplink D.maps d q = false) :
    O.ToldVetted D ⟨inPort, ⟨d, .packetOut frame q⟩⟩ where
  out := by
    rw [out_packetOut]
    exact vetted_of_genuine h hq
  rule := by
    intro mod hmod
    cases hmod

/-- Frames that come down do not leave by the uplink again. -/
theorem not_uplink_of_ne (huplink : isLeafUplink D.maps d p = true) (hne : q ≠ p) :
    isLeafUplink D.maps d q = false := by
  unfold isLeafUplink at huplink ⊢
  rw [of_decide_eq_true huplink]
  simpa using hne.symm

/-- What comes down to a leaf goes on in its zone. -/
theorem Genuine.transit (h : O.Genuine D (zoneOfPort D.maps d p) f)
    (huplink : isLeafUplink D.maps d p = true) (hne : q ≠ p) :
    ∀ x ∈ leaving D d [q] f.resent, O.Vetted D x := by
  rw [D.zoneOfPort_of_leaf (D.ne_core_of_isLeafUplink huplink)] at h
  exact vetted_of_genuine h.resent (not_uplink_of_ne huplink hne)

/-- What a flood sends on is vetted. -/
theorem toldVetted_floodSent (h : isLeafUplink D.maps ev.dpid ev.port = true ∧
      O.Genuine D (zoneOfPort D.maps ev.dpid ev.port) ev.packet ∨
        ∃ zone, zoneOfPort D.maps ev.dpid ev.port = some zone ∧ O.FromHost D zone ev.packet ∧
          O.Genuine D (some zone) ev.packet.resent)
    {m : Sent} (hm : m ∈ floodSent D ev) : O.ToldVetted D ⟨some ev.port, m⟩ where
  out := by
    refine forall_out_floodSent (fun q hq => ?_) hm
    rcases h with ⟨huplink, hgenuine⟩ | ⟨zone, hzone, horigin, hgenuine⟩
    · exact hgenuine.transit huplink (ne_of_mem_floodTargets hq)
    · refine horigin.resent.vetted hzone fun _ => ?_
      rwa [zoneOfPort_of_mem_floodTargets hq, hzone]
  rule := by
    intro mod hmod
    obtain ⟨dpid, message⟩ := m
    obtain rfl := hmod
    exact absurd hm flowMod_notMem_floodSent

/-- A rule of layer 2 is vetted, and so is what it sends on at once. -/
theorem toldVetted_l2Sent (h : isLeafUplink D.maps ev.dpid ev.port = true ∧
      O.Genuine D (zoneOfPort D.maps ev.dpid ev.port) ev.packet ∨
        ∃ zone p, isLeafUplink D.maps ev.dpid ev.port = false ∧
          zoneOfPort D.maps ev.dpid ev.port = some zone ∧ O.FromHost D zone ev.packet ∧
          ev.packet.body = .ip p ∧ sourceIpValidForZone D.policy (.v4 p.srcip) zone = true ∧
          zoneForIp D.policy (.v4 p.dstip) = some zone)
    {m : Sent} (hm : m ∈ l2Sent D s ev) : O.ToldVetted D ⟨some ev.port, m⟩ := by
  have hflood : isLeafUplink D.maps ev.dpid ev.port = true ∧
      O.Genuine D (zoneOfPort D.maps ev.dpid ev.port) ev.packet ∨
        ∃ zone, zoneOfPort D.maps ev.dpid ev.port = some zone ∧ O.FromHost D zone ev.packet ∧
          ∀ place, O.Genuine D place ev.packet.resent := by
    rcases h with h | ⟨zone, p, -, hzone, horigin, hbody, hvalid, hdst⟩
    · exact .inl h
    · refine .inr ⟨zone, hzone, horigin, fun place => horigin.genuine (fun ip mac hclaim => ?_)
        (fun p' hp' => ?_) fun hno => absurd hbody (hno p)⟩
      · simp only [Frame.claim, hbody, Option.some.injEq, Prod.mk.injEq] at hclaim
        rw [← hclaim.1, hvalid]
      · obtain rfl := Body.ip.inj (hbody.symm.trans hp')
        exact hdst
  rcases mem_l2Sent.mp hm with ⟨q, -, rfl⟩ | ⟨-, hm⟩
  · constructor
    · rw [out_l2Mod]
      split
      · exact List.forall_mem_nil _
      · rename_i hne
        rcases hflood with ⟨huplink, hgenuine⟩ | ⟨zone, hzone, horigin, hgenuine⟩
        · exact hgenuine.transit huplink hne
        · exact horigin.resent.vetted hzone fun _ => hgenuine _
    · rintro mod hmod
      obtain rfl := Message.flowMod.inj hmod
      rcases h with ⟨huplink, -⟩ | ⟨zone, p, huplink, hzone, -, hbody, hvalid, hdst⟩
      · exact .transit rfl rfl huplink
      · exact .inside rfl rfl hbody hzone huplink hvalid hdst
  · refine toldVetted_floodSent ?_ hm
    rcases hflood with h | ⟨zone, hzone, horigin, hgenuine⟩
    · exact .inl h
    · exact .inr ⟨zone, hzone, horigin, hgenuine _⟩

section

variable {m : Sent} (hbuilt : ∀ b, m.message.built? = some b → O.built b.1)

include hbuilt

theorem toldVetted_errorSent {q : QueuedPacket} (h : O.Waits D q) {type code : ℕ}
    (hm : m ∈ errorSent D s q type code) (inPort : Option ℕ) : O.ToldVetted D ⟨inPort, m⟩ := by
  obtain ⟨zone, dstZone, hcrosses, hzone, huplink⟩ := h
  obtain ⟨-, zone', hport, rfl⟩ := mem_errorSent.mp hm
  obtain rfl := Option.some.inj (hzone.symm.trans hport)
  exact toldVetted_of_built (.error (hbuilt _ rfl) rfl hzone
    (ipv4Zone_of_sourceIpValid hcrosses.valid) hcrosses.origin hcrosses.body rfl rfl rfl rfl)
    huplink

theorem toldVetted_forwardSent {q : QueuedPacket} (h : O.Waits D q) {dstZone : String}
    (hdst : zoneForIp D.policy (.v4 q.ip.dstip) = some dstZone) {outPort : ℕ} {mac : EthAddr}
    (hout : D.maps.corePortZones.get? outPort = some (some dstZone))
    (hm : m ∈ forwardSent D s q dstZone outPort mac) (inPort : Option ℕ) :
    O.ToldVetted D ⟨inPort, m⟩ := by
  rcases mem_forwardSent.mp hm with ⟨-, hm⟩ | ⟨httl, -, rfl⟩
  · exact toldVetted_errorSent hbuilt h hm inPort
  · obtain ⟨zone, dstZone', hcrosses, -, -⟩ := h
    obtain rfl := Option.some.inj (hcrosses.dst.symm.trans hdst)
    exact toldVetted_of_built (.routed hcrosses httl (zoneOfPort_core hout) rfl rfl)
      (D.isLeafUplink_core _)

theorem toldVetted_probeSent {ip : IPAddr} {zone : String} (hzone : Ipv4Zone D zone)
    (hm : m ∈ probeSent D s ip zone) (inPort : Option ℕ) : O.ToldVetted D ⟨inPort, m⟩ := by
  obtain ⟨-, port, hport, rfl⟩ := mem_probeSent.mp hm
  exact toldVetted_of_built (.arp (hbuilt _ rfl) rfl (zoneOfPort_core (mem_zoneCorePorts.mp hport))
    rfl hzone.isGateway rfl) (D.isLeafUplink_core _)

end

theorem toldVetted_of_rule {inPort : Option ℕ} {mod : FlowMod} (hdata : mod.data = none)
    (h : O.RuleVetted D d mod) : O.ToldVetted D ⟨inPort, ⟨d, .flowMod mod⟩⟩ where
  out := by
    rw [out_flowMod_of_none hdata]
    exact List.forall_mem_nil _
  rule := by
    intro mod' hmod
    obtain rfl := Message.flowMod.inj hmod
    exact h

/-- The rules of a packet that may leave its zone: it is checked again at the core, or routed. -/
theorem toldVetted_routeFlowsSent {p : Ipv4} {dstZone : String} {loc : Location} {snd : Sender}
    {m : Sent}
    (hcross : crossing D ev = some (p, snd, dstZone)) (hpassed : O.passed p)
    (hout : D.maps.corePortZones.get? loc.corePort = some (some dstZone))
    (hm : m ∈ routeFlowsSent D s ev dstZone loc) (inPort : Option ℕ) :
    O.ToldVetted D ⟨inPort, m⟩ := by
  obtain ⟨hsender, hbody, -, hdst, hne⟩ := crossing_eq_some hcross
  obtain ⟨-, huplink, hclaim, hzone, hvalid⟩ := acceptedSender_eq_some hsender
  simp only [Frame.claim, hbody, Option.some.injEq, Prod.mk.injEq] at hclaim
  obtain ⟨-, rfl | ⟨-, uplink, hup, rfl⟩⟩ := mem_routeFlowsSent.mp hm
  · obtain ⟨inPort', hport, hinZone⟩ := D.exists_corePortFor hzone
    have hmatch : (coreMod D ev dstZone loc).ofpMatch =
        { fromPacket ev.packet ev.port with inPort := some inPort' } := by
      rw [← hport]
      rfl
    exact toldVetted_of_rule rfl (.route rfl hmatch rfl hbody (zoneOfPort_core hinZone)
      (hclaim.1 ▸ hvalid) hdst hne (zoneOfPort_core hout) hpassed)
  · exact toldVetted_of_rule rfl (.up rfl rfl huplink hup)

/-! ## Packet-ins -/

theorem QueueVetted.of_pending (h : O.QueueVetted D s) (hpending : s'.pending = s.pending) :
    O.QueueVetted D s' := by
  intro ip entry hentry
  exact h ip entry (hpending ▸ hentry)

theorem QueueVetted.removed (h : O.QueueVetted D s) (ip : IPAddr) (timer : ℕ) :
    O.QueueVetted D (s.removed ip timer) := fun ip' entry hentry =>
  h ip' entry (Dict.get?_erase_eq_some.mp hentry).2

theorem QueueVetted.enqueued (h : O.QueueVetted D s) {q : QueuedPacket} (hq : O.Waits D q)
    (zone : String) : O.QueueVetted D (s.enqueued q zone) := by
  intro ip entry hentry q' hq'
  rcases mem_queue_enqueued hentry hq' with rfl | ⟨old, hold, hq'⟩
  · exact hq
  · exact h ip old hold q' hq'

/-- An accepted sender's frame is from the zone of its port, with an address of it. -/
theorem Vetted.accepted (hev : O.Vetted D ⟨.switch ev.dpid ev.port, ev.packet⟩) {snd : Sender}
    (hsender : acceptedSender D ev = some snd) :
    zoneOfPort D.maps ev.dpid ev.port = some snd.zone ∧
      isLeafUplink D.maps ev.dpid ev.port = false ∧ O.FromHost D snd.zone ev.packet ∧
      ∀ ip mac, ev.packet.claim = some (ip, mac) →
        sourceIpValidForZone D.policy (.v4 ip) snd.zone = true := by
  obtain ⟨-, huplink, hclaim, hzone, hvalid⟩ := acceptedSender_eq_some hsender
  obtain ⟨zone, hport, horigin⟩ := hev.entering _ _ rfl huplink
  obtain rfl := Option.some.inj (hzone.symm.trans hport)
  refine ⟨hzone, huplink, horigin, fun ip mac hclaim' => ?_⟩
  obtain ⟨rfl, rfl⟩ := Prod.mk.inj (Option.some.inj (hclaim.symm.trans hclaim'))
  exact hvalid

/-- A packet that crosses zones and passes may wait. -/
theorem Vetted.waits (hev : O.Vetted D ⟨.switch ev.dpid ev.port, ev.packet⟩) {p : Ipv4}
    {snd : Sender} {dstZone : String} (hcross : crossing D ev = some (p, snd, dstZone))
    (hpassed : O.passed p) : O.Waits D (ev.queued p) := by
  obtain ⟨hsender, hbody, -, hdst, hne⟩ := crossing_eq_some hcross
  obtain ⟨hzone, huplink, horigin, hvalid⟩ := hev.accepted hsender
  refine ⟨snd.zone, dstZone, ⟨horigin, hbody, ?_, hdst, hne, hpassed⟩, hzone, huplink⟩
  exact hvalid _ ev.packet.src (by simp [Frame.claim, hbody, PacketIn.queued])

/-- **What a packet-in keeps**: what waits may leave its zone, and what the controller sends is
vetted. -/
theorem QueueVetted.handled (h : O.QueueVetted D s) (hrouter : RouterOk D s)
    (hev : O.Vetted D ⟨.switch ev.dpid ev.port, ev.packet⟩)
    (hpassed : ∀ p snd dstZone, crossing D ev = some (p, snd, dstZone) →
      s.verdict D ev p snd.zone dstZone ≠ none → O.passed p)
    {log : List Sent} (hbuilt : ∀ m ∈ log, ∀ b, m.message.built? = some b → O.built b.1)
    (hstep : Handled D s ev s' log) :
    O.QueueVetted D s' ∧ ∀ m ∈ log, O.ToldVetted D ⟨some ev.port, m⟩ := by
  cases hstep with
  | ignored => exact ⟨h, List.forall_mem_nil _⟩
  | transit huplink =>
    rcases hev.cases_port with ⟨-, hgenuine⟩ | ⟨hup, -⟩
    · refine ⟨h.of_pending rfl, fun m hm => ?_⟩
      split at hm
      · exact toldVetted_floodSent (.inl ⟨huplink, hgenuine⟩) hm
      · exact toldVetted_l2Sent (.inl ⟨huplink, hgenuine⟩) hm
    · rw [huplink] at hup
      cases hup
  | other huplink hclaim =>
    obtain ⟨zone, hzone, horigin⟩ := hev.entering _ _ rfl huplink
    refine ⟨h, fun m hm => toldVetted_floodSent (.inr ⟨zone, hzone, horigin, ?_⟩) hm⟩
    refine horigin.genuine (fun ip mac hsome => ?_) (fun p hbody => ?_) fun _ => rfl
    · rw [hclaim] at hsome
      cases hsome
    · have hsome : ev.packet.claim = some (p.srcip, ev.packet.src) := by
        rw [Frame.claim, hbody]
      rw [hclaim] at hsome
      cases hsome
  | arpRequest hsender hbody _ hgw =>
    obtain ⟨hzone, huplink, -, -⟩ := hev.accepted hsender
    refine ⟨h.of_pending rfl, fun m hm => ?_⟩
    have hm' := hbuilt m hm
    obtain rfl := List.mem_singleton.mp hm
    exact toldVetted_of_built (.arp (hm' _ rfl) rfl hzone rfl hgw rfl) huplink
  | arpReply | ipUnrouted => exact ⟨h.of_pending rfl, List.forall_mem_nil _⟩
  | @arpResolve a snd entry timer corePort hsender _ _ _ hentry _ hport =>
    obtain ⟨corePort', hport', hout⟩ := corePort_of_acceptedSender hsender
    obtain rfl := Option.some.inj (hport.symm.trans hport')
    have hlearned : O.QueueVetted D (s.learned D ev.dpid ev.port snd) := h.of_pending rfl
    refine ⟨hlearned.removed _ _, fun m hm => ?_⟩
    obtain ⟨q, hq, hq'⟩ := List.mem_flatMap.mp hm
    have hok := hrouter.entry _ _ hentry
    have hzone : snd.zone = entry.zone := Option.some.inj
      ((sourceIpValidForZone_iff.mp (acceptedSender_eq_some hsender).2.2.2.2).1.symm.trans hok.zone)
    refine toldVetted_forwardSent (hbuilt m hm) (h _ _ hentry q hq) ?_ (hzone ▸ hout) hq' _
    rw [(hok.queue q hq).dstip, hok.zone]
  | arpOrdinary hsender hbody =>
    obtain ⟨hzone, -, horigin, hvalid⟩ := hev.accepted hsender
    refine ⟨h.of_pending rfl, fun m hm => ?_⟩
    refine toldVetted_floodSent (.inr ⟨_, hzone, horigin, horigin.genuine hvalid (fun p hp => ?_)
      fun _ => rfl⟩) hm
    cases hbody.symm.trans hp
  | ipSameZone hsender hbody _ hdst =>
    obtain ⟨hzone, huplink, horigin, hvalid⟩ := hev.accepted hsender
    refine ⟨h.of_pending rfl, fun m hm => ?_⟩
    refine toldVetted_l2Sent (.inr ⟨_, _, huplink, hzone, horigin, hbody, ?_, hdst⟩) hm
    exact hvalid _ ev.packet.src (by simp [Frame.claim, hbody])
  | ipBlocked =>
    refine ⟨h.of_pending rfl, fun m hm => ?_⟩
    obtain rfl := List.mem_singleton.mp hm
    exact toldVetted_of_rule rfl (.drop rfl)
  | @ipForwarded p snd dstZone v loc hsender hbody hgw hdst hne hverdict hloc =>
    have hcross := crossing_of_ne hsender hbody hgw hdst hne
    have hpass := hpassed p snd dstZone hcross (by simp [hverdict])
    have hlocation := (hrouter.learned hsender).location _ _ hloc
    obtain rfl := Option.some.inj (hdst.symm.trans hlocation.zone)
    refine ⟨h.of_pending rfl, fun m hm => ?_⟩
    rcases List.mem_append.mp hm with hm' | hm'
    · split at hm'
      · exact toldVetted_routeFlowsSent hcross hpass hlocation.corePort hm' _
      · cases hm'
    · exact toldVetted_forwardSent (hbuilt m hm) (hev.waits hcross hpass) hdst hlocation.corePort
        hm' _
  | @ipQueued p snd dstZone v hsender hbody hgw hdst hne hverdict =>
    have hcross := crossing_of_ne hsender hbody hgw hdst hne
    have hpass := hpassed p snd dstZone hcross (by simp [hverdict])
    have hchecked : O.QueueVetted D ((s.learned D ev.dpid ev.port snd).checked D ev p snd.zone
      dstZone) := h.of_pending rfl
    refine ⟨hchecked.enqueued (hev.waits hcross hpass) _, fun m hm => ?_⟩
    exact toldVetted_probeSent (hbuilt m hm) (ipv4Zone_of_zoneForIp hdst) (mem_queueSent.mp hm).2 _

/-- Of the other events only a timer sends anything: probes, or errors about what waits. -/
theorem QueueVetted.stepped (h : O.QueueVetted D s) (hrouter : RouterOk D s) {c : Event}
    {log : List Sent} (hbuilt : ∀ m ∈ log, ∀ b, m.message.built? = some b → O.built b.1)
    (hstep : Stepped D s c s' log) (hc : ∀ ev, c ≠ .packetIn ev) (inPort : Option ℕ) :
    O.QueueVetted D s' ∧ ∀ m ∈ log, O.ToldVetted D ⟨inPort, m⟩ := by
  cases hstep with
  | packetIn => exact absurd rfl (hc _)
  | connectionUp | connExpire => exact ⟨h.of_pending rfl, List.forall_mem_nil _⟩
  | cancelled => exact ⟨h, List.forall_mem_nil _⟩
  | @probed timer ip entry _ hentry =>
    refine ⟨fun ip' entry' he q hq => ?_, fun m hm => ?_⟩
    · rcases Dict.get?_set_eq_some.mp he with ⟨rfl, rfl⟩ | ⟨-, he⟩
      · exact h ip' entry hentry q hq
      · exact h ip' entry' he q hq
    · exact toldVetted_probeSent (hbuilt m hm) (hrouter.entry _ _ hentry).ipv4Zone hm _
  | gaveUp _ hentry =>
    refine ⟨h.removed _ _, fun m hm => ?_⟩
    obtain ⟨q, hq, hm'⟩ := List.mem_flatMap.mp hm
    exact toldVetted_errorSent (hbuilt m hm) (h _ _ hentry q hq) hm' _

/-! ## Rules -/

/-- **What a vetted rule sends out is vetted.** -/
theorem RuleVetted.out {r : Rule} (h : O.RuleVetted D r.dpid r.mod) {now : ℚ}
    (htakes : r.Takes now d p f) (hx : O.Vetted D ⟨.switch d p, f⟩) :
    ∀ x ∈ r.out D d p f, O.Vetted D x := by
  obtain ⟨hdpid, -, hmatches⟩ := htakes
  obtain rfl := hdpid
  cases h with
  | drop hactions =>
    simp only [Rule.out, hactions, applied, List.filter_nil, List.filterMap_nil]
    exact List.forall_mem_nil _
  | @transit packet port q hmatch hactions huplink =>
    rw [hmatch] at hmatches
    obtain rfl := eq_port_of_matches_fromPacket hmatches
    rw [out_output hactions]
    split
    · exact List.forall_mem_nil _
    · rename_i hne
      rcases hx.cases_port with ⟨-, hgenuine⟩ | ⟨hup, -⟩
      · exact hgenuine.transit huplink hne
      · rw [huplink] at hup
        cases hup
  | @inside packet p₀ port q zone hmatch hactions hbody hport huplink hvalid hdst =>
    rw [hmatch] at hmatches
    obtain rfl := eq_port_of_matches_fromPacket hmatches
    obtain ⟨zone', hzone', horigin⟩ := hx.entering _ _ rfl huplink
    obtain rfl := Option.some.inj (hport.symm.trans hzone')
    obtain ⟨-, -, -, p', hp', hsame⟩ := (matches_fromPacket_ip hbody).mp hmatches
    rw [out_output hactions]
    split
    · exact List.forall_mem_nil _
    · refine horigin.resent.vetted hport fun _ => horigin.genuine (fun ip mac hclaim => ?_)
        (fun p hp => ?_) fun hno => absurd hp' (hno p')
      · simp only [Frame.claim, hp', Option.some.injEq, Prod.mk.injEq] at hclaim
        rw [← hclaim.1, hsame.srcip, hvalid]
      · obtain rfl := Body.ip.inj (hp'.symm.trans hp)
        rw [hsame.dstip, hdst]
  | @up packet port q hmatch hactions huplink hq =>
    rw [hmatch] at hmatches
    obtain rfl := eq_port_of_matches_fromPacket hmatches
    obtain ⟨zone, hzone, horigin⟩ := hx.entering _ _ rfl huplink
    rw [out_output hactions]
    split
    · exact List.forall_mem_nil _
    · exact horigin.resent.vetted hzone fun hnot => absurd hq hnot
  | @route packet p₀ port inPort zone dstZone loc hcore hmatch hactions hbody hport hvalid hdst hne
      hout hpassed =>
    rw [hmatch] at hmatches
    obtain ⟨hin, -, -, p', hp', hsame⟩ := (matches_fromPacket_ip hbody).mp hmatches
    obtain rfl := Option.some.inj (agrees_some.mp hin)
    rw [← hcore] at hport
    have huplink : isLeafUplink D.maps r.dpid p = false := by
      rw [hcore]
      exact D.isLeafUplink_core p
    obtain ⟨zone', hzone', horigin⟩ := hx.entering _ _ rfl huplink
    obtain rfl := Option.some.inj (hport.symm.trans hzone')
    intro x hx
    obtain ⟨dep, hdep, hcarry⟩ := List.mem_filterMap.mp hx
    have hdep := (List.mem_filter.mp hdep).1
    simp only [hactions, applied, hp'] at hdep
    split at hdep
    · cases hdep
    · rename_i httl
      obtain rfl := List.mem_singleton.mp hdep
      obtain ⟨dest, hfar, rfl⟩ := Option.map_eq_some_iff.mp hcarry
      rw [hcore] at hfar
      have hcrosses : O.Crosses D zone dstZone f p' := ⟨horigin, hp', hsame.srcip ▸ hvalid,
        hsame.dstip ▸ hdst, hne, O.passed_of_sameFields hsame hpassed⟩
      refine vetted_of_genuine ?_ (D.isLeafUplink_core loc.corePort) _ (mem_leaving.mpr
        ⟨loc.corePort, List.mem_singleton_self _, hfar, rfl⟩)
      exact .routed hcrosses (Nat.not_le.mp httl) hout rfl rfl

/-! ## The network -/

variable {w w' : Site} {e : SiteEvent} {out : List Report}

/-- What a host sends is vetted. -/
theorem vetted_of_seat {name : String} (hsent : O.sent name f)
    (hseat : seat D.net name = some (d, p)) : O.Vetted D ⟨.switch d p, f⟩ := by
  obtain ⟨host, hhost, hzone, huplink⟩ := D.zoneOfPort_seat hseat
  refine ⟨fun d' p' hdest _ => ?_, fun hdown => ?_⟩
  · cases hdest
    exact ⟨host.zone, hzone, name, f, hsent, by simp [hostZone, hhost], .inl rfl⟩
  · rw [hdown _ _ rfl] at huplink
    cases huplink

theorem siteVetted_init (fwClient : Bool) : O.SiteVetted D (.init fwClient) where
  router := routerOk_init fwClient
  queue := nofun
  wires := List.forall_mem_nil _
  asks := List.forall_mem_nil _
  rules := List.forall_mem_nil _
  tells := List.forall_mem_nil _

namespace SiteVetted

/-- What the controller does at an event is vetted. -/
theorem heard (h : O.SiteVetted D w) (hcovers : O.Covers D w e) {c : Event}
    (hc : w.heard e = some c) : O.QueueVetted D (step D w.router c).1 ∧
      ∀ inPort, (∀ ev, c = .packetIn ev → inPort = some ev.port) →
        ∀ m ∈ (step D w.router c).2, O.ToldVetted D ⟨inPort, m⟩ := by
  have hbuilt : ∀ m ∈ (step D w.router c).2, ∀ b, m.message.built? = some b → O.built b.1 :=
    fun m hm => hcovers.built m (w.mem_said.mpr ⟨c, hc, hm⟩)
  have hother : (∀ ev, c ≠ .packetIn ev) → ∀ inPort, O.QueueVetted D (step D w.router c).1 ∧
      ∀ m ∈ (step D w.router c).2, O.ToldVetted D ⟨inPort, m⟩ :=
    h.queue.stepped h.router hbuilt (step_stepped h.router c)
  cases c with
  | packetIn ev =>
    obtain ⟨hqueue, htold⟩ := h.queue.handled h.router (h.asks _ (Site.mem_asks_of_heard hc))
      (fun p snd dstZone => hcovers.passed ev p snd dstZone hc) hbuilt (step_handled h.router ev)
    refine ⟨hqueue, fun inPort hin => ?_⟩
    rwa [hin ev rfl]
  | connectionUp | retryTick | connExpire =>
    exact ⟨(hother nofun none).1, fun inPort _ => (hother nofun inPort).2⟩

/-- **Every step of the network keeps what is under way vetted.** -/
theorem moved (h : O.SiteVetted D w) (hcovers : O.Covers D w e) (hmoved : Moved D w e w' out) :
    O.SiteVetted D w' where
  router := hmoved.forall_router h.router fun c _ => h.router.step c
  queue := hmoved.forall_router h.queue fun _ hc => (h.heard hcovers hc).1
  wires := hmoved.forall_wires h.wires
    (fun name frame _ _ hsends hseat => vetted_of_seat (hcovers.sent name frame hsends) hseat)
    (fun r hr _ _ _ _ htakes hvetted => (h.rules r hr).out htakes hvetted) fun t ht =>
      (h.tells t ht).out
  asks := hmoved.forall_asks h.wires h.asks
  rules := hmoved.forall_rules h.rules fun t ht => (h.tells t ht).rule
  tells := hmoved.forall_tells h.tells fun _ inPort hc => (h.heard hcovers hc).2 inPort

end SiteVetted

variable (D) in
/-- What hosts send in a run, what the controller builds, and what the firewall lets pass in it. -/
def ofRun (fwClient : Bool) (es : List SiteEvent) : Origins where
  sent name f := .sends name f ∈ es
  built frame := ∃ m ∈ messages D fwClient es, m.message.built?.map Prod.fst = some frame
  passed p := ∃ past ev rest p₀ snd dstZone, heardIn D fwClient es = past ++ .packetIn ev :: rest ∧
    crossing D ev = some (p₀, snd, dstZone) ∧
    (stateAfter D fwClient past).verdict D ev p₀ snd.zone dstZone ≠ none ∧ SameFields p₀ p
  passed_of_sameFields := by
    rintro p q hpq ⟨past, ev, rest, p₀, snd, dstZone, hheard, hcross, hverdict, hsame⟩
    exact ⟨past, ev, rest, p₀, snd, dstZone, hheard, hcross, hverdict, hsame.trans hpq⟩

/-- **What a run's hosts send, its controller builds and its firewall lets pass accounts for all
that is under way.** -/
theorem siteVetted_siteAfter (fwClient : Bool) (es : List SiteEvent) :
    (ofRun D fwClient es).SiteVetted D (siteAfter D fwClient es) := by
  have hcovers : Run.Always (Site.step D) ((ofRun D fwClient es).Covers D) (.init fwClient) es := by
    refine Run.always_iff.mpr fun past e rest heq => ⟨fun name f he => ?_, fun m hm b hb => ?_, ?_⟩
    · show SiteEvent.sends name f ∈ es
      rw [heq, he]
      exact List.mem_append_right _ List.mem_cons_self
    · exact ⟨m, Run.mem_observed_iff.mpr ⟨past, e, rest, heq, hm⟩, by rw [hb, Option.map_some]⟩
    · intro ev p snd dstZone hheard hcross hverdict
      refine ⟨heardIn D fwClient past, ev, Run.observed (Site.step D) (fun w e =>
        (w.heard e).toList) (Site.step D (siteAfter D fwClient past) e).1 rest, p, snd, dstZone,
        ?_, hcross, ?_, .refl p⟩
      · rw [heardIn, heq, Run.observed_append, Run.observed]
        have hlist : ((Run.final (Site.step D) (.init fwClient) past).heard e).toList =
            [.packetIn ev] := by rw [hheard]; rfl
        rw [hlist]
        rfl
      · rw [← router_siteAfter]
        exact hverdict
  exact hcovers.invariant (siteVetted_init fwClient) fun w e h hc => h.moved hc (w.step_moved e)

end Origins

/-- What a host receives is genuine, on account of what was sent and let pass before. -/
theorem genuine_of_received {D : Deployment} {fwClient : Bool} {es : List SiteEvent} {e : SiteEvent}
    {name : String} {f : Frame}
    (h : .received name f ∈ ((siteAfter D fwClient es).step D e).2) :
    (Origins.ofRun D fwClient es).Genuine D (hostZone D.net name) f :=
  ((Origins.siteVetted_siteAfter fwClient es).wires _ (mem_wires_of_received h)).down nofun

/-- What a frame of a host claims, the host has claimed. -/
theorem Origins.FromHost.exists_claim {O : Origins} {D : Deployment} {zone : String} {f : Frame}
    (h : O.FromHost D zone f) : ∃ name f₀, O.sent name f₀ ∧ hostZone D.net name = some zone ∧
      f₀.claim = f.claim ∧ ∀ p, f.body = .ip p → f₀.body = .ip p := by
  obtain ⟨name, f₀, hsent, hzone, rfl | rfl⟩ := h
  · exact ⟨name, f, hsent, hzone, rfl, fun p hp => hp⟩
  · exact ⟨name, f₀, hsent, hzone, (claim_resent f₀).symm, fun p hp => body_of_resent hp⟩

/-- A frame of a host with a claim is what the host sent, but for whether POX has parsed it. -/
theorem Origins.FromHost.exists_same {O : Origins} {D : Deployment} {zone : String} {f : Frame}
    (h : O.FromHost D zone f) (hclaim : f.claim ≠ none) : ∃ name f₀, O.sent name f₀ ∧
      hostZone D.net name = some zone ∧ f₀.src = f.src ∧ f₀.dst = f.dst ∧ f₀.body = f.body := by
  obtain ⟨name, f₀, hsent, hzone, rfl | rfl⟩ := h
  · exact ⟨name, f, hsent, hzone, rfl, rfl, rfl⟩
  · refine ⟨name, f₀, hsent, hzone, rfl, rfl, ?_⟩
    obtain ⟨parsed, src, dst, body⟩ := f₀
    rw [claim_resent] at hclaim
    cases body with
    | arp | ip => rfl
    | lldp | other => exact absurd rfl hclaim

section

variable (D : Deployment) (zone : String)

/-- A host receives a frame as a host of a zone sent it: an ARP packet that has not left the zone,
or a packet for an address of the zone. -/
structure ReceivedAsSent (name : String) (f₀ f : Frame) : Prop where
  src : f₀.src = f.src
  dst : f₀.dst = f.dst
  body : f₀.body = f.body
  arp : ∀ a, f.body = .arp a → hostZone D.net name = some zone
  ip : ∀ p, f.body = .ip p → zoneForIp D.policy (.v4 p.dstip) = some zone

/-- A host receives a packet that a host of a zone sent to an address of another, after its hop: it
comes to the other zone, from the gateway there. -/
structure ReceivedAfterHop (dstZone name : String) (p : Ipv4) (f₀ f : Frame) : Prop where
  sent : f₀.body = .ip p
  ttl : 1 < p.ttl
  body : f.body = .ip { p with ttl := p.ttl - 1 }
  src : f.src = gatewayMac D dstZone
  dst : zoneForIp D.policy (.v4 p.dstip) = some dstZone
  ne : dstZone ≠ zone
  place : hostZone D.net name = some dstZone

end

/-- **Nobody receives a forged address of another zone, or of a gateway.** After every run of the
network, whatever its hosts have forged: if a host receives an ARP or IP packet with a sender's
address, then the controller built the very frame, as the gateway of the host's zone; or a host of
the zone that the address belongs to has sent it before, and it is received as it was sent, or after
its hop. -/
theorem claims_are_genuine (D : Deployment) (fwClient : Bool) (es : List SiteEvent) (e : SiteEvent)
    {name : String} {f : Frame} {ip : IPAddr} {mac : EthAddr}
    (hreceived : .received name f ∈ ((siteAfter D fwClient es).step D e).2)
    (hclaim : f.claim = some (ip, mac)) :
    (isGateway D ip = true ∧
      (∃ zone, hostZone D.net name = some zone ∧ mac = gatewayMac D zone) ∧
      ∃ m ∈ messages D fwClient es, ∃ frame, m.message.built?.map Prod.fst = some frame ∧
        f = frame.sent) ∨
    ∃ sender f₀ zone, .sends sender f₀ ∈ es ∧ hostZone D.net sender = some zone ∧
      sourceIpValidForZone D.policy (.v4 ip) zone = true ∧
      (ReceivedAsSent D zone name f₀ f ∨
        ∃ dstZone p, ReceivedAfterHop D zone dstZone name p f₀ f) := by
  cases genuine_of_received hreceived with
  | relayed origin valid inside stays =>
    obtain ⟨sender, f₀, hsent, hzone, hsrc, hdst, hbody⟩ := origin.exists_same (by simp [hclaim])
    have hstays : ∀ a, f.body = .arp a → hostZone D.net name = some _ := fun a ha =>
      stays fun p hp => Body.noConfusion (ha.symm.trans hp)
    exact .inr ⟨sender, f₀, _, hsent, hzone, valid ip mac hclaim,
      .inl ⟨hsrc, hdst, hbody, hstays, inside⟩⟩
  | @routed zone dstZone g p crosses ttl hplace src body =>
    simp only [Frame.claim, body, Option.some.injEq, Prod.mk.injEq] at hclaim
    obtain ⟨sender, f₀, hsent, hzone, -, hsame⟩ := crosses.origin.exists_claim
    exact .inr ⟨sender, f₀, _, hsent, hzone, hclaim.1 ▸ crosses.valid, .inr ⟨dstZone, p,
      hsame p crosses.body, ttl, body, src, crosses.dst, crosses.ne, hplace⟩⟩
  | @arp zone frame a hbuilt hframe hplace content gateway hwsrc =>
    obtain ⟨m, hm, hb⟩ := hbuilt
    have hsame : f.claim = some (a.protosrc, a.hwsrc) := by
      rw [hframe, Frame.claim, OutFrame.sent, content]
      rfl
    obtain ⟨rfl, rfl⟩ := Prod.mk.inj (Option.some.inj (hsame.symm.trans hclaim))
    exact .inl ⟨gateway, ⟨zone, hplace, hwsrc⟩, m, hm, frame, hb, hframe⟩
  | @error zone frame f₀ err hbuilt hframe hplace hzone _ _ content src gateway =>
    obtain ⟨m, hm, hb⟩ := hbuilt
    have hsame : f.claim = some (err.srcip, frame.src) := by
      rw [hframe, Frame.claim, OutFrame.sent, content]
      rfl
    obtain ⟨rfl, rfl⟩ := Prod.mk.inj (Option.some.inj (hsame.symm.trans hclaim))
    exact .inl ⟨gateway ▸ hzone.isGateway, ⟨zone, hplace, src⟩, m, hm, frame, hb, hframe⟩

/-- One host forges the server's address, and another asks for a neighbour's. -/
def forgedAndAsked : List SiteEvent :=
  [.connects 1, .connects 3,
    .sends "h201" ⟨true, h201.mac, etherBroadcast,
      .arp ⟨arpReply, h201.mac, 0, hServer.ip, h103.ip⟩⟩,
    .sends "h101" neighbourRequest,
    .arrives 1 0, .asked 0 none 0, .told 0 0, .arrives 0 0, .asked 0 none 0]

/-- Only the second one gets through, as it was sent. -/
theorem claims_are_genuine_h102 :
    ∃ sender f₀ zone, .sends sender f₀ ∈ forgedAndAsked ∧
      hostZone deployment.net sender = some zone ∧
      sourceIpValidForZone deployment.policy (.v4 h101.ip) zone = true ∧
      (ReceivedAsSent deployment zone "h102" f₀ neighbourRequest ∨
        ∃ dstZone p, ReceivedAfterHop deployment zone dstZone "h102" p f₀ neighbourRequest) := by
  have hreceived : .received "h102" neighbourRequest ∈
      ((siteAfter deployment false forgedAndAsked).step deployment (.arrives 0 0)).2 := by
    decide +kernel
  have hhost : ¬ isGateway deployment h101.ip = true := by decide +kernel
  exact (claims_are_genuine deployment false forgedAndAsked (.arrives 0 0) hreceived
    rfl).resolve_left fun h => hhost h.1

end ZoneSegmentation
