import ZoneSegmentation.Config.Partition
import ZoneSegmentation.Switch.Site

/-!
# Copies of a frame under way

A multicast frame without IP is never taken by a rule, so that each switch it comes to asks the
controller. It can then be followed through the network: a copy of it is on a cable, in a packet-in
or in a message. Where the controller sends on one copy for one that it was asked about, the copies
are accounted for in every run.

## Main definitions

* `Frame.Spared`, `FlowMod.Spares`: frames that no rule takes, and rules that take no such frame
* `OutFrame.Own`: the frames that the controller builds
* `copies`: the copies of a frame under way, at the ends that count
* `Site.entering`: what comes into the network
* `Spreads`: where a copy counts, one copy goes on that counts
* `SiteOk`: what holds in every state of the network

## Main results

* `Handled.log_cases`: what a packet-in sends
* `Spreads.copies_moved`, `Spreads.copies_final`: every step, and every run, accounts for the copies
-/

namespace ZoneSegmentation

open HostTree (End)
open OfpMatch

/-! ## Frames that no rule takes -/

/-- A multicast frame without IP. -/
def Frame.Spared (f : Frame) : Prop := isMulticast f.dst = true ∧ f.body.type ≠ 0x0800

/-- A rule that takes no such frame, and makes none of a frame that it takes: it is for IP, or for
one unicast address and leaves frames as they are. -/
def FlowMod.Spares (mod : FlowMod) : Prop :=
  mod.ofpMatch.dlType = some 0x0800 ∨
    (∃ dst, mod.ofpMatch.dlDst = some dst ∧ isMulticast dst = false) ∧
      ∀ a ∈ mod.actions, ∃ port, a = .output port

theorem dlType_fromPacket (f : Frame) (port : ℕ) :
    (fromPacket f port).dlType = some f.body.type := by
  unfold fromPacket
  cases f.body with
  | arp a => by_cases ha : a.opcode ≤ 255 <;> simp [ha]
  | _ => rfl

theorem dlDst_fromPacket (f : Frame) (port : ℕ) : (fromPacket f port).dlDst = some f.dst := by
  unfold fromPacket
  cases f.body with
  | arp a => by_cases ha : a.opcode ≤ 255 <;> simp [ha]
  | _ => rfl

/-- The body of a frame that is sent on has its type. -/
theorem type_parseContent (b : Body) : (parseContent b.content).type = b.type := by
  cases b with
  | other t =>
    by_cases ht : t = Body.lldp.type
    · simp [Body.content, parseContent, ht, Body.type]
    · simp only [Body.content, parseContent, if_neg ht]
  | _ => rfl

/-- The actions of a rule keep the type of a frame. -/
theorem type_of_mem_applied {dpid : ℕ} {actions : List Action} {f : Frame} {d : Departure}
    (hd : d ∈ applied dpid actions f) : d.frame.body.type = f.body.type := by
  induction actions generalizing f with
  | nil => cases hd
  | cons a rest ih =>
    cases a with
    | setDlSrc mac => exact ih (f := { f with src := mac }) hd
    | setDlDst mac => exact ih (f := { f with dst := mac }) hd
    | output port =>
      rcases List.mem_cons.mp hd with rfl | hd
      · exact type_parseContent f.body
      · exact ih hd
    | decTtl =>
      simp only [applied] at hd
      split at hd
      · rename_i p hbody
        split at hd
        · cases hd
        · rw [ih hd, hbody]
          rfl
      · exact ih hd

/-- A rule that only sends frames on keeps their destination. -/
theorem dst_of_mem_applied {dpid : ℕ} {actions : List Action} {f : Frame} {d : Departure}
    (houtput : ∀ a ∈ actions, ∃ port, a = .output port) (hd : d ∈ applied dpid actions f) :
    d.frame.dst = f.dst := by
  induction actions with
  | nil => cases hd
  | cons a rest ih =>
    obtain ⟨port, rfl⟩ := houtput a List.mem_cons_self
    rcases List.mem_cons.mp hd with rfl | hd
    · rfl
    · exact ih (fun a ha => houtput a (List.mem_cons_of_mem _ ha)) hd

namespace FlowMod.Spares

variable {mod : FlowMod} {f f' : Frame} {port : ℕ}

theorem not_matches (h : mod.Spares) (hf : f.Spared) : ¬ mod.ofpMatch.Matches port f := by
  rintro ⟨-, -, hdst, htype, -⟩
  rw [dlDst_fromPacket] at hdst
  rw [dlType_fromPacket] at htype
  rcases h with hip | ⟨⟨dst, hunicast, hdst'⟩, -⟩
  · rw [hip, agrees_some, Option.some.injEq] at htype
    exact hf.2 htype
  · rw [hunicast, agrees_some, Option.some.injEq] at hdst
    rw [← hdst, hf.1] at hdst'
    cases hdst'

theorem frame_ne (h : mod.Spares) (hf : f.Spared) (hmatch : mod.ofpMatch.Matches port f')
    {dpid : ℕ} {d : Departure} (hd : d ∈ applied dpid mod.actions f') : d.frame ≠ f := by
  rintro rfl
  obtain ⟨-, -, hdst, htype, -⟩ := hmatch
  rw [dlDst_fromPacket] at hdst
  rw [dlType_fromPacket] at htype
  rcases h with hip | ⟨⟨dst, hunicast, hdst'⟩, houtput⟩
  · rw [hip, agrees_some, Option.some.injEq] at htype
    exact hf.2 ((type_of_mem_applied hd).trans htype)
  · rw [hunicast, agrees_some, Option.some.injEq] at hdst
    rw [← hdst, ← dst_of_mem_applied houtput hd, hf.1] at hdst'
    cases hdst'

end FlowMod.Spares

variable {D : Deployment} {s : ZoneRouter}

/-- A frame from an uplink that causes a rule is for one host. -/
theorem Handled.unicast_of_uplink {ev : PacketIn} {s' : ZoneRouter} {log : List Sent}
    (hstep : Handled D s ev s' log) (huplink : isLeafUplink D.maps ev.dpid ev.port = true)
    {dpid : ℕ} {mod : FlowMod} (hm : ⟨dpid, .flowMod mod⟩ ∈ log) :
    isMulticast ev.packet.dst = false := by
  have hhost : ∀ {snd : Sender}, acceptedSender D ev ≠ some snd := by
    intro snd hsender
    rw [(acceptedSender_eq_some hsender).2.1] at huplink
    cases huplink
  cases hstep with
  | ignored => cases hm
  | transit =>
    split at hm
    · exact absurd hm flowMod_notMem_floodSent
    · rename_i hunicast
      exact Bool.eq_false_iff.mpr hunicast
  | other => exact absurd hm flowMod_notMem_floodSent
  | arpRequest hsender | arpReply hsender | arpResolve hsender | arpOrdinary hsender
  | ipUnrouted hsender | ipSameZone hsender | ipBlocked hsender | ipForwarded hsender
  | ipQueued hsender => exact absurd hsender hhost

/-- The rules of a packet-in spare such frames: those of layer 2 are for IP, or for a frame from an
uplink to one host; the others are for IP. -/
theorem Handled.spares {ev : PacketIn} {s' : ZoneRouter} {log : List Sent}
    (hstep : Handled D s ev s' log) {dpid : ℕ} {mod : FlowMod}
    (hm : ⟨dpid, .flowMod mod⟩ ∈ log) : mod.Spares := by
  have hip : ∀ {p : Ipv4}, ev.packet.body = .ip p →
      (fromPacket ev.packet ev.port).dlType = some 0x0800 := by
    intro p hbody
    rw [dlType_fromPacket, hbody]
    rfl
  rcases hstep.flowMod hm with ⟨-, ⟨outPort, rfl⟩, hcause⟩ | ⟨-, rfl, p, snd, dstZone, hcross, -⟩ |
    ⟨p, snd, dstZone, loc, hcross, -, -, hm⟩
  · rcases hcause with huplink | ⟨p, snd, -, hbody, -⟩
    · refine .inr ⟨⟨ev.packet.dst, dlDst_fromPacket .., ?_⟩, fun a ha => ⟨outPort, ?_⟩⟩
      · exact hstep.unicast_of_uplink huplink hm
      · exact List.mem_singleton.mp ha
    · exact .inl (hip hbody)
  · exact .inl (hip (crossing_eq_some hcross).2.1)
  · have htype := hip (crossing_eq_some hcross).2.1
    rcases flowMod_of_mem_routeFlowsSent hm with ⟨-, rfl⟩ | ⟨-, -, uplink, -, rfl⟩
    · exact .inl htype
    · exact .inl htype

/-! ## Frames that the controller builds -/

theorem isGateway_iff {ip : IPAddr} : isGateway D ip = true ↔
    ∃ zone z, D.policy.zones.get? zone = some z ∧ z.gateway = .v4 ip := by
  unfold isGateway Dict.values
  rw [List.any_map, List.any_eq_true]
  constructor
  · rintro ⟨⟨zone, z⟩, hz, hgw⟩
    exact ⟨zone, z, Dict.get?_eq_some_iff.mpr hz, (of_decide_eq_true hgw).symm⟩
  · rintro ⟨zone, z, hz, hgw⟩
    exact ⟨(zone, z), Dict.get?_eq_some_iff.mp hz, decide_eq_true hgw.symm⟩

/-- The gateway of a zone of IPv4 addresses is one of the gateways. -/
theorem Ipv4Zone.isGateway {zone : String} (h : Ipv4Zone D zone) :
    isGateway D (gatewayIp D zone) = true := by
  obtain ⟨z, ip, hz, hgw⟩ := h
  refine isGateway_iff.mpr ⟨zone, z, hz, ?_⟩
  simp [gatewayIp, hz, hgw, ipv4?]

/-- No frame comes from a gateway. -/
theorem not_valid_of_isGateway {ip : IPAddr} (h : isGateway D ip = true) (zone : String) :
    sourceIpValidForZone D.policy (.v4 ip) zone = false := by
  obtain ⟨zone', z, hz, hgw⟩ := isGateway_iff.mp h
  rw [Bool.eq_false_iff, Ne, sourceIpValidForZone_iff_contains D.policy_ok]
  rintro ⟨z', hz', hip, hne⟩
  -- a gateway is in the subnet of its own zone, and so in no other
  obtain ⟨members, -, hread, -⟩ := loadPolicy_zones D.policy_ok
  obtain ⟨m, -, -, hzone⟩ :=
    Loop.exists_of_forall₂_of_mem_left hread.flip (Dict.get?_eq_some_iff.mp hz)
  obtain rfl := eq_of_contains D.policy_ok hz hz' (hgw ▸ hzone.gateway_mem) hip
  obtain rfl := Option.some.inj (hz.symm.trans hz')
  exact hne hgw.symm

/-- A frame that the controller builds: an IP packet, or an ARP packet of a gateway. -/
def OutFrame.Own (D : Deployment) (frame : OutFrame) : Prop :=
  match frame.content with
  | .arp a => isGateway D a.protosrc = true
  | .ip _ | .icmpError _ => True

/-- **What the controller builds** is from a gateway, or an IP packet. -/
theorem Stepped.own (h : RouterOk D s) {e : Event} {s' : ZoneRouter} {log : List Sent}
    (hstep : Stepped D s e s' log) {m : Sent} (hm : m ∈ log) {frame : OutFrame} {port : ℕ}
    (hbuilt : m.message.built? = some (frame, port)) : frame.Own D := by
  have hprobe : ∀ {ip : IPAddr} {zone : String}, zoneForIp D.policy (.v4 ip) = some zone →
      m ∈ probeSent D s ip zone → frame.Own D := by
    intro ip zone hzone hm
    obtain ⟨-, port, -, rfl⟩ := mem_probeSent.mp hm
    cases hbuilt
    exact (ipv4Zone_of_zoneForIp hzone).isGateway
  have herror : ∀ {q : QueuedPacket} {type code : ℕ}, m ∈ errorSent D s q type code →
      frame.Own D := by
    intro q type code hm
    obtain ⟨-, zone, -, rfl⟩ := mem_errorSent.mp hm
    cases hbuilt
    trivial
  have hforward : ∀ {q : QueuedPacket} {zone : String} {outPort : ℕ} {mac : EthAddr},
      m ∈ forwardSent D s q zone outPort mac → frame.Own D := by
    intro q zone outPort mac hm
    rcases mem_forwardSent.mp hm with ⟨-, hm⟩ | ⟨-, -, rfl⟩
    · exact herror hm
    · cases hbuilt
      trivial
  have hnone : m.message.built? = none → frame.Own D := fun hnone => by
    rw [hnone] at hbuilt
    cases hbuilt
  cases hstep with
  | connectionUp | cancelled | connExpire => cases hm
  | probed _ hentry => exact hprobe (h.entry _ _ hentry).zone hm
  | gaveUp =>
    obtain ⟨q, -, hm⟩ := List.mem_flatMap.mp hm
    exact herror hm
  | packetIn hhandled =>
    cases hhandled with
    | ignored | arpReply | ipUnrouted => cases hm
    | transit =>
      split at hm
      · exact hnone (built?_of_mem_floodSent _ hm)
      · exact hnone (built?_of_mem_l2Sent _ hm)
    | other | arpOrdinary => exact hnone (built?_of_mem_floodSent _ hm)
    | arpRequest _ _ _ hgw =>
      obtain rfl := List.mem_singleton.mp hm
      cases hbuilt
      exact hgw
    | arpResolve =>
      obtain ⟨q, -, hm⟩ := List.mem_flatMap.mp hm
      exact hforward hm
    | ipSameZone => exact hnone (built?_of_mem_l2Sent _ hm)
    | ipBlocked =>
      obtain rfl := List.mem_singleton.mp hm
      cases hbuilt
    | ipForwarded =>
      rcases List.mem_append.mp hm with hm | hm
      · split at hm
        · exact hnone (built?_of_mem_routeFlowsSent _ hm)
        · cases hm
      · exact hforward hm
    | ipQueued _ _ _ hdst => exact hprobe hdst (mem_queueSent.mp hm).2

/-! ## What a packet-in sends on -/

/-- **What a packet-in sends**: the flood of its frame, one rule of layer 2 for it, or only frames
that the controller builds and rules that send no frame on. -/
theorem Handled.log_cases {ev : PacketIn} {s' : ZoneRouter} {log : List Sent}
    (hstep : Handled D s ev s' log) : log = floodSent D ev ∨
      (∃ port, log = [⟨ev.dpid, .flowMod (l2Mod ev port)⟩] ∧
        (isMulticast ev.packet.dst = false ∨ ∃ p, ev.packet.body = .ip p)) ∨
      ∀ m ∈ log, m.message.built?.isSome ∨ ∃ mod, m.message = .flowMod mod ∧ mod.data = none := by
  have hl2 : ∀ {s₁ : ZoneRouter},
      (isMulticast ev.packet.dst = false ∨ ∃ p, ev.packet.body = .ip p) →
      l2Sent D s₁ ev = floodSent D ev ∨ ∃ port,
        l2Sent D s₁ ev = [⟨ev.dpid, .flowMod (l2Mod ev port)⟩] ∧
          (isMulticast ev.packet.dst = false ∨ ∃ p, ev.packet.body = .ip p) := by
    intro s₁ hcause
    unfold l2Sent
    cases s₁.macPort ev.dpid ev.packet.dst with
    | none => exact .inl rfl
    | some port => exact .inr ⟨port, rfl, hcause⟩
  have hforward : ∀ {q : QueuedPacket} {zone : String} {port : ℕ} {mac : EthAddr} {m : Sent},
      m ∈ forwardSent D s q zone port mac → m.message.built?.isSome := by
    intro q zone port mac m hm
    rcases mem_forwardSent.mp hm with ⟨-, hm⟩ | ⟨-, -, rfl⟩
    · obtain ⟨-, zone, -, rfl⟩ := mem_errorSent.mp hm
      rfl
    · rfl
  cases hstep with
  | ignored | arpReply | ipUnrouted => exact .inr (.inr (List.forall_mem_nil _))
  | transit =>
    split
    · exact .inl rfl
    · rename_i hunicast
      exact (hl2 (.inl (Bool.eq_false_iff.mpr hunicast))).imp_right .inl
  | other | arpOrdinary => exact .inl rfl
  | ipSameZone _ hbody => exact (hl2 (.inr ⟨_, hbody⟩)).imp_right .inl
  | arpRequest =>
    refine .inr (.inr fun m hm => .inl ?_)
    obtain rfl := List.mem_singleton.mp hm
    rfl
  | arpResolve =>
    refine .inr (.inr fun m hm => .inl ?_)
    obtain ⟨q, -, hm⟩ := List.mem_flatMap.mp hm
    exact hforward hm
  | ipBlocked =>
    refine .inr (.inr fun m hm => .inr ?_)
    obtain rfl := List.mem_singleton.mp hm
    exact ⟨_, rfl, rfl⟩
  | ipForwarded =>
    refine .inr (.inr fun m hm => ?_)
    rcases List.mem_append.mp hm with hm | hm
    · split at hm
      · obtain ⟨-, rfl | ⟨-, uplink, -, rfl⟩⟩ := mem_routeFlowsSent.mp hm
        · exact .inr ⟨_, rfl, rfl⟩
        · exact .inr ⟨_, rfl, rfl⟩
      · cases hm
    · exact .inl (hforward hm)
  | ipQueued =>
    refine .inr (.inr fun m hm => .inl ?_)
    obtain ⟨-, port, -, rfl⟩ := mem_probeSent.mp (mem_queueSent.mp hm).2
    rfl

/-- Frames that the controller builds, and rules that come without a frame, send none on. -/
theorem flatMap_out_eq_nil {log : List Sent} {inPort : Option ℕ} (h : ∀ m ∈ log,
      m.message.built?.isSome ∨ ∃ mod, m.message = .flowMod mod ∧ mod.data = none) :
    ((log.filter fun m => m.message.built?.isNone).flatMap fun m => (⟨inPort, m⟩ : Told).out D) =
      [] := by
  refine List.flatMap_eq_nil_iff.mpr fun m hm => ?_
  obtain ⟨hm, hbuilt⟩ := List.mem_filter.mp hm
  rcases h m hm with hsome | ⟨mod, hmod, hdata⟩
  · simp [Option.isSome_iff_ne_none.mp hsome] at hbuilt
  · obtain ⟨dpid, message⟩ := m
    obtain rfl := hmod
    exact out_flowMod_of_none hdata

/-- **What a packet-in sends on** is its frame, by another port than it came in by. -/
theorem Handled.exists_port_of_relayed {ev : PacketIn} {s' : ZoneRouter} {log : List Sent}
    (hstep : Handled D s ev s' log) {x : InFlight}
    (hx : x ∈ (log.filter fun m => m.message.built?.isNone).flatMap fun m =>
      (⟨some ev.port, m⟩ : Told).out D) :
    ∃ q ≠ ev.port, x ∈ leaving D ev.dpid [q] ev.packet.resent := by
  obtain ⟨m, hm, hout⟩ := List.mem_flatMap.mp hx
  have hm := (List.mem_filter.mp hm).1
  rcases hstep.log_cases with rfl | ⟨port, rfl, -⟩ | hquiet
  · have hflood : x ∈ (floodSent D ev).flatMap fun m => (⟨some ev.port, m⟩ : Told).out D :=
      List.mem_flatMap.mpr ⟨m, hm, hout⟩
    rw [out_floodSent] at hflood
    obtain ⟨q, hq, hfar⟩ := mem_leaving.mp hflood
    exact ⟨q, ne_of_mem_floodTargets hq, mem_leaving.mpr ⟨q, List.mem_singleton_self q, hfar⟩⟩
  · obtain rfl := List.mem_singleton.mp hm
    rw [out_l2Mod] at hout
    split at hout
    · cases hout
    · rename_i hne
      exact ⟨port, hne, hout⟩
  · rw [flatMap_out_eq_nil hquiet] at hx
    cases hx

/-- A frame from an uplink is sent on in its zone. -/
theorem step_of_uplink {ev : PacketIn} (hparsed : ev.packet.parsed = true)
    (hlldp : ev.packet.body ≠ .lldp) (huplink : isLeafUplink D.maps ev.dpid ev.port = true) :
    step D s (.packetIn ev) = (s.setMac ev.dpid ev.packet.src ev.port,
      if isMulticast ev.packet.dst then floodSent D ev
        else l2Sent D (s.setMac ev.dpid ev.packet.src ev.port) ev) := by
  have hrun : (handlePacketIn D ev).run s = ⟨.ok (), s.setMac ev.dpid ev.packet.src ev.port,
      if isMulticast ev.packet.dst then floodSent D ev
        else l2Sent D (s.setMac ev.dpid ev.packet.src ev.port) ev⟩ := by
    unfold handlePacketIn
    simp only [hparsed, Bool.not_true, Bool.false_eq_true, if_false, if_neg hlldp, huplink, if_true]
    rw [handleTransit, Proc.run_bind_of_ok (Proc.run_modify ..), Proc.after_nil]
    split
    · exact run_floodInZone ev
    · exact run_l2Forward ev
  show (((handlePacketIn D ev).run s).state, ((handlePacketIn D ev).run s).log) = _
  rw [hrun]

/-- A frame with neither ARP nor IP is flooded where it comes in by another port. -/
theorem step_of_other {ev : PacketIn} {type : ℕ} (hparsed : ev.packet.parsed = true)
    (hbody : ev.packet.body = .other type) (huplink : isLeafUplink D.maps ev.dpid ev.port = false) :
    step D s (.packetIn ev) = (s, floodSent D ev) := by
  have hrun : (handlePacketIn D ev).run s = ⟨.ok (), s, floodSent D ev⟩ := by
    unfold handlePacketIn
    simp only [hparsed, hbody, huplink, Bool.not_true, Bool.false_eq_true, reduceCtorEq, if_false]
    exact run_floodInZone ev
  show (((handlePacketIn D ev).run s).state, ((handlePacketIn D ev).run s).log) = _
  rw [hrun]

/-- A parsed frame arrives as it was sent on, and no other frame does, unless it is LLDP. -/
theorem resent_eq_iff {f f' : Frame} (hf : f.parsed = true) (hf' : f'.parsed = true)
    (htype : f.body.type ≠ Body.lldp.type) : f'.resent = f ↔ f' = f := by
  obtain ⟨parsed, src, dst, body⟩ := f
  obtain ⟨parsed', src', dst', body'⟩ := f'
  obtain rfl : parsed = true := hf
  obtain rfl : parsed' = true := hf'
  have hbody : parseContent body'.content = body ↔ body' = body := by
    cases body' with
    | other t =>
      by_cases ht : t = Body.lldp.type
      · have hne : body ≠ .lldp := fun h => htype (by rw [h])
        have hne' : body ≠ .other t := fun h => htype (by rw [h]; exact ht)
        simp [Body.content, parseContent, ht, hne.symm, Ne.symm (ht ▸ hne')]
      · simp [Body.content, parseContent, ht]
    | _ => simp [Body.content, parseContent]
  simp [Frame.resent, hbody]

/-! ## Copies -/

section

variable (D) (K : End ℕ ℕ String → Prop) [DecidablePred K] (f : Frame)

/-- A frame under way that counts: it is the one that is followed, and at an end that counts. -/
def isCopy (x : InFlight) : Bool := decide (x.frame = f ∧ K x.dest)

/-- The copies of a frame that are under way: on cables, in packet-ins, and in messages. -/
def copies (w : Site) : ℕ :=
  w.wires.countP (isCopy K f) +
    w.asks.countP (fun a => isCopy K f ⟨.switch a.dpid a.port, a.frame⟩) +
    (w.tells.flatMap (Told.out D)).countP (isCopy K f)

/-- What becomes of a frame counts. -/
def Report.isCopy : Report → Bool
  | .received name frame => ZoneSegmentation.isCopy K f ⟨.host name, frame⟩
  | .lost x => ZoneSegmentation.isCopy K f x

/-- What goes under way when a frame that the controller built leaves a switch. -/
def Sent.makes (m : Sent) : List InFlight :=
  (m.message.built?.map fun (frame, port) => leaving D m.dpid [port] frame.sent).getD []

/-- The frame that a host sends comes in at its port. -/
def SiteEvent.sent : SiteEvent → List InFlight
  | .sends name frame => ((seat D.net name).map fun (dpid, port) =>
      (⟨.switch dpid port, frame⟩ : InFlight)).toList
  | _ => []

/-- A rule that makes a router's hop. -/
def FlowMod.Routes (mod : FlowMod) : Prop := .decTtl ∈ mod.actions

instance (mod : FlowMod) : Decidable mod.Routes := inferInstanceAs (Decidable (_ ∈ _))

/-- What goes under way when a rule makes a hop for a frame that arrives. -/
def Site.routes (w : Site) : SiteEvent → List InFlight
  | .arrives i now =>
    match w.wires[i]? with
    | some ⟨.switch dpid port, frame⟩ =>
      match lookup w.rules now dpid port frame with
      | some r => if r.mod.Routes then r.out D dpid port frame else []
      | none => []
    | _ => []
  | _ => []

/-- What comes into the network at an event: the frame that a host sends, those that a rule routes,
and those that the controller builds. -/
def Site.entering (w : Site) (e : SiteEvent) : List InFlight :=
  e.sent D ++ w.routes D e ++ (w.said D e).flatMap (Sent.makes D)

/-- A frame is followed through the switches and the controller: where it counts, one copy goes on
that counts, and no other frame is sent on as one. -/
structure Spreads (w : Site) : Prop where
  router : RouterOk D w.router
  passed : ∀ {i : ℕ} {now : ℚ} {dpid port : ℕ} {frame : Frame} {r : Rule},
    w.wires[i]? = some ⟨.switch dpid port, frame⟩ → lookup w.rules now dpid port frame = some r →
      (if r.mod.Routes then 0 else (r.out D dpid port frame).countP (isCopy K f)) =
        if isCopy K f ⟨.switch dpid port, frame⟩ then 1 else 0
  relayed : ∀ {i : ℕ} {a : Ask}, w.asks[i]? = some a → ∀ firewall now,
    (((step D w.router (.packetIn ⟨a.dpid, a.port, a.frame, firewall, now⟩)).2.filter fun m =>
      m.message.built?.isNone).flatMap fun m => (⟨some a.port, m⟩ : Told).out D).countP
        (isCopy K f) = if isCopy K f ⟨.switch a.dpid a.port, a.frame⟩ then 1 else 0

end

variable (D) in
/-- What holds in every state of the network: the controller's tables are sound, and the rules,
there or on their way, spare multicast frames without IP. -/
structure SiteOk (w : Site) : Prop where
  router : RouterOk D w.router
  rules : ∀ r ∈ w.rules, r.mod.Spares
  tells : ∀ t ∈ w.tells, ∀ mod, t.sent.message = .flowMod mod → mod.Spares

section

variable {K : End ℕ ℕ String → Prop} [DecidablePred K] {f : Frame} {w w' : Site} {e : SiteEvent}
  {out : List Report}

theorem isCopy_iff {x : InFlight} : isCopy K f x = true ↔ x.frame = f ∧ K x.dest :=
  decide_eq_true_iff

theorem out_of_built {inPort : Option ℕ} {m : Sent} (hbuilt : m.message.built?.isSome) :
    (⟨inPort, m⟩ : Told).out D = m.makes D := by
  obtain ⟨dpid, message⟩ := m
  cases message with
  | packetOut frame port => exact out_packetOut frame
  | packetOutData | packetOutFlood | flowMod => cases hbuilt

/-- What messages make go under way: what the controller built, and what it sends on. -/
theorem countP_flatMap_out (log : List Sent) (inPort : Option ℕ) (p : InFlight → Bool) :
    (log.flatMap fun m => (⟨inPort, m⟩ : Told).out D).countP p =
      (log.flatMap (Sent.makes D)).countP p +
        ((log.filter fun m => m.message.built?.isNone).flatMap fun m =>
          (⟨inPort, m⟩ : Told).out D).countP p := by
  induction log with
  | nil => rfl
  | cons m log ih =>
    rw [List.flatMap_cons, List.flatMap_cons, List.countP_append, List.countP_append, ih]
    cases hbuilt : m.message.built? with
    | some b =>
      rw [out_of_built (by simp [hbuilt]), List.filter_cons_of_neg (by simp [hbuilt])]
      omega
    | none =>
      have hmakes : m.makes D = [] := by simp [Sent.makes, hbuilt]
      rw [hmakes, List.filter_cons_of_pos (by simp [hbuilt]), List.flatMap_cons,
        List.countP_append, List.countP_nil]
      omega

/-- What the controller sends at an event that is no packet-in is built. -/
theorem Stepped.built (hstep : Stepped D s c s' log) (hc : ∀ ev, c ≠ .packetIn ev) :
    ∀ m ∈ log, m.message.built?.isSome := by
  intro m hm
  cases hstep with
  | packetIn => exact absurd rfl (hc _)
  | connectionUp | cancelled | connExpire => cases hm
  | probed =>
    obtain ⟨-, port, -, rfl⟩ := mem_probeSent.mp hm
    rfl
  | gaveUp =>
    obtain ⟨q, -, hm⟩ := List.mem_flatMap.mp hm
    obtain ⟨-, zone, -, rfl⟩ := mem_errorSent.mp hm
    rfl

/-! ## What holds in every state -/

theorem siteOk_init (fwClient : Bool) : SiteOk D (.init fwClient) :=
  ⟨routerOk_init fwClient, List.forall_mem_nil _, List.forall_mem_nil _⟩

/-- The messages of the controller keep what holds of the rules. -/
theorem SiteOk.spares_of_mem (h : SiteOk D w) {c : Event} {m : Sent}
    (hm : m ∈ (step D w.router c).2) {mod : FlowMod} (hmod : m.message = .flowMod mod) :
    mod.Spares := by
  obtain ⟨dpid, message⟩ := m
  obtain rfl := hmod
  have hstep := step_stepped h.router c
  obtain ⟨ev, rfl, hhandled⟩ := hstep.packetIn_of_flowMod hm
  exact hhandled.spares hm

theorem SiteOk.moved (h : SiteOk D w) (hmoved : Moved D w e w' out) : SiteOk D w' where
  router := hmoved.forall_router h.router fun c _ => h.router.step c
  rules := hmoved.forall_rules (Q := fun _ mod => mod.Spares) h.rules h.tells
  tells := hmoved.forall_tells h.tells fun _ _ _ _ _ hm _ hmod => h.spares_of_mem hm hmod

/-! ## The account of the copies -/

theorem countP_received (name : String) (frame : Frame) :
    [Report.received name frame].countP (Report.isCopy K f) =
      if isCopy K f ⟨.host name, frame⟩ then 1 else 0 := List.countP_singleton ..

theorem countP_lost (x : InFlight) : [Report.lost x].countP (Report.isCopy K f) =
    if isCopy K f x then 1 else 0 := List.countP_singleton ..

theorem countP_ask (x : Ask) (asks : List Ask) : (asks ++ [x]).countP (fun a =>
      isCopy K f ⟨.switch a.dpid a.port, a.frame⟩) =
    asks.countP (fun a => isCopy K f ⟨.switch a.dpid a.port, a.frame⟩) +
      if isCopy K f ⟨.switch x.dpid x.port, x.frame⟩ then 1 else 0 := by
  rw [List.countP_append, List.countP_singleton]

/-- The controller's messages at an event: what it builds comes in, and of a frame that counts one
copy goes on. -/
theorem copies_controls (w : Site) (inPort : Option ℕ) (c : Event) :
    copies D K f (w.controls D inPort c) = copies D K f w +
      (((step D w.router c).2.flatMap (Sent.makes D)).countP (isCopy K f) +
        (((step D w.router c).2.filter fun m => m.message.built?.isNone).flatMap fun m =>
          (⟨inPort, m⟩ : Told).out D).countP (isCopy K f)) := by
  rw [← countP_flatMap_out]
  simp only [copies, Site.controls, List.flatMap_append, List.countP_append, List.flatMap_map]
  omega

/-- A rule takes no frame that is spared, and makes none. -/
theorem SiteOk.ne_of_lookup (h : SiteOk D w) (hf : f.Spared) {now : ℚ} {dpid port : ℕ}
    {frame : Frame} {r : Rule} (hlookup : lookup w.rules now dpid port frame = some r) :
    frame ≠ f ∧ ∀ x ∈ r.out D dpid port frame, x.frame ≠ f := by
  obtain ⟨hr, htakes⟩ := lookup_eq_some hlookup
  have hspares := h.rules r hr
  constructor
  · rintro rfl
    exact hspares.not_matches hf htakes.2.2
  · intro x hx
    obtain ⟨d, hd, hcarry⟩ := List.mem_filterMap.mp hx
    obtain ⟨e, -, rfl⟩ := Option.map_eq_some_iff.mp hcarry
    exact hspares.frame_ne hf htakes.2.2 (List.mem_filter.mp hd).1

/-- Where no copy is under way, none waits for the controller. -/
theorem not_isCopy_of_copies (h : copies D K f w = 0) {a : Ask} (ha : a ∈ w.asks) :
    ¬ isCopy K f ⟨.switch a.dpid a.port, a.frame⟩ = true := by
  have hasks : w.asks.countP (fun a => isCopy K f ⟨.switch a.dpid a.port, a.frame⟩) = 0 := by
    rw [copies] at h
    omega
  exact List.countP_eq_zero.mp hasks a ha

theorem countP_isCopy_eq_zero {l : List InFlight} (h : ∀ x ∈ l, x.frame ≠ f) :
    l.countP (isCopy K f) = 0 :=
  List.countP_eq_zero.mpr fun x hx hcopy => h x hx (isCopy_iff.mp hcopy).1

/-- What the controller builds is no copy of a frame that it does not build. -/
theorem countP_makes_eq_zero (h : ∀ c, ∀ m ∈ (step D w.router c).2, ∀ b,
      m.message.built? = some b → b.1.sent ≠ f) :
    ((w.said D e).flatMap (Sent.makes D)).countP (isCopy K f) = 0 := by
  refine countP_isCopy_eq_zero fun x hx => ?_
  obtain ⟨m, hm, hx⟩ := List.mem_flatMap.mp hx
  obtain ⟨c, -, hm⟩ := w.mem_said.mp hm
  cases hb : m.message.built? with
  | none => simp [Sent.makes, hb] at hx
  | some b =>
    simp only [Sent.makes, hb, Option.map_some, Option.getD_some] at hx
    obtain ⟨-, -, -, hframe⟩ := mem_leaving.mp hx
    exact hframe ▸ h c m hm b hb

/-- **Every step accounts for the copies**: what is under way afterwards and what has come to an end
is what was under way before and what came in. -/
theorem Spreads.copies_moved (hf : Spreads D K f w) (hmoved : Moved D w e w' out) :
    copies D K f w' + out.countP (Report.isCopy K f) =
      copies D K f w + (w.entering D e).countP (isCopy K f) := by
  have hquiet : w.heard e = none → w.entering D e = e.sent D ++ w.routes D e := by
    intro hheard
    simp [Site.entering, Site.said, hheard]
  cases hmoved with
  | idle hheard hsends hroutes =>
    have hnone : e.sent D = [] := by
      cases e with
      | sends name frame => simp [SiteEvent.sent, hsends name frame rfl]
      | _ => rfl
    have hroutes : w.routes D e = [] := by
      cases e with
      | arrives i now => simp [Site.routes, hroutes i now rfl]
      | _ => rfl
    rw [hquiet hheard, hnone, hroutes, List.append_nil, List.countP_nil, List.countP_nil]
  | sent frame hseat =>
    rw [hquiet rfl]
    simp only [copies, SiteEvent.sent, hseat, Option.map_some, Option.toList_some, Site.routes,
      List.append_nil, List.countP_append, List.countP_nil]
    omega
  | received now hi =>
    rw [hquiet rfl]
    simp only [copies, ← countP_eraseIdx hi (isCopy K f), SiteEvent.sent, Site.routes, hi,
      countP_received, List.append_nil, List.countP_nil]
    omega
  | dropped hi =>
    rw [hquiet rfl]
    simp only [copies, ← countP_eraseIdx hi (isCopy K f), SiteEvent.sent, Site.routes, countP_lost,
      List.append_nil, List.countP_nil]
    omega
  | unheard hi hlookup =>
    rw [hquiet rfl]
    simp only [copies, ← countP_eraseIdx hi (isCopy K f), SiteEvent.sent, Site.routes, hi, hlookup,
      countP_lost, List.append_nil, List.countP_nil]
    omega
  | passed hi hlookup =>
    -- what a rule makes a hop for comes in, and of what it sends on one copy goes on
    have hpassed := hf.passed hi hlookup
    rw [hquiet rfl]
    simp only [copies, ← countP_eraseIdx hi (isCopy K f), SiteEvent.sent, Site.routes, hi, hlookup,
      List.nil_append, List.countP_append, List.countP_nil]
    split at hpassed
    · rename_i hroutes
      rw [if_pos hroutes]
      omega
    · rename_i hroutes
      rw [if_neg hroutes, List.countP_nil]
      omega
  | missed hi hlookup hconn =>
    rw [hquiet rfl]
    simp only [copies, ← countP_eraseIdx hi (isCopy K f), SiteEvent.sent, Site.routes, hi, hlookup,
      countP_ask, List.append_nil, List.countP_nil]
    omega
  | @asked i firewall now x hi =>
    have htaken := countP_eraseIdx hi fun a => isCopy K f ⟨.switch a.dpid a.port, a.frame⟩
    have hrelayed := hf.relayed hi firewall now
    have hentering : w.entering D (.asked i firewall now) = (step D w.router
        (.packetIn ⟨x.dpid, x.port, x.frame, firewall, now⟩)).2.flatMap (Sent.makes D) := by
      simp [Site.entering, Site.said, Site.heard, SiteEvent.sent, Site.routes, hi]
    rw [hentering, copies_controls, hrelayed, List.countP_nil]
    simp only [copies] at htaken ⊢
    omega
  | told now hi =>
    rw [hquiet rfl]
    have htaken := ((perm_of_getElem? hi).flatMap_right (Told.out D)).countP_eq (isCopy K f)
    rw [List.flatMap_cons, List.countP_append] at htaken
    simp only [copies, SiteEvent.sent, Site.routes, List.append_nil, List.countP_append,
      List.countP_nil]
    omega
  | @controlled _ c hc =>
    have hentering : w.entering D e = (step D w.router c).2.flatMap (Sent.makes D) := by
      rw [Site.entering, Site.said, SiteEvent.heard_eq hc]
      cases e <;> first | rfl | cases hc
    have hbuilt := (step_stepped hf.router c).built fun ev hev =>
      SiteEvent.control?_ne_packetIn (hev ▸ hc)
    have hnone : (step D w.router c).2.filter (fun m => m.message.built?.isNone) = [] := by
      rw [List.filter_eq_nil_iff]
      intro m hm
      simp [Option.isSome_iff_ne_none.mp (hbuilt m hm)]
    rw [hentering, copies_controls, hnone, List.flatMap_nil, List.countP_nil, List.countP_nil,
      Nat.add_zero, Nat.add_zero]

/-- **A run accounts for the copies**: those that came to an end and those under way are those that
came in. -/
theorem Spreads.copies_final {I : Site → Prop} {fwClient : Bool} {es : List SiteEvent}
    (h0 : I (.init fwClient)) (hI : ∀ w, ∀ e ∈ es, I w → I (w.step D e).1)
    (hspreads : ∀ w, I w → Spreads D K f w) :
    copies D K f (siteAfter D fwClient es) + (reports D fwClient es).countP (Report.isCopy K f) =
      (Run.observed (Site.step D) (Site.entering D) (.init fwClient) es).countP (isCopy K f) := by
  have hbalance := Run.balance_of_forall_mem (copies D K f) (Report.isCopy K f) (Site.entering D)
    (isCopy K f) h0 hI fun w e _ hw => (hspreads w hw).copies_moved (w.step_moved e)
  exact hbalance.trans (Nat.zero_add _)

/-- A frame that no rule takes is followed where the controller sends it on. -/
theorem SiteOk.spreads (h : SiteOk D w) (hf : f.Spared)
    (hrelayed : ∀ ev : PacketIn, ⟨ev.dpid, ev.port, ev.packet⟩ ∈ w.asks →
      (((step D w.router (.packetIn ev)).2.filter fun m => m.message.built?.isNone).flatMap fun m =>
        (⟨some ev.port, m⟩ : Told).out D).countP (isCopy K f) =
          if isCopy K f ⟨.switch ev.dpid ev.port, ev.packet⟩ then 1 else 0) :
    Spreads D K f w where
  router := h.router
  passed := by
    intro i now dpid port frame r _ hlookup
    obtain ⟨hne, hout⟩ := h.ne_of_lookup hf hlookup
    rw [if_neg fun hcopy => hne (isCopy_iff.mp hcopy).1, countP_isCopy_eq_zero hout, ite_self]
  relayed := by
    intro i a ha firewall now
    exact hrelayed ⟨a.dpid, a.port, a.frame, firewall, now⟩ (List.mem_of_getElem? ha)

/-- Nothing that a rule routes is spared. -/
theorem SiteOk.ne_of_mem_routes (h : SiteOk D w) (hf : f.Spared) {x : InFlight}
    (hx : x ∈ w.routes D e) : x.frame ≠ f := by
  unfold Site.routes at hx
  split at hx
  · split at hx
    · split at hx
      · rename_i hlookup
        split at hx
        · exact (h.ne_of_lookup hf hlookup).2 x hx
        · cases hx
      · cases hx
    · cases hx
  · cases hx

theorem countP_leaving (dpid : ℕ) (ports : List ℕ) (frame : Frame) :
    (leaving D dpid ports frame).countP (isCopy K f) =
      if frame = f then (ports.filterMap (farEnd D.net dpid)).countP (fun e => K e) else 0 := by
  have hmap : leaving D dpid ports frame =
      (ports.filterMap (farEnd D.net dpid)).map fun e => ⟨e, frame⟩ := by
    rw [List.map_filterMap]
    rfl
  rw [hmap, List.countP_map]
  split
  · rename_i hframe
    exact List.countP_congr fun e _ => by simp [isCopy, hframe]
  · rename_i hframe
    exact List.countP_eq_zero.mpr fun e _ => by simp [isCopy, hframe]

/-- A frame that is lost. -/
def Report.lost? : Report → Option InFlight
  | .received _ _ => none
  | .lost x => some x

/-- What comes to an end for a host: the host receives it, or it is lost on its way there. -/
theorem countP_report {g : String} {f : Frame} {K : End ℕ ℕ String → Prop} [DecidablePred K]
    (hK : ∀ name, K (.host name) ↔ name = g) (l : List Report) :
    l.countP (Report.isCopy K f) =
      l.count (.received g f) + (l.filterMap Report.lost?).countP (isCopy K f) := by
  induction l with
  | nil => rfl
  | cons r l ih =>
    cases r with
    | received name frame =>
      have hsame : (Report.isCopy K f (.received name frame) = true) ↔
          Report.received name frame = .received g f := by
        simp [Report.isCopy, isCopy, hK, and_comm]
      simp only [List.countP_cons, List.count_cons, ih, hsame, List.filterMap_cons, Report.lost?,
        beq_iff_eq]
      omega
    | lost x =>
      have hsame : (Report.isCopy K f (.lost x) = true) ↔ isCopy K f x = true := Iff.rfl
      simp only [List.countP_cons, List.count_cons, ih, List.filterMap_cons, Report.lost?, hsame,
        beq_iff_eq, reduceCtorEq, if_false]
      omega

end

end ZoneSegmentation
