import ZoneSegmentation.Controller.FastPath
import ZoneSegmentation.Switch.Located

/-!
# Where rules lead

While hosts send in their own name, every rule of a switch does what the packets that it takes are
meant for. A rule of layer 2 sends on toward the addressee; the rule of a leaf leads up to the core,
and that of the core makes the hop to the host with the destination address. A drop rule takes only
what the policy denies, if the daemon answers as the policy says. This holds for all rules that are
installed or on their way, however long ago the controller made them.

## Main definitions

* `CrossesAt`: a frame that is to cross zones where it comes in
* `RuleAimed`: a rule that leads where it should
* `Taken`: what becomes of a frame that such a rule takes
* `SiteAimed`: what holds in every state of the network
* `SiteEvent.Fair`: well-formed frames in the senders' own names, and honest answers

## Main results

* `Handled.aimed`: the rules of a packet-in lead where they should
* `RuleAimed.taken`: what becomes of a frame that a rule takes
* `SiteAimed.moved`: every step keeps all this
-/

namespace ZoneSegmentation

open HostTree (End)
open OfpMatch

variable {D : Deployment}

/-! ## Addresses of hosts -/

section

variable {name name' : String} {h : Host ℕ} {ip : IPAddr}

theorem exists_of_hostIp (hip : hostIp D.net name = some ip) :
    ∃ h, D.net.hosts.get? name = some h ∧ h.ip = .v4 ip := by
  obtain ⟨h, hhost, hip⟩ := Option.bind_eq_some_iff.mp hip
  refine ⟨h, hhost, ?_⟩
  cases hv : h.ip with
  | v4 i =>
    rw [hv] at hip
    rw [Option.some.inj hip]
  | v6 i scope =>
    rw [hv] at hip
    cases hip

/-- No two hosts of an accepted layout have one address. -/
theorem eq_of_hostIp (hip : hostIp D.net name = some ip) (hip' : hostIp D.net name' = some ip) :
    name = name' := by
  obtain ⟨host, hhost, hv⟩ := exists_of_hostIp hip
  obtain ⟨host', hhost', hv'⟩ := exists_of_hostIp hip'
  obtain ⟨core, switches, uplinks, hosts, -, -, hhosts, -, hnet⟩ :=
    loadNetwork_eq_ok_iff.mp D.net_ok
  obtain ⟨members, rows, -, hrows, rfl⟩ := loadHosts_eq_ok_iff.mp hhosts
  rw [← hnet] at hhost hhost'
  obtain ⟨row, hrow, rfl⟩ := Dict.mem_entries_mapValues.mp (Dict.get?_eq_some_iff.mp hhost)
  obtain ⟨row', hrow', rfl⟩ := Dict.mem_entries_mapValues.mp (Dict.get?_eq_some_iff.mp hhost')
  have hsymm : Std.Symm IpsDiffer := ⟨fun _ _ hne => Ne.symm hne⟩
  by_contra hne
  exact hrows.apart.forall (Dict.mem_of_get?_ofList (Dict.get?_eq_some_iff.mpr hrow))
    (Dict.mem_of_get?_ofList (Dict.get?_eq_some_iff.mpr hrow'))
    (fun heq => hne (congrArg Prod.fst heq)) (hv.trans hv'.symm)

/-- A host's address is valid in its zone. -/
theorem valid_of_hostIp (hhost : D.net.hosts.get? name = some h)
    (hip : hostIp D.net name = some ip) :
    sourceIpValidForZone D.policy (.v4 ip) h.zone = true := by
  obtain ⟨h', hhost', hv⟩ := exists_of_hostIp hip
  obtain rfl := Option.some.inj (hhost.symm.trans hhost')
  obtain ⟨m, host, hread, rfl⟩ := exists_hostRead D.net_ok hhost
  obtain ⟨entry, hentry, -, hgateway, -⟩ := hread.entry
  dsimp only at hv ⊢
  refine sourceIpValidForZone_iff.mpr ⟨?_, entry, hentry, ?_⟩
  · rw [← hv]
    exact hread.zone
  · rw [← hv]
    exact hgateway

end

/-! ## Rules -/

variable (D) in
/-- A frame that comes in by a host's port, or by a port of the core, with a packet for another
zone. -/
structure CrossesAt (dpid port : ℕ) (f : Frame) (p : Ipv4) (zone dstZone : String) : Prop where
  body : f.body = .ip p
  zone_eq : zoneOfPort D.maps dpid port = some zone
  not_uplink : isLeafUplink D.maps dpid port = false
  dst : zoneForIp D.policy (.v4 p.dstip) = some dstZone
  ne : dstZone ≠ zone

variable (A : HostMacs D) (T : Prop)

/-- Where a rule leads, if the daemon is to be trusted or not. -/
inductive RuleAimed (dpid : ℕ) (mod : FlowMod) : Prop where
  /-- What comes down, or stays in its zone, is sent on toward the addressee. -/
  | relay {packet : Frame} {port q : ℕ} (hmatch : mod.ofpMatch = fromPacket packet port)
      (hactions : mod.actions = [.output q])
      (hcause : isLeafUplink D.maps dpid port = true ∨ ∃ p zone, packet.body = .ip p ∧
        zoneOfPort D.maps dpid port = some zone ∧ zoneForIp D.policy (.v4 p.dstip) = some zone)
      (haim : ∀ name ∈ D.net.hosts.keys, packet.dst = A.mac name → toward D dpid name = some q)
  /-- A packet for another zone is dropped; the policy denies it if the daemon is to be trusted. -/
  | drop {packet : Frame} {port : ℕ} {p : Ipv4} {zone dstZone : String}
      (hmatch : mod.ofpMatch = fromPacket packet port) (hactions : mod.actions = [])
      (hcrosses : CrossesAt D dpid port packet p zone dstZone)
      (hdenied : T → p.header.allowed D.policy = false)
  /-- A leaf sends up to the core what is to cross zones. -/
  | up {packet : Frame} {port q : ℕ} {p : Ipv4} {zone dstZone : String}
      (hmatch : mod.ofpMatch = fromPacket packet port) (hactions : mod.actions = [.output q])
      (hcrosses : CrossesAt D dpid port packet p zone dstZone)
      (hq : D.maps.leafUplinkPort.get? dpid = some q)
  /-- The core makes the hop to the host with the destination address. -/
  | route {packet : Frame} {port inPort q : ℕ} {p : Ipv4} {zone dstZone name : String}
      (hdpid : dpid = D.maps.coreDpid)
      (hmatch : mod.ofpMatch = { fromPacket packet port with inPort := some inPort })
      (hactions : mod.actions =
        [.setDlSrc (gatewayMac D dstZone), .setDlDst (A.mac name), .decTtl, .output q])
      (hcrosses : CrossesAt D D.maps.coreDpid inPort packet p zone dstZone)
      (hname : name ∈ D.net.hosts.keys) (hip : hostIp D.net name = some p.dstip)
      (htoward : toward D D.maps.coreDpid name = some q)

variable {A T} {s s' : ZoneRouter} {ev : PacketIn} {log : List Sent}

/-- A packet that is to cross zones crosses them where it comes in. -/
theorem CrossesAt.of_crossing {p : Ipv4} {snd : Sender} {dstZone : String}
    (hcross : crossing D ev = some (p, snd, dstZone)) :
    CrossesAt D ev.dpid ev.port ev.packet p snd.zone dstZone := by
  obtain ⟨hsender, hbody, -, hdst, hne⟩ := crossing_eq_some hcross
  obtain ⟨-, huplink, -, hzone, -⟩ := acceptedSender_eq_some hsender
  exact ⟨hbody, hzone, huplink, hdst, hne⟩

/-- It crosses them at the core, too. -/
theorem CrossesAt.core {dpid port corePort : ℕ} {f : Frame} {p : Ipv4} {zone dstZone : String}
    (h : CrossesAt D dpid port f p zone dstZone)
    (hport : corePortFor D.maps dpid port = some corePort) :
    CrossesAt D D.maps.coreDpid corePort f p zone dstZone := by
  obtain ⟨corePort', hport', hzone⟩ := D.exists_corePortFor h.zone_eq
  obtain rfl := Option.some.inj (hport'.symm.trans hport)
  refine ⟨h.body, ?_, D.isLeafUplink_core _, h.dst, h.ne⟩
  rw [zoneOfPort, if_pos rfl, hzone]
  rfl

/-- The port of a layer 2 rule leads toward the addressee. -/
theorem Handled.aim (hrouter : RouterOk D s) (h : Located A s)
    (hev : Placed A s ⟨.switch ev.dpid ev.port, ev.packet⟩) (hstep : Handled D s ev s' log) {q : ℕ}
    (hm : ⟨ev.dpid, .flowMod (l2Mod ev q)⟩ ∈ log) : ∀ name ∈ D.net.hosts.keys,
      ev.packet.dst = A.mac name → toward D ev.dpid name = some q := by
  have hlocated := (hstep.located hrouter h hev).1
  have hl2 : ∀ {s₁ : ZoneRouter}, Located A s₁ → ⟨ev.dpid, .flowMod (l2Mod ev q)⟩ ∈ l2Sent D s₁ ev →
      ∀ name ∈ D.net.hosts.keys, ev.packet.dst = A.mac name → toward D ev.dpid name = some q := by
    intro s₁ hlocated hm name hname hdst
    rcases mem_l2Sent.mp hm with ⟨q', hq', hm⟩ | ⟨-, hm⟩
    · have hsame := Message.flowMod.inj (Sent.mk.inj hm).2
      simp only [l2Mod, FlowMod.mk.injEq, List.cons.injEq, Action.output.injEq, and_true] at hsame
      obtain ⟨-, -, -, rfl, -⟩ := hsame
      exact hlocated.mac _ _ name hname (hdst ▸ hq')
    · exact absurd hm flowMod_notMem_floodSent
  cases hstep with
  | ignored | arpReply | ipUnrouted => cases hm
  | transit =>
    split at hm
    · exact absurd hm flowMod_notMem_floodSent
    · exact hl2 hlocated hm
  | other | arpOrdinary => exact absurd hm flowMod_notMem_floodSent
  | arpRequest => simp [replySent] at hm
  | arpResolve =>
    obtain ⟨q, -, hm⟩ := List.mem_flatMap.mp hm
    exact absurd hm flowMod_notMem_forwardSent
  | ipSameZone => exact hl2 hlocated hm
  | ipBlocked => simp [l2Mod, dropMod] at hm
  | ipForwarded =>
    rcases List.mem_append.mp hm with hm | hm
    · split at hm
      · rcases flowMod_of_mem_routeFlowsSent hm with ⟨-, hmod⟩ | ⟨-, -, uplink, -, hmod⟩
        · simp [l2Mod, coreMod] at hmod
        · simp [l2Mod, leafMod] at hmod
      · cases hm
    · exact absurd hm flowMod_notMem_forwardSent
  | ipQueued => exact absurd hm flowMod_notMem_queueSent

/-- What the policy allows is let pass. -/
theorem verdict_eq_new {p : Ipv4} {snd : Sender} {dstZone : String}
    (hcross : crossing D ev = some (p, snd, dstZone)) (hdaemon : ev.Honest D.policy)
    (hallowed : p.header.allowed D.policy = true) :
    s.verdict D ev p snd.zone dstZone = some .new := by
  rw [← policyAllowed_eq_of_honest (s := s) hcross hdaemon] at hallowed
  exact (ConnectionTable.check_new_iff ..).mpr hallowed

/-- **The rules of a packet-in lead where they should.** -/
theorem Handled.aimed (hrouter : RouterOk D s) (h : Located A s)
    (hev : Placed A s ⟨.switch ev.dpid ev.port, ev.packet⟩) (hdaemon : T → ev.Honest D.policy)
    (hstep : Handled D s ev s' log) {dpid : ℕ} {mod : FlowMod}
    (hm : ⟨dpid, .flowMod mod⟩ ∈ log) : RuleAimed A T dpid mod := by
  rcases hstep.flowMod hm with ⟨rfl, ⟨q, rfl⟩, hcause⟩ |
    ⟨rfl, rfl, p, snd, dstZone, hcross, hverdict⟩ | ⟨p, snd, dstZone, loc, hcross, -, hloc, hm⟩
  · refine .relay rfl rfl (hcause.imp_right fun ⟨p, snd, hsender, hbody, hdst⟩ => ?_)
      (hstep.aim hrouter h hev hm)
    exact ⟨p, snd.zone, hbody, (acceptedSender_eq_some hsender).2.2.2.1, hdst⟩
  · refine .drop rfl rfl (.of_crossing hcross) fun htrust => ?_
    refine Bool.eq_false_iff.mpr fun hallowed => ?_
    rw [verdict_eq_new hcross (hdaemon htrust) hallowed] at hverdict
    cases hverdict
  · have hcrosses := CrossesAt.of_crossing hcross
    rcases flowMod_of_mem_routeFlowsSent hm with ⟨rfl, rfl⟩ | ⟨rfl, -, uplink, hup, rfl⟩
    · obtain ⟨corePort, hport, -⟩ := D.exists_corePortFor hcrosses.zone_eq
      obtain ⟨name, hbehind⟩ := (hstep.located hrouter h hev).1.location _ _ hloc
      have hmatch : (coreMod D ev dstZone loc).ofpMatch =
          { fromPacket ev.packet ev.port with inPort := some corePort } := by rw [coreMod, hport]
      refine .route rfl hmatch ?_ (hcrosses.core hport) hbehind.host hbehind.ip_eq hbehind.toward_eq
      rw [coreMod, hbehind.mac_eq]
    · exact .up rfl rfl hcrosses hup

/-! ## Frames that a rule takes -/

theorem zone_of_hostIp {name zone : String} {ip : IPAddr} {h : Host ℕ}
    (hhost : D.net.hosts.get? name = some h) (hip : hostIp D.net name = some ip)
    (hzone : zoneForIp D.policy (.v4 ip) = some zone) : h.zone = zone :=
  Option.some.inj ((sourceIpValidForZone_iff.mp (valid_of_hostIp hhost hip)).1.symm.trans hzone)

/-- A port toward a host that is no uplink is in the host's zone. -/
theorem zoneOfPort_of_toward {name : String} {h : Host ℕ} {d port : ℕ}
    (hhost : D.net.hosts.get? name = some h) (htoward : toward D d name = some port)
    (huplink : isLeafUplink D.maps d port = false) : zoneOfPort D.maps d port = some h.zone := by
  by_cases hcore : d = D.maps.coreDpid
  · subst hcore
    exact D.zoneOfPort_toward_core hhost htoward
  · obtain ⟨h', hhost', hzone, -⟩ := D.zoneOfPort_seat (seat_of_toward htoward huplink hcore)
    obtain rfl := Option.some.inj (hhost.symm.trans hhost')
    exact hzone

/-- A packet with the same fields crosses the same zones. -/
theorem CrossesAt.of_sameFields {dpid port : ℕ} {f f' : Frame} {p p' : Ipv4} {zone dstZone : String}
    (h : CrossesAt D dpid port f p zone dstZone) (hbody : f'.body = .ip p')
    (hsame : SameFields p p') :
    CrossesAt D dpid port f' p' zone dstZone :=
  ⟨hbody, h.zone_eq, h.not_uplink, hsame.dstip ▸ h.dst, h.ne⟩

variable (A T) in
/-- What becomes of a frame that a rule takes where it comes in. -/
inductive Taken (r : Rule) (dpid port : ℕ) (f : Frame) : Prop where
  | relayed {q : ℕ} (hroutes : ¬ r.mod.Routes)
      (hout : r.out D dpid port f = leaving D dpid (if q = port then [] else [q]) f.resent)
      (hcause : isLeafUplink D.maps dpid port = true ∨ ∃ p zone, f.body = .ip p ∧
        zoneOfPort D.maps dpid port = some zone ∧ zoneForIp D.policy (.v4 p.dstip) = some zone)
      (haim : ∀ name ∈ D.net.hosts.keys, f.dst = A.mac name → toward D dpid name = some q)
  | dropped {p : Ipv4} {zone dstZone : String} (hroutes : ¬ r.mod.Routes)
      (hout : r.out D dpid port f = []) (hcrosses : CrossesAt D dpid port f p zone dstZone)
      (hdenied : T → p.header.allowed D.policy = false)
  | up {q : ℕ} {p : Ipv4} {zone dstZone : String} (hroutes : ¬ r.mod.Routes)
      (hout : r.out D dpid port f = leaving D dpid [q] f.resent)
      (hcrosses : CrossesAt D dpid port f p zone dstZone)
      (hq : D.maps.leafUplinkPort.get? dpid = some q)
  | routed {q : ℕ} {p : Ipv4} {zone dstZone name : String} (hroutes : r.mod.Routes)
      (hdpid : dpid = D.maps.coreDpid)
      (hout : r.out D dpid port f = if p.ttl ≤ 1 then [] else leaving D D.maps.coreDpid [q]
        ⟨true, gatewayMac D dstZone, A.mac name, .ip { p with ttl := p.ttl - 1 }⟩)
      (hcrosses : CrossesAt D dpid port f p zone dstZone) (hname : name ∈ D.net.hosts.keys)
      (hip : hostIp D.net name = some p.dstip) (htoward : toward D D.maps.coreDpid name = some q)

/-- **What becomes of a frame that a rule takes.** -/
theorem RuleAimed.taken {r : Rule} (h : RuleAimed A T r.dpid r.mod) {now : ℚ} {d port : ℕ}
    {f : Frame} (htakes : r.Takes now d port f) : Taken A T r d port f := by
  obtain ⟨hdpid, -, hmatches⟩ := htakes
  obtain rfl := hdpid
  cases h with
  | @relay packet port' q hmatch hactions hcause haim =>
    rw [hmatch] at hmatches
    obtain rfl := eq_port_of_matches_fromPacket hmatches
    obtain ⟨-, hdst⟩ := addresses_of_matches hmatches
    refine .relayed (by simp [FlowMod.Routes, hactions]) (out_output hactions f)
      (hcause.imp_right ?_) fun name hname hsame => haim name hname (hdst ▸ hsame)
    rintro ⟨p, zone, hbody, hzone, hinside⟩
    obtain ⟨-, -, -, p', hp', hsame⟩ := (matches_fromPacket_self hbody).mp hmatches
    exact ⟨p', zone, hp', hzone, hsame.dstip ▸ hinside⟩
  | drop hmatch hactions hcrosses hdenied =>
    rw [hmatch] at hmatches
    obtain ⟨rfl, -, -, p', hp', hsame⟩ := (matches_fromPacket_self hcrosses.body).mp hmatches
    refine .dropped (by simp [FlowMod.Routes, hactions]) ?_ (hcrosses.of_sameFields hp' hsame)
      fun htrust => hsame.allowed_eq.trans (hdenied htrust)
    simp [Rule.out, hactions, applied]
  | @up packet port' q p zone dstZone hmatch hactions hcrosses hq =>
    rw [hmatch] at hmatches
    obtain ⟨rfl, -, -, p', hp', hsame⟩ := (matches_fromPacket_self hcrosses.body).mp hmatches
    have hne : q ≠ port := by
      rintro rfl
      have huplink := hcrosses.not_uplink
      simp [isLeafUplink, hq] at huplink
    refine .up (by simp [FlowMod.Routes, hactions]) ?_ (hcrosses.of_sameFields hp' hsame) hq
    rw [out_output hactions, if_neg hne]
  | @route packet port' inPort q p zone dstZone name hcore hmatch hactions hcrosses hname hip
      htoward =>
    rw [hmatch] at hmatches
    obtain ⟨hin, -, -, p', hp', hsame⟩ := (matches_fromPacket_ip hcrosses.body).mp hmatches
    obtain rfl := Option.some.inj (agrees_some.mp hin)
    have hcrosses' := hcrosses.of_sameFields hp' hsame
    obtain ⟨host, hhost, -⟩ := exists_of_hostIp hip
    have hne : q ≠ port := by
      rintro rfl
      have hzone := D.zoneOfPort_toward_core hhost htoward
      rw [zone_of_hostIp hhost hip hcrosses.dst, hcrosses.zone_eq] at hzone
      exact hcrosses.ne (Option.some.inj hzone).symm
    refine .routed (by simp [FlowMod.Routes, hactions]) hcore ?_ (hcore ▸ hcrosses') hname
      (hsame.dstip ▸ hip) htoward
    rw [hcore]
    simp only [Rule.out, hactions, applied, hp']
    split
    · rfl
    · simp only [Frame.leaves, ne_eq, hne, not_false_eq_true, decide_true, List.filter_cons_of_pos,
        List.filter_nil, List.filterMap_cons, List.filterMap_nil, leaving, carry]
      rfl

/-! ## What the controller builds -/

/-- **What the controller builds is from a gateway.** -/
theorem Stepped.src_of_built (hrouter : RouterOk D s) {c : Event} (hstep : Stepped D s c s' log)
    {m : Sent} (hm : m ∈ log) {frame : OutFrame} {port : ℕ}
    (hbuilt : m.message.built? = some (frame, port)) :
    ∃ zone ∈ D.policy.zones.keys, frame.src = gatewayMac D zone := by
  have hprobe : ∀ {ip : IPAddr} {zone : String}, Ipv4Zone D zone → m ∈ probeSent D s ip zone →
      ∃ zone ∈ D.policy.zones.keys, frame.src = gatewayMac D zone := by
    intro ip zone hzone hm
    obtain ⟨-, port, -, rfl⟩ := mem_probeSent.mp hm
    cases hbuilt
    exact ⟨zone, hzone.mem_keys, rfl⟩
  have herror : ∀ {q : QueuedPacket} {type code : ℕ},
      (∀ zone, zoneOfPort D.maps q.dpid q.port = some zone → Ipv4Zone D zone) →
      m ∈ errorSent D s q type code →
      ∃ zone ∈ D.policy.zones.keys, frame.src = gatewayMac D zone := by
    intro q type code hport hm
    obtain ⟨-, zone, hzone, rfl⟩ := mem_errorSent.mp hm
    cases hbuilt
    exact ⟨zone, (hport zone hzone).mem_keys, rfl⟩
  have hforward : ∀ {q : QueuedPacket} {zone : String} {outPort : ℕ} {mac : EthAddr},
      (∀ zone, zoneOfPort D.maps q.dpid q.port = some zone → Ipv4Zone D zone) → Ipv4Zone D zone →
      m ∈ forwardSent D s q zone outPort mac →
      ∃ zone ∈ D.policy.zones.keys, frame.src = gatewayMac D zone := by
    intro q zone outPort mac hport hzone hm
    rcases mem_forwardSent.mp hm with ⟨-, hm⟩ | ⟨-, -, rfl⟩
    · exact herror hport hm
    · cases hbuilt
      exact ⟨zone, hzone.mem_keys, rfl⟩
  have hnone : m.message.built? ≠ none := by simp [hbuilt]
  cases hstep with
  | connectionUp | cancelled | connExpire => cases hm
  | probed _ hentry => exact hprobe (hrouter.entry _ _ hentry).ipv4Zone hm
  | gaveUp _ hentry =>
    obtain ⟨q, hq, hm⟩ := List.mem_flatMap.mp hm
    exact herror ((hrouter.entry _ _ hentry).queue q hq).ipv4Zone hm
  | packetIn hhandled =>
    cases hhandled with
    | ignored | arpReply | ipUnrouted => cases hm
    | transit =>
      split at hm
      · exact absurd (built?_of_mem_floodSent _ hm) hnone
      · exact absurd (built?_of_mem_l2Sent _ hm) hnone
    | other | arpOrdinary => exact absurd (built?_of_mem_floodSent _ hm) hnone
    | ipSameZone => exact absurd (built?_of_mem_l2Sent _ hm) hnone
    | arpRequest hsender =>
      obtain rfl := List.mem_singleton.mp hm
      cases hbuilt
      exact ⟨_, Sender.zone_mem hsender, rfl⟩
    | arpResolve _ _ _ _ hentry =>
      obtain ⟨q, hq, hm⟩ := List.mem_flatMap.mp hm
      have hok := hrouter.entry _ _ hentry
      exact hforward (hok.queue q hq).ipv4Zone hok.ipv4Zone hm
    | ipBlocked =>
      obtain rfl := List.mem_singleton.mp hm
      cases hbuilt
    | @ipForwarded p snd dstZone v loc hsender hbody hgw hdst =>
      rcases List.mem_append.mp hm with hm | hm
      · split at hm
        · exact absurd (built?_of_mem_routeFlowsSent _ hm) hnone
        · cases hm
      · obtain ⟨-, -, -, hport, hvalid⟩ := acceptedSender_eq_some hsender
        refine hforward (fun zone hzone => ?_) (ipv4Zone_of_zoneForIp hdst) hm
        obtain rfl := Option.some.inj (hport.symm.trans hzone)
        exact ipv4Zone_of_sourceIpValid hvalid
    | ipQueued _ _ _ hdst => exact hprobe (ipv4Zone_of_zoneForIp hdst) (mem_queueSent.mp hm).2

/-! ## What holds in every state -/

/-- A frame that left a switch is well formed. -/
theorem parsed_of_mem_filterMap {ds : List Departure} {x : InFlight}
    (hx : x ∈ ds.filterMap (carry D)) : x.frame.parsed = true := by
  obtain ⟨d, -, hd⟩ := List.mem_filterMap.mp hx
  obtain ⟨e, -, rfl⟩ := Option.map_eq_some_iff.mp hd
  rfl

theorem Told.parsed_of_mem_out {t : Told} {x : InFlight} (hx : x ∈ t.out D) :
    x.frame.parsed = true := by
  unfold Told.out at hx
  split at hx <;> exact parsed_of_mem_filterMap hx

variable (A T) in
/-- What holds in every state of the network, while hosts and a trusted daemon are fair. -/
structure SiteAimed (w : Site) : Prop where
  located : SiteLocated A w
  wires : ∀ x ∈ w.wires, x.frame.parsed = true
  asks : ∀ a ∈ w.asks, a.frame.parsed = true
  rules : ∀ r ∈ w.rules, RuleAimed A T r.dpid r.mod
  tells : ∀ t ∈ w.tells, ∀ mod, t.sent.message = .flowMod mod → RuleAimed A T t.sent.dpid mod

variable (A T) in
/-- Hosts send well-formed frames in their own name, and a trusted daemon answers as the policy
says. -/
structure SiteEvent.Fair (w : Site) (e : SiteEvent) : Prop where
  honest : e.Honest A
  parsed : ∀ name f, e = .sends name f → f.parsed = true
  daemon : T → ∀ ev, w.heard e = some (.packetIn ev) → ev.Honest D.policy

variable {w w' : Site} {e : SiteEvent} {out : List Report}

namespace SiteAimed

/-- The rules that the controller sends at an event lead where they should. -/
theorem aimed_of_mem (h : SiteAimed A T w) {c : Event}
    (hplaced : ∀ ev, c = .packetIn ev →
      Placed A w.router ⟨.switch ev.dpid ev.port, ev.packet⟩ ∧ (T → ev.Honest D.policy))
    {dpid : ℕ} {mod : FlowMod} (hm : ⟨dpid, .flowMod mod⟩ ∈ (step D w.router c).2) :
    RuleAimed A T dpid mod := by
  obtain ⟨ev, rfl, hhandled⟩ :=
    (step_stepped h.located.router c).packetIn_of_flowMod hm
  obtain ⟨hev, hdaemon⟩ := hplaced ev rfl
  exact hhandled.aimed h.located.router h.located.located hev hdaemon hm

/-- **Every step of the network keeps the rules aimed.** -/
theorem moved (h : SiteAimed A T w) (hfair : e.Fair A T w) (hmoved : Moved D w e w' out) :
    SiteAimed A T w' where
  located := h.located.moved hfair.honest hmoved
  wires := hmoved.forall_wires h.wires
    (fun name frame _ _ hsends _ => hfair.parsed name frame hsends)
    (fun _ _ _ _ _ _ _ _ _ hx => parsed_of_mem_filterMap hx) fun _ _ _ => Told.parsed_of_mem_out
  asks := hmoved.forall_asks (Q := fun x => x.frame.parsed = true) h.wires h.asks
  rules := hmoved.forall_rules h.rules h.tells
  tells := hmoved.forall_tells h.tells fun c _ hheard _ m hm mod hmod => by
    obtain ⟨dpid, message⟩ := m
    obtain rfl := hmod
    refine h.aimed_of_mem (fun ev hev => ?_) hm
    subst hev
    exact ⟨h.located.asks _ (Site.mem_asks_of_heard hheard),
      fun htrust => hfair.daemon htrust ev hheard⟩

/-- A rule that takes a frame on a cable does with it what it should. -/
theorem taken (h : SiteAimed A T w) {now : ℚ} {d port : ℕ} {f : Frame} {r : Rule}
    (hlookup : lookup w.rules now d port f = some r) : Taken A T r d port f := by
  obtain ⟨hr, htakes⟩ := lookup_eq_some hlookup
  exact (h.rules r hr).taken htakes

end SiteAimed

end ZoneSegmentation
