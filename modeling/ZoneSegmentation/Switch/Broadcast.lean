import ZoneSegmentation.Switch.Copies

/-!
# Broadcasts

The controller floods a frame at a leaf out of all ports, and at the core out of the ports of the
frame's zone. As the switches are joined like a tree, every other host of the zone is ahead of
exactly one copy at a time. So each of them receives the frame exactly once, whatever else is under
way, and no host of another zone receives it.

## Main definitions

* `Reaches`: a frame at the end of a cable is to reach a host
* `FloodedIn`: the frames that are flooded in a zone

## Main results

* `countP_flood`: a flood goes on toward each host of its zone in one copy
* `flooded_once`: every other host of the sender's zone receives a flooded frame exactly once, and
  no host of another zone receives it
* `probe_reaches_zone`: every host of a zone receives a probe exactly once
-/

namespace ZoneSegmentation

open HostTree (End)

variable {D : Deployment} {s : ZoneRouter}

/-! ## One flood -/

variable (D) in
/-- A frame at the end of a cable is to reach a host: it has come to the host, or to a port of its
zone and has it ahead. -/
def Reaches (g : String) : End ℕ ℕ String → Prop
  | .host name => name = g
  | .switch dpid port => (∃ zone, hostZone D.net g = some zone ∧
      zoneOfPort D.maps dpid port = some zone) ∧ toward D dpid g ≠ some port

instance (g : String) : DecidablePred (Reaches D g)
  | .host name => inferInstanceAs (Decidable (name = g))
  | .switch dpid port =>
    match hzone : hostZone D.net g with
    | none => .isFalse fun h => by simp [Reaches, hzone] at h
    | some zone => decidable_of_iff (zoneOfPort D.maps dpid port = some zone ∧
        toward D dpid g ≠ some port) (by simp [Reaches, hzone])

section

variable {g : String} {h : Host ℕ} {dpid port q : ℕ}

theorem reaches_switch (hg : D.net.hosts.get? g = some h) : Reaches D g (.switch dpid port) ↔
    zoneOfPort D.maps dpid port = some h.zone ∧ toward D dpid g ≠ some port := by
  simp [Reaches, hostZone, hg]

theorem exists_seat (hg : D.net.hosts.get? g = some h) : ∃ place, seat D.net g = some place := by
  obtain ⟨-, s, hs, -⟩ := D.networkOk.hosts g h hg
  exact ⟨_, D.seat_eq_some.mpr ⟨h, s, hg, hs, rfl, rfl⟩⟩

/-- A switch with a port of a host's zone has a port toward the host. -/
theorem exists_toward (hg : D.net.hosts.get? g = some h)
    (hzone : zoneOfPort D.maps dpid port = some h.zone) : ∃ q, toward D dpid g = some q := by
  obtain ⟨⟨home, seatPort⟩, hseat⟩ := exists_seat hg
  obtain ⟨h', -, hseatZone, -⟩ := D.zoneOfPort_seat hseat
  by_cases hhome : dpid = home
  · subst hhome
    exact ⟨seatPort, D.toward_seat hseat⟩
  · by_cases hcore : dpid = D.maps.coreDpid
    · subst hcore
      obtain ⟨u, hup⟩ := D.exists_leafUplinkPort hseatZone (Ne.symm hhome)
      obtain ⟨c, hc⟩ := D.exists_leafCorePort hup
      exact ⟨c, (D.toward_core hseat (Ne.symm hhome)).trans hc⟩
    · obtain ⟨u, hup⟩ := D.exists_leafUplinkPort hzone hcore
      exact ⟨u, (D.toward_leaf hseat hhome hcore).trans hup⟩

theorem nodup_floodTargets : (floodTargets D dpid port).Nodup := by
  unfold floodTargets
  split
  · apply List.Nodup.filter
    rw [zoneCorePorts_eq]
    exact D.maps.corePortZones.nodup.sublist (List.filter_sublist.map _)
  · exact (D.networkOk.nodup_wiredPorts dpid).filter _

/-- The port toward a host of the zone is flooded to, unless it is the one the frame came in by. -/
theorem toward_mem_floodTargets (hg : D.net.hosts.get? g = some h)
    (hzone : zoneOfPort D.maps dpid port = some h.zone) (htoward : toward D dpid g = some q) :
    q ∈ floodTargets D dpid port ↔ q ≠ port := by
  unfold floodTargets
  split
  · rename_i hcore
    subst hcore
    have hq : q ∈ zoneCorePorts D.maps (D.maps.corePortZones.get? port).join := by
      have hqzone := D.zoneOfPort_toward_core hg htoward
      rw [zoneOfPort, if_pos rfl] at hzone hqzone
      rw [hzone]
      exact mem_zoneCorePorts.mpr (Option.join_eq_some_iff.mp hqzone)
    simp [hq]
  · obtain ⟨e, hfar, -⟩ := D.farEnd_toward htoward
    have hq : q ∈ wiredPorts D.net dpid :=
      D.networkOk.mem_wiredPorts.mpr (Option.isSome_iff_exists.mpr ⟨e, hfar⟩)
    simp [floodPorts, hq]

/-- **A flood goes on toward each host of its zone in one copy**, and toward no other: exactly if
the frame it is a flood of was to reach the host. -/
theorem countP_flood (hg : D.net.hosts.get? g = some h) (dpid port : ℕ) :
    ((floodTargets D dpid port).filterMap (farEnd D.net dpid)).countP (fun e => Reaches D g e) =
      if Reaches D g (.switch dpid port) then 1 else 0 := by
  simp only [reaches_switch hg]
  by_cases hzone : zoneOfPort D.maps dpid port = some h.zone
  · obtain ⟨q, htoward⟩ := exists_toward hg hzone
    obtain ⟨e, hfar, -⟩ := D.farEnd_toward htoward
    have hcount := D.cables.countP_ahead_flood (s := dpid) (q := q) nodup_floodTargets
      (Option.isSome_iff_exists.mpr ⟨e, hfar⟩) (fun e => Reaches D g e) (by
        intro o ho e hfar
        rw [decide_eq_true_eq, ← D.ahead_iff_toward hfar htoward]
        cases e with
        | host name => rfl
        | switch d' p' =>
          rw [reaches_switch hg, D.zoneOfPort_farEnd hfar, zoneOfPort_of_mem_floodTargets ho]
          exact and_iff_right hzone)
    show ((floodTargets D dpid port).filterMap (D.cables.far dpid)).countP _ = _
    rw [hcount]
    simp only [toward_mem_floodTargets hg hzone htoward, hzone, htoward, true_and, ne_eq,
      Option.some.injEq]
  · rw [if_neg fun hreach => hzone hreach.1, List.countP_eq_zero]
    intro e he
    obtain ⟨o, ho, hfar⟩ := List.mem_filterMap.mp he
    have hother : zoneOfPort D.maps dpid o ≠ some h.zone := by
      rwa [zoneOfPort_of_mem_floodTargets ho]
    rw [decide_eq_true_eq]
    intro hreach
    cases e with
    | host name =>
      obtain rfl : name = g := hreach
      obtain ⟨h', hg', hseatZone, -⟩ := D.zoneOfPort_seat (D.farEnd_eq_host.mp hfar)
      obtain rfl := Option.some.inj (hg.symm.trans hg')
      exact hother hseatZone
    | switch d' p' =>
      rw [reaches_switch hg, D.zoneOfPort_farEnd hfar] at hreach
      exact hother hreach.1

end

/-! ## Frames that are flooded -/

variable (D) in
/-- A frame that is flooded in a zone wherever it comes in there: a multicast frame with an ARP
packet of a host of the zone that is not for a gateway, or with neither ARP nor IP. -/
structure FloodedIn (zone : String) (f : Frame) : Prop where
  parsed : f.parsed = true
  multicast : isMulticast f.dst = true
  body : (∃ a, f.body = .arp a ∧ sourceIpValidForZone D.policy (.v4 a.protosrc) zone = true ∧
      ¬ ((a.opcode = arpRequest ∨ a.opcode = arpReply) ∧ isGateway D a.protodst = true)) ∨
    ∃ type, f.body = .other type ∧ type ∉ [0x0800, 0x0806, 0x88cc]

namespace FloodedIn

variable {zone : String} {f f' : Frame}

theorem spared (hf : FloodedIn D zone f) : f.Spared := by
  refine ⟨hf.multicast, ?_⟩
  rcases hf.body with ⟨a, hbody, -⟩ | ⟨type, hbody, htype⟩
  · simp [hbody, Body.type]
  · rw [hbody]
    exact fun h => htype (h ▸ List.mem_cons_self)

/-- The frame arrives as it was sent on, and no other frame does. -/
theorem resent_eq_iff (hf : FloodedIn D zone f) (hparsed : f'.parsed = true) :
    f'.resent = f ↔ f' = f := by
  refine ZoneSegmentation.resent_eq_iff hf.parsed hparsed ?_
  rcases hf.body with ⟨a, hbody, -⟩ | ⟨type, hbody, htype⟩
  · simp [hbody, Body.type]
  · rw [hbody]
    exact fun h => htype (by simp [show type = 0x88cc from h])

/-- The controller builds no such frame. -/
theorem ne_of_own (hf : FloodedIn D zone f) {frame : OutFrame} (hown : frame.Own D) :
    frame.sent ≠ f := by
  rintro rfl
  obtain ⟨src, dst, content⟩ := frame
  cases content with
  | arp a =>
    rcases hf.body with ⟨a', hbody, hvalid, -⟩ | ⟨type, hbody, -⟩
    · obtain rfl := Body.arp.inj hbody
      rw [not_valid_of_isGateway hown] at hvalid
      cases hvalid
    · cases hbody
  | ip p | icmpError p =>
    rcases hf.body with ⟨a, hbody, -⟩ | ⟨type, hbody, -⟩
    · cases hbody
    · cases hbody

/-- **A flooded frame is flooded**, wherever in its zone it comes in. -/
theorem log_eq (hf : FloodedIn D zone f) {ev : PacketIn} (hev : ev.packet = f)
    (hzone : zoneOfPort D.maps ev.dpid ev.port = some zone) :
    (step D s (.packetIn ev)).2 = floodSent D ev := by
  have hparsed : ev.packet.parsed = true := hev ▸ hf.parsed
  cases huplink : isLeafUplink D.maps ev.dpid ev.port with
  | true =>
    have hlldp : ev.packet.body ≠ .lldp := by
      rw [hev]
      rcases hf.body with ⟨a, hbody, -⟩ | ⟨type, hbody, -⟩ <;> simp [hbody]
    rw [step_of_uplink hparsed hlldp huplink, if_pos (hev ▸ hf.multicast)]
  | false =>
    rcases hf.body with ⟨a, hbody, hvalid, hordinary⟩ | ⟨type, hbody, -⟩
    · show ((handlePacketIn D ev).run s).log = floodSent D ev
      have hrequest : ¬ (a.opcode = arpRequest ∧ isGateway D a.protodst = true) :=
        fun h => hordinary ⟨.inl h.1, h.2⟩
      have hreply : ¬ (a.opcode = arpReply ∧ isGateway D a.protodst = true) :=
        fun h => hordinary ⟨.inr h.1, h.2⟩
      unfold handlePacketIn
      simp only [hparsed, hev ▸ hbody, huplink, handleArp, hzone, hvalid, Bool.not_true,
        Bool.false_eq_true, reduceCtorEq, if_false, if_neg hrequest, if_neg hreply]
      rw [Proc.run_bind_of_ok (run_learn ev.dpid ev.port ⟨a.protosrc, a.hwsrc, zone⟩),
        Proc.after_nil, run_floodInZone]
    · rw [step_of_other hparsed (hev ▸ hbody) huplink]

end FloodedIn

/-! ## Floods in a zone -/

section

variable {K : End ℕ ℕ String → Prop} [DecidablePred K] {f : Frame}

/-- What a packet-in sends on, when it is followed. -/
theorem countP_relayed {ev : PacketIn} {log : List Sent} (hlog : log = floodSent D ev) :
    ((log.filter fun m => m.message.built?.isNone).flatMap fun m =>
        (⟨some ev.port, m⟩ : Told).out D).countP (isCopy K f) =
      if ev.packet.resent = f then ((floodTargets D ev.dpid ev.port).filterMap
        (farEnd D.net ev.dpid)).countP (fun e => K e) else 0 := by
  have hall : (floodSent D ev).filter (fun m => m.message.built?.isNone) = floodSent D ev :=
    List.filter_eq_self.mpr fun m hm => by simp [built?_of_mem_floodSent m hm]
  rw [hlog, hall, out_floodSent, countP_leaving]

/-- A multicast frame without IP is sent on by a flood, or not at all. -/
theorem relayed_eq_zero_or (hs : RouterOk D s) (hf : f.Spared) (ev : PacketIn) :
    ev.packet.parsed = true ∧ (step D s (.packetIn ev)).2 = floodSent D ev ∨
      (((step D s (.packetIn ev)).2.filter fun m => m.message.built?.isNone).flatMap fun m =>
        (⟨some ev.port, m⟩ : Told).out D).countP (isCopy K f) = 0 := by
  cases hparsed : ev.packet.parsed with
  | false =>
    have hlog : (step D s (.packetIn ev)).2 = [] := by
      show ((handlePacketIn D ev).run s).log = []
      unfold handlePacketIn
      simp only [hparsed, Bool.not_false, if_true]
      rfl
    rw [hlog]
    exact .inr rfl
  | true =>
    obtain ⟨s', log, hrun, hhandled⟩ := handlePacketIn_handled hs.entry ev
    have hstep : (step D s (.packetIn ev)).2 = log := congrArg (fun r => r.log) hrun
    rw [hstep]
    rcases hhandled.log_cases with hflood | ⟨port, rfl, hcause⟩ | hquiet
    · exact .inl ⟨rfl, hflood⟩
    · refine .inr (countP_isCopy_eq_zero fun x hx => ?_)
      obtain ⟨q, -, hx⟩ := hhandled.exists_port_of_relayed hx
      obtain ⟨-, -, -, hframe⟩ := mem_leaving.mp hx
      rw [hframe]
      rintro rfl
      rcases hcause with hunicast | ⟨p, hbody⟩
      · exact absurd (hf.1.symm.trans hunicast) nofun
      · apply hf.2
        show (parseContent ev.packet.body.content).type = _
        rw [type_parseContent, hbody]
        rfl
    · rw [flatMap_out_eq_nil hquiet]
      exact .inr rfl

end

/-- **A frame that is flooded in a zone is on its way to each host of the zone in one copy**, and to
a host of another zone in none, unless it has come in there. -/
theorem FloodedIn.spreads {zone g : String} {h : Host ℕ} {f : Frame}
    (hg : D.net.hosts.get? g = some h) (hf : FloodedIn D zone f) {w : Site} (hw : SiteOk D w)
    (hzone : h.zone = zone ∨ copies D (Reaches D g) f w = 0) : Spreads D (Reaches D g) f w :=
  hw.spreads hf.spared <| by
    intro ev hask
    by_cases hcopy : ev.packet = f ∧ Reaches D g (.switch ev.dpid ev.port)
    · rcases hzone with rfl | hnone
      · obtain ⟨hev, hreach⟩ := hcopy
        rw [countP_relayed (hf.log_eq hev ((reaches_switch hg).mp hreach).1), countP_flood hg,
          if_pos hreach, if_pos ((hf.resent_eq_iff (hev ▸ hf.parsed)).mpr hev),
          if_pos (isCopy_iff.mpr ⟨hev, hreach⟩)]
      · exact absurd (isCopy_iff.mpr hcopy) (not_isCopy_of_copies hnone hask)
    · rw [if_neg fun h => hcopy (isCopy_iff.mp h)]
      rcases relayed_eq_zero_or (K := Reaches D g) hw.router hf.spared ev with
        ⟨hparsed, hlog⟩ | hzero
      · rw [countP_relayed hlog, countP_flood hg]
        split
        · rename_i hresent
          rw [if_neg fun hreach => hcopy ⟨(hf.resent_eq_iff hparsed).mp hresent, hreach⟩]
        · rfl
      · exact hzero

variable (D) in
/-- A host sends a frame to another host of its zone. -/
def SiteEvent.isSend (g : String) (f : Frame) : SiteEvent → Bool
  | .sends name frame => frame = f ∧ name ≠ g ∧ hostZone D.net name = hostZone D.net g
  | _ => false

/-- A host's frame reaches the other hosts of its zone. -/
theorem reaches_seat {g name : String} {d p : ℕ} (hseat : seat D.net name = some (d, p)) :
    Reaches D g (.switch d p) ↔
      name ≠ g ∧ hostZone D.net name = hostZone D.net g := by
  obtain ⟨h, hhost, hzone, -⟩ := D.zoneOfPort_seat hseat
  simp only [Reaches, hostZone, hhost, Option.map_some, hzone]
  constructor
  · rintro ⟨⟨zone, hg, hsame⟩, htoward⟩
    refine ⟨?_, by rw [hg, hsame]⟩
    rintro rfl
    exact htoward (D.toward_seat hseat)
  · rintro ⟨hne, hsame⟩
    refine ⟨⟨h.zone, hsame.symm, rfl⟩, fun htoward => hne ?_⟩
    exact D.cables.eq_of_far_host (D.farEnd_eq_host.mpr hseat) htoward

/-- What comes into the network that is to reach a host, when the controller builds no such frame:
what the other hosts of the zone send. -/
theorem countP_entering {zone g : String} {h : Host ℕ} {f : Frame}
    (hg : D.net.hosts.get? g = some h) (hf : FloodedIn D zone f) {w : Site} (hw : SiteOk D w)
    (e : SiteEvent) : (w.entering D e).countP (isCopy (Reaches D g) f) =
      if SiteEvent.isSend D g f e then 1 else 0 := by
  have hbuilt : ((w.said D e).flatMap (Sent.makes D)).countP (isCopy (Reaches D g) f) = 0 :=
    countP_makes_eq_zero fun c m hm b hb =>
      hf.ne_of_own ((step_stepped hw.router c).own hw.router hm hb)
  have hroutes : (w.routes D e).countP (isCopy (Reaches D g) f) = 0 :=
    countP_isCopy_eq_zero fun x hx => hw.ne_of_mem_routes hf.spared hx
  rw [Site.entering, List.countP_append, List.countP_append, hbuilt, hroutes, Nat.add_zero]
  cases e with
  | sends name frame =>
    cases hseat : seat D.net name with
    | none =>
      have hother : hostZone D.net name ≠ hostZone D.net g := by
        intro hsame
        obtain ⟨h', hhost, -⟩ := Option.map_eq_some_iff.mp
          (hsame.trans (congrArg (Option.map Host.zone) hg))
        obtain ⟨place, hplace⟩ := exists_seat hhost
        rw [hseat] at hplace
        cases hplace
      simp [SiteEvent.sent, hseat, SiteEvent.isSend, hother]
    | some place =>
      obtain ⟨d, p⟩ := place
      simp [SiteEvent.sent, hseat, SiteEvent.isSend, List.countP_singleton, isCopy,
        reaches_seat hseat]
  | _ => rfl

/-- **A flooded frame is received exactly once by every other host of its zone, and by no host of
another.** In every run of the network, whatever else is sent and in whatever order it arrives: as
often as other hosts of the zone sent the frame, a host of the zone has received it, or a cable or a
switch has lost a copy on the way to it, or a copy is under way to it. For a host of another zone
all this is zero, as long as no host there has sent the frame itself. -/
theorem flooded_once (D : Deployment) (fwClient : Bool) (es : List SiteEvent) {zone g : String}
    {h : Host ℕ} {f : Frame} (hg : D.net.hosts.get? g = some h) (hf : FloodedIn D zone f)
    (hsent : h.zone ≠ zone → ∀ name, .sends name f ∈ es → hostZone D.net name ≠ some h.zone) :
    (reports D fwClient es).count (.received g f) +
        ((reports D fwClient es).filterMap Report.lost?).countP (isCopy (Reaches D g) f) +
        copies D (Reaches D g) f (siteAfter D fwClient es) =
      if h.zone = zone then es.countP (SiteEvent.isSend D g f) else 0 := by
  have hother : h.zone ≠ zone → ∀ e ∈ es, SiteEvent.isSend D g f e = false := by
    intro hne e he
    cases e with
    | sends name frame =>
      simp only [SiteEvent.isSend, decide_eq_false_iff_not]
      rintro ⟨rfl, -, hsame⟩
      exact hsent hne name he (by rw [hsame, hostZone, hg, Option.map_some])
    | _ => rfl
  have hstep : ∀ w e, SiteOk D w → (w.entering D e).countP (isCopy (Reaches D g) f) =
      [e].countP (SiteEvent.isSend D g f) := fun w e hw =>
    (countP_entering hg hf hw e).trans (List.countP_singleton ..).symm
  -- in another zone there never is a copy
  have hkeep : ∀ w, ∀ e ∈ es, SiteOk D w ∧ (h.zone = zone ∨ copies D (Reaches D g) f w = 0) →
      SiteOk D (w.step D e).1 ∧
        (h.zone = zone ∨ copies D (Reaches D g) f (w.step D e).1 = 0) := by
    intro w e he ⟨hw, hcopies⟩
    refine ⟨hw.moved (w.step_moved e), or_iff_not_imp_left.mpr fun hne => ?_⟩
    have hmoved := (hf.spreads hg hw hcopies).copies_moved (w.step_moved e)
    rw [hstep w e hw, List.countP_singleton, hother hne e he, hcopies.resolve_left hne] at hmoved
    exact (Nat.add_eq_zero_iff.mp hmoved).1
  have hcopies : copies D (Reaches D g) f (siteAfter D fwClient es) +
      (reports D fwClient es).countP (Report.isCopy (Reaches D g) f) =
        (Run.observed (Site.step D) (Site.entering D) (.init fwClient) es).countP
          (isCopy (Reaches D g) f) :=
    Spreads.copies_final ⟨siteOk_init fwClient, .inr rfl⟩ hkeep fun w hw =>
      hf.spreads hg hw.1 hw.2
  have hentering : (Run.observed (Site.step D) (Site.entering D) (.init fwClient) es).countP
      (isCopy (Reaches D g) f) =
        (Run.observed (Site.step D) (fun _ e => [e]) (.init fwClient) es).countP
          (SiteEvent.isSend D g f) :=
    Run.countP_observed_congr (siteOk_init (D := D) fwClient)
      (fun w e h => h.moved (w.step_moved e)) hstep es
  rw [hentering, Run.observed_singleton, countP_report fun _ => Iff.rfl] at hcopies
  have hcount : es.countP (SiteEvent.isSend D g f) =
      if h.zone = zone then es.countP (SiteEvent.isSend D g f) else 0 := by
    split
    · rfl
    · rename_i hne
      exact List.countP_eq_zero.mpr fun e he => Bool.eq_false_iff.mp (hother hne e he)
  omega

/-- A host asks for the address of another one of its zone. -/
def neighbourRequest : Frame :=
  ⟨true, h101.mac, etherBroadcast, .arp ⟨arpRequest, h101.mac, etherBroadcast, h101.ip, h103.ip⟩⟩

/-- The request comes up from the host's leaf, through the core, and down to another leaf; each of
the switches asks the controller. -/
def neighbourRequested : List SiteEvent :=
  [.connects 1, .connects 2, .connects 6, .sends "h101" neighbourRequest,
    .arrives 0 0, .asked 0 none 0, .told 0 0,
    .arrives 1 0, .asked 0 none 0, .told 0 0,
    .arrives 1 0, .asked 0 none 0, .told 0 0, .arrives 1 0]

theorem floodedIn_neighbourRequest : FloodedIn deployment "DeptA" neighbourRequest :=
  ⟨rfl, by decide +kernel, .inl ⟨_, rfl, by decide +kernel, by decide +kernel⟩⟩

/-- The neighbour receives it once. Of another department's host nothing is on the way to it. -/
theorem flooded_once_h103 :
    ((reports deployment false neighbourRequested).count (.received "h103" neighbourRequest) = 1 ∧
      (reports deployment false neighbourRequested).count (.received "h103" neighbourRequest) +
        ((reports deployment false neighbourRequested).filterMap Report.lost?).countP
          (isCopy (Reaches deployment "h103") neighbourRequest) +
        copies deployment (Reaches deployment "h103") neighbourRequest
          (siteAfter deployment false neighbourRequested) =
      neighbourRequested.countP (SiteEvent.isSend deployment "h103" neighbourRequest)) ∧
    (reports deployment false neighbourRequested).count (.received "h201" neighbourRequest) +
        ((reports deployment false neighbourRequested).filterMap Report.lost?).countP
          (isCopy (Reaches deployment "h201") neighbourRequest) +
        copies deployment (Reaches deployment "h201") neighbourRequest
          (siteAfter deployment false neighbourRequested) = 0 := by
  refine ⟨⟨by decide +kernel, ?_⟩, ?_⟩
  · exact flooded_once deployment false neighbourRequested (g := "h103") (h := ⟨_, _, _, _, _⟩) rfl
      floodedIn_neighbourRequest (absurd rfl)
  · refine flooded_once deployment false neighbourRequested (g := "h201") (h := ⟨_, _, _, _, _⟩) rfl
      floodedIn_neighbourRequest fun _ name hsends => ?_
    simp only [neighbourRequested, List.mem_cons, SiteEvent.sends.injEq, reduceCtorEq,
      List.not_mem_nil, false_or, or_false] at hsends
    rw [hsends.1]
    decide +kernel

/-! ## Probes -/

/-- A probe as it is parsed where it arrives. -/
def probe (D : Deployment) (ip : IPAddr) (zone : String) : Frame := (probeFrame D ip zone).sent

section

variable {g : String} {h : Host ℕ} {ip : IPAddr} {zone : String}

theorem spared_probe : (probe D ip zone).Spared := by
  constructor
  · show isMulticast etherBroadcast = true
    decide
  · show (0x0806 : ℕ) ≠ 0x0800
    decide

/-- A probe arrives as it was sent on, and no other frame does. -/
theorem resent_eq_probe {f : Frame} (hparsed : f.parsed = true) :
    f.resent = probe D ip zone ↔ f = probe D ip zone :=
  resent_eq_iff rfl hparsed (show (0x0806 : ℕ) ≠ 0x88cc by decide)

/-- A probe of a zone of IPv4 addresses is ignored at a host's port: it is from a gateway. -/
theorem log_probe (hzone : Ipv4Zone D zone) {ev : PacketIn} (hev : ev.packet = probe D ip zone)
    (hhost : isLeafUplink D.maps ev.dpid ev.port = false) (hs : RouterOk D s) :
    (step D s (.packetIn ev)).2 = [] := by
  have hsender : acceptedSender D ev = none := by
    cases hsender : acceptedSender D ev with
    | none => rfl
    | some snd =>
      obtain ⟨-, -, hclaim, -, hvalid⟩ := acceptedSender_eq_some hsender
      rw [hev] at hclaim
      obtain ⟨hip, -⟩ := Prod.mk.inj (Option.some.inj hclaim)
      rw [← hip, not_valid_of_isGateway hzone.isGateway] at hvalid
      cases hvalid
  obtain ⟨s', log, hrun, hhandled⟩ := handlePacketIn_handled hs.entry ev
  have hstep : (step D s (.packetIn ev)).2 = log := congrArg (fun r => r.log) hrun
  rw [hstep]
  cases hhandled with
  | ignored | arpReply | ipUnrouted => rfl
  | transit huplink =>
    rw [hhost] at huplink
    cases huplink
  | other _ hclaim =>
    rw [hev] at hclaim
    cases hclaim
  | arpRequest h | arpResolve h | arpOrdinary h | ipSameZone h
  | ipBlocked h | ipForwarded h | ipQueued h =>
    rw [hsender] at h
    cases h

/-- At its host's leaf a probe that came down the uplink goes on to the host, and to no other that
counts. -/
theorem countP_probe_flood {dpid port : ℕ} (hg : D.net.hosts.get? g = some h)
    (huplink : isLeafUplink D.maps dpid port = true) :
    ((floodTargets D dpid port).filterMap (farEnd D.net dpid)).countP (fun e => DownTo D g e) =
      if DownTo D g (.switch dpid port) then 1 else 0 := by
  have hleaf := D.ne_core_of_isLeafUplink huplink
  have hswitch : ∀ {p d' p' : ℕ}, farEnd D.net dpid p = some (.switch d' p') →
      ¬ DownTo D g (.switch d' p') := by
    rintro p d' p' hfar ⟨hup, -⟩
    rcases D.farEnd_eq_switch.mp hfar with ⟨rfl, -⟩ | ⟨hcore, -⟩
    · exact D.ne_core_of_isLeafUplink hup rfl
    · exact hleaf hcore
  obtain ⟨⟨home, q⟩, hseat⟩ := exists_seat hg
  have hhost : ∀ {p name}, farEnd D.net dpid p = some (.host name) →
      (DownTo D g (.host name) ↔ home = dpid ∧ q = p) := by
    intro p name hfar
    constructor
    · rintro rfl
      have hat := D.farEnd_eq_host.mp hfar
      rw [hseat] at hat
      exact Prod.mk.inj (Option.some.inj hat)
    · rintro ⟨rfl, rfl⟩
      have hname := hfar.symm.trans (D.farEnd_eq_host.mpr hseat)
      exact HostTree.End.host.inj (Option.some.inj hname)
  by_cases hhome : home = dpid
  · subst hhome
    obtain ⟨-, -, -, hseatUplink⟩ := D.zoneOfPort_seat hseat
    have hwired : farEnd D.net home q = some (.host g) := D.farEnd_eq_host.mpr hseat
    have hq : q ∈ floodTargets D home port := by
      have hne : q ≠ port := by
        rintro rfl
        rw [huplink] at hseatUplink
        cases hseatUplink
      have hmem : q ∈ wiredPorts D.net home := D.networkOk.mem_wiredPorts.mpr (by simp [hwired])
      rw [floodTargets, if_neg hleaf]
      simp [floodPorts, hmem, hne]
    have hnodup : (floodTargets D home port).Nodup := nodup_floodTargets
    have hcount := D.cables.countP_ahead_flood hnodup (Option.isSome_of_eq_some hwired)
      (fun e => DownTo D g e) (by
        intro p _ e hfar
        rw [decide_eq_true_eq]
        cases e with
        | host name => exact (hhost hfar).trans (and_iff_right rfl)
        | switch d' p' =>
          refine iff_of_false (hswitch hfar) ?_
          rintro rfl
          cases hwired.symm.trans hfar)
    show ((floodTargets D home port).filterMap (D.cables.far home)).countP _ = _
    rw [hcount, if_pos hq, if_pos ⟨huplink, by simp [hseat]⟩]
  · have hother : ¬ DownTo D g (.switch dpid port) := by
      rintro ⟨-, hsame⟩
      rw [hseat] at hsame
      exact hhome (Option.some.inj hsame)
    rw [if_neg hother, List.countP_eq_zero]
    intro e he
    obtain ⟨p, -, hfar⟩ := List.mem_filterMap.mp he
    rw [decide_eq_true_eq]
    cases e with
    | host name => exact fun hdown => hhome ((hhost hfar).mp hdown).1
    | switch d' p' => exact hswitch hfar

/-- **A probe is on its way to each host of its zone in one copy.** -/
theorem spreads_probe (hg : D.net.hosts.get? g = some h) (hzone : Ipv4Zone D zone) {w : Site}
    (hw : SiteOk D w) : Spreads D (DownTo D g) (probe D ip zone) w :=
  hw.spreads spared_probe <| by
    intro ev _
    by_cases hev : ev.packet = probe D ip zone
    · cases huplink : isLeafUplink D.maps ev.dpid ev.port with
      | false =>
        rw [log_probe hzone hev huplink hw.router, if_neg fun hcopy => ?_]
        · rfl
        · have hdown := (isCopy_iff.mp hcopy).2.1
          rw [huplink] at hdown
          cases hdown
      | true =>
        have hlog : (step D w.router (.packetIn ev)).2 = floodSent D ev := by
          have hlldp : ev.packet.body ≠ .lldp := by rw [hev]; exact nofun
          rw [step_of_uplink (by rw [hev]; rfl) hlldp huplink, if_pos (hev ▸ spared_probe.1)]
        rw [countP_relayed hlog, hev, if_pos ((resent_eq_probe rfl).mpr rfl),
          countP_probe_flood hg huplink]
        simp only [isCopy_iff, true_and]
    · rw [if_neg fun hcopy => hev (isCopy_iff.mp hcopy).1]
      rcases relayed_eq_zero_or (K := DownTo D g) hw.router spared_probe ev with
        ⟨hparsed, hlog⟩ | hzero
      · rw [countP_relayed hlog, if_neg fun hresent => hev ((resent_eq_probe hparsed).mp hresent)]
      · exact hzero

/-- Only probes are sent to the core as ARP requests. -/
theorem dpid_of_probe? (hs : RouterOk D s) {c : Event} {m : Sent} (hm : m ∈ (step D s c).2)
    (hprobe : m.message.probe? ≠ none) : m.dpid = D.maps.coreDpid := by
  have hcore : ∀ {ip zone}, m ∈ probeSent D s ip zone → m.dpid = D.maps.coreDpid := by
    intro ip zone hm
    obtain ⟨-, port, -, rfl⟩ := mem_probeSent.mp hm
    rfl
  cases step_queues hs c with
  | idle _ _ _ _ _ hnone => exact absurd (hnone m hm) hprobe
  | direct _ _ _ _ _ _ hflows hlog =>
    rcases List.mem_append.mp (hlog ▸ hm) with hm | hm
    · exact absurd (probe?_of_built? (hflows m hm)) hprobe
    · exact absurd (probe?_of_mem_forwardSent m hm) hprobe
  | queued _ _ _ _ _ hlog => exact hcore (mem_queueSent.mp (hlog ▸ hm)).2
  | released _ _ _ _ _ hlog =>
    obtain ⟨q, -, hm⟩ := List.mem_flatMap.mp (hlog ▸ hm)
    exact absurd (probe?_of_mem_forwardSent m hm) hprobe
  | probed _ _ _ _ _ _ _ hlog => exact hcore (hlog ▸ hm)
  | gaveUp _ _ _ _ _ _ _ hlog =>
    obtain ⟨q, -, hm⟩ := List.mem_flatMap.mp (hlog ▸ hm)
    exact absurd (probe?_of_mem_errorSent m hm) hprobe

/-- The frame of a probe is the only one that arrives as a probe. -/
theorem sent_eq_probe {frame : OutFrame} : frame.sent = probe D ip zone ↔
    frame = probeFrame D ip zone := by
  obtain ⟨src, dst, content⟩ := frame
  cases content <;> simp [OutFrame.sent, probe, probeFrame, parseContent]

/-- What comes into the network as a probe toward a host is what the controller sends. -/
theorem countP_entering_probe {q : ℕ}
    (htoward : toward D D.maps.coreDpid g = some q) {w : Site} (hw : SiteOk D w) (e : SiteEvent) :
    (w.entering D e).countP (isCopy (DownTo D g) (probe D ip zone)) =
      (w.said D e).count ⟨D.maps.coreDpid, .packetOut (probeFrame D ip zone) q⟩ := by
  have hsent : (e.sent D).countP (isCopy (DownTo D g) (probe D ip zone)) = 0 := by
    cases e with
    | sends name frame =>
      cases hseat : seat D.net name with
      | none => simp [SiteEvent.sent, hseat]
      | some place =>
        obtain ⟨d, p⟩ := place
        obtain ⟨-, -, -, huplink⟩ := D.zoneOfPort_seat hseat
        simp [SiteEvent.sent, hseat, isCopy, DownTo, huplink]
    | _ => rfl
  have hroutes : (w.routes D e).countP (isCopy (DownTo D g) (probe D ip zone)) = 0 :=
    countP_isCopy_eq_zero fun x hx => hw.ne_of_mem_routes spared_probe hx
  rw [Site.entering, List.countP_append, List.countP_append, hsent, hroutes, Nat.zero_add,
    List.count]
  refine countP_flatMap_of_forall fun m hm => ?_
  obtain ⟨c, -, hm⟩ := w.mem_said.mp hm
  obtain ⟨dpid, message⟩ := m
  cases message with
  | packetOut frame port =>
    by_cases hframe : frame = probeFrame D ip zone
    · subst hframe
      obtain rfl : dpid = D.maps.coreDpid := dpid_of_probe? hw.router hm (Option.some_ne_none _)
      have hmakes : (⟨D.maps.coreDpid, .packetOut (probeFrame D ip zone) port⟩ : Sent).makes D =
          leaving D D.maps.coreDpid [port] (probe D ip zone) := rfl
      rw [hmakes, countP_leaving, if_pos rfl]
      cases hfar : farEnd D.net D.maps.coreDpid port with
      | none =>
        have hne : port ≠ q := by
          rintro rfl
          obtain ⟨e, hwired, -⟩ := D.farEnd_toward htoward
          rw [hfar] at hwired
          cases hwired
        simp [hfar, hne]
      | some e => simp [hfar, List.countP_singleton, D.downTo_far_core hfar htoward]
    · have hzero : ((⟨dpid, .packetOut frame port⟩ : Sent).makes D).countP
          (isCopy (DownTo D g) (probe D ip zone)) = 0 := by
        refine countP_isCopy_eq_zero fun x hx => ?_
        obtain ⟨-, -, -, hx⟩ := mem_leaving.mp hx
        rw [hx]
        exact fun hsame => hframe (sent_eq_probe.mp hsame)
      rw [hzero]
      simp [hframe]
  | packetOutData | packetOutFlood | flowMod => simp [Sent.makes, Message.built?]

/-- **Every host of a zone receives a probe exactly once.** In every run of the network, whatever
else is sent and in whatever order it arrives: as often as the controller has sent the probe for an
address toward a host's leaf, the host has received it, or it was lost or is under way there. -/
theorem probe_reaches_zone (D : Deployment) (fwClient : Bool) (es : List SiteEvent) {g : String}
    {h : Host ℕ} {ip : IPAddr} {q : ℕ} (hg : D.net.hosts.get? g = some h)
    (hzone : zoneForIp D.policy (.v4 ip) = some h.zone)
    (htoward : toward D D.maps.coreDpid g = some q) :
    (reports D fwClient es).count (.received g (probe D ip h.zone)) +
        ((reports D fwClient es).filterMap Report.lost?).countP
          (isCopy (DownTo D g) (probe D ip h.zone)) +
        copies D (DownTo D g) (probe D ip h.zone) (siteAfter D fwClient es) =
      (messages D fwClient es).count
        ⟨D.maps.coreDpid, .packetOut (probeFrame D ip h.zone) q⟩ := by
  have hzone := ipv4Zone_of_zoneForIp hzone
  have hspreads : ∀ w, SiteOk D w → Spreads D (DownTo D g) (probe D ip h.zone) w :=
    fun w hw => spreads_probe hg hzone hw
  have hcopies := Spreads.copies_final (siteOk_init (D := D) fwClient)
    (fun w e (_ : e ∈ es) h => h.moved (w.step_moved e)) hspreads
  have hentering : (Run.observed (Site.step D) (Site.entering D) (.init fwClient) es).countP
      (isCopy (DownTo D g) (probe D ip h.zone)) = (messages D fwClient es).count
        ⟨D.maps.coreDpid, .packetOut (probeFrame D ip h.zone) q⟩ :=
    Run.countP_observed_congr (siteOk_init (D := D) fwClient)
      (fun w e h => h.moved (w.step_moved e)) (fun w e hw => countP_entering_probe htoward hw e) es
  rw [hentering, countP_report fun _ => Iff.rfl] at hcopies
  omega

end

/-- A packet to the server, whose place is not known: the controller probes for it, and the probe
comes down through the server's leaf. -/
def serverProbed : List SiteEvent :=
  [.connects 1, .connects 5, .connects 6,
    .sends "h101" ⟨true, h101.mac, 0x020000000001, .ip (h101.tcp 7 hServer.ip 4000 80)⟩,
    .arrives 0 0, .asked 0 none 0, .told 0 0, .arrives 0 0, .asked 0 none 0, .told 0 0,
    .arrives 0 0]

theorem probe_reaches_zone_server :
    (reports deployment false serverProbed).count
        (.received "h_server" (probe deployment hServer.ip "DataCenter")) = 1 ∧
      (reports deployment false serverProbed).count
          (.received "h_server" (probe deployment hServer.ip "DataCenter")) +
        ((reports deployment false serverProbed).filterMap Report.lost?).countP
          (isCopy (DownTo deployment "h_server") (probe deployment hServer.ip "DataCenter")) +
        copies deployment (DownTo deployment "h_server") (probe deployment hServer.ip "DataCenter")
          (siteAfter deployment false serverProbed) =
      (messages deployment false serverProbed).count
        ⟨6, .packetOut (probeFrame deployment hServer.ip "DataCenter") 5⟩ :=
  ⟨by decide +kernel, probe_reaches_zone deployment false serverProbed (g := "h_server")
    (h := ⟨_, _, _, _, _⟩) rfl (by decide +kernel) (by decide +kernel)⟩

end ZoneSegmentation
