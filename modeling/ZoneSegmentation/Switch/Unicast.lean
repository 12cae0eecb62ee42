import ZoneSegmentation.Switch.Aimed
import ZoneSegmentation.Switch.Broadcast

/-!
# Frames for a neighbour

A frame of a host for another one of its zone is sent on by a rule of layer 2, or by the controller,
which makes such a rule, or floods the frame while it does not know the port. Which of these happens
changes on the way, and from one frame to the next. In each case one copy goes on toward the
addressee. So the addressee receives the frame exactly once, whatever the daemon answers about other
packets, whatever else is under way, and in whatever order it arrives.

## Main definitions

* `ForNeighbour`: a frame of a host for another one of its zone

## Main results

* `ForNeighbour.spreads`: it is on its way to the addressee in one copy
* `unicast_once`: the addressee receives it exactly once
-/

namespace ZoneSegmentation

open HostTree (End)

variable {D : Deployment}

/-- A frame that a host sends to another one of its zone: an ARP packet that is no question or
answer to a gateway, a packet to an address of the zone, or a frame with neither ARP nor IP. -/
structure ForNeighbour (A : HostMacs D) (zone a g : String) (f : Frame) : Prop where
  sender : hostZone D.net a = some zone
  receiver : hostZone D.net g = some zone
  ne : a ≠ g
  parsed : f.parsed = true
  honest : A.Honest a f
  dst : f.dst = A.mac g
  body : (∃ p, f.body = .arp p ∧
      ¬ ((p.opcode = arpRequest ∨ p.opcode = arpReply) ∧ isGateway D p.protodst = true)) ∨
    (∃ p, f.body = .ip p ∧ isGateway D p.dstip = false ∧
      zoneForIp D.policy (.v4 p.dstip) = some zone) ∨
    ∃ type, f.body = .other type ∧ type ∉ [0x0800, 0x0806, 0x88cc]

namespace ForNeighbour

variable {A : HostMacs D} {T : Prop} {zone a g : String} {f : Frame} {s : ZoneRouter}
  {d port q : ℕ}

theorem exists_sender (hf : ForNeighbour A zone a g f) :
    ∃ h, D.net.hosts.get? a = some h ∧ h.zone = zone :=
  Option.map_eq_some_iff.mp hf.sender

theorem exists_receiver (hf : ForNeighbour A zone a g f) :
    ∃ h, D.net.hosts.get? g = some h ∧ h.zone = zone :=
  Option.map_eq_some_iff.mp hf.receiver

theorem sender_mem (hf : ForNeighbour A zone a g f) : a ∈ D.net.hosts.keys :=
  Dict.mem_keys_iff.mpr (hf.exists_sender.imp fun _ h => h.1)

theorem receiver_mem (hf : ForNeighbour A zone a g f) : g ∈ D.net.hosts.keys :=
  Dict.mem_keys_iff.mpr (hf.exists_receiver.imp fun _ h => h.1)

theorem type_ne_lldp (hf : ForNeighbour A zone a g f) : f.body.type ≠ Body.lldp.type := by
  rcases hf.body with ⟨p, hbody, -⟩ | ⟨p, hbody, -⟩ | ⟨type, hbody, htype⟩
  · simp [hbody, Body.type]
  · simp [hbody, Body.type]
  · rw [hbody]
    exact fun h => htype (by simp [show type = 0x88cc from h])

/-- The frame arrives as it was sent on, and no other frame does. -/
theorem resent_eq_iff (hf : ForNeighbour A zone a g f) {f' : Frame} (hparsed : f'.parsed = true) :
    f'.resent = f ↔ f' = f :=
  ZoneSegmentation.resent_eq_iff hf.parsed hparsed hf.type_ne_lldp

/-- The frame is from no gateway. -/
theorem src_ne (hf : ForNeighbour A zone a g f) {dstZone : String}
    (hzone : dstZone ∈ D.policy.zones.keys) : f.src ≠ gatewayMac D dstZone :=
  hf.honest.src ▸ A.not_gateway a hf.sender_mem dstZone hzone

/-- Wherever it comes to, the frame is on its sender's side. -/
theorem toward_of_placed (hf : ForNeighbour A zone a g f)
    (hplaced : Placed A s ⟨.switch d port, f⟩) : toward D d a = some port := by
  cases hplaced with
  | own host honest side =>
    obtain rfl := A.inj _ host a hf.sender_mem (honest.src.symm.trans hf.honest.src)
    exact side d port rfl
  | gateway hzone src => exact absurd src (hf.src_ne hzone)

/-- It is to cross no zones. -/
theorem not_crossesAt (hf : ForNeighbour A zone a g f)
    (hplaced : Placed A s ⟨.switch d port, f⟩) {p : Ipv4} {zone' dstZone : String} :
    ¬ CrossesAt D d port f p zone' dstZone := by
  intro hcrosses
  obtain ⟨host, hhost, rfl⟩ := hf.exists_sender
  have hzone := zoneOfPort_of_toward hhost (hf.toward_of_placed hplaced) hcrosses.not_uplink
  obtain rfl := Option.some.inj (hcrosses.zone_eq.symm.trans hzone)
  rcases hf.body with ⟨p', hbody, -⟩ | ⟨p', hbody, -, hinside⟩ | ⟨type, hbody, -⟩
  · cases hcrosses.body.symm.trans hbody
  · obtain rfl := Body.ip.inj (hcrosses.body.symm.trans hbody)
    exact hcrosses.ne (Option.some.inj (hcrosses.dst.symm.trans hinside))
  · cases hcrosses.body.symm.trans hbody

/-- On its sender's side, the frame is to reach the addressee unless it came from there. -/
theorem reaches_iff_ne (hf : ForNeighbour A zone a g f) (hside : toward D d a = some port)
    (hq : toward D d g = some q) : Reaches D g (.switch d port) ↔ q ≠ port := by
  obtain ⟨sender, hsender, hzone⟩ := hf.exists_sender
  obtain ⟨h, hg, rfl⟩ := hf.exists_receiver
  rw [reaches_switch hg, hq, ne_eq, Option.some.injEq]
  refine and_iff_right_of_imp fun hne => ?_
  cases huplink : isLeafUplink D.maps d port with
  | false => rw [zoneOfPort_of_toward hsender hside huplink, hzone]
  | true =>
    have hleaf := D.ne_core_of_isLeafUplink huplink
    obtain ⟨⟨home, seatPort⟩, hseat⟩ := exists_seat hg
    by_cases hhome : d = home
    · subst hhome
      obtain ⟨h', hg', hseatZone, -⟩ := D.zoneOfPort_seat hseat
      obtain rfl := Option.some.inj (hg.symm.trans hg')
      rw [D.zoneOfPort_of_leaf hleaf, hseatZone]
    · rw [D.toward_leaf hseat hhome hleaf] at hq
      refine absurd ?_ hne
      simpa [isLeafUplink, hq] using huplink

/-- **Toward its addressee the frame goes on in one copy**, if it is to reach the addressee. -/
theorem countP_toward (hf : ForNeighbour A zone a g f) (hside : toward D d a = some port)
    (hq : toward D d g = some q) :
    (leaving D d (if q = port then [] else [q]) f).countP (isCopy (Reaches D g) f) =
      if isCopy (Reaches D g) f ⟨.switch d port, f⟩ then 1 else 0 := by
  have hreaches := hf.reaches_iff_ne hside hq
  simp only [isCopy_iff, true_and, hreaches]
  by_cases hback : q = port
  · simp [hback]
  obtain ⟨e, hfar, hahead⟩ := D.farEnd_toward hq
  obtain ⟨h, hg, rfl⟩ := hf.exists_receiver
  have hreach : Reaches D g e := by
    cases e with
    | host name => exact hahead
    | switch d' p' =>
      refine (reaches_switch hg).mpr ⟨?_, hahead⟩
      rw [D.zoneOfPort_farEnd hfar]
      by_cases hcore : d = D.maps.coreDpid
      · subst hcore
        exact D.zoneOfPort_toward_core hg hq
      · rw [D.zoneOfPort_of_leaf hcore]
        exact ((reaches_switch hg).mp (hreaches.mpr hback)).1
  simp [hback, countP_leaving, hfar, hreach]

/-! ## Rules -/

/-- **A rule that takes the frame sends on one copy** toward the addressee, and makes no other frame
into one. -/
theorem countP_passed (hf : ForNeighbour A zone a g f) {r : Rule} {frame : Frame}
    (hplaced : Placed A s ⟨.switch d port, frame⟩) (hparsed : frame.parsed = true)
    (htaken : Taken A T r d port frame) :
    (if r.mod.Routes then 0 else (r.out D d port frame).countP (isCopy (Reaches D g) f)) =
      if isCopy (Reaches D g) f ⟨.switch d port, frame⟩ then 1 else 0 := by
  by_cases hframe : frame = f
  · subst hframe
    cases htaken with
    | relayed hroutes hout _ haim =>
      rw [if_neg hroutes, hout, (hf.resent_eq_iff hparsed).mpr rfl]
      exact hf.countP_toward (hf.toward_of_placed hplaced) (haim g hf.receiver_mem hf.dst)
    | dropped _ _ hcrosses | up _ _ hcrosses | routed _ _ _ hcrosses =>
      exact absurd hcrosses (hf.not_crossesAt hplaced)
  · rw [if_neg fun hcopy => hframe (isCopy_iff.mp hcopy).1]
    have hother : ∀ {ports : List ℕ},
        (leaving D d ports frame.resent).countP (isCopy (Reaches D g) f) = 0 := by
      intro ports
      rw [countP_leaving, if_neg fun h => hframe ((hf.resent_eq_iff hparsed).mp h)]
    cases htaken with
    | relayed hroutes hout | up hroutes hout => rw [if_neg hroutes, hout, hother]
    | dropped hroutes hout => rw [if_neg hroutes, hout, List.countP_nil]
    | routed hroutes => rw [if_pos hroutes]

/-- A rule that makes a hop makes no such frame. -/
theorem countP_routed (hf : ForNeighbour A zone a g f) {r : Rule} {frame : Frame}
    (hroutes : r.mod.Routes) (htaken : Taken A T r d port frame) :
    (r.out D d port frame).countP (isCopy (Reaches D g) f) = 0 := by
  refine countP_isCopy_eq_zero fun x hx => ?_
  cases htaken with
  | relayed hno | dropped hno | up hno => exact absurd hroutes hno
  | routed _ _ hout hcrosses =>
    rw [hout] at hx
    split at hx
    · cases hx
    · obtain ⟨-, -, -, hframe⟩ := mem_leaving.mp hx
      rw [hframe]
      rintro rfl
      exact hf.src_ne (ipv4Zone_of_zoneForIp hcrosses.dst).mem_keys rfl

/-! ## The controller -/

section

variable {ev : PacketIn} {snd : Sender} {s' : ZoneRouter} {log : List Sent}

/-- An ARP packet of an accepted sender that is not for a gateway is flooded. -/
theorem log_of_arp {p : Arp} (hbody : ev.packet.body = .arp p)
    (hsnd : acceptedSender D ev = some snd)
    (hordinary : ¬ ((p.opcode = arpRequest ∨ p.opcode = arpReply) ∧
      isGateway D p.protodst = true)) (hhandled : Handled D s ev s' log) :
    log = floodSent D ev := by
  have huplink := (acceptedSender_eq_some hsnd).2.1
  cases hhandled with
  | ignored h => cases hsnd.symm.trans h
  | transit h => cases huplink.symm.trans h
  | other _ hclaim => simp [Frame.claim, hbody] at hclaim
  | arpRequest _ hb hop hgw =>
    obtain rfl := Body.arp.inj (hbody.symm.trans hb)
    exact absurd ⟨.inl hop, hgw⟩ hordinary
  | arpReply _ hb hop hgw | arpResolve _ hb hop hgw =>
    obtain rfl := Body.arp.inj (hbody.symm.trans hb)
    exact absurd ⟨.inr hop, hgw⟩ hordinary
  | arpOrdinary => rfl
  | ipUnrouted _ hb | ipSameZone _ hb | ipBlocked _ hb | ipForwarded _ hb | ipQueued _ hb =>
    cases hbody.symm.trans hb

/-- A packet of an accepted sender for an address of its zone goes by layer 2. -/
theorem log_of_ip {p : Ipv4} (hbody : ev.packet.body = .ip p)
    (hsnd : acceptedSender D ev = some snd) (hgateway : isGateway D p.dstip = false)
    (hinside : zoneForIp D.policy (.v4 p.dstip) = some snd.zone)
    (hhandled : Handled D s ev s' log) : ∃ s₁, log = l2Sent D s₁ ev := by
  have huplink := (acceptedSender_eq_some hsnd).2.1
  have hsame : ∀ {p' : Ipv4} {snd' : Sender} {dstZone : String},
      acceptedSender D ev = some snd' → ev.packet.body = .ip p' →
      zoneForIp D.policy (.v4 p'.dstip) = some dstZone → dstZone = snd'.zone := by
    intro p' snd' dstZone hs hb hdst
    obtain rfl := Body.ip.inj (hbody.symm.trans hb)
    obtain rfl := Option.some.inj (hsnd.symm.trans hs)
    exact Option.some.inj (hdst.symm.trans hinside)
  cases hhandled with
  | ignored h => cases hsnd.symm.trans h
  | transit h => cases huplink.symm.trans h
  | other _ hclaim => simp [Frame.claim, hbody] at hclaim
  | arpRequest _ hb | arpReply _ hb | arpResolve _ hb | arpOrdinary _ hb =>
    cases hbody.symm.trans hb
  | ipUnrouted _ hb hdst =>
    obtain rfl := Body.ip.inj (hbody.symm.trans hb)
    rw [hgateway, hinside] at hdst
    rcases hdst with h | h <;> cases h
  | ipSameZone => exact ⟨_, rfl⟩
  | ipBlocked hs hb _ hdst hne | ipForwarded hs hb _ hdst hne | ipQueued hs hb _ hdst hne =>
    exact absurd (hsame hs hb hdst) hne

end

/-- The controller floods the frame, or sends it on by a rule of layer 2. -/
theorem log_cases (hf : ForNeighbour A zone a g f) (hrouter : RouterOk D s) {ev : PacketIn}
    (hev : ev.packet = f) (hplaced : Placed A s ⟨.switch ev.dpid ev.port, f⟩) :
    (step D s (.packetIn ev)).2 = floodSent D ev ∨
      ∃ q, (step D s (.packetIn ev)).2 = [⟨ev.dpid, .flowMod (l2Mod ev q)⟩] := by
  have hparsed : ev.packet.parsed = true := hev ▸ hf.parsed
  cases huplink : isLeafUplink D.maps ev.dpid ev.port with
  | true =>
    have hlldp : ev.packet.body ≠ .lldp := by
      intro h
      exact hf.type_ne_lldp (hev ▸ congrArg Body.type h)
    rw [step_of_uplink hparsed hlldp huplink]
    split
    · exact .inl rfl
    · exact l2Sent_cases ..
  | false =>
    obtain ⟨sender, hsender, rfl⟩ := hf.exists_sender
    have hzone := zoneOfPort_of_toward hsender (hf.toward_of_placed hplaced) huplink
    have haccepted : ∀ {ip : IPAddr} {mac : EthAddr}, ev.packet.claim = some (ip, mac) →
        acceptedSender D ev = some ⟨ip, mac, sender.zone⟩ := by
      intro ip mac hclaim
      have hip := (hf.honest.claim ip mac (hev ▸ hclaim)).2
      rw [acceptedSender_of_claim hparsed huplink hclaim hzone, if_pos]
      exact valid_of_hostIp hsender hip
    have hhandled := step_handled hrouter ev
    rcases hf.body with ⟨p, hbody, hordinary⟩ | ⟨p, hbody, hgateway, hinside⟩ | ⟨type, hbody, -⟩
    · rw [← hev] at hbody
      have hsnd := haccepted (show ev.packet.claim = some (p.protosrc, p.hwsrc) by
        simp [Frame.claim, hbody])
      exact .inl (log_of_arp hbody hsnd hordinary hhandled)
    · rw [← hev] at hbody
      have hsnd := haccepted (show ev.packet.claim = some (p.srcip, ev.packet.src) by
        simp [Frame.claim, hbody])
      obtain ⟨s₁, hlog⟩ := log_of_ip hbody hsnd hgateway hinside hhandled
      rw [hlog]
      exact l2Sent_cases ..
    · rw [step_of_other hparsed (hev ▸ hbody) huplink]
      exact .inl rfl

/-- **The controller sends on one copy** of the frame toward the addressee, and no other frame as
one. -/
theorem countP_relayed (hf : ForNeighbour A zone a g f) (hrouter : RouterOk D s)
    (hlocated : Located A s) (ev : PacketIn)
    (hplaced : Placed A s ⟨.switch ev.dpid ev.port, ev.packet⟩)
    (hparsed : ev.packet.parsed = true) :
    (((step D s (.packetIn ev)).2.filter fun m => m.message.built?.isNone).flatMap fun m =>
        (⟨some ev.port, m⟩ : Told).out D).countP (isCopy (Reaches D g) f) =
      if isCopy (Reaches D g) f ⟨.switch ev.dpid ev.port, ev.packet⟩ then 1 else 0 := by
  have hhandled := step_handled hrouter ev
  by_cases hev : ev.packet = f
  · have hresent : ev.packet.resent = f := (hf.resent_eq_iff hparsed).mpr hev
    rcases hf.log_cases hrouter hev (hev ▸ hplaced) with hflood | ⟨q, hl2⟩
    · obtain ⟨h, hg, -⟩ := hf.exists_receiver
      rw [ZoneSegmentation.countP_relayed hflood, if_pos hresent, countP_flood hg]
      simp only [isCopy_iff, hev, true_and]
    · have haim := hhandled.aim hrouter hlocated hplaced (q := q) (by simp [hl2]) g hf.receiver_mem
        (hev ▸ hf.dst)
      have hcount := hf.countP_toward (hf.toward_of_placed (hev ▸ hplaced)) haim
      have hkept : [(⟨ev.dpid, .flowMod (l2Mod ev q)⟩ : Sent)].filter
          (fun m => m.message.built?.isNone) = [⟨ev.dpid, .flowMod (l2Mod ev q)⟩] := rfl
      rw [hl2, hkept, List.flatMap_singleton, out_l2Mod, hresent, hcount, hev]
  · rw [if_neg fun hcopy => hev (isCopy_iff.mp hcopy).1]
    refine countP_isCopy_eq_zero fun x hx => ?_
    obtain ⟨q, -, hx⟩ := hhandled.exists_port_of_relayed hx
    obtain ⟨-, -, -, hframe⟩ := mem_leaving.mp hx
    rw [hframe]
    exact fun h => hev ((hf.resent_eq_iff hparsed).mp h)

/-! ## Runs -/

variable {w : Site} {e : SiteEvent}

/-- **The frame is on its way to the addressee in one copy.** -/
theorem spreads (hf : ForNeighbour A zone a g f) (hw : SiteAimed A T w) :
    Spreads D (Reaches D g) f w where
  router := hw.located.router
  passed hi hlookup :=
    hf.countP_passed (hw.located.wires _ (List.mem_of_getElem? hi))
      (hw.wires _ (List.mem_of_getElem? hi)) (hw.taken hlookup)
  relayed hi firewall now :=
    hf.countP_relayed hw.located.router hw.located.located ⟨_, _, _, firewall, now⟩
      (hw.located.asks _ (List.mem_of_getElem? hi)) (hw.asks _ (List.mem_of_getElem? hi))

/-- Only the host's own frames come into the network as the frame. -/
theorem countP_entering (hf : ForNeighbour A zone a g f) (hw : SiteAimed A T w)
    (hhonest : e.Honest A) :
    (w.entering D e).countP (isCopy (Reaches D g) f) = [e].count (.sends a f) := by
  have hbuilt : ((w.said D e).flatMap (Sent.makes D)).countP (isCopy (Reaches D g) f) = 0 := by
    refine countP_makes_eq_zero fun c m hm b hb => ?_
    obtain ⟨zone', hzone, hsrc⟩ :=
      (step_stepped hw.located.router c).src_of_built hw.located.router hm hb
    rintro rfl
    exact hf.src_ne hzone hsrc
  have hroutes : (w.routes D e).countP (isCopy (Reaches D g) f) = 0 := by
    unfold Site.routes
    split
    · split
      · split
        · rename_i hlookup
          split
          · rename_i hroutes
            exact hf.countP_routed hroutes (hw.taken hlookup)
          · rfl
        · rfl
      · rfl
    · rfl
  rw [Site.entering, List.countP_append, List.countP_append, hbuilt, hroutes, Nat.add_zero]
  cases e with
  | sends name frame =>
    by_cases hsends : SiteEvent.sends name frame = .sends a f
    · obtain ⟨rfl, rfl⟩ := SiteEvent.sends.inj hsends
      obtain ⟨h, hhost, -⟩ := hf.exists_sender
      obtain ⟨⟨d, p⟩, hseat⟩ := exists_seat hhost
      have hreach : Reaches D g (.switch d p) :=
        (reaches_seat hseat).mpr ⟨hf.ne, hf.sender.trans hf.receiver.symm⟩
      simp [SiteEvent.sent, hseat, isCopy, hreach]
    · rw [List.count_singleton, if_neg (by simpa using hsends)]
      refine countP_isCopy_eq_zero fun x hx => ?_
      cases hseat : seat D.net name with
      | none => simp [SiteEvent.sent, hseat] at hx
      | some place =>
        simp only [SiteEvent.sent, hseat, Option.map_some, Option.toList_some,
          List.mem_singleton] at hx
        rw [hx]
        rintro rfl
        obtain ⟨h, hhost, -⟩ := D.zoneOfPort_seat hseat
        have hname := A.inj name (Dict.mem_keys_iff.mpr ⟨h, hhost⟩) a hf.sender_mem
          (hhonest.src.symm.trans hf.honest.src)
        exact hsends (by rw [hname])
  | _ => rfl

end ForNeighbour

end ZoneSegmentation
