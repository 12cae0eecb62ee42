import ZoneSegmentation.Controller.Tracking

/-!
# Where the rules of a packet come from

A rule that the controller sends is made from one packet, and matches others with the same fields.
So whatever a packet between two zones meets at a switch is the drop rule of a packet between the
same hosts that was blocked, or a rule of such a packet that passed.

## Main definitions

* `RuleOrigin`: the packet-in that caused a rule which a packet matches

## Main results

* `exists_ruleOrigin`: every rule that a packet between two zones matches has such an origin
-/

namespace ZoneSegmentation

open OfpMatch

variable {D : Deployment} {s : ZoneRouter}

/-- The packet-in `ev` made the controller send a rule which `packet`, with `p` in it, matches. Its
own packet was to cross zones, and either was blocked or passed. -/
structure RuleOrigin (D : Deployment) (s : ZoneRouter) (dpid : ℕ) (mod : FlowMod) (packet : Frame)
    (p : Ipv4) (ev : PacketIn) (p₀ : Ipv4) (snd : Sender) (dstZone : String) : Prop where
  crossing : crossing D ev = some (p₀, snd, dstZone)
  src : packet.src = ev.packet.src
  dst : packet.dst = ev.packet.dst
  same : SameFields p₀ p
  cause : (s.verdict D ev p₀ snd.zone dstZone = none ∧ dpid = ev.dpid ∧ mod = dropMod ev) ∨
    s.verdict D ev p₀ snd.zone dstZone ≠ none ∧ ∃ loc,
      (step D s (.packetIn ev)).1.ipToLoc.get? p₀.dstip = some loc ∧
        ⟨dpid, .flowMod mod⟩ ∈ routeFlowsSent D s ev dstZone loc

/-- A rule that is no drop rule was made by a packet that passed. -/
theorem RuleOrigin.routed {dpid : ℕ} {mod : FlowMod} {packet : Frame} {p p₀ : Ipv4} {ev : PacketIn}
    {snd : Sender} {dstZone : String} (h : RuleOrigin D s dpid mod packet p ev p₀ snd dstZone)
    (hdrop : mod.actions ≠ []) : s.verdict D ev p₀ snd.zone dstZone ≠ none ∧
      mod.hardTimeout = routedFlowHardTimeout := by
  rcases h.cause with ⟨-, -, rfl⟩ | ⟨hverdict, loc, -, hm⟩
  · exact absurd rfl hdrop
  · refine ⟨hverdict, ?_⟩
    rcases flowMod_of_mem_routeFlowsSent hm with ⟨-, rfl⟩ | ⟨-, -, uplink, -, rfl⟩
    · rfl
    · rfl

/-- A rule made from a frame matches only what comes in where the frame did. -/
theorem eq_port_of_matches_fromPacket {packet q : Frame} {port qPort : ℕ}
    (h : (fromPacket packet port).Matches qPort q) : qPort = port := by
  have hport : ∀ (f : Frame) (n : ℕ), (fromPacket f n).inPort = some n := by
    intro f n
    unfold fromPacket
    cases f.body with
    | arp a =>
      simp only
      split <;> rfl
    | lldp | ip p | other t => rfl
  have hin := h.1
  rw [hport, hport, agrees_some] at hin
  exact Option.some.inj hin

/-- A rule that a frame made at its own port compares all its fields. -/
theorem matches_fromPacket_self {packet q : Frame} {p : Ipv4} (hp : packet.body = .ip p)
    {port qPort : ℕ} : (fromPacket packet port).Matches qPort q ↔
      qPort = port ∧ q.src = packet.src ∧ q.dst = packet.dst ∧
        ∃ p', q.body = .ip p' ∧ SameFields p p' := by
  have hself : fromPacket packet port =
      { fromPacket packet port with inPort := some port } := by simp [fromPacket, hp]
  rw [hself, matches_fromPacket_ip hp, agrees_some, Option.some.injEq]

/-- The fields that a routed packet's rules compare, whatever their port. -/
theorem fields_of_mem_routeFlowsSent {ev : PacketIn} {p₀ p : Ipv4} {dstZone : String}
    {loc : Location} {dpid : ℕ} {mod : FlowMod} {port : ℕ} {packet : Frame}
    (hp₀ : ev.packet.body = .ip p₀) (hp : packet.body = .ip p)
    (hm : ⟨dpid, .flowMod mod⟩ ∈ routeFlowsSent D s ev dstZone loc)
    (hmatch : mod.ofpMatch.Matches port packet) :
    packet.src = ev.packet.src ∧ packet.dst = ev.packet.dst ∧ SameFields p₀ p := by
  have hfields : ∀ inPort, ({ fromPacket ev.packet ev.port with inPort } : OfpMatch).Matches port
      packet → packet.src = ev.packet.src ∧ packet.dst = ev.packet.dst ∧ SameFields p₀ p := by
    intro inPort h
    obtain ⟨-, hsrc, hdst, p', hp', hsame⟩ := (matches_fromPacket_ip hp₀).mp h
    obtain rfl := Body.ip.inj (hp.symm.trans hp')
    exact ⟨hsrc, hdst, hsame⟩
  rcases flowMod_of_mem_routeFlowsSent hm with ⟨-, rfl⟩ | ⟨-, -, uplink, -, rfl⟩
  · exact hfields _ hmatch
  · obtain ⟨-, hsrc, hdst, p', hp', hsame⟩ := (matches_fromPacket_self hp₀).mp hmatch
    obtain rfl := Body.ip.inj (hp.symm.trans hp')
    exact ⟨hsrc, hdst, hsame⟩

/-- **Whatever a packet between two zones matches was caused by a packet with its fields**: no rule
of layer 2 matches it, as these are made from packets within a zone, or at uplinks. -/
theorem exists_ruleOrigin (h : RouterOk D s) {e : Event} {dpid : ℕ} {mod : FlowMod}
    (hm : ⟨dpid, .flowMod mod⟩ ∈ (step D s e).2) {port : ℕ} {packet : Frame} {p : Ipv4}
    (hmatch : mod.ofpMatch.Matches port packet) (hbody : packet.body = .ip p)
    (hport : isLeafUplink D.maps dpid port = false)
    (hzones : zoneForIp D.policy (.v4 p.srcip) ≠ zoneForIp D.policy (.v4 p.dstip)) :
    ∃ ev p₀ snd dstZone, e = .packetIn ev ∧
      RuleOrigin D s dpid mod packet p ev p₀ snd dstZone := by
  obtain ⟨ev, rfl, hhandled⟩ := (step_stepped h e).packetIn_of_flowMod hm
  rcases hhandled.flowMod hm with
    ⟨rfl, ⟨outPort, rfl⟩, huplink | ⟨p₀, snd, hsender, hbody₀, hdst⟩⟩ |
    ⟨rfl, rfl, p₀, snd, dstZone, hcross, hverdict⟩ |
    ⟨p₀, snd, dstZone, loc, hcross, hverdict, hloc, hm⟩
  · rw [eq_port_of_matches_fromPacket hmatch, huplink] at hport
    cases hport
  · obtain ⟨-, -, -, p', hp', hsame⟩ := (matches_fromPacket_self hbody₀).mp hmatch
    obtain rfl := Body.ip.inj (hbody.symm.trans hp')
    obtain ⟨-, -, hclaim, -, hvalid⟩ := acceptedSender_eq_some hsender
    simp only [Frame.claim, hbody₀, Option.some.injEq, Prod.mk.injEq] at hclaim
    have hsrc := (sourceIpValidForZone_iff.mp hvalid).1
    rw [← hclaim.1, ← hdst, ← hsame.srcip, ← hsame.dstip] at hsrc
    exact absurd hsrc hzones
  · obtain ⟨-, hbody₀, -⟩ := crossing_eq_some hcross
    obtain ⟨-, hsrc, hdst, p', hp', hsame⟩ := (matches_fromPacket_self hbody₀).mp hmatch
    obtain rfl := Body.ip.inj (hbody.symm.trans hp')
    exact ⟨ev, p₀, snd, dstZone, rfl, hcross, hsrc, hdst, hsame, .inl ⟨hverdict, rfl, rfl⟩⟩
  · obtain ⟨-, hbody₀, -⟩ := crossing_eq_some hcross
    obtain ⟨hsrc, hdst, hsame⟩ := fields_of_mem_routeFlowsSent hbody₀ hbody hm hmatch
    exact ⟨ev, p₀, snd, dstZone, rfl, hcross, hsrc, hdst, hsame, .inr ⟨hverdict, loc, hloc, hm⟩⟩

/-- The same, for a packet that is to cross zones: its rule was made by a packet for its zone. -/
theorem exists_ruleOrigin_of_crossing (h : RouterOk D s) {e : Event} {dpid : ℕ} {mod : FlowMod}
    (hm : ⟨dpid, .flowMod mod⟩ ∈ (step D s e).2) {ev : PacketIn} {p : Ipv4} {snd : Sender}
    {dstZone : String} (hcross : crossing D ev = some (p, snd, dstZone)) {port : ℕ}
    (hmatch : mod.ofpMatch.Matches port ev.packet)
    (hport : isLeafUplink D.maps dpid port = false) :
    ∃ ev₀ p₀ snd₀, e = .packetIn ev₀ ∧
      RuleOrigin D s dpid mod ev.packet p ev₀ p₀ snd₀ dstZone := by
  obtain ⟨-, hbody, hsrc, hdst, hne⟩ := crossing_eq_some hcross
  have hzones : zoneForIp D.policy (.v4 p.srcip) ≠ zoneForIp D.policy (.v4 p.dstip) := by
    rw [hsrc, hdst]
    intro heq
    exact hne (Option.some.inj heq).symm
  obtain ⟨ev₀, p₀, snd₀, dstZone₀, rfl, horigin⟩ :=
    exists_ruleOrigin h hm hmatch hbody hport hzones
  obtain ⟨-, -, -, hdst₀, -⟩ := crossing_eq_some horigin.crossing
  rw [horigin.same.dstip] at hdst
  obtain rfl := Option.some.inj (hdst₀.symm.trans hdst)
  exact ⟨ev₀, p₀, snd₀, rfl, horigin⟩

end ZoneSegmentation
