import ZoneSegmentation.Controller.FastPath
import ZoneSegmentation.Conntrack.Policy
import ZoneSegmentation.Switch.Origin

/-!
# The firewall from end to end

What the policy says about two zones holds of what their hosts receive from each other. A packet may
take any way through the network: the controller may forward it at once, or after its destination
was found, or rules at the leaf and at the core may forward it. On each of these ways it has been
let pass once by the firewall, or has the fields of a packet that has.

## Main definitions

* `RepliesTo`: a packet answers one that a host of a zone has sent, and that the policy allows

## Main results

* `exists_opener`: a blocked packet that passes answers an allowed one that was handed to the
  controller
* `received_only_if_allowed`: a packet from one zone to another comes to a host of the latter, and
  only if the policy allows it, or it is an answer
* `blocked_zones_stay_apart`: a packet between zones that may not open connections to each other is
  never received
-/

namespace ZoneSegmentation

open OfpMatch

variable {D : Deployment} {fwClient : Bool}

/-! ## Openers -/

/-- **A blocked packet that passes answers an allowed one**, which was handed to the controller and
carried exactly the reversed flow. -/
theorem exists_opener {past : List Event} {ev : PacketIn} {p : Ipv4} {snd : Sender}
    {dstZone : String} (hhonest : ∀ ev, .packetIn ev ∈ past → ev.Honest D.policy)
    (hverdict : (stateAfter D fwClient past).verdict D ev p snd.zone dstZone = some .reply) :
    ∃ q ev' p' snd' dstZone' q', p.tracked = some q ∧ q.mayReply = true ∧ .packetIn ev' ∈ past ∧
      crossing D ev' = some (p', snd', dstZone') ∧ p'.header.allowed D.policy = true ∧
      p'.tracked = some q' ∧ q'.mayOpen = true ∧ q'.flow = q.flow.reversed := by
  obtain ⟨-, q, hq, hmay, halive⟩ := (ConnectionTable.check_reply_iff ..).mp hverdict
  -- an entry that is alive is in the table, and a call of the controller opened it
  obtain ⟨seen, hseen, -⟩ := ConnectionTable.alive_iff.mp halive
  rw [conns_stateAfter, Option.mem_def] at hseen
  have hknown : (tableAfter idleTimeout (callsOf D fwClient past)).seen q.flow.reversed ≠ none := by
    rw [hseen]
    exact Option.some_ne_none _
  obtain ⟨now, q', hcall, hopen, hflow⟩ := opened_of_seen hknown
  obtain ⟨past', e, rest, rfl, hby⟩ := Run.mem_observed_iff.mp hcall
  cases e with
  | connectionUp | retryTick => cases hby
  | connExpire => simp [callsBy] at hby
  | packetIn ev' =>
    have hmem : .packetIn ev' ∈ past' ++ .packetIn ev' :: rest :=
      List.mem_append_right _ List.mem_cons_self
    cases hcross : crossing D ev' with
    | none => simp [callsBy, hcross] at hby
    | some r =>
      obtain ⟨p', snd', dstZone'⟩ := r
      simp only [callsBy, hcross, Option.map_some, Option.toList_some, List.mem_singleton,
        Call.check.injEq] at hby
      obtain ⟨-, hallowed, htracked⟩ := hby
      rw [policyAllowed_eq_of_honest hcross (hhonest ev' hmem)] at hallowed
      exact ⟨q, ev', p', snd', dstZone', q', hq, hmay, hmem, hcross, hallowed.symm, htracked.symm,
        hopen, hflow⟩

/-- A packet that crosses zones was sent by a host of the zone of its source. -/
theorem sent_of_heard {es : List SiteEvent} {ev : PacketIn} {p : Ipv4} {snd : Sender}
    {dstZone : String} (hheard : .packetIn ev ∈ heardIn D fwClient es)
    (hcross : crossing D ev = some (p, snd, dstZone)) : ∃ sender f₀, .sends sender f₀ ∈ es ∧
      hostZone D.net sender = some snd.zone ∧ f₀.body = .ip p := by
  obtain ⟨past, e, rest, rfl, he⟩ := Run.mem_observed_iff.mp hheard
  have hvetted := (Origins.siteVetted_siteAfter (D := D) fwClient past).asks _
    (Site.mem_asks_of_heard (Option.mem_toList.mp he))
  obtain ⟨hsender, hbody, -⟩ := crossing_eq_some hcross
  obtain ⟨-, -, horigin, -⟩ := hvetted.accepted hsender
  obtain ⟨sender, f₀, hsent, hzone, -, hsame⟩ := horigin.exists_claim
  exact ⟨sender, f₀, List.mem_append_left _ hsent, hzone, hsame p hbody⟩

/-! ## What hosts receive -/

/-- An ICMP echo request. -/
def Ipv4.IsEchoRequest (p : Ipv4) : Prop := ∃ code id, p.payload = .icmp icmpEchoRequest code id

variable (D) in
/-- A packet answers one that a host of a zone has sent, and that the policy allows: in the same TCP
or UDP connection, or as an echo reply to an echo request between the same two addresses. -/
structure RepliesTo (es : List SiteEvent) (zone : String) (p p' : Ipv4) : Prop where
  sent : ∃ sender f, .sends sender f ∈ es ∧ hostZone D.net sender = some zone ∧ f.body = .ip p'
  allowed : p'.header.allowed D.policy = true
  srcip : p'.srcip = p.dstip
  dstip : p'.dstip = p.srcip
  protocol : p'.protocol = p.protocol
  kind : p.IsEchoReply ∧ p'.IsEchoRequest ∨
    ∃ q q', p.tracked = some q ∧ p'.tracked = some q' ∧ q'.flow = q.flow.reversed

/-- The flow of a tracked packet has its addresses and its protocol. -/
theorem Ipv4.flow_of_tracked {p : Ipv4} {q : TrackedPacket} (h : p.tracked = some q) :
    q.flow.src = .v4 p.srcip ∧ q.flow.dst = .v4 p.dstip ∧ q.flow.proto = p.protocol :=
  Header.flow_of_tracked (p.tracked_eq_header ▸ h)

/-- A packet of ICMP that can open a connection is an echo request. -/
theorem Ipv4.isEchoRequest_of_mayOpen {p : Ipv4} {q : TrackedPacket} (hq : p.tracked = some q)
    (hopen : q.mayOpen = true) (hproto : p.protocol = ipprotoIcmp) : p.IsEchoRequest := by
  unfold Ipv4.tracked at hq
  rw [hproto, if_neg (by decide), if_pos rfl] at hq
  cases hp : p.payload with
  | icmp type code id =>
    simp only [hp, trackedPacket] at hq
    rw [if_neg (by decide)] at hq
    split at hq
    · rename_i hrequest
      exact ⟨code, id, by rw [hp, Option.some.inj hrequest.2]⟩
    · split at hq
      · obtain rfl := Option.some.inj hq
        cases hopen
      · cases hq
  | tcp | udp | raw => simp [hp] at hq

/-- A hop changes nothing that the firewall looks at. -/
theorem sameFields_hop (p : Ipv4) (ttl : ℕ) : SameFields p { p with ttl } :=
  ⟨rfl, rfl, rfl, rfl, fun _ h => h⟩

/-- **What the firewall lets pass** in a run the policy allows, or it answers a packet that a host
of the other zone has sent. -/
theorem allowed_or_repliesTo {es : List SiteEvent} {p : Ipv4} {zone : String}
    (hhonest : ∀ ev, .packetIn ev ∈ heardIn D fwClient es → ev.Honest D.policy)
    (hpassed : (Origins.ofRun D fwClient es).passed p)
    (hdst : zoneForIp D.policy (.v4 p.dstip) = some zone) :
    p.header.allowed D.policy = true ∨ ∃ p', RepliesTo D es zone p p' := by
  obtain ⟨past, ev, rest, p₀, snd, dstZone, hheard, hcross, hverdict, hsame⟩ := hpassed
  have hmem : .packetIn ev ∈ heardIn D fwClient es := by
    rw [hheard]
    exact List.mem_append_right _ List.mem_cons_self
  cases hpolicy : p.header.allowed D.policy with
  | true => exact .inl rfl
  | false =>
    right
    have hreply := verdict_eq_reply_of_blocked hcross (hhonest ev hmem)
      (hsame.allowed_eq.symm.trans hpolicy) hverdict
    have hpast : ∀ ev', .packetIn ev' ∈ past → .packetIn ev' ∈ heardIn D fwClient es :=
      fun ev' hev' => hheard ▸ List.mem_append_left _ hev'
    obtain ⟨q, ev', p', snd', dstZone', q', hq, hmay, hev', hcross', hallowed, hq', hopen, hflow⟩ :=
      exists_opener (fun ev' hev' => hhonest ev' (hpast ev' hev')) hreply
    obtain ⟨hsrc₀, hdst₀, hproto₀⟩ := Ipv4.flow_of_tracked hq
    obtain ⟨hsrc', hdst', hproto'⟩ := Ipv4.flow_of_tracked hq'
    rw [hflow] at hsrc' hdst' hproto'
    have hopenerSrc : p'.srcip = p.dstip :=
      (IPAddress.v4.inj (hsrc'.symm.trans hdst₀)).trans hsame.dstip.symm
    have hopenerDst : p'.dstip = p.srcip :=
      (IPAddress.v4.inj (hdst'.symm.trans hsrc₀)).trans hsame.srcip.symm
    have hopenerProto : p'.protocol = p.protocol :=
      (hproto'.symm.trans hproto₀).trans hsame.protocol.symm
    obtain ⟨-, -, hzone', -⟩ := crossing_eq_some hcross'
    obtain ⟨sender, f, hsent, hzone, hbody⟩ := sent_of_heard (hpast ev' hev') hcross'
    rw [hopenerSrc, hdst] at hzone'
    refine ⟨p', ⟨sender, f, hsent, hzone.trans hzone'.symm, hbody⟩, hallowed, hopenerSrc,
      hopenerDst, hopenerProto, ?_⟩
    by_cases hecho : p₀.IsEchoReply
    · -- a rule does not see the identifier of an echo reply
      obtain ⟨code, id, hp₀⟩ := hecho
      obtain ⟨id', hp⟩ := hsame.icmp hp₀
      have hicmp : p.protocol = ipprotoIcmp := (p.payload_proto _ (by rw [hp]; rfl)).symm
      exact .inl ⟨⟨code, id', hp⟩,
        Ipv4.isEchoRequest_of_mayOpen hq' hopen (hopenerProto.trans hicmp)⟩
    · have hexact := matchIsExact_of_mayReply hq hmay hecho
      exact .inr ⟨q, q', (hsame.tracked_eq hexact).trans hq, hq', hflow⟩

/-- **A packet from one zone to another** is received by a host of the latter. It was sent by a host
of the former, has made one hop, and was let pass. -/
theorem passed_of_received {es : List SiteEvent} {e : SiteEvent} {name srcZone dstZone : String}
    {f : Frame} {p : Ipv4} (hreceived : .received name f ∈ ((siteAfter D fwClient es).step D e).2)
    (hbody : f.body = .ip p) (hgateway : isGateway D p.srcip = false)
    (hsrc : zoneForIp D.policy (.v4 p.srcip) = some srcZone)
    (hdst : zoneForIp D.policy (.v4 p.dstip) = some dstZone) (hne : srcZone ≠ dstZone) :
    hostZone D.net name = some dstZone ∧
    (∃ sender f₀ p₀, .sends sender f₀ ∈ es ∧ hostZone D.net sender = some srcZone ∧
      f₀.body = .ip p₀ ∧ 1 < p₀.ttl ∧ p = { p₀ with ttl := p₀.ttl - 1 }) ∧
    (Origins.ofRun D fwClient es).passed p := by
  cases genuine_of_received hreceived with
  | @relayed zone origin valid inside =>
    have hclaim := valid p.srcip f.src (by simp [Frame.claim, hbody])
    have hzone := (sourceIpValidForZone_iff.mp hclaim).1
    exact absurd (Option.some.inj ((hsrc.symm.trans hzone).trans
      ((inside p hbody).symm.trans hdst))) hne
  | @routed zone dstZone' f₀ p₀ crosses ttl hplace src body =>
    obtain rfl := Body.ip.inj (body.symm.trans hbody)
    have hzone := (sourceIpValidForZone_iff.mp crosses.valid).1
    obtain rfl := Option.some.inj (hsrc.symm.trans hzone)
    obtain rfl := Option.some.inj (hdst.symm.trans crosses.dst)
    obtain ⟨sender, f₁, hsent, hsender, -, hsame⟩ := crosses.origin.exists_claim
    exact ⟨hplace, ⟨sender, f₁, p₀, hsent, hsender, hsame p₀ crosses.body, ttl, rfl⟩,
      (Origins.ofRun D fwClient es).passed_of_sameFields (sameFields_hop p₀ _) crosses.passed⟩
  | arp _ hframe _ content =>
    rw [hframe, OutFrame.sent, content] at hbody
    cases hbody
  | error _ hframe _ hzone _ _ content _ gateway =>
    rw [hframe, OutFrame.sent, content] at hbody
    obtain rfl := Body.ip.inj hbody
    rw [show (IcmpError.packet _).srcip = _ from gateway, hzone.isGateway] at hgateway
    cases hgateway

/-- **A packet from one zone to another is received only if the policy allows it, or it is an
answer.** After every run of the network, whatever its hosts have forged and whatever way the packet
took: if a host receives an IP packet from a host's address of one zone to an address of another,
then the host is one of the second zone, a host of the first zone has sent the packet, it is
unchanged but for one hop, and the policy allows it, or it answers a packet that the policy allows
and that a host of the second zone has sent. -/
theorem received_only_if_allowed (D : Deployment) (fwClient : Bool) (es : List SiteEvent)
    (e : SiteEvent) (hhonest : ∀ ev, .packetIn ev ∈ heardIn D fwClient es → ev.Honest D.policy)
    {name srcZone dstZone : String} {f : Frame} {p : Ipv4}
    (hreceived : .received name f ∈ ((siteAfter D fwClient es).step D e).2)
    (hbody : f.body = .ip p) (hgateway : isGateway D p.srcip = false)
    (hsrc : zoneForIp D.policy (.v4 p.srcip) = some srcZone)
    (hdst : zoneForIp D.policy (.v4 p.dstip) = some dstZone) (hne : srcZone ≠ dstZone) :
    hostZone D.net name = some dstZone ∧
    (∃ sender f₀ p₀, .sends sender f₀ ∈ es ∧ hostZone D.net sender = some srcZone ∧
      f₀.body = .ip p₀ ∧ 1 < p₀.ttl ∧ p = { p₀ with ttl := p₀.ttl - 1 }) ∧
    (firewallAllowed D.policy (some srcZone) (some dstZone) p.isIcmp = true ∨
      ∃ p', RepliesTo D es dstZone p p') := by
  obtain ⟨hplace, hsent, hpassed⟩ := passed_of_received hreceived hbody hgateway hsrc hdst hne
  refine ⟨hplace, hsent, (allowed_or_repliesTo hhonest hpassed hdst).imp_left fun hallowed => ?_⟩
  rwa [header_allowed, hsrc, hdst] at hallowed

/-- Where nobody asks a daemon, it answers as the policy says. -/
theorem honest_of_unasked {es : List SiteEvent}
    (h : ∀ i answer now, .asked i answer now ∈ es → answer = none) (ev : PacketIn)
    (hev : .packetIn ev ∈ heardIn D fwClient es) : ev.Honest D.policy := by
  intro p hbody answer hanswer
  obtain ⟨i, hi⟩ := exists_asked_of_heardIn hev
  rw [h i ev.firewall ev.now hi] at hanswer
  cases hanswer

/-- A packet from the outside to a department. -/
def fromOutside : Ipv4 := hUntrust.tcp 7 h101.ip 4000 80

/-- The department's host asks for its gateway's address. Then the outside sends it a packet, which
makes its hop at the controller and comes down to the host's leaf. -/
def outsideTalks : List SiteEvent :=
  [.connects 1, .connects 6,
    .sends "h101" ⟨true, h101.mac, etherBroadcast,
      .arp ⟨arpRequest, h101.mac, etherBroadcast, h101.ip, gatewayIp deployment "DeptA"⟩⟩,
    .arrives 0 0, .asked 0 none 0,
    .sends "h_untrust" ⟨true, hUntrust.mac, gatewayMac deployment "Untrust", .ip fromOutside⟩,
    .arrives 0 0, .asked 0 none 0, .told 2 0,
    .arrives 0 0, .asked 0 none 0, .told 2 0]

/-- The packet as the department's host receives it. -/
def receivedFromOutside : Ipv4 := { fromOutside with ttl := fromOutside.ttl - 1 }

theorem received_outsideTalks : Report.received "h101" ⟨true, gatewayMac deployment "DeptA",
    h101.mac, .ip receivedFromOutside⟩ ∈
      ((siteAfter deployment false outsideTalks).step deployment (.arrives 0 0)).2 := by
  decide +kernel

theorem honest_outsideTalks : ∀ ev, .packetIn ev ∈ heardIn deployment false outsideTalks →
    ev.Honest deployment.policy :=
  honest_of_unasked (by simp +contextual [outsideTalks])

theorem received_only_if_allowed_h101 :
    hostZone deployment.net "h101" = some "DeptA" ∧
    (∃ sender f₀ p₀, .sends sender f₀ ∈ outsideTalks ∧
      hostZone deployment.net sender = some "Untrust" ∧ f₀.body = .ip p₀ ∧ 1 < p₀.ttl ∧
        receivedFromOutside = { p₀ with ttl := p₀.ttl - 1 }) ∧
    (firewallAllowed deployment.policy (some "Untrust") (some "DeptA")
        receivedFromOutside.isIcmp = true ∨
      ∃ p', RepliesTo deployment outsideTalks "DeptA" receivedFromOutside p') :=
  received_only_if_allowed deployment false outsideTalks (.arrives 0 0) honest_outsideTalks
    received_outsideTalks rfl (by decide +kernel) (by decide +kernel) (by decide +kernel)
    (by decide)

/-- What is blocked for a class of packets is blocked for each packet of it. -/
theorem firewallAllowed_of_class {P : Policy} {src dst : Option String} {icmpOnly isIcmp : Bool}
    (h : firewallAllowed P src dst icmpOnly = false) (hclass : icmpOnly = true → isIcmp = true) :
    firewallAllowed P src dst isIcmp = false := by
  cases icmpOnly with
  | true => rwa [hclass rfl]
  | false =>
    cases isIcmp with
    | false => exact h
    | true => exact Bool.eq_false_iff.mpr fun hicmp => by simp [firewallAllowed_of_icmp hicmp] at h

/-- **No packet comes from one zone to another if neither may open connections to the other.** If
the policy blocks a class of packets, all IP or ICMP, between two zones in both directions, then in
no run of the network does any host receive a packet of the class that is addressed from a host's
address of the one to an address of the other. -/
theorem blocked_zones_stay_apart (D : Deployment) (fwClient : Bool) (es : List SiteEvent)
    (hhonest : ∀ ev, .packetIn ev ∈ heardIn D fwClient es → ev.Honest D.policy)
    {srcZone dstZone : String} {icmpOnly : Bool}
    (hblocked : firewallAllowed D.policy (some srcZone) (some dstZone) icmpOnly = false)
    (hblocked' : firewallAllowed D.policy (some dstZone) (some srcZone) icmpOnly = false)
    (hne : srcZone ≠ dstZone) {name : String} {f : Frame} {p : Ipv4} (hbody : f.body = .ip p)
    (hgateway : isGateway D p.srcip = false) (hclass : icmpOnly = true → p.isIcmp = true)
    (hsrc : zoneForIp D.policy (.v4 p.srcip) = some srcZone)
    (hdst : zoneForIp D.policy (.v4 p.dstip) = some dstZone) :
    .received name f ∉ reports D fwClient es := by
  intro hreceived
  obtain ⟨past, e, rest, rfl, hout⟩ := Run.mem_trace_iff.mp hreceived
  have hpast : ∀ ev, .packetIn ev ∈ heardIn D fwClient past → ev.Honest D.policy := by
    intro ev hev
    refine hhonest ev ?_
    rw [heardIn, Run.observed_append]
    exact List.mem_append_left _ hev
  obtain ⟨-, -, hpassed⟩ := passed_of_received hout hbody hgateway hsrc hdst hne
  rcases allowed_or_repliesTo hpast hpassed hdst with hallowed | ⟨p', hreply⟩
  · rw [header_allowed, hsrc, hdst, firewallAllowed_of_class hblocked hclass] at hallowed
    cases hallowed
  · have hallowed := hreply.allowed
    have hicmp : p'.isIcmp = p.isIcmp := by rw [Ipv4.isIcmp, hreply.protocol, Ipv4.isIcmp]
    rw [header_allowed, hreply.srcip, hreply.dstip, hsrc, hdst, hicmp,
      firewallAllowed_of_class hblocked' hclass] at hallowed
    cases hallowed

/-- A packet from the outside to the server. -/
def toServerFromOutside : Ipv4 := hUntrust.tcp 7 hServer.ip 4000 80

/-- The server makes its place known, and the outside sends it a packet, which a rule drops. -/
def outsideKnocks : List SiteEvent :=
  [.connects 5, .connects 6,
    .sends "h_server" ⟨true, hServer.mac, etherBroadcast,
      .arp ⟨arpRequest, hServer.mac, etherBroadcast, hServer.ip,
        gatewayIp deployment "DataCenter"⟩⟩,
    .arrives 0 0, .asked 0 none 0,
    .sends "h_untrust" ⟨true, hUntrust.mac, gatewayMac deployment "Untrust",
      .ip toServerFromOutside⟩,
    .arrives 0 0, .asked 0 none 0, .told 1 0]

theorem blocked_zones_stay_apart_untrust :
    .received "h_server" ⟨true, gatewayMac deployment "DataCenter", hServer.mac,
        .ip { toServerFromOutside with ttl := toServerFromOutside.ttl - 1 }⟩ ∉
      reports deployment false outsideKnocks := by
  have hhonest : ∀ ev, .packetIn ev ∈ heardIn deployment false outsideKnocks →
      ev.Honest deployment.policy := honest_of_unasked (by simp +contextual [outsideKnocks])
  have hblocked : firewallAllowed deployment.policy (some "Untrust") (some "DataCenter") false =
      false := by decide +kernel
  have hblocked' : firewallAllowed deployment.policy (some "DataCenter") (some "Untrust") false =
      false := by decide +kernel
  exact blocked_zones_stay_apart deployment false outsideKnocks hhonest hblocked hblocked'
    (by decide) rfl (by decide +kernel) (fun h => Bool.noConfusion h) (by decide +kernel)
    (by decide +kernel)

end ZoneSegmentation
