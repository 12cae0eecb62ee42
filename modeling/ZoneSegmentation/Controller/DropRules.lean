import ZoneSegmentation.Controller.Tracking

/-!
# What a drop rule drops

A drop rule is meant for the connection of one blocked packet. A rule identifies a packet by its
OpenFlow match, connection tracking by its tracked flow. The two agree on packets with ports, and
on packets that are not tracked at all; they differ on pings, whose identifier no rule can match,
and on packets whose header was not parsed, whose rule matches every connection between the hosts.

## Main definitions

* `Ipv4.MatchIsExact`: the packets that a rule can tell from other connections

## Main results

* `forall_tracked_eq_iff`: a rule's packets are all tracked as the one it was made for exactly when
  that one's match is exact
* `drop_rule_exact_iff`: a drop rule drops no other connection exactly when its packet's match is
  exact
* `drop_rule_drops_reply`: a drop rule that drops the reply to a live ping
-/

namespace ZoneSegmentation

open OfpMatch

/-- A packet whose match tells it from packets that are tracked differently: its transport header
was parsed, or has no such header; and it is no ping. -/
def Ipv4.MatchIsExact (p : Ipv4) : Prop :=
  match p.payload with
  | .tcp .. | .udp .. => True
  | .icmp type _ _ => type ≠ icmpEchoRequest ∧ type ≠ icmpEchoReply
  | .raw => p.protocol ≠ ipprotoTcp ∧ p.protocol ≠ ipprotoUdp ∧ p.protocol ≠ ipprotoIcmp

namespace Ipv4

theorem protocol_of_proto? {p : Ipv4} {n : ℕ} (h : p.payload.proto? = some n) : p.protocol = n :=
  (p.payload_proto n h).symm

theorem proto?_eq {p : Ipv4} {ports : ℕ × ℕ} (h : p.payload.tp? = some ports) :
    p.payload.proto? = some p.protocol := by
  have hproto := p.payload_proto
  cases hp : p.payload with
  | raw => simp [hp, Payload.tp?] at h
  | tcp | udp | icmp =>
    rw [hp] at hproto
    exact congrArg some (hproto _ rfl)

theorem tracked_of_raw {p : Ipv4} (h : p.payload = .raw) : p.tracked = none := by
  simp [tracked, h]

theorem tracked_of_icmp {p : Ipv4} {type code echoId : ℕ} (h : p.payload = .icmp type code echoId) :
    p.tracked =
      trackedPacket (.v4 p.srcip) (.v4 p.dstip) ipprotoIcmp 0 0 (some type) echoId := by
  have hproto : p.protocol = ipprotoIcmp := protocol_of_proto? (by rw [h]; rfl)
  simp [tracked, h, hproto, ipprotoIcmp, ipprotoTcp, ipprotoUdp]

end Ipv4

namespace OfpMatch.SameFields

variable {p q : Ipv4}

/-- A packet with the same fields has the same transport header, if the rule's packet has one: the
protocols are the same, so the fields mean the same. -/
theorem proto?_eq (h : SameFields p q) (ports : ℕ × ℕ) (hp : p.payload.tp? = some ports) :
    q.payload.proto? = p.payload.proto? := by
  rw [Ipv4.proto?_eq (h.tp ports hp), Ipv4.proto?_eq hp, h.protocol]

theorem tcp (h : SameFields p q) {srcport dstport : ℕ} (hp : p.payload = .tcp srcport dstport) :
    q.payload = .tcp srcport dstport := by
  have htp := h.tp (srcport, dstport) (by rw [hp]; rfl)
  have hproto := h.proto?_eq (srcport, dstport) (by rw [hp]; rfl)
  cases hq : q.payload <;>
    simp_all [Payload.tp?, Payload.proto?, ipprotoTcp, ipprotoUdp, ipprotoIcmp]

theorem udp (h : SameFields p q) {srcport dstport : ℕ} (hp : p.payload = .udp srcport dstport) :
    q.payload = .udp srcport dstport := by
  have htp := h.tp (srcport, dstport) (by rw [hp]; rfl)
  have hproto := h.proto?_eq (srcport, dstport) (by rw [hp]; rfl)
  cases hq : q.payload <;>
    simp_all [Payload.tp?, Payload.proto?, ipprotoTcp, ipprotoUdp, ipprotoIcmp]

theorem icmp (h : SameFields p q) {type code echoId : ℕ}
    (hp : p.payload = .icmp type code echoId) : ∃ id, q.payload = .icmp type code id := by
  have htp := h.tp (type, code) (by rw [hp]; rfl)
  have hproto := h.proto?_eq (type, code) (by rw [hp]; rfl)
  cases hq : q.payload <;>
    simp_all [Payload.tp?, Payload.proto?, ipprotoTcp, ipprotoUdp, ipprotoIcmp]

/-- Packets with the same fields are tracked alike, if those fields are exact. -/
theorem tracked_eq (h : SameFields p q) (hexact : p.MatchIsExact) : q.tracked = p.tracked := by
  unfold Ipv4.MatchIsExact at hexact
  cases hp : p.payload with
  | tcp srcport dstport =>
    simp [Ipv4.tracked, hp, h.tcp hp, h.protocol, h.srcip, h.dstip]
  | udp srcport dstport =>
    simp [Ipv4.tracked, hp, h.udp hp, h.protocol, h.srcip, h.dstip]
  | icmp type code echoId =>
    obtain ⟨id, hq⟩ := h.icmp hp
    simp only [hp] at hexact
    rw [Ipv4.tracked_of_icmp hp, Ipv4.tracked_of_icmp hq]
    simp [trackedPacket, hexact, ipprotoIcmp, ipprotoTcp, ipprotoUdp]
  | raw =>
    simp only [hp] at hexact
    simp [Ipv4.tracked, h.protocol, hexact]

end OfpMatch.SameFields

/-- The packet with another payload of the same protocol. -/
def Ipv4.withPayload (p : Ipv4) (payload : Payload) (h : ∀ n ∈ payload.proto?, n = p.protocol) :
    Ipv4 :=
  { p with payload := payload, payload_proto := h }

/-- A packet whose match is not exact has the fields of one that is tracked differently: a ping
with another identifier, or a packet whose header is parsed. -/
theorem exists_sameFields_tracked_ne {p : Ipv4} (hexact : ¬ p.MatchIsExact) :
    ∃ q, SameFields p q ∧ q.tracked ≠ p.tracked := by
  unfold Ipv4.MatchIsExact at hexact
  cases hp : p.payload with
  | tcp | udp => simp [hp] at hexact
  | icmp type code echoId =>
    -- a match compares type and code, and no identifier
    have hproto : p.protocol = ipprotoIcmp := Ipv4.protocol_of_proto? (by rw [hp]; rfl)
    let other := if echoId = 0 then 1 else 0
    have hother : other ≠ echoId := by
      simp only [other]
      split <;> omega
    let q := p.withPayload (.icmp type code other) (by simp [Payload.proto?, hproto])
    refine ⟨q, ⟨rfl, rfl, rfl, rfl, by simp [hp, q, Ipv4.withPayload, Payload.tp?]⟩, ?_⟩
    rw [Ipv4.tracked_of_icmp (p := q) rfl, Ipv4.tracked_of_icmp hp]
    simp only [hp, not_and_or, not_not] at hexact
    rcases hexact with rfl | rfl <;>
      simp [trackedPacket, ipprotoIcmp, ipprotoTcp, ipprotoUdp, icmpEchoRequest, icmpEchoReply,
        hother]
  | raw =>
    simp only [hp, not_and_or, not_not] at hexact
    rw [Ipv4.tracked_of_raw hp]
    -- a fragment has no header to compare, and a packet that has one matches it
    rcases hexact with hproto | hproto | hproto
    · refine ⟨p.withPayload (.tcp 0 0) (by simp [Payload.proto?, hproto]),
        ⟨rfl, rfl, rfl, rfl, by simp [hp, Payload.tp?]⟩, ?_⟩
      simp [Ipv4.tracked, Ipv4.withPayload, hproto, trackedPacket]
    · refine ⟨p.withPayload (.udp 0 0) (by simp [Payload.proto?, hproto]),
        ⟨rfl, rfl, rfl, rfl, by simp [hp, Payload.tp?]⟩, ?_⟩
      simp [Ipv4.tracked, Ipv4.withPayload, hproto, trackedPacket]
    · let q := p.withPayload (.icmp icmpEchoRequest 0 0) (by simp [Payload.proto?, hproto])
      refine ⟨q, ⟨rfl, rfl, rfl, rfl, by simp [hp, Payload.tp?]⟩, ?_⟩
      rw [Ipv4.tracked_of_icmp (p := q) rfl]
      simp [trackedPacket, ipprotoIcmp, ipprotoTcp, ipprotoUdp]

theorem forall_tracked_eq_iff {p : Ipv4} :
    (∀ q, SameFields p q → q.tracked = p.tracked) ↔ p.MatchIsExact := by
  constructor
  · intro h
    by_contra hexact
    obtain ⟨q, hq, hne⟩ := exists_sameFields_tracked_ne hexact
    exact hne (h q hq)
  · exact fun hexact q hq => hq.tracked_eq hexact

variable {D : Deployment} {s : ZoneRouter}

/-- Only a blocked packet causes a rule without actions, its drop rule. -/
theorem eq_dropMod_of_handled {ev : PacketIn} {s' : ZoneRouter} {log : List Sent}
    (hstep : Handled D s ev s' log) {dpid : ℕ} {mod : FlowMod}
    (hm : ⟨dpid, .flowMod mod⟩ ∈ log) (hactions : mod.actions = []) :
    dpid = ev.dpid ∧ mod = dropMod ev ∧ ∃ p, ev.packet.body = .ip p := by
  rcases hstep.flowMod hm with ⟨-, ⟨outPort, rfl⟩, -⟩ |
    ⟨hdpid, rfl, p, snd, dstZone, hcross, -⟩ | ⟨p, snd, dstZone, loc, -, -, -, hm⟩
  · simp [l2Mod] at hactions
  · exact ⟨hdpid, rfl, p, (crossing_eq_some hcross).2.1⟩
  · rcases flowMod_of_mem_routeFlowsSent hm with ⟨-, rfl⟩ | ⟨-, -, uplink, -, rfl⟩
    · simp [coreMod] at hactions
    · simp [leafMod] at hactions

/-- **A drop rule drops no other connection exactly when the blocked packet's match is exact.**
Take any state the controller reaches, and any packet-in that makes it install a drop rule. The
packet-in carries an IP packet `p`, and everything that matches the rule is an IP packet that is
tracked as `p` is if and only if `p` is no ping, and its header was parsed if it has one. -/
theorem drop_rule_exact_iff (D : Deployment) (fwClient : Bool) (es : List Event) {ev : PacketIn}
    {dpid : ℕ} {mod : FlowMod}
    (hdrop : ⟨dpid, .flowMod mod⟩ ∈ (step D (stateAfter D fwClient es) (.packetIn ev)).2)
    (hactions : mod.actions = []) :
    dpid = ev.dpid ∧ ∃ p, ev.packet.body = .ip p ∧
      ((∀ port q, mod.ofpMatch.Matches port q → ∃ p', q.body = .ip p' ∧ p'.tracked = p.tracked) ↔
        p.MatchIsExact) := by
  have hstep := step_stepped (routerOk_stateAfter (D := D) fwClient es) (.packetIn ev)
  generalize (step D (stateAfter D fwClient es) (.packetIn ev)).1 = s',
    (step D (stateAfter D fwClient es) (.packetIn ev)).2 = log at hstep hdrop
  cases hstep with
  | packetIn hhandled =>
    obtain ⟨hdpid, rfl, p, hbody⟩ := eq_dropMod_of_handled hhandled hdrop hactions
    have hmatch : ∀ port q, (dropMod ev).ofpMatch.Matches port q ↔
        ev.port = port ∧ q.src = ev.packet.src ∧ q.dst = ev.packet.dst ∧
          ∃ p', q.body = .ip p' ∧ SameFields p p' := by
      intro port q
      have hin : (dropMod ev).ofpMatch =
          { fromPacket ev.packet ev.port with inPort := some ev.port } := by
        simp [dropMod, fromPacket, hbody]
      rw [hin, matches_fromPacket_ip hbody, agrees_some, Option.some.injEq, eq_comm]
    refine ⟨hdpid, p, hbody, ?_⟩
    rw [← forall_tracked_eq_iff]
    constructor
    · intro h q hq
      obtain ⟨p', hp', htracked⟩ := h ev.port { ev.packet with body := .ip q }
        ((hmatch ..).mpr ⟨rfl, rfl, rfl, q, rfl, hq⟩)
      exact Body.ip.inj hp' ▸ htracked
    · intro h port q hq
      obtain ⟨-, -, -, p', hp', hsame⟩ := (hmatch ..).mp hq
      exact ⟨p', hp', h p' hsame⟩

/-- A department host pings the outside host, which answers a ping that nobody sent: the answer is
blocked, and its drop rule is installed. -/
def strayEchoReply : PacketIn :=
  hUntrust.frameIn 0x020000000005 (.ip (hUntrust.icmp 2 h101.ip icmpEchoReply 1)) 1

/-- The reply to the ping. -/
def liveEchoReply : PacketIn :=
  hUntrust.frameIn 0x020000000005 (.ip (hUntrust.icmp 3 h101.ip icmpEchoReply 2)) 2

def pinged : List Event :=
  [6, 1, 2, 3, 4, 5].map .connectionUp ++
    [h101.sends 0x020000000001 (.ip (h101.icmp 1 hUntrust.ip icmpEchoRequest 2)) 0]

/-- The drop rule of a blocked TCP packet. -/
theorem drop_rule_exact_iff_tcp :
    let ev := hUntrust.frameIn 0x020000000005 (.ip (hUntrust.tcp 1 hServer.ip 4000 80)) 0
    ev.dpid = ev.dpid ∧ ∃ p, ev.packet.body = .ip p ∧
      ((∀ port q, (dropMod ev).ofpMatch.Matches port q →
          ∃ p', q.body = .ip p' ∧ p'.tracked = p.tracked) ↔ p.MatchIsExact) :=
  drop_rule_exact_iff deployment false [] (by decide +kernel) (by decide +kernel)

/-- The drop rule of the stray answer matches the reply, which the controller would let in. -/
theorem drop_rule_drops_reply :
    (step deployment (stateAfter deployment false pinged) (.packetIn strayEchoReply)).2 =
      [⟨6, .flowMod (dropMod strayEchoReply)⟩] ∧
    (dropMod strayEchoReply).ofpMatch.Matches 7 liveEchoReply.packet ∧
    (stateAfter deployment false (pinged ++ [.packetIn strayEchoReply])).verdict deployment
      liveEchoReply (hUntrust.icmp 3 h101.ip icmpEchoReply 2) "Untrust" "DeptA" = some .reply ∧
    ¬ ∀ port q, (dropMod strayEchoReply).ofpMatch.Matches port q →
      ∃ p', q.body = .ip p' ∧ p'.tracked = (hUntrust.icmp 2 h101.ip icmpEchoReply 1).tracked := by
  have hmatch : (dropMod strayEchoReply).ofpMatch.Matches 7 liveEchoReply.packet := by
    decide +kernel
  refine ⟨by decide +kernel, hmatch, by decide +kernel, fun h => ?_⟩
  obtain ⟨p', hbody, htracked⟩ := h 7 liveEchoReply.packet hmatch
  obtain rfl := Body.ip.inj hbody
  exact absurd htracked (by decide +kernel)

end ZoneSegmentation
