import ZoneSegmentation.Switch.Fabric

/-!
# Pings through the switches

Two hosts of different zones, of which only the first may ping the other. Whatever passes between
them, a reply to a forwarded ping is let in exactly when the switches have no drop rule for it and,
unless a rule carries it, the controller has recorded its identifier. Both can fail: a switch rule
carries pings of every identifier, so the controller may not see a request, refuses the reply to
it, and with it the replies to all other pings.

## Main definitions

* `Endpoint`, `PingPair`: the hosts
* `PingEvent`, `pingStep`: what happens between them
* `LetIn`: replies to forwarded pings are let in
* `WayOpen`, `Recorded`: when a reply gets through

## Main results

* `replies_let_in_iff`: the replies of a run are let in exactly when their way is open
* `replies_let_in_of_recorded`: they are if the controller recorded every reply that it sees
* `replies_let_in_fails`: a run whose replies are refused
-/

namespace ZoneSegmentation

open KeepAlive OfpMatch
variable (D : Deployment)

/-! ## Hosts -/

/-- A host, with its zone and the port of the core that leads to it. -/
structure Endpoint extends Station where
  zone : String
  corePort : ℕ
  not_uplink : isLeafUplink D.maps dpid port = false
  zone_eq : zoneOfPort D.maps dpid port = some zone
  corePort_eq : corePortFor D.maps dpid port = some corePort
  valid : sourceIpValidForZone D.policy (.v4 ip) zone = true
  not_gateway : isGateway D ip = false

/-- Two hosts of different zones, of which only the first may ping the other. -/
structure PingPair where
  a : Endpoint D
  b : Endpoint D
  zone_ne : a.zone ≠ b.zone
  allowed : firewallAllowed D.policy (some a.zone) (some b.zone) true = true
  blocked : firewallAllowed D.policy (some b.zone) (some a.zone) true = false

namespace Endpoint

variable {D}

/-- Where the controller knows a host to be. -/
def location (h : Endpoint D) : Location := ⟨h.corePort, h.mac, h.zone⟩

/-- Where a packet for a host leaves the core. -/
def egress (h : Endpoint D) : Egress := ⟨D.maps.coreDpid, h.corePort, h.mac⟩

end Endpoint

/-! ## Pings -/

/-- An echo request or reply that its TTL lets pass a router. -/
structure Echo where
  /-- The time since the event before. -/
  wait : ℚ
  uid : ℕ
  id : ℕ
  tos : ℕ
  ttl : ℕ
  wait_nonneg : 0 ≤ wait
  ttl_pos : 1 < ttl
  /-- The address that the sender takes for its gateway's. -/
  gateway : EthAddr
  /-- The rule that the firewall daemon names, when it can be reached. -/
  daemon : Option (BitVec 8)
  deriving DecidableEq

namespace Echo

/-- The IP packet. -/
def ip (e : Echo) (src dst : IPAddr) (type : ℕ) : Ipv4 where
  uid := e.uid
  srcip := src
  dstip := dst
  protocol := ipprotoIcmp
  tos := e.tos
  ttl := e.ttl
  payload := .icmp type 0 e.id
  payload_proto := icmp_payload_proto type 0 e.id

variable {D}

/-- The packet as it enters its sender's switch. -/
def packetIn (e : Echo) (x y : Endpoint D) (type : ℕ) (clock : ℚ) : PacketIn where
  dpid := x.dpid
  port := x.port
  packet := ⟨true, x.mac, e.gateway, .ip (e.ip x.ip y.ip type)⟩
  firewall := e.daemon.map fun rule =>
    (firewallAllowed D.policy (some x.zone) (some y.zone) true, rule)
  now := clock + e.wait

end Echo

variable {D}

/-- What happens between two hosts: the first pings, the other replies, the controller sweeps its
connection table. -/
inductive PingEvent where
  | request (e : Echo)
  | reply (e : Echo)
  | sweep (wait : ℚ) (wait_nonneg : 0 ≤ wait)
  deriving DecidableEq

/-- The switches and the controller, with the identifiers of the requests that were forwarded. -/
structure PingState where
  fabric : Fabric
  forwarded : List (ℕ × ℚ)

namespace PingPair

variable (P : PingPair D) (S : PingState)

/-- A request as it enters the first host's switch. -/
def request (e : Echo) : PacketIn := e.packetIn P.a P.b icmpEchoRequest S.fabric.clock

/-- A reply as it enters the other host's switch. -/
def reply (e : Echo) : PacketIn := e.packetIn P.b P.a icmpEchoReply S.fabric.clock

/-- One event: the state after it, and where packets leave the switches. -/
def pingStep : PingEvent → PingState × List Egress
  | .request e =>
    let ev := P.request S e
    let (fabric, out) := S.fabric.transmit D ev
    (⟨fabric, if P.b.egress ∈ out then (e.id, ev.now) :: S.forwarded else S.forwarded⟩, out)
  | .reply e =>
    let (fabric, out) := S.fabric.transmit D (P.reply S e)
    (⟨fabric, S.forwarded⟩, out)
  | .sweep wait _ => (⟨S.fabric.sweep (S.fabric.clock + wait), S.forwarded⟩, [])

/-! ## Replies -/

/-- A reply answers a request that was forwarded less than the idle timeout ago. -/
def Due (e : Echo) : Prop :=
  ∃ r ∈ S.forwarded, r.1 = e.id ∧ (P.reply S e).now - r.2 < idleTimeout

/-- The other host only answers requests that it got. -/
def Answers : PingEvent → Prop
  | .reply e => ∃ r ∈ S.forwarded, r.1 = e.id
  | _ => True

/-- **A reply to a forwarded ping is let in.** -/
def LetIn : PingEvent → Prop
  | .reply e => P.Due S e → P.a.egress ∈ (P.pingStep S (.reply e)).2
  | _ => True

/-- What the rules do with a reply. -/
def replyPassage (e : Echo) : Passage :=
  let ev := P.reply S e
  (pass D S.fabric.rules ev.now ev.dpid ev.port ev.packet).1

/-- Pings with the identifier of a reply reached the controller: an echo request, and others after
it, each less than the idle timeout after the one before, up to now. -/
def Chained (e : Echo) : Prop :=
  ∃ c, (Call.signals ⟨.v4 P.b.ip, .v4 P.a.ip, ipprotoIcmp, e.id, e.id⟩).Chain idleTimeout
    (callsOf D S.fabric.fwClient S.fabric.history) (P.reply S e).now c

/-- The way of a reply to a forwarded ping is open: its rules do not drop it, and if it misses them
then pings with its identifier reached the controller. -/
def WayOpen : PingEvent → Prop
  | .reply e => P.Due S e → match P.replyPassage S e with
    | .left out => out ≠ []
    | .missed .. => P.Chained S e
  | _ => True

/-- Pings with the identifier of a reply that misses the rules reached the controller. -/
def Recorded : PingEvent → Prop
  | .reply e => (∃ dpid port, P.replyPassage S e = .missed dpid port) → P.Chained S e
  | _ => True

instance (e : Echo) : Decidable (P.Due S e) := inferInstanceAs (Decidable (∃ r ∈ _, _))

instance (e : PingEvent) : Decidable (P.LetIn S e) := by
  cases e <;> unfold LetIn <;> infer_instance

instance (e : PingEvent) : Decidable (Answers S e) := by
  cases e <;> unfold Answers <;> infer_instance

end PingPair

/-! ## The start -/

/-- The controller is connected to the core and knows where both hosts are; its past is over, and
no rules are installed. -/
structure PingStart (P : PingPair D) (S : PingState) : Prop where
  timed : TimedEvents S.fabric.history
  before : ∀ t ∈ S.fabric.history.filterMap Event.time?, t ≤ S.fabric.clock
  core : D.maps.coreDpid ∈ (S.fabric.router D).connections
  located_a : (S.fabric.router D).ipToLoc.get? P.a.ip = some P.a.location
  located_b : (S.fabric.router D).ipToLoc.get? P.b.ip = some P.b.location
  rules : S.fabric.rules = []
  forwarded : S.forwarded = []

/-! ## Where the packets enter -/

/-- A port at which packets of a host come in: its own, or that of the core that leads to it. -/
structure Endpoint.Ingress (x : Endpoint D) (dpid port : ℕ) : Prop where
  not_uplink : isLeafUplink D.maps dpid port = false
  zone_eq : zoneOfPort D.maps dpid port = some x.zone
  corePort_eq : corePortFor D.maps dpid port = some x.corePort

namespace Endpoint

variable {x y : Endpoint D}

theorem ingress_self (x : Endpoint D) : x.Ingress x.dpid x.port :=
  ⟨x.not_uplink, x.zone_eq, x.corePort_eq⟩

theorem ingress_core (x : Endpoint D) : x.Ingress D.maps.coreDpid x.corePort := by
  refine ⟨D.isLeafUplink_core _, ?_, if_pos rfl⟩
  obtain ⟨p, hp, hzone⟩ := D.exists_corePortFor x.zone_eq
  obtain rfl := Option.some.inj (hp.symm.trans x.corePort_eq)
  rw [zoneOfPort, if_pos rfl, hzone]
  rfl

theorem zoneForIp_ip (x : Endpoint D) : zoneForIp D.policy (.v4 x.ip) = some x.zone :=
  (sourceIpValidForZone_iff.mp x.valid).1

theorem ip_ne (hne : x.zone ≠ y.zone) : x.ip ≠ y.ip := fun h =>
  hne (Option.some.inj (x.zoneForIp_ip.symm.trans (h ▸ y.zoneForIp_ip)))

end Endpoint

/-- The echo between two hosts, as a switch hands it to the controller. -/
def Echo.packetInAt (e : Echo) (x y : Endpoint D) (type : ℕ) (clock : ℚ) (dpid port : ℕ) :
    PacketIn :=
  { e.packetIn x y type clock with dpid, port }

section

variable {x y : Endpoint D} {dpid port : ℕ} {clock : ℚ}

theorem Endpoint.Ingress.sender (h : x.Ingress dpid port) (e : Echo) (type : ℕ) :
    acceptedSender D (e.packetInAt x y type clock dpid port) = some ⟨x.ip, x.mac, x.zone⟩ := by
  have hclaim : (e.packetInAt x y type clock dpid port).packet.claim = some (x.ip, x.mac) := rfl
  rw [acceptedSender_of_claim rfl h.not_uplink hclaim h.zone_eq, x.valid, if_pos rfl]

/-- A ping between two zones is to cross zones. -/
theorem Endpoint.Ingress.crossing (h : x.Ingress dpid port) (hne : x.zone ≠ y.zone) (e : Echo)
    (type : ℕ) : crossing D (e.packetInAt x y type clock dpid port) =
      some (e.ip x.ip y.ip type, ⟨x.ip, x.mac, x.zone⟩, y.zone) :=
  crossing_of_ne (h.sender e type) rfl y.not_gateway y.zoneForIp_ip hne.symm

/-- The policy's verdict on it is that of the rules. -/
theorem policyAllowed_echo (s : ZoneRouter) (e : Echo) (type : ℕ) :
    s.policyAllowed D x.zone y.zone (e.ip x.ip y.ip type).isIcmp
        (e.packetInAt x y type clock dpid port).firewall =
      firewallAllowed D.policy (some x.zone) (some y.zone) true := by
  unfold ZoneRouter.policyAllowed
  cases hdaemon : e.daemon <;> simp [Echo.packetInAt, Echo.packetIn, hdaemon, Ipv4.isIcmp, Echo.ip]

theorem tracked_reply (e : Echo) (src dst : IPAddr) : (e.ip src dst icmpEchoReply).tracked =
    some ⟨⟨.v4 src, .v4 dst, ipprotoIcmp, e.id, e.id⟩, false, true⟩ := rfl

end

/-! ## Rules between the hosts -/

namespace PingPair

variable (P : PingPair D)

/-- One of the two hosts, and the other. -/
def Between (x y : Endpoint D) : Prop := (x = P.a ∧ y = P.b) ∨ (x = P.b ∧ y = P.a)

/-- A rule drops what it matches, or leads it to the host that it is for. -/
def RuleOk (dpid : ℕ) (mod : FlowMod) : Prop :=
  mod.actions = [] ∨ ∃ x y, P.Between x y ∧ mod.ofpMatch.nwDst = some y.ip ∧
    (dpid = D.maps.coreDpid ∧ (∀ dst, outputs dpid mod.actions dst = [y.egress]) ∨
      ∃ uplink, D.maps.leafUplinkPort.get? dpid = some uplink ∧ mod.actions = [.output uplink])

/-- What holds of the switches and the controller all along. -/
structure FabricOk (F : Fabric) : Prop where
  timed : TimedEvents F.history
  before : ∀ t ∈ F.history.filterMap Event.time?, t ≤ F.clock
  core : D.maps.coreDpid ∈ (F.router D).connections
  located : ∀ x y, P.Between x y → (F.router D).ipToLoc.get? y.ip = some y.location
  rules : ∀ r ∈ F.rules, P.RuleOk r.dpid r.mod

variable {P} {x y : Endpoint D}

theorem Between.symm (h : P.Between x y) : P.Between y x := by
  rcases h with ⟨rfl, rfl⟩ | ⟨rfl, rfl⟩
  · exact .inr ⟨rfl, rfl⟩
  · exact .inl ⟨rfl, rfl⟩

theorem Between.zone_ne (h : P.Between x y) : x.zone ≠ y.zone := by
  rcases h with ⟨rfl, rfl⟩ | ⟨rfl, rfl⟩
  · exact P.zone_ne
  · exact P.zone_ne.symm

/-- The hosts have different addresses. -/
theorem Between.eq_of_ip {x' y' : Endpoint D} (h : P.Between x y) (h' : P.Between x' y')
    (hip : y'.ip = y.ip) : y' = y := by
  have hne := Endpoint.ip_ne P.zone_ne
  rcases h with ⟨rfl, rfl⟩ | ⟨rfl, rfl⟩ <;> rcases h' with ⟨rfl, rfl⟩ | ⟨rfl, rfl⟩
  · rfl
  · exact absurd hip hne
  · exact absurd hip hne.symm
  · rfl

theorem fabricOk_of_start {S : PingState} (h : PingStart P S) : P.FabricOk S.fabric := by
  refine ⟨h.timed, h.before, h.core, fun x y hxy => ?_, by simp [h.rules]⟩
  rcases hxy with ⟨rfl, rfl⟩ | ⟨rfl, rfl⟩
  · exact h.located_b
  · exact h.located_a

/-- A rule that takes an echo for `y` drops it, or leads it to `y`. -/
theorem RuleOk.of_takes {r : Rule} (h : P.RuleOk r.dpid r.mod) (hxy : P.Between x y) {e : Echo}
    {type : ℕ} {clock now : ℚ} {dpid port : ℕ}
    (htakes : r.Takes now dpid port (e.packetIn x y type clock).packet) :
    r.mod.actions = [] ∨
      (dpid = D.maps.coreDpid ∧ ∀ dst, outputs dpid r.mod.actions dst = [y.egress]) ∨
      ∃ uplink, D.maps.leafUplinkPort.get? dpid = some uplink ∧
        r.mod.actions = [.output uplink] := by
  obtain ⟨rfl, -, hmatch⟩ := htakes
  rcases h with h | ⟨x', y', hxy', hdst, h⟩
  · exact .inl h
  · refine .inr ?_
    have hip : y'.ip = y.ip := by
      have hfield := hmatch.2.2.2.2.2.1
      rw [hdst, agrees_some] at hfield
      exact (Option.some.inj hfield).symm
    rwa [hxy.eq_of_ip hxy' hip] at h

/-- **An echo that meets the rules** is dropped, or leaves the core for its destination, or misses
them at a port at which packets of its sender come in. -/
theorem FabricOk.pass {F : Fabric} (h : P.FabricOk F) (hxy : P.Between x y) (e : Echo)
    (type : ℕ) (now clock : ℚ) :
    let passage :=
      (pass D F.rules now x.dpid x.port (e.packetIn x y type clock).packet).1
    (∃ dpid port, passage = .missed dpid port ∧ x.Ingress dpid port) ∨
      (passage = .left [] ∧ ∃ r ∈ F.rules, r.mod.actions = []) ∨ passage = .left [y.egress] := by
  intro passage
  have hleaf : ∀ {dpid uplink}, D.maps.leafUplinkPort.get? dpid = some uplink →
      ∃ corePort, D.maps.leafCorePort.get? dpid = some corePort := fun {dpid uplink} hup =>
    Dict.mem_keys_iff.mp ((D.portMapsOk.leaf_core dpid).mpr
      ((D.portMapsOk.leaf_uplink dpid).mp (Dict.mem_keys_iff.mpr ⟨uplink, hup⟩)))
  rcases pass_cases (D := D) F.rules now x.dpid x.port (e.packetIn x y type clock).packet with
    hmiss | ⟨r, hr, htakes, hup, hleft⟩ | ⟨r, hr, corePort, htakes, hup, hcore⟩
  · exact .inl ⟨_, _, hmiss, x.ingress_self⟩
  · refine .inr ?_
    rcases (h.rules r hr).of_takes hxy htakes with hdrop | ⟨-, hout⟩ | ⟨uplink, hlink, hactions⟩
    · rw [hdrop] at hleft
      exact .inl ⟨hleft, r, hr, hdrop⟩
    · rw [hout] at hleft
      exact .inr hleft
    · obtain ⟨corePort, hcorePort⟩ := hleaf hlink
      simp [uplinkTo, hlink, hactions, hcorePort] at hup
  · obtain ⟨uplink, hlink, -, hcorePort⟩ := uplinkTo_eq_some hup
    have hne : x.dpid ≠ D.maps.coreDpid := by
      intro heq
      rw [heq, D.leafUplinkPort_core] at hlink
      cases hlink
    obtain rfl : x.corePort = corePort := by
      have hport := x.corePort_eq
      rw [corePortFor, if_neg hne, hcorePort] at hport
      exact (Option.some.inj hport).symm
    rcases hcore with hmiss | ⟨r', hr', htakes', hleft⟩
    · exact .inl ⟨_, _, hmiss, x.ingress_core⟩
    · refine .inr ?_
      rcases (forall_mem_touch h.rules _ _ _ _ r' hr').of_takes hxy htakes' with
        hdrop | ⟨-, hout⟩ | ⟨uplink, hlink, -⟩
      · rw [hdrop] at hleft
        refine .inl ⟨hleft, ?_⟩
        by_contra hnone
        push Not at hnone
        exact forall_mem_touch (Q := fun _ mod => mod.actions ≠ []) hnone _ _ _ _ r' hr' hdrop
      · rw [hout] at hleft
        exact .inr hleft
      · rw [D.leafUplinkPort_core] at hlink
        cases hlink

/-! ## What the controller does with an echo -/

/-- The rules of a routed connection lead to where its destination is known to be. -/
theorem ruleOk_of_mem_routeFlowsSent {s : ZoneRouter} (hxy : P.Between x y) {e : Echo} {type : ℕ}
    {clock : ℚ} {dpid port : ℕ} {m : Sent} {mod : FlowMod}
    (hm : m ∈ routeFlowsSent D s (e.packetInAt x y type clock dpid port) y.zone y.location)
    (hmod : m.message = .flowMod mod) : P.RuleOk m.dpid mod ∧ mod.actions ≠ [] := by
  obtain ⟨-, rfl | ⟨-, uplink, hup, rfl⟩⟩ := mem_routeFlowsSent.mp hm
  · obtain rfl := Message.flowMod.inj hmod
    exact ⟨.inr ⟨x, y, hxy, rfl, .inl ⟨rfl, fun dst => rfl⟩⟩, by simp [coreMod]⟩
  · obtain rfl := Message.flowMod.inj hmod
    exact ⟨.inr ⟨x, y, hxy, rfl, .inr ⟨uplink, hup, rfl⟩⟩, by simp [leafMod]⟩

/-- What the controller sends for an echo that passes, to where its destination is known to be. -/
def routedSent (s : ZoneRouter) (x y : Endpoint D) (e : Echo) (type : ℕ) (ev : PacketIn) :
    List Sent :=
  routeFlowsSent D s ev y.zone y.location ++
    forwardSent D s (ev.queued (e.ip x.ip y.ip type)) y.zone y.corePort y.mac

theorem forwardSent_echo {s : ZoneRouter} (hcore : D.maps.coreDpid ∈ s.connections) (e : Echo)
    (type : ℕ) (ev : PacketIn) :
    forwardSent D s (ev.queued (e.ip x.ip y.ip type)) y.zone y.corePort y.mac =
      [⟨D.maps.coreDpid, .packetOut
        (routedFrame D (ev.queued (e.ip x.ip y.ip type)) y.zone y.mac) y.corePort⟩] := by
  have httl : ¬ (ev.queued (e.ip x.ip y.ip type)).ip.ttl ≤ 1 := Nat.not_le.mpr e.ttl_pos
  rw [forwardSent, if_neg httl, if_pos hcore]

/-- The rules among them are those of the connection; the echo itself is no rule. -/
theorem ruleOk_of_mem_routedSent {s : ZoneRouter} (hcore : D.maps.coreDpid ∈ s.connections)
    (hxy : P.Between x y) {e : Echo} {type : ℕ} {clock : ℚ} {dpid port : ℕ} {m : Sent}
    {mod : FlowMod} (hm : m ∈ routedSent s x y e type (e.packetInAt x y type clock dpid port))
    (hmod : m.message = .flowMod mod) : P.RuleOk m.dpid mod ∧ mod.actions ≠ [] := by
  rcases List.mem_append.mp hm with hm | hm
  · exact ruleOk_of_mem_routeFlowsSent hxy hm hmod
  · rw [forwardSent_echo hcore] at hm
    obtain rfl := List.mem_singleton.mp hm
    cases hmod

/-- It leaves the switches for its destination. -/
theorem egress_routedSent {s : ZoneRouter} (hcore : D.maps.coreDpid ∈ s.connections) (e : Echo)
    (type : ℕ) (ev : PacketIn) :
    (routedSent s x y e type ev).filterMap Sent.egress? = [y.egress] := by
  have hflows : (routeFlowsSent D s ev y.zone y.location).filterMap Sent.egress? = [] := by
    refine List.filterMap_eq_nil_iff.mpr fun m hm => ?_
    obtain ⟨-, rfl | ⟨-, uplink, -, rfl⟩⟩ := mem_routeFlowsSent.mp hm <;> rfl
  rw [routedSent, List.filterMap_append, hflows, forwardSent_echo hcore]
  rfl

/-- What a switch and the controller do with an echo that missed the rules. -/
theorem step_echo {F : Fabric} (h : P.FabricOk F) (hxy : P.Between x y) {dpid port : ℕ}
    (hin : x.Ingress dpid port) (e : Echo) (type : ℕ) (clock : ℚ) :
    let ev := e.packetInAt x y type clock dpid port
    let s := F.router D
    let verdict := s.verdict D ev (e.ip x.ip y.ip type) x.zone y.zone
    (step D s (.packetIn ev)).1 = (s.learned D dpid port ⟨x.ip, x.mac, x.zone⟩).checked D ev
        (e.ip x.ip y.ip type) x.zone y.zone ∧
      (step D s (.packetIn ev)).2 =
        if verdict = none then [⟨dpid, .flowMod (dropMod ev)⟩] else routedSent s x y e type ev := by
  intro ev s verdict
  have hstep : Stepped D s (.packetIn ev) (step D s (.packetIn ev)).1 (step D s (.packetIn ev)).2 :=
    step_stepped (routerOk_stateAfter ..) _
  have hloc : (s.learned D dpid port ⟨x.ip, x.mac, x.zone⟩).ipToLoc.get? y.ip =
      some y.location := by
    rw [get?_learned hin.corePort_eq, if_neg (Endpoint.ip_ne hxy.zone_ne).symm]
    exact h.located x y hxy
  generalize (step D s (.packetIn ev)).1 = s', (step D s (.packetIn ev)).2 = log at hstep ⊢
  cases hstep with
  | packetIn hhandled =>
    rcases hhandled.of_crossing (hin.crossing hxy.zone_ne e type) with
      ⟨hverdict, hs, hlog⟩ | ⟨hverdict, loc, hknown, hs, hlog⟩ | ⟨-, hunknown⟩
    · exact ⟨hs, by rw [hlog, if_pos hverdict]; rfl⟩
    · obtain rfl : loc = y.location := Option.some.inj (hknown.symm.trans hloc)
      refine ⟨hs, ?_⟩
      rw [hlog, if_neg hverdict]
      exact congrArg (· ++ _) (if_pos e.ttl_pos)
    · exact absurd (hunknown.symm.trans hloc) (by simp)

/-- **An echo that the controller is asked about** is sent to its destination if the connection
table lets it pass; else a drop rule is installed. -/
theorem FabricOk.ask {F : Fabric} (h : P.FabricOk F) (hxy : P.Between x y) {dpid port : ℕ}
    (hin : x.Ingress dpid port) (e : Echo) (type : ℕ) {clock : ℚ} (hclock : F.clock ≤ clock) :
    let ev := e.packetInAt x y type clock dpid port
    let verdict := (F.router D).verdict D ev (e.ip x.ip y.ip type) x.zone y.zone
    P.FabricOk (F.ask D ev).1 ∧
      (F.ask D ev).2 = if verdict = none then [] else [y.egress] := by
  intro ev verdict
  obtain ⟨hstate, hlog⟩ := step_echo h hxy hin e type clock
  have hnow : F.clock ≤ ev.now := hclock.trans (le_add_of_nonneg_right e.wait_nonneg)
  have hrouter : (F.ask D ev).1.router D = (step D (F.router D) (.packetIn ev)).1 :=
    stateAfter_snoc ..
  obtain ⟨htimed, hbefore⟩ := h.timed.snoc h.before hnow (e := .packetIn ev) rfl
  refine ⟨⟨htimed, hbefore, ?_, fun x' y' hxy' => ?_, Fabric.forall_mem_ask h.rules ?_⟩, ?_⟩
  · rw [hrouter, hstate]
    exact h.core
  · rw [hrouter, hstate]
    change ((F.router D).learned D dpid port ⟨x.ip, x.mac, x.zone⟩).ipToLoc.get? y'.ip = _
    rw [get?_learned hin.corePort_eq]
    split
    · rename_i hip
      rw [hxy.symm.eq_of_ip hxy' hip]
      rfl
    · exact h.located x' y' hxy'
  · rw [hlog]
    intro m hm mod hmod
    split at hm
    · obtain rfl := List.mem_singleton.mp hm
      obtain rfl := Message.flowMod.inj hmod
      exact .inl rfl
    · exact (ruleOk_of_mem_routedSent h.core hxy hm hmod).1
  · change (step D (F.router D) (.packetIn ev)).2.filterMap Sent.egress? = _
    rw [hlog]
    split
    · rfl
    · exact egress_routedSent h.core e type ev

/-! ## What happens to an echo -/

/-- **An echo that enters the switches**: its rules drop it, or lead it to its destination, or the
controller is asked about it. -/
theorem FabricOk.transmit {F : Fabric} (h : P.FabricOk F) (hxy : P.Between x y) (e : Echo)
    (type : ℕ) :
    let ev := e.packetIn x y type F.clock
    let passage := (ZoneSegmentation.pass D F.rules ev.now x.dpid x.port ev.packet).1
    P.FabricOk (F.transmit D ev).1 ∧
      ((passage = .left [] ∧ (∃ r ∈ F.rules, r.mod.actions = []) ∧ (F.transmit D ev).2 = []) ∨
        (passage = .left [y.egress] ∧ (F.transmit D ev).2 = [y.egress]) ∨
        ∃ dpid port, passage = .missed dpid port ∧ x.Ingress dpid port ∧
          (F.transmit D ev).2 =
            if (F.router D).verdict D (e.packetInAt x y type F.clock dpid port)
              (e.ip x.ip y.ip type) x.zone y.zone = none then [] else [y.egress]) := by
  intro ev passage
  have hnow : F.clock ≤ ev.now := le_add_of_nonneg_right e.wait_nonneg
  have hrules := forall_mem_pass (D := D) h.rules ev.now x.dpid x.port ev.packet
  have hleft : P.FabricOk { F with
      rules := (ZoneSegmentation.pass D F.rules ev.now x.dpid x.port ev.packet).2
      clock := ev.now } :=
    ⟨h.timed, fun t ht => (h.before t ht).trans hnow, h.core, h.located, hrules⟩
  have hmissed : P.FabricOk { F with
      rules := (ZoneSegmentation.pass D F.rules ev.now x.dpid x.port ev.packet).2 } :=
    ⟨h.timed, h.before, h.core, h.located, hrules⟩
  rcases h.pass hxy e type ev.now F.clock with
    ⟨dpid, port, hpass, hin⟩ | ⟨hpass, hdrop⟩ | hpass
  · -- the rules of a switch on the way do not take it
    obtain ⟨hok, hout⟩ := hmissed.ask hxy hin e type (le_refl F.clock)
    rw [Fabric.transmit_of_missed hpass]
    exact ⟨hok, .inr (.inr ⟨dpid, port, hpass, hin, hout⟩)⟩
  · rw [Fabric.transmit_of_left hpass]
    exact ⟨hleft, .inl ⟨hpass, hdrop, rfl⟩⟩
  · rw [Fabric.transmit_of_left hpass]
    exact ⟨hleft, .inr (.inl ⟨hpass, rfl⟩)⟩

/-- The connection table lets a reply pass exactly when pings with its identifier reached the
controller. -/
theorem verdict_reply_iff {S : PingState} (h : P.FabricOk S.fabric) (e : Echo) (dpid port : ℕ) :
    (S.fabric.router D).verdict D
        (e.packetInAt P.b P.a icmpEchoReply S.fabric.clock dpid port)
        (e.ip P.b.ip P.a.ip icmpEchoReply) P.b.zone P.a.zone ≠ none ↔ P.Chained S e := by
  have hbefore : ∀ t ∈ S.fabric.history.filterMap Event.time?, t ≤ (P.reply S e).now := fun t ht =>
    (h.before t ht).trans (le_add_of_nonneg_right e.wait_nonneg)
  rw [Chained, ← alive_stateAfter_iff h.timed hbefore, ZoneRouter.verdict, policyAllowed_echo,
    P.blocked, tracked_reply]
  have hreply : ∀ v : Option Verdict, v ≠ some .new → (v ≠ none ↔ v = some .reply) := by
    rintro (_ | _ | _) <;> simp
  rw [hreply _ (by simp [ConnectionTable.check_new_iff]), ConnectionTable.check_reply_iff]
  simp only [true_and, Option.some.injEq, exists_eq_left']
  rfl

theorem pingStep_ok {S : PingState} (h : P.FabricOk S.fabric) (e : PingEvent) :
    P.FabricOk (P.pingStep S e).1.fabric := by
  cases e with
  | request e => exact (h.transmit (.inl ⟨rfl, rfl⟩) e icmpEchoRequest).1
  | reply e => exact (h.transmit (.inr ⟨rfl, rfl⟩) e icmpEchoReply).1
  | sweep wait wait_nonneg =>
    have hnow : S.fabric.clock ≤ S.fabric.clock + wait := le_add_of_nonneg_right wait_nonneg
    obtain ⟨htimed, hbefore⟩ := h.timed.snoc h.before hnow
      (e := .connExpire (S.fabric.clock + wait)) rfl
    have hrouter : (S.fabric.sweep (S.fabric.clock + wait)).router D =
        (step D (S.fabric.router D) (.connExpire (S.fabric.clock + wait))).1 := stateAfter_snoc ..
    refine ⟨htimed, hbefore, ?_, fun x y hxy => ?_, h.rules⟩
    · rw [pingStep, hrouter]
      exact h.core
    · rw [pingStep, hrouter]
      exact h.located x y hxy

/-- A reply to a forwarded ping is let in exactly when its way is open. -/
theorem letIn_iff_wayOpen {S : PingState} (h : P.FabricOk S.fabric) (e : PingEvent) :
    P.LetIn S e ↔ P.WayOpen S e := by
  cases e with
  | request | sweep => exact Iff.rfl
  | reply e =>
    refine forall_congr' fun _ => ?_
    have hout : (P.pingStep S (.reply e)).2 = (S.fabric.transmit D (P.reply S e)).2 := rfl
    rw [hout]
    obtain ⟨-, hpass⟩ := h.transmit (.inr ⟨rfl, rfl⟩) e icmpEchoReply
    change (P.replyPassage S e = _ ∧ _) ∨ (P.replyPassage S e = _ ∧ _) ∨
      (∃ dpid port, P.replyPassage S e = _ ∧ _) at hpass
    change P.a.egress ∈ (S.fabric.transmit D (e.packetIn P.b P.a icmpEchoReply _)).2 ↔ _
    rcases hpass with ⟨hpass, -, hsent⟩ | ⟨hpass, hsent⟩ | ⟨dpid, port, hpass, -, hsent⟩
    · simp [hpass, hsent]
    · simp [hpass, hsent]
    · rw [hsent, hpass]
      simp only
      rw [← verdict_reply_iff h e dpid port]
      split <;> simp_all

/-! ## A run -/

/-- A department host and the outside host. -/
def deptAToUntrust : PingPair deployment where
  a := { h101 with
    zone := "DeptA"
    corePort := 1
    not_uplink := by decide +kernel
    zone_eq := by decide +kernel
    corePort_eq := by decide +kernel
    valid := by decide +kernel
    not_gateway := by decide +kernel }
  b := { hUntrust with
    zone := "Untrust"
    corePort := 7
    not_uplink := by decide +kernel
    zone_eq := by decide +kernel
    corePort_eq := by decide +kernel
    valid := by decide +kernel
    not_gateway := by decide +kernel }
  zone_ne := by decide
  allowed := by decide +kernel
  blocked := by decide +kernel

/-- The switches have connected, and both hosts have asked for their gateway's address. -/
def bothKnown : PingState where
  fabric := {
    fwClient := false
    history := [6, 1, 2, 3, 4, 5].map Event.connectionUp ++
      [h101.sends etherBroadcast (.arp ⟨arpRequest, h101.mac, 0, h101.ip, 0x0A010101⟩) 0,
        hUntrust.sends etherBroadcast
          (.arp ⟨arpRequest, hUntrust.mac, 0, hUntrust.ip, 0x6C231801⟩) 0]
    rules := []
    clock := 0 }
  forwarded := []

theorem pingStart_bothKnown : PingStart deptAToUntrust bothKnown where
  timed := by decide +kernel
  before := by decide +kernel
  core := by decide +kernel
  located_a := by decide +kernel
  located_b := by decide +kernel
  rules := rfl
  forwarded := rfl

theorem zero_le_one_sec : (0 : ℚ) ≤ 1 := by decide

/-- An echo one second after the event before. -/
def echo (uid id : ℕ) (gateway : EthAddr) : Echo where
  wait := 1
  uid := uid
  id := id
  tos := 0
  ttl := 64
  wait_nonneg := zero_le_one_sec
  ttl_pos := by decide
  gateway := gateway
  daemon := none

/-- Two pings, and the replies to them: the second request is carried by the rules of the first,
so that the controller does not know the identifier of the first reply. -/
def twoPings : List PingEvent :=
  [.request (echo 1 1 0x020000000001), .request (echo 2 2 0x020000000001),
    .reply (echo 3 2 0x020000000005), .reply (echo 4 1 0x020000000005)]

/-! ## Recorded replies -/

/-- No rule drops anything. -/
def NoDrops (F : Fabric) : Prop := ∀ r ∈ F.rules, r.mod.actions ≠ []

/-- An echo causes no drop rule if the connection table lets it pass whenever it is asked. -/
theorem NoDrops.transmit {F : Fabric} (hdrops : NoDrops F) (h : P.FabricOk F)
    (hxy : P.Between x y) (e : Echo) (type : ℕ)
    (hverdict : ∀ dpid port, (ZoneSegmentation.pass D F.rules (F.clock + e.wait) x.dpid x.port
        (e.packetIn x y type F.clock).packet).1 = .missed dpid port →
      (F.router D).verdict D (e.packetInAt x y type F.clock dpid port) (e.ip x.ip y.ip type)
        x.zone y.zone ≠ none) :
    NoDrops (F.transmit D (e.packetIn x y type F.clock)).1 := by
  have hrules : ∀ r ∈ (ZoneSegmentation.pass D F.rules (F.clock + e.wait) x.dpid x.port
      (e.packetIn x y type F.clock).packet).2, r.mod.actions ≠ [] :=
    forall_mem_pass (Q := fun _ mod => mod.actions ≠ []) hdrops _ _ _ _
  rcases h.pass hxy e type (F.clock + e.wait) F.clock with
    ⟨dpid, port, hpass, hin⟩ | ⟨-, r, hr, hdrop⟩ | hpass
  · rw [Fabric.transmit_of_missed hpass]
    refine Fabric.forall_mem_ask (Q := fun _ mod => mod.actions ≠ []) hrules ?_
    change ∀ m ∈ (step D (F.router D) (.packetIn (e.packetInAt x y type F.clock dpid port))).2, _
    rw [(step_echo h hxy hin e type F.clock).2, if_neg (hverdict dpid port hpass)]
    intro m hm mod hmod
    exact (ruleOk_of_mem_routedSent h.core hxy hm hmod).2
  · exact absurd hdrop (hdrops r hr)
  · rw [Fabric.transmit_of_left hpass]
    exact hrules

/-- **If the controller recorded every reply that it is asked about**, all replies to forwarded
pings are let in: drop rules come from unrecorded replies alone. -/
theorem replies_let_in_of_recorded (P : PingPair D) {S : PingState} (h : PingStart P S)
    {es : List PingEvent} (hrec : Run.Always P.pingStep P.Recorded S es) :
    Run.Always P.pingStep P.LetIn S es := by
  refine hrec.mono_of_invariant (I := fun S => P.FabricOk S.fabric ∧ NoDrops S.fabric)
    ⟨fabricOk_of_start h, by simp [NoDrops, h.rules]⟩ fun S e ⟨hok, hdrops⟩ hrecorded => ?_
  refine ⟨⟨pingStep_ok hok e, ?_⟩, (letIn_iff_wayOpen hok e).mpr ?_⟩
  · cases e with
    | sweep => exact hdrops
    -- the policy allows the request, so that it passes whatever is recorded
    | request e =>
      refine hdrops.transmit hok (.inl ⟨rfl, rfl⟩) e icmpEchoRequest fun dpid port _ => ?_
      rw [ZoneRouter.verdict, policyAllowed_echo, P.allowed,
        (ConnectionTable.check_new_iff ..).mpr rfl]
      simp
    | reply e =>
      refine hdrops.transmit hok (.inr ⟨rfl, rfl⟩) e icmpEchoReply fun dpid port hmissed => ?_
      exact (verdict_reply_iff hok e dpid port).mpr (hrecorded ⟨dpid, port, hmissed⟩)
  · cases e with
    | request | sweep => trivial
    | reply e =>
      intro _
      rcases hok.pass (.inr ⟨rfl, rfl⟩) e icmpEchoReply (P.reply S e).now S.fabric.clock with
        ⟨dpid, port, hmissed, -⟩ | ⟨-, r, hr, hdrop⟩ | hpass
      · change P.replyPassage S e = _ at hmissed
        rw [hmissed]
        exact hrecorded ⟨dpid, port, hmissed⟩
      · exact absurd hdrop (hdrops r hr)
      · change P.replyPassage S e = _ at hpass
        rw [hpass]
        simp

/-! ## The replies of a run -/

/-- **Replies to forwarded pings are let in exactly when their way is open.** From any start, and
for any requests, replies and sweeps in any order: each reply to a request that was forwarded less
than the idle timeout ago leaves the core for the host that pinged, if and only if each such reply
meets no drop rule, and is carried by a rule or has an identifier that the controller recorded. -/
theorem replies_let_in_iff (P : PingPair D) {S : PingState} (h : PingStart P S)
    (es : List PingEvent) :
    Run.Always P.pingStep P.LetIn S es ↔ Run.Always P.pingStep P.WayOpen S es :=
  Run.Always.congr_of_invariant (I := fun S => P.FabricOk S.fabric) (fabricOk_of_start h)
    (fun _ e h => pingStep_ok h e) (fun _ e h => letIn_iff_wayOpen h e) es

/-- One ping, and the reply to it. -/
def onePing : List PingEvent :=
  [.request (echo 1 1 0x020000000001), .reply (echo 2 1 0x020000000005)]

/-- The controller recorded the one ping, and its reply meets no rule. -/
theorem wayOpen_onePing :
    Run.Always deptAToUntrust.pingStep deptAToUntrust.WayOpen bothKnown onePing := by
  have hok : deptAToUntrust.FabricOk
      (deptAToUntrust.pingStep bothKnown (.request (echo 1 1 0x020000000001))).1.fabric :=
    pingStep_ok (fabricOk_of_start pingStart_bothKnown) _
  have hmissed : deptAToUntrust.replyPassage (deptAToUntrust.pingStep bothKnown
      (.request (echo 1 1 0x020000000001))).1 (echo 2 1 0x020000000005) = .missed 6 7 := by
    decide +kernel
  refine ⟨trivial, fun _ => ?_, trivial⟩
  rw [hmissed]
  exact (verdict_reply_iff hok (echo 2 1 0x020000000005) 6 7).mp (by decide +kernel)

/-- The reply to one ping is let in, because its way is open. The replies of `twoPings` are refused
because theirs is not. -/
theorem replies_let_in_iff_twoPings :
    (Run.trace deptAToUntrust.pingStep bothKnown onePing =
        [deptAToUntrust.b.egress, deptAToUntrust.a.egress] ∧
      Run.Always deptAToUntrust.pingStep deptAToUntrust.LetIn bothKnown onePing) ∧
    (Run.Always deptAToUntrust.pingStep deptAToUntrust.LetIn bothKnown twoPings ↔
      Run.Always deptAToUntrust.pingStep deptAToUntrust.WayOpen bothKnown twoPings) :=
  ⟨⟨by decide +kernel,
    (replies_let_in_iff deptAToUntrust pingStart_bothKnown onePing).mpr wayOpen_onePing⟩,
    replies_let_in_iff deptAToUntrust pingStart_bothKnown twoPings⟩

/-- In `twoPings` both requests are forwarded, the outside host answers only what it got, and
neither reply is let in: the second one meets the drop rule of the first. -/
theorem replies_let_in_fails :
    PingStart deptAToUntrust bothKnown ∧
    Run.Always deptAToUntrust.pingStep Answers bothKnown twoPings ∧
    Run.trace deptAToUntrust.pingStep bothKnown twoPings =
      [deptAToUntrust.b.egress, deptAToUntrust.b.egress] ∧
    ¬ Run.Always deptAToUntrust.pingStep deptAToUntrust.LetIn bothKnown twoPings :=
  ⟨pingStart_bothKnown, by decide +kernel, by decide +kernel, by decide +kernel⟩

end PingPair

end ZoneSegmentation
