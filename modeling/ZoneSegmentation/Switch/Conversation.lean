import ZoneSegmentation.Controller.FastPath
import ZoneSegmentation.Controller.Interference
import ZoneSegmentation.Switch.Hop

/-!
# Connections that the switches carry

The controller sees only those packets of a connection that no rule takes, so that its entry may
get old while the connection is in use. But a rule does not carry packets for longer than its hard
timeout after the visit that made it, and that visit refreshed the entry. So if packets follow one
another in less than that time, then at every visit the entry is younger than its idle timeout.

## Main definitions

* `Conversation`, `Segment`: a connection that the policy allows one way only, and its packets
* `Carriage`, `Carriage.Possible`: the rules that take a packet
* `ConversationEvent`, `conversationStep`: what happens to the packets of a connection
* `Scheduled`, `Kept`: when packets come, and what becomes of them

## Main results

* `FabricOk.visit`: what a visit to the controller does
* `connection_never_forgotten`: the controller does not forget a connection that is in use
-/

namespace ZoneSegmentation

open KeepAlive OfpMatch

/-! ## Connections -/

/-- A side of a connection. -/
inductive Side where
  | opener
  | answerer
  deriving DecidableEq

/-- The other side. -/
def Side.other : Side → Side
  | opener => answerer
  | answerer => opener

/-- A TCP or UDP connection that the policy allows to be opened, and whose other direction it
blocks. -/
structure Conversation (D : Deployment) where
  ip : Side → IPAddr
  port : Side → ℕ
  proto : ℕ
  transport : proto = ipprotoTcp ∨ proto = ipprotoUdp
  opens : firewallAllowed D.policy (zoneForIp D.policy (.v4 (ip .opener)))
    (zoneForIp D.policy (.v4 (ip .answerer))) false = true
  blocked : firewallAllowed D.policy (zoneForIp D.policy (.v4 (ip .answerer)))
    (zoneForIp D.policy (.v4 (ip .opener))) false = false

namespace Conversation

variable {D : Deployment} (C : Conversation D)

/-- The flow of the packets from a side. -/
def flow (x : Side) : Flow :=
  ⟨.v4 (C.ip x), .v4 (C.ip x.other), C.proto, C.port x, C.port x.other⟩

/-- A packet-in with a packet from a side of the connection: its header was parsed, its TTL lets it
pass a router, and a daemon that was asked about it answers as the policy does. -/
structure Segment (x : Side) (ev : PacketIn) (p : Ipv4) (snd : Sender) (dstZone : String) :
    Prop where
  crossing : crossing D ev = some (p, snd, dstZone)
  srcip : p.srcip = C.ip x
  dstip : p.dstip = C.ip x.other
  protocol : p.protocol = C.proto
  ports : p.payload.tp? = some (C.port x, C.port x.other)
  ttl : 1 < p.ttl
  honest : ev.Honest D.policy

/-- A packet-in with a packet of the connection. -/
def Sends (x : Side) (ev : PacketIn) : Prop := ∃ p snd dstZone, C.Segment x ev p snd dstZone

/-- An event is the arrival of an IP packet between the hosts of the connection. -/
def Between (e : Event) : Prop :=
  ∃ ev p x, e = .packetIn ev ∧ ev.packet.body = .ip p ∧ p.srcip = C.ip x ∧ p.dstip = C.ip x.other

/-- A rule matches packets of the connection. -/
def Concerns (dpid : ℕ) (mod : FlowMod) : Prop :=
  ∃ x ev port, C.Sends x ev ∧ isLeafUplink D.maps dpid port = false ∧
    mod.ofpMatch.Matches port ev.packet

end Conversation

/-! ## The rules that take a packet -/

/-- A rule may take a packet. At the end of a timeout it may be there still, or be gone. -/
def Rule.MayTake (r : Rule) (now : ℚ) (dpid port : ℕ) (packet : Frame) : Prop :=
  r.dpid = dpid ∧ now ≤ r.installed + r.mod.hardTimeout ∧ now ≤ r.used + r.mod.idleTimeout ∧
    r.mod.ofpMatch.Matches port packet

instance (r : Rule) (now : ℚ) (dpid port : ℕ) (packet : Frame) :
    Decidable (r.MayTake now dpid port packet) := inferInstanceAs (Decidable (_ ∧ _))

/-- The rules that take a packet: where it enters, and at the core if that leads there. A switch
without one hands the packet to the controller. -/
structure Carriage where
  entry : Option Rule
  core : Option Rule
  deriving DecidableEq

namespace Carriage

variable (D : Deployment) (c : Carriage) (ev : PacketIn)

/-- The rules are there, and may take the packet. -/
structure Possible (rules : List Rule) : Prop where
  entry : ∀ r ∈ c.entry, r ∈ rules ∧ r.MayTake ev.now ev.dpid ev.port ev.packet
  core : ∀ r' ∈ c.core, r' ∈ rules ∧ ∃ r ∈ c.entry, ∃ corePort ∈ uplinkTo D ev.dpid r.mod.actions,
    r'.MayTake ev.now D.maps.coreDpid corePort ev.packet

/-- The packet-in at the controller, if there is one. -/
def visit : Option PacketIn :=
  match c.entry with
  | none => some ev
  | some r =>
    match uplinkTo D ev.dpid r.mod.actions, c.core with
    | some corePort, none => some { ev with dpid := D.maps.coreDpid, port := corePort }
    | _, _ => none

/-- What leaves the switches by the rules. -/
def carried : List Departure :=
  match c.entry with
  | none => []
  | some r =>
    match uplinkTo D ev.dpid r.mod.actions, c.core with
    | some _, some r' => applied D.maps.coreDpid r'.mod.actions ev.packet
    | some _, none => []
    | none, _ => applied ev.dpid r.mod.actions ev.packet

/-- The rules after they took the packet. -/
def used (rules : List Rule) : List Rule :=
  rules.map fun r => if c.entry = some r ∨ c.core = some r then { r with used := ev.now } else r

variable {D ev} {rules : List Rule}

theorem possible_none : (⟨none, none⟩ : Carriage).Possible D ev rules := by
  constructor <;> rintro r ⟨⟩

theorem possible_entry {r : Rule} (hr : r ∈ rules)
    (htakes : r.MayTake ev.now ev.dpid ev.port ev.packet) :
    (⟨some r, none⟩ : Carriage).Possible D ev rules := by
  constructor
  · rintro r ⟨⟩
    exact ⟨hr, htakes⟩
  · rintro r ⟨⟩

end Carriage

/-! ## What happens to the packets -/

/-- The controller handles an event, and its rules are installed. -/
def Fabric.handle (D : Deployment) (F : Fabric) (e : Event) : Fabric :=
  let now := e.time?.getD F.clock
  { F with
    history := F.history ++ [e]
    rules := (step D (F.router D) e).2.foldl (install now) F.rules
    clock := now }

/-- What happens: a packet of the connection enters a switch, and is taken by some rules; or the
controller handles another event, as a sweep of its connection table. -/
inductive ConversationEvent where
  | packet (x : Side) (ev : PacketIn) (c : Carriage)
  | other (e : Event)

/-- The switches and the controller, and when the last packet of the connection came. -/
structure ConversationState where
  fabric : Fabric
  last : Option ℚ

/-- One event: the state after it, and what leaves the switches of a packet of the connection. -/
def conversationStep (D : Deployment) (flood : ℕ → ℕ → List ℕ) (S : ConversationState) :
    ConversationEvent → ConversationState × List Departure
  | .packet _ ev c =>
    let F := { S.fabric with rules := c.used ev S.fabric.rules }
    match c.visit D ev with
    | some ev' => (⟨F.handle D (.packetIn ev'), some ev.now⟩, F.asked D flood ev')
    | none => (⟨{ F with clock := ev.now }, some ev.now⟩, c.carried D ev)
  | .other e => (⟨S.fabric.handle D e, S.last⟩, [])

namespace Conversation

variable {D : Deployment} (C : Conversation D) (flood : ℕ → ℕ → List ℕ)

/-- The schedule: the first packet opens the connection, and each later one comes less than 60
seconds after the one before; each is taken by rules that may take it, or handed to the controller.
Other IP packets do not pass between the two hosts. -/
def Scheduled (S : ConversationState) : ConversationEvent → Prop
  | .packet x ev c =>
    S.fabric.clock ≤ ev.now ∧ C.Sends x ev ∧ (S.last = none → x = .opener) ∧
      (∀ t ∈ S.last, ev.now - t < 60) ∧ c.Possible D ev S.fabric.rules
  | .other e => (∀ t ∈ e.time?, S.fabric.clock ≤ t) ∧ ¬ C.Between e

/-- **No packet is dropped, and the entry is alive at every visit**: one copy of each packet leaves
the core, routed; and whenever a packet but the first comes to the controller, the entry of the
connection is alive. -/
def Kept (S : ConversationState) : ConversationEvent → Prop
  | .packet x ev c =>
    (∃ p snd dstZone loc, crossing D ev = some (p, snd, dstZone) ∧
      (conversationStep D flood S (.packet x ev c)).2 = [routedDeparture D p dstZone loc]) ∧
    ∀ ev' ∈ c.visit D ev, S.last ≠ none →
      (S.fabric.router D).conns.alive ev'.now (C.flow .opener) = true
  | .other _ => True

/-- The rules of the switches that match packets of the connection were made by its own packets, and
none is a drop rule; the controller is connected to the core and knows both hosts. -/
structure FabricOk (F : Fabric) : Prop where
  timed : TimedEvents F.history
  before : ∀ t ∈ F.history.filterMap Event.time?, t ≤ F.clock
  core : D.maps.coreDpid ∈ (F.router D).connections
  located : ∀ x, ∃ loc, (F.router D).ipToLoc.get? (C.ip x) = some loc
  rules : ∀ r ∈ F.rules, C.Concerns r.dpid r.mod → r.mod.actions ≠ [] ∧
    ∃ past ev rest x, r.SentAt D F past (.packetIn ev) rest ∧ r.installed = ev.now ∧ C.Sends x ev

/-- The connection is known to have been seen at a time, or after it. -/
def SeenSince (F : Fabric) (t : ℚ) : Prop :=
  ∃ seen, (Call.signals (C.flow .answerer)).lastKept idleTimeout
    (callsOf D F.fwClient F.history) = some seen ∧ t ≤ seen

/-! ## Packets of the connection -/

section

variable {C} {s : ZoneRouter} {x : Side} {ev : PacketIn} {p : Ipv4} {snd : Sender}
  {dstZone : String}

theorem flow_reversed (x : Side) : (C.flow x).reversed = C.flow x.other := by
  cases x <;> rfl

theorem Segment.transport (h : C.Segment x ev p snd dstZone) :
    p.protocol = ipprotoTcp ∨ p.protocol = ipprotoUdp := by
  rw [h.protocol]
  exact C.transport

/-- The table takes a packet for one of its side's flow, that may open it and may reply. -/
theorem Segment.tracked (h : C.Segment x ev p snd dstZone) :
    p.tracked = some ⟨C.flow x, true, true⟩ := by
  have htransport := h.transport
  have hports := h.ports
  cases hp : p.payload with
  | tcp sport dport | udp sport dport =>
    rw [hp, Payload.tp?, Option.some.injEq, Prod.mk.injEq] at hports
    rw [Ipv4.tracked, if_pos htransport, hp]
    simp only [trackedPacket, if_pos htransport]
    rw [flow, h.srcip, h.dstip, h.protocol, hports.1, hports.2]
  | icmp type code id =>
    exfalso
    rw [← p.payload_proto ipprotoIcmp (by rw [hp]; rfl)] at htransport
    revert htransport
    decide
  | raw =>
    rw [hp] at hports
    cases hports

/-- The policy allows the packets of the opener alone. -/
theorem Segment.policyAllowed (h : C.Segment x ev p snd dstZone) :
    s.policyAllowed D snd.zone dstZone p.isIcmp ev.firewall = decide (x = .opener) := by
  have hicmp : p.isIcmp = false := by
    rcases h.transport with htcp | hudp
    · simp [Ipv4.isIcmp, htcp, ipprotoTcp, ipprotoIcmp]
    · simp [Ipv4.isIcmp, hudp, ipprotoUdp, ipprotoIcmp]
  rw [policyAllowed_eq_of_honest h.crossing h.honest, header_allowed, h.srcip, h.dstip, hicmp]
  cases x with
  | opener => exact C.opens
  | answerer => exact C.blocked

/-- A packet of the opener passes as one that opens the connection. -/
theorem Segment.verdict_new (h : C.Segment x ev p snd dstZone) :
    s.verdict D ev p snd.zone dstZone = some .new ↔ x = .opener := by
  rw [ZoneRouter.verdict, ConnectionTable.check_new_iff, h.policyAllowed, decide_eq_true_eq]

/-- A packet of the answerer passes as a reply, when the connection's entry is alive. -/
theorem Segment.verdict_ne_none (h : C.Segment x ev p snd dstZone)
    (halive : x = .answerer → s.conns.alive ev.now (C.flow .opener) = true) :
    s.verdict D ev p snd.zone dstZone ≠ none := by
  cases x with
  | opener => simp [h.verdict_new.mpr rfl]
  | answerer =>
    have hreply : s.verdict D ev p snd.zone dstZone = some .reply := by
      apply (ConnectionTable.check_reply_iff ..).mpr
      refine ⟨?_, _, h.tracked, rfl, ?_⟩
      · rw [h.policyAllowed]
        rfl
      · rw [flow_reversed]
        exact halive rfl
    simp [hreply]

/-- A packet that comes to the core from its leaf is of the connection too. -/
theorem Segment.at_core (h : C.Segment x ev p snd dstZone) {corePort : ℕ}
    (hport : corePortFor D.maps ev.dpid ev.port = some corePort) :
    C.Segment x { ev with dpid := D.maps.coreDpid, port := corePort } p snd dstZone :=
  { h with crossing := crossing_at_core h.crossing hport }

end

/-! ## What an event does -/

variable {C} {F : Fabric}

/-- **The controller handles an event** at a later time: nothing is lost, if the rules that it sends
for the connection were made by its packets, and are no drop rules. -/
theorem FabricOk.handle (h : C.FabricOk F) {e : Event} (hclock : ∀ t ∈ e.time?, F.clock ≤ t)
    (hsent : ∀ dpid mod, ⟨dpid, .flowMod mod⟩ ∈ (step D (F.router D) e).2 → C.Concerns dpid mod →
      mod.actions ≠ [] ∧ ∃ ev x, e = .packetIn ev ∧ C.Sends x ev) : C.FabricOk (F.handle D e) := by
  have hstep := step_stepped (routerOk_stateAfter (D := D) F.fwClient F.history) e
  have hrouter : (F.handle D e).router D = (step D (F.router D) e).1 := stateAfter_snoc ..
  have htimes : TimedEvents (F.history ++ [e]) ∧
      ∀ t ∈ (F.history ++ [e]).filterMap Event.time?, t ≤ (F.handle D e).clock := by
    cases he : e.time? with
    | some now =>
      have hnow : (F.handle D e).clock = now := by simp [Fabric.handle, he]
      rw [hnow]
      exact h.timed.snoc h.before (hclock now he) he
    | none =>
      have hsame : (F.history ++ [e]).filterMap Event.time? = F.history.filterMap Event.time? := by
        simp [he]
      have hclock : (F.handle D e).clock = F.clock := by simp [Fabric.handle, he]
      rw [TimedEvents, hsame, hclock]
      exact ⟨h.timed, h.before⟩
  refine ⟨htimes.1, htimes.2, ?_, ?_, ?_⟩
  · rw [hrouter]
    exact hstep.connections_subset h.core
  · intro x
    rw [hrouter]
    exact hstep.exists_location (h.located x)
  · intro r hr hconcerns
    rcases mem_foldl_install hr with hr | ⟨hm, hnow⟩
    · obtain ⟨hdrop, past, ev, rest, x, ⟨hhistory, hm⟩, hev⟩ := h.rules r hr hconcerns
      refine ⟨hdrop, past, ev, rest ++ [e], x, ⟨?_, hm⟩, hev⟩
      rw [Fabric.handle, hhistory, List.append_assoc, List.cons_append]
    · obtain ⟨hdrop, ev, x, rfl, hsends⟩ := hsent _ _ hm hconcerns
      exact ⟨hdrop, F.history, ev, [], x, ⟨rfl, hm⟩, hnow, hsends⟩

/-- What is known of when the connection was seen stays known. -/
theorem SeenSince.handle {t : ℚ} (hseen : C.SeenSince F t) {e : Event}
    (htimed : TimedEvents (F.history ++ [e])) : C.SeenSince (F.handle D e) t := by
  obtain ⟨seen, hlast, hle⟩ := hseen
  have hcalls : callsOf D F.fwClient (F.history ++ [e]) =
      callsOf D F.fwClient F.history ++ callsBy D (F.router D) e := Run.observed_snoc ..
  have hcallsTimed : (Call.signals (C.flow .answerer)).Timed
      (callsOf D F.fwClient (F.history ++ [e])) := timed_callsOf htimed
  rw [hcalls] at hcallsTimed
  obtain ⟨seen', hlast', hle'⟩ := Signals.exists_lastKept_append hlast hcallsTimed
  exact ⟨seen', hcalls ▸ hlast', hle.trans hle'⟩

/-- **A packet that passed was seen**, whatever happened later. -/
theorem FabricOk.seenSince (h : C.FabricOk F) {past rest : List Event} {x : Side} {ev : PacketIn}
    {p : Ipv4} {snd : Sender} {dstZone : String}
    (hhistory : F.history = past ++ .packetIn ev :: rest) (hseg : C.Segment x ev p snd dstZone)
    (hverdict : (stateAfter D F.fwClient past).verdict D ev p snd.zone dstZone ≠ none) :
    C.SeenSince F ev.now := by
  have htimed := h.timed
  rw [hhistory] at htimed
  rw [SeenSince, hhistory]
  apply exists_lastKept_after htimed hseg.crossing hseg.tracked
  -- the opener's packets open the connection, the answerer's are replies on it
  cases hv : (stateAfter D F.fwClient past).verdict D ev p snd.zone dstZone with
  | none => exact absurd hv hverdict
  | some v =>
    cases v with
    | new =>
      obtain rfl := hseg.verdict_new.mp hv
      exact .inl ⟨rfl, rfl, rfl⟩
    | reply =>
      have hside : x = .answerer := by
        cases x with
        | opener => cases hv.symm.trans (hseg.verdict_new.mpr rfl)
        | answerer => rfl
      exact .inr ⟨rfl, by rw [hside]⟩

/-- A connection that was seen less than the idle timeout ago is alive. -/
theorem FabricOk.alive (h : C.FabricOk F) {t now : ℚ} (hseen : C.SeenSince F t)
    (hclock : F.clock ≤ now) (hnow : now < t + idleTimeout) :
    (F.router D).conns.alive now (C.flow .opener) = true := by
  obtain ⟨seen, hlast, hle⟩ := hseen
  have hbefore : ∀ u ∈ F.history.filterMap Event.time?, u ≤ now := by
    intro u hu
    exact (h.before u hu).trans hclock
  have hcallsBefore : (Call.signals (C.flow .answerer)).Before
      (callsOf D F.fwClient F.history) now := before_callsOf hbefore _
  have halive :=
    alive_tableAfter idleTimeout (C.flow .answerer) (timed_callsOf h.timed) hcallsBefore
  rw [Fabric.router, conns_stateAfter, show C.flow .opener = (C.flow .answerer).reversed from rfl,
    halive, hlast, alive_some]
  linarith

/-- **The rules of the connection** lead its packets on, and do so for no longer than their hard
timeout after the connection was seen. -/
theorem FabricOk.leads (h : C.FabricOk F) {r : Rule} (hr : r ∈ F.rules) {x : Side} {ev : PacketIn}
    {p : Ipv4} {snd : Sender} {dstZone : String} (hseg : C.Segment x ev p snd dstZone) {port : ℕ}
    (hmatch : r.mod.ofpMatch.Matches port ev.packet)
    (hport : isLeafUplink D.maps r.dpid port = false) :
    (∃ loc, (r.dpid = D.maps.coreDpid ∧
        applied r.dpid r.mod.actions ev.packet = [routedDeparture D p dstZone loc]) ∨
      r.dpid ≠ D.maps.coreDpid ∧ ∃ uplink, D.maps.leafUplinkPort.get? r.dpid = some uplink ∧
        r.mod.actions = [.output uplink]) ∧
    r.mod.hardTimeout = routedFlowHardTimeout ∧ C.SeenSince F r.installed := by
  obtain ⟨hdrop, past, ev₁, rest, x₁, hsent, hnow, p₁, snd₁, dstZone₁, hseg₁⟩ :=
    h.rules r hr ⟨x, ev, port, ⟨p, snd, dstZone, hseg⟩, hport, hmatch⟩
  obtain ⟨ev₀, p₀, snd₀, hev, horigin⟩ :=
    exists_ruleOrigin_of_crossing (routerOk_stateAfter ..) hsent.sent hseg.crossing hmatch hport
  obtain rfl := Event.packetIn.inj hev
  obtain ⟨-, hbody, -⟩ := crossing_eq_some hseg.crossing
  obtain ⟨loc, -, hleads⟩ := horigin.leads hbody hdrop hseg.ttl
  obtain ⟨hverdict, htimeout⟩ := horigin.routed hdrop
  -- the packet that caused the rule is of the connection, and was seen when it was sent
  obtain ⟨rfl, rfl, rfl⟩ : p₁ = p₀ ∧ snd₁ = snd₀ ∧ dstZone₁ = dstZone := by
    simpa using hseg₁.crossing.symm.trans horigin.crossing
  refine ⟨⟨loc, hleads⟩, htimeout, ?_⟩
  rw [hnow]
  exact h.seenSince hsent.history hseg₁ hverdict

/-- **A visit to the controller**: a packet that finds the entry of its connection alive, or opens
it, is routed; the connection is seen, and the rules that are sent are no drop rules. -/
theorem FabricOk.visit (h : C.FabricOk F) {x : Side} {ev : PacketIn} {p : Ipv4} {snd : Sender}
    {dstZone : String} (hseg : C.Segment x ev p snd dstZone) (hclock : F.clock ≤ ev.now)
    (halive : x = .answerer → (F.router D).conns.alive ev.now (C.flow .opener) = true) :
    C.FabricOk (F.handle D (.packetIn ev)) ∧ C.SeenSince (F.handle D (.packetIn ev)) ev.now ∧
      ∃ loc, F.asked D flood ev = [routedDeparture D p dstZone loc] := by
  have hverdict : (F.router D).verdict D ev p snd.zone dstZone ≠ none := hseg.verdict_ne_none halive
  have hok : C.FabricOk (F.handle D (.packetIn ev)) := by
    apply h.handle
    · rintro t ⟨⟩
      exact hclock
    · rintro dpid mod hm -
      refine ⟨?_, ev, x, rfl, p, snd, dstZone, hseg⟩
      have hstep : Stepped D (F.router D) (.packetIn ev) (step D (F.router D) (.packetIn ev)).1
          (step D (F.router D) (.packetIn ev)).2 := step_stepped (routerOk_stateAfter ..) _
      cases hstep with
      | packetIn hhandled =>
        -- only a packet that is blocked gets a drop rule, and this one passes
        rcases hhandled.flowMod hm with ⟨-, ⟨outPort, rfl⟩, -⟩ |
          ⟨-, -, p', snd', dstZone', hcross, hnone⟩ | ⟨p', snd', dstZone', loc, -, -, -, hm⟩
        · simp [l2Mod]
        · obtain ⟨rfl, rfl, rfl⟩ : p' = p ∧ snd' = snd ∧ dstZone' = dstZone := by
            simpa using hcross.symm.trans hseg.crossing
          exact absurd hnone hverdict
        · rcases flowMod_of_mem_routeFlowsSent hm with ⟨-, rfl⟩ | ⟨-, -, uplink, -, rfl⟩
          · simp [coreMod]
          · simp [leafMod]
  refine ⟨hok, hok.seenSince rfl hseg hverdict, ?_⟩
  obtain ⟨loc, hloc⟩ := h.located x.other
  rw [← hseg.dstip] at hloc
  exact ⟨loc, departures_asked h.core hseg.crossing hseg.ttl hverdict hloc⟩

/-- Other events send no rules for the connection. -/
theorem FabricOk.other (h : C.FabricOk F) {e : Event} (hclock : ∀ t ∈ e.time?, F.clock ≤ t)
    (hbetween : ¬ C.Between e) : C.FabricOk (F.handle D e) := by
  apply h.handle hclock
  rintro dpid mod hm ⟨x, ev, port, ⟨p, snd, dstZone, hseg⟩, hport, hmatch⟩
  obtain ⟨ev₀, p₀, snd₀, rfl, horigin⟩ :=
    exists_ruleOrigin_of_crossing (routerOk_stateAfter ..) hm hseg.crossing hmatch hport
  obtain ⟨-, hbody₀, -⟩ := crossing_eq_some horigin.crossing
  have hsrc := horigin.same.srcip.symm.trans hseg.srcip
  have hdst := horigin.same.dstip.symm.trans hseg.dstip
  exact absurd ⟨ev₀, p₀, x, rfl, hbody₀, hsrc, hdst⟩ hbetween

theorem FabricOk.used (h : C.FabricOk F) (c : Carriage) (ev : PacketIn) :
    C.FabricOk { F with rules := c.used ev F.rules } := by
  refine ⟨h.timed, h.before, h.core, h.located, ?_⟩
  intro r hr hconcerns
  obtain ⟨r', hr', rfl⟩ := List.mem_map.mp hr
  by_cases huse : c.entry = some r' ∨ c.core = some r'
  · rw [if_pos huse] at hconcerns ⊢
    obtain ⟨hdrop, past, ev₁, rest, x, ⟨hhistory, hsent⟩, hev⟩ := h.rules r' hr' hconcerns
    exact ⟨hdrop, past, ev₁, rest, x, ⟨hhistory, hsent⟩, hev⟩
  · rw [if_neg huse] at hconcerns ⊢
    obtain ⟨hdrop, past, ev₁, rest, x, ⟨hhistory, hsent⟩, hev⟩ := h.rules r' hr' hconcerns
    exact ⟨hdrop, past, ev₁, rest, x, ⟨hhistory, hsent⟩, hev⟩

theorem FabricOk.later (h : C.FabricOk F) {now : ℚ} (hclock : F.clock ≤ now) :
    C.FabricOk { F with clock := now } := by
  refine ⟨h.timed, fun t ht => (h.before t ht).trans hclock, h.core, h.located, ?_⟩
  intro r hr hconcerns
  obtain ⟨hdrop, past, ev₁, rest, x, ⟨hhistory, hsent⟩, hev⟩ := h.rules r hr hconcerns
  exact ⟨hdrop, past, ev₁, rest, x, ⟨hhistory, hsent⟩, hev⟩

/-- The controller sees a packet where it enters, or where it comes to the core. -/
theorem Segment.visit {x : Side} {ev ev' : PacketIn} {p : Ipv4} {snd : Sender} {dstZone : String}
    (h : C.Segment x ev p snd dstZone) {c : Carriage} (hvisit : c.visit D ev = some ev') :
    C.Segment x ev' p snd dstZone ∧ ev'.now = ev.now := by
  unfold Carriage.visit at hvisit
  split at hvisit
  · obtain rfl := Option.some.inj hvisit
    exact ⟨h, rfl⟩
  · split at hvisit
    · rename_i corePort hup _
      obtain rfl := Option.some.inj hvisit
      obtain ⟨uplink, hleaf, -, hport⟩ := uplinkTo_eq_some hup
      have hne : ev.dpid ≠ D.maps.coreDpid := by
        intro hcore
        rw [hcore, D.leafUplinkPort_core] at hleaf
        cases hleaf
      exact ⟨h.at_core (by rw [corePortFor, if_neg hne, hport]), rfl⟩
    · cases hvisit

/-- **A packet that the rules carry** is routed, and comes no later than their hard timeout after
the connection was seen. -/
theorem FabricOk.carried (h : C.FabricOk F) {x : Side} {ev : PacketIn} {p : Ipv4} {snd : Sender}
    {dstZone : String} (hseg : C.Segment x ev p snd dstZone) {c : Carriage}
    (hpossible : c.Possible D ev F.rules) (hvisit : c.visit D ev = none) :
    (∃ loc, c.carried D ev = [routedDeparture D p dstZone loc]) ∧
      ∃ seen, C.SeenSince F seen ∧ ev.now ≤ seen + 60 := by
  obtain ⟨entry, core⟩ := c
  obtain ⟨hsender, -⟩ := crossing_eq_some hseg.crossing
  obtain ⟨-, huplink, -⟩ := acceptedSender_eq_some hsender
  obtain ⟨corePort, hport, -⟩ := corePort_of_acceptedSender hsender
  cases entry with
  | none => cases hvisit
  | some r =>
    obtain ⟨hr, hdpid, hhard, -, hmatch⟩ := hpossible.entry r rfl
    rw [← hdpid] at huplink hport
    obtain ⟨⟨loc, hleads⟩, htimeout, hseen⟩ := h.leads hr hseg hmatch huplink
    refine ⟨?_, r.installed, hseen, ?_⟩
    · simp only [Carriage.carried, Carriage.visit, ← hdpid] at hvisit ⊢
      rcases hleads with ⟨hcore, happlied⟩ | ⟨hleaf, uplink, hup, hactions⟩
      · rw [hcore] at happlied ⊢
        simp only [uplinkTo_core]
        exact ⟨loc, happlied⟩
      · rw [hactions, uplinkTo_output hleaf hport hup] at hvisit ⊢
        cases core with
        | none => cases hvisit
        | some r' =>
          obtain ⟨hr', -, -, port', -, hcore', -, -, hmatch'⟩ := hpossible.core r' rfl
          obtain ⟨⟨loc', hleads'⟩, -⟩ := h.leads hr' hseg hmatch' (by
            rw [hcore']
            exact D.isLeafUplink_core _)
          rcases hleads' with ⟨-, happlied⟩ | ⟨hleaf', -⟩
          · rw [hcore'] at happlied
            exact ⟨loc', happlied⟩
          · exact absurd hcore' hleaf'
    · rw [htimeout] at hhard
      exact hhard

/-! ## Every schedule -/

/-- What holds all along: the last packet of the connection came no later than the hard timeout of
its rules after the connection was seen. -/
structure StateOk (C : Conversation D) (S : ConversationState) : Prop where
  fabric : C.FabricOk S.fabric
  last : ∀ t ∈ S.last, ∃ seen, C.SeenSince S.fabric seen ∧ t ≤ seen + 60

/-- **The step lemma**: the gap to the packet before, and the hard timeout of the rules that carried
that one, are together no more than the idle timeout of the entry. -/
theorem StateOk.step {S : ConversationState} (h : C.StateOk S) {e : ConversationEvent}
    (hscheduled : C.Scheduled S e) :
    C.StateOk (conversationStep D flood S e).1 ∧ C.Kept flood S e := by
  cases e with
  | other e =>
    obtain ⟨hclock, hbetween⟩ := hscheduled
    have hok := h.fabric.other hclock hbetween
    refine ⟨⟨hok, ?_⟩, trivial⟩
    intro t ht
    obtain ⟨seen, hseen, hle⟩ := h.last t ht
    exact ⟨seen, hseen.handle hok.timed, hle⟩
  | packet x ev c =>
    obtain ⟨hclock, ⟨p, snd, dstZone, hseg⟩, hfirst, hgap, hpossible⟩ := hscheduled
    -- a packet was seen within the last 60 seconds before the last packet, which is within 60
    have halive : S.last ≠ none →
        (S.fabric.router D).conns.alive ev.now (C.flow .opener) = true := by
      intro hlast
      obtain ⟨t, ht⟩ := Option.ne_none_iff_exists'.mp hlast
      obtain ⟨seen, hseen, hle⟩ := h.last t ht
      apply h.fabric.alive hseen hclock
      have hgap := hgap t ht
      rw [idleTimeout]
      linarith
    have hok := h.fabric.used c ev
    cases hvisit : c.visit D ev with
    | some ev' =>
      obtain ⟨hseg', hnow⟩ := hseg.visit hvisit
      have halive' : x = .answerer →
          (S.fabric.router D).conns.alive ev'.now (C.flow .opener) = true := by
        intro hside
        rw [hnow]
        apply halive
        intro hlast
        rw [hfirst hlast] at hside
        cases hside
      obtain ⟨hok', hseen, loc, hout⟩ := hok.visit flood hseg' (hclock.trans_eq hnow.symm) halive'
      simp only [conversationStep, Kept, hvisit]
      refine ⟨⟨hok', ?_⟩, ⟨p, snd, dstZone, loc, hseg.crossing, hout⟩, ?_⟩
      · rintro t ⟨⟩
        refine ⟨ev'.now, hseen, ?_⟩
        rw [hnow]
        linarith
      · rintro ev'' ⟨⟩
        rw [hnow]
        exact halive
    | none =>
      -- rules carry it, which are not older than their hard timeout
      have hcarried := h.fabric.carried hseg hpossible hvisit
      obtain ⟨⟨loc, hout⟩, seen, hseen, hle⟩ := hcarried
      simp only [conversationStep, Kept, hvisit]
      refine ⟨⟨hok.later hclock, ?_⟩, ⟨p, snd, dstZone, loc, hseg.crossing, hout⟩, ?_⟩
      · rintro t ⟨⟩
        exact ⟨seen, hseen, hle⟩
      · rintro ev'' ⟨⟩

variable (C) in
/-- **A connection that is in use is never forgotten.** Take any state of the switches and the
controller in which the rules for the connection, if any, were made by its own packets and none is a
drop rule, and any schedule of its packets that begins with one of the opener and in which each
packet comes less than 60 seconds after the one before. Whichever of them the rules carry, and
whatever else happens, no packet is dropped, and the entry of the connection is alive at every visit
to the controller. -/
theorem connection_never_forgotten {S : ConversationState} (h : C.FabricOk S.fabric)
    (hstart : S.last = none) {es : List ConversationEvent}
    (hscheduled : Run.Always (conversationStep D flood) C.Scheduled S es) :
    Run.Always (conversationStep D flood) (C.Kept flood) S es := by
  have h0 : C.StateOk S := by
    refine ⟨h, ?_⟩
    rw [hstart]
    rintro t ⟨⟩
  apply hscheduled.mono_of_invariant h0
  intro S e hS hsched
  exact hS.step flood hsched

/-! ## A connection to the data center -/

/-- A host outside talks to the server. -/
def toServer : Conversation answersOnly where
  ip
    | .opener => hUntrust.ip
    | .answerer => hServer.ip
  port
    | .opener => 4000
    | .answerer => 80
  proto := ipprotoTcp
  transport := .inl rfl
  opens := by decide +kernel
  blocked := by decide +kernel

/-- A packet of the host, and one of the server. -/
def toServerIn (uid : ℕ) (now : ℚ) : PacketIn :=
  hUntrust.frameIn 0x020000000005 (.ip (hUntrust.tcp uid hServer.ip 4000 80)) now

def fromServerIn (uid : ℕ) (now : ℚ) : PacketIn :=
  hServer.frameIn 0x020000000003 (.ip (hServer.tcp uid hUntrust.ip 80 4000)) now

theorem sends_toServerIn (uid : ℕ) (now : ℚ) : toServer.Sends .opener (toServerIn uid now) := by
  have huplink : isLeafUplink answersOnly.maps 6 7 = false := by decide +kernel
  have hzone : zoneOfPort answersOnly.maps 6 7 = some "Untrust" := by decide +kernel
  have hvalid : sourceIpValidForZone answersOnly.policy (.v4 hUntrust.ip) "Untrust" = true := by
    decide +kernel
  have hgw : isGateway answersOnly hServer.ip = false := by decide +kernel
  have hdst : zoneForIp answersOnly.policy (.v4 hServer.ip) = some "DataCenter" := by decide +kernel
  exact ⟨_, _, _, crossing_of_valid rfl huplink rfl hzone hvalid hgw hdst (by decide), rfl, rfl,
    rfl, rfl, (by decide : 1 < 64), fun _ _ _ h => by cases h⟩

theorem sends_fromServerIn (uid : ℕ) (now : ℚ) :
    toServer.Sends .answerer (fromServerIn uid now) := by
  have huplink : isLeafUplink answersOnly.maps 5 1 = false := by decide +kernel
  have hzone : zoneOfPort answersOnly.maps 5 1 = some "DataCenter" := by decide +kernel
  have hvalid : sourceIpValidForZone answersOnly.policy (.v4 hServer.ip) "DataCenter" = true := by
    decide +kernel
  have hgw : isGateway answersOnly hUntrust.ip = false := by decide +kernel
  have hdst : zoneForIp answersOnly.policy (.v4 hUntrust.ip) = some "Untrust" := by decide +kernel
  exact ⟨_, _, _, crossing_of_valid rfl huplink rfl hzone hvalid hgw hdst (by decide), rfl, rfl,
    rfl, rfl, (by decide : 1 < 64), fun _ _ _ h => by cases h⟩

/-- The switches have connected, and both hosts have asked for their gateway's address. -/
def serverKnown : ConversationState where
  fabric := {
    fwClient := false
    history := [6, 1, 2, 3, 4, 5].map Event.connectionUp ++
      [hServer.sends etherBroadcast (.arp ⟨arpRequest, hServer.mac, 0, hServer.ip, 0x0A010301⟩) 0,
        hUntrust.sends etherBroadcast
          (.arp ⟨arpRequest, hUntrust.mac, 0, hUntrust.ip, 0x6C231801⟩) 0]
    rules := []
    clock := 0 }
  last := none

/-- The rule of the core for the host's packets, made by the first of them. -/
def toServerRule (used : ℚ) : Rule :=
  ⟨6, coreMod answersOnly (toServerIn 1 10) "DataCenter" ⟨5, hServer.mac, "DataCenter"⟩, 10, used⟩

/-- The rule of the core takes the host's packets up to its hard timeout; the server answers 59
seconds later, just after a sweep. -/
def lateAnswer : List ConversationEvent :=
  [.packet .opener (toServerIn 1 10) ⟨none, none⟩,
    .packet .opener (toServerIn 2 40) ⟨some (toServerRule 10), none⟩,
    .packet .opener (toServerIn 3 70) ⟨some (toServerRule 40), none⟩,
    .other (.connExpire 129), .packet .answerer (fromServerIn 4 129) ⟨none, none⟩]

theorem connection_never_forgotten_server : Run.Always (conversationStep answersOnly fun _ _ => [])
    (toServer.Kept fun _ _ => []) serverKnown lateAnswer := by
  have hok : toServer.FabricOk serverKnown.fabric := by
    refine ⟨by decide +kernel, by decide +kernel, by decide +kernel, ?_, ?_⟩
    · rintro (_ | _)
      · exact ⟨⟨7, hUntrust.mac, "Untrust"⟩, by decide +kernel⟩
      · exact ⟨⟨5, hServer.mac, "DataCenter"⟩, by decide +kernel⟩
    · rintro r ⟨⟩
  apply connection_never_forgotten toServer _ hok rfl
  refine ⟨?_, ?_, ?_, ?_, ?_, trivial⟩
  · refine ⟨by decide +kernel, sends_toServerIn 1 10, fun _ => rfl, ?_, Carriage.possible_none⟩
    rintro t ⟨⟩
  · refine ⟨by decide +kernel, sends_toServerIn 2 40, fun _ => rfl, ?_, Carriage.possible_entry
      (by decide +kernel) (by decide +kernel)⟩
    rintro t ⟨⟩
    decide +kernel
  · refine ⟨by decide +kernel, sends_toServerIn 3 70, fun _ => rfl, ?_, Carriage.possible_entry
      (by decide +kernel) (by decide +kernel)⟩
    rintro t ⟨⟩
    decide +kernel
  · constructor
    · rintro t ⟨⟩
      decide +kernel
    · rintro ⟨ev, p, x, ⟨⟩, -⟩
  · refine ⟨by decide +kernel, sends_fromServerIn 4 129, ?_, ?_, Carriage.possible_none⟩
    · rintro ⟨⟩
    · rintro t ⟨⟩
      decide +kernel

end Conversation

end ZoneSegmentation
