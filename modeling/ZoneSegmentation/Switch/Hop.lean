import ZoneSegmentation.Controller.Conservation
import ZoneSegmentation.Controller.RuleOrigin
import ZoneSegmentation.Switch.Fabric

/-!
# The router's hop

A packet between two zones makes one hop: it leaves the core with the addresses of the next link and
a TTL that is one lower. The core's rule makes the hop, or the controller does; and the packet gets
there through its leaf's rule, or through the controller. Whichever of the rules are there, what
leaves is the same.

## Main definitions

* `Departure`, `applied`: a frame that leaves a switch, and the actions of a rule on a frame
* `Fabric.departures`: what leaves the switches when a packet enters them
* `Rule.Meets`, `Rule.SentAt`: a packet meets a rule, and when it was sent

## Main results

* `departures_asked`: what leaves when the controller is asked
* `rules_and_controller_route_alike`: in every state of the rules the same packet leaves the core
-/

namespace ZoneSegmentation

open OfpMatch

/-! ## Frames that leave a switch -/

/-- A frame leaves a switch from a port. What the model does not describe of its content is its
type. -/
structure Departure where
  dpid : ℕ
  port : ℕ
  src : EthAddr
  dst : EthAddr
  content : Content ⊕ ℕ
  deriving DecidableEq

/-- What a received frame carries, when it is sent on. -/
def Body.content : Body → Content ⊕ ℕ
  | .arp a => .inl (.arp a)
  | .ip p => .inl (.ip p)
  | .lldp => .inr Body.lldp.type
  | .other t => .inr t

/-- A received frame leaves as it is. -/
def Frame.leaves (f : Frame) (dpid port : ℕ) : Departure :=
  ⟨dpid, port, f.src, f.dst, f.body.content⟩

/-- The actions of a rule, in order; each output sends the frame as it is by then. `dec_ttl` stops
at a packet whose TTL does not let it pass. -/
def applied (dpid : ℕ) : List Action → Frame → List Departure
  | [], _ => []
  | .setDlSrc mac :: rest, f => applied dpid rest { f with src := mac }
  | .setDlDst mac :: rest, f => applied dpid rest { f with dst := mac }
  | .output port :: rest, f => f.leaves dpid port :: applied dpid rest f
  | .decTtl :: rest, f =>
    match f.body with
    | .ip p => if p.ttl ≤ 1 then []
      else applied dpid rest { f with body := .ip { p with ttl := p.ttl - 1 } }
    | _ => applied dpid rest f

/-- What leaves a switch at a message; `flood` are the ports that a flood goes to. A rule that
answers no packet-in makes nothing leave. -/
def Sent.departures (flood : List ℕ) (m : Sent) : List Departure :=
  match m.message with
  | .packetOut frame port => [⟨m.dpid, port, frame.src, frame.dst, .inl frame.content⟩]
  | .packetOutData data port => [data.leaves m.dpid port]
  | .packetOutFlood data => flood.map (data.leaves m.dpid)
  | .flowMod mod =>
    match mod.data with
    | some data => applied m.dpid mod.actions data
    | none => []

namespace Fabric

variable (D : Deployment) (flood : ℕ → ℕ → List ℕ)

/-- What leaves when a switch hands a packet to the controller; `flood` are the ports of a switch
but one. -/
def asked (F : Fabric) (ev : PacketIn) : List Departure :=
  (step D (F.router D) (.packetIn ev)).2.flatMap (Sent.departures (flood ev.dpid ev.port))

/-- What leaves when a packet comes to the core. -/
def atCore (F : Fabric) (ev : PacketIn) : List Departure :=
  match lookup F.rules ev.now ev.dpid ev.port ev.packet with
  | none => F.asked D flood ev
  | some r => applied ev.dpid r.mod.actions ev.packet

/-- What leaves the switches when a packet enters them. A leaf's rule may lead it to the core; the
rules of the core are not touched by that. -/
def departures (F : Fabric) (ev : PacketIn) : List Departure :=
  match lookup F.rules ev.now ev.dpid ev.port ev.packet with
  | none => F.asked D flood ev
  | some r =>
    match uplinkTo D ev.dpid r.mod.actions with
    | some corePort => F.atCore D flood { ev with dpid := D.maps.coreDpid, port := corePort }
    | none => applied ev.dpid r.mod.actions ev.packet

end Fabric

/-- A packet meets a rule that takes it at the switch that it enters, or at the core. -/
def Rule.Meets (D : Deployment) (r : Rule) (ev : PacketIn) : Prop :=
  r.Takes ev.now ev.dpid ev.port ev.packet ∨ ∃ corePort,
    corePortFor D.maps ev.dpid ev.port = some corePort ∧
      r.Takes ev.now D.maps.coreDpid corePort ev.packet

/-- The controller sent a rule at an event of its history, between what came before and after. -/
structure Rule.SentAt (D : Deployment) (F : Fabric) (r : Rule) (past : List Event) (e : Event)
    (rest : List Event) : Prop where
  history : F.history = past ++ e :: rest
  sent : ⟨r.dpid, .flowMod r.mod⟩ ∈ (step D (stateAfter D F.fwClient past) e).2

variable {D : Deployment} {flood : ℕ → ℕ → List ℕ} {F : Fabric} {ev : PacketIn} {p : Ipv4}
  {snd : Sender} {dstZone : String} {loc : Location}

/-- The packet as it leaves the core after its hop. -/
def routedDeparture (D : Deployment) (p : Ipv4) (dstZone : String) (loc : Location) :
    Departure where
  dpid := D.maps.coreDpid
  port := loc.corePort
  src := gatewayMac D dstZone
  dst := loc.mac
  content := .inl (.ip { p with ttl := p.ttl - 1 })

/-! ## The controller's hop -/

/-- **A packet that passes and whose destination is known makes its hop at the controller.** -/
theorem departures_asked (hconn : D.maps.coreDpid ∈ (F.router D).connections)
    (hcross : crossing D ev = some (p, snd, dstZone)) (httl : 1 < p.ttl)
    (hverdict : (F.router D).verdict D ev p snd.zone dstZone ≠ none)
    (hloc : (F.router D).ipToLoc.get? p.dstip = some loc) :
    F.asked D flood ev = [routedDeparture D p dstZone loc] := by
  obtain ⟨hsender, hbody, hsrc, hdst, hne⟩ := crossing_eq_some hcross
  have hstep : Stepped D (F.router D) (.packetIn ev) (step D (F.router D) (.packetIn ev)).1
      (step D (F.router D) (.packetIn ev)).2 :=
    step_stepped (routerOk_stateAfter ..) (.packetIn ev)
  -- the destination is not the sender, so that its location is still the one that was known
  have hother : p.dstip ≠ snd.ip := by
    obtain ⟨-, -, hclaim, -, -⟩ := acceptedSender_eq_some hsender
    simp only [Frame.claim, hbody, Option.some.injEq, Prod.mk.injEq] at hclaim
    intro heq
    rw [heq, ← hclaim.1, hsrc] at hdst
    exact hne (Option.some.inj hdst).symm
  obtain ⟨corePort, hport, -⟩ := corePort_of_acceptedSender hsender
  have hknown : ((F.router D).learned D ev.dpid ev.port snd).ipToLoc.get? p.dstip = some loc := by
    rw [get?_learned hport, if_neg hother, hloc]
  unfold Fabric.asked
  generalize (step D (F.router D) (.packetIn ev)).1 = s',
    (step D (F.router D) (.packetIn ev)).2 = log at hstep ⊢
  cases hstep with
  | packetIn hhandled =>
    rcases hhandled.of_crossing hcross with ⟨hnone, -⟩ | ⟨-, loc', hloc', -, rfl⟩ | ⟨-, hnone⟩
    · exact absurd hnone hverdict
    · obtain rfl := Option.some.inj (hloc'.symm.trans hknown)
      have hflows : ∀ m ∈ routeFlowsSent D (F.router D) ev dstZone loc',
          m.departures (flood ev.dpid ev.port) = [] := by
        intro m hm
        obtain ⟨-, rfl | ⟨-, uplink, -, rfl⟩⟩ := mem_routeFlowsSent.mp hm <;> rfl
      have hforward : forwardSent D (F.router D) (ev.queued p) dstZone loc'.corePort loc'.mac =
          [⟨D.maps.coreDpid, .packetOut (routedFrame D (ev.queued p) dstZone loc'.mac)
            loc'.corePort⟩] := by
        have hpasses : ¬ (ev.queued p).ip.ttl ≤ 1 := not_le.mpr httl
        unfold forwardSent
        rw [if_neg hpasses, if_pos hconn]
      rw [if_pos httl, hforward, List.flatMap_append, List.flatMap_eq_nil_iff.mpr hflows]
      rfl
    · rw [hnone] at hknown
      cases hknown

/-! ## The rules' hop -/

/-- A routed packet's rule of the core makes the hop to where the destination was known to be. -/
theorem applied_coreMod (ev₀ : PacketIn) {packet : Frame} (hbody : packet.body = .ip p)
    (httl : 1 < p.ttl) :
    applied D.maps.coreDpid (coreMod D ev₀ dstZone loc).actions packet =
      [routedDeparture D p dstZone loc] := by
  simp [applied, coreMod, hbody, not_le.mpr httl, Frame.leaves, Body.content, routedDeparture]

/-- What a rule does that does not drop: at the core it makes the hop to where the destination was
when it was sent; at a leaf it leads to the core. -/
theorem RuleOrigin.leads {s : ZoneRouter} {dpid : ℕ} {mod : FlowMod} {packet : Frame}
    {ev₀ : PacketIn} {p₀ : Ipv4} {snd₀ : Sender}
    (h : RuleOrigin D s dpid mod packet p ev₀ p₀ snd₀ dstZone) (hbody : packet.body = .ip p)
    (hdrop : mod.actions ≠ []) (httl : 1 < p.ttl) :
    ∃ loc, (step D s (.packetIn ev₀)).1.ipToLoc.get? p.dstip = some loc ∧
      ((dpid = D.maps.coreDpid ∧
          applied dpid mod.actions packet = [routedDeparture D p dstZone loc]) ∨
        dpid ≠ D.maps.coreDpid ∧ ∃ uplink, D.maps.leafUplinkPort.get? dpid = some uplink ∧
          mod.actions = [.output uplink]) := by
  rcases h.cause with ⟨-, -, hmod⟩ | ⟨-, loc, hloc, hm⟩
  · rw [hmod] at hdrop
    exact absurd rfl hdrop
  · refine ⟨loc, by rw [h.same.dstip, hloc], ?_⟩
    rcases flowMod_of_mem_routeFlowsSent hm with ⟨rfl, rfl⟩ | ⟨rfl, hleaf, uplink, hup, rfl⟩
    · exact .inl ⟨rfl, applied_coreMod ev₀ hbody httl⟩
    · exact .inr ⟨hleaf, uplink, hup, rfl⟩

/-- A packet that comes to the core from its sender's leaf is to cross zones as before. -/
theorem crossing_at_core (hcross : crossing D ev = some (p, snd, dstZone)) {corePort : ℕ}
    (hport : corePortFor D.maps ev.dpid ev.port = some corePort) :
    crossing D { ev with dpid := D.maps.coreDpid, port := corePort } =
      some (p, snd, dstZone) := by
  obtain ⟨hsender, hbody, -⟩ := crossing_eq_some hcross
  obtain ⟨hparsed, -, hclaim, hzone, hvalid⟩ := acceptedSender_eq_some hsender
  obtain ⟨corePort', hport', hcoreZone⟩ := D.exists_corePortFor hzone
  obtain rfl := Option.some.inj (hport'.symm.trans hport)
  have hat : zoneOfPort D.maps D.maps.coreDpid corePort' = some snd.zone := by
    rw [zoneOfPort, if_pos rfl, hcoreZone]
    rfl
  have hsender' : acceptedSender D { ev with dpid := D.maps.coreDpid, port := corePort' } =
      acceptedSender D ev := by
    have h := @acceptedSender_of_claim D { ev with dpid := D.maps.coreDpid, port := corePort' }
      _ _ _ hparsed (D.isLeafUplink_core _) hclaim hat
    rw [hsender, h, if_pos hvalid]
  unfold crossing at hcross ⊢
  rwa [hsender']

/-- The actions of the core lead to no other switch. -/
theorem uplinkTo_core (actions : List Action) : uplinkTo D D.maps.coreDpid actions = none := by
  simp [uplinkTo, D.leafUplinkPort_core]

/-- A leaf's uplink leads to the core's port for the leaf. -/
theorem uplinkTo_output {dpid port corePort uplink : ℕ} (hleaf : dpid ≠ D.maps.coreDpid)
    (hport : corePortFor D.maps dpid port = some corePort)
    (hup : D.maps.leafUplinkPort.get? dpid = some uplink) :
    uplinkTo D dpid [.output uplink] = some corePort := by
  rw [corePortFor, if_neg hleaf] at hport
  simp [uplinkTo, hup, hport]

/-! ## Both hops -/

/-- What makes a packet's hop the same on every way: it passes, no rule drops it, and its
destination is where it was when the rules that it meets were sent. -/
structure Routable (D : Deployment) (F : Fabric) (ev : PacketIn) (p : Ipv4) (snd : Sender)
    (dstZone : String) (loc : Location) : Prop where
  connected : D.maps.coreDpid ∈ (F.router D).connections
  crossing : crossing D ev = some (p, snd, dstZone)
  ttl : 1 < p.ttl
  verdict : (F.router D).verdict D ev p snd.zone dstZone ≠ none
  undropped : ∀ r ∈ F.rules, r.Meets D ev → r.mod.actions ≠ []
  located : (F.router D).ipToLoc.get? p.dstip = some loc
  unmoved : ∀ r ∈ F.rules, r.Meets D ev → ∃ past e rest, r.SentAt D F past e rest ∧
    ∀ more, more <+: rest →
      (stateAfter D F.fwClient (past ++ e :: more)).ipToLoc.get? p.dstip = some loc

namespace Routable

theorem asked (h : Routable D F ev p snd dstZone loc) :
    F.asked D flood ev = [routedDeparture D p dstZone loc] :=
  departures_asked h.connected h.crossing h.ttl h.verdict h.located

/-- What a rule does that the packet meets. -/
theorem leads (h : Routable D F ev p snd dstZone loc) {r : Rule} (hr : r ∈ F.rules)
    (hmeets : r.Meets D ev) {dpid port : ℕ} (htakes : r.Takes ev.now dpid port ev.packet)
    (hport : isLeafUplink D.maps dpid port = false) :
    (dpid = D.maps.coreDpid ∧
      applied dpid r.mod.actions ev.packet = [routedDeparture D p dstZone loc]) ∨
    (dpid ≠ D.maps.coreDpid ∧ ∃ uplink, D.maps.leafUplinkPort.get? dpid = some uplink ∧
      r.mod.actions = [.output uplink]) := by
  obtain ⟨-, hbody, -⟩ := crossing_eq_some h.crossing
  obtain ⟨past, e, rest, hsent, hknown⟩ := h.unmoved r hr hmeets
  obtain ⟨rfl, -, hmatch⟩ := htakes
  obtain ⟨ev₀, p₀, snd₀, rfl, horigin⟩ :=
    exists_ruleOrigin_of_crossing (routerOk_stateAfter ..) hsent.sent h.crossing hmatch hport
  obtain ⟨loc', hloc', hleads⟩ := horigin.leads hbody (h.undropped r hr hmeets) h.ttl
  have hloc := hknown [] List.nil_prefix
  rw [stateAfter_snoc, hloc'] at hloc
  obtain rfl := Option.some.inj hloc
  exact hleads

/-- Once the packet has come to the core, the core's rule or the controller makes its hop. -/
theorem atCore (h : Routable D F ev p snd dstZone loc) {corePort : ℕ}
    (hport : corePortFor D.maps ev.dpid ev.port = some corePort) :
    F.atCore D flood { ev with dpid := D.maps.coreDpid, port := corePort } =
      [routedDeparture D p dstZone loc] := by
  unfold Fabric.atCore
  cases hlookup : lookup F.rules ev.now D.maps.coreDpid corePort ev.packet with
  | none =>
    -- the core's rule has expired: the controller takes the packet for one of its sender's zone
    apply departures_asked h.connected (crossing_at_core h.crossing hport) h.ttl _ h.located
    exact h.verdict
  | some r =>
    obtain ⟨hr, htakes⟩ := lookup_eq_some hlookup
    rcases h.leads hr (.inr ⟨corePort, hport, htakes⟩) htakes (D.isLeafUplink_core _) with
      ⟨-, happlied⟩ | ⟨hleaf, -⟩
    · exact happlied
    · exact absurd rfl hleaf

end Routable

/-- **The rules and the controller route alike.** Take any rules of the switches, and a packet for
another zone that enters at a host's port with a valid source and a TTL above 1, that the firewall
allows at that moment, that meets no drop rule, and whose destination is where it was since the
rules that it meets were sent. Then one copy of it leaves the core, on the destination's port, from
the gateway of its zone to its host and with a TTL one lower, and nothing else leaves any switch;
whether a rule carries the packet at its leaf, at the core, at both or at neither. -/
theorem rules_and_controller_route_alike (D : Deployment) (flood : ℕ → ℕ → List ℕ) {F : Fabric}
    {ev : PacketIn} {p : Ipv4} {snd : Sender} {dstZone : String} {loc : Location}
    (h : Routable D F ev p snd dstZone loc) :
    F.departures D flood ev = [routedDeparture D p dstZone loc] := by
  obtain ⟨hsender, -⟩ := crossing_eq_some h.crossing
  obtain ⟨-, huplink, -⟩ := acceptedSender_eq_some hsender
  obtain ⟨corePort, hport, -⟩ := corePort_of_acceptedSender hsender
  unfold Fabric.departures
  cases hlookup : lookup F.rules ev.now ev.dpid ev.port ev.packet with
  | none => exact h.asked
  | some r =>
    obtain ⟨hr, htakes⟩ := lookup_eq_some hlookup
    rcases h.leads hr (.inl htakes) htakes huplink with
      ⟨hcore, happlied⟩ | ⟨hleaf, uplink, hup, hactions⟩
    · rw [hcore] at happlied ⊢
      simp only [uplinkTo_core]
      exact happlied
    · simp only [hactions, uplinkTo_output hleaf hport hup]
      exact h.atCore hport

/-- A department host has talked to the server 35 seconds ago. Its leaf's rule was used since, and
the core's was not, so that it has expired. -/
def halfExpired : Fabric where
  fwClient := false
  history := [6, 1, 2, 3, 4, 5].map Event.connectionUp ++
    [hServer.sends etherBroadcast (.arp ⟨arpRequest, hServer.mac, 0, hServer.ip, 0x0A010301⟩) 0,
      h101.sends 0x020000000001 (.ip (h101.tcp 1 hServer.ip 4000 80)) 10]
  rules := [
    ⟨1, leafMod (h101.frameIn 0x020000000001 (.ip (h101.tcp 1 hServer.ip 4000 80)) 10) 3, 10, 35⟩,
    ⟨6, coreMod deployment (h101.frameIn 0x020000000001 (.ip (h101.tcp 1 hServer.ip 4000 80)) 10)
      "DataCenter" ⟨5, hServer.mac, "DataCenter"⟩, 10, 10⟩]
  clock := 35

/-- The leaf's rule leads the host's next packet to the core, where the controller makes its hop. -/
theorem rules_and_controller_route_alike_server :
    let p := h101.tcp 2 hServer.ip 4000 80
    let ev := h101.frameIn 0x020000000001 (.ip p) 45
    halfExpired.departures deployment (fun _ _ => []) ev =
      [routedDeparture deployment p "DataCenter" ⟨5, hServer.mac, "DataCenter"⟩] := by
  intro p ev
  let past := halfExpired.history.take 7
  let e := halfExpired.history.getLast (by decide)
  have hactions : ∀ r ∈ halfExpired.rules, r.mod.actions ≠ [] := by decide +kernel
  have hsent : ∀ r ∈ halfExpired.rules, ⟨r.dpid, .flowMod r.mod⟩ ∈
      (step deployment (stateAfter deployment false past) e).2 := by decide +kernel
  have hroutable : Routable deployment halfExpired ev p ⟨h101.ip, h101.mac, "DeptA"⟩ "DataCenter"
      ⟨5, hServer.mac, "DataCenter"⟩ := by
    refine ⟨by decide +kernel, by decide +kernel, by decide, by decide +kernel,
      fun r hr _ => hactions r hr, by decide +kernel, ?_⟩
    intro r hr _
    refine ⟨past, e, [], ⟨by decide +kernel, hsent r hr⟩, ?_⟩
    intro more hmore
    obtain rfl := List.prefix_nil.mp hmore
    decide +kernel
  exact rules_and_controller_route_alike deployment _ hroutable

end ZoneSegmentation
