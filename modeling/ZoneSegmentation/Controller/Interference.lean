import ZoneSegmentation.Config.Partition
import ZoneSegmentation.Controller.Invariant

/-!
# Noninterference between zones

Where the traffic to a zone is delivered depends only on what came in at the zone's own ports. Two
runs that agree on those packet-ins agree on the locations of the zone's addresses, whatever else
happened in each of them, and at whatever times.

## Main definitions

* `zonePacketIn`: what a run shows of a zone: the packet-ins at its ports that face no core
* `ZoneView`, `ZoneView.learn`: the locations of a zone's addresses, and what a packet-in does to
  them

## Main results

* `Handled.ipToLoc`: only an accepted sender of a packet-in writes a location, and only its own
* `zoneView_stateAfter`: the locations of a zone are computed from what the run shows of it
* `zone_locations_noninterference`: the two-run statement
-/

namespace ZoneSegmentation

variable (D : Deployment)

/-! ## What a zone shows -/

/-- A packet-in at a port of a zone that is no uplink, without its time and without the answer of
the firewall daemon. -/
def zonePacketIn (Z : String) : Event → Option PacketIn
  | .packetIn ev =>
    if zoneOfPort D.maps ev.dpid ev.port = some Z ∧ isLeafUplink D.maps ev.dpid ev.port = false then
      some { ev with firewall := none, now := 0 }
    else none
  | _ => none

/-- The addresses of a zone's subnet. -/
def InSubnet (Z : String) (ip : IPAddr) : Prop :=
  ∃ z, D.policy.zones.get? Z = some z ∧ z.subnet.contains (.v4 ip) = true

/-- The locations of the addresses of a zone. -/
abbrev ZoneView (Z : String) := {ip // InSubnet D Z ip} → Option Location

/-- What the tables say of the addresses of a zone. -/
def zoneView (Z : String) (s : ZoneRouter) : ZoneView D Z := fun ip => s.ipToLoc.get? ip.1

variable {D}

/-- The locations after a packet-in: an accepted sender is where the packet came from. -/
def ZoneView.learn {Z : String} (v : ZoneView D Z) (ev : PacketIn) : ZoneView D Z × List Empty :=
  match acceptedSender D ev, corePortFor D.maps ev.dpid ev.port with
  | some snd, some corePort =>
    (fun ip => if ip.1 = snd.ip then some ⟨corePort, snd.mac, snd.zone⟩ else v ip, [])
  | _, _ => (v, [])

/-! ## What writes a location -/

variable {s : ZoneRouter}

/-- The locations after a packet-in are those before it, with that of an accepted sender. -/
theorem Handled.ipToLoc {ev : PacketIn} {s' : ZoneRouter} {log : List Sent}
    (hstep : Handled D s ev s' log) : s'.ipToLoc = (acceptedSender D ev).elim s.ipToLoc fun snd =>
      (s.learned D ev.dpid ev.port snd).ipToLoc := by
  cases hstep with
  | ignored hsender => rw [hsender, Option.elim_none]
  -- nobody is learned from what other switches forward
  | transit huplink =>
    rw [show acceptedSender D ev = none from if_pos (.inr huplink)]
    rfl
  | other _ hclaim =>
    have hsender : acceptedSender D ev = none := by simp [acceptedSender, hclaim]
    rw [hsender, Option.elim_none]
  | arpRequest hsender | arpReply hsender | arpResolve hsender | arpOrdinary hsender
  | ipUnrouted hsender | ipSameZone hsender | ipBlocked hsender | ipForwarded hsender =>
    rw [hsender]
    rfl
  | ipQueued hsender =>
    rw [hsender, ZoneRouter.ipToLoc_enqueued]
    rfl

/-- An event that is no packet-in leaves the locations as they are. -/
theorem Stepped.ipToLoc_of_ne_packetIn {e : Event} {s' : ZoneRouter} {log : List Sent}
    (hstep : Stepped D s e s' log) (hne : ∀ ev, e ≠ .packetIn ev) : s'.ipToLoc = s.ipToLoc := by
  cases hstep with
  | @packetIn ev => exact absurd rfl (hne ev)
  | connectionUp | cancelled | probed | gaveUp | connExpire => rfl

/-- A host whose location is known stays known. -/
theorem Stepped.exists_location {e : Event} {s' : ZoneRouter} {log : List Sent}
    (hstep : Stepped D s e s' log) {ip : IPAddr} (h : ∃ loc, s.ipToLoc.get? ip = some loc) :
    ∃ loc, s'.ipToLoc.get? ip = some loc := by
  cases hstep with
  | @packetIn ev _ _ hhandled =>
    rw [hhandled.ipToLoc]
    cases hsender : acceptedSender D ev with
    | none => exact h
    | some snd =>
      obtain ⟨corePort, hport, -⟩ := corePort_of_acceptedSender hsender
      rw [Option.elim_some, get?_learned hport]
      split
      · exact ⟨_, rfl⟩
      · exact h
  | connectionUp | cancelled | probed | gaveUp | connExpire => exact h

/-- A sender that is accepted elsewhere does not have an address of the zone. -/
theorem ne_of_acceptedSender {ev : PacketIn} {snd : Sender} {Z : String} {ip : IPAddr}
    (hsender : acceptedSender D ev = some snd) (hip : InSubnet D Z ip) (hne : snd.zone ≠ Z) :
    ip ≠ snd.ip := by
  rintro rfl
  apply hne
  obtain ⟨hzone, -⟩ := sourceIpValidForZone_iff.mp (acceptedSender_eq_some hsender).2.2.2.2
  exact Option.some.inj (hzone.symm.trans ((zoneForIp_eq_some_iff D.policy_ok).mpr hip))

/-- What `learn` does to a zone on what a packet-in shows of it. -/
theorem ZoneView.final_zonePacketIn {Z : String} (v : ZoneView D Z) (ev : PacketIn)
    (ip : {ip // InSubnet D Z ip}) :
    Run.final ZoneView.learn v (zonePacketIn D Z (.packetIn ev)).toList ip =
      (acceptedSender D ev).elim (v ip) fun snd =>
        if ip.1 = snd.ip then (corePortFor D.maps ev.dpid ev.port).elim (v ip) fun corePort =>
          some ⟨corePort, snd.mac, snd.zone⟩ else v ip := by
  have hsame : acceptedSender D { ev with firewall := none, now := 0 } = acceptedSender D ev := rfl
  cases hsender : acceptedSender D ev with
  | none =>
    rw [zonePacketIn]
    split
    · simp [learn, hsame, hsender]
    · rfl
  | some snd =>
    obtain ⟨-, huplink, -, hzone, -⟩ := acceptedSender_eq_some hsender
    obtain ⟨corePort, hport, -⟩ := corePort_of_acceptedSender hsender
    rw [zonePacketIn, hzone, huplink]
    by_cases hZ : snd.zone = Z
    · simp [learn, hsame, hsender, hport, hZ]
    · simp [hZ, ne_of_acceptedSender hsender ip.2 hZ]

/-- **The step lemma**: an event does to the locations of a zone what `learn` does on what the
event shows of the zone. -/
theorem zoneView_step (Z : String) (h : RouterOk D s) (e : Event) :
    zoneView D Z (step D s e).1 =
      Run.final ZoneView.learn (zoneView D Z s) (zonePacketIn D Z e).toList := by
  have hstep := step_stepped h e
  cases e with
  | connectionUp | retryTick | connExpire =>
    have hloc := hstep.ipToLoc_of_ne_packetIn nofun
    funext ip
    exact congrArg (fun d => Dict.get? d ip.1) hloc
  | packetIn ev =>
    cases hstep with
    | packetIn hhandled =>
      funext ip
      rw [ZoneView.final_zonePacketIn, zoneView, hhandled.ipToLoc]
      cases hsender : acceptedSender D ev with
      | none => rfl
      | some snd =>
        obtain ⟨corePort, hport, -⟩ := corePort_of_acceptedSender hsender
        rw [Option.elim_some, Option.elim_some, get?_learned hport, hport]
        rfl

/-- **The locations of a zone are computed from what the run shows of it.** -/
theorem zoneView_stateAfter (Z : String) (fwClient : Bool) (es : List Event) :
    zoneView D Z (stateAfter D fwClient es) =
      Run.final ZoneView.learn (fun _ => none) (es.filterMap (zonePacketIn D Z)) := by
  rw [← Run.observed_toList (step D) (zonePacketIn D Z) (.init fwClient) es]
  exact Run.view_final (zoneView D Z) (routerOk_init fwClient) (fun _ e h => h.step e)
    (fun _ e h => zoneView_step Z h e) es

/-! ## Two runs -/

/-- **Other zones cannot influence where a zone's traffic is delivered.** Two runs that show the
same of a zone agree on the locations of the addresses of its subnet, and events that show nothing
of the zone leave those locations as they are. -/
theorem zone_locations_noninterference (D : Deployment) (Z : String) (fwClient fwClient' : Bool)
    (es es' : List Event)
    (hshown : es.filterMap (zonePacketIn D Z) = es'.filterMap (zonePacketIn D Z)) :
    (∀ ip, InSubnet D Z ip → (stateAfter D fwClient es).ipToLoc.get? ip =
      (stateAfter D fwClient' es').ipToLoc.get? ip) ∧
    ∀ others : List Event, others.filterMap (zonePacketIn D Z) = [] →
      ∀ ip, InSubnet D Z ip → (stateAfter D fwClient (es ++ others)).ipToLoc.get? ip =
        (stateAfter D fwClient es).ipToLoc.get? ip := by
  have hview : ∀ fw fw' : Bool, ∀ fs gs : List Event,
      fs.filterMap (zonePacketIn D Z) = gs.filterMap (zonePacketIn D Z) →
      ∀ ip, InSubnet D Z ip → (stateAfter D fw fs).ipToLoc.get? ip =
        (stateAfter D fw' gs).ipToLoc.get? ip := by
    intro fw fw' fs gs hfg ip hip
    have heq : zoneView D Z (stateAfter D fw fs) = zoneView D Z (stateAfter D fw' gs) := by
      rw [zoneView_stateAfter, zoneView_stateAfter, hfg]
    exact congrFun heq ⟨ip, hip⟩
  constructor
  · exact hview fwClient fwClient' es es' hshown
  · intro others hothers
    apply hview fwClient fwClient
    rw [List.filterMap_append, hothers, List.append_nil]

/-- A host asks for its gateway. -/
def h101Asks : Event :=
  h101.sends etherBroadcast (.arp ⟨arpRequest, h101.mac, 0, h101.ip, 0x0A010101⟩) 0

/-- A host outside claims that host's address, in an ARP message and as the source of a packet. -/
def h101Forged : List Event := [
  hUntrust.sends etherBroadcast (.arp ⟨arpReply, hUntrust.mac, 0, h101.ip, 0x6C231801⟩) 1,
  hUntrust.sends 0x020000000005 (.ip { hUntrust.tcp 1 hServer.ip 4000 80 with srcip := h101.ip }) 2]

theorem zone_locations_noninterference_h101 :
    (∀ ip, InSubnet deployment "DeptA" ip →
      (stateAfter deployment false [h101Asks]).ipToLoc.get? ip =
        (stateAfter deployment true (h101Forged ++ [h101Asks])).ipToLoc.get? ip) ∧
    ∀ others : List Event, others.filterMap (zonePacketIn deployment "DeptA") = [] →
      ∀ ip, InSubnet deployment "DeptA" ip →
        (stateAfter deployment false ([h101Asks] ++ others)).ipToLoc.get? ip =
          (stateAfter deployment false [h101Asks]).ipToLoc.get? ip :=
  zone_locations_noninterference deployment "DeptA" false true [h101Asks]
    (h101Forged ++ [h101Asks]) (by decide +kernel)

end ZoneSegmentation
