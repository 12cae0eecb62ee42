import ZoneSegmentation.Conntrack.History
import ZoneSegmentation.Controller.Invariant

/-!
# The controller's connection table

The controller asks its connection table about every IP packet that is to cross zones, and sweeps
it from time to time. So the table after a run is that of these calls alone, and everything known
about the calls of a table holds of the controller.

## Main definitions

* `callsBy`: the calls that an event makes
* `Event.time?`, `TimedEvents`: runs at non-decreasing times

## Main results

* `Handled.flowMod`: the rules that a packet-in can cause
* `Stepped.packetIn_of_flowMod`: no other event causes rules
* `Handled.of_crossing`: what happens to a packet that is to cross zones
* `conns_stateAfter`: the table after a run is that of its calls
* `alive_stateAfter_iff`: its live connections, from the history
-/

namespace ZoneSegmentation

open KeepAlive

variable {D : Deployment} {s : ZoneRouter}

/-! ## Packets that cross zones -/

theorem crossing_of_none {ev : PacketIn} (h : acceptedSender D ev = none) :
    crossing D ev = none := by
  simp [crossing, h]

theorem crossing_of_uplink {ev : PacketIn} (h : isLeafUplink D.maps ev.dpid ev.port = true) :
    crossing D ev = none := crossing_of_none (by simp [acceptedSender, h])

theorem crossing_of_claim_none {ev : PacketIn} (h : ev.packet.claim = none) :
    crossing D ev = none := crossing_of_none (by simp [acceptedSender, h])

theorem crossing_of_arp {ev : PacketIn} {a : Arp} (h : ev.packet.body = .arp a) :
    crossing D ev = none := by
  simp [crossing, h]

theorem crossing_of_ip {ev : PacketIn} {p : Ipv4} {snd : Sender}
    (hsender : acceptedSender D ev = some snd) (hbody : ev.packet.body = .ip p) : crossing D ev =
      (zoneForIp D.policy (.v4 p.dstip)).bind fun dstZone =>
        if isGateway D p.dstip = false ∧ dstZone ≠ snd.zone then some (p, snd, dstZone)
        else none := by
  simp [crossing, hsender, hbody]

theorem crossing_of_unrouted {ev : PacketIn} {p : Ipv4} {snd : Sender}
    (hsender : acceptedSender D ev = some snd) (hbody : ev.packet.body = .ip p)
    (hdst : isGateway D p.dstip = true ∨ zoneForIp D.policy (.v4 p.dstip) = none) :
    crossing D ev = none := by
  rw [crossing_of_ip hsender hbody]
  rcases hdst with hgw | hdst
  · simp [hgw]
  · simp [hdst]

theorem crossing_of_sameZone {ev : PacketIn} {p : Ipv4} {snd : Sender}
    (hsender : acceptedSender D ev = some snd) (hbody : ev.packet.body = .ip p)
    (hdst : zoneForIp D.policy (.v4 p.dstip) = some snd.zone) : crossing D ev = none := by
  simp [crossing_of_ip hsender hbody, hdst]

theorem crossing_of_ne {ev : PacketIn} {p : Ipv4} {snd : Sender} {dstZone : String}
    (hsender : acceptedSender D ev = some snd) (hbody : ev.packet.body = .ip p)
    (hgw : isGateway D p.dstip = false) (hdst : zoneForIp D.policy (.v4 p.dstip) = some dstZone)
    (hne : dstZone ≠ snd.zone) : crossing D ev = some (p, snd, dstZone) := by
  simp [crossing_of_ip hsender hbody, hgw, hdst, hne]

/-- A packet with a valid source for the zone of its port is to cross zones. -/
theorem crossing_of_valid {ev : PacketIn} {p : Ipv4} {zone dstZone : String}
    (hparsed : ev.packet.parsed = true) (huplink : isLeafUplink D.maps ev.dpid ev.port = false)
    (hbody : ev.packet.body = .ip p) (hzone : zoneOfPort D.maps ev.dpid ev.port = some zone)
    (hvalid : sourceIpValidForZone D.policy (.v4 p.srcip) zone = true)
    (hgw : isGateway D p.dstip = false) (hdst : zoneForIp D.policy (.v4 p.dstip) = some dstZone)
    (hne : dstZone ≠ zone) : crossing D ev = some (p, ⟨p.srcip, ev.packet.src, zone⟩, dstZone) := by
  have hclaim : ev.packet.claim = some (p.srcip, ev.packet.src) := by
    rw [Frame.claim, hbody]
  have hsender : acceptedSender D ev = some ⟨p.srcip, ev.packet.src, zone⟩ := by
    rw [acceptedSender_of_claim hparsed huplink hclaim hzone, if_pos hvalid]
  exact crossing_of_ne hsender hbody hgw hdst hne

/-- What is known of a packet that is to cross zones. -/
theorem crossing_eq_some {ev : PacketIn} {p : Ipv4} {snd : Sender} {dstZone : String}
    (h : crossing D ev = some (p, snd, dstZone)) : acceptedSender D ev = some snd ∧
      ev.packet.body = .ip p ∧ zoneForIp D.policy (.v4 p.srcip) = some snd.zone ∧
      zoneForIp D.policy (.v4 p.dstip) = some dstZone ∧ dstZone ≠ snd.zone := by
  obtain ⟨snd', hsender, h⟩ := Option.bind_eq_some_iff.mp h
  split at h
  · rename_i p' hbody
    obtain ⟨dstZone', hdst, h⟩ := Option.bind_eq_some_iff.mp h
    split at h
    · rename_i hcross
      obtain ⟨rfl, rfl, rfl⟩ : p' = p ∧ snd' = snd ∧ dstZone' = dstZone := by simpa using h
      obtain ⟨-, -, hclaim, -, hvalid⟩ := acceptedSender_eq_some hsender
      simp only [Frame.claim, hbody, Option.some.injEq, Prod.mk.injEq] at hclaim
      exact ⟨hsender, hbody, hclaim.1 ▸ (sourceIpValidForZone_iff.mp hvalid).1, hdst, hcross.2⟩
    · cases h
  · cases h

/-- The table changes by the check of a packet that crosses zones. -/
theorem Handled.conns {ev : PacketIn} {s' : ZoneRouter} {log : List Sent}
    (hstep : Handled D s ev s' log) : s'.conns =
      match crossing D ev with
      | some (p, snd, dstZone) => (s.conns.check ev.now
          (s.policyAllowed D snd.zone dstZone p.isIcmp ev.firewall) p.tracked).2
      | none => s.conns := by
  cases hstep with
  -- only a packet that crosses zones is checked in the table
  | ignored hsender => rw [crossing_of_none hsender]
  | transit huplink =>
    rw [crossing_of_uplink huplink]
    rfl
  | other _ hclaim => rw [crossing_of_claim_none hclaim]
  | arpRequest _ hbody | arpReply _ hbody | arpOrdinary _ hbody | arpResolve _ hbody =>
    rw [crossing_of_arp hbody]
    rfl
  | ipUnrouted hsender hbody hdst =>
    rw [crossing_of_unrouted hsender hbody hdst]
    rfl
  | ipSameZone hsender hbody _ hdst =>
    rw [crossing_of_sameZone hsender hbody hdst]
    rfl
  | ipBlocked hsender hbody hgw hdst hne | ipForwarded hsender hbody hgw hdst hne =>
    rw [crossing_of_ne hsender hbody hgw hdst hne]
    rfl
  | ipQueued hsender hbody hgw hdst hne =>
    rw [crossing_of_ne hsender hbody hgw hdst hne, ZoneRouter.conns_enqueued]
    rfl

/-- What happens to a packet that crosses zones: it is blocked, or forwarded to where its
destination is, or it waits for its destination. -/
theorem Handled.of_crossing {ev : PacketIn} {s' : ZoneRouter} {log : List Sent}
    (hstep : Handled D s ev s' log) {p : Ipv4} {snd : Sender} {dstZone : String}
    (hcross : crossing D ev = some (p, snd, dstZone)) :
    let learned := s.learned D ev.dpid ev.port snd
    let verdict := s.verdict D ev p snd.zone dstZone
    (verdict = none ∧ s' = learned.checked D ev p snd.zone dstZone ∧
      log = [⟨ev.dpid, .flowMod (dropMod ev)⟩]) ∨
    (verdict ≠ none ∧ ∃ loc, learned.ipToLoc.get? p.dstip = some loc ∧
      s' = learned.checked D ev p snd.zone dstZone ∧
      log = (if 1 < p.ttl then routeFlowsSent D s ev dstZone loc else []) ++
        forwardSent D s (ev.queued p) dstZone loc.corePort loc.mac) ∨
    (verdict ≠ none ∧ learned.ipToLoc.get? p.dstip = none) := by
  intro learned verdict
  cases hstep with
  | ignored hsender => simp [crossing_of_none hsender] at hcross
  | transit huplink => simp [crossing_of_uplink huplink] at hcross
  | other _ hclaim => simp [crossing_of_claim_none hclaim] at hcross
  | arpRequest _ hbody | arpReply _ hbody | arpOrdinary _ hbody | arpResolve _ hbody =>
    simp [crossing_of_arp hbody] at hcross
  | ipUnrouted hsender hbody hdst => simp [crossing_of_unrouted hsender hbody hdst] at hcross
  | ipSameZone hsender hbody _ hdst => simp [crossing_of_sameZone hsender hbody hdst] at hcross
  | ipBlocked hsender hbody hgw hdst hne hverdict =>
    obtain ⟨rfl, rfl, rfl⟩ : _ = p ∧ _ = snd ∧ _ = dstZone := by
      simpa [crossing_of_ne hsender hbody hgw hdst hne] using hcross
    exact .inl ⟨hverdict, rfl, rfl⟩
  | @ipForwarded _ _ _ _ loc hsender hbody hgw hdst hne hverdict hloc =>
    obtain ⟨rfl, rfl, rfl⟩ : _ = p ∧ _ = snd ∧ _ = dstZone := by
      simpa [crossing_of_ne hsender hbody hgw hdst hne] using hcross
    exact .inr (.inl ⟨by simp [verdict, hverdict], loc, hloc, rfl, rfl⟩)
  | ipQueued hsender hbody hgw hdst hne hverdict hloc =>
    obtain ⟨rfl, rfl, rfl⟩ : _ = p ∧ _ = snd ∧ _ = dstZone := by
      simpa [crossing_of_ne hsender hbody hgw hdst hne] using hcross
    exact .inr (.inr ⟨by simp [verdict, hverdict], hloc⟩)

/-- Floods and forwarded packets are no rules. -/
theorem flowMod_notMem_floodSent {ev : PacketIn} {dpid : ℕ} {mod : FlowMod} :
    (⟨dpid, .flowMod mod⟩ : Sent) ∉ floodSent D ev := by
  intro hm
  simpa [Message.built?] using mem_floodSent.mp hm

theorem flowMod_notMem_forwardSent {q : QueuedPacket} {zone : String} {port : ℕ} {mac : EthAddr}
    {dpid : ℕ} {mod : FlowMod} :
    (⟨dpid, .flowMod mod⟩ : Sent) ∉ forwardSent D s q zone port mac := by
  intro hm
  rcases mem_forwardSent.mp hm with ⟨-, hm⟩ | ⟨-, -, h⟩
  · obtain ⟨-, zone, -, h⟩ := mem_errorSent.mp hm
    simp at h
  · simp at h

theorem flowMod_notMem_queueSent {ip : IPAddr} {zone : String} {dpid : ℕ} {mod : FlowMod} :
    (⟨dpid, .flowMod mod⟩ : Sent) ∉ queueSent D s ip zone := by
  intro hm
  obtain ⟨-, hm⟩ := mem_queueSent.mp hm
  obtain ⟨-, port, -, h⟩ := mem_probeSent.mp hm
  simp at h

/-- The rule of a packet that is delivered at layer 2. -/
theorem flowMod_of_mem_l2Sent {ev : PacketIn} {dpid : ℕ} {mod : FlowMod}
    (hm : ⟨dpid, .flowMod mod⟩ ∈ l2Sent D s ev) :
    dpid = ev.dpid ∧ ∃ outPort, mod = l2Mod ev outPort := by
  rcases mem_l2Sent.mp hm with ⟨outPort, -, h⟩ | ⟨-, hm⟩
  · simp only [Sent.mk.injEq, Message.flowMod.injEq] at h
    exact ⟨h.1, outPort, h.2⟩
  · exact absurd hm flowMod_notMem_floodSent

/-- The rules a packet-in can cause: a rule of layer 2 for what came in at an uplink or stays in its
zone, the drop rule of a packet that does not pass, and the rules of a packet that passes and is
forwarded to where its destination is known to be. -/
theorem Handled.flowMod {ev : PacketIn} {s' : ZoneRouter} {log : List Sent}
    (hstep : Handled D s ev s' log) {dpid : ℕ} {mod : FlowMod}
    (hm : ⟨dpid, .flowMod mod⟩ ∈ log) :
    (dpid = ev.dpid ∧ (∃ outPort, mod = l2Mod ev outPort) ∧
      (isLeafUplink D.maps ev.dpid ev.port = true ∨ ∃ p snd, acceptedSender D ev = some snd ∧
        ev.packet.body = .ip p ∧ zoneForIp D.policy (.v4 p.dstip) = some snd.zone)) ∨
    (dpid = ev.dpid ∧ mod = dropMod ev ∧ ∃ p snd dstZone, crossing D ev = some (p, snd, dstZone) ∧
      s.verdict D ev p snd.zone dstZone = none) ∨
    ∃ p snd dstZone loc, crossing D ev = some (p, snd, dstZone) ∧
      s.verdict D ev p snd.zone dstZone ≠ none ∧ s'.ipToLoc.get? p.dstip = some loc ∧
      ⟨dpid, .flowMod mod⟩ ∈ routeFlowsSent D s ev dstZone loc := by
  cases hstep with
  | ignored | arpReply | ipUnrouted => cases hm
  | transit huplink =>
    split at hm
    · exact absurd hm flowMod_notMem_floodSent
    · obtain ⟨hdpid, hmod⟩ := flowMod_of_mem_l2Sent hm
      exact .inl ⟨hdpid, hmod, .inl huplink⟩
  | other | arpOrdinary => exact absurd hm flowMod_notMem_floodSent
  | arpRequest => simp [replySent] at hm
  | arpResolve =>
    obtain ⟨q, -, hm⟩ := List.mem_flatMap.mp hm
    exact absurd hm flowMod_notMem_forwardSent
  | ipSameZone hsender hbody _ hdst =>
    obtain ⟨hdpid, hmod⟩ := flowMod_of_mem_l2Sent hm
    exact .inl ⟨hdpid, hmod, .inr ⟨_, _, hsender, hbody, hdst⟩⟩
  | @ipBlocked p snd dstZone hsender hbody hgw hdst hne hverdict =>
    simp only [List.mem_singleton, Sent.mk.injEq, Message.flowMod.injEq] at hm
    exact .inr (.inl ⟨hm.1, hm.2, p, snd, dstZone,
      crossing_of_ne hsender hbody hgw hdst hne, hverdict⟩)
  | @ipForwarded p snd dstZone _ loc hsender hbody hgw hdst hne hverdict hloc =>
    rcases List.mem_append.mp hm with hm | hm
    · split at hm
      · exact .inr (.inr ⟨p, snd, dstZone, loc, crossing_of_ne hsender hbody hgw hdst hne,
          by simp [hverdict], hloc, hm⟩)
      · cases hm
    · exact absurd hm flowMod_notMem_forwardSent
  | ipQueued => exact absurd hm flowMod_notMem_queueSent

/-- No other event sends rules: a timer sends probes, or errors. -/
theorem Stepped.packetIn_of_flowMod {e : Event} {s' : ZoneRouter} {log : List Sent}
    (hstep : Stepped D s e s' log) {dpid : ℕ} {mod : FlowMod}
    (hm : ⟨dpid, .flowMod mod⟩ ∈ log) : ∃ ev, e = .packetIn ev ∧ Handled D s ev s' log := by
  cases hstep with
  | packetIn hhandled => exact ⟨_, rfl, hhandled⟩
  | connectionUp | cancelled | connExpire => cases hm
  | probed =>
    obtain ⟨-, port, -, h⟩ := mem_probeSent.mp hm
    simp at h
  | gaveUp =>
    obtain ⟨q, -, hm⟩ := List.mem_flatMap.mp hm
    obtain ⟨-, zone, -, h⟩ := mem_errorSent.mp hm
    simp at h

/-! ## The calls of a run -/

/-- The calls an event makes on the connection table. -/
def callsBy (D : Deployment) (s : ZoneRouter) : Event → List (Call ℚ)
  | .packetIn ev => ((crossing D ev).map fun r => .check ev.now
      (s.policyAllowed D r.2.1.zone r.2.2 r.1.isIcmp ev.firewall) r.1.tracked).toList
  | .connExpire now => [.expire now]
  | _ => []

/-- The calls of a run of the controller. -/
def callsOf (D : Deployment) (fwClient : Bool) (es : List Event) : List (Call ℚ) :=
  Run.observed (step D) (callsBy D) (.init fwClient) es

/-- An event does to the table what its calls do. -/
theorem conns_step (h : RouterOk D s) (e : Event) :
    (step D s e).1.conns = Run.final ConnectionTable.call s.conns (callsBy D s e) := by
  have hstep := step_stepped h e
  generalize (step D s e).1 = s', (step D s e).2 = log at hstep
  cases hstep with
  | connectionUp | cancelled | probed | gaveUp | connExpire => rfl
  | @packetIn ev _ _ hhandled =>
    rw [hhandled.conns]
    cases hcross : crossing D ev with
    | none => simp [callsBy, hcross]
    | some r => simp [callsBy, hcross, ConnectionTable.call]

/-- **The controller's connection table is that of its calls.** -/
theorem conns_stateAfter (fwClient : Bool) (es : List Event) :
    (stateAfter D fwClient es).conns = tableAfter idleTimeout (callsOf D fwClient es) :=
  Run.view_final ZoneRouter.conns (routerOk_init fwClient) (fun _ e h => h.step e)
    (fun _ e h => conns_step h e) es

/-! ## Times -/

/-- When an event happens, if the clock is read. -/
def Event.time? : Event → Option ℚ
  | .packetIn ev => some ev.now
  | .connExpire now => some now
  | _ => none

/-- The events of a run happen at non-decreasing times. -/
def TimedEvents (es : List Event) : Prop := (es.filterMap Event.time?).Pairwise (· ≤ ·)

instance (es : List Event) : Decidable (TimedEvents es) :=
  inferInstanceAs (Decidable (List.Pairwise _ _))

/-- A run goes on at a later time. -/
theorem TimedEvents.snoc {es : List Event} {e : Event} {t now : ℚ} (h : TimedEvents es)
    (hbefore : ∀ u ∈ es.filterMap Event.time?, u ≤ t) (hnow : t ≤ now)
    (he : e.time? = some now) : TimedEvents (es ++ [e]) ∧
      ∀ u ∈ (es ++ [e]).filterMap Event.time?, u ≤ now := by
  have hle : ∀ u ∈ es.filterMap Event.time?, u ≤ now := fun u hu => (hbefore u hu).trans hnow
  have htimes : (es ++ [e]).filterMap Event.time? = es.filterMap Event.time? ++ [now] := by
    simp [he]
  rw [TimedEvents, htimes, List.pairwise_append]
  refine ⟨⟨h, List.pairwise_singleton .., fun u hu v hv => ?_⟩, fun u hu => ?_⟩
  · exact List.mem_singleton.mp hv ▸ hle u hu
  · rcases List.mem_append.mp hu with hu | hu
    · exact hle u hu
    · exact (List.mem_singleton.mp hu).le

theorem times_callsBy_sublist (s : ZoneRouter) (e : Event) :
    ((callsBy D s e).map Call.time).Sublist e.time?.toList := by
  cases e with
  | packetIn ev => cases hcross : crossing D ev <;> simp [callsBy, hcross, Call.time, Event.time?]
  | connExpire now => simp [callsBy, Call.time, Event.time?]
  | _ => exact List.nil_sublist _

theorem timed_callsOf {fwClient : Bool} {es : List Event} (h : TimedEvents es) :
    Call.Timed (callsOf D fwClient es) :=
  h.sublist (Run.map_observed_sublist times_callsBy_sublist _ es)

theorem before_callsOf {fwClient : Bool} {es : List Event} {t : ℚ}
    (hnow : ∀ u ∈ es.filterMap Event.time?, u ≤ t) (f : Flow) :
    (Call.signals f).Before (callsOf D fwClient es) t := fun c hc =>
  hnow c.time ((Run.map_observed_sublist times_callsBy_sublist _ es).subset
    (List.mem_map_of_mem hc))

/-- **A connection of the controller's table is alive exactly when a chain of calls keeps it
alive.** -/
theorem alive_stateAfter_iff {fwClient : Bool} {es : List Event} {now : ℚ} (h : TimedEvents es)
    (hnow : ∀ u ∈ es.filterMap Event.time?, u ≤ now) (f : Flow) :
    (stateAfter D fwClient es).conns.alive now f.reversed = true ↔
      ∃ c, (Call.signals f).Chain idleTimeout (callsOf D fwClient es) now c := by
  rw [conns_stateAfter, alive_tableAfter idleTimeout f (timed_callsOf h) (before_callsOf hnow f)]
  exact Signals.alive_iff_chain ((Call.timed_iff f _).mp (timed_callsOf h)) now

end ZoneSegmentation
