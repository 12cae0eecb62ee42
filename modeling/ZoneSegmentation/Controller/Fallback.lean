import ZoneSegmentation.Controller.FastPath

/-!
# Losing the daemon

The controller asks the C++ daemon about every IP packet between zones, and falls back to the rules
in Python whenever a call raises. The two are asked different questions: Python for the zones of the
port and of the destination, the daemon for two addresses and a protocol that is 0 unless the packet
is ICMP. The anti-spoofing check comes first, so the answers agree, and a run with any mixture of
answers and failures is the run without a daemon.

## Main definitions

* `IpOutcome`, `decideIp`: what `_handle_ip` decides, as a value
* `ipOutcomes`: what it decides at each packet of a run
* `ZoneRouter.withoutClient`: the tables, without the client of the daemon

## Main results

* `handleIp_eq_decideIp`: `decideIp` is `_handle_ip`
* `blind_handle`: no handler's work depends on the client, if the daemon is honest
* `verdict_without_client`: a controller without a client only asks the rules
* `losing_daemon_changes_nothing`: the outcomes, the connection table and the messages of a run
-/

namespace ZoneSegmentation

open Proc

variable (D : Deployment)

/-! ## What `_handle_ip` decides -/

/-- What `_handle_ip` decides about a packet. -/
inductive IpOutcome where
  /-- The port belongs to no zone. -/
  | noZone
  | spoofed
  /-- The packet is addressed to a gateway. -/
  | gateway
  | unknownZone
  | sameZone
  /-- The verdict of the connection table: a new connection, a reply, or a drop. -/
  | verdict (v : Option Verdict)
  deriving DecidableEq

/-- `_handle_ip`, with what it decides as its value. -/
def decideIp (ev : PacketIn) (ip : Ipv4) : Handler IpOutcome := do
  match zoneOfPort D.maps ev.dpid ev.port with
  | none => return .noZone
  | some srcZone =>
    if !sourceIpValidForZone D.policy (.v4 ip.srcip) srcZone then return .spoofed
    else
      learn D ev.dpid ev.port ip.srcip ev.packet.src srcZone
      if isGateway D ip.dstip then return .gateway
      else
        match zoneForIp D.policy (.v4 ip.dstip) with
        | none => return .unknownZone
        | some dstZone =>
          if dstZone = srcZone then
            l2Forward D ev ev.packet.dst
            return .sameZone
          else
            let policyAllowed ← askFirewall D srcZone dstZone ip.isIcmp ev.firewall
            let v ← checkConns ev.now policyAllowed ip.tracked
            match v with
            | none => installDropFlow ev
            | some _ => route D ev ip dstZone
            return .verdict v

/-- The packet of a packet-in that `_handle_PacketIn` gives to `_handle_ip`. -/
def ipHandled (ev : PacketIn) : Option Ipv4 :=
  if ev.packet.parsed = true ∧ isLeafUplink D.maps ev.dpid ev.port = false then
    match ev.packet.body with
    | .ip p => some p
    | _ => none
  else none

/-- What `_handle_ip` decides at an event. -/
def ipOutcomes (s : ZoneRouter) : Event → List (Except Fault IpOutcome)
  | .packetIn ev => ((ipHandled D ev).map fun p => ((decideIp D ev p).run s).result).toList
  | _ => []

/-- What `_handle_ip` decides at the packets of a run. -/
def outcomesOf (fwClient : Bool) (es : List Event) : List (Except Fault IpOutcome) :=
  Run.observed (step D) (ipOutcomes D) (.init fwClient) es

/-- The tables of a controller without a client of the daemon. -/
def ZoneRouter.withoutClient (s : ZoneRouter) : ZoneRouter :=
  { s with fwClient := false, fwFallbackWarned := false }

variable {D} {s : ZoneRouter}

/-- **`decideIp` is `_handle_ip`**, with its decision as the value. -/
theorem handleIp_eq_decideIp (ev : PacketIn) (ip : Ipv4) :
    handleIp D ev ip = (do let _ ← decideIp D ev ip) := by
  unfold handleIp decideIp
  cases zoneOfPort D.maps ev.dpid ev.port with
  | none => rfl
  | some srcZone =>
    simp only
    split
    · rfl
    · rw [bind_assoc]
      apply congrArg
      funext _
      split
      · rfl
      · cases zoneForIp D.policy (.v4 ip.dstip) with
        | none => rfl
        | some dstZone =>
          simp only
          split
          · simp
          · simp only [bind_assoc]
            -- both ask the policy and check the table; only what they return differs
            apply congrArg
            funext policyAllowed
            apply congrArg
            funext v
            cases v <;> simp

theorem ipHandled_eq_some {ev : PacketIn} {p : Ipv4} (h : ipHandled D ev = some p) :
    ev.packet.body = .ip p := by
  unfold ipHandled at h
  split at h
  · cases hbody : ev.packet.body with
    | ip p' =>
      simp only [hbody, Option.some.injEq] at h
      rw [h]
    | lldp | arp | other => simp [hbody] at h
  · cases h

/-! ## Handlers do not look at the client -/

/-- A method whose work does not depend on the client of the daemon. -/
abbrev ClientBlind {α : Type} (m : Handler α) : Prop := Blind ZoneRouter.withoutClient m

theorem blind_send (dpid : ℕ) (message : Message) : ClientBlind (send dpid message) :=
  .emit _

theorem blind_zoneEntry (zone : String) : ClientBlind (zoneEntry D zone) := .ofOption _ _

theorem blind_modifyEntry (ip : IPAddr) (f : PendingEntry → PendingEntry) :
    ClientBlind (modifyEntry ip f) := by
  apply Blind.modify
  intro s
  simp only [ZoneRouter.withoutClient]
  cases s.pending.get? ip <;> rfl

theorem blind_startTimer (ip : IPAddr) : ClientBlind (startTimer ip) := by
  -- the timer it returns is read before the write
  constructor
  intro s
  rfl

theorem blind_learn (dpid port : ℕ) (ip : IPAddr) (mac : EthAddr) (zone : String) :
    ClientBlind (learn D dpid port ip mac zone) := by
  unfold learn
  refine .bind (.modify fun _ => rfl) fun _ => ?_
  cases corePortFor D.maps dpid port with
  | none => exact .pure _
  | some corePort => exact .modify fun _ => rfl

theorem blind_floodInZone (ev : PacketIn) : ClientBlind (floodInZone D ev) := by
  unfold floodInZone
  split
  · apply Blind.forM
    intro port
    split
    · exact .pure _
    · exact blind_send ..
  · exact blind_send ..

theorem blind_l2Forward (ev : PacketIn) (dstMac : EthAddr) :
    ClientBlind (l2Forward D ev dstMac) := by
  refine Blind.get_bind (fun _ => rfl) fun s => ?_
  cases s.macPort ev.dpid dstMac with
  | none => exact blind_floodInZone ev
  | some outPort => exact blind_send ..

theorem blind_handleTransit (ev : PacketIn) : ClientBlind (handleTransit D ev) := by
  unfold handleTransit
  refine .bind (.modify fun _ => rfl) fun _ => ?_
  split
  · exact blind_floodInZone ev
  · exact blind_l2Forward ev _

theorem blind_sendIcmpError (packet : Frame) (ip : Ipv4) (dpid port type code : ℕ) :
    ClientBlind (sendIcmpError D packet ip dpid port type code) := by
  refine Blind.get_bind (fun _ => rfl) fun s => ?_
  split
  · cases zoneOfPort D.maps dpid port with
    | none => exact .pure _
    | some zone =>
      refine (blind_zoneEntry zone).bind fun gw => ?_
      refine (Blind.ofOption ..).bind fun srcip => ?_
      exact blind_send ..
  · exact .pure _

theorem blind_forwardIp (dpid port : ℕ) (dstZone : String) (packet : Frame) (ip : Ipv4)
    (outPort : ℕ) (dstMac : EthAddr) :
    ClientBlind (forwardIp D dpid port dstZone packet ip outPort dstMac) := by
  unfold forwardIp
  split
  · exact blind_sendIcmpError ..
  · refine Blind.get_bind (fun _ => rfl) fun s => ?_
    split
    · refine (blind_zoneEntry dstZone).bind fun gw => ?_
      exact blind_send ..
    · exact .pure _

theorem blind_installRouteFlows (ev : PacketIn) (dstZone : String) (outPort : ℕ)
    (dstMac : EthAddr) : ClientBlind (installRouteFlows D ev dstZone outPort dstMac) := by
  refine Blind.get_bind (fun _ => rfl) fun s => ?_
  split
  · have hcore : ClientBlind (installCoreFlow D ev dstZone outPort dstMac) := by
      refine (blind_zoneEntry dstZone).bind fun gw => ?_
      exact blind_send ..
    have hleaf : ClientBlind (installLeafFlow D ev) := by
      refine (Blind.ofOption ..).bind fun uplink => ?_
      exact blind_send ..
    refine hcore.bind fun _ => ?_
    split
    · exact .pure _
    · exact hleaf
  · exact .pure _

theorem blind_sendArpProbe (ip : IPAddr) (zone : String) :
    ClientBlind (sendArpProbe D ip zone) := by
  refine Blind.get_bind (fun _ => rfl) fun s => ?_
  split
  · refine (blind_zoneEntry zone).bind fun gw => ?_
    refine (Blind.ofOption ..).bind fun protosrc => ?_
    apply Blind.forM
    intro port
    exact blind_send ..
  · exact .pure _

theorem blind_queueAndResolve (dpid port : ℕ) (packet : Frame) (ip : Ipv4) (dstZone : String) :
    ClientBlind (queueAndResolve D dpid port packet ip dstZone) := by
  have hopen : ClientBlind (openEntry D ip.dstip dstZone) := by
    unfold openEntry
    refine .bind (.modify fun _ => rfl) fun _ => ?_
    refine (blind_sendArpProbe ip.dstip dstZone).bind fun _ => ?_
    refine (blind_startTimer ip.dstip).bind fun timer => ?_
    exact blind_modifyEntry ..
  refine Blind.get_bind (fun _ => rfl) fun s => ?_
  split
  · exact hopen.bind fun _ => blind_modifyEntry ..
  · exact blind_modifyEntry ..

theorem blind_cancelTimer (timer : ℕ) : ClientBlind (cancelTimer timer) := .modify fun _ => rfl

theorem blind_retryArp (ip : IPAddr) : ClientBlind (retryArp D ip) := by
  refine Blind.get_bind (fun _ => rfl) fun s => ?_
  cases s.pending.get? ip with
  | none => exact .pure _
  | some entry =>
    simp only
    split
    · refine (Blind.ofOption ..).bind fun timer => ?_
      refine (blind_cancelTimer timer).bind fun _ => ?_
      refine .bind (.modify fun _ => rfl) fun _ => ?_
      exact .forM (fun q => blind_sendIcmpError ..) _
    · exact (blind_sendArpProbe ip entry.zone).bind fun _ => blind_modifyEntry ..

theorem blind_resolvePending (ip : IPAddr) (mac : EthAddr) :
    ClientBlind (resolvePending D ip mac) := by
  refine Blind.get_bind (fun _ => rfl) fun s => ?_
  cases s.pending.get? ip with
  | none => exact .pure _
  | some entry =>
    refine .bind (.modify fun _ => rfl) fun _ => ?_
    have htimer : ClientBlind (entry.timer.elim (pure ()) cancelTimer) := by
      cases entry.timer with
      | none => exact .pure _
      | some timer => exact blind_cancelTimer timer
    refine htimer.bind fun _ => ?_
    refine Blind.get_bind (fun _ => rfl) fun s => ?_
    refine (Blind.ofOption ..).bind fun loc => ?_
    exact .forM (fun q => blind_forwardIp ..) _

theorem blind_route (ev : PacketIn) (ip : Ipv4) (dstZone : String) :
    ClientBlind (route D ev ip dstZone) := by
  refine Blind.get_bind (fun _ => rfl) fun s => ?_
  cases s.ipToLoc.get? ip.dstip with
  | none => exact blind_queueAndResolve ..
  | some loc =>
    simp only
    split
    · exact (blind_installRouteFlows ..).bind fun _ => blind_forwardIp ..
    · exact blind_forwardIp ..

theorem blind_checkConns (now : ℚ) (policyAllowed : Bool) (packet : Option TrackedPacket) :
    ClientBlind (checkConns now policyAllowed packet) := by
  constructor
  intro s
  rfl

theorem blind_handleArp (ev : PacketIn) (a : Arp) : ClientBlind (handleArp D ev a) := by
  unfold handleArp
  cases zoneOfPort D.maps ev.dpid ev.port with
  | none => exact .pure _
  | some srcZone =>
    simp only
    split
    · exact .pure _
    · split
      · refine (blind_learn ..).bind fun _ => ?_
        refine (blind_zoneEntry srcZone).bind fun gw => ?_
        exact blind_send ..
      · split
        · exact (blind_learn ..).bind fun _ => blind_resolvePending ..
        · exact (blind_learn ..).bind fun _ => blind_floodInZone ev

/-! ## Asking the daemon -/

/-- An answer that is that of the rules might as well not be asked for. -/
theorem blind_askFirewall {srcZone dstZone : String} {isIcmp : Bool}
    {answer : Option (Bool × BitVec 8)} (hanswer : ∀ a ∈ answer,
      a.1 = firewallAllowed D.policy (some srcZone) (some dstZone) isIcmp) :
    ClientBlind (askFirewall D srcZone dstZone isIcmp answer) := by
  constructor
  intro s
  have hallowed : s.policyAllowed D srcZone dstZone isIcmp answer =
      firewallAllowed D.policy (some srcZone) (some dstZone) isIcmp := by
    unfold ZoneRouter.policyAllowed
    split
    · split
      · rename_i allowed rule
        exact hanswer (allowed, rule) rfl
      · rfl
    · rfl
  rw [run_askFirewall, run_askFirewall, hallowed]
  rfl

/-- The anti-spoofing check makes the zone that Python uses that of the claimed address, which is
all that the daemon sees. -/
theorem blind_decideIp {ev : PacketIn} {p : Ipv4} (hbody : ev.packet.body = .ip p)
    (hhonest : ev.Honest D.policy) : ClientBlind (decideIp D ev p) := by
  unfold decideIp
  cases zoneOfPort D.maps ev.dpid ev.port with
  | none => exact .pure _
  | some srcZone =>
    simp only
    split
    · exact .pure _
    · rename_i hvalid
      rw [Bool.not_eq_true', Bool.not_eq_false] at hvalid
      obtain ⟨hsrc, -⟩ := sourceIpValidForZone_iff.mp hvalid
      refine (blind_learn ..).bind fun _ => ?_
      split
      · exact .pure _
      · cases hdst : zoneForIp D.policy (.v4 p.dstip) with
        | none => exact .pure _
        | some dstZone =>
          simp only
          split
          · exact (blind_l2Forward ev _).bind fun _ => .pure _
          · have hanswer : ∀ a ∈ ev.firewall,
                a.1 = firewallAllowed D.policy (some srcZone) (some dstZone) p.isIcmp := by
              intro a ha
              rw [hhonest p hbody a ha, header_allowed, hsrc, hdst]
            refine (blind_askFirewall hanswer).bind fun policyAllowed => ?_
            refine (blind_checkConns ..).bind fun v => ?_
            cases v with
            | none => exact Blind.bind (blind_send ..) fun _ => .pure _
            | some v => exact (blind_route ..).bind fun _ => .pure _

theorem blind_handlePacketIn {ev : PacketIn} (hhonest : ev.Honest D.policy) :
    ClientBlind (handlePacketIn D ev) := by
  unfold handlePacketIn
  split
  · exact .pure _
  · split
    · exact .pure _
    · split
      · exact blind_handleTransit ev
      · cases hbody : ev.packet.body with
        | arp a => exact blind_handleArp ev a
        | ip p =>
          simp only [handleIp_eq_decideIp]
          exact (blind_decideIp hbody hhonest).bind fun _ => .pure _
        | lldp | other => exact blind_floodInZone ev

/-- **No handler's work depends on the client**, if the answers it gets are those of the rules. -/
theorem blind_handle {e : Event} (hhonest : ∀ ev, e = .packetIn ev → ev.Honest D.policy) :
    ClientBlind (handle D e) := by
  cases e with
  | connectionUp dpid => exact .modify fun _ => rfl
  | packetIn ev => exact blind_handlePacketIn (hhonest ev rfl)
  | connExpire now => exact .modify fun _ => rfl
  | retryTick timer =>
    refine Blind.get_bind (fun _ => rfl) fun s => ?_
    cases s.timers.get? timer with
    | none => exact .pure _
    | some ip => exact blind_retryArp ip

/-! ## Runs -/

theorem step_withoutClient {e : Event} (hhonest : ∀ ev, e = .packetIn ev → ev.Honest D.policy)
    (s : ZoneRouter) :
    step D s.withoutClient e = ((step D s e).1.withoutClient, (step D s e).2) := by
  unfold step
  rw [(blind_handle hhonest).run_eq s]

theorem ipOutcomes_withoutClient {e : Event}
    (hhonest : ∀ ev, e = .packetIn ev → ev.Honest D.policy) (s : ZoneRouter) :
    ipOutcomes D s.withoutClient e = ipOutcomes D s e := by
  cases e with
  | connectionUp | retryTick | connExpire => rfl
  | packetIn ev =>
    change ((ipHandled D ev).map fun p => ((decideIp D ev p).run s.withoutClient).result).toList =
      ((ipHandled D ev).map fun p => ((decideIp D ev p).run s).result).toList
    cases hp : ipHandled D ev with
    | none => rfl
    | some p =>
      have hblind := blind_decideIp (ipHandled_eq_some hp) (hhonest ev rfl)
      simp only [Option.map_some, hblind.run_eq s]

theorem fwClient_step (h : RouterOk D s) (e : Event) :
    (step D s e).1.fwClient = s.fwClient := by
  have hstep := step_stepped h e
  generalize (step D s e).1 = s', (step D s e).2 = log at hstep
  cases hstep with
  | connectionUp | cancelled | probed | gaveUp | connExpire => rfl
  | packetIn hhandled =>
    cases hhandled with
    | ipQueued =>
      unfold ZoneRouter.enqueued
      split <;> rfl
    | _ => rfl

/-- **A controller without a client only asks the rules**: in every run, it asks its connection
table about a packet with what `firewall_allowed` says of the two zones. -/
theorem verdict_without_client (es : List Event) (ev : PacketIn) (p : Ipv4)
    (srcZone dstZone : String) :
    (stateAfter D false es).verdict D ev p srcZone dstZone =
      ((stateAfter D false es).conns.check ev.now
        (firewallAllowed D.policy (some srcZone) (some dstZone) p.isIcmp) p.tracked).1 := by
  have hclient : RouterOk D (stateAfter D false es) ∧ (stateAfter D false es).fwClient = false :=
    Run.invariant (I := fun s => RouterOk D s ∧ s.fwClient = false) ⟨routerOk_init false, rfl⟩
      (fun s e h => ⟨h.1.step e, (fwClient_step h.1 e).trans h.2⟩) es
  simp [ZoneRouter.verdict, ZoneRouter.policyAllowed, hclient.2]

/-- **Losing the daemon never changes a decision.** Let the daemon be built for the policy, and
each call of a run return its answer or raise, in any pattern. What `_handle_ip` decides about the
packets of the run, the connection table that results, and all messages are those of the run of a
controller without a client, which only asks the rules (`verdict_without_client`). -/
theorem losing_daemon_changes_nothing (D : Deployment) {t : Tables} (ht : BuiltFor D.policy t)
    (es : List Event) (hanswers : ∀ ev, .packetIn ev ∈ es → AnsweredBy t ev) :
    outcomesOf D true es = outcomesOf D false es ∧
    (stateAfter D true es).conns = (stateAfter D false es).conns ∧
    Run.trace (step D) (.init true) es = Run.trace (step D) (.init false) es := by
  have hhonest : ∀ e ∈ es, ∀ ev, e = .packetIn ev → ev.Honest D.policy := by
    rintro _ he ev rfl
    exact honest_of_builtFor ht (hanswers ev he)
  have hinit : ZoneRouter.init false = (ZoneRouter.init true).withoutClient := rfl
  have hstep : ∀ s, ∀ e ∈ es, step D s.withoutClient e =
      ((step D s e).1.withoutClient, (step D s e).2) := fun s e he =>
    step_withoutClient (hhonest e he) s
  obtain ⟨hfinal, htrace⟩ := Run.final_map (s := .init true) hstep
  refine ⟨?_, ?_, ?_⟩
  · rw [outcomesOf, outcomesOf, hinit]
    exact (Run.observed_map hstep fun s e he => ipOutcomes_withoutClient (hhonest e he) s).symm
  · rw [stateAfter, stateAfter, hinit, hfinal]
    rfl
  · rw [hinit, htrace]

/-- A department host calls the server, and the server answers and then calls back. -/
def serverCalls (first second third : Option (Bool × BitVec 8)) : List Event :=
  [6, 1, 2, 3, 4, 5].map .connectionUp ++ [
    .packetIn { h101.frameIn 0x020000000001 (.ip (h101.tcp 1 hServer.ip 4000 80)) 0 with
      firewall := first },
    .packetIn { hServer.frameIn 0x020000000005 (.ip (hServer.tcp 2 h101.ip 80 4000)) 1 with
      firewall := second },
    .packetIn { hUntrust.frameIn 0x020000000003 (.ip (hUntrust.tcp 3 hServer.ip 9000 80)) 2 with
      firewall := third }]

/-- The daemon answers the first call, is lost during the second, and answers the third. -/
theorem losing_daemon_changes_nothing_server :
    let es := serverCalls (daemonReply policyTables (h101.tcp 1 hServer.ip 4000 80)) none
      (daemonReply policyTables (hUntrust.tcp 3 hServer.ip 9000 80))
    outcomesOf deployment true es = outcomesOf deployment false es ∧
    (stateAfter deployment true es).conns = (stateAfter deployment false es).conns ∧
    Run.trace (step deployment) (.init true) es = Run.trace (step deployment) (.init false) es := by
  intro es
  apply losing_daemon_changes_nothing deployment builtFor_policyTables es
  intro ev hev p hp
  simp only [es, serverCalls, List.mem_append, List.mem_map, List.mem_cons, List.not_mem_nil,
    or_false, reduceCtorEq, and_false, exists_false, false_or, Event.packetIn.injEq] at hev
  rcases hev with rfl | rfl | rfl
  · obtain rfl := Body.ip.inj hp
    exact .inr rfl
  · exact .inl rfl
  · obtain rfl := Body.ip.inj hp
    exact .inr rfl

end ZoneSegmentation
