import ZoneSegmentation.Controller.Routing

/-!
# Waiting for a known destination

The router learns a location from every packet whose source is valid, but releases the packets
that wait for it only when the location comes with an answer to a probe. So packets can wait for a
destination that is known, and exactly when a host that is waited for says something else first.

## Main definitions

* `Disjoint`: no address is both known and waited for
* `NoneWaitsKnown`: what a step should guarantee about it
* `Answers`: the condition on an event under which it does

## Main results

* `none_waits_known_iff`: the guarantee holds along a run exactly when the condition does
* `none_waits_known_fails`: a run where it does not
-/

namespace ZoneSegmentation

/-- The packet that a message reports as unreachable. -/
def Message.unreachable? : Message → Option Ipv4
  | .packetOut frame _ =>
    match frame.content with
    | .icmpError e =>
      if e.type = icmpDestUnreach ∧ e.code = icmpCodeHostUnreach then some e.quoted else none
    | _ => none
  | _ => none

/-- No address is both known and waited for. -/
def Disjoint (s : ZoneRouter) : Prop :=
  ∀ ip, s.ipToLoc.get? ip = none ∨ s.pending.get? ip = none

/-- After an event no address is both known and waited for; no packet was reported as unreachable
whose destination is known, and none was forwarded while another one waits for the same
destination. -/
structure NoneWaitsKnown (s : ZoneRouter) (log : List Sent) : Prop where
  disjoint : Disjoint s
  unreachable : ∀ m ∈ log, ∀ p, m.message.unreachable? = some p → s.ipToLoc.get? p.dstip = none
  forwarded : ∀ m ∈ log, ∀ frame port p, m.message.routed? = some (frame, port, p) →
    s.pending.get? p.dstip = none

/-- A host that is waited for answers the probe: it sends an ARP reply to a gateway. -/
def Answers (D : Deployment) (s : ZoneRouter) : Event → Prop
  | .packetIn ev => ∀ snd, acceptedSender D ev = some snd → s.pending.get? snd.ip ≠ none →
      ∃ a, ev.packet.body = .arp a ∧ a.opcode = arpReply ∧ isGateway D a.protodst = true
  | _ => True

variable {D : Deployment} {s : ZoneRouter}

/-- Learning a location keeps the tables disjoint when nothing waits for it. -/
theorem Disjoint.learned (hd : Disjoint s) {ev : PacketIn} {snd : Sender}
    (hsender : acceptedSender D ev = some snd) (hpending : s.pending.get? snd.ip = none) :
    Disjoint (s.learned D ev.dpid ev.port snd) := by
  obtain ⟨p, hport, -⟩ := corePort_of_acceptedSender hsender
  intro ip
  rw [get?_learned hport]
  split
  · rename_i hip
    exact .inr (hip ▸ hpending)
  · exact hd ip

/-- The answer to a probe removes the entry that it makes obsolete. -/
theorem Disjoint.resolved (hd : Disjoint s) {ev : PacketIn} {snd : Sender}
    (hsender : acceptedSender D ev = some snd) (timer : ℕ) :
    Disjoint ((s.learned D ev.dpid ev.port snd).removed snd.ip timer) := by
  obtain ⟨p, hport, -⟩ := corePort_of_acceptedSender hsender
  intro ip
  change (s.learned D ev.dpid ev.port snd).ipToLoc.get? ip = none ∨
    (s.pending.erase snd.ip).get? ip = none
  rw [get?_learned hport, Dict.get?_erase]
  split
  · exact .inr rfl
  · exact hd ip

/-- A packet is only queued for an address that is not known. -/
theorem Disjoint.enqueued (hd : Disjoint s) {q : QueuedPacket} (zone : String)
    (hloc : s.ipToLoc.get? q.ip.dstip = none) : Disjoint (s.enqueued q zone) := by
  intro ip
  by_cases hip : ip = q.ip.dstip
  · subst hip
    left
    rw [ZoneRouter.ipToLoc_enqueued, hloc]
  · unfold ZoneRouter.enqueued
    split
    · simpa [Dict.get?_set, hip] using hd ip
    · simpa [Dict.get?_set, hip] using hd ip

/-- A packet-in under the condition keeps the tables disjoint. -/
theorem Disjoint.handled (hd : Disjoint s) {ev : PacketIn} (hanswers : Answers D s (.packetIn ev))
    {s' : ZoneRouter} {log : List Sent} (hstep : Handled D s ev s' log) : Disjoint s' := by
  have hnone : ∀ {snd}, acceptedSender D ev = some snd →
      (∀ a, ev.packet.body = .arp a → a.opcode = arpReply → isGateway D a.protodst = false) →
      s.pending.get? snd.ip = none := by
    intro snd hsender hbody
    by_contra hpending
    obtain ⟨a, harp, hop, hgw⟩ := hanswers snd hsender hpending
    simp [hbody a harp hop] at hgw
  cases hstep with
  | ignored | other => exact hd
  | transit => exact hd
  | arpRequest hsender hbody hop =>
    refine hd.learned hsender (hnone hsender fun a ha hrep => ?_)
    obtain rfl := Body.arp.inj (hbody.symm.trans ha)
    simp [hop, arpRequest, arpReply] at hrep
  | arpReply hsender _ _ _ hentry => exact hd.learned hsender hentry
  | arpResolve hsender => exact hd.resolved hsender _
  | arpOrdinary hsender hbody hop =>
    refine hd.learned hsender (hnone hsender fun a ha hrep => ?_)
    obtain rfl := Body.arp.inj (hbody.symm.trans ha)
    exact Bool.eq_false_iff.mpr fun hgw => hop ⟨.inr hrep, hgw⟩
  | ipUnrouted hsender hbody | ipSameZone hsender hbody =>
    exact hd.learned hsender (hnone hsender fun a ha => by simp [hbody] at ha)
  | ipBlocked hsender hbody | ipForwarded hsender hbody =>
    exact hd.learned hsender (hnone hsender fun a ha => by simp [hbody] at ha)
  | ipQueued hsender hbody _ _ _ _ hloc =>
    have hl := hd.learned hsender (hnone hsender fun a ha => by simp [hbody] at ha)
    exact Disjoint.enqueued (s := (s.learned D ev.dpid ev.port _).checked D ev _ _ _) hl _ hloc

/-! ## What is sent meanwhile -/

theorem unreachable?_of_built? {m : Message} (h : m.built? = none) : m.unreachable? = none := by
  cases m with
  | packetOut frame port => cases h
  | _ => rfl

theorem routed?_of_built? {m : Message} (h : m.built? = none) : m.routed? = none := by
  cases m with
  | packetOut frame port => cases h
  | _ => rfl

/-- Forwarding reports nothing as unreachable, and forwards the packet alone. -/
theorem forwarded_of_mem_forwardSent {q : QueuedPacket} {dstZone : String} {outPort : ℕ}
    {mac : EthAddr} {m : Sent} (hm : m ∈ forwardSent D s q dstZone outPort mac) :
    m.message.unreachable? = none ∧ ∀ frame port p, m.message.routed? = some (frame, port, p) →
      p.dstip = q.ip.dstip := by
  rcases mem_forwardSent.mp hm with ⟨-, hm⟩ | ⟨-, -, rfl⟩
  · obtain ⟨-, zone, -, rfl⟩ := mem_errorSent.mp hm
    simp [Message.unreachable?, Message.routed?, errorFrame, icmpTimeExceeded, icmpDestUnreach]
  · refine ⟨rfl, fun frame port p hrouted => ?_⟩
    obtain ⟨-, -, rfl⟩ : routedFrame D q dstZone mac = frame ∧ outPort = port ∧
        { q.ip with ttl := q.ip.ttl - 1 } = p := by
      simpa [Message.routed?, routedFrame] using hrouted
    rfl

theorem unreachable?_of_handled {ev : PacketIn} {s' : ZoneRouter} {log : List Sent}
    (hstep : Handled D s ev s' log) : ∀ m ∈ log, m.message.unreachable? = none := by
  have hbuilt : ∀ {log : List Sent}, (∀ m ∈ log, m.message.built? = none) →
      ∀ m ∈ log, m.message.unreachable? = none := fun h m hm => unreachable?_of_built? (h m hm)
  cases hstep with
  | ignored | arpReply | ipUnrouted => simp
  | transit =>
    split
    · exact hbuilt built?_of_mem_floodSent
    · exact hbuilt built?_of_mem_l2Sent
  | other | arpOrdinary => exact hbuilt built?_of_mem_floodSent
  | ipSameZone => exact hbuilt built?_of_mem_l2Sent
  | arpRequest => simp [replySent, Message.unreachable?]
  | ipBlocked => simp [Message.unreachable?]
  | arpResolve =>
    intro m hm
    obtain ⟨q, -, hm⟩ := List.mem_flatMap.mp hm
    exact (forwarded_of_mem_forwardSent hm).1
  | ipForwarded =>
    intro m hm
    rcases List.mem_append.mp hm with hm | hm
    · split at hm
      · exact unreachable?_of_built? (built?_of_mem_routeFlowsSent m hm)
      · cases hm
    · exact (forwarded_of_mem_forwardSent hm).1
  | ipQueued =>
    intro m hm
    obtain ⟨-, hm⟩ := mem_queueSent.mp hm
    obtain ⟨-, port, -, rfl⟩ := mem_probeSent.mp hm
    rfl

theorem pending_of_routed_handled (h : RouterOk D s) {ev : PacketIn} {s' : ZoneRouter}
    {log : List Sent} (hstep : Handled D s ev s' log) (hd : Disjoint s') :
    ∀ m ∈ log, ∀ frame port p, m.message.routed? = some (frame, port, p) →
      s'.pending.get? p.dstip = none := by
  have hbuilt : ∀ {s' : ZoneRouter} {log : List Sent}, (∀ m ∈ log, m.message.built? = none) →
      ∀ m ∈ log, ∀ frame port p, m.message.routed? = some (frame, port, p) →
        s'.pending.get? p.dstip = none := fun h m hm frame port p hrouted => by
    simp [routed?_of_built? (h m hm)] at hrouted
  cases hstep with
  | ignored | arpReply | ipUnrouted => simp
  | transit =>
    split
    · exact hbuilt built?_of_mem_floodSent
    · exact hbuilt built?_of_mem_l2Sent
  | other | arpOrdinary => exact hbuilt built?_of_mem_floodSent
  | ipSameZone => exact hbuilt built?_of_mem_l2Sent
  | arpRequest => simp [replySent, Message.routed?]
  | ipBlocked => simp [Message.routed?]
  | @arpResolve a snd entry timer corePort _ _ _ _ hentry =>
    intro m hm frame port p hrouted
    obtain ⟨q, hq, hm⟩ := List.mem_flatMap.mp hm
    rw [(forwarded_of_mem_forwardSent hm).2 frame port p hrouted,
      ((h.entry _ _ hentry).queue q hq).dstip]
    exact Dict.get?_erase_self ..
  | @ipForwarded p _ _ _ loc _ _ _ _ _ _ hloc =>
    intro m hm frame port p' hrouted
    rcases List.mem_append.mp hm with hm | hm
    · split at hm
      · simp [routed?_of_built? (built?_of_mem_routeFlowsSent m hm)] at hrouted
      · cases hm
    · rw [(forwarded_of_mem_forwardSent hm).2 frame port p' hrouted]
      rcases hd p.dstip with hnone | hnone
      · exact absurd (hloc.symm.trans hnone) (by simp)
      · exact hnone
  | ipQueued =>
    intro m hm frame port p hrouted
    obtain ⟨-, hm⟩ := mem_queueSent.mp hm
    obtain ⟨-, port, -, rfl⟩ := mem_probeSent.mp hm
    simp [Message.routed?, probeFrame] at hrouted

/-- **A step under the condition** keeps the tables disjoint, and treats no packet as if its
destination were unknown. -/
theorem Disjoint.step (h : RouterOk D s) (hd : Disjoint s) {e : Event} (hanswers : Answers D s e) :
    NoneWaitsKnown (step D s e).1 (step D s e).2 := by
  have hstep := step_stepped h e
  generalize (ZoneSegmentation.step D s e).1 = s', (ZoneSegmentation.step D s e).2 = log at hstep
  cases hstep with
  | connectionUp | cancelled | connExpire => exact ⟨hd, by simp, by simp⟩
  | packetIn hhandled =>
    have hd' := hd.handled hanswers hhandled
    exact ⟨hd', fun m hm p hp => by simp [unreachable?_of_handled hhandled m hm] at hp,
      pending_of_routed_handled h hhandled hd'⟩
  | @probed timer ip entry _ hentry =>
    refine ⟨fun ip' => ?_, fun m hm p hp => ?_, fun m hm frame port p hp => ?_⟩
    · by_cases hip : ip' = ip
      · subst hip
        exact .inl ((hd ip').resolve_right (by simp [hentry]))
      · simpa [Dict.get?_set, hip] using hd ip'
    · obtain ⟨-, port, -, rfl⟩ := mem_probeSent.mp hm
      simp [Message.unreachable?, probeFrame] at hp
    · obtain ⟨-, port, -, rfl⟩ := mem_probeSent.mp hm
      simp [Message.routed?, probeFrame] at hp
  | @gaveUp timer ip entry _ hentry =>
    refine ⟨fun ip' => ?_, fun m hm p hp => ?_, fun m hm frame port p hp => ?_⟩
    · change s.ipToLoc.get? ip' = none ∨ (s.pending.erase ip).get? ip' = none
      rw [Dict.get?_erase]
      split
      · exact .inr rfl
      · exact hd ip'
    · obtain ⟨q, hq, hm⟩ := List.mem_flatMap.mp hm
      obtain ⟨-, zone, -, rfl⟩ := mem_errorSent.mp hm
      obtain rfl : q.ip = p := by simpa [Message.unreachable?, errorFrame] using hp
      rw [((h.entry _ _ hentry).queue q hq).dstip]
      exact (hd ip).resolve_right (by simp [hentry])
    · obtain ⟨q, hq, hm⟩ := List.mem_flatMap.mp hm
      obtain ⟨-, zone, -, rfl⟩ := mem_errorSent.mp hm
      simp [Message.routed?, errorFrame] at hp

/-! ## The condition is needed -/

/-- Queueing a packet ends no waiting. -/
theorem pending_enqueued_ne_none {ip : IPAddr} (h : s.pending.get? ip ≠ none) (q : QueuedPacket)
    (zone : String) : (s.enqueued q zone).pending.get? ip ≠ none := by
  unfold ZoneRouter.enqueued
  by_cases hip : ip = q.ip.dstip
  · subst hip
    split <;> simp
  · split <;> simpa [Dict.get?_set, hip] using h

/-- A packet-in that leaves the tables disjoint meets the condition: any other one from a host
that is waited for makes its location known, and leaves the entry. -/
theorem Handled.answers {ev : PacketIn} {s' : ZoneRouter} {log : List Sent}
    (hstep : Handled D s ev s' log) (hd : Disjoint s') : Answers D s (.packetIn ev) := by
  intro snd hsender hpending
  -- to learn the sender while it is waited for breaks the condition
  have hknown : ∀ {s₁ : ZoneRouter} {snd' : Sender}, acceptedSender D ev = some snd' →
      s₁.ipToLoc = (s.learned D ev.dpid ev.port snd').ipToLoc →
      s₁.pending.get? snd.ip ≠ none → ¬ Disjoint s₁ := by
    intro s₁ snd' hsender' hloc hwait hd
    obtain rfl := Option.some.inj (hsender.symm.trans hsender')
    obtain ⟨p, hport, -⟩ := corePort_of_acceptedSender hsender
    rcases hd snd.ip with hnone | hnone
    · rw [hloc, get?_learned hport, if_pos rfl] at hnone
      cases hnone
    · exact hwait hnone
  cases hstep with
  | ignored hnone => simp [hnone] at hsender
  | transit huplink => simp [acceptedSender, huplink] at hsender
  | other _ hclaim => simp [acceptedSender, hclaim] at hsender
  | arpRequest hsender' | arpOrdinary hsender' | ipUnrouted hsender' | ipSameZone hsender'
  | ipBlocked hsender' | ipForwarded hsender' =>
    exact absurd hd (hknown hsender' rfl hpending)
  | arpReply hsender' _ _ _ hentry =>
    obtain rfl := Option.some.inj (hsender.symm.trans hsender')
    exact absurd hentry hpending
  | arpResolve _ hbody hop hgw => exact ⟨_, hbody, hop, hgw⟩
  | @ipQueued p snd' dstZone _ hsender' =>
    refine absurd hd (hknown hsender' (ZoneRouter.ipToLoc_enqueued ..) ?_)
    exact pending_enqueued_ne_none (s := (s.learned D ev.dpid ev.port snd').checked D ev _ _ _)
      hpending _ _

theorem answers_of_noneWaitsKnown (h : RouterOk D s) {e : Event}
    (hd : NoneWaitsKnown (step D s e).1 (step D s e).2) : Answers D s e := by
  have hstep := step_stepped h e
  cases e with
  | packetIn ev =>
    cases hstep with
    | packetIn hhandled => exact hhandled.answers hd.disjoint
  | _ => trivial

/-! ## Runs -/

/-- **No packet waits for a known destination along a run exactly when every host that is waited
for answers the probe** before anything else is learned from it. -/
theorem none_waits_known_iff (D : Deployment) (fwClient : Bool) (es : List Event) :
    Run.Always (step D) (fun s e => NoneWaitsKnown (step D s e).1 (step D s e).2)
        (.init fwClient) es ↔
      Run.Always (step D) (Answers D) (.init fwClient) es := by
  constructor
  · intro h
    exact h.mono_of_invariant (I := RouterOk D) (routerOk_init fwClient)
      fun s e hs hd => ⟨hs.step e, answers_of_noneWaitsKnown hs hd⟩
  · intro h
    exact h.mono_of_invariant (I := fun s => RouterOk D s ∧ Disjoint s)
      ⟨routerOk_init fwClient, fun ip => .inl rfl⟩
      fun s e hs he => ⟨⟨hs.1.step e, (hs.2.step hs.1 he).disjoint⟩, hs.2.step hs.1 he⟩

/-- A run in which the server is asked for, and asks for its gateway before it answers: a packet
waits for it although it is known, a later one overtakes it, and then the server is reported as
unreachable. -/
def serverSpeaksFirst : List Event :=
  [6, 1, 2, 3, 4, 5].map .connectionUp ++ [
    h101.sends 0x020000000001 (.ip (h101.tcp 1 hServer.ip 4000 80)) 0,
    hServer.sends etherBroadcast
      (.arp ⟨arpRequest, hServer.mac, 0, hServer.ip, 0x0A010301⟩) 1,
    h101.sends 0x020000000001 (.ip (h101.tcp 2 hServer.ip 4001 80)) 2,
    .retryTick 0, .retryTick 0, .retryTick 0]

/-- Nothing of the guarantee holds along that run: the server is known while a packet waits for
it, a second packet is forwarded meanwhile, and the first one is reported as unreachable. -/
theorem none_waits_known_fails :
    let state := fun n => stateAfter deployment false (serverSpeaksFirst.take n)
    let log := fun n => Run.trace (step deployment) (.init false) (serverSpeaksFirst.take n)
    ((state 8).ipToLoc.get? hServer.ip ≠ none ∧ (state 8).pending.get? hServer.ip ≠ none) ∧
    ((log 9).any (fun m => (m.message.routed?.map fun r => r.2.2.uid) = some 2) ∧
      (state 9).pending.get? hServer.ip ≠ none) ∧
    ((log 12).any (fun m => (m.message.unreachable?.map Ipv4.uid) = some 1) ∧
      (state 12).ipToLoc.get? hServer.ip ≠ none) ∧
    ¬ Run.Always (step deployment)
      (fun s e => NoneWaitsKnown (step deployment s e).1 (step deployment s e).2)
      (.init false) serverSpeaksFirst := by
  intro state log
  have hboth : (state 8).ipToLoc.get? hServer.ip ≠ none ∧
      (state 8).pending.get? hServer.ip ≠ none := by decide +kernel
  refine ⟨hboth, by decide +kernel, by decide +kernel, fun h => ?_⟩
  have hstep := Run.always_iff.mp h (serverSpeaksFirst.take 7) _ (serverSpeaksFirst.drop 8) rfl
  rcases hstep.disjoint hServer.ip with hnone | hnone
  · exact hboth.1 hnone
  · exact hboth.2 hnone

end ZoneSegmentation
