import ZoneSegmentation.Controller.Tracking

/-!
# No packet is lost or duplicated

Every packet that reaches `_route` is accounted for: it waits, or exactly one message says what
became of it. And every attempt to resolve an address ends, after at most `ARP_MAX_RETRIES` rounds
of probes and ticks of its timer.

## Main definitions

* `passed`, `routedBy`, `givenBy`: the packets that reach `_route` and `_queue_and_resolve`
* `Fate`, `Message.fate?`: what a message says about a packet
* `waiting`: how often a packet waits
* `tickedBy`, `roundsBy`: the timers that tick, and those that cause a round of probes
* `AttemptsOk`: the ticks and the rounds of an attempt to resolve an address

## Main results

* `step_balance`, `run_balance`: every packet that is routed is accounted for
* `exists_roundsBy_of_probe`: every event that probes counts for an attempt
* `no_packet_lost_or_duplicated`: the fate of a packet that had to wait
-/

namespace ZoneSegmentation

/-! ## Packets that are routed -/

section

variable (D : Deployment) (s : ZoneRouter)

/-- The IP packet of a packet-in that gets to `_route`, with its sender and the zone of its
destination. -/
def passed (ev : PacketIn) : Option (Ipv4 × Sender × String) :=
  (crossing D ev).filter fun r => (s.verdict D ev r.1 r.2.1.zone r.2.2).isSome

/-- The packets an event gives to `_route`. -/
def routedBy : Event → List QueuedPacket
  | .packetIn ev => ((passed D s ev).map fun r => ev.queued r.1).toList
  | _ => []

/-- The packets an event gives to `_queue_and_resolve`: no location is known for them. -/
def givenBy : Event → List QueuedPacket
  | .packetIn ev => (((passed D s ev).filter fun r =>
      ((s.learned D ev.dpid ev.port r.2.1).ipToLoc.get? r.1.dstip).isNone).map
        fun r => ev.queued r.1).toList
  | _ => []

end

/-- The identity of the packet object that a packet-in carries. -/
def Event.uid? : Event → Option ℕ
  | .packetIn ev =>
    match ev.packet.body with
    | .ip p => some p.uid
    | _ => none
  | _ => none

/-! ## What becomes of them -/

/-- What becomes of a packet. -/
inductive Fate where
  | forwarded
  | timeExceeded
  | hostUnreachable
  deriving DecidableEq

/-- The packet a message is about, and what it says about it. -/
def Message.fate? : Message → Option (Fate × ℕ)
  | .packetOut frame _ =>
    match frame.content with
    | .ip p => some (.forwarded, p.uid)
    | .icmpError e =>
      if (e.type, e.code) = (icmpTimeExceeded, icmpCodeTtlExceeded) then
        some (.timeExceeded, e.quoted.uid)
      else if (e.type, e.code) = (icmpDestUnreach, icmpCodeHostUnreach) then
        some (.hostUnreachable, e.quoted.uid)
      else none
    | .arp _ => none
  | _ => none

/-- Whether a message says what became of a packet. -/
def Sent.about (u : ℕ) (m : Sent) : Bool := m.message.fate?.map Prod.snd = some u

/-- How often a fate of a packet is told. -/
def told (log : List Sent) (fate : Fate) (u : ℕ) : ℕ :=
  log.countP fun m => m.message.fate? = some (fate, u)

theorem countP_about (log : List Sent) (u : ℕ) : log.countP (Sent.about u) =
    told log .forwarded u + told log .timeExceeded u + told log .hostUnreachable u := by
  induction log with
  | nil => rfl
  | cons m log ih =>
    have hm : (if m.about u then 1 else 0) =
        (if m.message.fate? = some (Fate.forwarded, u) then 1 else 0) +
        (if m.message.fate? = some (Fate.timeExceeded, u) then 1 else 0) +
        (if m.message.fate? = some (Fate.hostUnreachable, u) then 1 else 0) := by
      unfold Sent.about
      rcases m.message.fate? with _ | ⟨fate, v⟩
      · simp
      · cases fate <;> simp
    simp only [told, List.countP_cons, decide_eq_true_eq] at ih ⊢
    omega

/-- How often a packet waits. -/
def waiting (s : ZoneRouter) (u : ℕ) : ℕ :=
  s.pending.total fun entry => entry.queue.countP fun q => q.ip.uid = u

/-- Every switch is connected. -/
structure Connected (D : Deployment) (s : ZoneRouter) : Prop where
  core : D.maps.coreDpid ∈ s.connections
  leaf : ∀ dpid ∈ D.maps.switchZone.keys, dpid ∈ s.connections

variable {D : Deployment} {s : ZoneRouter}

/-- The switch of a port that has a zone is connected. -/
theorem Connected.of_zoneOfPort (hc : Connected D s) {dpid port : ℕ} {zone : String}
    (h : zoneOfPort D.maps dpid port = some zone) : dpid ∈ s.connections := by
  by_cases hcore : dpid = D.maps.coreDpid
  · exact hcore ▸ hc.core
  · rw [zoneOfPort, if_neg hcore] at h
    exact hc.leaf dpid (Dict.mem_keys_iff.mpr ⟨_, Option.join_eq_some_iff.mp h⟩)

theorem Connected.step (hc : Connected D s) (h : RouterOk D s) (e : Event) :
    Connected D (step D s e).1 := by
  have hsub := (step_stepped h e).connections_subset
  exact ⟨hsub hc.core, fun dpid hd => hsub (hc.leaf dpid hd)⟩

/-! ## Counting messages -/

theorem countP_flatMap_of_forall {α β : Type} {l : List α} {f : α → List β} {p : β → Bool}
    {r : α → Bool} (h : ∀ a ∈ l, (f a).countP p = if r a then 1 else 0) :
    (l.flatMap f).countP p = l.countP r := by
  induction l with
  | nil => rfl
  | cons a l ih =>
    rw [List.flatMap_cons, List.countP_append, List.countP_cons, h a List.mem_cons_self,
      ih fun b hb => h b (List.mem_cons_of_mem a hb), add_comm]

theorem fate?_of_built? {m : Message} (h : m.built? = none) : m.fate? = none := by
  cases m with
  | packetOut frame port => cases h
  | _ => rfl

theorem countP_about_eq_zero {log : List Sent} (h : ∀ m ∈ log, m.message.fate? = none) (u : ℕ) :
    log.countP (Sent.about u) = 0 :=
  List.countP_eq_zero.mpr fun m hm => by simp [Sent.about, h m hm]

theorem countP_about_of_built? {log : List Sent} (h : ∀ m ∈ log, m.message.built? = none)
    (u : ℕ) : log.countP (Sent.about u) = 0 :=
  countP_about_eq_zero (fun m hm => fate?_of_built? (h m hm)) u

/-- Exactly one message reports an error about a packet. -/
theorem countP_about_errorSent (hc : Connected D s) {q : QueuedPacket} {zone : String}
    (hzone : zoneOfPort D.maps q.dpid q.port = some zone) {type code : ℕ}
    (hcode : (type, code) = (icmpTimeExceeded, icmpCodeTtlExceeded) ∨
      (type, code) = (icmpDestUnreach, icmpCodeHostUnreach)) (u : ℕ) :
    (errorSent D s q type code).countP (Sent.about u) = if q.ip.uid = u then 1 else 0 := by
  rw [errorSent, if_pos (hc.of_zoneOfPort hzone), hzone]
  rcases hcode with hcode | hcode <;>
  · obtain ⟨rfl, rfl⟩ := Prod.mk.inj hcode
    simp [Sent.about, Message.fate?, errorFrame, icmpTimeExceeded, icmpDestUnreach]

/-- Exactly one message forwards a packet, or says that its time is exceeded. -/
theorem countP_about_forwardSent (hc : Connected D s) {q : QueuedPacket} {zone : String}
    (hzone : zoneOfPort D.maps q.dpid q.port = some zone) (dstZone : String) (outPort : ℕ)
    (mac : EthAddr) (u : ℕ) :
    (forwardSent D s q dstZone outPort mac).countP (Sent.about u) =
      if q.ip.uid = u then 1 else 0 := by
  unfold forwardSent
  split
  · exact countP_about_errorSent hc hzone (.inl rfl) u
  · rw [if_pos hc.core]
    simp [Sent.about, Message.fate?, routedFrame]

theorem fate?_of_mem_probeSent {ip : IPAddr} {zone : String} :
    ∀ m ∈ probeSent D s ip zone, m.message.fate? = none := by
  intro m hm
  obtain ⟨-, port, -, rfl⟩ := mem_probeSent.mp hm
  rfl

/-! ## What a step does to the queues -/

/-- The address a message probes for. -/
def Message.probe? : Message → Option IPAddr
  | .packetOut frame _ =>
    match frame.content with
    | .arp a => if a.opcode = arpRequest then some a.protodst else none
    | _ => none
  | _ => none

theorem probe?_of_built? {m : Message} (h : m.built? = none) : m.probe? = none := by
  cases m with
  | packetOut frame port => cases h
  | _ => rfl

theorem probe?_of_mem_errorSent {q : QueuedPacket} {type code : ℕ} :
    ∀ m ∈ errorSent D s q type code, m.message.probe? = none := by
  intro m hm
  obtain ⟨-, zone, -, rfl⟩ := mem_errorSent.mp hm
  rfl

theorem probe?_of_mem_forwardSent {q : QueuedPacket} {dstZone : String} {outPort : ℕ}
    {mac : EthAddr} : ∀ m ∈ forwardSent D s q dstZone outPort mac, m.message.probe? = none := by
  intro m hm
  rcases mem_forwardSent.mp hm with ⟨-, hm⟩ | ⟨-, -, rfl⟩
  · exact probe?_of_mem_errorSent m hm
  · rfl

theorem probe?_of_mem_probeSent {ip : IPAddr} {zone : String} :
    ∀ m ∈ probeSent D s ip zone, m.message.probe? = some ip := by
  intro m hm
  obtain ⟨-, port, -, rfl⟩ := mem_probeSent.mp hm
  rfl

section

variable (D s)

/-- The timer that ticks at an event; one that was cancelled does not. -/
def tickedBy : Event → List ℕ
  | .retryTick timer => if (s.timers.get? timer).isSome then [timer] else []
  | _ => []

/-- What an event does to the queues. -/
inductive Queues (e : Event) (s' : ZoneRouter) (log : List Sent) : Prop where
  | idle (hrouted : routedBy D s e = []) (hticked : tickedBy s e = [])
      (hpending : s'.pending = s.pending) (hnext : s'.nextTimer = s.nextTimer)
      (hfate : ∀ m ∈ log, m.message.fate? = none) (hprobe : ∀ m ∈ log, m.message.probe? = none)
  | direct {q : QueuedPacket} {srcZone dstZone : String} {outPort : ℕ} {mac : EthAddr}
      {flows : List Sent} (hrouted : routedBy D s e = [q]) (hgiven : givenBy D s e = [])
      (hticked : tickedBy s e = []) (hpending : s'.pending = s.pending)
      (hnext : s'.nextTimer = s.nextTimer) (hzone : zoneOfPort D.maps q.dpid q.port = some srcZone)
      (hflows : ∀ m ∈ flows, m.message.built? = none)
      (hlog : log = flows ++ forwardSent D s q dstZone outPort mac)
  | queued {q : QueuedPacket} {dstZone : String} (hrouted : routedBy D s e = [q])
      (hgiven : givenBy D s e = [q]) (hticked : tickedBy s e = [])
      (hpending : s'.pending = (s.enqueued q dstZone).pending)
      (hnext : s'.nextTimer = (s.enqueued q dstZone).nextTimer)
      (hlog : log = queueSent D s q.ip.dstip dstZone)
  | released {ip : IPAddr} {entry : PendingEntry} {outPort : ℕ} {mac : EthAddr}
      (hrouted : routedBy D s e = []) (hticked : tickedBy s e = [])
      (hentry : s.pending.get? ip = some entry) (hpending : s'.pending = s.pending.erase ip)
      (hnext : s'.nextTimer = s.nextTimer)
      (hlog : log = entry.queue.flatMap fun q => forwardSent D s q entry.zone outPort mac)
  | probed {ip : IPAddr} {entry : PendingEntry} {timer : ℕ} (hrouted : routedBy D s e = [])
      (hticked : tickedBy s e = [timer]) (hentry : s.pending.get? ip = some entry)
      (htimer : entry.timer = some timer) (hretries : entry.retries < arpMaxRetries)
      (hpending : s'.pending = s.pending.set ip { entry with retries := entry.retries + 1 })
      (hnext : s'.nextTimer = s.nextTimer) (hlog : log = probeSent D s ip entry.zone)
  | gaveUp {ip : IPAddr} {entry : PendingEntry} {timer : ℕ} (hrouted : routedBy D s e = [])
      (hticked : tickedBy s e = [timer]) (hentry : s.pending.get? ip = some entry)
      (htimer : entry.timer = some timer) (hretries : entry.retries = arpMaxRetries)
      (hpending : s'.pending = s.pending.erase ip) (hnext : s'.nextTimer = s.nextTimer)
      (hlog : log =
        entry.queue.flatMap fun q => errorSent D s q icmpDestUnreach icmpCodeHostUnreach)

end

/-- An event that routes nothing and builds no frame. -/
theorem Queues.of_built? {ev : PacketIn} {s' : ZoneRouter} {log : List Sent}
    (hpassed : passed D s ev = none) (hpending : s'.pending = s.pending)
    (hnext : s'.nextTimer = s.nextTimer) (hlog : ∀ m ∈ log, m.message.built? = none) :
    Queues D s (.packetIn ev) s' log :=
  .idle (by simp [routedBy, hpassed]) rfl hpending hnext
    (fun m hm => fate?_of_built? (hlog m hm)) fun m hm => probe?_of_built? (hlog m hm)

theorem passed_of_crossing_none {ev : PacketIn} (h : crossing D ev = none) :
    passed D s ev = none := by
  rw [passed, h]
  rfl

/-- The entries that a queued packet leaves do not depend on what else was learned. -/
theorem enqueued_congr {s₁ : ZoneRouter} (hpending : s₁.pending = s.pending)
    (hnext : s₁.nextTimer = s.nextTimer) (q : QueuedPacket) (zone : String) :
    (s₁.enqueued q zone).pending = (s.enqueued q zone).pending ∧
      (s₁.enqueued q zone).nextTimer = (s.enqueued q zone).nextTimer := by
  unfold ZoneRouter.enqueued
  rw [hpending]
  cases s.pending.get? q.ip.dstip with
  | some entry => exact ⟨rfl, hnext⟩
  | none => exact ⟨by rw [hnext], by rw [hnext]⟩

theorem Handled.queues {ev : PacketIn} {s' : ZoneRouter} {log : List Sent}
    (hstep : Handled D s ev s' log) : Queues D s (.packetIn ev) s' log := by
  cases hstep with
  | ignored hsender =>
    exact .of_built? (passed_of_crossing_none (crossing_of_none hsender)) rfl rfl (by simp)
  | transit huplink =>
    refine .of_built? (passed_of_crossing_none (crossing_of_uplink huplink)) rfl rfl ?_
    split
    · exact built?_of_mem_floodSent
    · exact built?_of_mem_l2Sent
  | other _ hclaim =>
    exact .of_built? (passed_of_crossing_none (crossing_of_claim_none hclaim)) rfl rfl
      built?_of_mem_floodSent
  | arpRequest _ hbody =>
    have hpassed : passed D s ev = none := passed_of_crossing_none (crossing_of_arp hbody)
    refine .idle (by simp [routedBy, hpassed]) rfl rfl rfl ?_ ?_
    · simp [replySent, Message.fate?]
    · simp [replySent, Message.probe?, ZoneSegmentation.arpReply, ZoneSegmentation.arpRequest]
  | arpReply _ hbody =>
    exact .of_built? (passed_of_crossing_none (crossing_of_arp hbody)) rfl rfl (by simp)
  | arpOrdinary _ hbody =>
    exact .of_built? (passed_of_crossing_none (crossing_of_arp hbody)) rfl rfl
      built?_of_mem_floodSent
  | arpResolve _ hbody _ _ hentry =>
    have hpassed : passed D s ev = none := passed_of_crossing_none (crossing_of_arp hbody)
    exact .released (by simp [routedBy, hpassed]) rfl hentry rfl rfl rfl
  | ipUnrouted hsender hbody hdst =>
    exact .of_built? (passed_of_crossing_none (crossing_of_unrouted hsender hbody hdst)) rfl rfl
      (by simp)
  | ipSameZone hsender hbody _ hdst =>
    exact .of_built? (passed_of_crossing_none (crossing_of_sameZone hsender hbody hdst)) rfl rfl
      built?_of_mem_l2Sent
  | ipBlocked hsender hbody hgw hdst hne hverdict =>
    have hpassed : passed D s ev = none := by
      simp [passed, crossing_of_ne hsender hbody hgw hdst hne, hverdict]
    exact .of_built? hpassed rfl rfl (by simp [Message.built?])
  | @ipForwarded p snd dstZone v loc hsender hbody hgw hdst hne hverdict hloc =>
    have hpassed : passed D s ev = some (p, snd, dstZone) := by
      simp [passed, crossing_of_ne hsender hbody hgw hdst hne, hverdict]
    refine .direct (q := ev.queued p) (by simp [routedBy, hpassed]) ?_ rfl rfl rfl
      (acceptedSender_eq_some hsender).2.2.2.1 ?_ rfl
    · simp [givenBy, hpassed, hloc]
    · split
      · exact built?_of_mem_routeFlowsSent
      · simp
  | @ipQueued p snd dstZone v hsender hbody hgw hdst hne hverdict hloc =>
    have hpassed : passed D s ev = some (p, snd, dstZone) := by
      simp [passed, crossing_of_ne hsender hbody hgw hdst hne, hverdict]
    have hsame := enqueued_congr
      (show ((s.learned D ev.dpid ev.port snd).checked D ev p snd.zone dstZone).pending =
        s.pending from rfl) rfl (ev.queued p) dstZone
    exact .queued (by simp [routedBy, hpassed]) (by simp [givenBy, hpassed, hloc]) rfl hsame.1
      hsame.2 rfl

/-- What an event in a sound state does to the queues. -/
theorem step_queues (h : RouterOk D s) (e : Event) :
    Queues D s e (step D s e).1 (step D s e).2 := by
  have hstep := step_stepped h e
  generalize (step D s e).1 = s', (step D s e).2 = log at hstep
  cases hstep with
  | connectionUp | connExpire => exact .idle rfl rfl rfl rfl (by simp) (by simp)
  | cancelled htimer => exact .idle rfl (by simp [tickedBy, htimer]) rfl rfl (by simp) (by simp)
  | packetIn hhandled => exact hhandled.queues
  | probed hip hentry htimer hretries =>
    exact .probed rfl (by simp [tickedBy, hip]) hentry htimer hretries rfl rfl rfl
  | gaveUp hip hentry htimer hretries =>
    exact .gaveUp rfl (by simp [tickedBy, hip]) hentry htimer hretries rfl rfl rfl

/-! ## The balance of a step -/

theorem waiting_enqueued (s : ZoneRouter) (q : QueuedPacket) (zone : String) (u : ℕ) :
    waiting (s.enqueued q zone) u = waiting s u + if q.ip.uid = u then 1 else 0 := by
  unfold ZoneRouter.enqueued
  cases hentry : s.pending.get? q.ip.dstip with
  | some entry =>
    have htotal := Dict.total_set_of_some hentry { entry with queue := entry.queue ++ [q] }
      fun entry => entry.queue.countP fun q => q.ip.uid = u
    simp only [List.countP_append, List.countP_singleton, decide_eq_true_eq] at htotal
    simp only [waiting]
    omega
  | none => simp [waiting, Dict.total_set_of_none hentry]

/-- **Every packet an event routes is accounted for**: it waits, or a message tells its fate. -/
theorem step_balance (h : RouterOk D s) (hc : Connected D s) (e : Event) (u : ℕ) :
    waiting (step D s e).1 u + (step D s e).2.countP (Sent.about u) =
      waiting s u + (routedBy D s e).countP fun q => q.ip.uid = u := by
  -- an error about a packet that waits can be sent to the port that it came in on
  have hzone : ∀ {ip entry}, s.pending.get? ip = some entry → ∀ q ∈ entry.queue,
      ∃ zone, zoneOfPort D.maps q.dpid q.port = some zone := fun hentry q hq =>
    (((h.entry _ _ hentry).queue q hq).zone).imp fun _ hz => hz.1
  have hqueues := step_queues h e
  generalize (step D s e).1 = s', (step D s e).2 = log at hqueues
  cases hqueues with
  | idle hrouted _ hpending _ hfate _ =>
    simp [hrouted, waiting, hpending, countP_about_eq_zero hfate]
  | direct hrouted _ _ hpending _ hzone hflows hlog =>
    simp [hrouted, waiting, hpending, hlog, countP_about_of_built? hflows,
      countP_about_forwardSent hc hzone, List.countP_singleton]
  | @queued q dstZone hrouted _ _ hpending _ hlog =>
    have hlog : log.countP (Sent.about u) = 0 := by
      rw [hlog]
      exact countP_about_eq_zero (fun m hm => fate?_of_mem_probeSent m (mem_queueSent.mp hm).2) u
    have hwaiting : waiting s' u = waiting (s.enqueued q dstZone) u := by
      rw [waiting, hpending, waiting]
    rw [hlog, hrouted, hwaiting, waiting_enqueued]
    simp
  | @released ip entry outPort mac hrouted _ hentry hpending _ hlog =>
    rw [hlog, hrouted, waiting, hpending,
      countP_flatMap_of_forall (r := fun q => q.ip.uid = u) fun q hq => ?_]
    · exact Dict.total_erase hentry _
    · obtain ⟨zone, hz⟩ := hzone hentry q hq
      simp [countP_about_forwardSent hc hz]
  | @probed ip entry timer hrouted _ hentry _ _ hpending _ hlog =>
    have htotal := Dict.total_set_of_some hentry { entry with retries := entry.retries + 1 }
      fun entry => entry.queue.countP fun q => q.ip.uid = u
    dsimp only at htotal
    rw [hlog, countP_about_eq_zero fate?_of_mem_probeSent, hrouted, List.countP_nil]
    simp only [waiting, hpending]
    omega
  | @gaveUp ip entry timer hrouted _ hentry _ _ hpending _ hlog =>
    rw [hlog, hrouted, waiting, hpending,
      countP_flatMap_of_forall (r := fun q => q.ip.uid = u) fun q hq => ?_]
    · exact Dict.total_erase hentry _
    · obtain ⟨zone, hz⟩ := hzone hentry q hq
      simp [countP_about_errorSent hc hz]

/-! ## Arrival order -/

theorem givenBy_sublist (s : ZoneRouter) (e : Event) :
    (givenBy D s e).Sublist (routedBy D s e) := by
  cases e with
  | packetIn ev =>
    simp only [givenBy, routedBy]
    rcases passed D s ev with _ | r
    · exact .slnil
    · rw [Option.filter_some]
      split
      · exact .refl _
      · exact List.nil_sublist _
  | _ => exact .slnil

/-- The packets that wait for an address are the last ones given for it, in arrival order. -/
def InOrder (s : ZoneRouter) (given : List QueuedPacket) : Prop :=
  ∀ ip entry, s.pending.get? ip = some entry →
    entry.queue <:+ given.filter fun q => q.ip.dstip = ip

theorem InOrder.step (h : RouterOk D s) {given : List QueuedPacket} (hi : InOrder s given)
    (e : Event) : InOrder (step D s e).1 (given ++ givenBy D s e) := by
  have hqueues := step_queues h e
  have hnone : routedBy D s e = [] → givenBy D s e = [] := fun hr =>
    List.sublist_nil.mp (hr ▸ givenBy_sublist s e)
  generalize (ZoneSegmentation.step D s e).1 = s', (ZoneSegmentation.step D s e).2 = log at hqueues
  intro ip entry' hentry'
  cases hqueues with
  | idle hrouted _ hpending =>
    rw [hpending] at hentry'
    simpa [hnone hrouted] using hi ip entry' hentry'
  | direct _ hgiven _ hpending =>
    rw [hpending] at hentry'
    simpa [hgiven] using hi ip entry' hentry'
  | released hrouted _ _ hpending | gaveUp hrouted _ _ _ _ hpending =>
    rw [hpending, Dict.get?_erase_eq_some] at hentry'
    simpa [hnone hrouted] using hi ip entry' hentry'.2
  | probed hrouted _ hentry _ _ hpending =>
    rw [hpending, Dict.get?_set_eq_some] at hentry'
    rcases hentry' with ⟨rfl, rfl⟩ | ⟨-, hentry'⟩
    · simpa [hnone hrouted] using hi _ _ hentry
    · simpa [hnone hrouted] using hi ip entry' hentry'
  | @queued q dstZone _ hgiven _ hpending =>
    rw [hgiven, List.filter_append]
    rw [hpending] at hentry'
    unfold ZoneRouter.enqueued at hentry'
    by_cases hip : ip = q.ip.dstip
    · subst hip
      cases hentry : s.pending.get? q.ip.dstip with
      | some entry =>
        simp only [hentry, Dict.get?_set_self, Option.some.injEq] at hentry'
        rw [← hentry']
        obtain ⟨before, hbefore⟩ := hi _ _ hentry
        exact ⟨before, by simp [← hbefore]⟩
      | none =>
        simp only [hentry, Dict.get?_set_self, Option.some.injEq] at hentry'
        rw [← hentry']
        exact ⟨given.filter fun q' => q'.ip.dstip = q.ip.dstip, by simp⟩
    · have hsame : s.pending.get? ip = some entry' := by
        revert hentry'
        cases s.pending.get? q.ip.dstip <;> simp [Dict.get?_set, hip]
      simpa [Ne.symm hip] using hi ip entry' hsame

/-! ## Attempts to resolve an address -/

/-- A tick of the timer of an attempt to resolve an address, or a round of its probes. -/
inductive Attempt where
  | tick (timer : ℕ)
  | round (timer : ℕ)
  deriving DecidableEq

section

variable (D s)

/-- The attempt for which an event sends a round of probes: that of the entry they are for. -/
def roundsBy (e : Event) : List ℕ :=
  (((step D s e).2.findSome? fun m => m.message.probe?).bind fun ip =>
    ((step D s e).1.pending.get? ip).bind PendingEntry.timer).toList

/-- What an event does for the attempts, which their timers name. -/
def attemptsBy (e : Event) : List Attempt :=
  (tickedBy s e).map .tick ++ (roundsBy D s e).map .round

end

theorem count_round (done : List Attempt) (e : Event) (t : ℕ) :
    (done ++ attemptsBy D s e).count (.round t) =
      done.count (.round t) + (roundsBy D s e).count t := by
  have htick : ((tickedBy s e).map Attempt.tick).count (.round t) = 0 :=
    List.count_eq_zero.mpr (by simp)
  rw [attemptsBy, List.count_append, List.count_append, htick, Nat.zero_add,
    List.count_map_of_injective _ _ fun _ _ => Attempt.round.inj]

theorem count_tick (done : List Attempt) (e : Event) (t : ℕ) :
    (done ++ attemptsBy D s e).count (.tick t) =
      done.count (.tick t) + (tickedBy s e).count t := by
  have hround : ((roundsBy D s e).map Attempt.round).count (.tick t) = 0 :=
    List.count_eq_zero.mpr (by simp)
  rw [attemptsBy, List.count_append, List.count_append, hround, Nat.add_zero,
    List.count_map_of_injective _ _ fun _ _ => Attempt.tick.inj]

theorem roundsBy_of_none {e : Event} (h : ∀ m ∈ (step D s e).2, m.message.probe? = none) :
    roundsBy D s e = [] := by
  rw [roundsBy, List.findSome?_eq_none_iff.mpr h]
  rfl

/-- Probes for an entry's address count for its attempt. -/
theorem roundsBy_of_forall {e : Event} {ip : IPAddr} {entry : PendingEntry} {timer : ℕ}
    (h : ∀ m ∈ (step D s e).2, m.message.probe? = some ip)
    (hentry : (step D s e).1.pending.get? ip = some entry) (htimer : entry.timer = some timer) :
    roundsBy D s e = if (step D s e).2 = [] then [] else [timer] := by
  unfold roundsBy
  cases hlog : (step D s e).2 with
  | nil => rfl
  | cons m log =>
    rw [List.findSome?_cons, h m (by simp [hlog])]
    simp [hentry, htimer]

/-- They count for no other attempt. -/
theorem count_roundsBy {e : Event} {ip : IPAddr} {entry : PendingEntry} {timer : ℕ}
    (h : ∀ m ∈ (step D s e).2, m.message.probe? = some ip)
    (hentry : (step D s e).1.pending.get? ip = some entry) (htimer : entry.timer = some timer) :
    (roundsBy D s e).count timer ≤ 1 ∧ ∀ t ≠ timer, (roundsBy D s e).count t = 0 := by
  rw [roundsBy_of_forall h hentry htimer]
  split
  · simp
  · exact ⟨by simp, fun t ht => by simp [Ne.symm ht]⟩

/-- Every event that probes counts for an attempt. -/
theorem exists_roundsBy_of_probe (h : RouterOk D s) {e : Event} {m : Sent}
    (hm : m ∈ (step D s e).2) (hprobe : m.message.probe? ≠ none) : ∃ t, roundsBy D s e = [t] := by
  have hlog : (step D s e).2 ≠ [] := List.ne_nil_of_mem hm
  cases step_queues h e with
  | idle _ _ _ _ _ hnone => exact absurd (hnone m hm) hprobe
  | direct _ _ _ _ _ _ hflows hlog =>
    rcases List.mem_append.mp (hlog ▸ hm) with hm | hm
    · exact absurd (probe?_of_built? (hflows m hm)) hprobe
    · exact absurd (probe?_of_mem_forwardSent m hm) hprobe
  | @queued q dstZone _ _ _ hpending _ hsent =>
    unfold ZoneRouter.enqueued at hpending
    cases hentry : s.pending.get? q.ip.dstip with
    | some entry => simp [hsent, queueSent, hentry] at hm
    | none =>
      simp only [hentry] at hpending
      have hall : ∀ m ∈ (step D s e).2, m.message.probe? = some q.ip.dstip := by
        rw [hsent, queueSent, hentry]
        exact probe?_of_mem_probeSent
      have hrounds := roundsBy_of_forall hall (hpending ▸ Dict.get?_set_self ..) rfl
      exact ⟨_, hrounds.trans (if_neg hlog)⟩
  | released _ _ _ _ _ hlog =>
    obtain ⟨q, -, hm⟩ := List.mem_flatMap.mp (hlog ▸ hm)
    exact absurd (probe?_of_mem_forwardSent m hm) hprobe
  | @probed ip entry timer _ _ _ htimer _ hpending _ hsent =>
    have hall : ∀ m ∈ (step D s e).2, m.message.probe? = some ip := by
      rw [hsent]
      exact probe?_of_mem_probeSent
    have hprobed : (step D s e).1.pending.get? ip =
        some { entry with retries := entry.retries + 1 } := hpending ▸ Dict.get?_set_self ..
    exact ⟨timer, (roundsBy_of_forall hall hprobed htimer).trans (if_neg hlog)⟩
  | gaveUp _ _ _ _ _ _ _ hlog =>
    obtain ⟨q, -, hm⟩ := List.mem_flatMap.mp (hlog ▸ hm)
    exact absurd (probe?_of_mem_errorSent m hm) hprobe

theorem count_tickedBy {e : Event} {timer : ℕ} (h : tickedBy s e = [timer]) (t : ℕ) :
    (tickedBy s e).count t = if t = timer then 1 else 0 := by
  simp only [h, List.count_singleton, beq_iff_eq, @eq_comm _ timer]

/-- What was done for the attempts: an entry's probes and ticks show in its retries, and no attempt
had more than the limit. -/
structure AttemptsOk (s : ZoneRouter) (done : List Attempt) : Prop where
  entry : ∀ ip entry t, s.pending.get? ip = some entry → entry.timer = some t →
    done.count (.round t) ≤ entry.retries ∧ done.count (.tick t) + 1 = entry.retries
  ended : ∀ t, done.count (.round t) ≤ arpMaxRetries ∧ done.count (.tick t) ≤ arpMaxRetries
  fresh : ∀ t, s.nextTimer ≤ t → done.count (.round t) = 0 ∧ done.count (.tick t) = 0

theorem RouterOk.timer_lt (h : RouterOk D s) {ip : IPAddr} {entry : PendingEntry} {t : ℕ}
    (hentry : s.pending.get? ip = some entry) (ht : entry.timer = some t) : t < s.nextTimer := by
  obtain ⟨u, hu, hip⟩ := (h.entry ip entry hentry).timer
  obtain rfl := Option.some.inj (ht.symm.trans hu)
  exact h.fresh t (Dict.mem_keys_iff.mpr ⟨ip, hip⟩)

/-- An event that does nothing for the attempts, and at most ends some. -/
theorem AttemptsOk.of_nothing {done : List Attempt} (ha : AttemptsOk s done) {e : Event}
    (hticked : tickedBy s e = []) (hlog : ∀ m ∈ (step D s e).2, m.message.probe? = none)
    (hnext : (step D s e).1.nextTimer = s.nextTimer)
    (hpending : ∀ ip entry', (step D s e).1.pending.get? ip = some entry' →
      ∃ entry, s.pending.get? ip = some entry ∧ entry.timer = entry'.timer ∧
        entry.retries = entry'.retries) :
    AttemptsOk (step D s e).1 (done ++ attemptsBy D s e) := by
  rw [attemptsBy, hticked, roundsBy_of_none hlog]
  simp only [List.map_nil, List.append_nil]
  refine ⟨fun ip entry' t hentry' ht => ?_, ha.ended, fun t ht => ha.fresh t (hnext ▸ ht)⟩
  obtain ⟨entry, hentry, htimer, hretries⟩ := hpending ip entry' hentry'
  rw [← hretries]
  exact ha.entry ip entry t hentry (htimer.trans ht)

/-- An event that begins an attempt, with at most one round of probes: the new entry's timer was
never used before. -/
theorem AttemptsOk.opened (h : RouterOk D s) {done : List Attempt} (ha : AttemptsOk s done)
    {e : Event} {ip : IPAddr} {entry : PendingEntry} (hretries : entry.retries = 1)
    (htimer : entry.timer = some s.nextTimer) (hticked : tickedBy s e = [])
    (hpending : (step D s e).1.pending = s.pending.set ip entry)
    (hnext : (step D s e).1.nextTimer = s.nextTimer + 1)
    (hprobe : ∀ m ∈ (step D s e).2, m.message.probe? = some ip) :
    AttemptsOk (step D s e).1 (done ++ attemptsBy D s e) := by
  have hrounds := count_roundsBy hprobe (hpending ▸ Dict.get?_set_self ..) htimer
  have hfresh := ha.fresh s.nextTimer le_rfl
  refine ⟨fun ip' entry' t hentry' ht => ?_, fun t => ?_, fun t ht => ?_⟩
  all_goals rw [count_round, count_tick, hticked, List.count_nil, Nat.add_zero]
  · rw [hpending, Dict.get?_set_eq_some] at hentry'
    rcases hentry' with ⟨-, rfl⟩ | ⟨-, hentry'⟩
    · obtain rfl := Option.some.inj (htimer.symm.trans ht)
      omega
    · have hold := ha.entry ip' entry' t hentry' ht
      rw [hrounds.2 t (h.timer_lt hentry' ht).ne]
      omega
  · have hlimit : arpMaxRetries = 3 := rfl
    have hended := ha.ended t
    by_cases heq : t = s.nextTimer
    · have hround := hrounds.1
      rw [← heq] at hround hfresh
      omega
    · rw [hrounds.2 t heq]
      omega
  · have hold := ha.fresh t (by omega)
    rw [hrounds.2 t (by omega)]
    omega

/-- A tick of an attempt: its entry, if it stays, has one more retry; the others are as before. -/
theorem AttemptsOk.ticked (h : RouterOk D s) {done : List Attempt} (ha : AttemptsOk s done)
    {e : Event} {ip : IPAddr} {entry : PendingEntry} {timer : ℕ}
    (hentry : s.pending.get? ip = some entry) (htimer : entry.timer = some timer)
    (hticked : tickedBy s e = [timer]) (hnext : (step D s e).1.nextTimer = s.nextTimer)
    (hrounds : (roundsBy D s e).count timer ≤ 1 ∧ ∀ t ≠ timer, (roundsBy D s e).count t = 0)
    (hlimit : entry.retries + (roundsBy D s e).count timer ≤ arpMaxRetries)
    (hpending : ∀ ip' entry' t, (step D s e).1.pending.get? ip' = some entry' →
      entry'.timer = some t → t = timer ∧ entry'.retries = entry.retries + 1 ∨
        t ≠ timer ∧ s.pending.get? ip' = some entry') :
    AttemptsOk (step D s e).1 (done ++ attemptsBy D s e) := by
  have hold := ha.entry ip entry timer hentry htimer
  refine ⟨fun ip' entry' t hentry' ht => ?_, fun t => ?_, fun t ht => ?_⟩
  all_goals rw [count_round, count_tick, count_tickedBy hticked]
  · rcases hpending ip' entry' t hentry' ht with ⟨rfl, hretries⟩ | ⟨htne, hentry'⟩
    · rw [if_pos rfl]
      omega
    · rw [hrounds.2 t htne, if_neg htne]
      exact ha.entry ip' entry' t hentry' ht
  · have hended := ha.ended t
    by_cases heq : t = timer
    · subst heq
      rw [if_pos rfl]
      omega
    · rw [hrounds.2 t heq, if_neg heq]
      exact hended
  · rw [hnext] at ht
    have htne : t ≠ timer := ((h.timer_lt hentry htimer).trans_le ht).ne'
    rw [hrounds.2 t htne, if_neg htne]
    exact ha.fresh t ht

/-- A tick that probes: the attempt had fewer ticks than retries, and has one more of both. -/
theorem AttemptsOk.probed (h : RouterOk D s) {done : List Attempt} (ha : AttemptsOk s done)
    {e : Event} {ip : IPAddr} {entry : PendingEntry} {timer : ℕ}
    (hentry : s.pending.get? ip = some entry) (htimer : entry.timer = some timer)
    (hretries : entry.retries < arpMaxRetries) (hticked : tickedBy s e = [timer])
    (hpending : (step D s e).1.pending =
      s.pending.set ip { entry with retries := entry.retries + 1 })
    (hnext : (step D s e).1.nextTimer = s.nextTimer)
    (hprobe : ∀ m ∈ (step D s e).2, m.message.probe? = some ip) :
    AttemptsOk (step D s e).1 (done ++ attemptsBy D s e) := by
  have hprobed : (ZoneSegmentation.step D s e).1.pending.get? ip =
      some { entry with retries := entry.retries + 1 } := hpending ▸ Dict.get?_set_self ..
  have hrounds := count_roundsBy hprobe hprobed htimer
  apply ha.ticked h hentry htimer hticked hnext hrounds (by omega)
  intro ip' entry' t hentry' ht
  rw [hpending, Dict.get?_set_eq_some] at hentry'
  rcases hentry' with ⟨-, rfl⟩ | ⟨hne, hentry'⟩
  · exact .inl ⟨(Option.some.inj (htimer.symm.trans ht)).symm, rfl⟩
  · right
    refine ⟨?_, hentry'⟩
    rintro rfl
    exact hne (h.eq_of_timer hentry' hentry ht htimer)

/-- The last tick of an attempt: its entry goes. -/
theorem AttemptsOk.gaveUp (h : RouterOk D s) {done : List Attempt} (ha : AttemptsOk s done)
    {e : Event} {ip : IPAddr} {entry : PendingEntry} {timer : ℕ}
    (hentry : s.pending.get? ip = some entry) (htimer : entry.timer = some timer)
    (hretries : entry.retries = arpMaxRetries) (hticked : tickedBy s e = [timer])
    (hpending : (step D s e).1.pending = s.pending.erase ip)
    (hnext : (step D s e).1.nextTimer = s.nextTimer)
    (hprobe : ∀ m ∈ (step D s e).2, m.message.probe? = none) :
    AttemptsOk (step D s e).1 (done ++ attemptsBy D s e) := by
  have hrounds : ∀ t, (roundsBy D s e).count t = 0 := fun t => by
    rw [roundsBy_of_none hprobe, List.count_nil]
  apply ha.ticked h hentry htimer hticked hnext ⟨by simp [hrounds], fun t _ => hrounds t⟩
  · rw [hrounds, hretries, Nat.add_zero]
  · intro ip' entry' t hentry' ht
    rw [hpending, Dict.get?_erase_eq_some] at hentry'
    right
    refine ⟨?_, hentry'.2⟩
    rintro rfl
    exact hentry'.1 (h.eq_of_timer hentry'.2 hentry ht htimer)

theorem AttemptsOk.step (h : RouterOk D s) {done : List Attempt} (ha : AttemptsOk s done)
    (e : Event) : AttemptsOk (step D s e).1 (done ++ attemptsBy D s e) := by
  have hnothing := ha.of_nothing (D := D) (e := e)
  cases step_queues h e with
  | idle _ hticked hpending hnext _ hprobe =>
    exact hnothing hticked hprobe hnext fun ip entry' h' => ⟨entry', hpending ▸ h', rfl, rfl⟩
  | direct _ _ hticked hpending hnext _ hflows hlog =>
    refine hnothing hticked (fun m hm => ?_) hnext fun ip entry' h' =>
      ⟨entry', hpending ▸ h', rfl, rfl⟩
    rcases List.mem_append.mp (hlog ▸ hm) with hm | hm
    · exact probe?_of_built? (hflows m hm)
    · exact probe?_of_mem_forwardSent m hm
  | released _ hticked _ hpending hnext hlog =>
    refine hnothing hticked (fun m hm => ?_) hnext fun ip entry' h' => ?_
    · obtain ⟨q, -, hm⟩ := List.mem_flatMap.mp (hlog ▸ hm)
      exact probe?_of_mem_forwardSent m hm
    · exact ⟨entry', (Dict.get?_erase_eq_some.mp (hpending ▸ h')).2, rfl, rfl⟩
  | @queued q dstZone _ _ hticked hpending hnext hlog =>
    unfold ZoneRouter.enqueued at hpending hnext
    cases hentry : s.pending.get? q.ip.dstip with
    | some entry =>
      simp only [hentry] at hpending hnext
      refine hnothing hticked (by simp [hlog, queueSent, hentry]) hnext fun ip entry' h' => ?_
      rw [hpending, Dict.get?_set_eq_some] at h'
      rcases h' with ⟨rfl, rfl⟩ | ⟨-, h'⟩
      · exact ⟨entry, hentry, rfl, rfl⟩
      · exact ⟨entry', h', rfl, rfl⟩
    | none =>
      simp only [hentry] at hpending hnext
      refine ha.opened h rfl rfl hticked hpending hnext ?_
      rw [hlog, queueSent, hentry]
      exact probe?_of_mem_probeSent
  | probed _ hticked hentry htimer hretries hpending hnext hlog =>
    refine ha.probed h hentry htimer hretries hticked hpending hnext ?_
    rw [hlog]
    exact probe?_of_mem_probeSent
  | gaveUp _ hticked hentry htimer hretries hpending hnext hlog =>
    refine ha.gaveUp h hentry htimer hretries hticked hpending hnext fun m hm => ?_
    obtain ⟨q, -, hm⟩ := List.mem_flatMap.mp (hlog ▸ hm)
    exact probe?_of_mem_errorSent m hm

/-! ## Origins -/

/-- A packet that an event routes, or that waits. -/
def Held (D : Deployment) (s : ZoneRouter) (e : Event) (q : QueuedPacket) : Prop :=
  q ∈ routedBy D s e ∨ ∃ ip entry, s.pending.get? ip = some entry ∧ q ∈ entry.queue

/-- What a fate says about the time to live. -/
def Fate.Suits (q : QueuedPacket) : Fate → Prop
  | forwarded => 1 < q.ip.ttl
  | timeExceeded => q.ip.ttl ≤ 1
  | hostUnreachable => True

theorem suits_of_mem_forwardSent {q : QueuedPacket} {dstZone : String} {outPort : ℕ}
    {mac : EthAddr} {m : Sent} {fate : Fate} {u : ℕ}
    (hm : m ∈ forwardSent D s q dstZone outPort mac) (hfate : m.message.fate? = some (fate, u)) :
    q.ip.uid = u ∧ fate.Suits q := by
  rcases mem_forwardSent.mp hm with ⟨httl, hm⟩ | ⟨httl, -, rfl⟩
  · obtain ⟨-, zone, -, rfl⟩ := mem_errorSent.mp hm
    obtain ⟨rfl, rfl⟩ : Fate.timeExceeded = fate ∧ q.ip.uid = u := by
      simpa [Message.fate?, errorFrame] using hfate
    exact ⟨rfl, httl⟩
  · obtain ⟨rfl, rfl⟩ : Fate.forwarded = fate ∧ q.ip.uid = u := by
      simpa [Message.fate?, routedFrame] using hfate
    exact ⟨rfl, httl⟩

/-- A message tells the fate of a packet that was routed or waited. -/
theorem exists_held_of_fate (h : RouterOk D s) {e : Event} {m : Sent} (hm : m ∈ (step D s e).2)
    {fate : Fate} {u : ℕ} (hfate : m.message.fate? = some (fate, u)) :
    ∃ q, Held D s e q ∧ q.ip.uid = u ∧ fate.Suits q := by
  have hqueues := step_queues h e
  cases hqueues with
  | idle _ _ _ _ hnone => simp [hnone m hm] at hfate
  | @direct q _ _ _ _ _ hrouted _ _ _ _ _ hflows hlog =>
    rcases List.mem_append.mp (hlog ▸ hm) with hm | hm
    · simp [fate?_of_built? (hflows m hm)] at hfate
    · exact ⟨q, .inl (by simp [hrouted]), suits_of_mem_forwardSent hm hfate⟩
  | queued _ _ _ _ _ hlog =>
    simp [fate?_of_mem_probeSent m (mem_queueSent.mp (hlog ▸ hm)).2] at hfate
  | @released ip entry _ _ _ _ hentry _ _ hlog =>
    obtain ⟨q, hq, hm⟩ := List.mem_flatMap.mp (hlog ▸ hm)
    exact ⟨q, .inr ⟨ip, entry, hentry, hq⟩, suits_of_mem_forwardSent hm hfate⟩
  | probed _ _ _ _ _ _ _ hlog => simp [fate?_of_mem_probeSent m (hlog ▸ hm)] at hfate
  | @gaveUp ip entry _ _ _ hentry _ _ _ _ hlog =>
    obtain ⟨q, hq, hm⟩ := List.mem_flatMap.mp (hlog ▸ hm)
    obtain ⟨-, zone, -, rfl⟩ := mem_errorSent.mp hm
    obtain ⟨rfl, rfl⟩ : Fate.hostUnreachable = fate ∧ q.ip.uid = u := by
      simpa [Message.fate?, errorFrame, icmpTimeExceeded, icmpDestUnreach] using hfate
    exact ⟨q, .inr ⟨ip, entry, hentry, hq⟩, rfl, trivial⟩

/-! ## Runs -/

section

variable (D)

/-- The state once switches have connected, before anything else happens. -/
def connected (fwClient : Bool) (dpids : List ℕ) : ZoneRouter :=
  stateAfter D fwClient (dpids.map .connectionUp)

theorem mem_connections_connected (fwClient : Bool) {dpids : List ℕ} {dpid : ℕ}
    (h : dpid ∈ dpids) : dpid ∈ (connected D fwClient dpids).connections := by
  unfold connected
  induction dpids using List.reverseRecOn with
  | nil => simp at h
  | append_singleton dpids d ih =>
    rw [List.map_append, List.map_cons, List.map_nil, stateAfter_snoc]
    change dpid ∈ insert d (stateAfter D fwClient (dpids.map .connectionUp)).connections
    rcases List.mem_append.mp h with h | h
    · exact Finset.mem_insert_of_mem (ih h)
    · rw [List.mem_singleton.mp h]
      exact Finset.mem_insert_self ..

/-- Every switch of the layout is among the connected ones. -/
structure AllConnected (dpids : List ℕ) : Prop where
  core : D.maps.coreDpid ∈ dpids
  leaf : ∀ dpid ∈ D.maps.switchZone.keys, dpid ∈ dpids

end

theorem AllConnected.connected {dpids : List ℕ} (h : AllConnected D dpids) (fwClient : Bool) :
    Connected D (ZoneSegmentation.connected D fwClient dpids) :=
  ⟨mem_connections_connected D fwClient h.core,
    fun dpid hd => mem_connections_connected D fwClient (h.leaf dpid hd)⟩

theorem pending_connected (D : Deployment) (fwClient : Bool) (dpids : List ℕ) :
    (ZoneSegmentation.connected D fwClient dpids).pending = Dict.empty := by
  unfold ZoneSegmentation.connected
  induction dpids using List.reverseRecOn with
  | nil => rfl
  | append_singleton dpids d ih =>
    rw [List.map_append, List.map_cons, List.map_nil, stateAfter_snoc]
    exact ih

theorem uids_routedBy_sublist (s : ZoneRouter) (e : Event) :
    ((routedBy D s e).map fun q => q.ip.uid).Sublist e.uid?.toList := by
  cases e with
  | packetIn ev =>
    cases hpassed : passed D s ev with
    | none => simp [routedBy, hpassed]
    | some r =>
      obtain ⟨p, snd, dstZone⟩ := r
      have hbody := (crossing_eq_some (Option.filter_eq_some_iff.mp hpassed).1).2.1
      simp [routedBy, hpassed, Event.uid?, hbody, PacketIn.queued]
  | _ => exact List.nil_sublist _

/-- The packets that a run routes are packets that came in. -/
theorem uids_observed_sublist (s : ZoneRouter) (es : List Event) :
    ((Run.observed (step D) (routedBy D) s es).map fun q => q.ip.uid).Sublist
      (es.filterMap Event.uid?) :=
  Run.map_observed_sublist uids_routedBy_sublist s es

section

variable {start : ZoneRouter} {es : List Event}

theorem inOrder_observed (es : List Event) (h : RouterOk D start)
    (hempty : start.pending = Dict.empty) :
    InOrder (Run.final (step D) start es) (Run.observed (step D) (givenBy D) start es) := by
  have hrun : RouterOk D (Run.final (step D) start es) ∧
      InOrder (Run.final (step D) start es) (Run.observed (step D) (givenBy D) start es) :=
    Run.invariant_observed (I := fun s given => RouterOk D s ∧ InOrder s given)
      ⟨h, fun ip entry hentry => by simp [hempty] at hentry⟩
      (fun s given e hi => ⟨hi.1.step e, hi.2.step hi.1 e⟩) es
  exact hrun.2

theorem attemptsOk_observed (es : List Event) (h : RouterOk D start)
    (hempty : start.pending = Dict.empty) :
    AttemptsOk (Run.final (step D) start es) (Run.observed (step D) (attemptsBy D) start es) := by
  have hrun : RouterOk D (Run.final (step D) start es) ∧
      AttemptsOk (Run.final (step D) start es) (Run.observed (step D) (attemptsBy D) start es) :=
    Run.invariant_observed (I := fun s done => RouterOk D s ∧ AttemptsOk s done)
      ⟨h, fun ip entry t hentry => by simp [hempty] at hentry, by simp, by simp⟩
      (fun s done e hi => ⟨hi.1.step e, hi.2.step hi.1 e⟩) es
  exact hrun.2

/-- **The balance of a run**: every packet routed in it waits, or a message told its fate. -/
theorem run_balance (es : List Event) (h : RouterOk D start) (hc : Connected D start)
    (hempty : start.pending = Dict.empty) (u : ℕ) :
    waiting (Run.final (step D) start es) u +
        (Run.trace (step D) start es).countP (Sent.about u) =
      (Run.observed (step D) (routedBy D) start es).countP fun q => q.ip.uid = u := by
  have hrun := Run.balance (I := fun s => RouterOk D s ∧ Connected D s) (fun s => waiting s u)
    (Sent.about u) (routedBy D) (fun q => q.ip.uid = u)
    ⟨h, hc⟩ (fun s e hi => ⟨hi.1.step e, hi.2.step hi.1 e⟩)
    (fun s e hi => step_balance hi.1 hi.2 e u) es
  have hstart : waiting start u = 0 := by rw [waiting, hempty]; rfl
  omega

/-- A packet that waits after a run was routed in it. -/
theorem mem_routed_of_waiting (h : RouterOk D start) (hempty : start.pending = Dict.empty)
    {ip : IPAddr} {entry : PendingEntry} {q : QueuedPacket}
    (hentry : (Run.final (step D) start es).pending.get? ip = some entry) (hq : q ∈ entry.queue) :
    q ∈ Run.observed (step D) (routedBy D) start es := by
  have hgiven := (inOrder_observed es h hempty ip entry hentry).subset hq
  exact (Run.observed_sublist _ givenBy_sublist start es).subset (List.mem_of_mem_filter hgiven)

/-- What a run tells of a packet suits a packet that was routed in it. -/
theorem exists_routed_of_fate (h : RouterOk D start) (hempty : start.pending = Dict.empty)
    {m : Sent} (hm : m ∈ Run.trace (step D) start es) {fate : Fate} {u : ℕ}
    (hfate : m.message.fate? = some (fate, u)) :
    ∃ q ∈ Run.observed (step D) (routedBy D) start es, q.ip.uid = u ∧ fate.Suits q := by
  obtain ⟨past, e, rest, rfl, hstep⟩ := Run.mem_trace_iff.mp hm
  have hpast : RouterOk D (Run.final (step D) start past) :=
    Run.invariant h (fun s e hs => hs.step e) past
  obtain ⟨q, hheld, huid, hsuits⟩ := exists_held_of_fate hpast hstep hfate
  refine ⟨q, ?_, huid, hsuits⟩
  rw [Run.observed_append]
  rcases hheld with hrouted | ⟨ip, entry, hentry, hq⟩
  · exact List.mem_append_right _ (List.mem_append_left _ hrouted)
  · exact List.mem_append_left _ (mem_routed_of_waiting h hempty hentry hq)

/-- **A packet that had to wait is in one situation, once**: it waits, or one message told its fate,
and the fate suits its time to live. -/
theorem told_once (h : RouterOk D start) (hc : Connected D start)
    (hempty : start.pending = Dict.empty) (huids : (es.filterMap Event.uid?).Nodup)
    {q : QueuedPacket} (hq : q ∈ Run.observed (step D) (givenBy D) start es) :
    let s := Run.final (step D) start es
    let log := Run.trace (step D) start es
    waiting s q.ip.uid + told log .forwarded q.ip.uid + told log .timeExceeded q.ip.uid +
      told log .hostUnreachable q.ip.uid = 1 ∧
    ∀ fate, 0 < told log fate q.ip.uid → fate.Suits q := by
  intro s log
  have hrouted := (Run.observed_sublist _ givenBy_sublist start es).subset hq
  have hnodup := huids.sublist (uids_observed_sublist (D := D) start es)
  -- no other packet that was routed has its identity
  have hone : (Run.observed (step D) (routedBy D) start es).countP
      (fun q' => q'.ip.uid = q.ip.uid) = 1 := by
    rw [← List.count_eq_one_of_mem hnodup (List.mem_map_of_mem hrouted), List.count,
      List.countP_map]
    rfl
  have hbalance := run_balance es h hc hempty q.ip.uid
  rw [countP_about, hone] at hbalance
  constructor
  · rw [← hbalance, ← add_assoc, ← add_assoc]
  · intro fate htold
    obtain ⟨m, hm, hfate⟩ := List.countP_pos_iff.mp htold
    obtain ⟨q', hq', huid, hsuits⟩ := exists_routed_of_fate h hempty hm (of_decide_eq_true hfate)
    obtain rfl := List.inj_on_of_nodup_map hnodup hq' hrouted huid
    exact hsuits

/-- An entry's timer has ticked less often than the limit. -/
theorem count_tick_lt (h : RouterOk D start) (hempty : start.pending = Dict.empty) {ip : IPAddr}
    {entry : PendingEntry} {t : ℕ}
    (hentry : (Run.final (step D) start es).pending.get? ip = some entry)
    (ht : entry.timer = some t) :
    (Run.observed (step D) (attemptsBy D) start es).count (.tick t) < arpMaxRetries := by
  have hcount := ((attemptsOk_observed es h hempty).entry ip entry t hentry ht).2
  have hs : RouterOk D (Run.final (step D) start es) := Run.invariant h (fun s e hs => hs.step e) es
  have hretries := (hs.entry ip entry hentry).retries.2
  omega

end

/-- **No packet that has to wait is lost or duplicated, and every attempt ends.** Take any run
once all switches are connected, each packet-in with a packet object of its own. Every packet
given to `_queue_and_resolve` is in exactly one situation, once: it waits, was forwarded, was
answered with Time Exceeded, or was answered with Host Unreachable. The packets waiting for an
address are in arrival order. An entry has sent between 1 and `ARP_MAX_RETRIES` rounds of probes,
and its timer runs, for fewer ticks than that; with the last one the timer and the entry go. -/
theorem no_packet_lost_or_duplicated (D : Deployment) (fwClient : Bool) (dpids : List ℕ)
    (hconn : AllConnected D dpids) (es : List Event) (huids : (es.filterMap Event.uid?).Nodup) :
    let start := connected D fwClient dpids
    let s := Run.final (step D) start es
    let log := Run.trace (step D) start es
    let given := Run.observed (step D) (givenBy D) start es
    let attempts := Run.observed (step D) (attemptsBy D) start es
    (∀ q ∈ given,
      waiting s q.ip.uid + told log .forwarded q.ip.uid + told log .timeExceeded q.ip.uid +
        told log .hostUnreachable q.ip.uid = 1 ∧
      ∀ fate, 0 < told log fate q.ip.uid → fate.Suits q) ∧
    (∀ ip entry, s.pending.get? ip = some entry →
      (entry.queue <:+ given.filter fun q => q.ip.dstip = ip) ∧
      1 ≤ entry.retries ∧ entry.retries ≤ arpMaxRetries ∧
      ∃ t, entry.timer = some t ∧ s.timers.get? t = some ip ∧
        attempts.count (.tick t) < arpMaxRetries) ∧
    ∀ t, attempts.count (.round t) ≤ arpMaxRetries ∧ attempts.count (.tick t) ≤ arpMaxRetries ∧
      (attempts.count (.tick t) = arpMaxRetries →
        s.timers.get? t = none ∧
          ∀ ip entry, s.pending.get? ip = some entry → entry.timer ≠ some t) := by
  intro start s log given attempts
  have hok : RouterOk D start := routerOk_stateAfter fwClient _
  have hempty : start.pending = Dict.empty := pending_connected D fwClient dpids
  have hs : RouterOk D s := Run.invariant hok (fun t e ht => ht.step e) es
  have hattempts := attemptsOk_observed es hok hempty
  refine ⟨?_, ?_, ?_⟩
  · intro q hq
    exact told_once hok (hconn.connected fwClient) hempty huids hq
  · intro ip entry hentry
    obtain ⟨t, ht, htimer⟩ := (hs.entry ip entry hentry).timer
    exact ⟨inOrder_observed es hok hempty ip entry hentry, (hs.entry ip entry hentry).retries.1,
      (hs.entry ip entry hentry).retries.2, t, ht, htimer, count_tick_lt hok hempty hentry ht⟩
  · intro t
    refine ⟨(hattempts.ended t).1, (hattempts.ended t).2, ?_⟩
    intro hlast
    -- an entry with this timer would have had one tick less
    have hgone : ∀ ip entry, s.pending.get? ip = some entry → entry.timer ≠ some t := by
      intro ip entry hentry ht
      exact (count_tick_lt hok hempty hentry ht).ne hlast
    refine ⟨?_, hgone⟩
    rw [Option.eq_none_iff_forall_ne_some]
    intro ip hip
    obtain ⟨entry, hentry, ht⟩ := hs.timer t ip hip
    exact hgone ip entry hentry ht

/-- Two packets wait for the server, one of them with a spent time to live, until the server answers
the probes of its gateway. Of two packets to an address that nobody has, one is given up after three
ticks, and the other waits. -/
def serverAnswers : List Event := [
  h101.sends 0x020000000001 (.ip (h101.tcp 7 hServer.ip 4000 80)) 0,
  h101.sends 0x020000000001 (.ip { h101.tcp 8 hServer.ip 4001 80 with ttl := 1 }) 0,
  .retryTick 0,
  hServer.sends 0x020000000003 (.arp ⟨arpReply, hServer.mac, 0x020000000003, hServer.ip,
    0x0A010301⟩) 1,
  h101.sends 0x020000000001 (.ip (h101.tcp 9 0x0A0103B3 4002 80)) 2,
  .retryTick 1, .retryTick 1, .retryTick 1,
  h101.sends 0x020000000001 (.ip (h101.tcp 10 0x0A0103B3 4002 80)) 5]

/-- The four packets of `serverAnswers` end in the four situations, each in one of them. -/
theorem no_packet_lost_or_duplicated_server :
    let start := connected deployment false [6, 1, 2, 3, 4, 5]
    let s := Run.final (step deployment) start serverAnswers
    let log := Run.trace (step deployment) start serverAnswers
    let given := Run.observed (step deployment) (givenBy deployment) start serverAnswers
    given.map (·.ip.uid) = [7, 8, 9, 10] ∧
    (told log .forwarded 7 = 1 ∧ told log .timeExceeded 8 = 1 ∧ told log .hostUnreachable 9 = 1 ∧
      waiting s 10 = 1) ∧
    ∀ q ∈ given, waiting s q.ip.uid + told log .forwarded q.ip.uid +
      told log .timeExceeded q.ip.uid + told log .hostUnreachable q.ip.uid = 1 := by
  intro start s log given
  have hall := no_packet_lost_or_duplicated deployment false [6, 1, 2, 3, 4, 5]
    ⟨by decide +kernel, by decide +kernel⟩ serverAnswers (by decide +kernel)
  exact ⟨by decide +kernel, by decide +kernel, fun q hq => (hall.1 q hq).1⟩

end ZoneSegmentation
