import ZoneSegmentation.Controller.Outcome
import ZoneSegmentation.Library.Run

/-!
# The states of the controller

What holds of the controller's tables after any sequence of events, and from it what every event
does in such a state.

## Main definitions

* `LocationOk`, `RouterOk`: sound locations, sound tables
* `Stepped`: the ways an event can be handled
* `stateAfter`: the state after a run

## Main results

* `step_stepped`: in a sound state an event raises nothing, and is handled in one of the ways of
  `Stepped`
* `routerOk_stateAfter`: the tables are sound after every run
-/

namespace ZoneSegmentation

open Proc

/-! ## Sound tables -/

/-- A sound location: its zone is that of the address and of the core port, and the address is
not that zone's gateway. -/
structure LocationOk (D : Deployment) (ip : IPAddr) (loc : Location) : Prop where
  valid : sourceIpValidForZone D.policy (.v4 ip) loc.zone = true
  corePort : D.maps.corePortZones.get? loc.corePort = some (some loc.zone)

theorem LocationOk.zone {D : Deployment} {ip : IPAddr} {loc : Location} (h : LocationOk D ip loc) :
    zoneForIp D.policy (.v4 ip) = some loc.zone := (sourceIpValidForZone_iff.mp h.valid).1

/-- Sound tables. -/
structure RouterOk (D : Deployment) (s : ZoneRouter) : Prop where
  location : ∀ ip loc, s.ipToLoc.get? ip = some loc → LocationOk D ip loc
  entry : ∀ ip entry, s.pending.get? ip = some entry → EntryOk D s.timers ip entry
  /-- Only the timers of pending entries run. -/
  timer : ∀ t ip, s.timers.get? t = some ip →
    ∃ entry, s.pending.get? ip = some entry ∧ entry.timer = some t
  fresh : ∀ t ∈ s.timers.keys, t < s.nextTimer

variable {D : Deployment} {s : ZoneRouter}

theorem routerOk_init (fwClient : Bool) : RouterOk D (.init fwClient) :=
  ⟨nofun, nofun, nofun, nofun⟩

/-- Two entries do not share a timer. -/
theorem RouterOk.eq_of_timer (h : RouterOk D s) {ip ip' : IPAddr} {entry entry' : PendingEntry}
    {t : ℕ} (he : s.pending.get? ip = some entry) (he' : s.pending.get? ip' = some entry')
    (ht : entry.timer = some t) (ht' : entry'.timer = some t) : ip = ip' := by
  obtain ⟨u, hu, hip⟩ := (h.entry ip entry he).timer
  obtain ⟨u', hu', hip'⟩ := (h.entry ip' entry' he').timer
  obtain rfl := Option.some.inj (ht.symm.trans hu)
  obtain rfl := Option.some.inj (ht'.symm.trans hu')
  exact Option.some.inj (hip.symm.trans hip')

/-! ## What each write keeps -/

theorem RouterOk.learned (h : RouterOk D s) {ev : PacketIn} {snd : Sender}
    (hsender : acceptedSender D ev = some snd) : RouterOk D (s.learned D ev.dpid ev.port snd) := by
  obtain ⟨p, hport, hzone⟩ := corePort_of_acceptedSender hsender
  refine ⟨fun ip loc hloc => ?_, h.entry, h.timer, h.fresh⟩
  rw [get?_learned hport] at hloc
  split at hloc
  · rename_i hip
    cases hloc
    exact ⟨hip ▸ (acceptedSender_eq_some hsender).2.2.2.2, hzone⟩
  · exact h.location ip loc hloc

theorem RouterOk.checked (h : RouterOk D s) (ev : PacketIn) (p : Ipv4) (srcZone dstZone : String) :
    RouterOk D (s.checked D ev p srcZone dstZone) := ⟨h.location, h.entry, h.timer, h.fresh⟩

/-- Changing an entry, but for its zone and its timer. -/
theorem RouterOk.setEntry (h : RouterOk D s) {ip : IPAddr} {entry entry' : PendingEntry}
    (hentry : s.pending.get? ip = some entry) (htimer : entry'.timer = entry.timer)
    (hok : EntryOk D s.timers ip entry') :
    RouterOk D { s with pending := s.pending.set ip entry' } := by
  refine ⟨h.location, fun ip' e he => ?_, fun t ip' ht => ?_, h.fresh⟩
  · rcases Dict.get?_set_eq_some.mp he with ⟨rfl, rfl⟩ | ⟨-, he⟩
    · exact hok
    · exact h.entry ip' e he
  · obtain ⟨e, he, het⟩ := h.timer t ip' ht
    change ∃ entry, (s.pending.set ip entry').get? ip' = some entry ∧ _
    rw [Dict.get?_set]
    split
    · rename_i hip
      subst hip
      obtain rfl := Option.some.inj (he.symm.trans hentry)
      exact ⟨entry', rfl, htimer.trans het⟩
    · exact ⟨e, he, het⟩

theorem RouterOk.enqueued (h : RouterOk D s) {q : QueuedPacket} {dstZone : String}
    (hzone : zoneForIp D.policy (.v4 q.ip.dstip) = some dstZone)
    (hq : QueuedOk D q.ip.dstip dstZone q) : RouterOk D (s.enqueued q dstZone) := by
  unfold ZoneRouter.enqueued
  cases hentry : s.pending.get? q.ip.dstip with
  | some entry =>
    have hok := h.entry _ _ hentry
    have hsame : entry.zone = dstZone := Option.some.inj (hok.zone.symm.trans hzone)
    refine h.setEntry hentry rfl ⟨hok.zone, hok.timer, hok.retries, fun q' hq' => ?_⟩
    rcases List.mem_append.mp hq' with hq' | hq'
    · exact hok.queue q' hq'
    · rw [List.mem_singleton.mp hq', hsame]
      exact hq
  | none =>
    have hnew : ∀ t ∈ s.timers.keys, t ≠ s.nextTimer := fun t ht => (h.fresh t ht).ne
    refine ⟨h.location, fun ip e he => ?_, fun t ip ht => ?_, fun t ht => ?_⟩
    · rcases Dict.get?_set_eq_some.mp he with ⟨rfl, rfl⟩ | ⟨-, he⟩
      · refine ⟨hzone, ⟨_, rfl, Dict.get?_set_self ..⟩, ⟨le_refl 1, by simp [arpMaxRetries]⟩,
          fun q' hq' => ?_⟩
        rw [List.mem_singleton.mp hq']
        exact hq
      · have hok := h.entry ip e he
        obtain ⟨t, ht, hip⟩ := hok.timer
        refine ⟨hok.zone, ⟨t, ht, ?_⟩, hok.retries, hok.queue⟩
        rw [Dict.get?_set_of_ne _ _ (hnew t (Dict.mem_keys_iff.mpr ⟨ip, hip⟩)), hip]
    · rcases Dict.get?_set_eq_some.mp ht with ⟨rfl, rfl⟩ | ⟨-, ht⟩
      · exact ⟨_, Dict.get?_set_self .., rfl⟩
      · obtain ⟨e, he, het⟩ := h.timer t ip ht
        have hne : ip ≠ q.ip.dstip := by
          rintro rfl
          simp [hentry] at he
        exact ⟨e, (Dict.get?_set_of_ne _ _ hne).trans he, het⟩
    · rcases Dict.mem_keys_set.mp ht with rfl | ht
      · exact Nat.lt_succ_self _
      · exact (h.fresh t ht).trans (Nat.lt_succ_self _)

theorem RouterOk.removed (h : RouterOk D s) {ip : IPAddr} {entry : PendingEntry} {timer : ℕ}
    (hentry : s.pending.get? ip = some entry) (htimer : entry.timer = some timer) :
    RouterOk D (s.removed ip timer) := by
  refine ⟨h.location, fun ip' e he => ?_, fun t ip' ht => ?_, fun t ht => ?_⟩
  · obtain ⟨hne, he'⟩ := Dict.get?_erase_eq_some.mp he
    have hok := h.entry ip' e he'
    obtain ⟨t, ht, hip⟩ := hok.timer
    -- two entries do not share a timer, so this one still runs
    refine ⟨hok.zone, ⟨t, ht, Dict.get?_erase_eq_some.mpr ⟨?_, hip⟩⟩, hok.retries, hok.queue⟩
    rintro rfl
    exact hne (h.eq_of_timer he' hentry ht htimer)
  · obtain ⟨hne, ht'⟩ := Dict.get?_erase_eq_some.mp ht
    obtain ⟨e, he, het⟩ := h.timer t ip' ht'
    refine ⟨e, Dict.get?_erase_eq_some.mpr ⟨?_, he⟩, het⟩
    rintro rfl
    obtain rfl := Option.some.inj (he.symm.trans hentry)
    exact hne (Option.some.inj (het.symm.trans htimer))
  · obtain ⟨ip', ht⟩ := Dict.mem_keys_iff.mp ht
    exact h.fresh t (Dict.mem_keys_iff.mpr ⟨ip', (Dict.get?_erase_eq_some.mp ht).2⟩)

/-- A packet-in keeps the tables sound. -/
theorem RouterOk.handled (h : RouterOk D s) {ev : PacketIn} {s' : ZoneRouter} {log : List Sent}
    (hstep : Handled D s ev s' log) : RouterOk D s' := by
  cases hstep with
  | ignored => exact h
  | transit => exact ⟨h.location, h.entry, h.timer, h.fresh⟩
  | other => exact h
  | arpRequest hsender | arpReply hsender | arpOrdinary hsender | ipUnrouted hsender
  | ipSameZone hsender => exact h.learned hsender
  | arpResolve hsender _ _ _ hentry htimer => exact (h.learned hsender).removed hentry htimer
  | ipBlocked hsender | ipForwarded hsender => exact (h.learned hsender).checked ..
  | ipQueued hsender hbody _ hdst hne =>
    obtain ⟨-, -, hclaim, hzone, hvalid⟩ := acceptedSender_eq_some hsender
    simp only [Frame.claim, hbody, Option.some.injEq, Prod.mk.injEq] at hclaim
    refine ((h.learned hsender).checked ..).enqueued hdst ⟨rfl, _, hzone, ?_, Ne.symm hne⟩
    rw [PacketIn.queued, hclaim.1]
    exact hvalid

/-- A packet-in leaves the connections as they are. -/
theorem Handled.connections {ev : PacketIn} {s' : ZoneRouter} {log : List Sent}
    (hstep : Handled D s ev s' log) : s'.connections = s.connections := by
  cases hstep with
  | ipQueued =>
    rw [ZoneRouter.connections_enqueued]
    rfl
  | _ => rfl

/-! ## Events -/

/-- The ways an event can be handled. -/
inductive Stepped (D : Deployment) (s : ZoneRouter) : Event → ZoneRouter → List Sent → Prop where
  | connectionUp (dpid : ℕ) :
    Stepped D s (.connectionUp dpid) { s with
      connections := insert dpid s.connections
      macTable := s.macTable.set dpid ((s.macTable.get? dpid).getD Dict.empty) } []
  | packetIn {ev : PacketIn} {s' : ZoneRouter} {log : List Sent} (h : Handled D s ev s' log) :
    Stepped D s (.packetIn ev) s' log
  /-- A timer that was cancelled does not fire. -/
  | cancelled {timer : ℕ} (htimer : s.timers.get? timer = none) :
    Stepped D s (.retryTick timer) s []
  | probed {timer : ℕ} {ip : IPAddr} {entry : PendingEntry}
      (hip : s.timers.get? timer = some ip) (hentry : s.pending.get? ip = some entry)
      (htimer : entry.timer = some timer) (hretries : entry.retries < arpMaxRetries) :
    Stepped D s (.retryTick timer)
      { s with pending := s.pending.set ip { entry with retries := entry.retries + 1 } }
      (probeSent D s ip entry.zone)
  | gaveUp {timer : ℕ} {ip : IPAddr} {entry : PendingEntry}
      (hip : s.timers.get? timer = some ip) (hentry : s.pending.get? ip = some entry)
      (htimer : entry.timer = some timer) (hretries : entry.retries = arpMaxRetries) :
    Stepped D s (.retryTick timer) (s.removed ip timer)
      (entry.queue.flatMap fun q => errorSent D s q icmpDestUnreach icmpCodeHostUnreach)
  | connExpire (now : ℚ) :
    Stepped D s (.connExpire now) { s with conns := (s.conns.expire now).2 } []

/-- **An event in a sound state** raises nothing, and is handled in one of the ways of
`Stepped`. -/
theorem handle_stepped (h : RouterOk D s) (e : Event) :
    ∃ s' log, (handle D e).run s = ⟨.ok (), s', log⟩ ∧ Stepped D s e s' log := by
  cases e with
  | connectionUp dpid => exact ⟨_, _, rfl, .connectionUp dpid⟩
  | packetIn ev =>
    obtain ⟨s', log, hrun, hhandled⟩ := handlePacketIn_handled h.entry ev
    exact ⟨s', log, hrun, .packetIn hhandled⟩
  | connExpire now => exact ⟨_, _, rfl, .connExpire now⟩
  | retryTick timer =>
    rw [handle, run_bind_of_ok (run_get s), after_nil]
    cases hip : s.timers.get? timer with
    | none => exact ⟨s, [], rfl, .cancelled hip⟩
    | some ip =>
      obtain ⟨entry, hentry, htimer⟩ := h.timer timer ip hip
      have hok := h.entry ip entry hentry
      simp only [run_retryArp hentry hok htimer]
      split
      · rename_i hretries
        exact ⟨_, _, rfl, .gaveUp hip hentry htimer (le_antisymm hok.retries.2 hretries)⟩
      · rename_i hretries
        exact ⟨_, _, rfl, .probed hip hentry htimer (not_le.mp hretries)⟩

theorem step_stepped (h : RouterOk D s) (e : Event) :
    Stepped D s e (step D s e).1 (step D s e).2 := by
  obtain ⟨s', log, hrun, hstep⟩ := handle_stepped h e
  simpa only [step, hrun] using hstep

theorem RouterOk.stepped (h : RouterOk D s) {e : Event} {s' : ZoneRouter} {log : List Sent}
    (hstep : Stepped D s e s' log) : RouterOk D s' := by
  cases hstep with
  | connectionUp | connExpire => exact ⟨h.location, h.entry, h.timer, h.fresh⟩
  | packetIn hhandled => exact h.handled hhandled
  | cancelled => exact h
  | probed _ hentry _ hretries =>
    have hok := h.entry _ _ hentry
    exact h.setEntry hentry rfl ⟨hok.zone, hok.timer, ⟨Nat.le_add_left 1 _, hretries⟩, hok.queue⟩
  | gaveUp _ hentry htimer => exact h.removed hentry htimer

theorem RouterOk.step (h : RouterOk D s) (e : Event) : RouterOk D (step D s e).1 :=
  h.stepped (step_stepped h e)

/-- No switch is ever forgotten. -/
theorem Stepped.connections_subset {e : Event} {s' : ZoneRouter} {log : List Sent}
    (hstep : Stepped D s e s' log) : s.connections ⊆ s'.connections := by
  cases hstep with
  | connectionUp dpid => exact Finset.subset_insert ..
  | packetIn hhandled => exact hhandled.connections.symm.subset
  | cancelled | probed | gaveUp | connExpire => exact subset_rfl

/-! ## Runs -/

variable (D) in
/-- The state after a run of a controller that starts with or without a daemon. -/
def stateAfter (fwClient : Bool) (es : List Event) : ZoneRouter :=
  Run.final (step D) (.init fwClient) es

/-- **The tables are sound after every run.** -/
theorem routerOk_stateAfter (fwClient : Bool) (es : List Event) :
    RouterOk D (stateAfter D fwClient es) :=
  Run.invariant (routerOk_init fwClient) (fun _ e h => h.step e) es

@[simp] theorem stateAfter_snoc (fwClient : Bool) (es : List Event) (e : Event) :
    stateAfter D fwClient (es ++ [e]) = (step D (stateAfter D fwClient es) e).1 :=
  Run.final_snoc ..

end ZoneSegmentation
