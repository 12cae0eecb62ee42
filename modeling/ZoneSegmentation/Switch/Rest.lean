import ZoneSegmentation.Switch.Copies
import Mathlib.Algebra.Order.BigOperators.Group.List
import Mathlib.Algebra.Group.Action.Defs
import Mathlib.Algebra.Order.Ring.Nat

/-!
# The network comes to rest

No frame goes round in the network, and the controller does not ask forever. What a frame can still
cause is bounded by how far it has come: from a host's port it goes up to the core at most, from
there down to a leaf, and from there to hosts; and what the controller builds for it comes down at
once. So everything that happens is paid for by the frames that the hosts send, whatever they send,
and in whatever order the rest arrives.

## Main definitions

* `rank`: how far a frame can still go
* `frameWork`: how much a frame can still cause
* `Site.potential`: how much all that is under way, or waits, can still cause
* `Site.Moves`: something is at the place that an event names
* `Site.AtRest`: nothing is under way, and no packet waits

## Main results

* `Handled.pays`: a packet-in pays for its messages, and for what it lets wait
* `work_bounded`: what happens in a run is bounded by the number of frames that hosts send
* `comes_to_rest`: without new frames the network comes to rest
-/

namespace ZoneSegmentation

open HostTree (End)

variable (D : Deployment)

/-! ## What can happen -/

/-- A host sends a frame. -/
def SiteEvent.sendsFrame : SiteEvent → Bool
  | .sends _ _ => true
  | _ => false

/-- Something is at the place that an event names: a frame arrives or is lost, a packet-in or a
message is handled, or a timer that runs fires. -/
def Site.Moves (w : Site) : SiteEvent → Prop
  | .arrives i _ | .dropped i => (w.wires[i]?).isSome
  | .asked i _ _ => (w.asks[i]?).isSome
  | .told i _ => (w.tells[i]?).isSome
  | .ticks timer => (w.router.timers.get? timer).isSome
  | .sends _ _ | .connects _ | .sweeps _ => False

instance (w : Site) : (e : SiteEvent) → Decidable (w.Moves e)
  | .arrives _ _ | .dropped _ | .asked _ _ _ | .told _ _ | .ticks _ =>
    inferInstanceAs (Decidable (_ = true))
  | .sends _ _ | .connects _ | .sweeps _ => inferInstanceAs (Decidable False)

/-- Whether something happens at an event. -/
def Site.work (w : Site) (e : SiteEvent) : ℕ := if w.Moves e then 1 else 0

/-- Nothing is under way, and no packet waits for its destination. -/
structure Site.AtRest (w : Site) : Prop where
  wires : w.wires = []
  asks : w.asks = []
  tells : w.tells = []
  pending : ∀ ip, w.router.pending.get? ip = none

/-! ## How far a frame can go -/

/-- How far a frame can go that leaves a switch by another port than it came in by: from an uplink
to hosts, at the core down to a leaf, from a host's port up to the core. -/
def below (dpid port : ℕ) : ℕ :=
  if dpid = D.maps.coreDpid then 1 else if isLeafUplink D.maps dpid port then 0 else 2

/-- How far a frame at the end of a cable can go. -/
def rank : End ℕ ℕ String → ℕ
  | .host _ => 0
  | .switch dpid port => below D dpid port + 1

/-- The most ports that a message or a flood goes out of. -/
def fanOut : ℕ := max D.maps.corePortZones.keys.length (buildNetwork D.net).length

/-! ## How much a frame can cause -/

/-- What a frame that comes down can cause: it is flooded to hosts. -/
def downWork : ℕ := 2 * fanOut D + 4

/-- What a message can cause with a frame that comes down. -/
def sentWork : ℕ := downWork D + 1

/-- What a frame of a host can cause beside the frame itself: the controller probes three times for
its destination, and answers it. -/
def hostWork : ℕ := 3 * (fanOut D * sentWork D) + sentWork D + 3

/-- What a frame can cause, by how far it can go. -/
def frameWork : ℕ → ℕ
  | 0 => 1
  | 1 => downWork D
  | r + 2 => (fanOut D + 1) * (frameWork (r + 1) + 1) + hostWork D + 2

/-- What a frame under way can cause. -/
def InFlight.work (x : InFlight) : ℕ := frameWork D (rank D x.dest)

/-- What a packet-in can cause: it was a frame that has come to a switch. -/
def Ask.work (a : Ask) : ℕ := frameWork D (rank D (.switch a.dpid a.port)) - 1

/-- What a message can cause. -/
def Told.work (t : Told) : ℕ := ((t.out D).map (InFlight.work D)).sum + 1

/-- What an entry can cause: the probes that are left, and a frame for each packet. -/
def PendingEntry.work (entry : PendingEntry) : ℕ :=
  entry.queue.length * sentWork D +
    (arpMaxRetries - entry.retries) * (fanOut D * sentWork D + 1) + 1

/-- What messages can cause. -/
def logWork (inPort : Option ℕ) (log : List Sent) : ℕ :=
  (log.map fun m => (⟨inPort, m⟩ : Told).work D).sum

/-- What all that is under way, or waits, can cause. -/
def Site.potential (w : Site) : ℕ :=
  (w.wires.map (InFlight.work D)).sum + (w.asks.map (Ask.work D)).sum +
    (w.tells.map (Told.work D)).sum + w.router.pending.total (PendingEntry.work D)

/-! ## Rules of one frame -/

/-- A rule that sends one frame out at most. -/
def FlowMod.Single (mod : FlowMod) : Prop := ∀ dpid f, (applied dpid mod.actions f).length ≤ 1

/-- What waits came in by a port of a host. -/
def HostsWait (s : ZoneRouter) : Prop := ∀ ip entry, s.pending.get? ip = some entry →
  ∀ q ∈ entry.queue, isLeafUplink D.maps q.dpid q.port = false

/-- What holds in every state of the network: the tables are sound, what waits came in by a port of
a host, and the rules, there or on their way, send one frame out at most. -/
structure SiteSingle (w : Site) : Prop where
  router : RouterOk D w.router
  queue : HostsWait D w.router
  rules : ∀ r ∈ w.rules, r.mod.Single
  tells : ∀ t ∈ w.tells, ∀ mod, t.sent.message = .flowMod mod → mod.Single

variable {D} {s : ZoneRouter} {d p q : ℕ}

/-! ## How far frames go -/

/-- **A frame gets further** when it leaves a switch by another port than it came in by. -/
theorem rank_le_below {e : End ℕ ℕ String} (hfar : farEnd D.net d q = some e) (hne : q ≠ p) :
    rank D e ≤ below D d p := by
  cases e with
  | host name => exact Nat.zero_le _
  | switch d' p' =>
    rcases D.farEnd_eq_switch.mp hfar with ⟨rfl, hup, -⟩ | ⟨rfl, hup, -⟩
    · have huplink : isLeafUplink D.maps d p = false := by
        unfold isLeafUplink
        rw [hup]
        simpa using hne
      simp [rank, below, D.ne_core_of_uplink hup, huplink]
    · have huplink : isLeafUplink D.maps d' p' = true := by simp [isLeafUplink, hup]
      simp [rank, below, D.ne_core_of_uplink hup, huplink]

/-- A port that is no uplink leads down. -/
theorem rank_le_one {e : End ℕ ℕ String} (hfar : farEnd D.net d q = some e)
    (huplink : isLeafUplink D.maps d q = false) : rank D e ≤ 1 := by
  cases e with
  | host name => exact Nat.zero_le _
  | switch d' p' =>
    rcases D.farEnd_eq_switch.mp hfar with ⟨-, hup, -⟩ | ⟨-, hup, -⟩
    · simp [isLeafUplink, hup] at huplink
    · have huplink' : isLeafUplink D.maps d' p' = true := by simp [isLeafUplink, hup]
      simp [rank, below, D.ne_core_of_uplink hup, huplink']

theorem below_of_uplink (huplink : isLeafUplink D.maps d p = false) : 1 ≤ below D d p := by
  unfold below
  rw [huplink]
  split <;> simp

theorem rank_le_three (e : End ℕ ℕ String) : rank D e ≤ 3 := by
  cases e with
  | host name => exact Nat.zero_le _
  | switch d p =>
    simp only [rank, below]
    split
    · simp
    · split <;> simp

/-! ## Ports of a flood -/

theorem sum_map_le {α : Type*} {f : α → ℕ} {l : List α} {n : ℕ} (h : ∀ x ∈ l, f x ≤ n) :
    (l.map f).sum ≤ l.length * n := by
  have hsum := List.sum_le_card_nsmul (l.map f) n (by simpa using h)
  rwa [List.length_map, smul_eq_mul] at hsum

theorem length_zoneCorePorts_le (zone : Option String) :
    (zoneCorePorts D.maps zone).length ≤ fanOut D := by
  rw [zoneCorePorts_eq, List.length_map]
  refine (List.length_filter_le ..).trans ((Nat.le_of_eq ?_).trans (le_max_left ..))
  exact (List.length_map ..).symm

/-- A link has one port of a node at most. -/
theorem length_portsOf_le (node : String) : (portsOf node (buildNetwork D.net)).length ≤
    (buildNetwork D.net).length := by
  have hlink : ∀ l ∈ buildNetwork D.net, ((if l.node1 = node then l.port1.toList else []) ++
      if l.node2 = node then [l.port2] else []).length ≤ 1 := by
    intro l hl
    rcases mem_buildNetwork.mp hl with ⟨name, h, -, rfl⟩ | ⟨leaf, link, hlink, rfl⟩
    · rw [Option.toList_none, ite_self, List.nil_append]
      split <;> simp
    · have hne := (D.networkOk.switch_of_uplink (Dict.get?_eq_some_iff.mp hlink)).1
      by_cases hleaf : leaf = node
      · have hcore : D.net.core ≠ node := fun hcore => hne (hleaf.trans hcore.symm)
        simp [hleaf, hcore]
      · rw [if_neg hleaf, List.nil_append]
        split <;> simp
  rw [portsOf, List.length_flatMap]
  exact (sum_map_le hlink).trans (Nat.le_of_eq (Nat.mul_one _))

theorem length_floodTargets_le : (floodTargets D d p).length ≤ fanOut D := by
  unfold floodTargets
  split
  · exact (List.length_filter_le ..).trans (length_zoneCorePorts_le _)
  · unfold floodPorts wiredPorts
    refine (List.length_filter_le ..).trans ?_
    cases switchName D.net d with
    | none => exact Nat.zero_le _
    | some node => exact (length_portsOf_le node).trans (le_max_right ..)

/-! ## What frames and messages cause -/

theorem frameWork_succ (r : ℕ) :
    (fanOut D + 1) * (frameWork D r + 1) + 2 ≤ frameWork D (r + 1) := by
  cases r with
  | zero =>
    simp only [frameWork, downWork]
    omega
  | succ r =>
    simp only [frameWork]
    omega

theorem frameWork_mono : Monotone (frameWork D) := by
  refine monotone_nat_of_le_succ fun r => ?_
  have hpos : frameWork D r + 1 ≤ (fanOut D + 1) * (frameWork D r + 1) :=
    Nat.le_mul_of_pos_left _ (Nat.succ_pos _)
  have hsucc := frameWork_succ (D := D) r
  omega

/-- A frame that comes in by a port of a host also pays for what the controller does for it. -/
theorem hostWork_le {r : ℕ} (hr : 1 ≤ r) : hostWork D + 2 ≤ frameWork D (r + 1) := by
  obtain ⟨r, rfl⟩ := Nat.exists_eq_add_of_le' hr
  simp only [frameWork]
  omega

theorem frameWork_pos (r : ℕ) : 1 ≤ frameWork D r := frameWork_mono (Nat.zero_le r)

/-- What leaves by ports that lead to a rank at most. -/
theorem work_leaving_le {ports : List ℕ} {frame : Frame} {r : ℕ}
    (h : ∀ q ∈ ports, ∀ e, farEnd D.net d q = some e → rank D e ≤ r) :
    ((leaving D d ports frame).map (InFlight.work D)).sum ≤ ports.length * frameWork D r := by
  have hwork : ∀ x ∈ leaving D d ports frame, x.work D ≤ frameWork D r := by
    intro x hx
    obtain ⟨q, hq, hfar, -⟩ := mem_leaving.mp hx
    exact frameWork_mono (h q hq x.dest hfar)
  exact (sum_map_le hwork).trans (Nat.mul_le_mul_right _ (List.length_filterMap_le ..))

theorem work_leaving_of_ne {frame : Frame} (hne : q ≠ p) :
    ((leaving D d [q] frame).map (InFlight.work D)).sum ≤ frameWork D (below D d p) := by
  refine (work_leaving_le fun q' hq' e hfar => ?_).trans (Nat.le_of_eq (Nat.one_mul _))
  obtain rfl := List.mem_singleton.mp hq'
  exact rank_le_below hfar hne

/-- The actions of a rule send frames out of its switch. -/
theorem dpid_of_mem_applied {dpid : ℕ} {actions : List Action} {f : Frame} {dep : Departure}
    (hdep : dep ∈ applied dpid actions f) : dep.dpid = dpid := by
  induction actions generalizing f with
  | nil => cases hdep
  | cons a rest ih =>
    cases a with
    | setDlSrc mac => exact ih (f := { f with src := mac }) hdep
    | setDlDst mac => exact ih (f := { f with dst := mac }) hdep
    | output port =>
      rcases List.mem_cons.mp hdep with rfl | hdep
      · rfl
      · exact ih hdep
    | decTtl =>
      simp only [applied] at hdep
      split at hdep
      · split at hdep
        · cases hdep
        · exact ih hdep
      · exact ih hdep

/-- What a rule of one frame sends on. -/
theorem FlowMod.Single.work_out {r : Rule} (h : r.mod.Single) (frame : Frame) :
    ((r.out D d p frame).map (InFlight.work D)).sum ≤ frameWork D (below D d p) := by
  have hwork : ∀ x ∈ r.out D d p frame, x.work D ≤ frameWork D (below D d p) := by
    intro x hx
    obtain ⟨dep, hdep, hcarry⟩ := List.mem_filterMap.mp hx
    obtain ⟨hdep, hne⟩ := List.mem_filter.mp hdep
    obtain ⟨e, hfar, rfl⟩ := Option.map_eq_some_iff.mp hcarry
    rw [dpid_of_mem_applied hdep] at hfar
    exact frameWork_mono (rank_le_below hfar (of_decide_eq_true hne))
  have hlength : (r.out D d p frame).length ≤ 1 :=
    (List.length_filterMap_le ..).trans ((List.length_filter_le ..).trans (h d frame))
  exact (sum_map_le hwork).trans ((Nat.mul_le_mul_right _ hlength).trans
    (Nat.le_of_eq (Nat.one_mul _)))

/-- A frame that the controller builds comes down at once. -/
theorem work_packetOut {inPort : Option ℕ} {frame : OutFrame}
    (huplink : isLeafUplink D.maps d p = false) :
    (⟨inPort, ⟨d, .packetOut frame p⟩⟩ : Told).work D ≤ sentWork D := by
  have hdown : ((leaving D d [p] frame.sent).map (InFlight.work D)).sum ≤ frameWork D 1 := by
    refine (work_leaving_le fun q hq e hfar => ?_).trans (Nat.le_of_eq (Nat.one_mul _))
    obtain rfl := List.mem_singleton.mp hq
    exact rank_le_one hfar huplink
  rw [Told.work, out_packetOut]
  exact Nat.succ_le_succ hdown

theorem work_flowMod_of_none {inPort : Option ℕ} {mod : FlowMod} (h : mod.data = none) :
    (⟨inPort, ⟨d, .flowMod mod⟩⟩ : Told).work D = 1 := by
  rw [Told.work, out_flowMod_of_none h]
  rfl

/-! ## What a packet-in sends -/

section

variable {inPort : Option ℕ} {log log' : List Sent} {ev : PacketIn}

theorem logWork_append : logWork D inPort (log ++ log') =
    logWork D inPort log + logWork D inPort log' := by
  simp [logWork]

theorem logWork_singleton (m : Sent) :
    logWork D inPort [m] = (⟨inPort, m⟩ : Told).work D := by simp [logWork]

/-- Messages cause themselves, and what they make go under way. -/
theorem logWork_eq : logWork D inPort log = log.length +
    ((log.flatMap fun m => (⟨inPort, m⟩ : Told).out D).map (InFlight.work D)).sum := by
  induction log with
  | nil => rfl
  | cons m log ih =>
    have hcons : logWork D inPort (m :: log) =
        (⟨inPort, m⟩ : Told).work D + logWork D inPort log := List.sum_cons
    rw [hcons, ih, Told.work, List.flatMap_cons, List.map_append, List.sum_append,
      List.length_cons]
    omega

theorem logWork_floodSent_le : logWork D (some ev.port) (floodSent D ev) ≤
    (fanOut D + 1) * (frameWork D (below D ev.dpid ev.port) + 1) := by
  have hlength : (floodSent D ev).length ≤ fanOut D + 1 := by
    unfold floodSent
    split
    · have hone : ∀ port ∈ zoneCorePorts D.maps (D.maps.corePortZones.get? ev.port).join,
          (if port = ev.port then []
            else [(⟨ev.dpid, .packetOutData ev.packet port⟩ : Sent)]).length ≤ 1 := by
        intro port _
        split <;> simp
      rw [List.length_flatMap]
      refine (sum_map_le hone).trans ?_
      rw [Nat.mul_one]
      exact (length_zoneCorePorts_le _).trans (Nat.le_succ _)
    · simp
  have hout : ((leaving D ev.dpid (floodTargets D ev.dpid ev.port) ev.packet.resent).map
      (InFlight.work D)).sum ≤ fanOut D * frameWork D (below D ev.dpid ev.port) :=
    (work_leaving_le fun q hq e hfar => rank_le_below hfar (ne_of_mem_floodTargets hq)).trans
      (Nat.mul_le_mul_right _ length_floodTargets_le)
  rw [logWork_eq, out_floodSent, Nat.mul_succ, Nat.succ_mul]
  omega

theorem logWork_l2Sent_le : logWork D (some ev.port) (l2Sent D s ev) ≤
    (fanOut D + 1) * (frameWork D (below D ev.dpid ev.port) + 1) := by
  unfold l2Sent
  cases s.macPort ev.dpid ev.packet.dst with
  | none => exact logWork_floodSent_le
  | some port =>
    have hout : ((leaving D ev.dpid (if port = ev.port then [] else [port])
        ev.packet.resent).map (InFlight.work D)).sum ≤ frameWork D (below D ev.dpid ev.port) := by
      split
      · exact Nat.zero_le _
      · rename_i hne
        exact work_leaving_of_ne hne
    rw [logWork_singleton, Told.work, out_l2Mod]
    exact (Nat.succ_le_succ hout).trans (Nat.le_mul_of_pos_left _ (Nat.succ_pos _))

theorem logWork_probeSent_le (ip : IPAddr) (zone : String) :
    logWork D inPort (probeSent D s ip zone) ≤ fanOut D * sentWork D := by
  have hwork : ∀ m ∈ probeSent D s ip zone, (⟨inPort, m⟩ : Told).work D ≤ sentWork D := by
    intro m hm
    obtain ⟨-, port, -, rfl⟩ := mem_probeSent.mp hm
    exact work_packetOut (D.isLeafUplink_core port)
  have hlength : (probeSent D s ip zone).length ≤ fanOut D := by
    unfold probeSent
    split
    · rw [List.length_flatMap]
      refine (sum_map_le fun port _ => Nat.le_refl 1).trans ?_
      rw [Nat.mul_one]
      exact length_zoneCorePorts_le _
    · exact Nat.zero_le _
  exact (sum_map_le hwork).trans (Nat.mul_le_mul_right _ hlength)

/-- A packet is answered with one frame at most. -/
theorem logWork_errorSent_le {q : QueuedPacket} {type code : ℕ}
    (huplink : isLeafUplink D.maps q.dpid q.port = false) :
    logWork D inPort (errorSent D s q type code) ≤ sentWork D := by
  unfold errorSent
  split
  · cases zoneOfPort D.maps q.dpid q.port with
    | none => exact Nat.zero_le _
    | some zone =>
      rw [Option.map_some, Option.toList_some, logWork_singleton]
      exact work_packetOut huplink
  · exact Nat.zero_le _

theorem logWork_forwardSent_le {q : QueuedPacket} {dstZone : String} {outPort : ℕ}
    {mac : EthAddr} (huplink : isLeafUplink D.maps q.dpid q.port = false) :
    logWork D inPort (forwardSent D s q dstZone outPort mac) ≤ sentWork D := by
  unfold forwardSent
  split
  · exact logWork_errorSent_le huplink
  · split
    · rw [logWork_singleton]
      exact work_packetOut (D.isLeafUplink_core outPort)
    · exact Nat.zero_le _

theorem logWork_flatMap_le {α : Type*} {l : List α} {f : α → List Sent} {n : ℕ}
    (h : ∀ x ∈ l, logWork D inPort (f x) ≤ n) : logWork D inPort (l.flatMap f) ≤ l.length * n := by
  induction l with
  | nil => exact Nat.zero_le _
  | cons x l ih =>
    have hx := h x List.mem_cons_self
    have hl := ih fun y hy => h y (List.mem_cons_of_mem _ hy)
    rw [List.flatMap_cons, logWork_append, List.length_cons, Nat.succ_mul]
    omega

theorem logWork_routeFlowsSent_le {dstZone : String} {loc : Location} :
    logWork D inPort (routeFlowsSent D s ev dstZone loc) ≤ 2 := by
  have hwork : ∀ m ∈ routeFlowsSent D s ev dstZone loc, (⟨inPort, m⟩ : Told).work D ≤ 1 := by
    intro m hm
    obtain ⟨-, rfl | ⟨-, uplink, -, rfl⟩⟩ := mem_routeFlowsSent.mp hm
    · exact Nat.le_of_eq (work_flowMod_of_none rfl)
    · exact Nat.le_of_eq (work_flowMod_of_none rfl)
  have hlength : (routeFlowsSent D s ev dstZone loc).length ≤ 2 := by
    unfold routeFlowsSent
    split
    · split
      · simp
      · cases D.maps.leafUplinkPort.get? ev.dpid <;> simp
    · exact Nat.zero_le _
  exact (sum_map_le hwork).trans (by omega)

end

/-! ## What waits -/

/-- A packet that is queued pays for the probes of its entry. -/
theorem logWork_queueSent_le (inPort : Option ℕ) (q : QueuedPacket)
    (zone : String) : logWork D inPort (queueSent D s q.ip.dstip zone) +
        (s.enqueued q zone).pending.total (PendingEntry.work D) ≤
      s.pending.total (PendingEntry.work D) + hostWork D := by
  unfold queueSent ZoneRouter.enqueued
  cases hentry : s.pending.get? q.ip.dstip with
  | some entry =>
    have htotal := Dict.total_set_of_some hentry { entry with queue := entry.queue ++ [q] }
      (PendingEntry.work D)
    have hlog : logWork D inPort [] = 0 := rfl
    simp only [PendingEntry.work, List.length_append, List.length_singleton, Nat.succ_mul]
      at htotal
    simp only [Option.isNone_some, Bool.false_eq_true, if_false, hlog, hostWork]
    omega
  | none =>
    have htotal := Dict.total_set_of_none hentry ⟨zone, [q], 1, some s.nextTimer⟩
      (PendingEntry.work D)
    have hprobe : logWork D inPort (probeSent D s q.ip.dstip zone) ≤ fanOut D * sentWork D :=
      logWork_probeSent_le _ _
    simp only [PendingEntry.work, List.length_singleton, arpMaxRetries] at htotal
    simp only [Option.isNone_none, if_true, hostWork]
    omega

/-- An entry pays for a frame for each packet that waits. -/
theorem queue_lt_work (entry : PendingEntry) :
    entry.queue.length * sentWork D + 1 ≤ entry.work D := by
  unfold PendingEntry.work
  omega

/-- **A packet-in pays** for its messages, and for what it lets wait. -/
theorem Handled.pays {ev : PacketIn} {s' : ZoneRouter} {log : List Sent}
    (hqueue : HostsWait D s) (hstep : Handled D s ev s' log) :
    logWork D (some ev.port) log + s'.pending.total (PendingEntry.work D) + 2 ≤
      s.pending.total (PendingEntry.work D) +
        frameWork D (rank D (.switch ev.dpid ev.port)) := by
  have hrelay := frameWork_succ (D := D) (below D ev.dpid ev.port)
  have hhost : isLeafUplink D.maps ev.dpid ev.port = false →
      hostWork D + 2 ≤ frameWork D (below D ev.dpid ev.port + 1) := fun huplink =>
    hostWork_le (below_of_uplink huplink)
  have hnil : logWork D (some ev.port) [] = 0 := rfl
  have hflood : logWork D (some ev.port) (floodSent D ev) ≤
      (fanOut D + 1) * (frameWork D (below D ev.dpid ev.port) + 1) := logWork_floodSent_le
  rw [rank]
  cases hstep with
  | ignored | arpReply | ipUnrouted =>
    change logWork D (some ev.port) [] + s.pending.total (PendingEntry.work D) + 2 ≤ _
    omega
  | transit =>
    change logWork D (some ev.port) _ + s.pending.total (PendingEntry.work D) + 2 ≤ _
    split
    · omega
    · have hl2 : logWork D (some ev.port)
          (l2Sent D (s.setMac ev.dpid ev.packet.src ev.port) ev) ≤
          (fanOut D + 1) * (frameWork D (below D ev.dpid ev.port) + 1) := logWork_l2Sent_le
      omega
  | other => omega
  | arpOrdinary =>
    change logWork D (some ev.port) _ + s.pending.total (PendingEntry.work D) + 2 ≤ _
    omega
  | @ipSameZone p snd =>
    have hl2 : logWork D (some ev.port) (l2Sent D (s.learned D ev.dpid ev.port snd) ev) ≤
        (fanOut D + 1) * (frameWork D (below D ev.dpid ev.port) + 1) := logWork_l2Sent_le
    change logWork D (some ev.port) _ + s.pending.total (PendingEntry.work D) + 2 ≤ _
    omega
  | @arpRequest a snd hsender =>
    have huplink := (acceptedSender_eq_some hsender).2.1
    have hreply : logWork D (some ev.port) (replySent D ev a snd) ≤ sentWork D := by
      rw [replySent, logWork_singleton]
      exact work_packetOut huplink
    have hpaid := hhost huplink
    change logWork D (some ev.port) _ + s.pending.total (PendingEntry.work D) + 2 ≤ _
    simp only [hostWork] at hpaid
    omega
  | @arpResolve a snd entry timer corePort hsender _ _ _ hentry =>
    have hlog : logWork D (some ev.port) (entry.queue.flatMap fun q =>
        forwardSent D s q entry.zone corePort snd.mac) ≤ entry.queue.length * sentWork D :=
      logWork_flatMap_le fun q hq => logWork_forwardSent_le (hqueue _ _ hentry q hq)
    have htotal := Dict.total_erase hentry (PendingEntry.work D)
    have hentryWork := queue_lt_work (D := D) entry
    change logWork D (some ev.port) _ + (s.pending.erase snd.ip).total (PendingEntry.work D) + 2 ≤ _
    omega
  | ipBlocked hsender =>
    have hpaid := hhost (acceptedSender_eq_some hsender).2.1
    have hdrop : logWork D (some ev.port) [⟨ev.dpid, .flowMod (dropMod ev)⟩] = 1 := by
      rw [logWork_singleton, work_flowMod_of_none rfl]
    change logWork D (some ev.port) _ + s.pending.total (PendingEntry.work D) + 2 ≤ _
    simp only [hostWork] at hpaid
    omega
  | @ipForwarded p snd dstZone v loc hsender =>
    have huplink := (acceptedSender_eq_some hsender).2.1
    have hpaid := hhost huplink
    have hforward : logWork D (some ev.port)
        (forwardSent D s (ev.queued p) dstZone loc.corePort loc.mac) ≤ sentWork D :=
      logWork_forwardSent_le huplink
    have hflows : logWork D (some ev.port)
        (if 1 < p.ttl then routeFlowsSent D s ev dstZone loc else []) ≤ 2 := by
      split
      · exact logWork_routeFlowsSent_le
      · exact Nat.zero_le _
    change logWork D (some ev.port) _ + s.pending.total (PendingEntry.work D) + 2 ≤ _
    rw [logWork_append]
    simp only [hostWork] at hpaid
    omega
  | @ipQueued p snd dstZone v hsender =>
    have hpaid := hhost (acceptedSender_eq_some hsender).2.1
    have hqueued := logWork_queueSent_le (D := D)
      (s := (s.learned D ev.dpid ev.port snd).checked D ev p snd.zone dstZone) (some ev.port)
      (ev.queued p) dstZone
    change logWork D (some ev.port) (queueSent D s p.dstip dstZone) + _ ≤
      s.pending.total (PendingEntry.work D) + _ at hqueued
    omega

/-- A timer fires that runs. -/
def Event.fires (s : ZoneRouter) : Event → Bool
  | .retryTick timer => (s.timers.get? timer).isSome
  | _ => false

/-- A timer that fires is paid for by its entry. -/
theorem Stepped.pays {c : Event} {s' : ZoneRouter} {log : List Sent}
    (hqueue : HostsWait D s) (hstep : Stepped D s c s' log) (hc : ∀ ev, c ≠ .packetIn ev) :
    logWork D none log + s'.pending.total (PendingEntry.work D) +
        (if c.fires s then 1 else 0) ≤
      s.pending.total (PendingEntry.work D) := by
  have hnil : logWork D none [] = 0 := rfl
  cases hstep with
  | packetIn => exact absurd rfl (hc _)
  | connectionUp | connExpire =>
    change logWork D none [] + s.pending.total (PendingEntry.work D) + _ ≤ _
    simp [hnil, Event.fires]
  | cancelled htimer => simp [hnil, Event.fires, htimer]
  | @probed timer ip entry hip hentry htimer hretries =>
    have hprobe : logWork D none (probeSent D s ip entry.zone) ≤ fanOut D * sentWork D :=
      logWork_probeSent_le _ _
    have htotal := Dict.total_set_of_some hentry { entry with retries := entry.retries + 1 }
      (PendingEntry.work D)
    obtain ⟨left, hleft⟩ := Nat.exists_eq_add_of_lt hretries
    have hbefore : arpMaxRetries - entry.retries = left + 1 := by omega
    have hafter : arpMaxRetries - (entry.retries + 1) = left := by omega
    simp only [PendingEntry.work, hbefore, hafter, Nat.succ_mul] at htotal
    simp only [Event.fires, hip, Option.isSome_some, if_true]
    omega
  | @gaveUp timer ip entry hip hentry htimer hretries =>
    have hlog : logWork D none (entry.queue.flatMap fun q =>
        errorSent D s q icmpDestUnreach icmpCodeHostUnreach) ≤ entry.queue.length * sentWork D :=
      logWork_flatMap_le fun q hq => logWork_errorSent_le (hqueue _ _ hentry q hq)
    have htotal := Dict.total_erase hentry (PendingEntry.work D)
    have hentryWork := queue_lt_work (D := D) entry
    simp only [Event.fires, hip, Option.isSome_some, if_true]
    change logWork D none _ + (s.pending.erase ip).total (PendingEntry.work D) + 1 ≤ _
    omega

/-! ## What holds in every state -/

theorem HostsWait.congr {s' : ZoneRouter} (h : HostsWait D s) (hpending : s'.pending = s.pending) :
    HostsWait D s' := by
  unfold HostsWait
  rw [hpending]
  exact h

theorem HostsWait.removed (h : HostsWait D s) (ip : IPAddr) (timer : ℕ) :
    HostsWait D (s.removed ip timer) := fun ip' entry hentry =>
  h ip' entry (Dict.get?_erase_eq_some.mp hentry).2

theorem HostsWait.stepped (h : HostsWait D s) {c : Event} {s' : ZoneRouter} {log : List Sent}
    (hstep : Stepped D s c s' log) : HostsWait D s' := by
  cases hstep with
  | connectionUp | connExpire | cancelled => exact h
  | probed _ hentry =>
    intro ip entry' hentry' q hq
    rcases Dict.get?_set_eq_some.mp hentry' with ⟨rfl, rfl⟩ | ⟨-, hentry'⟩
    · exact h _ _ hentry q hq
    · exact h ip entry' hentry' q hq
  | gaveUp => exact h.removed _ _
  | packetIn hhandled =>
    cases hhandled with
    | ignored | other => exact h
    | transit | arpRequest | arpReply | arpOrdinary | ipUnrouted | ipSameZone | ipBlocked
    | ipForwarded => exact h.congr rfl
    | @arpResolve a snd entry timer => exact HostsWait.removed h snd.ip timer
    | ipQueued hsender =>
      intro ip entry hentry q hq
      rcases mem_queue_enqueued hentry hq with rfl | ⟨old, hold, hq⟩
      · exact (acceptedSender_eq_some hsender).2.1
      · exact h ip old hold q hq

/-- **The rules of the controller** send one frame out at most. -/
theorem Stepped.single {c : Event} {s' : ZoneRouter} {log : List Sent}
    (hstep : Stepped D s c s' log) {dpid : ℕ} {mod : FlowMod}
    (hm : ⟨dpid, .flowMod mod⟩ ∈ log) : mod.Single := by
  obtain ⟨ev, -, hhandled⟩ := hstep.packetIn_of_flowMod hm
  rcases hhandled.flowMod hm with ⟨-, ⟨outPort, rfl⟩, -⟩ | ⟨-, rfl, -⟩ |
    ⟨p, snd, dstZone, loc, -, -, -, hm⟩
  · exact fun _ _ => Nat.le_refl 1
  · exact fun _ _ => Nat.zero_le 1
  · rcases flowMod_of_mem_routeFlowsSent hm with ⟨-, rfl⟩ | ⟨-, -, uplink, -, rfl⟩
    · intro dpid f
      simp only [coreMod, applied]
      split
      · split <;> simp
      · simp
    · exact fun _ _ => Nat.le_refl 1

theorem siteSingle_init (fwClient : Bool) : SiteSingle D (.init fwClient) :=
  ⟨routerOk_init fwClient, nofun, List.forall_mem_nil _, List.forall_mem_nil _⟩

variable {w w' : Site} {e : SiteEvent} {out : List Report}

theorem SiteSingle.moved (h : SiteSingle D w) (hmoved : Moved D w e w' out) :
    SiteSingle D w' where
  router := hmoved.forall_router h.router fun c _ => h.router.step c
  queue := hmoved.forall_router h.queue fun c _ => h.queue.stepped (step_stepped h.router c)
  rules := hmoved.forall_rules (Q := fun _ mod => mod.Single) h.rules h.tells
  tells := hmoved.forall_tells h.tells fun c _ _ _ m hm mod hmod => by
    obtain ⟨dpid, message⟩ := m
    obtain rfl := hmod
    exact (step_stepped h.router c).single hm

/-! ## Every step is paid for -/

/-- A sum over a list, and what is taken out of it. -/
theorem sum_eraseIdx {α : Type*} {l : List α} {i : ℕ} {x : α} (h : l[i]? = some x) (f : α → ℕ) :
    ((l.eraseIdx i).map f).sum + f x = (l.map f).sum := by
  rw [((perm_of_getElem? h).map f).sum_eq, List.map_cons, List.sum_cons, Nat.add_comm]

theorem potential_controls (w : Site) (inPort : Option ℕ) (c : Event) :
    (w.controls D inPort c).potential D = (w.wires.map (InFlight.work D)).sum +
      (w.asks.map (Ask.work D)).sum + (w.tells.map (Told.work D)).sum +
        (logWork D inPort (step D w.router c).2 +
          (step D w.router c).1.pending.total (PendingEntry.work D)) := by
  have hlog : ((w.tells ++ (step D w.router c).2.map (Told.mk inPort)).map (Told.work D)).sum =
      (w.tells.map (Told.work D)).sum + logWork D inPort (step D w.router c).2 := by
    rw [List.map_append, List.sum_append, List.map_map]
    rfl
  simp only [Site.potential, Site.controls, hlog]
  omega

/-- **Every step is paid for**: by what is under way, or waits, or by a frame that a host sends. -/
theorem SiteSingle.pays (h : SiteSingle D w) (hmoved : Moved D w e w' out) :
    w'.potential D + w.work e ≤
      w.potential D + if e.sendsFrame then frameWork D 3 else 0 := by
  cases hmoved with
  | idle hheard _ harrives htold hdropped =>
    have hmoves : ¬ w.Moves e := by
      cases e with
      | sends | connects | sweeps => exact not_false
      | arrives i now => simp [Site.Moves, harrives i now rfl]
      | asked i firewall now =>
        simpa [Site.Moves, Site.heard] using hheard
      | told i now => simp [Site.Moves, htold i now rfl]
      | dropped i => simp [Site.Moves, hdropped i rfl]
      | ticks timer => cases hheard
    rw [Site.work, if_neg hmoves]
    exact Nat.le_add_right ..
  | @sent name dpid port frame hseat =>
    have hframe : (⟨.switch dpid port, frame⟩ : InFlight).work D ≤ frameWork D 3 :=
      frameWork_mono (rank_le_three _)
    have hwork : w.work (.sends name frame) = 0 := rfl
    simp only [Site.potential, hwork, SiteEvent.sendsFrame, List.map_append, List.sum_append,
      List.map_singleton, List.sum_singleton, if_true]
    omega
  | @received i now name frame hi =>
    have htaken := sum_eraseIdx hi (InFlight.work D)
    have hframe : (⟨.host name, frame⟩ : InFlight).work D = 1 := rfl
    simp only [Site.potential, Site.work, Site.Moves, hi, SiteEvent.sendsFrame, Option.isSome_some,
      if_true, Bool.false_eq_true, if_false]
    omega
  | @dropped i x hi =>
    have htaken := sum_eraseIdx hi (InFlight.work D)
    have hframe : 1 ≤ x.work D := frameWork_pos _
    simp only [Site.potential, Site.work, Site.Moves, hi, SiteEvent.sendsFrame, Option.isSome_some,
      if_true, Bool.false_eq_true, if_false]
    omega
  | @unheard i now dpid port frame hi =>
    have htaken := sum_eraseIdx hi (InFlight.work D)
    have hframe : 1 ≤ (⟨.switch dpid port, frame⟩ : InFlight).work D := frameWork_pos _
    simp only [Site.potential, Site.work, Site.Moves, hi, SiteEvent.sendsFrame, Option.isSome_some,
      if_true, Bool.false_eq_true, if_false]
    omega
  | @missed i now dpid port frame hi =>
    -- the packet-in causes one thing less than the frame that arrived
    have htaken := sum_eraseIdx hi (InFlight.work D)
    have hframe : (⟨dpid, port, frame⟩ : Ask).work D + 1 =
        (⟨.switch dpid port, frame⟩ : InFlight).work D := Nat.sub_add_cancel (frameWork_pos _)
    simp only [Site.potential, Site.work, Site.Moves, hi, SiteEvent.sendsFrame, Option.isSome_some,
      if_true, Bool.false_eq_true, if_false, List.map_append, List.sum_append, List.map_singleton,
      List.sum_singleton]
    omega
  | @passed i now dpid port frame r hi hlookup =>
    have htaken := sum_eraseIdx hi (InFlight.work D)
    have hout := (h.rules r (lookup_eq_some hlookup).1).work_out (D := D) (d := dpid) (p := port)
      frame
    have hframe : frameWork D (below D dpid port) + 1 ≤
        (⟨.switch dpid port, frame⟩ : InFlight).work D := by
      have hsucc := frameWork_succ (D := D) (below D dpid port)
      have hpos : frameWork D (below D dpid port) + 1 ≤
          (fanOut D + 1) * (frameWork D (below D dpid port) + 1) :=
        Nat.le_mul_of_pos_left _ (Nat.succ_pos _)
      change _ ≤ frameWork D (below D dpid port + 1)
      omega
    simp only [Site.potential, Site.work, Site.Moves, hi, SiteEvent.sendsFrame, Option.isSome_some,
      if_true, Bool.false_eq_true, if_false, List.map_append, List.sum_append]
    omega
  | @asked i firewall now x hi =>
    have htaken := sum_eraseIdx hi (Ask.work D)
    have hpays := (step_handled h.router
      ⟨x.dpid, x.port, x.frame, firewall, now⟩).pays h.queue
    have hask : x.work D + 1 = frameWork D (rank D (.switch x.dpid x.port)) :=
      Nat.sub_add_cancel (frameWork_pos _)
    rw [potential_controls]
    dsimp only at hpays ⊢
    simp only [Site.potential, Site.work, Site.Moves, hi, SiteEvent.sendsFrame, Option.isSome_some,
      if_true, Bool.false_eq_true, if_false]
    omega
  | @told i now t hi =>
    have htaken := sum_eraseIdx hi (Told.work D)
    have hwork : t.work D = ((t.out D).map (InFlight.work D)).sum + 1 := rfl
    simp only [Site.potential, Site.work, Site.Moves, hi, SiteEvent.sendsFrame, Option.isSome_some,
      if_true, Bool.false_eq_true, if_false, List.map_append, List.sum_append]
    omega
  | @controlled _ c hc =>
    have hpays := (step_stepped h.router c).pays h.queue fun ev hev =>
      SiteEvent.control?_ne_packetIn (hev ▸ hc)
    have hwork : w.work e = if c.fires w.router then 1 else 0 := by
      cases e <;> cases hc <;> rfl
    rw [potential_controls, hwork]
    simp only [Site.potential]
    omega

/-! ## Runs -/

theorem siteSingle_siteAfter (fwClient : Bool) (es : List SiteEvent) :
    SiteSingle D (siteAfter D fwClient es) :=
  Run.invariant (siteSingle_init fwClient) (fun w e h => h.moved (w.step_moved e)) es

/-- What can still happen after a run, and what has happened, is paid for by the frames that hosts
have sent. -/
theorem potential_siteAfter_le (fwClient : Bool) (es : List SiteEvent) :
    (siteAfter D fwClient es).potential D +
        Run.total (Site.step D) Site.work (.init fwClient) es ≤
      frameWork D 3 * es.countP SiteEvent.sendsFrame := by
  have hpaid := Run.total_le (Site.potential D) Site.work
    (fun _ e => if e.sendsFrame then frameWork D 3 else 0) (siteSingle_init (D := D) fwClient)
    (fun w e h => h.moved (w.step_moved e)) (fun w e h => h.pays (w.step_moved e)) es
  rw [Run.total_countP] at hpaid
  have hnothing : Site.potential D (.init fwClient) = 0 := rfl
  rwa [hnothing, Nat.zero_add] at hpaid

/-- **What happens in a run is bounded** by the number of frames that hosts send: no frame is sent
round in the network, and no question of the controller goes on forever. -/
theorem work_bounded (D : Deployment) (fwClient : Bool) (es : List SiteEvent) :
    Run.total (Site.step D) Site.work (.init fwClient) es ≤
      frameWork D 3 * es.countP SiteEvent.sendsFrame :=
  (Nat.le_add_left ..).trans (potential_siteAfter_le fwClient es)

/-- Where nothing can happen, nothing is under way, and every packet that waited was sent on or
answered. -/
theorem atRest_of_not_moves {w : Site} (h : RouterOk D w.router) (hnone : ∀ e, ¬ w.Moves e) :
    w.AtRest := by
  have hnil : ∀ {α : Type} {l : List α}, ¬ (l[0]?).isSome → l = [] := by
    intro α l hl
    simpa using hl
  refine ⟨hnil (hnone (.dropped 0)), hnil (hnone (.asked 0 none 0)), hnil (hnone (.told 0 0)),
    fun ip => ?_⟩
  cases hentry : w.router.pending.get? ip with
  | none => rfl
  | some entry =>
    obtain ⟨timer, -, hruns⟩ := (h.entry ip entry hentry).timer
    refine absurd ?_ (hnone (.ticks timer))
    simp [Site.Moves, hruns]

/-- **The network comes to rest.** Whatever has happened in a network, as long as something is under
way, or waits, something can happen; and if hosts send no more frames, then it happens no more often
than the frames allow that they have sent. -/
theorem comes_to_rest (D : Deployment) (fwClient : Bool) (es fs : List SiteEvent)
    (hmoves : Run.Always (Site.step D) Site.Moves (siteAfter D fwClient es) fs) :
    Run.total (Site.step D) Site.work (.init fwClient) es + fs.length ≤
        frameWork D 3 * es.countP SiteEvent.sendsFrame ∧
      ((siteAfter D fwClient (es ++ fs)).AtRest ∨
        ∃ e, (siteAfter D fwClient (es ++ fs)).Moves e) := by
  constructor
  · have hpaid := potential_siteAfter_le (D := D) fwClient (es ++ fs)
    have hlength : Run.total (Site.step D) Site.work (siteAfter D fwClient es) fs = fs.length :=
      hmoves.total_eq fun w e he => if_pos he
    have hsends : fs.countP SiteEvent.sendsFrame = 0 := hmoves.countP_eq_zero fun w e he => by
      cases e with
      | sends => exact absurd he not_false
      | _ => rfl
    rw [Run.total_append, ← siteAfter, hlength, List.countP_append, hsends, Nat.add_zero] at hpaid
    exact (Nat.le_add_left ..).trans hpaid
  · by_cases hnone : ∀ e, ¬ (siteAfter D fwClient (es ++ fs)).Moves e
    · exact .inl (atRest_of_not_moves (siteSingle_siteAfter fwClient _).router hnone)
    · obtain ⟨e, he⟩ := not_forall.mp hnone
      exact .inr ⟨e, not_not.mp he⟩

/-- A host opens a connection to the server, whose leaf is not there. -/
def serverAsked : List SiteEvent :=
  [.connects 1, .connects 6, .sends "h101" ⟨true, h101.mac, 0x020000000001,
    .ip (h101.tcp 1 hServer.ip 4000 80)⟩]

/-- The controller looks for the server three times, every probe is lost, and the host is told that
the server is unreachable. -/
def serverMissed : List SiteEvent :=
  [.arrives 0 0, .asked 0 none 0, .told 0 0, .dropped 0, .ticks 0, .told 0 0, .dropped 0,
    .ticks 0, .told 0 0, .dropped 0, .ticks 0, .told 0 0, .arrives 0 0]

theorem pending_serverMissed :
    (siteAfter deployment false (serverAsked ++ serverMissed)).router.pending = Dict.empty := by
  decide +kernel

/-- What happens until the host is told that the server is unreachable is less than its frame
allows, and then the network is at rest. -/
theorem comes_to_rest_h101 :
    (Run.total (Site.step deployment) Site.work (.init false) serverAsked + serverMissed.length ≤
        frameWork deployment 3 * serverAsked.countP SiteEvent.sendsFrame ∧
      ((siteAfter deployment false (serverAsked ++ serverMissed)).AtRest ∨
        ∃ e, (siteAfter deployment false (serverAsked ++ serverMissed)).Moves e)) ∧
    (siteAfter deployment false (serverAsked ++ serverMissed)).AtRest :=
  ⟨comes_to_rest deployment false serverAsked serverMissed (by decide +kernel),
    ⟨by decide +kernel, by decide +kernel, by decide +kernel, by simp [pending_serverMissed]⟩⟩

end ZoneSegmentation
