import ZoneSegmentation.Switch.Cabling
import ZoneSegmentation.Switch.Hop

/-!
# The network with its traffic

The hosts, the switches and the controller, with everything that is under way between them: frames
on the cables, packet-ins on their way to the controller, and messages on their way to the switches.
Each of these arrives at any time and in any order, and a cable may lose a frame. A switch handles a
frame by the first rule that takes it, and otherwise hands it to the controller; it never sends a
frame back out of the port it came in by.

## Main definitions

* `InFlight`, `Ask`, `Told`: a frame, a packet-in and a message under way
* `carry`, `Rule.out`, `Told.out`: what goes under way when a frame leaves a switch, when a rule
  takes a frame, and when a message arrives
* `Site`, `SiteEvent`, `Site.step`: the network, and what happens in it
* `siteAfter`, `reports`, `messages`, `heardIn`: a run of the network
* `Moved`: the ways the network can move

## Main results

* `Site.step_moved`: every step is one of these
* `Moved.forall_router`, `Moved.forall_wires`, `Moved.forall_asks`, `Moved.forall_rules`,
  `Moved.forall_tells`: what a step keeps of the tables, and of all that is under way
* `router_siteAfter`: the controller in the network is the controller after what it heard
-/

namespace ZoneSegmentation

open HostTree (End)

/-! ## What is under way -/

/-- An ICMP error as its receiver parses it. POX sends it with its own TTL and ToS. -/
def IcmpError.packet (e : IcmpError) : Ipv4 where
  uid := e.quoted.uid
  srcip := e.srcip
  dstip := e.dstip
  protocol := ipprotoIcmp
  tos := 0
  ttl := 64
  payload := .icmp e.type e.code 0
  payload_proto := icmp_payload_proto _ _ _

/-- What the content of a frame that left a switch is parsed as. -/
def parseContent : Content ⊕ ℕ → Body
  | .inl (.arp a) => .arp a
  | .inl (.ip p) => .ip p
  | .inl (.icmpError e) => .ip e.packet
  | .inr type => if type = Body.lldp.type then .lldp else .other type

/-- The frame that left a switch, as it is parsed where it arrives. -/
def Departure.frame (d : Departure) : Frame := ⟨true, d.src, d.dst, parseContent d.content⟩

/-- A frame on a cable, and the end that it goes to. -/
structure InFlight where
  dest : End ℕ ℕ String
  frame : Frame
  deriving DecidableEq

/-- A packet-in on its way to the controller. -/
structure Ask where
  dpid : ℕ
  port : ℕ
  frame : Frame
  deriving DecidableEq

/-- A message on its way to a switch, with the ingress port of the packet-in that it answers. -/
structure Told where
  inPort : Option ℕ
  sent : Sent
  deriving DecidableEq

variable (D : Deployment)

/-- A frame that leaves a switch goes under way if its port is plugged in. -/
def carry (d : Departure) : Option InFlight :=
  (farEnd D.net d.dpid d.port).map fun e => ⟨e, d.frame⟩

/-- The ports that a switch floods to: all that are plugged in, but for the ingress port. -/
def floodPorts (dpid : ℕ) (inPort : Option ℕ) : List ℕ :=
  (wiredPorts D.net dpid).filter fun p => some p ≠ inPort

/-- What a rule sends out of a switch for a frame that came in by a port. -/
def Rule.out (r : Rule) (dpid port : ℕ) (frame : Frame) : List InFlight :=
  ((applied dpid r.mod.actions frame).filter fun d => d.port ≠ port).filterMap (carry D)

/-- What a switch sends out at a message. The actions of a rule that comes with a frame do not send
it back out of its port; a packet-out of a single frame has no ingress port. -/
def Told.out (t : Told) : List InFlight :=
  match t.sent.message with
  | .flowMod _ =>
    ((t.sent.departures []).filter fun d => some d.port ≠ t.inPort).filterMap (carry D)
  | _ => (t.sent.departures (floodPorts D t.sent.dpid t.inPort)).filterMap (carry D)

/-! ## The network -/

/-- The controller, the rules of the switches, and what is under way. -/
structure Site where
  router : ZoneRouter
  rules : List Rule
  wires : List InFlight
  asks : List Ask
  tells : List Told

/-- What happens in the network. What is under way is named by its place. -/
inductive SiteEvent where
  | sends (name : String) (frame : Frame)
  /-- A frame arrives at the end of its cable. -/
  | arrives (i : ℕ) (now : ℚ)
  /-- The controller handles a packet-in; the firewall daemon may answer. -/
  | asked (i : ℕ) (firewall : Option (Bool × BitVec 8)) (now : ℚ)
  /-- A switch carries out a message. -/
  | told (i : ℕ) (now : ℚ)
  /-- A cable loses a frame. -/
  | dropped (i : ℕ)
  | connects (dpid : ℕ)
  | ticks (timer : ℕ)
  | sweeps (now : ℚ)
  deriving DecidableEq

/-- What becomes of a frame in the end: a host receives it, or it is lost on a cable, or at a switch
that the controller does not know. -/
inductive Report where
  | received (name : String) (frame : Frame)
  | lost (x : InFlight)
  deriving DecidableEq

namespace Site

/-- Nothing is under way. -/
def init (fwClient : Bool) : Site := ⟨.init fwClient, [], [], [], []⟩

/-- The controller handles an event; a packet-in came in by `inPort`. -/
def controls (w : Site) (inPort : Option ℕ) (e : Event) : Site :=
  { w with
    router := (ZoneSegmentation.step D w.router e).1
    tells := w.tells ++ (ZoneSegmentation.step D w.router e).2.map (Told.mk inPort) }

/-- A frame comes in by a port of a switch: a rule takes it, or it goes to the controller. -/
def enters (w : Site) (now : ℚ) (dpid port : ℕ) (frame : Frame) : Site × List Report :=
  match lookup w.rules now dpid port frame with
  | some r =>
    ({ w with
        rules := touch w.rules now dpid port frame
        wires := w.wires ++ r.out D dpid port frame }, [])
  | none =>
    if dpid ∈ w.router.connections then ({ w with asks := w.asks ++ [⟨dpid, port, frame⟩] }, [])
    else (w, [.lost ⟨.switch dpid port, frame⟩])

/-- One event of the network. -/
def step (w : Site) : SiteEvent → Site × List Report
  | .sends name frame =>
    match seat D.net name with
    | some (dpid, port) => ({ w with wires := w.wires ++ [⟨.switch dpid port, frame⟩] }, [])
    | none => (w, [])
  | .arrives i now =>
    match w.wires[i]? with
    | none => (w, [])
    | some ⟨.host name, frame⟩ => ({ w with wires := w.wires.eraseIdx i }, [.received name frame])
    | some ⟨.switch dpid port, frame⟩ =>
      enters D { w with wires := w.wires.eraseIdx i } now dpid port frame
  | .asked i firewall now =>
    match w.asks[i]? with
    | none => (w, [])
    | some x => (controls D { w with asks := w.asks.eraseIdx i } (some x.port)
        (.packetIn ⟨x.dpid, x.port, x.frame, firewall, now⟩), [])
  | .told i now =>
    match w.tells[i]? with
    | none => (w, [])
    | some t => ({ w with
        tells := w.tells.eraseIdx i
        rules := install now w.rules t.sent
        wires := w.wires ++ t.out D }, [])
  | .dropped i =>
    match w.wires[i]? with
    | none => (w, [])
    | some x => ({ w with wires := w.wires.eraseIdx i }, [.lost x])
  | .connects dpid => (controls D w none (.connectionUp dpid), [])
  | .ticks timer => (controls D w none (.retryTick timer), [])
  | .sweeps now => (controls D w none (.connExpire now), [])

end Site

/-- What the controller reacts to at an event of the network that is no packet-in. -/
def SiteEvent.control? : SiteEvent → Option Event
  | .connects dpid => some (.connectionUp dpid)
  | .ticks timer => some (.retryTick timer)
  | .sweeps now => some (.connExpire now)
  | _ => none

/-- What the controller reacts to at an event of the network. -/
def Site.heard (w : Site) : SiteEvent → Option Event
  | .asked i firewall now =>
    w.asks[i]?.map fun x => .packetIn ⟨x.dpid, x.port, x.frame, firewall, now⟩
  | e => e.control?

/-- The messages that the controller sends at an event of the network. -/
def Site.said (w : Site) (e : SiteEvent) : List Sent :=
  ((w.heard e).map fun c => (ZoneSegmentation.step D w.router c).2).getD []

/-- The network after a run, from a start with nothing under way. -/
def siteAfter (fwClient : Bool) (es : List SiteEvent) : Site :=
  Run.final (Site.step D) (.init fwClient) es

/-- What became of the frames of a run. -/
def reports (fwClient : Bool) (es : List SiteEvent) : List Report :=
  Run.trace (Site.step D) (.init fwClient) es

/-- The messages that the controller sent in a run. -/
def messages (fwClient : Bool) (es : List SiteEvent) : List Sent :=
  Run.observed (Site.step D) (Site.said D) (.init fwClient) es

/-- What the controller reacts to in a run. -/
def heardIn (fwClient : Bool) (es : List SiteEvent) : List Event :=
  Run.observed (Site.step D) (fun w e => (w.heard e).toList) (.init fwClient) es

/-! ## The ways it moves -/

/-- The ways the network can move. -/
inductive Moved (w : Site) : SiteEvent → Site → List Report → Prop
  /-- There is nothing at the place that an event names. -/
  | idle {e : SiteEvent} (hheard : w.heard e = none)
      (hsends : ∀ name frame, e = .sends name frame → seat D.net name = none)
      (harrives : ∀ i now, e = .arrives i now → w.wires[i]? = none)
      (htold : ∀ i now, e = .told i now → w.tells[i]? = none)
      (hdropped : ∀ i, e = .dropped i → w.wires[i]? = none) : Moved w e w []
  | sent {name : String} {dpid port : ℕ} (frame : Frame)
      (hseat : seat D.net name = some (dpid, port)) :
      Moved w (.sends name frame) { w with wires := w.wires ++ [⟨.switch dpid port, frame⟩] } []
  | received {i : ℕ} (now : ℚ) {name : String} {frame : Frame}
      (hi : w.wires[i]? = some ⟨.host name, frame⟩) :
      Moved w (.arrives i now) { w with wires := w.wires.eraseIdx i } [.received name frame]
  | passed {i : ℕ} {now : ℚ} {dpid port : ℕ} {frame : Frame} {r : Rule}
      (hi : w.wires[i]? = some ⟨.switch dpid port, frame⟩)
      (hlookup : lookup w.rules now dpid port frame = some r) :
      Moved w (.arrives i now)
        { w with
          rules := touch w.rules now dpid port frame
          wires := w.wires.eraseIdx i ++ r.out D dpid port frame } []
  | missed {i : ℕ} {now : ℚ} {dpid port : ℕ} {frame : Frame}
      (hi : w.wires[i]? = some ⟨.switch dpid port, frame⟩)
      (hlookup : lookup w.rules now dpid port frame = none)
      (hconn : dpid ∈ w.router.connections) :
      Moved w (.arrives i now)
        { w with wires := w.wires.eraseIdx i, asks := w.asks ++ [⟨dpid, port, frame⟩] } []
  | unheard {i : ℕ} {now : ℚ} {dpid port : ℕ} {frame : Frame}
      (hi : w.wires[i]? = some ⟨.switch dpid port, frame⟩)
      (hlookup : lookup w.rules now dpid port frame = none) :
      Moved w (.arrives i now) { w with wires := w.wires.eraseIdx i }
        [.lost ⟨.switch dpid port, frame⟩]
  | asked {i : ℕ} (firewall : Option (Bool × BitVec 8)) (now : ℚ) {x : Ask}
      (hi : w.asks[i]? = some x) :
      Moved w (.asked i firewall now)
        (Site.controls D { w with asks := w.asks.eraseIdx i } (some x.port)
          (.packetIn ⟨x.dpid, x.port, x.frame, firewall, now⟩)) []
  | told {i : ℕ} (now : ℚ) {t : Told} (hi : w.tells[i]? = some t) :
      Moved w (.told i now)
        { w with
          tells := w.tells.eraseIdx i
          rules := install now w.rules t.sent
          wires := w.wires ++ t.out D } []
  | dropped {i : ℕ} {x : InFlight} (hi : w.wires[i]? = some x) :
      Moved w (.dropped i) { w with wires := w.wires.eraseIdx i } [.lost x]
  | controlled {e : SiteEvent} {c : Event} (hc : e.control? = some c) :
      Moved w e (Site.controls D w none c) []

variable {D} {w : Site}

/-- **Every step of the network is one of these.** -/
theorem Site.step_moved (w : Site) (e : SiteEvent) :
    Moved D w e (w.step D e).1 (w.step D e).2 := by
  cases e with
  | sends name frame =>
    cases hseat : seat D.net name with
    | none =>
      simp only [Site.step, hseat]
      refine .idle rfl (fun name' frame' he => ?_) nofun nofun nofun
      cases he
      exact hseat
    | some place =>
      simp only [Site.step, hseat]
      exact .sent frame hseat
  | arrives i now =>
    cases hi : w.wires[i]? with
    | none =>
      simp only [Site.step, hi]
      refine .idle rfl nofun (fun i' now' he => ?_) nofun nofun
      cases he
      exact hi
    | some x =>
      obtain ⟨dest, frame⟩ := x
      cases dest with
      | host name =>
        simp only [Site.step, hi]
        exact .received now hi
      | switch dpid port =>
        simp only [Site.step, hi, Site.enters]
        cases hlookup : lookup w.rules now dpid port frame with
        | some r => exact .passed hi hlookup
        | none =>
          by_cases hconn : dpid ∈ w.router.connections
          · simp only [if_pos hconn]
            exact .missed hi hlookup hconn
          · simp only [if_neg hconn]
            exact .unheard hi hlookup
  | asked i firewall now =>
    cases hi : w.asks[i]? with
    | none =>
      simp only [Site.step, hi]
      exact .idle (by simp [Site.heard, hi]) nofun nofun nofun nofun
    | some x =>
      simp only [Site.step, hi]
      exact .asked firewall now hi
  | told i now =>
    cases hi : w.tells[i]? with
    | none =>
      simp only [Site.step, hi]
      refine .idle rfl nofun nofun (fun i' now' he => ?_) nofun
      cases he
      exact hi
    | some t =>
      simp only [Site.step, hi]
      exact .told now hi
  | dropped i =>
    cases hi : w.wires[i]? with
    | none =>
      simp only [Site.step, hi]
      refine .idle rfl nofun nofun nofun fun i' he => ?_
      cases he
      exact hi
    | some x =>
      simp only [Site.step, hi]
      exact .dropped hi
  | connects | ticks | sweeps => exact .controlled rfl

/-- Only a packet-in is one. -/
theorem SiteEvent.control?_ne_packetIn {e : SiteEvent} {ev : PacketIn} :
    e.control? ≠ some (.packetIn ev) := by
  cases e <;> simp [SiteEvent.control?]

/-- What the controller hears as a packet-in was on its way to it. -/
theorem Site.mem_asks_of_heard {e : SiteEvent} {ev : PacketIn}
    (h : w.heard e = some (.packetIn ev)) : ⟨ev.dpid, ev.port, ev.packet⟩ ∈ w.asks := by
  cases e with
  | asked i firewall now =>
    obtain ⟨a, hi, ha⟩ := Option.map_eq_some_iff.mp h
    cases ha
    exact List.mem_of_getElem? hi
  | sends | arrives | told | dropped | connects | ticks | sweeps => cases h

theorem Site.mem_said (w : Site) {e : SiteEvent} {m : Sent} : m ∈ w.said D e ↔
    ∃ c, w.heard e = some c ∧ m ∈ (ZoneSegmentation.step D w.router c).2 := by
  unfold Site.said
  cases w.heard e <;> simp

theorem SiteEvent.heard_eq {e : SiteEvent} {c : Event} (hc : e.control? = some c) :
    w.heard e = some c := by
  cases e <;> first | exact hc | cases hc

/-- A step of the network is one of the controller, if the controller hears something. -/
theorem Moved.router {e : SiteEvent} {w' : Site} {out : List Report} (hmoved : Moved D w e w' out) :
    w'.router = Run.final (ZoneSegmentation.step D) w.router (w.heard e).toList := by
  cases hmoved with
  | idle hheard => rw [hheard]; rfl
  | asked firewall now hi =>
    rw [Site.heard, hi]
    rfl
  | controlled hc =>
    rw [SiteEvent.heard_eq hc]
    rfl
  | _ => rfl

/-- A packet-in in a sound state is handled in one of the ways of `Handled`. -/
theorem step_handled {s : ZoneRouter} (h : RouterOk D s) (ev : PacketIn) :
    Handled D s ev (ZoneSegmentation.step D s (.packetIn ev)).1
      (ZoneSegmentation.step D s (.packetIn ev)).2 := by
  have hstep := step_stepped h (.packetIn ev)
  generalize (ZoneSegmentation.step D s (.packetIn ev)).1 = s',
    (ZoneSegmentation.step D s (.packetIn ev)).2 = log at hstep ⊢
  cases hstep with
  | packetIn hhandled => exact hhandled

/-- **The controller in the network** is the controller after what it heard. -/
theorem router_siteAfter (fwClient : Bool) (es : List SiteEvent) :
    (siteAfter D fwClient es).router = stateAfter D fwClient (heardIn D fwClient es) :=
  Run.view_final Site.router trivial (fun _ _ _ => trivial)
    (fun w e (_ : True) => (w.step_moved e).router) es

/-- The answer of the firewall is the one that the event says. -/
theorem exists_asked_of_heardIn {fwClient : Bool} {es : List SiteEvent} {ev : PacketIn}
    (h : .packetIn ev ∈ heardIn D fwClient es) : ∃ i, .asked i ev.firewall ev.now ∈ es := by
  obtain ⟨past, e, rest, rfl, he⟩ := Run.mem_observed_iff.mp h
  have he := Option.mem_toList.mp he
  cases e with
  | asked i firewall now =>
    obtain ⟨a, -, ha⟩ := Option.map_eq_some_iff.mp he
    cases ha
    exact ⟨i, List.mem_append_right _ List.mem_cons_self⟩
  | sends | arrives | told | dropped | connects | ticks | sweeps => cases he

/-! ## What goes under way -/

variable (D) in
/-- A frame that leaves a switch by some ports. -/
def leaving (dpid : ℕ) (ports : List ℕ) (frame : Frame) : List InFlight :=
  ports.filterMap fun port => (farEnd D.net dpid port).map fun e => ⟨e, frame⟩

/-- A received frame that is sent on, as it is parsed where it arrives. -/
def Frame.resent (f : Frame) : Frame := ⟨true, f.src, f.dst, parseContent f.body.content⟩

/-- A frame that the controller built, as it is parsed where it arrives. -/
def OutFrame.sent (f : OutFrame) : Frame := ⟨true, f.src, f.dst, parseContent (.inl f.content)⟩

/-- A frame that is sent on claims what it claimed, and carries the same packet. -/
theorem claim_resent (f : Frame) : f.resent.claim = f.claim := by
  obtain ⟨parsed, src, dst, body⟩ := f
  cases body with
  | other t =>
    by_cases ht : t = Body.lldp.type <;>
      simp [Frame.resent, Frame.claim, Body.content, parseContent, ht]
  | _ => rfl

theorem resent_resent (f : Frame) : f.resent.resent = f.resent := by
  obtain ⟨parsed, src, dst, body⟩ := f
  cases body with
  | other t =>
    by_cases ht : t = Body.lldp.type <;> simp [Frame.resent, Body.content, parseContent, ht]
  | _ => rfl

/-- What the controller built is sent on as it arrived. -/
theorem OutFrame.resent_sent (f : OutFrame) : f.sent.resent = f.sent := by
  obtain ⟨src, dst, content⟩ := f
  cases content <;> rfl

theorem body_resent {f : Frame} {p : Ipv4} (h : f.body = .ip p) : f.resent.body = .ip p := by
  simp only [Frame.resent, h]
  rfl

theorem body_of_resent {f : Frame} {p : Ipv4} (h : f.resent.body = .ip p) : f.body = .ip p := by
  obtain ⟨parsed, src, dst, body⟩ := f
  cases body with
  | other t =>
    by_cases ht : t = Body.lldp.type <;>
      simp [Frame.resent, Body.content, parseContent, ht] at h
  | ip p' => exact h
  | _ => cases h

variable (D) in
/-- The ports that `_flood_in_zone` sends a frame to: at the core those of the zone of its port, at
a leaf all. -/
def floodTargets (dpid port : ℕ) : List ℕ :=
  if dpid = D.maps.coreDpid then
    (zoneCorePorts D.maps (D.maps.corePortZones.get? port).join).filter fun p => p ≠ port
  else floodPorts D dpid (some port)

section

variable {inPort : Option ℕ} {dpid port : ℕ} {ev : PacketIn}

theorem mem_leaving {ports : List ℕ} {frame : Frame} {x : InFlight} :
    x ∈ leaving D dpid ports frame ↔
      ∃ port ∈ ports, farEnd D.net dpid port = some x.dest ∧ x.frame = frame := by
  simp only [leaving, List.mem_filterMap, Option.map_eq_some_iff]
  constructor
  · rintro ⟨port, hport, e, hfar, rfl⟩
    exact ⟨port, hport, hfar, rfl⟩
  · rintro ⟨port, hport, hfar, rfl⟩
    exact ⟨port, hport, _, hfar, rfl⟩

@[simp] theorem leaving_nil (frame : Frame) : leaving D dpid [] frame = [] := rfl

theorem leaving_cons (port : ℕ) (ports : List ℕ) (frame : Frame) :
    leaving D dpid (port :: ports) frame =
      leaving D dpid [port] frame ++ leaving D dpid ports frame := by
  unfold leaving
  rw [← List.filterMap_append]
  rfl

theorem leaving_of_forall_port {ports : List ℕ} {frame : Frame} {Q : InFlight → Prop}
    (h : ∀ port ∈ ports, ∀ x ∈ leaving D dpid [port] frame, Q x) :
    ∀ x ∈ leaving D dpid ports frame, Q x := by
  intro x hx
  obtain ⟨port, hport, hfar⟩ := mem_leaving.mp hx
  exact h port hport x (mem_leaving.mpr ⟨port, List.mem_singleton_self port, hfar⟩)

theorem out_packetOut (frame : OutFrame) :
    (⟨inPort, ⟨dpid, .packetOut frame port⟩⟩ : Told).out D = leaving D dpid [port] frame.sent := by
  simp only [Told.out, Sent.departures, leaving, List.filterMap_cons, List.filterMap_nil, carry]
  rfl

theorem out_packetOutData (data : Frame) :
    (⟨inPort, ⟨dpid, .packetOutData data port⟩⟩ : Told).out D =
      leaving D dpid [port] data.resent := by
  simp only [Told.out, Sent.departures, leaving, List.filterMap_cons, List.filterMap_nil, carry]
  rfl

theorem out_packetOutFlood (data : Frame) :
    (⟨inPort, ⟨dpid, .packetOutFlood data⟩⟩ : Told).out D =
      leaving D dpid (floodPorts D dpid inPort) data.resent := by
  simp only [Told.out, Sent.departures, leaving, List.filterMap_map]
  rfl

/-- A rule that answers no packet-in sends nothing out. -/
theorem out_flowMod_of_none {mod : FlowMod} (h : mod.data = none) :
    (⟨inPort, ⟨dpid, .flowMod mod⟩⟩ : Told).out D = [] := by
  simp [Told.out, Sent.departures, h]

/-- A rule of layer 2 sends its frame on, unless it leads back to where the frame came from. -/
theorem out_l2Mod : (⟨some ev.port, ⟨dpid, .flowMod (l2Mod ev port)⟩⟩ : Told).out D =
    leaving D dpid (if port = ev.port then [] else [port]) ev.packet.resent := by
  simp only [Told.out, Sent.departures, l2Mod, applied]
  by_cases hback : port = ev.port
  · simp [hback, Frame.leaves]
  · simp only [Frame.leaves, ne_eq, Option.some.injEq, hback, not_false_eq_true, decide_true,
      List.filter_cons_of_pos, List.filter_nil, List.filterMap_cons, List.filterMap_nil, if_false,
      leaving, carry]
    rfl

/-- A rule that only sends frames on, unless it leads back to where a frame came from. -/
theorem out_output {r : Rule} {q : ℕ} (hactions : r.mod.actions = [.output q]) (f : Frame) :
    r.out D dpid port f = leaving D dpid (if q = port then [] else [q]) f.resent := by
  by_cases hback : q = port
  · simp [Rule.out, hactions, applied, Frame.leaves, hback]
  · simp only [Rule.out, hactions, applied, Frame.leaves, ne_eq, hback, not_false_eq_true,
      decide_true, List.filter_cons_of_pos, List.filter_nil, List.filterMap_cons,
      List.filterMap_nil, if_false, leaving, carry]
    rfl

theorem ne_of_mem_floodTargets {q : ℕ} (hq : q ∈ floodTargets D dpid port) : q ≠ port := by
  unfold floodTargets floodPorts at hq
  split at hq
  · simpa using (List.mem_filter.mp hq).2
  · simpa using (List.mem_filter.mp hq).2

/-- A flood stays in the zone of the port it came in by. -/
theorem zoneOfPort_of_mem_floodTargets {q : ℕ} (hq : q ∈ floodTargets D dpid port) :
    zoneOfPort D.maps dpid q = zoneOfPort D.maps dpid port := by
  unfold floodTargets at hq
  split at hq
  · rename_i hcore
    have hq := mem_zoneCorePorts.mp (List.mem_filter.mp hq).1
    rw [zoneOfPort, if_pos hcore, hq, zoneOfPort, if_pos hcore]
    rfl
  · rename_i hleaf
    exact D.zoneOfPort_of_leaf hleaf

/-- What goes under way when a switch carries out a flood. -/
theorem out_floodSent : ((floodSent D ev).flatMap fun m => (⟨some ev.port, m⟩ : Told).out D) =
    leaving D ev.dpid (floodTargets D ev.dpid ev.port) ev.packet.resent := by
  unfold floodSent floodTargets
  by_cases hcore : ev.dpid = D.maps.coreDpid
  · rw [if_pos hcore, if_pos hcore]
    induction zoneCorePorts D.maps (D.maps.corePortZones.get? ev.port).join with
    | nil => rfl
    | cons port ports ih =>
      rw [List.flatMap_cons, List.flatMap_append, ih]
      by_cases hback : port = ev.port
      · simp [hback]
      · rw [if_neg hback, List.filter_cons_of_pos (by simpa using hback), leaving_cons,
          List.flatMap_singleton, out_packetOutData]
  · rw [if_neg hcore, if_neg hcore, List.flatMap_singleton, out_packetOutFlood]

theorem forall_out_floodSent {Q : InFlight → Prop}
    (h : ∀ q ∈ floodTargets D ev.dpid ev.port,
      ∀ x ∈ leaving D ev.dpid [q] ev.packet.resent, Q x) {m : Sent} (hm : m ∈ floodSent D ev) :
    ∀ x ∈ (⟨some ev.port, m⟩ : Told).out D, Q x := by
  intro x hx
  have hx : x ∈ (floodSent D ev).flatMap fun m => (⟨some ev.port, m⟩ : Told).out D :=
    List.mem_flatMap.mpr ⟨m, hm, hx⟩
  rw [out_floodSent] at hx
  exact leaving_of_forall_port h x hx

end

/-- What a step lets a host receive was on its cable. -/
theorem mem_wires_of_received {w : Site} {e : SiteEvent} {name : String} {f : Frame}
    (h : .received name f ∈ (w.step D e).2) : ⟨.host name, f⟩ ∈ w.wires := by
  have hmoved := w.step_moved (D := D) e
  generalize (w.step D e).1 = w', (w.step D e).2 = out at h hmoved
  cases hmoved with
  | received now hi =>
    obtain ⟨rfl, rfl⟩ := Report.received.inj (List.mem_singleton.mp h)
    exact List.mem_of_getElem? hi
  | unheard | dropped => cases List.mem_singleton.mp h
  | idle | sent | passed | missed | asked | told | controlled => cases h

/-! ## What holds of all that is under way -/

section

variable {e : SiteEvent} {w' : Site} {out : List Report}

/-- What the controller keeps, whatever it hears. -/
theorem Moved.forall_router (hmoved : Moved D w e w' out) {I : ZoneRouter → Prop} (h : I w.router)
    (hheard : ∀ c, w.heard e = some c → I (ZoneSegmentation.step D w.router c).1) :
    I w'.router := by
  rw [hmoved.router]
  cases hc : w.heard e with
  | none => exact h
  | some c => exact hheard c hc

/-- The frames on the cables: those that were there, those that hosts send, and those that rules and
messages send on. -/
theorem Moved.forall_wires (hmoved : Moved D w e w' out) {Q : InFlight → Prop}
    (hwires : ∀ x ∈ w.wires, Q x)
    (hsends : ∀ name frame dpid port, e = .sends name frame →
      seat D.net name = some (dpid, port) → Q ⟨.switch dpid port, frame⟩)
    (hrules : ∀ r ∈ w.rules, ∀ now dpid port frame, r.Takes now dpid port frame →
      Q ⟨.switch dpid port, frame⟩ → ∀ x ∈ r.out D dpid port frame, Q x)
    (htells : ∀ t ∈ w.tells, ∀ x ∈ t.out D, Q x) : ∀ x ∈ w'.wires, Q x := by
  have herase : ∀ i, ∀ x ∈ w.wires.eraseIdx i, Q x := fun i x hx =>
    hwires x (List.mem_of_mem_eraseIdx hx)
  cases hmoved with
  | idle | asked | controlled => exact hwires
  | sent frame hseat =>
    exact List.forall_mem_append.mpr ⟨hwires, List.forall_mem_singleton.mpr
      (hsends _ _ _ _ rfl hseat)⟩
  | received | missed | unheard | dropped => exact herase _
  | passed hi hlookup =>
    obtain ⟨hr, htakes⟩ := lookup_eq_some hlookup
    exact List.forall_mem_append.mpr
      ⟨herase _, hrules _ hr _ _ _ _ htakes (hwires _ (List.mem_of_getElem? hi))⟩
  | told now hi =>
    exact List.forall_mem_append.mpr ⟨hwires, htells _ (List.mem_of_getElem? hi)⟩

/-- The frames of the packet-ins come from the cables. -/
theorem Moved.forall_asks (hmoved : Moved D w e w' out) {Q : InFlight → Prop}
    (hwires : ∀ x ∈ w.wires, Q x) (hasks : ∀ a ∈ w.asks, Q ⟨.switch a.dpid a.port, a.frame⟩) :
    ∀ a ∈ w'.asks, Q ⟨.switch a.dpid a.port, a.frame⟩ := by
  cases hmoved with
  | missed hi =>
    exact List.forall_mem_append.mpr ⟨hasks, List.forall_mem_singleton.mpr
      (hwires _ (List.mem_of_getElem? hi))⟩
  | asked => exact fun a ha => hasks a (List.mem_of_mem_eraseIdx ha)
  | _ => exact hasks

/-- The rules come from the messages. -/
theorem Moved.forall_rules (hmoved : Moved D w e w' out) {Q : ℕ → FlowMod → Prop}
    (hrules : ∀ r ∈ w.rules, Q r.dpid r.mod)
    (htells : ∀ t ∈ w.tells, ∀ mod, t.sent.message = .flowMod mod → Q t.sent.dpid mod) :
    ∀ r ∈ w'.rules, Q r.dpid r.mod := by
  cases hmoved with
  | passed => exact forall_mem_touch hrules _ _ _ _
  | told now hi =>
    intro r hr
    rcases mem_install hr with hr | ⟨hsent, -⟩
    · exact hrules r hr
    · have hrule := htells _ (List.mem_of_getElem? hi) r.mod (by rw [hsent])
      rw [hsent] at hrule
      exact hrule
  | _ => exact hrules

/-- The messages on their way come from the controller. -/
theorem Moved.forall_tells (hmoved : Moved D w e w' out) {Q : Told → Prop}
    (htells : ∀ t ∈ w.tells, Q t)
    (hsaid : ∀ c inPort, w.heard e = some c → (∀ ev, c = .packetIn ev → inPort = some ev.port) →
      ∀ m ∈ (ZoneSegmentation.step D w.router c).2, Q ⟨inPort, m⟩) : ∀ t ∈ w'.tells, Q t := by
  cases hmoved with
  | asked firewall now hi =>
    refine List.forall_mem_append.mpr ⟨htells, List.forall_mem_map.mpr (hsaid _ _ ?_ ?_)⟩
    · rw [Site.heard, hi]
      rfl
    · rintro ev ⟨⟩
      rfl
  | controlled hc =>
    exact List.forall_mem_append.mpr ⟨htells, List.forall_mem_map.mpr
      (hsaid _ _ (SiteEvent.heard_eq hc) fun ev hev => absurd (hev ▸ hc)
        SiteEvent.control?_ne_packetIn)⟩
  | told => exact fun t ht => htells t (List.mem_of_mem_eraseIdx ht)
  | _ => exact htells

end

/-! ## Counting -/

/-- What is at a place of a list, and the rest of it. -/
theorem perm_of_getElem? {α : Type*} {l : List α} {i : ℕ} {x : α} (h : l[i]? = some x) :
    l.Perm (x :: l.eraseIdx i) := by
  obtain ⟨hi, rfl⟩ := List.getElem?_eq_some_iff.mp h
  exact (List.getElem_cons_eraseIdx_perm hi).symm

/-- A count, and what is taken out of a list. -/
theorem countP_eraseIdx {α : Type*} {l : List α} {i : ℕ} {x : α} (h : l[i]? = some x)
    (p : α → Bool) : (l.eraseIdx i).countP p + (if p x then 1 else 0) = l.countP p := by
  rw [(perm_of_getElem? h).countP_eq p, List.countP_cons]

end ZoneSegmentation
