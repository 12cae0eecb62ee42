import ZoneSegmentation.Controller.Confinement
import ZoneSegmentation.Switch.Copies

/-!
# Where hosts are

While hosts send only in their own name, what the controller learns about them is right: every port
that it learns a host's MAC address at leads toward the host, and every location is that of the host
with the address. A frame is on the side of its sender wherever it comes to, and a frame of a
gateway comes down to the leaf of the host that it is for, which knows the host; so no other host
receives it. This holds whatever is under way, and in whatever order it arrives.

## Main definitions

* `HostMacs`, `HostMacs.Honest`: the MAC addresses of the hosts, and the frames sent in a host's
  name
* `HostMacs.Knows`, `HostMacs.Behind`: a host's switch has learned its port, a host is behind a port
* `Placed`: a frame under way is where it should be
* `Located`, `RuleLocated`, `ToldLocated`: sound tables, rules and messages
* `SiteLocated`: what holds in every state of the network

## Main results

* `Handled.located`: what a packet-in keeps
* `learned_locations_right`: what the controller has learned about hosts is right
* `gateway_frames_addressed`: a host receives from gateways only what is for it
-/

namespace ZoneSegmentation

open HostTree (End)
open OfpMatch

/-- The IPv4 address of a host. -/
def hostIp (net : Network) (name : String) : Option IPAddr :=
  (net.hosts.get? name).bind fun h => ipv4? h.ip

/-- The MAC addresses of the hosts, as `autoSetMacs` sets them: each host has its own, and none has
a gateway's. -/
structure HostMacs (D : Deployment) where
  mac : String → EthAddr
  inj : ∀ name ∈ D.net.hosts.keys, ∀ name' ∈ D.net.hosts.keys, mac name = mac name' → name = name'
  unicast : ∀ name ∈ D.net.hosts.keys, isMulticast (mac name) = false
  not_gateway : ∀ name ∈ D.net.hosts.keys, ∀ zone ∈ D.policy.zones.keys,
    mac name ≠ gatewayMac D zone

variable {D : Deployment} (A : HostMacs D) (s : ZoneRouter)

namespace HostMacs

/-- A frame that is sent in a host's name: it has the host's MAC address, and claims no other
address than the host's. -/
structure Honest (name : String) (f : Frame) : Prop where
  src : f.src = A.mac name
  claim : ∀ ip mac, f.claim = some (ip, mac) → mac = A.mac name ∧ hostIp D.net name = some ip

/-- The switch of a host has learned the host's port. -/
def Knows (name : String) : Prop :=
  ∃ d p, seat D.net name = some (d, p) ∧ s.macPort d (A.mac name) = some p

/-- A host with these addresses is behind a port, and its switch has learned its port. -/
structure Behind (dpid port : ℕ) (mac : EthAddr) (ip : IPAddr) (name : String) : Prop where
  host : name ∈ D.net.hosts.keys
  mac_eq : mac = A.mac name
  ip_eq : hostIp D.net name = some ip
  toward_eq : toward D dpid name = some port
  not_uplink : isLeafUplink D.maps dpid port = false
  known : A.Knows s name

/-- A frame for a host that its switch knows. -/
structure Addressed (name : String) (f : Frame) : Prop where
  host : name ∈ D.net.hosts.keys
  dst : f.dst = A.mac name
  dstip : ∀ p, f.body = .ip p → hostIp D.net name = some p.dstip
  known : A.Knows s name

end HostMacs

/-- A frame under way is where it should be. -/
inductive Placed (x : InFlight) : Prop where
  /-- A host's frame is on the host's side. Once it has left the host's switch with a claim, that
  switch has learned the host's port. -/
  | own {name : String} (host : name ∈ D.net.hosts.keys) (honest : A.Honest name x.frame)
      (side : ∀ d p, x.dest = .switch d p → toward D d name = some p)
      (known : ∀ d p, x.dest = .switch d p → x.frame.claim ≠ none →
        (seat D.net name).map Prod.fst ≠ some d → A.Knows s name)
  /-- A frame of a gateway comes down, to the host that it is for. -/
  | gateway {zone : String} (hzone : zone ∈ D.policy.zones.keys)
      (src : x.frame.src = gatewayMac D zone)
      (down : ∀ d p, x.dest = .switch d p → isLeafUplink D.maps d p = true)
      (unicast : isMulticast x.frame.dst = false →
        ∃ name, A.Addressed s name x.frame ∧ DownTo D name x.dest)

/-- What the controller has learned about hosts is right. -/
structure Located : Prop where
  mac : ∀ d p, ∀ name ∈ D.net.hosts.keys, s.macPort d (A.mac name) = some p →
    toward D d name = some p
  location : ∀ ip loc, s.ipToLoc.get? ip = some loc →
    ∃ name, A.Behind s D.maps.coreDpid loc.corePort loc.mac ip name
  queue : ∀ ip entry, s.pending.get? ip = some entry → ∀ q ∈ entry.queue,
    ∃ name, A.Behind s q.dpid q.port q.packet.src q.ip.srcip name

/-- A rule of a switch drops; or it sends on what comes in by the port it was made at, from a sender
whose switch knows it, or down toward its addressee; or it is a route of the core to a host. -/
inductive RuleLocated (dpid : ℕ) (mod : FlowMod) : Prop where
  | drop (hactions : mod.actions = [])
  | relay {packet : Frame} {port q : ℕ} (hmatch : mod.ofpMatch = fromPacket packet port)
      (hactions : mod.actions = [.output q])
      (hsender : isLeafUplink D.maps dpid port = false →
        ∀ name ∈ D.net.hosts.keys, packet.src = A.mac name → A.Knows s name)
      (hdown : isLeafUplink D.maps dpid port = true →
        ∀ name ∈ D.net.hosts.keys, packet.dst = A.mac name → toward D dpid name = some q)
  | route {packet : Frame} {p : Ipv4} {port : ℕ} {inPort : Option ℕ} {zone : String}
      {loc : Location} {name : String} (hdpid : dpid = D.maps.coreDpid)
      (hbody : packet.body = .ip p)
      (hmatch : mod.ofpMatch = { fromPacket packet port with inPort })
      (hzone : zone ∈ D.policy.zones.keys)
      (hactions : mod.actions =
        [.setDlSrc (gatewayMac D zone), .setDlDst loc.mac, .decTtl, .output loc.corePort])
      (hbehind : A.Behind s D.maps.coreDpid loc.corePort loc.mac p.dstip name)

/-- What a message makes go under way is placed, and so is what its rule will. -/
structure ToldLocated (t : Told) : Prop where
  out : ∀ x ∈ t.out D, Placed A s x
  rule : ∀ mod, t.sent.message = .flowMod mod → RuleLocated A s t.sent.dpid mod

/-- What holds in every state of the network while hosts send in their own name. -/
structure SiteLocated (w : Site) : Prop where
  router : RouterOk D w.router
  located : Located A w.router
  wires : ∀ x ∈ w.wires, Placed A w.router x
  asks : ∀ a ∈ w.asks, Placed A w.router ⟨.switch a.dpid a.port, a.frame⟩
  rules : ∀ r ∈ w.rules, RuleLocated A w.router r.dpid r.mod
  tells : ∀ t ∈ w.tells, ToldLocated A w.router t

variable {A s} {s' : ZoneRouter} {name : String} {d p q : ℕ} {f : Frame}

/-! ## What is kept when more is known -/

/-- Whoever is known stays known. -/
def HostMacs.StaysKnown (A : HostMacs D) (s s' : ZoneRouter) : Prop :=
  ∀ name ∈ D.net.hosts.keys, A.Knows s name → A.Knows s' name

theorem HostMacs.StaysKnown.of_macTable (h : s'.macTable = s.macTable) : A.StaysKnown s s' := by
  rintro name - ⟨d, p, hseat, hmac⟩
  exact ⟨d, p, hseat, by rw [macPort_congr h, hmac]⟩

theorem HostMacs.Behind.mono (hmono : A.StaysKnown s s') {mac : EthAddr} {ip : IPAddr}
    (h : A.Behind s d p mac ip name) : A.Behind s' d p mac ip name :=
  { h with known := hmono name h.host h.known }

theorem HostMacs.Addressed.mono (hmono : A.StaysKnown s s') (h : A.Addressed s name f) :
    A.Addressed s' name f :=
  { h with known := hmono name h.host h.known }

theorem Placed.mono (hmono : A.StaysKnown s s') {x : InFlight} (h : Placed A s x) :
    Placed A s' x := by
  cases h with
  | own host honest side known =>
    exact .own host honest side fun d p hdest hclaim hhome =>
      hmono _ host (known d p hdest hclaim hhome)
  | gateway hzone src down unicast =>
    refine .gateway hzone src down fun hdst => ?_
    obtain ⟨name, haddressed, hdown⟩ := unicast hdst
    exact ⟨name, haddressed.mono hmono, hdown⟩

theorem RuleLocated.mono (hmono : A.StaysKnown s s') {mod : FlowMod} (h : RuleLocated A s d mod) :
    RuleLocated A s' d mod := by
  cases h with
  | drop hactions => exact .drop hactions
  | relay hmatch hactions hsender hdown =>
    exact .relay hmatch hactions (fun hup name hname hsrc =>
      hmono name hname (hsender hup name hname hsrc)) hdown
  | route hdpid hbody hmatch hzone hactions hbehind =>
    exact .route hdpid hbody hmatch hzone hactions (hbehind.mono hmono)

theorem ToldLocated.mono (hmono : A.StaysKnown s s') {t : Told} (h : ToldLocated A s t) :
    ToldLocated A s' t :=
  ⟨fun x hx => (h.out x hx).mono hmono, fun mod hmod => (h.rule mod hmod).mono hmono⟩

/-! ## Ports of hosts -/

/-- A port toward a host that is no uplink is the host's, or the core's. -/
theorem seat_of_toward (htoward : toward D d name = some p)
    (huplink : isLeafUplink D.maps d p = false) (hleaf : d ≠ D.maps.coreDpid) :
    seat D.net name = some (d, p) := by
  obtain ⟨⟨home, port⟩, hseat, -⟩ := Option.bind_eq_some_iff.mp htoward
  by_cases hhome : d = home
  · subst hhome
    rw [hseat, Option.some.inj ((D.toward_seat hseat).symm.trans htoward)]
  · rw [D.toward_leaf hseat hhome hleaf] at htoward
    simp [isLeafUplink, htoward] at huplink

/-- An uplink does not lead toward a host of its leaf. -/
theorem not_home_of_uplink (htoward : toward D d name = some p)
    (huplink : isLeafUplink D.maps d p = true) : (seat D.net name).map Prod.fst ≠ some d := by
  intro hhome
  obtain ⟨⟨home, port⟩, hseat, rfl⟩ := Option.map_eq_some_iff.mp hhome
  obtain rfl := Option.some.inj ((D.toward_seat hseat).symm.trans htoward)
  obtain ⟨-, -, -, hseatUplink⟩ := D.zoneOfPort_seat hseat
  rw [huplink] at hseatUplink
  cases hseatUplink

/-- The core's port for a host that is behind a port leads toward the host, too. -/
theorem HostMacs.Behind.core {mac : EthAddr} {ip : IPAddr} (h : A.Behind s d p mac ip name)
    {corePort : ℕ} (hport : corePortFor D.maps d p = some corePort) :
    A.Behind s D.maps.coreDpid corePort mac ip name := by
  refine { h with toward_eq := ?_, not_uplink := D.isLeafUplink_core _ }
  unfold corePortFor at hport
  split at hport
  · rename_i hcore
    rw [← hcore, ← Option.some.inj hport]
    exact h.toward_eq
  · rename_i hleaf
    rw [D.toward_core (seat_of_toward h.toward_eq h.not_uplink hleaf) hleaf, hport]

/-! ## Frames that leave a switch -/

theorem HostMacs.Honest.resent (h : A.Honest name f) : A.Honest name f.resent :=
  ⟨h.src, fun ip mac hclaim => h.claim ip mac (claim_resent f ▸ hclaim)⟩

/-- **A frame that is sent on stays where it should be.** It does not go back out of the port it
came in by. A claim that comes from a host's own port makes its switch know the host; and down at a
leaf the frame leaves toward its addressee. -/
theorem Placed.leaves (h : Placed A s ⟨.switch d p, f⟩) (hmono : A.StaysKnown s s') (hne : q ≠ p)
    (hsender : isLeafUplink D.maps d p = false → f.claim ≠ none →
      ∀ name ∈ D.net.hosts.keys, f.src = A.mac name → A.Knows s' name)
    (hdown : isLeafUplink D.maps d p = true → isMulticast f.dst = false →
      ∀ name, A.Addressed s name f → (seat D.net name).map Prod.fst = some d →
        toward D d name = some q) :
    ∀ x ∈ leaving D d [q] f.resent, Placed A s' x := by
  intro x hx
  obtain ⟨q', hq', hfar, hframe⟩ := mem_leaving.mp hx
  obtain rfl := List.mem_singleton.mp hq'
  obtain ⟨dest, frame⟩ := x
  obtain rfl : frame = f.resent := hframe
  cases h with
  | @own name host honest side known =>
    have hside := side d p rfl
    refine .own host honest.resent (fun d' p' hdest => ?_) fun d' p' hdest hclaim hhome => ?_
    · obtain rfl : dest = .switch d' p' := hdest
      exact D.cables.toward_of_far hfar hside hne.symm
    · rw [claim_resent] at hclaim
      by_cases hat : (seat D.net name).map Prod.fst = some d
      · have huplink : isLeafUplink D.maps d p = false := by
          by_contra huplink
          exact not_home_of_uplink hside (Bool.not_eq_false _ ▸ huplink) hat
        exact hsender huplink hclaim name host honest.src
      · exact hmono name host (known d p rfl hclaim hat)
  | @gateway zone hzone src down unicast =>
    have huplink := down d p rfl
    have hhost : ∀ d' p', dest ≠ .switch d' p' := by
      rintro d' p' rfl
      rcases D.farEnd_eq_switch.mp hfar with ⟨-, hup, -⟩ | ⟨rfl, -⟩
      · rw [isLeafUplink, hup] at huplink
        exact hne (Option.some.inj (of_decide_eq_true huplink))
      · exact absurd rfl (D.ne_core_of_isLeafUplink huplink)
    refine .gateway hzone src (fun d' p' hdest => absurd hdest (hhost d' p')) fun hdst => ?_
    obtain ⟨name, haddressed, -, hhome⟩ := unicast hdst
    have htoward := hdown huplink hdst name haddressed hhome
    refine ⟨name, ⟨haddressed.host, haddressed.dst, fun p hp => ?_, hmono name haddressed.host
      haddressed.known⟩, D.downTo_of_toward hfar htoward ?_⟩
    · exact haddressed.dstip p (body_of_resent hp)
    · by_contra hq
      exact not_home_of_uplink htoward (Bool.not_eq_false _ ▸ hq) hhome

/-- **A frame that the controller builds for a host comes down to it.** -/
theorem HostMacs.Behind.placed {mac : EthAddr} {ip : IPAddr} (h : A.Behind s d p mac ip name)
    {zone : String} (hzone : zone ∈ D.policy.zones.keys) {frame : Frame}
    (hsrc : frame.src = gatewayMac D zone) (hdst : frame.dst = mac)
    (hip : ∀ p, frame.body = .ip p → p.dstip = ip) :
    ∀ x ∈ leaving D d [p] frame, Placed A s x := by
  intro x hx
  obtain ⟨p', hp', hfar, hframe⟩ := mem_leaving.mp hx
  obtain rfl := List.mem_singleton.mp hp'
  obtain ⟨dest, frame'⟩ := x
  obtain rfl : frame' = frame := hframe
  have hdown := D.downTo_of_toward hfar h.toward_eq h.not_uplink
  refine .gateway hzone hsrc (fun d' p' hdest => ?_) fun _ => ⟨name, ⟨h.host, hdst.trans h.mac_eq,
    fun p hp => ?_, h.known⟩, hdown⟩
  · obtain rfl : dest = .switch d' p' := hdest
    exact hdown.1
  · rw [hip p hp]
    exact h.ip_eq

/-! ## Messages -/

variable {ev : PacketIn}

/-- The messages of a flood are sound: a unicast frame of a gateway is not flooded. -/
theorem toldLocated_floodSent (hev : Placed A s ⟨.switch ev.dpid ev.port, ev.packet⟩)
    (hmono : A.StaysKnown s s')
    (hsender : isLeafUplink D.maps ev.dpid ev.port = false → ev.packet.claim ≠ none →
      ∀ name ∈ D.net.hosts.keys, ev.packet.src = A.mac name → A.Knows s' name)
    (hdown : isLeafUplink D.maps ev.dpid ev.port = true → isMulticast ev.packet.dst = false →
      ∀ name, ¬ A.Addressed s name ev.packet ∨ (seat D.net name).map Prod.fst ≠ some ev.dpid)
    {m : Sent} (hm : m ∈ floodSent D ev) : ToldLocated A s' ⟨some ev.port, m⟩ where
  out := by
    refine forall_out_floodSent (fun q hq => ?_) hm
    refine hev.leaves hmono (ne_of_mem_floodTargets hq) hsender fun hup hdst name hfor hhome => ?_
    rcases hdown hup hdst name with hno | hno
    · exact absurd hfor hno
    · exact absurd hhome hno
  rule := by
    intro mod hmod
    obtain ⟨dpid, message⟩ := m
    obtain rfl := hmod
    exact absurd hm flowMod_notMem_floodSent

/-- The messages of layer 2 are sound. -/
theorem toldLocated_l2Sent (hev : Placed A s ⟨.switch ev.dpid ev.port, ev.packet⟩)
    (hs : Located A s') (hmono : A.StaysKnown s s')
    (hsender : isLeafUplink D.maps ev.dpid ev.port = false →
      ∀ name ∈ D.net.hosts.keys, ev.packet.src = A.mac name → A.Knows s' name)
    {m : Sent} (hm : m ∈ l2Sent D s' ev) : ToldLocated A s' ⟨some ev.port, m⟩ := by
  rcases mem_l2Sent.mp hm with ⟨q, hq, rfl⟩ | ⟨hnone, hm⟩
  · have hright : ∀ name ∈ D.net.hosts.keys, ev.packet.dst = A.mac name →
        toward D ev.dpid name = some q := fun name hname hdst =>
      hs.mac _ _ name hname (hdst ▸ hq)
    constructor
    · rw [out_l2Mod]
      split
      · exact List.forall_mem_nil _
      · rename_i hne
        exact hev.leaves hmono hne (fun hup _ => hsender hup) fun _ _ name hfor _ =>
          hright name hfor.host hfor.dst
    · rintro mod hmod
      obtain rfl := Message.flowMod.inj hmod
      exact .relay rfl rfl hsender fun _ => hright
  · refine toldLocated_floodSent hev hmono (fun hup _ => hsender hup) (fun hup hdst name => ?_) hm
    by_contra hboth
    rw [not_or, not_not, not_not] at hboth
    obtain ⟨d, p, hseat, hmac⟩ := hmono name hboth.1.host hboth.1.known
    rw [hseat] at hboth
    obtain rfl := Option.some.inj hboth.2
    rw [hboth.1.dst, hmac] at hnone
    cases hnone

/-- A message with a frame that the controller builds for a host is sound. -/
theorem HostMacs.Behind.told {mac : EthAddr} {ip : IPAddr} (h : A.Behind s d p mac ip name)
    {zone : String} (hzone : zone ∈ D.policy.zones.keys) {content : Content}
    (hip : ∀ p, parseContent (.inl content) = .ip p → p.dstip = ip) (inPort : Option ℕ) :
    ToldLocated A s ⟨inPort, ⟨d, .packetOut ⟨gatewayMac D zone, mac, content⟩ p⟩⟩ where
  out := by
    rw [out_packetOut]
    exact h.placed hzone rfl rfl hip
  rule := by
    intro mod hmod
    cases hmod

theorem toldLocated_errorSent {q : QueuedPacket}
    (h : A.Behind s q.dpid q.port q.packet.src q.ip.srcip name) {type code : ℕ} {m : Sent}
    (hzone : ∀ zone, zoneOfPort D.maps q.dpid q.port = some zone → zone ∈ D.policy.zones.keys)
    {s₀ : ZoneRouter} (hm : m ∈ errorSent D s₀ q type code) (inPort : Option ℕ) :
    ToldLocated A s ⟨inPort, m⟩ := by
  obtain ⟨-, zone, hport, rfl⟩ := mem_errorSent.mp hm
  refine h.told (hzone zone hport) (fun p hp => ?_) inPort
  obtain rfl := Body.ip.inj hp
  rfl

theorem toldLocated_forwardSent {q : QueuedPacket} {sender : String}
    (hq : A.Behind s q.dpid q.port q.packet.src q.ip.srcip sender)
    (hport : ∀ zone, zoneOfPort D.maps q.dpid q.port = some zone → zone ∈ D.policy.zones.keys)
    {corePort : ℕ} {mac : EthAddr} (h : A.Behind s D.maps.coreDpid corePort mac q.ip.dstip name)
    {zone : String} (hzone : zone ∈ D.policy.zones.keys) {s₀ : ZoneRouter} {m : Sent}
    (hm : m ∈ forwardSent D s₀ q zone corePort mac) (inPort : Option ℕ) :
    ToldLocated A s ⟨inPort, m⟩ := by
  rcases mem_forwardSent.mp hm with ⟨-, hm⟩ | ⟨-, -, rfl⟩
  · exact toldLocated_errorSent hq hport hm inPort
  · refine h.told hzone (fun p hp => ?_) inPort
    obtain rfl := Body.ip.inj hp
    rfl

/-- A probe is for all hosts of its zone. -/
theorem toldLocated_probeSent {ip : IPAddr} {zone : String} (hzone : zone ∈ D.policy.zones.keys)
    {s₀ : ZoneRouter} {m : Sent} (hm : m ∈ probeSent D s₀ ip zone) (inPort : Option ℕ) :
    ToldLocated A s ⟨inPort, m⟩ := by
  obtain ⟨-, port, -, rfl⟩ := mem_probeSent.mp hm
  constructor
  · rw [out_packetOut]
    intro x hx
    obtain ⟨q, -, hfar, hframe⟩ := mem_leaving.mp hx
    obtain ⟨dest, frame⟩ := x
    obtain rfl : frame = (probeFrame D ip zone).sent := hframe
    refine .gateway hzone rfl (fun d' p' hdest => ?_) fun hdst => ?_
    · obtain rfl : dest = .switch d' p' := hdest
      rcases D.farEnd_eq_switch.mp hfar with ⟨-, hup, -⟩ | ⟨-, hup, -⟩
      · exact absurd rfl (D.ne_core_of_uplink hup)
      · simp [isLeafUplink, hup]
    · have hbroadcast : isMulticast etherBroadcast = true := by decide
      exact Bool.noConfusion (hbroadcast.symm.trans hdst)
  · intro mod hmod
    cases hmod

/-- The rules of a routed connection are sound: the core's is a route to a host, and the leaf's is
made from a sender that the leaf knows. -/
theorem toldLocated_routeFlowsSent {p : Ipv4} {dstZone : String} {loc : Location}
    (hbody : ev.packet.body = .ip p) (huplink : isLeafUplink D.maps ev.dpid ev.port = false)
    (hsender : ∀ name ∈ D.net.hosts.keys, ev.packet.src = A.mac name → A.Knows s name)
    (hzone : dstZone ∈ D.policy.zones.keys)
    (h : A.Behind s D.maps.coreDpid loc.corePort loc.mac p.dstip name) {s₀ : ZoneRouter}
    {m : Sent} (hm : m ∈ routeFlowsSent D s₀ ev dstZone loc) (inPort : Option ℕ) :
    ToldLocated A s ⟨inPort, m⟩ := by
  obtain ⟨-, rfl | ⟨-, uplink, -, rfl⟩⟩ := mem_routeFlowsSent.mp hm
  · constructor
    · rw [out_flowMod_of_none rfl]
      exact List.forall_mem_nil _
    · intro mod hmod
      obtain rfl := Message.flowMod.inj hmod
      exact .route rfl hbody rfl hzone rfl h
  · constructor
    · rw [out_flowMod_of_none rfl]
      exact List.forall_mem_nil _
    · intro mod hmod
      obtain rfl := Message.flowMod.inj hmod
      refine .relay rfl rfl (fun _ => hsender) fun hup => ?_
      rw [huplink] at hup
      cases hup

theorem toldLocated_dropMod (inPort : Option ℕ) :
    ToldLocated A s ⟨inPort, ⟨ev.dpid, .flowMod (dropMod ev)⟩⟩ := by
  constructor
  · rw [out_flowMod_of_none rfl]
    exact List.forall_mem_nil _
  · intro mod hmod
    obtain rfl := Message.flowMod.inj hmod
    exact .drop rfl

/-! ## What is learned -/

/-- What is learned about a host keeps the hosts known, if it is right. -/
theorem staysKnown_setMac {mac : EthAddr}
    (hright : ∀ name ∈ D.net.hosts.keys, mac = A.mac name → toward D d name = some p) :
    A.StaysKnown s (s.setMac d mac p) := by
  rintro name hname ⟨home, port, hseat, hmac⟩
  refine ⟨home, port, hseat, ?_⟩
  rw [macPort_setMac]
  split
  · rename_i hset
    obtain ⟨rfl, hsame⟩ := hset
    rw [← hright name hname hsame.symm, D.toward_seat hseat]
  · exact hmac

namespace Located

/-- The MAC table of sound tables, with locations and queues that are sound. -/
theorem of_macTable (h : Located A s) (hmac : s'.macTable = s.macTable)
    (hloc : ∀ ip loc, s'.ipToLoc.get? ip = some loc →
      ∃ name, A.Behind s D.maps.coreDpid loc.corePort loc.mac ip name)
    (hqueue : ∀ ip entry, s'.pending.get? ip = some entry → ∀ q ∈ entry.queue,
      ∃ name, A.Behind s q.dpid q.port q.packet.src q.ip.srcip name) : Located A s' := by
  have hmono := HostMacs.StaysKnown.of_macTable (A := A) hmac
  refine ⟨fun d p name hname hp => ?_, fun ip loc hl => ?_, fun ip entry he q hq => ?_⟩
  · exact h.mac d p name hname (macPort_congr hmac ▸ hp)
  · obtain ⟨name, hbehind⟩ := hloc ip loc hl
    exact ⟨name, hbehind.mono hmono⟩
  · obtain ⟨name, hbehind⟩ := hqueue ip entry he q hq
    exact ⟨name, hbehind.mono hmono⟩

theorem setMac (h : Located A s) {mac : EthAddr}
    (hright : ∀ name ∈ D.net.hosts.keys, mac = A.mac name → toward D d name = some p) :
    Located A (s.setMac d mac p) := by
  have hmono := staysKnown_setMac (s := s) hright
  refine ⟨fun d' p' name hname hp => ?_, fun ip loc hl => ?_, fun ip entry he q hq => ?_⟩
  · rw [macPort_setMac] at hp
    split at hp
    · rename_i hset
      rw [hset.1, ← hp]
      exact hright name hname hset.2.symm
    · exact h.mac d' p' name hname hp
  · obtain ⟨name, hbehind⟩ := h.location ip loc hl
    exact ⟨name, hbehind.mono hmono⟩
  · obtain ⟨name, hbehind⟩ := h.queue ip entry he q hq
    exact ⟨name, hbehind.mono hmono⟩

/-- What is learned from a sender that is behind its port. -/
theorem learned (h : Located A s) {snd : Sender} {ev : PacketIn}
    (hsender : acceptedSender D ev = some snd)
    (hbehind : A.Behind (s.setMac ev.dpid snd.mac ev.port) ev.dpid ev.port snd.mac snd.ip name) :
    Located A (s.learned D ev.dpid ev.port snd) := by
  have hset : Located A (s.setMac ev.dpid snd.mac ev.port) := h.setMac fun name' hname' hsame => by
    obtain rfl := A.inj name hbehind.host name' hname' (hbehind.mac_eq ▸ hsame)
    exact hbehind.toward_eq
  obtain ⟨corePort, hport, -⟩ := corePort_of_acceptedSender hsender
  refine hset.of_macTable rfl (fun ip loc hl => ?_) hset.queue
  rw [get?_learned hport] at hl
  split at hl
  · rename_i hip
    cases hl
    exact ⟨name, hip ▸ hbehind.core hport⟩
  · exact hset.location ip loc hl

theorem removed (h : Located A s) (ip : IPAddr) (timer : ℕ) : Located A (s.removed ip timer) :=
  h.of_macTable rfl h.location fun ip' entry he =>
    h.queue ip' entry (Dict.get?_erase_eq_some.mp he).2

theorem enqueued (h : Located A s) {q : QueuedPacket}
    (hq : A.Behind s q.dpid q.port q.packet.src q.ip.srcip name) (zone : String) :
    Located A (s.enqueued q zone) := by
  refine h.of_macTable (ZoneRouter.macTable_enqueued ..) (fun ip loc hl => ?_)
    fun ip entry he q' hq' => ?_
  · rw [ZoneRouter.ipToLoc_enqueued] at hl
    exact h.location ip loc hl
  · rcases mem_queue_enqueued he hq' with rfl | ⟨old, hold, hq'⟩
    · exact ⟨name, hq⟩
    · exact h.queue ip old hold q' hq'

end Located

/-- **An accepted sender is a host behind the port that its frame came in by**, which its switch has
learned by then. -/
theorem Placed.accepted (hev : Placed A s ⟨.switch ev.dpid ev.port, ev.packet⟩) {snd : Sender}
    (hsender : acceptedSender D ev = some snd) : ∃ name, ev.packet.src = A.mac name ∧
      A.Behind (s.setMac ev.dpid snd.mac ev.port) ev.dpid ev.port snd.mac snd.ip name := by
  obtain ⟨-, huplink, hclaim, -, -⟩ := acceptedSender_eq_some hsender
  cases hev with
  | gateway _ _ down =>
    rw [down _ _ rfl] at huplink
    cases huplink
  | @own name host honest side known =>
    obtain ⟨hmac, hip⟩ := honest.claim _ _ hclaim
    have htoward := side _ _ rfl
    have hright : ∀ name' ∈ D.net.hosts.keys, snd.mac = A.mac name' →
        toward D ev.dpid name' = some ev.port := by
      intro name' hname' hsame
      obtain rfl := A.inj name host name' hname' (hmac ▸ hsame)
      exact htoward
    refine ⟨name, honest.src, host, hmac, hip, htoward, huplink, ?_⟩
    by_cases hhome : (seat D.net name).map Prod.fst = some ev.dpid
    · obtain ⟨⟨home, port⟩, hseat, hdpid⟩ := Option.map_eq_some_iff.mp hhome
      obtain rfl : home = ev.dpid := hdpid
      refine ⟨ev.dpid, port, hseat, ?_⟩
      rw [macPort_setMac, if_pos ⟨rfl, hmac.symm⟩]
      exact htoward.symm.trans (D.toward_seat hseat)
    · exact staysKnown_setMac hright name host (known _ _ rfl (by rw [hclaim]; exact nofun) hhome)

/-- What holds once an accepted sender has been learned. -/
structure Taught (A : HostMacs D) (s s' : ZoneRouter) (ev : PacketIn) (snd : Sender)
    (name : String) : Prop where
  behind : A.Behind s' ev.dpid ev.port snd.mac snd.ip name
  stays : A.StaysKnown s s'
  sender : ∀ name' ∈ D.net.hosts.keys, ev.packet.src = A.mac name' → A.Knows s' name'

theorem Taught.of_macTable {s₁ : ZoneRouter} {snd : Sender} (h : Taught A s s₁ ev snd name)
    (hmac : s'.macTable = s₁.macTable) : Taught A s s' ev snd name where
  behind := h.behind.mono (.of_macTable hmac)
  stays := fun name' hname' hknown =>
    HostMacs.StaysKnown.of_macTable hmac name' hname' (h.stays name' hname' hknown)
  sender := fun name' hname' hsrc =>
    HostMacs.StaysKnown.of_macTable hmac name' hname' (h.sender name' hname' hsrc)

/-- Its packets wait as it is known. -/
theorem Taught.waits {s₁ : ZoneRouter} {snd : Sender} {p : Ipv4} (h : Taught A s s₁ ev snd name)
    (hsender : acceptedSender D ev = some snd) (hbody : ev.packet.body = .ip p) :
    A.Behind s₁ ev.dpid ev.port ev.packet.src p.srcip name := by
  obtain ⟨-, -, hclaim, -, -⟩ := acceptedSender_eq_some hsender
  simp only [Frame.claim, hbody, Option.some.injEq, Prod.mk.injEq] at hclaim
  rw [hclaim.1, hclaim.2]
  exact h.behind

theorem Located.taught (h : Located A s)
    (hev : Placed A s ⟨.switch ev.dpid ev.port, ev.packet⟩) {snd : Sender}
    (hsender : acceptedSender D ev = some snd) : Located A (s.learned D ev.dpid ev.port snd) ∧
      ∃ name, Taught A s (s.learned D ev.dpid ev.port snd) ev snd name := by
  obtain ⟨name, hsrc, hbehind⟩ := hev.accepted hsender
  have hstays : A.StaysKnown s (s.setMac ev.dpid snd.mac ev.port) :=
    staysKnown_setMac fun name' hname' hsame => by
      obtain rfl := A.inj name hbehind.host name' hname' (hbehind.mac_eq ▸ hsame)
      exact hbehind.toward_eq
  refine ⟨h.learned hsender hbehind, name, ?_⟩
  have htaught : Taught A s (s.setMac ev.dpid snd.mac ev.port) ev snd name := by
    refine ⟨hbehind, hstays, fun name' hname' hsame => ?_⟩
    obtain rfl := A.inj name hbehind.host name' hname' (hsrc ▸ hsame)
    exact hbehind.known
  exact htaught.of_macTable rfl

/-! ## Packet-ins -/

/-- **What a packet-in keeps**: what the controller has learned about hosts stays right, and what it
sends is sound. -/
theorem Handled.located (hrouter : RouterOk D s) (h : Located A s)
    (hev : Placed A s ⟨.switch ev.dpid ev.port, ev.packet⟩) {log : List Sent}
    (hstep : Handled D s ev s' log) : Located A s' ∧ A.StaysKnown s s' ∧
      ∀ m ∈ log, ToldLocated A s' ⟨some ev.port, m⟩ := by
  cases hstep with
  | ignored => exact ⟨h, fun _ _ hknown => hknown, List.forall_mem_nil _⟩
  | transit huplink =>
    have hnot : isLeafUplink D.maps ev.dpid ev.port ≠ false := by simp [huplink]
    have hright : ∀ name ∈ D.net.hosts.keys, ev.packet.src = A.mac name →
        toward D ev.dpid name = some ev.port := by
      intro name hname hsame
      cases hev with
      | own host honest side =>
        obtain rfl := A.inj _ host name hname (honest.src ▸ hsame)
        exact side _ _ rfl
      | gateway hzone src => exact absurd (hsame.symm.trans src) (A.not_gateway name hname _ hzone)
    have hlocated := h.setMac hright
    have hstays := staysKnown_setMac (s := s) hright
    refine ⟨hlocated, hstays, fun m hm => ?_⟩
    split at hm
    · rename_i hmulticast
      exact toldLocated_floodSent hev hstays (fun hup => absurd hup hnot)
        (fun _ hunicast => absurd (hmulticast.symm.trans hunicast) nofun) hm
    · exact toldLocated_l2Sent hev hlocated hstays (fun hup => absurd hup hnot) hm
  | other huplink hclaim =>
    refine ⟨h, fun _ _ hknown => hknown, fun m hm => ?_⟩
    exact toldLocated_floodSent hev (fun _ _ hknown => hknown)
      (fun _ hsome => absurd hclaim hsome) (fun hup => absurd (huplink.symm.trans hup) nofun) hm
  | arpRequest hsender =>
    obtain ⟨hlocated, name, htaught⟩ := h.taught hev hsender
    refine ⟨hlocated, htaught.stays, fun m hm => ?_⟩
    obtain rfl := List.mem_singleton.mp hm
    exact htaught.behind.told (Sender.zone_mem hsender) (fun p hp => by cases hp) _
  | arpReply hsender | ipUnrouted hsender =>
    obtain ⟨hlocated, name, htaught⟩ := h.taught hev hsender
    exact ⟨hlocated, htaught.stays, List.forall_mem_nil _⟩
  | @arpResolve a snd entry timer corePort hsender _ _ _ hentry _ hport =>
    obtain ⟨hlocated, name, htaught⟩ := h.taught hev hsender
    replace htaught : Taught A s ((s.learned D ev.dpid ev.port snd).removed snd.ip timer) ev snd
      name := htaught.of_macTable rfl
    refine ⟨hlocated.removed _ _, htaught.stays, fun m hm => ?_⟩
    obtain ⟨q, hq, hm⟩ := List.mem_flatMap.mp hm
    have hok := hrouter.entry _ _ hentry
    have hqueued := hok.queue q hq
    obtain ⟨sender, hwaits⟩ := h.queue _ _ hentry q hq
    have hbehind : A.Behind ((s.learned D ev.dpid ev.port snd).removed snd.ip timer)
        D.maps.coreDpid corePort snd.mac q.ip.dstip name := by
      rw [hqueued.dstip]
      exact htaught.behind.core hport
    exact toldLocated_forwardSent (hwaits.mono htaught.stays)
      (fun zone hzone => (hqueued.ipv4Zone zone hzone).mem_keys) hbehind hok.ipv4Zone.mem_keys hm _
  | arpOrdinary hsender =>
    obtain ⟨hlocated, name, htaught⟩ := h.taught hev hsender
    have huplink := (acceptedSender_eq_some hsender).2.1
    refine ⟨hlocated, htaught.stays, fun m hm => ?_⟩
    exact toldLocated_floodSent hev htaught.stays (fun _ _ => htaught.sender)
      (fun hup => absurd (huplink.symm.trans hup) nofun) hm
  | ipSameZone hsender =>
    obtain ⟨hlocated, name, htaught⟩ := h.taught hev hsender
    refine ⟨hlocated, htaught.stays, fun m hm => ?_⟩
    exact toldLocated_l2Sent hev hlocated htaught.stays (fun _ => htaught.sender) hm
  | @ipBlocked p snd dstZone hsender =>
    obtain ⟨hlocated, name, htaught⟩ := h.taught hev hsender
    replace htaught : Taught A s ((s.learned D ev.dpid ev.port snd).checked D ev p snd.zone dstZone)
      ev snd name := htaught.of_macTable rfl
    refine ⟨hlocated.of_macTable rfl hlocated.location hlocated.queue, htaught.stays,
      fun m hm => ?_⟩
    obtain rfl := List.mem_singleton.mp hm
    exact toldLocated_dropMod _
  | @ipForwarded p snd dstZone v loc hsender hbody _ hdst _ _ hloc =>
    obtain ⟨hlocated, name, htaught⟩ := h.taught hev hsender
    obtain ⟨dest, hdest⟩ := hlocated.location _ _ hloc
    obtain ⟨-, huplink, -, hport, -⟩ := acceptedSender_eq_some hsender
    replace htaught : Taught A s ((s.learned D ev.dpid ev.port snd).checked D ev p snd.zone dstZone)
      ev snd name := htaught.of_macTable rfl
    have hchecked : A.StaysKnown (s.learned D ev.dpid ev.port snd)
        ((s.learned D ev.dpid ev.port snd).checked D ev p snd.zone dstZone) := .of_macTable rfl
    replace hdest := hdest.mono hchecked
    have hzone := (ipv4Zone_of_zoneForIp hdst).mem_keys
    refine ⟨hlocated.of_macTable rfl hlocated.location hlocated.queue, htaught.stays,
      fun m hm => ?_⟩
    rcases List.mem_append.mp hm with hm | hm
    · split at hm
      · exact toldLocated_routeFlowsSent hbody huplink htaught.sender hzone hdest hm _
      · cases hm
    · refine toldLocated_forwardSent (q := ev.queued p) (htaught.waits hsender hbody)
        (fun zone hz => ?_) hdest hzone hm _
      obtain rfl := Option.some.inj (hport.symm.trans hz)
      exact Sender.zone_mem hsender
  | @ipQueued p snd dstZone v hsender hbody _ hdst =>
    obtain ⟨hlocated, name, htaught⟩ := h.taught hev hsender
    replace hlocated : Located A ((s.learned D ev.dpid ev.port snd).checked D ev p snd.zone
      dstZone) := hlocated.of_macTable rfl hlocated.location hlocated.queue
    replace htaught : Taught A s ((s.learned D ev.dpid ev.port snd).checked D ev p snd.zone dstZone)
      ev snd name := htaught.of_macTable rfl
    refine ⟨hlocated.enqueued (q := ev.queued p) (htaught.waits hsender hbody) _,
      (htaught.of_macTable (ZoneRouter.macTable_enqueued ..)).stays, fun m hm => ?_⟩
    exact toldLocated_probeSent (ipv4Zone_of_zoneForIp hdst).mem_keys (mem_queueSent.mp hm).2 _

/-! ## Other events -/

/-- A switch that connects changes no entry of a MAC table. -/
theorem macPort_connected (dpid : ℕ) : ({ s with
    connections := insert dpid s.connections
    macTable := s.macTable.set dpid ((s.macTable.get? dpid).getD Dict.empty) } :
      ZoneRouter).macPort = s.macPort := by
  funext d mac
  unfold ZoneRouter.macPort
  simp only [Dict.get?_set]
  split
  · rename_i hdpid
    rw [hdpid]
    cases s.macTable.get? dpid <;> rfl
  · rfl

/-- What every other event keeps. -/
theorem Stepped.located (hrouter : RouterOk D s) (h : Located A s) {c : Event} {log : List Sent}
    (hstep : Stepped D s c s' log) (hc : ∀ ev, c ≠ .packetIn ev) (inPort : Option ℕ) :
    Located A s' ∧ A.StaysKnown s s' ∧ ∀ m ∈ log, ToldLocated A s' ⟨inPort, m⟩ := by
  cases hstep with
  | packetIn => exact absurd rfl (hc _)
  | connectionUp dpid =>
    have hmac := macPort_connected (s := s) dpid
    have hstays : A.StaysKnown s { s with
        connections := insert dpid s.connections
        macTable := s.macTable.set dpid ((s.macTable.get? dpid).getD Dict.empty) } := by
      rintro name - ⟨d, p, hseat, hknown⟩
      exact ⟨d, p, hseat, hmac ▸ hknown⟩
    refine ⟨⟨fun d p name hname hp => ?_, fun ip loc hl => ?_, fun ip entry he q hq => ?_⟩, hstays,
      List.forall_mem_nil _⟩
    · rw [hmac] at hp
      exact h.mac d p name hname hp
    · obtain ⟨name, hbehind⟩ := h.location ip loc hl
      exact ⟨name, hbehind.mono hstays⟩
    · obtain ⟨name, hbehind⟩ := h.queue ip entry he q hq
      exact ⟨name, hbehind.mono hstays⟩
  | cancelled => exact ⟨h, fun _ _ hknown => hknown, List.forall_mem_nil _⟩
  | connExpire =>
    exact ⟨h.of_macTable rfl h.location h.queue, .of_macTable rfl, List.forall_mem_nil _⟩
  | probed _ hentry =>
    refine ⟨h.of_macTable rfl h.location fun ip e he q hq => ?_, .of_macTable rfl, fun m hm => ?_⟩
    · rcases Dict.get?_set_eq_some.mp he with ⟨rfl, rfl⟩ | ⟨-, he⟩
      · exact h.queue _ _ hentry q hq
      · exact h.queue ip e he q hq
    · exact toldLocated_probeSent (hrouter.entry _ _ hentry).ipv4Zone.mem_keys hm _
  | @gaveUp timer ip entry _ hentry =>
    have hstays : A.StaysKnown s (s.removed ip timer) := .of_macTable rfl
    refine ⟨h.removed _ _, hstays, fun m hm => ?_⟩
    obtain ⟨q, hq, hm⟩ := List.mem_flatMap.mp hm
    have hqueued := (hrouter.entry _ _ hentry).queue q hq
    obtain ⟨sender, hwaits⟩ := h.queue _ _ hentry q hq
    exact toldLocated_errorSent (hwaits.mono hstays)
      (fun zone hzone => (hqueued.ipv4Zone zone hzone).mem_keys) hm _

/-! ## Rules -/

theorem dlSrc_fromPacket (f : Frame) (port : ℕ) : (fromPacket f port).dlSrc = some f.src := by
  unfold fromPacket
  cases f.body with
  | arp a => by_cases ha : a.opcode ≤ 255 <;> simp [ha]
  | _ => rfl

/-- A rule made from a frame takes only frames with its addresses. -/
theorem addresses_of_matches {packet : Frame} {port : ℕ}
    (h : (fromPacket packet port).Matches p f) : f.src = packet.src ∧ f.dst = packet.dst := by
  obtain ⟨-, hsrc, hdst, -⟩ := h
  rw [dlSrc_fromPacket, dlSrc_fromPacket, agrees_some] at hsrc
  rw [dlDst_fromPacket, dlDst_fromPacket, agrees_some] at hdst
  exact ⟨Option.some.inj hsrc, Option.some.inj hdst⟩

/-- **What a sound rule sends out is placed.** -/
theorem RuleLocated.out {r : Rule} (h : RuleLocated A s r.dpid r.mod) {now : ℚ}
    (htakes : r.Takes now d p f) (hx : Placed A s ⟨.switch d p, f⟩) :
    ∀ x ∈ r.out D d p f, Placed A s x := by
  obtain ⟨hdpid, -, hmatches⟩ := htakes
  obtain rfl := hdpid
  cases h with
  | drop hactions =>
    simp only [Rule.out, hactions, applied, List.filter_nil, List.filterMap_nil]
    exact List.forall_mem_nil _
  | @relay packet port q hmatch hactions hsender hdown =>
    rw [hmatch] at hmatches
    obtain rfl := eq_port_of_matches_fromPacket hmatches
    obtain ⟨hsrc, hdst⟩ := addresses_of_matches hmatches
    rw [out_output hactions]
    split
    · exact List.forall_mem_nil _
    · rename_i hback
      refine hx.leaves (fun _ _ hknown => hknown) hback (fun hup _ name hname hsame => ?_)
        fun hup _ name hfor _ => ?_
      · exact hsender hup name hname (hsrc ▸ hsame)
      · exact hdown hup name hfor.host (hdst ▸ hfor.dst)
  | @route packet p₀ port inPort zone loc name hcore hbody hmatch hzone hactions hbehind =>
    rw [hmatch] at hmatches
    obtain ⟨-, -, -, p', hp', hsame⟩ := (matches_fromPacket_ip hbody).mp hmatches
    intro x hx
    obtain ⟨dep, hdep, hcarry⟩ := List.mem_filterMap.mp hx
    have hdep := (List.mem_filter.mp hdep).1
    simp only [hactions, applied, hp'] at hdep
    split at hdep
    · cases hdep
    · obtain rfl := List.mem_singleton.mp hdep
      obtain ⟨dest, hfar, rfl⟩ := Option.map_eq_some_iff.mp hcarry
      rw [hcore] at hfar
      refine hbehind.placed hzone rfl rfl (fun p hp => ?_) _ (mem_leaving.mpr
        ⟨loc.corePort, List.mem_singleton_self _, hfar, rfl⟩)
      obtain rfl := Body.ip.inj hp
      exact hsame.dstip

/-! ## The network -/

variable {w w' : Site} {e : SiteEvent} {out : List Report}

/-- Hosts send in their own name. -/
def SiteEvent.Honest (A : HostMacs D) : SiteEvent → Prop
  | .sends name frame => A.Honest name frame
  | _ => True

/-- What a host sends in its own name is where it should be. -/
theorem placed_of_seat (hhonest : A.Honest name f) (hseat : seat D.net name = some (d, p)) :
    Placed A s ⟨.switch d p, f⟩ := by
  obtain ⟨host, -, hhost, -⟩ := D.seat_eq_some.mp hseat
  refine .own (Dict.mem_keys_iff.mpr ⟨host, hhost⟩) hhonest (fun d' p' hdest => ?_)
    fun d' p' hdest _ hhome => ?_
  · cases hdest
    exact D.toward_seat hseat
  · cases hdest
    exact absurd (congrArg (Option.map Prod.fst) hseat) hhome

namespace SiteLocated

/-- What the controller does at an event is sound. -/
theorem heard (h : SiteLocated A w) {c : Event} (hc : w.heard e = some c) :
    Located A (step D w.router c).1 ∧ A.StaysKnown w.router (step D w.router c).1 ∧
      ∀ inPort, (∀ ev, c = .packetIn ev → inPort = some ev.port) →
        ∀ m ∈ (step D w.router c).2, ToldLocated A (step D w.router c).1 ⟨inPort, m⟩ := by
  have hother : (∀ ev, c ≠ .packetIn ev) → ∀ inPort, Located A (step D w.router c).1 ∧
      A.StaysKnown w.router (step D w.router c).1 ∧
        ∀ m ∈ (step D w.router c).2, ToldLocated A (step D w.router c).1 ⟨inPort, m⟩ :=
    (step_stepped h.router c).located h.router h.located
  cases c with
  | packetIn ev =>
    obtain ⟨hlocated, hstays, htold⟩ := (step_handled h.router ev).located h.router h.located
      (h.asks _ (Site.mem_asks_of_heard hc))
    refine ⟨hlocated, hstays, fun inPort hin => ?_⟩
    rwa [hin ev rfl]
  | connectionUp | retryTick | connExpire =>
    exact ⟨(hother nofun none).1, (hother nofun none).2.1,
      fun inPort _ => (hother nofun inPort).2.2⟩

/-- **Every step of the network keeps everything where it should be.** -/
theorem moved (h : SiteLocated A w) (hhonest : e.Honest A) (hmoved : Moved D w e w' out) :
    SiteLocated A w' := by
  have hstays : A.StaysKnown w.router w'.router :=
    hmoved.forall_router (fun _ _ hknown => hknown) fun c hc => (h.heard hc).2.1
  have hwires : ∀ x ∈ w.wires, Placed A w'.router x := fun x hx => (h.wires x hx).mono hstays
  have htells : ∀ t ∈ w.tells, ToldLocated A w'.router t := fun t ht => (h.tells t ht).mono hstays
  have hrules : ∀ r ∈ w.rules, RuleLocated A w'.router r.dpid r.mod := fun r hr =>
    (h.rules r hr).mono hstays
  exact {
    router := hmoved.forall_router h.router fun c _ => h.router.step c
    located := hmoved.forall_router h.located fun c hc => (h.heard hc).1
    wires := hmoved.forall_wires hwires
      (fun name frame d p hsends hseat => by
        subst hsends
        exact placed_of_seat hhonest hseat)
      (fun r hr _ _ _ _ htakes hplaced => (hrules r hr).out htakes hplaced)
      fun t ht => (htells t ht).out
    asks := hmoved.forall_asks hwires fun a ha => (h.asks a ha).mono hstays
    rules := hmoved.forall_rules hrules fun t ht => (htells t ht).rule
    tells := hmoved.forall_tells htells fun c inPort hc hin m hm => by
      rw [hmoved.router, hc]
      exact (h.heard hc).2.2 inPort hin m hm }

end SiteLocated

end ZoneSegmentation
