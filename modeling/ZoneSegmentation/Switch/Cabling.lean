import ZoneSegmentation.Config.Wiring
import ZoneSegmentation.Library.HostTree

/-!
# The cables

Where a frame arrives that leaves a switch by a port, as `build_network` has made the links; and the
port of each switch that leads toward a host.

## Main definitions

* `farEnd`: what a port of a switch leads to
* `wiredPorts`: the ports of a switch that are plugged in
* `seat`, `toward`: the port of a host, and the port of a switch that leads toward it
* `DownTo`: a frame is on its way down to a host
* `Deployment.cables`: the links as a tree with the hosts at its ports

## Main results

* `farEnd_eq_host`, `farEnd_eq_switch`: which ports lead to a host, and which to a switch
* `ahead_iff_toward`: a frame has a host ahead of it exactly if it left toward the host
-/

namespace ZoneSegmentation

open HostTree (End)

variable (net : Network)

/-- The switch with a dpid. -/
def switchName (dpid : ℕ) : Option String :=
  (net.switches.entries.find? fun e => e.2.dpid = dpid).map Prod.fst

/-- What a link leads to from a port of a node, if it is plugged in there. The node a host is looked
up by is not a switch. -/
def Link.farFrom (l : Link) (node : String) (port : ℕ) : Option (End ℕ ℕ String) :=
  if l.node2 = node ∧ l.port2 = port then
    match l.port1 with
    | none => some (.host l.node1)
    | some p => (net.switches.get? l.node1).map fun s => .switch s.dpid p
  else if l.node1 = node ∧ l.port1 = some port then
    (net.switches.get? l.node2).map fun s => .switch s.dpid l.port2
  else none

/-- What a port of a switch leads to. -/
def farEnd (dpid port : ℕ) : Option (End ℕ ℕ String) := do
  let node ← switchName net dpid
  (buildNetwork net).findSome? fun l => l.farFrom net node port

/-- The ports of a switch that are plugged in. -/
def wiredPorts (dpid : ℕ) : List ℕ :=
  ((switchName net dpid).map fun node => portsOf node (buildNetwork net)).getD []

/-- The zone of a host. -/
def hostZone (name : String) : Option String := (net.hosts.get? name).map Host.zone

/-- The switch and the port that a host is plugged into. -/
def seat (name : String) : Option (ℕ × ℕ) := do
  let h ← net.hosts.get? name
  let s ← net.switches.get? h.switch
  some (s.dpid, h.port)

/-- The port of a switch that leads toward a host: its own port where it is plugged in, at the core
the port to its leaf, and at any other leaf the uplink. -/
def toward (D : Deployment) (dpid : ℕ) (name : String) : Option ℕ :=
  (seat D.net name).bind fun (home, port) =>
    if dpid = home then some port
    else if dpid = D.maps.coreDpid then D.maps.leafCorePort.get? home
    else D.maps.leafUplinkPort.get? dpid

/-- A frame at the end of a cable is on its way down to a host: it has come to the host, or to the
host's leaf by the uplink. -/
def DownTo (D : Deployment) (name : String) : End ℕ ℕ String → Prop
  | .host name' => name' = name
  | .switch dpid port => isLeafUplink D.maps dpid port = true ∧
      (seat D.net name).map Prod.fst = some dpid

instance (D : Deployment) (name : String) : DecidablePred (DownTo D name)
  | .host name' => inferInstanceAs (Decidable (name' = name))
  | .switch _ _ => inferInstanceAs (Decidable (_ ∧ _))

variable {net} {P : Policy} {M : PortMaps}

/-! ## Links of an accepted layout -/

theorem NetworkOk.switchName_eq_some (hnet : NetworkOk P net) {dpid : ℕ} {name : String} :
    switchName net dpid = some name ↔ ∃ s, net.switches.get? name = some s ∧ s.dpid = dpid := by
  unfold switchName
  constructor
  · intro h
    obtain ⟨⟨name', s⟩, hfind, rfl⟩ := Option.map_eq_some_iff.mp h
    exact ⟨s, Dict.get?_eq_some_iff.mpr (List.mem_of_find?_eq_some hfind),
      by simpa using List.find?_some hfind⟩
  · rintro ⟨s, hs, rfl⟩
    cases hfind : net.switches.entries.find? fun e => e.2.dpid = s.dpid with
    | none =>
      have hnone := List.find?_eq_none.mp hfind (name, s) (Dict.get?_eq_some_iff.mp hs)
      simp at hnone
    | some e =>
      have hdpid : e.2.dpid = s.dpid := by simpa using List.find?_some hfind
      have he := Dict.get?_eq_some_iff.mpr (List.mem_of_find?_eq_some hfind)
      rw [Option.map_some, hnet.switches.dpid_inj _ _ _ _ he hs hdpid]

theorem mem_buildNetwork {l : Link} : l ∈ buildNetwork net ↔
    (∃ name h, net.hosts.get? name = some h ∧ l = ⟨name, none, h.switch, h.port⟩) ∨
    ∃ leaf link, net.uplinks.get? leaf = some link ∧
      l = ⟨leaf, some link.leafPort, net.core, link.corePort⟩ := by
  rw [buildNetwork, List.mem_append, List.mem_map, List.mem_map]
  constructor
  · rintro (⟨⟨name, h⟩, he, rfl⟩ | ⟨⟨leaf, link⟩, he, rfl⟩)
    · exact .inl ⟨name, h, Dict.get?_eq_some_iff.mpr he, rfl⟩
    · exact .inr ⟨leaf, link, Dict.get?_eq_some_iff.mpr he, rfl⟩
  · rintro (⟨name, h, hh, rfl⟩ | ⟨leaf, link, hlink, rfl⟩)
    · exact .inl ⟨(name, h), Dict.get?_eq_some_iff.mp hh, rfl⟩
    · exact .inr ⟨(leaf, link), Dict.get?_eq_some_iff.mp hlink, rfl⟩

/-- The ways a port of a switch is plugged in, and what it leads to. -/
inductive Plugged (net : Network) (dpid port : ℕ) : End ℕ ℕ String → Prop
  | host {name : String} {h : Host ℕ} {s : Switch} (hhost : net.hosts.get? name = some h)
      (hs : net.switches.get? h.switch = some s) (hdpid : s.dpid = dpid) (hport : h.port = port) :
      Plugged net dpid port (.host name)
  | leaf {leaf : String} {s c : Switch} {link : Uplink ℕ} (hs : net.switches.get? leaf = some s)
      (hlink : net.uplinks.get? leaf = some link) (hc : net.switches.get? net.core = some c)
      (hdpid : s.dpid = dpid) (hport : link.leafPort = port) :
      Plugged net dpid port (.switch c.dpid link.corePort)
  | core {leaf : String} {s c : Switch} {link : Uplink ℕ} (hs : net.switches.get? leaf = some s)
      (hlink : net.uplinks.get? leaf = some link) (hc : net.switches.get? net.core = some c)
      (hdpid : c.dpid = dpid) (hport : link.corePort = port) :
      Plugged net dpid port (.switch s.dpid link.leafPort)

/-- No two attachments are at one port. -/
theorem NetworkOk.eq_of_port (hnet : NetworkOk P net) {a b : String × ℕ × String} {s t : Switch}
    (ha : a ∈ attachments net.core net.uplinks net.hosts)
    (hb : b ∈ attachments net.core net.uplinks net.hosts) (hs : net.switches.get? a.1 = some s)
    (ht : net.switches.get? b.1 = some t) (hdpid : s.dpid = t.dpid) (hport : a.2.1 = b.2.1) :
    a = b :=
  List.inj_on_of_nodup_map hnet.ports ha hb
    (Prod.ext (hnet.switches.dpid_inj _ _ _ _ hs ht hdpid) hport)

/-- The attachments of a port: a host, or one of the two ends of an uplink. -/
theorem mem_attachments_host {name : String} {h : Host ℕ} (hhost : net.hosts.get? name = some h) :
    (h.switch, h.port, "host " ++ name) ∈ attachments net.core net.uplinks net.hosts :=
  mem_attachments.mpr (.inl ⟨name, h, hhost, rfl⟩)

theorem mem_attachments_leaf {leaf : String} {link : Uplink ℕ}
    (hlink : net.uplinks.get? leaf = some link) :
    (leaf, link.leafPort, "uplink to core") ∈ attachments net.core net.uplinks net.hosts :=
  mem_attachments.mpr (.inr ⟨leaf, link, hlink, .inl rfl⟩)

theorem mem_attachments_core {leaf : String} {link : Uplink ℕ}
    (hlink : net.uplinks.get? leaf = some link) :
    (net.core, link.corePort, "uplink from " ++ leaf) ∈
      attachments net.core net.uplinks net.hosts :=
  mem_attachments.mpr (.inr ⟨leaf, link, hlink, .inr rfl⟩)

theorem host_ne_uplink (name : String) : "host " ++ name ≠ "uplink to core" := by
  intro h
  simpa using congrArg (fun s => s.toList.head?) h

theorem host_ne_uplink_from (name leaf : String) : "host " ++ name ≠ "uplink from " ++ leaf := by
  intro h
  simpa using congrArg (fun s => s.toList.head?) h

theorem uplink_ne_uplink_from (leaf : String) : "uplink to core" ≠ "uplink from " ++ leaf := by
  intro h
  simpa using congrArg String.toList h

/-- **A port leads to one thing.** -/
theorem Plugged.unique (hnet : NetworkOk P net) {d p : ℕ} {e e' : End ℕ ℕ String}
    (h : Plugged net d p e) (h' : Plugged net d p e') : e = e' := by
  cases h with
  | host hhost hs hd hp =>
    cases h' with
    | host hhost' hs' hd' hp' =>
      have hsame := hnet.eq_of_port (mem_attachments_host hhost) (mem_attachments_host hhost')
        hs hs' (hd.trans hd'.symm) (hp.trans hp'.symm)
      rw [(String.append_right_inj _).mp (congrArg (fun a => a.2.2) hsame)]
    | leaf hs' hlink _ hd' hp' =>
      have hsame := hnet.eq_of_port (mem_attachments_host hhost) (mem_attachments_leaf hlink)
        hs hs' (hd.trans hd'.symm) (hp.trans hp'.symm)
      exact absurd (congrArg (fun a => a.2.2) hsame) (host_ne_uplink _)
    | core _ hlink hc hd' hp' =>
      have hsame := hnet.eq_of_port (mem_attachments_host hhost) (mem_attachments_core hlink)
        hs hc (hd.trans hd'.symm) (hp.trans hp'.symm)
      exact absurd (congrArg (fun a => a.2.2) hsame) (host_ne_uplink_from _ _)
  | leaf hs hlink hc hd hp =>
    cases h' with
    | host hhost' hs' hd' hp' =>
      have hsame := hnet.eq_of_port (mem_attachments_host hhost') (mem_attachments_leaf hlink)
        hs' hs (hd'.trans hd.symm) (hp'.trans hp.symm)
      exact absurd (congrArg (fun a => a.2.2) hsame) (host_ne_uplink _)
    | leaf hs' hlink' hc' hd' hp' =>
      obtain rfl := hnet.switches.dpid_inj _ _ _ _ hs hs' (hd.trans hd'.symm)
      obtain rfl := Option.some.inj (hlink.symm.trans hlink')
      obtain rfl := Option.some.inj (hc.symm.trans hc')
      rfl
    | core _ hlink' hc' hd' hp' =>
      have hsame := hnet.eq_of_port (mem_attachments_leaf hlink) (mem_attachments_core hlink')
        hs hc' (hd.trans hd'.symm) (hp.trans hp'.symm)
      exact absurd (congrArg (fun a => a.2.2) hsame) (uplink_ne_uplink_from _)
  | core hs hlink hc hd hp =>
    cases h' with
    | host hhost' hs' hd' hp' =>
      have hsame := hnet.eq_of_port (mem_attachments_host hhost') (mem_attachments_core hlink)
        hs' hc (hd'.trans hd.symm) (hp'.trans hp.symm)
      exact absurd (congrArg (fun a => a.2.2) hsame) (host_ne_uplink_from _ _)
    | leaf hs' hlink' _ hd' hp' =>
      have hsame := hnet.eq_of_port (mem_attachments_leaf hlink') (mem_attachments_core hlink)
        hs' hc (hd'.trans hd.symm) (hp'.trans hp.symm)
      exact absurd (congrArg (fun a => a.2.2) hsame) (uplink_ne_uplink_from _)
    | core hs' hlink' hc' hd' hp' =>
      have hsame := hnet.eq_of_port (mem_attachments_core hlink) (mem_attachments_core hlink')
        hc hc' (hd.trans hd'.symm) (hp.trans hp'.symm)
      obtain rfl := (String.append_right_inj _).mp (congrArg (fun a => a.2.2) hsame)
      obtain rfl := Option.some.inj (hlink.symm.trans hlink')
      obtain rfl := Option.some.inj (hs.symm.trans hs')
      rfl

/-- **What a port of a switch leads to.** -/
theorem NetworkOk.farEnd_eq_some_iff (hnet : NetworkOk P net) {d p : ℕ} {e : End ℕ ℕ String} :
    farEnd net d p = some e ↔ Plugged net d p e := by
  have hsound : ∀ {e}, farEnd net d p = some e → Plugged net d p e := by
    intro e h
    obtain ⟨node, hnode, h⟩ := Option.bind_eq_some_iff.mp h
    obtain ⟨s, hs, hd⟩ := hnet.switchName_eq_some.mp hnode
    obtain ⟨l, hl, hfar⟩ := List.exists_of_findSome?_eq_some h
    rcases mem_buildNetwork.mp hl with ⟨name, h, hhost, rfl⟩ | ⟨leaf, link, hlink, rfl⟩
    · simp only [Link.farFrom, reduceCtorEq, and_false, if_false] at hfar
      split at hfar
      · rename_i hat
        obtain ⟨rfl, rfl⟩ := hat
        cases hfar
        exact .host hhost hs hd rfl
      · cases hfar
    · simp only [Link.farFrom, Option.some.injEq] at hfar
      split at hfar
      · rename_i hat
        obtain ⟨rfl, rfl⟩ := hat
        obtain ⟨t, ht, rfl⟩ := Option.map_eq_some_iff.mp hfar
        exact .core ht hlink hs hd rfl
      · split at hfar
        · rename_i hat
          obtain ⟨rfl, rfl⟩ := hat
          obtain ⟨c, hc, rfl⟩ := Option.map_eq_some_iff.mp hfar
          exact .leaf hs hlink hc hd rfl
        · cases hfar
  refine ⟨hsound, fun h => ?_⟩
  have hplugged : ∃ node s, net.switches.get? node = some s ∧ s.dpid = d ∧
      ∃ l ∈ buildNetwork net, (l.farFrom net node p).isSome := by
    cases h with
    | host hhost hs hd hp =>
      refine ⟨_, _, hs, hd, _, mem_buildNetwork.mpr (.inl ⟨_, _, hhost, rfl⟩), ?_⟩
      simp [Link.farFrom, hp]
    | leaf hs hlink hc hd hp =>
      refine ⟨_, _, hs, hd, _, mem_buildNetwork.mpr (.inr ⟨_, _, hlink, rfl⟩), ?_⟩
      have hne := (hnet.switch_of_uplink (Dict.get?_eq_some_iff.mp hlink)).1
      simp [Link.farFrom, hp, hc, hne.symm]
    | core hs hlink hc hd hp =>
      refine ⟨_, _, hc, hd, _, mem_buildNetwork.mpr (.inr ⟨_, _, hlink, rfl⟩), ?_⟩
      simp [Link.farFrom, hp, hs]
  obtain ⟨node, s, hs, hd, l, hl, hsome⟩ := hplugged
  have hfound : (farEnd net d p).isSome := by
    rw [farEnd, hnet.switchName_eq_some.mpr ⟨s, hs, hd⟩]
    exact List.findSome?_isSome_iff.mpr ⟨l, hl, hsome⟩
  obtain ⟨e', he'⟩ := Option.isSome_iff_exists.mp hfound
  rw [he', (hsound he').unique hnet h]

theorem NetworkOk.mem_wiredPorts (hnet : NetworkOk P net) {d p : ℕ} :
    p ∈ wiredPorts net d ↔ (farEnd net d p).isSome := by
  unfold wiredPorts farEnd
  cases hnode : switchName net d with
  | none => simp
  | some node =>
    simp only [Option.map_some, Option.getD_some, Option.bind_eq_bind, Option.bind_some,
      List.findSome?_isSome_iff, portsOf, List.mem_flatMap]
    obtain ⟨s, hs, -⟩ := hnet.switchName_eq_some.mp hnode
    refine exists_congr fun l => and_congr_right fun hl => ?_
    rcases mem_buildNetwork.mp hl with ⟨name, h, hhost, rfl⟩ | ⟨leaf, link, hlink, rfl⟩
    · by_cases hat : h.switch = node
      · by_cases hp : p = h.port
        · simp [Link.farFrom, hat, hp]
        · simp [Link.farFrom, hat, hp, Ne.symm hp]
      · simp [Link.farFrom, hat]
    · obtain ⟨hne, t, ht⟩ := hnet.switch_of_uplink (Dict.get?_eq_some_iff.mp hlink)
      obtain ⟨c, hc⟩ := Dict.mem_keys_iff.mp (hnet.switches.cores_mem _ List.mem_cons_self)
      by_cases hcore : net.core = node
      · have hleaf : leaf ≠ node := hcore ▸ hne
        by_cases hp : p = link.corePort
        · simp [Link.farFrom, hcore, hleaf, hp, ht]
        · simp [Link.farFrom, hcore, hleaf, hp, Ne.symm hp]
      · by_cases hleaf : leaf = node
        · by_cases hp : p = link.leafPort
          · simp [Link.farFrom, hcore, hleaf, hp, hc]
          · simp [Link.farFrom, hcore, hleaf, hp, Ne.symm hp]
        · simp [Link.farFrom, hcore, hleaf]

theorem NetworkOk.nodup_wiredPorts (hnet : NetworkOk P net) (d : ℕ) : (wiredPorts net d).Nodup := by
  unfold wiredPorts
  cases switchName net d with
  | none => exact List.nodup_nil
  | some node => exact hnet.nodup_portsOf node

/-! ## Ports of a deployment -/

namespace Deployment

variable (D : Deployment)

theorem networkOk : NetworkOk D.policy D.net := loadNetwork_ok D.net_ok

variable {D} {d p q : ℕ} {name : String}

theorem seat_eq_some : seat D.net name = some (d, p) ↔ ∃ h s, D.net.hosts.get? name = some h ∧
    D.net.switches.get? h.switch = some s ∧ s.dpid = d ∧ h.port = p := by
  constructor
  · intro h
    obtain ⟨h', hh, h⟩ := Option.bind_eq_some_iff.mp h
    obtain ⟨s, hs, h⟩ := Option.bind_eq_some_iff.mp h
    cases h
    exact ⟨h', s, hh, hs, rfl, rfl⟩
  · rintro ⟨h, s, hh, hs, rfl, rfl⟩
    simp [seat, hh, hs]

/-- A port leads to a host exactly if the host is plugged in there. -/
theorem farEnd_eq_host : farEnd D.net d p = some (.host name) ↔ seat D.net name = some (d, p) := by
  rw [D.networkOk.farEnd_eq_some_iff, seat_eq_some]
  constructor
  · rintro ⟨hhost, hs, hd, hp⟩
    exact ⟨_, _, hhost, hs, hd, hp⟩
  · rintro ⟨h, s, hhost, hs, hd, hp⟩
    exact .host hhost hs hd hp

/-- A leaf's uplink and the core's port for the leaf lead to each other, and no other port leads to
a switch. -/
theorem farEnd_eq_switch {d' p' : ℕ} : farEnd D.net d p = some (.switch d' p') ↔
    (d' = D.maps.coreDpid ∧ D.maps.leafUplinkPort.get? d = some p ∧
      D.maps.leafCorePort.get? d = some p') ∨
    (d = D.maps.coreDpid ∧ D.maps.leafUplinkPort.get? d' = some p' ∧
      D.maps.leafCorePort.get? d' = some p) := by
  have hnet := D.networkOk
  obtain ⟨⟨core, hcore, hdpid⟩, -⟩ := portMaps_eq_ok D.maps_ok
  have hlink : ∀ {a u c : ℕ}, (D.maps.leafUplinkPort.get? a = some u ∧
      D.maps.leafCorePort.get? a = some c) ↔ ∃ leaf s link, D.net.switches.get? leaf = some s ∧
        D.net.uplinks.get? leaf = some link ∧ s.dpid = a ∧ link.leafPort = u ∧
          link.corePort = c := by
    intro a u c
    rw [get?_leafUplinkPort hnet D.maps_ok, get?_leafCorePort hnet D.maps_ok]
    constructor
    · rintro ⟨⟨leaf, s, link, hs, hlink, rfl, rfl⟩, leaf', s', link', hs', hlink', hd, rfl⟩
      obtain rfl := hnet.switches.dpid_inj _ _ _ _ hs hs' hd.symm
      obtain rfl := Option.some.inj (hlink.symm.trans hlink')
      exact ⟨leaf, s, link, hs, hlink, rfl, rfl, rfl⟩
    · rintro ⟨leaf, s, link, hs, hlink, hd, hu, hc⟩
      exact ⟨⟨leaf, s, link, hs, hlink, hd, hu⟩, leaf, s, link, hs, hlink, hd, hc⟩
  rw [hnet.farEnd_eq_some_iff, hlink, hlink]
  constructor
  · rintro (_ | ⟨hs, hlink, hc, hd, hp⟩ | ⟨hs, hlink, hc, hd, hp⟩)
    · obtain rfl := Option.some.inj (hc.symm.trans hcore)
      exact .inl ⟨hdpid.symm, _, _, _, hs, hlink, hd, hp, rfl⟩
    · obtain rfl := Option.some.inj (hc.symm.trans hcore)
      exact .inr ⟨hd.symm.trans hdpid.symm, _, _, _, hs, hlink, rfl, rfl, hp⟩
  · rintro (⟨rfl, leaf, s, link, hs, hlink, hd, hp, rfl⟩ |
      ⟨rfl, leaf, s, link, hs, hlink, rfl, rfl, hp⟩)
    · exact hdpid ▸ .leaf hs hlink hcore hd hp
    · exact .core hs hlink hcore hdpid.symm hp

/-! ## Directions -/

theorem toward_seat (hseat : seat D.net name = some (d, p)) : toward D d name = some p := by
  simp [toward, hseat]

/-- A host's leaf is behind its port of the core. -/
theorem toward_core (hseat : seat D.net name = some (d, p)) (hleaf : d ≠ D.maps.coreDpid) :
    toward D D.maps.coreDpid name = D.maps.leafCorePort.get? d := by
  simp [toward, hseat, hleaf.symm]

/-- From any other leaf the way leads through the core. -/
theorem toward_leaf {d' : ℕ} (hseat : seat D.net name = some (d, p)) (hne : d' ≠ d)
    (hleaf : d' ≠ D.maps.coreDpid) : toward D d' name = D.maps.leafUplinkPort.get? d' := by
  simp [toward, hseat, hne, hleaf]

/-- A host's port is in its zone, and no uplink. -/
theorem zoneOfPort_seat (hseat : seat D.net name = some (d, p)) : ∃ h,
    D.net.hosts.get? name = some h ∧ zoneOfPort D.maps d p = some h.zone ∧
      isLeafUplink D.maps d p = false := by
  obtain ⟨h, s, hhost, hs, rfl, rfl⟩ := seat_eq_some.mp hseat
  obtain ⟨s', hs', hzone, huplink⟩ := D.networkOk.zoneOfPort_host D.maps_ok hhost
  obtain rfl := Option.some.inj (hs.symm.trans hs')
  exact ⟨h, hhost, hzone, huplink⟩

/-- A leaf has both an uplink and a port of the core, or neither. -/
theorem exists_leafCorePort {u : ℕ} (hup : D.maps.leafUplinkPort.get? d = some u) :
    ∃ c, D.maps.leafCorePort.get? d = some c :=
  Dict.mem_keys_iff.mp ((D.portMapsOk.leaf_core d).mpr
    ((D.portMapsOk.leaf_uplink d).mp (Dict.mem_keys_iff.mpr ⟨u, hup⟩)))

theorem exists_leafUplinkPort_of_core {c : ℕ} (hcore : D.maps.leafCorePort.get? d = some c) :
    ∃ u, D.maps.leafUplinkPort.get? d = some u :=
  Dict.mem_keys_iff.mp ((D.portMapsOk.leaf_uplink d).mpr
    ((D.portMapsOk.leaf_core d).mp (Dict.mem_keys_iff.mpr ⟨c, hcore⟩)))

theorem ne_core_of_uplink {u : ℕ} (hup : D.maps.leafUplinkPort.get? d = some u) :
    d ≠ D.maps.coreDpid := by
  rintro rfl
  rw [D.leafUplinkPort_core] at hup
  cases hup

theorem ne_core_of_corePort {c : ℕ} (hcore : D.maps.leafCorePort.get? d = some c) :
    d ≠ D.maps.coreDpid := by
  obtain ⟨u, hup⟩ := exists_leafUplinkPort_of_core hcore
  exact ne_core_of_uplink hup

/-- A host is not plugged into the core's port for a leaf. -/
theorem seat_ne_corePort {a : ℕ} (hcore : D.maps.leafCorePort.get? a = some q) :
    seat D.net name ≠ some (D.maps.coreDpid, q) := by
  intro hseat
  obtain ⟨u, hup⟩ := exists_leafUplinkPort_of_core hcore
  have hswitch := farEnd_eq_switch.mpr (.inr ⟨rfl, hup, hcore⟩)
  rw [farEnd_eq_host.mpr hseat] at hswitch
  cases hswitch

/-- **The port toward a host leads on toward it**: to the host, or to a switch where its port is
another than the one it leads to. -/
theorem farEnd_toward (htoward : toward D d name = some q) :
    ∃ e, farEnd D.net d q = some e ∧ e.Ahead (toward D) name := by
  obtain ⟨⟨home, port⟩, hseat, -⟩ := Option.bind_eq_some_iff.mp htoward
  by_cases hhome : d = home
  · obtain rfl := hhome
    obtain rfl := Option.some.inj ((toward_seat hseat).symm.trans htoward)
    exact ⟨.host name, farEnd_eq_host.mpr hseat, rfl⟩
  · by_cases hd : d = D.maps.coreDpid
    · subst hd
      rw [toward_core hseat (Ne.symm hhome)] at htoward
      obtain ⟨u, hup⟩ := exists_leafUplinkPort_of_core htoward
      refine ⟨.switch home u, farEnd_eq_switch.mpr (.inr ⟨rfl, hup, htoward⟩), ?_⟩
      intro hback
      obtain rfl := Option.some.inj ((toward_seat hseat).symm.trans hback)
      obtain ⟨-, -, -, huplink⟩ := zoneOfPort_seat hseat
      simp [isLeafUplink, hup] at huplink
    · rw [toward_leaf hseat hhome hd] at htoward
      obtain ⟨c, hcore⟩ := exists_leafCorePort htoward
      refine ⟨.switch D.maps.coreDpid c, farEnd_eq_switch.mpr (.inl ⟨rfl, htoward, hcore⟩), ?_⟩
      intro hback
      by_cases hhost : home = D.maps.coreDpid
      · subst hhost
        obtain rfl := Option.some.inj ((toward_seat hseat).symm.trans hback)
        exact seat_ne_corePort hcore hseat
      · rw [toward_core hseat hhost] at hback
        exact hhome (D.networkOk.leafCorePort_inj D.maps_ok hcore hback)

/-- A frame that leaves by another port than the one toward a host arrives from the host's side. -/
theorem toward_of_farEnd {d' p' : ℕ} (hfar : farEnd D.net d p = some (.switch d' p'))
    (htoward : toward D d name = some q) (hne : q ≠ p) : toward D d' name = some p' := by
  obtain ⟨⟨home, port⟩, hseat, -⟩ := Option.bind_eq_some_iff.mp htoward
  rcases farEnd_eq_switch.mp hfar with ⟨rfl, hup, hcore⟩ | ⟨rfl, hup, hcore⟩
  · have hhome : d = home := by
      by_contra hd
      rw [toward_leaf hseat hd (ne_core_of_uplink hup)] at htoward
      exact hne (Option.some.inj (htoward.symm.trans hup))
    subst hhome
    rw [toward_core hseat (ne_core_of_uplink hup), hcore]
  · have hhome : d' ≠ home := by
      rintro rfl
      rw [toward_core hseat (ne_core_of_corePort hcore)] at htoward
      exact hne (Option.some.inj (htoward.symm.trans hcore))
    rw [toward_leaf hseat hhome (ne_core_of_corePort hcore), hup]

/-- **A frame has a host ahead of it exactly if it left toward the host.** -/
theorem ahead_iff_toward {e : End ℕ ℕ String} (hfar : farEnd D.net d p = some e)
    (htoward : toward D d name = some q) : e.Ahead (toward D) name ↔ q = p := by
  constructor
  · intro hahead
    by_contra hne
    cases e with
    | host name' =>
      obtain rfl : name' = name := hahead
      exact hne (Option.some.inj (htoward.symm.trans (toward_seat (farEnd_eq_host.mp hfar))))
    | switch d' p' => exact hahead (toward_of_farEnd hfar htoward hne)
  · rintro rfl
    obtain ⟨e', hfar', hahead⟩ := farEnd_toward htoward
    rwa [Option.some.inj (hfar.symm.trans hfar')]

variable (D) in
/-- The cables of a deployment, with the directions of its hosts. -/
def cables : HostTree ℕ ℕ String where
  far := farEnd D.net
  toward := toward D
  ahead_iff := ahead_iff_toward

/-! ## Down to a host -/

/-- A port that is no uplink leads down to the hosts that it leads toward. -/
theorem downTo_of_toward {e : End ℕ ℕ String} (hfar : farEnd D.net d p = some e)
    (htoward : toward D d name = some p) (huplink : isLeafUplink D.maps d p = false) :
    DownTo D name e := by
  obtain ⟨⟨home, port⟩, hseat, -⟩ := Option.bind_eq_some_iff.mp htoward
  have hahead := (ahead_iff_toward hfar htoward).mpr rfl
  cases e with
  | host name' => exact hahead
  | switch d' p' =>
    rcases farEnd_eq_switch.mp hfar with ⟨-, hup, -⟩ | ⟨-, hup, -⟩
    · simp [isLeafUplink, hup] at huplink
    · refine ⟨by simp [isLeafUplink, hup], ?_⟩
      rw [hseat]
      by_contra hhome
      have hleaf := toward_leaf hseat (fun h => hhome (h ▸ rfl)) (ne_core_of_uplink hup)
      exact hahead (hleaf.trans hup)

/-- From the core a frame comes down to a host exactly by the port toward it. -/
theorem downTo_far_core {e : End ℕ ℕ String} (hfar : farEnd D.net D.maps.coreDpid p = some e)
    (htoward : toward D D.maps.coreDpid name = some q) : DownTo D name e ↔ p = q := by
  constructor
  · intro hdown
    by_contra hne
    cases e with
    | host name' =>
      obtain rfl : name' = name := hdown
      exact hne ((ahead_iff_toward hfar htoward).mp rfl).symm
    | switch d' p' =>
      obtain ⟨hup, hhome⟩ := hdown
      obtain ⟨⟨home, port⟩, hseat, rfl⟩ := Option.map_eq_some_iff.mp hhome
      have hback := toward_of_farEnd hfar htoward (Ne.symm hne)
      obtain rfl := Option.some.inj ((toward_seat hseat).symm.trans hback)
      obtain ⟨-, -, -, huplink⟩ := zoneOfPort_seat hseat
      rw [hup] at huplink
      cases huplink
  · rintro rfl
    exact downTo_of_toward hfar htoward (D.isLeafUplink_core _)

/-! ## Zones of ports -/

/-- Both ends of a cable between switches are in one zone. -/
theorem zoneOfPort_farEnd {d' p' : ℕ} (hfar : farEnd D.net d p = some (.switch d' p')) :
    zoneOfPort D.maps d' p' = zoneOfPort D.maps d p := by
  rcases farEnd_eq_switch.mp hfar with ⟨rfl, hup, hcore⟩ | ⟨rfl, hup, hcore⟩
  · rw [zoneOfPort, if_pos rfl, zoneOfPort, if_neg (ne_core_of_uplink hup),
      D.portMapsOk.core_port_zone _ _ hcore]
  · rw [zoneOfPort, if_neg (ne_core_of_uplink hup), zoneOfPort, if_pos rfl,
      D.portMapsOk.core_port_zone _ _ hcore]

/-- All ports of a leaf are in the leaf's zone. -/
theorem zoneOfPort_of_leaf (hleaf : d ≠ D.maps.coreDpid) :
    zoneOfPort D.maps d p = zoneOfPort D.maps d q := by
  rw [zoneOfPort, zoneOfPort, if_neg hleaf, if_neg hleaf]

/-- The core's port toward a host is in the host's zone. -/
theorem zoneOfPort_toward_core {h : Host ℕ} (hhost : D.net.hosts.get? name = some h)
    (htoward : toward D D.maps.coreDpid name = some q) :
    zoneOfPort D.maps D.maps.coreDpid q = some h.zone := by
  obtain ⟨⟨home, port⟩, hseat, -⟩ := Option.bind_eq_some_iff.mp htoward
  obtain ⟨h', hhost', hzone, -⟩ := zoneOfPort_seat hseat
  obtain rfl := Option.some.inj (hhost.symm.trans hhost')
  by_cases hhome : home = D.maps.coreDpid
  · subst hhome
    obtain rfl := Option.some.inj ((toward_seat hseat).symm.trans htoward)
    exact hzone
  · rw [toward_core hseat hhome] at htoward
    obtain ⟨u, hup⟩ := exists_leafUplinkPort_of_core htoward
    rw [zoneOfPort_farEnd (farEnd_eq_switch.mpr (.inl ⟨rfl, hup, htoward⟩)),
      zoneOfPort_of_leaf hhome (q := port), hzone]

end Deployment

end ZoneSegmentation
