import ZoneSegmentation.Config.Layout
import Mathlib.Data.List.Perm.Basic

/-!
# The wiring

`topology.py` builds the network from the layout that the controller takes its port maps from. The
maps read a packet's zone off the port it arrived on, so they have to agree with the links that are
really made.

## Main definitions

* `buildNetwork`: the links of `build_network`
* `MapsMatchWiring`: port maps that agree with the links, the switches and the hosts

## Main results

* `portsOf_buildNetwork`: the ports wired on a switch are its attachments
* `portMaps_match_wiring`: every accepted layout has port maps, and they match the wiring
-/

namespace ZoneSegmentation

/-- One call of `addLink`: the nodes it looks up by name, and the ports it states. The port of a
host is left to the network. -/
structure Link where
  node1 : String
  port1 : Option ℕ
  node2 : String
  port2 : ℕ
  deriving DecidableEq

/-- The calls of `addLink` in `build_network`, in their order. -/
def buildNetwork (net : Network) : List Link :=
  net.hosts.entries.map (fun (name, h) => ⟨name, none, h.switch, h.port⟩) ++
    net.uplinks.entries.map fun (leaf, link) => ⟨leaf, some link.leafPort, net.core, link.corePort⟩

/-- The ports of a node that links state. -/
def portsOf (node : String) (links : List Link) : List ℕ :=
  links.flatMap fun l =>
    (if l.node1 = node then l.port1.toList else []) ++ if l.node2 = node then [l.port2] else []

/-- The dpids of the leaf switches. -/
def leafDpids (net : Network) : List ℕ :=
  (net.switches.entries.filter fun e => e.1 ≠ net.core).map fun e => e.2.dpid

/-- Port maps that agree with the wiring of a layout. -/
structure MapsMatchWiring (P : Policy) (net : Network) (M : PortMaps) : Prop where
  switchZone_keys : ∀ d, d ∈ M.switchZone.keys ↔ d ∈ leafDpids net
  leafUplinkPort_keys : ∀ d, d ∈ M.leafUplinkPort.keys ↔ d ∈ leafDpids net
  leafCorePort_keys : ∀ d, d ∈ M.leafCorePort.keys ↔ d ∈ leafDpids net
  coreDpid_notMem : M.coreDpid ∉ leafDpids net
  core_switch : ∃ s, net.switches.get? net.core = some s ∧ s.dpid = M.coreDpid
  host_port : ∀ name host, net.hosts.get? name = some host →
    ∃ s, net.switches.get? host.switch = some s ∧
      zoneOfPort M s.dpid host.port = some host.zone ∧ zoneForIp P host.ip = some host.zone ∧
      isLeafUplink M s.dpid host.port = false
  leaf_uplink : ∀ leaf s, net.switches.get? leaf = some s → leaf ≠ net.core →
    ∃ link, net.uplinks.get? leaf = some link ∧ isLeafUplink M s.dpid link.leafPort = true ∧
      M.leafCorePort.get? s.dpid = some link.corePort ∧
      M.switchZone.get? s.dpid = some s.zone ∧ M.corePortZones.get? link.corePort = some s.zone
  leafCorePort_inj : ∀ d d' p, M.leafCorePort.get? d = some p → M.leafCorePort.get? d' = some p →
    d = d'
  corePorts_nodup : (portsOf net.core (buildNetwork net)).Nodup
  corePortZones_keys : M.corePortZones.keys.Perm (portsOf net.core (buildNetwork net))
  zoneCorePorts_count : ∀ zone p, (zoneCorePorts M zone).count p =
    if M.corePortZones.get? p = some zone then 1 else 0

variable {P : Policy} {net : Network} {M : PortMaps}

/-! ## Wired ports -/

/-- **The ports wired on a switch are those it is attached by.** -/
theorem portsOf_buildNetwork (net : Network) (node : String) :
    portsOf node (buildNetwork net) =
      ((attachments net.core net.uplinks net.hosts).filter fun a => a.1 = node).map
        fun a => a.2.1 := by
  have hhosts : ∀ es : List (String × Host ℕ),
      (es.map fun e => (⟨e.1, none, e.2.switch, e.2.port⟩ : Link)).flatMap (fun l =>
        (if l.node1 = node then l.port1.toList else []) ++
          if l.node2 = node then [l.port2] else []) =
      ((es.map fun e => (e.2.switch, e.2.port, "host " ++ e.1)).filter fun a => a.1 = node).map
        fun a => a.2.1 := by
    intro es
    induction es with
    | nil => rfl
    | cons e es ih => by_cases h : e.2.switch = node <;> simp_all
  have huplinks : ∀ es : List (String × Uplink ℕ),
      (es.map fun e => (⟨e.1, some e.2.leafPort, net.core, e.2.corePort⟩ : Link)).flatMap (fun l =>
        (if l.node1 = node then l.port1.toList else []) ++
          if l.node2 = node then [l.port2] else []) =
      ((es.flatMap fun e => [(e.1, e.2.leafPort, "uplink to core"),
        (net.core, e.2.corePort, "uplink from " ++ e.1)]).filter fun a => a.1 = node).map
        fun a => a.2.1 := by
    intro es
    induction es with
    | nil => rfl
    | cons e es ih => by_cases h : e.1 = node <;> by_cases h' : net.core = node <;> simp_all
  rw [portsOf, buildNetwork, attachments, List.flatMap_append, List.filter_append, List.map_append]
  exact congrArg₂ _ (hhosts net.hosts.entries) (huplinks net.uplinks.entries)

/-- The ports wired on a switch of an accepted layout are pairwise different. -/
theorem NetworkOk.nodup_portsOf (hnet : NetworkOk P net) (node : String) :
    (portsOf node (buildNetwork net)).Nodup := by
  rw [portsOf_buildNetwork]
  apply List.Nodup.map_on
  · intro a ha b hb heq
    obtain ⟨ha, hanode⟩ := List.mem_filter.mp ha
    obtain ⟨hb, hbnode⟩ := List.mem_filter.mp hb
    apply List.inj_on_of_nodup_map hnet.ports ha hb
    rw [of_decide_eq_true hanode, of_decide_eq_true hbnode, heq]
  · exact hnet.ports.of_map.filter _

theorem mem_attachments {a : String × ℕ × String} :
    a ∈ attachments net.core net.uplinks net.hosts ↔
      (∃ name host, net.hosts.get? name = some host ∧
        a = (host.switch, host.port, "host " ++ name)) ∨
      ∃ leaf link, net.uplinks.get? leaf = some link ∧
        (a = (leaf, link.leafPort, "uplink to core") ∨
          a = (net.core, link.corePort, "uplink from " ++ leaf)) := by
  rw [attachments, List.mem_append, List.mem_map, List.mem_flatMap]
  constructor
  · rintro (⟨⟨name, host⟩, he, rfl⟩ | ⟨⟨leaf, link⟩, he, ha⟩)
    · exact .inl ⟨name, host, Dict.get?_eq_some_iff.mpr he, rfl⟩
    · exact .inr ⟨leaf, link, Dict.get?_eq_some_iff.mpr he, by simpa using ha⟩
  · rintro (⟨name, host, hhost, rfl⟩ | ⟨leaf, link, hlink, ha⟩)
    · exact .inl ⟨(name, host), Dict.get?_eq_some_iff.mp hhost, rfl⟩
    · exact .inr ⟨(leaf, link), Dict.get?_eq_some_iff.mp hlink, by simpa using ha⟩

/-- The ports wired on the core: those of the uplinks, and of the hosts that are plugged into it. -/
theorem NetworkOk.mem_portsOf_core (hnet : NetworkOk P net) {p : ℕ} :
    p ∈ portsOf net.core (buildNetwork net) ↔
      (∃ leaf link, net.uplinks.get? leaf = some link ∧ link.corePort = p) ∨
      ∃ name host, net.hosts.get? name = some host ∧ host.switch = net.core ∧ host.port = p := by
  rw [portsOf_buildNetwork, List.mem_map]
  simp only [List.mem_filter, mem_attachments, decide_eq_true_eq]
  constructor
  · rintro ⟨a, ⟨⟨name, host, hhost, rfl⟩ | ⟨leaf, link, hlink, rfl | rfl⟩, hcore⟩, hp⟩
    · exact .inr ⟨name, host, hhost, hcore, hp⟩
    · exact absurd hcore (hnet.switch_of_uplink (Dict.get?_eq_some_iff.mp hlink)).1
    · exact .inl ⟨leaf, link, hlink, hp⟩
  · rintro (⟨leaf, link, hlink, rfl⟩ | ⟨name, host, hhost, hcore, rfl⟩)
    · exact ⟨_, ⟨.inr ⟨leaf, link, hlink, .inr rfl⟩, rfl⟩, rfl⟩
    · exact ⟨_, ⟨.inl ⟨name, host, hhost, rfl⟩, hcore⟩, rfl⟩

/-- No host is plugged into the uplink port of its switch. -/
theorem NetworkOk.host_port_ne_leafPort (hnet : NetworkOk P net) {name : String} {host : Host ℕ}
    (hhost : net.hosts.get? name = some host) {link : Uplink ℕ}
    (hlink : net.uplinks.get? host.switch = some link) : link.leafPort ≠ host.port := by
  intro heq
  have hnodup := hnet.ports
  rw [attachments, List.map_append] at hnodup
  -- the same pair of a switch and a port would stand in both halves of the list
  apply List.disjoint_of_nodup_append hnodup (a := (host.switch, host.port))
  · exact List.mem_map.mpr ⟨(host.switch, host.port, "host " ++ name),
      List.mem_map.mpr ⟨(name, host), Dict.get?_eq_some_iff.mp hhost, rfl⟩, rfl⟩
  · exact List.mem_map.mpr ⟨(host.switch, link.leafPort, "uplink to core"),
      List.mem_flatMap.mpr ⟨(host.switch, link), Dict.get?_eq_some_iff.mp hlink, by simp⟩,
      by rw [heq]⟩

/-! ## Port maps -/

/-- An accepted layout has port maps: no lookup of a switch fails. -/
theorem NetworkOk.exists_portMaps (hnet : NetworkOk P net) : ∃ M, portMaps net = .ok M := by
  obtain ⟨core, hcore⟩ := Dict.mem_keys_iff.mp (hnet.switches.cores_mem _ List.mem_cons_self)
  have hlinks : net.uplinks.entries.mapM (fun e => do return (← net.switch e.1, e.2)) =
      .ok (net.uplinks.entries.map fun e => ((net.switches.get? e.1).getD core, e.2)) := by
    apply Loop.mapM_eq_ok_map
    intro e he
    obtain ⟨-, s, hs⟩ := hnet.switch_of_uplink he
    simp [Network.switch, hs, orRaise, bind, Except.bind, pure, Except.pure]
  simp only [portMaps, Loop.bind_eq_ok]
  exact ⟨_, _, hlinks, core, by simp [Network.switch, hcore, orRaise], rfl⟩

theorem mem_leafDpids {d : ℕ} : d ∈ leafDpids net ↔
    ∃ name s, net.switches.get? name = some s ∧ name ≠ net.core ∧ s.dpid = d := by
  rw [leafDpids, List.mem_map]
  constructor
  · rintro ⟨⟨name, s⟩, he, rfl⟩
    obtain ⟨he, hne⟩ := List.mem_filter.mp he
    exact ⟨name, s, Dict.get?_eq_some_iff.mpr he, of_decide_eq_true hne, rfl⟩
  · rintro ⟨name, s, hs, hne, rfl⟩
    exact ⟨(name, s), List.mem_filter.mpr ⟨Dict.get?_eq_some_iff.mp hs, decide_eq_true hne⟩, rfl⟩

/-- The leaves are the dpids that have a zone. -/
theorem NetworkOk.mem_switchZone_keys (hnet : NetworkOk P net) (h : portMaps net = .ok M) (d : ℕ) :
    d ∈ M.switchZone.keys ↔ d ∈ leafDpids net := by
  rw [Dict.mem_keys_iff, mem_leafDpids]
  simp only [get?_switchZone hnet h]
  constructor
  · rintro ⟨z, name, s, hs, hne, hd, -⟩
    exact ⟨name, s, hs, hne, hd⟩
  · rintro ⟨name, s, hs, hne, hd⟩
    exact ⟨s.zone, name, s, hs, hne, hd, rfl⟩

/-- The zone of a host's port is the host's, and the port faces no core. -/
theorem NetworkOk.zoneOfPort_host (hnet : NetworkOk P net) (h : portMaps net = .ok M)
    {name : String} {host : Host ℕ} (hhost : net.hosts.get? name = some host) :
    ∃ s, net.switches.get? host.switch = some s ∧
      zoneOfPort M s.dpid host.port = some host.zone ∧ isLeafUplink M s.dpid host.port = false := by
  obtain ⟨-, s, hs, hleaf⟩ := hnet.hosts name host hhost
  obtain ⟨core, hcore, hcoreDpid⟩ := (portMaps_eq_ok h).1
  refine ⟨s, hs, ?_, ?_⟩
  · by_cases hne : host.switch = net.core
    · obtain rfl : s = core := by rw [hne, hcore] at hs; exact (Option.some.inj hs).symm
      rw [zoneOfPort, if_pos hcoreDpid.symm,
        (get?_corePortZones hnet h).mpr (.inr ⟨name, host, hhost, hne, rfl, rfl⟩)]
      rfl
    · have hdpid : s.dpid ≠ M.coreDpid := fun hd =>
        hne (hnet.switches.dpid_inj _ _ _ _ hs hcore (hd.trans hcoreDpid))
      rw [zoneOfPort, if_neg hdpid,
        (get?_switchZone hnet h).mpr ⟨host.switch, s, hs, hne, rfl, hleaf hne⟩]
      rfl
  · rw [isLeafUplink, decide_eq_false_iff_not, get?_leafUplinkPort hnet h]
    rintro ⟨leaf, s', link, hs', hlink, hd, hport⟩
    obtain rfl := hnet.switches.dpid_inj _ _ _ _ hs' hs hd
    exact hnet.host_port_ne_leafPort hhost hlink hport

/-- Two leaves are never reached through one core port. -/
theorem NetworkOk.leafCorePort_inj (hnet : NetworkOk P net) (h : portMaps net = .ok M)
    {d d' p : ℕ} (hd : M.leafCorePort.get? d = some p) (hd' : M.leafCorePort.get? d' = some p) :
    d = d' := by
  obtain ⟨leaf, s, link, hs, hlink, rfl, hp⟩ := (get?_leafCorePort hnet h).mp hd
  obtain ⟨leaf', s', link', hs', hlink', rfl, hp'⟩ := (get?_leafCorePort hnet h).mp hd'
  have hnodup : ((leafLinks net).map fun l => l.2.corePort).Nodup :=
    (List.nodup_append.mp hnet.nodup_corePorts).1
  have heq : (s, link) = (s', link') := List.inj_on_of_nodup_map hnodup
    (mem_leafLinks.mpr ⟨leaf, hs, hlink⟩) (mem_leafLinks.mpr ⟨leaf', hs', hlink'⟩)
    (hp.trans hp'.symm)
  rw [(Prod.mk.inj heq).1]

/-- The core ports with a zone are those wired on the core. -/
theorem NetworkOk.mem_corePortZones_keys (hnet : NetworkOk P net) (h : portMaps net = .ok M)
    (p : ℕ) : p ∈ M.corePortZones.keys ↔ p ∈ portsOf net.core (buildNetwork net) := by
  rw [Dict.mem_keys_iff, hnet.mem_portsOf_core]
  simp only [get?_corePortZones hnet h]
  constructor
  · rintro ⟨z, ⟨leaf, s, link, -, hlink, hp, -⟩ | ⟨name, host, hhost, hcore, hp, -⟩⟩
    · exact .inl ⟨leaf, link, hlink, hp⟩
    · exact .inr ⟨name, host, hhost, hcore, hp⟩
  · rintro (⟨leaf, link, hlink, hp⟩ | ⟨name, host, hhost, hcore, hp⟩)
    · obtain ⟨-, s, hs⟩ := hnet.switch_of_uplink (Dict.get?_eq_some_iff.mp hlink)
      exact ⟨s.zone, .inl ⟨leaf, s, link, hs, hlink, hp, rfl⟩⟩
    · exact ⟨host.zone, .inr ⟨name, host, hhost, hcore, hp, rfl⟩⟩

/-- A core port stands once under its zone, and under no other. -/
theorem count_zoneCorePorts (M : PortMaps) (zone : Option String) (p : ℕ) :
    (zoneCorePorts M zone).count p = if M.corePortZones.get? p = some zone then 1 else 0 := by
  have hnodup : (zoneCorePorts M zone).Nodup := by
    rw [zoneCorePorts_eq]
    exact M.corePortZones.nodup.sublist (List.filter_sublist.map _)
  simp only [hnodup.count, mem_zoneCorePorts]

/-- **The port maps agree with the wiring.** Every layout that `load_network` accepts against the
zones of the policy has port maps, and they match the links that `build_network` makes of it. -/
theorem portMaps_match_wiring {raw : Json} (hload : loadNetwork P raw P.zones = .ok net) :
    ∃ M, portMaps net = .ok M ∧ MapsMatchWiring P net M := by
  have hnet := loadNetwork_ok hload
  obtain ⟨M, h⟩ := hnet.exists_portMaps
  have hok := portMaps_ok hnet h
  obtain ⟨core, hcore, hcoreDpid⟩ := (portMaps_eq_ok h).1
  refine ⟨M, h, hnet.mem_switchZone_keys h, ?_, ?_, ?_, ⟨core, hcore, hcoreDpid.symm⟩, ?_, ?_, ?_,
    hnet.nodup_portsOf _, ?_, count_zoneCorePorts M⟩
  · intro d
    exact (hok.leaf_uplink d).trans (hnet.mem_switchZone_keys h d)
  · intro d
    exact (hok.leaf_core d).trans (hnet.mem_switchZone_keys h d)
  · rw [← hnet.mem_switchZone_keys h]
    exact Dict.get?_eq_none_iff.mp hok.core_not_leaf
  · intro name host hhost
    obtain ⟨s, hs, hzone, huplink⟩ := hnet.zoneOfPort_host h hhost
    exact ⟨s, hs, hzone, (hnet.hosts name host hhost).1, huplink⟩
  · intro leaf s hs hne
    obtain ⟨link, hlink⟩ := Dict.mem_keys_iff.mp
      ((hnet.uplinks leaf).mpr ⟨Dict.mem_keys_iff.mpr ⟨s, hs⟩, hne⟩)
    refine ⟨link, hlink, decide_eq_true ?_, ?_, ?_, ?_⟩
    · exact (get?_leafUplinkPort hnet h).mpr ⟨leaf, s, link, hs, hlink, rfl, rfl⟩
    · exact (get?_leafCorePort hnet h).mpr ⟨leaf, s, link, hs, hlink, rfl, rfl⟩
    · exact (get?_switchZone hnet h).mpr ⟨leaf, s, hs, hne, rfl, rfl⟩
    · exact (get?_corePortZones hnet h).mpr (.inl ⟨leaf, s, link, hs, hlink, rfl, rfl⟩)
  · intro d d' p hd hd'
    exact hnet.leafCorePort_inj h hd hd'
  · exact (List.perm_ext_iff_of_nodup M.corePortZones.nodup (hnet.nodup_portsOf _)).mpr
      (hnet.mem_corePortZones_keys h)

theorem portMaps_match_wiring_network :
    ∃ M, portMaps network = .ok M ∧ MapsMatchWiring policy network M :=
  portMaps_match_wiring loadNetwork_networkJson

end ZoneSegmentation
