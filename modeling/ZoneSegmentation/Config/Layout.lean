import ZoneSegmentation.Config.Readings
import Mathlib.Data.List.Pairwise

/-!
# Accepted layouts

What a layout that `load_network` accepted satisfies, and what that says about the port maps the
controller derives from it.

## Main definitions

* `SwitchesOk`, `NetworkOk`: checked switches, an accepted layout
* `PortMapsOk`: port maps that agree with each other
* `Deployment`: a policy and a layout that were accepted, with the port maps

## Main results

* `loadSwitches_ok`, `loadUplinks_ok`, `loadHosts_ok`, `PortsRead.attachedTo`: what the passes of
  the loader check
* `portMaps_ok`: the port maps of an accepted layout agree
-/

namespace ZoneSegmentation

theorem positiveInt?_pos {x : Json} {n : ℕ} (h : positiveInt? x = some n) : 0 < n := by
  obtain ⟨m, -, hm⟩ := Option.bind_eq_some_iff.mp h
  split at hm
  · cases hm
    omega
  · cases hm

/-! ## Switches -/

/-- The switches of a layout: each has its own positive dpid, and all but the cores have a zone of
the table. -/
structure SwitchesOk (zones : Dict String ZoneEntry) (cores : List String)
    (switches : Dict String Switch) : Prop where
  cores_mem : ∀ c ∈ cores, c ∈ switches.keys
  zone_mem : ∀ name s, switches.get? name = some s → name ∉ cores →
    ∃ z ∈ zones.keys, s.zone = some z
  dpid_pos : ∀ name s, switches.get? name = some s → 0 < s.dpid
  dpid_inj : ∀ name name' s s', switches.get? name = some s → switches.get? name' = some s' →
    s.dpid = s'.dpid → name = name'

/-- The switches that `_load_switches` returns: one core, the others with a zone. -/
theorem loadSwitches_ok {raw : Json} {zones : Dict String ZoneEntry} {core : String}
    {switches : Dict String Switch} (h : loadSwitches raw zones = .ok (core, switches)) :
    SwitchesOk zones [core] switches := by
  obtain ⟨members, ss, -, hss, htable⟩ := loadSwitches_eq_ok_iff.mp h
  obtain ⟨hcores, rfl⟩ := Prod.mk.inj htable
  have hread {name : String} {s : Switch} (hs : (Dict.ofList ss).get? name = some s) :
      ∃ m, SwitchRead zones m (name, s) := by
    obtain ⟨m, -, hm⟩ :=
      Loop.exists_of_forall₂_of_mem_left hss.read.flip (Dict.mem_of_get?_ofList hs)
    exact ⟨m, hm⟩
  refine ⟨?_, ?_, ?_, ?_⟩
  · intro c hc
    rw [← hcores] at hc
    obtain ⟨s, hs, rfl⟩ := List.mem_map.mp hc
    exact Dict.mem_keys_ofList.mpr (List.mem_map_of_mem (List.mem_of_mem_filter hs))
  · intro name s hs hne
    obtain ⟨m, hm⟩ := hread hs
    rcases hm.zone with ⟨-, hzone⟩ | ⟨-, z, hz, -, hzone⟩
    · refine absurd ?_ hne
      rw [← hcores]
      apply List.mem_map_of_mem (f := Prod.fst) (a := (name, s))
      exact List.mem_filter.mpr ⟨Dict.mem_of_get?_ofList hs, by simpa using hzone⟩
    · exact ⟨z, hz, hzone⟩
  · intro name s hs
    obtain ⟨m, hm⟩ := hread hs
    obtain ⟨d, -, hd⟩ := Option.bind_eq_some_iff.mp hm.dpid
    exact positiveInt?_pos hd
  · intro name name' s s' hs hs' heq
    have hsymm : Std.Symm DpidsDiffer := ⟨fun s t hst => Ne.symm hst⟩
    by_contra hne
    exact hss.apart.forall (Dict.mem_of_get?_ofList hs) (Dict.mem_of_get?_ofList hs')
      (fun h => hne (congrArg Prod.fst h)) heq

/-! ## Uplinks -/

/-- The uplinks that `_load_uplinks` returns: exactly one for each leaf. -/
theorem loadUplinks_ok {raw : Json} {switches : Dict String Switch} {core : String}
    {uplinks : Dict String (Uplink Json)} (h : loadUplinks raw switches core = .ok uplinks)
    (name : String) : name ∈ uplinks.keys ↔ name ∈ switches.keys ∧ name ≠ core := by
  obtain ⟨links, us, -, hus, hall, rfl⟩ := loadUplinks_eq_ok_iff.mp h
  rw [Dict.mem_keys_ofList]
  constructor
  · intro hname
    obtain ⟨u, hu, rfl⟩ := List.mem_map.mp hname
    obtain ⟨link, -, hread⟩ := Loop.exists_of_forall₂_of_mem_left hus.read.flip hu
    exact ⟨hread.known, hread.ne_core⟩
  · rintro ⟨hname, hne⟩
    exact hall name hname hne

/-! ## Ports -/

/-- Where an attachment is plugged in. -/
def attachedTo (a : String × Json × String) : String × ℕ := (a.1, portNumber a.2.1)

/-- No two attachments share a port, and all are at ports with a number. -/
theorem PortsRead.attachedTo {as : List (String × Json × String)}
    {ks : List ((String × ℕ) × String)} (h : PortsRead as ks) :
    (as.map attachedTo).Nodup ∧ ∀ a ∈ as, 0 < portNumber a.2.1 := by
  have hnumber {a : String × Json × String} {k : (String × ℕ) × String} (hread : PortRead a k) :
      portNumber a.2.1 = k.1.2 := by
    rw [portNumber, hread.port, Option.getD_some]
  constructor
  · have hkeys : ks.map Prod.fst = as.map ZoneSegmentation.attachedTo :=
      h.map_eq fun a k hread => Prod.ext hread.switch (hnumber hread).symm
    rw [← hkeys, List.Nodup, List.pairwise_map]
    exact h.apart
  · intro a ha
    obtain ⟨k, -, hread⟩ := Loop.exists_of_forall₂_of_mem_left h.read ha
    rw [hnumber hread]
    exact positiveInt?_pos hread.port

/-! ## Hosts -/

/-- The hosts that `_load_hosts` returns: each in the zone of its address, on a switch that its
zone may use. -/
theorem loadHosts_ok {P : Policy} {raw : Json} {switches : Dict String Switch} {core : String}
    {zones : Dict String ZoneEntry} {hosts : Dict String (Host Json)}
    (h : loadHosts P raw switches core zones = .ok hosts) (name : String) (host : Host Json)
    (hhost : hosts.get? name = some host) :
    zoneForIp P host.ip = some host.zone ∧ ∃ s, switches.get? host.switch = some s ∧
      (host.switch ≠ core → s.zone = some host.zone) := by
  obtain ⟨members, hs, -, hhs, rfl⟩ := loadHosts_eq_ok_iff.mp h
  obtain ⟨m, -, hread⟩ :=
    Loop.exists_of_forall₂_of_mem_left hhs.read.flip (Dict.mem_of_get?_ofList hhost)
  exact ⟨hread.zone, hread.plugged⟩

/-! ## Layouts -/

/-- An accepted layout: the switches, uplinks and hosts of each pass, and no port used twice. -/
structure NetworkOk (P : Policy) (net : Network) : Prop where
  switches : SwitchesOk P.zones [net.core] net.switches
  uplinks : ∀ name, name ∈ net.uplinks.keys ↔ name ∈ net.switches.keys ∧ name ≠ net.core
  hosts : ∀ name host, net.hosts.get? name = some host → zoneForIp P host.ip = some host.zone ∧
    ∃ s, net.switches.get? host.switch = some s ∧ (host.switch ≠ net.core → s.zone = some host.zone)
  ports : ((attachments net.core net.uplinks net.hosts).map fun a => (a.1, a.2.1)).Nodup
  ports_pos : ∀ a ∈ attachments net.core net.uplinks net.hosts, 0 < a.2.1

/-- Checking the ports, and then reading them as numbers, keeps the attachments. -/
theorem attachments_mapValues {core : String} {uplinks : Dict String (Uplink Json)}
    {hosts : Dict String (Host Json)} :
    attachments core (uplinks.mapValues fun u => ⟨portNumber u.leafPort, portNumber u.corePort⟩)
        (hosts.mapValues fun h => { h with port := portNumber h.port }) =
      (attachments core uplinks hosts).map fun a => (a.1, portNumber a.2.1, a.2.2) := by
  simp [attachments, Dict.mapValues, List.map_flatMap, List.flatMap_map, Function.comp_def]

/-- **What `load_network` accepts** against the zones of the policy. -/
theorem loadNetwork_ok {P : Policy} {raw : Json} {net : Network}
    (h : loadNetwork P raw P.zones = .ok net) : NetworkOk P net := by
  obtain ⟨core, switches, uplinks, hosts, hswitches, huplinks, hhosts, ⟨ks, hks⟩, rfl⟩ :=
    loadNetwork_eq_ok_iff.mp h
  obtain ⟨hnodup, hpos⟩ := hks.attachedTo
  refine ⟨loadSwitches_ok hswitches, fun name => ?_, fun name host hhost => ?_, ?_, ?_⟩
  · rw [checkedNetwork, Dict.keys_mapValues]
    exact loadUplinks_ok huplinks name
  · obtain ⟨host', hmem, rfl⟩ :=
      Dict.mem_entries_mapValues.mp (Dict.get?_eq_some_iff.mp hhost)
    exact loadHosts_ok hhosts name host' (Dict.get?_eq_some_iff.mpr hmem)
  · rw [checkedNetwork, attachments_mapValues, List.map_map]
    exact hnodup
  · rw [checkedNetwork, attachments_mapValues]
    rintro _ hmem
    obtain ⟨a, ha, rfl⟩ := List.mem_map.mp hmem
    exact hpos a ha

/-! ## Port maps -/

section

variable {P : Policy} {net : Network} {M : PortMaps}

/-- The uplinks of a layout with their leaf switches. -/
def leafLinks (net : Network) : List (Switch × Uplink ℕ) :=
  net.uplinks.entries.filterMap fun e => (net.switches.get? e.1).map fun s => (s, e.2)

theorem mem_leafLinks {s : Switch} {link : Uplink ℕ} :
    (s, link) ∈ leafLinks net ↔
      ∃ leaf, net.switches.get? leaf = some s ∧ net.uplinks.get? leaf = some link := by
  constructor
  · intro h
    obtain ⟨⟨leaf, link'⟩, he, h⟩ := List.mem_filterMap.mp h
    obtain ⟨s', hs, heq⟩ := Option.map_eq_some_iff.mp h
    obtain ⟨rfl, rfl⟩ := Prod.mk.inj heq
    exact ⟨leaf, hs, Dict.get?_eq_some_iff.mpr he⟩
  · rintro ⟨leaf, hs, hlink⟩
    exact List.mem_filterMap.mpr ⟨(leaf, link), Dict.get?_eq_some_iff.mp hlink, by simp [hs]⟩

theorem mapM_switch_eq_ok {entries : List (String × Uplink ℕ)} {links : List (Switch × Uplink ℕ)}
    (h : entries.mapM (fun e => do return (← net.switch e.1, e.2)) = .ok links) :
    links = entries.filterMap fun e => (net.switches.get? e.1).map fun s => (s, e.2) := by
  have hrows := Loop.forall₂_of_mapM_eq_ok h
  clear h
  induction hrows with
  | nil => rfl
  | cons hhead _ ih =>
    obtain ⟨s, hs, hlink⟩ := Loop.bind_eq_ok.mp hhead
    cases hlink
    rw [List.filterMap_cons, orRaise_eq_ok.mp hs, ← ih]
    rfl

/-- The port maps of a layout. -/
theorem portMaps_eq_ok (h : portMaps net = .ok M) :
    (∃ s, net.switches.get? net.core = some s ∧ M.coreDpid = s.dpid) ∧
      M.switchZone = Dict.ofList ((net.switches.entries.filter fun e => e.1 ≠ net.core).map
        fun e => (e.2.dpid, e.2.zone)) ∧
      M.leafUplinkPort = Dict.ofList ((leafLinks net).map fun l => (l.1.dpid, l.2.leafPort)) ∧
      M.leafCorePort = Dict.ofList ((leafLinks net).map fun l => (l.1.dpid, l.2.corePort)) ∧
      M.corePortZones = Dict.ofList ((leafLinks net).map (fun l => (l.2.corePort, l.1.zone)) ++
        (net.hosts.values.filter fun h => h.switch = net.core).map fun h =>
          (h.port, some h.zone)) := by
  simp only [portMaps, Loop.bind_eq_ok] at h
  obtain ⟨links, hlinks, s, hs, h⟩ := h
  obtain rfl := mapM_switch_eq_ok hlinks
  cases h
  refine ⟨⟨s, orRaise_eq_ok.mp hs, rfl⟩, rfl, rfl, rfl, ?_⟩
  simp only [Dict.ofList, List.foldl_append, List.foldl_map]
  rfl

/-- The dpids of the leaves of an accepted layout are pairwise different. -/
theorem NetworkOk.nodup_leafDpids (hnet : NetworkOk P net) :
    ((leafLinks net).map fun l => l.1.dpid).Nodup := by
  have hkeys : net.uplinks.entries.Pairwise fun e e' => e.1 ≠ e'.1 :=
    List.pairwise_map.mp net.uplinks.nodup
  rw [List.nodup_iff_pairwise_ne, List.pairwise_map, leafLinks, List.pairwise_filterMap]
  refine hkeys.imp fun {e e'} hne => ?_
  intro l hl l' hl' heq
  obtain ⟨s, hs, rfl⟩ := Option.map_eq_some_iff.mp hl
  obtain ⟨s', hs', rfl⟩ := Option.map_eq_some_iff.mp hl'
  exact hne (hnet.switches.dpid_inj _ _ _ _ hs hs' heq)

theorem NetworkOk.switch_of_uplink (hnet : NetworkOk P net) {e : String × Uplink ℕ}
    (he : e ∈ net.uplinks.entries) :
    e.1 ≠ net.core ∧ ∃ s, net.switches.get? e.1 = some s := by
  obtain ⟨hmem, hne⟩ := (hnet.uplinks e.1).mp (List.mem_map_of_mem he)
  exact ⟨hne, Dict.mem_keys_iff.mp hmem⟩

/-- The core ports of an accepted layout are pairwise different. -/
theorem NetworkOk.nodup_corePorts (hnet : NetworkOk P net) :
    ((leafLinks net).map (fun l => l.2.corePort) ++
      (net.hosts.values.filter fun h => h.switch = net.core).map fun h => h.port).Nodup := by
  let onCore := (attachments net.core net.uplinks net.hosts).filter fun a => a.1 = net.core
  -- every uplink belongs to a switch, so that none is lost among the links
  have hlinks : (leafLinks net).map (fun l => l.2.corePort) =
      net.uplinks.entries.map fun e => e.2.corePort := by
    rw [leafLinks, List.map_filterMap, ← List.filterMap_eq_map']
    refine List.filterMap_congr fun e he => ?_
    obtain ⟨-, s, hs⟩ := hnet.switch_of_uplink he
    simp [hs]
  have honCore : onCore.map (fun a => a.2.1) =
      (net.hosts.values.filter fun h => h.switch = net.core).map (fun h => h.port) ++
        (leafLinks net).map fun l => l.2.corePort := by
    have hends : net.uplinks.entries.flatMap (fun e => List.filter (fun a => a.1 = net.core)
        [(e.1, e.2.leafPort, "uplink to core"), (net.core, e.2.corePort, "uplink from " ++ e.1)]) =
        net.uplinks.entries.map fun e => (net.core, e.2.corePort, "uplink from " ++ e.1) := by
      rw [← List.flatMap_pure_eq_map]
      refine List.flatMap_congr fun e he => ?_
      simp [(hnet.switch_of_uplink he).1]
    simp only [onCore, attachments, List.filter_append, List.filter_flatMap, hends, hlinks,
      List.map_append, List.map_map, List.filter_map, Dict.values]
    rfl
  have hnodup : (onCore.map fun a => (a.1, a.2.1)).Nodup :=
    hnet.ports.sublist (List.filter_sublist.map _)
  have hpairs : onCore.map (fun a => (a.1, a.2.1)) =
      (onCore.map fun a => a.2.1).map fun p => (net.core, p) := by
    rw [List.map_map]
    refine List.map_congr_left fun a ha => ?_
    simp [of_decide_eq_true (List.mem_filter.mp ha).2]
  rw [hpairs, honCore] at hnodup
  exact List.nodup_append_comm.mp hnodup.of_map

/-- The dpids of the leaf switches are pairwise different. -/
theorem NetworkOk.nodup_dpids (hnet : NetworkOk P net) :
    ((net.switches.entries.filter fun e => e.1 ≠ net.core).map fun e => e.2.dpid).Nodup := by
  refine List.Nodup.sublist (List.filter_sublist.map _) ?_
  refine List.Nodup.map_on (fun e he e' he' heq => ?_) (List.Nodup.of_map _ net.switches.nodup)
  exact List.inj_on_of_nodup_map net.switches.nodup he he' (hnet.switches.dpid_inj _ _ _ _
    (Dict.get?_eq_some_iff.mpr he) (Dict.get?_eq_some_iff.mpr he') heq)

/-! ## What the maps say -/

theorem get?_switchZone (hnet : NetworkOk P net) (h : portMaps net = .ok M) {d : ℕ}
    {z : Option String} : M.switchZone.get? d = some z ↔
      ∃ name s, net.switches.get? name = some s ∧ name ≠ net.core ∧ s.dpid = d ∧ s.zone = z := by
  rw [(portMaps_eq_ok h).2.1, Dict.get?_ofList_eq_some_iff (by
    rw [List.map_map]
    exact hnet.nodup_dpids)]
  constructor
  · intro hmem
    obtain ⟨⟨name, s⟩, he, heq⟩ := List.mem_map.mp hmem
    obtain ⟨he, hne⟩ := List.mem_filter.mp he
    obtain ⟨rfl, rfl⟩ := Prod.mk.inj heq
    exact ⟨name, s, Dict.get?_eq_some_iff.mpr he, of_decide_eq_true hne, rfl, rfl⟩
  · rintro ⟨name, s, hs, hne, rfl, rfl⟩
    exact List.mem_map.mpr ⟨(name, s), List.mem_filter.mpr
      ⟨Dict.get?_eq_some_iff.mp hs, decide_eq_true hne⟩, rfl⟩

theorem get?_ofList_leafLinks (hnet : NetworkOk P net) (port : Uplink ℕ → ℕ) {d p : ℕ} :
    (Dict.ofList ((leafLinks net).map fun l => (l.1.dpid, port l.2))).get? d = some p ↔
      ∃ leaf s link, net.switches.get? leaf = some s ∧ net.uplinks.get? leaf = some link ∧
        s.dpid = d ∧ port link = p := by
  rw [Dict.get?_ofList_eq_some_iff (by
    rw [List.map_map]
    exact hnet.nodup_leafDpids)]
  constructor
  · intro hmem
    obtain ⟨⟨s, link⟩, hl, heq⟩ := List.mem_map.mp hmem
    obtain ⟨leaf, hs, hlink⟩ := mem_leafLinks.mp hl
    obtain ⟨rfl, rfl⟩ := Prod.mk.inj heq
    exact ⟨leaf, s, link, hs, hlink, rfl, rfl⟩
  · rintro ⟨leaf, s, link, hs, hlink, rfl, rfl⟩
    exact List.mem_map.mpr ⟨(s, link), mem_leafLinks.mpr ⟨leaf, hs, hlink⟩, rfl⟩

theorem get?_leafUplinkPort (hnet : NetworkOk P net) (h : portMaps net = .ok M) {d p : ℕ} :
    M.leafUplinkPort.get? d = some p ↔
      ∃ leaf s link, net.switches.get? leaf = some s ∧ net.uplinks.get? leaf = some link ∧
        s.dpid = d ∧ link.leafPort = p := by
  rw [(portMaps_eq_ok h).2.2.1]
  exact get?_ofList_leafLinks hnet Uplink.leafPort

theorem get?_leafCorePort (hnet : NetworkOk P net) (h : portMaps net = .ok M) {d p : ℕ} :
    M.leafCorePort.get? d = some p ↔
      ∃ leaf s link, net.switches.get? leaf = some s ∧ net.uplinks.get? leaf = some link ∧
        s.dpid = d ∧ link.corePort = p := by
  rw [(portMaps_eq_ok h).2.2.2.1]
  exact get?_ofList_leafLinks hnet Uplink.corePort

theorem get?_corePortZones (hnet : NetworkOk P net) (h : portMaps net = .ok M) {p : ℕ}
    {z : Option String} : M.corePortZones.get? p = some z ↔
      (∃ leaf s link, net.switches.get? leaf = some s ∧ net.uplinks.get? leaf = some link ∧
        link.corePort = p ∧ s.zone = z) ∨
      ∃ name host, net.hosts.get? name = some host ∧ host.switch = net.core ∧ host.port = p ∧
        some host.zone = z := by
  rw [(portMaps_eq_ok h).2.2.2.2, Dict.get?_ofList_eq_some_iff (by
    rw [List.map_append, List.map_map, List.map_map]
    exact hnet.nodup_corePorts), List.mem_append]
  constructor
  · rintro (hmem | hmem)
    · obtain ⟨⟨s, link⟩, hl, heq⟩ := List.mem_map.mp hmem
      obtain ⟨leaf, hs, hlink⟩ := mem_leafLinks.mp hl
      obtain ⟨rfl, rfl⟩ := Prod.mk.inj heq
      exact .inl ⟨leaf, s, link, hs, hlink, rfl, rfl⟩
    · obtain ⟨host, hhost, heq⟩ := List.mem_map.mp hmem
      obtain ⟨hvalue, hcore⟩ := List.mem_filter.mp hhost
      obtain ⟨⟨name, host⟩, he, rfl⟩ := List.mem_map.mp hvalue
      obtain ⟨rfl, rfl⟩ := Prod.mk.inj heq
      exact .inr ⟨name, host, Dict.get?_eq_some_iff.mpr he, of_decide_eq_true hcore, rfl, rfl⟩
  · rintro (⟨leaf, s, link, hs, hlink, rfl, rfl⟩ | ⟨name, host, hhost, hcore, rfl, rfl⟩)
    · exact .inl (List.mem_map.mpr ⟨(s, link), mem_leafLinks.mpr ⟨leaf, hs, hlink⟩, rfl⟩)
    · exact .inr (List.mem_map.mpr ⟨host, List.mem_filter.mpr
        ⟨List.mem_map_of_mem (Dict.get?_eq_some_iff.mp hhost), decide_eq_true hcore⟩, rfl⟩)

/-- The port maps agree on the switches: every leaf has a zone, an uplink, and a core port of its
own zone; the core is not a leaf. -/
structure PortMapsOk (P : Policy) (M : PortMaps) : Prop where
  core_not_leaf : M.switchZone.get? M.coreDpid = none
  leaf_zone : ∀ d z, M.switchZone.get? d = some z → ∃ name ∈ P.zones.keys, z = some name
  core_zone : ∀ p z, M.corePortZones.get? p = some z → ∃ name ∈ P.zones.keys, z = some name
  leaf_uplink : ∀ d, d ∈ M.leafUplinkPort.keys ↔ d ∈ M.switchZone.keys
  leaf_core : ∀ d, d ∈ M.leafCorePort.keys ↔ d ∈ M.switchZone.keys
  core_port_zone : ∀ d p, M.leafCorePort.get? d = some p →
    M.corePortZones.get? p = M.switchZone.get? d

theorem NetworkOk.zone_of_leaf (hnet : NetworkOk P net) {name : String} {s : Switch}
    (hs : net.switches.get? name = some s) (hne : name ≠ net.core) :
    ∃ z ∈ P.zones.keys, s.zone = some z :=
  hnet.switches.zone_mem name s hs (by simpa using hne)

/-- A dpid has an uplink exactly when it is that of a leaf. -/
theorem NetworkOk.uplink_iff_leaf (hnet : NetworkOk P net) (h : portMaps net = .ok M) (d : ℕ) :
    (∃ leaf s link, net.switches.get? leaf = some s ∧ net.uplinks.get? leaf = some link ∧
      s.dpid = d) ↔ d ∈ M.switchZone.keys := by
  rw [Dict.mem_keys_iff]
  constructor
  · rintro ⟨leaf, s, link, hs, hlink, hd⟩
    have hne := ((hnet.uplinks leaf).mp (Dict.mem_keys_iff.mpr ⟨link, hlink⟩)).2
    exact ⟨s.zone, (get?_switchZone hnet h).mpr ⟨leaf, s, hs, hne, hd, rfl⟩⟩
  · rintro ⟨z, hz⟩
    obtain ⟨name, s, hs, hne, hd, -⟩ := (get?_switchZone hnet h).mp hz
    obtain ⟨link, hlink⟩ := Dict.mem_keys_iff.mp
      ((hnet.uplinks name).mpr ⟨Dict.mem_keys_iff.mpr ⟨s, hs⟩, hne⟩)
    exact ⟨name, s, link, hs, hlink, hd⟩

/-- **The port maps of an accepted layout agree.** -/
theorem portMaps_ok (hnet : NetworkOk P net) (h : portMaps net = .ok M) : PortMapsOk P M := by
  refine ⟨?_, fun d z hz => ?_, fun p z hz => ?_, fun d => ?_, fun d => ?_, fun d p hp => ?_⟩
  · rw [Option.eq_none_iff_forall_ne_some]
    intro z hz
    obtain ⟨name, s, hs, hne, hd, -⟩ := (get?_switchZone hnet h).mp hz
    obtain ⟨c, hc, hcore⟩ := (portMaps_eq_ok h).1
    exact hne (hnet.switches.dpid_inj _ _ _ _ hs hc (hd.trans hcore))
  · obtain ⟨name, s, hs, hne, -, rfl⟩ := (get?_switchZone hnet h).mp hz
    exact hnet.zone_of_leaf hs hne
  · rcases (get?_corePortZones hnet h).mp hz with
      ⟨leaf, s, link, hs, hlink, -, rfl⟩ | ⟨name, host, hhost, -, -, rfl⟩
    · exact hnet.zone_of_leaf hs
        ((hnet.uplinks leaf).mp (Dict.mem_keys_iff.mpr ⟨link, hlink⟩)).2
    · obtain ⟨hzone, -⟩ := hnet.hosts name host hhost
      obtain ⟨entry, hentry, -⟩ := zoneForIp_mem hzone
      exact ⟨host.zone, Dict.mem_keys_iff.mpr ⟨entry, hentry⟩, rfl⟩
  · -- both maps have a key for each leaf, as each leaf has one uplink
    rw [← hnet.uplink_iff_leaf h, Dict.mem_keys_iff]
    simp only [get?_leafUplinkPort hnet h]
    constructor
    · rintro ⟨_, leaf, s, link, hs, hlink, hd, -⟩
      exact ⟨leaf, s, link, hs, hlink, hd⟩
    · rintro ⟨leaf, s, link, hs, hlink, hd⟩
      exact ⟨_, leaf, s, link, hs, hlink, hd, rfl⟩
  · rw [← hnet.uplink_iff_leaf h, Dict.mem_keys_iff]
    simp only [get?_leafCorePort hnet h]
    constructor
    · rintro ⟨_, leaf, s, link, hs, hlink, hd, -⟩
      exact ⟨leaf, s, link, hs, hlink, hd⟩
    · rintro ⟨leaf, s, link, hs, hlink, hd⟩
      exact ⟨_, leaf, s, link, hs, hlink, hd, rfl⟩
  · obtain ⟨leaf, s, link, hs, hlink, hd, hport⟩ := (get?_leafCorePort hnet h).mp hp
    have hne := ((hnet.uplinks leaf).mp (Dict.mem_keys_iff.mpr ⟨link, hlink⟩)).2
    rw [(get?_corePortZones hnet h).mpr (.inl ⟨leaf, s, link, hs, hlink, hport, rfl⟩),
      (get?_switchZone hnet h).mpr ⟨leaf, s, hs, hne, hd, rfl⟩]

end

theorem get?_foldl_zonePorts (es : List (ℕ × Option String)) (d : Dict (Option String) (List ℕ))
    (zone : Option String) :
    ((es.foldl (fun d (port, zone) => d.set zone ((d.get? zone).getD [] ++ [port])) d).get?
        zone).getD [] =
      (d.get? zone).getD [] ++ (es.filter fun e => e.2 = zone).map Prod.fst := by
  induction es generalizing d with
  | nil => simp
  | cons e es ih =>
    obtain ⟨port, z⟩ := e
    rw [List.foldl_cons, ih, Dict.get?_set]
    by_cases hz : zone = z
    · simp [hz]
    · simp [hz, Ne.symm hz]

/-- The core ports of a zone. -/
theorem zoneCorePorts_eq (M : PortMaps) (zone : Option String) :
    zoneCorePorts M zone = (M.corePortZones.entries.filter fun e => e.2 = zone).map Prod.fst := by
  rw [zoneCorePorts, zoneCorePortsTable, get?_foldl_zonePorts, Dict.get?_empty, Option.getD_none,
    List.nil_append]

theorem mem_zoneCorePorts {M : PortMaps} {zone : Option String} {p : ℕ} :
    p ∈ zoneCorePorts M zone ↔ M.corePortZones.get? p = some zone := by
  rw [zoneCorePorts_eq, Dict.get?_eq_some_iff]
  constructor
  · intro h
    obtain ⟨⟨p', z⟩, he, rfl⟩ := List.mem_map.mp h
    obtain ⟨he, hz⟩ := List.mem_filter.mp he
    rwa [← of_decide_eq_true hz]
  · intro h
    exact List.mem_map.mpr ⟨(p, zone), List.mem_filter.mpr ⟨h, decide_eq_true rfl⟩, rfl⟩

/-! ## Deployments -/

/-- A controller's configuration: a policy and a layout that were accepted, and the port maps
derived from the layout. -/
structure Deployment where
  policyFile : Json
  networkFile : Json
  policy : Policy
  net : Network
  maps : PortMaps
  policy_ok : loadPolicy policyFile = .ok policy
  net_ok : loadNetwork policy networkFile policy.zones = .ok net
  maps_ok : portMaps net = .ok maps

namespace Deployment

variable (D : Deployment)

theorem portMapsOk : PortMapsOk D.policy D.maps := portMaps_ok (loadNetwork_ok D.net_ok) D.maps_ok

variable {D}

/-- A host seen at a port of a zone is reached through a core port of that zone. -/
theorem exists_corePortFor {dpid port : ℕ} {z : String}
    (h : zoneOfPort D.maps dpid port = some z) :
    ∃ p, corePortFor D.maps dpid port = some p ∧ D.maps.corePortZones.get? p = some (some z) := by
  unfold zoneOfPort at h
  unfold corePortFor
  by_cases hcore : dpid = D.maps.coreDpid
  · rw [if_pos hcore] at h
    exact ⟨port, if_pos hcore, Option.join_eq_some_iff.mp h⟩
  · rw [if_neg hcore] at h
    have hz := Option.join_eq_some_iff.mp h
    obtain ⟨p, hp⟩ := Dict.mem_keys_iff.mp
      ((D.portMapsOk.leaf_core dpid).mpr (Dict.mem_keys_iff.mpr ⟨_, hz⟩))
    exact ⟨p, by rw [if_neg hcore, hp], by rw [D.portMapsOk.core_port_zone dpid p hp, hz]⟩

/-- The core has no uplink. -/
theorem leafUplinkPort_core : D.maps.leafUplinkPort.get? D.maps.coreDpid = none := by
  rw [Dict.get?_eq_none_iff, D.portMapsOk.leaf_uplink, ← Dict.get?_eq_none_iff]
  exact D.portMapsOk.core_not_leaf

theorem isLeafUplink_core (port : ℕ) : isLeafUplink D.maps D.maps.coreDpid port = false := by
  simp [isLeafUplink, leafUplinkPort_core]

theorem ne_core_of_isLeafUplink {dpid port : ℕ} (h : isLeafUplink D.maps dpid port = true) :
    dpid ≠ D.maps.coreDpid := by
  rintro rfl
  rw [isLeafUplink_core] at h
  cases h

/-- A port of a leaf that has a zone belongs to a leaf with an uplink. -/
theorem exists_leafUplinkPort {dpid port : ℕ} {z : String}
    (h : zoneOfPort D.maps dpid port = some z) (hne : dpid ≠ D.maps.coreDpid) :
    ∃ p, D.maps.leafUplinkPort.get? dpid = some p := by
  rw [zoneOfPort, if_neg hne] at h
  exact Dict.mem_keys_iff.mp ((D.portMapsOk.leaf_uplink dpid).mpr
    (Dict.mem_keys_iff.mpr ⟨_, Option.join_eq_some_iff.mp h⟩))

end Deployment

/-- The deployment of the repository's policy and layout. -/
def deployment : Deployment where
  policyFile := policyJson
  networkFile := networkJson
  policy := policy
  net := network
  maps := networkMaps
  policy_ok := loadPolicy_policyJson
  net_ok := loadNetwork_networkJson
  maps_ok := portMaps_network

end ZoneSegmentation
