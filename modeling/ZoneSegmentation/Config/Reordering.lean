import ZoneSegmentation.Config.Readings
import ZoneSegmentation.Config.Wiring

/-!
# The order of a layout file

The passes over a layout carry state: the dpids, leaves and addresses seen so far, and the ports in
use. Every conflict is between two entries and is found from either side, so what is accepted does
not depend on the order of the entries, and neither does any map that is built from them.

## Main definitions

* `SectionPerm`, `LayoutPerm`: sections and layouts that differ in the order of their entries
* `SameNetwork`, `SamePortMaps`: layouts and port maps that are equal as maps

## Main results

* `loadNetwork_perm`: the order of entries does not matter
-/

namespace ZoneSegmentation

open Loop (Gathers)

/-! ## Files in another order -/

/-- Sections that list the same entries, in any order. -/
inductive SectionPerm : Json → Json → Prop where
  | same (x : Json) : SectionPerm x x
  | obj {ms ms' : List (String × Json)} (h : (Json.dict ms').entries.Perm (Json.dict ms).entries) :
      SectionPerm (.obj ms) (.obj ms')
  | arr {xs xs' : List Json} (h : xs'.Perm xs) : SectionPerm (.arr xs) (.arr xs')

theorem SectionPerm.symm {x x' : Json} (h : SectionPerm x x') : SectionPerm x' x := by
  cases h with
  | same => exact .same x
  | obj h => exact .obj h.symm
  | arr h => exact .arr h.symm

/-- Optional sections that list the same entries: both are there, or neither is. -/
abbrev OptionSectionPerm : Option Json → Option Json → Prop := Option.Rel SectionPerm

theorem OptionSectionPerm.symm {x x' : Option Json} (h : OptionSectionPerm x x') :
    OptionSectionPerm x' x := by
  cases h with
  | some h => exact .some h.symm
  | none => exact .none

/-- The section, or an empty one where there is none. -/
theorem OptionSectionPerm.getD {x x' : Option Json} (h : OptionSectionPerm x x') (default : Json) :
    SectionPerm (x.getD default) (x'.getD default) := by
  cases h with
  | some h => exact h
  | none => exact .same default

/-- Layout files whose switches, uplinks and hosts are listed in any order. -/
inductive LayoutPerm : Json → Json → Prop where
  | same (raw : Json) : LayoutPerm raw raw
  | sections {ms ms' : List (String × Json)}
      (h : ∀ key ∈ ["switches", "uplinks", "hosts"],
        OptionSectionPerm ((Json.dict ms).get? key) ((Json.dict ms').get? key)) :
      LayoutPerm (.obj ms) (.obj ms')

theorem LayoutPerm.symm {raw raw' : Json} (h : LayoutPerm raw raw') : LayoutPerm raw' raw := by
  cases h with
  | same => exact .same raw
  | sections h =>
    refine .sections ?_
    intro key hkey
    exact (h key hkey).symm

/-- The members of a section in another order. -/
theorem SectionPerm.items {F : Type} {x x' : Json} (h : SectionPerm x x')
    {members : List (String × Json)}
    (hx : x.items = (.ok members : Except (PyError F) (List (String × Json)))) :
    ∃ members', x'.items = (.ok members' : Except (PyError F) (List (String × Json))) ∧
      members'.Perm members := by
  cases h with
  | same => exact ⟨members, hx, .refl _⟩
  | obj h =>
    cases hx
    exact ⟨_, rfl, h⟩
  | arr h => cases hx

/-- The elements of a section in another order. -/
theorem SectionPerm.iter {F : Type} {x x' : Json} (h : SectionPerm x x') {xs : List Json}
    (hx : x.iter = (.ok xs : Except (PyError F) (List Json))) :
    ∃ xs', x'.iter = (.ok xs' : Except (PyError F) (List Json)) ∧ xs'.Perm xs := by
  cases h with
  | same => exact ⟨xs, hx, .refl _⟩
  | obj h =>
    cases hx
    exact ⟨_, rfl, (h.map Prod.fst).map Json.str⟩
  | arr h =>
    cases hx
    exact ⟨_, rfl, h⟩

/-- A section that is read from a layout is read from the other in another order. -/
theorem LayoutPerm.get {raw raw' : Json} (h : LayoutPerm raw raw') {key : String}
    (hkey : key ∈ ["switches", "uplinks", "hosts"]) {default x : Json}
    (hx : raw.get key default = (.ok x : Except (PyError NetworkFault) Json)) :
    ∃ x', raw'.get key default = (.ok x' : Except (PyError NetworkFault) Json) ∧
      SectionPerm x x' := by
  cases h with
  | same => exact ⟨x, hx, .same x⟩
  | @sections ms ms' h =>
    cases hx
    exact ⟨_, rfl, (h key hkey).getD default⟩

/-! ## The passes in another order -/

/-- Layouts that are equal as maps. -/
structure SameNetwork (net net' : Network) : Prop where
  core : net.core = net'.core
  switches : net.switches.Same net'.switches
  uplinks : net.uplinks.Same net'.uplinks
  hosts : net.hosts.Same net'.hosts

variable {raw raw' : Json} {zones : Dict String ZoneEntry} {core : String}
  {switches switches' : Dict String Switch}

/-- The switches in another order: the same core, and the same switches. -/
theorem loadSwitches_perm (h : LayoutPerm raw raw')
    (hload : loadSwitches raw zones = .ok (core, switches)) :
    ∃ switches', loadSwitches raw' zones = .ok (core, switches') ∧ switches.Same switches' := by
  obtain ⟨members, ss, hfile, hss, htable⟩ := loadSwitches_eq_ok_iff.mp hload
  obtain ⟨json, hjson, hitems⟩ := Loop.bind_eq_ok.mp hfile
  obtain ⟨json', hjson', hsection⟩ := h.get (by simp) hjson
  obtain ⟨members', hitems', hperm⟩ := hsection.items hitems
  have hsymm : Std.Symm DpidsDiffer := ⟨fun s t hst => Ne.symm hst⟩
  obtain ⟨ss', hss', hsperm⟩ := hss.perm hsymm hperm
  obtain ⟨hcores, htable⟩ := Prod.mk.inj htable
  have hnodup := hss.nodup_keys (fun m s hms => hms.name) (nodup_of_items hitems)
  refine ⟨Dict.ofList ss', loadSwitches_eq_ok_iff.mpr ⟨members', ss', ?_, hss', ?_⟩, ?_⟩
  · rw [fileSwitches, hjson']
    exact hitems'
  · have hone := (hsperm.filter fun s => s.2.zone = none).map Prod.fst
    rw [hcores, List.perm_singleton] at hone
    exact Prod.ext hone rfl
  · rw [← htable]
    exact Dict.same_of_perm (Dict.perm_entries_ofList hnodup hsperm)

/-- An uplink is read from the names of the switches. -/
theorem UplinkRead.congr (hsame : switches.Same switches') {link : Json}
    {u : String × Uplink Json} (h : UplinkRead switches core link u) :
    UplinkRead switches' core link u :=
  { h with known := hsame.mem_keys_iff.mp h.known }

/-- The uplinks in another order. -/
theorem loadUplinks_perm (h : LayoutPerm raw raw') (hsame : switches.Same switches')
    {uplinks : Dict String (Uplink Json)} (hload : loadUplinks raw switches core = .ok uplinks) :
    ∃ uplinks', loadUplinks raw' switches' core = .ok uplinks' ∧
      uplinks'.entries.Perm uplinks.entries := by
  obtain ⟨links, us, hfile, hus, hall, rfl⟩ := loadUplinks_eq_ok_iff.mp hload
  obtain ⟨json, hjson, hiter⟩ := Loop.bind_eq_ok.mp hfile
  obtain ⟨json', hjson', hsection⟩ := h.get (by simp) hjson
  obtain ⟨links', hiter', hperm⟩ := hsection.iter hiter
  have hsymm : Std.Symm LeavesDiffer := ⟨fun u v huv => Ne.symm huv⟩
  obtain ⟨us', hus', husperm⟩ := hus.perm hsymm hperm
  have hnodup : (us.map Prod.fst).Nodup := List.pairwise_map.mpr hus.apart
  refine ⟨Dict.ofList us', loadUplinks_eq_ok_iff.mpr ⟨links', us', ?_, ?_, ?_, rfl⟩, ?_⟩
  · rw [fileUplinks, hjson']
    exact hiter'
  · exact ⟨hus'.read.imp fun link u hlink => hlink.congr hsame, hus'.apart⟩
  · intro name hname hne
    exact (husperm.map Prod.fst).mem_iff.mpr (hall name (hsame.mem_keys_iff.mpr hname) hne)
  · exact Dict.perm_entries_ofList hnodup husperm

variable {P : Policy}

/-- A host is read against the switches by their names. -/
theorem HostRead.congr (hsame : switches.Same switches') {m : String × Json}
    {h : String × Host Json} (hread : HostRead P zones switches core m h) :
    HostRead P zones switches' core m h where
  __ := hread
  plugged := by
    obtain ⟨s, hs, hplugged⟩ := hread.plugged
    exact ⟨s, (hsame _).symm.trans hs, hplugged⟩

/-- The hosts in another order. -/
theorem loadHosts_perm (h : LayoutPerm raw raw') (hsame : switches.Same switches')
    {hosts : Dict String (Host Json)} (hload : loadHosts P raw switches core zones = .ok hosts) :
    ∃ hosts', loadHosts P raw' switches' core zones = .ok hosts' ∧
      hosts'.entries.Perm hosts.entries := by
  obtain ⟨members, rows, hfile, hrows, rfl⟩ := loadHosts_eq_ok_iff.mp hload
  obtain ⟨json, hjson, hitems⟩ := Loop.bind_eq_ok.mp hfile
  obtain ⟨json', hjson', hsection⟩ := h.get (by simp) hjson
  obtain ⟨members', hitems', hperm⟩ := hsection.items hitems
  have hsymm : Std.Symm IpsDiffer := ⟨fun h h' hne => Ne.symm hne⟩
  obtain ⟨rows', hrows', hrperm⟩ := hrows.perm hsymm hperm
  have hnodup := hrows.nodup_keys (fun m h hmh => hmh.name) (nodup_of_items hitems)
  refine ⟨Dict.ofList rows', loadHosts_eq_ok_iff.mpr ⟨members', rows', ?_, ?_, rfl⟩, ?_⟩
  · rw [fileHosts, hjson']
    exact hitems'
  · exact ⟨hrows'.read.imp fun m h hmh => hmh.congr hsame, hrows'.apart⟩
  · exact Dict.perm_entries_ofList hnodup hrperm

/-- The attachments of tables in another order. -/
theorem attachments_perm {uplinks uplinks' : Dict String (Uplink Json)}
    {hosts hosts' : Dict String (Host Json)} (huplinks : uplinks'.entries.Perm uplinks.entries)
    (hhosts : hosts'.entries.Perm hosts.entries) :
    (attachments core uplinks' hosts').Perm (attachments core uplinks hosts) := by
  apply List.Perm.append
  · exact hhosts.map _
  · exact huplinks.flatMap_right _

/-- An accepted layout in another order is accepted, and equal as a map. -/
theorem loadNetwork_perm_of_eq_ok (h : LayoutPerm raw raw') {net : Network}
    (hload : loadNetwork P raw zones = .ok net) :
    ∃ net', loadNetwork P raw' zones = .ok net' ∧ SameNetwork net net' := by
  obtain ⟨core, switches, uplinks, hosts, hswitches, huplinks, hhosts, ⟨ks, hks⟩, rfl⟩ :=
    loadNetwork_eq_ok_iff.mp hload
  obtain ⟨switches', hswitches', hsame⟩ := loadSwitches_perm h hswitches
  obtain ⟨uplinks', huplinks', huperm⟩ := loadUplinks_perm h hsame huplinks
  obtain ⟨hosts', hhosts', hhperm⟩ := loadHosts_perm h hsame hhosts
  have hsymm : Std.Symm PortsDiffer := ⟨fun k k' hne => Ne.symm hne⟩
  obtain ⟨ks', hks', -⟩ := hks.perm hsymm (attachments_perm huperm hhperm)
  exact ⟨_, loadNetwork_eq_ok_iff.mpr ⟨core, switches', uplinks', hosts', hswitches', huplinks',
    hhosts', ⟨ks', hks'⟩, rfl⟩, rfl, hsame, (Dict.same_of_perm huperm).mapValues _,
    (Dict.same_of_perm hhperm).mapValues _⟩

/-! ## Port maps -/

/-- Port maps that are equal as maps. -/
structure SamePortMaps (M M' : PortMaps) : Prop where
  coreDpid : M.coreDpid = M'.coreDpid
  switchZone : M.switchZone.Same M'.switchZone
  leafUplinkPort : M.leafUplinkPort.Same M'.leafUplinkPort
  leafCorePort : M.leafCorePort.Same M'.leafCorePort
  corePortZones : M.corePortZones.Same M'.corePortZones

/-- The port maps of a layout are read from its tables as maps. -/
theorem SameNetwork.samePortMaps {net net' : Network} (h : SameNetwork net net')
    (hnet : NetworkOk P net) (hnet' : NetworkOk P net') {M M' : PortMaps}
    (hM : portMaps net = .ok M) (hM' : portMaps net' = .ok M') : SamePortMaps M M' := by
  have hswitches : ∀ k, net.switches.get? k = net'.switches.get? k := h.switches
  have huplinks : ∀ k, net.uplinks.get? k = net'.uplinks.get? k := h.uplinks
  have hhosts : ∀ k, net.hosts.get? k = net'.hosts.get? k := h.hosts
  constructor
  · obtain ⟨s, hs, hcore⟩ := (portMaps_eq_ok hM).1
    obtain ⟨s', hs', hcore'⟩ := (portMaps_eq_ok hM').1
    rw [← h.core, ← hswitches, hs] at hs'
    rw [hcore, hcore', Option.some.inj hs']
  · intro d
    ext z
    rw [get?_switchZone hnet hM, get?_switchZone hnet' hM']
    simp only [hswitches, h.core]
  · intro d
    ext p
    rw [get?_leafUplinkPort hnet hM, get?_leafUplinkPort hnet' hM']
    simp only [hswitches, huplinks]
  · intro d
    ext p
    rw [get?_leafCorePort hnet hM, get?_leafCorePort hnet' hM']
    simp only [hswitches, huplinks]
  · -- an uplink and a host never share a core port, so that neither wins over the other
    intro p
    ext z
    rw [get?_corePortZones hnet hM, get?_corePortZones hnet' hM']
    simp only [hswitches, huplinks, hhosts, h.core]

/-- **The order of entries does not matter.** Of two layouts that list the same switches, uplinks
and hosts in different orders, one is accepted exactly when the other is. Then they have the same
core, the same switches, uplinks and hosts, and the same port maps. -/
theorem loadNetwork_perm (P : Policy) {raw raw' : Json} (h : LayoutPerm raw raw') :
    ((∃ net, loadNetwork P raw P.zones = .ok net) ↔
      ∃ net', loadNetwork P raw' P.zones = .ok net') ∧
    ∀ net net', loadNetwork P raw P.zones = .ok net → loadNetwork P raw' P.zones = .ok net' →
      SameNetwork net net' ∧
      ∃ M M', portMaps net = .ok M ∧ portMaps net' = .ok M' ∧ SamePortMaps M M' := by
  refine ⟨⟨?_, ?_⟩, ?_⟩
  · rintro ⟨net, hnet⟩
    obtain ⟨net', hnet', -⟩ := loadNetwork_perm_of_eq_ok h hnet
    exact ⟨net', hnet'⟩
  · rintro ⟨net', hnet'⟩
    obtain ⟨net, hnet, -⟩ := loadNetwork_perm_of_eq_ok h.symm hnet'
    exact ⟨net, hnet⟩
  · intro net net' hnet hnet'
    obtain ⟨net₁, hnet₁, hsame⟩ := loadNetwork_perm_of_eq_ok h hnet
    obtain rfl := Except.ok.inj (hnet₁.symm.trans hnet')
    have hok := loadNetwork_ok hnet
    have hok' := loadNetwork_ok hnet'
    obtain ⟨M, hM⟩ := hok.exists_portMaps
    obtain ⟨M', hM'⟩ := hok'.exists_portMaps
    exact ⟨hsame, M, M', hM, hM', hsame.samePortMaps hok hok' hM hM'⟩

/-- A section with its entries in reverse. -/
def reverseSection : Json → Json
  | .obj ms => .obj ms.reverse
  | .arr xs => .arr xs.reverse
  | x => x

/-- A layout file with the entries of every section in reverse. -/
def reverseSections : Json → Json
  | .obj ms => .obj (ms.map fun m => (m.1, reverseSection m.2))
  | x => x

/-- The repository's layout, and the same in reverse. -/
theorem loadNetwork_perm_networkJson :
    ((∃ net, loadNetwork policy networkJson policy.zones = .ok net) ↔
      ∃ net', loadNetwork policy (reverseSections networkJson) policy.zones = .ok net') ∧
    ∀ net net', loadNetwork policy networkJson policy.zones = .ok net →
      loadNetwork policy (reverseSections networkJson) policy.zones = .ok net' →
      SameNetwork net net' ∧
      ∃ M M', portMaps net = .ok M ∧ portMaps net' = .ok M' ∧ SamePortMaps M M' := by
  apply loadNetwork_perm
  refine .sections ?_
  intro key hkey
  simp only [List.mem_cons, List.not_mem_nil, or_false] at hkey
  rcases hkey with rfl | rfl | rfl
  · exact .some (.obj (Dict.perm_entries_ofList (by decide) (List.reverse_perm _)))
  · exact .some (.arr (List.reverse_perm _))
  · exact .some (.obj (Dict.perm_entries_ofList (by decide) (List.reverse_perm _)))

end ZoneSegmentation
