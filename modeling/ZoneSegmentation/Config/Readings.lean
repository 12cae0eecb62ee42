import ZoneSegmentation.Config.Network
import ZoneSegmentation.Library.Loop

/-!
# What the loader of a layout reads

Each pass of the loader reads the entries of one section, one after the other, and checks each
against those before it. Said once for each kind of entry: what is read from it, and when two
entries are in conflict. A pass accepts a section exactly when every entry can be read and no two
are in conflict, so acceptance does not mention the order in which the pass met them.

## Main definitions

* `SwitchRead`, `UplinkRead`, `HostRead`, `PortRead`: what is read from an entry
* `fileSwitches`, `fileUplinks`, `fileHosts`: the sections of a layout file

## Main results

* `foldlM_loadSwitch_eq_ok_iff`, `foldlM_loadUplink_eq_ok_iff`, `foldlM_loadHost_eq_ok_iff`,
  `foldlM_checkPort_eq_ok_iff`: what each loop accepts
* `loadNetwork_eq_ok_iff`: what an accepted layout consists of
-/

namespace ZoneSegmentation

open Loop (Gathers)

/-! ## Sections of a layout -/

/-- The switches a layout file lists, each with its entry. -/
def fileSwitches (raw : Json) : Except (PyError NetworkFault) (List (String × Json)) := do
  (← raw.get "switches" (.obj [])).items

/-- The uplinks a layout file lists. -/
def fileUplinks (raw : Json) : Except (PyError NetworkFault) (List Json) := do
  (← raw.get "uplinks" (.arr [])).iter

/-- The hosts a layout file lists, each with its entry. -/
def fileHosts (raw : Json) : Except (PyError NetworkFault) (List (String × Json)) := do
  (← raw.get "hosts" (.obj [])).items

/-- The value of a key of an entry, `None` where the entry has none. -/
def layoutField (x : Json) (key : String) : Option Json :=
  (x.get key .null : Except (PyError NetworkFault) Json).toOption

theorem layoutField_eq_some_iff {x y : Json} {key : String} : layoutField x key = some y ↔
    x.get key .null = (.ok y : Except (PyError NetworkFault) Json) :=
  Loop.toOption_eq_some_iff

/-! ## Switches -/

/-- What is read from the entry of a switch: its dpid, and its zone unless it is a core. -/
structure SwitchRead (zones : Dict String ZoneEntry) (m : String × Json) (s : String × Switch) :
    Prop where
  name : s.1 = m.1
  dpid : (layoutField m.2 "dpid").bind positiveInt? = some s.2.dpid
  zone : (layoutField m.2 "core").map Json.truthy = some true ∧ s.2.zone = none ∨
    (layoutField m.2 "core").map Json.truthy = some false ∧ ∃ z ∈ zones.keys,
      layoutField m.2 "zone" = some (.str z) ∧ s.2.zone = some z

/-- Two switches with different dpids. -/
def DpidsDiffer (s t : String × Switch) : Prop := s.2.dpid ≠ t.2.dpid

abbrev SwitchesRead (zones : Dict String ZoneEntry) :
    List (String × Json) → List (String × Switch) → Prop :=
  Gathers (SwitchRead zones) DpidsDiffer

/-- The cores and the table of switches, of the switches read so far. -/
def switchTable (ss : List (String × Switch)) : List String × Dict String Switch :=
  ((ss.filter fun s => s.2.zone = none).map Prod.fst, Dict.ofList ss)

theorem switchTable_concat_core (ss : List (String × Switch)) (name : String) (dpid : ℕ) :
    switchTable (ss ++ [(name, ⟨dpid, none⟩)]) =
      ((switchTable ss).1 ++ [name], (switchTable ss).2.set name ⟨dpid, none⟩) := by
  simp [switchTable, Dict.ofList_concat]

theorem switchTable_concat_leaf (ss : List (String × Switch)) (name : String) (dpid : ℕ)
    (z : String) : switchTable (ss ++ [(name, ⟨dpid, some z⟩)]) =
      ((switchTable ss).1, (switchTable ss).2.set name ⟨dpid, some z⟩) := by
  simp [switchTable, Dict.ofList_concat]

/-- A value that is looked up in a table of strings, and found. -/
theorem inKeys_str_eq_true {F V : Type} {d : Dict String V} {k : String} (h : k ∈ d.keys) :
    (Json.str k).inKeys d = (.ok true : Except (PyError F) Bool) :=
  congrArg _ (Dict.contains_eq_true_iff.mpr h)

/-- One turn of the loop over the switches. -/
theorem loadSwitch_eq_ok_iff {zones : Dict String ZoneEntry} {ss : List (String × Switch)}
    {m : String × Json} {acc : List String × Dict String Switch}
    (hnodup : (ss.map Prod.fst).Nodup) :
    loadSwitch zones (switchTable ss) m.1 m.2 = .ok acc ↔
      ∃ s, SwitchRead zones m s ∧ (∀ t ∈ ss, DpidsDiffer t s) ∧ switchTable (ss ++ [s]) = acc := by
  have hdiffer {dpid : ℕ} : dpid ∉ (switchTable ss).2.values.map Switch.dpid ↔
      ∀ t ∈ ss, t.2.dpid ≠ dpid :=
    Dict.notMem_values_ofList_iff hnodup
  constructor
  · intro h
    simp only [loadSwitch, Loop.bind_eq_ok, raiseIf_eq_ok, orRaise_eq_ok,
      decide_eq_false_iff_not, hdiffer] at h
    obtain ⟨d, hd, dpid, hdpid, _, hnew, core, hcore, h⟩ := h
    have hread : (layoutField m.2 "dpid").bind positiveInt? = some dpid := by
      rw [layoutField_eq_some_iff.mpr hd, Option.bind_some, hdpid]
    have hkind := congrArg (Option.map Json.truthy) (layoutField_eq_some_iff.mpr hcore)
    split at h
    · rename_i htrue
      cases h
      exact ⟨(m.1, ⟨dpid, none⟩), ⟨rfl, hread, .inl ⟨by simp [hkind, htrue], rfl⟩⟩, hnew,
        switchTable_concat_core ss m.1 dpid⟩
    · rename_i hfalse
      simp only [Loop.bind_eq_ok, raiseIf_eq_ok, Bool.not_eq_false'] at h
      obtain ⟨zone, hzone, known, hknown, _, rfl, h⟩ := h
      obtain ⟨z, hz, rfl⟩ := Json.inKeys_eq_true hknown
      cases h
      exact ⟨(m.1, ⟨dpid, some z⟩), ⟨rfl, hread, .inr ⟨by simp [hkind, hfalse], z, hz,
        layoutField_eq_some_iff.mpr hzone, rfl⟩⟩, hnew, switchTable_concat_leaf ss m.1 dpid z⟩
  · rintro ⟨⟨name, dpid, zone⟩, ⟨rfl, hread, hzone⟩, hnew, rfl⟩
    obtain ⟨d, hd, hdpid⟩ := Option.bind_eq_some_iff.mp hread
    simp only [loadSwitch, Loop.bind_eq_ok, raiseIf_eq_ok, orRaise_eq_ok,
      decide_eq_false_iff_not, hdiffer]
    refine ⟨d, layoutField_eq_some_iff.mp hd, dpid, hdpid, ⟨⟩, hnew, ?_⟩
    rcases hzone with ⟨hcore, rfl⟩ | ⟨hcore, z, hz, hfield, rfl⟩
    · obtain ⟨core, hcore, htrue⟩ := Option.map_eq_some_iff.mp hcore
      refine ⟨core, layoutField_eq_some_iff.mp hcore, ?_⟩
      rw [if_pos htrue, switchTable_concat_core]
      rfl
    · obtain ⟨core, hcore, hfalse⟩ := Option.map_eq_some_iff.mp hcore
      refine ⟨core, layoutField_eq_some_iff.mp hcore, ?_⟩
      rw [if_neg (by simp [hfalse])]
      simp only [Loop.bind_eq_ok, raiseIf_eq_ok]
      refine ⟨_, layoutField_eq_some_iff.mp hfield, true, inKeys_str_eq_true hz, ⟨⟩, rfl, ?_⟩
      rw [switchTable_concat_leaf]
      rfl

/-- **The switches of a file are accepted** exactly when each can be read and no two share a
dpid. -/
theorem foldlM_loadSwitch_eq_ok_iff {zones : Dict String ZoneEntry}
    {members : List (String × Json)} (hmembers : (members.map Prod.fst).Nodup)
    {acc : List String × Dict String Switch} :
    members.foldlM (fun acc m => loadSwitch zones acc m.1 m.2) ([], Dict.empty) = .ok acc ↔
      ∃ ss, SwitchesRead zones members ss ∧ switchTable ss = acc := by
  apply Loop.gather_eq_ok_iff switchTable rfl
  intro pre m hpre ss hss acc'
  exact loadSwitch_eq_ok_iff (hss.nodup_keys_of_prefix (fun m s h => h.name) hmembers hpre)

/-- The switches that `_load_switches` returns: those of the file, with one core among them. -/
theorem loadSwitches_eq_ok_iff {raw : Json} {zones : Dict String ZoneEntry} {core : String}
    {switches : Dict String Switch} : loadSwitches raw zones = .ok (core, switches) ↔
      ∃ members ss, fileSwitches raw = .ok members ∧ SwitchesRead zones members ss ∧
        switchTable ss = ([core], switches) := by
  constructor
  · intro h
    simp only [loadSwitches, Loop.bind_eq_ok] at h
    obtain ⟨json, hjson, members, hmembers, acc, hloop, h⟩ := h
    obtain ⟨ss, hss, rfl⟩ := (foldlM_loadSwitch_eq_ok_iff (nodup_of_items hmembers)).mp hloop
    refine ⟨members, ss, ?_, hss, ?_⟩
    · rw [fileSwitches, hjson]
      exact hmembers
    · revert h
      generalize switchTable ss = acc
      obtain ⟨cores, table⟩ := acc
      intro h
      rcases cores with _ | ⟨c, _ | _⟩
      · cases h
      · cases h
        rfl
      · cases h
  · rintro ⟨members, ss, hfile, hss, htable⟩
    obtain ⟨json, hjson, hmembers⟩ := Loop.bind_eq_ok.mp hfile
    simp only [loadSwitches, Loop.bind_eq_ok]
    exact ⟨json, hjson, members, hmembers, ([core], switches),
      (foldlM_loadSwitch_eq_ok_iff (nodup_of_items hmembers)).mpr ⟨ss, hss, htable⟩, rfl⟩

/-! ## Uplinks -/

/-- What is read from an uplink: a leaf, and the two ports. -/
structure UplinkRead (switches : Dict String Switch) (core : String) (link : Json)
    (u : String × Uplink Json) : Prop where
  leaf : layoutField link "leaf" = some (.str u.1)
  known : u.1 ∈ switches.keys
  ne_core : u.1 ≠ core
  leafPort : layoutField link "leaf_port" = some u.2.leafPort
  corePort : layoutField link "core_port" = some u.2.corePort

/-- Two uplinks of different leaves. -/
def LeavesDiffer (u v : String × Uplink Json) : Prop := u.1 ≠ v.1

abbrev UplinksRead (switches : Dict String Switch) (core : String) :
    List Json → List (String × Uplink Json) → Prop :=
  Gathers (UplinkRead switches core) LeavesDiffer

/-- One turn of the loop over the uplinks. -/
theorem loadUplink_eq_ok_iff {switches : Dict String Switch} {core : String}
    {us : List (String × Uplink Json)} {i : ℕ} {link : Json}
    {uplinks : Dict String (Uplink Json)} :
    loadUplink switches core (Dict.ofList us) i link = .ok uplinks ↔
      ∃ u, UplinkRead switches core link u ∧ (∀ v ∈ us, LeavesDiffer v u) ∧
        Dict.ofList (us ++ [u]) = uplinks := by
  have hnew {name : String} : (Dict.ofList us).contains name = false ↔
      ∀ v ∈ us, v.1 ≠ name := by
    rw [← Bool.not_eq_true, Dict.contains_eq_true_iff, Dict.notMem_keys_ofList_iff]
  constructor
  · intro h
    simp only [loadUplink, Loop.bind_eq_ok, raiseIf_eq_ok, Bool.or_eq_false_iff,
      Bool.not_eq_false', decide_eq_false_iff_not, hnew] at h
    obtain ⟨leaf, hleaf, known, hknown, _, ⟨rfl, hcore⟩, _, hfresh, leafPort, hlp, corePort, hcp,
      h⟩ := h
    obtain ⟨name, hname, rfl⟩ := Json.inKeys_eq_true hknown
    cases h
    refine ⟨(name, ⟨leafPort, corePort⟩), ⟨layoutField_eq_some_iff.mpr hleaf, hname, ?_,
      layoutField_eq_some_iff.mpr hlp, layoutField_eq_some_iff.mpr hcp⟩, hfresh,
      Dict.ofList_concat us _⟩
    rintro rfl
    exact hcore rfl
  · rintro ⟨⟨name, link'⟩, ⟨hleaf, hname, hcore, hlp, hcp⟩, hfresh, rfl⟩
    simp only [loadUplink, Loop.bind_eq_ok, raiseIf_eq_ok, Bool.or_eq_false_iff,
      Bool.not_eq_false', decide_eq_false_iff_not, hnew]
    refine ⟨_, layoutField_eq_some_iff.mp hleaf, true, inKeys_str_eq_true hname, ⟨⟩,
      ⟨rfl, fun h => hcore (Option.some.inj h)⟩, ⟨⟩, hfresh, _, layoutField_eq_some_iff.mp hlp, _,
      layoutField_eq_some_iff.mp hcp, ?_⟩
    rw [Dict.ofList_concat]
    rfl

/-- **The uplinks of a file are read** exactly when each names a leaf, and no two the same. -/
theorem foldlM_loadUplink_eq_ok_iff {switches : Dict String Switch} {core : String}
    {links : List Json} {uplinks : Dict String (Uplink Json)} :
    links.zipIdx.foldlM (fun uplinks l => loadUplink switches core uplinks l.2 l.1) Dict.empty =
        .ok uplinks ↔
      ∃ us, UplinksRead switches core links us ∧ Dict.ofList us = uplinks := by
  simp only [← Loop.gathers_zipIdx_iff links 0]
  apply Loop.gather_eq_ok_iff Dict.ofList rfl
  intro pre l _ us _ uplinks'
  exact loadUplink_eq_ok_iff

/-- The uplinks that `_load_uplinks` returns: those of the file, one for each leaf. -/
theorem loadUplinks_eq_ok_iff {raw : Json} {switches : Dict String Switch} {core : String}
    {uplinks : Dict String (Uplink Json)} : loadUplinks raw switches core = .ok uplinks ↔
      ∃ links us, fileUplinks raw = .ok links ∧ UplinksRead switches core links us ∧
        (∀ name ∈ switches.keys, name ≠ core → name ∈ us.map Prod.fst) ∧
        Dict.ofList us = uplinks := by
  -- sorting the missing leaves does not matter, only whether there are any
  have hmissing {us : List (String × Uplink Json)} : (switches.keys.filter fun name =>
      name ≠ core && !(Dict.ofList us).contains name).mergeSort.isEmpty = true ↔
        ∀ name ∈ switches.keys, name ≠ core → name ∈ us.map Prod.fst := by
    rw [List.isEmpty_iff, ← List.length_eq_zero_iff, List.length_mergeSort,
      List.length_eq_zero_iff, List.filter_eq_nil_iff]
    simp only [← Dict.mem_keys_ofList, ← Dict.contains_eq_true_iff]
    simp
  constructor
  · intro h
    simp only [loadUplinks, Loop.bind_eq_ok, raiseIf_eq_ok, Bool.not_eq_false'] at h
    obtain ⟨json, hjson, links, hlinks, uplinks', hloop, _, hnone, h⟩ := h
    cases h
    obtain ⟨us, hus, rfl⟩ := foldlM_loadUplink_eq_ok_iff.mp hloop
    refine ⟨links, us, ?_, hus, hmissing.mp hnone, rfl⟩
    rw [fileUplinks, hjson]
    exact hlinks
  · rintro ⟨links, us, hfile, hus, hall, rfl⟩
    obtain ⟨json, hjson, hlinks⟩ := Loop.bind_eq_ok.mp hfile
    simp only [loadUplinks, Loop.bind_eq_ok, raiseIf_eq_ok, Bool.not_eq_false']
    exact ⟨json, hjson, links, hlinks, _, foldlM_loadUplink_eq_ok_iff.mpr ⟨us, hus, rfl⟩, ⟨⟩,
      hmissing.mpr hall, rfl⟩

/-! ## Hosts -/

/-- What is read from the entry of a host: an address that a zone of the policy holds and that is
not reserved in the zone's entry, and a switch where a host of that zone may be plugged in. -/
structure HostRead (P : Policy) (zones : Dict String ZoneEntry) (switches : Dict String Switch)
    (core : String) (m : String × Json) (h : String × Host Json) : Prop where
  name : h.1 = m.1
  ip : (layoutField m.2 "ip").bind ipAddress = some h.2.ip
  zone : zoneForIp P h.2.ip = some h.2.zone
  entry : ∃ e, zones.get? h.2.zone = some e ∧ h.2.prefixLen = e.subnet.prefixlen ∧
    h.2.ip ≠ e.gateway ∧ h.2.ip ≠ e.subnet.networkAddress ∧ h.2.ip ≠ e.subnet.broadcastAddress
  switch : layoutField m.2 "switch" = some (.str h.2.switch)
  plugged : ∃ s, switches.get? h.2.switch = some s ∧ (h.2.switch ≠ core → s.zone = some h.2.zone)
  port : layoutField m.2 "port" = some h.2.port

/-- Two hosts with different addresses. -/
def IpsDiffer (h h' : String × Host Json) : Prop := h.2.ip ≠ h'.2.ip

abbrev HostsRead (P : Policy) (zones : Dict String ZoneEntry) (switches : Dict String Switch)
    (core : String) : List (String × Json) → List (String × Host Json) → Prop :=
  Gathers (HostRead P zones switches core) IpsDiffer

/-- One turn of the loop over the hosts. -/
theorem loadHost_eq_ok_iff {P : Policy} {zones : Dict String ZoneEntry}
    {switches : Dict String Switch} {core : String} {hs : List (String × Host Json)}
    {m : String × Json} {hosts : Dict String (Host Json)} (hnodup : (hs.map Prod.fst).Nodup) :
    loadHost P zones switches core (Dict.ofList hs) m.1 m.2 = .ok hosts ↔
      ∃ h, HostRead P zones switches core m h ∧ (∀ h' ∈ hs, IpsDiffer h' h) ∧
        Dict.ofList (hs ++ [h]) = hosts := by
  constructor
  · intro h
    simp only [loadHost, Loop.bind_eq_ok, raiseIf_eq_ok, orRaise_eq_ok, Bool.not_eq_false',
      Bool.or_eq_false_iff, decide_eq_false_iff_not, Dict.notMem_values_ofList_iff hnodup] at h
    obtain ⟨i, hi, ip, hip, zone, hzone, entry, hentry, _, ⟨⟨hgateway, hnetwork⟩, hbroadcast⟩, _,
      hnew, switch, hswitch, known, hknown, _, rfl, _, hplugged, port, hport, h⟩ := h
    obtain ⟨name, hmem, rfl⟩ := Json.inKeys_eq_true hknown
    obtain ⟨s, hget⟩ := Dict.mem_keys_iff.mp hmem
    cases h
    refine ⟨(m.1, ⟨ip, entry.subnet.prefixlen, zone, name, port⟩), ⟨rfl, ?_, hzone, ⟨entry, hentry,
      rfl, hgateway, hnetwork, hbroadcast⟩, layoutField_eq_some_iff.mpr hswitch, ⟨s, hget, ?_⟩,
      layoutField_eq_some_iff.mpr hport⟩, hnew, Dict.ofList_concat hs _⟩
    · rw [layoutField_eq_some_iff.mpr hi, Option.bind_some, hip]
    · intro hne
      simpa [Json.str?, hget, show name ≠ core from hne] using hplugged
  · rintro ⟨⟨name, ip, prefixLen, zone, switch, port⟩, ⟨rfl, hip, hzone, hentry, hswitch, hplugged,
      hport⟩, hnew, rfl⟩
    obtain ⟨i, hi, hip⟩ := Option.bind_eq_some_iff.mp hip
    obtain ⟨entry, hentry, hprefix, hgateway, hnetwork, hbroadcast⟩ := hentry
    obtain ⟨s, hget, hplugged⟩ := hplugged
    simp only [loadHost, Loop.bind_eq_ok, raiseIf_eq_ok, orRaise_eq_ok, Bool.not_eq_false',
      Bool.or_eq_false_iff, decide_eq_false_iff_not, Dict.notMem_values_ofList_iff hnodup]
    refine ⟨i, layoutField_eq_some_iff.mp hi, ip, hip, zone, hzone, entry, hentry, ⟨⟩,
      ⟨⟨hgateway, hnetwork⟩, hbroadcast⟩, ⟨⟩, hnew, _, layoutField_eq_some_iff.mp hswitch, true,
      inKeys_str_eq_true (Dict.mem_keys_iff.mpr ⟨s, hget⟩), ⟨⟩, rfl, ⟨⟩, ?_, port,
      layoutField_eq_some_iff.mp hport, ?_⟩
    · by_cases hcore : switch = core
      · simp [Json.str?, hcore]
      · simp [Json.str?, hget, hplugged hcore]
    · rw [Dict.ofList_concat, ← hprefix]
      rfl

/-- A turn of the loop over the hosts depends on the address alone until its zone is found. -/
theorem loadHost_of_zoneForIp_eq_none {P : Policy} {zones : Dict String ZoneEntry}
    {switches : Dict String Switch} {core : String} {hosts : Dict String (Host Json)}
    {name : String} {json : Json} {ip : IPAddress}
    (hip : (layoutField json "ip").bind ipAddress = some ip) (hnone : zoneForIp P ip = none) :
    loadHost P zones switches core hosts name json = .error (.fault (.outsideZones name ip)) := by
  obtain ⟨i, hi, hip⟩ := Option.bind_eq_some_iff.mp hip
  rw [loadHost, layoutField_eq_some_iff.mp hi]
  simp [bind, Except.bind, orRaise, hip, hnone]

/-- The policy's zone of an address has to be one of the table. -/
theorem loadHost_of_zone_notMem {P : Policy} {zones : Dict String ZoneEntry}
    {switches : Dict String Switch} {core : String} {hosts : Dict String (Host Json)}
    {name : String} {json : Json} {ip : IPAddress} {zone : String}
    (hip : (layoutField json "ip").bind ipAddress = some ip) (hzone : zoneForIp P ip = some zone)
    (hnone : zones.get? zone = none) :
    loadHost P zones switches core hosts name json = .error .keyError := by
  obtain ⟨i, hi, hip⟩ := Option.bind_eq_some_iff.mp hip
  rw [loadHost, layoutField_eq_some_iff.mp hi]
  simp [bind, Except.bind, orRaise, hip, hzone, hnone]

/-- **The hosts of a file are read** exactly when each can be, and no two share an address. -/
theorem foldlM_loadHost_eq_ok_iff {P : Policy} {zones : Dict String ZoneEntry}
    {switches : Dict String Switch} {core : String} {members : List (String × Json)}
    (hmembers : (members.map Prod.fst).Nodup) {hosts : Dict String (Host Json)} :
    members.foldlM (fun hosts m => loadHost P zones switches core hosts m.1 m.2) Dict.empty =
        .ok hosts ↔
      ∃ hs, HostsRead P zones switches core members hs ∧ Dict.ofList hs = hosts := by
  apply Loop.gather_eq_ok_iff Dict.ofList rfl
  intro pre m hpre hs hhs hosts'
  exact loadHost_eq_ok_iff (hhs.nodup_keys_of_prefix (fun m h hread => hread.name) hmembers hpre)

/-- The hosts that `_load_hosts` returns: those of the file. -/
theorem loadHosts_eq_ok_iff {P : Policy} {raw : Json} {switches : Dict String Switch}
    {core : String} {zones : Dict String ZoneEntry} {hosts : Dict String (Host Json)} :
    loadHosts P raw switches core zones = .ok hosts ↔
      ∃ members hs, fileHosts raw = .ok members ∧ HostsRead P zones switches core members hs ∧
        Dict.ofList hs = hosts := by
  constructor
  · intro h
    simp only [loadHosts, Loop.bind_eq_ok] at h
    obtain ⟨json, hjson, members, hmembers, hloop⟩ := h
    obtain ⟨hs, hhs, rfl⟩ := (foldlM_loadHost_eq_ok_iff (nodup_of_items hmembers)).mp hloop
    refine ⟨members, hs, ?_, hhs, rfl⟩
    rw [fileHosts, hjson]
    exact hmembers
  · rintro ⟨members, hs, hfile, hhs, rfl⟩
    obtain ⟨json, hjson, hmembers⟩ := Loop.bind_eq_ok.mp hfile
    simp only [loadHosts, Loop.bind_eq_ok]
    exact ⟨json, hjson, members, hmembers,
      (foldlM_loadHost_eq_ok_iff (nodup_of_items hmembers)).mpr ⟨hs, hhs, rfl⟩⟩

/-! ## Ports -/

/-- What is read from an attachment: the switch and the port, and what is plugged in there. -/
structure PortRead (a : String × Json × String) (k : (String × ℕ) × String) : Prop where
  switch : k.1.1 = a.1
  port : positiveInt? a.2.1 = some k.1.2
  what : k.2 = a.2.2

/-- Two attachments at different ports. -/
def PortsDiffer (k k' : (String × ℕ) × String) : Prop := k.1 ≠ k'.1

abbrev PortsRead : List (String × Json × String) → List ((String × ℕ) × String) → Prop :=
  Gathers PortRead PortsDiffer

/-- One turn of the loop over the attachments. -/
theorem checkPort_eq_ok_iff {ks : List ((String × ℕ) × String)} {a : String × Json × String}
    {used : Dict (String × ℕ) String} : checkPort (Dict.ofList ks) a = .ok used ↔
      ∃ k, PortRead a k ∧ (∀ k' ∈ ks, PortsDiffer k' k) ∧ Dict.ofList (ks ++ [k]) = used := by
  obtain ⟨switch, port, what⟩ := a
  have hnew {key : String × ℕ} : (Dict.ofList ks).get? key = none ↔ ∀ k' ∈ ks, k'.1 ≠ key := by
    rw [Dict.get?_eq_none_iff, Dict.notMem_keys_ofList_iff]
  constructor
  · intro h
    simp only [checkPort, Loop.bind_eq_ok, orRaise_eq_ok] at h
    obtain ⟨n, hn, h⟩ := h
    split at h
    · cases h
    · rename_i hnone
      cases h
      exact ⟨((switch, n), what), ⟨rfl, hn, rfl⟩, hnew.mp hnone, Dict.ofList_concat ks _⟩
  · rintro ⟨⟨⟨switch', n⟩, what'⟩, ⟨rfl, hn, rfl⟩, hfresh, rfl⟩
    simp only [checkPort, Loop.bind_eq_ok, orRaise_eq_ok]
    refine ⟨n, hn, ?_⟩
    rw [hnew.mpr hfresh, Dict.ofList_concat]
    rfl

/-- **The ports are accepted** exactly when all are positive, and no two attachments share one. -/
theorem foldlM_checkPort_eq_ok_iff {as : List (String × Json × String)}
    {used : Dict (String × ℕ) String} : as.foldlM checkPort Dict.empty = .ok used ↔
      ∃ ks, PortsRead as ks ∧ Dict.ofList ks = used := by
  apply Loop.gather_eq_ok_iff Dict.ofList rfl
  intro pre a _ ks _ used'
  exact checkPort_eq_ok_iff

/-! ## Layouts -/

/-- The layout of switches, uplinks and hosts whose ports were checked. -/
def checkedNetwork (core : String) (switches : Dict String Switch)
    (uplinks : Dict String (Uplink Json)) (hosts : Dict String (Host Json)) : Network where
  core := core
  switches := switches
  uplinks := uplinks.mapValues fun u => ⟨portNumber u.leafPort, portNumber u.corePort⟩
  hosts := hosts.mapValues fun h => { h with port := portNumber h.port }

/-- **What an accepted layout consists of**: what each pass read, with no port used twice. -/
theorem loadNetwork_eq_ok_iff {P : Policy} {raw : Json} {zones : Dict String ZoneEntry}
    {net : Network} : loadNetwork P raw zones = .ok net ↔
      ∃ core switches uplinks hosts, loadSwitches raw zones = .ok (core, switches) ∧
        loadUplinks raw switches core = .ok uplinks ∧
        loadHosts P raw switches core zones = .ok hosts ∧
        (∃ ks, PortsRead (attachments core uplinks hosts) ks) ∧
        checkedNetwork core switches uplinks hosts = net := by
  constructor
  · intro h
    simp only [loadNetwork, Loop.bind_eq_ok] at h
    obtain ⟨⟨core, switches⟩, hswitches, uplinks, huplinks, hosts, hhosts, used, hports, h⟩ := h
    cases h
    obtain ⟨ks, hks, -⟩ := foldlM_checkPort_eq_ok_iff.mp hports
    exact ⟨core, switches, uplinks, hosts, hswitches, huplinks, hhosts, ⟨ks, hks⟩, rfl⟩
  · rintro ⟨core, switches, uplinks, hosts, hswitches, huplinks, hhosts, ⟨ks, hks⟩, rfl⟩
    simp only [loadNetwork, Loop.bind_eq_ok]
    exact ⟨_, hswitches, uplinks, huplinks, hosts, hhosts, _,
      foldlM_checkPort_eq_ok_iff.mpr ⟨ks, hks, rfl⟩, rfl⟩

/-- A host of an accepted layout was read from its entry, and its port checked. -/
theorem exists_hostRead {P : Policy} {raw : Json} {zones : Dict String ZoneEntry} {net : Network}
    (h : loadNetwork P raw zones = .ok net) {name : String} {host : Host ℕ}
    (hhost : net.hosts.get? name = some host) :
    ∃ m host', HostRead P zones net.switches net.core m (name, host') ∧
      host = { host' with port := portNumber host'.port } := by
  obtain ⟨core, switches, uplinks, hosts, -, -, hhosts, -, rfl⟩ := loadNetwork_eq_ok_iff.mp h
  obtain ⟨members, rows, -, hread, rfl⟩ := loadHosts_eq_ok_iff.mp hhosts
  obtain ⟨host', hmem, rfl⟩ := Dict.mem_entries_mapValues.mp (Dict.get?_eq_some_iff.mp hhost)
  have hrow := Dict.mem_of_get?_ofList (Dict.get?_eq_some_iff.mpr hmem)
  obtain ⟨m, -, hm⟩ := Loop.exists_of_forall₂_of_mem_left hread.read.flip hrow
  exact ⟨m, host', hm, rfl⟩

end ZoneSegmentation
