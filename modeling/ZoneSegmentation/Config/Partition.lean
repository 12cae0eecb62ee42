import ZoneSegmentation.Config.FirewallRules
import Mathlib.Data.List.Pairwise

/-!
# Zones partition addresses

The loader compares each zone only with the zones before it, and only at end addresses. This is
enough: no address lies in two zones of an accepted policy, so the first zone that holds an
address is the only one, whatever the order of the file.

## Main definitions

* `fileZones`: the zones a policy file lists
* `ZoneRead`, `ZoneEntryRead`: what the loader reads from the entry of a zone
* `Apart`: two zones that may stand beside each other

## Main results

* `foldlM_loadZone_eq_ok_iff`: which zones the loop of the loader accepts
* `loadPolicy_zones`: the zones of an accepted policy are those of the file, pairwise apart
* `zoneForIp_eq_some_iff`: the zone of an address is the one whose subnet holds it
* `policy_partitions_addresses`: no address is in two zones, in any order of the file, and a file
  whose zones share an address is rejected
-/

namespace ZoneSegmentation

open Loop (Gathers)

/-! ## The zones of a file -/

/-- The zones a policy file lists, each with its entry. -/
def fileZones (raw : Json) : Except (PyError PolicyFault) (List (String × Json)) := do
  (← raw.get "zones" (.obj [])).items

/-- The value of a key of a zone's entry. -/
def zoneField (z : Json) (key : String) : Option Json :=
  (z.subscript key : Except (PyError PolicyFault) Json).toOption

theorem zoneField_eq_some_iff {z x : Json} {key : String} : zoneField z key = some x ↔
    z.subscript key = (.ok x : Except (PyError PolicyFault) Json) :=
  Loop.toOption_eq_some_iff

/-- No address lies in both subnets. -/
def NoCommonAddress (net other : IPNetwork) : Prop :=
  ¬ ∃ ip, net.contains ip = true ∧ other.contains ip = true

/-- What is read from the entry of a zone. -/
structure ZoneRead (z : Json) (entry : ZoneEntry) : Prop where
  subnet : (zoneField z "subnet").bind ipNetwork = some entry.subnet
  gateway : (zoneField z "gateway").bind ipAddress = some entry.gateway
  gatewayMac : ((z.get "gateway_mac" (.str "") : Except (PyError PolicyFault) Json).map
    gatewayMacText).toOption = some entry.gatewayMac
  gateway_mem : entry.subnet.contains entry.gateway = true

/-- Two zones that may stand beside each other: their subnets do not overlap, and their gateways
have different MAC addresses. -/
def Apart (entry other : ZoneEntry) : Prop :=
  entry.subnet.overlaps other.subnet = false ∧ entry.gatewayMac ≠ other.gatewayMac

/-- What is read from the entry of a zone, with its name. -/
structure ZoneEntryRead (m : String × Json) (e : String × ZoneEntry) : Prop where
  name : e.1 = m.1
  entry : ZoneRead m.2 e.2
  mac : matchMac e.2.gatewayMac = true

/-- Two zones of a file that may stand beside each other. -/
def ZonesApart (e e' : String × ZoneEntry) : Prop := Apart e'.2 e.2

/-- The zones that are read from the entries of a file. -/
abbrev ZonesRead : List (String × Json) → List (String × ZoneEntry) → Prop :=
  Gathers ZoneEntryRead ZonesApart

/-- One turn of the loop adds what is read from an entry, apart from all zones before it. -/
theorem loadZone_eq_ok_apart {zones zones' : Dict String ZoneEntry} {name : String} {z : Json}
    (h : loadZone zones name z = .ok zones') :
    ∃ entry, zones' = zones.set name entry ∧ ZoneRead z entry ∧
      matchMac entry.gatewayMac = true ∧ ∀ e ∈ zones.entries, Apart entry e.2 := by
  simp only [loadZone, Loop.bind_eq_ok, raiseIf_eq_ok, orRaise_eq_ok, Bool.not_eq_false'] at h
  obtain ⟨_, hs, subnet, hsubnet, _, hg, gateway, hgateway, _, hmem, _, hmac, _, hmatch, _, hloop,
    h⟩ := h
  split at hs
  · cases hs
  split at hg
  · cases hg
  rw [Loop.forIn_eq_ok] at hloop
  · cases h
    refine ⟨_, rfl, ⟨?_, ?_, ?_, hmem⟩, hmatch, ?_⟩
    · rw [zoneField_eq_some_iff.mpr hs, Option.bind_some, hsubnet]
    · rw [zoneField_eq_some_iff.mpr hg, Option.bind_some, hgateway]
    · rw [hmac]
      rfl
    · intro e he
      have hcheck := hloop e he
      simp only [Loop.bind_eq_ok, raiseIf_eq_ok, decide_eq_false_iff_not] at hcheck
      obtain ⟨_, hoverlap, _, hshared, -⟩ := hcheck
      exact ⟨hoverlap, hshared⟩
  · intro e r hr
    simp only [Loop.bind_eq_ok] at hr
    obtain ⟨_, -, _, -, hr⟩ := hr
    exact (Except.ok.inj hr).symm

/-- One turn of the loop over the zones, whose name is new. -/
theorem loadZone_eq_ok_iff {es : List (String × ZoneEntry)} {m : String × Json}
    {zones' : Dict String ZoneEntry} (hnodup : (es.map Prod.fst).Nodup) :
    loadZone (Dict.ofList es) m.1 m.2 = .ok zones' ↔
      ∃ e, ZoneEntryRead m e ∧ (∀ e' ∈ es, ZonesApart e' e) ∧ Dict.ofList (es ++ [e]) = zones' := by
  have hentries := Dict.entries_ofList hnodup
  constructor
  · intro h
    obtain ⟨entry, rfl, hread, hmac, hapart⟩ := loadZone_eq_ok_apart h
    rw [hentries] at hapart
    exact ⟨(m.1, entry), ⟨rfl, hread, hmac⟩, hapart, Dict.ofList_concat es _⟩
  · rintro ⟨⟨name, entry⟩, ⟨rfl, hread, hmac⟩, hapart, rfl⟩
    rw [Dict.ofList_concat]
    obtain ⟨subnet, hs, hsubnet⟩ := Option.bind_eq_some_iff.mp hread.subnet
    obtain ⟨gateway, hg, hgateway⟩ := Option.bind_eq_some_iff.mp hread.gateway
    obtain ⟨mac, hm, hmactext⟩ :=
      Loop.map_eq_ok_iff.mp (Loop.toOption_eq_some_iff.mp hread.gatewayMac)
    rw [zoneField_eq_some_iff] at hs hg
    simp only [loadZone, hs, hg, hm, Loop.bind_eq_ok, raiseIf_eq_ok, orRaise_eq_ok,
      Bool.not_eq_false']
    refine ⟨subnet, rfl, entry.subnet, hsubnet, gateway, rfl, entry.gateway, hgateway, ⟨⟩,
      hread.gateway_mem, mac, rfl, ⟨⟩, by rw [hmactext, hmac], ⟨⟩, ?_, by rw [hmactext]; rfl⟩
    rw [hentries, Loop.forIn_eq_ok]
    · intro e he
      obtain ⟨hoverlap, hshared⟩ := hapart e he
      simp only [Loop.bind_eq_ok, raiseIf_eq_ok, decide_eq_false_iff_not]
      exact ⟨⟨⟩, hoverlap, ⟨⟩, hmactext ▸ hshared, rfl⟩
    · intro e r hr
      simp only [Loop.bind_eq_ok] at hr
      obtain ⟨_, -, _, -, hr⟩ := hr
      exact (Except.ok.inj hr).symm

/-- **The zones of a file are accepted** exactly when each can be read and no two are in
conflict. -/
theorem foldlM_loadZone_eq_ok_iff {members : List (String × Json)}
    (hmembers : (members.map Prod.fst).Nodup) {zones : Dict String ZoneEntry} :
    members.foldlM (fun zones m => loadZone zones m.1 m.2) Dict.empty = .ok zones ↔
      ∃ es, ZonesRead members es ∧ Dict.ofList es = zones := by
  apply Loop.gather_eq_ok_iff Dict.ofList rfl
  intro pre m hpre es hes zones'
  exact loadZone_eq_ok_iff (hes.nodup_keys_of_prefix (fun m e h => h.name) hmembers hpre)

theorem nodup_of_fileZones {raw : Json} {members : List (String × Json)}
    (h : fileZones raw = .ok members) : (members.map Prod.fst).Nodup := by
  obtain ⟨json, -, hitems⟩ := Loop.bind_eq_ok.mp h
  exact nodup_of_items hitems

/-- **The zones of an accepted policy** are those of the file, in their order, as the loader reads
them, and pairwise apart. -/
theorem loadPolicy_zones {raw : Json} {P : Policy} (h : loadPolicy raw = .ok P) :
    ∃ members, fileZones raw = .ok members ∧
      List.Forall₂ (fun m e => e.1 = m.1 ∧ ZoneRead m.2 e.2) members P.zones.entries ∧
      P.zones.entries.Pairwise fun e e' => Apart e'.2 e.2 := by
  simp only [loadPolicy, Loop.bind_eq_ok] at h
  obtain ⟨json, hjson, members, hmembers, zones, hzones, -, -, _, -, rules, -, blocks, -, h⟩ := h
  cases h
  have hnodup := nodup_of_items hmembers
  obtain ⟨es, hes, rfl⟩ := (foldlM_loadZone_eq_ok_iff hnodup).mp hzones
  -- the names of the file are pairwise different, so the table lists what was read
  have hentries : (Dict.ofList es).entries = es :=
    Dict.entries_ofList (hes.nodup_keys (fun m e h => h.name) hnodup)
  refine ⟨members, ?_, ?_, ?_⟩
  · rw [fileZones, hjson]
    exact hmembers
  · show List.Forall₂ _ members (Dict.ofList es).entries
    rw [hentries]
    exact hes.read.imp fun m e h => ⟨h.name, h.entry⟩
  · show (Dict.ofList es).entries.Pairwise _
    rw [hentries]
    exact hes.apart

/-! ## The zone of an address -/

section

variable {raw : Json} {P : Policy} (h : loadPolicy raw = .ok P)

include h

/-- Two zones of an accepted policy share no address. -/
theorem eq_of_contains {z z' : String} {e e' : ZoneEntry} {ip : IPAddress}
    (he : P.zones.get? z = some e) (he' : P.zones.get? z' = some e')
    (hip : e.subnet.contains ip = true) (hip' : e'.subnet.contains ip = true) : z = z' := by
  obtain ⟨-, -, -, hpairwise⟩ := loadPolicy_zones h
  by_contra hne
  have hdisjoint : P.zones.entries.Pairwise fun a b => NoCommonAddress a.2.subnet b.2.subnet := by
    apply hpairwise.imp
    rintro a b ⟨hoverlap, -⟩ ⟨ip, ha, hb⟩
    exact Bool.false_ne_true (hoverlap.symm.trans (IPNetwork.overlaps_iff.mpr ⟨ip, hb, ha⟩))
  have hsymm : Std.Symm fun a b : String × ZoneEntry => NoCommonAddress a.2.subnet b.2.subnet := by
    constructor
    rintro a b hab ⟨ip, hb, ha⟩
    exact hab ⟨ip, ha, hb⟩
  exact hdisjoint.forall (Dict.get?_eq_some_iff.mp he) (Dict.get?_eq_some_iff.mp he')
    (fun heq => hne (congrArg Prod.fst heq)) ⟨ip, hip, hip'⟩

/-- **The zone of an address** is the one whose subnet holds it. -/
theorem zoneForIp_eq_some_iff {ip : IPAddress} {z : String} : zoneForIp P ip = some z ↔
    ∃ e, P.zones.get? z = some e ∧ e.subnet.contains ip = true := by
  constructor
  · exact zoneForIp_mem
  · rintro ⟨e, he, hip⟩
    cases hzone : zoneForIp P ip with
    | none =>
      rw [zoneForIp, Option.map_eq_none_iff, List.find?_eq_none] at hzone
      exact absurd hip (hzone (z, e) (Dict.get?_eq_some_iff.mp he))
    | some z' =>
      obtain ⟨e', he', hip'⟩ := zoneForIp_mem hzone
      rw [eq_of_contains h he he' hip hip']

theorem zoneForIp_eq_none_iff {ip : IPAddress} : zoneForIp P ip = none ↔
    ∀ z e, P.zones.get? z = some e → e.subnet.contains ip = false := by
  rw [Option.eq_none_iff_forall_ne_some]
  constructor
  · intro hnone z e he
    rw [← Bool.not_eq_true]
    intro hip
    exact hnone z ((zoneForIp_eq_some_iff h).mpr ⟨e, he, hip⟩)
  · intro hnot z hz
    obtain ⟨e, he, hip⟩ := zoneForIp_mem hz
    exact Bool.false_ne_true ((hnot z e he).symm.trans hip)

/-- An address may come from the zone that holds it, unless it is the zone's gateway. -/
theorem sourceIpValidForZone_iff_contains {ip : IPAddress} {z : String} :
    sourceIpValidForZone P ip z = true ↔
      ∃ e, P.zones.get? z = some e ∧ e.subnet.contains ip = true ∧ ip ≠ e.gateway := by
  rw [sourceIpValidForZone_iff, zoneForIp_eq_some_iff h]
  constructor
  · rintro ⟨⟨e, he, hip⟩, e', he', hgw⟩
    obtain rfl := Option.some.inj (he.symm.trans he')
    exact ⟨e, he, hip, hgw⟩
  · rintro ⟨e, he, hip, hgw⟩
    exact ⟨⟨e, he, hip⟩, e, he, hgw⟩

end

/-! ## Orders of a file -/

/-- What is read from an entry is determined by it. -/
theorem ZoneRead.unique {z : Json} {e e' : ZoneEntry} (h : ZoneRead z e) (h' : ZoneRead z e') :
    e = e' := by
  obtain ⟨subnet, gateway, mac⟩ := e
  obtain ⟨subnet', gateway', mac'⟩ := e'
  obtain rfl : subnet = subnet' := Option.some.inj (h.subnet.symm.trans h'.subnet)
  obtain rfl : gateway = gateway' := Option.some.inj (h.gateway.symm.trans h'.gateway)
  obtain rfl : mac = mac' := Option.some.inj (h.gatewayMac.symm.trans h'.gatewayMac)
  rfl

/-- Files that list the same zones in another order give the same table of zones, up to order. -/
theorem perm_zones {raw raw' : Json} {P P' : Policy} (h : loadPolicy raw = .ok P)
    (h' : loadPolicy raw' = .ok P') {members members' : List (String × Json)}
    (hm : fileZones raw = .ok members) (hm' : fileZones raw' = .ok members')
    (hperm : members'.Perm members) : P'.zones.entries.Perm P.zones.entries := by
  obtain ⟨ms, hms, hread, -⟩ := loadPolicy_zones h
  obtain ⟨ms', hms', hread', -⟩ := loadPolicy_zones h'
  obtain rfl := Except.ok.inj (hms.symm.trans hm)
  obtain rfl := Except.ok.inj (hms'.symm.trans hm')
  obtain ⟨es, hes, hperm'⟩ := List.perm_comp_forall₂ hperm hread
  have huniq : es = P'.zones.entries := by
    refine List.right_unique_forall₂' ?_ hes hread'
    rintro m ⟨name, entry⟩ ⟨name', entry'⟩ ⟨rfl, hentry⟩ ⟨rfl, hentry'⟩
    exact congrArg _ (hentry.unique hentry')
  exact huniq ▸ hperm'

/-- The order in which a table lists its zones does not matter. -/
theorem zoneForIp_congr {raw raw' : Json} {P P' : Policy} (h : loadPolicy raw = .ok P)
    (h' : loadPolicy raw' = .ok P') (hperm : P'.zones.entries.Perm P.zones.entries)
    (ip : IPAddress) : zoneForIp P' ip = zoneForIp P ip := by
  refine Option.ext ?_
  intro z
  simp only [zoneForIp_eq_some_iff h, zoneForIp_eq_some_iff h', Dict.get?_eq_some_iff,
    hperm.mem_iff]

/-! ## The partition -/

/-- Two zones of a file whose subnets share an address. -/
def SharesAddress (raw : Json) : Prop :=
  ∃ members, fileZones raw = .ok members ∧ ∃ m ∈ members, ∃ m' ∈ members, m.1 ≠ m'.1 ∧
    ∃ net net' ip, (zoneField m.2 "subnet").bind ipNetwork = some net ∧
      (zoneField m'.2 "subnet").bind ipNetwork = some net' ∧
      net.contains ip = true ∧ net'.contains ip = true

/-- A file whose zones share an address is rejected. -/
theorem not_loadPolicy_of_sharesAddress {raw : Json} (hshare : SharesAddress raw) (P : Policy) :
    loadPolicy raw ≠ .ok P := by
  intro h
  obtain ⟨members, hm, m, hmem, m', hmem', hne, net, net', ip, hnet, hnet', hip, hip'⟩ := hshare
  obtain ⟨ms, hms, hread, -⟩ := loadPolicy_zones h
  obtain rfl := Except.ok.inj (hms.symm.trans hm)
  obtain ⟨e, he, hname, hentry⟩ := Loop.exists_of_forall₂_of_mem_left hread hmem
  obtain ⟨e', he', hname', hentry'⟩ := Loop.exists_of_forall₂_of_mem_left hread hmem'
  obtain rfl := Option.some.inj (hentry.subnet.symm.trans hnet)
  obtain rfl := Option.some.inj (hentry'.subnet.symm.trans hnet')
  refine hne ?_
  rw [← hname, ← hname']
  exact eq_of_contains h (Dict.get?_eq_some_iff.mpr he) (Dict.get?_eq_some_iff.mpr he') hip hip'

/-- **An accepted policy partitions addresses.** No address lies in the subnets of two zones. The
zone of an address is the one whose subnet holds it, in whatever order a file lists the zones, and
there is none exactly when no subnet does. An address may come from at most one zone: the one that
holds it, and none if it is that zone's gateway. A file of which two zones share an address is not
accepted. -/
theorem policy_partitions_addresses (raw : Json) :
    (∀ P, loadPolicy raw = .ok P →
      (∀ (ip : IPAddress) (z z' : String) (e e' : ZoneEntry), P.zones.get? z = some e →
        P.zones.get? z' = some e' → e.subnet.contains ip = true → e'.subnet.contains ip = true →
          z = z') ∧
      (∀ ip z, zoneForIp P ip = some z ↔
        ∃ e, P.zones.get? z = some e ∧ e.subnet.contains ip = true) ∧
      (∀ ip, zoneForIp P ip = none ↔
        ∀ z e, P.zones.get? z = some e → e.subnet.contains ip = false) ∧
      (∀ raw' P' members members', loadPolicy raw' = .ok P' → fileZones raw = .ok members →
        fileZones raw' = .ok members' → members'.Perm members →
          ∀ ip, zoneForIp P' ip = zoneForIp P ip) ∧
      (∀ ip z, sourceIpValidForZone P ip z = true ↔
        ∃ e, P.zones.get? z = some e ∧ e.subnet.contains ip = true ∧ ip ≠ e.gateway) ∧
      ∀ ip z z', sourceIpValidForZone P ip z = true → sourceIpValidForZone P ip z' = true →
        z = z') ∧
    (SharesAddress raw → ∀ P, loadPolicy raw ≠ .ok P) := by
  constructor
  · intro P h
    refine ⟨?_, fun _ _ => zoneForIp_eq_some_iff h, fun _ => zoneForIp_eq_none_iff h, ?_,
      fun _ _ => sourceIpValidForZone_iff_contains h, ?_⟩
    · intro ip z z' e e' he he' hip hip'
      exact eq_of_contains h he he' hip hip'
    · intro raw' P' members members' h' hm hm' hperm
      exact zoneForIp_congr h h' (perm_zones h h' hm hm' hperm)
    · intro ip z z' hvalid hvalid'
      obtain ⟨e, he, hip, -⟩ := (sourceIpValidForZone_iff_contains h).mp hvalid
      obtain ⟨e', he', hip', -⟩ := (sourceIpValidForZone_iff_contains h).mp hvalid'
      exact eq_of_contains h he he' hip hip'
  · exact not_loadPolicy_of_sharesAddress

/-- Two zones, the second within the first. -/
def nestedZonesJson : List (String × Json) :=
  [("Wide", zoneJson "10.1.0.0/16" "10.1.0.1" "02:00:00:00:00:01"),
    ("Narrow", zoneJson "10.1.2.0/24" "10.1.2.1" "02:00:00:00:00:02")]

/-- The zone of a host of the repository's policy, and a file that is refused. -/
theorem policy_partitions_addresses_deptA :
    zoneForIp policy (.v4 0x0A010165) = some "DeptA" ∧
    ∀ P, loadPolicy (.obj [("zones", .obj nestedZonesJson)]) ≠ .ok P := by
  constructor
  · have hpartition := (policy_partitions_addresses policyJson).1 policy loadPolicy_policyJson
    exact (hpartition.2.1 _ _).mpr ⟨zoneOf24 0x0A010100 0x0A010101 "02:00:00:00:00:01" (by decide),
      by decide +kernel, by decide +kernel⟩
  · apply (policy_partitions_addresses _).2
    exact ⟨nestedZonesJson, rfl, ("Wide", _), List.mem_cons_self, ("Narrow", _),
      List.mem_cons_of_mem _ List.mem_cons_self, by decide,
      .v4 ⟨0x0A010000, 16, by decide, by decide⟩, .v4 ⟨0x0A010200, 24, by decide, by decide⟩,
      .v4 0x0A010201, by decide +kernel, by decide +kernel, by decide +kernel, by decide +kernel⟩

end ZoneSegmentation
