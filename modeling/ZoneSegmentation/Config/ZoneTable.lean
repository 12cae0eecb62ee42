import ZoneSegmentation.Config.Partition
import ZoneSegmentation.Config.Readings

/-!
# Layouts and the table they are read against

`load_network` takes the zones to check a layout against as a parameter, and passes them on to
every check but one: the zone of a host's address is looked up in the table the program loaded.
With another table, a host is recorded in a zone that does not hold its address, or the look-up of
its zone fails. It is judged by the table it was given exactly when both tables agree on its
address.

## Main definitions

* `HostAsTable`: a recorded host that is what a table says of its address
* `JudgedByTable`: every layout is judged, for hosts of an address, by the table it is given
* `hostOnCoreJson`: a layout with one switch and one host

## Main results

* `judgedByTable_iff`: when the table that is given decides
* `judgedByTable_self`: it does when it is the one the program loaded
-/

namespace ZoneSegmentation

/-- A recorded host that is what a table says of its address: in the only zone that holds it, with
that zone's prefix, at none of its reserved addresses, and on a switch it may be plugged into. -/
structure HostAsTable (Q : Policy) (net : Network) (host : Host ℕ) : Prop where
  zone : ∃ e, Q.zones.get? host.zone = some e ∧ e.subnet.contains host.ip = true ∧
    host.prefixLen = e.subnet.prefixlen ∧ host.ip ≠ e.gateway ∧
    host.ip ≠ e.subnet.networkAddress ∧ host.ip ≠ e.subnet.broadcastAddress
  unique : ∀ z e, Q.zones.get? z = some e → e.subnet.contains host.ip = true → z = host.zone
  plugged : ∃ s, net.switches.get? host.switch = some s ∧
    (host.switch ≠ net.core → s.zone = some host.zone)

/-- The loader comes to an entry of a host: it accepts all it reads before. -/
def ReachesHost (P : Policy) (zones : Dict String ZoneEntry) (raw : Json) (m : String × Json) :
    Prop :=
  ∃ core switches uplinks hosts before after, loadSwitches raw zones = .ok (core, switches) ∧
    loadUplinks raw switches core = .ok uplinks ∧ fileHosts raw = .ok (before ++ m :: after) ∧
    before.foldlM (fun hosts m => loadHost P zones switches core hosts m.1 m.2) Dict.empty =
      .ok hosts

/-- A program that loaded one policy judges hosts of an address by the table of another, in every
layout: those it records are what the table says, and if no zone of the table holds the address,
then no layout with such a host is accepted, and the host itself is reported. -/
structure JudgedByTable (P Q : Policy) (ip : IPAddress) : Prop where
  recorded : ∀ raw net, loadNetwork P raw Q.zones = .ok net →
    ∀ name host, net.hosts.get? name = some host → host.ip = ip → HostAsTable Q net host
  rejected : (∀ z e, Q.zones.get? z = some e → e.subnet.contains ip = false) →
    ∀ raw members m net, fileHosts raw = .ok members → m ∈ members →
      (layoutField m.2 "ip").bind ipAddress = some ip → loadNetwork P raw Q.zones ≠ .ok net
  reported : (∀ z e, Q.zones.get? z = some e → e.subnet.contains ip = false) →
    ∀ raw m, ReachesHost P Q.zones raw m → (layoutField m.2 "ip").bind ipAddress = some ip →
      ∃ e, loadNetwork P raw Q.zones = .error (.fault e)

/-! ## What the loader does with a host -/

/-- The load ends where a turn of the loop over the hosts fails. -/
theorem loadNetwork_of_reachesHost {P : Policy} {zones : Dict String ZoneEntry} {raw : Json}
    {m : String × Json} {e : PyError NetworkFault} (h : ReachesHost P zones raw m)
    (hturn : ∀ switches core hosts, loadHost P zones switches core hosts m.1 m.2 = .error e) :
    loadNetwork P raw zones = .error e := by
  obtain ⟨core, switches, uplinks, hosts, before, after, hswitches, huplinks, hfile, hbefore⟩ := h
  obtain ⟨json, hjson, hmembers⟩ := Loop.bind_eq_ok.mp hfile
  have hhosts : loadHosts P raw switches core zones = .error e := by
    rw [loadHosts, hjson, Loop.ok_bind, hmembers]
    exact Loop.foldlM_eq_error hbefore (hturn switches core hosts)
  simp only [loadNetwork, hswitches, huplinks, hhosts, Loop.ok_bind, Loop.error_bind]

/-- Every host of an accepted file is recorded, with the address of its entry. -/
theorem exists_recorded {P : Policy} {zones : Dict String ZoneEntry} {raw : Json} {net : Network}
    (h : loadNetwork P raw zones = .ok net) {members : List (String × Json)}
    (hfile : fileHosts raw = .ok members) {m : String × Json} (hm : m ∈ members) {ip : IPAddress}
    (hip : (layoutField m.2 "ip").bind ipAddress = some ip) :
    ∃ host, net.hosts.get? m.1 = some host ∧ host.ip = ip := by
  obtain ⟨core, switches, uplinks, hosts, -, -, hhosts, -, rfl⟩ := loadNetwork_eq_ok_iff.mp h
  obtain ⟨members', rows, hfile', hread, rfl⟩ := loadHosts_eq_ok_iff.mp hhosts
  obtain rfl := Except.ok.inj (hfile'.symm.trans hfile)
  obtain ⟨row, hrow, hmrow⟩ := Loop.exists_of_forall₂_of_mem_left hread.read hm
  obtain ⟨json, -, hitems⟩ := Loop.bind_eq_ok.mp hfile
  have hnodup := hread.nodup_keys (fun m h hmh => hmh.name) (nodup_of_items hitems)
  refine ⟨{ row.2 with port := portNumber row.2.port }, ?_, ?_⟩
  · apply Dict.get?_eq_some_iff.mpr
    apply Dict.mem_entries_mapValues.mpr
    refine ⟨row.2, ?_, rfl⟩
    rw [Dict.entries_ofList hnodup, ← hmrow.name]
    exact hrow
  · exact Option.some.inj (hmrow.ip.symm.trans hip)

/-! ## Layouts with one host -/

/-- A layout with one switch, the core, and one host on it. -/
def hostOnCoreJson (ip : Json) : Json := .obj [
  ("switches", .obj [("s1", .obj [("dpid", .int 1), ("core", .bool true)])]),
  ("uplinks", .arr []),
  ("hosts", .obj [("h1", .obj [("ip", ip), ("switch", .str "s1"), ("port", .int 1)])])]

/-- The switches of such a layout. -/
def coreOnly : Dict String Switch := ⟨[("s1", ⟨1, none⟩)], by simp⟩

theorem loadSwitches_hostOnCoreJson (ip : Json) (zones : Dict String ZoneEntry) :
    loadSwitches (hostOnCoreJson ip) zones = .ok ("s1", coreOnly) := rfl

theorem loadUplinks_hostOnCoreJson (ip : Json) :
    loadUplinks (hostOnCoreJson ip) coreOnly "s1" = .ok Dict.empty := by
  apply loadUplinks_eq_ok_iff.mpr
  refine ⟨[], [], rfl, .nil, ?_, rfl⟩
  intro name hname hcore
  exact absurd (List.mem_singleton.mp hname) hcore

/-- The host of such a layout. -/
def hostEntry (ip : Json) : String × Json :=
  ("h1", .obj [("ip", ip), ("switch", .str "s1"), ("port", .int 1)])

theorem reachesHost_hostOnCoreJson (P : Policy) (zones : Dict String ZoneEntry) (ip : Json) :
    ReachesHost P zones (hostOnCoreJson ip) (hostEntry ip) :=
  ⟨"s1", coreOnly, Dict.empty, Dict.empty, [], [], loadSwitches_hostOnCoreJson ip zones,
    loadUplinks_hostOnCoreJson ip, rfl, rfl⟩

/-- Such a layout is accepted when the zone that the policy has for the address is in the table,
and the address is not reserved there. -/
theorem exists_loadNetwork_hostOnCoreJson {P : Policy} {zones : Dict String ZoneEntry} {x : Json}
    {ip : IPAddress} (hx : ipAddress x = some ip) {z : String} (hz : zoneForIp P ip = some z)
    {e : ZoneEntry} (he : zones.get? z = some e) (hgateway : ip ≠ e.gateway)
    (hnetwork : ip ≠ e.subnet.networkAddress) (hbroadcast : ip ≠ e.subnet.broadcastAddress) :
    ∃ net host, loadNetwork P (hostOnCoreJson x) zones = .ok net ∧
      net.hosts.get? "h1" = some host ∧ host.ip = ip ∧ host.zone = z := by
  have hread : HostRead P zones coreOnly "s1" (hostEntry x)
      ("h1", ⟨ip, e.subnet.prefixlen, z, "s1", .int 1⟩) :=
    ⟨rfl, hx, hz, ⟨e, he, rfl, hgateway, hnetwork, hbroadcast⟩, rfl,
      ⟨⟨1, none⟩, rfl, fun hne => absurd rfl hne⟩, rfl⟩
  have hfile : fileHosts (hostOnCoreJson x) = .ok [hostEntry x] := rfl
  have hhosts := loadHosts_eq_ok_iff.mpr
    ⟨_, _, hfile, Loop.Gathers.nil.concat hread nofun, rfl⟩
  refine ⟨_, ⟨ip, e.subnet.prefixlen, z, "s1", 1⟩, loadNetwork_eq_ok_iff.mpr ⟨"s1", coreOnly,
    Dict.empty, _, loadSwitches_hostOnCoreJson x zones, loadUplinks_hostOnCoreJson x, hhosts, ?_,
    rfl⟩, rfl, rfl, rfl⟩
  exact ⟨[(("s1", 1), "host h1")], Loop.Gathers.nil.concat ⟨rfl, rfl, rfl⟩ nofun⟩

/-! ## Which table decides -/

variable {rawQ : Json} {P Q : Policy} {x : Json} {ip : IPAddress}

/-- If the program's own table has a zone for an address, the table that is given has the same
one, or else another and none of that name. -/
def TablesAgree (P Q : Policy) (ip : IPAddress) : Prop :=
  ∀ z, zoneForIp P ip = some z →
    zoneForIp Q ip = some z ∨ (z ∉ Q.zones.keys ∧ zoneForIp Q ip ≠ none)

/-- If the tables agree on an address, hosts are judged by the table that is given. -/
theorem TablesAgree.judgedByTable (hQ : loadPolicy rawQ = .ok Q) (h : TablesAgree P Q ip) :
    JudgedByTable P Q ip := by
  have hrecorded : ∀ raw net, loadNetwork P raw Q.zones = .ok net →
      ∀ name host, net.hosts.get? name = some host → host.ip = ip → HostAsTable Q net host := by
    rintro raw net hnet name host hhost rfl
    obtain ⟨m, host', hread, rfl⟩ := exists_hostRead hnet hhost
    obtain ⟨e, he, hprefix, hgateway, hnetwork, hbroadcast⟩ := hread.entry
    have hzone : zoneForIp Q host'.ip = some host'.zone := by
      rcases h host'.zone hread.zone with hzone | ⟨hnot, -⟩
      · exact hzone
      · exact absurd (Dict.mem_keys_iff.mpr ⟨e, he⟩) hnot
    obtain ⟨e', he', hip⟩ := zoneForIp_mem hzone
    obtain rfl := Option.some.inj (he'.symm.trans he)
    refine ⟨⟨e', he', hip, hprefix, hgateway, hnetwork, hbroadcast⟩, ?_, hread.plugged⟩
    intro z e₁ he₁ hip₁
    exact eq_of_contains hQ he₁ he' hip₁ hip
  refine ⟨hrecorded, ?_, ?_⟩
  · intro hout raw members m net hfile hm hip hnet
    obtain ⟨host, hhost, rfl⟩ := exists_recorded hnet hfile hm hip
    obtain ⟨⟨e, he, hcontains, -⟩, -, -⟩ := hrecorded raw net hnet m.1 host hhost rfl
    exact Bool.false_ne_true ((hout _ e he).symm.trans hcontains)
  · intro hout raw m hreach hip
    have hnone : zoneForIp P ip = none := by
      apply Option.eq_none_iff_forall_ne_some.mpr
      intro z hz
      have hQnone : zoneForIp Q ip = none := (zoneForIp_eq_none_iff hQ).mpr hout
      rcases h z hz with hsome | ⟨-, hsome⟩
      · rw [hQnone] at hsome
        cases hsome
      · exact hsome hQnone
    exact ⟨_, loadNetwork_of_reachesHost hreach fun switches core hosts =>
      loadHost_of_zoneForIp_eq_none hip hnone⟩

/-- A host that is judged by the table that is given: the tables agree on its address. -/
theorem JudgedByTable.tablesAgree (hQ : loadPolicy rawQ = .ok Q) (hx : ipAddress x = some ip)
    (h : JudgedByTable P Q ip) : TablesAgree P Q ip := by
  intro z hz
  have hip : (layoutField (hostEntry x).2 "ip").bind ipAddress = some ip := hx
  by_cases hzone : zoneForIp Q ip = some z
  · exact .inl hzone
  right
  cases he : Q.zones.get? z with
  | some e =>
    -- the zone is in the table, and does not hold the address: a host on the core is accepted
    exfalso
    have hnot {a : IPAddress} (ha : e.subnet.contains a = true) : ip ≠ a := by
      rintro rfl
      exact hzone ((zoneForIp_eq_some_iff hQ).mpr ⟨e, he, ha⟩)
    obtain ⟨net, host, hnet, hhost, rfl, rfl⟩ := exists_loadNetwork_hostOnCoreJson hx hz he
      (hnot (loadPolicy_zone_ok hQ he).1) (hnot e.subnet.contains_networkAddress)
      (hnot e.subnet.contains_broadcastAddress)
    obtain ⟨⟨e', he', hcontains, -⟩, -, -⟩ := h.recorded _ net hnet _ host hhost rfl
    obtain rfl := Option.some.inj (he'.symm.trans he)
    exact hnot hcontains rfl
  | none =>
    refine ⟨Dict.get?_eq_none_iff.mp he, ?_⟩
    intro hnone
    have hreach := reachesHost_hostOnCoreJson P Q.zones x
    obtain ⟨e, herror⟩ := h.reported ((zoneForIp_eq_none_iff hQ).mp hnone) _ _ hreach hip
    rw [loadNetwork_of_reachesHost hreach fun switches core hosts =>
      loadHost_of_zone_notMem hip hz he] at herror
    cases herror

/-- **Hosts are judged by the table that is given exactly when both tables agree on their
address**: the table the program loaded has no zone for it, or the zone that the given table has,
or one whose name the given table lacks where it has another. -/
theorem judgedByTable_iff (hQ : loadPolicy rawQ = .ok Q) (hx : ipAddress x = some ip) :
    JudgedByTable P Q ip ↔ TablesAgree P Q ip := by
  constructor
  · intro h
    exact h.tablesAgree hQ hx
  · intro h
    exact h.judgedByTable hQ

/-- The table the program loaded agrees with itself, so that it judges every layout. -/
theorem judgedByTable_self {rawP : Json} (hP : loadPolicy rawP = .ok P) (ip : IPAddress) :
    JudgedByTable P P ip := by
  apply TablesAgree.judgedByTable hP
  intro z hz
  exact .inl hz

/-- A table with one zone, of a name that the repository's policy has at other addresses. -/
def labPolicy : Policy where
  zones := ⟨[("DeptA", zoneOf24 0x0A090100 0x0A090101 "02:00:00:00:00:11" (by decide))], by simp⟩
  blockAllIp := ∅
  blockIcmp := ∅

/-- The file of that table. -/
def labPolicyJson : Json :=
  .obj [("zones", .obj [("DeptA", zoneJson "10.9.1.0/24" "10.9.1.1" "02:00:00:00:00:11")])]

theorem loadPolicy_labPolicyJson : loadPolicy labPolicyJson = .ok labPolicy :=
  Loop.eq_ok_of_toOption (by decide +kernel)

/-- A program that loaded the repository's policy reads layouts against the other table. A host at
`10.1.1.101` is recorded in a zone that does not hold its address; one at `10.1.2.201`, which no
zone of the table holds, ends the load in a `KeyError`. -/
theorem not_judgedByTable_labPolicy :
    loadPolicy labPolicyJson = .ok labPolicy ∧
      (∃ net host,
        loadNetwork policy (hostOnCoreJson (.str "10.1.1.101")) labPolicy.zones = .ok net ∧
        net.hosts.get? "h1" = some host ∧ ¬ HostAsTable labPolicy net host) ∧
      zoneForIp labPolicy (.v4 0x0A0102C9) = none ∧
      loadNetwork policy (hostOnCoreJson (.str "10.1.2.201")) labPolicy.zones =
        .error .keyError := by
  refine ⟨loadPolicy_labPolicyJson, ?_, by decide +kernel, ?_⟩
  · have hx : ipAddress (.str "10.1.1.101") = some (.v4 0x0A010165) := by decide +kernel
    have hz : zoneForIp policy (.v4 0x0A010165) = some "DeptA" := by decide +kernel
    have he : labPolicy.zones.get? "DeptA" = some (labPolicy.zones.entries.head nofun).2 := rfl
    obtain ⟨net, host, hnet, hhost, hip, hzone⟩ :=
      exists_loadNetwork_hostOnCoreJson hx hz he (by decide) (by decide) (by decide)
    refine ⟨net, host, hnet, hhost, ?_⟩
    intro htable
    obtain ⟨e, he, hcontains, -⟩ := htable.zone
    rw [hzone] at he
    rw [hip] at hcontains
    cases he
    exact absurd hcontains (by decide)
  · apply loadNetwork_of_reachesHost (reachesHost_hostOnCoreJson _ _ _)
    intro switches core hosts
    have hip : (layoutField (hostEntry (.str "10.1.2.201")).2 "ip").bind ipAddress =
        some (.v4 0x0A0102C9) := by decide +kernel
    have hz : zoneForIp policy (.v4 0x0A0102C9) = some "DeptB" := by decide +kernel
    exact loadHost_of_zone_notMem hip hz rfl

/-- The other table decides about a host at `10.1.1.101` only if both tables agree on it. -/
theorem judgedByTable_iff_labPolicy :
    JudgedByTable policy labPolicy (.v4 0x0A010165) ↔
      TablesAgree policy labPolicy (.v4 0x0A010165) :=
  have hx : ipAddress (.str "10.1.1.101") = some (.v4 0x0A010165) := by decide +kernel
  judgedByTable_iff loadPolicy_labPolicyJson hx

end ZoneSegmentation
