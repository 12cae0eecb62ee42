import ZoneSegmentation.Daemon.PolicyHeader
import ZoneSegmentation.Library.Loop

/-!
# The C++ daemon's decision

`cpp/firewall_daemon.cpp` is compiled with the generated header and decides on 32-bit addresses
and a protocol byte. Its arithmetic is that of C++: zones are values of an enumeration over
`uint8_t`, masks are 32-bit, and a shift by the full width has no meaning.

## Main definitions

* `compile`: the tables of a header that compiles
* `classifyZone`, `decideZones`: `ClassifyZone` and `Decide`
* `daemonAnswer`: the daemon's verdict and rule id on a request
* `ruleId`: the rule that decides a packet, as the policy states it

## Main results

* `classifyZone_compile`: the compiled table classifies as `zoneForIp` does
* `daemonAnswer_eq`: the daemon and the Python firewall agree on every packet
-/

namespace ZoneSegmentation

/-! ## Compiling the header -/

/-- `enum class Zone : uint8_t`. -/
abbrev Zone := BitVec 8

/-- `struct SubnetZone`; the name is for logging only. -/
structure SubnetZone where
  zone : Zone
  network : BitVec 32
  prefixLen : BitVec 32
  deriving DecidableEq

/-- The constants a compiled header defines. -/
structure Tables where
  unknown : Zone
  kZones : List SubnetZone
  kBlockAllIp : List (Zone × Zone)
  kBlockAllIpCount : ℕ
  kBlockIcmp : List (Zone × Zone)
  kBlockIcmpCount : ℕ
  deriving DecidableEq

/-- The value of an enumerator: its position. -/
def enumerator? (enumerators : List String) (name : String) : Option Zone :=
  if name ∈ enumerators then some (BitVec.ofNat 8 (enumerators.idxOf name)) else none

/-- A row of `kZones`: both numbers must fit in a `uint32_t`, as those of an IPv4 subnet do. (A
literal too large for any integer type, which only an IPv6 subnet has, g++ truncates with a
warning; here it is refused.) -/
def compileRow (enumerators : List String) (row : ZoneRow) : Option SubnetZone := do
  let zone ← enumerator? enumerators row.zone
  if row.network < 2 ^ 32 ∧ row.prefixLen < 2 ^ 32 then
    some ⟨zone, BitVec.ofNat 32 row.network, BitVec.ofNat 32 row.prefixLen⟩
  else none

/-- A pair of a block table. -/
def compilePair (enumerators : List String) (p : String × String) : Option (Zone × Zone) := do
  let src ← enumerator? enumerators p.1
  let dst ← enumerator? enumerators p.2
  some (src, dst)

/-- The array of a block table; `[1] = {}` is one pair of zero enumerators. -/
def compileBlock (enumerators : List String) (b : BlockTable) : Option (List (Zone × Zone)) :=
  if b.rows.isEmpty then some [(0, 0)] else b.rows.mapM (compilePair enumerators)

/-- The tables of a header that compiles: the enumerators are different identifiers whose values
fit in a `uint8_t`, and every name and number has a place. -/
def compile (h : PolicyHeader) : Option Tables := do
  let enumerators := h.enum ++ ["Unknown"]
  if ¬ (enumerators.Nodup ∧ enumerators.length ≤ 256) then none
  else
    let unknown ← enumerator? enumerators "Unknown"
    let kZones ← h.kZones.mapM (compileRow enumerators)
    let kBlockAllIp ← compileBlock enumerators h.kBlockAllIp
    let kBlockIcmp ← compileBlock enumerators h.kBlockIcmp
    some {
      unknown, kZones, kBlockAllIp, kBlockIcmp
      kBlockAllIpCount := h.kBlockAllIp.count
      kBlockIcmpCount := h.kBlockIcmp.count }

/-! ## The decision -/

/-- `ContainsPair`: a scan of the first `count` entries. -/
def containsPair (table : List (Zone × Zone)) (count : ℕ) (src dst : Zone) : Bool :=
  (table.take count).any fun p => p.1 = src && p.2 = dst

/-- `x << n` on `uint32_t`; a shift by 32 or more has no meaning. -/
def shiftLeft32 (x n : BitVec 32) : Option (BitVec 32) :=
  if n.toNat < 32 then some (x <<< n.toNat) else none

/-- The mask of a row. -/
def rowMask (prefixLen : BitVec 32) : Option (BitVec 32) :=
  if prefixLen = 0 then some 0 else shiftLeft32 (~~~0) (32 - prefixLen)

/-- `ClassifyZone`, from a row of `kZones` on; `none` is an undefined shift. -/
def classifyZone (unknown : Zone) : List SubnetZone → BitVec 32 → Option Zone
  | [], _ => some unknown
  | z :: zs, ip => do
    let mask ← rowMask z.prefixLen
    if ip &&& mask = z.network &&& mask then some z.zone else classifyZone unknown zs ip

/-- `Decide`: the verdict and the rule id. -/
def decideZones (t : Tables) (src dst : Zone) (isIcmp : Bool) : BitVec 8 × BitVec 8 :=
  if src = t.unknown ∨ dst = t.unknown then (0, 3)
  else if containsPair t.kBlockAllIp t.kBlockAllIpCount src dst then (0, 1)
  else if isIcmp && containsPair t.kBlockIcmp t.kBlockIcmpCount src dst then (0, 2)
  else (1, 0)

/-- The daemon's answer to a request. -/
def daemonAnswer (t : Tables) (src dst : BitVec 32) (protocol : BitVec 8) :
    Option (BitVec 8 × BitVec 8) := do
  let srcZone ← classifyZone t.unknown t.kZones src
  let dstZone ← classifyZone t.unknown t.kZones dst
  some (decideZones t srcZone dstZone (protocol = 1))

/-- The rule that decides a packet between two zones: 3 outside every zone, 1 for a pair blocked
for all IP, 2 for an ICMP packet of a pair blocked for ICMP, else 0. -/
def ruleId (P : Policy) (src dst : Option String) (isIcmp : Bool) : BitVec 8 :=
  match src, dst with
  | some s, some d =>
    if (s, d) ∈ P.blockAllIp then 1 else if isIcmp = true ∧ (s, d) ∈ P.blockIcmp then 2 else 0
  | _, _ => 3

/-! ## Masks -/

/-- The mask the daemon computes for a prefix length is the mask of the block. -/
theorem rowMask_ofNat {p : ℕ} (hp : p ≤ 32) :
    rowMask (BitVec.ofNat 32 p) = some (Cidr.mask 32 p) := by
  unfold rowMask shiftLeft32 Cidr.mask
  have : ∀ p ≤ 32, (if BitVec.ofNat 32 p = 0 then some 0
      else if (32 - BitVec.ofNat 32 p).toNat < 32
        then some ((~~~(0 : BitVec 32)) <<< (32 - BitVec.ofNat 32 p).toNat) else none) =
      some (BitVec.allOnes 32 <<< (32 - p)) := by decide
  exact this p hp

/-! ## Enumerators -/

section Enumerators

/-- The value the daemon uses for the zone of an address, or for no zone. -/
def ZoneCode (enumerators : List String) (unknown : Zone) : Option String → Zone → Prop
  | some name, z => enumerator? enumerators name = some z
  | none, z => z = unknown

variable {enumerators : List String} (hlen : enumerators.length ≤ 256)

include hlen in
/-- Enumerators with different names have different values. -/
theorem enumerator?_inj {a b : String} {z : Zone} (ha : enumerator? enumerators a = some z)
    (hb : enumerator? enumerators b = some z) : a = b := by
  unfold enumerator? at ha hb
  split at ha
  · split at hb
    · rename_i hma hmb
      have hia := List.idxOf_lt_length_of_mem hma
      have hib := List.idxOf_lt_length_of_mem hmb
      have heq := congrArg BitVec.toNat ((Option.some.inj ha).trans (Option.some.inj hb).symm)
      rw [BitVec.toNat_ofNat, BitVec.toNat_ofNat, Nat.mod_eq_of_lt (by omega),
        Nat.mod_eq_of_lt (by omega)] at heq
      exact (List.idxOf_inj hma).mp heq
    · cases hb
  · cases ha

include hlen in
/-- Only the address of no zone has the value of `Unknown`. -/
theorem ZoneCode.eq_unknown_iff {unknown z : Zone} {zone : Option String}
    (hu : enumerator? enumerators "Unknown" = some unknown)
    (hz : ZoneCode enumerators unknown zone z) (hne : zone ≠ some "Unknown") :
    z = unknown ↔ zone = none := by
  cases zone with
  | none => exact iff_of_true hz rfl
  | some name =>
    refine iff_of_false ?_ (by simp)
    rintro rfl
    exact hne (congrArg some (enumerator?_inj hlen hz hu))

/-! ## Rows -/

/-- The row of an IPv4 zone compiles to the masked comparison that `zoneForIp` makes. -/
theorem compileRow_zoneRow {name : String} {z : ZoneEntry} {b : Cidr.Block 32} {row : SubnetZone}
    (hz : z.subnet = .v4 b) (h : compileRow enumerators (zoneRow name z) = some row) :
    enumerator? enumerators name = some row.zone ∧
      rowMask row.prefixLen = some (Cidr.mask 32 b.prefixlen) ∧ row.network = b.network := by
  obtain ⟨zone, hzone, h⟩ := Option.bind_eq_some_iff.mp h
  split at h
  · cases h
    refine ⟨hzone, ?_, ?_⟩
    · simpa [zoneRow, hz, IPNetwork.prefixlen] using rowMask_ofNat b.prefixlen_le
    · simp [zoneRow, hz, networkNumber]
  · cases h

/-- **The compiled table classifies as `zone_for_ip` does**: the first row that matches is the
row of the first zone that holds the address. -/
theorem classifyZone_compile {P : Policy} {kZones : List SubnetZone}
    (h4 : ∀ e ∈ P.zones.entries, e.2.subnet.IsV4)
    (h : (P.zones.entries.map fun (name, z) => zoneRow name z).mapM (compileRow enumerators) =
      some kZones) (unknown : Zone) (ip : BitVec 32) :
    ∃ z, classifyZone unknown kZones ip = some z ∧
      ZoneCode enumerators unknown (zoneForIp P (.v4 ip)) z := by
  unfold zoneForIp
  have hrows := Loop.forall₂_of_mapM_eq_some h
  clear h
  generalize P.zones.entries = entries at h4 hrows
  induction entries generalizing kZones with
  | nil =>
    cases hrows
    exact ⟨unknown, rfl, rfl⟩
  | cons e entries ih =>
    obtain ⟨name, zone⟩ := e
    obtain ⟨row, rows, hrow, hrest, rfl⟩ := List.forall₂_cons_left_iff.mp hrows
    obtain ⟨b, hb⟩ := h4 _ List.mem_cons_self
    obtain ⟨hcode, hmask, hnet⟩ := compileRow_zoneRow hb hrow
    -- the mask of the row decides as the subnet does, whose prefix it was made from
    have hscan : classifyZone unknown (row :: rows) ip =
        if b.contains ip = true then some row.zone else classifyZone unknown rows ip := by
      simp only [classifyZone, hmask, hnet, Option.bind_eq_bind, Option.bind_some,
        Cidr.Block.contains_iff_masked]
    have hsubnet : zone.subnet.contains (.v4 ip) = b.contains ip :=
      congrArg (IPNetwork.contains · (.v4 ip)) hb
    simp only [hscan, List.find?_cons, hsubnet]
    cases b.contains ip with
    | true => exact ⟨row.zone, rfl, hcode⟩
    | false => exact ih (fun e he => h4 e (List.mem_cons_of_mem _ he)) hrest

include hlen in
/-- A compiled block table contains a pair of values exactly when the set contains the pair of
zones. -/
theorem containsPair_compile {order : List String} {set : List (String × String)} {b : BlockTable}
    {table : List (Zone × Zone)} (hb : pairs order set = .ok b)
    (h : compileBlock enumerators b = some table) {src dst : String} {s d : Zone}
    (hs : enumerator? enumerators src = some s) (hd : enumerator? enumerators dst = some d) :
    containsPair table b.count s d = true ↔ (src, dst) ∈ set := by
  obtain ⟨hperm, hcount⟩ := pairs_eq_ok hb
  rw [← hperm.mem_iff, hcount]
  unfold compileBlock at h
  split at h
  · -- an empty block is emitted as a table that nothing reads
    rename_i hempty
    rw [List.isEmpty_iff] at hempty
    simp [hempty, containsPair]
  · have hrows := Loop.forall₂_of_mapM_eq_some h
    rw [containsPair, List.take_of_length_le (by rw [hrows.length_eq]), List.any_eq_true]
    constructor
    · rintro ⟨p, hp, heq⟩
      obtain ⟨⟨src', dst'⟩, hmem, hpair⟩ := Loop.exists_of_forall₂_of_mem_left hrows.flip hp
      obtain ⟨s', hs', hpair⟩ := Option.bind_eq_some_iff.mp hpair
      obtain ⟨d', hd', hpair⟩ := Option.bind_eq_some_iff.mp hpair
      obtain rfl := Option.some.inj hpair
      simp only [Bool.and_eq_true, decide_eq_true_eq] at heq
      obtain ⟨rfl, rfl⟩ := heq
      rwa [enumerator?_inj hlen hs hs', enumerator?_inj hlen hd hd']
    · intro hmem
      obtain ⟨p, hp, hpair⟩ := Loop.exists_of_forall₂_of_mem_left hrows hmem
      refine ⟨p, hp, ?_⟩
      simp only [compilePair, hs, hd, Option.bind_eq_bind, Option.bind_some, Option.some.injEq]
        at hpair
      simp [← hpair]

end Enumerators

/-! ## Agreement -/

/-- What a header that compiles consists of. -/
theorem compile_eq_some {h : PolicyHeader} {t : Tables} (hc : compile h = some t) :
    (h.enum ++ ["Unknown"]).Nodup ∧ (h.enum ++ ["Unknown"]).length ≤ 256 ∧
      enumerator? (h.enum ++ ["Unknown"]) "Unknown" = some t.unknown ∧
      h.kZones.mapM (compileRow (h.enum ++ ["Unknown"])) = some t.kZones ∧
      compileBlock (h.enum ++ ["Unknown"]) h.kBlockAllIp = some t.kBlockAllIp ∧
      t.kBlockAllIpCount = h.kBlockAllIp.count ∧
      compileBlock (h.enum ++ ["Unknown"]) h.kBlockIcmp = some t.kBlockIcmp ∧
      t.kBlockIcmpCount = h.kBlockIcmp.count := by
  unfold compile at hc
  simp only at hc
  split at hc
  · cases hc
  · rename_i hids
    obtain ⟨hnodup, hlen⟩ := not_not.mp hids
    obtain ⟨unknown, hu, hc⟩ := Option.bind_eq_some_iff.mp hc
    obtain ⟨kZones, hz, hc⟩ := Option.bind_eq_some_iff.mp hc
    obtain ⟨kBlockAllIp, ha, hc⟩ := Option.bind_eq_some_iff.mp hc
    obtain ⟨kBlockIcmp, hi, hc⟩ := Option.bind_eq_some_iff.mp hc
    obtain rfl := Option.some.inj hc
    exact ⟨hnodup, hlen, hu, hz, ha, rfl, hi, rfl⟩

variable {P : Policy}

/-- The rules allow a packet between the zones of two addresses exactly when no rule decides
it. -/
theorem firewallAllowed_iff_ruleId {src dst : IPAddress} {isIcmp : Bool} :
    firewallAllowed P (zoneForIp P src) (zoneForIp P dst) isIcmp = true ↔
      ruleId P (zoneForIp P src) (zoneForIp P dst) isIcmp = 0 := by
  cases hs : zoneForIp P src with
  | none => simp [firewallAllowed, ruleId]
  | some s =>
    cases hd : zoneForIp P dst with
    | none => simp [firewallAllowed, ruleId]
    | some d =>
      have hks := Dict.contains_eq_true_iff.mpr (mem_keys_of_zoneForIp hs)
      have hkd := Dict.contains_eq_true_iff.mpr (mem_keys_of_zoneForIp hd)
      by_cases hall : (s, d) ∈ P.blockAllIp
      · simp [firewallAllowed, ruleId, hks, hkd, hall]
      · cases isIcmp <;> simp [firewallAllowed, ruleId, hks, hkd, hall]

/-- `Decide` on the values of two zones names the rule that decides, and allows when none does. -/
theorem decideZones_eq {t : Tables} {enumerators : List String}
    (hlen : enumerators.length ≤ 256) (hu : enumerator? enumerators "Unknown" = some t.unknown)
    (hall : ∀ {src dst : String} {s d : Zone}, enumerator? enumerators src = some s →
      enumerator? enumerators dst = some d →
      (containsPair t.kBlockAllIp t.kBlockAllIpCount s d = true ↔ (src, dst) ∈ P.blockAllIp))
    (hicmp : ∀ {src dst : String} {s d : Zone}, enumerator? enumerators src = some s →
      enumerator? enumerators dst = some d →
      (containsPair t.kBlockIcmp t.kBlockIcmpCount s d = true ↔ (src, dst) ∈ P.blockIcmp))
    {src dst : Option String} {s d : Zone} (hs : ZoneCode enumerators t.unknown src s)
    (hd : ZoneCode enumerators t.unknown dst d) (hsne : src ≠ some "Unknown")
    (hdne : dst ≠ some "Unknown") (isIcmp : Bool) :
    decideZones t s d isIcmp =
      (if ruleId P src dst isIcmp = 0 then 1 else 0, ruleId P src dst isIcmp) := by
  -- only the address of no zone has the code that is refused at once
  have hs0 := hs.eq_unknown_iff hlen hu hsne
  have hd0 := hd.eq_unknown_iff hlen hu hdne
  cases src with
  | none => simp [decideZones, hs0, ruleId]
  | some src =>
    cases dst with
    | none => simp [decideZones, hd0, ruleId]
    | some dst =>
      by_cases ha : (src, dst) ∈ P.blockAllIp
      · simp [decideZones, hs0, hd0, hall hs hd, ruleId, ha]
      · by_cases hi : isIcmp = true ∧ (src, dst) ∈ P.blockIcmp
        · simp [decideZones, hs0, hd0, hall hs hd, hicmp hs hd, ruleId, ha, hi]
        · simp only [decideZones, hs0, hd0, hall hs hd, ruleId, ha, hi, Bool.and_eq_true,
            hicmp hs hd]
          simp

/-- The tables of a daemon that is built for a policy of IPv4 subnets: compiled from the header
that `render` writes for it. -/
structure BuiltFor (P : Policy) (t : Tables) : Prop where
  compiled : ∃ allIp icmp hdr, allIp.toFinset = P.blockAllIp ∧ icmp.toFinset = P.blockIcmp ∧
    render P.zones allIp icmp = .ok hdr ∧ compile hdr = some t
  ipv4 : ∀ e ∈ P.zones.entries, e.2.subnet.IsV4

/-- A daemon that is built for a policy answers as the policy says, and names the rule. -/
theorem BuiltFor.exists_answer {t : Tables} (h : BuiltFor P t) (src dst : BitVec 32)
    (protocol : BitVec 8) :
    ∃ verdict, daemonAnswer t src dst protocol =
        some (verdict, ruleId P (zoneForIp P (.v4 src)) (zoneForIp P (.v4 dst)) (protocol = 1)) ∧
      (verdict = 1 ↔ firewallAllowed P (zoneForIp P (.v4 src)) (zoneForIp P (.v4 dst))
        (protocol = 1) = true) := by
  obtain ⟨⟨allIp, icmp, hdr, hall, hicmp, hrender, hcompile⟩, h4⟩ := h
  obtain ⟨henum, hrows, hpairsAll, hpairsIcmp⟩ := render_eq_ok hrender
  obtain ⟨hnodup, hlen, hu, hkz, htAll, hcountAll, htIcmp, hcountIcmp⟩ := compile_eq_some hcompile
  rw [hrows] at hkz
  have hne (ip : IPAddress) : zoneForIp P ip ≠ some "Unknown" := fun hz =>
    (List.nodup_append.mp hnodup).2.2 _ (henum ▸ mem_keys_of_zoneForIp hz) _
      (List.mem_singleton_self _) rfl
  obtain ⟨s, hs, hsCode⟩ := classifyZone_compile h4 hkz t.unknown src
  obtain ⟨d, hd, hdCode⟩ := classifyZone_compile h4 hkz t.unknown dst
  have hdecide := decideZones_eq (P := P) hlen hu
    (fun hs hd => by
      rw [hcountAll, containsPair_compile hlen hpairsAll htAll hs hd, ← hall, List.mem_toFinset])
    (fun hs hd => by
      rw [hcountIcmp, containsPair_compile hlen hpairsIcmp htIcmp hs hd, ← hicmp,
        List.mem_toFinset])
    hsCode hdCode (hne _) (hne _) (protocol = 1)
  refine ⟨if ruleId P (zoneForIp P (.v4 src)) (zoneForIp P (.v4 dst)) (protocol = 1) = 0 then 1
    else 0, ?_, ?_⟩
  · simp only [daemonAnswer, hs, hd, hdecide, Option.bind_eq_bind, Option.bind_some]
  · rw [firewallAllowed_iff_ruleId]
    split <;> simp_all

/-- **The daemon and the Python firewall agree.** On the tables that `render` writes for a policy
of IPv4 subnets, the daemon answers every request; it allows exactly the packets that
`firewall_allowed` allows, and names the rule that decides. -/
theorem daemonAnswer_eq {allIp icmp : List (String × String)} {hdr : PolicyHeader} {t : Tables}
    (hall : allIp.toFinset = P.blockAllIp) (hicmp : icmp.toFinset = P.blockIcmp)
    (hrender : render P.zones allIp icmp = .ok hdr) (hcompile : compile hdr = some t)
    (h4 : ∀ e ∈ P.zones.entries, e.2.subnet.IsV4)
    (src dst : BitVec 32) (protocol : BitVec 8) :
    ∃ verdict, daemonAnswer t src dst protocol =
        some (verdict, ruleId P (zoneForIp P (.v4 src)) (zoneForIp P (.v4 dst)) (protocol = 1)) ∧
      (verdict = 1 ↔ firewallAllowed P (zoneForIp P (.v4 src)) (zoneForIp P (.v4 dst))
        (protocol = 1) = true) :=
  BuiltFor.exists_answer ⟨⟨allIp, icmp, hdr, hall, hicmp, hrender, hcompile⟩, h4⟩ src dst protocol

/-- The sets of blocked pairs of the repository's policy, enumerated. -/
def policyBlocks : List (String × String) × List (String × String) :=
  ([("Untrust", "DataCenter"), ("Trust", "DataCenter"), ("DataCenter", "Trust"),
      ("DataCenter", "Untrust")],
    [("DeptA", "DeptB"), ("DeptB", "DeptA"), ("Trust", "DeptB"), ("Untrust", "DataCenter"),
      ("Untrust", "DeptB"), ("Untrust", "DeptA")])

/-- The header of the repository's policy. -/
def policyHeader : PolicyHeader :=
  (render policy.zones policyBlocks.1 policyBlocks.2).toOption.get (by decide +kernel)

/-- The tables of the daemon that is built for the repository's policy. -/
def policyTables : Tables := (compile policyHeader).get (by decide +kernel)

theorem daemonAnswer_eq_untrust_deptA :
    ∃ verdict, daemonAnswer policyTables 0x6C231871 0x0A010165 1 =
        some (verdict, ruleId policy (zoneForIp policy (.v4 0x6C231871))
          (zoneForIp policy (.v4 0x0A010165)) ((1 : BitVec 8) = 1)) ∧
      (verdict = 1 ↔ firewallAllowed policy (zoneForIp policy (.v4 0x6C231871))
        (zoneForIp policy (.v4 0x0A010165)) ((1 : BitVec 8) = 1) = true) :=
  have hall : policyBlocks.1.toFinset = policy.blockAllIp := by decide +kernel
  have hicmp : policyBlocks.2.toFinset = policy.blockIcmp := by decide +kernel
  have hrender : render policy.zones policyBlocks.1 policyBlocks.2 = .ok policyHeader := by
    decide +kernel
  have hcompile : compile policyHeader = some policyTables := by decide +kernel
  have h4 : ∀ e ∈ policy.zones.entries, e.2.subnet.IsV4 := by decide +kernel
  daemonAnswer_eq hall hicmp hrender hcompile h4 0x6C231871 0x0A010165 1

/-- The repository's daemon is built for its policy. -/
theorem builtFor_policyTables : BuiltFor policy policyTables :=
  ⟨⟨policyBlocks.1, policyBlocks.2, policyHeader, by decide +kernel, by decide +kernel,
    by decide +kernel, by decide +kernel⟩, by decide +kernel⟩

end ZoneSegmentation
