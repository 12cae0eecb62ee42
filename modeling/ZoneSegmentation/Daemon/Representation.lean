import ZoneSegmentation.Daemon.Decision

/-!
# Policies the daemon can represent

The loader accepts subnets of both IP versions, and the header generator writes their numbers into
a table of 32-bit networks. For an IPv4 subnet the row is what the daemon needs. For an IPv6 subnet
it never is, and nothing refuses the policy: either a number is too large, or the shift of the
daemon's mask has no meaning, or the row matches IPv4 addresses that the zone does not hold.

## Main definitions

* `RowOk`: a row of the table that stands for its zone

## Main results

* `rowOk_iff`: the row of a zone stands for it exactly when its subnet is IPv4
* `rows_represent_zones_iff`: the table stands for a policy exactly when all its subnets are IPv4
* `rows_represent_zones_fails`: an accepted policy whose table does not compile to a classifier
-/

namespace ZoneSegmentation

/-- A row of the table that stands for its zone: its numbers are in range, the daemon's mask is
defined, and the row matches the IPv4 addresses of the zone. -/
structure RowOk (z : ZoneEntry) (row : ZoneRow) : Prop where
  network_lt : row.network < 2 ^ 32
  prefixLen_le : row.prefixLen ≤ 32
  classifies : ∃ mask, rowMask (BitVec.ofNat 32 row.prefixLen) = some mask ∧
    ∀ ip : BitVec 32, ip &&& mask = BitVec.ofNat 32 row.network &&& mask ↔
      z.subnet.contains (.v4 ip) = true

/-- **The row of a zone stands for it exactly when its subnet is IPv4.** -/
theorem rowOk_iff (name : String) (z : ZoneEntry) : RowOk z (zoneRow name z) ↔ z.subnet.IsV4 := by
  constructor
  · intro hrow
    cases hnet : z.subnet with
    | v4 b => exact ⟨b, rfl⟩
    | v6 b scope =>
      -- numbers in range leave only networks that start at zero, and those match the address zero
      have hlt : b.network.toNat < 2 ^ 32 := by
        have := hrow.network_lt
        rwa [zoneRow, hnet] at this
      have hle : b.prefixlen ≤ 32 := by
        have := hrow.prefixLen_le
        rwa [zoneRow, hnet] at this
      have hzero : b.network = 0 := Cidr.Block.network_eq_zero_of_lt (by omega) hlt
      obtain ⟨mask, -, hmatch⟩ := hrow.classifies
      have hcontains := (hmatch 0).mp (by simp [zoneRow, hnet, networkNumber, hzero])
      rw [hnet] at hcontains
      cases hcontains
  · rintro ⟨b, hb⟩
    refine ⟨?_, ?_, Cidr.mask 32 b.prefixlen, ?_, ?_⟩
    · simpa [zoneRow, hb, networkNumber] using b.network.isLt
    · simpa [zoneRow, hb, IPNetwork.prefixlen] using b.prefixlen_le
    · simpa [zoneRow, hb, IPNetwork.prefixlen] using rowMask_ofNat b.prefixlen_le
    · intro ip
      rw [hb, IPNetwork.contains, Cidr.Block.contains_iff_masked]
      simp [zoneRow, hb, networkNumber]

/-- **The table that `render` writes stands for the policy** exactly when all its subnets are
IPv4. -/
theorem rows_represent_zones_iff {P : Policy} {allIp icmp : List (String × String)}
    {hdr : PolicyHeader} (hrender : render P.zones allIp icmp = .ok hdr) :
    List.Forall₂ (fun e row => RowOk e.2 row) P.zones.entries hdr.kZones ↔
      ∀ e ∈ P.zones.entries, e.2.subnet.IsV4 := by
  obtain ⟨-, hrows, -, -⟩ := render_eq_ok hrender
  rw [hrows, List.forall₂_map_right_iff, List.forall₂_same]
  simp only [rowOk_iff]

theorem rows_represent_zones_iff_policy :
    List.Forall₂ (fun e row => RowOk e.2 row) policy.zones.entries policyHeader.kZones ↔
      ∀ e ∈ policy.zones.entries, e.2.subnet.IsV4 :=
  have hrender : render policy.zones policyBlocks.1 policyBlocks.2 = .ok policyHeader := by
    decide +kernel
  rows_represent_zones_iff hrender

/-- A policy of one IPv6 zone, whose network is a small number. -/
def ipv6PolicyJson : Json :=
  .obj [("zones", .obj [("Lab", zoneJson "::/96" "::1" "02:00:00:00:00:01")])]

/-- Its tables. -/
def ipv6Policy : Policy where
  zones := ⟨[("Lab", ⟨.v6 ⟨0, 96, by decide, by decide⟩ none, .v6 1 none, "02:00:00:00:00:01"⟩)],
    by decide⟩
  blockAllIp := ∅
  blockIcmp := ∅

/-- Its header. -/
def ipv6Header : PolicyHeader where
  enum := ["Lab"]
  kZones := [⟨"Lab", 0, 96, "Lab"⟩]
  kBlockAllIp := ⟨[], 0⟩
  kBlockIcmp := ⟨[], 0⟩

/-- The policy is accepted, rendered and compiled, and its row has a prefix length of 96: the
daemon shifts by 32 - 96, and so has no answer to any request. -/
theorem rows_represent_zones_fails :
    loadPolicy ipv6PolicyJson = .ok ipv6Policy ∧
    render ipv6Policy.zones [] [] = .ok ipv6Header ∧
    (∃ t, compile ipv6Header = some t ∧ ∀ src dst protocol,
      daemonAnswer t src dst protocol = none) ∧
    ¬ List.Forall₂ (fun e row => RowOk e.2 row) ipv6Policy.zones.entries ipv6Header.kZones := by
  refine ⟨Loop.eq_ok_of_toOption (by decide +kernel), Loop.eq_ok_of_toOption (by decide +kernel),
    ⟨⟨1, [⟨0, 0, 96⟩], [(0, 0)], 0, [(0, 0)], 0⟩, by decide +kernel, ?_⟩, ?_⟩
  · intro src dst protocol
    rfl
  · intro hrows
    obtain ⟨hrow, -⟩ := List.forall₂_cons.mp hrows
    exact absurd hrow.prefixLen_le (by decide)

end ZoneSegmentation
