import ZoneSegmentation.Config.FirewallRules
import Mathlib.Data.List.Sort

/-!
# The generated policy header

`tools/gen_policy_header.py` writes the zones and the blocked pairs of a policy as C++ tables:
the zone names as an enumeration, one row for each zone, and for each block set a sorted array of
zone pairs with its count. An empty array is written as one placeholder element that the count
keeps unread.

## Main definitions

* `PolicyHeader`: the declarations of the generated header
* `render`: the header of a policy, given an order in which its block sets are enumerated

## Main results

* `pairs_eq_ok`, `render_eq_ok`: what a written table, and a header that was rendered, contain
-/

namespace ZoneSegmentation

/-- A row of `kZones`. -/
structure ZoneRow where
  zone : String
  network : ℕ
  prefixLen : ℕ
  name : String
  deriving DecidableEq

/-- A block table: the rows of its array, and its `Count`. Without rows the array is
`[1] = {}`. -/
structure BlockTable where
  rows : List (String × String)
  count : ℕ
  deriving DecidableEq

/-- The declarations of `policy_generated.h`. The enumeration ends with `Unknown`. -/
structure PolicyHeader where
  enum : List String
  kZones : List ZoneRow
  kBlockAllIp : BlockTable
  kBlockIcmp : BlockTable
  deriving DecidableEq

/-- `_IDENTIFIER.match`, after the first character; the `$` also matches before a newline that
ends the text. -/
def matchIdentifierTail : List Char → Bool
  | [] => true
  | ['\n'] => true
  | c :: cs => (c.isAlphanum || c = '_') && matchIdentifierTail cs

/-- `_IDENTIFIER.match`. -/
def matchIdentifier (name : String) : Bool :=
  match name.toList with
  | [] => false
  | c :: cs => (c.isAlpha || c = '_') && matchIdentifierTail cs

/-- `RESERVED`. -/
def reserved : List String := ["Unknown"]

/-- `int(subnet.network_address)`. -/
def networkNumber : IPNetwork → ℕ
  | .v4 b => b.network.toNat
  | .v6 b _ => b.network.toNat

/-- The order of the rows: by the position of the source zone, then of the target zone. -/
def RowLE (order : List String) (p q : String × String) : Prop :=
  order.idxOf p.1 < order.idxOf q.1 ∨
    (order.idxOf p.1 = order.idxOf q.1 ∧ order.idxOf p.2 ≤ order.idxOf q.2)

instance (order : List String) : DecidableRel (RowLE order) := fun _ _ =>
  inferInstanceAs (Decidable (_ ∨ _))

/-- `pairs`, on the pairs of a set in the order they are enumerated. A zone without a position
makes `order.index` fail. -/
def pairs (order : List String) (table : List (String × String)) :
    Except (PyError PolicyFault) BlockTable :=
  if table.all fun p => p.1 ∈ order && p.2 ∈ order then
    let rows := table.insertionSort (RowLE order)
    .ok ⟨rows, rows.length⟩
  else .error .valueError

/-- The row of a zone. -/
def zoneRow (name : String) (z : ZoneEntry) : ZoneRow :=
  ⟨name, networkNumber z.subnet, z.subnet.prefixlen, name⟩

/-- `render`, with the block sets given in the order they are enumerated. -/
def render (zones : Dict String ZoneEntry) (blockAllIp blockIcmp : List (String × String)) :
    Except (PyError PolicyFault) PolicyHeader := do
  for name in zones.keys do
    raiseIf (!matchIdentifier name || name ∈ reserved) (.fault (.badZoneName name))
  let order := zones.keys
  let kBlockAllIp ← pairs order blockAllIp
  let kBlockIcmp ← pairs order blockIcmp
  return {
    enum := order
    kZones := zones.entries.map fun (name, z) => zoneRow name z
    kBlockAllIp
    kBlockIcmp }

theorem pairs_eq_ok {order : List String} {table : List (String × String)} {b : BlockTable}
    (h : pairs order table = .ok b) : b.rows.Perm table ∧ b.count = b.rows.length := by
  unfold pairs at h
  split at h
  · cases h
    exact ⟨List.perm_insertionSort _ _, rfl⟩
  · cases h

/-- What a header that was rendered contains. -/
theorem render_eq_ok {zones : Dict String ZoneEntry} {all icmp : List (String × String)}
    {h : PolicyHeader} (hr : render zones all icmp = .ok h) :
    h.enum = zones.keys ∧ h.kZones = zones.entries.map (fun (name, z) => zoneRow name z) ∧
      pairs zones.keys all = .ok h.kBlockAllIp ∧ pairs zones.keys icmp = .ok h.kBlockIcmp := by
  simp only [render, bind, Except.bind, pure, Except.pure] at hr
  split at hr
  · cases hr
  · split at hr
    · cases hr
    · split at hr
      · cases hr
      · rename_i hall _ _ hicmp
        cases hr
        exact ⟨rfl, rfl, hall, hicmp⟩

end ZoneSegmentation
