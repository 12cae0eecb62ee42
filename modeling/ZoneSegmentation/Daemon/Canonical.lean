import ZoneSegmentation.Config.Malformed
import ZoneSegmentation.Daemon.PolicyHeader

/-!
# The order of the rule tables

The block sets of a policy are enumerated in an order that changes from one run of the interpreter
to the next. The header generator sorts their pairs by the positions of both zones in the list of
zones, and two pairs of zones never have the same positions, so a sorted table does not depend on
the order it was enumerated in, and neither does it depend on how the rules of the file list it.

## Main definitions

* `Enumerates`, `BlockOrders`: an order in which a set, or each block set, may be enumerated
* `TableOf`: the table of a set, in increasing order of positions
* `RulesReordered`: policy files whose rules are permuted or repeated

## Main results

* `pairs_of_enumerates`: the table of a set is written for every order of it
* `render_congr`: the header does not depend on the order of the block sets
* `loadPolicy_of_rulesReordered`: nor on the order of the rules
-/

namespace ZoneSegmentation

/-- A list of the elements of a set, each once: an order in which it may be enumerated. -/
structure Enumerates (l : List (String × String)) (s : Finset (String × String)) : Prop where
  nodup : l.Nodup
  toFinset : l.toFinset = s

/-- Two orders of one set. -/
theorem Enumerates.perm {l l' : List (String × String)} {s : Finset (String × String)}
    (h : Enumerates l s) (h' : Enumerates l' s) : l.Perm l' := by
  rw [List.perm_ext_iff_of_nodup h.nodup h'.nodup]
  intro p
  rw [← List.mem_toFinset, ← List.mem_toFinset, h.toFinset, h'.toFinset]

/-- The orders in which one run of the interpreter enumerates the block sets of a policy. -/
structure BlockOrders (P : Policy) where
  all : List (String × String)
  icmp : List (String × String)
  all_enumerates : Enumerates all P.blockAllIp
  icmp_enumerates : Enumerates icmp P.blockIcmp

/-- Every set can be enumerated. -/
theorem exists_blockOrders (P : Policy) : Nonempty (BlockOrders P) :=
  ⟨{ all := P.blockAllIp.toList
     icmp := P.blockIcmp.toList
     all_enumerates := ⟨Finset.nodup_toList _, Finset.toList_toFinset _⟩
     icmp_enumerates := ⟨Finset.nodup_toList _, Finset.toList_toFinset _⟩ }⟩

/-- The positions of one pair come before those of another. -/
def RowLT (order : List String) (p q : String × String) : Prop :=
  order.idxOf p.1 < order.idxOf q.1 ∨
    (order.idxOf p.1 = order.idxOf q.1 ∧ order.idxOf p.2 < order.idxOf q.2)

/-- The table of a set: its pairs, each once, in increasing order of positions, and their
number. -/
structure TableOf (order : List String) (s : Finset (String × String)) (b : BlockTable) :
    Prop where
  mem : ∀ p, p ∈ b.rows ↔ p ∈ s
  nodup : b.rows.Nodup
  increasing : b.rows.Pairwise (RowLT order)
  count : b.count = s.card

/-! ## Sorting by positions -/

section

variable {order : List String} {p q : String × String}

/-- A pair of zones whose positions the sort looks up. -/
def Positioned (order : List String) (p : String × String) : Prop := p.1 ∈ order ∧ p.2 ∈ order

theorem RowLE.total (order : List String) (p q : String × String) :
    RowLE order p q ∨ RowLE order q p := by
  unfold RowLE
  omega

theorem RowLE.trans {r : String × String} (hpq : RowLE order p q) (hqr : RowLE order q r) :
    RowLE order p r := by
  unfold RowLE at *
  omega

/-- A zone has one position, so that pairs with the same positions are the same. -/
theorem RowLE.antisymm (hp : Positioned order p) (hpq : RowLE order p q) (hqp : RowLE order q p) :
    p = q := by
  have hfirst : order.idxOf p.1 = order.idxOf q.1 := by
    unfold RowLE at *
    omega
  have hsecond : order.idxOf p.2 = order.idxOf q.2 := by
    unfold RowLE at *
    omega
  exact Prod.ext ((List.idxOf_inj hp.1).mp hfirst) ((List.idxOf_inj hp.2).mp hsecond)

/-- Of two different pairs, one comes before the other. -/
theorem RowLE.lt_of_ne (hp : Positioned order p) (hpq : RowLE order p q) (hne : p ≠ q) :
    RowLT order p q := by
  by_contra hnot
  apply hne
  apply RowLE.antisymm hp hpq
  unfold RowLE RowLT at *
  omega

instance (order : List String) : Std.Total (RowLE order) := ⟨RowLE.total order⟩

instance (order : List String) : IsTrans (String × String) (RowLE order) :=
  ⟨fun _ _ _ => RowLE.trans⟩

/-- **A sorted table does not depend on the order it is enumerated in.** -/
theorem insertionSort_congr {l l' : List (String × String)} (hperm : l.Perm l')
    (horder : ∀ p ∈ l, Positioned order p) :
    l.insertionSort (RowLE order) = l'.insertionSort (RowLE order) := by
  apply List.Perm.eq_of_pairwise
  · intro p q hp _ hpq hqp
    rw [List.mem_insertionSort] at hp
    exact RowLE.antisymm (horder p hp) hpq hqp
  · exact List.pairwise_insertionSort _ l
  · exact List.pairwise_insertionSort _ l'
  · exact (List.perm_insertionSort _ l).trans (hperm.trans (List.perm_insertionSort _ l').symm)

/-- **The table of a set** is written for every order it may be enumerated in. -/
theorem pairs_of_enumerates {l : List (String × String)} {s : Finset (String × String)}
    (hl : Enumerates l s) (horder : ∀ p ∈ s, Positioned order p) :
    ∃ b, pairs order l = .ok b ∧ TableOf order s b := by
  have hmem {p : String × String} : p ∈ l ↔ p ∈ s := by rw [← List.mem_toFinset, hl.toFinset]
  have hall : l.all (fun p => p.1 ∈ order && p.2 ∈ order) = true := by
    apply List.all_eq_true.mpr
    intro p hp
    have hin := horder p (hmem.mp hp)
    simp [hin.1, hin.2]
  have hnodup : (l.insertionSort (RowLE order)).Nodup :=
    (List.perm_insertionSort _ l).nodup_iff.mpr hl.nodup
  refine ⟨_, if_pos hall, ?_, hnodup, ?_, ?_⟩
  · intro p
    show p ∈ l.insertionSort (RowLE order) ↔ p ∈ s
    rw [List.mem_insertionSort, hmem]
  · show (l.insertionSort (RowLE order)).Pairwise (RowLT order)
    have hboth := (List.pairwise_insertionSort (RowLE order) l).and hnodup
    apply hboth.imp_of_mem
    rintro p q hp _ ⟨hle, hne⟩
    rw [List.mem_insertionSort, hmem] at hp
    exact RowLE.lt_of_ne (horder p hp) hle hne
  · show (l.insertionSort (RowLE order)).length = s.card
    rw [List.length_insertionSort, ← hl.toFinset, List.toFinset_card_of_nodup hl.nodup]

theorem pairs_congr {l l' : List (String × String)} {s : Finset (String × String)}
    (hl : Enumerates l s) (hl' : Enumerates l' s) (horder : ∀ p ∈ s, Positioned order p) :
    pairs order l = pairs order l' := by
  have hperm := hl.perm hl'
  have hin : ∀ p ∈ l, Positioned order p := by
    intro p hp
    apply horder
    rwa [← hl.toFinset, List.mem_toFinset]
  have hall : l.all (fun p => p.1 ∈ order && p.2 ∈ order) =
      l'.all (fun p => p.1 ∈ order && p.2 ∈ order) := hperm.all_eq
  rw [pairs, pairs, hall, insertionSort_congr hperm hin]

end

/-! ## Policies -/

section

variable {raw : Json} {P : Policy} (h : loadPolicy raw = .ok P)

include h

/-- The block sets of an accepted policy hold pairs of its zones. -/
theorem positioned_of_loadPolicy :
    (∀ p ∈ P.blockAllIp, Positioned P.zones.keys p) ∧
      ∀ p ∈ P.blockIcmp, Positioned P.zones.keys p := by
  obtain ⟨members, rules, -, -, -, -, hok, hall, hicmp⟩ := loadPolicy_eq_ok_iff.mp h
  have hrule {kind : String} {p : String × String}
      (hp : ∃ rule ∈ rules, p ∈ rulePairs kind rule) : Positioned P.zones.keys p := by
    obtain ⟨src, dst⟩ := p
    obtain ⟨rule, hrule, hpair⟩ := hp
    obtain ⟨-, hfrom, hto⟩ := mem_rulePairs.mp hpair
    exact ⟨(hok rule hrule).sources.known src hfrom, (hok rule hrule).targets.known dst hto⟩
  constructor
  · intro p hp
    exact hrule ((hall p).mp hp)
  · intro p hp
    exact hrule ((hicmp p).mp hp)

/-- **The header does not depend on the order of the block sets.** -/
theorem render_congr (o o' : BlockOrders P) :
    render P.zones o.all o.icmp = render P.zones o'.all o'.icmp := by
  obtain ⟨hinAll, hinIcmp⟩ := positioned_of_loadPolicy h
  have hall := pairs_congr o.all_enumerates o'.all_enumerates hinAll
  have hicmp := pairs_congr o.icmp_enumerates o'.icmp_enumerates hinIcmp
  simp only [render, hall, hicmp]

/-- The tables of a header are those of the block sets. -/
theorem tableOf_of_render (o : BlockOrders P) {hdr : PolicyHeader}
    (hr : render P.zones o.all o.icmp = .ok hdr) :
    TableOf P.zones.keys P.blockAllIp hdr.kBlockAllIp ∧
      TableOf P.zones.keys P.blockIcmp hdr.kBlockIcmp := by
  obtain ⟨hinAll, hinIcmp⟩ := positioned_of_loadPolicy h
  obtain ⟨-, -, htableAll, htableIcmp⟩ := render_eq_ok hr
  obtain ⟨b, hb, htable⟩ := pairs_of_enumerates o.all_enumerates hinAll
  obtain ⟨b', hb', htable'⟩ := pairs_of_enumerates o.icmp_enumerates hinIcmp
  obtain rfl := Except.ok.inj (hb.symm.trans htableAll)
  obtain rfl := Except.ok.inj (hb'.symm.trans htableIcmp)
  exact ⟨htable, htable'⟩

/-- Rendering an accepted policy never fails to find a zone: what is wrong with a name is
reported. -/
theorem reports_render (o : BlockOrders P) : Reports (render P.zones o.all o.icmp) := by
  obtain ⟨hinAll, hinIcmp⟩ := positioned_of_loadPolicy h
  obtain ⟨b, hb, -⟩ := pairs_of_enumerates o.all_enumerates hinAll
  obtain ⟨b', hb', -⟩ := pairs_of_enumerates o.icmp_enumerates hinIcmp
  rw [render]
  apply reports_bind_iff.mpr
  constructor
  · apply Loop.onlyRaises_forIn
    intro name _
    apply reports_bind_iff.mpr
    exact ⟨reports_raiseIf _ _, fun _ _ => Loop.onlyRaises_pure _⟩
  · intro _ _
    simp only [hb, hb', Loop.ok_bind]
    exact Loop.onlyRaises_pure _

end

/-- Policy files with the same zones, and the same rules in any order and any number. -/
structure RulesReordered (raw raw' : Json) : Prop where
  zones : fileZones raw' = fileZones raw
  rules : ∃ rules rules', fileRules raw = .ok rules ∧ fileRules raw' = .ok rules' ∧
    ∀ rule, rule ∈ rules' ↔ rule ∈ rules

/-- **The policy does not depend on the order of the rules**, or on how often each is listed. -/
theorem loadPolicy_of_rulesReordered {raw raw' : Json} {P : Policy} (h : loadPolicy raw = .ok P)
    (hre : RulesReordered raw raw') : loadPolicy raw' = .ok P := by
  obtain ⟨hzones, rules, rules', hrules, hrules', hsame⟩ := hre
  exact loadPolicy_of_mem_iff h hrules hzones hrules' hsame

theorem RulesReordered.refl {raw : Json} {P : Policy} (h : loadPolicy raw = .ok P) :
    RulesReordered raw raw := by
  obtain ⟨members, rules, -, hrules, -⟩ := loadPolicy_eq_ok_iff.mp h
  exact ⟨rfl, rules, rules, hrules, hrules, fun rule => Iff.rfl⟩

end ZoneSegmentation
