import Mathlib.Data.List.Nodup
import Mathlib.Data.List.Induction
import Mathlib.Algebra.BigOperators.Group.List.Basic
import Mathlib.Algebra.GroupWithZero.Nat

/-!
# Insertion-ordered finite maps

A `Dict K V` maps finitely many keys to values and keeps the order in which its keys were first
set: overwriting a key keeps its place, a new key goes last. The keys are pairwise different by
construction, so a lookup has one answer and an entry is the same thing as a lookup.

## Main definitions

* `Dict`: the map, as its list of entries
* `Dict.get?`, `Dict.set`, `Dict.erase`, `Dict.filter`, `Dict.mapValues`: lookup, assignment,
  deletion, selection, and the image of the values
* `Dict.ofList`: the map built by assigning pairs in order
* `Dict.total`: a number summed over the values
* `Dict.Same`: maps that agree on every key, whatever the order of their keys

## Main results

* `Dict.get?_eq_some_iff`: a lookup answers `v` exactly when the entry is present
* `Dict.get?_set`, `Dict.get?_erase`, `Dict.get?_filter`: what each operation does to lookups
* `Dict.total_set_of_some`, `Dict.total_set_of_none`, `Dict.total_erase`: and to totals
-/

/-- A finite map that keeps the order in which its keys were first set. -/
@[ext] structure Dict (K V : Type*) where
  /-- The entries, oldest key first. -/
  entries : List (K × V)
  /-- No key has two entries. -/
  nodup : (entries.map Prod.fst).Nodup

namespace Dict

variable {K V : Type*}

instance [DecidableEq K] [DecidableEq V] : DecidableEq (Dict K V) := fun d e =>
  decidable_of_iff (d.entries = e.entries) Dict.ext_iff.symm

/-- The map without entries. -/
def empty : Dict K V := ⟨[], List.nodup_nil⟩

/-- The keys, oldest first. -/
def keys (d : Dict K V) : List K := d.entries.map Prod.fst

/-- The values, in the order of their keys. -/
def values (d : Dict K V) : List V := d.entries.map Prod.snd

/-- The entries that satisfy `p`. -/
def filter (d : Dict K V) (p : K → V → Bool) : Dict K V :=
  ⟨d.entries.filter fun e => p e.1 e.2, d.nodup.sublist (List.filter_sublist.map _)⟩

/-- The map with every value replaced by its image. -/
def mapValues {W : Type*} (d : Dict K V) (f : V → W) : Dict K W :=
  ⟨d.entries.map fun e => (e.1, f e.2), by rw [List.map_map]; exact d.nodup⟩

variable [DecidableEq K]

/-- The value of a key. -/
def get? (d : Dict K V) (k : K) : Option V :=
  (d.entries.find? fun e => e.1 = k).map Prod.snd

/-- Whether a key has a value. -/
def contains (d : Dict K V) (k : K) : Bool := (d.get? k).isSome

/-- The entries after assigning `v` to `k`. -/
def setEntries (es : List (K × V)) (k : K) (v : V) : List (K × V) :=
  if k ∈ es.map Prod.fst then es.map fun e => if e.1 = k then (k, v) else e else es ++ [(k, v)]

theorem nodup_setEntries {es : List (K × V)} (h : (es.map Prod.fst).Nodup) (k : K) (v : V) :
    ((setEntries es k v).map Prod.fst).Nodup := by
  unfold setEntries
  split
  · have : (es.map fun e => if e.1 = k then (k, v) else e).map Prod.fst = es.map Prod.fst := by
      rw [List.map_map]
      refine List.map_congr_left fun e _ => ?_
      by_cases he : e.1 = k <;> simp [he]
    rwa [this]
  · rename_i hk
    rw [List.map_append]
    exact List.nodup_append.mpr ⟨h, by simp, by rintro a ha b hb rfl; simp_all⟩

/-- Assign `v` to `k`: in place when `k` has a value, else at the end. -/
def set (d : Dict K V) (k : K) (v : V) : Dict K V :=
  ⟨setEntries d.entries k v, nodup_setEntries d.nodup k v⟩

/-- Delete a key. -/
def erase (d : Dict K V) (k : K) : Dict K V := d.filter fun k' _ => k' ≠ k

/-- Assign pairs in order, so that the last value of a key wins. -/
def ofList (ps : List (K × V)) : Dict K V := ps.foldl (fun d p => d.set p.1 p.2) empty

/-! ## Lookups -/

omit [DecidableEq K] in
theorem eq_of_mem_entries {d : Dict K V} {k : K} {v w : V} (hv : (k, v) ∈ d.entries)
    (hw : (k, w) ∈ d.entries) : v = w := by
  have := List.inj_on_of_nodup_map d.nodup hv hw rfl
  exact (Prod.mk.inj this).2

theorem get?_eq_some_iff {d : Dict K V} {k : K} {v : V} :
    d.get? k = some v ↔ (k, v) ∈ d.entries := by
  constructor
  · intro h
    obtain ⟨⟨k', v'⟩, he, rfl⟩ := Option.map_eq_some_iff.mp h
    have hk : k' = k := by simpa using List.find?_some he
    exact hk ▸ List.mem_of_find?_eq_some he
  · intro h
    cases he : d.entries.find? fun e => e.1 = k with
    | none => simpa using List.find?_eq_none.mp he _ h
    | some e =>
      have hk : e.1 = k := by simpa using List.find?_some he
      have hv : (k, e.2) ∈ d.entries := hk ▸ List.mem_of_find?_eq_some he
      simp [get?, he, eq_of_mem_entries hv h]

theorem get?_eq_none_iff {d : Dict K V} {k : K} : d.get? k = none ↔ k ∉ d.keys := by
  rw [Option.eq_none_iff_forall_ne_some]
  constructor
  · intro h hk
    obtain ⟨⟨k', v⟩, he, rfl⟩ := List.mem_map.mp hk
    exact h v (get?_eq_some_iff.mpr he)
  · intro h v hv
    exact h (List.mem_map.mpr ⟨(k, v), get?_eq_some_iff.mp hv, rfl⟩)

theorem mem_keys_iff {d : Dict K V} {k : K} : k ∈ d.keys ↔ ∃ v, d.get? k = some v := by
  rw [← Option.ne_none_iff_exists', ne_eq, get?_eq_none_iff, not_not]

theorem contains_eq_true_iff {d : Dict K V} {k : K} : d.contains k = true ↔ k ∈ d.keys := by
  rw [contains, Option.isSome_iff_exists, mem_keys_iff]

@[simp] theorem get?_empty (k : K) : (empty : Dict K V).get? k = none := rfl

theorem mem_setEntries {es : List (K × V)} {k : K} {v : V} {e : K × V} :
    e ∈ setEntries es k v ↔ e = (k, v) ∨ (e ∈ es ∧ e.1 ≠ k) := by
  unfold setEntries
  split
  · rename_i hk
    constructor
    · intro h
      obtain ⟨e', he', rfl⟩ := List.mem_map.mp h
      by_cases hk' : e'.1 = k
      · simp [hk']
      · simp [hk', he']
    · rintro (rfl | ⟨he, hne⟩)
      · obtain ⟨e', he', hk'⟩ := List.mem_map.mp hk
        exact List.mem_map.mpr ⟨e', he', by simp [hk']⟩
      · exact List.mem_map.mpr ⟨e, he, by simp [hne]⟩
  · rename_i hk
    simp only [List.mem_append, List.mem_singleton]
    constructor
    · rintro (he | rfl)
      · exact Or.inr ⟨he, fun h => hk (List.mem_map.mpr ⟨e, he, h⟩)⟩
      · exact Or.inl rfl
    · rintro (rfl | ⟨he, -⟩)
      · exact Or.inr rfl
      · exact Or.inl he

/-- A new key goes last. -/
theorem entries_set_of_notMem {d : Dict K V} {k : K} (hk : k ∉ d.keys) (v : V) :
    (d.set k v).entries = d.entries ++ [(k, v)] := if_neg hk

theorem get?_set (d : Dict K V) (k k' : K) (v : V) :
    (d.set k v).get? k' = if k' = k then some v else d.get? k' := by
  refine Option.ext fun w => ?_
  rw [get?_eq_some_iff, set, mem_setEntries]
  by_cases hk : k' = k
  · subst hk
    simp [eq_comm]
  · simp [hk, get?_eq_some_iff]

@[simp] theorem get?_set_self (d : Dict K V) (k : K) (v : V) : (d.set k v).get? k = some v := by
  simp [get?_set]

theorem map_replace_of_notMem {es : List (K × V)} {k : K} (hk : k ∉ es.map Prod.fst) (v : V) :
    es.map (fun e => if e.1 = k then (k, v) else e) = es := by
  have hid : ∀ e ∈ es, (if e.1 = k then (k, v) else e) = e := by
    intro e he
    rw [if_neg]
    rintro rfl
    exact hk (List.mem_map_of_mem he)
  rw [List.map_congr_left hid, List.map_id']

/-- The last of two assignments to a key counts. -/
@[simp] theorem set_set (d : Dict K V) (k : K) (v w : V) : (d.set k v).set k w = d.set k w := by
  have hmem : k ∈ (setEntries d.entries k v).map Prod.fst :=
    mem_keys_iff.mpr ⟨v, get?_set_self d k v⟩
  refine Dict.ext ?_
  change setEntries (setEntries d.entries k v) k w = setEntries d.entries k w
  rw [setEntries, if_pos hmem]
  unfold setEntries
  split
  · rw [List.map_map]
    refine List.map_congr_left fun e _ => ?_
    by_cases hk : e.1 = k <;> simp [hk]
  · rename_i hk
    rw [List.map_append, List.map_cons, List.map_nil, if_pos rfl, map_replace_of_notMem hk]

theorem get?_set_of_ne (d : Dict K V) {k k' : K} (v : V) (h : k' ≠ k) :
    (d.set k v).get? k' = d.get? k' := by
  simp [get?_set, h]

/-- A lookup after an assignment finds the new value or, for another key, the old one. -/
theorem get?_set_eq_some {d : Dict K V} {k k' : K} {v w : V} : (d.set k v).get? k' = some w ↔
    (k' = k ∧ v = w) ∨ (k' ≠ k ∧ d.get? k' = some w) := by
  by_cases hk : k' = k <;> simp [get?_set, hk]

omit [DecidableEq K] in
@[simp] theorem keys_mapValues {W : Type*} (d : Dict K V) (f : V → W) :
    (d.mapValues f).keys = d.keys := List.map_map ..

omit [DecidableEq K] in
theorem mem_entries_mapValues {W : Type*} {d : Dict K V} {f : V → W} {k : K} {w : W} :
    (k, w) ∈ (d.mapValues f).entries ↔ ∃ v, (k, v) ∈ d.entries ∧ f v = w := by
  constructor
  · intro h
    obtain ⟨⟨k', v⟩, hv, heq⟩ := List.mem_map.mp h
    obtain ⟨rfl, rfl⟩ := Prod.mk.inj heq
    exact ⟨v, hv, rfl⟩
  · rintro ⟨v, hv, rfl⟩
    exact List.mem_map.mpr ⟨(k, v), hv, rfl⟩

theorem get?_filter (d : Dict K V) (p : K → V → Bool) (k : K) :
    (d.filter p).get? k = (d.get? k).filter (p k) := by
  refine Option.ext fun v => ?_
  rw [get?_eq_some_iff, Option.filter_eq_some_iff, get?_eq_some_iff]
  simp [filter]

theorem get?_erase (d : Dict K V) (k k' : K) :
    (d.erase k).get? k' = if k' = k then none else d.get? k' := by
  rw [erase, get?_filter]
  by_cases hk : k' = k
  · simp [hk]
  · cases h : d.get? k' <;> simp [hk]

@[simp] theorem get?_erase_self (d : Dict K V) (k : K) : (d.erase k).get? k = none := by
  simp [get?_erase]

/-- A lookup after a deletion finds the old value of another key. -/
theorem get?_erase_eq_some {d : Dict K V} {k k' : K} {v : V} : (d.erase k).get? k' = some v ↔
    k' ≠ k ∧ d.get? k' = some v := by
  by_cases hk : k' = k <;> simp [get?_erase, hk]

/-- Deleting a list of keys. -/
theorem get?_foldl_erase (ks : List K) (d : Dict K V) (k : K) :
    (ks.foldl erase d).get? k = if k ∈ ks then none else d.get? k := by
  induction ks generalizing d with
  | nil => simp
  | cons k' ks ih =>
    rw [List.foldl_cons, ih, get?_erase]
    by_cases hk : k = k' <;> by_cases hks : k ∈ ks <;> simp [hk, hks]

theorem mem_keys_set {d : Dict K V} {k k' : K} {v : V} :
    k' ∈ (d.set k v).keys ↔ k' = k ∨ k' ∈ d.keys := by
  rw [mem_keys_iff, get?_set, mem_keys_iff]
  by_cases hk : k' = k <;> simp [hk]

/-! ## Totals -/

/-- The sum of a number over the values. -/
def total (d : Dict K V) (f : V → ℕ) : ℕ := (d.values.map f).sum

/-- An entry, and the entries around it. -/
theorem exists_entries_eq {d : Dict K V} {k : K} {v : V} (h : d.get? k = some v) :
    ∃ as bs, d.entries = as ++ (k, v) :: bs ∧ k ∉ as.map Prod.fst ∧ k ∉ bs.map Prod.fst := by
  obtain ⟨as, bs, hd⟩ := List.append_of_mem (get?_eq_some_iff.mp h)
  have hnodup := d.nodup
  rw [hd, List.map_append, List.map_cons, List.nodup_append] at hnodup
  obtain ⟨-, hbs, has⟩ := hnodup
  exact ⟨as, bs, hd, fun hk => has k hk k List.mem_cons_self rfl, (List.nodup_cons.mp hbs).1⟩

theorem total_erase {d : Dict K V} {k : K} {v : V} (h : d.get? k = some v) (f : V → ℕ) :
    (d.erase k).total f + f v = d.total f := by
  obtain ⟨as, bs, hd, has, hbs⟩ := exists_entries_eq h
  have hkeep : ∀ es : List (K × V), k ∉ es.map Prod.fst →
      es.filter (fun e => decide (e.1 ≠ k)) = es := by
    intro es hk
    refine List.filter_eq_self.mpr fun e he => decide_eq_true ?_
    rintro rfl
    exact hk (List.mem_map_of_mem he)
  have herase : (d.erase k).entries = as ++ bs := by
    change d.entries.filter (fun e => decide (e.1 ≠ k)) = _
    rw [hd, List.filter_append, List.filter_cons_of_neg (by simp), hkeep as has, hkeep bs hbs]
  simp only [total, values, herase, hd, List.map_append, List.map_cons, List.sum_append,
    List.sum_cons]
  omega

theorem total_set_of_none {d : Dict K V} {k : K} (h : d.get? k = none) (v : V) (f : V → ℕ) :
    (d.set k v).total f = d.total f + f v := by
  have hset := entries_set_of_notMem (get?_eq_none_iff.mp h) v
  simp [total, values, hset]

theorem total_set_of_some {d : Dict K V} {k : K} {v : V} (h : d.get? k = some v) (w : V)
    (f : V → ℕ) : (d.set k w).total f + f v = d.total f + f w := by
  obtain ⟨as, bs, hd, has, hbs⟩ := exists_entries_eq h
  have hset : (d.set k w).entries = as ++ (k, w) :: bs := by
    change setEntries d.entries k w = _
    rw [setEntries, if_pos (by simp [hd]), hd, List.map_append, List.map_cons, if_pos rfl,
      map_replace_of_notMem has, map_replace_of_notMem hbs]
  simp only [total, values, hset, hd, List.map_append, List.map_cons, List.sum_append,
    List.sum_cons]
  omega

/-! ## Assigning a list of pairs -/

theorem get?_foldl_set (ps : List (K × V)) (d : Dict K V) (k : K) :
    (ps.foldl (fun d p => d.set p.1 p.2) d).get? k =
      (((ps.filter fun p => p.1 = k).getLast?).map Prod.snd).or (d.get? k) := by
  induction ps using List.reverseRecOn with
  | nil => simp
  | append_singleton ps p ih =>
    rw [List.foldl_append, List.foldl_cons, List.foldl_nil, get?_set, ih, List.filter_append]
    by_cases hk : k = p.1 <;> simp [hk, eq_comm]

theorem ofList_concat (ps : List (K × V)) (p : K × V) :
    ofList (ps ++ [p]) = (ofList ps).set p.1 p.2 := by
  rw [ofList, List.foldl_append]
  rfl

/-- The keys of a map built from pairs are those of the pairs. -/
theorem mem_keys_ofList {ps : List (K × V)} {k : K} :
    k ∈ (ofList ps).keys ↔ k ∈ ps.map Prod.fst := by
  induction ps using List.reverseRecOn with
  | nil => exact Iff.rfl
  | append_singleton ps p ih =>
    rw [ofList_concat, mem_keys_set, ih]
    simp [or_comm]

/-- The value of a key in a map built from pairs comes from one of the pairs. -/
theorem mem_of_get?_ofList {ps : List (K × V)} {k : K} {v : V} (h : (ofList ps).get? k = some v) :
    (k, v) ∈ ps := by
  rw [ofList, get?_foldl_set, get?_empty, Option.or_none] at h
  obtain ⟨⟨k', v'⟩, hlast, rfl⟩ := Option.map_eq_some_iff.mp h
  obtain ⟨hmem, hk⟩ := List.mem_filter.mp (List.mem_of_getLast? hlast)
  obtain rfl : k' = k := by simpa using hk
  exact hmem

theorem notMem_keys_ofList_iff {ps : List (K × V)} {k : K} :
    k ∉ (ofList ps).keys ↔ ∀ p ∈ ps, p.1 ≠ k := by
  rw [mem_keys_ofList, List.mem_map, not_exists]
  simp only [not_and, Ne]

/-- Pairs with pairwise different keys are assigned one after the other. -/
theorem entries_ofList {ps : List (K × V)} (hps : (ps.map Prod.fst).Nodup) :
    (ofList ps).entries = ps := by
  induction ps using List.reverseRecOn with
  | nil => rfl
  | append_singleton ps p ih =>
    rw [List.map_append, List.map_singleton, List.nodup_append] at hps
    obtain ⟨hps, -, hdisjoint⟩ := hps
    have hnew : p.1 ∉ (ofList ps).keys := by
      rw [mem_keys_ofList]
      intro hmem
      exact hdisjoint p.1 hmem p.1 (List.mem_singleton_self _) rfl
    rw [ofList_concat, entries_set_of_notMem hnew, ih hps]

/-- With pairwise different keys, a map built from pairs has exactly the pairs as entries. -/
theorem get?_ofList_eq_some_iff {ps : List (K × V)} (hps : (ps.map Prod.fst).Nodup) {k : K}
    {v : V} : (ofList ps).get? k = some v ↔ (k, v) ∈ ps := by
  rw [get?_eq_some_iff, entries_ofList hps]

theorem notMem_values_ofList_iff {W : Type*} {f : V → W} {ps : List (K × V)}
    (hps : (ps.map Prod.fst).Nodup) {w : W} :
    w ∉ (ofList ps).values.map f ↔ ∀ p ∈ ps, f p.2 ≠ w := by
  rw [values, entries_ofList hps, List.map_map, List.mem_map, not_exists]
  simp only [not_and, Function.comp_apply, Ne]

/-! ## Equality up to order -/

/-- Maps with the same value for every key. -/
def Same (d d' : Dict K V) : Prop := ∀ k, d.get? k = d'.get? k

theorem Same.mem_keys_iff {d d' : Dict K V} (h : d.Same d') {k : K} :
    k ∈ d.keys ↔ k ∈ d'.keys := by
  rw [Dict.mem_keys_iff, Dict.mem_keys_iff, h k]

/-- Maps with the same entries, in any order. -/
theorem same_of_perm {d d' : Dict K V} (h : d'.entries.Perm d.entries) : d.Same d' := by
  intro k
  ext v
  rw [get?_eq_some_iff, get?_eq_some_iff, h.mem_iff]

/-- Pairs with different keys may be assigned in any order. -/
theorem perm_entries_ofList {ps ps' : List (K × V)} (hps : (ps.map Prod.fst).Nodup)
    (hperm : ps'.Perm ps) : (ofList ps').entries.Perm (ofList ps).entries := by
  rw [entries_ofList hps, entries_ofList ((hperm.map _).nodup_iff.mpr hps)]
  exact hperm

theorem get?_mapValues {W : Type*} (d : Dict K V) (f : V → W) (k : K) :
    (d.mapValues f).get? k = (d.get? k).map f := by
  ext w
  rw [get?_eq_some_iff, mem_entries_mapValues, Option.map_eq_some_iff]
  simp only [get?_eq_some_iff]

theorem Same.mapValues {W : Type*} {d d' : Dict K V} (h : d.Same d') (f : V → W) :
    (d.mapValues f).Same (d'.mapValues f) := by
  intro k
  rw [get?_mapValues, get?_mapValues, h k]

end Dict
