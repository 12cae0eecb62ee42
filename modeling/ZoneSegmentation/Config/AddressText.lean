import ZoneSegmentation.Config.Partition
import ZoneSegmentation.Library.Newlines
import Mathlib.Data.List.Nodup

/-!
# Texts of addresses

The program keeps addresses as texts: the policy holds the text of each gateway, which the text of a
packet's address is compared with, and an address is read again from its text wherever its zone is
looked up. This is right because a text is written in one way only and is read back as the address
it was written for, also where an IPv6 text leaves out a run of zeros.

## Main definitions

* `edge`: the parts of an IPv6 text on one side of its `::`
* `IPAddress.ScopeOk`, `IPNetwork.ScopeOk`: a scope that can be told from the address

## Main results

* `longestZeros_spec`: the run that is left out is a run of zeros
* `parseIPv4_ipv4Text`, `parseIPv6_ipv6Text`: both kinds of texts are read back
* `ipAddress_text`, `ipNetwork_text`: so are those of addresses and networks
* `policy_texts_read_back`: the texts that an accepted policy is used by stand for its addresses
-/

namespace ZoneSegmentation

/-! ## Splitting -/

theorem splitOn_eq (sep : Char) (cs : List Char) : splitOn sep cs = cs.splitOn sep := by
  induction cs with
  | nil => simp [splitOn]
  | cons c cs ih =>
    rw [splitOn, List.splitOn_cons_eq_if_modifyHead, ih]
    by_cases hc : c = sep
    · simp [hc]
    · obtain ⟨part, parts, hparts⟩ := List.exists_cons_of_ne_nil (List.splitOn_ne_nil sep cs)
      simp [hc, hparts]

theorem splitOn_intercalate {sep : Char} {parts : List (List Char)} (h : ∀ p ∈ parts, sep ∉ p)
    (hne : parts ≠ []) : splitOn sep ([sep].intercalate parts) = parts := by
  rw [splitOn_eq, List.splitOn_intercalate sep h hne]

theorem intercalate_splitOn (sep : Char) (cs : List Char) :
    [sep].intercalate (splitOn sep cs) = cs := by
  rw [splitOn_eq, List.intercalate_splitOn]

theorem splitOn_of_notMem {sep : Char} {cs : List Char} (h : sep ∉ cs) : splitOn sep cs = [cs] := by
  rw [splitOn_eq, List.splitOn_eq_singleton h]

theorem splitOn_append_cons {sep : Char} {cs : List Char} (h : sep ∉ cs) (ds : List Char) :
    splitOn sep (cs ++ sep :: ds) = cs :: splitOn sep ds := by
  rw [splitOn_eq, List.splitOn_append_cons_self_of_not_mem h, splitOn_eq]

/-- The parts of a text have its letters, but not its separator. -/
theorem forall_mem_splitOn (sep : Char) (cs : List Char) :
    ∀ part ∈ splitOn sep cs, ∀ c ∈ part, c ∈ cs ∧ c ≠ sep := by
  induction cs with
  | nil => simp [splitOn]
  | cons c cs ih =>
    have hrest : ∀ part ∈ splitOn sep cs, ∀ c' ∈ part, c' ∈ c :: cs ∧ c' ≠ sep :=
      fun part hpart c' hc' =>
        ⟨List.mem_cons_of_mem _ (ih part hpart c' hc').1, (ih part hpart c' hc').2⟩
    rw [splitOn]
    split
    · exact List.forall_mem_cons.mpr ⟨List.forall_mem_nil _, hrest⟩
    · rename_i hc
      have hfirst : c ∈ c :: cs ∧ c ≠ sep := ⟨List.mem_cons_self, hc⟩
      split
      · simpa using hc
      · rename_i part parts hparts
        rw [hparts] at hrest
        obtain ⟨hpart, hparts⟩ := List.forall_mem_cons.mp hrest
        exact List.forall_mem_cons.mpr ⟨List.forall_mem_cons.mpr ⟨hfirst, hpart⟩, hparts⟩

/-! ## Numbers -/

theorem digit?_digitChar : ∀ d < 16, digit? d.digitChar = some d := by decide

/-- **A number is read back** from its digits. -/
theorem number?_toDigits {b : ℕ} (hb : 1 < b) (hb' : b ≤ 16) (n : ℕ) :
    number? b (Nat.toDigits b n) = some n := by
  rw [number?, if_neg (by simp)]
  induction n using Nat.strongRecOn with
  | ind n ih =>
    rw [Nat.toDigits_eq_if hb]
    split
    · rename_i hlt
      simp [digit?_digitChar n (by omega), hlt]
    · have hmod : n % b < b := Nat.mod_lt n (by omega)
      have hdiv := ih (n / b) (Nat.div_lt_self (by omega) hb)
      rw [List.foldlM_append, hdiv]
      simp [digit?_digitChar (n % b) (by omega), hmod, Nat.div_add_mod]

theorem toDigits_inj {b m n : ℕ} (hb : 1 < b) (hb' : b ≤ 16)
    (h : Nat.toDigits b m = Nat.toDigits b n) : m = n := by
  have hm := number?_toDigits hb hb' m
  rw [h, number?_toDigits hb hb' n] at hm
  exact (Option.some.inj hm).symm

/-- What has another letter than digits is no number. -/
theorem digit?_of_number? {b : ℕ} {cs : List Char} {n : ℕ} (h : number? b cs = some n) :
    ∀ c ∈ cs, digit? c ≠ none := by
  rw [number?] at h
  split at h
  · cases h
  · clear * - h
    generalize 0 = m at h
    induction cs generalizing m with
    | nil => exact List.forall_mem_nil _
    | cons c cs ih =>
      rw [List.foldlM_cons] at h
      obtain ⟨m', hm', h⟩ := Option.bind_eq_some_iff.mp h
      refine List.forall_mem_cons.mpr ⟨fun hnone => ?_, ih m' h⟩
      rw [hnone] at hm'
      cases hm'

/-- The digits of a number in a base, the highest first: `k` of them give the number up to the
`k`-th power. -/
theorem foldl_positions (b k n : ℕ) :
    ((List.range k).map fun i => n / b ^ (k - 1 - i) % b).foldl (fun m d => b * m + d) 0 =
      n % b ^ k := by
  induction k generalizing n with
  | zero => simp [Nat.mod_one]
  | succ k ih =>
    have hhigh : (List.range k).map (fun i => n / b ^ (k + 1 - 1 - i) % b) =
        (List.range k).map fun i => n / b / b ^ (k - 1 - i) % b := by
      refine List.map_congr_left fun i hi => ?_
      have hi := List.mem_range.mp hi
      rw [Nat.div_div_eq_div_mul, ← Nat.pow_succ']
      congr 3
      omega
    rw [List.range_succ, List.map_append, List.foldl_append, hhigh, ih, Nat.pow_succ', Nat.mod_mul]
    simp [Nat.add_comm]

theorem mapM_map_toDigits {parse : List Char → Option ℕ} {b bound : ℕ}
    (hparse : ∀ n < bound, parse (Nat.toDigits b n) = some n) (ns : List ℕ)
    (hns : ∀ n ∈ ns, n < bound) : (ns.map (Nat.toDigits b)).mapM parse = some ns := by
  induction ns with
  | nil => rfl
  | cons n ns ih =>
    obtain ⟨hn, hns⟩ := List.forall_mem_cons.mp hns
    rw [List.map_cons, List.mapM_cons, hparse n hn, ih hns]
    rfl

/-- A letter that is no digit is in no number. -/
theorem notMem_toDigits {c : Char} (hc : digit? c = none) {b : ℕ} (hb : 1 < b) (hb' : b ≤ 16)
    (n : ℕ) : c ∉ Nat.toDigits b n := fun hmem =>
  digit?_of_number? (number?_toDigits hb hb' n) c hmem hc

/-! ## IPv4 -/

theorem parseOctet_toDigits : ∀ n < 256, parseOctet (Nat.toDigits 10 n) = some n := by
  decide +kernel

theorem toList_ipv4Text (n : ℕ) : (ipv4Text n).toList =
    ['.'].intercalate (((List.range 4).map fun i => n / 256 ^ (3 - i) % 256).map
      (Nat.toDigits 10)) := by
  rw [ipv4Text, String.toList_intercalate, List.map_map, List.map_map]
  congr 1
  refine List.map_congr_left fun i _ => ?_
  rw [Function.comp_apply, Function.comp_apply, Nat.toString_eq_ofList_toDigits,
    String.toList_ofList]

theorem parseIPv4_ipv4Text (ip : BitVec 32) :
    parseIPv4 (ipv4Text ip.toNat).toList = some ip := by
  have hsplit : splitOn '.' (ipv4Text ip.toNat).toList =
      ((List.range 4).map fun i => ip.toNat / 256 ^ (3 - i) % 256).map (Nat.toDigits 10) := by
    rw [toList_ipv4Text]
    refine splitOn_intercalate (fun part hpart => ?_) (by simp)
    obtain ⟨n, -, rfl⟩ := List.mem_map.mp hpart
    exact notMem_toDigits (by decide) (by decide) (by decide) n
  have hread := mapM_map_toDigits parseOctet_toDigits
    ((List.range 4).map fun i => ip.toNat / 256 ^ (3 - i) % 256) (by simp; omega)
  have hvalue := foldl_positions 256 4 ip.toNat
  simp only [parseIPv4, hsplit, List.length_map, List.length_range, ne_eq, not_true_eq_false,
    if_false, hread, Option.bind_eq_bind, Option.bind_some]
  have hlt : ip.toNat % 256 ^ 4 = ip.toNat := Nat.mod_eq_of_lt ip.isLt
  rw [hvalue, hlt, BitVec.ofNat_toNat, BitVec.setWidth_eq]

/-- A text with a colon is no IPv4 address. -/
theorem parseIPv4_of_colon {cs : List Char} (hcolon : ':' ∈ cs) : parseIPv4 cs = none := by
  rw [Option.eq_none_iff_forall_ne_some]
  intro ip h
  simp only [parseIPv4] at h
  split at h
  · cases h
  · obtain ⟨ns, hns, -⟩ := Option.bind_eq_some_iff.mp h
    have hdot : ':' ∉ ['.'] := by decide
    refine Newlines.not_mem_intercalate hdot ?_
      ((intercalate_splitOn '.' cs).symm ▸ hcolon)
    intro part hpart hmem
    obtain ⟨n, -, hn⟩ :=
      Loop.exists_of_forall₂_of_mem_left (Loop.forall₂_of_mapM_eq_some hns) hpart
    obtain ⟨m, hm, -⟩ := Option.bind_eq_some_iff.mp hn
    exact digit?_of_number? hm ':' hmem (by decide)

/-! ## The run of zeros -/

/-- All hextets from one place up to another are zero. -/
def ZerosBetween (hextets : List (List Char)) (i j : ℕ) : Prop :=
  ∀ k, i ≤ k → k < j → hextets[k]? = some ['0']

theorem ZerosBetween.append {hextets : List (List Char)} {i j : ℕ} (h : ZerosBetween hextets i j)
    (hj : j ≤ hextets.length) (rest : List (List Char)) : ZerosBetween (hextets ++ rest) i j := by
  intro k hi hk
  rw [List.getElem?_append_left (by omega), h k hi hk]

/-- One turn of the loop over the hextets. -/
def zerosTurn : ℕ × ℕ × ℕ × ℕ → List Char × ℕ → ℕ × ℕ × ℕ × ℕ
  | (bestStart, bestLen, start, len), (hextet, index) =>
    if hextet = ['0'] then
      let start := if len = 0 then index else start
      if len + 1 > bestLen then (start, len + 1, start, len + 1)
      else (bestStart, bestLen, start, len + 1)
    else (bestStart, bestLen, 0, 0)

/-- What holds after the hextets so far: the longest run, and the run that ends here, if there is
one, are runs of zeros. -/
def RunsOk (hextets : List (List Char)) : ℕ × ℕ × ℕ × ℕ → Prop
  | (bestStart, bestLen, start, len) =>
    (bestStart + bestLen ≤ hextets.length ∧
      ZerosBetween hextets bestStart (bestStart + bestLen)) ∧
    (len ≠ 0 → start + len = hextets.length ∧ ZerosBetween hextets start hextets.length)

theorem RunsOk.turn {hextets : List (List Char)} {runs : ℕ × ℕ × ℕ × ℕ} (h : RunsOk hextets runs)
    (hextet : List Char) :
    RunsOk (hextets ++ [hextet]) (zerosTurn runs (hextet, hextets.length)) := by
  obtain ⟨bestStart, bestLen, start, len⟩ := runs
  obtain ⟨⟨hle, hbest⟩, hrun⟩ := h
  have hlength : (hextets ++ [hextet]).length = hextets.length + 1 := by simp
  have hbest' : bestStart + bestLen ≤ (hextets ++ [hextet]).length ∧
      ZerosBetween (hextets ++ [hextet]) bestStart (bestStart + bestLen) :=
    ⟨by omega, hbest.append hle _⟩
  simp only [zerosTurn]
  split
  · rename_i hzero
    -- the run that ends here begins here, or goes on
    have hends : (if len = 0 then hextets.length else start) + (len + 1) =
          (hextets ++ [hextet]).length ∧
        ZerosBetween (hextets ++ [hextet]) (if len = 0 then hextets.length else start)
          (hextets ++ [hextet]).length := by
      have hlast : ∀ k, hextets.length ≤ k → k < (hextets ++ [hextet]).length →
          (hextets ++ [hextet])[k]? = some ['0'] := by
        intro k hk hlt
        obtain rfl : k = hextets.length := by omega
        simp [hzero]
      split
      · exact ⟨by omega, hlast⟩
      · rename_i hne
        obtain ⟨hend, hzeros⟩ := hrun hne
        refine ⟨by omega, fun k hk hlt => ?_⟩
        by_cases hin : k < hextets.length
        · exact hzeros.append (Nat.le_refl _) _ k hk hin
        · exact hlast k (by omega) hlt
    split
    · exact ⟨⟨hends.1.le, hends.1 ▸ hends.2⟩, fun _ => hends⟩
    · exact ⟨hbest', fun _ => hends⟩
  · exact ⟨hbest', fun h => absurd rfl h⟩

/-- **The run that is left out is a run of zeros.** -/
theorem longestZeros_spec (hextets : List (List Char)) :
    (longestZeros hextets).1 + (longestZeros hextets).2 ≤ hextets.length ∧
      ZerosBetween hextets (longestZeros hextets).1
        ((longestZeros hextets).1 + (longestZeros hextets).2) := by
  have hloop : RunsOk hextets (hextets.zipIdx.foldl zerosTurn (0, 0, 0, 0)) := by
    induction hextets using List.reverseRecOn with
    | nil =>
      exact ⟨⟨Nat.le_refl 0, fun k _ hk => absurd hk (Nat.not_lt_zero k)⟩, fun h => absurd rfl h⟩
    | append_singleton hextets hextet ih =>
      rw [List.zipIdx_append, List.foldl_append]
      simpa using ih.turn hextet
  exact hloop.1

/-! ## IPv6 -/

/-- The parts of an IPv6 text on one side of its `::`. -/
def edge (hextets : List (List Char)) : List (List Char) :=
  if hextets = [] then [[]] else hextets

section

variable {as bs : List (List Char)}

theorem length_edge_pos (as : List (List Char)) : 0 < (edge as).length := by
  unfold edge
  split
  · simp
  · rename_i h
    exact List.length_pos_iff.mpr h

theorem length_edge_le (as : List (List Char)) : (edge as).length ≤ as.length + 1 := by
  unfold edge
  split
  · simp
  · exact Nat.le_succ _

theorem mem_edge {part : List Char} (h : part ∈ edge as) : part = [] ∨ part ∈ as := by
  unfold edge at h
  split at h
  · exact .inl (List.mem_singleton.mp h)
  · exact .inr h

/-- A part of one side is empty only if it is the only one. -/
theorem edge_eq_of_getElem? (h : [] ∉ as) {i : ℕ} (hi : (edge as)[i]? = some []) :
    as = [] ∧ i = 0 := by
  unfold edge at hi
  split at hi
  · rename_i hnil
    cases i with
    | zero => exact ⟨hnil, rfl⟩
    | succ i => simp at hi
  · exact absurd (List.mem_of_getElem? hi) h

/-- **The only inner empty part** is where the `::` stands. -/
theorem inner_eq (has : [] ∉ as) (hbs : [] ∉ bs) :
    ((List.range (edge as ++ [] :: edge bs).length).filter fun i =>
      0 < i ∧ i + 1 < (edge as ++ [] :: edge bs).length ∧
        (edge as ++ [] :: edge bs)[i]? = some []) = [(edge as).length] := by
  have hlength : (edge as ++ [] :: edge bs).length =
      (edge as).length + ((edge bs).length + 1) := by simp
  have hcount : ∀ i, (0 < i ∧ i + 1 < (edge as ++ [] :: edge bs).length ∧
      (edge as ++ [] :: edge bs)[i]? = some []) ↔ i = (edge as).length := by
    intro i
    have hpos := length_edge_pos as
    have hpos' := length_edge_pos bs
    constructor
    · rintro ⟨h0, hlt, hget⟩
      rcases Nat.lt_trichotomy i (edge as).length with hi | hi | hi
      · rw [List.getElem?_append_left hi] at hget
        exact absurd (edge_eq_of_getElem? has hget).2 (by omega)
      · exact hi
      · obtain ⟨j, rfl⟩ := Nat.exists_eq_add_of_lt hi
        rw [List.getElem?_append_right (by omega)] at hget
        have hj : (edge as).length + j + 1 - (edge as).length = j + 1 := by omega
        rw [hj, List.getElem?_cons_succ] at hget
        obtain ⟨hnil, rfl⟩ := edge_eq_of_getElem? hbs hget
        simp only [edge, hnil, if_true, List.length_singleton] at hlength hlt
        omega
    · rintro rfl
      exact ⟨hpos, by omega, by simp⟩
  have hfilter : ∀ i ∈ List.range (edge as ++ [] :: edge bs).length,
      decide (0 < i ∧ i + 1 < (edge as ++ [] :: edge bs).length ∧
        (edge as ++ [] :: edge bs)[i]? = some []) = (i == (edge as).length) := by
    intro i _
    rw [decide_eq_decide.mpr (hcount i)]
    exact (beq_eq_decide ..).symm
  rw [List.filter_congr hfilter, List.filter_beq,
    List.count_eq_one_of_mem List.nodup_range (List.mem_range.mpr (by omega))]
  rfl

theorem head?_edge_append (has : [] ∉ as) (rest : List (List Char)) :
    (edge as ++ rest).head? = some [] ↔ as = [] := by
  unfold edge
  split
  · rename_i h
    simp [h]
  · rename_i h
    obtain ⟨a, as, rfl⟩ := List.exists_cons_of_ne_nil h
    simp only [List.cons_append, List.head?_cons, Option.some.injEq, reduceCtorEq, iff_false]
    rintro rfl
    exact has List.mem_cons_self

theorem getLast?_append_edge (hbs : [] ∉ bs) (rest : List (List Char)) :
    (rest ++ [] :: edge bs).getLast? = some [] ↔ bs = [] := by
  unfold edge
  split
  · rename_i h
    simp [h]
  · rename_i h
    have hlast : (rest ++ [] :: bs).getLast? = some (bs.getLast h) := by
      rw [List.getLast?_append_of_ne_nil _ (List.cons_ne_nil _ _), List.getLast?_cons,
        List.getLast?_eq_some_getLast h]
      rfl
    simp only [hlast, Option.some.injEq, h, iff_false]
    intro hnil
    exact hbs (hnil ▸ List.getLast_mem h)

/-- The parts around the `::` are found. -/
theorem hextetsAround_edge (has : [] ∉ as) (hbs : [] ∉ bs) (hlt : as.length + bs.length < 8) :
    hextetsAround (edge as ++ [] :: edge bs) (edge as).length = some (as.length, bs.length) := by
  have hrest : (edge as ++ [] :: edge bs).length - (edge as).length - 1 = (edge bs).length := by
    simp
  have hhi : (if as = [] then (edge as).length - 1 else (edge as).length) = as.length := by
    unfold edge
    split <;> simp_all
  have hlo : (if bs = [] then (edge bs).length - 1 else (edge bs).length) = bs.length := by
    unfold edge
    split <;> simp_all
  simp only [hextetsAround, head?_edge_append has, getLast?_append_edge hbs, hrest, hhi, hlo]
  have hfirst : ¬ (as = [] ∧ as.length ≠ 0) := fun h => h.2 (by simp [h.1])
  have hlast : ¬ (bs = [] ∧ bs.length ≠ 0) := fun h => h.2 (by simp [h.1])
  rw [if_neg hfirst, if_neg hlast, if_neg (by omega)]

theorem take_edge_append (rest : List (List Char)) : (edge as ++ rest).take as.length = as := by
  unfold edge
  split
  · rename_i h
    simp [h]
  · exact List.take_left

theorem drop_append_edge (rest : List (List Char)) :
    (rest ++ edge bs).drop ((rest ++ edge bs).length - bs.length) = bs := by
  unfold edge
  split
  · rename_i h
    simp [h]
  · rw [List.length_append, Nat.add_sub_cancel]
    exact List.drop_left

end

/-- The parts of a text of hextets are read back. -/
theorem hextetParts_intercalate {parts : List (List Char)} (h : ∀ p ∈ parts, ':' ∉ p ∧ '.' ∉ p)
    (hlength : 3 ≤ parts.length) : hextetParts ([':'].intercalate parts) = some parts := by
  have hne : parts ≠ [] := by
    rintro rfl
    simp at hlength
  have hsplit := splitOn_intercalate (fun p hp => (h p hp).1) hne
  rw [hextetParts, hsplit, if_neg (Nat.not_lt.mpr hlength), List.getLast?_eq_some_getLast hne]
  simp only
  rw [if_neg (h _ (List.getLast_mem hne)).2]

theorem foldl_replicate_zero (b k t : ℕ) :
    (List.replicate k 0).foldl (fun n d => b * n + d) t = t * b ^ k := by
  induction k generalizing t with
  | zero => simp
  | succ k ih =>
    rw [List.replicate_succ, List.foldl_cons, ih, Nat.pow_succ', Nat.add_zero, ← Nat.mul_assoc,
      Nat.mul_comm t]

/-- What is left of the hextets without a run of zeros. -/
theorem take_append_replicate_append_drop {ns : List ℕ} {i j : ℕ} (hij : i ≤ j)
    (hj : j ≤ ns.length) (hzeros : ZerosBetween (ns.map (Nat.toDigits 16)) i j) :
    ns.take i ++ List.replicate (j - i) 0 ++ ns.drop j = ns := by
  have hmiddle : (ns.drop i).take (j - i) = List.replicate (j - i) 0 := by
    refine List.eq_replicate_iff.mpr ⟨by simp; omega, fun n hn => ?_⟩
    obtain ⟨k, hk, rfl⟩ := List.mem_iff_getElem.mp hn
    have hk : k < j - i := by simp at hk; omega
    have hzero := hzeros (i + k) (by omega) (by omega)
    rw [List.getElem?_map, List.getElem?_eq_getElem (by omega), Option.map_some,
      Option.some.injEq] at hzero
    rw [List.getElem_take, List.getElem_drop]
    exact toDigits_inj (by decide) (by decide) hzero
  rw [← hmiddle, List.append_assoc]
  conv_rhs => rw [← List.take_append_drop i ns, ← List.take_append_drop (j - i) (ns.drop i)]
  rw [List.drop_drop, Nat.add_sub_cancel' hij]

theorem parseHextet_toDigits : ∀ n < 65536, parseHextet (Nat.toDigits 16 n) = some n := by
  intro n hn
  have hlength : ¬ (Nat.toDigits 16 n).length > 4 :=
    Nat.not_lt.mpr ((Nat.length_toDigits_le_iff (by decide) (by decide)).mpr hn)
  rw [parseHextet, if_neg hlength, number?_toDigits (by decide) (by decide)]

/-- The hextets with their longest run of zeros left out, if there is one of two at least. -/
theorem compressHextets_eq (hextets : List (List Char)) :
    ((longestZeros hextets).2 ≤ 1 ∧ compressHextets hextets = hextets) ∨
    1 < (longestZeros hextets).2 ∧ compressHextets hextets =
      edge (hextets.take (longestZeros hextets).1) ++
        [] :: edge (hextets.drop ((longestZeros hextets).1 + (longestZeros hextets).2)) := by
  obtain ⟨hle, -⟩ := longestZeros_spec hextets
  simp only [compressHextets]
  split
  · rename_i hlen
    refine .inr ⟨hlen, ?_⟩
    have hfirst : (if (longestZeros hextets).1 = 0 then [[]] else []) ++
        hextets.take (longestZeros hextets).1 = edge (hextets.take (longestZeros hextets).1) := by
      unfold edge
      by_cases hzero : (longestZeros hextets).1 = 0
      · simp [hzero]
      · have hne : hextets ≠ [] := by
          rintro rfl
          simp at hle
          omega
        simp [hzero, hne]
    have hlast : hextets.drop ((longestZeros hextets).1 + (longestZeros hextets).2) ++
        (if (longestZeros hextets).1 + (longestZeros hextets).2 = hextets.length then [[]]
          else []) =
          edge (hextets.drop ((longestZeros hextets).1 + (longestZeros hextets).2)) := by
      unfold edge
      by_cases hend : (longestZeros hextets).1 + (longestZeros hextets).2 = hextets.length
      · simp [hend]
      · rw [if_neg hend, List.append_nil, if_neg]
        intro hnil
        exact hend (Nat.le_antisymm hle (List.drop_eq_nil_iff.mp hnil))
    rw [← hfirst, ← hlast]
    simp
  · rename_i hlen
    exact .inl ⟨Nat.not_lt.mp hlen, rfl⟩

/-- A part of the text of an IPv6 address has neither of the letters that other texts are split at.
-/
theorem notMem_part {c : Char} (hc : digit? c = none) {ns : List ℕ} {part : List Char}
    (h : part ∈ compressHextets (ns.map (Nat.toDigits 16))) : c ∉ part := by
  have hhextet : part ∈ ns.map (Nat.toDigits 16) → c ∉ part := by
    intro hmem
    obtain ⟨n, -, rfl⟩ := List.mem_map.mp hmem
    exact notMem_toDigits hc (by decide) (by decide) n
  have hempty : part = [] → c ∉ part := fun hnil => hnil ▸ List.not_mem_nil
  rcases compressHextets_eq (ns.map (Nat.toDigits 16)) with ⟨-, heq⟩ | ⟨-, heq⟩
  · exact hhextet (heq ▸ h)
  · rw [heq] at h
    rcases List.mem_append.mp h with h | h
    · exact (mem_edge h).elim hempty fun h => hhextet (List.mem_of_mem_take h)
    · rcases List.mem_cons.mp h with h | h
      · exact hempty h
      · exact (mem_edge h).elim hempty fun h => hhextet (List.mem_of_mem_drop h)

/-- **Eight hextets are read back**, whether a run of zeros was left out or not. -/
theorem parseIPv6_compress (ns : List ℕ) (hlength : ns.length = 8) (hns : ∀ n ∈ ns, n < 65536) :
    parseIPv6 ([':'].intercalate (compressHextets (ns.map (Nat.toDigits 16)))) =
      some (BitVec.ofNat 128 (ns.foldl (fun n d => 65536 * n + d) 0)) := by
  have hnil : ∀ ms : List ℕ, [] ∉ ms.map (Nat.toDigits 16) := by
    intro ms hmem
    obtain ⟨n, -, hn⟩ := List.mem_map.mp hmem
    exact Nat.toDigits_ne_nil hn
  have hparts : ∀ p ∈ compressHextets (ns.map (Nat.toDigits 16)), ':' ∉ p ∧ '.' ∉ p := fun p hp =>
    ⟨notMem_part (by decide) hp, notMem_part (by decide) hp⟩
  obtain ⟨hle, hzeros⟩ := longestZeros_spec (ns.map (Nat.toDigits 16))
  rcases compressHextets_eq (ns.map (Nat.toDigits 16)) with
    ⟨-, heq⟩ | ⟨hlen, heq⟩
  · rw [heq] at hparts ⊢
    have hread := hextetParts_intercalate hparts (by simp [hlength])
    have hinner : ((List.range (ns.map (Nat.toDigits 16)).length).filter fun i =>
        0 < i ∧ i + 1 < (ns.map (Nat.toDigits 16)).length ∧
          (ns.map (Nat.toDigits 16))[i]? = some []) = [] := by
      rw [List.filter_eq_nil_iff]
      intro i _ hi
      exact hnil ns (List.mem_of_getElem? (of_decide_eq_true hi).2.2)
    simp only [parseIPv6, hread, Option.bind_eq_bind, Option.bind_some, hinner]
    rw [if_neg (by simp [hlength]), if_neg (by simp [hlength]),
      mapM_map_toDigits parseHextet_toDigits _ hns]
    rfl
  · generalize (longestZeros (ns.map (Nat.toDigits 16))).1 = i,
      (longestZeros (ns.map (Nat.toDigits 16))).2 = len at hle hzeros hlen heq
    rw [List.length_map, hlength] at hle
    rw [← List.map_take, ← List.map_drop] at heq
    have hns' := take_append_replicate_append_drop (Nat.le_add_right i len) (by omega) hzeros
    have htake : (ns.take i).length = i := by simp; omega
    have hdrop : (ns.drop (i + len)).length = 8 - (i + len) := by simp [hlength]
    have hhigh := mapM_map_toDigits parseHextet_toDigits _
      fun n hn => hns n (List.mem_of_mem_take (i := i) hn)
    have hlow := mapM_map_toDigits parseHextet_toDigits _
      fun n hn => hns n (List.mem_of_mem_drop (i := i + len) hn)
    rw [heq] at hparts ⊢
    have hread := hextetParts_intercalate hparts (by
      have hpos := length_edge_pos ((ns.take i).map (Nat.toDigits 16))
      have hpos' := length_edge_pos ((ns.drop (i + len)).map (Nat.toDigits 16))
      rw [List.length_append, List.length_cons]
      omega)
    have haround := hextetsAround_edge (hnil (ns.take i)) (hnil (ns.drop (i + len)))
      (by simp only [List.length_map, htake, hdrop]; omega)
    have hcons : edge ((ns.take i).map (Nat.toDigits 16)) ++
          [] :: edge ((ns.drop (i + len)).map (Nat.toDigits 16)) =
        (edge ((ns.take i).map (Nat.toDigits 16)) ++ [[]]) ++
          edge ((ns.drop (i + len)).map (Nat.toDigits 16)) := by simp
    have hbound : ¬ (edge ((ns.take i).map (Nat.toDigits 16)) ++
        [] :: edge ((ns.drop (i + len)).map (Nat.toDigits 16))).length > 9 := by
      have hedge := length_edge_le ((ns.take i).map (Nat.toDigits 16))
      have hedge' := length_edge_le ((ns.drop (i + len)).map (Nat.toDigits 16))
      rw [List.length_map] at hedge hedge'
      rw [List.length_append, List.length_cons]
      omega
    simp only [parseIPv6, hread, Option.bind_eq_bind, Option.bind_some,
      inner_eq (hnil (ns.take i)) (hnil (ns.drop (i + len))), haround]
    rw [if_neg hbound, take_edge_append, hhigh, Option.bind_some, hcons, drop_append_edge, hlow,
      Option.bind_some]
    conv_rhs => rw [← hns']
    rw [List.foldl_append, List.foldl_append, foldl_replicate_zero, List.length_map,
      List.length_map, htake, hdrop]
    congr 5
    omega

theorem parseIPv6_ipv6Text (ip : BitVec 128) : parseIPv6 (ipv6Text ip.toNat).toList = some ip := by
  have htext : (ipv6Text ip.toNat).toList = [':'].intercalate (compressHextets
      (((List.range 8).map fun i => ip.toNat / 65536 ^ (7 - i) % 65536).map
        (Nat.toDigits 16))) := by
    rw [ipv6Text, String.toList_ofList, List.map_map]
    rfl
  have hread := parseIPv6_compress
    ((List.range 8).map fun i => ip.toNat / 65536 ^ (7 - i) % 65536) (by simp) (by simp; omega)
  have hvalue := foldl_positions 65536 8 ip.toNat
  have hlt : ip.toNat % 65536 ^ 8 = ip.toNat := Nat.mod_eq_of_lt ip.isLt
  rw [htext, hread, hvalue, hlt, BitVec.ofNat_toNat, BitVec.setWidth_eq]

/-! ## Addresses -/

/-- A scope that can be told from the address before it, and from a netmask behind it. -/
def ScopeOk : Option String → Prop
  | none => True
  | some scope => scope.toList ≠ [] ∧ '%' ∉ scope.toList ∧ '/' ∉ scope.toList

def IPAddress.ScopeOk : IPAddress → Prop
  | .v4 _ => True
  | .v6 _ scope => ZoneSegmentation.ScopeOk scope

def IPNetwork.ScopeOk : IPNetwork → Prop
  | .v4 _ => True
  | .v6 _ scope => ZoneSegmentation.ScopeOk scope

/-- The text of an IPv6 address behind which a scope is written. -/
def scopeText : Option String → List Char
  | none => []
  | some scope => '%' :: scope.toList

theorem toList_text_v6 (ip : BitVec 128) (scope : Option String) :
    (IPAddress.v6 ip scope).text.toList = (ipv6Text ip.toNat).toList ++ scopeText scope := by
  cases scope with
  | none => exact (List.append_nil _).symm
  | some scope => simp [IPAddress.text, scopeText]

theorem notMem_ipv6Text {c : Char} (hc : digit? c = none) (hne : c ≠ ':') (n : ℕ) :
    c ∉ (ipv6Text n).toList := by
  have htext : (ipv6Text n).toList = [':'].intercalate (compressHextets
      (((List.range 8).map fun i => n / 65536 ^ (7 - i) % 65536).map (Nat.toDigits 16))) := by
    rw [ipv6Text, String.toList_ofList, List.map_map]
    rfl
  rw [htext]
  exact Newlines.not_mem_intercalate (by simpa using hne) fun part hpart => notMem_part hc hpart

theorem notMem_ipv4Text {c : Char} (hc : digit? c = none) (hne : c ≠ '.') (n : ℕ) :
    c ∉ (ipv4Text n).toList := by
  rw [toList_ipv4Text]
  refine Newlines.not_mem_intercalate (by simpa using hne) fun part hpart => ?_
  obtain ⟨m, -, rfl⟩ := List.mem_map.mp hpart
  exact notMem_toDigits hc (by decide) (by decide) m

/-- What is read as an IPv6 address has a colon. -/
theorem colon_mem_of_parseIPv6 {cs : List Char} {ip : BitVec 128} (h : parseIPv6 cs = some ip) :
    ':' ∈ cs := by
  by_contra hcolon
  obtain ⟨parts, hparts, -⟩ := Option.bind_eq_some_iff.mp h
  rw [hextetParts, splitOn_of_notMem hcolon] at hparts
  simp at hparts

theorem splitScope_text {cs : List Char} (hcs : '%' ∉ cs) {scope : Option String}
    (hscope : ScopeOk scope) : splitScope (cs ++ scopeText scope) = some (cs, scope) := by
  cases scope with
  | none => rw [scopeText, List.append_nil, splitScope, splitOn_of_notMem hcs]
  | some scope =>
    obtain ⟨hne, hpercent, -⟩ := hscope
    rw [scopeText, splitScope, splitOn_append_cons hcs, splitOn_of_notMem hpercent]
    simp [hne]

theorem slash_notMem_text {ip : IPAddress} (h : ip.ScopeOk) : '/' ∉ ip.text.toList := by
  cases ip with
  | v4 ip => exact notMem_ipv4Text (by decide) (by decide) _
  | v6 ip scope =>
    rw [toList_text_v6, List.mem_append, not_or]
    refine ⟨notMem_ipv6Text (by decide) (by decide) _, ?_⟩
    cases scope with
    | none => exact List.not_mem_nil
    | some scope => simpa [scopeText] using h.2.2

theorem parseIPv4_text_v6 (ip : BitVec 128) (scope : Option String) :
    parseIPv4 (IPAddress.v6 ip scope).text.toList = none := by
  refine parseIPv4_of_colon ?_
  rw [toList_text_v6]
  exact List.mem_append_left _ (colon_mem_of_parseIPv6 (parseIPv6_ipv6Text ip))

theorem splitScope_text_v6 {ip : BitVec 128} {scope : Option String} (h : ScopeOk scope) :
    splitScope (IPAddress.v6 ip scope).text.toList = some ((ipv6Text ip.toNat).toList, scope) := by
  rw [toList_text_v6]
  exact splitScope_text (notMem_ipv6Text (by decide) (by decide) _) h

/-- **An address is read back from its text.** -/
theorem ipAddress_text {ip : IPAddress} (h : ip.ScopeOk) : ipAddress (.str ip.text) = some ip := by
  have hread : parseAddress ip.text.toList = some ip := by
    cases ip with
    | v4 ip => rw [parseAddress, IPAddress.text, parseIPv4_ipv4Text]
    | v6 ip scope =>
      simp only [parseAddress, parseIPv4_text_v6, if_neg (slash_notMem_text h),
        splitScope_text_v6 h, parseIPv6_ipv6Text, Option.bind_eq_bind, Option.bind_some]
  exact hread

theorem parsePrefix_toDigits {w p : ℕ} (hp : p ≤ w) :
    parsePrefix w (Nat.toDigits 10 p) = some p := by
  simp [parsePrefix, number?_toDigits, hp]

theorem strictBlock_block {w : ℕ} (b : Cidr.Block w) :
    strictBlock b.network b.prefixlen = some b := by
  rw [strictBlock, dif_pos ⟨b.prefixlen_le, b.aligned⟩]

/-- **A network is read back from its text.** -/
theorem ipNetwork_text {net : IPNetwork} (h : net.ScopeOk) :
    ipNetwork (.str net.text) = some net := by
  have haddress : net.networkAddress.ScopeOk := by
    cases net with
    | v4 => trivial
    | v6 => exact h
  have hsplit : splitOn '/' net.text.toList =
      [net.networkAddress.text.toList, Nat.toDigits 10 net.prefixlen] := by
    have htext : net.text.toList =
        net.networkAddress.text.toList ++ '/' :: Nat.toDigits 10 net.prefixlen := by
      simp [IPNetwork.text]
    rw [htext, splitOn_append_cons (slash_notMem_text haddress),
      splitOn_of_notMem (notMem_toDigits (by decide) (by decide) (by decide) _)]
  have hread : parseNetwork net.text.toList = some net := by
    rw [parseNetwork, hsplit]
    cases net with
    | v4 b =>
      simp only [parseIPv4Network, IPNetwork.networkAddress, IPNetwork.prefixlen, IPAddress.text,
        parseIPv4_ipv4Text, parsePrefix_toDigits b.prefixlen_le, Option.bind_eq_bind,
        Option.bind_some, Option.some_or, strictBlock_block]
    | v6 b scope =>
      simp only [parseIPv4Network, parseIPv6Network, IPNetwork.networkAddress, IPNetwork.prefixlen,
        parseIPv4_text_v6, splitScope_text_v6 (show ScopeOk scope from h), parseIPv6_ipv6Text,
        parsePrefix_toDigits b.prefixlen_le, Option.bind_eq_bind, Option.bind_some,
        Option.bind_none, strictBlock_block, Option.map_some]
  exact hread

/-! ## What is read -/

/-- A scope that was split off can be told from the address. -/
theorem scopeOk_of_splitScope {cs addr : List Char} {scope : Option String} (hslash : '/' ∉ cs)
    (h : splitScope cs = some (addr, scope)) : ScopeOk scope := by
  have hparts := forall_mem_splitOn '%' cs
  rw [splitScope] at h
  split at h
  · cases h
    trivial
  · rename_i addr' scope' hsplit
    rw [hsplit] at hparts
    split at h
    · cases h
    · rename_i hne
      cases h
      refine ⟨?_, fun hmem => ?_, fun hmem => ?_⟩
      · simpa using hne
      · rw [String.toList_ofList] at hmem
        exact (hparts scope' (by simp) '%' hmem).2 rfl
      · rw [String.toList_ofList] at hmem
        exact hslash (hparts scope' (by simp) '/' hmem).1
  · cases h

theorem scopeOk_of_ipAddress {x : Json} {ip : IPAddress} (h : ipAddress x = some ip) :
    ip.ScopeOk := by
  rw [ipAddress] at h
  split at h
  · split at h
    · cases h
      trivial
    · split at h
      · cases h
        trivial
      · cases h
  · obtain ⟨s, -, h⟩ := Option.bind_eq_some_iff.mp h
    rw [parseAddress] at h
    split at h
    · cases h
      trivial
    · split at h
      · cases h
      · rename_i hslash
        obtain ⟨⟨addr, scope⟩, hscope, h⟩ := Option.bind_eq_some_iff.mp h
        obtain ⟨v6, -, h⟩ := Option.bind_eq_some_iff.mp h
        cases h
        exact scopeOk_of_splitScope hslash hscope

theorem scopeOk_of_parseIPv6Network {addr : List Char} {netmask : Option (List Char)}
    {b : Cidr.Block 128} {scope : Option String} (hslash : '/' ∉ addr)
    (h : parseIPv6Network addr netmask = some (b, scope)) : (IPNetwork.v6 b scope).ScopeOk := by
  obtain ⟨⟨addr', scope'⟩, hscope, h⟩ := Option.bind_eq_some_iff.mp h
  obtain ⟨ip, -, h⟩ := Option.bind_eq_some_iff.mp h
  have hsame : scope' = scope := by
    cases netmask
    all_goals
      obtain ⟨p, -, h⟩ := Option.bind_eq_some_iff.mp h
      obtain ⟨b', -, h⟩ := Option.bind_eq_some_iff.mp h
      cases h
      rfl
  exact scopeOk_of_splitScope hslash (hsame ▸ hscope)

theorem scopeOk_of_ipNetwork {x : Json} {net : IPNetwork} (h : ipNetwork x = some net) :
    net.ScopeOk := by
  rw [ipNetwork] at h
  split at h
  · split at h
    · obtain ⟨b, -, rfl⟩ := Option.map_eq_some_iff.mp h
      trivial
    · split at h
      · obtain ⟨b, -, rfl⟩ := Option.map_eq_some_iff.mp h
        trivial
      · cases h
  · obtain ⟨s, -, h⟩ := Option.bind_eq_some_iff.mp h
    have hparts := forall_mem_splitOn '/' s.toList
    have hslash : ∀ addr ∈ splitOn '/' s.toList, '/' ∉ addr := fun addr haddr hmem =>
      (hparts addr haddr '/' hmem).2 rfl
    rw [parseNetwork] at h
    simp only at h
    split at h
    · rename_i addr hsplit
      split at h
      · cases h
        trivial
      · obtain ⟨⟨b, scope⟩, hv6, h⟩ := Option.map_eq_some_iff.mp h
        cases h
        exact scopeOk_of_parseIPv6Network (hslash addr (by simp [hsplit])) hv6
    · rename_i addr netmask hsplit
      split at h
      · cases h
        trivial
      · obtain ⟨⟨b, scope⟩, hv6, h⟩ := Option.map_eq_some_iff.mp h
        cases h
        exact scopeOk_of_parseIPv6Network (hslash addr (by simp [hsplit])) hv6
    · cases h

/-- **The texts of an accepted policy stand for its addresses.** The text of a gateway and that of a
subnet are read back as what they were written for; and any address that is read is read back from
its text, and has the text of the gateway exactly if it is the gateway. -/
theorem policy_texts_read_back {raw : Json} {P : Policy} (h : loadPolicy raw = .ok P)
    {name : String} {z : ZoneEntry} (hz : P.zones.get? name = some z) :
    ipAddress (.str z.gateway.text) = some z.gateway ∧
      ipNetwork (.str z.subnet.text) = some z.subnet ∧
      ∀ x ip, ipAddress x = some ip →
        ipAddress (.str ip.text) = some ip ∧ (ip.text = z.gateway.text ↔ ip = z.gateway) := by
  obtain ⟨members, -, hread, -⟩ := loadPolicy_zones h
  obtain ⟨m, -, -, hzone⟩ :=
    Loop.exists_of_forall₂_of_mem_left hread.flip (Dict.get?_eq_some_iff.mp hz)
  obtain ⟨subnet, -, hsubnet⟩ := Option.bind_eq_some_iff.mp hzone.subnet
  obtain ⟨gateway, -, hgateway⟩ := Option.bind_eq_some_iff.mp hzone.gateway
  have hgatewayText := ipAddress_text (scopeOk_of_ipAddress hgateway)
  refine ⟨hgatewayText, ipNetwork_text (scopeOk_of_ipNetwork hsubnet), fun x ip hip => ?_⟩
  have htext := ipAddress_text (scopeOk_of_ipAddress hip)
  refine ⟨htext, fun hsame => ?_, fun hsame => congrArg _ hsame⟩
  rw [hsame, hgatewayText] at htext
  exact (Option.some.inj htext).symm

/-- A policy of one IPv6 zone, whose addresses are not spelled as `str` writes them. -/
def scopedPolicyJson : Json := .obj [("zones", .obj [("Lab",
  zoneJson "FE80:0:0:1::%lab/80" "fe80:0000::1:0:0:0.0.0.2%lab" "02:00:00:00:00:01")])]

/-- The subnet and the gateway of the zone. -/
def labEntry : ZoneEntry :=
  ⟨.v6 ⟨0xFE800000000000010000000000000000, 80, by decide, by decide +kernel⟩ (some "lab"),
    .v6 0xFE800000000000010000000000000002 (some "lab"), "02:00:00:00:00:01"⟩

/-- Its tables. -/
def scopedPolicy : Policy where
  zones := ⟨[("Lab", labEntry)], by decide⟩
  blockAllIp := ∅
  blockIcmp := ∅

theorem policy_texts_read_back_lab :
    ipAddress (.str labEntry.gateway.text) = some labEntry.gateway ∧
      ipNetwork (.str labEntry.subnet.text) = some labEntry.subnet ∧
      ∀ x ip, ipAddress x = some ip → ipAddress (.str ip.text) = some ip ∧
        (ip.text = labEntry.gateway.text ↔ ip = labEntry.gateway) :=
  have hload : loadPolicy scopedPolicyJson = .ok scopedPolicy :=
    Loop.eq_ok_of_toOption (by decide +kernel)
  have hz : scopedPolicy.zones.get? "Lab" = some labEntry := rfl
  policy_texts_read_back hload hz

example : labEntry.gateway.text = "fe80:0:0:1::2%lab" := by decide +kernel

end ZoneSegmentation
