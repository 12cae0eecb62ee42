import ZoneSegmentation.Config.Partition

/-!
# The verdicts of a policy file

A rule of a policy file lists zones it blocks from, zones it blocks to, and what it blocks. The
loader turns the rules into two sets of zone pairs. The verdict on every packet is exactly what
the rules of the file say, however they are ordered, repeated or split.

## Main definitions

* `fileRules`: the rules a policy file lists
* `ruleBlock`, `listedZones`, `rulePairs`: what a rule blocks, and between which zones
* `RuleOk`: a rule the loader accepts
* `Blocks`: a rule blocks a packet between two zones

## Main results

* `loadRule_eq_ok_iff`: a rule adds exactly the pairs it lists
* `loadPolicy_eq_ok_iff`: what an accepted policy consists of
* `verdict_is_what_the_file_says`: a packet is allowed exactly when no rule of the file blocks it
-/

namespace ZoneSegmentation

/-! ## Rules of a file -/

/-- The rules a policy file lists. -/
def fileRules (raw : Json) : Except (PyError PolicyFault) (List Json) := do
  (← raw.get "rules" (.arr [])).iter

/-- What a rule blocks: `all` or `icmp`. -/
def ruleBlock (rule : Json) : Option String :=
  (rule.get "block" .null : Except (PyError PolicyFault) Json).toOption.bind Json.str?

/-- The values a rule lists under `from` or `to`. -/
def fieldValues (rule : Json) (field : String) : Except (PyError PolicyFault) (List Json) := do
  (← rule.get field (.arr [])).iter

/-- The zones a rule lists under `from` or `to`. -/
def listedZones (rule : Json) (field : String) : List String :=
  ((fieldValues rule field).toOption.getD []).filterMap Json.str?

/-- The pairs of zones between which a rule blocks, if it blocks what `kind` says. -/
def rulePairs (kind : String) (rule : Json) : Finset (String × String) :=
  if ruleBlock rule = some kind then
    ((listedZones rule "from").product (listedZones rule "to")).toFinset
  else ∅

/-- A rule blocks a packet from one zone to another. -/
def Blocks (rule : Json) (src dst : String) (isIcmp : Bool) : Prop :=
  src ∈ listedZones rule "from" ∧ dst ∈ listedZones rule "to" ∧
    (ruleBlock rule = some "all" ∨ (ruleBlock rule = some "icmp" ∧ isIcmp = true))

/-- A field of a rule that the loader accepts: it lists zones, all of them known. -/
structure FieldOk (zones : Dict String ZoneEntry) (rule : Json) (field : String) : Prop where
  values : fieldValues rule field = .ok ((listedZones rule field).map .str)
  nonempty : listedZones rule field ≠ []
  known : ∀ z ∈ listedZones rule field, z ∈ zones.keys

/-- A rule that the loader accepts. -/
structure RuleOk (zones : Dict String ZoneEntry) (rule : Json) : Prop where
  block : ruleBlock rule = some "all" ∨ ruleBlock rule = some "icmp"
  sources : FieldOk zones rule "from"
  targets : FieldOk zones rule "to"

/-! ## What the loader does with a rule -/

/-- A dictionary that was read is empty only if its object was. -/
theorem Json.dict_keys_eq_nil_iff {ms : List (String × Json)} :
    (Json.dict ms).keys = [] ↔ ms = [] := by
  constructor
  · intro h
    cases ms with
    | nil => rfl
    | cons m ms =>
      have hmem : m.1 ∈ (Json.dict (m :: ms)).keys :=
        Dict.mem_keys_ofList.mpr (by simp)
      rw [h] at hmem
      cases hmem
  · rintro rfl
    rfl

/-- A value that can be iterated counts as true when it has an element. -/
theorem Json.truthy_iff_of_iter {x : Json} {xs : List Json}
    (h : x.iter = (.ok xs : Except (PyError PolicyFault) (List Json))) :
    x.truthy = true ↔ xs ≠ [] := by
  cases x with
  | arr ys =>
    cases h
    simp [Json.truthy]
  | obj ms =>
    cases h
    simp [Json.truthy, Json.dict_keys_eq_nil_iff]
  | str s =>
    cases h
    simp [Json.truthy]
  | null | bool | int | float => cases h

/-- Whether a field of a rule counts as true. -/
theorem truthy_field_iff {rule value : Json} {field : String} {xs : List Json}
    (hvalue : rule.get field .null = (.ok value : Except (PyError PolicyFault) Json))
    (hxs : fieldValues rule field = .ok xs) : value.truthy = true ↔ xs ≠ [] := by
  cases rule with
  | obj ms =>
    obtain ⟨listed, hlisted, hiter⟩ := Loop.bind_eq_ok.mp hxs
    simp only [Json.get, Except.ok.injEq] at hvalue hlisted
    cases hget : (Json.dict ms).get? field with
    | none =>
      -- a missing field is an empty list for the loop, and `None` for the check
      simp only [hget, Option.getD_none] at hvalue hlisted
      subst hvalue hlisted
      cases hiter
      simp [Json.truthy]
    | some y =>
      simp only [hget, Option.getD_some] at hvalue hlisted
      subst hvalue hlisted
      exact Json.truthy_iff_of_iter hiter
  | null | bool | int | float | str | arr => cases hvalue

/-- A list of strings is that of its strings. -/
theorem map_str_filterMap_str? {xs : List Json} (h : ∀ x ∈ xs, ∃ s, x = .str s) :
    (xs.filterMap Json.str?).map .str = xs := by
  induction xs with
  | nil => rfl
  | cons x xs ih =>
    obtain ⟨s, rfl⟩ := h x List.mem_cons_self
    rw [List.filterMap_cons, Json.str?]
    exact congrArg _ (ih fun x hx => h x (List.mem_cons_of_mem _ hx))

/-- A field that is read lists zones that are known, and at least one. -/
theorem fieldOk_of_ruleZones {zones : Dict String ZoneEntry} {i : ℕ} {rule : Json} {field : String}
    {names : List String} (h : ruleZones zones i rule field = .ok names) :
    FieldOk zones rule field ∧ names = listedZones rule field := by
  simp only [ruleZones, Loop.bind_eq_ok, raiseIf_eq_ok, Bool.or_eq_false_iff,
    Bool.not_eq_false'] at h
  obtain ⟨json, hjson, listed, hlisted, known, hknown, value, hvalue, _, ⟨hall, htruthy⟩, h⟩ := h
  have hvalues : fieldValues rule field = .ok listed := by
    rw [fieldValues, hjson]
    exact hlisted
  have hnames : listedZones rule field = listed.filterMap Json.str? := by
    rw [listedZones, hvalues]
    rfl
  have hmembers : ∀ z ∈ listed, ∃ s ∈ zones.keys, z = .str s := by
    intro z hz
    obtain ⟨b, hb, hin⟩ :=
      Loop.exists_of_forall₂_of_mem_left (Loop.forall₂_of_mapM_eq_ok hknown) hz
    have hb' : b = true := by
      have := List.any_eq_false.mp hall b hb
      simpa using this
    exact Json.inKeys_eq_true (hb' ▸ hin)
  have hlist : (listed.filterMap Json.str?).map .str = listed := by
    apply map_str_filterMap_str?
    intro z hz
    obtain ⟨s, -, hs⟩ := hmembers z hz
    exact ⟨s, hs⟩
  cases h
  refine ⟨⟨?_, ?_, ?_⟩, hnames.symm⟩
  · rw [hvalues, hnames, hlist]
  · have hne := (truthy_field_iff hvalue hvalues).mp htruthy
    rw [hnames]
    intro hnil
    rw [← hlist, hnil] at hne
    exact hne rfl
  · rw [hnames]
    intro z hz
    obtain ⟨y, hy, hstr⟩ := List.mem_filterMap.mp hz
    obtain ⟨s, hs, rfl⟩ := hmembers y hy
    exact Option.some.inj hstr ▸ hs

/-- The field of a rule is read as what it lists. -/
theorem FieldOk.ruleZones {zones : Dict String ZoneEntry} {rule : Json} {field : String}
    (h : FieldOk zones rule field) (i : ℕ) :
    ruleZones zones i rule field = .ok (listedZones rule field) := by
  obtain ⟨json, hjson, hiter⟩ := Loop.bind_eq_ok.mp h.values
  have hknown : ((listedZones rule field).map Json.str).mapM (fun z => z.inKeys zones) =
      (.ok (((listedZones rule field).map Json.str).map fun _ => true) :
        Except (PyError PolicyFault) (List Bool)) := by
    apply Loop.mapM_eq_ok_map
    intro z hz
    obtain ⟨s, hs, rfl⟩ := List.mem_map.mp hz
    exact congrArg _ (Dict.contains_eq_true_iff.mpr (h.known s hs))
  -- the field is read twice, with another default the second time
  obtain ⟨value, hvalue⟩ : ∃ value, rule.get field .null =
      (.ok value : Except (PyError PolicyFault) Json) := by
    cases rule with
    | obj ms => exact ⟨_, rfl⟩
    | null | bool | int | float | str | arr => cases hjson
  have htruthy : value.truthy = true :=
    (truthy_field_iff hvalue h.values).mpr (by simpa using h.nonempty)
  simp only [ZoneSegmentation.ruleZones, Loop.bind_eq_ok, raiseIf_eq_ok]
  refine ⟨json, hjson, _, hiter, _, hknown, value, hvalue, ⟨⟩, ?_, ?_⟩
  · simp [htruthy]
  · simp [pure, Except.pure, List.filterMap_map, Function.comp_def, Json.str?]

/-- The zones that are read from a field are those it lists. -/
theorem ruleZones_eq_ok_iff {zones : Dict String ZoneEntry} {i : ℕ} {rule : Json} {field : String}
    {names : List String} : ruleZones zones i rule field = .ok names ↔
      FieldOk zones rule field ∧ names = listedZones rule field := by
  constructor
  · exact fieldOk_of_ruleZones
  · rintro ⟨hfield, rfl⟩
    exact hfield.ruleZones i

theorem ruleBlock_of_get {rule block : Json}
    (h : rule.get "block" .null = (.ok block : Except (PyError PolicyFault) Json)) :
    ruleBlock rule = block.str? := by
  rw [ruleBlock, h]
  rfl

/-- **A rule adds exactly the pairs it lists**, to the set of what it blocks. -/
theorem loadRule_eq_ok_iff {zones : Dict String ZoneEntry}
    {blocks blocks' : Finset (String × String) × Finset (String × String)} {i : ℕ} {rule : Json} :
    loadRule zones blocks i rule = .ok blocks' ↔ RuleOk zones rule ∧
      blocks' = (blocks.1 ∪ rulePairs "all" rule, blocks.2 ∪ rulePairs "icmp" rule) := by
  constructor
  · intro h
    simp only [loadRule, Loop.bind_eq_ok] at h
    obtain ⟨block, hget, h⟩ := h
    have hkind := ruleBlock_of_get hget
    split at h
    · rename_i hkinds
      simp only [Loop.bind_eq_ok] at h
      obtain ⟨sources, hsources, targets, htargets, h⟩ := h
      obtain ⟨hfrom, rfl⟩ := ruleZones_eq_ok_iff.mp hsources
      obtain ⟨hto, rfl⟩ := ruleZones_eq_ok_iff.mp htargets
      refine ⟨⟨hkind ▸ hkinds, hfrom, hto⟩, ?_⟩
      have hresult := (Except.ok.inj h).symm
      rcases hkinds with hall | hicmp
      · simpa [rulePairs, hkind, hall] using hresult
      · simpa [rulePairs, hkind, hicmp] using hresult
    · cases h
  · rintro ⟨⟨hkinds, hfrom, hto⟩, rfl⟩
    obtain ⟨block, hget⟩ : ∃ block, rule.get "block" .null =
        (.ok block : Except (PyError PolicyFault) Json) := by
      unfold ruleBlock at hkinds
      cases hget : (rule.get "block" .null : Except (PyError PolicyFault) Json) with
      | ok block => exact ⟨block, rfl⟩
      | error e => simp [hget, Except.toOption] at hkinds
    have hkind := ruleBlock_of_get hget
    rw [hkind] at hkinds
    simp only [loadRule, Loop.bind_eq_ok]
    refine ⟨block, hget, ?_⟩
    rw [if_pos hkinds]
    simp only [Loop.bind_eq_ok]
    refine ⟨_, ruleZones_eq_ok_iff.mpr ⟨hfrom, rfl⟩, _, ruleZones_eq_ok_iff.mpr ⟨hto, rfl⟩, ?_⟩
    rcases hkinds with hall | hicmp
    · simp [rulePairs, hkind, hall, pure, Except.pure]
    · simp [rulePairs, hkind, hicmp, pure, Except.pure]

/-- The loop over the rules adds the pairs of all rules, if it accepts each of them. -/
theorem foldlM_loadRule_eq_ok_iff {zones : Dict String ZoneEntry} {rules : List Json} {n : ℕ}
    {blocks blocks' : Finset (String × String) × Finset (String × String)} :
    (rules.zipIdx n).foldlM (fun blocks r => loadRule zones blocks r.2 r.1) blocks = .ok blocks' ↔
      (∀ rule ∈ rules, RuleOk zones rule) ∧
      (∀ p, p ∈ blocks'.1 ↔ p ∈ blocks.1 ∨ ∃ rule ∈ rules, p ∈ rulePairs "all" rule) ∧
      ∀ p, p ∈ blocks'.2 ↔ p ∈ blocks.2 ∨ ∃ rule ∈ rules, p ∈ rulePairs "icmp" rule := by
  induction rules generalizing n blocks with
  | nil =>
    constructor
    · intro h
      cases h
      simp
    · rintro ⟨-, hall, hicmp⟩
      refine congrArg Except.ok (Prod.ext (Finset.ext ?_) (Finset.ext ?_))
      · intro p
        simpa using (hall p).symm
      · intro p
        simpa using (hicmp p).symm
  | cons rule rules ih =>
    rw [List.zipIdx_cons, List.foldlM_cons, Loop.bind_eq_ok]
    simp only [loadRule_eq_ok_iff, and_assoc, exists_and_left, exists_eq_left, ih,
      List.forall_mem_cons, List.exists_mem_cons_iff, Finset.mem_union, or_assoc]

/-- The loader reads the zones of the file, and then its rules. -/
theorem loadPolicy_eq (raw : Json) : loadPolicy raw = (fileZones raw >>= fun members => do
    let zones ← members.foldlM (fun zones m => loadZone zones m.1 m.2) Dict.empty
    raiseIf zones.entries.isEmpty (.fault .noZones)
    let rules ← fileRules raw
    let blocks ← rules.zipIdx.foldlM (fun blocks r => loadRule zones blocks r.2 r.1) (∅, ∅)
    return ⟨zones, blocks.1, blocks.2⟩) := by
  simp only [loadPolicy, fileZones, fileRules, bind_assoc]

/-- **What an accepted policy consists of**: its zones, and the pairs its rules list. -/
theorem loadPolicy_eq_ok_iff {raw : Json} {P : Policy} : loadPolicy raw = .ok P ↔
    ∃ members rules, fileZones raw = .ok members ∧ fileRules raw = .ok rules ∧
      members.foldlM (fun zones m => loadZone zones m.1 m.2) Dict.empty = .ok P.zones ∧
      P.zones.entries ≠ [] ∧ (∀ rule ∈ rules, RuleOk P.zones rule) ∧
      (∀ p, p ∈ P.blockAllIp ↔ ∃ rule ∈ rules, p ∈ rulePairs "all" rule) ∧
      ∀ p, p ∈ P.blockIcmp ↔ ∃ rule ∈ rules, p ∈ rulePairs "icmp" rule := by
  have hloop (zones : Dict String ZoneEntry) (rules : List Json)
      (blocks : Finset (String × String) × Finset (String × String)) :=
    @foldlM_loadRule_eq_ok_iff zones rules 0 (∅, ∅) blocks
  have hrules {zones : Dict String ZoneEntry} {rules : List Json}
      {blocks : Finset (String × String) × Finset (String × String)} :
      rules.zipIdx.foldlM (fun blocks r => loadRule zones blocks r.2 r.1) (∅, ∅) = .ok blocks ↔
        (∀ rule ∈ rules, RuleOk zones rule) ∧
        (∀ p, p ∈ blocks.1 ↔ ∃ rule ∈ rules, p ∈ rulePairs "all" rule) ∧
        ∀ p, p ∈ blocks.2 ↔ ∃ rule ∈ rules, p ∈ rulePairs "icmp" rule := by
    simpa using hloop zones rules blocks
  simp only [loadPolicy_eq, Loop.bind_eq_ok, raiseIf_eq_ok]
  constructor
  · rintro ⟨members, hmembers, zones, hzones, _, hsome, rules, hfile, blocks, hblocks, h⟩
    cases h
    exact ⟨members, rules, hmembers, hfile, hzones, by simpa using hsome, hrules.mp hblocks⟩
  · rintro ⟨members, rules, hmembers, hfile, hzones, hsome, hblocks⟩
    exact ⟨members, hmembers, P.zones, hzones, ⟨⟩, by simpa using hsome, rules, hfile,
      (P.blockAllIp, P.blockIcmp), hrules.mpr hblocks, rfl⟩

/-! ## Verdicts -/

section

variable {raw raw' : Json} {P : Policy} {rules rules' : List Json}

theorem mem_rulePairs {kind src dst : String} {rule : Json} : (src, dst) ∈ rulePairs kind rule ↔
    ruleBlock rule = some kind ∧ src ∈ listedZones rule "from" ∧ dst ∈ listedZones rule "to" := by
  unfold rulePairs
  split
  · simp [List.pair_mem_product, *]
  · simp [*]

/-- **The rules allow one known zone to send to another** exactly when no rule of the file blocks
it. -/
theorem firewallAllowed_iff_not_blocks (h : loadPolicy raw = .ok P)
    (hrules : fileRules raw = .ok rules) {src dst : String} {isIcmp : Bool}
    (hsrc : src ∈ P.zones.keys) (hdst : dst ∈ P.zones.keys) :
    firewallAllowed P (some src) (some dst) isIcmp = true ↔
      ∀ rule ∈ rules, ¬ Blocks rule src dst isIcmp := by
  obtain ⟨members, rules', -, hrules', -, -, -, hall, hicmp⟩ := loadPolicy_eq_ok_iff.mp h
  obtain rfl := Except.ok.inj (hrules'.symm.trans hrules)
  -- both zones are known, so that only the two sets decide
  have hverdict : firewallAllowed P (some src) (some dst) isIcmp = true ↔
      (src, dst) ∉ P.blockAllIp ∧ ¬ (isIcmp = true ∧ (src, dst) ∈ P.blockIcmp) := by
    simp only [firewallAllowed, Dict.contains_eq_true_iff.mpr hsrc,
      Dict.contains_eq_true_iff.mpr hdst]
    by_cases ha : (src, dst) ∈ P.blockAllIp <;> by_cases hi : (src, dst) ∈ P.blockIcmp <;>
      cases isIcmp <;> simp [ha, hi]
  rw [hverdict, hall, hicmp]
  simp only [mem_rulePairs, Blocks]
  constructor
  · rintro ⟨hnone, hnone'⟩ rule hrule ⟨hfrom, hto, hblock | ⟨hblock, hclass⟩⟩
    · exact hnone ⟨rule, hrule, hblock, hfrom, hto⟩
    · exact hnone' ⟨hclass, rule, hrule, hblock, hfrom, hto⟩
  · intro hnot
    constructor
    · rintro ⟨rule, hrule, hblock, hfrom, hto⟩
      exact hnot rule hrule ⟨hfrom, hto, .inl hblock⟩
    · rintro ⟨hclass, rule, hrule, hblock, hfrom, hto⟩
      exact hnot rule hrule ⟨hfrom, hto, .inr ⟨hblock, hclass⟩⟩

/-- The verdict on a packet, from its addresses. -/
theorem firewallAllowed_zoneForIp_iff (h : loadPolicy raw = .ok P)
    (hrules : fileRules raw = .ok rules) (src dst : IPAddress) (isIcmp : Bool) :
    firewallAllowed P (zoneForIp P src) (zoneForIp P dst) isIcmp = true ↔
      ∃ s d, zoneForIp P src = some s ∧ zoneForIp P dst = some d ∧
        ∀ rule ∈ rules, ¬ Blocks rule s d isIcmp := by
  cases hs : zoneForIp P src with
  | none => simp [firewallAllowed]
  | some s =>
    cases hd : zoneForIp P dst with
    | none => simp [firewallAllowed]
    | some d =>
      rw [firewallAllowed_iff_not_blocks h hrules (mem_keys_of_zoneForIp hs)
        (mem_keys_of_zoneForIp hd)]
      simp

/-- Files with the same zones whose rules list the same pairs give the same policy. -/
theorem loadPolicy_congr_rules (h : loadPolicy raw = .ok P) (hrules : fileRules raw = .ok rules)
    (hzones : fileZones raw' = fileZones raw) (hrules' : fileRules raw' = .ok rules')
    (hok : ∀ rule ∈ rules', RuleOk P.zones rule)
    (hpairs : ∀ kind p, (∃ rule ∈ rules', p ∈ rulePairs kind rule) ↔
      ∃ rule ∈ rules, p ∈ rulePairs kind rule) : loadPolicy raw' = .ok P := by
  obtain ⟨members, rules₁, hmembers, hrules₁, hload, hsome, -, hall, hicmp⟩ :=
    loadPolicy_eq_ok_iff.mp h
  obtain rfl := Except.ok.inj (hrules₁.symm.trans hrules)
  refine loadPolicy_eq_ok_iff.mpr
    ⟨members, rules', hzones.trans hmembers, hrules', hload, hsome, hok, ?_, ?_⟩
  · intro p
    rw [hall, hpairs]
  · intro p
    rw [hicmp, hpairs]

/-- The rules of an accepted file are accepted. -/
theorem ruleOk_of_mem (h : loadPolicy raw = .ok P) (hrules : fileRules raw = .ok rules)
    {rule : Json} (hrule : rule ∈ rules) : RuleOk P.zones rule := by
  obtain ⟨members, rules₁, -, hrules₁, -, -, hok, -⟩ := loadPolicy_eq_ok_iff.mp h
  obtain rfl := Except.ok.inj (hrules₁.symm.trans hrules)
  exact hok rule hrule

end

/-! ## Splitting a rule -/

/-- A rule for one pair of zones. -/
def singlePairRule (block src dst : String) : Json :=
  .obj [("from", .arr [.str src]), ("to", .arr [.str dst]), ("block", .str block)]

/-- A rule split into one rule for each pair of zones it lists. -/
def singlePairRules (rule : Json) : List Json :=
  (listedZones rule "from").flatMap fun src =>
    (listedZones rule "to").map fun dst => singlePairRule ((ruleBlock rule).getD "") src dst

@[simp] theorem ruleBlock_singlePairRule (block src dst : String) :
    ruleBlock (singlePairRule block src dst) = some block := rfl

@[simp] theorem listedZones_singlePairRule_from (block src dst : String) :
    listedZones (singlePairRule block src dst) "from" = [src] := rfl

@[simp] theorem listedZones_singlePairRule_to (block src dst : String) :
    listedZones (singlePairRule block src dst) "to" = [dst] := rfl

theorem ruleOk_singlePairRule {zones : Dict String ZoneEntry} {block src dst : String}
    (hblock : block = "all" ∨ block = "icmp") (hsrc : src ∈ zones.keys) (hdst : dst ∈ zones.keys) :
    RuleOk zones (singlePairRule block src dst) where
  block := by simpa using hblock
  sources := ⟨rfl, by simp, by simpa using hsrc⟩
  targets := ⟨rfl, by simp, by simpa using hdst⟩

/-- The rules that a rule is split into list its pairs. -/
theorem mem_rulePairs_singlePairRules {zones : Dict String ZoneEntry} {rule : Json}
    (hok : RuleOk zones rule) (kind : String) (p : String × String) :
    (∃ r ∈ singlePairRules rule, p ∈ rulePairs kind r) ↔ p ∈ rulePairs kind rule := by
  obtain ⟨src, dst⟩ := p
  obtain ⟨block, hblock⟩ : ∃ block, ruleBlock rule = some block := by
    rcases hok.block with h | h
    · exact ⟨_, h⟩
    · exact ⟨_, h⟩
  simp only [singlePairRules, hblock, Option.getD_some, List.mem_flatMap, List.mem_map,
    mem_rulePairs]
  constructor
  · rintro ⟨r, ⟨s, hs, d, hd, rfl⟩, hkind, hfrom, hto⟩
    simp only [ruleBlock_singlePairRule, listedZones_singlePairRule_from,
      listedZones_singlePairRule_to, List.mem_singleton] at hkind hfrom hto
    subst hfrom hto
    exact ⟨hkind, hs, hd⟩
  · rintro ⟨hkind, hfrom, hto⟩
    exact ⟨_, ⟨src, hfrom, dst, hto, rfl⟩, by simpa using hkind, by simp, by simp⟩

/-! ## The file decides -/

section

variable {raw raw' : Json} {P : Policy} {rules : List Json} (h : loadPolicy raw = .ok P)
  (hrules : fileRules raw = .ok rules)

include h hrules

/-- The order of the rules, and how often each is listed, does not matter. -/
theorem loadPolicy_of_mem_iff {rules' : List Json} (hzones : fileZones raw' = fileZones raw)
    (hrules' : fileRules raw' = .ok rules') (hsame : ∀ rule, rule ∈ rules' ↔ rule ∈ rules) :
    loadPolicy raw' = .ok P := by
  apply loadPolicy_congr_rules h hrules hzones hrules'
  · intro rule hrule
    exact ruleOk_of_mem h hrules ((hsame rule).mp hrule)
  · intro kind p
    simp only [hsame]

/-- A rule may be split into rules for single pairs. -/
theorem loadPolicy_split {before after : List Json} {rule : Json}
    (hzones : fileZones raw' = fileZones raw) (hlist : rules = before ++ rule :: after)
    (hrules' : fileRules raw' = .ok (before ++ singlePairRules rule ++ after)) :
    loadPolicy raw' = .ok P := by
  subst hlist
  have hok : RuleOk P.zones rule := ruleOk_of_mem h hrules (by simp)
  apply loadPolicy_congr_rules h hrules hzones hrules'
  · intro r hr
    rcases List.mem_append.mp hr with hr | hr
    · rcases List.mem_append.mp hr with hr | hr
      · exact ruleOk_of_mem h hrules (by simp [hr])
      · obtain ⟨s, hs, hr⟩ := List.mem_flatMap.mp hr
        obtain ⟨d, hd, rfl⟩ := List.mem_map.mp hr
        refine ruleOk_singlePairRule ?_ (hok.sources.known s hs) (hok.targets.known d hd)
        rcases hok.block with hblock | hblock
        · exact .inl (by rw [hblock]; rfl)
        · exact .inr (by rw [hblock]; rfl)
    · exact ruleOk_of_mem h hrules (by simp [hr])
  · intro kind p
    have hsplit := mem_rulePairs_singlePairRules hok kind p
    simp only [List.mem_append, or_and_right, exists_or, List.exists_mem_cons_iff, hsplit,
      or_assoc]

/-- One more accepted rule allows nothing that was denied. -/
theorem allowed_of_more_rules {P' : Policy} {before after : List Json} {rule : Json}
    (hzones : fileZones raw' = fileZones raw) (hlist : rules = before ++ after)
    (hrules' : fileRules raw' = .ok (before ++ rule :: after)) (h' : loadPolicy raw' = .ok P')
    {src dst : IPAddress} {isIcmp : Bool}
    (hallowed : firewallAllowed P' (zoneForIp P' src) (zoneForIp P' dst) isIcmp = true) :
    firewallAllowed P (zoneForIp P src) (zoneForIp P dst) isIcmp = true := by
  obtain ⟨members, _, hmembers, -, hload, -⟩ := loadPolicy_eq_ok_iff.mp h
  obtain ⟨members', _, hmembers', -, hload', -⟩ := loadPolicy_eq_ok_iff.mp h'
  obtain rfl := Except.ok.inj ((hmembers'.symm.trans hzones).trans hmembers)
  have hsame : P'.zones = P.zones := Except.ok.inj (hload'.symm.trans hload)
  obtain ⟨s, d, hs, hd, hnone⟩ := (firewallAllowed_zoneForIp_iff h' hrules' src dst isIcmp).mp
    hallowed
  rw [zoneForIp, hsame, ← zoneForIp] at hs hd
  apply (firewallAllowed_zoneForIp_iff h hrules src dst isIcmp).mpr
  refine ⟨s, d, hs, hd, ?_⟩
  intro r hr
  apply hnone r
  subst hlist
  rcases List.mem_append.mp hr with hr | hr <;> simp [hr]

/-- Every rule of an accepted file denies the packets of its class between two zones. -/
theorem exists_denied_pair {rule : Json} (hrule : rule ∈ rules) :
    ∃ s ∈ P.zones.keys, ∃ d ∈ P.zones.keys, ∀ isIcmp,
      ruleBlock rule = some "all" ∨ isIcmp = true →
        firewallAllowed P (some s) (some d) isIcmp = false := by
  have hok := ruleOk_of_mem h hrules hrule
  obtain ⟨s, hs⟩ := List.exists_mem_of_ne_nil _ hok.sources.nonempty
  obtain ⟨d, hd⟩ := List.exists_mem_of_ne_nil _ hok.targets.nonempty
  refine ⟨s, hok.sources.known s hs, d, hok.targets.known d hd, ?_⟩
  intro isIcmp hclass
  rw [← Bool.not_eq_true, firewallAllowed_iff_not_blocks h hrules (hok.sources.known s hs)
    (hok.targets.known d hd)]
  intro hnone
  apply hnone rule hrule
  refine ⟨hs, hd, ?_⟩
  rcases hok.block with hblock | hblock
  · exact .inl hblock
  · rcases hclass with hall | hicmp
    · exact .inl hall
    · exact .inr ⟨hblock, hicmp⟩

end

/-- **The loaded verdict is what the file says.** A packet is allowed exactly when both addresses
lie in zones and no rule of the file lists their zones for its class of packets. So the rules may
be permuted, repeated, or split into rules for single pairs, and the same policy is loaded; one
more accepted rule allows nothing that was denied; and every rule denies some pair of zones. -/
theorem verdict_is_what_the_file_says {raw : Json} {P : Policy} {rules : List Json}
    (h : loadPolicy raw = .ok P) (hrules : fileRules raw = .ok rules) :
    (∀ src dst isIcmp, firewallAllowed P (zoneForIp P src) (zoneForIp P dst) isIcmp = true ↔
      ∃ s d, zoneForIp P src = some s ∧ zoneForIp P dst = some d ∧
        ∀ rule ∈ rules, ¬ Blocks rule s d isIcmp) ∧
    (∀ raw' rules', fileZones raw' = fileZones raw → fileRules raw' = .ok rules' →
      (∀ rule, rule ∈ rules' ↔ rule ∈ rules) → loadPolicy raw' = .ok P) ∧
    (∀ raw' before rule after, fileZones raw' = fileZones raw →
      rules = before ++ rule :: after →
      fileRules raw' = .ok (before ++ singlePairRules rule ++ after) → loadPolicy raw' = .ok P) ∧
    (∀ raw' P' before rule after, fileZones raw' = fileZones raw → rules = before ++ after →
      fileRules raw' = .ok (before ++ rule :: after) → loadPolicy raw' = .ok P' →
      ∀ src dst isIcmp,
        firewallAllowed P' (zoneForIp P' src) (zoneForIp P' dst) isIcmp = true →
          firewallAllowed P (zoneForIp P src) (zoneForIp P dst) isIcmp = true) ∧
    ∀ rule ∈ rules, ∃ s ∈ P.zones.keys, ∃ d ∈ P.zones.keys, ∀ isIcmp,
      ruleBlock rule = some "all" ∨ isIcmp = true →
        firewallAllowed P (some s) (some d) isIcmp = false := by
  refine ⟨firewallAllowed_zoneForIp_iff h hrules, ?_, ?_, ?_, ?_⟩
  · intro raw' rules' hzones hrules' hsame
    exact loadPolicy_of_mem_iff h hrules hzones hrules' hsame
  · intro raw' before rule after hzones hlist hrules'
    exact loadPolicy_split h hrules hzones hlist hrules'
  · intro raw' P' before rule after hzones hlist hrules' h' src dst isIcmp hallowed
    exact allowed_of_more_rules h hrules hzones hlist hrules' h' hallowed
  · intro rule hrule
    exact exists_denied_pair h hrules hrule

/-- The rules of the repository's policy. -/
def policyRules : List Json :=
  ((fileRules policyJson).toOption.getD [])

/-- A ping into the department that the repository's policy blocks from the outside. -/
theorem verdict_is_what_the_file_says_untrust :
    firewallAllowed policy (zoneForIp policy (.v4 0x6C231871)) (zoneForIp policy (.v4 0x0A010165))
        true = true ↔
      ∃ s d, zoneForIp policy (.v4 0x6C231871) = some s ∧
        zoneForIp policy (.v4 0x0A010165) = some d ∧ ∀ rule ∈ policyRules, ¬ Blocks rule s d true :=
  have hverdict := verdict_is_what_the_file_says loadPolicy_policyJson rfl
  hverdict.1 _ _ _

end ZoneSegmentation
