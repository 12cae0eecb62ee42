import ZoneSegmentation.Config.Readings
import ZoneSegmentation.Config.Verdicts

/-!
# Malformed files

A loader means to report whatever is wrong with a file by its own error. Its checks do, but before
a check the value of an entry is taken apart with operations that raise Python's errors when it has
another shape, and these are not caught. A load is reported exactly when every entry that the
loader comes to, having accepted all before it, has the shape that is read from it.

## Main definitions

* `Reports`: a load that succeeds, or ends in the loader's own error
* `PolicyReadable`, `NetworkReadable`: the shape of the entries that a loader comes to

## Main results

* `reports_loadPolicy_iff`, `reports_loadNetwork_iff`: which files are accepted or reported
-/

namespace ZoneSegmentation

/-- An error that a loader raises itself. -/
def PyError.IsFault {F : Type} (e : PyError F) : Prop := ∃ f, e = .fault f

@[simp] theorem PyError.isFault_fault {F : Type} (f : F) : (PyError.fault f).IsFault := ⟨f, rfl⟩

/-- A load that succeeds, or ends in the loader's own error. -/
abbrev Reports {F A : Type} (x : Except (PyError F) A) : Prop := Loop.OnlyRaises PyError.IsFault x

variable {F A : Type}

theorem reports_bind_iff {B : Type} {x : Except (PyError F) A} {f : A → Except (PyError F) B} :
    Reports (x >>= f) ↔ Reports x ∧ ∀ a, x = .ok a → Reports (f a) :=
  Loop.onlyRaises_bind_iff

/-! ## Shapes -/

/-- Whether a value has the attributes of a dictionary. -/
def Json.isObject : Json → Bool
  | obj _ => true
  | _ => false

/-- Whether a value can be looked up in a dictionary. -/
def Json.hashable : Json → Bool
  | arr _ | obj _ => false
  | _ => true

/-- What raises no error of the loader has to succeed. -/
theorem reports_iff_exists_ok {x : Except (PyError F) A}
    (h : ∀ e, x = .error e → ¬ e.IsFault) : Reports x ↔ ∃ a, x = .ok a := by
  cases x with
  | ok a => simp
  | error e => simpa [Loop.onlyRaises_error_iff] using h e rfl

@[simp] theorem reports_fault (f : F) : Reports (.error (.fault f) : Except (PyError F) A) :=
  Loop.onlyRaises_error_iff.mpr ⟨f, rfl⟩

/-- A check of the loader raises the loader's own error. -/
@[simp] theorem reports_raiseIf (c : Bool) (f : F) : Reports (raiseIf c (.fault f)) := by
  cases c
  · exact Loop.onlyRaises_ok _
  · exact reports_fault f

@[simp] theorem reports_orRaise (x : Option A) (f : F) : Reports (orRaise x (.fault f)) := by
  cases x with
  | none => exact reports_fault f
  | some a => exact Loop.onlyRaises_ok a

@[simp] theorem reports_get_iff {x default : Json} {key : String} :
    Reports (x.get key default : Except (PyError F) Json) ↔ x.isObject = true := by
  cases x <;> simp [Json.get, Json.isObject, PyError.IsFault]

@[simp] theorem reports_inKeys_iff {V : Type} {x : Json} {d : Dict String V} :
    Reports (x.inKeys d : Except (PyError F) Bool) ↔ x.hashable = true := by
  cases x <;> simp [Json.inKeys, Json.hashable, PyError.IsFault]

theorem exists_get {x default : Json} {key : String} (h : x.isObject = true) :
    ∃ y, x.get key default = (.ok y : Except (PyError F) Json) := by
  cases x with
  | obj ms => exact ⟨_, rfl⟩
  | null | bool | int | float | str | arr => cases h

theorem not_isFault_of_get {x default : Json} {key : String} {e : PyError F}
    (h : x.get key default = .error e) : ¬ e.IsFault := by
  rintro ⟨f, rfl⟩
  cases x <;> cases h

theorem not_isFault_of_items {x : Json} {e : PyError F} (h : x.items = .error e) :
    ¬ e.IsFault := by
  rintro ⟨f, rfl⟩
  cases x <;> cases h

theorem not_isFault_of_iter {x : Json} {e : PyError F} (h : x.iter = .error e) : ¬ e.IsFault := by
  rintro ⟨f, rfl⟩
  cases x <;> cases h

theorem not_isFault_of_inKeys {V : Type} {x : Json} {d : Dict String V} {e : PyError F}
    (h : x.inKeys d = .error e) : ¬ e.IsFault := by
  rintro ⟨f, rfl⟩
  cases x <;> cases h

/-- A sequence whose first part raises none of the loader's own errors. -/
theorem reports_bind_iff_exists {B : Type} {x : Except (PyError F) A}
    {f : A → Except (PyError F) B} (hx : ∀ e, x = .error e → ¬ e.IsFault) :
    Reports (x >>= f) ↔ ∃ a, x = .ok a ∧ Reports (f a) := by
  rw [reports_bind_iff, reports_iff_exists_ok hx]
  constructor
  · rintro ⟨⟨a, ha⟩, hf⟩
    exact ⟨a, ha, hf a ha⟩
  · rintro ⟨a, ha, hf⟩
    refine ⟨⟨a, ha⟩, ?_⟩
    intro b hb
    obtain rfl := Except.ok.inj (ha.symm.trans hb)
    exact hf

/-- Reading a section of named entries raises none of the loader's own errors. -/
theorem not_isFault_of_get_items {x default : Json} {key : String} (e : PyError F)
    (h : (x.get key default >>= Json.items) = .error e) : ¬ e.IsFault := by
  cases hx : (x.get key default : Except (PyError F) Json) with
  | error e' => exact not_isFault_of_get (hx.trans (by simpa [hx] using h))
  | ok y => exact not_isFault_of_items (by simpa [hx] using h)

/-- Neither does reading a list. -/
theorem not_isFault_of_get_iter {x default : Json} {key : String} (e : PyError F)
    (h : (x.get key default >>= Json.iter) = .error e) : ¬ e.IsFault := by
  cases hx : (x.get key default : Except (PyError F) Json) with
  | error e' => exact not_isFault_of_get (hx.trans (by simpa [hx] using h))
  | ok y => exact not_isFault_of_iter (by simpa [hx] using h)

/-! ## Policies -/

theorem not_isFault_of_fieldValues {rule : Json} {field : String} (e : PyError PolicyFault)
    (h : fieldValues rule field = .error e) : ¬ e.IsFault :=
  not_isFault_of_get_iter e h

/-- A field of a rule that the loader can go through: a value that can be iterated, each element
of which can be looked up. -/
def FieldReadable (rule : Json) (field : String) : Prop :=
  ∃ values, fieldValues rule field = .ok values ∧ ∀ v ∈ values, v.hashable = true

/-- A rule that the loader can take apart: if its block kind is known, its fields are gone through,
the targets once the sources are accepted. -/
structure RuleReadable (zones : Dict String ZoneEntry) (rule : Json) : Prop where
  object : rule.isObject = true
  sources : ruleBlock rule = some "all" ∨ ruleBlock rule = some "icmp" →
    FieldReadable rule "from"
  targets : ruleBlock rule = some "all" ∨ ruleBlock rule = some "icmp" →
    FieldOk zones rule "from" → FieldReadable rule "to"

/-- A turn of the loop over the zones is reported when the entry is an object. -/
theorem reports_loadZone_iff {zones : Dict String ZoneEntry} {name : String} {z : Json} :
    Reports (loadZone zones name z) ↔ z.isObject = true := by
  constructor
  · intro h
    cases z with
    | obj ms => rfl
    | null | bool | int | float | str | arr =>
      simp [loadZone, Json.subscript, PyError.IsFault] at h
  · intro h
    cases z with
    | obj ms =>
      cases hs : (Json.dict ms).get? "subnet" with
      | none => simp [loadZone, Json.subscript, hs]
      | some subnet =>
        cases hg : (Json.dict ms).get? "gateway" with
        | none => simp [loadZone, Json.subscript, hs, hg, reports_bind_iff]
        | some gateway =>
          simp only [loadZone, Json.subscript, Json.get, hs, hg, Loop.ok_bind, reports_bind_iff]
          refine ⟨reports_orRaise _ _, ?_⟩
          intro subnet _
          refine ⟨reports_orRaise _ _, ?_⟩
          intro gateway _
          refine ⟨reports_raiseIf _ _, ?_⟩
          intro _ _
          refine ⟨reports_raiseIf _ _, ?_⟩
          intro _ _
          refine ⟨?_, fun _ _ => Loop.onlyRaises_pure _⟩
          apply Loop.onlyRaises_forIn
          intro e _
          simp [reports_bind_iff]
    | null | bool | int | float | str | arr => cases h

/-- The zones of a field are reported when the loader can go through them. -/
theorem reports_ruleZones_iff {zones : Dict String ZoneEntry} {i : ℕ} {rule : Json}
    {field : String} (hrule : rule.isObject = true) :
    Reports (ruleZones zones i rule field) ↔ FieldReadable rule field := by
  have hsplit : ruleZones zones i rule field = (fieldValues rule field >>= fun listed => do
      let known ← listed.mapM fun z => z.inKeys zones
      let value ← rule.get field .null
      raiseIf (known.any (!·) || !value.truthy) (.fault (.unknownZones i field))
      return listed.filterMap Json.str?) := by
    rw [ruleZones, fieldValues, bind_assoc]
  have hhashable (x : Json) : (∃ b, x.inKeys zones = (.ok b : Except (PyError PolicyFault) Bool)) ↔
      x.hashable = true := by
    rw [← reports_iff_exists_ok fun _ => not_isFault_of_inKeys, reports_inKeys_iff]
  rw [hsplit, reports_bind_iff_exists not_isFault_of_fieldValues, FieldReadable]
  apply exists_congr
  intro values
  -- after the values are looked up, only checks are left
  simp only [reports_bind_iff, Loop.onlyRaises_mapM_iff fun _ _ => not_isFault_of_inKeys,
    hhashable, reports_get_iff, hrule, reports_raiseIf, Loop.onlyRaises_pure, implies_true,
    and_true]

/-- A turn of the loop over the rules is reported when the loader can take the rule apart. -/
theorem reports_loadRule_iff {zones : Dict String ZoneEntry}
    {blocks : Finset (String × String) × Finset (String × String)} {i : ℕ} {rule : Json} :
    Reports (loadRule zones blocks i rule) ↔ RuleReadable zones rule := by
  have hget : Reports (rule.get "block" .null : Except (PyError PolicyFault) Json) ↔
      rule.isObject = true := reports_get_iff
  have hfield {field : String} (hrule : rule.isObject = true) :
      Reports (ruleZones zones i rule field) ↔ FieldReadable rule field :=
    reports_ruleZones_iff hrule
  rw [loadRule, reports_bind_iff, hget]
  constructor
  · rintro ⟨hrule, hrest⟩
    obtain ⟨block, hblock⟩ := exists_get hrule
    have hrest := hrest block hblock
    refine ⟨hrule, ?_, ?_⟩
    · intro hknown
      rw [ruleBlock_of_get hblock] at hknown
      rw [if_pos hknown, reports_bind_iff] at hrest
      exact (hfield hrule).mp hrest.1
    · intro hknown hfrom
      rw [ruleBlock_of_get hblock] at hknown
      rw [if_pos hknown, reports_bind_iff] at hrest
      have htargets := hrest.2 _ (hfrom.ruleZones i)
      rw [reports_bind_iff] at htargets
      exact (hfield hrule).mp htargets.1
  · rintro ⟨hrule, hsources, htargets⟩
    refine ⟨hrule, ?_⟩
    intro block hblock
    rw [ruleBlock_of_get hblock] at hsources htargets
    by_cases hknown : block.str? = some "all" ∨ block.str? = some "icmp"
    · rw [if_pos hknown, reports_bind_iff, hfield hrule]
      refine ⟨hsources hknown, ?_⟩
      intro sources hfrom
      rw [reports_bind_iff, hfield hrule]
      exact ⟨htargets hknown (ruleZones_eq_ok_iff.mp hfrom).1, fun _ _ => Loop.onlyRaises_pure _⟩
    · rw [if_neg hknown]
      simp

/-- **A policy file that the loader can take apart.** The file and its zones are objects, and so is
every zone the loader comes to. If it accepts all zones, the rules can be iterated, and it can take
apart every rule it comes to. -/
def PolicyReadable (raw : Json) : Prop :=
  ∃ members, fileZones raw = .ok members ∧
    (∀ before m after, members = before ++ m :: after → ∀ es, ZonesRead before es →
      m.2.isObject = true) ∧
    ∀ es, ZonesRead members es → es ≠ [] → ∃ rules, fileRules raw = .ok rules ∧
      ∀ before rule after, rules = before ++ rule :: after →
        (∀ r ∈ before, RuleOk (Dict.ofList es) r) → RuleReadable (Dict.ofList es) rule

/-- The loader goes through the rules it accepts. -/
theorem exists_foldlM_loadRule {zones : Dict String ZoneEntry} {rules : List Json} {n : ℕ}
    (h : ∀ rule ∈ rules, RuleOk zones rule)
    (blocks : Finset (String × String) × Finset (String × String)) :
    ∃ blocks', (rules.zipIdx n).foldlM (fun blocks r => loadRule zones blocks r.2 r.1) blocks =
      .ok blocks' := by
  induction rules generalizing n blocks with
  | nil => exact ⟨blocks, rfl⟩
  | cons rule rules ih =>
    obtain ⟨hrule, hrules⟩ := List.forall_mem_cons.mp h
    rw [List.zipIdx_cons, List.foldlM_cons, loadRule_eq_ok_iff.mpr ⟨hrule, rfl⟩]
    exact ih hrules _

/-- The loop over the zones is reported when every zone it comes to is an object. -/
theorem reports_foldlM_loadZone_iff {members : List (String × Json)}
    (hmembers : (members.map Prod.fst).Nodup) :
    Reports (members.foldlM (fun zones m => loadZone zones m.1 m.2) Dict.empty) ↔
      ∀ before m after, members = before ++ m :: after → ∀ es, ZonesRead before es →
        m.2.isObject = true := by
  apply Loop.onlyRaises_gather_iff Dict.ofList rfl
  · intro pre m hpre es hes zones'
    exact loadZone_eq_ok_iff (hes.nodup_keys_of_prefix (fun m e h => h.name) hmembers hpre)
  · intro pre m _ es _
    exact reports_loadZone_iff

/-- The loop over the rules is reported when it can take apart every rule it comes to. -/
theorem reports_foldlM_loadRule_iff {zones : Dict String ZoneEntry} {rules : List Json} :
    Reports (rules.zipIdx.foldlM (fun blocks r => loadRule zones blocks r.2 r.1) (∅, ∅)) ↔
      ∀ before rule after, rules = before ++ rule :: after → (∀ r ∈ before, RuleOk zones r) →
        RuleReadable zones rule := by
  rw [Reports, Loop.onlyRaises_foldlM_zipIdx_iff]
  apply forall₃_congr
  rintro before rule after
  apply forall_congr'
  rintro -
  constructor
  · intro h hbefore
    obtain ⟨blocks, hblocks⟩ := exists_foldlM_loadRule hbefore (∅, ∅)
    exact reports_loadRule_iff.mp (h blocks hblocks)
  · intro h blocks hblocks
    exact reports_loadRule_iff.mpr (h (foldlM_loadRule_eq_ok_iff.mp hblocks).1)

theorem not_isFault_of_fileZones {raw : Json} (e : PyError PolicyFault)
    (h : fileZones raw = .error e) : ¬ e.IsFault :=
  not_isFault_of_get_items e h

theorem not_isFault_of_fileRules {raw : Json} (e : PyError PolicyFault)
    (h : fileRules raw = .error e) : ¬ e.IsFault :=
  not_isFault_of_get_iter e h

/-- **A policy file is accepted or reported** exactly when the loader can take it apart. -/
theorem reports_loadPolicy_iff {raw : Json} : Reports (loadPolicy raw) ↔ PolicyReadable raw := by
  rw [loadPolicy_eq, reports_bind_iff_exists not_isFault_of_fileZones]
  apply exists_congr
  intro members
  apply and_congr_right
  intro hfile
  have hmembers := nodup_of_fileZones hfile
  have hsome {es : List (String × ZoneEntry)} (hes : ZonesRead members es) :
      (Dict.ofList es).entries.isEmpty = false ↔ es ≠ [] := by
    rw [Dict.entries_ofList (hes.nodup_keys (fun m e h => h.name) hmembers)]
    simp
  rw [reports_bind_iff, reports_foldlM_loadZone_iff hmembers]
  apply and_congr_right'
  constructor
  · intro h es hes hne
    have hrest := h _ ((foldlM_loadZone_eq_ok_iff hmembers).mpr ⟨es, hes, rfl⟩)
    rw [reports_bind_iff] at hrest
    have hrest := hrest.2 ⟨⟩ (raiseIf_eq_ok.mpr ((hsome hes).mpr hne))
    rw [reports_bind_iff_exists not_isFault_of_fileRules] at hrest
    obtain ⟨rules, hrules, hloop⟩ := hrest
    rw [reports_bind_iff] at hloop
    exact ⟨rules, hrules, reports_foldlM_loadRule_iff.mp hloop.1⟩
  · intro h zones hzones
    obtain ⟨es, hes, rfl⟩ := (foldlM_loadZone_eq_ok_iff hmembers).mp hzones
    rw [reports_bind_iff]
    refine ⟨reports_raiseIf _ _, ?_⟩
    intro _ hne
    obtain ⟨rules, hrules, hread⟩ := h es hes ((hsome hes).mp (raiseIf_eq_ok.mp hne))
    rw [reports_bind_iff_exists not_isFault_of_fileRules]
    refine ⟨rules, hrules, ?_⟩
    rw [reports_bind_iff]
    exact ⟨reports_foldlM_loadRule_iff.mpr hread, fun _ _ => Loop.onlyRaises_pure _⟩

/-! ## Layouts -/

/-- A switch that the loader can take apart after others: its zone is looked up if its dpid is
new and it is not a core. -/
structure SwitchReadable (ss : List (String × Switch)) (s : Json) : Prop where
  object : s.isObject = true
  zone : ∀ dpid, (layoutField s "dpid").bind positiveInt? = some dpid →
    (∀ t ∈ ss, t.2.dpid ≠ dpid) → (layoutField s "core").map Json.truthy = some false →
      ∀ z, layoutField s "zone" = some z → z.hashable = true

/-- An uplink that the loader can take apart: its leaf is looked up. -/
structure UplinkReadable (link : Json) : Prop where
  object : link.isObject = true
  leaf : ∀ leaf, layoutField link "leaf" = some leaf → leaf.hashable = true

/-- A host that the loader can take apart after others: its switch is looked up if its address is
in a zone, not reserved there, and new. -/
structure HostReadable (P : Policy) (hs : List (String × Host Json)) (h : Json) : Prop where
  object : h.isObject = true
  switch : ∀ ip z e, (layoutField h "ip").bind ipAddress = some ip → zoneForIp P ip = some z →
    P.zones.get? z = some e → ip ≠ e.gateway → ip ≠ e.subnet.networkAddress →
      ip ≠ e.subnet.broadcastAddress → (∀ h' ∈ hs, h'.2.ip ≠ ip) →
        ∀ s, layoutField h "switch" = some s → s.hashable = true

/-- A turn of the loop over the switches is reported when the loader can take the switch apart. -/
theorem reports_loadSwitch_iff {zones : Dict String ZoneEntry} {ss : List (String × Switch)}
    {name : String} {s : Json} (hnodup : (ss.map Prod.fst).Nodup) :
    Reports (loadSwitch zones (switchTable ss) name s) ↔ SwitchReadable ss s := by
  have hdiffer {dpid : ℕ} : dpid ∉ (switchTable ss).2.values.map Switch.dpid ↔
      ∀ t ∈ ss, t.2.dpid ≠ dpid :=
    Dict.notMem_values_ofList_iff hnodup
  simp only [loadSwitch, reports_bind_iff, reports_get_iff, reports_orRaise, reports_raiseIf,
    orRaise_eq_ok, raiseIf_eq_ok, decide_eq_false_iff_not, hdiffer, true_and]
  constructor
  · rintro ⟨hobject, h⟩
    refine ⟨hobject, ?_⟩
    intro dpid hdpid hnew hcore z hz
    obtain ⟨d, hd, hdpid⟩ := Option.bind_eq_some_iff.mp hdpid
    obtain ⟨core, hcore, hfalse⟩ := Option.map_eq_some_iff.mp hcore
    have hturn := (h d (layoutField_eq_some_iff.mp hd) dpid hdpid ⟨⟩ hnew).2 core
      (layoutField_eq_some_iff.mp hcore)
    rw [if_neg (by simp [hfalse]), reports_bind_iff] at hturn
    have hlookup := hturn.2 z (layoutField_eq_some_iff.mp hz)
    rw [reports_bind_iff] at hlookup
    exact reports_inKeys_iff.mp hlookup.1
  · rintro ⟨hobject, h⟩
    refine ⟨hobject, ?_⟩
    intro d hd dpid hdpid _ hnew
    refine ⟨hobject, ?_⟩
    intro core hcore
    split
    · exact Loop.onlyRaises_pure _
    · rename_i hfalse
      have hzone := h dpid (by rw [layoutField_eq_some_iff.mpr hd, Option.bind_some, hdpid]) hnew
        (by rw [layoutField_eq_some_iff.mpr hcore]; simpa using hfalse)
      simp only [reports_bind_iff, reports_get_iff, reports_inKeys_iff, reports_raiseIf, hobject,
        Loop.onlyRaises_pure, implies_true, and_true, true_and]
      intro z hz
      exact hzone z (layoutField_eq_some_iff.mpr hz)

/-- A turn of the loop over the uplinks is reported when the loader can take the uplink apart. -/
theorem reports_loadUplink_iff {switches : Dict String Switch} {core : String}
    {uplinks : Dict String (Uplink Json)} {i : ℕ} {link : Json} :
    Reports (loadUplink switches core uplinks i link) ↔ UplinkReadable link := by
  simp only [loadUplink, reports_bind_iff, reports_get_iff, reports_inKeys_iff, reports_raiseIf,
    Loop.onlyRaises_pure, implies_true, and_true, true_and]
  constructor
  · rintro ⟨hobject, h⟩
    refine ⟨hobject, ?_⟩
    intro leaf hleaf
    exact (h leaf (layoutField_eq_some_iff.mp hleaf)).1
  · rintro ⟨hobject, h⟩
    refine ⟨hobject, ?_⟩
    intro leaf hleaf
    exact ⟨h leaf (layoutField_eq_some_iff.mpr hleaf), by simp [hobject]⟩

/-- A turn of the loop over the hosts is reported when the loader can take the host apart. -/
theorem reports_loadHost_iff {P : Policy} {switches : Dict String Switch} {core : String}
    {hs : List (String × Host Json)} {name : String} {h : Json}
    (hnodup : (hs.map Prod.fst).Nodup) :
    Reports (loadHost P P.zones switches core (Dict.ofList hs) name h) ↔ HostReadable P hs h := by
  simp only [loadHost, reports_bind_iff, reports_get_iff, reports_inKeys_iff, reports_orRaise,
    reports_raiseIf, orRaise_eq_ok, raiseIf_eq_ok, Bool.or_eq_false_iff, decide_eq_false_iff_not,
    Dict.notMem_values_ofList_iff hnodup, Loop.onlyRaises_pure, implies_true, and_true, true_and]
  constructor
  · rintro ⟨hobject, hread⟩
    refine ⟨hobject, ?_⟩
    intro ip z e hip hz he hgateway hnetwork hbroadcast hnew s hs
    obtain ⟨i, hi, hip⟩ := Option.bind_eq_some_iff.mp hip
    have hturn := (hread i (layoutField_eq_some_iff.mp hi) ip hip z hz).2 e he ⟨⟩
      ⟨⟨hgateway, hnetwork⟩, hbroadcast⟩ ⟨⟩ hnew
    exact (hturn.2 s (layoutField_eq_some_iff.mp hs)).1
  · rintro ⟨hobject, hswitch⟩
    refine ⟨hobject, ?_⟩
    intro i hi ip hip z hz
    obtain ⟨e, he, -⟩ := zoneForIp_mem hz
    rw [he]
    refine ⟨Loop.onlyRaises_ok e, ?_⟩
    rintro _ ⟨⟩ _ ⟨⟨hgateway, hnetwork⟩, hbroadcast⟩ _ hnew
    refine ⟨hobject, ?_⟩
    intro s hs
    have hhashable := hswitch ip z e (by rw [layoutField_eq_some_iff.mpr hi, Option.bind_some, hip])
      hz he hgateway hnetwork hbroadcast hnew s (layoutField_eq_some_iff.mpr hs)
    exact ⟨hhashable, by simp [hobject]⟩

/-- Checking the ports is always reported. -/
theorem reports_checkPortsUnique (core : String) (uplinks : Dict String (Uplink Json))
    (hosts : Dict String (Host Json)) : Reports (checkPortsUnique core uplinks hosts) := by
  rw [Reports, checkPortsUnique, Loop.onlyRaises_foldlM_iff]
  intro before a after _ used _
  obtain ⟨switch, port, what⟩ := a
  rw [checkPort]
  apply reports_bind_iff.mpr
  refine ⟨reports_orRaise _ _, ?_⟩
  intro n _
  split
  · exact reports_fault _
  · exact Loop.onlyRaises_pure _

/-- The loader accepts the switches of a file. -/
def SwitchesAccepted (zones : Dict String ZoneEntry) (raw : Json) (core : String)
    (switches : Dict String Switch) : Prop :=
  ∃ members ss, fileSwitches raw = .ok members ∧ SwitchesRead zones members ss ∧
    switchTable ss = ([core], switches)

/-- The loader accepts the uplinks of a file. -/
def UplinksAccepted (raw : Json) (core : String) (switches : Dict String Switch) : Prop :=
  ∃ links us, fileUplinks raw = .ok links ∧ UplinksRead switches core links us ∧
    ∀ name ∈ switches.keys, name ≠ core → name ∈ us.map Prod.fst

/-- **A layout file that the loader can take apart.** Each section it comes to has its shape, and
so has each entry of it that the loader comes to. -/
structure NetworkReadable (P : Policy) (raw : Json) : Prop where
  switches : ∃ members, fileSwitches raw = .ok members ∧
    ∀ before m after, members = before ++ m :: after → ∀ ss, SwitchesRead P.zones before ss →
      SwitchReadable ss m.2
  uplinks : ∀ core switches, SwitchesAccepted P.zones raw core switches →
    ∃ links, fileUplinks raw = .ok links ∧
      ∀ before link after, links = before ++ link :: after →
        ∀ us, UplinksRead switches core before us → UplinkReadable link
  hosts : ∀ core switches, SwitchesAccepted P.zones raw core switches →
    UplinksAccepted raw core switches → ∃ members, fileHosts raw = .ok members ∧
      ∀ before m after, members = before ++ m :: after →
        ∀ hs, HostsRead P P.zones switches core before hs → HostReadable P hs m.2

theorem reports_foldlM_loadSwitch_iff {zones : Dict String ZoneEntry}
    {members : List (String × Json)} (hmembers : (members.map Prod.fst).Nodup) :
    Reports (members.foldlM (fun acc m => loadSwitch zones acc m.1 m.2) ([], Dict.empty)) ↔
      ∀ before m after, members = before ++ m :: after → ∀ ss, SwitchesRead zones before ss →
        SwitchReadable ss m.2 := by
  apply Loop.onlyRaises_gather_iff switchTable rfl
  · intro pre m hpre ss hss acc
    exact loadSwitch_eq_ok_iff (hss.nodup_keys_of_prefix (fun m s h => h.name) hmembers hpre)
  · intro pre m hpre ss hss
    exact reports_loadSwitch_iff (hss.nodup_keys_of_prefix (fun m s h => h.name) hmembers hpre)

theorem reports_foldlM_loadUplink_iff {switches : Dict String Switch} {core : String}
    {links : List Json} :
    Reports (links.zipIdx.foldlM (fun uplinks l => loadUplink switches core uplinks l.2 l.1)
        Dict.empty) ↔
      ∀ before link after, links = before ++ link :: after →
        ∀ us, UplinksRead switches core before us → UplinkReadable link := by
  rw [Reports, Loop.onlyRaises_foldlM_zipIdx_iff]
  apply forall₃_congr
  intro before link after
  apply forall_congr'
  intro _
  constructor
  · intro h us hus
    exact reports_loadUplink_iff.mp (h _ (foldlM_loadUplink_eq_ok_iff.mpr ⟨us, hus, rfl⟩))
  · intro h uplinks huplinks
    obtain ⟨us, hus, -⟩ := foldlM_loadUplink_eq_ok_iff.mp huplinks
    exact reports_loadUplink_iff.mpr (h us hus)

theorem reports_foldlM_loadHost_iff {P : Policy} {switches : Dict String Switch} {core : String}
    {members : List (String × Json)} (hmembers : (members.map Prod.fst).Nodup) :
    Reports (members.foldlM (fun hosts m => loadHost P P.zones switches core hosts m.1 m.2)
        Dict.empty) ↔
      ∀ before m after, members = before ++ m :: after →
        ∀ hs, HostsRead P P.zones switches core before hs → HostReadable P hs m.2 := by
  apply Loop.onlyRaises_gather_iff Dict.ofList rfl
  · intro pre m hpre hs hhs hosts
    exact loadHost_eq_ok_iff (hhs.nodup_keys_of_prefix (fun m h hread => hread.name) hmembers hpre)
  · intro pre m hpre hs hhs
    have hnodup := hhs.nodup_keys_of_prefix (fun m h hread => hread.name) hmembers hpre
    exact reports_loadHost_iff hnodup

/-- Reading the switches is reported when the loader can take apart those it comes to. -/
theorem reports_loadSwitches_iff {raw : Json} {zones : Dict String ZoneEntry} :
    Reports (loadSwitches raw zones) ↔ ∃ members, fileSwitches raw = .ok members ∧
      ∀ before m after, members = before ++ m :: after → ∀ ss, SwitchesRead zones before ss →
        SwitchReadable ss m.2 := by
  rw [loadSwitches, ← bind_assoc, reports_bind_iff_exists not_isFault_of_get_items]
  apply exists_congr
  intro members
  apply and_congr_right
  intro hmembers
  obtain ⟨json, -, hitems⟩ := Loop.bind_eq_ok.mp hmembers
  rw [← reports_foldlM_loadSwitch_iff (nodup_of_items hitems), reports_bind_iff]
  apply and_iff_left
  rintro ⟨cores, switches⟩ -
  rcases cores with _ | ⟨core, _ | _⟩
  · exact reports_fault _
  · exact Loop.onlyRaises_pure _
  · exact reports_fault _

/-- Reading the uplinks is reported when the loader can take apart those it comes to. -/
theorem reports_loadUplinks_iff {raw : Json} {switches : Dict String Switch} {core : String} :
    Reports (loadUplinks raw switches core) ↔ ∃ links, fileUplinks raw = .ok links ∧
      ∀ before link after, links = before ++ link :: after →
        ∀ us, UplinksRead switches core before us → UplinkReadable link := by
  rw [loadUplinks, ← bind_assoc, reports_bind_iff_exists not_isFault_of_get_iter]
  apply exists_congr
  intro links
  apply and_congr_right
  intro _
  rw [← reports_foldlM_loadUplink_iff, reports_bind_iff]
  apply and_iff_left
  intro uplinks _
  apply reports_bind_iff.mpr
  exact ⟨reports_raiseIf _ _, fun _ _ => Loop.onlyRaises_pure _⟩

/-- Reading the hosts is reported when the loader can take apart those it comes to. -/
theorem reports_loadHosts_iff {P : Policy} {raw : Json} {switches : Dict String Switch}
    {core : String} : Reports (loadHosts P raw switches core P.zones) ↔
      ∃ members, fileHosts raw = .ok members ∧
        ∀ before m after, members = before ++ m :: after →
          ∀ hs, HostsRead P P.zones switches core before hs → HostReadable P hs m.2 := by
  rw [loadHosts, ← bind_assoc, reports_bind_iff_exists not_isFault_of_get_items]
  apply exists_congr
  intro members
  apply and_congr_right
  intro hmembers
  obtain ⟨json, -, hitems⟩ := Loop.bind_eq_ok.mp hmembers
  exact reports_foldlM_loadHost_iff (nodup_of_items hitems)

/-- **A layout file is accepted or reported** exactly when the loader can take it apart. -/
theorem reports_loadNetwork_iff {P : Policy} {raw : Json} :
    Reports (loadNetwork P raw P.zones) ↔ NetworkReadable P raw := by
  rw [loadNetwork, reports_bind_iff, reports_loadSwitches_iff]
  constructor
  · rintro ⟨hswitches, hrest⟩
    refine ⟨hswitches, ?_, ?_⟩
    · intro core switches hload
      have huplinks := hrest _ (loadSwitches_eq_ok_iff.mpr hload)
      exact reports_loadUplinks_iff.mp (reports_bind_iff.mp huplinks).1
    · rintro core switches hload ⟨links, us, hfile, hus, hall⟩
      have huplinks := hrest _ (loadSwitches_eq_ok_iff.mpr hload)
      have hhosts := (reports_bind_iff.mp huplinks).2 _
        (loadUplinks_eq_ok_iff.mpr ⟨links, us, hfile, hus, hall, rfl⟩)
      exact reports_loadHosts_iff.mp (reports_bind_iff.mp hhosts).1
  · rintro ⟨hswitches, huplinks, hhosts⟩
    refine ⟨hswitches, ?_⟩
    rintro ⟨core, switches⟩ hload
    have haccepted := loadSwitches_eq_ok_iff.mp hload
    apply reports_bind_iff.mpr
    refine ⟨reports_loadUplinks_iff.mpr (huplinks core switches haccepted), ?_⟩
    intro uplinks hload'
    obtain ⟨links, us, hfile, hus, hall, -⟩ := loadUplinks_eq_ok_iff.mp hload'
    apply reports_bind_iff.mpr
    refine ⟨reports_loadHosts_iff.mpr
      (hhosts core switches haccepted ⟨links, us, hfile, hus, hall⟩), ?_⟩
    intro hosts _
    apply reports_bind_iff.mpr
    exact ⟨reports_checkPortsUnique core uplinks hosts, fun _ _ => Loop.onlyRaises_pure _⟩

/-- **Which files are accepted or reported.** Whatever value a file holds, `load_policy` returns a
policy or raises a `PolicyError` exactly when it can take apart the zones and rules it comes to,
and `load_network` returns a layout or raises a `NetworkError` exactly when it can take apart the
switches, uplinks and hosts it comes to. -/
theorem reports_iff_readable (raw : Json) : (Reports (loadPolicy raw) ↔ PolicyReadable raw) ∧
    ∀ P, Reports (loadNetwork P raw P.zones) ↔ NetworkReadable P raw := by
  constructor
  · exact reports_loadPolicy_iff
  · intro P
    exact reports_loadNetwork_iff

/-- Files that are not reported: a list for the whole file, `null` for a zone or for the whole
file, and a list for a switch. -/
theorem not_reports_of_shape :
    loadPolicy (.arr []) = .error .attributeError ∧
      loadPolicy (.obj [("zones", .obj [("DeptA", .null)])]) = .error .typeError ∧
      loadNetwork policy .null policy.zones = .error .attributeError ∧
      loadNetwork policy (.obj [("switches", .obj [("s1", .arr [])])]) policy.zones =
        .error .attributeError ∧
      ¬ Reports (loadPolicy (.arr [])) ∧ ¬ Reports (loadNetwork policy .null policy.zones) := by
  refine ⟨rfl, rfl, rfl, rfl, ?_, ?_⟩
  · intro h
    obtain ⟨f, hf⟩ := h .attributeError rfl
    cases hf
  · intro h
    obtain ⟨f, hf⟩ := h .attributeError rfl
    cases hf

end ZoneSegmentation
