import ZoneSegmentation.Config.IPAddress
import ZoneSegmentation.Library.Loop
import Mathlib.Data.Finset.Insert

/-!
# Zones and firewall rules

`firewall_rules.py`: the policy file is read into a table of zones and two sets of blocked zone
pairs, and three pure functions answer from them which zone an address is in, whether a source
address may come from a zone, and whether the rules allow one zone to send to another.

## Main definitions

* `Policy`: `ZONES`, `BLOCK_ALL_IP` and `BLOCK_ICMP`
* `loadPolicy`: `load_policy`, with the exception of a file it does not accept
* `zoneForIp`, `sourceIpValidForZone`, `firewallAllowed`: the classifier, the anti-spoofing check
  and the stateless verdict
* `policyJson`, `policy`: the policy file of the repository, and its tables

## Main results

* `loadPolicy_zone_ok`: the zones of an accepted policy
* `zoneForIp_mem`: a classified address lies in the subnet of a zone of the table
* `sourceIpValidForZone_iff`: the anti-spoofing check, as its three conditions
-/

namespace ZoneSegmentation

/-- What `ZONES` holds for a zone. -/
structure ZoneEntry where
  subnet : IPNetwork
  gateway : IPAddress
  gatewayMac : String
  deriving DecidableEq

/-- The tables of a policy: `ZONES`, `BLOCK_ALL_IP` and `BLOCK_ICMP`. -/
structure Policy where
  zones : Dict String ZoneEntry
  blockAllIp : Finset (String × String)
  blockIcmp : Finset (String × String)
  deriving DecidableEq

/-- What is wrong with a policy file; the message of each `PolicyError` names these. -/
inductive PolicyFault where
  /-- `zone {}: bad subnet or gateway: {}` -/
  | badAddress (zone : String)
  /-- `zone {}: gateway {} is outside {}` -/
  | gatewayOutside (zone : String) (gateway : IPAddress) (subnet : IPNetwork)
  /-- `zone {}: bad gateway_mac {!r}` -/
  | badGatewayMac (zone mac : String)
  /-- `zones {} and {} overlap` -/
  | overlap (other zone : String)
  /-- `zones {} and {} share gateway_mac {}` -/
  | sharedGatewayMac (other zone mac : String)
  /-- `{}: no zones defined` -/
  | noZones
  /-- `rule {}: block must be one of {}`, by the rule's place in the file -/
  | badBlock (rule : ℕ)
  /-- `rule {}: "{}" needs known zones, got {}`, by the rule's place in the file -/
  | unknownZones (rule : ℕ) (field : String)
  /-- `zone name {!r} must be a C++ identifier and not one of {}`, of the header generator -/
  | badZoneName (zone : String)
  deriving DecidableEq

/-! ## Reading the file -/

/-- `[0-9a-f]{2}`. -/
def hexPair (a b : Char) : Bool :=
  let hex (c : Char) : Bool := ('0' ≤ c && c ≤ '9') || ('a' ≤ c && c ≤ 'f')
  hex a && hex b

/-- `([0-9a-f]{2}:){n}[0-9a-f]{2}$`; the `$` also matches before a newline that ends the text. -/
def matchMacGroups : ℕ → List Char → Bool
  | n + 1, a :: b :: ':' :: cs => hexPair a b && matchMacGroups n cs
  | 0, [a, b] => hexPair a b
  | 0, [a, b, '\n'] => hexPair a b
  | _, _ => false

/-- `_MAC_RE.match`. -/
def matchMac (mac : String) : Bool := matchMacGroups 5 mac.toList

/-- `str(z.get('gateway_mac', '')).lower()`. The text of a value that is not a string has no
colon-separated groups, so it is not a MAC address; which text it is does not matter, and
neither does lower-casing outside ASCII, which never gives a hexadecimal digit or a colon. -/
def gatewayMacText : Json → String
  | .str s => s.toLower
  | _ => ""

/-- One turn of the loop over the zones of the file. -/
def loadZone (zones : Dict String ZoneEntry) (name : String) (z : Json) :
    Except (PyError PolicyFault) (Dict String ZoneEntry) := do
  let badAddress : PyError PolicyFault := .fault (.badAddress name)
  -- a missing key and a text that is no address are reported, a wrong type is not caught
  let read (key : String) : Except (PyError PolicyFault) Json :=
    match z.subscript key with
    | .error .keyError => .error badAddress
    | r => r
  let subnet ← orRaise (ipNetwork (← read "subnet")) badAddress
  let gateway ← orRaise (ipAddress (← read "gateway")) badAddress
  raiseIf (!subnet.contains gateway) (.fault (.gatewayOutside name gateway subnet))
  let mac := gatewayMacText (← z.get "gateway_mac" (.str ""))
  raiseIf (!matchMac mac) (.fault (.badGatewayMac name mac))
  for (other, oz) in zones.entries do
    raiseIf (subnet.overlaps oz.subnet) (.fault (.overlap other name))
    raiseIf (mac = oz.gatewayMac) (.fault (.sharedGatewayMac other name mac))
  return zones.set name { subnet, gateway, gatewayMac := mac }

/-- The zones a rule lists under `from` or `to`, all of them known. -/
def ruleZones (zones : Dict String ZoneEntry) (i : ℕ) (rule : Json) (field : String) :
    Except (PyError PolicyFault) (List String) := do
  let listed ← (← rule.get field (.arr [])).iter
  let known ← listed.mapM fun z => z.inKeys zones
  let value ← rule.get field .null
  raiseIf (known.any (!·) || !value.truthy) (.fault (.unknownZones i field))
  return listed.filterMap Json.str?

/-- One turn of the loop over the rules of the file. -/
def loadRule (zones : Dict String ZoneEntry)
    (blocks : Finset (String × String) × Finset (String × String)) (i : ℕ) (rule : Json) :
    Except (PyError PolicyFault) (Finset (String × String) × Finset (String × String)) := do
  let block ← rule.get "block" .null
  let sources ← if block.str? = some "all" ∨ block.str? = some "icmp"
    then ruleZones zones i rule "from" else .error (.fault (.badBlock i))
  let targets ← ruleZones zones i rule "to"
  let pairs := (sources.product targets).toFinset
  return if block.str? = some "all" then (blocks.1 ∪ pairs, blocks.2)
    else (blocks.1, blocks.2 ∪ pairs)

/-- `load_policy`, on the value `json.load` returns. -/
def loadPolicy (raw : Json) : Except (PyError PolicyFault) Policy := do
  let zones ← (← (← raw.get "zones" (.obj [])).items).foldlM
    (fun zones (name, z) => loadZone zones name z) Dict.empty
  raiseIf zones.entries.isEmpty (.fault .noZones)
  let rules ← (← raw.get "rules" (.arr [])).iter
  let (blockAllIp, blockIcmp) ← rules.zipIdx.foldlM
    (fun blocks (rule, i) => loadRule zones blocks i rule) (∅, ∅)
  return { zones, blockAllIp, blockIcmp }

/-- What one turn of the loop over the zones does: the gateway is in the subnet, and the text of
its MAC address is well formed. -/
theorem loadZone_eq_ok {zones zones' : Dict String ZoneEntry} {name : String} {z : Json}
    (h : loadZone zones name z = .ok zones') :
    ∃ entry, zones' = zones.set name entry ∧ entry.subnet.contains entry.gateway = true ∧
      matchMac entry.gatewayMac = true := by
  simp only [loadZone, Loop.bind_eq_ok, raiseIf_eq_ok, orRaise_eq_ok, Bool.not_eq_false'] at h
  obtain ⟨_, -, subnet, -, _, -, gateway, -, -, hgateway, _, -, -, hmac, -, -, h⟩ := h
  cases h
  exact ⟨_, rfl, hgateway, hmac⟩

/-- The gateway of every zone of an accepted policy is in its subnet, and has a MAC address. -/
theorem loadPolicy_zone_ok {raw : Json} {P : Policy} (h : loadPolicy raw = .ok P) {name : String}
    {entry : ZoneEntry} (hentry : P.zones.get? name = some entry) :
    entry.subnet.contains entry.gateway = true ∧ matchMac entry.gatewayMac = true := by
  simp only [loadPolicy, Loop.bind_eq_ok] at h
  obtain ⟨_, -, members, -, zones, hzones, -, -, _, -, rules, -, blocks, -, h⟩ := h
  cases h
  refine Loop.invariant_of_foldlM_eq_ok (I := fun zones => ∀ name entry,
    zones.get? name = some entry → entry.subnet.contains entry.gateway = true ∧
      matchMac entry.gatewayMac = true)
    hzones nofun (fun zones e _ zones' hinv hstep name entry hentry => ?_) name entry hentry
  obtain ⟨new, rfl, hnew⟩ := loadZone_eq_ok hstep
  rcases Dict.get?_set_eq_some.mp hentry with ⟨-, rfl⟩ | ⟨-, hentry⟩
  · exact hnew
  · exact hinv name entry hentry

/-! ## Verdicts -/

variable (P : Policy)

/-- `zone_for_ip`: the first zone whose subnet holds the address. -/
def zoneForIp (ip : IPAddress) : Option String :=
  (P.zones.entries.find? fun (_, zone) => zone.subnet.contains ip).map Prod.fst

/-- `source_ip_valid_for_zone`. -/
def sourceIpValidForZone (srcIp : IPAddress) (ingressZone : String) : Bool :=
  match P.zones.get? ingressZone with
  | none => false
  | some zone => if srcIp = zone.gateway then false else zoneForIp P srcIp = some ingressZone

/-- `firewall_allowed`; `none` is the zone of an address outside every zone. -/
def firewallAllowed (srcZone dstZone : Option String) (isIcmp : Bool) : Bool :=
  match srcZone, dstZone with
  | some src, some dst =>
    if !P.zones.contains src || !P.zones.contains dst then false
    else if (src, dst) ∈ P.blockAllIp then false
    else if isIcmp && (src, dst) ∈ P.blockIcmp then false
    else true
  | _, _ => false

variable {P}

/-- A classified address lies in the subnet of a zone of the table. -/
theorem zoneForIp_mem {ip : IPAddress} {z : String} (h : zoneForIp P ip = some z) :
    ∃ zone, P.zones.get? z = some zone ∧ zone.subnet.contains ip = true := by
  obtain ⟨⟨z', zone⟩, hfind, rfl⟩ := Option.map_eq_some_iff.mp h
  exact ⟨zone, Dict.get?_eq_some_iff.mpr (List.mem_of_find?_eq_some hfind),
    List.find?_some (p := fun e : String × ZoneEntry => e.2.subnet.contains ip) hfind⟩

theorem mem_keys_of_zoneForIp {ip : IPAddress} {z : String} (h : zoneForIp P ip = some z) :
    z ∈ P.zones.keys := by
  obtain ⟨zone, hzone, -⟩ := zoneForIp_mem h
  exact Dict.mem_keys_iff.mpr ⟨zone, hzone⟩

/-- The anti-spoofing check: the zone is known, the address is in it, and is not its gateway. -/
theorem sourceIpValidForZone_iff {ip : IPAddress} {z : String} :
    sourceIpValidForZone P ip z = true ↔
      zoneForIp P ip = some z ∧ ∃ zone, P.zones.get? z = some zone ∧ ip ≠ zone.gateway := by
  unfold sourceIpValidForZone
  cases hz : P.zones.get? z with
  | none =>
    simp only [Bool.false_eq_true, false_iff, not_and]
    intro h
    obtain ⟨zone, hzone, -⟩ := zoneForIp_mem h
    simp [hz] at hzone
  | some zone =>
    by_cases hg : ip = zone.gateway <;> simp [hg]

/-! ## The policy of the repository -/

/-- A zone of `policy.json`. -/
def zoneJson (subnet gateway gatewayMac : String) : Json :=
  .obj [("subnet", .str subnet), ("gateway", .str gateway), ("gateway_mac", .str gatewayMac)]

/-- A rule of `policy.json`, without its description. -/
def ruleJson (rule : ℤ) (sources targets : List String) (block : String) : Json :=
  .obj [("rule", .int rule), ("from", .arr (sources.map .str)), ("to", .arr (targets.map .str)),
    ("block", .str block)]

/-- `policy.json`. -/
def policyJson : Json := .obj [
  ("zones", .obj [
    ("DeptA", zoneJson "10.1.1.0/24" "10.1.1.1" "02:00:00:00:00:01"),
    ("DeptB", zoneJson "10.1.2.0/24" "10.1.2.1" "02:00:00:00:00:02"),
    ("DataCenter", zoneJson "10.1.3.0/24" "10.1.3.1" "02:00:00:00:00:03"),
    ("Trust", zoneJson "192.47.38.0/24" "192.47.38.1" "02:00:00:00:00:04"),
    ("Untrust", zoneJson "108.35.24.0/24" "108.35.24.1" "02:00:00:00:00:05")]),
  ("rules", .arr [
    ruleJson 1 ["Untrust"] ["DataCenter"] "all",
    ruleJson 2 ["Untrust"] ["DeptA", "DeptB", "DataCenter"] "icmp",
    ruleJson 3 ["Trust"] ["DataCenter"] "all",
    ruleJson 4 ["Trust"] ["DeptB"] "icmp",
    ruleJson 6 ["DeptA"] ["DeptB"] "icmp",
    ruleJson 6 ["DeptB"] ["DeptA"] "icmp",
    ruleJson 7 ["DataCenter"] ["Trust", "Untrust"] "all"])]

/-- A zone of 256 IPv4 addresses. -/
def zoneOf24 (network gateway : BitVec 32) (gatewayMac : String)
    (aligned : network &&& Cidr.mask 32 24 = network) : ZoneEntry where
  subnet := .v4 ⟨network, 24, by decide, aligned⟩
  gateway := .v4 gateway
  gatewayMac := gatewayMac

/-- The tables of `policy.json`. -/
def policy : Policy where
  zones := ⟨[
    ("DeptA", zoneOf24 0x0A010100 0x0A010101 "02:00:00:00:00:01" (by decide)),
    ("DeptB", zoneOf24 0x0A010200 0x0A010201 "02:00:00:00:00:02" (by decide)),
    ("DataCenter", zoneOf24 0x0A010300 0x0A010301 "02:00:00:00:00:03" (by decide)),
    ("Trust", zoneOf24 0xC02F2600 0xC02F2601 "02:00:00:00:00:04" (by decide)),
    ("Untrust", zoneOf24 0x6C231800 0x6C231801 "02:00:00:00:00:05" (by decide))], by decide⟩
  blockAllIp := {("Untrust", "DataCenter"), ("Trust", "DataCenter"), ("DataCenter", "Trust"),
    ("DataCenter", "Untrust")}
  blockIcmp := {("Untrust", "DeptA"), ("Untrust", "DeptB"), ("Untrust", "DataCenter"),
    ("Trust", "DeptB"), ("DeptA", "DeptB"), ("DeptB", "DeptA")}

theorem loadPolicy_policyJson : loadPolicy policyJson = .ok policy :=
  Loop.eq_ok_of_toOption (by decide +kernel)

end ZoneSegmentation
