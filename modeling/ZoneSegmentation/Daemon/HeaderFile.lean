import ZoneSegmentation.Library.Newlines
import ZoneSegmentation.Daemon.Canonical
import ZoneSegmentation.Daemon.Spelling

/-!
# The header file

The generator writes its header as a text file, and with an output file only if the text of that
file is another one. The text is a function of the policy: it does not depend on the order in which
the block sets are enumerated. But the file is written as it is and read with its newlines
translated, so that a carriage return, in the name of the policy file or in the scope of an IPv6
subnet, makes every run write the file again.

## Main definitions

* `headerText`: the text of a header
* `main`: what a run of the generator writes
* `CanonicalHeader`: policies whose header is a function of the zones and the set of rules, and is
  written once

## Main results

* `exists_render_iff`: which policies have a header
* `noReturn_headerText_iff`: which headers have a carriage return
* `canonicalHeader_iff`: an accepted policy has a canonical header exactly when its header has no
  carriage return
-/

namespace ZoneSegmentation

open Newlines

/-! ## The text -/

/-- `0x{:08X}u`: at least eight hexadecimal digits, in upper case. -/
def hexLiteral (n : ℕ) : String :=
  let digits := (Nat.toDigits 16 n).map Char.toUpper
  "0x" ++ String.ofList (List.replicate (8 - digits.length) '0' ++ digits) ++ "u"

/-- A row of a block table. -/
def pairLine (p : String × String) : String :=
  "    \x7bZone::" ++ p.1 ++ ", Zone::" ++ p.2 ++ "\x7d,\n"

/-- The array of a block table, and its count. -/
def blockText (name : String) (b : BlockTable) : String :=
  let body := String.join (b.rows.map pairLine)
  let decl :=
    if b.rows.isEmpty then "const std::pair<Zone, Zone> " ++ name ++ "[1] = \x7b\x7d;\n"
    else "const std::pair<Zone, Zone> " ++ name ++ "[] = \x7b\n" ++ body ++ "\x7d;\n"
  decl ++ "constexpr size_t " ++ name ++ "Count = " ++ toString b.count ++ ";\n"

/-- The row of a zone, with its subnet as a comment. -/
def zoneLine (row : ZoneRow) (subnet : IPNetwork) : String :=
  "    \x7bZone::" ++ row.zone ++ ", " ++ hexLiteral row.network ++ ", " ++
    toString row.prefixLen ++ ", \"" ++ row.name ++ "\"\x7d,  // " ++ subnet.text ++ "\n"

/-- The text of a header, generated from the file `source`. -/
def headerText (source : String) (zones : Dict String ZoneEntry) (hdr : PolicyHeader) : String :=
  String.join [
    "// GENERATED by tools/gen_policy_header.py from ", source, " -- do not edit.\n",
    "// Change ", source, " instead; `make -C cpp` regenerates this file.\n",
    "#pragma once\n",
    "\n",
    "#include <cstddef>\n",
    "#include <cstdint>\n",
    "#include <utility>\n",
    "\n",
    "namespace \x7b\n",
    "\n",
    "enum class Zone : uint8_t \x7b ", ", ".intercalate hdr.enum, ", Unknown \x7d;\n",
    "\n",
    "struct SubnetZone \x7b\n",
    "    Zone zone;\n",
    "    uint32_t network;    // host byte order\n",
    "    uint32_t prefix_len;\n",
    "    const char* name;    // for logging only\n",
    "\x7d;\n",
    "\n",
    "const SubnetZone kZones[] = \x7b\n",
    String.join (zones.entries.map fun e => zoneLine (zoneRow e.1 e.2) e.2.subnet),
    "\x7d;\n",
    "\n",
    blockText "kBlockAllIp" hdr.kBlockAllIp,
    "\n",
    blockText "kBlockIcmp" hdr.kBlockIcmp,
    "\n",
    "\x7d  // namespace\n"]

/-! ## Runs of the generator -/

/-- `render(*load_policy(args.policy), source=…)`, with the block sets in the order they are
enumerated. -/
def generate (raw : Json) (source : String) (all icmp : List (String × String)) :
    Except (PyError PolicyFault) String := do
  let P ← loadPolicy raw
  let hdr ← render P.zones all icmp
  return headerText source P.zones hdr

/-- The text that is written to the output file, unless the file is read as that text. -/
def writeIfChanged (header : String) (file : Option String) : Option String :=
  match file with
  | some content => if readText content = header then none else some header
  | none => some header

/-- `main` with an output file, which may not exist: the text that it writes, if it writes. -/
def main (raw : Json) (source : String) (all icmp : List (String × String))
    (file : Option String) : Except (PyError PolicyFault) (Option String) := do
  let header ← generate raw source all icmp
  return writeIfChanged header file

/-- Policies whose header is canonical: rendered alike for every order of the block sets, with the
tables of these sets, alike for policy files that list the rules in another way, and written by no
run after one that wrote or kept it. -/
structure CanonicalHeader (raw : Json) (P : Policy) (source : String) : Prop where
  orders : ∀ o o' : BlockOrders P, render P.zones o.all o.icmp = render P.zones o'.all o'.icmp
  tables : ∀ (o : BlockOrders P) hdr, render P.zones o.all o.icmp = .ok hdr →
    TableOf P.zones.keys P.blockAllIp hdr.kBlockAllIp ∧
      TableOf P.zones.keys P.blockIcmp hdr.kBlockIcmp
  rules : ∀ raw', RulesReordered raw raw' → ∀ o o' : BlockOrders P,
    generate raw' source o'.all o'.icmp = generate raw source o.all o.icmp
  kept : ∀ raw', RulesReordered raw raw' → ∀ (o o' : BlockOrders P) file written,
    main raw source o.all o.icmp file = .ok written →
      main raw' source o'.all o'.icmp (written.or file) = .ok none

/-- A header with a carriage return is written over itself. -/
theorem writeIfChanged_of_return {header : String} (h : ¬ NoReturn header) :
    writeIfChanged header (some header) = some header := by
  rw [writeIfChanged, if_neg]
  intro hread
  exact h (readText_eq_self_iff.mp hread)

/-- What is left after a run is not written again if it is read as it was written. -/
theorem writeIfChanged_again {header : String} (h : NoReturn header) (file : Option String) :
    writeIfChanged header ((writeIfChanged header file).or file) = none := by
  have hread : readText header = header := readText_eq_self_iff.mpr h
  cases file with
  | none =>
    show (if readText header = header then none else some header) = none
    rw [if_pos hread]
  | some content =>
    by_cases hsame : readText content = header
    · simp only [writeIfChanged, if_pos hsame, Option.none_or]
    · simp only [writeIfChanged, if_neg hsame, Option.some_or, if_pos hread]

/-- A file that was just written is kept only if it is read as it was written. -/
theorem noReturn_of_writeIfChanged {header : String}
    (h : writeIfChanged header (some header) = none) : NoReturn header := by
  by_contra hreturn
  rw [writeIfChanged_of_return hreturn] at h
  cases h

/-! ## Carriage returns -/

/-- A network whose scope, if it has one, is free of carriage returns. -/
def ScopeNoReturn (net : IPNetwork) : Prop := ∀ scope ∈ net.scopeId, NoReturn scope

instance (net : IPNetwork) : Decidable (ScopeNoReturn net) :=
  inferInstanceAs (Decidable (∀ scope ∈ net.scopeId, NoReturn scope))

theorem not_mem_toDigits (n : ℕ) : '\r' ∉ Nat.toDigits 16 n := by
  intro hmem
  exact forall_mem_toDigits (p := fun c => c ≠ '\r') (by decide) (by decide) n _ hmem rfl

theorem noReturn_hexLiteral (n : ℕ) : NoReturn (hexLiteral n) := by
  have hdigits : '\r' ∉ (Nat.toDigits 16 n).map Char.toUpper := by
    intro hmem
    obtain ⟨c, hc, hupper⟩ := List.mem_map.mp hmem
    exact forall_mem_toDigits (p := fun c => c.toUpper ≠ '\r') (by decide) (by decide) n c hc
      hupper
  have hpadded (k : ℕ) : '\r' ∉ List.replicate k '0' ++ (Nat.toDigits 16 n).map Char.toUpper := by
    rw [List.mem_append, not_or]
    exact ⟨fun hmem => absurd (List.eq_of_mem_replicate hmem) (by decide), hdigits⟩
  rw [hexLiteral, noReturn_append, noReturn_append]
  exact ⟨⟨by decide, noReturn_ofList.mpr (hpadded _)⟩, by decide⟩

theorem noReturn_ipv4Text (n : ℕ) : NoReturn (ipv4Text n) := by
  apply noReturn_intercalate (by decide)
  intro octet hoctet
  obtain ⟨i, -, rfl⟩ := List.mem_map.mp hoctet
  exact noReturn_repr _

/-- The hextets that are left by the compression, and the empty parts it puts in. -/
theorem mem_compressHextets {hextets : List (List Char)} {hextet : List Char}
    (h : hextet ∈ compressHextets hextets) : hextet = [] ∨ hextet ∈ hextets := by
  rw [compressHextets] at h
  obtain ⟨start, len⟩ := longestZeros hextets
  dsimp only at h
  split at h
  · simp only [List.mem_append] at h
    have hempty {b : Prop} [Decidable b] (hmem : hextet ∈ if b then [[]] else []) :
        hextet = [] := by
      split at hmem
      · exact List.mem_singleton.mp hmem
      · cases hmem
    rcases h with (((h | h) | h) | h) | h
    · exact .inl (hempty h)
    · exact .inr (List.mem_of_mem_take h)
    · exact .inl (List.mem_singleton.mp h)
    · exact .inr (List.mem_of_mem_drop h)
    · exact .inl (hempty h)
  · exact .inr h

theorem noReturn_ipv6Text (n : ℕ) : NoReturn (ipv6Text n) := by
  rw [ipv6Text, noReturn_ofList]
  apply not_mem_intercalate (by decide)
  intro hextet hhextet
  rcases mem_compressHextets hhextet with rfl | hmem
  · exact List.not_mem_nil
  · obtain ⟨i, -, rfl⟩ := List.mem_map.mp hmem
    exact not_mem_toDigits _

/-- Only the scope of a network may have a carriage return. -/
theorem noReturn_text_iff (net : IPNetwork) : NoReturn net.text ↔ ScopeNoReturn net := by
  have hslash : NoReturn "/" := by decide
  have hpercent : NoReturn "%" := by decide
  rw [IPNetwork.text, noReturn_append, noReturn_append, and_iff_left (noReturn_repr _),
    and_iff_left hslash]
  rcases net with b | ⟨b, _ | scope⟩
  · show NoReturn (ipv4Text b.network.toNat) ↔ ∀ scope ∈ none, NoReturn scope
    exact iff_of_true (noReturn_ipv4Text _) nofun
  · show NoReturn (ipv6Text b.network.toNat) ↔ ∀ scope ∈ none, NoReturn scope
    exact iff_of_true (noReturn_ipv6Text _) nofun
  · show NoReturn (ipv6Text b.network.toNat ++ "%" ++ scope) ↔
      ∀ s ∈ some scope, NoReturn s
    rw [noReturn_append, noReturn_append, and_iff_right ⟨noReturn_ipv6Text _, hpercent⟩]
    simp

/-- A name that is accepted has no carriage return: it is an identifier, up to a newline. -/
theorem noReturn_of_matchIdentifier {name : String} (h : matchIdentifier name = true) :
    NoReturn name := by
  have hidentifier {t : String} (ht : IsIdentifier t) : NoReturn t := by
    intro hmem
    have hword := ht.all '\r' hmem
    revert hword
    decide
  rcases matchIdentifier_iff.mp h with hname | ⟨t, ht, rfl⟩
  · exact hidentifier hname
  · rw [noReturn_append]
    exact ⟨hidentifier ht, by decide⟩

/-- The zones of the rows of a table have positions. -/
theorem mem_keys_of_pairs {order : List String} {table : List (String × String)} {b : BlockTable}
    (h : pairs order table = .ok b) : ∀ p ∈ b.rows, Positioned order p := by
  intro p hp
  have hmem := (pairs_eq_ok h).1.mem_iff.mp hp
  rw [pairs] at h
  split at h
  · rename_i hall
    have hin := List.all_eq_true.mp hall p hmem
    simpa [Positioned] using hin
  · cases h

theorem noReturn_blockText {name : String} (hname : NoReturn name) {b : BlockTable}
    (hrows : ∀ p ∈ b.rows, NoReturn p.1 ∧ NoReturn p.2) : NoReturn (blockText name b) := by
  have hcount := noReturn_repr b.count
  have hbody : NoReturn (String.join (b.rows.map pairLine)) := by
    rw [noReturn_join]
    intro line hline
    obtain ⟨p, hp, rfl⟩ := List.mem_map.mp hline
    obtain ⟨hsrc, hdst⟩ := hrows p hp
    simp only [pairLine, noReturn_append, hsrc, hdst, and_true]
    and_intros <;> decide
  simp only [blockText]
  split
  · simp only [noReturn_append, hname, hcount, and_true]
    and_intros <;> decide
  · simp only [noReturn_append, hname, hbody, hcount, and_true]
    and_intros <;> decide

theorem noReturn_zoneLine_iff {name : String} (hname : NoReturn name) {z : ZoneEntry} :
    NoReturn (zoneLine (zoneRow name z) z.subnet) ↔ ScopeNoReturn z.subnet := by
  constructor
  · intro h
    unfold zoneLine at h
    simp only [noReturn_append] at h
    exact (noReturn_text_iff z.subnet).mp h.1.2
  · intro h
    have hsubnet := (noReturn_text_iff z.subnet).mpr h
    have hnumber := noReturn_hexLiteral (networkNumber z.subnet)
    have hprefixlen := noReturn_repr z.subnet.prefixlen
    unfold zoneLine zoneRow
    simp only [noReturn_append, hname, hnumber, hprefixlen, hsubnet, and_true]
    and_intros <;> decide

/-- **Which headers have a carriage return**: of a header that was rendered, only the name of the
policy file and the scopes of the subnets may have one. -/
theorem noReturn_headerText_iff {source : String} {zones : Dict String ZoneEntry}
    {all icmp : List (String × String)} {hdr : PolicyHeader}
    (hr : render zones all icmp = .ok hdr) :
    NoReturn (headerText source zones hdr) ↔
      NoReturn source ∧ ∀ e ∈ zones.entries, ScopeNoReturn e.2.subnet := by
  obtain ⟨henum, -, hall, hicmp⟩ := render_eq_ok hr
  have hnames : ∀ name ∈ zones.keys, NoReturn name := by
    intro name hname
    exact noReturn_of_matchIdentifier (names_of_render hr hname).1
  have hlist : NoReturn (", ".intercalate hdr.enum) := by
    rw [henum]
    exact noReturn_intercalate (by decide) hnames
  have hrows : NoReturn (String.join
      (zones.entries.map fun e => zoneLine (zoneRow e.1 e.2) e.2.subnet)) ↔
      ∀ e ∈ zones.entries, ScopeNoReturn e.2.subnet := by
    rw [noReturn_join, List.forall_mem_map]
    apply forall₂_congr
    intro e he
    exact noReturn_zoneLine_iff (hnames e.1 (List.mem_map_of_mem he))
  -- the rows of a block table are pairs of names
  have htable (name : String) (hname : NoReturn name) {table : List (String × String)}
      {b : BlockTable} (hb : pairs zones.keys table = .ok b) :
      NoReturn (blockText name b) := by
    apply noReturn_blockText hname
    intro p hp
    obtain ⟨hsrc, hdst⟩ := mem_keys_of_pairs hb p hp
    exact ⟨hnames _ hsrc, hnames _ hdst⟩
  have hblockAll := htable "kBlockAllIp" (by decide) hall
  have hblockIcmp := htable "kBlockIcmp" (by decide) hicmp
  rw [headerText, noReturn_join]
  constructor
  · intro h
    exact ⟨h source (by simp), hrows.mp (h _ (by simp))⟩
  · rintro ⟨hsource, hscopes⟩
    have hzones := hrows.mpr hscopes
    simp only [List.forall_mem_cons, hsource, hlist, hzones, hblockAll, hblockIcmp, true_and]
    and_intros <;> decide

/-! ## Canonical headers -/

section

variable {raw : Json} {P : Policy} (h : loadPolicy raw = .ok P)

include h

/-- **Which policies have a header**: those whose names are identifiers that are not reserved. -/
theorem exists_render_iff (o : BlockOrders P) : (∃ hdr, render P.zones o.all o.icmp = .ok hdr) ↔
    ∀ name ∈ P.zones.keys, matchIdentifier name = true ∧ name ∉ reserved := by
  constructor
  · rintro ⟨hdr, hr⟩ name hname
    exact names_of_render hr hname
  · intro hnames
    obtain ⟨hinAll, hinIcmp⟩ := positioned_of_loadPolicy h
    obtain ⟨b, hb, -⟩ := pairs_of_enumerates o.all_enumerates hinAll
    obtain ⟨b', hb', -⟩ := pairs_of_enumerates o.icmp_enumerates hinIcmp
    have hloop : (forIn P.zones.keys PUnit.unit fun name _ => do
        raiseIf (!matchIdentifier name || name ∈ reserved) (.fault (.badZoneName name))
        pure (.yield PUnit.unit)) = (.ok PUnit.unit : Except (PyError PolicyFault) PUnit) := by
      rw [Loop.forIn_eq_ok]
      · intro name hname
        obtain ⟨hmatch, hreserved⟩ := hnames name hname
        simp [raiseIf, hmatch, hreserved]
      · intro name r hr
        obtain ⟨_, -, hr⟩ := Loop.bind_eq_ok.mp hr
        exact (Except.ok.inj hr).symm
    refine ⟨⟨P.zones.keys, P.zones.entries.map fun e => zoneRow e.1 e.2, b, b'⟩, ?_⟩
    rw [render]
    simp only [hloop, hb, hb', Loop.ok_bind]
    rfl

/-- What is generated from a policy file that is accepted. -/
theorem generate_of_loadPolicy (source : String) (all icmp : List (String × String)) :
    generate raw source all icmp =
      (render P.zones all icmp).map (headerText source P.zones) := by
  rw [generate, h, Loop.ok_bind]
  cases render P.zones all icmp <;> rfl

/-- The text of the header does not depend on the order of the rules or of the block sets. -/
theorem generate_congr {raw' : Json} (hre : RulesReordered raw raw') (source : String)
    (o o' : BlockOrders P) :
    generate raw' source o'.all o'.icmp = generate raw source o.all o.icmp := by
  rw [generate_of_loadPolicy (loadPolicy_of_rulesReordered h hre), generate_of_loadPolicy h,
    render_congr h o o']

/-- A canonical header has no carriage return: a first run writes it, and a second one keeps it. -/
theorem CanonicalHeader.noReturn {source : String} (hcanonical : CanonicalHeader raw P source)
    (o : BlockOrders P) {header : String}
    (hgenerate : generate raw source o.all o.icmp = .ok header) : NoReturn header := by
  have hfirst : main raw source o.all o.icmp none = .ok (some header) := by
    rw [main, hgenerate]
    rfl
  have hsecond := hcanonical.kept raw (RulesReordered.refl h) o o none _ hfirst
  rw [main, hgenerate] at hsecond
  exact noReturn_of_writeIfChanged (Except.ok.inj hsecond)

/-- **An accepted policy has a canonical header exactly when its header has no carriage return**:
when a name of a zone keeps it from having a header, or neither the name of the policy file nor the
scope of a subnet has a carriage return. -/
theorem canonicalHeader_iff (source : String) : CanonicalHeader raw P source ↔
    ((∀ name ∈ P.zones.keys, matchIdentifier name = true ∧ name ∉ reserved) →
      NoReturn source ∧ ∀ e ∈ P.zones.entries, ScopeNoReturn e.2.subnet) := by
  constructor
  · intro hcanonical hnames
    obtain ⟨o⟩ := exists_blockOrders P
    obtain ⟨hdr, hr⟩ := (exists_render_iff h o).mpr hnames
    rw [← noReturn_headerText_iff hr]
    apply hcanonical.noReturn h o
    rw [generate_of_loadPolicy h, hr]
    rfl
  · intro hcondition
    refine ⟨render_congr h, fun o hdr => tableOf_of_render h o, ?_, ?_⟩
    · intro raw' hre o o'
      exact generate_congr h hre source o o'
    · intro raw' hre o o' file written hwritten
      rw [main, Loop.bind_eq_ok] at hwritten
      obtain ⟨header, hheader, hwritten⟩ := hwritten
      obtain rfl := Except.ok.inj hwritten
      rw [main, generate_congr h hre source o o', hheader, Loop.ok_bind]
      rw [generate_of_loadPolicy h] at hheader
      -- there is a header, so that every name is accepted
      cases hr : render P.zones o.all o.icmp with
      | error e =>
        rw [hr] at hheader
        cases hheader
      | ok hdr =>
        rw [hr] at hheader
        obtain rfl := Except.ok.inj hheader
        have hnames := (exists_render_iff h o).mp ⟨hdr, hr⟩
        have hnoReturn := (noReturn_headerText_iff hr).mpr (hcondition hnames)
        exact congrArg Except.ok (writeIfChanged_again hnoReturn file)

end

/-- The header of the repository's policy is canonical. -/
theorem canonicalHeader_policyJson : CanonicalHeader policyJson policy "policy.json" :=
  (canonicalHeader_iff loadPolicy_policyJson "policy.json").mpr fun _ =>
    ⟨by decide, by decide +kernel⟩

/-- A policy whose subnet has a carriage return as its scope. -/
def returnScopeJson : Json :=
  .obj [("zones", .obj [("DeptA", zoneJson "fe80::%\r/64" "fe80::1" "02:00:00:00:00:01")])]

/-- The tables of that file. -/
def returnScope : Policy where
  zones := ⟨[("DeptA",
    ⟨.v6 ⟨0xFE80 <<< 112, 64, by decide, by decide⟩ (some "\r"), .v6 (0xFE80 <<< 112 + 1) none,
      "02:00:00:00:00:01"⟩)], by simp⟩
  blockAllIp := ∅
  blockIcmp := ∅

/-- The header of that policy. -/
def returnScopeHeader : PolicyHeader where
  enum := ["DeptA"]
  kZones := [⟨"DeptA", 0xFE80 <<< 112, 64, "DeptA"⟩]
  kBlockAllIp := ⟨[], 0⟩
  kBlockIcmp := ⟨[], 0⟩

theorem loadPolicy_returnScopeJson : loadPolicy returnScopeJson = .ok returnScope :=
  Loop.eq_ok_of_toOption (by decide +kernel)

theorem render_returnScope : render returnScope.zones [] [] = .ok returnScopeHeader :=
  Loop.eq_ok_of_toOption (by decide +kernel)

theorem not_noReturn_returnScope :
    ¬ NoReturn (headerText "policy.json" returnScope.zones returnScopeHeader) := by
  rw [noReturn_headerText_iff render_returnScope]
  rintro ⟨-, hscopes⟩
  exact absurd (hscopes _ (List.mem_singleton_self _) "\r" rfl) (by decide)

/-- Every run on that file writes the header, also over the header that the last run wrote. -/
theorem not_canonicalHeader_returnScope :
    loadPolicy returnScopeJson = .ok returnScope ∧
      ¬ CanonicalHeader returnScopeJson returnScope "policy.json" ∧
      ∃ header, generate returnScopeJson "policy.json" [] [] = .ok header ∧
        main returnScopeJson "policy.json" [] [] none = .ok (some header) ∧
        main returnScopeJson "policy.json" [] [] (some header) = .ok (some header) := by
  obtain ⟨header, hgenerate, hreturn⟩ : ∃ header,
      generate returnScopeJson "policy.json" [] [] = .ok header ∧ ¬ NoReturn header :=
    ⟨_, by rw [generate_of_loadPolicy loadPolicy_returnScopeJson, render_returnScope]; rfl,
      not_noReturn_returnScope⟩
  refine ⟨loadPolicy_returnScopeJson, ?_, header, hgenerate, ?_, ?_⟩
  · intro hcanonical
    let o : BlockOrders returnScope := ⟨[], [], ⟨List.nodup_nil, rfl⟩, ⟨List.nodup_nil, rfl⟩⟩
    exact hreturn (hcanonical.noReturn loadPolicy_returnScopeJson o hgenerate)
  · rw [main, hgenerate]
    rfl
  · rw [main, hgenerate]
    exact congrArg Except.ok (writeIfChanged_of_return hreturn)

end ZoneSegmentation
