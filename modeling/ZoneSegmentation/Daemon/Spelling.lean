import ZoneSegmentation.Config.Partition
import ZoneSegmentation.Daemon.PolicyHeader
import Mathlib.Data.List.TakeWhile
import Mathlib.Data.Nat.Digits.Lemmas
import Mathlib.Tactic.IntervalCases

/-!
# Spellings of MAC addresses and zone names

A gateway's MAC address and a zone's name are each checked by a regular expression that ends in
`$`, which matches at the end of a text and before a newline that ends it. So each check accepts a
second spelling: two zones can share a MAC address, and two zones one enumerator, by a newline at
the end of one of them. Without such a text, what is accepted is exactly the grammar.

## Main definitions

* `IsMacText`, `macAddress`: the texts of MAC addresses, and the address a text denotes
* `IsIdentifier`, `enumerator`: the identifiers of C++, and the one that is read from a name
* `MacsExact`, `NamesExact`: policies and headers without a second spelling

## Main results

* `matchMac_iff`, `matchIdentifier_iff`: what the regular expressions accept
* `macAddress_inj`: a MAC address has one text
* `spellings_exact_iff`: a policy has no second spelling exactly when no text ends in a newline
-/

namespace ZoneSegmentation

/-- A text whose last character is a newline. -/
def EndsInNewline (s : String) : Prop := s.toList.getLast? = some '\n'

instance (s : String) : Decidable (EndsInNewline s) := inferInstanceAs (Decidable (_ = _))

/-! ## MAC addresses -/

/-- A hexadecimal digit in lower case. -/
def IsHexDigit (c : Char) : Prop := ('0' ≤ c ∧ c ≤ '9') ∨ ('a' ≤ c ∧ c ≤ 'f')

/-- Groups of two characters between colons. -/
def macText (groups : List (Char × Char)) : List Char :=
  [':'].intercalate (groups.map fun g => [g.1, g.2])

/-- **The text of a MAC address**: six groups of two hexadecimal digits between colons. -/
def IsMacText (s : String) : Prop :=
  ∃ groups, groups.length = 6 ∧ (∀ g ∈ groups, IsHexDigit g.1 ∧ IsHexDigit g.2) ∧
    s.toList = macText groups

/-- The address that a text denotes: its hexadecimal digits as one number, the first highest. -/
def macAddress (s : String) : BitVec 48 :=
  BitVec.ofNat 48 (Nat.ofDigits 16 (s.toList.filterMap digit?).reverse)

theorem hexPair_iff {a b : Char} : hexPair a b = true ↔ IsHexDigit a ∧ IsHexDigit b := by
  simp [hexPair, IsHexDigit]

theorem macText_cons (g : Char × Char) {groups : List (Char × Char)} (h : groups ≠ []) :
    macText (g :: groups) = g.1 :: g.2 :: ':' :: macText groups := by
  rw [macText, List.map_cons, List.intercalate_cons_of_ne_nil (by simpa using h)]
  rfl

/-- What the groups of the regular expression match. -/
theorem matchMacGroups_iff {n : ℕ} {cs : List Char} : matchMacGroups n cs = true ↔
    ∃ groups, groups.length = n + 1 ∧ (∀ g ∈ groups, IsHexDigit g.1 ∧ IsHexDigit g.2) ∧
      (cs = macText groups ∨ cs = macText groups ++ ['\n']) := by
  induction n generalizing cs with
  | zero =>
    constructor
    · intro h
      unfold matchMacGroups at h
      split at h
      · omega
      · rename_i a b _
        exact ⟨[(a, b)], rfl, by simpa using hexPair_iff.mp h, .inl rfl⟩
      · rename_i a b _
        exact ⟨[(a, b)], rfl, by simpa using hexPair_iff.mp h, .inr rfl⟩
      · cases h
    · rintro ⟨groups, hlength, hhex, hcs⟩
      obtain ⟨⟨a, b⟩, rfl⟩ := List.length_eq_one_iff.mp hlength
      have hpair : hexPair a b = true := hexPair_iff.mpr (hhex (a, b) (List.mem_singleton_self _))
      rcases hcs with rfl | rfl
      · exact hpair
      · exact hpair
  | succ n ih =>
    constructor
    · intro h
      unfold matchMacGroups at h
      split at h
      · rename_i m a b cs hm
        obtain rfl : n = m := by omega
        rw [Bool.and_eq_true, ih, hexPair_iff] at h
        obtain ⟨hpair, groups, hlength, hhex, hcs⟩ := h
        have hne : groups ≠ [] := by
          rintro rfl
          cases hlength
        refine ⟨(a, b) :: groups, by rw [List.length_cons, hlength],
          List.forall_mem_cons.mpr ⟨hpair, hhex⟩, ?_⟩
        rw [macText_cons (a, b) hne]
        rcases hcs with rfl | rfl
        · exact .inl rfl
        · exact .inr rfl
      · omega
      · omega
      · cases h
    · rintro ⟨groups, hlength, hhex, hcs⟩
      obtain ⟨g, groups, rfl⟩ := List.exists_cons_of_length_eq_add_one hlength
      obtain ⟨hg, hhex⟩ := List.forall_mem_cons.mp hhex
      have hlength : groups.length = n + 1 := by simpa using hlength
      have hne : groups ≠ [] := by
        rintro rfl
        cases hlength
      rw [macText_cons g hne] at hcs
      -- the first group and its colon are matched, the others by induction
      have hrest {cs : List Char} (h : cs = macText groups ∨ cs = macText groups ++ ['\n']) :
          matchMacGroups (n + 1) (g.1 :: g.2 :: ':' :: cs) = true := by
        rw [matchMacGroups, Bool.and_eq_true, hexPair_iff, ih]
        exact ⟨hg, groups, hlength, hhex, h⟩
      rcases hcs with rfl | rfl
      · exact hrest (.inl rfl)
      · exact hrest (.inr rfl)

/-- **What `_MAC_RE` accepts**: the text of a MAC address, or one followed by a newline. -/
theorem matchMac_iff {s : String} : matchMac s = true ↔
    IsMacText s ∨ ∃ t, IsMacText t ∧ s = t ++ "\n" := by
  rw [matchMac, matchMacGroups_iff]
  constructor
  · rintro ⟨groups, hlength, hhex, hs | hs⟩
    · exact .inl ⟨groups, hlength, hhex, hs⟩
    · refine .inr ⟨String.ofList (macText groups),
        ⟨groups, hlength, hhex, String.toList_ofList⟩, ?_⟩
      apply String.toList_inj.mp
      rw [hs, String.toList_append, String.toList_ofList]
      rfl
  · rintro (⟨groups, hlength, hhex, hs⟩ | ⟨t, ⟨groups, hlength, hhex, ht⟩, rfl⟩)
    · exact ⟨groups, hlength, hhex, .inl hs⟩
    · refine ⟨groups, hlength, hhex, .inr ?_⟩
      rw [String.toList_append, ht]
      rfl

/-- The characters of groups, two for each group and a colon between. -/
theorem length_macText {groups : List (Char × Char)} (h : groups ≠ []) :
    (macText groups).length + 1 = 3 * groups.length := by
  induction groups with
  | nil => exact absurd rfl h
  | cons g groups ih =>
    by_cases hne : groups = []
    · subst hne
      rfl
    · rw [macText_cons g hne]
      have hlength := ih hne
      simp only [List.length_cons]
      omega

/-- The text of a MAC address has 17 characters. -/
theorem IsMacText.length {s : String} (h : IsMacText s) : s.toList.length = 17 := by
  obtain ⟨groups, hlength, -, hs⟩ := h
  have hne : groups ≠ [] := by
    rintro rfl
    cases hlength
  have hcount := length_macText hne
  rw [hs]
  omega

theorem IsHexDigit.ne_newline {c : Char} (h : IsHexDigit c) : c ≠ '\n' := by
  rintro rfl
  revert h
  simp [IsHexDigit]

/-- The text of a MAC address ends in a digit. -/
theorem not_endsInNewline_macText {groups : List (Char × Char)} (h : groups ≠ [])
    (hhex : ∀ g ∈ groups, IsHexDigit g.1 ∧ IsHexDigit g.2) :
    (macText groups).getLast? ≠ some '\n' := by
  induction groups with
  | nil => exact absurd rfl h
  | cons g groups ih =>
    obtain ⟨hg, hhex⟩ := List.forall_mem_cons.mp hhex
    by_cases hne : groups = []
    · subst hne
      intro hlast
      exact hg.2.ne_newline (by simpa [macText] using hlast)
    · rw [macText_cons g hne]
      have hrest := ih hne hhex
      cases hm : macText groups with
      | nil =>
        have hcount := length_macText hne
        rw [hm] at hcount
        simp only [List.length_nil] at hcount
        omega
      | cons c cs => simpa [hm, List.getLast?_cons_cons] using hrest

theorem IsMacText.not_endsInNewline {s : String} (h : IsMacText s) : ¬ EndsInNewline s := by
  obtain ⟨groups, hlength, hhex, hs⟩ := h
  rw [EndsInNewline, hs]
  apply not_endsInNewline_macText _ hhex
  rintro rfl
  cases hlength

/-- Of the texts that are accepted, those of MAC addresses do not end in a newline. -/
theorem isMacText_iff_of_matchMac {s : String} (h : matchMac s = true) :
    IsMacText s ↔ ¬ EndsInNewline s := by
  constructor
  · exact IsMacText.not_endsInNewline
  · intro hnot
    rcases matchMac_iff.mp h with hs | ⟨t, -, rfl⟩
    · exact hs
    · refine absurd ?_ hnot
      rw [EndsInNewline, String.toList_append]
      simp

/-! ## One text for each address -/

/-- A hexadecimal digit is the character of its value. -/
theorem IsHexDigit.digit? {c : Char} (h : IsHexDigit c) :
    ∃ n < 16, digit? c = some n ∧ Nat.digitChar n = c := by
  have hc : c = Char.ofNat c.toNat := (Char.ofNat_toNat c).symm
  have hrange : (48 ≤ c.toNat ∧ c.toNat ≤ 57) ∨ (97 ≤ c.toNat ∧ c.toNat ≤ 102) := h
  rw [hc]
  generalize c.toNat = k at hrange
  rcases hrange with ⟨hlow, hhigh⟩ | ⟨hlow, hhigh⟩
  · refine ⟨k - 48, by omega, ?_⟩
    interval_cases k <;> decide
  · refine ⟨k - 87, by omega, ?_⟩
    interval_cases k <;> decide

/-- The values of the digits of groups: two for each, from which the digits can be read back. -/
theorem digits_macText {groups : List (Char × Char)}
    (hhex : ∀ g ∈ groups, IsHexDigit g.1 ∧ IsHexDigit g.2) :
    ((macText groups).filterMap digit?).length = 2 * groups.length ∧
      (∀ n ∈ (macText groups).filterMap digit?, n < 16) ∧
      ((macText groups).filterMap digit?).map Nat.digitChar =
        groups.flatMap fun g => [g.1, g.2] := by
  induction groups with
  | nil => simp [macText]
  | cons g groups ih =>
    obtain ⟨⟨ha, hb⟩, hhex⟩ := List.forall_mem_cons.mp hhex
    obtain ⟨hlength, hlt, hread⟩ := ih hhex
    obtain ⟨m, hm, hdigit, hchar⟩ := ha.digit?
    obtain ⟨n, hn, hdigit', hchar'⟩ := hb.digit?
    have hcons : (macText (g :: groups)).filterMap digit? =
        m :: n :: (macText groups).filterMap digit? := by
      by_cases hne : groups = []
      · subst hne
        simp [macText, hdigit, hdigit']
      · rw [macText_cons g hne, List.filterMap_cons_some hdigit, List.filterMap_cons_some hdigit',
          List.filterMap_cons_none (by decide)]
    rw [hcons]
    refine ⟨?_, ?_, ?_⟩
    · simp only [List.length_cons, hlength]
      omega
    · exact List.forall_mem_cons.mpr ⟨hm, List.forall_mem_cons.mpr ⟨hn, hlt⟩⟩
    · simp [hchar, hchar', hread]

theorem flatMap_pair_inj {groups groups' : List (Char × Char)}
    (h : (groups.flatMap fun g => [g.1, g.2]) = groups'.flatMap fun g => [g.1, g.2]) :
    groups = groups' := by
  induction groups generalizing groups' with
  | nil =>
    cases groups' with
    | nil => rfl
    | cons g' groups' => simp at h
  | cons g groups ih =>
    cases groups' with
    | nil => simp at h
    | cons g' groups' =>
      simp only [List.flatMap_cons, List.cons_append, List.nil_append, List.cons.injEq] at h
      obtain ⟨ha, hb, hrest⟩ := h
      exact congrArg₂ _ (Prod.ext ha hb) (ih hrest)

/-- **A MAC address has one text.** -/
theorem macAddress_inj {s t : String} (hs : IsMacText s) (ht : IsMacText t)
    (h : macAddress s = macAddress t) : s = t := by
  obtain ⟨groups, hlength, hhex, hs⟩ := hs
  obtain ⟨groups', hlength', hhex', ht⟩ := ht
  obtain ⟨hdigits, hlt, hread⟩ := digits_macText hhex
  obtain ⟨hdigits', hlt', hread'⟩ := digits_macText hhex'
  rw [hlength] at hdigits
  rw [hlength'] at hdigits'
  rw [macAddress, macAddress, hs, ht] at h
  -- twelve digits are a number of 48 bits
  have hbound {ds : List ℕ} (hlength : ds.length = 2 * 6) (hlt : ∀ d ∈ ds, d < 16) :
      Nat.ofDigits 16 ds.reverse < 2 ^ 48 := by
    have hpow := Nat.ofDigits_lt_base_pow_length (b := 16) (l := ds.reverse) (by omega)
      (by simpa using hlt)
    rw [List.length_reverse, hlength] at hpow
    exact hpow.trans_le (by norm_num)
  have hnumber := congrArg BitVec.toNat h
  rw [BitVec.toNat_ofNat, BitVec.toNat_ofNat, Nat.mod_eq_of_lt (hbound hdigits hlt),
    Nat.mod_eq_of_lt (hbound hdigits' hlt')] at hnumber
  have hreverse := Nat.ofDigits_inj_of_len_eq (by omega) (by simp [hdigits, hdigits'])
    (by simpa using hlt) (by simpa using hlt') hnumber
  rw [List.reverse_inj] at hreverse
  rw [hreverse, hread'] at hread
  apply String.toList_inj.mp
  rw [hs, ht, flatMap_pair_inj hread]

/-! ## Names -/

/-- A character that an identifier may go on with. -/
def isWordChar (c : Char) : Bool := c.isAlphanum || c = '_'

/-- **An identifier of C++**: a letter or an underscore, then letters, digits and underscores. -/
def IsIdentifier (name : String) : Prop :=
  ∃ c cs, name.toList = c :: cs ∧ (c.isAlpha || c = '_') = true ∧ ∀ d ∈ cs, isWordChar d = true

/-- The identifier that is read from a name where it is written into the header. -/
def enumerator (name : String) : List Char := name.toList.takeWhile isWordChar

theorem matchIdentifierTail_iff {cs : List Char} : matchIdentifierTail cs = true ↔
    ∃ word, (∀ d ∈ word, isWordChar d = true) ∧ (cs = word ∨ cs = word ++ ['\n']) := by
  induction cs with
  | nil =>
    constructor
    · intro _
      exact ⟨[], by simp, .inl rfl⟩
    · intro _
      rfl
  | cons c cs ih =>
    constructor
    · intro h
      unfold matchIdentifierTail at h
      split at h
      · rename_i heq
        cases heq
      · rename_i heq
        rw [heq]
        exact ⟨[], by simp, .inr rfl⟩
      · rename_i heq
        cases heq
        rw [Bool.and_eq_true, ih] at h
        obtain ⟨hc, word, hword, hcs⟩ := h
        refine ⟨c :: word, List.forall_mem_cons.mpr ⟨hc, hword⟩, ?_⟩
        rcases hcs with rfl | rfl
        · exact .inl rfl
        · exact .inr rfl
    · rintro ⟨word, hword, hcs⟩
      cases word with
      | nil =>
        rcases hcs with hcs | hcs
        · cases hcs
        · cases hcs
          rfl
      | cons d word =>
        obtain ⟨hd, hrest⟩ := List.forall_mem_cons.mp hword
        obtain ⟨rfl, hcs'⟩ : c = d ∧ (cs = word ∨ cs = word ++ ['\n']) := by
          rcases hcs with hcs | hcs
          · exact ⟨(List.cons.inj hcs).1, .inl (List.cons.inj hcs).2⟩
          · exact ⟨(List.cons.inj hcs).1, .inr (List.cons.inj hcs).2⟩
        have htail : matchIdentifierTail cs = true := ih.mpr ⟨word, hrest, hcs'⟩
        unfold matchIdentifierTail
        split
        · rfl
        · rfl
        · rename_i heq
          cases heq
          rw [htail, Bool.and_true]
          exact hd

/-- **What `_IDENTIFIER` accepts**: an identifier, or one followed by a newline. -/
theorem matchIdentifier_iff {name : String} : matchIdentifier name = true ↔
    IsIdentifier name ∨ ∃ t, IsIdentifier t ∧ name = t ++ "\n" := by
  constructor
  · intro h
    unfold matchIdentifier at h
    split at h
    · cases h
    · rename_i c cs hname
      rw [Bool.and_eq_true, matchIdentifierTail_iff] at h
      obtain ⟨hc, word, hword, rfl | rfl⟩ := h
      · exact .inl ⟨c, cs, hname, hc, hword⟩
      · refine .inr ⟨String.ofList (c :: word), ⟨c, word, String.toList_ofList, hc, hword⟩, ?_⟩
        apply String.toList_inj.mp
        rw [hname, String.toList_append, String.toList_ofList]
        rfl
  · rintro (⟨c, cs, hname, hc, hword⟩ | ⟨t, ⟨c, cs, ht, hc, hword⟩, rfl⟩)
    · rw [matchIdentifier, hname]
      exact Bool.and_eq_true_iff.mpr ⟨hc, matchIdentifierTail_iff.mpr ⟨cs, hword, .inl rfl⟩⟩
    · rw [matchIdentifier, String.toList_append, ht]
      exact Bool.and_eq_true_iff.mpr ⟨hc, matchIdentifierTail_iff.mpr ⟨cs, hword, .inr rfl⟩⟩

theorem isWordChar_of_isAlpha {c : Char} (h : (c.isAlpha || c = '_') = true) :
    isWordChar c = true := by
  rw [isWordChar, Char.isAlphanum]
  revert h
  cases c.isAlpha <;> simp +contextual

/-- Every character of an identifier may stand in one. -/
theorem IsIdentifier.all {name : String} (h : IsIdentifier name) :
    ∀ c ∈ name.toList, isWordChar c = true := by
  obtain ⟨c, cs, hname, hc, hword⟩ := h
  rw [hname]
  exact List.forall_mem_cons.mpr ⟨isWordChar_of_isAlpha hc, hword⟩

theorem IsIdentifier.not_endsInNewline {name : String} (h : IsIdentifier name) :
    ¬ EndsInNewline name := by
  intro hlast
  have hword := h.all '\n' (List.mem_of_getLast? hlast)
  revert hword
  decide

/-- An identifier is read as the whole name. -/
theorem IsIdentifier.enumerator {name : String} (h : IsIdentifier name) :
    enumerator name = name.toList := by
  rw [ZoneSegmentation.enumerator, List.takeWhile_eq_self_iff]
  exact h.all

/-- Of the names that are accepted, the identifiers do not end in a newline. -/
theorem isIdentifier_iff_of_matchIdentifier {name : String} (h : matchIdentifier name = true) :
    IsIdentifier name ↔ ¬ EndsInNewline name := by
  constructor
  · exact IsIdentifier.not_endsInNewline
  · intro hnot
    rcases matchIdentifier_iff.mp h with hname | ⟨t, -, rfl⟩
    · exact hname
    · refine absurd ?_ hnot
      rw [EndsInNewline, String.toList_append]
      simp

/-! ## Policies and headers without a second spelling -/

/-- A policy whose gateways have MAC addresses in their one spelling: each text is one, two texts
differ when their addresses do, and no two zones share an address. -/
structure MacsExact (P : Policy) : Prop where
  text : ∀ z e, P.zones.get? z = some e → IsMacText e.gatewayMac
  differ : ∀ z z' e e', P.zones.get? z = some e → P.zones.get? z' = some e' →
    (e.gatewayMac ≠ e'.gatewayMac ↔ macAddress e.gatewayMac ≠ macAddress e'.gatewayMac)
  unique : ∀ z z' e e', P.zones.get? z = some e → P.zones.get? z' = some e' → z ≠ z' →
    macAddress e.gatewayMac ≠ macAddress e'.gatewayMac

/-- A header whose zones are identifiers that are not reserved, and whose enumerators, with the
one for addresses outside every zone, are pairwise different as they are read. -/
structure NamesExact (h : PolicyHeader) : Prop where
  identifier : ∀ name ∈ h.enum, IsIdentifier name ∧ name ∉ reserved
  nodup : ((h.enum ++ ["Unknown"]).map enumerator).Nodup

/-- No other character is a newline in lower case. -/
theorem toLower_eq_newline_iff {c : Char} : c.toLower = '\n' ↔ c = '\n' := by
  unfold Char.toLower
  split
  · rename_i hupper
    constructor
    · intro h
      have hval := congrArg (fun c => c.val.toNat) h
      have hle := UInt32.le_iff_toNat_le.mp hupper.1
      have hge := UInt32.le_iff_toNat_le.mp hupper.2
      simp only [UInt32.toNat_add] at hval
      have h1 : ('a'.val - 'A'.val).toNat = 32 := rfl
      have h2 : 'A'.val.toNat = 65 := rfl
      have h3 : 'Z'.val.toNat = 90 := rfl
      have h4 : '\n'.val.toNat = 10 := rfl
      omega
    · rintro rfl
      exact absurd hupper.1 (by decide)
  · exact Iff.rfl

/-- Lower-casing keeps a newline at the end. -/
theorem endsInNewline_toLower {s : String} : EndsInNewline s.toLower ↔ EndsInNewline s := by
  have hlower : s.toLower = s.map Char.toLower := rfl
  rw [EndsInNewline, EndsInNewline, hlower, String.toList_map, List.getLast?_map,
    Option.map_eq_some_iff]
  simp only [toLower_eq_newline_iff]
  constructor
  · rintro ⟨c, hc, rfl⟩
    exact hc
  · intro h
    exact ⟨_, h, rfl⟩

/-- The MAC address of a zone that is accepted is a text of the file. -/
theorem exists_gatewayMac {z : Json} {e : ZoneEntry} (h : ZoneRead z e)
    (hmac : matchMac e.gatewayMac = true) :
    ∃ s, zoneField z "gateway_mac" = some (.str s) ∧ e.gatewayMac = s.toLower := by
  have hread := h.gatewayMac
  have hempty : matchMac "" = false := rfl
  have hdefault : matchMac "".toLower = false := by decide +kernel
  cases z with
  | obj ms =>
    have hstored : gatewayMacText (((Json.dict ms).get? "gateway_mac").getD (.str "")) =
        e.gatewayMac := Option.some.inj hread
    rw [← hstored] at hmac ⊢
    cases hget : (Json.dict ms).get? "gateway_mac" with
    | none =>
      rw [hget] at hmac
      exact absurd (hdefault.symm.trans hmac) Bool.false_ne_true
    | some x =>
      rw [hget, Option.getD_some] at hmac
      rw [Option.getD_some]
      cases x with
      | str s =>
        refine ⟨s, ?_, rfl⟩
        rw [zoneField, Json.subscript, hget]
        rfl
      | null | bool | int | float | arr | obj =>
        exact absurd (hempty.symm.trans hmac) Bool.false_ne_true
  | null | bool | int | float | str | arr => cases hread

section

variable {raw : Json} {P : Policy} {members : List (String × Json)} (h : loadPolicy raw = .ok P)
  (hfile : fileZones raw = .ok members)

include h

/-- Two zones of an accepted policy have different texts for their MAC addresses. -/
theorem gatewayMac_ne {z z' : String} {e e' : ZoneEntry} (he : P.zones.get? z = some e)
    (he' : P.zones.get? z' = some e') (hne : z ≠ z') : e.gatewayMac ≠ e'.gatewayMac := by
  obtain ⟨-, -, -, hpairwise⟩ := loadPolicy_zones h
  have hdiffer : P.zones.entries.Pairwise fun a b => a.2.gatewayMac ≠ b.2.gatewayMac := by
    apply hpairwise.imp
    rintro a b ⟨-, hmac⟩
    exact hmac.symm
  have hsymm : Std.Symm fun a b : String × ZoneEntry => a.2.gatewayMac ≠ b.2.gatewayMac :=
    ⟨fun a b hab => hab.symm⟩
  exact hdiffer.forall (Dict.get?_eq_some_iff.mp he) (Dict.get?_eq_some_iff.mp he')
    fun heq => hne (congrArg Prod.fst heq)

include hfile

/-- A policy has MAC addresses in one spelling exactly when no text of the file ends in a
newline. -/
theorem macsExact_iff : MacsExact P ↔ ∀ m ∈ members, ∀ s,
    zoneField m.2 "gateway_mac" = some (.str s) → ¬ EndsInNewline s := by
  obtain ⟨members', hfile', hread, -⟩ := loadPolicy_zones h
  obtain rfl := Except.ok.inj (hfile'.symm.trans hfile)
  constructor
  · intro hexact m hm s hs
    obtain ⟨⟨z, e⟩, he, -, hentry⟩ := Loop.exists_of_forall₂_of_mem_left hread hm
    have hget := Dict.get?_eq_some_iff.mpr he
    obtain ⟨s', hs', hstored⟩ := exists_gatewayMac hentry (loadPolicy_zone_ok h hget).2
    obtain rfl : s' = s := Json.str.inj (Option.some.inj (hs'.symm.trans hs))
    have htext := hexact.text z e hget
    rw [hstored] at htext
    rw [← endsInNewline_toLower]
    exact htext.not_endsInNewline
  · intro hnewline
    have htext (z : String) (e : ZoneEntry) (he : P.zones.get? z = some e) :
        IsMacText e.gatewayMac := by
      have hmac := (loadPolicy_zone_ok h he).2
      obtain ⟨m, hm, -, hentry⟩ :=
        Loop.exists_of_forall₂_of_mem_left hread.flip (Dict.get?_eq_some_iff.mp he)
      obtain ⟨s, hs, hstored⟩ := exists_gatewayMac hentry hmac
      rw [isMacText_iff_of_matchMac hmac, hstored, endsInNewline_toLower]
      exact hnewline m hm s hs
    -- one address has one text, so that the texts tell the addresses apart
    have hdiffer (z z' : String) (e e' : ZoneEntry) (he : P.zones.get? z = some e)
        (he' : P.zones.get? z' = some e') :
        e.gatewayMac ≠ e'.gatewayMac ↔ macAddress e.gatewayMac ≠ macAddress e'.gatewayMac := by
      apply not_congr
      constructor
      · exact congrArg macAddress
      · exact macAddress_inj (htext z e he) (htext z' e' he')
    refine ⟨htext, hdiffer, ?_⟩
    intro z z' e e' he he' hne
    exact (hdiffer z z' e e' he he').mp (gatewayMac_ne h he he' hne)

end

/-- What `render` has checked of each name. -/
theorem names_of_render {zones : Dict String ZoneEntry} {all icmp : List (String × String)}
    {hdr : PolicyHeader} (hr : render zones all icmp = .ok hdr) {name : String}
    (hname : name ∈ zones.keys) : matchIdentifier name = true ∧ name ∉ reserved := by
  rw [render] at hr
  obtain ⟨_, hloop, -⟩ := Loop.bind_eq_ok.mp hr
  rw [Loop.forIn_eq_ok] at hloop
  · have hcheck := hloop name hname
    simp only [Loop.bind_eq_ok, raiseIf_eq_ok, Bool.or_eq_false_iff, Bool.not_eq_false',
      decide_eq_false_iff_not] at hcheck
    obtain ⟨_, hok, -⟩ := hcheck
    exact hok
  · intro name r hr
    simp only [Loop.bind_eq_ok] at hr
    obtain ⟨_, -, hr⟩ := hr
    exact (Except.ok.inj hr).symm

/-- A header has names in one spelling exactly when none of them ends in a newline. -/
theorem namesExact_iff {zones : Dict String ZoneEntry} {all icmp : List (String × String)}
    {hdr : PolicyHeader} (hr : render zones all icmp = .ok hdr) :
    NamesExact hdr ↔ ∀ name ∈ zones.keys, ¬ EndsInNewline name := by
  have henum : hdr.enum = zones.keys := (render_eq_ok hr).1
  constructor
  · intro hexact name hname
    exact (hexact.identifier name (henum ▸ hname)).1.not_endsInNewline
  · intro hnewline
    have hidentifier : ∀ name ∈ hdr.enum, IsIdentifier name ∧ name ∉ reserved := by
      intro name hname
      rw [henum] at hname
      obtain ⟨hmatch, hreserved⟩ := names_of_render hr hname
      exact ⟨(isIdentifier_iff_of_matchIdentifier hmatch).mpr (hnewline name hname), hreserved⟩
    refine ⟨hidentifier, ?_⟩
    have hread : (hdr.enum ++ ["Unknown"]).map enumerator =
        (hdr.enum ++ ["Unknown"]).map String.toList := by
      apply List.map_congr_left
      intro name hname
      rcases List.mem_append.mp hname with hname | hname
      · exact (hidentifier name hname).1.enumerator
      · obtain rfl := List.mem_singleton.mp hname
        rfl
    rw [hread]
    apply List.Nodup.map (fun _ _ => String.toList_inj.mp)
    rw [List.nodup_append]
    refine ⟨henum ▸ zones.nodup, List.nodup_singleton _, ?_⟩
    rintro name hname _ hunknown rfl
    exact (hidentifier name hname).2 hunknown

/-- **A policy has no second spelling exactly when no text ends in a newline.** Of an accepted
file, the MAC addresses are exact if and only if no `gateway_mac` ends in a newline, and the names
of its header, if it is rendered, are exact if and only if no name of a zone does. -/
theorem spellings_exact_iff {raw : Json} {P : Policy} {members : List (String × Json)}
    (h : loadPolicy raw = .ok P) (hfile : fileZones raw = .ok members) :
    (MacsExact P ↔ ∀ m ∈ members, ∀ s,
      zoneField m.2 "gateway_mac" = some (.str s) → ¬ EndsInNewline s) ∧
    ∀ all icmp hdr, render P.zones all icmp = .ok hdr →
      (NamesExact hdr ↔ ∀ m ∈ members, ¬ EndsInNewline m.1) := by
  refine ⟨macsExact_iff h hfile, ?_⟩
  intro all icmp hdr hr
  rw [namesExact_iff hr]
  obtain ⟨members', hfile', hread, -⟩ := loadPolicy_zones h
  obtain rfl := Except.ok.inj (hfile'.symm.trans hfile)
  have hnames : P.zones.keys = members'.map Prod.fst :=
    Loop.map_eq_of_forall₂ (fun m e hme => hme.1) hread
  simp only [hnames, List.forall_mem_map]

/-- Two zones whose gateways have one address, in two spellings. -/
def twoSpellingsJson : List (String × Json) :=
  [("DeptA", zoneJson "10.2.1.0/24" "10.2.1.1" "02:00:00:00:00:01"),
    ("DeptA\n", zoneJson "10.2.2.0/24" "10.2.2.1" "02:00:00:00:00:01\n")]

/-- The tables of that file. -/
def twoSpellings : Policy where
  zones := ⟨[
    ("DeptA", zoneOf24 0x0A020100 0x0A020101 "02:00:00:00:00:01" (by decide)),
    ("DeptA\n", zoneOf24 0x0A020200 0x0A020201 "02:00:00:00:00:01\n" (by decide))], by decide⟩
  blockAllIp := ∅
  blockIcmp := ∅

theorem loadPolicy_twoSpellings :
    loadPolicy (.obj [("zones", .obj twoSpellingsJson)]) = .ok twoSpellings :=
  Loop.eq_ok_of_toOption (by decide +kernel)

/-- A file that is accepted and rendered although both its zones have the same MAC address, in two
spellings, and the same enumerator. -/
theorem not_exact_twoSpellings :
    loadPolicy (.obj [("zones", .obj twoSpellingsJson)]) = .ok twoSpellings ∧
      ¬ MacsExact twoSpellings ∧
      macAddress "02:00:00:00:00:01" = macAddress "02:00:00:00:00:01\n" ∧
      ∃ hdr, render twoSpellings.zones [] [] = .ok hdr ∧ ¬ NamesExact hdr ∧
        enumerator "DeptA" = enumerator "DeptA\n" := by
  refine ⟨loadPolicy_twoSpellings, ?_, by decide +kernel, ?_⟩
  · intro hexact
    exact (hexact.text "DeptA\n" _ rfl).not_endsInNewline (by decide +kernel)
  · refine ⟨⟨["DeptA", "DeptA\n"], twoSpellings.zones.entries.map fun e => zoneRow e.1 e.2,
      ⟨[], 0⟩, ⟨[], 0⟩⟩, Loop.eq_ok_of_toOption (by decide +kernel), ?_, by decide +kernel⟩
    intro hexact
    exact (hexact.identifier "DeptA\n" (by simp)).1.not_endsInNewline (by decide +kernel)

/-- The file of the repository has no second spelling. -/
theorem spellings_exact_iff_policyJson :
    (MacsExact policy ↔ ∀ m ∈ (fileZones policyJson).toOption.getD [], ∀ s,
      zoneField m.2 "gateway_mac" = some (.str s) → ¬ EndsInNewline s) ∧
    ∀ all icmp hdr, render policy.zones all icmp = .ok hdr →
      (NamesExact hdr ↔ ∀ m ∈ (fileZones policyJson).toOption.getD [], ¬ EndsInNewline m.1) :=
  spellings_exact_iff loadPolicy_policyJson rfl

end ZoneSegmentation
