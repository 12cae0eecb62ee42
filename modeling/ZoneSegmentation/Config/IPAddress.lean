import ZoneSegmentation.Config.Json
import ZoneSegmentation.Library.Cidr

/-!
# IP addresses and networks

The part of Python's `ipaddress` module that the policy and the layout are read with: addresses
and networks of both versions, the parsing of their texts, and containment. A network is strict:
a text whose address has host bits is refused.

## Main definitions

* `IPAddress`, `IPNetwork`: addresses and networks, IPv4 or IPv6
* `ipAddress`, `ipNetwork`: `ipaddress.ip_address` and `ipaddress.ip_network` on a JSON value;
  `none` is their `ValueError`
* `IPNetwork.contains`, `IPNetwork.overlaps`: `addr in net` and `net.overlaps(other)`
* `IPAddress.text`, `IPNetwork.text`: what `str` writes
-/

namespace ZoneSegmentation

open Cidr (Block mask)

/-- `IPv4Address` or `IPv6Address`. An address is written in one way by `str`, so it stands for
its text as well. -/
inductive IPAddress where
  | v4 (ip : BitVec 32)
  | v6 (ip : BitVec 128) (scope : Option String)
  deriving DecidableEq

/-- `IPv4Network` or `IPv6Network`. The scope of an IPv6 network address plays no part in
containment. -/
inductive IPNetwork where
  | v4 (block : Block 32)
  | v6 (block : Block 128) (scope : Option String)
  deriving DecidableEq

namespace IPNetwork

/-- An IPv4 network. -/
def IsV4 (net : IPNetwork) : Prop := ∃ b, net = v4 b

instance : DecidablePred IsV4
  | v4 b => isTrue ⟨b, rfl⟩
  | v6 _ _ => isFalse nofun

/-- `addr in net`: never, for an address of the other version. -/
def contains : IPNetwork → IPAddress → Bool
  | v4 b, .v4 a => b.contains a
  | v6 b _, .v6 a _ => b.contains a
  | _, _ => false

/-- `net.overlaps(other)`. -/
def overlaps : IPNetwork → IPNetwork → Bool
  | v4 b, v4 c => b.overlaps c
  | v6 b _, v6 c _ => b.overlaps c
  | _, _ => false

/-- `net.prefixlen`. -/
def prefixlen : IPNetwork → ℕ
  | v4 b => b.prefixlen
  | v6 b _ => b.prefixlen

/-- `net.network_address`. -/
def networkAddress : IPNetwork → IPAddress
  | v4 b => .v4 b.network
  | v6 b scope => .v6 b.network scope

/-- `net.broadcast_address`. -/
def broadcastAddress : IPNetwork → IPAddress
  | v4 b => .v4 b.broadcast
  | v6 b _ => .v6 b.broadcast none

theorem contains_networkAddress (net : IPNetwork) : net.contains net.networkAddress = true := by
  cases net with
  | v4 b => exact b.contains_network
  | v6 b scope => exact b.contains_network

theorem contains_broadcastAddress (net : IPNetwork) :
    net.contains net.broadcastAddress = true := by
  cases net with
  | v4 b => exact b.contains_broadcast
  | v6 b scope => exact b.contains_broadcast

/-- **Networks overlap exactly when they share an address.** -/
theorem overlaps_iff {m n : IPNetwork} : m.overlaps n = true ↔
    ∃ ip, m.contains ip = true ∧ n.contains ip = true := by
  have hboth (p : IPAddress → Prop) :
      (∃ ip, p ip) ↔ (∃ a, p (.v4 a)) ∨ ∃ a scope, p (.v6 a scope) := by
    constructor
    · rintro ⟨a | ⟨a, scope⟩, h⟩
      · exact .inl ⟨a, h⟩
      · exact .inr ⟨a, scope, h⟩
    · rintro (⟨a, h⟩ | ⟨a, scope, h⟩)
      · exact ⟨_, h⟩
      · exact ⟨_, h⟩
  rw [hboth]
  cases m <;> cases n <;> simp [overlaps, contains, Block.overlaps_iff]

end IPNetwork

/-! ## Texts of addresses -/

/-- `text.split(sep)`. -/
def splitOn (sep : Char) : List Char → List (List Char)
  | [] => [[]]
  | c :: cs =>
    if c = sep then [] :: splitOn sep cs
    else match splitOn sep cs with
      | [] => [[c]]
      | part :: parts => (c :: part) :: parts

/-- The value of a digit in base 16, upper or lower case. -/
def digit? (c : Char) : Option ℕ :=
  if '0' ≤ c ∧ c ≤ '9' then some (c.toNat - '0'.toNat)
  else if 'a' ≤ c ∧ c ≤ 'f' then some (c.toNat - 'a'.toNat + 10)
  else if 'A' ≤ c ∧ c ≤ 'F' then some (c.toNat - 'A'.toNat + 10)
  else none

/-- A nonempty text of digits, as a number in the given base. -/
def number? (base : ℕ) (cs : List Char) : Option ℕ :=
  if cs.isEmpty then none
  else cs.foldlM (fun n c => do
    let d ← digit? c
    if d < base then some (base * n + d) else none) 0

/-- `_parse_octet`: at most three decimal digits, no leading zero, at most 255. -/
def parseOctet (cs : List Char) : Option ℕ := do
  let n ← number? 10 cs
  if cs.length > 3 ∨ (cs ≠ ['0'] ∧ cs.head? = some '0') ∨ n > 255 then none else some n

/-- `IPv4Address._ip_int_from_string`: four octets between dots. -/
def parseIPv4 (cs : List Char) : Option (BitVec 32) := do
  let octets := splitOn '.' cs
  if octets.length ≠ 4 then none
  else
    let ns ← octets.mapM parseOctet
    some (BitVec.ofNat 32 (ns.foldl (fun n d => 256 * n + d) 0))

/-- `_parse_hextet`: at most four hexadecimal digits. -/
def parseHextet (cs : List Char) : Option ℕ :=
  if cs.length > 4 then none else number? 16 cs

/-- The parts of an IPv6 text, an IPv4-style suffix replaced by its two hextets. -/
def hextetParts (cs : List Char) : Option (List (List Char)) := do
  let parts := splitOn ':' cs
  if parts.length < 3 then none
  else match parts.getLast? with
    | none => none
    | some suffix =>
      if '.' ∈ suffix then
        let ip ← parseIPv4 suffix
        some (parts.dropLast ++
          [Nat.toDigits 16 (ip.toNat / 65536), Nat.toDigits 16 (ip.toNat % 65536)])
      else some parts

/-- The number of parts before and after the `::`, of the parts around it. A leading or trailing
empty part is allowed only next to the `::`. -/
def hextetsAround (parts : List (List Char)) (skip : ℕ) : Option (ℕ × ℕ) :=
  let hi := if parts.head? = some [] then skip - 1 else skip
  let rest := parts.length - skip - 1
  let lo := if parts.getLast? = some [] then rest - 1 else rest
  if parts.head? = some [] ∧ hi ≠ 0 then none
  else if parts.getLast? = some [] ∧ lo ≠ 0 then none
  else if hi + lo ≥ 8 then none
  else some (hi, lo)

/-- `IPv6Address._ip_int_from_string`. -/
def parseIPv6 (cs : List Char) : Option (BitVec 128) := do
  let parts ← hextetParts cs
  if parts.length > 9 then none
  else
    let inner := (List.range parts.length).filter fun i =>
      0 < i ∧ i + 1 < parts.length ∧ parts[i]? = some []
    match inner with
    | [] =>
      if parts.length ≠ 8 then none
      else
        let ns ← parts.mapM parseHextet
        some (BitVec.ofNat 128 (ns.foldl (fun n d => 65536 * n + d) 0))
    | [skip] =>
      let (hi, lo) ← hextetsAround parts skip
      let high ← (parts.take hi).mapM parseHextet
      let low ← (parts.drop (parts.length - lo)).mapM parseHextet
      let top := high.foldl (fun n d => 65536 * n + d) 0
      some (BitVec.ofNat 128 (low.foldl (fun n d => 65536 * n + d) (top * 65536 ^ (8 - (hi + lo)))))
    | _ => none

/-- `IPv6Address._split_scope_id`: what stands before and after a single `%`. -/
def splitScope (cs : List Char) : Option (List Char × Option String) :=
  match splitOn '%' cs with
  | [addr] => some (addr, none)
  | [addr, scope] => if scope.isEmpty then none else some (addr, some (String.ofList scope))
  | _ => none

/-- `ipaddress.ip_address` on a text. -/
def parseAddress (cs : List Char) : Option IPAddress :=
  match parseIPv4 cs with
  | some ip => some (.v4 ip)
  | none => do
    if '/' ∈ cs then none
    else
      let (addr, scope) ← splitScope cs
      let ip ← parseIPv6 addr
      some (.v6 ip scope)

/-- `ipaddress.ip_address(x)`; `none` is its `ValueError`. A JSON value that is neither a number
nor a text has a text that no address has. -/
def ipAddress (x : Json) : Option IPAddress :=
  match x.int? with
  | some n =>
    if 0 ≤ n ∧ n < 2 ^ 32 then some (.v4 (BitVec.ofInt 32 n))
    else if 0 ≤ n ∧ n < 2 ^ 128 then some (.v6 (BitVec.ofInt 128 n) none)
    else none
  | none => x.str?.bind fun s => parseAddress s.toList

/-! ## Texts of networks -/

/-- The block at an address, if the address has no host bits. -/
def strictBlock {w : ℕ} (ip : BitVec w) (prefixlen : ℕ) : Option (Block w) :=
  if h : prefixlen ≤ w ∧ ip &&& mask w prefixlen = ip then some ⟨ip, prefixlen, h.1, h.2⟩ else none

/-- `_prefix_from_prefix_string`: a decimal number up to the width. -/
def parsePrefix (w : ℕ) (cs : List Char) : Option ℕ := do
  let n ← number? 10 cs
  if n ≤ w then some n else none

/-- `_prefix_from_ip_string`: a dotted netmask, or else the inverse of one. -/
def parseNetmask (cs : List Char) : Option ℕ := do
  let ip ← parseIPv4 cs
  ((List.range 33).find? fun p => ip = mask 32 p).or
    ((List.range 33).find? fun p => ~~~ip = mask 32 p)

/-- `IPv4Network(text)`; `none` for any of its errors. -/
def parseIPv4Network (addr : List Char) (netmask : Option (List Char)) : Option (Block 32) := do
  let ip ← parseIPv4 addr
  let p ← match netmask with
    | none => some 32
    | some m => (parsePrefix 32 m).or (parseNetmask m)
  strictBlock ip p

/-- `IPv6Network(text)`; `none` for any of its errors. -/
def parseIPv6Network (addr : List Char) (netmask : Option (List Char)) :
    Option (Block 128 × Option String) := do
  let (addr, scope) ← splitScope addr
  let ip ← parseIPv6 addr
  let p ← match netmask with
    | none => some 128
    | some m => parsePrefix 128 m
  let b ← strictBlock ip p
  some (b, scope)

/-- `ipaddress.ip_network` on a text: an address, then optionally `/` and a netmask. -/
def parseNetwork (cs : List Char) : Option IPNetwork :=
  let read addr netmask := match parseIPv4Network addr netmask with
    | some b => some (.v4 b)
    | none => (parseIPv6Network addr netmask).map fun (b, scope) => .v6 b scope
  match splitOn '/' cs with
  | [addr] => read addr none
  | [addr, netmask] => read addr (some netmask)
  | _ => none

/-- `ipaddress.ip_network(x)`; `none` is its `ValueError`. A number is a network of one
address. -/
def ipNetwork (x : Json) : Option IPNetwork :=
  match x.int? with
  | some n =>
    if 0 ≤ n ∧ n < 2 ^ 32 then (strictBlock (BitVec.ofInt 32 n) 32).map .v4
    else if 0 ≤ n ∧ n < 2 ^ 128 then
      (strictBlock (BitVec.ofInt 128 n) 128).map fun b => .v6 b none
    else none
  | none => x.str?.bind fun s => parseNetwork s.toList

/-! ## What `str` writes -/

/-- `IPv4Address._string_from_ip_int`: the four octets between dots. -/
def ipv4Text (n : ℕ) : String :=
  ".".intercalate ((List.range 4).map fun i => toString (n / 256 ^ (3 - i) % 256))

/-- The longest run of zeros among the hextets, the first of several: its start and length. -/
def longestZeros (hextets : List (List Char)) : ℕ × ℕ :=
  let (bestStart, bestLen, _, _) := hextets.zipIdx.foldl
    (fun (bestStart, bestLen, start, len) (hextet, index) =>
      if hextet = ['0'] then
        let start := if len = 0 then index else start
        if len + 1 > bestLen then (start, len + 1, start, len + 1)
        else (bestStart, bestLen, start, len + 1)
      else (bestStart, bestLen, 0, 0))
    (0, 0, 0, 0)
  (bestStart, bestLen)

/-- `_compress_hextets`: the longest run of at least two zeros becomes an empty part, with one
more at an end of the address. -/
def compressHextets (hextets : List (List Char)) : List (List Char) :=
  let (start, len) := longestZeros hextets
  if len > 1 then
    (if start = 0 then [[]] else []) ++ hextets.take start ++ [[]] ++
      hextets.drop (start + len) ++ (if start + len = hextets.length then [[]] else [])
  else hextets

/-- `IPv6Address._string_from_ip_int`: eight hextets between colons. -/
def ipv6Text (n : ℕ) : String :=
  let hextets := (List.range 8).map fun i => Nat.toDigits 16 (n / 65536 ^ (7 - i) % 65536)
  String.ofList ([':'].intercalate (compressHextets hextets))

/-- `str(ip)`. -/
def IPAddress.text : IPAddress → String
  | v4 ip => ipv4Text ip.toNat
  | v6 ip none => ipv6Text ip.toNat
  | v6 ip (some scope) => ipv6Text ip.toNat ++ "%" ++ scope

/-- `str(net)`. -/
def IPNetwork.text (net : IPNetwork) : String :=
  net.networkAddress.text ++ "/" ++ toString net.prefixlen

/-- `net.network_address.scope_id`: an IPv4 address has none. -/
def IPNetwork.scopeId : IPNetwork → Option String
  | v4 _ => none
  | v6 _ scope => scope

end ZoneSegmentation
