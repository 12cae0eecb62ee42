import ZoneSegmentation.Conntrack.Policy

/-!
# Frames and OpenFlow messages

The frames a switch hands to the controller, as POX parses them, and the messages the controller
sends back. A transport header that could not be parsed is just bytes.

## Main definitions

* `Frame`, `Arp`, `Ipv4`: a parsed frame and its contents
* `Ipv4.tracked`: `_tracked`, the packet's description for connection tracking
* `OfpMatch`, `OfpMatch.fromPacket`, `OfpMatch.Matches`: what a switch rule matches
* `Message`, `Sent`: the messages of the controller

## Main results

* `Ipv4.tracked_eq_header`: connection tracking sees the header the firewall sees
* `OfpMatch.matches_fromPacket_ip`: when an IP frame matches the rule made from another
-/

namespace ZoneSegmentation

/-! ## Frames -/

/-- `EthAddr`. -/
abbrev EthAddr := BitVec 48

/-- `IPAddr`, POX's IPv4 address. -/
abbrev IPAddr := BitVec 32

/-- `EthAddr(text)`, for the texts that `matchMac` accepts: the value of their digits. -/
def ethAddr (text : String) : EthAddr :=
  BitVec.ofNat 48 ((text.toList.filterMap digit?).foldl (fun n d => 16 * n + d) 0)

/-- `addr.is_multicast`: the lowest bit of the first octet. -/
def isMulticast (addr : EthAddr) : Bool := addr.getLsbD 40

/-- `ETHER_BROADCAST`. -/
def etherBroadcast : EthAddr := BitVec.allOnes 48

/-- An ARP message. -/
structure Arp where
  opcode : ℕ
  hwsrc : EthAddr
  hwdst : EthAddr
  protosrc : IPAddr
  protodst : IPAddr
  deriving DecidableEq

/-- `arp.REQUEST` and `arp.REPLY`. -/
def arpRequest : ℕ := 1
def arpReply : ℕ := 2

/-- The parsed contents of an IP packet; `raw` when no transport header was parsed. -/
inductive Payload where
  | tcp (srcport dstport : ℕ)
  | udp (srcport dstport : ℕ)
  /-- The identifier is that of an echo message, 0 without one. -/
  | icmp (type code echoId : ℕ)
  | raw
  deriving DecidableEq

/-- The protocol whose header was parsed, if any. -/
def Payload.proto? : Payload → Option ℕ
  | tcp .. => some ipprotoTcp
  | udp .. => some ipprotoUdp
  | icmp .. => some ipprotoIcmp
  | raw => none

theorem icmp_payload_proto (type code echoId : ℕ) :
    ∀ p ∈ (Payload.icmp type code echoId).proto?, p = ipprotoIcmp := by
  simp [Payload.proto?]

/-- The two transport fields a rule can match: the ports, or the type and code of an ICMP
message. -/
def Payload.tp? : Payload → Option (ℕ × ℕ)
  | tcp srcport dstport | udp srcport dstport => some (srcport, dstport)
  | icmp type code _ => some (type, code)
  | raw => none

/-- An IPv4 packet. `pack` is taken to fail for none, and to change none of these fields. -/
structure Ipv4 where
  /-- The identity of the packet object. -/
  uid : ℕ
  srcip : IPAddr
  dstip : IPAddr
  protocol : ℕ
  tos : ℕ
  ttl : ℕ
  payload : Payload
  /-- A parsed transport header is one of the packet's protocol. -/
  payload_proto : ∀ p ∈ payload.proto?, p = protocol
  deriving DecidableEq

/-- What a frame carries. -/
inductive Body where
  | lldp
  | arp (a : Arp)
  | ip (p : Ipv4)
  | other (etherType : ℕ)
  deriving DecidableEq

/-- `packet.type`. -/
def Body.type : Body → ℕ
  | lldp => 0x88cc
  | arp _ => 0x0806
  | ip _ => 0x0800
  | other t => t

/-- A frame as POX parses it. -/
structure Frame where
  /-- Whether the Ethernet header could be parsed. -/
  parsed : Bool
  src : EthAddr
  dst : EthAddr
  body : Body
  deriving DecidableEq

namespace Ipv4

/-- `_tracked`. -/
def tracked (ip : Ipv4) : Option TrackedPacket :=
  if ip.protocol = ipprotoTcp ∨ ip.protocol = ipprotoUdp then
    match ip.payload with
    | .tcp srcport dstport | .udp srcport dstport =>
      trackedPacket (.v4 ip.srcip) (.v4 ip.dstip) ip.protocol srcport dstport none 0
    | _ => none
  else if ip.protocol = ipprotoIcmp then
    match ip.payload with
    | .icmp type _ echoId =>
      trackedPacket (.v4 ip.srcip) (.v4 ip.dstip) ip.protocol 0 0 (some type) echoId
    | _ => none
  else none

/-- `ip_pkt.protocol == ipv4.ICMP_PROTOCOL`. -/
def isIcmp (ip : Ipv4) : Bool := ip.protocol = ipprotoIcmp

/-- What the firewall and the connection table look at. -/
def header (ip : Ipv4) : Header where
  src := .v4 ip.srcip
  dst := .v4 ip.dstip
  proto := ip.protocol
  sport := match ip.payload with
    | .tcp srcport _ | .udp srcport _ => srcport
    | _ => 0
  dport := match ip.payload with
    | .tcp _ dstport | .udp _ dstport => dstport
    | _ => 0
  icmpType := match ip.payload with
    | .icmp type _ _ => some type
    | _ => none
  icmpId := match ip.payload with
    | .icmp _ _ echoId => echoId
    | _ => 0
  parsed := ip.payload ≠ .raw

/-- Connection tracking sees the header the firewall sees. -/
theorem tracked_eq_header (ip : Ipv4) : ip.tracked = ip.header.tracked := by
  obtain ⟨uid, srcip, dstip, protocol, tos, ttl, payload, hproto⟩ := ip
  cases payload with
  | raw => simp [tracked, header, Header.tracked]
  | tcp srcport dstport | udp srcport dstport =>
    obtain rfl := hproto _ rfl
    simp [tracked, header, Header.tracked, trackedPacket]
  | icmp type code echoId =>
    obtain rfl := hproto _ rfl
    simp [tracked, header, Header.tracked, trackedPacket, ipprotoIcmp, ipprotoTcp, ipprotoUdp]

end Ipv4

/-! ## Rules of a switch -/

/-- `ofp_match`; a field that is `none` is wildcarded. -/
structure OfpMatch where
  inPort : Option ℕ
  dlSrc : Option EthAddr
  dlDst : Option EthAddr
  dlType : Option ℕ
  nwSrc : Option IPAddr
  nwDst : Option IPAddr
  nwProto : Option ℕ
  nwTos : Option ℕ
  tpSrc : Option ℕ
  tpDst : Option ℕ
  deriving DecidableEq

namespace OfpMatch

/-- `ofp_match.from_packet`: the port fields stay wildcarded when no transport header was parsed;
an ICMP message gives its type and code, not its identifier. -/
def fromPacket (packet : Frame) (inPort : ℕ) : OfpMatch :=
  let link : OfpMatch :=
    ⟨some inPort, some packet.src, some packet.dst, some packet.body.type, none, none, none, none,
      none, none⟩
  match packet.body with
  | .ip p =>
    { link with
      nwSrc := some p.srcip, nwDst := some p.dstip, nwProto := some p.protocol
      nwTos := some p.tos, tpSrc := p.payload.tp?.map Prod.fst
      tpDst := p.payload.tp?.map Prod.snd }
  | .arp a =>
    if a.opcode ≤ 255 then
      { link with nwProto := some a.opcode, nwSrc := some a.protosrc, nwDst := some a.protodst }
    else link
  | _ => link

/-- Whether a field of a packet is as a rule asks for. -/
def Agrees {α : Type} (rule packet : Option α) : Prop := rule = none ∨ rule = packet

instance {α : Type} [DecidableEq α] (rule packet : Option α) : Decidable (Agrees rule packet) :=
  inferInstanceAs (Decidable (_ ∨ _))

@[simp] theorem agrees_some {α : Type} {a : α} {packet : Option α} :
    Agrees (some a) packet ↔ packet = some a := by
  simp [Agrees, eq_comm]

@[simp] theorem agrees_none {α : Type} {packet : Option α} : Agrees none packet := .inl rfl

/-- Whether a packet that arrives at a port matches: it has every field that is not
wildcarded. -/
def Matches (m : OfpMatch) (inPort : ℕ) (packet : Frame) : Prop :=
  let f := fromPacket packet inPort
  Agrees m.inPort f.inPort ∧ Agrees m.dlSrc f.dlSrc ∧ Agrees m.dlDst f.dlDst ∧
    Agrees m.dlType f.dlType ∧ Agrees m.nwSrc f.nwSrc ∧ Agrees m.nwDst f.nwDst ∧
    Agrees m.nwProto f.nwProto ∧ Agrees m.nwTos f.nwTos ∧ Agrees m.tpSrc f.tpSrc ∧
    Agrees m.tpDst f.tpDst

instance (m : OfpMatch) (inPort : ℕ) (packet : Frame) : Decidable (m.Matches inPort packet) :=
  inferInstanceAs (Decidable (_ ∧ _))

/-- The fields of two IP packets that a rule made from one of them compares. -/
structure SameFields (p q : Ipv4) : Prop where
  srcip : q.srcip = p.srcip
  dstip : q.dstip = p.dstip
  protocol : q.protocol = p.protocol
  tos : q.tos = p.tos
  tp : ∀ ports ∈ p.payload.tp?, q.payload.tp? = some ports

theorem SameFields.refl (p : Ipv4) : SameFields p p := ⟨rfl, rfl, rfl, rfl, fun _ h => h⟩

theorem SameFields.trans {p q r : Ipv4} (h : SameFields p q) (h' : SameFields q r) :
    SameFields p r :=
  ⟨h'.srcip.trans h.srcip, h'.dstip.trans h.dstip, h'.protocol.trans h.protocol,
    h'.tos.trans h.tos, fun ports hp => h'.tp ports (h.tp ports hp)⟩

theorem agrees_tp {p q : Payload} :
    Agrees (p.tp?.map Prod.fst) (q.tp?.map Prod.fst) ∧
      Agrees (p.tp?.map Prod.snd) (q.tp?.map Prod.snd) ↔ ∀ ports ∈ p.tp?, q.tp? = some ports := by
  rcases p.tp? with _ | ⟨s, d⟩ <;> rcases q.tp? with _ | ⟨s', d'⟩ <;> simp

/-- An IP frame's rule, its ingress port replaced by `inPort`, matches exactly the IP frames with
the same addresses, protocol and ToS, and with the same ports if those were parsed. -/
theorem matches_fromPacket_ip {packet q : Frame} {p : Ipv4} (hp : packet.body = .ip p)
    {port qPort : ℕ} {inPort : Option ℕ} :
    ({ fromPacket packet port with inPort } : OfpMatch).Matches qPort q ↔
      Agrees inPort (some qPort) ∧ q.src = packet.src ∧ q.dst = packet.dst ∧
        ∃ p', q.body = .ip p' ∧ SameFields p p' := by
  have hfields : ∀ p' : Ipv4, SameFields p p' ↔ p'.srcip = p.srcip ∧ p'.dstip = p.dstip ∧
      p'.protocol = p.protocol ∧ p'.tos = p.tos ∧
        ∀ ports ∈ p.payload.tp?, p'.payload.tp? = some ports := by
    intro p'
    constructor
    · rintro ⟨hsrc, hdst, hproto, htos, htp⟩
      exact ⟨hsrc, hdst, hproto, htos, htp⟩
    · rintro ⟨hsrc, hdst, hproto, htos, htp⟩
      exact ⟨hsrc, hdst, hproto, htos, htp⟩
  cases hq : q.body with
  | ip p' => simp [Matches, fromPacket, hp, hq, Body.type, agrees_tp, hfields]
  | arp a =>
    by_cases ha : a.opcode ≤ 255 <;> simp [Matches, fromPacket, hp, hq, Body.type, ha]
  | lldp => simp [Matches, fromPacket, hp, hq]
  | other t => simp [Matches, fromPacket, hp, hq]

end OfpMatch

/-! ## Messages of the controller -/

/-- An action of a rule. -/
inductive Action where
  | setDlSrc (addr : EthAddr)
  | setDlDst (addr : EthAddr)
  /-- Nicira's `dec_ttl`. -/
  | decTtl
  | output (port : ℕ)
  deriving DecidableEq

/-- `ofp_flow_mod`, which adds a rule; `data` is the packet-in it answers. -/
structure FlowMod where
  ofpMatch : OfpMatch
  idleTimeout : ℕ
  hardTimeout : ℕ
  actions : List Action
  data : Option Frame
  deriving DecidableEq

/-- An ICMP error that quotes the packet it is about. -/
structure IcmpError where
  srcip : IPAddr
  dstip : IPAddr
  type : ℕ
  code : ℕ
  quoted : Ipv4
  deriving DecidableEq

/-- What a frame built by the controller carries. -/
inductive Content where
  | arp (a : Arp)
  | ip (p : Ipv4)
  | icmpError (e : IcmpError)
  deriving DecidableEq

/-- A frame built by the controller. -/
structure OutFrame where
  src : EthAddr
  dst : EthAddr
  content : Content
  deriving DecidableEq

/-- A message to a switch. -/
inductive Message where
  /-- `_packet_out`: send a built frame out of a port. -/
  | packetOut (frame : OutFrame) (port : ℕ)
  /-- `_packet_out_data`: send a received frame out of a port. -/
  | packetOutData (data : Frame) (port : ℕ)
  /-- Send a received frame out of every port but its own (`OFPP_FLOOD`). -/
  | packetOutFlood (data : Frame)
  | flowMod (mod : FlowMod)
  deriving DecidableEq

/-- The frame a message was built for, and the port it leaves from. -/
def Message.built? : Message → Option (OutFrame × ℕ)
  | .packetOut frame port => some (frame, port)
  | _ => none

/-- A message and the switch it is sent to. -/
structure Sent where
  dpid : ℕ
  message : Message
  deriving DecidableEq

end ZoneSegmentation
