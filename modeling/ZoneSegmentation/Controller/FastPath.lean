import ZoneSegmentation.Controller.DropRules
import ZoneSegmentation.Controller.Tracking
import ZoneSegmentation.Daemon.Decision
import Mathlib.Tactic.Linarith

/-!
# The switches' fast path

The rules of a routed connection let the switches forward its packets without the controller.
Whatever they forward the controller would let pass at that moment: a rule does not outlive the
connection that it was installed for, and matches only packets with its addresses, protocol and
ports. The one exception are echo replies that the policy blocks: a rule does not see their
identifier.

## Main definitions

* `PacketIn.Honest`: the firewall daemon answers as the rules do
* `daemonReply`, `AnsweredBy`: the answer of a daemon, and packet-ins whose call returned it or
  raised
* `Message.routedRule?`: the rules of routed connections

## Main results

* `honest_of_builtFor`: the answers of a daemon that is built for the policy are honest
* `alive_after`: a connection that was just seen is alive for its idle timeout
* `fast_path_forwards_only_allowed`: what the fast path forwards the controller would let pass
-/

namespace ZoneSegmentation

open OfpMatch KeepAlive

/-- The firewall's answer about a packet-in, if any, is that of the rules. -/
def PacketIn.Honest (P : Policy) (ev : PacketIn) : Prop :=
  ∀ p, ev.packet.body = .ip p → ∀ answer ∈ ev.firewall, answer.1 = p.header.allowed P

/-- What `is_allowed(srcip, dstip, IPPROTO_ICMP if is_icmp else 0)` returns when the daemon
answers. -/
def daemonReply (t : Tables) (p : Ipv4) : Option (Bool × BitVec 8) :=
  (daemonAnswer t p.srcip p.dstip (if p.isIcmp then 1 else 0)).map fun r => (r.1 = 1, r.2)

/-- The call to the daemon about a packet-in returned its answer, or raised. -/
def AnsweredBy (t : Tables) (ev : PacketIn) : Prop :=
  ∀ p, ev.packet.body = .ip p → ev.firewall = none ∨ ev.firewall = daemonReply t p

/-- A rule of a routed connection: it answers no packet-in, and does not drop. -/
def Message.routedRule? : Message → Option FlowMod
  | .flowMod mod => if mod.data = none ∧ mod.actions ≠ [] then some mod else none
  | _ => none

variable {D : Deployment} {s : ZoneRouter}

theorem header_allowed (P : Policy) (p : Ipv4) : p.header.allowed P =
    firewallAllowed P (zoneForIp P (.v4 p.srcip)) (zoneForIp P (.v4 p.dstip)) p.isIcmp := rfl

/-- **The answers of a daemon that is built for the policy are honest.** The request carries the
protocol only of ICMP, and the addresses instead of their zones. -/
theorem honest_of_builtFor {P : Policy} {t : Tables} (ht : BuiltFor P t) {ev : PacketIn}
    (hanswer : AnsweredBy t ev) : ev.Honest P := by
  intro p hbody answer hfirewall
  rcases hanswer p hbody with hnone | hreply
  · simp [hnone] at hfirewall
  · obtain ⟨verdict, hdaemon, hiff⟩ := ht.exists_answer p.srcip p.dstip (if p.isIcmp then 1 else 0)
    rw [hreply, daemonReply, hdaemon, Option.map_some, Option.mem_some_iff] at hfirewall
    have hicmp : decide ((if p.isIcmp then 1 else 0 : BitVec 8) = 1) = p.isIcmp := by
      cases p.isIcmp <;> rfl
    rw [hicmp] at hiff
    rw [← hfirewall, header_allowed, Bool.eq_iff_iff, ← hiff, decide_eq_true_iff]

/-! ## The rules of a routed connection -/

/-- What is known of a packet-in that causes a rule of a routed connection: its packet is to cross
zones and passes, and the rule matches its fields at a port of its zone. -/
structure RoutedBy (D : Deployment) (s : ZoneRouter) (ev : PacketIn) (dpid : ℕ) (mod : FlowMod)
    (p : Ipv4) (snd : Sender) (dstZone : String) : Prop where
  crossing : crossing D ev = some (p, snd, dstZone)
  verdict : s.verdict D ev p snd.zone dstZone ≠ none
  ofpMatch : ∃ inPort, mod.ofpMatch = { fromPacket ev.packet ev.port with inPort := some inPort } ∧
    zoneOfPort D.maps dpid inPort = some snd.zone
  hardTimeout : mod.hardTimeout = routedFlowHardTimeout

/-- The rules of a packet that is forwarded. -/
theorem routedBy_of_mem_routeFlowsSent {ev : PacketIn} {p : Ipv4} {snd : Sender}
    {dstZone : String} {loc : Location} {m : Sent} {mod : FlowMod}
    (hcross : crossing D ev = some (p, snd, dstZone))
    (hverdict : s.verdict D ev p snd.zone dstZone ≠ none)
    (hm : m ∈ routeFlowsSent D s ev dstZone loc) (hmod : m.message.routedRule? = some mod) :
    RoutedBy D s ev m.dpid mod p snd dstZone := by
  obtain ⟨hsender, hbody, -⟩ := crossing_eq_some hcross
  have hzone := (acceptedSender_eq_some hsender).2.2.2.1
  obtain ⟨-, rfl | ⟨-, uplink, -, rfl⟩⟩ := mem_routeFlowsSent.mp hm
  · obtain rfl : coreMod D ev dstZone loc = mod := by
      simpa [Message.routedRule?, coreMod] using hmod
    obtain ⟨inPort, hport, hinZone⟩ := D.exists_corePortFor hzone
    refine ⟨hcross, hverdict, ⟨inPort, by rw [← hport]; rfl, ?_⟩, rfl⟩
    rw [zoneOfPort, if_pos rfl, hinZone]
    rfl
  · obtain rfl : leafMod ev uplink = mod := by simpa [Message.routedRule?, leafMod] using hmod
    exact ⟨hcross, hverdict, ⟨ev.port, by simp [leafMod, fromPacket, hbody], hzone⟩, rfl⟩

/-- What such a rule matches comes in at a port of its packet's zone, from an address of that zone,
and has the fields of its packet. -/
theorem RoutedBy.of_matches {ev : PacketIn} {dpid : ℕ} {mod : FlowMod} {p₀ : Ipv4} {snd : Sender}
    {dstZone : String} (h : RoutedBy D s ev dpid mod p₀ snd dstZone) {port : ℕ} {packet : Frame}
    {p : Ipv4} (hmatch : mod.ofpMatch.Matches port packet) (hbody : packet.body = .ip p) :
    zoneOfPort D.maps dpid port = some snd.zone ∧
      sourceIpValidForZone D.policy (.v4 p.srcip) snd.zone = true ∧ SameFields p₀ p := by
  obtain ⟨hsender, hbody₀, -⟩ := crossing_eq_some h.crossing
  obtain ⟨inPort, hofp, hzone⟩ := h.ofpMatch
  rw [hofp, matches_fromPacket_ip hbody₀, agrees_some] at hmatch
  obtain ⟨hport, -, -, p', hbody', hsame⟩ := hmatch
  obtain rfl := Body.ip.inj (hbody.symm.trans hbody')
  obtain rfl := Option.some.inj hport
  obtain ⟨-, -, hclaim, -, hvalid⟩ := acceptedSender_eq_some hsender
  simp only [Frame.claim, hbody₀, Option.some.injEq, Prod.mk.injEq] at hclaim
  exact ⟨hzone, by rw [hsame.srcip, hclaim.1, hvalid], hsame⟩

/-- Only a packet that is forwarded causes rules of a routed connection. -/
theorem routedBy_of_handled {ev : PacketIn} {s' : ZoneRouter} {log : List Sent}
    (hstep : Handled D s ev s' log) {m : Sent} (hm : m ∈ log) {mod : FlowMod}
    (hmod : m.message.routedRule? = some mod) :
    ∃ p snd dstZone, RoutedBy D s ev m.dpid mod p snd dstZone := by
  obtain ⟨dpid, message⟩ := m
  cases message with
  | flowMod mod' =>
    rcases hstep.flowMod hm with ⟨-, ⟨outPort, rfl⟩, -⟩ | ⟨-, rfl, -⟩ |
      ⟨p, snd, dstZone, loc, hcross, hverdict, -, hm⟩
    · simp [Message.routedRule?, l2Mod] at hmod
    · simp [Message.routedRule?, dropMod] at hmod
    · exact ⟨p, snd, dstZone, routedBy_of_mem_routeFlowsSent hcross hverdict hm hmod⟩
  | _ => cases hmod

/-! ## Connections that were just seen -/

/-- The calls of a run, around that about a packet that crosses zones. -/
theorem callsOf_append_packetIn (fwClient : Bool) (past rest : List Event) {ev : PacketIn}
    {p : Ipv4} {snd : Sender} {dstZone : String}
    (hcross : crossing D ev = some (p, snd, dstZone)) :
    callsOf D fwClient (past ++ .packetIn ev :: rest) =
      callsOf D fwClient past ++ [.check ev.now ((stateAfter D fwClient past).policyAllowed D
        snd.zone dstZone p.isIcmp ev.firewall) p.tracked] ++
      Run.observed (step D) (callsBy D) (step D (stateAfter D fwClient past) (.packetIn ev)).1
        rest := by
  rw [callsOf, Run.observed_append, Run.observed, callsBy, hcross, ← List.append_assoc]
  rfl

/-- A packet that opens the connection, or passes as a reply on it, is remembered whatever happens
later: the connection counts as seen at its time, or after it. -/
theorem exists_lastKept_after {fwClient : Bool} {past rest : List Event} {ev : PacketIn} {p : Ipv4}
    {snd : Sender} {dstZone : String} {q : TrackedPacket} {f : Flow}
    (htimed : TimedEvents (past ++ .packetIn ev :: rest))
    (hcross : crossing D ev = some (p, snd, dstZone)) (hq : p.tracked = some q)
    (hseen : let verdict := (stateAfter D fwClient past).verdict D ev p snd.zone dstZone
      verdict = some .new ∧ q.mayOpen = true ∧ q.flow = f.reversed ∨
        verdict = some .reply ∧ q.flow = f) :
    ∃ t, (Call.signals f).lastKept idleTimeout
      (callsOf D fwClient (past ++ .packetIn ev :: rest)) = some t ∧ ev.now ≤ t := by
  have hcalls := callsOf_append_packetIn fwClient past rest hcross
  have hcallsTimed : (Call.signals f).Timed
      (callsOf D fwClient (past ++ .packetIn ev :: rest)) := timed_callsOf htimed
  rw [hcalls] at hcallsTimed ⊢
  have hbefore : (Call.signals f).Timed (callsOf D fwClient past) ∧
      (Call.signals f).Before (callsOf D fwClient past) ev.now :=
    Signals.timed_snoc.mp (Signals.timed_append.mp hcallsTimed).1
  apply Signals.exists_lastKept_append _ hcallsTimed
  rw [Signals.lastKept_snoc, Signals.keepStep]
  rcases hseen with ⟨hnew, hopen, hflow⟩ | ⟨hreply, hflow⟩
  · have hallowed := (ConnectionTable.check_new_iff ..).mp hnew
    rw [if_pos]
    · rfl
    · simp [Call.signals, hallowed, hq, hopen, hflow]
  · obtain ⟨hblocked, q', hq', hmay, halive⟩ := (ConnectionTable.check_reply_iff ..).mp hreply
    obtain rfl := Option.some.inj (hq.symm.trans hq')
    rw [conns_stateAfter, hflow, alive_tableAfter idleTimeout f hbefore.1 hbefore.2] at halive
    rw [hblocked, if_neg, if_pos]
    · rfl
    · exact ⟨by simp [Call.signals, hq, hmay, hflow], halive⟩
    · simp [Call.signals]

/-- **A connection that just let a blocked packet pass is alive for its idle timeout**, whatever
happens meanwhile. -/
theorem alive_after {fwClient : Bool} {past rest : List Event} {ev : PacketIn} {p : Ipv4}
    {snd : Sender} {dstZone : String} {q : TrackedPacket} {t : ℚ}
    (htimed : TimedEvents (past ++ .packetIn ev :: rest))
    (hnow : ∀ u ∈ (past ++ .packetIn ev :: rest).filterMap Event.time?, u ≤ t)
    (ht : t < ev.now + idleTimeout) (hcross : crossing D ev = some (p, snd, dstZone))
    (hverdict : (stateAfter D fwClient past).verdict D ev p snd.zone dstZone = some .reply)
    (hq : p.tracked = some q) :
    (stateAfter D fwClient (past ++ .packetIn ev :: rest)).conns.alive t q.flow.reversed =
      true := by
  obtain ⟨seen, hseen, hle⟩ := exists_lastKept_after (f := q.flow) htimed hcross hq
    (.inr ⟨hverdict, rfl⟩)
  rw [conns_stateAfter, alive_tableAfter idleTimeout q.flow
    (timed_callsOf htimed) (before_callsOf hnow q.flow), hseen, alive_some]
  linarith

/-! ## What the fast path forwards -/

/-- An ICMP echo reply. -/
def Ipv4.IsEchoReply (p : Ipv4) : Prop := ∃ code id, p.payload = .icmp icmpEchoReply code id

/-- A packet that may be a reply, and is no echo reply, has an exact match. -/
theorem matchIsExact_of_mayReply {p : Ipv4} {q : TrackedPacket} (hq : p.tracked = some q)
    (hmay : q.mayReply = true) (hecho : ¬ p.IsEchoReply) : p.MatchIsExact := by
  unfold Ipv4.MatchIsExact
  cases hp : p.payload with
  | tcp | udp => trivial
  | raw => simp [Ipv4.tracked_of_raw hp] at hq
  | icmp type code id =>
    rw [Ipv4.tracked_of_icmp hp] at hq
    refine ⟨?_, fun htype => hecho ⟨code, id, htype ▸ hp⟩⟩
    rintro rfl
    obtain rfl := Option.some.inj hq
    cases hmay

/-- The policy says the same of packets with the same fields. -/
theorem OfpMatch.SameFields.allowed_eq {P : Policy} {p p' : Ipv4} (h : SameFields p p') :
    p'.header.allowed P = p.header.allowed P := by
  rw [header_allowed, header_allowed, h.srcip, h.dstip, Ipv4.isIcmp, Ipv4.isIcmp, h.protocol]

/-- The policy's verdict on a packet that crosses zones. -/
theorem policyAllowed_eq_of_honest {ev : PacketIn} {p : Ipv4} {snd : Sender} {dstZone : String}
    (hcross : crossing D ev = some (p, snd, dstZone)) (hhonest : ev.Honest D.policy) :
    s.policyAllowed D snd.zone dstZone p.isIcmp ev.firewall = p.header.allowed D.policy := by
  obtain ⟨-, hbody, hsrc, hdst, -⟩ := crossing_eq_some hcross
  have hrules : firewallAllowed D.policy (some snd.zone) (some dstZone) p.isIcmp =
      p.header.allowed D.policy := by rw [header_allowed, hsrc, hdst]
  unfold ZoneRouter.policyAllowed
  split
  · split
    · rename_i answer rule hanswer
      exact hhonest p hbody (answer, rule) hanswer
    · exact hrules
  · exact hrules

/-- A packet that the policy blocks passes only as a reply. -/
theorem verdict_eq_reply_of_blocked {ev : PacketIn} {p : Ipv4} {snd : Sender} {dstZone : String}
    (hcross : crossing D ev = some (p, snd, dstZone)) (hhonest : ev.Honest D.policy)
    (hblocked : p.header.allowed D.policy = false)
    (hverdict : s.verdict D ev p snd.zone dstZone ≠ none) :
    s.verdict D ev p snd.zone dstZone = some .reply := by
  have hallowed := policyAllowed_eq_of_honest (s := s) hcross hhonest
  cases hv : s.verdict D ev p snd.zone dstZone with
  | none => exact absurd hv hverdict
  | some v =>
    cases v with
    | reply => rfl
    | new => simp [(ConnectionTable.check_new_iff ..).mp hv, hblocked] at hallowed

/-- **The fast path never forwards what the controller would refuse.** Take a rule that the
controller installed in a run for a routed connection, on the honest word of the firewall, and any
later moment `t` at which the rule's hard timeout is not over. A packet that matches the rule then
has a valid source for the zone of the port it came in on, and the connection table lets it pass
under the verdict of the policy, unless it is an echo reply that the policy blocks. -/
theorem fast_path_forwards_only_allowed (D : Deployment) (fwClient : Bool)
    {past rest : List Event} {ev : PacketIn} {m : Sent} {mod : FlowMod}
    (hm : m ∈ (step D (stateAfter D fwClient past) (.packetIn ev)).2)
    (hmod : m.message.routedRule? = some mod) (hhonest : ev.Honest D.policy)
    (htimed : TimedEvents (past ++ .packetIn ev :: rest)) {t : ℚ}
    (hnow : ∀ u ∈ (past ++ .packetIn ev :: rest).filterMap Event.time?, u ≤ t)
    (hactive : t ≤ ev.now + mod.hardTimeout) {port : ℕ} {packet : Frame} {p : Ipv4}
    (hmatch : mod.ofpMatch.Matches port packet) (hbody : packet.body = .ip p) :
    (∃ zone, zoneOfPort D.maps m.dpid port = some zone ∧
      sourceIpValidForZone D.policy (.v4 p.srcip) zone = true) ∧
    (¬ (p.IsEchoReply ∧ p.header.allowed D.policy = false) →
      ((stateAfter D fwClient (past ++ .packetIn ev :: rest)).conns.check t
        (p.header.allowed D.policy) p.tracked).1 ≠ none) := by
  have hstep := step_stepped (routerOk_stateAfter (D := D) fwClient past) (.packetIn ev)
  generalize (step D (stateAfter D fwClient past) (.packetIn ev)).1 = s',
    (step D (stateAfter D fwClient past) (.packetIn ev)).2 = log at hstep hm
  cases hstep with
  | packetIn hhandled =>
    obtain ⟨p₀, snd, dstZone, hrouted⟩ := routedBy_of_handled hhandled hm hmod
    obtain ⟨hzone, hvalid, hsame⟩ := hrouted.of_matches hmatch hbody
    refine ⟨⟨snd.zone, hzone, hvalid⟩, fun hecho => ?_⟩
    cases hpolicy : p.header.allowed D.policy with
    | true =>
      rw [(ConnectionTable.check_new_iff ..).mpr rfl]
      simp
    | false =>
      -- the rule's packet was blocked too, and passed as a reply
      have hreply := verdict_eq_reply_of_blocked hrouted.crossing hhonest
        (hsame.allowed_eq.symm.trans hpolicy) hrouted.verdict
      obtain ⟨-, q, hq, hmay, -⟩ := (ConnectionTable.check_reply_iff ..).mp hreply
      have hexact : p₀.MatchIsExact := by
        refine matchIsExact_of_mayReply hq hmay ?_
        rintro ⟨code, id, hp⟩
        obtain ⟨id', hp'⟩ := hsame.icmp hp
        exact hecho ⟨⟨code, id', hp'⟩, hpolicy⟩
      -- the rule has expired before the connection can
      have halive := alive_after htimed hnow (t := t) (by
        rw [hrouted.hardTimeout] at hactive
        norm_num [routedFlowHardTimeout, idleTimeout] at hactive ⊢
        linarith) hrouted.crossing hreply hq
      rw [(ConnectionTable.check_reply_iff ..).mpr
        ⟨rfl, q, (hsame.tracked_eq hexact).trans hq, hmay, halive⟩]
      simp

/-- The zones of the repository, under one of its rules alone. -/
def answersOnlyJson : Json := .obj [
  ("zones", .obj [
    ("DeptA", zoneJson "10.1.1.0/24" "10.1.1.1" "02:00:00:00:00:01"),
    ("DeptB", zoneJson "10.1.2.0/24" "10.1.2.1" "02:00:00:00:00:02"),
    ("DataCenter", zoneJson "10.1.3.0/24" "10.1.3.1" "02:00:00:00:00:03"),
    ("Trust", zoneJson "192.47.38.0/24" "192.47.38.1" "02:00:00:00:00:04"),
    ("Untrust", zoneJson "108.35.24.0/24" "108.35.24.1" "02:00:00:00:00:05")]),
  ("rules", .arr [ruleJson 7 ["DataCenter"] ["Trust", "Untrust"] "all"])]

/-- The layout of the repository, with a data center that outside hosts can reach, but that can't
start traffic to them. -/
def answersOnly : Deployment where
  policyFile := answersOnlyJson
  networkFile := networkJson
  policy := { policy with
    blockAllIp := {("DataCenter", "Trust"), ("DataCenter", "Untrust")}
    blockIcmp := ∅ }
  net := network
  maps := networkMaps
  policy_ok := Loop.eq_ok_of_toOption (by decide +kernel)
  net_ok := Loop.eq_ok_of_toOption (by decide +kernel)
  maps_ok := portMaps_network

/-- A host outside talks to the server, and the server answers. The policy blocks the answer, which
passes as a reply. 60 seconds later the core's rules still forward the packets of both, and the
controller would let them pass. -/
theorem fast_path_forwards_only_allowed_server :
    let past := [6, 1, 2, 3, 4, 5].map Event.connectionUp ++ [
      hServer.sends etherBroadcast (.arp ⟨arpRequest, hServer.mac, 0, hServer.ip, 0x0A010301⟩) 0,
      hUntrust.sends etherBroadcast (.arp ⟨arpRequest, hUntrust.mac, 0, hUntrust.ip, 0x6C231801⟩) 0]
    let p := hUntrust.tcp 1 hServer.ip 4000 80
    let ev := hUntrust.frameIn 0x020000000005 (.ip p) 10
    let q := hServer.tcp 2 hUntrust.ip 80 4000
    let ev' := hServer.frameIn 0x020000000003 (.ip q) 20
    p.header.allowed answersOnly.policy = true ∧ q.header.allowed answersOnly.policy = false ∧
    ((∃ zone, zoneOfPort answersOnly.maps 6 7 = some zone ∧
        sourceIpValidForZone answersOnly.policy (.v4 p.srcip) zone = true) ∧
      (¬ (p.IsEchoReply ∧ p.header.allowed answersOnly.policy = false) →
        ((stateAfter answersOnly false (past ++ .packetIn ev :: [.connExpire 40])).conns.check 70
          (p.header.allowed answersOnly.policy) p.tracked).1 ≠ none)) ∧
    ((∃ zone, zoneOfPort answersOnly.maps 6 5 = some zone ∧
        sourceIpValidForZone answersOnly.policy (.v4 q.srcip) zone = true) ∧
      (¬ (q.IsEchoReply ∧ q.header.allowed answersOnly.policy = false) →
        ((stateAfter answersOnly false
            ((past ++ [.packetIn ev]) ++ .packetIn ev' :: [.connExpire 50])).conns.check 80
          (q.header.allowed answersOnly.policy) q.tracked).1 ≠ none)) := by
  intro past p ev q ev'
  let mod := coreMod answersOnly ev "DataCenter" ⟨5, hServer.mac, "DataCenter"⟩
  have hsent : ⟨6, .flowMod mod⟩ ∈
      (step answersOnly (stateAfter answersOnly false past) (.packetIn ev)).2 := by decide +kernel
  have hrouted : (Message.flowMod mod).routedRule? = some mod := by decide +kernel
  have hmatch : mod.ofpMatch.Matches 7 ev.packet := by decide +kernel
  let mod' := coreMod answersOnly ev' "Untrust" ⟨7, hUntrust.mac, "Untrust"⟩
  have hsent' : ⟨6, .flowMod mod'⟩ ∈ (step answersOnly
      (stateAfter answersOnly false (past ++ [.packetIn ev])) (.packetIn ev')).2 := by
    decide +kernel
  have hrouted' : (Message.flowMod mod').routedRule? = some mod' := by decide +kernel
  have hmatch' : mod'.ofpMatch.Matches 5 ev'.packet := by decide +kernel
  refine ⟨by decide +kernel, by decide +kernel, ?_, ?_⟩
  · exact fast_path_forwards_only_allowed answersOnly false hsent hrouted
      (fun p _ answer h => by simp [ev, Station.frameIn] at h) (by decide +kernel)
      (by decide +kernel) (by decide +kernel) hmatch rfl
  · exact fast_path_forwards_only_allowed answersOnly false hsent' hrouted'
      (fun p _ answer h => by simp [ev', Station.frameIn] at h) (by decide +kernel)
      (by decide +kernel) (by decide +kernel) hmatch' rfl

end ZoneSegmentation
