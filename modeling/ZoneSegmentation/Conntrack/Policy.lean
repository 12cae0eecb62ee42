import ZoneSegmentation.Conntrack.History
import ZoneSegmentation.Config.FirewallRules

/-!
# Connection tracking under a policy

The table is consulted with the stateless verdict of the policy for the zones of each packet. A
blocked packet that passes answers a connection which a packet of the opposite direction opened
and which the policy itself allowed. So where the policy blocks both directions of a pair of
zones nothing ever passes, and the kinds of packets that are no replies follow the rules alone.

## Main definitions

* `Header`: what the firewall sees of a packet
* `Traffic`, `verdictAfter`: the runs of packets and sweeps, and the verdict of the next packet

## Main results

* `opened_of_seen`: every entry of the table was opened by an allowed packet of its flow
* `only_allowed_side_opens`: only the side the rules allow can start a connection
-/

namespace ZoneSegmentation

open KeepAlive

variable {T : Type*}

/-- The verdict for all IP traffic is no stricter than the one for ICMP. -/
theorem firewallAllowed_of_icmp {P : Policy} {src dst : Option String}
    (h : firewallAllowed P src dst true = true) : firewallAllowed P src dst false = true := by
  rcases src with _ | src <;> rcases dst with _ | dst <;> simp_all [firewallAllowed]

/-- The fields of a packet that the firewall and the connection table look at. -/
structure Header where
  src : IPAddress
  dst : IPAddress
  proto : ℕ
  sport : ℕ
  dport : ℕ
  icmpType : Option ℕ
  icmpId : ℕ
  /-- Whether the transport header could be parsed; without it the packet is not tracked. -/
  parsed : Bool

namespace Header

/-- The packet's description for connection tracking. -/
def tracked (h : Header) : Option TrackedPacket :=
  if h.parsed then trackedPacket h.src h.dst h.proto h.sport h.dport h.icmpType h.icmpId else none

/-- Whether the packet is ICMP. -/
def isIcmp (h : Header) : Bool := h.proto = ipprotoIcmp

/-- The stateless verdict of the policy. -/
def allowed (P : Policy) (h : Header) : Bool :=
  firewallAllowed P (zoneForIp P h.src) (zoneForIp P h.dst) h.isIcmp

/-- The kinds of packets that can be replies: TCP, UDP and ICMP echo replies. -/
def ReplyKind (h : Header) : Prop :=
  h.parsed = true ∧ (h.proto = ipprotoTcp ∨ h.proto = ipprotoUdp ∨
    (h.proto = ipprotoIcmp ∧ h.icmpType = some icmpEchoReply))

theorem flow_of_tracked {h : Header} {q : TrackedPacket} (hq : h.tracked = some q) :
    q.flow.src = h.src ∧ q.flow.dst = h.dst ∧ q.flow.proto = h.proto := by
  unfold tracked trackedPacket at hq
  split at hq
  · split at hq
    · cases hq; simp
    · split at hq
      · cases hq; simp
      · split at hq
        · cases hq; simp
        · cases hq
  · cases hq

theorem replyKind_of_mayReply {h : Header} {q : TrackedPacket} (hq : h.tracked = some q)
    (hr : q.mayReply = true) : h.ReplyKind := by
  unfold tracked trackedPacket at hq
  split at hq
  · rename_i hp
    refine ⟨hp, ?_⟩
    split at hq
    · rename_i hproto
      exact hproto.elim Or.inl fun h => Or.inr (Or.inl h)
    · split at hq
      · cases hq; cases hr
      · split at hq
        · rename_i hproto
          exact Or.inr (Or.inr hproto)
        · cases hq
  · cases hq

end Header

/-- What is given to the table: packets, and sweeps of idle connections. -/
inductive Traffic (T : Type*) where
  | packet (now : T) (h : Header)
  | expire (now : T)

/-- The call of the table. -/
def Traffic.call (P : Policy) : Traffic T → Call T
  | packet now h => .check now (h.allowed P) h.tracked
  | expire now => .expire now

variable [AddCommGroup T] [LinearOrder T]

/-- The verdict on a packet after a run. -/
def verdictAfter (P : Policy) (τ : T) (past : List (Traffic T)) (now : T) (h : Header) :
    Option Verdict :=
  ((tableAfter τ (past.map (Traffic.call P))).check now (h.allowed P) h.tracked).1

/-- Every entry of the table was opened by an allowed packet of its flow. -/
theorem opened_of_seen {τ : T} {calls : List (Call T)} {f : Flow}
    (h : (tableAfter τ calls).seen f ≠ none) :
    ∃ now p, Call.check now true (some p) ∈ calls ∧ p.mayOpen = true ∧ p.flow = f := by
  induction calls using List.reverseRecOn with
  | nil => exact absurd rfl h
  | append_singleton calls c ih =>
    have hold (h : (tableAfter τ calls).seen f ≠ none) :
        ∃ now p, Call.check now true (some p) ∈ calls ++ [c] ∧ p.mayOpen = true ∧ p.flow = f := by
      obtain ⟨now, p, hmem, hp⟩ := ih h
      exact ⟨now, p, List.mem_append_left _ hmem, hp⟩
    rw [tableAfter, Run.final_snoc, ← tableAfter] at h
    cases c with
    | expire now =>
      rw [ConnectionTable.call, ConnectionTable.seen_expire] at h
      exact hold fun hn => h (by rw [hn]; rfl)
    | check now b p =>
      rw [ConnectionTable.call, ← Flow.reversed_reversed f, seen_check, Signals.keepStep] at h
      split at h
      · rename_i hopen
        rcases b with _ | _ <;> rcases p with _ | q <;> simp [Call.signals] at hopen
        exact ⟨now, q, by simp, hopen.1, of_decide_eq_true hopen.2⟩
      · split at h
        · rename_i halive
          obtain ⟨-, s, hs, -⟩ := halive
          exact hold fun hn => by simp [hn] at hs
        · exact hold h

/-- A blocked packet that passes is of a kind that can be a reply, and an earlier packet, allowed
by the policy and able to open a connection, carried exactly the reversed flow. -/
theorem opener_of_blocked_pass {P : Policy} {τ : T} {past : List (Traffic T)} {now : T}
    {h : Header} (hpass : verdictAfter P τ past now h ≠ none) (hblocked : h.allowed P = false) :
    h.ReplyKind ∧ ∃ q now' h' q', h.tracked = some q ∧ Traffic.packet now' h' ∈ past ∧
      h'.allowed P = true ∧ h'.tracked = some q' ∧ q'.mayOpen = true ∧
      q'.flow = q.flow.reversed := by
  -- the policy blocks it, so that it can only be a reply
  have hreply : verdictAfter P τ past now h = some .reply := by
    have hnew : verdictAfter P τ past now h ≠ some .new := by
      rw [verdictAfter, ne_eq, ConnectionTable.check_new_iff, hblocked]
      simp
    cases hv : verdictAfter P τ past now h with
    | none => exact absurd hv hpass
    | some v =>
      cases v with
      | new => exact absurd hv hnew
      | reply => rfl
  obtain ⟨-, q, hq, hmay, halive⟩ := (ConnectionTable.check_reply_iff ..).mp hreply
  refine ⟨Header.replyKind_of_mayReply hq hmay, q, ?_⟩
  obtain ⟨s, hs, -⟩ := ConnectionTable.alive_iff.mp halive
  have hseen : (tableAfter τ (past.map (Traffic.call P))).seen q.flow.reversed ≠ none := by
    rw [Option.mem_def.mp hs]
    simp
  obtain ⟨now', p, hmem, hopen, hflow⟩ := opened_of_seen hseen
  obtain ⟨e, he, hcall⟩ := List.mem_map.mp hmem
  cases e with
  | expire t => cases hcall
  | packet t h' =>
    obtain ⟨-, hallowed, htracked⟩ := Call.check.inj hcall
    exact ⟨t, h', p, hq, he, hallowed, htracked, hopen, hflow⟩

/-- **Only the side the rules allow can start a connection.** After any run of packets and sweeps:
a packet that passes although the policy blocks it is a TCP or UDP packet or an echo reply, and
its exactly reversed flow was carried by an earlier packet that the policy itself allowed and that
could open a connection. Hence (i) when the policy blocks both directions between two zones for a
class of packets, all IP or ICMP, no packet of the class passes; and (ii) a packet of another
kind, such as an echo request, an ICMP error or an untracked packet, passes only if the policy
allows it. -/
theorem only_allowed_side_opens (P : Policy) (τ : T) (past : List (Traffic T)) (now : T)
    (h : Header) :
    (verdictAfter P τ past now h ≠ none → h.allowed P = false →
      h.ReplyKind ∧ ∃ q now' h' q', h.tracked = some q ∧ Traffic.packet now' h' ∈ past ∧
        h'.allowed P = true ∧ h'.tracked = some q' ∧ q'.mayOpen = true ∧
        q'.flow = q.flow.reversed) ∧
    (∀ (A B : String) (icmpOnly : Bool), (icmpOnly = true → h.isIcmp = true) →
      zoneForIp P h.src = some A → zoneForIp P h.dst = some B →
      firewallAllowed P (some A) (some B) icmpOnly = false →
      firewallAllowed P (some B) (some A) icmpOnly = false →
      verdictAfter P τ past now h = none) ∧
    (¬ h.ReplyKind → (verdictAfter P τ past now h ≠ none ↔ h.allowed P = true)) := by
  refine ⟨fun hpass hblocked => opener_of_blocked_pass hpass hblocked, ?_, fun hkind => ?_⟩
  · intro A B icmpOnly hclass hA hB hAB hBA
    have hblocks {x y : Option String} (hxy : firewallAllowed P x y icmpOnly = false) :
        firewallAllowed P x y h.isIcmp = false := by
      cases hi : h.isIcmp with
      | false =>
        have : icmpOnly = false := by simpa [hi] using hclass
        rwa [this] at hxy
      | true =>
        cases icmpOnly with
        | true => exact hxy
        | false => exact Bool.eq_false_iff.mpr fun ht => by simp [firewallAllowed_of_icmp ht] at hxy
    -- a packet that passed would have had an opener from the other zone, which is blocked too
    by_contra hpass
    have hblocked : h.allowed P = false := by rw [Header.allowed, hA, hB]; exact hblocks hAB
    obtain ⟨-, q, -, h', q', hq, -, hallowed, hq', -, hflow⟩ :=
      opener_of_blocked_pass hpass hblocked
    obtain ⟨hsrc, hdst, hproto⟩ := Header.flow_of_tracked hq
    obtain ⟨hsrc', hdst', hproto'⟩ := Header.flow_of_tracked hq'
    simp only [hflow, Flow.reversed, hsrc, hdst, hproto] at hsrc' hdst' hproto'
    have hicmp : h'.isIcmp = h.isIcmp := by simp [Header.isIcmp, hproto']
    rw [Header.allowed, ← hsrc', ← hdst', hA, hB, hicmp, hblocks hBA] at hallowed
    cases hallowed
  · constructor
    · intro hpass
      by_contra hblocked
      exact hkind (opener_of_blocked_pass hpass (Bool.not_eq_true _ ▸ hblocked)).1
    · intro hallowed
      have := (ConnectionTable.check_new_iff (tableAfter τ (past.map (Traffic.call P))) now
        (h.allowed P) h.tracked).mpr hallowed
      rw [verdictAfter, this]
      simp

end ZoneSegmentation
