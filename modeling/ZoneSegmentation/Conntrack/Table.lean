import ZoneSegmentation.Config.IPAddress
import ZoneSegmentation.Library.KeepAlive

/-!
# The connection table

`conntrack.py`: a table of the connections the policy allowed to start, keyed by the flow in
their opening direction, with the time each was last seen. Times are the elements of any ordered
group; every call is taken at one instant `now`, the reading of the table's clock.

## Main definitions

* `Flow`, `Flow.reversed`: one direction of a connection, and the other
* `TrackedPacket`, `trackedPacket`: a packet as the table sees it, `none` for untracked kinds
* `ConnectionTable`, with `alive`, `track`, `isReply`, `expire`, `check`: the table

## Main results

* `Flow.reversed_reversed`: reversing twice gives the flow back
* `seen_track`, `seen_isReply`, `seen_expire`: what each call does to the stored times
* `check_new_iff`, `check_reply_iff`: when a packet passes, and as what
-/

namespace ZoneSegmentation

/-- The protocol numbers and ICMP types of `conntrack.py`. -/
def ipprotoIcmp : ℕ := 1
def ipprotoTcp : ℕ := 6
def ipprotoUdp : ℕ := 17
def icmpEchoReply : ℕ := 0
def icmpEchoRequest : ℕ := 8

/-- One direction of a connection. -/
structure Flow where
  src : IPAddress
  dst : IPAddress
  proto : ℕ
  sport : ℕ
  dport : ℕ
  deriving DecidableEq

/-- The other direction. -/
def Flow.reversed (f : Flow) : Flow := ⟨f.dst, f.src, f.proto, f.dport, f.sport⟩

@[simp] theorem Flow.reversed_reversed (f : Flow) : f.reversed.reversed = f := rfl

@[simp] theorem Flow.reversed_inj {f g : Flow} : f.reversed = g.reversed ↔ f = g :=
  ⟨fun h => by simpa using congrArg Flow.reversed h, congrArg _⟩

/-- A packet for connection tracking: its flow, whether it can start a connection, and whether it
can be a reply to one. -/
structure TrackedPacket where
  flow : Flow
  mayOpen : Bool
  mayReply : Bool
  deriving DecidableEq

/-- `tracked_packet`: a TCP or UDP packet can open and reply, an echo request only open, an echo
reply only reply; no other kind is tracked. -/
def trackedPacket (src dst : IPAddress) (proto sport dport : ℕ) (icmpType : Option ℕ)
    (icmpId : ℕ) : Option TrackedPacket :=
  if proto = ipprotoTcp ∨ proto = ipprotoUdp then
    some ⟨⟨src, dst, proto, sport, dport⟩, true, true⟩
  else if proto = ipprotoIcmp ∧ icmpType = some icmpEchoRequest then
    some ⟨⟨src, dst, proto, icmpId, icmpId⟩, true, false⟩
  else if proto = ipprotoIcmp ∧ icmpType = some icmpEchoReply then
    some ⟨⟨src, dst, proto, icmpId, icmpId⟩, false, true⟩
  else none

/-- What `check` answers for a packet that passes. -/
inductive Verdict where
  /-- The policy allows the packet. -/
  | new
  /-- The policy blocks the packet, but it answers a tracked connection. -/
  | reply
  deriving DecidableEq

/-- `ConnectionTable`: the connections that the policy allowed to start. -/
structure ConnectionTable (T : Type*) where
  idleTimeout : T
  /-- The flow in its opening direction, and when it was last seen. -/
  lastSeen : Dict Flow T

namespace ConnectionTable

variable {T : Type*}

/-- A new table. -/
def init (idleTimeout : T) : ConnectionTable T := ⟨idleTimeout, Dict.empty⟩

/-- The stored time of a flow. -/
def seen (t : ConnectionTable T) (f : Flow) : Option T := t.lastSeen.get? f

/-- Record, or refresh, a connection opened in the direction of `f`. -/
def track (t : ConnectionTable T) (now : T) (f : Flow) : ConnectionTable T :=
  { t with lastSeen := t.lastSeen.set f now }

@[simp] theorem seen_init (τ : T) (f : Flow) : (init τ).seen f = none := rfl

@[simp] theorem idleTimeout_track (t : ConnectionTable T) (now : T) (f : Flow) :
    (t.track now f).idleTimeout = t.idleTimeout := rfl

theorem seen_track (t : ConnectionTable T) (now : T) (f g : Flow) :
    (t.track now f).seen g = if g = f then some now else t.seen g := Dict.get?_set ..

variable [AddCommGroup T] [LinearOrder T]

/-- `_alive`: the flow was last seen less than the timeout ago. -/
def alive (t : ConnectionTable T) (now : T) (f : Flow) : Bool :=
  match t.seen f with
  | none => false
  | some seen => now - seen < t.idleTimeout

/-- `is_reply`: whether `f` answers a live connection; a hit refreshes it. -/
def isReply (t : ConnectionTable T) (now : T) (f : Flow) : Bool × ConnectionTable T :=
  if t.alive now f.reversed then (true, t.track now f.reversed) else (false, t)

/-- `expire`: drop idle connections, and tell how many. -/
def expire (t : ConnectionTable T) (now : T) : ℕ × ConnectionTable T :=
  let stale := t.lastSeen.keys.filter fun f => !t.alive now f
  (stale.length, { t with lastSeen := stale.foldl Dict.erase t.lastSeen })

/-- `check`: the stateless verdict of the policy, combined with the connection state. -/
def check (t : ConnectionTable T) (now : T) (policyAllowed : Bool)
    (packet : Option TrackedPacket) : Option Verdict × ConnectionTable T :=
  if policyAllowed then
    -- an untracked packet passes too, and leaves no entry
    match packet with
    | some p => (some .new, if p.mayOpen then t.track now p.flow else t)
    | none => (some .new, t)
  else
    match packet with
    | some p =>
      -- only a packet that may be a reply is looked up, so a failed lookup refreshes nothing
      if p.mayReply then
        let (hit, t') := t.isReply now p.flow
        (if hit then some .reply else none, t')
      else (none, t)
    | none => (none, t)

/-! ## Stored times -/

@[simp] theorem idleTimeout_expire (t : ConnectionTable T) (now : T) :
    (t.expire now).2.idleTimeout = t.idleTimeout := rfl

@[simp] theorem idleTimeout_isReply (t : ConnectionTable T) (now : T) (f : Flow) :
    (t.isReply now f).2.idleTimeout = t.idleTimeout := by
  unfold isReply
  split <;> rfl

@[simp] theorem idleTimeout_check (t : ConnectionTable T) (now : T) (b : Bool)
    (p : Option TrackedPacket) : (t.check now b p).2.idleTimeout = t.idleTimeout := by
  unfold check
  split
  · split
    · split <;> rfl
    · rfl
  · split
    · split
      · simp
      · rfl
    · rfl

theorem alive_iff {t : ConnectionTable T} {now : T} {f : Flow} :
    t.alive now f = true ↔ KeepAlive.Alive t.idleTimeout (t.seen f) now := by
  unfold alive
  split <;> simp [*]

theorem seen_isReply (t : ConnectionTable T) (now : T) (f g : Flow) :
    (t.isReply now f).2.seen g =
      if g = f.reversed ∧ t.alive now g then some now else t.seen g := by
  unfold isReply
  by_cases h : t.alive now f.reversed = true
  · rw [if_pos h, seen_track]
    by_cases hg : g = f.reversed
    · simp [hg, h]
    · simp [hg]
  · rw [if_neg h]
    by_cases hg : g = f.reversed
    · simp [hg, h]
    · simp [hg]

theorem seen_expire (t : ConnectionTable T) (now : T) (f : Flow) :
    (t.expire now).2.seen f = (t.seen f).filter fun s => now - s < t.idleTimeout := by
  unfold expire seen
  rw [Dict.get?_foldl_erase]
  cases hs : t.lastSeen.get? f with
  | none => simp
  | some s =>
    have hk : f ∈ t.lastSeen.keys := Dict.mem_keys_iff.mpr ⟨s, hs⟩
    by_cases hlt : now - s < t.idleTimeout <;> simp [alive, seen, hs, hk, hlt, Option.filter]

/-! ## Verdicts -/

/-- A packet the policy allows passes as `new`. -/
theorem check_new_iff (t : ConnectionTable T) (now : T) (b : Bool) (p : Option TrackedPacket) :
    (t.check now b p).1 = some .new ↔ b = true := by
  unfold check isReply
  cases b with
  | true => cases p <;> simp
  | false =>
    cases p with
    | none => simp
    | some q =>
      cases hq : q.mayReply
      · simp [hq]
      · by_cases h : t.alive now q.flow.reversed = true <;> simp [hq, h]

/-- A packet passes as `reply` when the policy blocks it, it can be a reply, and the connection
it answers is alive. -/
theorem check_reply_iff (t : ConnectionTable T) (now : T) (b : Bool) (p : Option TrackedPacket) :
    (t.check now b p).1 = some .reply ↔
      b = false ∧ ∃ q, p = some q ∧ q.mayReply = true ∧ t.alive now q.flow.reversed = true := by
  unfold check isReply
  cases b with
  | true => cases p <;> simp
  | false =>
    cases p with
    | none => simp
    | some q =>
      cases hq : q.mayReply
      · simp [hq]
      · by_cases h : t.alive now q.flow.reversed = true <;> simp [hq, h]

end ConnectionTable

end ZoneSegmentation
