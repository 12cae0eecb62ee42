import ZoneSegmentation.Conntrack.Table
import ZoneSegmentation.Library.Run
import Mathlib.Algebra.Order.Group.Int

/-!
# What the connection table answers, from its history

The verdict of a call depends only on the calls before it: a blocked packet passes exactly when a
chain of earlier calls, the first an allowed packet that opens the connection, keeps the
connection alive up to now. The table is the abstract record of `KeepAlive`, one for each flow,
from which `expire` may have deleted idle entries.

## Main definitions

* `Call`, `ConnectionTable.call`: the calls of a run, and what the table does on each
* `Call.signals f`: what the calls do to the connection that packets of flow `f` answer

## Main results

* `swept_seen`: the table refines the abstract record
* `check_verdict_iff_history`: the verdict of every call of every run, from its history
-/

namespace ZoneSegmentation

open KeepAlive

variable {T : Type*}

/-- A call of the table at one instant. -/
inductive Call (T : Type*) where
  | check (now : T) (policyAllowed : Bool) (packet : Option TrackedPacket)
  | expire (now : T)

namespace Call

/-- When the call is made. -/
def time : Call T → T
  | check now _ _ => now
  | expire now => now

/-- Whether the call is a `check`. -/
def isCheck : Call T → Bool
  | check .. => true
  | expire _ => false

/-- The calls that open, and those that refresh, the connection a packet of flow `f` answers: an
allowed packet of the reversed flow that may open, and a blocked packet of flow `f` that may
reply. -/
def signals (f : Flow) : Signals (Call T) T where
  time := time
  opens
    | check _ true (some p) => p.mayOpen && p.flow = f.reversed
    | _ => false
  refreshes
    | check _ false (some p) => p.mayReply && p.flow = f
    | _ => false

theorem signals_of_not_isCheck (f : Flow) (e : Call T) (h : e.isCheck = false) :
    (signals f).opens e = false ∧ (signals f).refreshes e = false := by
  cases e with
  | check => cases h
  | expire => exact ⟨rfl, rfl⟩

/-- The calls of a run are made at non-decreasing times. -/
def Timed [LinearOrder T] (calls : List (Call T)) : Prop := (calls.map time).Pairwise (· ≤ ·)

instance [LinearOrder T] (calls : List (Call T)) : Decidable (Timed calls) :=
  inferInstanceAs (Decidable (List.Pairwise _ _))

theorem timed_iff [LinearOrder T] (f : Flow) (calls : List (Call T)) :
    Timed calls ↔ (signals f).Timed calls := Iff.rfl

end Call

variable [AddCommGroup T] [LinearOrder T]

/-- What the table does on a call, and the verdict of a `check`. -/
def ConnectionTable.call (t : ConnectionTable T) :
    Call T → ConnectionTable T × List (Option Verdict)
  | .check now b p => ((t.check now b p).2, [(t.check now b p).1])
  | .expire now => ((t.expire now).2, [])

/-- The table after the calls of a run, from an empty one. -/
def tableAfter (τ : T) (calls : List (Call T)) : ConnectionTable T :=
  Run.final ConnectionTable.call (.init τ) calls

theorem idleTimeout_call (t : ConnectionTable T) (c : Call T) :
    (t.call c).1.idleTimeout = t.idleTimeout := by
  cases c <;> simp [ConnectionTable.call]

@[simp] theorem idleTimeout_tableAfter (τ : T) (calls : List (Call T)) :
    (tableAfter τ calls).idleTimeout = τ :=
  Run.invariant (I := fun t => t.idleTimeout = τ) rfl
    (fun t c h => (idleTimeout_call t c).trans h) calls

/-- A `check` does to the stored time of a connection what its signals say. -/
theorem seen_check (t : ConnectionTable T) (f : Flow) (now : T) (b : Bool)
    (p : Option TrackedPacket) :
    (t.check now b p).2.seen f.reversed =
      (Call.signals f).keepStep t.idleTimeout (t.seen f.reversed) (.check now b p) := by
  have hf (g : Flow) : f.reversed = g.reversed ↔ g = f := by rw [Flow.reversed_inj, eq_comm]
  cases b with
  | true =>
    cases p with
    | none => simp [ConnectionTable.check, Signals.keepStep, Call.signals]
    | some q =>
      cases hq : q.mayOpen <;>
        simp [ConnectionTable.check, Signals.keepStep, Call.signals, Call.time, hq,
          ConnectionTable.seen_track, eq_comm]
  | false =>
    cases p with
    | none => simp [ConnectionTable.check, Signals.keepStep, Call.signals]
    | some q =>
      cases hq : q.mayReply
      · simp [ConnectionTable.check, Signals.keepStep, Call.signals, hq]
      · simp [ConnectionTable.check, Signals.keepStep, Call.signals, Call.time, hq,
          ConnectionTable.seen_isReply, ConnectionTable.alive_iff, hf]

variable [IsOrderedAddMonoid T]

/-- **The table refines the abstract record**: the stored time of a connection is the one its
history leaves, unless the connection was idle and a sweep has deleted it. -/
theorem swept_seen (τ : T) (f : Flow) {calls : List (Call T)} (htimed : Call.Timed calls) {t : T}
    (ht : (Call.signals f).Before calls t) :
    Swept τ t ((Call.signals f).lastKept τ calls) ((tableAfter τ calls).seen f.reversed) := by
  induction calls using List.reverseRecOn generalizing t with
  | nil => exact Or.inl rfl
  | append_singleton calls c ih =>
    obtain ⟨hcalls, hbefore⟩ := Signals.timed_snoc.mp ((Call.timed_iff f _).mp htimed)
    have hc : (Call.signals f).time c ≤ t := ht c (by simp)
    -- what is swept at the time of a call is swept at any later time
    refine Swept.mono ?_ hc
    rw [Signals.lastKept_snoc, tableAfter, Run.final_snoc, ← tableAfter]
    have hswept := ih hcalls hbefore
    cases c with
    | check now b p =>
      rw [ConnectionTable.call, seen_check, idleTimeout_tableAfter]
      exact hswept.keepStep (Call.signals f) le_rfl
    | expire now =>
      rw [ConnectionTable.call, ConnectionTable.seen_expire, idleTimeout_tableAfter]
      exact hswept.sweep

/-- A connection is alive exactly when its history keeps it alive. -/
theorem alive_tableAfter (τ : T) (f : Flow) {calls : List (Call T)} {now : T}
    (htimed : Call.Timed calls) (hnow : (Call.signals f).Before calls now) :
    (tableAfter τ calls).alive now f.reversed = true ↔
      Alive τ ((Call.signals f).lastKept τ calls) now := by
  rw [ConnectionTable.alive_iff, idleTimeout_tableAfter]
  exact (swept_seen τ f htimed hnow).alive_iff le_rfl

/-- **The verdict of every call, from its history.** After any calls on an empty table at
non-decreasing times, a `check` answers `new` when the policy allows the packet; `reply` when the
policy blocks it, it may be a reply, and a chain of earlier calls keeps the connection it answers
alive; and nothing else passes. Calls of `expire` change no verdict. -/
theorem check_verdict_iff_history (τ : T) (past : List (Call T)) (now : T) (policyAllowed : Bool)
    (p : Option TrackedPacket)
    (htimed : Call.Timed (past ++ [.check now policyAllowed p])) :
    let verdict := fun calls => ((tableAfter τ calls).check now policyAllowed p).1
    (verdict past = some .new ↔ policyAllowed = true) ∧
      (verdict past = some .reply ↔ policyAllowed = false ∧ ∃ q, p = some q ∧ q.mayReply = true ∧
        ∃ c, (Call.signals q.flow).Chain τ past now c) ∧
      (verdict past = none ↔ policyAllowed = false ∧ ¬ ∃ q, p = some q ∧ q.mayReply = true ∧
        ∃ c, (Call.signals q.flow).Chain τ past now c) ∧
      ∀ past' : List (Call T), Call.Timed (past' ++ [.check now policyAllowed p]) →
        past'.filter Call.isCheck = past.filter Call.isCheck → verdict past' = verdict past := by
  intro verdict
  have hsplit (f : Flow) {calls : List (Call T)}
      (h : Call.Timed (calls ++ [.check now policyAllowed p])) :
      Call.Timed calls ∧ (Call.signals f).Before calls now := by
    have h' : (Call.signals f).Timed (calls ++ [.check now policyAllowed p]) := h
    exact Signals.timed_snoc.mp h'
  have hnew (calls : List (Call T)) : verdict calls = some .new ↔ policyAllowed = true :=
    ConnectionTable.check_new_iff ..
  have hreply {calls : List (Call T)} (h : Call.Timed (calls ++ [.check now policyAllowed p])) :
      verdict calls = some .reply ↔ policyAllowed = false ∧ ∃ q, p = some q ∧ q.mayReply = true ∧
        Alive τ ((Call.signals q.flow).lastKept τ calls) now := by
    refine (ConnectionTable.check_reply_iff ..).trans (and_congr_right fun _ => ?_)
    refine exists_congr fun q => and_congr_right fun _ => and_congr_right fun _ => ?_
    exact alive_tableAfter τ q.flow (hsplit q.flow h).1 (hsplit q.flow h).2
  have hchain : verdict past = some .reply ↔ policyAllowed = false ∧ ∃ q, p = some q ∧
      q.mayReply = true ∧ ∃ c, (Call.signals q.flow).Chain τ past now c := by
    rw [hreply htimed]
    refine and_congr_right fun _ => exists_congr fun q => and_congr_right fun _ =>
      and_congr_right fun _ => ?_
    exact Signals.alive_iff_chain ((Call.timed_iff q.flow _).mp (hsplit q.flow htimed).1) now
  have hnone (v : Option Verdict) : v = none ↔ v ≠ some .new ∧ v ≠ some .reply := by
    rcases v with _ | _ | _ <;> simp
  refine ⟨hnew past, hchain, ?_, fun past' htimed' hfilter => ?_⟩
  · rw [hnone, ne_eq, hnew, ne_eq, hchain, Bool.not_eq_true]
    exact ⟨fun ⟨h, hr⟩ => ⟨h, fun hq => hr ⟨h, hq⟩⟩, fun ⟨h, hr⟩ => ⟨h, fun hq => hr hq.2⟩⟩
  · have hkept (f : Flow) :
        (Call.signals f).lastKept τ past' = (Call.signals f).lastKept τ past := by
      rw [← Signals.lastKept_filter (Call.signals_of_not_isCheck f) past', hfilter,
        Signals.lastKept_filter (Call.signals_of_not_isCheck f)]
    have hsame : verdict past' = some .reply ↔ verdict past = some .reply := by
      simp only [hreply htimed', hreply htimed, hkept]
    have hsame' : verdict past' = some .new ↔ verdict past = some .new := by
      rw [hnew, hnew]
    generalize verdict past' = v at hsame hsame'
    generalize verdict past = w at hsame hsame'
    rcases v with _ | _ | _ <;> rcases w with _ | _ | _ <;> simp_all

/-- An echo reply one instant before the timeout passes, and a chain explains it; at the timeout
it is dropped. -/
theorem check_verdict_at_timeout :
    let request : Flow := ⟨.v4 1#32, .v4 2#32, ipprotoIcmp, 7, 7⟩
    let past : List (Call ℤ) := [.check 0 true (some ⟨request, true, false⟩), .expire 60]
    let reply : TrackedPacket := ⟨request.reversed, false, true⟩
    (∃ c, (Call.signals reply.flow).Chain 120 past 119 c) ∧
      ¬ ∃ c, (Call.signals reply.flow).Chain 120 past 120 c := by
  intro request past reply
  have hin := check_verdict_iff_history 120 past 119 false (some reply) (by decide)
  have hout := check_verdict_iff_history 120 past 120 false (some reply) (by decide)
  constructor
  · obtain ⟨-, q, hq, -, hc⟩ := hin.2.1.mp (by decide)
    cases hq
    exact hc
  · intro hc
    have hreply := hout.2.1.mpr ⟨rfl, reply, rfl, rfl, hc⟩
    exact absurd hreply (by decide)

end ZoneSegmentation
