import Mathlib.Data.List.Count
import Mathlib.Data.List.Nodup

/-!
# Hosts at the ports of switches

Switches are joined by links, with hosts at some of their ports, and at every switch one port leads
toward a host. A frame that goes out of any other port has that host behind it from then on. So a
flood, which sends a copy out of each port but one, sends on exactly one copy that has the host
ahead of it, and where floods meet no loop the host receives one copy.

## Main definitions

* `HostTree`: links, and the direction of every host at every switch
* `HostTree.End`, `HostTree.Ahead`: the end of a link, and the hosts that are ahead of a frame there

## Main results

* `HostTree.toward_of_far`: a frame that leaves away from a host arrives from the side of that host
* `HostTree.countP_ahead_flood`: of the copies of a flood, exactly one has the host ahead of it
-/

namespace HostTree

/-- What a port leads to: a host, or a port of another switch. -/
inductive End (S P H : Type*) where
  | host (h : H)
  | switch (s : S) (p : P)
  deriving DecidableEq

variable {S P H : Type*}

/-- A frame at the end of a link has a host ahead of it: it has come to that host, or to a switch by
another port than the one that leads toward the host. -/
def End.Ahead (toward : S → H → Option P) (h : H) : End S P H → Prop
  | .host h' => h' = h
  | .switch s p => toward s h ≠ some p

instance [DecidableEq H] [DecidableEq P] (toward : S → H → Option P) (h : H) :
    DecidablePred (End.Ahead toward h)
  | .host h' => inferInstanceAs (Decidable (h' = h))
  | .switch s p => inferInstanceAs (Decidable (toward s h ≠ some p))

end HostTree

/-- Links between switches and to hosts, and the port of a switch that leads toward a host. A frame
that leaves a switch has a host ahead of it exactly if it left by that port. -/
structure HostTree (S P H : Type*) where
  far : S → P → Option (HostTree.End S P H)
  toward : S → H → Option P
  ahead_iff : ∀ {s p e h q}, far s p = some e → toward s h = some q →
    (e.Ahead toward h ↔ q = p)

namespace HostTree

variable {S P H : Type*} (T : HostTree S P H)

/-- A frame has a host ahead of it. -/
def Ahead (h : H) (e : End S P H) : Prop := e.Ahead T.toward h

instance [DecidableEq H] [DecidableEq P] (h : H) : DecidablePred (T.Ahead h) :=
  inferInstanceAs (DecidablePred (End.Ahead T.toward h))

variable {T}

@[simp] theorem ahead_host {h h' : H} : T.Ahead h (.host h') ↔ h' = h := Iff.rfl

@[simp] theorem ahead_switch {h : H} {s : S} {p : P} :
    T.Ahead h (.switch s p) ↔ T.toward s h ≠ some p := Iff.rfl

/-- **A frame that leaves a switch away from a host arrives from the side of that host.** -/
theorem toward_of_far {s s' : S} {p p' q : P} {h : H} (hfar : T.far s p = some (.switch s' p'))
    (htoward : T.toward s h = some q) (hne : q ≠ p) : T.toward s' h = some p' := by
  by_contra hahead
  exact hne ((T.ahead_iff hfar htoward).mp hahead)

/-- A port that leads to a host leads toward that host alone. -/
theorem eq_of_far_host {s : S} {p : P} {h h' : H} (hfar : T.far s p = some (.host h'))
    (htoward : T.toward s h = some p) : h' = h :=
  (T.ahead_iff hfar htoward).mpr rfl

variable [DecidableEq P]

/-- **A flood goes on toward a host in one copy**: of the copies that leave by different ports,
those with the host ahead of them are the one that leaves toward it. A predicate `K` that says so of
each copy counts just that one. -/
theorem countP_ahead_flood {s : S} {q : P} {ps : List P} (hnodup : ps.Nodup)
    (hwired : (T.far s q).isSome) (K : End S P H → Bool)
    (hK : ∀ p ∈ ps, ∀ e, T.far s p = some e → (K e = true ↔ q = p)) :
    (ps.filterMap (T.far s)).countP K = if q ∈ ps then 1 else 0 := by
  rw [List.countP_filterMap, ← hnodup.count, List.count_eq_countP]
  refine List.countP_congr fun p hp => ?_
  cases hfar : T.far s p with
  | none =>
    have hne : p ≠ q := by
      rintro rfl
      simp [hfar] at hwired
    simp [hne]
  | some e =>
    rw [Option.map_some, Option.getD_some, hK p hp e hfar, beq_iff_eq]
    exact eq_comm

end HostTree
