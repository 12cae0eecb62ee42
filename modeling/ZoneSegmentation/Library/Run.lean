import Mathlib.Data.List.Basic
import Mathlib.Data.List.Induction

/-!
# Runs of a step function

A system is a step function: from a state and an event it computes the next state and the
outputs of the step. A run feeds it a list of events. Everything said about "every state
reached" or "everything ever sent" is said about `final` and `trace`; what else happens at a step
can be observed from the state and the event.

## Main definitions

* `Run.final step s es`: the state after the events `es`
* `Run.trace step s es`: the outputs of the events `es`, in order
* `Run.observed step obs s es`: the observations of the events `es`, in order
* `Run.total step cost s es`: the sum of a number over the steps

## Main results

* `Run.invariant`: what every step keeps holds in every state reached
* `Run.invariant_of_forall_mem`: the same, for the events that occur
* `Run.mem_trace_iff`: an output of a run is an output of one of its steps
* `Run.view_final`: a view of a run is a run of another system, on the observations
* `Run.final_map`: a map of the states that commutes with the steps commutes with the run
* `Run.balance`: what a run holds and puts out is what it held and took in
* `Run.total_le`: a run costs no more than a potential allows
* `Run.Always.mono_of_invariant`, `Run.Always.congr_of_invariant`: what holds at every step, under
  a condition on the steps, and exactly under it
-/

namespace Run

variable {σ α ω β : Type*} (step : σ → α → σ × List ω)

/-- The state after a list of events. -/
def final (s : σ) : List α → σ
  | [] => s
  | e :: es => final (step s e).1 es

/-- The outputs of a list of events. -/
def trace (s : σ) : List α → List ω
  | [] => []
  | e :: es => (step s e).2 ++ trace (step s e).1 es

/-- What is observed at the steps of a list of events. -/
def observed (obs : σ → α → List β) (s : σ) : List α → List β
  | [] => []
  | e :: es => obs s e ++ observed obs (step s e).1 es

/-- The sum of a number over the steps of a list of events. -/
def total (cost : σ → α → ℕ) (s : σ) : List α → ℕ
  | [] => 0
  | e :: es => cost s e + total cost (step s e).1 es

@[simp] theorem final_nil (s : σ) : final step s [] = s := rfl

@[simp] theorem trace_nil (s : σ) : trace step s [] = [] := rfl

@[simp] theorem final_cons (s : σ) (e : α) (es : List α) :
    final step s (e :: es) = final step (step s e).1 es := rfl

@[simp] theorem trace_cons (s : σ) (e : α) (es : List α) :
    trace step s (e :: es) = (step s e).2 ++ trace step (step s e).1 es := rfl

theorem final_append (s : σ) (es fs : List α) :
    final step s (es ++ fs) = final step (final step s es) fs := by
  induction es generalizing s with
  | nil => rfl
  | cons e es ih => exact ih _

theorem trace_append (s : σ) (es fs : List α) :
    trace step s (es ++ fs) = trace step s es ++ trace step (final step s es) fs := by
  induction es generalizing s with
  | nil => rfl
  | cons e es ih => simp [ih]

@[simp] theorem final_snoc (s : σ) (es : List α) (e : α) :
    final step s (es ++ [e]) = (step (final step s es) e).1 := by
  simp [final_append]

@[simp] theorem trace_snoc (s : σ) (es : List α) (e : α) :
    trace step s (es ++ [e]) = trace step s es ++ (step (final step s es) e).2 := by
  simp [trace_append]

theorem observed_append (obs : σ → α → List β) (s : σ) (es fs : List α) :
    observed step obs s (es ++ fs) =
      observed step obs s es ++ observed step obs (final step s es) fs := by
  induction es generalizing s with
  | nil => rfl
  | cons e es ih => simp [observed, ih]

@[simp] theorem observed_snoc (obs : σ → α → List β) (s : σ) (es : List α) (e : α) :
    observed step obs s (es ++ [e]) = observed step obs s es ++ obs (final step s es) e := by
  simp [observed_append, observed]

/-- What is observed from the events alone. -/
theorem observed_toList (g : α → Option β) (s : σ) (es : List α) :
    observed step (fun _ e => (g e).toList) s es = es.filterMap g := by
  induction es generalizing s with
  | nil => rfl
  | cons e es ih =>
    rw [observed, ih, List.filterMap_cons]
    cases g e <;> rfl

theorem observed_sublist {obs obs' : σ → α → List β} (h : ∀ s e, (obs s e).Sublist (obs' s e))
    (s : σ) (es : List α) : (observed step obs s es).Sublist (observed step obs' s es) := by
  induction es generalizing s with
  | nil => exact .slnil
  | cons e es ih => exact (h s e).append (ih _)

variable {step}

/-- **The invariant rule**: a property of the first state that the steps of the run keep holds
after the run. -/
theorem invariant_of_forall_mem {I : σ → Prop} {s : σ} {es : List α} (h0 : I s)
    (hstep : ∀ t, ∀ e ∈ es, I t → I (step t e).1) : I (final step s es) := by
  induction es generalizing s with
  | nil => exact h0
  | cons e es ih =>
    apply ih (hstep s e List.mem_cons_self h0)
    intro t e' he'
    exact hstep t e' (List.mem_cons_of_mem _ he')

/-- The invariant rule, for a property that every step keeps. -/
theorem invariant {I : σ → Prop} {s : σ} (h0 : I s) (hstep : ∀ t e, I t → I (step t e).1)
    (es : List α) : I (final step s es) :=
  invariant_of_forall_mem h0 fun t e _ => hstep t e

/-- An output of a run is an output of one of its steps. -/
theorem mem_trace_iff {s : σ} {es : List α} {o : ω} :
    o ∈ trace step s es ↔
      ∃ past e rest, es = past ++ e :: rest ∧ o ∈ (step (final step s past) e).2 := by
  induction es generalizing s with
  | nil => simp
  | cons e es ih =>
    rw [trace_cons, List.mem_append, ih]
    constructor
    · rintro (h | ⟨past, e', rest, rfl, h⟩)
      · exact ⟨[], e, es, rfl, h⟩
      · exact ⟨e :: past, e', rest, rfl, h⟩
    · rintro ⟨_ | ⟨e', past⟩, e'', rest, he, h⟩
      · obtain ⟨rfl, rfl⟩ := List.cons.inj he
        exact Or.inl h
      · obtain ⟨rfl, rfl⟩ := List.cons.inj he
        exact Or.inr ⟨past, e'', rest, rfl, h⟩

/-- What is observed in a run is observed at one of its steps. -/
theorem mem_observed_iff {obs : σ → α → List β} {s : σ} {es : List α} {b : β} :
    b ∈ observed step obs s es ↔
      ∃ past e rest, es = past ++ e :: rest ∧ b ∈ obs (final step s past) e := by
  induction es generalizing s with
  | nil => simp [observed]
  | cons e es ih =>
    rw [observed, List.mem_append, ih]
    constructor
    · rintro (h | ⟨past, e', rest, rfl, h⟩)
      · exact ⟨[], e, es, rfl, h⟩
      · exact ⟨e :: past, e', rest, rfl, h⟩
    · rintro ⟨_ | ⟨e', past⟩, e'', rest, he, h⟩
      · obtain ⟨rfl, rfl⟩ := List.cons.inj he
        exact Or.inl h
      · obtain ⟨rfl, rfl⟩ := List.cons.inj he
        exact Or.inr ⟨past, e'', rest, rfl, h⟩

/-- An invariant of the state and the observations so far. -/
theorem invariant_observed {obs : σ → α → List β} {I : σ → List β → Prop} {s : σ} (h0 : I s [])
    (hstep : ∀ t bs e, I t bs → I (step t e).1 (bs ++ obs t e)) (es : List α) :
    I (final step s es) (observed step obs s es) := by
  induction es using List.reverseRecOn with
  | nil => exact h0
  | append_singleton es e ih =>
    rw [final_snoc, observed_snoc]
    exact hstep _ _ e ih

/-- **The balance rule**: if every step accounts for what it takes in by what it holds and what it
puts out, so does the run. -/
theorem balance {I : σ → Prop} (held : σ → ℕ) (isOut : ω → Bool) (obs : σ → α → List β)
    (isIn : β → Bool) {s : σ} (h0 : I s) (hI : ∀ t e, I t → I (step t e).1)
    (hstep : ∀ t e, I t →
      held (step t e).1 + (step t e).2.countP isOut = held t + (obs t e).countP isIn)
    (es : List α) : held (final step s es) + (trace step s es).countP isOut =
      held s + (observed step obs s es).countP isIn := by
  induction es generalizing s with
  | nil => rfl
  | cons e es ih =>
    have hrest := ih (hI s e h0)
    have hfirst := hstep s e h0
    simp only [final_cons, trace_cons, observed, List.countP_append]
    omega

/-- The balance rule, for the events that occur. -/
theorem balance_of_forall_mem {I : σ → Prop} (held : σ → ℕ) (isOut : ω → Bool)
    (obs : σ → α → List β) (isIn : β → Bool) {s : σ} {es : List α} (h0 : I s)
    (hI : ∀ t, ∀ e ∈ es, I t → I (step t e).1)
    (hstep : ∀ t, ∀ e ∈ es, I t →
      held (step t e).1 + (step t e).2.countP isOut = held t + (obs t e).countP isIn) :
    held (final step s es) + (trace step s es).countP isOut =
      held s + (observed step obs s es).countP isIn := by
  induction es generalizing s with
  | nil => rfl
  | cons e es ih =>
    have hrest := ih (hI s e List.mem_cons_self h0)
      (fun t e' he' => hI t e' (List.mem_cons_of_mem _ he'))
      (fun t e' he' => hstep t e' (List.mem_cons_of_mem _ he'))
    have hfirst := hstep s e List.mem_cons_self h0
    simp only [final_cons, trace_cons, observed, List.countP_append]
    omega

theorem total_append (cost : σ → α → ℕ) (s : σ) (es fs : List α) :
    total step cost s (es ++ fs) = total step cost s es + total step cost (final step s es) fs := by
  induction es generalizing s with
  | nil => simp [total]
  | cons e es ih =>
    rw [List.cons_append, total, total, ih, final_cons, Nat.add_assoc]

/-- **The potential rule**: if every step is paid for by what a potential falls by and what comes
in, a run is paid for by the potential it started with and what came in. -/
theorem total_le {I : σ → Prop} (potential : σ → ℕ) (cost income : σ → α → ℕ) {s : σ} (h0 : I s)
    (hI : ∀ t e, I t → I (step t e).1)
    (hstep : ∀ t e, I t → potential (step t e).1 + cost t e ≤ potential t + income t e)
    (es : List α) : potential (final step s es) + total step cost s es ≤
      potential s + total step income s es := by
  induction es generalizing s with
  | nil => exact Nat.le_refl _
  | cons e es ih =>
    have hrest := ih (hI s e h0)
    have hfirst := hstep s e h0
    simp only [final_cons, total]
    omega

/-- A number that depends on the events alone. -/
theorem total_countP (p : α → Bool) (n : ℕ) (s : σ) (es : List α) :
    total step (fun _ e => if p e then n else 0) s es = n * es.countP p := by
  induction es generalizing s with
  | nil => rfl
  | cons e es ih =>
    rw [total, ih, List.countP_cons, Nat.mul_add]
    split <;> omega

/-- Two observations that count the same at every step count the same over a run. -/
theorem countP_observed_congr {γ : Type*} {I : σ → Prop} {obs : σ → α → List β}
    {obs' : σ → α → List γ} {p : β → Bool} {q : γ → Bool} {s : σ} (h0 : I s)
    (hI : ∀ t e, I t → I (step t e).1)
    (h : ∀ t e, I t → (obs t e).countP p = (obs' t e).countP q) (es : List α) :
    (observed step obs s es).countP p = (observed step obs' s es).countP q := by
  induction es generalizing s with
  | nil => rfl
  | cons e es ih =>
    rw [observed, observed, List.countP_append, List.countP_append, h s e h0, ih (hI s e h0)]

/-- The events themselves, as observations. -/
theorem observed_singleton (s : σ) (es : List α) : observed step (fun _ e => [e]) s es = es := by
  induction es generalizing s with
  | nil => rfl
  | cons e es ih => rw [observed, ih, List.singleton_append]

/-- What observations say about the events of a run, in order. -/
theorem map_observed_sublist {γ : Type*} {obs : σ → α → List β} {f : β → γ} {g : α → Option γ}
    (h : ∀ s e, ((obs s e).map f).Sublist (g e).toList) (s : σ) (es : List α) :
    ((observed step obs s es).map f).Sublist (es.filterMap g) := by
  induction es generalizing s with
  | nil => exact .slnil
  | cons e es ih =>
    have hcons : (e :: es).filterMap g = (g e).toList ++ es.filterMap g := by
      rw [List.filterMap_cons]
      cases g e <;> rfl
    rw [hcons, observed, List.map_append]
    exact (h s e).append (ih _)

/-- **The refinement rule**: if each step does to a view of the state what another system does on
the step's observations, so does the run. -/
theorem view_final {τ ω' : Type*} {step' : τ → β → τ × List ω'} (view : σ → τ)
    {obs : σ → α → List β} {I : σ → Prop} {s : σ} (h0 : I s) (hI : ∀ t e, I t → I (step t e).1)
    (h : ∀ t e, I t → view (step t e).1 = final step' (view t) (obs t e)) (es : List α) :
    view (final step s es) = final step' (view s) (observed step obs s es) := by
  induction es generalizing s with
  | nil => rfl
  | cons e es ih => rw [final_cons, ih (hI s e h0), h s e h0, observed, final_append]

/-- Two runs on the same events, one from the image of the other's state: if a map of the states
commutes with the steps, it commutes with the run, and the outputs are the same. -/
theorem final_map {v : σ → σ} {s : σ} {es : List α}
    (h : ∀ t, ∀ e ∈ es, step (v t) e = (v (step t e).1, (step t e).2)) :
    final step (v s) es = v (final step s es) ∧ trace step (v s) es = trace step s es := by
  induction es generalizing s with
  | nil => exact ⟨rfl, rfl⟩
  | cons e es ih =>
    obtain ⟨hfinal, htrace⟩ := ih (s := (step s e).1) fun t e' he' =>
      h t e' (List.mem_cons_of_mem _ he')
    simp only [final_cons, trace_cons, h s e List.mem_cons_self, hfinal, htrace, and_self]

/-- Along two such runs, what the map keeps of an observation is observed of both. -/
theorem observed_map {v : σ → σ} {obs : σ → α → List β} {s : σ} {es : List α}
    (h : ∀ t, ∀ e ∈ es, step (v t) e = (v (step t e).1, (step t e).2))
    (hobs : ∀ t, ∀ e ∈ es, obs (v t) e = obs t e) :
    observed step obs (v s) es = observed step obs s es := by
  induction es generalizing s with
  | nil => rfl
  | cons e es ih =>
    rw [observed, observed, hobs s e List.mem_cons_self, h s e List.mem_cons_self]
    apply congrArg₂ _ rfl
    apply ih
    · intro t e' he'
      exact h t e' (List.mem_cons_of_mem _ he')
    · intro t e' he'
      exact hobs t e' (List.mem_cons_of_mem _ he')

/-! ## What holds at every step -/

variable (step) in
/-- A condition on the state and the event holds at every step of a run. -/
def Always (P : σ → α → Prop) (s : σ) : List α → Prop
  | [] => True
  | e :: es => P s e ∧ Always P (step s e).1 es

theorem always_iff {P : σ → α → Prop} {s : σ} {es : List α} : Always step P s es ↔
    ∀ past e rest, es = past ++ e :: rest → P (final step s past) e := by
  induction es generalizing s with
  | nil => simp [Always]
  | cons e es ih =>
    rw [Always, ih]
    constructor
    · rintro ⟨h, hs⟩ (_ | ⟨e', past⟩) e'' rest heq
      · obtain ⟨rfl, rfl⟩ := List.cons.inj heq
        exact h
      · obtain ⟨rfl, rfl⟩ := List.cons.inj heq
        exact hs past e'' rest rfl
    · intro h
      exact ⟨h [] e es rfl, fun past e' rest heq => h (e :: past) e' rest (by rw [heq]; rfl)⟩

instance {P : σ → α → Prop} [∀ s e, Decidable (P s e)] : (s : σ) → (es : List α) →
    Decidable (Always step P s es)
  | _, [] => .isTrue trivial
  | s, e :: es => @instDecidableAnd _ _ (inferInstance) (instDecidableAlways (step s e).1 es)

/-- Two conditions that agree in every state reached hold of the same runs. -/
theorem Always.congr_of_invariant {I : σ → Prop} {C P : σ → α → Prop} {s : σ} (h0 : I s)
    (hI : ∀ t e, I t → I (step t e).1) (h : ∀ t e, I t → (P t e ↔ C t e)) (es : List α) :
    Always step P s es ↔ Always step C s es := by
  induction es generalizing s with
  | nil => rfl
  | cons e es ih => exact and_congr (h s e h0) (ih (hI s e h0))

/-- The invariant rule, for a property that a step keeps under a condition. -/
theorem Always.mono_of_invariant {I : σ → Prop} {C P : σ → α → Prop} {s : σ} {es : List α}
    (hC : Always step C s es) (h0 : I s)
    (hstep : ∀ t e, I t → C t e → I (step t e).1 ∧ P t e) : Always step P s es := by
  induction es generalizing s with
  | nil => trivial
  | cons e es ih =>
    obtain ⟨hI, hP⟩ := hstep s e h0 hC.1
    exact ⟨hP, ih hC.2 hI⟩

/-- A run whose steps all cost one costs its length. -/
theorem Always.total_eq {C : σ → α → Prop} {cost : σ → α → ℕ} {s : σ} {es : List α}
    (hC : Always step C s es) (hcost : ∀ t e, C t e → cost t e = 1) :
    total step cost s es = es.length := by
  induction es generalizing s with
  | nil => rfl
  | cons e es ih => rw [total, hcost s e hC.1, ih hC.2, List.length_cons, Nat.add_comm]

/-- No event of a run satisfies what no step of it does. -/
theorem Always.countP_eq_zero {C : σ → α → Prop} {p : α → Bool} {s : σ} {es : List α}
    (hC : Always step C s es) (hp : ∀ t e, C t e → p e = false) : es.countP p = 0 := by
  induction es generalizing s with
  | nil => rfl
  | cons e es ih => rw [List.countP_cons, ih hC.2, hp s e hC.1]; rfl

/-- The state after a run has a property that a step keeps under a condition. -/
theorem Always.invariant {I : σ → Prop} {C : σ → α → Prop} {s : σ} {es : List α}
    (hC : Always step C s es) (h0 : I s) (hstep : ∀ t e, I t → C t e → I (step t e).1) :
    I (final step s es) := by
  induction es generalizing s with
  | nil => exact h0
  | cons e es ih => exact ih hC.2 (hstep s e h0 hC.1)

end Run
