import Mathlib.Data.List.Basic

/-!
# Procedures

A procedure works on a state, may emit messages, and returns a value or raises an exception.
What was written and emitted before an exception stays written and emitted.

## Main definitions

* `Outcome`: how a procedure ended, the state it left, and what it emitted, in order
* `Proc`: procedures, a monad
* `Proc.get`, `Proc.modify`, `Proc.emit`, `Proc.raise`: reading and writing the state, sending,
  and failing
* `Proc.Blind`: a procedure that does not look at part of the state

## Main results

* `Proc.run_bind_of_ok`: a sequence continues where its first part ended
* `Proc.run_forM`: a loop whose turns leave the state alone emits what its turns emit
* `Proc.Blind.bind`, `Proc.Blind.get_bind`, `Proc.Blind.forM`: what is built from procedures that do
  not look at part of the state does not either
-/

/-- How a procedure ended. -/
structure Outcome (σ ω ε α : Type*) where
  /-- The value, or the exception. -/
  result : Except ε α
  state : σ
  /-- What was emitted, oldest first. -/
  log : List ω

/-- A procedure on states `σ` that emits `ω`, raises `ε` and returns `α`. -/
structure Proc (σ ω ε α : Type*) where
  run : σ → Outcome σ ω ε α

namespace Proc

universe u

variable {σ ω ε : Type*} {α β : Type u}

/-- The outcome of a run that also emitted `log` before. -/
def after (log : List ω) (o : Outcome σ ω ε α) : Outcome σ ω ε α := { o with log := log ++ o.log }

/-- Run `m`, and on its value continue with `f`. -/
def andThen (m : Proc σ ω ε α) (f : α → Proc σ ω ε β) : Proc σ ω ε β := ⟨fun s =>
  match m.run s with
  | ⟨.ok a, s', log⟩ => after log ((f a).run s')
  | ⟨.error e, s', log⟩ => ⟨.error e, s', log⟩⟩

instance : Monad (Proc σ ω ε) where
  pure a := ⟨fun s => ⟨.ok a, s, []⟩⟩
  bind := andThen

/-- The current state. -/
def get : Proc σ ω ε σ := ⟨fun s => ⟨.ok s, s, []⟩⟩

/-- Replace the state by its image. -/
def modify (f : σ → σ) : Proc σ ω ε Unit := ⟨fun s => ⟨.ok (), f s, []⟩⟩

/-- Emit a message. -/
def emit (x : ω) : Proc σ ω ε Unit := ⟨fun s => ⟨.ok (), s, [x]⟩⟩

/-- Raise an exception. -/
def raise (e : ε) : Proc σ ω ε α := ⟨fun s => ⟨.error e, s, []⟩⟩

/-- The value of an optional result, or an exception. -/
def ofOption (x : Option α) (e : ε) : Proc σ ω ε α :=
  match x with
  | some a => pure a
  | none => raise e

@[simp] theorem after_nil (o : Outcome σ ω ε α) : after [] o = o := rfl

@[simp] theorem after_mk (log log' : List ω) (r : Except ε α) (s : σ) :
    after log ⟨r, s, log'⟩ = ⟨r, s, log ++ log'⟩ := rfl

@[simp] theorem run_pure (a : α) (s : σ) : (pure a : Proc σ ω ε α).run s = ⟨.ok a, s, []⟩ := rfl

@[simp] theorem run_get (s : σ) : (get : Proc σ ω ε σ).run s = ⟨.ok s, s, []⟩ := rfl

@[simp] theorem run_modify (f : σ → σ) (s : σ) :
    (modify f : Proc σ ω ε Unit).run s = ⟨.ok (), f s, []⟩ := rfl

@[simp] theorem run_emit (x : ω) (s : σ) :
    (emit x : Proc σ ω ε Unit).run s = ⟨.ok (), s, [x]⟩ := rfl

@[simp] theorem run_ofOption_some (a : α) (e : ε) (s : σ) :
    (ofOption (some a) e : Proc σ ω ε α).run s = ⟨.ok a, s, []⟩ := rfl

/-- A sequence continues where its first part ended. -/
theorem run_bind_of_ok {m : Proc σ ω ε α} {f : α → Proc σ ω ε β} {s s' : σ} {a : α}
    {log : List ω} (h : m.run s = ⟨.ok a, s', log⟩) :
    (m >>= f).run s = after log ((f a).run s') := by
  change (andThen m f).run s = _
  simp only [andThen, h]

theorem andThen_pure (m : Proc σ ω ε α) : andThen m (fun a => pure a) = m := by
  obtain ⟨run⟩ := m
  apply congrArg mk
  funext s
  cases hrun : run s with
  | mk result s' log => cases result <;> simp [hrun, pure]

/-- Sequences of procedures can be regrouped. -/
theorem andThen_assoc {γ : Type u} (m : Proc σ ω ε α) (f : α → Proc σ ω ε β)
    (g : β → Proc σ ω ε γ) : andThen (andThen m f) g = andThen m fun a => andThen (f a) g := by
  apply congrArg mk
  funext s
  simp only [andThen]
  obtain ⟨result, s', log⟩ := m.run s
  cases result with
  | error e => rfl
  | ok a =>
    simp only [after]
    obtain ⟨result', s'', log'⟩ := (f a).run s'
    cases result' <;> simp

instance : LawfulMonad (Proc σ ω ε) :=
  LawfulMonad.mk' _ andThen_pure (fun _ _ => rfl) andThen_assoc

/-- A loop whose turns leave the state alone emits what its turns emit. -/
theorem run_forM {α : Type*} {xs : List α} {m : α → Proc σ ω ε PUnit} {g : α → List ω} {s : σ}
    (h : ∀ x ∈ xs, (m x).run s = ⟨.ok ⟨⟩, s, g x⟩) :
    (xs.forM m).run s = ⟨.ok ⟨⟩, s, xs.flatMap g⟩ := by
  induction xs with
  | nil => rfl
  | cons x xs ih =>
    change (m x >>= fun _ => xs.forM m).run s = _
    rw [run_bind_of_ok (h x List.mem_cons_self), ih fun y hy => h y (List.mem_cons_of_mem _ hy),
      after_mk, List.flatMap_cons]

/-! ## Procedures that do not look at part of the state -/

section Blind

variable {v : σ → σ}

/-- A procedure does not see what a map of the states forgets: from the image of a state it ends in
the same way, emits the same, and leaves the image of the state. -/
structure Blind (v : σ → σ) (m : Proc σ ω ε α) : Prop where
  run_eq : ∀ s, m.run (v s) = { m.run s with state := v (m.run s).state }

theorem Blind.pure (a : α) : Blind v (Pure.pure a : Proc σ ω ε α) := ⟨fun _ => rfl⟩

theorem Blind.emit (x : ω) : Blind v (Proc.emit x : Proc σ ω ε Unit) := ⟨fun _ => rfl⟩

theorem Blind.ofOption (x : Option α) (e : ε) : Blind v (Proc.ofOption x e : Proc σ ω ε α) := by
  constructor
  intro s
  cases x <;> rfl

/-- A write of what the map keeps. -/
theorem Blind.modify {f : σ → σ} (h : ∀ s, f (v s) = v (f s)) :
    Blind v (Proc.modify f : Proc σ ω ε Unit) := by
  constructor
  intro s
  rw [run_modify, run_modify, h]

theorem Blind.bind {m : Proc σ ω ε α} {f : α → Proc σ ω ε β} (hm : Blind v m)
    (hf : ∀ a, Blind v (f a)) : Blind v (m >>= f) := by
  constructor
  intro s
  change (andThen m f).run (v s) =
    { (andThen m f).run s with state := v ((andThen m f).run s).state }
  simp only [andThen, hm.run_eq s]
  obtain ⟨result, s', log⟩ := m.run s
  cases result with
  | error e => rfl
  | ok a => simp only [(hf a).run_eq s', after]

/-- Reading the state, when the rest only uses what the map keeps. -/
theorem Blind.get_bind {σ : Type u} {v : σ → σ} {f : σ → Proc σ ω ε β} (h : ∀ s, f (v s) = f s)
    (hf : ∀ s, Blind v (f s)) : Blind v (get >>= f) := by
  constructor
  intro s
  rw [run_bind_of_ok (run_get (v s)), run_bind_of_ok (run_get s), after_nil, after_nil, h]
  exact (hf s).run_eq s

theorem Blind.forM {α : Type*} {m : α → Proc σ ω ε PUnit} (h : ∀ x, Blind v (m x))
    (xs : List α) : Blind v (xs.forM m) := by
  induction xs with
  | nil => exact .pure _
  | cons x xs ih => exact (h x).bind fun _ => ih

end Blind

end Proc
