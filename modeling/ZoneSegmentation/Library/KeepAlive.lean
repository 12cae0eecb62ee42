import Mathlib.Algebra.Order.Group.Defs
import Mathlib.Algebra.Order.Group.Unbundled.Basic
import Mathlib.Data.List.Chain

/-!
# Records kept alive by events

A record with an idle timeout `τ` is created by an opening event, refreshed by later openings
and by the refreshing events that find it alive, and forgotten once `τ` has passed since the
last of these. Whether it is alive is a property of the history: there is a chain of events,
first an opening, whose gaps are all below `τ`. An implementation may also delete idle records
at any time; that is not observable.

## Main definitions

* `KeepAlive.Signals`: when an event happens, and what it does to the record
* `KeepAlive.Signals.lastKept`: the time stored after a history, if the record was ever opened
* `KeepAlive.Signals.Chain`: a chain of events that keeps the record alive up to a time
* `KeepAlive.Swept`: a stored time from which an idle record may have been deleted

## Main results

* `KeepAlive.Signals.alive_iff_chain`: the stored time is recent exactly when there is a chain
* `KeepAlive.Swept.alive_iff`: deleting idle records does not change which records are alive
-/

namespace KeepAlive

variable {α T : Type*}

/-- What the events of a history do to one record. -/
structure Signals (α T : Type*) where
  /-- When the event happens. -/
  time : α → T
  /-- The event opens the record, or opens it again. -/
  opens : α → Bool
  /-- The event refreshes the record if it finds it alive. -/
  refreshes : α → Bool

namespace Signals

variable (S : Signals α T)

/-- A chain is begun by an opening and continued by openings and refreshing events. -/
def Opened (c : List α) : Prop :=
  ∃ e es, c = e :: es ∧ S.opens e = true ∧ ∀ e' ∈ es, S.opens e' = true ∨ S.refreshes e' = true

variable {S}

theorem Opened.snoc {c : List α} {e : α} (h : S.Opened c)
    (he : S.opens e = true ∨ S.refreshes e = true) : S.Opened (c ++ [e]) := by
  obtain ⟨e₀, es, rfl, h₀, hes⟩ := h
  refine ⟨e₀, es ++ [e], rfl, h₀, ?_⟩
  intro e' he'
  rcases List.mem_append.mp he' with h' | h'
  · exact hes e' h'
  · rwa [List.mem_singleton.mp h']

theorem Opened.singleton {e : α} (h : S.opens e = true) : S.Opened [e] :=
  ⟨e, [], rfl, h, by simp⟩

/-- The last event of a chain opened it or came after a shorter chain. -/
theorem Opened.of_snoc {c : List α} {e : α} (h : S.Opened (c ++ [e])) :
    S.opens e = true ∨ (S.Opened c ∧ S.refreshes e = true) := by
  obtain ⟨e₀, es, hc, h₀, hes⟩ := h
  rcases List.eq_nil_or_concat es with rfl | ⟨es, e', rfl⟩
  · have : c ++ [e] = [] ++ [e₀] := hc
    obtain ⟨-, he⟩ := List.append_inj' this rfl
    exact Or.inl ((List.singleton_inj.mp he) ▸ h₀)
  · have : c ++ [e] = (e₀ :: es) ++ [e'] := by simpa using hc
    obtain ⟨rfl, he⟩ := List.append_inj' this rfl
    obtain rfl : e = e' := List.singleton_inj.mp he
    rcases hes e (by simp) with ho | hr
    · exact Or.inl ho
    · exact Or.inr ⟨⟨e₀, es, rfl, h₀, fun e' he' => hes e' (by simp [he'])⟩, hr⟩

end Signals

variable [LinearOrder T]

namespace Signals

variable {S : Signals α T}

/-- The events of a history happen at non-decreasing times. -/
def Timed (S : Signals α T) (past : List α) : Prop := (past.map S.time).Pairwise (· ≤ ·)

/-- Every event of the history happens no later than `t`. -/
def Before (S : Signals α T) (past : List α) (t : T) : Prop := ∀ e ∈ past, S.time e ≤ t

theorem timed_append {past rest : List α} : S.Timed (past ++ rest) ↔
    S.Timed past ∧ S.Timed rest ∧ ∀ e' ∈ rest, S.Before past (S.time e') := by
  simp only [Timed, Before, List.map_append, List.pairwise_append, List.forall_mem_map]
  exact and_congr_right fun _ => and_congr_right fun _ =>
    ⟨fun h e' he' e he => h e he e' he', fun h e he e' he' => h e' he' e he⟩

theorem timed_snoc {past : List α} {e : α} :
    S.Timed (past ++ [e]) ↔ S.Timed past ∧ S.Before past (S.time e) := by
  simp [Timed, Before, List.pairwise_append]

end Signals

variable [AddCommGroup T]

/-- A stored time is alive at `t`: less than `τ` has passed since. -/
def Alive (τ : T) (stored : Option T) (t : T) : Prop := ∃ s ∈ stored, t - s < τ

instance (τ : T) (stored : Option T) (t : T) : Decidable (Alive τ stored t) :=
  inferInstanceAs (Decidable (∃ s ∈ stored, t - s < τ))

@[simp] theorem not_alive_none (τ t : T) : ¬ Alive τ none t := by simp [Alive]

@[simp] theorem alive_some {τ s t : T} : Alive τ (some s) t ↔ t - s < τ := by simp [Alive]

namespace Signals

variable (S : Signals α T) (τ : T)

/-- The stored time after one more event. -/
def keepStep (stored : Option T) (e : α) : Option T :=
  if S.opens e then some (S.time e)
  else if S.refreshes e ∧ Alive τ stored (S.time e) then some (S.time e)
  else stored

/-- The time stored after a history. -/
def lastKept (past : List α) : Option T := past.foldl (S.keepStep τ) none

@[simp] theorem lastKept_nil : S.lastKept τ [] = none := rfl

@[simp] theorem lastKept_snoc (past : List α) (e : α) :
    S.lastKept τ (past ++ [e]) = S.keepStep τ (S.lastKept τ past) e := by
  simp [lastKept]

variable {S τ} in
/-- A stored time is only replaced by later ones. -/
theorem lastKept_append_of_le {past rest : List α} {s : T} (h : S.lastKept τ past = some s)
    (hrest : ∀ e ∈ rest, s ≤ S.time e) : ∃ s', S.lastKept τ (past ++ rest) = some s' ∧ s ≤ s' := by
  induction rest using List.reverseRecOn with
  | nil => exact ⟨s, by rwa [List.append_nil], le_rfl⟩
  | append_singleton rest e ih =>
    obtain ⟨s', hs', hle⟩ := ih fun e' he' => hrest e' (List.mem_append_left _ he')
    have he := hrest e (by simp)
    rw [← List.append_assoc, lastKept_snoc, hs', keepStep]
    split
    · exact ⟨_, rfl, he⟩
    · split
      · exact ⟨_, rfl, he⟩
      · exact ⟨s', rfl, hle⟩

variable {S τ} in
/-- Events that do nothing to the record may be left out of its history. -/
theorem lastKept_filter {q : α → Bool}
    (hq : ∀ e, q e = false → S.opens e = false ∧ S.refreshes e = false) (past : List α) :
    S.lastKept τ (past.filter q) = S.lastKept τ past := by
  induction past using List.reverseRecOn with
  | nil => rfl
  | append_singleton past e ih =>
    rw [List.filter_append, lastKept_snoc]
    cases he : q e with
    | true => simp [List.filter_cons_of_pos, he, ih]
    | false =>
      obtain ⟨ho, hr⟩ := hq e he
      simp [List.filter_cons_of_neg, he, ih, keepStep, ho, hr]

/-- **A chain that keeps the record alive** up to time `t`: events of the history, in order, the
first an opening, each later one an opening or a refreshing event, every gap below `τ`. -/
structure Chain (past : List α) (t : T) (c : List α) : Prop where
  sublist : c.Sublist past
  opened : S.Opened c
  gaps : (c.map S.time ++ [t]).IsChain fun s u => u - s < τ

variable {S τ}

/-- The chain that a stored time witnesses, ending at that time. -/
theorem exists_chain_of_lastKept {past : List α} {s : T} (h : S.lastKept τ past = some s) :
    ∃ c e, (c ++ [e]).Sublist past ∧ S.Opened (c ++ [e]) ∧ S.time e = s ∧
      ((c ++ [e]).map S.time).IsChain fun s u => u - s < τ := by
  induction past using List.reverseRecOn generalizing s with
  | nil => simp at h
  | append_singleton past e ih =>
    rw [lastKept_snoc, keepStep] at h
    split at h
    · rename_i ho
      exact ⟨[], e, by simp, Opened.singleton ho, Option.some.inj h, by simp⟩
    · split at h
      · rename_i hr
        obtain ⟨hr, s', hs', hlt⟩ := hr
        obtain ⟨c, e', hsub, hop, ht, hch⟩ := ih hs'
        refine ⟨c ++ [e'], e, hsub.append (List.Sublist.refl _), hop.snoc (Or.inr hr),
          Option.some.inj h, ?_⟩
        rw [List.map_append]
        refine hch.append (by simp) ?_
        simpa [ht] using hlt
      · obtain ⟨c, e', hsub, hrest⟩ := ih h
        exact ⟨c, e', hsub.trans (List.sublist_append_left _ _), hrest⟩

/-- A stored time is never replaced by an earlier one. -/
theorem exists_lastKept_append {past rest : List α} {s : T} (h : S.lastKept τ past = some s)
    (htimed : S.Timed (past ++ rest)) :
    ∃ s', S.lastKept τ (past ++ rest) = some s' ∧ s ≤ s' := by
  obtain ⟨-, -, hbetween⟩ := timed_append.mp htimed
  obtain ⟨c, e, hsub, -, rfl, -⟩ := exists_chain_of_lastKept h
  exact lastKept_append_of_le h fun e' he' => hbetween e' he' e (hsub.subset (by simp))

variable [IsOrderedAddMonoid T]

/-- The stored time never lies behind the end of a chain of the history. -/
theorem le_lastKept_of_chain {past : List α} (htimed : S.Timed past) {c : List α} {e : α}
    (hsub : (c ++ [e]).Sublist past) (hop : S.Opened (c ++ [e]))
    (hch : ((c ++ [e]).map S.time).IsChain fun s u => u - s < τ) :
    ∃ s, S.lastKept τ past = some s ∧ S.time e ≤ s := by
  induction past using List.reverseRecOn generalizing c e with
  | nil => simp at hsub
  | append_singleton past x ih =>
    obtain ⟨hpast, hbefore⟩ := timed_snoc.mp htimed
    rw [lastKept_snoc]
    -- one more event moves the stored time forward or leaves it
    have hmono : ∀ s, S.lastKept τ past = some s → S.time e ≤ s → S.time e ≤ S.time x →
        ∃ s', S.keepStep τ (S.lastKept τ past) x = some s' ∧ S.time e ≤ s' := by
      intro s hs hle hx
      unfold keepStep
      split
      · exact ⟨_, rfl, hx⟩
      · split
        · exact ⟨_, rfl, hx⟩
        · exact ⟨s, hs, hle⟩
    obtain ⟨l₁, l₂, hl, h₁, h₂⟩ := List.sublist_append_iff.mp hsub
    rcases List.sublist_singleton.mp h₂ with rfl | rfl
    · rw [List.append_nil] at hl
      subst hl
      obtain ⟨s, hs, hle⟩ := ih hpast h₁ hop hch
      exact hmono s hs hle (hbefore e (h₁.subset (by simp)))
    · obtain ⟨rfl, he⟩ := List.append_inj' hl rfl
      obtain rfl : e = x := List.singleton_inj.mp he
      unfold keepStep
      by_cases ho : S.opens e = true
      · exact ⟨_, if_pos ho, le_rfl⟩
      rw [if_neg ho]
      obtain ⟨hop', hr⟩ := hop.of_snoc.resolve_left ho
      rcases List.eq_nil_or_concat c with rfl | ⟨c, e', rfl⟩
      · obtain ⟨_, _, h, -⟩ := hop'
        cases h
      rw [List.concat_eq_append] at h₁ hop' hch
      rw [List.map_append, List.isChain_append] at hch
      obtain ⟨hch', -, hgap⟩ := hch
      -- the shorter chain ends at `e'`, and the stored time is not older than that
      obtain ⟨s, hs, hle⟩ := ih hpast h₁ hop' hch'
      have hlt : S.time e - S.time e' < τ := hgap _ (by simp) _ (by simp)
      have halive : Alive τ (S.lastKept τ past) (S.time e) :=
        ⟨s, hs, (sub_le_sub_left hle _).trans_lt hlt⟩
      exact ⟨_, if_pos ⟨hr, halive⟩, le_rfl⟩

/-- **The stored time is recent exactly when a chain keeps the record alive.** -/
theorem alive_iff_chain {past : List α} (htimed : S.Timed past) (t : T) :
    Alive τ (S.lastKept τ past) t ↔ ∃ c, S.Chain τ past t c := by
  constructor
  · rintro ⟨s, hs, hlt⟩
    obtain ⟨c, e, hsub, hop, rfl, hch⟩ := exists_chain_of_lastKept hs
    exact ⟨c ++ [e], hsub, hop, hch.append (by simp) (by simpa using hlt)⟩
  · rintro ⟨c, hsub, hop, hgaps⟩
    rcases List.eq_nil_or_concat c with rfl | ⟨c, e, rfl⟩
    · obtain ⟨_, _, h, -⟩ := hop
      cases h
    rw [List.concat_eq_append] at hsub hop hgaps
    obtain ⟨hch, -, hgap⟩ := List.isChain_append.mp hgaps
    obtain ⟨s, hs, hle⟩ := le_lastKept_of_chain htimed hsub hop hch
    have hlt : t - S.time e < τ := hgap _ (by simp) _ (by simp)
    exact ⟨s, hs, (sub_le_sub_left hle _).trans_lt hlt⟩

end Signals

/-! ## Deleting idle records -/

/-- The time `stored` is `kept`, unless the record was idle by `now` and has been deleted. -/
def Swept (τ now : T) (kept stored : Option T) : Prop :=
  stored = kept ∨ (stored = none ∧ ¬ Alive τ kept now)

variable {τ now t : T} {kept stored : Option T}

theorem Swept.refl (τ now : T) (kept : Option T) : Swept τ now kept kept := Or.inl rfl

/-- A deletion sweep at `now` deletes a record only when it is idle. -/
theorem Swept.sweep (h : Swept τ now kept stored) :
    Swept τ now kept (stored.filter fun s => now - s < τ) := by
  rcases h with rfl | ⟨rfl, hidle⟩
  · cases stored with
    | none => exact Swept.refl ..
    | some s =>
      by_cases hs : now - s < τ
      · exact Or.inl (by simp [hs])
      · exact Or.inr ⟨by simp [not_lt.mp hs], by simpa using hs⟩
  · exact Or.inr ⟨rfl, hidle⟩

variable [IsOrderedAddMonoid T]

theorem Alive.mono (h : Alive τ stored t) (hle : now ≤ t) : Alive τ stored now := by
  obtain ⟨s, hs, hlt⟩ := h
  exact ⟨s, hs, (sub_le_sub_right hle s).trans_lt hlt⟩

theorem Swept.mono (h : Swept τ now kept stored) (hle : now ≤ t) : Swept τ t kept stored := by
  rcases h with h | ⟨h, hidle⟩
  · exact Or.inl h
  · exact Or.inr ⟨h, fun hk => hidle (hk.mono hle)⟩

/-- **Deleting idle records does not change which records are alive.** -/
theorem Swept.alive_iff (h : Swept τ now kept stored) (hle : now ≤ t) :
    Alive τ stored t ↔ Alive τ kept t := by
  rcases h with rfl | ⟨rfl, hidle⟩
  · rfl
  · exact iff_of_false (not_alive_none τ t) fun hk => hidle (hk.mono hle)

/-- An event does the same to a swept record as to the record. -/
theorem Swept.keepStep (S : Signals α T) {e : α} (h : Swept τ now kept stored)
    (hle : now ≤ S.time e) :
    Swept τ (S.time e) (S.keepStep τ kept e) (S.keepStep τ stored e) := by
  have hiff := h.alive_iff hle
  unfold Signals.keepStep
  simp only [hiff]
  split
  · exact Swept.refl ..
  · split
    · exact Swept.refl ..
    · exact h.mono hle

end KeepAlive
