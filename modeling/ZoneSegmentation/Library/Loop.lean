import Mathlib.Data.List.Forall2
import Mathlib.Data.List.Induction
import Mathlib.Data.List.Perm.Basic

/-!
# Loops that can fail

A loop over a list whose body can fail stops at the first failure. What a loop that finished
establishes follows from what one turn of it establishes.

## Main results

* `Loop.forall₂_of_mapM_eq_some`: a finished `mapM` pairs every element with its result
* `Loop.forIn_eq_ok`: a loop that only checks finishes exactly when every check passes
* `Loop.invariant_of_foldlM_eq_ok`: a property kept by every turn holds when the loop finishes
* `Loop.gather_eq_ok_iff`: a loop that collects what it reads, and checks it against what it read
  before, finishes exactly when everything can be read and no two results are in conflict
* `Loop.Gathers.perm`: the order in which such a loop meets its elements does not matter
* `Loop.onlyRaises_foldlM_iff`: which errors a loop can end in
-/

namespace Loop

universe u

variable {α β σ ε : Type*}

/-- A sequence that raised nothing got a result from its first part. -/
theorem bind_eq_ok {α β : Type u} {x : Except ε α} {f : α → Except ε β} {r : β} :
    (x >>= f) = .ok r ↔ ∃ a, x = .ok a ∧ f a = .ok r := by
  cases x <;> simp [bind, Except.bind]

@[simp] theorem ok_bind {α β : Type u} (a : α) (f : α → Except ε β) : (.ok a >>= f) = f a := rfl

@[simp] theorem error_bind {α β : Type u} (e : ε) (f : α → Except ε β) :
    ((.error e : Except ε α) >>= f) = .error e := rfl

/-- A computation with a known result has finished. -/
theorem eq_ok_of_toOption {x : Except ε α} {a : α} (h : x.toOption = some a) : x = .ok a := by
  cases x with
  | error e => cases h
  | ok b => exact congrArg _ (Option.some.inj h)

theorem toOption_eq_some_iff {x : Except ε α} {a : α} : x.toOption = some a ↔ x = .ok a := by
  constructor
  · exact eq_ok_of_toOption
  · rintro rfl
    rfl

theorem map_eq_ok_iff {g : α → β} {x : Except ε α} {b : β} :
    x.map g = .ok b ↔ ∃ a, x = .ok a ∧ g a = b := by
  cases x <;> simp [Except.map]

/-- A finished `mapM` pairs every element with its result. -/
theorem forall₂_of_mapM_eq_some {f : α → Option β} {xs : List α} {ys : List β}
    (h : xs.mapM f = some ys) : List.Forall₂ (fun x y => f x = some y) xs ys := by
  induction xs generalizing ys with
  | nil =>
    obtain rfl : ys = [] := by simpa [eq_comm] using h
    exact .nil
  | cons x xs ih =>
    rw [List.mapM_cons] at h
    obtain ⟨y, hy, h⟩ := Option.bind_eq_some_iff.mp h
    obtain ⟨ys', hys, h⟩ := Option.bind_eq_some_iff.mp h
    obtain rfl : y :: ys' = ys := Option.some.inj h
    exact .cons hy (ih hys)

/-- A finished `mapM` that raises nothing pairs every element with its result. -/
theorem forall₂_of_mapM_eq_ok {f : α → Except ε β} {xs : List α} {ys : List β}
    (h : xs.mapM f = .ok ys) : List.Forall₂ (fun x y => f x = .ok y) xs ys := by
  induction xs generalizing ys with
  | nil =>
    cases h
    exact .nil
  | cons x xs ih =>
    rw [List.mapM_cons] at h
    cases hx : f x with
    | error e => simp [hx, bind, Except.bind] at h
    | ok y =>
      cases hxs : xs.mapM f with
      | error e => simp [hx, hxs, bind, Except.bind] at h
      | ok ys' =>
        obtain rfl : y :: ys' = ys := by
          simpa [hx, hxs, bind, Except.bind, pure, Except.pure] using h
        exact .cons hx (ih hxs)

/-- A `mapM` whose turns all succeed finishes with their results. -/
theorem mapM_eq_ok_map {f : α → Except ε β} {g : α → β} {xs : List α}
    (h : ∀ x ∈ xs, f x = .ok (g x)) : xs.mapM f = .ok (xs.map g) := by
  induction xs with
  | nil => rfl
  | cons x xs ih =>
    rw [List.mapM_cons, h x List.mem_cons_self, ih fun y hy => h y (List.mem_cons_of_mem _ hy)]
    rfl

theorem exists_of_forall₂_of_mem_left {R : α → β → Prop} {xs : List α} {ys : List β}
    (h : List.Forall₂ R xs ys) {x : α} (hx : x ∈ xs) : ∃ y ∈ ys, R x y := by
  induction h with
  | nil => cases hx
  | @cons a b xs ys hab _ ih =>
    rcases List.mem_cons.mp hx with rfl | hx
    · exact ⟨b, List.mem_cons_self, hab⟩
    · obtain ⟨y, hy, hxy⟩ := ih hx
      exact ⟨y, List.mem_cons_of_mem _ hy, hxy⟩

/-- What is kept of each element is kept of the whole list. -/
theorem map_eq_of_forall₂ {R : α → β → Prop} {γ : Type*} {g : α → γ} {g' : β → γ}
    (hg : ∀ x y, R x y → g' y = g x) {xs : List α} {ys : List β} (h : List.Forall₂ R xs ys) :
    ys.map g' = xs.map g := by
  induction h with
  | nil => rfl
  | cons hxy _ ih => rw [List.map_cons, List.map_cons, hg _ _ hxy, ih]

/-- A loop that only checks finishes exactly when every check passes. -/
theorem forIn_eq_ok {f : α → Except ε (ForInStep PUnit)}
    (hf : ∀ x r, f x = .ok r → r = .yield ⟨⟩) {xs : List α} {u : PUnit} :
    forIn xs PUnit.unit (fun x _ => f x) = .ok u ↔ ∀ x ∈ xs, f x = .ok (.yield ⟨⟩) := by
  induction xs with
  | nil => simp [pure, Except.pure]
  | cons x xs ih =>
    rw [List.forIn_cons, List.forall_mem_cons, ← ih]
    cases hx : f x with
    | error e => simp [bind, Except.bind]
    | ok r =>
      obtain rfl := hf x r hx
      simp [bind, Except.bind]

/-- A property that every turn of a loop keeps holds when the loop finishes. -/
theorem invariant_of_foldlM_eq_ok {I : σ → Prop} {f : σ → α → Except ε σ} {xs : List α}
    {s t : σ} (h : xs.foldlM f s = .ok t) (h0 : I s)
    (hstep : ∀ s, ∀ x ∈ xs, ∀ s', I s → f s x = .ok s' → I s') : I t := by
  induction xs generalizing s with
  | nil =>
    cases h
    exact h0
  | cons x xs ih =>
    rw [List.foldlM_cons] at h
    cases hx : f s x with
    | error e => simp [hx, bind, Except.bind] at h
    | ok s' =>
      rw [hx] at h
      exact ih h (hstep s x List.mem_cons_self s' h0 hx) fun s y hy =>
        hstep s y (List.mem_cons_of_mem _ hy)

/-! ## Loops that gather -/

/-- The results `ys` of reading the elements of `xs` one by one, no two of them in conflict. -/
structure Gathers (R : α → β → Prop) (C : β → β → Prop) (xs : List α) (ys : List β) : Prop where
  read : List.Forall₂ R xs ys
  apart : ys.Pairwise C

variable {R : α → β → Prop} {C : β → β → Prop}

theorem Gathers.nil : Gathers R C [] [] := ⟨.nil, .nil⟩

/-- One more element is read, and its result is in conflict with none before it. -/
theorem Gathers.concat {xs : List α} {ys : List β} (h : Gathers R C xs ys) {x : α} {y : β}
    (hread : R x y) (hapart : ∀ z ∈ ys, C z y) : Gathers R C (xs ++ [x]) (ys ++ [y]) where
  read := List.rel_append h.read (.cons hread .nil)
  apart := List.pairwise_append.mpr ⟨h.apart, List.pairwise_singleton _ _, by simpa using hapart⟩

/-- The last element that was read. -/
theorem Gathers.of_concat {xs : List α} {x : α} {ys : List β} (h : Gathers R C (xs ++ [x]) ys) :
    ∃ zs y, ys = zs ++ [y] ∧ Gathers R C xs zs ∧ R x y ∧ ∀ z ∈ zs, C z y := by
  -- read from the back, the last element comes first
  have hread := List.forall₂_reverse_iff.mpr h.read
  rw [List.reverse_append, List.reverse_singleton, List.singleton_append,
    List.forall₂_cons_left_iff] at hread
  obtain ⟨y, zs, hxy, hzs, hys⟩ := hread
  obtain rfl : ys = zs.reverse ++ [y] := by
    rw [← List.reverse_reverse ys, hys, List.reverse_cons]
  obtain ⟨hpairwise, -, hapart⟩ := List.pairwise_append.mp h.apart
  refine ⟨zs.reverse, y, rfl, ⟨?_, hpairwise⟩, hxy, by simpa using hapart⟩
  rw [← List.forall₂_reverse_iff, List.reverse_reverse]
  exact hzs

theorem Gathers.map_eq {γ : Type*} {g : α → γ} {g' : β → γ} (hg : ∀ x y, R x y → g' y = g x)
    {xs : List α} {ys : List β} (h : Gathers R C xs ys) : ys.map g' = xs.map g :=
  map_eq_of_forall₂ hg h.read

/-- Elements that are read under their keys, which are pairwise different. -/
theorem Gathers.nodup_keys {κ γ δ : Type*} {R : κ × γ → κ × δ → Prop} {C : κ × δ → κ × δ → Prop}
    (hkey : ∀ x y, R x y → y.1 = x.1) {xs : List (κ × γ)} (hxs : (xs.map Prod.fst).Nodup)
    {ys : List (κ × δ)} (h : Gathers R C xs ys) : (ys.map Prod.fst).Nodup := by
  rw [h.map_eq hkey]
  exact hxs

/-- The elements that were read before one of them. -/
theorem Gathers.nodup_keys_of_prefix {κ γ δ : Type*} {R : κ × γ → κ × δ → Prop}
    {C : κ × δ → κ × δ → Prop} (hkey : ∀ x y, R x y → y.1 = x.1) {xs pre : List (κ × γ)}
    {x : κ × γ} (hxs : (xs.map Prod.fst).Nodup) (hpre : pre ++ [x] <+: xs) {ys : List (κ × δ)}
    (h : Gathers R C pre ys) : (ys.map Prod.fst).Nodup := by
  apply h.nodup_keys hkey
  apply List.Nodup.sublist _ hxs
  apply List.Sublist.map
  exact (List.sublist_append_left pre [x]).trans hpre.sublist

/-- **A loop that gathers.** If a turn reads its element, checks the result against those before,
and adds it, the loop finishes exactly when it can read all elements without a conflict. -/
theorem gather_eq_ok_iff (build : List β → σ) {s₀ : σ} (h0 : build [] = s₀)
    {f : σ → α → Except ε σ} {xs : List α} (hstep : ∀ pre x, pre ++ [x] <+: xs →
      ∀ ys, Gathers R C pre ys → ∀ s,
        f (build ys) x = .ok s ↔ ∃ y, R x y ∧ (∀ z ∈ ys, C z y) ∧ build (ys ++ [y]) = s) {s : σ} :
    xs.foldlM f s₀ = .ok s ↔ ∃ ys, Gathers R C xs ys ∧ build ys = s := by
  subst h0
  induction xs using List.reverseRecOn generalizing s with
  | nil =>
    constructor
    · intro h
      cases h
      exact ⟨[], .nil, rfl⟩
    · rintro ⟨ys, hys, rfl⟩
      obtain rfl := List.forall₂_nil_left_iff.mp hys.read
      rfl
  | append_singleton xs x ih =>
    have ih' := fun s => @ih (fun pre y hpre =>
      hstep pre y (hpre.trans (List.prefix_append xs [x]))) s
    have hlast := hstep xs x (List.prefix_refl _)
    simp only [List.foldlM_append, bind_eq_ok, List.foldlM_cons, List.foldlM_nil, ih']
    constructor
    · rintro ⟨_, ⟨ys, hys, rfl⟩, s', hs', h⟩
      cases h
      obtain ⟨y, hread, hapart, rfl⟩ := (hlast ys hys s).mp hs'
      exact ⟨ys ++ [y], hys.concat hread hapart, rfl⟩
    · rintro ⟨_, hys, rfl⟩
      obtain ⟨zs, y, rfl, hzs, hread, hapart⟩ := hys.of_concat
      exact ⟨_, ⟨zs, hzs, rfl⟩, _, (hlast zs hzs _).mpr ⟨y, hread, hapart, rfl⟩, rfl⟩

/-- **The order does not matter**: with a conflict that does not depend on which comes first, the
same elements in another order are read to the same results in that order. -/
theorem Gathers.perm (hsymm : Std.Symm C) {xs xs' : List α} (hperm : xs'.Perm xs) {ys : List β}
    (h : Gathers R C xs ys) : ∃ ys', Gathers R C xs' ys' ∧ ys'.Perm ys := by
  obtain ⟨ys', hread, hys⟩ := List.perm_comp_forall₂ hperm h.read
  exact ⟨ys', ⟨hread, h.apart.perm hys.symm fun hab => hsymm.symm _ _ hab⟩, hys⟩

/-- A loop that counts its turns reads the same, if what it reads does not depend on the count. -/
theorem gathers_zipIdx_iff (xs : List α) (n : ℕ) {ys : List β} :
    Gathers (fun p y => R p.1 y) C (xs.zipIdx n) ys ↔ Gathers R C xs ys := by
  have hread : List.Forall₂ (fun (p : α × ℕ) y => R p.1 y) (xs.zipIdx n) ys ↔
      List.Forall₂ R xs ys := by
    rw [← List.forall₂_map_left_iff (f := Prod.fst) (R := R), List.zipIdx_map_fst]
  exact ⟨fun h => ⟨hread.mp h.read, h.apart⟩, fun h => ⟨hread.mpr h.read, h.apart⟩⟩

/-! ## The errors of a loop -/

/-- A computation that fails, if it does, with an error of a kind. -/
def OnlyRaises (E : ε → Prop) (x : Except ε α) : Prop := ∀ e, x = .error e → E e

variable {E : ε → Prop}

@[simp] theorem onlyRaises_ok (a : α) : OnlyRaises E (.ok a : Except ε α) := nofun

@[simp] theorem onlyRaises_pure (a : α) : OnlyRaises E (pure a : Except ε α) := nofun

@[simp] theorem onlyRaises_error_iff {e : ε} : OnlyRaises E (.error e : Except ε α) ↔ E e := by
  simp [OnlyRaises]

@[simp] theorem onlyRaises_map_iff {α β : Type u} {g : α → β} {x : Except ε α} :
    OnlyRaises E (g <$> x) ↔ OnlyRaises E x := by
  cases x <;> simp [Functor.map, Except.map, OnlyRaises]

/-- A sequence fails in its first part, or with a result of the first part in its second. -/
theorem onlyRaises_bind_iff {α β : Type u} {x : Except ε α} {f : α → Except ε β} :
    OnlyRaises E (x >>= f) ↔ OnlyRaises E x ∧ ∀ a, x = .ok a → OnlyRaises E (f a) := by
  cases x <;> simp [bind, Except.bind]

/-- A loop fails in a turn, where the turns before have finished. -/
theorem onlyRaises_foldlM_iff {f : σ → α → Except ε σ} {xs : List α} {s : σ} :
    OnlyRaises E (xs.foldlM f s) ↔ ∀ pre x post, xs = pre ++ x :: post →
      ∀ t, pre.foldlM f s = .ok t → OnlyRaises E (f t x) := by
  constructor
  · rintro h pre x post rfl t ht
    rw [List.foldlM_append, onlyRaises_bind_iff] at h
    have hturn := h.2 t ht
    rw [List.foldlM_cons, onlyRaises_bind_iff] at hturn
    exact hturn.1
  · induction xs generalizing s with
    | nil => simp
    | cons x xs ih =>
      intro h
      rw [List.foldlM_cons, onlyRaises_bind_iff]
      refine ⟨h [] x xs rfl s rfl, ?_⟩
      intro s' hs'
      apply ih
      rintro pre y post rfl t ht
      -- the turn before them has finished as well
      apply h (x :: pre) y post rfl t
      rw [List.foldlM_cons, bind_eq_ok]
      exact ⟨s', hs', ht⟩

/-- A loop that gathers fails in a turn, where all elements before were read without a
conflict. -/
theorem onlyRaises_gather_iff (build : List β → σ) {s₀ : σ} (h0 : build [] = s₀)
    {f : σ → α → Except ε σ} {xs : List α} (hstep : ∀ pre x, pre ++ [x] <+: xs →
      ∀ ys, Gathers R C pre ys → ∀ s,
        f (build ys) x = .ok s ↔ ∃ y, R x y ∧ (∀ z ∈ ys, C z y) ∧ build (ys ++ [y]) = s)
    {p : List β → α → Prop} (hturn : ∀ pre x, pre ++ [x] <+: xs → ∀ ys, Gathers R C pre ys →
      (OnlyRaises E (f (build ys) x) ↔ p ys x)) :
    OnlyRaises E (xs.foldlM f s₀) ↔
      ∀ pre x post, xs = pre ++ x :: post → ∀ ys, Gathers R C pre ys → p ys x := by
  rw [onlyRaises_foldlM_iff]
  apply forall₃_congr
  intro pre x post
  apply forall_congr'
  intro hxs
  have hpre : pre ++ [x] <+: xs := ⟨post, by rw [hxs, List.append_assoc, List.singleton_append]⟩
  have hbefore {t : σ} : pre.foldlM f s₀ = .ok t ↔ ∃ ys, Gathers R C pre ys ∧ build ys = t := by
    apply gather_eq_ok_iff build h0
    intro pre' y hpre'
    exact hstep pre' y (hpre'.trans ((List.prefix_append pre [x]).trans hpre))
  constructor
  · intro h ys hys
    exact (hturn pre x hpre ys hys).mp (h _ (hbefore.mpr ⟨ys, hys, rfl⟩))
  · intro h t ht
    obtain ⟨ys, hys, rfl⟩ := hbefore.mp ht
    exact (hturn pre x hpre ys hys).mpr (h ys hys)

/-- A loop that counts its turns. -/
theorem onlyRaises_foldlM_zipIdx_iff {f : σ → α × ℕ → Except ε σ} {xs : List α} {n : ℕ} {s : σ} :
    OnlyRaises E ((xs.zipIdx n).foldlM f s) ↔ ∀ pre x post, xs = pre ++ x :: post →
      ∀ t, (pre.zipIdx n).foldlM f s = .ok t → OnlyRaises E (f t (x, n + pre.length)) := by
  rw [onlyRaises_foldlM_iff]
  constructor
  · rintro h pre x post rfl t ht
    exact h (pre.zipIdx n) (x, n + pre.length) (post.zipIdx (n + pre.length + 1))
      (by rw [List.zipIdx_append, List.zipIdx_cons]) t ht
  · intro h pre p post hxs t ht
    have hsplit : xs = pre.map Prod.fst ++ p.1 :: post.map Prod.fst := by
      rw [← List.zipIdx_map_fst n xs, hxs, List.map_append, List.map_cons]
    have hxs' := hxs
    rw [hsplit, List.zipIdx_append, List.zipIdx_cons] at hxs'
    obtain ⟨hpre, hp⟩ := List.append_inj hxs' (by simp)
    obtain ⟨hp, -⟩ := List.cons.inj hp.symm
    rw [hp]
    apply h _ _ _ hsplit
    rw [hpre, ht]

/-- A loop ends where a turn fails. -/
theorem foldlM_eq_error {f : σ → α → Except ε σ} {pre post : List α} {x : α} {s t : σ} {e : ε}
    (hpre : pre.foldlM f s = .ok t) (hx : f t x = .error e) :
    (pre ++ x :: post).foldlM f s = .error e := by
  rw [List.foldlM_append, hpre]
  show List.foldlM f t (x :: post) = _
  rw [List.foldlM_cons, hx]
  rfl

/-- A loop that only checks fails in one of its checks. -/
theorem onlyRaises_forIn {f : α → Except ε (ForInStep PUnit)} {xs : List α}
    (h : ∀ x ∈ xs, OnlyRaises E (f x)) :
    OnlyRaises E (forIn xs PUnit.unit fun x _ => f x) := by
  induction xs with
  | nil => simp
  | cons x xs ih =>
    rw [List.forIn_cons, onlyRaises_bind_iff]
    refine ⟨h x List.mem_cons_self, ?_⟩
    rintro (⟨⟩ | ⟨⟩) -
    · exact onlyRaises_pure _
    · exact ih fun y hy => h y (List.mem_cons_of_mem _ hy)

/-- If no turn of a `mapM` can fail with an error of the kind, all its turns have to succeed. -/
theorem onlyRaises_mapM_iff {β : Type u} {f : α → Except ε β}
    (hf : ∀ x e, f x = .error e → ¬ E e) {xs : List α} :
    OnlyRaises E (xs.mapM f) ↔ ∀ x ∈ xs, ∃ y, f x = .ok y := by
  induction xs with
  | nil => simp
  | cons x xs ih =>
    rw [List.mapM_cons, List.forall_mem_cons, onlyRaises_bind_iff]
    cases hx : f x with
    | error e => simpa [onlyRaises_error_iff] using hf x e hx
    | ok y => simp [ih]

end Loop
