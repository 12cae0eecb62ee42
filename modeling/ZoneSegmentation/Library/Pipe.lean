import Mathlib.Data.List.Induction
import Mathlib.Data.List.Infix

/-!
# Pipes cut into blocks

A pipe carries elements in order, without saying where a message ends. Its reader takes as many
as it is given, and cuts what comes out into blocks of a fixed size.

## Main definitions

* `Pipe`: what was read from a pipe, and what is still under way
* `Pipe.cut`, `Pipe.blocks`, `Pipe.rest`: a list cut into blocks of a fixed size, and what is
  left at its end

## Main results

* `Pipe.cut_append_of_lt`, `Pipe.cut_append_of_eq`: reading on within a block, and to its end
* `Pipe.blocks_mono`: reading on never changes the blocks that are complete
* `Pipe.cut_flatten_append`: the blocks of messages written one after the other
-/

/-- A pipe: what its reader took, and what it did not take yet. -/
structure Pipe (α : Type*) where
  read : List α
  unread : List α
  deriving DecidableEq

namespace Pipe

variable {α : Type*}

/-- A new pipe. -/
def empty : Pipe α := ⟨[], []⟩

/-- Everything that was written to the pipe. -/
def written (s : Pipe α) : List α := s.read ++ s.unread

/-- Write to the pipe. -/
def push (s : Pipe α) (xs : List α) : Pipe α := ⟨s.read, s.unread ++ xs⟩

/-- Take the next `n` elements, or all there are. -/
def take (s : Pipe α) (n : ℕ) : Pipe α := ⟨s.read ++ s.unread.take n, s.unread.drop n⟩

@[simp] theorem written_empty : (empty : Pipe α).written = [] := rfl

@[simp] theorem read_push (s : Pipe α) (xs : List α) : (s.push xs).read = s.read := rfl

@[simp] theorem unread_push (s : Pipe α) (xs : List α) :
    (s.push xs).unread = s.unread ++ xs := rfl

@[simp] theorem written_push (s : Pipe α) (xs : List α) :
    (s.push xs).written = s.written ++ xs := (List.append_assoc ..).symm

@[simp] theorem read_take (s : Pipe α) (n : ℕ) :
    (s.take n).read = s.read ++ s.unread.take n := rfl

@[simp] theorem written_take (s : Pipe α) (n : ℕ) : (s.take n).written = s.written := by
  simp [written, take]

theorem read_prefix_written (s : Pipe α) : s.read <+: s.written := List.prefix_append ..

/-! ## Blocks -/

/-- One more element: it ends the block, or is left over. -/
def cutNext (k : ℕ) (s : List (List α) × List α) (x : α) : List (List α) × List α :=
  if s.2.length + 1 = k then (s.1 ++ [s.2 ++ [x]], []) else (s.1, s.2 ++ [x])

/-- A list cut into blocks of `k`, and what is left at its end. -/
def cut (k : ℕ) (xs : List α) : List (List α) × List α := xs.foldl (cutNext k) ([], [])

/-- The complete blocks of a list. -/
def blocks (k : ℕ) (xs : List α) : List (List α) := (cut k xs).1

/-- What is left after the complete blocks. -/
def rest (k : ℕ) (xs : List α) : List α := (cut k xs).2

variable {k : ℕ}

theorem foldl_cutNext_of_lt {s : List (List α) × List α} {xs : List α}
    (h : s.2.length + xs.length < k) : xs.foldl (cutNext k) s = (s.1, s.2 ++ xs) := by
  induction xs generalizing s with
  | nil => simp
  | cons x xs ih =>
    rw [List.length_cons] at h
    have hnext : cutNext k s x = (s.1, s.2 ++ [x]) := if_neg (by omega)
    rw [List.foldl_cons, hnext, ih (by simp; omega), List.append_assoc]
    rfl

theorem foldl_cutNext_of_eq {s : List (List α) × List α} {xs : List α} (hxs : xs ≠ [])
    (h : s.2.length + xs.length = k) : xs.foldl (cutNext k) s = (s.1 ++ [s.2 ++ xs], []) := by
  obtain ⟨ys, y, rfl⟩ := (List.eq_nil_or_concat' xs).resolve_left hxs
  rw [List.length_append, List.length_singleton] at h
  have hys : ys.foldl (cutNext k) s = (s.1, s.2 ++ ys) := foldl_cutNext_of_lt (by omega)
  have hlast : (s.2 ++ ys).length + 1 = k := by
    rw [List.length_append]
    omega
  rw [List.foldl_append, hys, List.foldl_cons, List.foldl_nil, cutNext, if_pos hlast,
    List.append_assoc]

/-- Reading on within a block. -/
theorem cut_append_of_lt {xs ys : List α} (h : (rest k xs).length + ys.length < k) :
    cut k (xs ++ ys) = (blocks k xs, rest k xs ++ ys) := by
  rw [cut, List.foldl_append]
  exact foldl_cutNext_of_lt h

/-- Reading on to the end of a block. -/
theorem cut_append_of_eq {xs ys : List α} (hys : ys ≠ [])
    (h : (rest k xs).length + ys.length = k) :
    cut k (xs ++ ys) = (blocks k xs ++ [rest k xs ++ ys], []) := by
  rw [cut, List.foldl_append]
  exact foldl_cutNext_of_eq hys h

theorem foldl_cutNext_fst (s : List (List α) × List α) (xs : List α) :
    ∃ more, (xs.foldl (cutNext k) s).1 = s.1 ++ more := by
  induction xs generalizing s with
  | nil => exact ⟨[], (List.append_nil _).symm⟩
  | cons x xs ih =>
    obtain ⟨more, hmore⟩ := ih (cutNext k s x)
    rw [List.foldl_cons, hmore, cutNext]
    split
    · exact ⟨[s.2 ++ [x]] ++ more, List.append_assoc ..⟩
    · exact ⟨more, rfl⟩

/-- **Reading on never changes the blocks that are complete.** -/
theorem blocks_mono {xs ys : List α} (h : xs <+: ys) : blocks k xs <+: blocks k ys := by
  obtain ⟨zs, rfl⟩ := h
  obtain ⟨more, hmore⟩ := foldl_cutNext_fst (k := k) (cut k xs) zs
  refine ⟨more, ?_⟩
  rw [blocks, blocks, ← hmore, cut, cut, List.foldl_append]

/-- Less than a block is left. -/
theorem length_rest_lt (hk : 0 < k) (xs : List α) : (rest k xs).length < k := by
  have hinv : ∀ s : List (List α) × List α, s.2.length < k →
      (xs.foldl (cutNext k) s).2.length < k := by
    induction xs with
    | nil => exact fun s hs => hs
    | cons x xs ih =>
      intro s hs
      apply ih
      unfold cutNext
      split
      · exact hk
      · simp only [List.length_append, List.length_singleton]
        omega
  exact hinv ([], []) hk

/-- The blocks and what is left make up the list. -/
theorem length_blocks_add (k : ℕ) (xs : List α) :
    k * (blocks k xs).length + (rest k xs).length = xs.length := by
  -- from any blocks and rest, each element adds one
  have hinv : ∀ s : List (List α) × List α,
      k * (xs.foldl (cutNext k) s).1.length + (xs.foldl (cutNext k) s).2.length =
        k * s.1.length + s.2.length + xs.length := by
    induction xs with
    | nil => exact fun s => rfl
    | cons x xs ih =>
      intro s
      rw [List.foldl_cons, ih, cutNext]
      split
      · rename_i hend
        simp only [List.length_append, List.length_cons, List.length_nil, Nat.zero_add,
          Nat.mul_succ]
        omega
      · simp only [List.length_append, List.length_cons, List.length_nil]
        omega
  exact (hinv ([], [])).trans (by simp)

/-- Messages written one after the other, and less than a message after them. -/
theorem cut_flatten_append {ms : List (List α)} {xs : List α} (hms : ∀ m ∈ ms, m.length = k)
    (hxs : xs.length < k) : cut k (ms.flatten ++ xs) = (ms, xs) := by
  have hflat : cut k ms.flatten = (ms, []) := by
    induction ms using List.reverseRecOn with
    | nil => rfl
    | append_singleton ms m ih =>
      have hm : m.length = k := hms m (by simp)
      have hne : m ≠ [] := by
        rintro rfl
        simp at hm
        omega
      have hprev := ih fun m' hm' => hms m' (List.mem_append_left _ hm')
      rw [List.flatten_append, List.flatten_singleton, cut_append_of_eq hne]
      · rw [blocks, rest, hprev, List.nil_append]
      · rw [rest, hprev]
        simpa using hm
  rw [cut_append_of_lt]
  · rw [blocks, rest, hflat, List.nil_append]
  · rw [rest, hflat]
    simpa using hxs

end Pipe
