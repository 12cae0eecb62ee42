import Mathlib.Order.Basic

/-!
# Newlines of text files

A text file that is opened for reading has its newlines translated: a carriage return, with the
line feed after it if there is one, is read as a line feed. A text that is written as it is and
read again is the same text exactly when no carriage return stands in it.

## Main definitions

* `Newlines.universal`, `Newlines.readText`: the translation, and a text after it
* `Newlines.NoReturn`: texts without a carriage return

## Main results

* `Newlines.readText_eq_self_iff`: the texts that are read as they were written
-/

namespace Newlines

/-- Universal newlines: `\r\n` and `\r` become `\n`. -/
def universal : List Char → List Char
  | [] => []
  | '\r' :: '\n' :: cs => '\n' :: universal cs
  | '\r' :: cs => '\n' :: universal cs
  | c :: cs => c :: universal cs

/-- The text that a file is read as. -/
def readText (content : String) : String := String.ofList (universal content.toList)

/-- A text without a carriage return. -/
def NoReturn (s : String) : Prop := '\r' ∉ s.toList

instance (s : String) : Decidable (NoReturn s) := inferInstanceAs (Decidable (¬ _))

theorem not_mem_universal (cs : List Char) : '\r' ∉ universal cs := by
  fun_induction universal cs with
  | case1 => simp
  | case2 cs ih => simpa using ih
  | case3 cs _ ih => simpa using ih
  | case4 c cs _ hc ih =>
    apply List.not_mem_cons_of_ne_of_not_mem _ ih
    exact fun h => hc h.symm

theorem universal_of_not_mem {cs : List Char} (h : '\r' ∉ cs) : universal cs = cs := by
  fun_induction universal cs with
  | case1 => rfl
  | case2 cs ih => exact absurd List.mem_cons_self h
  | case3 cs _ ih => exact absurd List.mem_cons_self h
  | case4 c cs _ hc ih => rw [ih (List.not_mem_of_not_mem_cons h)]

/-- **A text is read as it was written** exactly when it has no carriage return. -/
theorem readText_eq_self_iff {s : String} : readText s = s ↔ NoReturn s := by
  constructor
  · intro h
    rw [NoReturn, ← h, readText, String.toList_ofList]
    exact not_mem_universal _
  · intro h
    rw [readText, universal_of_not_mem h, String.ofList_toList]

/-! ## Texts that are put together -/

theorem noReturn_ofList {cs : List Char} : NoReturn (String.ofList cs) ↔ '\r' ∉ cs := by
  rw [NoReturn, String.toList_ofList]

theorem noReturn_append {s t : String} : NoReturn (s ++ t) ↔ NoReturn s ∧ NoReturn t := by
  simp only [NoReturn, String.toList_append, List.mem_append, not_or]

theorem noReturn_join {l : List String} : NoReturn (String.join l) ↔ ∀ s ∈ l, NoReturn s := by
  simp only [NoReturn, String.toList_join, List.mem_flatMap, not_exists, not_and]

/-- Parts between which a separator is put. -/
theorem not_mem_intercalate {c : Char} {sep : List Char} (hsep : c ∉ sep) {l : List (List Char)}
    (hl : ∀ cs ∈ l, c ∉ cs) : c ∉ sep.intercalate l := by
  induction l with
  | nil => simp
  | cons cs l ih =>
    obtain ⟨hcs, hl⟩ := List.forall_mem_cons.mp hl
    by_cases hne : l = []
    · subst hne
      simpa using hcs
    · rw [List.intercalate_cons_of_ne_nil hne]
      simp only [List.mem_append, not_or]
      exact ⟨⟨hcs, hsep⟩, ih hl⟩

theorem noReturn_intercalate {sep : String} (hsep : NoReturn sep) {l : List String}
    (hl : ∀ s ∈ l, NoReturn s) : NoReturn (sep.intercalate l) := by
  rw [NoReturn, String.toList_intercalate]
  apply not_mem_intercalate hsep
  intro cs hcs
  obtain ⟨s, hs, rfl⟩ := List.mem_map.mp hcs
  exact hl s hs

/-- The digits of a number are digits of its base. -/
theorem forall_mem_toDigits {b : ℕ} (hb : 1 < b) {p : Char → Prop}
    (hp : ∀ d < b, p d.digitChar) (n : ℕ) : ∀ c ∈ Nat.toDigits b n, p c := by
  induction n using Nat.strongRecOn with
  | ind n ih =>
    rw [Nat.toDigits_eq_if hb]
    split
    · rename_i hlt
      exact List.forall_mem_singleton.mpr (hp n hlt)
    · intro c hc
      rcases List.mem_append.mp hc with hc | hc
      · exact ih (n / b) (Nat.div_lt_self (by omega) hb) c hc
      · obtain rfl := List.mem_singleton.mp hc
        exact hp (n % b) (Nat.mod_lt n (by omega))

theorem noReturn_repr (n : ℕ) : NoReturn (toString n) := by
  rw [NoReturn, Nat.toString_eq_ofList_toDigits, String.toList_ofList]
  intro hmem
  exact forall_mem_toDigits (p := fun c => c ≠ '\r') (by decide) (by decide) n _ hmem rfl

end Newlines
