import Mathlib.Data.List.Count
import Mathlib.Logic.Function.Basic
import Mathlib.Tactic.Common

/-!
# Slots and their numbers

A table has slots, each free or held by an owner, and every owner keeps the number of its slot,
counted from 1; 0 stands for none. `Matches table number` says that the table and the numbers
tell the same.

## Main results

* `Matches.take`, `Matches.release`: an owner without a slot may take a free one, and an owner
  may give its slot up, if its number is updated with it.
* `Matches.slot`: a number that is not 0 is that of a slot its owner holds.
* `held_take`, `held_release`: how many slots are held then.
-/

namespace Slots

variable {κ : Type} {table : List (Option κ)} {number : κ → ℕ} {k : κ} {j : ℕ}

/-- The slots an owner holds are the one whose number it keeps. -/
def Matches (table : List (Option κ)) (number : κ → ℕ) : Prop :=
  ∀ k j, table[j]? = some (some k) ↔ number k = j + 1

/-- The number of slots that are not free. -/
def held (table : List (Option κ)) : ℕ := table.countP Option.isSome

/-- A number that is not 0 is that of a slot its owner holds. -/
theorem Matches.slot (h : Matches table number) (hk : number k ≠ 0) :
    table[number k - 1]? = some (some k) :=
  (h k (number k - 1)).mpr (by omega)

/-- The numbers do not go beyond the table. -/
theorem Matches.le_length (h : Matches table number) (k : κ) : number k ≤ table.length := by
  by_cases hk : number k = 0
  · omega
  · have hlt := (List.getElem?_eq_some_iff.mp (h.slot hk)).1
    omega

/-- Nobody holds anything. -/
theorem matches_free (hfree : ∀ slot ∈ table, slot = none) (hnumber : ∀ k, number k = 0) :
    Matches table number := by
  intro k j
  rw [hnumber k]
  refine iff_of_false (fun hj => ?_) (by omega)
  exact absurd (hfree _ (List.mem_of_getElem? hj)) (by simp)

variable [DecidableEq κ]

/-- An owner without a slot takes a free one, and its number. -/
theorem Matches.take (h : Matches table number) (hj : table[j]? = some none)
    (hk : number k = 0) :
    Matches (table.set j (some k)) (Function.update number k (j + 1)) := by
  have hlt := (List.getElem?_eq_some_iff.mp hj).1
  intro k' j'
  by_cases hk' : k' = k
  · subst hk'
    rw [Function.update_self]
    by_cases hjj : j = j'
    · subst hjj
      rw [List.getElem?_set_self hlt]
      exact iff_of_true rfl rfl
    · rw [List.getElem?_set_ne hjj, h k' j', hk]
      exact iff_of_false (by omega) (by omega)
  · rw [Function.update_of_ne hk']
    by_cases hjj : j = j'
    · subst hjj
      rw [List.getElem?_set_self hlt, ← h k' j, hj]
      exact iff_of_false (fun heq => hk' (Option.some.inj (Option.some.inj heq)).symm) (by simp)
    · rw [List.getElem?_set_ne hjj]
      exact h k' j'

/-- An owner gives up its slot, and its number with it. -/
theorem Matches.release (h : Matches table number) (hk : number k = j + 1) :
    Matches (table.set j none) (Function.update number k 0) := by
  have hlt := (List.getElem?_eq_some_iff.mp ((h k j).mpr hk)).1
  intro k' j'
  by_cases hjj : j = j'
  · subst hjj
    rw [List.getElem?_set_self hlt]
    refine iff_of_false (by simp) fun hnumber => ?_
    by_cases hk' : k' = k
    · rw [hk', Function.update_self] at hnumber
      omega
    · rw [Function.update_of_ne hk'] at hnumber
      have hsame := ((h k' j).mpr hnumber).symm.trans ((h k j).mpr hk)
      exact hk' (Option.some.inj (Option.some.inj hsame))
  · rw [List.getElem?_set_ne hjj, h k' j']
    by_cases hk' : k' = k
    · rw [hk', Function.update_self, hk]
      exact iff_of_false (by omega) (by omega)
    · rw [Function.update_of_ne hk']

omit [DecidableEq κ]

/-- Taking a free slot makes one more that is held. -/
theorem held_take (hj : table[j]? = some none) : held (table.set j (some k)) = held table + 1 := by
  obtain ⟨hlt, hnone⟩ := List.getElem?_eq_some_iff.mp hj
  rw [held, List.countP_set hlt, hnone]
  simp [held]

/-- Giving a slot up makes one less. -/
theorem held_release (hj : table[j]? = some (some k)) :
    held (table.set j none) + 1 = held table := by
  obtain ⟨hlt, hsome⟩ := List.getElem?_eq_some_iff.mp hj
  have hpos : 0 < held table :=
    List.countP_pos_iff.mpr ⟨some k, List.mem_of_getElem? hj, rfl⟩
  rw [held, List.countP_set hlt, hsome]
  simp only [Option.isSome_some, Option.isSome_none, if_true]
  rw [← held]
  simp
  omega

end Slots
