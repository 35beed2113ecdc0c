import Mathlib.Data.List.Basic
import Mathlib.Data.Nat.Notation
import Mathlib.Tactic.Common

/-!
# What lies on a ring

A memory whose first `n` cells are used as a ring: position `p` is the cell `p % n`, so that
positions only grow. `Holds` says what lies on the ring from a position on.

## Main results

* `holds_append_iff`: what lies behind something lies as far behind its position.
* `Holds.write`: a block written behind what the ring holds leaves that alone, as long as both fit.
* `Holds.map_range`: what is read off the ring.
-/

namespace Ring

variable {α : Type} {n p : ℕ} {ram ram' : ℕ → α} {l l' : List α}

/-- From position `p` on, the ring holds the elements of `l`. -/
def Holds (n : ℕ) (ram : ℕ → α) (p : ℕ) (l : List α) : Prop :=
  ∀ (i : ℕ) (hi : i < l.length), ram ((p + i) % n) = l[i]

theorem holds_nil : Holds n ram p [] := fun _ hi => absurd hi (Nat.not_lt_zero _)

theorem holds_append_iff :
    Holds n ram p (l ++ l') ↔ Holds n ram p l ∧ Holds n ram (p + l.length) l' := by
  constructor
  · intro h
    refine ⟨fun i hi => ?_, fun i hi => ?_⟩
    · rw [h i (by rw [List.length_append]; omega), List.getElem_append_left hi]
    · rw [Nat.add_assoc, h (l.length + i) (by rw [List.length_append]; omega),
        List.getElem_append_right (Nat.le_add_right _ _)]
      congr 1
      exact Nat.add_sub_cancel_left _ _
  · rintro ⟨h, h'⟩ i hi
    by_cases hlt : i < l.length
    · rw [h i hlt, List.getElem_append_left hlt]
    · rw [List.length_append] at hi
      have hle : l.length ≤ i := Nat.le_of_not_lt hlt
      have hcell := h' (i - l.length) (by omega)
      rw [Nat.add_assoc, Nat.add_sub_cancel' hle] at hcell
      rw [hcell, List.getElem_append_right hle]

/-- Positions less than a round apart are different cells. -/
theorem mod_ne {i j : ℕ} (hij : i < j) (hn : j < i + n) : i % n ≠ j % n := by
  intro heq
  have hdvd : n ∣ j - i := Nat.dvd_of_mod_eq_zero (Nat.sub_mod_eq_zero_of_mod_eq heq.symm)
  have hle := Nat.le_of_dvd (by omega) hdvd
  omega

theorem Holds.congr (h : Holds n ram p l) (hn : 0 < n) (hram : ∀ a < n, ram' a = ram a) :
    Holds n ram' p l := fun i hi => by
  rw [hram _ (Nat.mod_lt _ hn)]
  exact h i hi

/-- A block is written behind what the ring holds. -/
theorem Holds.write (h : Holds n ram p l) (hfits : l.length + l'.length ≤ n)
    (hwritten : Holds n ram' (p + l.length) l')
    (hothers : ∀ a, (∀ i < l'.length, (p + l.length + i) % n ≠ a) → ram' a = ram a) :
    Holds n ram' p (l ++ l') := by
  refine holds_append_iff.mpr ⟨fun i hi => ?_, hwritten⟩
  rw [hothers _ fun j hj => (mod_ne (by omega) (by omega)).symm]
  exact h i hi

/-- What is read off the ring. -/
theorem Holds.map_range (h : Holds n ram p l) (offset length : ℕ)
    (hle : offset + length ≤ l.length) :
    (List.range length).map (fun i => ram ((p + offset + i) % n)) =
      (l.drop offset).take length := by
  refine List.ext_getElem ?_ fun i hi _ => ?_
  · rw [List.length_map, List.length_range, List.length_take, List.length_drop]
    omega
  · rw [List.length_map, List.length_range] at hi
    rw [List.getElem_map, List.getElem_range, List.getElem_take, List.getElem_drop, Nat.add_assoc]
    exact h _ (by omega)

end Ring
