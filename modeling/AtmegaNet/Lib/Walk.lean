import Mathlib.Logic.Function.Iterate
import Mathlib.Tactic.Common
import Mathlib.Data.Nat.Notation

/-!
# Pointers that walk through a memory

A memory that is accessed through a pointer: every access moves the pointer on, by a function
`next` that need not be the successor. `write` and `read` access a block along such a walk,
`transfer` copies from one walk to another, and `transferUntil` copies until the source pointer
has been at a given address.

## Main results

* `write_of_ne`, `write_iterate`: what a block written along a walk leaves behind, on and off it.
* `read_eq_map`: what is read along a walk.
* `transfer_of_ne`, `transfer_iterate`: a copy between walks that do not meet is exact.
* `transferUntil_eq`: a copy up to an address, as a copy of a number of cells.
-/

namespace Walk

variable {α : Type} {next next' : ℕ → ℕ}

/-- Write a block along the walk from `p`. -/
def write (next : ℕ → ℕ) : List α → ℕ → (ℕ → α) → ℕ → α
  | [], _, ram => ram
  | x :: l, p, ram => write next l (next p) (Function.update ram p x)

/-- Read `n` cells along the walk from `p`. -/
def read (next : ℕ → ℕ) : ℕ → ℕ → (ℕ → α) → List α
  | 0, _, _ => []
  | n + 1, p, ram => ram p :: read next n (next p) ram

/-- Copy `n` cells, one after the other, from the walk from `s` to the walk from `d`. -/
def transfer (next next' : ℕ → ℕ) : ℕ → ℕ → ℕ → (ℕ → α) → ℕ → α
  | 0, _, _, ram => ram
  | n + 1, s, d, ram => transfer next next' n (next s) (next' d) (Function.update ram d (ram s))

/-- Copy cells, including the one at `last`; nothing when `last` is not met. -/
def transferUntil (next next' : ℕ → ℕ) (last : ℕ) : ℕ → ℕ → ℕ → (ℕ → α) → Option (ℕ → α)
  | 0, _, _, _ => none
  | fuel + 1, s, d, ram =>
      let ram := Function.update ram d (ram s)
      if s = last then some ram else transferUntil next next' last fuel (next s) (next' d) ram

/-! ### Blocks -/

/-- A block written along a walk leaves the cells off the walk alone. -/
theorem write_of_ne {l : List α} {p a : ℕ} {ram : ℕ → α}
    (h : ∀ i < l.length, next^[i] p ≠ a) : write next l p ram a = ram a := by
  induction l generalizing p ram with
  | nil => rfl
  | cons x l ih =>
    have hhead : a ≠ p := (h 0 (Nat.succ_pos _)).symm
    have htail : ∀ i < l.length, next^[i] (next p) ≠ a := fun i hi =>
      h (i + 1) (Nat.succ_lt_succ hi)
    rw [write, ih htail, Function.update_of_ne hhead]

/-- A block written along a walk that does not cross itself is found there. -/
theorem write_iterate {l : List α} {p i : ℕ} {ram : ℕ → α} (hi : i < l.length)
    (h : ∀ j < l.length, i < j → next^[j] p ≠ next^[i] p) :
    write next l p ram (next^[i] p) = l[i] := by
  induction l generalizing p ram i with
  | nil => exact absurd hi (Nat.not_lt_zero _)
  | cons x l ih =>
    cases i with
    | zero =>
      have htail : ∀ j < l.length, next^[j] (next p) ≠ p := fun j hj =>
        h (j + 1) (Nat.succ_lt_succ hj) (Nat.succ_pos _)
      rw [write, Function.iterate_zero_apply, write_of_ne htail, Function.update_self]
      rfl
    | succ i =>
      rw [write, Function.iterate_succ_apply, ih (Nat.lt_of_succ_lt_succ hi) fun j hj hij =>
        h (j + 1) (Nat.succ_lt_succ hj) (Nat.succ_lt_succ hij)]
      rfl

/-- What is read along a walk. -/
theorem read_eq_map (n p : ℕ) (ram : ℕ → α) :
    read next n p ram = (List.range n).map fun i => ram (next^[i] p) := by
  induction n generalizing p with
  | zero => rfl
  | succ n ih =>
    rw [read, ih, List.range_succ_eq_map, List.map_cons, List.map_map]
    rfl

/-! ### Copies -/

/-- A copy leaves the cells off the destination alone. -/
theorem transfer_of_ne {n s d a : ℕ} {ram : ℕ → α} (h : ∀ i < n, next'^[i] d ≠ a) :
    transfer next next' n s d ram a = ram a := by
  induction n generalizing s d ram with
  | zero => rfl
  | succ n ih =>
    have hhead : a ≠ d := (h 0 (Nat.succ_pos _)).symm
    have htail : ∀ i < n, next'^[i] (next' d) ≠ a := fun i hi => h (i + 1) (Nat.succ_lt_succ hi)
    rw [transfer, ih htail, Function.update_of_ne hhead]

/-- The last cell of a copy is copied from what the cells before it have left. -/
theorem transfer_succ (n s d : ℕ) (ram : ℕ → α) :
    transfer next next' (n + 1) s d ram =
      Function.update (transfer next next' n s d ram) (next'^[n] d)
        (transfer next next' n s d ram (next^[n] s)) := by
  induction n generalizing s d ram with
  | zero => rfl
  | succ n ih =>
    rw [transfer, ih]
    rfl

/-- A copy to a walk that crosses neither itself nor the source is exact. -/
theorem transfer_iterate {n s d : ℕ} {ram : ℕ → α}
    (hself : ∀ i < n, ∀ j < n, i ≠ j → next'^[i] d ≠ next'^[j] d)
    (hdisjoint : ∀ i < n, ∀ j < n, next'^[i] d ≠ next^[j] s) {i : ℕ} (hi : i < n) :
    transfer next next' n s d ram (next'^[i] d) = ram (next^[i] s) := by
  induction n with
  | zero => exact absurd hi (Nat.not_lt_zero _)
  | succ n ih =>
    rw [transfer_succ]
    rcases Nat.lt_succ_iff_lt_or_eq.mp hi with hlt | rfl
    · rw [Function.update_of_ne (hself i hi n (Nat.lt_succ_self n) (Nat.ne_of_lt hlt))]
      exact ih (fun i hi j hj => hself i (Nat.lt_succ_of_lt hi) j (Nat.lt_succ_of_lt hj))
        (fun i hi j hj => hdisjoint i (Nat.lt_succ_of_lt hi) j (Nat.lt_succ_of_lt hj)) hlt
    · rw [Function.update_self, transfer_of_ne fun j hj =>
        hdisjoint j (Nat.lt_succ_of_lt hj) i (Nat.lt_succ_self i)]

/-- A copy up to the address where the source pointer is after `n` steps. -/
theorem transferUntil_eq {last n fuel s d : ℕ} {ram : ℕ → α} (hfuel : n < fuel)
    (hlast : next^[n] s = last) (hfirst : ∀ i < n, next^[i] s ≠ last) :
    transferUntil next next' last fuel s d ram = some (transfer next next' (n + 1) s d ram) := by
  induction n generalizing fuel s d ram with
  | zero =>
    obtain ⟨fuel, rfl⟩ := Nat.exists_eq_succ_of_ne_zero (Nat.ne_of_gt hfuel)
    have hhead : s = last := hlast
    rw [transferUntil, if_pos hhead]
    rfl
  | succ n ih =>
    obtain ⟨fuel, rfl⟩ := Nat.exists_eq_succ_of_ne_zero (Nat.ne_of_gt (Nat.zero_lt_of_lt hfuel))
    have hhead : s ≠ last := hfirst 0 (Nat.succ_pos _)
    rw [transferUntil, if_neg hhead, ih (Nat.lt_of_succ_lt_succ hfuel) hlast fun i hi =>
      hfirst (i + 1) (Nat.succ_lt_succ hi)]
    rfl

end Walk
