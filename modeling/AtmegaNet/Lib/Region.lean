import Mathlib.Tactic.Common
import Mathlib.Data.Nat.Notation

/-!
# Memory split into regions

A `Memory ρ α` holds a cell of type `α` at every address of every region `ρ`. Regions are
disjoint by construction; inside a region a block is given by its first address and its
length. `read` and `write` copy whole blocks and check nothing: bounds are the business of
whoever hands out the addresses.

## Main results

* `read_write_self`: a block just written is read back.
* `read_write_region` / `read_write_disjoint`: a write elsewhere is not seen.
* `read_add`, `drop_read`, `take_read`: a block is the concatenation of its sub-blocks, and
  its sub-lists are blocks.
* `write_append`, `write_comm`: consecutive writes are one write, and disjoint writes commute.
* `read_congr`: blocks are determined cell by cell.
-/

namespace Region

variable {ρ α : Type}

/-- One cell at every address of every region. -/
abbrev Memory (ρ α : Type) : Type := ρ → ℕ → α

/-- The block of `n` cells of region `r` from address `a` on. -/
def read (m : Memory ρ α) (r : ρ) (a n : ℕ) : List α :=
  (List.range n).map fun i => m r (a + i)

/-- Overwrite the block of region `r` from address `a` on with `d`. -/
def write [DecidableEq ρ] (m : Memory ρ α) (r : ρ) (a : ℕ) (d : List α) : Memory ρ α :=
  fun r' i => if r' = r ∧ a ≤ i then d.getD (i - a) (m r' i) else m r' i

/-! ### Blocks -/

@[simp] theorem length_read (m : Memory ρ α) (r : ρ) (a n : ℕ) :
    (read m r a n).length = n := by
  simp [read]

@[simp] theorem getElem_read (m : Memory ρ α) (r : ρ) (a n i : ℕ)
    (h : i < (read m r a n).length) : (read m r a n)[i] = m r (a + i) := by
  simp [read]

@[simp] theorem read_zero (m : Memory ρ α) (r : ρ) (a : ℕ) : read m r a 0 = [] := rfl

/-- Blocks are determined cell by cell. -/
theorem read_congr {m m' : Memory ρ α} {r r' : ρ} {a a' n : ℕ}
    (h : ∀ i < n, m r (a + i) = m' r' (a' + i)) : read m r a n = read m' r' a' n := by
  refine List.ext_getElem (by simp) ?_
  intro i hi _
  simpa using h i (by simpa using hi)

/-- A block is its first part followed by the rest. -/
theorem read_add (m : Memory ρ α) (r : ρ) (a n k : ℕ) :
    read m r a (n + k) = read m r a n ++ read m r (a + n) k := by
  simp [read, List.range_add, Nat.add_assoc]

/-- Dropping cells of a block moves its start. -/
theorem drop_read (m : Memory ρ α) (r : ρ) (a n k : ℕ) :
    (read m r a n).drop k = read m r (a + k) (n - k) := by
  refine List.ext_getElem (by simp) ?_
  intro i _ _
  simp [Nat.add_assoc]

/-- Keeping the first cells of a block shortens it. -/
theorem take_read (m : Memory ρ α) (r : ρ) (a : ℕ) {n k : ℕ} (h : k ≤ n) :
    (read m r a n).take k = read m r a k := by
  refine List.ext_getElem (by simp; omega) ?_
  intro i _ _
  simp

/-- A piece of a block is a block. -/
theorem take_drop_read (m : Memory ρ α) (r : ρ) (a : ℕ) {n i k : ℕ} (h : i + k ≤ n) :
    ((read m r a n).drop i).take k = read m r (a + i) k := by
  rw [drop_read, take_read m r (a + i) (by omega)]

/-! ### Writes -/

variable [DecidableEq ρ]

theorem write_in (m : Memory ρ α) (r : ρ) (a : ℕ) {d : List α} {i : ℕ} (h : i < d.length) :
    write m r a d r (a + i) = d[i] := by
  simp [write, List.getD_eq_getElem?_getD, h]

/-- A cell of a block just written. -/
theorem write_of_getElem? (m : Memory ρ α) (r : ρ) (a : ℕ) {d : List α} {i : ℕ} {x : α}
    (h : d[i]? = some x) : write m r a d r (a + i) = x := by
  obtain ⟨hi, rfl⟩ := List.getElem?_eq_some_iff.mp h
  exact write_in m r a hi

theorem write_region (m : Memory ρ α) {r r' : ρ} (h : r' ≠ r) (a : ℕ) (d : List α) (i : ℕ) :
    write m r a d r' i = m r' i := by
  simp [write, h]

theorem write_out (m : Memory ρ α) (r : ρ) (a : ℕ) {d : List α} {i : ℕ}
    (h : i < a ∨ a + d.length ≤ i) : write m r a d r i = m r i := by
  rcases h with h | h
  · have hlt : ¬ a ≤ i := by omega
    simp [write, hlt]
  · have hlen : d.length ≤ i - a := by omega
    simp [write, List.getD_eq_getElem?_getD, List.getElem?_eq_none hlen]

/-- A block just written is read back. -/
@[simp] theorem read_write_self (m : Memory ρ α) (r : ρ) (a : ℕ) (d : List α) :
    read (write m r a d) r a d.length = d := by
  refine List.ext_getElem (by simp) ?_
  intro i _ hi
  rw [getElem_read, write_in m r a hi]

/-- A block just written is read back, the length given separately. -/
theorem read_write_eq (m : Memory ρ α) (r : ρ) (a : ℕ) {d : List α} {n : ℕ}
    (h : n = d.length) : read (write m r a d) r a n = d := by
  rw [h, read_write_self]

/-- A write to another region is not seen. -/
theorem read_write_region (m : Memory ρ α) {r r' : ρ} (h : r' ≠ r) (a b n : ℕ)
    (d : List α) : read (write m r b d) r' a n = read m r' a n :=
  read_congr fun i _ => write_region m h b d (a + i)

/-- A write to a disjoint block is not seen. -/
theorem read_write_disjoint (m : Memory ρ α) (r r' : ρ) {a b n : ℕ} {d : List α}
    (h : a + n ≤ b ∨ b + d.length ≤ a) : read (write m r b d) r' a n = read m r' a n := by
  by_cases hr : r' = r
  · subst hr
    refine read_congr fun i hi => write_out m r' b ?_
    omega
  · exact read_write_region m hr a b n d

/-- A block written behind another lengthens it. -/
theorem read_write_append (m : Memory ρ α) (r : ρ) (a k : ℕ) {d : List α} {n : ℕ}
    (h : n = d.length) : read (write m r (a + k) d) r a (k + n) = read m r a k ++ d := by
  rw [read_add, read_write_disjoint m r r (.inl (Nat.le_refl _)), read_write_eq m r (a + k) h]

@[simp] theorem write_nil (m : Memory ρ α) (r : ρ) (a : ℕ) : write m r a [] = m := by
  funext r' i
  simp [write]

/-- A block written in two parts. -/
theorem write_append (m : Memory ρ α) (r : ρ) (a : ℕ) (d e : List α) :
    write m r a (d ++ e) = write (write m r a d) r (a + d.length) e := by
  funext r' i
  by_cases hr : r' = r
  · subst hr
    by_cases hi : a + d.length ≤ i
    · obtain ⟨k, rfl⟩ : ∃ k, i = a + d.length + k := ⟨i - (a + d.length), by omega⟩
      have h1 : a + d.length + k - a = d.length + k := by omega
      have h2 : a ≤ a + d.length + k := by omega
      simp [write, h1, h2, List.getD_eq_getElem?_getD, List.getElem?_append_right]
    · by_cases ha : a ≤ i
      · have hd : i - a < d.length := by omega
        simp [write, hi, ha, List.getD_eq_getElem?_getD, hd, List.getElem?_append_left]
      · simp [write, hi, ha]
  · simp [write, hr]

/-- Writes to disjoint blocks commute. -/
theorem write_comm (m : Memory ρ α) (r : ρ) {a b : ℕ} {d e : List α}
    (h : a + d.length ≤ b ∨ b + e.length ≤ a) :
    write (write m r a d) r b e = write (write m r b e) r a d := by
  funext r' i
  by_cases hr : r' = r
  · subst hr
    by_cases hd : a ≤ i ∧ i < a + d.length
    · have he : i < b ∨ b + e.length ≤ i := by omega
      obtain ⟨k, rfl⟩ : ∃ k, i = a + k := ⟨i - a, by omega⟩
      rw [write_out _ r' b he, write_in _ r' a (by omega), write_in _ r' a (by omega)]
    · rw [write_out (write m r' b e) r' a (by omega)]
      by_cases he : b ≤ i ∧ i < b + e.length
      · obtain ⟨k, rfl⟩ : ∃ k, i = b + k := ⟨i - b, by omega⟩
        rw [write_in _ r' b (by omega), write_in _ r' b (by omega)]
      · rw [write_out _ r' b (by omega), write_out _ r' a (by omega),
          write_out _ r' b (by omega)]
  · simp only [write_region _ hr]

/-- Writing back what a block already holds changes nothing. -/
theorem write_read_self (m : Memory ρ α) (r : ρ) (a n : ℕ) :
    write m r a (read m r a n) = m := by
  funext r' i
  by_cases hr : r' = r
  · subst hr
    by_cases hi : a ≤ i ∧ i < a + n
    · obtain ⟨k, rfl⟩ : ∃ k, i = a + k := ⟨i - a, by omega⟩
      rw [write_in m r' a (by simp; omega), getElem_read]
    · exact write_out m r' a (by simp; omega)
  · exact write_region m hr a _ i

end Region
