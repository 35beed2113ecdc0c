import Mathlib.Data.Nat.ModEq
import Mathlib.Algebra.BigOperators.Group.List.Basic
import Mathlib.Tactic.Common

/-!
# One's complement sums

Words of `w` bits are the numbers up to `m = 2 ^ w - 1`, and one's complement addition brings a
carry out of the highest bit back in at the lowest. Zero then has two representations, 0 and `m`.

## Main results

* `sum_eq_norm`: the sum of a list of words is determined by their sum as natural numbers.
* `eq_norm`: any other way to fold that sum into a word gives the same one.
* `norm_eq_iff_dvd`: when it is the second representation of zero.
-/

namespace OnesComplement

variable {m a b k n : ℕ}

/-- Addition with an end-around carry. -/
def add (m a b : ℕ) : ℕ := if a + b ≤ m then a + b else a + b - m

/-- The one's complement sum of a list of words. -/
def sum (m : ℕ) (ws : List ℕ) : ℕ := ws.foldr (add m) 0

/-- The word that stands for a sum `n`: 0 for 0 only, and `m` for the other multiples of `m`. -/
def norm (m n : ℕ) : ℕ := if n = 0 then 0 else (n - 1) % m + 1

@[simp] theorem norm_zero (m : ℕ) : norm m 0 = 0 := rfl

theorem norm_pos (hn : n ≠ 0) : norm m n = (n - 1) % m + 1 := if_neg hn

theorem norm_eq_zero : norm m n = 0 ↔ n = 0 := by
  constructor
  · intro h
    by_contra hn
    rw [norm_pos hn] at h
    omega
  · rintro rfl
    rfl

theorem norm_le (hm : 0 < m) : norm m n ≤ m := by
  by_cases hn : n = 0
  · subst hn
    exact Nat.zero_le m
  · rw [norm_pos hn]
    exact Nat.mod_lt _ hm

/-- Folding does not change the residue. -/
theorem norm_mod : norm m n % m = n % m := by
  by_cases hn : n = 0
  · subst hn
    rfl
  · rw [norm_pos hn, Nat.mod_add_mod, Nat.sub_add_cancel (Nat.pos_of_ne_zero hn)]

/-- A word with the residue of `n` that is 0 just if `n` is. -/
theorem eq_norm (hk : k ≤ m) (h0 : k = 0 ↔ n = 0) (hmod : k % m = n % m) : k = norm m n := by
  by_cases hn : n = 0
  · rw [h0.mpr hn, hn, norm_zero]
  · have hk0 : k ≠ 0 := mt h0.mp hn
    have hpred : (k - 1) % m = (n - 1) % m := by
      have hplus : k - 1 + 1 ≡ n - 1 + 1 [MOD m] := by
        rw [Nat.sub_add_cancel (Nat.pos_of_ne_zero hk0),
          Nat.sub_add_cancel (Nat.pos_of_ne_zero hn)]
        exact hmod
      exact Nat.ModEq.add_right_cancel' 1 hplus
    rw [norm_pos hn, ← hpred, Nat.mod_eq_of_lt (by omega)]
    omega

theorem norm_of_le (hn : n ≤ m) : norm m n = n := (eq_norm hn Iff.rfl rfl).symm

theorem norm_eq_iff_dvd (hm : 0 < m) (hn : n ≠ 0) : norm m n = m ↔ m ∣ n := by
  constructor
  · intro h
    have hmod := norm_mod (m := m) (n := n)
    rw [h, Nat.mod_self] at hmod
    exact Nat.dvd_of_mod_eq_zero hmod.symm
  · intro h
    have hmod : m % m = n % m := by rw [Nat.mod_self, Nat.mod_eq_zero_of_dvd h]
    exact (eq_norm le_rfl (by omega) hmod).symm

theorem add_norm (hm : 0 < m) : add m (norm m a) (norm m b) = norm m (a + b) := by
  have ha := norm_le (n := a) hm
  have hb := norm_le (n := b) hm
  have ha0 := norm_eq_zero (m := m) (n := a)
  have hb0 := norm_eq_zero (m := m) (n := b)
  have hmod : (norm m a + norm m b) % m = (a + b) % m :=
    Nat.ModEq.add norm_mod norm_mod
  unfold add
  by_cases hle : norm m a + norm m b ≤ m
  · rw [if_pos hle]
    exact eq_norm hle (by omega) hmod
  · rw [if_neg hle]
    have hless : (norm m a + norm m b - m) % m = (norm m a + norm m b) % m := by
      rw [Nat.mod_eq_sub_mod (by omega : m ≤ norm m a + norm m b)]
    exact eq_norm (by omega) (by omega) (hless.trans hmod)

/-- The sum of a list of words only depends on their sum as natural numbers. -/
theorem sum_eq_norm (hm : 0 < m) {ws : List ℕ} (hws : ∀ w ∈ ws, w ≤ m) :
    sum m ws = norm m ws.sum := by
  induction ws with
  | nil => rfl
  | cons w ws ih =>
      have hw : norm m w = w := norm_of_le (hws w (by simp))
      have hrest := ih fun v hv => hws v (by simp [hv])
      calc sum m (w :: ws) = add m w (sum m ws) := rfl
        _ = add m (norm m w) (norm m ws.sum) := by rw [hrest, hw]
        _ = norm m (w :: ws).sum := by rw [add_norm hm, List.sum_cons]

end OnesComplement
