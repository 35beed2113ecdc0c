import Mathlib.Data.List.Nodup
import Mathlib.Tactic.Common

/-!
# Tables searched from the front

A table is a list whose entries have a key and perhaps a value; a key stands for the value of
the first entry that has it. Entries are replaced where they are: the first entry that satisfies
some test is overwritten.

## Main results

* `exists_split`: the table around the first entry that satisfies a test.
* `lookup_set_self`, `lookup_set_ne`: what the keys stand for after an entry was overwritten.
* `Unshadowed`: only the first entry of a key has a value; `Unshadowed.lookup_eq_some_iff` says
  that every value in the table is found then, and `Unshadowed.replace` keeps it.
-/

namespace FirstMatch

variable {α κ ρ : Type} {p : α → Bool} {l front back : List α} {a new : α} {i : ℕ}

/-- The table around the first entry that satisfies a test. -/
theorem exists_split (h : l.findIdx? p = some i) :
    ∃ front a back, l = front ++ a :: back ∧ front.length = i ∧ p a ∧ ∀ b ∈ front, ¬ p b := by
  obtain ⟨hlt, hp, hbefore⟩ := List.findIdx?_eq_some_iff_getElem.mp h
  refine ⟨l.take i, l[i], l.drop (i + 1), ?_, ?_, hp, ?_⟩
  · exact (List.take_append_drop i l).symm.trans (by rw [List.drop_eq_getElem_cons hlt])
  · exact List.length_take_of_le (Nat.le_of_lt hlt)
  · intro b hb
    obtain ⟨j, hj, rfl⟩ := List.getElem_of_mem hb
    rw [List.getElem_take]
    exact hbefore j (by rw [List.length_take] at hj; omega)

theorem set_split (hi : front.length = i) :
    (front ++ a :: back).set i new = front ++ new :: back := by
  rw [List.set_append_right i new (Nat.le_of_eq hi), hi, Nat.sub_self, List.set_cons_zero]

variable {key : α → κ} {value : α → Option ρ} {k : κ} {v : ρ}

/-- Only the first entry with a key may have a value. -/
def Unshadowed (key : α → κ) (value : α → Option ρ) (l : List α) : Prop :=
  l.Pairwise fun a b => key a = key b → value b = none

/-- An entry may be overwritten, if its key stays or the new one is in no other entry. -/
theorem Unshadowed.replace (h : Unshadowed key value (front ++ a :: back))
    (hfront : ∀ b ∈ front, key b ≠ key new)
    (hback : key a = key new ∨ ∀ b ∈ back, key new ≠ key b) :
    Unshadowed key value (front ++ new :: back) := by
  obtain ⟨hf, hab, hcross⟩ := List.pairwise_append.mp h
  obtain ⟨ha, hb⟩ := List.pairwise_cons.mp hab
  refine List.pairwise_append.mpr ⟨hf, List.pairwise_cons.mpr ⟨?_, hb⟩, ?_⟩
  · intro b hmem heq
    rcases hback with hsame | hother
    · exact ha b hmem (hsame.trans heq)
    · exact absurd heq (hother b hmem)
  · intro c hc b hmem heq
    rcases List.mem_cons.mp hmem with rfl | hmem
    · exact absurd heq (hfront c hc)
    · exact hcross c hc b (List.mem_cons_of_mem _ hmem) heq

/-- A table whose entries all have a value has no key twice, if it is unshadowed. -/
theorem Unshadowed.nodup (h : Unshadowed key value l) (hsome : ∀ e ∈ l, value e ≠ none) :
    (l.map key).Nodup := by
  rw [List.nodup_iff_pairwise_ne, List.pairwise_map]
  refine List.Pairwise.imp_of_mem ?_ h
  intro a b _ hb hab heq
  exact hsome b hb (hab heq)

variable [DecidableEq κ]

/-- The value of the first entry with a key. -/
def lookup (key : α → κ) (value : α → Option ρ) (k : κ) (l : List α) : Option ρ :=
  (l.find? fun e => key e = k).bind value

@[simp] theorem lookup_nil : lookup key value k [] = none := rfl

theorem lookup_cons_self (h : key a = k) : lookup key value k (a :: l) = value a := by
  rw [lookup, List.find?_cons_of_pos (by simpa using h), Option.bind_some]

theorem lookup_cons_ne (h : key a ≠ k) :
    lookup key value k (a :: l) = lookup key value k l := by
  rw [lookup, List.find?_cons_of_neg (by simpa using h), lookup]

/-- The key of an entry that is overwritten, if no entry in front of it has the new key. -/
theorem lookup_set_self (h : l.findIdx? p = some i) (hnew : key new = k)
    (hp : ∀ e ∈ l, key e = k → p e) : lookup key value k (l.set i new) = value new := by
  obtain ⟨front, a, back, rfl, hi, -, hfront⟩ := exists_split h
  rw [set_split hi]
  have hne : ∀ b ∈ front, key b ≠ k := fun b hb hk =>
    hfront b hb (hp b (List.mem_append_left _ hb) hk)
  clear h hp hi hfront
  induction front with
  | nil => exact lookup_cons_self hnew
  | cons b front ih =>
      rw [List.cons_append, lookup_cons_ne (hne b List.mem_cons_self)]
      exact ih fun c hc => hne c (List.mem_cons_of_mem _ hc)

/-- The other keys, if neither the entry nor what overwrites it has them. -/
theorem lookup_set_ne (h : l.findIdx? p = some i) (hp : ∀ e, p e → key e ≠ k)
    (hnew : key new ≠ k) : lookup key value k (l.set i new) = lookup key value k l := by
  obtain ⟨front, a, back, rfl, hi, ha, -⟩ := exists_split h
  rw [set_split hi]
  clear h hi
  induction front with
  | nil =>
      rw [List.nil_append, List.nil_append, lookup_cons_ne hnew, lookup_cons_ne (hp a ha)]
  | cons b front ih =>
      by_cases hb : key b = k
      · rw [List.cons_append, List.cons_append, lookup_cons_self hb, lookup_cons_self hb]
      · rw [List.cons_append, List.cons_append, lookup_cons_ne hb, lookup_cons_ne hb, ih]

theorem exists_mem_of_lookup (h : lookup key value k l = some v) :
    ∃ e ∈ l, key e = k ∧ value e = some v := by
  obtain ⟨e, hfind, hv⟩ := Option.bind_eq_some_iff.mp h
  exact ⟨e, List.mem_of_find?_eq_some hfind,
    by simpa using List.find?_some hfind, hv⟩

theorem lookup_eq_none (h : ∀ e ∈ l, key e = k → value e = none) :
    lookup key value k l = none := by
  rw [Option.eq_none_iff_forall_ne_some]
  intro v hv
  obtain ⟨e, he, hk, hsome⟩ := exists_mem_of_lookup hv
  rw [h e he hk] at hsome
  exact absurd hsome (by simp)

/-- Every value of an unshadowed table is found. -/
theorem Unshadowed.lookup_eq_some_iff (h : Unshadowed key value l) :
    lookup key value k l = some v ↔ ∃ e ∈ l, key e = k ∧ value e = some v := by
  refine ⟨exists_mem_of_lookup, ?_⟩
  rintro ⟨e, he, hk, hv⟩
  induction l with
  | nil => exact absurd he List.not_mem_nil
  | cons a l ih =>
      obtain ⟨ha, hl⟩ := List.pairwise_cons.mp h
      by_cases hak : key a = k
      · rw [lookup_cons_self hak]
        rcases List.mem_cons.mp he with rfl | he
        · exact hv
        · rw [ha e he (hak.trans hk.symm)] at hv
          exact absurd hv (by simp)
      · rw [lookup_cons_ne hak]
        rcases List.mem_cons.mp he with rfl | he
        · exact absurd hk hak
        · exact ih hl he

end FirstMatch
