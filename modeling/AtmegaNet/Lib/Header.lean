import Mathlib.Data.List.Basic
import Mathlib.Data.Nat.Notation
import Mathlib.Tactic.Common

/-!
# Texts behind a header

A text that begins with lines, each of which ends with a separator, up to an empty line. What
follows the empty line is left as it is.

## Main results

* `cut_eq_some_iff`: a list is cut at the first separator.
* `readHeader_eq_some_iff`: what is read as a header is what has been written as one.
-/

namespace Header

variable {α : Type} [DecidableEq α]

/-- What is in front of the first separator, and what is behind it. -/
def cut (c : α) : List α → Option (List α × List α)
  | [] => none
  | a :: s => if a = c then some ([], s) else (cut c s).map fun (line, rest) => (a :: line, rest)

/-- The lines up to an empty one, at most `fuel` with it, and what is behind it. -/
def readHeader (c : α) : ℕ → List α → Option (List (List α) × List α)
  | 0, _ => none
  | fuel + 1, s => match cut c s with
    | none => none
    | some ([], rest) => some ([], rest)
    | some (line, rest) => (readHeader c fuel rest).map fun (lines, rest) => (line :: lines, rest)

/-- Lines, and the empty line behind them. -/
def write (c : α) (lines : List (List α)) : List α := lines.flatMap (· ++ [c]) ++ [c]

omit [DecidableEq α] in
/-- Every line takes an element at least, and so does the empty one. -/
theorem length_lt_write (c : α) (lines : List (List α)) :
    lines.length < (write c lines).length := by
  induction lines with
  | nil => exact Nat.one_pos
  | cons line lines ih =>
      simp only [write, List.flatMap_cons, List.length_append, List.length_cons] at ih ⊢
      omega

variable {c : α}

theorem cut_append {line : List α} (h : c ∉ line) (rest : List α) :
    cut c (line ++ c :: rest) = some (line, rest) := by
  induction line with
  | nil => exact if_pos rfl
  | cons a line ih =>
      have ha : a ≠ c := fun heq => h (heq ▸ List.mem_cons_self)
      have hline : c ∉ line := fun hmem => h (List.mem_cons_of_mem _ hmem)
      rw [List.cons_append, cut, if_neg ha, ih hline]
      rfl

theorem cut_eq_some_iff {s line rest : List α} :
    cut c s = some (line, rest) ↔ c ∉ line ∧ s = line ++ c :: rest := by
  constructor
  · intro h
    induction s generalizing line with
    | nil => exact absurd h (by simp [cut])
    | cons a s ih =>
        rw [cut] at h
        split at h
        case isTrue heq =>
          obtain ⟨rfl, rfl⟩ := Prod.mk.inj (Option.some.inj h)
          exact ⟨List.not_mem_nil, by rw [heq]; rfl⟩
        case isFalse hne =>
          obtain ⟨⟨line', rest'⟩, hcut, heq⟩ := Option.map_eq_some_iff.mp h
          obtain ⟨rfl, rfl⟩ := Prod.mk.inj heq
          obtain ⟨hno, rfl⟩ := ih hcut
          refine ⟨fun hmem => ?_, rfl⟩
          rcases List.mem_cons.mp hmem with rfl | hmem
          · exact hne rfl
          · exact hno hmem
  · rintro ⟨h, rfl⟩
    exact cut_append h rest

/-- What is read as a header is what has been written as one. -/
theorem readHeader_eq_some_iff {fuel : ℕ} {s rest : List α} {lines : List (List α)} :
    readHeader c fuel s = some (lines, rest) ↔
      (∀ l ∈ lines, l ≠ [] ∧ c ∉ l) ∧ lines.length < fuel ∧ s = write c lines ++ rest := by
  induction fuel generalizing s lines with
  | zero => simp [readHeader]
  | succ fuel ih =>
      rw [readHeader]
      constructor
      · intro h
        split at h
        case h_1 => exact absurd h (by simp)
        case h_2 rest' hcut =>
          obtain ⟨rfl, rfl⟩ := Prod.mk.inj (Option.some.inj h)
          exact ⟨by simp, Nat.succ_pos _, (cut_eq_some_iff.mp hcut).2⟩
        case h_3 line rest' hne hcut =>
          obtain ⟨⟨lines', rest''⟩, hread, heq⟩ := Option.map_eq_some_iff.mp h
          obtain ⟨rfl, rfl⟩ := Prod.mk.inj heq
          obtain ⟨hlines, hlength, hrest⟩ := ih.mp hread
          obtain ⟨hno, rfl⟩ := cut_eq_some_iff.mp hcut
          refine ⟨fun l hl => ?_, Nat.succ_lt_succ hlength, ?_⟩
          · rcases List.mem_cons.mp hl with rfl | hl
            · exact ⟨hne, hno⟩
            · exact hlines l hl
          · rw [hrest]
            simp [write]
      · rintro ⟨hlines, hlength, rfl⟩
        cases lines with
        | nil =>
            have hcut : cut c (write c [] ++ rest) = some ([], rest) :=
              cut_append List.not_mem_nil rest
            rw [hcut]
        | cons line lines =>
            obtain ⟨⟨hne, hno⟩, htail⟩ := List.forall_mem_cons.mp hlines
            have hcut : cut c (write c (line :: lines) ++ rest) =
                some (line, write c lines ++ rest) := by
              rw [← cut_append hno]
              simp [write]
            obtain ⟨a, line, rfl⟩ := List.exists_cons_of_ne_nil hne
            have hread : readHeader c fuel (write c lines ++ rest) = some (lines, rest) :=
              ih.mpr ⟨htail, Nat.lt_of_succ_lt_succ hlength, rfl⟩
            rw [hcut]
            dsimp only
            rw [hread]
            rfl

end Header
