import Mathlib.Data.List.Induction
import Mathlib.Tactic.Common

/-!
# Splitting a list as it arrives

A stream that is split at its separators, while its elements arrive one at a time: the pieces
that a separator has ended (`finished`), and the piece still open (`unfinished`).

## Main results

* `finished_append_sep`, `unfinished_append_sep`: a separator ends the open piece.
* `finished_append_item`, `unfinished_append_item`: any other element joins it.
* `mem_of_mem_unfinished`, `mem_of_mem_finished`: the pieces consist of elements of the stream.
-/

namespace Split

variable {α : Type} (p : α → Bool)

/-- The pieces of a stream that a separator has ended. -/
def finished (s : List α) : List (List α) := (s.splitOnP p).dropLast

/-- The piece of a stream behind its last separator. -/
def unfinished (s : List α) : List α := (s.splitOnP p).getLastD []

variable {p}

/-- Nothing has arrived, and nothing has been ended. -/
@[simp] theorem finished_nil : finished p [] = [] := by simp [finished]

/-- The piece that is open at the start is empty. -/
@[simp] theorem unfinished_nil : unfinished p [] = [] := by simp [unfinished]

/-- A list that has an end is what is in front of it, and the end. -/
theorem dropLast_append_getLastD {l : List (List α)} (h : l ≠ []) :
    l.dropLast ++ [l.getLastD []] = l := by
  rw [List.getLastD_eq_getLast?, List.getLast?_eq_some_getLast h, Option.getD_some]
  exact List.dropLast_concat_getLast h

/-- A stream is split into the pieces that have been ended, and the one that is open. -/
theorem splitOnP_eq (s : List α) : s.splitOnP p = finished p s ++ [unfinished p s] :=
  (dropLast_append_getLastD (List.splitOnP_ne_nil p s)).symm

/-- A separator at the end opens an empty piece. -/
theorem splitOnP_append_sep (s : List α) {c : α} (h : p c) :
    (s ++ [c]).splitOnP p = s.splitOnP p ++ [[]] := by
  rw [List.splitOnP_append_cons s [] h, List.splitOnP_nil]

/-- Any other element at the end joins the last piece. -/
theorem splitOnP_append_item (s : List α) {c : α} (h : ¬ p c) :
    (s ++ [c]).splitOnP p = finished p s ++ [unfinished p s ++ [c]] := by
  induction s with
  | nil =>
      rw [List.nil_append, List.splitOnP_cons_eq_if_modifyHead, if_neg h]
      simp
  | cons a s ih =>
      have hsplit := List.splitOnP_cons_eq_if_modifyHead (p := p) a s
      rw [List.cons_append, List.splitOnP_cons_eq_if_modifyHead, ih, finished.eq_1 p (a :: s),
        unfinished.eq_1 p (a :: s), hsplit, splitOnP_eq s]
      generalize finished p s = pieces
      generalize unfinished p s = piece
      have hends : ∀ l : List (List α), (l ++ [piece]).dropLast ++
          [(l ++ [piece]).getLastD [] ++ [c]] = l ++ [piece ++ [c]] := fun l => by
        rw [List.dropLast_concat, List.getLastD_concat]
      split
      · exact (hends ([] :: pieces)).symm
      · cases pieces with
        | nil => rfl
        | cons first rest => exact (hends ((a :: first) :: rest)).symm

/-- A separator ends the piece that was open. -/
@[simp] theorem finished_append_sep (s : List α) {c : α} (h : p c) :
    finished p (s ++ [c]) = finished p s ++ [unfinished p s] := by
  rw [finished, splitOnP_append_sep s h, List.dropLast_concat, splitOnP_eq]

/-- Behind a separator the open piece is empty. -/
@[simp] theorem unfinished_append_sep (s : List α) {c : α} (h : p c) :
    unfinished p (s ++ [c]) = [] := by
  rw [unfinished, splitOnP_append_sep s h, List.getLastD_concat]

/-- Without a separator no piece is ended. -/
@[simp] theorem finished_append_item (s : List α) {c : α} (h : ¬ p c) :
    finished p (s ++ [c]) = finished p s := by
  rw [finished, splitOnP_append_item s h, List.dropLast_concat]

/-- An element joins the piece that is open. -/
@[simp] theorem unfinished_append_item (s : List α) {c : α} (h : ¬ p c) :
    unfinished p (s ++ [c]) = unfinished p s ++ [c] := by
  rw [unfinished, splitOnP_append_item s h, List.getLastD_concat]

/-- The open piece consists of elements of the stream. -/
theorem mem_of_mem_unfinished {s : List α} {c : α} (h : c ∈ unfinished p s) : c ∈ s := by
  induction s using List.reverseRecOn with
  | nil => simp at h
  | append_singleton s a ih =>
      by_cases ha : p a
      · rw [unfinished_append_sep s ha] at h
        exact absurd h List.not_mem_nil
      · rw [unfinished_append_item s ha, List.mem_append] at h
        exact List.mem_append.mpr (h.imp_left ih)

/-- So does every piece that has been ended. -/
theorem mem_of_mem_finished {s piece : List α} {c : α} (hpiece : piece ∈ finished p s)
    (hc : c ∈ piece) : c ∈ s := by
  induction s using List.reverseRecOn with
  | nil => simp at hpiece
  | append_singleton s a ih =>
      by_cases ha : p a
      · rw [finished_append_sep s ha, List.mem_append, List.mem_singleton] at hpiece
        rcases hpiece with hpiece | rfl
        · exact List.mem_append_left _ (ih hpiece)
        · exact List.mem_append_left _ (mem_of_mem_unfinished hc)
      · rw [finished_append_item s ha] at hpiece
        exact List.mem_append_left _ (ih hpiece)

end Split
