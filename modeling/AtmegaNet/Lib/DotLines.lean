import Mathlib.Data.List.TakeWhile
import Mathlib.Tactic.Common

/-!
# Lines that end with two characters, and a text that ends with a dot

A stream is divided by the pair `cr`, `lf` into lines, the last of which need not have ended. A
text is sent as lines, behind which comes a line of a single dot; who reads it takes a leading
dot off every other line. Lines that begin with a dot come through only if the sender has put
another one in front.

## Main results

* `split_append`, `split_append_head`: the lines of a stream made of pieces.
* `join_split`: the lines, each with its end, make up the stream.
* `read_eq_iff`: a text sent as it is comes through just if no line of it begins with a dot.
-/

namespace DotLines

variable {α : Type} [DecidableEq α] (cr lf dot : α)

/-- Put a character in front of the first line. -/
def push (c : α) : List (List α) → List (List α)
  | [] => [[c]]
  | l :: ls => (c :: l) :: ls

/-- The lines of a stream, the last one being what follows the last end of a line. -/
def split : List α → List (List α)
  | [] => [[]]
  | [c] => [[c]]
  | c :: d :: rest => if c = cr ∧ d = lf then [] :: split rest else push c (split (d :: rest))

/-- Lines, each with its end. -/
def join (ls : List (List α)) : List α := ls.flatMap fun l => l ++ [cr, lf]

/-- Take a leading dot off a line. -/
def unstuff (l : List α) : List α := if l.head? = some dot then l.tail else l

/-- Read a text: the lines before the first that is a single dot, without their leading dots,
and what is left of the stream behind it. Nothing is read before that line has ended. -/
def read (s : List α) : Option (List α × List α) :=
  let ls := split cr lf s
  if [dot] ∈ ls.dropLast then
    some (join cr lf ((ls.takeWhile (· ≠ [dot])).map (unstuff dot)),
      [cr, lf].intercalate ((ls.dropWhile (· ≠ [dot])).drop 1))
  else none

variable {cr lf dot} {s : List α} {ls : List (List α)}

/-! ### Lines -/

@[simp] theorem split_end (s : List α) : split cr lf (cr :: lf :: s) = [] :: split cr lf s := by
  rw [split, if_pos ⟨rfl, rfl⟩]

/-- A character that does not begin the end of a line belongs to the first one. -/
theorem split_cons {c : α} (h : ∀ t, c :: s ≠ cr :: lf :: t) :
    split cr lf (c :: s) = push c (split cr lf s) := by
  cases s with
  | nil => rfl
  | cons d rest =>
      have hnot : ¬ (c = cr ∧ d = lf) := by
        rintro ⟨rfl, rfl⟩
        exact h rest rfl
      rw [split, if_neg hnot]

omit [DecidableEq α] in
theorem push_ne_nil (c : α) (ls : List (List α)) : push c ls ≠ [] := by
  cases ls <;> exact List.cons_ne_nil _ _

theorem split_ne_nil (s : List α) : split cr lf s ≠ [] := by
  unfold split
  split
  · exact List.cons_ne_nil _ _
  · exact List.cons_ne_nil _ _
  · split
    · exact List.cons_ne_nil _ _
    · exact push_ne_nil _ _

omit [DecidableEq α] in
theorem push_append (hs : ls ≠ []) (c : α) (ls' : List (List α)) :
    push c (ls ++ ls') = push c ls ++ ls' := by
  cases ls with
  | nil => exact absurd rfl hs
  | cons l ls => rfl

/-- The lines around the end of a line. -/
theorem split_append (hne : cr ≠ lf) (s t : List α) :
    split cr lf (s ++ cr :: lf :: t) = split cr lf s ++ split cr lf t := by
  induction s using split.induct cr lf with
  | case1 => exact split_end t
  | case2 c =>
      have hnot : ∀ u, c :: cr :: lf :: t ≠ cr :: lf :: u := by
        intro u h
        exact hne (List.cons.inj (List.cons.inj h).2).1
      exact (split_cons hnot).trans (by rw [split_end]; rfl)
  | case3 c d rest h ih =>
      obtain ⟨rfl, rfl⟩ := h
      rw [split_end, List.cons_append, List.cons_append, split_end, ih]
      rfl
  | case4 c d rest h ih =>
      have hnot : ∀ u v : List α, c :: d :: u ≠ cr :: lf :: v := by
        intro u v heq
        exact h ⟨(List.cons.inj heq).1, (List.cons.inj (List.cons.inj heq).2).1⟩
      rw [split_cons (hnot rest), ← push_append (split_ne_nil _), ← ih]
      exact split_cons (hnot _)

/-- Characters in front of a stream belong to its first line. -/
theorem split_append_head (h : cr ∉ s) (t : List α) :
    split cr lf (s ++ t) = (s ++ (split cr lf t).headD []) :: (split cr lf t).tail := by
  induction s with
  | nil =>
      have hne : split cr lf t ≠ [] := split_ne_nil t
      obtain ⟨l, ls, hsplit⟩ := List.exists_cons_of_ne_nil hne
      rw [List.nil_append, hsplit]
      rfl
  | cons c s ih =>
      obtain ⟨hc, hs⟩ := not_or.mp (mt List.mem_cons.mpr h)
      have hnot : ∀ u, c :: (s ++ t) ≠ cr :: lf :: u := fun u heq =>
        hc (List.cons.inj heq).1.symm
      rw [List.cons_append, split_cons hnot, ih hs]
      rfl

omit [DecidableEq α] in
theorem join_cons (l : List α) (ls : List (List α)) :
    join cr lf (l :: ls) = l ++ cr :: lf :: join cr lf ls := by
  rw [join, List.flatMap_cons, List.append_assoc]
  rfl

omit [DecidableEq α] in
theorem join_append (ls ls' : List (List α)) :
    join cr lf (ls ++ ls') = join cr lf ls ++ join cr lf ls' :=
  List.flatMap_append

/-- The lines, each with its end, make up the stream. -/
theorem join_split (s : List α) : join cr lf (split cr lf s) = s ++ [cr, lf] := by
  have hpush : ∀ (c : α) {ls : List (List α)}, ls ≠ [] →
      join cr lf (push c ls) = c :: join cr lf ls := by
    intro c ls hls
    cases ls with
    | nil => exact absurd rfl hls
    | cons l ls => rfl
  induction s using split.induct cr lf with
  | case1 => rfl
  | case2 c => rfl
  | case3 c d rest h ih =>
      obtain ⟨rfl, rfl⟩ := h
      rw [split_end, join_cons, ih]
      rfl
  | case4 c d rest h ih =>
      have hnot : ∀ t, c :: d :: rest ≠ cr :: lf :: t := by
        intro t heq
        exact h ⟨(List.cons.inj heq).1, (List.cons.inj (List.cons.inj heq).2).1⟩
      rw [split_cons hnot, hpush c (split_ne_nil _), ih]
      rfl

/-! ### Reading -/

/-- Where a leading dot is taken off, the text gets shorter. -/
theorem length_join_unstuff :
    (join cr lf (ls.map (unstuff dot))).length ≤ (join cr lf ls).length ∧
      ((∃ l ∈ ls, l.head? = some dot) →
        (join cr lf (ls.map (unstuff dot))).length < (join cr lf ls).length) := by
  induction ls with
  | nil => exact ⟨le_rfl, fun ⟨l, hl, _⟩ => absurd hl List.not_mem_nil⟩
  | cons l ls ih =>
      have hjoin : ∀ (l : List α) (ls : List (List α)),
          (join cr lf (l :: ls)).length = l.length + (join cr lf ls).length + 2 := by
        intro l ls
        rw [join_cons, List.length_append]
        rfl
      have hle : (unstuff dot l).length ≤ l.length ∧
          (l.head? = some dot → (unstuff dot l).length < l.length) := by
        unfold unstuff
        split
        case isTrue h =>
          cases l with
          | nil => exact absurd h (by simp)
          | cons a l => exact ⟨Nat.le_succ _, fun _ => Nat.lt_succ_self _⟩
        case isFalse h => exact ⟨le_rfl, fun hdot => absurd hdot h⟩
      rw [List.map_cons, hjoin, hjoin]
      refine ⟨by omega, ?_⟩
      rintro ⟨l', hl', hdot⟩
      rcases List.mem_cons.mp hl' with rfl | hl'
      · have hlt := hle.2 hdot
        omega
      · have hlt := ih.2 ⟨l', hl', hdot⟩
        omega

omit [DecidableEq α] in
/-- A line that is not empty leaves something. -/
theorem intercalate_ne_nil {sep l : List α} (hl : l ∈ ls) (hne : l ≠ []) :
    sep.intercalate ls ≠ [] := by
  induction ls with
  | nil => exact absurd hl List.not_mem_nil
  | cons a ls ih =>
      cases ls with
      | nil =>
          rw [List.intercalate_singleton]
          exact List.mem_singleton.mp hl ▸ hne
      | cons b ls =>
          rw [List.intercalate_cons_cons]
          rcases List.mem_cons.mp hl with rfl | hl
          · simp [hne]
          · simp [ih hl]

/-- A text that is sent as it is, with a dot behind it, comes through just if no line of it begins
with a dot. -/
theorem read_eq_iff {s : List α} (hs : split cr lf s = ls ++ [[dot], []]) :
    read cr lf dot s = some (join cr lf ls, []) ↔ ∀ l ∈ ls, l.head? ≠ some dot := by
  have hended : (ls ++ [[dot], []]).dropLast = ls ++ [[dot]] := by
    rw [List.dropLast_append_of_ne_nil (List.cons_ne_nil _ _)]
    rfl
  have hmem : [dot] ∈ (split cr lf s).dropLast := by
    rw [hs, hended]
    exact List.mem_append_right _ (List.mem_singleton_self _)
  unfold read
  dsimp only
  rw [if_pos hmem, hs]
  constructor
  · intro hread l hl hdot
    obtain ⟨htext, hrest⟩ := Prod.mk.inj (Option.some.inj hread)
    by_cases hearly : [dot] ∈ ls
    · -- the text ends early, and the line that is to end it is left
      have hfound : ls.dropWhile (· ≠ [dot]) ≠ [] := by
        intro hnil
        have hall := List.dropWhile_eq_nil_iff.mp hnil _ hearly
        simp at hall
      obtain ⟨a, back, hback⟩ := List.exists_cons_of_ne_nil hfound
      rw [List.dropWhile_append, hback] at hrest
      exact intercalate_ne_nil (List.mem_append_right back List.mem_cons_self)
        (List.cons_ne_nil dot []) hrest
    · have hnot : ∀ l ∈ ls, decide (l ≠ [dot]) = true := by
        rintro l hl
        exact decide_eq_true fun heq => hearly (heq ▸ hl)
      have htake : (ls ++ [[dot], []]).takeWhile (· ≠ [dot]) = ls := by
        rw [List.takeWhile_append_of_pos hnot]
        simp
      rw [htake] at htext
      exact absurd (congrArg List.length htext)
        (Nat.ne_of_lt (length_join_unstuff.2 ⟨l, hl, hdot⟩))
  · intro hplain
    have hnot : ∀ l ∈ ls, decide (l ≠ [dot]) = true := by
      rintro l hl
      refine decide_eq_true fun heq => hplain l hl ?_
      rw [heq]
      rfl
    have hsame : ls.map (unstuff dot) = ls := by
      refine (List.map_congr_left fun l hl => ?_).trans (List.map_id ls)
      exact if_neg (hplain l hl)
    rw [List.takeWhile_append_of_pos hnot, List.dropWhile_append_of_pos hnot]
    simp [hsame]

end DotLines
