import Mathlib.Data.List.GetD
import Mathlib.Data.List.TakeWhile
import AtmegaNet.Lib.Split
import AtmegaNet.SMTPClient

/-!
# The lines of the server

`onDataReceived` puts lines together from the buffers it is given. Where it is inside a line it
does not store, but finds out with `strlen` at each call, in an array that still has bytes of
earlier lines. This module says what these bytes are, and at which cuts of the stream `strlen`
is misled by them.

## Main results

* `Assembles`: what the array holds after a stream whose cuts did no harm; `Assembles.char` and
  `Assembles.newline` take it through a byte.
* `Assembles.strlen_eq_iff`: at the end of a buffer `strlen` finds the end of the line if and
  only if the cut is clean.
* `lines_iff_clean`: cutting a stream at given places shows in no continuation if and only if
  every one of the cuts is clean.
-/

open Split

namespace AtmegaNet

namespace SMTPClient

/-! ### The lines of a stream -/

/-- How much of a line is kept. -/
def lineSize : ℕ := recvLineSize - 1

/-- The lines of a stream: the non-empty runs between newlines, cut to what is kept. -/
def linesOf (s : Bytes) : List Bytes :=
  ((finished isNewline s).filter fun line => line ≠ []).map fun line => line.take lineSize

/-- The line a stream has not ended yet, cut to what is kept. -/
def current (s : Bytes) : Bytes := (unfinished isNewline s).take lineSize

/-- The last line that reaches as far as `k`. -/
def lastReaching (k : ℕ) (lines : List Bytes) : Option Bytes :=
  lines.reverse.find? fun line => k ≤ line.length

/-- A stream can be cut here: outside a line, or inside one if the last earlier line that was
at least as long as what there is of it was exactly as long. -/
def Clean (s : Bytes) : Prop :=
  current s = [] ∨
    ∀ line ∈ lastReaching (current s).length (linesOf s), line.length = (current s).length

section Stream

variable {s : Bytes} {c : UInt8}

/-- A newline ends the line, if there is one. -/
theorem linesOf_append_newline (h : isNewline c) :
    linesOf (s ++ [c]) = linesOf s ++ if current s = [] then [] else [current s] := by
  have hnil : current s = [] ↔ unfinished isNewline s = [] := by
    simp [current, lineSize, recvLineSize]
  rw [linesOf, finished_append_sep s h, List.filter_append, List.map_append, linesOf]
  by_cases hempty : unfinished isNewline s = []
  · rw [if_pos (hnil.mpr hempty), hempty]
    rfl
  · have hkeep : [unfinished isNewline s].filter (fun line => line ≠ []) =
        [unfinished isNewline s] := by simp [hempty]
    rw [if_neg (mt hnil.mp hempty), hkeep]
    rfl

/-- After a newline the next line is empty. -/
theorem current_append_newline (h : isNewline c) : current (s ++ [c]) = [] := by
  rw [current, unfinished_append_sep s h, List.take_nil]

/-- Another character ends no line. -/
theorem linesOf_append_char (h : ¬ isNewline c) : linesOf (s ++ [c]) = linesOf s := by
  rw [linesOf, finished_append_item s h, linesOf]

/-- It is appended while there is room. -/
theorem current_append_char (h : ¬ isNewline c) :
    current (s ++ [c]) = (current s ++ [c]).take lineSize := by
  rw [current, unfinished_append_item s h, current, List.take_append, List.take_append,
    List.take_take, List.length_take, min_self]
  congr 2
  omega

/-- No line is longer than the buffer. -/
theorem length_current_le (s : Bytes) : (current s).length ≤ lineSize := List.length_take_le _ _

/-- Nor is any of the lines before. -/
theorem length_le_of_mem_linesOf {line : Bytes} (h : line ∈ linesOf s) :
    line.length ≤ lineSize := by
  obtain ⟨whole, -, rfl⟩ := List.mem_map.mp h
  exact List.length_take_le _ _

/-- A line has no zero byte unless the stream has one. -/
theorem ne_zero_of_mem_current (hs : 0 ∉ s) : 0 ∉ current s := fun h =>
  hs (mem_of_mem_unfinished (List.mem_of_mem_take h))

/-- Nor do the lines before. -/
theorem ne_zero_of_mem_linesOf (hs : 0 ∉ s) {line : Bytes} (h : line ∈ linesOf s) :
    0 ∉ line := by
  obtain ⟨whole, hwhole, rfl⟩ := List.mem_map.mp h
  exact fun hmem => hs (mem_of_mem_finished (List.mem_filter.mp hwhole).1 (List.mem_of_mem_take hmem))

end Stream

/-! ### What is left of earlier lines -/

/-- The byte that the lines before have left at position `k` of the array: that of the last line
reaching so far, or the zero behind it. -/
def residue (k : ℕ) (lines : List Bytes) : UInt8 :=
  match lastReaching k lines with
  | some line => line.getD k 0
  | none => 0

/-- What is left at a position is of the last line that was long enough. -/
theorem residue_append (k : ℕ) (lines : List Bytes) (line : Bytes) :
    residue k (lines ++ [line]) =
      if k ≤ line.length then line.getD k 0 else residue k lines := by
  rw [residue, lastReaching, List.reverse_append, List.reverse_singleton, List.singleton_append,
    List.find?_cons]
  by_cases h : k ≤ line.length
  · simp [h]
  · simp [h, residue, lastReaching]

/-- Only a line that goes on behind `k` leaves a byte there. -/
theorem residue_eq_zero_iff {k : ℕ} {lines : List Bytes} (hzero : ∀ line ∈ lines, 0 ∉ line) :
    residue k lines = 0 ↔ ∀ line ∈ lastReaching k lines, line.length = k := by
  rw [residue]
  cases hlast : lastReaching k lines with
  | none => simp
  | some line =>
      have hmem : line ∈ lines := List.mem_reverse.mp (List.mem_of_find?_eq_some hlast)
      have hle : k ≤ line.length := by simpa using List.find?_some hlast
      simp only [Option.mem_some_iff, forall_eq']
      constructor
      · intro hres
        by_contra hne
        have hlt : k < line.length := by omega
        rw [List.getD_eq_getElem _ _ hlt] at hres
        exact hzero line hmem (hres ▸ List.getElem_mem hlt)
      · intro heq
        exact List.getD_eq_default _ _ (by omega)

/-! ### The array of characters -/

/-- The byte written is read back. -/
theorem getD_set_self {l : Bytes} {i : ℕ} (h : i < l.length) (c : UInt8) :
    (l.set i c).getD i 0 = c := by
  rw [List.getD_eq_getElem _ _ (by simpa using h), List.getElem_set_self]

/-- Other bytes are as they were. -/
theorem getD_set_of_ne {l : Bytes} {i k : ℕ} (h : k ≠ i) (c : UInt8) :
    (l.set i c).getD k 0 = l.getD k 0 := by
  rw [List.getD_eq_getElem?_getD, List.getElem?_set_ne (Ne.symm h), List.getD_eq_getElem?_getD]

/-- A byte written behind a line makes it one longer. -/
theorem take_set_succ {l : Bytes} {i : ℕ} (h : i < l.length) (c : UInt8) :
    (l.set i c).take (i + 1) = l.take i ++ [c] := by
  rw [List.set_eq_take_append_cons_drop, if_pos h, List.take_append, List.take_take]
  simp [Nat.min_eq_left h.le]

/-- A string in an array goes on to the first zero. -/
theorem cstring_append {c d : Bytes} (hc : 0 ∉ c) : cstring (c ++ d) = c ++ cstring d :=
  List.takeWhile_append_of_pos fun a ha => by simpa using fun h : a = 0 => hc (h ▸ ha)

/-- A string in an array, of which the characters below `n` are known. -/
theorem cstring_eq {l c : Bytes} (hc : 0 ∉ c) (htake : l.take c.length = c) :
    ∃ d, cstring l = c ++ d ∧ (d = [] ↔ l.getD c.length 0 = 0) := by
  have hsplit : l = c ++ l.drop c.length := by
    conv_lhs => rw [← List.take_append_drop c.length l, htake]
  refine ⟨cstring (l.drop c.length), ?_, ?_⟩
  · conv_lhs => rw [hsplit]
    exact cstring_append hc
  · have hget : l.getD c.length 0 = (l.drop c.length).getD 0 0 := by
      conv_lhs => rw [hsplit]
      rw [List.getD_append_right _ _ _ _ le_rfl, Nat.sub_self]
    rw [hget, cstring]
    cases l.drop c.length with
    | nil => simp
    | cons a rest => by_cases ha : a = 0 <;> simp [ha]

/-! ### The array after a stream -/

/-- What a stream has left whose cuts did no harm, `lineIdx` being the position in the line: the
lines have been handed over, the array begins with the open line, and behind it has the
residues of the lines before. -/
structure Assembles (s : Bytes) (lineIdx : ℕ) (w : World SMTPClient) : Prop where
  lines : lines w.app = linesOf s
  size : w.app.recvLine.length = recvLineSize
  idx : lineIdx = (current s).length
  line : w.app.recvLine.take lineIdx = current s
  first : current s = [] → w.app.recvLine.getD 0 0 = 0
  rest : ∀ k, 0 < k → lineIdx ≤ k → w.app.recvLine.getD k 0 = residue k (linesOf s)

/-- When the connection is there nothing has been assembled. -/
theorem assembles_onEstablished (w : World SMTPClient) : Assembles [] 0 (onEstablished w) where
  lines := rfl
  size := rfl
  idx := rfl
  line := rfl
  first _ := rfl
  rest k _ _ := by
    show (List.replicate recvLineSize (0 : UInt8)).getD k 0 = 0
    rw [List.getD_eq_getElem?_getD, List.getElem?_replicate]
    split <;> rfl

namespace Assembles

variable {s : Bytes} {c : UInt8} {lineIdx : ℕ} {w : World SMTPClient}

/-- The array does not care what else happens to the client. -/
theorem congr (h : Assembles s lineIdx w) {w' : World SMTPClient}
    (hrecv : w'.app.recvLine = w.app.recvLine) (hlines : SMTPClient.lines w'.app = SMTPClient.lines w.app) :
    Assembles s lineIdx w' := by
  obtain ⟨h1, h2, h3, h4, h5, h6⟩ := h
  rw [← hrecv] at h2 h4 h5
  exact ⟨hlines.trans h1, h2, h3, h4, h5, fun k => by rw [hrecv]; exact h6 k⟩

/-- The index stays in the buffer. -/
theorem idx_le (h : Assembles s lineIdx w) : lineIdx ≤ lineSize :=
  h.idx ▸ length_current_le s

/-- A character joins the open line, if there is room for it. -/
theorem char (h : Assembles s lineIdx w) (hc : ¬ isNewline c) :
    Assembles (s ++ [c]) (receiveChar (lineIdx, w) c).1 (receiveChar (lineIdx, w) c).2 := by
  have hcurrent := current_append_char (s := s) hc
  have hlines := linesOf_append_char (s := s) hc
  have hidx := h.idx
  unfold receiveChar
  dsimp only
  rw [if_neg hc]
  by_cases hroom : lineIdx < recvLineSize - 1
  · rw [if_pos hroom]
    have hsize : lineIdx < w.app.recvLine.length := by
      rw [h.size]
      exact lt_of_lt_of_le hroom (Nat.sub_le _ _)
    have hjoined : current (s ++ [c]) = current s ++ [c] := by
      rw [hcurrent, List.take_of_length_le]
      rw [List.length_append, ← hidx]
      exact hroom
    refine ⟨h.lines.trans hlines.symm, ?_, ?_, ?_, fun hnil => ?_, fun k _ hk => ?_⟩
    · exact List.length_set.trans h.size
    · rw [hjoined, List.length_append, ← hidx]
      rfl
    · rw [hjoined, ← h.line]
      exact take_set_succ hsize c
    · rw [hjoined] at hnil
      exact absurd hnil (by simp)
    · rw [hlines, ← h.rest k (by omega) (by omega)]
      exact getD_set_of_ne (by omega) c
  · rw [if_neg hroom]
    have hfull : lineIdx = lineSize := le_antisymm h.idx_le (Nat.not_lt.mp hroom)
    have hsame : current (s ++ [c]) = current s := by
      rw [hcurrent, List.take_append_of_le_length (by rw [← hidx, hfull]),
        List.take_of_length_le (by rw [← hidx, hfull])]
    refine ⟨h.lines.trans hlines.symm, h.size, ?_, ?_, fun hnil => h.first (hsame ▸ hnil), ?_⟩
    · rw [hsame]
      exact hidx
    · rw [hsame]
      exact h.line
    · rw [hlines]
      exact h.rest

/-- Behind the open line there is a zero, once the newline has been seen. -/
theorem getD_ended (h : Assembles s lineIdx w) :
    (if lineIdx < recvLineSize - 1 then setRecvLine lineIdx 0 w else w).app.recvLine.getD
      lineIdx 0 = 0 := by
  by_cases hroom : lineIdx < recvLineSize - 1
  · rw [if_pos hroom]
    refine getD_set_self ?_ 0
    rw [h.size]
    exact lt_of_lt_of_le hroom (Nat.sub_le _ _)
  · rw [if_neg hroom]
    have hfull : lineIdx = lineSize := le_antisymm h.idx_le (Nat.not_lt.mp hroom)
    rw [h.rest lineIdx (by rw [hfull]; decide) le_rfl, residue]
    cases hlast : lastReaching lineIdx (linesOf s) with
    | none => rfl
    | some line =>
        refine List.getD_eq_default _ _ ?_
        rw [hfull]
        exact length_le_of_mem_linesOf (List.mem_reverse.mp (List.mem_of_find?_eq_some hlast))

/-- A newline hands over the open line. -/
theorem newline (h : Assembles s lineIdx w) (hs : 0 ∉ s) (hc : isNewline c) :
    Assembles (s ++ [c]) (receiveChar (lineIdx, w) c).1 (receiveChar (lineIdx, w) c).2 := by
  have hended := h.getD_ended
  have hidx := h.idx
  unfold receiveChar endLine
  dsimp only
  rw [if_pos hc]
  -- the array with the zero behind the line
  generalize hw₁ : (if lineIdx < recvLineSize - 1 then setRecvLine lineIdx 0 w else w) = w₁
    at hended ⊢
  have hother : ∀ k, k ≠ lineIdx → w₁.app.recvLine.getD k 0 = w.app.recvLine.getD k 0 := by
    intro k hk
    rw [← hw₁]
    split
    · exact getD_set_of_ne hk 0
    · rfl
  have hsize : w₁.app.recvLine.length = recvLineSize := by
    rw [← hw₁]
    split
    · exact List.length_set.trans h.size
    · exact h.size
  have htake : w₁.app.recvLine.take (current s).length = current s := by
    rw [← hidx, ← hw₁]
    split
    · exact (List.take_set_of_le le_rfl).trans h.line
    · exact h.line
  have hlines : SMTPClient.lines w₁.app = linesOf s := by
    rw [← hw₁]
    split
    · exact h.lines
    · exact h.lines
  -- so that the string in the array is the line
  obtain ⟨d, hline, hnil⟩ := cstring_eq (ne_zero_of_mem_current hs) htake
  rw [hnil.mpr (hidx ▸ hended), List.append_nil] at hline
  rw [hline]
  generalize hw₂ : (if (current s).length > 0 then onLineReceived (current s) w₁ else w₁) = w₂
  have hrecv : w₂.app.recvLine = w₁.app.recvLine := by
    rw [← hw₂]
    split
    · exact (onLineReceived_lines _ _).1
    · rfl
  have hhanded : SMTPClient.lines w₂.app = linesOf (s ++ [c]) := by
    rw [← hw₂, linesOf_append_newline hc, ← hlines]
    by_cases hempty : current s = []
    · rw [if_neg (by rw [hempty]; exact Nat.lt_irrefl 0), if_pos hempty, List.append_nil]
    · rw [if_pos (List.length_pos_iff.mpr hempty), if_neg hempty]
      exact (onLineReceived_lines _ _).2
  have hnone := current_append_newline (s := s) hc
  have hzero : 0 < w₂.app.recvLine.length := by
    rw [hrecv, hsize]
    decide
  refine ⟨hhanded, ?_, ?_, ?_, fun _ => getD_set_self hzero 0, fun k hk _ => ?_⟩
  · exact List.length_set.trans (hrecv ▸ hsize)
  · rw [hnone]
    rfl
  · rw [hnone]
    exact List.take_zero
  · have hget : (setRecvLine 0 0 w₂).app.recvLine.getD k 0 = w₁.app.recvLine.getD k 0 := by
      rw [← hrecv]
      exact getD_set_of_ne (by omega) 0
    rw [hget, linesOf_append_newline hc]
    by_cases hempty : current s = []
    · have hstart : lineIdx = 0 := by rw [hidx, hempty]; rfl
      rw [if_pos hempty, List.append_nil, hother k (by omega)]
      exact h.rest k hk (by omega)
    · rw [if_neg hempty, residue_append]
      rcases lt_trichotomy k lineIdx with hlt | heq | hgt
      · rw [if_pos (by omega), hother k (by omega), ← h.line]
        rw [List.getD_eq_getElem?_getD, List.getD_eq_getElem?_getD, List.getElem?_take_of_lt hlt]
      · rw [heq, if_pos hidx.le, hended, List.getD_eq_default _ _ hidx.ge]
      · rw [if_neg (by omega), hother k (by omega)]
        exact h.rest k hk (by omega)

/-- A whole buffer. -/
theorem foldl (h : Assembles s lineIdx w) (hs : 0 ∉ s) {d : Bytes} (hd : 0 ∉ d) :
    Assembles (s ++ d) (d.foldl receiveChar (lineIdx, w)).1
      (d.foldl receiveChar (lineIdx, w)).2 := by
  induction d generalizing s lineIdx w with
  | nil => rwa [List.append_nil]
  | cons c d ih =>
      rw [List.mem_cons, not_or] at hd
      have hstep : Assembles (s ++ [c]) (receiveChar (lineIdx, w) c).1
          (receiveChar (lineIdx, w) c).2 := by
        by_cases hc : isNewline c
        · exact h.newline hs hc
        · exact h.char hc
      have hs' : 0 ∉ s ++ [c] := by simpa using ⟨hs, hd.1⟩
      have hrest := ih hstep hs' hd.2
      rwa [List.append_assoc] at hrest

/-- Where `strlen` finds the end of the open line: there, or behind bytes of an earlier line. -/
theorem cstring_recvLine (h : Assembles s lineIdx w) (hs : 0 ∉ s) :
    ∃ d, cstring w.app.recvLine = current s ++ d ∧ (d = [] ↔ Clean s) := by
  have htake : w.app.recvLine.take (current s).length = current s := h.idx ▸ h.line
  obtain ⟨d, hline, hnil⟩ := cstring_eq (ne_zero_of_mem_current hs) htake
  refine ⟨d, hline, hnil.trans ?_⟩
  by_cases hempty : current s = []
  · exact iff_of_true (by rw [hempty]; exact h.first hempty) (.inl hempty)
  · have hpos : 0 < (current s).length := List.length_pos_iff.mpr hempty
    rw [h.rest _ hpos h.idx.le, residue_eq_zero_iff fun line hmem => ne_zero_of_mem_linesOf hs hmem]
    exact ⟨.inr, fun hclean => hclean.resolve_left hempty⟩

end Assembles

/-! ### Buffers -/

/-- The buffers a client is given, from `onEstablished` in `w` on. Between two of them anything
may happen that leaves the line buffer alone. -/
inductive Receives (w : World SMTPClient) : List Bytes → World SMTPClient → Prop
  | established : Receives w [] (onEstablished w)
  | between {bufs : List Bytes} {w₁ w₂ : World SMTPClient} (h : Receives w bufs w₁)
      (hsame : SameLines w₁ w₂) : Receives w bufs w₂
  | data {bufs : List Bytes} {w₁ : World SMTPClient} (h : Receives w bufs w₁) (buf : Bytes) :
      Receives w (bufs ++ [buf]) (onDataReceived buf w₁).2

/-- Buffers can be received. -/
theorem exists_receives (w : World SMTPClient) (bufs : List Bytes) :
    ∃ w', Receives w bufs w' := by
  induction bufs using List.reverseRecOn with
  | nil => exact ⟨_, .established⟩
  | append_singleton bufs buf ih =>
      obtain ⟨w', h⟩ := ih
      exact ⟨_, h.data buf⟩

section Cuts

variable {s : Bytes} {lineIdx : ℕ} {w : World SMTPClient}

/-- A buffer behind a clean cut. -/
theorem Assembles.onDataReceived (h : Assembles s lineIdx w) (hs : 0 ∉ s) (hclean : Clean s)
    {buf : Bytes} (hbuf : 0 ∉ buf) :
    ∃ lineIdx', Assembles (s ++ buf) lineIdx' (onDataReceived buf w).2 := by
  obtain ⟨d, hline, hnil⟩ := h.cstring_recvLine hs
  have hidx : (cstring w.app.recvLine).length = lineIdx := by
    rw [hline, hnil.mpr hclean, List.append_nil, h.idx]
  unfold SMTPClient.onDataReceived
  rw [hidx]
  exact ⟨_, h.foldl hs hbuf⟩

/-- A newline behind a cut that is not clean: the line is handed over with bytes of an earlier
one. -/
theorem Assembles.lines_ne (h : Assembles s lineIdx w) (hs : 0 ∉ s) (hclean : ¬ Clean s) :
    SMTPClient.lines (SMTPClient.onDataReceived [10] w).2.app ≠ linesOf (s ++ [10]) := by
  obtain ⟨d, hline, hnil⟩ := h.cstring_recvLine hs
  have hopen : current s ≠ [] := fun hempty => hclean (.inl hempty)
  have hd : d ≠ [] := mt hnil.mp hclean
  rw [linesOf_append_newline (by decide), if_neg hopen, ← h.lines]
  unfold SMTPClient.onDataReceived
  rw [List.foldl_cons, List.foldl_nil, receiveChar]
  dsimp only
  rw [if_pos (by decide), endLine]
  dsimp only
  generalize hw₁ : (if (cstring w.app.recvLine).length < recvLineSize - 1 then
    setRecvLine (cstring w.app.recvLine).length 0 w else w) = w₁
  have hlines : SMTPClient.lines w₁.app = SMTPClient.lines w.app := by
    rw [← hw₁]
    split
    · rfl
    · rfl
  have hlong : (current s).length < (cstring w₁.app.recvLine).length := by
    have htake : w₁.app.recvLine.take (cstring w.app.recvLine).length =
        cstring w.app.recvLine := by
      have hself : w.app.recvLine.take (cstring w.app.recvLine).length =
          cstring w.app.recvLine :=
        List.prefix_iff_eq_take.mp (List.takeWhile_prefix _) |>.symm
      rw [← hw₁]
      split
      · exact (List.take_set_of_le le_rfl).trans hself
      · exact hself
    have hzero : 0 ∉ cstring w.app.recvLine := fun hmem => by
      simpa using List.mem_takeWhile_imp hmem
    obtain ⟨d', hline', -⟩ := cstring_eq hzero htake
    have hdpos := List.length_pos_iff.mpr hd
    rw [hline', hline, List.length_append, List.length_append]
    omega
  intro heq
  have hpos : (cstring w₁.app.recvLine).length > 0 := by omega
  rw [if_pos hpos] at heq
  have hhanded := (onLineReceived_lines (cstring w₁.app.recvLine) w₁).2
  rw [hlines] at hhanded
  have hlast : SMTPClient.lines w.app ++ [cstring w₁.app.recvLine] =
      SMTPClient.lines w.app ++ [current s] := hhanded.symm.trans heq
  have hsame : cstring w₁.app.recvLine = current s := by simpa using hlast
  rw [hsame] at hlong
  exact Nat.lt_irrefl _ hlong

/-- If every cut is clean, the buffers are assembled as if there were no cuts. -/
theorem assembles_of_clean {bufs : List Bytes} {w' : World SMTPClient} (h : Receives w bufs w')
    (hzero : 0 ∉ bufs.flatten)
    (hclean : ∀ bufs', bufs' <+: bufs → bufs' ≠ bufs → Clean bufs'.flatten) :
    ∃ lineIdx, Assembles bufs.flatten lineIdx w' := by
  induction h with
  | established => exact ⟨0, assembles_onEstablished w⟩
  | between _ hsame ih =>
      obtain ⟨lineIdx, h⟩ := ih hzero hclean
      exact ⟨lineIdx, h.congr hsame.recvLine hsame.lines⟩
  | @data bufs w₁ _ buf ih =>
      rw [List.flatten_concat, List.mem_append, not_or] at hzero
      have hne : ∀ bufs', bufs' <+: bufs → bufs' ≠ bufs ++ [buf] := by
        intro bufs' hpre heq
        have hle := hpre.length_le
        rw [heq, List.length_append] at hle
        exact absurd hle (by simp)
      have hcleanAt := fun bufs' hpre => hclean bufs'
        (List.IsPrefix.trans hpre (List.prefix_append bufs [buf])) (hne bufs' hpre)
      obtain ⟨lineIdx, h⟩ := ih hzero.1 fun bufs' hpre _ => hcleanAt bufs' hpre
      rw [List.flatten_concat]
      exact h.onDataReceived hzero.1 (hcleanAt bufs (List.prefix_refl bufs)) hzero.2

end Cuts

/-- The stream of a server, cut into buffers behind which it goes on in any way: wherever it has
been cut, and whatever happens in between, the client is handed the lines of the stream, if and
only if every cut is clean. -/
theorem lines_iff_clean (w : World SMTPClient) {bufs : List Bytes} (hzero : 0 ∉ bufs.flatten) :
    (∀ bufs' rest w', bufs' <+: bufs → 0 ∉ rest → Receives w (bufs' ++ [rest]) w' →
        lines w'.app = linesOf (bufs'.flatten ++ rest)) ↔
      ∀ bufs', bufs' <+: bufs → Clean bufs'.flatten := by
  have hzeroAt : ∀ bufs', bufs' <+: bufs → 0 ∉ bufs'.flatten := by
    rintro bufs' ⟨rest, rfl⟩ hmem
    rw [List.flatten_append] at hzero
    exact hzero (List.mem_append_left _ hmem)
  constructor
  · intro hlines bufs' hpre
    induction hn : bufs'.length using Nat.strong_induction_on generalizing bufs' with
    | _ n ih =>
        -- the cuts before this one are clean, so that the array is as it should be here
        have hbefore : ∀ bufs'', bufs'' <+: bufs' → bufs'' ≠ bufs' → Clean bufs''.flatten := by
          intro bufs'' hpre'' hne
          refine ih bufs''.length ?_ bufs'' (hpre''.trans hpre) rfl
          rw [← hn]
          exact lt_of_le_of_ne hpre''.length_le fun hlen => hne (hpre''.eq_of_length hlen)
        obtain ⟨w₁, hreceives⟩ := exists_receives w bufs'
        obtain ⟨lineIdx, h⟩ := assembles_of_clean hreceives (hzeroAt bufs' hpre) hbefore
        by_contra hclean
        exact h.lines_ne (hzeroAt bufs' hpre) hclean
          (hlines bufs' [10] _ hpre (by decide) (hreceives.data [10]))
  · intro hclean bufs' rest w' hpre hrest hreceives
    have hall : ∀ bufs'', bufs'' <+: bufs' ++ [rest] → bufs'' ≠ bufs' ++ [rest] →
        Clean bufs''.flatten := by
      intro bufs'' hpre'' hne
      have hshort := (List.prefix_concat_iff.mp hpre'').resolve_left hne
      exact hclean bufs'' (hshort.trans hpre)
    have hflat : 0 ∉ (bufs' ++ [rest]).flatten := by
      rw [List.flatten_concat, List.mem_append, not_or]
      exact ⟨hzeroAt bufs' hpre, hrest⟩
    obtain ⟨lineIdx, h⟩ := assembles_of_clean hreceives hflat hall
    rw [h.lines, List.flatten_concat]

/-- Behind a whole line the stream can be cut. -/
theorem lines_behind_line :
    ∃ w', Receives (exampleMail 100) [ascii "220 smtp\n", ascii "250 ok\n"] w' ∧
      lines w'.app = [ascii "220 smtp", ascii "250 ok"] := by
  have hclean : ∀ bufs', bufs' <+: [ascii "220 smtp\n"] → Clean bufs'.flatten := by
    intro bufs' hpre
    rcases List.prefix_concat_iff.mp (show bufs' <+: [] ++ [ascii "220 smtp\n"] from hpre) with
      rfl | hnil
    · exact .inl (by decide)
    · rw [List.prefix_nil.mp hnil]
      exact .inl rfl
  have hreceives := ((Receives.established (w := exampleMail 100)).data (ascii "220 smtp\n")).data
    (ascii "250 ok\n")
  refine ⟨_, hreceives, ?_⟩
  have hlines := (lines_iff_clean (exampleMail 100) (by decide)).mpr hclean _ (ascii "250 ok\n") _
    (List.prefix_refl _) (by decide) hreceives
  exact hlines.trans (by decide)

/-- A reply cut behind its first digit: the client is handed a line that begins like the
greeting. -/
theorem splitReply_misread :
    [ascii "220 smtp\n", ascii "2", ascii "50 ok\n"].flatten = [ascii "220 smtp\n250 ok\n"].flatten ∧
      (∃ w', Receives (exampleMail 100) [ascii "220 smtp\n", ascii "2", ascii "50 ok\n"] w' ∧
        lines w'.app = [ascii "220 smtp", ascii "220 smtp50 ok"]) ∧
      ∃ w', Receives (exampleMail 100) [ascii "220 smtp\n250 ok\n"] w' ∧
        lines w'.app = [ascii "220 smtp", ascii "250 ok"] := by
  refine ⟨by decide, ⟨_, ((Receives.established.data _).data _).data _, ?_⟩,
    ⟨_, Receives.established.data _, ?_⟩⟩
  · decide +kernel
  · decide +kernel

end SMTPClient

end AtmegaNet
