import AtmegaNet.SocketCalls
import Mathlib.Data.UInt

/-!
# Texts in the send buffer

The two clients write what they send as strings, one behind the other, into the send data buffer,
and count the length as they go. Whether a string fits is not looked at.

## Main results

* `written_writeTexts`: the writes leave everything but the memory as it is.
* `writeTexts_run`: strings that are all there end up one behind the other, if they fit.
-/

open Procedure

namespace AtmegaNet

namespace Buffer

/-- The lengths of two texts add up, as 16-bit numbers. -/
theorem lengthOf_append (d e : Bytes) : lengthOf (d ++ e) = lengthOf d + lengthOf e := by
  rw [lengthOf, List.length_append, UInt16.ofNat_add]
  rfl

end Buffer

namespace Socket

variable {α : Type}

/-- The writes of some strings, one behind the other, from `offset` on; where they end. Their
results are not looked at, and `none` is a null pointer that `strlen` is called on. -/
def writeTexts (buf : Buffer) : UInt16 → List (Option Bytes) → Proc (World α) UInt16
  | offset, [] => pure offset
  | _, none :: _ => do
      Proc.modify fun w => w.observe .nullDereference
      Proc.fail
  | offset, some text :: texts => do
      Proc.attempt (World.onMem (buf.write offset text))
      writeTexts buf (offset + Buffer.lengthOf text) texts

/-- The length of texts one behind the other, as `uint16_t`. -/
def textsLength (texts : List (Option Bytes)) : UInt16 :=
  (texts.map fun text => Buffer.lengthOf (text.getD [])).sum

/-- Between two worlds the socket, its application and the size of the send buffer have not
changed. -/
structure Written (w w' : World α) : Prop where
  app : w'.app = w.app
  self : w'.self = w.self
  sendSize : w'.stack.sendSize = w.stack.sendSize

instance : IsPreorder (World α) Written where
  refl _ := ⟨rfl, rfl, rfl⟩
  trans _ _ _ h h' := ⟨h'.app.trans h.app, h'.self.trans h.self, h'.sendSize.trans h.sendSize⟩

/-- Writing leaves the socket and its application alone. -/
theorem written_writeTexts (buf : Buffer) (offset : UInt16) (texts : List (Option Bytes)) :
    Proc.Within (Written (α := α)) (writeTexts buf offset texts) := by
  induction texts generalizing offset with
  | nil => exact Proc.within_pure offset
  | cons text texts ih =>
      cases text with
      | none => exact Proc.Within.bind (fun w => ⟨rfl, rfl, rfl⟩) fun _ => Proc.within_fail
      | some text => exact Proc.Within.bind (fun w => ⟨rfl, rfl, rfl⟩) fun _ => ih _

section Writing

variable (buf : Buffer)

/-- The length that is counted. -/
theorem writeTexts_length {offset length : UInt16} {texts : List (Option Bytes)}
    {w w' : World α} (h : (writeTexts buf offset texts).run w = (some length, w')) :
    length = offset + textsLength texts := by
  induction texts generalizing offset w with
  | nil =>
      rw [writeTexts, Proc.run_pure] at h
      rw [← Option.some.inj (congrArg Prod.fst h)]
      exact (UInt16.add_zero offset).symm
  | cons text texts ih =>
      cases text with
      | none => exact absurd (congrArg Prod.fst h) (by rw [writeTexts]; simp)
      | some text =>
          rw [writeTexts, Proc.run_attempt_bind] at h
          rw [ih h, textsLength, textsLength, List.map_cons, List.sum_cons, UInt16.add_assoc]
          rfl

/-- Strings that are all there are written where they fit, and the rest of the host is left
alone. -/
theorem writeTexts_run (texts : List Bytes) (offset : UInt16) (w : World α) :
    ∃ m : Memory, (writeTexts buf offset (texts.map some)).run w =
      (some (offset + Buffer.lengthOf texts.flatten),
        { w with stack := { w.stack with mem := m } }) ∧
      (buf.Fits → offset.toNat + texts.flatten.length ≤ buf.size.toNat →
        m = Region.write w.stack.mem buf.root (buf.base + offset.toNat) texts.flatten) := by
  induction texts generalizing offset w with
  | nil =>
      refine ⟨w.stack.mem, ?_, fun _ _ => (Region.write_nil _ _ _).symm⟩
      rw [List.map_nil, writeTexts, Proc.run_pure]
      exact Prod.ext (congrArg some (UInt16.add_zero offset).symm) rfl
  | cons text texts ih =>
      obtain ⟨m, hrun, hm⟩ := ih (offset + Buffer.lengthOf text)
        { w with stack := { w.stack with mem := ((buf.write offset text).run w.stack.mem).2 } }
      refine ⟨m, ?_, fun hbuf hfit => ?_⟩
      · rw [List.map_cons, writeTexts, Proc.run_attempt_bind, World.onMem, World.onStack,
          Proc.run_zoom, Stack.onMem, Proc.run_zoom, List.flatten_cons, Buffer.lengthOf_append,
          ← UInt16.add_assoc]
        exact hrun
      · rw [List.flatten_cons, List.length_append] at hfit
        have h16 := buf.size.toNat_lt
        have htext : (Buffer.lengthOf text).toNat = text.length := Buffer.toNat_lengthOf (by omega)
        have hnext : (offset + Buffer.lengthOf text).toNat = offset.toNat + text.length := by
          rw [UInt16.toNat_add, htext]
          exact Nat.mod_eq_of_lt (by omega)
        have hm := hm hbuf (by omega)
        rw [Buffer.write_fits hbuf _ (by omega)] at hm
        rw [hm, hnext, List.flatten_cons, ← Nat.add_assoc, Region.write_append]

/-- Where a string is a null pointer, it is dereferenced, and nothing more is done. -/
theorem writeTexts_null (offset : UInt16) {texts : List (Option Bytes)} (h : none ∈ texts)
    (w : World α) :
    ∃ w', (writeTexts buf offset texts).run w = (none, w') ∧
      w'.stack.log = w.stack.log ++ [.nullDereference] := by
  induction texts generalizing offset w with
  | nil => exact absurd h List.not_mem_nil
  | cons text texts ih =>
      cases text with
      | none => exact ⟨_, rfl, rfl⟩
      | some text =>
          have htail : none ∈ texts := by simpa using h
          obtain ⟨w', hrun, hlog⟩ := ih _ htail ((World.onMem (buf.write offset text)).exec w)
          exact ⟨w', by rw [writeTexts, Proc.run_attempt_bind]; exact hrun, hlog⟩

/-- Strings that are all there. -/
theorem map_some_getD {texts : List (Option Bytes)} (h : none ∉ texts) :
    texts = (texts.map (·.getD [])).map some := by
  rw [List.map_map]
  refine ((List.map_congr_left fun text htext => ?_).trans (List.map_id _)).symm
  cases text with
  | none => exact absurd htext h
  | some text => rfl

/-- Strings that are all there are written, whatever becomes of them. -/
theorem writeTexts_complete (offset : UInt16) {texts : List (Option Bytes)} (h : none ∉ texts)
    (w : World α) : ∃ length w', (writeTexts buf offset texts).run w = (some length, w') ∧
      w'.stack.log = w.stack.log := by
  rw [map_some_getD h]
  obtain ⟨m, hrun, -⟩ := writeTexts_run buf (texts.map (·.getD [])) offset w
  exact ⟨_, _, hrun, rfl⟩

end Writing

end Socket

end AtmegaNet
