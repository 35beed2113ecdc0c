import Mathlib.Order.Defs.Unbundled
import Mathlib.Tactic.Common

/-!
# Procedures that may give up

A member function written as `if (!step1()) return false; if (!step2()) return false; …`
keeps every effect of the steps before the one that failed. `Proc σ α` is such a function
over a state `σ`: it always leaves a state, and yields `none` instead of a result when it
gave up on the way. Sequencing stops at the first `none` and keeps the state reached there.

## Main results

* `Within R x`: every run of `x`, finished or given up, relates the state before to the
  state after by `R`. Frame conditions are stated this way, for a preorder `R`; the rules
  `Within.bind`, `Within.attempt`, `Within.zoom`, `Within.ite` compose them.
* `Fails x`: no run of `x` finishes; one failing step makes the sequence fail.
* `run_bind_of_some` / `run_bind_of_none`: the two equations by which a sequence is executed
  symbolically, one step at a time.
-/

namespace Procedure

/-- A procedure over the state `σ`: its result, or `none` for an early `return false`,
together with the state it leaves in either case. -/
structure Proc (σ α : Type) where
  run : σ → Option α × σ

variable {σ α β : Type}

namespace Proc

/-- Run `x`, then `f` on its result; a procedure that gave up is not continued. -/
def andThen (x : Proc σ α) (f : α → Proc σ β) : Proc σ β where
  run s :=
    match x.run s with
    | (some a, s') => (f a).run s'
    | (none, s') => (none, s')

instance : Monad (Proc σ) where
  pure a := ⟨fun s => (some a, s)⟩
  bind := andThen

/-- Read a value off the state. -/
def read (f : σ → α) : Proc σ α := ⟨fun s => (some (f s), s)⟩

/-- Read a value off the state that may not be there. -/
def query (f : σ → Option α) : Proc σ α := ⟨fun s => (f s, s)⟩

/-- Update the state. -/
def modify (f : σ → σ) : Proc σ Unit := ⟨fun s => (some (), f s)⟩

/-- Give up: the early `return false`. -/
def fail : Proc σ α := ⟨fun s => (none, s)⟩

/-- Run `x` and ignore whether it gave up: a call whose result is not looked at. -/
def attempt (x : Proc σ α) : Proc σ Unit := ⟨fun s => (some (), (x.run s).2)⟩

/-- Run `x` on a component of the state, given by its projection and its update. -/
def zoom {τ : Type} (get : σ → τ) (set : τ → σ → σ) (x : Proc τ α) : Proc σ α :=
  ⟨fun s => ((x.run (get s)).1, set (x.run (get s)).2 s)⟩

/-- Whether the procedure returned true. -/
def succeeds (x : Proc σ α) (s : σ) : Bool := (x.run s).1.isSome

/-- The state a procedure leaves. -/
def exec (x : Proc σ α) (s : σ) : σ := (x.run s).2

/-! ### Executing a procedure -/

/-- A value is there at once. -/
@[simp] theorem run_pure (a : α) (s : σ) : (pure a : Proc σ α).run s = (some a, s) := rfl

/-- Reading leaves the state alone. -/
@[simp] theorem run_read (f : σ → α) (s : σ) : (read f).run s = (some (f s), s) := rfl

/-- Asking leaves the state alone, whether or not there is an answer. -/
@[simp] theorem run_query (f : σ → Option α) (s : σ) : (query f).run s = (f s, s) := rfl

/-- An update finishes. -/
@[simp] theorem run_modify (f : σ → σ) (s : σ) : (modify f).run s = (some (), f s) := rfl

/-- Giving up leaves the state alone. -/
@[simp] theorem run_fail (s : σ) : (fail : Proc σ α).run s = (none, s) := rfl

/-- A call whose result is not looked at finishes. -/
@[simp] theorem run_attempt (x : Proc σ α) (s : σ) :
    (attempt x).run s = (some (), (x.run s).2) := rfl

/-- A component is run on its own. -/
theorem run_zoom {τ : Type} (get : σ → τ) (set : τ → σ → σ) (x : Proc τ α) (s : σ) :
    (zoom get set x).run s = ((x.run (get s)).1, set (x.run (get s)).2 s) := rfl

/-- One step after the other. -/
theorem run_bind (x : Proc σ α) (f : α → Proc σ β) (s : σ) :
    (x >>= f).run s = match x.run s with
      | (some a, s') => (f a).run s'
      | (none, s') => (none, s') := rfl

/-- A step that finished is followed by the rest, on the state it left. -/
theorem run_bind_of_some {x : Proc σ α} {f : α → Proc σ β} {s t : σ} {a : α}
    (h : x.run s = (some a, t)) : (x >>= f).run s = (f a).run t := by
  rw [run_bind, h]

/-- A step that gave up ends the sequence. -/
theorem run_bind_of_none {x : Proc σ α} {f : α → Proc σ β} {s t : σ}
    (h : x.run s = (none, t)) : (x >>= f).run s = (none, t) := by
  rw [run_bind, h]

/-- A procedure succeeds if it finishes with a result. -/
theorem succeeds_iff {x : Proc σ α} {s : σ} : x.succeeds s ↔ ∃ a s', x.run s = (some a, s') := by
  rw [succeeds, Option.isSome_iff_exists]
  constructor
  · rintro ⟨a, h⟩
    exact ⟨a, _, Prod.ext h rfl⟩
  · rintro ⟨a, s', h⟩
    exact ⟨a, congrArg Prod.fst h⟩

/-- A sequence that finished has finished its step, and the rest after it. -/
theorem run_bind_eq_some {x : Proc σ α} {f : α → Proc σ β} {s t : σ} {b : β}
    (h : (x >>= f).run s = (some b, t)) :
    ∃ a s', x.run s = (some a, s') ∧ (f a).run s' = (some b, t) := by
  rcases hxs : x.run s with ⟨_ | a, s'⟩
  · rw [run_bind_of_none hxs] at h
    exact absurd (congrArg Prod.fst h) (by simp)
  · rw [run_bind_of_some hxs] at h
    exact ⟨a, s', rfl, h⟩

/-- A sequence finishes if its step does and the rest does after it. -/
theorem succeeds_bind {x : Proc σ α} {f : α → Proc σ β} {s : σ} :
    (x >>= f).succeeds s ↔ ∃ a s', x.run s = (some a, s') ∧ (f a).succeeds s' := by
  rcases hxs : x.run s with ⟨_ | a, s'⟩
  · rw [succeeds, run_bind_of_none hxs]
    simp
  · rw [succeeds, run_bind_of_some hxs]
    constructor
    · exact fun h => ⟨a, s', rfl, h⟩
    · rintro ⟨a', s'', heq, h⟩
      obtain ⟨rfl, rfl⟩ : a = a' ∧ s' = s'' := by simpa using heq
      exact h

/-- What is read is handed on. -/
@[simp] theorem run_read_bind (g : σ → α) (f : α → Proc σ β) (s : σ) :
    (read g >>= f).run s = (f (g s)).run s := rfl

/-- After an update the rest runs on the new state. -/
@[simp] theorem run_modify_bind (g : σ → σ) (f : Unit → Proc σ β) (s : σ) :
    (modify g >>= f).run s = (f ()).run (g s) := rfl

/-- A value is handed on. -/
@[simp] theorem run_pure_bind (a : α) (f : α → Proc σ β) (s : σ) :
    ((pure a : Proc σ α) >>= f).run s = (f a).run s := rfl

/-- After giving up nothing is run. -/
@[simp] theorem run_fail_bind (f : α → Proc σ β) (s : σ) :
    ((fail : Proc σ α) >>= f).run s = (none, s) := rfl

/-- After a call whose result is not looked at the rest runs. -/
@[simp] theorem run_attempt_bind (x : Proc σ α) (f : Unit → Proc σ β) (s : σ) :
    (attempt x >>= f).run s = (f ()).run (x.run s).2 := rfl

/-! ### Frame conditions -/

/-- Every run of `x`, finished or given up, stays inside the relation `R`. -/
def Within (R : σ → σ → Prop) (x : Proc σ α) : Prop := ∀ s, R s (x.run s).2

variable {R : σ → σ → Prop}

/-- An update stays inside a relation that it respects. -/
theorem within_modify {f : σ → σ} (h : ∀ s, R s (f s)) : Within R (modify f) := h

section Preorder

variable [IsPreorder σ R]

/-- A value stays inside. -/
theorem within_pure (a : α) : Within R (pure a : Proc σ α) := refl_of R

/-- Reading stays inside. -/
theorem within_read (f : σ → α) : Within R (read f) := refl_of R

/-- Asking stays inside. -/
theorem within_query (f : σ → Option α) : Within R (query f) := refl_of R

/-- Giving up stays inside. -/
theorem within_fail : Within R (fail : Proc σ α) := refl_of R

/-- Sequencing composes along a preorder, whichever step gives up. -/
theorem Within.bind {x : Proc σ α} {f : α → Proc σ β} (hx : Within R x)
    (hf : ∀ a, Within R (f a)) : Within R (x >>= f) := by
  intro s
  have h := hx s
  rcases hxs : x.run s with ⟨_ | a, s'⟩
  · rw [run_bind_of_none hxs]
    rwa [hxs] at h
  · rw [run_bind_of_some hxs]
    rw [hxs] at h
    exact trans_of R h (hf a s')

/-- Sequencing composes along a preorder in one state, whatever the step leaves there. -/
theorem related_bind {x : Proc σ α} {f : α → Proc σ β} {s : σ} (hx : R s (x.run s).2)
    (hf : ∀ a s', x.run s = (some a, s') → R s' ((f a).run s').2) :
    R s ((x >>= f).run s).2 := by
  rcases hxs : x.run s with ⟨_ | a, s'⟩
  · rw [run_bind_of_none hxs]
    rwa [hxs] at hx
  · rw [run_bind_of_some hxs]
    rw [hxs] at hx
    exact trans_of R hx (hf a s' hxs)

/-- What a procedure reads first may decide how it goes on. -/
theorem within_read_bind {f : σ → α} {k : α → Proc σ β} (hk : ∀ a, Within R (k a)) :
    Within R (read f >>= k) :=
  Within.bind (within_read f) hk

end Preorder

/-- Whether the result is looked at makes no difference. -/
theorem Within.attempt {x : Proc σ α} (hx : Within R x) : Within R (attempt x) := hx

/-- A component's frame condition is a frame condition of the whole. -/
theorem Within.zoom {τ : Type} {get : σ → τ} {set : τ → σ → σ} {Q : τ → τ → Prop}
    (h : ∀ s t, Q (get s) t → R s (set t s)) {x : Proc τ α} (hx : Within Q x) :
    Within R (zoom get set x) :=
  fun s => h s _ (hx (get s))

/-- Both branches stay inside. -/
theorem Within.ite {c : Prop} [Decidable c] {x y : Proc σ α} (hx : Within R x)
    (hy : Within R y) : Within R (if c then x else y) := by
  split
  · exact hx
  · exact hy

/-! ### Procedures that always give up -/

/-- Every run of `x` gives up. -/
def Fails (x : Proc σ α) : Prop := ∀ s, (x.run s).1 = none

/-- What fails at its first step fails. -/
theorem Fails.bind {x : Proc σ α} (hx : Fails x) (f : α → Proc σ β) : Fails (x >>= f) := by
  intro s
  rw [run_bind_of_none (Prod.ext (hx s) rfl : x.run s = (none, (x.run s).2))]

/-- A step that always gives up decides the frame condition of the sequence. -/
theorem Within.bind_of_fails {R : σ → σ → Prop} {x : Proc σ α} (hx : Within R x)
    (hfail : Fails x) (f : α → Proc σ β) : Within R (x >>= f) := by
  intro s
  rw [run_bind_of_none (Prod.ext (hfail s) rfl : x.run s = (none, (x.run s).2))]
  exact hx s

/-- What holds after a step that gave up, and after the rest when it did not, holds after the
sequence. -/
theorem Within.exec_bind {R : σ → σ → Prop} {Q : σ → Prop} {x : Proc σ α} (hx : Within R x)
    {f : α → Proc σ β} {s : σ} (hnone : ∀ s', R s s' → Q s')
    (hsome : ∀ a s', R s s' → Q ((f a).run s').2) : Q ((x >>= f).run s).2 := by
  have h := hx s
  rcases hxs : x.run s with ⟨_ | a, s'⟩
  · rw [run_bind_of_none hxs]
    exact hnone s' (by rwa [hxs] at h)
  · rw [run_bind_of_some hxs]
    exact hsome a s' (by rwa [hxs] at h)

/-- What fails at its last step fails. -/
theorem fails_bind (x : Proc σ α) {f : α → Proc σ β} (hf : ∀ a, Fails (f a)) :
    Fails (x >>= f) := by
  intro s
  rcases hxs : x.run s with ⟨_ | a, s'⟩
  · rw [run_bind_of_none hxs]
  · rw [run_bind_of_some hxs]
    exact hf a s'

end Proc

end Procedure
