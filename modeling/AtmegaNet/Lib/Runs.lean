import Mathlib.Tactic.Common

/-!
# Runs of a state machine

A machine is a function `run : ε → σ → σ` that handles one event, with a relation `ok` that
says which events can arrive in which state. `Reaches ok run s t` is a run from `s` to `t` of
any length and in any order of events. A narrower `ok` singles out the runs all of whose steps
meet a condition.

## Main results

* `Reaches.invariant`: what holds at the start and is preserved by every step holds in every
  state reached.
* `Reaches.mono`: a run whose steps meet a stronger condition is a run.
* `Reaches.simulates`: a machine whose steps are matched by runs of another reaches nothing but
  what is related to a state that the other reaches.
-/

namespace Runs

variable {σ ε : Type}

/-- The states reached from `s` by events that are `ok` when they arrive. -/
inductive Reaches (ok : σ → ε → Prop) (run : ε → σ → σ) (s : σ) : σ → Prop
  | refl : Reaches ok run s s
  | step {t : σ} {e : ε} (h : Reaches ok run s t) (he : ok t e) : Reaches ok run s (run e t)

namespace Reaches

variable {ok ok' : σ → ε → Prop} {run : ε → σ → σ} {s t u : σ}

/-- The induction over runs. -/
theorem invariant {P : σ → Prop} (h : Reaches ok run s t) (hs : P s)
    (hstep : ∀ t e, P t → ok t e → P (run e t)) : P t := by
  induction h with
  | refl => exact hs
  | step _ he ih => exact hstep _ _ ih he

theorem mono (h : Reaches ok run s t) (hok : ∀ t e, ok t e → ok' t e) :
    Reaches ok' run s t := by
  induction h with
  | refl => exact .refl
  | step _ he ih => exact ih.step (hok _ _ he)

theorem trans (h : Reaches ok run s t) (h' : Reaches ok run t u) : Reaches ok run s u := by
  induction h' with
  | refl => exact h
  | step _ he ih => exact ih.step he

/-- Events that can arrive in any state, one after the other. -/
theorem foldl {es : List ε} (h : ∀ e ∈ es, ∀ t, ok t e) :
    Reaches ok run s (es.foldl (fun t e => run e t) s) := by
  induction es generalizing s with
  | nil => exact .refl
  | cons e es ih =>
      obtain ⟨he, hes⟩ := List.forall_mem_cons.mp h
      exact (Reaches.refl.step (he s)).trans (ih hes)

/-- A simulation. -/
theorem simulates {σ' ε' : Type} {ok₂ : σ' → ε' → Prop} {run₂ : ε' → σ' → σ'} {s' : σ'}
    {R : σ → σ' → Prop} (h : Reaches ok run s t) (hs : R s s')
    (hstep : ∀ t e t', R t t' → ok t e → ∃ u', Reaches ok₂ run₂ t' u' ∧ R (run e t) u') :
    ∃ t', Reaches ok₂ run₂ s' t' ∧ R t t' := by
  refine h.invariant (P := fun t => ∃ t', Reaches ok₂ run₂ s' t' ∧ R t t') ⟨s', .refl, hs⟩ ?_
  rintro t e ⟨t', ht', hR⟩ he
  obtain ⟨u', hu', hR'⟩ := hstep t e t' hR he
  exact ⟨u', ht'.trans hu', hR'⟩

end Reaches

end Runs
