import AtmegaNet.EtherControl
import Mathlib.Data.List.Nodup
import Mathlib.Data.List.Count

/-!
# One pass over the timers

`processTimers` goes through the timer registry and calls the handlers of the timers whose delay
has elapsed. The handlers may register and unregister timers meanwhile. It stops early, once as
many handlers have been called as timers are registered; but a handler that gives its timer up
lowers the number of the registered timers, and the timers behind it are then left out.

## Main results

* `TimerTable.firesDue_iff`: a pass calls every timer that was due when it began, exactly if the
  number of calls stays below the number of registered timers as long as one of them is ahead,
  and no elapsed time wraps around.
* `TimerTable.mem_called`: which handlers a pass calls.
* `TimerTable.registerTimer_ofHost`, `TimerTable.unregisterTimer_ofHost`: the registry of a host
  is a table of this kind.
-/

namespace AtmegaNet

/-- `timer`, with any type of handlers. The timers that were registered when the pass began are
marked `original`, which is no field of the source. -/
structure TimerEntry (η : Type) where
  delayTime : UInt32
  startTime : UInt32
  handler : Option η
  original : Bool
  deriving DecidableEq, Repr

/-- The timer registry, the number of its timers, and the clock. The numbers of the entries whose
handlers the pass has called are in `called`, which is no field of the source. -/
@[ext] structure TimerTable (η : Type) where
  timerRegistry : List (TimerEntry η)
  timers : ℕ
  millis : UInt32
  called : List ℕ
  counted : timers = timerRegistry.countP fun t => t.handler.isSome

namespace TimerTable

variable {η : Type}

/-! ### Registering and unregistering -/

/-- Put a handler into an entry that is free. -/
theorem countP_register {l : List (TimerEntry η)} {i : ℕ} {t : TimerEntry η}
    (hi : (l.findIdx? fun t => t.handler.isNone) = some i) (ht : t.handler.isSome) :
    (l.set i t).countP (fun t => t.handler.isSome) =
      l.countP (fun t => t.handler.isSome) + 1 := by
  obtain ⟨hlt, hfree, -⟩ := List.findIdx?_eq_some_iff_getElem.mp hi
  rw [Option.isNone_iff_eq_none] at hfree
  rw [List.countP_set hlt, ht, hfree]
  simp

/-- Free an entry. -/
theorem countP_unregister {l : List (TimerEntry η)} {i : ℕ} {t u : TimerEntry η}
    (hi : l[i]? = some u) (hu : u.handler.isSome) (ht : t.handler = none) :
    (l.set i t).countP (fun t => t.handler.isSome) =
      l.countP (fun t => t.handler.isSome) - 1 := by
  obtain ⟨hlt, rfl⟩ := List.getElem?_eq_some_iff.mp hi
  rw [List.countP_set hlt, hu, ht]
  simp

/-- Change an entry, but not whether it is free. -/
theorem countP_restart {l : List (TimerEntry η)} {i : ℕ} {t u : TimerEntry η}
    (hi : l[i]? = some u) (ht : t.handler = u.handler) :
    (l.set i t).countP (fun t => t.handler.isSome) =
      l.countP (fun t => t.handler.isSome) := by
  obtain ⟨hlt, rfl⟩ := List.getElem?_eq_some_iff.mp hi
  rw [List.countP_set hlt, ht]
  cases hsome : l[i].handler.isSome with
  | false => simp
  | true =>
      have hpos : 0 < l.countP fun t => t.handler.isSome :=
        List.countP_pos_iff.mpr ⟨l[i], List.getElem_mem hlt, hsome⟩
      simp only [if_true]
      omega

/-- `EtherControl::registerTimer`, for any handlers: the first free entry, numbered from 1. -/
def registerTimer (handler : η) (millisDelay : UInt16) (s : TimerTable η) :
    UInt8 × TimerTable η :=
  match hi : s.timerRegistry.findIdx? fun t => t.handler.isNone with
  | none => (0, s)
  | some i =>
      (UInt8.ofNat (i + 1), { s with
        timerRegistry :=
          s.timerRegistry.set i ⟨millisDelay.toUInt32, s.millis, some handler, false⟩
        timers := s.timers + 1
        counted := by rw [countP_register hi rfl, s.counted] })

/-- `EtherControl::unregisterTimer`, for any handlers. A number without an entry, for which the
source accesses the registry outside its bounds, does nothing here. -/
def unregisterTimer (index : UInt8) (s : TimerTable η) : TimerTable η :=
  if index = 0 then s
  else match hi : s.timerRegistry[index.toNat - 1]? with
    | some ⟨_, _, some _, _⟩ =>
        { s with
          timerRegistry := s.timerRegistry.set (index.toNat - 1) ⟨0, 0, none, false⟩
          timers := s.timers - 1
          counted := by rw [countP_unregister hi rfl rfl, s.counted] }
    | _ => s

/-- `timerRegistry[i].startTime = host_millis()` -/
def restart (i : ℕ) (s : TimerTable η) : TimerTable η :=
  match hi : s.timerRegistry[i]? with
  | none => s
  | some t =>
      { s with
        timerRegistry := s.timerRegistry.set i { t with startTime := s.millis }
        counted := by
          rw [countP_restart (t := { t with startTime := s.millis }) hi rfl, s.counted] }

/-- Note that the handler of an entry is called. -/
def record (i : ℕ) (s : TimerTable η) : TimerTable η := { s with called := s.called ++ [i] }

/-! ### The pass -/

/-- What a handler does to the registry, and the time it takes. -/
inductive Action (η : Type)
  | registerTimer (handler : η) (millisDelay : UInt16)
  | unregisterTimer (index : UInt8)
  | elapse (time : UInt32)

/-- Time passes. -/
def elapse (time : UInt32) (s : TimerTable η) : TimerTable η :=
  { s with millis := s.millis + time }

/-- One action of a handler. -/
def perform (s : TimerTable η) : Action η → TimerTable η
  | .registerTimer handler millisDelay => (s.registerTimer handler millisDelay).2
  | .unregisterTimer index => s.unregisterTimer index
  | .elapse time => s.elapse time

/-- How the handlers behave: what they do when they are called, which may depend on anything that
has happened in the pass; and the time that passes before the clock is read for an entry, and
before it is read once more to start the timer again. -/
structure Behaviour (η : Type) where
  handleTimer : η → UInt8 → TimerTable η → List (Action η)
  beforeCheck : ℕ → UInt32
  beforeRestart : ℕ → UInt32

/-- The delay of a timer has elapsed. -/
def Due (millis : UInt32) (t : TimerEntry η) : Prop :=
  t.handler.isSome ∧ millis - t.startTime > t.delayTime

instance (millis : UInt32) (t : TimerEntry η) : Decidable (Due millis t) :=
  inferInstanceAs (Decidable (_ ∧ _))

variable (b : Behaviour η)

/-- The body of the loop of `processTimers`. -/
def processTimer (i : ℕ) (s : TimerTable η) : TimerTable η :=
  let s := s.elapse (b.beforeCheck i)
  match s.timerRegistry[i]? with
  | some ⟨delayTime, startTime, some handler, _⟩ =>
      if s.millis - startTime > delayTime then
        let s := ((s.elapse (b.beforeRestart i)).restart i).record i
        (b.handleTimer handler (UInt8.ofNat (i + 1)) s).foldl perform s
      else s
  | _ => s

/-- The table when a pass begins. -/
def start (s : TimerTable η) : TimerTable η where
  timerRegistry := s.timerRegistry.map fun t => { t with original := true }
  timers := s.timers
  millis := s.millis
  called := []
  counted := by rw [List.countP_map, s.counted]; rfl

/-- The loop of `processTimers` over the entries below `i`; `processed` is the number of calls.
Once the loop has stopped, nothing changes any more. -/
def processBelow (s : TimerTable η) : ℕ → TimerTable η
  | 0 => s.start
  | i + 1 =>
      let s := processBelow s i
      if s.called.length < s.timers then processTimer b i s else s

/-- `EtherControl::processTimers` -/
def processTimers (s : TimerTable η) : TimerTable η := processBelow b s s.timerRegistry.length

/-! ### The timers of a host -/

/-- The entry of a host as an entry of a table. -/
def entry (t : Timer) : TimerEntry TimerHandler := ⟨t.delayTime, t.startTime, t.handler, false⟩

/-- The counter of a host agrees with its registry. -/
def Counted (h : Stack) : Prop :=
  h.etherControl.timers =
    (h.etherControl.timerRegistry.map entry).countP fun t => t.handler.isSome

/-- The timer registry of a host. -/
def ofHost (h : Stack) (hcounted : Counted h) : TimerTable TimerHandler where
  timerRegistry := h.etherControl.timerRegistry.map entry
  timers := h.etherControl.timers
  millis := h.millis
  called := []
  counted := hcounted

/-- What the host returns and leaves when a timer is registered. -/
theorem registerTimer_ofHost {h : Stack} (hcounted : Counted h) (handler : TimerHandler)
    (millisDelay : UInt16) :
    ∃ hcounted', registerTimer handler millisDelay (ofHost h hcounted) =
      ((EtherControl.registerTimer handler millisDelay h).1,
        ofHost (EtherControl.registerTimer handler millisDelay h).2 hcounted') := by
  have hfind : ((ofHost h hcounted).timerRegistry.findIdx? fun t => t.handler.isNone) =
      h.etherControl.timerRegistry.findIdx? fun t => t.handler.isNone := List.findIdx?_map ..
  unfold EtherControl.registerTimer registerTimer
  split
  case h_1 hnone =>
      rw [hfind] at hnone
      rw [hnone]
      exact ⟨hcounted, rfl⟩
  case h_2 i hi =>
      rw [hfind] at hi
      rw [hi]
      have hset : (h.etherControl.timerRegistry.set i
          ⟨millisDelay.toUInt32, h.millis, some handler⟩).map entry =
            (ofHost h hcounted).timerRegistry.set i
              ⟨millisDelay.toUInt32, h.millis, some handler, false⟩ := List.map_set
      refine ⟨?_, ?_⟩
      · rw [Counted, hset, countP_register (hfind.trans hi) rfl]
        exact congrArg (· + 1) hcounted
      · exact Prod.ext rfl (TimerTable.ext hset.symm rfl rfl rfl)

/-- What the host leaves when a timer is unregistered that its registry has. -/
theorem unregisterTimer_ofHost {h : Stack} (hcounted : Counted h) {index : UInt8}
    (hpos : index ≠ 0) (hin : index.toNat ≤ h.etherControl.timerRegistry.length) :
    ∃ hcounted', unregisterTimer index (ofHost h hcounted) =
      ofHost (EtherControl.unregisterTimer index h) hcounted' := by
  have hget : (ofHost h hcounted).timerRegistry[index.toNat - 1]? =
      h.etherControl.timerRegistry[index.toNat - 1]?.map entry := List.getElem?_map ..
  have hin : ¬ (index = 0 ∨ h.etherControl.timerRegistry.length < index.toNat) := by
    rintro (hzero | hlt)
    · exact hpos hzero
    · omega
  have hset : (h.etherControl.timerRegistry.set (index.toNat - 1) ⟨0, 0, none⟩).map entry =
      (ofHost h hcounted).timerRegistry.set (index.toNat - 1) ⟨0, 0, none, false⟩ :=
    List.map_set
  unfold EtherControl.unregisterTimer unregisterTimer
  rw [if_neg hpos, if_neg hin]
  rcases htimer : h.etherControl.timerRegistry[index.toNat - 1]? with
    _ | ⟨delayTime, startTime, _ | handler⟩
  · rw [htimer] at hget
    refine ⟨hcounted, ?_⟩
    split
    case h_1 hsome => exact absurd (hget.symm.trans hsome) (by simp)
    case h_2 => rfl
  · rw [htimer] at hget
    refine ⟨hcounted, ?_⟩
    split
    case h_1 hsome => exact absurd (hget.symm.trans hsome) (by simp [entry])
    case h_2 => rfl
  · rw [htimer] at hget
    refine ⟨?_, ?_⟩
    · rw [Counted, hset, countP_unregister hget rfl rfl]
      exact congrArg (· - 1) hcounted
    · split
      case h_1 => exact TimerTable.ext hset.symm rfl rfl rfl
      case h_2 hno => exact absurd hget (hno _ _ _ _)

/-! ### What a handler and the loop leave -/

variable {b} {s u : TimerTable η} {i j k : ℕ} {t : TimerEntry η}

/-- A timer that an action leaves, other than one it registers, was there before. -/
theorem getElem?_perform {a : Action η} (h : (s.perform a).timerRegistry[j]? = some t)
    (horiginal : t.original) (hsome : t.handler.isSome) : s.timerRegistry[j]? = some t := by
  have hset : ∀ {i t'}, (s.timerRegistry.set i t')[j]? = some t → t' ≠ t →
      s.timerRegistry[j]? = some t := by
    intro i t' hset hne
    by_cases hij : i = j
    · subst hij
      obtain ⟨hlt, heq⟩ := List.getElem?_eq_some_iff.mp hset
      rw [List.getElem_set_self] at heq
      exact absurd heq hne
    · rwa [List.getElem?_set_ne hij] at hset
  cases a with
  | registerTimer handler millisDelay =>
      rw [perform, registerTimer] at h
      split at h
      · exact h
      · refine hset h ?_
        rintro rfl
        exact absurd horiginal (by simp)
  | unregisterTimer index =>
      rw [perform, unregisterTimer] at h
      split_ifs at h
      · exact h
      · split at h
        · refine hset h ?_
          rintro rfl
          exact absurd hsome (by simp)
        · exact h
  | elapse time => exact h

theorem called_perform (a : Action η) : (s.perform a).called = s.called := by
  cases a with
  | registerTimer handler millisDelay =>
      rw [perform, registerTimer]
      split <;> rfl
  | unregisterTimer index =>
      rw [perform, unregisterTimer]
      split_ifs
      · rfl
      · split <;> rfl
  | elapse time => rfl

theorem getElem?_foldl {actions : List (Action η)}
    (h : (actions.foldl perform s).timerRegistry[j]? = some t)
    (horiginal : t.original) (hsome : t.handler.isSome) : s.timerRegistry[j]? = some t := by
  induction actions generalizing s with
  | nil => exact h
  | cons a actions ih => exact getElem?_perform (ih h) horiginal hsome

theorem called_foldl (actions : List (Action η)) :
    (actions.foldl perform s).called = s.called := by
  induction actions generalizing s with
  | nil => rfl
  | cons a actions ih => exact (ih ..).trans (called_perform a)

theorem getElem?_restart (hij : i ≠ j) :
    (s.restart i).timerRegistry[j]? = s.timerRegistry[j]? := by
  rw [restart]
  split
  · rfl
  · exact List.getElem?_set_ne hij

theorem called_restart : (s.restart i).called = s.called := by
  rw [restart]
  split <;> rfl

/-- The body of the loop calls the handler of an entry whose delay has elapsed by then. -/
def Rings (b : Behaviour η) (i : ℕ) (s : TimerTable η) : Prop :=
  ∃ t, s.timerRegistry[i]? = some t ∧ Due (s.millis + b.beforeCheck i) t

/-- What the body of the loop does: it calls one handler, or none. -/
theorem processTimer_cases (b : Behaviour η) (i : ℕ) (s : TimerTable η) :
    (Rings b i s ∧ ∃ actions : List (Action η), processTimer b i s =
      actions.foldl perform
        ((((s.elapse (b.beforeCheck i)).elapse (b.beforeRestart i)).restart i).record i)) ∨
    (¬ Rings b i s ∧ processTimer b i s = s.elapse (b.beforeCheck i)) := by
  have hentry : (s.elapse (b.beforeCheck i)).timerRegistry[i]? = s.timerRegistry[i]? := rfl
  have hmillis : (s.elapse (b.beforeCheck i)).millis = s.millis + b.beforeCheck i := rfl
  rw [processTimer]
  dsimp only
  rw [hentry, hmillis]
  rcases hget : s.timerRegistry[i]? with _ | ⟨delayTime, startTime, _ | handler, original⟩
  · refine .inr ⟨?_, rfl⟩
    rintro ⟨t, ht, -⟩
    exact absurd (hget.symm.trans ht) (by simp)
  · refine .inr ⟨?_, rfl⟩
    rintro ⟨t, ht, hsome, -⟩
    obtain rfl := Option.some.inj (hget.symm.trans ht)
    exact absurd hsome (by simp)
  · by_cases hdue : s.millis + b.beforeCheck i - startTime > delayTime
    · exact .inl ⟨⟨_, hget, rfl, hdue⟩, _, if_pos hdue⟩
    · refine .inr ⟨?_, if_neg hdue⟩
      rintro ⟨t, ht, -, ht'⟩
      obtain rfl := Option.some.inj (hget.symm.trans ht)
      exact hdue ht'

/-- A timer of another entry that the body leaves, other than one registered in it, was there
before. -/
theorem getElem?_processTimer (hij : i ≠ j)
    (h : (processTimer b i s).timerRegistry[j]? = some t)
    (horiginal : t.original) (hsome : t.handler.isSome) : s.timerRegistry[j]? = some t := by
  rcases processTimer_cases b i s with ⟨-, actions, heq⟩ | ⟨-, heq⟩
  · rw [heq] at h
    have hrecord : ∀ u : TimerTable η, (u.record i).timerRegistry = u.timerRegistry :=
      fun _ => rfl
    have hbefore := getElem?_foldl h horiginal hsome
    rw [hrecord, getElem?_restart hij] at hbefore
    exact hbefore
  · rw [heq] at h
    exact h

theorem called_processTimer_of_rings (h : Rings b i s) :
    (processTimer b i s).called = s.called ++ [i] := by
  rcases processTimer_cases b i s with ⟨-, actions, heq⟩ | ⟨hno, -⟩
  · rw [heq, called_foldl, record, called_restart]
    rfl
  · exact absurd h hno

theorem called_processTimer_of_not (h : ¬ Rings b i s) :
    (processTimer b i s).called = s.called := by
  rcases processTimer_cases b i s with ⟨hrings, -⟩ | ⟨-, heq⟩
  · exact absurd hrings h
  · rw [heq]
    rfl

/-- The loop reaches entry `i` and calls its handler. -/
def Calls (b : Behaviour η) (s : TimerTable η) (i : ℕ) : Prop :=
  (processBelow b s i).called.length < (processBelow b s i).timers ∧
    Rings b i (processBelow b s i)

/-- The handlers a pass calls. -/
theorem mem_called : k ∈ (processBelow b s i).called ↔ k < i ∧ Calls b s k := by
  induction i with
  | zero => exact iff_of_false List.not_mem_nil fun h => absurd h.1 (Nat.not_lt_zero k)
  | succ i ih =>
      have hlt : k < i + 1 ↔ k < i ∨ k = i := Nat.lt_succ_iff_lt_or_eq
      have hdone : ∀ hcalls : (processBelow b s (i + 1)).called = (processBelow b s i).called,
          ¬ Calls b s i → (k ∈ (processBelow b s (i + 1)).called ↔ k < i + 1 ∧ Calls b s k) := by
        intro hcalls hno
        rw [hcalls, ih, hlt]
        refine ⟨fun h => ⟨.inl h.1, h.2⟩, ?_⟩
        rintro ⟨hk | rfl, hc⟩
        · exact ⟨hk, hc⟩
        · exact absurd hc hno
      by_cases hlive : (processBelow b s i).called.length < (processBelow b s i).timers
      · by_cases hrings : Rings b i (processBelow b s i)
        · rw [processBelow, if_pos hlive, called_processTimer_of_rings hrings, List.mem_append,
            List.mem_singleton, ih, hlt]
          refine ⟨?_, ?_⟩
          · rintro (⟨hk, hc⟩ | rfl)
            · exact ⟨.inl hk, hc⟩
            · exact ⟨.inr rfl, hlive, hrings⟩
          · rintro ⟨hk | rfl, hc⟩
            · exact .inl ⟨hk, hc⟩
            · exact .inr rfl
        · refine hdone ?_ fun hc => hrings hc.2
          rw [processBelow, if_pos hlive, called_processTimer_of_not hrings]
      · refine hdone ?_ fun hc => hlive hc.1
        rw [processBelow, if_neg hlive]

/-- A pass calls no handler twice. -/
theorem nodup_called : (processBelow b s i).called.Nodup := by
  induction i with
  | zero => exact List.nodup_nil
  | succ i ih =>
      rw [processBelow]
      by_cases hlive : (processBelow b s i).called.length < (processBelow b s i).timers
      · rw [if_pos hlive]
        by_cases hrings : Rings b i (processBelow b s i)
        · rw [called_processTimer_of_rings hrings]
          refine List.nodup_append.mpr ⟨ih, by simp, ?_⟩
          rintro k hk _ hi rfl
          obtain rfl := List.mem_singleton.mp hi
          exact absurd (mem_called.mp hk).1 (Nat.lt_irrefl _)
        · rw [called_processTimer_of_not hrings]
          exact ih
      · rw [if_neg hlive]
        exact ih

/-! ### Firing every timer that is due -/

/-- A timer that was registered and due when the pass over `s` began, and still is registered in
`u`. -/
def Overdue (s : TimerTable η) (j : ℕ) (u : TimerTable η) : Prop :=
  ∃ t, s.start.timerRegistry[j]? = some t ∧ Due s.millis t ∧ u.timerRegistry[j]? = some t

/-- What a pass is for: it calls every handler whose timer was due when it began and is still
registered when its entry is reached, once, and none whose delay has not elapsed. -/
structure FiresDue (b : Behaviour η) (s : TimerTable η) : Prop where
  fires : ∀ i, Overdue s i (processBelow b s i) → (processTimers b s).called.count i = 1
  elapsed : ∀ i ∈ (processTimers b s).called, ∃ t,
    (processBelow b s i).timerRegistry[i]? = some t ∧
      Due ((processBelow b s i).millis + b.beforeCheck i) t

/-- A pass that never stops early. -/
def visitBelow (b : Behaviour η) (s : TimerTable η) : ℕ → TimerTable η
  | 0 => s.start
  | i + 1 => processTimer b i (visitBelow b s i)

/-- In the pass that never stops early, fewer handlers have been called than timers are
registered, as long as a timer that was due is ahead; and a timer that was due is still due when
its entry is reached. -/
structure Unhindered (b : Behaviour η) (s : TimerTable η) : Prop where
  counter : ∀ i, (∃ j ≥ i, Overdue s j (visitBelow b s i)) →
    (visitBelow b s i).called.length < (visitBelow b s i).timers
  clock : ∀ i, Overdue s i (visitBelow b s i) → Rings b i (visitBelow b s i)

/-- A timer that is ahead has been there since the pass began. -/
theorem Overdue.before (h : Overdue s j (processTimer b i u)) (hij : i ≠ j) :
    Overdue s j u := by
  obtain ⟨t, hstart, hdue, ht⟩ := h
  have horiginal : t.original := by
    obtain ⟨t', -, rfl⟩ := List.mem_map.mp (List.mem_of_getElem? hstart)
    rfl
  exact ⟨t, hstart, hdue, getElem?_processTimer hij ht horiginal hdue.1⟩

/-- The entries of a timer that is overdue are entries of the table. -/
theorem Overdue.lt_length (h : Overdue s j u) : j < s.timerRegistry.length := by
  obtain ⟨t, hstart, -, -⟩ := h
  obtain ⟨hlt, -⟩ := List.getElem?_eq_some_iff.mp hstart
  rwa [start, List.length_map] at hlt

/-- The pass does what one does that never stops early, up to where one of its timers is still
ahead. -/
theorem processBelow_eq (hcounter : ∀ k < i, (∃ j ≥ k, Overdue s j (visitBelow b s k)) →
      (visitBelow b s k).called.length < (visitBelow b s k).timers)
    (hahead : ∃ j ≥ i, Overdue s j (visitBelow b s i)) :
    processBelow b s i = visitBelow b s i := by
  induction i with
  | zero => rfl
  | succ i ih =>
      obtain ⟨j, hj, hover⟩ := hahead
      have hbefore : ∃ j ≥ i, Overdue s j (visitBelow b s i) :=
        ⟨j, by omega, hover.before (by omega)⟩
      have heq := ih (fun k hk => hcounter k (by omega)) hbefore
      rw [processBelow, heq, if_pos (hcounter i (Nat.lt_succ_self i) hbefore)]
      rfl

/-- Without hindrance, the pass does what one does that never stops early, or no timer is
ahead. -/
theorem Unhindered.processBelow_eq (h : Unhindered b s) (i : ℕ) :
    processBelow b s i = visitBelow b s i ∨ ¬ ∃ j ≥ i, Overdue s j (processBelow b s i) := by
  induction i with
  | zero => exact .inl rfl
  | succ i ih =>
      by_cases hahead : ∃ j ≥ i, Overdue s j (processBelow b s i)
      · rcases ih with heq | hno
        · rw [heq] at hahead
          refine .inl ?_
          rw [processBelow, heq, if_pos (h.counter i hahead)]
          rfl
        · exact absurd hahead hno
      · refine .inr ?_
        rintro ⟨j, hj, hover⟩
        refine hahead ⟨j, by omega, ?_⟩
        rw [processBelow] at hover
        split_ifs at hover
        · exact hover.before (by omega)
        · exact hover

/-- Once the loop has stopped, nothing changes any more. -/
theorem processBelow_stopped
    (h : ¬ (processBelow b s i).called.length < (processBelow b s i).timers) (hij : i ≤ j) :
    processBelow b s j = processBelow b s i := by
  induction j, hij using Nat.le_induction with
  | base => rfl
  | succ j _ ih => rw [processBelow, ih, if_neg h]

/-- A handler that is called is called once. -/
theorem count_called (hi : i < s.timerRegistry.length) :
    (processTimers b s).called.count i = 1 ↔ Calls b s i := by
  have hmem : i ∈ (processTimers b s).called ↔ Calls b s i :=
    mem_called.trans (and_iff_right hi)
  rw [← hmem]
  refine ⟨fun h => List.count_pos_iff.mp (by omega), fun h => ?_⟩
  exact List.count_eq_one_of_mem nodup_called h

/-- A pass calls every timer that was due when it began, and only timers whose delay has elapsed,
exactly if nothing hinders it. -/
theorem firesDue_iff (b : Behaviour η) (s : TimerTable η) : FiresDue b s ↔ Unhindered b s := by
  constructor
  · intro h
    have hcalls : ∀ i, Overdue s i (processBelow b s i) → Calls b s i := fun i hover =>
      (count_called hover.lt_length).mp (h.fires i hover)
    -- by induction on the entries: up to the first hindrance both passes are the same
    have hcounter : ∀ i, (∃ j ≥ i, Overdue s j (visitBelow b s i)) →
        (visitBelow b s i).called.length < (visitBelow b s i).timers := by
      intro i
      induction i using Nat.strong_induction_on with
      | h i ih =>
          intro hahead
          have heq := processBelow_eq ih hahead
          rw [← heq] at hahead ⊢
          obtain ⟨j, hj, hover⟩ := hahead
          by_contra hstop
          have hsame := processBelow_stopped hstop hj
          have hlive := (hcalls j (by rw [hsame]; exact hover)).1
          rw [hsame] at hlive
          exact hstop hlive
    refine ⟨hcounter, fun i hover => ?_⟩
    have heq := processBelow_eq (fun k _ => hcounter k) ⟨i, Nat.le_refl i, hover⟩
    rw [← heq] at hover ⊢
    exact (hcalls i hover).2
  · intro h
    refine ⟨fun i hover => ?_, fun i hi => (mem_called.mp hi).2.2⟩
    rw [count_called hover.lt_length]
    rcases h.processBelow_eq i with heq | hno
    · rw [Calls, heq]
      rw [heq] at hover
      exact ⟨h.counter i ⟨i, Nat.le_refl i, hover⟩, h.clock i hover⟩
    · exact absurd ⟨i, Nat.le_refl i, hover⟩ hno

/-- Two timers that are due, and a handler that gives its own timer up, as
`ARPHandler::handleTimer` does. -/
def exampleTable : TimerTable ℕ :=
  ⟨[⟨250, 0, some 1, false⟩, ⟨250, 0, some 2, false⟩], 2, 1000, [], rfl⟩

/-- Its handlers take no time. -/
def exampleBehaviour : Behaviour ℕ where
  handleTimer _ index _ := [.unregisterTimer index]
  beforeCheck _ := 0
  beforeRestart _ := 0

/-- The second of the two is not called. -/
theorem unregistered_leaves_out : ¬ FiresDue exampleBehaviour exampleTable := by
  intro h
  have hfires := h.fires 1 ⟨⟨250, 0, some 2, true⟩, rfl, ⟨rfl, by decide⟩, rfl⟩
  exact absurd hfires (by decide)

end TimerTable

end AtmegaNet
