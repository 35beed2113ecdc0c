import AtmegaNet.Client

/-!
# Applications that use their socket

The events of a subclass of `Socket` may use the socket they belong to: they connect, send and
close, and each of these calls may fire further events. A `Reaction` is what one event does, as
the calls it makes in turn; a `Subclass` gives the reaction to each event, and its callbacks
carry the reactions out, to any depth of events within events.

What `checkState` sends again is `inFlight`: a SYN, data or a FIN. All of them share one counter,
`attempts`. The worlds here count the calls that put something in flight, so that it can be said
which calls have come in between.

## Main results

* `Live`: between two worlds the counter has changed only where a call has put something in
  flight, and it was reset then.
* `live_perform`: every call does this if the callbacks do.
* `Subclass.respects_live`: so do the callbacks of every subclass, to any depth.
-/

open Procedure

namespace AtmegaNet

namespace Socket

variable {α : Type}

/-! ### What is in flight -/

/-- What `checkState` sends again. -/
inductive Item
  | syn
  | data
  | fin
  deriving DecidableEq, Repr

/-- What a socket waits for an acknowledgement of. -/
def inFlight (state : UInt8) : Option Item :=
  if state = ESTABLISHED ||| AWAITING_ACK then some .data
  else if state = SYN_SENT ∨ state = SYN_RECEIVED then some .syn
  else if state = FIN_WAIT_1 ∨ state = CLOSING then some .fin
  else none

/-- Between two worlds something has come to be in flight. -/
def launches (w w' : World α) : Bool :=
  (inFlight w.self.state).isNone && (inFlight w'.self.state).isSome

/-- A socket that is ready to send waits for nothing. -/
theorem inFlight_of_ready {s : Socket} (h : s.readyToSend) : inFlight s.state = none := by
  have hall : ∀ state : UInt8, state &&& 0x0F = ESTABLISHED ∧ state &&& 0xF0 ≠ AWAITING_ACK →
      inFlight state = none := forall_uint8 (by decide +kernel)
  exact hall s.state (readyToSend_iff.mp h)

/-- A socket that may look for an address has nothing in flight. -/
theorem inFlight_of_resolvable {state : UInt8} (h : state ∈ [RESOLVING, CLOSED, UNKNOWN_HOST]) :
    inFlight state = none := by
  have hall : ∀ state ∈ [RESOLVING, CLOSED, UNKNOWN_HOST], inFlight state = none := by decide
  exact hall state h

/-- The end of AWAITING_ACK leaves no data in flight. -/
theorem inFlight_cleared (state : UInt8) : inFlight (state &&& 0x0F) ≠ some .data := by
  have hall : ∀ state : UInt8, inFlight (state &&& 0x0F) ≠ some .data :=
    forall_uint8 (by decide +kernel)
  exact hall state

/-! ### Calls -/

/-- The calls of an application. `configure` is a change to the fields other than the state and
the counter, as `setTimeout` or a registration makes it, and `listen` the change of the state
when a host is registered. -/
inductive Call
  | connect (dns : Resolver)
  | send (length : UInt16)
  | sendBytes (data : Bytes)
  | close
  | forceClose
  | configure (s : Socket)
  | listen

/-- What a call returns and leaves. -/
def Call.run (cb : Callbacks α) : Call → World α → Bool × World α
  | .connect dns, w => ((Socket.connect cb dns).succeeds w, (Socket.connect cb dns).exec w)
  | .send length, w => ((Socket.send cb length).succeeds w, (Socket.send cb length).exec w)
  | .sendBytes data, w => ((Socket.sendBytes cb data).succeeds w, (Socket.sendBytes cb data).exec w)
  | .close, w => ((Socket.close cb).succeeds w, (Socket.close cb).exec w)
  | .forceClose, w => (true, Socket.forceClose cb w)
  | .configure s, w =>
      (true, w.setSelf { s with state := w.self.state, attempts := w.self.attempts })
  | .listen, w => (true, setState cb LISTEN w)

/-- Whether a `connect` or `send` has come through: it returns true, or it returns false because
its segment could not be handed over, but the socket waits for the ACK all the same. -/
def Call.opens (cb : Callbacks α) (c : Call) (w : World α) : Bool :=
  (c.run cb w).1 || launches w (c.run cb w).2

/-- The calls that put something in flight. `send` of nothing and `close` of a socket that is
closed return true as well, and do nothing. -/
def Call.begins (cb : Callbacks α) (c : Call) (w : World α) : Bool :=
  match c with
  | .connect _ => c.opens cb w
  | .send length => length ≠ 0 && c.opens cb w
  | .sendBytes data => Buffer.lengthOf data ≠ 0 && c.opens cb w
  | .close => !w.self.localClosed && (c.run cb w).1
  | _ => false

/-! ### Reactions -/

/-- What an event of a subclass does: it works on its own state and on the stack, makes calls
whose results it looks at, and in the end returns, which matters to `onDataReceived` only. -/
inductive Reaction (α : Type)
  | done (accepted : Bool)
  | work (app : α) (stack : Stack) (next : Reaction α)
  | call (c : Call) (next : Bool → World α → Reaction α)

/-- The world as an application sees it, without the count of its calls. -/
def seen (w : World (α × ℕ)) : World α := ⟨w.this, w.self, w.stack, w.app.1⟩

/-- A call, which is counted if it puts something in flight. -/
def Call.perform (cb : Callbacks (α × ℕ)) (c : Call) (w : World (α × ℕ)) : World (α × ℕ) :=
  let w' := (c.run cb w).2
  if c.begins cb w then { w' with app := (w'.app.1, w'.app.2 + 1) } else w'

/-- Carry a reaction out. -/
def Reaction.run (cb : Callbacks (α × ℕ)) : Reaction α → World (α × ℕ) → Bool × World (α × ℕ)
  | .done accepted, w => (accepted, w)
  | .work app stack next, w => next.run cb { w with app := (app, w.app.2), stack := stack }
  | .call c next, w =>
      (next (c.run cb w).1 (seen (c.perform cb w))).run cb (c.perform cb w)

/-- A subclass of `Socket`. -/
structure Subclass (α : Type) where
  on : Event → World α → Reaction α
  onDataReceived : Bytes → World α → Reaction α
  getApplicationWindowSize : α → UInt16 → UInt16

/-- The virtual functions of a subclass on a stack with room for `depth` events within each
other. -/
def Subclass.callbacks (a : Subclass α) : ℕ → Callbacks (α × ℕ)
  | 0 => ⟨fun _ w => w, fun _ w => (false, w), fun app => a.getApplicationWindowSize app.1⟩
  | depth + 1 =>
      ⟨fun e w => ((a.on e (seen w)).run (a.callbacks depth) w).2,
        fun data w => (a.onDataReceived data (seen w)).run (a.callbacks depth) w,
        fun app => a.getApplicationWindowSize app.1⟩

/-! ### Steps that leave the counter alone -/

/-- Between two worlds neither the application nor the counter has changed. -/
structure Paced (w w' : World α) : Prop where
  app : w'.app = w.app
  attempts : w'.self.attempts = w.self.attempts

instance : IsPreorder (World α) Paced where
  refl _ := ⟨rfl, rfl⟩
  trans _ _ _ h h' := ⟨h'.app.trans h.app, h'.attempts.trans h.attempts⟩

/-- Nor has the state. -/
structure Parked (w w' : World α) : Prop extends Paced w w' where
  state : w'.self.state = w.self.state

instance : IsPreorder (World α) Parked where
  refl w := ⟨refl_of Paced w, rfl⟩
  trans _ _ _ h h' := ⟨trans_of Paced h.toPaced h'.toPaced, h'.state.trans h.state⟩

/-- The stack has no say in the state and the counter. -/
theorem parked_onStack {β : Type} (x : Proc Stack β) :
    Proc.Within Parked (World.onStack (α := α) x) :=
  fun _ => ⟨⟨rfl, rfl⟩, rfl⟩

/-- Nor have the buffers. -/
theorem parked_onMem {β : Type} (x : Proc Memory β) :
    Proc.Within Parked (World.onMem (α := α) x) :=
  parked_onStack _

/-- A segment does not count as an attempt. -/
theorem paced_sendSegment (cb : Callbacks α) (control : UInt8) (length : UInt16)
    (seq ack : UInt32) : Proc.Within Paced (sendSegment cb control length seq ack) := by
  intro w
  obtain ⟨-, happ, hself⟩ := sendSegment_advances cb control length seq ack w
  refine ⟨happ, ?_⟩
  rcases hself with hself | hself
  · rw [hself]
  · rw [hself]
    unfold advance
    split_ifs
    · rfl
    · rfl
    · rfl

/-- A segment without payload does not change the state either. -/
theorem parked_sendSegment (cb : Callbacks α) (control : UInt8) (seq ack : UInt32) :
    Proc.Within Parked (sendSegment cb control 0 seq ack) :=
  fun w => ⟨paced_sendSegment cb control 0 seq ack w,
    (unmoved_sendSegment cb control seq ack w).state⟩

/-! ### Opening and sending -/

/-- Between two worlds nothing has happened to what is in flight, and if nothing was, nothing is
or the counter has been reset. -/
structure Dials (w w' : World α) : Prop where
  app : w'.app = w.app
  busy : inFlight w.self.state ≠ none →
    w'.self.state = w.self.state ∧ w'.self.attempts = w.self.attempts
  idle : inFlight w.self.state = none →
    inFlight w'.self.state = none ∧ w'.self.attempts = w.self.attempts ∨ w'.self.attempts = 1

instance : IsPreorder (World α) Dials where
  refl _ := ⟨rfl, fun _ => ⟨rfl, rfl⟩, fun h => .inl ⟨h, rfl⟩⟩
  trans w w₁ w₂ h h' := by
    refine ⟨h'.app.trans h.app, fun hbusy => ?_, fun hidle => ?_⟩
    · obtain ⟨hstate, hattempts⟩ := h.busy hbusy
      obtain ⟨hstate', hattempts'⟩ := h'.busy (by rwa [hstate])
      exact ⟨hstate'.trans hstate, hattempts'.trans hattempts⟩
    · by_cases hidle₁ : inFlight w₁.self.state = none
      · rcases h'.idle hidle₁ with ⟨hidle₂, hattempts'⟩ | hreset
        · rcases h.idle hidle with ⟨-, hattempts⟩ | hreset
          · exact .inl ⟨hidle₂, hattempts'.trans hattempts⟩
          · exact .inr (hattempts'.trans hreset)
        · exact .inr hreset
      · rcases h.idle hidle with ⟨hidle', -⟩ | hreset
        · exact absurd hidle' hidle₁
        · exact .inr ((h'.busy hidle₁).2.trans hreset)

/-- Where state and counter are kept, nothing comes to be in flight. -/
theorem Parked.dials {w w' : World α} (h : Parked w w') : Dials w w' where
  app := h.app
  busy _ := ⟨h.state, h.attempts⟩
  idle hidle := .inl ⟨by rwa [h.state], h.attempts⟩

/-- Nothing comes to be in flight where the state stays as it is. -/
theorem Parked.launches {w w' : World α} (h : Parked w w') : launches w w' = false := by
  unfold Socket.launches
  rw [h.state]
  cases inFlight w.self.state with
  | none => rfl
  | some item => rfl

/-- The counter has been reset while nothing was in flight. -/
theorem dials_of_reset {w w' : World α} (hidle : inFlight w.self.state = none)
    (happ : w'.app = w.app) (hreset : w'.self.attempts = 1) : Dials w w' :=
  ⟨happ, fun hbusy => absurd hidle hbusy, fun _ => .inr hreset⟩

/-- A state in which nothing is in flight is entered from another without an event. -/
theorem dials_setState (cb : Callbacks α) {w : World α} (state : UInt8)
    (hidle : inFlight w.self.state = none) (hidle' : inFlight state = none)
    (hclosed : state = CLOSED → w.self.state = RESOLVING) (hopen : state ≠ ESTABLISHED) :
    Dials w (setState cb state w) := by
  rw [Client.setState_quiet hclosed hopen]
  exact ⟨rfl, fun hbusy => absurd hidle hbusy, fun _ => .inl ⟨hidle', rfl⟩⟩

section Dials

variable (cb : Callbacks α) (dns : Resolver) {w : World α}

/-- What has an address again is closed without an event. -/
theorem dials_closed (hstate : w.self.state = RESOLVING) : Dials w (closed cb w) := by
  have hidle : inFlight w.self.state = none := by rw [hstate]; decide
  unfold closed
  split
  · exact dials_setState cb LISTEN hidle (by decide) (fun h => absurd h (by decide)) (by decide)
  · exact dials_setState cb CLOSED hidle (by decide) (fun _ => hstate) (by decide)

/-- `resolveIP` puts a SYN in flight at most, if `connect` does. -/
theorem dials_resolveWith {connect : Proc (World α) Unit} (hconnect : Proc.Within Dials connect) :
    Proc.Within Dials (resolveWith cb dns connect) := by
  intro w
  unfold resolveWith
  rw [Proc.run_read_bind]
  by_cases hstate : w.self.state ≠ RESOLVING ∧ w.self.state ≠ CLOSED ∧
      w.self.state ≠ UNKNOWN_HOST
  · rw [if_pos hstate]
    exact refl_of Dials w
  rw [if_neg hstate]
  have hidle : inFlight w.self.state = none := by
    refine inFlight_of_resolvable ?_
    by_contra hne
    exact hstate (by simpa using hne)
  split
  · exact refl_of Dials w
  refine (parked_onStack _).exec_bind (fun _ h => h.dials) fun a w₁ h₁ => ?_
  refine trans_of Dials h₁.dials ?_
  rw [← h₁.state] at hidle ⊢
  obtain ⟨rip, error⟩ := a
  dsimp only
  split
  · rw [Proc.run_modify_bind]
    exact dials_setState cb UNKNOWN_HOST hidle (by decide) (fun h => absurd h (by decide))
      (by decide)
  split
  · exact dials_setState cb RESOLVING hidle (by decide) (fun h => absurd h (by decide)) (by decide)
  rename_i ip
  rw [Proc.run_modify_bind]
  have haddress : Parked w₁ (w₁.setSelf { w₁.self with remoteIP := ip }) := ⟨⟨rfl, rfl⟩, rfl⟩
  refine trans_of Dials haddress.dials ?_
  split
  case isFalse => exact refl_of Dials _
  case isTrue hresolving =>
    rw [Proc.run_modify_bind]
    refine trans_of Dials (dials_closed cb (haddress.state.trans hresolving)) ?_
    split
    · rw [Proc.run_modify_bind]
      refine trans_of Dials (Parked.dials ?_) (hconnect _)
      exact ⟨⟨rfl, rfl⟩, rfl⟩
    · exact refl_of Dials _

/-- `connect` puts a SYN in flight at most, if `resolveIP` does. -/
theorem dials_connectWith {resolveIP : Proc (World α) Unit} (hresolve : Proc.Within Dials resolveIP) :
    Proc.Within Dials (connectWith cb resolveIP) := by
  refine hresolve.bind fun _ w => ?_
  rw [Proc.run_read_bind]
  split
  · exact Parked.dials ⟨⟨rfl, rfl⟩, rfl⟩
  split
  · exact refl_of Dials w
  split
  · exact refl_of Dials w
  rename_i hclosed _
  rw [not_not] at hclosed
  refine (parked_onStack _).exec_bind (fun _ h => h.dials) fun port w₁ h₁ => ?_
  rw [Proc.run_modify_bind]
  have hport : Parked w (w₁.setSelf { w₁.self with localPort := port }) := by
    refine trans_of Parked h₁ ?_
    exact ⟨⟨rfl, rfl⟩, rfl⟩
  refine (parked_sendSegment cb SYN 0 0).exec_bind
    (fun _ h => (trans_of Parked hport h).dials) fun _ w₂ h₂ => ?_
  have hsent := trans_of Parked hport h₂
  rw [Proc.run_modify_bind]
  -- the counter is reset before the state changes: the two are one step here
  have hidle : inFlight w.self.state = none := by rw [hclosed]; decide
  exact dials_of_reset hidle hsent.app rfl

/-- Whatever `resolveIP` puts in flight starts with a fresh counter. -/
theorem dials_resolveIP : Proc.Within Dials (resolveIP cb dns) :=
  dials_resolveWith cb dns (dials_connectWith cb (dials_resolveWith cb dns Proc.within_fail))

/-- So does what `connect` puts in flight. -/
theorem dials_connect : Proc.Within Dials (connect cb dns) :=
  dials_connectWith cb (dials_resolveIP cb dns)

/-- `connect` returns false while something is in flight. -/
theorem idle_of_connect (h : (connect cb dns).succeeds w) : inFlight w.self.state = none := by
  refine inFlight_of_resolvable ?_
  by_contra hne
  have hstate : w.self.state ≠ RESOLVING ∧ w.self.state ≠ CLOSED ∧
      w.self.state ≠ UNKNOWN_HOST := by simpa using hne
  have hfails : (resolveIP cb dns).run w = (none, w) := by
    unfold resolveIP resolveWith
    rw [Proc.run_read_bind, if_pos hstate]
    rfl
  unfold connect connectWith at h
  rw [Proc.succeeds, Proc.run_bind_of_none hfails] at h
  exact absurd h Bool.false_ne_true

/-- `send` of something returns false while something is in flight, and changes nothing. -/
theorem send_busy {length : UInt16} (hlength : length ≠ 0) (hbusy : inFlight w.self.state ≠ none) :
    (send cb length).run w = (none, w) := by
  have hready : (!w.self.readyToSend) = true := by
    by_contra h
    exact hbusy (inFlight_of_ready (by simpa using h))
  unfold send
  rw [Proc.run_read_bind, if_neg hlength, if_pos hready]
  rfl

/-- So does what `send` puts in flight. -/
theorem dials_send (length : UInt16) : Proc.Within Dials (send cb length) := by
  intro w
  by_cases hidle : inFlight w.self.state = none
  case neg =>
    by_cases hlength : length = 0
    · unfold send
      rw [Proc.run_read_bind, if_pos hlength]
      exact refl_of Dials w
    · rw [send_busy cb hlength hidle]
      exact refl_of Dials w
  unfold send
  rw [Proc.run_read_bind]
  split
  · exact refl_of Dials w
  split
  · exact refl_of Dials w
  split
  · exact refl_of Dials w
  rw [Proc.run_modify_bind]
  -- nothing behind the reset touches the counter
  have hrest : Proc.Within Paced (Proc.query (fun w : World α => w.self.getSendDataBuffer) >>=
      fun sb => Proc.query (fun w : World α => w.self.stash) >>= fun stash =>
      World.onMem (sb.copyTo stash 0 0 length) >>= fun _ =>
      sendSegment cb (ACK ||| PSH) length 0 0 >>= fun _ =>
      Proc.modify fun w => w.setSelf { w.self with stateTime := w.stack.millis }) := by
    refine (Proc.within_query _).bind fun sb => (Proc.within_query _).bind fun stash => ?_
    refine Proc.Within.bind (fun _ => ⟨rfl, rfl⟩) fun _ => ?_
    exact (paced_sendSegment cb _ _ _ _).bind fun _ => Proc.within_modify fun _ => ⟨rfl, rfl⟩
  have hpaced := hrest (w.setSelf { w.self with attempts := 1 })
  exact dials_of_reset hidle hpaced.app hpaced.attempts

/-- `send` of nothing does nothing. -/
theorem parked_send_nothing : Proc.Within Parked (send cb 0) := by
  intro w
  unfold send
  rw [Proc.run_read_bind, if_pos rfl]
  exact refl_of Parked w

/-- `send` without data keeps state and counter. -/
theorem parked_sendBytes_nothing {data : Bytes} (hzero : Buffer.lengthOf data = 0) :
    Proc.Within Parked (sendBytes cb data) := by
  unfold sendBytes
  rw [hzero]
  exact (Proc.within_query _).bind fun sb => (parked_onMem _).bind fun _ => parked_send_nothing cb

/-- What `send` with data puts in flight starts with a fresh counter. -/
theorem dials_sendBytes (data : Bytes) : Proc.Within Dials (sendBytes cb data) := by
  refine (Proc.within_query _).bind fun sb => ?_
  refine Proc.Within.bind (fun w => (parked_onMem _ w).dials) fun _ => ?_
  exact dials_send cb _

/-- `send(data, length)` as well. -/
theorem idle_of_sendBytes {data : Bytes} (hlength : Buffer.lengthOf data ≠ 0)
    (h : (sendBytes cb data).succeeds w) : inFlight w.self.state = none := by
  by_contra hbusy
  obtain ⟨sb, w₁, hbuffer, h⟩ := Proc.succeeds_bind.mp h
  obtain ⟨_, w₂, hwrite, h⟩ := Proc.succeeds_bind.mp h
  have h₁ : Parked w w₁ := by
    have hwithin := Proc.within_query (R := Parked) (fun w : World α => w.self.getSendDataBuffer) w
    rwa [hbuffer] at hwithin
  have h₂ : Parked w₁ w₂ := by
    have hwithin := parked_onMem (α := α) (sb.write 0 data) w₁
    rwa [hwrite] at hwithin
  have hbusy₂ : inFlight w₂.self.state ≠ none := by
    rwa [h₂.state, h₁.state]
  rw [Proc.succeeds, send_busy cb hlength hbusy₂] at h
  exact absurd h Bool.false_ne_true

end Dials

/-! ### What a call may do -/

/-- Between two worlds the counter has changed only where a call has put something in flight,
and such a call has reset it. -/
structure Live (w w' : World (α × ℕ)) : Prop where
  attempts : w'.self.attempts = w.self.attempts ∨ w'.self.attempts = 1
  calls : w.app.2 ≤ w'.app.2
  kept : w'.app.2 = w.app.2 → ∀ item, inFlight w'.self.state = some item →
    inFlight w.self.state = some item ∧ w'.self.attempts = w.self.attempts
  reset : w'.app.2 ≠ w.app.2 → ∀ item, inFlight w'.self.state = some item →
    w'.self.attempts = 1

instance : IsPreorder (World (α × ℕ)) Live where
  refl _ := ⟨.inl rfl, Nat.le_refl _, fun _ _ h => ⟨h, rfl⟩, fun h => absurd rfl h⟩
  trans w w₁ w₂ h h' := by
    refine ⟨?_, Nat.le_trans h.calls h'.calls, fun heq item hitem => ?_, fun hne item hitem => ?_⟩
    · rcases h'.attempts with hattempts' | hreset
      · rcases h.attempts with hattempts | hreset
        · exact .inl (hattempts'.trans hattempts)
        · exact .inr (hattempts'.trans hreset)
      · exact .inr hreset
    · have hcalls := h.calls
      have hcalls' := h'.calls
      obtain ⟨hitem₁, hattempts'⟩ := h'.kept (by omega) item hitem
      obtain ⟨hitem₀, hattempts⟩ := h.kept (by omega) item hitem₁
      exact ⟨hitem₀, hattempts'.trans hattempts⟩
    · by_cases heq : w₂.app.2 = w₁.app.2
      · obtain ⟨hitem₁, hattempts'⟩ := h'.kept heq item hitem
        exact hattempts'.trans (h.reset (heq ▸ hne) item hitem₁)
      · exact h'.reset heq item hitem

/-- Between two worlds the socket has given up what was in flight: anything that is in flight
now is the work of a call since. -/
structure Settles (w w' : World (α × ℕ)) : Prop where
  attempts : w'.self.attempts = w.self.attempts ∨ w'.self.attempts = 1
  calls : w.app.2 ≤ w'.app.2
  fresh : ∀ item, inFlight w'.self.state = some item →
    w.app.2 < w'.app.2 ∧ w'.self.attempts = 1

section Live

variable {w w₁ w₂ : World (α × ℕ)}

/-- What has been given up is no longer in flight. -/
theorem Settles.live (h : Settles w w₁) : Live w w₁ where
  attempts := h.attempts
  calls := h.calls
  kept heq item hitem := by
    have hlt := (h.fresh item hitem).1
    omega
  reset _ item hitem := (h.fresh item hitem).2

/-- What is given up in the end is given up. -/
theorem Live.trans_settles (h : Live w w₁) (h' : Settles w₁ w₂) : Settles w w₂ where
  attempts := (trans_of Live h h'.live).attempts
  calls := Nat.le_trans h.calls h'.calls
  fresh item hitem := by
    obtain ⟨hlt, hreset⟩ := h'.fresh item hitem
    exact ⟨Nat.lt_of_le_of_lt h.calls hlt, hreset⟩

/-- What has been given up does not come back by itself. -/
theorem Settles.trans_live (h : Settles w w₁) (h' : Live w₁ w₂) : Settles w w₂ where
  attempts := (trans_of Live h.live h').attempts
  calls := Nat.le_trans h.calls h'.calls
  fresh item hitem := by
    by_cases heq : w₂.app.2 = w₁.app.2
    · obtain ⟨hitem₁, hattempts'⟩ := h'.kept heq item hitem
      obtain ⟨hlt, hreset⟩ := h.fresh item hitem₁
      exact ⟨heq ▸ hlt, hattempts'.trans hreset⟩
    · have hcalls := h.calls
      have hcalls' := h'.calls
      exact ⟨by omega, h'.reset heq item hitem⟩

/-- Where state and counter are kept, what is in flight stays in flight. -/
theorem Parked.live (h : Parked w w₁) : Live w w₁ where
  attempts := .inl h.attempts
  calls := by rw [h.app]
  kept _ item hitem := by
    rw [h.state] at hitem
    exact ⟨hitem, h.attempts⟩
  reset hne := absurd (congrArg Prod.snd h.app) hne

/-- Nothing is in flight in the new state. -/
theorem settles_of_idle (happ : w₁.app = w.app) (hattempts : w₁.self.attempts = w.self.attempts)
    (hidle : inFlight w₁.self.state = none) : Settles w w₁ where
  attempts := .inl hattempts
  calls := by rw [happ]
  fresh item hitem := by
    rw [hidle] at hitem
    exact absurd hitem (by simp)

end Live

section Calls

variable {cb : Callbacks (α × ℕ)} (h : Respects cb Live)

include h

/-- An event puts something in flight only by a call. -/
theorem live_fire (e : Event) (w : World (α × ℕ)) : Live w (fire cb e w) := by
  have hlog : Parked w (w.observe (.event w.this e)) := ⟨⟨rfl, rfl⟩, rfl⟩
  exact trans_of Live hlog.live (h.on e _)

/-- So do the events of a state. -/
theorem live_announce (priorState state : UInt8) (w : World (α × ℕ)) :
    Live w (announce cb priorState state w) := by
  unfold announce
  dsimp only
  split_ifs
  · exact trans_of Live (live_fire h _ w) (trans_of Live (live_fire h _ _) (live_fire h _ _))
  · exact trans_of Live (live_fire h _ w) (live_fire h _ _)
  · exact live_fire h _ w
  · exact refl_of Live w

/-- A state in which nothing is in flight is entered. -/
theorem settles_setState {state : UInt8} (hidle : inFlight state = none) (w : World (α × ℕ)) :
    Settles w (setState cb state w) := by
  have hentered : Settles w
      (w.setSelf { w.self with state := state, stateTime := w.stack.millis }) :=
    settles_of_idle rfl rfl hidle
  exact hentered.trans_live (live_announce h _ _ _)

/-- Closing a socket gives up what is in flight. -/
theorem settles_closed (w : World (α × ℕ)) : Settles w (closed cb w) := by
  unfold closed
  split
  · exact settles_setState h (by decide) w
  · exact settles_setState h (by decide) w

/-- A reset puts something in flight only by a call. -/
theorem live_reset (seq ack : UInt32) : Proc.Within Live (reset cb seq ack) := by
  refine Proc.within_read_bind fun remoteSeq => ?_
  refine Proc.Within.bind (fun w => (parked_sendSegment cb _ seq ack w).live) fun _ => ?_
  exact Proc.within_modify (live_fire h _)

/-- `forceClose` gives up what is in flight. -/
theorem settles_forceClose (w : World (α × ℕ)) : Settles w (forceClose cb w) := by
  unfold forceClose
  dsimp only
  split
  · exact Live.trans_settles (live_reset h _ _ w) (settles_closed h _)
  · exact settles_closed h w

variable (cb) in
omit h in
/-- What a FIN leads to: the counter is reset. -/
theorem closing_spec (w : World (α × ℕ)) :
    (closing cb w).app = w.app ∧ (closing cb w).self.attempts = 1 := by
  unfold closing
  split
  case h_1 state hstate =>
    obtain ⟨hmem, hopen⟩ := Client.stateAfterClose_open hstate
    rw [Client.setState_quiet (fun hclosed => absurd hclosed (Client.openStates_spec hmem).2.1) hopen]
    exact ⟨rfl, rfl⟩
  case h_2 => exact ⟨rfl, rfl⟩

/-- `close` either changes nothing that matters here or resets the counter. -/
theorem close_spec (w : World (α × ℕ)) :
    (!w.self.localClosed && (close cb).succeeds w) = false ∧ Parked w ((close cb).exec w) ∨
      (!w.self.localClosed && (close cb).succeeds w) = true ∧
        ((close cb).exec w).self.attempts = 1 ∧ w.app.2 ≤ ((close cb).exec w).app.2 := by
  by_cases hclosed : w.self.localClosed
  · refine .inl ⟨by rw [hclosed]; rfl, ?_⟩
    rw [Proc.exec, close_idle hclosed]
    exact refl_of Parked w
  have hsent := parked_sendSegment cb (FIN ||| ACK) 0 0 w
  have hopen : w.self.localClosed = false := by simpa using hclosed
  rcases close_cases cb hclosed with hrun | ⟨-, hrun⟩
  · refine .inl ⟨?_, ?_⟩
    · rw [Proc.succeeds, hrun, Option.isSome_none, Bool.and_false]
    · rw [Proc.exec, hrun]
      exact hsent
  · refine .inr ⟨?_, ?_⟩
    · rw [Proc.succeeds, hrun, hopen]
      rfl
    · rw [Proc.exec, hrun]
      obtain ⟨happ, hattempts⟩ :=
        closing_spec cb ((sendSegment cb (FIN ||| ACK) 0 0 0).exec w)
      have hfired := live_fire h .onLocalClosed
        (closing cb ((sendSegment cb (FIN ||| ACK) 0 0 0).exec w))
      refine ⟨?_, ?_⟩
      · rcases hfired.attempts with hkept | hreset
        · exact hkept.trans hattempts
        · exact hreset
      · have hcalls := hfired.calls
        rw [happ] at hcalls
        have happ' := congrArg Prod.snd hsent.app
        exact happ' ▸ hcalls

omit h in
/-- A call that is counted has come with a reset. -/
theorem live_counted {w w' : World (α × ℕ)}
    (hattempts : w'.self.attempts = w.self.attempts ∨ w'.self.attempts = 1)
    (hcalls : w.app.2 ≤ w'.app.2)
    (hreset : ∀ item, inFlight w'.self.state = some item → w'.self.attempts = 1) :
    Live w { w' with app := (w'.app.1, w'.app.2 + 1) } where
  attempts := hattempts
  calls := Nat.le_succ_of_le hcalls
  kept heq := by
    have hsucc : w'.app.2 + 1 = w.app.2 := heq
    omega
  reset _ item hitem := hreset item hitem

omit h in
/-- A `connect` or `send` that comes through finds nothing in flight, and one that does not
leaves nothing in flight that was not before. -/
theorem Dials.live_opens {w w' : World (α × ℕ)} {opens : Bool} (hdials : Dials w w')
    (hidle : opens = true → inFlight w.self.state = none)
    (hlaunches : opens = false → launches w w' = false) :
    Live w (if opens then { w' with app := (w'.app.1, w'.app.2 + 1) } else w') := by
  have hcalls : w'.app.2 = w.app.2 := congrArg Prod.snd hdials.app
  cases opens with
  | true =>
    rw [if_pos rfl]
    rcases hdials.idle (hidle rfl) with ⟨hnone, hattempts⟩ | hreset
    · refine live_counted (.inl hattempts) (Nat.le_of_eq hcalls.symm) fun item hitem => ?_
      rw [hnone] at hitem
      exact absurd hitem (by simp)
    · exact live_counted (.inr hreset) (Nat.le_of_eq hcalls.symm) fun _ _ => hreset
  | false =>
    rw [if_neg Bool.false_ne_true]
    by_cases hnone : inFlight w.self.state = none
    · have hnone' : inFlight w'.self.state = none := by
        have hlaunches := hlaunches rfl
        unfold launches at hlaunches
        rw [hnone] at hlaunches
        simpa using hlaunches
      have hattempts : w'.self.attempts = w.self.attempts ∨ w'.self.attempts = 1 := by
        rcases hdials.idle hnone with ⟨-, hkept⟩ | hreset
        · exact .inl hkept
        · exact .inr hreset
      refine ⟨hattempts, Nat.le_of_eq hcalls.symm, fun _ item hitem => ?_, fun hne => absurd hcalls hne⟩
      rw [hnone'] at hitem
      exact absurd hitem (by simp)
    · obtain ⟨hstate, hattempts⟩ := hdials.busy hnone
      exact Parked.live ⟨⟨hdials.app, hattempts⟩, hstate⟩

omit h in
/-- What `Call.opens` says of a call that returns false while something is in flight. -/
theorem Call.idle_of_opens {c : Call} {w : World (α × ℕ)}
    (hidle : (c.run cb w).1 = true → inFlight w.self.state = none) (hopens : c.opens cb w = true) :
    inFlight w.self.state = none := by
  rcases Bool.or_eq_true_iff.mp hopens with hok | hlaunches
  · exact hidle hok
  · have hnone := (Bool.and_eq_true_iff.mp hlaunches).1
    simpa using hnone

omit h in
/-- A `send` of something that may be nothing. -/
theorem live_sends {c : Call} {w : World (α × ℕ)} {length : UInt16}
    (hdials : Dials w (c.run cb w).2)
    (hidle : length ≠ 0 → (c.run cb w).1 = true → inFlight w.self.state = none)
    (hnothing : length = 0 → Parked w (c.run cb w).2)
    (hbegins : c.begins cb w = (length ≠ 0 && c.opens cb w)) : Live w (c.perform cb w) := by
  refine hdials.live_opens (fun hbegun => ?_) fun hnot => ?_
  · rw [hbegins, Bool.and_eq_true_iff] at hbegun
    exact Call.idle_of_opens (hidle (by simpa using hbegun.1)) hbegun.2
  · rw [hbegins, Bool.and_eq_false_iff] at hnot
    rcases hnot with hzero | hopens
    · exact (hnothing (by simpa using hzero)).launches
    · exact (Bool.or_eq_false_iff.mp hopens).2

/-- Every call leaves the counter alone or resets it. -/
theorem live_perform (c : Call) (w : World (α × ℕ)) : Live w (c.perform cb w) := by
  cases c with
  | connect dns =>
    exact (dials_connect cb dns w).live_opens
      (Call.idle_of_opens fun hok => idle_of_connect cb dns hok)
      fun hopens => (Bool.or_eq_false_iff.mp hopens).2
  | send length =>
    refine live_sends (dials_send cb length w) (fun hlength hok => ?_) (fun hzero => ?_) rfl
    · by_contra hbusy
      have hnone : (Socket.send cb length).succeeds w = false := by
        rw [Proc.succeeds, send_busy cb hlength hbusy]
        rfl
      exact Bool.false_ne_true (hnone.symm.trans hok)
    · subst hzero
      exact parked_send_nothing cb w
  | sendBytes data =>
    refine live_sends (dials_sendBytes cb data w) (fun hlength hok => ?_) (fun hzero => ?_) rfl
    · exact idle_of_sendBytes cb hlength hok
    · exact parked_sendBytes_nothing cb hzero w
  | close =>
    unfold Call.perform
    dsimp only
    rcases close_spec h w with ⟨hnot, hparked⟩ | ⟨hbegun, hattempts, hcalls⟩
    · have hbegins : Call.close.begins cb w = false := hnot
      rw [hbegins, if_neg Bool.false_ne_true]
      exact hparked.live
    · have hbegins : Call.close.begins cb w = true := hbegun
      rw [hbegins, if_pos rfl]
      exact live_counted (.inr hattempts) hcalls fun _ _ => hattempts
  | forceClose => exact (settles_forceClose h w).live
  | configure s => exact Parked.live ⟨⟨rfl, rfl⟩, rfl⟩
  | listen =>
    have hidle : inFlight LISTEN = none := by decide
    exact (settles_setState h hidle w).live

end Calls

/-! ### Subclasses -/

section Reactions

variable {cb : Callbacks (α × ℕ)}

/-- So does a reaction, by induction on the calls that it makes. -/
theorem live_reaction (h : Respects cb Live) (r : Reaction α) (w : World (α × ℕ)) :
    Live w (r.run cb w).2 := by
  induction r generalizing w with
  | done accepted => exact refl_of Live w
  | work app stack next ih =>
    have hlive : Live w { w with app := (app, w.app.2), stack := stack } :=
      ⟨.inl rfl, Nat.le_refl _, fun _ _ hitem => ⟨hitem, rfl⟩, fun hne => absurd rfl hne⟩
    exact trans_of Live hlive (ih _)
  | call c next ih => exact trans_of Live (live_perform h c w) (ih _ _ _)

end Reactions

/-- The callbacks of a subclass do no more to the counter than the calls they make, however deep
their events lie within each other. -/
theorem Subclass.respects_live (a : Subclass α) (depth : ℕ) :
    Respects (a.callbacks depth) Live := by
  induction depth with
  | zero => exact ⟨fun _ w => refl_of Live w, fun _ w => refl_of Live w⟩
  | succ depth ih => exact ⟨fun e w => live_reaction ih _ w, fun d w => live_reaction ih _ w⟩

end Socket

end AtmegaNet
