import AtmegaNet.Quiet

/-!
# The state diagram of a socket

How the state byte and the addresses of a socket change. `Next` lists the transitions that the
functions of `Socket` make, all but the one of a listener that a SYN opens; a relation on
worlds that allows these transitions, and what the callbacks do, is preserved by every
function. Callbacks may call the socket they belong to.

## Main results

* `sendSegment_advances`: sending a segment changes nothing of a socket but by `advance`.
* `Allows`, `Respects`: what a relation has to allow, and callbacks that stay inside it.
* `Follows.connect`, `Follows.send`, `Follows.close`, `Follows.forceClose`,
  `Follows.checkState`: the calls and the timer stay inside such a relation.
* `Follows.handleSegment`, `handleSegment_listen`: so does a segment, and in LISTEN it does
  nothing else than that or a passive open.
-/

open Procedure

namespace AtmegaNet

namespace Socket

variable {α : Type}

/-! ### Sending -/

/-- Between two worlds the socket and its application have not changed. -/
structure Still (w w' : World α) : Prop where
  this : w'.this = w.this
  app : w'.app = w.app
  self : w'.self = w.self

instance : IsPreorder (World α) Still where
  refl _ := ⟨rfl, rfl, rfl⟩
  trans _ _ _ h h' := ⟨h'.this.trans h.this, h'.app.trans h.app, h'.self.trans h.self⟩

/-- The stack does not touch the socket. -/
theorem still_onStack {β : Type} (x : Proc Stack β) :
    Proc.Within Still (World.onStack (α := α) x) :=
  fun _ => ⟨rfl, rfl, rfl⟩

/-- Neither does a write into a buffer. -/
theorem still_onMem {β : Type} (x : Proc Memory β) :
    Proc.Within Still (World.onMem (α := α) x) :=
  still_onStack _

/-- A segment is transmitted without a change of the socket. -/
theorem still_transmit (length : UInt16) (option_length : UInt8) :
    Proc.Within Still (transmit (α := α) length option_length) := by
  refine Proc.within_read_bind fun remoteIP => Proc.within_read_bind fun route => ?_
  refine Proc.Within.ite (still_onStack _).attempt ?_
  exact Proc.within_read_bind fun _ => Proc.within_read_bind fun _ =>
    (still_onMem _).bind fun _ => still_onStack _

/-- Between two worlds the socket has not changed, or it has advanced by one segment. -/
structure Advances (control : UInt8) (length : UInt16) (w w' : World α) : Prop where
  this : w'.this = w.this
  app : w'.app = w.app
  self : w'.self = w.self ∨ w'.self = advance control length w.self

section Advances

variable {control : UInt8} {length : UInt16} {w w₁ w₂ : World α}

/-- Staying as it was is one of the two ways to advance. -/
theorem Still.advances (h : Still w w₁) : Advances control length w w₁ := ⟨h.this, h.app, .inl h.self⟩

/-- What leaves the socket alone may come before its segment. -/
theorem Still.trans_advances (h : Still w w₁) (h' : Advances control length w₁ w₂) :
    Advances control length w w₂ := by
  refine ⟨h'.this.trans h.this, h'.app.trans h.app, ?_⟩
  rw [← h.self]
  exact h'.self

/-- It may come behind it. -/
theorem Advances.trans_still (h : Advances control length w w₁) (h' : Still w₁ w₂) :
    Advances control length w w₂ := by
  refine ⟨h'.this.trans h.this, h'.app.trans h.app, ?_⟩
  rw [h'.self]
  exact h.self

/-- A step that leaves the socket alone does not count. -/
theorem advances_bind {β γ : Type} {x : Proc (World α) β} {f : β → Proc (World α) γ}
    (hx : Proc.Within Still x) (hf : ∀ a, Proc.Within (Advances control length) (f a)) :
    Proc.Within (Advances control length) (x >>= f) :=
  fun _ => hx.exec_bind (fun _ h => h.advances) fun a w₁ h => h.trans_advances (hf a w₁)

/-- The socket advances where the control bits are written. -/
theorem advances_writeControl (buf : Buffer) :
    Proc.Within (Advances (α := α) control length) (writeControl buf control length) := by
  unfold writeControl
  split
  case isTrue hsyn =>
    refine advances_bind (still_onMem _) fun _ => advances_bind (still_onMem _) fun _ =>
      advances_bind (still_onMem _) fun _ => advances_bind (Proc.within_read _) fun _ =>
        advances_bind (still_onMem _) fun _ w => ⟨rfl, rfl, .inr ?_⟩
    rw [advance, if_pos (.inl hsyn)]
    rfl
  case isFalse hsyn =>
    split
    case isTrue hfin =>
      refine fun w => ⟨rfl, rfl, .inr ?_⟩
      rw [advance, if_pos (.inr hfin)]
      rfl
    case isFalse hfin =>
      refine advances_bind (still_onMem _) fun _ w => ?_
      rw [Proc.run_modify_bind, Proc.run_pure]
      split
      · refine ⟨rfl, rfl, .inr ?_⟩
        rw [advance, if_neg (not_or.mpr ⟨hsyn, hfin⟩), if_pos ‹_›]
        rfl
      · exact ⟨rfl, rfl, .inl rfl⟩

/-- Whatever becomes of a segment, the socket has advanced by it or stayed as it was. -/
theorem sendSegment_advances (cb : Callbacks α) (control : UInt8) (length : UInt16)
    (seq ack : UInt32) :
    Proc.Within (Advances control length) (sendSegment cb control length seq ack) := by
  intro w
  unfold sendSegment
  rw [Proc.run_read_bind]
  by_cases hnone : w.self.tcp.isNone = true
  · rw [if_pos hnone]
    exact ⟨rfl, rfl, .inl rfl⟩
  · rw [if_neg hnone]
    refine advances_bind (Proc.within_read _) (fun buf => ?_) w
    refine advances_bind (still_onMem _) fun _ => advances_bind (still_onMem _) fun _ =>
      advances_bind (still_onMem _) fun _ => advances_bind (still_onMem _) fun _ => ?_
    intro w
    refine (advances_writeControl buf).exec_bind (fun _ h => h) fun o w₁ h => h.trans_still ?_
    have hrest : Proc.Within Still (World.onMem (α := α) (buf.write8 13 control) >>= fun _ =>
        Proc.read (getWindowSize cb) >>= fun window =>
        World.onMem (buf.writeNet16 14 window) >>= fun _ =>
        World.onMem (buf.writeNet16 18 0x0000) >>= fun _ => transmit length o) :=
      (still_onMem _).bind fun _ => Proc.within_read_bind fun _ => (still_onMem _).bind fun _ =>
        (still_onMem _).bind fun _ => still_transmit length o
    exact hrest w₁

end Advances

/-! ### The diagram -/

/-- Where a socket is in the diagram, and whose connection it has. -/
def bearings (s : Socket) : UInt8 × Option ℕ × UInt16 × UInt16 × IPAddr × UInt16 :=
  (s.state, s.tcp, s.listenPort, s.localPort, s.remoteIP, s.remotePort)

/-- The transitions of a socket. `cleared` is the end of AWAITING_ACK, which is made of any
state that the callbacks have led to. -/
inductive Next (s : Socket) : UInt8 → Prop
  | down : Next s s.down
  | cleared : Next s (s.state &&& 0x0F)
  | awaiting : s.state &&& 0x0F = ESTABLISHED → Next s (s.state ||| AWAITING_ACK)
  | close {state : UInt8} : stateAfterClose s.state = some state → Next s state
  | remoteClosed : s.state &&& 0x0F = ESTABLISHED → Next s CLOSE_WAIT
  | closing : s.state = FIN_WAIT_1 → Next s CLOSING
  | halfClosed : s.state = FIN_WAIT_1 → Next s FIN_WAIT_2
  | timeWait : s.state ∈ [FIN_WAIT_1, FIN_WAIT_2, CLOSING] → Next s TIME_WAIT
  | established : s.state ∈ [SYN_SENT, SYN_RECEIVED] → Next s ESTABLISHED
  | synReceived : s.state = SYN_SENT → Next s SYN_RECEIVED
  | synSent : s.state = CLOSED → Next s SYN_SENT
  | resolve {state : UInt8} : s.state ∈ [RESOLVING, CLOSED, UNKNOWN_HOST] →
      state ∈ [RESOLVING, UNKNOWN_HOST] → Next s state

/-- A relation on worlds that allows what the functions of `Socket` do one step at a time. -/
structure Allows (R : World α → World α → Prop) : Prop where
  still : ∀ {w w' : World α}, w'.this = w.this → bearings w'.self = bearings w.self → R w w'
  next : ∀ (w : World α) (s : Socket), Next w.self s.state →
    bearings s = bearings { w.self with state := s.state } → R w (w.setSelf s)
  remote : ∀ (w : World α) (ip : IPAddr), w.self.state ∈ [RESOLVING, CLOSED, UNKNOWN_HOST] →
    R w (w.setSelf { w.self with remoteIP := ip })
  port : ∀ (w : World α) (port : UInt16), w.self.state = CLOSED → w.self.tcp.isSome →
    R w (w.setSelf { w.self with localPort := port })

/-- Callbacks that stay inside a relation. They may use the socket. -/
structure Respects (cb : Callbacks α) (R : World α → World α → Prop) : Prop where
  on : ∀ e w, R w (cb.on e w)
  onDataReceived : ∀ d w, R w (cb.onDataReceived d w).2

/-- A relation that allows what the functions of `Socket` and the callbacks do. -/
structure Follows (cb : Callbacks α) (R : World α → World α → Prop) : Prop
    extends Allows R, Respects cb R

/-- An application whose callbacks make no calls stays inside every such relation. -/
theorem Allows.follows {R : World α → World α → Prop} (h : Allows R) (a : App α) :
    Follows a.callbacks R :=
  ⟨h, ⟨fun _ _ => h.still rfl rfl, fun _ _ => h.still rfl rfl⟩⟩

/-- Between two worlds the state and the addresses of the socket have not changed. -/
structure Unmoved (w w' : World α) : Prop where
  this : w'.this = w.this
  bearings : bearings w'.self = bearings w.self

instance : IsPreorder (World α) Unmoved where
  refl _ := ⟨rfl, rfl⟩
  trans _ _ _ h h' := ⟨h'.this.trans h.this, h'.bearings.trans h.bearings⟩

/-- The state is the first of the bearings. -/
theorem Unmoved.state {w w' : World α} (h : Unmoved w w') : w'.self.state = w.self.state :=
  congrArg Prod.fst h.bearings

/-- The handler is the second. -/
theorem Unmoved.tcp {w w' : World α} (h : Unmoved w w') : w'.self.tcp = w.self.tcp :=
  congrArg (Prod.fst ∘ Prod.snd) h.bearings

/-- A segment without payload does not move the socket. -/
theorem unmoved_sendSegment (cb : Callbacks α) (control : UInt8) (seq ack : UInt32) :
    Proc.Within Unmoved (sendSegment cb control 0 seq ack) := by
  intro w
  obtain ⟨hthis, -, hself⟩ := sendSegment_advances cb control 0 seq ack w
  refine ⟨hthis, ?_⟩
  rcases hself with hself | hself
  · rw [hself]
  · rw [hself, advance]
    split_ifs
    · rfl
    · contradiction
    · rfl

/-- The stack does not move the socket. -/
theorem unmoved_onStack {β : Type} (x : Proc Stack β) :
    Proc.Within Unmoved (World.onStack (α := α) x) :=
  fun _ => ⟨rfl, rfl⟩

/-- The maximum segment size of the peer is none of the bearings. -/
theorem unmoved_readMSS (buf : View) (tcp_header_size : UInt8) (w : World α) :
    Unmoved w (readMSS buf tcp_header_size w) := by
  unfold readMSS
  dsimp only
  split_ifs
  · exact ⟨rfl, rfl⟩
  · exact refl_of Unmoved w
  · exact refl_of Unmoved w

/-- Neither is the number of attempts. -/
theorem unmoved_exhausted (w : World α) : Unmoved w (exhausted w).2 := ⟨rfl, rfl⟩

/-- A socket is ready to send if it is established and does not wait for an acknowledgement. -/
theorem readyToSend_iff {s : Socket} :
    s.readyToSend ↔ s.state &&& 0x0F = ESTABLISHED ∧ s.state &&& 0xF0 ≠ AWAITING_ACK := by
  rw [readyToSend, Bool.and_eq_true, beq_iff_eq, bne_iff_ne]

namespace Follows

variable {cb : Callbacks α} {R : World α → World α → Prop} [IsPreorder (World α) R]
  (h : Follows cb R)

include h

omit [IsPreorder (World α) R] in
/-- What does not move the socket is allowed. -/
theorem unmoved {w w' : World α} (hu : Unmoved w w') : R w w' := h.still hu.this hu.bearings

/-- It may come before anything else. -/
theorem unmoved_trans {w w₁ w₂ : World α} (hu : Unmoved w w₁) (hw : R w₁ w₂) : R w w₂ :=
  trans_of R (h.unmoved hu) hw

/-! ### Events and states -/

/-- An event moves the socket only if the callback does. -/
theorem fire (e : Event) (w : World α) : R w (fire cb e w) :=
  h.unmoved_trans (show Unmoved w (w.observe (.event w.this e)) from ⟨rfl, rfl⟩) (h.on e _)

/-- What is told of a new state is a sequence of events. -/
theorem announce (priorState state : UInt8) (w : World α) :
    R w (announce cb priorState state w) := by
  unfold Socket.announce
  dsimp only
  split_ifs
  · exact trans_of R (h.fire _ w) (trans_of R (h.fire _ _) (h.fire _ _))
  · exact trans_of R (h.fire _ w) (h.fire _ _)
  · exact h.fire _ w
  · exact refl_of R w

/-- A transition of the diagram, and the events it is told by. -/
theorem setState {w : World α} {state : UInt8} (hnext : Next w.self state) :
    R w (setState cb state w) :=
  trans_of R (h.next w { w.self with state := state, stateTime := w.stack.millis } hnext rfl)
    (h.announce _ _ _)

/-- A socket that is closed goes back to CLOSED or LISTEN, whichever is its `down`. -/
theorem closed (w : World α) : R w (closed cb w) := by
  have hdown : Next w.self w.self.down := .down
  rw [down] at hdown
  unfold Socket.closed
  split at hdown
  · rw [if_pos ‹_›]
    exact h.setState hdown
  · rw [if_neg ‹_›]
    exact h.setState hdown

omit [IsPreorder (World α) R] in
/-- A segment without payload may be sent in every state. -/
theorem sendSegment (control : UInt8) (seq ack : UInt32) :
    Proc.Within R (sendSegment cb control 0 seq ack) :=
  fun w => h.unmoved (unmoved_sendSegment cb control seq ack w)

/-- So may a RST. -/
theorem reset (seq ack : UInt32) : Proc.Within R (reset cb seq ack) :=
  Proc.within_read_bind fun _ => (h.sendSegment _ seq ack).bind fun _ => h.fire _

/-- A socket may be closed by force in every state. -/
theorem forceClose (w : World α) : R w (forceClose cb w) := by
  unfold Socket.forceClose
  dsimp only
  split
  · exact trans_of R (h.reset _ _ w) (h.closed _)
  · exact h.closed w

/-! ### Opening -/

variable (dns : Resolver)

/-- A name is resolved in RESOLVING, CLOSED and UNKNOWN_HOST only, and leads to one of them. -/
theorem resolveWith {connect : Proc (World α) Unit} (hconnect : Proc.Within R connect) :
    Proc.Within R (resolveWith cb dns connect) := by
  intro w
  unfold Socket.resolveWith
  rw [Proc.run_read_bind]
  by_cases hstate : w.self.state ≠ RESOLVING ∧ w.self.state ≠ CLOSED ∧
      w.self.state ≠ UNKNOWN_HOST
  · rw [if_pos hstate]
    exact refl_of R w
  rw [if_neg hstate]
  have hmem : w.self.state ∈ [RESOLVING, CLOSED, UNKNOWN_HOST] := by
    by_contra hne
    exact hstate (by simpa using hne)
  split
  · exact refl_of R w
  rename_i remoteDomain _
  refine (unmoved_onStack _).exec_bind (fun _ hu => h.unmoved hu) fun a w₁ hu => ?_
  refine h.unmoved_trans hu ?_
  rw [← hu.state] at hmem ⊢
  obtain ⟨rip, error⟩ := a
  dsimp only
  split
  · rw [Proc.run_modify_bind]
    exact h.setState (show Next _ UNKNOWN_HOST from .resolve hmem (by simp))
  split
  · exact h.setState (show Next _ RESOLVING from .resolve hmem (by simp))
  rename_i ip
  rw [Proc.run_modify_bind]
  refine trans_of R (h.remote w₁ ip hmem) ?_
  split
  · rw [Proc.run_modify_bind]
    refine trans_of R (h.closed _) ?_
    split
    · rw [Proc.run_modify_bind]
      refine trans_of R (h.still ?_ ?_) (hconnect _) <;> rfl
    · exact refl_of R _
  · exact refl_of R _

/-- A port is taken, and a SYN sent, in CLOSED only. -/
theorem connectWith {resolveIP : Proc (World α) Unit} (hresolve : Proc.Within R resolveIP) :
    Proc.Within R (connectWith cb resolveIP) := by
  refine hresolve.bind fun _ w => ?_
  rw [Proc.run_read_bind]
  split
  · exact h.still rfl rfl
  split
  · exact refl_of R w
  split
  · exact refl_of R w
  rename_i hclosed htcp
  rw [not_not] at hclosed
  have htcp : w.self.tcp.isSome := by simpa [Option.isSome_iff_ne_none] using htcp
  refine (unmoved_onStack _).exec_bind (fun _ hu => h.unmoved hu) fun port w₁ hu => ?_
  refine h.unmoved_trans hu ?_
  rw [Proc.run_modify_bind]
  rw [← hu.state] at hclosed
  rw [← hu.tcp] at htcp
  refine trans_of R (h.port w₁ port hclosed htcp) ?_
  refine (unmoved_sendSegment cb SYN 0 0).exec_bind (fun _ hu => h.unmoved hu) fun _ w₂ hu => ?_
  refine h.unmoved_trans hu ?_
  rw [Proc.run_modify_bind]
  have hattempt : Unmoved w₂ (w₂.setSelf { w₂.self with attempts := 1 }) := ⟨rfl, rfl⟩
  refine h.unmoved_trans hattempt (h.setState (.synSent ?_))
  exact hattempt.state.trans (hu.state.trans hclosed)

/-- The call of `connect` inside is `connectWith` again. -/
theorem resolveIP : Proc.Within R (resolveIP cb dns) :=
  h.resolveWith dns (h.connectWith (h.resolveWith dns Proc.within_fail))

/-- Both together. -/
theorem connect : Proc.Within R (connect cb dns) := h.connectWith (h.resolveIP dns)

/-! ### Sending data and closing -/

/-- A segment with payload is sent in ESTABLISHED only. -/
theorem sendData {w : World α} (hopen : w.self.state &&& 0x0F = ESTABLISHED) (control : UInt8)
    (length : UInt16) (seq ack : UInt32) :
    R w ((Socket.sendSegment cb control length seq ack).run w).2 := by
  obtain ⟨hthis, -, hself⟩ := sendSegment_advances cb control length seq ack w
  rcases hself with hself | hself
  · exact h.still hthis (by rw [hself])
  have hawaiting : Next w.self (w.self.state ||| AWAITING_ACK) := .awaiting hopen
  rw [advance] at hself
  split_ifs at hself
  · exact h.still hthis (by rw [hself]; rfl)
  · refine trans_of R (h.next w { w.self with
      state := w.self.state ||| AWAITING_ACK, lastDataLength := length
      localSeq := w.self.localSeq + length.toUInt32 } hawaiting rfl) (h.still hthis ?_)
    rw [hself]
    rfl
  · exact h.still hthis (by rw [hself])

/-- A payload is sent only where the socket is ready to send. -/
theorem send (length : UInt16) : Proc.Within R (send cb length) := by
  intro w
  unfold Socket.send
  rw [Proc.run_read_bind]
  split
  · exact refl_of R w
  split
  · exact refl_of R w
  rename_i hready
  have hopen : w.self.state &&& 0x0F = ESTABLISHED :=
    (readyToSend_iff.mp (by simpa using hready)).1
  split
  · exact refl_of R w
  rw [Proc.run_modify_bind]
  have hu : Unmoved w (w.setSelf { w.self with attempts := 1 }) := ⟨rfl, rfl⟩
  refine (Proc.within_query _).exec_bind (fun _ hq => h.unmoved (trans_of Unmoved hu hq))
    fun sb w₁ h₁ => ?_
  refine (Proc.within_query _).exec_bind
    (fun _ hq => h.unmoved (trans_of Unmoved hu (trans_of Unmoved h₁ hq))) fun stash w₂ h₂ => ?_
  have hu := trans_of Unmoved hu (trans_of Unmoved h₁ h₂)
  refine (unmoved_onStack _).exec_bind (fun _ hc => h.unmoved (trans_of Unmoved hu hc))
    fun _ w₃ h₃ => ?_
  have hu := trans_of Unmoved hu h₃
  have hstamp : ∀ w : World α, R w (w.setSelf { w.self with stateTime := w.stack.millis }) :=
    fun w => h.still rfl rfl
  refine trans_of R (h.unmoved hu) ?_
  have hsent := h.sendData (hu.state.symm ▸ hopen) (ACK ||| PSH) length 0 0
  rcases hrun : (Socket.sendSegment cb (ACK ||| PSH) length 0 0).run w₃ with ⟨_ | a, w₄⟩
  · rw [hrun] at hsent
    rwa [Proc.run_bind_of_none hrun]
  · rw [hrun] at hsent
    rw [Proc.run_bind_of_some hrun]
    exact trans_of R hsent (hstamp w₄)

/-- Writing the bytes first does not move the socket. -/
theorem sendBytes (data : Bytes) : Proc.Within R (sendBytes cb data) := by
  intro w
  refine (Proc.within_query _).exec_bind (fun _ hu => h.unmoved hu) fun sb w₁ h₁ => ?_
  refine h.unmoved_trans h₁ ?_
  refine (unmoved_onStack _).exec_bind (fun _ hu => h.unmoved hu) fun _ w₂ h₂ => ?_
  exact h.unmoved_trans h₂ (h.send _ w₂)

/-- The FIN leads where `stateAfterClose` says, if anywhere. -/
theorem close : Proc.Within R (close cb) := by
  intro w
  unfold Socket.close
  rw [Proc.run_read_bind]
  split
  · exact refl_of R w
  refine (unmoved_sendSegment cb (FIN ||| ACK) 0 0).exec_bind (fun _ hu => h.unmoved hu)
    fun _ w₁ h₁ => ?_
  refine h.unmoved_trans h₁ ?_
  rw [Proc.run_modify_bind, Proc.run_modify_bind]
  have hattempt : R w₁ (w₁.setSelf { w₁.self with attempts := 1 }) := h.still rfl rfl
  refine trans_of R (trans_of R hattempt ?_) (h.fire _ _)
  split
  · exact h.setState (.close ‹_›)
  · exact refl_of R _

/-! ### The timer -/

/-- A payload is sent again in ESTABLISHED only. -/
theorem resendData {w : World α} (hopen : w.self.state &&& 0x0F = ESTABLISHED) :
    R w ((resendData cb).exec w) := by
  unfold Socket.resendData
  rw [Proc.exec, Proc.run_modify_bind]
  have hu : Unmoved w (w.setSelf { w.self with
      localSeq := w.self.localSeq - w.self.lastDataLength.toUInt32 }) := ⟨rfl, rfl⟩
  refine (Proc.within_query _).exec_bind (fun _ hq => h.unmoved (trans_of Unmoved hu hq))
    fun sb w₁ h₁ => ?_
  refine (Proc.within_query _).exec_bind
    (fun _ hq => h.unmoved (trans_of Unmoved hu (trans_of Unmoved h₁ hq))) fun stash w₂ h₂ => ?_
  have hu := trans_of Unmoved hu (trans_of Unmoved h₁ h₂)
  rw [Proc.run_read_bind]
  refine (unmoved_onStack _).exec_bind (fun _ hc => h.unmoved (trans_of Unmoved hu hc))
    fun _ w₃ h₃ => ?_
  have hu := trans_of Unmoved hu h₃
  exact h.unmoved_trans hu (h.sendData (hu.state.symm ▸ hopen) ACK _ 0 0)

/-- A segment is sent again, or the socket closed by force. -/
theorem resend (control : UInt8) (w : World α) : R w (resend cb control w) := by
  have hu := unmoved_exhausted w
  unfold Socket.resend
  generalize exhausted w = x at hu ⊢
  obtain ⟨tooMany, w₁⟩ := x
  refine h.unmoved_trans hu ?_
  dsimp only
  split
  · exact h.forceClose w₁
  · refine trans_of R (h.still ?_ ?_) (h.sendSegment control 0 0 _) <;> rfl

/-- TIME_WAIT ends by itself; the other states send again. -/
theorem checkHandshake (elapsed : UInt32) (w : World α) : R w (checkHandshake cb elapsed w) := by
  unfold Socket.checkHandshake
  split_ifs
  · exact h.resend _ w
  · exact h.resend _ w
  · exact h.resend _ w
  · exact refl_of R w
  · exact h.closed w
  · exact refl_of R w

/-- The payload first, then the handshake, in whatever state that has led to. -/
theorem checkRetransmission (elapsed : UInt32) (w : World α) :
    R w (checkRetransmission cb dns elapsed w) := by
  have hu := unmoved_exhausted w
  unfold Socket.checkRetransmission
  generalize exhausted w = x at hu ⊢
  obtain ⟨tooMany, w₁⟩ := x
  dsimp only at hu ⊢
  split
  · exact refl_of R w
  split
  · exact h.resolveIP dns w
  split
  · exact refl_of R w
  split
  case isFalse => exact h.checkHandshake _ w
  case isTrue hawaiting =>
    refine h.unmoved_trans hu ?_
    split
    · exact h.forceClose w₁
    have hopen : w₁.self.state &&& 0x0F = ESTABLISHED := by
      rw [hu.state, hawaiting]
      rfl
    refine trans_of R (h.resendData hopen) ?_
    split
    · exact h.checkHandshake _ _
    · exact trans_of R (h.forceClose _) (h.checkHandshake _ _)

/-- What the timer does. -/
theorem checkState (w : World α) : R w (checkState cb dns w) := by
  unfold Socket.checkState
  dsimp only
  split_ifs
  · exact refl_of R w
  · exact refl_of R w
  · exact h.close w
  · exact trans_of R (h.forceClose w) (h.checkRetransmission dns _ _)
  · exact h.checkRetransmission dns _ w

/-! ### Receiving -/

omit [IsPreorder (World α) R] in
/-- An ACK does not move the socket. -/
theorem sendACK (w : World α) : R w (sendACK cb w) := h.sendSegment ACK 0 0 w

/-- A RST closes the socket or is ignored. -/
theorem handleReset (ack seq : UInt32) (w : World α) : R w (handleReset cb ack seq w) := by
  have hclosed : R w (Socket.fire cb (.onReset true) (Socket.closed cb w)) :=
    trans_of R (h.closed w) (h.fire _ _)
  unfold Socket.handleReset
  split_ifs
  · exact hclosed
  · exact refl_of R w
  · exact h.closed w
  · exact hclosed
  · exact refl_of R w

/-- A segment that is refused is answered by a RST. -/
theorem refuse (buf : View) (opt : UInt8) (ack seq : UInt32) (w : World α) :
    R w (refuse cb buf opt ack seq w) := by
  unfold Socket.refuse
  split
  · exact h.reset _ _ w
  · exact h.reset _ _ w

/-- A SYN in SYN_SENT leads to SYN_RECEIVED. -/
theorem simultaneousOpen (buf : View) (seq : UInt32) {w : World α} (hs : w.self.state = SYN_SENT) :
    R w (simultaneousOpen cb buf seq w) := by
  have hseq : Unmoved w (w.setSelf { w.self with remoteSeq := seq + 1 }) := ⟨rfl, rfl⟩
  unfold Socket.simultaneousOpen
  dsimp only
  split
  · exact h.unmoved hseq
  · rename_i tcp_header_size _
    have hmss := trans_of Unmoved hseq (unmoved_readMSS buf tcp_header_size _)
    refine h.unmoved_trans hmss (trans_of R (h.setState (.synReceived ?_)) (h.sendACK _))
    exact hmss.state.trans hs

/-- A SYN+ACK in SYN_SENT leads to ESTABLISHED. -/
theorem activeOpen (buf : View) (seq : UInt32) {w : World α} (hs : w.self.state = SYN_SENT) :
    R w (activeOpen cb buf seq w) := by
  have hseq : Unmoved w (w.setSelf { w.self with remoteSeq := seq + 1 }) := ⟨rfl, rfl⟩
  unfold Socket.activeOpen
  dsimp only
  split
  · exact h.unmoved hseq
  · rename_i tcp_header_size _
    have hmss := trans_of Unmoved hseq (unmoved_readMSS buf tcp_header_size _)
    have hack := trans_of Unmoved hmss (unmoved_sendSegment cb ACK 0 0 _)
    refine h.unmoved_trans hack (h.setState (.established ?_))
    rw [hack.state, hs]
    simp

/-- A payload moves the socket only if the callback does. -/
theorem handlePayload (opt : UInt8) (seq : UInt32) (payloadSize : UInt16) (payload : Bytes)
    (w : World α) : R w (handlePayload cb opt seq payloadSize payload w) := by
  have hcount : ∀ w : World α, R w (countFin opt w) := by
    intro w
    unfold countFin
    split
    · exact h.still rfl rfl
    · exact refl_of R w
  have hoffer : ∀ w : World α, R w (offerPayload cb seq payloadSize payload w) := by
    intro w
    unfold offerPayload
    dsimp only
    split_ifs
    · refine trans_of R (h.onDataReceived payload w) (h.still ?_ ?_) <;> rfl
    · refine trans_of R (h.onDataReceived payload w) (h.still ?_ ?_) <;> rfl
    · exact refl_of R w
  have hkeep : R w (w.setSelf { w.self with recvBuffer := some payload }) := h.still rfl rfl
  exact trans_of R hkeep (trans_of R (hcount _) (trans_of R (hoffer _) (h.sendACK _)))

/-- A FIN leads to CLOSE_WAIT, CLOSING or TIME_WAIT. -/
theorem finState (ack : UInt32) (w : World α) : R w (finState cb ack w) := by
  unfold Socket.finState
  split_ifs with h1 _ h2 h3
  · exact h.setState (.timeWait (by simp [h1]))
  · exact h.setState (.closing h1)
  · exact h.setState (.timeWait (by simp [h2]))
  · exact h.setState (.remoteClosed h3)
  · exact refl_of R w

/-- It is acknowledged first, and told after. -/
theorem handleFin (ack : UInt32) (payloadSize : UInt16) (w : World α) :
    R w (handleFin cb ack payloadSize w) := by
  have hack : R w (acknowledgeFin cb payloadSize w) := by
    unfold acknowledgeFin
    split
    · refine trans_of R (h.still ?_ ?_) (h.sendACK _) <;> rfl
    · exact refl_of R w
  exact trans_of R hack (trans_of R (h.finState ack _) (h.fire _ _))

/-- The payload comes before the FIN. -/
theorem handleInOrder (buf : Bytes) (opt : UInt8) (ack seq : UInt32) (tcp_header_size : UInt8)
    (w : World α) : R w (handleInOrder cb buf opt ack seq tcp_header_size w) := by
  unfold Socket.handleInOrder
  dsimp only
  split_ifs
  · exact trans_of R (h.handlePayload _ _ _ _ w) (h.handleFin _ _ _)
  · exact h.handleFin _ _ w
  · exact h.handlePayload _ _ _ _ w
  · exact refl_of R w

/-- The end of AWAITING_ACK is made of the state the callbacks have led to. -/
theorem handleEstablished (buf : Bytes) (opt : UInt8) (ack seq : UInt32) (w : World α) :
    R w (handleEstablished cb buf opt ack seq w) := by
  have hclear : ∀ w : World α, R w (clearAwaiting cb w) := fun w =>
    trans_of R (h.next w { w.self with state := w.self.state &&& 0x0F } .cleared rfl) (h.fire _ _)
  unfold Socket.handleEstablished
  dsimp only
  split
  · exact refl_of R w
  split
  · exact h.sendACK w
  split
  · exact refl_of R w
  split
  · exact trans_of R (h.handleInOrder _ _ _ _ _ w) (hclear _)
  · exact h.handleInOrder _ _ _ _ _ w

/-- An acknowledgement of everything sent, outside ESTABLISHED. -/
theorem handleAck (w : World α) : R w (handleAck cb w) := by
  unfold Socket.handleAck
  split_ifs with h1 h2 h3
  · exact h.setState (.established (by simp [h1]))
  · exact h.setState (.halfClosed h2)
  · exact h.setState (.timeWait (by simp [h3]))
  · exact h.closed w
  · exact refl_of R w

/-- The whole cascade but for the SYN of a listener. -/
theorem handleValid (buf : Bytes) {opt : UInt8} (ack seq : UInt32) {w : World α}
    (hs : ¬ (w.self.state = LISTEN ∧ opt = SYN)) : R w (handleValid cb buf opt ack seq w) := by
  unfold Socket.handleValid
  split_ifs
  · exact h.refuse _ _ _ _ w
  · exact h.refuse _ _ _ _ w
  · exact h.reset _ _ w
  · exact h.sendACK w
  · exact h.sendACK w
  · exact h.handleReset _ _ w
  · rename_i hsyn
    exact h.simultaneousOpen _ _ hsyn.1
  · rename_i hsent
    exact h.activeOpen _ _ hsent.1
  · exact h.handleEstablished _ _ _ _ w
  · exact h.handleAck w
  · exact h.forceClose w

/-- A segment, in every state but LISTEN. -/
theorem handleSegment (sourceIP : IPAddr) (buf : Bytes) {w : World α}
    (hs : w.self.state ≠ LISTEN) : R w (handleSegment cb sourceIP buf w) := by
  have hnote : ∀ opt window, Unmoved w (takeNote sourceIP opt window
      (w.setSelf { w.self with recvBuffer := some [] })) := by
    refine fun opt window => ⟨rfl, ?_⟩
    show (_, _, _, _, ite _ _ _, _) = _
    rw [if_neg fun hl => hs hl.1]
    rfl
  unfold Socket.handleSegment
  dsimp only
  split
  case h_2 => exact h.still rfl rfl
  case h_1 opt ack seq window _ _ _ _ =>
    have hu := hnote opt window
    split
    · exact h.unmoved_trans hu (h.still rfl rfl)
    split
    · refine h.unmoved_trans hu (h.handleValid buf ack seq fun hl => hs ?_)
      exact hu.state.symm.trans hl.1
    · exact h.unmoved hu

end Follows

/-! ### A listener -/

/-- What a listener keeps of its bearings when a SYN opens it. -/
def home (s : Socket) : Option ℕ × UInt16 × UInt16 × IPAddr :=
  (s.tcp, s.listenPort, s.localPort, s.remoteIP)

/-- Between two worlds a listener has stayed one; the remote port may have changed. -/
structure StaysHome (w w' : World α) : Prop where
  this : w'.this = w.this
  home : home w'.self = home w.self
  state : w'.self.state = w.self.state

instance : IsPreorder (World α) StaysHome where
  refl _ := ⟨rfl, rfl, rfl⟩
  trans _ _ _ h h' := ⟨h'.this.trans h.this, h'.home.trans h.home, h'.state.trans h.state⟩

/-- A socket that has not moved has stayed at home. -/
theorem Unmoved.staysHome {w w' : World α} (h : Unmoved w w') : StaysHome w w' := by
  obtain ⟨hthis, hb⟩ := h
  simp only [Socket.bearings, Prod.mk.injEq] at hb
  exact ⟨hthis, by simp only [Socket.home, hb], hb.1⟩

/-- A passive open captures the remote port; the socket gets to SYN_RECEIVED if the answer is
sent, and stays where it is otherwise. -/
structure Captures (port : Option UInt16) (w w' : World α) : Prop where
  this : w'.this = w.this
  home : home w'.self = home w.self
  state : w'.self.state = w.self.state ∨
    w'.self.state = SYN_RECEIVED ∧ port = some w'.self.remotePort

/-- A SYN that is not answered leaves the listener where it is. -/
theorem StaysHome.captures {w w' : World α} (h : StaysHome w w') (port : Option UInt16) :
    Captures port w w' :=
  ⟨h.this, h.home, .inl h.state⟩

/-- Before it is captured, a listener may have stayed at home. -/
theorem StaysHome.trans_captures {port : Option UInt16} {w w₁ w₂ : World α}
    (h : StaysHome w w₁) (h' : Captures port w₁ w₂) : Captures port w w₂ := by
  refine ⟨h'.this.trans h.this, h'.home.trans h.home, ?_⟩
  rw [← h.state]
  exact h'.state

/-- The answer to a SYN, once the remote port is known. -/
theorem captures_answer (cb : Callbacks α) (port : UInt16) (w : World α) :
    Captures (some port) w
      (if (sendSegment cb (SYN ||| ACK) 0 0 0).succeeds
          (w.setSelf { w.self with remotePort := port }) then
        let w₃ := setState cb SYN_RECEIVED ((sendSegment cb (SYN ||| ACK) 0 0 0).exec
          (w.setSelf { w.self with remotePort := port }))
        w₃.setSelf { w₃.self with attempts := 1 }
      else (sendSegment cb (SYN ||| ACK) 0 0 0).exec
        (w.setSelf { w.self with remotePort := port })) := by
  have hport : StaysHome w (w.setSelf { w.self with remotePort := port }) := ⟨rfl, rfl, rfl⟩
  have hsent := unmoved_sendSegment cb (SYN ||| ACK) 0 0
    (w.setSelf { w.self with remotePort := port })
  have hhome := trans_of StaysHome hport hsent.staysHome
  split
  · refine ⟨hhome.this, hhome.home, .inr ⟨rfl, ?_⟩⟩
    have hcaptured := congrArg (fun b => some b.2.2.2.2.2) hsent.bearings
    exact hcaptured.symm
  · exact hhome.captures _

/-- A passive open captures the port the SYN comes from. -/
theorem captures_passiveOpen (cb : Callbacks α) (buf : View) (seq : UInt32) (w : World α) :
    Captures (buf.readNet16 0) w (passiveOpen cb buf seq w) := by
  unfold passiveOpen
  dsimp only
  split
  · exact ⟨rfl, rfl, .inl rfl⟩
  split
  · exact ⟨rfl, rfl, .inl rfl⟩
  have hmss : ∀ size (w₁ : World α), StaysHome w w₁ → StaysHome w (readMSS buf size w₁) :=
    fun size w₁ h => trans_of StaysHome h (unmoved_readMSS buf size w₁).staysHome
  split
  · refine StaysHome.captures (hmss _ _ ?_) _
    exact ⟨rfl, rfl, rfl⟩
  · rename_i port hport
    rw [hport]
    refine StaysHome.trans_captures (hmss _ _ ?_) (captures_answer cb port _)
    exact ⟨rfl, rfl, rfl⟩

/-- A SYN in LISTEN gets through to the passive open. -/
theorem captures_handleValid {cb : Callbacks α} {buf : Bytes} {ack seq : UInt32} {w : World α}
    (hs : w.self.state = LISTEN) :
    Captures ((viewOf buf).readNet16 0) w (handleValid cb buf SYN ack seq w) := by
  have hclosed : ¬ (w.self.state = CLOSED ∧ ¬ has SYN RST) := by rw [hs]; decide
  have hrefused : ¬ (w.self.state = LISTEN ∧ ¬ has SYN SYN ∧ ¬ has SYN RST) := by
    rw [hs]
    decide
  have hsync : ¬ synchronized w.self.state := by rw [hs]; decide
  have hack : ¬ has SYN ACK := by decide
  have hrst : ¬ has SYN RST := by decide
  unfold handleValid
  rw [if_neg hclosed, if_neg hrefused, if_neg fun h => hack h.2.1, if_neg fun h => hsync h.1,
    if_neg fun h => hsync h.1, if_neg hrst, if_pos ⟨hs, rfl⟩]
  exact captures_passiveOpen cb (viewOf buf) seq w

/-- A segment in LISTEN may set the remote address; apart from that it is a passive open or
stays inside the relation. -/
theorem handleSegment_listen {cb : Callbacks α} {R : World α → World α → Prop}
    [IsPreorder (World α) R] (h : Follows cb R) (sourceIP : IPAddr) (buf : Bytes) {w : World α}
    (hs : w.self.state = LISTEN) :
    ∃ w₁ : World α, w₁.this = w.this ∧
      bearings w₁.self = bearings { w.self with remoteIP := w₁.self.remoteIP } ∧
      (R w₁ (handleSegment cb sourceIP buf w) ∨ w₁.self.remoteIP = sourceIP ∧
        Captures ((viewOf buf).readNet16 0) w₁ (handleSegment cb sourceIP buf w)) := by
  unfold handleSegment
  dsimp only
  split
  case h_2 => exact ⟨w, rfl, rfl, .inl (h.still rfl rfl)⟩
  case h_1 opt ack seq window _ _ _ _ =>
    refine ⟨takeNote sourceIP opt window (w.setSelf { w.self with recvBuffer := some [] }),
      rfl, rfl, ?_⟩
    split
    · exact .inl (h.still rfl rfl)
    split
    · by_cases hopt : opt = SYN
      · subst hopt
        exact .inr ⟨if_pos ⟨hs, rfl⟩, captures_handleValid hs⟩
      · exact .inl (h.handleValid buf ack seq fun hl => hopt hl.2)
    · exact .inl (refl_of R _)

end Socket

end AtmegaNet
