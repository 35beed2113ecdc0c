import AtmegaNet.Reactions
import AtmegaNet.SendData

/-!
# The payload a socket waits for

While a socket awaits an ACK, its fields and its stash say what `resendData` would send. A
`Ledger` remembers for every socket the number and the bytes of the payload it has transmitted
last, as they were when `send` transmitted it. A socket is `Faithful` if the two agree and it has
the buffers it needs for a retransmission.

The ledger is written by the calls of `send` only, those that an application makes in its events
included: a `Reaction` is carried out as in `Reactions`, with the ledger in the place of the count.

## Main results

* `Retains`: between two worlds a faithful socket stays faithful, and what the other sockets have
  in their stashes and in the ledger does not change.
* `retains_record`: a call does this, and `Subclass.respects_retains` says so of the callbacks of a
  subclass.
* `retains_handleSegment`, `retains_checkState`: so do a segment and the timer.
-/

open Procedure

namespace AtmegaNet

/-! ### The buffers of a stack -/

/-- Between two stacks the sizes of the buffers are the same, and so is the content of the
outbound buffer, which the stashes are made of. -/
structure Stack.Spares (h h' : Stack) : Prop where
  sendSize : h'.sendSize = h.sendSize
  outboundSize : h'.outboundSize = h.outboundSize
  outbound : h'.mem .outbound = h.mem .outbound

/-- The room for a segment depends on the size of the send buffer only. -/
theorem Stack.room_congr {h h' : Stack} (hsize : h'.sendSize = h.sendSize) : h'.room = h.room := by
  rw [Stack.room, Stack.room, hsize]

/-- So does the window for IP payloads. -/
theorem Stack.ipPayload_congr {h h' : Stack} (hsize : h'.sendSize = h.sendSize) :
    h'.ipPayload = h.ipPayload := by
  unfold Stack.ipPayload etherPayload sendBuffer
  rw [hsize]

namespace Stack.Spares

variable {h h' : Stack}

instance : IsPreorder Stack Stack.Spares where
  refl _ := ⟨rfl, rfl, rfl⟩
  trans _ _ _ h h' := ⟨h'.sendSize.trans h.sendSize, h'.outboundSize.trans h.outboundSize,
    h'.outbound.trans h.outbound⟩

/-- The room for a segment is spared. -/
theorem room (hs : Spares h h') : h'.room = h.room := Stack.room_congr hs.sendSize

/-- So is the window for IP payloads. -/
theorem ipPayload (hs : Spares h h') : h'.ipPayload = h.ipPayload :=
  Stack.ipPayload_congr hs.sendSize

end Stack.Spares

namespace Socket

variable {α : Type}

/-! ### The ledger -/

/-- For each socket the number and the bytes of the payload it has transmitted last. -/
abbrev Ledger := ℕ → Option (UInt32 × Bytes)

/-- What a socket would send again is what the ledger says, and it can be sent. -/
structure Kept (w : World (α × Ledger)) : Prop where
  handler : w.self.tcp.isSome
  nonempty : w.self.lastDataLength ≠ 0
  stash : ∃ b, w.self.stash = some b ∧ w.self.lastDataLength ≤ b.size ∧
    w.app.2 w.this = some (w.self.localSeq - w.self.lastDataLength.toUInt32,
      Region.read w.stack.mem b.root b.base w.self.lastDataLength.toNat)
  room : w.self.lastDataLength.toNat + 20 ≤ w.stack.room

/-- A socket with a handler has its buffers, and one that awaits an ACK what it waits for. -/
structure Faithful (w : World (α × Ledger)) : Prop where
  geared : w.self.tcp.isSome → Geared w
  kept : w.self.state = ESTABLISHED ||| AWAITING_ACK → Kept w

/-- Between two worlds the socket has its handler and its buffers still, and neither the stashes of
other sockets nor their entries in the ledger have changed. -/
structure Apart (w w' : World (α × Ledger)) : Prop where
  this : w'.this = w.this
  tcp : w'.self.tcp = w.self.tcp
  stash : w'.self.stash = w.self.stash
  sendBuffer : w'.self.sendBuffer = w.self.sendBuffer
  sendSize : w'.stack.sendSize = w.stack.sendSize
  outboundSize : w'.stack.outboundSize = w.stack.outboundSize
  outbound : ∀ a, (∀ b, w.self.stash = some b → a < b.base ∨ b.base + b.size.toNat ≤ a) →
    w'.stack.mem .outbound a = w.stack.mem .outbound a
  others : ∀ j, j ≠ w.this → w'.app.2 j = w.app.2 j

/-- Between two worlds a sound socket has stayed sound, and apart from the others. -/
def Retains (w w' : World (α × Ledger)) : Prop := Faithful w → Faithful w' ∧ Apart w w'

/-- Another socket has been left alone twice. -/
theorem Apart.trans {w w₁ w₂ : World (α × Ledger)} (h : Apart w w₁) (h' : Apart w₁ w₂) :
    Apart w w₂ where
  this := h'.this.trans h.this
  tcp := h'.tcp.trans h.tcp
  stash := h'.stash.trans h.stash
  sendBuffer := h'.sendBuffer.trans h.sendBuffer
  sendSize := h'.sendSize.trans h.sendSize
  outboundSize := h'.outboundSize.trans h.outboundSize
  outbound a ha := (h'.outbound a (by rwa [h.stash])).trans (h.outbound a ha)
  others j hj := (h'.others j (by rwa [h.this])).trans (h.others j hj)

instance : IsPreorder (World (α × Ledger)) Retains where
  refl _ hs := ⟨hs, ⟨rfl, rfl, rfl, rfl, rfl, rfl, fun _ _ => rfl, fun _ _ => rfl⟩⟩
  trans _ _ _ h h' hs :=
    ⟨(h' (h hs).1).1, (h hs).2.trans (h' (h hs).1).2⟩

/-! ### Changes that keep the buffers -/

/-- Between two worlds the ledger, the handler and the buffers of the socket, and all stashes have
not changed. -/
structure Undisturbed (w w' : World (α × Ledger)) : Prop where
  this : w'.this = w.this
  ledger : w'.app.2 = w.app.2
  stack : w.stack.Spares w'.stack
  gear : (w'.self.tcp, w'.self.stash, w'.self.sendBuffer) =
    (w.self.tcp, w.self.stash, w.self.sendBuffer)

instance : IsPreorder (World (α × Ledger)) Undisturbed where
  refl w := ⟨rfl, rfl, refl_of Stack.Spares w.stack, rfl⟩
  trans _ _ _ h h' := ⟨h'.this.trans h.this, h'.ledger.trans h.ledger,
    trans_of Stack.Spares h.stack h'.stack, h'.gear.trans h.gear⟩

namespace Undisturbed

/-- The fields that make up the gear have been kept. -/
theorem setSelf (w : World (α × Ledger)) {s : Socket}
    (h : (s.tcp, s.stash, s.sendBuffer) = (w.self.tcp, w.self.stash, w.self.sendBuffer)) :
    Undisturbed w (w.setSelf s) :=
  ⟨rfl, rfl, refl_of Stack.Spares w.stack, h⟩

/-- What is observed disturbs nothing. -/
theorem observe (w : World (α × Ledger)) (o : Obs) : Undisturbed w (w.observe o) :=
  ⟨rfl, rfl, ⟨rfl, rfl, rfl⟩, rfl⟩

variable {w w' : World (α × Ledger)} (h : Undisturbed w w')

include h

/-- The handler is part of the gear. -/
theorem tcp : w'.self.tcp = w.self.tcp := congrArg Prod.fst h.gear

/-- So is the stash. -/
theorem stash : w'.self.stash = w.self.stash := congrArg (fun g => g.2.1) h.gear

/-- So is the buffer for the data to send. -/
theorem sendBuffer : w'.self.sendBuffer = w.self.sendBuffer := congrArg (fun g => g.2.2) h.gear

/-- What leaves the ledger and the outbound buffer alone is apart from the other sockets. -/
theorem apart : Apart w w' where
  this := h.this
  tcp := h.tcp
  stash := h.stash
  sendBuffer := h.sendBuffer
  sendSize := h.stack.sendSize
  outboundSize := h.stack.outboundSize
  outbound a _ := congrFun h.stack.outbound a
  others _ _ := by rw [h.ledger]

/-- A socket that has not been disturbed has its buffers still. -/
theorem geared (hg : w.self.tcp.isSome → Geared w) : w'.self.tcp.isSome → Geared w' := by
  intro htcp
  have hg := hg (by rwa [← h.tcp])
  refine ⟨htcp, ?_, by rw [h.stash]; exact hg.stash⟩
  rw [h.sendBuffer, h.stack.ipPayload]
  exact hg.sendBuffer

/-- A socket that does not await an ACK afterwards has nothing to agree with. -/
theorem retains_of_ne (hne : w'.self.state ≠ ESTABLISHED ||| AWAITING_ACK) : Retains w w' :=
  fun hs => ⟨⟨h.geared hs.geared, fun hstate => absurd hstate hne⟩, h.apart⟩

/-- What a socket would send again has not changed. -/
theorem retains (hsame : (w'.self.state, w'.self.localSeq, w'.self.lastDataLength) =
    (w.self.state, w.self.localSeq, w.self.lastDataLength)) : Retains w w' := by
  obtain ⟨hstate, hrest⟩ := Prod.mk.inj hsame
  obtain ⟨hlocal, hlength⟩ := Prod.mk.inj hrest
  refine fun hs => ⟨⟨h.geared hs.geared, fun hwait => ?_⟩, h.apart⟩
  obtain ⟨hhandler, hpos, ⟨b, hb, hle, hentry⟩, hroom⟩ := hs.kept (hstate.symm.trans hwait)
  obtain ⟨b', hb', -, hroot⟩ := (hs.geared hhandler).stash
  obtain rfl : b = b' := Option.some.inj (hb.symm.trans hb')
  refine ⟨by rwa [h.tcp], by rwa [hlength], ⟨b, h.stash.trans hb, by rwa [hlength], ?_⟩, ?_⟩
  · rw [h.ledger, h.this, hentry, hlocal, hlength, hroot]
    refine congrArg (fun d => some (_, d)) (Region.read_congr fun i _ => ?_)
    rw [h.stack.outbound]
  · rw [hlength, h.stack.room]
    exact hroom

end Undisturbed

/-- A change to other fields of the socket. -/
theorem retains_setSelf {w : World (α × Ledger)} {s : Socket}
    (hgear : (s.tcp, s.stash, s.sendBuffer) = (w.self.tcp, w.self.stash, w.self.sendBuffer))
    (hsame : (s.state, s.localSeq, s.lastDataLength) =
      (w.self.state, w.self.localSeq, w.self.lastDataLength)) : Retains w (w.setSelf s) :=
  (Undisturbed.setSelf w hgear).retains hsame

/-- An observation is none of what a socket would send again. -/
theorem retains_observe (w : World (α × Ledger)) (o : Obs) : Retains w (w.observe o) :=
  (Undisturbed.observe w o).retains rfl

/-! ### Segments without payload -/

/-- What changes the send buffer, the log, the routes and the timers only spares the rest. -/
theorem spares_of_rest {h h' : Stack} (hrest : h' = { h with
      mem := h'.mem, log := h'.log, arp := h'.arp, etherControl := h'.etherControl })
    (hother : ∀ r, r ≠ .send → h'.mem r = h.mem r) : h.Spares h' := by
  refine ⟨?_, ?_, hother _ (by decide)⟩ <;> rw [hrest]

/-- A segment without payload leaves the stash and the ledger alone. -/
theorem undisturbed_sendSegment (cb : Callbacks (α × Ledger)) (control : UInt8) (seq ack : UInt32) :
    Proc.Within Undisturbed (sendSegment cb control 0 seq ack) := by
  intro w
  obtain ⟨hthis, happ, hself⟩ := sendSegment_advances cb control 0 seq ack w
  have hgear : ∀ s : Socket, ((advance control 0 s).tcp, (advance control 0 s).stash,
      (advance control 0 s).sendBuffer) = (s.tcp, s.stash, s.sendBuffer) := by
    intro s
    unfold advance
    split_ifs <;> rfl
  refine ⟨hthis, congrArg Prod.snd happ, ?_, ?_⟩
  · by_cases htcp : w.self.tcp.isSome
    · by_cases hroom : 20 + (optionBytes control w.stack).length ≤ w.stack.room
      · have h := (sendSegment_transmitted cb control 0 seq ack htcp (by simpa using hroom)).2
        exact spares_of_rest h.rest h.other
      · have h := (sendSegment_short cb control seq ack w htcp (by omega)).2
        refine spares_of_rest ?_ h.other
        rw [h.rest]
    · have hnone : w.self.tcp.isNone = true := by simpa using htcp
      unfold sendSegment
      rw [Proc.run_read_bind, if_pos hnone]
      exact ⟨rfl, rfl, rfl⟩
  · rcases hself with hself | hself
    · rw [hself]
    · rw [hself, hgear]

/-- It does not change the state either. -/
theorem state_sendSegment (cb : Callbacks α) (control : UInt8) (seq ack : UInt32) (w : World α) :
    ((sendSegment cb control 0 seq ack).exec w).self.state = w.self.state :=
  (unmoved_sendSegment cb control seq ack w).state

section Calls

variable {cb : Callbacks (α × Ledger)} {w : World (α × Ledger)}

/-- A SYN or a FIN advances the socket, which must not await an ACK then. -/
theorem retains_sendSegment {control : UInt8} (seq ack : UInt32)
    (h : ¬ has control SYN ∧ ¬ has control FIN ∨ w.self.state ≠ ESTABLISHED ||| AWAITING_ACK) :
    Retains w ((sendSegment cb control 0 seq ack).exec w) := by
  have hkept : Undisturbed w ((sendSegment cb control 0 seq ack).exec w) :=
    undisturbed_sendSegment cb control seq ack w
  rcases h with ⟨hsyn, hfin⟩ | hne
  · refine hkept.retains ?_
    rw [sendSegment_self cb seq ack w hsyn hfin]
  · refine hkept.retains_of_ne ?_
    rwa [state_sendSegment]

/-- An ACK does not advance the socket. -/
theorem retains_sendACK : Retains w (sendACK cb w) :=
  retains_sendSegment 0 0 (.inl ⟨by decide, by decide⟩)

/-! ### Events and states -/

variable (h : Respects cb Retains)

include h

/-- An event is observed before the callback is called. -/
theorem retains_fire (e : Event) (w : World (α × Ledger)) : Retains w (fire cb e w) :=
  trans_of Retains (retains_observe w _) (h.on e _)

/-- What is told of a new state is a sequence of events. -/
theorem retains_announce (priorState state : UInt8) (w : World (α × Ledger)) :
    Retains w (announce cb priorState state w) := by
  unfold announce
  dsimp only
  split_ifs
  · exact trans_of Retains (retains_fire h _ w)
      (trans_of Retains (retains_fire h _ _) (retains_fire h _ _))
  · exact trans_of Retains (retains_fire h _ w) (retains_fire h _ _)
  · exact retains_fire h _ w
  · exact refl_of Retains w

/-- Only `send` leads to AWAITING_ACK, and it does not use `setState`. -/
theorem retains_setState (state : UInt8) (hne : state ≠ ESTABLISHED ||| AWAITING_ACK)
    (w : World (α × Ledger)) : Retains w (setState cb state w) := by
  refine trans_of Retains ?_ (retains_announce h _ _ _)
  exact (Undisturbed.setSelf w (s := { w.self with state := state, stateTime := w.stack.millis })
    rfl).retains_of_ne hne

/-- A socket that is closed does not await an ACK. -/
theorem retains_closed (w : World (α × Ledger)) : Retains w (closed cb w) := by
  unfold closed
  split
  · exact retains_setState h _ (by decide) w
  · exact retains_setState h _ (by decide) w

/-- A RST does not advance the socket. -/
theorem retains_reset (seq ack : UInt32) : Proc.Within Retains (reset cb seq ack) := by
  refine Proc.within_read_bind fun remoteSeq => .bind (fun w => ?_) fun _ => retains_fire h _
  refine retains_sendSegment seq ack (.inl ?_)
  split <;> exact ⟨by decide, by decide⟩

/-- Neither does closing it by force. -/
theorem retains_forceClose (w : World (α × Ledger)) : Retains w (forceClose cb w) := by
  unfold forceClose
  dsimp only
  split
  · exact trans_of Retains (retains_reset h _ _ w) (retains_closed h _)
  · exact retains_closed h w

/-! ### Opening and closing -/

section Opening

variable {dns : Resolver} (hdns : ∀ d h, Stack.Spares h (dns d h).2)

include hdns

/-- A name is resolved while no payload is outstanding. -/
theorem retains_resolveWith {connect : Proc (World (α × Ledger)) Unit}
    (hconnect : Proc.Within Retains connect) :
    Proc.Within Retains (resolveWith cb dns connect) := by
  refine Proc.within_read_bind fun self => .ite Proc.within_fail ?_
  split
  · exact Proc.within_pure ()
  rename_i remoteDomain _
  refine .bind (fun w => ?_) fun a => ?_
  · exact Undisturbed.retains ⟨rfl, rfl, hdns remoteDomain w.stack, rfl⟩ rfl
  obtain ⟨rip, error⟩ := a
  have hunknown : Proc.Within Retains (Proc.modify (setState cb UNKNOWN_HOST)) :=
    retains_setState h UNKNOWN_HOST (by decide)
  have hresolving : Proc.Within Retains (Proc.modify (setState cb RESOLVING)) :=
    retains_setState h RESOLVING (by decide)
  refine .ite (hunknown.bind fun _ => Proc.within_fail) ?_
  split
  · exact hresolving
  refine .bind (fun w => retains_setSelf rfl rfl) fun _ => .ite ?_ (Proc.within_pure ())
  refine .bind (retains_closed h) fun _ => .ite ?_ (Proc.within_pure ())
  exact .bind (fun w => retains_setSelf rfl rfl) fun _ => hconnect

omit hdns in
/-- The SYN is sent from CLOSED, which does not await an ACK. -/
theorem retains_connectWith {resolveIP : Proc (World (α × Ledger)) Unit}
    (hresolve : Proc.Within Retains resolveIP) :
    Proc.Within Retains (connectWith cb resolveIP) := by
  refine hresolve.bind fun _ w => ?_
  rw [Proc.run_read_bind]
  split
  · exact retains_setSelf rfl rfl
  split
  · exact refl_of Retains w
  split
  · exact refl_of Retains w
  rename_i hclosed _
  rw [not_not] at hclosed
  have hport : (World.onStack ⟨fun h => (some (IPHandler.getPort h).1,
      (IPHandler.getPort h).2)⟩ : Proc (World (α × Ledger)) UInt16).run w =
        (some (IPHandler.getPort w.stack).1,
          { w with stack := (IPHandler.getPort w.stack).2 }) := rfl
  rw [Proc.run_bind_of_some hport, Proc.run_modify_bind]
  generalize hw₁ : World.setSelf _ _ = w₁
  have hkept : Undisturbed w w₁ := by
    rw [← hw₁]
    exact ⟨rfl, rfl, ⟨rfl, rfl, rfl⟩, rfl⟩
  have hstate : w₁.self.state = CLOSED := by
    rw [← hw₁]
    exact hclosed
  have hne : w₁.self.state ≠ ESTABLISHED ||| AWAITING_ACK := by
    rw [hstate]
    decide
  refine trans_of Retains (hkept.retains_of_ne hne) ?_
  refine Proc.related_bind (retains_sendSegment 0 0 (.inr hne)) fun _ w₂ _ => ?_
  rw [Proc.run_modify_bind]
  have hattempts : Retains w₂ (w₂.setSelf { w₂.self with attempts := 1 }) :=
    retains_setSelf rfl rfl
  exact trans_of Retains hattempts (retains_setState h SYN_SENT (by decide) _)

/-- The call of `connect` inside is `connectWith` again. -/
theorem retains_resolveIP : Proc.Within Retains (resolveIP cb dns) :=
  retains_resolveWith h hdns (retains_connectWith h (retains_resolveWith h hdns Proc.within_fail))

/-- Both together. -/
theorem retains_connect : Proc.Within Retains (connect cb dns) :=
  retains_connectWith h (retains_resolveIP h hdns)

end Opening

omit h in
/-- Neither does the state that `close` leads to await an ACK, nor have the buffers changed. -/
theorem undisturbed_closing (cb : Callbacks (α × Ledger)) (w : World (α × Ledger)) :
    Undisturbed w (closing cb w) ∧ (closing cb w).self.state ≠ ESTABLISHED ||| AWAITING_ACK := by
  have hstate := (closing_quiet cb w).2.2
  refine ⟨?_, fun h => ?_⟩
  · unfold closing
    split
    case h_1 state hstate =>
      obtain ⟨hmem, hopen⟩ := Client.stateAfterClose_open hstate
      rw [Client.setState_quiet (fun h => absurd h (Client.openStates_spec hmem).2.1) hopen]
      exact ⟨rfl, rfl, refl_of Stack.Spares _, rfl⟩
    case h_2 => exact ⟨rfl, rfl, refl_of Stack.Spares _, rfl⟩
  · refine stateAfterClose_getD w.self.state ?_
    rw [← hstate, h]
    decide

/-- The FIN of a socket that awaits an ACK is sent all the same, and ends the wait. -/
theorem retains_close : Proc.Within Retains (close cb) := by
  intro w
  by_cases hclosed : w.self.localClosed
  · rw [close_idle hclosed]
    exact refl_of Retains w
  have hkept : Undisturbed w ((sendSegment cb (FIN ||| ACK) 0 0 0).exec w) :=
    undisturbed_sendSegment cb _ _ _ w
  rcases close_cases cb hclosed with hrun | ⟨-, hrun⟩
  · rw [hrun]
    by_cases hwait : w.self.state = ESTABLISHED ||| AWAITING_ACK
    · -- there is room for a payload, hence for a FIN
      intro hs
      have hkept := hs.kept hwait
      have hsent := (sendSegment_transmitted cb (FIN ||| ACK) 0 0 0 hkept.handler
        (Nat.le_trans (Nat.le_add_left _ _) hkept.room)).1
      unfold close at hrun
      rw [Proc.run_read_bind, if_neg hclosed, Proc.run_bind_of_some (Prod.ext hsent rfl)] at hrun
      exact absurd (congrArg Prod.fst hrun) (by simp)
    · exact retains_sendSegment 0 0 (.inr hwait)
  · rw [hrun]
    obtain ⟨hclosing, hne⟩ := undisturbed_closing cb ((sendSegment cb (FIN ||| ACK) 0 0 0).exec w)
    exact trans_of Retains ((trans_of Undisturbed hkept hclosing).retains_of_ne hne)
      (retains_fire h _ _)

end Calls

/-! ### Sending -/

/-- The number and the bytes of the segment in a packet. -/
def dataOf (packet : IPAddr × UInt8 × Bytes) : UInt32 × Bytes :=
  (segSeq packet.2.2, segPayload packet.2.2)

/-- What has been transmitted of the payload `d`: what the packet says that has left the host, or
would have said if there had been a route. -/
def firstSent (w w' : World α) (d : Bytes) : UInt32 × Bytes :=
  match packetsOf (w'.stack.log.drop w.stack.log.length) with
  | packet :: _ => dataOf packet
  | [] => (w.self.localSeq, d)

/-- Between two worlds a payload has been transmitted: the socket has come to await its ACK. -/
def transmits (w w' : World α) : Bool :=
  w.self.state != ESTABLISHED ||| AWAITING_ACK && w'.self.state == ESTABLISHED ||| AWAITING_ACK

/-- A payload that has been transmitted is entered in the ledger. -/
def enter (w w' : World (α × Ledger)) (d : Bytes) : World (α × Ledger) :=
  if transmits w w' then { w' with
    app := (w'.app.1, Function.update w'.app.2 w.this (some (firstSent w w' d))) }
  else w'

/-- If all packets of a call carry one payload, that is the one sent first. -/
theorem firstSent_eq {w w' : World α} {d : Bytes} {l : List Obs}
    (hlog : w'.stack.log = w.stack.log ++ l)
    (hl : ∀ p ∈ packetsOf l, dataOf p = (w.self.localSeq, d)) :
    firstSent w w' d = (w.self.localSeq, d) := by
  unfold firstSent
  rw [hlog, List.drop_left]
  split
  case h_1 packet rest hpackets => exact hl packet (by rw [hpackets]; exact List.mem_cons_self)
  case h_2 => rfl

/-- A call that leaves the state as it is has transmitted no payload. -/
theorem transmits_of_eq {w w' : World α} (h : w'.self.state = w.self.state) :
    transmits w w' = false := by
  unfold transmits
  rw [h]
  cases hstate : w.self.state == ESTABLISHED ||| AWAITING_ACK <;> simp_all [bne]

/-- Then nothing is entered. -/
theorem enter_of_eq {w w' : World (α × Ledger)} (h : w'.self.state = w.self.state) (d : Bytes) :
    enter w w' d = w' := by
  rw [enter, transmits_of_eq h]
  rfl

/-- A socket that is ready to send does not await an ACK, and does when it has sent. -/
theorem awaiting_of_ready {s : Socket} (h : s.readyToSend) :
    s.state ≠ ESTABLISHED ||| AWAITING_ACK ∧
      s.state ||| AWAITING_ACK = ESTABLISHED ||| AWAITING_ACK := by
  have hall : ∀ state : UInt8, state &&& 0x0F = ESTABLISHED ∧ state &&& 0xF0 ≠ AWAITING_ACK →
      state ≠ ESTABLISHED ||| AWAITING_ACK ∧
        state ||| AWAITING_ACK = ESTABLISHED ||| AWAITING_ACK :=
    forall_uint8 (by decide +kernel)
  exact hall s.state (readyToSend_iff.mp h)

/-- Between two worlds the first bytes of the data buffer have been transmitted, with a copy in the
stash. -/
structure Sent (length : UInt16) (stash : Buffer) (w w' : World α) : Prop where
  this : w'.this = w.this
  app : w'.app = w.app
  gear : (w'.self.tcp, w'.self.stash, w'.self.sendBuffer) =
    (w.self.tcp, w.self.stash, w.self.sendBuffer)
  state : w'.self.state = ESTABLISHED ||| AWAITING_ACK
  lastDataLength : w'.self.lastDataLength = length
  localSeq : w'.self.localSeq = w.self.localSeq + length.toUInt32
  sendSize : w'.stack.sendSize = w.stack.sendSize
  outboundSize : w'.stack.outboundSize = w.stack.outboundSize
  outbound : w'.stack.mem .outbound = Region.write w.stack.mem .outbound stash.base
    (Region.read w.stack.mem .send 54 length.toNat) .outbound
  log : ∃ l, w'.stack.log = w.stack.log ++ l ∧
    ∀ p ∈ packetsOf l, dataOf p = (w.self.localSeq, Region.read w.stack.mem .send 54 length.toNat)

/-- A payload that can be sent is stashed and leaves with the number of the socket. -/
theorem send_sent (cb : Callbacks α) {length : UInt16} {w : World α} {b : Buffer}
    (hg : Geared w) (hsend : Sendable length w) (hb : w.self.stash = some b)
    (hroot : b.root = .outbound) : Sent length b w ((send cb length).exec w) := by
  obtain ⟨w₁, hsent, hrun⟩ := send_run cb hg hsend hb
  have hroom : length.toNat + 20 ≤
      (stashData b length (w.setSelf { w.self with attempts := 1 })).stack.room := hsend.room
  obtain ⟨l, hlog, hpackets, -⟩ := Transmitted.segment cb (.inr rfl) hroom hsent
  have hself := hsent.self
  have hpos : length > 0 := by
    rw [gt_iff_lt, UInt16.lt_iff_toNat_lt]
    exact Nat.pos_of_ne_zero fun hzero => hsend.nonempty (UInt16.toNat_inj.mp hzero)
  rw [advance, if_neg (by decide), if_pos hpos] at hself
  rw [Proc.exec, hrun]
  have hmem : ∀ a, Region.read (stashData b length
      (w.setSelf { w.self with attempts := 1 })).stack.mem .send 54 a =
        Region.read w.stack.mem .send 54 a := fun a =>
    Region.read_write_region _ (by rw [hroot]; decide) _ _ _ _
  refine ⟨hsent.this, hsent.app, ?_, ?_, ?_, ?_, ?_, ?_, ?_, l, hlog, fun p hp => ?_⟩
  · show (w₁.self.tcp, w₁.self.stash, w₁.self.sendBuffer) = _
    rw [hself]
    rfl
  · show w₁.self.state = _
    rw [hself]
    exact (awaiting_of_ready hsend.ready).2
  · show w₁.self.lastDataLength = _
    rw [hself]
  · show w₁.self.localSeq = _
    rw [hself]
    rfl
  · show w₁.stack.sendSize = _
    rw [hsent.rest]
    rfl
  · show w₁.stack.outboundSize = _
    rw [hsent.rest]
    rfl
  · show w₁.stack.mem .outbound = _
    rw [hsent.other _ (by decide), ← hroot]
    rfl
  · have hseg := hpackets p hp
    rw [hmem] at hseg
    exact Prod.ext hseg.seq (hseg.payload (by decide : ¬ has (ACK ||| PSH) FIN)).1

/-- `send` enters what it transmits. -/
theorem retains_send (cb : Callbacks (α × Ledger)) {length : UInt16} {w : World (α × Ledger)}
    {d : Bytes} (hd : Sendable length w → Region.read w.stack.mem .send 54 length.toNat = d) :
    Retains w (enter w ((send cb length).exec w) d) := by
  intro hs
  by_cases hcan : w.self.tcp.isSome ∧ Sendable length w
  case neg =>
    have hsame : (send cb length).exec w = w ∨
        (send cb length).exec w = w.setSelf { w.self with attempts := 1 } :=
      send_unsent cb hs.geared hcan
    have hstate : ((send cb length).exec w).self.state = w.self.state := by
      rcases hsame with hsame | hsame
      · rw [hsame]
      · rw [hsame]
        rfl
    rw [enter_of_eq hstate]
    rcases hsame with hsame | hsame
    · rw [hsame]
      exact refl_of Retains w hs
    · rw [hsame]
      exact retains_setSelf rfl rfl hs
  obtain ⟨htcp, hsend⟩ := hcan
  have hg := hs.geared htcp
  obtain ⟨b, hb, hfits, hroot⟩ := hg.stash
  have hsent := send_sent cb hg hsend hb hroot
  obtain ⟨l, hlog, hpackets⟩ := hsent.log
  rw [hd hsend] at hpackets
  have hfirst := firstSent_eq hlog hpackets
  have hlen : d.length = length.toNat := by rw [← hd hsend, Region.length_read]
  have hsize := UInt16.le_iff_toNat_le.mp (UInt16.le_trans hsend.limit (getMaxSendPayload_le hb))
  have htransmits : transmits w ((send cb length).exec w) = true := by
    rw [transmits, Bool.and_eq_true, bne_iff_ne, beq_iff_eq]
    exact ⟨(awaiting_of_ready hsend.ready).1, hsent.state⟩
  rw [enter, if_pos htransmits, hfirst]
  generalize (send cb length).exec w = w' at hsent
  have hout := hsent.outbound
  rw [hd hsend] at hout
  have hroom : w'.stack.room = w.stack.room := Stack.room_congr hsent.sendSize
  have hpayload : w'.stack.ipPayload = w.stack.ipPayload := Stack.ipPayload_congr hsent.sendSize
  obtain ⟨htcp', hrest⟩ := Prod.mk.inj hsent.gear
  obtain ⟨hstash', hbuffer'⟩ := Prod.mk.inj hrest
  have hread : Region.read w'.stack.mem b.root b.base length.toNat = d := by
    rw [hroot, ← hlen]
    exact (Region.read_congr fun i _ => by rw [hout]).trans (Region.read_write_self _ _ _ _)
  refine ⟨⟨fun _ => ⟨?_, ?_, b, ?_, hfits, hroot⟩, fun _ => ⟨?_, ?_, ⟨b, ?_, ?_, ?_⟩, ?_⟩⟩,
    ⟨hsent.this, htcp', hstash', hbuffer', hsent.sendSize, hsent.outboundSize, fun a ha => ?_,
      fun j hj => ?_⟩⟩
  · exact htcp' ▸ htcp
  · exact hbuffer'.trans (hg.sendBuffer.trans (by rw [hpayload]))
  · exact hstash'.trans hb
  · exact htcp' ▸ htcp
  · exact hsent.lastDataLength ▸ hsend.nonempty
  · exact hstash'.trans hb
  · exact hsent.lastDataLength ▸ UInt16.le_iff_toNat_le.mpr hsize
  · show Function.update w'.app.2 w.this (some (w.self.localSeq, d)) w'.this =
      some (w'.self.localSeq - w'.self.lastDataLength.toUInt32,
        Region.read w'.stack.mem b.root b.base w'.self.lastDataLength.toNat)
    rw [hsent.this, Function.update_self, hsent.lastDataLength, hsent.localSeq, hread,
      UInt32.add_sub_cancel]
  · show w'.self.lastDataLength.toNat + 20 ≤ w'.stack.room
    rw [hsent.lastDataLength, hroom]
    exact hsend.room
  · show w'.stack.mem .outbound a = _
    rw [hout]
    have hfar := ha b hb
    exact Region.write_out _ _ _ (by omega)
  · exact (Function.update_of_ne hj _ _).trans (congrFun (congrArg Prod.snd hsent.app) j)

/-- What `enter` looks at in the world before. -/
theorem enter_congr {w w₁ w' : World (α × Ledger)} (hthis : w₁.this = w.this)
    (hself : w₁.self = w.self) (hlog : w₁.stack.log = w.stack.log) (d : Bytes) :
    enter w w' d = enter w₁ w' d := by
  unfold enter transmits firstSent
  rw [hthis, hself, hlog]

/-- The payload of `send(data, length)` is written to the data buffer first. -/
theorem retains_sendBytes (cb : Callbacks (α × Ledger)) (data : Bytes) (w : World (α × Ledger)) :
    Retains w (enter w ((sendBytes cb data).exec w)
      (data.take (Buffer.lengthOf data).toNat)) := by
  intro hs
  by_cases htcp : w.self.tcp.isSome
  case neg =>
    have hnone : w.self.tcp.isNone = true := by simpa using htcp
    have hbuffer : (Proc.query fun w : World (α × Ledger) => w.self.getSendDataBuffer).run w =
        (none, w) := by
      rw [Proc.run_query, getSendDataBuffer, if_pos hnone]
    have hrun : (sendBytes cb data).exec w = w := by
      unfold sendBytes
      rw [Proc.exec, Proc.run_bind_of_none hbuffer]
    rw [hrun, enter_of_eq rfl]
    exact refl_of Retains w hs
  have hg := hs.geared htcp
  have hbuffer : (Proc.query fun w : World (α × Ledger) => w.self.getSendDataBuffer).run w =
      (some (dataBuffer w.stack), w) := by
    rw [Proc.run_query, hg.getSendDataBuffer]
  rcases write_run data w with hwrite | hwrite
  · have hrun : (sendBytes cb data).exec w = w := by
      unfold sendBytes
      rw [Proc.exec, Proc.run_bind_of_some hbuffer, Proc.run_bind_of_none hwrite]
    rw [hrun, enter_of_eq rfl]
    exact refl_of Retains w hs
  · generalize hw₁ : { w with stack := { w.stack with
        mem := Region.write w.stack.mem .send (dataBuffer w.stack).base data } } = w₁ at hwrite
    have hkept : Undisturbed w w₁ := by
      rw [← hw₁]
      exact ⟨rfl, rfl, ⟨rfl, rfl, outbound_write w.stack.mem (dataBuffer w.stack).base data⟩, rfl⟩
    have hself : w₁.self = w.self := by rw [← hw₁]
    have hlog : w₁.stack.log = w.stack.log := by rw [← hw₁]
    have hrun : (sendBytes cb data).exec w = (send cb (Buffer.lengthOf data)).exec w₁ := by
      unfold sendBytes
      rw [Proc.exec, Proc.run_bind_of_some hbuffer, Proc.run_bind_of_some hwrite]
      rfl
    rw [hrun, enter_congr hkept.this hself hlog]
    have hsame : Retains w w₁ := hkept.retains (by rw [hself])
    refine trans_of Retains hsame (retains_send cb fun hsend => ?_) hs
    have hbase : (dataBuffer w.stack).base = 54 := by
      refine base_dataBuffer ?_
      have hle := hsend.room
      rw [hkept.stack.room] at hle
      omega
    have hle : (Buffer.lengthOf data).toNat ≤ data.length := Nat.mod_le _ _
    rw [← hw₁, hbase, ← Region.take_read _ _ _ hle]
    exact congrArg _ (Region.read_write_self _ _ _ _)

/-! ### Calls and reactions -/

/-- The payload of a call that sends one. -/
def Call.payload (c : Call) (w : World α) : Option Bytes :=
  match c with
  | .send length => some (Region.read w.stack.mem .send 54 length.toNat)
  | .sendBytes data => some (data.take (Buffer.lengthOf data).toNat)
  | _ => none

/-- A call, whose payload is entered in the ledger if it is transmitted. -/
def Call.record (cb : Callbacks (α × Ledger)) (c : Call) (w : World (α × Ledger)) :
    World (α × Ledger) :=
  match c.payload w with
  | some d => enter w (c.run cb w).2 d
  | none => (c.run cb w).2

/-- A call an application can make: its resolver and its settings leave the buffers alone, and it
does not register the socket. -/
def Call.Fair (c : Call) (w : World α) : Prop :=
  match c with
  | .connect dns => ∀ d h, Stack.Spares h (dns d h).2
  | .configure s => (s.tcp, s.stash, s.sendBuffer) = (w.self.tcp, w.self.stash, w.self.sendBuffer) ∧
      (s.localSeq, s.lastDataLength) = (w.self.localSeq, w.self.lastDataLength)
  | .listen => False
  | _ => True

/-- A reaction that makes such calls, and leaves the buffers alone otherwise. -/
def Reaction.Fair : Reaction α → World α → Prop
  | .done _, _ => True
  | .work app stack next, w =>
      w.stack.Spares stack ∧ next.Fair { w with app := app, stack := stack }
  | .call c next, w => c.Fair w ∧ ∀ ok w', (next ok w').Fair w'

/-- The world as an application sees it, without the ledger. -/
def shown (w : World (α × Ledger)) : World α := ⟨w.this, w.self, w.stack, w.app.1⟩

/-- Carry a reaction out. -/
def Reaction.record (cb : Callbacks (α × Ledger)) :
    Reaction α → World (α × Ledger) → Bool × World (α × Ledger)
  | .done accepted, w => (accepted, w)
  | .work app stack next, w => next.record cb { w with app := (app, w.app.2), stack := stack }
  | .call c next, w =>
      (next (c.run cb w).1 (shown (c.record cb w))).record cb (c.record cb w)

/-- The virtual functions of a subclass on a stack with room for `depth` events within each
other. -/
def Subclass.recording (a : Subclass α) : ℕ → Callbacks (α × Ledger)
  | 0 => ⟨fun _ w => w, fun _ w => (false, w), fun app => a.getApplicationWindowSize app.1⟩
  | depth + 1 =>
      ⟨fun e w => ((a.on e (shown w)).record (a.recording depth) w).2,
        fun data w => (a.onDataReceived data (shown w)).record (a.recording depth) w,
        fun app => a.getApplicationWindowSize app.1⟩

/-- A subclass whose events leave the buffers alone but for the data they send. -/
structure Subclass.Fair (a : Subclass α) : Prop where
  on : ∀ e w, (a.on e w).Fair w
  onDataReceived : ∀ d w, (a.onDataReceived d w).Fair w

section Reactions

variable {cb : Callbacks (α × Ledger)} (h : Respects cb Retains)

include h

/-- Every call keeps a socket faithful. -/
theorem retains_record {c : Call} {w : World (α × Ledger)} (hc : c.Fair (shown w)) :
    Retains w (c.record cb w) := by
  cases c with
  | connect dns => exact retains_connect h hc w
  | send length => exact retains_send cb fun _ => rfl
  | sendBytes data => exact retains_sendBytes cb data w
  | close => exact retains_close h w
  | forceClose => exact retains_forceClose h w
  | configure s =>
    obtain ⟨hgear, hsame⟩ := hc
    obtain ⟨hlocal, hlength⟩ := Prod.mk.inj hsame
    refine retains_setSelf hgear ?_
    show (w.self.state, s.localSeq, s.lastDataLength) = _
    rw [hlocal, hlength]
    rfl
  | listen => exact absurd hc id

/-- So does a reaction, by induction on the calls that it makes. -/
theorem retains_reaction (r : Reaction α) {w : World (α × Ledger)} (hr : r.Fair (shown w)) :
    Retains w (r.record cb w).2 := by
  induction r generalizing w with
  | done accepted => exact refl_of Retains w
  | work app stack next ih =>
    obtain ⟨hspares, hnext⟩ := hr
    have hwork : Undisturbed w { w with app := (app, w.app.2), stack := stack } :=
      ⟨rfl, rfl, hspares, rfl⟩
    exact trans_of Retains (hwork.retains rfl) (ih hnext)
  | call c next ih =>
    obtain ⟨hc, hnext⟩ := hr
    exact trans_of Retains (retains_record h hc) (ih _ _ (hnext _ _))

end Reactions

/-- The callbacks of a subclass do what its reactions do, however deep its events lie within each
other. -/
theorem Subclass.respects_retains (a : Subclass α) (ha : a.Fair) (depth : ℕ) :
    Respects (a.recording depth) Retains := by
  induction depth with
  | zero => exact ⟨fun _ w => refl_of Retains w, fun _ w => refl_of Retains w⟩
  | succ depth ih =>
    exact ⟨fun e w => retains_reaction ih _ (ha.on e _),
      fun d w => retains_reaction ih _ (ha.onDataReceived d _)⟩

/-! ### The timer -/

/-- `resendData` sends the payload `d` with the number `seq`, in one packet if there is a route. -/
structure Resends (cb : Callbacks α) (seq : UInt32) (d : Bytes) (w : World α) : Prop where
  succeeds : (resendData cb).succeeds w
  length : d.length = w.self.lastDataLength.toNat
  packets : ∃ l, ((resendData cb).exec w).stack.log = w.stack.log ++ l ∧
    (∀ p ∈ packetsOf l,
      IsSegment w.self (w.stack.mem .send 46) ⟨ACK, seq, w.self.remoteSeq, d⟩ p) ∧
    ((IPHandler.getMACForIP w.self.remoteIP w.stack).isSome → (packetsOf l).length = 1)

section Timer

variable {cb : Callbacks (α × Ledger)} (h : Respects cb Retains)

include h

/-- A handshake segment is sent again in states that do not await an ACK. -/
theorem retains_resend (control : UInt8) {w : World (α × Ledger)}
    (hne : w.self.state ≠ ESTABLISHED ||| AWAITING_ACK) : Retains w (resend cb control w) := by
  have hcount : Retains w (exhausted w).2 := retains_setSelf rfl rfl
  unfold resend
  dsimp only
  split
  · exact trans_of Retains hcount (retains_forceClose h _)
  · generalize hw₁ : (exhausted w).2.setSelf _ = w₁
    have hkept : Undisturbed w w₁ := by
      rw [← hw₁]
      exact ⟨rfl, rfl, refl_of Stack.Spares _, rfl⟩
    have hne₁ : w₁.self.state ≠ ESTABLISHED ||| AWAITING_ACK := by
      rw [← hw₁]
      exact hne
    exact trans_of Retains (hkept.retains_of_ne hne₁) (retains_sendSegment 0 0 (.inr hne₁))

omit h in
/-- What is sent again leaves the socket as it was, to be sent again once more. -/
theorem retains_resendData (cb : Callbacks (α × Ledger)) {w : World (α × Ledger)}
    (hwait : w.self.state = ESTABLISHED ||| AWAITING_ACK) :
    Retains w ((resendData cb).exec w) := by
  intro hs
  obtain ⟨htcp, hnonempty, ⟨b, hb, hle, -⟩, hroom⟩ := hs.kept hwait
  have hresent := (resendData_run cb (hs.geared htcp) hb hnonempty hle hroom).2
  have hself := hresent.self
  have hpos : w.self.lastDataLength > 0 := by
    rw [gt_iff_lt, UInt16.lt_iff_toNat_lt]
    exact Nat.pos_of_ne_zero fun hzero => hnonempty (UInt16.toNat_inj.mp hzero)
  rw [advance, if_neg (by decide), if_pos hpos] at hself
  have hspares : w.stack.Spares ((resendData cb).exec w).stack := by
    refine ⟨?_, ?_, ?_⟩
    · rw [hresent.rest]
      rfl
    · rw [hresent.rest]
      rfl
    · exact (hresent.other _ (by decide)).trans (outbound_unstashData b _ _)
  have hkept : Undisturbed w ((resendData cb).exec w) := by
    refine ⟨hresent.this, congrArg Prod.snd hresent.app, hspares, ?_⟩
    rw [hself]
    rfl
  refine hkept.retains ?_ hs
  rw [hself]
  show (w.self.state ||| AWAITING_ACK, w.self.localSeq - w.self.lastDataLength.toUInt32 +
    w.self.lastDataLength.toUInt32, w.self.lastDataLength) = _
  rw [hwait, UInt32.sub_add_cancel]
  rfl

omit h in
/-- What is sent again is what the ledger says. -/
theorem Faithful.resends {w : World (α × Ledger)} (hs : Faithful w) (cb : Callbacks (α × Ledger))
    (hwait : w.self.state = ESTABLISHED ||| AWAITING_ACK) :
    ∃ seq d, w.app.2 w.this = some (seq, d) ∧ Resends cb seq d w := by
  obtain ⟨htcp, hnonempty, ⟨b, hb, hle, hentry⟩, hroom⟩ := hs.kept hwait
  obtain ⟨hsucceeds, hresent⟩ := resendData_run cb (hs.geared htcp) hb hnonempty hle hroom
  refine ⟨_, _, hentry, hsucceeds, by rw [Region.length_read], ?_⟩
  generalize hw₁ : unstashData b w.self.lastDataLength _ = w₁ at hresent
  have hroom₁ : w.self.lastDataLength.toNat + 20 ≤ w₁.stack.room := by
    rw [← hw₁]
    exact hroom
  obtain ⟨l, hlog, hsegment, hone⟩ := Transmitted.segment cb (.inl rfl) hroom₁ hresent
  have hread : Region.read w₁.stack.mem .send 54 w.self.lastDataLength.toNat =
      Region.read w.stack.mem b.root b.base w.self.lastDataLength.toNat := by
    rw [← hw₁]
    exact Region.read_write_eq _ _ _ (Region.length_read _ _ _ _).symm
  have hleft : w₁.stack.mem .send 46 = w.stack.mem .send 46 := by
    rw [← hw₁]
    exact Region.write_out w.stack.mem .send 54
      (d := Region.read w.stack.mem b.root b.base w.self.lastDataLength.toNat)
      (.inl (by decide : 46 < 54))
  have hself : w₁.self = { w.self with
      localSeq := w.self.localSeq - w.self.lastDataLength.toUInt32 } := by
    rw [← hw₁]
    rfl
  rw [hread, hleft, hself] at hsegment
  refine ⟨l, ?_, fun p hp => ?_, fun hroute => ?_⟩
  · rw [hlog, ← hw₁]
    rfl
  · obtain ⟨hip, hprotocol, hsource, hdest, hcontrol, hseq, hack, hpayload, hfin⟩ := hsegment p hp
    exact ⟨hip, hprotocol, hsource, hdest, hcontrol, hseq, hack, hpayload, hfin⟩
  · refine hone ?_
    rw [← hw₁]
    exact hroute

/-- The states of `checkHandshake` are among them. -/
theorem retains_checkHandshake (elapsed : UInt32) (w : World (α × Ledger)) :
    Retains w (checkHandshake cb elapsed w) := by
  have hne : ∀ {state : UInt8}, state ∈ [SYN_SENT, SYN_RECEIVED, FIN_WAIT_1, CLOSING] →
      state ≠ ESTABLISHED ||| AWAITING_ACK := by decide
  unfold checkHandshake
  refine iteInduction (fun hsent => retains_resend h _ (hne (by simp [hsent]))) fun _ => ?_
  refine iteInduction (fun hreceived => retains_resend h _ (hne (by simp [hreceived]))) fun _ => ?_
  refine iteInduction (fun hfin => retains_resend h _ (hne ?_)) fun _ => ?_
  · rcases hfin with hfin | hfin <;> simp [hfin]
  refine iteInduction (fun _ => refl_of Retains w) fun _ => ?_
  exact iteInduction (fun _ => retains_closed h w) fun _ => refl_of Retains w

/-- The payload is sent again from the stash, before the handshake is looked at. -/
theorem retains_checkRetransmission {dns : Resolver} (hdns : ∀ d h, Stack.Spares h (dns d h).2)
    (elapsed : UInt32) (w : World (α × Ledger)) :
    Retains w (checkRetransmission cb dns elapsed w) := by
  have hcount : Retains w (exhausted w).2 := retains_setSelf rfl rfl
  unfold checkRetransmission
  refine iteInduction (fun _ => refl_of Retains w) fun _ => ?_
  refine iteInduction (fun _ => retains_resolveIP h hdns w) fun _ => ?_
  refine iteInduction (fun _ => refl_of Retains w) fun _ => ?_
  refine iteInduction (fun hwait => ?_) fun _ => retains_checkHandshake h elapsed w
  dsimp only
  split
  · exact trans_of Retains hcount (retains_forceClose h _)
  · have hresent : Retains w ((resendData cb).exec (exhausted w).2) :=
      trans_of Retains hcount (retains_resendData cb hwait)
    refine trans_of Retains ?_ (retains_checkHandshake h elapsed _)
    split
    · exact hresent
    · exact trans_of Retains hresent (retains_forceClose h _)

/-- The whole of the timer. -/
theorem retains_checkState {dns : Resolver} (hdns : ∀ d h, Stack.Spares h (dns d h).2)
    (w : World (α × Ledger)) : Retains w (checkState cb dns w) := by
  have hretry := fun w => retains_checkRetransmission h hdns (w.stack.millis - w.self.stateTime) w
  unfold checkState
  dsimp only
  split_ifs
  · exact refl_of Retains w
  · exact refl_of Retains w
  · exact retains_close h w
  · exact trans_of Retains (retains_forceClose h w) (retains_checkRetransmission h hdns _ _)
  · exact retains_checkRetransmission h hdns _ w

end Timer

/-! ### Segments -/

section Segments

variable {cb : Callbacks (α × Ledger)} (h : Respects cb Retains)

/-- The maximum segment size of the peer is not part of what is sent again. -/
theorem retains_readMSS (buf : View) (tcp_header_size : UInt8) (w : World (α × Ledger)) :
    Retains w (readMSS buf tcp_header_size w) := by
  unfold readMSS
  dsimp only
  split_ifs
  · exact retains_setSelf rfl rfl
  · exact refl_of Retains w
  · exact refl_of Retains w

/-- Reading the option does not change the state. -/
theorem state_readMSS (buf : View) (tcp_header_size : UInt8) (w : World α) :
    (readMSS buf tcp_header_size w).self.state = w.self.state := by
  unfold readMSS
  dsimp only
  split_ifs
  · rfl
  · rfl
  · rfl

include h

/-- A segment that is refused is answered by a RST. -/
theorem retains_refuse (buf : View) (opt : UInt8) (ack seq : UInt32) (w : World (α × Ledger)) :
    Retains w (refuse cb buf opt ack seq w) := by
  unfold refuse
  split
  · exact retains_reset h _ _ w
  · exact retains_reset h _ _ w

/-- A RST closes the socket, or changes nothing. -/
theorem retains_handleReset (ack seq : UInt32) (w : World (α × Ledger)) :
    Retains w (handleReset cb ack seq w) := by
  have hfired : Retains w (fire cb (.onReset true) (closed cb w)) :=
    trans_of Retains (retains_closed h w) (retains_fire h _ _)
  unfold handleReset
  split_ifs
  · exact hfired
  · exact refl_of Retains w
  · exact retains_closed h w
  · exact hfired
  · exact refl_of Retains w

/-- A listener does not await an ACK when it sends its SYN. -/
theorem retains_passiveOpen (buf : View) (seq : UInt32) {w : World (α × Ledger)}
    (hlisten : w.self.state = LISTEN) : Retains w (passiveOpen cb buf seq w) := by
  have hport : ∀ (w : World (α × Ledger)) (port : UInt16),
      Retains w (w.setSelf { w.self with remotePort := port }) := fun w _ => retains_setSelf rfl rfl
  have hattempts : ∀ w : World (α × Ledger),
      Retains w (w.setSelf { w.self with attempts := 1 }) := fun w => retains_setSelf rfl rfl
  have hseq : Retains w (w.setSelf { w.self with remoteSeq := seq + 1 }) := retains_setSelf rfl rfl
  unfold passiveOpen
  dsimp only
  refine trans_of Retains hseq ?_
  split
  · exact refl_of Retains _
  rename_i port _
  refine trans_of Retains (hport _ port) ?_
  split
  · exact refl_of Retains _
  rename_i tcp_header_size _
  refine trans_of Retains (retains_readMSS buf tcp_header_size _) ?_
  split
  · exact refl_of Retains _
  rename_i port' _
  refine trans_of Retains (hport _ port') ?_
  generalize hw₁ : World.setSelf (readMSS buf tcp_header_size _) _ = w₁
  have hne : w₁.self.state ≠ ESTABLISHED ||| AWAITING_ACK := by
    have hstate : w₁.self.state = LISTEN := by
      rw [← hw₁]
      exact (state_readMSS buf tcp_header_size _).trans hlisten
    rw [hstate]
    decide
  have hsent : Retains w₁ ((sendSegment cb (SYN ||| ACK) 0 0 0).exec w₁) :=
    retains_sendSegment 0 0 (.inr hne)
  split
  · exact trans_of Retains hsent
      (trans_of Retains (retains_setState h SYN_RECEIVED (by decide) _) (hattempts _))
  · exact hsent

/-- A SYN in SYN_SENT leads to SYN_RECEIVED. -/
theorem retains_simultaneousOpen (buf : View) (seq : UInt32) (w : World (α × Ledger)) :
    Retains w (simultaneousOpen cb buf seq w) := by
  have hseq : Retains w (w.setSelf { w.self with remoteSeq := seq + 1 }) := retains_setSelf rfl rfl
  unfold simultaneousOpen
  dsimp only
  refine trans_of Retains hseq ?_
  split
  · exact refl_of Retains _
  · exact trans_of Retains (retains_readMSS buf _ _)
      (trans_of Retains (retains_setState h _ (by decide) _) retains_sendACK)

/-- A SYN+ACK leads to ESTABLISHED, without anything to wait for. -/
theorem retains_activeOpen (buf : View) (seq : UInt32) (w : World (α × Ledger)) :
    Retains w (activeOpen cb buf seq w) := by
  have hseq : Retains w (w.setSelf { w.self with remoteSeq := seq + 1 }) := retains_setSelf rfl rfl
  unfold activeOpen
  dsimp only
  refine trans_of Retains hseq ?_
  split
  · exact refl_of Retains _
  · exact trans_of Retains (retains_readMSS buf _ _)
      (trans_of Retains retains_sendACK (retains_setState h _ (by decide) _))

/-- What arrives is not what has been sent. -/
theorem retains_handlePayload (opt : UInt8) (seq : UInt32) (payloadSize : UInt16) (payload : Bytes)
    (w : World (α × Ledger)) : Retains w (handlePayload cb opt seq payloadSize payload w) := by
  have hcount : ∀ w : World (α × Ledger), Retains w (countFin opt w) := by
    intro w
    unfold countFin
    split
    · exact retains_setSelf rfl rfl
    · exact refl_of Retains w
  have hoffer : ∀ w : World (α × Ledger),
      Retains w (offerPayload cb seq payloadSize payload w) := by
    intro w
    unfold offerPayload
    dsimp only
    split_ifs
    · refine trans_of Retains (h.onDataReceived payload w) ?_
      have haccepted : ∀ w : World (α × Ledger), Retains w (w.setSelf { w.self with
          remoteSeq := seq + payloadSize.toUInt32, stateTime := w.stack.millis }) :=
        fun w => retains_setSelf rfl rfl
      exact trans_of Retains (retains_observe _ _) (haccepted _)
    · exact trans_of Retains (h.onDataReceived payload w) (retains_observe _ _)
    · exact refl_of Retains w
  have hbuffer : Retains w (w.setSelf { w.self with recvBuffer := some payload }) :=
    retains_setSelf rfl rfl
  exact trans_of Retains hbuffer
    (trans_of Retains (hcount _) (trans_of Retains (hoffer _) retains_sendACK))

/-- The states behind a FIN do not await an ACK. -/
theorem retains_handleFin (ack : UInt32) (payloadSize : UInt16) (w : World (α × Ledger)) :
    Retains w (handleFin cb ack payloadSize w) := by
  have hacknowledge : Retains w (acknowledgeFin cb payloadSize w) := by
    unfold acknowledgeFin
    split
    · have hseq : Retains w (w.setSelf { w.self with remoteSeq := w.self.remoteSeq + 1 }) :=
        retains_setSelf rfl rfl
      exact trans_of Retains hseq retains_sendACK
    · exact refl_of Retains w
  have hstate : ∀ w : World (α × Ledger), Retains w (finState cb ack w) := by
    intro w
    unfold finState
    split_ifs
    · exact retains_setState h _ (by decide) w
    · exact retains_setState h _ (by decide) w
    · exact retains_setState h _ (by decide) w
    · exact retains_setState h _ (by decide) w
    · exact refl_of Retains w
  exact trans_of Retains hacknowledge (trans_of Retains (hstate _) (retains_fire h _ _))

/-- The payload comes before the FIN. -/
theorem retains_handleInOrder (buf : Bytes) (opt : UInt8) (ack seq : UInt32)
    (tcp_header_size : UInt8) (w : World (α × Ledger)) :
    Retains w (handleInOrder cb buf opt ack seq tcp_header_size w) := by
  unfold handleInOrder
  dsimp only
  split_ifs
  · exact trans_of Retains (retains_handlePayload h _ _ _ _ w) (retains_handleFin h _ _ _)
  · exact retains_handleFin h _ _ w
  · exact retains_handlePayload h _ _ _ _ w
  · exact refl_of Retains w

/-- Once a payload is acknowledged the socket has nothing to agree with. -/
theorem retains_clearAwaiting (w : World (α × Ledger)) : Retains w (clearAwaiting cb w) := by
  have hall : ∀ state : UInt8, state &&& 0x0F ≠ ESTABLISHED ||| AWAITING_ACK :=
    forall_uint8 (by decide +kernel)
  have hcleared : Undisturbed w (w.setSelf { w.self with state := w.self.state &&& 0x0F }) :=
    Undisturbed.setSelf w rfl
  exact trans_of Retains (hcleared.retains_of_ne (hall _)) (retains_fire h _ _)

/-- An acknowledgement is the end of the wait, anything else goes on with it. -/
theorem retains_handleEstablished (buf : Bytes) (opt : UInt8) (ack seq : UInt32)
    (w : World (α × Ledger)) : Retains w (handleEstablished cb buf opt ack seq w) := by
  unfold handleEstablished
  dsimp only
  split_ifs
  · exact refl_of Retains w
  · exact retains_sendACK
  · split
    · exact refl_of Retains w
    · exact trans_of Retains (retains_handleInOrder h _ _ _ _ _ w) (retains_clearAwaiting h _)
  · split
    · exact refl_of Retains w
    · exact retains_handleInOrder h _ _ _ _ _ w

/-- An acknowledgement of everything sent, outside ESTABLISHED. -/
theorem retains_handleAck (w : World (α × Ledger)) : Retains w (handleAck cb w) := by
  unfold handleAck
  split_ifs
  · exact retains_setState h _ (by decide) w
  · exact retains_setState h _ (by decide) w
  · exact retains_setState h _ (by decide) w
  · exact retains_closed h w
  · exact refl_of Retains w

/-- The cascade, branch by branch. -/
theorem retains_handleValid (buf : Bytes) (opt : UInt8) (ack seq : UInt32)
    (w : World (α × Ledger)) : Retains w (handleValid cb buf opt ack seq w) := by
  unfold handleValid
  refine iteInduction (fun _ => retains_refuse h _ _ _ _ w) fun _ => ?_
  refine iteInduction (fun _ => retains_refuse h _ _ _ _ w) fun _ => ?_
  refine iteInduction (fun _ => retains_reset h _ _ w) fun _ => ?_
  refine iteInduction (fun _ => retains_sendACK) fun _ => ?_
  refine iteInduction (fun _ => retains_sendACK) fun _ => ?_
  refine iteInduction (fun _ => retains_handleReset h _ _ w) fun _ => ?_
  refine iteInduction (fun hlisten => retains_passiveOpen h _ _ hlisten.1) fun _ => ?_
  refine iteInduction (fun _ => retains_simultaneousOpen h _ _ w) fun _ => ?_
  refine iteInduction (fun _ => retains_activeOpen h _ _ w) fun _ => ?_
  refine iteInduction (fun _ => retains_handleEstablished h _ _ _ _ w) fun _ => ?_
  exact iteInduction (fun _ => retains_handleAck h w) fun _ => retains_forceClose h w

/-- Noting the window and the address comes before the cascade. -/
theorem retains_handleSegment (sourceIP : IPAddr) (buf : Bytes) (w : World (α × Ledger)) :
    Retains w (handleSegment cb sourceIP buf w) := by
  unfold handleSegment
  dsimp only
  split
  case h_2 => exact retains_setSelf rfl rfl
  case h_1 opt ack seq window _ _ _ _ =>
    have hnote : Retains w (takeNote sourceIP opt window
        (w.setSelf { w.self with recvBuffer := some [] })) := retains_setSelf rfl rfl
    split_ifs
    · exact trans_of Retains hnote (retains_observe _ _)
    · exact trans_of Retains hnote (retains_handleValid h buf opt ack seq _)
    · exact hnote

end Segments

end Socket

end AtmegaNet
