import AtmegaNet.HandleSegment

/-!
# What a socket does, one change at a time

A function of `Socket` changes the fields of its socket, lets the stack send frames, ask for
routes and take ports, and calls the callbacks. `Serves` lists the changes to the stack one by
one, `Frames` says of a relation on worlds that it allows every single change; a relation that
does is preserved by every function of the socket. An invariant needs to look at the single
changes only.

## Main results

* `Serves.of_requestMACAddress`, `Serves.of_sendPacket`: the stack makes no other changes.
* `Frames.connect`, `Frames.send`, `Frames.sendBytes`, `Frames.close`, `Frames.forceClose`,
  `Frames.checkState`: the calls and the timer stay inside such a relation.
* `Frames.handleSegment`: so does a segment, opening a connection apart.
-/

open Procedure

namespace AtmegaNet

/-! ### The stack -/

/-- The changes a stack makes on behalf of a socket. -/
inductive Serves (h : Stack) : Stack → Prop
  | refl : Serves h h
  /-- A write into a buffer. -/
  | mem {h' : Stack} (m : Memory) : Serves h h' → Serves h { h' with mem := m }
  /-- A frame or a packet. -/
  | output {h' : Stack} {o : Obs} : o.isOutput → Serves h h' →
      Serves h { h' with log := h'.log ++ [o] }
  /-- An entry of the routing table. -/
  | route {h' : Stack} (table : List EtherRoute) : Serves h h' →
      Serves h { h' with arp := { h'.arp with routingTable := table } }
  /-- The timer of the ARP handler. -/
  | timer {h' : Stack} : h'.arp.timer = 0 → Serves h h' →
      Serves h { (EtherControl.registerTimer .arp 250 h').2 with
        arp := { (EtherControl.registerTimer .arp 250 h').2.arp with
          timer := (EtherControl.registerTimer .arp 250 h').1 } }
  /-- A local port. -/
  | port {h' : Stack} (nextPort : UInt16) : Serves h h' →
      Serves h { h' with ip := { h'.ip with nextPort := nextPort } }

namespace Serves

variable {h h₁ h₂ : Stack}

/-- Two stretches of changes, one behind the other. -/
theorem trans (hs : Serves h h₁) (hs' : Serves h₁ h₂) : Serves h h₂ := by
  induction hs' with
  | refl => exact hs
  | mem m _ ih => exact ih.mem m
  | output ho _ ih => exact ih.output ho
  | route table _ ih => exact ih.route table
  | timer ht _ ih => exact ih.timer ht
  | port nextPort _ ih => exact ih.port nextPort

instance : IsPreorder Stack Serves where
  refl _ := .refl
  trans _ _ _ := trans

/-- A write changes the memory only. -/
theorem within_onMem {β : Type} (x : Proc Memory β) : Proc.Within Serves (Stack.onMem x) :=
  fun _ => .mem _ .refl

/-- What is observed is put at the end of the log. -/
theorem within_emit {o : Obs} (ho : o.isOutput) : Proc.Within Serves (Stack.emit o) :=
  fun _ => .output ho .refl

/-- A frame is three writes of the Ethernet header, and the frame itself. -/
theorem within_sendFrame (destinationMAC : MACAddr) (protocol payloadLength : UInt16) :
    Proc.Within Serves (EtherControl.sendFrame destinationMAC protocol payloadLength) := by
  refine Proc.within_read_bind fun sendBuffer => Proc.within_read_bind fun macAddr => ?_
  refine .ite Proc.within_fail ?_
  exact .bind (within_onMem _) fun _ => .bind (within_onMem _) fun _ =>
    .bind (within_onMem _) fun _ => Proc.within_read_bind fun frame => within_emit rfl

/-- The timer is registered only if there is none. -/
theorem within_ensureTimer : Proc.Within Serves ARPHandler.ensureTimer := by
  intro h
  unfold ARPHandler.ensureTimer
  rw [Proc.run_read_bind]
  split
  · exact .refl
  · rename_i htimer
    have hend : ∀ s : Stack,
        ((if s.arp.timer = 0 then Proc.fail else pure () : Proc Stack Unit).run s).2 = s := by
      intro s
      split <;> rfl
    rw [Proc.run_modify_bind, Proc.run_read_bind, hend]
    exact .timer (not_not.mp htimer) .refl

/-- A request is fourteen writes and a frame. -/
theorem within_sendARPRequest (remoteIP : IPAddr) :
    Proc.Within Serves (ARPHandler.sendARPRequest remoteIP) := by
  refine Proc.within_read_bind fun _ => Proc.within_read_bind fun _ =>
    Proc.within_read_bind fun _ => ?_
  iterate 14 refine .bind (within_onMem _) fun _ => ?_
  exact within_sendFrame _ _ _

/-- A new request takes an entry of the routing table and may start the timer. -/
theorem of_requestMACAddress (remoteIP : IPAddr) :
    Proc.Within Serves (ARPHandler.requestMACAddress remoteIP) := by
  have hstart : ∀ index, Proc.Within Serves (ARPHandler.startLookup remoteIP index) := by
    intro index
    exact within_ensureTimer.bind fun _ => .bind (fun _ => .route _ .refl) fun _ =>
      within_sendARPRequest remoteIP
  refine Proc.within_read_bind fun routingTable => ?_
  split
  · exact Proc.within_pure ()
  · exact hstart _
  · split
    · exact Proc.within_fail
    · exact hstart _

/-- A packet is the writes of the IP header, a frame and the packet itself. -/
theorem of_sendPacket (destinationIP : IPAddr) (protocol : UInt8) (length : UInt16) :
    Proc.Within Serves (IPHandler.sendPacket destinationIP protocol length) := by
  refine Proc.within_read_bind fun p => .ite Proc.within_fail ?_
  refine .bind (Proc.within_query _) fun macAddr => Proc.within_read_bind fun _ => ?_
  iterate 9 refine .bind (within_onMem _).attempt fun _ => ?_
  refine Proc.within_read_bind fun _ => .bind (within_onMem _).attempt fun _ => ?_
  exact Proc.within_read_bind fun _ => .bind (within_sendFrame _ _ _) fun _ => within_emit rfl

/-- What is observed of it are frames and packets. -/
theorem log (hs : Serves h h₁) : ∃ l, h₁.log = h.log ++ l ∧ ∀ o ∈ l, o.isOutput := by
  induction hs with
  | refl => exact ⟨[], (List.append_nil _).symm, by simp⟩
  | mem _ _ ih => exact ih
  | @output h' o ho _ ih =>
      obtain ⟨l, hl, hout⟩ := ih
      refine ⟨l ++ [o], by rw [← List.append_assoc, ← hl], fun o' ho' => ?_⟩
      rcases List.mem_append.mp ho' with ho' | ho'
      · exact hout o' ho'
      · rwa [List.mem_singleton.mp ho']
  | route _ _ ih => exact ih
  | @timer h' _ _ ih =>
      have hrest : (EtherControl.registerTimer .arp 250 h').2.log = h'.log := by
        unfold EtherControl.registerTimer
        split <;> rfl
      dsimp only
      rwa [hrest]
  | port _ _ ih => exact ih

end Serves

namespace Socket

variable {α : Type}

/-! ### The socket -/

/-- The fields of a socket that only its registration changes, and the segments that open a
connection. -/
def settings (s : Socket) :
    Option ℕ × Option Buffer × Option Buffer × UInt16 × UInt32 × Option Bytes × UInt16 :=
  (s.tcp, s.stash, s.sendBuffer, s.listenPort, s.timeout, s.remoteDomain, s.remoteMSS)

/-- A relation on worlds that allows each single change a function of a socket makes, and what
the callbacks do. -/
structure Frames (cb : Callbacks α) (R : World α → World α → Prop) : Prop where
  self : ∀ (w : World α) (s : Socket), settings s = settings w.self → R w (w.setSelf s)
  stack : ∀ (w : World α) (h : Stack), Serves w.stack h → R w { w with stack := h }
  event : ∀ (w : World α) (e : Event), R w (w.observe (.event w.this e))
  received : ∀ (w : World α) (d : Bytes) (accepted : Bool),
    R w (w.observe (.received w.this d accepted))
  dangling : ∀ w : World α, w.self.tcp.isNone → R w (w.observe .nullDereference)
  on : ∀ (e : Event) (w : World α), R w (cb.on e w)
  onDataReceived : ∀ (d : Bytes) (w : World α), R w (cb.onDataReceived d w).2

namespace Frames

variable {cb : Callbacks α} {R : World α → World α → Prop} [IsPreorder (World α) R]
  (h : Frames cb R)

include h

/-! ### Sending -/

omit [IsPreorder (World α) R] in
/-- What the stack does for a socket is allowed. -/
theorem onStack {β : Type} {x : Proc Stack β} (hx : Proc.Within Serves x) :
    Proc.Within R (World.onStack x) :=
  fun w => h.stack w _ (hx w.stack)

omit [IsPreorder (World α) R] in
/-- So is a write into a buffer. -/
theorem onMem {β : Type} (x : Proc Memory β) : Proc.Within R (World.onMem (α := α) x) :=
  h.onStack (Serves.within_onMem x)

/-- A segment is handed over to IP, or its route is asked for. -/
theorem transmit (length : UInt16) (option_length : UInt8) :
    Proc.Within R (transmit (α := α) length option_length) := by
  refine Proc.within_read_bind fun remoteIP => Proc.within_read_bind fun route => ?_
  refine .ite (h.onStack (Serves.of_requestMACAddress remoteIP)).attempt ?_
  exact Proc.within_read_bind fun buf => Proc.within_read_bind fun checksum =>
    (h.onMem _).bind fun _ => h.onStack (Serves.of_sendPacket _ _ _)

/-- The number of the next byte moves on for a SYN, for a FIN and for a payload. -/
theorem writeControl (buf : Buffer) (control : UInt8) (length : UInt16) :
    Proc.Within R (writeControl (α := α) buf control length) := by
  have hself : ∀ f : Socket → Socket, (∀ s, settings (f s) = settings s) →
      Proc.Within R (Proc.modify fun w : World α => w.setSelf (f w.self)) :=
    fun f hf w => h.self w _ (hf _)
  unfold Socket.writeControl
  split
  · exact (h.onMem _).bind fun _ => (h.onMem _).bind fun _ => (h.onMem _).bind fun _ =>
      Proc.within_read_bind fun _ => (h.onMem _).bind fun _ =>
        (hself (fun s => { s with localSeq := s.localSeq + 1 }) fun _ => rfl).bind fun _ =>
          Proc.within_pure 4
  split
  · exact (hself (fun s => { s with localSeq := s.localSeq + 1 }) fun _ => rfl).bind fun _ =>
      Proc.within_pure 0
  · refine (h.onMem _).bind fun _ => .bind (fun w => ?_) fun _ => Proc.within_pure 0
    rw [Proc.run_modify]
    split
    · exact h.self w _ rfl
    · exact refl_of R w

/-- A segment consists of writes into the send buffer, and is transmitted. Without a handler it is a
null dereference. -/
theorem sendSegment (control : UInt8) (length : UInt16) (seq ack : UInt32) :
    Proc.Within R (sendSegment cb control length seq ack) := by
  intro w
  unfold Socket.sendSegment
  rw [Proc.run_read_bind]
  by_cases hnone : w.self.tcp.isNone = true
  · rw [if_pos hnone, Proc.run_modify_bind]
    exact h.dangling w hnone
  · rw [if_neg hnone]
    refine Proc.within_read_bind (fun buf => ?_) w
    exact (h.onMem _).bind fun _ => (h.onMem _).bind fun _ => (h.onMem _).bind fun _ =>
      (h.onMem _).bind fun _ => (h.writeControl buf control length).bind fun optionLength =>
        (h.onMem _).bind fun _ => Proc.within_read_bind fun window => (h.onMem _).bind fun _ =>
          (h.onMem _).bind fun _ => h.transmit length optionLength

/-- An ACK is a segment without payload. -/
theorem sendACK (w : World α) : R w (sendACK cb w) := h.sendSegment ACK 0 0 0 w

/-! ### Events and states -/

/-- An event is observed, and handed to the application. -/
theorem fire (e : Event) (w : World α) : R w (fire cb e w) :=
  trans_of R (h.event w e) (h.on e _)

/-- What is told of a change of the state is a sequence of events. -/
theorem announce (priorState state : UInt8) (w : World α) :
    R w (announce cb priorState state w) := by
  unfold Socket.announce
  dsimp only
  split_ifs
  · exact trans_of R (h.fire _ w) (trans_of R (h.fire _ _) (h.fire _ _))
  · exact trans_of R (h.fire _ w) (h.fire _ _)
  · exact h.fire _ w
  · exact refl_of R w

/-- The new state is set before it is told. -/
theorem setState (state : UInt8) (w : World α) : R w (setState cb state w) := by
  refine trans_of R (h.self w { w.self with state := state, stateTime := w.stack.millis } ?_)
    (h.announce _ _ _)
  rfl

/-- Which state a socket goes back to does not matter. -/
theorem closed (w : World α) : R w (closed cb w) := by
  unfold Socket.closed
  split
  · exact h.setState _ w
  · exact h.setState _ w

/-- A RST is a segment and an event. -/
theorem reset (seq ack : UInt32) : Proc.Within R (reset cb seq ack) :=
  Proc.within_read_bind fun _ => (h.sendSegment _ 0 seq ack).bind fun _ => h.fire _

/-- A connection is reset before it is closed. -/
theorem forceClose (w : World α) : R w (forceClose cb w) := by
  unfold Socket.forceClose
  dsimp only
  split
  · exact trans_of R (h.reset _ _ w) (h.closed _)
  · exact h.closed w

/-! ### Opening -/

section Opening

variable {dns : Resolver} (hdns : ∀ (d : Bytes) (w : World α), R w { w with stack := (dns d w.stack).2 })

include hdns

/-- The name is asked for; the state is changed, or the address is set and `connect` called again.
-/
theorem resolveWith {connect : Proc (World α) Unit} (hconnect : Proc.Within R connect) :
    Proc.Within R (resolveWith cb dns connect) := by
  refine Proc.within_read_bind fun self => .ite Proc.within_fail ?_
  split
  · exact Proc.within_pure ()
  rename_i remoteDomain _
  refine .bind (fun w => hdns remoteDomain w) fun a => ?_
  obtain ⟨rip, error⟩ := a
  refine .ite (.bind (h.setState UNKNOWN_HOST) fun _ => Proc.within_fail) ?_
  split
  · exact h.setState RESOLVING
  refine .bind (fun w => h.self w _ rfl) fun _ => .ite ?_ (Proc.within_pure ())
  refine .bind h.closed fun _ => .ite ?_ (Proc.within_pure ())
  exact .bind (fun w => h.self w _ rfl) fun _ => hconnect

omit hdns in
/-- A port is taken and a SYN is sent. -/
theorem connectWith {resolveIP : Proc (World α) Unit} (hresolve : Proc.Within R resolveIP) :
    Proc.Within R (connectWith cb resolveIP) := by
  refine hresolve.bind fun _ => Proc.within_read_bind fun self => ?_
  refine .ite (fun w => h.self w _ rfl) (.ite Proc.within_fail (.ite Proc.within_fail ?_))
  have hport : Proc.Within Serves
      (⟨fun h => (some (IPHandler.getPort h).1, (IPHandler.getPort h).2)⟩ : Proc Stack UInt16) :=
    fun _ => .port _ .refl
  refine (h.onStack hport).bind fun port => .bind (fun w => h.self w _ rfl) fun _ => ?_
  exact (h.sendSegment SYN 0 0 0).bind fun _ => .bind (fun w => h.self w _ rfl) fun _ =>
    h.setState SYN_SENT

/-- The call of `connect` inside finds the name resolved. -/
theorem resolveIP : Proc.Within R (resolveIP cb dns) :=
  h.resolveWith hdns (h.connectWith (h.resolveWith hdns Proc.within_fail))

/-- The name is resolved, and the SYN sent. -/
theorem connect : Proc.Within R (connect cb dns) := h.connectWith (h.resolveIP hdns)

end Opening

/-! ### Sending data and closing -/

/-- The payload is stashed and sent. -/
theorem send (length : UInt16) : Proc.Within R (send cb length) := by
  refine Proc.within_read_bind fun self => .ite (Proc.within_pure ()) ?_
  refine .ite Proc.within_fail (.ite Proc.within_fail ?_)
  refine .bind (fun w => h.self w _ rfl) fun _ => .bind (Proc.within_query _) fun sb => ?_
  refine .bind (Proc.within_query _) fun stash => (h.onMem _).bind fun _ => ?_
  exact (h.sendSegment _ length 0 0).bind fun _ w => h.self w _ rfl

/-- The bytes are written into the send buffer first. -/
theorem sendBytes (data : Bytes) : Proc.Within R (sendBytes cb data) :=
  .bind (Proc.within_query _) fun _ => (h.onMem _).bind fun _ => h.send _

/-- The FIN is sent and the state changed. -/
theorem close : Proc.Within R (close cb) := by
  refine Proc.within_read_bind fun self => .ite (Proc.within_pure ()) ?_
  refine (h.sendSegment _ 0 0 0).bind fun _ => .bind (fun w => h.self w _ rfl) fun _ => ?_
  refine .bind (fun w => ?_) fun _ => h.fire _
  rw [Proc.run_modify]
  split
  · exact h.setState _ w
  · exact refl_of R w

/-! ### The timer -/

/-- The number goes back, and the stash is sent again. -/
theorem resendData : Proc.Within R (resendData cb) := by
  refine .bind (fun w => h.self w _ rfl) fun _ => .bind (Proc.within_query _) fun sb => ?_
  refine .bind (Proc.within_query _) fun stash => Proc.within_read_bind fun length => ?_
  exact (h.onMem _).bind fun _ => h.sendSegment ACK length 0 0

omit [IsPreorder (World α) R] in
/-- An attempt is counted. -/
theorem exhausted (w : World α) : R w (exhausted w).2 := h.self w _ rfl

/-- The segment is sent again, or the connection given up. -/
theorem resend (control : UInt8) (w : World α) : R w (resend cb control w) := by
  unfold Socket.resend
  refine trans_of R (h.exhausted w) ?_
  dsimp only
  split
  · exact h.forceClose _
  · refine trans_of R ?_ (h.sendSegment control 0 0 0 _)
    exact h.self _ _ rfl

/-- In each of the states something is sent again, or nothing is done. -/
theorem checkHandshake (elapsed : UInt32) (w : World α) : R w (checkHandshake cb elapsed w) := by
  unfold Socket.checkHandshake
  split_ifs
  · exact h.resend _ w
  · exact h.resend _ w
  · exact h.resend _ w
  · exact refl_of R w
  · exact h.closed w
  · exact refl_of R w

section Timer

variable {dns : Resolver} (hdns : ∀ (d : Bytes) (w : World α), R w { w with stack := (dns d w.stack).2 })

include hdns

/-- The payload is sent again first, where there is one. -/
theorem checkRetransmission (elapsed : UInt32) (w : World α) :
    R w (checkRetransmission cb dns elapsed w) := by
  unfold Socket.checkRetransmission
  split
  · exact refl_of R w
  split
  · exact h.resolveIP hdns w
  split
  · exact refl_of R w
  split
  case isFalse => exact h.checkHandshake _ w
  case isTrue =>
    refine trans_of R (h.exhausted w) ?_
    dsimp only
    split
    · exact h.forceClose _
    refine trans_of R (h.resendData _) ?_
    split
    · exact h.checkHandshake _ _
    · exact trans_of R (h.forceClose _) (h.checkHandshake _ _)

/-- The whole of the timer: a time-out, then the retransmissions. -/
theorem checkState (w : World α) : R w (checkState cb dns w) := by
  unfold Socket.checkState
  dsimp only
  split_ifs
  · exact refl_of R w
  · exact refl_of R w
  · exact h.close w
  · exact trans_of R (h.forceClose w) (h.checkRetransmission hdns _ _)
  · exact h.checkRetransmission hdns _ w

end Timer

/-! ### Receiving -/

/-- A RST closes the socket, or is ignored. -/
theorem handleReset (ack seq : UInt32) (w : World α) : R w (handleReset cb ack seq w) := by
  have hclosed : R w (Socket.fire cb (.onReset true) (Socket.closed cb w)) :=
    trans_of R (h.closed w) (h.fire _ _)
  unfold Socket.handleReset
  split_ifs
  · exact hclosed
  · exact refl_of R w
  · exact h.closed w
  · exact hclosed
  · exact refl_of R w

/-- A segment that is refused is answered by a RST. -/
theorem refuse (buf : View) (opt : UInt8) (ack seq : UInt32) (w : World α) :
    R w (refuse cb buf opt ack seq w) := by
  unfold Socket.refuse
  split
  · exact h.reset _ _ w
  · exact h.reset _ _ w

/-- The payload is offered to the application and acknowledged. -/
theorem handlePayload (opt : UInt8) (seq : UInt32) (payloadSize : UInt16) (payload : Bytes)
    (w : World α) : R w (handlePayload cb opt seq payloadSize payload w) := by
  have hcount : ∀ w : World α, R w (countFin opt w) := by
    intro w
    unfold countFin
    split
    · exact h.self w _ rfl
    · exact refl_of R w
  have hoffer : ∀ w : World α, R w (offerPayload cb seq payloadSize payload w) := by
    intro w
    have hoffered : R w ((cb.onDataReceived payload w).2.observe (.received
        (cb.onDataReceived payload w).2.this payload (cb.onDataReceived payload w).1)) :=
      trans_of R (h.onDataReceived payload w) (h.received _ payload _)
    unfold offerPayload
    dsimp only
    split_ifs
    · refine trans_of R hoffered ?_
      exact h.self _ _ rfl
    · exact hoffered
    · exact refl_of R w
  have hkeep : R w (w.setSelf { w.self with recvBuffer := some payload }) := h.self w _ rfl
  exact trans_of R hkeep (trans_of R (hcount _) (trans_of R (hoffer _) (h.sendACK _)))

/-- The FIN is acknowledged and changes the state. -/
theorem handleFin (ack : UInt32) (payloadSize : UInt16) (w : World α) :
    R w (handleFin cb ack payloadSize w) := by
  have hack : R w (acknowledgeFin cb payloadSize w) := by
    unfold acknowledgeFin
    split
    · refine trans_of R ?_ (h.sendACK _)
      exact h.self w _ rfl
    · exact refl_of R w
  have hstate : ∀ w, R w (finState cb ack w) := by
    intro w
    unfold finState
    split_ifs
    · exact h.setState _ w
    · exact h.setState _ w
    · exact h.setState _ w
    · exact h.setState _ w
    · exact refl_of R w
  exact trans_of R hack (trans_of R (hstate _) (h.fire _ _))

/-- The payload is taken before the FIN. -/
theorem handleInOrder (buf : Bytes) (opt : UInt8) (ack seq : UInt32) (tcp_header_size : UInt8)
    (w : World α) : R w (handleInOrder cb buf opt ack seq tcp_header_size w) := by
  unfold Socket.handleInOrder
  dsimp only
  split_ifs
  · exact trans_of R (h.handlePayload _ _ _ _ w) (h.handleFin _ _ _)
  · exact h.handleFin _ _ w
  · exact h.handlePayload _ _ _ _ w
  · exact refl_of R w

/-- An acknowledgement ends the wait for it, whatever else the segment brings. -/
theorem handleEstablished (buf : Bytes) (opt : UInt8) (ack seq : UInt32) (w : World α) :
    R w (handleEstablished cb buf opt ack seq w) := by
  have hclear : ∀ w : World α, R w (clearAwaiting cb w) := by
    intro w
    refine trans_of R ?_ (h.fire _ _)
    exact h.self w _ rfl
  unfold Socket.handleEstablished
  dsimp only
  split
  · exact refl_of R w
  split
  · exact h.sendACK w
  split
  · exact refl_of R w
  split
  · exact trans_of R (h.handleInOrder _ _ _ _ _ w) (hclear _)
  · exact h.handleInOrder _ _ _ _ _ w

/-- An acknowledgement of everything sent moves the state on. -/
theorem handleAck (w : World α) : R w (handleAck cb w) := by
  unfold Socket.handleAck
  split_ifs
  · exact h.setState _ w
  · exact h.setState _ w
  · exact h.setState _ w
  · exact h.closed w
  · exact refl_of R w

end Frames

/-- A segment that opens a connection. -/
def Opens (opt : UInt8) (ack : UInt32) (s : Socket) : Prop :=
  s.state = LISTEN ∧ opt = SYN ∨ s.state = SYN_SENT ∧ opt = SYN ∨
    s.state = SYN_SENT ∧ opt = ACK ||| SYN ∧ ack = s.localSeq

namespace Frames

variable {cb : Callbacks α} {R : World α → World α → Prop} [IsPreorder (World α) R]
  (h : Frames cb R)

include h

/-! ### Opening by a segment -/

section Peer

variable (hmss : ∀ (w : World α) (mss : UInt16),
  R w (w.setSelf { w.self with remoteMSS := mss }))

include hmss

omit h in
/-- The option of the peer is the one field that `settings` holds. -/
theorem readMSS (buf : View) (tcp_header_size : UInt8) (w : World α) :
    R w (readMSS buf tcp_header_size w) := by
  unfold Socket.readMSS
  dsimp only
  split_ifs
  · exact hmss w _
  · exact refl_of R w
  · exact refl_of R w

/-- A SYN in LISTEN sets the peer's ports and the option, and is answered. -/
theorem passiveOpen (buf : View) (seq : UInt32) (w : World α) :
    R w (passiveOpen cb buf seq w) := by
  have hport : ∀ (w : World α) (port : UInt16),
      R w (w.setSelf { w.self with remotePort := port }) := fun w _ => h.self w _ rfl
  have hattempts : ∀ w : World α, R w (w.setSelf { w.self with attempts := 1 }) :=
    fun w => h.self w _ rfl
  unfold Socket.passiveOpen
  dsimp only
  refine trans_of R (h.self w { w.self with remoteSeq := seq + 1 } rfl) ?_
  split
  · exact refl_of R _
  rename_i port _
  refine trans_of R (hport _ port) ?_
  split
  · exact refl_of R _
  rename_i tcp_header_size _
  refine trans_of R (readMSS hmss buf tcp_header_size _) ?_
  split
  · exact refl_of R _
  rename_i port' _
  refine trans_of R (hport _ port') ?_
  split
  · exact trans_of R (h.sendSegment _ 0 0 0 _) (trans_of R (h.setState _ _) (hattempts _))
  · exact h.sendSegment _ 0 0 0 _

/-- A SYN in SYN_SENT is answered by an ACK. -/
theorem simultaneousOpen (buf : View) (seq : UInt32) (w : World α) :
    R w (simultaneousOpen cb buf seq w) := by
  unfold Socket.simultaneousOpen
  dsimp only
  refine trans_of R (h.self w { w.self with remoteSeq := seq + 1 } rfl) ?_
  split
  · exact refl_of R _
  · rename_i tcp_header_size _
    exact trans_of R (readMSS hmss buf tcp_header_size _) (trans_of R (h.setState _ _) (h.sendACK _))

/-- A SYN+ACK is answered by an ACK. -/
theorem activeOpen (buf : View) (seq : UInt32) (w : World α) :
    R w (activeOpen cb buf seq w) := by
  unfold Socket.activeOpen
  dsimp only
  refine trans_of R (h.self w { w.self with remoteSeq := seq + 1 } rfl) ?_
  split
  · exact refl_of R _
  · rename_i tcp_header_size _
    exact trans_of R (readMSS hmss buf tcp_header_size _) (trans_of R (h.sendACK _) (h.setState _ _))

end Peer

/-- The cascade, for a segment that opens no connection, or a relation that lets it. -/
theorem handleValid (buf : Bytes) (opt : UInt8) (ack seq : UInt32) (w : World α)
    (hopens : Opens opt ack w.self →
      ∀ (w : World α) (mss : UInt16), R w (w.setSelf { w.self with remoteMSS := mss })) :
    R w (handleValid cb buf opt ack seq w) := by
  unfold Socket.handleValid
  refine iteInduction (fun _ => h.refuse _ _ _ _ w) fun _ => ?_
  refine iteInduction (fun _ => h.refuse _ _ _ _ w) fun _ => ?_
  refine iteInduction (fun _ => h.reset _ _ w) fun _ => ?_
  refine iteInduction (fun _ => h.sendACK w) fun _ => ?_
  refine iteInduction (fun _ => h.sendACK w) fun _ => ?_
  refine iteInduction (fun _ => h.handleReset _ _ w) fun _ => ?_
  refine iteInduction (fun hlisten => h.passiveOpen (hopens (.inl hlisten)) _ _ w) fun _ => ?_
  refine iteInduction (fun hsent => h.simultaneousOpen (hopens (.inr (.inl hsent))) _ _ w)
    fun _ => ?_
  refine iteInduction (fun hsent => h.activeOpen (hopens (.inr (.inr hsent))) _ _ w) fun _ => ?_
  refine iteInduction (fun _ => h.handleEstablished _ _ _ _ w) fun _ => ?_
  exact iteInduction (fun _ => h.handleAck w) fun _ => h.forceClose w

/-- The address and the window are noted before anything is looked at. -/
theorem handleSegment (sourceIP : IPAddr) (buf : Bytes) (w : World α)
    (hopens : Opens (segControl buf) (segAck buf) w.self →
      ∀ (w : World α) (mss : UInt16), R w (w.setSelf { w.self with remoteMSS := mss })) :
    R w (handleSegment cb sourceIP buf w) := by
  unfold Socket.handleSegment
  split
  case h_2 => exact h.self w _ rfl
  case h_1 opt ack seq window hopt hack _ _ =>
    have hopt : segControl buf = opt := by rw [segControl, hopt]; rfl
    have hack : segAck buf = ack := by rw [segAck, hack]; rfl
    rw [hopt, hack] at hopens
    have hnote : R w (takeNote sourceIP opt window
        (w.setSelf { w.self with recvBuffer := some [] })) := h.self w _ rfl
    dsimp only
    split
    · exact trans_of R hnote (h.dangling _ ‹_›)
    split
    · exact trans_of R hnote (h.handleValid buf opt ack seq _ hopens)
    · exact hnote

end Frames

end Socket

end AtmegaNet
