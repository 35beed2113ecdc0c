import AtmegaNet.SegmentFormat

/-!
# Segments on a connection

What `handleSegment` does in the states of a connection, and which segments a connection survives.

## Main results

* `handleSegment_survives_iff`: a connection survives every segment but one that `handleAck`
  is not called for, although it is old: in the states after ESTABLISHED such a segment ends in
  the `forceClose` at the bottom of `handleSegment`.
-/

open Procedure

namespace AtmegaNet

namespace Socket

variable {α : Type}

/-! ### Segments without payload -/

/-- All a segment without payload can add to the log is its own packet. -/
theorem sendSegment_log (cb : Callbacks α) {control : UInt8} (hc : control ∈ sentControls)
    (seq ack : UInt32) (w : World α) :
    ∃ l, ((sendSegment cb control 0 seq ack).exec w).stack.log = w.stack.log ++ l ∧
      ∀ p ∈ packetsOf l, IsSegment w.self (w.stack.mem .send 46)
        ⟨control, seqOf control seq w.self, ackOf control ack w.self, []⟩ p := by
  by_cases htcp : w.self.tcp.isSome
  · by_cases hroom : 20 + (optionBytes control w.stack).length ≤ w.stack.room
    · obtain ⟨l, hlog, -, hpackets⟩ := (sendSegment_transmitted cb control 0 seq ack htcp
        (by simpa using hroom)).2.log
      refine ⟨l, hlog, fun p hp => ?_⟩
      rw [hpackets] at hp
      split at hp
      · rw [List.mem_singleton.mp hp]
        exact isSegment_packetOf hc (.inl rfl) (by simpa using hroom) _
      · exact absurd hp (List.not_mem_nil)
    · have hshort := (sendSegment_short cb control seq ack w htcp (by omega)).2
      refine ⟨[], ?_, fun p hp => absurd hp (List.not_mem_nil)⟩
      rw [Proc.exec, hshort.rest, List.append_nil]
  · have hnone : w.self.tcp.isNone = true := by simpa using htcp
    refine ⟨[.nullDereference], ?_, fun p hp => absurd hp (List.not_mem_nil)⟩
    unfold sendSegment
    rw [Proc.exec, Proc.run_read_bind, if_pos hnone]
    rfl

/-- A segment without payload, SYN and FIN leaves the socket as it is. -/
theorem sendSegment_self (cb : Callbacks α) {control : UInt8} (seq ack : UInt32) (w : World α)
    (hsyn : ¬ has control SYN) (hfin : ¬ has control FIN) :
    ((sendSegment cb control 0 seq ack).exec w).self = w.self := by
  have hadvance : advance control 0 w.self = w.self := by
    rw [advance, if_neg (by simp [hsyn, hfin]), if_neg (by decide)]
  by_cases htcp : w.self.tcp.isSome
  · by_cases hroom : 20 + (optionBytes control w.stack).length ≤ w.stack.room
    · exact (sendSegment_transmitted cb control 0 seq ack htcp
        (by simpa using hroom)).2.self.trans hadvance
    · rcases (sendSegment_short cb control seq ack w htcp (by omega)).2.self with h | h
      · exact h
      · exact absurd h.2.1 hfin
  · have hnone : w.self.tcp.isNone = true := by simpa using htcp
    unfold sendSegment
    rw [Proc.exec, Proc.run_read_bind, if_pos hnone]
    rfl

/-! ### Staying up -/

/-- The states of a connection: from the handshake on, until the socket is closed. -/
def connectionStates : List UInt8 :=
  [ESTABLISHED, ESTABLISHED ||| AWAITING_ACK, FIN_WAIT_1, FIN_WAIT_2, CLOSE_WAIT, CLOSING,
    LAST_ACK, TIME_WAIT]

/-- The states without a connection. -/
def closedStates : List UInt8 := [CLOSED, LISTEN]

/-- A TCP packet with RST. -/
def isReset (packet : IPAddr × UInt8 × Bytes) : Bool :=
  packet.2.1 == TCP_PROTOCOL && has (segControl packet.2.2) RST

/-- Between two worlds of a host, it has sent no RST. -/
def NoReset (w w' : World α) : Prop :=
  ∃ l, w'.stack.log = w.stack.log ++ l ∧ ∀ p ∈ packetsOf l, ¬ isReset p

instance : IsPreorder (World α) NoReset where
  refl w := ⟨[], by simp, fun p hp => absurd hp (List.not_mem_nil)⟩
  trans := by
    rintro w w' w'' ⟨l, hl, hp⟩ ⟨l', hl', hp'⟩
    refine ⟨l ++ l', by rw [hl', hl, List.append_assoc], fun p h => ?_⟩
    rw [packetsOf_append, List.mem_append] at h
    exact h.elim (hp p) (hp' p)

/-- Between two worlds of a host, it has sent no RST, and the connection of the socket, if it
had one, has not ended. -/
structure StaysUp (w w' : World α) : Prop where
  noReset : NoReset w w'
  up : w.self.state ∈ connectionStates → w'.self.state ∈ connectionStates

instance : IsPreorder (World α) StaysUp where
  refl w := ⟨refl_of NoReset w, id⟩
  trans _ _ _ h h' := ⟨trans_of NoReset h.noReset h'.noReset, h'.up ∘ h.up⟩

/-- Where a connection stays up, what follows need only be looked at on a connection. -/
theorem StaysUp.andThen {w w' w'' : World α} (h : StaysUp w w')
    (hs : w.self.state ∈ connectionStates)
    (h' : w'.self.state ∈ connectionStates → StaysUp w' w'') : StaysUp w w'' :=
  trans_of StaysUp h (h' (h.up hs))

/-- Callbacks that may use the socket, but neither abort a connection nor open one when the socket
is closed: each event is asked about the worlds in which a segment can fire it on a connection,
`onClosed` with the application as it is before the segment. -/
structure Calm (cb : Callbacks α) (app : α) : Prop where
  on : ∀ e ∈ [Event.onReadyToSend, .onRemoteClosed], ∀ w, w.self.state ∈ connectionStates →
    StaysUp w (cb.on e w)
  onDataReceived : ∀ d w, w.self.state ∈ connectionStates → StaysUp w (cb.onDataReceived d w).2
  stayClosed : ∀ w, w.self.state = CLOSED → (cb.on .onClosed w).self.state ∈ closedStates
  onClosed : ∀ w, w.self.state = CLOSED → w.app = app → NoReset w (cb.on .onClosed w)

/-- An application whose callbacks make no calls is calm. -/
theorem App.calm (a : App α) (app : α) : Calm a.callbacks app where
  on _ _ w _ := ⟨⟨[], by simp [App.callbacks], fun p hp => absurd hp (List.not_mem_nil)⟩, id⟩
  onDataReceived _ w _ :=
    ⟨⟨[], by simp [App.callbacks], fun p hp => absurd hp (List.not_mem_nil)⟩, id⟩
  stayClosed w h := by
    show w.self.state ∈ closedStates
    rw [h]
    decide
  onClosed w _ _ := ⟨[], by simp [App.callbacks], fun p hp => absurd hp (List.not_mem_nil)⟩

section Calm

variable {cb : Callbacks α} {w : World α}

/-- An ACK is no reset. -/
theorem staysUp_sendACK (cb : Callbacks α) (w : World α) : StaysUp w (sendACK cb w) := by
  refine ⟨?_, fun h => ?_⟩
  · obtain ⟨l, hlog, hl⟩ := sendSegment_log cb (by decide : ACK ∈ sentControls) 0 0 w
    refine ⟨l, hlog, fun p hp => ?_⟩
    rw [isReset, (hl p hp).control, show has ACK RST = false from rfl, Bool.and_false]
    exact Bool.false_ne_true
  · rwa [sendACK, sendSegment_self cb 0 0 w (by decide) (by decide)]

theorem staysUp_setSelf {s : Socket}
    (h : w.self.state ∈ connectionStates → s.state ∈ connectionStates) :
    StaysUp w (w.setSelf s) :=
  ⟨refl_of NoReset w, h⟩

theorem staysUp_received (d : Bytes) (accepted : Bool) (w : World α) :
    StaysUp w (w.observe (.received w.this d accepted)) :=
  ⟨⟨_, rfl, fun _ hp => absurd hp (List.not_mem_nil)⟩, id⟩

variable {app : α} (hcb : Calm cb app)

include hcb

/-- An event of a connection. -/
theorem staysUp_fire {e : Event} (he : e ∈ [Event.onReadyToSend, .onRemoteClosed])
    (hs : w.self.state ∈ connectionStates) : StaysUp w (fire cb e w) := by
  have hevent : StaysUp w (w.observe (.event w.this e)) :=
    ⟨⟨_, rfl, fun _ hp => absurd hp (List.not_mem_nil)⟩, id⟩
  exact trans_of StaysUp hevent (hcb.on e he _ hs)

omit hcb in
/-- A state behind ESTABLISHED is entered without an event. -/
theorem staysUp_setState {state : UInt8} (h : state ∈ connectionStates) (hne : state ≠ ESTABLISHED)
    (w : World α) : StaysUp w (setState cb state w) := by
  have hopen : state ≠ CLOSED := by
    rintro rfl
    exact absurd h (by decide)
  have hquiet : ∀ (prior : UInt8) (w : World α), announce cb prior state w = w := fun prior w => by
    unfold announce
    rw [if_neg hne]
    exact if_neg fun h => hopen h.1
  rw [setState, hquiet]
  exact staysUp_setSelf fun _ => h

theorem staysUp_offerPayload (seq : UInt32) (payloadSize : UInt16) (payload : Bytes)
    (hs : w.self.state ∈ connectionStates) :
    StaysUp w (offerPayload cb seq payloadSize payload w) := by
  have hoffer := trans_of StaysUp (hcb.onDataReceived payload w hs)
    (staysUp_received payload (cb.onDataReceived payload w).1 _)
  unfold offerPayload
  split
  · dsimp only
    split
    · exact trans_of StaysUp hoffer (staysUp_setSelf (by exact id))
    · exact hoffer
  · exact refl_of StaysUp w

theorem staysUp_handlePayload (opt : UInt8) (seq : UInt32) (payloadSize : UInt16)
    (payload : Bytes) (hs : w.self.state ∈ connectionStates) :
    StaysUp w (handlePayload cb opt seq payloadSize payload w) := by
  have hcount : ∀ w : World α, StaysUp w (countFin opt w) := by
    intro w
    unfold countFin
    split
    · exact staysUp_setSelf (by exact id)
    · exact refl_of StaysUp w
  exact .andThen (staysUp_setSelf (by exact id)) hs fun hs => .andThen (hcount _) hs fun hs =>
    .andThen (staysUp_offerPayload hcb _ _ _ hs) hs fun _ => staysUp_sendACK cb _

omit hcb in
theorem staysUp_finState (ack : UInt32) (w : World α) : StaysUp w (finState cb ack w) := by
  unfold finState
  split_ifs
  · exact staysUp_setState (by decide) (by decide) w
  · exact staysUp_setState (by decide) (by decide) w
  · exact staysUp_setState (by decide) (by decide) w
  · exact staysUp_setState (by decide) (by decide) w
  · exact refl_of StaysUp w

theorem staysUp_handleFin (ack : UInt32) (payloadSize : UInt16)
    (hs : w.self.state ∈ connectionStates) : StaysUp w (handleFin cb ack payloadSize w) := by
  have hack : StaysUp w (acknowledgeFin cb payloadSize w) := by
    unfold acknowledgeFin
    split
    · exact trans_of StaysUp (staysUp_setSelf (by exact id)) (staysUp_sendACK cb _)
    · exact refl_of StaysUp w
  exact hack.andThen hs fun hs => .andThen (staysUp_finState ack _) hs fun hs =>
    staysUp_fire hcb (by simp) hs

theorem staysUp_clearAwaiting (hs : w.self.state ∈ connectionStates) :
    StaysUp w (clearAwaiting cb w) := by
  have hclear : ∀ s ∈ connectionStates, s &&& 0x0F ∈ connectionStates := by decide
  exact .andThen (staysUp_setSelf (hclear _)) hs fun hs => staysUp_fire hcb (by simp) hs

theorem staysUp_handleInOrder (buf : Bytes) (opt : UInt8) (ack seq : UInt32)
    (tcp_header_size : UInt8) (hs : w.self.state ∈ connectionStates) :
    StaysUp w (handleInOrder cb buf opt ack seq tcp_header_size w) := by
  unfold handleInOrder
  dsimp only
  split_ifs
  · exact .andThen (staysUp_handlePayload hcb _ _ _ _ hs) hs fun hs =>
      staysUp_handleFin hcb _ _ hs
  · exact staysUp_handleFin hcb _ _ hs
  · exact staysUp_handlePayload hcb _ _ _ _ hs
  · exact refl_of StaysUp w

theorem staysUp_handleEstablished (buf : Bytes) (opt : UInt8) (ack seq : UInt32)
    (hs : w.self.state ∈ connectionStates) :
    StaysUp w (handleEstablished cb buf opt ack seq w) := by
  unfold handleEstablished
  dsimp only
  split
  · exact refl_of StaysUp w
  split
  · exact staysUp_sendACK cb w
  split
  · exact refl_of StaysUp w
  split
  · exact .andThen (staysUp_handleInOrder hcb _ _ _ _ _ hs) hs fun hs =>
      staysUp_clearAwaiting hcb hs
  · exact staysUp_handleInOrder hcb _ _ _ _ _ hs

omit hcb in
/-- What closing a socket does: `onClosed` is the only event. -/
theorem closed_cases (cb : Callbacks α) (w : World α) : ∃ state ∈ closedStates,
    ∃ w' : World α, w'.self.state = state ∧ w'.app = w.app ∧ w'.stack = w.stack ∧
      (closed cb w = w' ∨ state = CLOSED ∧ closed cb w = fire cb .onClosed w') := by
  unfold closed setState announce
  split
  · refine ⟨LISTEN, by decide, w.setSelf { w.self with state := LISTEN, stateTime := w.stack.millis },
      rfl, rfl, rfl, .inl ?_⟩
    rw [if_neg (by decide : ¬ LISTEN = ESTABLISHED)]
    exact if_neg fun h => absurd h.1 (by decide : LISTEN ≠ CLOSED)
  · refine ⟨CLOSED, by decide, w.setSelf { w.self with state := CLOSED, stateTime := w.stack.millis },
      rfl, rfl, rfl, ?_⟩
    rw [if_neg (by decide : ¬ CLOSED = ESTABLISHED)]
    dsimp only
    split
    · exact .inr ⟨rfl, rfl⟩
    · exact .inl rfl

/-- A socket that is closed stays so. -/
theorem closed_mem (w : World α) : (closed cb w).self.state ∈ closedStates := by
  obtain ⟨state, hmem, w', hstate, -, -, hclosed | ⟨hs, hclosed⟩⟩ := closed_cases cb w
  · rw [hclosed, hstate]
    exact hmem
  · rw [hclosed]
    exact hcb.stayClosed _ (hstate.trans hs)

/-- Closing a socket sends no RST. -/
theorem noReset_closed (happ : w.app = app) : NoReset w (closed cb w) := by
  obtain ⟨state, -, w', hstate, happ', hstack, hclosed⟩ := closed_cases cb w
  have hquiet : NoReset w w' :=
    ⟨[], by rw [hstack, List.append_nil], fun p hp => absurd hp List.not_mem_nil⟩
  rcases hclosed with hclosed | ⟨hs, hclosed⟩
  · rw [hclosed]
    exact hquiet
  · have hevent : NoReset w' (w'.observe (.event w'.this .onClosed)) :=
      ⟨_, rfl, fun _ hp => absurd hp List.not_mem_nil⟩
    rw [hclosed]
    exact trans_of NoReset hquiet (trans_of NoReset hevent
      (hcb.onClosed _ (hstate.trans hs) (happ'.trans happ)))

end Calm

/-! ### Which segments a connection survives -/

/-- What is left of the cascade in the states of a connection, for a segment without RST. -/
theorem handleValid_connection {cb : Callbacks α} {buf : Bytes} {opt : UInt8}
    {ack seq : UInt32} {w : World α} (hs : w.self.state ∈ connectionStates)
    (hrst : ¬ has opt RST) :
    handleValid cb buf opt ack seq w =
      if synchronized w.self.state ∧ has opt ACK ∧ ack > w.self.localSeq then sendACK cb w
      else if synchronized w.self.state ∧ seq > w.self.remoteSeq then sendACK cb w
      else if w.self.state &&& 0x0F = ESTABLISHED then handleEstablished cb buf opt ack seq w
      else if has opt ACK ∧ ack = w.self.localSeq then handleAck cb w
      else forceClose cb w := by
  have hstates : ∀ s ∈ connectionStates,
      s ≠ CLOSED ∧ s ≠ LISTEN ∧ s ≠ SYN_SENT ∧ s ≠ SYN_RECEIVED := by decide
  obtain ⟨h1, h2, h3, h4⟩ := hstates _ hs
  unfold handleValid
  refine (if_neg fun h => h1 h.1).trans ((if_neg fun h => h2 h.1).trans ((if_neg ?_).trans ?_))
  · rintro ⟨h | h | h, -⟩ <;> contradiction
  refine if_congr Iff.rfl rfl (if_congr Iff.rfl rfl ?_)
  exact (if_neg hrst).trans ((if_neg fun h => h2 h.1).trans
    ((if_neg fun h => h3 h.1).trans (if_neg fun h => h3 h.1)))

/-- A connection survives a segment without RST, in the sense that the host sends no RST and
the socket is not closed, except by the last ACK, if and only if the segment is in
ESTABLISHED, or runs ahead of what was received, or has an ACK that is not old. -/
theorem handleSegment_survives_iff {cb : Callbacks α} {w : World α} (hcb : Calm cb w.app)
    (htcp : w.self.tcp.isSome) (hs : w.self.state ∈ connectionStates) (sourceIP : IPAddr)
    {buf : Bytes} (hsum : checksumOk buf w.stack.ip.ipAddress w.self.remoteIP)
    (hrst : ¬ has (segControl buf) RST) :
    (NoReset w (handleSegment cb sourceIP buf w) ∧
        ((handleSegment cb sourceIP buf w).self.state ∈ closedStates →
          w.self.state = LAST_ACK ∧ has (segControl buf) ACK ∧
            segAck buf = w.self.localSeq)) ↔
      (w.self.state &&& 0x0F = ESTABLISHED ∨ segSeq buf > w.self.remoteSeq ∨
        has (segControl buf) ACK ∧ segAck buf ≥ w.self.localSeq) := by
  have hdisjoint : ∀ s ∈ connectionStates, s ∉ closedStates := by decide
  have hne : w.self.state ≠ LISTEN := by
    intro h
    rw [h] at hs
    exact absurd hs (by decide)
  have hip : (arrive sourceIP buf w).self.remoteIP = w.self.remoteIP :=
    if_neg fun h => hne h.1
  rw [handleSegment_valid cb htcp (by rw [hip]; exact hsum)]
  -- from here on only the cascade counts
  have hlog : NoReset w (arrive sourceIP buf w) := refl_of NoReset w
  obtain ⟨hstate, hlocal, hremote, happ⟩ : (arrive sourceIP buf w).self.state = w.self.state ∧
      (arrive sourceIP buf w).self.localSeq = w.self.localSeq ∧
        (arrive sourceIP buf w).self.remoteSeq = w.self.remoteSeq ∧
          (arrive sourceIP buf w).app = w.app := ⟨rfl, rfl, rfl, rfl⟩
  generalize arrive sourceIP buf w = w₁ at hlog hstate hlocal hremote happ ⊢
  rw [← hstate, ← hlocal, ← hremote]
  rw [← hstate] at hs
  have hup : ∀ {w₂}, StaysUp w₁ w₂ → NoReset w w₂ ∧ (w₂.self.state ∈ closedStates →
      w₁.self.state = LAST_ACK ∧ has (segControl buf) ACK ∧
        segAck buf = w₁.self.localSeq) := fun h =>
    ⟨trans_of NoReset hlog h.noReset, fun hc => absurd hc (hdisjoint _ (h.up hs))⟩
  rw [handleValid_connection hs hrst]
  constructor
  · rintro ⟨-, hclosed⟩
    by_contra hcond
    obtain ⟨hest, hahead, hold⟩ := by
      rw [not_or, not_or, not_and] at hcond
      exact hcond
    rw [if_neg fun h => hold h.2.1 (UInt32.le_of_lt h.2.2), if_neg fun h => hahead h.2,
      if_neg hest, if_neg fun h => hold h.1 (UInt32.le_of_eq h.2.symm)] at hclosed
    obtain ⟨-, hack, heq⟩ := hclosed (closed_mem hcb _)
    exact hold hack (UInt32.le_of_eq heq.symm)
  · intro hcond
    split_ifs with hahead hmissed hest hack
    · exact hup (staysUp_sendACK cb w₁)
    · exact hup (staysUp_sendACK cb w₁)
    · exact hup (staysUp_handleEstablished hcb _ _ _ _ hs)
    · unfold handleAck
      split_ifs with h1 h2 h3 h4
      · exact absurd (h1 ▸ hs) (by decide)
      · exact hup (staysUp_setState (by decide) (by decide) w₁)
      · exact hup (staysUp_setState (by decide) (by decide) w₁)
      · exact ⟨trans_of NoReset hlog (noReset_closed hcb happ), fun _ => ⟨h4, hack⟩⟩
      · exact hup (refl_of StaysUp w₁)
    · -- outside ESTABLISHED the source tests the numbers in every state of a connection
      have hsync : synchronized w₁.self.state := by
        have hall : ∀ s ∈ connectionStates, s &&& 0x0F = ESTABLISHED ∨ synchronized s := by
          decide
        exact (hall _ hs).resolve_left hest
      rcases hcond with h | h | ⟨h, hge⟩
      · exact absurd h hest
      · exact absurd ⟨hsync, h⟩ hmissed
      · rcases UInt32.lt_or_eq_of_le hge with hlt | heq
        · exact absurd ⟨hsync, h, hlt⟩ hahead
        · exact absurd ⟨h, heq.symm⟩ hack

/-- The ACK of the handshake, received a second time. -/
theorem handleSegment_survives_again :
    NoReset exampleServer
        (handleSegment exampleApp ⟨10, 0, 0, 1⟩ exampleAck exampleServer) ∧
      ((handleSegment exampleApp ⟨10, 0, 0, 1⟩ exampleAck exampleServer).self.state ∈
          closedStates →
        exampleServer.self.state = LAST_ACK ∧ has (segControl exampleAck) ACK ∧
          segAck exampleAck = exampleServer.self.localSeq) :=
  (handleSegment_survives_iff (App.calm exampleApp _) (by decide +kernel) (by decide +kernel)
    ⟨10, 0, 0, 1⟩ (by decide +kernel) (by decide +kernel)).mpr (.inl (by decide +kernel))

/-- The server sends three bytes and closes, and then the ACK of its data arrives, whose
checksum is right: the socket is reset and listens again. -/
theorem lateAck_resets :
    let w := (close exampleApp).exec ((send exampleApp 3).exec exampleServer)
    let lateAck : Bytes :=
      [192, 0, 0, 80, 0, 0, 0, 8, 0, 0, 0, 15, 80, 16, 0, 42, 219, 64, 0, 0]
    w.self.state = FIN_WAIT_1 ∧ checksumOk lateAck w.stack.ip.ipAddress w.self.remoteIP ∧
      ¬ has (segControl lateAck) RST ∧
        ¬ (NoReset w (handleSegment exampleApp ⟨10, 0, 0, 1⟩ lateAck w) ∧
          ((handleSegment exampleApp ⟨10, 0, 0, 1⟩ lateAck w).self.state ∈ closedStates →
            w.self.state = LAST_ACK ∧ has (segControl lateAck) ACK ∧
              segAck lateAck = w.self.localSeq)) := by
  refine ⟨by decide +kernel, by decide +kernel, by decide +kernel, fun h => ?_⟩
  exact absurd (h.2 (by decide +kernel)).1 (by decide +kernel)

end Socket

end AtmegaNet
