import AtmegaNet.Quiet

/-!
# Sockets follow the protocol

A registered socket whose application keeps to itself makes a step of the protocol with every
segment it receives. What leaves the host, what the application is offered and what becomes of
the buffers is told by `Moves`.

## Main results

* `handleSegment_refines`: a segment makes a step of `Receives`. `CallRefinement` says the same
  of the calls, the timer and `Acts`.
* `Refines.wired`: a step keeps what it assumed of the socket.
-/

open Procedure

namespace AtmegaNet

namespace Socket

variable {α : Type}

/-! ### The connection of a socket -/

/-- The payload the stash holds for a retransmission. -/
def outstanding (w : World α) : Bytes :=
  match w.self.stash with
  | none => []
  | some b => Region.read w.stack.mem b.root b.base w.self.lastDataLength.toNat

/-- What the protocol sees of a socket. -/
def conn (w : World α) : Conn :=
  ⟨w.self.state, w.self.localSeq, w.self.remoteSeq, outstanding w⟩

/-- A socket is closed in CLOSED or in LISTEN. -/
theorem down_eq (s : Socket) : s.down = CLOSED ∨ s.down = LISTEN := by
  unfold down
  split
  · exact .inr rfl
  · exact .inl rfl

/-- What bounds the connections of a socket. -/
def limits (w : World α) : Limits where
  down := w.self.down
  room := w.stack.room
  stash := match w.self.stash with
    | none => 0
    | some b => b.size.toNat
  down_eq := w.self.down_eq

/-- A registered socket: its buffers are those the handler gave it, and its connection keeps
inside their limits. -/
structure Wired (w : World α) : Prop where
  tcp : w.self.tcp.isSome
  sendBuffer : w.self.sendBuffer = some (OffsetBuffer.reinit w.stack.ipPayload 20 0)
  stash : ∃ b, w.self.stash = some b ∧ b.Fits ∧ b.root = .outbound
  within : (conn w).Within (limits w)

/-- What a socket never changes after its registration. -/
structure Identity (s s' : Socket) : Prop where
  rest : s' = { s with
    state := s'.state, localPort := s'.localPort
    connectOnResolution := s'.connectOnResolution, remoteIP := s'.remoteIP
    remotePort := s'.remotePort, localSeq := s'.localSeq, remoteSeq := s'.remoteSeq
    remoteMSS := s'.remoteMSS, remoteWindow := s'.remoteWindow, stateTime := s'.stateTime
    attempts := s'.attempts, recvBuffer := s'.recvBuffer, lastDataLength := s'.lastDataLength }

/-- What a socket does not change while it has a connection, unless it sends a payload. -/
structure Keeps (s s' : Socket) : Prop where
  identity : Identity s s'
  address : s'.address = s.address
  lastDataLength : s'.lastDataLength = s.lastDataLength

namespace Identity

variable {s s' s'' : Socket}

/-- A socket is itself. -/
theorem refl (s : Socket) : Identity s s := ⟨rfl⟩

/-- Two changes that keep the identity keep it together. -/
theorem trans (h : Identity s s') (h' : Identity s' s'') : Identity s s'' := by
  refine ⟨?_⟩
  rw [h'.rest, h.rest]

/-- The handler stays. -/
theorem tcp (h : Identity s s') : s'.tcp = s.tcp := by rw [h.rest]

/-- The stash stays. -/
theorem stash (h : Identity s s') : s'.stash = s.stash := by rw [h.rest]

/-- The send buffer stays. -/
theorem sendBuffer (h : Identity s s') : s'.sendBuffer = s.sendBuffer := by rw [h.rest]

/-- The timeout stays. -/
theorem timeout (h : Identity s s') : s'.timeout = s.timeout := by rw [h.rest]

/-- The name of the server stays. -/
theorem remoteDomain (h : Identity s s') : s'.remoteDomain = s.remoteDomain := by rw [h.rest]

/-- The state in which the socket is closed stays. -/
theorem down (h : Identity s s') : s'.down = s.down := by rw [h.rest]; rfl

end Identity

namespace Keeps

variable {s s' s'' : Socket}

/-- A socket keeps what it has. -/
theorem refl (s : Socket) : Keeps s s := ⟨.refl s, rfl, rfl⟩

/-- What is kept twice is kept. -/
theorem trans (h : Keeps s s') (h' : Keeps s' s'') : Keeps s s'' :=
  ⟨h.identity.trans h'.identity, h'.address.trans h.address,
    h'.lastDataLength.trans h.lastDataLength⟩

/-- An equal socket keeps everything. -/
theorem of_eq (h : s' = s) : Keeps s s' := h ▸ refl s

/-- An update of the fields that may change keeps the others. -/
theorem of_update {state attempts : UInt8} {connectOnResolution : Bool}
    {localSeq remoteSeq stateTime : UInt32} {remoteMSS remoteWindow : UInt16}
    {recvBuffer : Option Bytes}
    (h : s' = { s with
      state := state, connectOnResolution := connectOnResolution, localSeq := localSeq
      remoteSeq := remoteSeq, remoteMSS := remoteMSS, remoteWindow := remoteWindow
      stateTime := stateTime, attempts := attempts, recvBuffer := recvBuffer }) :
    Keeps s s' := by
  subst h
  exact ⟨⟨rfl⟩, rfl, rfl⟩

end Keeps

/-! ### Steps -/

/-- A step of a socket with the effect `e`, which may first fill the socket's own stash. -/
def Moves (w : World α) (e : Effect) (w' : World α) : Prop :=
  ∃ m : Memory, (∀ r i, (∀ b, w.self.stash = some b →
      r ≠ b.root ∨ i < b.base ∨ b.base + b.size.toNat ≤ i) → m r i = w.stack.mem r i) ∧
    Emits { w with stack := { w.stack with mem := m } } e w'

/-- What emits an effect moves by it. -/
theorem Emits.moves {w w' : World α} {e : Effect} (h : Emits w e w') : Moves w e w' :=
  ⟨w.stack.mem, fun _ _ _ => rfl, h⟩

/-- What a function does to a socket is a step of the protocol. -/
structure Refines (P : Effect → Conn → Prop) (w w' : World α) : Prop where
  step : ∃ e, P e (conn w') ∧ Moves w e w'
  identity : Identity w.self w'.self
  address : w.self.state ∉ unopened → w'.self.address = w.self.address

/-- Emitting keeps the room for a segment. -/
theorem Emits.room {w w' : World α} {e : Effect} (h : Emits w e w') :
    w'.stack.room = w.stack.room := by
  rw [h.rest]
  rfl

/-- Moving keeps the room for a segment. -/
theorem Moves.room {w w' : World α} {e : Effect} (h : Moves w e w') :
    w'.stack.room = w.stack.room := by
  obtain ⟨m, -, h⟩ := h
  exact h.room

/-- Moving keeps the window for IP payloads where it is. -/
theorem Moves.ipPayload {w w' : World α} {e : Effect} (h : Moves w e w') :
    w'.stack.ipPayload = w.stack.ipPayload := by
  obtain ⟨m, -, h⟩ := h
  rw [h.rest]
  rfl

/-- The limits of a socket are those of its identity and its room. -/
theorem limits_eq {w w' : World α} (hid : Identity w.self w'.self)
    (hroom : w'.stack.room = w.stack.room) : limits w' = limits w := by
  unfold limits
  rw [Limits.mk.injEq, hid.stash, hid.down, hroom]
  exact ⟨rfl, rfl, rfl⟩

/-- A step keeps what it assumed of the socket. -/
theorem Refines.wired {P : Effect → Conn → Prop} {w w' : World α} (h : Refines P w w')
    (hw : Wired w) (hP : ∀ e c, P e c → c.Within (limits w)) : Wired w' := by
  obtain ⟨e, he, hmoves⟩ := h.step
  refine ⟨by rw [h.identity.tcp]; exact hw.tcp, ?_, ?_, ?_⟩
  · rw [h.identity.sendBuffer, hw.sendBuffer, hmoves.ipPayload]
  · rw [h.identity.stash]
    exact hw.stash
  · rw [limits_eq h.identity hmoves.room]
    exact hP e _ he

/-- What the stash holds is not touched. -/
theorem outstanding_eq {w w' : World α} {e : Effect} (h : Emits w e w')
    (hid : Identity w.self w'.self) (hlen : w'.self.lastDataLength = w.self.lastDataLength)
    (hw : Wired w) : outstanding w' = outstanding w := by
  obtain ⟨b, hb, -, hroot⟩ := hw.stash
  have hmem := h.other b.root (by rw [hroot]; decide)
  unfold outstanding
  rw [hid.stash, hb, hlen]
  exact Region.read_congr fun i _ => by rw [hmem]

/-- A stretch of a function with the effect `e` that leaves the connection `c`, up to the
payload, which it leaves alone. The socket may get a new peer. -/
structure Begins (w : World α) (e : Effect) (c : Conn) (w' : World α) : Prop where
  emits : Emits w e w'
  identity : Identity w.self w'.self
  lastDataLength : w'.self.lastDataLength = w.self.lastDataLength
  state : w'.self.state = c.state
  localSeq : w'.self.localSeq = c.localSeq
  remoteSeq : w'.self.remoteSeq = c.remoteSeq

/-- Such a stretch that leaves the peer alone as well. -/
structure Yields (w : World α) (e : Effect) (c : Conn) (w' : World α) : Prop where
  emits : Emits w e w'
  keeps : Keeps w.self w'.self
  state : w'.self.state = c.state
  localSeq : w'.self.localSeq = c.localSeq
  remoteSeq : w'.self.remoteSeq = c.remoteSeq

namespace Begins

variable {w w₁ w₂ : World α} {e : Effect} {c : Conn}

/-- Such a function makes a step. -/
theorem refines {P : Effect → Conn → Prop} (h : Begins w e c w₁) (hw : Wired w)
    (haddr : w.self.state ∉ unopened → w₁.self.address = w.self.address)
    (hdata : c.data = (conn w).data) (hP : P e c) : Refines P w w₁ := by
  refine ⟨⟨e, ?_, h.emits.moves⟩, h.identity, haddr⟩
  have hconn : conn w₁ = c := by
    rw [conn, h.state, h.localSeq, h.remoteSeq,
      outstanding_eq h.emits h.identity h.lastDataLength hw]
    exact congrArg (Conn.mk _ _ _) hdata.symm
  rwa [hconn]

/-- A socket gets a new peer before it sends. -/
theorem after_tells {o : Option Sending} (h : Tells w none w₁) (hid : Identity w.self w₁.self)
    (hlen : w₁.self.lastDataLength = w.self.lastDataLength)
    (h' : Yields w₁ { sends := o } c w₂) : Begins w { sends := o } c w₂ :=
  ⟨h.then_emits hid.remoteDomain h'.emits, hid.trans h'.keeps.identity,
    h'.keeps.lastDataLength.trans hlen, h'.state, h'.localSeq, h'.remoteSeq⟩

end Begins

namespace Yields

variable {w w₁ w₂ : World α} {e : Effect} {c c' : Conn}

/-- What yields an effect begins it. -/
theorem begins (h : Yields w e c w₁) : Begins w e c w₁ :=
  ⟨h.emits, h.keeps.identity, h.keeps.lastDataLength, h.state, h.localSeq, h.remoteSeq⟩

/-- Such a function makes a step. -/
theorem refines {P : Effect → Conn → Prop} (h : Yields w e c w₁) (hw : Wired w)
    (hdata : c.data = (conn w).data) (hP : P e c) : Refines P w w₁ :=
  h.begins.refines hw (fun _ => h.keeps.address) hdata hP

/-- Events before. -/
theorem after_tells {d : Option (Bytes × Bool)} {o : Option Sending} (h : Tells w d w₁)
    (hkeep : Keeps w.self w₁.self) (h' : Yields w₁ { sends := o } c w₂) :
    Yields w { sends := o, delivers := d } c w₂ :=
  ⟨h.then_emits hkeep.identity.remoteDomain h'.emits, hkeep.trans h'.keeps, h'.state,
    h'.localSeq, h'.remoteSeq⟩

/-- Events after. -/
theorem then_tells {d : Conn} (h : Yields w e c w₁) (h' : Tells w₁ none w₂)
    (hkeep : Keeps w₁.self w₂.self) (hs : w₂.self.state = d.state)
    (hl : w₂.self.localSeq = d.localSeq) (hr : w₂.self.remoteSeq = d.remoteSeq) :
    Yields w e d w₂ :=
  ⟨h.emits.then_tells h' hkeep.address, h.keeps.trans hkeep, hs, hl, hr⟩

/-- Events only. -/
theorem of_tells {d : Option (Bytes × Bool)} (h : Tells w d w₁) (hkeep : Keeps w.self w₁.self)
    (hs : w₁.self.state = c.state) (hl : w₁.self.localSeq = c.localSeq)
    (hr : w₁.self.remoteSeq = c.remoteSeq) : Yields w { delivers := d } c w₁ :=
  ⟨h.emits, hkeep, hs, hl, hr⟩

/-- Nothing yields no effect. -/
theorem refl (w : World α) : Yields w {} (conn w) w := of_tells (.refl w) (.refl _) rfl rfl rfl

/-- An effect that leaves the socket as it is. -/
theorem of_self (h : Emits w e w₁) (hself : w₁.self = w.self) : Yields w e (conn w) w₁ := by
  refine ⟨h, .of_eq hself, ?_, ?_, ?_⟩ <;> rw [hself] <;> rfl

end Yields

/-! ### Closing by force -/

section App

variable (a : App α) {w : World α}

/-- Emitting takes no time. -/
theorem Emits.millis {w w' : World α} {e : Effect} (h : Emits w e w') :
    w'.stack.millis = w.stack.millis := by
  rw [h.rest]

/-- `forceClose` emits a RST, and closes the socket. -/
theorem forceClose_emits (htcp : w.self.tcp.isSome) :
    Emits w { sends := (conn w).abortion } (forceClose a.callbacks w) ∧
      (forceClose a.callbacks w).self =
        { w.self with state := w.self.down, stateTime := w.stack.millis } := by
  unfold forceClose
  dsimp only
  by_cases h : w.self.state = TIME_WAIT
  · rw [if_neg (by simpa using h), self_closed]
    refine ⟨?_, rfl⟩
    rw [Conn.abortion, if_pos (show (conn w).state = TIME_WAIT from h)]
    exact (Tells.closed a w).emits
  · obtain ⟨hemits, hself⟩ := emits_reset a htcp w.self.localSeq w.self.remoteSeq
    rw [if_pos rfl] at hemits
    rw [if_pos (by simpa using h), self_closed, hself, hemits.millis]
    refine ⟨?_, rfl⟩
    rw [Conn.abortion, if_neg (show ¬ (conn w).state = TIME_WAIT from h)]
    refine hemits.then_tells (Tells.closed a _) ?_
    rw [self_closed]
    rfl

/-! ### A segment in order -/

/-- A received segment, with the answer the application would give to its payload. -/
def segmentOf (a : App α) (buf : Bytes) (w : World α) : Segment where
  control := segControl buf
  seq := segSeq buf
  ack := segAck buf
  payloadSize := segPayloadSize buf
  payload := segPayload buf
  accepted := (a.onDataReceived (segPayload buf) w.app).1

/-- What offering a payload does: the application may change, and with it the number that is
acknowledged. -/
theorem offerPayload_tells (seq : UInt32) (payloadSize : UInt16) (payload : Bytes) (w : World α) :
    let w' := offerPayload a.callbacks seq payloadSize payload w
    let accepted := (a.onDataReceived payload w.app).1
    Tells w (if payload.length > 0 then some (payload, accepted) else none) w' ∧
      Keeps w.self w'.self ∧ w'.self.state = w.self.state ∧ w'.self.localSeq = w.self.localSeq ∧
      w'.self.remoteSeq = if payload.length > 0 ∧ accepted then
        seq + payloadSize.toUInt32 else w.self.remoteSeq := by
  dsimp only
  unfold offerPayload
  by_cases hlen : payload.length > 0
  · rw [if_pos hlen, if_pos hlen]
    have htells : Tells w (some (payload, (a.onDataReceived payload w.app).1))
        ((a.callbacks.onDataReceived payload w).2.observe
          (.received w.this payload (a.onDataReceived payload w.app).1)) :=
      ⟨rfl, [.received w.this payload (a.onDataReceived payload w.app).1],
        w.stack.ip.nextPort, rfl, rfl, by simp [receivedOf]⟩
    cases hacc : (a.onDataReceived payload w.app).1 with
    | true =>
        have hcb : (a.callbacks.onDataReceived payload w).1 = true := hacc
        rw [hacc] at htells
        simp only [hcb, if_true, hlen, and_self]
        exact ⟨htells.trans_none (Tells.setSelf _ _), .of_update rfl, rfl, rfl, rfl⟩
    | false =>
        have hcb : (a.callbacks.onDataReceived payload w).1 = false := hacc
        rw [hacc] at htells
        simp only [hcb, if_neg, and_false, Bool.false_eq_true, not_false_eq_true]
        exact ⟨htells, .refl _, rfl, rfl, rfl⟩
  · rw [if_neg hlen, if_neg hlen, if_neg fun h => hlen h.1]
    exact ⟨.refl w, .refl _, rfl, rfl, rfl⟩

/-- Counting a FIN says nothing, and moves `remoteSeq` at most. -/
theorem keeps_countFin (opt : UInt8) (w : World α) :
    Tells w none (countFin opt w) ∧ Keeps w.self (countFin opt w).self ∧
      (countFin opt w).app = w.app ∧ (countFin opt w).self.state = w.self.state ∧
      (countFin opt w).self.localSeq = w.self.localSeq ∧ (countFin opt w).self.remoteSeq =
        if has opt FIN then w.self.remoteSeq + 1 else w.self.remoteSeq := by
  unfold countFin
  split
  · exact ⟨Tells.setSelf w _, .of_update rfl, rfl, rfl, rfl, rfl⟩
  · exact ⟨.refl w, .refl _, rfl, rfl, rfl, rfl⟩

/-- The number a segment in order is acknowledged with, from what is read of it. -/
def ackNumber (opt : UInt8) (seq : UInt32) (payloadSize : UInt16) (payload : Bytes)
    (accepted : Bool) (remoteSeq : UInt32) : UInt32 :=
  if payload.length > 0 ∧ accepted then seq + payloadSize.toUInt32
  else if has opt FIN then remoteSeq + 1
  else remoteSeq

/-- A payload is delivered, counted if the application takes it, and acknowledged. -/
theorem handlePayload_yields (htcp : w.self.tcp.isSome) (opt : UInt8) (seq : UInt32)
    (payloadSize : UInt16) (payload : Bytes) :
    let accepted := (a.onDataReceived payload w.app).1
    let number := ackNumber opt seq payloadSize payload accepted w.self.remoteSeq
    Yields w { sends := some ⟨ACK, w.self.localSeq, number, []⟩
               delivers := if payload.length > 0 then some (payload, accepted) else none }
      { conn w with remoteSeq := number }
      (handlePayload a.callbacks opt seq payloadSize payload w) := by
  obtain ⟨ht₂, hk₂, happ₂, hs₂, hl₂, hr₂⟩ :=
    keeps_countFin opt (w.setSelf { w.self with recvBuffer := some payload })
  have ht₁ := Tells.setSelf w { w.self with recvBuffer := some payload }
  have hk₁ : Keeps w.self (w.setSelf { w.self with recvBuffer := some payload }).self :=
    .of_update rfl
  unfold handlePayload
  generalize countFin opt (w.setSelf { w.self with recvBuffer := some payload }) = w₂ at *
  obtain ⟨ht₃, hk₃, hs₃, hl₃, hr₃⟩ := offerPayload_tells a seq payloadSize payload w₂
  rw [happ₂] at ht₃ hr₃
  generalize offerPayload a.callbacks seq payloadSize payload w₂ = w₃ at *
  have hkeep := hk₁.trans (hk₂.trans hk₃)
  obtain ⟨hemits, hself⟩ := emits_sendACK a (w := w₃) (by rw [hkeep.identity.tcp]; exact htcp)
  have hnumber : w₃.self.remoteSeq = ackNumber opt seq payloadSize payload
      (a.onDataReceived payload w.app).1 w.self.remoteSeq := by
    rw [hr₃, hr₂]
    rfl
  rw [hl₃, hl₂, hnumber] at hemits
  refine .after_tells (ht₁.trans (ht₂.trans ht₃)) hkeep ⟨hemits, .of_eq hself, ?_, ?_, ?_⟩
  · rw [hself, hs₃, hs₂]
    rfl
  · rw [hself, hl₃, hl₂]
    rfl
  · rw [hself, hnumber]

/-- In the states that pass for ESTABLISHED a FIN leads to CLOSE_WAIT. -/
theorem finState_open (ack : UInt32) (h : w.self.state &&& 0x0F = ESTABLISHED) :
    finState a.callbacks ack w = setState a.callbacks CLOSE_WAIT w := by
  have hne : ∀ state : UInt8, state &&& 0x0F ≠ ESTABLISHED → ¬ w.self.state = state := by
    rintro state hne rfl
    exact hne h
  unfold finState
  rw [if_neg (hne _ (by decide)), if_neg (hne _ (by decide)), if_pos h]

/-- The events of a FIN, once it is acknowledged. -/
theorem finState_tells (ack : UInt32) (h : w.self.state &&& 0x0F = ESTABLISHED) :
    let w' := fire a.callbacks .onRemoteClosed (finState a.callbacks ack w)
    Tells w none w' ∧
      w'.self = { w.self with state := CLOSE_WAIT, stateTime := w.stack.millis } := by
  dsimp only
  rw [finState_open a ack h, self_fire, self_setState]
  exact ⟨(Tells.setState a CLOSE_WAIT w).trans (Tells.fire a _ _), rfl⟩

/-- A FIN without payload is acknowledged. -/
theorem handleFin_empty (htcp : w.self.tcp.isSome) (ack : UInt32)
    (h : w.self.state &&& 0x0F = ESTABLISHED) :
    Yields w { sends := some ⟨ACK, w.self.localSeq, w.self.remoteSeq + 1, []⟩ }
      { conn w with state := CLOSE_WAIT, remoteSeq := w.self.remoteSeq + 1 }
      (handleFin a.callbacks ack 0 w) := by
  obtain ⟨hemits, hself⟩ := emits_sendACK a
    (w := w.setSelf { w.self with remoteSeq := w.self.remoteSeq + 1 }) htcp
  have hack : acknowledgeFin a.callbacks 0 w =
      sendACK a.callbacks (w.setSelf { w.self with remoteSeq := w.self.remoteSeq + 1 }) := rfl
  unfold handleFin
  rw [hack]
  generalize sendACK a.callbacks (w.setSelf { w.self with remoteSeq := w.self.remoteSeq + 1 }) =
    w₁ at hemits hself
  obtain ⟨htells, hself'⟩ := finState_tells a (w := w₁) ack (by rw [hself]; exact h)
  refine .after_tells (Tells.setSelf w _) (.of_update rfl)
    ⟨hemits.then_tells htells (by rw [hself']; rfl),
      (Keeps.of_eq hself).trans (.of_update hself'), ?_, ?_, ?_⟩
  · rw [hself']
  · rw [hself', hself]
    rfl
  · rw [hself', hself]
    rfl

/-- A FIN behind a payload has been acknowledged with it. -/
theorem handleFin_after (ack : UInt32) {payloadSize : UInt16} (hp : payloadSize ≠ 0)
    (h : w.self.state &&& 0x0F = ESTABLISHED) :
    Tells w none (handleFin a.callbacks ack payloadSize w) ∧
      (handleFin a.callbacks ack payloadSize w).self =
        { w.self with state := CLOSE_WAIT, stateTime := w.stack.millis } := by
  unfold handleFin
  rw [acknowledgeFin, if_neg hp]
  exact finState_tells a ack h

/-- A segment in order, before what was outstanding is cleared. -/
theorem handleInOrder_yields (htcp : w.self.tcp.isSome) (buf : Bytes)
    (h : w.self.state &&& 0x0F = ESTABLISHED) :
    Yields w ((conn w).inOrderEffect (segmentOf a buf w))
      { conn w with
        remoteSeq := (conn w).acknowledges (segmentOf a buf w)
        state := if has (segControl buf) FIN then CLOSE_WAIT else w.self.state }
      (handleInOrder a.callbacks buf (segControl buf) (segAck buf) (segSeq buf) (segWords buf) w) := by
  have hsize : (viewOf buf).size - (segWords buf).toUInt16 * 4 = segPayloadSize buf := rfl
  have hpay : buf.drop ((segWords buf).toNat * 4) = segPayload buf := rfl
  unfold handleInOrder
  dsimp only
  rw [hsize, hpay]
  have hnumber : ∀ accepted, segPayloadSize buf > 0 → ackNumber (segControl buf) (segSeq buf)
      (segPayloadSize buf) (segPayload buf) accepted w.self.remoteSeq =
        (conn w).acknowledges { segmentOf a buf w with accepted := accepted } := by
    intro accepted hp
    rw [ackNumber, Conn.acknowledges]
    exact if_congr (by simp [Conn.takes, segmentOf, hp]) rfl rfl
  have hpayload := handlePayload_yields a htcp (segControl buf) (segSeq buf)
    (segPayloadSize buf) (segPayload buf)
  dsimp only at hpayload
  by_cases hp : segPayloadSize buf > 0
  · rw [hnumber _ hp] at hpayload
    rw [if_pos hp]
    have heffect : (conn w).inOrderEffect (segmentOf a buf w) =
        ⟨some ⟨ACK, w.self.localSeq, (conn w).acknowledges (segmentOf a buf w), []⟩,
          if (segPayload buf).length > 0 then some (segPayload buf,
            (a.onDataReceived (segPayload buf) w.app).1) else none⟩ := by
      rw [Conn.inOrderEffect, if_pos (.inl hp)]
      congr 1
      exact if_congr (and_iff_right hp) rfl rfl
    rw [heffect]
    by_cases hfin : has (segControl buf) FIN
    · have hne : segPayloadSize buf ≠ 0 := fun h0 => absurd (h0 ▸ hp) (by decide)
      rw [if_pos hfin, if_pos hfin]
      obtain ⟨htells, hself⟩ := handleFin_after a (w := handlePayload a.callbacks
        (segControl buf) (segSeq buf) (segPayloadSize buf) (segPayload buf) w) (segAck buf)
        hne (by rw [hpayload.state]; exact h)
      exact hpayload.then_tells htells (.of_update hself) (by rw [hself])
        (by rw [hself]; exact hpayload.localSeq) (by rw [hself]; exact hpayload.remoteSeq)
    · rw [if_neg hfin, if_neg hfin]
      exact hpayload
  · have hzero : segPayloadSize buf = 0 := by
      rw [gt_iff_lt, UInt16.lt_iff_toNat_lt] at hp
      exact UInt16.toNat_inj.mp (Nat.eq_zero_of_not_pos hp)
    have htakes : (conn w).acknowledges (segmentOf a buf w) =
        if has (segControl buf) FIN then w.self.remoteSeq + 1 else w.self.remoteSeq := by
      rw [Conn.acknowledges, if_neg]
      · rfl
      · simp [Conn.takes, segmentOf, hzero]
    rw [if_neg hp, Conn.inOrderEffect, htakes]
    simp only [segmentOf, hp, false_or, false_and, if_false]
    by_cases hfin : has (segControl buf) FIN
    · simp only [if_pos hfin]
      rw [hzero]
      exact handleFin_empty a htcp (segAck buf) h
    · simp only [if_neg hfin]
      exact Yields.refl w

/-- Closing a socket yields no effect of the protocol. -/
theorem closed_yields (w : World α) :
    Yields w {} { conn w with state := w.self.down } (closed a.callbacks w) := by
  refine .of_tells (Tells.closed a w) (.of_update (self_closed a w)) ?_ ?_ ?_ <;>
    rw [self_closed] <;> rfl

/-- Entering a state yields no effect of the protocol. -/
theorem setState_yields (state : UInt8) (w : World α) :
    Yields w {} { conn w with state := state } (setState a.callbacks state w) := by
  refine .of_tells (Tells.setState a state w) (.of_update (self_setState a w state)) ?_ ?_ ?_ <;>
    rw [self_setState] <;> rfl

/-- A function that only fires an event after another. -/
theorem Yields.then_fire {e : Effect} {c : Conn} {w w₁ : World α} (h : Yields w e c w₁)
    (ev : Event) : Yields w e c (fire a.callbacks ev w₁) :=
  h.then_tells (Tells.fire a ev w₁) (.refl _) h.state h.localSeq h.remoteSeq

/-! ### The rules of `Receives` -/

variable {buf : Bytes} {localIP remoteIP : IPAddr} (hw : Wired w)

include hw

/-- A segment on an established connection is received as the protocol receives it. -/
theorem handleEstablished_refines (hsum : checksumOk buf localIP remoteIP)
    (hadmits : (conn w).Admits (segmentOf a buf w)) (hopen : (conn w).Open) :
    Refines (Receives (limits w) (segmentOf a buf w) (conn w)) w
      (handleEstablished a.callbacks buf (segControl buf) (segAck buf) (segSeq buf) w) := by
  unfold handleEstablished
  dsimp only
  by_cases hack : has (segControl buf) ACK
  · rw [if_neg (by simp [hack])]
    by_cases hseq : segSeq buf = w.self.remoteSeq
    · rw [if_neg (not_not.mpr hseq), read_segWords hsum]
      dsimp only
      have hin := handleInOrder_yields a hw.tcp buf hopen
      have hrule := Receives.inOrder (k := limits w) hadmits hopen hack hseq
      by_cases hclear : segAck buf = w.self.localSeq ∧ has w.self.state AWAITING_ACK
      · rw [if_pos hclear]
        refine (hin.then_tells (d := (conn w).inOrder (segmentOf a buf w))
          ((Tells.setSelf _ _).trans (Tells.fire a _ _)) (.of_update rfl) ?_ ?_ ?_).refines
            hw rfl hrule
        · show (handleInOrder _ _ _ _ _ _ _).self.state &&& 0x0F = _
          rw [hin.state]
          exact (if_pos hclear).symm
        · exact hin.localSeq
        · exact hin.remoteSeq
      · rw [if_neg hclear]
        refine Yields.refines (c := (conn w).inOrder (segmentOf a buf w))
          ⟨hin.emits, hin.keeps, ?_, hin.localSeq, hin.remoteSeq⟩ hw rfl hrule
        rw [hin.state]
        exact (if_neg hclear).symm
    · rw [if_pos hseq]
      obtain ⟨hemits, hself⟩ := emits_sendACK a hw.tcp
      exact (Yields.of_self hemits hself).refines hw rfl (.outOfOrder hadmits hopen hack hseq)
  · rw [if_pos (by simp [hack])]
    exact (Yields.refl w).refines hw rfl (.noAck hadmits hopen hack)

/-- A RST is received as the protocol receives it. -/
theorem handleReset_refines (hrefuses : ¬ (conn w).Refuses (segmentOf a buf w))
    (hchallenges : ¬ (conn w).Challenges (segmentOf a buf w)) (hrst : has (segControl buf) RST) :
    Refines (Receives (limits w) (segmentOf a buf w) (conn w)) w
      (handleReset a.callbacks (segAck buf) (segSeq buf) w) := by
  have hclosed := closed_yields a w
  have hreset := fun hobeys => Receives.reset (k := limits w) hrefuses hchallenges hrst hobeys
  unfold handleReset
  split_ifs with h1 h2 h3 h4
  · exact (hclosed.then_fire a _).refines hw rfl (hreset (.inl h1))
  · refine (Yields.refl w).refines hw rfl (.resetIgnored hrefuses hchallenges hrst ?_)
    exact fun h => h.elim h1 fun h' => h'.2 h3
  · exact hclosed.refines hw rfl (hreset (.inr ⟨h2, h3⟩))
  · exact (hclosed.then_fire a _).refines hw rfl (hreset (.inr ⟨h2, h3⟩))
  · refine (Yields.refl w).refines hw rfl (.resetIgnored hrefuses hchallenges hrst ?_)
    exact fun h => h.elim h1 fun h' => h2 h'.1

/-- A segment that is refused is refused as the protocol refuses it. -/
theorem refuse_refines (hrefuses : (conn w).Refuses (segmentOf a buf w)) (seq ack : UInt32) :
    Refines (Receives (limits w) (segmentOf a buf w) (conn w)) w
      ((reset a.callbacks seq ack).exec w) := by
  obtain ⟨hemits, hself⟩ := emits_reset a hw.tcp seq ack
  refine (Yields.of_self hemits hself).refines hw rfl (.refuse seq ack hrefuses ?_)
  split
  · exact .inr rfl
  · exact .inl rfl

/-- An acknowledgement behind ESTABLISHED is received as the protocol receives it. -/
theorem handleAck_refines (hadmits : (conn w).Admits (segmentOf a buf w))
    (hopens : ¬ (conn w).Opens (segmentOf a buf w)) (hopen : ¬ (conn w).Open)
    (hack : (conn w).Acknowledged (segmentOf a buf w)) :
    Refines (Receives (limits w) (segmentOf a buf w) (conn w)) w (handleAck a.callbacks w) := by
  have hrule := Receives.acked (k := limits w) hadmits hopens hopen hack
  have hafter : (conn w).afterAck (limits w).down = if w.self.state = SYN_RECEIVED then ESTABLISHED
    else if w.self.state = FIN_WAIT_1 then FIN_WAIT_2
    else if w.self.state = CLOSING then TIME_WAIT
    else if w.self.state = LAST_ACK then w.self.down
    else w.self.state := rfl
  rw [hafter] at hrule
  unfold handleAck
  split_ifs at hrule ⊢
  · exact (setState_yields a _ w).refines hw rfl hrule
  · exact (setState_yields a _ w).refines hw rfl hrule
  · exact (setState_yields a _ w).refines hw rfl hrule
  · exact (closed_yields a w).refines hw rfl hrule
  · exact (Yields.refl w).refines hw rfl hrule

omit hw in
/-- Reading the MSS option sets `remoteMSS`, and nothing else. -/
theorem readMSS_eq (v : View) (tcp_header_size : UInt8) (w : World α) :
    ∃ mss, readMSS v tcp_header_size w = w.setSelf { w.self with remoteMSS := mss } := by
  unfold readMSS
  dsimp only
  split_ifs
  · exact ⟨_, rfl⟩
  · exact ⟨w.self.remoteMSS, rfl⟩
  · exact ⟨w.self.remoteMSS, rfl⟩

omit hw in
/-- What a socket notes of the SYN or SYN+ACK of its peer. -/
theorem Tells.peer (w : World α) (seq : UInt32) (mss : UInt16) :
    Tells w none (w.setSelf { w.self with remoteSeq := seq + 1, remoteMSS := mss }) ∧
      Keeps w.self (w.setSelf { w.self with remoteSeq := seq + 1, remoteMSS := mss }).self :=
  ⟨Tells.setSelf w _, .of_update rfl⟩

/-- A SYN in SYN_SENT is received as the protocol receives it. -/
theorem simultaneousOpen_refines (hsum : checksumOk buf localIP remoteIP)
    (hadmits : (conn w).Admits (segmentOf a buf w)) (hstate : w.self.state = SYN_SENT)
    (hsyn : segControl buf = SYN) :
    Refines (Receives (limits w) (segmentOf a buf w) (conn w)) w
      (simultaneousOpen a.callbacks (viewOf buf) (segSeq buf) w) := by
  unfold simultaneousOpen
  dsimp only
  rw [read_segWords hsum]
  dsimp only
  obtain ⟨mss, hmss⟩ := readMSS_eq (viewOf buf) (segWords buf)
    (w.setSelf { w.self with remoteSeq := segSeq buf + 1 })
  obtain ⟨ht, hk⟩ := Tells.peer w (segSeq buf) mss
  have hset := setState_yields a SYN_RECEIVED
    (w.setSelf { w.self with remoteSeq := segSeq buf + 1, remoteMSS := mss })
  have htells := Tells.setState a SYN_RECEIVED
    (w.setSelf { w.self with remoteSeq := segSeq buf + 1, remoteMSS := mss })
  rw [hmss]
  change Refines _ _ (sendACK _ (setState _ _
    (w.setSelf { w.self with remoteSeq := segSeq buf + 1, remoteMSS := mss })))
  generalize setState a.callbacks SYN_RECEIVED
    (w.setSelf { w.self with remoteSeq := segSeq buf + 1, remoteMSS := mss }) = w₁ at *
  have hkeep := hk.trans hset.keeps
  obtain ⟨hemits, hself⟩ := emits_sendACK a (w := w₁) (by rw [hkeep.identity.tcp]; exact hw.tcp)
  rw [hset.localSeq, hset.remoteSeq] at hemits
  refine (Yields.after_tells (c := { conn w with
    state := SYN_RECEIVED, remoteSeq := segSeq buf + 1 }) (ht.trans htells) hkeep
      ⟨hemits, .of_eq hself, ?_, ?_, ?_⟩).refines hw rfl (.simultaneousOpen hadmits hstate hsyn)
  · rw [hself]
    exact hset.state
  · rw [hself]
    exact hset.localSeq
  · rw [hself]
    exact hset.remoteSeq

/-- A SYN and ACK in SYN_SENT is received as the protocol receives it. -/
theorem activeOpen_refines (hsum : checksumOk buf localIP remoteIP)
    (hadmits : (conn w).Admits (segmentOf a buf w)) (hstate : w.self.state = SYN_SENT)
    (hsyn : segControl buf = ACK ||| SYN) (hack : segAck buf = w.self.localSeq) :
    Refines (Receives (limits w) (segmentOf a buf w) (conn w)) w
      (activeOpen a.callbacks (viewOf buf) (segSeq buf) w) := by
  unfold activeOpen
  dsimp only
  rw [read_segWords hsum]
  dsimp only
  obtain ⟨mss, hmss⟩ := readMSS_eq (viewOf buf) (segWords buf)
    (w.setSelf { w.self with remoteSeq := segSeq buf + 1 })
  obtain ⟨ht, hk⟩ := Tells.peer w (segSeq buf) mss
  rw [hmss]
  change Refines _ _ (setState _ _ (sendACK _
    (w.setSelf { w.self with remoteSeq := segSeq buf + 1, remoteMSS := mss })))
  obtain ⟨hemits, hself⟩ := emits_sendACK a
    (w := w.setSelf { w.self with remoteSeq := segSeq buf + 1, remoteMSS := mss }) hw.tcp
  have hyields := Yields.after_tells ht hk (Yields.of_self hemits hself)
  have hset := setState_yields a ESTABLISHED (sendACK a.callbacks
    (w.setSelf { w.self with remoteSeq := segSeq buf + 1, remoteMSS := mss }))
  refine (hyields.then_tells (d := { conn w with
    state := ESTABLISHED, remoteSeq := segSeq buf + 1 }) (Tells.setState a _ _) hset.keeps ?_ ?_
      ?_).refines hw rfl (.activeOpen hadmits hstate hsyn hack)
  · exact hset.state
  · exact hset.localSeq.trans hyields.localSeq
  · exact hset.remoteSeq.trans hyields.remoteSeq

omit hw in
/-- What is left of `passiveOpen` once the segment is read. -/
theorem passiveOpen_eq (hsum : checksumOk buf localIP remoteIP) :
    ∃ port mss, passiveOpen a.callbacks (viewOf buf) (segSeq buf) w =
      let w := w.setSelf { w.self with
        remoteSeq := segSeq buf + 1, remotePort := port, remoteMSS := mss }
      let sent := (sendSegment a.callbacks (SYN ||| ACK) 0 0 0).succeeds w
      let w := (sendSegment a.callbacks (SYN ||| ACK) 0 0 0).exec w
      if sent then
        let w := setState a.callbacks SYN_RECEIVED w
        w.setSelf { w.self with attempts := 1 }
      else w := by
  have hport : ∀ i, i + 2 ≤ 18 → ∃ port, (viewOf buf).readNet16 i = some port := by
    intro i hi
    have hread := isSome_read_of_checksumOk hsum hi
    exact Option.isSome_iff_exists.mp
      (by rwa [View.readNet16, Option.isSome_map, View.read16, Option.isSome_map])
  obtain ⟨port₂, hport₂⟩ := hport 2 (by decide)
  obtain ⟨port, hport₀⟩ := hport 0 (by decide)
  obtain ⟨mss, hmss⟩ := readMSS_eq (viewOf buf) (segWords buf)
    (w.setSelf { w.self with remoteSeq := segSeq buf + 1, remotePort := port₂ })
  refine ⟨port, mss, ?_⟩
  unfold passiveOpen
  dsimp only
  rw [hport₂, read_segWords hsum]
  dsimp only
  rw [show ((w.setSelf { w.self with remoteSeq := segSeq buf + 1 }).setSelf
    { (w.setSelf { w.self with remoteSeq := segSeq buf + 1 }).self with
      remotePort := port₂ }) = w.setSelf { w.self with
        remoteSeq := segSeq buf + 1, remotePort := port₂ } from rfl, hmss, hport₀]
  rfl

omit hw in
/-- A SYN or FIN that fits, as a stretch. -/
theorem sendFlag_yields (htcp : w.self.tcp.isSome) {control : UInt8}
    (hc : control ∈ sentControls) (hflag : has control SYN ∨ has control FIN)
    (hfit : 20 + (optionBytes control w.stack).length ≤ w.stack.room) :
    (sendSegment a.callbacks control 0 0 0).succeeds w ∧
      Yields w { sends := some ⟨control, w.self.localSeq, w.self.remoteSeq, []⟩ }
        { conn w with localSeq := w.self.localSeq + 1 }
        ((sendSegment a.callbacks control 0 0 0).exec w) := by
  obtain ⟨hsent, hemits, hself⟩ := emits_sendFlag a htcp hc hflag hfit
  refine ⟨hsent, hemits, .of_update hself, ?_, ?_, ?_⟩ <;> rw [hself] <;> rfl

/-- A SYN in LISTEN is received as the protocol receives it. -/
theorem passiveOpen_refines (hsum : checksumOk buf localIP remoteIP)
    (hadmits : (conn w).Admits (segmentOf a buf w)) (hstate : w.self.state = LISTEN)
    (hsyn : segControl buf = SYN) :
    Refines (Receives (limits w) (segmentOf a buf w) (conn w)) w
      (passiveOpen a.callbacks (viewOf buf) (segSeq buf) w) := by
  obtain ⟨port, mss, heq⟩ := passiveOpen_eq a (w := w) hsum
  rw [heq]
  dsimp only
  have haddr : ∀ w' : World α, w.self.state ∉ unopened → w'.self.address = w.self.address :=
    fun _ h => absurd (hstate ▸ by decide : w.self.state ∈ unopened) h
  obtain ⟨w₁, hw₁⟩ : ∃ w₁, w₁ = w.setSelf { w.self with
    remoteSeq := segSeq buf + 1, remotePort := port, remoteMSS := mss } := ⟨_, rfl⟩
  have ht : Tells w none w₁ := hw₁ ▸ Tells.setSelf w _
  have hid : Identity w.self w₁.self := by rw [hw₁]; exact ⟨rfl⟩
  have hlen : w₁.self.lastDataLength = w.self.lastDataLength := by rw [hw₁]; rfl
  have hstate₁ : w₁.self.state = LISTEN := by rw [hw₁]; exact hstate
  have hl₁ : w₁.self.localSeq = w.self.localSeq := by rw [hw₁]; rfl
  have hr₁ : w₁.self.remoteSeq = segSeq buf + 1 := by rw [hw₁]; rfl
  have hstack : w₁.stack = w.stack := by rw [hw₁]; rfl
  have htcp : w₁.self.tcp.isSome := by rw [hid.tcp]; exact hw.tcp
  rw [← hw₁]
  by_cases h24 : 24 ≤ w.stack.room
  · obtain ⟨hsent, hy⟩ := sendFlag_yields a htcp (by decide : SYN ||| ACK ∈ sentControls)
      (by decide) (by rw [hstack]; exact h24)
    rw [if_pos hsent]
    have hset := setState_yields a SYN_RECEIVED
      ((sendSegment a.callbacks (SYN ||| ACK) 0 0 0).exec w₁)
    have hall := (hy.then_tells (d := { conn w with
        state := SYN_RECEIVED, localSeq := w.self.localSeq + 1, remoteSeq := segSeq buf + 1 })
      ((Tells.setState a SYN_RECEIVED _).trans (Tells.setSelf _ { (setState a.callbacks
        SYN_RECEIVED ((sendSegment a.callbacks (SYN ||| ACK) 0 0 0).exec w₁)).self with
          attempts := 1 }))
      (hset.keeps.trans (.of_update rfl)) hset.state
      (hset.localSeq.trans (hy.localSeq.trans (congrArg (· + 1) hl₁)))
      (hset.remoteSeq.trans (hy.remoteSeq.trans hr₁)))
    rw [hl₁, hr₁] at hall
    exact (Begins.after_tells ht hid hlen hall).refines hw (haddr _) rfl
      (.passiveOpen hadmits hstate hsyn h24)
  · obtain ⟨hsent, hemits, hself⟩ := @sendFlag_short _ a _ htcp (SYN ||| ACK)
      (by rw [hstack]; exact Nat.not_le.mp h24)
    have hself : ((sendSegment a.callbacks (SYN ||| ACK) 0 0 0).exec w₁).self = w₁.self :=
      hself.resolve_right fun h => absurd h.1 (by decide)
    rw [if_neg hsent]
    refine (Begins.after_tells (c := { conn w with remoteSeq := segSeq buf + 1 }) ht hid hlen
      ⟨hemits, .of_eq hself, ?_, ?_, ?_⟩).refines hw (haddr _) rfl
        (.passiveOpenShort hadmits hstate hsyn (Nat.not_le.mp h24))
    · rw [hself, hstate₁]
      exact hstate.symm
    · rw [hself]
      exact hl₁
    · rw [hself]
      exact hr₁

/-- A segment with the right checksum makes a step of `Receives`. -/
theorem handleValid_refines (hsum : checksumOk buf localIP remoteIP) :
    Refines (Receives (limits w) (segmentOf a buf w) (conn w)) w
      (handleValid a.callbacks buf (segControl buf) (segAck buf) (segSeq buf) w) := by
  unfold handleValid
  by_cases h1 : w.self.state = CLOSED ∧ ¬ has (segControl buf) RST
  · rw [if_pos h1]
    unfold refuse
    split
    · exact refuse_refines a hw (.inl h1) _ _
    · exact refuse_refines a hw (.inl h1) _ _
  rw [if_neg h1]
  by_cases h2 : w.self.state = LISTEN ∧ ¬ has (segControl buf) SYN ∧ ¬ has (segControl buf) RST
  · rw [if_pos h2]
    unfold refuse
    split
    · exact refuse_refines a hw (.inr (.inl h2)) _ _
    · exact refuse_refines a hw (.inr (.inl h2)) _ _
  rw [if_neg h2]
  by_cases h3 : (w.self.state = LISTEN ∨ w.self.state = SYN_SENT ∨
      w.self.state = SYN_RECEIVED) ∧ has (segControl buf) ACK ∧ segAck buf > w.self.localSeq
  · rw [if_pos h3]
    exact refuse_refines a hw (.inr (.inr h3)) _ _
  rw [if_neg h3]
  have hrefuses : ¬ (conn w).Refuses (segmentOf a buf w) := by
    rintro (h | h | h)
    · exact h1 h
    · exact h2 h
    · exact h3 h
  have hchallenge := fun h => (Yields.of_self (emits_sendACK a hw.tcp).1
    (emits_sendACK a hw.tcp).2).refines hw rfl (Receives.challenge (k := limits w)
      (s := segmentOf a buf w) hrefuses h)
  by_cases h4 : synchronized w.self.state ∧ has (segControl buf) ACK ∧
      segAck buf > w.self.localSeq
  · rw [if_pos h4]
    exact hchallenge ⟨h4.1, .inl h4.2⟩
  rw [if_neg h4]
  by_cases h5 : synchronized w.self.state ∧ segSeq buf > w.self.remoteSeq
  · rw [if_pos h5]
    exact hchallenge ⟨h5.1, .inr h5.2⟩
  rw [if_neg h5]
  have hchallenges : ¬ (conn w).Challenges (segmentOf a buf w) := by
    rintro ⟨hsync, h | h⟩
    · exact h4 ⟨hsync, h⟩
    · exact h5 ⟨hsync, h⟩
  by_cases h6 : has (segControl buf) RST
  · rw [if_pos h6]
    exact handleReset_refines a hw hrefuses hchallenges h6
  rw [if_neg h6]
  have hadmits : (conn w).Admits (segmentOf a buf w) := ⟨hrefuses, hchallenges, h6⟩
  by_cases h7 : w.self.state = LISTEN ∧ segControl buf = SYN
  · rw [if_pos h7]
    exact passiveOpen_refines a hw hsum hadmits h7.1 h7.2
  rw [if_neg h7]
  by_cases h8 : w.self.state = SYN_SENT ∧ segControl buf = SYN
  · rw [if_pos h8]
    exact simultaneousOpen_refines a hw hsum hadmits h8.1 h8.2
  rw [if_neg h8]
  by_cases h9 : w.self.state = SYN_SENT ∧ segControl buf = ACK ||| SYN ∧
      segAck buf = w.self.localSeq
  · rw [if_pos h9]
    exact activeOpen_refines a hw hsum hadmits h9.1 h9.2.1 h9.2.2
  rw [if_neg h9]
  have hopens : ¬ (conn w).Opens (segmentOf a buf w) := by
    rintro (h | h | h)
    · exact h7 h
    · exact h8 h
    · exact h9 h
  by_cases h10 : w.self.state &&& 0x0F = ESTABLISHED
  · rw [if_pos h10]
    exact handleEstablished_refines a hw hsum hadmits h10
  rw [if_neg h10]
  by_cases h11 : has (segControl buf) ACK ∧ segAck buf = w.self.localSeq
  · rw [if_pos h11]
    exact handleAck_refines a hw hadmits hopens h10 h11
  · rw [if_neg h11]
    obtain ⟨hemits, hself⟩ := forceClose_emits a hw.tcp
    refine (Yields.mk (c := { conn w with state := w.self.down }) hemits (.of_update hself)
      ?_ ?_ ?_).refines hw rfl (.abort hadmits hopens h10 h11) <;> rw [hself] <;> rfl

omit hw in
/-- A step may begin with a change to the socket that the protocol does not see. -/
theorem Refines.after_setSelf {P : Effect → Conn → Prop} {s : Socket} {w w' : World α}
    (h : Refines P (w.setSelf s) w') (hid : Identity w.self s)
    (haddr : w.self.state ∉ unopened → s.state ∉ unopened ∧ s.address = w.self.address) :
    Refines P w w' := by
  obtain ⟨e, hP, m, hm, hemits⟩ := h.step
  refine ⟨⟨e, hP, m, fun r i hri => hm r i (fun b hb => hri b (by rw [← hid.stash]; exact hb)), ?_⟩,
    hid.trans h.identity, fun hs => (h.address (haddr hs).1).trans (haddr hs).2⟩
  have ht := Tells.setSelf ({ w with stack := { w.stack with mem := m } } : World α) s
  exact ht.before_emits hid.remoteDomain hemits

/-- What a segment does: a step, if its checksum is right, and nothing the protocol sees, if
not. -/
def StepOf (a : App α) (buf : Bytes) (w : World α) (e : Effect) (c : Conn) : Prop :=
  e = {} ∧ c = conn w ∨ (∃ localIP remoteIP, checksumOk buf localIP remoteIP) ∧
    Receives (limits w) (segmentOf a buf w) (conn w) e c

omit hw in
/-- A weaker step is refined as well. -/
theorem Refines.mono {P Q : Effect → Conn → Prop} {w w' : World α} (h : Refines P w w')
    (hPQ : ∀ e c, P e c → Q e c) : Refines Q w w' :=
  ⟨h.step.imp fun _ he => ⟨hPQ _ _ he.1, he.2⟩, h.identity, h.address⟩

omit hw in
/-- A change to the socket that the protocol does not see. -/
theorem refines_setSelf {s : Socket} (hid : Identity w.self s)
    (haddr : w.self.state ∉ unopened → s.address = w.self.address)
    (hconn : conn (w.setSelf s) = conn w) :
    Refines (fun e c => e = {} ∧ c = conn w) w (w.setSelf s) :=
  ⟨⟨{}, ⟨rfl, hconn⟩, (Tells.setSelf w s).emits.moves⟩, hid, haddr⟩

/-- A segment makes a step of the protocol, or none. -/
theorem handleSegment_refines (sourceIP : IPAddr) (buf : Bytes) :
    Refines (StepOf a buf w) w (handleSegment a.callbacks sourceIP buf w) := by
  have hid : Identity w.self (arrive sourceIP buf w).self := ⟨rfl⟩
  have haddr : w.self.state ∉ unopened →
      (arrive sourceIP buf w).self.address = w.self.address := by
    intro h
    have hne : w.self.state ≠ LISTEN := fun hs => h (hs ▸ by decide)
    have hip : (arrive sourceIP buf w).self.remoteIP = w.self.remoteIP :=
      if_neg fun hc => hne hc.1
    rw [address, address, hip]
    rfl
  by_cases hsum : checksumOk buf w.stack.ip.ipAddress (arrive sourceIP buf w).self.remoteIP
  · rw [handleSegment_valid a.callbacks hw.tcp hsum]
    have hwired : Wired (arrive sourceIP buf w) := ⟨hw.tcp, hw.sendBuffer, hw.stash, hw.within⟩
    have hstep := (handleValid_refines a hwired hsum).mono (Q := StepOf a buf w)
      fun e c h => .inr ⟨⟨_, _, hsum⟩, h⟩
    exact Refines.after_setSelf (s := (arrive sourceIP buf w).self) hstep hid fun h => ⟨h, haddr h⟩
  · rcases handleSegment_invalid a.callbacks hw.tcp hsum with h | h
    · have hsame := refines_setSelf (w := w) (s := { w.self with recvBuffer := some [] }) ⟨rfl⟩
        (fun _ => rfl) rfl
      rw [h]
      exact hsame.mono fun _ _ => .inl
    · have hsame := refines_setSelf (w := w) (s := (arrive sourceIP buf w).self) hid haddr rfl
      rw [h]
      exact hsame.mono fun _ _ => .inl

end App

end Socket

end AtmegaNet
