import AtmegaNet.HandleSegment

/-!
# The protocol of a connection

What the sockets of this library do as parties of a protocol: a connection is a state, two
sequence numbers and the payload that would be resent, and a step of it sends at most one
segment and delivers at most one payload. Buffers, headers, routes, clocks and events are not
part of it.

`Receives` says what a segment does, one rule for each way through the cascade of
`handleSegment`, and `Acts` what the calls and the timer do. That the sockets take no other
steps is proved in `Refinement` and `CallRefinement`; everything said of runs is proved of these
rules.

## Main results

* `Conn.inOrder`: what an in-order segment does to the connection, the one place where
  payload, FIN and acknowledgement meet.
* `Receives.within`, `Acts.within`: every step keeps the connection inside its limits.
-/

namespace AtmegaNet

open Socket

/-- A connection, as the protocol sees it. -/
structure Conn where
  state : UInt8
  localSeq : UInt32
  remoteSeq : UInt32
  data : Bytes
  deriving DecidableEq, Repr

/-- A segment a socket sends. -/
structure Sending where
  control : UInt8
  seq : UInt32
  ack : UInt32
  payload : Bytes
  deriving DecidableEq, Repr

/-- A segment a socket receives, with the answer the application gives to its payload. The
payload is what follows the header, `payloadSize` what the lengths say it should be. -/
structure Segment where
  control : UInt8
  seq : UInt32
  ack : UInt32
  payloadSize : UInt16
  payload : Bytes
  accepted : Bool
  deriving DecidableEq, Repr

/-- What a step does outside the connection: the segment it sends, and the payload it hands
to the application, with the answer. -/
structure Effect where
  sends : Option Sending := none
  delivers : Option (Bytes × Bool) := none
  deriving DecidableEq, Repr

/-- What bounds the connections of a socket: the state of the socket when it is closed, the
room for a segment in the send buffer, and the size of the stash. -/
structure Limits where
  down : UInt8
  room : ℕ
  stash : ℕ
  down_eq : down = CLOSED ∨ down = LISTEN

namespace Conn

variable (c : Conn) (s : Segment)

/-! ### The tests of the cascade -/

/-- A segment is answered with a reset: cases 1 and 2 of `handleSegment`. -/
def Refuses : Prop :=
  c.state = CLOSED ∧ ¬ has s.control RST ∨
    c.state = LISTEN ∧ ¬ has s.control SYN ∧ ¬ has s.control RST ∨
    (c.state = LISTEN ∨ c.state = SYN_SENT ∨ c.state = SYN_RECEIVED) ∧ has s.control ACK ∧
      s.ack > c.localSeq

/-- A segment is answered with an ACK only: case 3. -/
def Challenges : Prop :=
  synchronized c.state ∧
    (has s.control ACK ∧ s.ack > c.localSeq ∨ s.seq > c.remoteSeq)

/-- A segment gets past these tests and has no RST. -/
def Admits : Prop := ¬ c.Refuses s ∧ ¬ c.Challenges s ∧ ¬ has s.control RST

/-- A RST that is acted on. -/
def Obeys : Prop :=
  c.state = SYN_SENT ∧ s.ack = c.localSeq ∨ c.remoteSeq = s.seq ∧ c.state ≠ LISTEN

/-- The test of `handleSegment` for ESTABLISHED, which other states pass as well. -/
def Open : Prop := c.state &&& 0x0F = ESTABLISHED

/-- The states in which `close` does nothing. -/
def LocalClosed : Prop :=
  c.state ∈ [FIN_WAIT_1, FIN_WAIT_2, CLOSING, LAST_ACK, TIME_WAIT, LISTEN, CLOSED]

/-- A segment that opens the connection. -/
def Opens : Prop :=
  c.state = LISTEN ∧ s.control = SYN ∨ c.state = SYN_SENT ∧ s.control = SYN ∨
    c.state = SYN_SENT ∧ s.control = ACK ||| SYN ∧ s.ack = c.localSeq

/-- The segment acknowledges everything sent. -/
def Acknowledged : Prop := has s.control ACK ∧ s.ack = c.localSeq

instance : Decidable (c.Acknowledged s) := by unfold Acknowledged; infer_instance

/-! ### What a step makes of the connection -/

/-- The ACK a socket sends by itself. -/
def ackNow : Sending := ⟨ACK, c.localSeq, c.remoteSeq, []⟩

/-- The RST of `forceClose`. -/
def abortion : Option Sending :=
  if c.state = TIME_WAIT then none else some ⟨RST ||| ACK, c.localSeq, c.remoteSeq, []⟩

/-- Whether the payload of a segment in order is taken. -/
def takes : Bool := s.payloadSize > 0 && s.payload.length > 0 && s.accepted

/-- The number a segment in order is acknowledged with: a payload that was taken makes the
socket forget the FIN. -/
def acknowledges : UInt32 :=
  if takes s then s.seq + s.payloadSize.toUInt32
  else if has s.control FIN then c.remoteSeq + 1
  else c.remoteSeq

/-- The connection after a segment in order. -/
def inOrder : Conn :=
  let state := if has s.control FIN then CLOSE_WAIT else c.state
  { c with
    remoteSeq := c.acknowledges s
    state := if s.ack = c.localSeq ∧ has c.state AWAITING_ACK then state &&& 0x0F else state }

/-- What a segment in order does outside. -/
def inOrderEffect : Effect where
  sends :=
    if s.payloadSize > 0 ∨ has s.control FIN then
      some ⟨ACK, c.localSeq, c.acknowledges s, []⟩
    else none
  delivers :=
    if s.payloadSize > 0 ∧ s.payload.length > 0 then some (s.payload, s.accepted) else none

/-- The state an ACK of everything sent leads to, outside ESTABLISHED. -/
def afterAck (down : UInt8) : UInt8 :=
  if c.state = SYN_RECEIVED then ESTABLISHED
  else if c.state = FIN_WAIT_1 then FIN_WAIT_2
  else if c.state = CLOSING then TIME_WAIT
  else if c.state = LAST_ACK then down
  else c.state

/-- The control bits that are retransmitted in a state, with a number one below the next. -/
def resends : Option UInt8 :=
  if c.state = SYN_SENT then some SYN
  else if c.state = SYN_RECEIVED then some (SYN ||| ACK)
  else if c.state = FIN_WAIT_1 ∨ c.state = CLOSING then some (FIN ||| ACK)
  else none

end Conn

/-- The step a segment makes. -/
inductive Receives (k : Limits) (s : Segment) (c : Conn) : Effect → Conn → Prop
  /-- Cases 1 and 2: a reset. -/
  | refuse {control : UInt8} (seq ack : UInt32) :
      c.Refuses s → control = RST ∨ control = RST ||| ACK →
      Receives k s c { sends := some ⟨control, seq, ack, []⟩ } c
  /-- Case 3: an ACK. -/
  | challenge :
      ¬ c.Refuses s → c.Challenges s → Receives k s c { sends := some c.ackNow } c
  /-- A RST in order, or one that answers our SYN. -/
  | reset :
      ¬ c.Refuses s → ¬ c.Challenges s → has s.control RST → c.Obeys s →
      Receives k s c {} { c with state := k.down }
  /-- Any other RST. -/
  | resetIgnored :
      ¬ c.Refuses s → ¬ c.Challenges s → has s.control RST → ¬ c.Obeys s →
      Receives k s c {} c
  /-- A SYN in LISTEN. -/
  | passiveOpen :
      c.Admits s → c.state = LISTEN → s.control = SYN → 24 ≤ k.room →
      Receives k s c { sends := some ⟨SYN ||| ACK, c.localSeq, s.seq + 1, []⟩ }
        { c with
          state := SYN_RECEIVED, localSeq := c.localSeq + 1, remoteSeq := s.seq + 1 }
  /-- A SYN in LISTEN when the send buffer is too small for the answer. -/
  | passiveOpenShort :
      c.Admits s → c.state = LISTEN → s.control = SYN → k.room < 24 →
      Receives k s c {} { c with remoteSeq := s.seq + 1 }
  /-- A SYN in SYN_SENT. -/
  | simultaneousOpen :
      c.Admits s → c.state = SYN_SENT → s.control = SYN →
      Receives k s c { sends := some ⟨ACK, c.localSeq, s.seq + 1, []⟩ }
        { c with state := SYN_RECEIVED, remoteSeq := s.seq + 1 }
  /-- The SYN+ACK in SYN_SENT. -/
  | activeOpen :
      c.Admits s → c.state = SYN_SENT → s.control = ACK ||| SYN → s.ack = c.localSeq →
      Receives k s c { sends := some ⟨ACK, c.localSeq, s.seq + 1, []⟩ }
        { c with state := ESTABLISHED, remoteSeq := s.seq + 1 }
  /-- Without an ACK nothing happens in ESTABLISHED. -/
  | noAck :
      c.Admits s → c.Open → ¬ has s.control ACK → Receives k s c {} c
  /-- A duplicate, or a gap that case 3 has missed. -/
  | outOfOrder :
      c.Admits s → c.Open → has s.control ACK → s.seq ≠ c.remoteSeq →
      Receives k s c { sends := some c.ackNow } c
  /-- The next segment. -/
  | inOrder :
      c.Admits s → c.Open → has s.control ACK → s.seq = c.remoteSeq →
      Receives k s c (c.inOrderEffect s) (c.inOrder s)
  /-- An ACK of everything, outside ESTABLISHED. -/
  | acked :
      c.Admits s → ¬ c.Opens s → ¬ c.Open → c.Acknowledged s →
      Receives k s c {} { c with state := c.afterAck k.down }
  /-- The last resort. -/
  | abort :
      c.Admits s → ¬ c.Opens s → ¬ c.Open → ¬ c.Acknowledged s →
      Receives k s c { sends := c.abortion } { c with state := k.down }

/-- The calls of the application, and `check` for the timer. -/
inductive Call
  | connect
  | send (data : Bytes)
  | close
  | abort
  | check
  deriving DecidableEq, Repr

/-- The states in which no connection is open or being opened. -/
def unopened : List UInt8 := [CLOSED, LISTEN, RESOLVING, UNKNOWN_HOST]

/-- The step a call makes. -/
inductive Acts (k : Limits) (c : Conn) : Call → Effect → Conn → Prop
  /-- The call fails, or finds nothing to do. -/
  | idle (call : Call) : Acts k c call {} c
  /-- A name is looked up. -/
  | resolve {call : Call} {state : UInt8} :
      call = .connect ∨ call = .check → c.state ∈ unopened →
      state ∈ [k.down, RESOLVING, UNKNOWN_HOST] → Acts k c call {} { c with state := state }
  /-- The SYN. -/
  | connect {call : Call} :
      call = .connect ∨ call = .check ∧ c.state = RESOLVING → c.state ∈ unopened →
      24 ≤ k.room → Acts k c call { sends := some ⟨SYN, c.localSeq, c.remoteSeq, []⟩ }
        { c with state := SYN_SENT, localSeq := c.localSeq + 1 }
  /-- A payload, when none is outstanding. -/
  | send {data : Bytes} :
      c.Open → ¬ has c.state AWAITING_ACK → data ≠ [] → data.length ≤ k.stash →
      data.length + 20 ≤ k.room → Acts k c (.send data)
        { sends := some ⟨ACK ||| PSH, c.localSeq, c.remoteSeq, data⟩ }
        { c with
          state := c.state ||| AWAITING_ACK
          localSeq := c.localSeq + UInt32.ofNat data.length
          data := data }
  /-- The FIN. -/
  | close {call : Call} :
      call = .close ∨ call = .check → ¬ c.LocalClosed → 20 ≤ k.room →
      Acts k c call { sends := some ⟨FIN ||| ACK, c.localSeq, c.remoteSeq, []⟩ }
        { c with
          state := (stateAfterClose c.state).getD c.state, localSeq := c.localSeq + 1 }
  /-- A FIN that does not fit the send buffer counts, but does not leave. -/
  | closeShort {call : Call} :
      call = .close ∨ call = .check → ¬ c.LocalClosed → k.room < 20 →
      Acts k c call {} { c with localSeq := c.localSeq + 1 }
  /-- `forceClose` -/
  | abort {call : Call} :
      call = .abort ∨ call = .check → Acts k c call { sends := c.abortion }
        { c with state := k.down }
  /-- The payload again. -/
  | resendData :
      c.state = ESTABLISHED ||| AWAITING_ACK →
      Acts k c .check
        { sends := some ⟨ACK, c.localSeq - UInt32.ofNat c.data.length, c.remoteSeq, c.data⟩ } c
  /-- The SYN, the SYN+ACK or the FIN again. -/
  | resend {control : UInt8} :
      c.resends = some control →
      Acts k c .check { sends := some ⟨control, c.localSeq - 1, c.remoteSeq, []⟩ } c
  /-- The end of TIME_WAIT. -/
  | expire :
      c.state = TIME_WAIT → Acts k c .check {} { c with state := k.down }

/-! ### What the limits imply -/

/-- The connection is one the limits allow: without room for a header none is opened, without
room for the option of a SYN none by a handshake, and an outstanding payload fits the stash and
the send buffer. -/
structure Conn.Within (k : Limits) (c : Conn) : Prop where
  header : k.room < 20 → c.state ∈ CLOSE_WAIT :: unopened
  option : k.room < 24 → c.state ≠ SYN_SENT ∧ c.state ≠ SYN_RECEIVED
  data : c.state = ESTABLISHED ||| AWAITING_ACK →
    c.data ≠ [] ∧ c.data.length ≤ k.stash ∧ c.data.length + 20 ≤ k.room

namespace Conn

variable {k : Limits} {c : Conn} {s : Segment}

theorem Open.ne {state : UInt8} (h : c.Open) (hne : state &&& 0x0F ≠ ESTABLISHED) :
    c.state ≠ state := by
  rintro rfl
  exact hne h

theorem Open.or_awaiting (h : c.Open) :
    c.state ||| AWAITING_ACK = ESTABLISHED ||| AWAITING_ACK := by
  unfold Open at h
  generalize c.state = state at h
  revert state
  exact forall_uint8 (by decide +kernel)

/-- The state after a segment in order: CLOSE_WAIT, or the state before, or ESTABLISHED if
what was outstanding has been acknowledged. -/
theorem Open.state_inOrder (h : c.Open) (s : Segment) :
    has s.control FIN ∧ (c.inOrder s).state = CLOSE_WAIT ∨
      ¬ has s.control FIN ∧ ((c.inOrder s).state = c.state ∨
        (c.inOrder s).state = ESTABLISHED ∧ s.ack = c.localSeq ∧ has c.state AWAITING_ACK) := by
  unfold inOrder
  dsimp only
  by_cases hfin : has s.control FIN
  · rw [if_pos hfin]
    refine .inl ⟨hfin, ?_⟩
    split <;> rfl
  · rw [if_neg hfin]
    refine .inr ⟨hfin, ?_⟩
    split
    · rename_i hclear
      exact .inr ⟨h, hclear⟩
    · exact .inl rfl

theorem afterAck_cases (c : Conn) (down : UInt8) :
    c.state = SYN_RECEIVED ∧ c.afterAck down = ESTABLISHED ∨
      c.state = FIN_WAIT_1 ∧ c.afterAck down = FIN_WAIT_2 ∨
      c.state = CLOSING ∧ c.afterAck down = TIME_WAIT ∨
      c.state = LAST_ACK ∧ c.afterAck down = down ∨ c.afterAck down = c.state := by
  unfold afterAck
  split_ifs with h1 h2 h3 h4
  · exact .inl ⟨h1, rfl⟩
  · exact .inr (.inl ⟨h2, rfl⟩)
  · exact .inr (.inr (.inl ⟨h3, rfl⟩))
  · exact .inr (.inr (.inr (.inl ⟨h4, rfl⟩)))
  · exact .inr (.inr (.inr (.inr rfl)))

/-- A step that leaves the payload alone keeps the limits if its new state does. -/
theorem Within.of_state {c' : Conn} (h : c.Within k) (hdata : c'.data = c.data)
    (hstate : c'.state = c.state ∨ c'.state ∈ CLOSE_WAIT :: unopened ∨
      20 ≤ k.room ∧ c'.state ∉ [SYN_SENT, SYN_RECEIVED, ESTABLISHED ||| AWAITING_ACK] ∨
      24 ≤ k.room ∧ c'.state ≠ ESTABLISHED ||| AWAITING_ACK) : c'.Within k := by
  rcases hstate with h' | h' | ⟨hroom, h'⟩ | ⟨hroom, h'⟩
  · exact ⟨by rw [h']; exact h.header, by rw [h']; exact h.option, by rw [h', hdata]; exact h.data⟩
  · obtain ⟨h1, h2, h3⟩ := (by decide : ∀ state ∈ CLOSE_WAIT :: unopened, state ≠ SYN_SENT ∧
      state ≠ SYN_RECEIVED ∧ state ≠ ESTABLISHED ||| AWAITING_ACK) _ h'
    exact ⟨fun _ => h', fun _ => ⟨h1, h2⟩, fun hd => absurd hd h3⟩
  · simp only [List.mem_cons, List.not_mem_nil, or_false, not_or] at h'
    exact ⟨fun hlt => absurd hroom (Nat.not_le.mpr hlt), fun _ => ⟨h'.1, h'.2.1⟩,
      fun hd => absurd hd h'.2.2⟩
  · exact ⟨fun hlt => absurd hroom (by omega), fun hlt => absurd hroom (Nat.not_le.mpr hlt),
      fun hd => absurd hd h'⟩

theorem down_mem (k : Limits) : k.down ∈ CLOSE_WAIT :: unopened := by
  rcases k.down_eq with hd | hd <;> rw [hd] <;> decide

theorem Within.of_down (h : c.Within k) : ({ c with state := k.down } : Conn).Within k :=
  h.of_state rfl (.inr (.inl (down_mem k)))

/-- A handshake state means room for a SYN. -/
theorem Within.room_of_syn (h : c.Within k)
    (hstate : c.state = SYN_SENT ∨ c.state = SYN_RECEIVED) : 24 ≤ k.room := by
  by_contra hlt
  have hne := h.option (by omega)
  exact hstate.elim hne.1 hne.2

/-- A state with a connection means room for a header. -/
theorem Within.room_of_mem (h : c.Within k) (hstate : c.state ∉ CLOSE_WAIT :: unopened) :
    20 ≤ k.room := by
  by_contra hlt
  exact hstate (h.header (by omega))

end Conn

/-- A segment keeps the limits. -/
theorem Receives.within {k : Limits} {s : Segment} {c c' : Conn} {e : Effect}
    (h : c.Within k) (hstep : Receives k s c e c') : c'.Within k := by
  cases hstep with
  | refuse _ _ _ _ => exact h
  | challenge _ _ => exact h
  | reset _ _ _ _ => exact h.of_down
  | resetIgnored _ _ _ _ => exact h
  | passiveOpen _ _ _ hroom =>
      exact h.of_state rfl (.inr (.inr (.inr ⟨hroom, (by decide : SYN_RECEIVED ≠ _)⟩)))
  | passiveOpenShort _ _ _ _ => exact h.of_state rfl (.inl rfl)
  | simultaneousOpen _ hstate _ =>
      exact h.of_state rfl (.inr (.inr (.inr
        ⟨h.room_of_syn (.inl hstate), (by decide : SYN_RECEIVED ≠ _)⟩)))
  | activeOpen _ hstate _ _ =>
      exact h.of_state rfl (.inr (.inr (.inr
        ⟨h.room_of_syn (.inl hstate), (by decide : ESTABLISHED ≠ _)⟩)))
  | noAck _ _ _ => exact h
  | outOfOrder _ _ _ _ => exact h
  | inOrder _ hopen _ _ =>
      refine h.of_state rfl ?_
      rcases hopen.state_inOrder s with ⟨-, hs⟩ | ⟨-, hs | ⟨hs, -, hawait⟩⟩
      · exact .inr (.inl (hs ▸ List.mem_cons_self))
      · exact .inl hs
      · have hroom : 20 ≤ k.room := h.room_of_mem fun hmem =>
          (by decide : ∀ state ∈ CLOSE_WAIT :: unopened, ¬ has state AWAITING_ACK) _ hmem hawait
        exact .inr (.inr (.inl ⟨hroom, by rw [hs]; decide⟩))
  | acked _ _ hopen _ =>
      refine h.of_state rfl ?_
      have hroom : ∀ {state}, c.state = state → state ∉ CLOSE_WAIT :: unopened → 20 ≤ k.room :=
        fun hs hne => h.room_of_mem (hs ▸ hne)
      show c.afterAck k.down = c.state ∨ _
      rcases c.afterAck_cases k.down with ⟨hs, h'⟩ | ⟨hs, h'⟩ | ⟨hs, h'⟩ | ⟨hs, h'⟩ | h' <;>
        rw [h']
      · exact .inr (.inr (.inl ⟨hroom hs (by decide), by dsimp only; decide⟩))
      · exact .inr (.inr (.inl ⟨hroom hs (by decide), by dsimp only; decide⟩))
      · exact .inr (.inr (.inl ⟨hroom hs (by decide), by dsimp only; decide⟩))
      · exact .inr (.inl (Conn.down_mem k))
      · exact .inl rfl
  | abort _ _ _ _ => exact h.of_down

/-- A call keeps the limits. -/
theorem Acts.within {k : Limits} {call : Call} {c c' : Conn} {e : Effect}
    (h : c.Within k) (hstep : Acts k c call e c') : c'.Within k := by
  cases hstep with
  | idle _ => exact h
  | resolve _ _ hstate =>
      refine h.of_state rfl (.inr (.inl ?_))
      rcases List.mem_cons.mp hstate with hs | hs
      · exact hs ▸ Conn.down_mem k
      · exact (by decide : ∀ state ∈ [RESOLVING, UNKNOWN_HOST], state ∈ CLOSE_WAIT :: unopened)
          _ hs
  | connect _ _ hroom =>
      exact h.of_state rfl (.inr (.inr (.inr ⟨hroom, (by decide : SYN_SENT ≠ _)⟩)))
  | send hopen _ hne hstash hroom =>
      refine ⟨fun hlt => absurd hroom (by omega), fun _ => ?_, fun _ => ⟨hne, hstash, hroom⟩⟩
      dsimp only
      rw [hopen.or_awaiting]
      decide
  | close _ hclosed hroom =>
      refine h.of_state rfl ?_
      show (stateAfterClose c.state).getD c.state = c.state ∨ _
      rcases hs : stateAfterClose c.state with _ | state
      · exact .inl rfl
      · refine .inr (.inr (.inl ⟨hroom, ?_⟩))
        have hmem : state = FIN_WAIT_1 ∨ state = LAST_ACK := by
          unfold stateAfterClose at hs
          split_ifs at hs <;> simp_all
        rcases hmem with rfl | rfl
        · exact (by decide : FIN_WAIT_1 ∉ [SYN_SENT, SYN_RECEIVED, ESTABLISHED ||| AWAITING_ACK])
        · exact (by decide : LAST_ACK ∉ [SYN_SENT, SYN_RECEIVED, ESTABLISHED ||| AWAITING_ACK])
  | closeShort _ _ _ => exact h.of_state rfl (.inl rfl)
  | abort _ => exact h.of_down
  | resendData _ => exact h
  | resend _ => exact h
  | expire _ => exact h.of_down

end AtmegaNet
