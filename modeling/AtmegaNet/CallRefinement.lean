import AtmegaNet.NotEstablished
import AtmegaNet.Refinement
import AtmegaNet.SendData

/-!
# Calls follow the protocol

The counterpart of `Refinement` for what does not come from the network: the functions an
application calls on a socket and the periodic `checkState` make steps of `Acts`. The socket has
an address to connect to, so that no name is looked up.

## Main results

* `Operation.conforms`: every operation makes a step of `Acts`, and `send` says whether it has
  sent.
-/

open Procedure

namespace AtmegaNet

namespace Socket

variable {α : Type}

/-- A socket in use has what a call needs. -/
theorem Wired.geared {w : World α} (hw : Wired w) : Geared w := ⟨hw.tcp, hw.sendBuffer, hw.stash⟩

/-! ### Operations -/

/-- What happens to a socket apart from the segments it receives. -/
inductive Operation
  | connect
  | send (length : UInt16)
  | close
  | forceClose
  | checkState
  deriving DecidableEq, Repr

/-- What an operation returns and leaves. -/
def Operation.run (cb : Callbacks α) (dns : Resolver) : Operation → World α → Bool × World α
  | .connect, w => ((Socket.connect cb dns).succeeds w, (Socket.connect cb dns).exec w)
  | .send length, w => ((Socket.send cb length).succeeds w, (Socket.send cb length).exec w)
  | .close, w => ((Socket.close cb).succeeds w, (Socket.close cb).exec w)
  | .forceClose, w => (true, Socket.forceClose cb w)
  | .checkState, w => (true, Socket.checkState cb dns w)

/-- The call an operation is to the protocol; the payload lies in the send buffer. -/
def Operation.call (w : World α) : Operation → AtmegaNet.Call
  | .connect => .connect
  | .send length => .send (Region.read w.stack.mem .send 54 length.toNat)
  | .close => .close
  | .forceClose => .abort
  | .checkState => .check

/-- The step of an operation: no name is looked up, and `send` returns true for a payload if and
only if it sends it. -/
structure Conforms (o : Operation) (returned : Bool) (w : World α) (e : Effect) (c : Conn) :
    Prop where
  acts : Acts (limits w) (conn w) (o.call w) e c
  address : c.state ∈ [RESOLVING, UNKNOWN_HOST] → c.state = w.self.state
  sends : ∀ length, o = .send length → (e.sends.isSome ↔ length ≠ 0 ∧ returned)

section Rules

variable {w w' : World α} {o : Operation} {returned : Bool}

/-- An operation that finds nothing to do. -/
theorem conforms_idle (ho : ∀ length, o = .send length → length ≠ 0 → returned = false) :
    Conforms o returned w {} (conn w) where
  acts := .idle _
  address _ := rfl
  sends length h := by
    constructor
    · intro hs
      exact absurd hs (by simp)
    · rintro ⟨hne, hr⟩
      exact absurd hr (by simp [ho length h hne])

/-- A step to a state with an address. -/
theorem conforms_of_acts {e : Effect} {c : Conn} (ho : ∀ length, o ≠ .send length)
    (h : Acts (limits w) (conn w) (o.call w) e c) (hstate : c.state ∉ [RESOLVING, UNKNOWN_HOST]) :
    Conforms o returned w e c :=
  ⟨h, fun hmem => absurd hmem hstate, fun length hsend => absurd hsend (ho length)⟩

/-- An operation that changes nothing the protocol sees. -/
theorem refines_idle (ho : ∀ length, o = .send length → length ≠ 0 → returned = false) :
    Refines (Conforms o returned w) w w :=
  ⟨⟨{}, conforms_idle ho, (Tells.refl w).emits.moves⟩, .refl _, fun _ => rfl⟩

/-- An operation that changes fields of the socket the protocol does not see. -/
theorem refines_setSelf_idle {s : Socket} (hid : Identity w.self s)
    (haddr : w.self.state ∉ unopened → s.address = w.self.address)
    (hconn : conn (w.setSelf s) = conn w)
    (ho : ∀ length, o = .send length → length ≠ 0 → returned = false) :
    Refines (Conforms o returned w) w (w.setSelf s) :=
  (refines_setSelf hid haddr hconn).mono fun _ _ ⟨he, hc⟩ => by
    rw [he, hc]
    exact conforms_idle ho

/-- A socket that is down resolves no name. -/
theorem down_not_resolving (s : Socket) : s.down ∉ [RESOLVING, UNKNOWN_HOST] := by
  rcases s.down_eq with h | h
  · rw [h]; decide
  · rw [h]; decide

/-- What a segment is sent from may differ in the payload that lies in the send buffer. -/
theorem Emits.of_payload {m : Memory} {e : Effect}
    (h : Emits { w with stack := { w.stack with mem := m } } e w')
    (hother : ∀ r, r ≠ .send → m r = w.stack.mem r) (hoffset : m .send 46 = w.stack.mem .send 46) :
    Emits w e w' := by
  obtain ⟨l, hlog, hreceived, hleaves⟩ := h.log
  refine ⟨h.this, h.rest, fun r hr => (h.other r hr).trans (hother r hr), h.routes, ?_,
    h.synOffset, l, hlog, hreceived, ?_⟩
  · intro hdomain hroom
    rw [← hoffset]
    exact h.offset hdomain hroom
  · refine ⟨?_, hleaves.sent, hleaves.unsent⟩
    rw [← hoffset]
    exact hleaves.segment

end Rules

/-- What is resent in which state. -/
theorem resends_cases {c : Conn} {control : UInt8} (h : c.resends = some control) :
    c.state = SYN_SENT ∧ control = SYN ∨ c.state = SYN_RECEIVED ∧ control = SYN ||| ACK ∨
      (c.state = FIN_WAIT_1 ∨ c.state = CLOSING) ∧ control = FIN ||| ACK := by
  unfold Conn.resends at h
  split_ifs at h with h1 h2 h3
  · exact .inl ⟨h1, (Option.some.inj h).symm⟩
  · exact .inr (.inl ⟨h2, (Option.some.inj h).symm⟩)
  · exact .inr (.inr ⟨h3, (Option.some.inj h).symm⟩)

/-- The protocol does not see the other fields of the socket. -/
theorem Conforms.of_setSelf {w : World α} {s : Socket} {o : Operation} {returned : Bool}
    {e : Effect} {c : Conn} (h : Conforms o returned (w.setSelf s) e c)
    (hconn : conn (w.setSelf s) = conn w) (hlimits : limits (w.setSelf s) = limits w) :
    Conforms o returned w e c := by
  refine ⟨?_, fun hmem => (h.address hmem).trans (congrArg Conn.state hconn), h.sends⟩
  have hacts := h.acts
  rw [hconn, hlimits] at hacts
  cases o <;> exact hacts

/-- The states in which the socket is closed locally. -/
theorem localClosed_iff (s : Socket) : s.localClosed = true ↔
    s.state ∈ [FIN_WAIT_1, FIN_WAIT_2, CLOSING, LAST_ACK, TIME_WAIT, LISTEN, CLOSED] := by
  simp [localClosed, or_assoc]

section App

variable (a : App α) (dns : Resolver) {w : World α} (hw : Wired w)

include hw

/-! ### Closing -/

/-- A forced close is a step of the connection. -/
theorem forceClose_refines {o : Operation} (ho : o = .forceClose ∨ o = .checkState)
    (returned : Bool) : Refines (Conforms o returned w) w (forceClose a.callbacks w) := by
  obtain ⟨hemits, hself⟩ := forceClose_emits a hw.tcp
  have hcall : o.call w = .abort ∨ o.call w = .check := by
    rcases ho with rfl | rfl
    · exact .inl rfl
    · exact .inr rfl
  have hacts := Acts.abort (k := limits w) (c := conn w) hcall
  refine (Yields.mk (c := { conn w with state := w.self.down }) hemits (.of_update hself)
    ?_ ?_ ?_).refines hw rfl (conforms_of_acts ?_ hacts (down_not_resolving _))
  · rw [hself]
  · rw [hself]; rfl
  · rw [hself]; rfl
  · rintro length rfl
    simp at ho

/-- The FIN that `close` sends and its change of the state. -/
theorem close_sent (hclosed : ¬ w.self.localClosed) (hroom : 20 ≤ w.stack.room) :
    Yields w { sends := some ⟨FIN ||| ACK, w.self.localSeq, w.self.remoteSeq, []⟩ }
      { conn w with
        state := (stateAfterClose w.self.state).getD w.self.state
        localSeq := w.self.localSeq + 1 } ((close a.callbacks).exec w) := by
  obtain ⟨hsent, hemits, hself⟩ := @emits_sendFlag _ a w hw.tcp (FIN ||| ACK) (by decide)
    (.inr (by decide)) (by rw [optionBytes, if_neg (by decide)]; exact hroom)
  rcases close_cases a.callbacks hclosed with hrun | ⟨-, hrun⟩
  · -- the segment has left, so that `close` goes on
    obtain ⟨_, w₁, hsome⟩ := Proc.succeeds_iff.mp hsent
    have hnone : ((close a.callbacks).run w).1 = none := congrArg Prod.fst hrun
    unfold close at hnone
    rw [Proc.run_read_bind, if_neg hclosed, Proc.run_bind_of_some hsome] at hnone
    exact absurd hnone (by simp)
  rw [Proc.exec, hrun]
  generalize (sendSegment a.callbacks (FIN ||| ACK) 0 0 0).exec w = w₁ at hemits hself
  have htells : Tells w₁ none (closing a.callbacks w₁) := by
    unfold closing
    split
    · exact (Tells.setSelf w₁ _).trans (Tells.setState a _ _)
    · exact Tells.setSelf w₁ _
  have hclosing : ∃ time, (closing a.callbacks w₁).self = { w₁.self with
      state := (stateAfterClose w₁.self.state).getD w₁.self.state, stateTime := time
      attempts := 1 } := by
    unfold closing
    split
    · rename_i state hstate
      rw [self_setState, hstate]
      exact ⟨_, rfl⟩
    · rename_i hstate
      rw [hstate]
      exact ⟨w₁.self.stateTime, rfl⟩
  obtain ⟨time, hclosing⟩ := hclosing
  have hfinal : (fire a.callbacks .onLocalClosed (closing a.callbacks w₁)).self = { w.self with
      state := (stateAfterClose w.self.state).getD w.self.state, stateTime := time
      localSeq := w.self.localSeq + 1, attempts := 1 } := by
    rw [self_fire, hclosing, hself]
  refine ⟨hemits.then_tells (htells.trans (Tells.fire a _ _)) ?_, .of_update hfinal, ?_, ?_, ?_⟩
  · rw [hfinal, hself]
    rfl
  all_goals rw [hfinal]
  rfl

/-- The FIN does not fit the send buffer. -/
theorem close_short (hclosed : ¬ w.self.localClosed) (hroom : w.stack.room < 20) :
    Yields w {} (conn w) ((close a.callbacks).exec w) ∨
      Yields w {} { conn w with localSeq := w.self.localSeq + 1 } ((close a.callbacks).exec w) := by
  obtain ⟨hunsent, hemits, hself⟩ := @sendFlag_short _ a w hw.tcp (FIN ||| ACK)
    (by rw [optionBytes, if_neg (by decide)]; exact hroom)
  have hexec : (close a.callbacks).exec w =
      (sendSegment a.callbacks (FIN ||| ACK) 0 0 0).exec w := by
    rcases close_cases a.callbacks hclosed with hrun | ⟨-, hrun⟩
    · rw [Proc.exec, hrun]
    · have hnone : ((sendSegment a.callbacks (FIN ||| ACK) 0 0 0).run w).1 = none := by
        simpa [Proc.succeeds] using hunsent
      have hsome : ((close a.callbacks).run w).1 = some () := congrArg Prod.fst hrun
      unfold close at hsome
      rw [Proc.run_read_bind, if_neg hclosed, Proc.run_bind_of_none (Prod.ext hnone rfl)] at hsome
      exact absurd hsome (by simp)
  rw [hexec]
  rcases hself with hself | ⟨-, hself⟩
  · exact .inl (Yields.of_self hemits hself)
  · refine .inr ⟨hemits, .of_update hself, ?_, ?_, ?_⟩
    all_goals rw [hself]
    · rfl
    · rfl

/-- `close` is one. -/
theorem close_refines {o : Operation} (ho : o = .close ∨ o = .checkState) (returned : Bool) :
    Refines (Conforms o returned w) w ((close a.callbacks).exec w) := by
  have hsend : ∀ length, o ≠ .send length := by
    rintro length rfl
    simp at ho
  have hcall : o.call w = .close ∨ o.call w = .check := by
    rcases ho with rfl | rfl
    · exact .inl rfl
    · exact .inr rfl
  by_cases hclosed : w.self.localClosed
  · rw [Proc.exec, close_idle hclosed]
    exact refines_idle fun length h => absurd h (hsend length)
  have hlocal : ¬ (conn w).LocalClosed := fun h => hclosed ((localClosed_iff w.self).mpr h)
  by_cases hroom : 20 ≤ w.stack.room
  · refine (close_sent a hw hclosed hroom).refines hw rfl ⟨.close hcall hlocal hroom, ?_, ?_⟩
    · intro hmem
      -- a state that `close` leads to has an address
      have hall : ∀ state, stateAfterClose w.self.state = some state →
          state ∉ [RESOLVING, UNKNOWN_HOST] := by
        intro state h
        unfold stateAfterClose at h
        split_ifs at h
        · rw [← Option.some.inj h]; decide
        · rw [← Option.some.inj h]; decide
        · rw [← Option.some.inj h]; decide
      dsimp only at hmem ⊢
      cases hs : stateAfterClose w.self.state with
      | none => rfl
      | some state =>
          rw [hs] at hmem
          exact absurd hmem (hall state hs)
    · exact fun length h => absurd h (hsend length)
  · have hroom : w.stack.room < 20 := Nat.lt_of_not_le hroom
    rcases close_short a hw hclosed hroom with h | h
    · exact h.refines hw rfl (conforms_idle fun length hs => absurd hs (hsend length))
    · exact h.refines hw rfl ⟨.closeShort hcall hlocal hroom, fun _ => rfl,
        fun length hs => absurd hs (hsend length)⟩

/-! ### Retransmission -/

/-- The SYN, the SYN+ACK or the FIN again, or the end of the attempts. -/
theorem resend_refines {control : UInt8} (hresends : (conn w).resends = some control) :
    Refines (Conforms .checkState true w) w (resend a.callbacks control w) := by
  have hid : ∀ n m, Identity w.self { w.self with attempts := n, localSeq := m } := fun _ _ => ⟨rfl⟩
  unfold resend exhausted
  dsimp only
  split
  · -- too many attempts
    have hw₁ : Wired (w.setSelf { w.self with attempts := w.self.attempts + 1 }) :=
      ⟨hw.tcp, hw.sendBuffer, hw.stash, hw.within⟩
    have hforce := forceClose_refines a hw₁ (.inr rfl : Operation.checkState = _ ∨ _) true
    have hforce := hforce.mono fun e c h => h.of_setSelf (w := w) rfl rfl
    exact Refines.after_setSelf hforce ⟨rfl⟩ fun h => ⟨h, rfl⟩
  generalize hw₁ : (w.setSelf _).setSelf _ = w₁
  have hself₁ : w₁.self = { w.self with
      attempts := w.self.attempts + 1, localSeq := w.self.localSeq - 1 } := by rw [← hw₁]; rfl
  have hstack₁ : w₁.stack = w.stack := by rw [← hw₁]; rfl
  have htells : Tells w none w₁ := by
    rw [← hw₁]
    exact (Tells.setSelf w _).trans (Tells.setSelf _ _)
  obtain ⟨hcontrol, hflag, hfit⟩ : control ∈ sentControls ∧ (has control SYN ∨ has control FIN) ∧
      20 + (optionBytes control w.stack).length ≤ w.stack.room := by
    rcases resends_cases hresends with ⟨h, rfl⟩ | ⟨h, rfl⟩ | ⟨h, rfl⟩
    · refine ⟨by decide, .inl (by decide), ?_⟩
      rw [optionBytes, if_pos (by decide)]
      exact hw.within.room_of_syn (.inl h)
    · refine ⟨by decide, .inl (by decide), ?_⟩
      rw [optionBytes, if_pos (by decide)]
      exact hw.within.room_of_syn (.inr h)
    · refine ⟨by decide, .inr (by decide), ?_⟩
      rw [optionBytes, if_neg (by decide)]
      refine hw.within.room_of_mem fun hmem => ?_
      rcases h with h | h
      · rw [h] at hmem
        exact absurd hmem (by decide)
      · rw [h] at hmem
        exact absurd hmem (by decide)
  obtain ⟨-, hemits, hself⟩ := emits_sendFlag a (w := w₁) (by rw [hself₁]; exact hw.tcp) hcontrol
    hflag (by rw [hstack₁]; exact hfit)
  have hback : w.self.localSeq - 1 + 1 = w.self.localSeq := by
    rw [UInt32.sub_eq_add_neg, UInt32.add_assoc]
    exact (congrArg (w.self.localSeq + ·) (by decide : (-1 : UInt32) + 1 = 0)).trans
      (UInt32.add_zero _)
  rw [hself₁] at hemits hself
  dsimp only at hemits hself
  rw [hback] at hself
  refine (Yields.mk (c := conn w) (htells.before_emits (by rw [hself₁]) hemits)
    (.of_update hself) ?_ ?_ ?_).refines hw rfl
      (conforms_of_acts (by simp) (.resend hresends) ?_)
  all_goals try rw [hself]
  · rfl
  · rfl
  · rfl
  · -- a state that something is resent in has an address
    have hstate : (conn w).state ∈ [SYN_SENT, SYN_RECEIVED, FIN_WAIT_1, CLOSING] := by
      rcases resends_cases hresends with ⟨h, -⟩ | ⟨h, -⟩ | ⟨h | h, -⟩ <;> rw [h] <;> decide
    exact (by decide : ∀ state ∈ [SYN_SENT, SYN_RECEIVED, FIN_WAIT_1, CLOSING],
      state ∉ [RESOLVING, UNKNOWN_HOST]) _ hstate

/-- The payload again. -/
theorem resendData_yields (hstate : w.self.state = ESTABLISHED ||| AWAITING_ACK) :
    (resendData a.callbacks).succeeds w ∧
      Yields w { sends := some ⟨ACK, w.self.localSeq - w.self.lastDataLength.toUInt32,
        w.self.remoteSeq, outstanding w⟩ } (conn w) ((resendData a.callbacks).exec w) := by
  obtain ⟨b, hb, hfits, hroot⟩ := hw.stash
  obtain ⟨hne, hle, hroom⟩ := hw.within.data hstate
  have hdata : outstanding w =
      Region.read w.stack.mem b.root b.base w.self.lastDataLength.toNat := by
    rw [outstanding, hb]
  have hlength : (conn w).data.length = w.self.lastDataLength.toNat := by
    rw [conn, hdata, Region.length_read]
  have hstash : (limits w).stash = b.size.toNat := by rw [limits, hb]
  have hpos : w.self.lastDataLength ≠ 0 := by
    intro hzero
    rw [hzero] at hlength
    exact hne (List.length_eq_zero_iff.mp hlength)
  rw [hlength, hstash] at hle
  rw [hlength] at hroom
  obtain ⟨hsent, htransmitted⟩ := resendData_run a.callbacks hw.geared hb hpos
    (UInt16.le_iff_toNat_le.mpr hle) hroom
  refine ⟨hsent, ?_⟩
  generalize hw₁ : w.setSelf _ = w₁ at htransmitted
  have hself₁ : w₁.self = { w.self with
      localSeq := w.self.localSeq - w.self.lastDataLength.toUInt32 } := by rw [← hw₁]; rfl
  have hstack₁ : w₁.stack = w.stack := by rw [← hw₁]; rfl
  have hroom₁ : w.self.lastDataLength.toNat + 20 ≤
      (unstashData b w.self.lastDataLength w₁).stack.room := by
    have hroom₂ : (unstashData b w.self.lastDataLength w₁).stack.room = w₁.stack.room := rfl
    rw [hroom₂, hstack₁]
    exact hroom
  have hemits := emits_of_transmitted (by decide) (.inr ⟨.inl rfl, hroom₁⟩)
    (fits_payload (by decide) hroom₁) htransmitted
  -- the segment carries what the stash holds
  have hpayload : Region.read (unstashData b w.self.lastDataLength w₁).stack.mem .send 54
      w.self.lastDataLength.toNat = outstanding w := by
    rw [unstashData, hstack₁, hdata]
    exact Region.read_write_eq _ _ _ (Region.length_read _ _ _ _).symm
  have hself := htransmitted.self
  have hself₂ : (unstashData b w.self.lastDataLength w₁).self = w₁.self := rfl
  rw [hself₂] at hself
  rw [hpayload, seqOf, ackOf, if_neg (by decide), if_neg (by decide), hself₂, hself₁] at hemits
  have hback : w.self.localSeq - w.self.lastDataLength.toUInt32 +
      w.self.lastDataLength.toUInt32 = w.self.localSeq := UInt32.sub_add_cancel _ _
  rw [advance, if_neg (by decide), if_pos (UInt16.pos_iff_ne_zero.mpr hpos), hself₁] at hself
  dsimp only at hself
  rw [hback] at hself
  have hsend : Emits w₁ _ _ := Emits.of_payload hemits
    (fun r hr => funext (Region.write_region _ hr _ _)) (Region.write_out _ _ _ (.inl (by decide)))
  have htells : Tells w none w₁ := by
    rw [← hw₁]
    exact Tells.setSelf w _
  refine ⟨htells.before_emits (by rw [hself₁]) hsend, .of_update hself, ?_, ?_, ?_⟩
  all_goals rw [hself]
  · rw [hstate]
    exact (by decide : (ESTABLISHED ||| AWAITING_ACK) ||| AWAITING_ACK = _).trans hstate.symm
  · rfl
  · rfl

/-- The re-sending of the stash is one. -/
theorem resendData_refines (hstate : w.self.state = ESTABLISHED ||| AWAITING_ACK) :
    Refines (Conforms .checkState true w) w ((resendData a.callbacks).exec w) := by
  have hlength : (conn w).data.length = w.self.lastDataLength.toNat := by
    obtain ⟨b, hb, -⟩ := hw.stash
    rw [conn, outstanding, hb, Region.length_read]
  have hback : w.self.localSeq - w.self.lastDataLength.toUInt32 =
      (conn w).localSeq - UInt32.ofNat (conn w).data.length := by
    rw [hlength, UInt32.ofNat_uInt16ToNat]
    rfl
  have hacts : Acts (limits w) (conn w) .check
      { sends := some ⟨ACK, w.self.localSeq - w.self.lastDataLength.toUInt32, w.self.remoteSeq,
        outstanding w⟩ } (conn w) := by
    rw [hback]
    exact .resendData hstate
  refine (resendData_yields a hw hstate).2.refines hw rfl (conforms_of_acts (by simp) hacts ?_)
  have hconn : (conn w).state = ESTABLISHED ||| AWAITING_ACK := hstate
  rw [hconn]
  decide

/-- The timeout of the handshake is one. -/
theorem checkHandshake_refines (elapsed : UInt32) :
    Refines (Conforms .checkState true w) w (checkHandshake a.callbacks elapsed w) := by
  have hidle : Refines (Conforms .checkState true w) w w := refines_idle (by simp)
  unfold checkHandshake
  split_ifs with h1 h2 h3 h4 h5
  · exact resend_refines a hw (by rw [Conn.resends, if_pos (show (conn w).state = _ from h1)])
  · refine resend_refines a hw ?_
    rw [Conn.resends, if_neg (show ¬ (conn w).state = _ from h1),
      if_pos (show (conn w).state = _ from h2)]
  · refine resend_refines a hw ?_
    rw [Conn.resends, if_neg (show ¬ (conn w).state = _ from h1),
      if_neg (show ¬ (conn w).state = _ from h2), 
      if_pos (show (conn w).state = FIN_WAIT_1 ∨ (conn w).state = CLOSING from h3)]
  · exact hidle
  · have hself := self_closed a w
    refine (Yields.mk (c := { conn w with state := w.self.down }) (Tells.closed a w).emits
      (.of_update hself) ?_ ?_ ?_).refines hw rfl
        (conforms_of_acts (by simp) (.expire h5) (down_not_resolving _))
    all_goals rw [hself]
    · rfl
    · rfl
  · exact hidle

omit hw in
/-- A closed socket is left alone. -/
theorem checkRetransmission_down {w : World α} (hstate : w.self.state = CLOSED ∨
    w.self.state = LISTEN) (elapsed : UInt32) :
    checkRetransmission a.callbacks dns elapsed w = w := by
  have hne : ∀ state ∈ [ESTABLISHED, RESOLVING, ESTABLISHED ||| AWAITING_ACK, SYN_SENT,
      SYN_RECEIVED, FIN_WAIT_1, CLOSING, TIME_WAIT], w.self.state ≠ state := by
    rcases hstate with h | h
    · rw [h]; decide
    · rw [h]; decide
  unfold checkRetransmission checkHandshake
  rw [if_neg (hne _ (by decide)), if_neg (hne _ (by decide))]
  split
  · rfl
  rw [if_neg (hne _ (by decide)), if_neg (hne _ (by decide)), if_neg (hne _ (by decide)),
    if_neg (not_or.mpr ⟨hne _ (by decide), hne _ (by decide)⟩)]
  split
  · rfl
  · exact if_neg (hne _ (by decide))

omit hw in
/-- Nothing of `checkHandshake` is for a socket that waits for an ACK of data. -/
theorem checkHandshake_awaiting {w : World α} (hstate : w.self.state = ESTABLISHED ||| AWAITING_ACK)
    (elapsed : UInt32) : checkHandshake a.callbacks elapsed w = w := by
  have hne : ∀ state ∈ [SYN_SENT, SYN_RECEIVED, FIN_WAIT_1, CLOSING, TIME_WAIT],
      w.self.state ≠ state := by
    rw [hstate]
    decide
  unfold checkHandshake
  rw [if_neg (hne _ (by decide)), if_neg (hne _ (by decide)),
    if_neg (not_or.mpr ⟨hne _ (by decide), hne _ (by decide)⟩)]
  split
  · rfl
  · exact if_neg (hne _ (by decide))

omit hw in
/-- Without a name there is nothing to look up. -/
theorem resolveWith_address {next : Proc (World α) Unit} {w : World α}
    (hdomain : w.self.remoteDomain = none) :
    (resolveWith a.callbacks dns next).run w = (some (), w) ∧
        w.self.state ∈ [RESOLVING, CLOSED, UNKNOWN_HOST] ∨
      (resolveWith a.callbacks dns next).run w = (none, w) ∧
        w.self.state ∉ [RESOLVING, CLOSED, UNKNOWN_HOST] := by
  unfold resolveWith
  rw [Proc.run_read_bind]
  by_cases hstate : w.self.state ≠ RESOLVING ∧ w.self.state ≠ CLOSED ∧
      w.self.state ≠ UNKNOWN_HOST
  · rw [if_pos hstate]
    exact .inr ⟨rfl, by simpa using hstate⟩
  · rw [if_neg hstate, hdomain]
    refine .inl ⟨rfl, ?_⟩
    rw [not_and_or, not_and_or, not_not, not_not, not_not] at hstate
    simpa using hstate

/-- The timeout of a transmission is one. -/
theorem checkRetransmission_refines (hdomain : w.self.remoteDomain = none) (elapsed : UInt32) :
    Refines (Conforms .checkState true w) w
      (checkRetransmission a.callbacks dns elapsed w) := by
  have hidle : Refines (Conforms .checkState true w) w w := refines_idle (by simp)
  have hid : Identity w.self { w.self with attempts := w.self.attempts + 1 } := ⟨rfl⟩
  have hw₁ : Wired (w.setSelf { w.self with attempts := w.self.attempts + 1 }) :=
    ⟨hw.tcp, hw.sendBuffer, hw.stash, hw.within⟩
  unfold checkRetransmission exhausted
  dsimp only
  by_cases h1 : w.self.state = ESTABLISHED
  · rw [if_pos h1]
    exact hidle
  rw [if_neg h1]
  by_cases h2 : w.self.state = RESOLVING
  · rw [if_pos h2, Proc.exec, resolveIP]
    rcases resolveWith_address a dns hdomain with ⟨h, -⟩ | ⟨h, -⟩
    · rw [h]
      exact hidle
    · rw [h]
      exact hidle
  rw [if_neg h2]
  by_cases h3 : elapsed < ACK_WAIT_DURATION
  · rw [if_pos h3]
    exact hidle
  rw [if_neg h3]
  by_cases h4 : w.self.state = ESTABLISHED ||| AWAITING_ACK
  case neg =>
    rw [if_neg h4]
    exact checkHandshake_refines a hw elapsed
  rw [if_pos h4]
  split
  · have hforce := forceClose_refines a hw₁ (.inr rfl : Operation.checkState = _ ∨ _) true
    have hforce := hforce.mono fun e c h => h.of_setSelf (w := w) rfl rfl
    exact Refines.after_setSelf hforce hid fun h => ⟨h, rfl⟩
  obtain ⟨hsent, hyields⟩ := resendData_yields a hw₁ h4
  rw [if_pos hsent, checkHandshake_awaiting a (hyields.state.trans h4)]
  have hresend := (resendData_refines a hw₁ h4).mono fun e c h => h.of_setSelf (w := w) rfl rfl
  exact Refines.after_setSelf hresend hid fun h => ⟨h, rfl⟩

/-- The tick is one. -/
theorem checkState_refines (hdomain : w.self.remoteDomain = none) :
    Refines (Conforms .checkState true w) w (checkState a.callbacks dns w) := by
  have hidle : Refines (Conforms .checkState true w) w w := refines_idle (by simp)
  unfold checkState
  dsimp only
  split
  · exact hidle
  split
  · exact hidle
  split
  · split
    · exact close_refines a hw (.inr rfl) true
    · -- after `forceClose` the rest finds a closed socket
      obtain ⟨-, hself⟩ := forceClose_emits a hw.tcp
      rw [checkRetransmission_down]
      · exact forceClose_refines a hw (.inr rfl) true
      · rw [hself]
        exact w.self.down_eq
  · exact checkRetransmission_refines a dns hw hdomain _

/-! ### Sending -/

omit hw in
/-- What cannot be sent is refused. -/
theorem send_fails (cb : Callbacks α) {w : World α} (hg : Geared w) {length : UInt16}
    (hpos : length ≠ 0) (hs : ¬ Sendable length w) : ((send cb length).run w).1 = none := by
  unfold send
  rw [Proc.run_read_bind, if_neg hpos]
  by_cases hready : w.self.readyToSend
  case neg =>
    rw [if_pos (by simpa using hready)]
    rfl
  rw [if_neg (by simp [hready])]
  by_cases hlimit : length > w.self.getMaxSendPayload
  · rw [if_pos hlimit]
    rfl
  rw [if_neg hlimit, Proc.run_modify_bind]
  obtain ⟨b, hb, -⟩ := hg.stash
  have hroom : w.stack.room < length.toNat + 20 :=
    Nat.lt_of_not_le fun hroom => hs ⟨hpos, hready, UInt16.not_lt.mp hlimit, hroom⟩
  have hcopy := @copyTo_refused length b w.stack hpos hroom w.stack.mem
  have hb₁ : (w.setSelf { w.self with attempts := 1 }).self.stash = some b := hb
  rw [(hg.attempts 1).run_buffers hb₁,
    Proc.run_bind_of_none (t := w.setSelf { w.self with attempts := 1 })]
  rw [World.onMem, World.onStack, Proc.run_zoom, Stack.onMem, Proc.run_zoom]
  have hstack : (w.setSelf { w.self with attempts := 1 }).stack = w.stack := rfl
  rw [hstack, hcopy]
  rfl

omit hw in
/-- Stashing a payload changes nothing but the stash. -/
theorem write_stash {b : Buffer} {data : Bytes} (hle : data.length ≤ b.size.toNat) (m : Memory)
    {r : Root} {i : ℕ} (hout : r ≠ b.root ∨ i < b.base ∨ b.base + b.size.toNat ≤ i) :
    Region.write m b.root b.base data r i = m r i := by
  by_cases hr : r = b.root
  · rw [hr]
    rcases hout with hne | hi | hi
    · exact absurd hr hne
    · exact Region.write_out _ _ _ (.inl hi)
    · exact Region.write_out _ _ _ (.inr (by omega))
  · exact Region.write_region _ hr _ _ _

/-- A payload has been sent: it is in the stash, its segment has left, and the socket waits for
the acknowledgement. -/
structure Dispatched (length : UInt16) (w w' : World α) : Prop where
  self : ∃ millis, w'.self = { w.self with
    attempts := 1, state := w.self.state ||| AWAITING_ACK, lastDataLength := length
    localSeq := w.self.localSeq + length.toUInt32, stateTime := millis }
  moves : Moves w { sends := some ⟨ACK ||| PSH, w.self.localSeq, w.self.remoteSeq,
    Region.read w.stack.mem .send 54 length.toNat⟩ } w'
  stashed : outstanding w' = Region.read w.stack.mem .send 54 length.toNat

/-- `send` dispatches what it accepts. -/
theorem send_dispatches {length : UInt16} (hs : Sendable length w) :
    (send a.callbacks length).succeeds w ∧
      Dispatched length w ((send a.callbacks length).exec w) := by
  obtain ⟨b, hb, hfits, hroot⟩ := hw.stash
  obtain ⟨w', htransmitted, hrun⟩ := send_run a.callbacks hw.geared hs hb
  rw [Proc.succeeds, Proc.exec, hrun]
  refine ⟨rfl, ?_⟩
  generalize hdata : Region.read w.stack.mem .send 54 length.toNat = data
  have hlength : data.length = length.toNat := by rw [← hdata, Region.length_read]
  -- the payload is in the stash, and still in the send buffer
  generalize hw₁ : stashData b length (w.setSelf { w.self with attempts := 1 }) = w₁
    at htransmitted
  have hself₁ : w₁.self = { w.self with attempts := 1 } := by rw [← hw₁]; rfl
  have hmem₁ : w₁.stack.mem = Region.write w.stack.mem b.root b.base data := by
    rw [← hw₁, ← hdata]
    rfl
  have hpayload : Region.read w₁.stack.mem .send 54 length.toNat = data := by
    rw [hmem₁, hroot, Region.read_write_region _ (by decide), hdata]
  have hfit : length.toNat + 20 ≤ w₁.stack.room := by
    rw [← hw₁]
    exact hs.room
  have hemits := emits_of_transmitted (by decide) (.inr ⟨.inr rfl, hfit⟩)
    (fits_payload (by decide) hfit) htransmitted
  rw [hpayload, seqOf, ackOf, if_neg (by decide), if_neg (by decide), hself₁] at hemits
  have hself := htransmitted.self
  rw [advance, if_neg (by decide), if_pos (UInt16.pos_iff_ne_zero.mpr hs.nonempty), hself₁] at hself
  have hlast : (w'.setSelf { w'.self with stateTime := w'.stack.millis }).self = { w.self with
      attempts := 1, state := w.self.state ||| AWAITING_ACK, lastDataLength := length
      localSeq := w.self.localSeq + length.toUInt32, stateTime := w'.stack.millis } := by
    rw [World.setSelf, hself]
  refine ⟨⟨_, hlast⟩, ⟨w₁.stack.mem, fun r i hout => ?_, ?_⟩, ?_⟩
  · have hle := UInt16.le_iff_toNat_le.mp (UInt16.le_trans hs.limit (getMaxSendPayload_le hb))
    rw [hmem₁]
    exact write_stash (by omega) w.stack.mem (hout b hb)
  · have htells : Tells { w with stack := { w.stack with mem := w₁.stack.mem } } none w₁ := by
      rw [← hw₁]
      exact Tells.setSelf _ _
    rw [hdata]
    refine (htells.before_emits (by rw [hself₁]) hemits).then_tells (Tells.setSelf _ _) ?_
    rw [hlast, hself]
    rfl
  · have hmem : w'.stack.mem b.root = w₁.stack.mem b.root :=
      htransmitted.other b.root (by rw [hroot]; decide)
    rw [outstanding, hlast]
    dsimp only
    rw [hb, hdata]
    refine (Region.read_congr fun i _ => congrFun hmem _).trans ?_
    rw [hmem₁]
    exact Region.read_write_eq _ _ _ hlength.symm

/-- That is the step of the protocol for a payload. -/
theorem Dispatched.refines {length : UInt16} {w' : World α} (hs : Sendable length w)
    (h : Dispatched length w w') : Refines (Conforms (.send length) true w) w w' := by
  obtain ⟨⟨millis, hself⟩, hmoves, hstashed⟩ := h
  generalize hdata : Region.read w.stack.mem .send 54 length.toNat = data at hmoves hstashed
  have hlength : data.length = length.toNat := by rw [← hdata, Region.length_read]
  have hconn : conn w' = { conn w with
      state := w.self.state ||| AWAITING_ACK
      localSeq := w.self.localSeq + UInt32.ofNat data.length, data := data } := by
    rw [conn, hstashed, hself, hlength, UInt32.ofNat_uInt16ToNat]
    rfl
  have hready := readyToSend_iff.mp hs.ready
  have hne : data ≠ [] := by
    rintro rfl
    exact hs.nonempty (UInt16.toNat_inj.mp hlength.symm)
  obtain ⟨b, hb, -, -⟩ := hw.stash
  have hstash : data.length ≤ (limits w).stash := by
    rw [hlength, limits, hb]
    exact UInt16.le_iff_toNat_le.mp (UInt16.le_trans hs.limit (getMaxSendPayload_le hb))
  have hacts := Acts.send (k := limits w) (c := conn w) hready.1
    (fun h => hready.2 (beq_iff_eq.mp h)) hne hstash
    (by rw [hlength]; exact hs.room)
  have hopen : (w.self.state ||| AWAITING_ACK) ∉ [RESOLVING, UNKNOWN_HOST] := by
    have hstate : w.self.state ||| AWAITING_ACK = ESTABLISHED ||| AWAITING_ACK :=
      Conn.Open.or_awaiting (c := conn w) hready.1
    rw [hstate]
    decide
  refine ⟨⟨_, ?_, hmoves⟩, ⟨hself ▸ rfl⟩, fun _ => by rw [hself]; rfl⟩
  rw [hconn]
  refine ⟨?_, fun h => absurd h hopen, fun n hn => ?_⟩
  · rw [Operation.call, hdata]
    exact hacts
  · obtain rfl := Operation.send.inj hn
    exact iff_of_true rfl ⟨hs.nonempty, rfl⟩

/-- `send` is a step of the connection. -/
theorem send_refines (length : UInt16) :
    Refines (Conforms (.send length) ((send a.callbacks length).succeeds w) w) w
      ((send a.callbacks length).exec w) := by
  by_cases hs : Sendable length w
  · obtain ⟨hsent, h⟩ := send_dispatches a hw hs
    rw [hsent]
    exact h.refines hw hs
  have hfails : ∀ n, Operation.send length = .send n → n ≠ 0 →
      (send a.callbacks length).succeeds w = false := by
    rintro n hn hne
    obtain rfl := Operation.send.inj hn
    rw [Proc.succeeds, send_fails a.callbacks hw.geared hne hs]
    rfl
  rcases send_unsent a.callbacks (fun _ => hw.geared) (fun h => hs h.2) with h | h
  · rw [Proc.exec, h]
    exact refines_idle hfails
  · rw [Proc.exec, h]
    exact refines_setSelf_idle ⟨rfl⟩ (fun _ => rfl) rfl hfails

/-! ### Connecting -/

/-- `connect` is one. -/
theorem connect_refines (hdomain : w.self.remoteDomain = none) :
    Refines (Conforms .connect ((connect a.callbacks dns).succeeds w) w) w
      ((connect a.callbacks dns).exec w) := by
  have hidle : ∀ returned, Refines (Conforms .connect returned w) w w :=
    fun returned => refines_idle (by simp)
  have hnone : w.self.tcp.isNone = false := by
    rw [Option.isNone_eq_false_iff]
    exact hw.tcp
  generalize hreturned : (connect a.callbacks dns).succeeds w = returned
  rw [Proc.exec]
  unfold connect connectWith resolveIP
  rcases resolveWith_address a dns hdomain with ⟨h, hstate⟩ | ⟨h, -⟩
  case inr =>
    rw [Proc.run_bind_of_none h]
    exact hidle returned
  rw [Proc.run_bind_of_some h, Proc.run_read_bind]
  by_cases hresolving : w.self.state = RESOLVING
  · rw [if_pos hresolving]
    exact refines_setSelf_idle ⟨rfl⟩ (fun _ => rfl) rfl (by simp)
  rw [if_neg hresolving]
  by_cases hclosed : w.self.state = CLOSED
  case neg =>
    rw [if_pos hclosed]
    exact hidle returned
  rw [if_neg (not_not.mpr hclosed), hnone, if_neg (by decide)]
  have hport : (World.onStack ⟨fun h => (some (IPHandler.getPort h).1, (IPHandler.getPort h).2)⟩ :
      Proc (World α) UInt16).run w = (some (IPHandler.getPort w.stack).1,
        { w with stack := (IPHandler.getPort w.stack).2 }) := rfl
  rw [Proc.run_bind_of_some hport, Proc.run_modify_bind]
  generalize hw₁ : World.setSelf _ _ = w₁
  have hself₁ : w₁.self = { w.self with localPort := (IPHandler.getPort w.stack).1 } := by
    rw [← hw₁]
    rfl
  have htells : Tells w none w₁ := by
    rw [← hw₁]
    exact ⟨rfl, [], _, by rw [List.append_nil]; rfl, rfl, rfl⟩
  have hroom : w₁.stack.room = w.stack.room := by rw [← hw₁]; rfl
  have hunopened : w.self.state ∈ unopened := by rw [hclosed]; decide
  by_cases hfit : 24 ≤ w.stack.room
  · obtain ⟨hsent, hemits, hself⟩ := @emits_sendFlag _ a w₁ (by rw [hself₁]; exact hw.tcp) SYN
      (by decide) (.inl (by decide)) (by rw [optionBytes, if_pos (by decide), hroom]; exact hfit)
    obtain ⟨_, w₂, hrun⟩ := Proc.succeeds_iff.mp hsent
    have hw₂ : (sendSegment a.callbacks SYN 0 0 0).exec w₁ = w₂ := congrArg Prod.snd hrun
    rw [hw₂] at hemits hself
    rw [Proc.run_bind_of_some hrun, Proc.run_modify_bind]
    have hafter : Tells w₂ none
        (setState a.callbacks SYN_SENT (w₂.setSelf { w₂.self with attempts := 1 })) :=
      (Tells.setSelf w₂ _).trans (Tells.setState a _ _)
    have hsyn : Emits w { sends := some ⟨SYN, w.self.localSeq, w.self.remoteSeq, []⟩ } w₂ := by
      rw [hself₁] at hemits
      exact htells.before_emits (by rw [hself₁]) hemits
    refine (Begins.mk (c := { conn w with state := SYN_SENT, localSeq := w.self.localSeq + 1 })
      (hsyn.then_tells hafter ?_) ?_ ?_ ?_ ?_ ?_).refines hw
        (fun hne => absurd hunopened hne) rfl (conforms_of_acts (by simp)
          (.connect (.inl rfl) hunopened hfit)
          (by decide : SYN_SENT ∉ [RESOLVING, UNKNOWN_HOST]))
    all_goals simp only [self_setState, World.setSelf, hself, hself₁]
    all_goals first | rfl | exact ⟨rfl⟩
  · have hshort : w₁.stack.room < 20 + (optionBytes SYN w₁.stack).length := by
      rw [optionBytes, if_pos (by decide), hroom]
      exact Nat.lt_of_not_le hfit
    obtain ⟨hunsent, hemits, hself⟩ := @sendFlag_short _ a w₁ (by rw [hself₁]; exact hw.tcp) SYN
      hshort
    have hnone₂ : ((sendSegment a.callbacks SYN 0 0 0).run w₁).1 = none := by
      simpa [Proc.succeeds] using hunsent
    have hself : ((sendSegment a.callbacks SYN 0 0 0).exec w₁).self = w₁.self := by
      rcases hself with hself | ⟨hsyn, -⟩
      · exact hself
      · exact absurd hsyn (by decide)
    rw [Proc.run_bind_of_none (Prod.ext hnone₂ rfl)]
    refine (Begins.mk (c := conn w) (htells.before_emits (by rw [hself₁]) hemits)
      ?_ ?_ ?_ ?_ ?_).refines hw (fun hne => absurd hunopened hne) rfl (conforms_idle (by simp))
    all_goals rw [hself, hself₁]
    all_goals first | rfl | exact ⟨rfl⟩

/-! ### Every operation -/

/-- Every operation makes a step of the protocol. -/
theorem Operation.conforms (hdomain : w.self.remoteDomain = none) (o : Operation) :
    Refines (Conforms o (o.run a.callbacks dns w).1 w) w (o.run a.callbacks dns w).2 := by
  cases o with
  | connect => exact connect_refines a dns hw hdomain
  | send length => exact send_refines a hw length
  | close => exact close_refines a hw (.inl rfl) _
  | forceClose => exact forceClose_refines a hw (.inl rfl) _
  | checkState => exact checkState_refines a dns hw hdomain

end App

end Socket

end AtmegaNet
