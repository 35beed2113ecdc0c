import AtmegaNet.HostRuns

/-!
# Sockets that are not established

The state of a socket is one byte, of which the low half is compared in some places and the
whole in others, AWAITING_ACK being the high half. This module finds the bytes a run can lead
to, and what the operations that test for ESTABLISHED do in the states that do not pass.

## Main results

* `stable_regular`: the state byte is one of the named values, and only a host listens.
* `reaches_notEstablished`: in every state but ESTABLISHED and RESOLVING a socket does not
  behave as established, and closing it follows the diagram.
-/

open Procedure Runs

namespace AtmegaNet

namespace Socket

variable {α : Type}

/-! ### The values of the state byte -/

/-- The states of `Socket.h`, and ESTABLISHED while an ACK is awaited. -/
def stateValues : List UInt8 :=
  [LISTEN, SYN_SENT, SYN_RECEIVED, ESTABLISHED, ESTABLISHED ||| AWAITING_ACK, FIN_WAIT_1,
    FIN_WAIT_2, CLOSE_WAIT, CLOSING, LAST_ACK, TIME_WAIT, CLOSED, RESOLVING, UNKNOWN_HOST]

/-- The state byte of a socket is a named one, and only a host listens. -/
structure Regular (s : Socket) : Prop where
  named : s.state ∈ stateValues
  listen : s.state = LISTEN → s.isHost

/-- Between two worlds a socket that was regular is so still. -/
structure StaysRegular (w w' : World α) : Prop where
  this : w'.this = w.this
  regular : w.self.Regular → w'.self.Regular

instance : IsPreorder (World α) StaysRegular where
  refl _ := ⟨rfl, id⟩
  trans _ _ _ h h' := ⟨h'.this.trans h.this, h'.regular ∘ h.regular⟩

/-- Whether a socket is a host depends on its port. -/
theorem isHost_eq {s s' : Socket} (h : s'.listenPort = s.listenPort) : s'.isHost = s.isHost := by
  rw [isHost, isHost, h]

/-- Regularity depends on the state and the port. -/
theorem Regular.congr {s s' : Socket} (h : s.Regular) (hstate : s'.state = s.state)
    (hport : s'.listenPort = s.listenPort) : s'.Regular := by
  refine ⟨hstate ▸ h.named, fun hl => ?_⟩
  rw [isHost_eq hport]
  exact h.listen (hstate.symm.trans hl)

/-- The transitions of the diagram lead from named states to named states. -/
theorem Next.regular {s : Socket} {state : UInt8} (h : Next s state) (hs : s.Regular) :
    state ∈ stateValues ∧ (state = LISTEN → s.isHost) := by
  have hvalues : ∀ v ∈ stateValues, v &&& 0x0F ∈ stateValues ∧ (v &&& 0x0F = LISTEN → v = LISTEN) ∧
      (v &&& 0x0F = ESTABLISHED →
        v ||| AWAITING_ACK ∈ stateValues ∧ v ||| AWAITING_ACK ≠ LISTEN) := by decide
  obtain ⟨hclear, hlisten, hawait⟩ := hvalues _ hs.named
  have hconst : ∀ v ∈ stateValues, v ≠ LISTEN → v ∈ stateValues ∧ (v = LISTEN → s.isHost) :=
    fun v hv hne => ⟨hv, fun h => absurd h hne⟩
  cases h with
  | down =>
      rw [Socket.down]
      split
      · exact ⟨by decide, fun _ => (‹_ ∧ _›).2⟩
      · exact hconst CLOSED (by decide) (by decide)
  | cleared => exact ⟨hclear, fun h => hs.listen (hlisten h)⟩
  | awaiting hopen => exact hconst _ (hawait hopen).1 (hawait hopen).2
  | close hafter =>
      unfold stateAfterClose at hafter
      split_ifs at hafter
      · exact Option.some.inj hafter ▸ hconst FIN_WAIT_1 (by decide) (by decide)
      · exact Option.some.inj hafter ▸ hconst FIN_WAIT_1 (by decide) (by decide)
      · exact Option.some.inj hafter ▸ hconst LAST_ACK (by decide) (by decide)
  | remoteClosed => exact hconst CLOSE_WAIT (by decide) (by decide)
  | closing => exact hconst CLOSING (by decide) (by decide)
  | halfClosed => exact hconst FIN_WAIT_2 (by decide) (by decide)
  | timeWait => exact hconst TIME_WAIT (by decide) (by decide)
  | established => exact hconst ESTABLISHED (by decide) (by decide)
  | synReceived => exact hconst SYN_RECEIVED (by decide) (by decide)
  | synSent => exact hconst SYN_SENT (by decide) (by decide)
  | resolve _ hmem =>
      have hnames : ∀ v ∈ [RESOLVING, UNKNOWN_HOST], v ∈ stateValues ∧ v ≠ LISTEN := by decide
      exact hconst _ (hnames _ hmem).1 (hnames _ hmem).2

/-- The bearings include the state. -/
theorem state_eq {s s' : Socket} (h : bearings s' = bearings s) : s'.state = s.state :=
  congrArg Prod.fst h

/-- The bearings include the port. -/
theorem listenPort_eq {s s' : Socket} (h : bearings s' = bearings s) :
    s'.listenPort = s.listenPort :=
  congrArg (fun b => b.2.2.1) h

theorem allows_staysRegular : Allows (StaysRegular (α := α)) where
  still hthis hb := ⟨hthis, fun h => h.congr (state_eq hb) (listenPort_eq hb)⟩
  next w s hnext hb := by
    refine ⟨rfl, fun h => ?_⟩
    obtain ⟨hnamed, hlisten⟩ := hnext.regular h
    exact ⟨hnamed, fun hl => (isHost_eq (listenPort_eq hb)).trans (hlisten hl)⟩
  remote _ _ _ := ⟨rfl, fun h => h.congr rfl rfl⟩
  port _ _ _ _ := ⟨rfl, fun h => h.congr rfl rfl⟩

end Socket

namespace TCPHandler

variable {α : Type}

/-- Every socket of the host is regular. -/
def AllRegular (n : Net α) : Prop := ∀ i, (n.sockets i).Regular

/-- One regular socket in place of another. -/
theorem AllRegular.update {n : Net α} {w : World α} (h : AllRegular n) (hw : w.self.Regular) :
    AllRegular (n.update w) := by
  intro j
  by_cases hj : j = w.this
  · rw [hj, Net.sockets_update_self]
    exact hw
  · rw [Net.sockets_update_other hj]
    exact h j

/-- Whatever happens on a host, its sockets stay regular. -/
theorem stable_regular : Stable Socket.StaysRegular (AllRegular (α := α)) where
  this h := h.this
  host hn hl := (hn _).listen hl
  call hn h := hn.update (h.regular (hn _))
  offer {n _ _ i w₁ w} hn hoffers hthis hnoted hcases := by
    have hstate : w₁.self.state = (n.sockets i).state := congrArg Prod.fst hnoted
    have hport : w₁.self.listenPort = (n.sockets i).listenPort := congrArg (fun b => b.2.2.1) hnoted
    have hw₁ : w₁.self.Regular := (hn i).congr hstate hport
    rcases hcases with h | ⟨-, hcaptures⟩
    · exact hn.update (h.regular hw₁)
    · refine hn.update ?_
      have hport : w.self.listenPort = w₁.self.listenPort :=
        congrArg (fun b => b.2.1) hcaptures.home
      rcases hcaptures.state with hstate | ⟨hstate, -⟩
      · exact hw₁.congr hstate hport
      · exact ⟨by rw [hstate]; decide, fun h => absurd (hstate.symm.trans h) (by decide)⟩
  register {n n' i} hn h := by
    intro j
    by_cases hj : j = i
    · rw [hj]
      rcases h.self with hsame | hadopted
      · rw [hsame]
        exact hn i
      · have hstate := Socket.state_eq hadopted
        have hport := Socket.listenPort_eq hadopted
        have hhost : (n'.sockets i).isHost = (n.sockets i).isHost := Socket.isHost_eq hport
        dsimp only at hstate
        split at hstate
        · exact ⟨by rw [hstate]; decide, fun _ => hhost.trans ‹_›⟩
        · exact (hn i).congr hstate hport
    · rw [h.other j hj]
      exact hn j
  elsewhere _ _ hn := hn

end TCPHandler

/-! ### Outside ESTABLISHED -/

namespace Socket

variable {α : Type}

/-- A segment without payload that was sent. -/
theorem transmitted_of_succeeds {cb : Callbacks α} {control : UInt8} {seq ack : UInt32}
    {w : World α} (h : (sendSegment cb control 0 seq ack).succeeds w) :
    Transmitted cb control 0 seq ack w ((sendSegment cb control 0 seq ack).exec w) := by
  by_cases htcp : w.self.tcp.isSome
  · by_cases hroom : 20 + (optionBytes control w.stack).length ≤ w.stack.room
    · exact (sendSegment_transmitted cb control 0 seq ack htcp (by simpa using hroom)).2
    · have hshort := (sendSegment_short cb control seq ack w htcp (by omega)).1
      rw [Proc.succeeds, hshort] at h
      exact absurd h (by simp)
  · have hnone : w.self.tcp.isNone = true := by simpa using htcp
    unfold sendSegment at h
    rw [Proc.succeeds, Proc.run_read_bind, if_pos hnone] at h
    exact absurd h (by simp)

/-- What `close` leaves before it fires its event, if it does. -/
def closing (cb : Callbacks α) (w : World α) : World α :=
  match stateAfterClose w.self.state with
  | some state => setState cb state (w.setSelf { w.self with attempts := 1 })
  | none => w.setSelf { w.self with attempts := 1 }

/-- `close` either cannot send its FIN, or it has sent it and changes the state. -/
theorem close_cases (cb : Callbacks α) {w : World α} (h : ¬ w.self.localClosed) :
    let w' := (sendSegment cb (FIN ||| ACK) 0 0 0).exec w
    (close cb).run w = (none, w') ∨
      Transmitted cb (FIN ||| ACK) 0 0 0 w w' ∧
        (close cb).run w = (some (), fire cb .onLocalClosed (closing cb w')) := by
  intro w'
  unfold close
  rw [Proc.run_read_bind, if_neg h]
  rcases hrun : (sendSegment cb (FIN ||| ACK) 0 0 0).run w with ⟨_ | _, w₁⟩
  · have hw' : w' = w₁ := congrArg Prod.snd hrun
    rw [Proc.run_bind_of_none hrun, hw']
    exact .inl rfl
  · have hw' : w' = w₁ := congrArg Prod.snd hrun
    have hsucceeds : (sendSegment cb (FIN ||| ACK) 0 0 0).succeeds w := by
      rw [Proc.succeeds, hrun]
      rfl
    rw [Proc.run_bind_of_some hrun]
    refine .inr ⟨transmitted_of_succeeds hsucceeds, ?_⟩
    rw [hw']
    rfl

/-- Only the FIN of a connection, or of one that is being opened from outside, leads to
FIN_WAIT_1. -/
theorem stateAfterClose_finWait {state : UInt8} (h : stateAfterClose state = some FIN_WAIT_1) :
    state &&& 0x0F = ESTABLISHED ∨ state = SYN_RECEIVED := by
  unfold stateAfterClose at h
  split_ifs at h with hopen hreceived
  · exact .inl hopen
  · exact .inr hreceived
  · exact absurd (Option.some.inj h) (by decide)

/-- `close` leads out of ESTABLISHED. -/
theorem stateAfterClose_getD (state : UInt8) :
    (stateAfterClose state).getD state &&& 0x0F ≠ ESTABLISHED := by
  unfold stateAfterClose
  split_ifs with hopen
  · exact (by decide : FIN_WAIT_1 &&& 0x0F ≠ ESTABLISHED)
  · exact (by decide : FIN_WAIT_1 &&& 0x0F ≠ ESTABLISHED)
  · exact (by decide : LAST_ACK &&& 0x0F ≠ ESTABLISHED)
  · exact hopen

/-- The state that `close` leads to fires no event. -/
theorem closing_quiet (cb : Callbacks α) (w : World α) :
    (closing cb w).stack = w.stack ∧ (closing cb w).app = w.app ∧
      (closing cb w).self.state = (stateAfterClose w.self.state).getD w.self.state := by
  have hne : ∀ state, stateAfterClose w.self.state = some state →
      state ≠ CLOSED ∧ state ≠ ESTABLISHED := by
    intro state hstate
    unfold stateAfterClose at hstate
    split_ifs at hstate
    · rw [← Option.some.inj hstate]; decide
    · rw [← Option.some.inj hstate]; decide
    · rw [← Option.some.inj hstate]; decide
  unfold closing
  split
  case h_1 state hstate =>
    obtain ⟨hclosed, hopen⟩ := hne state hstate
    have hquiet : ∀ (prior : UInt8) (w : World α), announce cb prior state w = w := by
      intro prior w
      unfold announce
      rw [if_neg hopen]
      exact if_neg fun h => hclosed h.1
    rw [setState, hquiet, hstate]
    exact ⟨rfl, rfl, rfl⟩
  case h_2 hstate =>
    rw [hstate]
    exact ⟨rfl, rfl, rfl⟩

/-- A socket that its operations do not take for established, and that closes by the diagram:
a callback may go on from `onLocalClosed` as it likes. -/
structure NotEstablished (cb : Callbacks α) (w : World α) : Prop where
  readyToSend : w.self.readyToSend = false
  getState : w.self.getState ≠ ESTABLISHED
  send : ∀ length, length ≠ 0 → (send cb length).run w = (none, w)
  sendBytes : ∀ data, Buffer.lengthOf data ≠ 0 → (sendBytes cb data).succeeds w = false
  onDataReceived : ∀ f sourceIP buf,
    handleSegment { cb with onDataReceived := f } sourceIP buf w =
      handleSegment cb sourceIP buf w
  idle : w.self.localClosed → (close cb).run w = (some (), w)
  finWait : ∃ w', ((close cb).exec w = w' ∨ (close cb).exec w = fire cb .onLocalClosed w') ∧
    (w'.self.state = FIN_WAIT_1 → w.self.state ∈ [FIN_WAIT_1, SYN_RECEIVED])
  lastAck : w.self.state = CLOSE_WAIT → (close cb).succeeds w →
    ∃ w', (close cb).exec w = fire cb .onLocalClosed w' ∧ w'.self.state = LAST_ACK ∧
      ∃ l, w'.stack.log = w.stack.log ++ l ∧
        (∀ p ∈ packetsOf l, segControl p.2.2 = FIN ||| ACK) ∧
        ((IPHandler.getMACForIP w.self.remoteIP w.stack).isSome → (packetsOf l).length = 1)

section Outside

variable {cb : Callbacks α} {w : World α} (h : w.self.state &&& 0x0F ≠ ESTABLISHED)

include h

/-- A socket that is not established is not ready. -/
theorem readyToSend_eq_false : w.self.readyToSend = false := by
  rw [Bool.eq_false_iff, ne_eq, readyToSend_iff]
  exact fun hready => h hready.1

/-- `send` refuses and changes nothing. -/
theorem send_refused {length : UInt16} (hlength : length ≠ 0) :
    (send cb length).run w = (none, w) := by
  unfold send
  rw [Proc.run_read_bind, if_neg hlength, readyToSend_eq_false h]
  rfl

/-- So does the `send` of a buffer that is not empty. -/
theorem sendBytes_refused {data : Bytes} (hlength : Buffer.lengthOf data ≠ 0) :
    (sendBytes cb data).succeeds w = false := by
  unfold sendBytes
  rw [Proc.succeeds]
  rcases hbuffer : w.self.getSendDataBuffer with _ | sb
  · have hrun : (Proc.query fun w : World α => w.self.getSendDataBuffer).run w = (none, w) := by
      rw [Proc.run_query, hbuffer]
    rw [Proc.run_bind_of_none hrun]
    rfl
  have hrun : (Proc.query fun w : World α => w.self.getSendDataBuffer).run w = (some sb, w) := by
    rw [Proc.run_query, hbuffer]
  rw [Proc.run_bind_of_some hrun]
  rcases hwrite : (World.onMem (sb.write 0 data)).run w with ⟨_ | _, w₁⟩
  · rw [Proc.run_bind_of_none hwrite]
    rfl
  · have hself : w₁.self = w.self := congrArg (fun x => x.2.self) hwrite.symm
    rw [Proc.run_bind_of_some hwrite, send_refused (by rwa [hself]) hlength]
    rfl

/-- A payload is offered in ESTABLISHED only. -/
theorem handleValid_congr (f : Bytes → World α → Bool × World α) (buf : Bytes) (opt : UInt8)
    (ack seq : UInt32) :
    handleValid { cb with onDataReceived := f } buf opt ack seq w =
      handleValid cb buf opt ack seq w := by
  unfold handleValid
  rw [if_neg h, if_neg h]
  rfl

/-- A segment that is not delivered does not ask for the callback of the delivery. -/
theorem handleSegment_congr (f : Bytes → World α → Bool × World α) (sourceIP : IPAddr)
    (buf : Bytes) :
    handleSegment { cb with onDataReceived := f } sourceIP buf w =
      handleSegment cb sourceIP buf w := by
  unfold handleSegment
  dsimp only
  split
  case h_1 opt ack seq window _ _ _ _ =>
    rw [handleValid_congr]
    exact h
  case h_2 => rfl

omit h in
/-- `close` on a socket that is closed locally does nothing. -/
theorem close_idle (hclosed : w.self.localClosed) : (close cb).run w = (some (), w) := by
  unfold close
  rw [Proc.run_read_bind, if_pos hclosed]
  rfl

/-- A `close` that ends in `FIN_WAIT_1` has started there or in `SYN_RECEIVED`. -/
theorem close_finWait : ∃ w', ((close cb).exec w = w' ∨ (close cb).exec w =
      fire cb .onLocalClosed w') ∧
    (w'.self.state = FIN_WAIT_1 → w.self.state ∈ [FIN_WAIT_1, SYN_RECEIVED]) := by
  by_cases hclosed : w.self.localClosed
  · refine ⟨w, .inl ?_, fun hstate => by simp [hstate]⟩
    rw [Proc.exec, close_idle hclosed]
  have hu : Unmoved w ((sendSegment cb (FIN ||| ACK) 0 0 0).exec w) :=
    unmoved_sendSegment cb (FIN ||| ACK) 0 0 w
  rcases close_cases cb hclosed with hrun | ⟨-, hrun⟩
  · refine ⟨_, .inl (congrArg Prod.snd hrun), fun hstate => ?_⟩
    rw [← hu.state]
    exact List.mem_cons.mpr (.inl hstate)
  · refine ⟨_, .inr (congrArg Prod.snd hrun), fun hstate => ?_⟩
    rw [(closing_quiet cb _).2.2, hu.state] at hstate
    rcases hafter : stateAfterClose w.self.state with _ | state
    · rw [hafter] at hstate
      exact List.mem_cons.mpr (.inl hstate)
    · rw [hafter] at hstate
      have hstate : state = FIN_WAIT_1 := hstate
      rw [hstate] at hafter
      have hreceived := (stateAfterClose_finWait hafter).resolve_left h
      simp [hreceived]

omit h in
/-- In `CLOSE_WAIT`, a `close` that succeeds sends one FIN if there is a route. -/
theorem close_lastAck (hstate : w.self.state = CLOSE_WAIT) (hsucceeds : (close cb).succeeds w) :
    ∃ w', (close cb).exec w = fire cb .onLocalClosed w' ∧ w'.self.state = LAST_ACK ∧
      ∃ l, w'.stack.log = w.stack.log ++ l ∧
        (∀ p ∈ packetsOf l, segControl p.2.2 = FIN ||| ACK) ∧
        ((IPHandler.getMACForIP w.self.remoteIP w.stack).isSome →
          (packetsOf l).length = 1) := by
  have hopen : ¬ w.self.localClosed := by
    rw [localClosed, hstate]
    decide
  rcases close_cases cb hopen with hrun | ⟨hsent, hrun⟩
  · rw [Proc.succeeds, hrun] at hsucceeds
    exact absurd hsucceeds (by simp)
  have hu : Unmoved w ((sendSegment cb (FIN ||| ACK) 0 0 0).exec w) :=
    unmoved_sendSegment cb (FIN ||| ACK) 0 0 w
  obtain ⟨hstack, -, hclosing⟩ :=
    closing_quiet cb ((sendSegment cb (FIN ||| ACK) 0 0 0).exec w)
  refine ⟨_, congrArg Prod.snd hrun, ?_, ?_⟩
  · rw [hclosing, hu.state, hstate]
    rfl
  obtain ⟨l, hlog, -, hpackets⟩ := hsent.log
  have hshort : (0 : UInt16).toNat + 20 + (optionBytes (FIN ||| ACK) w.stack).length < 65536 := by
    rw [optionBytes, if_neg (by decide)]
    decide
  refine ⟨l, by rw [hstack, hlog], fun p hp => ?_, fun hroute => ?_⟩
  · rw [hpackets] at hp
    split at hp
    · rw [List.mem_singleton.mp hp]
      exact segControl_packetOf hshort
    · exact absurd hp List.not_mem_nil
  · rw [hpackets, if_pos hroute]
    rfl

/-- The three facts for a socket that is not established. -/
theorem notEstablished : NotEstablished cb w where
  readyToSend := readyToSend_eq_false h
  getState := h
  send _ := send_refused h
  sendBytes _ := sendBytes_refused h
  onDataReceived := handleSegment_congr h
  idle := close_idle
  finWait := close_finWait h
  lastAck := close_lastAck

end Outside

/-- In every state that a run of the host leads to, a socket that is neither in ESTABLISHED,
whether awaiting an ACK or not, nor in RESOLVING is not taken for established, and closes by
the diagram. -/
theorem reaches_notEstablished {cb : ℕ → Callbacks α}
    (hcb : ∀ i, Respects (cb i) StaysRegular) {n n' : Net α} (hn : n.Fresh)
    (hrun : Reaches (fun _ _ => True) (TCPHandler.run cb) n n') (i : ℕ)
    (hs : (n'.sockets i).state ∉ [ESTABLISHED, ESTABLISHED ||| AWAITING_ACK, RESOLVING]) :
    NotEstablished (cb i) (n'.world i) := by
  have hstart : TCPHandler.AllRegular n := by
    intro j
    obtain ⟨hclosed, -, -⟩ := (hn.sockets j).closed
    exact ⟨by rw [hclosed]; decide, fun h => absurd (hclosed.symm.trans h) (by decide)⟩
  have hregular : (n'.sockets i).Regular :=
    TCPHandler.stable_regular.reaches (fun i => ⟨allows_staysRegular, hcb i⟩) hstart hrun i
  have hvalues : ∀ v ∈ stateValues, v &&& 0x0F = ESTABLISHED →
      v ∈ [ESTABLISHED, ESTABLISHED ||| AWAITING_ACK, RESOLVING] := by decide
  exact notEstablished fun hopen => hs (hvalues _ hregular.named hopen)

/-- The FIN the client sends when it closes after the handshake. -/
def exampleFin : Bytes :=
  [192, 0, 0, 80, 0, 0, 0, 8, 0, 0, 0, 12, 80, 17, 0, 42, 219, 66, 0, 0]

/-- The listener after a handshake and the client's FIN. -/
def exampleCloseWait : Net Unit :=
  TCPHandler.run (fun _ => exampleApp.callbacks) (.packet ⟨10, 0, 0, 1⟩ exampleFin)
    (TCPHandler.run (fun _ => exampleApp.callbacks) (.packet ⟨10, 0, 0, 1⟩ exampleAck)
      (TCPHandler.run (fun _ => exampleApp.callbacks) (.packet ⟨10, 0, 0, 1⟩ exampleSyn)
        exampleListener))

theorem reaches_exampleCloseWait :
    ExampleRun (exampleFresh 2 1 (newListener 80 11 0 zero)) exampleCloseWait :=
  (((reaches_exampleNet 2 1 _).step (e := .packet _ _) trivial).step
    (e := .packet _ _) trivial).step (e := .packet _ _) trivial

/-- The listener in CLOSE_WAIT, with an application that makes no calls: there is a route to the
client, so that its `close` sends the FIN. -/
theorem reaches_notEstablished_closeWait :
    (exampleCloseWait.sockets 0).state = CLOSE_WAIT ∧
      (close exampleApp.callbacks).succeeds (exampleCloseWait.world 0) ∧
      (IPHandler.getMACForIP (exampleCloseWait.sockets 0).remoteIP exampleCloseWait.stack).isSome ∧
      NotEstablished exampleApp.callbacks (exampleCloseWait.world 0) :=
  ⟨by decide +kernel, by decide +kernel, by decide +kernel,
    reaches_notEstablished (fun _ => (allows_staysRegular.follows exampleApp).toRespects)
      (fresh_exampleFresh 2 1 (.listener 80 11 0 zero)) reaches_exampleCloseWait 0
      (by decide +kernel)⟩

/-- A client that has been told to connect to a name that is not resolved yet. -/
def exampleResolving : Net Unit :=
  TCPHandler.run (fun _ => exampleApp.callbacks) (.connect 0 exampleResolver)
    (exampleNet 1 2 (newNamed [97] 80 7 0 zero))

/-- A socket in CLOSE_WAIT, which is not established, sends a FIN when it is closed; and one in
RESOLVING is taken for established. -/
theorem closeWait_sendsFin :
    ExampleRun (exampleFresh 2 1 (newListener 80 11 0 zero)) exampleCloseWait ∧
      (exampleCloseWait.sockets 0).state = CLOSE_WAIT ∧
      (packetsOf ((close exampleApp.callbacks).exec (exampleCloseWait.world 0)).stack.log).drop
        (packetsOf exampleCloseWait.stack.log).length ≠ [] ∧
      ((packetsOf ((close exampleApp.callbacks).exec
          (exampleCloseWait.world 0)).stack.log).getLast?.map fun p => segControl p.2.2) =
        some (FIN ||| ACK) ∧
      ExampleRun (exampleFresh 1 2 (newNamed [97] 80 7 0 zero)) exampleResolving ∧
      (exampleResolving.sockets 0).state = RESOLVING ∧
      (exampleResolving.sockets 0).readyToSend = true ∧
      (exampleResolving.sockets 0).getState = ESTABLISHED ∧
      ((close exampleApp.callbacks).exec (exampleResolving.world 0)).self.state = FIN_WAIT_1 := by
  refine ⟨reaches_exampleCloseWait, by decide +kernel, by decide +kernel, by decide +kernel, ?_,
    by decide +kernel, by decide +kernel, by decide +kernel, by decide +kernel⟩
  exact (reaches_exampleNet 1 2 _).step (e := .connect _ _) trivial

end Socket

end AtmegaNet
