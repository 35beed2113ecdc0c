import AtmegaNet.NotEstablished
import AtmegaNet.Refinement

/-!
# The peer closes

What becomes of a FIN in order. The file comment of `Socket.cpp` cites the state diagram of
RFC 793, by which a FIN leads from ESTABLISHED to CLOSE_WAIT, from FIN_WAIT_1 to CLOSING or
TIME_WAIT and from FIN_WAIT_2 to TIME_WAIT. `finState` has all of these transitions, but
`handleValid` calls it in ESTABLISHED only.

## Main results

* `sendACK_reaches`: when an ACK leaves the host.
* `handleSegment_fin`: where a FIN in order goes in the cascade.
* `handleSegment_fin_iff`: a FIN is processed as the diagram demands if and only if the socket
  is in ESTABLISHED, the segment has no RST, and the host can send the ACK.
-/

open Procedure Runs

namespace AtmegaNet

namespace Socket

variable {α : Type}

/-! ### When an ACK leaves the host -/

/-- A segment without option and payload reaches the link: there is a route to the peer, and
room for a header. -/
def Reachable (w : World α) : Prop :=
  (IPHandler.getMACForIP w.self.remoteIP w.stack).isSome ∧ 20 ≤ w.stack.room

/-- Between two worlds the socket has sent an ACK with its number as it now is. -/
def Acknowledges (w w' : World α) : Prop :=
  ∃ l, w'.stack.log = w.stack.log ++ l ∧ ∃ p ∈ segmentsOf l,
    IsSegment w'.self 0 ⟨ACK, w'.self.localSeq, w'.self.remoteSeq, []⟩ p

theorem IsSegment.of_not_fin {s : Socket} {leftover leftover' : UInt8} {o : Sending}
    {p : IPAddr × UInt8 × Bytes} (h : IsSegment s leftover o p) (hfin : ¬ has o.control FIN) :
    IsSegment s leftover' o p :=
  { h with fin := fun h' => absurd h' hfin }

/-- `sendACK` puts one segment on the link if it can, and none otherwise. -/
theorem sendACK_reaches (a : App α) {w : World α} (htcp : w.self.tcp.isSome) :
    ∃ l, (sendACK a.callbacks w).stack.log = w.stack.log ++ l ∧
      (Reachable w → ∃ p, segmentsOf l = [p] ∧
        IsSegment w.self 0 ⟨ACK, w.self.localSeq, w.self.remoteSeq, []⟩ p) ∧
      (¬ Reachable w → segmentsOf l = []) := by
  have hopt : (optionBytes ACK w.stack).length = 0 := rfl
  by_cases hroom : 20 ≤ w.stack.room
  · have hfit : (0 : UInt16).toNat + 20 + (optionBytes ACK w.stack).length ≤ w.stack.room := by
      rw [hopt]
      exact hroom
    obtain ⟨l, hlog, -, hpackets⟩ :=
      (sendSegment_transmitted a.callbacks ACK 0 0 0 htcp hfit).2.log
    have hseg : segmentsOf l = packetsOf l := packetsOf_segments (by
      rw [hpackets]
      split
      · exact .inr ⟨_, _, rfl⟩
      · exact .inl rfl)
    rw [hpackets] at hseg
    refine ⟨l, hlog, fun hreach => ?_, fun hreach => ?_⟩
    · rw [if_pos hreach.1] at hseg
      have hpacket := @isSegment_packetOf _ a.callbacks ACK 0 0 0 w (by decide) (.inl rfl) hfit
        (checksumOf a.callbacks ACK 0 0 0 w)
      exact ⟨_, hseg, hpacket.of_not_fin (by decide : ¬ has ACK FIN)⟩
    · rwa [if_neg fun hroute => hreach ⟨hroute, hroom⟩] at hseg
  · have hshort := (sendSegment_short a.callbacks ACK 0 0 w htcp (by rw [hopt]; omega)).2
    refine ⟨[], ?_, fun hreach => absurd hreach.2 hroom, fun _ => rfl⟩
    rw [sendACK, Proc.exec, hshort.rest, List.append_nil]

/-- Events after the ACK do not count. -/
theorem acknowledges_iff (a : App α) {w w₁ w' : World α} (htcp : w₁.self.tcp.isSome)
    (hlog : w₁.stack.log = w.stack.log) (htells : Tells (sendACK a.callbacks w₁) none w')
    (haddr : w'.self.address = w₁.self.address) (hl : w'.self.localSeq = w₁.self.localSeq)
    (hr : w'.self.remoteSeq = w₁.self.remoteSeq) : Acknowledges w w' ↔ Reachable w₁ := by
  obtain ⟨l, hsent, hreach, hunreach⟩ := sendACK_reaches a htcp
  obtain ⟨l', port, hstack, hpackets, -⟩ := htells.log
  have hafter : w'.stack.log = w.stack.log ++ (l ++ l') := by
    rw [hstack, hsent, hlog, List.append_assoc]
  have hseg : segmentsOf (l ++ l') = segmentsOf l := by
    rw [segmentsOf_append, Tells.segmentsOf_eq_nil hpackets, List.append_nil]
  constructor
  · rintro ⟨l₂, hlog₂, p, hp, -⟩
    obtain rfl : l₂ = l ++ l' := List.append_cancel_left (hlog₂.symm.trans hafter)
    by_contra hnot
    rw [hseg, hunreach hnot] at hp
    exact absurd hp List.not_mem_nil
  · intro h
    obtain ⟨p, hp, hsegment⟩ := hreach h
    refine ⟨l ++ l', hafter, p, by rw [hseg, hp]; exact List.mem_singleton_self p, ?_⟩
    rw [hl, hr]
    exact hsegment.congr haddr

/-! ### The FIN -/

/-- Where the diagram leads to with a FIN that has the number `ack`. -/
def finTarget (ack : UInt32) (s : Socket) : UInt8 :=
  if s.state = FIN_WAIT_1 then if ack = s.localSeq then TIME_WAIT else CLOSING
  else if s.state = FIN_WAIT_2 then TIME_WAIT
  else CLOSE_WAIT

/-- A FIN is processed: the socket follows the diagram, counts the FIN and acknowledges it. -/
structure FinProcessed (ack : UInt32) (w w' : World α) : Prop where
  state : w'.self.state = finTarget ack w.self
  remoteSeq : w'.self.remoteSeq = w.self.remoteSeq + 1
  acknowledged : Acknowledges w w'

/-- The states in which a FIN is waited for. -/
def awaitingFin : List UInt8 :=
  [ESTABLISHED, ESTABLISHED ||| AWAITING_ACK, FIN_WAIT_1, FIN_WAIT_2]

variable (a : App α) {w : World α} {buf : Bytes}

/-- Where a FIN in order goes in the cascade. -/
theorem handleValid_fin (cb : Callbacks α) (hstate : w.self.state ∈ awaitingFin)
    (hack : has (segControl buf) ACK) (hseq : segSeq buf = w.self.remoteSeq)
    (hle : segAck buf ≤ w.self.localSeq) :
    handleValid cb buf (segControl buf) (segAck buf) (segSeq buf) w =
      if has (segControl buf) RST then fire cb (.onReset true) (closed cb w)
      else if w.self.state &&& 0x0F = ESTABLISHED then
        handleEstablished cb buf (segControl buf) (segAck buf) (segSeq buf) w
      else if segAck buf = w.self.localSeq then handleAck cb w
      else forceClose cb w := by
  have hall : ∀ s ∈ awaitingFin, s ∈ connectionStates ∧ s ≠ CLOSED ∧ s ≠ LISTEN ∧
      s ≠ SYN_SENT ∧ s ≠ SYN_RECEIVED := by decide
  obtain ⟨hconn, hclosed, hlisten, hsent, hreceived⟩ := hall _ hstate
  have hahead : ¬ segAck buf > w.self.localSeq := UInt32.not_lt.mpr hle
  have hgap : ¬ segSeq buf > w.self.remoteSeq := hseq ▸ UInt32.lt_irrefl _
  by_cases hrst : has (segControl buf) RST
  · rw [if_pos hrst]
    unfold handleValid
    rw [if_neg fun h => hclosed h.1, if_neg fun h => hlisten h.1, if_neg fun h => hahead h.2.2,
      if_neg fun h => hahead h.2.2, if_neg fun h => hgap h.2, if_pos hrst]
    unfold handleReset
    rw [if_neg fun h => hsent h.1, if_pos hseq.symm, if_neg hlisten, if_neg hreceived]
  · rw [if_neg hrst, handleValid_connection hconn hrst, if_neg fun h => hahead h.2.2,
      if_neg fun h => hgap h.2]
    exact if_congr Iff.rfl rfl (if_congr (and_iff_right hack) rfl rfl)

/-- A FIN without payload in ESTABLISHED: after the ACK there are only events. -/
theorem handleEstablished_fin {localIP remoteIP : IPAddr} (hsum : checksumOk buf localIP remoteIP)
    (hopen : w.self.state &&& 0x0F = ESTABLISHED) (hpayload : segPayloadSize buf = 0)
    (hfin : has (segControl buf) FIN) (hack : has (segControl buf) ACK)
    (hseq : segSeq buf = w.self.remoteSeq) :
    let w₁ := w.setSelf { w.self with remoteSeq := w.self.remoteSeq + 1 }
    let w' := handleEstablished a.callbacks buf (segControl buf) (segAck buf) (segSeq buf) w
    Tells (sendACK a.callbacks w₁) none w' ∧ ∃ stateTime,
      w'.self = { w₁.self with state := CLOSE_WAIT, stateTime := stateTime } := by
  intro w₁ w'
  have hself : (sendACK a.callbacks w₁).self = w₁.self :=
    sendSegment_self a.callbacks 0 0 w₁ (by decide) (by decide)
  obtain ⟨htells, hfinished⟩ := finState_tells a (w := sendACK a.callbacks w₁) (segAck buf)
    (by rw [hself]; exact hopen)
  have hinOrder : handleInOrder a.callbacks buf (segControl buf) (segAck buf) (segSeq buf)
      (segWords buf) w = fire a.callbacks .onRemoteClosed
        (finState a.callbacks (segAck buf) (sendACK a.callbacks w₁)) := by
    have hsize : (viewOf buf).size - (segWords buf).toUInt16 * 4 = 0 := hpayload
    unfold handleInOrder
    rw [hsize]
    exact if_pos hfin
  have hw' : w' = if segAck buf = w.self.localSeq ∧ has w.self.state AWAITING_ACK then
      clearAwaiting a.callbacks (fire a.callbacks .onRemoteClosed
        (finState a.callbacks (segAck buf) (sendACK a.callbacks w₁)))
      else fire a.callbacks .onRemoteClosed
        (finState a.callbacks (segAck buf) (sendACK a.callbacks w₁)) := by
    show handleEstablished _ _ _ _ _ _ = _
    unfold handleEstablished
    rw [if_neg (by simp [hack])]
    dsimp only
    rw [if_neg (not_not.mpr hseq), read_segWords hsum]
    dsimp only
    rw [hinOrder]
  rw [hself] at hfinished
  rw [hw']
  split
  · -- the end of AWAITING_ACK leaves CLOSE_WAIT as it is
    refine ⟨htells.trans ((Tells.setSelf _ _).trans (Tells.fire a _ _)),
      (sendACK a.callbacks w₁).stack.millis, ?_⟩
    rw [clearAwaiting, self_fire]
    show ({ (fire _ _ _).self with state := (fire _ _ _).self.state &&& 0x0F } : Socket) = _
    rw [hfinished]
    exact congrArg (fun state => { w₁.self with
      state := state, stateTime := (sendACK a.callbacks w₁).stack.millis })
      (by decide : CLOSE_WAIT &&& 0x0F = CLOSE_WAIT)
  · exact ⟨htells, _, hfinished⟩

/-- Outside ESTABLISHED, or with a RST, the diagram is not followed. -/
theorem handleValid_fin_state (hstate : w.self.state ∈ awaitingFin)
    (hack : has (segControl buf) ACK) (hseq : segSeq buf = w.self.remoteSeq)
    (hle : segAck buf ≤ w.self.localSeq) (htcp : w.self.tcp.isSome)
    (h : ¬ (w.self.state &&& 0x0F = ESTABLISHED ∧ ¬ has (segControl buf) RST)) :
    (handleValid a.callbacks buf (segControl buf) (segAck buf) (segSeq buf) w).self.state ≠
      finTarget (segAck buf) w.self := by
  have htarget : finTarget (segAck buf) w.self ∈ [TIME_WAIT, CLOSING, CLOSE_WAIT] := by
    unfold finTarget
    split_ifs <;> decide
  have hdown : w.self.down ≠ finTarget (segAck buf) w.self := by
    have hall : ∀ s ∈ [TIME_WAIT, CLOSING, CLOSE_WAIT], CLOSED ≠ s ∧ LISTEN ≠ s := by decide
    rcases w.self.down_eq with hd | hd <;> rw [hd]
    · exact (hall _ htarget).1
    · exact (hall _ htarget).2
  rw [handleValid_fin a.callbacks hstate hack hseq hle]
  split_ifs with hrst hopen hacked
  · rw [self_fire, self_closed]
    exact hdown
  · exact absurd ⟨hopen, hrst⟩ h
  · have hcases : ∀ s ∈ awaitingFin, s &&& 0x0F ≠ ESTABLISHED → s = FIN_WAIT_1 ∨ s = FIN_WAIT_2 := by
      decide
    rcases hcases _ hstate hopen with hs | hs
    · rw [handleAck, if_neg (by rw [hs]; decide), if_pos hs, self_setState, finTarget, if_pos hs,
        if_pos hacked]
      exact (by decide : FIN_WAIT_2 ≠ TIME_WAIT)
    · rw [handleAck, if_neg (by rw [hs]; decide), if_neg (by rw [hs]; decide),
        if_neg (by rw [hs]; decide), if_neg (by rw [hs]; decide), finTarget,
        if_neg (by rw [hs]; decide), if_pos hs, hs]
      exact (by decide : FIN_WAIT_2 ≠ TIME_WAIT)
  · rw [(forceClose_emits a htcp).2]
    exact hdown

/-- A FIN in order without payload is processed as the diagram demands if and only if the
socket is in ESTABLISHED, whether awaiting an ACK or not, the segment has no RST, and the host
has a route to the peer and room for the ACK. -/
theorem handleSegment_fin_iff (htcp : w.self.tcp.isSome) (hstate : w.self.state ∈ awaitingFin)
    (sourceIP : IPAddr) (hsum : checksumOk buf w.stack.ip.ipAddress w.self.remoteIP)
    (hpayload : segPayloadSize buf = 0) (hfin : has (segControl buf) FIN)
    (hack : has (segControl buf) ACK) (hseq : segSeq buf = w.self.remoteSeq)
    (hle : segAck buf ≤ w.self.localSeq) :
    FinProcessed (segAck buf) w (handleSegment a.callbacks sourceIP buf w) ↔
      w.self.state &&& 0x0F = ESTABLISHED ∧ ¬ has (segControl buf) RST ∧ Reachable w := by
  have hlisten : w.self.state ≠ LISTEN := by
    intro h
    rw [h] at hstate
    exact absurd hstate (by decide)
  have hip : (arrive sourceIP buf w).self.remoteIP = w.self.remoteIP := if_neg fun h => hlisten h.1
  rw [handleSegment_valid a.callbacks htcp (by rw [hip]; exact hsum)]
  obtain ⟨hs, hl, hr, htcp₁, hstack⟩ : (arrive sourceIP buf w).self.state = w.self.state ∧
      (arrive sourceIP buf w).self.localSeq = w.self.localSeq ∧
      (arrive sourceIP buf w).self.remoteSeq = w.self.remoteSeq ∧
      (arrive sourceIP buf w).self.tcp = w.self.tcp ∧
      (arrive sourceIP buf w).stack = w.stack := ⟨rfl, rfl, rfl, rfl, rfl⟩
  generalize arrive sourceIP buf w = w₁ at hip hs hl hr htcp₁ hstack ⊢
  rw [← hs] at hstate
  rw [← hl] at hle
  rw [← hr] at hseq
  rw [← htcp₁] at htcp
  have htarget : finTarget (segAck buf) w.self = finTarget (segAck buf) w₁.self := by
    rw [finTarget, finTarget, hs, hl]
  rw [← hs]
  by_cases hcond : w₁.self.state &&& 0x0F = ESTABLISHED ∧ ¬ has (segControl buf) RST
  · obtain ⟨hopen, hrst⟩ := hcond
    rw [handleValid_fin a.callbacks hstate hack hseq hle, if_neg hrst, if_pos hopen]
    obtain ⟨htells, stateTime, hself⟩ :=
      handleEstablished_fin a hsum hopen hpayload hfin hack hseq
    have hcounted : (w₁.setSelf { w₁.self with
        remoteSeq := w₁.self.remoteSeq + 1 }).self.tcp.isSome := htcp
    have hacked := acknowledges_iff a (w := w) hcounted (congrArg Stack.log hstack) htells
      (by rw [hself]; rfl) (by rw [hself]) (by rw [hself])
    have hreach : Reachable (w₁.setSelf { w₁.self with remoteSeq := w₁.self.remoteSeq + 1 }) ↔
        Reachable w := by
      show (IPHandler.getMACForIP w₁.self.remoteIP w₁.stack).isSome ∧ 20 ≤ w₁.stack.room ↔ _
      rw [hip, hstack]
      rfl
    rw [hreach] at hacked
    have hclosing : finTarget (segAck buf) w₁.self = CLOSE_WAIT := by
      have hne : ∀ s : UInt8, s &&& 0x0F ≠ ESTABLISHED → w₁.self.state ≠ s := by
        rintro s hs rfl
        exact hs hopen
      rw [finTarget, if_neg (hne _ (by decide)), if_neg (hne _ (by decide))]
    constructor
    · exact fun h => ⟨hopen, hrst, hacked.mp h.acknowledged⟩
    · rintro ⟨-, -, h⟩
      refine ⟨(congrArg Socket.state hself).trans (hclosing.symm.trans htarget.symm), ?_,
        hacked.mpr h⟩
      rw [hself, ← hr]
      rfl
  · refine iff_of_false (fun h => ?_) fun h => hcond ⟨h.1, h.2.1⟩
    exact handleValid_fin_state a hstate hack hseq hle htcp hcond (h.state.trans htarget)

/-- The client closes first. -/
theorem handleSegment_fin_iff_established :
    FinProcessed (segAck exampleFin) exampleServer
      (handleSegment exampleApp ⟨10, 0, 0, 1⟩ exampleFin exampleServer) :=
  (handleSegment_fin_iff exampleApp (by decide +kernel) (by decide +kernel) ⟨10, 0, 0, 1⟩
    (by decide +kernel) (by decide +kernel) (by decide +kernel) (by decide +kernel)
    (by decide +kernel) (by decide +kernel)).mpr
      ⟨by decide +kernel, by decide +kernel, by decide +kernel, by decide +kernel⟩

/-- The FIN of a client that has received the server's. -/
def exampleLastFin : Bytes :=
  [192, 0, 0, 80, 0, 0, 0, 8, 0, 0, 0, 13, 80, 17, 0, 42, 219, 65, 0, 0]

/-- The server after a handshake and a call of `close`. -/
def exampleFinWait : Net Unit :=
  TCPHandler.run (fun _ => exampleApp.callbacks) (.close 0)
    (TCPHandler.run (fun _ => exampleApp.callbacks) (.packet ⟨10, 0, 0, 1⟩ exampleAck)
      (TCPHandler.run (fun _ => exampleApp.callbacks) (.packet ⟨10, 0, 0, 1⟩ exampleSyn)
        exampleListener))

/-- The server closes first, and the client's FIN, which acknowledges the server's, is taken for
an ACK only: the socket goes to FIN_WAIT_2 and sends nothing. -/
theorem fin_finWait_lost :
    ExampleRun (exampleFresh 2 1 (newListener 80 11 0 zero)) exampleFinWait ∧
      let w := exampleFinWait.world 0
      w.self.state = FIN_WAIT_1 ∧
      checksumOk exampleLastFin w.stack.ip.ipAddress w.self.remoteIP ∧
      segPayloadSize exampleLastFin = 0 ∧ segControl exampleLastFin = FIN ||| ACK ∧
      segSeq exampleLastFin = w.self.remoteSeq ∧ segAck exampleLastFin = w.self.localSeq ∧
      (handleSegment exampleApp ⟨10, 0, 0, 1⟩ exampleLastFin w).self.state = FIN_WAIT_2 ∧
      (handleSegment exampleApp ⟨10, 0, 0, 1⟩ exampleLastFin w).self.remoteSeq =
        w.self.remoteSeq ∧
      ¬ FinProcessed (segAck exampleLastFin) w
        (handleSegment exampleApp ⟨10, 0, 0, 1⟩ exampleLastFin w) := by
  have hlost : (handleSegment exampleApp ⟨10, 0, 0, 1⟩ exampleLastFin
      (exampleFinWait.world 0)).self.remoteSeq = (exampleFinWait.world 0).self.remoteSeq := by
    decide +kernel
  refine ⟨?_, by decide +kernel, by decide +kernel, by decide +kernel, by decide +kernel,
    by decide +kernel, by decide +kernel, by decide +kernel, hlost, fun h => ?_⟩
  · exact (((reaches_exampleNet 2 1 _).step (e := .packet _ _) trivial).step
      (e := .packet _ _) trivial).step (e := .close _) trivial
  · exact absurd (hlost.symm.trans h.remoteSeq) (by decide +kernel)

end Socket

end AtmegaNet
