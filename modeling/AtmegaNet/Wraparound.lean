import Mathlib.Data.List.Forall2
import AtmegaNet.Redelivery

/-!
# Sequence numbers near the wrap

Peers choose their first sequence numbers at random, so what a socket does must not depend on
them: the same connection with other numbers should do the same with the same segments. Nearly
everything `handleSegment` does with sequence numbers is to add to them and to test them for
equality; case 3 alone compares them, and as plain numbers.

## Main results

* `Alike`: two runs that differ in their sequence numbers only.
* `alike_handleValid`: a segment that case 3 treats alike in both is treated alike.
* `handleSegment_shift_iff`: and these are all, but for segments that draw no more than an ACK
  anyway.
-/

open Procedure

namespace AtmegaNet

/-- What a socket has told its application: the events, and the payloads with the answers. -/
def callsOf (log : List Obs) : List Obs :=
  log.filter fun o => match o with
    | .event _ _ => true
    | .received _ _ _ => true
    | _ => false

/-- The calls of two logs are those of each. -/
@[simp] theorem callsOf_append (l l' : List Obs) : callsOf (l ++ l') = callsOf l ++ callsOf l' :=
  List.filter_append l l'

/-- Outputs are no calls. -/
theorem callsOf_output {l : List Obs} (h : ∀ o ∈ l, o.isOutput) : callsOf l = [] := by
  refine List.filter_eq_nil_iff.mpr fun o ho => ?_
  have ho := h o ho
  cases o with
  | event _ _ => exact absurd ho (by simp [Obs.isOutput])
  | received _ _ _ => exact absurd ho (by simp [Obs.isOutput])
  | _ => simp

namespace Socket

variable {α : Type} {c d : UInt32}

/-! ### Other numbers -/

/-- Two segments are the same but for their numbers, and so for their checksums. -/
structure Shifted (c d : UInt32) (buf buf' : Bytes) : Prop where
  sourcePort : (viewOf buf').readNet16 0 = (viewOf buf).readNet16 0
  destPort : (viewOf buf').readNet16 2 = (viewOf buf).readNet16 2
  seq : segSeq buf' = segSeq buf + c
  ack : segAck buf' = segAck buf + d
  words : segWords buf' = segWords buf
  control : segControl buf' = segControl buf
  window : segWindow buf' = segWindow buf
  payloadSize : segPayloadSize buf' = segPayloadSize buf
  payload : segPayload buf' = segPayload buf

/-- The socket with `c` added to the numbers of the peer and `d` to its own. -/
def shift (c d : UInt32) (s : Socket) : Socket :=
  { s with localSeq := s.localSeq + d, remoteSeq := s.remoteSeq + c }

end Socket

/-- A host whose socket has other numbers. -/
def World.shift {α : Type} (c d : UInt32) (w : World α) : World α :=
  w.setSelf (w.self.shift c d)

namespace Socket

variable {α : Type} {c d : UInt32}

/-- Two packets are the same segment to the same peer but for their numbers. -/
def ShiftedPacket (c d : UInt32) (p p' : IPAddr × UInt8 × Bytes) : Prop :=
  p'.1 = p.1 ∧ p'.2.1 = p.2.1 ∧ Shifted c d p.2.2 p'.2.2

/-- Two stretches of a log tell the application the same, and send the same segments but for
their numbers. The socket's own number is the sequence number of what it sends. -/
structure SameLog (c d : UInt32) (l l' : List Obs) : Prop where
  calls : callsOf l' = callsOf l
  segments : List.Forall₂ (ShiftedPacket d c) (segmentsOf l) (segmentsOf l')

/-- From `w`, and from `w` with other numbers, a socket has done the same. -/
structure Agree (c d : UInt32) (w r r' : World α) : Prop where
  state : r'.self.state = r.self.state
  localSeq : r'.self.localSeq = r.self.localSeq + d
  remoteSeq : r'.self.remoteSeq = r.self.remoteSeq + c
  log : ∃ l l', r.stack.log = w.stack.log ++ l ∧ r'.stack.log = w.stack.log ++ l' ∧
    SameLog c d l l'

/-- Two runs that have done the same and will, as long as no more segments are sent. -/
structure Alike (c d : UInt32) (w r r' : World α) : Prop where
  this : r'.this = r.this
  self : r'.self = r.self.shift c d
  app : r'.app = r.app
  millis : r'.stack.millis = r.stack.millis
  log : ∃ l l', r.stack.log = w.stack.log ++ l ∧ r'.stack.log = w.stack.log ++ l' ∧
    SameLog c d l l'

namespace SameLog

variable {l l' k k' : List Obs}

/-- Logs that agree piece by piece agree. -/
theorem append (h : SameLog c d l l') (h' : SameLog c d k k') : SameLog c d (l ++ k) (l' ++ k') := by
  refine ⟨?_, ?_⟩
  · rw [callsOf_append, callsOf_append, h.calls, h'.calls]
  · rw [segmentsOf_append, segmentsOf_append]
    exact List.rel_append h.segments h'.segments

/-- Without segments. -/
theorem of_calls (l : List Obs) (h : segmentsOf l = []) : SameLog c d l l :=
  ⟨rfl, by rw [h]; exact .nil⟩

end SameLog

namespace Alike

variable {w r r' : World α} (a : App α)

/-- Worlds that are alike agree. -/
theorem agree (h : Alike c d w r r') : Agree c d w r r' :=
  ⟨by rw [h.self]; rfl, by rw [h.self]; rfl, by rw [h.self]; rfl, h.log⟩

/-- The two runs have not sent anything yet. -/
theorem of_shift {l : List Obs} (hlog : r.stack.log = w.stack.log ++ l) (hl : segmentsOf l = []) :
    Alike c d w r (r.shift c d) :=
  ⟨rfl, rfl, rfl, rfl, l, l, hlog, hlog, .of_calls l hl⟩

/-- A world and its shift are alike. -/
theorem refl (w : World α) : Alike c d w w (w.shift c d) := of_shift (List.append_nil _).symm rfl

/-- Both sockets change in the same way. -/
theorem setSelf (h : Alike c d w r r') {s s' : Socket} (hs : s' = s.shift c d) :
    Alike c d w (r.setSelf s) (r'.setSelf s') :=
  ⟨h.this, hs, h.app, h.millis, h.log⟩

/-- Both applications are told of an event. -/
theorem fire (h : Alike c d w r r') (e : Event) :
    Alike c d w (fire a.callbacks e r) (fire a.callbacks e r') := by
  obtain ⟨l, l', hl, hl', hsame⟩ := h.log
  refine ⟨h.this, h.self, congrArg (a.on e) h.app, h.millis, l ++ [.event r.this e],
    l' ++ [.event r'.this e], ?_, ?_, ?_⟩
  · rw [← List.append_assoc, ← hl]
    rfl
  · rw [← List.append_assoc, ← hl']
    rfl
  · rw [h.this]
    exact hsame.append (.of_calls _ rfl)

/-- The events of a state leave the worlds alike. -/
theorem announce (h : Alike c d w r r') (priorState state : UInt8) :
    Alike c d w (announce a.callbacks priorState state r)
      (announce a.callbacks priorState state r') := by
  unfold Socket.announce
  dsimp only
  split_ifs
  · exact ((h.fire a _).fire a _).fire a _
  · exact (h.fire a _).fire a _
  · exact h.fire a _
  · exact h

/-- Entering a state leaves the worlds alike. -/
theorem setState (h : Alike c d w r r') (state : UInt8) :
    Alike c d w (setState a.callbacks state r) (setState a.callbacks state r') := by
  unfold Socket.setState
  have hstate : r'.self.state = r.self.state := by rw [h.self]; rfl
  rw [hstate]
  refine Alike.announce a (h.setSelf ?_) _ _
  rw [h.self, h.millis]
  rfl

/-- Closing the socket leaves the worlds alike. -/
theorem closed (h : Alike c d w r r') :
    Alike c d w (closed a.callbacks r) (closed a.callbacks r') := by
  unfold Socket.closed
  have htcp : r'.self.tcp = r.self.tcp := by rw [h.self]; rfl
  have hhost : r'.self.isHost = r.self.isHost := by rw [h.self]; rfl
  rw [htcp, hhost]
  split
  · exact h.setState a _
  · exact h.setState a _

end Alike

/-! ### A segment -/

section Segments

variable (a : App α) {w r : World α} {control : UInt8} {seq ack seq' ack' : UInt32}

/-- The window of a segment is read back as it was written. -/
theorem segWindow_packetOf {cb : Callbacks α} (sum : UInt16)
    (hfit : (0 : UInt16).toNat + 20 + (optionBytes control w.stack).length < 65536) :
    segWindow (packetOf cb control 0 seq ack sum w) = getWindowSize cb w :=
  congrArg (Option.getD · 0)
    (segment_window (by rw [← packetOf, length_packetOf]; exact hfit))

/-- The same segment from a socket with other numbers. -/
theorem shifted_packetOf {cb : Callbacks α} (hc : control ∈ sentControls)
    (hfit : (0 : UInt16).toNat + 20 + (optionBytes control w.stack).length ≤ w.stack.room)
    (hfin : ¬ has control FIN) (sum sum' : UInt16)
    (hseq : seqOf control seq' (w.self.shift c d) = seqOf control seq w.self + d)
    (hack : ackOf control ack' (w.self.shift c d) = ackOf control ack w.self + c) :
    Shifted d c (packetOf cb control 0 seq ack sum w)
      (packetOf cb control 0 seq' ack' sum' (w.shift c d)) := by
  have hsegments : ∀ (w : World α) (seq ack : UInt32) (sum : UInt16),
      (0 : UInt16).toNat + 20 + (optionBytes control w.stack).length ≤ w.stack.room →
        IsSegment w.self (w.stack.mem .send 46)
          ⟨control, seqOf control seq w.self, ackOf control ack w.self,
            Region.read w.stack.mem .send 54 (0 : UInt16).toNat⟩
          (w.self.remoteIP, TCP_PROTOCOL, packetOf cb control 0 seq ack sum w) :=
    fun _ _ _ sum hfit => isSegment_packetOf hc (.inl rfl) hfit sum
  have hseg := hsegments w seq ack sum hfit
  have hseg' := hsegments (w.shift c d) seq' ack' sum' hfit
  have hlt : (0 : UInt16).toNat + 20 + (optionBytes control w.stack).length < 65536 := by
    have h16 := w.stack.sendSize.toNat_lt
    have hdef : w.stack.room = w.stack.sendSize.toNat - 34 := rfl
    omega
  refine ⟨hseg'.sourcePort.trans hseg.sourcePort.symm, hseg'.destPort.trans hseg.destPort.symm,
    ?_, ?_, ?_, hseg'.control.trans hseg.control.symm, ?_, ?_, ?_⟩
  · rw [hseg'.seq, hseg.seq]
    exact hseq
  · rw [hseg'.ack, hseg.ack]
    exact hack
  · rw [segWords_packetOf hlt, segWords_packetOf (w := w.shift c d) hlt]
    rfl
  · rw [segWindow_packetOf _ hlt, segWindow_packetOf (w := w.shift c d) _ hlt]
    rfl
  · rw [(hseg'.payload hfin).2, (hseg.payload hfin).2]
    rfl
  · rw [(hseg'.payload hfin).1, (hseg.payload hfin).1]
    rfl

/-- Two runs that send the same segment but for its numbers. -/
theorem alike_sendSegment {l : List Obs} (hlog : r.stack.log = w.stack.log ++ l)
    (hl : segmentsOf l = []) (htcp : r.self.tcp.isSome) (hc : control ∈ sentControls)
    (hsyn : ¬ has control SYN) (hfin : ¬ has control FIN)
    (hseq : seqOf control seq' (r.self.shift c d) = seqOf control seq r.self + d)
    (hack : ackOf control ack' (r.self.shift c d) = ackOf control ack r.self + c) :
    ((sendSegment a.callbacks control 0 seq ack).run r).1 =
        ((sendSegment a.callbacks control 0 seq' ack').run (r.shift c d)).1 ∧
      Alike c d w ((sendSegment a.callbacks control 0 seq ack).exec r)
        ((sendSegment a.callbacks control 0 seq' ack').exec (r.shift c d)) := by
  have hself : ((sendSegment a.callbacks control 0 seq' ack').exec (r.shift c d)).self =
      (((sendSegment a.callbacks control 0 seq ack).exec r).self.shift c d) := by
    rw [sendSegment_self _ _ _ _ hsyn hfin, sendSegment_self _ _ _ _ hsyn hfin]
    rfl
  have htcp' : (r.shift c d).self.tcp.isSome := htcp
  have hopt : (optionBytes control r.stack).length = 0 := by rw [optionBytes, if_neg hsyn]; rfl
  by_cases hroom : 20 ≤ r.stack.room
  · have hfit : (0 : UInt16).toNat + 20 + (optionBytes control r.stack).length ≤ r.stack.room := by
      rw [hopt]
      exact hroom
    have hfit' : (0 : UInt16).toNat + 20 + (optionBytes control (r.shift c d).stack).length ≤
        (r.shift c d).stack.room := hfit
    obtain ⟨hsent, ht⟩ := sendSegment_transmitted a.callbacks control 0 seq ack htcp hfit
    obtain ⟨hsent', ht'⟩ := sendSegment_transmitted a.callbacks control 0 seq' ack' htcp' hfit'
    obtain ⟨k, hk, hout, hpackets⟩ := ht.log
    obtain ⟨k', hk', hout', hpackets'⟩ := ht'.log
    have hsegments : List.Forall₂ (ShiftedPacket d c) (segmentsOf k) (segmentsOf k') := by
      rw [segmentsOf, segmentsOf, hpackets, hpackets']
      by_cases hroute : (IPHandler.getMACForIP r.self.remoteIP r.stack).isSome
      · have hroute' : (IPHandler.getMACForIP (r.shift c d).self.remoteIP
            (r.shift c d).stack).isSome := hroute
        rw [if_pos hroute, if_pos hroute']
        exact .cons ⟨rfl, rfl, shifted_packetOf hc hfit hfin _ _ hseq hack⟩ .nil
      · have hroute' : ¬ (IPHandler.getMACForIP (r.shift c d).self.remoteIP
            (r.shift c d).stack).isSome := hroute
        rw [if_neg hroute, if_neg hroute']
        exact .nil
    refine ⟨hsent.trans hsent'.symm, ht'.this.trans ht.this.symm, hself,
      ht'.app.trans ht.app.symm, ?_, l ++ k, l ++ k', ?_, ?_, ?_⟩
    · rw [Proc.exec, Proc.exec, ht'.rest, ht.rest]
      rfl
    · rw [← List.append_assoc, ← hlog]
      exact hk
    · rw [← List.append_assoc, ← hlog]
      exact hk'
    · refine (SameLog.of_calls l hl).append ⟨?_, hsegments⟩
      rw [callsOf_output hout, callsOf_output hout']
  · have hshort : r.stack.room < 20 + (optionBytes control r.stack).length := by omega
    have hshort' : (r.shift c d).stack.room <
        20 + (optionBytes control (r.shift c d).stack).length := hshort
    obtain ⟨hfail, ht⟩ := sendSegment_short a.callbacks control seq ack r htcp hshort
    obtain ⟨hfail', ht'⟩ :=
      sendSegment_short a.callbacks control seq' ack' (r.shift c d) htcp' hshort'
    refine ⟨hfail.trans hfail'.symm, ht'.this.trans ht.this.symm, hself,
      ht'.app.trans ht.app.symm, ?_, l, l, ?_, ?_, .of_calls l hl⟩
    · rw [Proc.exec, Proc.exec, ht'.rest, ht.rest]
      rfl
    · rw [Proc.exec, ht.rest]
      exact hlog
    · rw [Proc.exec, ht'.rest]
      exact hlog

/-- An ACK leaves the worlds alike. -/
theorem alike_sendACK {l : List Obs} (hlog : r.stack.log = w.stack.log ++ l)
    (hl : segmentsOf l = []) (htcp : r.self.tcp.isSome) :
    Alike c d w (sendACK a.callbacks r) (sendACK a.callbacks (r.shift c d)) :=
  (alike_sendSegment a hlog hl htcp (by decide) (by decide) (by decide) rfl rfl).2

/-- The RST of `forceClose`. -/
theorem alike_reset {l : List Obs} (hlog : r.stack.log = w.stack.log ++ l)
    (hl : segmentsOf l = []) (htcp : r.self.tcp.isSome) :
    Alike c d w ((reset a.callbacks r.self.localSeq r.self.remoteSeq).exec r)
      ((reset a.callbacks (r.self.localSeq + d) (r.self.remoteSeq + c)).exec (r.shift c d)) := by
  have hsent : ((sendSegment a.callbacks (RST ||| ACK) 0 r.self.localSeq r.self.remoteSeq).run
        r).1 = ((sendSegment a.callbacks (RST ||| ACK) 0 (r.self.localSeq + d)
          (r.self.remoteSeq + c)).run (r.shift c d)).1 ∧
      Alike c d w
        ((sendSegment a.callbacks (RST ||| ACK) 0 r.self.localSeq r.self.remoteSeq).exec r)
        ((sendSegment a.callbacks (RST ||| ACK) 0 (r.self.localSeq + d)
          (r.self.remoteSeq + c)).exec (r.shift c d)) :=
    alike_sendSegment a hlog hl htcp (by decide) (by decide) (by decide) rfl rfl
  have hremote : (r.shift c d).self.remoteSeq = r.self.remoteSeq + c := rfl
  unfold reset
  unfold Proc.exec at hsent ⊢
  rw [Proc.run_read_bind, Proc.run_read_bind, hremote, if_pos rfl, if_pos rfl]
  rcases hrun : (sendSegment a.callbacks (RST ||| ACK) 0 r.self.localSeq r.self.remoteSeq).run r
    with ⟨_ | u, r₁⟩
  · rw [hrun] at hsent
    rcases hrun' : (sendSegment a.callbacks (RST ||| ACK) 0 (r.self.localSeq + d)
      (r.self.remoteSeq + c)).run (r.shift c d) with ⟨_ | u, r₁'⟩
    · rw [hrun'] at hsent
      rw [Proc.run_bind_of_none hrun, Proc.run_bind_of_none hrun']
      exact hsent.2
    · rw [hrun'] at hsent
      exact nomatch hsent.1
  · rw [hrun] at hsent
    rcases hrun' : (sendSegment a.callbacks (RST ||| ACK) 0 (r.self.localSeq + d)
      (r.self.remoteSeq + c)).run (r.shift c d) with ⟨_ | u', r₁'⟩
    · rw [hrun'] at hsent
      exact nomatch hsent.1
    · rw [hrun'] at hsent
      rw [Proc.run_bind_of_some hrun, Proc.run_bind_of_some hrun']
      exact hsent.2.fire a _

/-- Forcing the socket closed leaves the worlds alike. -/
theorem alike_forceClose {l : List Obs} (hlog : r.stack.log = w.stack.log ++ l)
    (hl : segmentsOf l = []) (htcp : r.self.tcp.isSome) :
    Alike c d w (forceClose a.callbacks r) (forceClose a.callbacks (r.shift c d)) := by
  unfold forceClose
  dsimp only
  refine Alike.closed a ?_
  have hstate : (r.shift c d).self.state = r.self.state := rfl
  rw [hstate]
  split
  · exact alike_reset a hlog hl htcp
  · exact .of_shift hlog hl

end Segments

/-! ### The blocks of the cascade -/

section Blocks

variable (a : App α) {w r r' : World α} {ack seq : UInt32}

/-- A RST that is received leaves the worlds alike. -/
theorem Alike.handleReset (h : Alike c d w r r') :
    Alike c d w (handleReset a.callbacks ack seq r)
      (Socket.handleReset a.callbacks (ack + d) (seq + c) r') := by
  have hstate : r'.self.state = r.self.state := by rw [h.self]; rfl
  have hlocal : ack + d = r'.self.localSeq ↔ ack = r.self.localSeq := by
    rw [h.self]
    exact UInt32.add_left_inj _
  have hremote : r'.self.remoteSeq = seq + c ↔ r.self.remoteSeq = seq := by
    rw [h.self]
    exact UInt32.add_left_inj _
  unfold Socket.handleReset
  rw [hstate, if_congr (and_congr_right_iff.mpr fun _ => hlocal) rfl (if_congr hremote rfl rfl)]
  split_ifs
  · exact (h.closed a).fire a _
  · exact h
  · exact h.closed a
  · exact (h.closed a).fire a _
  · exact h

/-- An acknowledgement leaves the worlds alike. -/
theorem Alike.handleAck (h : Alike c d w r r') :
    Alike c d w (handleAck a.callbacks r) (Socket.handleAck a.callbacks r') := by
  have hstate : r'.self.state = r.self.state := by rw [h.self]; rfl
  unfold Socket.handleAck
  rw [hstate]
  split_ifs
  · exact h.setState a _
  · exact h.setState a _
  · exact h.setState a _
  · exact h.closed a
  · exact h

/-- The acknowledgement of data leaves the worlds alike. -/
theorem Alike.clearAwaiting (h : Alike c d w r r') :
    Alike c d w (clearAwaiting a.callbacks r) (Socket.clearAwaiting a.callbacks r') := by
  unfold Socket.clearAwaiting
  refine Alike.fire a (h.setSelf ?_) _
  rw [h.self]
  rfl

/-- The state behind a FIN leaves the worlds alike. -/
theorem Alike.finState (h : Alike c d w r r') :
    Alike c d w (finState a.callbacks ack r) (Socket.finState a.callbacks (ack + d) r') := by
  have hstate : r'.self.state = r.self.state := by rw [h.self]; rfl
  have hlocal : ack + d = r'.self.localSeq ↔ ack = r.self.localSeq := by
    rw [h.self]
    exact UInt32.add_left_inj _
  unfold Socket.finState
  rw [hstate, if_congr hlocal rfl rfl]
  split_ifs
  · exact h.setState a _
  · exact h.setState a _
  · exact h.setState a _
  · exact h.setState a _
  · exact h

/-- The payload is offered before anything is sent. -/
theorem countFin_shift (opt : UInt8) (r : World α) :
    countFin opt (r.shift c d) = (countFin opt r).shift c d := by
  unfold countFin
  split
  · have hcount : r.self.remoteSeq + c + 1 = r.self.remoteSeq + 1 + c := by
      rw [UInt32.add_assoc, UInt32.add_comm c 1, ← UInt32.add_assoc]
    exact congrArg (fun n => r.setSelf { r.self with
      localSeq := r.self.localSeq + d, remoteSeq := n }) hcount
  · rfl

/-- Offering a payload does not look at the numbers. -/
theorem offerPayload_shift (payloadSize : UInt16) (payload : Bytes) (r : World α) :
    offerPayload a.callbacks (seq + c) payloadSize payload (r.shift c d) =
      (offerPayload a.callbacks seq payloadSize payload r).shift c d := by
  have hcount : seq + c + payloadSize.toUInt32 = seq + payloadSize.toUInt32 + c := by
    rw [UInt32.add_assoc, UInt32.add_comm c, ← UInt32.add_assoc]
  have hoffer : a.callbacks.onDataReceived payload (r.shift c d) =
      ((a.callbacks.onDataReceived payload r).1,
        (a.callbacks.onDataReceived payload r).2.shift c d) := rfl
  unfold offerPayload
  rw [hcount, hoffer]
  dsimp only
  split_ifs
  · rfl
  · rfl
  · rfl

/-- A payload leaves the worlds alike. -/
theorem alike_handlePayload (htcp : w.self.tcp.isSome) (opt : UInt8) (payloadSize : UInt16)
    (payload : Bytes) :
    Alike c d w (handlePayload a.callbacks opt seq payloadSize payload w)
      (handlePayload a.callbacks opt (seq + c) payloadSize payload (w.shift c d)) := by
  obtain ⟨ht₂, hk₂, -⟩ :=
    keeps_countFin opt (w.setSelf { w.self with recvBuffer := some payload })
  have hset : (w.shift c d).setSelf { (w.shift c d).self with recvBuffer := some payload } =
      (w.setSelf { w.self with recvBuffer := some payload }).shift c d := rfl
  unfold handlePayload
  rw [hset, countFin_shift, offerPayload_shift]
  generalize countFin opt (w.setSelf { w.self with recvBuffer := some payload }) = w₂ at *
  obtain ⟨ht₃, hk₃, -⟩ := offerPayload_tells a seq payloadSize payload w₂
  obtain ⟨l₂, port₂, hl₂, hp₂, -⟩ := ht₂.log
  obtain ⟨l₃, port₃, hl₃, hp₃, -⟩ := ht₃.log
  refine alike_sendACK a (l := l₂ ++ l₃) ?_ ?_ ?_
  · rw [hl₃, hl₂, ← List.append_assoc]
    rfl
  · rw [segmentsOf_append, Tells.segmentsOf_eq_nil hp₂, Tells.segmentsOf_eq_nil hp₃]
    rfl
  · rw [hk₃.identity.tcp, hk₂.identity.tcp]
    exact htcp

/-- A FIN whose ACK has been sent. -/
theorem Alike.handleFin (h : Alike c d w r r') {payloadSize : UInt16} (hsize : payloadSize ≠ 0) :
    Alike c d w (handleFin a.callbacks ack payloadSize r)
      (Socket.handleFin a.callbacks (ack + d) payloadSize r') := by
  unfold Socket.handleFin acknowledgeFin
  rw [if_neg hsize, if_neg hsize]
  exact (h.finState a).fire a _

/-- A FIN leaves the worlds alike. -/
theorem alike_handleFin (htcp : w.self.tcp.isSome) :
    Alike c d w (handleFin a.callbacks ack 0 w)
      (handleFin a.callbacks (ack + d) 0 (w.shift c d)) := by
  have hcount : (w.shift c d).self.remoteSeq + 1 = w.self.remoteSeq + 1 + c := by
    rw [UInt32.add_assoc, UInt32.add_comm 1 c, ← UInt32.add_assoc]
    rfl
  have hset : (w.shift c d).setSelf
        { (w.shift c d).self with remoteSeq := (w.shift c d).self.remoteSeq + 1 } =
      (w.setSelf { w.self with remoteSeq := w.self.remoteSeq + 1 }).shift c d := by
    rw [hcount]
    rfl
  have hsent : Alike c d w
      (sendACK a.callbacks (w.setSelf { w.self with remoteSeq := w.self.remoteSeq + 1 }))
      (sendACK a.callbacks
        ((w.setSelf { w.self with remoteSeq := w.self.remoteSeq + 1 }).shift c d)) :=
    alike_sendACK a (l := []) (List.append_nil _).symm rfl htcp
  unfold handleFin acknowledgeFin
  rw [if_pos rfl, if_pos rfl, hset]
  exact (hsent.finState a).fire a _

/-- A segment in order leaves the worlds alike. -/
theorem alike_handleInOrder {buf buf' : Bytes} (hshift : Shifted c d buf buf')
    (htcp : w.self.tcp.isSome) (opt : UInt8) :
    Alike c d w (handleInOrder a.callbacks buf opt ack seq (segWords buf) w)
      (handleInOrder a.callbacks buf' opt (ack + d) (seq + c) (segWords buf')
        (w.shift c d)) := by
  have hsize : (viewOf buf').size - (segWords buf').toUInt16 * 4 = segPayloadSize buf :=
    hshift.payloadSize
  have hpayload : buf'.drop ((segWords buf').toNat * 4) = segPayload buf := hshift.payload
  have hbuf : (viewOf buf).size - (segWords buf).toUInt16 * 4 = segPayloadSize buf := rfl
  have hbuf' : buf.drop ((segWords buf).toNat * 4) = segPayload buf := rfl
  unfold handleInOrder
  dsimp only
  rw [hsize, hpayload, hbuf, hbuf']
  by_cases hpos : segPayloadSize buf > 0
  · rw [if_pos hpos, if_pos hpos]
    have hsent : Alike c d w
        (handlePayload a.callbacks opt seq (segPayloadSize buf) (segPayload buf) w)
        (handlePayload a.callbacks opt (seq + c) (segPayloadSize buf) (segPayload buf)
          (w.shift c d)) :=
      alike_handlePayload a htcp opt _ _
    split_ifs
    · refine hsent.handleFin a fun hzero => ?_
      rw [hzero] at hpos
      exact absurd hpos (by decide)
    · exact hsent
  · have hzero : segPayloadSize buf = 0 := by
      rw [gt_iff_lt, UInt16.lt_iff_toNat_lt] at hpos
      rw [← UInt16.toNat_inj]
      exact Nat.eq_zero_of_not_pos hpos
    rw [if_neg hpos, if_neg hpos, hzero]
    split_ifs
    · exact alike_handleFin a htcp
    · exact .refl w

/-- A segment on an established connection leaves the worlds alike. -/
theorem alike_handleEstablished {buf buf' : Bytes} (hshift : Shifted c d buf buf')
    (hwords : headerWords (viewOf buf) = some (segWords buf))
    (hwords' : headerWords (viewOf buf') = some (segWords buf'))
    (htcp : w.self.tcp.isSome) (opt : UInt8) :
    Alike c d w (handleEstablished a.callbacks buf opt ack seq w)
      (handleEstablished a.callbacks buf' opt (ack + d) (seq + c) (w.shift c d)) := by
  have hack : ack + d = (w.shift c d).self.localSeq ↔ ack = w.self.localSeq :=
    UInt32.add_left_inj _
  have hseq : seq + c ≠ (w.shift c d).self.remoteSeq ↔ seq ≠ w.self.remoteSeq :=
    not_congr (UInt32.add_left_inj _)
  have hstate : (w.shift c d).self.state = w.self.state := rfl
  unfold handleEstablished
  rw [hwords, hwords', hstate]
  dsimp only
  rw [if_congr hseq rfl rfl, if_congr (and_congr_left fun _ => hack) rfl rfl]
  split_ifs
  · exact .refl w
  · exact alike_sendACK a (l := []) (List.append_nil _).symm rfl htcp
  · exact (alike_handleInOrder a hshift htcp opt).clearAwaiting a
  · exact alike_handleInOrder a hshift htcp opt

/-- The cascade in the states of a connection. -/
theorem handleValid_cascade {buf : Bytes} (hs : w.self.state ∈ connectionStates) :
    handleValid a.callbacks buf (segControl buf) (segAck buf) (segSeq buf) w =
      if (conn w).Challenges (segmentOf a buf w) then sendACK a.callbacks w
      else if has (segControl buf) RST then
        handleReset a.callbacks (segAck buf) (segSeq buf) w
      else if (conn w).Open then
        handleEstablished a.callbacks buf (segControl buf) (segAck buf) (segSeq buf) w
      else if (conn w).Acknowledged (segmentOf a buf w) then handleAck a.callbacks w
      else forceClose a.callbacks w := by
  have hstates : ∀ s ∈ connectionStates, s ∉ [CLOSED, LISTEN, SYN_SENT, SYN_RECEIVED] := by decide
  have hstate : (conn w).state ∉ [CLOSED, LISTEN, SYN_SENT, SYN_RECEIVED] := hstates _ hs
  have hrefuses : ¬ (conn w).Refuses (segmentOf a buf w) := Conn.not_refuses hstate
  have hopens : ¬ (conn w).Opens (segmentOf a buf w) :=
    Conn.not_opens fun h => hstate (by
      simp only [List.mem_cons, List.not_mem_nil, or_false] at h ⊢
      tauto)
  unfold handleValid
  refine (if_neg fun h => hrefuses (.inl h)).trans ?_
  refine (if_neg fun h => hrefuses (.inr (.inl h))).trans ?_
  refine (if_neg fun h => hrefuses (.inr (.inr h))).trans ?_
  by_cases hchallenges : (conn w).Challenges (segmentOf a buf w)
  · refine Eq.trans ?_ (if_pos hchallenges).symm
    obtain ⟨hsync, h⟩ := hchallenges
    by_cases hack : synchronized w.self.state ∧ has (segControl buf) ACK ∧
        segAck buf > w.self.localSeq
    · exact if_pos hack
    · exact (if_neg hack).trans (if_pos ⟨hsync, h.resolve_left fun h => hack ⟨hsync, h⟩⟩)
  · refine Eq.trans ?_ (if_neg hchallenges).symm
    refine (if_neg fun h => hchallenges ⟨h.1, .inl h.2⟩).trans ?_
    refine (if_neg fun h => hchallenges ⟨h.1, .inr h.2⟩).trans ?_
    refine if_congr Iff.rfl rfl ?_
    refine (if_neg fun h => hopens (.inl h)).trans ?_
    refine (if_neg fun h => hopens (.inr (.inl h))).trans ?_
    refine (if_neg fun h => hopens (.inr (.inr h))).trans ?_
    exact if_congr Iff.rfl rfl (if_congr Iff.rfl rfl rfl)

/-- A segment that case 3 treats alike is treated alike. -/
theorem alike_handleValid {buf buf' : Bytes} (hshift : Shifted c d buf buf')
    (hwords : headerWords (viewOf buf) = some (segWords buf))
    (hwords' : headerWords (viewOf buf') = some (segWords buf'))
    (htcp : w.self.tcp.isSome) (hs : w.self.state ∈ connectionStates)
    (hsame : (conn w).Challenges (segmentOf a buf w) ↔
      (conn (w.shift c d)).Challenges (segmentOf a buf' (w.shift c d))) :
    Alike c d w (handleValid a.callbacks buf (segControl buf) (segAck buf) (segSeq buf) w)
      (handleValid a.callbacks buf' (segControl buf') (segAck buf') (segSeq buf')
        (w.shift c d)) := by
  have hs' : (w.shift c d).self.state ∈ connectionStates := hs
  have hopen : (conn (w.shift c d)).Open ↔ (conn w).Open := Iff.rfl
  have hack : (conn (w.shift c d)).Acknowledged (segmentOf a buf' (w.shift c d)) ↔
      (conn w).Acknowledged (segmentOf a buf w) := by
    refine and_congr ?_ ?_
    · rw [show (segmentOf a buf' (w.shift c d)).control = _ from hshift.control]
      rfl
    · rw [show (segmentOf a buf' (w.shift c d)).ack = _ from hshift.ack]
      exact UInt32.add_left_inj _
  have hlog : w.stack.log = w.stack.log ++ [] := (List.append_nil _).symm
  rw [handleValid_cascade a hs, handleValid_cascade a hs', hshift.control, hshift.ack, hshift.seq,
    if_congr hsame.symm rfl rfl, if_congr hopen rfl rfl, if_congr hack rfl rfl]
  split_ifs
  · exact alike_sendACK a hlog rfl htcp
  · exact (Alike.refl w).handleReset a
  · exact alike_handleEstablished a hshift hwords hwords' htcp _
  · exact (Alike.refl w).handleAck a
  · exact alike_forceClose a hlog rfl htcp

end Blocks

end Socket

open Socket

/-! ### What case 3 need not tell apart -/

/-- Whether case 3 answers a segment of a connection or lets it pass makes no difference: it is
answered with an ACK in either case, or would be left alone and no ACK leaves the host. The
cascade is that of `handleSegment`. -/
def Conn.Quiet (s : Segment) (c : Conn) (answers : Prop) : Prop :=
  if has s.control RST then s.seq ≠ c.remoteSeq ∧ ¬ answers
  else if c.Open then
    if has s.control ACK then
      s.seq ≠ c.remoteSeq ∨
        ¬ has s.control FIN ∧ if s.payloadSize > 0 then s.payload = [] else ¬ answers
    else ¬ answers
  else c.Acknowledged s ∧ c.state ∈ [FIN_WAIT_2, CLOSE_WAIT, TIME_WAIT] ∧ ¬ answers

section Quiet

variable {k : Limits} {s : Segment} {c c' : Conn} {e : Effect} {answers : Prop}

/-- Case 3 makes no difference to a RST if it is out of order and no ACK can leave. -/
theorem Conn.quiet_reset_iff (hrst : has s.control RST) :
    c.Quiet s answers ↔ s.seq ≠ c.remoteSeq ∧ ¬ answers := by
  rw [Conn.Quiet, if_pos hrst]

/-- On an established connection it makes no difference where the segment is out of order, or
changes nothing and no ACK can leave. -/
theorem Conn.quiet_open_iff (hrst : ¬ has s.control RST) (hopen : c.Open) :
    c.Quiet s answers ↔ if has s.control ACK then
      s.seq ≠ c.remoteSeq ∨
        ¬ has s.control FIN ∧ if s.payloadSize > 0 then s.payload = [] else ¬ answers
      else ¬ answers := by
  rw [Conn.Quiet, if_neg hrst, if_pos hopen]

/-- Behind ESTABLISHED it makes no difference where the segment acknowledges everything in a state
that this does not end, and no ACK can leave. -/
theorem Conn.quiet_closing_iff (hrst : ¬ has s.control RST) (hopen : ¬ c.Open) :
    c.Quiet s answers ↔
      c.Acknowledged s ∧ c.state ∈ [FIN_WAIT_2, CLOSE_WAIT, TIME_WAIT] ∧ ¬ answers := by
  rw [Conn.Quiet, if_neg hrst, if_neg hopen]

/-- A step without a change of state or a payload, and with a segment if an ACK can leave the
host, is one that case 3 need not tell from a challenge. -/
theorem Receives.quiet_of_untouched (h : Receives k s c e c') (hs : c.state ∈ connectionStates)
    (hpass : ¬ c.Challenges s) (hstate : c'.state = c.state) (hdelivers : e.delivers = none)
    (hsends : e.sends = none → ¬ answers) : c.Quiet s answers := by
  have hstates : ∀ s ∈ connectionStates, s ∉ [CLOSED, LISTEN, SYN_SENT, SYN_RECEIVED] := by decide
  have hup := hstates _ hs
  have hdown : k.down ≠ c.state := by
    intro heq
    rw [← heq] at hup
    rcases k.down_eq with hd | hd
    · exact hup (by rw [hd]; decide)
    · exact hup (by rw [hd]; decide)
  have hopens : ¬ c.Opens s := Conn.not_opens fun h => hup (by
    simp only [List.mem_cons, List.not_mem_nil, or_false] at h ⊢
    tauto)
  unfold Conn.Quiet
  cases h with
  | refuse _ _ hrefuses _ => exact absurd hrefuses (Conn.not_refuses hup)
  | challenge _ hchallenges => exact absurd hchallenges hpass
  | reset _ _ _ _ => exact absurd hstate hdown
  | resetIgnored _ _ hrst hobeys =>
      rw [if_pos hrst]
      have hlisten : c.state ≠ LISTEN := fun h => hup (by rw [h]; decide)
      exact ⟨fun heq => hobeys (.inr ⟨heq.symm, hlisten⟩), hsends rfl⟩
  | passiveOpen _ hlisten hsyn _ => exact absurd (.inl ⟨hlisten, hsyn⟩) hopens
  | passiveOpenShort _ hlisten hsyn _ => exact absurd (.inl ⟨hlisten, hsyn⟩) hopens
  | simultaneousOpen _ hsent hsyn => exact absurd (.inr (.inl ⟨hsent, hsyn⟩)) hopens
  | activeOpen _ hsent hsyn hack => exact absurd (.inr (.inr ⟨hsent, hsyn, hack⟩)) hopens
  | noAck hadmits hopen hack =>
      rw [if_neg hadmits.2.2, if_pos hopen, if_neg hack]
      exact hsends rfl
  | outOfOrder hadmits hopen hack hseq =>
      rw [if_neg hadmits.2.2, if_pos hopen, if_pos hack]
      exact .inl hseq
  | inOrder hadmits hopen hack hseq =>
      rw [if_neg hadmits.2.2, if_pos hopen, if_pos hack]
      obtain ⟨hfin, -⟩ := hopen.state_inOrder_iff.mp hstate
      refine .inr ⟨hfin, ?_⟩
      unfold Conn.inOrderEffect at hdelivers hsends
      dsimp only at hdelivers hsends
      split
      case isTrue hsize =>
        by_contra hnil
        rw [if_pos ⟨hsize, List.length_pos_iff.mpr hnil⟩] at hdelivers
        exact nomatch hdelivers
      case isFalse hsize =>
        exact hsends (if_neg fun h => h.elim hsize hfin)
  | acked hadmits hopens hopen hack =>
      rw [if_neg hadmits.2.2, if_neg hopen]
      refine ⟨hack, ?_, hsends rfl⟩
      have hafter : c.afterAck k.down = c.state := hstate
      have hrest : ∀ s ∈ connectionStates, ¬ s &&& 0x0F = ESTABLISHED →
          s ∉ [FIN_WAIT_2, CLOSE_WAIT, TIME_WAIT] →
            s = FIN_WAIT_1 ∨ s = CLOSING ∨ s = LAST_ACK := by decide
      by_contra hmem
      unfold Conn.afterAck at hafter
      rcases hrest _ hs hopen hmem with hone | hclosing | hlast
      · rw [hone] at hafter
        have hafter : FIN_WAIT_2 = FIN_WAIT_1 := hafter
        exact absurd hafter (by decide)
      · rw [hclosing] at hafter
        have hafter : TIME_WAIT = CLOSING := hafter
        exact absurd hafter (by decide)
      · rw [hlast] at hafter hdown
        exact hdown hafter
  | abort _ _ _ _ => exact absurd hstate hdown

end Quiet

namespace Socket

variable {α : Type} {c d : UInt32} (a : App α) {w : World α}

/-- What a socket has told its application includes the payloads. -/
theorem receivedOf_of_calls {this : ℕ} {l : List Obs} (h : callsOf l = []) :
    receivedOf this l = [] := by
  refine List.filterMap_eq_nil_iff.mpr fun o ho => ?_
  have ho := List.filter_eq_nil_iff.mp h o ho
  cases o with
  | received _ _ _ => exact absurd rfl ho
  | _ => rfl

/-- An ACK tells the application nothing. -/
theorem log_sendACK (htcp : w.self.tcp.isSome) : ∃ l,
    (sendACK a.callbacks w).stack.log = w.stack.log ++ l ∧ callsOf l = [] ∧
      (segmentsOf l = [] ↔ ¬ CanAnswer w) := by
  have hsilent := silent_sendACK_iff a htcp
  have hopt : (optionBytes ACK w.stack).length = 0 := rfl
  obtain ⟨l, hlog, hcalls⟩ : ∃ l,
      (sendACK a.callbacks w).stack.log = w.stack.log ++ l ∧ callsOf l = [] := by
    by_cases hroom : 20 ≤ w.stack.room
    · obtain ⟨l, hlog, hout, -⟩ :=
        (sendSegment_transmitted a.callbacks ACK 0 0 0 htcp (by simpa [hopt] using hroom)).2.log
      exact ⟨l, hlog, callsOf_output hout⟩
    · have hrest := (sendSegment_short a.callbacks ACK 0 0 w htcp (by omega)).2.rest
      refine ⟨[], ?_, rfl⟩
      rw [sendACK, Proc.exec, hrest, List.append_nil]
  refine ⟨l, hlog, hcalls, ?_⟩
  rw [← hsilent, Silent, hlog, segmentsOf_append, List.append_right_eq_self]

/-- A run that does nothing agrees with one that sends an ACK if and only if the ACK does not
leave the host. -/
theorem agree_sendACK_iff (htcp : w.self.tcp.isSome) :
    Agree c d w w (sendACK a.callbacks (w.shift c d)) ↔ ¬ CanAnswer w := by
  have htcp' : (w.shift c d).self.tcp.isSome := htcp
  obtain ⟨l', hlog', hcalls, hsent⟩ := log_sendACK a htcp'
  have hself : (sendACK a.callbacks (w.shift c d)).self = w.self.shift c d :=
    sendSegment_self _ _ _ _ (by decide) (by decide)
  have hsent : segmentsOf l' = [] ↔ ¬ CanAnswer w := hsent
  have hlog' : (sendACK a.callbacks (w.shift c d)).stack.log = w.stack.log ++ l' := hlog'
  constructor
  · rintro ⟨-, -, -, k, k', hk, hk', hsame⟩
    obtain rfl : k = [] := by simpa using hk
    obtain rfl : l' = k' := List.append_cancel_left (hlog'.symm.trans hk')
    exact hsent.mp (List.forall₂_nil_left_iff.mp hsame.segments)
  · intro h
    refine ⟨by rw [hself]; rfl, by rw [hself]; rfl, by rw [hself]; rfl, [], l',
      (List.append_nil _).symm, hlog', hcalls, ?_⟩
    rw [hsent.mpr h]
    exact .nil

section Passed

variable {buf buf' : Bytes}

/-- A segment in order that has neither a FIN nor anything for the application. -/
theorem handleInOrder_empty {opt : UInt8} {ack seq : UInt32}
    (hbuf : w.self.recvBuffer = some []) (hfin : ¬ has opt FIN)
    (hpayload : segPayloadSize buf > 0 → segPayload buf = []) :
    handleInOrder a.callbacks buf opt ack seq (segWords buf) w =
      if segPayloadSize buf > 0 then sendACK a.callbacks w else w := by
  have hsize : (viewOf buf).size - (segWords buf).toUInt16 * 4 = segPayloadSize buf := rfl
  have hdrop : buf.drop ((segWords buf).toNat * 4) = segPayload buf := rfl
  have hset : w.setSelf { w.self with recvBuffer := some [] } = w := by
    rw [← hbuf]
    rfl
  unfold handleInOrder
  dsimp only
  rw [hsize, hdrop, if_neg hfin]
  by_cases hpos : segPayloadSize buf > 0
  · rw [if_pos hpos, if_pos hpos, hpayload hpos]
    unfold handlePayload countFin offerPayload
    rw [hset, if_neg hfin, if_neg (by simp)]
  · rw [if_neg hpos, if_neg hpos]

/-- A segment in order on a connection that waits for no acknowledgement. -/
theorem handleEstablished_inOrder {localIP remoteIP : IPAddr}
    (hsum : checksumOk buf localIP remoteIP) (hack : has (segControl buf) ACK)
    (hseq : segSeq buf = w.self.remoteSeq) (hready : ¬ has w.self.state AWAITING_ACK) :
    handleEstablished a.callbacks buf (segControl buf) (segAck buf) (segSeq buf) w =
      handleInOrder a.callbacks buf (segControl buf) (segAck buf) (segSeq buf) (segWords buf)
        w := by
  unfold handleEstablished
  rw [if_neg (by simpa using hack)]
  dsimp only
  rw [if_neg (not_not_intro hseq), read_segWords hsum]
  exact if_neg fun h => hready h.2

/-- An ACK where none is awaited. -/
theorem handleAck_idle (h : w.self.state ∈ [FIN_WAIT_2, CLOSE_WAIT, TIME_WAIT]) :
    handleAck a.callbacks w = w := by
  have hne : ∀ state ∈ [FIN_WAIT_2, CLOSE_WAIT, TIME_WAIT],
      state ≠ SYN_RECEIVED ∧ state ≠ FIN_WAIT_1 ∧ state ≠ CLOSING ∧ state ≠ LAST_ACK := by decide
  obtain ⟨hreceived, hone, hclosing, hlast⟩ := hne _ h
  unfold handleAck
  rw [if_neg hreceived, if_neg hone, if_neg hclosing, if_neg hlast]

/-- A segment that passes case 3 in one run and is challenged in the other. -/
theorem agree_challenged_iff (hw : Wired w) {localIP remoteIP : IPAddr}
    (hsum : checksumOk buf localIP remoteIP) (hbuf : w.self.recvBuffer = some [])
    (hs : synchronized w.self.state) (hpass : ¬ (conn w).Challenges (segmentOf a buf w)) :
    Agree c d w (handleValid a.callbacks buf (segControl buf) (segAck buf) (segSeq buf) w)
        (sendACK a.callbacks (w.shift c d)) ↔
      (conn w).Quiet (segmentOf a buf w) (CanAnswer w) := by
  have hstates : ∀ state : UInt8, synchronized state = true → state ∈ connectionStates ∧
      state ≠ SYN_SENT ∧ ¬ has state AWAITING_ACK = true := forall_uint8 (by decide +kernel)
  obtain ⟨hup, hsent, hready⟩ := hstates _ hs
  constructor
  · intro h
    obtain ⟨⟨e, hstep, m, -, hemits⟩, -, -⟩ := handleValid_refines a hw hsum
    obtain ⟨l, hlog, hreceived, hleaves⟩ := hemits.log
    obtain ⟨l', hlog', hcalls, hsent⟩ := log_sendACK a (w := w.shift c d) hw.tcp
    have hself : (sendACK a.callbacks (w.shift c d)).self = w.self.shift c d :=
      sendSegment_self _ _ _ _ (by decide) (by decide)
    obtain ⟨k, k', hk, hk', hsame⟩ := h.log
    obtain rfl : l = k := List.append_cancel_left (hlog.symm.trans hk)
    obtain rfl : l' = k' := List.append_cancel_left (hlog'.symm.trans hk')
    refine hstep.quiet_of_untouched hup hpass ?_ ?_ ?_
    · have hstate := h.state
      rw [hself] at hstate
      exact hstate.symm
    · rw [← Option.toList_eq_nil_iff]
      exact hreceived.symm.trans (receivedOf_of_calls (hsame.calls.symm.trans hcalls))
    · intro hnone
      rcases hleaves.segment with hnil | ⟨o, -, ho, -⟩
      · have hsegments := hsame.segments
        rw [hnil] at hsegments
        exact hsent.mp (List.forall₂_nil_left_iff.mp hsegments)
      · rw [hnone] at ho
        exact nomatch ho
  · intro h
    have hsilent := fun h => (agree_sendACK_iff a (c := c) (d := d) hw.tcp).mpr h
    have hsends : Agree c d w (sendACK a.callbacks w) (sendACK a.callbacks (w.shift c d)) :=
      (alike_sendACK a (l := []) (List.append_nil _).symm rfl hw.tcp).agree
    rw [handleValid_cascade a hup, if_neg hpass]
    by_cases hrst : has (segControl buf) RST
    · obtain ⟨hseq, hanswers⟩ := (Conn.quiet_reset_iff hrst).mp h
      have hignored : handleReset a.callbacks (segAck buf) (segSeq buf) w = w :=
        (if_neg fun h => hsent h.1).trans (if_neg fun h => hseq h.symm)
      rw [if_pos hrst, hignored]
      exact hsilent hanswers
    · rw [if_neg hrst]
      by_cases hopen : (conn w).Open
      · rw [if_pos hopen]
        have h := (Conn.quiet_open_iff hrst hopen).mp h
        by_cases hack : has (segControl buf) ACK
        · rw [if_pos (show has (segmentOf a buf w).control ACK from hack)] at h
          by_cases hseq : segSeq buf = w.self.remoteSeq
          · obtain ⟨hfin, hsize⟩ := h.resolve_left (not_not_intro hseq)
            have hfin : ¬ has (segControl buf) FIN := hfin
            have hpayload : segPayloadSize buf > 0 → segPayload buf = [] := fun hpos => by
              rwa [if_pos (show (segmentOf a buf w).payloadSize > 0 from hpos)] at hsize
            rw [handleEstablished_inOrder a hsum hack hseq hready,
              handleInOrder_empty a hbuf hfin hpayload]
            split
            · exact hsends
            case isFalse hpos =>
              rw [if_neg (show ¬ (segmentOf a buf w).payloadSize > 0 from hpos)] at hsize
              exact hsilent hsize
          · have hduplicate : handleEstablished a.callbacks buf (segControl buf) (segAck buf)
                (segSeq buf) w = sendACK a.callbacks w :=
              (if_neg (by simpa using hack)).trans (if_pos hseq)
            rw [hduplicate]
            exact hsends
        · rw [if_neg (show ¬ has (segmentOf a buf w).control ACK from hack)] at h
          have hignored : handleEstablished a.callbacks buf (segControl buf) (segAck buf)
              (segSeq buf) w = w := if_pos (by simpa using hack)
          rw [hignored]
          exact hsilent h
      · rw [if_neg hopen]
        obtain ⟨hack, hstate, hanswers⟩ := (Conn.quiet_closing_iff hrst hopen).mp h
        rw [if_pos hack, handleAck_idle a hstate]
        exact hsilent hanswers

end Passed

/-! ### Both runs -/

section Symmetry

variable {buf buf' : Bytes} {r r' : World α}

/-- A shift and its reverse cancel. -/
theorem add_neg_cancel (n m : UInt32) : n + m + -m = n := by
  rw [UInt32.add_assoc, UInt32.add_right_neg, UInt32.add_zero]

/-- A world shifted there and back is the same. -/
theorem shift_neg (w : World α) : (w.shift c d).shift (-c) (-d) = w := by
  have hself : (w.self.shift c d).shift (-c) (-d) = w.self := by
    unfold shift
    rw [add_neg_cancel, add_neg_cancel]
  exact congrArg w.setSelf hself

/-- The reverse shift leads back to the segment. -/
theorem Shifted.symm (h : Shifted c d buf buf') : Shifted (-c) (-d) buf' buf where
  sourcePort := h.sourcePort.symm
  destPort := h.destPort.symm
  seq := by rw [h.seq, add_neg_cancel]
  ack := by rw [h.ack, add_neg_cancel]
  words := h.words.symm
  control := h.control.symm
  window := h.window.symm
  payloadSize := h.payloadSize.symm
  payload := h.payload.symm

/-- The logs agree the other way around too. -/
theorem SameLog.symm {l l' : List Obs} (h : SameLog c d l l') : SameLog (-c) (-d) l' l where
  calls := h.calls.symm
  segments := (h.segments.imp fun _ _ hp => ⟨hp.1.symm, hp.2.1.symm, hp.2.2.symm⟩).flip

/-- The worlds agree the other way around too. -/
theorem Agree.symm (h : Agree c d w r r') : Agree (-c) (-d) (w.shift c d) r' r := by
  obtain ⟨l, l', hl, hl', hsame⟩ := h.log
  refine ⟨h.state.symm, ?_, ?_, l', l, hl', hl, hsame.symm⟩
  · rw [h.localSeq, add_neg_cancel]
  · rw [h.remoteSeq, add_neg_cancel]

/-- Agreement goes both ways. -/
theorem agree_symm_iff : Agree (-c) (-d) (w.shift c d) r' r ↔ Agree c d w r r' := by
  refine ⟨fun h => ?_, Agree.symm⟩
  have hback := h.symm
  rwa [shift_neg, UInt32.neg_neg, UInt32.neg_neg] at hback

end Symmetry

section Runs

variable {buf buf' : Bytes}

/-- Whether case 3 makes a difference does not depend on the shift. -/
theorem Shifted.quiet_iff (h : Shifted c d buf buf') {answers : Prop} :
    (conn (w.shift c d)).Quiet (segmentOf a buf' (w.shift c d)) answers ↔
      (conn w).Quiet (segmentOf a buf w) answers := by
  have hseq : segSeq buf + c ≠ w.self.remoteSeq + c ↔ segSeq buf ≠ w.self.remoteSeq :=
    not_congr (UInt32.add_left_inj _)
  have hack : segAck buf + d = w.self.localSeq + d ↔ segAck buf = w.self.localSeq :=
    UInt32.add_left_inj _
  unfold Conn.Quiet Conn.Acknowledged segmentOf
  dsimp only [conn, World.shift, shift, World.setSelf]
  rw [h.control, h.seq, h.ack, h.payloadSize, h.payload, hseq, hack]
  exact Iff.rfl

/-- A shifted socket has its buffers. -/
theorem Wired.shift (hw : Wired w) : Wired (w.shift c d) :=
  ⟨hw.tcp, hw.sendBuffer, hw.stash, hw.within.header, hw.within.option, hw.within.data⟩

/-- The two sockets agree just if case 3 answers both segments or neither, or makes no
difference. -/
theorem handleValid_shift_iff (hw : Wired w) (hbuf : w.self.recvBuffer = some [])
    (hs : w.self.state ∈ connectionStates) (hshift : Shifted c d buf buf')
    {localIP remoteIP : IPAddr} (hsum : checksumOk buf localIP remoteIP)
    (hsum' : checksumOk buf' localIP remoteIP) :
    Agree c d w (handleValid a.callbacks buf (segControl buf) (segAck buf) (segSeq buf) w)
        (handleValid a.callbacks buf' (segControl buf') (segAck buf') (segSeq buf')
          (w.shift c d)) ↔
      ((conn w).Challenges (segmentOf a buf w) ↔
          (conn (w.shift c d)).Challenges (segmentOf a buf' (w.shift c d))) ∨
        (conn w).Quiet (segmentOf a buf w) (CanAnswer w) := by
  have hs' : (w.shift c d).self.state ∈ connectionStates := hs
  by_cases hsame : (conn w).Challenges (segmentOf a buf w) ↔
      (conn (w.shift c d)).Challenges (segmentOf a buf' (w.shift c d))
  · exact iff_of_true (alike_handleValid a hshift (read_segWords hsum) (read_segWords hsum')
      hw.tcp hs hsame).agree (.inl hsame)
  rw [or_iff_right hsame]
  by_cases hpass : (conn w).Challenges (segmentOf a buf w)
  · have hpass' := fun h => hsame (iff_of_true hpass h)
    have hback := agree_challenged_iff a (c := -c) (d := -d) hw.shift hsum' hbuf hpass.1 hpass'
    rw [shift_neg, hshift.quiet_iff] at hback
    rw [(handleValid_cascade a hs).trans (if_pos hpass), ← agree_symm_iff]
    exact hback
  · have hchallenged : (conn (w.shift c d)).Challenges (segmentOf a buf' (w.shift c d)) := by
      by_contra h
      exact hsame (iff_of_false hpass h)
    rw [(handleValid_cascade a hs').trans (if_pos hchallenged)]
    exact agree_challenged_iff a hw hsum hbuf hchallenged.1 hpass

/-- A segment is treated alike whatever the sequence numbers if and only if case 3 treats it
alike, or need not tell. -/
theorem handleSegment_shift_iff (hw : Wired w) (hs : w.self.state ∈ connectionStates)
    {sourceIP : IPAddr} (hshift : Shifted c d buf buf')
    (hsum : checksumOk buf w.stack.ip.ipAddress w.self.remoteIP)
    (hsum' : checksumOk buf' w.stack.ip.ipAddress w.self.remoteIP) :
    Agree c d w (handleSegment a.callbacks sourceIP buf w)
        (handleSegment a.callbacks sourceIP buf' (w.shift c d)) ↔
      ((conn w).Challenges (segmentOf a buf w) ↔
          (conn (w.shift c d)).Challenges (segmentOf a buf' (w.shift c d))) ∨
        (conn w).Quiet (segmentOf a buf w) (CanAnswer w) := by
  have hlisten : w.self.state ≠ LISTEN := by
    intro h
    rw [h] at hs
    exact absurd hs (by decide)
  have hip : (arrive sourceIP buf w).self.remoteIP = w.self.remoteIP :=
    if_neg fun h => hlisten h.1
  have hip' : (arrive sourceIP buf' (w.shift c d)).self.remoteIP = w.self.remoteIP :=
    if_neg fun h => hlisten h.1
  have harrive : arrive sourceIP buf' (w.shift c d) = (arrive sourceIP buf w).shift c d := by
    rw [arrive, hshift.control, hshift.window]
    rfl
  have hw₁ : Wired (arrive sourceIP buf w) := ⟨hw.tcp, hw.sendBuffer, hw.stash, hw.within⟩
  have hcan : CanAnswer (arrive sourceIP buf w) ↔ CanAnswer w := by
    unfold CanAnswer
    rw [hip]
    exact Iff.rfl
  have htcp' : (w.shift c d).self.tcp.isSome := hw.tcp
  rw [handleSegment_valid a.callbacks hw.tcp (by rw [hip]; exact hsum),
    handleSegment_valid a.callbacks htcp' (by rw [hip']; exact hsum'), harrive,
    propext hcan.symm]
  have hiff := handleValid_shift_iff a (w := arrive sourceIP buf w) hw₁ rfl hs hshift hsum hsum'
  exact ⟨fun h => hiff.mp ⟨h.state, h.localSeq, h.remoteSeq, h.log⟩, fun h =>
    have h := hiff.mpr h
    ⟨h.state, h.localSeq, h.remoteSeq, h.log⟩⟩

end Runs

/-- The ACK of `exampleAck` from a peer that began with the last but one of all numbers. -/
theorem handleSegment_shift_ack :
    Agree (-9) 0 exampleServer
      (handleSegment exampleApp.callbacks ⟨10, 0, 0, 1⟩ exampleAck exampleServer)
      (handleSegment exampleApp.callbacks ⟨10, 0, 0, 1⟩
        [192, 0, 0, 80, 255, 255, 255, 255, 0, 0, 0, 12, 80, 16, 0, 42, 219, 75, 0, 0]
        (exampleServer.shift (-9) 0)) := by
  refine (handleSegment_shift_iff exampleApp wired_exampleServer (by decide +kernel)
    ⟨by decide +kernel, by decide +kernel, by decide +kernel, by decide +kernel,
      by decide +kernel, by decide +kernel, by decide +kernel, by decide +kernel,
      by decide +kernel⟩ (by decide +kernel) (by decide +kernel)).mpr (.inl (iff_of_false ?_ ?_))
  · decide +kernel
  · decide +kernel

/-- Worlds that agree have sent equally many segments. -/
theorem Agree.length_segments {r r' : World α} (h : Agree c d w r r') :
    (segmentsOf r'.stack.log).length = (segmentsOf r.stack.log).length := by
  obtain ⟨l, l', hl, hl', hsame⟩ := h.log
  rw [hl, hl', segmentsOf_append, segmentsOf_append, List.length_append, List.length_append,
    hsame.segments.length_eq]

/-- A SYN that comes again after the handshake is ignored, but not if the peer has begun with
the last of all numbers. -/
theorem secondSyn_wraps :
    let w := exampleServer
    let exampleSyn' :=
      [192, 0, 0, 80, 255, 255, 255, 255, 0, 0, 0, 0, 96, 2, 0, 42, 201, 51, 0, 0, 2, 4, 0, 42]
    Wired w ∧ w.self.state ∈ connectionStates ∧ Shifted (-8) 0 exampleSyn exampleSyn' ∧
      checksumOk exampleSyn w.stack.ip.ipAddress w.self.remoteIP ∧
      checksumOk exampleSyn' w.stack.ip.ipAddress w.self.remoteIP ∧
      ¬ Agree (-8) 0 w (handleSegment exampleApp.callbacks ⟨10, 0, 0, 1⟩ exampleSyn w)
        (handleSegment exampleApp.callbacks ⟨10, 0, 0, 1⟩ exampleSyn' (w.shift (-8) 0)) := by
  refine ⟨wired_exampleServer, by decide +kernel, ⟨by decide +kernel, by decide +kernel,
    by decide +kernel, by decide +kernel, by decide +kernel, by decide +kernel,
    by decide +kernel, by decide +kernel, by decide +kernel⟩, by decide +kernel,
    by decide +kernel, fun h => ?_⟩
  exact absurd h.length_segments (by decide +kernel)

end Socket

end AtmegaNet
