import AtmegaNet.SegmentFormat
import AtmegaNet.TCPHandler

/-!
# Sending data

A payload lies in the send buffer behind the headers when `send` is called. It is copied to the
stash of the socket, from where `resendData` brings it back. This module executes the two
functions on a socket that has the buffers its handler gives it.

## Main results

* `send_run`: a payload that fits is stashed and transmitted.
* `send_unsent`: any other leaves the socket as it was, but for the number of attempts.
* `resendData_run`: what the stash holds is transmitted again.
-/

open Procedure

namespace AtmegaNet

namespace Socket

variable {α : Type}

/-- The socket has the buffers that its handler gave it. -/
structure Geared (w : World α) : Prop where
  tcp : w.self.tcp.isSome
  sendBuffer : w.self.sendBuffer = some (OffsetBuffer.reinit w.stack.ipPayload 20 0)
  stash : ∃ b, w.self.stash = some b ∧ b.Fits ∧ b.root = .outbound

/-- The buffer for the data to send begins behind the headers of the frame, the packet and the
segment, and ends with the send buffer. -/
def dataBuffer (h : Stack) : Buffer := OffsetBuffer.reinit h.ipPayload 20 0

theorem fits_dataBuffer (h : Stack) : (dataBuffer h).Fits :=
  OffsetBuffer.fits_reinit h.fits_ipPayload 20 0

theorem root_dataBuffer (h : Stack) : (dataBuffer h).root = .send := by
  rw [dataBuffer, OffsetBuffer.root_reinit, Stack.root_ipPayload]

theorem toNat_size_dataBuffer (h : Stack) : (dataBuffer h).size.toNat = h.room - 20 := by
  rw [dataBuffer, OffsetBuffer.toNat_size_reinit_zero, Stack.toNat_size_ipPayload]
  rfl

theorem base_dataBuffer {h : Stack} (hroom : 20 ≤ h.room) : (dataBuffer h).base = 54 := by
  have hsize : 34 ≤ h.sendSize.toNat := by
    rw [Stack.room] at hroom
    omega
  have hle : (20 : UInt16) ≤ h.ipPayload.size := by
    rw [UInt16.le_iff_toNat_le, Stack.toNat_size_ipPayload]
    exact hroom
  rw [dataBuffer, OffsetBuffer.base_reinit_of_le _ _ hle, Stack.base_ipPayload _ hsize]
  rfl

/-- The stashes are not part of the send buffer. -/
theorem outbound_write (m : Memory) (a : ℕ) (d : Bytes) :
    Region.write m .send a d .outbound = m .outbound :=
  funext (Region.write_region m (by decide) a d)

/-- A write to the data buffer fails without an effect, or has it. -/
theorem write_run (data : Bytes) (w : World α) :
    (World.onMem ((dataBuffer w.stack).write 0 data)).run w = (none, w) ∨
      (World.onMem ((dataBuffer w.stack).write 0 data)).run w =
        (some (), { w with stack := { w.stack with
          mem := Region.write w.stack.mem .send (dataBuffer w.stack).base data } }) := by
  have hlength : (0 : UInt16).toNat + (Buffer.lengthOf data).toNat < 65536 := by
    rw [UInt16.toNat_zero, Nat.zero_add]
    exact UInt16.toNat_lt _
  have hrun := Buffer.write_of_fits (fits_dataBuffer w.stack) w.stack.mem hlength
  rw [World.onMem, World.onStack, Proc.run_zoom, Stack.onMem, Proc.run_zoom, hrun]
  split
  · exact .inl rfl
  · rw [root_dataBuffer]
    exact .inr rfl

/-- A copy of the first bytes of the data buffer is put into the stash. -/
def stashData (stash : Buffer) (length : UInt16) (w : World α) : World α :=
  { w with stack := { w.stack with
      mem := Region.write w.stack.mem stash.root stash.base
        (Region.read w.stack.mem .send 54 length.toNat) } }

/-- The stash is copied back. -/
def unstashData (stash : Buffer) (length : UInt16) (w : World α) : World α :=
  { w with stack := { w.stack with
      mem := Region.write w.stack.mem .send 54
        (Region.read w.stack.mem stash.root stash.base length.toNat) } }

theorem outbound_unstashData (stash : Buffer) (length : UInt16) (w : World α) :
    (unstashData stash length w).stack.mem .outbound = w.stack.mem .outbound :=
  outbound_write w.stack.mem 54 (Region.read w.stack.mem stash.root stash.base length.toNat)

theorem getMaxSendPayload_le {s : Socket} {stash : Buffer} (h : s.stash = some stash) :
    s.getMaxSendPayload ≤ stash.size := by
  rw [getMaxSendPayload, h]
  dsimp only
  split_ifs with hwindow hmss hmss
  · exact UInt16.le_of_lt (UInt16.lt_trans hmss.2 hwindow)
  · exact UInt16.le_of_lt hwindow
  · exact UInt16.le_of_lt hmss.2
  · exact UInt16.le_refl _

namespace Geared

variable {w : World α} (h : Geared w)

include h

theorem getSendDataBuffer : w.self.getSendDataBuffer = some (dataBuffer w.stack) := by
  rw [Socket.getSendDataBuffer, if_neg (by simp [Option.isSome_iff_ne_none.mp h.tcp]), h.sendBuffer]
  rfl

/-- `send` and `resendData` find the two buffers. -/
theorem run_buffers {stash : Buffer} (hstash : w.self.stash = some stash) {β : Type}
    (f : Buffer → Buffer → Proc (World α) β) :
    ((Proc.query fun w : World α => w.self.getSendDataBuffer) >>= fun sb =>
      (Proc.query fun w : World α => w.self.stash) >>= f sb).run w =
        (f (dataBuffer w.stack) stash).run w := by
  have hbuffer : (Proc.query fun w : World α => w.self.getSendDataBuffer).run w =
      (some (dataBuffer w.stack), w) := by
    rw [Proc.run_query, h.getSendDataBuffer]
  have hquery : (Proc.query fun w : World α => w.self.stash).run w = (some stash, w) := by
    rw [Proc.run_query, hstash]
  rw [Proc.run_bind_of_some hbuffer, Proc.run_bind_of_some hquery]

/-- The copy `send` makes. -/
theorem copyTo_run {stash : Buffer} (hstash : w.self.stash = some stash) {length : UInt16}
    (hpos : length ≠ 0) (hle : length ≤ stash.size) (hroom : length.toNat + 20 ≤ w.stack.room) :
    (World.onMem ((dataBuffer w.stack).copyTo stash 0 0 length)).run w =
      (some (), stashData stash length w) := by
  obtain ⟨b, hb, hfits, hroot⟩ := h.stash
  obtain rfl : b = stash := Option.some.inj (hb.symm.trans hstash)
  have hne : (dataBuffer w.stack).root ≠ b.root := by
    rw [root_dataBuffer, hroot]
    decide
  have hcopy : ((dataBuffer w.stack).copyTo b 0 0 length).run w.stack.mem = (some (), _) :=
    Buffer.copyTo_exact (fits_dataBuffer w.stack) hfits hne w.stack.mem hpos
      (by rw [toNat_size_dataBuffer, UInt16.toNat_zero]; omega)
      (by rw [UInt16.toNat_zero, Nat.zero_add]; exact UInt16.le_iff_toNat_le.mp hle)
  simp only [UInt16.toNat_zero, Nat.add_zero] at hcopy
  rw [World.onMem, World.onStack, Proc.run_zoom, Stack.onMem, Proc.run_zoom, hcopy,
    root_dataBuffer, base_dataBuffer (by omega)]
  rfl

/-- The copy of `resendData`. -/
theorem copyFrom_run {stash : Buffer} (hstash : w.self.stash = some stash) {length : UInt16}
    (hpos : length ≠ 0) (hle : length ≤ stash.size) (hroom : length.toNat + 20 ≤ w.stack.room) :
    (World.onMem ((dataBuffer w.stack).copyFrom stash 0 0 length)).run w =
      (some (), unstashData stash length w) := by
  obtain ⟨b, hb, hfits, hroot⟩ := h.stash
  obtain rfl : b = stash := Option.some.inj (hb.symm.trans hstash)
  have hne : b.root ≠ (dataBuffer w.stack).root := by
    rw [root_dataBuffer, hroot]
    decide
  have hcopy : (b.copyTo (dataBuffer w.stack) 0 0 length).run w.stack.mem = (some (), _) :=
    Buffer.copyTo_exact hfits (fits_dataBuffer w.stack) hne w.stack.mem hpos
      (by rw [UInt16.toNat_zero, Nat.zero_add]; exact UInt16.le_iff_toNat_le.mp hle)
      (by rw [toNat_size_dataBuffer, UInt16.toNat_zero]; omega)
  simp only [UInt16.toNat_zero, Nat.add_zero] at hcopy
  rw [World.onMem, World.onStack, Proc.run_zoom, Stack.onMem, Proc.run_zoom, Buffer.copyFrom, hcopy,
    root_dataBuffer, base_dataBuffer (by omega)]
  rfl

end Geared

section Send

variable (cb : Callbacks α) {w : World α} {length : UInt16} {stash : Buffer}

/-- What `send` takes: a payload that fits, on a socket that is ready for it. -/
structure Sendable (length : UInt16) (w : World α) : Prop where
  nonempty : length ≠ 0
  ready : w.self.readyToSend
  limit : length ≤ w.self.getMaxSendPayload
  room : length.toNat + 20 ≤ w.stack.room

/-- A segment with payload has no option. -/
theorem fits_payload {control : UInt8} (hsyn : ¬ has control SYN) {h : Stack}
    (hroom : length.toNat + 20 ≤ h.room) :
    length.toNat + 20 + (optionBytes control h).length ≤ h.room := by
  rw [optionBytes, if_neg hsyn]
  exact hroom

/-- The packet of a segment with payload that was transmitted. -/
theorem Transmitted.segment {control : UInt8} (hc : control = ACK ∨ control = ACK ||| PSH)
    (hroom : length.toNat + 20 ≤ w.stack.room) {w' : World α}
    (h : Transmitted cb control length 0 0 w w') :
    ∃ l, w'.stack.log = w.stack.log ++ l ∧
      (∀ p ∈ packetsOf l, IsSegment w.self (w.stack.mem .send 46) ⟨control, w.self.localSeq,
        w.self.remoteSeq, Region.read w.stack.mem .send 54 length.toNat⟩ p) ∧
      ((IPHandler.getMACForIP w.self.remoteIP w.stack).isSome → (packetsOf l).length = 1) := by
  have hsent : control ∈ sentControls ∧ ¬ has control RST ∧ ¬ has control SYN := by
    rcases hc with rfl | rfl <;> decide
  obtain ⟨hcontrol, hrst, hsyn⟩ := hsent
  obtain ⟨l, hlog, -, hpackets⟩ := h.log
  refine ⟨l, hlog, fun p hp => ?_, fun hroute => ?_⟩
  · rw [hpackets] at hp
    split at hp
    · have hseg := @isSegment_packetOf _ cb control length 0 0 w hcontrol
        (.inr ⟨hc, hroom⟩) (fits_payload hsyn hroom) (checksumOf cb control length 0 0 w)
      rw [seqOf, ackOf, if_neg hrst, if_neg hrst] at hseg
      rw [List.mem_singleton.mp hp]
      exact hseg
    · exact absurd hp List.not_mem_nil
  · rw [hpackets, if_pos hroute]
    rfl

/-- A socket still has its buffers when it counts an attempt. -/
theorem Geared.attempts (hg : Geared w) (n : UInt8) :
    Geared (w.setSelf { w.self with attempts := n }) :=
  ⟨hg.tcp, hg.sendBuffer, hg.stash⟩

/-- What can be sent is stashed and transmitted. -/
theorem send_run (hg : Geared w) (hs : Sendable length w) (hstash : w.self.stash = some stash) :
    ∃ w', Transmitted cb (ACK ||| PSH) length 0 0
        (stashData stash length (w.setSelf { w.self with attempts := 1 })) w' ∧
      (send cb length).run w =
        (some (), w'.setSelf { w'.self with stateTime := w'.stack.millis }) := by
  generalize hw₁ : w.setSelf { w.self with attempts := 1 } = w₁
  have hg₁ : Geared w₁ := hw₁ ▸ hg.attempts 1
  have hstash₁ : w₁.self.stash = some stash := by rw [← hw₁]; exact hstash
  have hroom : length.toNat + 20 ≤ w₁.stack.room := by rw [← hw₁]; exact hs.room
  have hcopy := hg₁.copyTo_run hstash₁ hs.nonempty
    (UInt16.le_trans hs.limit (getMaxSendPayload_le hstash)) hroom
  obtain ⟨hsent, htransmitted⟩ := sendSegment_transmitted cb (ACK ||| PSH) length 0 0
    (w := stashData stash length w₁) hg₁.tcp (fits_payload (by decide) hroom)
  refine ⟨_, htransmitted, ?_⟩
  unfold send
  rw [Proc.run_read_bind, if_neg hs.nonempty, if_neg (by simp [hs.ready]),
    if_neg (UInt16.not_lt.mpr hs.limit), Proc.run_modify_bind, hw₁, hg₁.run_buffers hstash₁,
    Proc.run_bind_of_some hcopy, Proc.run_bind_of_some (Prod.ext hsent rfl)]
  rfl

/-- The payload that can be sent leaves in one segment, if the peer has a route. -/
theorem send_segment (hg : Geared w) (hs : Sendable length w) {data : Bytes}
    (hdata : Region.read w.stack.mem .send 54 length.toNat = data) :
    ∃ l, ((send cb length).exec w).stack.log = w.stack.log ++ l ∧
      (∀ p ∈ packetsOf l, p.1 = w.self.remoteIP ∧ segPayload p.2.2 = data) ∧
      ((IPHandler.getMACForIP w.self.remoteIP w.stack).isSome → (packetsOf l).length = 1) ∧
      ((send cb length).exec w).self.state = w.self.state ||| AWAITING_ACK := by
  obtain ⟨stash, hstash, -, hroot⟩ := hg.stash
  obtain ⟨w', htransmitted, hsend⟩ := send_run cb hg hs hstash
  rw [Proc.exec, hsend]
  generalize hw₁ : stashData stash length (w.setSelf { w.self with attempts := 1 }) = w₁
    at htransmitted
  have hself : w₁.self = { w.self with attempts := 1 } := by rw [← hw₁]; rfl
  have hpayload : Region.read w₁.stack.mem .send 54 length.toNat = data := by
    rw [← hw₁, ← hdata]
    exact Region.read_write_region _ (by rw [hroot]; decide) _ _ _ _
  have hroom : length.toNat + 20 ≤ w₁.stack.room := by
    rw [← hw₁]
    exact hs.room
  obtain ⟨l, hlog, hsegments, hone⟩ := htransmitted.segment cb (.inr rfl) hroom
  rw [hpayload, hself] at hsegments
  refine ⟨l, ?_, fun p hp => ?_, fun hroute => hone ?_, ?_⟩
  · rw [← hw₁] at hlog
    exact hlog
  · have hsegment := hsegments p hp
    exact ⟨hsegment.destination, (hsegment.payload (by decide : ¬ has (ACK ||| PSH) FIN)).1⟩
  · rw [← hw₁]
    exact hroute
  · have hadvanced := htransmitted.self
    rw [advance, if_neg (by decide), if_pos (UInt16.pos_iff_ne_zero.mpr hs.nonempty),
      hself] at hadvanced
    show w'.self.state = _
    rw [hadvanced]

/-- What does not fit the data buffer is not copied. -/
theorem copyTo_refused {h : Stack} (hpos : length ≠ 0) (hroom : h.room < length.toNat + 20)
    (m : Memory) : ((dataBuffer h).copyTo stash 0 0 length).run m = (none, m) := by
  obtain ⟨n, off, hform⟩ : ∃ n off, dataBuffer h = .offsetBuffer n off h.ipPayload := by
    unfold dataBuffer OffsetBuffer.reinit
    dsimp only
    split
    · exact ⟨_, _, rfl⟩
    · exact ⟨_, _, rfl⟩
  have hsize := toNat_size_dataBuffer h
  rw [hform, Buffer.size_offsetBuffer] at hsize
  rw [hform]
  refine Buffer.copyTo_short m hpos (UInt16.lt_iff_toNat_lt.mpr ?_)
  have hne : length.toNat ≠ 0 := fun hzero => hpos (UInt16.toNat_inj.mp hzero)
  omega

/-- Whatever else is sent leaves the socket as it was, but for the number of attempts. -/
theorem send_unsent (hg : w.self.tcp.isSome → Geared w)
    (hs : ¬ (w.self.tcp.isSome ∧ Sendable length w)) :
    ((send cb length).run w).2 = w ∨
      ((send cb length).run w).2 = w.setSelf { w.self with attempts := 1 } := by
  unfold send
  rw [Proc.run_read_bind]
  by_cases hzero : length = 0
  · rw [if_pos hzero]
    exact .inl rfl
  rw [if_neg hzero]
  by_cases hready : w.self.readyToSend
  case neg =>
    rw [if_pos (by simpa using hready)]
    exact .inl rfl
  rw [if_neg (by simp [hready])]
  by_cases hlimit : length > w.self.getMaxSendPayload
  · rw [if_pos hlimit]
    exact .inl rfl
  rw [if_neg hlimit, Proc.run_modify_bind]
  refine .inr ?_
  generalize hw₁ : w.setSelf { w.self with attempts := 1 } = w₁
  by_cases htcp : w.self.tcp.isSome
  · have hg := hg htcp
    obtain ⟨b, hb, -⟩ := hg.stash
    have hg₁ : Geared w₁ := hw₁ ▸ hg.attempts 1
    have hb₁ : w₁.self.stash = some b := by rw [← hw₁]; exact hb
    have hroom : ¬ length.toNat + 20 ≤ w₁.stack.room := fun hroom =>
      hs ⟨htcp, hzero, hready, UInt16.not_lt.mp hlimit, by rw [← hw₁] at hroom; exact hroom⟩
    have hcopy : (World.onMem ((dataBuffer w₁.stack).copyTo b 0 0 length)).run w₁ =
        (none, w₁) := by
      rw [World.onMem, World.onStack, Proc.run_zoom, Stack.onMem, Proc.run_zoom,
        copyTo_refused hzero (Nat.lt_of_not_le hroom)]
    rw [hg₁.run_buffers hb₁, Proc.run_bind_of_none hcopy]
  · have hnone : (Proc.query fun w : World α => w.self.getSendDataBuffer).run w₁ =
        (none, w₁) := by
      have hnone : w.self.tcp.isNone = true := by simpa using htcp
      have htcp₁ : w₁.self.tcp.isNone = true := by rw [← hw₁]; exact hnone
      rw [Proc.run_query, getSendDataBuffer, if_pos htcp₁]
    rw [Proc.run_bind_of_none hnone]

/-- What is stashed is transmitted again. -/
theorem resendData_run (hg : Geared w) (hstash : w.self.stash = some stash)
    (hpos : w.self.lastDataLength ≠ 0) (hle : w.self.lastDataLength ≤ stash.size)
    (hroom : w.self.lastDataLength.toNat + 20 ≤ w.stack.room) :
    let w₁ := w.setSelf { w.self with
      localSeq := w.self.localSeq - w.self.lastDataLength.toUInt32 }
    (resendData cb).succeeds w ∧ Transmitted cb ACK w.self.lastDataLength 0 0
      (unstashData stash w.self.lastDataLength w₁) ((resendData cb).exec w) := by
  intro w₁
  have hg₁ : Geared w₁ := ⟨hg.tcp, hg.sendBuffer, hg.stash⟩
  have hcopy := hg₁.copyFrom_run hstash hpos hle hroom
  obtain ⟨hsent, htransmitted⟩ := sendSegment_transmitted cb ACK w.self.lastDataLength 0 0
    (w := unstashData stash w.self.lastDataLength w₁) hg.tcp (fits_payload (by decide) hroom)
  have hrun : (resendData cb).run w = (sendSegment cb ACK w.self.lastDataLength 0 0).run
      (unstashData stash w.self.lastDataLength w₁) := by
    unfold resendData
    rw [Proc.run_modify_bind]
    refine (hg₁.run_buffers hstash _).trans ?_
    rw [Proc.run_read_bind]
    exact Proc.run_bind_of_some hcopy
  rw [Proc.succeeds, Proc.exec, hrun, hsent]
  exact ⟨rfl, htransmitted⟩

end Send

end Socket

end AtmegaNet
