import AtmegaNet.SocketCalls

/-!
# Sockets: the reaction to a segment

`Socket::handleSegment` is a cascade of tests that ends the call at the first one that holds.
Each block is a definition here, under what its comment in the source says, and
`handleValid` is the cascade in the order of the source.

A received segment is given by its bytes. It lies in the receive buffer, which no function of
this path writes.
-/

open Procedure

namespace AtmegaNet

namespace Socket

variable {α : Type} (cb : Callbacks α)

/-- The header size in 32-bit words: the upper half of byte 12. -/
def headerWords (buf : View) : Option UInt8 := (buf.read8 12).map fun b => b >>> (4 : UInt8)

/-- `sendSegment` of a refused segment: the reset of case 1 of RFC 793, whose numbers come
from the segment. -/
def refuse (buf : View) (opt : UInt8) (ack seq : UInt32) (w : World α) : World α :=
  if has opt ACK then (reset cb ack 0).exec w
  else (reset cb 0 (seq + buf.size.toUInt32)).exec w

/-- The MSS option of a SYN: it is looked for only if it is all the options there are. -/
def readMSS (buf : View) (tcp_header_size : UInt8) (w : World α) : World α :=
  if tcp_header_size = 6 then
    let tcpopt := (buf.readNet32 20).getD 0
    if tcpopt >>> 16 = 0x0204 then
      w.setSelf { w.self with remoteMSS := (tcpopt <<< 16 >>> 16).toUInt16 }
    else w
  else w

/-- A segment with RST. -/
def handleReset (ack seq : UInt32) (w : World α) : World α :=
  if w.self.state = SYN_SENT ∧ ack = w.self.localSeq then
    fire cb (.onReset true) (closed cb w)
  else if w.self.remoteSeq = seq then
    if w.self.state = LISTEN then w
    else if w.self.state = SYN_RECEIVED then closed cb w
    else fire cb (.onReset true) (closed cb w)
  else w

/-- Someone is trying to connect. The remote port is first read from the wrong field. -/
def passiveOpen (buf : View) (seq : UInt32) (w : World α) : World α :=
  let w := w.setSelf { w.self with remoteSeq := seq + 1 }
  match buf.readNet16 2 with
  | none => w
  | some port =>
      let w := w.setSelf { w.self with remotePort := port }
      match headerWords buf with
      | none => w
      | some tcp_header_size =>
          let w := readMSS buf tcp_header_size w
          match buf.readNet16 0 with
          | none => w
          | some port =>
              let w := w.setSelf { w.self with remotePort := port }
              let sent := (sendSegment cb (SYN ||| ACK) 0 0 0).succeeds w
              let w := (sendSegment cb (SYN ||| ACK) 0 0 0).exec w
              if sent then
                let w := setState cb SYN_RECEIVED w
                w.setSelf { w.self with attempts := 1 }
              else w

/-- A pure SYN in SYN_SENT. It is answered with an ACK only, without a SYN. -/
def simultaneousOpen (buf : View) (seq : UInt32) (w : World α) : World α :=
  let w := w.setSelf { w.self with remoteSeq := seq + 1 }
  match headerWords buf with
  | none => w
  | some tcp_header_size =>
      sendACK cb (setState cb SYN_RECEIVED (readMSS buf tcp_header_size w))

/-- The SYN+ACK that answers our SYN. -/
def activeOpen (buf : View) (seq : UInt32) (w : World α) : World α :=
  let w := w.setSelf { w.self with remoteSeq := seq + 1 }
  match headerWords buf with
  | none => w
  | some tcp_header_size =>
      setState cb ESTABLISHED (sendACK cb (readMSS buf tcp_header_size w))

/-- A FIN with payload is counted before the payload is offered. -/
def countFin (opt : UInt8) (w : World α) : World α :=
  if has opt FIN then w.setSelf { w.self with remoteSeq := w.self.remoteSeq + 1 } else w

/-- `onDataReceived`: an accepted payload sets the sequence number, without a FIN. -/
def offerPayload (seq : UInt32) (payloadSize : UInt16) (payload : Bytes) (w : World α) :
    World α :=
  if payload.length > 0 then
    let (accepted, w) := cb.onDataReceived payload w
    let w := w.observe (.received w.this payload accepted)
    if accepted then w.setSelf { w.self with
      remoteSeq := seq + payloadSize.toUInt32, stateTime := w.stack.millis }
    else w
  else w

/-- The payload of a segment in order, given what follows its header. -/
def handlePayload (opt : UInt8) (seq : UInt32) (payloadSize : UInt16) (payload : Bytes)
    (w : World α) : World α :=
  sendACK cb (offerPayload cb seq payloadSize payload
    (countFin opt (w.setSelf { w.self with recvBuffer := some payload })))

/-- A FIN without payload is acknowledged here; one with payload has been. -/
def acknowledgeFin (payloadSize : UInt16) (w : World α) : World α :=
  if payloadSize = 0 then
    sendACK cb (w.setSelf { w.self with remoteSeq := w.self.remoteSeq + 1 })
  else w

/-- The state after a FIN. -/
def finState (ack : UInt32) (w : World α) : World α :=
  if w.self.state = FIN_WAIT_1 then
    if ack = w.self.localSeq then setState cb TIME_WAIT w else setState cb CLOSING w
  else if w.self.state = FIN_WAIT_2 then setState cb TIME_WAIT w
  else if w.self.state &&& 0x0F = ESTABLISHED then setState cb CLOSE_WAIT w
  else w

/-- The FIN of a segment in order. -/
def handleFin (ack : UInt32) (payloadSize : UInt16) (w : World α) : World α :=
  fire cb .onRemoteClosed (finState cb ack (acknowledgeFin cb payloadSize w))

/-- A segment in order: its payload, then its FIN. -/
def handleInOrder (buf : Bytes) (opt : UInt8) (ack seq : UInt32) (tcp_header_size : UInt8)
    (w : World α) : World α :=
  let payloadSize := (viewOf buf).size - tcp_header_size.toUInt16 * 4
  let w :=
    if payloadSize > 0 then
      handlePayload cb opt seq payloadSize (buf.drop (tcp_header_size.toNat * 4)) w
    else w
  if has opt FIN then handleFin cb ack payloadSize w else w

/-- Our data has been acknowledged. -/
def clearAwaiting (w : World α) : World α :=
  fire cb .onReadyToSend (w.setSelf { w.self with state := w.self.state &&& 0x0F })

/-- A segment in ESTABLISHED, whether awaiting an ACK or not. -/
def handleEstablished (buf : Bytes) (opt : UInt8) (ack seq : UInt32) (w : World α) :
    World α :=
  if !has opt ACK then w
  else
    let clearAck := ack = w.self.localSeq ∧ has w.self.state AWAITING_ACK
    if seq ≠ w.self.remoteSeq then sendACK cb w
    else match headerWords (viewOf buf) with
      | none => w
      | some tcp_header_size =>
          let w := handleInOrder cb buf opt ack seq tcp_header_size w
          if clearAck then clearAwaiting cb w else w

/-- An ACK of everything sent, outside ESTABLISHED and SYN_SENT. -/
def handleAck (w : World α) : World α :=
  if w.self.state = SYN_RECEIVED then setState cb ESTABLISHED w
  else if w.self.state = FIN_WAIT_1 then setState cb FIN_WAIT_2 w
  else if w.self.state = CLOSING then setState cb TIME_WAIT w
  else if w.self.state = LAST_ACK then closed cb w
  else w

/-- A state the source calls synchronized; ESTABLISHED counts only without AWAITING_ACK. -/
def synchronized (state : UInt8) : Bool :=
  state == ESTABLISHED || state == FIN_WAIT_1 || state == FIN_WAIT_2 || state == CLOSE_WAIT ||
    state == CLOSING || state == LAST_ACK || state == TIME_WAIT

/-- `Socket::handleSegment` from the point on where the checksum was found to be right. -/
def handleValid (buf : Bytes) (opt : UInt8) (ack seq : UInt32) (w : World α) : World α :=
  if w.self.state = CLOSED ∧ ¬ has opt RST then refuse cb (viewOf buf) opt ack seq w
  else if w.self.state = LISTEN ∧ ¬ has opt SYN ∧ ¬ has opt RST then
    refuse cb (viewOf buf) opt ack seq w
  else if (w.self.state = LISTEN ∨ w.self.state = SYN_SENT ∨ w.self.state = SYN_RECEIVED) ∧
      has opt ACK ∧ ack > w.self.localSeq then (reset cb ack 0).exec w
  else if synchronized w.self.state ∧ has opt ACK ∧ ack > w.self.localSeq then sendACK cb w
  else if synchronized w.self.state ∧ seq > w.self.remoteSeq then sendACK cb w
  else if has opt RST then handleReset cb ack seq w
  else if w.self.state = LISTEN ∧ opt = SYN then passiveOpen cb (viewOf buf) seq w
  else if w.self.state = SYN_SENT ∧ opt = SYN then simultaneousOpen cb (viewOf buf) seq w
  else if w.self.state = SYN_SENT ∧ opt = ACK ||| SYN ∧ ack = w.self.localSeq then
    activeOpen cb (viewOf buf) seq w
  else if w.self.state &&& 0x0F = ESTABLISHED then handleEstablished cb buf opt ack seq w
  else if has opt ACK ∧ ack = w.self.localSeq then handleAck cb w
  else forceClose cb w

/-- The checksum test of `handleSegment`: the field holds what the bytes around it sum to. -/
def checksumOk (buf : Bytes) (localIP remoteIP : IPAddr) : Bool :=
  (viewOf buf).readNet16 16 ==
    some (calcChecksum (viewOf buf) (viewOf buf).size localIP remoteIP)

/-- What a segment changes before its checksum is tested: the window, and in LISTEN a SYN sets
the remote address. -/
def takeNote (sourceIP : IPAddr) (opt : UInt8) (window : UInt16) (w : World α) : World α :=
  w.setSelf { w.self with
    remoteWindow := window
    remoteIP := if w.self.state = LISTEN ∧ opt = SYN then sourceIP else w.self.remoteIP }

/-- `Socket::handleSegment` -/
def handleSegment (sourceIP : IPAddr) (buf : Bytes) (w : World α) : World α :=
  let w := w.setSelf { w.self with recvBuffer := some [] }
  match (viewOf buf).read8 13, (viewOf buf).readNet32 8, (viewOf buf).readNet32 4,
      (viewOf buf).readNet16 14 with
  | some opt, some ack, some seq, some window =>
      let w := takeNote sourceIP opt window w
      if w.self.tcp.isNone then w.observe .nullDereference
      else if checksumOk buf w.stack.ip.ipAddress w.self.remoteIP then
        handleValid cb buf opt ack seq w
      else w
  | _, _, _, _ => w

/-! ### The fields of a segment -/

/-- The control bits of a segment. -/
def segControl (buf : Bytes) : UInt8 := ((viewOf buf).read8 13).getD 0

/-- The acknowledgement number of a segment. -/
def segAck (buf : Bytes) : UInt32 := ((viewOf buf).readNet32 8).getD 0

/-- The sequence number of a segment. -/
def segSeq (buf : Bytes) : UInt32 := ((viewOf buf).readNet32 4).getD 0

/-- The window of a segment. -/
def segWindow (buf : Bytes) : UInt16 := ((viewOf buf).readNet16 14).getD 0

/-- The header size of a segment, in words. -/
def segWords (buf : Bytes) : UInt8 := (headerWords (viewOf buf)).getD 0

/-- The payload size `handleSegment` computes for a segment. -/
def segPayloadSize (buf : Bytes) : UInt16 := (viewOf buf).size - (segWords buf).toUInt16 * 4

/-- The payload of a segment: what follows its header. -/
def segPayload (buf : Bytes) : Bytes := buf.drop ((segWords buf).toNat * 4)

/-- A socket that has taken note of a segment. -/
def arrive (sourceIP : IPAddr) (buf : Bytes) (w : World α) : World α :=
  takeNote sourceIP (segControl buf) (segWindow buf)
    (w.setSelf { w.self with recvBuffer := some [] })

theorem isSome_read_viewOf {buf : Bytes} {start len : UInt16} :
    ((viewOf buf).read start len).isSome ↔ start + len ≤ Buffer.lengthOf buf := by
  show (if start + len > Buffer.lengthOf buf then none else some _).isSome = true ↔ _
  by_cases h : start + len > Buffer.lengthOf buf
  · rw [if_pos h]
    exact iff_of_false (by simp) (UInt16.not_le.mpr h)
  · rw [if_neg h]
    exact iff_of_true rfl (UInt16.not_lt.mp h)

/-- Every read of a segment below its checksum succeeds if that of the checksum does. -/
theorem isSome_read_of_checksumOk {buf : Bytes} {localIP remoteIP : IPAddr}
    (h : checksumOk buf localIP remoteIP) {start len : UInt16} (hle : start + len ≤ 18) :
    ((viewOf buf).read start len).isSome := by
  have h16 : ((viewOf buf).readNet16 16).isSome := by
    rw [checksumOk, beq_iff_eq] at h
    rw [h]
    rfl
  rw [View.readNet16, Option.isSome_map, View.read16, Option.isSome_map,
    isSome_read_viewOf] at h16
  exact isSome_read_viewOf.mpr (UInt16.le_trans hle h16)

theorem eq_some_getD {β : Type} {o : Option β} (h : o.isSome) (d : β) : o = some (o.getD d) := by
  obtain ⟨x, rfl⟩ := Option.isSome_iff_exists.mp h
  rfl

section Fields

variable {buf : Bytes} {localIP remoteIP : IPAddr}

theorem read_segControl (h : checksumOk buf localIP remoteIP) :
    (viewOf buf).read8 13 = some (segControl buf) := by
  have hread := isSome_read_of_checksumOk h (by decide : (13 : UInt16) + 1 ≤ 18)
  exact eq_some_getD
    (by rwa [View.read8, Option.isSome_map]) 0

theorem read_segAck (h : checksumOk buf localIP remoteIP) :
    (viewOf buf).readNet32 8 = some (segAck buf) := by
  have hread := isSome_read_of_checksumOk h (by decide : (8 : UInt16) + 4 ≤ 18)
  exact eq_some_getD
    (by rwa [View.readNet32, Option.isSome_map, View.read32, Option.isSome_map]) 0

theorem read_segSeq (h : checksumOk buf localIP remoteIP) :
    (viewOf buf).readNet32 4 = some (segSeq buf) := by
  have hread := isSome_read_of_checksumOk h (by decide : (4 : UInt16) + 4 ≤ 18)
  exact eq_some_getD
    (by rwa [View.readNet32, Option.isSome_map, View.read32, Option.isSome_map]) 0

theorem read_segWindow (h : checksumOk buf localIP remoteIP) :
    (viewOf buf).readNet16 14 = some (segWindow buf) := by
  have hread := isSome_read_of_checksumOk h (by decide : (14 : UInt16) + 2 ≤ 18)
  exact eq_some_getD
    (by rwa [View.readNet16, Option.isSome_map, View.read16, Option.isSome_map]) 0

theorem read_segWords (h : checksumOk buf localIP remoteIP) :
    headerWords (viewOf buf) = some (segWords buf) := by
  have hread := isSome_read_of_checksumOk h (by decide : (12 : UInt16) + 1 ≤ 18)
  exact eq_some_getD
    (by rwa [headerWords, Option.isSome_map, View.read8, Option.isSome_map]) 0

end Fields

/-- A segment with the right checksum goes through the cascade. -/
theorem handleSegment_valid {sourceIP : IPAddr} {buf : Bytes} {w : World α}
    (htcp : w.self.tcp.isSome)
    (hsum : checksumOk buf w.stack.ip.ipAddress (arrive sourceIP buf w).self.remoteIP) :
    handleSegment cb sourceIP buf w =
      handleValid cb buf (segControl buf) (segAck buf) (segSeq buf) (arrive sourceIP buf w) := by
  have hnone : ¬ (arrive sourceIP buf w).self.tcp.isNone = true := by
    rw [Option.isNone_iff_eq_none]
    exact Option.isSome_iff_ne_none.mp htcp
  unfold handleSegment
  rw [read_segControl hsum, read_segAck hsum, read_segSeq hsum, read_segWindow hsum]
  exact (if_neg hnone).trans (if_pos hsum)

/-- Any other segment changes nothing but what the socket notes of it. -/
theorem handleSegment_invalid {sourceIP : IPAddr} {buf : Bytes} {w : World α}
    (htcp : w.self.tcp.isSome)
    (hsum : ¬ checksumOk buf w.stack.ip.ipAddress (arrive sourceIP buf w).self.remoteIP) :
    handleSegment cb sourceIP buf w = w.setSelf { w.self with recvBuffer := some [] } ∨
      handleSegment cb sourceIP buf w = arrive sourceIP buf w := by
  unfold handleSegment
  split
  case h_2 => exact .inl rfl
  case h_1 opt ack seq window hopt hack hseq hwindow =>
    have harrive : arrive sourceIP buf w =
        takeNote sourceIP opt window (w.setSelf { w.self with recvBuffer := some [] }) := by
      rw [arrive, segControl, segWindow, hopt, hwindow]
      rfl
    rw [harrive] at hsum ⊢
    have hnone : ¬ (takeNote sourceIP opt window
        (w.setSelf { w.self with recvBuffer := some [] })).self.tcp.isNone = true := by
      rw [Option.isNone_iff_eq_none]
      exact Option.isSome_iff_ne_none.mp htcp
    exact .inr ((if_neg hnone).trans (if_neg hsum))

end Socket

end AtmegaNet
