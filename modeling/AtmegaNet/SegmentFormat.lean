import AtmegaNet.SendSegment
import AtmegaNet.TCPHandler
import AtmegaNet.Protocol

/-!
# The wire format of a segment

What `handleSegment` reads at its field offsets in a segment that `sendSegment` wrote.

## Main results

* `readNet16_segment` and its siblings: every header field is read back as it was written.
* `checksumOk_packetOf`: the peer, with the two addresses swapped, finds the checksum right.
* `sendSegment_readsBack_iff`: a segment without FIN always reads back as it was meant. A FIN
  does if and only if the send buffer happens to hold the right data offset, since the FIN
  branch of `sendSegment` does not write it.
-/

open Procedure

namespace AtmegaNet

/-! ### Reading the fields back -/

section Fields

variable {lp rp : UInt16} {seq ack : UInt32} {offset control : UInt8} {window sum : UInt16}
  {option payload : Bytes}

/-- A segment short enough for a 16-bit length shows its bytes. -/
theorem shows_segment (hlen : (segmentBytes lp rp seq ack offset control window sum option
    payload).length < 65536) :
    (viewOf (segmentBytes lp rp seq ack offset control window sum option payload)).Shows
      (fun i => (segmentBytes lp rp seq ack offset control window sum option payload).getD i 0)
      (segmentBytes lp rp seq ack offset control window sum option payload).length :=
  shows_viewOf hlen

variable (hlen : (segmentBytes lp rp seq ack offset control window sum option
    payload).length < 65536)

include hlen

/-- The receiver reads the source port. -/
theorem segment_sourcePort :
    (viewOf (segmentBytes lp rp seq ack offset control window sum option payload)).readNet16 0 =
      some lp := by
  rw [(shows_segment hlen).readNet16 (by simp; omega)]
  exact congrArg (fun x => some (NTOHS x)) (word16_bytesOf16 (HTONS lp)) |>.trans
    (by rw [NTOHS_HTONS])

/-- It reads the destination port. -/
theorem segment_destPort :
    (viewOf (segmentBytes lp rp seq ack offset control window sum option payload)).readNet16 2 =
      some rp := by
  rw [(shows_segment hlen).readNet16 (by simp; omega)]
  exact congrArg (fun x => some (NTOHS x)) (word16_bytesOf16 (HTONS rp)) |>.trans
    (by rw [NTOHS_HTONS])

/-- It reads the sequence number. -/
theorem segment_seq :
    (viewOf (segmentBytes lp rp seq ack offset control window sum option payload)).readNet32 4 =
      some seq := by
  rw [(shows_segment hlen).readNet32 (by simp; omega)]
  exact congrArg (fun x => some (NTOHL x)) (word32_bytesOf32 (HTONL seq)) |>.trans
    (by rw [NTOHL_HTONL])

/-- It reads the acknowledgement number. -/
theorem segment_ack :
    (viewOf (segmentBytes lp rp seq ack offset control window sum option payload)).readNet32 8 =
      some ack := by
  rw [(shows_segment hlen).readNet32 (by simp; omega)]
  exact congrArg (fun x => some (NTOHL x)) (word32_bytesOf32 (HTONL ack)) |>.trans
    (by rw [NTOHL_HTONL])

/-- It reads the length of the header from the offset byte. -/
theorem segment_headerWords :
    Socket.headerWords
      (viewOf (segmentBytes lp rp seq ack offset control window sum option payload)) =
      some (offset >>> 4) := by
  rw [Socket.headerWords, (shows_segment hlen).read8 (by simp; omega)]
  rfl

/-- It reads the control bits. -/
theorem segment_control :
    (viewOf (segmentBytes lp rp seq ack offset control window sum option payload)).read8 13 =
      some control := by
  rw [(shows_segment hlen).read8 (by simp; omega)]
  rfl

/-- It reads the window. -/
theorem segment_window :
    (viewOf (segmentBytes lp rp seq ack offset control window sum option payload)).readNet16
      14 = some window := by
  rw [(shows_segment hlen).readNet16 (by simp; omega)]
  exact congrArg (fun x => some (NTOHS x)) (word16_bytesOf16 (HTONS window)) |>.trans
    (by rw [NTOHS_HTONS])

/-- It reads the checksum. -/
theorem segment_checksum :
    (viewOf (segmentBytes lp rp seq ack offset control window sum option payload)).readNet16
      16 = some sum := by
  rw [(shows_segment hlen).readNet16 (by simp; omega)]
  exact congrArg (fun x => some (NTOHS x)) (word16_bytesOf16 (HTONS sum)) |>.trans
    (by rw [NTOHS_HTONS])

omit hlen in
/-- Behind header and option lies the payload. -/
theorem segment_drop :
    (segmentBytes lp rp seq ack offset control window sum option payload).drop
      (20 + option.length) = payload := by
  rw [segmentBytes, List.drop_left']
  simp
  omega

end Fields

namespace Socket

variable {α : Type} {cb : Callbacks α} {control : UInt8} {length : UInt16} {seq ack : UInt32}
  {w : World α}

/-- The two ends compute the same checksum. -/
theorem calcChecksum_comm (v : View) (len : UInt16) (a b : IPAddr) :
    calcChecksum v len a b = calcChecksum v len b a := by
  rw [calcChecksum, calcChecksum, UInt32.add_assoc, UInt32.add_comm a.words, ← UInt32.add_assoc]

/-- A packet sent is head, checksum, and the rest. -/
theorem packetOf_eq (sum : UInt16) : packetOf cb control length seq ack sum w =
    headOf cb control seq ack w ++ [(HTONS sum).toUInt8, (HTONS sum >>> 8).toUInt8] ++
      ((bytesOf16 (HTONS 0) ++ optionBytes control w.stack) ++
        payloadOf control length w.stack) := by
  rw [packetOf, segmentBytes, List.append_assoc]
  rfl

/-- The length of a packet sent, where it does not wrap. -/
theorem toNat_lengthOf_packetOf
    (hfit : length.toNat + 20 + (optionBytes control w.stack).length < 65536) (sum : UInt16) :
    (Buffer.lengthOf (packetOf cb control length seq ack sum w)).toNat =
      length.toNat + 20 + (optionBytes control w.stack).length := by
  rw [Buffer.toNat_lengthOf (by rw [length_packetOf]; omega), length_packetOf]

/-- The checksum does not change the length. -/
theorem lengthOf_packetOf (sum sum' : UInt16) :
    Buffer.lengthOf (packetOf cb control length seq ack sum w) =
      Buffer.lengthOf (packetOf cb control length seq ack sum' w) := by
  rw [Buffer.lengthOf, Buffer.lengthOf, length_packetOf, length_packetOf]

/-- What a segment's checksum field holds does not enter its checksum. -/
theorem checksum_packetOf
    (hfit : length.toNat + 20 + (optionBytes control w.stack).length < 65536)
    (sum : UInt16) (pseudo : UInt32) :
    (viewOf (packetOf cb control length seq ack sum w)).checksum
      (Buffer.lengthOf (packetOf cb control length seq ack sum w)) 16 pseudo =
        (viewOf (packetOf cb control length seq ack 0 w)).checksum
          (Buffer.lengthOf (packetOf cb control length seq ack 0 w)) 16 pseudo := by
  have hlen : (Buffer.lengthOf (packetOf cb control length seq ack sum w)).toNat = _ :=
    toNat_lengthOf_packetOf hfit sum
  have hshows : (viewOf (packetOf cb control length seq ack sum w)).Shows _ _ :=
    shows_viewOf (by rw [length_packetOf]; omega)
  rw [length_packetOf, ← hlen] at hshows
  rw [← lengthOf_packetOf sum 0]
  have hlen' : _ = (packetOf cb control length seq ack sum w).length :=
    hlen.trans (length_packetOf sum).symm
  have hsize : (viewOf (packetOf cb control length seq ack sum w)).size =
      Buffer.lengthOf (packetOf cb control length seq ack sum w) := rfl
  generalize Buffer.lengthOf (packetOf cb control length seq ack sum w) = len
    at hlen' hshows hsize ⊢
  rw [packetOf_eq sum] at hlen' hshows hsize ⊢
  rw [packetOf_eq 0]
  exact checksum_segment pseudo length_headOf hlen' (UInt16.le_of_eq hsize.symm) hshows
    fun _ _ => rfl

/-- The peer finds the checksum of a segment right. -/
theorem checksumOk_packetOf
    (hfit : length.toNat + 20 + (optionBytes control w.stack).length < 65536) :
    checksumOk (packetOf cb control length seq ack (checksumOf cb control length seq ack w) w)
      w.self.remoteIP w.stack.ip.ipAddress := by
  generalize hc : checksumOf cb control length seq ack w = sum
  have hread : (viewOf (packetOf cb control length seq ack sum w)).readNet16 16 = some sum :=
    segment_checksum (by rw [← packetOf, length_packetOf]; omega)
  have hsum : calcChecksum (viewOf (packetOf cb control length seq ack sum w))
      (Buffer.lengthOf (packetOf cb control length seq ack sum w)) w.stack.ip.ipAddress
      w.self.remoteIP = sum := by
    rw [calcChecksum, checksum_packetOf hfit, lengthOf_packetOf sum 0, ← calcChecksum, ← hc,
      checksumOf]
  have hsize : (viewOf (packetOf cb control length seq ack sum w)).size =
      Buffer.lengthOf (packetOf cb control length seq ack sum w) := rfl
  rw [checksumOk, hread, hsize, calcChecksum_comm, hsum]
  simp

section Fields

variable (hfit : length.toNat + 20 + (optionBytes control w.stack).length < 65536)
  {sum : UInt16}

include hfit

/-- A packet sent has the control bits that were asked for. -/
theorem segControl_packetOf :
    segControl (packetOf cb control length seq ack sum w) = control :=
  congrArg (Option.getD · 0) (segment_control (by rw [← packetOf, length_packetOf]; exact hfit))

/-- It has the sequence number asked for, or that of the socket. -/
theorem segSeq_packetOf :
    segSeq (packetOf cb control length seq ack sum w) = seqOf control seq w.self :=
  congrArg (Option.getD · 0) (segment_seq (by rw [← packetOf, length_packetOf]; exact hfit))

/-- It has the acknowledgement number asked for, or that of the socket. -/
theorem segAck_packetOf :
    segAck (packetOf cb control length seq ack sum w) = ackOf control ack w.self :=
  congrArg (Option.getD · 0) (segment_ack (by rw [← packetOf, length_packetOf]; exact hfit))

/-- Its header length is what the offset byte said. -/
theorem segWords_packetOf :
    segWords (packetOf cb control length seq ack sum w) = offsetByte control w.stack >>> 4 :=
  congrArg (Option.getD · 0)
    (segment_headerWords (by rw [← packetOf, length_packetOf]; exact hfit))

end Fields

/-! ### The round trip -/

/-- The controls a socket sends without payload, or with. -/
def sentControls : List UInt8 :=
  [SYN, SYN ||| ACK, ACK, ACK ||| PSH, FIN ||| ACK, RST, RST ||| ACK]

/-- A segment reads back, at the offsets of `handleSegment`, as it was meant: the ports, the
numbers, the flags and the window, a data offset that is the length of the header, the payload
behind it, and a checksum that the peer finds right. -/
structure ReadsBack (cb : Callbacks α) (control : UInt8) (length : UInt16) (seq ack : UInt32)
    (w : World α) (packet : Bytes) : Prop where
  sourcePort : (viewOf packet).readNet16 0 = some w.self.localPort
  destPort : (viewOf packet).readNet16 2 = some w.self.remotePort
  seq : (viewOf packet).readNet32 4 = some (seqOf control seq w.self)
  ack : (viewOf packet).readNet32 8 = some (ackOf control ack w.self)
  dataOffset : headerWords (viewOf packet) =
    some (UInt8.ofNat ((20 + (optionBytes control w.stack).length) / 4))
  flags : (viewOf packet).read8 13 = some control
  window : (viewOf packet).readNet16 14 = some (getWindowSize cb w)
  payload : (headerWords (viewOf packet)).map (fun words => packet.drop (words.toNat * 4)) =
    some (Region.read w.stack.mem .send 54 length.toNat)
  checksum : checksumOk packet w.self.remoteIP w.stack.ip.ipAddress

/-- The data offset is right on every branch but that of FIN, where it is what the send buffer
holds. -/
theorem offsetByte_eq_iff (hc : control ∈ sentControls) (h : Stack) :
    offsetByte control h >>> 4 = UInt8.ofNat ((20 + (optionBytes control h).length) / 4) ↔
      (has control FIN → h.mem .send 46 >>> 4 = 5) := by
  have hsyn : has control SYN → ¬ has control FIN := by
    revert control
    decide
  by_cases hs : has control SYN
  · rw [offsetByte, optionBytes, if_pos hs, if_pos hs, length_mssOption]
    exact iff_of_true rfl fun hf => absurd hf (hsyn hs)
  · rw [offsetByte, optionBytes, if_neg hs, if_neg hs]
    by_cases hf : has control FIN
    · rw [if_pos hf]
      exact ⟨fun h _ => h, fun h => h hf⟩
    · rw [if_neg hf]
      exact iff_of_true rfl fun h => absurd h hf

/-- What the sender's callers promise about the length: there is payload only behind ACK and
ACK+PSH, and it fits. -/
def Admits (control : UInt8) (length : UInt16) (h : Stack) : Prop :=
  length = 0 ∨ (control = ACK ∨ control = ACK ||| PSH) ∧ length.toNat + 20 ≤ h.room

/-- The payload is what lies in the send buffer behind the headers. -/
theorem payloadOf_eq (hl : Admits control length w.stack) :
    payloadOf control length w.stack = Region.read w.stack.mem .send 54 length.toNat := by
  rcases hl with rfl | ⟨rfl | rfl, -⟩ <;> rfl

/-- Words of four bytes are counted right in the lengths a header can have. -/
theorem words_mul_four (h : Stack) :
    (20 + (optionBytes control h).length) / 4 * 4 = 20 + (optionBytes control h).length ∧
      (20 + (optionBytes control h).length) / 4 < 256 ∧
        (UInt8.ofNat ((20 + (optionBytes control h).length) / 4)).toUInt16 * 4 =
          UInt16.ofNat (20 + (optionBytes control h).length) := by
  unfold optionBytes
  split
  · rw [length_mssOption]
    exact ⟨rfl, by decide, rfl⟩
  · exact ⟨rfl, by decide, rfl⟩

/-- A packet is the segment a socket meant to send: its addresses, its numbers and, but for a
FIN, its payload are read from it. `leftover` is the byte a FIN leaves in the place of the data
offset. -/
structure IsSegment (s : Socket) (leftover : UInt8) (o : Sending)
    (packet : IPAddr × UInt8 × Bytes) : Prop where
  destination : packet.1 = s.remoteIP
  protocol : packet.2.1 = TCP_PROTOCOL
  sourcePort : (viewOf packet.2.2).readNet16 0 = some s.localPort
  destPort : (viewOf packet.2.2).readNet16 2 = some s.remotePort
  control : segControl packet.2.2 = o.control
  seq : segSeq packet.2.2 = o.seq
  ack : segAck packet.2.2 = o.ack
  payload : ¬ has o.control FIN →
    segPayload packet.2.2 = o.payload ∧ segPayloadSize packet.2.2 = Buffer.lengthOf o.payload
  fin : has o.control FIN → packet.2.2.length = 20 ∧ segWords packet.2.2 = leftover >>> 4

/-- A packet sent is the segment it was meant to be. -/
theorem isSegment_packetOf (hc : control ∈ sentControls) (hl : Admits control length w.stack)
    (hfit : length.toNat + 20 + (optionBytes control w.stack).length ≤ w.stack.room)
    (sum : UInt16) :
    IsSegment w.self (w.stack.mem .send 46)
      ⟨control, seqOf control seq w.self, ackOf control ack w.self,
        Region.read w.stack.mem .send 54 length.toNat⟩
      (w.self.remoteIP, TCP_PROTOCOL, packetOf cb control length seq ack sum w) := by
  have hlt : length.toNat + 20 + (optionBytes control w.stack).length < 65536 := by
    have h16 := w.stack.sendSize.toNat_lt
    have hdef : w.stack.room = w.stack.sendSize.toNat - 34 := rfl
    omega
  have hlen : (packetOf cb control length seq ack sum w).length < 65536 := by
    rw [length_packetOf]
    exact hlt
  have hwords : segWords (packetOf cb control length seq ack sum w) = _ := segWords_packetOf hlt
  refine ⟨rfl, rfl, segment_sourcePort hlen, segment_destPort hlen, segControl_packetOf hlt,
    segSeq_packetOf hlt, segAck_packetOf hlt, fun hfin => ?_, fun hfin => ?_⟩
  · obtain ⟨hfour, h256, h16⟩ := @words_mul_four control w.stack
    have hoffset := (offsetByte_eq_iff hc w.stack).mpr fun h => absurd h hfin
    rw [hoffset] at hwords
    refine ⟨?_, ?_⟩
    · show (packetOf cb control length seq ack sum w).drop
        ((segWords (packetOf cb control length seq ack sum w)).toNat * 4) = _
      rw [hwords, UInt8.toNat_ofNat_of_lt' h256, hfour, packetOf, segment_drop, payloadOf_eq hl]
    · show Buffer.lengthOf (packetOf cb control length seq ack sum w) -
        (segWords (packetOf cb control length seq ack sum w)).toUInt16 * 4 = _
      rw [hwords, h16, Buffer.lengthOf, length_packetOf, Buffer.lengthOf, Region.length_read,
        Nat.add_assoc, UInt16.ofNat_add, UInt16.add_sub_cancel]
  · have hsyn : ¬ has control SYN :=
      (by decide : ∀ c ∈ sentControls, has c FIN → ¬ has c SYN) control hc hfin
    have hzero : length = 0 := by
      rcases hl with h | ⟨h | h, -⟩
      · exact h
      · exact absurd (h ▸ hfin : has ACK FIN = true) (by decide)
      · exact absurd (h ▸ hfin : has (ACK ||| PSH) FIN = true) (by decide)
    refine ⟨?_, ?_⟩
    · show (packetOf cb control length seq ack sum w).length = 20
      rw [length_packetOf, hzero, optionBytes, if_neg hsyn]
      rfl
    · show segWords (packetOf cb control length seq ack sum w) = _
      rw [hwords, offsetByte, if_neg hsyn, if_pos hfin]

/-- The segment `sendSegment` lays out reads back if and only if its data offset is right. -/
theorem readsBack_packetOf_iff (hc : control ∈ sentControls)
    (hl : Admits control length w.stack)
    (hfit : length.toNat + 20 + (optionBytes control w.stack).length < 65536) :
    ReadsBack cb control length seq ack w
        (packetOf cb control length seq ack (checksumOf cb control length seq ack w) w) ↔
      (has control FIN → w.stack.mem .send 46 >>> 4 = 5) := by
  have hlen : (packetOf cb control length seq ack
      (checksumOf cb control length seq ack w) w).length < 65536 := by
    rw [length_packetOf]
    exact hfit
  obtain ⟨hfour, h256, -⟩ := @words_mul_four control w.stack
  rw [← offsetByte_eq_iff hc]
  refine ⟨fun h => Option.some.inj ((segment_headerWords hlen).symm.trans h.dataOffset),
    fun h => ?_⟩
  have hwords := (segment_headerWords hlen).trans (congrArg some h)
  refine ⟨segment_sourcePort hlen, segment_destPort hlen, segment_seq hlen, segment_ack hlen,
    hwords, segment_control hlen, segment_window hlen, ?_, checksumOk_packetOf hfit⟩
  rw [packetOf, hwords, Option.map_some, UInt8.toNat_ofNat_of_lt' h256, hfour,
    segment_drop, payloadOf_eq hl]

/-- The packet a successful `sendSegment` adds to the log is the segment it laid out. -/
theorem sendSegment_packet (hl : Admits control length w.stack)
    {packet : IPAddr × UInt8 × Bytes}
    (hsent : packetsOf ((sendSegment cb control length seq ack).exec w).stack.log =
      packetsOf w.stack.log ++ [packet]) :
    length.toNat + 20 + (optionBytes control w.stack).length ≤ w.stack.room ∧
      packet = (w.self.remoteIP, TCP_PROTOCOL,
        packetOf cb control length seq ack (checksumOf cb control length seq ack w) w) := by
  have hnew : packetsOf ((sendSegment cb control length seq ack).exec w).stack.log ≠
      packetsOf w.stack.log := by
    rw [hsent]
    simp
  by_cases htcp : w.self.tcp.isSome
  · by_cases hroom : length.toNat + 20 + (optionBytes control w.stack).length ≤ w.stack.room
    · refine ⟨hroom, ?_⟩
      obtain ⟨l, hlog, -, hpackets⟩ :=
        (sendSegment_transmitted cb control length seq ack htcp hroom).2.log
      rw [Proc.exec, hlog, packetsOf_append, List.append_cancel_left_eq, hpackets] at hsent
      split at hsent
      · exact (List.singleton_injective hsent).symm
      · exact absurd hsent (by simp)
    · -- without room nothing is sent
      have hzero : length = 0 := by
        rcases hl with h | ⟨rfl | rfl, h⟩
        · exact h
        · exact absurd h hroom
        · exact absurd h hroom
      subst hzero
      have hshort := (sendSegment_short cb control seq ack w htcp (by simpa using hroom)).2
      rw [Proc.exec, hshort.rest] at hnew
      exact absurd rfl hnew
  · have hnone : w.self.tcp.isNone = true := by simpa using htcp
    unfold sendSegment at hnew
    rw [Proc.exec, Proc.run_read_bind, if_pos hnone] at hnew
    exact absurd (by simp [World.observe, packetsOf]) hnew

/-- A segment that is sent reads back as it was meant if and only if it has no FIN, or the byte
of the send buffer that the FIN branch does not write holds the right data offset already. -/
theorem sendSegment_readsBack_iff {α : Type} (cb : Callbacks α) {control : UInt8}
    (hc : control ∈ sentControls) {length : UInt16} (seq ack : UInt32) {w : World α}
    (hl : Admits control length w.stack) {destinationIP : IPAddr} {protocol : UInt8}
    {packet : Bytes}
    (hsent : packetsOf ((sendSegment cb control length seq ack).exec w).stack.log =
      packetsOf w.stack.log ++ [(destinationIP, protocol, packet)]) :
    (destinationIP = w.self.remoteIP ∧ protocol = TCP_PROTOCOL ∧
        ReadsBack cb control length seq ack w packet) ↔
      (has control FIN → w.stack.mem .send 46 >>> 4 = 5) := by
  obtain ⟨hroom, hpacket⟩ := sendSegment_packet hl hsent
  obtain ⟨rfl, rfl, rfl⟩ := Prod.mk.inj hpacket |>.imp_right Prod.mk.inj
  have hfit : length.toNat + 20 + (optionBytes control w.stack).length < 65536 := by
    have h16 := w.stack.sendSize.toNat_lt
    have hdef : w.stack.room = w.stack.sendSize.toNat - 34 := rfl
    omega
  rw [readsBack_packetOf_iff hc hl hfit]
  exact and_iff_right rfl |>.trans (and_iff_right rfl)

/-- A payload of three bytes, sent on the listener's connection. -/
theorem sendSegment_readsBack_iff_data :
    ReadsBack exampleApp (ACK ||| PSH) 3 0 0 exampleServer
      [0, 80, 192, 0, 0, 0, 0, 12, 0, 0, 0, 8, 80, 24, 0, 42, 217, 52, 0, 0, 2, 4, 0] :=
  ((sendSegment_readsBack_iff exampleApp (by decide : ACK ||| PSH ∈ sentControls) 0 0
    (.inr ⟨.inr rfl, by decide +kernel⟩)
    (by decide +kernel : _ = packetsOf exampleServer.stack.log ++ [(⟨10, 0, 0, 1⟩, 6, _)])).mpr
      (by decide)).2.2

/-- The listener accepts a connection and closes it at once. What lies in the send buffer is
its SYN+ACK, so its FIN claims a header of six words and has only five. -/
theorem finAfterSynAck_not_readsBack :
    packetsOf ((close exampleApp).exec exampleServer).stack.log =
        packetsOf exampleServer.stack.log ++ [(⟨10, 0, 0, 1⟩, 6,
          [0, 80, 192, 0, 0, 0, 0, 12, 0, 0, 0, 8, 96, 17, 0, 42, 203, 66, 0, 0])] ∧
      ¬ ReadsBack exampleApp (FIN ||| ACK) 0 0 0 exampleServer
        [0, 80, 192, 0, 0, 0, 0, 12, 0, 0, 0, 8, 96, 17, 0, 42, 203, 66, 0, 0] := by
  refine ⟨by decide +kernel, fun h => ?_⟩
  exact absurd h.dataOffset (by decide +kernel)

end Socket

end AtmegaNet
