import AtmegaNet.HandleSegment

/-!
# What `sendSegment` does

`sendSegment` writes a TCP header into the send buffer, in front of the payload that lies
there, and hands the packet to `IPHandler::sendPacket`, or asks for a route. This module
executes it once; everything after it reasons on the results.

## Main results

* `sendSegment_run`, `sendSegment_noRoute`: with room for the header, a segment is sent if
  there is a route and lost if there is none, and the socket advances alike.
* `sendSegment_short`: without room for the header nothing is sent.
* `Transmitted`: what the callers need of the two.
-/

open Procedure

namespace AtmegaNet

/-! ### The bytes of a segment -/

/-- The first 16 bytes of a TCP header: up to the checksum. -/
def segmentHead (sourcePort destPort : UInt16) (seq ack : UInt32) (offset control : UInt8)
    (window : UInt16) : Bytes :=
  bytesOf16 (HTONS sourcePort) ++ bytesOf16 (HTONS destPort) ++ bytesOf32 (HTONL seq) ++
    bytesOf32 (HTONL ack) ++ [offset] ++ [control] ++ bytesOf16 (HTONS window)

/-- A TCP segment: the header, the option of a SYN, the payload. -/
def segmentBytes (sourcePort destPort : UInt16) (seq ack : UInt32) (offset control : UInt8)
    (window checksum : UInt16) (option payload : Bytes) : Bytes :=
  segmentHead sourcePort destPort seq ack offset control window ++
    bytesOf16 (HTONS checksum) ++ (bytesOf16 (HTONS 0) ++ option) ++ payload

/-- The option of a SYN. -/
def mssOption (mss : UInt16) : Bytes := [0x02] ++ [0x04] ++ bytesOf16 (HTONS mss)

/-- The header up to the checksum has 16 bytes. -/
@[simp] theorem length_segmentHead (lp rp : UInt16) (seq ack : UInt32) (offset control : UInt8)
    (window : UInt16) : (segmentHead lp rp seq ack offset control window).length = 16 := rfl

/-- The MSS option has four bytes. -/
@[simp] theorem length_mssOption (mss : UInt16) : (mssOption mss).length = 4 := rfl

/-- A segment is its header, its option and its payload. -/
@[simp] theorem length_segmentBytes (lp rp : UInt16) (seq ack : UInt32)
    (offset control : UInt8) (window checksum : UInt16) (option payload : Bytes) :
    (segmentBytes lp rp seq ack offset control window checksum option payload).length =
      20 + option.length + payload.length := by
  simp [segmentBytes]
  omega

namespace Socket

variable {α : Type} (cb : Callbacks α)

/-- The data offset byte of a segment: the FIN branch leaves the byte that is there. -/
def offsetByte (control : UInt8) (h : Stack) : UInt8 :=
  if has control SYN then 0x60 else if has control FIN then h.mem .send 46 else 0x50

/-- The option of a segment. -/
def optionBytes (control : UInt8) (h : Stack) : Bytes :=
  if has control SYN then mssOption h.getMaxSegmentSize else []

/-- How a socket advances when it sends a segment. -/
def advance (control : UInt8) (length : UInt16) (s : Socket) : Socket :=
  if has control SYN ∨ has control FIN then { s with localSeq := s.localSeq + 1 }
  else if length > 0 then { s with
    state := s.state ||| AWAITING_ACK
    lastDataLength := length
    localSeq := s.localSeq + length.toUInt32 }
  else s

/-- The sequence number of a segment: that of the socket, unless it is a reset. -/
def seqOf (control : UInt8) (seq : UInt32) (s : Socket) : UInt32 :=
  if has control RST then seq else s.localSeq

/-- The acknowledgement number of a segment. -/
def ackOf (control : UInt8) (ack : UInt32) (s : Socket) : UInt32 :=
  if has control RST then ack else s.remoteSeq

/-- The first 16 bytes of the segment a socket sends. -/
def headOf (control : UInt8) (seq ack : UInt32) (w : World α) : Bytes :=
  segmentHead w.self.localPort w.self.remotePort (seqOf control seq w.self)
    (ackOf control ack w.self) (offsetByte control w.stack) control (getWindowSize cb w)

/-! ### Preparing a segment -/

end Socket

/-- Write `d` at address `a` of the send buffer. -/
def World.put {α : Type} (w : World α) (a : ℕ) (d : Bytes) : World α :=
  { w with stack := w.stack.put a d }

namespace World

variable {α : Type} (w : World α)

/-- Writing leaves the socket alone. -/
@[simp] theorem self_put (a : ℕ) (d : Bytes) : (w.put a d).self = w.self := rfl

/-- Writing is writing to the stack. -/
@[simp] theorem stack_put (a : ℕ) (d : Bytes) : (w.put a d).stack = w.stack.put a d := rfl

/-- Writing leaves the segment size alone. -/
@[simp] theorem getMaxSegmentSize_put (h : Stack) (a : ℕ) (d : Bytes) :
    (h.put a d).getMaxSegmentSize = h.getMaxSegmentSize := rfl

/-- Changing the socket and writing commute. -/
theorem setSelf_put (s : Socket) (a : ℕ) (d : Bytes) :
    (w.setSelf s).put a d = (w.put a d).setSelf s := rfl

/-- Consecutive writes are one write. -/
theorem put_put (a : ℕ) (d e : Bytes) :
    (w.put a d).put (a + d.length) e = w.put a (d ++ e) := by
  rw [put, put, put, Stack.put_put]

/-- Disjoint writes commute. -/
theorem put_comm {a b : ℕ} {d e : Bytes} (hd : a + d.length ≤ b ∨ b + e.length ≤ a) :
    (w.put a d).put b e = (w.put b e).put a d := by
  rw [put, put, put, put, Stack.put_comm _ hd]

/-- A byte written over itself changes nothing. -/
theorem put_mem_self (a : ℕ) : w.put a [w.stack.mem .send a] = w := by
  have hread : [w.stack.mem .send a] = Region.read w.stack.mem .send a 1 := by
    simp [Region.read]
  rw [put, hread, Stack.put, Region.write_read_self]

/-- Writing nothing changes nothing. -/
theorem put_nil (a : ℕ) : w.put a [] = w := by
  rw [put, Stack.put, Region.write_nil]

/-- Writes through the window for IP payloads, which the size of the send buffer fixes. -/
theorem onMem_write {start : UInt16} {data : Bytes} {h : Stack} {a : ℕ}
    (hs : 34 ≤ h.sendSize.toNat) (hin : start.toNat + data.length ≤ h.room)
    (ha : a = 34 + start.toNat) :
    (onMem (h.ipPayload.write start data)).run w = (some (), w.put a data) := by
  rw [ha, onMem, onStack, Proc.run_zoom,
    Stack.onMem_write h.fits_ipPayload h.root_ipPayload w.stack
      (by rw [h.toNat_size_ipPayload]; exact hin), h.base_ipPayload hs, put]

end World

namespace Socket

/-- The world when the segment lies in the send buffer, its checksum apart. -/
def prepared {α : Type} (cb : Callbacks α) (control : UInt8) (length : UInt16)
    (seq ack : UInt32) (w : World α) : World α :=
  ((w.put 34 (headOf cb control seq ack w)).put 52
    (bytesOf16 (HTONS 0) ++ optionBytes control w.stack)).setSelf
      (advance control length w.self)

section Prepare

variable {α : Type} {cb : Callbacks α} {control : UInt8} {length : UInt16}

/-- Writing leaves the window alone. -/
@[simp] theorem getWindowSize_put (w : World α) (a : ℕ) (d : Bytes) :
    getWindowSize cb (w.put a d) = getWindowSize cb w := rfl

/-- The window does not depend on the socket. -/
@[simp] theorem getWindowSize_setSelf (w : World α) (s : Socket) :
    getWindowSize cb (w.setSelf s) = getWindowSize cb w := rfl

/-- What the part that differs between the control kinds leaves: the data offset, the option,
and the socket advanced. -/
theorem writeControl_run {h : Stack} (w : World α) (hs : 34 ≤ h.sendSize.toNat)
    (hroom : 20 + (optionBytes control w.stack).length ≤ h.room) :
    (writeControl h.ipPayload control length).run w =
      (some (UInt8.ofNat (optionBytes control w.stack).length),
        ((w.put 46 [offsetByte control w.stack]).put 54 (optionBytes control w.stack)).setSelf
          (advance control length w.self)) := by
  unfold writeControl
  by_cases hsyn : has control SYN
  · have hopt : optionBytes control w.stack = mssOption w.stack.getMaxSegmentSize := by
      rw [optionBytes, if_pos hsyn]
    have hmss : (((w.put 46 [0x60]).put 54 [0x02]).put 55 [0x04]).put 56
        (bytesOf16 (HTONS w.stack.getMaxSegmentSize)) =
          (w.put 46 [0x60]).put 54 (mssOption w.stack.getMaxSegmentSize) := by
      simp only [mssOption, ← World.put_put, List.length_append, List.length_cons,
        List.length_nil, Nat.reduceAdd]
    rw [hopt, length_mssOption] at hroom
    simp only [if_pos hsyn, Buffer.write8, Buffer.writeNet16, Buffer.write16]
    rw [Proc.run_bind_of_some (w.onMem_write (a := 46) hs (by simp; omega) rfl),
      Proc.run_bind_of_some (World.onMem_write _ (a := 54) hs (by simp; omega) rfl),
      Proc.run_bind_of_some (World.onMem_write _ (a := 55) hs (by simp; omega) rfl),
      Proc.run_read_bind,
      Proc.run_bind_of_some (World.onMem_write _ (a := 56) hs (by simp; omega) rfl),
      Proc.run_modify_bind, Proc.run_pure, hopt, offsetByte, if_pos hsyn]
    simp only [World.stack_put, World.getMaxSegmentSize_put]
    rw [← hmss, advance, if_pos (.inl hsyn)]
    rfl
  · have hopt : optionBytes control w.stack = [] := by rw [optionBytes, if_neg hsyn]
    rw [hopt] at hroom ⊢
    rw [if_neg hsyn, offsetByte, if_neg hsyn, World.put_nil]
    by_cases hfin : has control FIN
    · rw [if_pos hfin, if_pos hfin, Proc.run_modify_bind, Proc.run_pure, advance,
        if_pos (.inr hfin), World.put_mem_self]
      rfl
    · have hneg : ¬ (has control SYN = true ∨ has control FIN = true) := by simp [hsyn, hfin]
      rw [if_neg hfin, if_neg hfin, Buffer.write8,
        Proc.run_bind_of_some (w.onMem_write (a := 46) hs (by simp at hroom ⊢; omega) rfl),
        Proc.run_modify_bind, Proc.run_pure, advance, if_neg hneg]
      by_cases hl : length > 0
      · rw [if_pos hl, if_pos hl]
        rfl
      · rw [if_neg hl, if_neg hl]
        rfl

/-- The writes of `sendSegment`, brought into the order of their addresses. -/
theorem put_segment (w : World α) (lp rp : UInt16) (seq ack : UInt32) (off c : UInt8)
    (window : UInt16) (option : Bytes) :
    ((((((((w.put 34 (bytesOf16 (HTONS lp))).put 36 (bytesOf16 (HTONS rp))).put 38
      (bytesOf32 (HTONL seq))).put 42 (bytesOf32 (HTONL ack))).put 46 [off]).put 54
      option).put 47 [c]).put 48 (bytesOf16 (HTONS window))).put 52 (bytesOf16 (HTONS 0)) =
        (w.put 34 (segmentHead lp rp seq ack off c window)).put 52
          (bytesOf16 (HTONS 0) ++ option) := by
  have hhead : ((((((w.put 34 (bytesOf16 (HTONS lp))).put 36 (bytesOf16 (HTONS rp))).put 38
      (bytesOf32 (HTONL seq))).put 42 (bytesOf32 (HTONL ack))).put 46 [off]).put 47 [c]).put 48
      (bytesOf16 (HTONS window)) = w.put 34 (segmentHead lp rp seq ack off c window) := by
    simp only [segmentHead, ← World.put_put, List.length_append, List.length_cons,
      List.length_nil, length_bytesOf16, length_bytesOf32, Nat.reduceAdd]
  rw [World.put_comm (a := 54) _ (by simp), World.put_comm (a := 54) _ (by simp),
    World.put_comm (a := 54) _ (by simp), hhead, ← World.put_put]
  rfl

/-- With room for its header, a segment is laid out in the send buffer and handed to
`transmit`. -/
theorem sendSegment_prepared (seq ack : UInt32) {w : World α} (htcp : w.self.tcp.isSome)
    (hroom : 20 + (optionBytes control w.stack).length ≤ w.stack.room) :
    (sendSegment cb control length seq ack).run w =
      (transmit length (UInt8.ofNat (optionBytes control w.stack).length)).run
        (prepared cb control length seq ack w) := by
  have hs : 34 ≤ w.stack.sendSize.toNat := by
    have : w.stack.room = w.stack.sendSize.toNat - 34 := rfl
    omega
  have hnone : ¬ w.self.tcp.isNone = true := by
    rw [Option.isNone_iff_eq_none]
    exact Option.isSome_iff_ne_none.mp htcp
  unfold sendSegment
  rw [Proc.run_read_bind, if_neg hnone, Proc.run_read_bind]
  simp only [Buffer.write8, Buffer.writeNet16, Buffer.write16, Buffer.writeNet32,
    Buffer.write32]
  rw [Proc.run_bind_of_some (w.onMem_write (a := 34) hs (by simp; omega) rfl),
    Proc.run_bind_of_some (World.onMem_write _ (a := 36) hs (by simp; omega) rfl),
    Proc.run_bind_of_some (World.onMem_write _ (a := 38) hs (by simp; omega) rfl),
    Proc.run_bind_of_some (World.onMem_write _ (a := 42) hs (by simp; omega) rfl)]
  generalize hw4 : (((w.put 34 (bytesOf16 (HTONS w.self.localPort))).put 36
    (bytesOf16 (HTONS w.self.remotePort))).put 38
      (bytesOf32 (HTONL (seqOf control seq w.self)))).put 42
        (bytesOf32 (HTONL (ackOf control ack w.self))) = w4
  have hself : w4.self = w.self := by rw [← hw4]; rfl
  have hopt : optionBytes control w4.stack = optionBytes control w.stack := by rw [← hw4]; rfl
  have hoff : offsetByte control w4.stack = offsetByte control w.stack := by
    rw [← hw4]
    simp [offsetByte, Stack.put, Region.write_out]
  have hwindow : getWindowSize cb ((((w4.put 46 [offsetByte control w4.stack]).put 54
      (optionBytes control w4.stack)).setSelf (advance control length w4.self)).put 47
        [control]) = getWindowSize cb w := by
    simp only [getWindowSize_put, getWindowSize_setSelf, ← hw4]
  have hrun : (writeControl w.stack.ipPayload control length).run w4 = _ :=
    writeControl_run w4 hs (by rw [hopt]; exact hroom)
  simp only [seqOf, ackOf] at hw4
  rw [hw4, Proc.run_bind_of_some hrun,
    Proc.run_bind_of_some (World.onMem_write _ (a := 47) hs (by simp; omega) rfl),
    Proc.run_read_bind, hwindow,
    Proc.run_bind_of_some (World.onMem_write _ (a := 48) hs (by simp; omega) rfl),
    Proc.run_bind_of_some (World.onMem_write _ (a := 52) hs (by simp; omega) rfl), hself, hopt,
    hoff, ← hw4]
  simp only [World.setSelf_put]
  rw [put_segment, prepared, headOf]
  rfl

end Prepare

/-! ### Transmitting it -/

section Transmit

variable {α : Type} {cb : Callbacks α} {control : UInt8} {length : UInt16}
  {seq ack : UInt32} {w : World α}

/-- Sending keeps the remote address. -/
@[simp] theorem remoteIP_advance (s : Socket) :
    (advance control length s).remoteIP = s.remoteIP := by
  unfold advance
  split_ifs <;> rfl

/-- The payload behind the header of a segment. -/
def payloadOf (control : UInt8) (length : UInt16) (h : Stack) : Bytes :=
  Region.read h.mem .send (54 + (optionBytes control h).length) length.toNat

/-- The segment a socket sends, given its checksum. -/
def packetOf (cb : Callbacks α) (control : UInt8) (length : UInt16) (seq ack : UInt32)
    (checksum : UInt16) (w : World α) : Bytes :=
  segmentBytes w.self.localPort w.self.remotePort (seqOf control seq w.self)
    (ackOf control ack w.self) (offsetByte control w.stack) control (getWindowSize cb w) checksum
    (optionBytes control w.stack) (payloadOf control length w.stack)

/-- The header up to the checksum has 16 bytes. -/
theorem length_headOf : (headOf cb control seq ack w).length = 16 := rfl

/-- A packet is its header, its option and its payload. -/
theorem length_packetOf (checksum : UInt16) :
    (packetOf cb control length seq ack checksum w).length =
      length.toNat + 20 + (optionBytes control w.stack).length := by
  simp [packetOf, payloadOf]
  omega

/-- The checksum of the segment a socket sends. -/
def checksumOf (cb : Callbacks α) (control : UInt8) (length : UInt16) (seq ack : UInt32)
    (w : World α) : UInt16 :=
  calcChecksum (viewOf (packetOf cb control length seq ack 0 w))
    (Buffer.lengthOf (packetOf cb control length seq ack 0 w)) w.stack.ip.ipAddress
    w.self.remoteIP

/-- An option has four bytes at most. -/
theorem length_optionBytes_le (h : Stack) : (optionBytes control h).length ≤ 4 := by
  unfold optionBytes
  split
  · exact le_refl 4
  · exact Nat.zero_le 4

/-- The length `transmit` computes does not wrap around. -/
theorem toNat_len (hfit : length.toNat + 20 + (optionBytes control w.stack).length ≤
    w.stack.room) :
    (length + TCP_HEADER_LENGTH +
      (UInt8.ofNat (optionBytes control w.stack).length).toUInt16).toNat =
        length.toNat + 20 + (optionBytes control w.stack).length := by
  have h16 := w.stack.sendSize.toNat_lt
  have hroom : w.stack.room = w.stack.sendSize.toNat - 34 := rfl
  have hopt := @length_optionBytes_le control w.stack
  have hk : (UInt8.ofNat (optionBytes control w.stack).length).toUInt16.toNat =
      (optionBytes control w.stack).length := by
    simpa using Nat.mod_eq_of_lt (by omega : (optionBytes control w.stack).length < 256)
  have h20 : TCP_HEADER_LENGTH.toNat = 20 := rfl
  rw [UInt16.toNat_add, UInt16.toNat_add, hk, h20]
  omega

/-- Lists that differ in two places only. -/
theorem getD_congr_two (d e : Bytes) {x y u v : UInt8} {i : ℕ} (h0 : i ≠ d.length)
    (h1 : i ≠ d.length + 1) :
    (d ++ [x, y] ++ e).getD i 0 = (d ++ [u, v] ++ e).getD i 0 := by
  simp only [List.getD_eq_getElem?_getD]
  by_cases hd : i < d.length
  · rw [List.append_assoc, List.append_assoc, List.getElem?_append_left hd,
      List.getElem?_append_left hd]
  · rw [List.getElem?_append_right (by simp; omega), List.getElem?_append_right (by simp; omega)]
    simp

/-- The checksum of a segment does not depend on what its checksum field holds. -/
theorem checksum_segment {v : View} {f : ℕ → UInt8} {head rest : Bytes} {x y u z : UInt8}
    {len : UInt16} (pseudo : UInt32) (hhead : head.length = 16)
    (hlen : len.toNat = (head ++ [x, y] ++ rest).length) (hv : len ≤ v.size)
    (hshows : v.Shows f len.toNat)
    (hf : ∀ i < len.toNat, f i = (head ++ [x, y] ++ rest).getD i 0) :
    v.checksum len 16 pseudo = (viewOf (head ++ [u, z] ++ rest)).checksum len 16 pseudo := by
  have hlen' : (head ++ [u, z] ++ rest).length = len.toNat := by
    rw [hlen]
    simp
  have h16 := len.toNat_lt
  refine View.checksum_congr pseudo hv ?_ hshows
    (hlen' ▸ shows_viewOf (by omega)) (by decide) ?_
  · rw [UInt16.le_iff_toNat_le]
    show len.toNat ≤ (Buffer.lengthOf _).toNat
    rw [Buffer.toNat_lengthOf (by omega), hlen']
  · intro i hi h1 h2
    rw [hf i hi]
    exact getD_congr_two head rest (by rw [hhead]; exact h1) (by rw [hhead]; exact h2)

/-- The bytes behind a write are read along with it. -/
theorem put_append_read (h : Stack) (a n : ℕ) (d : Bytes) :
    h.put a d = h.put a (d ++ Region.read h.mem .send (a + d.length) n) := by
  have hread : Region.read h.mem .send (a + d.length) n =
      Region.read (h.put a d).mem .send (a + d.length) n := by
    rw [Stack.put, Region.read_write_disjoint _ _ _ (by omega)]
  rw [← Stack.put_put, hread, Stack.put, Stack.put, Region.write_read_self]

/-- The window of IP payloads shows what was written at its start. -/
theorem shows_ipPayload (h : Stack) {d : Bytes} (hs : 34 ≤ h.sendSize.toNat)
    (hd : d.length ≤ h.room) :
    (h.ipPayload.view (h.put 34 d).mem).Shows (fun i => d.getD i 0) d.length := by
  have hshows := Buffer.shows_write h.fits_ipPayload h.mem
    (hd.trans_eq h.toNat_size_ipPayload.symm)
  rwa [h.root_ipPayload, h.base_ipPayload hs] at hshows

/-- The checksum `transmit` computes is that of the segment. -/
theorem checksum_prepared {len : UInt16}
    (hlen : len.toNat = length.toNat + 20 + (optionBytes control w.stack).length)
    (hfit : len.toNat ≤ w.stack.room) :
    calcChecksum (w.stack.ipPayload.view (prepared cb control length seq ack w).stack.mem) len
      w.stack.ip.ipAddress w.self.remoteIP = checksumOf cb control length seq ack w := by
  have hroom : w.stack.room = w.stack.sendSize.toNat - 34 := rfl
  have h16 := w.stack.sendSize.toNat_lt
  obtain ⟨x, y, hgap⟩ : ∃ x y, Region.read w.stack.mem .send 50 2 = [x, y] :=
    ⟨_, _, by simp only [Region.read, List.range_succ, List.range_zero]; rfl⟩
  -- the send buffer from the header on, with what lay in the checksum's field
  have hput : (prepared cb control length seq ack w).stack = w.stack.put 34
      (headOf cb control seq ack w ++ [x, y] ++ ((bytesOf16 (HTONS 0) ++
        optionBytes control w.stack) ++ payloadOf control length w.stack)) := by
    have h1 := Stack.put_gap w.stack 34 2 (headOf cb control seq ack w)
      (bytesOf16 (HTONS 0) ++ optionBytes control w.stack)
    rw [length_headOf, hgap] at h1
    have h2 := put_append_read w.stack 34 length.toNat (headOf cb control seq ack w ++ [x, y] ++
      (bytesOf16 (HTONS 0) ++ optionBytes control w.stack))
    rw [← h1] at h2
    have hlen20 : 34 + (headOf cb control seq ack w ++ [x, y] ++
        (bytesOf16 (HTONS 0) ++ optionBytes control w.stack)).length =
          54 + (optionBytes control w.stack).length := by
      simp [length_headOf]
      omega
    rw [hlen20, List.append_assoc _ _ (Region.read _ _ _ _)] at h2
    exact h2
  have hhl : (headOf cb control seq ack w).length = 16 := length_headOf
  have hlength : (headOf cb control seq ack w ++ [x, y] ++ ((bytesOf16 (HTONS 0) ++
      optionBytes control w.stack) ++ payloadOf control length w.stack)).length = len.toNat := by
    simp only [List.length_append, length_headOf, length_bytesOf16, payloadOf, Region.length_read,
      List.length_cons, List.length_nil]
    omega
  have hshows := shows_ipPayload w.stack (d := headOf cb control seq ack w ++ [x, y] ++
    ((bytesOf16 (HTONS 0) ++ optionBytes control w.stack) ++ payloadOf control length w.stack))
    (by omega) (by omega)
  rw [← hput, hlength] at hshows
  have hsize : len ≤ (w.stack.ipPayload.view
      (prepared cb control length seq ack w).stack.mem).size := by
    rw [UInt16.le_iff_toNat_le]
    exact hfit.trans_eq w.stack.toNat_size_ipPayload.symm
  have hlen0 : Buffer.lengthOf (packetOf cb control length seq ack 0 w) = len := by
    rw [Buffer.lengthOf, length_packetOf, ← hlen]
    exact UInt16.ofNat_toNat
  rw [checksumOf, hlen0, packetOf, segmentBytes, List.append_assoc _ _ (payloadOf _ _ _)]
  exact checksum_segment _ hhl hlength.symm hsize hshows fun _ _ => rfl

/-- With room and a route a segment is sent: the packet that leaves, in its frame, and the
send buffer holding it. -/
theorem sendSegment_run (htcp : w.self.tcp.isSome)
    (hfit : length.toNat + 20 + (optionBytes control w.stack).length ≤ w.stack.room)
    {mac : MACAddr} (hmac : IPHandler.getMACForIP w.self.remoteIP w.stack = some mac)
    {packet : Bytes}
    (hpacket : packet =
      packetOf cb control length seq ack (checksumOf cb control length seq ack w) w) :
    ∃ header : Bytes, header.length = 34 ∧
      (sendSegment cb control length seq ack).run w = (some (), { w with
        self := advance control length w.self
        stack := { w.stack.put 0 (header ++
            packet.take (20 + (optionBytes control w.stack).length)) with
          log := w.stack.log ++ [.frame (header ++ packet),
            .packet w.self.remoteIP TCP_PROTOCOL packet] } }) := by
  have hroom : w.stack.room = w.stack.sendSize.toNat - 34 := rfl
  have hlen := toNat_len hfit
  have hsum := @checksum_prepared _ cb control length seq ack w _ hlen (by omega)
  have hs : 34 ≤ w.stack.sendSize.toNat := by omega
  have hip : (prepared cb control length seq ack w).self.remoteIP = w.self.remoteIP :=
    remoteIP_advance _
  have hroute : IPHandler.getMACForIP w.self.remoteIP
      (prepared cb control length seq ack w).stack = some mac := hmac
  have hbuf : (prepared cb control length seq ack w).stack.ipPayload = w.stack.ipPayload := rfl
  have haddr : (prepared cb control length seq ack w).stack.ip = w.stack.ip := rfl
  -- the header with its checksum, and the packet as it then lies in the send buffer
  generalize hc : checksumOf cb control length seq ack w = sum at hsum hpacket
  generalize hhdr : headOf cb control seq ack w ++ bytesOf16 (HTONS sum) ++
    (bytesOf16 (HTONS 0) ++ optionBytes control w.stack) = hdr
  have hhdrlen : hdr.length = 20 + (optionBytes control w.stack).length := by
    rw [← hhdr]
    simp [length_headOf]
    omega
  have hpacket' : packet = hdr ++ payloadOf control length w.stack := by
    rw [hpacket, ← hhdr]
    rfl
  have hfill : (prepared cb control length seq ack w).put 50 (bytesOf16 (HTONS sum)) =
      (w.put 34 hdr).setSelf (advance control length w.self) := by
    have h1 := Stack.put_fill w.stack 34 (headOf cb control seq ack w)
      (bytesOf16 (HTONS 0) ++ optionBytes control w.stack) (length_bytesOf16 (HTONS sum))
    rw [hhdr] at h1
    rw [prepared, World.setSelf_put, World.put, World.put, World.put, World.put, ← h1]
    rfl
  have hread : packet = Region.read (w.stack.put 34 hdr).mem .send 34
      (length + TCP_HEADER_LENGTH +
        (UInt8.ofNat (optionBytes control w.stack).length).toUInt16).toNat := by
    rw [hlen, show length.toNat + 20 + (optionBytes control w.stack).length =
      hdr.length + length.toNat by omega, Region.read_add, Stack.put, Region.read_write_self,
      Region.read_write_disjoint _ _ _ (by omega), hpacket', payloadOf, hhdrlen]
    congr 2
    omega
  obtain ⟨header, hheader⟩ : ∃ header : Bytes, header = etherHeader mac w.stack.macAddr 0x0800 ++
      IPHandler.ipHeader w.stack.ip.ipAddress w.self.remoteIP TCP_PROTOCOL
        (length + TCP_HEADER_LENGTH +
          (UInt8.ofNat (optionBytes control w.stack).length).toUInt16 + 20)
        (IPHandler.ipChecksum w.stack.ip.ipAddress w.self.remoteIP TCP_PROTOCOL
          (length + TCP_HEADER_LENGTH +
            (UInt8.ofNat (optionBytes control w.stack).length).toUInt16 + 20)) := ⟨_, rfl⟩
  have hhl : header.length = 34 := by rw [hheader]; rfl
  have hsend := IPHandler.sendPacket_run (w.stack.put 34 hdr) w.self.remoteIP TCP_PROTOCOL
    (by rw [hlen]; exact hfit) hs hmac hheader hread
  have hput0 : (w.stack.put 34 hdr).put 0 header = w.stack.put 0 (header ++
      packet.take (20 + (optionBytes control w.stack).length)) := by
    rw [hpacket', ← hhdrlen, List.take_left, Stack.put_comm _ (by omega), ← Stack.put_put, hhl]
  rw [hput0] at hsend
  refine ⟨header, hhl, ?_⟩
  rw [sendSegment_prepared seq ack htcp (by omega)]
  unfold transmit
  rw [Proc.run_read_bind, hip, Proc.run_read_bind, hroute, if_neg (by simp),
    Proc.run_read_bind, Proc.run_read_bind, hbuf, haddr, hsum, Buffer.writeNet16,
    Buffer.write16, Proc.run_bind_of_some (World.onMem_write _ (a := 50) hs
      (by simp; omega) rfl), hfill, World.onStack, Proc.run_zoom]
  have hstack : ((w.put 34 hdr).setSelf (advance control length w.self)).stack =
      w.stack.put 34 hdr := rfl
  rw [hstack, hsend]
  rfl

/-- With room but without a route, a segment is laid out and a route asked for. -/
theorem sendSegment_noRoute (htcp : w.self.tcp.isSome)
    (hroom : 20 + (optionBytes control w.stack).length ≤ w.stack.room)
    (hmac : IPHandler.getMACForIP w.self.remoteIP w.stack = none) :
    (sendSegment cb control length seq ack).run w =
      (some (), { prepared cb control length seq ack w with
        stack := ((ARPHandler.requestMACAddress w.self.remoteIP).run
          (prepared cb control length seq ack w).stack).2 }) := by
  have hip : (prepared cb control length seq ack w).self.remoteIP = w.self.remoteIP :=
    remoteIP_advance _
  have hroute : IPHandler.getMACForIP w.self.remoteIP
      (prepared cb control length seq ack w).stack = none := hmac
  rw [sendSegment_prepared seq ack htcp hroom]
  unfold transmit
  rw [Proc.run_read_bind, hip, Proc.run_read_bind, hroute,
    if_pos (by simp), Proc.run_attempt, World.onStack, Proc.run_zoom]

/-- What sending a segment comes to for its callers: the socket has advanced, the send buffer
has been used, and the packet has left if there was a route. -/
structure Transmitted (cb : Callbacks α) (control : UInt8) (length : UInt16)
    (seq ack : UInt32) (w w' : World α) : Prop where
  this : w'.this = w.this
  app : w'.app = w.app
  self : w'.self = advance control length w.self
  rest : w'.stack = { w.stack with
    mem := w'.stack.mem, log := w'.stack.log, arp := w'.stack.arp,
    etherControl := w'.stack.etherControl }
  other : ∀ r, r ≠ .send → w'.stack.mem r = w.stack.mem r
  offset : w'.stack.mem .send 46 = offsetByte control w.stack
  routes : ∀ ip, ARPHandler.Resolves ip w.stack.arp.routingTable →
    ARPHandler.Resolves ip w'.stack.arp.routingTable
  log : ∃ l, w'.stack.log = w.stack.log ++ l ∧ (∀ o ∈ l, o.isOutput) ∧
    packetsOf l = if (IPHandler.getMACForIP w.self.remoteIP w.stack).isSome then
      [(w.self.remoteIP, TCP_PROTOCOL,
        packetOf cb control length seq ack (checksumOf cb control length seq ack w) w)]
      else []

/-- Byte 12 of the header is the data offset. -/
theorem getElem_headOf : (headOf cb control seq ack w)[12]? =
    some (offsetByte control w.stack) := rfl

/-- Byte 12 of the packet is the data offset. -/
theorem getElem_packetOf (checksum : UInt16) :
    (packetOf cb control length seq ack checksum w)[12]? =
      some (offsetByte control w.stack) := rfl

/-- The data offset lies at address 46 of the send buffer. -/
theorem offset_prepared : (prepared cb control length seq ack w).stack.mem .send 46 =
    offsetByte control w.stack := by
  show ((w.stack.put 34 (headOf cb control seq ack w)).put 52
    (bytesOf16 (HTONS 0) ++ optionBytes control w.stack)).mem .send 46 = _
  rw [Stack.mem_put, Region.write_out _ Root.send 52 (by omega)]
  rw [Stack.mem_put]
  exact Region.write_of_getElem? w.stack.mem Root.send 34 (i := 12)
    (d := headOf cb control seq ack w) getElem_headOf

/-- With room for the segment, `sendSegment` returns true and has transmitted it. -/
theorem sendSegment_transmitted (cb : Callbacks α) (control : UInt8) (length : UInt16)
    (seq ack : UInt32) {w : World α} (htcp : w.self.tcp.isSome)
    (hfit : length.toNat + 20 + (optionBytes control w.stack).length ≤ w.stack.room) :
    ((sendSegment cb control length seq ack).run w).1 = some () ∧
      Transmitted cb control length seq ack w ((sendSegment cb control length seq ack).run w).2 := by
  rcases hmac : IPHandler.getMACForIP w.self.remoteIP w.stack with _ | mac
  · rw [sendSegment_noRoute htcp (by omega) hmac]
    have hs := ARPHandler.requestMACAddress_scratch w.self.remoteIP
      (prepared cb control length seq ack w).stack
    refine ⟨rfl, rfl, rfl, rfl, ?_, ?_, ?_, hs.routes, ?_⟩
    · rw [hs.rest]
      rfl
    · intro r hr
      rw [hs.mem.other r hr]
      funext i
      exact (Region.write_region _ hr _ _ i).trans (Region.write_region _ hr _ _ i)
    · rw [hs.mem.send 46 (by omega), offset_prepared]
    · obtain ⟨l, hl, hframes⟩ := hs.log
      refine ⟨l, hl, ?_, ?_⟩
      · intro o ho
        obtain ⟨d, rfl⟩ := hframes o ho
        rfl
      · rw [hmac, if_neg (by simp), packetsOf, List.filterMap_eq_nil_iff]
        intro o ho
        obtain ⟨d, rfl⟩ := hframes o ho
        rfl
  · obtain ⟨header, hlen, hrun⟩ := @sendSegment_run _ cb control length seq ack w htcp
      hfit _ hmac _ rfl
    rw [hrun]
    refine ⟨rfl, rfl, rfl, rfl, rfl, ?_, ?_, fun _ hr => hr, ?_⟩
    · intro r hr
      funext i
      exact Region.write_region _ hr _ _ i
    · refine Region.write_of_getElem? w.stack.mem .send 0 (i := 46) ?_
      rw [List.getElem?_append_right (by omega), hlen, List.getElem?_take_of_lt (by omega),
        getElem_packetOf]
    · refine ⟨_, rfl, by simp [Obs.isOutput], ?_⟩
      rw [hmac]
      rfl

end Transmit

end Socket

/-! ### Too little room -/

/-- Only the send buffer has changed. -/
structure OnlySend {α : Type} (w w' : World α) : Prop where
  rest : w' = { w with stack := { w.stack with mem := w'.stack.mem } }
  other : ∀ r, r ≠ .send → w'.stack.mem r = w.stack.mem r

namespace OnlySend

variable {α : Type}

/-- Nothing changes nothing else. -/
theorem refl (w : World α) : OnlySend w w := ⟨rfl, fun _ _ => rfl⟩

/-- Two changes of the send buffer are one. -/
theorem trans {w w' w'' : World α} (h : OnlySend w w') (h' : OnlySend w' w'') :
    OnlySend w w'' := by
  refine ⟨?_, fun r hr => (h'.other r hr).trans (h.other r hr)⟩
  rw [h'.rest, h.rest]

instance : IsPreorder (World α) OnlySend where
  refl := refl
  trans _ _ _ := trans

/-- A write through the window for IP payloads that ends below byte 24 of it, or fails. -/
theorem within_write (h : Stack) {start : UInt16} {data : Bytes}
    (hin : start.toNat + data.length ≤ 24) :
    Proc.Within OnlySend (World.onMem (α := α) (h.ipPayload.write start data)) := by
  intro w
  have hbase := h.base_ipPayload_le
  have hw : KeepsFrom 58 _ ((h.ipPayload.write start data).run w.stack.mem).2 :=
    KeepsFrom.within_write h.fits_ipPayload h.root_ipPayload (by omega) (by omega) w.stack.mem
  exact ⟨rfl, hw.other⟩

end OnlySend

namespace Socket

section Short

variable {α : Type} {cb : Callbacks α} {control : UInt8} {seq ack : UInt32} {w : World α}

/-- A segment without payload that was not sent: the socket may have advanced by a FIN. -/
structure Unsent (control : UInt8) (w w' : World α) : Prop where
  this : w'.this = w.this
  app : w'.app = w.app
  self : w'.self = w.self ∨
    ¬ has control SYN ∧ has control FIN ∧ w'.self = advance control 0 w.self
  rest : w'.stack = { w.stack with mem := w'.stack.mem }
  other : ∀ r, r ≠ .send → w'.stack.mem r = w.stack.mem r

/-- If only the send buffer has changed, nothing was sent. -/
theorem unsent_of_onlySend {w' : World α} (h : OnlySend w w') : Unsent control w w' := by
  refine ⟨?_, ?_, .inl ?_, ?_, h.other⟩ <;> rw [h.rest]

/-- A write beyond the end of the window for IP payloads fails. -/
theorem fails_write {h : Stack} {start : UInt16} {data : Bytes}
    (hin : h.room < start.toNat + data.length) (h16 : start.toNat + data.length < 65536) :
    Proc.Fails (World.onMem (α := α) (h.ipPayload.write start data)) := by
  intro w
  have hlen : (Buffer.lengthOf data).toNat = data.length := Buffer.toNat_lengthOf (by omega)
  rw [World.onMem, World.onStack, Proc.run_zoom, Stack.onMem, Proc.run_zoom,
    Buffer.write_of_fits h.fits_ipPayload _ (by omega), if_pos]
  rw [h.toNat_size_ipPayload]
  omega

/-- Without room for its option, a SYN cannot be written. -/
theorem fails_writeControl {h : Stack} {length : UInt16} (hsyn : has control SYN)
    (hroom : h.room < 20 + (optionBytes control h).length) :
    Proc.Fails (writeControl (α := α) h.ipPayload control length) := by
  rw [optionBytes, if_pos hsyn, length_mssOption] at hroom
  unfold writeControl
  rw [if_pos hsyn]
  simp only [Buffer.write8, Buffer.writeNet16, Buffer.write16]
  exact Proc.fails_bind _ fun _ => Proc.fails_bind _ fun _ => Proc.fails_bind _ fun _ =>
    Proc.fails_bind _ fun _ => .bind (fails_write (by simpa using hroom) (by simp)) _

/-- What can be written of it stays in the send buffer. -/
theorem within_writeControl_syn {h : Stack} {length : UInt16} (hsyn : has control SYN)
    (hroom : h.room < 20 + (optionBytes control h).length) :
    Proc.Within OnlySend (writeControl (α := α) h.ipPayload control length) := by
  have hwrite : ∀ (start : UInt16) (data : Bytes), start.toNat + data.length ≤ 24 →
      Proc.Within OnlySend (World.onMem (α := α) (h.ipPayload.write start data)) :=
    fun _ _ hin => OnlySend.within_write h hin
  rw [optionBytes, if_pos hsyn, length_mssOption] at hroom
  unfold writeControl
  rw [if_pos hsyn]
  simp only [Buffer.write8, Buffer.writeNet16, Buffer.write16]
  exact .bind (hwrite 12 _ (by simp)) fun _ => .bind (hwrite 20 _ (by simp)) fun _ =>
    .bind (hwrite 21 _ (by simp)) fun _ => Proc.within_read_bind fun _ =>
      .bind_of_fails (hwrite 22 _ (by simp)) (fails_write (by simpa using hroom) (by simp)) _

/-- Without room for its header `sendSegment` gives up. -/
theorem sendSegment_fails (cb : Callbacks α) (control : UInt8) (length : UInt16)
    (seq ack : UInt32) {w : World α}
    (hroom : w.stack.room < 20 + (optionBytes control w.stack).length) :
    ((sendSegment cb control length seq ack).run w).1 = none := by
  unfold sendSegment
  rw [Proc.run_read_bind]
  by_cases hnone : w.self.tcp.isNone = true
  · rw [if_pos hnone]
    rfl
  rw [if_neg hnone, Proc.run_read_bind]
  simp only [Buffer.write8, Buffer.writeNet16, Buffer.write16, Buffer.writeNet32,
    Buffer.write32]
  refine Proc.fails_bind _ (fun _ => Proc.fails_bind _ fun _ => Proc.fails_bind _ fun _ =>
    Proc.fails_bind _ fun _ => ?_) w
  by_cases hsyn : has control SYN
  · exact .bind (fails_writeControl hsyn hroom) _
  · rw [optionBytes, if_neg hsyn] at hroom
    exact Proc.fails_bind _ fun _ => Proc.fails_bind _ fun _ => Proc.fails_bind _ fun _ =>
      Proc.fails_bind _ fun _ => .bind (fails_write (by simpa using hroom) (by simp)) _

/-- Without room for its header a segment is not sent. -/
theorem sendSegment_short (cb : Callbacks α) (control : UInt8) (seq ack : UInt32) (w : World α)
    (htcp : w.self.tcp.isSome)
    (hroom : w.stack.room < 20 + (optionBytes control w.stack).length) :
    ((sendSegment cb control 0 seq ack).run w).1 = none ∧
      Unsent control w ((sendSegment cb control 0 seq ack).run w).2 := by
  refine ⟨sendSegment_fails cb control 0 seq ack hroom, ?_⟩
  have hnone : ¬ w.self.tcp.isNone = true := by
    rw [Option.isNone_iff_eq_none]
    exact Option.isSome_iff_ne_none.mp htcp
  have hwrite : ∀ (start : UInt16) (data : Bytes), start.toNat + data.length ≤ 24 →
      Proc.Within OnlySend (World.onMem (α := α) (w.stack.ipPayload.write start data)) :=
    fun _ _ hin => OnlySend.within_write w.stack hin
  unfold sendSegment
  rw [Proc.run_read_bind, if_neg hnone, Proc.run_read_bind]
  simp only [Buffer.write8, Buffer.writeNet16, Buffer.write16, Buffer.writeNet32,
    Buffer.write32]
  refine (hwrite 0 _ (by simp)).exec_bind (fun _ h => unsent_of_onlySend h) fun _ w₁ h₁ => ?_
  refine (hwrite 2 _ (by simp)).exec_bind
    (fun _ h => unsent_of_onlySend (h₁.trans h)) fun _ w₂ h₂ => ?_
  refine (hwrite 4 _ (by simp)).exec_bind
    (fun _ h => unsent_of_onlySend (h₁.trans (h₂.trans h))) fun _ w₃ h₃ => ?_
  refine (hwrite 8 _ (by simp)).exec_bind
    (fun _ h => unsent_of_onlySend (h₁.trans (h₂.trans (h₃.trans h)))) fun _ w₄ h₄ => ?_
  have hw : OnlySend w w₄ := h₁.trans (h₂.trans (h₃.trans h₄))
  by_cases hsyn : has control SYN
  · exact unsent_of_onlySend (hw.trans ((within_writeControl_syn hsyn hroom).bind_of_fails
      (fails_writeControl hsyn hroom) _ w₄))
  · rw [optionBytes, if_neg hsyn] at hroom
    have hrest : ∀ o, Proc.Within OnlySend (do
        World.onMem (w.stack.ipPayload.write 13 [control])
        let window ← Proc.read (getWindowSize cb)
        World.onMem (w.stack.ipPayload.write 14 (bytesOf16 (HTONS window)))
        World.onMem (w.stack.ipPayload.write 18 (bytesOf16 (HTONS 0x0000)))
        transmit 0 o) := fun o =>
      .bind (hwrite 13 _ (by simp)) fun _ => Proc.within_read_bind fun _ =>
        .bind (hwrite 14 _ (by simp)) fun _ => .bind_of_fails (hwrite 18 _ (by simp))
          (fails_write (by simpa using hroom) (by simp)) _
    by_cases hfin : has control FIN
    · -- the FIN advances the socket before the write that fails
      have hcontrol : (writeControl w.stack.ipPayload control 0).run w₄ =
          (some 0, w₄.setSelf (advance control 0 w₄.self)) := by
        unfold writeControl
        rw [if_neg hsyn, if_pos hfin, Proc.run_modify_bind, Proc.run_pure, advance,
          if_pos (.inr hfin)]
      rw [Proc.run_bind_of_some hcontrol]
      have hr := hrest 0 (w₄.setSelf (advance control 0 w₄.self))
      have hself : w₄.self = w.self := by rw [hw.rest]
      refine ⟨?_, ?_, .inr ⟨hsyn, hfin, ?_⟩, ?_, fun r h => (hr.other r h).trans (hw.other r h)⟩
      · rw [hr.rest, hw.rest]
        rfl
      · rw [hr.rest, hw.rest]
        rfl
      · rw [hr.rest, ← hself]
        rfl
      · rw [hr.rest, hw.rest]
        rfl
    · have hcontrol : Proc.Within OnlySend
          (writeControl (α := α) w.stack.ipPayload control 0) := by
        unfold writeControl
        rw [if_neg hsyn, if_neg hfin]
        exact .bind (hwrite 12 _ (by simp)) fun _ =>
          .bind (Proc.within_modify fun w => .refl w) fun _ => Proc.within_pure _
      exact unsent_of_onlySend (hw.trans ((Proc.Within.bind hcontrol hrest) w₄))

end Short

end Socket

end AtmegaNet
