import AtmegaNet.FrameLengths
import AtmegaNet.InternetChecksum

/-!
# The UDP checksum

The checksum of a datagram is the one's complement of the one's complement sum of a pseudo header
and the datagram, its checksum field taken for 0. A field of 0 says that there is no checksum, so
a checksum of 0 is sent as 0xFFFF. `UDPHandler` knows the first half of that rule only.

## Main results

* `toNat_calcChecksum`: `calcChecksum` computes the complement of the sum.
* `UDPHandler.sendDatagram_run`, `UDPHandler.handlePacket_valid`: the datagram that is sent, and
  what becomes of a valid one that arrives.
* `UDPHandler.checksum_iff`: the datagrams for which both directions keep to the rule.
-/

open Procedure

namespace AtmegaNet

/-! ### The rule -/

/-- The pseudo header of a datagram. -/
def pseudoHeader (sourceIP destinationIP : IPAddr) (udpLength : UInt16) : Bytes :=
  sourceIP.bytes ++ destinationIP.bytes ++ [0, UDPHandler.UDP_PROTOCOL] ++
    bytesOf16 (HTONS udpLength)

/-- A datagram with a checksum field of 0. -/
def blank (datagram : Bytes) : Bytes := datagram.take 6 ++ [0, 0] ++ datagram.drop 8

/-- The words a checksum is computed over. -/
def checksumWords (sourceIP destinationIP : IPAddr) (datagram : Bytes) : List ℕ :=
  netWords (pseudoHeader sourceIP destinationIP (Buffer.lengthOf datagram) ++ blank datagram)

/-- The checksum of a datagram, as it is sent. -/
def checksumOf (sourceIP destinationIP : IPAddr) (datagram : Bytes) : ℕ :=
  let sum := OnesComplement.sum 65535 (checksumWords sourceIP destinationIP datagram)
  if sum = 65535 then 65535 else 65535 - sum

/-- A checksum of 0, which is sent as 0xFFFF: the sum is a multiple of 0xFFFF. -/
def ComputesZero (sourceIP destinationIP : IPAddr) (datagram : Bytes) : Prop :=
  65535 ∣ (checksumWords sourceIP destinationIP datagram).sum

instance (s d : IPAddr) (datagram : Bytes) : Decidable (ComputesZero s d datagram) :=
  inferInstanceAs (Decidable (65535 ∣ _))

/-! ### Words -/

/-- The blank datagram differs in the checksum field only. -/
theorem fieldAt_blank {datagram : Bytes} (h8 : 8 ≤ datagram.length) (k : ℕ) :
    fieldAt (blank datagram) (2 * k) = if k = 3 then 0 else fieldAt datagram (2 * k) := by
  have hget : ∀ i, (blank datagram).getD i 0 =
      if i = 6 ∨ i = 7 then 0 else datagram.getD i 0 := by
    match datagram, h8 with
    | a₀ :: a₁ :: a₂ :: a₃ :: a₄ :: a₅ :: a₆ :: a₇ :: rest, _ =>
        intro i
        match i with
        | 0 | 1 | 2 | 3 | 4 | 5 | 6 | 7 => rfl
        | i + 8 =>
            rw [if_neg (by omega)]
            rfl
  unfold fieldAt
  rw [hget, hget]
  by_cases hk : k = 3
  · subst hk
    simp
  · rw [if_neg hk, if_neg (by omega), if_neg (by omega)]

/-- The two words of an address. -/
theorem toNat_words (a : IPAddr) : a.words.toNat =
    256 * a.b0.toNat + a.b1.toNat + (256 * a.b2.toNat + a.b3.toNat) := by
  have hfirst : (HTONS (word16 [a.b0, a.b1])).toNat = 256 * a.b0.toNat + a.b1.toNat :=
    toNat_NTOHS_word16 a.b0 a.b1
  have hlast : (HTONS (word16 [a.b2, a.b3])).toNat = 256 * a.b2.toNat + a.b3.toNat :=
    toNat_NTOHS_word16 a.b2 a.b3
  have h0 := a.b0.toNat_lt
  have h1 := a.b1.toNat_lt
  have h2 := a.b2.toNat_lt
  have h3 := a.b3.toNat_lt
  rw [IPAddr.words, UInt32.toNat_add, UInt16.toNat_toUInt32, UInt16.toNat_toUInt32, hfirst,
    hlast]
  exact Nat.mod_eq_of_lt (by omega)

/-- The sum over a pseudo header, field by field. -/
theorem sum_checksumWords (s d : IPAddr) (datagram : Bytes) :
    (checksumWords s d datagram).sum =
      (Buffer.lengthOf datagram).toNat + 17 + s.words.toNat + d.words.toNat +
        (netWords (blank datagram)).sum := by
  have hsplit : checksumWords s d datagram =
      [256 * s.b0.toNat + s.b1.toNat, 256 * s.b2.toNat + s.b3.toNat,
        256 * d.b0.toNat + d.b1.toNat, 256 * d.b2.toNat + d.b3.toNat, 17,
        256 * (HTONS (Buffer.lengthOf datagram)).toUInt8.toNat +
          (HTONS (Buffer.lengthOf datagram) >>> 8).toUInt8.toNat] ++
        netWords (blank datagram) := rfl
  rw [hsplit, toNat_HTONS_bytes, toNat_words, toNat_words]
  simp only [List.sum_append, List.sum_cons, List.sum_nil]
  omega

/-! ### `Buffer::checksum` -/

/-- `Buffer::checksum` of a datagram, with its checksum field at 6. -/
theorem toNat_checksum {v : View} {data : Bytes} (hlen : data.length < 65536)
    (h8 : 8 ≤ data.length) (hv : v.Shows (fun i => data.getD i 0) data.length)
    (hsize : Buffer.lengthOf data ≤ v.size) {pseudo : UInt32}
    (hpseudo : pseudo.toNat ≤ 6 * 65536) :
    (v.checksum (Buffer.lengthOf data) 6 pseudo).toNat =
      65535 - OnesComplement.norm 65535 (pseudo.toNat + (netWords (blank data)).sum) := by
  have hblank : netWords (blank data) = netWords (blankAt 6 data) := by
    have hlength : (blank data).length = data.length := by simp [blank]; omega
    rw [netWords_eq_map, netWords_eq_map, length_blankAt, hlength]
    refine List.map_congr_left fun k _ => ?_
    rw [fieldAt_blank h8, fieldAt_blankAt (by decide)]
    exact if_congr (by omega) rfl rfl
  have hcut : Buffer.lengthOf data =
      if Buffer.lengthOf data > v.size then v.size else Buffer.lengthOf data :=
    (if_neg (UInt16.not_lt.mpr hsize)).symm
  rw [toNat_checksum_of_lt hlen hv hcut (by decide) (by omega), hblank]
  rfl

/-- The words never sum to zero: the protocol number is among them. -/
theorem sum_checksumWords_pos (s d : IPAddr) (datagram : Bytes) :
    (checksumWords s d datagram).sum ≠ 0 := by
  rw [sum_checksumWords]
  omega

/-- The one's-complement sum is the plain sum brought into range. -/
theorem onesSum_eq (s d : IPAddr) (datagram : Bytes) :
    OnesComplement.sum 65535 (checksumWords s d datagram) =
      OnesComplement.norm 65535 (checksumWords s d datagram).sum :=
  OnesComplement.sum_eq_norm (by decide) (netWords_le _)

/-- It is all ones when the checksum computed is zero. -/
theorem onesSum_eq_iff (s d : IPAddr) (datagram : Bytes) :
    OnesComplement.sum 65535 (checksumWords s d datagram) = 65535 ↔
      ComputesZero s d datagram := by
  rw [onesSum_eq]
  exact OnesComplement.norm_eq_iff_dvd (by decide) (sum_checksumWords_pos s d datagram)

/-- `calcChecksum` computes the complement of the sum, whichever address is the local one. -/
theorem toNat_calcChecksum {v : View} {data : Bytes} (hlen : data.length < 65536)
    (h8 : 8 ≤ data.length) (hv : v.Shows (fun i => data.getD i 0) data.length)
    (hsize : Buffer.lengthOf data ≤ v.size) (s d : IPAddr) :
    (UDPHandler.calcChecksum v (Buffer.lengthOf data) s d).toNat =
      65535 - OnesComplement.sum 65535 (checksumWords s d data) := by
  have hlt : ∀ a : IPAddr, a.words.toNat ≤ 2 * 65535 := by
    intro a
    have h0 := a.b0.toNat_lt
    have h1 := a.b1.toNat_lt
    have h2 := a.b2.toNat_lt
    have h3 := a.b3.toNat_lt
    rw [toNat_words]
    omega
  have hs := hlt s
  have hd := hlt d
  have hn : (Buffer.lengthOf data).toNat < 65536 := (Buffer.lengthOf data).toNat_lt
  have h17 : UDPHandler.UDP_PROTOCOL.toUInt32.toNat = 17 := rfl
  have hpseudo : ((Buffer.lengthOf data).toUInt32 + UDPHandler.UDP_PROTOCOL.toUInt32 + s.words +
      d.words).toNat = (Buffer.lengthOf data).toNat + 17 + s.words.toNat + d.words.toNat := by
    rw [UInt32.toNat_add, UInt32.toNat_add, UInt32.toNat_add, h17, UInt16.toNat_toUInt32]
    omega
  rw [UDPHandler.calcChecksum, toNat_checksum hlen h8 hv hsize (by rw [hpseudo]; omega), hpseudo,
    onesSum_eq, ← sum_checksumWords]

/-- The complement of the sum is the checksum, unless it is 0. -/
theorem checksumOf_eq (s d : IPAddr) (data : Bytes) :
    checksumOf s d data = if ComputesZero s d data then 65535
      else 65535 - OnesComplement.sum 65535 (checksumWords s d data) := by
  have hsum := onesSum_eq_iff s d data
  unfold checksumOf
  by_cases hzero : ComputesZero s d data
  · rw [if_pos hzero, if_pos (hsum.mpr hzero)]
  · rw [if_neg hzero, if_neg (mt hsum.mp hzero)]

/-- A checksum that is sent is never 0. -/
theorem checksumOf_ne_zero (s d : IPAddr) (data : Bytes) : checksumOf s d data ≠ 0 := by
  have hle : OnesComplement.sum 65535 (checksumWords s d data) ≤ 65535 := by
    rw [onesSum_eq]
    exact OnesComplement.norm_le (by decide)
  unfold checksumOf
  by_cases hsum : OnesComplement.sum 65535 (checksumWords s d data) = 65535
  · simp [hsum]
  · simp only [if_neg hsum]
    omega

/-- What `calcChecksum` computes is the checksum just if it is not 0. -/
theorem calcChecksum_eq_iff {v : View} {data : Bytes} (hlen : data.length < 65536)
    (h8 : 8 ≤ data.length) (hv : v.Shows (fun i => data.getD i 0) data.length)
    (hsize : Buffer.lengthOf data ≤ v.size) (s d : IPAddr) :
    (UDPHandler.calcChecksum v (Buffer.lengthOf data) s d).toNat = checksumOf s d data ↔
      ¬ ComputesZero s d data := by
  have hcalc := toNat_calcChecksum hlen h8 hv hsize s d
  have heq := checksumOf_eq s d data
  constructor
  · intro hsame hzero
    have hsum := (onesSum_eq_iff s d data).mpr hzero
    rw [if_pos hzero] at heq
    omega
  · intro hzero
    rw [hcalc, heq, if_neg hzero]

/-! ### Sending -/

namespace UDPHandler

/-- The header that `sendDatagram` writes, up to its checksum. -/
def headerStart (sourcePort destinationPort len : UInt16) : Bytes :=
  bytesOf16 (HTONS sourcePort) ++ bytesOf16 (HTONS destinationPort) ++ bytesOf16 (HTONS len)

/-- The header without its checksum is six bytes. -/
@[simp] theorem length_headerStart (s d len : UInt16) : (headerStart s d len).length = 6 := rfl

/-- The datagram in the send buffer. -/
def datagramOf (sourcePort destinationPort checksum : UInt16) (payload : Bytes) : Bytes :=
  headerStart sourcePort destinationPort (Buffer.lengthOf payload + DATAGRAM_HEADER_LENGTH) ++
    bytesOf16 (HTONS checksum) ++ payload

/-- A datagram is eight bytes and its payload. -/
theorem length_datagramOf (s d c : UInt16) (payload : Bytes) :
    (datagramOf s d c payload).length = 8 + payload.length := by
  simp [datagramOf]
  omega

/-- The checksum is not part of what it is computed over. -/
theorem checksumWords_datagramOf (s d : IPAddr) (sourcePort destinationPort c e : UInt16)
    (payload : Bytes) :
    checksumWords s d (datagramOf sourcePort destinationPort c payload) =
      checksumWords s d (datagramOf sourcePort destinationPort e payload) := by
  have hlen : Buffer.lengthOf (datagramOf sourcePort destinationPort c payload) =
      Buffer.lengthOf (datagramOf sourcePort destinationPort e payload) := by
    rw [Buffer.lengthOf, Buffer.lengthOf, length_datagramOf, length_datagramOf]
  rw [checksumWords, checksumWords, hlen]
  rfl

/-- The checksum field of a datagram. -/
theorem fieldAt_datagramOf (sourcePort destinationPort c : UInt16) (payload : Bytes) :
    fieldAt (datagramOf sourcePort destinationPort c payload) 6 = c.toNat :=
  toNat_HTONS_bytes c

/-- The frame of a datagram that is sent: the headers, and the datagram. -/
def frameOf (h : Stack) (mac : MACAddr) (destinationIP : IPAddr) (length : UInt16)
    (datagram : Bytes) : Bytes :=
  etherHeader mac h.macAddr 0x0800 ++
    IPHandler.ipHeader h.ip.ipAddress destinationIP UDP_PROTOCOL (length + 20)
      (IPHandler.ipChecksum h.ip.ipAddress destinationIP UDP_PROTOCOL (length + 20)) ++ datagram

section Sending

variable (h : Stack) (destinationIP : IPAddr) (destinationPort sourcePort : UInt16) {len : UInt16}

/-- A word is written into the IP payload. -/
theorem writeNet16_ipPayload (hroom : 8 ≤ h.room) (h' : Stack) {start : UInt16} (x : UInt16)
    (hstart : start.toNat ≤ 6) :
    (Stack.onMem (h.ipPayload.writeNet16 start x)).run h' =
      (some (), h'.put (34 + start.toNat) (bytesOf16 (HTONS x))) := by
  have hsize := h.toNat_size_ipPayload
  have hbase := h.base_ipPayload (by unfold Stack.room at hroom; omega)
  rw [Buffer.writeNet16, Buffer.write16,
    Stack.onMem_write h.fits_ipPayload h.root_ipPayload h' (by simp; omega), hbase]

/-- The host with the header in its send buffer, but for the checksum. -/
def headed (len : UInt16) : Stack := h.put 34 (headerStart sourcePort destinationPort (len + 8))

/-- What `calcChecksum` is given: the checksum field holds what it held before. -/
def unsummed (len : UInt16) : Bytes :=
  Region.read (headed h destinationPort sourcePort len).mem .send 34 (8 + len.toNat)

/-- The checksum `sendDatagram` computes. -/
def checksumSent (len : UInt16) : UInt16 :=
  calcChecksum (h.ipPayload.view (headed h destinationPort sourcePort len).mem) (8 + len)
    h.ip.ipAddress destinationIP

variable (hfit : 8 + len.toNat ≤ h.room)

include hfit

/-- The length of the datagram does not go round its 16 bits. -/
theorem toNat_add_header : (len + 8).toNat = len.toNat + 8 := by
  have hsize := h.sendSize.toNat_lt
  unfold Stack.room at hfit
  rw [UInt16.toNat_add]
  exact Nat.mod_eq_of_lt (by simp; omega)

/-- The header is written word by word. -/
theorem headed_run {β : Type} (rest : Proc Stack β) : (do
      Stack.onMem (h.ipPayload.writeNet16 0 sourcePort)
      Stack.onMem (h.ipPayload.writeNet16 2 destinationPort)
      Stack.onMem (h.ipPayload.writeNet16 4 (len + 8))
      rest).run h = rest.run (headed h destinationPort sourcePort len) := by
  have hroom : 8 ≤ h.room := by omega
  have hstart : (((h.put 34 (bytesOf16 (HTONS sourcePort))).put 36
      (bytesOf16 (HTONS destinationPort))).put 38 (bytesOf16 (HTONS (len + 8)))) =
        headed h destinationPort sourcePort len := by
    simp only [headed, headerStart, ← Stack.put_put, List.length_append, length_bytesOf16,
      Nat.reduceAdd]
  rw [Proc.run_bind_of_some (writeNet16_ipPayload h hroom h sourcePort (by decide)),
    Proc.run_bind_of_some (writeNet16_ipPayload h hroom _ destinationPort (by decide)),
    Proc.run_bind_of_some (writeNet16_ipPayload h hroom _ (len + 8) (by decide)), ← hstart]
  rfl

variable {payload : Bytes} (hpayload : payload = Region.read h.mem .send 42 len.toNat)

include hpayload

omit hfit in
/-- The payload has the length it was sent with. -/
theorem lengthOf_payload : Buffer.lengthOf payload = len := by
  rw [hpayload, Buffer.lengthOf, Region.length_read, UInt16.ofNat_toNat]

omit hfit in
/-- Whatever the checksum, it is computed over the datagram that is sent. -/
theorem blank_unsummed (c : UInt16) : blank (unsummed h destinationPort sourcePort len) =
    blank (datagramOf sourcePort destinationPort c payload) := by
  have hhead : (unsummed h destinationPort sourcePort len).take 6 =
      headerStart sourcePort destinationPort (len + 8) := by
    rw [unsummed, Region.take_read _ _ _ (by omega), headed, Stack.mem_put,
      Region.read_write_eq _ _ _ (by simp)]
  have htail : (unsummed h destinationPort sourcePort len).drop 8 = payload := by
    rw [unsummed, Region.drop_read, hpayload, headed, Stack.mem_put,
      Region.read_write_disjoint _ _ _ (by simp), Nat.add_sub_cancel_left]
  have hother : blank (datagramOf sourcePort destinationPort c payload) =
      headerStart sourcePort destinationPort (Buffer.lengthOf payload + 8) ++ [0, 0] ++
        payload := rfl
  rw [hother, blank, hhead, htail, lengthOf_payload h hpayload]

omit hfit in
/-- The words do not depend on the checksum field. -/
theorem checksumWords_unsummed (s d : IPAddr) (c : UInt16) :
    checksumWords s d (unsummed h destinationPort sourcePort len) =
      checksumWords s d (datagramOf sourcePort destinationPort c payload) := by
  have hlen : Buffer.lengthOf (unsummed h destinationPort sourcePort len) =
      Buffer.lengthOf (datagramOf sourcePort destinationPort c payload) := by
    rw [Buffer.lengthOf, Buffer.lengthOf, length_datagramOf, hpayload, unsummed,
      Region.length_read, Region.length_read]
  rw [checksumWords, checksumWords, blank_unsummed h destinationPort sourcePort hpayload c, hlen]

/-- The checksum is the complement of the sum over the datagram that is sent. -/
theorem toNat_checksumSent (c : UInt16) :
    (checksumSent h destinationIP destinationPort sourcePort len).toNat =
      65535 - OnesComplement.sum 65535 (checksumWords h.ip.ipAddress destinationIP
        (datagramOf sourcePort destinationPort c payload)) := by
  have hadd := toNat_add_header h hfit
  have hsize := h.toNat_size_ipPayload
  have hroom : h.room = h.sendSize.toNat - 34 := rfl
  have h16 := h.sendSize.toNat_lt
  have hlen : (unsummed h destinationPort sourcePort len).length = 8 + len.toNat :=
    Region.length_read _ _ _ _
  have hlenOf : Buffer.lengthOf (unsummed h destinationPort sourcePort len) = 8 + len := by
    rw [Buffer.lengthOf, hlen, ← UInt16.toNat_inj, UInt16.add_comm, hadd]
    simp
    omega
  have hshows : (h.ipPayload.view (headed h destinationPort sourcePort len).mem).Shows
      (fun i => (unsummed h destinationPort sourcePort len).getD i 0)
      (unsummed h destinationPort sourcePort len).length := by
    have hblock := shows_block h.fits_ipPayload (headed h destinationPort sourcePort len).mem
      (n := 8 + len.toNat) (by omega)
    rw [h.root_ipPayload, h.base_ipPayload (by omega)] at hblock
    rw [hlen]
    exact hblock
  have hinside : Buffer.lengthOf (unsummed h destinationPort sourcePort len) ≤
      (h.ipPayload.view (headed h destinationPort sourcePort len).mem).size := by
    show _ ≤ h.ipPayload.size
    rw [UInt16.le_iff_toNat_le, hlenOf, UInt16.add_comm, hadd]
    omega
  have hsum := toNat_calcChecksum (by omega) (by omega) hshows hinside h.ip.ipAddress destinationIP
  rwa [hlenOf, checksumWords_unsummed h destinationPort sourcePort hpayload _ _ c] at hsum

omit hfit in
/-- With its checksum the send buffer holds the datagram. -/
theorem read_headed (c : UInt16) :
    Region.read ((headed h destinationPort sourcePort len).put 40 (bytesOf16 (HTONS c))).mem .send
      34 (8 + len.toNat) = datagramOf sourcePort destinationPort c payload := by
  have hfull : (headed h destinationPort sourcePort len).put 40 (bytesOf16 (HTONS c)) =
      h.put 34 (headerStart sourcePort destinationPort (len + 8) ++ bytesOf16 (HTONS c)) := by
    rw [headed, ← Stack.put_put]
    rfl
  rw [hfull, Stack.mem_put, Region.read_add, Region.read_write_eq _ _ _ (by simp),
    Region.read_write_disjoint _ _ _ (by simp), ← hpayload, datagramOf,
    lengthOf_payload h hpayload]
  rfl

/-- A datagram that fits and has a route is sent, and its checksum field holds the complement
of its sum. -/
theorem sendDatagram_run {mac : MACAddr}
    (hmac : IPHandler.getMACForIP destinationIP h = some mac) :
    ∃ (h' : Stack) (c : UInt16),
      (sendDatagram destinationIP destinationPort sourcePort len).run h = (some (), h') ∧
      h'.log = h.log ++ [.frame (frameOf h mac destinationIP (len + 8)
          (datagramOf sourcePort destinationPort c payload)),
        .packet destinationIP UDP_PROTOCOL (datagramOf sourcePort destinationPort c payload)] ∧
      c.toNat = 65535 - OnesComplement.sum 65535 (checksumWords h.ip.ipAddress destinationIP
        (datagramOf sourcePort destinationPort c payload)) := by
  have hadd := toNat_add_header h hfit
  have hsize := h.toNat_size_ipPayload
  have hroom : h.room = h.sendSize.toNat - 34 := rfl
  have hlen : (len + 8).toNat ≤ h.room := by omega
  have hfits : ¬ h.ipPayload.size < 8 + len := by
    rw [UInt16.lt_iff_toNat_lt, UInt16.add_comm, hadd]
    omega
  set c := checksumSent h destinationIP destinationPort sourcePort len with hc
  set full := (headed h destinationPort sourcePort len).put 40 (bytesOf16 (HTONS c)) with hfull
  have hrun : (sendDatagram destinationIP destinationPort sourcePort len).run h =
      (IPHandler.sendPacket destinationIP UDP_PROTOCOL (len + 8)).run full := by
    unfold sendDatagram DATAGRAM_HEADER_LENGTH
    rw [Proc.run_read_bind, if_neg hfits, headed_run h destinationPort sourcePort hfit,
      Proc.run_read_bind]
    exact Proc.run_bind_of_some (writeNet16_ipPayload h (by omega) _ c (by decide))
  have hsend := IPHandler.sendPacket_run full destinationIP UDP_PROTOCOL hlen
    (show 34 ≤ h.sendSize.toNat by omega) hmac rfl rfl
  rw [hadd, Nat.add_comm len.toNat 8, hfull,
    read_headed h destinationPort sourcePort hpayload c] at hsend
  exact ⟨_, c, hrun.trans hsend, rfl,
    toNat_checksumSent h destinationIP destinationPort sourcePort hfit hpayload c⟩

end Sending

/-- The datagram `d` is sent: the IP packet that the call adds to those sent before. -/
def Emits (h : Stack) (destinationIP : IPAddr) (destinationPort sourcePort len : UInt16)
    (d : Bytes) : Prop :=
  ∃ h', (sendDatagram destinationIP destinationPort sourcePort len).run h = (some (), h') ∧
    packetsOf h'.log = packetsOf h.log ++ [(destinationIP, UDP_PROTOCOL, d)]

/-- A datagram that is sent and has a checksum field was not cut, and had a route. -/
theorem Emits.fits {h : Stack} {destinationIP : IPAddr} {destinationPort sourcePort len : UInt16}
    {d : Bytes} (hd : Emits h destinationIP destinationPort sourcePort len d)
    (h8 : 8 ≤ d.length) :
    8 + len.toNat ≤ h.room ∧ (IPHandler.getMACForIP destinationIP h).isSome := by
  obtain ⟨h', hrun, hpackets⟩ := hd
  have hroom : h.room = h.sendSize.toNat - 34 := rfl
  have hlen := len.toNat_lt
  have hsends := sends_sendDatagram h destinationIP destinationPort sourcePort len
  by_cases hsent : (IPHandler.getMACForIP destinationIP h).isSome ∧ 42 ≤ h.sendSize.toNat ∧
      34 + (8 + len.toNat) % 65536 ≤ h.sendSize.toNat
  · obtain ⟨t, l, hrun', hlog, frame, payload, hl, -, hpayload⟩ := hsends.sent hsent h.mem
    have ht : h' = t := congrArg Prod.snd (hrun.symm.trans hrun')
    have hsame : payload = d := by
      rw [ht, hlog, hl, packetsOf_append] at hpackets
      simpa [packetsOf] using hpackets
    rw [← hsame] at h8
    exact ⟨by omega, hsent.1⟩
  · obtain ⟨t, hrun', -⟩ := hsends.refused hsent h.mem
    exact absurd (congrArg Prod.fst (hrun.symm.trans hrun')) (by simp)

/-- What is sent when it fits, with the complement of its sum as its checksum. -/
theorem emits_iff {h : Stack} {destinationIP : IPAddr} (destinationPort sourcePort : UInt16)
    {len : UInt16} (hfit : 8 + len.toNat ≤ h.room)
    (hroute : (IPHandler.getMACForIP destinationIP h).isSome) :
    let payload := Region.read h.mem .send 42 len.toNat
    ∃ c : UInt16, c.toNat = 65535 - OnesComplement.sum 65535 (checksumWords h.ip.ipAddress
        destinationIP (datagramOf sourcePort destinationPort c payload)) ∧
      ∀ d, Emits h destinationIP destinationPort sourcePort len d ↔
        d = datagramOf sourcePort destinationPort c payload := by
  intro payload
  obtain ⟨mac, hmac⟩ := Option.isSome_iff_exists.mp hroute
  obtain ⟨h', c, hrun, hlog, hc⟩ := sendDatagram_run h destinationIP destinationPort
    sourcePort hfit rfl hmac
  have hpackets : packetsOf h'.log = packetsOf h.log ++ [(destinationIP, UDP_PROTOCOL,
      datagramOf sourcePort destinationPort c payload)] := by
    rw [hlog, packetsOf_append]
    rfl
  refine ⟨c, hc, fun d => ⟨?_, ?_⟩⟩
  · rintro ⟨t, hrun', hpackets'⟩
    have ht : t = h' := congrArg Prod.snd (hrun'.symm.trans hrun)
    rw [ht, hpackets] at hpackets'
    simpa using hpackets'.symm
  · rintro rfl
    exact ⟨h', hrun, hpackets⟩

/-- The checksum of what is sent is right unless it is 0. -/
theorem emits_checksum_iff (h : Stack) (destinationIP : IPAddr)
    (destinationPort sourcePort len : UInt16) :
    (∀ d, Emits h destinationIP destinationPort sourcePort len d → 8 ≤ d.length →
        fieldAt d 6 ≠ 0 ∧ fieldAt d 6 = checksumOf h.ip.ipAddress destinationIP d) ↔
      ¬ (8 + len.toNat ≤ h.room ∧ (IPHandler.getMACForIP destinationIP h).isSome ∧
        ComputesZero h.ip.ipAddress destinationIP
          (datagramOf sourcePort destinationPort 0 (Region.read h.mem .send 42 len.toNat))) := by
  have hzero : ∀ c, ComputesZero h.ip.ipAddress destinationIP
      (datagramOf sourcePort destinationPort c (Region.read h.mem .send 42 len.toNat)) ↔
      ComputesZero h.ip.ipAddress destinationIP
        (datagramOf sourcePort destinationPort 0 (Region.read h.mem .send 42 len.toNat)) := by
    intro c
    unfold ComputesZero
    rw [checksumWords_datagramOf _ _ _ _ c 0]
  constructor
  · rintro hall ⟨hfit, hroute, hcomputes⟩
    obtain ⟨c, hc, hemits⟩ := emits_iff destinationPort sourcePort hfit hroute
    have hfield := (hall _ ((hemits _).mpr rfl) (by rw [length_datagramOf]; omega)).2
    have hsum := (onesSum_eq_iff _ _ _).mpr ((hzero c).mpr hcomputes)
    rw [fieldAt_datagramOf, hc, hsum, checksumOf_eq, if_pos ((hzero c).mpr hcomputes)] at hfield
    exact absurd hfield (by decide)
  · intro hnot d hd h8
    obtain ⟨hfit, hroute⟩ := hd.fits h8
    obtain ⟨c, hc, hemits⟩ := emits_iff destinationPort sourcePort hfit hroute
    obtain rfl := (hemits d).mp hd
    have hfield : fieldAt (datagramOf sourcePort destinationPort c
        (Region.read h.mem .send 42 len.toNat)) 6 = checksumOf h.ip.ipAddress destinationIP
          (datagramOf sourcePort destinationPort c (Region.read h.mem .send 42 len.toNat)) := by
      rw [fieldAt_datagramOf, hc, checksumOf_eq, if_neg]
      exact fun hcomputes => hnot ⟨hfit, hroute, (hzero c).mp hcomputes⟩
    refine ⟨?_, hfield⟩
    rw [hfield]
    exact checksumOf_ne_zero _ _ _

/-! ### Receiving -/

/-- A datagram as the protocol has it: its length field is its length, its checksum field its
checksum. -/
structure Valid (sourceIP destinationIP : IPAddr) (d : Bytes) : Prop where
  header : 8 ≤ d.length
  length : fieldAt d 4 = d.length
  checksum : fieldAt d 6 = checksumOf sourceIP destinationIP d

/-- The sum is the same from both ends. -/
theorem sum_checksumWords_comm (s d : IPAddr) (datagram : Bytes) :
    (checksumWords s d datagram).sum = (checksumWords d s datagram).sum := by
  rw [sum_checksumWords, sum_checksumWords]
  omega

/-- The checksum does not change when the addresses are exchanged. -/
theorem checksumOf_comm (s d : IPAddr) (datagram : Bytes) :
    checksumOf s d datagram = checksumOf d s datagram := by
  unfold checksumOf
  rw [onesSum_eq, onesSum_eq, sum_checksumWords_comm]

variable {ρ : Type}

/-- A valid datagram is given to the listener of its port, unless its checksum is 0. -/
theorem handlePacket_valid (udp : UDPHandler ρ) (localIP sourceIP : IPAddr) {datagram : Buffer}
    (hb : datagram.Fits) {m : Memory} (hvalid : Valid sourceIP localIP (datagram.contents m)) :
    udp.handlePacket localIP sourceIP datagram m =
      if ComputesZero sourceIP localIP (datagram.contents m) then none
      else (udp.getListener (UInt16.ofNat (fieldAt (datagram.contents m) 2))).map fun receiver =>
        (receiver, UInt16.ofNat (fieldAt (datagram.contents m) 0),
          OffsetBuffer.reinit datagram 8 (datagram.size - 8)) := by
  set data := datagram.contents m with hdata
  have h16 := datagram.size.toNat_lt
  have hlen : data.length = datagram.size.toNat := Region.length_read _ _ _ _
  have hlenOf : Buffer.lengthOf data = datagram.size := by
    rw [Buffer.lengthOf, hlen, UInt16.ofNat_toNat]
  have h8 := hvalid.header
  have hshows : (datagram.view m).Shows (fun i => data.getD i 0) data.length := by
    rw [hlen]
    exact shows_block hb m le_rfl
  have hread : ∀ i : UInt16, i.toNat + 2 ≤ 8 →
      ∃ x, (datagram.view m).readNet16 i = some x ∧ x.toNat = fieldAt data i.toNat := by
    intro i hi
    exact ⟨_, hshows.readNet16 (by omega), toNat_NTOHS_word16 _ _⟩
  obtain ⟨udpLength, hudpLength, hudpLength'⟩ := hread 4 (by decide)
  obtain ⟨checksum, hchecksum, hchecksum'⟩ := hread 6 (by decide)
  obtain ⟨sourcePort, hsource, hsource'⟩ := hread 0 (by decide)
  obtain ⟨destinationPort, hdestination, hdestination'⟩ := hread 2 (by decide)
  have hudpSize : udpLength = datagram.size := by
    rw [← UInt16.toNat_inj, hudpLength', ← hlen]
    exact hvalid.length
  have hfield : checksum.toNat = checksumOf sourceIP localIP data :=
    hchecksum'.trans hvalid.checksum
  have hpos : checksum ≠ 0 := by
    intro h0
    rw [h0] at hfield
    exact checksumOf_ne_zero _ _ _ hfield.symm
  have hview : (datagram.view m).size = datagram.size := rfl
  have hshort : ¬ (datagram.view m).size < DATAGRAM_HEADER_LENGTH := by
    rw [hview, UInt16.lt_iff_toNat_lt, Nat.not_lt, ← hlen]
    exact h8
  have hlong : ¬ udpLength > (datagram.view m).size := by
    rw [hview, hudpSize]
    exact UInt16.lt_irrefl _
  have hcalc := calcChecksum_eq_iff (by omega) h8 hshows
    (by rw [hlenOf, hview]; exact UInt16.le_refl _) localIP sourceIP
  rw [hlenOf, checksumOf_comm, ← hfield, UInt16.toNat_inj] at hcalc
  have hzero : ComputesZero sourceIP localIP data ↔ ComputesZero localIP sourceIP data := by
    unfold ComputesZero
    rw [sum_checksumWords_comm]
  have hports : destinationPort = UInt16.ofNat (fieldAt data 2) ∧
      sourcePort = UInt16.ofNat (fieldAt data 0) := by
    have h2 : UInt16.toNat 2 = 2 := rfl
    have h0 : UInt16.toNat 0 = 0 := rfl
    rw [h2] at hdestination'
    rw [h0] at hsource'
    rw [← hdestination', ← hsource', UInt16.ofNat_toNat, UInt16.ofNat_toNat]
    exact ⟨rfl, rfl⟩
  unfold handlePacket
  dsimp only
  rw [if_neg hshort, hudpLength]
  dsimp only [Option.bind_eq_bind, Option.bind_some]
  rw [if_neg hlong, hchecksum]
  dsimp only [Option.bind_some]
  rw [hview]
  by_cases hz : ComputesZero sourceIP localIP data
  · rw [if_pos hz, if_pos ⟨hpos, fun h => hcalc.mp h.symm (hzero.mp hz)⟩]
  · rw [if_neg hz, if_neg (fun h => h.2 (hcalc.mpr (mt hzero.mpr hz)).symm), hsource,
      hdestination]
    dsimp only [Option.bind_some]
    rw [hports.1, hports.2, hudpSize]
    cases udp.getListener (UInt16.ofNat (fieldAt data 2)) <;> rfl

/-- The view `handlePacket` makes of a datagram that fills its packet. -/
theorem contents_payload {datagram : Buffer} (m : Memory) (h8 : 8 ≤ datagram.size.toNat) :
    (OffsetBuffer.reinit datagram 8 (datagram.size - 8)).contents m =
      (datagram.contents m).drop 8 := by
  have hle : (8 : UInt16) ≤ datagram.size := UInt16.le_iff_toNat_le.mpr h8
  have hsub : (datagram.size - 8).toNat = datagram.size.toNat - 8 :=
    UInt16.toNat_sub_of_le _ _ hle
  have hview : OffsetBuffer.reinit datagram 8 (datagram.size - 8) =
      .offsetBuffer (datagram.size - 8) 8 datagram := by
    unfold OffsetBuffer.reinit
    rw [if_neg (UInt16.not_lt.mpr hle)]
    dsimp only
    rw [if_neg fun h => UInt16.lt_irrefl _ h.2]
  rw [hview, Buffer.contents, Buffer.contents, Region.drop_read, Buffer.size, hsub]
  rfl

/-- Both directions keep to the rule for just the datagrams whose sum is not a multiple of
0xFFFF: a checksum of 0 is sent as 0, and a field of 0xFFFF is taken for a wrong one. -/
theorem checksum_iff (h : Stack) (destinationIP : IPAddr) (destinationPort sourcePort len : UInt16)
    (udp : UDPHandler ρ) (localIP sourceIP : IPAddr) (datagram : Buffer) (hb : datagram.Fits)
    (m : Memory) :
    let listener := udp.getListener (UInt16.ofNat (fieldAt (datagram.contents m) 2))
    ((∀ d, Emits h destinationIP destinationPort sourcePort len d → 8 ≤ d.length →
        fieldAt d 6 ≠ 0 ∧ fieldAt d 6 = checksumOf h.ip.ipAddress destinationIP d) ↔
      ¬ (8 + len.toNat ≤ h.room ∧ (IPHandler.getMACForIP destinationIP h).isSome ∧
        ComputesZero h.ip.ipAddress destinationIP
          (datagramOf sourcePort destinationPort 0 (Region.read h.mem .send 42 len.toNat)))) ∧
    ((Valid sourceIP localIP (datagram.contents m) → ∀ receiver, listener = some receiver →
        ∃ payload, udp.handlePacket localIP sourceIP datagram m =
            some (receiver, UInt16.ofNat (fieldAt (datagram.contents m) 0), payload) ∧
          payload.contents m = (datagram.contents m).drop 8) ↔
      ¬ (Valid sourceIP localIP (datagram.contents m) ∧ listener.isSome ∧
        ComputesZero sourceIP localIP (datagram.contents m))) := by
  intro listener
  refine ⟨emits_checksum_iff h destinationIP destinationPort sourcePort len, ?_⟩
  constructor
  · rintro haccepts ⟨hvalid, hlistener, hzero⟩
    obtain ⟨receiver, hreceiver⟩ := Option.isSome_iff_exists.mp hlistener
    obtain ⟨payload, hsome, -⟩ := haccepts hvalid receiver hreceiver
    rw [handlePacket_valid udp localIP sourceIP hb hvalid, if_pos hzero] at hsome
    cases hsome
  · intro hnot hvalid receiver hreceiver
    have hzero : ¬ ComputesZero sourceIP localIP (datagram.contents m) := fun hzero =>
      hnot ⟨hvalid, by rw [hreceiver]; rfl, hzero⟩
    have h8 : 8 ≤ datagram.size.toNat := by
      have hheader := hvalid.header
      rwa [Buffer.contents, Region.length_read] at hheader
    refine ⟨OffsetBuffer.reinit datagram 8 (datagram.size - 8), ?_, contents_payload m h8⟩
    rw [handlePacket_valid udp localIP sourceIP hb hvalid, if_neg hzero]
    exact congrArg _ hreceiver

/-- The datagram in a receive buffer of its own. -/
def received (d : Bytes) : Memory := fun _ i => d.getD i 0

/-- A datagram from port 1024 of 10.0.0.1 to port 53 of 10.0.0.2 arrives. -/
theorem checksum_accepted :
    ∃ payload, (UDPHandler.mk [⟨53, some ()⟩]).handlePacket ⟨10, 0, 0, 2⟩ ⟨10, 0, 0, 1⟩
        (.memBuffer .receive 9) (received (datagramOf 1024 53 57508 [7])) =
          some ((), 1024, payload) ∧
      payload.contents (received (datagramOf 1024 53 57508 [7])) = [7] :=
  (checksum_iff (exampleStack 1 2) ⟨10, 0, 0, 2⟩ 53 1024 1 (UDPHandler.mk [⟨53, some ()⟩])
    ⟨10, 0, 0, 2⟩ ⟨10, 0, 0, 1⟩ (.memBuffer .receive 9) trivial
    (received (datagramOf 1024 53 57508 [7]))).2.mpr
      (fun hnot => absurd hnot.2.2 (by decide)) ⟨by decide, by decide, by decide⟩ () rfl

/-- The datagram without payload from port 60326 of 10.0.0.1 to port 53 of 10.0.0.2 has a sum of
0xFFFF: its checksum is sent as 0, and is not accepted as the 0xFFFF it should be. -/
theorem checksum_zero :
    (∃ d, Emits (exampleStack 1 2) ⟨10, 0, 0, 2⟩ 53 60326 0 d ∧ d.length = 8 ∧
      fieldAt d 6 = 0) ∧
    Valid ⟨10, 0, 0, 1⟩ ⟨10, 0, 0, 2⟩ (datagramOf 60326 53 0xFFFF []) ∧
    (UDPHandler.mk [⟨53, some ()⟩]).handlePacket ⟨10, 0, 0, 2⟩ ⟨10, 0, 0, 1⟩
      (.memBuffer .receive 8) (received (datagramOf 60326 53 0xFFFF [])) = none := by
  have hvalid : Valid ⟨10, 0, 0, 1⟩ ⟨10, 0, 0, 2⟩ (datagramOf 60326 53 0xFFFF []) :=
    ⟨by decide, by decide, by decide⟩
  refine ⟨?_, hvalid, ?_⟩
  · obtain ⟨c, hc, hemits⟩ :=
      @emits_iff (exampleStack 1 2) ⟨10, 0, 0, 2⟩ 53 60326 0 (by decide) (by decide)
    have hsum := (onesSum_eq_iff ⟨10, 0, 0, 1⟩ ⟨10, 0, 0, 2⟩ (datagramOf 60326 53 0 [])).mpr
      (by decide)
    rw [checksumWords_datagramOf _ _ _ _ 0 c] at hsum
    refine ⟨_, (hemits _).mpr rfl, rfl, ?_⟩
    rw [fieldAt_datagramOf, hc]
    exact Nat.sub_eq_zero_of_le hsum.ge
  · have hcontents : (Buffer.memBuffer .receive 8).contents
        (received (datagramOf 60326 53 0xFFFF [])) = datagramOf 60326 53 0xFFFF [] := rfl
    have hfits : (Buffer.memBuffer .receive 8).Fits := trivial
    rw [handlePacket_valid _ _ _ hfits (by rw [hcontents]; exact hvalid), hcontents,
      if_pos (by decide)]

end UDPHandler

end AtmegaNet
