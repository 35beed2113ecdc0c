import AtmegaNet.Receive
import AtmegaNet.UDPChecksum

/-!
# A datagram from end to end

A datagram that one host sends is handed to the listener of another, with just its payload,
whatever padding its frame gets on the way. The one's complement sum that the sender computes is
the one the receiver finds; where its complement is 0, the datagram goes without a checksum.

## Main results

* `EtherControl.processFrame_ip`, `IPHandler.handlePayload_header`,
  `UDPHandler.handlePacket_datagram`: each layer reads back what the sender has written.
* `UDPHandler.sendDatagram_received`: the round trip.
-/

open Procedure

namespace AtmegaNet

/-! ### Reading back what was written -/

/-- A fitting buffer shows its contents. -/
theorem Buffer.shows_contents {b : Buffer} (hb : b.Fits) (m : Memory) :
    (b.view m).Shows (fun i => (b.contents m).getD i 0) (b.contents m).length := by
  have hlen : (b.contents m).length = b.size.toNat := Region.length_read _ _ _ _
  rw [hlen]
  exact shows_block hb m (Nat.le_refl _)

/-- A field in network order is read as what was written. -/
theorem View.Shows.readNet16_eq {v : View} {f : ℕ → UInt8} {n : ℕ} {i x : UInt16}
    (h : v.Shows f n) (hi : i.toNat + 2 ≤ n) (hlow : f i.toNat = (HTONS x).toUInt8)
    (hhigh : f (i.toNat + 1) = (HTONS x >>> 8).toUInt8) : v.readNet16 i = some x := by
  rw [h.readNet16 hi, hlow, hhigh]
  exact congrArg some ((congrArg NTOHS (word16_bytesOf16 _)).trans (NTOHS_HTONS x))

/-- A block is read as it was written. -/
theorem View.Shows.read_four {v : View} {f : ℕ → UInt8} {n : ℕ} {i : UInt16}
    (h : v.Shows f n) (hi : i.toNat + 4 ≤ n) :
    v.read i 4 = some [f i.toNat, f (i.toNat + 1), f (i.toNat + 2), f (i.toNat + 3)] := by
  rw [h i 4 hi]
  rfl

/-- The contents of a view behind a header. -/
theorem IsPart.contents {b inner : Buffer} {header length : ℕ} (h : IsPart b inner header length)
    (hle : length ≤ inner.size.toNat) (m : Memory) :
    b.contents m = ((inner.contents m).take length).drop header := by
  rw [Buffer.contents, Buffer.contents, Region.take_read _ _ _ hle, Region.drop_read, h.root,
    h.start, h.size]

/-! ### The Ethernet header -/

namespace EtherControl

/-- A frame with an IP packet, in the receive buffer. -/
theorem processFrame_ip {h : Stack} {destinationMAC sourceMAC : MACAddr} {packet : Bytes}
    {len : UInt16} (hlen : len.toNat = 14 + packet.length) (hmax : len ≤ h.recvSize)
    (hpos : packet ≠ [])
    (hmem : Region.read h.mem .receive 0 len.toNat =
      etherHeader destinationMAC sourceMAC 0x0800 ++ packet)
    (hip : getProtocolHandler 0x0800 h.etherControl = some .ip) :
    ∃ p : Buffer, processFrame len h = some (.ip, p) ∧ p.Fits ∧ p.contents h.mem = packet := by
  have hpacket : 0 < packet.length := List.length_pos_iff.mpr hpos
  have hmax' := UInt16.le_iff_toNat_le.mp hmax
  have hfits : h.receiveBuffer.Fits := trivial
  have hsize : h.receiveBuffer.size = h.recvSize := rfl
  have hbase : h.receiveBuffer.base = 0 := rfl
  have hroot : h.receiveBuffer.root = .receive := rfl
  have hheader : (14 : UInt16) ≤ h.receiveBuffer.size :=
    UInt16.le_iff_toNat_le.mpr (by rw [hsize]; simp; omega)
  have hshows := shows_block hfits h.mem (n := len.toNat) (by rw [hsize]; exact hmax')
  rw [hroot, hbase, hmem] at hshows
  have htype : (h.receiveBuffer.view h.mem).readNet16 12 = some 0x0800 :=
    hshows.readNet16_eq (by simp; omega) rfl rfl
  have hpart := (OffsetBuffer.isPart_reinit_iff hheader hmax).mpr
    (.inl (UInt16.lt_iff_toNat_lt.mpr (by simp; omega)))
  refine ⟨_, ?_, OffsetBuffer.fits_reinit hfits 14 (len - 14), ?_⟩
  · unfold processFrame
    rw [if_pos (UInt16.lt_iff_toNat_lt.mpr (by simp; omega)), htype]
    dsimp only [Option.bind_eq_bind, Option.bind_some]
    rw [hip]
    rfl
  · rw [hpart.contents hmax', Buffer.contents, hsize, Region.take_read _ _ _ hmax', hroot, hbase,
      hmem]
    exact List.drop_left' rfl

end EtherControl

/-! ### The IP header -/

namespace IPHandler

/-- A packet that `sendPacket` has written, with anything behind it. -/
theorem handlePayload_header {p : Buffer} (hp : p.Fits) {m : Memory} {ip : IPHandler}
    {sourceIP : IPAddr} {protocol : UInt8} {payload padding : Bytes} {len : UInt16}
    {handler : PacketHandler} (hlen : len.toNat = 20 + payload.length) (hpos : payload ≠ [])
    (hcontents : p.contents m =
      ipHeader sourceIP ip.ipAddress protocol len
        (ipChecksum sourceIP ip.ipAddress protocol len) ++ payload ++ padding)
    (hhandler : getProtocolHandler protocol ip = some handler) :
    ∃ d : Buffer, handlePayload p ip m = some (handler, sourceIP, d) ∧ d.Fits ∧
      d.contents m = payload := by
  have hpayload : 0 < payload.length := List.length_pos_iff.mpr hpos
  have hsize : p.size.toNat = 20 + payload.length + padding.length := by
    have hlength : (p.contents m).length = p.size.toNat := Region.length_read _ _ _ _
    rw [← hlength, hcontents, List.length_append, List.length_append, length_ipHeader]
  have hshows := p.shows_contents hp m
  have hn : (p.contents m).length = p.size.toNat := Region.length_read _ _ _ _
  rw [hn, hcontents] at hshows
  set sum := ipChecksum sourceIP ip.ipAddress protocol len with hsum
  have hview : (p.view m).size = p.size := rfl
  have hheader : IP_HEADER_LENGTH ≤ p.size :=
    UInt16.le_iff_toNat_le.mpr (by simp [IP_HEADER_LENGTH]; omega)
  have hlong : len ≤ p.size := UInt16.le_iff_toNat_le.mpr (by omega)
  have hchecksum : (p.view m).readNet16 10 = some sum :=
    hshows.readNet16_eq (by simp; omega) rfl rfl
  have hcomputed : (p.view m).checksum IP_HEADER_LENGTH 10 0 = sum := by
    refine View.checksum_congr 0 hheader (UInt16.le_refl 20)
      (hshows.mono (UInt16.le_iff_toNat_le.mp hheader)) (shows_viewOf (by simp)) (by decide) ?_
    intro i hi h10 h11
    have hi' : i < 20 := hi
    simp at h10 h11
    interval_cases i <;> first | rfl | contradiction
  have htotal : (p.view m).readNet16 2 = some len :=
    hshows.readNet16_eq (by simp; omega) rfl rfl
  have hdestination : (p.view m).read 16 4 = some ip.ipAddress.bytes :=
    hshows.read_four (by simp; omega)
  have hprotocol : (p.view m).read8 9 = some protocol := hshows.read8 (by simp; omega)
  have hsource : (p.view m).read 12 4 = some sourceIP.bytes :=
    hshows.read_four (by simp; omega)
  have hpart := (OffsetBuffer.isPart_reinit_iff hheader hlong).mpr
    (.inl (UInt16.lt_iff_toNat_lt.mpr (by simp [IP_HEADER_LENGTH]; omega)))
  refine ⟨_, ?_, OffsetBuffer.fits_reinit hp IP_HEADER_LENGTH (len - IP_HEADER_LENGTH), ?_⟩
  · unfold handlePayload
    dsimp only
    rw [hview, if_neg (UInt16.not_lt.mpr hheader), hchecksum]
    dsimp only [Option.bind_eq_bind, Option.bind_some]
    rw [hcomputed, if_neg (fun h => h rfl), htotal]
    dsimp only [Option.bind_some]
    rw [if_neg (UInt16.not_lt.mpr hlong), hdestination]
    dsimp only [Option.bind_some]
    rw [IPAddr.ofBytes_bytes, if_neg (fun h => h.1 rfl), hprotocol]
    dsimp only [Option.bind_some]
    rw [hhandler, hsource]
    rfl
  · rw [hpart.contents (by omega), hcontents, List.take_left' (by
      rw [List.length_append, length_ipHeader, hlen])]
    exact List.drop_left' rfl

end IPHandler

/-! ### The UDP header -/

namespace UDPHandler

variable {ρ : Type}

/-- A datagram that fills its packet and goes without a checksum, for the listener of its port. -/
theorem handlePacket_unchecked (udp : UDPHandler ρ) (localIP sourceIP : IPAddr) {d : Buffer}
    (hd : d.Fits) {m : Memory} {sourcePort destinationPort : UInt16} {payload : Bytes}
    (hcontents : d.contents m = datagramOf sourcePort destinationPort 0 payload) :
    udp.handlePacket localIP sourceIP d m =
      (udp.getListener destinationPort).map fun receiver =>
        (receiver, sourcePort, OffsetBuffer.reinit d 8 (d.size - 8)) := by
  have hlength : d.size.toNat = 8 + payload.length := by
    have hn : (d.contents m).length = d.size.toNat := Region.length_read _ _ _ _
    rw [← hn, hcontents, length_datagramOf]
  have h16 := d.size.toNat_lt
  have hsize : Buffer.lengthOf payload + DATAGRAM_HEADER_LENGTH = d.size := by
    rw [← UInt16.toNat_inj, UInt16.toNat_add, Buffer.toNat_lengthOf (by omega), hlength]
    exact (Nat.mod_eq_of_lt (by simp [DATAGRAM_HEADER_LENGTH]; omega)).trans (Nat.add_comm _ _)
  have hshows := d.shows_contents hd m
  rw [hcontents, length_datagramOf] at hshows
  have hread : ∀ {i x : UInt16}, i.toNat ≤ 6 →
      (datagramOf sourcePort destinationPort 0 payload).getD i.toNat 0 = (HTONS x).toUInt8 →
      (datagramOf sourcePort destinationPort 0 payload).getD (i.toNat + 1) 0 =
        (HTONS x >>> 8).toUInt8 → (d.view m).readNet16 i = some x :=
    fun hi hlow hhigh => hshows.readNet16_eq (by omega) hlow hhigh
  have hudpLength : (d.view m).readNet16 4 = some d.size := by
    rw [← hsize]
    exact hread (by decide) rfl rfl
  have hchecksum : (d.view m).readNet16 6 = some 0 := hread (by decide) rfl rfl
  have hsource : (d.view m).readNet16 0 = some sourcePort := hread (by decide) rfl rfl
  have hdestination : (d.view m).readNet16 2 = some destinationPort := hread (by decide) rfl rfl
  have hview : (d.view m).size = d.size := rfl
  have hheader : ¬ d.size < DATAGRAM_HEADER_LENGTH := by
    rw [UInt16.lt_iff_toNat_lt, Nat.not_lt, hlength]
    exact Nat.le_add_right 8 _
  unfold handlePacket
  dsimp only
  rw [hview, if_neg hheader, hudpLength]
  dsimp only [Option.bind_eq_bind, Option.bind_some]
  rw [if_neg (UInt16.lt_irrefl _), hchecksum]
  dsimp only [Option.bind_some]
  rw [if_neg (fun h => h.1 rfl), hsource, hdestination]
  dsimp only [Option.bind_some]
  cases udp.getListener destinationPort <;> rfl

/-- A datagram with the checksum that `sendDatagram` gives it, for the listener of its port. -/
theorem handlePacket_datagram (udp : UDPHandler ρ) (localIP sourceIP : IPAddr) {d : Buffer}
    (hd : d.Fits) {m : Memory} {sourcePort destinationPort c : UInt16} {payload : Bytes}
    (hcontents : d.contents m = datagramOf sourcePort destinationPort c payload)
    (hc : c.toNat = 65535 - OnesComplement.sum 65535 (checksumWords sourceIP localIP
      (datagramOf sourcePort destinationPort c payload))) :
    udp.handlePacket localIP sourceIP d m =
      (udp.getListener destinationPort).map fun receiver =>
        (receiver, sourcePort, OffsetBuffer.reinit d 8 (d.size - 8)) := by
  by_cases hzero : ComputesZero sourceIP localIP
      (datagramOf sourcePort destinationPort c payload)
  · rw [(onesSum_eq_iff _ _ _).mpr hzero] at hc
    obtain rfl : c = 0 := UInt16.toNat_inj.mp hc
    exact handlePacket_unchecked udp localIP sourceIP hd hcontents
  · have hlength : d.size.toNat = 8 + payload.length := by
      have hn : (d.contents m).length = d.size.toNat := Region.length_read _ _ _ _
      rw [← hn, hcontents, length_datagramOf]
    have h16 := d.size.toNat_lt
    have hsum : ¬ OnesComplement.sum 65535 (checksumWords sourceIP localIP
        (datagramOf sourcePort destinationPort c payload)) = 65535 :=
      fun h => hzero ((onesSum_eq_iff _ _ _).mp h)
    have hvalid : Valid sourceIP localIP (d.contents m) := by
      rw [hcontents]
      refine ⟨?_, ?_, ?_⟩
      · rw [length_datagramOf]
        exact Nat.le_add_right 8 _
      · have hfield : fieldAt (datagramOf sourcePort destinationPort c payload) 4 =
            (Buffer.lengthOf payload + DATAGRAM_HEADER_LENGTH).toNat := toNat_HTONS_bytes _
        rw [hfield, length_datagramOf, UInt16.toNat_add, Buffer.toNat_lengthOf (by omega)]
        exact (Nat.mod_eq_of_lt (by simp [DATAGRAM_HEADER_LENGTH]; omega)).trans
          (Nat.add_comm _ _)
      · rw [fieldAt_datagramOf, hc, checksumOf]
        exact (if_neg hsum).symm
    have hports : fieldAt (d.contents m) 2 = destinationPort.toNat ∧
        fieldAt (d.contents m) 0 = sourcePort.toNat := by
      rw [hcontents]
      exact ⟨toNat_HTONS_bytes _, toNat_HTONS_bytes _⟩
    rw [handlePacket_valid udp localIP sourceIP hd hvalid, hports.1, hports.2,
      UInt16.ofNat_toNat, UInt16.ofNat_toNat, if_neg (by rw [hcontents]; exact hzero)]

end UDPHandler

/-! ### From end to end -/

namespace Stack

variable {ρ : Type}

/-- What becomes of a frame of `len` bytes that was received: the call of `handleDatagram` it ends
in, with the receiver, the sender's address and port, and the payload. -/
def receiveFrame (h : Stack) (udp : UDPHandler ρ) (len : UInt16) :
    Option (ρ × IPAddr × UInt16 × Buffer) :=
  match EtherControl.processFrame len h with
  | some (.ip, p) =>
      match IPHandler.handlePayload p h.ip h.mem with
      | some (.udp, sourceIP, d) =>
          (udp.handlePacket h.ip.ipAddress sourceIP d h.mem).map fun delivery =>
            (delivery.1, sourceIP, delivery.2.1, delivery.2.2)
      | _ => none
  | _ => none

/-- A host that IP and UDP are registered with, and a frame that has arrived in its receive
buffer. -/
structure Receives (h : Stack) (frame : Bytes) : Prop where
  ether : EtherControl.getProtocolHandler IP_PROTOCOL h.etherControl = some .ip
  ip : IPHandler.getProtocolHandler UDPHandler.UDP_PROTOCOL h.ip = some .udp
  room : frame.length ≤ h.recvSize.toNat
  arrived : Region.read h.mem .receive 0 frame.length = frame

/-- The frame of a datagram, padded or not, ends in the call of the listener of its port. -/
theorem receiveFrame_frameOf {h r : Stack} {mac : MACAddr} {destinationIP : IPAddr}
    {sourcePort destinationPort len c : UInt16} {payload padding : Bytes} {receiver : ρ}
    {udp : UDPHandler ρ} (hlen : len.toNat = payload.length) (hfit : 42 + payload.length < 65536)
    (hc : c.toNat = 65535 - OnesComplement.sum 65535 (checksumWords h.ip.ipAddress destinationIP
      (UDPHandler.datagramOf sourcePort destinationPort c payload)))
    (hr : r.Receives (UDPHandler.frameOf h mac destinationIP (len + 8)
      (UDPHandler.datagramOf sourcePort destinationPort c payload) ++ padding))
    (hip : r.ip.ipAddress = destinationIP)
    (hlistener : udp.getListener destinationPort = some receiver) :
    ∃ b, r.receiveFrame udp (Buffer.lengthOf (UDPHandler.frameOf h mac destinationIP (len + 8)
        (UDPHandler.datagramOf sourcePort destinationPort c payload) ++ padding)) =
          some (receiver, h.ip.ipAddress, sourcePort, b) ∧
      b.contents r.mem = payload := by
  subst hip
  obtain ⟨hether, hudp, hroom, harrived⟩ := hr
  set datagram := UDPHandler.datagramOf sourcePort destinationPort c payload with hdatagram
  set frame := UDPHandler.frameOf h mac r.ip.ipAddress (len + 8) datagram with hframe
  have h16 := r.recvSize.toNat_lt
  have hlength : datagram.length = 8 + payload.length := UDPHandler.length_datagramOf _ _ _ _
  have htotal : (len + 8 + 20).toNat = 20 + datagram.length := by
    have h8 : (len + 8).toNat = len.toNat + 8 := by
      rw [UInt16.toNat_add]
      exact Nat.mod_eq_of_lt (by simp; omega)
    rw [UInt16.toNat_add, h8, hlength, hlen]
    exact (Nat.mod_eq_of_lt (by simp; omega)).trans (by simp; omega)
  have hframeLength : (Buffer.lengthOf (frame ++ padding)).toNat = (frame ++ padding).length :=
    Buffer.toNat_lengthOf (by omega)
  have hsplit : frame ++ padding = etherHeader mac h.macAddr 0x0800 ++
      (IPHandler.ipHeader h.ip.ipAddress r.ip.ipAddress UDPHandler.UDP_PROTOCOL (len + 8 + 20)
        (IPHandler.ipChecksum h.ip.ipAddress r.ip.ipAddress UDPHandler.UDP_PROTOCOL
          (len + 8 + 20)) ++ datagram ++ padding) := by
    simp only [hframe, UDPHandler.frameOf, List.append_assoc]
  have hpos : datagram ≠ [] := List.ne_nil_of_length_pos (by omega)
  have hmem : Region.read r.mem .receive 0 (Buffer.lengthOf (frame ++ padding)).toNat =
      etherHeader mac h.macAddr 0x0800 ++
        (IPHandler.ipHeader h.ip.ipAddress r.ip.ipAddress UDPHandler.UDP_PROTOCOL (len + 8 + 20)
          (IPHandler.ipChecksum h.ip.ipAddress r.ip.ipAddress UDPHandler.UDP_PROTOCOL
            (len + 8 + 20)) ++ datagram ++ padding) := by
    rw [hframeLength, harrived]
    exact hsplit
  obtain ⟨p, hp, hpfits, hpcontents⟩ := EtherControl.processFrame_ip
    (by rw [hframeLength, hsplit, List.length_append, length_etherHeader])
    (UInt16.le_iff_toNat_le.mpr (by omega)) (by simp [hpos]) hmem hether
  obtain ⟨d, hd, hdfits, hdcontents⟩ :=
    IPHandler.handlePayload_header hpfits htotal hpos hpcontents hudp
  have hpacket := UDPHandler.handlePacket_datagram udp r.ip.ipAddress h.ip.ipAddress hdfits
    hdcontents hc
  refine ⟨OffsetBuffer.reinit d 8 (d.size - 8), ?_, ?_⟩
  · rw [receiveFrame, hp]
    dsimp only
    rw [hd]
    dsimp only
    rw [hpacket, hlistener]
    rfl
  · have hsize : d.size.toNat = 8 + payload.length := by
      have hn : (d.contents r.mem).length = d.size.toNat := Region.length_read _ _ _ _
      rw [← hn, hdcontents, hlength]
    rw [UDPHandler.contents_payload r.mem (by omega), hdcontents]
    exact List.drop_left' rfl

end Stack

namespace UDPHandler

variable {ρ : Type}

/-- A datagram that was sent had a route. -/
theorem route_of_sent {h h' : Stack} {destinationIP : IPAddr}
    {destinationPort sourcePort len : UInt16}
    (hsent : (sendDatagram destinationIP destinationPort sourcePort len).run h = (some (), h')) :
    ∃ mac, IPHandler.getMACForIP destinationIP h = some mac := by
  rw [← Option.isSome_iff_exists]
  by_contra hno
  obtain ⟨t, hrefused, -⟩ :=
    (sends_sendDatagram h destinationIP destinationPort sourcePort len).refused
      (fun hc => hno hc.1) h.mem
  exact absurd (congrArg Prod.fst (hsent.symm.trans hrefused)) (by simp)

/-- A payload that is given is written behind the header first. -/
theorem sendDatagramOf_run (h : Stack) (destinationIP : IPAddr)
    (destinationPort sourcePort : UInt16) {payload : Bytes}
    (hfit : 42 + payload.length ≤ h.sendSize.toNat) :
    (sendDatagramOf destinationIP destinationPort sourcePort payload).run h =
      (sendDatagram destinationIP destinationPort sourcePort (Buffer.lengthOf payload)).run
        (h.put 42 payload) := by
  have h16 := h.sendSize.toNat_lt
  have hroom : h.room = h.sendSize.toNat - 34 := rfl
  have hlen : (Buffer.lengthOf payload).toNat = payload.length :=
    Buffer.toNat_lengthOf (by omega)
  have hsize := h.toNat_size_ipPayload
  have hfits : ¬ h.ipPayload.size < DATAGRAM_HEADER_LENGTH + Buffer.lengthOf payload := by
    rw [UInt16.lt_iff_toNat_lt, UInt16.toNat_add, hlen, hsize, Nat.not_lt]
    refine (Nat.mod_le _ _).trans ?_
    simp [DATAGRAM_HEADER_LENGTH]
    omega
  have hwrite : (Stack.onMem (h.ipPayload.write DATAGRAM_HEADER_LENGTH payload)).run h =
      (some (), h.put (h.ipPayload.base + DATAGRAM_HEADER_LENGTH.toNat) payload) :=
    Stack.onMem_write h.fits_ipPayload h.root_ipPayload h
      (by simp [DATAGRAM_HEADER_LENGTH]; omega)
  rw [h.base_ipPayload (by omega)] at hwrite
  unfold sendDatagramOf
  rw [Proc.run_read_bind, if_neg hfits]
  exact Proc.run_bind_of_some hwrite

/-- A datagram for which `sendDatagram` returns true, with its payload in the send buffer or
given to it, is one frame; and whichever host of that address receives the frame, padded or not,
hands the payload to the listener of its port, with the sender's address and port. -/
theorem sendDatagram_received {x : Proc Stack Unit} {h h' : Stack} {destinationIP : IPAddr}
    {destinationPort sourcePort len : UInt16} {payload : Bytes}
    (hx : x = sendDatagram destinationIP destinationPort sourcePort len ∧
        payload = Region.read h.mem .send 42 len.toNat ∨
      x = sendDatagramOf destinationIP destinationPort sourcePort payload)
    (hfit : 42 + payload.length ≤ h.sendSize.toNat) (hsent : x.run h = (some (), h')) :
    ∃ frame, framesOf h'.log = framesOf h.log ++ [frame] ∧
      ∀ (r : Stack) (udp : UDPHandler ρ) (receiver : ρ) (padding : Bytes),
        r.Receives (frame ++ padding) → r.ip.ipAddress = destinationIP →
          udp.getListener destinationPort = some receiver →
            ∃ b, r.receiveFrame udp (Buffer.lengthOf (frame ++ padding)) =
                some (receiver, h.ip.ipAddress, sourcePort, b) ∧
              b.contents r.mem = payload := by
  have h16 := h.sendSize.toNat_lt
  -- with the payload in the buffer already
  have hplain : ∀ (t : Stack) (n : UInt16), t.sendSize = h.sendSize → t.ip = h.ip →
      t.log = h.log → n.toNat = payload.length → payload = Region.read t.mem .send 42 n.toNat →
      (sendDatagram destinationIP destinationPort sourcePort n).run t = (some (), h') →
      ∃ frame, framesOf h'.log = framesOf h.log ++ [frame] ∧
        ∀ (r : Stack) (udp : UDPHandler ρ) (receiver : ρ) (padding : Bytes),
          r.Receives (frame ++ padding) → r.ip.ipAddress = destinationIP →
            udp.getListener destinationPort = some receiver →
              ∃ b, r.receiveFrame udp (Buffer.lengthOf (frame ++ padding)) =
                  some (receiver, h.ip.ipAddress, sourcePort, b) ∧
                b.contents r.mem = payload := by
    intro t n hsize hip hlog hn hpayload hrun
    have hroom : t.room = t.sendSize.toNat - 34 := rfl
    obtain ⟨mac, hmac⟩ := route_of_sent hrun
    have htfit : 8 + n.toNat ≤ t.room := by
      rw [hroom, hsize]
      omega
    obtain ⟨t', c, hrun', hlog', hc⟩ := sendDatagram_run t destinationIP destinationPort
      sourcePort htfit hpayload hmac
    obtain rfl : t' = h' := congrArg Prod.snd (hrun'.symm.trans hrun)
    refine ⟨frameOf t mac destinationIP (n + 8)
      (datagramOf sourcePort destinationPort c payload), ?_, ?_⟩
    · rw [hlog', framesOf_append, hlog]
      rfl
    · intro r udp receiver padding hr hraddr hlistener
      rw [← hip]
      exact Stack.receiveFrame_frameOf hn (by omega) hc hr hraddr hlistener
  rcases hx with ⟨rfl, hpayload⟩ | rfl
  · have hlen : len.toNat = payload.length := by rw [hpayload, Region.length_read]
    exact hplain h len rfl rfl rfl hlen hpayload hsent
  · have hlen : (Buffer.lengthOf payload).toNat = payload.length :=
      Buffer.toNat_lengthOf (by omega)
    rw [sendDatagramOf_run h destinationIP destinationPort sourcePort hfit] at hsent
    refine hplain (h.put 42 payload) _ rfl rfl rfl hlen ?_ hsent
    rw [hlen, Stack.mem_put, Region.read_write_self]

theorem length_frameOf (h : Stack) (mac : MACAddr) (destinationIP : IPAddr) (len : UInt16)
    (datagram : Bytes) :
    (frameOf h mac destinationIP len datagram).length = 34 + datagram.length := by
  rw [frameOf, List.length_append, List.length_append, length_etherHeader,
    IPHandler.length_ipHeader]

/-- A frame in the receive buffer of the host that is an example. -/
theorem receives_exampleReceiver {frame : Bytes} (hroom : frame.length ≤ 100) :
    (Stack.exampleReceiver frame).Receives frame := by
  refine ⟨rfl, rfl, hroom, ?_⟩
  refine List.ext_getElem (Region.length_read _ _ _ _) fun i _ hi => ?_
  rw [Region.getElem_read, Nat.zero_add]
  exact (List.getD_eq_getElem?_getD ..).trans (by rw [List.getElem?_eq_getElem hi]; rfl)

/-- The frame that a datagram whose payload is given leaves the host in. -/
theorem sendDatagramOf_frame (h : Stack) {destinationIP : IPAddr} {mac : MACAddr}
    (destinationPort sourcePort : UInt16) {payload : Bytes}
    (hfit : 42 + payload.length ≤ h.sendSize.toNat)
    (hmac : IPHandler.getMACForIP destinationIP (h.put 42 payload) = some mac) :
    ∃ h' c, (sendDatagramOf destinationIP destinationPort sourcePort payload).run h =
        (some (), h') ∧
      framesOf h'.log = framesOf h.log ++ [frameOf (h.put 42 payload) mac destinationIP
        (Buffer.lengthOf payload + 8) (datagramOf sourcePort destinationPort c payload)] := by
  have h16 := h.sendSize.toNat_lt
  have hroom : (h.put 42 payload).room = h.sendSize.toNat - 34 := rfl
  have hlen : (Buffer.lengthOf payload).toNat = payload.length :=
    Buffer.toNat_lengthOf (by omega)
  have hpayload : payload =
      Region.read (h.put 42 payload).mem .send 42 (Buffer.lengthOf payload).toNat := by
    rw [hlen, Stack.mem_put, Region.read_write_self]
  obtain ⟨h', c, hrun, hlog, -⟩ := sendDatagram_run (h.put 42 payload) destinationIP
    destinationPort sourcePort (by omega) hpayload hmac
  refine ⟨h', c, (sendDatagramOf_run h _ _ _ hfit).trans hrun, ?_⟩
  rw [hlog, framesOf_append]
  rfl

/-- A datagram from port 1024 of 10.0.0.1 to port 53 of 10.0.0.2, with three bytes of padding. -/
theorem sendDatagram_received_padded :
    ∃ h' frame b, (sendDatagramOf ⟨10, 0, 0, 2⟩ 53 1024 [7]).run (exampleStack 1 2) =
        (some (), h') ∧
      framesOf h'.log = [frame] ∧
      (Stack.exampleReceiver (frame ++ [0, 0, 0])).receiveFrame (⟨[⟨53, some ()⟩]⟩ : UDPHandler Unit)
        (Buffer.lengthOf (frame ++ [0, 0, 0])) = some ((), ⟨10, 0, 0, 1⟩, 1024, b) ∧
      b.contents (Stack.exampleReceiver (frame ++ [0, 0, 0])).mem = [7] := by
  have hmac : IPHandler.getMACForIP ⟨10, 0, 0, 2⟩ ((exampleStack 1 2).put 42 [7]) =
      some ⟨2, 0, 0, 0, 0, 2⟩ := by decide
  have hfit : 42 + [(7 : UInt8)].length ≤ (exampleStack 1 2).sendSize.toNat := by decide
  obtain ⟨h', c, hsent, hlog⟩ := sendDatagramOf_frame (exampleStack 1 2) 53 1024 hfit hmac
  obtain ⟨frame, hframes, hreceived⟩ :=
    @sendDatagram_received Unit _ _ _ _ _ _ 0 _ (.inr rfl) hfit hsent
  have hframe := List.append_cancel_left (hframes.symm.trans hlog)
  have hlength : frame.length = 43 := by
    rw [List.singleton_inj.mp hframe, length_frameOf, length_datagramOf]
    rfl
  have hroom : (frame ++ [0, 0, 0]).length ≤ 100 := by
    rw [List.length_append, hlength]
    decide
  obtain ⟨b, hb⟩ := hreceived (Stack.exampleReceiver (frame ++ [0, 0, 0])) ⟨[⟨53, some ()⟩]⟩ ()
    [0, 0, 0] (receives_exampleReceiver hroom) rfl rfl
  exact ⟨h', frame, b, hsent, hframes, hb⟩

end UDPHandler

end AtmegaNet
