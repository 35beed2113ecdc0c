import AtmegaNet.TCPHandler
import AtmegaNet.UDPHandler

/-!
# Receiving frames

A frame in the receive buffer goes up through three layers. Each looks at its header and hands
on a view of what lies behind it, whose length it computes from the length it was given
or finds in the header. A length of 0 stands for the rest of the buffer in `OffsetBuffer`, so that
an empty payload becomes a view of the padding; and the difference of a length that is too small
wraps around to one that is too long, which stands for the rest as well.

## Main results

* `OffsetBuffer.isPart_reinit_iff`: when a view behind a header is what the length says.
* `Stack.handsUp_iff`: the three layers hand up exactly their payload for just the frames whose
  lengths leave a payload, or no padding.
-/

open Procedure

namespace AtmegaNet

namespace EtherControl

/-- `#define HEADER_LENGTH (MAC_SIZE*2 + sizeof(uint16_t))` -/
def HEADER_LENGTH : UInt16 := 14

/-- `EtherControl::getProtocolHandler` -/
def getProtocolHandler (etherType : UInt16) (control : EtherControl) : Option PayloadHandler :=
  (control.protocolRegistry.find? fun e => e.etherType = etherType).bind ProtocolMap.handler

/-- `EtherControl::processFrame`, when the driver has received a frame of `len` bytes: the call
of `handlePayload` it makes. -/
def processFrame (len : UInt16) (h : Stack) : Option (PayloadHandler × Buffer) :=
  if len > 0 then do
    let etherType ← (h.receiveBuffer.view h.mem).readNet16 12
    let handler ← getProtocolHandler etherType h.etherControl
    let payloadLength := len - HEADER_LENGTH
    some (handler, OffsetBuffer.reinit h.receiveBuffer HEADER_LENGTH payloadLength)
  else none

end EtherControl

namespace IPHandler

/-- `#define IP_HEADER_LENGTH 20` -/
def IP_HEADER_LENGTH : UInt16 := 20

/-- `IPHandler::handlePayload`: the call of `handlePacket` it ends in. -/
def handlePayload (p : Buffer) (ip : IPHandler) (m : Memory) :
    Option (PacketHandler × IPAddr × Buffer) :=
  let v := p.view m
  if v.size < IP_HEADER_LENGTH then none
  else do
    let checksum ← v.readNet16 10
    if checksum ≠ v.checksum IP_HEADER_LENGTH 10 0 then none
    else do
      let len ← v.readNet16 2
      if v.size < len then none
      else do
        let destinationIP ← v.read 16 4
        if IPAddr.ofBytes destinationIP ≠ ip.ipAddress ∧
            IPAddr.ofBytes destinationIP ≠ ip.ipBroadcastAddress then none
        else do
          let protocol ← v.read8 9
          let handler ← getProtocolHandler protocol ip
          let sourceIP ← v.read 12 4
          some (handler, .ofBytes sourceIP,
            OffsetBuffer.reinit p IP_HEADER_LENGTH (len - IP_HEADER_LENGTH))

end IPHandler

/-! ### The view behind a header -/

/-- `b` is the part of `inner` behind a header, up to a length that counts the header. -/
structure IsPart (b inner : Buffer) (header length : ℕ) : Prop where
  declared : header ≤ length
  size : b.size.toNat = length - header
  start : b.base = inner.base + header
  root : b.root = inner.root

/-- A view behind a header is what a length inside the buffer says, exactly if the length leaves
a payload, or there is nothing behind the header. -/
theorem OffsetBuffer.isPart_reinit_iff {b : Buffer} {header length : UInt16}
    (hheader : header ≤ b.size) (hlength : length ≤ b.size) :
    IsPart (reinit b header (length - header)) b header.toNat length.toNat ↔
      header < length ∨ length = header ∧ b.size = header := by
  have hstart := base_reinit_of_le b (length - header) hheader
  have hroot := root_reinit b header (length - header)
  have hheader' := UInt16.le_iff_toNat_le.mp hheader
  have hlength' := UInt16.le_iff_toNat_le.mp hlength
  have hrest : (b.size - header).toNat = b.size.toNat - header.toNat :=
    UInt16.toNat_sub_of_le _ _ hheader
  have hnot : ¬ header > b.size := UInt16.not_lt.mpr hheader
  by_cases hlt : header < length
  · have hlt' := UInt16.lt_iff_toNat_lt.mp hlt
    have hdiff : (length - header).toNat = length.toNat - header.toNat :=
      UInt16.toNat_sub_of_le _ _ (UInt16.le_iff_toNat_le.mpr (by omega))
    refine iff_of_true ⟨by omega, ?_, hstart, hroot⟩ (.inl hlt)
    unfold reinit
    rw [if_neg hnot]
    dsimp only
    split
    case isTrue => exact hdiff
    case isFalse hno =>
      have hpos : length - header > 0 := by
        rw [gt_iff_lt, UInt16.lt_iff_toNat_lt, hdiff]
        exact Nat.sub_pos_of_lt hlt'
      have hge := UInt16.le_iff_toNat_le.mp (UInt16.not_lt.mp fun h => hno ⟨hpos, h⟩)
      rw [hdiff, hrest] at hge
      rw [Buffer.size_offsetBuffer, hrest]
      omega
  · have hle := UInt16.le_iff_toNat_le.mp (UInt16.not_lt.mp hlt)
    by_cases heq : length = header
    · subst heq
      have hsize : (reinit b length (length - length)).size = b.size - length := by
        rw [UInt16.sub_self, reinit_zero hheader, Buffer.size_offsetBuffer]
      have hiff : b.size = length ↔ b.size.toNat = length.toNat := UInt16.toNat_inj.symm
      refine ⟨fun h => .inr ⟨rfl, ?_⟩, ?_⟩
      · have hzero := h.size
        rw [hsize, hrest] at hzero
        exact hiff.mpr (by omega)
      · rintro (h | ⟨-, h⟩)
        · exact absurd h hlt
        · refine ⟨Nat.le_refl _, ?_, hstart, hroot⟩
          rw [hsize, hrest, hiff.mp h]
    · refine iff_of_false (fun h => ?_) ?_
      · exact heq (UInt16.toNat_inj.mp (Nat.le_antisymm hle h.declared))
      · rintro (h | ⟨h, -⟩)
        · exact hlt h
        · exact heq h

/-! ### What the layers deliver -/

namespace IPHandler

/-- `IP total length` of a packet, the field `handlePayload` reads. -/
def totalLength (p : Buffer) (m : Memory) : UInt16 := ((p.view m).readNet16 2).getD 0

/-- A packet that is delivered is as long as its header and as its length says, at least. -/
theorem handlePayload_some {p d : Buffer} {ip : IPHandler} {m : Memory} {handler : PacketHandler}
    {sourceIP : IPAddr} (h : handlePayload p ip m = some (handler, sourceIP, d)) :
    IP_HEADER_LENGTH ≤ p.size ∧ totalLength p m ≤ p.size ∧
      d = OffsetBuffer.reinit p IP_HEADER_LENGTH (totalLength p m - IP_HEADER_LENGTH) := by
  unfold handlePayload at h
  dsimp only at h
  split_ifs at h with hsize
  obtain ⟨checksum, -, h⟩ := Option.bind_eq_some_iff.mp h
  split_ifs at h
  obtain ⟨len, hlen, h⟩ := Option.bind_eq_some_iff.mp h
  split_ifs at h with hlong
  obtain ⟨destinationIP, -, h⟩ := Option.bind_eq_some_iff.mp h
  split_ifs at h
  obtain ⟨protocol, -, h⟩ := Option.bind_eq_some_iff.mp h
  obtain ⟨handler', -, h⟩ := Option.bind_eq_some_iff.mp h
  obtain ⟨source, -, h⟩ := Option.bind_eq_some_iff.mp h
  have htotal : totalLength p m = len := by rw [totalLength, hlen, Option.getD_some]
  cases h
  rw [htotal]
  exact ⟨UInt16.not_lt.mp hsize, UInt16.not_lt.mp hlong, rfl⟩

end IPHandler

namespace UDPHandler

variable {ρ : Type}

/-- `UDP length` of a datagram, the field `handlePacket` reads. -/
def udpLength (d : Buffer) (m : Memory) : UInt16 := ((d.view m).readNet16 4).getD 0

/-- A datagram that is delivered is as long as its header and as its length says, at least. -/
theorem handlePacket_some {d b : Buffer} {udp : UDPHandler ρ} {localIP sourceIP : IPAddr}
    {m : Memory} {receiver : ρ} {sourcePort : UInt16}
    (h : udp.handlePacket localIP sourceIP d m = some (receiver, sourcePort, b)) :
    DATAGRAM_HEADER_LENGTH ≤ d.size ∧ udpLength d m ≤ d.size ∧
      b = OffsetBuffer.reinit d DATAGRAM_HEADER_LENGTH
        (udpLength d m - DATAGRAM_HEADER_LENGTH) := by
  unfold handlePacket at h
  dsimp only at h
  split_ifs at h with hsize
  obtain ⟨len, hlen, h⟩ := Option.bind_eq_some_iff.mp h
  split_ifs at h with hlong
  obtain ⟨checksum, -, h⟩ := Option.bind_eq_some_iff.mp h
  split_ifs at h
  obtain ⟨sourcePort', -, h⟩ := Option.bind_eq_some_iff.mp h
  obtain ⟨destinationPort, -, h⟩ := Option.bind_eq_some_iff.mp h
  obtain ⟨datagramLength, hlen', h⟩ := Option.bind_eq_some_iff.mp h
  obtain ⟨receiver', -, h⟩ := Option.bind_eq_some_iff.mp h
  obtain rfl : datagramLength = len := Option.some.inj (hlen'.symm.trans hlen)
  have hlength : udpLength d m = datagramLength := by rw [udpLength, hlen, Option.getD_some]
  cases h
  rw [hlength]
  exact ⟨UInt16.not_lt.mp hsize, UInt16.not_lt.mp hlong, rfl⟩

end UDPHandler

/-! ### The three layers -/

namespace Stack

variable {ρ : Type}

/-- What a frame of `len` bytes becomes: every layer that delivers hands up the part of
its buffer behind its header that the length of the frame, the packet or the datagram says. -/
structure HandsUp (h : Stack) (udp : UDPHandler ρ) (len : UInt16) : Prop where
  frame : ∀ handler p, EtherControl.processFrame len h = some (handler, p) →
    IsPart p h.receiveBuffer 14 len.toNat
  packet : ∀ p handler sourceIP d, EtherControl.processFrame len h = some (.ip, p) →
    IPHandler.handlePayload p h.ip h.mem = some (handler, sourceIP, d) →
      IsPart d p 20 (IPHandler.totalLength p h.mem).toNat
  datagram : ∀ p sourceIP d delivery, EtherControl.processFrame len h = some (.ip, p) →
    IPHandler.handlePayload p h.ip h.mem = some (.udp, sourceIP, d) →
      udp.handlePacket h.ip.ipAddress sourceIP d h.mem = some delivery →
        IsPart delivery.2.2 d 8 (UDPHandler.udpLength d h.mem).toNat

/-- The lengths of a frame that is delivered leave every layer a payload, or nothing behind the
header. -/
structure LeavesPayload (h : Stack) (udp : UDPHandler ρ) (len : UInt16) : Prop where
  frame : ∀ handler p, EtherControl.processFrame len h = some (handler, p) →
    14 < len ∨ len = 14 ∧ h.recvSize = 14
  packet : ∀ p handler sourceIP d, EtherControl.processFrame len h = some (.ip, p) →
    IPHandler.handlePayload p h.ip h.mem = some (handler, sourceIP, d) →
      20 < IPHandler.totalLength p h.mem ∨ IPHandler.totalLength p h.mem = 20 ∧ p.size = 20
  datagram : ∀ p sourceIP d delivery, EtherControl.processFrame len h = some (.ip, p) →
    IPHandler.handlePayload p h.ip h.mem = some (.udp, sourceIP, d) →
      udp.handlePacket h.ip.ipAddress sourceIP d h.mem = some delivery →
        8 < UDPHandler.udpLength d h.mem ∨ UDPHandler.udpLength d h.mem = 8 ∧ d.size = 8

theorem processFrame_some {len : UInt16} {h : Stack} {handler : PayloadHandler} {p : Buffer}
    (hp : EtherControl.processFrame len h = some (handler, p)) :
    p = OffsetBuffer.reinit h.receiveBuffer 14 (len - 14) := by
  unfold EtherControl.processFrame at hp
  split_ifs at hp
  obtain ⟨etherType, -, hp⟩ := Option.bind_eq_some_iff.mp hp
  obtain ⟨handler', -, hp⟩ := Option.bind_eq_some_iff.mp hp
  cases hp
  rfl

/-- The layers hand up exactly their payload for just the frames whose lengths leave a payload,
or no padding. -/
theorem handsUp_iff (h : Stack) (udp : UDPHandler ρ) {len : UInt16} (hmin : 14 ≤ len)
    (hmax : len ≤ h.recvSize) : HandsUp h udp len ↔ LeavesPayload h udp len := by
  have hframe : ∀ {handler p}, EtherControl.processFrame len h = some (handler, p) →
      (IsPart p h.receiveBuffer 14 len.toNat ↔ 14 < len ∨ len = 14 ∧ h.recvSize = 14) := by
    intro handler p hp
    rw [processFrame_some hp]
    exact OffsetBuffer.isPart_reinit_iff (b := h.receiveBuffer)
      (UInt16.le_trans hmin hmax) hmax
  have hpacket : ∀ {p handler sourceIP d},
      IPHandler.handlePayload p h.ip h.mem = some (handler, sourceIP, d) →
      (IsPart d p 20 (IPHandler.totalLength p h.mem).toNat ↔
        20 < IPHandler.totalLength p h.mem ∨
          IPHandler.totalLength p h.mem = 20 ∧ p.size = 20) := by
    intro p handler sourceIP d hd
    obtain ⟨hheader, hlength, rfl⟩ := IPHandler.handlePayload_some hd
    exact OffsetBuffer.isPart_reinit_iff hheader hlength
  have hdatagram : ∀ {d sourceIP delivery},
      udp.handlePacket h.ip.ipAddress sourceIP d h.mem = some delivery →
      (IsPart delivery.2.2 d 8 (UDPHandler.udpLength d h.mem).toNat ↔
        8 < UDPHandler.udpLength d h.mem ∨
          UDPHandler.udpLength d h.mem = 8 ∧ d.size = 8) := by
    rintro d sourceIP ⟨receiver, sourcePort, b⟩ hb
    obtain ⟨hheader, hlength, rfl⟩ := UDPHandler.handlePacket_some hb
    exact OffsetBuffer.isPart_reinit_iff hheader hlength
  constructor
  · rintro ⟨h1, h2, h3⟩
    exact ⟨fun handler p hp => (hframe hp).mp (h1 handler p hp),
      fun p handler sourceIP d hp hd => (hpacket hd).mp (h2 p handler sourceIP d hp hd),
      fun p sourceIP d delivery hp hd hb =>
        (hdatagram hb).mp (h3 p sourceIP d delivery hp hd hb)⟩
  · rintro ⟨h1, h2, h3⟩
    exact ⟨fun handler p hp => (hframe hp).mpr (h1 handler p hp),
      fun p handler sourceIP d hp hd => (hpacket hd).mpr (h2 p handler sourceIP d hp hd),
      fun p sourceIP d delivery hp hd hb =>
        (hdatagram hb).mpr (h3 p sourceIP d delivery hp hd hb)⟩

/-- A frame in the receive buffer of a host that IP and UDP are registered with. -/
def exampleReceiver (frame : Bytes) : Stack :=
  { bareHost 2 with
    etherControl := { (bareHost 2).etherControl with
      protocolRegistry := [⟨IP_PROTOCOL, some .ip⟩, ⟨0, none⟩] }
    ip := { (bareHost 2).ip with
      protocolRegistry := [⟨UDPHandler.UDP_PROTOCOL, some .udp⟩, ⟨0, none⟩, ⟨0, none⟩] }
    mem := fun _ i => frame.getD i 0 }

/-- A datagram of three bytes for port 53, in a frame that is padded to 60 bytes. -/
def exampleDatagram : Bytes :=
  [2, 0, 0, 0, 0, 2, 2, 0, 0, 0, 0, 1, 8, 0, 69, 0, 0, 31, 0, 0, 64, 0, 64, 17, 38, 204, 10, 0, 0,
    1, 10, 0, 0, 2, 4, 0, 0, 53, 0, 11, 0, 0, 97, 98, 99]

/-- The listener of port 53. -/
def exampleListener : UDPHandler Unit := ⟨[⟨53, some ()⟩]⟩

/-- It goes up through the three layers, and the listener gets its three bytes without padding. -/
theorem handsUp_iff_datagram :
    EtherControl.processFrame 60 (exampleReceiver exampleDatagram) =
        some (.ip, .offsetBuffer 46 14 (.memBuffer .receive 100)) ∧
      IPHandler.handlePayload (.offsetBuffer 46 14 (.memBuffer .receive 100))
          (exampleReceiver exampleDatagram).ip (exampleReceiver exampleDatagram).mem =
        some (.udp, ⟨10, 0, 0, 1⟩,
          .offsetBuffer 11 20 (.offsetBuffer 46 14 (.memBuffer .receive 100))) ∧
      exampleListener.handlePacket (exampleReceiver exampleDatagram).ip.ipAddress ⟨10, 0, 0, 1⟩
          (.offsetBuffer 11 20 (.offsetBuffer 46 14 (.memBuffer .receive 100)))
          (exampleReceiver exampleDatagram).mem =
        some ((), 1024, .offsetBuffer 3 8
          (.offsetBuffer 11 20 (.offsetBuffer 46 14 (.memBuffer .receive 100)))) ∧
      HandsUp (exampleReceiver exampleDatagram) exampleListener 60 := by
  have hframe : EtherControl.processFrame 60 (exampleReceiver exampleDatagram) =
      some (.ip, .offsetBuffer 46 14 (.memBuffer .receive 100)) := by decide
  have hpacket : IPHandler.handlePayload (.offsetBuffer 46 14 (.memBuffer .receive 100))
      (exampleReceiver exampleDatagram).ip (exampleReceiver exampleDatagram).mem =
        some (.udp, ⟨10, 0, 0, 1⟩,
          .offsetBuffer 11 20 (.offsetBuffer 46 14 (.memBuffer .receive 100))) := by decide
  have htotal : IPHandler.totalLength (.offsetBuffer 46 14 (.memBuffer .receive 100))
      (exampleReceiver exampleDatagram).mem = 31 := by decide
  have hudp : UDPHandler.udpLength
      (.offsetBuffer 11 20 (.offsetBuffer 46 14 (.memBuffer .receive 100)))
      (exampleReceiver exampleDatagram).mem = 11 := by decide
  have hleaves : LeavesPayload (exampleReceiver exampleDatagram) exampleListener 60 := by
    refine ⟨fun _ _ _ => .inl (by decide), fun p _ _ _ hp _ => .inl ?_,
      fun p sourceIP d _ hp hd _ => .inl ?_⟩
    · obtain ⟨-, rfl⟩ := Prod.mk.inj (Option.some.inj (hframe.symm.trans hp))
      rw [htotal]
      decide
    · obtain ⟨-, rfl⟩ := Prod.mk.inj (Option.some.inj (hframe.symm.trans hp))
      obtain ⟨-, hpart⟩ := Prod.mk.inj (Option.some.inj (hpacket.symm.trans hd))
      obtain ⟨-, rfl⟩ := Prod.mk.inj hpart
      rw [hudp]
      decide
  exact ⟨hframe, hpacket, by decide,
    (handsUp_iff (exampleReceiver exampleDatagram) exampleListener (by decide) (by decide)).mpr
      hleaves⟩

/-- An IP packet without payload, in a frame that is padded to 60 bytes. -/
def examplePacket : Bytes :=
  [2, 0, 0, 0, 0, 2, 2, 0, 0, 0, 0, 1, 8, 0, 69, 0, 0, 20, 0, 0, 64, 0, 64, 17, 38, 215, 10, 0, 0,
    1, 10, 0, 0, 2]

/-- It is handed up as 26 bytes of padding. -/
theorem handlePayload_padding :
    ¬ HandsUp (exampleReceiver examplePacket) (UDPHandler.new 1 : UDPHandler Unit) 60 := by
  intro h
  have hframe : EtherControl.processFrame 60 (exampleReceiver examplePacket) =
      some (.ip, .offsetBuffer 46 14 (.memBuffer .receive 100)) := by decide
  have hpacket : IPHandler.handlePayload (.offsetBuffer 46 14 (.memBuffer .receive 100))
      (exampleReceiver examplePacket).ip (exampleReceiver examplePacket).mem =
        some (.udp, ⟨10, 0, 0, 1⟩,
          .offsetBuffer 26 20 (.offsetBuffer 46 14 (.memBuffer .receive 100))) := by decide
  have hsize := (h.packet _ _ _ _ hframe hpacket).size
  exact absurd hsize (by decide)

end Stack

end AtmegaNet
