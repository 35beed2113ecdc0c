import AtmegaNet.ARPHandler

/-!
# UDP

A datagram is built in the payload of the IP packet; its own payload, behind a header of 8
bytes, is written by the caller before. A datagram that arrives is given to the listener of its
port, as a view of its payload.
-/

open Procedure

namespace AtmegaNet

/-- `UDPHandler::getSendPayloadBuffer` -/
def Stack.udpPayload (h : Stack) : Buffer := OffsetBuffer.reinit h.ipPayload 8 0

@[simp] theorem Stack.fits_udpPayload (h : Stack) : h.udpPayload.Fits :=
  OffsetBuffer.fits_reinit h.fits_ipPayload 8 0

namespace UDPHandler

/-- `#define UDP_PROTOCOL 0x11` -/
def UDP_PROTOCOL : UInt8 := 0x11

/-- `#define DATAGRAM_HEADER_LENGTH 8` -/
def DATAGRAM_HEADER_LENGTH : UInt16 := 8

/-- `UDPHandler::calcChecksum` -/
def calcChecksum (buf : View) (len : UInt16) (localIP remoteIP : IPAddr) : UInt16 :=
  buf.checksum len 6
    (len.toUInt32 + UDP_PROTOCOL.toUInt32 + localIP.words + remoteIP.words)

/-- `UDPHandler::sendDatagram`, the payload already in the buffer. -/
def sendDatagram (destinationIP : IPAddr) (destinationPort sourcePort payloadLength : UInt16) :
    Proc Stack Unit := do
  let len := DATAGRAM_HEADER_LENGTH + payloadLength
  let datagram ← Proc.read Stack.ipPayload
  if datagram.size < len then Proc.fail
  else do
    Stack.onMem (datagram.writeNet16 0 sourcePort)
    Stack.onMem (datagram.writeNet16 2 destinationPort)
    Stack.onMem (datagram.writeNet16 4 (payloadLength + DATAGRAM_HEADER_LENGTH))
    let checksum ← Proc.read fun h =>
      calcChecksum (datagram.view h.mem) len h.ip.ipAddress destinationIP
    Stack.onMem (datagram.writeNet16 6 checksum)
    IPHandler.sendPacket destinationIP UDP_PROTOCOL (payloadLength + DATAGRAM_HEADER_LENGTH)

end UDPHandler

/-- `listenerMap` -/
structure ListenerMap (ρ : Type) where
  port : UInt16
  receiver : Option ρ

/-- A `UDPHandler` and its registry of listeners; the capacity is the length of the list. -/
structure UDPHandler (ρ : Type) where
  receivers : List (ListenerMap ρ)

namespace UDPHandler

variable {ρ : Type}

/-- `UDPHandler::UDPHandler`: the registry, with no listener yet. -/
def new (receiverCount : ℕ) : UDPHandler ρ := ⟨List.replicate receiverCount ⟨0, none⟩⟩

/-- `UDPHandler::registerListener`: the entry of the port is replaced, or else one without a
receiver. -/
def registerListener (port : UInt16) (receiver : Option ρ) (udp : UDPHandler ρ) :
    Bool × UDPHandler ρ :=
  match udp.receivers.findIdx? fun l => l.port = port with
  | some i => (true, ⟨udp.receivers.set i ⟨port, receiver⟩⟩)
  | none =>
      match udp.receivers.findIdx? fun l => l.receiver.isNone with
      | some i => (true, ⟨udp.receivers.set i ⟨port, receiver⟩⟩)
      | none => (false, udp)

/-- `UDPHandler::unregisterListener` -/
def unregisterListener (port : UInt16) (udp : UDPHandler ρ) : UDPHandler ρ :=
  ⟨udp.receivers.map fun l => if l.port = port then ⟨0, none⟩ else l⟩

/-- `UDPHandler::getListener` -/
def getListener (udp : UDPHandler ρ) (port : UInt16) : Option ρ :=
  (udp.receivers.find? fun l => l.port = port).bind ListenerMap.receiver

/-- `UDPHandler::handlePacket`: the call of `handleDatagram` it ends in, with the receiver, the
source port and the payload. -/
def handlePacket (udp : UDPHandler ρ) (localIP sourceIP : IPAddr) (datagram : Buffer)
    (m : Memory) : Option (ρ × UInt16 × Buffer) :=
  let v := datagram.view m
  if v.size < DATAGRAM_HEADER_LENGTH then none
  else do
    let udpLength ← v.readNet16 4
    if udpLength > v.size then none
    else do
      let checksum ← v.readNet16 6
      if checksum ≠ 0 ∧ checksum ≠ calcChecksum v v.size localIP sourceIP then none
      else do
        let sourcePort ← v.readNet16 0
        let destinationPort ← v.readNet16 2
        let datagramLength ← v.readNet16 4
        let receiver ← udp.getListener destinationPort
        some (receiver, sourcePort,
          OffsetBuffer.reinit datagram DATAGRAM_HEADER_LENGTH
            (datagramLength - DATAGRAM_HEADER_LENGTH))

end UDPHandler

end AtmegaNet
