import AtmegaNet.Access

/-!
# The stack of one host and its Ethernet layer

A `Stack` is what the handlers of one host share: the driver with its two buffers, the
registries of `EtherControl`, the ARP, IP and DNS handlers, the clock, and the bytes of all
buffers. Its `log` records, in order, what the host did that can be seen from outside a
function: frames given to the driver, IP packets sent, events fired, payloads offered to the
application.

This module has the sending half of `EtherControl` and the timer registry.

## Main results

* `Stack.sendPayload_fits` and its siblings: the window `EtherControl` hands out for sending,
  and the one `IPHandler` hands out above it, fit the driver's buffer.
* `EtherControl.sendFrame_run`: what a frame that fits looks like, byte by byte.
-/

open Procedure

namespace AtmegaNet

/-- The events a `Socket` fires. `onReset` tells whether the remote host reset. -/
inductive Event
  | onEstablished
  | onReadyToSend
  | onRemoteClosed
  | onLocalClosed
  | onClosed
  | onReset (resetByRemoteHost : Bool)
  deriving DecidableEq, Repr

/-- What can be seen of a host from outside. -/
inductive Obs
  /-- `driver->sendFrame`: the bytes of the frame. -/
  | frame (data : Bytes)
  /-- `IPHandler::sendPacket` returned true: destination, protocol and payload. -/
  | packet (destinationIP : IPAddr) (protocol : UInt8) (payload : Bytes)
  /-- A socket fired an event. -/
  | event (socket : ℕ) (e : Event)
  /-- A socket's `onDataReceived` was called with a payload, and its answer. -/
  | received (socket : ℕ) (payload : Bytes) (accepted : Bool)
  /-- A null pointer was dereferenced: the program has no defined behaviour here. -/
  | nullDereference
  /-- An array was accessed outside its bounds: no defined behaviour either. -/
  | outOfBounds
  deriving DecidableEq, Repr

/-- The IP packets among the observations. -/
def packetsOf (log : List Obs) : List (IPAddr × UInt8 × Bytes) :=
  log.filterMap fun o => match o with
    | .packet destinationIP protocol payload => some (destinationIP, protocol, payload)
    | _ => none

/-- The packets of a log that has been extended. -/
@[simp] theorem packetsOf_append (l l' : List Obs) :
    packetsOf (l ++ l') = packetsOf l ++ packetsOf l' :=
  List.filterMap_append

/-- An observation of a frame or packet leaving the host. -/
def Obs.isOutput : Obs → Bool
  | .frame _ => true
  | .packet _ _ _ => true
  | _ => false

/-- The objects that register for timers. -/
inductive TimerHandler
  | arp
  | dns
  | tcp
  deriving DecidableEq, Repr

/-- An entry of the timer registry. -/
structure Timer where
  delayTime : UInt32
  startTime : UInt32
  handler : Option TimerHandler
  deriving DecidableEq, Repr

/-- The objects that register for an EtherType. -/
inductive PayloadHandler
  | arp
  | ip
  deriving DecidableEq, Repr

/-- `protocolMap` -/
structure ProtocolMap where
  etherType : UInt16
  handler : Option PayloadHandler
  deriving DecidableEq, Repr

/-- The registries of `EtherControl`; the capacities are the lengths of the lists. -/
structure EtherControl where
  protocolRegistry : List ProtocolMap
  timerRegistry : List Timer
  timers : ℕ
  deriving DecidableEq, Repr

/-- `etherRoute` -/
structure EtherRoute where
  ipAddress : IPAddr
  macAddress : MACAddr
  lookupTime : UInt32
  lookupStatus : UInt8
  deriving DecidableEq, Repr

/-- The fields of `ARPHandler`; the table's size is the length of the list. -/
structure ARPHandler where
  ipAddress : IPAddr
  routingTable : List EtherRoute
  timer : UInt8
  deriving DecidableEq, Repr

/-- The objects that register for an IP protocol. -/
inductive PacketHandler
  | tcp
  | udp
  | other (n : ℕ)
  deriving DecidableEq, Repr

/-- `ipProtocolMap` -/
structure IPProtocolMap where
  ipProtocol : UInt8
  handler : Option PacketHandler
  deriving DecidableEq, Repr

/-- The fields of `IPHandler`. -/
structure IPHandler where
  ipAddress : IPAddr
  gatewayIP : IPAddr
  subnetMask : IPAddr
  ipNetwork : IPAddr
  ipBroadcastAddress : IPAddr
  nextPort : UInt16
  protocolRegistry : List IPProtocolMap
  deriving DecidableEq, Repr

/-- `dnsLookup`. `domainName` has the characters before the terminating zero; once `freed`, which
is no field of the source, they are whatever the heap has there. -/
structure DnsLookup where
  domainName : Bytes
  ipAddress : IPAddr
  status : UInt8
  time : UInt32
  ttl : UInt32
  attempts : UInt8
  freed : Bool
  deriving DecidableEq, Repr

/-- The fields of `DNSHandler`; `udpHandler` is the one of the stack. The entries below
`cacheCapacity` are the allocated ones. -/
structure DNSHandler where
  cacheCapacity : UInt8
  cacheSize : UInt8
  cache : ℕ → DnsLookup
  dnsIP : IPAddr
  dnsIPBackup : IPAddr
  timer : UInt8

/-- A DNS handler without room for a name. -/
def DNSHandler.noRoom : DNSHandler :=
  ⟨0, 0, fun _ => ⟨[], ⟨0, 0, 0, 0⟩, 0, 0, 0, 0, false⟩, ⟨0, 0, 0, 0⟩, ⟨0, 0, 0, 0⟩, 0⟩

/-- The protocol stack of one host. `sendSize` and `recvSize` are the sizes of the driver's
two buffers, `outboundSize` that of the buffer given to `TCPHandler`. `dns` is the DNS handler
as the sockets find it. -/
structure Stack where
  macAddr : MACAddr
  sendSize : UInt16
  recvSize : UInt16
  outboundSize : UInt16
  etherControl : EtherControl
  arp : ARPHandler
  ip : IPHandler
  dns : DNSHandler
  millis : UInt32
  mem : Memory
  log : List Obs

namespace Stack

/-- `driver->getSendBuffer()` -/
def sendBuffer (h : Stack) : Buffer := .memBuffer .send h.sendSize

/-- `driver->getReceiveBuffer()` -/
def receiveBuffer (h : Stack) : Buffer := .memBuffer .receive h.recvSize

/-- `EtherControl::getSendPayloadBuffer()`: 14 is the length of the Ethernet header. -/
def etherPayload (h : Stack) : Buffer := OffsetBuffer.reinit h.sendBuffer 14 0

/-- `IPHandler::getSendPayloadBuffer()`: 20 is the length of the IP header. -/
def ipPayload (h : Stack) : Buffer := OffsetBuffer.reinit h.etherPayload 20 0

/-- Run an access to the buffers. -/
def onMem {α : Type} (x : Proc Memory α) : Proc Stack α :=
  Proc.zoom Stack.mem (fun m h => { h with mem := m }) x

/-- Record an observation. -/
def emit (o : Obs) : Proc Stack Unit := Proc.modify fun h => { h with log := h.log ++ [o] }

/-- `EtherControl::getMaxReceivePayload` -/
def etherMaxReceivePayload (h : Stack) : UInt16 := h.recvSize - 14

/-- `IPHandler::getMaxReceivePayload` -/
def ipMaxReceivePayload (h : Stack) : UInt16 := h.etherMaxReceivePayload - 20

end Stack

namespace EtherControl

/-- `EtherControl::registerTimer`: the first free entry, numbered from 1. -/
def registerTimer (handler : TimerHandler) (millisDelay : UInt16) (h : Stack) :
    UInt8 × Stack :=
  match h.etherControl.timerRegistry.findIdx? fun t => t.handler.isNone with
  | none => (0, h)
  | some i =>
      (UInt8.ofNat (i + 1), { h with
        etherControl := { h.etherControl with
          timerRegistry := h.etherControl.timerRegistry.set i
            ⟨millisDelay.toUInt32, h.millis, some handler⟩
          timers := h.etherControl.timers + 1 } })

/-- `EtherControl::unregisterTimer`. It does not check the index: 0, the number of no timer,
leads in front of the registry. -/
def unregisterTimer (index : UInt8) (h : Stack) : Stack :=
  if index = 0 ∨ h.etherControl.timerRegistry.length < index.toNat then
    { h with log := h.log ++ [.outOfBounds] }
  else match h.etherControl.timerRegistry[index.toNat - 1]? with
    | some ⟨_, _, some _⟩ =>
        { h with etherControl := { h.etherControl with
            timers := h.etherControl.timers - 1
            timerRegistry := h.etherControl.timerRegistry.set (index.toNat - 1) ⟨0, 0, none⟩ } }
    | _ => h

/-- `EtherControl::sendFrame`, the payload already in the buffer. -/
def sendFrame (destinationMAC : MACAddr) (protocol : UInt16) (payloadLength : UInt16) :
    Proc Stack Unit := do
  let sendBuffer ← Proc.read Stack.sendBuffer
  let macAddr ← Proc.read Stack.macAddr
  if payloadLength > sendBuffer.size - 14 then Proc.fail
  else do
    Stack.onMem (sendBuffer.write 0 destinationMAC.bytes)
    Stack.onMem (sendBuffer.write 6 macAddr.bytes)
    Stack.onMem (sendBuffer.writeNet16 12 protocol)
    let frame ← Proc.read fun h => Region.read h.mem .send 0 (14 + payloadLength).toNat
    Stack.emit (.frame frame)

end EtherControl

/-! ### The windows for sending -/

namespace Stack

variable (h : Stack)

@[simp] theorem fits_sendBuffer : h.sendBuffer.Fits := trivial

/-- The payload view of the frame lies in the send buffer. -/
@[simp] theorem fits_etherPayload : h.etherPayload.Fits :=
  OffsetBuffer.fits_reinit h.fits_sendBuffer 14 0

/-- The payload view of the IP packet lies in the send buffer. -/
@[simp] theorem fits_ipPayload : h.ipPayload.Fits :=
  OffsetBuffer.fits_reinit h.fits_etherPayload 20 0

@[simp] theorem root_etherPayload : h.etherPayload.root = .send :=
  OffsetBuffer.root_reinit h.sendBuffer 14 0

@[simp] theorem root_ipPayload : h.ipPayload.root = .send := by
  rw [ipPayload, OffsetBuffer.root_reinit, root_etherPayload]

/-- The room for the payload of an IP packet in the send buffer. -/
def room : ℕ := h.sendSize.toNat - 34

/-- The frame's payload leaves out the Ethernet header. -/
theorem toNat_size_etherPayload : h.etherPayload.size.toNat = h.sendSize.toNat - 14 :=
  (OffsetBuffer.toNat_size_reinit_zero h.sendBuffer 14)

/-- The packet's payload has the room that the headers in front of it leave. -/
theorem toNat_size_ipPayload : h.ipPayload.size.toNat = h.room := by
  rw [ipPayload, OffsetBuffer.toNat_size_reinit_zero, toNat_size_etherPayload, room,
    Nat.sub_sub]
  rfl

/-- The frame's payload starts behind the Ethernet header. -/
theorem base_etherPayload (hs : 14 ≤ h.sendSize.toNat) : h.etherPayload.base = 14 :=
  OffsetBuffer.base_reinit_of_le h.sendBuffer 0 (UInt16.le_iff_toNat_le.mpr hs)

/-- The packet's payload starts behind the Ethernet and the IP header. -/
theorem base_ipPayload (hs : 34 ≤ h.sendSize.toNat) : h.ipPayload.base = 34 := by
  rw [ipPayload, OffsetBuffer.base_reinit_of_le, base_etherPayload h (by omega)]
  · rfl
  · rw [UInt16.le_iff_toNat_le, toNat_size_etherPayload]
    simp
    omega

/-- Also in a buffer that is too short for a header. -/
theorem base_etherPayload_le : h.etherPayload.base ≤ 14 :=
  OffsetBuffer.base_reinit_le h.sendBuffer 14 0

/-- Also in a buffer that is too short for the headers. -/
theorem base_ipPayload_le : h.ipPayload.base ≤ 34 := by
  have h1 := OffsetBuffer.base_reinit_le h.etherPayload 20 0
  have h2 := h.base_etherPayload_le
  exact h1.trans (Nat.add_le_add_right h2 20)

end Stack

/-! ### Writing the send buffer -/

/-- Outside the send buffer, and in it from address `a` on, nothing has changed. -/
structure KeepsFrom (a : ℕ) (m m' : Memory) : Prop where
  other : ∀ r, r ≠ .send → m' r = m r
  send : ∀ i, a ≤ i → m' .send i = m .send i

namespace KeepsFrom

variable {a : ℕ} {m m' m'' : Memory}

/-- Nothing written keeps every byte. -/
theorem refl (m : Memory) : KeepsFrom a m m := ⟨fun _ _ => rfl, fun _ _ => rfl⟩

/-- What two writes after one another both keep. -/
theorem trans (h : KeepsFrom a m m') (h' : KeepsFrom a m' m'') : KeepsFrom a m m'' :=
  ⟨fun r hr => (h'.other r hr).trans (h.other r hr),
    fun i hi => (h'.send i hi).trans (h.send i hi)⟩

instance : IsPreorder Memory (KeepsFrom a) where
  refl := refl
  trans _ _ _ := trans

/-- What keeps the bytes from a position on keeps those from a later one on. -/
theorem mono (h : KeepsFrom a m m') {b : ℕ} (hb : a ≤ b) : KeepsFrom b m m' :=
  ⟨h.other, fun i hi => h.send i (by omega)⟩

/-- A write through a view of the send buffer that ends below `a`, or fails. -/
theorem within_write {b : Buffer} (hb : b.Fits) (hroot : b.root = .send) {start : UInt16}
    {data : Bytes} (ha : b.base + start.toNat + data.length ≤ a) (ha16 : a < 65536) :
    Proc.Within (KeepsFrom a) (b.write start data) := by
  intro m
  by_cases hin : start.toNat + data.length ≤ b.size.toNat
  · rw [Buffer.write_fits hb m hin, hroot]
    exact ⟨fun r hr => funext fun i => Region.write_region m hr _ _ i,
      fun i hi => Region.write_out m .send _ (by omega)⟩
  · have hlen : (Buffer.lengthOf data).toNat = data.length :=
      Buffer.toNat_lengthOf (by omega)
    rw [Buffer.write_of_fits hb m (by omega), if_pos (by omega)]
    exact refl m

end KeepsFrom

namespace Stack

/-- Write `d` at address `a` of the send buffer. -/
def put (h : Stack) (a : ℕ) (d : Bytes) : Stack :=
  { h with mem := Region.write h.mem .send a d }

/-- Consecutive writes are one write. -/
theorem put_put (h : Stack) (a : ℕ) (d e : Bytes) :
    (h.put a d).put (a + d.length) e = h.put a (d ++ e) := by
  rw [put, put, put, Region.write_append]

/-- Disjoint writes commute. -/
theorem put_comm (h : Stack) {a b : ℕ} {d e : Bytes}
    (hd : a + d.length ≤ b ∨ b + e.length ≤ a) :
    (h.put a d).put b e = (h.put b e).put a d := by
  simp only [put, Region.write_comm h.mem .send hd]

/-- Two writes that leave a gap keep the bytes in the gap. -/
theorem put_gap (h : Stack) (a n : ℕ) (d e : Bytes) :
    (h.put a d).put (a + d.length + n) e =
      h.put a (d ++ Region.read h.mem .send (a + d.length) n ++ e) := by
  have hself : h.put (a + d.length) (Region.read h.mem .send (a + d.length) n) = h := by
    rw [put, Region.write_read_self]
  have hn : (Region.read h.mem .send (a + d.length) n).length = n := by simp
  calc (h.put a d).put (a + d.length + n) e
      = ((h.put (a + d.length) (Region.read h.mem .send (a + d.length) n)).put a d).put
          (a + d.length + n) e := by rw [hself]
    _ = ((h.put a d).put (a + d.length) (Region.read h.mem .send (a + d.length) n)).put
          (a + d.length + n) e := by rw [put_comm h (by omega)]
    _ = h.put a (d ++ Region.read h.mem .send (a + d.length) n ++ e) := by
        rw [put_put, show a + d.length + n =
          a + (d ++ Region.read h.mem .send (a + d.length) n).length by
            rw [List.length_append, hn, Nat.add_assoc], put_put]

/-- The gap between two writes filled later. -/
theorem put_fill (h : Stack) (a : ℕ) {n : ℕ} (d e : Bytes) {f : Bytes} (hf : f.length = n) :
    ((h.put a d).put (a + d.length + n) e).put (a + d.length) f =
      h.put a (d ++ f ++ e) := by
  rw [put_comm _ (by omega), put_put,
    show a + d.length + n = a + (d ++ f).length by rw [List.length_append, hf, Nat.add_assoc],
    put_put]

@[simp] theorem mem_put (h : Stack) (a : ℕ) (d : Bytes) :
    (h.put a d).mem = Region.write h.mem .send a d := rfl

@[simp] theorem sendSize_put (h : Stack) (a : ℕ) (d : Bytes) :
    (h.put a d).sendSize = h.sendSize := rfl

/-- A write that fits succeeds and puts its bytes in the send buffer. -/
theorem onMem_write {b : Buffer} (hb : b.Fits) (hroot : b.root = .send) {start : UInt16}
    {data : Bytes} (h : Stack) (hin : start.toNat + data.length ≤ b.size.toNat) :
    (onMem (b.write start data)).run h =
      (some (), h.put (b.base + start.toNat) data) := by
  rw [onMem, Proc.run_zoom, Buffer.write_fits hb _ hin, hroot, put]

end Stack

/-! ### Frames -/

/-- The Ethernet header `sendFrame` writes: destination, source and EtherType. -/
def etherHeader (destinationMAC sourceMAC : MACAddr) (protocol : UInt16) : Bytes :=
  destinationMAC.bytes ++ sourceMAC.bytes ++ bytesOf16 (HTONS protocol)

/-- The Ethernet header is fourteen bytes. -/
@[simp] theorem length_etherHeader (d s : MACAddr) (protocol : UInt16) :
    (etherHeader d s protocol).length = 14 := rfl

namespace EtherControl

/-- A frame that fits the send buffer is sent: its header, and the bytes that lay behind. -/
theorem sendFrame_run (h : Stack) (destinationMAC : MACAddr) (protocol : UInt16)
    {payloadLength : UInt16} (hfit : 14 + payloadLength.toNat ≤ h.sendSize.toNat) :
    (sendFrame destinationMAC protocol payloadLength).run h =
      (some (), { h.put 0 (etherHeader destinationMAC h.macAddr protocol) with
        log := h.log ++ [.frame (etherHeader destinationMAC h.macAddr protocol ++
          Region.read h.mem .send 14 payloadLength.toNat)] }) := by
  have h16 := h.sendSize.toNat_lt
  have hsub : (h.sendSize - 14).toNat = h.sendSize.toNat - 14 :=
    UInt16.toNat_sub_of_le _ _ (UInt16.le_iff_toNat_le.mpr (by simp; omega))
  have hfits : ¬ payloadLength > h.sendBuffer.size - 14 := by
    rw [gt_iff_lt, UInt16.lt_iff_toNat_lt]
    show ¬ (h.sendSize - 14).toNat < _
    omega
  have hlen : (14 + payloadLength).toNat = 14 + payloadLength.toNat := by
    rw [UInt16.toNat_add]
    exact Nat.mod_eq_of_lt (by simp; omega)
  have hb : h.sendBuffer.Fits := h.fits_sendBuffer
  have hsize : h.sendBuffer.size.toNat = h.sendSize.toNat := rfl
  unfold sendFrame
  rw [Proc.run_read_bind, Proc.run_read_bind, if_neg hfits,
    Proc.run_bind_of_some (Stack.onMem_write hb rfl h (by simp; omega)),
    Proc.run_bind_of_some (Stack.onMem_write hb rfl _ (by simp; omega)),
    Buffer.writeNet16, Buffer.write16,
    Proc.run_bind_of_some (Stack.onMem_write hb rfl _ (by simp; omega)),
    Proc.run_read_bind, Stack.emit, Proc.run_modify]
  have hbase : h.sendBuffer.base = 0 := rfl
  have hput : ((h.put 0 destinationMAC.bytes).put 6 h.macAddr.bytes).put 12
      (bytesOf16 (HTONS protocol)) = h.put 0 (etherHeader destinationMAC h.macAddr protocol) := by
    rw [etherHeader, ← Stack.put_put, ← Stack.put_put]
    rfl
  have hread : Region.read (h.put 0 (etherHeader destinationMAC h.macAddr protocol)).mem .send 0
      (14 + payloadLength.toNat) = etherHeader destinationMAC h.macAddr protocol ++
        Region.read h.mem .send 14 payloadLength.toNat := by
    rw [Region.read_add, Stack.put, Region.read_write_eq _ _ _ (length_etherHeader _ _ _).symm,
      Region.read_write_disjoint _ _ _ (by simp)]
  simp only [hbase, Nat.zero_add]
  simp only [show (0 : UInt16).toNat = 0 from rfl, show (6 : UInt16).toNat = 6 from rfl,
    show (12 : UInt16).toNat = 12 from rfl, hput, hlen, hread]
  rfl

end EtherControl

end AtmegaNet
