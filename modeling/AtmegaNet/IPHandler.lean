import AtmegaNet.EtherControl

/-!
# Routes and IP packets

The sending half of `ARPHandler` and `IPHandler`: which Ethernet address a destination is
reached by, how a route that is not known yet is asked for, and how the payload that lies in
the send buffer leaves as an IP packet.

## Main results

* `IPHandler.sendPacket_run`: a packet that fits and has a route is sent, and what its frame
  looks like.
-/

open Procedure

namespace AtmegaNet

/-- `#define ARP_RESOLVED 0b10000000` -/
def ARP_RESOLVED : UInt8 := 128

namespace EtherRoute

/-- `lookupStatus & ARP_RESOLVED`, bit 7 -/
def resolved (r : EtherRoute) : Bool := r.lookupStatus &&& ARP_RESOLVED ≠ 0

/-- `ATTEMPTCOUNT(route)`. The shifts are on `int`, so bit 7 comes back: on a resolved route
this is not the lookup count. -/
def attemptCount (r : EtherRoute) : UInt16 := r.lookupStatus.toUInt16 <<< 1 >>> 1

/-- `SETATTEMPTCOUNT(route,value)`, `value` promoted to `int` as well. -/
def setAttemptCount (r : EtherRoute) (value : UInt16) : EtherRoute :=
  { r with lookupStatus :=
      ((r.lookupStatus &&& ARP_RESOLVED).toUInt16 ||| value <<< 1 >>> 1).toUInt8 }

end EtherRoute

namespace ARPHandler

/-- `ARPHandler::sendARPRequest`. `IP_PROTOCOL` is 0x0800, `ARP_PROTOCOL` 0x0806. -/
def sendARPRequest (target_protocol_addr : IPAddr) : Proc Stack Unit := do
  let etherBuffer ← Proc.read Stack.etherPayload
  let sender_hardware_addr ← Proc.read Stack.macAddr
  let ipAddress ← Proc.read fun h => h.arp.ipAddress
  Stack.onMem (etherBuffer.writeNet16 0 0x0001)
  Stack.onMem (etherBuffer.writeNet16 2 0x0800)
  Stack.onMem (etherBuffer.write8 4 6)
  Stack.onMem (etherBuffer.write8 5 4)
  Stack.onMem (etherBuffer.writeNet16 6 0x0001)
  Stack.onMem (etherBuffer.write 8 sender_hardware_addr.bytes)
  Stack.onMem (etherBuffer.write 14 ipAddress.bytes)
  Stack.onMem (etherBuffer.write8 18 0)
  Stack.onMem (etherBuffer.write8 19 0)
  Stack.onMem (etherBuffer.write8 20 0)
  Stack.onMem (etherBuffer.write8 21 0)
  Stack.onMem (etherBuffer.write8 22 0)
  Stack.onMem (etherBuffer.write8 23 0)
  Stack.onMem (etherBuffer.write 24 target_protocol_addr.bytes)
  EtherControl.sendFrame broadcastMAC 0x0806 28

/-- `ARPHandler::getMACAddress`: the first entry of the address decides. -/
def getMACAddress (remoteIP : IPAddr) (arp : ARPHandler) : Option MACAddr :=
  match arp.routingTable.find? fun r => r.ipAddress = remoteIP with
  | some r => if r.resolved then some r.macAddress else none
  | none => none

/-- The first loop of `requestMACAddress`, from entry `i` on: `none` when the address is
being looked up already, else the last resolved entry of the address. -/
def findRoute (remoteIP : IPAddr) : List EtherRoute → ℕ → Option ℕ → Option (Option ℕ)
  | [], _, index => some index
  | r :: routes, i, index =>
      if r.ipAddress = remoteIP then
        if r.resolved then findRoute remoteIP routes (i + 1) (some i) else none
      else findRoute remoteIP routes (i + 1) index

/-- The second loop of `requestMACAddress`: the first entry not in use. -/
def findUnused (routingTable : List EtherRoute) : Option ℕ :=
  routingTable.findIdx? fun r => !r.resolved && r.attemptCount == 0

/-- `requestMACAddress` registers a timer, if it has none yet. -/
def ensureTimer : Proc Stack Unit := do
  let timer ← Proc.read fun h => h.arp.timer
  if timer ≠ 0 then pure ()
  else do
    Proc.modify fun h =>
      let (timer, h) := EtherControl.registerTimer .arp 250 h
      { h with arp := { h.arp with timer := timer } }
    let timer ← Proc.read fun h => h.arp.timer
    if timer = 0 then Proc.fail else pure ()

/-- The part of `requestMACAddress` from the registration of the timer on. -/
def startLookup (remoteIP : IPAddr) (index : ℕ) : Proc Stack Unit := do
  ensureTimer
  Proc.modify fun h => { h with arp := { h.arp with
    routingTable := h.arp.routingTable.modify index fun r =>
      { r.setAttemptCount 1 with lookupTime := h.millis, ipAddress := remoteIP } } }
  sendARPRequest remoteIP

/-- `ARPHandler::requestMACAddress` -/
def requestMACAddress (remoteIP : IPAddr) : Proc Stack Unit := do
  let routingTable ← Proc.read fun h => h.arp.routingTable
  match findRoute remoteIP routingTable 0 none with
  | none => pure ()
  | some (some index) => startLookup remoteIP index
  | some none =>
      match findUnused routingTable with
      | none => Proc.fail
      | some index => startLookup remoteIP index

end ARPHandler

namespace IPHandler

/-- The octet test of `getMACForIP`, `subnetMask[i] & destinationIP[i] != ipNetwork[i]`. In
C++ the comparison binds tighter than the `&`. -/
def offNetwork (mask destination network : UInt8) : Bool :=
  mask &&& (if destination ≠ network then 1 else 0) ≠ 0

/-- Whether `getMACForIP` takes the destination to be on the local network. -/
def onLocalNetwork (ip : IPHandler) (destinationIP : IPAddr) : Bool :=
  !(offNetwork ip.subnetMask.b0 destinationIP.b0 ip.ipNetwork.b0 ||
    offNetwork ip.subnetMask.b1 destinationIP.b1 ip.ipNetwork.b1 ||
    offNetwork ip.subnetMask.b2 destinationIP.b2 ip.ipNetwork.b2 ||
    offNetwork ip.subnetMask.b3 destinationIP.b3 ip.ipNetwork.b3)

/-- `IPHandler::getMACForIP` -/
def getMACForIP (destinationIP : IPAddr) (h : Stack) : Option MACAddr :=
  if h.ip.onLocalNetwork destinationIP ∧ h.ip.ipBroadcastAddress = destinationIP then
    some broadcastMAC
  else if h.ip.onLocalNetwork destinationIP then h.arp.getMACAddress destinationIP
  else h.arp.getMACAddress h.ip.gatewayIP

/-- `IPHandler::getPort` -/
def getPort (h : Stack) : UInt16 × Stack :=
  (h.ip.nextPort, { h with ip := { h.ip with nextPort := h.ip.nextPort + 1 } })

/-- `IPHandler::sendPacket`, the payload already in the buffer. The results of the header
writes are not looked at. -/
def sendPacket (destinationIP : IPAddr) (protocol : UInt8) (packetPayloadLength : UInt16) :
    Proc Stack Unit := do
  let p ← Proc.read Stack.etherPayload
  if p.size < 20 + packetPayloadLength then Proc.fail
  else do
    let macAddr ← Proc.query (getMACForIP destinationIP)
    let ipAddress ← Proc.read fun h => h.ip.ipAddress
    Proc.attempt (Stack.onMem (p.write8 0 0x45))
    Proc.attempt (Stack.onMem (p.write8 1 0x00))
    Proc.attempt (Stack.onMem (p.writeNet16 2 (packetPayloadLength + 20)))
    Proc.attempt (Stack.onMem (p.writeNet16 4 0))
    Proc.attempt (Stack.onMem (p.writeNet16 6 0x4000))
    Proc.attempt (Stack.onMem (p.write8 8 64))
    Proc.attempt (Stack.onMem (p.write8 9 protocol))
    Proc.attempt (Stack.onMem (p.write 12 ipAddress.bytes))
    Proc.attempt (Stack.onMem (p.write 16 destinationIP.bytes))
    let checksum ← Proc.read fun h => (p.view h.mem).checksum 20 10 0
    Proc.attempt (Stack.onMem (p.writeNet16 10 checksum))
    let payload ← Proc.read fun h =>
      Region.read h.mem .send (p.base + 20) packetPayloadLength.toNat
    EtherControl.sendFrame macAddr 0x0800 (packetPayloadLength + 20)
    Stack.emit (.packet destinationIP protocol payload)

/-! ### Sending a packet -/

/-- The first ten bytes `sendPacket` writes: the IP header up to its checksum. -/
def ipHeaderStart (protocol : UInt8) (totalLength : UInt16) : Bytes :=
  [0x45] ++ [0x00] ++ bytesOf16 (HTONS totalLength) ++ bytesOf16 (HTONS 0) ++
    bytesOf16 (HTONS 0x4000) ++ [64] ++ [protocol]

/-- The IP header `sendPacket` writes. -/
def ipHeader (sourceIP destinationIP : IPAddr) (protocol : UInt8) (totalLength sum : UInt16) :
    Bytes :=
  ipHeaderStart protocol totalLength ++ bytesOf16 (HTONS sum) ++
    (sourceIP.bytes ++ destinationIP.bytes)

/-- The header checksum of a packet. -/
def ipChecksum (sourceIP destinationIP : IPAddr) (protocol : UInt8) (totalLength : UInt16) :
    UInt16 :=
  (viewOf (ipHeader sourceIP destinationIP protocol totalLength 0)).checksum 20 10 0

@[simp] theorem length_ipHeaderStart (protocol : UInt8) (n : UInt16) :
    (ipHeaderStart protocol n).length = 10 := rfl

@[simp] theorem length_ipHeader (s d : IPAddr) (protocol : UInt8) (n sum : UInt16) :
    (ipHeader s d protocol n sum).length = 20 := rfl

/-- The checksum of a header does not depend on what its checksum field holds. -/
theorem checksum_ipHeader {b : Buffer} (hb : b.Fits) (hroot : b.root = .send)
    (hsize : 20 ≤ b.size.toNat) (m : Memory) (s d : IPAddr) (protocol : UInt8)
    (n : UInt16) (x y : UInt8) :
    (b.view (Region.write m .send b.base
      (ipHeaderStart protocol n ++ [x, y] ++ (s.bytes ++ d.bytes)))).checksum 20 10 0 =
        ipChecksum s d protocol n := by
  refine View.checksum_congr 0 (UInt16.le_iff_toNat_le.mpr hsize) (UInt16.le_refl 20)
    (hroot ▸ b.shows_write hb m (by simpa using hsize)) (shows_viewOf (by simp)) (by decide) ?_
  intro i hi h10 h11
  have hi' : i < 20 := hi
  simp at h10 h11
  interval_cases i <;> first | rfl | contradiction

/-- The writes of `sendPacket` before its checksum leave a gap at the checksum's field. -/
theorem put_ipHeader (h : Stack) (s d : IPAddr) (protocol : UInt8) (n : UInt16) :
    ((((((((h.put 14 [0x45]).put 15 [0x00]).put 16 (bytesOf16 (HTONS n))).put 18
      (bytesOf16 (HTONS 0))).put 20 (bytesOf16 (HTONS 0x4000))).put 22 [64]).put 23
      [protocol]).put 26 s.bytes).put 30 d.bytes =
        (h.put 14 (ipHeaderStart protocol n)).put (14 + (ipHeaderStart protocol n).length + 2)
          (s.bytes ++ d.bytes) := by
  simp only [ipHeaderStart, ← Stack.put_put, List.length_append, List.length_cons,
    List.length_nil, length_bytesOf16, IPAddr.length_bytes, Nat.reduceAdd]

/-- A packet that fits the send buffer and has a route is sent: header, and the payload that
lay behind it. -/
theorem sendPacket_run (h : Stack) (destinationIP : IPAddr) (protocol : UInt8)
    {len : UInt16} {mac : MACAddr} (hfit : len.toNat ≤ h.room) (hs : 34 ≤ h.sendSize.toNat)
    (hmac : getMACForIP destinationIP h = some mac) {header payload : Bytes}
    (hheader : header = etherHeader mac h.macAddr 0x0800 ++
      ipHeader h.ip.ipAddress destinationIP protocol (len + 20)
        (ipChecksum h.ip.ipAddress destinationIP protocol (len + 20)))
    (hpayload : payload = Region.read h.mem .send 34 len.toNat) :
    (sendPacket destinationIP protocol len).run h =
      (some (), { h.put 0 header with
        log := h.log ++ [.frame (header ++ payload), .packet destinationIP protocol payload] }) := by
  have h16 := h.sendSize.toNat_lt
  have hp := h.fits_etherPayload
  have hroot := h.root_etherPayload
  have hbase := h.base_etherPayload (by omega)
  have hsize := h.toNat_size_etherPayload
  have hroom : h.room = h.sendSize.toNat - 34 := rfl
  have hlen : (len + 20).toNat = len.toNat + 20 := by
    rw [UInt16.toNat_add]
    exact Nat.mod_eq_of_lt (by simp; omega)
  have hfits : ¬ h.etherPayload.size < 20 + len := by
    rw [UInt16.lt_iff_toNat_lt, UInt16.add_comm, hlen]
    omega
  have hput : ∀ (h' : Stack) (start : UInt16) (data : Bytes),
      start.toNat + data.length ≤ 20 →
        ((Stack.onMem (h.etherPayload.write start data)).run h').2 =
          h'.put (14 + start.toNat) data := by
    intro h' start data hin
    rw [Stack.onMem_write hp hroot h' (by omega), hbase]
  unfold sendPacket
  rw [Proc.run_read_bind, if_neg hfits, Proc.run_bind_of_some (by rw [Proc.run_query, hmac])]
  simp only [Proc.run_read_bind, Proc.run_attempt_bind, Buffer.write8, Buffer.writeNet16,
    Buffer.write16]
  rw [hput _ 0 _ (by simp), hput _ 1 _ (by simp), hput _ 2 _ (by simp), hput _ 4 _ (by simp),
    hput _ 6 _ (by simp), hput _ 8 _ (by simp), hput _ 9 _ (by simp), hput _ 12 _ (by simp),
    hput _ 16 _ (by simp), hput _ 10 _ (by simp)]
  have hgap := put_ipHeader h h.ip.ipAddress destinationIP protocol (len + 20)
  have hsum : (h.etherPayload.view ((h.put 14 (ipHeaderStart protocol (len + 20))).put
      (14 + (ipHeaderStart protocol (len + 20)).length + 2)
      (h.ip.ipAddress.bytes ++ destinationIP.bytes)).mem).checksum 20 10 0 =
        ipChecksum h.ip.ipAddress destinationIP protocol (len + 20) := by
    rw [Stack.put_gap, Stack.put, ← hbase]
    exact checksum_ipHeader hp hroot (by omega) h.mem _ _ protocol _ _ _
  have hfill := Stack.put_fill h 14 (ipHeaderStart protocol (len + 20))
    (h.ip.ipAddress.bytes ++ destinationIP.bytes) (length_bytesOf16
      (HTONS (ipChecksum h.ip.ipAddress destinationIP protocol (len + 20))))
  simp only [show UInt16.toNat 0 = 0 from rfl, show UInt16.toNat 1 = 1 from rfl,
    show UInt16.toNat 2 = 2 from rfl, show UInt16.toNat 4 = 4 from rfl,
    show UInt16.toNat 6 = 6 from rfl, show UInt16.toNat 8 = 8 from rfl,
    show UInt16.toNat 9 = 9 from rfl, show UInt16.toNat 12 = 12 from rfl,
    show UInt16.toNat 16 = 16 from rfl, show UInt16.toNat 10 = 10 from rfl, Nat.reduceAdd,
    hgap, hsum]
  have hfill' : ((h.put 14 (ipHeaderStart protocol (len + 20))).put
      (14 + (ipHeaderStart protocol (len + 20)).length + 2)
      (h.ip.ipAddress.bytes ++ destinationIP.bytes)).put 24
        (bytesOf16 (HTONS (ipChecksum h.ip.ipAddress destinationIP protocol (len + 20)))) =
      h.put 14 (ipHeader h.ip.ipAddress destinationIP protocol (len + 20)
        (ipChecksum h.ip.ipAddress destinationIP protocol (len + 20))) := hfill
  rw [hfill', hbase]
  -- what `sendFrame` finds in the buffer
  generalize hip : ipHeader h.ip.ipAddress destinationIP protocol (len + 20)
    (ipChecksum h.ip.ipAddress destinationIP protocol (len + 20)) = ip at hheader
  have hiplen : ip.length = 20 := by rw [← hip, length_ipHeader]
  have hread34 : Region.read (h.put 14 ip).mem .send 34 len.toNat = payload := by
    rw [hpayload, Stack.put, Region.read_write_disjoint _ _ _ (by omega)]
  have hread14 : Region.read (h.put 14 ip).mem .send 14 (len + 20).toNat = ip ++ payload := by
    rw [hlen, Nat.add_comm, Region.read_add, hread34, Stack.put,
      Region.read_write_eq _ _ _ hiplen.symm]
  have hput0 : (h.put 14 ip).put 0 (etherHeader mac h.macAddr 0x0800) = h.put 0 header := by
    rw [Stack.put_comm h (by simp), hheader, ← Stack.put_put]
    rfl
  rw [Proc.run_bind_of_some (EtherControl.sendFrame_run (h.put 14 ip) mac 0x0800
    (by rw [hlen, Stack.sendSize_put]; omega)), hread14, hread34]
  rw [show (h.put 14 ip).macAddr = h.macAddr from rfl, hput0, Stack.emit, Proc.run_modify,
    hheader]
  simp [Stack.put]

end IPHandler

end AtmegaNet
