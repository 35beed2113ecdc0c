import AtmegaNet.Routes

/-!
# The ARP handler

The rest of `ARPHandler`: its constructor, the requests and responses that arrive, and the
timer that repeats requests and gives routes up. `IPHandler` has the part that sending a
packet needs.

What an operation can do is said once for each, so that no later proof unfolds it.

## Main results

* `ARPHandler.requestMACAddress_does`, `ARPHandler.handlePayload_does`,
  `ARPHandler.handleTimer_does`: the table, the timer and the frames after each operation.
* `ARPMessage.read_bytes`: the message read from a frame is the one that was sent in it.
* `EtherRoute.tick_cases`: what the timer does to an entry.
-/

open Procedure

namespace AtmegaNet

namespace EtherControl

/-- `EtherControl::registerProtocol`: an entry not in use, or one to replace. -/
def registerProtocol (etherType : UInt16) (handler : PayloadHandler) (h : Stack) :
    Bool × Stack :=
  match h.etherControl.protocolRegistry.findIdx?
      fun e => e.etherType = 0 ∨ e.etherType = etherType with
  | none => (false, h)
  | some i => (true, { h with etherControl := { h.etherControl with
      protocolRegistry := h.etherControl.protocolRegistry.set i ⟨etherType, some handler⟩ } })

end EtherControl

/-- The Ethernet address stored in the first six bytes of a block. -/
def MACAddr.ofBytes (b : Bytes) : MACAddr :=
  ⟨b.getD 0 0, b.getD 1 0, b.getD 2 0, b.getD 3 0, b.getD 4 0, b.getD 5 0⟩

/-- A MAC address read from its own bytes. -/
@[simp] theorem MACAddr.ofBytes_bytes (a : MACAddr) : MACAddr.ofBytes a.bytes = a := rfl

/-- `memset(&route,0,sizeof(etherRoute))` -/
def EtherRoute.zero : EtherRoute := ⟨⟨0, 0, 0, 0⟩, ⟨0, 0, 0, 0, 0, 0⟩, 0, 0⟩

/-- `#define ETH_PROTOCOL 0x0001` -/
def ETH_PROTOCOL : UInt16 := 1

/-- `IP_PROTOCOL` -/
def IP_PROTOCOL : UInt16 := 0x0800

/-- `#define ARP_PROTOCOL 0x0806` -/
def ARP_PROTOCOL : UInt16 := 0x0806

/-- `#define ARP_REQUEST 0x0001` -/
def ARP_REQUEST : UInt16 := 1

/-- `#define ARP_RESPONSE 0x0002` -/
def ARP_RESPONSE : UInt16 := 2

/-- What `handlePayload` reads from a frame, its local variables from `operation` on. -/
structure ARPMessage where
  operation : UInt16
  sender_hardware_addr : MACAddr
  sender_protocol_addr : IPAddr
  target_hardware_addr : MACAddr
  target_protocol_addr : IPAddr
  deriving DecidableEq, Repr

/-- The first part of `handlePayload`: every check that makes it return before it looks at
the operation, and the fields it reads. -/
def ARPMessage.read (p : View) : Option ARPMessage := do
  guard ¬ p.size < 28
  let w ← p.readNet16 0
  guard (w = ETH_PROTOCOL)
  let w ← p.readNet16 2
  guard (w = IP_PROTOCOL)
  let b ← p.read8 4
  guard (b = 6)
  let b ← p.read8 5
  guard (b = 4)
  let operation ← p.readNet16 6
  let sender_hardware_addr ← p.read 8 6
  let sender_protocol_addr ← p.read 14 4
  let target_hardware_addr ← p.read 18 6
  let target_protocol_addr ← p.read 24 4
  pure ⟨operation, .ofBytes sender_hardware_addr, .ofBytes sender_protocol_addr,
    .ofBytes target_hardware_addr, .ofBytes target_protocol_addr⟩

/-- A guard that holds is passed. -/
theorem guard_bind {α : Type} {c : Prop} [Decidable c] (h : c) {k : Unit → Option α} :
    (guard c : Option Unit).bind k = k () := by
  rw [guard, if_pos h]
  rfl

namespace ARPMessage

/-- An ARP message as it lies behind the Ethernet header. -/
def bytes (m : ARPMessage) : Bytes :=
  bytesOf16 (HTONS ETH_PROTOCOL) ++ bytesOf16 (HTONS IP_PROTOCOL) ++ [6] ++ [4] ++
    bytesOf16 (HTONS m.operation) ++ m.sender_hardware_addr.bytes ++
    m.sender_protocol_addr.bytes ++ m.target_hardware_addr.bytes ++ m.target_protocol_addr.bytes

/-- The frame that carries an ARP message. -/
def frame (destinationMAC : MACAddr) (m : ARPMessage) : Bytes :=
  etherHeader destinationMAC m.sender_hardware_addr ARP_PROTOCOL ++ m.bytes

/-- An ARP message is 28 bytes. -/
@[simp] theorem length_bytes (m : ARPMessage) : m.bytes.length = 28 := rfl

/-- The message read from a frame is the one sent in it, whatever the frame was padded with. -/
theorem read_bytes (m : ARPMessage) (padding : Bytes) (hlen : padding.length + 28 < 65536) :
    read (viewOf (m.bytes ++ padding)) = some m := by
  have hshows : (viewOf (m.bytes ++ padding)).Shows _ 28 :=
    (shows_viewOf (by simp; omega)).mono (by simp)
  have hsize : ¬ (viewOf (m.bytes ++ padding)).size < 28 := by
    show ¬ Buffer.lengthOf (m.bytes ++ padding) < 28
    rw [UInt16.lt_iff_toNat_lt, Buffer.toNat_lengthOf (by simp; omega)]
    simp
  have hword : ∀ s : UInt16, NTOHS (word16 (bytesOf16 (HTONS s))) = s := by simp
  unfold read
  rw [hshows.readNet16 (i := 0) (by decide), hshows.readNet16 (i := 2) (by decide),
    hshows.read8 (i := 4) (by decide), hshows.read8 (i := 5) (by decide),
    hshows.readNet16 (i := 6) (by decide), hshows 8 6 (by decide), hshows 14 4 (by decide),
    hshows 18 6 (by decide), hshows 24 4 (by decide)]
  simp only [Option.bind_eq_bind, Option.bind_some]
  refine (guard_bind hsize).trans ?_
  refine (guard_bind (hword ETH_PROTOCOL)).trans ((guard_bind (hword IP_PROTOCOL)).trans ?_)
  refine (guard_bind rfl).trans ((guard_bind rfl).trans ?_)
  exact congrArg (fun operation => some { m with operation := operation }) (hword _)

end ARPMessage

namespace ARPHandler

/-- `ARPHandler::ARPHandler`. A table that could not be allocated has size 0. -/
def new (ipAddress : IPAddr) (routingTableSize : UInt8) (h : Stack) : Stack :=
  let h := (EtherControl.registerProtocol ARP_PROTOCOL .arp h).2
  { h with arp := ⟨ipAddress, List.replicate routingTableSize.toNat EtherRoute.zero, 0⟩ }

/-- `ARPHandler::sendARPResponse` -/
def sendARPResponse (target_hardware_addr : MACAddr) (target_protocol_addr : IPAddr) :
    Proc Stack Unit := do
  let etherBuffer ← Proc.read Stack.etherPayload
  let sender_hardware_addr ← Proc.read Stack.macAddr
  let ipAddress ← Proc.read fun h => h.arp.ipAddress
  Stack.onMem (etherBuffer.writeNet16 0 ETH_PROTOCOL)
  Stack.onMem (etherBuffer.writeNet16 2 IP_PROTOCOL)
  Stack.onMem (etherBuffer.write8 4 6)
  Stack.onMem (etherBuffer.write8 5 4)
  Stack.onMem (etherBuffer.writeNet16 6 ARP_RESPONSE)
  Stack.onMem (etherBuffer.write 8 sender_hardware_addr.bytes)
  Stack.onMem (etherBuffer.write 14 ipAddress.bytes)
  Stack.onMem (etherBuffer.write 18 target_hardware_addr.bytes)
  Stack.onMem (etherBuffer.write 24 target_protocol_addr.bytes)
  EtherControl.sendFrame target_hardware_addr ARP_PROTOCOL 28

/-- What the search of `handlePayload` does to the first entry of the address. -/
def learn (sender_protocol_addr : IPAddr) (sender_hardware_addr : MACAddr) :
    List EtherRoute → List EtherRoute
  | [] => []
  | r :: routes =>
      if sender_protocol_addr = r.ipAddress then
        { r with
          macAddress := sender_hardware_addr
          lookupStatus := r.lookupStatus ||| ARP_RESOLVED } :: routes
      else r :: learn sender_protocol_addr sender_hardware_addr routes

/-- `ARPHandler::handlePayload` -/
def handlePayload (p : View) (h : Stack) : Stack :=
  match ARPMessage.read p with
  | none => h
  | some m =>
      if m.operation = ARP_REQUEST then
        if m.target_protocol_addr ≠ h.arp.ipAddress then h
        else (sendARPResponse m.sender_hardware_addr m.sender_protocol_addr).exec h
      else if m.operation = ARP_RESPONSE then
        if m.target_hardware_addr ≠ h.macAddr then h
        else if m.target_protocol_addr ≠ h.arp.ipAddress then h
        else { h with arp := { h.arp with
          routingTable := learn m.sender_protocol_addr m.sender_hardware_addr
            h.arp.routingTable } }
      else h

/-- Overwrite an entry of the routing table. -/
def setRoute (i : ℕ) (r : EtherRoute) (h : Stack) : Stack :=
  { h with arp := { h.arp with routingTable := h.arp.routingTable.set i r } }

/-- One round of the loop of `handleTimer`: the entry `r` at index `i`. Yields the new value
of `lookupCount`. -/
def checkRoute (current : UInt32) (i : ℕ) (r : EtherRoute) (lookupCount : UInt8)
    (h : Stack) : UInt8 × Stack :=
  let count := r.attemptCount.toUInt8
  if count = 0 then (lookupCount, h)
  else if r.resolved then (lookupCount, h)
  else
    let lookupCount := lookupCount + 1
    if current - r.lookupTime < 250 then (lookupCount, h)
    else if count ≥ 5 then (lookupCount, setRoute i .zero h)
    else if count > 0 then
      let r := { r.setAttemptCount (count.toUInt16 + 1) with lookupTime := current }
      (lookupCount, (sendARPRequest r.ipAddress).exec (setRoute i r h))
    else (lookupCount, h)

/-- The loop of `handleTimer`, over the entries below `n`. -/
def checkRoutes (current : UInt32) (h : Stack) : ℕ → UInt8 × Stack
  | 0 => (0, h)
  | n + 1 =>
      let (lookupCount, h) := checkRoutes current h n
      match h.arp.routingTable[n]? with
      | some r => checkRoute current n r lookupCount h
      | none => (lookupCount, h)

/-- `ARPHandler::handleTimer` -/
def handleTimer (h : Stack) : Stack :=
  let (lookupCount, h) := checkRoutes h.millis h h.arp.routingTable.length
  if lookupCount = 0 ∧ h.arp.timer ≠ 0 then
    let h := EtherControl.unregisterTimer h.arp.timer h
    { h with arp := { h.arp with timer := 0 } }
  else h

/-! ### The frames -/

/-- What a function that sends ARP frames can do: fill the send buffer, and send frames that
name this host as their sender. -/
structure Sends (h h' : Stack) : Prop where
  rest : h' = { h with mem := h'.mem, log := h'.log }
  log : ∃ l, h'.log = h.log ++ l ∧ ∀ o ∈ l, ∃ (destinationMAC : MACAddr) (m : ARPMessage),
    o = .frame (m.frame destinationMAC) ∧ m.sender_hardware_addr = h.macAddr ∧
      m.sender_protocol_addr = h.arp.ipAddress

/-- What an operation of the handler can do outside its own fields and the timer registry:
what sending can, and an access outside the registry. -/
structure Speaks (h h' : Stack) : Prop where
  rest : h' = { h with
    mem := h'.mem, log := h'.log, arp := h'.arp, etherControl := h'.etherControl }
  ipAddress : h'.arp.ipAddress = h.arp.ipAddress
  log : ∃ l, h'.log = h.log ++ l ∧ ∀ o ∈ l, o = .outOfBounds ∨
    ∃ (destinationMAC : MACAddr) (m : ARPMessage), o = .frame (m.frame destinationMAC) ∧
      m.sender_hardware_addr = h.macAddr ∧ m.sender_protocol_addr = h.arp.ipAddress

namespace Speaks

variable {h h' h'' : Stack}

/-- Speaking does not change the address of the host. -/
theorem macAddr (hs : Speaks h h') : h'.macAddr = h.macAddr := by rw [hs.rest]

/-- Saying nothing. -/
theorem refl (h : Stack) : Speaks h h := ⟨rfl, rfl, [], by simp⟩

/-- Speaking twice. -/
theorem trans (h₁ : Speaks h h') (h₂ : Speaks h' h'') : Speaks h h'' := by
  obtain ⟨l₁, hl₁, hm₁⟩ := h₁.log
  obtain ⟨l₂, hl₂, hm₂⟩ := h₂.log
  rw [h₁.macAddr, h₁.ipAddress] at hm₂
  refine ⟨?_, h₂.ipAddress.trans h₁.ipAddress, l₁ ++ l₂, ?_, ?_⟩
  · rw [h₂.rest, h₁.rest]
  · rw [hl₂, hl₁, List.append_assoc]
  · intro o ho
    exact (List.mem_append.mp ho).elim (hm₁ o) (hm₂ o)

/-- A change of the handler's fields, and of the timer registry. -/
theorem of_update {arp : ARPHandler} {etherControl : EtherControl}
    (hip : arp.ipAddress = h.arp.ipAddress) :
    Speaks h { h with arp := arp, etherControl := etherControl } :=
  ⟨rfl, hip, [], by simp⟩

end Speaks

/-- Sending a message is speaking. -/
theorem Sends.speaks {h h' : Stack} (hs : Sends h h') : Speaks h h' := by
  obtain ⟨l, hl, hframes⟩ := hs.log
  exact ⟨by rw [hs.rest], by rw [hs.rest], l, hl, fun o ho => .inr (hframes o ho)⟩

/-- The timer registry may be written, or accessed outside its bounds. -/
theorem unregisterTimer_speaks (index : UInt8) (h : Stack) :
    Speaks h (EtherControl.unregisterTimer index h) ∧
      (EtherControl.unregisterTimer index h).arp = h.arp ∧
      (EtherControl.unregisterTimer index h).etherControl.timerRegistry.length =
        h.etherControl.timerRegistry.length := by
  unfold EtherControl.unregisterTimer
  split
  · exact ⟨⟨rfl, rfl, [.outOfBounds], rfl, by simp⟩, rfl, rfl⟩
  split
  · exact ⟨.of_update rfl, rfl, List.length_set⟩
  · exact ⟨.refl h, rfl, rfl⟩

/-- Nothing has been laid out yet. -/
theorem sends_start {h : Stack} {k : Proc Stack Unit} (hk : Sends h (k.run (h.put 14 [])).2) :
    Sends h (k.run h).2 := by
  rwa [Stack.put, Region.write_nil] at hk

/-- One write of a function that lays out an ARP message from left to right: either it fails
and the function returns, or the send buffer is large enough and the message longer. -/
theorem sends_write {h : Stack} {d e : Bytes} {start : UInt16} {k : Unit → Proc Stack Unit}
    (hstart : start.toNat = d.length) (he : 0 < e.length) (hlen : d.length + e.length ≤ 28)
    (hk : 14 + (d.length + e.length) ≤ h.sendSize.toNat →
      Sends h ((k ()).run (h.put 14 (d ++ e))).2) :
    Sends h ((Stack.onMem (h.etherPayload.write start e) >>= k).run (h.put 14 d)).2 := by
  have hsize := h.toNat_size_etherPayload
  have hlenOf : (Buffer.lengthOf e).toNat = e.length := Buffer.toNat_lengthOf (by omega)
  by_cases hfit : start.toNat + e.length ≤ h.etherPayload.size.toNat
  · have hrun := Stack.onMem_write h.fits_etherPayload h.root_etherPayload (h.put 14 d) hfit
    rw [h.base_etherPayload (by omega), hstart, Stack.put_put] at hrun
    rw [Proc.run_bind_of_some hrun]
    exact hk (by omega)
  · have hrun : (Stack.onMem (h.etherPayload.write start e)).run (h.put 14 d) =
        (none, h.put 14 d) := by
      rw [Stack.onMem, Proc.run_zoom, Buffer.write_of_fits h.fits_etherPayload _ (by omega),
        if_pos (by omega)]
    rw [Proc.run_bind_of_none hrun]
    exact ⟨rfl, [], by simp [Stack.put], by simp⟩

/-- The message that lies in the send buffer leaves in a frame. -/
theorem sends_sendFrame {h : Stack} {d : Bytes} (hs : 42 ≤ h.sendSize.toNat)
    (destinationMAC : MACAddr) {m : ARPMessage} (hd : d = m.bytes)
    (hm : m.sender_hardware_addr = h.macAddr)
    (hip : m.sender_protocol_addr = h.arp.ipAddress) :
    Sends h ((EtherControl.sendFrame destinationMAC ARP_PROTOCOL 28).run (h.put 14 d)).2 := by
  subst hd
  rw [EtherControl.sendFrame_run (h.put 14 m.bytes) destinationMAC ARP_PROTOCOL
    (by simpa using hs)]
  refine ⟨rfl, [_], rfl, ?_⟩
  rintro o (_ | ⟨_, ⟨⟩⟩)
  refine ⟨destinationMAC, m, ?_, hm, hip⟩
  have hread : Region.read (h.put 14 m.bytes).mem .send 14 28 = m.bytes := by
    rw [Stack.put, Region.read_write_eq _ _ _ m.length_bytes.symm]
  rw [ARPMessage.frame, hm]
  exact congrArg (Obs.frame <| etherHeader destinationMAC h.macAddr ARP_PROTOCOL ++ ·) hread

/-- A request names this host as its sender. -/
theorem sendARPRequest_sends (target_protocol_addr : IPAddr) (h : Stack) :
    Sends h ((sendARPRequest target_protocol_addr).exec h) := by
  unfold sendARPRequest Proc.exec
  rw [Proc.run_read_bind, Proc.run_read_bind, Proc.run_read_bind]
  simp only [Buffer.write8, Buffer.writeNet16, Buffer.write16]
  refine sends_start ?_
  iterate 13 refine sends_write rfl (by simp) (by simp) fun _ => ?_
  refine sends_write rfl (by simp) (by simp) fun hs => ?_
  exact sends_sendFrame (m := ⟨ARP_REQUEST, h.macAddr, h.arp.ipAddress, ⟨0, 0, 0, 0, 0, 0⟩,
    target_protocol_addr⟩) (by simpa using hs) broadcastMAC rfl rfl rfl

/-- A response names this host as its sender. -/
theorem sendARPResponse_sends (target_hardware_addr : MACAddr) (target_protocol_addr : IPAddr)
    (h : Stack) :
    Sends h ((sendARPResponse target_hardware_addr target_protocol_addr).exec h) := by
  unfold sendARPResponse Proc.exec
  rw [Proc.run_read_bind, Proc.run_read_bind, Proc.run_read_bind]
  simp only [Buffer.write8, Buffer.writeNet16, Buffer.write16]
  refine sends_start ?_
  iterate 8 refine sends_write rfl (by simp) (by simp) fun _ => ?_
  refine sends_write rfl (by simp) (by simp) fun hs => ?_
  exact sends_sendFrame (m := ⟨ARP_RESPONSE, h.macAddr, h.arp.ipAddress, target_hardware_addr,
    target_protocol_addr⟩) (by simpa using hs) target_hardware_addr rfl rfl rfl

end ARPHandler

/-! ### The status of a route -/

namespace EtherRoute

/-- The entry is being looked up. -/
def Active (r : EtherRoute) : Prop := ¬ r.resolved ∧ r.attemptCount ≠ 0

/-- The entry is not in use, by the test of `requestMACAddress`. -/
def Unused (r : EtherRoute) : Prop := ¬ r.resolved ∧ r.attemptCount = 0

instance (r : EtherRoute) : Decidable r.Active := inferInstanceAs (Decidable (_ ∧ _))

instance (r : EtherRoute) : Decidable r.Unused := inferInstanceAs (Decidable (_ ∧ _))

/-- A route is resolved when the highest bit of its status is set. -/
theorem resolved_iff {r : EtherRoute} : r.resolved ↔ 128 ≤ r.lookupStatus := by
  unfold resolved
  rw [decide_eq_true_iff]
  generalize r.lookupStatus = status
  revert status
  exact forall_uint8 (by decide +kernel)

/-- Of a route that is not, the status counts the attempts. -/
theorem attemptCount_eq (r : EtherRoute) : r.attemptCount = r.lookupStatus.toUInt16 := by
  unfold attemptCount
  generalize r.lookupStatus = status
  revert status
  exact forall_uint8 (by decide +kernel)

/-- A route is asked for while its count is positive. -/
theorem active_iff {r : EtherRoute} : r.Active ↔ 0 < r.lookupStatus ∧ r.lookupStatus < 128 := by
  rw [Active, resolved_iff, attemptCount_eq]
  generalize r.lookupStatus = status
  revert status
  exact forall_uint8 (by decide +kernel)

/-- The entry `requestMACAddress` leaves. -/
def ask (remoteIP : IPAddr) (now : UInt32) (r : EtherRoute) : EtherRoute :=
  { r.setAttemptCount 1 with lookupTime := now, ipAddress := remoteIP }

/-- The entry a response leaves. -/
def answer (mac : MACAddr) (r : EtherRoute) : EtherRoute :=
  { r with macAddress := mac, lookupStatus := r.lookupStatus ||| ARP_RESOLVED }

/-- The entry `handleTimer` leaves. -/
def tick (now : UInt32) (r : EtherRoute) : EtherRoute :=
  if r.Active ∧ ¬ now - r.lookupTime < 250 then
    if 5 ≤ r.lookupStatus then zero
    else { r.setAttemptCount (r.attemptCount + 1) with lookupTime := now }
  else r

/-- Asking changes nothing about a resolved route. -/
@[simp] theorem resolved_ask (remoteIP : IPAddr) (now : UInt32) (r : EtherRoute) :
    (r.ask remoteIP now).resolved = r.resolved :=
  ARPHandler.resolved_setAttemptCount r

/-- Asking is the first attempt. -/
theorem lookupStatus_ask {remoteIP : IPAddr} {now : UInt32} {r : EtherRoute} (h : ¬ r.resolved) :
    (r.ask remoteIP now).lookupStatus = 1 := by
  rw [resolved_iff] at h
  unfold ask setAttemptCount
  dsimp only
  generalize r.lookupStatus = status at h
  revert status
  exact forall_uint8 (by decide +kernel)

/-- An answer resolves the route. -/
@[simp] theorem resolved_answer (mac : MACAddr) (r : EtherRoute) :
    (r.answer mac).resolved := by
  rw [resolved_iff, answer]
  dsimp only
  generalize r.lookupStatus = status
  revert status
  exact forall_uint8 (by decide +kernel)

/-- The tick leaves a route that nothing is asked about. -/
theorem tick_of_not_active {now : UInt32} {r : EtherRoute} (h : ¬ r.Active) : r.tick now = r := by
  rw [tick, if_neg (fun hr => h hr.1)]

/-- What the timer does to an entry: nothing, giving it up, or counting one more attempt. -/
theorem tick_cases (now : UInt32) (r : EtherRoute) :
    r.tick now = r ∨ r.Active ∧ (5 ≤ r.lookupStatus ∧ r.tick now = zero ∨
      r.lookupStatus < 5 ∧ r.tick now =
        { r with lookupStatus := r.lookupStatus + 1, lookupTime := now }) := by
  unfold tick
  split
  · next h =>
      refine .inr ⟨h.1, ?_⟩
      split
      · next h5 => exact .inl ⟨h5, rfl⟩
      · next h5 =>
          have hlt : r.lookupStatus < 5 := UInt8.not_le.mp h5
          have hcount : ((r.lookupStatus &&& ARP_RESOLVED).toUInt16 |||
              (r.lookupStatus.toUInt16 + 1) <<< 1 >>> 1).toUInt8 = r.lookupStatus + 1 := by
            generalize r.lookupStatus = status at hlt
            revert status
            exact forall_uint8 (by decide +kernel)
          refine .inr ⟨hlt, ?_⟩
          rw [setAttemptCount, attemptCount_eq, hcount]
  · exact .inl rfl

end EtherRoute

/-! ### What each operation does -/

namespace ARPHandler

/-- A part of `handleTimer` that leaves the table `t`. -/
structure Tends (t : List EtherRoute) (h h' : Stack) : Prop where
  speaks : Speaks h h'
  arp : h'.arp = { h.arp with routingTable := t }
  etherControl : h'.etherControl = h.etherControl

/-- A message sent leaves the table. -/
theorem Sends.tends {h h' : Stack} (hs : Sends h h') : Tends h.arp.routingTable h h' :=
  ⟨hs.speaks, by rw [hs.rest], by rw [hs.rest]⟩

/-- The table is what the last step has left. -/
theorem Tends.trans {t t' : List EtherRoute} {h h' h'' : Stack} (h₁ : Tends t h h')
    (h₂ : Tends t' h' h'') : Tends t' h h'' :=
  ⟨h₁.speaks.trans h₂.speaks, by rw [h₂.arp, h₁.arp], h₂.etherControl.trans h₁.etherControl⟩

/-- A message sent after a step leaves the step's table. -/
theorem Tends.then_sends {t : List EtherRoute} {h h' h'' : Stack} (h₁ : Tends t h h')
    (h₂ : Sends h' h'') : Tends t h h'' :=
  ⟨h₁.speaks.trans h₂.speaks, by rw [h₂.rest, h₁.arp], by rw [h₂.rest, h₁.etherControl]⟩

/-- One route replaced. -/
theorem tends_setRoute (i : ℕ) (r : EtherRoute) (h : Stack) :
    Tends (h.arp.routingTable.set i r) h (setRoute i r h) :=
  ⟨.of_update rfl, rfl, rfl⟩

/-- One round counts an active entry, and leaves its `tick`. -/
theorem checkRoute_does (current : UInt32) {i : ℕ} {r : EtherRoute} (n : UInt8) {h : Stack}
    (hr : h.arp.routingTable[i]? = some r) :
    (checkRoute current i r n h).1 = (if r.Active then n + 1 else n) ∧
      Tends (h.arp.routingTable.set i (r.tick current)) h (checkRoute current i r n h).2 := by
  have hcount : r.attemptCount.toUInt8 = r.lookupStatus := by
    rw [EtherRoute.attemptCount_eq]
    simp
  have hself : h.arp.routingTable.set i r = h.arp.routingTable := by
    obtain ⟨hi, rfl⟩ := List.getElem?_eq_some_iff.mp hr
    exact List.set_getElem_self hi
  have hkeep : Tends (h.arp.routingTable.set i r) h h := by
    rw [hself]
    exact ⟨.refl h, rfl, rfl⟩
  unfold checkRoute
  rw [hcount]
  dsimp only
  by_cases hactive : r.Active
  · obtain ⟨hpos, hlt⟩ := EtherRoute.active_iff.mp hactive
    have hpos' : r.lookupStatus ≠ 0 := UInt8.pos_iff_ne_zero.mp hpos
    rw [if_neg hpos', if_neg hactive.1, if_pos hactive]
    unfold EtherRoute.tick
    by_cases hlate : current - r.lookupTime < 250
    · have hdue : ¬ (r.Active ∧ ¬ current - r.lookupTime < 250) := fun h => h.2 hlate
      rw [if_pos hlate, if_neg hdue]
      exact ⟨rfl, hkeep⟩
    · have hdue : r.Active ∧ ¬ current - r.lookupTime < 250 := ⟨hactive, hlate⟩
      rw [if_neg hlate, if_pos hdue]
      by_cases hfive : r.lookupStatus ≥ 5
      · rw [if_pos hfive, if_pos hfive]
        exact ⟨rfl, tends_setRoute i .zero h⟩
      · rw [if_neg hfive, if_neg hfive, if_pos hpos, ← EtherRoute.attemptCount_eq]
        exact ⟨rfl, (tends_setRoute i _ h).then_sends (sendARPRequest_sends _ _)⟩
  · rw [EtherRoute.tick_of_not_active hactive, if_neg hactive]
    rw [EtherRoute.active_iff] at hactive
    split
    · exact ⟨rfl, hkeep⟩
    · next hne =>
        have hres : r.resolved := by
          rw [EtherRoute.resolved_iff, ← UInt8.not_lt]
          exact fun hlt => hactive ⟨UInt8.pos_iff_ne_zero.mpr hne, hlt⟩
        rw [if_pos hres]
        exact ⟨rfl, hkeep⟩

/-- The entries being looked up. -/
def activeCount (t : List EtherRoute) : ℕ := t.countP fun r => r.Active

/-- The first `n` rounds count the active ones among the first `n` entries, and leave the
`tick` of each. -/
theorem checkRoutes_does (current : UInt32) (h : Stack) {n : ℕ}
    (hn : n ≤ h.arp.routingTable.length) :
    (checkRoutes current h n).1 = UInt8.ofNat (activeCount (h.arp.routingTable.take n)) ∧
      Tends ((h.arp.routingTable.take n).map (·.tick current) ++ h.arp.routingTable.drop n) h
        (checkRoutes current h n).2 := by
  induction n with
  | zero => exact ⟨rfl, ⟨.refl h, rfl, rfl⟩⟩
  | succ n ih =>
      obtain ⟨hcount, htends⟩ := ih (by omega)
      rw [checkRoutes]
      generalize checkRoutes current h n = before at hcount htends ⊢
      obtain ⟨lookupCount, h'⟩ := before
      have hr : h'.arp.routingTable[n]? = some h.arp.routingTable[n] := by
        rw [htends.arp]
        dsimp only
        rw [List.getElem?_append_right (by simp)]
        simp [Nat.min_eq_left (Nat.le_of_lt hn)]
      dsimp only at hcount htends ⊢
      rw [hr]
      obtain ⟨hround, hround'⟩ := checkRoute_does current lookupCount hr
      refine ⟨?_, ?_⟩
      · rw [hround, hcount, activeCount, activeCount, List.take_succ_eq_append_getElem hn,
          List.countP_append]
        by_cases hactive : (h.arp.routingTable[n]).Active <;> simp [hactive]
      · have htable : h'.arp.routingTable.set n ((h.arp.routingTable[n]).tick current) =
            (h.arp.routingTable.take (n + 1)).map (·.tick current) ++
              h.arp.routingTable.drop (n + 1) := by
          have hlen : ((h.arp.routingTable.take n).map (·.tick current)).length = n := by
            simp
            omega
          rw [htends.arp]
          dsimp only
          rw [List.set_append_right _ _ hlen.le, hlen, Nat.sub_self,
            List.drop_eq_getElem_cons hn, List.set_cons_zero,
            List.take_succ_eq_append_getElem hn, List.map_append, List.append_assoc]
          rfl
        exact htable ▸ htends.trans hround'

/-- Every entry is left with its `tick`; the timer goes only when nothing is being looked up. -/
theorem handleTimer_does {h : Stack} (hlen : h.arp.routingTable.length < 256) :
    Speaks h (handleTimer h) ∧
      (handleTimer h).arp.routingTable = h.arp.routingTable.map (·.tick h.millis) ∧
      (Tends (h.arp.routingTable.map (·.tick h.millis)) h (handleTimer h) ∨
        (∀ r ∈ h.arp.routingTable, ¬ r.Active) ∧ (handleTimer h).arp.timer = 0 ∧
          (handleTimer h).etherControl.timerRegistry.length =
            h.etherControl.timerRegistry.length) := by
  obtain ⟨hcount, htends⟩ := checkRoutes_does h.millis h (le_refl h.arp.routingTable.length)
  rw [List.take_length] at hcount htends
  rw [List.drop_length, List.append_nil] at htends
  unfold handleTimer
  generalize checkRoutes h.millis h h.arp.routingTable.length = after at hcount htends ⊢
  obtain ⟨lookupCount, h'⟩ := after
  dsimp only at hcount htends ⊢
  split
  · next hdrop =>
      have hnone : activeCount h.arp.routingTable = 0 := by
        have hle : activeCount h.arp.routingTable ≤ h.arp.routingTable.length :=
          List.countP_le_length
        have hzero := congrArg UInt8.toNat (hcount.symm.trans hdrop.1)
        rw [UInt8.toNat_ofNat_of_lt' (lt_of_le_of_lt hle hlen)] at hzero
        exact hzero
      obtain ⟨hspeaks, harp, hlength⟩ := unregisterTimer_speaks h'.arp.timer h'
      refine ⟨(htends.speaks.trans hspeaks).trans ?_, ?_, .inr ⟨?_, rfl, ?_⟩⟩
      · exact .of_update rfl
      · rw [harp]
        exact congrArg ARPHandler.routingTable htends.arp
      · intro r hr hactive
        exact List.countP_eq_zero.mp hnone r hr (by simpa using hactive)
      · exact hlength.trans (by rw [htends.etherControl])
  · exact ⟨htends.speaks, by rw [htends.arp], .inl htends⟩

/-- The response in `p`, if `handlePayload` takes it for one to a request of this host. -/
def response (p : View) (h : Stack) : Option ARPMessage :=
  (ARPMessage.read p).filter fun m =>
    m.operation = ARP_RESPONSE ∧ m.target_hardware_addr = h.macAddr ∧
      m.target_protocol_addr = h.arp.ipAddress

/-- The routing table once a payload has been handled. -/
def heard (p : View) (h : Stack) : List EtherRoute :=
  match response p h with
  | none => h.arp.routingTable
  | some m => learn m.sender_protocol_addr m.sender_hardware_addr h.arp.routingTable

/-- Only a response changes the table, and only as `learn` does. -/
theorem handlePayload_does (p : View) (h : Stack) : Tends (heard p h) h (handlePayload p h) := by
  have hkeep : Tends h.arp.routingTable h h := ⟨.refl h, rfl, rfl⟩
  unfold handlePayload heard response
  cases ARPMessage.read p with
  | none => exact hkeep
  | some m =>
      dsimp only
      by_cases hrequest : m.operation = ARP_REQUEST
      · have hop : m.operation ≠ ARP_RESPONSE := by
          rw [hrequest]
          decide
        rw [if_pos hrequest, Option.filter_some_neg (by simp [hop])]
        dsimp only
        split
        · exact hkeep
        · exact (sendARPResponse_sends _ _ h).tends
      · rw [if_neg hrequest]
        by_cases hresponse : m.operation = ARP_RESPONSE ∧ m.target_hardware_addr = h.macAddr ∧
            m.target_protocol_addr = h.arp.ipAddress
        · rw [Option.filter_some_pos (by simpa using hresponse), if_pos hresponse.1,
            if_neg (not_not.mpr hresponse.2.1), if_neg (not_not.mpr hresponse.2.2)]
          exact ⟨.of_update rfl, rfl, rfl⟩
        · rw [Option.filter_some_neg (by simpa using hresponse)]
          split_ifs with hop hmac hip
          · exact hkeep
          · exact hkeep
          · exact absurd ⟨hop, not_not.mp hmac, not_not.mp hip⟩ hresponse
          · exact hkeep

/-- Registering the timer changes the timer only. -/
theorem ensureTimer_rest (h : Stack) : ensureTimer.exec h = { h with
    arp := { h.arp with timer := (ensureTimer.exec h).arp.timer }
    etherControl := (ensureTimer.exec h).etherControl } := by
  have hrest := registerTimer_rest .arp 250 h
  unfold ensureTimer Proc.exec
  rw [Proc.run_read_bind]
  split
  · rfl
  · rw [Proc.run_modify_bind, Proc.run_read_bind]
    generalize EtherControl.registerTimer .arp 250 h = registered at hrest ⊢
    obtain ⟨timer, h'⟩ := registered
    dsimp only at hrest ⊢
    rw [hrest]
    split <;> rfl

/-- The entry that `requestMACAddress` takes for a lookup. -/
def Takes (remoteIP : IPAddr) (t : List EtherRoute) (i : ℕ) (r : EtherRoute) : Prop :=
  t[i]? = some r ∧
    (r.resolved ∧ r.ipAddress = remoteIP ∨ r.Unused ∧ ∀ s ∈ t, s.ipAddress ≠ remoteIP)

/-- A lookup starts with the timer registered and the entry written. -/
theorem startLookup_does (remoteIP : IPAddr) {index : ℕ} {h : Stack} {r : EtherRoute}
    (hr : h.arp.routingTable[index]? = some r) :
    (startLookup remoteIP index).exec h = ensureTimer.exec h ∧ ¬ ensureTimer.succeeds h ∨
      ensureTimer.succeeds h ∧ Tends (h.arp.routingTable.set index (r.ask remoteIP h.millis))
        (ensureTimer.exec h) ((startLookup remoteIP index).exec h) := by
  have hrest := ensureTimer_rest h
  unfold startLookup Proc.exec Proc.succeeds at *
  rcases hrun : ensureTimer.run h with ⟨_ | u, h'⟩
  · rw [Proc.run_bind_of_none hrun]
    exact .inl ⟨rfl, by simp⟩
  · rw [Proc.run_bind_of_some hrun, Proc.run_modify_bind]
    rw [hrun] at hrest
    dsimp only at hrest
    refine .inr ⟨rfl, ?_⟩
    have htable : h'.arp.routingTable.modify index (EtherRoute.ask remoteIP h'.millis) =
        h.arp.routingTable.set index (r.ask remoteIP h.millis) := by
      obtain ⟨hi, rfl⟩ := List.getElem?_eq_some_iff.mp hr
      rw [hrest]
      dsimp only
      rw [List.modify_eq_take_cons_drop hi, List.set_eq_take_append_cons_drop, if_pos hi]
    change Tends _ h' ((sendARPRequest remoteIP).exec { h' with arp := { h'.arp with
      routingTable := h'.arp.routingTable.modify index (EtherRoute.ask remoteIP h'.millis) } })
    rw [htable]
    have hset : Tends (h.arp.routingTable.set index (r.ask remoteIP h.millis)) h' { h' with
        arp := { h'.arp with
          routingTable := h.arp.routingTable.set index (r.ask remoteIP h.millis) } } :=
      ⟨.of_update rfl, rfl, rfl⟩
    exact hset.then_sends (sendARPRequest_sends remoteIP _)

/-- A request is dropped, or the timer cannot be registered, or a lookup starts. -/
theorem requestMACAddress_does (remoteIP : IPAddr) (h : Stack) :
    (requestMACAddress remoteIP).exec h = h ∨
      (requestMACAddress remoteIP).exec h = ensureTimer.exec h ∧ ¬ ensureTimer.succeeds h ∨
      ensureTimer.succeeds h ∧ ∃ i r, Takes remoteIP h.arp.routingTable i r ∧
        Tends (h.arp.routingTable.set i (r.ask remoteIP h.millis)) (ensureTimer.exec h)
          ((requestMACAddress remoteIP).exec h) := by
  have hstart : ∀ {index : ℕ} {r : EtherRoute}, Takes remoteIP h.arp.routingTable index r →
      (startLookup remoteIP index).exec h = ensureTimer.exec h ∧ ¬ ensureTimer.succeeds h ∨
        ensureTimer.succeeds h ∧ ∃ i r, Takes remoteIP h.arp.routingTable i r ∧
          Tends (h.arp.routingTable.set i (r.ask remoteIP h.millis)) (ensureTimer.exec h)
            ((startLookup remoteIP index).exec h) := by
    intro index r htakes
    exact (startLookup_does remoteIP htakes.1).imp_right
      fun ⟨hsucc, htends⟩ => ⟨hsucc, index, r, htakes, htends⟩
  unfold requestMACAddress Proc.exec
  rw [Proc.run_read_bind]
  split
  · exact .inl rfl
  · next index hfind =>
      rcases findRoute_eq_some hfind with hnone | ⟨r, -, hr, hip, hres⟩
      · exact absurd hnone (by simp)
      · exact .inr (hstart ⟨hr, .inl ⟨hres, hip⟩⟩)
  · next hfind =>
      split
      · exact .inl rfl
      · next index hunused =>
          obtain ⟨hlt, hpred, -⟩ := List.findIdx?_eq_some_iff_getElem.mp hunused
          have hun : (h.arp.routingTable[index]).Unused := by
            simpa [EtherRoute.Unused] using hpred
          exact .inr (hstart ⟨List.getElem?_eq_getElem hlt,
            .inr ⟨hun, (findRoute_eq_none hfind).2⟩⟩)

end ARPHandler

/-- A host of the network 10.0.0.0 without an ARP handler, for the concrete runs in the modules
after this one. -/
def bareHost (own : UInt8) : Stack where
  macAddr := ⟨2, 0, 0, 0, 0, own⟩
  sendSize := 100
  recvSize := 100
  outboundSize := 40
  etherControl := ⟨[⟨0, none⟩, ⟨0, none⟩], [⟨0, 0, none⟩, ⟨0, 0, none⟩, ⟨0, 0, none⟩], 0⟩
  arp := ⟨⟨0, 0, 0, 0⟩, [], 0⟩
  ip := ⟨⟨10, 0, 0, own⟩, ⟨10, 0, 0, 254⟩, ⟨255, 255, 255, 0⟩, ⟨10, 0, 0, 0⟩, ⟨10, 0, 0, 255⟩,
    49152, [⟨0, none⟩, ⟨0, none⟩, ⟨0, none⟩]⟩
  dns := .noRoom
  millis := 0
  mem := fun _ _ => 0
  log := []

/-- The same host with an ARP handler. -/
def exampleHost (own routingTableSize : UInt8) : Stack :=
  ARPHandler.new ⟨10, 0, 0, own⟩ routingTableSize (bareHost own)

end AtmegaNet
