import AtmegaNet.TCPHandler

/-!
# The next hop

Which Ethernet address a packet is sent to: that of its destination if that is on the local
network, and else that of the gateway. `getMACForIP` tests every octet of a destination by
`subnetMask[i] & destinationIP[i] != ipNetwork[i]`, which compares before it masks, so that an
octet counts in full if its mask is odd and not at all if it is even.

`transmit` asks for a route when there is none. It asks for the remote address, also where
`getMACForIP` looks for the gateway.

## Main results

* `getMACForIP_iff`: the destinations for which `getMACForIP` decides correctly.
* `getMACForIP_aligned_iff`: it decides correctly for all of them if and only if every octet of
  the mask is 0 or 255.
* `transmit_asks_iff`: the remote addresses for which `transmit` asks for what it waits for.
-/

open Procedure

namespace AtmegaNet

/-! ### Octets -/

/-- A relation that holds of three addresses, octet by octet. -/
def IPAddr.All₃ (P : UInt8 → UInt8 → UInt8 → Prop) (a b c : IPAddr) : Prop :=
  P a.b0 b.b0 c.b0 ∧ P a.b1 b.b1 c.b1 ∧ P a.b2 b.b2 c.b2 ∧ P a.b3 b.b3 c.b3

instance (P : UInt8 → UInt8 → UInt8 → Prop) [∀ x y z, Decidable (P x y z)] (a b c : IPAddr) :
    Decidable (IPAddr.All₃ P a b c) :=
  inferInstanceAs (Decidable (_ ∧ _ ∧ _ ∧ _))

theorem IPAddr.All₃.congr {P Q : UInt8 → UInt8 → UInt8 → Prop} {a b c : IPAddr}
    (h : IPAddr.All₃ (fun x y z => P x y z ↔ Q x y z) a b c) :
    IPAddr.All₃ P a b c ↔ IPAddr.All₃ Q a b c := by
  obtain ⟨h0, h1, h2, h3⟩ := h
  exact and_congr h0 (and_congr h1 (and_congr h2 h3))

/-! ### The decision -/

/-- The address of a network. -/
def IPAddr.network (ipAddress subnetMask : IPAddr) : IPAddr := .map₂ (· &&& ·) ipAddress subnetMask

/-- The broadcast address of a network. -/
def IPAddr.broadcast (ipAddress subnetMask : IPAddr) : IPAddr :=
  .map₂ (fun network mask => network ||| ~~~mask) (ipAddress.network subnetMask) subnetMask

/-- Where a packet goes next: to everybody, or to the owner of an address. -/
inductive NextHop
  | everybody
  | owner (ip : IPAddr)
  deriving DecidableEq, Repr

/-- The Ethernet address of a next hop. -/
def NextHop.mac (arp : ARPHandler) : NextHop → Option MACAddr
  | everybody => some broadcastMAC
  | owner ip => arp.getMACAddress ip

/-- Where a packet must go next. -/
def nextHop (ipAddress subnetMask gatewayIP destinationIP : IPAddr) : NextHop :=
  if destinationIP = ipAddress.broadcast subnetMask then .everybody
  else if destinationIP.network subnetMask = ipAddress.network subnetMask then .owner destinationIP
  else .owner gatewayIP

namespace IPHandler

/-- `IPHandler::init`. `random` is the number drawn for the first port. -/
def init (ipAddress gatewayIP subnetMask : IPAddr) (random : ℕ) : IPHandler :=
  let ipNetwork := .map₂ (· &&& ·) ipAddress subnetMask
  { ipAddress := ipAddress
    gatewayIP := gatewayIP
    subnetMask := subnetMask
    ipNetwork := ipNetwork
    ipBroadcastAddress := .map₂ (fun network mask => network ||| ~~~mask) ipNetwork subnetMask
    nextPort := UInt16.ofNat (random % 10000)
    protocolRegistry := List.replicate 3 ⟨0, none⟩ }

/-- The addresses of a handler are as `init` has set them. No function changes them. -/
structure Configured (ipAddress gatewayIP subnetMask : IPAddr) (ip : IPHandler) : Prop where
  address : ip.ipAddress = ipAddress
  gateway : ip.gatewayIP = gatewayIP
  mask : ip.subnetMask = subnetMask
  network : ip.ipNetwork = ipAddress.network subnetMask
  broadcast : ip.ipBroadcastAddress = ipAddress.broadcast subnetMask

theorem configured_init (ipAddress gatewayIP subnetMask : IPAddr) (random : ℕ) :
    Configured ipAddress gatewayIP subnetMask (init ipAddress gatewayIP subnetMask random) :=
  ⟨rfl, rfl, rfl, rfl, rfl⟩

/-- The octets under an odd mask are those of the network. -/
def OddOctetsMatch (ipAddress subnetMask destinationIP : IPAddr) : Prop :=
  IPAddr.All₃ (fun mask destination network => mask &&& 1 = 1 → destination = network)
    subnetMask destinationIP (ipAddress.network subnetMask)

instance (ipAddress subnetMask destinationIP : IPAddr) :
    Decidable (OddOctetsMatch ipAddress subnetMask destinationIP) := by
  unfold OddOctetsMatch
  infer_instance

/-- Every octet of the mask is 0 or 255. -/
def Aligned (subnetMask : IPAddr) : Prop := ∀ mask ∈ subnetMask.bytes, mask = 0 ∨ mask = 255

instance (subnetMask : IPAddr) : Decidable (Aligned subnetMask) := by
  unfold Aligned
  infer_instance

variable {ipAddress gatewayIP subnetMask destinationIP : IPAddr}

theorem offNetwork_iff (mask destination network : UInt8) :
    offNetwork mask destination network = false ↔ (mask &&& 1 = 1 → destination = network) := by
  have hodd : ∀ mask : UInt8, mask &&& 1 ≠ 0 ↔ mask &&& 1 = 1 := forall_uint8 (by decide +kernel)
  unfold offNetwork
  by_cases heq : destination = network
  · simp [heq]
  · rw [if_pos heq, ← hodd]
    simp [heq]

/-- What the octet tests amount to. -/
theorem Configured.onLocalNetwork_iff {ip : IPHandler}
    (h : Configured ipAddress gatewayIP subnetMask ip) :
    ip.onLocalNetwork destinationIP ↔ OddOctetsMatch ipAddress subnetMask destinationIP := by
  unfold onLocalNetwork OddOctetsMatch IPAddr.All₃
  rw [h.mask, h.network]
  simp [← offNetwork_iff, and_assoc]

theorem network_eq_iff : destinationIP.network subnetMask = ipAddress.network subnetMask ↔
    IPAddr.All₃ (fun mask destination network => destination &&& mask = network) subnetMask
      destinationIP (ipAddress.network subnetMask) := by
  unfold IPAddr.All₃ IPAddr.network IPAddr.map₂
  simp

/-- Setting the bits outside a mask changes nothing under it. -/
theorem or_not_and (a m : UInt8) : (a &&& m ||| ~~~m) &&& m = a &&& m := by
  refine UInt8.toBitVec_inj.mp (BitVec.eq_of_getLsbD_eq fun i hi => ?_)
  cases ha : a.toBitVec.getLsbD i
  · cases hm : m.toBitVec.getLsbD i
    · simp [ha, hm]
    · simp [ha, hm]
  · cases hm : m.toBitVec.getLsbD i
    · simp [ha, hm]
    · simp [ha, hm]

/-- The broadcast address is on the network. -/
theorem network_broadcast : (ipAddress.broadcast subnetMask).network subnetMask =
    ipAddress.network subnetMask := by
  simp [IPAddr.broadcast, IPAddr.network, IPAddr.map₂, or_not_and]

/-! ### Masks -/

/-- The two tests of an octet agree for every destination just if the mask is 0 or 255. -/
theorem octet_iff (a m : UInt8) :
    (∀ x : UInt8, (m &&& 1 = 1 → x = a &&& m) ↔ x &&& m = a &&& m) ↔ m = 0 ∨ m = 255 := by
  constructor
  · intro h
    by_cases hodd : m &&& 1 = 1
    · -- the broadcast octet is local, so that no bit is outside the mask
      have hall := (h (a &&& m ||| ~~~m)).mpr (or_not_and a m) hodd
      have hnone : ~~~m = 0 := by
        calc ~~~m = (a &&& m ||| ~~~m) &&& ~~~m := by
              rw [UInt8.and_comm]
              refine UInt8.toBitVec_inj.mp (BitVec.eq_of_getLsbD_eq fun i hi => ?_)
              cases hm : m.toBitVec[i]
              · simp [hm, hi]
              · simp [hm, hi]
          _ = a &&& m &&& ~~~m := by rw [hall]
          _ = 0 := by rw [UInt8.and_assoc, UInt8.and_not_self, UInt8.and_zero]
      refine .inr ?_
      rw [← UInt8.not_not (a := m), hnone]
      rfl
    · have hzero := (h 0).mp fun h => absurd h hodd
      have hmax := (h 255).mp fun h => absurd h hodd
      refine .inl ?_
      rw [UInt8.zero_and] at hzero
      have hfull : (255 : UInt8) &&& m = m := UInt8.neg_one_and
      rw [← hfull, hmax, ← hzero]
  · rintro (rfl | rfl) x
    · simp
    · have hfull : ∀ y : UInt8, y &&& 255 = y := fun y => UInt8.and_neg_one
      rw [hfull, hfull]
      exact ⟨fun h => h rfl, fun h _ => h⟩

/-- Under a mask of full and empty octets the two tests agree. -/
theorem Aligned.oddOctetsMatch_iff (h : Aligned subnetMask) :
    OddOctetsMatch ipAddress subnetMask destinationIP ↔
      destinationIP.network subnetMask = ipAddress.network subnetMask := by
  rw [network_eq_iff]
  have hoctet : ∀ {a m : UInt8}, m = 0 ∨ m = 255 → ∀ x : UInt8,
      (m &&& 1 = 1 → x = a &&& m) ↔ x &&& m = a &&& m := fun hm => (octet_iff _ _).mpr hm
  obtain ⟨h0, h1, h2, h3⟩ : (subnetMask.b0 = 0 ∨ subnetMask.b0 = 255) ∧
      (subnetMask.b1 = 0 ∨ subnetMask.b1 = 255) ∧ (subnetMask.b2 = 0 ∨ subnetMask.b2 = 255) ∧
      (subnetMask.b3 = 0 ∨ subnetMask.b3 = 255) := by simpa [Aligned, IPAddr.bytes] using h
  exact IPAddr.All₃.congr ⟨hoctet h0 _, hoctet h1 _, hoctet h2 _, hoctet h3 _⟩

/-- Only then. -/
theorem aligned_of_iff (h : ∀ destinationIP, OddOctetsMatch ipAddress subnetMask destinationIP ↔
    destinationIP.network subnetMask = ipAddress.network subnetMask) : Aligned subnetMask := by
  simp only [network_eq_iff, OddOctetsMatch, IPAddr.All₃] at h
  have hself : ∀ a m : UInt8, a &&& m &&& m = a &&& m := fun a m => by
    rw [UInt8.and_assoc, UInt8.and_self]
  -- all octets but one are those of the network
  have h0 := (octet_iff ipAddress.b0 subnetMask.b0).mp fun x => by
    simpa [IPAddr.network, IPAddr.map₂, hself] using h { ipAddress.network subnetMask with b0 := x }
  have h1 := (octet_iff ipAddress.b1 subnetMask.b1).mp fun x => by
    simpa [IPAddr.network, IPAddr.map₂, hself] using h { ipAddress.network subnetMask with b1 := x }
  have h2 := (octet_iff ipAddress.b2 subnetMask.b2).mp fun x => by
    simpa [IPAddr.network, IPAddr.map₂, hself] using h { ipAddress.network subnetMask with b2 := x }
  have h3 := (octet_iff ipAddress.b3 subnetMask.b3).mp fun x => by
    simpa [IPAddr.network, IPAddr.map₂, hself] using h { ipAddress.network subnetMask with b3 := x }
  simpa [Aligned, IPAddr.bytes] using ⟨h0, h1, h2, h3⟩

/-- What `getMACForIP` finds. -/
theorem Configured.getMACForIP_eq {h : Stack} (hc : Configured ipAddress gatewayIP subnetMask h.ip) :
    getMACForIP destinationIP h =
      if OddOctetsMatch ipAddress subnetMask destinationIP then
        if destinationIP = ipAddress.broadcast subnetMask then some broadcastMAC
        else h.arp.getMACAddress destinationIP
      else h.arp.getMACAddress gatewayIP := by
  have hlocal : h.ip.onLocalNetwork destinationIP ↔
      OddOctetsMatch ipAddress subnetMask destinationIP := hc.onLocalNetwork_iff
  unfold getMACForIP
  rw [hc.broadcast, hc.gateway]
  by_cases hodd : OddOctetsMatch ipAddress subnetMask destinationIP
  · by_cases heq : destinationIP = ipAddress.broadcast subnetMask
    · rw [if_pos ⟨hlocal.mpr hodd, heq.symm⟩, if_pos hodd, if_pos heq]
    · rw [if_neg fun h => heq h.2.symm, if_pos (hlocal.mpr hodd), if_pos hodd, if_neg heq]
  · rw [if_neg fun h => hodd (hlocal.mp h.1), if_neg fun h => hodd (hlocal.mp h), if_neg hodd]

/-- What it must find. -/
theorem nextHop_eq : nextHop ipAddress subnetMask gatewayIP destinationIP =
    if destinationIP.network subnetMask = ipAddress.network subnetMask then
      if destinationIP = ipAddress.broadcast subnetMask then .everybody
      else .owner destinationIP
    else .owner gatewayIP := by
  unfold nextHop
  by_cases heq : destinationIP = ipAddress.broadcast subnetMask
  · have hlocal : destinationIP.network subnetMask = ipAddress.network subnetMask := by
      rw [heq]
      exact network_broadcast
    rw [if_pos heq, if_pos hlocal, if_pos heq]
  · rw [if_neg heq, if_neg heq]

/-- A stack whose handler is configured and that knows the owner of at most one address. -/
def knows (ipAddress gatewayIP subnetMask : IPAddr) (route : Option (IPAddr × MACAddr))
    (h : Stack) : Stack :=
  { h with
    ip := init ipAddress gatewayIP subnetMask 0
    arp := { h.arp with
      routingTable := route.toList.map fun r => ⟨r.1, r.2, 0, ARP_RESOLVED⟩ } }

theorem getMACAddress_knows (route : Option (IPAddr × MACAddr)) (h : Stack) (ip : IPAddr) :
    (knows ipAddress gatewayIP subnetMask route h).arp.getMACAddress ip =
      route.bind fun r => if r.1 = ip then some r.2 else none := by
  unfold ARPHandler.getMACAddress knows
  cases route with
  | none => rfl
  | some r =>
      by_cases heq : r.1 = ip
      · simp [heq, EtherRoute.resolved, ARP_RESOLVED]
      · simp [heq]

/-- `getMACForIP` decides on a destination as it must. -/
def Decides (ipAddress gatewayIP subnetMask destinationIP : IPAddr) : Prop :=
  ∀ h : Stack, Configured ipAddress gatewayIP subnetMask h.ip →
    getMACForIP destinationIP h =
      (nextHop ipAddress subnetMask gatewayIP destinationIP).mac h.arp

theorem decides_iff (ipAddress gatewayIP subnetMask destinationIP : IPAddr) :
    Decides ipAddress gatewayIP subnetMask destinationIP ↔
      (OddOctetsMatch ipAddress subnetMask destinationIP ↔
        destinationIP.network subnetMask = ipAddress.network subnetMask) ∨
      destinationIP = gatewayIP ∧ destinationIP ≠ ipAddress.broadcast subnetMask := by
  constructor
  · intro hall
    by_contra hnot
    obtain ⟨hdiffer, hgateway⟩ := not_or.mp hnot
    -- a stack that knows only the owner of the destination, or none, tells the two apart
    have hfound : ∀ route : Option (IPAddr × MACAddr),
        let h := knows ipAddress gatewayIP subnetMask route (exampleStack 1 2)
        (if OddOctetsMatch ipAddress subnetMask destinationIP then
          if destinationIP = ipAddress.broadcast subnetMask then some broadcastMAC
          else h.arp.getMACAddress destinationIP
        else h.arp.getMACAddress gatewayIP) =
          (nextHop ipAddress subnetMask gatewayIP destinationIP).mac h.arp := fun route =>
      (Configured.getMACForIP_eq (configured_init _ _ _ 0)).symm.trans
        (hall _ (configured_init _ _ _ 0))
    have hself : ∀ mac : MACAddr, (some (destinationIP, mac)).bind (fun r : IPAddr × MACAddr =>
        if r.1 = destinationIP then some r.2 else none) = some mac := fun mac => if_pos rfl
    have hother : destinationIP ≠ gatewayIP → ∀ mac : MACAddr, (some (destinationIP, mac)).bind
        (fun r : IPAddr × MACAddr => if r.1 = gatewayIP then some r.2 else none) = none :=
      fun hne mac => if_neg hne
    simp only [getMACAddress_knows, nextHop_eq] at hfound
    by_cases hodd : OddOctetsMatch ipAddress subnetMask destinationIP
    · have hlocal : ¬ destinationIP.network subnetMask = ipAddress.network subnetMask :=
        fun h => hdiffer (iff_of_true hodd h)
      have hne : destinationIP ≠ ipAddress.broadcast subnetMask := by
        rintro rfl
        exact hlocal network_broadcast
      have hdest := hfound (some (destinationIP, broadcastMAC))
      rw [if_pos hodd, if_neg hne, if_neg hlocal, NextHop.mac, getMACAddress_knows, hself,
        hother fun h => hgateway ⟨h, hne⟩] at hdest
      exact absurd hdest (by simp)
    · have hlocal : destinationIP.network subnetMask = ipAddress.network subnetMask := by
        by_contra h
        exact hdiffer (iff_of_false hodd h)
      by_cases heq : destinationIP = ipAddress.broadcast subnetMask
      · have hnone := hfound none
        rw [if_neg hodd, if_pos hlocal, if_pos heq, NextHop.mac] at hnone
        exact absurd hnone (by simp)
      · have hdest := hfound (some (destinationIP, broadcastMAC))
        rw [if_neg hodd, if_pos hlocal, if_neg heq, NextHop.mac, getMACAddress_knows, hself,
          hother fun h => hgateway ⟨h, heq⟩] at hdest
        exact absurd hdest (by simp)
  · rintro (hsame | ⟨heq, hne⟩) h hc
    · rw [hc.getMACForIP_eq, nextHop_eq]
      by_cases hodd : OddOctetsMatch ipAddress subnetMask destinationIP
      · rw [if_pos hodd, if_pos (hsame.mp hodd)]
        split
        · rfl
        · rfl
      · rw [if_neg hodd, if_neg fun h => hodd (hsame.mpr h)]
        rfl
    · rw [hc.getMACForIP_eq, nextHop_eq, if_neg hne, if_neg hne, heq]
      split_ifs
      · rfl
      · rfl
      · rfl
      · rfl

/-- `getMACForIP` decides on a destination as it must if and only if the octets under an odd
mask tell whether the destination is local, or it is the gateway and not the broadcast address.
It does so on every destination and with every gateway just if the mask is aligned. -/
theorem getMACForIP_iff (ipAddress subnetMask : IPAddr) :
    (∀ gatewayIP destinationIP, Decides ipAddress gatewayIP subnetMask destinationIP ↔
      (OddOctetsMatch ipAddress subnetMask destinationIP ↔
        destinationIP.network subnetMask = ipAddress.network subnetMask) ∨
      destinationIP = gatewayIP ∧ destinationIP ≠ ipAddress.broadcast subnetMask) ∧
    ((∀ gatewayIP destinationIP, Decides ipAddress gatewayIP subnetMask destinationIP) ↔
      Aligned subnetMask) := by
  refine ⟨fun gatewayIP destinationIP => decides_iff _ _ _ _, fun hall => ?_, fun h _ _ => ?_⟩
  · have hagree : ∀ destinationIP, OddOctetsMatch ipAddress subnetMask destinationIP ↔
        destinationIP.network subnetMask = ipAddress.network subnetMask := by
      intro destinationIP
      -- a gateway that is not the destination
      have hne : destinationIP ≠ { destinationIP with b0 := destinationIP.b0 + 1 } := by
        intro heq
        exact absurd (congrArg IPAddr.b0 heq) (by simp)
      exact ((decides_iff _ _ _ _).mp (hall _ destinationIP)).resolve_right fun h => hne h.1
    exact aligned_of_iff hagree
  · exact (decides_iff _ _ _ _).mpr (.inl h.oddOctetsMatch_iff)

/-- 192.168.8.9 is not on the network 192.168.0.0/22, but it is not looked for at the gateway. -/
theorem getMACForIP_slash22 :
    nextHop ⟨192, 168, 1, 1⟩ ⟨255, 255, 252, 0⟩ ⟨192, 168, 1, 254⟩ ⟨192, 168, 8, 9⟩ =
        .owner ⟨192, 168, 1, 254⟩ ∧
      ¬ Decides ⟨192, 168, 1, 1⟩ ⟨192, 168, 1, 254⟩ ⟨255, 255, 252, 0⟩ ⟨192, 168, 8, 9⟩ := by
  refine ⟨by decide, fun h => ?_⟩
  have hfound := h (knows ⟨192, 168, 1, 1⟩ ⟨192, 168, 1, 254⟩ ⟨255, 255, 252, 0⟩
    (some (⟨192, 168, 1, 254⟩, broadcastMAC)) (exampleStack 1 2)) (configured_init _ _ _ 0)
  exact absurd hfound (by decide)

/-! ### The address that is looked for -/

/-- The address whose entry `getMACForIP` consults, if it consults one. -/
def consulted (ip : IPHandler) (destinationIP : IPAddr) : Option IPAddr :=
  if ip.onLocalNetwork destinationIP ∧ ip.ipBroadcastAddress = destinationIP then none
  else if ip.onLocalNetwork destinationIP then some destinationIP
  else some ip.gatewayIP

theorem getMACForIP_consulted (destinationIP : IPAddr) (h : Stack) :
    getMACForIP destinationIP h = match h.ip.consulted destinationIP with
      | none => some broadcastMAC
      | some ip => h.arp.getMACAddress ip := by
  unfold getMACForIP consulted
  split_ifs
  · rfl
  · rfl
  · rfl

end IPHandler

namespace Socket

open IPHandler

variable {α : Type}

/-- The part of `transmit` for an address with a route. -/
def handOver (length : UInt16) (option_length : UInt8) : Proc (World α) Unit := do
  let remoteIP ← Proc.read fun w => w.self.remoteIP
  let buf ← Proc.read fun w => w.stack.ipPayload
  let len := length + TCP_HEADER_LENGTH + option_length.toUInt16
  let checksum ← Proc.read fun w =>
    calcChecksum (buf.view w.stack.mem) len w.stack.ip.ipAddress remoteIP
  World.onMem (buf.writeNet16 16 checksum)
  World.onStack (IPHandler.sendPacket remoteIP TCP_PROTOCOL len)

/-- `transmit`, given the function that it asks for a route. -/
def transmitWith (requestMACAddress : IPAddr → Proc Stack Unit) (length : UInt16)
    (option_length : UInt8) : Proc (World α) Unit := do
  let remoteIP ← Proc.read fun w => w.self.remoteIP
  let route ← Proc.read fun w => getMACForIP remoteIP w.stack
  if route.isNone then Proc.attempt (World.onStack (requestMACAddress remoteIP))
  else handOver length option_length

theorem run_transmit (length : UInt16) (option_length : UInt8) (w : World α) :
    (transmit length option_length).run w =
      (transmitWith ARPHandler.requestMACAddress length option_length).run w := by
  unfold transmit transmitWith handOver
  simp only [Proc.run_read_bind]
  split
  · rfl
  · simp only [Proc.run_read_bind]

variable {w : World α} {length : UInt16} {option_length : UInt8}

theorem run_transmitWith (requestMACAddress : IPAddr → Proc Stack Unit) :
    (transmitWith requestMACAddress length option_length).run w =
      if (getMACForIP w.self.remoteIP w.stack).isNone then
        (Proc.attempt (World.onStack (requestMACAddress w.self.remoteIP))).run w
      else (handOver length option_length).run w := by
  unfold transmitWith
  rw [Proc.run_read_bind, Proc.run_read_bind]
  split
  · rfl
  · rfl

/-- `transmit` asks for the route to an address, and does nothing else. -/
def Asks (length : UInt16) (option_length : UInt8) (w : World α) (ip : IPAddr) : Prop :=
  ∀ requestMACAddress : IPAddr → Proc Stack Unit,
    (transmitWith requestMACAddress length option_length).run w =
      (Proc.attempt (World.onStack (requestMACAddress ip))).run w

/-- It is the remote address that it asks for. -/
theorem asks_iff (hnone : getMACForIP w.self.remoteIP w.stack = none) (ip : IPAddr) :
    Asks length option_length w ip ↔ ip = w.self.remoteIP := by
  have hrun : ∀ requestMACAddress : IPAddr → Proc Stack Unit,
      (transmitWith requestMACAddress length option_length).run w =
        (Proc.attempt (World.onStack (requestMACAddress w.self.remoteIP))).run w := by
    intro requestMACAddress
    rw [run_transmitWith, if_pos (by rw [hnone]; rfl)]
  constructor
  · intro hasks
    -- a request that leaves the address it is given
    have hleaves := (hrun fun ip => Proc.modify fun h => { h with arp := { h.arp with ipAddress := ip } }
      ).symm.trans (hasks _)
    exact (congrArg (fun x => x.2.stack.arp.ipAddress) hleaves).symm
  · rintro rfl
    exact hrun

/-- What `transmit` asks for when there is no route is what it waits for: `getMACForIP` consults
the entry of that address, and once it is there the segment is handed over. -/
def AsksForItsRoute (length : UInt16) (option_length : UInt8) (w : World α) : Prop :=
  ∃ ip, Asks length option_length w ip ∧ w.stack.ip.consulted w.self.remoteIP = some ip ∧
    ∀ stack : Stack, stack.ip = w.stack.ip → (stack.arp.getMACAddress ip).isSome →
      (transmit length option_length).run { w with stack := stack } =
        (handOver length option_length).run { w with stack := stack }

/-- Under an aligned mask `transmit` asks for the route it waits for if and only if the remote
address is local, or the gateway itself. -/
theorem transmit_asks_iff {ipAddress gatewayIP subnetMask : IPAddr} (length : UInt16)
    (option_length : UInt8) (hc : Configured ipAddress gatewayIP subnetMask w.stack.ip)
    (haligned : Aligned subnetMask) (hnone : getMACForIP w.self.remoteIP w.stack = none) :
    AsksForItsRoute length option_length w ↔
      w.self.remoteIP.network subnetMask = ipAddress.network subnetMask ∨
        w.self.remoteIP = gatewayIP := by
  have hlocal : w.stack.ip.onLocalNetwork w.self.remoteIP ↔
      w.self.remoteIP.network subnetMask = ipAddress.network subnetMask :=
    hc.onLocalNetwork_iff.trans haligned.oddOctetsMatch_iff
  constructor
  · rintro ⟨ip, hasks, hconsulted, -⟩
    rw [(asks_iff hnone ip).mp hasks, consulted] at hconsulted
    split_ifs at hconsulted with hbroadcast hon
    · exact .inl (hlocal.mp hon)
    · refine .inr ?_
      rw [← Option.some.inj hconsulted, hc.gateway]
  · intro hreach
    have hconsulted : w.stack.ip.consulted w.self.remoteIP = some w.self.remoteIP := by
      rw [getMACForIP_consulted] at hnone
      unfold consulted at hnone ⊢
      split_ifs at hnone ⊢ with hbroadcast hon
      · rfl
      · rw [hc.gateway, hreach.resolve_left fun h => hon (hlocal.mpr h)]
    refine ⟨_, (asks_iff hnone _).mpr rfl, hconsulted, fun stack hip hknown => ?_⟩
    have hfound : getMACForIP w.self.remoteIP stack =
        stack.arp.getMACAddress w.self.remoteIP := by
      rw [getMACForIP_consulted, hip, hconsulted]
    rw [run_transmit, run_transmitWith, if_neg]
    rw [hfound, Option.isNone_iff_eq_none]
    exact Option.isSome_iff_ne_none.mp hknown

/-- 10.0.0.1 with the network 10.0.0.0/24, the gateway 10.0.0.254 and no routes, and a socket
for a remote address. -/
def exampleUnrouted (remoteIP : IPAddr) : World Unit :=
  let w := exampleClient.world 0
  { w with
    self := { w.self with remoteIP := remoteIP }
    stack := { w.stack with
      ip := IPHandler.init ⟨10, 0, 0, 1⟩ ⟨10, 0, 0, 254⟩ ⟨255, 255, 255, 0⟩ 0
      arp := { w.stack.arp with routingTable := [] } } }

theorem transmit_asks_local :
    AsksForItsRoute 0 0 (exampleUnrouted ⟨10, 0, 0, 9⟩) :=
  (transmit_asks_iff 0 0 (configured_init _ _ _ 0) (by decide) (by decide)).mpr (.inl (by decide))

/-- For an address beyond the gateway the route that is asked for is not the one that is waited
for. -/
theorem transmit_asks_remote :
    getMACForIP ⟨8, 8, 8, 8⟩ (exampleUnrouted ⟨8, 8, 8, 8⟩).stack = none ∧
      (exampleUnrouted ⟨8, 8, 8, 8⟩).stack.ip.consulted ⟨8, 8, 8, 8⟩ = some ⟨10, 0, 0, 254⟩ ∧
      (∀ ip, Asks 0 0 (exampleUnrouted ⟨8, 8, 8, 8⟩) ip → ip = ⟨8, 8, 8, 8⟩) ∧
      ¬ AsksForItsRoute 0 0 (exampleUnrouted ⟨8, 8, 8, 8⟩) := by
  have hnone : getMACForIP ⟨8, 8, 8, 8⟩ (exampleUnrouted ⟨8, 8, 8, 8⟩).stack = none := by decide
  refine ⟨hnone, by decide, fun ip => (asks_iff hnone ip).mp, ?_⟩
  rintro ⟨ip, hasks, hconsulted, -⟩
  rw [(asks_iff hnone ip).mp hasks] at hconsulted
  exact absurd hconsulted (by decide)

end Socket

end AtmegaNet
