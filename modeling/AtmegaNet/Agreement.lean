import AtmegaNet.RoutingTable

/-!
# ARP agreement on a segment

The hosts of one Ethernet segment, each with its own ARP handler. What is on the wire is every
frame that any of them has ever sent: a frame can be delivered to any host at any later time,
any number of times, padded or not, or never. So every loss, duplication, delay and
reordering is a run.

## Main results

* `Segment.getMACAddress_eq`: a host that has an Ethernet address for another host's IP address has
  the right one.
-/

open Procedure Runs

namespace AtmegaNet

namespace ARPHandler

/-- Where a resolved entry has its Ethernet address from: it had it before, or the payload
handled was a response with it. -/
theorem resolved_run {h : Stack} {e : Event} (he : Arrives h e)
    (hlen : h.arp.routingTable.length < 256) {r' : EtherRoute}
    (hr' : r' ∈ (run e h).arp.routingTable) (hres : r'.resolved) :
    (∃ r ∈ h.arp.routingTable, r.resolved ∧ r'.ipAddress = r.ipAddress ∧
        r'.macAddress = r.macAddress) ∨
      ∃ p m, e = .handlePayload p ∧ response p h = some m ∧
        r'.ipAddress = m.sender_protocol_addr ∧ r'.macAddress = m.sender_hardware_addr := by
  cases e with
  | requestMACAddress remoteIP =>
      left
      have htable : (ensureTimer.exec h).arp.routingTable = h.arp.routingTable := by
        rw [ensureTimer_rest h]
      rcases requestMACAddress_does remoteIP h with heq | ⟨heq, -⟩ |
        ⟨-, i, r, ⟨hr, hwhy⟩, htends⟩
      · rw [run, heq] at hr'
        exact ⟨r', hr', hres, rfl, rfl⟩
      · rw [run, heq, htable] at hr'
        exact ⟨r', hr', hres, rfl, rfl⟩
      · rw [run, htends.arp] at hr'
        rcases List.mem_or_eq_of_mem_set hr' with hr' | rfl
        · exact ⟨r', hr', hres, rfl, rfl⟩
        · rw [EtherRoute.resolved_ask] at hres
          rcases hwhy with ⟨-, hip⟩ | ⟨hun, -⟩
          · exact ⟨r, List.mem_of_getElem? hr, hres, hip.symm, rfl⟩
          · exact absurd hres hun.1
  | handlePayload p =>
      rw [run, (handlePayload_does p h).arp] at hr'
      dsimp only at hr'
      unfold heard at hr'
      split at hr'
      · exact .inl ⟨r', hr', hres, rfl, rfl⟩
      · next m hm =>
          rcases learn_cases m.sender_protocol_addr m.sender_hardware_addr
            h.arp.routingTable with ⟨heq, -⟩ | ⟨i, r, -, hip, heq⟩
          · rw [heq] at hr'
            exact .inl ⟨r', hr', hres, rfl, rfl⟩
          · rw [heq] at hr'
            rcases List.mem_or_eq_of_mem_set hr' with hr' | rfl
            · exact .inl ⟨r', hr', hres, rfl, rfl⟩
            · exact .inr ⟨p, m, rfl, hm, hip, rfl⟩
  | handleTimer =>
      left
      rw [run, (handleTimer_does hlen).2.1] at hr'
      obtain ⟨r, hr, rfl⟩ := List.mem_map.mp hr'
      rcases r.tick_cases h.millis with heq | ⟨hactive, ⟨-, heq⟩ | ⟨hlt, heq⟩⟩
      · rw [heq] at hres ⊢
        exact ⟨r, hr, hres, rfl, rfl⟩
      · rw [heq] at hres
        exact absurd hres (by decide)
      · rw [heq, EtherRoute.resolved_iff] at hres
        have hsmall : ∀ s : UInt8, s < 5 → ¬ 128 ≤ s + 1 := forall_uint8 (by decide +kernel)
        exact absurd hres (hsmall r.lookupStatus hlt)
  | elsewhere h' =>
      rw [run, he.arp] at hr'
      exact .inl ⟨r', hr', hres, rfl, rfl⟩

/-- What an event sends names this host as its sender, and the handler keeps its address. -/
theorem run_speaks {h : Stack} {e : Event} (he : Arrives h e)
    (hlen : h.arp.routingTable.length < 256) :
    (run e h).macAddr = h.macAddr ∧ (run e h).arp.ipAddress = h.arp.ipAddress ∧
      ∃ l, (run e h).log = h.log ++ l ∧ ∀ frame, .frame frame ∈ l → CarriesARP frame →
        ∃ (destinationMAC : MACAddr) (m : ARPMessage), frame = m.frame destinationMAC ∧
          m.sender_hardware_addr = h.macAddr ∧ m.sender_protocol_addr = h.arp.ipAddress := by
  have hspeaks : ∀ {h' : Stack}, Speaks h h' → h'.macAddr = h.macAddr ∧
      h'.arp.ipAddress = h.arp.ipAddress ∧ ∃ l, h'.log = h.log ++ l ∧
        ∀ frame, .frame frame ∈ l → CarriesARP frame →
          ∃ (destinationMAC : MACAddr) (m : ARPMessage), frame = m.frame destinationMAC ∧
            m.sender_hardware_addr = h.macAddr ∧ m.sender_protocol_addr = h.arp.ipAddress := by
    intro h' hs
    obtain ⟨l, hl, hm⟩ := hs.log
    refine ⟨hs.macAddr, hs.ipAddress, l, hl, fun frame hframe _ => ?_⟩
    obtain hobs | ⟨destinationMAC, m, hobs, hmac, hip⟩ := hm _ hframe
    · exact absurd hobs (by simp)
    exact ⟨destinationMAC, m, Obs.frame.inj hobs, hmac, hip⟩
  by_cases helsewhere : ∃ h', e = .elsewhere h'
  · obtain ⟨h', rfl⟩ := helsewhere
    obtain ⟨l, hl, hno⟩ := he.log
    exact ⟨he.macAddr, by rw [run, he.arp], l, hl,
      fun frame hframe harp => absurd harp (hno frame hframe)⟩
  · exact hspeaks (speaks_run (fun h' heq => helsewhere ⟨h', heq⟩) hlen)

/-- The constructor of the handler changes neither the address nor what has been sent. -/
theorem new_rest (ipAddress : IPAddr) (routingTableSize : UInt8) (h : Stack) :
    (new ipAddress routingTableSize h).macAddr = h.macAddr ∧
      (new ipAddress routingTableSize h).log = h.log := by
  unfold new EtherControl.registerProtocol
  split <;> exact ⟨rfl, rfl⟩

end ARPHandler

namespace Segment

open ARPHandler

variable {ι : Type}

/-- A payload as it arrives: what lies behind the Ethernet header of an ARP frame some host has
sent, and the padding. -/
def OnWire (net : ι → Stack) (p : View) : Prop :=
  ∃ (j : ι) (frame padding : Bytes), .frame frame ∈ (net j).log ∧ CarriesARP frame ∧
    frame.length + padding.length < 65536 ∧ p = viewOf ((frame ++ padding).drop 14)

/-- What can happen at host `i`. -/
def Happens (net : ι → Stack) (e : ι × ARPHandler.Event) : Prop :=
  Arrives (net e.1) e.2 ∧ ∀ p, e.2 = .handlePayload p → OnWire net p

/-- An event at one host. -/
def run [DecidableEq ι] (e : ι × ARPHandler.Event) (net : ι → Stack) : ι → Stack :=
  Function.update net e.1 (ARPHandler.run e.2 (net e.1))

/-- The hosts keep their addresses, every ARP frame names its sender's, and so does every
resolved entry of every table. -/
structure Agrees (mac : ι → MACAddr) (ip : ι → IPAddr) (net : ι → Stack) : Prop where
  size : ∀ i, (net i).arp.routingTable.length < 256
  macAddr : ∀ i, (net i).macAddr = mac i
  ipAddress : ∀ i, (net i).arp.ipAddress = ip i
  wire : ∀ i frame, .frame frame ∈ (net i).log → CarriesARP frame →
    ∃ (destinationMAC : MACAddr) (m : ARPMessage), frame = m.frame destinationMAC ∧
      m.sender_hardware_addr = mac i ∧ m.sender_protocol_addr = ip i
  table : ∀ i, ∀ r ∈ (net i).arp.routingTable, r.resolved →
    ∀ j, r.ipAddress = ip j → r.macAddress = mac j

variable {mac : ι → MACAddr} {ip : ι → IPAddr} {net : ι → Stack}

/-- A message that arrives has been sent by the host it names. -/
theorem Agrees.sender (hn : Agrees mac ip net) {p : View} (hp : OnWire net p) {i : ι}
    {m : ARPMessage} (hm : response p (net i) = some m) :
    ∃ k, m.sender_hardware_addr = mac k ∧ m.sender_protocol_addr = ip k := by
  obtain ⟨k, frame, padding, hframe, harp, hlen, rfl⟩ := hp
  obtain ⟨destinationMAC, m', rfl, hmac, hip⟩ := hn.wire k frame hframe harp
  have hdrop : (m'.frame destinationMAC ++ padding).drop 14 = m'.bytes ++ padding := rfl
  have hframelen : (m'.frame destinationMAC).length = 42 := rfl
  rw [response, hdrop, ARPMessage.read_bytes m' padding (by omega),
    Option.filter_eq_some_iff] at hm
  obtain rfl : m' = m := Option.some.inj hm.1
  exact ⟨k, hmac, hip⟩

/-- Only the host changes that the event is at. -/
theorem forall_run [DecidableEq ι] {P : ι → Stack → Prop} {i : ι} {e : ARPHandler.Event}
    (hother : ∀ j, P j (net j)) (hself : P i (ARPHandler.run e (net i))) (j : ι) :
    P j (Segment.run (i, e) net j) :=
  (Function.forall_update_iff net P).mpr ⟨hself, fun k _ => hother k⟩ j

/-- Every event keeps the hosts in agreement. -/
theorem Agrees.run [DecidableEq ι] (hdistinct : Function.Injective ip)
    (hn : Agrees mac ip net) {e : ι × ARPHandler.Event} (he : Happens net e) :
    Agrees mac ip (run e net) := by
  obtain ⟨i, e⟩ := e
  obtain ⟨harrives, hwire⟩ := he
  dsimp only at harrives hwire
  obtain ⟨hmac, hip, l, hl, hframes⟩ := run_speaks harrives (hn.size i)
  constructor
  · refine forall_run (P := fun _ h => h.arp.routingTable.length < 256) hn.size ?_
    rw [(run_tableStep harrives (hn.size i)).length]
    exact hn.size i
  · exact forall_run (P := fun j h => h.macAddr = mac j) hn.macAddr
      (hmac.trans (hn.macAddr i))
  · exact forall_run (P := fun j h => h.arp.ipAddress = ip j) hn.ipAddress
      (hip.trans (hn.ipAddress i))
  · refine forall_run (P := fun j h => ∀ frame, .frame frame ∈ h.log → CarriesARP frame →
      ∃ (destinationMAC : MACAddr) (m : ARPMessage), frame = m.frame destinationMAC ∧
        m.sender_hardware_addr = mac j ∧ m.sender_protocol_addr = ip j) hn.wire ?_
    intro frame hframe harp
    rw [hl] at hframe
    rcases List.mem_append.mp hframe with hframe | hframe
    · exact hn.wire i frame hframe harp
    · rw [← hn.macAddr i, ← hn.ipAddress i]
      exact hframes frame hframe harp
  · refine forall_run (P := fun _ h => ∀ r ∈ h.arp.routingTable, r.resolved →
      ∀ j, r.ipAddress = ip j → r.macAddress = mac j) hn.table ?_
    intro r' hr' hres j hj
    rcases resolved_run harrives (hn.size i) hr' hres with
      ⟨r, hr, hres, hipr, hmacr⟩ | ⟨p, m, rfl, hm, hipm, hmacm⟩
    · rw [hmacr]
      exact hn.table i r hr hres j (hipr ▸ hj)
    · obtain ⟨k, hmack, hipk⟩ := hn.sender (hwire p rfl) hm
      have hkj : k = j := hdistinct (hipk.symm.trans (hipm.symm.trans hj))
      rw [hmacm, hmack, hkj]

/-- Hosts with new handlers agree. -/
theorem agrees_new (ip : ι → IPAddr) (size : ι → UInt8) {h₀ : ι → Stack}
    (hlog : ∀ i, (h₀ i).log = []) :
    Agrees (fun i => (h₀ i).macAddr) ip fun i => new (ip i) (size i) (h₀ i) := by
  have htable : ∀ i, (new (ip i) (size i) (h₀ i)).arp.routingTable =
      List.replicate (size i).toNat EtherRoute.zero := fun i => rfl
  constructor
  · intro i
    rw [htable, List.length_replicate]
    exact (size i).toNat_lt
  · exact fun i => (new_rest (ip i) (size i) (h₀ i)).1
  · exact fun i => rfl
  · intro i frame hframe
    rw [(new_rest (ip i) (size i) (h₀ i)).2, hlog i] at hframe
    exact absurd hframe (by simp)
  · intro i r hr hres
    rw [htable] at hr
    rw [List.eq_of_mem_replicate hr] at hres
    exact absurd hres (by decide)

/-- In every state of every run of hosts with distinct IP addresses, a host that has an Ethernet
address for the IP address of another has that host's. -/
theorem getMACAddress_eq [DecidableEq ι] (ip : ι → IPAddr) (size : ι → UInt8)
    {h₀ : ι → Stack} (hlog : ∀ i, (h₀ i).log = []) (hdistinct : Function.Injective ip)
    {net : ι → Stack} (hrun : Reaches Happens run (fun i => new (ip i) (size i) (h₀ i)) net)
    {i j : ι} {mac : MACAddr} (h : (net i).arp.getMACAddress (ip j) = some mac) :
    mac = (h₀ j).macAddr := by
  have hn := hrun.invariant (agrees_new ip size hlog) fun _ _ hn he => hn.run hdistinct he
  unfold getMACAddress at h
  cases hfind : (net i).arp.routingTable.find? (fun r => r.ipAddress = ip j) with
  | none =>
      rw [hfind] at h
      exact absurd h (by simp)
  | some r =>
      rw [hfind] at h
      dsimp only at h
      by_cases hres : r.resolved
      · rw [if_pos hres, Option.some.injEq] at h
        rw [← h]
        exact hn.table i r (List.mem_of_find?_eq_some hfind) hres j
          (by simpa using List.find?_some hfind)
      · rw [if_neg hres] at h
        exact absurd h (by simp)

/-- Two hosts, 10.0.0.1 and 10.0.0.2. -/
def exampleSegment : Bool → Stack := fun i =>
  new ⟨10, 0, 0, if i then 2 else 1⟩ 2 (bareHost (if i then 2 else 1))

/-- The request of 10.0.0.1 for the address of 10.0.0.2. -/
def exampleRequest : ARPMessage :=
  ⟨ARP_REQUEST, ⟨2, 0, 0, 0, 0, 1⟩, ⟨10, 0, 0, 1⟩, ⟨0, 0, 0, 0, 0, 0⟩, ⟨10, 0, 0, 2⟩⟩

/-- The answer to it. -/
def exampleAnswer : ARPMessage :=
  ⟨ARP_RESPONSE, ⟨2, 0, 0, 0, 0, 2⟩, ⟨10, 0, 0, 2⟩, ⟨2, 0, 0, 0, 0, 1⟩, ⟨10, 0, 0, 1⟩⟩

/-- 10.0.0.1 has asked. -/
def exampleAsked : Bool → Stack := run (false, .requestMACAddress ⟨10, 0, 0, 2⟩) exampleSegment

/-- 10.0.0.2 has answered. -/
def exampleAnswered : Bool → Stack :=
  run (true, .handlePayload (viewOf ((exampleRequest.frame broadcastMAC ++ []).drop 14)))
    exampleAsked

/-- The answer has arrived. -/
def exampleLearned : Bool → Stack :=
  run (false, .handlePayload
    (viewOf ((exampleAnswer.frame ⟨2, 0, 0, 0, 0, 1⟩ ++ [0, 0, 0, 0]).drop 14))) exampleAnswered

/-- The exchange between the two hosts. -/
theorem getMACAddress_eq_learned :
    (exampleLearned false).arp.getMACAddress ⟨10, 0, 0, 2⟩ = some ⟨2, 0, 0, 0, 0, 2⟩ ∧
      ⟨2, 0, 0, 0, 0, 2⟩ = (bareHost 2).macAddr := by
  have hasked : Happens exampleSegment (false, .requestMACAddress ⟨10, 0, 0, 2⟩) :=
    ⟨trivial, by simp⟩
  have hanswered : Happens exampleAsked (true, .handlePayload
      (viewOf ((exampleRequest.frame broadcastMAC ++ []).drop 14))) := by
    refine ⟨trivial, fun p hp => ?_⟩
    cases hp
    exact ⟨false, _, [], by decide +kernel, by decide, by decide, rfl⟩
  have hlearned : Happens exampleAnswered (false, .handlePayload
      (viewOf ((exampleAnswer.frame ⟨2, 0, 0, 0, 0, 1⟩ ++ [0, 0, 0, 0]).drop 14))) := by
    refine ⟨trivial, fun p hp => ?_⟩
    cases hp
    exact ⟨true, _, [0, 0, 0, 0], by decide +kernel, by decide, by decide, rfl⟩
  have hresult : (exampleLearned false).arp.getMACAddress ⟨10, 0, 0, 2⟩ =
      some ⟨2, 0, 0, 0, 0, 2⟩ := by decide +kernel
  exact ⟨hresult, getMACAddress_eq (fun i => ⟨10, 0, 0, if i then 2 else 1⟩) (fun _ => 2)
    (by decide) (fun i j => by cases i <;> cases j <;> simp)
    (((Reaches.refl.step hasked).step hanswered).step hlearned) (j := true) hresult⟩

end Segment

end AtmegaNet
