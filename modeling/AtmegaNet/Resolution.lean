import AtmegaNet.Agreement

/-!
# Looking up an address

Every lookup that is in progress has its request on the wire: an entry becomes active only when
the request is sent, and stays active only while it is repeated. So a lookup can always be
completed by two deliveries, that of the request and that of the answer to it.

## Main results

* `ARPHandler.sendARPRequest_frame`, `ARPHandler.sendARPResponse_frame`: the frames themselves.
* `Segment.Asked.run`: active entries have their requests on the wire.
* `Segment.reaches_resolved`: from every state that is reached two deliveries complete a lookup.
-/

open Procedure Runs

namespace AtmegaNet

namespace ARPHandler

/-! ### The frames -/

/-- One write of a function that lays out an ARP message, where the send buffer has room for
it. -/
theorem written_write {P : Stack → Prop} {h : Stack} {d e : Bytes} {start : UInt16}
    {k : Unit → Proc Stack Unit} (hs : 42 ≤ h.sendSize.toNat) (hstart : start.toNat = d.length)
    (hlen : d.length + e.length ≤ 28) (hk : P ((k ()).run (h.put 14 (d ++ e))).2) :
    P ((Stack.onMem (h.etherPayload.write start e) >>= k).run (h.put 14 d)).2 := by
  have hsize := h.toNat_size_etherPayload
  have hrun := Stack.onMem_write h.fits_etherPayload h.root_etherPayload (h.put 14 d)
    (show start.toNat + e.length ≤ h.etherPayload.size.toNat by omega)
  rw [h.base_etherPayload (by omega), hstart, Stack.put_put] at hrun
  rwa [Proc.run_bind_of_some hrun]

/-- What a function that has laid out an ARP message sends. -/
theorem run_sendFrame {h : Stack} {d : Bytes} (hs : 42 ≤ h.sendSize.toNat)
    (destinationMAC : MACAddr) {m : ARPMessage} (hd : d = m.bytes)
    (hm : m.sender_hardware_addr = h.macAddr) :
    .frame (m.frame destinationMAC) ∈
      ((EtherControl.sendFrame destinationMAC ARP_PROTOCOL 28).run (h.put 14 d)).2.log := by
  subst hd
  have hread : Region.read (h.put 14 m.bytes).mem .send 14 28 = m.bytes := by
    rw [Stack.put, Region.read_write_eq _ _ _ m.length_bytes.symm]
  have hframe : m.frame destinationMAC = etherHeader destinationMAC
      (h.put 14 m.bytes).macAddr ARP_PROTOCOL ++
        Region.read (h.put 14 m.bytes).mem .send 14 (28 : UInt16).toNat := by
    rw [ARPMessage.frame, hm]
    exact congrArg (etherHeader destinationMAC h.macAddr ARP_PROTOCOL ++ ·) hread.symm
  have hfit : 14 + (28 : UInt16).toNat ≤ (h.put 14 m.bytes).sendSize.toNat := hs
  rw [EtherControl.sendFrame_run (h.put 14 m.bytes) destinationMAC ARP_PROTOCOL hfit, hframe]
  exact List.mem_append_right _ (List.mem_singleton_self _)

/-- The request of a host. -/
def requestOf (h : Stack) (target_protocol_addr : IPAddr) : ARPMessage :=
  ⟨ARP_REQUEST, h.macAddr, h.arp.ipAddress, ⟨0, 0, 0, 0, 0, 0⟩, target_protocol_addr⟩

/-- The answer of a host. -/
def responseOf (h : Stack) (target_hardware_addr : MACAddr) (target_protocol_addr : IPAddr) :
    ARPMessage :=
  ⟨ARP_RESPONSE, h.macAddr, h.arp.ipAddress, target_hardware_addr, target_protocol_addr⟩

/-- Where the writes start, nothing has been written yet. -/
theorem written_start {P : Stack → Prop} {h : Stack} {k : Proc Stack Unit}
    (hk : P (k.run (h.put 14 [])).2) : P (k.run h).2 := by
  rwa [Stack.put, Region.write_nil] at hk

/-- The frame of a request. -/
theorem sendARPRequest_frame (target_protocol_addr : IPAddr) {h : Stack}
    (hs : 42 ≤ h.sendSize.toNat) :
    .frame ((requestOf h target_protocol_addr).frame broadcastMAC) ∈
      ((sendARPRequest target_protocol_addr).exec h).log := by
  unfold sendARPRequest Proc.exec
  rw [Proc.run_read_bind, Proc.run_read_bind, Proc.run_read_bind]
  simp only [Buffer.write8, Buffer.writeNet16, Buffer.write16]
  refine written_start (P := fun s => _ ∈ s.log) ?_
  iterate 14 refine written_write (P := fun s => _ ∈ s.log) hs rfl (by simp) ?_
  exact run_sendFrame hs broadcastMAC (m := requestOf h target_protocol_addr) rfl rfl

/-- The frame of an answer. -/
theorem sendARPResponse_frame (target_hardware_addr : MACAddr) (target_protocol_addr : IPAddr)
    {h : Stack} (hs : 42 ≤ h.sendSize.toNat) :
    .frame ((responseOf h target_hardware_addr target_protocol_addr).frame target_hardware_addr) ∈
      ((sendARPResponse target_hardware_addr target_protocol_addr).exec h).log := by
  unfold sendARPResponse Proc.exec
  rw [Proc.run_read_bind, Proc.run_read_bind, Proc.run_read_bind]
  simp only [Buffer.write8, Buffer.writeNet16, Buffer.write16]
  refine written_start (P := fun s => _ ∈ s.log) ?_
  iterate 9 refine written_write (P := fun s => _ ∈ s.log) hs rfl (by simp) ?_
  exact run_sendFrame hs target_hardware_addr
    (m := responseOf h target_hardware_addr target_protocol_addr) rfl rfl

/-! ### Active entries -/

/-- A lookup that starts sends its request. -/
theorem startLookup_frame (remoteIP : IPAddr) (index : ℕ) {h : Stack}
    (hs : 42 ≤ h.sendSize.toNat) :
    (startLookup remoteIP index).exec h = ensureTimer.exec h ∨
      .frame ((requestOf h remoteIP).frame broadcastMAC) ∈
        ((startLookup remoteIP index).exec h).log := by
  have hrest := ensureTimer_rest h
  unfold startLookup Proc.exec at *
  rcases hrun : ensureTimer.run h with ⟨_ | u, h'⟩
  · rw [Proc.run_bind_of_none hrun]
    exact .inl rfl
  · rw [Proc.run_bind_of_some hrun, Proc.run_modify_bind]
    rw [hrun] at hrest
    dsimp only at hrest
    right
    have hsize : 42 ≤ h'.sendSize.toNat := by
      rw [hrest]
      exact hs
    have hframe := sendARPRequest_frame remoteIP (h := { h' with arp := { h'.arp with
      routingTable := h'.arp.routingTable.modify index (EtherRoute.ask remoteIP h'.millis) } })
      hsize
    have hrequest : requestOf { h' with arp := { h'.arp with
        routingTable := h'.arp.routingTable.modify index (EtherRoute.ask remoteIP h'.millis) } }
          remoteIP = requestOf h remoteIP := by
      rw [hrest]
      rfl
    rw [hrequest] at hframe
    exact hframe

/-- A request that changes the table has been sent. -/
theorem requestMACAddress_frame (remoteIP : IPAddr) {h : Stack} (hs : 42 ≤ h.sendSize.toNat) :
    (requestMACAddress remoteIP).exec h = h ∨
      (requestMACAddress remoteIP).exec h = ensureTimer.exec h ∨
      .frame ((requestOf h remoteIP).frame broadcastMAC) ∈
        ((requestMACAddress remoteIP).exec h).log := by
  unfold requestMACAddress Proc.exec
  rw [Proc.run_read_bind]
  split
  · exact .inl rfl
  · exact .inr (startLookup_frame remoteIP _ hs)
  · split
    · exact .inl rfl
    · exact .inr (startLookup_frame remoteIP _ hs)

/-- Where an active entry comes from: it was active before, or its request has been sent. -/
theorem active_run {h : Stack} {e : Event} (he : Arrives h e) (hs : 42 ≤ h.sendSize.toNat)
    (hlen : h.arp.routingTable.length < 256) {r' : EtherRoute}
    (hr' : r' ∈ (run e h).arp.routingTable) (hactive : r'.Active) :
    (∃ r ∈ h.arp.routingTable, r.Active ∧ r'.ipAddress = r.ipAddress) ∨
      .frame ((requestOf h r'.ipAddress).frame broadcastMAC) ∈ (run e h).log := by
  cases e with
  | requestMACAddress remoteIP =>
      have htable : (ensureTimer.exec h).arp.routingTable = h.arp.routingTable := by
        rw [ensureTimer_rest h]
      rcases requestMACAddress_frame remoteIP hs with heq | heq | hframe
      · rw [run, heq] at hr'
        exact .inl ⟨r', hr', hactive, rfl⟩
      · rw [run, heq, htable] at hr'
        exact .inl ⟨r', hr', hactive, rfl⟩
      · rcases requestMACAddress_does remoteIP h with heq | ⟨heq, -⟩ | ⟨-, i, r, -, htends⟩
        · rw [run, heq] at hr'
          exact .inl ⟨r', hr', hactive, rfl⟩
        · rw [run, heq, htable] at hr'
          exact .inl ⟨r', hr', hactive, rfl⟩
        · rw [run, htends.arp] at hr'
          rcases List.mem_or_eq_of_mem_set hr' with hr' | rfl
          · exact .inl ⟨r', hr', hactive, rfl⟩
          · exact .inr hframe
  | handlePayload p =>
      rw [run, (handlePayload_does p h).arp] at hr'
      dsimp only at hr'
      unfold heard at hr'
      split at hr'
      · exact .inl ⟨r', hr', hactive, rfl⟩
      · next m hm =>
          rcases learn_cases m.sender_protocol_addr m.sender_hardware_addr
            h.arp.routingTable with ⟨heq, -⟩ | ⟨i, r, -, hip, heq⟩
          · rw [heq] at hr'
            exact .inl ⟨r', hr', hactive, rfl⟩
          · rw [heq] at hr'
            rcases List.mem_or_eq_of_mem_set hr' with hr' | rfl
            · exact .inl ⟨r', hr', hactive, rfl⟩
            · exact absurd (EtherRoute.resolved_answer _ r) hactive.1
  | handleTimer =>
      rw [run, (handleTimer_does hlen).2.1] at hr'
      obtain ⟨r, hr, rfl⟩ := List.mem_map.mp hr'
      rcases r.tick_cases h.millis with heq | ⟨hbefore, ⟨-, heq⟩ | ⟨-, heq⟩⟩
      · rw [heq] at hactive ⊢
        exact .inl ⟨r, hr, hactive, rfl⟩
      · rw [heq] at hactive
        exact absurd hactive (by decide)
      · rw [heq]
        exact .inl ⟨r, hr, hbefore, rfl⟩
  | elsewhere h' =>
      rw [run, he.arp] at hr'
      exact .inl ⟨r', hr', hactive, rfl⟩

/-- What is learned is what is looked up. -/
theorem getMACAddress_learn {remoteIP : IPAddr} {mac : MACAddr} {t : List EtherRoute}
    (h : ∃ r ∈ t, r.ipAddress = remoteIP) (arp : ARPHandler) :
    getMACAddress remoteIP { arp with routingTable := learn remoteIP mac t } = some mac := by
  unfold getMACAddress
  dsimp only
  induction t with
  | nil => exact absurd h (by simp)
  | cons r t ih =>
      rw [learn]
      by_cases hip : remoteIP = r.ipAddress
      · rw [if_pos hip, List.find?_cons_of_pos (by simpa using hip.symm)]
        exact if_pos (EtherRoute.resolved_answer mac r)
      · rw [if_neg hip, List.find?_cons_of_neg (by simpa using fun h => hip h.symm)]
        obtain ⟨r', hr', hip'⟩ := h
        refine ih ?_
        rcases List.mem_cons.mp hr' with rfl | hr'
        · exact absurd hip'.symm hip
        · exact ⟨r', hr', hip'⟩

/-- The handler leaves the size of the send buffer alone. -/
theorem sendSize_run {h : Stack} {e : Event} (hlen : h.arp.routingTable.length < 256)
    (helsewhere : ∀ h', e = .elsewhere h' → h'.sendSize = h.sendSize) :
    (run e h).sendSize = h.sendSize := by
  by_cases hevent : ∃ h', e = .elsewhere h'
  · obtain ⟨h', rfl⟩ := hevent
    exact helsewhere h' rfl
  · rw [(speaks_run (fun h' heq => hevent ⟨h', heq⟩) hlen).rest]

end ARPHandler

namespace Segment

open ARPHandler

variable {ι : Type} {mac : ι → MACAddr} {ip : ι → IPAddr} {net : ι → Stack}

/-- What can happen, as long as nothing changes the size of a send buffer. -/
def Steady (net : ι → Stack) (e : ι × ARPHandler.Event) : Prop :=
  Happens net e ∧ ∀ h', e.2 = .elsewhere h' → h'.sendSize = (net e.1).sendSize

/-- Every send buffer has room for an ARP frame, and every active entry has its request on the
wire. -/
structure Asked (net : ι → Stack) : Prop where
  room : ∀ i, 42 ≤ (net i).sendSize.toNat
  asked : ∀ i, ∀ r ∈ (net i).arp.routingTable, r.Active →
    .frame ((requestOf (net i) r.ipAddress).frame broadcastMAC) ∈ (net i).log

/-- Every event keeps the requests of the active entries on the wire. -/
theorem Asked.run [DecidableEq ι] (hn : Agrees mac ip net) (ha : Asked net)
    {e : ι × ARPHandler.Event} (he : Steady net e) : Asked (run e net) := by
  obtain ⟨i, e⟩ := e
  obtain ⟨⟨harrives, -⟩, helsewhere⟩ := he
  dsimp only at harrives helsewhere
  obtain ⟨hmac, hip, l, hl, -⟩ := run_speaks harrives (hn.size i)
  constructor
  · refine forall_run (P := fun _ h => 42 ≤ h.sendSize.toNat) ha.room ?_
    rw [sendSize_run (hn.size i) helsewhere]
    exact ha.room i
  · refine forall_run (P := fun _ h => ∀ r ∈ h.arp.routingTable, r.Active →
      .frame ((requestOf h r.ipAddress).frame broadcastMAC) ∈ h.log) ha.asked ?_
    intro r' hr' hactive
    have hrequest : ∀ remoteIP, requestOf (ARPHandler.run e (net i)) remoteIP =
        requestOf (net i) remoteIP := fun remoteIP => by
      unfold requestOf
      rw [hmac, hip]
    rw [hrequest]
    rcases active_run harrives (ha.room i) (hn.size i) hr' hactive with
      ⟨r, hr, hbefore, hsame⟩ | hframe
    · rw [hl, hsame]
      exact List.mem_append_left _ (ha.asked i r hr hbefore)
    · exact hframe

/-- An ARP frame on the wire can be delivered anywhere, as the message that it carries. -/
theorem happens_frame {i j : ι} {m : ARPMessage} {destinationMAC : MACAddr}
    (h : .frame (m.frame destinationMAC) ∈ (net i).log) :
    Steady net (j, .handlePayload (viewOf m.bytes)) := by
  refine ⟨⟨trivial, ?_⟩, by simp⟩
  rintro p ⟨⟩
  exact ⟨i, m.frame destinationMAC, [], h, rfl, show 42 + 0 < 65536 by decide,
    congrArg viewOf (List.append_nil m.bytes).symm⟩

/-- The message of a frame. -/
theorem read_viewOf_bytes (m : ARPMessage) : ARPMessage.read (viewOf m.bytes) = some m := by
  have hread := ARPMessage.read_bytes m [] (by decide)
  rwa [List.append_nil] at hread

/-- A host that is asked for its address answers. -/
theorem handlePayload_request {h : Stack} {m : ARPMessage} (hop : m.operation = ARP_REQUEST)
    (hip : m.target_protocol_addr = h.arp.ipAddress) :
    handlePayload (viewOf m.bytes) h =
      (sendARPResponse m.sender_hardware_addr m.sender_protocol_addr).exec h := by
  unfold handlePayload
  rw [read_viewOf_bytes]
  dsimp only
  rw [if_pos hop, if_neg (not_not.mpr hip)]

/-- A host that is answered learns the address. -/
theorem handlePayload_response {h : Stack} {m : ARPMessage} (hop : m.operation = ARP_RESPONSE)
    (hmac : m.target_hardware_addr = h.macAddr) (hip : m.target_protocol_addr = h.arp.ipAddress) :
    (handlePayload (viewOf m.bytes) h).arp =
      { h.arp with
        routingTable := learn m.sender_protocol_addr m.sender_hardware_addr
          h.arp.routingTable } := by
  have hrequest : m.operation ≠ ARP_REQUEST := by
    rw [hop]
    decide
  unfold handlePayload
  rw [read_viewOf_bytes]
  dsimp only
  rw [if_neg hrequest, if_pos hop, if_neg (not_not.mpr hmac), if_neg (not_not.mpr hip)]

/-- The request of host `i` for the address of host `j`. -/
def requestTo (mac : ι → MACAddr) (ip : ι → IPAddr) (i j : ι) : ARPMessage :=
  ⟨ARP_REQUEST, mac i, ip i, ⟨0, 0, 0, 0, 0, 0⟩, ip j⟩

/-- The answer of host `j` to host `i`. -/
def answerTo (mac : ι → MACAddr) (ip : ι → IPAddr) (i j : ι) : ARPMessage :=
  ⟨ARP_RESPONSE, mac j, ip j, mac i, ip i⟩

/-- The handler of a new host has room and no active entry. -/
theorem asked_new (ip : ι → IPAddr) (size : ι → UInt8) {h₀ : ι → Stack}
    (hroom : ∀ i, 42 ≤ (h₀ i).sendSize.toNat) : Asked fun i => new (ip i) (size i) (h₀ i) := by
  constructor
  · intro i
    have hsize : (new (ip i) (size i) (h₀ i)).sendSize = (h₀ i).sendSize := by
      unfold new EtherControl.registerProtocol
      split <;> rfl
    rw [hsize]
    exact hroom i
  · intro i r hr hactive
    have hr : r ∈ List.replicate (size i).toNat EtherRoute.zero := hr
    rw [List.eq_of_mem_replicate hr] at hactive
    exact absurd hactive (by decide)

section Exchange

variable [DecidableEq ι] (hn : Agrees mac ip net) {i j : ι}

include hn

/-- A host that gets the request of another answers it. -/
theorem Agrees.answers :
    Segment.run (j, .handlePayload (viewOf (requestTo mac ip i j).bytes)) net j =
      (sendARPResponse (mac i) (ip i)).exec (net j) := by
  rw [Segment.run, Function.update_self]
  exact handlePayload_request rfl (hn.ipAddress j).symm

/-- The answer is on the wire then. -/
theorem Agrees.answered (ha : Asked net) :
    .frame ((answerTo mac ip i j).frame (mac i)) ∈
      (Segment.run (j, .handlePayload (viewOf (requestTo mac ip i j).bytes)) net j).log := by
  have hframe := sendARPResponse_frame (mac i) (ip i) (ha.room j)
  have hanswer : responseOf (net j) (mac i) (ip i) = answerTo mac ip i j := by
    rw [responseOf, hn.macAddr j, hn.ipAddress j, answerTo]
  rwa [hanswer, ← hn.answers] at hframe

/-- The request changes no table. -/
theorem Agrees.table_answers (k : ι) :
    (Segment.run (j, .handlePayload (viewOf (requestTo mac ip i j).bytes)) net k).arp.routingTable =
      (net k).arp.routingTable := by
  by_cases hk : k = j
  · subst hk
    rw [hn.answers, (sendARPResponse_sends _ _ (net k)).rest]
  · rw [Segment.run, Function.update_of_ne hk]

/-- The host that gets the answer has the address of the other. -/
theorem Agrees.learns (hentry : ∃ r ∈ (net i).arp.routingTable, r.ipAddress = ip j) :
    (Segment.run (i, .handlePayload (viewOf (answerTo mac ip i j).bytes)) net i).arp.getMACAddress
      (ip j) = some (mac j) := by
  have hlearned := handlePayload_response (h := net i) (m := answerTo mac ip i j) rfl
    (hn.macAddr i).symm (hn.ipAddress i).symm
  rw [Segment.run, Function.update_self, ARPHandler.run, hlearned]
  exact getMACAddress_learn hentry _

end Exchange

/-- From every state of every run, a lookup that is in progress is completed by two deliveries:
its request, which is on the wire, to the host that has the address, and the answer, which is on
the wire then, back. -/
theorem reaches_resolved [DecidableEq ι] (ip : ι → IPAddr) (size : ι → UInt8) {h₀ : ι → Stack}
    (hlog : ∀ i, (h₀ i).log = []) (hroom : ∀ i, 42 ≤ (h₀ i).sendSize.toNat)
    (hdistinct : Function.Injective ip) {net : ι → Stack}
    (hrun : Reaches Steady run (fun i => new (ip i) (size i) (h₀ i)) net) {i j : ι}
    {r : EtherRoute} (hr : r ∈ (net i).arp.routingTable) (hactive : r.Active)
    (hip : r.ipAddress = ip j) :
    let mac := fun i => (h₀ i).macAddr
    let request := (j, ARPHandler.Event.handlePayload (viewOf (requestTo mac ip i j).bytes))
    let answer := (i, ARPHandler.Event.handlePayload (viewOf (answerTo mac ip i j).bytes))
    .frame ((requestTo mac ip i j).frame broadcastMAC) ∈ (net i).log ∧
      Steady net request ∧
      .frame ((answerTo mac ip i j).frame (mac i)) ∈ (run request net j).log ∧
      Steady (run request net) answer ∧
      Reaches Steady run net (run answer (run request net)) ∧
      (run answer (run request net) i).arp.getMACAddress (ip j) = some (mac j) := by
  intro mac request answer
  obtain ⟨hn, ha⟩ : Agrees mac ip net ∧ Asked net :=
    hrun.invariant (P := fun net => Agrees mac ip net ∧ Asked net)
      ⟨agrees_new ip size hlog, asked_new ip size hroom⟩
      fun _ _ h he => ⟨h.1.run hdistinct he.1, h.2.run h.1 he⟩
  have hasked : .frame ((requestTo mac ip i j).frame broadcastMAC) ∈ (net i).log := by
    have hframe := ha.asked i r hr hactive
    rwa [requestOf, hn.macAddr i, hn.ipAddress i, hip] at hframe
  have hrequest : Steady net request := happens_frame hasked
  have hanswered := hn.answered ha (i := i) (j := j)
  have hanswer : Steady (run request net) answer := happens_frame hanswered
  refine ⟨hasked, hrequest, hanswered, hanswer, (Reaches.refl.step hrequest).step hanswer, ?_⟩
  refine (hn.run hdistinct hrequest.1).learns ⟨r, ?_, hip⟩
  rw [hn.table_answers]
  exact hr

/-- 10.0.0.1 has asked for the address of 10.0.0.2. -/
theorem reaches_resolved_asked :
    .frame (exampleRequest.frame broadcastMAC) ∈ (exampleAsked false).log ∧
      Steady exampleAsked (true, .handlePayload (viewOf exampleRequest.bytes)) ∧
      (run (false, .handlePayload (viewOf exampleAnswer.bytes))
        (run (true, .handlePayload (viewOf exampleRequest.bytes)) exampleAsked)
          false).arp.getMACAddress ⟨10, 0, 0, 2⟩ = some (bareHost 2).macAddr := by
  have hasked : Steady exampleSegment (false, .requestMACAddress ⟨10, 0, 0, 2⟩) :=
    ⟨⟨trivial, by simp⟩, by simp⟩
  have hactive : ∃ r ∈ (exampleAsked false).arp.routingTable,
      r.Active ∧ r.ipAddress = ⟨10, 0, 0, 2⟩ := by decide +kernel
  obtain ⟨r, hr, hactive, hip⟩ := hactive
  have hrun : Reaches Steady run exampleSegment exampleAsked := Reaches.refl.step hasked
  have hroom : ∀ i : Bool, 42 ≤ (bareHost (if i then 2 else 1)).sendSize.toNat := fun i => by
    cases i <;> decide
  have hdistinct : Function.Injective fun i : Bool =>
      (⟨10, 0, 0, if i then 2 else 1⟩ : IPAddr) := fun i j => by
    cases i <;> cases j <;> simp
  obtain ⟨hwire, hrequest, -, -, -, hlearned⟩ := reaches_resolved _ (fun _ => 2) (fun _ => rfl)
    hroom hdistinct hrun (j := true) hr hactive hip
  exact ⟨hwire, hrequest, hlearned⟩

end Segment

end AtmegaNet
