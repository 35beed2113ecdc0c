import AtmegaNet.TCPHandler
import AtmegaNet.UDPHandler

/-!
# Lengths of frames

What `sendFrame`, `sendPacket` and `sendDatagram` make of a payload length. Each adds the length
of its own header in 16 bits before it compares, so that a length near 65536 may pass for a short
one: such a payload is cut to what is left of its length.

## Main results

* `sends_sendFrame`, `sends_sendPacket`, `sends_sendDatagram`: when a function sends a frame, and
  how long the frame is; `sends_sendFrameOf` and its siblings are the same for the functions that
  write the payload as well.
* `sends_exact_iff`: when nothing is cut.
-/

open Procedure

namespace AtmegaNet

/-! ### The functions that write the payload -/

/-- `EtherControl::sendFrame` with a payload. -/
def EtherControl.sendFrameOf (destinationMAC : MACAddr) (protocol : UInt16) (payload : Bytes) :
    Proc Stack Unit := do
  let sendBuffer ← Proc.read Stack.sendBuffer
  Stack.onMem (sendBuffer.write 14 payload)
  sendFrame destinationMAC protocol (Buffer.lengthOf payload)

/-- `IPHandler::sendPacket` with a payload. Whether the payload could be written is not looked
at. -/
def IPHandler.sendPacketOf (destinationIP : IPAddr) (protocol : UInt8) (payload : Bytes) :
    Proc Stack Unit := do
  let p ← Proc.read Stack.etherPayload
  if p.size < 20 + Buffer.lengthOf payload then Proc.fail
  else do
    Proc.attempt (Stack.onMem (p.write 20 payload))
    sendPacket destinationIP protocol (Buffer.lengthOf payload)

/-- `UDPHandler::sendDatagram` with a payload. -/
def UDPHandler.sendDatagramOf (destinationIP : IPAddr) (destinationPort sourcePort : UInt16)
    (payload : Bytes) : Proc Stack Unit := do
  let datagram ← Proc.read Stack.ipPayload
  if datagram.size < DATAGRAM_HEADER_LENGTH + Buffer.lengthOf payload then Proc.fail
  else do
    Stack.onMem (datagram.write DATAGRAM_HEADER_LENGTH payload)
    sendDatagram destinationIP destinationPort sourcePort (Buffer.lengthOf payload)

/-! ### Sending a frame or none -/

/-- The frames among the observations: the calls of `driver->sendFrame`. -/
def framesOf (log : List Obs) : List Bytes :=
  log.filterMap fun o => match o with
    | .frame data => some data
    | _ => none

theorem framesOf_append (l l' : List Obs) : framesOf (l ++ l') = framesOf l ++ framesOf l' :=
  List.filterMap_append

/-- Whatever the buffers hold, the procedure returns true just if `c`, and then has left
observations with the property `P`; else it has left none. -/
structure Sends (x : Proc Stack Unit) (h : Stack) (c : Prop) (P : List Obs → Prop) : Prop where
  sent : c → ∀ mem, ∃ h' l, x.run { h with mem := mem } = (some (), h') ∧
    h'.log = h.log ++ l ∧ P l
  refused : ¬ c → ∀ mem, ∃ h', x.run { h with mem := mem } = (none, h') ∧ h'.log = h.log

section Sends

variable {h : Stack} {c d : Prop} {P Q : List Obs → Prop} {x : Proc Stack Unit}
  {f : Unit → Proc Stack Unit}

theorem Sends.congr (hx : Sends x h c P) (hc : c ↔ d) (hP : d → ∀ l, P l → Q l) :
    Sends x h d Q where
  sent hd mem := by
    obtain ⟨h', l, hrun, hlog, hl⟩ := hx.sent (hc.mpr hd) mem
    exact ⟨h', l, hrun, hlog, hP hd l hl⟩
  refused hd := hx.refused fun h => hd (hc.mp h)

/-- A value that is read first. -/
theorem Sends.read {β : Type} {g : Stack → β} {f : β → Proc Stack Unit}
    (hf : ∀ mem, Sends (f (g { h with mem := mem })) h c P) : Sends (Proc.read g >>= f) h c P :=
  ⟨fun hc mem => (hf mem).sent hc mem, fun hc mem => (hf mem).refused hc mem⟩

/-- A value that is read first and does not depend on the buffers. -/
theorem Sends.readOf {β : Type} {g : Stack → β} {f : β → Proc Stack Unit} {a : β}
    (hg : ∀ mem, g { h with mem := mem } = a) (hf : Sends (f a) h c P) :
    Sends (Proc.read g >>= f) h c P :=
  Sends.read fun mem => by
    rw [hg]
    exact hf

/-- A value that must be there. -/
theorem Sends.query {β : Type} {g : Stack → Option β} {f : β → Proc Stack Unit} {a : Option β}
    (hg : ∀ mem, g { h with mem := mem } = a) (hf : ∀ b, a = some b → Sends (f b) h c P) :
    Sends (Proc.query g >>= f) h (a.isSome ∧ c) P := by
  cases a with
  | none =>
      refine ⟨fun h => absurd h.1 (by simp), fun _ mem => ⟨{ h with mem := mem }, ?_, rfl⟩⟩
      exact Proc.run_bind_of_none (by rw [Proc.run_query, hg])
  | some b =>
      have hrun : ∀ mem, (Proc.query g >>= f).run { h with mem := mem } =
          (f b).run { h with mem := mem } := fun mem =>
        Proc.run_bind_of_some (by rw [Proc.run_query, hg])
      refine ⟨fun hc mem => ?_, fun hc mem => ?_⟩
      · rw [hrun]
        exact (hf b rfl).sent hc.2 mem
      · rw [hrun]
        exact (hf b rfl).refused (fun h => hc ⟨rfl, h⟩) mem

/-- A test that must fail. -/
theorem Sends.unless [Decidable d] (hx : Sends x h c P) :
    Sends (if d then Proc.fail else x) h (¬ d ∧ c) P := by
  by_cases hd : d
  · rw [if_pos hd]
    exact ⟨fun h => absurd hd h.1, fun _ mem => ⟨_, rfl, rfl⟩⟩
  · rw [if_neg hd]
    exact ⟨fun h => hx.sent h.2, fun hnot => hx.refused fun h => hnot ⟨hd, h⟩⟩

/-- A write to the buffers that must succeed. -/
theorem Sends.write {m : Proc Memory Unit} (hm : ∀ mem, (m.run mem).1.isSome ↔ d)
    (hf : Sends (f ()) h c P) : Sends (Stack.onMem m >>= f) h (d ∧ c) P := by
  have hrun : ∀ mem, (Stack.onMem m).run { h with mem := mem } =
      ((m.run mem).1, { h with mem := (m.run mem).2 }) := fun _ => rfl
  refine ⟨fun hc mem => ?_, fun hc mem => ?_⟩
  · obtain ⟨u, hverdict⟩ := Option.isSome_iff_exists.mp ((hm mem).mpr hc.1)
    have hfirst := hrun mem
    rw [hverdict] at hfirst
    rw [Proc.run_bind_of_some hfirst]
    exact hf.sent hc.2 _
  · have hfirst := hrun mem
    cases hverdict : (m.run mem).1 with
    | none =>
        rw [hverdict] at hfirst
        exact ⟨_, Proc.run_bind_of_none hfirst, rfl⟩
    | some u =>
        have hd : d := (hm mem).mp (by rw [hverdict]; rfl)
        rw [hverdict] at hfirst
        rw [Proc.run_bind_of_some hfirst]
        exact hf.refused (fun h => hc ⟨hd, h⟩) _

/-- A write to the buffers whose result is not looked at. -/
theorem Sends.attempt {m : Proc Memory Unit} (hf : Sends (f ()) h c P) :
    Sends (Proc.attempt (Stack.onMem m) >>= f) h c P :=
  ⟨fun hc mem => hf.sent hc (m.run mem).2, fun hc mem => hf.refused hc (m.run mem).2⟩

/-- An observation at the end. -/
theorem Sends.emit (o : Obs) : Sends (Stack.emit o) h True fun l => l = [o] :=
  ⟨fun _ _ => ⟨_, [o], rfl, rfl, rfl⟩, fun hnot => absurd trivial hnot⟩

/-- One more observation at the end. -/
theorem Sends.bind_emit (hx : Sends x h c P) (o : Obs) :
    Sends (x >>= fun _ => Stack.emit o) h c fun l => ∃ l', l = l' ++ [o] ∧ P l' := by
  refine ⟨fun hc mem => ?_, fun hc mem => ?_⟩
  · obtain ⟨h', l, hrun, hlog, hl⟩ := hx.sent hc mem
    refine ⟨{ h' with log := h'.log ++ [o] }, l ++ [o], Proc.run_bind_of_some hrun, ?_, l, rfl, hl⟩
    rw [← List.append_assoc, ← hlog]
  · obtain ⟨h', hrun, hlog⟩ := hx.refused hc mem
    exact ⟨h', Proc.run_bind_of_none hrun, hlog⟩

end Sends

/-! ### The three layers -/

variable (h : Stack) (destinationMAC : MACAddr) (destinationIP : IPAddr) (etherType : UInt16)
  (protocol : UInt8) (destinationPort sourcePort : UInt16)

/-- The verdict on a write of a few bytes. -/
theorem write_verdict {b : Buffer} (hb : b.Fits) {start : UInt16} {data : Bytes}
    (hshort : start.toNat + data.length < 65536) (m : Memory) :
    ((b.write start data).run m).1.isSome ↔ start.toNat + data.length ≤ b.size.toNat := by
  have hlen : (Buffer.lengthOf data).toNat = data.length := Buffer.toNat_lengthOf (by omega)
  rw [Buffer.write_isSome hb, Buffer.bounds_iff (by omega), hlen, Nat.not_lt]

theorem sends_sendFrame (payloadLength : UInt16) :
    Sends (EtherControl.sendFrame destinationMAC etherType payloadLength) h
      (14 + payloadLength.toNat ≤ h.sendSize.toNat)
      fun l => ∃ frame, l = [.frame frame] ∧ frame.length = 14 + payloadLength.toNat := by
  have h16 := h.sendSize.toNat_lt
  have hlen := payloadLength.toNat_lt
  have hsum : (14 + payloadLength).toNat = (14 + payloadLength.toNat) % 65536 :=
    UInt16.toNat_add 14 payloadLength
  have hsize : h.sendBuffer.size = h.sendSize := rfl
  have hfits : 14 ≤ h.sendSize.toNat → (¬ payloadLength > h.sendBuffer.size - 14 ↔
      14 + payloadLength.toNat ≤ h.sendSize.toNat) := by
    intro hle
    have hsub : (h.sendSize - 14).toNat = h.sendSize.toNat - 14 :=
      UInt16.toNat_sub_of_le _ _ (UInt16.le_iff_toNat_le.mpr hle)
    rw [hsize, gt_iff_lt, UInt16.lt_iff_toNat_lt, hsub]
    omega
  have hwrite : ∀ (start : UInt16) (k : ℕ) (data : Bytes) (mem : Memory), data.length = k →
      start.toNat + k ≤ 14 →
        (((h.sendBuffer.write start data).run mem).1.isSome ↔
          start.toNat + k ≤ h.sendSize.toNat) := by
    rintro start k data mem rfl hle
    exact write_verdict h.fits_sendBuffer (by omega) mem
  unfold EtherControl.sendFrame
  -- a buffer that is too small for a header may pass the test, but not the writes
  refine Sends.congr (Sends.readOf (fun _ => rfl) (Sends.read fun macAddr => Sends.unless
    (Sends.write (fun mem => hwrite 0 6 _ mem rfl (by decide))
    (Sends.write (fun mem => hwrite 6 6 _ mem rfl (by decide))
    (Sends.write (fun mem => hwrite 12 2 _ mem rfl (by decide))
    (Sends.read (P := fun l => ∃ frame, l = [.frame frame] ∧
        frame.length = (14 + payloadLength).toNat) fun mem =>
      (Sends.emit _).congr Iff.rfl fun _ l hl => ⟨_, hl, Region.length_read _ _ _ _⟩)))))) ?_ ?_
  · constructor
    · rintro ⟨hpass, -, -, hheader, -⟩
      exact (hfits hheader).mp hpass
    · intro hle
      have h14 : 14 ≤ h.sendSize.toNat := by omega
      exact ⟨(hfits h14).mpr hle, by simp; omega, by simp; omega, by simp; omega, trivial⟩
  · rintro hle l ⟨frame, rfl, hframe⟩
    refine ⟨frame, rfl, ?_⟩
    rw [hframe, hsum]
    exact Nat.mod_eq_of_lt (by omega)

theorem sends_sendPacket (len : UInt16) :
    Sends (IPHandler.sendPacket destinationIP protocol len) h
      ((IPHandler.getMACForIP destinationIP h).isSome ∧
        14 + (20 + len.toNat) % 65536 ≤ h.sendSize.toNat)
      fun l => ∃ frame payload, l = [.frame frame, .packet destinationIP protocol payload] ∧
        frame.length = 14 + (20 + len.toNat) % 65536 ∧ payload.length = len.toNat := by
  have hsum : (20 + len).toNat = (20 + len.toNat) % 65536 := UInt16.toNat_add 20 len
  have hroom : ¬ h.etherPayload.size < 20 + len ↔
      (20 + len.toNat) % 65536 ≤ h.sendSize.toNat - 14 := by
    rw [UInt16.lt_iff_toNat_lt, hsum, h.toNat_size_etherPayload, Nat.not_lt]
  have hp : ∀ mem, { h with mem := mem }.etherPayload = h.etherPayload := fun _ => rfl
  have hroute : ∀ mem, IPHandler.getMACForIP destinationIP { h with mem := mem } =
      IPHandler.getMACForIP destinationIP h := fun _ => rfl
  unfold IPHandler.sendPacket
  refine Sends.congr (Sends.readOf hp (Sends.unless
    (Sends.query hroute fun macAddr _ => Sends.read fun ipAddress =>
    Sends.attempt (Sends.attempt (Sends.attempt (Sends.attempt (Sends.attempt (Sends.attempt
    (Sends.attempt (Sends.attempt (Sends.attempt (Sends.read fun _ => Sends.attempt
    (Sends.read (P := fun l => ∃ frame payload,
        l = [.frame frame, .packet destinationIP protocol payload] ∧
        frame.length = 14 + (len + 20).toNat ∧ payload.length = len.toNat) fun mem =>
      ((sends_sendFrame h macAddr 0x0800 (len + 20)).bind_emit _).congr Iff.rfl
        ?_))))))))))))) ?_ ?_
  · rintro hfit l ⟨l', rfl, frame, rfl, hframe⟩
    exact ⟨frame, _, rfl, hframe, Region.length_read _ _ _ _⟩
  · rw [hroom, UInt16.add_comm len 20, hsum]
    constructor
    · rintro ⟨-, hmac, hfit⟩
      exact ⟨hmac, hfit⟩
    · rintro ⟨hmac, hfit⟩
      exact ⟨by omega, hmac, hfit⟩
  · rintro - l ⟨frame, payload, rfl, hframe, hpayload⟩
    refine ⟨frame, payload, rfl, ?_, hpayload⟩
    rw [hframe, UInt16.add_comm len 20, hsum]

theorem sends_sendDatagram (len : UInt16) :
    Sends (UDPHandler.sendDatagram destinationIP destinationPort sourcePort len) h
      ((IPHandler.getMACForIP destinationIP h).isSome ∧ 42 ≤ h.sendSize.toNat ∧
        34 + (8 + len.toNat) % 65536 ≤ h.sendSize.toNat)
      fun l => ∃ frame payload,
        l = [.frame frame, .packet destinationIP UDPHandler.UDP_PROTOCOL payload] ∧
        frame.length = 34 + (8 + len.toNat) % 65536 ∧
        payload.length = (8 + len.toNat) % 65536 := by
  have h16 := h.sendSize.toNat_lt
  have hsum : (8 + len).toNat = (8 + len.toNat) % 65536 := UInt16.toNat_add 8 len
  have hsize : h.ipPayload.size.toNat = h.sendSize.toNat - 34 := h.toNat_size_ipPayload
  have hroom : ¬ h.ipPayload.size < 8 + len ↔
      (8 + len.toNat) % 65536 ≤ h.sendSize.toNat - 34 := by
    rw [UInt16.lt_iff_toNat_lt, hsum, hsize, Nat.not_lt]
  have hwrite : ∀ (start x : UInt16) (mem : Memory), start.toNat ≤ 6 →
      (((h.ipPayload.writeNet16 start x).run mem).1.isSome ↔
        start.toNat + 2 ≤ h.sendSize.toNat - 34) := by
    intro start x mem hstart
    rw [← hsize]
    exact write_verdict h.fits_ipPayload (by simp; omega) mem
  have hdatagram : ∀ mem, { h with mem := mem }.ipPayload = h.ipPayload := fun _ => rfl
  unfold UDPHandler.sendDatagram UDPHandler.DATAGRAM_HEADER_LENGTH
  refine Sends.congr (Sends.readOf hdatagram (Sends.unless
    (Sends.write (fun mem => hwrite 0 _ mem (by decide))
    (Sends.write (fun mem => hwrite 2 _ mem (by decide))
    (Sends.write (fun mem => hwrite 4 _ mem (by decide)) (Sends.read fun checksum =>
    Sends.write (fun mem => hwrite 6 _ mem (by decide))
    (sends_sendPacket h destinationIP _ (len + 8)))))))) ?_ ?_
  · rw [hroom, UInt16.add_comm len 8, hsum]
    constructor
    · rintro ⟨hwrap, -, -, -, h42, hmac, hfit⟩
      exact ⟨hmac, by simp at h42; omega, by omega⟩
    · rintro ⟨hmac, h42, hfit⟩
      exact ⟨by omega, by simp; omega, by simp; omega, by simp; omega, by simp; omega, hmac,
        by omega⟩
  · rintro ⟨-, -, hfit⟩ l ⟨frame, payload, rfl, hframe, hpayload⟩
    rw [UInt16.add_comm len 8, hsum] at hframe hpayload
    exact ⟨frame, payload, rfl, by omega, hpayload⟩

/-! ### With the payload -/

/-- The length argument of `sendFrame` is that of the payload, in 16 bits. -/
theorem sends_sendFrameOf (payload : Bytes) :
    Sends (EtherControl.sendFrameOf destinationMAC etherType payload) h
      (14 + (Buffer.lengthOf payload).toNat ≤ h.sendSize.toNat)
      fun l => ∃ frame, l = [.frame frame] ∧
        frame.length = 14 + (Buffer.lengthOf payload).toNat := by
  unfold EtherControl.sendFrameOf
  refine Sends.congr (Sends.readOf (fun _ => rfl) (Sends.write
    (fun mem => Buffer.write_isSome h.fits_sendBuffer 14 payload mem)
    (sends_sendFrame h destinationMAC etherType (Buffer.lengthOf payload)))) ?_ fun _ _ hl => hl
  have hsize : h.sendBuffer.size = h.sendSize := rfl
  have h16 := h.sendSize.toNat_lt
  have hwrites : 14 + (Buffer.lengthOf payload).toNat ≤ h.sendSize.toNat →
      ¬ 14 + Buffer.lengthOf payload > h.sendBuffer.size := by
    intro hle
    rw [hsize, Buffer.bounds_iff (by simp; omega)]
    simp
    omega
  exact ⟨fun hall => hall.2, fun hle => ⟨hwrites hle, hle⟩⟩

theorem sends_sendPacketOf (payload : Bytes) :
    Sends (IPHandler.sendPacketOf destinationIP protocol payload) h
      ((IPHandler.getMACForIP destinationIP h).isSome ∧
        14 + (20 + (Buffer.lengthOf payload).toNat) % 65536 ≤ h.sendSize.toNat)
      fun l => ∃ frame sent, l = [.frame frame, .packet destinationIP protocol sent] ∧
        frame.length = 14 + (20 + (Buffer.lengthOf payload).toNat) % 65536 ∧
        sent.length = (Buffer.lengthOf payload).toNat := by
  have hp : ∀ mem, { h with mem := mem }.etherPayload = h.etherPayload := fun _ => rfl
  unfold IPHandler.sendPacketOf
  refine Sends.congr (Sends.readOf hp (Sends.unless (Sends.attempt
    (sends_sendPacket h destinationIP protocol (Buffer.lengthOf payload))))) ?_ fun _ _ hl => hl
  have hroom : ¬ h.etherPayload.size < 20 + Buffer.lengthOf payload ↔
      (20 + (Buffer.lengthOf payload).toNat) % 65536 ≤ h.sendSize.toNat - 14 := by
    rw [UInt16.lt_iff_toNat_lt, UInt16.toNat_add, h.toNat_size_etherPayload, Nat.not_lt]
    rfl
  rw [hroom]
  constructor
  · rintro ⟨-, hmac, hfit⟩
    exact ⟨hmac, hfit⟩
  · rintro ⟨hmac, hfit⟩
    exact ⟨by omega, hmac, hfit⟩

theorem sends_sendDatagramOf (payload : Bytes) :
    Sends (UDPHandler.sendDatagramOf destinationIP destinationPort sourcePort payload) h
      ((IPHandler.getMACForIP destinationIP h).isSome ∧ 42 ≤ h.sendSize.toNat ∧
        34 + (8 + (Buffer.lengthOf payload).toNat) % 65536 ≤ h.sendSize.toNat)
      fun l => ∃ frame sent,
        l = [.frame frame, .packet destinationIP UDPHandler.UDP_PROTOCOL sent] ∧
        frame.length = 34 + (8 + (Buffer.lengthOf payload).toNat) % 65536 ∧
        sent.length = (8 + (Buffer.lengthOf payload).toNat) % 65536 := by
  have hdatagram : ∀ mem, { h with mem := mem }.ipPayload = h.ipPayload := fun _ => rfl
  unfold UDPHandler.sendDatagramOf UDPHandler.DATAGRAM_HEADER_LENGTH
  refine Sends.congr (Sends.readOf hdatagram (Sends.unless (Sends.write
    (fun mem => Buffer.write_isSome h.fits_ipPayload 8 payload mem)
    (sends_sendDatagram h destinationIP destinationPort sourcePort
      (Buffer.lengthOf payload))))) ?_ fun _ _ hl => hl
  have hsize : h.ipPayload.size.toNat = h.sendSize.toNat - 34 := h.toNat_size_ipPayload
  have hroom : ¬ h.ipPayload.size < 8 + Buffer.lengthOf payload ↔
      (8 + (Buffer.lengthOf payload).toNat) % 65536 ≤ h.sendSize.toNat - 34 := by
    rw [UInt16.lt_iff_toNat_lt, UInt16.toNat_add, hsize, Nat.not_lt]
    rfl
  rw [gt_iff_lt, hroom]
  constructor
  · rintro ⟨-, -, hall⟩
    exact hall
  · rintro ⟨hmac, h42, hfit⟩
    exact ⟨by omega, by omega, hmac, h42, hfit⟩

/-! ### What is sent is what was asked for -/

/-- The procedure returns true only if its headers and a payload of the given length fit the
send buffer, and has then sent one frame of just that length; else it has sent none. -/
structure Exact (headers len : ℕ) (x : Proc Stack Unit) (h : Stack) : Prop where
  accepted : ∀ h', x.run h = (some (), h') → headers + len ≤ h.sendSize.toNat ∧
    ∃ frame, framesOf h'.log = framesOf h.log ++ [frame] ∧ frame.length = headers + len
  refused : ∀ h', x.run h = (none, h') → framesOf h'.log = framesOf h.log

/-- Just one frame, of `n` bytes. -/
def OneFrame (n : ℕ) (l : List Obs) : Prop := ∃ frame, framesOf l = [frame] ∧ frame.length = n

theorem Sends.exact_iff {x : Proc Stack Unit} {h : Stack} {c : Prop} {P : List Obs → Prop}
    {n headers len : ℕ} (hx : Sends x h c P) (hP : ∀ l, P l → OneFrame n l) :
    Exact headers len x h ↔ (c → headers + len ≤ h.sendSize.toNat ∧ n = headers + len) := by
  constructor
  · intro hexact hc
    obtain ⟨h', l, hrun, hlog, hl⟩ := hx.sent hc h.mem
    obtain ⟨frame, hframes, hlen⟩ := hP l hl
    obtain ⟨hfit, frame', hframes', hlen'⟩ := hexact.accepted h' hrun
    rw [hlog, framesOf_append, hframes] at hframes'
    have hsame : frame = frame' := by simpa using hframes'
    exact ⟨hfit, by rw [← hlen, hsame, hlen']⟩
  · intro himp
    by_cases hc : c
    · obtain ⟨h', l, hrun, hlog, hl⟩ := hx.sent hc h.mem
      obtain ⟨frame, hframes, hlen⟩ := hP l hl
      obtain ⟨hfit, hn⟩ := himp hc
      refine ⟨fun t ht => ⟨hfit, frame, ?_, hlen.trans hn⟩, fun t ht => ?_⟩
      · have hst : t = h' := congrArg Prod.snd (ht.symm.trans hrun)
        rw [hst, hlog, framesOf_append, hframes]
      · exact absurd (congrArg Prod.fst (ht.symm.trans hrun)) (by simp)
    · obtain ⟨h', hrun, hlog⟩ := hx.refused hc h.mem
      refine ⟨fun t ht => absurd (congrArg Prod.fst (ht.symm.trans hrun)) (by simp), ?_⟩
      intro t ht
      have hst : t = h' := congrArg Prod.snd (ht.symm.trans hrun)
      rw [hst, hlog]

/-- `sendFrame` is exact for every length, `sendPacket` and `sendDatagram` unless their own
header takes the length past 65535 and what is left of it fits and has a route. -/
theorem sends_exact_iff (len : UInt16) (payload : Bytes) :
    let route := (IPHandler.getMACForIP destinationIP h).isSome
    let cut (n : ℕ) := 65536 ≤ 20 + n ∧ 34 + n ≤ h.sendSize.toNat + 65536 ∧ route
    let cutDatagram (n : ℕ) := 65536 ≤ 8 + n ∧ 42 ≤ h.sendSize.toNat ∧ route
    let n := len.toNat
    let k := (Buffer.lengthOf payload).toNat
    (Exact 14 n (EtherControl.sendFrame destinationMAC etherType len) h ∧
      Exact 14 k (EtherControl.sendFrameOf destinationMAC etherType payload) h) ∧
    ((Exact 34 n (IPHandler.sendPacket destinationIP protocol len) h ↔ ¬ cut n) ∧
      (Exact 34 k (IPHandler.sendPacketOf destinationIP protocol payload) h ↔ ¬ cut k)) ∧
    ((Exact 42 n (UDPHandler.sendDatagram destinationIP destinationPort sourcePort len) h ↔
        ¬ cutDatagram n) ∧
      (Exact 42 k (UDPHandler.sendDatagramOf destinationIP destinationPort sourcePort payload) h ↔
        ¬ cutDatagram k)) := by
  intro route cut cutDatagram n k
  have h16 := h.sendSize.toNat_lt
  have hn : n < 65536 := len.toNat_lt
  have hk : k < 65536 := (Buffer.lengthOf payload).toNat_lt
  have hpacket : ∀ l < 65536, ((route = true ∧ 14 + (20 + l) % 65536 ≤ h.sendSize.toNat →
      34 + l ≤ h.sendSize.toNat ∧ 14 + (20 + l) % 65536 = 34 + l) ↔ ¬ cut l) := by
    intro l hl
    cases hroute : route with
    | false => simp [cut, hroute]
    | true => simp only [cut, hroute, true_and, and_true]; omega
  have hdatagram : ∀ l < 65536, ((route = true ∧ 42 ≤ h.sendSize.toNat ∧
      34 + (8 + l) % 65536 ≤ h.sendSize.toNat →
      42 + l ≤ h.sendSize.toNat ∧ 34 + (8 + l) % 65536 = 42 + l) ↔ ¬ cutDatagram l) := by
    intro l hl
    cases hroute : route with
    | false => simp [cutDatagram, hroute]
    | true => simp only [cutDatagram, hroute, true_and, and_true]; omega
  have hone : ∀ n l, (∃ frame, l = [Obs.frame frame] ∧ frame.length = n) → OneFrame n l := by
    rintro n l ⟨frame, rfl, hframe⟩
    exact ⟨frame, rfl, hframe⟩
  have htwo : ∀ n k proto l, (∃ frame sent, l = [.frame frame, .packet destinationIP proto sent] ∧
      frame.length = n ∧ sent.length = k) → OneFrame n l := by
    rintro n k proto l ⟨frame, sent, rfl, hframe, -⟩
    exact ⟨frame, rfl, hframe⟩
  refine ⟨⟨?_, ?_⟩, ⟨?_, ?_⟩, ?_, ?_⟩
  · exact ((sends_sendFrame h destinationMAC etherType len).exact_iff (hone _)).mpr
      fun hfit => ⟨hfit, rfl⟩
  · exact ((sends_sendFrameOf h destinationMAC etherType payload).exact_iff (hone _)).mpr
      fun hfit => ⟨hfit, rfl⟩
  · exact ((sends_sendPacket h destinationIP protocol len).exact_iff (htwo _ _ _)).trans
      (hpacket n hn)
  · exact ((sends_sendPacketOf h destinationIP protocol payload).exact_iff (htwo _ _ _)).trans
      (hpacket k hk)
  · exact ((sends_sendDatagram h destinationIP destinationPort sourcePort len).exact_iff
      (htwo _ _ _)).trans (hdatagram n hn)
  · exact ((sends_sendDatagramOf h destinationIP destinationPort sourcePort payload).exact_iff
      (htwo _ _ _)).trans (hdatagram k hk)

/-- A datagram with 65528 bytes of payload is not refused: it leaves as an empty one. -/
theorem sends_datagram_cut :
    let h := exampleStack 1 2
    let x := UDPHandler.sendDatagram ⟨10, 0, 0, 2⟩ 53 1024 65528
    (∃ h' frame, x.run h = (some (), h') ∧ framesOf h'.log = framesOf h.log ++ [frame] ∧
      frame.length = 34) ∧ ¬ Exact 42 65528 x h := by
  intro h x
  have hsends := sends_sendDatagram h ⟨10, 0, 0, 2⟩ 53 1024 65528
  have hsent : (IPHandler.getMACForIP ⟨10, 0, 0, 2⟩ h).isSome ∧ 42 ≤ h.sendSize.toNat ∧
      34 + (8 + UInt16.toNat 65528) % 65536 ≤ h.sendSize.toNat := by decide
  obtain ⟨h', l, hrun, hlog, frame, payload, hl, hframe, -⟩ := hsends.sent hsent h.mem
  constructor
  · refine ⟨h', frame, hrun, ?_, hframe⟩
    rw [hlog, hl, framesOf_append]
    rfl
  · intro hexact
    have hfits := (hexact.accepted h' hrun).1
    exact absurd hfits (by decide)

end AtmegaNet
