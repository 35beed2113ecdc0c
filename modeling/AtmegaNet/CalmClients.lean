import AtmegaNet.BusyClients
import AtmegaNet.Synchronized

/-!
# What the clients of the library do to a connection

`handleSegment_survives_iff` asks of the callbacks that they are calm. Those of `SMTPClient` are,
and those of `HTTPClient` while it is not sending. Their events only write texts, send, and close:
none of it sends a RST on a connection, whatever the buffers hold.

## Main results

* `Socket.noReset_sendSegment`: a segment without RST is no reset, however long it claims to be.
* `SMTPClient.calm`, `HTTPClient.calm`: the callbacks are calm.
-/

open Procedure

namespace AtmegaNet

open Socket

/-! ### Packets and their control bits -/

/-- The control bits of a packet that is read from the send buffer. -/
theorem segControl_read (m : Memory) (n : UInt16) :
    segControl (Region.read m .send 34 n.toNat) ∈ [0, m .send 47] := by
  have hlen : (Region.read m Root.send 34 n.toNat).length = n.toNat := Region.length_read _ _ _ _
  have h16 := n.toNat_lt
  by_cases hlong : 14 ≤ n.toNat
  · have hshort : (Region.read m Root.send 34 n.toNat).length < 65536 := by omega
    have hbyte := (shows_viewOf hshort).read8 (i := 13) (by rw [hlen]; exact hlong)
    have hget : (Region.read m Root.send 34 n.toNat).getD 13 0 = m .send 47 := by
      rw [List.getD_eq_getElem?_getD, List.getElem?_eq_getElem (by omega), Region.getElem_read]
      rfl
    unfold segControl
    rw [hbyte]
    exact List.mem_cons_of_mem _ (List.mem_singleton.mpr hget)
  · have hshort : (13 : UInt16) + 1 > Buffer.lengthOf (Region.read m Root.send 34 n.toNat) := by
      rw [Buffer.lengthOf, hlen, UInt16.ofNat_toNat, gt_iff_lt, UInt16.lt_iff_toNat_lt]
      exact Nat.lt_of_not_le hlong
    have hnone : (viewOf (Region.read m Root.send 34 n.toNat)).read8 13 = none := by
      unfold View.read8 viewOf
      dsimp only
      rw [if_pos hshort]
      rfl
    unfold segControl
    rw [hnone]
    exact List.mem_cons_self

namespace Stack

/-- A send buffer of this size with these control bits in place. -/
structure Marked (control : UInt8) (size : UInt16) (h : Stack) : Prop where
  sendSize : h.sendSize = size
  control : h.mem .send 47 = control

/-- Between two stacks, if the send buffer has had the control bits in place, it still has, and
every packet that has left carries them, if it is long enough to carry any. -/
def Marks (control : UInt8) (size : UInt16) (h h' : Stack) : Prop :=
  Marked control size h → Marked control size h' ∧
    ∃ l, h'.log = h.log ++ l ∧ ∀ p ∈ packetsOf l, segControl p.2.2 ∈ [0, control]

variable {control : UInt8} {size : UInt16}

instance : IsPreorder Stack (Marks control size) where
  refl h hm := ⟨hm, [], by simp, fun p hp => absurd hp List.not_mem_nil⟩
  trans := by
    intro h h' h'' hh hh' hm
    obtain ⟨hm', l, hl, hp⟩ := hh hm
    obtain ⟨hm'', l', hl', hp'⟩ := hh' hm'
    refine ⟨hm'', l ++ l', by rw [hl', hl, List.append_assoc], fun p hmem => ?_⟩
    rw [packetsOf_append, List.mem_append] at hmem
    exact hmem.elim (hp p) (hp' p)

/-- What stays in front of the control bits sends nothing but frames. -/
theorem Scratch.marks {a : ℕ} (ha : a ≤ 47) {h h' : Stack} (hs : Scratch a h h') :
    Marks control size h h' := by
  intro hm
  obtain ⟨l, hl, hframes⟩ := hs.log
  have hsize : h'.sendSize = h.sendSize := by rw [hs.rest]
  have hnone : packetsOf l = [] := List.filterMap_eq_nil_iff.mpr fun o ho => by
    obtain ⟨d, rfl⟩ := hframes o ho
    rfl
  refine ⟨⟨hsize.trans hm.sendSize, (hs.mem.send 47 ha).trans hm.control⟩, l, hl, fun p hp => ?_⟩
  rw [hnone] at hp
  exact absurd hp List.not_mem_nil

/-- A write behind the control bits, or one that fails. -/
theorem marks_write {h₀ : Stack} (hsize : 34 ≤ h₀.sendSize.toNat) {start : UInt16} {data : Bytes}
    (hstart : 14 ≤ start.toNat) (hin : start.toNat + data.length < 65536) :
    Proc.Within (Marks control size) (onMem (h₀.ipPayload.write start data)) := by
  intro h hm
  refine ⟨⟨hm.sendSize, ?_⟩, [], (List.append_nil _).symm, fun p hp => absurd hp List.not_mem_nil⟩
  rw [onMem, Proc.run_zoom]
  by_cases hfit : start.toNat + data.length ≤ h₀.ipPayload.size.toNat
  · rw [Buffer.write_fits h₀.fits_ipPayload _ hfit, h₀.root_ipPayload, h₀.base_ipPayload hsize]
    exact (Region.write_out _ Root.send _ (.inl (by omega))).trans hm.control
  · have hlen : (Buffer.lengthOf data).toNat = data.length := Buffer.toNat_lengthOf (by omega)
    rw [Buffer.write_of_fits h₀.fits_ipPayload _ (by omega), if_pos (by omega)]
    exact hm.control

/-- `sendPacket` sends the control bits that lie in the send buffer. -/
theorem marks_sendPacket (hsize : 34 ≤ size.toNat) (destinationIP : IPAddr) (protocol : UInt8)
    (len : UInt16) :
    Proc.Within (Marks control size) (IPHandler.sendPacket destinationIP protocol len) := by
  have hscratch : ∀ {x : Proc Stack Unit}, Proc.Within (Scratch 34) x →
      Proc.Within (Marks control size) x := fun hx h => (hx h).marks (by omega)
  intro h hm
  have hbase : h.etherPayload.base = 14 := h.base_etherPayload (by rw [hm.sendSize]; omega)
  have hwrite : ∀ (start : UInt16) (data : Bytes), start.toNat + data.length ≤ 20 →
      Proc.Within (Marks control size) (Proc.attempt (onMem (h.etherPayload.write start data))) :=
    fun start data hin => hscratch (Scratch.within_write h.fits_etherPayload h.root_etherPayload
      (by omega) (by omega)).attempt
  have hsend : ∀ macAddr, Proc.Within (Marks control size) (do
      let payload ← Proc.read fun h' =>
        Region.read h'.mem .send (h.etherPayload.base + 20) len.toNat
      EtherControl.sendFrame macAddr 0x0800 (len + 20)
      emit (.packet destinationIP protocol payload)) := by
    intro macAddr h' hm'
    have hpayload := segControl_read h'.mem len
    rw [hm'.control] at hpayload
    have hemit : Proc.Within (Marks control size) (emit (.packet destinationIP protocol
        (Region.read h'.mem .send (h.etherPayload.base + 20) len.toNat))) := by
      intro h'' hm''
      refine ⟨⟨hm''.sendSize, hm''.control⟩, _, rfl, fun p hp => ?_⟩
      rw [List.mem_singleton.mp hp, hbase]
      exact hpayload
    rw [Proc.run_read_bind]
    exact Proc.Within.bind (hscratch (EtherControl.sendFrame_scratch (by omega) (by omega) _ _ _))
      (fun _ => hemit) h' hm'
  unfold IPHandler.sendPacket
  rw [Proc.run_read_bind]
  split
  · exact refl_of (Marks control size) h hm
  simp only [Buffer.write8, Buffer.writeNet16, Buffer.write16]
  refine Proc.Within.bind (R := Marks control size) (Proc.within_query _)
    (fun macAddr => Proc.within_read_bind fun _ => ?_) h hm
  refine .bind (hwrite 0 _ (by simp)) fun _ => .bind (hwrite 1 _ (by simp)) fun _ => ?_
  refine .bind (hwrite 2 _ (by simp)) fun _ => .bind (hwrite 4 _ (by simp)) fun _ => ?_
  refine .bind (hwrite 6 _ (by simp)) fun _ => .bind (hwrite 8 _ (by simp)) fun _ => ?_
  refine .bind (hwrite 9 _ (by simp)) fun _ => .bind (hwrite 12 _ (by simp)) fun _ => ?_
  refine .bind (hwrite 16 _ (by simp)) fun _ => Proc.within_read_bind fun _ => ?_
  exact .bind (hwrite 10 _ (by simp)) fun _ => hsend macAddr

end Stack

namespace Socket

variable {α : Type} {control : UInt8} {size : UInt16}

/-! ### Segments without RST -/

/-- Between two worlds of a host, the send buffer keeps the control bits, and so does every packet
that has left. -/
def Marks (control : UInt8) (size : UInt16) (w w' : World α) : Prop :=
  Stack.Marks control size w.stack w'.stack

instance : IsPreorder (World α) (Marks control size) where
  refl w := refl_of (Stack.Marks control size) w.stack
  trans _ _ _ h h' := trans_of (Stack.Marks control size) h h'

/-- A step of the stack. -/
theorem marks_onStack {β : Type} {x : Proc Stack β}
    (hx : Proc.Within (Stack.Marks control size) x) :
    Proc.Within (Marks control size) (World.onStack (α := α) x) :=
  fun w => hx w.stack

/-- `transmit` sends the control bits that lie in the send buffer. -/
theorem marks_transmit (hsize : 34 ≤ size.toNat) (length : UInt16) (option_length : UInt8) :
    Proc.Within (Marks (α := α) control size) (transmit length option_length) := by
  intro w hm
  have h34 : 34 ≤ w.stack.sendSize.toNat := by rw [hm.sendSize]; exact hsize
  unfold transmit
  rw [Proc.run_read_bind, Proc.run_read_bind]
  split
  · exact (ARPHandler.requestMACAddress_scratch _ w.stack).marks (by omega) hm
  · rw [Proc.run_read_bind, Proc.run_read_bind]
    exact Proc.Within.bind (R := Marks control size)
      (marks_onStack (Stack.marks_write h34 (by decide) (by simp)))
      (fun _ => marks_onStack (Stack.marks_sendPacket hsize _ _ _)) w hm

/-- Nothing has been logged but what is no packet. -/
theorem noReset_of_log {w w' : World α} {l : List Obs} (hlog : w'.stack.log = w.stack.log ++ l)
    (hl : packetsOf l = []) : NoReset w w' :=
  ⟨l, hlog, fun _ hp => absurd (hl ▸ hp) List.not_mem_nil⟩

/-- Between two worlds of a host whose send buffer has this size, the buffer keeps it, and no RST
is sent. -/
def SendsNoReset (size : UInt16) (w w' : World α) : Prop :=
  w.stack.sendSize = size → w'.stack.sendSize = size ∧ NoReset w w'

instance : IsPreorder (World α) (SendsNoReset size) where
  refl w hs := ⟨hs, refl_of NoReset w⟩
  trans := by
    intro w w' w'' h h' hs
    obtain ⟨hs', hreset⟩ := h hs
    obtain ⟨hs'', hreset'⟩ := h' hs'
    exact ⟨hs'', trans_of NoReset hreset hreset'⟩

/-- What leaves the log and the size of the send buffer alone. -/
theorem sendsNoReset_of_log {w w' : World α} (hlog : w'.stack.log = w.stack.log)
    (hsize : w'.stack.sendSize = w.stack.sendSize) : SendsNoReset size w w' :=
  fun hs => ⟨hsize.trans hs, noReset_of_log (hlog.trans (List.append_nil _).symm) rfl⟩

/-- Control bits without RST are those of no reset. -/
theorem Marks.sendsNoReset (hrst : ¬ has control RST) {w w' : World α}
    (h : Marks control size w w') (hcontrol : w.stack.mem .send 47 = control) :
    SendsNoReset size w w' := by
  intro hs
  obtain ⟨hm', l, hl, hp⟩ := h ⟨hs, hcontrol⟩
  refine ⟨hm'.sendSize, l, hl, fun p hmem => ?_⟩
  have hbits : has (segControl p.2.2) RST = false := by
    rcases List.mem_pair.mp (hp p hmem) with h0 | hc
    · rw [h0]
      rfl
    · rw [hc]
      simpa using hrst
  rw [isReset, hbits, Bool.and_false]
  exact Bool.false_ne_true

/-- Writing to the memory sends nothing. -/
theorem sendsNoReset_onMem {β : Type} (x : Proc Memory β) :
    Proc.Within (SendsNoReset (α := α) size) (World.onMem x) :=
  fun _ => sendsNoReset_of_log rfl rfl

/-- Nor does changing the socket. -/
theorem sendsNoReset_modify {f : World α → World α} (hf : ∀ w, (f w).stack = w.stack) :
    Proc.Within (SendsNoReset size) (Proc.modify f) :=
  fun w => sendsNoReset_of_log (congrArg Stack.log (hf w)) (congrArg Stack.sendSize (hf w))

/-- The part that differs between the control kinds sends nothing. -/
theorem sendsNoReset_writeControl (buf : Buffer) (control : UInt8) (length : UInt16) :
    Proc.Within (SendsNoReset (α := α) size) (writeControl buf control length) := by
  unfold writeControl
  refine .ite ?_ (.ite ?_ ?_)
  · refine .bind (sendsNoReset_onMem _) fun _ => .bind (sendsNoReset_onMem _) fun _ =>
      .bind (sendsNoReset_onMem _) fun _ => Proc.within_read_bind fun _ => ?_
    exact .bind (sendsNoReset_onMem _) fun _ => .bind (sendsNoReset_modify fun _ => rfl) fun _ =>
      Proc.within_pure _
  · exact .bind (sendsNoReset_modify fun _ => rfl) fun _ => Proc.within_pure _
  · refine .bind (sendsNoReset_onMem _) fun _ => .bind (sendsNoReset_modify fun w => ?_) fun _ =>
      Proc.within_pure _
    split
    · rfl
    · rfl

/-- From the control bits on, a segment is sent as they say. -/
theorem sendsNoReset_control (cb : Callbacks α) (hrst : ¬ has control RST) {h₀ : Stack}
    (hsize : h₀.sendSize = size) (length : UInt16) (option_length : UInt8) :
    Proc.Within (SendsNoReset (α := α) size) (do
      World.onMem (h₀.ipPayload.write8 13 control)
      let window ← Proc.read (getWindowSize cb)
      World.onMem (h₀.ipPayload.writeNet16 14 window)
      World.onMem (h₀.ipPayload.writeNet16 18 0x0000)
      transmit length option_length) := by
  intro w
  by_cases hfit : (13 : UInt16).toNat + [control].length ≤ h₀.room
  · have h34 : 34 ≤ h₀.sendSize.toNat := by
      have hroom : h₀.room = h₀.sendSize.toNat - 34 := rfl
      have hfit : 14 ≤ h₀.room := hfit
      omega
    have hmark : (w.put 47 [control]).stack.mem .send 47 = control :=
      Region.write_of_getElem? w.stack.mem .send 47 (i := 0) (d := [control]) rfl
    have htail : Proc.Within (Marks (α := α) control size) (do
        let window ← Proc.read (getWindowSize cb)
        World.onMem (h₀.ipPayload.writeNet16 14 window)
        World.onMem (h₀.ipPayload.writeNet16 18 0x0000)
        transmit length option_length) := by
      refine Proc.within_read_bind fun window => ?_
      refine .bind (marks_onStack (Stack.marks_write h34 (by decide) (by simp))) fun _ => ?_
      refine .bind (marks_onStack (Stack.marks_write h34 (by decide) (by simp))) fun _ => ?_
      exact marks_transmit (hsize ▸ h34) length option_length
    rw [Buffer.write8, Proc.run_bind_of_some (w.onMem_write (a := 47) h34 hfit rfl)]
    exact trans_of (SendsNoReset size) (sendsNoReset_of_log rfl rfl)
      ((htail (w.put 47 [control])).sendsNoReset hrst hmark)
  · exact Proc.Within.bind_of_fails (sendsNoReset_onMem _)
      (fails_write (by omega) (by simp)) _ w

/-- A segment without RST is no reset, whatever its length and the state of the host. -/
theorem noReset_sendSegment (cb : Callbacks α) (hrst : ¬ has control RST) (length : UInt16)
    (seq ack : UInt32) : Proc.Within NoReset (sendSegment cb control length seq ack) := by
  intro w
  have hall : SendsNoReset w.stack.sendSize w
      ((sendSegment cb control length seq ack).run w).2 := by
    unfold sendSegment
    rw [Proc.run_read_bind]
    dsimp only
    split
    · exact fun hs => ⟨hs, noReset_of_log (l := [.nullDereference]) rfl rfl⟩
    · rw [Proc.run_read_bind]
      refine Proc.Within.bind (R := SendsNoReset w.stack.sendSize) (sendsNoReset_onMem _)
        (fun _ => ?_) w
      refine .bind (sendsNoReset_onMem _) fun _ => .bind (sendsNoReset_onMem _) fun _ => ?_
      refine .bind (sendsNoReset_onMem _) fun _ => ?_
      exact .bind (sendsNoReset_writeControl _ _ _) fun _ => sendsNoReset_control cb hrst rfl _ _
  exact (hall rfl).2

/-! ### Calls on a connection -/

/-- Between two worlds of a host, it has sent no RST, and a socket in one of the states has stayed
in them. -/
structure Remains (states : List UInt8) (w w' : World α) : Prop where
  noReset : NoReset w w'
  remains : w.self.state ∈ states → w'.self.state ∈ states

instance (states : List UInt8) : IsPreorder (World α) (Remains states) where
  refl w := ⟨refl_of NoReset w, id⟩
  trans _ _ _ h h' := ⟨trans_of NoReset h.noReset h'.noReset, h'.remains ∘ h.remains⟩

/-- What leaves the log and the state of the socket alone. -/
theorem remains_of_log {states : List UInt8} {w w' : World α}
    (hlog : w'.stack.log = w.stack.log) (hstate : w'.self.state = w.self.state) :
    Remains states w w' :=
  ⟨noReset_of_log (hlog.trans (List.append_nil _).symm) rfl, fun h => hstate.symm ▸ h⟩

/-- The states of a connection that neither side has closed. -/
def establishedStates : List UInt8 := [ESTABLISHED, ESTABLISHED ||| AWAITING_ACK]

/-- A segment with data is sent on a connection that is established, and leaves it so. -/
theorem remains_sendSegment (cb : Callbacks α) (length : UInt16) (seq ack : UInt32) :
    Proc.Within (Remains establishedStates) (sendSegment cb (ACK ||| PSH) length seq ack) := by
  intro w
  refine ⟨noReset_sendSegment cb (by decide) length seq ack w, fun hs => ?_⟩
  obtain ⟨-, -, hself⟩ := sendSegment_advances cb (ACK ||| PSH) length seq ack w
  rcases hself with hself | hself
  · rwa [hself]
  · rw [hself, advance]
    split_ifs
    · exact hs
    · exact (by decide : ∀ s ∈ establishedStates, s ||| AWAITING_ACK ∈ establishedStates) _ hs
    · exact hs

/-- `send` leaves a connection up. -/
theorem staysUp_send (cb : Callbacks α) (length : UInt16) :
    Proc.Within StaysUp (send cb length) := by
  intro w
  unfold send
  rw [Proc.run_read_bind]
  split
  · exact refl_of StaysUp w
  split
  · exact refl_of StaysUp w
  case isFalse hready =>
  split
  · exact refl_of StaysUp w
  have hremains : Proc.Within (Remains (α := α) establishedStates) (do
      Proc.modify fun w => w.setSelf { w.self with attempts := 1 }
      let sb ← Proc.query fun w => w.self.getSendDataBuffer
      let stash ← Proc.query fun w => w.self.stash
      World.onMem (sb.copyTo stash 0 0 length)
      sendSegment cb (ACK ||| PSH) length 0 0
      Proc.modify fun w => w.setSelf { w.self with stateTime := w.stack.millis }) := by
    refine .bind (fun w => remains_of_log rfl rfl) fun _ => .bind (Proc.within_query _) fun sb => ?_
    refine .bind (Proc.within_query _) fun stash => ?_
    refine .bind (fun w => remains_of_log rfl rfl) fun _ => ?_
    exact .bind (remains_sendSegment cb length 0 0) fun _ => fun w => remains_of_log rfl rfl
  have hestablished : ∀ s ∈ connectionStates, s &&& 0x0F = ESTABLISHED → s ∈ establishedStates := by
    decide
  have hconnected : ∀ s ∈ establishedStates, s ∈ connectionStates := by decide
  refine ⟨(hremains w).noReset, fun hs => hconnected _ ((hremains w).remains ?_)⟩
  exact hestablished _ hs (readyToSend_iff.mp (by simpa using hready)).1

/-- Writing to the memory leaves a connection up. -/
theorem staysUp_onMem {β : Type} (x : Proc Memory β) :
    Proc.Within StaysUp (World.onMem (α := α) x) :=
  fun _ => ⟨noReset_of_log (List.append_nil _).symm rfl, id⟩

/-- A null pointer that is dereferenced leaves a connection up. -/
theorem staysUp_observe {o : Obs} (ho : packetsOf [o] = []) (w : World α) :
    StaysUp w (w.observe o) :=
  ⟨noReset_of_log rfl ho, id⟩

/-- `send` with data leaves a connection up. -/
theorem staysUp_sendBytes (cb : Callbacks α) (data : Bytes) :
    Proc.Within StaysUp (sendBytes cb data) :=
  .bind (Proc.within_query _) fun _ => .bind (staysUp_onMem _) fun _ => staysUp_send cb _

/-- `close` sends a FIN at most, and the connection goes on until the other side has closed. -/
theorem staysUp_close {cb : Callbacks α} (hcb : ∀ w, StaysUp w (cb.on .onLocalClosed w)) :
    Proc.Within StaysUp (close cb) := by
  have hsend : Proc.Within StaysUp (sendSegment cb (FIN ||| ACK) 0 0 0) := by
    intro w
    refine ⟨noReset_sendSegment cb (by decide) 0 0 0 w, fun hs => ?_⟩
    obtain ⟨-, -, hself⟩ := sendSegment_advances cb (FIN ||| ACK) 0 0 0 w
    rcases hself with hself | hself
    · rwa [hself]
    · rw [hself, advance, if_pos (by decide)]
      exact hs
  have hfire : ∀ w, StaysUp w (fire cb .onLocalClosed w) :=
    fun w => trans_of StaysUp (staysUp_observe rfl w) (hcb _)
  intro w
  unfold close
  rw [Proc.run_read_bind]
  split
  · exact refl_of StaysUp w
  · refine Proc.Within.bind hsend (fun _ => ?_) w
    refine .bind (fun w => staysUp_setSelf (by exact id)) fun _ =>
      .bind (Proc.within_modify fun w => ?_) fun _ => Proc.within_modify hfire
    unfold stateAfterClose
    split_ifs
    · exact staysUp_setState (by decide) (by decide) w
    · exact staysUp_setState (by decide) (by decide) w
    · exact staysUp_setState (by decide) (by decide) w
    · exact refl_of StaysUp w

/-- Writing texts leaves a connection up. -/
theorem staysUp_writeTexts (buf : Buffer) (offset : UInt16) (texts : List (Option Bytes)) :
    Proc.Within (StaysUp (α := α)) (writeTexts buf offset texts) := by
  induction texts generalizing offset with
  | nil => exact Proc.within_pure offset
  | cons text texts ih =>
      cases text with
      | none => exact Proc.Within.bind (staysUp_observe rfl) fun _ => Proc.within_fail
      | some text => exact Proc.Within.bind (staysUp_onMem _).attempt fun _ => ih _

end Socket

namespace SMTPClient

/-- Nothing the events of the client are made of takes a connection down. -/
theorem covers_staysUp : Covers StaysUp where
  app _ _ _ := ⟨noReset_of_log (List.append_nil _).symm rfl, id⟩
  nullDereference w := staysUp_observe rfl w
  writeTexts buf texts := staysUp_writeTexts buf 0 texts
  send length := staysUp_send inner length
  sendBytes data := staysUp_sendBytes inner data
  close := staysUp_close fun w => refl_of StaysUp w

/-- The callbacks of the mail client are calm. -/
theorem calm (app : SMTPClient) : Calm callbacks app where
  on e he w _ := by
    rcases List.mem_pair.mp he with rfl | rfl
    · exact covers_staysUp.onReadyToSend w
    · exact covers_staysUp.close w
  onDataReceived d w _ := covers_staysUp.onDataReceived d w
  stayClosed w hclosed := by
    have hstate : (callbacks.on .onClosed w).self.state = CLOSED := by
      rw [show callbacks.on .onClosed w = failed w from onClosed_closed hclosed, self_failed,
        hclosed]
    rw [hstate]
    exact List.mem_cons_self
  onClosed w hclosed _ := by
    have hlog : (failed w).stack = w.stack := by
      unfold failed
      split
      · rfl
      · rfl
    rw [show callbacks.on .onClosed w = failed w from onClosed_closed hclosed]
    exact noReset_of_log (by rw [hlog, List.append_nil]) rfl

end SMTPClient

namespace HTTPClient

/-- However deep `onClosed` goes, a socket that is closed stays so. -/
theorem closed_onClosed (depth : ℕ) {w : World HTTPClient} (h : w.self.state ∈ closedStates) :
    (onClosed depth w).self.state ∈ closedStates := by
  induction depth generalizing w with
  | zero => exact h
  | succ depth ih =>
      rw [onClosed]
      split
      · unfold forceClose
        obtain ⟨state, hmem, w', hstate, -, -, hclosed⟩ := closed_cases (events (onClosed depth))
          (if w.self.state ≠ TIME_WAIT then
            (reset (events (onClosed depth)) w.self.localSeq w.self.remoteSeq).exec w else w)
        rcases hclosed with hclosed | ⟨-, hclosed⟩
        · rw [hclosed]
          exact hstate ▸ hmem
        · rw [hclosed]
          exact ih (w := w'.observe (.event w'.this .onClosed)) (hstate ▸ hmem)
      · exact h

/-- The callbacks of a client that is not sending are calm. -/
theorem calm (depth : ℕ) {app : HTTPClient} (hidle : app.sendInProgress = false) :
    Calm (callbacks depth) app where
  on e he w _ := by
    rcases List.mem_pair.mp he with rfl | rfl
    · exact refl_of StaysUp w
    · have hset : StaysUp w (setInProgress false w) :=
        ⟨noReset_of_log (List.append_nil _).symm rfl, id⟩
      exact trans_of StaysUp hset (staysUp_close (fun w => refl_of StaysUp w) _)
  onDataReceived _ w _ := refl_of StaysUp w
  stayClosed w hclosed := closed_onClosed depth (hclosed ▸ List.mem_cons_self)
  onClosed w _ happ := by
    have hsame : (callbacks depth).on .onClosed w = w := onClosed_idle (happ ▸ hidle)
    rw [hsame]
    exact refl_of NoReset w

end HTTPClient

end AtmegaNet
