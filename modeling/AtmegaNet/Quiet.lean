import AtmegaNet.Synchronized
import AtmegaNet.Protocol

/-!
# Steps of a socket whose application keeps to itself

Under callbacks that make no calls a function of `Socket` is a sequence of changes to the
socket's own fields, events, and at most one segment. `Tells` is a stretch of it in which
nothing leaves the host, `Emits` a stretch with the effect of one step of the protocol; the
rules compose them, and what becomes of the socket's fields is computed by `simp`.

## Main results

* `Emits.tells`, `Tells.emits`: events before and after a segment do not change an effect.
* `emits_sendSegment`: a segment without payload, whether there is a route or not.
-/

open Procedure

namespace AtmegaNet

/-! ### Reading the log -/

/-- The TCP segments among the packets. -/
def segmentsOf (log : List Obs) : List (IPAddr × UInt8 × Bytes) :=
  (packetsOf log).filter fun p => p.2.1 = Socket.TCP_PROTOCOL

/-- The payloads offered to the application of a socket, with its answers. -/
def receivedOf (this : ℕ) (log : List Obs) : List (Bytes × Bool) :=
  log.filterMap fun o => match o with
    | .received socket payload accepted => if socket = this then some (payload, accepted) else none
    | _ => none

/-- The segments of two logs are those of each. -/
@[simp] theorem segmentsOf_append (l l' : List Obs) :
    segmentsOf (l ++ l') = segmentsOf l ++ segmentsOf l' := by
  rw [segmentsOf, packetsOf_append, List.filter_append]
  rfl

/-- The payloads of two logs are those of each. -/
@[simp] theorem receivedOf_append (this : ℕ) (l l' : List Obs) :
    receivedOf this (l ++ l') = receivedOf this l ++ receivedOf this l' :=
  List.filterMap_append

/-- Outputs offer no payload. -/
theorem receivedOf_output {this : ℕ} {l : List Obs} (h : ∀ o ∈ l, o.isOutput) :
    receivedOf this l = [] := by
  refine List.filterMap_eq_nil_iff.mpr fun o ho => ?_
  have ho := h o ho
  cases o <;> first | rfl | exact absurd ho (by simp [Obs.isOutput])

/-- The bytes a segment takes in the send buffer. -/
def Sending.size (o : Sending) : ℕ :=
  o.payload.length + 20 + if Socket.has o.control Socket.SYN then 4 else 0

namespace Socket

variable {α : Type}

/-! ### Events -/

section Events

variable (a : App α) (w : World α)

/-- An event keeps the number of the socket. -/
@[simp] theorem this_fire (e : Event) : (fire a.callbacks e w).this = w.this := rfl

/-- An event of an application that makes no calls keeps the socket. -/
@[simp] theorem self_fire (e : Event) : (fire a.callbacks e w).self = w.self := rfl

/-- So do the events of a state. -/
@[simp] theorem self_announce (priorState state : UInt8) :
    (announce a.callbacks priorState state w).self = w.self := by
  unfold announce
  dsimp only
  split_ifs <;> rfl

/-- Entering a state changes the state and its time. -/
@[simp] theorem self_setState (state : UInt8) : (setState a.callbacks state w).self =
    { w.self with state := state, stateTime := w.stack.millis } := by
  rw [setState, self_announce]
  rfl

/-- The state of a socket that is closed. -/
def down (s : Socket) : UInt8 := if s.tcp.isSome ∧ s.isHost then LISTEN else CLOSED

/-- Closing a socket changes the state and its time. -/
@[simp] theorem self_closed : (closed a.callbacks w).self =
    { w.self with state := w.self.down, stateTime := w.stack.millis } := by
  unfold closed down
  split <;> rw [self_setState]

end Events

/-- Between two worlds nothing has left the host, and the socket's application has been
offered at most one payload; a port may have been given out. -/
structure Tells (w : World α) (delivers : Option (Bytes × Bool)) (w' : World α) : Prop where
  this : w'.this = w.this
  log : ∃ l port, w'.stack = { w.stack with
      log := w.stack.log ++ l, ip := { w.stack.ip with nextPort := port } } ∧
    packetsOf l = [] ∧ receivedOf w.this l = delivers.toList

namespace Tells

variable {w w₁ w₂ : World α} {d : Option (Bytes × Bool)}

/-- Nothing tells nothing. -/
theorem refl (w : World α) : Tells w none w :=
  ⟨rfl, [], w.stack.ip.nextPort, by rw [List.append_nil], rfl, rfl⟩

/-- Where the first step tells nothing, both tell what the second does. -/
theorem trans (h : Tells w none w₁) (h' : Tells w₁ d w₂) : Tells w d w₂ := by
  obtain ⟨l, port, hl, hp, hr⟩ := h.log
  obtain ⟨l', port', hl', hp', hr'⟩ := h'.log
  refine ⟨h'.this.trans h.this, l ++ l', port', ?_, ?_, ?_⟩
  · rw [hl', hl, List.append_assoc]
  · rw [packetsOf_append, hp, hp']
    rfl
  · rw [h.this] at hr'
    rw [receivedOf_append, hr, hr']
    rfl

/-- A payload may be offered first. -/
theorem trans_none (h : Tells w d w₁) (h' : Tells w₁ none w₂) : Tells w d w₂ := by
  obtain ⟨l, port, hl, hp, hr⟩ := h.log
  obtain ⟨l', port', hl', hp', hr'⟩ := h'.log
  refine ⟨h'.this.trans h.this, l ++ l', port', ?_, ?_, ?_⟩
  · rw [hl', hl, List.append_assoc]
  · rw [packetsOf_append, hp, hp']
    rfl
  · rw [h.this] at hr'
    rw [receivedOf_append, hr, hr']
    exact List.append_nil _

/-- Changing the socket tells nothing. -/
theorem setSelf (w : World α) (s : Socket) : Tells w none (w.setSelf s) :=
  ⟨rfl, [], w.stack.ip.nextPort, by rw [List.append_nil]; rfl, rfl, rfl⟩

variable (a : App α)

/-- An event tells nothing. -/
theorem fire (e : Event) (w : World α) : Tells w none (fire a.callbacks e w) :=
  ⟨rfl, [.event w.this e], w.stack.ip.nextPort, rfl, rfl, rfl⟩

/-- The events of a state tell nothing. -/
theorem announce (priorState state : UInt8) (w : World α) :
    Tells w none (announce a.callbacks priorState state w) := by
  unfold Socket.announce
  dsimp only
  split_ifs
  · exact (fire a _ w).trans ((fire a _ _).trans (fire a _ _))
  · exact (fire a _ w).trans (fire a _ _)
  · exact fire a _ w
  · exact refl w

/-- Entering a state tells nothing. -/
theorem setState (state : UInt8) (w : World α) : Tells w none (setState a.callbacks state w) :=
  (setSelf w _).trans (announce a _ _ _)

/-- Closing the socket tells nothing. -/
theorem closed (w : World α) : Tells w none (closed a.callbacks w) := by
  unfold Socket.closed
  split
  · exact setState a _ w
  · exact setState a _ w

end Tells

/-! ### Segments -/

/-- The ports and addresses of a connection. -/
def address (s : Socket) : UInt16 × IPAddr × UInt16 := (s.localPort, s.remoteIP, s.remotePort)

/-- A segment is read by the addresses of its socket. -/
theorem IsSegment.congr {s s' : Socket} {leftover : UInt8} {o : Sending}
    {p : IPAddr × UInt8 × Bytes} (h : IsSegment s leftover o p) (ha : s'.address = s.address) :
    IsSegment s' leftover o p := by
  obtain ⟨h1, h23⟩ := Prod.mk.inj ha
  obtain ⟨h2, h3⟩ := Prod.mk.inj h23
  exact ⟨h2 ▸ h.destination, h.protocol, h1 ▸ h.sourcePort, h3 ▸ h.destPort, h.control, h.seq,
    h.ack, h.payload, h.fin⟩

/-- The packets that leave a host between two worlds are the segment the socket sends, if it
has a route and room for it. -/
structure Leaves (w w' : World α) (o : Option Sending)
    (packets : List (IPAddr × UInt8 × Bytes)) : Prop where
  segment : packets = [] ∨
    ∃ s p, o = some s ∧ packets = [p] ∧ IsSegment w'.self (w.stack.mem .send 46) s p
  sent : ∀ s, o = some s → (IPHandler.getMACForIP w'.self.remoteIP w.stack).isSome →
    s.size ≤ w.stack.room → packets ≠ []
  unsent : w.self.remoteDomain = none → packets ≠ [] →
    (IPHandler.getMACForIP w'.self.remoteIP w.stack).isSome ∧
      ∀ s, o = some s → s.size ≤ w.stack.room

/-- Nothing leaves nothing. -/
theorem Leaves.nil (w w' : World α) : Leaves w w' none [] :=
  ⟨.inl rfl, fun _ h => absurd h (by simp), fun _ h => absurd rfl h⟩

/-- Between two worlds a socket has had the effect `e`: nothing else has left the host or been
offered to the socket's application, no buffer but the send buffer has changed, and no route
has been lost. -/
structure Emits (w : World α) (e : Effect) (w' : World α) : Prop where
  this : w'.this = w.this
  rest : w'.stack = { w.stack with
    mem := w'.stack.mem
    log := w'.stack.log
    arp := w'.stack.arp
    etherControl := w'.stack.etherControl
    ip := { w.stack.ip with nextPort := w'.stack.ip.nextPort } }
  other : ∀ r, r ≠ .send → w'.stack.mem r = w.stack.mem r
  routes : ∀ ip, ARPHandler.Resolves ip w.stack.arp.routingTable →
    ARPHandler.Resolves ip w'.stack.arp.routingTable
  offset : w.self.remoteDomain = none → 24 ≤ w.stack.room →
    w'.stack.mem .send 46 = w.stack.mem .send 46 ∨
      w'.stack.mem .send 46 = 0x50 ∨ w'.stack.mem .send 46 = 0x60
  synOffset : ∀ s, e.sends = some s → has s.control SYN → w'.stack.mem .send 46 = 0x60
  log : ∃ l, w'.stack.log = w.stack.log ++ l ∧ receivedOf w.this l = e.delivers.toList ∧
    Leaves w w' e.sends (segmentsOf l)

namespace Tells

variable {w w₁ w₂ : World α} {d : Option (Bytes × Bool)}

/-- Without packets there are no segments. -/
theorem segmentsOf_eq_nil {l : List Obs} (h : packetsOf l = []) : segmentsOf l = [] := by
  rw [segmentsOf, h]
  rfl

/-- A stretch without a segment. -/
theorem emits (h : Tells w d w₁) : Emits w { delivers := d } w₁ := by
  obtain ⟨l, port, hl, hp, hr⟩ := h.log
  refine ⟨h.this, by rw [hl], fun r _ => by rw [hl], fun ip hip => by rwa [hl],
    fun _ _ => .inl (by rw [hl]), fun _ hs => absurd hs (by simp), l, by rw [hl], hr, ?_⟩
  rw [segmentsOf_eq_nil hp]
  exact Leaves.nil w w₁

/-- Events before a segment; a payload is offered before it or after. -/
theorem then_emits_of {o : Option Sending} {d' d'' : Option (Bytes × Bool)} (h : Tells w d w₁)
    (hd : w₁.self.remoteDomain = w.self.remoteDomain) (h' : Emits w₁ ⟨o, d'⟩ w₂)
    (hdd : d.toList ++ d'.toList = d''.toList) : Emits w ⟨o, d''⟩ w₂ := by
  obtain ⟨l, port, hl, hp, hr⟩ := h.log
  obtain ⟨l', hl', hr', hleaves⟩ := h'.log
  refine ⟨h'.this.trans h.this, ?_, fun r hne => ?_, fun ip hip => ?_,
    fun hnone h24 => ?_, h'.synOffset, l ++ l', ?_, ?_, ?_⟩
  · rw [h'.rest, hl]
  · rw [h'.other r hne, hl]
  · exact h'.routes ip (by rwa [hl])
  · have := h'.offset (hd.trans hnone) (by rw [hl]; exact h24)
    rwa [hl] at this
  · rw [hl', hl, List.append_assoc]
  · rw [h.this] at hr'
    rw [receivedOf_append, hr, hr']
    exact hdd
  · have hroute : IPHandler.getMACForIP w₂.self.remoteIP w₁.stack =
        IPHandler.getMACForIP w₂.self.remoteIP w.stack := by
      rw [hl]
      rfl
    have hroom : w₁.stack.room = w.stack.room := by
      rw [hl]
      rfl
    have hmem : w₁.stack.mem = w.stack.mem := by rw [hl]
    rw [segmentsOf_append, segmentsOf_eq_nil hp, List.nil_append]
    exact ⟨hmem ▸ hleaves.segment, by rw [← hroute, ← hroom]; exact hleaves.sent,
      fun hnone => by rw [← hroute, ← hroom]; exact hleaves.unsent (hd.trans hnone)⟩

/-- Events before a segment. -/
theorem then_emits {o : Option Sending} (h : Tells w d w₁)
    (hd : w₁.self.remoteDomain = w.self.remoteDomain) (h' : Emits w₁ { sends := o } w₂) :
    Emits w { sends := o, delivers := d } w₂ :=
  h.then_emits_of hd h' (List.append_nil _)

/-- Events before an effect. -/
theorem before_emits {e : Effect} (h : Tells w none w₁)
    (hd : w₁.self.remoteDomain = w.self.remoteDomain) (h' : Emits w₁ e w₂) : Emits w e w₂ :=
  h.then_emits_of hd h' (List.nil_append _)

end Tells

/-- Events after a segment. -/
theorem Emits.then_tells {w w₁ w₂ : World α} {e : Effect} (h : Emits w e w₁)
    (h' : Tells w₁ none w₂) (ha : w₂.self.address = w₁.self.address) : Emits w e w₂ := by
  obtain ⟨l, hl, hr, hleaves⟩ := h.log
  obtain ⟨l', port, hl', hp', hr'⟩ := h'.log
  have hip : w₂.self.remoteIP = w₁.self.remoteIP := (Prod.mk.inj (Prod.mk.inj ha).2).1
  refine ⟨h'.this.trans h.this, ?_, fun r hne => ?_, fun ip hip => ?_,
    fun hnone h24 => ?_, fun s hs hsyn => ?_, l ++ l', ?_, ?_, ?_⟩
  · rw [hl', h.rest]
  · rw [hl']
    exact h.other r hne
  · rw [hl']
    exact h.routes ip hip
  · rw [hl']
    exact h.offset hnone h24
  · rw [hl']
    exact h.synOffset s hs hsyn
  · rw [hl', hl, List.append_assoc]
  · rw [h.this] at hr'
    rw [receivedOf_append, hr, hr']
    exact List.append_nil _
  · rw [segmentsOf_append, Tells.segmentsOf_eq_nil hp', List.append_nil]
    refine ⟨?_, by rw [hip]; exact hleaves.sent, by rw [hip]; exact hleaves.unsent⟩
    rcases hleaves.segment with hnil | ⟨s, p, hs, hpackets, hseg⟩
    · exact .inl hnil
    · exact .inr ⟨s, p, hs, hpackets, hseg.congr ha⟩

/-! ### The segments of `sendSegment` -/

section Segments

variable {cb : Callbacks α} {control : UInt8} {length : UInt16} {seq ack : UInt32}
  {w w' : World α}

/-- Sending keeps the addresses. -/
theorem address_advance (s : Socket) : (advance control length s).address = s.address := by
  unfold advance
  split_ifs <;> rfl

/-- The size of a segment is that of its header, its option and its payload. -/
theorem size_eq (o : Sending) (h : Stack) (hlen : o.payload.length = length.toNat) :
    o.size = length.toNat + 20 + (optionBytes o.control h).length := by
  rw [Sending.size, optionBytes, hlen]
  split <;> rfl

/-- A log whose packets are a segment at most has no others. -/
theorem packetsOf_segments {l : List Obs}
    (h : packetsOf l = [] ∨ ∃ d p, packetsOf l = [(d, TCP_PROTOCOL, p)]) :
    segmentsOf l = packetsOf l := by
  rcases h with h | ⟨d, p, h⟩ <;> rw [segmentsOf, h] <;> rfl

/-- What was transmitted is the effect of a step. -/
theorem emits_of_transmitted (hc : control ∈ sentControls) (hl : Admits control length w.stack)
    (hfit : length.toNat + 20 + (optionBytes control w.stack).length ≤ w.stack.room)
    (h : Transmitted cb control length seq ack w w') :
    Emits w { sends := some ⟨control, seqOf control seq w.self, ackOf control ack w.self,
      Region.read w.stack.mem .send 54 length.toNat⟩ } w' := by
  obtain ⟨l, hlog, hout, hpackets⟩ := h.log
  have haddr : w'.self.address = w.self.address := by rw [h.self, address_advance]
  have hip : w'.self.remoteIP = w.self.remoteIP := (Prod.mk.inj (Prod.mk.inj haddr).2).1
  have hoff := h.offset
  refine ⟨h.this, ?_, h.other, h.routes, fun _ _ => ?_, fun s hs hsyn => ?_, l, hlog,
    receivedOf_output hout, ?_⟩
  · rw [h.rest]
  · rw [hoff, offsetByte]
    split_ifs
    · exact .inr (.inr rfl)
    · exact .inl rfl
    · exact .inr (.inl rfl)
  · obtain rfl := Option.some.inj hs
    rw [hoff, offsetByte, if_pos hsyn]
  · have hsize : ∀ s, some (⟨control, seqOf control seq w.self, ackOf control ack w.self,
        Region.read w.stack.mem .send 54 length.toNat⟩ : Sending) = some s →
          s.size ≤ w.stack.room := by
      intro s hs
      obtain rfl := Option.some.inj hs
      rw [size_eq _ w.stack (Region.length_read _ _ _ _)]
      exact hfit
    have hseg := packetsOf_segments (l := l) (by
      rw [hpackets]
      split
      · exact .inr ⟨_, _, rfl⟩
      · exact .inl rfl)
    rw [hseg, hpackets]
    by_cases hroute : (IPHandler.getMACForIP w.self.remoteIP w.stack).isSome
    · rw [if_pos hroute]
      refine ⟨.inr ⟨_, _, rfl, rfl, ?_⟩, fun _ _ _ _ => by simp, fun _ _ => ⟨?_, hsize⟩⟩
      · exact (isSegment_packetOf hc hl hfit _).congr haddr
      · rwa [hip]
    · rw [if_neg hroute]
      refine ⟨.inl rfl, fun s _ hs => absurd ?_ hroute, fun _ hne => absurd rfl hne⟩
      rwa [hip] at hs

/-- What did not fit the send buffer is the effect of a step that lost its segment. -/
theorem emits_of_unsent {o : Option Sending} (h : Unsent control w w')
    (hroom : w.stack.room < 24) (ho : ∀ s, o = some s → ¬ has s.control SYN ∧ w.stack.room < s.size) :
    Emits w { sends := o } w' := by
  refine ⟨h.this, ?_, h.other, fun ip hip => ?_, fun _ h24 => absurd hroom (Nat.not_lt.mpr h24),
    fun s hs hsyn => absurd hsyn (ho s hs).1, [], ?_, rfl, .inl rfl, fun s hs _ hsize => ?_,
    fun _ hne => absurd rfl hne⟩
  · rw [h.rest]
  · rwa [h.rest]
  · rw [h.rest, List.append_nil]
  · exact absurd hsize (Nat.not_le.mpr (ho s hs).2)

end Segments

section App

variable (a : App α) {w : World α} (htcp : w.self.tcp.isSome)

include htcp

/-- A segment without payload, SYN and FIN: the socket stays as it is. -/
theorem emits_sendSegment {control : UInt8} (hc : control ∈ sentControls) (seq ack : UInt32)
    (hsyn : ¬ has control SYN) (hfin : ¬ has control FIN) :
    Emits w { sends := some ⟨control, seqOf control seq w.self, ackOf control ack w.self, []⟩ }
        ((sendSegment a.callbacks control 0 seq ack).exec w) ∧
      ((sendSegment a.callbacks control 0 seq ack).exec w).self = w.self := by
  refine ⟨?_, sendSegment_self a.callbacks seq ack w hsyn hfin⟩
  have hopt : (optionBytes control w.stack).length = 0 := by rw [optionBytes, if_neg hsyn]; rfl
  by_cases hroom : 20 ≤ w.stack.room
  · have hfit : (0 : UInt16).toNat + 20 + (optionBytes control w.stack).length ≤ w.stack.room := by
      rw [hopt]
      exact hroom
    exact emits_of_transmitted hc (.inl rfl) hfit
      (sendSegment_transmitted a.callbacks control 0 seq ack htcp hfit).2
  · have hshort := (sendSegment_short a.callbacks control seq ack w htcp (by omega)).2
    refine emits_of_unsent hshort (by omega) fun s hs => ?_
    obtain rfl := Option.some.inj hs
    exact ⟨hsyn, by simp [Sending.size, hsyn]; omega⟩

/-- `sendACK` sends an ACK. -/
theorem emits_sendACK :
    Emits w { sends := some ⟨ACK, w.self.localSeq, w.self.remoteSeq, []⟩ }
        (sendACK a.callbacks w) ∧ (sendACK a.callbacks w).self = w.self :=
  emits_sendSegment a htcp (by decide) 0 0 (by decide) (by decide)

/-- `reset`, with the control bits it chooses. -/
theorem emits_reset (seq ack : UInt32) :
    Emits w { sends := some ⟨if ack = w.self.remoteSeq then RST ||| ACK else RST, seq, ack, []⟩ }
        ((reset a.callbacks seq ack).exec w) ∧ ((reset a.callbacks seq ack).exec w).self = w.self := by
  obtain ⟨control, hcontrol⟩ : ∃ control,
    control = if ack = w.self.remoteSeq then RST ||| ACK else RST := ⟨_, rfl⟩
  have hmem : control ∈ [RST, RST ||| ACK] := by
    rw [hcontrol]
    split <;> decide
  have hbits := (by decide : ∀ c ∈ [RST, RST ||| ACK], c ∈ sentControls ∧ ¬ has c SYN ∧
    ¬ has c FIN ∧ has c RST) control hmem
  have hsend := emits_sendSegment a htcp hbits.1 seq ack hbits.2.1 hbits.2.2.1
  rw [seqOf, ackOf, if_pos hbits.2.2.2, if_pos hbits.2.2.2] at hsend
  rw [← hcontrol]
  unfold reset Proc.exec
  rw [Proc.run_read_bind, ← hcontrol]
  rcases hrun : (sendSegment a.callbacks control 0 seq ack).run w with ⟨_ | r, w'⟩
  · rw [Proc.run_bind_of_none hrun]
    rwa [Proc.exec, hrun] at hsend
  · rw [Proc.run_bind_of_some hrun]
    rw [Proc.exec, hrun] at hsend
    exact ⟨hsend.1.then_tells (Tells.fire a _ _) rfl, hsend.2⟩

/-- A SYN or FIN that fits: the socket advances by one. -/
theorem emits_sendFlag {control : UInt8} (hc : control ∈ sentControls)
    (hflag : has control SYN ∨ has control FIN)
    (hfit : 20 + (optionBytes control w.stack).length ≤ w.stack.room) :
    (sendSegment a.callbacks control 0 0 0).succeeds w ∧
      Emits w { sends := some ⟨control, w.self.localSeq, w.self.remoteSeq, []⟩ }
        ((sendSegment a.callbacks control 0 0 0).exec w) ∧
      ((sendSegment a.callbacks control 0 0 0).exec w).self =
        { w.self with localSeq := w.self.localSeq + 1 } := by
  have hrst := (by decide : ∀ c ∈ sentControls, has c SYN ∨ has c FIN → ¬ has c RST) control hc hflag
  have hfit' : (0 : UInt16).toNat + 20 + (optionBytes control w.stack).length ≤ w.stack.room := by
    simpa using hfit
  obtain ⟨hsome, h⟩ := sendSegment_transmitted a.callbacks control 0 0 0 htcp hfit'
  have hemits := emits_of_transmitted hc (.inl rfl) hfit' h
  rw [seqOf, ackOf, if_neg hrst, if_neg hrst] at hemits
  exact ⟨by rw [Proc.succeeds, hsome]; rfl, hemits, h.self.trans (if_pos hflag)⟩

/-- A SYN or FIN that does not fit is not sent, but the socket may have counted the FIN. -/
theorem sendFlag_short {control : UInt8}
    (hfit : w.stack.room < 20 + (optionBytes control w.stack).length) :
    ¬ (sendSegment a.callbacks control 0 0 0).succeeds w ∧
      Emits w {} ((sendSegment a.callbacks control 0 0 0).exec w) ∧
      (((sendSegment a.callbacks control 0 0 0).exec w).self = w.self ∨ ¬ has control SYN ∧
        ((sendSegment a.callbacks control 0 0 0).exec w).self =
          { w.self with localSeq := w.self.localSeq + 1 }) := by
  obtain ⟨hnone, h⟩ := sendSegment_short a.callbacks control 0 0 w htcp hfit
  have hopt := @length_optionBytes_le control w.stack
  refine ⟨by rw [Proc.succeeds, hnone]; simp, emits_of_unsent h (by omega) (by simp),
    h.self.imp_right fun hs => ⟨hs.1, hs.2.2.trans (if_pos (.inr hs.2.1))⟩⟩

end App

end Socket

end AtmegaNet
