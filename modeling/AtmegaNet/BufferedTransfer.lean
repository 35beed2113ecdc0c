import AtmegaNet.BufferedSocket
import AtmegaNet.NotEstablished
import AtmegaNet.Transfer

/-!
# A transfer into a buffer

The server of a transfer is a `BufferedSocket`, whose events do nothing: what a segment brings goes
into the block, or is refused for want of room, and the program reads it from there at any time.

## Main results

* `Socket.app_handleValid`: the application hears of the payload of a segment in order, and of
  nothing else.
* `reaches_read`: what the program has read, with what is left in the block, is a beginning of
  what the client has sent, and all of it when the client is ready to send.
-/

open Procedure Runs

namespace AtmegaNet

open Socket SocketRuns

/-! ### The payload that is offered -/

/-- The payload of a segment is offered to the application. -/
def Conn.Offers (c : Conn) (s : Segment) : Prop :=
  c.Admits s ∧ c.Open ∧ has s.control ACK ∧ s.seq = c.remoteSeq ∧ s.payloadSize > 0 ∧
    s.payload.length > 0

/-- A step delivers a payload exactly where the segment offers it. -/
theorem Receives.delivers {k : Limits} {s : Segment} {c c' : Conn} {e : Effect}
    (h : Receives k s c e c') :
    c.Offers s ∧ e.delivers = some (s.payload, s.accepted) ∨ ¬ c.Offers s ∧ e.delivers = none := by
  have hstate : ∀ {state : UInt8}, c.state = state → state &&& 0x0F ≠ ESTABLISHED →
      ¬ c.Offers s := fun hc hne ho => hne (hc ▸ ho.2.1)
  cases h with
  | refuse _ _ hrefuses _ => exact .inr ⟨fun ho => ho.1.1 hrefuses, rfl⟩
  | challenge _ hchallenges => exact .inr ⟨fun ho => ho.1.2.1 hchallenges, rfl⟩
  | reset _ _ hrst _ => exact .inr ⟨fun ho => ho.1.2.2 hrst, rfl⟩
  | resetIgnored _ _ hrst _ => exact .inr ⟨fun ho => ho.1.2.2 hrst, rfl⟩
  | passiveOpen _ hlisten _ _ => exact .inr ⟨hstate hlisten (by decide), rfl⟩
  | passiveOpenShort _ hlisten _ _ => exact .inr ⟨hstate hlisten (by decide), rfl⟩
  | simultaneousOpen _ hsent _ => exact .inr ⟨hstate hsent (by decide), rfl⟩
  | activeOpen _ hsent _ _ => exact .inr ⟨hstate hsent (by decide), rfl⟩
  | noAck _ _ hack => exact .inr ⟨fun ho => hack ho.2.2.1, rfl⟩
  | outOfOrder _ _ _ hseq => exact .inr ⟨fun ho => hseq ho.2.2.2.1, rfl⟩
  | inOrder hadmits hopen hack hseq =>
      by_cases hp : s.payloadSize > 0 ∧ s.payload.length > 0
      · exact .inl ⟨⟨hadmits, hopen, hack, hseq, hp⟩, if_pos hp⟩
      · exact .inr ⟨fun ho => hp ho.2.2.2.2, if_neg hp⟩
  | acked _ _ hopen _ => exact .inr ⟨fun ho => hopen ho.2.1, rfl⟩
  | abort _ _ hopen _ => exact .inr ⟨fun ho => hopen ho.2.1, rfl⟩

namespace Socket

/-! ### Applications that take no notice of events -/

section Quiet

variable {α : Type} (a : App α) {w : World α} {buf : Bytes} {localIP remoteIP : IPAddr}

/-- The callbacks of an application that is never offered a payload. -/
def muted : Callbacks α := { a.callbacks with onDataReceived := fun _ w => (false, w) }

/-- A relation of worlds: the application has not changed. -/
def SameApp (w w' : World α) : Prop := w'.app = w.app

instance : IsPreorder (World α) SameApp where
  refl _ := rfl
  trans _ _ _ h h' := h'.trans h

variable (hquiet : ∀ e s, a.on e s = s)

include hquiet

theorem frames_muted : Frames (muted a) SameApp where
  self _ _ _ := rfl
  stack _ _ _ := rfl
  event _ _ := rfl
  received _ _ _ := rfl
  dangling _ _ := rfl
  on e w := hquiet e w.app
  onDataReceived _ _ := rfl

omit hquiet in
/-- Only in ESTABLISHED the cascade depends on what is done with a payload. -/
theorem handleValid_muted
    (h : (conn w).Admits (segmentOf a buf w) → (conn w).Open →
      handleEstablished (muted a) buf (segControl buf) (segAck buf) (segSeq buf) w =
        handleEstablished a.callbacks buf (segControl buf) (segAck buf) (segSeq buf) w) :
    handleValid (muted a) buf (segControl buf) (segAck buf) (segSeq buf) w =
      handleValid a.callbacks buf (segControl buf) (segAck buf) (segSeq buf) w := by
  unfold handleValid
  refine ite_congr rfl (fun _ => rfl) fun h1 => ite_congr rfl (fun _ => rfl) fun h2 =>
    ite_congr rfl (fun _ => rfl) fun h3 => ite_congr rfl (fun _ => rfl) fun h4 =>
    ite_congr rfl (fun _ => rfl) fun h5 => ite_congr rfl (fun _ => rfl) fun h6 =>
    ite_congr rfl (fun _ => rfl) fun _ => ite_congr rfl (fun _ => rfl) fun _ =>
    ite_congr rfl (fun _ => rfl) fun _ => ite_congr rfl (fun hopen => h ⟨?_, ?_, h6⟩ hopen) ?_
  · rintro (hr | hr | hr)
    · exact h1 hr
    · exact h2 hr
    · exact h3 hr
  · rintro ⟨hsync, hc | hc⟩
    · exact h4 ⟨hsync, hc⟩
    · exact h5 ⟨hsync, hc⟩
  · exact fun _ => ite_congr rfl (fun _ => rfl) fun _ => rfl

omit hquiet in
/-- A segment that gets past the tests in ESTABLISHED. -/
theorem handleValid_established (hadmits : (conn w).Admits (segmentOf a buf w))
    (hopen : (conn w).Open) :
    handleValid a.callbacks buf (segControl buf) (segAck buf) (segSeq buf) w =
      handleEstablished a.callbacks buf (segControl buf) (segAck buf) (segSeq buf) w := by
  obtain ⟨hrefuses, hchallenges, hrst⟩ := hadmits
  have hlisten : w.self.state ≠ LISTEN := hopen.ne (by decide)
  have hsent : w.self.state ≠ SYN_SENT := hopen.ne (by decide)
  unfold handleValid
  refine (if_neg fun h => hrefuses (.inl h)).trans <|
    (if_neg fun h => hrefuses (.inr (.inl h))).trans <|
    (if_neg fun h => hrefuses (.inr (.inr h))).trans <|
    (if_neg fun h => hchallenges ⟨h.1, .inl h.2⟩).trans <|
    (if_neg fun h => hchallenges ⟨h.1, .inr h.2⟩).trans <| (if_neg hrst).trans ?_
  rw [if_neg fun h => hlisten h.1, if_neg fun h => hsent h.1, if_neg fun h => hsent h.1]
  exact if_pos hopen

omit hquiet in
/-- Without a payload in order nothing is offered. -/
theorem handleEstablished_muted (hsum : checksumOk buf localIP remoteIP)
    (hno : ¬ (has (segControl buf) ACK ∧ segSeq buf = w.self.remoteSeq ∧ segPayloadSize buf > 0 ∧
      (segPayload buf).length > 0)) :
    handleEstablished (muted a) buf (segControl buf) (segAck buf) (segSeq buf) w =
      handleEstablished a.callbacks buf (segControl buf) (segAck buf) (segSeq buf) w := by
  unfold handleEstablished
  refine ite_congr rfl (fun _ => rfl) fun hack => ite_congr rfl (fun _ => rfl) fun hseq => ?_
  rw [read_segWords hsum]
  have hin : handleInOrder (muted a) buf (segControl buf) (segAck buf) (segSeq buf)
        (segWords buf) w =
      handleInOrder a.callbacks buf (segControl buf) (segAck buf) (segSeq buf)
        (segWords buf) w := by
    unfold handleInOrder
    dsimp only
    by_cases hsize : (viewOf buf).size - (segWords buf).toUInt16 * 4 > 0
    · rw [if_pos hsize, if_pos hsize]
      have hempty : ¬ (segPayload buf).length > 0 := fun hlength =>
        hno ⟨by simpa using hack, not_not.mp hseq, hsize, hlength⟩
      have hoffer : ∀ w : World α, offerPayload (muted a) (segSeq buf) (segPayloadSize buf)
          (segPayload buf) w = offerPayload a.callbacks (segSeq buf) (segPayloadSize buf)
          (segPayload buf) w := fun w => by
        unfold offerPayload
        rw [if_neg hempty, if_neg hempty]
      have hpayload : handlePayload (muted a) (segControl buf) (segSeq buf) (segPayloadSize buf)
          (segPayload buf) w = handlePayload a.callbacks (segControl buf) (segSeq buf)
          (segPayloadSize buf) (segPayload buf) w := congrArg (sendACK a.callbacks) (hoffer _)
      exact ite_congr rfl (fun _ => congrArg (handleFin a.callbacks _ _) hpayload) fun _ => hpayload
    · rw [if_neg hsize, if_neg hsize]
      rfl
  dsimp only
  rw [hin]
  rfl

/-- What the application is after a payload in order. -/
theorem app_handleEstablished (hsum : checksumOk buf localIP remoteIP)
    (hack : has (segControl buf) ACK) (hseq : segSeq buf = w.self.remoteSeq)
    (hsize : segPayloadSize buf > 0) (hlength : (segPayload buf).length > 0) :
    (handleEstablished a.callbacks buf (segControl buf) (segAck buf) (segSeq buf) w).app =
      (a.onDataReceived (segPayload buf) w.app).2 := by
  have hframes := frames_muted a hquiet
  have hcount : ∀ w : World α, (countFin (segControl buf) w).app = w.app := fun w => by
    unfold countFin
    split <;> rfl
  have hoffer : ∀ w : World α, (offerPayload a.callbacks (segSeq buf) (segPayloadSize buf)
      (segPayload buf) w).app = (a.onDataReceived (segPayload buf) w.app).2 := fun w => by
    unfold offerPayload
    rw [if_pos hlength]
    dsimp only
    split <;> rfl
  have hpayload : (handlePayload a.callbacks (segControl buf) (segSeq buf) (segPayloadSize buf)
      (segPayload buf) w).app = (a.onDataReceived (segPayload buf) w.app).2 := by
    refine (hframes.sendACK _).trans ((hoffer _).trans ?_)
    rw [hcount]
    rfl
  have hin : (handleInOrder a.callbacks buf (segControl buf) (segAck buf) (segSeq buf)
      (segWords buf) w).app = (a.onDataReceived (segPayload buf) w.app).2 := by
    have hsize' : (viewOf buf).size - (segWords buf).toUInt16 * 4 > 0 := hsize
    unfold handleInOrder
    dsimp only
    rw [if_pos hsize']
    split
    · exact (hframes.handleFin _ _ _).trans hpayload
    · exact hpayload
  unfold handleEstablished
  rw [if_neg (by simp [hack])]
  dsimp only
  rw [if_neg (not_not.mpr hseq), read_segWords hsum]
  dsimp only
  split
  · exact (hframes.fire .onReadyToSend _).trans hin
  · exact hin

/-- The application hears of the payload that is offered, and of nothing else. -/
theorem app_handleValid (hsum : checksumOk buf localIP remoteIP) :
    ((conn w).Offers (segmentOf a buf w) →
      (handleValid a.callbacks buf (segControl buf) (segAck buf) (segSeq buf) w).app =
        (a.onDataReceived (segPayload buf) w.app).2) ∧
    (¬ (conn w).Offers (segmentOf a buf w) →
      (handleValid a.callbacks buf (segControl buf) (segAck buf) (segSeq buf) w).app = w.app) := by
  constructor
  · rintro ⟨hadmits, hopen, hack, hseq, hsize, hlength⟩
    rw [handleValid_established a hadmits hopen]
    exact app_handleEstablished a hquiet hsum hack hseq hsize hlength
  · intro hno
    rw [← handleValid_muted a fun hadmits hopen => handleEstablished_muted a hsum
      fun h => hno ⟨hadmits, hopen, h⟩]
    exact (frames_muted a hquiet).handleValid buf _ _ _ w fun _ _ _ => rfl

end Quiet

end Socket

/-! ### What an activity feeds -/

section Feeds

variable {α : Type} {a : App α} {k : Limits} {w w' : World α}

/-- The application has been offered a payload of a frame, or nothing, and has changed
accordingly. -/
def Feeds (a : App α) (w w' : World α) : Prop :=
  ∃ l, w'.stack.log = w.stack.log ++ l ∧
    (receivedOf w.this l = [] ∧ w'.app = w.app ∨
      ∃ payload : Bytes, payload.length ≤ 1500 ∧
        receivedOf w.this l = [(payload, (a.onDataReceived payload w.app).1)] ∧
        w'.app = (a.onDataReceived payload w.app).2)

/-- An operation leaves the application alone. -/
theorem app_call (hquiet : ∀ e s, a.on e s = s) (dns : Resolver) (o : Operation) (w : World α) :
    (o.run a.callbacks dns w).2.app = w.app := by
  have hframes := frames_muted a hquiet
  have hdns : ∀ (d : Bytes) (w : World α), SameApp w { w with stack := (dns d w.stack).2 } :=
    fun _ _ => rfl
  cases o with
  | connect => exact hframes.connect hdns w
  | send length => exact hframes.send length w
  | close => exact hframes.close w
  | forceClose => exact hframes.forceClose w
  | checkState => exact hframes.checkState hdns w

/-- An activity other than a segment delivers nothing. -/
theorem SocketRuns.Activity.Step.undelivered {t : Activity α} {e : Effect} {c : Conn}
    (h : Activity.Step a k w t e c) (ht : ∀ sourceIP bytes, t ≠ .segment sourceIP bytes) :
    e.delivers = none := by
  cases h with
  | idle _ _ => rfl
  | acts hacts _ _ _ => exact hacts.unloaded.1
  | receives h _ => exact absurd h (ht _ _)

/-- A segment feeds its payload, if it offers it. -/
theorem feeds_segment (hquiet : ∀ e s, a.on e s = s) (hw : Wired w) (sourceIP : IPAddr)
    {bytes : Bytes} (hshort : bytes.length ≤ 1500) :
    Feeds a w (handleSegment a.callbacks sourceIP bytes w) := by
  by_cases hsum : checksumOk bytes w.stack.ip.ipAddress (arrive sourceIP bytes w).self.remoteIP
  · have hwired : Wired (arrive sourceIP bytes w) := ⟨hw.tcp, hw.sendBuffer, hw.stash, hw.within⟩
    rw [handleSegment_valid a.callbacks hw.tcp hsum]
    obtain ⟨e, hreceives, m, -, hemits⟩ := (handleValid_refines a hwired hsum).step
    obtain ⟨l, hlog, hreceived, -⟩ := hemits.log
    obtain ⟨hfed, hunfed⟩ := app_handleValid a (w := arrive sourceIP bytes w) hquiet hsum
    refine ⟨l, hlog, ?_⟩
    rcases hreceives.delivers with ⟨hoffers, hdelivers⟩ | ⟨hno, hdelivers⟩
    · rw [hdelivers] at hreceived
      refine .inr ⟨segPayload bytes, ?_, hreceived, hfed hoffers⟩
      rw [segPayload, List.length_drop]
      omega
    · rw [hdelivers] at hreceived
      exact .inl ⟨hreceived, hunfed hno⟩
  · rcases handleSegment_invalid a.callbacks hw.tcp hsum with h | h
    · rw [h]
      exact ⟨[], (List.append_nil _).symm, .inl ⟨rfl, rfl⟩⟩
    · rw [h]
      exact ⟨[], (List.append_nil _).symm, .inl ⟨rfl, rfl⟩⟩

/-- What an activity feeds to an application that changes in no other way. -/
theorem feeds_activity (hquiet : ∀ e s, a.on e s = s) (h : Ready k w) (t : Activity α)
    (hok : ∀ stack app, t = .elsewhere stack app → Elsewhere w stack ∧ app = w.app)
    (hshort : ∀ sourceIP bytes, t = .segment sourceIP bytes → bytes.length ≤ 1500) :
    Feeds a w (t.run a w) := by
  obtain ⟨e, hstep, hplays⟩ := h.activity a t fun stack app ht => (hok stack app ht).1
  obtain ⟨l, hlog, hreceived, -⟩ := hplays.log
  have hnone : (∀ sourceIP bytes, t ≠ .segment sourceIP bytes) → (t.run a w).app = w.app →
      Feeds a w (t.run a w) := fun ht happ => by
    rw [hstep.undelivered ht] at hreceived
    exact ⟨l, hlog, .inl ⟨hreceived, happ⟩⟩
  cases t with
  | call dns o => exact hnone (by simp) (app_call hquiet dns o w)
  | sendBytes data => exact hnone (by simp) ((frames_muted a hquiet).sendBytes data w)
  | segment sourceIP bytes =>
      exact feeds_segment hquiet h.wired sourceIP (hshort sourceIP bytes rfl)
  | elsewhere stack app => exact hnone (by simp) (hok stack app rfl).2

end Feeds

/-! ### A buffered socket at the end of a transfer -/

namespace BufferedTransfer

open BufferedSocket Transfer

/-- The two hosts, and what the program on the server has read. -/
structure Session (α : Type) where
  hosts : Transfer.Session α BufferedSocket
  given : Bytes

/-- What happens: the activities of the two hosts, and the program on the server reads. -/
inductive Event (α : Type)
  | host (e : Transfer.Event α BufferedSocket)
  | read (length : UInt16)

/-- The activity of the server's host that a read is. -/
def reading (w : World BufferedSocket) (length : UInt16) : Activity BufferedSocket :=
  .elsewhere w.stack (BufferedSocket.read length w.app).2

variable {α : Type}

/-- One of these. -/
def run (a : App α) : Event α → Session α → Session α
  | .host e, s => { s with hosts := Transfer.run a BufferedSocket.app e s.hosts }
  | .read length, s =>
      { hosts := Transfer.run a BufferedSocket.app (.server (reading s.hosts.server length)) s.hosts
        given := s.given ++ (BufferedSocket.read length s.hosts.server.app).1 }

/-- What can happen: as in a transfer, but only the program touches the block, and a segment that
arrives at the server fits in a frame. -/
def Ok (a : App α) (s : Session α) : Event α → Prop
  | .host (.client t) => Transfer.Ok a BufferedSocket.app s.hosts (.client t)
  | .host (.server t) => Transfer.Ok a BufferedSocket.app s.hosts (.server t) ∧
      (∀ stack app, t = .elsewhere stack app → app = s.hosts.server.app) ∧
      ∀ sourceIP bytes, t = .segment sourceIP bytes → bytes.length ≤ 1500
  | .read _ => True

/-- The queue: what the program has read and what is left are what the socket has accepted. -/
structure Queued (capacity : UInt16) (w : World BufferedSocket) (given : Bytes) : Prop where
  sound : w.app.Sound
  capacity : w.app.bufferCapacity ≤ capacity
  queue : given ++ w.app.content = acceptedOf w.this w.stack.log

section Queue

variable {capacity : UInt16} {w w' : World BufferedSocket} {given : Bytes}

theorem acceptedOf_append (this : ℕ) (log l : List Obs) : acceptedOf this (log ++ l) =
    acceptedOf this log ++ ((receivedOf this l).filter (·.2)).flatMap (·.1) := by
  unfold acceptedOf
  rw [receivedOf_append, List.filter_append, List.flatMap_append]

/-- What a step feeds goes into the queue, or is refused. -/
theorem Queued.feeds (h : Queued capacity w given) (hcapacity : capacity.toNat ≤ 32767)
    (hthis : w'.this = w.this) (hfeeds : Feeds BufferedSocket.app w w') :
    Queued capacity w' given := by
  obtain ⟨l, hlog, hcases⟩ := hfeeds
  have haccepted := acceptedOf_append w.this w.stack.log l
  rw [← hlog] at haccepted
  rcases hcases with ⟨hnone, happ⟩ | ⟨payload, hshort, hreceived, happ⟩
  · rw [hnone] at haccepted
    refine ⟨happ ▸ h.sound, happ ▸ h.capacity, ?_⟩
    rw [happ, hthis, haccepted, h.queue]
    exact (List.append_nil _).symm
  · have happ : w'.app = (onDataReceived (viewOf payload) w.app).2 := happ
    have hreceived : receivedOf w.this l =
      [(payload, (onDataReceived (viewOf payload) w.app).1)] := hreceived
    rw [hreceived] at haccepted
    have hsmall := (UInt16.le_iff_toNat_le.mp h.capacity).trans hcapacity
    rcases onDataReceived_spec h.sound hsmall hshort with
      ⟨-, htrue, hsound, hcap, -, hcontent⟩ | ⟨-, hrefused⟩
    · rw [htrue] at haccepted
      refine ⟨happ ▸ hsound, ?_, ?_⟩
      · rw [happ, hcap]
        exact h.capacity
      · rw [happ, hthis, haccepted, hcontent, ← List.append_assoc, h.queue]
        exact congrArg _ (List.append_nil payload).symm
    · rw [hrefused] at happ haccepted
      refine ⟨happ ▸ h.sound, happ ▸ h.capacity, ?_⟩
      rw [happ, hthis, haccepted, h.queue]
      exact (List.append_nil _).symm

/-- A read takes from the queue. -/
theorem Queued.read (h : Queued capacity w given) (length : UInt16) :
    Queued capacity ((reading w length).run BufferedSocket.app w)
      (given ++ (BufferedSocket.read length w.app).1) := by
  obtain ⟨hsound, hcap, -, hcontent⟩ := @read_spec w.app length h.sound
  refine ⟨hsound, UInt16.le_trans (UInt16.le_of_eq hcap) h.capacity, ?_⟩
  show given ++ (BufferedSocket.read length w.app).1 ++
    (BufferedSocket.read length w.app).2.content = _
  rw [List.append_assoc, hcontent]
  exact h.queue

end Queue

/-- A read is an activity that can happen. -/
theorem possible_reading (w : World BufferedSocket) (packets : List (IPAddr × UInt8 × Bytes))
    (length : UInt16) : Possible BufferedSocket.app w packets (reading w length) where
  arrives := by simp [reading]
  elsewhere stack app h := by
    obtain ⟨rfl, -⟩ : w.stack = stack ∧ _ := by simpa [reading] using h
    exact ⟨rfl, rfl, rfl, [], (List.append_nil _).symm, rfl, rfl⟩
  next := UInt32.le_refl _

/-- The state of a run: that of a transfer, whose server keeps a queue. -/
structure Sound (a : App α) (capacity : UInt16) (s₀ : Transfer.Session α BufferedSocket)
    (s : Session α) : Prop where
  reaches : Reaches (Transfer.Ok a BufferedSocket.app) (Transfer.run a BufferedSocket.app) s₀
    s.hosts
  ready : Ready (limits s₀.server) s.hosts.server
  queued : Queued capacity s.hosts.server s.given

section Runs

variable {a : App α} {capacity : UInt16} {s₀ : Transfer.Session α BufferedSocket} {s : Session α}

theorem Sound.step (h : Sound a capacity s₀ s) (hcapacity : capacity.toNat ≤ 32767)
    {e : Event α} (hok : Ok a s e) : Sound a capacity s₀ (run a e s) := by
  cases e with
  | host e =>
    cases e with
    | client t =>
      have htransfer : Transfer.Ok a BufferedSocket.app s.hosts (.client t) := hok
      exact ⟨h.reaches.step htransfer, h.ready, h.queued⟩
    | server t =>
      obtain ⟨htransfer, happ, hshort⟩ := hok
      obtain ⟨e, -, hplays⟩ := h.ready.activity BufferedSocket.app t htransfer.1.elsewhere
      have hfeeds := feeds_activity (a := BufferedSocket.app) (fun _ _ => rfl) h.ready t
        (fun stack app ht => ⟨htransfer.1.elsewhere stack app ht, happ stack app ht⟩) hshort
      exact ⟨h.reaches.step htransfer, hplays.ready, h.queued.feeds hcapacity hplays.this hfeeds⟩
  | read length =>
    have hpossible := possible_reading s.hosts.server (segmentsOf s.hosts.client.stack.log) length
    have hok : Transfer.Ok a BufferedSocket.app s.hosts (.server (reading s.hosts.server length)) :=
      ⟨hpossible, rfl⟩
    obtain ⟨e, -, hplays⟩ := h.ready.activity BufferedSocket.app _ hpossible.elsewhere
    exact ⟨h.reaches.step hok, hplays.ready, h.queued.read length⟩

/-- The program on the server reads what the client's application has sent, without loss,
duplication or reordering, whatever the block refuses on the way. -/
theorem reaches_read (a : App α) (hcapacity : capacity.toNat ≤ 32767) (hstart : Starts s₀)
    {block : Option Bytes} (hinit : s₀.server.app = init capacity block)
    (hblock : ∀ b ∈ block, b.length = capacity.toNat) (hrun : Reaches (Ok a) (run a) ⟨s₀, []⟩ s) :
    (s.given ++ s.hosts.server.app.content <+: s.hosts.sent ∧
      (s.hosts.client.self.readyToSend →
        s.given ++ s.hosts.server.app.content = s.hosts.sent)) ∧
      s.hosts.server.app.content.length ≤ capacity.toNat := by
  have hqueued : Queued capacity s₀.server [] := by
    have hsound := BufferedSocket.Session.sound_start hblock
    refine ⟨hinit ▸ hsound.socket, hinit ▸ hsound.capacity, ?_⟩
    rw [acceptedOf, hstart.server.received, hinit]
    exact hsound.queue
  have hstarts : Sound a capacity s₀ ⟨s₀, []⟩ :=
    ⟨.refl, hstart.server.ready (by rw [hstart.listens]; decide), hqueued⟩
  have hall : Sound a capacity s₀ s :=
    hrun.invariant hstarts fun _ _ h hok => h.step hcapacity hok
  rw [hall.queued.queue]
  obtain ⟨l, hreach, hshows⟩ := simulates a BufferedSocket.app hstart hall.reaches
  refine ⟨hstart.delivers hreach hshows, ?_⟩
  have hfits := hall.queued.sound.fits
  exact (List.length_take_le _ _).trans
    (hfits.trans (UInt16.le_iff_toNat_le.mp hall.queued.capacity))

end Runs

/-! ### The example -/

/-- The client 10.0.0.1, and a server with a block of 64 bytes. -/
def exampleHosts : Transfer.Session Unit BufferedSocket :=
  ⟨exampleClient.world 0, ⟨0, (exampleListener.world 0).self, (exampleListener.world 0).stack,
    init 64 (some (List.replicate 64 0))⟩, false, []⟩

/-- Three bytes are sent, and two of them read. -/
def exampleReads : List (Event Unit) :=
  [.host (.client (.call exampleResolver .connect)),
    .host (.server (.segment ⟨10, 0, 0, 1⟩ exampleSyn)),
    .host (.client (.segment ⟨10, 0, 0, 2⟩ exampleAnswer)),
    .host (.server (.segment ⟨10, 0, 0, 1⟩ exampleAck)),
    .host (.client (.sendBytes [1, 2, 3])),
    .host (.server (.segment ⟨10, 0, 0, 1⟩ exampleData)),
    .read 2]

/-- The state after the first `n` of these. -/
def exampleReadAfter (n : ℕ) : Session Unit :=
  (exampleReads.take n).foldl (fun s e => run exampleApp e s) ⟨exampleHosts, []⟩

theorem starts_exampleHosts : Starts exampleHosts where
  client := starts_exampleSession.client
  closed := starts_exampleSession.closed
  noHost := starts_exampleSession.noHost
  server := ⟨⟨by decide +kernel, rfl, ⟨_, rfl, ⟨by decide +kernel, trivial⟩, rfl⟩,
    ⟨fun h => absurd h (by decide +kernel), fun h => absurd h (by decide +kernel),
      fun h => absurd h (by decide +kernel)⟩⟩, by decide +kernel, by decide +kernel,
    by decide +kernel, by decide +kernel, by decide +kernel⟩
  listens := by decide +kernel
  host := by decide +kernel
  connected := rfl
  sent := rfl

theorem reaches_exampleReadAfter :
    Reaches (Ok exampleApp) (run exampleApp) ⟨exampleHosts, []⟩ (exampleReadAfter 7) := by
  have hnone : ∀ (s : Session Unit) {sourceIP : IPAddr} {bytes : Bytes}, bytes.length ≤ 1500 →
      (∀ stack app, Activity.segment sourceIP bytes = .elsewhere stack app →
        app = s.hosts.server.app) ∧ ∀ ip b, Activity.segment sourceIP bytes =
          (.segment ip b : Activity BufferedSocket) → b.length ≤ 1500 := by
    rintro s sourceIP bytes hlength
    refine ⟨by simp, fun ip b h => ?_⟩
    cases h
    exact hlength
  have hconnect : Ok exampleApp (exampleReadAfter 0)
      (.host (.client (.call exampleResolver .connect))) :=
    ⟨possible_call (by decide +kernel), fun _ => rfl⟩
  have hsyn : Ok exampleApp (exampleReadAfter 1)
      (.host (.server (.segment ⟨10, 0, 0, 1⟩ exampleSyn))) :=
    ⟨⟨possible_segment (by decide +kernel) (by decide +kernel), rfl⟩, hnone _ (by decide)⟩
  have hsynAck : Ok exampleApp (exampleReadAfter 2)
      (.host (.client (.segment ⟨10, 0, 0, 2⟩ exampleAnswer))) :=
    ⟨possible_segment (by decide +kernel) (by decide +kernel), fun h => absurd h (by decide)⟩
  have hack : Ok exampleApp (exampleReadAfter 3)
      (.host (.server (.segment ⟨10, 0, 0, 1⟩ exampleAck))) :=
    ⟨⟨possible_segment (by decide +kernel) (by decide +kernel), rfl⟩, hnone _ (by decide)⟩
  have hsend : Ok exampleApp (exampleReadAfter 4) (.host (.client (.sendBytes [1, 2, 3]))) :=
    ⟨possible_sendBytes (by decide +kernel), fun h => absurd h (by decide)⟩
  have hdata : Ok exampleApp (exampleReadAfter 5)
      (.host (.server (.segment ⟨10, 0, 0, 1⟩ exampleData))) :=
    ⟨⟨possible_segment (by decide +kernel) (by decide +kernel), rfl⟩, hnone _ (by decide)⟩
  have hopened : Reaches (Ok exampleApp) (run exampleApp) ⟨exampleHosts, []⟩ (exampleReadAfter 4) :=
    (((Reaches.refl.step hconnect).step hsyn).step hsynAck).step hack
  have hread : Ok exampleApp (exampleReadAfter 6) (.read 2) := trivial
  exact ((hopened.step hsend).step hdata).step hread

/-- Two of the three bytes have been read, and the third is left. -/
theorem reaches_read_two :
    (exampleReadAfter 7).given = [1, 2] ∧
      (exampleReadAfter 7).hosts.server.app.content.length ≤ 64 := by
  have hinit : exampleHosts.server.app = init 64 (some (List.replicate 64 0)) := rfl
  have hrun := reaches_read exampleApp (by decide) starts_exampleHosts hinit (by simp)
    reaches_exampleReadAfter
  exact ⟨by decide +kernel, hrun.2⟩

end BufferedTransfer

end AtmegaNet
