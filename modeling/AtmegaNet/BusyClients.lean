import AtmegaNet.Client
import AtmegaNet.DNSHandler
import AtmegaNet.HTTPClient

/-!
# The clients of the library

What `Client` asks of a class is proved here of `SMTPClient` and `HTTPClient`. Neither looks at
what `connect` returns, and neither is told when its server has no address: no event is fired in
UNKNOWN_HOST, and none when a socket that is resolving a name is closed. A job that ends there
ends the client.

## Main results

* `SMTPClient.lawful`, `HTTPClient.lawful`: the events do what they must.
* `clients_free`: no job is lost in a run whose steps are all granted.
* `unknownHost_busy`: a job is lost when the resolver has no answer.
-/

open Procedure Runs

namespace AtmegaNet

open Socket

namespace Client

variable {α : Type} {c : Client α}

/-- What an event may do at any time. -/
structure Minds (c : Client α) (w w' : World α) : Prop where
  constant : c.Constant w w'
  attended : c.Attended w → c.Attended w'

instance : IsPreorder (World α) c.Minds where
  refl w := ⟨refl_of c.Constant w, id⟩
  trans _ _ _ h h' := ⟨trans_of c.Constant h.constant h'.constant, h'.attended ∘ h.attended⟩

/-- An event may do what leaves the socket to itself. -/
theorem Held.minds {w w' : World α} (h : Held w w') : c.Minds w w' :=
  ⟨⟨h.tcp, h.sendSize, by rw [h.app]; exact id⟩, h.attended⟩

/-- What has been written leaves the socket to itself. -/
theorem held_of_written {w w' : World α} (h : Written w w') : Held w w' :=
  held_of_self h.app (by rw [h.self]) h.sendSize

/-- The client changes its own fields, and begins no job. -/
theorem minds_app (w : World α) {a : α} (ha : c.busy a → c.busy w.app) :
    c.Minds w { w with app := a } :=
  ⟨⟨rfl, rfl, ha⟩, fun h => ⟨⟨h.placed.client, h.placed.named, h.placed.known⟩,
    h.attempting ∘ ha, h.closable ∘ ha⟩⟩

end Client

namespace SMTPClient

/-- What is mailed. -/
structure Mail where
  from_ : Option Bytes
  to_ : Option Bytes
  subject : Option Bytes
  body : Option Bytes
  deriving DecidableEq, Repr

/-- The class. -/
def client : Client SMTPClient where
  callbacks := callbacks
  Job := Mail
  request dns mail w := (email dns mail.from_ mail.to_ mail.subject mail.body w).2
  ready := readyToEmail
  busy a := a.status == EMAIL_SENDING
  recurses := false

/-- What a client may do in its events. -/
abbrev Minds (w w' : World SMTPClient) : Prop := client.Minds w w'

/-- An event may set the status of the mail to anything but `EMAIL_SENDING`. -/
theorem minds_status (w : World SMTPClient) {a : SMTPClient}
    (ha : a.status = w.app.status ∨ a.status ≠ EMAIL_SENDING) : Minds w { w with app := a } := by
  refine Client.minds_app w fun hbusy => ?_
  have hbusy : a.status = EMAIL_SENDING := by simpa [client] using hbusy
  have heq := ha.resolve_right (not_not_intro hbusy)
  simpa [client] using heq.symm.trans hbusy

/-- An event may give the mail up. -/
theorem minds_failed (w : World SMTPClient) : Minds w (failed w) := by
  unfold failed
  split
  · exact minds_status w (.inr (by decide : EMAIL_FAIL ≠ EMAIL_SENDING))
  · exact refl_of Minds w

/-- A failed client is not busy. -/
theorem idle_failed (w : World SMTPClient) : ¬ client.busy (failed w).app := by
  unfold failed
  split
  · exact (by decide : ¬ (EMAIL_FAIL == EMAIL_SENDING) = true)
  case isFalse hstatus => simpa [client] using hstatus

/-- The calls an event makes on the socket keep what it may not change. -/
theorem frames_inner : Frames inner client.Constant := by
  refine Client.frames_constant (fun e w => ?_) fun _ w => refl_of client.Constant w
  cases e with
  | onClosed => exact (minds_failed w).constant
  | onReset _ => exact (minds_failed w).constant
  | _ => exact refl_of client.Constant w

/-! ### What the events are made of -/

/-- A relation between the worlds before and after an event that everything stays in of which the
events of the client are made: it changes its own fields without beginning a mail, writes texts,
and calls `send` and `close`. -/
structure Covers (R : World SMTPClient → World SMTPClient → Prop) : Prop where
  app : ∀ (w : World SMTPClient) (a : SMTPClient),
    a.status = w.app.status ∨ a.status ≠ EMAIL_SENDING → R w { w with app := a }
  nullDereference : ∀ w : World SMTPClient, R w (w.observe .nullDereference)
  writeTexts : ∀ buf texts, Proc.Within R (writeTexts buf 0 texts)
  send : ∀ length, Proc.Within R (send inner length)
  sendBytes : ∀ data, Proc.Within R (sendBytes inner data)
  close : Proc.Within R (close inner)

namespace Covers

variable {R : World SMTPClient → World SMTPClient → Prop} (h : Covers R)

include h

/-- A turn of the dialogue is recorded. -/
theorem record (t : Turn) (w : World SMTPClient) : R w (record t w) := h.app w _ (.inl rfl)

/-- The dialogue moves on. -/
theorem setProtocolState (next : UInt8) (w : World SMTPClient) : R w (setProtocolState next w) :=
  h.app w _ (.inl rfl)

/-- A byte of a line is kept. -/
theorem setRecvLine (i : ℕ) (b : UInt8) (w : World SMTPClient) : R w (setRecvLine i b w) :=
  h.app w _ (.inl rfl)

variable [IsPreorder (World SMTPClient) R]

/-- A command is offered to `send`. -/
theorem offer (k : Command) {x : Proc (World SMTPClient) Unit} (hx : Proc.Within R x)
    (w : World SMTPClient) : R w (offer k x w) := by
  unfold SMTPClient.offer
  split
  · exact trans_of R (hx w) (h.record _ _)
  · exact hx w

/-- The texts of a command are written and sent. -/
theorem sendTexts (k : Command) (next : UInt8) (w : World SMTPClient) :
    R w (sendTexts k next w) := by
  unfold SMTPClient.sendTexts
  split
  · exact h.nullDereference w
  rename_i sb _
  have hwritten := h.writeTexts sb (textsOf k w) w
  rcases hrun : (Socket.writeTexts sb 0 (textsOf k w)).run w with ⟨_ | length, w₁⟩
  · rw [hrun] at hwritten
    exact hwritten
  · rw [hrun] at hwritten
    exact trans_of R hwritten (trans_of R (h.offer k (h.send length) w₁) (h.setProtocolState _ _))

/-- A literal is sent. -/
theorem sendLiteral (k : Command) (text : String) (next : UInt8) (w : World SMTPClient) :
    R w (sendLiteral k text next w) :=
  trans_of R (h.offer k (h.sendBytes _) w) (h.setProtocolState _ _)

/-- `SMTPClient::onReadyToSend` -/
theorem onReadyToSend (w : World SMTPClient) : R w (onReadyToSend w) := by
  unfold SMTPClient.onReadyToSend
  dsimp only
  split_ifs
  · exact h.sendTexts _ _ w
  · exact h.sendLiteral _ _ _ w
  · exact h.sendTexts _ _ w
  · exact h.sendTexts _ _ w
  · exact h.sendTexts _ _ w
  · exact h.sendTexts _ _ w
  · exact h.sendLiteral _ _ _ w
  · exact h.sendTexts _ _ w
  · exact trans_of R (h.offer .quit (h.sendBytes _) w) (h.close _)
  · exact refl_of R w

/-- A line is answered. -/
theorem answer (line : Bytes) (w : World SMTPClient) : R w (answer line w) := by
  unfold SMTPClient.answer
  split
  · exact refl_of R w
  split
  · dsimp only
    split
    · exact trans_of R (h.setProtocolState _ w)
        (h.app _ _ (.inr (by decide : EMAIL_SENT ≠ EMAIL_SENDING)))
    · exact h.setProtocolState _ w
  · exact h.close w

/-- `SMTPClient::onLineReceived` -/
theorem onLineReceived (line : Bytes) (w : World SMTPClient) : R w (onLineReceived line w) := by
  have hready : ∀ w : World SMTPClient,
      R w (if w.self.readyToSend then SMTPClient.onReadyToSend w else w) := by
    intro w
    split
    · exact h.onReadyToSend w
    · exact refl_of R w
  refine trans_of R (h.record (.line line) w) (trans_of R ?_
    (trans_of R (h.answer line _) (hready _)))
  split
  · exact h.close _
  · exact refl_of R _

/-- A line ends. -/
theorem endLine (lineIdx : ℕ) (w : World SMTPClient) : R w (endLine lineIdx w) := by
  unfold SMTPClient.endLine
  dsimp only
  refine trans_of R ?_ (h.setRecvLine 0 0 _)
  split
  · split
    · exact trans_of R (h.setRecvLine _ _ w) (h.onLineReceived _ _)
    · exact h.setRecvLine _ _ w
  · split
    · exact h.onLineReceived _ w
    · exact refl_of R w

/-- A byte is received. -/
theorem receiveChar (x : ℕ × World SMTPClient) (b : UInt8) : R x.2 (receiveChar x b).2 := by
  unfold SMTPClient.receiveChar
  dsimp only
  split
  · exact h.endLine _ _
  split
  · exact h.setRecvLine _ _ _
  · exact refl_of R _

/-- `SMTPClient::onDataReceived` -/
theorem onDataReceived (buf : Bytes) (w : World SMTPClient) : R w (onDataReceived buf w).2 := by
  have hall : ∀ x : ℕ × World SMTPClient, R x.2 (buf.foldl SMTPClient.receiveChar x).2 := by
    induction buf with
    | nil => exact fun x => refl_of R x.2
    | cons b buf ih => exact fun x => trans_of R (h.receiveChar x b) (ih _)
  exact hall ((cstring w.app.recvLine).length, w)

/-- `SMTPClient::onEstablished` -/
theorem onEstablished (w : World SMTPClient) : R w (onEstablished w) := by
  have hbegin : ∀ w : World SMTPClient, R w { w with app := { w.app with
      protocolState := SMTP_INIT
      recvLine := List.replicate recvLineSize 0
      dialogue := [] } } := fun w => h.app w _ (.inl rfl)
  unfold SMTPClient.onEstablished
  dsimp only
  split
  · exact trans_of R (h.close w) (hbegin _)
  · exact hbegin w

end Covers

/-! ### The events -/

/-- Everything the events are made of may be done at any time. -/
theorem covers_minds : Covers Minds where
  app w _ ha := minds_status w ha
  nullDereference w := (Client.held_observe _ w).minds
  writeTexts buf texts w := (Client.held_of_written (written_writeTexts buf 0 texts w)).minds
  send length w := ⟨frames_inner.send length w,
    fun h => Client.attended_send h length fun hrec => nomatch hrec⟩
  sendBytes data w := ⟨frames_inner.sendBytes data w,
    fun h => Client.attended_sendBytes h data fun hrec => nomatch hrec⟩
  close w := ⟨frames_inner.close w, Client.attended_close fun _ h => h⟩

/-- `SMTPClient::onClosed` begins no mail and keeps the registration. -/
theorem constant_onClosed (w : World SMTPClient) : client.Constant w (onClosed w) := by
  unfold onClosed
  dsimp only
  split
  · exact trans_of client.Constant (minds_failed w).constant (frames_inner.forceClose _)
  · exact (minds_failed w).constant

/-- A client that is closed is not closed again. -/
theorem onClosed_closed {w : World SMTPClient} (hclosed : w.self.state = CLOSED) :
    onClosed w = failed w := by
  have hstate : (failed w).self.getState = CLOSED := by
    rw [self_failed]
    unfold getState
    rw [hclosed]
    decide
  exact if_neg (not_not_intro hstate)

/-- The functions of the SMTP client do what those of a class must. -/
theorem lawful : client.Lawful where
  ready_iff w := by simp [client, readyToEmail, bne_iff_ne]
  request_eq dns mail w := by
    refine ⟨{ w.app with
      status := EMAIL_SENDING, to_ := mail.to_, from_ := mail.from_
      subject := mail.subject, body := mail.body }, ?_⟩
    unfold client email
    dsimp only
    split
    · rfl
    · rfl
  on e w := by
    cases e with
    | onEstablished => exact (covers_minds.onEstablished w).constant
    | onReadyToSend => exact (covers_minds.onReadyToSend w).constant
    | onRemoteClosed => exact (covers_minds.close w).constant
    | onLocalClosed => exact refl_of client.Constant w
    | onClosed => exact constant_onClosed w
    | onReset _ => exact (minds_failed w).constant
  onData d w := (covers_minds.onDataReceived d w).constant
  onReset _ w := ⟨self_failed w, idle_failed w⟩
  onClosed w hclient hclosed _ := by
    have heq : client.callbacks.on .onClosed w = failed w := onClosed_closed hclosed
    have hstate : (failed w).self.state = CLOSED := by rw [self_failed, hclosed]
    rw [heq]
    refine ⟨Client.attended_of_idle (Client.placed_closed ?_ hstate) (idle_failed w), hstate⟩
    rw [self_failed]
    exact hclient
  onEstablished w _ h := (covers_minds.onEstablished w).attended h
  onReadyToSend w h := (covers_minds.onReadyToSend w).attended h
  onLocalClosed _ h := h
  onRemoteClosed w h hattempting :=
    (covers_minds.close w).attended ⟨h, hattempting, fun _ hrec => nomatch hrec⟩
  onDataReceived d w h := (covers_minds.onDataReceived d w).attended h

end SMTPClient

namespace HTTPClient

/-- What is sent. -/
structure Request where
  method : Option Bytes
  path : Option Bytes
  contentType : Option Bytes
  body : Option Bytes
  deriving DecidableEq, Repr

/-- The class, on a stack with room for `depth` calls of `onClosed`. -/
def client (depth : ℕ) : Client HTTPClient where
  callbacks := callbacks depth
  Job := Request
  request dns r w := (send depth dns r.method r.path r.contentType r.body w).2
  ready := readyToSend
  busy a := a.sendInProgress
  recurses := true

section Events

variable (depth : ℕ)

/-- The end of a request begins none. -/
theorem constant_setInProgress (w : World HTTPClient) :
    (client depth).Constant w (setInProgress false w) :=
  ⟨rfl, rfl, fun hbusy => absurd hbusy Bool.false_ne_true⟩

/-- The calls an event makes on the socket keep what it may not change. -/
theorem frames_inner : Frames inner (client depth).Constant :=
  Client.frames_constant (fun _ w => refl_of (client depth).Constant w)
    fun _ w => refl_of (client depth).Constant w

/-- A client that is not sending is idle. -/
theorem idle_setInProgress (w : World HTTPClient) :
    ¬ (client depth).busy (setInProgress false w).app :=
  Bool.false_ne_true

/-- The writes of a request leave the client as it is. -/
theorem held_writeTexts (buf : Buffer) (w : World HTTPClient) :
    Client.Held w ((writeTexts buf 0 (texts w.app)).run w).2 :=
  Client.held_of_written (written_writeTexts buf 0 (texts w.app) w)

/-- `HTTPClient::onEstablished` begins no request. -/
theorem constant_onEstablished (w : World HTTPClient) :
    (client depth).Constant w (onEstablished w) := by
  unfold onEstablished
  split
  · exact (Client.held_observe _ w).minds.constant
  rename_i buf _
  split
  · exact (Client.held_observe _ w).minds.constant
  have hheld := held_writeTexts buf w
  rcases hrun : (writeTexts buf 0 (texts w.app)).run w with ⟨_ | pos, w₁⟩
  · rw [hrun] at hheld
    exact hheld.minds.constant
  · rw [hrun] at hheld
    exact trans_of (client depth).Constant hheld.minds.constant ((frames_inner depth).send pos w₁)

/-- The request is sent when the connection is established, and only then. -/
theorem attended_onEstablished {w : World HTTPClient} (hstate : w.self.state = ESTABLISHED)
    (h : (client depth).Attended w) : (client depth).Attended (onEstablished w) := by
  unfold onEstablished
  split
  · exact (Client.held_observe _ w).attended h
  rename_i buf _
  split
  · exact (Client.held_observe _ w).attended h
  have hheld := held_writeTexts buf w
  rcases hrun : (writeTexts buf 0 (texts w.app)).run w with ⟨_ | pos, w₁⟩
  · rw [hrun] at hheld
    exact hheld.attended h
  · rw [hrun] at hheld
    refine Client.attended_send (hheld.attended h) pos fun _ => ?_
    rw [hheld.state, hstate]
    decide

/-- `HTTPClient::onRemoteClosed` begins no request. -/
theorem constant_onRemoteClosed (w : World HTTPClient) :
    (client depth).Constant w (onRemoteClosed w) :=
  trans_of (client depth).Constant (constant_setInProgress depth w) ((frames_inner depth).close _)

/-- `HTTPClient::onClosed` begins no request, however deep it goes. -/
theorem constant_onClosed (d : ℕ) (w : World HTTPClient) :
    (client depth).Constant w (onClosed d w) := by
  induction d generalizing w with
  | zero => exact refl_of (client depth).Constant w
  | succ d ih =>
      have hframes : Frames (events (onClosed d)) (client depth).Constant := by
        refine Client.frames_constant (fun e w => ?_) fun _ w => refl_of (client depth).Constant w
        cases e with
        | onEstablished => exact constant_onEstablished depth w
        | onReadyToSend => exact refl_of (client depth).Constant w
        | onRemoteClosed => exact constant_onRemoteClosed depth w
        | onLocalClosed => exact refl_of (client depth).Constant w
        | onClosed => exact ih w
        | onReset _ => exact constant_setInProgress depth w
      rw [onClosed]
      refine trans_of (client depth).Constant ?_ (constant_setInProgress depth _)
      split
      · exact hframes.forceClose w
      · exact refl_of (client depth).Constant w

end Events

/-- A client that is closed ends its request, if a RST can be sent. -/
theorem onClosed_closed (depth : ℕ) {w : World HTTPClient} (hclient : w.self.listenPort = 0)
    (hclosed : w.self.state = CLOSED) (hcan : w.app.sendInProgress → CanReset w) :
    let w' := onClosed (depth + 1) w
    w'.self.listenPort = 0 ∧ w'.self.state = CLOSED ∧ w'.app.sendInProgress = false := by
  by_cases hbusy : w.app.sendInProgress
  · obtain ⟨-, -, -, happ⟩ :=
      exec_reset_events (onClosed depth) w.self.localSeq w.self.remoteSeq w
    rw [if_pos (hcan hbusy)] at happ
    have hforced := forceClose_events (onClosed depth) (Client.not_isHost hclient) hclosed
    dsimp only at hforced ⊢
    generalize (reset (events (onClosed depth)) w.self.localSeq w.self.remoteSeq).exec w = w₁ at *
    have hidle : w₁.app.sendInProgress = false := congrArg HTTPClient.sendInProgress happ
    rw [onClosed_idle (by exact hidle)] at hforced
    rw [onClosed, if_pos hbusy, hforced]
    exact ⟨hclient, rfl, rfl⟩
  · have hidle : w.app.sendInProgress = false := by simpa using hbusy
    dsimp only
    rw [onClosed_idle hidle]
    exact ⟨hclient, hclosed, hidle⟩

/-- The functions of the HTTP client do what those of a class must, if `onClosed` may be entered. -/
theorem lawful (depth : ℕ) : (client (depth + 1)).Lawful where
  ready_iff w := by simp [client, readyToSend]
  request_eq dns r w := by
    refine ⟨⟨r.path, r.method, r.body, r.contentType, true⟩, ?_⟩
    unfold client send
    dsimp only
    split
    · rfl
    · rfl
  on e w := by
    cases e with
    | onEstablished => exact constant_onEstablished _ w
    | onReadyToSend => exact refl_of (client (depth + 1)).Constant w
    | onRemoteClosed => exact constant_onRemoteClosed _ w
    | onLocalClosed => exact refl_of (client (depth + 1)).Constant w
    | onClosed => exact constant_onClosed _ _ w
    | onReset _ => exact constant_setInProgress _ w
  onData _ w := refl_of (client (depth + 1)).Constant w
  onReset _ w := ⟨rfl, idle_setInProgress (depth + 1) w⟩
  onClosed w hclient hclosed hclosable := by
    have hcan : w.app.sendInProgress → CanReset w := by
      intro hbusy
      refine (hclosable hbusy rfl).resolve_left ?_
      rw [hclosed]
      decide
    obtain ⟨hport, hstate, hidle⟩ := onClosed_closed depth hclient hclosed hcan
    refine ⟨Client.attended_of_idle (Client.placed_closed hport hstate) ?_, hstate⟩
    exact fun hbusy => Bool.false_ne_true (hidle.symm.trans hbusy)
  onEstablished w hstate h := attended_onEstablished _ hstate h
  onReadyToSend _ h := h
  onLocalClosed _ h := h
  onRemoteClosed w h _ := by
    have hplaced : Client.Placed (setInProgress false w) := h.of_self rfl
    exact Client.attended_close (fun _ h => h)
      (Client.attended_of_idle hplaced (idle_setInProgress (depth + 1) w))
  onDataReceived _ _ h := h

end HTTPClient

/-! ### Every run of every client -/

/-- In every run whose steps are all granted, the clients of the library are never busy without
a connection or a lookup, and accept a new job whenever they have neither. -/
theorem clients_free (depth : ℕ) :
    (∀ w w' : World SMTPClient, SMTPClient.client.Fresh w →
      Reaches SMTPClient.client.Granted SMTPClient.client.run w w' → SMTPClient.client.Free w') ∧
    ∀ w w' : World HTTPClient, (HTTPClient.client (depth + 1)).Fresh w →
      Reaches (HTTPClient.client (depth + 1)).Granted (HTTPClient.client (depth + 1)).run w w' →
        (HTTPClient.client (depth + 1)).Free w' := by
  constructor
  · intro w w' hfresh hreach
    exact Client.reaches_free SMTPClient.lawful hfresh hreach
  · intro w w' hfresh hreach
    exact Client.reaches_free (HTTPClient.lawful depth) hfresh hreach

/-- A client on 10.0.0.1 that has just been constructed for the server `a` and registered. -/
def exampleNamed {α : Type} (app : α) : World α where
  this := 0
  self := { (exampleClient.world 0).self with remoteDomain := some (ascii "a") }
  stack := exampleClient.stack
  app := app

/-- A mail client without credentials. -/
def exampleMailer : World SMTPClient :=
  exampleNamed (SMTPClient.new some none none ⟨none, none, 0, 0, none, none, none, none, [], []⟩)

/-- A client for requests. -/
def exampleRequester : World HTTPClient :=
  exampleNamed (HTTPClient.new ⟨none, none, none, none, false⟩)

/-- A mail. -/
def exampleJob : SMTPClient.Mail :=
  ⟨some (ascii "f"), some (ascii "t"), some (ascii "s"), some (ascii "b")⟩

/-- A request. -/
def exampleGet : HTTPClient.Request := ⟨some (ascii "GET"), some (ascii "/"), none, none⟩

/-- A `DNSHandler::resolve` that has the address. -/
def exampleKnown : Resolver := fun _ h => ((some ⟨10, 0, 0, 2⟩, NO_ERROR), h)

/-- A `DNSHandler::resolve` whose server has not answered in time. -/
def exampleSilent : Resolver := fun _ h => ((none, DNSHandler.NO_RESPONSE), h)

/-- A mail and a request for a server that has an address. -/
theorem clients_free_known :
    SMTPClient.client.Free (SMTPClient.client.run (.request exampleKnown exampleJob)
      exampleMailer) ∧
    (HTTPClient.client 2).Free ((HTTPClient.client 2).run (.request exampleKnown exampleGet)
      exampleRequester) := by
  constructor
  · refine (clients_free 1).1 exampleMailer _ ⟨rfl, rfl, by decide⟩
      (.step .refl ⟨fun _ _ => rfl, ?_⟩)
    intro _
    exact ⟨rfl, fun _ _ => ⟨rfl, by decide⟩⟩
  · refine (clients_free 1).2 exampleRequester _ ⟨rfl, rfl, by decide⟩
      (.step .refl ⟨fun _ _ => rfl, ?_⟩)
    intro _
    exact ⟨rfl, fun _ _ => ⟨rfl, by decide⟩⟩

/-- The mail client when the server of its DNS handler has not answered. -/
def exampleUnmailed : World SMTPClient :=
  SMTPClient.client.run (.tick exampleSilent)
    (SMTPClient.client.run (.request exampleResolver exampleJob) exampleMailer)

/-- The client for requests when the server of its DNS handler has not answered. -/
def exampleUnsent : World HTTPClient :=
  (HTTPClient.client 2).run (.tick exampleSilent)
    ((HTTPClient.client 2).run (.request exampleResolver exampleGet) exampleRequester)

/-- A client whose DNS handler gets no response is in UNKNOWN_HOST, is busy and accepts no job
any more. -/
theorem unknownHost_busy :
    (SMTPClient.client.Fresh exampleMailer ∧
      Reaches SMTPClient.client.Possible SMTPClient.client.run exampleMailer exampleUnmailed ∧
      exampleUnmailed.app.status = SMTPClient.EMAIL_SENDING ∧
      exampleUnmailed.self.state = Socket.UNKNOWN_HOST ∧
      SMTPClient.readyToEmail exampleUnmailed = false ∧
      ¬ SMTPClient.client.Free exampleUnmailed) ∧
    (HTTPClient.client 2).Fresh exampleRequester ∧
      Reaches (HTTPClient.client 2).Possible (HTTPClient.client 2).run exampleRequester
        exampleUnsent ∧
      exampleUnsent.app.sendInProgress ∧
      exampleUnsent.self.state = Socket.UNKNOWN_HOST ∧
      HTTPClient.readyToSend exampleUnsent = false ∧
      ¬ (HTTPClient.client 2).Free exampleUnsent := by
  have hmail : exampleUnmailed.app.status = SMTPClient.EMAIL_SENDING ∧
      exampleUnmailed.self.state = Socket.UNKNOWN_HOST ∧
        SMTPClient.readyToEmail exampleUnmailed = false := by decide
  have hsend : exampleUnsent.app.sendInProgress ∧
      exampleUnsent.self.state = Socket.UNKNOWN_HOST ∧
        HTTPClient.readyToSend exampleUnsent = false := by decide
  refine ⟨⟨⟨rfl, rfl, by decide⟩, ?_, hmail.1, hmail.2.1, hmail.2.2, fun h => ?_⟩,
    ⟨rfl, rfl, by decide⟩, ?_, hsend.1, hsend.2.1, hsend.2.2, fun h => ?_⟩
  · exact .step (.step .refl fun _ _ => rfl) fun _ _ => rfl
  · exact (h.busy (beq_iff_eq.mpr hmail.1)).2 hmail.2.1
  · exact .step (.step .refl fun _ _ => rfl) fun _ _ => rfl
  · exact (h.busy hsend.1).2 hsend.2.1

end AtmegaNet
