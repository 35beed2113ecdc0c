import Mathlib.Data.UInt
import AtmegaNet.NotEstablished
import AtmegaNet.TCPHandler
import AtmegaNet.Texts

/-!
# The mail client

`SMTPClient` is a socket that sends one mail. The lines of the server and the acknowledgements
drive a state machine: a line that answers the last command leads from a waiting state to a
ready one, and a call of `onReadyToSend` in a ready state sends the next command.

The texts `strlen` is called on are byte strings here, `none` for a null pointer. A function
that would dereference one records this and ends there.

## Main results

* `app_close`, `app_send`, `app_sendBytes`: the calls on the socket leave the client as it is.
* `lines_onLineReceived`, `recvLine_onLineReceived`: what a line leaves of the two.
-/

open Procedure

namespace AtmegaNet

/-- The bytes of a string literal. -/
def ascii (s : String) : Bytes := s.toList.map fun c => UInt8.ofNat c.toNat

/-- The commands of a session. -/
inductive Command
  | helo
  | authLogin
  | user
  | password
  | mailFrom
  | rcptTo
  | data
  | message
  | quit
  deriving DecidableEq, Repr

/-- What happens in the dialogue with a server: a line is received, or a command is accepted
by `send`. -/
inductive Turn
  | line (line : Bytes)
  | sent (command : Command)
  deriving DecidableEq, Repr

/-- The fields of `SMTPClient`. `user` and `pass` are encoded. `dialogue` is no field of the
class: it records the turns since the connection was established. -/
structure SMTPClient where
  user : Option Bytes
  pass : Option Bytes
  status : UInt8
  protocolState : UInt8
  to_ : Option Bytes
  from_ : Option Bytes
  subject : Option Bytes
  body : Option Bytes
  recvLine : Bytes
  dialogue : List Turn
  deriving DecidableEq, Repr

namespace SMTPClient

open Socket

/-! ### Constants -/

def EMAIL_INIT : UInt8 := 0
def EMAIL_SENDING : UInt8 := 1
def EMAIL_SENT : UInt8 := 2
def EMAIL_FAIL : UInt8 := 3

def SMTP_INIT : UInt8 := 0
def SMTP_SERVER_READY : UInt8 := 1
def SMTP_CLIENT_GREETED : UInt8 := 2
def SMTP_READY_FOR_AUTH : UInt8 := 3
def SMTP_CLIENT_SET_AUTH : UInt8 := 4
def SMTP_READY_FOR_USER : UInt8 := 5
def SMTP_CLIENT_SET_USER : UInt8 := 6
def SMTP_READY_FOR_PASS : UInt8 := 7
def SMTP_CLIENT_SET_PASS : UInt8 := 8
def SMTP_READY_FOR_FROM : UInt8 := 9
def SMTP_CLIENT_SET_FROM : UInt8 := 10
def SMTP_READY_FOR_RCPT : UInt8 := 11
def SMTP_CLIENT_SET_RCPT : UInt8 := 12
def SMTP_READY_FOR_DATA : UInt8 := 13
def SMTP_CLIENT_SET_DATA : UInt8 := 14
def SMTP_READY_FOR_EMAIL : UInt8 := 15
def SMTP_CLIENT_SET_EMAIL : UInt8 := 16
def SMTP_READY_FOR_QUIT : UInt8 := 17

/-- `sizeof(recvLine)` -/
def recvLineSize : ℕ := 40

/-! ### Reading a line -/

/-- The loop of `checkCode`. -/
def readNumber : Bytes → UInt16 → Option UInt16
  | [], number => some number
  | c :: rest, number =>
      if c < 48 ∨ c > 57 then none else readNumber rest (number * 10 + (c - 48).toUInt16)

/-- `SMTPClient::checkCode` -/
def checkCode (line : Bytes) (code : UInt16) : Bool :=
  line.contains 0x20 && readNumber (line.takeWhile (· ≠ 0x20)) 0 == some code

/-- `SMTPClient::checkMessage`: the text between the first two spaces. -/
def checkMessage (line message : Bytes) : Bool :=
  line.contains 0x20 &&
    ((line.dropWhile (· ≠ 0x20)).drop 1).takeWhile (· ≠ 0x20) == message

/-! ### The calls on the socket -/

/-- `SMTPClient::onReset`; `onClosed` begins in the same way. -/
def failed (w : World SMTPClient) : World SMTPClient :=
  if w.app.status = EMAIL_SENDING then { w with app := { w.app with status := EMAIL_FAIL } }
  else w

/-- A failure is one of the mail, not of the socket. -/
theorem self_failed (w : World SMTPClient) : (failed w).self = w.self := by
  unfold failed
  split
  · rfl
  · rfl

/-- The virtual functions as the calls on the socket find them that a client makes in its own
events. Only `forceClose` fires events that the class overrides; the socket is closed then, so
that the inner `onClosed` does not call `forceClose` again. -/
def inner : Callbacks SMTPClient where
  on e w := match e with
    | .onClosed | .onReset _ => failed w
    | _ => w
  onDataReceived _ w := (true, w)
  getApplicationWindowSize _ size := size

/-- Record a turn of the dialogue. -/
def record (t : Turn) (w : World SMTPClient) : World SMTPClient :=
  { w with app := { w.app with dialogue := w.app.dialogue ++ [t] } }

/-- Go to a state of the protocol. -/
def setProtocolState (protocolState : UInt8) (w : World SMTPClient) : World SMTPClient :=
  { w with app := { w.app with protocolState := protocolState } }

/-- A call of `send` with a command. What it returns is not looked at. -/
def offer (c : Command) (x : Proc (World SMTPClient) Unit) (w : World SMTPClient) :
    World SMTPClient :=
  if x.succeeds w then record (.sent c) (x.exec w) else x.exec w

/-! ### Sending a command -/

/-- The texts of the commands that are written into the send data buffer. -/
def textsOf (c : Command) (w : World SMTPClient) : List (Option Bytes) :=
  match c with
  | .helo => [some (ascii "HELO "), w.self.remoteDomain, some (ascii "\n")]
  | .user => [w.app.user, some (ascii "\n")]
  | .password => [w.app.pass, some (ascii "\n")]
  | .mailFrom => [some (ascii "MAIL FROM:"), w.app.from_, some (ascii "\n")]
  | .rcptTo => [some (ascii "RCPT TO:"), w.app.to_, some (ascii "\n")]
  | .message =>
      [some (ascii "From: "), w.app.from_, some (ascii "\r\n")] ++
        (if w.app.subject.isSome then
          [some (ascii "Subject: "), w.app.subject, some (ascii "\r\n")]
        else []) ++
        [some (ascii "\r\n"), w.app.body, some (ascii "\r\n"), some (ascii ".\r\n")]
  | _ => []

/-- A case of `onReadyToSend` that writes its command into the send data buffer. -/
def sendTexts (c : Command) (next : UInt8) (w : World SMTPClient) : World SMTPClient :=
  match w.self.getSendDataBuffer with
  | none => w.observe .nullDereference
  | some sb =>
      match (writeTexts sb 0 (textsOf c w)).run w with
      | (none, w) => w
      | (some length, w) => setProtocolState next (offer c (send inner length) w)

/-- A case of `onReadyToSend` that hands its command to `send(const char*)`. -/
def sendLiteral (c : Command) (text : String) (next : UInt8) (w : World SMTPClient) :
    World SMTPClient :=
  setProtocolState next (offer c (sendBytes inner (ascii text)) w)

/-- `SMTPClient::onReadyToSend` -/
def onReadyToSend (w : World SMTPClient) : World SMTPClient :=
  let state := w.app.protocolState
  if state = SMTP_SERVER_READY then sendTexts .helo SMTP_CLIENT_GREETED w
  else if state = SMTP_READY_FOR_AUTH then
    sendLiteral .authLogin "auth login\n" SMTP_CLIENT_SET_AUTH w
  else if state = SMTP_READY_FOR_USER then sendTexts .user SMTP_CLIENT_SET_USER w
  else if state = SMTP_READY_FOR_PASS then sendTexts .password SMTP_CLIENT_SET_PASS w
  else if state = SMTP_READY_FOR_FROM then sendTexts .mailFrom SMTP_CLIENT_SET_FROM w
  else if state = SMTP_READY_FOR_RCPT then sendTexts .rcptTo SMTP_CLIENT_SET_RCPT w
  else if state = SMTP_READY_FOR_DATA then sendLiteral .data "DATA\n" SMTP_CLIENT_SET_DATA w
  else if state = SMTP_READY_FOR_EMAIL then sendTexts .message SMTP_CLIENT_SET_EMAIL w
  else if state = SMTP_READY_FOR_QUIT then
    (close inner).exec (offer .quit (sendBytes inner (ascii "QUIT\r\n")) w)
  else w

/-! ### Receiving -/

/-- The cases of the `switch` of `onLineReceived`: the state, the reply it waits for, and the
state that follows. -/
def replies : List (UInt8 × (Bytes → Bool) × UInt8) :=
  [(SMTP_INIT, fun line => checkCode line 220, SMTP_SERVER_READY),
    (SMTP_CLIENT_GREETED, fun line => checkCode line 250, SMTP_READY_FOR_AUTH),
    (SMTP_CLIENT_SET_AUTH, fun line =>
      checkCode line 334 && checkMessage line (ascii "VXNlcm5hbWU6"), SMTP_READY_FOR_USER),
    (SMTP_CLIENT_SET_USER, fun line =>
      checkCode line 334 && checkMessage line (ascii "UGFzc3dvcmQ6"), SMTP_READY_FOR_PASS),
    (SMTP_CLIENT_SET_PASS, fun line => checkCode line 235, SMTP_READY_FOR_FROM),
    (SMTP_CLIENT_SET_FROM, fun line => checkCode line 250, SMTP_READY_FOR_RCPT),
    (SMTP_CLIENT_SET_RCPT, fun line => checkCode line 250, SMTP_READY_FOR_DATA),
    (SMTP_CLIENT_SET_DATA, fun line => checkCode line 354, SMTP_READY_FOR_EMAIL),
    (SMTP_CLIENT_SET_EMAIL, fun line => checkCode line 250, SMTP_READY_FOR_QUIT)]

/-- The `switch` of `onLineReceived`. -/
def answer (line : Bytes) (w : World SMTPClient) : World SMTPClient :=
  match replies.find? fun reply => reply.1 = w.app.protocolState with
  | none => w
  | some (_, expected, next) =>
      if expected line then
        let w := setProtocolState next w
        if next = SMTP_READY_FOR_QUIT then { w with app := { w.app with status := EMAIL_SENT } }
        else w
      else (close inner).exec w

/-- `SMTPClient::onLineReceived` -/
def onLineReceived (line : Bytes) (w : World SMTPClient) : World SMTPClient :=
  let w := record (.line line) w
  let w := if checkCode line 500 then (close inner).exec w else w
  let w := answer line w
  if w.self.readyToSend then onReadyToSend w else w

/-- Store a byte in `recvLine`. -/
def setRecvLine (i : ℕ) (c : UInt8) (w : World SMTPClient) : World SMTPClient :=
  { w with app := { w.app with recvLine := w.app.recvLine.set i c } }

/-- The string in a character array: `strlen` is its length. -/
def cstring (a : Bytes) : Bytes := a.takeWhile (· ≠ 0)

/-- `c == '\n' || c == '\r'` -/
def isNewline (c : UInt8) : Bool := c == 10 || c == 13

/-- The line that ends with a newline at `lineIdx`. -/
def endLine (lineIdx : ℕ) (w : World SMTPClient) : World SMTPClient :=
  let w := if lineIdx < recvLineSize - 1 then setRecvLine lineIdx 0 w else w
  let line := cstring w.app.recvLine
  let w := if line.length > 0 then onLineReceived line w else w
  setRecvLine 0 0 w

/-- The body of the loop of `onDataReceived`. -/
def receiveChar (x : ℕ × World SMTPClient) (c : UInt8) : ℕ × World SMTPClient :=
  let (lineIdx, w) := x
  if isNewline c then (0, endLine lineIdx w)
  else if lineIdx < recvLineSize - 1 then (lineIdx + 1, setRecvLine lineIdx c w)
  else (lineIdx, w)

/-- `SMTPClient::onDataReceived` -/
def onDataReceived (buf : Bytes) (w : World SMTPClient) : Bool × World SMTPClient :=
  (true, (buf.foldl receiveChar ((cstring w.app.recvLine).length, w)).2)

/-! ### The other events -/

/-- `SMTPClient::onEstablished`, which begins a session. -/
def onEstablished (w : World SMTPClient) : World SMTPClient :=
  let w :=
    if w.app.to_.isNone ∨ w.app.from_.isNone ∨ (w.app.subject.isNone ∧ w.app.body.isNone) then
      (close inner).exec w
    else w
  { w with app := { w.app with
    protocolState := SMTP_INIT
    recvLine := List.replicate recvLineSize 0
    dialogue := [] } }

/-- `SMTPClient::onRemoteClosed` -/
def onRemoteClosed (w : World SMTPClient) : World SMTPClient := (close inner).exec w

/-- `SMTPClient::onClosed` -/
def onClosed (w : World SMTPClient) : World SMTPClient :=
  let w := failed w
  if w.self.getState ≠ CLOSED then forceClose inner w else w

/-- The virtual functions of the class. -/
def callbacks : Callbacks SMTPClient where
  on e w := match e with
    | .onEstablished => onEstablished w
    | .onReadyToSend => onReadyToSend w
    | .onRemoteClosed => onRemoteClosed w
    | .onLocalClosed => w
    | .onClosed => onClosed w
    | .onReset _ => failed w
  onDataReceived := onDataReceived
  getApplicationWindowSize _ size := size

/-! ### The public interface -/

/-- The constructor, behind that of `Socket`. `encode` is `Base64::Encode`, which returns null
without memory for its result; `c` is the memory the constructor has found, where `pass` stays
if `user` cannot be encoded. -/
def new (encode : Bytes → Option Bytes) (user pass : Option Bytes) (c : SMTPClient) :
    SMTPClient :=
  let c := match user, pass with
    | some user, some pass =>
        match encode user with
        | none => { c with user := none }
        | some user =>
            match encode pass with
            | none => { c with user := none, pass := none }
            | some pass => { c with user := some user, pass := some pass }
    | _, _ => { c with user := none, pass := none }
  { c with
    to_ := none
    from_ := none
    subject := none
    body := none
    status := EMAIL_INIT }

/-- `SMTPClient::readyToEmail` -/
def readyToEmail (w : World SMTPClient) : Bool :=
  w.app.status != EMAIL_SENDING && w.self.getState == CLOSED

/-- `SMTPClient::email` -/
def email (dns : Resolver) (from_ to_ subject body : Option Bytes) (w : World SMTPClient) :
    Bool × World SMTPClient :=
  if !readyToEmail w then (false, w)
  else
    (true, (connect callbacks dns).exec { w with app := { w.app with
      status := EMAIL_SENDING, to_ := to_, from_ := from_, subject := subject, body := body } })

/-- `SMTPClient::getStatus` -/
def getStatus (w : World SMTPClient) : UInt8 := w.app.status

end SMTPClient

/-! ### What the calls on a socket leave -/

/-- Between two stacks the size of the send buffer has not changed. -/
structure Stack.SameSize (h h' : Stack) : Prop where
  sendSize : h'.sendSize = h.sendSize

instance : IsPreorder Stack Stack.SameSize where
  refl _ := ⟨rfl⟩
  trans _ _ _ h h' := ⟨h'.sendSize.trans h.sendSize⟩

/-- The memory has no say in the size of a frame. -/
theorem Stack.sameSize_onMem {β : Type} (x : Proc Memory β) :
    Proc.Within SameSize (onMem x) :=
  fun _ => ⟨rfl⟩

/-- Sending a frame keeps the size of the send buffer. -/
theorem EtherControl.sameSize_sendFrame (destinationMAC : MACAddr)
    (protocol payloadLength : UInt16) :
    Proc.Within Stack.SameSize (sendFrame destinationMAC protocol payloadLength) := by
  refine Proc.within_read_bind fun sendBuffer => Proc.within_read_bind fun macAddr => ?_
  refine Proc.Within.ite Proc.within_fail ?_
  refine (Stack.sameSize_onMem _).bind fun _ => (Stack.sameSize_onMem _).bind fun _ =>
    (Stack.sameSize_onMem _).bind fun _ => Proc.within_read_bind fun frame => ?_
  exact Proc.within_modify fun _ => ⟨rfl⟩

/-- Sending a packet keeps the size of the send buffer. -/
theorem IPHandler.sameSize_sendPacket (destinationIP : IPAddr) (protocol : UInt8)
    (packetPayloadLength : UInt16) :
    Proc.Within Stack.SameSize (sendPacket destinationIP protocol packetPayloadLength) := by
  have hwrite : ∀ x : Proc Memory Unit, Proc.Within Stack.SameSize (Proc.attempt (Stack.onMem x)) :=
    fun x => (Stack.sameSize_onMem x).attempt
  refine Proc.within_read_bind fun p => Proc.Within.ite Proc.within_fail ?_
  refine (Proc.within_query _).bind fun macAddr => Proc.within_read_bind fun ipAddress => ?_
  refine (hwrite _).bind fun _ => (hwrite _).bind fun _ => (hwrite _).bind fun _ =>
    (hwrite _).bind fun _ => (hwrite _).bind fun _ => (hwrite _).bind fun _ =>
    (hwrite _).bind fun _ => (hwrite _).bind fun _ => (hwrite _).bind fun _ => ?_
  refine Proc.within_read_bind fun checksum => (hwrite _).bind fun _ =>
    Proc.within_read_bind fun payload => ?_
  exact (EtherControl.sameSize_sendFrame _ _ _).bind fun _ => Proc.within_modify fun _ => ⟨rfl⟩

/-- Asking for a MAC address keeps the size of the send buffer. -/
theorem ARPHandler.sameSize_requestMACAddress (remoteIP : IPAddr) :
    Proc.Within Stack.SameSize (requestMACAddress remoteIP) :=
  fun h => ⟨by rw [(requestMACAddress_scratch remoteIP h).rest]⟩

namespace Socket

variable {α : Type}

/-- Between two worlds the socket has kept its handler, and the send buffer its size. -/
structure KeepsRoom (w w' : World α) : Prop where
  tcp : w'.self.tcp = w.self.tcp
  sendSize : w'.stack.sendSize = w.stack.sendSize

instance : IsPreorder (World α) KeepsRoom where
  refl _ := ⟨rfl, rfl⟩
  trans _ _ _ h h' := ⟨h'.tcp.trans h.tcp, h'.sendSize.trans h.sendSize⟩

/-- The room for a segment depends on the size of the send buffer only. -/
theorem KeepsRoom.room {w w' : World α} (h : KeepsRoom w w') : w'.stack.room = w.stack.room := by
  rw [Stack.room, Stack.room, h.sendSize]

/-- What keeps the size of the send buffer keeps the room. -/
theorem keepsRoom_onStack {β : Type} {x : Proc Stack β} (hx : Proc.Within Stack.SameSize x) :
    Proc.Within KeepsRoom (World.onStack (α := α) x) :=
  hx.zoom fun _ _ h => ⟨rfl, h.sendSize⟩

/-- Writing to the memory keeps the room. -/
theorem keepsRoom_onMem {β : Type} (x : Proc Memory β) :
    Proc.Within KeepsRoom (World.onMem (α := α) x) :=
  keepsRoom_onStack (Stack.sameSize_onMem x)

/-- Writing the header of a segment keeps the room. -/
theorem keepsRoom_writeControl (buf : Buffer) (control : UInt8) (length : UInt16) :
    Proc.Within KeepsRoom (writeControl (α := α) buf control length) := by
  have hmem := fun {β : Type} => keepsRoom_onMem (α := α) (β := β)
  refine Proc.Within.ite ?_ (Proc.Within.ite ?_ ?_)
  · refine (hmem _).bind fun _ => (hmem _).bind fun _ => (hmem _).bind fun _ =>
      Proc.within_read_bind fun mss => (hmem _).bind fun _ => ?_
    exact Proc.Within.bind (fun w => ⟨rfl, rfl⟩) fun _ => Proc.within_pure _
  · exact Proc.Within.bind (fun w => ⟨rfl, rfl⟩) fun _ => Proc.within_pure _
  · refine (hmem _).bind fun _ => Proc.Within.bind (fun w => ?_) fun _ => Proc.within_pure _
    rw [Proc.run_modify]
    split
    · exact ⟨rfl, rfl⟩
    · exact ⟨rfl, rfl⟩

/-- Sending a segment keeps the room, whether or not it succeeds. -/
theorem keepsRoom_sendSegment (cb : Callbacks α) (control : UInt8) (length : UInt16)
    (seq ack : UInt32) : Proc.Within KeepsRoom (sendSegment cb control length seq ack) := by
  have hmem := fun {β : Type} => keepsRoom_onMem (α := α) (β := β)
  refine Proc.within_read_bind fun self => Proc.Within.ite ?_ ?_
  · exact Proc.Within.bind (fun w => ⟨rfl, rfl⟩) fun _ => Proc.within_fail
  refine Proc.within_read_bind fun buf => (hmem _).bind fun _ => (hmem _).bind fun _ =>
    (hmem _).bind fun _ => (hmem _).bind fun _ => ?_
  refine (keepsRoom_writeControl _ _ _).bind fun optionLength => (hmem _).bind fun _ =>
    Proc.within_read_bind fun window => (hmem _).bind fun _ => (hmem _).bind fun _ => ?_
  refine Proc.within_read_bind fun remoteIP => Proc.within_read_bind fun route => ?_
  refine Proc.Within.ite ?_ ?_
  · exact (keepsRoom_onStack (ARPHandler.sameSize_requestMACAddress _)).attempt
  · exact Proc.within_read_bind fun _ => Proc.within_read_bind fun _ => (hmem _).bind fun _ =>
      keepsRoom_onStack (IPHandler.sameSize_sendPacket _ _ _)

/-- A segment that was sent had a handler, and room for its header. -/
theorem sendSegment_some {cb : Callbacks α} {control : UInt8} {length : UInt16}
    {seq ack : UInt32} {w w' : World α}
    (h : (sendSegment cb control length seq ack).run w = (some (), w')) :
    w.self.tcp.isSome ∧ 20 ≤ w.stack.room := by
  constructor
  · by_contra hnone
    have hnone : w.self.tcp.isNone = true := by simpa using hnone
    unfold sendSegment at h
    rw [Proc.run_read_bind, if_pos hnone] at h
    exact absurd (congrArg Prod.fst h) (by simp)
  · by_contra hroom
    have hfails := sendSegment_fails cb control length seq ack (w := w) (by omega)
    rw [h] at hfails
    exact absurd hfails (by simp)

/-- Between two worlds the application has not changed, nor what `getState` says. -/
structure Steady (w w' : World α) : Prop where
  app : w'.app = w.app
  getState : w'.self.getState = w.self.getState

instance : IsPreorder (World α) Steady where
  refl _ := ⟨rfl, rfl⟩
  trans _ _ _ h h' := ⟨h'.app.trans h.app, h'.getState.trans h.getState⟩

/-- What happens to the host leaves the socket and the application alone. -/
theorem steady_onStack {β : Type} (x : Proc Stack β) :
    Proc.Within Steady (World.onStack (α := α) x) :=
  fun _ => ⟨rfl, rfl⟩

/-- Sending a segment moves the counters of the socket only. -/
theorem steady_sendSegment (cb : Callbacks α) (control : UInt8) (length : UInt16)
    (seq ack : UInt32) : Proc.Within Steady (sendSegment cb control length seq ack) := by
  have hawaiting : ∀ state : UInt8, (state ||| AWAITING_ACK) &&& 0x0F = state &&& 0x0F :=
    forall_uint8 (by decide +kernel)
  intro w
  obtain ⟨-, happ, hself⟩ := sendSegment_advances cb control length seq ack w
  refine ⟨happ, ?_⟩
  rcases hself with hself | hself
  · rw [hself]
  · rw [hself, advance]
    split_ifs
    · rfl
    · exact hawaiting _
    · rfl

/-- So does sending data. -/
theorem steady_send (cb : Callbacks α) (length : UInt16) : Proc.Within Steady (send cb length) := by
  refine Proc.within_read_bind fun self => ?_
  refine .ite (Proc.within_pure _) (.ite Proc.within_fail (.ite Proc.within_fail ?_))
  refine Proc.Within.bind (fun w => ⟨rfl, rfl⟩) fun _ => (Proc.within_query _).bind fun sb =>
    (Proc.within_query _).bind fun stash => (steady_onStack _).bind fun _ => ?_
  exact (steady_sendSegment cb _ _ _ _).bind fun _ w => ⟨rfl, rfl⟩

/-- So does sending bytes. -/
theorem steady_sendBytes (cb : Callbacks α) (data : Bytes) :
    Proc.Within Steady (sendBytes cb data) :=
  (Proc.within_query _).bind fun _ => (steady_onStack _).bind fun _ => steady_send cb _

/-- Data that `send` took was sent in ESTABLISHED, and behind it is room for a header. -/
theorem send_some {cb : Callbacks α} {length : UInt16} {w w' : World α} (hlength : length ≠ 0)
    (h : (send cb length).run w = (some (), w')) :
    w.self.readyToSend ∧ w'.self.tcp.isSome ∧ 20 ≤ w'.stack.room := by
  unfold send at h
  rw [Proc.run_read_bind, if_neg hlength] at h
  split_ifs at h with hready hmax
  · exact absurd (congrArg Prod.fst h) (by simp)
  · exact absurd (congrArg Prod.fst h) (by simp)
  rw [Proc.run_modify_bind] at h
  obtain ⟨sb, w₁, -, h⟩ := Proc.run_bind_eq_some h
  obtain ⟨stash, w₂, -, h⟩ := Proc.run_bind_eq_some h
  obtain ⟨_, w₃, -, h⟩ := Proc.run_bind_eq_some h
  obtain ⟨_, w₄, hsent, h⟩ := Proc.run_bind_eq_some h
  have hkeeps : KeepsRoom w₃ w₄ := by
    have hkeeps := keepsRoom_sendSegment cb (ACK ||| PSH) length 0 0 w₃
    rwa [hsent] at hkeeps
  obtain ⟨htcp, hroom⟩ := sendSegment_some hsent
  have hlast : w' = w₄.setSelf { w₄.self with stateTime := w₄.stack.millis } :=
    (congrArg Prod.snd h).symm
  refine ⟨by simpa using hready, ?_, ?_⟩
  · rw [hlast]
    exact hkeeps.tcp ▸ htcp
  · rw [hlast]
    exact hkeeps.room ▸ hroom

section Reset

variable {cb : Callbacks α} {w : World α}

/-! ### Whether a RST can be sent -/

/-- The socket can send a segment of a header only. -/
def CanReset (w : World α) : Prop := w.self.tcp.isSome ∧ 20 ≤ w.stack.room

instance : Decidable (CanReset w) := by unfold CanReset; infer_instance

/-- A segment of a header without a SYN can be sent by a registered socket with room for it, and by
no other. -/
theorem sendSegment_succeeds_iff (cb : Callbacks α) (w : World α) {control : UInt8}
    (hsyn : ¬ has control SYN) (seq ack : UInt32) :
    (sendSegment cb control 0 seq ack).succeeds w ↔ CanReset w := by
  constructor
  · intro h
    obtain ⟨_, w', hrun⟩ := Proc.succeeds_iff.mp h
    exact sendSegment_some hrun
  · rintro ⟨htcp, hroom⟩
    have hfit : (0 : UInt16).toNat + 20 + (optionBytes control w.stack).length ≤ w.stack.room := by
      rw [optionBytes, if_neg hsyn]
      exact hroom
    rw [Proc.succeeds, (sendSegment_transmitted cb control 0 seq ack htcp hfit).1]
    rfl

/-- The control bits of `reset`. -/
def resetControl (ack : UInt32) (w : World α) : UInt8 :=
  if ack = w.self.remoteSeq then RST ||| ACK else RST

/-- A reset carries neither a SYN nor a FIN, so that it takes no sequence number. -/
theorem resetControl_quiet (ack : UInt32) (w : World α) :
    ¬ has (resetControl ack w) SYN ∧ ¬ has (resetControl ack w) FIN := by
  unfold resetControl
  split
  · decide
  · decide

/-- `reset` fires its event if and only if the RST can be sent. -/
theorem exec_reset (cb : Callbacks α) (seq ack : UInt32) (w : World α) :
    (reset cb seq ack).exec w =
      if CanReset w then
        fire cb (.onReset false) ((sendSegment cb (resetControl ack w) 0 seq ack).exec w)
      else (sendSegment cb (resetControl ack w) 0 seq ack).exec w := by
  have hiff := sendSegment_succeeds_iff cb w (resetControl_quiet ack w).1 seq ack
  have hreset : (reset cb seq ack).exec w = ((do
      sendSegment cb (resetControl ack w) 0 seq ack
      Proc.modify (fire cb (.onReset false)) : Proc (World α) Unit).run w).2 := rfl
  rw [hreset]
  rcases hrun : (sendSegment cb (resetControl ack w) 0 seq ack).run w with ⟨_ | _, w₁⟩
  · have hcan : ¬ CanReset w := fun h => by
      have hsucceeds := hiff.mpr h
      rw [Proc.succeeds, hrun] at hsucceeds
      exact absurd hsucceeds (by simp)
    rw [Proc.run_bind_of_none hrun, if_neg hcan, Proc.exec, hrun]
  · have hcan : CanReset w := hiff.mp (by rw [Proc.succeeds, hrun]; rfl)
    rw [Proc.run_bind_of_some hrun, if_pos hcan, Proc.exec, hrun]
    rfl

end Reset

end Socket

namespace SMTPClient

open Socket

/-- The lines handed to `onLineReceived` since the connection was established. -/
def lines (c : SMTPClient) : List Bytes :=
  c.dialogue.filterMap fun
    | .line line => some line
    | .sent _ => none

/-- What `close` leaves: the application as it is, and ESTABLISHED only if its FIN could not be
sent. -/
structure Closing (w w' : World SMTPClient) : Prop where
  app : w'.app = w.app
  open_ : w'.self.getState = ESTABLISHED → w.self.getState = ESTABLISHED ∧
    ¬ (w.self.tcp.isSome ∧ 20 ≤ w.stack.room)

/-- `close` leaves the mail alone, and an established connection open only where no RST and no FIN
can be sent. -/
theorem closing_close (w : World SMTPClient) : Closing w ((close inner).exec w) := by
  by_cases hclosed : w.self.localClosed
  · rw [Proc.exec, close_idle hclosed]
    refine ⟨rfl, fun hopen => ?_⟩
    have hstates : ∀ s ∈ [FIN_WAIT_1, FIN_WAIT_2, CLOSING, LAST_ACK, TIME_WAIT, LISTEN, CLOSED],
        s &&& 0x0F ≠ ESTABLISHED := by decide
    exact absurd hopen (hstates _ (by simpa [localClosed, or_assoc] using hclosed))
  have happ : ((sendSegment inner (FIN ||| ACK) 0 0 0).exec w).app = w.app :=
    (sendSegment_advances inner (FIN ||| ACK) 0 0 0 w).app
  have hstate : ((sendSegment inner (FIN ||| ACK) 0 0 0).exec w).self.state = w.self.state :=
    (unmoved_sendSegment inner (FIN ||| ACK) 0 0 w).state
  rcases close_cases inner hclosed with hrun | ⟨-, hrun⟩
  · have hexec : (close inner).exec w = (sendSegment inner (FIN ||| ACK) 0 0 0).exec w := by
      rw [Proc.exec, hrun]
    refine ⟨hexec ▸ happ, fun hopen => ⟨?_, ?_⟩⟩
    · rwa [hexec, getState, hstate] at hopen
    · rintro ⟨htcp, hroom⟩
      obtain ⟨a, w', hsent⟩ : ∃ a w', (sendSegment inner (FIN ||| ACK) 0 0 0).run w = (some a, w') :=
        ⟨_, _, Prod.ext (sendSegment_transmitted inner (FIN ||| ACK) 0 0 0 htcp
          (by rw [optionBytes, if_neg (by decide)]; exact hroom)).1 rfl⟩
      have hnone : ((close inner).run w).1 = none := congrArg Prod.fst hrun
      unfold close at hnone
      rw [Proc.run_read_bind, if_neg hclosed, Proc.run_bind_of_some hsent] at hnone
      exact absurd hnone (by simp)
  · have hexec : (close inner).exec w =
        fire inner .onLocalClosed (closing inner ((sendSegment inner (FIN ||| ACK) 0 0 0).exec w)) :=
      congrArg Prod.snd hrun
    obtain ⟨-, hquiet, hnext⟩ := closing_quiet inner ((sendSegment inner (FIN ||| ACK) 0 0 0).exec w)
    refine ⟨?_, fun hopen => ?_⟩
    · rw [hexec]
      exact hquiet.trans happ
    · have hfinal : (closing inner ((sendSegment inner (FIN ||| ACK) 0 0 0).exec w)).self.getState =
          ESTABLISHED := by rwa [hexec] at hopen
      rw [getState, hnext] at hfinal
      exact absurd hfinal (stateAfterClose_getD _)

/-! ### What `send` takes -/

/-- The commands in the order in which the states of the protocol send them. -/
def script : List Command :=
  [.helo, .authLogin, .user, .password, .mailFrom, .rcptTo, .data, .message, .quit]

/-- The command that `onReadyToSend` sends in a state of the protocol. -/
def due (protocolState : UInt8) : Option Command :=
  if protocolState % 2 = 1 then script[protocolState.toNat / 2]? else none

/-- The length a command is handed to `send` with. -/
def commandLength (c : Command) (w : World SMTPClient) : UInt16 :=
  match c with
  | .authLogin => Buffer.lengthOf (ascii "auth login\n")
  | .data => Buffer.lengthOf (ascii "DATA\n")
  | .quit => Buffer.lengthOf (ascii "QUIT\r\n")
  | c => textsLength (textsOf c w)

/-- A socket that can send: in ESTABLISHED, with no ACK outstanding, within the window, the
segment size and the stash, through a send data buffer with room for the header in front. -/
structure CanSend (length : UInt16) (w : World SMTPClient) : Prop where
  readyToSend : w.self.readyToSend
  payload : length ≤ w.self.getMaxSendPayload
  buffers : ∃ sb stash, w.self.getSendDataBuffer = some sb ∧ w.self.stash = some stash ∧
    sb.Fits ∧ stash.Fits ∧ sb.root ≠ stash.root ∧ length ≤ sb.size
  room : length.toNat + 20 ≤ w.stack.room

/-- The data `send` accepts; it has nothing to do for none. -/
def Takes (length : UInt16) (w : World SMTPClient) : Prop := length = 0 ∨ CanSend length w

/-- Whether data can be sent depends on the socket and the room only. -/
theorem CanSend.congr {length : UInt16} {w w' : World SMTPClient} (h : CanSend length w)
    (hself : w'.self = w.self) (hroom : w'.stack.room = w.stack.room) : CanSend length w' := by
  obtain ⟨hready, hpayload, hbuffers, hfit⟩ := h
  rw [← hself] at hready hpayload hbuffers
  exact ⟨hready, hpayload, hbuffers, hroom.symm ▸ hfit⟩

/-- A socket with a send buffer is registered. -/
theorem tcp_of_getSendDataBuffer {s : Socket} {sb : Buffer} (h : s.getSendDataBuffer = some sb) :
    s.tcp.isSome := by
  by_contra hnone
  rw [getSendDataBuffer, if_pos (by simpa using hnone)] at h
  exact absurd h (by simp)

/-- The largest payload fits the stash. -/
theorem size_of_getMaxSendPayload {s : Socket} {stash : Buffer} (h : s.stash = some stash) :
    s.getMaxSendPayload ≤ stash.size := by
  rw [getMaxSendPayload, h]
  dsimp only
  split_ifs with hwindow hmss hmss
  · exact UInt16.le_of_lt (UInt16.lt_trans hmss.2 hwindow)
  · exact UInt16.le_of_lt hwindow
  · exact UInt16.le_of_lt hmss.2
  · exact UInt16.le_refl _

/-- The world in which `send` transmits its segment, with a copy of the data in the stash. -/
def stashed (length : UInt16) (sb stash : Buffer) (w : World SMTPClient) : World SMTPClient :=
  { w with
    self := { w.self with attempts := 1 }
    stack := { w.stack with
      mem := Region.write w.stack.mem stash.root stash.base
        (Region.read w.stack.mem sb.root sb.base length.toNat) } }

/-- What `send` does with data it can send: a copy is stashed, and a segment is transmitted. -/
theorem send_transmitted (cb : Callbacks SMTPClient) {length : UInt16} {w : World SMTPClient}
    (h : CanSend length w) (hlength : length ≠ 0) {sb stash : Buffer}
    (hsb : w.self.getSendDataBuffer = some sb) (hstash : w.self.stash = some stash) :
    ∃ w', Transmitted cb (ACK ||| PSH) length 0 0 (stashed length sb stash w) w' ∧
      (send cb length).run w =
        (some (), w'.setSelf { w'.self with stateTime := w'.stack.millis }) := by
  obtain ⟨hready, hpayload, ⟨sb', stash', hsb', hstash', hfits, hsfits, hroot, hsize⟩, hroom⟩ := h
  obtain rfl : sb = sb' := Option.some.inj (hsb.symm.trans hsb')
  obtain rfl : stash = stash' := Option.some.inj (hstash.symm.trans hstash')
  generalize hw₁ : w.setSelf { w.self with attempts := 1 } = w₁
  have hquery : (Proc.query fun w : World SMTPClient => w.self.getSendDataBuffer).run w₁ =
      (some sb, w₁) := by
    rw [Proc.run_query, ← hw₁, ← hsb]
    rfl
  have hquery' : (Proc.query fun w : World SMTPClient => w.self.stash).run w₁ =
      (some stash, w₁) := by
    rw [Proc.run_query, ← hw₁, ← hstash]
    rfl
  have hsize' := UInt16.le_iff_toNat_le.mp hsize
  have hstash' := UInt16.le_iff_toNat_le.mp
    (UInt16.le_trans hpayload (size_of_getMaxSendPayload hstash))
  have hcopy : (sb.copyTo stash 0 0 length).run w₁.stack.mem = (some (), _) :=
    Buffer.copyTo_exact hfits hsfits hroot w₁.stack.mem hlength (by simpa using hsize')
      (by simpa using hstash')
  simp only [UInt16.toNat_zero, Nat.add_zero] at hcopy
  generalize hw₂ : stashed length sb stash w = w₂
  have hmem : (World.onMem (sb.copyTo stash 0 0 length)).run w₁ = (some (), w₂) := by
    rw [World.onMem, World.onStack, Proc.run_zoom, Stack.onMem, Proc.run_zoom, hcopy, ← hw₁,
      ← hw₂]
    rfl
  have htcp : w₂.self.tcp.isSome := by
    rw [← hw₂]
    exact tcp_of_getSendDataBuffer hsb
  have hfit : length.toNat + 20 + (optionBytes (ACK ||| PSH) w₂.stack).length ≤
      w₂.stack.room := by
    rw [optionBytes, if_neg (by decide), ← hw₂]
    exact hroom
  obtain ⟨hsent, htransmitted⟩ := sendSegment_transmitted cb (ACK ||| PSH) length 0 0 htcp hfit
  refine ⟨_, htransmitted, ?_⟩
  unfold send
  rw [Proc.run_read_bind, if_neg hlength, if_neg (by simp [hready]),
    if_neg (UInt16.not_lt.mpr hpayload), Proc.run_modify_bind, hw₁, Proc.run_bind_of_some hquery,
    Proc.run_bind_of_some hquery', Proc.run_bind_of_some hmem,
    Proc.run_bind_of_some (Prod.ext hsent rfl)]
  rfl

/-- `send` returns true for what it takes. -/
theorem send_of_takes {cb : Callbacks SMTPClient} {length : UInt16} {w : World SMTPClient}
    (h : Takes length w) : (send cb length).succeeds w := by
  rw [Proc.succeeds]
  by_cases hlength : length = 0
  · unfold send
    rw [Proc.run_read_bind, if_pos hlength]
    rfl
  · have hcan : CanSend length w := h.resolve_left hlength
    obtain ⟨sb, stash, hsb, hstash, -⟩ := hcan.buffers
    obtain ⟨w', -, hrun⟩ := send_transmitted cb hcan hlength hsb hstash
    rw [hrun]
    rfl

/-- Data that can be sent can be written to the send buffer. -/
theorem write_of_canSend {length : UInt16} {w : World SMTPClient} (h : CanSend length w)
    {sb : Buffer} (hsb : w.self.getSendDataBuffer = some sb) {data : Bytes}
    (hdata : data.length < 65536) (hlength : length = Buffer.lengthOf data) :
    ∃ m, (World.onMem (sb.write 0 data)).run w =
      (some (), { w with stack := { w.stack with mem := m } }) := by
  obtain ⟨sb', stash, hsb', -, hfits, -, -, hsize⟩ := h.buffers
  obtain rfl : sb = sb' := Option.some.inj (hsb.symm.trans hsb')
  have hin : (0 : UInt16).toNat + data.length ≤ sb.size.toNat := by
    have hle := UInt16.le_iff_toNat_le.mp hsize
    rw [hlength, Buffer.toNat_lengthOf hdata] at hle
    simpa using hle
  refine ⟨Region.write w.stack.mem sb.root (sb.base + (0 : UInt16).toNat) data, ?_⟩
  rw [World.onMem, World.onStack, Proc.run_zoom, Stack.onMem, Proc.run_zoom,
    Buffer.write_fits hfits w.stack.mem hin]

/-- `send(const char*)` returns true for what it takes. -/
theorem sendBytes_of_canSend {cb : Callbacks SMTPClient} {data : Bytes} {w : World SMTPClient}
    (hdata : data.length < 65536) (h : CanSend (Buffer.lengthOf data) w) :
    (sendBytes cb data).succeeds w := by
  obtain ⟨sb, stash, hsb, -⟩ := h.buffers
  obtain ⟨m, hwrite⟩ := write_of_canSend h hsb hdata rfl
  have hquery : (Proc.query fun w : World SMTPClient => w.self.getSendDataBuffer).run w =
      (some sb, w) := by
    rw [Proc.run_query, hsb]
  unfold sendBytes
  rw [Proc.succeeds, Proc.run_bind_of_some hquery, Proc.run_bind_of_some hwrite]
  exact send_of_takes (.inr (h.congr rfl rfl))

/-- What a socket takes does not depend on the memory. -/
theorem takes_of_written {w w' : World SMTPClient} (h : Written w w') {length : UInt16}
    (ht : Takes length w) : Takes length w' := by
  refine ht.imp_right fun hcan => hcan.congr h.self ?_
  rw [Stack.room, Stack.room, h.sendSize]

/-! ### What the events do to the dialogue -/

/-- A command handed to `send`: it is recorded if it is accepted. -/
theorem offer_cases (c : Command) {x : Proc (World SMTPClient) Unit} (hx : Proc.Within Steady x)
    (w : World SMTPClient) :
    ∃ sent : Bool, sent = x.succeeds w ∧
      (offer c x w).app = { w.app with
        dialogue := w.app.dialogue ++ if sent then [.sent c] else [] } ∧
      (offer c x w).self = (x.exec w).self ∧ (offer c x w).stack = (x.exec w).stack ∧
      (offer c x w).self.getState = w.self.getState := by
  have hsteady : Steady w (x.exec w) := hx w
  refine ⟨x.succeeds w, rfl, ?_⟩
  unfold offer
  split
  case isTrue hsent =>
    refine ⟨?_, rfl, rfl, hsteady.getState⟩
    rw [record, hsteady.app]
  case isFalse hrefused =>
    refine ⟨?_, rfl, rfl, hsteady.getState⟩
    rw [hsteady.app, List.append_nil]

/-- What `onReadyToSend` can do: nothing, dereference a null pointer, hand a command to `send`
and go on to the next state, or end the session. -/
inductive Readied (w w' : World SMTPClient) : Prop
  | idle (hdue : due w.app.protocolState = none) (h : w' = w)
  | undefined (happ : w'.app = w.app) (hstate : w'.self.getState = w.self.getState)
  | command {c : Command} (hdue : due w.app.protocolState = some c) (hquit : c ≠ .quit)
      (sent : Bool) (htakes : Takes (commandLength c w) w → sent)
      (happ : w'.app = { w.app with
        protocolState := w.app.protocolState + 1
        dialogue := w.app.dialogue ++ if sent then [.sent c] else [] })
      (hstate : w'.self.getState = w.self.getState)
  | quit (hdue : due w.app.protocolState = some .quit) (sent : Bool)
      (hsent : sent → w.self.getState = ESTABLISHED)
      (happ : w'.app = { w.app with
        dialogue := w.app.dialogue ++ if sent then [.sent .quit] else [] })
      (hstate : w'.self.getState = ESTABLISHED → w.self.getState = ESTABLISHED ∧ ¬ sent)

/-- The cases that write their command into the send data buffer. -/
theorem readied_sendTexts {c : Command} {next : UInt8} {w : World SMTPClient}
    (hdue : due w.app.protocolState = some c) (hquit : c ≠ .quit)
    (hnext : next = w.app.protocolState + 1)
    (hlength : commandLength c w = textsLength (textsOf c w)) :
    Readied w (sendTexts c next w) := by
  unfold sendTexts
  split
  · exact .undefined rfl rfl
  rename_i sb _
  have hwritten := written_writeTexts sb 0 (textsOf c w) w
  rcases hrun : (writeTexts sb 0 (textsOf c w)).run w with ⟨_ | length, w₁⟩
  · rw [hrun] at hwritten
    exact .undefined hwritten.app (by rw [hwritten.self])
  · rw [hrun] at hwritten
    obtain ⟨sent, hsent, happ, -, -, hstate⟩ := offer_cases c (steady_send inner length) w₁
    refine .command hdue hquit sent (fun htakes => ?_) ?_ (hstate.trans (by rw [hwritten.self]))
    · have hcount : length = commandLength c w := by
        rw [writeTexts_length sb hrun, hlength, UInt16.zero_add]
      rw [hsent, hcount]
      exact send_of_takes (takes_of_written hwritten htakes)
    · show { (offer c (send inner length) w₁).app with protocolState := next } = _
      rw [happ, hwritten.app, hnext]

/-- The cases that hand their command to `send(const char*)`. -/
theorem readied_sendLiteral {c : Command} {text : String} {next : UInt8} {w : World SMTPClient}
    (hdue : due w.app.protocolState = some c) (hquit : c ≠ .quit)
    (hnext : next = w.app.protocolState + 1) (htext : (ascii text).length < 65536)
    (hlength : commandLength c w = Buffer.lengthOf (ascii text))
    (hne : Buffer.lengthOf (ascii text) ≠ 0) :
    Readied w (sendLiteral c text next w) := by
  obtain ⟨sent, hsent, happ, -, -, hstate⟩ :=
    offer_cases c (steady_sendBytes inner (ascii text)) w
  refine .command hdue hquit sent (fun htakes => ?_) ?_ hstate
  · rw [hsent]
    rw [hlength] at htakes
    exact sendBytes_of_canSend htext (htakes.resolve_left hne)
  · show { (offer c (sendBytes inner (ascii text)) w).app with protocolState := next } = _
    rw [happ, hnext]

/-- Bytes that `send` took were sent in ESTABLISHED, and behind them is room for a header. -/
theorem sendBytes_some {cb : Callbacks SMTPClient} {data : Bytes} {w : World SMTPClient}
    (hdata : Buffer.lengthOf data ≠ 0) (h : (sendBytes cb data).succeeds w) :
    w.self.readyToSend ∧ ((sendBytes cb data).exec w).self.tcp.isSome ∧
      20 ≤ ((sendBytes cb data).exec w).stack.room := by
  obtain ⟨_, w', hrun⟩ := Proc.succeeds_iff.mp h
  have hexec : (sendBytes cb data).exec w = w' := by rw [Proc.exec, hrun]
  rw [hexec]
  obtain ⟨sb, w₁, hquery, hrun⟩ := Proc.run_bind_eq_some hrun
  obtain ⟨_, w₂, hwrite, hrun⟩ := Proc.run_bind_eq_some hrun
  have hself : w₂.self = w.self :=
    (congrArg (fun x => x.2.self) hwrite).symm.trans (congrArg (fun x => x.2.self) hquery).symm
  have hsent := send_some hdata hrun
  rwa [hself] at hsent

/-- A socket that is ready to send is established. -/
theorem getState_of_readyToSend {s : Socket} (h : s.readyToSend) : s.getState = ESTABLISHED :=
  (readyToSend_iff.mp h).1

/-- The last case: QUIT, and `close`. -/
theorem readied_quit {w : World SMTPClient} (hdue : due w.app.protocolState = some .quit) :
    Readied w ((close inner).exec (offer .quit (sendBytes inner (ascii "QUIT\r\n")) w)) := by
  obtain ⟨sent, hsent, happ, hself, hstack, hstate⟩ :=
    offer_cases .quit (steady_sendBytes inner (ascii "QUIT\r\n")) w
  have hquit : sent → w.self.readyToSend ∧
      ((sendBytes inner (ascii "QUIT\r\n")).exec w).self.tcp.isSome ∧
        20 ≤ ((sendBytes inner (ascii "QUIT\r\n")).exec w).stack.room := fun h =>
    sendBytes_some (by decide) (hsent ▸ h)
  have hclosing := closing_close (offer .quit (sendBytes inner (ascii "QUIT\r\n")) w)
  refine .quit hdue sent (fun h => getState_of_readyToSend (hquit h).1)
    (hclosing.app.trans happ) fun hopen => ?_
  obtain ⟨hopen, hshort⟩ := hclosing.open_ hopen
  rw [hself, hstack] at hshort
  exact ⟨hstate.symm.trans hopen, fun h => hshort (hquit h).2⟩

/-- The command that is due goes out if the socket takes it and its texts are there. -/
theorem readied_onReadyToSend (w : World SMTPClient) : Readied w (onReadyToSend w) := by
  have hnone : ∀ p : UInt8, p ∉ [SMTP_SERVER_READY, SMTP_READY_FOR_AUTH, SMTP_READY_FOR_USER,
      SMTP_READY_FOR_PASS, SMTP_READY_FOR_FROM, SMTP_READY_FOR_RCPT, SMTP_READY_FOR_DATA,
      SMTP_READY_FOR_EMAIL, SMTP_READY_FOR_QUIT] → due p = none :=
    forall_uint8 (by decide +kernel)
  unfold onReadyToSend
  dsimp only
  split_ifs with h1 h2 h3 h4 h5 h6 h7 h8 h9
  · exact readied_sendTexts (by rw [h1]; rfl) (by decide) (by rw [h1]; rfl) rfl
  · exact readied_sendLiteral (by rw [h2]; rfl) (by decide) (by rw [h2]; rfl) (by decide) rfl
      (by decide)
  · exact readied_sendTexts (by rw [h3]; rfl) (by decide) (by rw [h3]; rfl) rfl
  · exact readied_sendTexts (by rw [h4]; rfl) (by decide) (by rw [h4]; rfl) rfl
  · exact readied_sendTexts (by rw [h5]; rfl) (by decide) (by rw [h5]; rfl) rfl
  · exact readied_sendTexts (by rw [h6]; rfl) (by decide) (by rw [h6]; rfl) rfl
  · exact readied_sendLiteral (by rw [h7]; rfl) (by decide) (by rw [h7]; rfl) (by decide) rfl
      (by decide)
  · exact readied_sendTexts (by rw [h8]; rfl) (by decide) (by rw [h8]; rfl) rfl
  · exact readied_quit (by rw [h9]; rfl)
  · exact .idle (hnone _ (by simp [h1, h2, h3, h4, h5, h6, h7, h8, h9])) rfl

/-- What the `switch` of `onLineReceived` can do: nothing, go on to the next state, or close. -/
inductive Answers (line : Bytes) (w w' : World SMTPClient) : Prop
  | ignored (hcase : replies.find? (fun reply => reply.1 = w.app.protocolState) = none)
      (h : w' = w)
  | expected {expected : Bytes → Bool} {next : UInt8}
      (hcase : (w.app.protocolState, expected, next) ∈ replies) (hline : expected line)
      (happ : w'.app = { w.app with
        protocolState := next
        status := if next = SMTP_READY_FOR_QUIT then EMAIL_SENT else w.app.status })
      (hself : w'.self = w.self) (hstack : w'.stack = w.stack)
  | refused (hdue : due w.app.protocolState = none) (h : Closing w w')

/-- A line moves the dialogue by the row of the table that matches it, and fails the mail if none
does. -/
theorem answers_answer (line : Bytes) (w : World SMTPClient) :
    Answers line w (answer line w) := by
  have hwaiting : ∀ reply ∈ replies, due reply.1 = none := by
    simp only [replies, List.forall_mem_cons, List.not_mem_nil, false_implies, implies_true]
    decide
  unfold answer
  split
  case h_1 hcase => exact .ignored hcase rfl
  case h_2 state expected next hcase =>
    have hmem := List.mem_of_find?_eq_some hcase
    have hstate : state = w.app.protocolState := by simpa using List.find?_some hcase
    rw [hstate] at hmem
    split
    case isTrue hline =>
      refine .expected hmem hline ?_ ?_ ?_
      · dsimp only
        split
        · rfl
        · rfl
      · dsimp only
        split
        · rfl
        · rfl
      · dsimp only
        split
        · rfl
        · rfl
    case isFalse => exact .refused (hwaiting _ hmem) (closing_close w)

/-- A line is recorded behind those before it. -/
@[simp] theorem lines_record_line (line : Bytes) (w : World SMTPClient) :
    lines (record (.line line) w).app = lines w.app ++ [line] := by
  simp [lines, record]

/-- The line that is being received, and the lines received before. -/
structure SameLines (w w' : World SMTPClient) : Prop where
  recvLine : w'.app.recvLine = w.app.recvLine
  lines : lines w'.app = lines w.app

instance : IsPreorder (World SMTPClient) SameLines where
  refl _ := ⟨rfl, rfl⟩
  trans _ _ _ h h' := ⟨h'.recvLine.trans h.recvLine, h'.lines.trans h.lines⟩

/-- The lines are a part of the application. -/
theorem sameLines_of_app {w w' : World SMTPClient} (h : w'.app = w.app) : SameLines w w' :=
  ⟨by rw [h], by rw [h]⟩

/-- Sending a command receives no line. -/
theorem Readied.sameLines {w w' : World SMTPClient} (h : Readied w w') : SameLines w w' := by
  have hsent : ∀ (sent : Bool) (c : Command), (if sent then [Turn.sent c] else []).filterMap
      (fun t => match t with | .line line => some line | .sent _ => none) = [] := by
    intro sent c
    cases sent <;> rfl
  cases h with
  | idle _ h => exact sameLines_of_app (congrArg World.app h)
  | undefined happ => exact sameLines_of_app happ
  | command _ _ sent _ happ =>
      refine ⟨by rw [happ], ?_⟩
      rw [happ, SMTPClient.lines, List.filterMap_append, hsent, List.append_nil, SMTPClient.lines]
  | quit _ sent _ happ =>
      refine ⟨by rw [happ], ?_⟩
      rw [happ, SMTPClient.lines, List.filterMap_append, hsent, List.append_nil, SMTPClient.lines]

/-- Answering a line records no other one. -/
theorem Answers.sameLines {line : Bytes} {w w' : World SMTPClient} (h : Answers line w w') :
    SameLines w w' := by
  cases h with
  | ignored _ h => exact sameLines_of_app (congrArg World.app h)
  | expected _ _ happ => exact ⟨by rw [happ], by rw [happ]; rfl⟩
  | refused _ h => exact sameLines_of_app h.app

/-- A line is handed over once, and leaves the buffer it came from alone. -/
theorem onLineReceived_lines (line : Bytes) (w : World SMTPClient) :
    (onLineReceived line w).app.recvLine = w.app.recvLine ∧
      lines (onLineReceived line w).app = lines w.app ++ [line] := by
  have hclose : SameLines (record (.line line) w)
      (if checkCode line 500 then (close inner).exec (record (.line line) w)
        else record (.line line) w) := by
    split
    · exact sameLines_of_app (closing_close _).app
    · exact refl_of SameLines _
  have hready : ∀ w : World SMTPClient,
      SameLines w (if w.self.readyToSend then onReadyToSend w else w) := by
    intro w
    split
    · exact (readied_onReadyToSend w).sameLines
    · exact refl_of SameLines w
  have hsame : SameLines (record (.line line) w) (onLineReceived line w) :=
    trans_of SameLines hclose (trans_of SameLines (answers_answer line _).sameLines (hready _))
  exact ⟨hsame.recvLine, hsame.lines.trans (lines_record_line line w)⟩

/-! ### An example -/

/-- A client on 10.0.0.1 whose connection to the server `a` has just been established, with a
window of the given size. -/
def exampleMail (window : UInt16) : World SMTPClient where
  this := 0
  self := { (exampleClient.world 0).self with
    state := ESTABLISHED, remoteWindow := window, remoteDomain := some (ascii "a") }
  stack := exampleClient.stack
  app := {
    user := some (ascii "dQ=="), pass := some (ascii "cA=="), status := EMAIL_SENDING
    protocolState := 0, to_ := some (ascii "t"), from_ := some (ascii "f")
    subject := some (ascii "s"), body := some (ascii "b"), recvLine := [], dialogue := [] }

end SMTPClient

end AtmegaNet
