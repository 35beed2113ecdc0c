import AtmegaNet.Routes

/-!
# Sockets: data, events and sending

A `World` is a socket together with the stack of its host and the state of the application
above it. The application is what a subclass of `Socket` overrides: `Callbacks` are arbitrary
functions on worlds, so a callback may call the socket again; an `App` is one whose callbacks
keep to themselves.

This module has the fields of `Socket` and the functions up to `sendSegment`, `reset` and
`forceClose`. Opening, sending data and closing are in `SocketCalls`, the reaction to a
segment is in `HandleSegment`.
-/

open Procedure

namespace AtmegaNet

/-- The fields of `Socket`. `stash` and `sendBuffer` are views, `recvBuffer` is the content of
the view on the segment last received, `tcp` the number of the handler the socket is
registered with. -/
structure Socket where
  state : UInt8
  listenPort : UInt16
  localPort : UInt16
  connectOnResolution : Bool
  remoteIP : IPAddr
  remotePort : UInt16
  localSeq : UInt32
  remoteSeq : UInt32
  remoteMSS : UInt16
  remoteWindow : UInt16
  stateTime : UInt32
  timeout : UInt32
  attempts : UInt8
  tcp : Option ℕ
  stash : Option Buffer
  recvBuffer : Option Bytes
  sendBuffer : Option Buffer
  lastDataLength : UInt16
  remoteDomain : Option Bytes
  deriving DecidableEq, Repr

namespace Socket

/-! ### Constants of `Socket.h` -/

def LISTEN : UInt8 := 1
def SYN_SENT : UInt8 := 2
def SYN_RECEIVED : UInt8 := 3
def ESTABLISHED : UInt8 := 4
def FIN_WAIT_1 : UInt8 := 5
def FIN_WAIT_2 : UInt8 := 6
def CLOSE_WAIT : UInt8 := 7
def CLOSING : UInt8 := 8
def LAST_ACK : UInt8 := 9
def TIME_WAIT : UInt8 := 10
def CLOSED : UInt8 := 11
def RESOLVING : UInt8 := 20
def UNKNOWN_HOST : UInt8 := 21
def AWAITING_ACK : UInt8 := 0xF0

def ACK : UInt8 := 16
def PSH : UInt8 := 8
def RST : UInt8 := 4
def SYN : UInt8 := 2
def FIN : UInt8 := 1

def TIME_WAIT_DURATION : UInt32 := 240
def ACK_WAIT_DURATION : UInt32 := 1
def TCP_PROTOCOL : UInt8 := 0x06
def TCP_HEADER_LENGTH : UInt16 := 20

/-- `(flags & bit) == bit` -/
def has (flags bit : UInt8) : Bool := flags &&& bit == bit

/-! ### Predicates -/

/-- `Socket::isHost` -/
def isHost (s : Socket) : Bool := s.listenPort > 0

/-- `Socket::getState` -/
def getState (s : Socket) : UInt8 := s.state &&& 0x0F

/-- `Socket::readyToSend` -/
def readyToSend (s : Socket) : Bool :=
  s.state &&& 0x0F == ESTABLISHED && s.state &&& 0xF0 != AWAITING_ACK

/-- `Socket::localClosed` -/
def localClosed (s : Socket) : Bool :=
  s.state == FIN_WAIT_1 || s.state == FIN_WAIT_2 || s.state == CLOSING ||
    s.state == LAST_ACK || s.state == TIME_WAIT || s.state == LISTEN || s.state == CLOSED

/-- `Socket::remoteClosed` -/
def remoteClosed (s : Socket) : Bool :=
  s.state == CLOSE_WAIT || s.state == LAST_ACK || s.state == CLOSING ||
    s.state == TIME_WAIT || s.state == LISTEN || s.state == CLOSED

/-- `Socket::getMaxSendPayload` -/
def getMaxSendPayload (s : Socket) : UInt16 :=
  let n := match s.stash with
    | none => 0
    | some stash => stash.size
  let n := if s.remoteWindow < n then s.remoteWindow else n
  if s.remoteMSS > 0 ∧ s.remoteMSS < n then s.remoteMSS else n

/-- `Socket::getSendDataBuffer` -/
def getSendDataBuffer (s : Socket) : Option Buffer :=
  if s.tcp.isNone then none else s.sendBuffer

/-- `Socket::equals(remoteIP, remotePort, localPort)` -/
def equals (s : Socket) (remoteIP : IPAddr) (remotePort localPort : UInt16) : Bool :=
  if s.isHost ∧ s.state = LISTEN then false
  else if s.state = CLOSED then false
  else if remotePort ≠ s.remotePort then false
  else if localPort ≠ s.localPort then false
  else remoteIP = s.remoteIP

/-- `Socket::equals(listenPort)` -/
def equalsListen (s : Socket) (listenPort : UInt16) : Bool :=
  s.isHost && s.state == LISTEN && s.listenPort == listenPort

end Socket

/-- A socket, `this` being its number, with its host's stack and its application's state. -/
structure World (α : Type) where
  this : ℕ
  self : Socket
  stack : Stack
  app : α

/-- The virtual functions of `Socket`: the events, `onDataReceived` with the payload it is
given, and `getApplicationWindowSize`, which sees the application's state and
`tcp->getMaxSegmentSize()`, its default result. -/
structure Callbacks (α : Type) where
  on : Event → World α → World α
  onDataReceived : Bytes → World α → Bool × World α
  getApplicationWindowSize : α → UInt16 → UInt16

/-- An application whose callbacks make no calls on the socket: they only change its own
state. -/
structure App (α : Type) where
  on : Event → α → α
  onDataReceived : Bytes → α → Bool × α
  getApplicationWindowSize : α → UInt16 → UInt16

/-- The virtual functions of an application that keeps to itself. -/
def App.callbacks {α : Type} (a : App α) : Callbacks α where
  on e w := { w with app := a.on e w.app }
  onDataReceived d w := ((a.onDataReceived d w.app).1,
    { w with app := (a.onDataReceived d w.app).2 })
  getApplicationWindowSize := a.getApplicationWindowSize

instance {α : Type} : Coe (App α) (Callbacks α) := ⟨App.callbacks⟩

/-- `TCPHandler::getMaxSegmentSize`: 20 for the header and 4 for the MSS option. -/
def Stack.getMaxSegmentSize (h : Stack) : UInt16 :=
  h.ipMaxReceivePayload - Socket.TCP_HEADER_LENGTH - 4

namespace World

variable {α : Type}

/-- Change the socket. -/
def setSelf (w : World α) (s : Socket) : World α := { w with self := s }

/-- Run a function of the stack. -/
def onStack {β : Type} (x : Proc Stack β) : Proc (World α) β :=
  Proc.zoom World.stack (fun h w => { w with stack := h }) x

/-- Run an access to the buffers. -/
def onMem {β : Type} (x : Proc Memory β) : Proc (World α) β := onStack (Stack.onMem x)

/-- Record an observation. -/
def observe (w : World α) (o : Obs) : World α :=
  { w with stack := { w.stack with log := w.stack.log ++ [o] } }

end World

namespace Socket

variable {α : Type} (cb : Callbacks α)

/-! ### Events and states -/

/-- Call an event function. -/
def fire (e : Event) (w : World α) : World α := cb.on e (w.observe (.event w.this e))

/-- The events of a state that has just been entered. -/
def announce (priorState state : UInt8) (w : World α) : World α :=
  let w := if state = CLOSED ∧ priorState ≠ RESOLVING then fire cb .onClosed w else w
  if state = ESTABLISHED then fire cb .onReadyToSend (fire cb .onEstablished w) else w

/-- `Socket::setState` -/
def setState (state : UInt8) (w : World α) : World α :=
  announce cb w.self.state state
    (w.setSelf { w.self with state := state, stateTime := w.stack.millis })

/-- `Socket::closed` -/
def closed (w : World α) : World α :=
  if w.self.tcp.isSome ∧ w.self.isHost then setState cb LISTEN w else setState cb CLOSED w

/-! ### Sending a segment -/

/-- `Socket::getWindowSize` -/
def getWindowSize (w : World α) : UInt16 :=
  let appSize := cb.getApplicationWindowSize w.app w.stack.getMaxSegmentSize
  if appSize > w.stack.getMaxSegmentSize then w.stack.getMaxSegmentSize else appSize

/-- `Socket::calcChecksum` -/
def calcChecksum (buf : View) (len : UInt16) (localIP remoteIP : IPAddr) : UInt16 :=
  buf.checksum len 16
    (TCP_PROTOCOL.toUInt32 + len.toUInt32 + localIP.words + remoteIP.words)

/-- `Socket::transmit`. Without a route it asks for one and returns true; the caller takes
the segment for sent and relies on retransmission. -/
def transmit (length : UInt16) (option_length : UInt8) : Proc (World α) Unit := do
  let remoteIP ← Proc.read fun w => w.self.remoteIP
  let route ← Proc.read fun w => IPHandler.getMACForIP remoteIP w.stack
  if route.isNone then Proc.attempt (World.onStack (ARPHandler.requestMACAddress remoteIP))
  else do
    let buf ← Proc.read fun w => w.stack.ipPayload
    let len := length + TCP_HEADER_LENGTH + option_length.toUInt16
    let checksum ← Proc.read fun w =>
      calcChecksum (buf.view w.stack.mem) len w.stack.ip.ipAddress remoteIP
    World.onMem (buf.writeNet16 16 checksum)
    World.onStack (IPHandler.sendPacket remoteIP TCP_PROTOCOL len)

/-- The part of `sendSegment` that differs between the control kinds: the data offset (which
the FIN branch does not write), the MSS option and the sequence number. Its result is the
length of the option. -/
def writeControl (buf : Buffer) (control : UInt8) (length : UInt16) :
    Proc (World α) UInt8 := do
  if has control SYN then do
    World.onMem (buf.write8 12 ((6 : UInt8) <<< 4))
    World.onMem (buf.write8 20 0x02)
    World.onMem (buf.write8 21 0x04)
    let mss ← Proc.read fun w => w.stack.getMaxSegmentSize
    World.onMem (buf.writeNet16 22 mss)
    Proc.modify fun w => w.setSelf { w.self with localSeq := w.self.localSeq + 1 }
    pure 4
  else if has control FIN then do
    Proc.modify fun w => w.setSelf { w.self with localSeq := w.self.localSeq + 1 }
    pure 0
  else do
    World.onMem (buf.write8 12 ((5 : UInt8) <<< 4))
    Proc.modify fun w =>
      if length > 0 then w.setSelf { w.self with
        state := w.self.state ||| AWAITING_ACK
        lastDataLength := length
        localSeq := w.self.localSeq + length.toUInt32 }
      else w
    pure 0

/-- `Socket::sendSegment` -/
def sendSegment (control : UInt8) (length : UInt16) (seq ack : UInt32) :
    Proc (World α) Unit := do
  let self ← Proc.read World.self
  let seq := if has control RST then seq else self.localSeq
  let ack := if has control RST then ack else self.remoteSeq
  if self.tcp.isNone then do
    Proc.modify fun w => w.observe .nullDereference
    Proc.fail
  else do
    let buf ← Proc.read fun w => w.stack.ipPayload
    World.onMem (buf.writeNet16 0 self.localPort)
    World.onMem (buf.writeNet16 2 self.remotePort)
    World.onMem (buf.writeNet32 4 seq)
    World.onMem (buf.writeNet32 8 ack)
    let optionLength ← writeControl buf control length
    World.onMem (buf.write8 13 control)
    let window ← Proc.read (getWindowSize cb)
    World.onMem (buf.writeNet16 14 window)
    World.onMem (buf.writeNet16 18 0x0000)
    transmit length optionLength

/-- `sendSegment(ACK,0)`, whose result no caller looks at. -/
def sendACK (w : World α) : World α := (sendSegment cb ACK 0 0 0).exec w

/-- `Socket::reset` -/
def reset (seq ack : UInt32) : Proc (World α) Unit := do
  let remoteSeq ← Proc.read fun w => w.self.remoteSeq
  sendSegment cb (if ack = remoteSeq then RST ||| ACK else RST) 0 seq ack
  Proc.modify (fire cb (.onReset false))

/-- `Socket::forceClose` -/
def forceClose (w : World α) : World α :=
  let w :=
    if w.self.state ≠ TIME_WAIT then (reset cb w.self.localSeq w.self.remoteSeq).exec w else w
  closed cb w

end Socket

end AtmegaNet
