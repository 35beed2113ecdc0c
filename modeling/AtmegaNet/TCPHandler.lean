import AtmegaNet.HandleSegment

/-!
# The TCP handler

`TCPHandler` owns a table of sockets and cuts the outbound buffer into one stash for each of
its slots. It gives an incoming packet to the socket of its connection, or else to the first
one that listens on its port, and lets every socket check its state when its timer expires.

A `Net` is a stack with one TCP handler and all sockets of the program, numbered; a socket
need not be registered. `Net.world` is the world of one socket.
-/

open Procedure

namespace AtmegaNet

/-- The fields of `TCPHandler`. `number` stands for its address; a slot holds the number of
the socket in it, and the length of the table is `socketCapacity`. -/
structure TCPHandler where
  number : ℕ
  registeredSockets : List (Option ℕ)
  timerIndex : UInt8
  maxOutboundLen : UInt16
  deriving DecidableEq, Repr

/-- One host: its stack, its TCP handler, its sockets and its application. -/
structure Net (α : Type) where
  tcp : TCPHandler
  stack : Stack
  sockets : ℕ → Socket
  app : α

namespace Net

variable {α : Type}

/-- The world of socket `i`. -/
def world (n : Net α) (i : ℕ) : World α := ⟨i, n.sockets i, n.stack, n.app⟩

/-- What a call on socket `w.this` leaves. -/
def update (n : Net α) (w : World α) : Net α :=
  { n with
    sockets := fun i => if i = w.this then w.self else n.sockets i
    stack := w.stack
    app := w.app }

/-- Call a function of socket `i`. -/
def call (n : Net α) (i : ℕ) (f : World α → World α) : Net α := n.update (f (n.world i))

end Net

namespace IPHandler

/-- `IPHandler::registerProtocol`. The bound of its loop divides the size of the table by the
size of the wrong entry type (4 bytes for 3), which makes two of the three entries usable. -/
def registerProtocol (protocol : UInt8) (handler : PacketHandler) (h : Stack) :
    Bool × Stack :=
  match (h.ip.protocolRegistry.take 2).findIdx?
      fun e => e.ipProtocol = 0 ∨ e.ipProtocol = protocol with
  | none => (false, h)
  | some i => (true, { h with ip := { h.ip with
      protocolRegistry := h.ip.protocolRegistry.set i ⟨protocol, some handler⟩ } })

/-- `IPHandler::getProtocolHandler`, with the same bound. -/
def getProtocolHandler (ipProtocol : UInt8) (ip : IPHandler) : Option PacketHandler :=
  match (ip.protocolRegistry.take 2).find? fun e => e.ipProtocol = ipProtocol with
  | none => none
  | some e => e.handler

end IPHandler

namespace TCPHandler

variable {α : Type}

/-- The length of a slot's stash: the outbound buffer, cut to what fits behind a TCP header,
divided by the number of slots. -/
def stashLength (socketCapacity : UInt8) (h : Stack) : UInt16 :=
  let stashSize := h.outboundSize
  let s := h.ipPayload.size - Socket.TCP_HEADER_LENGTH
  let stashSize := if stashSize > s then s else stashSize
  stashSize / socketCapacity.toUInt16

/-- `TCPHandler::TCPHandler` -/
def new (number : ℕ) (socketCapacity : UInt8) (h : Stack) : TCPHandler × Stack :=
  (⟨number, List.replicate socketCapacity.toNat none, 0, stashLength socketCapacity h⟩,
    (IPHandler.registerProtocol Socket.TCP_PROTOCOL .tcp h).2)

/-- The stash the constructor makes for slot `i`. -/
def stashBuffer (tcp : TCPHandler) (h : Stack) (i : ℕ) : Buffer :=
  OffsetBuffer.reinit (.memBuffer .outbound h.outboundSize)
    (tcp.maxOutboundLen * UInt16.ofNat i) tcp.maxOutboundLen

/-- `TCPHandler::getStash` -/
def getStash (socket : ℕ) (tcp : TCPHandler) (h : Stack) : Option Buffer :=
  (tcp.registeredSockets.findIdx? fun slot => slot = some socket).map (tcp.stashBuffer h)

/-- Put a socket into slot `i`, or take it out. -/
def setSlot (n : Net α) (i : ℕ) (slot : Option ℕ) : Net α :=
  { n with tcp := { n.tcp with
    registeredSockets := n.tcp.registeredSockets.set i slot } }

/-- `registerSocket` starts the handler's timer with its first socket. -/
def ensureTimer (n : Net α) : Bool × Net α :=
  if n.tcp.timerIndex ≠ 0 then (true, n)
  else
    let (timerIndex, stack) := EtherControl.registerTimer .tcp 1000 n.stack
    (timerIndex ≠ 0, { n with tcp := { n.tcp with timerIndex := timerIndex }, stack := stack })

/-- `TCPHandler::registerSocket`, given the `registerTCPHandler` of the socket that it calls. -/
def registerSocketWith (registerTCPHandler : Net α → Bool × Net α) (socket : ℕ)
    (n : Net α) : Bool × Net α :=
  if n.tcp.registeredSockets.any (· = some socket) then (true, n)
  else match n.tcp.registeredSockets.findIdx? (·.isNone) with
    | none => (false, n)
    | some i =>
        let (registered, n) := registerTCPHandler (setSlot n i (some socket))
        if registered then
          let (timed, n) := ensureTimer n
          if timed then (true, n) else (false, setSlot n i none)
        else (false, setSlot n i none)

end TCPHandler

namespace Socket

variable {α : Type}

/-- `Socket::registerTCPHandler`, given the `registerSocket` of the handler that it calls. -/
def registerTCPHandlerWith (registerSocket : Net α → Bool × Net α) (cb : Callbacks α)
    (socket : ℕ) (n : Net α) : Bool × Net α :=
  if (n.sockets socket).tcp = some n.tcp.number then (true, n)
  else if (n.sockets socket).tcp.isSome then (false, n)
  else
    let (registered, n) := registerSocket
      (n.call socket fun w => w.setSelf { w.self with tcp := some n.tcp.number })
    if registered then
      let stash := TCPHandler.getStash socket n.tcp n.stack
      (true, n.call socket fun w =>
        let w := w.setSelf { w.self with stash := stash }
        let w := if w.self.isHost then setState cb LISTEN w else w
        w.setSelf { w.self with
          sendBuffer := some (OffsetBuffer.reinit w.stack.ipPayload 20 0) })
    else (false, n.call socket fun w => w.setSelf { w.self with tcp := none })

/-- `Socket::registerTCPHandler`. The `registerSocket` it calls finds the handler set, so that
the call back ends at once. -/
def registerTCPHandler (cb : Callbacks α) (socket : ℕ) (n : Net α) : Bool × Net α :=
  registerTCPHandlerWith
    (TCPHandler.registerSocketWith
      (registerTCPHandlerWith (fun n => (false, n)) cb socket) socket) cb socket n

/-- The second half of `Socket::unregisterTCPHandler`, once `forceClose` has been called: the
handler drops the socket, the socket drops the handler, and `forceClose` is called again. Only
the table of the handler of the host is part of `Net`. -/
def dropTCPHandler (unregisterSocket : Net α → Net α) (cb : Callbacks α) (socket : ℕ)
    (n : Net α) : Net α :=
  let n := match (n.sockets socket).tcp with
    | none => n.call socket fun w => w.observe .nullDereference
    | some tcp => if tcp = n.tcp.number then unregisterSocket n else n
  let n := n.call socket fun w => w.setSelf { w.self with tcp := none, stash := none }
  n.call socket (forceClose cb)

/-- `Socket::init`, which every constructor calls last, on the memory `s` the constructor has
found. `random` is the number drawn for the initial sequence number; `closed` finds no
handler, and the events of a socket under construction are those of the base class. -/
def init (random : ℕ) (millis : UInt32) (s : Socket) : Socket :=
  { s with
    localSeq := UInt32.ofNat (random % 1000)
    remoteSeq := 0
    remoteMSS := 0
    remoteWindow := 0
    tcp := none
    attempts := 0
    lastDataLength := 0
    stash := none
    recvBuffer := none
    sendBuffer := none
    connectOnResolution := false
    timeout := 0
    state := CLOSED
    stateTime := millis }

/-- `Socket(remoteIP, remotePort)` -/
def newClient (remoteIP : IPAddr) (remotePort : UInt16) (random : ℕ) (millis : UInt32)
    (s : Socket) : Socket :=
  init random millis { s with
    listenPort := 0, remoteIP := remoteIP, remotePort := remotePort, remoteDomain := none }

/-- `Socket(server, remotePort, dns)` -/
def newNamed (server : Bytes) (remotePort : UInt16) (random : ℕ) (millis : UInt32)
    (s : Socket) : Socket :=
  init random millis { s with
    listenPort := 0, remoteDomain := some server, remoteIP := ⟨0, 0, 0, 0⟩,
    remotePort := remotePort }

/-- `Socket(listenPort)`. It leaves the remote fields as it finds them. -/
def newListener (listenPort : UInt16) (random : ℕ) (millis : UInt32) (s : Socket) : Socket :=
  init random millis { s with listenPort := listenPort, localPort := listenPort }

end Socket

namespace TCPHandler

variable {α : Type}

/-- `TCPHandler::registerSocket`. The `registerTCPHandler` it calls finds the socket in the
table when it calls back. -/
def registerSocket (cb : Callbacks α) (socket : ℕ) (n : Net α) : Bool × Net α :=
  registerSocketWith
    (Socket.registerTCPHandlerWith (registerSocketWith (fun n => (false, n)) socket) cb socket)
    socket n

/-- Take a socket out of every slot it is in. -/
def clearSlots (socket : ℕ) (n : Net α) : Net α :=
  let registeredSockets := n.tcp.registeredSockets.map fun slot =>
    if slot = some socket then none else slot
  { n with tcp := { n.tcp with registeredSockets := registeredSockets } }

/-- `TCPHandler::unregisterSocket`. It gives the timer back when all slots are empty, whether
there is a timer or not. -/
def unregisterSocket (socket : ℕ) (n : Net α) : Net α :=
  let n := clearSlots socket n
  if n.tcp.registeredSockets.count none = n.tcp.registeredSockets.length then
    { n with
      tcp := { n.tcp with timerIndex := 0 }
      stack := EtherControl.unregisterTimer n.tcp.timerIndex n.stack }
  else n

end TCPHandler

namespace Socket

variable {α : Type}

/-- `Socket::unregisterTCPHandler` -/
def unregisterTCPHandler (cb : Callbacks α) (socket : ℕ) (n : Net α) : Net α :=
  if (n.sockets socket).tcp.isSome then
    dropTCPHandler (TCPHandler.unregisterSocket socket) cb socket (n.call socket (forceClose cb))
  else n

/-- `Socket::~Socket` -/
def delete (cb : Callbacks α) (socket : ℕ) (n : Net α) : Net α :=
  (unregisterTCPHandler cb socket n).call socket fun w =>
    w.setSelf { w.self with recvBuffer := none, sendBuffer := none }

end Socket

namespace TCPHandler

variable {α : Type} (cb : ℕ → Callbacks α)

/-- The first registered socket that a test selects. -/
def findSocket (n : Net α) (test : Socket → Bool) : Option ℕ :=
  (n.tcp.registeredSockets.filterMap id).find? fun i => test (n.sockets i)

/-- `TCPHandler::handlePacket` -/
def handlePacket (sourceIP : IPAddr) (packet : Bytes) (n : Net α) : Net α :=
  match (viewOf packet).readNet16 0, (viewOf packet).readNet16 2 with
  | some sourcePort, some localPort =>
      match findSocket n fun s => s.equals sourceIP sourcePort localPort with
      | some i => n.call i (Socket.handleSegment (cb i) sourceIP packet)
      | none =>
          match findSocket n fun s => s.equalsListen localPort with
          | some i => n.call i (Socket.handleSegment (cb i) sourceIP packet)
          | none => n
  | _, _ => n

/-- The loop of `handleTimer`, over the slots below `k`. -/
def checkSlots (dns : Resolver) (n : Net α) : ℕ → Net α
  | 0 => n
  | k + 1 =>
      let n := checkSlots dns n k
      match n.tcp.registeredSockets[k]? with
      | some (some i) => n.call i (Socket.checkState (cb i) dns)
      | _ => n

/-- `TCPHandler::handleTimer` -/
def handleTimer (dns : Resolver) (n : Net α) : Net α :=
  checkSlots cb dns n n.tcp.registeredSockets.length

end TCPHandler

/-! ### An example

Two hosts of one network, for the concrete runs below and in the modules after this one. -/

/-- The host 10.0.0.`own`, whose routing table knows 10.0.0.`peer`. -/
def exampleStack (own peer : UInt8) : Stack where
  macAddr := ⟨2, 0, 0, 0, 0, own⟩
  sendSize := 100
  recvSize := 100
  outboundSize := 40
  etherControl := ⟨[⟨0x0800, some .ip⟩], [⟨0, 0, none⟩], 0⟩
  arp := ⟨⟨10, 0, 0, own⟩, [⟨⟨10, 0, 0, peer⟩, ⟨2, 0, 0, 0, 0, peer⟩, 0, ARP_RESOLVED⟩], 1⟩
  ip := ⟨⟨10, 0, 0, own⟩, ⟨10, 0, 0, 254⟩, ⟨255, 255, 255, 0⟩, ⟨10, 0, 0, 0⟩, ⟨10, 0, 0, 255⟩,
    49152, [⟨0, none⟩, ⟨0, none⟩, ⟨0, none⟩]⟩
  dns := .noRoom
  millis := 0
  mem := fun _ _ => 0
  log := []

/-- An application that ignores every event and accepts every payload. -/
def exampleApp : App Unit := ⟨fun _ a => a, fun _ a => (true, a), fun _ size => size⟩

/-- A `DNSHandler::resolve` that never has an answer. -/
def exampleResolver : Resolver := fun _ h => ((none, 0), h)

/-- Memory full of zeros, for a constructor to work on. -/
def Socket.zero : Socket :=
  ⟨0, 0, 0, false, ⟨0, 0, 0, 0⟩, 0, 0, 0, 0, 0, 0, 0, 0, none, none, none, none, 0, none⟩

/-- A host with a TCP handler of one slot and the given socket registered with it. -/
def exampleNet (own peer : UInt8) (s : Socket) : Net Unit :=
  (Socket.registerTCPHandler exampleApp 0
    ⟨(TCPHandler.new 0 1 (exampleStack own peer)).1, (TCPHandler.new 0 1 (exampleStack own peer)).2,
      fun _ => s, ()⟩).2

/-- 10.0.0.1 with a socket that connects to port 80 of 10.0.0.2. -/
def exampleClient : Net Unit :=
  exampleNet 1 2 (Socket.newClient ⟨10, 0, 0, 2⟩ 80 7 0 Socket.zero)

/-- 10.0.0.2 with a socket that listens on port 80. -/
def exampleListener : Net Unit := exampleNet 2 1 (Socket.newListener 80 11 0 Socket.zero)

/-- The SYN the client sends. -/
def exampleSyn : Bytes :=
  [192, 0, 0, 80, 0, 0, 0, 7, 0, 0, 0, 0, 96, 2, 0, 42, 201, 44, 0, 0, 2, 4, 0, 42]

/-- The ACK the client sends when the listener has answered its SYN. -/
def exampleAck : Bytes :=
  [192, 0, 0, 80, 0, 0, 0, 8, 0, 0, 0, 12, 80, 16, 0, 42, 219, 67, 0, 0]

/-- The listener after the handshake. -/
def exampleServer : World Unit :=
  Socket.handleSegment exampleApp ⟨10, 0, 0, 1⟩ exampleAck
    (Socket.handleSegment exampleApp ⟨10, 0, 0, 1⟩ exampleSyn (exampleListener.world 0))

end AtmegaNet
