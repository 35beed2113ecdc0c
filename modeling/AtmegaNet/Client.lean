import AtmegaNet.Frame
import AtmegaNet.SMTPClient

/-!
# Clients

A client is a socket that does one job at a time: it says that it is busy, connects, and says
that it is not busy any more when its connection is closed. This module is about all such
classes, given what their events do (`Lawful`); the library's own are in `BusyClients`.

A job is lost when the socket has no connection and does not look for one, but the client still
says that it is busy. There are two ways into such a state, and one is a part of `connect`: the
name of the server is not known, or there is no way to send the SYN. The other is `forceClose`
on a socket that is resolving the name, if its RST cannot be sent.

## Main results

* `Attended`: busy clients have a connection, or are on the way to one.
* `attended_handleSegment`, `attended_close`, `attended_forceClose`, `attended_request`,
  `attended_checkState`: what keeps this, and when.
* `reaches_free`: a run whose steps are all `Granted` loses no job.
-/

open Procedure Runs

namespace AtmegaNet

/-- A class of clients: its virtual functions, the jobs it takes, the call that begins one, the
call that says whether it would be accepted, and whether the client is busy. `recurses` says that
its `onClosed` calls `forceClose` as long as it is busy. -/
structure Client (α : Type) where
  callbacks : Callbacks α
  Job : Type
  request : Resolver → Job → World α → World α
  ready : World α → Bool
  busy : α → Bool
  recurses : Bool

namespace Client

open Socket

variable {α : Type} (c : Client α)

/-! ### Runs -/

/-- What happens to a client: a job, a segment, the timer, the two ways to close it, and anything
that is not its own. The answers of `DNSHandler::resolve` come with the calls that ask for
them. -/
inductive Step
  | request (dns : Resolver) (job : c.Job)
  | segment (sourceIP : IPAddr) (buf : Bytes)
  | tick (dns : Resolver)
  | close
  | forceClose
  | outside (w : World α)

/-- A step of a client. -/
def run : c.Step → World α → World α
  | .request dns job, w => c.request dns job w
  | .segment sourceIP buf, w => handleSegment c.callbacks sourceIP buf w
  | .tick dns, w => checkState c.callbacks dns w
  | .close, w => (Socket.close c.callbacks).exec w
  | .forceClose, w => Socket.forceClose c.callbacks w
  | .outside w', _ => w'

/-- What happens elsewhere on the host: the socket may be given a handler and a timeout. -/
structure Outside (w w' : World α) : Prop where
  this : w'.this = w.this
  app : w'.app = w.app
  rest : w'.self = { w.self with
    timeout := w'.self.timeout, tcp := w'.self.tcp, stash := w'.self.stash
    sendBuffer := w'.self.sendBuffer }
  tcp : w.self.tcp.isSome → w'.self.tcp = w.self.tcp
  sendSize : w'.stack.sendSize = w.stack.sendSize

/-- A resolver works on the stack, whose send buffer has a fixed size. -/
def Hosted (dns : Resolver) : Prop := ∀ d h, (dns d h).2.sendSize = h.sendSize

/-- The steps that can happen. -/
def Possible (w : World α) : c.Step → Prop
  | .request dns _ => Hosted dns
  | .tick dns => Hosted dns
  | .outside w' => Outside w w'
  | _ => True

/-! ### When a job is not lost -/

/-- A SYN can be sent. -/
def CanConnect (w : World α) : Prop := w.self.tcp.isSome ∧ 24 ≤ w.stack.room

/-- `connect` finds what it needs on a closed socket: no error from the resolver and, if there is
an address and a job, a way to send the SYN. -/
def Connects (dns : Resolver) (busy : Prop) (w : World α) : Prop :=
  match w.self.remoteDomain with
  | none => busy → CanConnect w
  | some remoteDomain => (dns remoteDomain w.stack).1.2 = NO_ERROR ∧
      ((dns remoteDomain w.stack).1.1.isSome → busy → CanConnect w)

/-- The timer goes on with a lookup. -/
def Resolves (w : World α) : Prop :=
  w.self.state = RESOLVING ∧ ¬ (w.self.timeout > 0 ∧ w.stack.millis - w.self.stateTime > w.self.timeout)

/-- The timer finds what it needs: no error from the resolver and, if it has an address now,
none in the `connect` that has been waiting for it. -/
def Resumes (dns : Resolver) (busy : Prop) (w : World α) : Prop :=
  ∀ remoteDomain, w.self.remoteDomain = some remoteDomain →
    (dns remoteDomain w.stack).1.2 = NO_ERROR ∧
      ((dns remoteDomain w.stack).1.1.isSome → w.self.connectOnResolution →
        Connects dns busy { w with stack := (dns remoteDomain w.stack).2 })

/-- The steps that lose no job. -/
def Granted (w : World α) (e : c.Step) : Prop :=
  c.Possible w e ∧ match e with
    | .request dns _ => c.ready w → Connects dns True w
    | .tick dns => Resolves w → Resumes dns (c.busy w.app) w
    | .forceClose => c.busy w.app → w.self.state = RESOLVING → CanReset w
    | _ => True

/-- No job is lost: a busy client has a connection or is on the way to one, and one without
accepts a new job. -/
structure Free (w : World α) : Prop where
  busy : c.busy w.app → w.self.state ≠ CLOSED ∧ w.self.state ≠ UNKNOWN_HOST
  ready : w.self.state = CLOSED ∨ w.self.state = UNKNOWN_HOST → c.ready w

/-- A client that has just been constructed. -/
structure Fresh (w : World α) : Prop where
  client : w.self.listenPort = 0
  closed : w.self.state = CLOSED
  idle : ¬ c.busy w.app

/-- Where a RST cannot be sent, `onClosed` must not be called. -/
def Closable (w : World α) : Prop := c.recurses → w.self.state = RESOLVING ∨ CanReset w

/-- The socket of a client, whose name is known. -/
structure Placed (w : World α) : Prop where
  client : w.self.listenPort = 0
  named : w.self.getState = CLOSED → w.self.state = CLOSED
  known : w.self.state ≠ UNKNOWN_HOST

/-- There is a connection, or `connect` waits for an address. -/
structure Attempting (s : Socket) : Prop where
  state : s.getState ≠ CLOSED
  resumes : s.state = RESOLVING → s.connectOnResolution

/-- Busy clients have a connection, or are on the way to one. -/
structure Attended (w : World α) : Prop where
  placed : Placed w
  attempting : c.busy w.app → Attempting w.self
  closable : c.busy w.app → c.Closable w

/-- Between two worlds the socket has kept its handler and the send buffer its size, and no job
has begun. -/
structure Constant (w w' : World α) : Prop where
  tcp : w'.self.tcp = w.self.tcp
  sendSize : w'.stack.sendSize = w.stack.sendSize
  busy : c.busy w'.app → c.busy w.app

/-- What the functions of a class must do. -/
structure Lawful : Prop where
  ready_iff : ∀ w, c.ready w ↔ ¬ c.busy w.app ∧ w.self.getState = CLOSED
  request_eq : ∀ dns job w, ∃ a, c.request dns job w =
    if !c.ready w then w else (connect c.callbacks dns).exec { w with app := a }
  on : ∀ e w, c.Constant w (c.callbacks.on e w)
  onData : ∀ d w, c.Constant w (c.callbacks.onDataReceived d w).2
  onReset : ∀ b w, (c.callbacks.on (.onReset b) w).self = w.self ∧
    ¬ c.busy (c.callbacks.on (.onReset b) w).app
  onClosed : ∀ w, w.self.listenPort = 0 → w.self.state = CLOSED → (c.busy w.app → c.Closable w) →
    c.Attended (c.callbacks.on .onClosed w) ∧ (c.callbacks.on .onClosed w).self.state = CLOSED
  onEstablished : ∀ w, w.self.state = ESTABLISHED → c.Attended w →
    c.Attended (c.callbacks.on .onEstablished w)
  onReadyToSend : ∀ w, c.Attended w → c.Attended (c.callbacks.on .onReadyToSend w)
  onLocalClosed : ∀ w, c.Attended w → c.Attended (c.callbacks.on .onLocalClosed w)
  onRemoteClosed : ∀ w, Placed w → (c.busy w.app → Attempting w.self) →
    c.Attended (c.callbacks.on .onRemoteClosed w)
  onDataReceived : ∀ d w, c.Attended w → c.Attended (c.callbacks.onDataReceived d w).2

/-! ### What an attended client may do by itself -/

/-- Between two worlds nothing has changed that a job depends on. -/
structure Held (w w' : World α) : Prop where
  app : w'.app = w.app
  state : w'.self.state = w.self.state
  connectOnResolution : w'.self.connectOnResolution = w.self.connectOnResolution
  listenPort : w'.self.listenPort = w.self.listenPort
  tcp : w'.self.tcp = w.self.tcp
  sendSize : w'.stack.sendSize = w.stack.sendSize

instance : IsPreorder (World α) Held where
  refl _ := ⟨rfl, rfl, rfl, rfl, rfl, rfl⟩
  trans _ _ _ h h' := ⟨h'.app.trans h.app, h'.state.trans h.state,
    h'.connectOnResolution.trans h.connectOnResolution, h'.listenPort.trans h.listenPort,
    h'.tcp.trans h.tcp, h'.sendSize.trans h.sendSize⟩

/-- A call that leaves the application and the size of the buffer, and of the socket all but the
sequence number. -/
theorem held_of_self {w w' : World α} (happ : w'.app = w.app)
    (hself : w'.self = { w.self with localSeq := w'.self.localSeq })
    (hsize : w'.stack.sendSize = w.stack.sendSize) : Held w w' where
  app := happ
  state := by rw [hself]
  connectOnResolution := by rw [hself]
  listenPort := by rw [hself]
  tcp := by rw [hself]
  sendSize := hsize

section Held

variable {c : Client α} {w w' : World α}

/-- Whether a RST can be sent is as before. -/
theorem Held.canReset_iff (h : Held w w') : CanReset w' ↔ CanReset w := by
  unfold CanReset Stack.room
  rw [h.tcp, h.sendSize]

/-- Whether a connection can be opened is as before. -/
theorem Held.canConnect_iff (h : Held w w') : CanConnect w' ↔ CanConnect w := by
  unfold CanConnect Stack.room
  rw [h.tcp, h.sendSize]

/-- A socket that is left to itself stays where it is. -/
theorem Held.placed (h : Held w w') (hw : Placed w) : Placed w' where
  client := h.listenPort.trans hw.client
  named := by
    unfold getState
    rw [h.state]
    exact hw.named
  known := by
    rw [h.state]
    exact hw.known

/-- What is being attempted is still being attempted. -/
theorem Held.attempting (h : Held w w') (hs : Attempting w.self) : Attempting w'.self where
  state := by
    unfold getState
    rw [h.state]
    exact hs.state
  resumes := by
    rw [h.state, h.connectOnResolution]
    exact hs.resumes

/-- A client whose socket is left to itself stays attended. -/
theorem Held.attended (h : Held w w') (hw : c.Attended w) : c.Attended w' where
  placed := h.placed hw.placed
  attempting := by
    rw [h.app]
    exact fun hbusy => h.attempting (hw.attempting hbusy)
  closable := by
    unfold Closable
    rw [h.app, h.state, h.canReset_iff]
    exact hw.closable

/-- A change to the other fields of the socket. -/
theorem held_setSelf {s : Socket} (hs : s = { w.self with
      localPort := s.localPort, remoteIP := s.remoteIP, remotePort := s.remotePort
      localSeq := s.localSeq, remoteSeq := s.remoteSeq, remoteMSS := s.remoteMSS
      remoteWindow := s.remoteWindow, stateTime := s.stateTime, attempts := s.attempts
      recvBuffer := s.recvBuffer, lastDataLength := s.lastDataLength }) :
    Held w (w.setSelf s) := by
  rw [hs]
  exact ⟨rfl, rfl, rfl, rfl, rfl, rfl⟩

/-- An observation leaves the socket to itself. -/
theorem held_observe (o : Obs) (w : World α) : Held w (w.observe o) :=
  ⟨rfl, rfl, rfl, rfl, rfl, rfl⟩

/-- A segment without payload. -/
theorem held_sendSegment (cb : Callbacks α) (control : UInt8) (seq ack : UInt32) (w : World α) :
    Held w ((sendSegment cb control 0 seq ack).exec w) := by
  obtain ⟨-, happ, hself⟩ := sendSegment_advances cb control 0 seq ack w
  have hsize := (keepsRoom_sendSegment cb control 0 seq ack w).sendSize
  have hadvance : advance control 0 w.self = { w.self with
      localSeq := (advance control 0 w.self).localSeq } := by
    unfold advance
    split_ifs
    · rfl
    · exact absurd ‹_› (by decide)
    · rfl
  unfold Proc.exec
  rcases hself with hself | hself
  · exact held_of_self happ (by rw [hself]) hsize
  · rw [hadvance] at hself
    exact held_of_self happ (by rw [hself]) hsize

/-- Nothing is lost of a client that is idle. -/
theorem attended_of_idle (h : Placed w) (hidle : ¬ c.busy w.app) : c.Attended w :=
  ⟨h, fun hbusy => absurd hbusy hidle, fun hbusy => absurd hbusy hidle⟩

/-- A client that is attended in CLOSED is idle. -/
theorem Attended.idle_of_closed (h : c.Attended w) (hclosed : w.self.state = CLOSED) :
    ¬ c.busy w.app := by
  intro hbusy
  refine (h.attempting hbusy).state ?_
  unfold getState
  rw [hclosed]
  rfl

end Held

/-! ### Entering a state -/

/-- The states of a connection, and of the handshake. -/
def openStates : List UInt8 :=
  [SYN_SENT, SYN_RECEIVED, ESTABLISHED, FIN_WAIT_1, FIN_WAIT_2, CLOSE_WAIT, CLOSING, LAST_ACK,
    TIME_WAIT]

section States

variable {c : Client α} {cb : Callbacks α} {w : World α} {state : UInt8}

/-- A state that fires no event. -/
theorem setState_quiet (hclosed : state = CLOSED → w.self.state = RESOLVING)
    (hopen : state ≠ ESTABLISHED) : setState cb state w =
      w.setSelf { w.self with state := state, stateTime := w.stack.millis } := by
  unfold setState announce
  dsimp only
  rw [if_neg hopen, if_neg fun h => h.2 (hclosed h.1)]

/-- A socket in one of these states is neither closed nor looking for its host. -/
theorem openStates_spec (h : state ∈ openStates) : state &&& 0x0F ≠ CLOSED ∧ state ≠ CLOSED ∧
    state ≠ UNKNOWN_HOST ∧ state ≠ RESOLVING := by
  have hall : ∀ state ∈ openStates, state &&& 0x0F ≠ CLOSED ∧ state ≠ CLOSED ∧
      state ≠ UNKNOWN_HOST ∧ state ≠ RESOLVING := by decide
  exact hall state h

/-- A socket that enters such a state. -/
theorem Placed.enter (h : Placed w) (hmem : state ∈ openStates) (time : UInt32) :
    Placed (w.setSelf { w.self with state := state, stateTime := time }) ∧
      Attempting (w.setSelf { w.self with state := state, stateTime := time }).self := by
  obtain ⟨hmask, hclosed, hknown, hresolving⟩ := openStates_spec hmem
  exact ⟨⟨h.client, fun heq => absurd heq hmask, hknown⟩, hmask, fun heq => absurd heq hresolving⟩

/-- A busy client enters such a state from another, or with the means to leave it again. -/
theorem attended_enter (h : Placed w) (hmem : state ∈ openStates) (time : UInt32)
    (hcan : c.busy w.app → c.recurses → CanReset w) :
    c.Attended (w.setSelf { w.self with state := state, stateTime := time }) :=
  ⟨(h.enter hmem time).1, fun _ => (h.enter hmem time).2, fun hbusy hrec => .inr (hcan hbusy hrec)⟩

/-- What a client can send outside RESOLVING. -/
theorem Attended.canReset (h : c.Attended w) (hstate : w.self.state ≠ RESOLVING)
    (hbusy : c.busy w.app) (hrec : c.recurses) : CanReset w :=
  (h.closable hbusy hrec).resolve_left hstate

/-- Entering a state of an open connection other than ESTABLISHED leaves the client attended. -/
theorem attended_setState (h : Placed w) (hmem : state ∈ openStates) (hopen : state ≠ ESTABLISHED)
    (hcan : c.busy w.app → c.recurses → CanReset w) : c.Attended (setState cb state w) := by
  rw [setState_quiet (fun heq => absurd heq (openStates_spec hmem).2.1) hopen]
  exact attended_enter h hmem _ hcan

/-- A socket without a listening port is no host. -/
theorem not_isHost (h : w.self.listenPort = 0) : ¬ w.self.isHost := by
  unfold isHost
  rw [h]
  decide

/-- A client is closed. -/
theorem closed_client (h : w.self.listenPort = 0) : closed cb w = setState cb CLOSED w := by
  unfold closed
  exact if_neg fun hhost => not_isHost h hhost.2

/-- A client that has no address yet is closed without an event. -/
theorem closed_resolving (h : w.self.listenPort = 0) (hstate : w.self.state = RESOLVING) :
    closed cb w = w.setSelf { w.self with state := CLOSED, stateTime := w.stack.millis } := by
  rw [closed_client h]
  exact setState_quiet (fun _ => hstate) (by decide)

end States

/-! ### Closing -/

section Closing

variable {c : Client α} {w w' : World α} {seq ack : UInt32}

/-- Where a socket is depends on the socket only. -/
theorem Placed.of_self (h : Placed w) (hself : w'.self = w.self) : Placed w' := by
  refine ⟨?_, ?_, ?_⟩
  · rw [hself]
    exact h.client
  · rw [hself]
    exact h.named
  · rw [hself]
    exact h.known

/-- A closed client is in its place. -/
theorem placed_closed (h : w.self.listenPort = 0) (hstate : w.self.state = CLOSED) : Placed w :=
  ⟨h, fun _ => hstate, by rw [hstate]; decide⟩

variable (hc : c.Lawful)

include hc

/-- The event of a RST ends the job. -/
theorem attended_fire_onReset (h : Placed w) (b : Bool) :
    c.Attended (fire c.callbacks (.onReset b) w) ∧
      (fire c.callbacks (.onReset b) w).self = w.self ∧
        ¬ c.busy (fire c.callbacks (.onReset b) w).app := by
  obtain ⟨hself, hidle⟩ := hc.onReset b (w.observe (.event w.this (.onReset b)))
  exact ⟨attended_of_idle (h.of_self hself) hidle, hself, hidle⟩

/-- Closing the socket of an attended client leaves it attended, and closed. -/
theorem attended_closed (h : c.Attended w) (hstate : w.self.state ≠ RESOLVING) :
    c.Attended (closed c.callbacks w) ∧ (closed c.callbacks w).self.state = CLOSED := by
  have hfires : closed c.callbacks w = fire c.callbacks .onClosed
      (w.setSelf { w.self with state := CLOSED, stateTime := w.stack.millis }) := by
    rw [closed_client h.placed.client]
    unfold setState announce
    dsimp only
    rw [if_neg (by decide), if_pos ⟨rfl, hstate⟩]
  rw [hfires]
  exact hc.onClosed _ h.placed.client rfl fun hbusy hrec => .inr (h.canReset hstate hbusy hrec)

/-- A reset leaves the client where it is; if the client is busy after it, the RST could not be
sent. -/
theorem attended_reset (h : c.Attended w) (seq ack : UInt32) :
    c.Attended ((reset c.callbacks seq ack).exec w) ∧
      ((reset c.callbacks seq ack).exec w).self.state = w.self.state ∧
        (c.busy ((reset c.callbacks seq ack).exec w).app → ¬ CanReset w ∧ c.busy w.app) := by
  have hheld := held_sendSegment c.callbacks (resetControl ack w) seq ack w
  rw [exec_reset]
  split
  case isTrue hcan =>
    obtain ⟨hattended, hself, hidle⟩ := attended_fire_onReset hc (hheld.placed h.placed) false
    exact ⟨hattended, (congrArg Socket.state hself).trans hheld.state, fun hbusy => absurd hbusy hidle⟩
  case isFalse hcan =>
    refine ⟨hheld.attended h, hheld.state, fun hbusy => ⟨hcan, ?_⟩⟩
    rwa [hheld.app] at hbusy

/-- Forcing the socket closed leaves the client attended. -/
theorem attended_forceClose (h : c.Attended w)
    (hcan : c.busy w.app → w.self.state = RESOLVING → CanReset w) :
    c.Attended (Socket.forceClose c.callbacks w) ∧
      (Socket.forceClose c.callbacks w).self.state = CLOSED := by
  unfold Socket.forceClose
  dsimp only
  split
  · obtain ⟨hattended, hstate, hbusy⟩ := attended_reset hc h w.self.localSeq w.self.remoteSeq
    by_cases hresolving : w.self.state = RESOLVING
    · have hclient := hattended.placed.client
      rw [closed_resolving hclient (hstate.trans hresolving)]
      refine ⟨attended_of_idle (placed_closed hclient rfl) fun h => ?_, rfl⟩
      exact (hbusy h).1 (hcan (hbusy h).2 hresolving)
    · exact attended_closed hc hattended (hstate ▸ hresolving)
  case isFalse hstate =>
    refine attended_closed hc h ?_
    rw [not_not.mp hstate]
    decide

/-- A RST that is received leaves the client attended. -/
theorem attended_handleReset (h : c.Attended w) :
    c.Attended (handleReset c.callbacks ack seq w) := by
  have hclosed := fun hstate => attended_closed hc h hstate
  have hevent := fun {w : World α} h => (attended_fire_onReset (w := w) hc h true).1
  unfold handleReset
  split
  case isTrue hsent =>
    refine hevent (hclosed ?_).1.placed
    rw [hsent.1]
    decide
  split
  · split
    · exact h
    split
    case isTrue hreceived =>
      refine (hclosed ?_).1
      rw [hreceived]
      decide
    · by_cases hresolving : w.self.state = RESOLVING
      · rw [closed_resolving h.placed.client hresolving]
        exact hevent (placed_closed h.placed.client rfl)
      · exact hevent (hclosed hresolving).1.placed
  · exact h

/-- An established connection. -/
theorem attended_established (h : c.Attended w) (hstate : w.self.state ≠ RESOLVING) :
    c.Attended (setState c.callbacks ESTABLISHED w) := by
  have hfires : setState c.callbacks ESTABLISHED w =
      fire c.callbacks .onReadyToSend (fire c.callbacks .onEstablished
        (w.setSelf { w.self with state := ESTABLISHED, stateTime := w.stack.millis })) := by
    unfold setState announce
    dsimp only
    rw [if_pos rfl, if_neg fun h => absurd h.1 (by decide)]
  have henter : c.Attended
      (w.setSelf { w.self with state := ESTABLISHED, stateTime := w.stack.millis }) :=
    attended_enter h.placed (by decide) _ fun hbusy hrec => h.canReset hstate hbusy hrec
  rw [hfires]
  refine hc.onReadyToSend _ ((held_observe _ _).attended ?_)
  exact hc.onEstablished _ rfl ((held_observe _ _).attended henter)

end Closing

/-! ### The calls -/

section Calls

variable {c : Client α} {cb : Callbacks α} {w : World α} {dns : Resolver}

/-- A FIN that has been sent could be sent. -/
theorem canReset_of_close {w' : World α} (hopen : ¬ w.self.localClosed)
    (hrun : (Socket.close cb).run w = (some (), w')) : CanReset w := by
  unfold Socket.close at hrun
  rw [Proc.run_read_bind, if_neg hopen] at hrun
  obtain ⟨_, w₁, hsent, -⟩ := Proc.run_bind_eq_some hrun
  exact sendSegment_some hsent

/-- The states a FIN leads to. -/
theorem stateAfterClose_open {state next : UInt8} (h : stateAfterClose state = some next) :
    next ∈ openStates ∧ next ≠ ESTABLISHED := by
  unfold stateAfterClose at h
  split_ifs at h
  · rw [← Option.some.inj h]
    decide
  · rw [← Option.some.inj h]
    decide
  · rw [← Option.some.inj h]
    decide

/-- So does `close`, once its FIN is sent. -/
theorem attended_closing (h : c.Attended w) (hcan : CanReset w) : c.Attended (closing cb w) := by
  have hheld : Held w (w.setSelf { w.self with attempts := 1 }) := held_setSelf rfl
  unfold closing
  split
  case h_1 state hstate =>
    obtain ⟨hmem, hopen⟩ := stateAfterClose_open hstate
    exact attended_setState (hheld.placed h.placed) hmem hopen fun _ _ => hheld.canReset_iff.mpr hcan
  case h_2 => exact hheld.attended h

/-- `close` with any callbacks that do what they must when it is done. -/
theorem attended_close (hlocal : ∀ w, c.Attended w → c.Attended (cb.on .onLocalClosed w))
    (h : c.Attended w) : c.Attended ((Socket.close cb).exec w) := by
  by_cases hclosed : w.self.localClosed
  · rw [Proc.exec, close_idle hclosed]
    exact h
  have hheld := held_sendSegment cb (FIN ||| ACK) 0 0 w
  have hattended := hheld.attended h
  rcases close_cases cb hclosed with hrun | ⟨-, hrun⟩
  · rw [Proc.exec, hrun]
    exact hattended
  · have hcan := hheld.canReset_iff.mpr (canReset_of_close hclosed hrun)
    rw [Proc.exec, hrun]
    exact hlocal _ ((held_observe _ _).attended (attended_closing hattended hcan))

/-- A connection that awaits an ACK. -/
theorem attended_awaiting (h : c.Attended w) (hopen : w.self.getState = ESTABLISHED)
    (hstate : c.recurses → w.self.state ≠ RESOLVING) :
    c.Attended (w.setSelf { w.self with state := w.self.state ||| AWAITING_ACK }) := by
  have hall : ∀ state : UInt8, (state ||| AWAITING_ACK) &&& 0x0F = state &&& 0x0F ∧
      state ||| AWAITING_ACK ≠ UNKNOWN_HOST ∧ state ||| AWAITING_ACK ≠ RESOLVING :=
    forall_uint8 (by decide +kernel)
  obtain ⟨hmask, hknown, hresolving⟩ := hall w.self.state
  have hne : (w.self.state ||| AWAITING_ACK) &&& 0x0F ≠ CLOSED := by
    rw [hmask, show w.self.state &&& 0x0F = ESTABLISHED from hopen]
    decide
  exact ⟨⟨h.placed.client, fun heq => absurd heq hne, hknown⟩,
    fun _ => ⟨hne, fun heq => absurd heq hresolving⟩,
    fun hbusy hrec => .inr (h.canReset (hstate hrec) hbusy hrec)⟩

/-- A segment with data. -/
theorem attended_sendSegment (h : c.Attended w) (hopen : w.self.getState = ESTABLISHED)
    (hstate : c.recurses → w.self.state ≠ RESOLVING) (control : UInt8) (length : UInt16)
    (seq ack : UInt32) : c.Attended ((sendSegment cb control length seq ack).exec w) := by
  obtain ⟨-, happ, hself⟩ := sendSegment_advances cb control length seq ack w
  have hsize := (keepsRoom_sendSegment cb control length seq ack w).sendSize
  unfold Proc.exec
  generalize ((sendSegment cb control length seq ack).run w).2 = w' at *
  rcases hself with hself | hself
  · exact (held_of_self happ (by rw [hself]) hsize).attended h
  unfold advance at hself
  split_ifs at hself
  · exact (held_of_self happ (by rw [hself]) hsize).attended h
  · have hheld : Held (w.setSelf { w.self with state := w.self.state ||| AWAITING_ACK }) w' :=
      ⟨happ, by rw [hself]; rfl, by rw [hself]; rfl, by rw [hself]; rfl, by rw [hself]; rfl, hsize⟩
    exact hheld.attended (attended_awaiting h hopen hstate)
  · exact (held_of_self happ (by rw [hself]) hsize).attended h

/-- Accesses to the buffers. -/
theorem held_onMem {β : Type} (x : Proc Memory β) :
    Proc.Within Held (World.onMem (α := α) x) :=
  fun _ => ⟨rfl, rfl, rfl, rfl, rfl, rfl⟩

/-- Data that `send` is given, outside RESOLVING. -/
theorem attended_send (h : c.Attended w) (length : UInt16)
    (hstate : c.recurses → w.self.state ≠ RESOLVING) :
    c.Attended ((Socket.send cb length).exec w) := by
  unfold Socket.send Proc.exec
  rw [Proc.run_read_bind]
  split
  · exact h
  split
  · exact h
  case isFalse hready =>
    have hopen : w.self.getState = ESTABLISHED :=
      (readyToSend_iff.mp (by simpa using hready)).1
    split
    · exact h
    rw [Proc.run_modify_bind]
    have h₁ : Held w (w.setSelf { w.self with attempts := 1 }) := held_setSelf rfl
    refine (Proc.within_query (R := Held) _).exec_bind
      (fun _ h₂ => (trans_of Held h₁ h₂).attended h) fun sb w₂ h₂ => ?_
    refine (Proc.within_query (R := Held) _).exec_bind
      (fun _ h₃ => (trans_of Held h₁ (trans_of Held h₂ h₃)).attended h) fun stash w₃ h₃ => ?_
    refine (held_onMem _).exec_bind
      (fun _ h₄ => (trans_of Held h₁ (trans_of Held h₂ (trans_of Held h₃ h₄))).attended h)
        fun _ w₄ h₄ => ?_
    have hheld := trans_of Held h₁ (trans_of Held h₂ (trans_of Held h₃ h₄))
    have hopen₄ : w₄.self.getState = ESTABLISHED := by
      unfold getState at hopen ⊢
      rw [hheld.state]
      exact hopen
    have hsent : c.Attended ((sendSegment cb (ACK ||| PSH) length 0 0).exec w₄) :=
      attended_sendSegment (hheld.attended h) hopen₄ (by rw [hheld.state]; exact hstate) _ _ _ _
    unfold Proc.exec at hsent
    rcases hrun : (sendSegment cb (ACK ||| PSH) length 0 0).run w₄ with ⟨_ | _, w₅⟩
    · rw [hrun] at hsent
      rw [Proc.run_bind_of_none hrun]
      exact hsent
    · rw [hrun] at hsent
      rw [Proc.run_bind_of_some hrun]
      exact Held.attended (held_setSelf rfl) hsent

/-- So does `send` with data. -/
theorem attended_sendBytes (h : c.Attended w) (data : Bytes)
    (hstate : c.recurses → w.self.state ≠ RESOLVING) :
    c.Attended ((Socket.sendBytes cb data).exec w) := by
  unfold Socket.sendBytes Proc.exec
  refine (Proc.within_query (R := Held) _).exec_bind (fun _ h₁ => h₁.attended h) fun sb w₁ h₁ => ?_
  refine (held_onMem _).exec_bind (fun _ h₂ => (trans_of Held h₁ h₂).attended h) fun _ w₂ h₂ => ?_
  have hheld := trans_of Held h₁ h₂
  exact attended_send (hheld.attended h) _ (by rw [hheld.state]; exact hstate)

/-! ### Opening -/

/-- `connect` waits for the address. -/
theorem attended_connectWith_resolving {resolveIP : Proc (World α) Unit} {w₁ : World α}
    (hrun : resolveIP.run w = (some (), w₁)) (h : Placed w₁) (hstate : w₁.self.state = RESOLVING) :
    c.Attended ((connectWith cb resolveIP).run w).2 := by
  unfold connectWith
  rw [Proc.run_bind_of_some hrun, Proc.run_read_bind, if_pos hstate]
  have hopen : w₁.self.getState ≠ CLOSED := by
    unfold getState
    rw [hstate]
    decide
  exact ⟨⟨h.client, h.named, h.known⟩, fun _ => ⟨hopen, fun _ => rfl⟩, fun _ _ => .inl hstate⟩

/-- `connect` on a closed socket that has its address. -/
theorem attended_connectWith {resolveIP : Proc (World α) Unit} {w₁ : World α}
    (hrun : resolveIP.run w = (some (), w₁)) (h : Placed w₁) (hstate : w₁.self.state = CLOSED)
    (hcan : c.busy w₁.app → CanConnect w₁) :
    c.Attended ((connectWith cb resolveIP).run w).2 := by
  unfold connectWith
  rw [Proc.run_bind_of_some hrun, Proc.run_read_bind, if_neg (by rw [hstate]; decide),
    if_neg (not_not_intro hstate)]
  split
  case isTrue hnone =>
    refine attended_of_idle h fun hbusy => ?_
    exact Option.isSome_iff_ne_none.mp (hcan hbusy).1 (Option.isNone_iff_eq_none.mp hnone)
  rw [Proc.run_bind_of_some (a := (IPHandler.getPort w₁.stack).1)
    (t := { w₁ with stack := (IPHandler.getPort w₁.stack).2 }) rfl, Proc.run_modify_bind]
  generalize hnext : (World.setSelf _ _ : World α) = w₂
  have hheld : Held w₁ w₂ := by
    rw [← hnext]
    exact ⟨rfl, rfl, rfl, rfl, rfl, rfl⟩
  have hsent := trans_of Held hheld (held_sendSegment cb SYN 0 0 w₂)
  have hbusy : c.busy w₁.app → (sendSegment cb SYN 0 0 0).succeeds w₂ := fun hbusy => by
    obtain ⟨htcp, hroom⟩ := hheld.canConnect_iff.mpr (hcan hbusy)
    have hfit : (0 : UInt16).toNat + 20 + (optionBytes SYN w₂.stack).length ≤ w₂.stack.room := by
      have hlen : (optionBytes SYN w₂.stack).length ≤ 4 := length_optionBytes_le w₂.stack
      have hzero : (0 : UInt16).toNat = 0 := rfl
      omega
    rw [Proc.succeeds, (sendSegment_transmitted cb SYN 0 0 0 htcp hfit).1]
    rfl
  unfold Proc.exec at hsent
  rcases hsyn : (sendSegment cb SYN 0 0 0).run w₂ with ⟨_ | _, w₃⟩
  · rw [hsyn] at hsent
    rw [Proc.run_bind_of_none hsyn]
    refine attended_of_idle (hsent.placed h) fun hbusy₃ => ?_
    have hsucceeds := hbusy (by rwa [hsent.app] at hbusy₃)
    rw [Proc.succeeds, hsyn] at hsucceeds
    exact absurd hsucceeds (by simp)
  · rw [hsyn] at hsent
    rw [Proc.run_bind_of_some hsyn, Proc.run_modify_bind]
    have hattempts : Held w₃ (w₃.setSelf { w₃.self with attempts := 1 }) := held_setSelf rfl
    have hall := trans_of Held hsent hattempts
    have hreset : c.busy w₃.app → c.recurses →
        CanReset (w₃.setSelf { w₃.self with attempts := 1 }) := fun hbusy₃ _ => by
      obtain ⟨htcp, hroom⟩ := hcan (by rwa [hsent.app] at hbusy₃)
      exact hall.canReset_iff.mpr ⟨htcp, by omega⟩
    have henter : c.Attended (setState cb SYN_SENT (w₃.setSelf { w₃.self with attempts := 1 })) :=
      attended_setState (hall.placed h) (by decide) (by decide) hreset
    exact henter

/-- What `resolveIP` finds on a closed socket. -/
theorem resolveWith_closed (cb : Callbacks α) (dns : Resolver) (connect : Proc (World α) Unit)
    (hstate : w.self.state = CLOSED) :
    (resolveWith cb dns connect).run w = match w.self.remoteDomain with
      | none => (some (), w)
      | some remoteDomain =>
          let found := dns remoteDomain w.stack
          let w := { w with stack := found.2 }
          if found.1.2 ≠ NO_ERROR then (none, setState cb UNKNOWN_HOST w)
          else match found.1.1 with
            | none => (some (), setState cb RESOLVING w)
            | some ip => (some (), w.setSelf { w.self with remoteIP := ip }) := by
  unfold resolveWith
  rw [Proc.run_read_bind, if_neg fun h => h.2.1 hstate]
  cases w.self.remoteDomain with
  | none => rfl
  | some remoteDomain =>
      rw [Proc.run_bind_of_some (a := (dns remoteDomain w.stack).1)
        (t := { w with stack := (dns remoteDomain w.stack).2 }) rfl]
      dsimp only
      generalize dns remoteDomain w.stack = found
      obtain ⟨⟨rip, error⟩, h⟩ := found
      dsimp only
      by_cases herror : error = NO_ERROR
      · rw [if_neg (not_not_intro herror), if_neg (not_not_intro herror)]
        cases rip with
        | none => rfl
        | some ip =>
            dsimp only
            rw [Proc.run_modify_bind, if_neg (by rw [hstate]; decide)]
            rfl
      · rw [if_pos herror, if_pos herror]
        rfl

/-- `connect` on a closed socket. -/
theorem attended_connect {next : Proc (World α) Unit} (h : Placed w)
    (hstate : w.self.state = CLOSED) (hdns : Hosted dns) (hconnects : Connects dns (c.busy w.app) w) :
    c.Attended ((connectWith cb (resolveWith cb dns next)).run w).2 := by
  have hrun := resolveWith_closed cb dns next hstate
  unfold Connects at hconnects
  split at hconnects
  case h_1 hnone =>
    rw [hnone] at hrun
    exact attended_connectWith hrun h hstate hconnects
  case h_2 remoteDomain hsome =>
    rw [hsome] at hrun
    dsimp only at hrun
    obtain ⟨herror, hcan⟩ := hconnects
    have hsize := hdns remoteDomain w.stack
    generalize dns remoteDomain w.stack = found at *
    obtain ⟨⟨rip, error⟩, stack⟩ := found
    dsimp only at *
    have hheld : Held w { w with stack := stack } := ⟨rfl, rfl, rfl, rfl, rfl, hsize⟩
    rw [if_neg (not_not_intro herror)] at hrun
    cases rip with
    | none =>
        have hquiet : setState cb RESOLVING { w with stack := stack } =
            ({ w with stack := stack } : World α).setSelf
              { w.self with state := RESOLVING, stateTime := stack.millis } :=
          setState_quiet (fun h => absurd h (by decide)) (by decide)
        rw [hquiet] at hrun
        exact attended_connectWith_resolving hrun
          ⟨h.client, fun h => absurd h (by decide : RESOLVING &&& 0x0F ≠ CLOSED),
            (by decide : RESOLVING ≠ UNKNOWN_HOST)⟩ rfl
    | some ip =>
        have hip := trans_of Held hheld (held_setSelf (w := { w with stack := stack })
          (s := { w.self with remoteIP := ip }) rfl)
        exact attended_connectWith hrun (hip.placed h) hstate fun hbusy =>
          hip.canConnect_iff.mpr (hcan rfl hbusy)

/-- `resolveIP` on the timer. -/
theorem attended_resolveIP (h : c.Attended w) (hstate : w.self.state = RESOLVING)
    (hdns : Hosted dns) (hresumes : Resumes dns (c.busy w.app) w) :
    c.Attended ((resolveIP cb dns).exec w) := by
  unfold resolveIP
  generalize hnext : connectWith cb (resolveWith cb dns Proc.fail) = next
  unfold resolveWith Proc.exec
  rw [Proc.run_read_bind, if_neg fun hne => hne.1 hstate]
  cases hname : w.self.remoteDomain with
  | none => exact h
  | some remoteDomain =>
      obtain ⟨herror, hfound⟩ := hresumes remoteDomain hname
      have hsize := hdns remoteDomain w.stack
      dsimp only
      rw [Proc.run_bind_of_some (a := (dns remoteDomain w.stack).1)
        (t := { w with stack := (dns remoteDomain w.stack).2 }) rfl]
      generalize dns remoteDomain w.stack = found at *
      obtain ⟨⟨rip, error⟩, stack⟩ := found
      dsimp only at *
      rw [if_neg (not_not_intro herror)]
      cases rip with
      | none =>
          have hquiet : setState cb RESOLVING { w with stack := stack } =
              ({ w with stack := stack } : World α).setSelf
                { w.self with state := RESOLVING, stateTime := stack.millis } :=
            setState_quiet (fun h => absurd h (by decide)) (by decide)
          dsimp only
          rw [Proc.run_modify, hquiet]
          have hstill : Held w (({ w with stack := stack } : World α).setSelf
              { w.self with state := RESOLVING, stateTime := stack.millis }) :=
            ⟨rfl, hstate.symm, rfl, rfl, rfl, hsize⟩
          exact hstill.attended h
      | some ip =>
          have hclosed : closed cb
              (({ w with stack := stack } : World α).setSelf { w.self with remoteIP := ip }) =
                ({ w with stack := stack } : World α).setSelf
                  { w.self with remoteIP := ip, state := CLOSED, stateTime := stack.millis } :=
            closed_resolving h.placed.client hstate
          dsimp only
          rw [Proc.run_modify_bind, if_pos hstate, Proc.run_modify_bind, hclosed]
          by_cases hflag : w.self.connectOnResolution
          · rw [if_pos hflag, Proc.run_modify_bind, ← hnext]
            exact attended_connect (placed_closed h.placed.client rfl) rfl hdns (hfound rfl hflag)
          · rw [if_neg hflag]
            refine attended_of_idle (placed_closed h.placed.client rfl) fun hbusy => hflag ?_
            exact (h.attempting hbusy).resumes hstate

end Calls

/-! ### The timer -/

section Timer

variable {c : Client α} {cb : Callbacks α} {w : World α} {dns : Resolver}

/-- Data that is sent again. -/
theorem attended_resendData (cb : Callbacks α) (h : c.Attended w)
    (hstate : w.self.state = ESTABLISHED ||| AWAITING_ACK) :
    c.Attended ((resendData cb).exec w) ∧
      ((resendData cb).exec w).self.state = ESTABLISHED ||| AWAITING_ACK := by
  have hall : ∀ {w' : World α}, Held w w' →
      c.Attended w' ∧ w'.self.state = ESTABLISHED ||| AWAITING_ACK :=
    fun hheld => ⟨hheld.attended h, hheld.state.trans hstate⟩
  have h₁ : Held w (w.setSelf { w.self with
      localSeq := w.self.localSeq - w.self.lastDataLength.toUInt32 }) := held_setSelf rfl
  unfold resendData Proc.exec
  rw [Proc.run_modify_bind]
  refine (Proc.within_query (R := Held) _).exec_bind (Q := fun w' => c.Attended w' ∧
    w'.self.state = ESTABLISHED ||| AWAITING_ACK) (fun _ h₂ => hall (trans_of Held h₁ h₂))
      fun sb w₂ h₂ => ?_
  refine (Proc.within_query (R := Held) _).exec_bind
    (fun _ h₃ => hall (trans_of Held h₁ (trans_of Held h₂ h₃))) fun stash w₃ h₃ => ?_
  rw [Proc.run_read_bind]
  refine (held_onMem _).exec_bind
    (fun _ h₄ => hall (trans_of Held h₁ (trans_of Held h₂ (trans_of Held h₃ h₄)))) fun _ w₄ h₄ => ?_
  obtain ⟨hattended, hopen⟩ := hall (trans_of Held h₁ (trans_of Held h₂ (trans_of Held h₃ h₄)))
  have hget : w₄.self.getState = ESTABLISHED := by
    unfold getState
    rw [hopen]
    decide
  refine ⟨attended_sendSegment hattended hget (fun _ => by rw [hopen]; decide) _ _ _ _, ?_⟩
  obtain ⟨-, -, hself⟩ := sendSegment_advances cb ACK w₃.self.lastDataLength 0 0 w₄
  rcases hself with hself | hself
  · rw [hself]
    exact hopen
  · rw [hself]
    unfold advance
    split_ifs
    · exact hopen
    · dsimp only
      rw [hopen]
      decide
    · exact hopen

variable (hc : c.Lawful)

include hc

/-- So does a retransmission. -/
theorem attended_resend (h : c.Attended w) (hstate : w.self.state ≠ RESOLVING) (control : UInt8) :
    c.Attended (resend c.callbacks control w) := by
  have hheld : Held w (w.setSelf { w.self with attempts := w.self.attempts + 1 }) := held_setSelf rfl
  unfold resend exhausted
  dsimp only
  split
  · exact (attended_forceClose hc (hheld.attended h) fun _ heq => absurd heq hstate).1
  · exact Held.attended (trans_of Held (trans_of Held hheld (held_setSelf rfl))
      (held_sendSegment c.callbacks control 0 0 _)) h

/-- So does the timer during the handshake. -/
theorem attended_checkHandshake (h : c.Attended w) (elapsed : UInt32) :
    c.Attended (checkHandshake c.callbacks elapsed w) := by
  have hne : ∀ {state : UInt8}, w.self.state = state → state ≠ RESOLVING →
      w.self.state ≠ RESOLVING := fun heq hne => heq ▸ hne
  unfold checkHandshake
  split_ifs with hsent hreceived hclosing _ hwait
  · exact attended_resend hc h (hne hsent (by decide)) SYN
  · exact attended_resend hc h (hne hreceived (by decide)) (SYN ||| ACK)
  · refine attended_resend hc h ?_ (FIN ||| ACK)
    rcases hclosing with hstate | hstate
    · exact hne hstate (by decide)
    · exact hne hstate (by decide)
  · exact h
  · exact (attended_closed hc h (hne hwait (by decide))).1
  · exact h

/-- So does the timer, which may find the name resolved. -/
theorem attended_checkRetransmission (h : c.Attended w) (hdns : Hosted dns)
    (hresumes : w.self.state = RESOLVING → Resumes dns (c.busy w.app) w) (elapsed : UInt32) :
    c.Attended (checkRetransmission c.callbacks dns elapsed w) := by
  unfold checkRetransmission
  split
  · exact h
  split
  case isTrue hstate => exact attended_resolveIP h hstate hdns (hresumes hstate)
  split
  · exact h
  split
  case isFalse => exact attended_checkHandshake hc h elapsed
  case isTrue hstate =>
    have hheld : Held w (w.setSelf { w.self with attempts := w.self.attempts + 1 }) :=
      held_setSelf rfl
    have hopen : (w.setSelf { w.self with attempts := w.self.attempts + 1 }).self.state =
        ESTABLISHED ||| AWAITING_ACK := hstate
    have hforce : ∀ {w' : World α}, c.Attended w' → w'.self.state = ESTABLISHED ||| AWAITING_ACK →
        c.Attended (Socket.forceClose c.callbacks w') := fun h heq =>
      (attended_forceClose hc h fun _ hres => absurd (heq.symm.trans hres) (by decide)).1
    unfold exhausted
    dsimp only
    split
    · exact hforce (hheld.attended h) hopen
    · obtain ⟨hsent, hstill⟩ := attended_resendData c.callbacks (hheld.attended h) hopen
      refine attended_checkHandshake hc ?_ elapsed
      split
      · exact hsent
      · exact hforce hsent hstill

/-- So does the timer as a whole. -/
theorem attended_checkState (h : c.Attended w) (hdns : Hosted dns)
    (hresumes : Resolves w → Resumes dns (c.busy w.app) w) :
    c.Attended (checkState c.callbacks dns w) := by
  unfold checkState
  split
  · exact h
  split
  · exact h
  dsimp only
  split
  case isTrue hlate =>
    split
    · exact attended_close hc.onLocalClosed h
    case isFalse hlocal =>
      have hne : w.self.state ≠ RESOLVING := by
        intro heq
        unfold localClosed at hlocal
        rw [heq] at hlocal
        exact hlocal (by decide)
      obtain ⟨hattended, hclosed⟩ := attended_forceClose hc h fun _ heq => absurd heq hne
      refine attended_checkRetransmission hc hattended hdns (fun heq => ?_) _
      rw [hclosed] at heq
      exact absurd heq (by decide)
  case isFalse hlate =>
    exact attended_checkRetransmission hc h hdns (fun hstate => hresumes ⟨hstate, hlate⟩) _

end Timer

/-! ### A segment -/

section Segments

variable {c : Client α} {w : World α}

instance : IsPreorder (World α) c.Constant where
  refl _ := ⟨rfl, rfl, id⟩
  trans _ _ _ h h' := ⟨h'.tcp.trans h.tcp, h'.sendSize.trans h.sendSize, h.busy ∘ h'.busy⟩

/-- A lookup keeps the size of the send buffer. -/
theorem sendSize_of_serves {h h' : Stack} (hs : Serves h h') : h'.sendSize = h.sendSize := by
  induction hs with
  | refl => rfl
  | mem _ _ ih => exact ih
  | output _ _ ih => exact ih
  | route _ _ ih => exact ih
  | @timer h' _ _ ih =>
      have hrest : (EtherControl.registerTimer .arp 250 h').2.sendSize = h'.sendSize := by
        unfold EtherControl.registerTimer
        split
        · rfl
        · rfl
      exact hrest.trans ih
  | port _ _ ih => exact ih

/-- What the callbacks keep, the calls that fire them keep. -/
theorem frames_constant {cb : Callbacks α} (hon : ∀ e w, c.Constant w (cb.on e w))
    (hdata : ∀ d w, c.Constant w (cb.onDataReceived d w).2) : Frames cb c.Constant where
  self _ _ hs := ⟨congrArg Prod.fst hs, rfl, id⟩
  stack _ _ hs := ⟨rfl, sendSize_of_serves hs, id⟩
  event _ _ := ⟨rfl, rfl, id⟩
  received _ _ _ := ⟨rfl, rfl, id⟩
  dangling _ _ := ⟨rfl, rfl, id⟩
  on := hon
  onDataReceived := hdata

/-- The calls on the socket of a lawful client begin no job. -/
theorem Lawful.frames (hc : c.Lawful) : Frames c.callbacks c.Constant :=
  frames_constant hc.on hc.onData

/-- An ACK leaves the socket to itself. -/
theorem held_sendACK (cb : Callbacks α) (w : World α) : Held w (sendACK cb w) :=
  held_sendSegment cb ACK 0 0 w

/-- Counting a FIN leaves the socket to itself. -/
theorem held_countFin (opt : UInt8) (w : World α) : Held w (countFin opt w) := by
  unfold countFin
  split
  · exact held_setSelf rfl
  · exact refl_of Held w

/-- Acknowledging a FIN leaves the socket to itself. -/
theorem held_acknowledgeFin (cb : Callbacks α) (payloadSize : UInt16) (w : World α) :
    Held w (acknowledgeFin cb payloadSize w) := by
  unfold acknowledgeFin
  split
  · exact trans_of Held (held_setSelf rfl) (held_sendACK cb _)
  · exact refl_of Held w

/-- Reading the MSS option leaves the socket to itself. -/
theorem held_readMSS (buf : View) (tcp_header_size : UInt8) (w : World α) :
    Held w (readMSS buf tcp_header_size w) := by
  unfold readMSS
  dsimp only
  split
  · split
    · exact held_setSelf rfl
    · exact refl_of Held w
  · exact refl_of Held w

/-- The state after a FIN. -/
theorem placed_finState (cb : Callbacks α) (h : c.Attended w) (ack : UInt32) :
    Placed (finState cb ack w) ∧
      (c.busy (finState cb ack w).app → Attempting (finState cb ack w).self) := by
  have henter : ∀ {state : UInt8}, state ∈ openStates → state ≠ ESTABLISHED →
      Placed (setState cb state w) ∧
        (c.busy (setState cb state w).app → Attempting (setState cb state w).self) := by
    intro state hmem hopen
    rw [setState_quiet (fun heq => absurd heq (openStates_spec hmem).2.1) hopen]
    obtain ⟨hplaced, hattempting⟩ := h.placed.enter hmem w.stack.millis
    exact ⟨hplaced, fun _ => hattempting⟩
  unfold finState
  split_ifs
  · exact henter (by decide) (by decide)
  · exact henter (by decide) (by decide)
  · exact henter (by decide) (by decide)
  · exact henter (by decide) (by decide)
  · exact ⟨h.placed, h.attempting⟩

variable (hc : c.Lawful)

include hc

/-- A payload that is offered leaves the client attended. -/
theorem attended_offerPayload (h : c.Attended w) (seq : UInt32) (payloadSize : UInt16)
    (payload : Bytes) : c.Attended (offerPayload c.callbacks seq payloadSize payload w) := by
  unfold offerPayload
  split
  · have hoffered := hc.onDataReceived payload w h
    dsimp only
    split
    · exact Held.attended (trans_of Held (held_observe _ _) (held_setSelf rfl)) hoffered
    · exact (held_observe _ _).attended hoffered
  · exact h

/-- So does a payload that is received. -/
theorem attended_handlePayload (h : c.Attended w) (opt : UInt8) (seq : UInt32)
    (payloadSize : UInt16) (payload : Bytes) :
    c.Attended (handlePayload c.callbacks opt seq payloadSize payload w) := by
  have hcounted := Held.attended (trans_of Held
    (held_setSelf (s := { w.self with recvBuffer := some payload }) rfl) (held_countFin opt _)) h
  exact (held_sendACK _ _).attended (attended_offerPayload hc hcounted seq payloadSize payload)

/-- So does a FIN. -/
theorem attended_handleFin (h : c.Attended w) (ack : UInt32) (payloadSize : UInt16) :
    c.Attended (handleFin c.callbacks ack payloadSize w) := by
  have hacknowledged := (held_acknowledgeFin c.callbacks payloadSize w).attended h
  obtain ⟨hplaced, hattempting⟩ := placed_finState c.callbacks hacknowledged ack
  exact hc.onRemoteClosed _ ((held_observe _ _).placed hplaced)
    fun hbusy => (held_observe _ _).attempting (hattempting hbusy)

/-- So does a segment in order. -/
theorem attended_handleInOrder (h : c.Attended w) (buf : Bytes) (opt : UInt8) (ack seq : UInt32)
    (tcp_header_size : UInt8) :
    c.Attended (handleInOrder c.callbacks buf opt ack seq tcp_header_size w) := by
  unfold handleInOrder
  dsimp only
  split_ifs
  · exact attended_handleFin hc (attended_handlePayload hc h _ _ _ _) _ _
  · exact attended_handleFin hc h _ _
  · exact attended_handlePayload hc h _ _ _ _
  · exact h

/-- So does the acknowledgement of the data that were sent. -/
theorem attended_clearAwaiting (h : c.Attended w) (hcan : c.busy w.app → c.recurses → CanReset w) :
    c.Attended (clearAwaiting c.callbacks w) := by
  have hall : ∀ state : UInt8, (state &&& 0x0F) &&& 0x0F = state &&& 0x0F ∧
      state &&& 0x0F ≠ UNKNOWN_HOST ∧ state &&& 0x0F ≠ RESOLVING := forall_uint8 (by decide +kernel)
  obtain ⟨hmask, hknown, hresolving⟩ := hall w.self.state
  refine hc.onReadyToSend _ ((held_observe _ _).attended ?_)
  exact ⟨⟨h.placed.client, fun heq => hmask.symm.trans heq, hknown⟩,
    fun hbusy => ⟨fun heq => (h.attempting hbusy).state (hmask.symm.trans heq),
      fun heq => absurd heq hresolving⟩, fun hbusy hrec => .inr (hcan hbusy hrec)⟩

/-- So does a segment on an established connection. -/
theorem attended_handleEstablished (h : c.Attended w) (buf : Bytes) (opt : UInt8)
    (ack seq : UInt32) : c.Attended (handleEstablished c.callbacks buf opt ack seq w) := by
  unfold handleEstablished
  dsimp only
  split
  · exact h
  split
  · exact (held_sendACK _ w).attended h
  split
  · exact h
  rename_i tcp_header_size _
  have horder := attended_handleInOrder hc h buf opt ack seq tcp_header_size
  split
  case isFalse => exact horder
  case isTrue hclear =>
    -- AWAITING_ACK is not RESOLVING, and what can be sent before the payload can be after it
    have hne : w.self.state ≠ RESOLVING := by
      intro heq
      rw [heq] at hclear
      exact absurd hclear.2 (by decide)
    have hconstant : c.Constant w (handleInOrder c.callbacks buf opt ack seq tcp_header_size w) :=
      hc.frames.handleInOrder buf opt ack seq tcp_header_size w
    refine attended_clearAwaiting hc horder fun hbusy hrec => ?_
    unfold CanReset Stack.room
    rw [hconstant.tcp, hconstant.sendSize]
    exact h.canReset hne (hconstant.busy hbusy) hrec

/-- So does an acknowledgement in the other states. -/
theorem attended_handleAck (h : c.Attended w) : c.Attended (handleAck c.callbacks w) := by
  have hne : ∀ {state : UInt8}, w.self.state = state → state ≠ RESOLVING →
      w.self.state ≠ RESOLVING := fun heq hne => heq ▸ hne
  unfold handleAck
  split_ifs with hreceived hone hclosing hlast
  · exact attended_established hc h (hne hreceived (by decide))
  · exact attended_setState h.placed (by decide) (by decide) (h.canReset (hne hone (by decide)))
  · exact attended_setState h.placed (by decide) (by decide) (h.canReset (hne hclosing (by decide)))
  · exact (attended_closed hc h (hne hlast (by decide))).1
  · exact h

omit hc in
/-- A client that does not listen is not connected to. -/
theorem attended_passiveOpen (cb : Callbacks α) (h : c.Attended w) (hstate : w.self.state = LISTEN)
    (buf : View) (seq : UInt32) : c.Attended (passiveOpen cb buf seq w) := by
  have h₁ : Held w (w.setSelf { w.self with remoteSeq := seq + 1 }) := held_setSelf rfl
  unfold passiveOpen
  dsimp only
  split
  · exact h₁.attended h
  rename_i port _
  have h₂ : Held w ((w.setSelf { w.self with remoteSeq := seq + 1 }).setSelf
      { w.self with remoteSeq := seq + 1, remotePort := port }) :=
    trans_of Held h₁ (held_setSelf rfl)
  split
  · exact h₂.attended h
  rename_i tcp_header_size _
  have h₃ := trans_of Held h₂ (held_readMSS buf tcp_header_size _)
  split
  · exact h₃.attended h
  rename_i port _
  have h₄ := trans_of Held h₃ (held_setSelf (s := { (readMSS buf tcp_header_size _).self with
    remotePort := port }) rfl)
  have h₅ := trans_of Held h₄ (held_sendSegment cb (SYN ||| ACK) 0 0 _)
  split
  · refine Held.attended (held_setSelf rfl) (attended_setState (h₅.placed h.placed) (by decide)
      (by decide) ?_)
    exact (h₅.attended h).canReset (by rw [h₅.state, hstate]; decide)
  · exact h₅.attended h

omit hc in
/-- So does a SYN in SYN_SENT. -/
theorem attended_simultaneousOpen (cb : Callbacks α) (h : c.Attended w)
    (hstate : w.self.state = SYN_SENT) (buf : View) (seq : UInt32) :
    c.Attended (simultaneousOpen cb buf seq w) := by
  have h₁ : Held w (w.setSelf { w.self with remoteSeq := seq + 1 }) := held_setSelf rfl
  unfold simultaneousOpen
  dsimp only
  split
  · exact h₁.attended h
  · rename_i tcp_header_size _
    have h₂ := trans_of Held h₁ (held_readMSS buf tcp_header_size _)
    refine (held_sendACK _ _).attended (attended_setState (h₂.placed h.placed) (by decide)
      (by decide) ?_)
    exact (h₂.attended h).canReset (by rw [h₂.state, hstate]; decide)

/-- So does a SYN and ACK in SYN_SENT. -/
theorem attended_activeOpen (h : c.Attended w) (hstate : w.self.state = SYN_SENT) (buf : View)
    (seq : UInt32) : c.Attended (activeOpen c.callbacks buf seq w) := by
  have h₁ : Held w (w.setSelf { w.self with remoteSeq := seq + 1 }) := held_setSelf rfl
  unfold activeOpen
  dsimp only
  split
  · exact h₁.attended h
  · rename_i tcp_header_size _
    have h₂ := trans_of Held h₁ (trans_of Held (held_readMSS buf tcp_header_size _)
      (held_sendACK c.callbacks _))
    exact attended_established hc (h₂.attended h) (by rw [h₂.state, hstate]; decide)

/-- So does a segment with a correct checksum. -/
theorem attended_handleValid (h : c.Attended w) (buf : Bytes) (opt : UInt8) (ack seq : UInt32) :
    c.Attended (handleValid c.callbacks buf opt ack seq w) := by
  have hrefuse : c.Attended (refuse c.callbacks (viewOf buf) opt ack seq w) := by
    unfold refuse
    split
    · exact (attended_reset hc h _ _).1
    · exact (attended_reset hc h _ _).1
  have hack := (held_sendACK c.callbacks w).attended h
  unfold handleValid
  refine iteInduction (fun _ => hrefuse) fun _ => ?_
  refine iteInduction (fun _ => hrefuse) fun _ => ?_
  refine iteInduction (fun _ => (attended_reset hc h _ _).1) fun _ => ?_
  refine iteInduction (fun _ => hack) fun _ => ?_
  refine iteInduction (fun _ => hack) fun _ => ?_
  refine iteInduction (fun _ => attended_handleReset hc h) fun _ => ?_
  refine iteInduction (fun hif => attended_passiveOpen _ h hif.1 _ _) fun _ => ?_
  refine iteInduction (fun hif => attended_simultaneousOpen _ h hif.1 _ _) fun _ => ?_
  refine iteInduction (fun hif => attended_activeOpen hc h hif.1 _ _) fun _ => ?_
  refine iteInduction (fun _ => attended_handleEstablished hc h _ _ _ _) fun hopen => ?_
  refine iteInduction (fun _ => attended_handleAck hc h) fun _ => ?_
  -- RESOLVING passes for ESTABLISHED, so that it does not come here
  refine (attended_forceClose hc h fun _ hstate => absurd ?_ hopen).1
  rw [hstate]
  decide

/-- So does a segment of any kind. -/
theorem attended_handleSegment (h : c.Attended w) (sourceIP : IPAddr) (buf : Bytes) :
    c.Attended (handleSegment c.callbacks sourceIP buf w) := by
  have h₁ : Held w (w.setSelf { w.self with recvBuffer := some [] }) := held_setSelf rfl
  unfold handleSegment
  dsimp only
  split
  · rename_i opt ack seq window _ _ _ _
    have h₂ : Held w (takeNote sourceIP opt window
        (w.setSelf { w.self with recvBuffer := some [] })) := trans_of Held h₁ (held_setSelf rfl)
    split
    · exact (held_observe _ _).attended (h₂.attended h)
    split
    · exact attended_handleValid hc (h₂.attended h) _ _ _ _
    · exact h₂.attended h
  · exact h₁.attended h

end Segments

/-! ### Every run -/

section Runs

variable {c : Client α} {w w' : World α} {dns : Resolver}

/-- A client that is busy in fewer cases can connect as well. -/
theorem Connects.mono {busy busy' : Prop} (h : Connects dns busy w) (hbusy : busy' → busy) :
    Connects dns busy' w := by
  unfold Connects at h ⊢
  split at h
  · exact h ∘ hbusy
  · exact ⟨h.1, fun hsome => h.2 hsome ∘ hbusy⟩

/-- So does anything outside the socket. -/
theorem attended_outside (h : c.Attended w) (hout : Outside w w') : c.Attended w' := by
  have hrest := hout.rest
  have hstate : w'.self.state = w.self.state := by rw [hrest]
  have hflag : w'.self.connectOnResolution = w.self.connectOnResolution := by rw [hrest]
  have hclient : w'.self.listenPort = w.self.listenPort := by rw [hrest]
  have hreset : CanReset w → CanReset w' := by
    rintro ⟨htcp, hroom⟩
    unfold CanReset Stack.room
    rw [hout.tcp htcp, hout.sendSize]
    exact ⟨htcp, hroom⟩
  refine ⟨⟨hclient.trans h.placed.client, ?_, ?_⟩, ?_, ?_⟩
  · unfold getState
    rw [hstate]
    exact h.placed.named
  · rw [hstate]
    exact h.placed.known
  · rw [hout.app]
    refine fun hbusy => ⟨?_, ?_⟩
    · unfold getState
      rw [hstate]
      exact (h.attempting hbusy).state
    · rw [hstate, hflag]
      exact (h.attempting hbusy).resumes
  · rw [hout.app]
    refine fun hbusy hrec => ?_
    rw [hstate]
    exact (h.closable hbusy hrec).imp_right hreset

variable (hc : c.Lawful)

include hc

/-- So does a new job. -/
theorem attended_request (h : c.Attended w) (hdns : Hosted dns) (job : c.Job)
    (hconnects : c.ready w → Connects dns True w) : c.Attended (c.request dns job w) := by
  obtain ⟨a, heq⟩ := hc.request_eq dns job w
  rw [heq]
  by_cases hready : c.ready w
  · have hclosed := h.placed.named ((hc.ready_iff w).mp hready).2
    rw [if_neg (by simpa using hready)]
    exact attended_connect (w := { w with app := a }) ⟨h.placed.client, h.placed.named, h.placed.known⟩
      hclosed hdns ((hconnects hready).mono fun _ => trivial)
  · rw [if_pos (by simpa using hready)]
    exact h

/-- What one step keeps. -/
theorem attended_run (h : c.Attended w) {e : c.Step} (he : c.Granted w e) :
    c.Attended (c.run e w) := by
  obtain ⟨hpossible, hgranted⟩ := he
  cases e with
  | request dns job => exact attended_request hc h hpossible job hgranted
  | segment sourceIP buf => exact attended_handleSegment hc h sourceIP buf
  | tick dns => exact attended_checkState hc h hpossible hgranted
  | close => exact attended_close hc.onLocalClosed h
  | forceClose => exact (attended_forceClose hc h hgranted).1
  | outside w' => exact attended_outside h hpossible

/-- An attended client has lost no job. -/
theorem Attended.free (h : c.Attended w) : c.Free w where
  busy hbusy := by
    refine ⟨fun hclosed => h.idle_of_closed hclosed hbusy, h.placed.known⟩
  ready hstate := by
    have hclosed := hstate.resolve_right h.placed.known
    refine (hc.ready_iff w).mpr ⟨h.idle_of_closed hclosed, ?_⟩
    unfold getState
    rw [hclosed]
    decide

omit hc in
/-- A client that has just been constructed is attended. -/
theorem Fresh.attended (h : c.Fresh w) : c.Attended w :=
  attended_of_idle (placed_closed h.client h.closed) h.idle

/-- A run whose steps are all granted loses no job. -/
theorem reaches_free (h : c.Fresh w) (hreach : Reaches c.Granted c.run w w') : c.Free w' :=
  (hreach.invariant h.attended fun _ _ ht he => attended_run hc ht he).free hc

end Runs

end Client

end AtmegaNet
