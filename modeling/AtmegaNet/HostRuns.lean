import AtmegaNet.StateDiagram
import AtmegaNet.Lib.Runs

/-!
# Runs of the sockets of a host

A `Net` runs by registrations, the calls of its applications, the packets and the ticks of the
TCP handler, and by whatever else happens on the host. `Stable` collects what an invariant of
such runs has to stand; the relation that the functions of `Socket` stay inside does the rest.

## Main results

* `registerTCPHandler_registers`: what a registration does to the sockets and the table.
* `Stable.run`, `Stable.reaches`: an invariant that stands the single steps holds in every
  state of every run.
-/

open Procedure Runs

namespace AtmegaNet

/-! ### Registration -/

namespace Net

variable {α : Type}

/-- The socket `i` is in the table. -/
def Registered (n : Net α) (i : ℕ) : Prop := some i ∈ n.tcp.registeredSockets

/-- A socket that has got a handler: a host listens. -/
def Adopted (tcp : ℕ) (s s' : Socket) : Prop :=
  s'.bearings = Socket.bearings { s with
    tcp := some tcp, state := if s.isHost then Socket.LISTEN else s.state }

theorem Adopted.tcp {tcp : ℕ} {s s' : Socket} (h : Adopted tcp s s') : s'.tcp = some tcp :=
  congrArg (fun b => b.2.1) h

/-- A registration of the socket `i`: nothing else changes, and `i` gets into the table only
if it gets a handler, which makes a host listen. -/
structure Registers (i : ℕ) (n n' : Net α) : Prop where
  other : ∀ j, j ≠ i → n'.sockets j = n.sockets j
  self : n'.sockets i = n.sockets i ∨ Adopted n.tcp.number (n.sockets i) (n'.sockets i)
  table : ∀ j, n'.Registered j →
    n.Registered j ∨ j = i ∧ Adopted n.tcp.number (n.sockets i) (n'.sockets i)

/-- A registration ends with a change to the socket. -/
theorem registers_call {i : ℕ} {n n₂ : Net α} (f : World α → World α)
    (hthis : (f (n₂.world i)).this = i)
    (hself : (f (n₂.world i)).self = n.sockets i ∨
      Adopted n.tcp.number (n.sockets i) (f (n₂.world i)).self)
    (hother : ∀ j, j ≠ i → n₂.sockets j = n.sockets j)
    (htable : ∀ j, n₂.Registered j →
      n.Registered j ∨ j = i ∧ Adopted n.tcp.number (n.sockets i) (f (n₂.world i)).self) :
    n.Registers i (n₂.call i f) := by
  have hcall : (n₂.call i f).sockets i = (f (n₂.world i)).self := if_pos hthis.symm
  refine ⟨fun j hj => ?_, ?_, fun j hj => ?_⟩
  · exact (if_neg fun h => hj (h.trans hthis)).trans (hother j hj)
  · rwa [hcall]
  · rw [hcall]
    exact htable j hj

end Net

namespace TCPHandler

variable {α : Type}

/-- The half of a registration that the handler does: it leaves the sockets alone, and puts the
socket into the table only if it succeeds. -/
structure Tabulates (i : ℕ) (n : Net α) (x : Bool × Net α) : Prop where
  sockets : x.2.sockets = n.sockets
  number : x.2.tcp.number = n.tcp.number
  table : ∀ j, x.2.Registered j → n.Registered j ∨ j = i ∧ x.1 = true

theorem Tabulates.unregistered {i k : ℕ} {n n' : Net α} {socket : Option ℕ}
    (hsockets : n'.sockets = n.sockets) (htcp : n'.tcp.number = n.tcp.number)
    (htable : n'.tcp.registeredSockets = n.tcp.registeredSockets.set k socket) :
    Tabulates i n (false, setSlot n' k none) := by
  refine ⟨hsockets, htcp, fun j hj => .inl ?_⟩
  have hset : some j ∈ n.tcp.registeredSockets.set k none := by
    have hj : some j ∈ n'.tcp.registeredSockets.set k none := hj
    rwa [htable, List.set_set] at hj
  exact (List.mem_or_eq_of_mem_set hset).resolve_right (by simp)

/-- The handler finds that the socket has set it. -/
theorem registerSocket_tabulates {registerTCPHandler : Net α → Bool × Net α} {i : ℕ}
    {n : Net α} (hback : ∀ n' : Net α, n'.sockets = n.sockets →
      n'.tcp.number = n.tcp.number → registerTCPHandler n' = (true, n')) :
    Tabulates i n (registerSocketWith registerTCPHandler i n) := by
  unfold registerSocketWith
  split
  · exact ⟨rfl, rfl, fun j hj => .inl hj⟩
  split
  · exact ⟨rfl, rfl, fun j hj => .inl hj⟩
  rename_i k _
  rw [hback (setSlot n k (some i)) rfl rfl]
  dsimp only
  rw [if_pos rfl]
  obtain ⟨timed, timerIndex, stack, htimer⟩ : ∃ timed timerIndex stack,
      ensureTimer (setSlot n k (some i)) = (timed, { setSlot n k (some i) with
        tcp := { (setSlot n k (some i)).tcp with timerIndex := timerIndex }
        stack := stack }) := by
    unfold ensureTimer
    split
    · exact ⟨_, _, _, rfl⟩
    · exact ⟨_, _, _, rfl⟩
  rw [htimer]
  dsimp only
  split
  · refine ⟨rfl, rfl, fun j hj => ?_⟩
    have hset : some j ∈ n.tcp.registeredSockets.set k (some i) := hj
    exact (List.mem_or_eq_of_mem_set hset).imp_right fun h => ⟨Option.some.inj h, rfl⟩
  · exact .unregistered rfl rfl rfl

end TCPHandler

namespace Socket

variable {α : Type}

/-- What a socket that has got its handler makes of itself. -/
theorem adopted (cb : Callbacks α) (stash : Option Buffer) {w : World α} {tcp : ℕ} {s : Socket}
    (hself : w.self = { s with tcp := some tcp }) :
    let w₁ := w.setSelf { w.self with stash := stash }
    let w₂ := if w₁.self.isHost then setState cb LISTEN w₁ else w₁
    let w₃ := w₂.setSelf { w₂.self with
      sendBuffer := some (OffsetBuffer.reinit w₂.stack.ipPayload 20 0) }
    w₃.this = w.this ∧ Net.Adopted tcp s w₃.self := by
  intro w₁ w₂ w₃
  have hhost : w₁.self.isHost = s.isHost := by
    show w.self.isHost = _
    rw [hself]
    rfl
  by_cases h : w₁.self.isHost
  · have hw₂ : w₂ = setState cb LISTEN w₁ := if_pos h
    have hthis : w₂.this = w.this := by rw [hw₂]; rfl
    refine ⟨hthis, ?_⟩
    show bearings w₂.self = _
    rw [hw₂, ← hhost, if_pos h]
    show bearings { w.self with state := LISTEN } = _
    rw [hself]
  · have hw₂ : w₂ = w₁ := if_neg h
    have hthis : w₂.this = w.this := by rw [hw₂]; rfl
    refine ⟨hthis, ?_⟩
    show bearings w₂.self = _
    rw [hw₂, ← hhost, if_neg h]
    show bearings w.self = _
    rw [hself]

/-- `Socket::registerTCPHandler` -/
theorem registerTCPHandler_registers (cb : Callbacks α) (i : ℕ) (n : Net α) :
    n.Registers i (registerTCPHandler cb i n).2 := by
  unfold registerTCPHandler
  rw [registerTCPHandlerWith]
  split
  · exact ⟨fun _ _ => rfl, .inl rfl, fun j hj => .inl hj⟩
  split
  · exact ⟨fun _ _ => rfl, .inl rfl, fun j hj => .inl hj⟩
  rename_i hnone
  have hnone : (n.sockets i).tcp = none := by simpa using hnone
  generalize hn₁ : n.call i _ = n₁
  have hself : n₁.sockets i = { n.sockets i with tcp := some n.tcp.number } := by
    rw [← hn₁]
    exact if_pos rfl
  have hother : ∀ j, j ≠ i → n₁.sockets j = n.sockets j := by
    intro j hj
    rw [← hn₁]
    exact if_neg hj
  have htcp : n₁.tcp = n.tcp := by rw [← hn₁]; rfl
  have htable : TCPHandler.Tabulates i n₁ (TCPHandler.registerSocketWith
      (registerTCPHandlerWith (fun n => (false, n)) cb i) i n₁) := by
    refine TCPHandler.registerSocket_tabulates fun n' hs hnum => ?_
    rw [registerTCPHandlerWith, if_pos (by rw [hs, hself, hnum, htcp])]
  generalize TCPHandler.registerSocketWith _ i n₁ = x at htable ⊢
  obtain ⟨registered, n₂⟩ := x
  obtain ⟨hsockets, hnumber, hslots⟩ := htable
  dsimp only at hsockets hnumber hslots ⊢
  rw [← hsockets] at hself hother
  have hslots : ∀ j, n₂.Registered j → n.Registered j ∨ j = i ∧ registered = true := by
    intro j hj
    refine (hslots j hj).imp_left fun h => ?_
    rwa [Net.Registered, htcp] at h
  split
  case isTrue hreg =>
    have hadopted := adopted cb (TCPHandler.getStash i n₂.tcp n₂.stack) (w := n₂.world i) hself
    dsimp only
    refine Net.registers_call _ ?_ ?_ hother fun j hj => ?_
    · exact hadopted.1
    · exact .inr hadopted.2
    · exact (hslots j hj).imp_right fun h => ⟨h.1, hadopted.2⟩
  case isFalse hreg =>
    dsimp only
    refine Net.registers_call _ ?_ (.inl ?_) hother fun j hj => ?_
    · rfl
    · show { n₂.sockets i with tcp := none } = _
      rw [hself, ← hnone]
    · exact (hslots j hj).imp_right fun h => absurd h.2 hreg

end Socket

/-! ### Runs -/

namespace Net

variable {α : Type}

@[simp] theorem sockets_update_self (n : Net α) (w : World α) :
    (n.update w).sockets w.this = w.self := if_pos rfl

theorem sockets_update_other {n : Net α} {w : World α} {j : ℕ} (h : j ≠ w.this) :
    (n.update w).sockets j = n.sockets j := if_neg h

end Net

namespace TCPHandler

variable {α : Type}

/-- What happens on a host: registrations, calls on its sockets, packets, ticks of the timer,
and changes to the rest of the stack and to the applications. A name is looked up by whatever
the resolver is at that time. -/
inductive Event (α : Type)
  | register (i : ℕ)
  | connect (i : ℕ) (dns : Resolver)
  | send (i : ℕ) (length : UInt16)
  | sendBytes (i : ℕ) (data : Bytes)
  | close (i : ℕ)
  | forceClose (i : ℕ)
  | setTimeout (i : ℕ) (t : UInt32)
  | packet (sourceIP : IPAddr) (packet : Bytes)
  | tick (dns : Resolver)
  | elsewhere (stack : Stack) (app : α)

variable (cb : ℕ → Callbacks α)

/-- What a host makes of an event. -/
def run : Event α → Net α → Net α
  | .register i, n => (Socket.registerTCPHandler (cb i) i n).2
  | .connect i dns, n => n.call i (Socket.connect (cb i) dns).exec
  | .send i length, n => n.call i (Socket.send (cb i) length).exec
  | .sendBytes i data, n => n.call i (Socket.sendBytes (cb i) data).exec
  | .close i, n => n.call i (Socket.close (cb i)).exec
  | .forceClose i, n => n.call i (Socket.forceClose (cb i))
  | .setTimeout i t, n => n.call i fun w => w.setSelf { w.self with timeout := t }
  | .packet sourceIP packet, n => handlePacket cb sourceIP packet n
  | .tick dns, n => handleTimer cb dns n
  | .elsewhere stack app, n => { n with stack := stack, app := app }

/-- The socket `i` is the one a packet opens, if it is a SYN: it listens on the port, and no
socket in the table has the connection. -/
structure Offers (n : Net α) (sourceIP : IPAddr) (packet : Bytes) (i : ℕ) : Prop where
  registered : n.Registered i
  listen : (n.sockets i).state = Socket.LISTEN
  host : (n.sockets i).isHost
  ports : ∃ sourcePort, (viewOf packet).readNet16 0 = some sourcePort ∧
    ∀ j, n.Registered j →
      (n.sockets j).equals sourceIP sourcePort (n.sockets i).listenPort = false

/-- What an invariant of the runs has to stand, given a relation the functions of `Socket`
stay inside. -/
structure Stable (R : World α → World α → Prop) (Inv : Net α → Prop) : Prop where
  this : ∀ {w w' : World α}, R w w' → w'.this = w.this
  host : ∀ {n : Net α} {i : ℕ}, Inv n → (n.sockets i).state = Socket.LISTEN →
    (n.sockets i).isHost
  call : ∀ {n : Net α} {i : ℕ} {w : World α}, Inv n → R (n.world i) w → Inv (n.update w)
  offer : ∀ {n : Net α} {sourceIP : IPAddr} {packet : Bytes} {i : ℕ} {w₁ w : World α}, Inv n →
    Offers n sourceIP packet i → w₁.this = i →
    w₁.self.bearings = Socket.bearings { n.sockets i with remoteIP := w₁.self.remoteIP } →
    (R w₁ w ∨ w₁.self.remoteIP = sourceIP ∧
      Socket.Captures ((viewOf packet).readNet16 0) w₁ w) → Inv (n.update w)
  register : ∀ {n n' : Net α} {i : ℕ}, Inv n → n.Registers i n' → Inv n'
  elsewhere : ∀ {n : Net α} (stack : Stack) (app : α), Inv n →
    Inv { n with stack := stack, app := app }

theorem findSocket_some {n : Net α} {test : Socket → Bool} {i : ℕ}
    (h : findSocket n test = some i) : n.Registered i ∧ test (n.sockets i) := by
  have hmem := List.mem_of_find?_eq_some h
  rw [List.mem_filterMap] at hmem
  obtain ⟨slot, hslot, hi⟩ := hmem
  have hi : slot = some i := hi
  rw [hi] at hslot
  exact ⟨hslot, (List.find?_eq_some_iff_append.mp h).1⟩

theorem findSocket_none {n : Net α} {test : Socket → Bool} (h : findSocket n test = none)
    {j : ℕ} (hj : n.Registered j) : test (n.sockets j) = false := by
  have hall := List.find?_eq_none.mp h j (List.mem_filterMap.mpr ⟨some j, hj, rfl⟩)
  simpa using hall

namespace Stable

variable {cb} {R : World α → World α → Prop} [IsPreorder (World α) R] {Inv : Net α → Prop}

/-- A packet keeps the invariant. -/
theorem handlePacket (h : Stable R Inv) (hR : ∀ i, Socket.Follows (cb i) R) {n : Net α}
    (hn : Inv n) (sourceIP : IPAddr) (packet : Bytes) :
    Inv (handlePacket cb sourceIP packet n) := by
  unfold TCPHandler.handlePacket
  split
  case h_2 => exact hn
  case h_1 sourcePort localPort hsource hlocal =>
    split
    case h_1 i hfound =>
      obtain ⟨-, hequals⟩ := findSocket_some hfound
      have hstate : (n.sockets i).state ≠ Socket.LISTEN := by
        intro hlisten
        rw [Socket.equals, if_pos ⟨h.host hn hlisten, hlisten⟩] at hequals
        exact Bool.false_ne_true hequals
      exact h.call hn ((hR i).handleSegment sourceIP packet hstate)
    case h_2 hunowned =>
      split
      case h_2 => exact hn
      case h_1 i hfound =>
        obtain ⟨hregistered, hequals⟩ := findSocket_some hfound
        simp only [Socket.equalsListen, Bool.and_eq_true, beq_iff_eq] at hequals
        obtain ⟨⟨hhost, hlisten⟩, hport⟩ := hequals
        have hoffers : Offers n sourceIP packet i := by
          refine ⟨hregistered, hlisten, hhost, sourcePort, hsource, fun j hj => ?_⟩
          rw [hport]
          exact findSocket_none hunowned hj
        obtain ⟨w₁, hthis, hnoted, hcases⟩ :=
          Socket.handleSegment_listen (hR i) sourceIP packet (w := n.world i) hlisten
        exact h.offer hn hoffers hthis hnoted hcases

/-- A tick keeps the invariant. -/
theorem handleTimer (h : Stable R Inv) (hR : ∀ i, Socket.Follows (cb i) R) {n : Net α}
    (hn : Inv n) (dns : Resolver) : Inv (handleTimer cb dns n) := by
  have hslots : ∀ k, Inv (checkSlots cb dns n k) := by
    intro k
    induction k with
    | zero => exact hn
    | succ k ih =>
        rw [checkSlots]
        split
        · exact h.call ih ((hR _).checkState dns _)
        · exact ih
  exact hslots _

/-- One step keeps the invariant. -/
theorem run (h : Stable R Inv) (hR : ∀ i, Socket.Follows (cb i) R) (e : Event α) {n : Net α}
    (hn : Inv n) : Inv (run cb e n) := by
  cases e with
  | register i => exact h.register hn (Socket.registerTCPHandler_registers (cb i) i n)
  | connect i dns => exact h.call hn ((hR i).connect dns _)
  | send i length => exact h.call hn ((hR i).send length _)
  | sendBytes i data => exact h.call hn ((hR i).sendBytes data _)
  | close i => exact h.call hn ((hR i).close _)
  | forceClose i => exact h.call hn ((hR i).forceClose _)
  | setTimeout i t => exact h.call hn ((hR i).still rfl rfl)
  | packet sourceIP packet => exact h.handlePacket hR hn sourceIP packet
  | tick dns => exact h.handleTimer hR hn dns
  | elsewhere stack app => exact h.elsewhere stack app hn

/-- The invariant holds in every state of every run. -/
theorem reaches (h : Stable R Inv) (hR : ∀ i, Socket.Follows (cb i) R)
    {ok : Net α → Event α → Prop} {n n' : Net α} (hn : Inv n)
    (hrun : Reaches ok (TCPHandler.run cb) n n') : Inv n' :=
  hrun.invariant hn fun _ e hinv _ => h.run hR e hinv

end Stable

end TCPHandler

/-! ### The whole interface -/

namespace TCPHandler

variable {α : Type}

/-- What a program can do with its sockets and their handler: the events above, and
registration and its end from either side. -/
inductive Operation (α : Type)
  | event (e : Event α)
  | registerSocket (i : ℕ)
  | unregisterTCPHandler (i : ℕ)
  | unregisterSocket (i : ℕ)
  | delete (i : ℕ)

/-- What a host makes of an operation. -/
def perform (cb : ℕ → Callbacks α) : Operation α → Net α → Net α
  | .event e, n => run cb e n
  | .registerSocket i, n => (registerSocket (cb i) i n).2
  | .unregisterTCPHandler i, n => Socket.unregisterTCPHandler (cb i) i n
  | .unregisterSocket i, n => unregisterSocket i n
  | .delete i, n => Socket.delete (cb i) i n

end TCPHandler

/-! ### The start of a run -/

/-- A socket as one of its constructors leaves it. -/
inductive Socket.Constructed : Socket → Prop
  | client (remoteIP : IPAddr) (remotePort : UInt16) (random : ℕ) (millis : UInt32) (s : Socket) :
      Constructed (newClient remoteIP remotePort random millis s)
  | named (server : Bytes) (remotePort : UInt16) (random : ℕ) (millis : UInt32) (s : Socket) :
      Constructed (newNamed server remotePort random millis s)
  | listener (listenPort : UInt16) (random : ℕ) (millis : UInt32) (s : Socket) :
      Constructed (newListener listenPort random millis s)

/-- A host whose sockets have just been constructed, and none registered. -/
structure Net.Fresh {α : Type} (n : Net α) : Prop where
  sockets : ∀ i, (n.sockets i).Constructed
  table : ∀ i, ¬ n.Registered i

/-- A socket that has just been constructed is closed and has no handler, and if it is to
listen it has its port. -/
theorem Socket.Constructed.closed {s : Socket} (h : s.Constructed) :
    s.state = CLOSED ∧ s.tcp = none ∧ (s.isHost → s.localPort = s.listenPort) := by
  cases h with
  | client => exact ⟨rfl, rfl, fun h => absurd h Bool.false_ne_true⟩
  | named => exact ⟨rfl, rfl, fun h => absurd h Bool.false_ne_true⟩
  | listener => exact ⟨rfl, rfl, fun _ => rfl⟩

/-! ### The example -/

/-- The host of `exampleNet` before its socket is registered. -/
def exampleFresh (own peer : UInt8) (s : Socket) : Net Unit :=
  ⟨(TCPHandler.new 0 1 (exampleStack own peer)).1, (TCPHandler.new 0 1 (exampleStack own peer)).2,
    fun _ => s, ()⟩

theorem fresh_exampleFresh (own peer : UInt8) {s : Socket} (hs : s.Constructed) :
    (exampleFresh own peer s).Fresh := by
  refine ⟨fun _ => hs, fun i hi => ?_⟩
  have hnone : some i ∈ [none] := hi
  simp at hnone

/-- The runs of a host whose application is `exampleApp`. -/
abbrev ExampleRun : Net Unit → Net Unit → Prop :=
  Reaches (fun _ _ => True) (TCPHandler.run fun _ => exampleApp.callbacks)

theorem reaches_exampleNet (own peer : UInt8) (s : Socket) :
    ExampleRun (exampleFresh own peer s) (exampleNet own peer s) :=
  Reaches.refl.step (e := TCPHandler.Event.register 0) trivial

end AtmegaNet
