import AtmegaNet.TCPHandler

/-!
# Registration from either side

A socket is registered by `Socket::registerTCPHandler` or by `TCPHandler::registerSocket`, and
each of the two calls the other. The usage notes of the handler say that the result is the same.
It is, unless the socket and the table already disagree, or the socket could get a slot and the
handler cannot get the timer it needs: then `registerSocket` empties the slot again and returns
false, but the socket keeps the handler.

## Main results

* `registerSocketWith_free`, `registerTCPHandlerWith_detached`: one side of a registration,
  given what the other side does.
* `registerSocket_detached`, `registerTCPHandler_detached`: the whole of it from either side.
* `TCPHandler.registrationsAgree_iff`: when the two sides agree and are atomic.
-/

namespace AtmegaNet

/-- What a registration is about: the slots and the timer of the handler; the handler, the stash
and the state of the socket. -/
structure Registration where
  registeredSockets : List (Option ℕ)
  timerIndex : UInt8
  tcp : Option ℕ
  stash : Option Buffer
  state : UInt8
  deriving DecidableEq, Repr

namespace Net

variable {α : Type}

/-- The registration of socket `i`. -/
def registration (i : ℕ) (n : Net α) : Registration where
  registeredSockets := n.tcp.registeredSockets
  timerIndex := n.tcp.timerIndex
  tcp := (n.sockets i).tcp
  stash := (n.sockets i).stash
  state := (n.sockets i).state

/-- The socket is in exactly one slot if it has set the handler, and in none otherwise. -/
def Consistent (i : ℕ) (n : Net α) : Prop :=
  n.tcp.registeredSockets.count (some i) =
    if (n.sockets i).tcp = some n.tcp.number then 1 else 0

/-- A registration has left the host as it was, or the socket and the table agree. -/
structure Atomic (i : ℕ) (n : Net α) (x : Bool × Net α) : Prop where
  refused : x.1 = false → x.2.registration i = n.registration i
  accepted : x.1 = true → ((x.2.sockets i).tcp = some x.2.tcp.number ↔
    x.2.tcp.registeredSockets.count (some i) = 1)

instance (i : ℕ) (n : Net α) : Decidable (n.Consistent i) :=
  inferInstanceAs (Decidable (_ = _))

end Net

namespace TCPHandler

variable {α : Type}

/-- The handler has its timer, or there is a free entry in the registry. -/
def CanTime (n : Net α) : Prop :=
  n.tcp.timerIndex ≠ 0 ∨ ∃ t ∈ n.stack.etherControl.timerRegistry, t.handler.isNone

/-- The two ways to register socket `i` have the same result and lead to the same state, which
is the one before if the result is false. -/
structure RegistrationsAgree (cb : Callbacks α) (i : ℕ) (n : Net α) : Prop where
  result : (registerSocket cb i n).1 = (Socket.registerTCPHandler cb i n).1
  state : (registerSocket cb i n).2.registration i =
    (Socket.registerTCPHandler cb i n).2.registration i
  registerSocket : n.Atomic i (registerSocket cb i n)
  registerTCPHandler : n.Atomic i (Socket.registerTCPHandler cb i n)

/-! ### The timer -/

/-- With a free entry a timer is registered, under a number that is not 0. -/
theorem registerTimer_free {handler : TimerHandler} {millisDelay : UInt16} {h : Stack}
    (hcapacity : h.etherControl.timerRegistry.length < 256)
    (hfree : ∃ t ∈ h.etherControl.timerRegistry, t.handler.isNone) :
    (EtherControl.registerTimer handler millisDelay h).1 ≠ 0 := by
  unfold EtherControl.registerTimer
  split
  case h_1 hnone =>
    obtain ⟨t, ht, hn⟩ := hfree
    have hsome := List.findIdx?_eq_none_iff.mp hnone t ht
    exact absurd hn (by simp [hsome])
  case h_2 k hk =>
    have hlt : k < h.etherControl.timerRegistry.length :=
      (List.findIdx?_eq_some_iff_getElem.mp hk).1
    intro hzero
    have hnat := congrArg UInt8.toNat hzero
    have hmod : (k + 1) % 256 = 0 := by simpa using hnat
    omega

/-- Without one nothing is registered. -/
theorem registerTimer_full {handler : TimerHandler} {millisDelay : UInt16} {h : Stack}
    (hfull : ¬ ∃ t ∈ h.etherControl.timerRegistry, t.handler.isNone) :
    EtherControl.registerTimer handler millisDelay h = (0, h) := by
  have hnone : h.etherControl.timerRegistry.findIdx? (fun t => t.handler.isNone) = none := by
    rw [List.findIdx?_eq_none_iff]
    intro t ht
    by_contra hn
    exact hfull ⟨t, ht, by simpa using hn⟩
  rw [EtherControl.registerTimer, hnone]

/-- The handler gets its timer just if it can. -/
theorem ensureTimer_iff {n : Net α} (hcapacity : n.stack.etherControl.timerRegistry.length < 256) :
    (ensureTimer n).1 = true ↔ CanTime n := by
  unfold ensureTimer CanTime
  by_cases htimer : n.tcp.timerIndex = 0
  · rw [if_neg (not_not.mpr htimer)]
    dsimp only
    rw [decide_eq_true_iff]
    by_cases hfree : ∃ t ∈ n.stack.etherControl.timerRegistry, t.handler.isNone
    · exact iff_of_true (registerTimer_free hcapacity hfree) (.inr hfree)
    · rw [registerTimer_full hfree]
      exact iff_of_false (fun h => h rfl) fun h => h.elim (fun h => h htimer) hfree
  · rw [if_pos htimer]
    exact iff_of_true rfl (.inl htimer)

/-- A handler that cannot get a timer is left as it is. -/
theorem ensureTimer_fails {n : Net α} (hno : ¬ CanTime n) : ensureTimer n = (false, n) := by
  obtain ⟨htimer, hfull⟩ := not_or.mp hno
  have htimer : n.tcp.timerIndex = 0 := not_not.mp htimer
  rw [ensureTimer, if_neg (not_not.mpr htimer), registerTimer_full hfull]
  obtain ⟨⟨number, slots, timerIndex, len⟩, stack, sockets, app⟩ := n
  cases htimer
  rfl

/-- What the timer does depends on the handler and the stack only, and changes only them. -/
theorem ensureTimer_congr {n n' : Net α} (htcp : n'.tcp = n.tcp) (hstack : n'.stack = n.stack) :
    (ensureTimer n').1 = (ensureTimer n).1 ∧
      (ensureTimer n').2 =
        { n' with tcp := (ensureTimer n).2.tcp, stack := (ensureTimer n).2.stack } := by
  obtain ⟨tcp, stack, sockets, app⟩ := n
  obtain ⟨tcp', stack', sockets', app'⟩ := n'
  obtain rfl : tcp' = tcp := htcp
  obtain rfl : stack' = stack := hstack
  unfold ensureTimer
  dsimp only
  split <;> exact ⟨rfl, rfl⟩

/-- `ensureTimer` changes the timer index and the registry. -/
theorem ensureTimer_rest (n : Net α) : ∃ timerIndex etherControl, (ensureTimer n).2 =
    { n with
      tcp := { n.tcp with timerIndex := timerIndex }
      stack := { n.stack with etherControl := etherControl } } := by
  have hrest := ARPHandler.registerTimer_rest .tcp 1000 n.stack
  unfold ensureTimer
  split
  · exact ⟨n.tcp.timerIndex, n.stack.etherControl, rfl⟩
  · generalize EtherControl.registerTimer .tcp 1000 n.stack = x at hrest ⊢
    obtain ⟨timerIndex, h⟩ := x
    dsimp only at hrest ⊢
    exact ⟨timerIndex, h.etherControl, by rw [hrest]⟩

/-! ### The handler's side -/

variable {registerTCPHandler : Net α → Bool × Net α} {i k : ℕ} {n : Net α}

/-- A socket that is in a slot is registered already. -/
theorem registerSocketWith_found (hin : some i ∈ n.tcp.registeredSockets) :
    registerSocketWith registerTCPHandler i n = (true, n) := by
  rw [registerSocketWith, if_pos (List.any_eq_true.mpr ⟨some i, hin, by simp⟩)]

/-- Without a free slot it is refused. -/
theorem registerSocketWith_full (hout : some i ∉ n.tcp.registeredSockets)
    (hfull : none ∉ n.tcp.registeredSockets) :
    registerSocketWith registerTCPHandler i n = (false, n) := by
  have hnone : n.tcp.registeredSockets.findIdx? (·.isNone) = none := by
    rw [List.findIdx?_eq_none_iff]
    intro slot hslot
    cases slot with
    | none => exact absurd hslot hfull
    | some j => rfl
  rw [registerSocketWith, if_neg (by simpa using hout), hnone]

/-- The socket gets the first free slot if it sets the handler and there is a timer. -/
theorem registerSocketWith_free (hout : some i ∉ n.tcp.registeredSockets)
    (hk : n.tcp.registeredSockets.findIdx? (·.isNone) = some k) {registered : Bool} {n₁ : Net α}
    (hcall : registerTCPHandler (setSlot n k (some i)) = (registered, n₁)) :
    registerSocketWith registerTCPHandler i n =
      if registered then
        if (ensureTimer n₁).1 then (true, (ensureTimer n₁).2)
        else (false, setSlot (ensureTimer n₁).2 k none)
      else (false, setSlot n₁ k none) := by
  rw [registerSocketWith, if_neg (by simpa using hout), hk]
  dsimp only
  rw [hcall]

/-- A slot that was free is free again. -/
theorem setSlot_none (hk : n.tcp.registeredSockets.findIdx? (·.isNone) = some k)
    (socket : Option ℕ) : setSlot (setSlot n k socket) k none = n := by
  obtain ⟨hlt, hfree, -⟩ := List.findIdx?_eq_some_iff_getElem.mp hk
  have hnone : n.tcp.registeredSockets[k] = none := by simpa using hfree
  have hset : (n.tcp.registeredSockets.set k socket).set k none = n.tcp.registeredSockets := by
    rw [List.set_set, ← hnone, List.set_getElem_self]
  show { n with tcp := { n.tcp with
    registeredSockets := (n.tcp.registeredSockets.set k socket).set k none } } = n
  rw [hset]

end TCPHandler

namespace Socket

variable {α : Type}

/-! ### The socket's side -/

/-- The socket has set the handler. -/
def attach (i : ℕ) (n : Net α) : Net α :=
  n.call i fun w => w.setSelf { w.self with tcp := some n.tcp.number }

/-- The socket has given the handler up. -/
def detach (i : ℕ) (n : Net α) : Net α := n.call i fun w => w.setSelf { w.self with tcp := none }

/-- The socket has got its stash and its send buffer, and listens if it is a host. -/
def adopt (cb : Callbacks α) (i : ℕ) (n : Net α) : Net α :=
  n.call i fun w =>
    let w := w.setSelf { w.self with stash := TCPHandler.getStash i n.tcp n.stack }
    let w := if w.self.isHost then setState cb LISTEN w else w
    w.setSelf { w.self with
      sendBuffer := some (OffsetBuffer.reinit w.stack.ipPayload 20 0) }

variable {registerSocket : Net α → Bool × Net α} {cb : Callbacks α} {i : ℕ} {n : Net α}

/-- A socket that has this handler is attached already. -/
theorem registerTCPHandlerWith_attached (htcp : (n.sockets i).tcp = some n.tcp.number) :
    registerTCPHandlerWith registerSocket cb i n = (true, n) := by
  rw [registerTCPHandlerWith, if_pos htcp]

/-- A socket that has another is refused. -/
theorem registerTCPHandlerWith_elsewhere {m : ℕ} (htcp : (n.sockets i).tcp = some m)
    (hother : m ≠ n.tcp.number) :
    registerTCPHandlerWith registerSocket cb i n = (false, n) := by
  have hne : (n.sockets i).tcp ≠ some n.tcp.number := by
    rw [htcp]
    exact fun h => hother (Option.some.inj h)
  rw [registerTCPHandlerWith, if_neg hne, if_pos (by rw [htcp]; rfl)]

/-- The socket keeps the handler if the handler takes the socket. -/
theorem registerTCPHandlerWith_detached (htcp : (n.sockets i).tcp = none) {registered : Bool}
    {n₁ : Net α} (hcall : registerSocket (attach i n) = (registered, n₁)) :
    registerTCPHandlerWith registerSocket cb i n =
      if registered then (true, adopt cb i n₁) else (false, detach i n₁) := by
  have hne : (n.sockets i).tcp ≠ some n.tcp.number := by
    rw [htcp]
    exact fun h => nomatch h
  rw [registerTCPHandlerWith, if_neg hne, if_neg (by rw [htcp]; simp)]
  dsimp only
  rw [show registerSocket (n.call i fun w => w.setSelf { w.self with tcp := some n.tcp.number }) =
    (registered, n₁) from hcall]
  rfl

/-- Giving up a handler that was not set before leaves the host as it was. -/
theorem detach_attach (htcp : (n.sockets i).tcp = none) : detach i (attach i n) = n := by
  have hself : { (n.sockets i) with tcp := none } = n.sockets i := by rw [← htcp]
  have hsockets : (detach i (attach i n)).sockets = n.sockets := by
    funext j
    by_cases hj : j = i
    · subst hj
      have hattach : (detach j (attach j n)).sockets j = { (n.sockets j) with tcp := none } := by
        simp [detach, attach, Net.call, Net.update, Net.world, World.setSelf]
      rw [hattach, hself]
    · simp [detach, attach, Net.call, Net.update, Net.world, World.setSelf, hj]
  exact congrArg (fun sockets => { n with sockets := sockets }) hsockets

/-- Listening fires no event. -/
theorem listen_eq (cb : Callbacks α) (w : World α) :
    (if w.self.isHost then setState cb LISTEN w else w) = w.setSelf { w.self with
      state := if w.self.isHost then LISTEN else w.self.state
      stateTime := if w.self.isHost then w.stack.millis else w.self.stateTime } := by
  split <;> rfl

/-- `adopt` hands the socket its stash. -/
theorem adopt_eq (cb : Callbacks α) (i : ℕ) (n : Net α) :
    adopt cb i n = n.call i fun w => w.setSelf { w.self with
      stash := TCPHandler.getStash i n.tcp n.stack
      state := if w.self.isHost then LISTEN else w.self.state
      stateTime := if w.self.isHost then w.stack.millis else w.self.stateTime
      sendBuffer := some (OffsetBuffer.reinit w.stack.ipPayload 20 0) } := by
  refine congrArg (n.call i) (funext fun w => ?_)
  have hlisten := listen_eq cb
    (w.setSelf { w.self with stash := TCPHandler.getStash i n.tcp n.stack })
  dsimp only
  rw [hlisten]
  rfl

/-- Nothing else is changed by it. -/
theorem adopt_rest (cb : Callbacks α) (i : ℕ) (n : Net α) :
    (adopt cb i n).tcp = n.tcp ∧ (adopt cb i n).stack = n.stack ∧
      (adopt cb i n).registration i =
        { n.registration i with
          stash := TCPHandler.getStash i n.tcp n.stack
          state := if (n.sockets i).isHost then LISTEN else (n.sockets i).state } := by
  rw [adopt_eq]
  refine ⟨rfl, rfl, ?_⟩
  simp only [Net.registration, Net.call, Net.update, Net.world, World.setSelf, if_true]
  rfl

end Socket

namespace TCPHandler

variable {α : Type} {cb : Callbacks α} {i k : ℕ} {n : Net α}

/-! ### The two ways -/

/-- The slot is taken and the handler set, in whichever order. -/
def joined (i k : ℕ) (n : Net α) : Net α := Socket.attach i (setSlot n k (some i))

/-- The socket is in the slot that was free. -/
theorem some_mem_joined (hk : n.tcp.registeredSockets.findIdx? (·.isNone) = some k) :
    some i ∈ (joined i k n).tcp.registeredSockets := by
  have hlt := (List.findIdx?_eq_some_iff_getElem.mp hk).1
  have hslots : (joined i k n).tcp.registeredSockets = n.tcp.registeredSockets.set k (some i) := rfl
  rw [hslots]
  exact List.mem_set hlt _

/-- It has the handler. -/
theorem tcp_joined : ((joined i k n).sockets i).tcp = some (joined i k n).tcp.number := by
  simp [joined, Socket.attach, Net.call, Net.update, Net.world, World.setSelf, setSlot]

/-- `TCPHandler::registerSocket` on a socket that has no handler. -/
theorem registerSocket_detached (htcp : (n.sockets i).tcp = none)
    (hout : some i ∉ n.tcp.registeredSockets)
    (hk : n.tcp.registeredSockets.findIdx? (·.isNone) = some k) :
    registerSocket cb i n =
      if (ensureTimer (Socket.adopt cb i (joined i k n))).1 then
        (true, (ensureTimer (Socket.adopt cb i (joined i k n))).2)
      else (false, setSlot (ensureTimer (Socket.adopt cb i (joined i k n))).2 k none) := by
  have hback : registerSocketWith (fun n => (false, n)) i (joined i k n) =
      (true, joined i k n) := registerSocketWith_found (some_mem_joined hk)
  have hgrant : Socket.registerTCPHandlerWith (registerSocketWith (fun n => (false, n)) i) cb i
      (setSlot n k (some i)) = (true, Socket.adopt cb i (joined i k n)) := by
    rw [Socket.registerTCPHandlerWith_detached (n := setSlot n k (some i)) htcp hback, if_pos rfl]
  rw [registerSocket, registerSocketWith_free hout hk hgrant, if_pos rfl]

/-- `Socket::registerTCPHandler` on a socket that has no handler. -/
theorem registerTCPHandler_detached (htcp : (n.sockets i).tcp = none)
    (hout : some i ∉ n.tcp.registeredSockets)
    (hk : n.tcp.registeredSockets.findIdx? (·.isNone) = some k) :
    Socket.registerTCPHandler cb i n =
      if (ensureTimer (joined i k n)).1 then
        (true, Socket.adopt cb i (ensureTimer (joined i k n)).2)
      else (false, Socket.detach i (setSlot (ensureTimer (joined i k n)).2 k none)) := by
  have hback : Socket.registerTCPHandlerWith (fun n => (false, n)) cb i
      (setSlot (Socket.attach i n) k (some i)) = (true, joined i k n) :=
    Socket.registerTCPHandlerWith_attached (n := joined i k n) tcp_joined
  have hcall := registerSocketWith_free (n := Socket.attach i n) hout hk hback
  rw [if_pos rfl] at hcall
  rw [Socket.registerTCPHandler]
  by_cases htimed : (ensureTimer (joined i k n)).1 = true
  · rw [if_pos htimed] at hcall ⊢
    rw [Socket.registerTCPHandlerWith_detached htcp hcall, if_pos rfl]
  · rw [if_neg htimed] at hcall ⊢
    rw [Socket.registerTCPHandlerWith_detached htcp hcall, if_neg Bool.false_ne_true]

/-- With a timer both ways lead to the same registration. -/
theorem registration_detached (cb : Callbacks α) (htcp : (n.sockets i).tcp = none)
    (hout : some i ∉ n.tcp.registeredSockets)
    (hk : n.tcp.registeredSockets.findIdx? (·.isNone) = some k)
    (htimed : (ensureTimer (joined i k n)).1 = true) :
    ∃ n₁ n₂, registerSocket cb i n = (true, n₁) ∧
      Socket.registerTCPHandler cb i n = (true, n₂) ∧ n₁.registration i = n₂.registration i ∧
      n₁.tcp.number = n.tcp.number ∧ n₂.tcp.number = n.tcp.number ∧
      (n₂.sockets i).tcp = some n.tcp.number ∧
      n₂.tcp.registeredSockets = n.tcp.registeredSockets.set k (some i) := by
  obtain ⟨htcpa, hstacka, hrega⟩ := Socket.adopt_rest cb i (joined i k n)
  obtain ⟨hresult, hnet⟩ := ensureTimer_congr htcpa hstacka
  obtain ⟨timerIndex, etherControl, hrest⟩ := ensureTimer_rest (joined i k n)
  obtain ⟨htcpb, -, hregb⟩ := Socket.adopt_rest cb i (ensureTimer (joined i k n)).2
  have hslots : (joined i k n).tcp.registeredSockets = n.tcp.registeredSockets.set k (some i) := rfl
  have hself := tcp_joined (i := i) (k := k) (n := n)
  have hnumber : (joined i k n).tcp.number = n.tcp.number := rfl
  rw [registerSocket_detached htcp hout hk, registerTCPHandler_detached htcp hout hk,
    if_pos (hresult.trans htimed), if_pos htimed]
  refine ⟨_, _, rfl, rfl, ?_, ?_, ?_, ?_, ?_⟩
  · have hleft : (ensureTimer (Socket.adopt cb i (joined i k n))).2.registration i =
        { (Socket.adopt cb i (joined i k n)).registration i with timerIndex := timerIndex } := by
      rw [hnet, hrest]
      unfold Net.registration
      dsimp only
      rw [htcpa]
    rw [hleft, hrega, hregb, hrest]
    rfl
  · rw [hnet, hrest]
    exact hnumber
  · rw [htcpb, hrest]
    exact hnumber
  · have htcp' := congrArg Registration.tcp hregb
    have hkept : ((ensureTimer (joined i k n)).2.sockets i).tcp = some n.tcp.number := by
      rw [hrest, ← hnumber]
      exact hself
    exact htcp'.trans hkept
  · rw [htcpb, hrest]
    exact hslots

/-- Without one `Socket::registerTCPHandler` leaves the host as it was, and
`TCPHandler::registerSocket` leaves the handler set. -/
theorem registration_untimed (cb : Callbacks α) (htcp : (n.sockets i).tcp = none)
    (hout : some i ∉ n.tcp.registeredSockets)
    (hk : n.tcp.registeredSockets.findIdx? (·.isNone) = some k) (hno : ¬ CanTime n) :
    Socket.registerTCPHandler cb i n = (false, n) ∧
      (registerSocket cb i n).1 = false ∧
      ((registerSocket cb i n).2.sockets i).tcp = some n.tcp.number := by
  have hjoined := ensureTimer_fails (n := joined i k n) hno
  obtain ⟨htcpa, hstacka, hrega⟩ := Socket.adopt_rest cb i (joined i k n)
  have hadopted : ensureTimer (Socket.adopt cb i (joined i k n)) =
      (false, Socket.adopt cb i (joined i k n)) := by
    refine ensureTimer_fails fun hcan => hno ?_
    unfold CanTime at hcan
    rwa [htcpa, hstacka] at hcan
  rw [registerSocket_detached htcp hout hk, registerTCPHandler_detached htcp hout hk, hjoined,
    hadopted, if_neg Bool.false_ne_true, if_neg Bool.false_ne_true]
  refine ⟨Prod.ext rfl ?_, rfl, ?_⟩
  · have hundo : setSlot (joined i k n) k none =
        Socket.attach i (setSlot (setSlot n k (some i)) k none) := rfl
    dsimp only
    rw [hundo, setSlot_none hk, Socket.detach_attach htcp]
  · have htcp' : ((Socket.adopt cb i (joined i k n)).sockets i).tcp =
        ((joined i k n).sockets i).tcp := congrArg Registration.tcp hrega
    exact htcp'.trans tcp_joined

/-- Two registrations that both left the host alone agree. -/
theorem registrationsAgree_same {b : Bool} (hsocket : Socket.registerTCPHandler cb i n = (b, n))
    (hhandler : registerSocket cb i n = (b, n))
    (haccepted : b = true → ((n.sockets i).tcp = some n.tcp.number ↔
      n.tcp.registeredSockets.count (some i) = 1)) : RegistrationsAgree cb i n := by
  have hatomic : n.Atomic i (b, n) := ⟨fun _ => rfl, haccepted⟩
  constructor
  · rw [hsocket, hhandler]
  · rw [hsocket, hhandler]
  · rwa [hhandler]
  · rwa [hsocket]

/-- Registered here: both ways find that there is nothing to do. -/
theorem registrationsAgree_attached_iff (htcp : (n.sockets i).tcp = some n.tcp.number) :
    RegistrationsAgree cb i n ↔ n.tcp.registeredSockets.count (some i) = 1 := by
  have hsocket : Socket.registerTCPHandler cb i n = (true, n) :=
    Socket.registerTCPHandlerWith_attached htcp
  constructor
  · intro h
    have haccepted := h.registerTCPHandler.accepted
    rw [hsocket] at haccepted
    exact (haccepted rfl).mp htcp
  · intro hone
    have hin : some i ∈ n.tcp.registeredSockets := by
      rw [← List.count_pos_iff, hone]
      exact Nat.one_pos
    exact registrationsAgree_same hsocket (registerSocketWith_found hin)
      fun _ => iff_of_true htcp hone

/-- Registered with another handler: the socket refuses, and the handler does not ask it if it
has the socket in its table. -/
theorem registrationsAgree_elsewhere_iff {m : ℕ} (htcp : (n.sockets i).tcp = some m)
    (hother : m ≠ n.tcp.number) :
    RegistrationsAgree cb i n ↔ some i ∉ n.tcp.registeredSockets := by
  have hsocket : Socket.registerTCPHandler cb i n = (false, n) :=
    Socket.registerTCPHandlerWith_elsewhere htcp hother
  constructor
  · intro h hin
    have hresult := h.result
    rw [hsocket, registerSocket, registerSocketWith_found hin] at hresult
    exact Bool.false_ne_true hresult.symm
  · intro hout
    have hhandler : registerSocket cb i n = (false, n) := by
      rw [registerSocket]
      cases hk : n.tcp.registeredSockets.findIdx? (·.isNone) with
      | none =>
          refine registerSocketWith_full hout fun hfree => ?_
          exact absurd (List.findIdx?_eq_none_iff.mp hk none hfree) (by simp)
      | some k =>
          have hrefused : Socket.registerTCPHandlerWith (registerSocketWith (fun n => (false, n)) i)
              cb i (setSlot n k (some i)) = (false, setSlot n k (some i)) :=
            Socket.registerTCPHandlerWith_elsewhere htcp hother
          rw [registerSocketWith_free hout hk hrefused, if_neg Bool.false_ne_true,
            setSlot_none hk]
    exact registrationsAgree_same hsocket hhandler fun h => absurd h Bool.false_ne_true

/-- Not registered, but in the table: only the socket's side mends that. -/
theorem not_registrationsAgree_stale (htcp : (n.sockets i).tcp = none)
    (hin : some i ∈ n.tcp.registeredSockets) : ¬ RegistrationsAgree cb i n := by
  intro h
  have hhandler : registerSocket cb i n = (true, n) := registerSocketWith_found hin
  have hfound : registerSocketWith (Socket.registerTCPHandlerWith (fun n => (false, n)) cb i) i
      (Socket.attach i n) = (true, Socket.attach i n) := registerSocketWith_found hin
  have hstate := congrArg Registration.tcp h.state
  rw [hhandler, Socket.registerTCPHandler, Socket.registerTCPHandlerWith_detached htcp hfound,
    if_pos rfl, (Socket.adopt_rest cb i (Socket.attach i n)).2.2] at hstate
  have hattached : ((Socket.attach i n).sockets i).tcp = some n.tcp.number := by
    simp [Socket.attach, Net.call, Net.update, Net.world, World.setSelf]
  exact absurd (htcp.symm.trans (hstate.trans hattached)) (by simp)

/-- Not registered: both ways do the same unless a slot is free and a timer is not. -/
theorem registrationsAgree_detached_iff (htcp : (n.sockets i).tcp = none)
    (hout : some i ∉ n.tcp.registeredSockets)
    (hcapacity : n.stack.etherControl.timerRegistry.length < 256) :
    RegistrationsAgree cb i n ↔ (none ∈ n.tcp.registeredSockets → CanTime n) := by
  cases hk : n.tcp.registeredSockets.findIdx? (·.isNone) with
  | none =>
      have hfull : none ∉ n.tcp.registeredSockets := fun hfree =>
        absurd (List.findIdx?_eq_none_iff.mp hk none hfree) (by simp)
      refine iff_of_true ?_ fun hfree => absurd hfree hfull
      have hcall : registerSocketWith (Socket.registerTCPHandlerWith (fun n => (false, n)) cb i) i
          (Socket.attach i n) = (false, Socket.attach i n) := registerSocketWith_full hout hfull
      have hsocket : Socket.registerTCPHandler cb i n = (false, n) := by
        rw [Socket.registerTCPHandler, Socket.registerTCPHandlerWith_detached htcp hcall,
          if_neg Bool.false_ne_true, Socket.detach_attach htcp]
      exact registrationsAgree_same hsocket (registerSocketWith_full hout hfull)
        fun h => absurd h Bool.false_ne_true
  | some k =>
      obtain ⟨hlt, hnone, -⟩ := List.findIdx?_eq_some_iff_getElem.mp hk
      have hfree : none ∈ n.tcp.registeredSockets := by
        have hnone : n.tcp.registeredSockets[k] = none := by simpa using hnone
        exact hnone ▸ List.getElem_mem hlt
      by_cases hcan : CanTime n
      · refine iff_of_true ?_ fun _ => hcan
        have htimed : (ensureTimer (joined i k n)).1 = true :=
          (ensureTimer_iff (n := joined i k n) hcapacity).mpr hcan
        obtain ⟨n₁, n₂, hhandler, hsocket, hstate, hnumber₁, hnumber₂, htcp₂, hslots⟩ :=
          registration_detached cb htcp hout hk htimed
        have hone : n₂.tcp.registeredSockets.count (some i) = 1 := by
          have hnone : n.tcp.registeredSockets[k] = none := by simpa using hnone
          rw [hslots, List.count_set hlt, List.count_eq_zero.mpr hout, hnone]
          simp
        have htcp₁ : (n₁.sockets i).tcp = some n.tcp.number :=
          (congrArg Registration.tcp hstate).trans htcp₂
        have hslots₁ : n₁.tcp.registeredSockets = n₂.tcp.registeredSockets :=
          congrArg Registration.registeredSockets hstate
        constructor
        · rw [hhandler, hsocket]
        · rw [hhandler, hsocket]
          exact hstate
        · rw [hhandler]
          refine ⟨fun h => absurd h.symm Bool.false_ne_true, fun _ => iff_of_true ?_ ?_⟩
          · rw [htcp₁, hnumber₁]
          · rw [hslots₁, hone]
        · rw [hsocket]
          refine ⟨fun h => absurd h.symm Bool.false_ne_true, fun _ => iff_of_true ?_ hone⟩
          rw [htcp₂, hnumber₂]
      · refine iff_of_false (fun h => ?_) fun h => hcan (h hfree)
        obtain ⟨-, hresult, hset⟩ := registration_untimed cb htcp hout hk hcan
        have hkept := congrArg Registration.tcp (h.registerSocket.refused hresult)
        exact absurd (hset.symm.trans (hkept.trans htcp)) (by simp)

/-! ### When they agree -/

/-- The two ways to register a socket agree and are atomic just if the socket and the table
agreed before, and the handler has a timer or can get one, should it have to take the socket. -/
theorem registrationsAgree_iff (cb : Callbacks α) (i : ℕ) (n : Net α)
    (hcapacity : n.stack.etherControl.timerRegistry.length < 256) :
    RegistrationsAgree cb i n ↔ n.Consistent i ∧
      ((n.sockets i).tcp = none → none ∈ n.tcp.registeredSockets → CanTime n) := by
  unfold Net.Consistent
  rcases htcp : (n.sockets i).tcp with _ | m
  · have hne : (none : Option ℕ) ≠ some n.tcp.number := by simp
    rw [if_neg hne, List.count_eq_zero]
    by_cases hin : some i ∈ n.tcp.registeredSockets
    · exact iff_of_false (not_registrationsAgree_stale htcp hin) fun h => h.1 hin
    · rw [registrationsAgree_detached_iff htcp hin hcapacity]
      exact ⟨fun h => ⟨hin, fun _ => h⟩, fun h => h.2 rfl⟩
  · have hlast : some m = none → none ∈ n.tcp.registeredSockets → CanTime n :=
      fun h => absurd h (by simp)
    by_cases hm : m = n.tcp.number
    · rw [hm] at htcp ⊢
      rw [if_pos rfl, registrationsAgree_attached_iff htcp]
      exact (and_iff_left fun h => absurd h (by simp)).symm
    · rw [if_neg fun h => hm (Option.some.inj h), List.count_eq_zero,
        registrationsAgree_elsewhere_iff htcp hm]
      exact (and_iff_left hlast).symm

/-- The socket of `exampleClient` before it is registered. -/
def exampleUnregistered : Net Unit :=
  ⟨(new 0 1 (exampleStack 1 2)).1, (new 0 1 (exampleStack 1 2)).2,
    fun _ => Socket.newClient ⟨10, 0, 0, 2⟩ 80 7 0 Socket.zero, ()⟩

/-- The example ends with slot and socket in agreement. -/
theorem registrationsAgree_example : RegistrationsAgree exampleApp 0 exampleUnregistered :=
  (registrationsAgree_iff exampleApp 0 exampleUnregistered (by decide)).mpr
    ⟨by decide, fun _ _ => .inr ⟨⟨0, 0, none⟩, by decide, rfl⟩⟩

/-- The same host when its only timer is that of the ARP handler. -/
def exampleUntimeable : Net Unit :=
  { exampleUnregistered with
    stack := (EtherControl.registerTimer .arp 250 exampleUnregistered.stack).2 }

/-- Both ways refuse the socket, but one of them leaves it with the handler and a stash. -/
theorem registrations_disagree :
    (registerSocket exampleApp 0 exampleUntimeable).1 = false ∧
      (Socket.registerTCPHandler exampleApp 0 exampleUntimeable).1 = false ∧
      ((registerSocket exampleApp 0 exampleUntimeable).2.sockets 0).tcp = some 0 ∧
      ((Socket.registerTCPHandler exampleApp 0 exampleUntimeable).2.sockets 0).tcp = none ∧
      ¬ RegistrationsAgree exampleApp 0 exampleUntimeable := by
  have hhandler : ((registerSocket exampleApp 0 exampleUntimeable).2.sockets 0).tcp = some 0 := by
    decide +kernel
  have hsocket : ((Socket.registerTCPHandler exampleApp 0 exampleUntimeable).2.sockets 0).tcp =
      none := by decide +kernel
  refine ⟨by decide +kernel, by decide +kernel, hhandler, hsocket, fun h => ?_⟩
  have htcp := congrArg Registration.tcp h.state
  exact absurd (hhandler.symm.trans (htcp.trans hsocket)) (by simp)

end TCPHandler

end AtmegaNet
