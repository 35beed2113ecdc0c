import AtmegaNet.Frame
import AtmegaNet.HostRuns
import AtmegaNet.Registration

/-!
# The handler pointer

`sendSegment`, `getWindowSize`, `calcChecksum` and `transmit` dereference `tcp` without a test.
A socket that is in the table has it set, and what the handler and the timer do to a socket is
safe. The calls of the program are not: `forceClose` and `close` on a socket that was never
registered send a segment, and `unregisterTCPHandler` calls `forceClose` once more when it has
set `tcp` to NULL.

## Main results

* `Frames.sound`: on a socket with a handler no function of `Socket` dereferences NULL.
* `connect_detached`, `send_detached`, `sendBytes_detached`: these do not on a socket without
  one either.
* `unregisterTCPHandler_dereferences`: giving the handler up always does.
* `reaches_noNullDereference`: in a run whose steps are all `Safe`, NULL is never dereferenced.
-/

open Procedure Runs

namespace AtmegaNet

namespace Socket

variable {α : Type}

/-- The socket keeps its handler, if it has one, and then no null pointer is dereferenced. -/
structure Sound (w w' : World α) : Prop where
  this : w'.this = w.this
  tcp : w.self.tcp.isSome → w'.self.tcp.isSome
  log : ∃ l, w'.stack.log = w.stack.log ++ l ∧ (w.self.tcp.isSome → .nullDereference ∉ l)

namespace Sound

variable {w w' w'' : World α}

/-- One sound call after another. -/
theorem trans (h : Sound w w') (h' : Sound w' w'') : Sound w w'' := by
  obtain ⟨l, hl, hclean⟩ := h.log
  obtain ⟨l', hl', hclean'⟩ := h'.log
  refine ⟨h'.this.trans h.this, fun htcp => h'.tcp (h.tcp htcp), l ++ l', ?_, fun htcp => ?_⟩
  · rw [hl', hl, List.append_assoc]
  · rw [List.mem_append, not_or]
    exact ⟨hclean htcp, hclean' (h.tcp htcp)⟩

instance : IsPreorder (World α) Sound where
  refl _ := ⟨rfl, id, [], (List.append_nil _).symm, fun _ => List.not_mem_nil⟩
  trans _ _ _ := trans

/-- A change that keeps the handler and observes nothing. -/
theorem of_self (w : World α) {s : Socket} (hs : s.tcp = w.self.tcp) : Sound w (w.setSelf s) :=
  ⟨rfl, fun h => by rwa [World.setSelf, hs], [], (List.append_nil _).symm,
    fun _ => List.not_mem_nil⟩

/-- An observation is sound unless it is a null dereference on a socket that has a handler. -/
theorem of_observe (w : World α) {o : Obs} (ho : w.self.tcp.isSome → o ≠ .nullDereference) :
    Sound w (w.observe o) :=
  ⟨rfl, id, [o], rfl, fun h hmem => ho h (List.mem_singleton.mp hmem).symm⟩

end Sound

/-- Callbacks that leave the socket its handler and make no call that dereferences NULL. -/
structure Careful (cb : Callbacks α) : Prop where
  on : ∀ e w, Sound w (cb.on e w)
  onDataReceived : ∀ d w, Sound w (cb.onDataReceived d w).2

/-- The callbacks of an application make no calls. -/
theorem App.careful (a : App α) : Careful a.callbacks :=
  ⟨fun _ _ => ⟨rfl, id, [], (List.append_nil _).symm, fun _ => List.not_mem_nil⟩,
    fun _ _ => ⟨rfl, id, [], (List.append_nil _).symm, fun _ => List.not_mem_nil⟩⟩

/-- What a function of the stack observes, if it is no dereference of a null pointer. -/
def Unharmed (h h' : Stack) : Prop := ∃ l, h'.log = h.log ++ l ∧ .nullDereference ∉ l

/-- What the layers below do dereferences no handler of a socket. -/
theorem Unharmed.of_serves {h h' : Stack} (hs : Serves h h') : Unharmed h h' := by
  obtain ⟨l, hl, hout⟩ := hs.log
  exact ⟨l, hl, fun hmem => Bool.false_ne_true (hout _ hmem)⟩

/-- On a socket with a handler every function is sound. -/
theorem Frames.sound {cb : Callbacks α} (hcb : Careful cb) : Frames cb Sound where
  self w s hs := Sound.of_self w (congrArg (fun t => t.1) hs)
  stack w h hs := by
    obtain ⟨l, hl, hclean⟩ := Unharmed.of_serves hs
    exact ⟨rfl, id, l, hl, fun _ => hclean⟩
  event w _ := Sound.of_observe w fun _ => by simp
  received w _ _ := Sound.of_observe w fun _ => by simp
  dangling w hnone := Sound.of_observe w fun hsome => by
    rw [Option.isNone_iff_eq_none] at hnone
    rw [hnone] at hsome
    exact absurd hsome Bool.false_ne_true
  on := hcb.on
  onDataReceived := hcb.onDataReceived

/-! ### A socket without a handler -/

/-- The socket stays without a handler, and no null pointer is dereferenced. -/
structure Spared (w w' : World α) : Prop where
  this : w'.this = w.this
  tcp : w'.self.tcp = w.self.tcp
  log : Unharmed w.stack w'.stack

namespace Spared

variable {w w' w'' : World α}

/-- One sparing call after another. -/
theorem trans (h : Spared w w') (h' : Spared w' w'') : Spared w w'' := by
  obtain ⟨l, hl, hclean⟩ := h.log
  obtain ⟨l', hl', hclean'⟩ := h'.log
  refine ⟨h'.this.trans h.this, h'.tcp.trans h.tcp, l ++ l', ?_, ?_⟩
  · rw [hl', hl, List.append_assoc]
  · rw [List.mem_append, not_or]
    exact ⟨hclean, hclean'⟩

/-- Nothing done spares the socket. -/
theorem refl (w : World α) : Spared w w :=
  ⟨rfl, rfl, [], (List.append_nil _).symm, List.not_mem_nil⟩

/-- A change of the socket that leaves `tcp`. -/
theorem of_self (w : World α) {s : Socket} (hs : s.tcp = w.self.tcp) : Spared w (w.setSelf s) :=
  ⟨rfl, hs, [], (List.append_nil _).symm, List.not_mem_nil⟩

end Spared

variable {cb : Callbacks α} {dns : Resolver}

/-- Entering a state without events. -/
theorem setState_spared {state : UInt8} {w : World α}
    (hclosed : ¬ (state = CLOSED ∧ w.self.state ≠ RESOLVING)) (hest : state ≠ ESTABLISHED) :
    Spared w (setState cb state w) := by
  have hquiet : setState cb state w =
      w.setSelf { w.self with state := state, stateTime := w.stack.millis } := by
    unfold setState announce
    dsimp only
    rw [if_neg hest, if_neg hclosed]
  rw [hquiet]
  exact Spared.of_self w rfl

/-- Leaving RESOLVING fires no event. -/
theorem closed_spared (cb : Callbacks α) {w : World α} (hstate : w.self.state = RESOLVING) :
    Spared w (closed cb w) := by
  unfold closed
  split
  · exact setState_spared (fun h => absurd h.1 (by decide)) (by decide)
  · exact setState_spared (fun h => h.2 hstate) (by decide)

/-- `resolveIP`, given what follows it. -/
theorem resolveWith_spared (hdns : ∀ d h, Unharmed h (dns d h).2)
    {connect : Proc (World α) Unit} {w : World α}
    (hconnect : ∀ w', Spared w w' → Spared w' (connect.run w').2) :
    Spared w ((resolveWith cb dns connect).run w).2 := by
  unfold resolveWith
  rw [Proc.run_read_bind]
  split
  · exact .refl w
  split
  · exact .refl w
  rename_i remoteDomain _
  have hstack : Spared w { w with stack := (dns remoteDomain w.stack).2 } :=
    ⟨rfl, rfl, hdns remoteDomain w.stack⟩
  have hunknown : ∀ w' : World α, Spared w' (setState cb UNKNOWN_HOST w') :=
    fun _ => setState_spared (fun h => absurd h.1 (by decide)) (by decide)
  have hresolving : ∀ w' : World α, Spared w' (setState cb RESOLVING w') :=
    fun _ => setState_spared (fun h => absurd h.1 (by decide)) (by decide)
  rw [Proc.run_bind_of_some (a := (dns remoteDomain w.stack).1)
    (t := { w with stack := (dns remoteDomain w.stack).2 }) rfl]
  generalize (dns remoteDomain w.stack).1 = answer
  obtain ⟨rip, error⟩ := answer
  dsimp only
  split
  · exact hstack.trans (hunknown _)
  split
  · exact hstack.trans (hresolving _)
  rename_i ip
  have hip := hstack.trans (Spared.of_self { w with stack := (dns remoteDomain w.stack).2 }
    (s := { w.self with remoteIP := ip }) rfl)
  rw [Proc.run_modify_bind]
  split
  case isFalse => exact hip
  case isTrue hstate =>
    have hclosed := hip.trans (closed_spared cb hstate)
    rw [Proc.run_modify_bind]
    split
    case isFalse => exact hclosed
    case isTrue =>
      rw [Proc.run_modify_bind]
      have hflag := hclosed.trans (Spared.of_self _
        (s := { (closed cb ({ w with stack := (dns remoteDomain w.stack).2 }.setSelf
          { w.self with remoteIP := ip })).self with connectOnResolution := false }) rfl)
      exact hflag.trans (hconnect _ hflag)

/-- `connect`, given a `resolveIP` that is harmless, gives up on a socket without a handler. -/
theorem connectWith_spared {resolveIP : Proc (World α) Unit} {w : World α}
    (hnone : w.self.tcp = none) (hresolve : Spared w (resolveIP.run w).2) :
    Spared w ((connectWith cb resolveIP).run w).2 := by
  unfold connectWith
  rcases hrun : resolveIP.run w with ⟨_ | u, w'⟩
  · rw [hrun] at hresolve
    rw [Proc.run_bind_of_none hrun]
    exact hresolve
  · rw [hrun] at hresolve
    rw [Proc.run_bind_of_some hrun, Proc.run_read_bind]
    split
    · exact hresolve.trans (Spared.of_self w' rfl)
    split
    · exact hresolve
    rw [if_pos (by rw [hresolve.tcp, hnone]; rfl)]
    exact hresolve

/-- `connect` on a socket without handler leaves before it reaches the pointer. -/
theorem connect_detached (hdns : ∀ d h, Unharmed h (dns d h).2) {w : World α}
    (hnone : w.self.tcp = none) : Spared w ((connect cb dns).exec w) := by
  have hinner : ∀ w' : World α, w'.self.tcp = none → Spared w'
      ((connectWith cb (resolveWith cb dns Proc.fail)).run w').2 := by
    intro w' hw'
    exact connectWith_spared hw' (resolveWith_spared hdns fun w'' _ => Spared.refl w'')
  exact connectWith_spared hnone (resolveWith_spared hdns
    fun w' hw' => hinner w' (hw'.tcp.trans hnone))

/-- So does `send`. -/
theorem send_detached (length : UInt16) {w : World α} (hnone : w.self.tcp = none) :
    Spared w ((send cb length).exec w) := by
  unfold send Proc.exec
  rw [Proc.run_read_bind]
  split
  · exact .refl w
  split
  · exact .refl w
  split
  · exact .refl w
  rw [Proc.run_modify_bind]
  have hbuffer : (w.setSelf { w.self with attempts := 1 }).self.getSendDataBuffer = none := by
    rw [getSendDataBuffer, World.setSelf, if_pos (by rw [hnone]; rfl)]
  rw [Proc.run_bind_of_none (t := w.setSelf { w.self with attempts := 1 })
    (by rw [Proc.run_query, hbuffer])]
  exact Spared.of_self w rfl

/-- So does the `send` of a buffer. -/
theorem sendBytes_detached (data : Bytes) {w : World α} (hnone : w.self.tcp = none) :
    Spared w ((sendBytes cb data).exec w) := by
  have hbuffer : w.self.getSendDataBuffer = none := by
    rw [getSendDataBuffer, if_pos (by rw [hnone]; rfl)]
  unfold sendBytes Proc.exec
  rw [Proc.run_bind_of_none (t := w) (by rw [Proc.run_query, hbuffer])]
  exact .refl w

/-! ### The two calls that do -/

/-- `forceClose` resets a connection that there is no handler for. -/
theorem forceClose_dereferences (hcb : Careful cb) {w : World α} (hnone : w.self.tcp = none)
    (hstate : w.self.state ≠ TIME_WAIT) :
    .nullDereference ∈ (forceClose cb w).stack.log := by
  have hreset : (reset cb w.self.localSeq w.self.remoteSeq).exec w =
      w.observe .nullDereference := by
    unfold reset sendSegment Proc.exec
    rw [Proc.run_read_bind, Proc.run_bind_of_none (t := w.observe .nullDereference)]
    rw [Proc.run_read_bind, if_pos (by rw [hnone]; rfl)]
    rfl
  have hforce : forceClose cb w = closed cb (w.observe .nullDereference) := by
    unfold forceClose
    dsimp only
    rw [if_pos hstate, hreset]
  obtain ⟨l, hl, -⟩ := ((Frames.sound hcb).closed (w.observe .nullDereference)).log
  rw [hforce, hl]
  exact List.mem_append_left l (List.mem_append_right _ (List.mem_singleton_self _))

/-- A closed socket has nothing to close. -/
theorem close_localClosed {w : World α} (hclosed : w.self.localClosed) :
    (close cb).exec w = w := by
  unfold close Proc.exec
  rw [Proc.run_read_bind, if_pos hclosed]
  rfl

end Socket

namespace TCPHandler

variable {α : Type} (cb : ℕ → Callbacks α)

/-! ### Registration -/

/-- What a registration of socket `i` cannot do: take a handler away, put a socket without one
into the table, or be observed. -/
structure Joins (i : ℕ) (n n' : Net α) : Prop where
  other : ∀ j, j ≠ i → n'.sockets j = n.sockets j
  tcp : (n.sockets i).tcp.isSome → (n'.sockets i).tcp.isSome
  table : ∀ j, n'.Registered j → n.Registered j ∨ j = i ∧ (n'.sockets i).tcp.isSome
  log : n'.stack.log = n.stack.log

variable {cb}

/-- The registration of the timer observes nothing. -/
theorem log_ensureTimer (n : Net α) : (ensureTimer n).2.stack.log = n.stack.log := by
  obtain ⟨_, _, hrest⟩ := ensureTimer_rest n
  rw [hrest]

/-- The host after the timer has been tried, with the socket in slot `k` or not. -/
theorem joins_slot {i k : ℕ} {n n₁ : Net α} (hother : ∀ j, j ≠ i → n₁.sockets j = n.sockets j)
    (htcp : (n₁.sockets i).tcp.isSome) (hlog : n₁.stack.log = n.stack.log)
    (hslots : n₁.tcp.registeredSockets = n.tcp.registeredSockets.set k (some i)) :
    Joins i n (if (ensureTimer n₁).1 then (true, (ensureTimer n₁).2)
      else (false, setSlot (ensureTimer n₁).2 k none)).2 := by
  obtain ⟨timerIndex, etherControl, hrest⟩ := ensureTimer_rest n₁
  rw [hrest]
  split
  · refine ⟨hother, fun _ => htcp, fun j hj => ?_, hlog⟩
    have hmem : some j ∈ n₁.tcp.registeredSockets := hj
    rw [hslots] at hmem
    exact (List.mem_or_eq_of_mem_set hmem).imp_right fun h => ⟨Option.some.inj h, htcp⟩
  · refine ⟨hother, fun _ => htcp, fun j hj => .inl ?_, hlog⟩
    have hmem : some j ∈ n₁.tcp.registeredSockets.set k none := hj
    rw [hslots, List.set_set] at hmem
    exact (List.mem_or_eq_of_mem_set hmem).resolve_right (by simp)

/-- Nothing done adds no socket. -/
theorem joins_refl (i : ℕ) (n : Net α) : Joins i n n :=
  ⟨fun _ _ => rfl, id, fun _ h => .inl h, rfl⟩

/-- Only the socket adopted is changed. -/
theorem sockets_adopt_other {cb : Callbacks α} {i j : ℕ} (n : Net α) (hj : j ≠ i) :
    (Socket.adopt cb i n).sockets j = n.sockets j := by
  rw [Socket.adopt_eq]
  exact if_neg hj

/-- `adopt` hands the socket its stash, not the pointer. -/
theorem tcp_adopt (cb : Callbacks α) (i : ℕ) (n : Net α) :
    ((Socket.adopt cb i n).sockets i).tcp = (n.sockets i).tcp :=
  congrArg Registration.tcp (Socket.adopt_rest cb i n).2.2

/-- `TCPHandler::registerSocket` -/
theorem registerSocket_joins (cb : Callbacks α) (i : ℕ) (n : Net α) :
    Joins i n (registerSocket cb i n).2 := by
  by_cases hin : some i ∈ n.tcp.registeredSockets
  · rw [registerSocket, registerSocketWith_found hin]
    exact joins_refl i n
  cases hk : n.tcp.registeredSockets.findIdx? (·.isNone) with
  | none =>
      have hfull : none ∉ n.tcp.registeredSockets := fun hfree =>
        absurd (List.findIdx?_eq_none_iff.mp hk none hfree) (by simp)
      rw [registerSocket, registerSocketWith_full hin hfull]
      exact joins_refl i n
  | some k =>
      rcases htcp : (n.sockets i).tcp with _ | m
      · rw [registerSocket_detached htcp hin hk]
        obtain ⟨htcpa, hstacka, -⟩ := Socket.adopt_rest cb i (joined i k n)
        refine joins_slot (fun j hj => ?_) ?_ ?_ ?_
        · rw [sockets_adopt_other _ hj]
          exact if_neg hj
        · rw [tcp_adopt, tcp_joined]
          rfl
        · rw [hstacka]
          rfl
        · rw [htcpa]
          rfl
      · by_cases hm : m = n.tcp.number
        · have hgrant : Socket.registerTCPHandlerWith (registerSocketWith (fun n => (false, n)) i)
              cb i (setSlot n k (some i)) = (true, setSlot n k (some i)) :=
            Socket.registerTCPHandlerWith_attached (hm ▸ htcp)
          rw [registerSocket, registerSocketWith_free hin hk hgrant, if_pos rfl]
          exact joins_slot (fun _ _ => rfl) (by rw [setSlot, htcp]; rfl) rfl rfl
        · have hrefused : Socket.registerTCPHandlerWith (registerSocketWith (fun n => (false, n)) i)
              cb i (setSlot n k (some i)) = (false, setSlot n k (some i)) :=
            Socket.registerTCPHandlerWith_elsewhere htcp hm
          rw [registerSocket, registerSocketWith_free hin hk hrefused, if_neg Bool.false_ne_true,
            setSlot_none hk]
          exact joins_refl i n

/-- A registration on the handler's side is not observed if the socket's side is not. -/
theorem log_registerSocketWith {registerTCPHandler : Net α → Bool × Net α}
    (h : ∀ n, (registerTCPHandler n).2.stack.log = n.stack.log) (i : ℕ) (n : Net α) :
    (registerSocketWith registerTCPHandler i n).2.stack.log = n.stack.log := by
  by_cases hin : some i ∈ n.tcp.registeredSockets
  · rw [registerSocketWith_found hin]
  cases hk : n.tcp.registeredSockets.findIdx? (·.isNone) with
  | none =>
      have hfull : none ∉ n.tcp.registeredSockets := fun hfree =>
        absurd (List.findIdx?_eq_none_iff.mp hk none hfree) (by simp)
      rw [registerSocketWith_full hin hfull]
  | some k =>
      have hcall := h (setSlot n k (some i))
      rcases hx : registerTCPHandler (setSlot n k (some i)) with ⟨registered, n₁⟩
      rw [hx] at hcall
      rw [registerSocketWith_free hin hk hx]
      split
      · split
        · exact (log_ensureTimer _).trans hcall
        · exact (log_ensureTimer _).trans hcall
      · exact hcall

/-- And the other way round. -/
theorem log_registerTCPHandlerWith {registerSocket : Net α → Bool × Net α}
    (h : ∀ n, (registerSocket n).2.stack.log = n.stack.log) (cb : Callbacks α) (i : ℕ)
    (n : Net α) :
    (Socket.registerTCPHandlerWith registerSocket cb i n).2.stack.log = n.stack.log := by
  by_cases hhere : (n.sockets i).tcp = some n.tcp.number
  · rw [Socket.registerTCPHandlerWith_attached hhere]
  rcases htcp : (n.sockets i).tcp with _ | m
  · have hcall := h (Socket.attach i n)
    rcases hx : registerSocket (Socket.attach i n) with ⟨registered, n₁⟩
    rw [hx] at hcall
    rw [Socket.registerTCPHandlerWith_detached htcp hx]
    split
    · rw [(Socket.adopt_rest cb i _).2.1]
      exact hcall
    · exact hcall
  · rw [Socket.registerTCPHandlerWith_elsewhere htcp fun hm => hhere (hm ▸ htcp)]

/-- `Socket::registerTCPHandler` -/
theorem registerTCPHandler_joins (cb : Callbacks α) (i : ℕ) (n : Net α) :
    Joins i n (Socket.registerTCPHandler cb i n).2 := by
  obtain ⟨hother, hself, htable⟩ := Socket.registerTCPHandler_registers cb i n
  refine ⟨hother, fun htcp => ?_, fun j hj => ?_, ?_⟩
  · rcases hself with hself | hadopted
    · rwa [hself]
    · rw [hadopted.tcp]
      rfl
  · exact (htable j hj).imp_right fun h => ⟨h.1, by rw [h.2.tcp]; rfl⟩
  · exact log_registerTCPHandlerWith (log_registerSocketWith
      (log_registerTCPHandlerWith (fun _ => rfl) cb i) i) cb i n

/-! ### Giving the handler up -/

/-- `unregisterSocket` changes no socket and registers none. -/
theorem unregisterSocket_keeps (i : ℕ) (n : Net α) :
    (unregisterSocket i n).sockets = n.sockets ∧
      (∀ j, (unregisterSocket i n).Registered j → n.Registered j) ∧
      Socket.Unharmed n.stack (unregisterSocket i n).stack := by
  have hclear : ∀ j, (clearSlots i n).Registered j → n.Registered j := by
    intro j hj
    obtain ⟨slot, hslot, heq⟩ := List.mem_map.mp hj
    split at heq
    · exact absurd heq (by simp)
    · rwa [heq] at hslot
  have hrefl : Socket.Unharmed n.stack n.stack := ⟨[], (List.append_nil _).symm, List.not_mem_nil⟩
  unfold unregisterSocket
  dsimp only
  split
  · refine ⟨rfl, hclear, ?_⟩
    dsimp only
    unfold EtherControl.unregisterTimer
    split
    · exact ⟨[.outOfBounds], rfl, by simp⟩
    split
    · exact hrefl
    · exact hrefl
  · exact ⟨rfl, hclear, hrefl⟩

/-- `unregisterTCPHandler` ends with a `forceClose` of a socket that has no handler. -/
theorem dropTCPHandler_ends (cb : Callbacks α) {i : ℕ} {unregisterSocket : Net α → Net α}
    (hsockets : ∀ n, (unregisterSocket n).sockets = n.sockets) (n : Net α) :
    ∃ n₁ : Net α, (n₁.sockets i).state = (n.sockets i).state ∧
      Socket.dropTCPHandler unregisterSocket cb i n =
        (n₁.call i fun w => w.setSelf { w.self with tcp := none, stash := none }).call i
          (Socket.forceClose cb) := by
  unfold Socket.dropTCPHandler
  dsimp only
  refine ⟨_, ?_, rfl⟩
  split
  · exact congrArg Socket.state (if_pos rfl)
  split
  · exact congrArg Socket.state (congrFun (hsockets n) i)
  · rfl

/-- With callbacks that leave the socket alone `closed` leads to one of two states. -/
theorem state_closed (a : App α) (w : World α) :
    (Socket.closed a.callbacks w).self.state = Socket.LISTEN ∨
      (Socket.closed a.callbacks w).self.state = Socket.CLOSED := by
  unfold Socket.closed
  split
  · exact .inl rfl
  · refine .inr ?_
    unfold Socket.setState Socket.announce
    dsimp only
    rw [if_neg (by decide)]
    split
    · rfl
    · rfl

/-- A socket that gives its handler up dereferences NULL: its second `forceClose` finds it in no
state in which there is nothing to reset. -/
theorem unregisterTCPHandler_dereferences (a : App α) {i : ℕ} {n : Net α}
    (htcp : (n.sockets i).tcp.isSome) :
    .nullDereference ∈ (Socket.unregisterTCPHandler a.callbacks i n).stack.log := by
  have hcareful := Socket.App.careful a
  obtain ⟨hthis, -, -⟩ := (Socket.Frames.sound hcareful).forceClose (n.world i)
  have hstate : ((n.call i (Socket.forceClose a.callbacks)).sockets i).state ≠ Socket.TIME_WAIT := by
    have hself : (n.call i (Socket.forceClose a.callbacks)).sockets i =
        (Socket.forceClose a.callbacks (n.world i)).self := if_pos hthis.symm
    rw [hself]
    unfold Socket.forceClose
    dsimp only
    rcases state_closed a _ with h | h
    · rw [h]
      decide
    · rw [h]
      decide
  rw [Socket.unregisterTCPHandler, if_pos htcp]
  obtain ⟨n₂, hkept, hdrop⟩ := dropTCPHandler_ends a.callbacks (i := i)
    (fun n => (unregisterSocket_keeps i n).1) (n.call i (Socket.forceClose a.callbacks))
  rw [hdrop]
  generalize hn₃ : (n₂.call i fun w => w.setSelf { w.self with tcp := none, stash := none }) = n₃
  have hself : n₃.sockets i = { n₂.sockets i with tcp := none, stash := none } := by
    rw [← hn₃]
    exact if_pos rfl
  refine Socket.forceClose_dereferences hcareful (w := n₃.world i) ?_ ?_
  · exact congrArg Socket.tcp hself
  · have hstate₃ := (congrArg Socket.state hself).trans hkept
    exact fun h => hstate (hstate₃.symm.trans h)

/-! ### Runs -/

/-- Every socket in the table has its handler, and no null pointer has been dereferenced. -/
structure Attached (n : Net α) : Prop where
  table : ∀ i, n.Registered i → (n.sockets i).tcp.isSome
  log : .nullDereference ∉ n.stack.log

/-- Registered sockets stay attached where one is added that has the pointer. -/
theorem Attached.joins {i : ℕ} {n n' : Net α} (hn : Attached n) (h : Joins i n n') :
    Attached n' := by
  refine ⟨fun j hj => ?_, h.log ▸ hn.log⟩
  rcases h.table j hj with hj | ⟨rfl, hself⟩
  · by_cases hji : j = i
    · subst hji
      exact h.tcp (hn.table j hj)
    · rw [h.other j hji]
      exact hn.table j hj
  · exact hself

/-- A call that is sound, or spares a socket without a handler. -/
theorem Attached.call {i : ℕ} {n : Net α} (hn : Attached n) {f : World α → World α}
    (hthis : (f (n.world i)).this = i)
    (htcp : (n.sockets i).tcp.isSome → (f (n.world i)).self.tcp.isSome)
    (hlog : Socket.Unharmed n.stack (f (n.world i)).stack) : Attached (n.call i f) := by
  obtain ⟨l, hl, hclean⟩ := hlog
  constructor
  · intro j hj
    have hreg : n.Registered j := hj
    by_cases hji : j = i
    · subst hji
      have hself : (n.call j f).sockets j = (f (n.world j)).self := if_pos hthis.symm
      rw [hself]
      exact htcp (hn.table j hreg)
    · have hother : (n.call i f).sockets j = n.sockets j := if_neg fun h => hji (h.trans hthis)
      rw [hother]
      exact hn.table j hreg
  · have hnew : (n.call i f).stack.log = n.stack.log ++ l := hl
    rw [hnew, List.mem_append, not_or]
    exact ⟨hn.log, hclean⟩

/-- A sound call on a socket that has the pointer. -/
theorem Attached.call_sound {i : ℕ} {n : Net α} (hn : Attached n) {f : World α → World α}
    (htcp : (n.sockets i).tcp.isSome) (hf : Socket.Sound (n.world i) (f (n.world i))) :
    Attached (n.call i f) := by
  obtain ⟨l, hl, hclean⟩ := hf.log
  exact hn.call hf.this hf.tcp ⟨l, hl, hclean htcp⟩

/-- A sparing call, whatever the socket has. -/
theorem Attached.call_spared {i : ℕ} {n : Net α} (hn : Attached n) {f : World α → World α}
    (hf : Socket.Spared (n.world i) (f (n.world i))) : Attached (n.call i f) :=
  hn.call hf.this (fun h => by rw [hf.tcp]; exact h) hf.log

/-- What a step must not do: give up a handler that is set, send a segment from a socket without
one. Names are looked up, and the rest of the stack runs, without dereferencing NULL. -/
def Safe (n : Net α) : Operation α → Prop
  | .event (.connect _ dns) => ∀ d h, Socket.Unharmed h (dns d h).2
  | .event (.tick dns) => ∀ d h, Socket.Unharmed h (dns d h).2
  | .event (.close i) => (n.sockets i).tcp.isSome ∨ (n.sockets i).localClosed
  | .event (.forceClose i) => (n.sockets i).tcp.isSome
  | .event (.elsewhere stack _) => Socket.Unharmed n.stack stack
  | .unregisterTCPHandler i => (n.sockets i).tcp = none
  | .delete i => (n.sockets i).tcp = none
  | _ => True

section Run

variable (hcb : ∀ i, Socket.Careful (cb i))

include hcb

/-- A tick calls only sockets in the table. -/
theorem Attached.handleTimer {n : Net α} (hn : Attached n) {dns : Resolver}
    (hdns : ∀ d h, Socket.Unharmed h (dns d h).2) : Attached (handleTimer cb dns n) := by
  have hslots : ∀ k, Attached (checkSlots cb dns n k) ∧
      (checkSlots cb dns n k).tcp = n.tcp := by
    intro k
    induction k with
    | zero => exact ⟨hn, rfl⟩
    | succ k ih =>
        obtain ⟨hk, htcp⟩ := ih
        rw [checkSlots]
        split
        case h_1 i hslot =>
          have hreg : (checkSlots cb dns n k).Registered i := List.mem_of_getElem? hslot
          refine ⟨hk.call_sound (hk.table i hreg) ?_, htcp⟩
          refine (Socket.Frames.sound (hcb i)).checkState (fun d w => ?_) _
          obtain ⟨l, hl, hclean⟩ := hdns d w.stack
          exact ⟨rfl, id, l, hl, fun _ => hclean⟩
        case h_2 => exact ⟨hk, htcp⟩
  exact (hslots _).1

/-- A packet is given to a socket in the table. -/
theorem Attached.handlePacket {n : Net α} (hn : Attached n) (sourceIP : IPAddr) (packet : Bytes) :
    Attached (handlePacket cb sourceIP packet n) := by
  have hsegment : ∀ {test : Socket → Bool} {i : ℕ}, findSocket n test = some i →
      Attached (n.call i (Socket.handleSegment (cb i) sourceIP packet)) := by
    intro test i hfound
    refine hn.call_sound (hn.table i (findSocket_some hfound).1) ?_
    exact (Socket.Frames.sound (hcb i)).handleSegment sourceIP packet _
      fun _ w _ => Socket.Sound.of_self w rfl
  unfold TCPHandler.handlePacket
  split
  case h_2 => exact hn
  split
  case h_1 i hfound => exact hsegment hfound
  split
  case h_1 i hfound => exact hsegment hfound
  case h_2 => exact hn

/-- A safe step. -/
theorem Attached.perform {n : Net α} (hn : Attached n) {o : Operation α} (ho : Safe n o) :
    Attached (perform cb o n) := by
  -- a call that is sound with a handler, and spares a socket without one
  have hcall : ∀ {i : ℕ} {f : World α → World α}, Socket.Sound (n.world i) (f (n.world i)) →
      ((n.sockets i).tcp = none → Socket.Spared (n.world i) (f (n.world i))) →
      Attached (n.call i f) := by
    intro i f hsound hspared
    cases htcp : (n.sockets i).tcp with
    | none => exact hn.call_spared (hspared htcp)
    | some m => exact hn.call_sound (by rw [htcp]; rfl) hsound
  have hgone : ∀ i, (n.sockets i).tcp = none → Socket.unregisterTCPHandler (cb i) i n = n :=
    fun i hnone => if_neg (by rw [hnone]; simp)
  cases o with
  | registerSocket i => exact hn.joins (registerSocket_joins (cb i) i n)
  | unregisterTCPHandler i =>
      have hsame : TCPHandler.perform cb (.unregisterTCPHandler i) n = n := hgone i ho
      rwa [hsame]
  | unregisterSocket i =>
      obtain ⟨hsockets, htable, l, hl, hclean⟩ := unregisterSocket_keeps i n
      refine ⟨fun j hj => ?_, ?_⟩
      · have hsock : (TCPHandler.perform cb (.unregisterSocket i) n).sockets j = n.sockets j :=
          congrFun hsockets j
        rw [hsock]
        exact hn.table j (htable j hj)
      · have hlog : (TCPHandler.perform cb (.unregisterSocket i) n).stack.log =
            n.stack.log ++ l := hl
        rw [hlog, List.mem_append, not_or]
        exact ⟨hn.log, hclean⟩
  | delete i =>
      have hfreed : TCPHandler.perform cb (.delete i) n = n.call i fun w => w.setSelf { w.self with
          recvBuffer := none, sendBuffer := none } := by
        show Socket.delete (cb i) i n = _
        rw [Socket.delete, hgone i ho]
      rw [hfreed]
      exact hn.call_spared (f := fun w => w.setSelf { w.self with
        recvBuffer := none, sendBuffer := none }) (Socket.Spared.of_self _ rfl)
  | event e =>
      cases e with
      | register i => exact hn.joins (registerTCPHandler_joins (cb i) i n)
      | connect i dns =>
          refine hcall ((Socket.Frames.sound (hcb i)).connect (fun d w => ?_) _)
            fun hnone => Socket.connect_detached ho hnone
          obtain ⟨l, hl, hclean⟩ := ho d w.stack
          exact ⟨rfl, id, l, hl, fun _ => hclean⟩
      | send i length =>
          exact hcall ((Socket.Frames.sound (hcb i)).send length _)
            fun hnone => Socket.send_detached length hnone
      | sendBytes i data =>
          exact hcall ((Socket.Frames.sound (hcb i)).sendBytes data _)
            fun hnone => Socket.sendBytes_detached data hnone
      | close i =>
          rcases ho with htcp | hclosed
          · exact hn.call_sound htcp ((Socket.Frames.sound (hcb i)).close _)
          · refine hn.call_spared ?_
            rw [Socket.close_localClosed (w := n.world i) hclosed]
            exact .refl _
      | forceClose i => exact hn.call_sound ho ((Socket.Frames.sound (hcb i)).forceClose _)
      | setTimeout i t =>
          exact hn.call_spared (f := fun w => w.setSelf { w.self with timeout := t })
            (Socket.Spared.of_self _ rfl)
      | packet sourceIP packet => exact hn.handlePacket hcb sourceIP packet
      | tick dns => exact hn.handleTimer hcb ho
      | elsewhere stack app =>
          obtain ⟨l, hl, hclean⟩ := ho
          refine ⟨hn.table, ?_⟩
          have hlog : (TCPHandler.perform cb (.event (.elsewhere stack app)) n).stack.log =
              n.stack.log ++ l := hl
          rw [hlog, List.mem_append, not_or]
          exact ⟨hn.log, hclean⟩

end Run

/-- In every run of safe steps from the start of the program no null pointer is dereferenced. -/
theorem reaches_noNullDereference (hcb : ∀ i, Socket.Careful (cb i)) {n n' : Net α}
    (hfresh : n.Fresh) (hlog : .nullDereference ∉ n.stack.log)
    (hrun : Reaches Safe (perform cb) n n') : .nullDereference ∉ n'.stack.log := by
  have hstart : Attached n := ⟨fun i hi => absurd hi (hfresh.table i), hlog⟩
  exact (hrun.invariant hstart fun _ _ hn ho => hn.perform hcb ho).log

/-- The runs of a host of which every step is safe. -/
theorem reaches_noNullDereference_example :
    .nullDereference ∉ (perform (fun _ => exampleApp.callbacks) (.event (.connect 0 exampleResolver))
      (perform (fun _ => exampleApp.callbacks) (.registerSocket 0)
        (exampleFresh 1 2 (Socket.newClient ⟨10, 0, 0, 2⟩ 80 7 0 Socket.zero)))).stack.log := by
  have hquiet : ∀ d h, Socket.Unharmed h (exampleResolver d h).2 :=
    fun _ _ => ⟨[], (List.append_nil _).symm, List.not_mem_nil⟩
  refine reaches_noNullDereference (fun _ => Socket.App.careful exampleApp)
    (fresh_exampleFresh 1 2 (.client ⟨10, 0, 0, 2⟩ 80 7 0 Socket.zero)) (by decide) ?_
  exact (Reaches.refl.step (e := Operation.registerSocket 0) trivial).step
    (e := Operation.event (.connect 0 exampleResolver)) hquiet

/-- A client that has been registered is unregistered. -/
theorem unregister_dereferences :
    (exampleFresh 1 2 (Socket.newClient ⟨10, 0, 0, 2⟩ 80 7 0 Socket.zero)).Fresh ∧
      .nullDereference ∈ (perform (fun _ => exampleApp.callbacks) (.unregisterTCPHandler 0)
        (perform (fun _ => exampleApp.callbacks) (.event (.register 0))
          (exampleFresh 1 2 (Socket.newClient ⟨10, 0, 0, 2⟩ 80 7 0 Socket.zero)))).stack.log :=
  ⟨fresh_exampleFresh 1 2 (.client ⟨10, 0, 0, 2⟩ 80 7 0 Socket.zero),
    unregisterTCPHandler_dereferences exampleApp (by decide +kernel)⟩

end TCPHandler

end AtmegaNet
