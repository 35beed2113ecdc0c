import AtmegaNet.BoundedRetry
import AtmegaNet.FirstTransmission
import AtmegaNet.Registration
import AtmegaNet.Stashes

/-!
# Retransmission across the sockets of a handler

The sockets of a handler share the send buffer, in which every segment is put together, and the
outbound buffer, of which each has a part as its stash. This module runs a host, with any number
of sockets and any applications that leave these buffers to the library, and finds that what a
socket sends again is what it has sent: no other socket comes in between.

A tick of the handler's timer checks one slot after the other, which are single steps here.

## Main results

* `Stocked`: every socket is faithful, and those that have a handler have the stash of their own
  slot.
* `Stocked.update`: what one socket does keeps the others faithful as well.
* `resendData_faithful`: in every run `resendData` carries the number and the bytes of the first
  transmission.
-/

open Procedure Runs

namespace AtmegaNet

open Socket (Ledger Faithful Retains Undisturbed Subclass shown)

/-- A socket that has just been constructed has no stash. -/
theorem Socket.Constructed.stash {s : Socket} (h : s.Constructed) : s.stash = none := by
  cases h with
  | client => rfl
  | named => rfl
  | listener => rfl

namespace TCPHandler

variable {α : Type}

/-! ### The stashes of a host -/

/-- Every socket is faithful to the ledger. The table holds sockets that have a handler, and each
of them has the stash of a slot it is in, which no other slot meets. -/
structure Stocked (n : Net (α × Ledger)) : Prop where
  faithful : ∀ i, Faithful (n.world i)
  slot : ∀ i, (n.sockets i).tcp.isSome → ∃ k, n.tcp.registeredSockets[k]? = some (some i) ∧
    (n.sockets i).stash = some (n.tcp.stashBuffer n.stack k)
  loose : ∀ i, (n.sockets i).tcp = none → (n.sockets i).stash = none
  table : ∀ i, n.Registered i → (n.sockets i).tcp.isSome
  disjoint : ∀ k < n.tcp.registeredSockets.length, ∀ l < n.tcp.registeredSockets.length, k ≠ l →
    Disjoint (n.tcp.stashRange n.stack k) (n.tcp.stashRange n.stack l)

/-- The stash of a slot depends on the size of the outbound buffer and on the quotient. -/
theorem stashBuffer_congr {tcp tcp' : TCPHandler} {h h' : Stack}
    (hlen : tcp'.maxOutboundLen = tcp.maxOutboundLen) (hsize : h'.outboundSize = h.outboundSize)
    (k : ℕ) : tcp'.stashBuffer h' k = tcp.stashBuffer h k := by
  rw [stashBuffer, stashBuffer, hlen, hsize]

theorem stashRange_congr {tcp tcp' : TCPHandler} {h h' : Stack}
    (hlen : tcp'.maxOutboundLen = tcp.maxOutboundLen) (hsize : h'.outboundSize = h.outboundSize)
    (k : ℕ) : tcp'.stashRange h' k = tcp.stashRange h k := by
  rw [stashRange, stashRange, stashBuffer_congr hlen hsize]

namespace Stocked

variable {n : Net (α × Ledger)}

/-- The rest of the host may change. -/
theorem congr (hn : Stocked n) {n' : Net (α × Ledger)} (hsockets : n'.sockets = n.sockets)
    (htable : n'.tcp.registeredSockets = n.tcp.registeredSockets)
    (hlen : n'.tcp.maxOutboundLen = n.tcp.maxOutboundLen) (hstack : n.stack.Spares n'.stack)
    (hledger : n'.app.2 = n.app.2) : Stocked n' := by
  have hsize := hstack.outboundSize
  refine ⟨fun i => ?_, fun i htcp => ?_, fun i htcp => ?_, fun i hi => ?_, fun k hk l hl hne => ?_⟩
  · have hself : n'.sockets i = n.sockets i := congrFun hsockets i
    have hsame : Undisturbed (n.world i) (n'.world i) := by
      refine ⟨rfl, hledger, hstack, ?_⟩
      show ((n'.sockets i).tcp, (n'.sockets i).stash, (n'.sockets i).sendBuffer) = _
      rw [hself]
      rfl
    refine (hsame.retains ?_ (hn.faithful i)).1
    show ((n'.sockets i).state, (n'.sockets i).localSeq, (n'.sockets i).lastDataLength) = _
    rw [hself]
    rfl
  · rw [hsockets] at htcp ⊢
    obtain ⟨k, hk, hstash⟩ := hn.slot i htcp
    exact ⟨k, htable ▸ hk, by rw [hstash, stashBuffer_congr hlen hsize]⟩
  · rw [hsockets] at htcp ⊢
    exact hn.loose i htcp
  · rw [hsockets]
    refine hn.table i ?_
    rwa [Net.Registered, htable] at hi
  · rw [htable] at hk hl
    rw [stashRange_congr hlen hsize, stashRange_congr hlen hsize]
    exact hn.disjoint k hk l hl hne

/-- Two sockets do not have a byte of their stashes in common. -/
theorem apart (hn : Stocked n) {i j : ℕ} (hne : j ≠ i) {b : Buffer}
    (hb : (n.sockets j).stash = some b) {a : ℕ} (ha : b.base ≤ a ∧ a < b.base + b.size.toNat) :
    ∀ b', (n.sockets i).stash = some b' → a < b'.base ∨ b'.base + b'.size.toNat ≤ a := by
  intro b' hb'
  have hhandler : ∀ {i b}, (n.sockets i).stash = some b → (n.sockets i).tcp.isSome := by
    intro i b hb
    by_contra hnone
    have hloose := hn.loose i (by simpa using hnone)
    rw [hb] at hloose
    exact absurd hloose (by simp)
  obtain ⟨k, hk, hstash⟩ := hn.slot j (hhandler hb)
  obtain ⟨l, hl, hstash'⟩ := hn.slot i (hhandler hb')
  obtain rfl : b = _ := Option.some.inj (hb.symm.trans hstash)
  obtain rfl : b' = _ := Option.some.inj (hb'.symm.trans hstash')
  have hkl : k ≠ l := by
    rintro rfl
    rw [hk] at hl
    exact hne (Option.some.inj (Option.some.inj hl))
  have hdisjoint := hn.disjoint k (List.getElem?_eq_some_iff.mp hk).1 l
    (List.getElem?_eq_some_iff.mp hl).1 hkl
  have hout := Set.disjoint_left.mp hdisjoint ha
  by_contra hin
  obtain ⟨hlow, hhigh⟩ := not_or.mp hin
  exact hout ⟨Nat.not_lt.mp hlow, Nat.not_le.mp hhigh⟩

/-- What one socket does keeps all of them faithful. -/
theorem update (hn : Stocked n) {i : ℕ} {w : World (α × Ledger)} (h : Retains (n.world i) w) :
    Stocked (n.update w) := by
  obtain ⟨hfaithful, happ⟩ := h (hn.faithful i)
  have hthis : w.this = i := happ.this
  have hself : (n.update w).sockets i = w.self := if_pos hthis.symm
  have hother : ∀ j, j ≠ i → (n.update w).sockets j = n.sockets j :=
    fun j hj => if_neg fun h => hj (h.trans hthis)
  have hlen : n.tcp.maxOutboundLen = n.tcp.maxOutboundLen := rfl
  have hbuffer := stashBuffer_congr hlen happ.outboundSize
  have hgear : ∀ j, ((n.update w).sockets j).tcp = (n.sockets j).tcp ∧
      ((n.update w).sockets j).stash = (n.sockets j).stash := by
    intro j
    by_cases hj : j = i
    · subst hj
      rw [hself]
      exact ⟨happ.tcp, happ.stash⟩
    · rw [hother j hj]
      exact ⟨rfl, rfl⟩
  refine ⟨fun j => ?_, fun j htcp => ?_, fun j htcp => ?_, fun j hj => ?_, fun k hk l hl hne => ?_⟩
  · by_cases hj : j = i
    · subst hj
      have hworld : (n.update w).world j = w := by
        show (⟨j, (n.update w).sockets j, w.stack, w.app⟩ : World (α × Ledger)) = w
        rw [hself, ← hthis]
      rwa [hworld]
    · -- the world of another socket: its stash and its entry have not changed
      have hworld : (n.update w).world j = ⟨j, n.sockets j, w.stack, w.app⟩ := by
        show (⟨j, (n.update w).sockets j, w.stack, w.app⟩ : World (α × Ledger)) = _
        rw [hother j hj]
      rw [hworld]
      obtain ⟨hgeared, hkept⟩ := hn.faithful j
      have hpayload : w.stack.ipPayload = n.stack.ipPayload := Stack.ipPayload_congr happ.sendSize
      refine ⟨fun htcp => ?_, fun hwait => ?_⟩
      · obtain ⟨htcp, hsend, hstash⟩ := hgeared htcp
        refine ⟨htcp, ?_, hstash⟩
        show (n.sockets j).sendBuffer = some (OffsetBuffer.reinit w.stack.ipPayload 20 0)
        rw [hpayload]
        exact hsend
      · obtain ⟨hhandler, hnonempty, ⟨b, hb, hle, hentry⟩, hroom⟩ := hkept hwait
        obtain ⟨b', hb', -, hroot⟩ := (hgeared hhandler).stash
        obtain rfl : b = b' := Option.some.inj (hb.symm.trans hb')
        refine ⟨hhandler, hnonempty, ⟨b, hb, hle, ?_⟩, ?_⟩
        · show w.app.2 j = some (_, Region.read w.stack.mem b.root b.base _)
          rw [happ.others j hj, hroot]
          refine Eq.trans hentry (congrArg (fun d => some (_, d)) ?_)
          rw [hroot]
          refine Region.read_congr fun a ha => (happ.outbound _ ?_).symm
          have hle := UInt16.le_iff_toNat_le.mp hle
          have ha : a < (n.sockets j).lastDataLength.toNat := ha
          exact hn.apart hj hb ⟨by omega, by omega⟩
        · show (n.sockets j).lastDataLength.toNat + 20 ≤ w.stack.room
          rw [Stack.room_congr happ.sendSize]
          exact hroom
  · rw [(hgear j).1] at htcp
    obtain ⟨k, hk, hstash⟩ := hn.slot j htcp
    refine ⟨k, hk, ?_⟩
    rw [(hgear j).2, hstash]
    exact congrArg some (hbuffer k).symm
  · rw [(hgear j).1] at htcp
    rw [(hgear j).2]
    exact hn.loose j htcp
  · rw [(hgear j).1]
    exact hn.table j hj
  · have hrange := stashRange_congr hlen happ.outboundSize
    show Disjoint (n.tcp.stashRange w.stack k) (n.tcp.stashRange w.stack l)
    rw [hrange, hrange]
    exact hn.disjoint k hk l hl hne

/-! ### Registration -/

/-- The slot `k` of the table has been given to the socket `i`, which has got its handler and the
stash of a slot it is in. Nothing else has changed. -/
structure Joins (n n' : Net (α × Ledger)) (i k : ℕ) : Prop where
  tcp : n'.tcp = { n.tcp with registeredSockets := n.tcp.registeredSockets.set k (some i) }
  stack : n'.stack = n.stack
  world : ∀ j, j ≠ i → n'.world j = n.world j
  self : ∃ l, n'.tcp.registeredSockets[l]? = some (some i) ∧ n'.sockets i = { n.sockets i with
    tcp := some n.tcp.number
    stash := some (n.tcp.stashBuffer n.stack l)
    state := if (n.sockets i).isHost then Socket.LISTEN else (n.sockets i).state
    stateTime := if (n.sockets i).isHost then n.stack.millis else (n.sockets i).stateTime
    sendBuffer := some (OffsetBuffer.reinit n.stack.ipPayload 20 0) }

/-- `getStash` finds a slot the socket is in. -/
theorem getStash_of_mem {tcp : TCPHandler} {i : ℕ} (h : some i ∈ tcp.registeredSockets)
    (stack : Stack) : ∃ l, tcp.registeredSockets[l]? = some (some i) ∧
      getStash i tcp stack = some (tcp.stashBuffer stack l) := by
  obtain ⟨l, hl⟩ : ∃ l, tcp.registeredSockets.findIdx? (fun slot => slot = some i) = some l := by
    rw [← Option.isSome_iff_exists, List.findIdx?_isSome, List.any_eq_true]
    exact ⟨some i, h, by simp⟩
  obtain ⟨hlt, hslot, -⟩ := List.findIdx?_eq_some_iff_getElem.mp hl
  refine ⟨l, ?_, by rw [getStash, hl]; rfl⟩
  rw [List.getElem?_eq_getElem hlt]
  exact congrArg some (by simpa using hslot)

theorem joins_adopt (cb : Callbacks (α × Ledger)) {i k : ℕ}
    (hk : n.tcp.registeredSockets.findIdx? (·.isNone) = some k) :
    Joins n (Socket.adopt cb i (joined i k n)) i k := by
  obtain ⟨l, hslot, hstash⟩ := getStash_of_mem (some_mem_joined (i := i) hk) (joined i k n).stack
  have hworld : (joined i k n).world i =
      ⟨i, { n.sockets i with tcp := some n.tcp.number }, n.stack, n.app⟩ := by
    simp [joined, Socket.attach, Net.call, Net.update, Net.world, World.setSelf, setSlot]
  rw [Socket.adopt_eq]
  refine ⟨rfl, rfl, fun j hj => ?_, l, hslot, (if_pos rfl).trans ?_⟩
  · exact congrArg (fun s => World.mk j s n.stack n.app) ((if_neg hj).trans (if_neg hj))
  · rw [hworld, hstash]
    rfl

/-- A socket that joins is not waiting for an acknowledgement. -/
theorem Joins.faithful {n' : Net (α × Ledger)} {i k : ℕ} (h : Joins n n' i k) (hn : Stocked n)
    (htcp : (n.sockets i).tcp = none) : Faithful (n'.world i) := by
  obtain ⟨l, -, hself⟩ := h.self
  have hworld : n'.world i = ⟨i, n'.sockets i, n.stack, n'.app⟩ :=
    congrArg (fun stack => World.mk i (n'.sockets i) stack n'.app) h.stack
  refine ⟨fun _ => ?_, fun hwait => ?_⟩
  · rw [hworld, hself]
    exact ⟨rfl, rfl, _, rfl, OffsetBuffer.fits_reinit (b := .memBuffer .outbound _) trivial _ _,
      OffsetBuffer.root_reinit _ _ _⟩
  · have hwait : (n'.sockets i).state = Socket.ESTABLISHED ||| Socket.AWAITING_ACK := hwait
    rw [hself] at hwait
    dsimp only at hwait
    split at hwait
    · exact absurd hwait (by decide)
    · have hhandler : (n.sockets i).tcp.isSome := ((hn.faithful i).kept hwait).handler
      rw [htcp] at hhandler
      exact absurd hhandler (by simp)

/-- A socket that is registered gets the stash of the slot it is put into. -/
theorem joins (hn : Stocked n) {n' : Net (α × Ledger)} {i k : ℕ} (h : Joins n n' i k)
    (htcp : (n.sockets i).tcp = none)
    (hk : n.tcp.registeredSockets.findIdx? (·.isNone) = some k) : Stocked n' := by
  obtain ⟨hlt, hfree, -⟩ := List.findIdx?_eq_some_iff_getElem.mp hk
  have hnone : n.tcp.registeredSockets[k]? = some none := by
    rw [List.getElem?_eq_getElem hlt]
    exact congrArg some (by simpa using hfree)
  obtain ⟨l, hslot, hself⟩ := h.self
  have hother : ∀ j, j ≠ i → n'.sockets j = n.sockets j :=
    fun j hj => congrArg World.self (h.world j hj)
  have hrange : ∀ a, n'.tcp.stashRange n'.stack a = n.tcp.stashRange n.stack a := by
    intro a
    rw [h.tcp, h.stack]
    rfl
  refine ⟨fun j => ?_, fun j hj => ?_, fun j hj => ?_, fun j hj => ?_, fun a ha b hb hne => ?_⟩
  · by_cases hji : j = i
    · rw [hji]
      exact h.faithful hn htcp
    · rw [h.world j hji]
      exact hn.faithful j
  · by_cases hji : j = i
    · rw [hji, hself, h.stack]
      exact ⟨l, hslot, by rw [h.tcp]; rfl⟩
    · rw [hother j hji] at hj ⊢
      obtain ⟨m, hm, hstash⟩ := hn.slot j hj
      have hmk : m ≠ k := by
        rintro rfl
        rw [hnone] at hm
        exact absurd hm (by simp)
      rw [h.tcp, h.stack]
      exact ⟨m, (List.getElem?_set_ne (Ne.symm hmk)).trans hm, hstash⟩
  · by_cases hji : j = i
    · rw [hji, hself] at hj
      exact absurd hj (by simp)
    · rw [hother j hji] at hj ⊢
      exact hn.loose j hj
  · by_cases hji : j = i
    · rw [hji, hself]
      rfl
    · rw [hother j hji]
      rw [Net.Registered, h.tcp] at hj
      rcases List.mem_or_eq_of_mem_set hj with hj | hj
      · exact hn.table j hj
      · exact absurd (Option.some.inj hj) hji
  · rw [h.tcp, List.length_set] at ha hb
    rw [hrange, hrange]
    exact hn.disjoint a ha b hb hne

/-- A registration puts the socket into a free slot. -/
theorem adopt (hn : Stocked n) {i k : ℕ} (cb : Callbacks (α × Ledger))
    (htcp : (n.sockets i).tcp = none)
    (hk : n.tcp.registeredSockets.findIdx? (·.isNone) = some k) :
    Stocked (Socket.adopt cb i (joined i k n)) :=
  hn.joins (joins_adopt cb hk) htcp hk

/-- The timer of the handler does not matter. -/
theorem ensureTimer (hn : Stocked n) : Stocked (ensureTimer n).2 := by
  obtain ⟨timerIndex, etherControl, hrest⟩ := ensureTimer_rest n
  rw [hrest]
  exact hn.congr rfl rfl rfl ⟨rfl, rfl, rfl⟩ rfl

theorem none_notMem (hfull : n.tcp.registeredSockets.findIdx? (·.isNone) = none) :
    none ∉ n.tcp.registeredSockets := by
  intro hmem
  have hsome := List.findIdx?_eq_none_iff.mp hfull none hmem
  exact absurd hsome (by simp)

/-- `Socket::registerTCPHandler` -/
theorem registerTCPHandler (hn : Stocked n) (cb : Callbacks (α × Ledger)) (i : ℕ) :
    Stocked (Socket.registerTCPHandler cb i n).2 := by
  by_cases hsome : (n.sockets i).tcp.isSome
  · obtain ⟨m, hm⟩ := Option.isSome_iff_exists.mp hsome
    by_cases hnumber : m = n.tcp.number
    · rw [Socket.registerTCPHandler, Socket.registerTCPHandlerWith_attached (hnumber ▸ hm)]
      exact hn
    · rw [Socket.registerTCPHandler, Socket.registerTCPHandlerWith_elsewhere hm hnumber]
      exact hn
  have htcp : (n.sockets i).tcp = none := by simpa using hsome
  have hout : some i ∉ n.tcp.registeredSockets := fun hi => hsome (hn.table i hi)
  rcases hk : n.tcp.registeredSockets.findIdx? (·.isNone) with _ | k
  · have hfull : registerSocketWith
        (Socket.registerTCPHandlerWith (fun n => (false, n)) cb i) i (Socket.attach i n) =
          (false, Socket.attach i n) := registerSocketWith_full hout (none_notMem hk)
    rw [Socket.registerTCPHandler, Socket.registerTCPHandlerWith_detached htcp hfull,
      if_neg Bool.false_ne_true, Socket.detach_attach htcp]
    exact hn
  obtain ⟨timerIndex, etherControl, hrest⟩ := ensureTimer_rest (joined i k n)
  rw [registerTCPHandler_detached htcp hout hk]
  split
  · refine (hn.adopt cb htcp hk).congr ?_ ?_ ?_ ?_ ?_
    all_goals rw [hrest, Socket.adopt_eq, Socket.adopt_eq]
    · rfl
    · rfl
    · rfl
    · exact ⟨rfl, rfl, rfl⟩
    · rfl
  · have hsockets : (Socket.detach i (Socket.attach i n)).sockets = n.sockets :=
      congrArg Net.sockets (Socket.detach_attach htcp)
    have htable : (setSlot (setSlot n k (some i)) k none).tcp.registeredSockets =
        n.tcp.registeredSockets := by
      rw [setSlot_none hk]
    rw [hrest]
    exact hn.congr hsockets htable rfl ⟨rfl, rfl, rfl⟩ rfl

/-- `TCPHandler::registerSocket`, where it returns true. -/
theorem registerSocket (hn : Stocked n) {cb : Callbacks (α × Ledger)} {i : ℕ}
    (hok : (registerSocket cb i n).1 = true) : Stocked (registerSocket cb i n).2 := by
  by_cases hin : some i ∈ n.tcp.registeredSockets
  · rw [TCPHandler.registerSocket, registerSocketWith_found hin]
    exact hn
  have htcp : (n.sockets i).tcp = none := by
    by_contra hne
    obtain ⟨k, hk, -⟩ := hn.slot i (Option.isSome_iff_ne_none.mpr hne)
    exact hin (List.mem_of_getElem? hk)
  rcases hk : n.tcp.registeredSockets.findIdx? (·.isNone) with _ | k
  · rw [TCPHandler.registerSocket, registerSocketWith_full hin (none_notMem hk)] at hok
    exact absurd hok Bool.false_ne_true
  rw [registerSocket_detached htcp hin hk] at hok ⊢
  split at hok
  case isTrue htimed =>
    rw [if_pos htimed]
    exact (hn.adopt cb htcp hk).ensureTimer
  case isFalse => exact absurd hok Bool.false_ne_true

end Stocked

/-! ### Runs -/

/-- What happens on a host: registrations, calls on its sockets, packets, checks of one slot, and
changes elsewhere. -/
inductive Occurrence (α : Type)
  | register (i : ℕ)
  | registerSocket (i : ℕ)
  | call (i : ℕ) (c : Socket.Call)
  | packet (sourceIP : IPAddr) (buf : Bytes)
  | check (k : ℕ) (dns : Resolver)
  | elsewhere (stack : Stack) (app : α)

variable (cb : ℕ → Callbacks (α × Ledger))

/-- What a host makes of it. -/
def Occurrence.run : Occurrence α → Net (α × Ledger) → Net (α × Ledger)
  | .register i, n => (Socket.registerTCPHandler (cb i) i n).2
  | .registerSocket i, n => (TCPHandler.registerSocket (cb i) i n).2
  | .call i c, n => n.call i (c.record (cb i))
  | .packet sourceIP buf, n => handlePacket cb sourceIP buf n
  | .check k dns, n =>
      match n.tcp.registeredSockets[k]? with
      | some (some i) => n.call i (Socket.checkState (cb i) dns)
      | _ => n
  | .elsewhere stack app, n => { n with stack := stack, app := (app, n.app.2) }

/-- The handler takes the socket, and what is not part of the library leaves the buffers to it. -/
def Occurrence.Ok (n : Net (α × Ledger)) : Occurrence α → Prop
  | .registerSocket i => (TCPHandler.registerSocket (cb i) i n).1 = true
  | .call i c => c.Fair (shown (n.world i))
  | .check _ dns => ∀ d h, Stack.Spares h (dns d h).2
  | .elsewhere stack _ => n.stack.Spares stack
  | _ => True

/-- The runs of a host whose sockets have the callbacks `cb`. -/
abbrev Run : Net (α × Ledger) → Net (α × Ledger) → Prop :=
  Reaches (Occurrence.Ok cb) (Occurrence.run cb)

/-- A tick of the timer checks the slots one by one. -/
theorem run_handleTimer {dns : Resolver} (hdns : ∀ d h, Stack.Spares h (dns d h).2)
    (n : Net (α × Ledger)) : Run cb n (handleTimer cb dns n) := by
  have hslots : ∀ k, Run cb n (checkSlots cb dns n k) := by
    intro k
    induction k with
    | zero => exact .refl
    | succ k ih =>
      have hok : Occurrence.Ok cb (checkSlots cb dns n k) (.check k dns) := hdns
      exact ih.step hok
  exact hslots _

/-- A host with the handler that the constructor makes for `socketCapacity` sockets, none of which
is registered yet. -/
structure Begins (number : ℕ) (socketCapacity : UInt8) (h : Stack) (n : Net (α × Ledger)) :
    Prop extends n.Fresh where
  tcp : n.tcp = (new number socketCapacity h).1
  stack : n.stack = (new number socketCapacity h).2

variable {cb} {n n₀ : Net (α × Ledger)}

theorem Begins.stocked {number : ℕ} {socketCapacity : UInt8} {h : Stack}
    (hn : Begins number socketCapacity h n) (hpos : 0 < (stashLength socketCapacity h).toNat) :
    Stocked n := by
  have hclosed := fun i => (hn.sockets i).closed
  have hsize : n.stack.outboundSize = h.outboundSize := by
    rw [hn.stack]
    unfold new IPHandler.registerProtocol
    dsimp only
    split
    · rfl
    · rfl
  refine ⟨fun i => ⟨fun htcp => ?_, fun hwait => ?_⟩, fun i htcp => ?_,
    fun i _ => (hn.sockets i).stash, fun i hi => absurd hi (hn.table i),
    fun k hk l hl hne => ?_⟩
  · have htcp : (n.sockets i).tcp.isSome = true := htcp
    rw [(hclosed i).2.1] at htcp
    exact absurd htcp (by simp)
  · have hwait : (n.sockets i).state = _ := hwait
    rw [(hclosed i).1] at hwait
    exact absurd hwait (by decide)
  · rw [(hclosed i).2.1] at htcp
    exact absurd htcp (by simp)
  · have hlength : n.tcp.registeredSockets.length = socketCapacity.toNat := by
      rw [hn.tcp]
      exact List.length_replicate
    rw [hlength] at hk hl
    have hlen : n.tcp.maxOutboundLen = (new number socketCapacity h).1.maxOutboundLen := by
      rw [hn.tcp]
    rw [stashRange_congr hlen hsize, stashRange_congr hlen hsize]
    exact disjoint_stashRange hpos hk hl hne

/-- Whatever happens on a host keeps all its sockets faithful. -/
theorem Stocked.run (hn : Stocked n) (hcb : ∀ i, Socket.Respects (cb i) Retains)
    {e : Occurrence α} (he : e.Ok cb n) : Stocked (e.run cb n) := by
  cases e with
  | register i => exact hn.registerTCPHandler (cb i) i
  | registerSocket i => exact hn.registerSocket he
  | call i c => exact hn.update (Socket.retains_record (hcb i) he)
  | packet sourceIP packet =>
    have hsegment : ∀ i, Stocked (n.call i (Socket.handleSegment (cb i) sourceIP packet)) :=
      fun i => hn.update (Socket.retains_handleSegment (hcb i) sourceIP packet _)
    unfold Occurrence.run handlePacket
    dsimp only
    split
    · split
      · exact hsegment _
      · split
        · exact hsegment _
        · exact hn
    · exact hn
  | check k dns =>
    unfold Occurrence.run
    dsimp only
    split
    · exact hn.update (Socket.retains_checkState (hcb _) he _)
    · exact hn
  | elsewhere stack app =>
    have hrest : Stocked { n with stack := stack, app := (app, n.app.2) } :=
      hn.congr rfl rfl rfl he rfl
    exact hrest

/-- In every run of a host whose stashes have at least a byte each, a socket that awaits an ACK
sends again what it has sent: the ledger has the number and the bytes of the first transmission,
and `resendData`, after any number of attempts, succeeds with the same. -/
theorem resendData_faithful (a : ℕ → Subclass α) (ha : ∀ i, (a i).Fair) (depth : ℕ) {number : ℕ}
    {socketCapacity : UInt8} {h : Stack} (hstart : Begins number socketCapacity h n₀)
    (hpos : 0 < (stashLength socketCapacity h).toNat)
    (hrun : Run (fun i => (a i).recording depth) n₀ n) (i : ℕ)
    (hwait : (n.sockets i).state = Socket.ESTABLISHED ||| Socket.AWAITING_ACK) (attempts : UInt8) :
    ∃ seq d, n.app.2 i = some (seq, d) ∧ Socket.Resends ((a i).recording depth) seq d
      ((n.world i).setSelf { n.sockets i with attempts := attempts }) := by
  have hstocked : Stocked n := hrun.invariant (hstart.stocked hpos) fun n e hn he =>
    hn.run (fun i => (a i).respects_retains (ha i) depth) he
  have hattempts : Retains (n.world i)
      ((n.world i).setSelf { n.sockets i with attempts := attempts }) :=
    Socket.retains_setSelf rfl rfl
  exact (hattempts (hstocked.faithful i)).1.resends _ hwait

/-! ### Example -/

/-- 10.0.0.1 with two sockets that are to connect to port 80 of 10.0.0.2. -/
def exampleShared : Net (Unit × Ledger) :=
  ⟨(new 0 2 (exampleStack 1 2)).1, (new 0 2 (exampleStack 1 2)).2,
    fun _ => Socket.newClient ⟨10, 0, 0, 2⟩ 80 7 0 .zero, ((), fun _ => none)⟩

theorem begins_exampleShared : Begins 0 2 (exampleStack 1 2) exampleShared where
  sockets _ := .client _ _ _ _ _
  table i hi := by
    have hmem : some i ∈ List.replicate 2 none := hi
    simp at hmem
  tcp := rfl
  stack := rfl

/-- The SYN+ACK of 10.0.0.2. -/
def exampleSynAck : Bytes :=
  [0, 80, 192, 0, 0, 0, 0, 11, 0, 0, 0, 8, 96, 18, 0, 42, 201, 16, 0, 0, 2, 4, 0, 42]

/-- The callbacks of the example: both sockets ignore every event. -/
abbrev exampleCallbacks : ℕ → Callbacks (Unit × Ledger) :=
  fun _ => Socket.exampleSubclass.recording 0

/-- The first socket connects and sends three bytes; then the second sends its SYN, which is put
together where these bytes lay. -/
def exampleOutstanding : Net (Unit × Ledger) :=
  let n := Occurrence.run exampleCallbacks (.register 0) exampleShared
  let n := Occurrence.run exampleCallbacks (.register 1) n
  let n := Occurrence.run exampleCallbacks (.call 0 (.connect exampleResolver)) n
  let n := Occurrence.run exampleCallbacks (.packet ⟨10, 0, 0, 2⟩ exampleSynAck) n
  let n := Occurrence.run exampleCallbacks (.call 0 (.sendBytes [1, 2, 3])) n
  Occurrence.run exampleCallbacks (.call 1 (.connect exampleResolver)) n

theorem run_exampleOutstanding : Run exampleCallbacks exampleShared exampleOutstanding := by
  have hspares : ∀ d h, Stack.Spares h (exampleResolver d h).2 := fun _ h => refl_of Stack.Spares h
  have hregistered : Run exampleCallbacks exampleShared _ :=
    (Reaches.refl.step (e := Occurrence.register 0) trivial).step
      (e := Occurrence.register 1) trivial
  have hconnected :=
    (hregistered.step (e := Occurrence.call 0 (.connect exampleResolver)) hspares).step
      (e := Occurrence.packet ⟨10, 0, 0, 2⟩ exampleSynAck) trivial
  exact (hconnected.step (e := Occurrence.call 0 (.sendBytes [1, 2, 3])) trivial).step
    (e := Occurrence.call 1 (.connect exampleResolver)) hspares

/-- The first socket sends its three bytes again, and not what lies in the send buffer. -/
theorem resendData_faithful_shared :
    Region.read exampleOutstanding.stack.mem .send 54 3 = [2, 4, 0] ∧
      Socket.Resends (exampleCallbacks 0) 8 [1, 2, 3]
        ((exampleOutstanding.world 0).setSelf
          { exampleOutstanding.sockets 0 with attempts := 1 }) := by
  have hfair : Socket.exampleSubclass.Fair := ⟨fun _ _ => trivial, fun _ _ => trivial⟩
  obtain ⟨seq, d, hledger, hresends⟩ := resendData_faithful (fun _ => Socket.exampleSubclass)
    (fun _ => hfair) 0 begins_exampleShared (by decide +kernel) run_exampleOutstanding 0
    (by decide +kernel) 1
  have hentry : exampleOutstanding.app.2 0 = some (8, [1, 2, 3]) := by decide +kernel
  obtain ⟨rfl, rfl⟩ := Prod.mk.inj (Option.some.inj (hentry.symm.trans hledger))
  exact ⟨by decide +kernel, hresends⟩

end TCPHandler

end AtmegaNet
