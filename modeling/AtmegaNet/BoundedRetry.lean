import AtmegaNet.Reactions

/-!
# Bounded retry

`checkState` sends a SYN, data or a FIN again that has not been acknowledged, and each time
increments `attempts`. The counter is reset by a `connect`, `send`, `close` or passive open that
puts something new in flight, and by nothing else; the change from SYN_SENT to SYN_RECEIVED or
from FIN_WAIT_1 to CLOSING, which keeps the segment in flight, keeps the counter as well. So the
counter is always ahead of the number of retransmissions, and as `checkState` gives up when it
finds it above 10, there are at most 10 of them.

## Main results

* `Received`: what a segment may do to the counter; `received_handleSegment`.
* `countTick`: how often a call of `checkState` has sent again what is in flight afterwards.
* `Bounded`: the counter is ahead of the retransmissions; `bounded_checkState`.
* `Subclass.reaches_bounded`: the run theorem, for every subclass.
-/

open Procedure Runs

namespace AtmegaNet

namespace Socket

variable {α : Type}

/-! ### What a segment may do -/

/-- Between two worlds the counter has changed only where something new has come to be in
flight, and it has been reset wherever nothing was. -/
structure Received (w w' : World (α × ℕ)) : Prop where
  attempts : w'.self.attempts = w.self.attempts ∨ w'.self.attempts = 1
  calls : w.app.2 ≤ w'.app.2
  kept : w'.app.2 = w.app.2 → inFlight w'.self.state = inFlight w.self.state →
    inFlight w.self.state ≠ none → w'.self.attempts = w.self.attempts
  reset : inFlight w.self.state = none → ∀ item, inFlight w'.self.state = some item →
    w'.self.attempts = 1

section Received

variable {w w₁ w₂ : World (α × ℕ)}

/-- What a segment does to an open socket is what a segment may do. -/
theorem Live.received (h : Live w w₁) : Received w w₁ where
  attempts := h.attempts
  calls := h.calls
  kept heq hitem hbusy := by
    obtain ⟨item, hsome⟩ := Option.ne_none_iff_exists'.mp hbusy
    exact (h.kept heq item (hitem.trans hsome)).2
  reset hidle item hitem := by
    by_cases heq : w₁.app.2 = w.app.2
    · have hsome := (h.kept heq item hitem).1
      rw [hidle] at hsome
      exact absurd hsome (by simp)
    · exact h.reset heq item hitem

/-- So is what an opening of the connection does. -/
theorem Dials.received (h : Dials w w₁) : Received w w₁ where
  attempts := by
    by_cases hidle : inFlight w.self.state = none
    · rcases h.idle hidle with ⟨-, hkept⟩ | hreset
      · exact .inl hkept
      · exact .inr hreset
    · exact .inl (h.busy hidle).2
  calls := by rw [h.app]
  kept _ _ hbusy := (h.busy hbusy).2
  reset hidle item hitem := by
    rcases h.idle hidle with ⟨hidle', -⟩ | hreset
    · rw [hidle'] at hitem
      exact absurd hitem (by simp)
    · exact hreset

/-- What a socket notes of a segment comes before. -/
theorem Parked.trans_received (h : Parked w w₁) (h' : Received w₁ w₂) : Received w w₂ := by
  obtain ⟨⟨happ, hattempts⟩, hstate⟩ := h
  obtain ⟨hattempts', hcalls, hkept, hreset⟩ := h'
  rw [happ] at hcalls hkept
  rw [hattempts] at hattempts' hkept
  rw [hstate] at hkept hreset
  exact ⟨hattempts', hcalls, hkept, hreset⟩

/-- The state has changed, but not what is in flight. -/
theorem Paced.live (h : Paced w w₁) (hitem : inFlight w₁.self.state = inFlight w.self.state) :
    Live w w₁ where
  attempts := .inl h.attempts
  calls := by rw [h.app]
  kept _ item hsome := ⟨hitem.symm.trans hsome, h.attempts⟩
  reset hne := absurd (congrArg Prod.snd h.app) hne

/-- The option only sets the remembered MSS. -/
theorem parked_readMSS (buf : View) (tcp_header_size : UInt8) (w : World α) :
    Parked w (readMSS buf tcp_header_size w) := by
  unfold readMSS
  dsimp only
  split_ifs
  · exact ⟨⟨rfl, rfl⟩, rfl⟩
  · exact refl_of Parked w
  · exact refl_of Parked w

end Received

section Segments

variable {cb : Callbacks (α × ℕ)} (h : Respects cb Live) {w : World (α × ℕ)}

/-- An acknowledgement leaves the retransmission as it is. -/
theorem parked_sendACK (cb : Callbacks α) (w : World α) : Parked w (sendACK cb w) :=
  parked_sendSegment cb ACK 0 0 w

/-- A passive open resets the counter, if its answer is sent. -/
theorem dials_passiveOpen (cb : Callbacks α) (buf : View) (seq : UInt32) {w : World α}
    (hlisten : w.self.state = LISTEN) : Dials w (passiveOpen cb buf seq w) := by
  have hidle : inFlight w.self.state = none := by
    rw [hlisten]
    decide
  unfold passiveOpen
  dsimp only
  split
  · exact Parked.dials ⟨⟨rfl, rfl⟩, rfl⟩
  split
  · exact Parked.dials ⟨⟨rfl, rfl⟩, rfl⟩
  rename_i size _
  generalize hnoted : (World.setSelf (World.setSelf _ _) _ : World α) = w₁
  have hnote : Parked w w₁ := by
    rw [← hnoted]
    exact ⟨⟨rfl, rfl⟩, rfl⟩
  have hmss := trans_of Parked hnote (parked_readMSS buf size w₁)
  split
  · exact hmss.dials
  rename_i port _
  generalize hnamed : (World.setSelf (readMSS buf size w₁) _ : World α) = w₂
  have hport : Parked w w₂ := by
    rw [← hnamed]
    refine trans_of Parked hmss ?_
    exact ⟨⟨rfl, rfl⟩, rfl⟩
  have hsent := trans_of Parked hport (parked_sendSegment cb (SYN ||| ACK) 0 0 w₂)
  split
  · exact dials_of_reset hidle hsent.app rfl
  · exact hsent.dials

/-- A simultaneous open keeps the SYN in flight. -/
theorem paced_simultaneousOpen (cb : Callbacks α) (buf : View) (seq : UInt32) {w : World α}
    (hsent : w.self.state = SYN_SENT) : Paced w (simultaneousOpen cb buf seq w) ∧
      inFlight (simultaneousOpen cb buf seq w).self.state = inFlight w.self.state := by
  unfold simultaneousOpen
  dsimp only
  split
  · exact ⟨⟨rfl, rfl⟩, rfl⟩
  rename_i size _
  generalize hnoted : (World.setSelf w _ : World α) = w₁
  have hnote : Parked w w₁ := by
    rw [← hnoted]
    exact ⟨⟨rfl, rfl⟩, rfl⟩
  have hmss := trans_of Parked hnote (parked_readMSS buf size w₁)
  have hquiet : setState cb SYN_RECEIVED (readMSS buf size w₁) = _ :=
    Client.setState_quiet (fun hclosed => absurd hclosed (by decide)) (by decide)
  rw [hquiet]
  generalize hentered : (World.setSelf (readMSS buf size w₁) _ : World α) = w₂
  have hack := parked_sendACK cb w₂
  refine ⟨?_, ?_⟩
  · refine trans_of Paced hmss.toPaced (trans_of Paced ?_ hack.toPaced)
    rw [← hentered]
    exact ⟨rfl, rfl⟩
  · have hsame : inFlight SYN_RECEIVED = inFlight SYN_SENT := by decide
    rw [hack.state, ← hentered, hsent]
    exact hsame

include h

/-- The SYN of the peer, answered in `SYN_SENT`. -/
theorem live_activeOpen (buf : View) (seq : UInt32) : Live w (activeOpen cb buf seq w) := by
  unfold activeOpen
  dsimp only
  split
  · exact Parked.live ⟨⟨rfl, rfl⟩, rfl⟩
  rename_i size _
  generalize hnoted : (World.setSelf w _ : World (α × ℕ)) = w₁
  have hnote : Parked w w₁ := by
    rw [← hnoted]
    exact ⟨⟨rfl, rfl⟩, rfl⟩
  have hmss := trans_of Parked hnote (parked_readMSS buf size w₁)
  have hack := trans_of Parked hmss (parked_sendACK cb _)
  have hidle : inFlight ESTABLISHED = none := by decide
  exact trans_of Live hack.live (settles_setState h hidle _).live

/-- A reset closes the socket or leaves it. -/
theorem live_handleReset (ack seq : UInt32) : Live w (handleReset cb ack seq w) := by
  have hclosed := (settles_closed h w).live
  have hevent := trans_of Live hclosed (live_fire h (.onReset true) (closed cb w))
  unfold handleReset
  split_ifs
  · exact hevent
  · exact refl_of Live w
  · exact hclosed
  · exact hevent
  · exact refl_of Live w

/-- A refusal of a segment for another state. -/
theorem live_refuse (buf : View) (opt : UInt8) (ack seq : UInt32) :
    Live w (refuse cb buf opt ack seq w) := by
  unfold refuse
  split
  · exact live_reset h _ _ w
  · exact live_reset h _ _ w

/-- A payload in order is delivered and acknowledged. -/
theorem live_handlePayload (opt : UInt8) (seq : UInt32) (payloadSize : UInt16) (payload : Bytes)
    (w : World (α × ℕ)) : Live w (handlePayload cb opt seq payloadSize payload w) := by
  have hcount : ∀ w : World (α × ℕ), Parked w (countFin opt w) := by
    intro w
    unfold countFin
    split
    · exact ⟨⟨rfl, rfl⟩, rfl⟩
    · exact refl_of Parked w
  have hoffer : ∀ w : World (α × ℕ), Live w (offerPayload cb seq payloadSize payload w) := by
    intro w
    unfold offerPayload
    dsimp only
    split_ifs
    · refine trans_of Live (h.onDataReceived payload w) (Parked.live ?_)
      exact ⟨⟨rfl, rfl⟩, rfl⟩
    · refine trans_of Live (h.onDataReceived payload w) (Parked.live ?_)
      exact ⟨⟨rfl, rfl⟩, rfl⟩
    · exact refl_of Live w
  have hkeep : Parked w (w.setSelf { w.self with recvBuffer := some payload }) :=
    ⟨⟨rfl, rfl⟩, rfl⟩
  have hcounted := trans_of Parked hkeep (hcount _)
  exact trans_of Live hcounted.live (trans_of Live (hoffer _) (parked_sendACK cb _).live)

/-- A FIN moves FIN_WAIT_1 to CLOSING, where our own FIN is still in flight. -/
theorem live_finState (ack : UInt32) (w : World (α × ℕ)) : Live w (finState cb ack w) := by
  have hwait := (settles_setState h (by decide : inFlight TIME_WAIT = none) w).live
  unfold finState
  split_ifs with hfin
  · exact hwait
  · have hquiet : setState cb CLOSING w = _ :=
      Client.setState_quiet (fun hclosed => absurd hclosed (by decide)) (by decide)
    rw [hquiet]
    have hsame : inFlight CLOSING = inFlight FIN_WAIT_1 := by decide
    refine Paced.live ⟨rfl, rfl⟩ ?_
    rw [hfin]
    exact hsame
  · exact hwait
  · exact (settles_setState h (by decide : inFlight CLOSE_WAIT = none) w).live
  · exact refl_of Live w

/-- A FIN in order moves the state on. -/
theorem live_handleFin (ack : UInt32) (payloadSize : UInt16) (w : World (α × ℕ)) :
    Live w (handleFin cb ack payloadSize w) := by
  have hack : Live w (acknowledgeFin cb payloadSize w) := by
    unfold acknowledgeFin
    split
    · refine (trans_of Parked ?_ (parked_sendACK cb _)).live
      exact ⟨⟨rfl, rfl⟩, rfl⟩
    · exact refl_of Live w
  exact trans_of Live hack (trans_of Live (live_finState h ack _) (live_fire h _ _))

/-- A segment in order, with its payload and its FIN. -/
theorem live_handleInOrder (buf : Bytes) (opt : UInt8) (ack seq : UInt32)
    (tcp_header_size : UInt8) (w : World (α × ℕ)) :
    Live w (handleInOrder cb buf opt ack seq tcp_header_size w) := by
  unfold handleInOrder
  dsimp only
  split_ifs
  · exact trans_of Live (live_handlePayload h _ _ _ _ w) (live_handleFin h _ _ _)
  · exact live_handleFin h _ _ w
  · exact live_handlePayload h _ _ _ _ w
  · exact refl_of Live w

/-- The end of AWAITING_ACK. The callbacks may have led to any state before, and its lower half
may be one in which `checkState` sends a FIN again; but it is not the data that was in flight. -/
theorem received_clearAwaiting {w₁ : World (α × ℕ)} (hdata : inFlight w.self.state = some .data)
    (hlive : Live w w₁) : Received w (clearAwaiting cb w₁) := by
  have hpaced : Paced w₁ (w₁.setSelf { w₁.self with state := w₁.self.state &&& 0x0F }) :=
    ⟨rfl, rfl⟩
  generalize hcleared : (World.setSelf w₁ _ : World (α × ℕ)) = w₂ at hpaced
  have hgone : inFlight w₂.self.state ≠ some .data := by
    rw [← hcleared]
    exact inFlight_cleared _
  have hfired : Live w₂ (clearAwaiting cb w₁) := by
    unfold clearAwaiting
    rw [hcleared]
    exact live_fire h _ _
  have hcalls := hlive.calls
  have happ : w₂.app.2 = w₁.app.2 := congrArg Prod.snd hpaced.app
  have hcalls' := hfired.calls
  refine ⟨?_, by omega, fun heq hitem _ => ?_, fun hidle => ?_⟩
  · rcases hfired.attempts with hkept | hreset
    · rw [hkept, hpaced.attempts]
      exact hlive.attempts
    · exact .inr hreset
  · have hback := (hfired.kept (by omega) .data (hitem.trans hdata)).1
    exact absurd hback hgone
  · rw [hdata] at hidle
    exact absurd hidle (by simp)

/-- A segment in `ESTABLISHED`, in order or not. -/
theorem received_handleEstablished (buf : Bytes) (opt : UInt8) (ack seq : UInt32)
    (hopen : w.self.state &&& 0x0F = ESTABLISHED) :
    Received w (handleEstablished cb buf opt ack seq w) := by
  unfold handleEstablished
  dsimp only
  split
  · exact (refl_of Live w).received
  split
  · exact (parked_sendACK cb w).live.received
  split
  · exact (refl_of Live w).received
  rename_i size _
  have hlive := live_handleInOrder h buf opt ack seq size w
  split
  case isFalse => exact hlive.received
  case isTrue hclear =>
    have hall : ∀ state : UInt8, state &&& 0x0F = ESTABLISHED → has state AWAITING_ACK →
        inFlight state = some .data := forall_uint8 (by decide +kernel)
    exact received_clearAwaiting h (hall _ hopen hclear.2) hlive

/-- An acknowledgement that ends the wait. -/
theorem live_handleAck (w : World (α × ℕ)) : Live w (handleAck cb w) := by
  unfold handleAck
  split_ifs
  · exact (settles_setState h (by decide : inFlight ESTABLISHED = none) w).live
  · exact (settles_setState h (by decide : inFlight FIN_WAIT_2 = none) w).live
  · exact (settles_setState h (by decide : inFlight TIME_WAIT = none) w).live
  · exact (settles_closed h w).live
  · exact refl_of Live w

/-- A segment whose checksum is right, in any state. -/
theorem received_handleValid (buf : Bytes) (opt : UInt8) (ack seq : UInt32)
    (w : World (α × ℕ)) : Received w (handleValid cb buf opt ack seq w) := by
  unfold handleValid
  have hack := (parked_sendACK cb w).live.received
  refine iteInduction (fun _ => (live_refuse h _ _ _ _).received) fun _ => ?_
  refine iteInduction (fun _ => (live_refuse h _ _ _ _).received) fun _ => ?_
  refine iteInduction (fun _ => (live_reset h _ _ w).received) fun _ => ?_
  refine iteInduction (fun _ => hack) fun _ => ?_
  refine iteInduction (fun _ => hack) fun _ => ?_
  refine iteInduction (fun _ => (live_handleReset h _ _).received) fun _ => ?_
  refine iteInduction (fun hlisten => (dials_passiveOpen cb _ _ hlisten.1).received) fun _ => ?_
  refine iteInduction (fun hsent => ?_) fun _ => ?_
  · obtain ⟨hpaced, hitem⟩ := paced_simultaneousOpen cb (viewOf buf) seq hsent.1
    exact (hpaced.live hitem).received
  refine iteInduction (fun _ => (live_activeOpen h _ _).received) fun _ => ?_
  refine iteInduction (fun hopen => received_handleEstablished h _ _ _ _ hopen) fun _ => ?_
  refine iteInduction (fun _ => (live_handleAck h w).received) fun _ => ?_
  exact (settles_forceClose h w).live.received

/-- The reaction to any segment. -/
theorem received_handleSegment (sourceIP : IPAddr) (buf : Bytes) (w : World (α × ℕ)) :
    Received w (handleSegment cb sourceIP buf w) := by
  unfold handleSegment
  dsimp only
  split
  case h_2 =>
    refine (Parked.live ?_).received
    exact ⟨⟨rfl, rfl⟩, rfl⟩
  case h_1 opt ack seq window _ _ _ _ =>
    generalize hnoted : takeNote sourceIP opt window _ = w₁
    have hnote : Parked w w₁ := by
      rw [← hnoted]
      exact ⟨⟨rfl, rfl⟩, rfl⟩
    split
    · refine (trans_of Parked hnote ?_).live.received
      exact ⟨⟨rfl, rfl⟩, rfl⟩
    split
    · exact hnote.trans_received (received_handleValid h _ _ _ _ _)
    · exact hnote.live.received

end Segments

/-! ### Counting the retransmissions -/

/-- The count goes on as long as the same thing is in flight, with no call in between that has
put something else there. -/
def keepCount (w w' : World (α × ℕ)) (n : ℕ) : ℕ :=
  if w'.app.2 = w.app.2 ∧ inFlight w'.self.state = inFlight w.self.state then n else 0

section Count

variable (cb : Callbacks (α × ℕ)) (dns : Resolver)

/-- The count after `checkHandshake`, which sends a SYN or FIN again unless it gives up. -/
def countHandshake (elapsed : UInt32) (w : World (α × ℕ)) (n : ℕ) : ℕ :=
  if w.self.state = SYN_SENT ∨ w.self.state = SYN_RECEIVED ∨ w.self.state = FIN_WAIT_1 ∨
      w.self.state = CLOSING then
    if (exhausted w).1 then keepCount (exhausted w).2 (forceClose cb (exhausted w).2) n else n + 1
  else keepCount w (checkHandshake cb elapsed w) n

/-- The count after `checkRetransmission`, which sends data again unless it gives up. -/
def countRetransmission (elapsed : UInt32) (w : World (α × ℕ)) (n : ℕ) : ℕ :=
  if w.self.state = ESTABLISHED then n
  else if w.self.state = RESOLVING then keepCount w ((resolveIP cb dns).exec w) n
  else if elapsed < ACK_WAIT_DURATION then n
  else if w.self.state = ESTABLISHED ||| AWAITING_ACK then
    if (exhausted w).1 then keepCount (exhausted w).2 (forceClose cb (exhausted w).2) n
    else
      let w' := (resendData cb).exec (exhausted w).2
      if (resendData cb).succeeds (exhausted w).2 then countHandshake cb elapsed w' (n + 1)
      else countHandshake cb elapsed (forceClose cb w') (keepCount w' (forceClose cb w') (n + 1))
  else countHandshake cb elapsed w n

/-- The count after `checkState`. The FIN of its `close` is new. -/
def countTick (w : World (α × ℕ)) (n : ℕ) : ℕ :=
  if w.self.state = CLOSED then n
  else if w.self.state = LISTEN then n
  else
    let elapsed := w.stack.millis - w.self.stateTime
    if w.self.timeout > 0 ∧ elapsed > w.self.timeout then
      if !w.self.localClosed then
        if (close cb).succeeds w then 0 else keepCount w ((close cb).exec w) n
      else countRetransmission cb dns elapsed (forceClose cb w) (keepCount w (forceClose cb w) n)
    else countRetransmission cb dns elapsed w n

end Count

/-! ### The counter is ahead -/

/-- At most 10 retransmissions, and as long as something is in flight the counter is ahead of
them and at most 11. -/
structure Bounded (w : World (α × ℕ)) (n : ℕ) : Prop where
  le : n ≤ 10
  ahead : inFlight w.self.state ≠ none →
    n + 1 ≤ w.self.attempts.toNat ∧ w.self.attempts.toNat ≤ 11

/-- The count of re-sendings does not grow when a segment comes. -/
theorem keepCount_le (w w' : World (α × ℕ)) (n : ℕ) : keepCount w w' n ≤ n := by
  unfold keepCount
  split
  · exact Nat.le_refl n
  · exact Nat.zero_le n

section Bounded

variable {w w₁ : World (α × ℕ)} {n : ℕ}

/-- A counter that has been reset. -/
theorem bounded_reset (hreset : w.self.attempts = 1) : Bounded w 0 := by
  refine ⟨by omega, fun _ => ?_⟩
  rw [hreset]
  decide

/-- A segment keeps the bound, with the count it leaves. -/
theorem Received.bounded (h : Received w w₁) (hb : Bounded w n) : Bounded w₁ (keepCount w w₁ n) := by
  refine ⟨Nat.le_trans (keepCount_le _ _ _) hb.le, fun hbusy => ?_⟩
  obtain ⟨item, hitem⟩ := Option.ne_none_iff_exists'.mp hbusy
  by_cases hidle : inFlight w.self.state = none
  · have hreset := h.reset hidle item hitem
    have hnew : keepCount w w₁ n = 0 := by
      refine if_neg fun hsame => ?_
      rw [hsame.2, hidle] at hitem
      exact absurd hitem (by simp)
    rw [hnew, hreset]
    decide
  obtain ⟨hlow, hhigh⟩ := hb.ahead hidle
  unfold keepCount
  split
  case isTrue hsame =>
    rw [h.kept hsame.1 hsame.2 hidle]
    exact ⟨hlow, hhigh⟩
  case isFalse =>
    rcases h.attempts with hattempts | hreset
    · rw [hattempts]
      omega
    · rw [hreset]
      decide

/-- Whatever the counter was, what is in flight after a `forceClose` is new. -/
theorem Settles.bounded (h : Settles w w₁) (hle : n ≤ 10) : Bounded w₁ (keepCount w w₁ n) := by
  refine ⟨Nat.le_trans (keepCount_le _ _ _) hle, fun hbusy => ?_⟩
  obtain ⟨item, hitem⟩ := Option.ne_none_iff_exists'.mp hbusy
  obtain ⟨hlt, hreset⟩ := h.fresh item hitem
  have hnew : keepCount w w₁ n = 0 := if_neg fun hsame => by omega
  rw [hnew, hreset]
  decide

/-- One more retransmission of what is in flight, and one more attempt. -/
theorem bounded_resent (hb : Bounded w n) (hbusy : inFlight w.self.state ≠ none)
    (hroom : ¬ w.self.attempts > 10) (hparked : Parked (exhausted w).2 w₁) :
    Bounded w₁ (n + 1) := by
  obtain ⟨hlow, -⟩ := hb.ahead hbusy
  have hle : w.self.attempts.toNat ≤ 10 := UInt8.le_iff_toNat_le.mp (UInt8.not_lt.mp hroom)
  have hnext : w₁.self.attempts.toNat = w.self.attempts.toNat + 1 := by
    rw [hparked.attempts]
    have hadd : (w.self.attempts + 1).toNat = (w.self.attempts.toNat + 1) % 256 :=
      UInt8.toNat_add w.self.attempts 1
    rw [Nat.mod_eq_of_lt (by omega)] at hadd
    exact hadd
  exact ⟨by omega, fun _ => by omega⟩

end Bounded

/-! ### The timer -/

section Timer

variable {cb : Callbacks (α × ℕ)} (h : Respects cb Live) (dns : Resolver) {w : World (α × ℕ)}
  {n : ℕ}

/-- Data that is sent again stays in flight. -/
theorem parked_resendData (cb : Callbacks α) {w : World α}
    (hdata : w.self.state = ESTABLISHED ||| AWAITING_ACK) :
    Parked w ((resendData cb).exec w) := by
  unfold resendData
  rw [Proc.exec, Proc.run_modify_bind]
  have h₁ : Parked w (w.setSelf { w.self with
      localSeq := w.self.localSeq - w.self.lastDataLength.toUInt32 }) := ⟨⟨rfl, rfl⟩, rfl⟩
  refine (Proc.within_query _).exec_bind (fun _ h₂ => trans_of Parked h₁ h₂) fun sb w₂ h₂ => ?_
  refine (Proc.within_query _).exec_bind
    (fun _ h₃ => trans_of Parked h₁ (trans_of Parked h₂ h₃)) fun stash w₃ h₃ => ?_
  have h₃ := trans_of Parked h₁ (trans_of Parked h₂ h₃)
  rw [Proc.run_read_bind]
  refine (parked_onMem _).exec_bind (fun _ h₄ => trans_of Parked h₃ h₄) fun _ w₄ h₄ => ?_
  have h₄ := trans_of Parked h₃ h₄
  have hstate := h₄.state.trans hdata
  refine trans_of Parked h₄ ⟨paced_sendSegment cb _ _ _ _ w₄, ?_⟩
  have hsame : ESTABLISHED ||| AWAITING_ACK ||| AWAITING_ACK = ESTABLISHED ||| AWAITING_ACK := by
    decide
  obtain ⟨-, -, hself⟩ := sendSegment_advances cb ACK w₃.self.lastDataLength 0 0 w₄
  rcases hself with hself | hself
  · rw [hself]
  · rw [hself]
    unfold advance
    split_ifs
    · rfl
    · dsimp only
      rw [hstate]
      exact hsame
    · rfl

include h

/-- A SYN or a FIN is sent again, or the socket gives up. -/
theorem bounded_resend (control : UInt8) (hbusy : inFlight w.self.state ≠ none)
    (hb : Bounded w n) : Bounded (resend cb control w) (if (exhausted w).1 then
      keepCount (exhausted w).2 (forceClose cb (exhausted w).2) n else n + 1) := by
  unfold resend
  dsimp only
  by_cases hmax : w.self.attempts > 10
  · have htooMany : (exhausted w).1 = true := decide_eq_true hmax
    rw [if_pos htooMany, if_pos htooMany]
    exact (settles_forceClose h _).bounded hb.le
  · have hroom : (exhausted w).1 = false := decide_eq_false hmax
    rw [hroom, if_neg Bool.false_ne_true, if_neg Bool.false_ne_true]
    refine bounded_resent hb hbusy hmax (trans_of Parked ?_ (parked_sendSegment cb control 0 0 _))
    exact ⟨⟨rfl, rfl⟩, rfl⟩

/-- The states that `checkHandshake` deals with, and the others. -/
theorem bounded_checkHandshake (elapsed : UInt32) (hb : Bounded w n) :
    Bounded (checkHandshake cb elapsed w) (countHandshake cb elapsed w n) := by
  have hbusy : ∀ state ∈ [SYN_SENT, SYN_RECEIVED, FIN_WAIT_1, CLOSING],
      inFlight state ≠ none := by decide
  by_cases hresends : w.self.state = SYN_SENT ∨ w.self.state = SYN_RECEIVED ∨
      w.self.state = FIN_WAIT_1 ∨ w.self.state = CLOSING
  · have hbusy : inFlight w.self.state ≠ none := hbusy _ (by simpa using hresends)
    unfold countHandshake
    rw [if_pos hresends]
    have hresend := fun control => bounded_resend h control hbusy hb
    generalize (if (exhausted w).1 then
      keepCount (exhausted w).2 (forceClose cb (exhausted w).2) n else n + 1) = m at hresend ⊢
    unfold checkHandshake
    refine iteInduction (motive := fun w' => Bounded w' m) (fun _ => hresend SYN) fun hsyn => ?_
    refine iteInduction (motive := fun w' => Bounded w' m) (fun _ => hresend _) fun hreceived => ?_
    refine iteInduction (motive := fun w' => Bounded w' m) (fun _ => hresend _) fun hfin => ?_
    exact absurd (hresends.resolve_left hsyn |>.resolve_left hreceived) hfin
  · have hrest : Live w (checkHandshake cb elapsed w) := by
      unfold checkHandshake
      refine iteInduction (fun hsyn => absurd (.inl hsyn) hresends) fun _ => ?_
      refine iteInduction (fun hreceived => absurd (.inr (.inl hreceived)) hresends) fun _ => ?_
      refine iteInduction (fun hfin => absurd (.inr (.inr hfin)) hresends) fun _ => ?_
      refine iteInduction (fun _ => refl_of Live w) fun _ => ?_
      exact iteInduction (fun _ => (settles_closed h w).live) fun _ => refl_of Live w
    unfold countHandshake
    rw [if_neg hresends]
    exact hrest.received.bounded hb

/-- `checkRetransmission` sends data again, or it gives up, or it goes on to the handshakes. -/
theorem bounded_checkRetransmission (elapsed : UInt32) (hb : Bounded w n) :
    Bounded (checkRetransmission cb dns elapsed w) (countRetransmission cb dns elapsed w n) := by
  unfold checkRetransmission countRetransmission
  dsimp only
  split
  · exact hb
  split
  · exact (dials_resolveIP cb dns w).received.bounded hb
  split
  · exact hb
  split
  case isFalse => exact bounded_checkHandshake h elapsed hb
  case isTrue hdata =>
    have hbusy : inFlight w.self.state ≠ none := by
      rw [hdata]
      decide
    by_cases hmax : w.self.attempts > 10
    · have htooMany : (exhausted w).1 = true := decide_eq_true hmax
      rw [if_pos htooMany, if_pos htooMany]
      exact (settles_forceClose h _).bounded hb.le
    have hroom : (exhausted w).1 = false := decide_eq_false hmax
    have hparked : Parked (exhausted w).2 ((resendData cb).exec (exhausted w).2) :=
      parked_resendData cb hdata
    have hresent := bounded_resent hb hbusy hmax hparked
    rw [hroom, if_neg Bool.false_ne_true, if_neg Bool.false_ne_true]
    split
    · exact bounded_checkHandshake h elapsed hresent
    · exact bounded_checkHandshake h elapsed ((settles_forceClose h _).bounded hresent.le)

/-- One call of `checkState`. -/
theorem bounded_checkState (hb : Bounded w n) :
    Bounded (checkState cb dns w) (countTick cb dns w n) := by
  unfold checkState countTick
  dsimp only
  split
  · exact hb
  split
  · exact hb
  split
  case isFalse => exact bounded_checkRetransmission h dns _ hb
  split
  case isFalse =>
    exact bounded_checkRetransmission h dns _ ((settles_forceClose h w).bounded hb.le)
  case isTrue hopen =>
    rcases close_spec h w with ⟨hnot, hparked⟩ | ⟨hbegun, hattempts, -⟩
    · rw [hopen, Bool.true_and] at hnot
      rw [hnot, if_neg Bool.false_ne_true]
      exact hparked.live.received.bounded hb
    · rw [hopen, Bool.true_and] at hbegun
      rw [hbegun, if_pos rfl]
      exact bounded_reset hattempts

end Timer

/-! ### Giving up -/

/-- A retransmission is due: something is in flight, the socket has not timed out, and it has
waited for the acknowledgement. -/
structure Due (w : World α) : Prop where
  busy : inFlight w.self.state ≠ none
  live : ¬ (w.self.timeout > 0 ∧ w.stack.millis - w.self.stateTime > w.self.timeout)
  waited : ¬ w.stack.millis - w.self.stateTime < ACK_WAIT_DURATION

/-- The states in which something is in flight. -/
theorem mem_of_inFlight {state : UInt8} (h : inFlight state ≠ none) :
    state ∈ [ESTABLISHED ||| AWAITING_ACK, SYN_SENT, SYN_RECEIVED, FIN_WAIT_1, CLOSING] := by
  unfold inFlight at h
  split_ifs at h with hdata hsyn hfin
  · simp [hdata]
  · rcases hsyn with hsyn | hsyn <;> simp [hsyn]
  · rcases hfin with hfin | hfin <;> simp [hfin]
  · exact absurd rfl h

/-- Where the counter is above 10, a retransmission that is due is not made. -/
theorem checkState_exhausted (cb : Callbacks α) (dns : Resolver) {w : World α} (h : Due w)
    (hmax : w.self.attempts > 10) :
    checkState cb dns w = forceClose cb (exhausted w).2 := by
  have htooMany : (exhausted w).1 = true := decide_eq_true hmax
  have hresend : ∀ control, resend cb control w = forceClose cb (exhausted w).2 :=
    fun control => if_pos htooMany
  have hmem := mem_of_inFlight h.busy
  have hstates : ∀ state ∈ [ESTABLISHED ||| AWAITING_ACK, SYN_SENT, SYN_RECEIVED, FIN_WAIT_1,
      CLOSING], state ≠ CLOSED ∧ state ≠ LISTEN ∧ state ≠ ESTABLISHED ∧ state ≠ RESOLVING := by
    decide
  obtain ⟨hclosed, hlisten, hestablished, hresolving⟩ := hstates _ hmem
  have hretry : checkState cb dns w =
      if w.self.state = ESTABLISHED ||| AWAITING_ACK then forceClose cb (exhausted w).2
      else checkHandshake cb (w.stack.millis - w.self.stateTime) w := by
    unfold checkState checkRetransmission
    dsimp only
    rw [if_neg hclosed, if_neg hlisten, if_neg h.live, if_neg hestablished, if_neg hresolving,
      if_neg h.waited, if_pos htooMany]
  rw [hretry]
  refine iteInduction (motive := fun w' => w' = _) (fun _ => rfl) fun hdata => ?_
  unfold checkHandshake
  refine iteInduction (motive := fun w' => w' = _) (fun _ => hresend _) fun hsyn => ?_
  refine iteInduction (motive := fun w' => w' = _) (fun _ => hresend _) fun hreceived => ?_
  refine iteInduction (motive := fun w' => w' = _) (fun _ => hresend _) fun hfin => ?_
  have hleft : w.self.state = FIN_WAIT_1 ∨ w.self.state = CLOSING := by
    simpa [hdata, hsyn, hreceived] using hmem
  exact absurd hleft hfin

/-- `forceClose` tries to send a RST and enters LISTEN or CLOSED. -/
theorem forceClose_down (cb : Callbacks α) {w : World α} (h : w.self.state ≠ TIME_WAIT) :
    forceClose cb w =
      let w' := (reset cb w.self.localSeq w.self.remoteSeq).exec w
      setState cb w'.self.down w' := by
  unfold forceClose closed down
  dsimp only
  rw [if_pos h]
  split
  · rfl
  · rfl

/-! ### Runs -/

/-- A world with the number of times that `checkState` has sent again what is in flight. -/
structure Counted (α : Type) where
  world : World (α × ℕ)
  resent : ℕ

/-- What happens to a socket: a call, a segment, the timer, and anything that its application
and its host do elsewhere. -/
inductive Happening (α : Type)
  | call (c : Call)
  | segment (sourceIP : IPAddr) (buf : Bytes)
  | tick (dns : Resolver)
  | elsewhere (app : α) (stack : Stack)

/-- One of these steps, with the count. -/
def Subclass.step (a : Subclass α) (depth : ℕ) : Happening α → Counted α → Counted α
  | .call c, t =>
      let w := c.perform (a.callbacks depth) t.world
      ⟨w, keepCount t.world w t.resent⟩
  | .segment sourceIP buf, t =>
      let w := handleSegment (a.callbacks depth) sourceIP buf t.world
      ⟨w, keepCount t.world w t.resent⟩
  | .tick dns, t =>
      ⟨checkState (a.callbacks depth) dns t.world,
        countTick (a.callbacks depth) dns t.world t.resent⟩
  | .elsewhere app stack, t =>
      ⟨{ t.world with app := (app, t.world.app.2), stack := stack }, t.resent⟩

/-- Every step keeps the counter ahead. -/
theorem Subclass.bounded_step (a : Subclass α) (depth : ℕ) (e : Happening α) {t : Counted α}
    (hb : Bounded t.world t.resent) :
    Bounded (a.step depth e t).world (a.step depth e t).resent := by
  have h := a.respects_live depth
  cases e with
  | call c => exact (live_perform h c t.world).received.bounded hb
  | segment sourceIP buf => exact (received_handleSegment h sourceIP buf t.world).bounded hb
  | tick dns => exact bounded_checkState h dns hb
  | elsewhere app stack => exact ⟨hb.le, hb.ahead⟩

/-- In every run there are at most 10 retransmissions of what is in flight, and where there have
been 10, the next one that is due closes the socket instead. -/
theorem Subclass.reaches_bounded (a : Subclass α) (depth : ℕ) {t₀ t : Counted α}
    (hstart : t₀.world.self.Constructed) (hcount : t₀.resent = 0)
    (hrun : Reaches (fun _ _ => True) (a.step depth) t₀ t) :
    t.resent ≤ 10 ∧ (t.resent = 10 → Due t.world → ∀ dns,
      let cb := a.callbacks depth
      let w := (exhausted t.world).2
      let w' := (reset cb w.self.localSeq w.self.remoteSeq).exec w
      checkState cb dns t.world = forceClose cb w ∧
        forceClose cb w = setState cb w'.self.down w') := by
  have hidle : inFlight t₀.world.self.state = none := by
    rw [hstart.closed.1]
    decide
  have hbounded₀ : Bounded t₀.world t₀.resent :=
    ⟨by omega, fun hbusy => absurd hidle hbusy⟩
  have hbounded : Bounded t.world t.resent :=
    hrun.invariant (P := fun t => Bounded t.world t.resent) hbounded₀
      fun _ e hb _ => a.bounded_step depth e hb
  refine ⟨hbounded.le, fun hmax hdue dns => ⟨?_, forceClose_down _ ?_⟩⟩
  · have hahead := (hbounded.ahead hdue.busy).1
    have hlt : (10 : UInt8).toNat < t.world.self.attempts.toNat := by
      have hten : (10 : UInt8).toNat = 10 := rfl
      omega
    exact checkState_exhausted _ dns hdue (UInt8.lt_iff_toNat_lt.mpr hlt)
  · have hwait : ∀ state ∈ [ESTABLISHED ||| AWAITING_ACK, SYN_SENT, SYN_RECEIVED, FIN_WAIT_1,
        CLOSING], state ≠ TIME_WAIT := by decide
    exact hwait _ (mem_of_inFlight hdue.busy)

/-! ### Example -/

/-- A subclass that ignores every event. -/
def exampleSubclass : Subclass Unit :=
  ⟨fun _ _ => .done true, fun _ _ => .done true, fun _ size => size⟩

/-- A client that has just been constructed. -/
def exampleCounted : Counted Unit :=
  ⟨⟨0, newClient ⟨10, 0, 0, 2⟩ 80 7 0 .zero, exampleStack 1 2, ((), 0)⟩, 0⟩

/-- The client is given a handler, connects, and waits a second. -/
def exampleWaiting : Counted Unit :=
  let t := exampleSubclass.step 0 (.call (.configure { exampleCounted.world.self with
    tcp := some 0 })) exampleCounted
  let t := exampleSubclass.step 0 (.call (.connect exampleResolver)) t
  exampleSubclass.step 0 (.elsewhere () { t.world.stack with millis := 1 }) t

/-- Ticks of the timer. -/
def exampleTicks : ℕ → Counted Unit
  | 0 => exampleWaiting
  | k + 1 => exampleSubclass.step 0 (.tick exampleResolver) (exampleTicks k)

/-- Ticks only, one after the other. -/
theorem reaches_exampleTicks (k : ℕ) :
    Reaches (fun _ _ => True) (exampleSubclass.step 0) exampleCounted (exampleTicks k) := by
  induction k with
  | zero =>
    have hconfigured : Reaches (fun _ _ => True) (exampleSubclass.step 0) exampleCounted _ :=
      Reaches.refl.step (e := .call (.configure { exampleCounted.world.self with tcp := some 0 }))
        trivial
    have hconnected := hconfigured.step (e := .call (.connect exampleResolver)) trivial
    exact hconnected.step (e := .elsewhere () _) trivial
  | succ k ih => exact ih.step trivial

/-- Ten ticks re-send ten times. -/
theorem resent_exampleTicks : (exampleTicks 10).resent = 10 := by decide +kernel

theorem due_exampleTicks : Due (exampleTicks 10).world :=
  ⟨by decide +kernel, by decide +kernel, by decide +kernel⟩

/-- A client whose SYN is never answered sends it again 10 times and is closed by the next tick. -/
theorem reaches_bounded_example :
    (exampleTicks 10).resent = 10 ∧
      checkState (exampleSubclass.callbacks 0) exampleResolver (exampleTicks 10).world =
        forceClose (exampleSubclass.callbacks 0) (exhausted (exampleTicks 10).world).2 :=
  ⟨resent_exampleTicks, ((exampleSubclass.reaches_bounded 0 (.client _ _ _ _ _) rfl
    (reaches_exampleTicks 10)).2 resent_exampleTicks due_exampleTicks exampleResolver).1⟩

end Socket

end AtmegaNet
