import AtmegaNet.Transfer

/-!
# The end of a stream

A client that closes gives its FIN the number behind the last byte it has sent, and sends nothing
after it; a server takes a FIN only in its place. So when the server has taken it, the server has
taken everything else as well, whatever the network has done to the segments.

## Main results

* `Link.reaches_finished`: a server of the protocol that has taken the FIN of the client has
  accepted all the client has sent.
* `Transfer.reaches_remoteClosed`: so has the application of a server whose socket says that the
  remote host has closed the connection.
-/

open Procedure Runs

namespace AtmegaNet

open Socket

namespace Link

/-- The states of a server that has taken the FIN of the client. -/
def finishedStates : List UInt8 := [CLOSE_WAIT, CLOSING, LAST_ACK, TIME_WAIT]

theorem not_open_of_finished {state : UInt8} (h : state ∈ finishedStates) :
    state &&& 0x0F ≠ ESTABLISHED :=
  (by decide : ∀ state ∈ finishedStates, state &&& 0x0F ≠ ESTABLISHED) state h

/-! ### The client -/

/-- A FIN is not sent. -/
def NoFin (sends : Option Sending) : Prop := ∀ o, sends = some o → ¬ has o.control FIN

/-- What a client that has been established can do: the segment it sends, the payload that its
application has given it, and the connection it leaves. -/
inductive Turns (c : Conn) : Option Sending → Bytes → Conn → Prop
  /-- The connection is established, and stays so. -/
  | speaks {sends : Option Sending} {sent : Bytes} {c' : Conn} :
      c.Open → c'.Open → NoFin sends → Turns c sends sent c'
  | stays {sends : Option Sending} {c' : Conn} :
      ¬ c.Open → c'.state = c.state → c'.localSeq = c.localSeq → NoFin sends →
      Turns c sends [] c'
  | leaves {sends : Option Sending} {c' : Conn} :
      c'.state ∈ [CLOSED, FIN_WAIT_2, TIME_WAIT] → NoFin sends → Turns c sends [] c'
  /-- The FIN of the server. -/
  | waits {sends : Option Sending} {c' : Conn} :
      c.Open → c'.state = CLOSE_WAIT → c'.localSeq = c.localSeq → NoFin sends →
      Turns c sends [] c'
  /-- Its own FIN. -/
  | closes {c' : Conn} :
      c.Open ∧ c'.state = FIN_WAIT_1 ∨ c.state = CLOSE_WAIT ∧ c'.state = LAST_ACK →
      c'.localSeq = c.localSeq + 1 →
      Turns c (some ⟨FIN ||| ACK, c.localSeq, c.remoteSeq, []⟩) [] c'
  /-- Its own FIN again. -/
  | repeats :
      c.state ∈ [FIN_WAIT_1, CLOSING] →
      Turns c (some ⟨FIN ||| ACK, c.localSeq - 1, c.remoteSeq, []⟩) [] c

section Client

variable {k : Limits} {c c' : Conn} {e : Effect}

theorem noFin_abortion (c : Conn) : NoFin c.abortion := by
  intro o ho
  unfold Conn.abortion at ho
  split at ho
  · exact absurd ho (by simp)
  · obtain rfl := Option.some.inj ho
    exact (by decide : ¬ has (RST ||| ACK) FIN)

theorem noFin_none : NoFin none := fun _ ho => absurd ho (by simp)

/-- A step that changes nothing is one, whatever the state. -/
theorem Turns.idle {sends : Option Sending} (h : NoFin sends) : Turns c sends [] c := by
  by_cases hopen : c.Open
  · exact .speaks hopen hopen h
  · exact .stays hopen rfl rfl h

/-- The calls of a client. -/
theorem turns_of_acts {call : AtmegaNet.Call} (h : Acts k c call e c')
    (hstates : c.state ∈ clientStates) (hsyn : c.state ≠ SYN_SENT) (hdown : k.down = CLOSED)
    (hroom : 20 ≤ k.room) (hcall : call ≠ .connect) (hproceeds : Proceeds c c') :
    Turns c e.sends (payloadOf call e) c' := by
  cases h with
  | idle _ =>
      have hpayload : payloadOf call {} = [] := by
        cases call <;> rfl
      rw [hpayload]
      exact .idle noFin_none
  | resolve _ hunopened hstate =>
      have hpayload : payloadOf call {} = [] := by
        cases call <;> rfl
      rw [hpayload]
      refine .leaves ?_ noFin_none
      rw [List.mem_cons, hdown] at hstate
      rcases hstate with hs | hs
      · rw [hs]
        exact List.mem_cons_self
      · have hsame := hproceeds.address hs
        dsimp only at hsame
        rw [hsame] at hs
        exact absurd hs ((by decide : ∀ state ∈ clientStates,
          state ∉ [RESOLVING, UNKNOWN_HOST]) _ hstates)
  | connect hconnect _ _ =>
      rcases hconnect with h | ⟨-, hs⟩
      · exact absurd h hcall
      · rw [hs] at hstates
        exact absurd hstates (by decide)
  | send hopen _ _ _ _ =>
      refine .speaks hopen ?_ fun o ho => ?_
      · show (c.state ||| AWAITING_ACK) &&& 0x0F = ESTABLISHED
        rw [hopen.or_awaiting]
        decide
      · obtain rfl := Option.some.inj ho
        exact (by decide : ¬ has (ACK ||| PSH) FIN)
  | close hclose hlocal _ =>
      rw [payloadOf_of_ne (by rcases hclose with rfl | rfl <;> simp)]
      refine .closes ?_ rfl
      exact (by decide : ∀ state ∈ clientStates, state ≠ SYN_SENT →
        state ∉ [FIN_WAIT_1, FIN_WAIT_2, CLOSING, LAST_ACK, TIME_WAIT, LISTEN, CLOSED] →
          state &&& 0x0F = ESTABLISHED ∧ (stateAfterClose state).getD state = FIN_WAIT_1 ∨
            state = CLOSE_WAIT ∧ (stateAfterClose state).getD state = LAST_ACK)
        _ hstates hsyn hlocal
  | closeShort _ _ hshort => exact absurd hroom (Nat.not_le.mpr hshort)
  | abort habort =>
      rw [payloadOf_of_ne (by rcases habort with rfl | rfl <;> simp), hdown]
      exact .leaves List.mem_cons_self (noFin_abortion c)
  | resendData hstate =>
      have hopen : c.Open := by
        rw [Conn.Open, hstate]
        decide
      refine .speaks hopen hopen fun o ho => ?_
      obtain rfl := Option.some.inj ho
      exact (by decide : ¬ has ACK FIN)
  | resend hresends =>
      unfold Conn.resends at hresends
      split_ifs at hresends with h1 h2 h3
      · exact absurd h1 hsyn
      · rw [h2] at hstates
        exact absurd hstates (by decide)
      · obtain rfl := Option.some.inj hresends
        refine .repeats ?_
        rcases h3 with hs | hs <;> rw [hs] <;> decide
  | expire _ =>
      rw [hdown]
      exact .leaves List.mem_cons_self noFin_none

/-- The segments it receives. -/
theorem turns_of_receives {s : Segment} (h : Receives k s c e c')
    (hstates : c.state ∈ clientStates) (hsyn : c.state ≠ SYN_SENT) (hdown : k.down = CLOSED) :
    Turns c e.sends [] c' := by
  have hfin := h.no_fin
  cases h with
  | refuse _ _ _ _ => exact .idle hfin
  | challenge _ _ => exact .idle hfin
  | reset _ _ _ _ => exact .leaves (hdown ▸ List.mem_cons_self) hfin
  | resetIgnored _ _ _ _ => exact .idle hfin
  | passiveOpen _ hstate _ _ =>
      rw [hstate] at hstates
      exact absurd hstates (by decide)
  | passiveOpenShort _ hstate _ _ =>
      rw [hstate] at hstates
      exact absurd hstates (by decide)
  | simultaneousOpen _ hstate _ => exact absurd hstate hsyn
  | activeOpen _ hstate _ _ => exact absurd hstate hsyn
  | noAck _ _ _ => exact .idle hfin
  | outOfOrder _ _ _ _ => exact .idle hfin
  | inOrder _ hopen _ _ =>
      rcases hopen.state_inOrder _ with ⟨-, hs⟩ | ⟨-, hs | ⟨hs, -⟩⟩
      · exact .waits hopen hs rfl hfin
      · refine .speaks hopen ?_ hfin
        rw [Conn.Open, hs]
        exact hopen
      · refine .speaks hopen ?_ hfin
        rw [Conn.Open, hs]
        decide
  | acked _ _ hopen _ =>
      rcases c.afterAck_cases k.down with ⟨hs, -⟩ | ⟨-, h'⟩ | ⟨-, h'⟩ | ⟨-, h'⟩ | h'
      · rw [hs] at hstates
        exact absurd hstates (by decide)
      · exact .leaves (by dsimp only; rw [h']; decide) hfin
      · exact .leaves (by dsimp only; rw [h']; decide) hfin
      · exact .leaves (by dsimp only; rw [h', hdown]; decide) hfin
      · exact .stays hopen h' rfl hfin
  | abort _ _ _ _ => exact .leaves (hdown ▸ List.mem_cons_self) hfin

end Client

/-! ### The invariant -/

/-- The FIN of an established client ends the stream that begins at `base`. -/
structure Ends (base : ℕ) (l : Link) : Prop where
  fin : ∀ o ∈ l.fromClient, ¬ has o.control RST → has o.control FIN →
    o.seq.toNat < base ∨ o.seq.toNat = base + l.sent.length ∧ ¬ l.client.Open
  waiting : l.client.state = CLOSE_WAIT → l.client.localSeq.toNat = base + l.sent.length
  closing : l.client.state ∈ [FIN_WAIT_1, CLOSING] →
    l.client.localSeq.toNat = base + l.sent.length + 1

/-- The invariant of the streams, and what is true of their end. -/
structure Finishes (kc ks : Limits) (base : ℕ) (opened : Bool) (l : Link) : Prop where
  streams : Streams kc ks base opened l
  ends : opened = true → Ends base l
  finished : l.server.state ∈ finishedStates →
    opened = true ∧ ¬ l.client.Open ∧ l.accepted = l.sent

variable {kc ks : Limits} {base : ℕ} {opened : Bool} {l : Link} {o : Sending} {e : Effect}

section Client

variable {c : Conn} {sends : Option Sending} {sent : Bytes}

/-- The FINs on the way are the same after a step that sends none. -/
theorem Ends.fin_append (h : Ends base l) (hfin : NoFin sends)
    (hend : ¬ l.client.Open → ¬ c.Open ∧ sent = []) :
    ∀ o ∈ l.fromClient ++ sends.toList, ¬ has o.control RST → has o.control FIN →
      o.seq.toNat < base ∨ o.seq.toNat = base + (l.sent ++ sent).length ∧ ¬ c.Open := by
  intro o ho hrst hf
  rcases mem_sends.mp ho with ho | ho
  · rcases h.fin o ho hrst hf with hbelow | ⟨hseq, hopen⟩
    · exact .inl hbelow
    · obtain ⟨hopen', rfl⟩ := hend hopen
      rw [List.append_nil]
      exact .inr ⟨hseq, hopen'⟩
  · exact absurd hf (hfin o ho)

/-- What a step of an established client keeps. -/
theorem Ends.client (h : Ends base l) (hs : Streams kc ks base true l)
    (ht : Turns l.client sends sent c) (hnext : l.client.localSeq ≤ c.localSeq) :
    Ends base { l with
      client := c, fromClient := l.fromClient ++ sends.toList, sent := l.sent ++ sent } := by
  have hone : c.localSeq = l.client.localSeq + 1 →
      c.localSeq.toNat = l.client.localSeq.toNat + 1 := fun heq => by
    rw [heq] at hnext ⊢
    exact toNat_add_of_le hnext
  have hopened : ∀ {state}, c.Open → state ∈ [CLOSE_WAIT, FIN_WAIT_1, CLOSING] →
      c.state ≠ state := fun hopen hmem =>
    hopen.ne ((by decide : ∀ state ∈ [CLOSE_WAIT, FIN_WAIT_1, CLOSING],
      state &&& 0x0F ≠ ESTABLISHED) _ hmem)
  cases ht with
  | speaks hopen hopen' hfin =>
      refine ⟨h.fin_append hfin fun hno => absurd hopen hno,
        fun hstate => absurd hstate (hopened hopen' (by decide)), fun hstate => ?_⟩
      exact absurd rfl (hopened hopen' (List.mem_cons_of_mem _ hstate))
  | stays hopen hstate hseq hfin =>
      have hopen' : ¬ c.Open := by
        rw [Conn.Open, hstate]
        exact hopen
      refine ⟨h.fin_append hfin fun _ => ⟨hopen', rfl⟩, ?_, ?_⟩
      · dsimp only
        rw [hstate, hseq, List.append_nil]
        exact h.waiting
      · dsimp only
        rw [hstate, hseq, List.append_nil]
        exact h.closing
  | leaves hstate hfin =>
      obtain ⟨hopen', hwait, hclosing⟩ := (by decide : ∀ state ∈ [CLOSED, FIN_WAIT_2, TIME_WAIT],
        state &&& 0x0F ≠ ESTABLISHED ∧ state ≠ CLOSE_WAIT ∧ state ∉ [FIN_WAIT_1, CLOSING])
          _ hstate
      exact ⟨h.fin_append hfin fun _ => ⟨hopen', rfl⟩, fun hs => absurd hs hwait,
        fun hs => absurd hs hclosing⟩
  | waits hopen hstate hseq hfin =>
      refine ⟨h.fin_append hfin fun hno => absurd hopen hno, fun _ => ?_, fun hs => ?_⟩
      · dsimp only
        rw [hseq, List.append_nil]
        exact hs.current rfl hopen
      · dsimp only at hs
        rw [hstate] at hs
        exact absurd hs (by decide)
  | closes hstate hseq =>
      have hlocal : l.client.localSeq.toNat = base + l.sent.length := by
        rcases hstate with ⟨hopen, -⟩ | ⟨hwait, -⟩
        · exact hs.current rfl hopen
        · exact h.waiting hwait
      have hopen' : ¬ c.Open := by
        rcases hstate with ⟨-, hs⟩ | ⟨-, hs⟩ <;> rw [Conn.Open, hs] <;> decide
      rw [List.append_nil]
      refine ⟨fun o ho hrst hf => ?_, fun hs => ?_, fun _ => ?_⟩
      · dsimp only at ho ⊢
        rcases mem_sends.mp ho with ho | ho
        · exact (h.fin o ho hrst hf).imp_right fun hend => ⟨hend.1, hopen'⟩
        · obtain rfl := Option.some.inj ho
          exact .inr ⟨hlocal, hopen'⟩
      · rcases hstate with ⟨-, hs'⟩ | ⟨-, hs'⟩ <;> exact absurd (hs'.symm.trans hs) (by decide)
      · dsimp only
        rw [hone hseq, hlocal]
  | repeats hstate =>
      have hlocal := h.closing hstate
      have hpos : (l.client.localSeq - 1).toNat = base + l.sent.length := by
        have hle : (1 : UInt32).toNat ≤ l.client.localSeq.toNat := by
          rw [hlocal]
          exact Nat.le_add_left 1 _
        rw [toNat_sub_of_le hle, hlocal]
        exact Nat.add_sub_cancel _ 1
      have hopen : ¬ l.client.Open := (by decide : ∀ state ∈ [FIN_WAIT_1, CLOSING],
        state &&& 0x0F ≠ ESTABLISHED) _ hstate
      rw [List.append_nil]
      refine ⟨fun o ho hrst hf => ?_, h.waiting, h.closing⟩
      dsimp only at ho ⊢
      rcases mem_sends.mp ho with ho | ho
      · exact h.fin o ho hrst hf
      · obtain rfl := Option.some.inj ho
        exact .inr ⟨hpos, hopen⟩

/-- A step of an established client adds nothing to a stream that has ended. -/
theorem Turns.after_end (h : Turns l.client sends sent c) (hopen : ¬ l.client.Open) :
    ¬ c.Open ∧ sent = [] := by
  cases h with
  | speaks h _ _ => exact absurd h hopen
  | stays _ hstate _ _ =>
      refine ⟨?_, rfl⟩
      rw [Conn.Open, hstate]
      exact hopen
  | leaves hstate _ =>
      exact ⟨(by decide : ∀ state ∈ [CLOSED, FIN_WAIT_2, TIME_WAIT],
        state &&& 0x0F ≠ ESTABLISHED) _ hstate, rfl⟩
  | waits h _ _ _ => exact absurd h hopen
  | closes hstate _ =>
      refine ⟨?_, rfl⟩
      rcases hstate with ⟨h, -⟩ | ⟨-, hs⟩
      · exact absurd h hopen
      · rw [Conn.Open, hs]
        decide
  | repeats _ => exact ⟨hopen, rfl⟩

end Client

/-! ### Steps of the client -/

section Steps

variable {c : Conn}

/-- A client that has not been established sends no FIN on a segment, and waits for none. -/
theorem ends_of_receives {s : Segment} (hs : Streams kc ks base false l)
    (hreceives : Receives kc s l.client e c) (hdown : kc.down = CLOSED) :
    Ends base (clientSteps e c l) := by
  have hmem : l.client.state ∈ [CLOSED, SYN_SENT] := by
    rcases (hs.before rfl).2.1 with h | h <;> rw [h] <;> decide
  obtain ⟨hlisten, hopen, hafter⟩ := (by decide : ∀ state ∈ [CLOSED, SYN_SENT],
    state ≠ LISTEN ∧ state &&& 0x0F ≠ ESTABLISHED ∧
      state ∉ [CLOSE_WAIT, FIN_WAIT_1, CLOSING]) _ hmem
  have hstate : c.state ∉ [CLOSE_WAIT, FIN_WAIT_1, CLOSING] := by
    cases hreceives with
    | refuse _ _ _ _ => exact hafter
    | challenge _ _ => exact hafter
    | reset _ _ _ _ => exact hdown ▸ (by decide : CLOSED ∉ [CLOSE_WAIT, FIN_WAIT_1, CLOSING])
    | resetIgnored _ _ _ _ => exact hafter
    | passiveOpen _ hl _ _ => exact absurd hl hlisten
    | passiveOpenShort _ hl _ _ => exact absurd hl hlisten
    | simultaneousOpen _ _ _ =>
        exact (by decide : SYN_RECEIVED ∉ [CLOSE_WAIT, FIN_WAIT_1, CLOSING])
    | activeOpen _ _ _ _ => exact (by decide : ESTABLISHED ∉ [CLOSE_WAIT, FIN_WAIT_1, CLOSING])
    | noAck _ h _ => exact absurd h hopen
    | outOfOrder _ h _ _ => exact absurd h hopen
    | inOrder _ h _ _ => exact absurd h hopen
    | acked _ _ _ _ =>
        have hsame : l.client.afterAck kc.down = l.client.state := by
          have hnone := (by decide : ∀ state ∈ [CLOSED, SYN_SENT], state ≠ SYN_RECEIVED ∧
            state ≠ FIN_WAIT_1 ∧ state ≠ CLOSING ∧ state ≠ LAST_ACK) _ hmem
          rw [Conn.afterAck, if_neg hnone.1, if_neg hnone.2.1, if_neg hnone.2.2.1,
            if_neg hnone.2.2.2]
        dsimp only
        rw [hsame]
        exact hafter
    | abort _ _ _ _ => exact hdown ▸ (by decide : CLOSED ∉ [CLOSE_WAIT, FIN_WAIT_1, CLOSING])
  refine ⟨fun o ho hrst hfin => ?_, fun h => absurd ?_ hstate,
    fun h => absurd (List.mem_cons_of_mem _ h) hstate⟩
  · rcases mem_sends.mp ho with ho | ho
    · exact .inl ((hs.fromClient o ho hrst).fin (fun h => absurd h (by decide)) hfin)
    · exact absurd hfin (hreceives.no_fin o ho)
  · rw [show c.state = CLOSE_WAIT from h]
    exact List.mem_cons_self

namespace Finishes

variable (h : Finishes kc ks base opened l)

include h

/-- A call at the client. -/
theorem clientCall (hc : kc.down = CLOSED ∧ kc.room < 65536) (hroom : 20 ≤ kc.room)
    {call : AtmegaNet.Call} (hok : Ok kc ks l (.clientCall call e c)) :
    ∃ base', Finishes kc ks base' opened (run (.clientCall call e c) l) := by
  obtain ⟨hacts, hfresh, hproceeds⟩ := hok
  obtain ⟨base', hsame, hstreams⟩ := Link.clientCall h.streams hc.1 hc.2 hacts hfresh hproceeds
  have hturns : opened = true → Turns l.client e.sends (payloadOf call e) c := fun ho => by
    obtain ⟨hsyn, hconnected⟩ := h.streams.after ho
    refine turns_of_acts hacts h.streams.states hsyn hc.1 hroom (fun hcall => ?_) hproceeds
    exact absurd (hconnected.symm.trans (hfresh hcall)) (by decide)
  refine ⟨base', hstreams, fun ho => ?_, fun hserver => ?_⟩
  · obtain rfl := ho
    obtain rfl := hsame rfl
    obtain ⟨hfin, hwait, hclosing⟩ :=
      (h.ends rfl).client h.streams (hturns rfl) hproceeds.next
    exact ⟨hfin, hwait, hclosing⟩
  · obtain ⟨ho, hopen, haccepted⟩ := h.finished hserver
    obtain ⟨hopen', hsent⟩ := (hturns ho).after_end hopen
    refine ⟨ho, hopen', ?_⟩
    rw [run, hsent, List.append_nil]
    exact haccepted

/-- A segment at the client. -/
theorem toClient (hdown : kc.down = CLOSED) {s : Segment}
    (hok : Ok kc ks l (.toClient o s e c)) :
    ∃ opened', Finishes kc ks base opened' (run (.toClient o s e c) l) := by
  obtain ⟨ho, harrives, hreceives, hproceeds⟩ := hok
  obtain ⟨opened', hopened, hstreams⟩ := Link.toClient h.streams hdown ho harrives hreceives
  have hturns : opened = true → Turns l.client e.sends [] c := fun ho =>
    turns_of_receives hreceives h.streams.states (h.streams.after ho).1 hdown
  refine ⟨opened', hstreams, fun _ => ?_, fun hserver => ?_⟩
  · cases opened with
    | false => exact ends_of_receives h.streams hreceives hdown
    | true =>
        obtain ⟨hfin, hwait, hclosing⟩ :=
          (h.ends rfl).client h.streams (hturns rfl) hproceeds.next
        rw [List.append_nil] at hfin hwait hclosing
        exact ⟨hfin, hwait, hclosing⟩
  · obtain ⟨ho, hopen, haccepted⟩ := h.finished hserver
    exact ⟨hopened ho, ((hturns ho).after_end hopen).1, haccepted⟩

/-! ### Steps of the server -/

/-- A call at the server. -/
theorem serverCall (hs : ks.down = LISTEN ∧ ks.room < 65536) {call : AtmegaNet.Call}
    (hok : Ok kc ks l (.serverCall call e c)) :
    Finishes kc ks base opened (run (.serverCall call e c) l) := by
  obtain ⟨hacts, hcall, hproceeds⟩ := hok
  have hstates := h.streams.serverStates
  refine ⟨Link.serverCall h.streams hs.1 hs.2 hacts hcall hproceeds, fun ho => ?_,
    fun hserver => h.finished ?_⟩
  · obtain ⟨hfin, hwait, hclosing⟩ := h.ends ho
    exact ⟨hfin, hwait, hclosing⟩
  · have hserver : c.state ∈ finishedStates := hserver
    cases hacts with
    | idle _ => exact hserver
    | resolve _ _ hstate =>
        exact absurd hserver ((by decide : ∀ state ∈ [LISTEN, RESOLVING, UNKNOWN_HOST],
          state ∉ finishedStates) _ (hs.1 ▸ hstate))
    | connect _ _ _ => exact absurd hserver (by decide : SYN_SENT ∉ finishedStates)
    | send hopen _ _ _ _ =>
        refine absurd ?_ (not_open_of_finished hserver)
        show (l.server.state ||| AWAITING_ACK) &&& 0x0F = ESTABLISHED
        rw [hopen.or_awaiting]
        decide
    | close _ _ _ =>
        exact (by decide : ∀ state ∈ serverStates,
          (stateAfterClose state).getD state ∈ finishedStates → state ∈ finishedStates)
            _ hstates hserver
    | closeShort _ _ _ => exact hserver
    | abort _ => exact absurd hserver (hs.1 ▸ (by decide : LISTEN ∉ finishedStates))
    | resendData _ => exact hserver
    | resend _ => exact hserver
    | expire _ => exact absurd hserver (hs.1 ▸ (by decide : LISTEN ∉ finishedStates))

/-- The FIN of the client, in its place: nothing of the stream is missing. -/
theorem server_finishes {s : Segment} (ho : o ∈ l.fromClient) (harrives : o.Arrives s)
    (hrst : ¬ has o.control RST) (hopen : l.server.Open) (hseq : s.seq = l.server.remoteSeq)
    (hfin : has s.control FIN) :
    opened = true ∧ ¬ l.client.Open ∧ l.accepted = l.sent ∧ s.payload = [] := by
  have hfin : has o.control FIN := harrives.control ▸ hfin
  obtain ⟨hopened, hremote⟩ := h.streams.serverOpen hopen
  have hnil : o.payload = [] := by
    by_contra hne
    exact ((h.streams.fromClient o ho hrst).data hne).2.1 hfin
  rcases (h.ends hopened).fin o ho hrst hfin with hbelow | ⟨hend, hclosed⟩
  · rw [← harrives.seq, hseq, hremote] at hbelow
    omega
  · rw [← harrives.seq, hseq, hremote] at hend
    refine ⟨hopened, hclosed, ?_, harrives.payload.trans hnil⟩
    exact h.streams.accepted.eq_of_length (Nat.add_left_cancel hend)

/-- A segment at the server. -/
theorem toServer (hdown : ks.down = LISTEN) {s : Segment}
    (hok : Ok kc ks l (.toServer o s e c)) :
    Finishes kc ks base opened (run (.toServer o s e c) l) := by
  obtain ⟨ho, harrives, hreceives, hproceeds⟩ := hok
  refine ⟨Link.toServer h.streams hdown ho harrives hreceives hproceeds, fun ho => ?_,
    fun hserver => ?_⟩
  · obtain ⟨hfin, hwait, hclosing⟩ := h.ends ho
    exact ⟨hfin, hwait, hclosing⟩
  change c.state ∈ finishedStates at hserver
  -- where nothing is delivered the state has been one of these before
  have hquiet : takenFrom e = [] → l.server.state ∈ finishedStates →
      opened = true ∧ ¬ l.client.Open ∧ l.accepted ++ takenFrom e = l.sent := by
    intro hnone hbefore
    rw [hnone, List.append_nil]
    exact h.finished hbefore
  have hlisten : ks.down ∉ finishedStates := hdown ▸ (by decide : LISTEN ∉ finishedStates)
  cases hreceives with
  | refuse _ _ _ _ => exact hquiet rfl hserver
  | challenge _ _ => exact hquiet rfl hserver
  | reset _ _ _ _ => exact absurd hserver hlisten
  | resetIgnored _ _ _ _ => exact hquiet rfl hserver
  | passiveOpen _ _ _ _ => exact absurd hserver (by decide : SYN_RECEIVED ∉ finishedStates)
  | passiveOpenShort _ _ _ _ => exact hquiet rfl hserver
  | simultaneousOpen _ _ _ => exact absurd hserver (by decide : SYN_RECEIVED ∉ finishedStates)
  | activeOpen _ _ _ _ => exact absurd hserver (by decide : ESTABLISHED ∉ finishedStates)
  | noAck _ _ _ => exact hquiet rfl hserver
  | outOfOrder _ _ _ _ => exact hquiet rfl hserver
  | inOrder hadmits hopen _ hseq =>
      have hrst : ¬ has o.control RST := harrives.control ▸ hadmits.2.2
      rcases hopen.state_inOrder s with ⟨hfin, -⟩ | ⟨-, hs | ⟨hs, -⟩⟩
      · obtain ⟨hopened, hclosed, haccepted, hnil⟩ :=
          h.server_finishes ho harrives hrst hopen hseq hfin
        refine ⟨hopened, hclosed, ?_⟩
        have hnone : takenFrom (l.server.inOrderEffect s) = [] := by
          unfold takenFrom Conn.inOrderEffect
          dsimp only
          rw [if_neg fun hd => absurd hd.2 (by rw [hnil]; decide)]
        show l.accepted ++ takenFrom (l.server.inOrderEffect s) = l.sent
        rw [hnone, List.append_nil]
        exact haccepted
      · exact absurd hopen (not_open_of_finished (hs ▸ hserver))
      · rw [hs] at hserver
        exact absurd hserver (by decide)
  | acked _ _ _ _ =>
      refine hquiet rfl ?_
      change l.server.afterAck ks.down ∈ finishedStates at hserver
      rcases l.server.afterAck_cases ks.down with
        ⟨-, h'⟩ | ⟨-, h'⟩ | ⟨hs, -⟩ | ⟨-, h'⟩ | h'
      · exact absurd (h' ▸ hserver) (by decide)
      · exact absurd (h' ▸ hserver) (by decide)
      · rw [hs]
        decide
      · exact absurd (h' ▸ hserver) hlisten
      · exact h' ▸ hserver
  | abort _ _ _ _ => exact absurd hserver hlisten

end Finishes

/-! ### Runs -/

theorem Starts.finishes (h : Starts l) (kc ks : Limits) :
    Finishes kc ks l.client.localSeq.toNat false l := by
  refine ⟨h.streams kc ks, fun ho => absurd ho (by decide), fun hserver => ?_⟩
  rw [h.server] at hserver
  exact absurd hserver (by decide)

/-- Whatever the network does, a server that has taken the FIN of the client has accepted all that
the client has sent. -/
theorem reaches_finished {l₀ : Link} (hc : kc.down = CLOSED ∧ kc.room < 65536)
    (hroom : 20 ≤ kc.room) (hs : ks.down = LISTEN ∧ ks.room < 65536) (hstart : Starts l₀)
    (hreach : Reaches (Ok kc ks) Link.run l₀ l) (hserver : l.server.state ∈ finishedStates) :
    l.accepted = l.sent := by
  have hall : ∃ base opened, Finishes kc ks base opened l := by
    refine hreach.invariant (P := fun l => ∃ base opened, Finishes kc ks base opened l)
      ⟨_, _, hstart.finishes kc ks⟩ ?_
    rintro l event ⟨base, opened, h⟩ hok
    cases event with
    | clientCall call e c =>
        obtain ⟨base', h'⟩ := h.clientCall hc hroom hok
        exact ⟨base', opened, h'⟩
    | serverCall call e c => exact ⟨base, opened, h.serverCall hs hok⟩
    | toClient o s e c => exact ⟨base, h.toClient hc.1 hok⟩
    | toServer o s e c => exact ⟨base, opened, h.toServer hs.1 hok⟩
  obtain ⟨base, opened, h⟩ := hall
  exact (h.finished hserver).2.2

end Steps

end Link

/-! ### Two hosts -/

namespace Transfer

open SocketRuns

variable {α β : Type}

/-- When the server's socket has a connection and says that the remote host has closed it, the
server's application has accepted exactly what the client's application has sent, whatever was
lost, copied, delayed or reordered. -/
theorem reaches_remoteClosed (a : App α) (b : App β) {s₀ s : Session α β} (hstart : Starts s₀)
    (hrun : Reaches (Ok a b) (run a b) s₀ s) (hremote : s.server.self.remoteClosed)
    (hconnected : s.server.self.state ≠ LISTEN) :
    acceptedOf s.server.this s.server.stack.log = s.sent := by
  obtain ⟨l, hreach, hshows⟩ := simulates a b hstart hrun
  have hdown : (limits s₀.client).down = CLOSED := if_neg fun h => hstart.noHost h.2
  have hlisten : (limits s₀.server).down = LISTEN := if_pos ⟨hstart.server.wired.tcp, hstart.host⟩
  have hroom : 20 ≤ (limits s₀.client).room :=
    Nat.le_trans (by decide : 20 ≤ 24) hstart.client.room
  have hstate : l.server.state = s.server.self.state := by
    rw [hshows.server]
    rfl
  obtain ⟨base, opened, hstreams⟩ := Link.reaches_streams ⟨hdown, room_lt _⟩
    ⟨hlisten, room_lt _⟩ hstart.link hreach
  have hfinished : l.server.state ∈ Link.finishedStates := by
    have hserver := hstreams.serverStates
    rw [hstate] at hserver ⊢
    simp only [remoteClosed, Bool.or_eq_true, beq_iff_eq] at hremote
    rcases hremote with ((((hs | hs) | hs) | hs) | hs) | hs
    · exact hs ▸ (by decide : CLOSE_WAIT ∈ Link.finishedStates)
    · exact hs ▸ (by decide : LAST_ACK ∈ Link.finishedStates)
    · exact hs ▸ (by decide : CLOSING ∈ Link.finishedStates)
    · exact hs ▸ (by decide : TIME_WAIT ∈ Link.finishedStates)
    · exact absurd hs hconnected
    · -- a listening socket is never CLOSED
      exact absurd (hs ▸ hserver) (by decide : CLOSED ∉ Link.serverStates)
  rw [← hshows.accepted, ← hshows.sent]
  exact Link.reaches_finished ⟨hdown, room_lt _⟩ hroom ⟨hlisten, room_lt _⟩ hstart.link hreach
    hfinished

/-- The FIN of the client. -/
def exampleFin : Bytes := [192, 0, 0, 80, 0, 0, 0, 11, 0, 0, 0, 12, 80, 17, 0, 42, 219, 63, 0, 0]

/-- The client has closed. -/
def exampleClosing : Session Unit Unit :=
  run exampleApp exampleApp (.client (.call exampleResolver .close)) (exampleAfter 8)

/-- The server has its FIN. -/
def exampleClosed : Session Unit Unit :=
  run exampleApp exampleApp (.server (.segment ⟨10, 0, 0, 1⟩ exampleFin)) exampleClosing

/-- The three bytes and the end of the stream. -/
theorem reaches_remoteClosed_three : exampleClosed.server.self.remoteClosed ∧
    acceptedOf exampleClosed.server.this exampleClosed.server.stack.log = [1, 2, 3] := by
  have hclose : Ok exampleApp exampleApp (exampleAfter 8)
      (.client (.call exampleResolver .close)) :=
    ⟨possible_call (by decide +kernel), fun h => absurd h (by decide)⟩
  have hfin : Ok exampleApp exampleApp exampleClosing
      (.server (.segment ⟨10, 0, 0, 1⟩ exampleFin)) :=
    ⟨possible_segment (by decide +kernel) (by decide +kernel), rfl⟩
  have hremote : exampleClosed.server.self.remoteClosed := by decide +kernel
  have hconnected : exampleClosed.server.self.state ≠ LISTEN := by decide +kernel
  have hrun : Reaches (Ok exampleApp exampleApp) (run exampleApp exampleApp) exampleSession
      exampleClosed := (reaches_exampleAfter.step hclose).step hfin
  have haccepted := reaches_remoteClosed exampleApp exampleApp starts_exampleSession hrun hremote
    hconnected
  exact ⟨hremote, haccepted.trans (by decide +kernel)⟩

end Transfer

end AtmegaNet
