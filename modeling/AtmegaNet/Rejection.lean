import AtmegaNet.Quiet

/-!
# Segments that are turned away

Three kinds of segments should leave a connection alone: those whose checksum is wrong, RSTs
that are not in order, and strays that reach a listener. This module says exactly when
`handleSegment` treats them so.

## Main results

* `handleSegment_inert_iff`: a segment with a wrong checksum is without effect if and only if
  it repeats what `handleSegment` stores before it tests the checksum.
* `handleSegment_reset_iff`: a RST is treated as it should be if and only if neither case 2 nor
  case 3 answers it, and SYN_SENT does not take it for one of its own.
* `handleSegment_stray_iff`: a stray is refused towards its sender if and only if the listener
  remembers that sender as its peer.
-/

open Procedure

namespace AtmegaNet

namespace Socket

variable {α : Type}

/-- Two sockets agree on everything that makes up a connection. -/
structure SameConnection (s s' : Socket) : Prop where
  state : s'.state = s.state
  remoteIP : s'.remoteIP = s.remoteIP
  remotePort : s'.remotePort = s.remotePort
  localSeq : s'.localSeq = s.localSeq
  remoteSeq : s'.remoteSeq = s.remoteSeq
  remoteWindow : s'.remoteWindow = s.remoteWindow
  remoteMSS : s'.remoteMSS = s.remoteMSS
  attempts : s'.attempts = s.attempts
  stateTime : s'.stateTime = s.stateTime
  lastDataLength : s'.lastDataLength = s.lastDataLength

/-! ### Wrong checksums -/

/-- Between two worlds nothing has happened to the connection, no event has been fired and
nothing has been sent. -/
structure Inert (w w' : World α) : Prop where
  connection : SameConnection w.self w'.self
  stack : w'.stack = w.stack
  app : w'.app = w.app

/-- A segment too short for its window field is dropped. -/
theorem handleSegment_headless (cb : Callbacks α) (sourceIP : IPAddr) {buf : Bytes}
    (hlen : Buffer.lengthOf buf < 16) (w : World α) :
    handleSegment cb sourceIP buf w = w.setSelf { w.self with recvBuffer := some [] } := by
  unfold handleSegment
  split
  case h_2 => rfl
  case h_1 opt ack seq window hopt hack hseq hwindow =>
    have hread : ((viewOf buf).read 14 2).isSome := by
      rw [View.readNet16, View.read16, Option.map_map, Option.map_eq_some_iff] at hwindow
      obtain ⟨d, hd, -⟩ := hwindow
      rw [hd]
      rfl
    exact absurd hlen (UInt16.not_lt.mpr (isSome_read_viewOf.mp hread))

/-- A segment with a window field has been taken note of when its checksum is found wrong. -/
theorem handleSegment_corrupt (cb : Callbacks α) {sourceIP : IPAddr} {buf : Bytes} {w : World α}
    (htcp : w.self.tcp.isSome) (hlen : 16 ≤ Buffer.lengthOf buf)
    (hsum : ¬ checksumOk buf w.stack.ip.ipAddress (arrive sourceIP buf w).self.remoteIP) :
    handleSegment cb sourceIP buf w = arrive sourceIP buf w := by
  have hread {start len : UInt16} (hle : start + len ≤ 16) :
      ((viewOf buf).read start len).isSome :=
    isSome_read_viewOf.mpr (UInt16.le_trans hle hlen)
  have hopt : (viewOf buf).read8 13 = some (segControl buf) :=
    eq_some_getD (by rw [View.read8, Option.isSome_map]; exact hread (by decide)) 0
  have hack : (viewOf buf).readNet32 8 = some (segAck buf) :=
    eq_some_getD (by
      rw [View.readNet32, Option.isSome_map, View.read32, Option.isSome_map]
      exact hread (by decide)) 0
  have hseq : (viewOf buf).readNet32 4 = some (segSeq buf) :=
    eq_some_getD (by
      rw [View.readNet32, Option.isSome_map, View.read32, Option.isSome_map]
      exact hread (by decide)) 0
  have hwindow : (viewOf buf).readNet16 14 = some (segWindow buf) :=
    eq_some_getD (by
      rw [View.readNet16, Option.isSome_map, View.read16, Option.isSome_map]
      exact hread (by decide)) 0
  have hnone : ¬ (arrive sourceIP buf w).self.tcp.isNone = true := by
    rw [Option.isNone_iff_eq_none]
    exact Option.isSome_iff_ne_none.mp htcp
  unfold handleSegment
  rw [hopt, hack, hseq, hwindow]
  exact (if_neg hnone).trans (if_neg hsum)

/-- What `handleSegment` stores of a segment before it tests the checksum is what is there
already. -/
def Repeats (sourceIP : IPAddr) (buf : Bytes) (s : Socket) : Prop :=
  segWindow buf = s.remoteWindow ∧
    (s.state = LISTEN ∧ segControl buf = SYN → sourceIP = s.remoteIP)

/-- A segment with a wrong checksum is without effect if and only if it ends before its window
field or repeats what `handleSegment` stores before it tests the checksum. -/
theorem handleSegment_inert_iff (cb : Callbacks α) (sourceIP : IPAddr) {buf : Bytes} {w : World α}
    (htcp : w.self.tcp.isSome)
    (hsum : ¬ checksumOk buf w.stack.ip.ipAddress (arrive sourceIP buf w).self.remoteIP) :
    Inert w (handleSegment cb sourceIP buf w) ↔
      Buffer.lengthOf buf < 16 ∨ Repeats sourceIP buf w.self := by
  by_cases hlen : Buffer.lengthOf buf < 16
  · rw [handleSegment_headless cb sourceIP hlen]
    exact iff_of_true ⟨⟨rfl, rfl, rfl, rfl, rfl, rfl, rfl, rfl, rfl, rfl⟩, rfl, rfl⟩ (.inl hlen)
  · rw [handleSegment_corrupt cb htcp (UInt16.not_lt.mp hlen) hsum, or_iff_right hlen]
    constructor
    · intro h
      refine ⟨h.connection.remoteWindow, fun hsyn => ?_⟩
      have hip := h.connection.remoteIP
      rwa [show (arrive sourceIP buf w).self.remoteIP = sourceIP from if_pos hsyn] at hip
    · rintro ⟨hwindow, hip⟩
      refine ⟨⟨rfl, ?_, rfl, rfl, rfl, hwindow, rfl, rfl, rfl, rfl⟩, rfl, rfl⟩
      by_cases hsyn : w.self.state = LISTEN ∧ segControl buf = SYN
      · exact (if_pos hsyn).trans (hip hsyn)
      · exact if_neg hsyn

/-- The ACK of the handshake with its sequence number damaged. -/
theorem handleSegment_inert_same :
    Inert exampleServer (handleSegment exampleApp ⟨10, 0, 0, 1⟩
      [192, 0, 0, 80, 0, 0, 0, 9, 0, 0, 0, 12, 80, 16, 0, 42, 219, 67, 0, 0] exampleServer) := by
  have hsum : ¬ checksumOk [192, 0, 0, 80, 0, 0, 0, 9, 0, 0, 0, 12, 80, 16, 0, 42, 219, 67, 0, 0]
      exampleServer.stack.ip.ipAddress (arrive ⟨10, 0, 0, 1⟩ [192, 0, 0, 80, 0, 0, 0, 9, 0, 0, 0,
        12, 80, 16, 0, 42, 219, 67, 0, 0] exampleServer).self.remoteIP := by decide +kernel
  have hrepeats : Repeats ⟨10, 0, 0, 1⟩
      [192, 0, 0, 80, 0, 0, 0, 9, 0, 0, 0, 12, 80, 16, 0, 42, 219, 67, 0, 0]
        exampleServer.self := ⟨by decide +kernel, by decide +kernel⟩
  exact (handleSegment_inert_iff exampleApp.callbacks _ (by decide +kernel) hsum).mpr
    (.inr hrepeats)

/-- The ACK of the handshake with its window field damaged, on a listener's connection. -/
theorem damagedWindow_stored :
    let buf : Bytes := [192, 0, 0, 80, 0, 0, 0, 8, 0, 0, 0, 12, 80, 16, 0, 0, 219, 67, 0, 0]
    exampleServer.self.tcp.isSome ∧
      ¬ checksumOk buf exampleServer.stack.ip.ipAddress
        (arrive ⟨10, 0, 0, 1⟩ buf exampleServer).self.remoteIP ∧
      ¬ Inert exampleServer (handleSegment exampleApp ⟨10, 0, 0, 1⟩ buf exampleServer) := by
  refine ⟨by decide +kernel, by decide +kernel, fun h => ?_⟩
  exact absurd h.connection.remoteWindow (by decide +kernel)

/-! ### Silence -/

/-- Between two worlds no segment has been sent. -/
def Silent (w w' : World α) : Prop := segmentsOf w'.stack.log = segmentsOf w.stack.log

/-- The host can send a header to the peer. -/
def CanAnswer (w : World α) : Prop :=
  20 ≤ w.stack.room ∧ (IPHandler.getMACForIP w.self.remoteIP w.stack).isSome

theorem Tells.silent {w w' : World α} {d : Option (Bytes × Bool)} (h : Tells w d w') :
    Silent w w' := by
  obtain ⟨l, port, hl, hp, -⟩ := h.log
  rw [Silent, hl, segmentsOf_append, Tells.segmentsOf_eq_nil hp, List.append_nil]

theorem silent_sendSegment_iff (cb : Callbacks α) {control : UInt8} (hsyn : ¬ has control SYN)
    (seq ack : UInt32) {w : World α} (htcp : w.self.tcp.isSome) :
    Silent w ((sendSegment cb control 0 seq ack).exec w) ↔ ¬ CanAnswer w := by
  have hopt : (optionBytes control w.stack).length = 0 := by rw [optionBytes, if_neg hsyn]; rfl
  by_cases hroom : 20 ≤ w.stack.room
  · have hfit : (0 : UInt16).toNat + 20 + (optionBytes control w.stack).length ≤ w.stack.room := by
      rw [hopt]
      exact hroom
    obtain ⟨l, hlog, -, hpackets⟩ := (sendSegment_transmitted cb control 0 seq ack htcp hfit).2.log
    rw [Silent, Proc.exec, hlog, segmentsOf_append, List.append_right_eq_self, segmentsOf, hpackets,
      CanAnswer, and_iff_right hroom]
    by_cases hroute : (IPHandler.getMACForIP w.self.remoteIP w.stack).isSome
    · rw [if_pos hroute]
      exact iff_of_false (by simp) (not_not_intro hroute)
    · rw [if_neg hroute]
      exact iff_of_true rfl hroute
  · have hshort := (sendSegment_short cb control seq ack w htcp (by omega)).2
    refine iff_of_true ?_ fun h => hroom h.1
    rw [Silent, Proc.exec, hshort.rest]

section App

variable (a : App α) {w : World α}

theorem silent_sendACK_iff (htcp : w.self.tcp.isSome) :
    Silent w (sendACK a.callbacks w) ↔ ¬ CanAnswer w :=
  silent_sendSegment_iff a.callbacks (by decide) 0 0 htcp

theorem silent_reset_iff (htcp : w.self.tcp.isSome) (seq ack : UInt32) :
    Silent w ((reset a.callbacks seq ack).exec w) ↔ ¬ CanAnswer w := by
  obtain ⟨control, hcontrol⟩ : ∃ control,
    control = if ack = w.self.remoteSeq then RST ||| ACK else RST := ⟨_, rfl⟩
  have hsyn : ¬ has control SYN := by
    rw [hcontrol]
    split <;> decide
  rw [← silent_sendSegment_iff a.callbacks hsyn seq ack htcp]
  unfold reset Proc.exec
  rw [Proc.run_read_bind, ← hcontrol]
  rcases hrun : (sendSegment a.callbacks control 0 seq ack).run w with ⟨_ | r, w'⟩
  · rw [Proc.run_bind_of_none hrun]
  · rw [Proc.run_bind_of_some hrun]
    have hfire : Silent w' (fire a.callbacks (.onReset false) w') := (Tells.fire a _ w').silent
    exact Eq.congr_left hfire

/-! ### RSTs -/

/-- One of the tests before the RST test answers the segment: case 2 with a reset, case 3 with
an ACK. -/
def Answers (buf : Bytes) (s : Socket) : Prop :=
  (s.state = LISTEN ∨ s.state = SYN_SENT ∨ s.state = SYN_RECEIVED) ∧
      has (segControl buf) ACK ∧ segAck buf > s.localSeq ∨
    synchronized s.state ∧
      (has (segControl buf) ACK ∧ segAck buf > s.localSeq ∨ segSeq buf > s.remoteSeq)

/-- An answer changes nothing of the socket. -/
theorem handleValid_answers {buf : Bytes} (htcp : w.self.tcp.isSome)
    (hrst : has (segControl buf) RST) (h : Answers buf w.self) :
    let w' := handleValid a.callbacks buf (segControl buf) (segAck buf) (segSeq buf) w
    (Silent w w' ↔ ¬ CanAnswer w) ∧ w'.self = w.self := by
  dsimp only
  unfold handleValid
  rw [if_neg fun h => h.2 hrst, if_neg fun h => h.2.2 hrst]
  split_ifs with h2 h3 h3'
  · exact ⟨silent_reset_iff a htcp _ _, (emits_reset a htcp _ _).2⟩
  · exact ⟨silent_sendACK_iff a htcp, (emits_sendACK a htcp).2⟩
  · exact ⟨silent_sendACK_iff a htcp, (emits_sendACK a htcp).2⟩
  · rcases h with h | ⟨hsync, h | h⟩
    · exact absurd h h2
    · exact absurd ⟨hsync, h⟩ h3
    · exact absurd ⟨hsync, h⟩ h3'

theorem handleValid_unanswered (cb : Callbacks α) {buf : Bytes}
    (hrst : has (segControl buf) RST) (h : ¬ Answers buf w.self) :
    handleValid cb buf (segControl buf) (segAck buf) (segSeq buf) w =
      handleReset cb (segAck buf) (segSeq buf) w := by
  unfold handleValid
  rw [if_neg fun h => h.2 hrst, if_neg fun h => h.2.2 hrst, if_neg fun h2 => h (.inl h2),
    if_neg fun h3 => h (.inr ⟨h3.1, .inl h3.2⟩), if_neg fun h3 => h (.inr ⟨h3.1, .inr h3.2⟩),
    if_pos hrst]

/-- A RST that closes the socket, unless it is answered. -/
def Closes (buf : Bytes) (s : Socket) : Prop :=
  s.state = SYN_SENT ∧ segAck buf = s.localSeq ∨ segSeq buf = s.remoteSeq ∧ s.state ≠ LISTEN

theorem handleReset_closes {buf : Bytes} (h : Closes buf w.self) :
    Silent w (handleReset a.callbacks (segAck buf) (segSeq buf) w) ∧
      (handleReset a.callbacks (segAck buf) (segSeq buf) w).self =
        { w.self with state := w.self.down, stateTime := w.stack.millis } := by
  have hclosed : Silent w (closed a.callbacks w) := (Tells.closed a w).silent
  have hreset : Silent w (fire a.callbacks (.onReset true) (closed a.callbacks w)) :=
    ((Tells.closed a w).trans (Tells.fire a _ _)).silent
  unfold handleReset
  split_ifs with hown hseq hlisten hreceived
  · exact ⟨hreset, self_closed a w⟩
  · exact absurd (h.resolve_left hown).2 (not_not_intro hlisten)
  · exact ⟨hclosed, self_closed a w⟩
  · exact ⟨hreset, self_closed a w⟩
  · exact absurd (h.resolve_left hown).1.symm hseq

theorem handleReset_ignored (cb : Callbacks α) {buf : Bytes} (h : ¬ Closes buf w.self) :
    handleReset cb (segAck buf) (segSeq buf) w = w := by
  unfold handleReset
  split_ifs with hown hseq hlisten hreceived
  · exact absurd (.inl hown) h
  · rfl
  · exact absurd (.inr ⟨hseq.symm, hlisten⟩) h
  · exact absurd (.inr ⟨hseq.symm, hlisten⟩) h
  · rfl

/-- The states of a connection beyond LISTEN and SYN_SENT. -/
def openedStates : List UInt8 := SYN_RECEIVED :: connectionStates

/-- What a RST should do: nothing is sent, a listener goes on listening, SYN_SENT ends only if
the RST acknowledges the SYN, and any other connection ends if the RST is in order and is left
alone if it is not. -/
structure TakesReset (buf : Bytes) (w w' : World α) : Prop where
  silent : Silent w w'
  listen : w.self.state = LISTEN → w'.self.state = LISTEN
  synSent : w.self.state = SYN_SENT → w'.self.state ∈ closedStates →
    has (segControl buf) ACK ∧ segAck buf = w.self.localSeq
  closes : w.self.state ∈ openedStates →
    (w'.self.state ∈ closedStates ↔ segSeq buf = w.self.remoteSeq)
  ignores : w.self.state ∈ openedStates → segSeq buf ≠ w.self.remoteSeq →
    SameConnection w.self w'.self

/-- When `handleSegment` does so. -/
structure ResetFits (buf : Bytes) (w : World α) : Prop where
  silent : Answers buf w.self → ¬ CanAnswer w
  synSent : w.self.state = SYN_SENT → ¬ Answers buf w.self → Closes buf w.self →
    has (segControl buf) ACK ∧ segAck buf = w.self.localSeq
  closes : w.self.state ∈ openedStates → segSeq buf = w.self.remoteSeq → ¬ Answers buf w.self
  ignores : w.self.state ∈ openedStates → segSeq buf ≠ w.self.remoteSeq →
    segWindow buf = w.self.remoteWindow

/-- A RST is treated as it should be if and only if an earlier test that answers it cannot send
its answer and does not keep it from closing the connection, SYN_SENT does not take a number
that is not an acknowledgement for one, and an ignored RST repeats the window of the
connection. -/
theorem handleSegment_reset_iff (sourceIP : IPAddr) {buf : Bytes} (htcp : w.self.tcp.isSome)
    (hsum : checksumOk buf w.stack.ip.ipAddress w.self.remoteIP)
    (hrst : has (segControl buf) RST) :
    TakesReset buf w (handleSegment a.callbacks sourceIP buf w) ↔ ResetFits buf w := by
  have hsyn : segControl buf ≠ SYN := by
    rintro h
    rw [h] at hrst
    exact absurd hrst (by decide)
  have hip : (arrive sourceIP buf w).self.remoteIP = w.self.remoteIP := if_neg fun h => hsyn h.2
  have harrive : arrive sourceIP buf w = w.setSelf { w.self with
      recvBuffer := some [], remoteWindow := segWindow buf } :=
    congrArg (fun ip => w.setSelf { w.self with
      recvBuffer := some [], remoteWindow := segWindow buf, remoteIP := ip }) hip
  rw [handleSegment_valid a.callbacks htcp (by rw [hip]; exact hsum), harrive]
  generalize hw₁ : w.setSelf { w.self with
    recvBuffer := some [], remoteWindow := segWindow buf } = w₁
  have htcp₁ : w₁.self.tcp.isSome := by rw [← hw₁]; exact htcp
  have hanswers : Answers buf w₁.self ↔ Answers buf w.self := by rw [← hw₁]; exact Iff.rfl
  have hcloses : Closes buf w₁.self ↔ Closes buf w.self := by rw [← hw₁]; exact Iff.rfl
  have hcan : CanAnswer w₁ ↔ CanAnswer w := by rw [← hw₁]; exact Iff.rfl
  have hsilent : ∀ w', Silent w₁ w' ↔ Silent w w' := by rw [← hw₁]; exact fun _ => Iff.rfl
  have hstate : w₁.self.state = w.self.state := by rw [← hw₁]; rfl
  have hnotclosed : w.self.state ∈ openedStates → w.self.state ∉ closedStates :=
    (by decide : ∀ s ∈ openedStates, s ∉ closedStates) _
  have hnotsent : w.self.state ∈ openedStates → w.self.state ≠ SYN_SENT ∧ w.self.state ≠ LISTEN :=
    (by decide : ∀ s ∈ openedStates, s ≠ SYN_SENT ∧ s ≠ LISTEN) _
  -- a socket that is left as it is has only noted the window
  have hkept : SameConnection w.self w₁.self ↔ segWindow buf = w.self.remoteWindow := by
    rw [← hw₁]
    exact ⟨SameConnection.remoteWindow, fun h => ⟨rfl, rfl, rfl, rfl, rfl, h, rfl, rfl, rfl, rfl⟩⟩
  by_cases hans : Answers buf w.self
  · obtain ⟨hsil, hself⟩ := handleValid_answers a htcp₁ hrst (hanswers.mpr hans)
    generalize handleValid a.callbacks buf (segControl buf) (segAck buf) (segSeq buf) w₁ = w₂
      at hsil hself ⊢
    rw [hsilent, hcan] at hsil
    have hstate₂ : w₂.self.state = w.self.state := by rw [hself, hstate]
    constructor
    · intro h
      refine ⟨fun _ => hsil.mp h.silent, fun _ hn => absurd hans hn, fun ho hseq => ?_,
        fun ho hseq => ?_⟩
      · have hmem := (h.closes ho).mpr hseq
        rw [hstate₂] at hmem
        exact absurd hmem (hnotclosed ho)
      · have hsame := h.ignores ho hseq
        rw [hself] at hsame
        exact hkept.mp hsame
    · intro h
      refine ⟨hsil.mpr (h.silent hans), fun hl => hstate₂.trans hl, fun hs hmem => ?_,
        fun ho => ?_, fun ho hseq => ?_⟩
      · rw [hstate₂, hs] at hmem
        exact absurd hmem (by decide)
      · rw [hstate₂]
        exact iff_of_false (hnotclosed ho) fun hseq => h.closes ho hseq hans
      · rw [hself]
        exact hkept.mpr (h.ignores ho hseq)
  · rw [handleValid_unanswered a.callbacks hrst (hanswers.not.mpr hans)]
    by_cases hcl : Closes buf w.self
    · obtain ⟨hsil, hself⟩ := handleReset_closes a (hcloses.mpr hcl)
      generalize handleReset a.callbacks (segAck buf) (segSeq buf) w₁ = w₂ at hsil hself ⊢
      have hdown : w₂.self.state ∈ closedStates := by
        have hmem := closed_mem (App.calm a w₁.app) w₁
        rw [self_closed] at hmem
        rwa [hself]
      have hseq : w.self.state ∈ openedStates → segSeq buf = w.self.remoteSeq := fun ho =>
        (hcl.resolve_left fun h => (hnotsent ho).1 h.1).1
      constructor
      · intro h
        exact ⟨fun h' => absurd h' hans, fun hs _ _ => h.synSent hs hdown, fun _ _ => hans,
          fun ho hne => absurd (hseq ho) hne⟩
      · intro h
        refine ⟨(hsilent _).mp hsil, fun hl => ?_, fun hs _ => h.synSent hs hans hcl,
          fun ho => iff_of_true hdown (hseq ho), fun ho hne => absurd (hseq ho) hne⟩
        exact absurd (hcl.resolve_left (by rw [hl]; exact fun h => absurd h.1 (by decide))).2
          (not_not_intro hl)
    · rw [handleReset_ignored a.callbacks (hcloses.not.mpr hcl)]
      have hseq : w.self.state ∈ openedStates → segSeq buf ≠ w.self.remoteSeq := fun ho h =>
        hcl (.inr ⟨h, (hnotsent ho).2⟩)
      constructor
      · intro h
        exact ⟨fun h' => absurd h' hans, fun _ _ h' => absurd h' hcl,
          fun ho h' => absurd h' (hseq ho), fun ho hne => hkept.mp (h.ignores ho hne)⟩
      · intro h
        refine ⟨(hsilent _).mp rfl, fun hl => hstate.trans hl, fun hs hmem => ?_, fun ho => ?_,
          fun ho hne => hkept.mpr (h.ignores ho hne)⟩
        · rw [hstate, hs] at hmem
          exact absurd hmem (by decide)
        · rw [hstate]
          exact iff_of_false (hnotclosed ho) (hseq ho)

end App

/-- A RST in order, on a listener's connection. -/
theorem handleSegment_reset_inOrder :
    TakesReset [192, 0, 0, 80, 0, 0, 0, 8, 0, 0, 0, 12, 80, 20, 0, 42, 219, 63, 0, 0] exampleServer
      (handleSegment exampleApp ⟨10, 0, 0, 1⟩
        [192, 0, 0, 80, 0, 0, 0, 8, 0, 0, 0, 12, 80, 20, 0, 42, 219, 63, 0, 0] exampleServer) := by
  have hsum : checksumOk [192, 0, 0, 80, 0, 0, 0, 8, 0, 0, 0, 12, 80, 20, 0, 42, 219, 63, 0, 0]
      exampleServer.stack.ip.ipAddress exampleServer.self.remoteIP := by decide +kernel
  have hanswers : ¬ Answers [192, 0, 0, 80, 0, 0, 0, 8, 0, 0, 0, 12, 80, 20, 0, 42, 219, 63, 0, 0]
      exampleServer.self := by
    unfold Answers
    decide +kernel
  refine (handleSegment_reset_iff exampleApp _ (by decide +kernel) hsum (by decide +kernel)).mpr
    ⟨fun h => absurd h hanswers, fun h => absurd h (by decide +kernel), fun _ _ => hanswers,
      fun _ h => absurd ?_ h⟩
  decide +kernel

/-- A RST in order that acknowledges too much, on a listener's connection: it is answered with
an ACK, and the connection stays. -/
theorem aheadReset_answered :
    let buf : Bytes := [192, 0, 0, 80, 0, 0, 0, 8, 0, 0, 0, 99, 80, 20, 0, 42, 218, 232, 0, 0]
    exampleServer.self.tcp.isSome ∧
      checksumOk buf exampleServer.stack.ip.ipAddress exampleServer.self.remoteIP ∧
      has (segControl buf) RST ∧
      ¬ TakesReset buf exampleServer
        (handleSegment exampleApp ⟨10, 0, 0, 1⟩ buf exampleServer) := by
  refine ⟨by decide +kernel, by decide +kernel, by decide +kernel, fun h => ?_⟩
  exact absurd ((h.closes (by decide +kernel)).mpr (by decide +kernel)) (by decide +kernel)

/-! ### Strays -/

/-- A stray is refused as it should be: the socket goes on listening, and one RST goes to the
port and address the stray came from, with the numbers of RFC 793. -/
structure Refused (sourceIP : IPAddr) (buf : Bytes) (w w' : World α) : Prop where
  listens : w'.self.state = LISTEN
  answer : ∃ p, segmentsOf w'.stack.log = segmentsOf w.stack.log ++ [p] ∧ isReset p ∧
    p.1 = sourceIP ∧ (viewOf p.2.2).readNet16 2 = (viewOf buf).readNet16 0 ∧
    if has (segControl buf) ACK then segSeq p.2.2 = segAck buf
    else segSeq p.2.2 = 0 ∧ segAck p.2.2 =
      segSeq buf + (segPayloadSize buf).toUInt32 + if has (segControl buf) FIN then 1 else 0

/-- The size of a segment, its header included, is the length of what it says. -/
def CountsHeader (buf : Bytes) : Prop :=
  (viewOf buf).size.toUInt32 =
    (segPayloadSize buf).toUInt32 + if has (segControl buf) FIN then 1 else 0

/-- A reset that can be sent is the only segment sent. -/
theorem reset_segment (a : App α) {w : World α} (htcp : w.self.tcp.isSome) (seq ack : UInt32)
    (hcan : CanAnswer w) :
    ∃ p, segmentsOf ((reset a.callbacks seq ack).exec w).stack.log =
        segmentsOf w.stack.log ++ [p] ∧ isReset p ∧ p.1 = w.self.remoteIP ∧
      (viewOf p.2.2).readNet16 2 = some w.self.remotePort ∧ segSeq p.2.2 = seq ∧
      segAck p.2.2 = ack := by
  obtain ⟨hemits, hself⟩ := emits_reset a htcp seq ack
  obtain ⟨l, hlog, -, hleaves⟩ := hemits.log
  have hne : segmentsOf l ≠ [] := by
    refine hleaves.sent _ rfl (by rw [hself]; exact hcan.2) ?_
    have hsyn : ¬ has (if ack = w.self.remoteSeq then RST ||| ACK else RST) SYN := by
      split <;> decide
    rw [Sending.size, if_neg hsyn]
    exact hcan.1
  obtain ⟨s, p, hs, hp, hseg⟩ := hleaves.segment.resolve_left hne
  obtain rfl := Option.some.inj hs
  have hrst : has (segControl p.2.2) RST := by
    rw [hseg.control]
    dsimp only
    split <;> decide
  refine ⟨p, by rw [hlog, segmentsOf_append, hp], ?_, ?_, ?_, hseg.seq, hseg.ack⟩
  · rw [isReset, hseg.protocol, hrst]
    rfl
  · rw [hseg.destination, hself]
  · rw [hseg.destPort, hself]

/-- The numbers of a refusal. -/
theorem refuse_eq (cb : Callbacks α) (buf : Bytes) (w : World α) :
    refuse cb (viewOf buf) (segControl buf) (segAck buf) (segSeq buf) w =
      (reset cb (if has (segControl buf) ACK then segAck buf else 0)
        (if has (segControl buf) ACK then 0 else
          segSeq buf + (viewOf buf).size.toUInt32)).exec w := by
  unfold refuse
  split <;> rfl

/-- In LISTEN a segment without SYN and RST is refused at once. -/
theorem handleValid_stray (cb : Callbacks α) {buf : Bytes} {w : World α}
    (hstate : w.self.state = LISTEN) (hsyn : ¬ has (segControl buf) SYN)
    (hrst : ¬ has (segControl buf) RST) :
    handleValid cb buf (segControl buf) (segAck buf) (segSeq buf) w =
      refuse cb (viewOf buf) (segControl buf) (segAck buf) (segSeq buf) w := by
  unfold handleValid
  rw [if_neg, if_pos ⟨hstate, hsyn, hrst⟩]
  rintro ⟨h, -⟩
  rw [hstate] at h
  exact absurd h (by decide)

/-- A stray whose checksum is right for its sender is refused towards that sender if and only
if the listener remembers the sender as the peer of an earlier connection, a header can be sent
to it, and the stray has an ACK or counts its header as payload. -/
theorem handleSegment_stray_iff (a : App α) {w : World α} (htcp : w.self.tcp.isSome)
    (hstate : w.self.state = LISTEN) {sourceIP : IPAddr} {buf : Bytes}
    (hsum : checksumOk buf w.stack.ip.ipAddress sourceIP)
    (hsyn : ¬ has (segControl buf) SYN) (hrst : ¬ has (segControl buf) RST) :
    Refused sourceIP buf w (handleSegment a.callbacks sourceIP buf w) ↔
      w.self.remoteIP = sourceIP ∧ (viewOf buf).readNet16 0 = some w.self.remotePort ∧
        CanAnswer w ∧ (has (segControl buf) ACK ∨ CountsHeader buf) := by
  have hopt : segControl buf ≠ SYN := by
    intro h
    rw [h] at hsyn
    exact absurd rfl hsyn
  have hip : (arrive sourceIP buf w).self.remoteIP = w.self.remoteIP := if_neg fun h => hopt h.2
  by_cases hremote : checksumOk buf w.stack.ip.ipAddress w.self.remoteIP
  · rw [handleSegment_valid a.callbacks htcp (by rw [hip]; exact hremote),
      handleValid_stray a.callbacks (w := arrive sourceIP buf w) hstate hsyn hrst, refuse_eq]
    have hcan : CanAnswer (arrive sourceIP buf w) ↔ CanAnswer w := by
      unfold CanAnswer
      rw [hip]
      exact Iff.rfl
    have hlog : (arrive sourceIP buf w).stack.log = w.stack.log := rfl
    have hport : (arrive sourceIP buf w).self.remotePort = w.self.remotePort := rfl
    have hlisten : (arrive sourceIP buf w).self.state = LISTEN := hstate
    replace htcp : (arrive sourceIP buf w).self.tcp.isSome := htcp
    generalize arrive sourceIP buf w = w₁ at hip hcan hlog hport hlisten htcp ⊢
    by_cases hsends : CanAnswer w
    · obtain ⟨p, hp, hisReset, hdest, hdestPort, hseq, hack⟩ :=
        reset_segment a htcp (if has (segControl buf) ACK then segAck buf else 0)
          (if has (segControl buf) ACK then 0 else segSeq buf + (viewOf buf).size.toUInt32)
          (hcan.mpr hsends)
      rw [hlog] at hp
      rw [hip] at hdest
      rw [hport] at hdestPort
      constructor
      · rintro ⟨-, q, hq, -, hdest', hport', hnumbers⟩
        obtain rfl : q = p := List.singleton_injective (List.append_cancel_left (hq.symm.trans hp))
        refine ⟨hdest.symm.trans hdest', hport'.symm.trans hdestPort, hsends, ?_⟩
        by_cases hA : has (segControl buf) ACK
        · exact .inl hA
        · rw [if_neg hA] at hnumbers hack
          refine .inr ?_
          rw [hack, UInt32.add_assoc] at hnumbers
          exact (UInt32.add_right_inj _).mp hnumbers.2
      · rintro ⟨rfl, hport', -, hcount⟩
        refine ⟨?_, p, hp, hisReset, hdest, hdestPort.trans hport'.symm, ?_⟩
        · rw [(emits_reset a htcp _ _).2]
          exact hlisten
        · by_cases hA : has (segControl buf) ACK
          · rw [if_pos hA] at hseq ⊢
            exact hseq
          · rw [if_neg hA] at hseq hack ⊢
            refine ⟨hseq, ?_⟩
            rw [hack, UInt32.add_assoc, hcount.resolve_left hA]
    · refine iff_of_false ?_ fun h => hsends h.2.2.1
      rintro ⟨-, q, hq, -⟩
      have hsilent := (silent_reset_iff a htcp (if has (segControl buf) ACK then segAck buf else 0)
        (if has (segControl buf) ACK then 0 else
          segSeq buf + (viewOf buf).size.toUInt32)).mpr (hcan.not.mpr hsends)
      rw [Silent, hlog] at hsilent
      rw [hsilent] at hq
      exact absurd hq (by simp)
  · refine iff_of_false ?_ fun h => hremote (by rw [h.1]; exact hsum)
    rintro ⟨-, q, hq, -⟩
    have hlog : (handleSegment a.callbacks sourceIP buf w).stack.log = w.stack.log := by
      rcases handleSegment_invalid a.callbacks htcp (by rw [hip]; exact hremote) with h | h <;>
        rw [h] <;> rfl
    rw [hlog] at hq
    exact absurd hq (by simp)

/-- The listener after its connection was reset. -/
def exampleListenAgain : World Unit :=
  handleSegment exampleApp ⟨10, 0, 0, 1⟩
    [192, 0, 0, 80, 0, 0, 0, 8, 0, 0, 0, 12, 80, 20, 0, 42, 219, 63, 0, 0] exampleServer

/-- A late ACK of the connection that was reset. -/
theorem handleSegment_stray_late :
    Refused ⟨10, 0, 0, 1⟩ exampleAck exampleListenAgain
      (handleSegment exampleApp ⟨10, 0, 0, 1⟩ exampleAck exampleListenAgain) := by
  have hcan : CanAnswer exampleListenAgain := ⟨by decide +kernel, by decide +kernel⟩
  have hack : has (segControl exampleAck) ACK := by decide +kernel
  exact (handleSegment_stray_iff exampleApp (by decide +kernel) (by decide +kernel)
    (by decide +kernel) (by decide +kernel) (by decide +kernel)).mpr
      ⟨by decide +kernel, by decide +kernel, hcan, .inl hack⟩

/-- A listener that has had no connection drops the same ACK. -/
theorem firstStray_dropped :
    let w := exampleListener.world 0
    w.self.tcp.isSome ∧ w.self.state = LISTEN ∧
      checksumOk exampleAck w.stack.ip.ipAddress ⟨10, 0, 0, 1⟩ ∧
      ¬ has (segControl exampleAck) SYN ∧ ¬ has (segControl exampleAck) RST ∧
      ¬ Refused ⟨10, 0, 0, 1⟩ exampleAck w
        (handleSegment exampleApp ⟨10, 0, 0, 1⟩ exampleAck w) := by
  refine ⟨by decide +kernel, by decide +kernel, by decide +kernel, by decide +kernel,
    by decide +kernel, ?_⟩
  rintro ⟨-, p, hp, -⟩
  have hsilent : segmentsOf (handleSegment exampleApp ⟨10, 0, 0, 1⟩ exampleAck
      (exampleListener.world 0)).stack.log = segmentsOf (exampleListener.world 0).stack.log := by
    decide +kernel
  rw [hsilent] at hp
  exact absurd hp (by simp)

end Socket

end AtmegaNet
