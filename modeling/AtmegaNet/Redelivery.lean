import AtmegaNet.ARPHandler
import AtmegaNet.Rejection
import AtmegaNet.Refinement
import AtmegaNet.StateDiagram

/-!
# Segments that are delivered twice

A network may deliver a segment twice, and a peer that misses an ACK sends its segment again.
The second copy should find nothing to do: this module says exactly when that is so.

`handleSegment` knows a duplicate by its sequence number, but only in the states that pass for
ESTABLISHED. Elsewhere a segment that is not an ACK of everything sent ends in `forceClose`, the
second copy of one that has just been acted on no less than any other.

## Main results

* `Conn.Settled`, `Receives.leaves_iff`: the connections a segment leaves as they are.
* `Conn.Repeatable`, `Receives.repeats_iff`: the connections that a segment makes one of these.
* `handleSegment_again_iff`: the same for `handleSegment`.
-/

open Procedure

namespace AtmegaNet

open Socket

/-! ### A connection and a segment -/

/-- A segment has a payload for the application. -/
def Segment.Carries (s : Segment) : Prop := s.payloadSize > 0 ∧ s.payload.length > 0

namespace Conn

variable (k : Limits) (s : Segment) (c : Conn)

instance : Decidable (c.Refuses s) := by unfold Refuses; infer_instance

instance : Decidable (c.Challenges s) := by unfold Challenges; infer_instance

instance : Decidable (c.Opens s) := by unfold Opens; infer_instance

instance : Decidable c.Open := by unfold Open; infer_instance

/-- A segment is the next one of an open connection. -/
def Expects : Prop := c.Admits s ∧ c.Open ∧ has s.control ACK ∧ s.seq = c.remoteSeq

/-- A segment is answered with a RST, which leaves the host if `answers` holds. -/
def Resets : Prop :=
  c.Refuses s ∨
    c.Admits s ∧ ¬ c.Opens s ∧ ¬ c.Open ∧ ¬ c.Acknowledged s ∧ c.state ≠ TIME_WAIT

/-- A segment leaves the connection as it is and is not answered with a RST. The cascade is
that of `handleSegment`. -/
def Settled (answers : Prop) : Prop :=
  if c.Refuses s then ¬ answers
  else if c.Challenges s then True
  else if c.Opens s then c.state = LISTEN ∧ k.room < 24 ∧ s.seq + 1 = c.remoteSeq
  else if c.Open then
    has s.control ACK → s.seq = c.remoteSeq →
      ¬ has s.control FIN ∧ ¬ takes s ∧ ¬ (s.ack = c.localSeq ∧ has c.state AWAITING_ACK)
  else if c.Acknowledged s then c.afterAck k.down = c.state
  else k.down = c.state ∧ ¬ answers

/-- A second copy of the segment finds nothing to do. The cascade is again that of
`handleSegment`. `again` is the answer the application gives to the payload once the
connection is established, `answers` says whether a RST that answers the second copy leaves the
host, when the first copy has been answered and when it has not. -/
def Repeatable (again : Bool) (answers : Bool → Prop) : Prop :=
  if c.Refuses s then ¬ answers true
  else if c.Challenges s then True
  else if c.Opens s then s.control = SYN → c.state = LISTEN ∧ k.room < 24
  else if c.Open then
    has s.control ACK → s.seq = c.remoteSeq →
      if has s.control FIN then c.localSeq ≤ s.ack ∨ c.acknowledges s < s.seq
      else s.Carries → s.accepted
  else if c.Acknowledged s then
    if c.state = SYN_RECEIVED then
      s.seq = c.remoteSeq → ¬ has s.control FIN ∧ ¬ takes { s with accepted := again }
    else if c.state = LAST_ACK then answers false → k.down = LISTEN ∧ has s.control SYN
    else True
  else if k.down = LISTEN ∧ s.control = SYN then k.room < 24 ∧ s.seq + 1 = c.remoteSeq
  else ¬ answers c.abortion.isSome

end Conn

/-- A step leaves the connection as it is, and no RST leaves the host. -/
structure Conn.Untouched (answers : Prop) (c c' : Conn) (e : Effect) : Prop where
  state : c'.state = c.state
  localSeq : c'.localSeq = c.localSeq
  remoteSeq : c'.remoteSeq = c.remoteSeq
  noReset : ∀ o, e.sends = some o → has o.control RST → ¬ answers

/-! ### What a segment leaves as it is -/

section Settled

variable {k : Limits} {s : Segment} {c c' : Conn} {e : Effect} {answers : Prop}

/-- A segment that is admitted is not refused. -/
theorem Conn.Admits.not_refuses (h : c.Admits s) : ¬ c.Refuses s := h.1

/-- A segment that is admitted is not challenged. -/
theorem Conn.Admits.not_challenges (h : c.Admits s) : ¬ c.Challenges s := h.2.1

/-- The cascade of `Settled`, for a segment that gets past the first tests. -/
theorem Conn.Admits.settled_iff (h : c.Admits s) : c.Settled k s answers ↔
    if c.Opens s then c.state = LISTEN ∧ k.room < 24 ∧ s.seq + 1 = c.remoteSeq
    else if c.Open then
      has s.control ACK → s.seq = c.remoteSeq →
        ¬ has s.control FIN ∧ ¬ Conn.takes s ∧ ¬ (s.ack = c.localSeq ∧ has c.state AWAITING_ACK)
    else if c.Acknowledged s then c.afterAck k.down = c.state
    else k.down = c.state ∧ ¬ answers := by
  rw [Conn.Settled, if_neg h.not_refuses, if_neg h.not_challenges]

/-- Beyond the handshake no segment is refused. -/
theorem Conn.not_refuses (h : c.state ∉ [CLOSED, LISTEN, SYN_SENT, SYN_RECEIVED]) :
    ¬ c.Refuses s := by
  simp only [List.mem_cons, List.not_mem_nil, or_false, not_or] at h
  rintro (⟨hs, -⟩ | ⟨hs, -⟩ | ⟨hs | hs | hs, -⟩)
  · exact h.1 hs
  · exact h.2.1 hs
  · exact h.2.1 hs
  · exact h.2.2.1 hs
  · exact h.2.2.2 hs

/-- Nothing opens a connection in the other states. -/
theorem Conn.not_opens (h : c.state ∉ [LISTEN, SYN_SENT]) : ¬ c.Opens s := by
  simp only [List.mem_cons, List.not_mem_nil, or_false, not_or] at h
  rintro (⟨hs, -⟩ | ⟨hs, -⟩ | ⟨hs, -⟩)
  · exact h.1 hs
  · exact h.2 hs
  · exact h.2 hs

/-- An open connection is in none of the other states. -/
theorem Conn.Open.not_mem {l : List UInt8} (h : c.Open)
    (hl : ∀ state ∈ l, state &&& 0x0F ≠ ESTABLISHED) : c.state ∉ l :=
  fun hmem => hl _ hmem h

/-- Nothing opens an open connection. -/
theorem Conn.Open.not_opens (h : c.Open) : ¬ c.Opens s := Conn.not_opens (h.not_mem (by decide))

/-- A payload that is taken moves the connection on. -/
theorem add_payloadSize_ne (seq : UInt32) {size : UInt16} (h : size > 0) :
    seq + size.toUInt32 ≠ seq := by
  intro heq
  have hzero : size.toUInt32 = 0 := by
    rw [← UInt32.add_right_inj seq, heq, UInt32.add_zero]
  have hnat := congrArg UInt32.toNat hzero
  rw [gt_iff_lt, UInt16.lt_iff_toNat_lt] at h
  rw [UInt16.toNat_toUInt32] at hnat
  exact absurd hnat (Nat.ne_of_gt h)

/-- A number is not its successor, in 32 bits either. -/
theorem add_one_ne (seq : UInt32) : seq + 1 ≠ seq := by
  intro heq
  rw [← UInt32.add_zero seq, UInt32.add_assoc, UInt32.add_right_inj] at heq
  exact absurd heq (by decide)

/-- The number a segment is acknowledged with is its own if and only if it has nothing that
counts. -/
theorem Conn.acknowledges_eq_iff (hseq : s.seq = c.remoteSeq) :
    c.acknowledges s = c.remoteSeq ↔ ¬ Conn.takes s ∧ ¬ has s.control FIN := by
  unfold Conn.acknowledges
  split_ifs with htakes hfin
  · refine iff_of_false ?_ fun h => h.1 htakes
    have hsize : s.payloadSize > 0 := by
      simp only [Conn.takes, Bool.and_eq_true, decide_eq_true_eq] at htakes
      exact htakes.1.1
    rw [← hseq]
    exact add_payloadSize_ne _ hsize
  · exact iff_of_false (add_one_ne _) fun h => h.2 hfin
  · exact iff_of_true rfl ⟨htakes, hfin⟩

/-- The state of an open connection after the next segment is its own if and only if there is
no FIN and nothing to clear. -/
theorem Conn.Open.state_inOrder_iff (h : c.Open) :
    (c.inOrder s).state = c.state ↔
      ¬ has s.control FIN ∧ ¬ (s.ack = c.localSeq ∧ has c.state AWAITING_ACK) := by
  have hcleared : ∀ state : UInt8, has state AWAITING_ACK → state &&& 0x0F ≠ state :=
    forall_uint8 (by decide +kernel)
  have hclosed : CLOSE_WAIT ≠ c.state := (h.ne (by decide)).symm
  unfold Conn.inOrder
  dsimp only
  by_cases hfin : has s.control FIN
  · rw [if_pos hfin]
    refine iff_of_false ?_ fun h => h.1 hfin
    split
    · exact hclosed
    · exact hclosed
  · rw [if_neg hfin]
    split
    case isTrue hclear => exact iff_of_false (hcleared _ hclear.2) fun h => h.2 hclear
    case isFalse hclear => exact iff_of_true rfl ⟨hfin, hclear⟩

/-- A segment without RST leaves a connection untouched if and only if it is settled. -/
theorem Receives.untouched_iff (hrst : ¬ has s.control RST) (h : Receives k s c e c') :
    Conn.Untouched answers c c' e ↔ c.Settled k s answers := by
  cases h with
  | @refuse control seq ack hrefuses hcontrol =>
      rw [Conn.Settled, if_pos hrefuses]
      constructor
      · intro h
        refine h.noReset _ rfl ?_
        rcases hcontrol with rfl | rfl
        · exact (by decide : has RST RST)
        · exact (by decide : has (RST ||| ACK) RST)
      · exact fun h => ⟨rfl, rfl, rfl, fun _ _ _ => h⟩
  | challenge hrefuses hchallenges =>
      rw [Conn.Settled, if_neg hrefuses, if_pos hchallenges]
      refine iff_of_true ⟨rfl, rfl, rfl, ?_⟩ trivial
      rintro o ⟨⟩ ho
      exact absurd ho (by decide : ¬ has ACK RST)
  | reset _ _ h _ => exact absurd h hrst
  | resetIgnored _ _ h _ => exact absurd h hrst
  | passiveOpen hadmits hstate hsyn hroom =>
      rw [hadmits.settled_iff, if_pos (.inl ⟨hstate, hsyn⟩)]
      refine iff_of_false (fun h => ?_) fun h => absurd h.2.1 (Nat.not_lt.mpr hroom)
      have hstate' : SYN_RECEIVED = c.state := h.state
      rw [hstate] at hstate'
      exact absurd hstate' (by decide)
  | passiveOpenShort hadmits hstate hsyn hroom =>
      rw [hadmits.settled_iff, if_pos (.inl ⟨hstate, hsyn⟩)]
      exact ⟨fun h => ⟨hstate, hroom, h.remoteSeq⟩, fun h => ⟨rfl, rfl, h.2.2, fun _ h => nomatch h⟩⟩
  | simultaneousOpen hadmits hstate hsyn =>
      rw [hadmits.settled_iff, if_pos (.inr (.inl ⟨hstate, hsyn⟩)), hstate]
      refine iff_of_false (fun h => ?_) fun h => absurd h.1 (by decide)
      have hstate' : SYN_RECEIVED = c.state := h.state
      rw [hstate] at hstate'
      exact absurd hstate' (by decide)
  | activeOpen hadmits hstate hsyn hack =>
      rw [hadmits.settled_iff, if_pos (.inr (.inr ⟨hstate, hsyn, hack⟩)), hstate]
      refine iff_of_false (fun h => ?_) fun h => absurd h.1 (by decide)
      have hstate' : ESTABLISHED = c.state := h.state
      rw [hstate] at hstate'
      exact absurd hstate' (by decide)
  | noAck hadmits hopen hack =>
      rw [hadmits.settled_iff, if_neg hopen.not_opens, if_pos hopen]
      exact iff_of_true ⟨rfl, rfl, rfl, fun _ h => nomatch h⟩ fun h => absurd h hack
  | outOfOrder hadmits hopen hack hseq =>
      rw [hadmits.settled_iff, if_neg hopen.not_opens, if_pos hopen]
      refine iff_of_true ⟨rfl, rfl, rfl, ?_⟩ fun _ h => absurd h hseq
      rintro o ⟨⟩ ho
      exact absurd ho (by decide : ¬ has ACK RST)
  | inOrder hadmits hopen hack hseq =>
      rw [hadmits.settled_iff, if_neg hopen.not_opens, if_pos hopen]
      constructor
      · intro h _ _
        obtain ⟨hfin, hclear⟩ := hopen.state_inOrder_iff.mp h.state
        exact ⟨hfin, ((Conn.acknowledges_eq_iff hseq).mp h.remoteSeq).1, hclear⟩
      · intro h
        obtain ⟨hfin, htakes, hclear⟩ := h hack hseq
        refine ⟨hopen.state_inOrder_iff.mpr ⟨hfin, hclear⟩, rfl,
          (Conn.acknowledges_eq_iff hseq).mpr ⟨htakes, hfin⟩, fun o ho hreset => ?_⟩
        unfold Conn.inOrderEffect at ho
        dsimp only at ho
        split at ho
        · obtain rfl := Option.some.inj ho
          exact absurd hreset (by dsimp only; decide)
        · exact nomatch ho
  | acked hadmits hopens hopen hack =>
      rw [hadmits.settled_iff, if_neg hopens, if_neg hopen, if_pos hack]
      exact ⟨fun h => h.state, fun h => ⟨h, rfl, rfl, fun _ h => nomatch h⟩⟩
  | abort hadmits hopens hopen hack =>
      rw [hadmits.settled_iff, if_neg hopens, if_neg hopen, if_neg hack]
      have hsent : k.down = c.state → c.abortion =
          some ⟨RST ||| ACK, c.localSeq, c.remoteSeq, []⟩ := by
        intro hdown
        rw [Conn.abortion, if_neg]
        rw [← hdown]
        rcases k.down_eq with hd | hd <;> rw [hd] <;> decide
      constructor
      · intro h
        exact ⟨h.state, h.noReset _ (hsent h.state)
          (by decide : has (RST ||| ACK) RST)⟩
      · exact fun h => ⟨h.1, rfl, rfl, fun _ _ _ => h.2⟩

/-- A payload is delivered if and only if the segment is the next one and carries one. -/
theorem Receives.delivers_iff (h : Receives k s c e c') :
    e.delivers = none ↔ ¬ (c.Expects s ∧ s.Carries) := by
  cases h with
  | refuse _ _ hrefuses _ => exact iff_of_true rfl fun h => h.1.1.not_refuses hrefuses
  | challenge _ hchallenges => exact iff_of_true rfl fun h => h.1.1.not_challenges hchallenges
  | reset _ _ hrst _ => exact iff_of_true rfl fun h => h.1.1.2.2 hrst
  | resetIgnored _ _ hrst _ => exact iff_of_true rfl fun h => h.1.1.2.2 hrst
  | passiveOpen _ hstate hsyn _ =>
      exact iff_of_true rfl fun h => h.1.2.1.not_opens (s := s) (.inl ⟨hstate, hsyn⟩)
  | passiveOpenShort _ hstate hsyn _ =>
      exact iff_of_true rfl fun h => h.1.2.1.not_opens (s := s) (.inl ⟨hstate, hsyn⟩)
  | simultaneousOpen _ hstate hsyn =>
      exact iff_of_true rfl fun h => h.1.2.1.not_opens (s := s) (.inr (.inl ⟨hstate, hsyn⟩))
  | activeOpen _ hstate hsyn hack =>
      exact iff_of_true rfl fun h => h.1.2.1.not_opens (.inr (.inr ⟨hstate, hsyn, hack⟩))
  | noAck _ _ hack => exact iff_of_true rfl fun h => hack h.1.2.2.1
  | outOfOrder _ _ _ hseq => exact iff_of_true rfl fun h => hseq h.1.2.2.2
  | inOrder hadmits hopen hack hseq =>
      have hexpects : c.Expects s := ⟨hadmits, hopen, hack, hseq⟩
      rw [Conn.inOrderEffect, not_and]
      dsimp only
      by_cases hcarries : s.Carries
      · rw [if_pos (show s.payloadSize > 0 ∧ _ from hcarries)]
        exact iff_of_false (Option.some_ne_none _) fun h => h hexpects hcarries
      · rw [if_neg (show ¬ (s.payloadSize > 0 ∧ _) from hcarries)]
        exact iff_of_true rfl fun _ => hcarries
  | acked _ _ hopen _ => exact iff_of_true rfl fun h => hopen h.1.2.1
  | abort _ _ hopen _ => exact iff_of_true rfl fun h => hopen h.1.2.1

/-! ### What a segment has settled -/

namespace Conn

/-- An open connection refuses nothing. -/
theorem Open.not_refuses (h : c.Open) : ¬ c.Refuses s :=
  Conn.not_refuses (h.not_mem (by decide))

/-- On an open connection a segment is settled if it is challenged, or out of order, or brings
nothing. -/
theorem Open.settled_iff (h : c.Open) : c.Settled k s answers ↔
    c.Challenges s ∨ (has s.control ACK → s.seq = c.remoteSeq →
      ¬ has s.control FIN ∧ ¬ takes s ∧ ¬ (s.ack = c.localSeq ∧ has c.state AWAITING_ACK)) := by
  rw [Settled, if_neg h.not_refuses, if_neg h.not_opens, if_pos h]
  split
  case isTrue hchallenges => exact iff_of_true trivial (.inl hchallenges)
  case isFalse hchallenges => rw [or_iff_right hchallenges]

/-- A connection that is not the segment's to open any more. -/
theorem settled_of_acknowledged (hrefuses : ¬ c.Refuses s) (hopens : ¬ c.Opens s)
    (hopen : ¬ c.Open) (hack : c.Acknowledged s) (hafter : c.afterAck k.down = c.state) :
    c.Settled k s answers := by
  rw [Settled, if_neg hrefuses, if_neg hopens, if_neg hopen, if_pos hack]
  split
  · exact trivial
  · exact hafter

/-- The SYN that led to SYN_RECEIVED aborts the handshake when it comes again. -/
theorem not_settled_syn (hstate : c.state = SYN_RECEIVED) (hsyn : s.control = SYN) :
    ¬ c.Settled k s answers := by
  have hnoAck : ¬ has s.control ACK := by rw [hsyn]; decide
  have hrefuses : ¬ c.Refuses s := by
    rintro (⟨hs, -⟩ | ⟨hs, -⟩ | ⟨-, h, -⟩)
    · rw [hstate] at hs
      exact absurd hs (by decide)
    · rw [hstate] at hs
      exact absurd hs (by decide)
    · exact hnoAck h
  have hchallenges : ¬ c.Challenges s := by
    rintro ⟨hsync, -⟩
    rw [hstate] at hsync
    exact absurd hsync (by decide)
  have hopens : ¬ c.Opens s := not_opens (by rw [hstate]; decide)
  have hopen : ¬ c.Open := by
    unfold Open
    rw [hstate]
    decide
  rw [Settled, if_neg hrefuses, if_neg hchallenges, if_neg hopens, if_neg hopen,
    if_neg fun h => hnoAck h.1, hstate]
  rintro ⟨hdown, -⟩
  rcases k.down_eq with hd | hd
  · rw [hd] at hdown
    exact absurd hdown (by decide)
  · rw [hd] at hdown
    exact absurd hdown (by decide)

/-- In CLOSE_WAIT a segment is taken for a duplicate if it acknowledges everything or lies
ahead. -/
theorem settled_closeWait_iff (hstate : c.state = CLOSE_WAIT) (hack : has s.control ACK) :
    c.Settled k s answers ↔ c.localSeq ≤ s.ack ∨ c.remoteSeq < s.seq := by
  have hrefuses : ¬ c.Refuses s := not_refuses (by rw [hstate]; decide)
  have hopens : ¬ c.Opens s := not_opens (by rw [hstate]; decide)
  have hopen : ¬ c.Open := by
    unfold Open
    rw [hstate]
    decide
  have hsync : synchronized c.state := by rw [hstate]; decide
  by_cases hchallenges : c.Challenges s
  · rw [Settled, if_neg hrefuses, if_pos hchallenges]
    refine iff_of_true trivial (hchallenges.2.imp (fun h => ?_) id)
    exact UInt32.le_of_lt h.2
  · have hle : s.ack ≤ c.localSeq ∧ s.seq ≤ c.remoteSeq := by
      refine ⟨UInt32.not_lt.mp fun h => ?_, UInt32.not_lt.mp fun h => ?_⟩
      · exact hchallenges ⟨hsync, .inl ⟨hack, h⟩⟩
      · exact hchallenges ⟨hsync, .inr h⟩
    rw [or_iff_left (UInt32.not_lt.mpr hle.2)]
    by_cases heq : s.ack = c.localSeq
    · refine iff_of_true ?_ (UInt32.le_of_eq heq.symm)
      refine settled_of_acknowledged hrefuses hopens hopen ⟨hack, heq⟩ ?_
      unfold afterAck
      rw [hstate]
      rfl
    · rw [Settled, if_neg hrefuses, if_neg hchallenges, if_neg hopens, if_neg hopen,
        if_neg fun h => heq h.2, hstate]
      refine iff_of_false ?_ fun h => heq (UInt32.le_antisymm hle.1 h)
      rintro ⟨hdown, -⟩
      rcases k.down_eq with hd | hd
      · rw [hd] at hdown
        exact absurd hdown (by decide)
      · rw [hd] at hdown
        exact absurd hdown (by decide)

/-- The cascade of `Repeatable`, for a segment that gets past the first tests. -/
theorem Admits.repeatable_iff {again : Bool} {answers : Bool → Prop} (h : c.Admits s) :
    c.Repeatable k s again answers ↔
      if c.Opens s then s.control = SYN → c.state = LISTEN ∧ k.room < 24
      else if c.Open then
        has s.control ACK → s.seq = c.remoteSeq →
          if has s.control FIN then c.localSeq ≤ s.ack ∨ c.acknowledges s < s.seq
          else s.Carries → s.accepted
      else if c.Acknowledged s then
        if c.state = SYN_RECEIVED then
          s.seq = c.remoteSeq → ¬ has s.control FIN ∧ ¬ takes { s with accepted := again }
        else if c.state = LAST_ACK then answers false → k.down = LISTEN ∧ has s.control SYN
        else True
      else if k.down = LISTEN ∧ s.control = SYN then k.room < 24 ∧ s.seq + 1 = c.remoteSeq
      else ¬ answers c.abortion.isSome := by
  rw [Repeatable, if_neg h.not_refuses, if_neg h.not_challenges]

/-! ### What a segment makes of a connection for its second copy -/

/-- In SYN_RECEIVED the ACK of the handshake establishes the connection; its second copy is
then a segment like any other. -/
theorem settled_synReceived (hack : c.Acknowledged s) :
    ({ c with state := ESTABLISHED } : Conn).Settled k s answers ↔
      (s.seq = c.remoteSeq → ¬ has s.control FIN ∧ ¬ takes s) := by
  have hopen : ({ c with state := ESTABLISHED } : Conn).Open :=
    (by decide : ESTABLISHED &&& 0x0F = ESTABLISHED)
  have hawaiting : ¬ has ESTABLISHED AWAITING_ACK := by decide
  rw [hopen.settled_iff]
  constructor
  · rintro (⟨-, ⟨-, h⟩ | h⟩) hseq
    · exact absurd h (by rw [hack.2]; exact UInt32.lt_irrefl _)
    · exact absurd h (by rw [hseq]; exact UInt32.lt_irrefl _)
    · rename_i h
      exact ⟨(h hack.1 hseq).1, (h hack.1 hseq).2.1⟩
  · intro h
    exact .inr fun _ hseq => ⟨(h hseq).1, (h hseq).2, fun h => hawaiting h.2⟩

/-- A socket that is closed refuses a segment without RST, unless it listens and the segment
has a SYN and does not acknowledge too much. -/
theorem settled_down_of_refused (hstate : c.state = CLOSED ∨ c.state = LISTEN ∧
      (has s.control SYN → has s.control ACK ∧ s.ack > c.localSeq))
    (hrst : ¬ has s.control RST) : c.Settled k s answers ↔ ¬ answers := by
  have hrefuses : c.Refuses s := by
    rcases hstate with hs | ⟨hs, hsyn⟩
    · exact .inl ⟨hs, hrst⟩
    · by_cases h : has s.control SYN
      · exact .inr (.inr ⟨.inl hs, hsyn h⟩)
      · exact .inr (.inl ⟨hs, h, hrst⟩)
  rw [Settled, if_pos hrefuses]

/-- A listener that does not refuse a segment. -/
theorem admits_of_listen (hstate : c.state = LISTEN) (hsyn : has s.control SYN)
    (hrst : ¬ has s.control RST) (hack : ¬ (has s.control ACK ∧ s.ack > c.localSeq)) :
    c.Admits s := by
  refine ⟨?_, ?_, hrst⟩
  · rintro (⟨hs, -⟩ | ⟨-, h, -⟩ | ⟨-, h⟩)
    · rw [hstate] at hs
      exact absurd hs (by decide)
    · exact h hsyn
    · exact hack h
  · rintro ⟨hsync, -⟩
    rw [hstate] at hsync
    exact absurd hsync (by decide)

/-- After `forceClose`. -/
theorem settled_down_of_abort (hstate : c.state = k.down) (hrst : ¬ has s.control RST)
    (hack : ¬ c.Acknowledged s) : c.Settled k s answers ↔
      if k.down = LISTEN ∧ s.control = SYN then k.room < 24 ∧ s.seq + 1 = c.remoteSeq
      else ¬ answers := by
  rcases k.down_eq with hd | hd
  · rw [if_neg fun h => absurd (hd.symm.trans h.1) (by decide)]
    exact settled_down_of_refused (.inl (hstate.trans hd)) hrst
  · have hlisten : c.state = LISTEN := hstate.trans hd
    by_cases hrefused : has s.control SYN → has s.control ACK ∧ s.ack > c.localSeq
    · rw [if_neg, settled_down_of_refused (.inr ⟨hlisten, hrefused⟩) hrst]
      rintro ⟨-, hsyn⟩
      rw [hsyn] at hrefused
      exact absurd (hrefused (by decide)).1 (by decide)
    · obtain ⟨hsyn, hack'⟩ := Classical.not_imp.mp hrefused
      have hopen : ¬ c.Open := by
        unfold Open
        rw [hlisten]
        decide
      rw [(admits_of_listen hlisten hsyn hrst hack').settled_iff]
      by_cases hpure : s.control = SYN
      · rw [if_pos (.inl ⟨hlisten, hpure⟩), if_pos ⟨hd, hpure⟩, and_iff_right hlisten]
      · have hopens : ¬ c.Opens s := by
          rintro (⟨-, h⟩ | ⟨h, -⟩ | ⟨h, -⟩)
          · exact hpure h
          · exact absurd (hlisten.symm.trans h) (by decide)
          · exact absurd (hlisten.symm.trans h) (by decide)
        rw [if_neg hopens, if_neg hopen, if_neg hack, if_neg fun h => hpure h.2,
          and_iff_right hstate.symm]

/-- After the ACK that ends LAST_ACK. -/
theorem settled_down_of_acknowledged (hstate : c.state = k.down) (hrst : ¬ has s.control RST)
    (hack : c.Acknowledged s) : c.Settled k s answers ↔
      (answers → k.down = LISTEN ∧ has s.control SYN) := by
  by_cases hlisten : k.down = LISTEN ∧ has s.control SYN
  · refine iff_of_true ?_ fun _ => hlisten
    have hs : c.state = LISTEN := hstate.trans hlisten.1
    have hadmits : c.Admits s := admits_of_listen hs hlisten.2 hrst fun h => by
      rw [hack.2] at h
      exact UInt32.lt_irrefl _ h.2
    have hopens : ¬ c.Opens s := by
      rintro (⟨-, h⟩ | ⟨h, -⟩ | ⟨h, -⟩)
      · exact absurd hack.1 (by rw [h]; decide)
      · exact absurd (hs.symm.trans h) (by decide)
      · exact absurd (hs.symm.trans h) (by decide)
    have hopen : ¬ c.Open := by
      unfold Open
      rw [hs]
      decide
    refine settled_of_acknowledged hadmits.not_refuses hopens hopen hack ?_
    unfold afterAck
    rw [hs]
    rfl
  · rw [settled_down_of_refused ?_ hrst]
    · exact imp_congr_right fun _ => iff_of_false id hlisten
    · rcases k.down_eq with hd | hd
      · exact .inl (hstate.trans hd)
      · exact .inr ⟨hstate.trans hd, fun hsyn => absurd ⟨hd, hsyn⟩ hlisten⟩

/-- After an ACK of everything sent, outside ESTABLISHED. -/
theorem settled_afterAck (hadmits : c.Admits s) (hopens : ¬ c.Opens s) (hopen : ¬ c.Open)
    (hack : c.Acknowledged s) {again : Bool} {answers : Bool → Prop} :
    ({ c with state := c.afterAck k.down } : Conn).Settled k { s with accepted := again }
        (answers false) ↔ c.Repeatable k s again answers := by
  have hack' : ∀ state, ({ c with state := state } : Conn).Acknowledged
      { s with accepted := again } := fun _ => hack
  rw [hadmits.repeatable_iff, if_neg hopens, if_neg hopen, if_pos hack]
  by_cases hreceived : c.state = SYN_RECEIVED
  · rw [if_pos hreceived, show c.afterAck k.down = ESTABLISHED from if_pos hreceived]
    exact settled_synReceived (hack' _)
  rw [if_neg hreceived]
  by_cases hlast : c.state = LAST_ACK
  · have hdown : c.afterAck k.down = k.down := by
      unfold afterAck
      rw [hlast]
      rfl
    rw [if_pos hlast, hdown]
    exact settled_down_of_acknowledged rfl hadmits.2.2 (hack' _)
  · rw [if_neg hlast]
    refine iff_of_true ?_ trivial
    rcases c.afterAck_cases k.down with ⟨h, -⟩ | ⟨-, h⟩ | ⟨-, h⟩ | ⟨h, -⟩ | h
    · exact absurd h hreceived
    · rw [h]
      exact settled_of_acknowledged
        (not_refuses (by decide : FIN_WAIT_2 ∉ [CLOSED, LISTEN, SYN_SENT, SYN_RECEIVED]))
        (not_opens (by decide : FIN_WAIT_2 ∉ [LISTEN, SYN_SENT]))
        (by decide : FIN_WAIT_2 &&& 0x0F ≠ ESTABLISHED) (hack' _) rfl
    · rw [h]
      exact settled_of_acknowledged
        (not_refuses (by decide : TIME_WAIT ∉ [CLOSED, LISTEN, SYN_SENT, SYN_RECEIVED]))
        (not_opens (by decide : TIME_WAIT ∉ [LISTEN, SYN_SENT]))
        (by decide : TIME_WAIT &&& 0x0F ≠ ESTABLISHED) (hack' _) rfl
    · exact absurd h hlast
    · rw [h]
      exact settled_of_acknowledged (c := c) hadmits.not_refuses hopens hopen hack h

/-- The next segment of an open connection; a FIN leaves it in CLOSE_WAIT. -/
theorem settled_inOrder_fin (hadmits : c.Admits s) (hopen : c.Open) (hack : has s.control ACK)
    (hseq : s.seq = c.remoteSeq) (hfin : has s.control FIN) {again : Bool}
    {answers : Bool → Prop} {A : Prop} :
    (c.inOrder s).Settled k { s with accepted := again } A ↔
      c.Repeatable k s again answers := by
  have hstate : (c.inOrder s).state = CLOSE_WAIT := by
    rcases hopen.state_inOrder s with ⟨-, h⟩ | ⟨h, -⟩
    · exact h
    · exact absurd hfin h
  rw [hadmits.repeatable_iff, if_neg hopen.not_opens, if_pos hopen, if_pos hfin,
    settled_closeWait_iff (s := { s with accepted := again }) hstate hack]
  exact ⟨fun h _ _ => h, fun h => h hack hseq⟩

/-- The next segment of an open connection leaves it open if there is no FIN. -/
theorem Open.inOrder (h : c.Open) (hfin : ¬ has s.control FIN) : (c.inOrder s).Open := by
  rcases h.state_inOrder s with ⟨hfin', -⟩ | ⟨-, hs | ⟨hs, -⟩⟩
  · exact absurd hfin' hfin
  · unfold Open
    rw [hs]
    exact h
  · unfold Open
    rw [hs]
    decide

/-- What the next segment acknowledges it does not acknowledge too much of. -/
theorem Admits.inOrder (h : c.Admits s) (hopen : c.Open) (hfin : ¬ has s.control FIN)
    (hnumber : c.acknowledges s = s.seq) : (c.inOrder s).Admits s := by
  refine ⟨(hopen.inOrder hfin).not_refuses, ?_, h.2.2⟩
  rintro ⟨hsync, ⟨hack, hlt⟩ | hlt⟩
  · rcases hopen.state_inOrder s with ⟨hfin', -⟩ | ⟨-, hs | ⟨-, heq, -⟩⟩
    · exact hfin hfin'
    · rw [hs] at hsync
      exact h.not_challenges ⟨hsync, .inl ⟨hack, hlt⟩⟩
    · rw [heq] at hlt
      exact UInt32.lt_irrefl _ hlt
  · have hself : s.seq > s.seq := by
      rw [← hnumber] at hlt ⊢
      exact hlt
    exact UInt32.lt_irrefl _ hself

/-- What was outstanding has been cleared. -/
theorem cleared_inOrder (s : Segment) (c : Conn) (hfin : ¬ has s.control FIN) :
    ¬ (s.ack = (c.inOrder s).localSeq ∧ has (c.inOrder s).state AWAITING_ACK) := by
  have hlow : ∀ state : UInt8, ¬ has (state &&& 0x0F) AWAITING_ACK :=
    forall_uint8 (by decide +kernel)
  rintro ⟨hack, hawait⟩
  have hack : s.ack = c.localSeq := hack
  unfold inOrder at hawait
  dsimp only at hawait
  rw [if_neg hfin] at hawait
  split at hawait
  case isTrue => exact hlow _ hawait
  case isFalse hclear => exact hclear ⟨hack, hawait⟩

/-- Without FIN the second copy of the next segment finds nothing to do unless it carries a
payload that was refused. -/
theorem repeats_inOrder (hadmits : c.Admits s) (hopen : c.Open) (hack : has s.control ACK)
    (hseq : s.seq = c.remoteSeq) (hfin : ¬ has s.control FIN) {again : Bool}
    {answers : Bool → Prop} {A : Prop} :
    (c.inOrder s).Settled k { s with accepted := again } A ∧
        (¬ (c.Expects s ∧ s.Carries) ∨
          ¬ ((c.inOrder s).Expects { s with accepted := again } ∧ s.Carries)) ↔
      c.Repeatable k s again answers := by
  have hexpects : c.Expects s := ⟨hadmits, hopen, hack, hseq⟩
  have hopen' := hopen.inOrder (s := s) hfin
  rw [hadmits.repeatable_iff, if_neg hopen.not_opens, if_pos hopen, if_neg hfin,
    hopen'.settled_iff]
  by_cases hcarries : s.Carries
  · cases haccepted : s.accepted with
    | true =>
        have htakes : takes s := by
          simp only [takes, Bool.and_eq_true, decide_eq_true_eq]
          exact ⟨hcarries, haccepted⟩
        have hmoved : s.seq ≠ (c.inOrder s).remoteSeq := by
          show s.seq ≠ c.acknowledges s
          rw [acknowledges, if_pos htakes]
          exact (add_payloadSize_ne _ hcarries.1).symm
        refine iff_of_true ⟨.inr fun _ h => absurd h hmoved, .inr fun h => ?_⟩ fun _ _ _ => rfl
        exact hmoved h.1.2.2.2
    | false =>
        have hnumber : c.acknowledges s = s.seq := by
          rw [hseq, acknowledges_eq_iff hseq]
          refine ⟨?_, hfin⟩
          simp [takes, haccepted]
        refine iff_of_false (fun h => ?_) fun h => absurd (h hack hseq hcarries) (by decide)
        rcases h.2 with h | h
        · exact h ⟨hexpects, hcarries⟩
        · exact h ⟨⟨hadmits.inOrder hopen hfin hnumber, hopen', hack, hnumber.symm⟩, hcarries⟩
  · refine iff_of_true ⟨.inr fun _ _ => ⟨hfin, ?_, cleared_inOrder s c hfin⟩,
      .inl fun h => hcarries h.2⟩ fun _ _ h => absurd h hcarries
    intro htakes
    simp only [takes, Bool.and_eq_true, decide_eq_true_eq] at htakes
    exact hcarries htakes.1

section Copies

variable {again : Bool} {answers : Bool → Prop} {A : Prop}

/-- A segment that is refused. -/
theorem Refuses.settled_iff (hrefuses : c.Refuses s) (hA : A ↔ answers true) :
    c.Settled k { s with accepted := again } A ↔ c.Repeatable k s again answers := by
  have hagain : c.Refuses { s with accepted := again } := hrefuses
  rw [Repeatable, if_pos hrefuses, Settled, if_pos hagain, hA]

/-- A segment that is answered by an ACK. -/
theorem Challenges.settled_iff (hrefuses : ¬ c.Refuses s) (hchallenges : c.Challenges s) :
    c.Settled k { s with accepted := again } A ↔ c.Repeatable k s again answers := by
  have hagain : ¬ c.Refuses { s with accepted := again } := hrefuses
  have hagain' : c.Challenges { s with accepted := again } := hchallenges
  rw [Repeatable, if_neg hrefuses, if_pos hchallenges, Settled, if_neg hagain, if_pos hagain']

/-- After the SYN that has opened a host's connection. -/
theorem settled_passiveOpen {localSeq : UInt32} (hadmits : c.Admits s) (hstate : c.state = LISTEN)
    (hsyn : s.control = SYN) (hroom : 24 ≤ k.room) :
    ({ c with state := SYN_RECEIVED, localSeq := localSeq, remoteSeq := s.seq + 1 } :
        Conn).Settled k { s with accepted := again } A ↔ c.Repeatable k s again answers := by
  rw [hadmits.repeatable_iff, if_pos (.inl ⟨hstate, hsyn⟩)]
  refine iff_of_false (not_settled_syn (s := { s with accepted := again }) rfl hsyn) ?_
  exact fun h => absurd (h hsyn).2 (Nat.not_lt.mpr hroom)

/-- After a SYN that there was no room to answer. -/
theorem settled_passiveOpenShort (hadmits : c.Admits s) (hstate : c.state = LISTEN)
    (hsyn : s.control = SYN) (hroom : k.room < 24) :
    ({ c with remoteSeq := s.seq + 1 } : Conn).Settled k { s with accepted := again } A ↔
      c.Repeatable k s again answers := by
  have hlisten : has s.control SYN := by rw [hsyn]; decide
  have hnoAck : ¬ has s.control ACK := by rw [hsyn]; decide
  have hadmits' : ({ c with remoteSeq := s.seq + 1 } : Conn).Admits
      { s with accepted := again } :=
    admits_of_listen hstate hlisten hadmits.2.2 fun h => hnoAck h.1
  rw [hadmits.repeatable_iff, if_pos (.inl ⟨hstate, hsyn⟩), hadmits'.settled_iff,
    if_pos (.inl ⟨hstate, hsyn⟩)]
  exact iff_of_true ⟨hstate, hroom, rfl⟩ fun _ => ⟨hstate, hroom⟩

/-- After the SYN of a peer that connects at the same time. -/
theorem settled_simultaneousOpen (hadmits : c.Admits s) (hstate : c.state = SYN_SENT)
    (hsyn : s.control = SYN) :
    ({ c with state := SYN_RECEIVED, remoteSeq := s.seq + 1 } : Conn).Settled k
        { s with accepted := again } A ↔ c.Repeatable k s again answers := by
  rw [hadmits.repeatable_iff, if_pos (.inr (.inl ⟨hstate, hsyn⟩))]
  refine iff_of_false (not_settled_syn (s := { s with accepted := again }) rfl hsyn) fun h => ?_
  have hlisten := (h hsyn).1
  rw [hstate] at hlisten
  exact absurd hlisten (by decide)

/-- After the SYN+ACK. -/
theorem settled_activeOpen (hadmits : c.Admits s) (hstate : c.state = SYN_SENT)
    (hsyn : s.control = ACK ||| SYN) (hack : s.ack = c.localSeq) :
    ({ c with state := ESTABLISHED, remoteSeq := s.seq + 1 } : Conn).Settled k
        { s with accepted := again } A ↔ c.Repeatable k s again answers := by
  have hopen : ({ c with state := ESTABLISHED, remoteSeq := s.seq + 1 } : Conn).Open :=
    (by decide : ESTABLISHED &&& 0x0F = ESTABLISHED)
  rw [hadmits.repeatable_iff, if_pos (.inr (.inr ⟨hstate, hsyn, hack⟩)), hopen.settled_iff]
  refine iff_of_true (.inr fun _ h => absurd h (add_one_ne _).symm) fun h => ?_
  rw [hsyn] at h
  exact absurd h (by decide)

/-- A segment of an open connection that is not the next one. -/
theorem Open.settled_of_ne (hopen : c.Open) (hadmits : c.Admits s)
    (hne : has s.control ACK → s.seq ≠ c.remoteSeq) :
    c.Settled k { s with accepted := again } A ↔ c.Repeatable k s again answers := by
  have hadmits' : c.Admits { s with accepted := again } := hadmits
  rw [hadmits.repeatable_iff, hadmits'.settled_iff, if_neg hopen.not_opens,
    if_neg hopen.not_opens, if_pos hopen, if_pos hopen]
  exact iff_of_true (fun hack h => absurd h (hne hack)) fun hack h => absurd h (hne hack)

/-- In CLOSE_WAIT, where a FIN has led, no payload is taken. -/
theorem Open.not_expects_inOrder (hopen : c.Open) (hfin : has s.control FIN) :
    ¬ (c.inOrder s).Expects { s with accepted := again } := by
  intro h
  have hstate : (c.inOrder s).state = CLOSE_WAIT := by
    rcases hopen.state_inOrder s with ⟨-, h⟩ | ⟨h, -⟩
    · exact h
    · exact absurd hfin h
  have hclosed : (c.inOrder s).state &&& 0x0F = ESTABLISHED := h.2.1
  rw [hstate] at hclosed
  exact absurd hclosed (by decide)

/-- After `forceClose`, as the last resort. -/
theorem settled_abort (hadmits : c.Admits s) (hopens : ¬ c.Opens s) (hopen : ¬ c.Open)
    (hack : ¬ c.Acknowledged s) (hA : A ↔ answers c.abortion.isSome) :
    ({ c with state := k.down } : Conn).Settled k { s with accepted := again } A ↔
      c.Repeatable k s again answers := by
  rw [hadmits.repeatable_iff, if_neg hopens, if_neg hopen, if_neg hack, hA]
  exact settled_down_of_abort (s := { s with accepted := again }) rfl hadmits.2.2 hack

end Copies

end Conn

/-- The second copy of a segment without RST leaves what the first has made of the connection,
offers no payload again and is not answered with a RST, if and only if the connection was
repeatable. `A` says whether a RST leaves the host then. -/
theorem Receives.repeats_iff {again : Bool} {answers : Bool → Prop} {A : Prop} {c'' : Conn}
    {e' : Effect} (hrst : ¬ has s.control RST) (h : Receives k s c e c')
    (h' : Receives k { s with accepted := again } c' e' c'')
    (hA : c.Refuses s ∨ c.Admits s ∧ ¬ c.Opens s ∧ ¬ c.Open → (A ↔ answers e.sends.isSome)) :
    Conn.Untouched A c' c'' e' ∧ (e.delivers = none ∨ e'.delivers = none) ↔
      c.Repeatable k s again answers := by
  rw [Receives.untouched_iff (s := { s with accepted := again }) hrst h', h.delivers_iff,
    h'.delivers_iff]
  have hnone : ¬ c.Expects s → ((c'.Settled k { s with accepted := again } A ∧
      (¬ (c.Expects s ∧ s.Carries) ∨
        ¬ (c'.Expects { s with accepted := again } ∧ s.Carries))) ↔
      c'.Settled k { s with accepted := again } A) := by
    intro hexpects
    exact and_iff_left (.inl fun h => hexpects h.1)
  cases h with
  | refuse _ _ hrefuses _ =>
      exact (hnone fun h => h.1.not_refuses hrefuses).trans
        (hrefuses.settled_iff (hA (.inl hrefuses)))
  | challenge hrefuses hchallenges =>
      exact (hnone fun h => h.1.not_challenges hchallenges).trans
        (hchallenges.settled_iff hrefuses)
  | reset _ _ h _ => exact absurd h hrst
  | resetIgnored _ _ h _ => exact absurd h hrst
  | passiveOpen hadmits hstate hsyn hroom =>
      have hopens : c.Opens s := .inl ⟨hstate, hsyn⟩
      exact (hnone fun h => h.2.1.not_opens hopens).trans
        (Conn.settled_passiveOpen hadmits hstate hsyn hroom)
  | passiveOpenShort hadmits hstate hsyn hroom =>
      have hopens : c.Opens s := .inl ⟨hstate, hsyn⟩
      exact (hnone fun h => h.2.1.not_opens hopens).trans
        (Conn.settled_passiveOpenShort hadmits hstate hsyn hroom)
  | simultaneousOpen hadmits hstate hsyn =>
      have hopens : c.Opens s := .inr (.inl ⟨hstate, hsyn⟩)
      exact (hnone fun h => h.2.1.not_opens hopens).trans
        (Conn.settled_simultaneousOpen hadmits hstate hsyn)
  | activeOpen hadmits hstate hsyn hack =>
      have hopens : c.Opens s := .inr (.inr ⟨hstate, hsyn, hack⟩)
      exact (hnone fun h => h.2.1.not_opens hopens).trans
        (Conn.settled_activeOpen hadmits hstate hsyn hack)
  | noAck hadmits hopen hack =>
      exact (hnone fun h => hack h.2.2.1).trans
        (hopen.settled_of_ne hadmits fun h => absurd h hack)
  | outOfOrder hadmits hopen hack hseq =>
      exact (hnone fun h => hseq h.2.2.2).trans (hopen.settled_of_ne hadmits fun _ => hseq)
  | inOrder hadmits hopen hack hseq =>
      by_cases hfin : has s.control FIN
      · rw [← Conn.settled_inOrder_fin hadmits hopen hack hseq hfin]
        exact and_iff_left (.inr fun h => hopen.not_expects_inOrder hfin h.1)
      · exact Conn.repeats_inOrder hadmits hopen hack hseq hfin
  | acked hadmits hopens hopen hack =>
      refine (hnone fun h => hopen h.2.1).trans ?_
      rw [hA (.inr ⟨hadmits, hopens, hopen⟩)]
      exact Conn.settled_afterAck hadmits hopens hopen hack
  | abort hadmits hopens hopen hack =>
      exact (hnone fun h => hopen h.2.1).trans
        (Conn.settled_abort hadmits hopens hopen hack (hA (.inr ⟨hadmits, hopens, hopen⟩)))

/-- The second answer of the application counts only where a segment establishes the
connection. -/
theorem Conn.repeatable_congr {again again' : Bool} {answers : Bool → Prop}
    (hrst : ¬ has s.control RST)
    (h : c.Admits s → c.state = SYN_RECEIVED → c.Acknowledged s → again = again') :
    c.Repeatable k s again answers ↔ c.Repeatable k s again' answers := by
  by_cases hrefuses : c.Refuses s
  · rw [Conn.Repeatable, Conn.Repeatable, if_pos hrefuses, if_pos hrefuses]
  by_cases hchallenges : c.Challenges s
  · rw [Conn.Repeatable, Conn.Repeatable, if_neg hrefuses, if_neg hrefuses, if_pos hchallenges,
      if_pos hchallenges]
  have hadmits : c.Admits s := ⟨hrefuses, hchallenges, hrst⟩
  rw [hadmits.repeatable_iff, hadmits.repeatable_iff]
  by_cases hreceived : c.state = SYN_RECEIVED ∧ c.Acknowledged s
  · rw [h hadmits hreceived.1 hreceived.2]
  · by_cases hack : c.Acknowledged s
    · rw [if_pos hack, if_pos hack, if_neg fun h => hreceived ⟨h, hack⟩,
        if_neg fun h => hreceived ⟨h, hack⟩]
    · rw [if_neg hack, if_neg hack]

/-! ### The segments a step sends -/

/-- A segment that is refused is answered with a RST without payload. -/
theorem Receives.sends_of_refuses (hrefuses : c.Refuses s) (h : Receives k s c e c') :
    ∃ control seq ack, e.sends = some ⟨control, seq, ack, []⟩ ∧
      (control = RST ∨ control = RST ||| ACK) := by
  cases h with
  | @refuse control seq ack _ hcontrol => exact ⟨control, seq, ack, rfl, hcontrol⟩
  | challenge h _ => exact absurd hrefuses h
  | reset h _ _ _ => exact absurd hrefuses h
  | resetIgnored h _ _ _ => exact absurd hrefuses h
  | passiveOpen h _ _ _ => exact absurd hrefuses h.not_refuses
  | passiveOpenShort h _ _ _ => exact absurd hrefuses h.not_refuses
  | simultaneousOpen h _ _ => exact absurd hrefuses h.not_refuses
  | activeOpen h _ _ _ => exact absurd hrefuses h.not_refuses
  | noAck h _ _ => exact absurd hrefuses h.not_refuses
  | outOfOrder h _ _ _ => exact absurd hrefuses h.not_refuses
  | inOrder h _ _ _ => exact absurd hrefuses h.not_refuses
  | acked h _ _ _ => exact absurd hrefuses h.not_refuses
  | abort h _ _ _ => exact absurd hrefuses h.not_refuses

/-- A segment that gets past every test but the last. -/
theorem Receives.sends_of_admits (hadmits : c.Admits s) (hopens : ¬ c.Opens s)
    (hopen : ¬ c.Open) (h : Receives k s c e c') :
    e.sends = if c.Acknowledged s then none else c.abortion := by
  cases h with
  | refuse _ _ h _ => exact absurd h hadmits.not_refuses
  | challenge _ h => exact absurd h hadmits.not_challenges
  | reset _ _ h _ => exact absurd h hadmits.2.2
  | resetIgnored _ _ h _ => exact absurd h hadmits.2.2
  | passiveOpen _ hstate hsyn _ => exact absurd (.inl ⟨hstate, hsyn⟩) hopens
  | passiveOpenShort _ hstate hsyn _ => exact absurd (.inl ⟨hstate, hsyn⟩) hopens
  | simultaneousOpen _ hstate hsyn => exact absurd (.inr (.inl ⟨hstate, hsyn⟩)) hopens
  | activeOpen _ hstate hsyn hack => exact absurd (.inr (.inr ⟨hstate, hsyn, hack⟩)) hopens
  | noAck _ h _ => exact absurd h hopen
  | outOfOrder _ h _ _ => exact absurd h hopen
  | inOrder _ h _ _ => exact absurd h hopen
  | acked _ _ _ hack => rw [if_pos hack]
  | abort _ _ _ hack => rw [if_neg hack]

/-- A RST goes out as the answer to a segment of `Resets` only. -/
theorem Receives.resets_of_sends (h : Receives k s c e c') {o : Sending} (ho : e.sends = some o)
    (hrst : has o.control RST) : c.Resets s := by
  have hack : ¬ has ACK RST := by decide
  cases h with
  | refuse _ _ h _ => exact .inl h
  | challenge _ _ =>
      obtain rfl := Option.some.inj ho
      exact absurd hrst hack
  | reset _ _ _ _ => exact nomatch ho
  | resetIgnored _ _ _ _ => exact nomatch ho
  | passiveOpen _ _ _ _ =>
      obtain rfl := Option.some.inj ho
      exact absurd hrst (by decide : ¬ has (SYN ||| ACK) RST)
  | passiveOpenShort _ _ _ _ => exact nomatch ho
  | simultaneousOpen _ _ _ =>
      obtain rfl := Option.some.inj ho
      exact absurd hrst hack
  | activeOpen _ _ _ _ =>
      obtain rfl := Option.some.inj ho
      exact absurd hrst hack
  | noAck _ _ _ => exact nomatch ho
  | outOfOrder _ _ _ _ =>
      obtain rfl := Option.some.inj ho
      exact absurd hrst hack
  | inOrder _ _ _ _ =>
      unfold Conn.inOrderEffect at ho
      dsimp only at ho
      split at ho
      · obtain rfl := Option.some.inj ho
        exact absurd hrst hack
      · exact nomatch ho
  | acked _ _ _ _ => exact nomatch ho
  | abort hadmits hopens hopen hack =>
      refine .inr ⟨hadmits, hopens, hopen, hack, fun hstate => ?_⟩
      rw [Conn.abortion, if_pos hstate] at ho
      exact nomatch ho

/-- What is sent in answer to a segment of `Resets`. -/
theorem Receives.sends_of_resets (hresets : c.Resets s) (h : Receives k s c e c') :
    ∃ control seq ack, e.sends = some ⟨control, seq, ack, []⟩ ∧
      (control = RST ∨ control = RST ||| ACK) := by
  rcases hresets with hrefuses | ⟨hadmits, hopens, hopen, hack, hstate⟩
  · exact h.sends_of_refuses hrefuses
  · rw [h.sends_of_admits hadmits hopens hopen, if_neg hack, Conn.abortion, if_neg hstate]
    exact ⟨_, _, _, rfl, .inr rfl⟩

end Settled

/-! ### The route to the peer -/

namespace ARPHandler

/-- What a lookup does to the routing table does not depend on the buffers. -/
theorem ensureTimer_mem (h : Stack) (m : Memory) : ensureTimer.run { h with mem := m } =
    ((ensureTimer.run h).1, { (ensureTimer.run h).2 with mem := m }) := by
  have hregister : ∀ handler millisDelay, EtherControl.registerTimer handler millisDelay
      { h with mem := m } = ((EtherControl.registerTimer handler millisDelay h).1,
        { (EtherControl.registerTimer handler millisDelay h).2 with mem := m }) := by
    intro handler millisDelay
    unfold EtherControl.registerTimer
    dsimp only
    split <;> rfl
  unfold ensureTimer
  rw [Proc.run_read_bind, Proc.run_read_bind]
  dsimp only
  split
  · rfl
  · rw [Proc.run_modify_bind, Proc.run_read_bind, Proc.run_modify_bind, Proc.run_read_bind,
      hregister]
    dsimp only
    split <;> rfl

/-- What the ARP handler does does not depend on the buffers. -/
theorem startLookup_mem (remoteIP : IPAddr) (index : ℕ) (h : Stack) (m : Memory) :
    ((startLookup remoteIP index).exec { h with mem := m }).arp =
      ((startLookup remoteIP index).exec h).arp := by
  have hasked : ∀ h : Stack, ((sendARPRequest remoteIP).exec h).arp = h.arp := by
    intro h
    rw [(sendARPRequest_sends remoteIP h).rest]
  have htimer := ensureTimer_mem h m
  unfold startLookup Proc.exec
  rcases hrun : ensureTimer.run h with ⟨_ | u, h'⟩
  · rw [hrun] at htimer
    rw [Proc.run_bind_of_none hrun, Proc.run_bind_of_none htimer]
  · rw [hrun] at htimer
    rw [Proc.run_bind_of_some hrun, Proc.run_bind_of_some htimer, Proc.run_modify_bind,
      Proc.run_modify_bind]
    refine (hasked _).trans (Eq.trans ?_ (hasked _).symm)
    rfl

/-- Nor does a request. -/
theorem requestMACAddress_mem (remoteIP : IPAddr) (h : Stack) (m : Memory) :
    ((requestMACAddress remoteIP).exec { h with mem := m }).arp =
      ((requestMACAddress remoteIP).exec h).arp := by
  unfold requestMACAddress Proc.exec
  rw [Proc.run_read_bind, Proc.run_read_bind]
  dsimp only
  split
  · rfl
  · exact startLookup_mem remoteIP _ h m
  · split
    · rfl
    · exact startLookup_mem remoteIP _ h m

end ARPHandler

namespace Socket

variable {α : Type}

/-- A RST to the peer leaves the host: there is room for it and a route, or, if the host has
just had something to send to the peer, there is one after it has asked. -/
def ResetLeaves (w : World α) (answered : Bool) : Prop :=
  20 ≤ w.stack.room ∧ (IPHandler.getMACForIP w.self.remoteIP
    (if answered then (ARPHandler.requestMACAddress w.self.remoteIP).exec w.stack
      else w.stack)).isSome

/-- Events do not change the routes. -/
theorem Tells.canAnswer_iff {w w' : World α} {d : Option (Bytes × Bool)} (h : Tells w d w')
    (hip : w'.self.remoteIP = w.self.remoteIP) : CanAnswer w' ↔ CanAnswer w := by
  obtain ⟨l, port, hl, -⟩ := h.log
  unfold CanAnswer
  rw [hip, hl]
  exact Iff.rfl

/-- A route depends on the two handlers only. -/
theorem getMACForIP_congr {ip : IPAddr} {h h' : Stack} (hip : h'.ip = h.ip)
    (harp : h'.arp = h.arp) : IPHandler.getMACForIP ip h' = IPHandler.getMACForIP ip h := by
  unfold IPHandler.getMACForIP
  rw [hip, harp]

/-- Sending a segment without payload asks for the route that it has not. -/
theorem canAnswer_sendSegment_iff (cb : Callbacks α) {control : UInt8}
    (hsyn : ¬ has control SYN) (seq ack : UInt32) {w : World α} (htcp : w.self.tcp.isSome) :
    CanAnswer ((sendSegment cb control 0 seq ack).exec w) ↔ ResetLeaves w true := by
  have hopt : (optionBytes control w.stack).length = 0 := by rw [optionBytes, if_neg hsyn]; rfl
  unfold CanAnswer ResetLeaves
  rw [if_pos rfl]
  by_cases hroom : 20 ≤ w.stack.room
  · have hfit : (0 : UInt16).toNat + 20 + (optionBytes control w.stack).length ≤ w.stack.room := by
      rw [hopt]
      exact hroom
    have hsent := (sendSegment_transmitted cb control 0 seq ack htcp hfit).2
    have hself : ((sendSegment cb control 0 seq ack).exec w).self.remoteIP = w.self.remoteIP := by
      rw [Proc.exec, hsent.self]
      exact remoteIP_advance _
    have hroom' : ((sendSegment cb control 0 seq ack).exec w).stack.room = w.stack.room := by
      rw [Proc.exec, hsent.rest]
      rfl
    rw [hself, hroom', and_congr_right_iff]
    intro _
    rcases hmac : IPHandler.getMACForIP w.self.remoteIP w.stack with _ | mac
    · -- the request is made over the segment
      have hasked : ∀ m : Memory, (IPHandler.getMACForIP w.self.remoteIP
          ((ARPHandler.requestMACAddress w.self.remoteIP).exec { w.stack with mem := m })).isSome ↔
          (IPHandler.getMACForIP w.self.remoteIP
            ((ARPHandler.requestMACAddress w.self.remoteIP).exec w.stack)).isSome := by
        intro m
        have hip : ∀ h, ((ARPHandler.requestMACAddress w.self.remoteIP).exec h).ip = h.ip := by
          intro h
          rw [Proc.exec, (ARPHandler.requestMACAddress_scratch w.self.remoteIP h).rest]
        rw [getMACForIP_congr ((hip { w.stack with mem := m }).trans (hip w.stack).symm)
          (ARPHandler.requestMACAddress_mem _ w.stack m)]
      rw [Proc.exec, sendSegment_noRoute htcp (by omega) hmac]
      exact hasked _
    · -- a route that is there is not lost
      obtain ⟨header, -, hrun⟩ := @sendSegment_run _ cb control 0 seq ack w htcp hfit _ hmac _ rfl
      have hroute : (IPHandler.getMACForIP w.self.remoteIP w.stack).isSome := by rw [hmac]; rfl
      rw [Proc.exec, hrun]
      exact iff_of_true hroute ((ARPHandler.requestMACAddress_scratch w.self.remoteIP
        w.stack).route hroute)
  · have hshort := (sendSegment_short cb control seq ack w htcp (by omega)).2
    have hroom' : ((sendSegment cb control 0 seq ack).exec w).stack.room = w.stack.room := by
      rw [Proc.exec, hshort.rest]
      rfl
    rw [hroom']
    exact iff_of_false (fun h => hroom h.1) fun h => hroom h.1

section App

variable (a : App α) {w : World α} {buf : Bytes}

/-- After a reset the host can answer if the reset could leave. -/
theorem canAnswer_reset_iff (htcp : w.self.tcp.isSome) (seq ack : UInt32) :
    CanAnswer ((reset a.callbacks seq ack).exec w) ↔ ResetLeaves w true := by
  obtain ⟨control, hcontrol⟩ : ∃ control,
    control = if ack = w.self.remoteSeq then RST ||| ACK else RST := ⟨_, rfl⟩
  have hsyn : ¬ has control SYN := by
    rw [hcontrol]
    split <;> decide
  rw [← canAnswer_sendSegment_iff a.callbacks hsyn seq ack htcp]
  unfold reset Proc.exec
  rw [Proc.run_read_bind, ← hcontrol]
  rcases hrun : (sendSegment a.callbacks control 0 seq ack).run w with ⟨_ | r, w'⟩
  · rw [Proc.run_bind_of_none hrun]
  · rw [Proc.run_bind_of_some hrun]
    exact (Tells.fire a (.onReset false) w').canAnswer_iff rfl

/-- `forceClose` sends nothing in TIME_WAIT, and a RST in every other state. -/
theorem forceClose_eq (w : World α) : forceClose a.callbacks w = closed a.callbacks
    (if w.self.state = TIME_WAIT then w
      else (reset a.callbacks w.self.localSeq w.self.remoteSeq).exec w) := by
  unfold forceClose
  dsimp only
  by_cases h : w.self.state = TIME_WAIT
  · rw [if_neg (by simpa using h), if_pos h]
  · rw [if_pos (by simpa using h), if_neg h]

/-- Closing the socket does not change whether the host can answer. -/
theorem canAnswer_closed_iff (w : World α) : CanAnswer (closed a.callbacks w) ↔ CanAnswer w :=
  (Tells.closed a w).canAnswer_iff (by rw [self_closed])

/-- After `forceClose` the host can answer if it could before, or has learnt a route by asking. -/
theorem canAnswer_forceClose_iff (htcp : w.self.tcp.isSome) :
    CanAnswer (forceClose a.callbacks w) ↔ ResetLeaves w (conn w).abortion.isSome := by
  rw [forceClose_eq, canAnswer_closed_iff]
  by_cases h : w.self.state = TIME_WAIT
  · rw [if_pos h, Conn.abortion, if_pos (show (conn w).state = TIME_WAIT from h)]
    exact Iff.rfl
  · rw [if_neg h, Conn.abortion, if_neg (show ¬ (conn w).state = TIME_WAIT from h)]
    exact canAnswer_reset_iff a htcp _ _

/-- `forceClose` is silent just if no RST can leave. -/
theorem silent_forceClose_iff (htcp : w.self.tcp.isSome) (h : w.self.state ≠ TIME_WAIT) :
    Silent w (forceClose a.callbacks w) ↔ ¬ CanAnswer w := by
  rw [forceClose_eq, if_neg h, ← silent_reset_iff a htcp w.self.localSeq w.self.remoteSeq]
  exact Eq.congr_left (Tells.closed a _).silent

/-- A segment that is refused is answered with a RST and nothing else. -/
theorem handleValid_refuses (h : (conn w).Refuses (segmentOf a buf w)) : ∃ seq ack,
    handleValid a.callbacks buf (segControl buf) (segAck buf) (segSeq buf) w =
      (reset a.callbacks seq ack).exec w := by
  unfold handleValid
  by_cases h1 : w.self.state = CLOSED ∧ ¬ has (segControl buf) RST
  · rw [if_pos h1, refuse_eq]
    exact ⟨_, _, rfl⟩
  rw [if_neg h1]
  by_cases h2 : w.self.state = LISTEN ∧ ¬ has (segControl buf) SYN ∧ ¬ has (segControl buf) RST
  · rw [if_pos h2, refuse_eq]
    exact ⟨_, _, rfl⟩
  rw [if_neg h2]
  by_cases h3 : (w.self.state = LISTEN ∨ w.self.state = SYN_SENT ∨
      w.self.state = SYN_RECEIVED) ∧ has (segControl buf) ACK ∧ segAck buf > w.self.localSeq
  · rw [if_pos h3]
    exact ⟨_, _, rfl⟩
  · rcases h with h | h | h
    · exact absurd h h1
    · exact absurd h h2
    · exact absurd h h3

/-- A segment that gets past every test but the last. -/
theorem handleValid_last (hadmits : (conn w).Admits (segmentOf a buf w))
    (hopens : ¬ (conn w).Opens (segmentOf a buf w)) (hopen : ¬ (conn w).Open) :
    handleValid a.callbacks buf (segControl buf) (segAck buf) (segSeq buf) w =
      if has (segControl buf) ACK ∧ segAck buf = w.self.localSeq then handleAck a.callbacks w
      else forceClose a.callbacks w := by
  obtain ⟨hrefuses, hchallenges, hrst⟩ := hadmits
  unfold handleValid
  refine (if_neg fun h => hrefuses (.inl h)).trans ?_
  refine (if_neg fun h => hrefuses (.inr (.inl h))).trans ?_
  refine (if_neg fun h => hrefuses (.inr (.inr h))).trans ?_
  refine (if_neg fun h => hchallenges ⟨h.1, .inl h.2⟩).trans ?_
  refine (if_neg fun h => hchallenges ⟨h.1, .inr h.2⟩).trans ?_
  refine (if_neg hrst).trans ?_
  refine (if_neg fun h => hopens (.inl h)).trans ?_
  refine (if_neg fun h => hopens (.inr (.inl h))).trans ?_
  exact (if_neg fun h => hopens (.inr (.inr h))).trans (if_neg hopen)

/-- An answer to a RST leaves the host if and only if there is room and a route for it. -/
theorem handleValid_resets (htcp : w.self.tcp.isSome)
    (h : (conn w).Resets (segmentOf a buf w)) :
    Silent w (handleValid a.callbacks buf (segControl buf) (segAck buf) (segSeq buf) w) ↔
      ¬ CanAnswer w := by
  rcases h with hrefuses | ⟨hadmits, hopens, hopen, hack, hstate⟩
  · obtain ⟨seq, ack, heq⟩ := handleValid_refuses a hrefuses
    rw [heq]
    exact silent_reset_iff a htcp seq ack
  · have heq := (handleValid_last a hadmits hopens hopen).trans (if_neg hack)
    rw [heq]
    exact silent_forceClose_iff a htcp hstate

/-- Reading the MSS option keeps the remote address. -/
theorem remoteIP_readMSS (buf : View) (tcp_header_size : UInt8) (w : World α) :
    (readMSS buf tcp_header_size w).self.remoteIP = w.self.remoteIP := by
  unfold readMSS
  dsimp only
  split_ifs <;> rfl

/-- Reading the MSS option keeps the handler. -/
theorem tcp_readMSS (buf : View) (tcp_header_size : UInt8) (w : World α) :
    (readMSS buf tcp_header_size w).self.tcp = w.self.tcp := by
  unfold readMSS
  dsimp only
  split_ifs <;> rfl

/-- A simultaneous open keeps the remote address. -/
theorem remoteIP_simultaneousOpen (htcp : w.self.tcp.isSome) (view : View) (seq : UInt32) :
    (simultaneousOpen a.callbacks view seq w).self.remoteIP = w.self.remoteIP := by
  unfold simultaneousOpen
  dsimp only
  split
  · rfl
  · rw [(emits_sendACK a (by rw [self_setState, tcp_readMSS]; exact htcp)).2, self_setState]
    exact remoteIP_readMSS _ _ _

/-- An active open keeps the remote address. -/
theorem remoteIP_activeOpen (htcp : w.self.tcp.isSome) (view : View) (seq : UInt32) :
    (activeOpen a.callbacks view seq w).self.remoteIP = w.self.remoteIP := by
  unfold activeOpen
  dsimp only
  split
  · rfl
  · rw [self_setState, (emits_sendACK a (by rw [tcp_readMSS]; exact htcp)).2]
    exact remoteIP_readMSS _ _ _

/-- A segment on a connection keeps the remote address. -/
theorem remoteIP_handleEstablished (htcp : w.self.tcp.isSome)
    (hopen : w.self.state &&& 0x0F = ESTABLISHED) {localIP remoteIP : IPAddr}
    (hsum : checksumOk buf localIP remoteIP) :
    (handleEstablished a.callbacks buf (segControl buf) (segAck buf) (segSeq buf) w).self.remoteIP =
      w.self.remoteIP := by
  have haddress := (handleInOrder_yields a htcp buf hopen).keeps.address
  have hip := (Prod.mk.inj (Prod.mk.inj haddress).2).1
  unfold handleEstablished
  dsimp only
  rw [read_segWords hsum]
  dsimp only
  split
  · rfl
  split
  · rw [(emits_sendACK a htcp).2]
  split
  · exact hip
  · exact hip

/-- A RST keeps the remote address. -/
theorem remoteIP_handleReset (ack seq : UInt32) (w : World α) :
    (handleReset a.callbacks ack seq w).self.remoteIP = w.self.remoteIP := by
  unfold handleReset
  split_ifs
  · rw [self_fire, self_closed]
  · rfl
  · rw [self_closed]
  · rw [self_fire, self_closed]
  · rfl

/-- An acknowledgement keeps the remote address. -/
theorem remoteIP_handleAck (w : World α) :
    (handleAck a.callbacks w).self.remoteIP = w.self.remoteIP := by
  unfold handleAck
  split_ifs
  · rw [self_setState]
  · rw [self_setState]
  · rw [self_setState]
  · rw [self_closed]
  · rfl

/-- Between two worlds the address of the peer has not changed. -/
def SamePeer (w w' : World α) : Prop := w'.self.remoteIP = w.self.remoteIP

/-- A segment leaves the address of the peer alone, once it has been taken note of. -/
theorem samePeer_handleValid (htcp : w.self.tcp.isSome) {localIP remoteIP : IPAddr}
    (hsum : checksumOk buf localIP remoteIP) :
    SamePeer w (handleValid a.callbacks buf (segControl buf) (segAck buf) (segSeq buf) w) := by
  have hreset : ∀ seq ack, SamePeer w ((reset a.callbacks seq ack).exec w) := by
    intro seq ack
    rw [SamePeer, (emits_reset a htcp _ _).2]
  have hrefuse : SamePeer w
      (refuse a.callbacks (viewOf buf) (segControl buf) (segAck buf) (segSeq buf) w) := by
    rw [refuse_eq]
    exact hreset _ _
  have hsendACK : SamePeer w (sendACK a.callbacks w) := by
    rw [SamePeer, (emits_sendACK a htcp).2]
  have hforce : SamePeer w (forceClose a.callbacks w) := by
    rw [SamePeer, (forceClose_emits a htcp).2]
  have hpassive : SamePeer w (passiveOpen a.callbacks (viewOf buf) (segSeq buf) w) :=
    congrArg (fun h : Option ℕ × UInt16 × UInt16 × IPAddr => h.2.2.2)
      (captures_passiveOpen a.callbacks (viewOf buf) (segSeq buf) w).home
  unfold handleValid
  refine iteInduction (fun _ => hrefuse) fun _ => ?_
  refine iteInduction (fun _ => hrefuse) fun _ => ?_
  refine iteInduction (fun _ => hreset _ _) fun _ => ?_
  refine iteInduction (fun _ => hsendACK) fun _ => ?_
  refine iteInduction (fun _ => hsendACK) fun _ => ?_
  refine iteInduction (fun _ => remoteIP_handleReset a _ _ w) fun _ => ?_
  refine iteInduction (fun _ => hpassive) fun _ => ?_
  refine iteInduction (fun _ => remoteIP_simultaneousOpen a htcp _ _) fun _ => ?_
  refine iteInduction (fun _ => remoteIP_activeOpen a htcp _ _) fun _ => ?_
  refine iteInduction (fun hopen => remoteIP_handleEstablished a htcp hopen hsum) fun _ => ?_
  exact iteInduction (fun _ => remoteIP_handleAck a w) fun _ => hforce

/-- The RSTs that leave the host in answer to a segment. -/
theorem handleValid_noReset_iff (hw : Wired w) {e : Effect} {c : Conn}
    (hstep : Receives (limits w) (segmentOf a buf w) (conn w) e c)
    (hmoves : Moves w e
      (handleValid a.callbacks buf (segControl buf) (segAck buf) (segSeq buf) w)) :
    NoReset w (handleValid a.callbacks buf (segControl buf) (segAck buf) (segSeq buf) w) ↔
      ∀ o, e.sends = some o → has o.control RST → ¬ CanAnswer w := by
  have hsilent : (conn w).Resets (segmentOf a buf w) → (Silent w (handleValid a.callbacks buf
      (segControl buf) (segAck buf) (segSeq buf) w) ↔ ¬ CanAnswer w) :=
    handleValid_resets a hw.tcp
  generalize handleValid a.callbacks buf (segControl buf) (segAck buf) (segSeq buf) w = w' at *
  obtain ⟨m, -, hemits⟩ := hmoves
  obtain ⟨l, hlog, -, hleaves⟩ := hemits.log
  have hlog : w'.stack.log = w.stack.log ++ l := hlog
  have hmem : ∀ p ∈ packetsOf l, isReset p → p ∈ segmentsOf l := by
    intro p hp hreset
    simp only [isReset, Bool.and_eq_true, beq_iff_eq] at hreset
    exact List.mem_filter.mpr ⟨hp, by simpa using hreset.1⟩
  have hiff : NoReset w w' ↔ ∀ p ∈ segmentsOf l, ¬ isReset p := by
    constructor
    · rintro ⟨l', hl', h⟩ p hp
      obtain rfl : l = l' := List.append_cancel_left (hlog.symm.trans hl')
      exact h p (List.mem_of_mem_filter hp)
    · exact fun h => ⟨l, hlog, fun p hp hreset => h p (hmem p hp hreset) hreset⟩
  rw [hiff]
  by_cases hresets : (conn w).Resets (segmentOf a buf w)
  · obtain ⟨control, seq, ack, ho, hcontrol⟩ := hstep.sends_of_resets hresets
    have hrst : has control RST := by rcases hcontrol with rfl | rfl <;> decide
    have hnil : (∀ p ∈ segmentsOf l, ¬ isReset p) ↔ segmentsOf l = [] := by
      rcases hleaves.segment with hnil | ⟨o, p, ho', hp, hseg⟩
      · rw [hnil]
        simp
      · rw [ho] at ho'
        obtain rfl := Option.some.inj ho'
        have hreset : isReset p := by
          rw [isReset, hseg.protocol, hseg.control]
          simpa using hrst
        rw [hp]
        exact iff_of_false (fun h => h p List.mem_cons_self hreset) (by simp)
    have hall : (∀ o, e.sends = some o → has o.control RST → ¬ CanAnswer w) ↔ ¬ CanAnswer w :=
      ⟨fun h => h _ ho hrst, fun h _ _ _ => h⟩
    rw [hnil, hall, ← hsilent hresets, Silent, hlog, segmentsOf_append, List.append_right_eq_self]
  · refine iff_of_true (fun p hp hreset => ?_) fun o ho hrst =>
      absurd (hstep.resets_of_sends ho hrst) hresets
    rcases hleaves.segment with hnil | ⟨o, q, ho, hq, hseg⟩
    · rw [hnil] at hp
      exact absurd hp (by simp)
    · rw [hq, List.mem_singleton] at hp
      subst hp
      simp only [isReset, Bool.and_eq_true] at hreset
      rw [hseg.control] at hreset
      exact hresets (hstep.resets_of_sends ho hreset.2)

/-! ### Two copies -/

/-- A socket is one that `TCPHandler::handlePacket` may hand a segment to: the segment is of its
connection, or the socket listens on its port. -/
def Finds (sourceIP : IPAddr) (buf : Bytes) (s : Socket) : Prop :=
  ∃ sourcePort localPort, (viewOf buf).readNet16 0 = some sourcePort ∧
    (viewOf buf).readNet16 2 = some localPort ∧
      (s.equals sourceIP sourcePort localPort ∨ s.equalsListen localPort)

/-- Between `w₁` and `w₂` a socket finds nothing to do in the second copy of the segment that
led from `w` to `w₁`. -/
structure Harmless (w w₁ w₂ : World α) : Prop where
  state : w₂.self.state = w₁.self.state
  localSeq : w₂.self.localSeq = w₁.self.localSeq
  remoteSeq : w₂.self.remoteSeq = w₁.self.remoteSeq
  delivers : ∃ l l', w₁.stack.log = w.stack.log ++ l ∧ w₂.stack.log = w₁.stack.log ++ l' ∧
    (receivedOf w.this l = [] ∨ receivedOf w.this l' = [])
  noReset : NoReset w₁ w₂

/-- A segment that is found for a socket comes from its peer, or the socket listens. -/
theorem Finds.sourceIP {sourceIP : IPAddr} {s : Socket} (h : Finds sourceIP buf s) :
    s.state = LISTEN ∨ sourceIP = s.remoteIP := by
  obtain ⟨sourcePort, localPort, -, -, h | h⟩ := h
  · unfold equals at h
    split_ifs at h
    exact .inr (by simpa using h)
  · simp only [equalsListen, Bool.and_eq_true, beq_iff_eq] at h
    exact .inl h.1.2

/-- The second copy of a segment finds the address that the first has found or left. -/
theorem remoteIP_arrive_again {sourceIP : IPAddr} {w₁ : World α} (hfinds : Finds sourceIP buf w.self)
    (hip : w₁.self.remoteIP = (arrive sourceIP buf w).self.remoteIP) :
    (arrive sourceIP buf w₁).self.remoteIP = (arrive sourceIP buf w).self.remoteIP := by
  by_cases hsyn : segControl buf = SYN
  · have hfirst : (arrive sourceIP buf w).self.remoteIP = sourceIP := by
      by_cases hlisten : w.self.state = LISTEN
      · exact if_pos ⟨hlisten, hsyn⟩
      · exact (if_neg fun h => hlisten h.1).trans (hfinds.sourceIP.resolve_left hlisten).symm
    rw [hfirst] at hip ⊢
    by_cases hlisten : w₁.self.state = LISTEN
    · exact if_pos ⟨hlisten, hsyn⟩
    · exact (if_neg fun h => hlisten h.1).trans hip
  · exact (if_neg fun h => hsyn h.2).trans hip

/-- The answer of the application to the payload of a segment that establishes the
connection, when it comes again. -/
def acceptsAgain (a : App α) (buf : Bytes) (w : World α) : Bool :=
  (a.onDataReceived (segPayload buf) (a.on .onReadyToSend (a.on .onEstablished w.app))).1

/-- The route to the peer after a segment that is answered with a RST, or ends LAST_ACK. -/
theorem canAnswer_handleValid_iff (htcp : w.self.tcp.isSome) {e : Effect} {c : Conn}
    (hstep : Receives (limits w) (segmentOf a buf w) (conn w) e c)
    (hkind : (conn w).Refuses (segmentOf a buf w) ∨ (conn w).Admits (segmentOf a buf w) ∧
      ¬ (conn w).Opens (segmentOf a buf w) ∧ ¬ (conn w).Open) :
    CanAnswer (handleValid a.callbacks buf (segControl buf) (segAck buf) (segSeq buf) w) ↔
      ResetLeaves w e.sends.isSome := by
  rcases hkind with hrefuses | ⟨hadmits, hopens, hopen⟩
  · obtain ⟨control, seq, ack, ho, -⟩ := hstep.sends_of_refuses hrefuses
    obtain ⟨seq', ack', heq⟩ := handleValid_refuses a hrefuses
    rw [heq, ho]
    exact canAnswer_reset_iff a htcp seq' ack'
  · rw [hstep.sends_of_admits hadmits hopens hopen]
    have hlast := handleValid_last a hadmits hopens hopen
    by_cases hack : (conn w).Acknowledged (segmentOf a buf w)
    · rw [if_pos hack, hlast.trans (if_pos hack)]
      refine Tells.canAnswer_iff (d := none) ?_ (remoteIP_handleAck a w)
      unfold handleAck
      split_ifs
      · exact Tells.setState a _ w
      · exact Tells.setState a _ w
      · exact Tells.setState a _ w
      · exact Tells.closed a w
      · exact Tells.refl w
    · rw [if_neg hack, hlast.trans (if_neg hack)]
      exact canAnswer_forceClose_iff a htcp

/-- The application once the connection is established. -/
theorem app_handleAck (h : w.self.state = SYN_RECEIVED) :
    (handleAck a.callbacks w).app = a.on .onReadyToSend (a.on .onEstablished w.app) := by
  unfold handleAck
  rw [if_pos h]
  rfl

/-- The second copy of a segment without RST is harmless if and only if the connection was
repeatable. -/
theorem handleSegment_again_iff (hw : Wired w) {sourceIP : IPAddr}
    (hfinds : Finds sourceIP buf w.self)
    (hsum : checksumOk buf w.stack.ip.ipAddress (arrive sourceIP buf w).self.remoteIP)
    (hrst : ¬ has (segControl buf) RST) :
    Harmless w (handleSegment a.callbacks sourceIP buf w)
        (handleSegment a.callbacks sourceIP buf (handleSegment a.callbacks sourceIP buf w)) ↔
      (conn w).Repeatable (limits w) (segmentOf a buf w) (acceptsAgain a buf w)
        (ResetLeaves (arrive sourceIP buf w)) := by
  have hw₀ : Wired (arrive sourceIP buf w) := ⟨hw.tcp, hw.sendBuffer, hw.stash, hw.within⟩
  have hrefines := handleValid_refines a hw₀ hsum
  have hsame := samePeer_handleValid a (w := arrive sourceIP buf w) hw.tcp hsum
  have hroute := @canAnswer_handleValid_iff _ a (arrive sourceIP buf w) buf hw.tcp
  have hlast := @handleValid_last _ a (arrive sourceIP buf w) buf
  rw [handleSegment_valid a.callbacks hw.tcp hsum]
  generalize handleValid a.callbacks buf (segControl buf) (segAck buf) (segSeq buf)
    (arrive sourceIP buf w) = w₁ at hrefines hsame hroute hlast ⊢
  have hw₁ : Wired w₁ := hrefines.wired hw₀ fun e c h => h.within hw₀.within
  obtain ⟨⟨e, hstep, m, -, hemits⟩, hid, -⟩ := hrefines
  obtain ⟨l, hlog, hreceived, -⟩ := hemits.log
  have hip : (arrive sourceIP buf w₁).self.remoteIP = (arrive sourceIP buf w).self.remoteIP :=
    remoteIP_arrive_again hfinds hsame
  have hlimits : limits w₁ = limits (arrive sourceIP buf w) := limits_eq hid hemits.room
  have hsum' : checksumOk buf w₁.stack.ip.ipAddress (arrive sourceIP buf w₁).self.remoteIP := by
    have haddress : w₁.stack.ip.ipAddress = w.stack.ip.ipAddress := by
      rw [hemits.rest]
      rfl
    rw [haddress, hip]
    exact hsum
  rw [handleSegment_valid a.callbacks hw₁.tcp hsum']
  have hw₁' : Wired (arrive sourceIP buf w₁) := ⟨hw₁.tcp, hw₁.sendBuffer, hw₁.stash, hw₁.within⟩
  obtain ⟨⟨e', hstep', hmoves'⟩, -, -⟩ := handleValid_refines a hw₁' hsum'
  have hnoReset := handleValid_noReset_iff a hw₁' hstep' hmoves'
  generalize handleValid a.callbacks buf (segControl buf) (segAck buf) (segSeq buf)
    (arrive sourceIP buf w₁) = w₂ at hstep' hmoves' hnoReset ⊢
  obtain ⟨m', -, hemits'⟩ := hmoves'
  obtain ⟨l', hlog', hreceived', -⟩ := hemits'.log
  have hlimits' : limits (arrive sourceIP buf w₁) = limits w := hlimits
  have hcopy : segmentOf a buf (arrive sourceIP buf w₁) = { segmentOf a buf w with
      accepted := (a.onDataReceived (segPayload buf) w₁.app).1 } := rfl
  rw [hlimits', hcopy] at hstep'
  have hagain : (conn w).Repeatable (limits w) (segmentOf a buf w)
      (a.onDataReceived (segPayload buf) w₁.app).1 (ResetLeaves (arrive sourceIP buf w)) ↔
        (conn w).Repeatable (limits w) (segmentOf a buf w) (acceptsAgain a buf w)
          (ResetLeaves (arrive sourceIP buf w)) := by
    refine Conn.repeatable_congr hrst fun hadmits hstate hack => ?_
    have hopens : ¬ (conn w).Opens (segmentOf a buf w) := Conn.not_opens (by rw [hstate]; decide)
    have hopen : ¬ (conn w).Open := by
      unfold Conn.Open
      rw [hstate]
      decide
    rw [hlast hadmits hopens hopen |>.trans (if_pos hack),
      app_handleAck a (w := arrive sourceIP buf w) hstate]
    rfl
  have hcan : CanAnswer (arrive sourceIP buf w₁) ↔ CanAnswer w₁ := by
    unfold CanAnswer
    rw [hip, show (arrive sourceIP buf w).self.remoteIP = w₁.self.remoteIP from hsame.symm]
    rfl
  have hroute' := fun hkind => hcan.trans (hroute hstep hkind)
  have hstep₀ : Receives (limits w) (segmentOf a buf w) (conn w) e (conn w₁) := hstep
  refine Iff.trans ?_ ((Receives.repeats_iff hrst hstep₀ hstep' hroute').trans hagain)
  have hthis : w₁.this = w.this := hemits.this
  have hdelivers : receivedOf w.this l = [] ↔ e.delivers = none := by
    rw [show receivedOf w.this l = _ from hreceived]
    exact Option.toList_eq_nil_iff
  have hdelivers' : receivedOf w.this l' = [] ↔ e'.delivers = none := by
    rw [← hthis, show receivedOf w₁.this l' = _ from hreceived']
    exact Option.toList_eq_nil_iff
  constructor
  · rintro ⟨hstate, hlocal, hremote, ⟨k, k', hk, hk', hnone⟩, hreset⟩
    obtain rfl : l = k := List.append_cancel_left (hlog.symm.trans hk)
    obtain rfl : l' = k' := List.append_cancel_left (hlog'.symm.trans hk')
    exact ⟨⟨hstate, hlocal, hremote, hnoReset.mp hreset⟩, hnone.imp hdelivers.mp hdelivers'.mp⟩
  · rintro ⟨⟨hstate, hlocal, hremote, hreset⟩, hnone⟩
    exact ⟨hstate, hlocal, hremote, ⟨l, l', hlog, hlog', hnone.imp hdelivers.mpr hdelivers'.mpr⟩,
      hnoReset.mpr hreset⟩

end App

/-- The server has its buffers. -/
theorem wired_exampleServer : Wired exampleServer where
  tcp := by decide +kernel
  sendBuffer := rfl
  stash := ⟨_, rfl, ⟨by decide +kernel, trivial⟩, rfl⟩
  within := ⟨fun h => absurd h (by decide +kernel), fun h => absurd h (by decide +kernel),
    fun h => absurd h (by decide +kernel)⟩

/-- The ACK of the handshake, once the listener's connection is established. -/
theorem handleSegment_again_ack :
    Harmless exampleServer (handleSegment exampleApp.callbacks ⟨10, 0, 0, 1⟩ exampleAck exampleServer)
      (handleSegment exampleApp.callbacks ⟨10, 0, 0, 1⟩ exampleAck
        (handleSegment exampleApp.callbacks ⟨10, 0, 0, 1⟩ exampleAck exampleServer)) := by
  have hfinds : Finds ⟨10, 0, 0, 1⟩ exampleAck exampleServer.self :=
    ⟨49152, 80, by decide +kernel, by decide +kernel, by decide +kernel⟩
  have hadmits : (conn exampleServer).Admits (segmentOf exampleApp exampleAck exampleServer) := by
    unfold Conn.Admits
    decide +kernel
  have hopen : (conn exampleServer).Open := by decide +kernel
  refine (handleSegment_again_iff exampleApp wired_exampleServer hfinds (by decide +kernel)
    (by decide +kernel)).mpr ?_
  rw [hadmits.repeatable_iff, if_neg hopen.not_opens, if_pos hopen]
  intro _ _
  rw [if_neg (by decide +kernel)]
  exact fun h => absurd h.1 (by decide +kernel)

/-- The listener has its buffers. -/
theorem wired_exampleListener : Wired (exampleListener.world 0) where
  tcp := by decide +kernel
  sendBuffer := rfl
  stash := ⟨_, rfl, ⟨by decide +kernel, trivial⟩, rfl⟩
  within := ⟨fun h => absurd h (by decide +kernel), fun h => absurd h (by decide +kernel),
    fun h => absurd h (by decide +kernel)⟩

/-- The second copy of a SYN aborts the handshake that the first has begun. -/
theorem secondSyn_aborts :
    let w := exampleListener.world 0
    let w₁ := handleSegment exampleApp.callbacks ⟨10, 0, 0, 1⟩ exampleSyn w
    let w₂ := handleSegment exampleApp.callbacks ⟨10, 0, 0, 1⟩ exampleSyn w₁
    Wired w ∧ Finds ⟨10, 0, 0, 1⟩ exampleSyn w.self ∧
      checksumOk exampleSyn w.stack.ip.ipAddress (arrive ⟨10, 0, 0, 1⟩ exampleSyn w).self.remoteIP ∧
      ¬ has (segControl exampleSyn) RST ∧ w₁.self.state = SYN_RECEIVED ∧ w₂.self.state = LISTEN ∧
      ¬ Harmless w w₁ w₂ := by
  have hfinds : Finds ⟨10, 0, 0, 1⟩ exampleSyn (exampleListener.world 0).self :=
    ⟨49152, 80, by decide +kernel, by decide +kernel, by decide +kernel⟩
  refine ⟨wired_exampleListener, hfinds, by decide +kernel, by decide +kernel, by decide +kernel,
    by decide +kernel, fun h => ?_⟩
  exact absurd h.state (by decide +kernel)

end Socket

end AtmegaNet
