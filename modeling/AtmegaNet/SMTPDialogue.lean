import AtmegaNet.Frame
import AtmegaNet.SMTPClient

/-!
# The order of a mail dialogue

`SMTPClient` does not look at what `send` returns: the state of the protocol goes on although a
command was refused. This module says what a session keeps to all the same, and what it keeps to
where every command is one that `send` takes: the commands are sent in the order of the script,
each once, and each behind the reply to the one before.

## Main results

* `readies_readied`, `Sound.answered`: what the two callbacks do to a session that is in order.
* `Session.reaches_onDataReceived`: a buffer is received line by line.
* `Session.reaches_inOrder`: the order of a dialogue in which every command fits.
-/

open Procedure Runs

namespace AtmegaNet

namespace SMTPClient

open Socket

/-! ### Dialogues in order -/

/-- The commands that were accepted. -/
def commands (turns : List Turn) : List Command :=
  turns.filterMap fun
    | .line _ => none
    | .sent c => some c

/-- The reply that a command is to be answered with; behind QUIT nothing is sent. -/
def isReply (c : Command) (line : Bytes) : Bool :=
  match c with
  | .helo | .mailFrom | .rcptTo | .message => checkCode line 250
  | .authLogin => checkCode line 334 && checkMessage line (ascii "VXNlcm5hbWU6")
  | .user => checkCode line 334 && checkMessage line (ascii "UGFzc3dvcmQ6")
  | .password => checkCode line 235
  | .data => checkCode line 354
  | .quit => false

/-- The reply to a command has been received behind it. -/
def Answered (c : Command) (turns : List Turn) : Prop :=
  ∃ before between line after,
    turns = before ++ .sent c :: between ++ .line line :: after ∧ isReply c line

/-- Each command of the script but the first is sent behind the reply to the one before. -/
def Orderly (turns : List Turn) : Prop :=
  ∀ i c c' before after, script[i]? = some c → script[i + 1]? = some c' →
    turns = before ++ .sent c' :: after → Answered c before

/-- A line from the server is no command. -/
@[simp] theorem commands_line (turns : List Turn) (line : Bytes) :
    commands (turns ++ [.line line]) = commands turns := by
  simp [commands]

/-- A command sent comes last. -/
@[simp] theorem commands_sent (turns : List Turn) (c : Command) :
    commands (turns ++ [.sent c]) = commands turns ++ [c] := by
  simp [commands]

/-- What has been answered stays answered. -/
theorem Answered.append {c : Command} {turns : List Turn} (h : Answered c turns) (t : Turn) :
    Answered c (turns ++ [t]) := by
  obtain ⟨before, between, line, after, rfl, hreply⟩ := h
  exact ⟨before, between, line, after ++ [t], by simp, hreply⟩

/-- A command that has been sent is answered by its reply. -/
theorem answered_of_reply {c : Command} {turns : List Turn} {line : Bytes}
    (hsent : c ∈ commands turns) (hreply : isReply c line) :
    Answered c (turns ++ [.line line]) := by
  obtain ⟨t, ht, htc⟩ := List.mem_filterMap.mp hsent
  obtain rfl : t = .sent c := by
    cases t with
    | line => exact absurd htc (by simp)
    | sent c' => rw [Option.some.inj htc]
  obtain ⟨before, between, rfl⟩ := List.append_of_mem ht
  exact ⟨before, between, line, [], rfl, hreply⟩

namespace Orderly

variable {turns : List Turn}

/-- Nothing said is in order. -/
theorem nil : Orderly [] := fun _ _ _ before after _ _ h => absurd h (by simp)

/-- Where the last turn is not at the split, the split is one of the turns before. -/
theorem split_concat {t t' : Turn} {before after : List Turn}
    (h : turns ++ [t] = before ++ t' :: after) :
    (turns = before ∧ t = t') ∨ ∃ after', turns = before ++ t' :: after' := by
  rcases List.eq_nil_or_concat after with rfl | ⟨after', last, rfl⟩
  · obtain ⟨hturns, ht⟩ := List.append_inj' h rfl
    exact .inl ⟨hturns, List.singleton_inj.mp ht⟩
  · rw [List.concat_eq_append, ← List.cons_append, ← List.append_assoc] at h
    exact .inr ⟨after', (List.append_inj' h rfl).1⟩

/-- A line of the server keeps the order. -/
theorem line (h : Orderly turns) (line : Bytes) : Orderly (turns ++ [.line line]) := by
  intro i c c' before after hc hc' hturns
  rcases split_concat hturns with ⟨-, ht⟩ | ⟨after', hturns⟩
  · exact absurd ht (by simp)
  · exact h i c c' before after' hc hc' hturns

/-- A command keeps it if the one before it has been answered. -/
theorem sent (h : Orderly turns) {i : ℕ} {c : Command} (hc : script[i]? = some c)
    (hanswered : ∀ j d, i = j + 1 → script[j]? = some d → Answered d turns) :
    Orderly (turns ++ [.sent c]) := by
  have hnodup : script.Nodup := by decide
  intro j d d' before after hd hd' hturns
  rcases split_concat hturns with ⟨rfl, ht⟩ | ⟨after', hturns⟩
  · obtain rfl : c = d' := by simpa using ht
    have hi : i < script.length := (List.getElem?_eq_some_iff.mp hc).1
    exact hanswered j d ((List.getElem?_inj hi hnodup).mp (hc.trans hd'.symm)) hd
  · exact h j d d' before after' hd hd' hturns

end Orderly

/-! ### The steps of a session -/

/-- A session in progress. `receiving` says that `onDataReceived` is going through a buffer. -/
structure Session where
  receiving : Bool
  world : World SMTPClient

/-- The state of the protocol that a line leads to. -/
def stateAfter (line : Bytes) (protocolState : UInt8) : UInt8 :=
  match replies.find? fun reply => reply.1 = protocolState with
  | none => protocolState
  | some (_, expected, next) => if expected line then next else protocolState

/-- The command that is due in a state of the protocol is one that `send` takes. QUIT is the
last, and need not be. -/
def TakesDue (protocolState : UInt8) (w : World SMTPClient) : Prop :=
  ∀ c, due protocolState = some c → c ≠ .quit → Takes (commandLength c w) w

/-- What happens around the events of a session leaves the client as it is, apart from the line
that is being put together, and does not establish the connection again. -/
structure Undisturbed (w w' : World SMTPClient) : Prop where
  app : { w'.app with recvLine := w.app.recvLine } = w.app
  getState : w'.self.getState = ESTABLISHED → w.self.getState = ESTABLISHED

namespace Session

/-- What happens in a session. -/
inductive Event
  | beginData
  | line (line : Bytes)
  | endData
  | readyToSend
  | remoteClosed
  | closed
  | reset
  | outside (w : World SMTPClient)

/-- The session that a connection begins. -/
def start (w : World SMTPClient) : Session := ⟨false, onEstablished w⟩

/-- The reaction of the client. -/
def run : Event → Session → Session
  | .beginData, x => { x with receiving := true }
  | .line line, x => { x with world := onLineReceived line x.world }
  | .endData, x => { x with receiving := false }
  | .readyToSend, x => { x with world := onReadyToSend x.world }
  | .remoteClosed, x => { x with world := onRemoteClosed x.world }
  | .closed, x => { x with world := onClosed x.world }
  | .reset, x => { x with world := failed x.world }
  | .outside w, x => { x with world := w }

/-- Data is received in ESTABLISHED; its lines are received one after the other, also where the
client closes the connection between two of them. -/
def Possible (x : Session) : Event → Prop
  | .beginData => ¬ x.receiving ∧ x.world.self.getState = ESTABLISHED
  | .line _ | .endData => x.receiving
  | .outside w => Undisturbed x.world w
  | _ => ¬ x.receiving

/-- The command a step hands to `send` in ESTABLISHED is one that `send` takes. Behind a line
with the code 500 there is none if the connection can be closed. -/
def Granted (x : Session) : Event → Prop
  | .readyToSend =>
      x.world.self.getState = ESTABLISHED → TakesDue x.world.app.protocolState x.world
  | .line line =>
      x.world.self.readyToSend → ¬ (checkCode line 500 ∧ CanReset x.world) →
        TakesDue (stateAfter line x.world.app.protocolState) x.world
  | _ => True

end Session

/-! ### In step with the protocol -/

/-- Where a session stands: the state of the protocol says what has been sent, the last command
being answered in the states that have a next one due; or all has been sent; or a command was
refused behind the last buffer of a connection that is no longer established. -/
inductive Place (x : Session) : Prop
  | inStep (hstate : x.world.app.protocolState.toNat ≤ 17)
      (hcommands : commands x.world.app.dialogue =
        script.take (x.world.app.protocolState.toNat / 2))
      (hanswered : ∀ i c, x.world.app.protocolState.toNat = 2 * i + 3 → script[i]? = some c →
        Answered c x.world.app.dialogue)
  | done (hstate : x.world.app.protocolState = SMTP_READY_FOR_QUIT)
      (hcommands : commands x.world.app.dialogue = script)
      (hclosed : x.world.self.getState ≠ ESTABLISHED)
  | refused {i : ℕ} (hstate : x.world.app.protocolState.toNat = 2 * i + 2)
      (hcommands : commands x.world.app.dialogue = script.take i)
      (hidle : ¬ x.receiving) (hclosed : x.world.self.getState ≠ ESTABLISHED)

/-- The invariant of a session that began with the given status. -/
structure Sound (status : UInt8) (x : Session) : Prop where
  orderly : Orderly x.world.app.dialogue
  place : Place x
  sent : x.world.app.status = EMAIL_SENT →
    status = EMAIL_SENT ∨ script.take 8 <+: commands x.world.app.dialogue

/-- A dialogue in order: the commands are a prefix of the script, each once, each behind the
reply to the one before; and a mail counts as sent only when its message has been. -/
structure Session.InOrder (status : UInt8) (x : Session) : Prop where
  orderly : Orderly x.world.app.dialogue
  inScript : commands x.world.app.dialogue <+: script
  nodup : (commands x.world.app.dialogue).Nodup
  sent : getStatus x.world = EMAIL_SENT →
    status = EMAIL_SENT ∨ script.take 8 <+: commands x.world.app.dialogue

/-- A command is due in the odd states. -/
theorem due_eq_some {protocolState : UInt8} {c : Command} (h : due protocolState = some c) :
    ∃ i, protocolState.toNat = 2 * i + 1 ∧ script[i]? = some c := by
  unfold due at h
  split at h
  case isTrue hodd =>
    have hodd' : protocolState.toNat % 2 = 1 := by
      rw [← UInt8.toNat_inj, UInt8.toNat_mod] at hodd
      exact hodd
    exact ⟨protocolState.toNat / 2, by omega, h⟩
  case isFalse => exact absurd h (by simp)

/-- The states that wait for a line, with the reply each waits for. -/
theorem mem_replies {protocolState next : UInt8} {expected : Bytes → Bool}
    (h : (protocolState, expected, next) ∈ replies) :
    (protocolState = SMTP_INIT ∧ next = SMTP_SERVER_READY) ∨
      ∃ i c, protocolState.toNat = 2 * i + 2 ∧ next.toNat = 2 * i + 3 ∧ script[i]? = some c ∧
        expected = isReply c := by
  simp only [replies, List.mem_cons, Prod.mk.injEq, List.not_mem_nil, or_false] at h
  rcases h with ⟨rfl, -, rfl⟩ | ⟨rfl, rfl, rfl⟩ | ⟨rfl, rfl, rfl⟩ | ⟨rfl, rfl, rfl⟩ |
    ⟨rfl, rfl, rfl⟩ | ⟨rfl, rfl, rfl⟩ | ⟨rfl, rfl, rfl⟩ | ⟨rfl, rfl, rfl⟩ | ⟨rfl, rfl, rfl⟩
  · exact .inl ⟨rfl, rfl⟩
  · exact .inr ⟨0, .helo, rfl, rfl, rfl, rfl⟩
  · exact .inr ⟨1, .authLogin, rfl, rfl, rfl, rfl⟩
  · exact .inr ⟨2, .user, rfl, rfl, rfl, rfl⟩
  · exact .inr ⟨3, .password, rfl, rfl, rfl, rfl⟩
  · exact .inr ⟨4, .mailFrom, rfl, rfl, rfl, rfl⟩
  · exact .inr ⟨5, .rcptTo, rfl, rfl, rfl, rfl⟩
  · exact .inr ⟨6, .data, rfl, rfl, rfl, rfl⟩
  · exact .inr ⟨7, .message, rfl, rfl, rfl, rfl⟩

namespace Sound

variable {status : UInt8} {x : Session}

/-- What leaves the dialogue and the state of the protocol as they are. -/
theorem congr (h : Sound status x) {x' : Session} (hreceiving : x'.receiving → x.receiving)
    (hdialogue : x'.world.app.dialogue = x.world.app.dialogue)
    (hstate : x'.world.app.protocolState = x.world.app.protocolState)
    (hsent : x'.world.app.status = EMAIL_SENT → x.world.app.status = EMAIL_SENT)
    (hopen : x'.world.self.getState = ESTABLISHED → x.world.self.getState = ESTABLISHED) :
    Sound status x' := by
  obtain ⟨horderly, hplace, hstatus⟩ := h
  rw [← hdialogue] at horderly hstatus
  refine ⟨horderly, ?_, fun h => hstatus (hsent h)⟩
  cases hplace with
  | inStep hle hcommands hanswered =>
      rw [← hdialogue, ← hstate] at hcommands
      rw [← hdialogue, ← hstate] at hanswered
      exact .inStep (hstate ▸ hle) hcommands hanswered
  | done hquit hcommands hclosed =>
      exact .done (hstate.trans hquit) (hdialogue ▸ hcommands) (hclosed ∘ hopen)
  | refused hodd hcommands hidle hclosed =>
      exact .refused (hstate ▸ hodd) (hdialogue ▸ hcommands) (hidle ∘ hreceiving)
        (hclosed ∘ hopen)

/-- Sending a command, or trying to, in the state where it is due. -/
theorem command (h : Sound status x) {w' : World SMTPClient} {c : Command}
    (hdue : due x.world.app.protocolState = some c) (hquit : c ≠ .quit) {sent : Bool}
    (happ : w'.app = { x.world.app with
      protocolState := x.world.app.protocolState + 1
      dialogue := x.world.app.dialogue ++ if sent then [.sent c] else [] })
    (hstate : w'.self.getState = x.world.self.getState)
    (hrefused : ¬ sent → ¬ x.receiving ∧ x.world.self.getState ≠ ESTABLISHED) :
    Sound status { x with world := w' } := by
  obtain ⟨i, hi, hc⟩ := due_eq_some hdue
  have hlast : i ≠ 8 := by
    rintro rfl
    exact hquit (Option.some.inj hc).symm
  have hi8 : i < 9 := (List.getElem?_eq_some_iff.mp hc).1
  have hnext : (x.world.app.protocolState + 1).toNat = 2 * i + 2 := by
    rw [UInt8.toNat_add, hi]
    exact Nat.mod_eq_of_lt (by simp; omega)
  obtain ⟨horderly, hplace, hstatus⟩ := h
  have hstep : commands x.world.app.dialogue = script.take i ∧
      ∀ j d, i = j + 1 → script[j]? = some d → Answered d x.world.app.dialogue := by
    cases hplace with
    | inStep _ hcommands hanswered =>
        refine ⟨?_, fun j d hj hd => hanswered j d (by omega) hd⟩
        rw [hcommands, hi]
        exact congrArg script.take (by omega)
    | done hdone =>
        have h17 : x.world.app.protocolState.toNat = 17 := congrArg UInt8.toNat hdone
        omega
    | refused heven => omega
  have htake : script.take (i + 1) = script.take i ++ [c] := by
    rw [List.take_add_one, hc]
    rfl
  cases sent with
  | true =>
      have hcommands : commands w'.app.dialogue = script.take (i + 1) := by
        rw [happ, htake, ← hstep.1]
        exact commands_sent _ _
      refine ⟨?_, .inStep ?_ ?_ fun j d hj _ => ?_, fun hsent => ?_⟩
      · show Orderly w'.app.dialogue
        rw [happ]
        exact horderly.sent hc hstep.2
      · show w'.app.protocolState.toNat ≤ 17
        rw [happ, hnext]
        omega
      · show commands w'.app.dialogue = script.take (w'.app.protocolState.toNat / 2)
        rw [hcommands, happ, hnext]
        exact congrArg script.take (by omega)
      · have hj' : w'.app.protocolState.toNat = 2 * j + 3 := hj
        rw [happ, hnext] at hj'
        omega
      · have hsent' : w'.app.status = EMAIL_SENT := hsent
        rw [happ] at hsent'
        refine (hstatus hsent').imp_right fun hpre => ?_
        show script.take 8 <+: commands w'.app.dialogue
        rw [hcommands, htake, ← hstep.1]
        exact hpre.trans (List.prefix_append _ _)
  | false =>
      obtain ⟨hidle, hclosed⟩ := hrefused Bool.false_ne_true
      have hdialogue : w'.app.dialogue = x.world.app.dialogue := by
        rw [happ]
        exact List.append_nil _
      refine ⟨?_, .refused (i := i) ?_ ?_ hidle (hstate ▸ hclosed), fun hsent => ?_⟩
      · exact hdialogue ▸ horderly
      · show w'.app.protocolState.toNat = 2 * i + 2
        rw [happ, hnext]
      · exact hdialogue ▸ hstep.1
      · have hsent' : w'.app.status = EMAIL_SENT := hsent
        rw [happ] at hsent'
        show _ ∨ script.take 8 <+: commands w'.app.dialogue
        rw [hdialogue]
        exact hstatus hsent'

/-- QUIT, sent or not. -/
theorem quit (h : Sound status x) {w' : World SMTPClient}
    (hdue : due x.world.app.protocolState = some .quit) {sent : Bool}
    (hsent : sent → x.world.self.getState = ESTABLISHED)
    (happ : w'.app = { x.world.app with
      dialogue := x.world.app.dialogue ++ if sent then [.sent .quit] else [] })
    (hstate : w'.self.getState = ESTABLISHED → x.world.self.getState = ESTABLISHED ∧ ¬ sent) :
    Sound status { x with world := w' } := by
  cases sent with
  | false =>
      have happ' : w'.app = x.world.app := by
        rw [happ]
        simp
      exact h.congr id (by rw [happ']) (by rw [happ']) (by rw [happ']; exact id)
        fun hopen => (hstate hopen).1
  | true =>
      obtain ⟨i, hi, hc⟩ := due_eq_some hdue
      obtain ⟨horderly, hplace, hstatus⟩ := h
      have hi8 : i = 8 := by
        have hnodup : script.Nodup := by decide
        have hlt : i < script.length := (List.getElem?_eq_some_iff.mp hc).1
        exact (List.getElem?_inj hlt hnodup).mp (hc.trans (show _ = script[8]? from rfl))
      subst hi8
      cases hplace with
      | inStep _ hcommands hanswered =>
          rw [hi] at hcommands
          have hcommands' : commands w'.app.dialogue = script := by
            rw [happ]
            exact (commands_sent _ _).trans (by rw [hcommands]; rfl)
          refine ⟨?_, .done ?_ hcommands' fun hopen => (hstate hopen).2 rfl, fun _ => .inr ?_⟩
          · show Orderly w'.app.dialogue
            rw [happ]
            exact horderly.sent hc fun j d hj hd => hanswered j d (by omega) hd
          · show w'.app.protocolState = SMTP_READY_FOR_QUIT
            rw [happ]
            exact UInt8.toNat_inj.mp hi
          · show script.take 8 <+: commands w'.app.dialogue
            rw [hcommands']
            exact List.take_prefix _ _
      | done _ _ hclosed => exact absurd (hsent rfl) hclosed
      | refused heven => omega

/-- What `onReadyToSend` does to a session that is in order. -/
theorem readied (h : Sound status x) {w' : World SMTPClient} (hready : Readied x.world w')
    (hdue : x.world.self.getState = ESTABLISHED → TakesDue x.world.app.protocolState x.world)
    (hreceiving : x.receiving → x.world.self.getState = ESTABLISHED) :
    Sound status { x with world := w' } := by
  cases hready with
  | idle _ heq => exact heq ▸ h
  | undefined happ hstate =>
      exact h.congr id (by rw [happ]) (by rw [happ]) (by rw [happ]; exact id)
        fun hopen => hstate.symm.trans hopen
  | command hcommand hquit sent htakes happ hstate =>
      refine h.command hcommand hquit happ hstate fun hrefused => ?_
      have hclosed : x.world.self.getState ≠ ESTABLISHED := fun hopen =>
        hrefused (htakes (hdue hopen _ hcommand hquit))
      exact ⟨fun h => hclosed (hreceiving h), hclosed⟩
  | quit hcommand sent hsent happ hstate => exact h.quit hcommand hsent happ hstate

end Sound

/-! ### Lines -/

/-- An answer moves the protocol state as the table says. -/
theorem protocolState_answer (line : Bytes) (w : World SMTPClient) :
    (answer line w).app.protocolState = stateAfter line w.app.protocolState := by
  unfold answer stateAfter
  rcases hfind : replies.find? fun reply => decide (reply.1 = w.app.protocolState) with
    _ | ⟨state, expected, next⟩
  · rw [hfind]
  · rw [hfind]
    dsimp only
    split
    · split
      · rfl
      · rfl
    · rw [(closing_close w).app]

namespace Sound

variable {status : UInt8} {x : Session}

/-- A line that is received. -/
theorem line (h : Sound status x) (line : Bytes) :
    Sound status { x with world := record (.line line) x.world } := by
  obtain ⟨horderly, hplace, hstatus⟩ := h
  have hcommands := commands_line x.world.app.dialogue line
  refine ⟨horderly.line line, ?_, fun hsent => ?_⟩
  · cases hplace with
    | inStep hle hsent hlast =>
        exact .inStep hle (hcommands.trans hsent) fun i c hi hc => (hlast i c hi hc).append _
    | done hquit hsent hclosed => exact .done hquit (hcommands.trans hsent) hclosed
    | refused heven hsent hidle hclosed =>
        exact .refused heven (hcommands.trans hsent) hidle hclosed
  · have htake := hstatus hsent
    rwa [← hcommands] at htake

/-- The reply to the last command leads to the state in which the next one is due. -/
theorem reply (h : Sound status x) (hreceiving : x.receiving) {line : Bytes} {turns : List Turn}
    (hturns : x.world.app.dialogue = turns ++ [.line line]) {w' : World SMTPClient}
    {i : ℕ} {c : Command} (hi : x.world.app.protocolState.toNat = 2 * i + 2)
    (hnext : w'.app.protocolState.toNat = 2 * i + 3) (hc : script[i]? = some c)
    (hreply : isReply c line) (hdialogue : w'.app.dialogue = x.world.app.dialogue)
    (hsent : w'.app.status = EMAIL_SENT → x.world.app.status = EMAIL_SENT ∨ i = 7) :
    Sound status { x with world := w' } := by
  obtain ⟨horderly, hplace, hstatus⟩ := h
  cases hplace with
  | inStep _ hcommands =>
      have hi9 : i < 9 := (List.getElem?_eq_some_iff.mp hc).1
      have hquit : i ≠ 8 := by
        rintro rfl
        rw [← Option.some.inj (show some Command.quit = some c from hc)] at hreply
        exact absurd hreply (by simp [isReply])
      have htake : commands w'.app.dialogue = script.take (i + 1) := by
        rw [hdialogue, hcommands, hi]
        exact congrArg script.take (by omega)
      have hmem : c ∈ commands turns := by
        have hlast : commands w'.app.dialogue = commands turns := by
          rw [hdialogue, hturns, commands_line]
        rw [← hlast, htake, List.take_add_one, hc]
        exact List.mem_append_right _ List.mem_cons_self
      refine ⟨hdialogue ▸ horderly, .inStep ?_ ?_ fun j d hj hd => ?_, fun hs => ?_⟩
      · rw [hnext]
        omega
      · rw [htake, hnext]
        exact congrArg script.take (by omega)
      · rw [hnext] at hj
        obtain rfl : j = i := by omega
        obtain rfl : c = d := Option.some.inj (hc.symm.trans hd)
        show Answered c w'.app.dialogue
        rw [hdialogue, hturns]
        exact answered_of_reply hmem hreply
      · rcases hsent hs with hs | rfl
        · show _ ∨ script.take 8 <+: commands w'.app.dialogue
          rw [hdialogue]
          exact hstatus hs
        · exact .inr (htake ▸ List.prefix_refl _)
  | done hquit =>
      have hodd : x.world.app.protocolState.toNat = 17 := congrArg UInt8.toNat hquit
      omega
  | refused _ _ hidle => exact absurd hreceiving hidle

/-- The greeting leads to the state in which HELO is due. -/
theorem greeting (h : Sound status x) {w' : World SMTPClient}
    (hinit : x.world.app.protocolState = SMTP_INIT)
    (hnext : w'.app.protocolState = SMTP_SERVER_READY)
    (hdialogue : w'.app.dialogue = x.world.app.dialogue)
    (hsent : w'.app.status = EMAIL_SENT → x.world.app.status = EMAIL_SENT) :
    Sound status { x with world := w' } := by
  obtain ⟨horderly, hplace, hstatus⟩ := h
  cases hplace with
  | inStep _ hcommands =>
      refine ⟨hdialogue ▸ horderly, .inStep ?_ ?_ fun i c hi _ => ?_, fun hs => ?_⟩
      · exact hnext ▸ (by decide)
      · show commands w'.app.dialogue = script.take (w'.app.protocolState.toNat / 2)
        rw [hdialogue, hcommands, hinit, hnext]
        rfl
      · rw [hnext] at hi
        exact absurd hi (by simp [SMTP_SERVER_READY])
      · show _ ∨ script.take 8 <+: commands w'.app.dialogue
        rw [hdialogue]
        exact hstatus (hsent hs)
  | done hquit => exact absurd (hquit.symm.trans hinit) (by decide)
  | refused heven =>
      have hzero : x.world.app.protocolState.toNat = 0 := congrArg UInt8.toNat hinit
      omega

/-- What the `switch` of `onLineReceived` does to a session that is in order. -/
theorem answered (h : Sound status x) (hreceiving : x.receiving) {line : Bytes}
    {turns : List Turn} (hturns : x.world.app.dialogue = turns ++ [.line line])
    {w' : World SMTPClient} (hanswers : Answers line x.world w') :
    Sound status { x with world := w' } := by
  cases hanswers with
  | ignored _ heq => exact heq ▸ h
  | refused _ hclose =>
      exact h.congr id (by rw [hclose.app]) (by rw [hclose.app]) (by rw [hclose.app]; exact id)
        fun hopen => (hclose.open_ hopen).1
  | @expected expected next hcase hline happ =>
      have hnext : w'.app.protocolState = next := by rw [happ]
      have hdialogue : w'.app.dialogue = x.world.app.dialogue := by rw [happ]
      have hstatus : next ≠ SMTP_READY_FOR_QUIT → w'.app.status = x.world.app.status := by
        intro hne
        rw [happ]
        exact if_neg hne
      rcases mem_replies hcase with ⟨hinit, rfl⟩ | ⟨i, c, hi, hnexti, hc, rfl⟩
      · exact h.greeting hinit hnext hdialogue fun hs => (hstatus (by decide)).symm.trans hs
      · refine h.reply hreceiving hturns hi (hnext ▸ hnexti) hc hline hdialogue fun hs => ?_
        by_cases hquit : next = SMTP_READY_FOR_QUIT
        · have h17 : next.toNat = 17 := congrArg UInt8.toNat hquit
          exact .inr (by omega)
        · exact .inl ((hstatus hquit).symm.trans hs)

end Sound

/-! ### What a line leaves for the next command -/

/-- Between two worlds what the commands are made of has not changed. -/
structure SameTexts (w w' : World SMTPClient) : Prop where
  remoteDomain : w'.self.remoteDomain = w.self.remoteDomain
  app : ∃ status protocolState dialogue, w'.app = { w.app with
    status := status, protocolState := protocolState, dialogue := dialogue }

instance : IsPreorder (World SMTPClient) SameTexts where
  refl _ := ⟨rfl, _, _, _, rfl⟩
  trans _ _ _ h h' := by
    obtain ⟨hdomain, status, protocolState, dialogue, happ⟩ := h
    obtain ⟨hdomain', status', protocolState', dialogue', happ'⟩ := h'
    exact ⟨hdomain'.trans hdomain, status', protocolState', dialogue', by rw [happ', happ]⟩

/-- A command's length depends on the texts. -/
theorem SameTexts.commandLength {w w' : World SMTPClient} (h : SameTexts w w') (c : Command) :
    commandLength c w' = commandLength c w := by
  obtain ⟨hdomain, _, _, _, happ⟩ := h
  have htexts : textsOf c w' = textsOf c w := by
    unfold textsOf
    rw [hdomain, happ]
  cases c with
  | authLogin | data | quit => rfl
  | helo | user | password | mailFrom | rcptTo | message => exact congrArg textsLength htexts

/-- A close behind which the client can still send has not sent its FIN. -/
theorem close_refused {w : World SMTPClient} (h : ((close inner).exec w).self.readyToSend) :
    w.self.readyToSend ∧ ¬ CanReset w ∧ SameTexts w ((close inner).exec w) := by
  have hclosing := closing_close w
  obtain ⟨-, hshort⟩ := hclosing.open_ (getState_of_readyToSend h)
  have hself : ((close inner).exec w).self.state = w.self.state ∧
      ((close inner).exec w).self.remoteDomain = w.self.remoteDomain := by
    by_cases hclosed : w.self.localClosed
    · rw [Proc.exec, close_idle hclosed]
      exact ⟨rfl, rfl⟩
    rcases close_cases inner hclosed with hrun | ⟨hsent, hrun⟩
    · have hexec : (close inner).exec w = (sendSegment inner (FIN ||| ACK) 0 0 0).exec w := by
        rw [Proc.exec, hrun]
      rw [hexec]
      refine ⟨(unmoved_sendSegment inner (FIN ||| ACK) 0 0 w).state, ?_⟩
      obtain ⟨-, -, hself⟩ := sendSegment_advances inner (FIN ||| ACK) 0 0 0 w
      rcases hself with hself | hself
      · rw [Proc.exec, hself]
      · rw [Proc.exec, hself]
        rfl
    · have hexec : (close inner).exec w = fire inner .onLocalClosed
          (closing inner ((sendSegment inner (FIN ||| ACK) 0 0 0).exec w)) :=
        congrArg Prod.snd hrun
      have hopen := getState_of_readyToSend h
      rw [hexec] at hopen
      have hstate := (closing_quiet inner ((sendSegment inner (FIN ||| ACK) 0 0 0).exec w)).2.2
      exact absurd ((congrArg (· &&& 0x0F) hstate).symm.trans hopen) (stateAfterClose_getD _)
  refine ⟨?_, hshort, hself.2, _, _, _, hclosing.app⟩
  rw [readyToSend_iff, hself.1] at h
  exact readyToSend_iff.mpr h

/-- What the `switch` leaves for a command that is due. -/
theorem Answers.sameTexts {line : Bytes} {w w' : World SMTPClient} (h : Answers line w w')
    {c : Command} (hdue : due w'.app.protocolState = some c) :
    SameTexts w w' ∧ w'.self = w.self ∧ w'.stack = w.stack := by
  cases h with
  | ignored _ heq =>
      rw [heq]
      exact ⟨refl_of SameTexts w, rfl, rfl⟩
  | expected _ _ happ hself hstack =>
      exact ⟨⟨by rw [hself], _, _, _, happ⟩, hself, hstack⟩
  | refused hnone hclose =>
      rw [hclose.app, hnone] at hdue
      exact absurd hdue (by simp)

/-- That a command is taken depends on the texts, the socket and the room. -/
theorem Takes.transfer {w w' : World SMTPClient} (htexts : SameTexts w w')
    (hself : w'.self = w.self) (hroom : w'.stack.room = w.stack.room) {c : Command}
    (h : Takes (commandLength c w) w) : Takes (commandLength c w') w' := by
  rw [htexts.commandLength]
  exact h.imp_right fun hcan => hcan.congr hself hroom

/-- A command that is due behind a line is one that `send` takes, if the line was granted. -/
theorem takesDue_answer {line : Bytes} {x : Session} (h : x.Granted (.line line))
    {w : World SMTPClient}
    (hw : w = if checkCode line 500 then (close inner).exec (record (.line line) x.world)
      else record (.line line) x.world)
    (hready : (answer line w).self.readyToSend) :
    TakesDue (answer line w).app.protocolState (answer line w) := by
  intro c hdue hquit
  obtain ⟨htexts, hself, hstack⟩ := (answers_answer line w).sameTexts hdue
  rw [hself] at hready
  have hstate : w.app.protocolState = x.world.app.protocolState := by
    rw [hw]
    split
    · rw [(closing_close _).app]
      rfl
    · rfl
  rw [protocolState_answer, hstate] at hdue
  refine Takes.transfer htexts hself (by rw [hstack]) ?_
  have hrecord : SameTexts x.world (record (.line line) x.world) := ⟨rfl, _, _, _, rfl⟩
  by_cases h500 : checkCode line 500
  · rw [if_pos h500] at hw
    rw [hw] at hready ⊢
    obtain ⟨hbefore, hshort, hclose⟩ := close_refused hready
    -- nothing can be sent any more, so that only a command without a byte is taken
    have htakes := h hbefore (fun hcan => hshort hcan.2) c hdue hquit
    rcases htakes with hzero | hcan
    · refine .inl ?_
      rw [hclose.commandLength, hrecord.commandLength, hzero]
    · obtain ⟨sb, -, hsb, -⟩ := hcan.buffers
      have hroom : 20 ≤ x.world.stack.room := le_trans (Nat.le_add_left _ _) hcan.room
      exact absurd ⟨tcp_of_getSendDataBuffer hsb, hroom⟩ hshort
  · rw [if_neg h500] at hw
    rw [hw] at hready ⊢
    exact Takes.transfer hrecord rfl rfl (h hready (fun hcan => h500 hcan.1) c hdue hquit)

/-- A line leaves a session in order. -/
theorem Sound.lineReceived {status : UInt8} {x : Session} (h : Sound status x)
    (hreceiving : x.receiving) {line : Bytes} (hgranted : x.Granted (.line line)) :
    Sound status { x with world := onLineReceived line x.world } := by
  unfold onLineReceived
  dsimp only
  generalize hw : (if checkCode line 500 then (close inner).exec (record (.line line) x.world)
    else record (.line line) x.world) = w
  have hclosing : Closing (record (.line line) x.world) w ∨ w = record (.line line) x.world := by
    rw [← hw]
    split
    · exact .inl (closing_close _)
    · exact .inr rfl
  have hdialogue : w.app.dialogue = x.world.app.dialogue ++ [.line line] := by
    rcases hclosing with hclosing | rfl
    · rw [hclosing.app]
      rfl
    · rfl
  have hclosed : Sound status { x with world := w } := by
    rcases hclosing with hclosing | rfl
    · exact (h.line line).congr id (by rw [hclosing.app]) (by rw [hclosing.app])
        (by rw [hclosing.app]; exact id) fun hopen => (hclosing.open_ hopen).1
    · exact h.line line
  have hanswered : Sound status { x with world := answer line w } :=
    hclosed.answered hreceiving hdialogue (answers_answer line w)
  split
  case isTrue hready =>
    exact hanswered.readied (readied_onReadyToSend _)
      (fun _ => takesDue_answer hgranted hw.symm hready)
      fun _ => getState_of_readyToSend hready
  case isFalse => exact hanswered

/-! ### The other events -/

/-- Between two worlds the dialogue has not changed, and the mail has not become a sent one. -/
structure SameDialogue (w w' : World SMTPClient) : Prop where
  dialogue : w'.app.dialogue = w.app.dialogue
  protocolState : w'.app.protocolState = w.app.protocolState
  sent : w'.app.status = EMAIL_SENT → w.app.status = EMAIL_SENT

instance : IsPreorder (World SMTPClient) SameDialogue where
  refl _ := ⟨rfl, rfl, id⟩
  trans _ _ _ h h' := ⟨h'.dialogue.trans h.dialogue, h'.protocolState.trans h.protocolState,
    h.sent ∘ h'.sent⟩

/-- A failure leaves the dialogue. -/
theorem sameDialogue_failed (w : World SMTPClient) : SameDialogue w (failed w) := by
  unfold failed
  split
  · exact ⟨rfl, rfl, fun h => absurd h (by decide : EMAIL_FAIL ≠ EMAIL_SENT)⟩
  · exact refl_of SameDialogue w

/-- What the socket does by itself leaves the dialogue. -/
theorem frames_sameDialogue : Frames inner SameDialogue where
  self _ _ _ := ⟨rfl, rfl, id⟩
  stack _ _ _ := ⟨rfl, rfl, id⟩
  event _ _ := ⟨rfl, rfl, id⟩
  received _ _ _ := ⟨rfl, rfl, id⟩
  dangling _ _ := ⟨rfl, rfl, id⟩
  on e w := by
    cases e with
    | onClosed | onReset _ => exact sameDialogue_failed w
    | _ => exact refl_of SameDialogue w
  onDataReceived _ w := refl_of SameDialogue w

/-- A socket that was closed by force is not established. -/
theorem getState_forceClose (w : World SMTPClient) :
    (forceClose inner w).self.getState ≠ ESTABLISHED := by
  have hself : ∀ (e : Event) (w : World SMTPClient), (fire inner e w).self = w.self := by
    intro e w
    cases e with
    | onClosed | onReset _ => exact self_failed _
    | _ => rfl
  have hset : ∀ (state : UInt8) (w : World SMTPClient),
      (setState inner state w).self.state = state := by
    intro state w
    unfold setState announce
    dsimp only
    split_ifs
    · rw [hself, hself, hself]
      rfl
    · rw [hself, hself]
      rfl
    · rw [hself]
      rfl
    · rfl
  have hclosed : ∀ w : World SMTPClient, (closed inner w).self.getState ≠ ESTABLISHED := by
    intro w
    unfold closed
    split
    · rw [getState, hset]
      decide
    · rw [getState, hset]
      decide
  unfold forceClose
  exact hclosed _

namespace Session

/-- Only lines and `onReadyToSend` go on with the dialogue, and nothing establishes the
connection again. -/
theorem sameDialogue_run {x : Session} {e : Event} (hpossible : x.Possible e)
    (hline : ∀ line, e ≠ .line line) (hready : e ≠ .readyToSend) :
    SameDialogue x.world (run e x).world ∧
      ((run e x).world.self.getState = ESTABLISHED → x.world.self.getState = ESTABLISHED) := by
  have hfailed := sameDialogue_failed x.world
  cases e with
  | beginData | endData => exact ⟨refl_of SameDialogue x.world, id⟩
  | line line => exact absurd rfl (hline line)
  | readyToSend => exact absurd rfl hready
  | remoteClosed =>
      have hclosing := closing_close x.world
      refine ⟨⟨congrArg SMTPClient.dialogue hclosing.app,
        congrArg SMTPClient.protocolState hclosing.app, fun hs => ?_⟩, fun hopen => ?_⟩
      · exact (congrArg SMTPClient.status hclosing.app).symm.trans hs
      · exact (hclosing.open_ hopen).1
  | closed =>
      unfold run onClosed
      dsimp only
      split
      · exact ⟨trans_of SameDialogue hfailed (frames_sameDialogue.forceClose _),
          fun hopen => absurd hopen (getState_forceClose _)⟩
      · exact ⟨hfailed, fun hopen => by rwa [self_failed] at hopen⟩
  | reset => exact ⟨hfailed, fun hopen => by rwa [run, self_failed] at hopen⟩
  | outside w =>
      have happ : ∀ {β : Type} (f : SMTPClient → β),
          (∀ (c : SMTPClient) (l : Bytes), f { c with recvLine := l } = f c) →
            f w.app = f x.world.app := fun f hf => by
        rw [← hpossible.app]
        exact (hf w.app _).symm
      refine ⟨⟨happ _ fun _ _ => rfl, happ _ fun _ _ => rfl, fun hs => ?_⟩, hpossible.getState⟩
      exact (happ SMTPClient.status fun _ _ => rfl).symm.trans hs

/-- Every granted step keeps a session in order. -/
theorem sound_run {status : UInt8} {x : Session} {e : Event} (h : Sound status x)
    (hpossible : x.Possible e) (hgranted : x.Granted e) : Sound status (run e x) := by
  cases e with
  | beginData =>
      obtain ⟨horderly, hplace, hsent⟩ := h
      refine ⟨horderly, ?_, hsent⟩
      cases hplace with
      | inStep hle hcommands hanswered => exact .inStep hle hcommands hanswered
      | done hquit hcommands hclosed => exact .done hquit hcommands hclosed
      | refused _ _ _ hclosed => exact absurd hpossible.2 hclosed
  | line line => exact h.lineReceived hpossible hgranted
  | endData => exact h.congr (fun h => absurd h Bool.false_ne_true) rfl rfl id id
  | readyToSend =>
      exact h.readied (readied_onReadyToSend x.world) hgranted fun hr => absurd hr hpossible
  | remoteClosed | closed | reset | outside _ =>
      obtain ⟨hsame, hopen⟩ := sameDialogue_run hpossible (fun _ => by simp) (by simp)
      exact h.congr id hsame.dialogue hsame.protocolState hsame.sent hopen

/-- The dialogue of a mail that is started. -/
theorem sound_start (w : World SMTPClient) : Sound w.app.status (start w) := by
  have hstatus : (onEstablished w).app.status = w.app.status := by
    unfold onEstablished
    dsimp only
    split
    · rw [(closing_close w).app]
    · rfl
  have hstate : (start w).world.app.protocolState = SMTP_INIT := rfl
  refine ⟨.nil, .inStep ?_ ?_ fun i c hi _ => ?_, fun hs => .inl ?_⟩
  · rw [hstate]
    exact Nat.zero_le _
  · rw [hstate]
    rfl
  · rw [hstate] at hi
    exact absurd hi (by simp [SMTP_INIT])
  · exact hstatus.symm.trans hs

/-- In every session in which the commands are ones that `send` takes when they are due, the
dialogue is in order. -/
theorem reaches_inOrder {w : World SMTPClient} {x : Session}
    (h : Reaches (fun x e => Possible x e ∧ Granted x e) run (start w) x) :
    InOrder w.app.status x := by
  have hsound : Sound w.app.status x :=
    h.invariant (sound_start w) fun _ _ hs he => sound_run hs he.1 he.2
  have hscript : commands x.world.app.dialogue <+: script := by
    cases hsound.place with
    | inStep _ hcommands => exact hcommands ▸ List.take_prefix _ _
    | done _ hcommands => exact hcommands ▸ List.prefix_refl _
    | refused _ hcommands => exact hcommands ▸ List.take_prefix _ _
  have hnodup : script.Nodup := by decide
  exact ⟨hsound.orderly, hscript, hscript.sublist.nodup hnodup, hsound.sent⟩

/-- A buffer is received line by line. -/
theorem reaches_onDataReceived {w : World SMTPClient} {x : Session}
    (h : Reaches Possible run (start w) x) (hidle : ¬ x.receiving)
    (hopen : x.world.self.getState = ESTABLISHED) (buf : Bytes) :
    Reaches Possible run (start w) ⟨false, (onDataReceived buf x.world).2⟩ := by
  have hset : ∀ {w' : World SMTPClient} (i : ℕ) (c : UInt8),
      Reaches Possible run (start w) ⟨true, w'⟩ →
        Reaches Possible run (start w) ⟨true, setRecvLine i c w'⟩ :=
    fun {w'} i c h => Reaches.step (e := Event.outside (setRecvLine i c w')) h ⟨rfl, id⟩
  have hline : ∀ {w' : World SMTPClient} (line : Bytes),
      Reaches Possible run (start w) ⟨true, w'⟩ →
        Reaches Possible run (start w) ⟨true, onLineReceived line w'⟩ :=
    fun line h => Reaches.step (e := Event.line line) h rfl
  have hchar : ∀ (c : UInt8) (y : ℕ × World SMTPClient),
      Reaches Possible run (start w) ⟨true, y.2⟩ →
        Reaches Possible run (start w) ⟨true, (receiveChar y c).2⟩ := by
    rintro c ⟨lineIdx, w'⟩ h
    unfold receiveChar endLine
    dsimp only
    split_ifs
    · exact hset 0 0 (hline _ (hset lineIdx 0 h))
    · exact hset 0 0 (hset lineIdx 0 h)
    · exact hset 0 0 (hline _ h)
    · exact hset 0 0 h
    · exact hset lineIdx c h
    · exact h
  have hbegun : Reaches Possible run (start w) ⟨true, x.world⟩ :=
    Reaches.step (e := Event.beginData) h ⟨hidle, hopen⟩
  have hall : ∀ (buf : Bytes) (y : ℕ × World SMTPClient),
      Reaches Possible run (start w) ⟨true, y.2⟩ →
        Reaches Possible run (start w) ⟨true, (buf.foldl receiveChar y).2⟩ := by
    intro buf
    induction buf with
    | nil => exact fun _ h => h
    | cons c buf ih => exact fun y h => ih _ (hchar c y h)
  exact Reaches.step (e := Event.endData) (hall buf (_, x.world) hbegun) rfl

/-- The dialogue with a server that greets and has room for HELO. -/
theorem inOrder_greeting :
    ∃ x, Reaches (fun x e => Possible x e ∧ Granted x e) run (start (exampleMail 100)) x ∧
      x.world.app.dialogue = [.line (ascii "220 a"), .sent .helo] ∧ InOrder EMAIL_SENDING x := by
  have hreceiving : Possible (run .beginData (start (exampleMail 100))) (.line (ascii "220 a")) :=
    rfl
  have hgranted : Granted (run .beginData (start (exampleMail 100))) (.line (ascii "220 a")) := by
    intro _ _ c hdue _
    obtain rfl : c = .helo := Option.some.inj (hdue.symm.trans (by decide +kernel))
    refine .inr ⟨by decide +kernel, by decide +kernel, ?_, by decide +kernel⟩
    refine ⟨.offsetBuffer 46 20 (.offsetBuffer 66 20 (.offsetBuffer 86 14 (.memBuffer .send 100))),
      .offsetBuffer 40 0 (.memBuffer .outbound 40), by decide +kernel, by decide +kernel,
      ⟨by decide, ⟨by decide, ⟨by decide, trivial⟩⟩⟩, ⟨by decide, trivial⟩, by decide,
      by decide +kernel⟩
  have hbegun : Reaches (fun x e => Possible x e ∧ Granted x e) run (start (exampleMail 100))
      (run .beginData (start (exampleMail 100))) :=
    .step .refl ⟨⟨Bool.false_ne_true, by decide +kernel⟩, trivial⟩
  have hline := hbegun.step ⟨hreceiving, hgranted⟩
  exact ⟨_, hline, by decide +kernel, reaches_inOrder hline⟩

/-- A session with a window that has no room for HELO. -/
def exampleRefused : Session :=
  run (.line (ascii "220 a")) (run .beginData (start (exampleMail 6)))

/-- The window has grown. -/
def exampleGrown : Session :=
  run (.outside { exampleRefused.world with
    self := { exampleRefused.world.self with remoteWindow := 100 } }) exampleRefused

/-- HELO is refused, and the login is sent all the same. -/
theorem helo_refused :
    ¬ ∀ x, Reaches Possible run (start (exampleMail 6)) x → InOrder EMAIL_SENDING x := by
  intro h
  have hrefused : Reaches Possible run (start (exampleMail 6)) exampleRefused :=
    Reaches.step (e := Event.line (ascii "220 a"))
      (Reaches.step (e := Event.beginData) .refl ⟨Bool.false_ne_true, by decide +kernel⟩) rfl
  have hgrown : Reaches Possible run (start (exampleMail 6)) exampleGrown :=
    hrefused.step ⟨rfl, id⟩
  have hlogin := (h _ (Reaches.step (e := Event.line (ascii "250 ok")) hgrown rfl)).inScript
  exact absurd hlogin (by decide +kernel)

end Session

end SMTPClient

end AtmegaNet
