import AtmegaNet.HandlerPointer
import AtmegaNet.SMTPDialogue

/-!
# The strings of a mail

Any of `user`, `pass`, `to`, `from`, `subject` and `body` may be NULL. `onEstablished` closes the
connection of a mail without addresses or content, and the subject is tested before it is read;
nothing tests the credentials, nor the body of a mail that has a subject.

## Main results

* `unharmed_onReadyToSend`, `harmed_sendTexts`: a command reads NULL just if one of its strings
  is NULL.
* `Session.reaches_due`: a server that gives the expected replies gets every command.
* `Session.neverReadsNull_iff`: the mails of which no session reads NULL.
-/

open Procedure Runs

namespace AtmegaNet

namespace SMTPClient

open Socket

/-! ### The strings a command reads -/

/-- The strings of the mail and the credentials that a command is written from. The subject is
read if it is there. -/
def stringsOf (c : Command) (mail : SMTPClient) : List (Option Bytes) :=
  match c with
  | .user => [mail.user]
  | .password => [mail.pass]
  | .mailFrom => [mail.from_]
  | .rcptTo => [mail.to_]
  | .message => [mail.from_, mail.body]
  | _ => []

/-- The credentials, and a mail of which everything that is read without a test is there. -/
def Supplied (mail : SMTPClient) : Prop :=
  mail.user.isSome ∧ mail.pass.isSome ∧ mail.to_.isSome ∧ mail.from_.isSome ∧ mail.body.isSome

/-- The mails for which `onEstablished` closes the connection. -/
def Incomplete (mail : SMTPClient) : Prop :=
  mail.to_.isNone ∨ mail.from_.isNone ∨ (mail.subject.isNone ∧ mail.body.isNone)

instance (mail : SMTPClient) : Decidable (Supplied mail) := by unfold Supplied; infer_instance

instance (mail : SMTPClient) : Decidable (Incomplete mail) := by
  unfold Incomplete
  infer_instance

/-- A client that is registered, and was constructed with the name of a server. -/
structure Attached (w : World SMTPClient) : Prop where
  tcp : w.self.tcp.isSome
  sendBuffer : w.self.sendBuffer.isSome
  remoteDomain : w.self.remoteDomain.isSome

/-- What is not null is there. -/
theorem isSome_of_ne_none {a : Option Bytes} (h : none ≠ a) : a.isSome :=
  Option.isSome_iff_ne_none.mpr h.symm

/-- A command reads NULL just if one of its strings is NULL. -/
theorem none_mem_textsOf {w : World SMTPClient} (h : w.self.remoteDomain.isSome) (c : Command) :
    none ∈ textsOf c w ↔ none ∈ stringsOf c w.app := by
  have hdomain : none ≠ w.self.remoteDomain := (Option.isSome_iff_ne_none.mp h).symm
  cases c with
  | helo => simp [textsOf, stringsOf, hdomain]
  | message =>
      have hsubject : none ∉ if w.app.subject.isSome then
          [some (ascii "Subject: "), w.app.subject, some (ascii "\r\n")] else [] := by
        split
        case isTrue hsome =>
          have hne : none ≠ w.app.subject := (Option.isSome_iff_ne_none.mp hsome).symm
          simp [hne]
        case isFalse => exact List.not_mem_nil
      simp only [textsOf, stringsOf, List.mem_append, hsubject, or_false]
      simp
  | authLogin | data | quit => simp [textsOf, stringsOf]
  | user | password | mailFrom | rcptTo => simp [textsOf, stringsOf]

/-- The texts are supplied if every command has all of its own. -/
theorem supplied_iff (mail : SMTPClient) :
    Supplied mail ↔ ∀ i < 8, ∀ c, script[i]? = some c → none ∉ stringsOf c mail := by
  constructor
  · rintro ⟨huser, hpass, hto, hfrom, hbody⟩ _ _ c _
    rw [Option.isSome_iff_ne_none] at huser hpass hto hfrom hbody
    cases c with
    | user => simpa [stringsOf] using huser.symm
    | password => simpa [stringsOf] using hpass.symm
    | mailFrom => simpa [stringsOf] using hfrom.symm
    | rcptTo => simpa [stringsOf] using hto.symm
    | message => simpa [stringsOf] using ⟨hfrom.symm, hbody.symm⟩
    | helo | authLogin | data | quit => exact List.not_mem_nil
  · intro h
    have huser := h 2 (by decide) .user rfl
    have hpass := h 3 (by decide) .password rfl
    have hto := h 5 (by decide) .rcptTo rfl
    have hmessage := h 7 (by decide) .message rfl
    simp only [stringsOf, List.mem_cons, List.not_mem_nil, or_false,
      not_or] at huser hpass hto hmessage
    exact ⟨isSome_of_ne_none huser, isSome_of_ne_none hpass, isSome_of_ne_none hto,
      isSome_of_ne_none hmessage.1, isSome_of_ne_none hmessage.2⟩

/-- A mail of which everything is there has the strings of the command that is due. -/
theorem complete_of_supplied {mail : SMTPClient} (h : Supplied mail) {protocolState : UInt8}
    (c : Command) (hdue : due protocolState = some c) : none ∉ stringsOf c mail := by
  obtain ⟨i, -, hc⟩ := due_eq_some hdue
  have hi9 : i < 9 := (List.getElem?_eq_some_iff.mp hc).1
  by_cases hi : i < 8
  · exact (supplied_iff mail).mp h i hi c hc
  · obtain rfl : i = 8 := by omega
    obtain rfl : Command.quit = c := Option.some.inj hc
    exact List.not_mem_nil

/-! ### What the callbacks leave -/

/-- Between two worlds the strings of the mail have not changed. -/
structure SameMail (w w' : World SMTPClient) : Prop where
  app : ∃ status protocolState recvLine dialogue, w'.app = { w.app with
    status := status, protocolState := protocolState, recvLine := recvLine, dialogue := dialogue }

instance : IsPreorder (World SMTPClient) SameMail where
  refl _ := ⟨_, _, _, _, rfl⟩
  trans _ _ _ h h' := by
    obtain ⟨_, _, _, _, happ⟩ := h
    obtain ⟨_, _, _, _, happ'⟩ := h'
    exact ⟨_, _, _, _, by rw [happ', happ]⟩

/-- The texts of a command depend on the mail only. -/
theorem SameMail.stringsOf {w w' : World SMTPClient} (h : SameMail w w') (c : Command) :
    stringsOf c w'.app = stringsOf c w.app := by
  obtain ⟨_, _, _, _, happ⟩ := h
  unfold SMTPClient.stringsOf
  rw [happ]

/-- Whether the texts are supplied depends on the mail only. -/
theorem SameMail.supplied {w w' : World SMTPClient} (h : SameMail w w') :
    Supplied w'.app ↔ Supplied w.app := by
  rw [supplied_iff, supplied_iff]
  simp only [h.stringsOf]

/-- The same client has the same mail. -/
theorem sameMail_of_app {w w' : World SMTPClient} (h : w'.app = w.app) : SameMail w w' :=
  ⟨_, _, _, _, h⟩

/-- A failure keeps the mail. -/
theorem sameMail_failed (w : World SMTPClient) : SameMail w (failed w) := by
  unfold failed
  split
  · exact ⟨_, _, _, _, rfl⟩
  · exact refl_of SameMail w

/-- Between two worlds the registration of the socket has not changed. -/
structure SameSettings (w w' : World SMTPClient) : Prop where
  settings : settings w'.self = settings w.self

instance : IsPreorder (World SMTPClient) SameSettings where
  refl _ := ⟨rfl⟩
  trans _ _ _ h h' := ⟨h'.settings.trans h.settings⟩

/-- Whether the socket has its buffer depends on its settings. -/
theorem SameSettings.attached {w w' : World SMTPClient} (h : SameSettings w w')
    (ha : Attached w) : Attached w' := by
  have hsettings := h.settings
  simp only [Socket.settings, Prod.mk.injEq] at hsettings
  obtain ⟨htcp, -, hsend, -, -, hdomain, -⟩ := hsettings
  exact ⟨htcp ▸ ha.tcp, hsend ▸ ha.sendBuffer, hdomain ▸ ha.remoteDomain⟩

/-- The calls on the socket keep the mail. -/
theorem frames_sameMail : Frames inner SameMail where
  self _ _ _ := sameMail_of_app rfl
  stack _ _ _ := sameMail_of_app rfl
  event _ _ := sameMail_of_app rfl
  received _ _ _ := sameMail_of_app rfl
  dangling _ _ := sameMail_of_app rfl
  on e w := by
    cases e with
    | onClosed | onReset _ => exact sameMail_failed w
    | _ => exact refl_of SameMail w
  onDataReceived _ w := refl_of SameMail w

/-- The calls on the socket keep its settings. -/
theorem frames_sameSettings : Frames inner SameSettings where
  self _ _ hs := ⟨hs⟩
  stack _ _ _ := ⟨rfl⟩
  event _ _ := ⟨rfl⟩
  received _ _ _ := ⟨rfl⟩
  dangling _ _ := ⟨rfl⟩
  on e w := by
    cases e with
    | onClosed | onReset _ => exact ⟨congrArg _ (self_failed w)⟩
    | _ => exact refl_of SameSettings w
  onDataReceived _ w := refl_of SameSettings w

/-- The inner callbacks dereference nothing. -/
theorem careful_inner : Careful inner := by
  have hrefl : ∀ w : World SMTPClient, Socket.Sound w w := refl_of Socket.Sound
  have hfailed : ∀ w : World SMTPClient, Socket.Sound w (failed w) := by
    intro w
    unfold failed
    split
    · exact ⟨rfl, id, [], (List.append_nil _).symm, fun _ => List.not_mem_nil⟩
    · exact hrefl w
  refine ⟨fun e w => ?_, fun _ w => hrefl w⟩
  cases e with
  | onClosed | onReset _ => exact hfailed w
  | _ => exact hrefl w

/-- No null pointer is dereferenced by a function that is sound, on a socket with a handler. -/
theorem unharmed_of_sound {w w' : World SMTPClient} (h : Socket.Sound w w')
    (htcp : w.self.tcp.isSome) : Unharmed w.stack w'.stack := by
  obtain ⟨l, hl, hclean⟩ := h.log
  exact ⟨l, hl, hclean htcp⟩

/-- Where nothing is logged, nothing is dereferenced. -/
theorem unharmed_of_log {h h' : Stack} (hlog : h'.log = h.log) : Unharmed h h' :=
  ⟨[], by rw [hlog, List.append_nil], List.not_mem_nil⟩

/-- Two steps without a null pointer have none together. -/
theorem unharmed_trans {h h' h'' : Stack} (h₁ : Unharmed h h') (h₂ : Unharmed h' h'') :
    Unharmed h h'' := by
  obtain ⟨l, hl, hclean⟩ := h₁
  obtain ⟨l', hl', hclean'⟩ := h₂
  refine ⟨l ++ l', by rw [hl', hl, List.append_assoc], fun hmem => ?_⟩
  exact (List.mem_append.mp hmem).elim hclean hclean'

/-! ### Reading -/

/-- A socket with its buffer hands it out. -/
theorem getSendDataBuffer_of_attached {w : World SMTPClient} (h : Attached w) :
    ∃ sb, w.self.getSendDataBuffer = some sb := by
  have htcp := h.tcp
  obtain ⟨tcp, htcp⟩ := Option.isSome_iff_exists.mp h.tcp
  rw [getSendDataBuffer, if_neg (by rw [htcp]; simp)]
  exact Option.isSome_iff_exists.mp h.sendBuffer

/-- Whether a command is recorded makes no difference to the stack. -/
theorem stack_offer (c : Command) (x : Proc (World SMTPClient) Unit) (w : World SMTPClient) :
    (offer c x w).stack = (x.exec w).stack := by
  unfold offer
  split
  · rfl
  · rfl

section Commands

variable {c : Command} {next : UInt8} {w : World SMTPClient}

/-- A command of which all strings are there is written and handed to `send`. -/
theorem sendTexts_complete (hw : Attached w) (hcomplete : none ∉ stringsOf c w.app) :
    Unharmed w.stack (sendTexts c next w).stack ∧
      (sendTexts c next w).app.protocolState = next := by
  obtain ⟨sb, hsb⟩ := getSendDataBuffer_of_attached hw
  obtain ⟨length, w', hrun, hlog⟩ := writeTexts_complete sb 0
    (mt (none_mem_textsOf hw.remoteDomain c).mp hcomplete) w
  have hwritten := written_writeTexts sb 0 (textsOf c w) w
  rw [hrun] at hwritten
  have htcp : w'.self.tcp.isSome := by
    rw [hwritten.self]
    exact hw.tcp
  have hsend : Unharmed w'.stack ((Socket.send inner length).exec w').stack :=
    unharmed_of_sound ((Frames.sound careful_inner).send length w') htcp
  unfold sendTexts
  rw [hsb]
  dsimp only
  rw [hrun]
  refine ⟨?_, rfl⟩
  show Unharmed w.stack (offer c (Socket.send inner length) w').stack
  rw [stack_offer]
  exact unharmed_trans (unharmed_of_log hlog) hsend

/-- A command of which a string is NULL reads it. -/
theorem harmed_sendTexts (hw : Attached w) (hnull : none ∈ stringsOf c w.app) :
    ¬ Unharmed w.stack (sendTexts c next w).stack := by
  obtain ⟨sb, hsb⟩ := getSendDataBuffer_of_attached hw
  obtain ⟨w', hrun, hlog⟩ := writeTexts_null sb 0
    ((none_mem_textsOf hw.remoteDomain c).mpr hnull) w
  unfold sendTexts
  rw [hsb]
  dsimp only
  rw [hrun]
  rintro ⟨l, hl, hclean⟩
  have hlast : l = [.nullDereference] := List.append_cancel_left (hl.symm.trans hlog)
  exact hclean (hlast ▸ List.mem_singleton_self _)

/-- A literal is sent without a null pointer. -/
theorem unharmed_sendLiteral (text : String) (hw : Attached w) :
    Unharmed w.stack (sendLiteral c text next w).stack := by
  show Unharmed w.stack (offer c (sendBytes inner (ascii text)) w).stack
  rw [stack_offer]
  exact unharmed_of_sound ((Frames.sound careful_inner).sendBytes (ascii text) w) hw.tcp

end Commands

/-- Handing a command to `send`, and going on to the next state; QUIT is followed by `close`. -/
def sendDue (c : Command) (next : UInt8) (w : World SMTPClient) : World SMTPClient :=
  match c with
  | .authLogin => sendLiteral .authLogin "auth login\n" next w
  | .data => sendLiteral .data "DATA\n" next w
  | .quit => (close inner).exec (offer .quit (sendBytes inner (ascii "QUIT\r\n")) w)
  | c => sendTexts c next w

/-- What `onReadyToSend` does in a state in which a command is due. -/
theorem onReadyToSend_due {w : World SMTPClient} {c : Command}
    (hdue : due w.app.protocolState = some c) :
    onReadyToSend w = sendDue c (w.app.protocolState + 1) w := by
  obtain ⟨i, hi, hc⟩ := due_eq_some hdue
  have hi9 : i < 9 := (List.getElem?_eq_some_iff.mp hc).1
  have hstate : w.app.protocolState = UInt8.ofNat (2 * i + 1) := by rw [← hi, UInt8.ofNat_toNat]
  unfold onReadyToSend
  dsimp only
  rw [hstate]
  interval_cases i <;> obtain rfl := Option.some.inj hc <;> rfl

/-- In the other states it does nothing. -/
theorem onReadyToSend_idle {w : World SMTPClient} (hdue : due w.app.protocolState = none) :
    onReadyToSend w = w := by
  have hne : ∀ state, due state ≠ none → w.app.protocolState ≠ state :=
    fun _ hstate h => hstate (h ▸ hdue)
  unfold onReadyToSend
  dsimp only
  rw [if_neg (hne _ (by decide)), if_neg (hne _ (by decide)), if_neg (hne _ (by decide)),
    if_neg (hne _ (by decide)), if_neg (hne _ (by decide)), if_neg (hne _ (by decide)),
    if_neg (hne _ (by decide)), if_neg (hne _ (by decide)), if_neg (hne _ (by decide))]

/-- Offering a command keeps the settings. -/
theorem sameSettings_offer (c : Command) {x : Proc (World SMTPClient) Unit}
    (hx : Proc.Within SameSettings x) (w : World SMTPClient) : SameSettings w (offer c x w) := by
  have hexec : SameSettings w (x.exec w) := hx w
  unfold offer
  split
  · exact ⟨hexec.settings⟩
  · exact hexec

/-- With the strings of the command that is due, `onReadyToSend` reads no NULL. -/
theorem unharmed_onReadyToSend {w : World SMTPClient} (hw : Attached w)
    (hcomplete : ∀ c, due w.app.protocolState = some c → none ∉ stringsOf c w.app) :
    Unharmed w.stack (onReadyToSend w).stack := by
  cases hdue : due w.app.protocolState with
  | none =>
      rw [onReadyToSend_idle hdue]
      exact unharmed_of_log rfl
  | some c =>
      rw [onReadyToSend_due hdue]
      cases c with
      | authLogin | data => exact unharmed_sendLiteral _ hw
      | quit =>
          have hsend : Proc.Within SameSettings (sendBytes inner (ascii "QUIT\r\n")) :=
            frames_sameSettings.sendBytes _
          have hsent : Unharmed w.stack
              (offer .quit (sendBytes inner (ascii "QUIT\r\n")) w).stack := by
            rw [stack_offer]
            exact unharmed_of_sound ((Frames.sound careful_inner).sendBytes _ w) hw.tcp
          have htcp := ((sameSettings_offer .quit hsend w).attached hw).tcp
          exact unharmed_trans hsent
            (unharmed_of_sound ((Frames.sound careful_inner).close _) htcp)
      | helo | user | password | mailFrom | rcptTo | message =>
          exact (sendTexts_complete hw (hcomplete _ hdue)).1

/-- A command that is due and of which a string is NULL makes `onReadyToSend` read it. -/
theorem complete_of_unharmed {w : World SMTPClient} (hw : Attached w) {c : Command}
    (hdue : due w.app.protocolState = some c) (h : Unharmed w.stack (onReadyToSend w).stack) :
    none ∉ stringsOf c w.app := by
  intro hnull
  rw [onReadyToSend_due hdue] at h
  cases c with
  | authLogin | data | quit => exact absurd hnull List.not_mem_nil
  | helo | user | password | mailFrom | rcptTo | message => exact harmed_sendTexts hw hnull h

/-- What a command leaves of the registration and the mail. -/
theorem sameSettings_sendDue (c : Command) (next : UInt8) (w : World SMTPClient) :
    SameSettings w (sendDue c next w) := by
  have htexts : ∀ c : Command, SameSettings w (sendTexts c next w) := by
    intro c
    unfold sendTexts
    split
    · exact ⟨rfl⟩
    · rename_i sb _
      have hwritten := written_writeTexts sb 0 (textsOf c w) w
      rcases hrun : (writeTexts sb 0 (textsOf c w)).run w with ⟨_ | length, w₁⟩
      · rw [hrun] at hwritten
        exact ⟨congrArg _ hwritten.self⟩
      · rw [hrun] at hwritten
        refine ⟨(sameSettings_offer c (frames_sameSettings.send length) w₁).settings.trans ?_⟩
        rw [hwritten.self]
  cases c with
  | authLogin => exact ⟨(sameSettings_offer _ (frames_sameSettings.sendBytes _) w).settings⟩
  | data => exact ⟨(sameSettings_offer _ (frames_sameSettings.sendBytes _) w).settings⟩
  | quit =>
      exact trans_of SameSettings (sameSettings_offer _ (frames_sameSettings.sendBytes _) w)
        (frames_sameSettings.close _)
  | helo | user | password | mailFrom | rcptTo | message => exact htexts _

/-- Sending a command keeps the mail. -/
theorem Readied.sameMail {w w' : World SMTPClient} (h : Readied w w') : SameMail w w' := by
  cases h with
  | idle _ h => exact sameMail_of_app (congrArg World.app h)
  | undefined happ => exact sameMail_of_app happ
  | command _ _ _ _ happ => exact ⟨_, _, _, _, happ⟩
  | quit _ _ _ happ => exact ⟨_, _, _, _, happ⟩

/-- Answering a line keeps the mail. -/
theorem Answers.sameMail {line : Bytes} {w w' : World SMTPClient} (h : Answers line w w') :
    SameMail w w' := by
  cases h with
  | ignored _ h => exact sameMail_of_app (congrArg World.app h)
  | expected _ _ happ => exact ⟨_, _, _, _, happ⟩
  | refused _ h => exact sameMail_of_app h.app

/-! ### Lines -/

section Line

variable {line : Bytes} {w : World SMTPClient}

/-- A line up to the `switch`, behind which `onReadyToSend` may be called. -/
theorem onLineReceived_cases (line : Bytes) (w : World SMTPClient) :
    ∃ w', onLineReceived line w = (if w'.self.readyToSend then onReadyToSend w' else w') ∧
      SameMail w w' ∧ SameSettings w w' ∧ Socket.Sound w w' := by
  have hsound := Frames.sound careful_inner
  have hrecord : SameMail w (record (.line line) w) ∧ SameSettings w (record (.line line) w) ∧
      Socket.Sound w (record (.line line) w) :=
    ⟨⟨_, _, _, _, rfl⟩, ⟨rfl⟩, rfl, id, [], (List.append_nil _).symm, fun _ => List.not_mem_nil⟩
  have hclose : ∀ w : World SMTPClient, SameMail w ((close inner).exec w) ∧
      SameSettings w ((close inner).exec w) ∧ Socket.Sound w ((close inner).exec w) := fun w =>
    ⟨sameMail_of_app (closing_close w).app, frames_sameSettings.close w, hsound.close w⟩
  have hanswer : ∀ w : World SMTPClient, SameMail w (answer line w) ∧
      SameSettings w (answer line w) ∧ Socket.Sound w (answer line w) := by
    intro w
    have hmail := (answers_answer line w).sameMail
    unfold answer at hmail ⊢
    split
    · exact ⟨refl_of SameMail w, refl_of SameSettings w, refl_of Socket.Sound w⟩
    · split
      · have hset : ∀ w' : World SMTPClient, w'.this = w.this → w'.self = w.self →
            w'.stack = w.stack → SameSettings w w' ∧ Socket.Sound w w' := by
          intro w' hthis hself hstack
          refine ⟨⟨congrArg _ hself⟩, hthis, fun h => by rwa [hself], [], ?_, fun _ => ?_⟩
          · rw [hstack, List.append_nil]
          · exact List.not_mem_nil
        dsimp only
        split
        · exact ⟨⟨_, _, _, _, rfl⟩, hset _ rfl rfl rfl⟩
        · exact ⟨⟨_, _, _, _, rfl⟩, hset _ rfl rfl rfl⟩
      · exact hclose w
  obtain ⟨w₁, hw₁⟩ : ∃ w₁, w₁ = if checkCode line 500 then
    (close inner).exec (record (.line line) w) else record (.line line) w := ⟨_, rfl⟩
  have hstart : SameMail w w₁ ∧ SameSettings w w₁ ∧ Socket.Sound w w₁ := by
    rw [hw₁]
    split
    · obtain ⟨hmail, hsettings, hs⟩ := hclose (record (.line line) w)
      exact ⟨trans_of SameMail hrecord.1 hmail, trans_of SameSettings hrecord.2.1 hsettings,
        trans_of Socket.Sound hrecord.2.2 hs⟩
    · exact hrecord
  obtain ⟨hmail, hsettings, hs⟩ := hanswer w₁
  refine ⟨answer line w₁, ?_, trans_of SameMail hstart.1 hmail,
    trans_of SameSettings hstart.2.1 hsettings, trans_of Socket.Sound hstart.2.2 hs⟩
  rw [hw₁]
  rfl

/-- `SMTPClient::onLineReceived` keeps the mail. -/
theorem sameMail_onLineReceived : SameMail w (onLineReceived line w) := by
  obtain ⟨w', heq, hmail, -⟩ := onLineReceived_cases line w
  rw [heq]
  split
  · exact trans_of SameMail hmail (readied_onReadyToSend w').sameMail
  · exact hmail

/-- With credentials and a mail that are all there, a line reads no NULL. -/
theorem unharmed_onLineReceived (hw : Attached w) (hsupplied : Supplied w.app) :
    Unharmed w.stack (onLineReceived line w).stack := by
  obtain ⟨w', heq, hmail, hsettings, hs⟩ := onLineReceived_cases line w
  have hbefore := unharmed_of_sound hs hw.tcp
  rw [heq]
  split
  · refine unharmed_trans hbefore (unharmed_onReadyToSend (hsettings.attached hw) ?_)
    exact complete_of_supplied (hmail.supplied.mpr hsupplied)
  · exact hbefore

/-- The reply that is waited for leads to the state in which the next command is due. -/
theorem onLineReceived_expected (h500 : ¬ checkCode line 500)
    (hafter : stateAfter line w.app.protocolState = w.app.protocolState + 1) :
    ∃ w', onLineReceived line w = (if w'.self.readyToSend then onReadyToSend w' else w') ∧
      w'.app.protocolState = w.app.protocolState + 1 ∧ w'.self = w.self ∧
      w'.stack = w.stack ∧ SameMail w w' := by
  have hne : w.app.protocolState + 1 ≠ w.app.protocolState := by
    intro h
    have hnat := congrArg UInt8.toNat h
    rw [UInt8.toNat_add, UInt8.toNat_one] at hnat
    have := w.app.protocolState.toNat_lt
    omega
  have hp := protocolState_answer line (record (.line line) w)
  refine ⟨answer line (record (.line line) w), ?_, hp.trans hafter, ?_⟩
  · unfold onLineReceived
    dsimp only
    rw [if_neg h500]
  · have hrecord : SameMail w (record (.line line) w) := ⟨_, _, _, _, rfl⟩
    rw [show (record (.line line) w).app.protocolState = w.app.protocolState from rfl,
      hafter] at hp
    cases answers_answer line (record (.line line) w) with
    | ignored _ heq => exact absurd (hp.symm.trans (by rw [heq]; rfl)) hne
    | refused _ hclose => exact absurd (hp.symm.trans (by rw [hclose.app]; rfl)) hne
    | expected _ _ happ hself hstack =>
        exact ⟨hself, hstack, trans_of SameMail hrecord ⟨_, _, _, _, happ⟩⟩

end Line

/-! ### Sessions -/

/-- An incomplete mail is given up at once, if the connection can be closed. -/
theorem getState_onEstablished {w : World SMTPClient} (hopen : w.self.state = ESTABLISHED) :
    (onEstablished w).self.getState = ESTABLISHED ↔ ¬ (Incomplete w.app ∧ CanReset w) := by
  have hself : (onEstablished w).self.getState =
      (if Incomplete w.app then (close inner).exec w else w).self.getState := rfl
  have hnow : w.self.getState = ESTABLISHED := by
    rw [getState, hopen]
    rfl
  rw [hself]
  split
  case isFalse hcomplete => exact ⟨fun _ h => hcomplete h.1, fun _ => hnow⟩
  case isTrue hincomplete =>
    constructor
    · exact fun h hcan => ((closing_close w).open_ h).2 hcan.2
    · intro hshort
      have hcannot : ¬ CanReset w := fun hcan => hshort ⟨hincomplete, hcan⟩
      have hlocal : ¬ w.self.localClosed := by
        rw [localClosed, hopen]
        decide
      have hfin := mt (@sendSegment_succeeds_iff _ inner w (FIN ||| ACK) (by decide) 0 0).mp hcannot
      rcases hrun : (sendSegment inner (FIN ||| ACK) 0 0 0).run w with ⟨_ | _, w₁⟩
      · have hclose : (close inner).exec w = w₁ := by
          unfold close Proc.exec
          rw [Proc.run_read_bind, if_neg hlocal, Proc.run_bind_of_none hrun]
        have hstate := (unmoved_sendSegment inner (FIN ||| ACK) 0 0 w).state
        rw [hrun] at hstate
        rw [hclose, getState, hstate]
        exact hnow
      · exact absurd (by rw [Proc.succeeds, hrun]; rfl) hfin

/-- `SMTPClient::onEstablished` keeps the mail. -/
theorem sameMail_onEstablished (w : World SMTPClient) : SameMail w (onEstablished w) := by
  unfold onEstablished
  dsimp only
  split
  · exact ⟨_, _, _, _, by rw [(closing_close w).app]⟩
  · exact ⟨_, _, _, _, rfl⟩

/-- `SMTPClient::onEstablished` dereferences nothing. -/
theorem sound_onEstablished (w : World SMTPClient) :
    SameSettings w (onEstablished w) ∧ Socket.Sound w (onEstablished w) := by
  have hclose : SameSettings w ((close inner).exec w) ∧ Socket.Sound w ((close inner).exec w) :=
    ⟨frames_sameSettings.close w, (Frames.sound careful_inner).close w⟩
  unfold onEstablished
  dsimp only
  split
  · exact ⟨⟨hclose.1.settings⟩, hclose.2.this, hclose.2.tcp, hclose.2.log⟩
  · exact ⟨⟨rfl⟩, rfl, id, [], (List.append_nil _).symm, fun _ => List.not_mem_nil⟩

namespace Session

/-- No callback of a session reads NULL. -/
def NeverReadsNull (w : World SMTPClient) : Prop :=
  Unharmed w.stack (onEstablished w).stack ∧
    ∀ x e, Reaches Possible run (start w) x → Possible x e → Attached x.world →
      (∀ w', e ≠ .outside w') → Unharmed x.world.stack (run e x).world.stack

/-- In a session the strings stay what they are. -/
theorem sameMail_run {x : Session} {e : Event} (hpossible : x.Possible e) :
    SameMail x.world (run e x).world := by
  cases e with
  | beginData | endData => exact refl_of SameMail x.world
  | line line => exact sameMail_onLineReceived
  | readyToSend => exact (readied_onReadyToSend x.world).sameMail
  | remoteClosed => exact sameMail_of_app (closing_close x.world).app
  | closed =>
      unfold run onClosed
      dsimp only
      split
      · exact trans_of SameMail (sameMail_failed x.world) (frames_sameMail.forceClose _)
      · exact sameMail_failed x.world
  | reset => exact sameMail_failed x.world
  | outside w =>
      refine ⟨w.app.status, w.app.protocolState, w.app.recvLine, w.app.dialogue, ?_⟩
      show w.app = _
      rw [← hpossible.app]

/-- A session keeps the mail. -/
theorem sameMail_reaches {w : World SMTPClient} {x : Session}
    (h : Reaches Possible run (start w) x) : SameMail w x.world :=
  h.invariant (sameMail_onEstablished w) fun _ _ hmail he =>
    trans_of SameMail hmail (sameMail_run he)

/-- The events that do not go on with the dialogue read no NULL. -/
theorem unharmed_run {x : Session} {e : Event} (hattached : Attached x.world)
    (hline : ∀ line, e = .line line → Unharmed x.world.stack (onLineReceived line x.world).stack)
    (hready : e = .readyToSend → Unharmed x.world.stack (onReadyToSend x.world).stack)
    (hinside : ∀ w', e ≠ .outside w') : Unharmed x.world.stack (run e x).world.stack := by
  have hsound := Frames.sound careful_inner
  have hfailed : (failed x.world).stack.log = x.world.stack.log := by
    unfold failed
    split
    · rfl
    · rfl
  cases e with
  | beginData | endData => exact unharmed_of_log rfl
  | line line => exact hline line rfl
  | readyToSend => exact hready rfl
  | remoteClosed => exact unharmed_of_sound (hsound.close x.world) hattached.tcp
  | closed =>
      have htcp : (failed x.world).self.tcp.isSome := by
        rw [self_failed]
        exact hattached.tcp
      unfold run onClosed
      dsimp only
      split
      · exact unharmed_trans (unharmed_of_log hfailed)
          (unharmed_of_sound (hsound.forceClose _) htcp)
      · exact unharmed_of_log hfailed
  | reset => exact unharmed_of_log hfailed
  | outside w => exact absurd rfl (hinside w)

/-- A session that has been given up at once stays so. -/
theorem givenUp_reaches {w : World SMTPClient} {x : Session}
    (h : Reaches Possible run (start w) x)
    (hclosed : (onEstablished w).self.getState ≠ ESTABLISHED) :
    ¬ x.receiving ∧ x.world.app.protocolState = SMTP_INIT ∧
      x.world.self.getState ≠ ESTABLISHED := by
  refine Reaches.invariant (P := fun x => ¬ x.receiving ∧ x.world.app.protocolState = SMTP_INIT ∧
    x.world.self.getState ≠ ESTABLISHED) h ⟨Bool.false_ne_true, rfl, hclosed⟩ ?_
  rintro x e ⟨hidle, hinit, hclosed⟩ he
  cases e with
  | beginData => exact absurd he.2 hclosed
  | line | endData => exact absurd he hidle
  | readyToSend =>
      have hnothing : onReadyToSend x.world = x.world := onReadyToSend_idle (by rw [hinit]; rfl)
      rw [run, hnothing]
      exact ⟨hidle, hinit, hclosed⟩
  | remoteClosed | closed | reset | outside _ =>
      obtain ⟨hsame, hopen⟩ := sameDialogue_run he (fun _ => by simp) (by simp)
      exact ⟨hidle, hsame.protocolState.trans hinit, hclosed ∘ hopen⟩

end Session

/-! ### A server that gives the expected replies -/

/-- Lines that are accepted in the waiting states, one after the other. -/
def acceptedLines : List Bytes :=
  [ascii "220 ", ascii "250 ", ascii "334 VXNlcm5hbWU6", ascii "334 UGFzc3dvcmQ6", ascii "235 ",
    ascii "250 ", ascii "250 ", ascii "354 "]

/-- For every command there is a reply that takes the dialogue on. -/
theorem exists_acceptedLine {i : ℕ} (hi : i < 8) :
    ∃ line, ¬ checkCode line 500 ∧
      stateAfter line (UInt8.ofNat (2 * i)) = UInt8.ofNat (2 * i) + 1 := by
  have hall : ∀ i < 8, ¬ checkCode (acceptedLines.getD i []) 500 ∧
      stateAfter (acceptedLines.getD i []) (UInt8.ofNat (2 * i)) = UInt8.ofNat (2 * i) + 1 := by
    decide +kernel
  exact ⟨_, hall i hi⟩

namespace Session

/-- What a session that reads no NULL does when the line that is waited for arrives: the command
that is due is written and handed to `send`, at once or with the next ACK. -/
theorem reaches_due {w v : World SMTPClient} (h : NeverReadsNull w)
    (hreach : Reaches Possible run (start w) ⟨false, v⟩) (hattached : Attached v)
    (hopen : v.self.getState = ESTABLISHED) {i : ℕ} (hi : i < 8)
    (hstate : v.app.protocolState.toNat = 2 * i) {c : Command} (hc : script[i]? = some c) :
    none ∉ stringsOf c w.app ∧ ∃ v', Reaches Possible run (start w) ⟨false, v'⟩ ∧ Attached v' ∧
      v'.self.getState = ESTABLISHED ∧ v'.app.protocolState.toNat = 2 * (i + 1) := by
  have hp : v.app.protocolState = UInt8.ofNat (2 * i) := by rw [← hstate, UInt8.ofNat_toNat]
  obtain ⟨line, h500, hafter⟩ := exists_acceptedLine hi
  rw [← hp] at hafter
  obtain ⟨a, hline, hnext, hself, hstack, hmail⟩ := onLineReceived_expected h500 hafter
  have hbegun : Reaches Possible run (start w) ⟨true, v⟩ :=
    Reaches.step (e := Event.beginData) hreach ⟨Bool.false_ne_true, hopen⟩
  have hdone : Reaches Possible run (start w) ⟨true, onLineReceived line v⟩ :=
    Reaches.step (e := Event.line line) hbegun rfl
  have hended : Reaches Possible run (start w) ⟨false, onLineReceived line v⟩ :=
    Reaches.step (e := Event.endData) hdone rfl
  have hattacheda : Attached a := ⟨hself ▸ hattached.tcp, hself ▸ hattached.sendBuffer,
    hself ▸ hattached.remoteDomain⟩
  -- whether the command is sent behind the line or with the next ACK
  obtain ⟨hsent, hunharmed⟩ : Reaches Possible run (start w) ⟨false, onReadyToSend a⟩ ∧
      Unharmed a.stack (onReadyToSend a).stack := by
    by_cases hready : a.self.readyToSend
    · rw [if_pos hready] at hline
      have hunharmed := h.2 _ (.line line) hbegun rfl hattached fun _ => by simp
      rw [run, hline, ← hstack] at hunharmed
      rw [hline] at hended
      exact ⟨hended, hunharmed⟩
    · rw [if_neg hready] at hline
      rw [hline] at hended
      have hidle : ¬ (⟨false, a⟩ : Session).receiving := Bool.false_ne_true
      exact ⟨Reaches.step (e := Event.readyToSend) hended hidle,
        h.2 _ .readyToSend hended hidle hattacheda fun _ => by simp⟩
  have hstatea : a.app.protocolState.toNat = 2 * i + 1 := by
    rw [hnext, UInt8.toNat_add, hstate]
    exact Nat.mod_eq_of_lt (by simp; omega)
  have hdue : due a.app.protocolState = some c := by
    have hodd : a.app.protocolState % 2 = 1 := by
      rw [← UInt8.toNat_inj, UInt8.toNat_mod, hstatea]
      exact Nat.mul_add_mod 2 i 1
    rw [due, if_pos hodd, hstatea, show (2 * i + 1) / 2 = i by omega]
    exact hc
  have hcomplete := complete_of_unharmed hattacheda hdue hunharmed
  have hstrings : stringsOf c a.app = stringsOf c w.app :=
    (hmail.stringsOf c).trans ((sameMail_reaches hreach).stringsOf c)
  have hquit : c ≠ .quit := by
    rintro rfl
    have hnodup : script.Nodup := by decide
    have hlt : i < script.length := (List.getElem?_eq_some_iff.mp hc).1
    have h8 : i = 8 := (List.getElem?_inj hlt hnodup).mp hc
    omega
  have hsettings : SameSettings a (onReadyToSend a) := by
    rw [onReadyToSend_due hdue]
    exact sameSettings_sendDue c _ a
  have hgone : (onReadyToSend a).app.protocolState = a.app.protocolState + 1 := by
    rw [onReadyToSend_due hdue]
    cases c with
    | authLogin | data => rfl
    | quit => exact absurd rfl hquit
    | helo | user | password | mailFrom | rcptTo | message =>
        exact (sendTexts_complete hattacheda hcomplete).2
  refine ⟨hstrings ▸ hcomplete, onReadyToSend a, hsent, hsettings.attached hattacheda, ?_, ?_⟩
  · have hopena : a.self.getState = ESTABLISHED := by rw [hself]; exact hopen
    have hstays : (onReadyToSend a).app.protocolState ≠ a.app.protocolState := by
      intro hsame
      have hnat := congrArg UInt8.toNat (hgone.symm.trans hsame)
      rw [UInt8.toNat_add, hstatea] at hnat
      simp at hnat
      omega
    cases readied_onReadyToSend a with
    | idle _ heq => exact absurd (by rw [heq]) hstays
    | undefined happ => exact absurd (by rw [happ]) hstays
    | command _ _ _ _ _ hsame => exact hsame.trans hopena
    | quit _ _ _ happ => exact absurd (by rw [happ]) hstays
  · rw [hgone, UInt8.toNat_add, hstatea]
    exact (Nat.mod_eq_of_lt (by simp; omega)).trans (by simp; omega)

/-- A session that is not given up at once comes to every command, so that it reads every
string. -/
theorem supplied_of_neverReadsNull {w : World SMTPClient} (hattached : Attached w)
    (hopen : (onEstablished w).self.getState = ESTABLISHED) (h : NeverReadsNull w) :
    Supplied w.app := by
  have hrun : ∀ i ≤ 8, (∃ v, Reaches Possible run (start w) ⟨false, v⟩ ∧ Attached v ∧
      v.self.getState = ESTABLISHED ∧ v.app.protocolState.toNat = 2 * i) ∧
      ∀ j < i, ∀ c, script[j]? = some c → none ∉ stringsOf c w.app := by
    intro i
    induction i with
    | zero =>
        refine fun _ => ⟨⟨onEstablished w, .refl, ?_, hopen, rfl⟩, fun j hj => ?_⟩
        · exact (sound_onEstablished w).1.attached hattached
        · exact absurd hj (Nat.not_lt_zero j)
    | succ i ih =>
        intro hi
        obtain ⟨⟨v, hreach, hv, hopenv, hstate⟩, hbefore⟩ := ih (by omega)
        obtain ⟨c, hc⟩ : ∃ c, script[i]? = some c := by
          have hlt : i < script.length := Nat.lt_of_lt_of_le hi (by decide)
          exact ⟨_, List.getElem?_eq_getElem hlt⟩
        obtain ⟨hcomplete, hnext⟩ := reaches_due h hreach hv hopenv (by omega) hstate hc
        refine ⟨hnext, fun j hj d hd => ?_⟩
        rcases Nat.lt_succ_iff_lt_or_eq.mp hj with hlt | rfl
        · exact hbefore j hlt d hd
        · obtain rfl : c = d := Option.some.inj (hc.symm.trans hd)
          exact hcomplete
  exact (supplied_iff w.app).mpr (hrun 8 le_rfl).2

/-- A client whose connection has just been established never reads NULL, whatever happens in
the session, if and only if it has its credentials, its addresses and a body, or is one of an
incomplete mail that can close the connection. -/
theorem neverReadsNull_iff {w : World SMTPClient} (hattached : Attached w)
    (hopen : w.self.state = ESTABLISHED) :
    NeverReadsNull w ↔ Supplied w.app ∨ (Incomplete w.app ∧ CanReset w) := by
  have hgiven := getState_onEstablished hopen
  constructor
  · intro h
    by_cases hclosed : Incomplete w.app ∧ CanReset w
    · exact .inr hclosed
    · exact .inl (supplied_of_neverReadsNull hattached (hgiven.mpr hclosed) h)
  · intro h
    refine ⟨unharmed_of_sound (sound_onEstablished w).2 hattached.tcp, ?_⟩
    rcases h with hsupplied | hclosed
    · intro x e hreach _ hx hinside
      have hall := (sameMail_reaches hreach).supplied.mpr hsupplied
      refine unharmed_run hx (fun line _ => unharmed_onLineReceived hx hall) (fun _ => ?_) hinside
      exact unharmed_onReadyToSend hx (complete_of_supplied hall)
    · intro x e hreach hpossible hx hinside
      obtain ⟨hidle, hinit, -⟩ := givenUp_reaches hreach fun h => hgiven.mp h hclosed
      refine unharmed_run hx (fun line hline => ?_) (fun _ => ?_) hinside
      · subst hline
        exact absurd hpossible hidle
      · rw [onReadyToSend_idle (by rw [hinit]; rfl)]
        exact unharmed_of_log rfl

end Session

/-- A client has its credentials just if both were given to the constructor and could be
encoded. -/
theorem new_credentials (encode : Bytes → Option Bytes) (user pass : Option Bytes)
    (c : SMTPClient) :
    ((new encode user pass c).user.isSome ∧ (new encode user pass c).pass.isSome) ↔
      ∃ u p, user = some u ∧ pass = some p ∧ (encode u).isSome ∧ (encode p).isSome := by
  unfold new
  cases user with
  | none => simp
  | some u =>
      cases pass with
      | none => simp
      | some p => cases hu : encode u <;> cases hp : encode p <;> simp [hu, hp]

namespace Session

/-- A mail with everything, sent with credentials. -/
theorem neverReadsNull_exampleMail : NeverReadsNull (exampleMail 100) := by
  have hattached : Attached (exampleMail 100) :=
    ⟨by decide +kernel, by decide +kernel, by decide +kernel⟩
  have hopen : (exampleMail 100).self.state = ESTABLISHED := by decide +kernel
  exact (neverReadsNull_iff hattached hopen).mpr (.inl (by decide +kernel))

/-- The same mail, sent by a client that was constructed without credentials. -/
def exampleAnonymous : World SMTPClient :=
  { exampleMail 100 with app := { new some none none (exampleMail 100).app with
    status := EMAIL_SENDING, to_ := some (ascii "t"), from_ := some (ascii "f")
    subject := some (ascii "s"), body := some (ascii "b") } }

/-- A mail with a subject and no body. -/
def exampleBodiless : World SMTPClient :=
  { exampleMail 100 with app := { (exampleMail 100).app with body := none } }

/-- The credentials are read without a test, and so is the body. -/
theorem readsNull_anonymous :
    ¬ NeverReadsNull exampleAnonymous ∧ ¬ NeverReadsNull exampleBodiless := by
  constructor
  · intro h
    have hattached : Attached exampleAnonymous :=
      ⟨by decide +kernel, by decide +kernel, by decide +kernel⟩
    have hopen : (onEstablished exampleAnonymous).self.getState = ESTABLISHED := by
      decide +kernel
    exact absurd (supplied_of_neverReadsNull hattached hopen h) (by decide +kernel)
  · intro h
    have hattached : Attached exampleBodiless :=
      ⟨by decide +kernel, by decide +kernel, by decide +kernel⟩
    have hopen : (onEstablished exampleBodiless).self.getState = ESTABLISHED := by
      decide +kernel
    exact absurd (supplied_of_neverReadsNull hattached hopen h) (by decide +kernel)

end Session

end SMTPClient

end AtmegaNet
