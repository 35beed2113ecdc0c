import AtmegaNet.Lib.DotLines
import AtmegaNet.SMTPClient

/-!
# The text of a mail

Behind the reply to DATA the client sends its mail in one segment, and behind it the line with a
single dot that ends it. It does not put a dot in front of the lines that begin with one. This
module says what a server reads from the segment, and for which mails that is the mail.

## Main results

* `receiveMail_messageOf`: a mail is read as it was given just if no line of it begins with a dot.
* `onReadyToSend_message`: the segment that carries the mail, and what is read from it.
-/

open Procedure

namespace AtmegaNet

namespace SMTPClient

open Socket

/-! ### Mails -/

/-- A mail as a server is to receive it: the headers, an empty line and the body. -/
def mailText (from_ : Bytes) (subject : Option Bytes) (body : Bytes) : Bytes :=
  ascii "From: " ++ from_ ++ ascii "\r\n" ++
    (match subject with
      | none => []
      | some subject => ascii "Subject: " ++ subject ++ ascii "\r\n") ++
    ascii "\r\n" ++ body ++ ascii "\r\n"

/-- What the client sends in SMTP_READY_FOR_EMAIL. -/
def messageOf (from_ : Bytes) (subject : Option Bytes) (body : Bytes) : Bytes :=
  mailText from_ subject body ++ ascii ".\r\n"

/-- How a server reads a mail: the text, and what is left behind it. -/
def receiveMail : Bytes → Option (Bytes × Bytes) := DotLines.read 13 10 46

/-- The lines of a text that are sent as lines of their own: the first line of a header is not,
since it has the name of the header in front. -/
def ownLines (from_ : Bytes) (subject : Option Bytes) (body : Bytes) : List Bytes :=
  (DotLines.split 13 10 from_).tail ++
    (match subject with
      | none => []
      | some subject => (DotLines.split 13 10 subject).tail) ++
    DotLines.split 13 10 body

/-- No line of a mail begins with a dot. -/
def Transparent (from_ : Bytes) (subject : Option Bytes) (body : Bytes) : Prop :=
  ∀ l ∈ ownLines from_ subject body, l.head? ≠ some 46

instance (from_ : Bytes) (subject : Option Bytes) (body : Bytes) :
    Decidable (Transparent from_ subject body) :=
  inferInstanceAs (Decidable (∀ l ∈ ownLines from_ subject body, l.head? ≠ some 46))

/-- The lines of a header. -/
theorem split_header (name : Bytes) (hname : 13 ∉ name) (value : Bytes) :
    ∃ first, DotLines.split 13 10 (name ++ value) =
      (name ++ first) :: (DotLines.split 13 10 value).tail :=
  ⟨_, DotLines.split_append_head hname value⟩

/-- The lines of a mail, and the one that ends it. -/
theorem split_messageOf (from_ : Bytes) (subject : Option Bytes) (body : Bytes) :
    ∃ ls, DotLines.split 13 10 (messageOf from_ subject body) = ls ++ [[46], []] ∧
      DotLines.join 13 10 ls = mailText from_ subject body ∧
      ((∀ l ∈ ls, l.head? ≠ some 46) ↔ Transparent from_ subject body) := by
  have hcrlf : ∀ d e : Bytes, DotLines.split 13 10 (d ++ (13 :: 10 :: e)) =
      DotLines.split 13 10 d ++ DotLines.split 13 10 e :=
    DotLines.split_append (by decide)
  obtain ⟨first, hfrom⟩ := split_header (ascii "From: ") (by decide) from_
  cases subject with
  | none =>
      refine ⟨DotLines.split 13 10 (ascii "From: " ++ from_) ++ [[]] ++ DotLines.split 13 10 body,
        ?_, ?_, ?_⟩
      · have hmessage : messageOf from_ none body =
            (ascii "From: " ++ from_) ++ 13 :: 10 :: ([] ++ 13 :: 10 ::
              (body ++ 13 :: 10 :: ([46] ++ 13 :: 10 :: []))) := by
          simp [messageOf, mailText, ascii]
        rw [hmessage, hcrlf, hcrlf, hcrlf, hcrlf]
        simp [DotLines.split]
      · rw [DotLines.join_append, DotLines.join_append, DotLines.join_split, DotLines.join_split]
        simp [mailText, DotLines.join, ascii]
      · rw [hfrom]
        simp [Transparent, ownLines, ascii, or_imp, forall_and]
  | some subject =>
      obtain ⟨first', hsubject⟩ := split_header (ascii "Subject: ") (by decide) subject
      refine ⟨DotLines.split 13 10 (ascii "From: " ++ from_) ++
        DotLines.split 13 10 (ascii "Subject: " ++ subject) ++ [[]] ++
        DotLines.split 13 10 body, ?_, ?_, ?_⟩
      · have hmessage : messageOf from_ (some subject) body =
            (ascii "From: " ++ from_) ++ 13 :: 10 :: ((ascii "Subject: " ++ subject) ++ 13 :: 10 ::
              ([] ++ 13 :: 10 :: (body ++ 13 :: 10 :: ([46] ++ 13 :: 10 :: [])))) := by
          simp [messageOf, mailText, ascii]
        rw [hmessage, hcrlf, hcrlf, hcrlf, hcrlf, hcrlf]
        simp [DotLines.split]
      · rw [DotLines.join_append, DotLines.join_append, DotLines.join_append,
          DotLines.join_split, DotLines.join_split, DotLines.join_split]
        simp [mailText, DotLines.join, ascii]
      · rw [hfrom, hsubject]
        simp [Transparent, ownLines, ascii, or_imp, forall_and]

/-- A mail is read as it was given, with nothing left behind it, just if no line of it begins
with a dot. -/
theorem receiveMail_messageOf (from_ : Bytes) (subject : Option Bytes) (body : Bytes) :
    receiveMail (messageOf from_ subject body) = some (mailText from_ subject body, []) ↔
      Transparent from_ subject body := by
  obtain ⟨ls, hsplit, hjoin, htransparent⟩ := split_messageOf from_ subject body
  rw [← hjoin, ← htransparent]
  exact DotLines.read_eq_iff hsplit

-- the text ends before a line with a single dot, and the server is left with the line behind it
example : receiveMail (messageOf (ascii "f") none (ascii ".\r\nRSET")) =
    some (ascii "From: f\r\n\r\n", ascii "RSET\r\n.\r\n") := by
  decide +kernel

/-! ### Sending a mail -/

/-- The message, as the client writes it. -/
theorem textsOf_message {w : World SMTPClient} {from_ body : Bytes} {subject : Option Bytes}
    (hfrom : w.app.from_ = some from_) (hsubject : w.app.subject = subject)
    (hbody : w.app.body = some body) :
    ∃ texts : List Bytes, textsOf .message w = texts.map some ∧
      texts.flatten = messageOf from_ subject body := by
  cases subject with
  | none =>
      refine ⟨[ascii "From: ", from_, ascii "\r\n", ascii "\r\n", body, ascii "\r\n",
        ascii ".\r\n"], ?_, by simp [messageOf, mailText]⟩
      simp [textsOf, hfrom, hsubject, hbody]
  | some subject =>
      refine ⟨[ascii "From: ", from_, ascii "\r\n", ascii "Subject: ", subject, ascii "\r\n",
        ascii "\r\n", body, ascii "\r\n", ascii ".\r\n"], ?_, by simp [messageOf, mailText]⟩
      simp [textsOf, hfrom, hsubject, hbody]

/-- The payload of the segment with the data, and the copy of it. -/
theorem payloadOf_stashed {sb stash : Buffer} (hsb : sb.root = .send ∧ sb.base = 54)
    (hstash : stash.root ≠ .send) {length : UInt16} {d : Bytes} (hlength : length.toNat = d.length)
    (w : World SMTPClient) :
    payloadOf (ACK ||| PSH) length (stashed length sb stash (w.put 54 d)).stack = d ∧
      Region.read (stashed length sb stash (w.put 54 d)).stack.mem stash.root stash.base d.length =
        d := by
  have hdata : Region.read (w.put 54 d).stack.mem .send 54 length.toNat = d :=
    Region.read_write_eq _ _ _ hlength
  constructor
  · rw [payloadOf, optionBytes, if_neg (by decide)]
    exact (Region.read_write_region _ hstash.symm _ _ _ _).trans hdata
  · rw [stashed, hsb.1, hsb.2, hdata]
    exact Region.read_write_self _ _ _ _

/-- The client sends the mail it was given, and stashes it; a server reads it as it was given just
if no line of it begins with a dot. -/
theorem onReadyToSend_message {w : World SMTPClient} {from_ body : Bytes} {subject : Option Bytes}
    (hstate : w.app.protocolState = SMTP_READY_FOR_EMAIL) (hfrom : w.app.from_ = some from_)
    (hsubject : w.app.subject = subject) (hbody : w.app.body = some body)
    (hlength : (messageOf from_ subject body).length < 65536)
    (hbuffer : w.self.sendBuffer = some (OffsetBuffer.reinit w.stack.ipPayload 20 0))
    (hcan : CanSend (Buffer.lengthOf (messageOf from_ subject body)) w) :
    ∃ log head stash,
      (onReadyToSend w).stack.log = w.stack.log ++ log ∧ head.length = 20 ∧
      packetsOf log = (if (IPHandler.getMACForIP w.self.remoteIP w.stack).isSome then
        [(w.self.remoteIP, TCP_PROTOCOL, head ++ messageOf from_ subject body)] else []) ∧
      (onReadyToSend w).self.stash = some stash ∧
      Region.read (onReadyToSend w).stack.mem stash.root stash.base
        (messageOf from_ subject body).length = messageOf from_ subject body ∧
      (receiveMail (messageOf from_ subject body) = some (mailText from_ subject body, []) ↔
        Transparent from_ subject body) := by
  have htcp : w.self.tcp.isSome := by
    obtain ⟨sb, -, hsb, -⟩ := hcan.buffers
    exact tcp_of_getSendDataBuffer hsb
  obtain ⟨sb, stash, hsb, hstash, hfits, -, hroot, hsize⟩ := hcan.buffers
  have hlen : (Buffer.lengthOf (messageOf from_ subject body)).toNat =
      (messageOf from_ subject body).length := Buffer.toNat_lengthOf hlength
  have hpos : Buffer.lengthOf (messageOf from_ subject body) ≠ 0 := by
    intro hzero
    rw [hzero] at hlen
    exact absurd hlen (by simp [messageOf, ascii])
  -- the payload of a segment begins behind the headers of the frame, the packet and the segment
  have hsend : sb.root = .send ∧ sb.base = 54 := by
    have hroom : 20 ≤ w.stack.room := le_trans (Nat.le_add_left _ _) hcan.room
    have hsize : 34 ≤ w.stack.sendSize.toNat := by
      rw [Stack.room] at hroom
      omega
    rw [getSendDataBuffer, if_neg (by simp [Option.isSome_iff_ne_none.mp htcp]), hbuffer] at hsb
    rw [← Option.some.inj hsb, OffsetBuffer.root_reinit, Stack.root_ipPayload,
      OffsetBuffer.base_reinit_of_le, Stack.base_ipPayload _ hsize]
    · exact ⟨rfl, rfl⟩
    · rw [UInt16.le_iff_toNat_le, Stack.toNat_size_ipPayload]
      exact hroom
  have hwrite : (writeTexts sb 0 (textsOf .message w)).run w =
      (some (Buffer.lengthOf (messageOf from_ subject body)),
        w.put 54 (messageOf from_ subject body)) := by
    obtain ⟨texts, htexts, hmessage⟩ := textsOf_message hfrom hsubject hbody
    obtain ⟨m, hwrites, hm⟩ := writeTexts_run sb texts 0 w
    have hle := UInt16.le_iff_toNat_le.mp hsize
    have hm := hm hfits (by simpa [hmessage, ← hlen] using hle)
    rw [hmessage, hsend.1, hsend.2] at hm
    rw [htexts, hwrites, hm, hmessage, UInt16.zero_add]
    rfl
  have hcan' : CanSend _ (w.put 54 (messageOf from_ subject body)) := hcan.congr rfl rfl
  obtain ⟨w', hsent, hrun⟩ := send_transmitted inner hcan' hpos hsb hstash
  have hend : onReadyToSend w = setProtocolState SMTP_CLIENT_SET_EMAIL
      (record (.sent .message) (w'.setSelf { w'.self with stateTime := w'.stack.millis })) := by
    have hoffer : offer .message (send inner (Buffer.lengthOf (messageOf from_ subject body)))
        (w.put 54 (messageOf from_ subject body)) =
          record (.sent .message) (w'.setSelf { w'.self with stateTime := w'.stack.millis }) := by
      rw [offer, Proc.succeeds, Proc.exec, hrun]
      rfl
    rw [onReadyToSend, hstate]
    rw [if_neg (by decide), if_neg (by decide), if_neg (by decide), if_neg (by decide),
      if_neg (by decide), if_neg (by decide), if_neg (by decide), if_pos rfl, sendTexts, hsb]
    dsimp only
    rw [hwrite]
    dsimp only
    rw [hoffer]
  have hother : stash.root ≠ .send := fun h => hroot (hsend.1.trans h.symm)
  obtain ⟨hpayload, hcopy⟩ := payloadOf_stashed hsend hother hlen w
  obtain ⟨log, hlog, -, hpackets⟩ := hsent.log
  rw [packetOf, hpayload, segmentBytes] at hpackets
  refine ⟨log, _, stash, ?_, ?_, hpackets, ?_, ?_, receiveMail_messageOf from_ subject body⟩
  · rw [hend]
    exact hlog
  · rw [optionBytes, if_neg (by decide)]
    rfl
  · have hadvance : ∀ (control : UInt8) (length : UInt16) (s : Socket),
        (advance control length s).stash = s.stash := by
      intro control length s
      unfold advance
      split_ifs
      · rfl
      · rfl
      · rfl
    rw [hend]
    exact (congrArg Socket.stash hsent.self).trans ((hadvance _ _ _).trans hstash)
  · rw [hend]
    have hkept := hsent.other stash.root hother
    refine (Region.read_congr fun i _ => ?_).trans hcopy
    exact congrFun hkept _

/-- A client with a connection, and a mail to send. -/
def exampleMessage : World SMTPClient :=
  { exampleMail 100 with app := { (exampleMail 100).app with protocolState := 15 } }

/-- A mail without a dot at the beginning of a line. -/
theorem onReadyToSend_message_example :
    ∃ log head stash,
      (onReadyToSend exampleMessage).stack.log = exampleMessage.stack.log ++ log ∧
      head.length = 20 ∧
      packetsOf log = (if (IPHandler.getMACForIP exampleMessage.self.remoteIP
          exampleMessage.stack).isSome then
        [(exampleMessage.self.remoteIP, TCP_PROTOCOL,
          head ++ messageOf (ascii "f") (some (ascii "s")) (ascii "b"))] else []) ∧
      (onReadyToSend exampleMessage).self.stash = some stash ∧
      Region.read (onReadyToSend exampleMessage).stack.mem stash.root stash.base
        (messageOf (ascii "f") (some (ascii "s")) (ascii "b")).length =
          messageOf (ascii "f") (some (ascii "s")) (ascii "b") ∧
      (receiveMail (messageOf (ascii "f") (some (ascii "s")) (ascii "b")) =
          some (mailText (ascii "f") (some (ascii "s")) (ascii "b"), []) ↔
        Transparent (ascii "f") (some (ascii "s")) (ascii "b")) := by
  refine onReadyToSend_message (w := exampleMessage) rfl rfl rfl rfl (by decide) (by decide +kernel)
    ⟨by decide +kernel, by decide +kernel, ?_, by decide +kernel⟩
  exact ⟨.offsetBuffer 46 20 (.offsetBuffer 66 20 (.offsetBuffer 86 14 (.memBuffer .send 100))),
    .offsetBuffer 40 0 (.memBuffer .outbound 40), by decide +kernel, by decide +kernel,
    ⟨by decide, ⟨by decide, ⟨by decide, trivial⟩⟩⟩, ⟨by decide, trivial⟩, by decide,
    by decide +kernel⟩

/-- The data of the segments that have been sent. -/
def dataSent (log : List Obs) : Bytes := (packetsOf log).flatMap fun p => p.2.2.drop 20

/-- Not every mail that fits is read as it was given. -/
theorem not_transparent :
    ¬ ∀ (from_ : Bytes) (subject : Option Bytes) (body : Bytes),
      (messageOf from_ subject body).length ≤ 40 →
      receiveMail (dataSent (onReadyToSend { exampleMessage with app := { exampleMessage.app with
        from_ := some from_, subject := subject, body := some body } }).stack.log) =
          some (mailText from_ subject body, []) := by
  intro h
  have hread := h (ascii "f") none (ascii ".\r\nRSET") (by decide)
  exact absurd hread (by decide +kernel)

end SMTPClient

end AtmegaNet
