import AtmegaNet.SMTPClient

/-!
# The HTTP client

`HTTPClient` is a socket that sends one request. It sends it when the connection is established
and waits for the server to close the connection.

`onClosed` calls `forceClose` as long as the client is sending, and `forceClose` calls `onClosed`
again. What ends this is the RST that `forceClose` sends, since the event of the RST clears the
flag. The model bounds how deep these calls nest.

## Main results

* `onClosed_deep`: where a RST can be sent, two levels are enough.
* `closings_onClosed`: where it cannot, every call makes another.
-/

open Procedure

namespace AtmegaNet

/-- The fields of `HTTPClient`. -/
structure HTTPClient where
  path : Option Bytes
  method : Option Bytes
  body : Option Bytes
  contentType : Option Bytes
  sendInProgress : Bool
  deriving DecidableEq, Repr

namespace HTTPClient

open Socket

/-! ### The request -/

/-- The decimal digits of a number. -/
def digits (n : ℕ) : Bytes := (Nat.toDigits 10 n).map fun c => UInt8.ofNat c.toNat

/-- `itoa` in base 10, of an `int` of 16 bits. -/
def itoa (value : Int16) : Bytes :=
  (if value < 0 then ascii "-" else []) ++ digits value.toInt.natAbs

/-- The text of `itoa(strlen(body), contentLength, 10)`. -/
def contentLength (body : Option Bytes) : Bytes :=
  itoa (Buffer.lengthOf (body.getD [])).toInt16

/-- `s != NULL && strlen(s) > 0` -/
def nonempty (s : Option Bytes) : Bool := (s.getD []).length > 0

/-- The texts of the request, in the order in which they are written. -/
def texts (c : HTTPClient) : List (Option Bytes) :=
  [c.method, some (ascii " "), c.path, some (ascii "\n")] ++
    (if nonempty c.body then
      (if nonempty c.contentType then
        [some (ascii "Content-Type: "), c.contentType, some (ascii "\n")]
      else []) ++
      [some (ascii "Content-Length: "), some (contentLength c.body), some (ascii "\n")]
    else []) ++
    [some (ascii "\n")] ++ if nonempty c.body then [c.body] else []

/-- `char contentLength[5]` has no room for the text, with the zero behind it. -/
def overruns (c : HTTPClient) : Bool := nonempty c.body && (contentLength c.body).length + 1 > 5

/-- The virtual functions as `close` and `send` find them that the client calls in its own
events: they fire no event that the class overrides. -/
def inner : Callbacks HTTPClient where
  on _ w := w
  onDataReceived _ w := (true, w)
  getApplicationWindowSize _ size := size

/-- Set or clear the flag. -/
def setInProgress (sendInProgress : Bool) (w : World HTTPClient) : World HTTPClient :=
  { w with app := { w.app with sendInProgress := sendInProgress } }

/-- `HTTPClient::onEstablished`. What `send` returns is not looked at. A run that overruns
`contentLength` has no defined behaviour, and ends with that here. -/
def onEstablished (w : World HTTPClient) : World HTTPClient :=
  match w.self.getSendDataBuffer with
  | none => w.observe .nullDereference
  | some buf =>
      if overruns w.app then w.observe .outOfBounds
      else
        match (writeTexts buf 0 (texts w.app)).run w with
        | (none, w) => w
        | (some pos, w) => (Socket.send inner pos).exec w

/-! ### The other events -/

/-- `HTTPClient::onRemoteClosed` -/
def onRemoteClosed (w : World HTTPClient) : World HTTPClient :=
  (close inner).exec (setInProgress false w)

/-- The virtual functions of the class, given its `onClosed`. -/
def events (onClosed : World HTTPClient → World HTTPClient) : Callbacks HTTPClient where
  on e w := match e with
    | .onEstablished => onEstablished w
    | .onReadyToSend => w
    | .onRemoteClosed => onRemoteClosed w
    | .onLocalClosed => w
    | .onClosed => onClosed w
    | .onReset _ => setInProgress false w
  onDataReceived _ w := (true, w)
  getApplicationWindowSize _ size := size

/-- `HTTPClient::onClosed`, on a stack with room for `depth` calls of it. -/
def onClosed : ℕ → World HTTPClient → World HTTPClient
  | 0, w => w
  | depth + 1, w =>
      setInProgress false
        (if w.app.sendInProgress then forceClose (events (onClosed depth)) w else w)

/-- The virtual functions of the class. -/
def callbacks (depth : ℕ) : Callbacks HTTPClient := events (onClosed depth)

/-! ### The public interface -/

/-- Both constructors, behind those of `Socket`; `c` is the memory they have found. -/
def new (c : HTTPClient) : HTTPClient := { c with sendInProgress := false }

/-- `HTTPClient::readyToSend`, which hides that of `Socket`. -/
def readyToSend (w : World HTTPClient) : Bool :=
  !w.app.sendInProgress && w.self.getState == CLOSED

/-- `HTTPClient::send`. What `connect` returns is not looked at. -/
def send (depth : ℕ) (dns : Resolver) (method path contentType body : Option Bytes)
    (w : World HTTPClient) : Bool × World HTTPClient :=
  if !readyToSend w then (false, w)
  else
    (true, (connect (callbacks depth) dns).exec { w with app := {
      sendInProgress := true, method := method, path := path, body := body
      contentType := contentType } })

/-! ### How deep `onClosed` goes -/

/-- The event of a RST only clears the flag. -/
theorem exec_reset_events (f : World HTTPClient → World HTTPClient) (seq ack : UInt32)
    (w : World HTTPClient) :
    let w' := (reset (events f) seq ack).exec w
    w'.this = w.this ∧ w'.self = w.self ∧ w'.stack.sendSize = w.stack.sendSize ∧
      w'.app = if CanReset w then { w.app with sendInProgress := false } else w.app := by
  obtain ⟨hsyn, hfin⟩ := resetControl_quiet ack w
  obtain ⟨hthis, happ, -⟩ := sendSegment_advances (events f) (resetControl ack w) 0 seq ack w
  have hself := sendSegment_self (events f) seq ack w hsyn hfin
  have hsize := (keepsRoom_sendSegment (events f) (resetControl ack w) 0 seq ack w).sendSize
  dsimp only
  rw [exec_reset]
  unfold Proc.exec at hself ⊢
  split
  · refine ⟨hthis, hself, hsize, ?_⟩
    rw [← happ]
    rfl
  · exact ⟨hthis, hself, hsize, happ⟩

/-- `forceClose` on a client that is closed. -/
theorem forceClose_events (f : World HTTPClient → World HTTPClient) {w : World HTTPClient}
    (hclient : ¬ w.self.isHost) (hclosed : w.self.state = CLOSED) :
    forceClose (events f) w =
      let w' := (reset (events f) w.self.localSeq w.self.remoteSeq).exec w
      f ((w'.setSelf { w.self with state := CLOSED, stateTime := w'.stack.millis }).observe
        (.event w.this .onClosed)) := by
  obtain ⟨hthis, hself, -⟩ :=
    exec_reset_events f w.self.localSeq w.self.remoteSeq w
  have hopen : w.self.state ≠ TIME_WAIT := by rw [hclosed]; decide
  unfold forceClose
  dsimp only
  rw [if_pos hopen]
  generalize (reset (events f) w.self.localSeq w.self.remoteSeq).exec w = w' at *
  unfold closed setState announce
  rw [hself, if_neg fun h => hclient h.2, hclosed, ← hthis]
  rfl

/-- An idle client has nothing to close. -/
theorem onClosed_idle {depth : ℕ} {w : World HTTPClient} (h : w.app.sendInProgress = false) :
    onClosed depth w = w := by
  have hset : setInProgress false w = w := by
    unfold setInProgress
    rw [← h]
  cases depth with
  | zero => rfl
  | succ depth =>
      rw [onClosed, if_neg (by rw [h]; decide), hset]

/-- Where a RST can be sent, its event ends the recursion. -/
theorem onClosed_deep (depth : ℕ) {w : World HTTPClient} (hclient : ¬ w.self.isHost)
    (hclosed : w.self.state = CLOSED) (hcan : CanReset w) :
    onClosed (depth + 2) w = onClosed 2 w := by
  by_cases hbusy : w.app.sendInProgress
  · have happ := (exec_reset_events (onClosed 0) w.self.localSeq w.self.remoteSeq w).2.2.2
    have hidle : ∀ depth, onClosed (depth + 2) w = setInProgress false
        (forceClose (events (onClosed (depth + 1))) w) := by
      intro depth
      rw [onClosed, if_pos hbusy]
    rw [hidle, hidle, forceClose_events _ hclient hclosed, forceClose_events _ hclient hclosed]
    dsimp only
    rw [onClosed_idle, onClosed_idle]
    · rfl
    · exact (congrArg HTTPClient.sendInProgress happ).trans (by rw [if_pos hcan])
    · exact (congrArg HTTPClient.sendInProgress happ).trans (by rw [if_pos hcan])
  · rw [onClosed_idle (by simpa using hbusy), onClosed_idle (by simpa using hbusy)]

/-- How often `onClosed` has been called for a socket. -/
def closings (this : ℕ) (log : List Obs) : ℕ := log.count (.event this .onClosed)

/-- A RST that cannot be sent fires no event. -/
theorem closings_reset (f : World HTTPClient → World HTTPClient) (seq ack : UInt32)
    {w : World HTTPClient} (hcan : ¬ CanReset w) (this : ℕ) :
    closings this ((reset (events f) seq ack).exec w).stack.log = closings this w.stack.log := by
  rw [exec_reset, if_neg hcan]
  by_cases htcp : w.self.tcp.isSome
  · have hshort : w.stack.room < 20 + (optionBytes (resetControl ack w) w.stack).length := by
      have hroom : ¬ 20 ≤ w.stack.room := fun h => hcan ⟨htcp, h⟩
      omega
    rw [Proc.exec, (sendSegment_short (events f) _ seq ack w htcp hshort).2.rest]
  · have hnone : w.self.tcp.isNone = true := by simpa using htcp
    have hdangling : (sendSegment (events f) (resetControl ack w) 0 seq ack).exec w =
        w.observe .nullDereference := by
      unfold sendSegment Proc.exec
      rw [Proc.run_read_bind, if_pos hnone]
      rfl
    have hlog : (w.observe .nullDereference).stack.log = w.stack.log ++ [.nullDereference] := rfl
    rw [hdangling, hlog, closings, closings, List.count_append]
    rfl

/-- Where no RST can be sent, every call of `onClosed` makes another. -/
theorem closings_onClosed (depth : ℕ) {w : World HTTPClient} (hclient : ¬ w.self.isHost)
    (hclosed : w.self.state = CLOSED) (hcan : ¬ CanReset w) (hbusy : w.app.sendInProgress) :
    closings w.this (onClosed depth w).stack.log = closings w.this w.stack.log + depth := by
  induction depth generalizing w with
  | zero => rfl
  | succ depth ih =>
      have hstack : (onClosed (depth + 1) w).stack =
          (forceClose (events (onClosed depth)) w).stack := by
        rw [onClosed, if_pos hbusy]
        rfl
      obtain ⟨hthis, hself, hsize, happ⟩ :=
        exec_reset_events (onClosed depth) w.self.localSeq w.self.remoteSeq w
      have hlog := closings_reset (onClosed depth) w.self.localSeq w.self.remoteSeq hcan w.this
      rw [if_neg hcan] at happ
      rw [hstack, forceClose_events _ hclient hclosed]
      dsimp only
      generalize (reset (events (onClosed depth)) w.self.localSeq w.self.remoteSeq).exec w =
        w' at *
      generalize hnext : (w'.setSelf { w.self with
        state := CLOSED, stateTime := w'.stack.millis }).observe (.event w.this .onClosed) = w₂
      have hroom : w₂.stack.room = w.stack.room := by
        rw [← hnext]
        exact congrArg (fun n : UInt16 => n.toNat - 34) hsize
      have hself₂ : w₂.self = { w.self with state := CLOSED, stateTime := w'.stack.millis } := by
        rw [← hnext]
        rfl
      have hcount : closings w.this w₂.stack.log = closings w.this w.stack.log + 1 := by
        have hconcat : w₂.stack.log = w'.stack.log ++ [.event w.this .onClosed] := by
          rw [← hnext]
          rfl
        rw [← hlog, hconcat, closings, closings, List.count_append, List.count_singleton_self]
      have hthis₂ : w₂.this = w.this := by rw [← hnext]; exact hthis
      have hcan₂ : ¬ CanReset w₂ := by
        unfold CanReset
        rw [hself₂, hroom]
        exact hcan
      have hbusy₂ : w₂.app.sendInProgress := by
        rw [← hnext]
        exact (congrArg HTTPClient.sendInProgress happ).trans hbusy
      have hdeep := ih (w := w₂) (by rw [hself₂]; exact hclient) (by rw [hself₂]) hcan₂ hbusy₂
      rw [hthis₂, hcount] at hdeep
      rw [hdeep]
      omega

end HTTPClient

end AtmegaNet
