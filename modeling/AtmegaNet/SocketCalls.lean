import AtmegaNet.Socket

/-!
# Sockets: the public interface and the timer

The functions an application calls on a socket (`connect`, `send`, `close`) and the periodic
`checkState`. Names are resolved by `DNSHandler::resolve`, which is a parameter here.
-/

open Procedure

namespace AtmegaNet

/-- `DNSHandler::resolve` as a socket calls it: the address, if there is one yet, the error
code, and the stack it leaves. -/
abbrev Resolver := Bytes → Stack → (Option IPAddr × UInt8) × Stack

namespace Socket

variable {α : Type} (cb : Callbacks α) (dns : Resolver)

/-- `NO_ERROR` of `DNSHandler.h` -/
def NO_ERROR : UInt8 := 0

/-! ### Opening -/

/-- `Socket::resolveIP`, given the function it calls once a name is resolved that `connect`
was waiting for. -/
def resolveWith (connect : Proc (World α) Unit) : Proc (World α) Unit := do
  let self ← Proc.read World.self
  if self.state ≠ RESOLVING ∧ self.state ≠ CLOSED ∧ self.state ≠ UNKNOWN_HOST then Proc.fail
  else match self.remoteDomain with
    | none => pure ()
    | some remoteDomain => do
        let (rip, error) ← World.onStack ⟨fun h =>
          (some (dns remoteDomain h).1, (dns remoteDomain h).2)⟩
        if error ≠ NO_ERROR then do
          Proc.modify (setState cb UNKNOWN_HOST)
          Proc.fail
        else match rip with
          | none => Proc.modify (setState cb RESOLVING)
          | some ip => do
              Proc.modify fun w => w.setSelf { w.self with remoteIP := ip }
              if self.state = RESOLVING then do
                Proc.modify (closed cb)
                if self.connectOnResolution then do
                  Proc.modify fun w => w.setSelf { w.self with connectOnResolution := false }
                  connect
                else pure ()
              else pure ()

/-- `Socket::connect`, given `resolveIP`. -/
def connectWith (resolveIP : Proc (World α) Unit) : Proc (World α) Unit := do
  resolveIP
  let self ← Proc.read World.self
  if self.state = RESOLVING then
    Proc.modify fun w => w.setSelf { w.self with connectOnResolution := true }
  else if self.state ≠ CLOSED then Proc.fail
  else if self.tcp.isNone then Proc.fail
  else do
    let port ← World.onStack ⟨fun h => (some (IPHandler.getPort h).1, (IPHandler.getPort h).2)⟩
    Proc.modify fun w => w.setSelf { w.self with localPort := port }
    sendSegment cb SYN 0 0 0
    Proc.modify fun w => w.setSelf { w.self with attempts := 1 }
    Proc.modify (setState cb SYN_SENT)

/-- `Socket::resolveIP`. The `connect` it calls finds the socket no longer in RESOLVING, so
that the `resolveIP` in there does not call `connect` again. -/
def resolveIP : Proc (World α) Unit :=
  resolveWith cb dns (connectWith cb (resolveWith cb dns Proc.fail))

/-- `Socket::connect` -/
def connect : Proc (World α) Unit := connectWith cb (resolveIP cb dns)

/-! ### Sending data and closing -/

/-- `Socket::send(length)`: the payload lies in the send data buffer. -/
def send (length : UInt16) : Proc (World α) Unit := do
  let self ← Proc.read World.self
  if length = 0 then pure ()
  else if !self.readyToSend then Proc.fail
  else if length > self.getMaxSendPayload then Proc.fail
  else do
    Proc.modify fun w => w.setSelf { w.self with attempts := 1 }
    let sb ← Proc.query fun w => w.self.getSendDataBuffer
    let stash ← Proc.query fun w => w.self.stash
    World.onMem (sb.copyTo stash 0 0 length)
    sendSegment cb (ACK ||| PSH) length 0 0
    Proc.modify fun w => w.setSelf { w.self with stateTime := w.stack.millis }

/-- `Socket::send(data, length)` -/
def sendBytes (data : Bytes) : Proc (World α) Unit := do
  let sb ← Proc.query fun w => w.self.getSendDataBuffer
  World.onMem (sb.write 0 data)
  send cb (Buffer.lengthOf data)

/-- The state `close` leads to. -/
def stateAfterClose (state : UInt8) : Option UInt8 :=
  if state &&& 0x0F = ESTABLISHED then some FIN_WAIT_1
  else if state = SYN_RECEIVED then some FIN_WAIT_1
  else if state = CLOSE_WAIT then some LAST_ACK
  else none

/-- `Socket::close` -/
def close : Proc (World α) Unit := do
  let self ← Proc.read World.self
  if self.localClosed then pure ()
  else do
    sendSegment cb (FIN ||| ACK) 0 0 0
    Proc.modify fun w => w.setSelf { w.self with attempts := 1 }
    Proc.modify fun w => match stateAfterClose w.self.state with
      | some state => setState cb state w
      | none => w
    Proc.modify (fire cb .onLocalClosed)

/-! ### The timer -/

/-- `Socket::resendData` -/
def resendData : Proc (World α) Unit := do
  Proc.modify fun w => w.setSelf { w.self with
    localSeq := w.self.localSeq - w.self.lastDataLength.toUInt32 }
  let sb ← Proc.query fun w => w.self.getSendDataBuffer
  let stash ← Proc.query fun w => w.self.stash
  let length ← Proc.read fun w => w.self.lastDataLength
  World.onMem (sb.copyFrom stash 0 0 length)
  sendSegment cb ACK length 0 0

/-- `attempts++ > 10`: the test and the increment. -/
def exhausted (w : World α) : Bool × World α :=
  (w.self.attempts > 10, w.setSelf { w.self with attempts := w.self.attempts + 1 })

/-- A retransmission of `checkState` that is not of data: the sequence number goes back by
one, and the segment is sent again. -/
def resend (control : UInt8) (w : World α) : World α :=
  let (tooMany, w) := exhausted w
  if tooMany then forceClose cb w
  else (sendSegment cb control 0 0 0).exec
    (w.setSelf { w.self with localSeq := w.self.localSeq - 1 })

/-- The part of `checkState` behind the retransmission of data. -/
def checkHandshake (elapsed : UInt32) (w : World α) : World α :=
  if w.self.state = SYN_SENT then resend cb SYN w
  else if w.self.state = SYN_RECEIVED then resend cb (SYN ||| ACK) w
  else if w.self.state = FIN_WAIT_1 ∨ w.self.state = CLOSING then resend cb (FIN ||| ACK) w
  else if elapsed < TIME_WAIT_DURATION then w
  else if w.self.state = TIME_WAIT then closed cb w
  else w

/-- The part of `checkState` behind the test for the socket's timeout. -/
def checkRetransmission (elapsed : UInt32) (w : World α) : World α :=
  if w.self.state = ESTABLISHED then w
  else if w.self.state = RESOLVING then (resolveIP cb dns).exec w
  else if elapsed < ACK_WAIT_DURATION then w
  else if w.self.state = ESTABLISHED ||| AWAITING_ACK then
    let (tooMany, w) := exhausted w
    if tooMany then forceClose cb w
    else
      let sent := (resendData cb).succeeds w
      let w := (resendData cb).exec w
      checkHandshake cb elapsed (if sent then w else forceClose cb w)
  else checkHandshake cb elapsed w

/-- `Socket::checkState` -/
def checkState (w : World α) : World α :=
  if w.self.state = CLOSED then w
  else if w.self.state = LISTEN then w
  else
    let elapsed := w.stack.millis - w.self.stateTime
    if w.self.timeout > 0 ∧ elapsed > w.self.timeout then
      if !w.self.localClosed then (close cb).exec w
      else checkRetransmission cb dns elapsed (forceClose cb w)
    else checkRetransmission cb dns elapsed w

end Socket

end AtmegaNet
