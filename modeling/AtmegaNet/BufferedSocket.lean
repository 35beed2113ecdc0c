import AtmegaNet.Socket
import AtmegaNet.Access
import AtmegaNet.Lib.Runs

/-!
# Buffered sockets

A `BufferedSocket` keeps the payloads it is offered in a block of memory until the program reads
them. A payload for which there is no room is refused; what has been read is moved out at the
front. The room that is left is the window that the socket announces.

## Main results

* `Sound`: the block holds what has been accepted and not been read, in order.
* `reaches_fifo`: in every run of payloads, reads and questions for the window no byte is lost,
  and whatever a window has promised is accepted.
* `getWindowSize_le`: what the peer is told is no more than that window.
-/

open Runs

namespace AtmegaNet

/-- The fields of `BufferedSocket`. `recvBuffer` is the block that `malloc` has returned. -/
structure BufferedSocket where
  recvBuffer : Bytes
  bufferSize : UInt16
  bufferCapacity : UInt16
  deriving DecidableEq, Repr

namespace BufferedSocket

/-! ### The class -/

/-- `BufferedSocket::init`, given what `malloc` returns. -/
def init (bufferCapacity : UInt16) : Option Bytes → BufferedSocket
  | none => ⟨[], 0, 0⟩
  | some block => ⟨block, 0, bufferCapacity⟩

/-- `memcpy` or `memmove` into a block. -/
def overwrite (block : Bytes) (start : ℕ) (data : Bytes) : Bytes :=
  block.take start ++ data ++ block.drop (start + data.length)

/-- `BufferedSocket::onDataReceived` -/
def onDataReceived (buf : View) (s : BufferedSocket) : Bool × BufferedSocket :=
  if s.bufferSize + buf.size > s.bufferCapacity then (false, s)
  else match buf.read 0 buf.size with
    | some data => (true, { s with
        recvBuffer := overwrite s.recvBuffer s.bufferSize.toNat data
        bufferSize := s.bufferSize + buf.size })
    | none => (false, s)

/-- `BufferedSocket::dataAvailable` -/
def dataAvailable (s : BufferedSocket) : UInt16 := s.bufferSize

/-- `BufferedSocket::read`: the bytes it copies out, whose number it returns. -/
def read (length : UInt16) (s : BufferedSocket) : Bytes × BufferedSocket :=
  let length := if length > s.bufferSize then s.bufferSize else length
  let data := s.recvBuffer.take length.toNat
  let recvBuffer :=
    if s.bufferCapacity > 1 then overwrite s.recvBuffer 0
      ((s.recvBuffer.drop length.toNat).take (s.bufferSize - length).toNat)
    else s.recvBuffer
  (data, { s with recvBuffer := recvBuffer, bufferSize := s.bufferSize - length })

/-- `BufferedSocket::getApplicationWindowSize` -/
def getApplicationWindowSize (s : BufferedSocket) : UInt16 := s.bufferCapacity - s.bufferSize

/-- The virtual functions of a buffered socket whose events do nothing. -/
def app : App BufferedSocket :=
  ⟨fun _ s => s, fun payload s => onDataReceived (viewOf payload) s,
    fun s _ => s.getApplicationWindowSize⟩

/-- What the peer is told is no more than the window of the application. -/
theorem getWindowSize_le (w : World BufferedSocket) :
    Socket.getWindowSize app.callbacks w ≤ w.app.getApplicationWindowSize := by
  unfold Socket.getWindowSize
  dsimp only
  split
  case isTrue hgt => exact UInt16.le_of_lt hgt
  case isFalse => exact UInt16.le_refl _

/-! ### The block -/

/-- The bytes that have not been read. -/
def content (s : BufferedSocket) : Bytes := s.recvBuffer.take s.bufferSize.toNat

/-- The block has the size of the buffer, and the content fits in. -/
structure Sound (s : BufferedSocket) : Prop where
  block : s.recvBuffer.length = s.bufferCapacity.toNat
  fits : s.bufferSize.toNat ≤ s.bufferCapacity.toNat

theorem length_overwrite {block : Bytes} {start : ℕ} {data : Bytes}
    (h : start + data.length ≤ block.length) :
    (overwrite block start data).length = block.length := by
  unfold overwrite
  simp only [List.length_append, List.length_take, List.length_drop]
  omega

/-- What lies before the data and the data itself. -/
theorem take_overwrite {block : Bytes} {start : ℕ} {data : Bytes} (h : start ≤ block.length) :
    (overwrite block start data).take (start + data.length) = block.take start ++ data := by
  have hlength : (block.take start ++ data).length = start + data.length := by
    rw [List.length_append, List.length_take, Nat.min_eq_left h]
  unfold overwrite
  rw [← hlength, List.take_left]

section Steps

variable {s : BufferedSocket} {payload : Bytes} {length : UInt16}

/-- A payload is accepted if and only if there is room for it, and comes behind what is there. -/
theorem onDataReceived_spec (hs : s.Sound) (hcapacity : s.bufferCapacity.toNat ≤ 32767)
    (hpayload : payload.length ≤ 1500) :
    (s.bufferSize.toNat + payload.length ≤ s.bufferCapacity.toNat ∧
      (onDataReceived (viewOf payload) s).1 = true ∧
      (onDataReceived (viewOf payload) s).2.Sound ∧
      (onDataReceived (viewOf payload) s).2.bufferCapacity = s.bufferCapacity ∧
      (onDataReceived (viewOf payload) s).2.bufferSize.toNat =
        s.bufferSize.toNat + payload.length ∧
      (onDataReceived (viewOf payload) s).2.content = s.content ++ payload) ∨
    (s.bufferCapacity.toNat < s.bufferSize.toNat + payload.length ∧
      onDataReceived (viewOf payload) s = (false, s)) := by
  have hfits := hs.fits
  have hlength : (viewOf payload).size.toNat = payload.length :=
    Buffer.toNat_lengthOf (by omega)
  have hadd : (s.bufferSize + (viewOf payload).size).toNat =
      s.bufferSize.toNat + payload.length := by
    rw [UInt16.toNat_add, hlength]
    exact Nat.mod_eq_of_lt (by omega)
  have hlong : s.bufferSize + (viewOf payload).size > s.bufferCapacity ↔
      s.bufferCapacity.toNat < s.bufferSize.toNat + payload.length := by
    rw [gt_iff_lt, UInt16.lt_iff_toNat_lt, hadd]
  have hread : (viewOf payload).read 0 (viewOf payload).size = some payload := by
    have hin : ¬ 0 + (viewOf payload).size > Buffer.lengthOf payload := by
      rw [UInt16.zero_add]
      exact UInt16.lt_irrefl _
    unfold viewOf at hin ⊢
    dsimp only at hin ⊢
    rw [if_neg hin, Buffer.toNat_lengthOf (by omega)]
    exact congrArg some (List.take_length)
  by_cases hroom : s.bufferCapacity.toNat < s.bufferSize.toNat + payload.length
  · refine .inr ⟨hroom, ?_⟩
    unfold onDataReceived
    rw [if_pos (hlong.mpr hroom)]
  · have hrun : onDataReceived (viewOf payload) s = (true, { s with
        recvBuffer := overwrite s.recvBuffer s.bufferSize.toNat payload
        bufferSize := s.bufferSize + (viewOf payload).size }) := by
      unfold onDataReceived
      rw [if_neg (mt hlong.mp hroom), hread]
    have hblock := hs.block
    refine .inl ⟨by omega, ?_⟩
    rw [hrun]
    refine ⟨rfl, ⟨?_, ?_⟩, rfl, hadd, ?_⟩
    · exact (length_overwrite (by omega)).trans hblock
    · show (s.bufferSize + (viewOf payload).size).toNat ≤ s.bufferCapacity.toNat
      rw [hadd]
      omega
    · unfold content
      dsimp only
      rw [hadd, take_overwrite (by omega)]

/-- A read returns the first bytes, and leaves the others. -/
theorem read_spec (hs : s.Sound) :
    (read length s).2.Sound ∧ (read length s).2.bufferCapacity = s.bufferCapacity ∧
      (read length s).2.bufferSize.toNat ≤ s.bufferSize.toNat ∧
      (read length s).1 ++ (read length s).2.content = s.content := by
  obtain ⟨hblock, hfits⟩ := hs
  unfold read
  dsimp only
  generalize hn : (if length > s.bufferSize then s.bufferSize else length) = n
  have hle : n.toNat ≤ s.bufferSize.toNat := by
    rw [← hn]
    split
    case isTrue => exact Nat.le_refl _
    case isFalse hin => exact UInt16.le_iff_toNat_le.mp (UInt16.not_lt.mp hin)
  have hrest : (s.bufferSize - n).toNat = s.bufferSize.toNat - n.toNat :=
    UInt16.toNat_sub_of_le _ _ (UInt16.le_iff_toNat_le.mpr hle)
  have hmoved : ((s.recvBuffer.drop n.toNat).take (s.bufferSize - n).toNat).length =
      s.bufferSize.toNat - n.toNat := by
    rw [List.length_take, List.length_drop, hrest]
    omega
  have hcontent : s.content = s.recvBuffer.take n.toNat ++
      (s.recvBuffer.drop n.toNat).take (s.bufferSize - n).toNat := by
    unfold content
    rw [hrest, ← List.take_add]
    congr 1
    omega
  refine ⟨⟨?_, ?_⟩, rfl, ?_, ?_⟩
  · split
    · rw [length_overwrite (by rw [hmoved]; omega), hblock]
    · exact hblock
  · show (s.bufferSize - n).toNat ≤ s.bufferCapacity.toNat
    rw [hrest]
    omega
  · rw [hrest]
    omega
  · rw [hcontent]
    congr 1
    unfold content
    dsimp only
    split
    case isTrue =>
      have htake : (overwrite s.recvBuffer 0
          ((s.recvBuffer.drop n.toNat).take (s.bufferSize - n).toNat)).take (0 + _) = _ :=
        take_overwrite (Nat.zero_le _)
      rw [Nat.zero_add, hmoved, ← hrest, List.take_zero, List.nil_append] at htake
      exact htake
    case isFalse hone =>
      -- a buffer of one byte is read whole, or not at all
      have hcapacity : s.bufferCapacity.toNat ≤ 1 :=
        UInt16.le_iff_toNat_le.mp (UInt16.not_lt.mp hone)
      rcases Nat.eq_zero_or_pos n.toNat with hzero | hpos
      · rw [hzero, List.drop_zero]
      · rw [hrest, Nat.sub_eq_zero_of_le (by omega), List.take_zero, List.take_zero]

end Steps

/-! ### Runs -/

/-- A buffered socket with what it has accepted and given out so far, the last window it was
asked for, and the number of bytes it has accepted since then. -/
structure Session where
  socket : BufferedSocket
  accepted : Bytes
  given : Bytes
  window : Option ℕ
  since : ℕ

/-- What happens to a buffered socket. -/
inductive Event
  | payload (data : Bytes)
  | read (length : UInt16)
  | window

/-- One of these, with the history. -/
def Session.run : Event → Session → Session
  | .payload data, t =>
      let (accepted, socket) := onDataReceived (viewOf data) t.socket
      if accepted then { t with
        socket := socket, accepted := t.accepted ++ data, since := t.since + data.length }
      else { t with socket := socket }
  | .read length, t =>
      let (data, socket) := BufferedSocket.read length t.socket
      { t with socket := socket, given := t.given ++ data }
  | .window, t => { t with
      window := some t.socket.getApplicationWindowSize.toNat, since := 0 }

/-- A payload is no longer than a frame. -/
def Possible (_ : Session) : Event → Prop
  | .payload data => data.length ≤ 1500
  | _ => True

/-- A socket whose constructor has just run. -/
def Session.start (bufferCapacity : UInt16) (block : Option Bytes) : Session :=
  ⟨init bufferCapacity block, [], [], none, 0⟩

/-- What every run of a socket of this capacity keeps. -/
structure Session.Sound (bufferCapacity : UInt16) (t : Session) : Prop where
  socket : t.socket.Sound
  capacity : t.socket.bufferCapacity ≤ bufferCapacity
  queue : t.given ++ t.socket.content = t.accepted
  promise : ∀ p ∈ t.window,
    t.socket.bufferSize.toNat + p ≤ t.socket.bufferCapacity.toNat + t.since

section Runs

variable {bufferCapacity : UInt16} (hcapacity : bufferCapacity.toNat ≤ 32767)
include hcapacity

theorem Session.Sound.run {t : Session} (h : t.Sound bufferCapacity) {e : Event}
    (he : Possible t e) : (t.run e).Sound bufferCapacity := by
  obtain ⟨hsocket, hle, hqueue, hpromise⟩ := h
  have hsmall : t.socket.bufferCapacity.toNat ≤ 32767 :=
    (UInt16.le_iff_toNat_le.mp hle).trans hcapacity
  cases e with
  | payload data =>
    unfold Session.run
    dsimp only
    rcases onDataReceived_spec hsocket hsmall he with
      ⟨-, haccepted, hsound, hcap, hsize, hcontent⟩ | ⟨-, hrefused⟩
    · rw [if_pos haccepted]
      refine ⟨hsound, ?_, ?_, fun p hp => ?_⟩
      · rwa [hcap]
      · dsimp only
        rw [hcontent, ← hqueue, List.append_assoc]
      · have hp := hpromise p hp
        dsimp only
        rw [hcap, hsize]
        omega
    · rw [hrefused, if_neg Bool.false_ne_true]
      exact ⟨hsocket, hle, hqueue, hpromise⟩
  | read length =>
    obtain ⟨hsound, hcap, hsize, hcontent⟩ :
        (BufferedSocket.read length t.socket).2.Sound ∧ _ := read_spec hsocket
    refine ⟨hsound, ?_, ?_, fun p hp => ?_⟩
    · show (BufferedSocket.read length t.socket).2.bufferCapacity ≤ bufferCapacity
      rwa [hcap]
    · show t.given ++ (BufferedSocket.read length t.socket).1 ++
        (BufferedSocket.read length t.socket).2.content = t.accepted
      rw [List.append_assoc, hcontent, hqueue]
    · have hp := hpromise p hp
      show (BufferedSocket.read length t.socket).2.bufferSize.toNat + p ≤
        (BufferedSocket.read length t.socket).2.bufferCapacity.toNat + t.since
      rw [hcap]
      omega
  | window =>
    refine ⟨hsocket, hle, hqueue, fun p hp => ?_⟩
    have hroom : t.socket.getApplicationWindowSize.toNat =
        t.socket.bufferCapacity.toNat - t.socket.bufferSize.toNat :=
      UInt16.toNat_sub_of_le _ _ (UInt16.le_iff_toNat_le.mpr hsocket.fits)
    have hp : t.socket.getApplicationWindowSize.toNat = p := Option.some.inj hp
    have hfits := hsocket.fits
    show t.socket.bufferSize.toNat + p ≤ t.socket.bufferCapacity.toNat + 0
    omega

omit hcapacity in
theorem Session.sound_start {block : Option Bytes}
    (hblock : ∀ b ∈ block, b.length = bufferCapacity.toNat) :
    (Session.start bufferCapacity block).Sound bufferCapacity := by
  cases block with
  | none =>
    exact ⟨⟨rfl, Nat.le_refl _⟩, UInt16.le_iff_toNat_le.mpr (Nat.zero_le _), rfl,
      fun _ hp => absurd hp (Option.not_mem_none _)⟩
  | some b =>
    exact ⟨⟨hblock b rfl, Nat.zero_le _⟩, UInt16.le_refl _, List.take_zero (l := b),
      fun _ hp => absurd hp (Option.not_mem_none _)⟩

/-- A buffered socket is a queue that loses nothing, never holds more than its capacity, and
accepts what it has promised. -/
theorem reaches_fifo {block : Option Bytes}
    (hblock : ∀ b ∈ block, b.length = bufferCapacity.toNat) {t : Session}
    (hrun : Reaches Possible Session.run (Session.start bufferCapacity block) t) :
    t.socket.bufferSize ≤ t.socket.bufferCapacity ∧ t.socket.bufferCapacity ≤ bufferCapacity ∧
      t.given ++ t.socket.content = t.accepted ∧
      ∀ data : Bytes, data.length ≤ 1500 →
        ((onDataReceived (viewOf data) t.socket).1 = false →
          (onDataReceived (viewOf data) t.socket).2 = t.socket) ∧
        ∀ p ∈ t.window, data.length ≤ p - t.since →
          (onDataReceived (viewOf data) t.socket).1 = true := by
  have hsound : t.Sound bufferCapacity :=
    hrun.invariant (Session.sound_start hblock) fun _ _ h he => h.run hcapacity he
  obtain ⟨hsocket, hle, hqueue, hpromise⟩ := hsound
  have hsmall : t.socket.bufferCapacity.toNat ≤ 32767 :=
    (UInt16.le_iff_toNat_le.mp hle).trans hcapacity
  refine ⟨UInt16.le_iff_toNat_le.mpr hsocket.fits, hle, hqueue, fun data hdata => ?_⟩
  have hspec := onDataReceived_spec hsocket hsmall hdata
  constructor
  · intro hfalse
    rcases hspec with ⟨-, haccepted, -⟩ | ⟨-, hrefused⟩
    · rw [haccepted] at hfalse
      exact absurd hfalse (by simp)
    · rw [hrefused]
  · intro p hp hlength
    rcases hspec with ⟨-, haccepted, -⟩ | ⟨hlong, -⟩
    · exact haccepted
    · have hpromise := hpromise p hp
      have hfits := hsocket.fits
      omega

end Runs

/-- A socket of four bytes is offered two payloads, with a read and a question for the window in
between. -/
theorem reaches_fifo_example :
    let t := Session.run (.payload [4, 5]) (Session.run .window (Session.run (.read 2)
      (Session.run (.payload [1, 2, 3]) (Session.start 4 (some [0, 0, 0, 0])))))
    t.socket.bufferSize ≤ t.socket.bufferCapacity ∧ t.socket.bufferCapacity ≤ 4 ∧
      t.given ++ t.socket.content = t.accepted ∧
      ∀ data : Bytes, data.length ≤ 1500 →
        ((onDataReceived (viewOf data) t.socket).1 = false →
          (onDataReceived (viewOf data) t.socket).2 = t.socket) ∧
        ∀ p ∈ t.window, data.length ≤ p - t.since →
          (onDataReceived (viewOf data) t.socket).1 = true := by
  have hblock : ∀ b ∈ some [(0 : UInt8), 0, 0, 0], b.length = (4 : UInt16).toNat := by simp
  have hfirst : Reaches Possible Session.run (Session.start 4 (some [0, 0, 0, 0])) _ :=
    Reaches.refl.step (e := Event.payload [1, 2, 3]) (by simp [Possible])
  have hread := hfirst.step (e := Event.read 2) trivial
  have hwindow := hread.step (e := Event.window) trivial
  exact reaches_fifo (by decide) hblock
    (hwindow.step (e := Event.payload [4, 5]) (by simp [Possible]))

end BufferedSocket

end AtmegaNet
