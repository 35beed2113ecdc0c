import AtmegaNet.Lib.Ring
import AtmegaNet.Lib.Runs
import AtmegaNet.RegisterBank

/-!
# The receive ring of the ENC28J60

The controller stores the frames that it receives one behind the other on a ring, each behind a
header with the address of the next, and never at or beyond `ERXRDPT`. The driver takes one frame
after the other: it follows the addresses, shows the frame through its receive buffer, and moves
`ERXRDPT` up to it, so that the frames before may be overwritten and this one may not.

Frames arrive at any time, and between two calls of `receiveFrame` the rest of the driver does
what it likes outside the ring. What the controller does with a frame is an assumption, `Stores`,
as its datasheet describes it.

## Main results

* `receiveFrame_registers`: the function, as the instructions and answers of the chip have it.
* `Queue.stores`, `Queue.receiveFrame`, `Queue.other`: the ring is a queue of frames.
* `reaches_queue`: in every run the calls return the lengths of the frames in the order in which
  they have been stored, and the receive buffer shows the last one until the next is taken.
-/

open Ring Runs

namespace AtmegaNet

namespace ReceiveRing

open ENC28J60Driver

/-! ### The controller -/

/-- A frame as the controller stores it, with its checksum and a byte that makes the length even.
The controller has checked the frame, and says so in `status`. -/
structure Packet where
  frame : Bytes
  crc : Bytes
  pad : Bytes
  status : UInt16
  length_crc : crc.length = 4
  length_pad : pad.length = frame.length % 2

namespace Packet

/-- What is stored behind the header. -/
def body (p : Packet) : Bytes := p.frame ++ p.crc ++ p.pad

/-- How many cells it takes. -/
def total (p : Packet) : ℕ := 6 + p.body.length

/-- What is stored at a position: where the next one starts, the length with the checksum, the
status, and the frame. -/
def stored (p : Packet) (position : ℕ) : Bytes :=
  bytesOf16 (UInt16.ofNat ((position + p.total) % 3072)) ++
    bytesOf16 (UInt16.ofNat (p.frame.length + 4)) ++ bytesOf16 p.status ++ p.body

theorem length_body (p : Packet) : p.body.length = p.frame.length + 4 + p.pad.length := by
  rw [body, List.length_append, List.length_append, p.length_crc]

@[simp] theorem length_stored (p : Packet) (position : ℕ) :
    (p.stored position).length = p.total := by
  simp only [stored, List.length_append, length_bytesOf16, total]

/-- What `receiveFrame` returns for it. -/
def reported (p : Packet) : UInt16 :=
  if p.status &&& 0x80 = 0 then 0 else UInt16.ofNat (min p.frame.length MAX_FRAMELEN.toNat)

end Packet

/-- Packets, one behind the other. -/
def storedFrom : ℕ → List Packet → Bytes
  | _, [] => []
  | position, p :: packets => p.stored position ++ storedFrom (position + p.total) packets

theorem storedFrom_append (position : ℕ) (packets : List Packet) (p : Packet) :
    storedFrom position (packets ++ [p]) = storedFrom position packets ++
      p.stored (position + (storedFrom position packets).length) := by
  induction packets generalizing position with
  | nil => exact List.append_nil _
  | cons q packets ih =>
      rw [List.cons_append, storedFrom, storedFrom, ih, List.append_assoc, List.length_append,
        q.length_stored, Nat.add_assoc]

/-- The controller, as far as it receives, and the fields of the driver. -/
structure Receiver where
  chip : Chip
  ERDPT : UInt16
  ERXRDPT : UInt16
  ERXWRPT : UInt16
  EPKTCNT : UInt8
  gNextPacketPtr : UInt16
  recvBuffer : ENC28J60Buffer

/-- How many cells the controller may write to: those from `ERXWRPT` to the one before `ERXRDPT`,
and all but one where the two are equal. -/
def free (r : Receiver) : ℕ :=
  if r.ERXRDPT < r.ERXWRPT then 3071 - (r.ERXWRPT.toNat - r.ERXRDPT.toNat)
  else if r.ERXWRPT = r.ERXRDPT then 3071
  else r.ERXRDPT.toNat - r.ERXWRPT.toNat - 1

/-- The controller stores a frame. -/
structure Stores (p : Packet) (r r' : Receiver) : Prop where
  /-- A frame without room is dropped, and so is one that cannot be counted. -/
  room : p.total ≤ free r
  countable : r.EPKTCNT < 255
  /-- It is written from `ERXWRPT` on, around the ring. -/
  written : Holds 3072 r'.chip.ram r.ERXWRPT.toNat (p.stored r.ERXWRPT.toNat)
  others : ∀ a, (∀ i < p.total, (r.ERXWRPT.toNat + i) % 3072 ≠ a) →
    r'.chip.ram a = r.chip.ram a
  ERXWRPT : r'.ERXWRPT.toNat = (r.ERXWRPT.toNat + p.total) % 3072
  EPKTCNT : r'.EPKTCNT = r.EPKTCNT + 1
  rest : r' = { r with chip := r'.chip, ERXWRPT := r'.ERXWRPT, EPKTCNT := r'.EPKTCNT }

/-! ### The driver -/

/-- `ENC28J60Driver::readBuf` -/
def readBuf (len : ℕ) (r : Receiver) : Bytes × Receiver :=
  (Walk.read advance len r.ERDPT.toNat r.chip.ram,
    { r with ERDPT := UInt16.ofNat (advance^[len] r.ERDPT.toNat) })

/-- `ENC28J60Driver::receiveFrame` -/
def receiveFrame (r : Receiver) : UInt16 × Receiver :=
  if r.EPKTCNT > 0 then
    let r := { r with ERDPT := r.gNextPacketPtr }
    let (header, r) := readBuf 6 r
    let offset := r.ERDPT
    let r := { r with
      recvBuffer := r.recvBuffer.setPayloadPointer offset, gNextPacketPtr := word16 header }
    let len := word16 (header.drop 2) - 4
    let len := if len > r.recvBuffer.size then r.recvBuffer.size else len
    let len := if word16 (header.drop 4) &&& 0x80 = 0 then 0 else len
    (len, { r with ERXRDPT := offset, EPKTCNT := r.EPKTCNT - 1 })
  else (0, r)

/-! ### The instructions -/

section Registers

open ENC28J60Registers Procedure

/-- What the controller answers to the instructions of `receiveFrame`. -/
def answersTo (r : Receiver) : Bytes :=
  r.EPKTCNT :: if r.EPKTCNT > 0 then
    Walk.read advance 6 r.gNextPacketPtr.toNat r.chip.ram ++
      bytesOf16 (UInt16.ofNat (advance^[6] r.gNextPacketPtr.toNat))
  else []

/-- The fields of the driver, and the answers that are to come. -/
structure Shows (d : Driver) (gNextPacketPtr : UInt16) (recvBuffer : ENC28J60Buffer)
    (answers : Bytes) : Prop where
  gNextPacketPtr : d.gNextPacketPtr = gNextPacketPtr
  recvBuffer : d.recvBuffer = recvBuffer
  answers : d.answers = answers

variable {d : Driver} {next : UInt16} {buffer : ENC28J60Buffer} {answers : Bytes}

theorem Shows.setBank (h : Shows d next buffer answers) (address : UInt8) :
    ∃ d', (SetBank address).run d = (some (), d') ∧ Shows d' next buffer answers := by
  obtain ⟨hnext, hbuffer, hanswers⟩ := h
  unfold SetBank
  rw [Proc.run_read_bind]
  split
  · exact ⟨_, rfl, hnext, hbuffer, hanswers⟩
  · exact ⟨_, rfl, hnext, hbuffer, hanswers⟩

theorem Shows.readRegByte {a : UInt8} (h : Shows d next buffer (a :: answers)) (address : UInt8) :
    ∃ d', (readRegByte address).run d = (some a, d') ∧ Shows d' next buffer answers := by
  obtain ⟨d', hrun, hnext, hbuffer, hanswers⟩ := h.setBank address
  refine ⟨{ issue ENC28J60_READ_CTRL_REG address d' with answers := answers }, ?_, hnext, hbuffer,
    rfl⟩
  unfold ENC28J60Registers.readRegByte
  rw [Proc.run_bind_of_some hrun, readOp, Proc.run_modify_bind, answer]
  have hissued : (issue ENC28J60_READ_CTRL_REG address d').answers = a :: answers := hanswers
  dsimp only
  rw [hissued]

theorem Shows.readReg {x : UInt16} (h : Shows d next buffer (bytesOf16 x ++ answers))
    (address : UInt8) :
    ∃ d', (readReg address).run d = (some x, d') ∧ Shows d' next buffer answers := by
  obtain ⟨d₁, hlow, h₁⟩ := h.readRegByte address
  obtain ⟨d₂, hhigh, h₂⟩ := h₁.readRegByte (address + 1)
  refine ⟨d₂, ?_, h₂⟩
  have hsum : x.toUInt8.toUInt16 + (x >>> 8).toUInt8.toUInt16 <<< 8 = x := by
    have hx := x.toNat_lt
    apply UInt16.toNat_inj.mp
    simp only [UInt16.toNat_add, UInt8.toNat_toUInt16, UInt16.toNat_toUInt8,
      UInt16.toNat_shiftLeft, UInt16.toNat_shiftRight, Nat.shiftRight_eq_div_pow,
      Nat.shiftLeft_eq, UInt16.toNat_ofNat, Nat.reducePow, Nat.reduceMod]
    omega
  unfold ENC28J60Registers.readReg
  rw [Proc.run_bind_of_some hlow, Proc.run_bind_of_some hhigh, Proc.run_pure, hsum]

theorem Shows.writeReg (h : Shows d next buffer answers) (address : UInt8) (data : UInt16) :
    ∃ d', (writeReg address data).run d = (some (), d') ∧ Shows d' next buffer answers := by
  have hbyte : ∀ {d : Driver} (address data : UInt8), Shows d next buffer answers →
      ∃ d', (writeRegByte address data).run d = (some (), d') ∧ Shows d' next buffer answers := by
    intro d address data h
    obtain ⟨d', hrun, hshows⟩ := h.setBank address
    exact ⟨_, Proc.run_bind_of_some hrun, hshows.gNextPacketPtr, hshows.recvBuffer,
      hshows.answers⟩
  obtain ⟨d₁, hlow, h₁⟩ := hbyte address data.toUInt8 h
  obtain ⟨d₂, hhigh, h₂⟩ := hbyte (address + 1) (data >>> 8).toUInt8 h₁
  refine ⟨d₂, ?_, h₂⟩
  unfold ENC28J60Registers.writeReg
  rw [Proc.run_bind_of_some hlow]
  exact hhigh

theorem Shows.readBytes {data : Bytes} (h : Shows d next buffer (data ++ answers)) :
    ∃ d', (readBytes data.length).run d = (some data, d') ∧ Shows d' next buffer answers := by
  induction data generalizing d with
  | nil => exact ⟨d, rfl, h⟩
  | cons a data ih =>
      have hnext : Shows { d with answers := data ++ answers } next buffer (data ++ answers) :=
        ⟨h.gNextPacketPtr, h.recvBuffer, rfl⟩
      obtain ⟨d', hrun, hshows⟩ := ih hnext
      refine ⟨d', ?_, hshows⟩
      have hanswer : answer.run d = (some a, { d with answers := data ++ answers }) := by
        rw [answer]
        dsimp only
        rw [h.answers]
        rfl
      rw [List.length_cons, ENC28J60Registers.readBytes, Proc.run_bind_of_some hanswer,
        Proc.run_bind_of_some hrun]
      rfl

/-- The function, as the driver's instructions and the answers of the controller have it. -/
theorem receiveFrame_registers (r : Receiver)
    (h : Shows d r.gNextPacketPtr r.recvBuffer (answersTo r ++ answers)) :
    ∃ d', ENC28J60Registers.receiveFrame.run d = (some (receiveFrame r).1, d') ∧
      Shows d' (receiveFrame r).2.gNextPacketPtr (receiveFrame r).2.recvBuffer answers := by
  unfold answersTo at h
  obtain ⟨d₁, hcount, h₁⟩ := h.readRegByte EPKTCNT
  unfold ENC28J60Registers.receiveFrame receiveFrame
  rw [Proc.run_bind_of_some hcount]
  by_cases hpos : r.EPKTCNT > 0
  · rw [if_pos hpos] at h₁ ⊢
    rw [if_pos hpos]
    have hsix : (Walk.read advance 6 r.gNextPacketPtr.toNat r.chip.ram).length = 6 := rfl
    dsimp only [readBuf]
    generalize Walk.read advance 6 r.gNextPacketPtr.toNat r.chip.ram = header at *
    generalize UInt16.ofNat (advance^[6] r.gNextPacketPtr.toNat) = offset at *
    change Shows d₁ _ _ (header ++ bytesOf16 offset ++ answers) at h₁
    rw [List.append_assoc] at h₁
    obtain ⟨d₂, hpointer, h₂⟩ := h₁.writeReg ERDPT d₁.gNextPacketPtr
    have hissued : Shows (issue ENC28J60_READ_BUF_MEM 0 d₂) r.gNextPacketPtr r.recvBuffer
        (header ++ (bytesOf16 offset ++ answers)) :=
      ⟨h₂.gNextPacketPtr, h₂.recvBuffer, h₂.answers⟩
    obtain ⟨d₃, hheader, h₃⟩ := hissued.readBytes
    obtain ⟨d₄, hoffset, h₄⟩ := h₃.readReg ERDPT
    have hset : Shows { d₄ with
        recvBuffer := d₄.recvBuffer.setPayloadPointer offset, gNextPacketPtr := word16 header }
        (word16 header) (r.recvBuffer.setPayloadPointer offset) answers :=
      ⟨rfl, by rw [h₄.recvBuffer], h₄.answers⟩
    obtain ⟨d₅, hfree, h₅⟩ := hset.writeReg ERXRDPT offset
    have hread : (ENC28J60Registers.readBuf 6).run d₂ = (some header, d₃) := by
      rw [hsix] at hheader
      exact hheader
    refine ⟨(writeOp ENC28J60_BIT_FIELD_SET ECON2 ECON2_PKTDEC).exec d₅, ?_, h₅.gNextPacketPtr,
      h₅.recvBuffer, h₅.answers⟩
    rw [Proc.run_read_bind, Proc.run_bind_of_some hpointer, Proc.run_bind_of_some hread,
      Proc.run_bind_of_some hoffset, Proc.run_modify_bind, Proc.run_modify_bind,
      Proc.run_read_bind]
    dsimp only
    rw [Proc.run_bind_of_some hfree, h₄.recvBuffer]
    rfl
  · rw [if_neg hpos] at h₁ ⊢
    rw [if_neg hpos]
    exact ⟨d₁, rfl, h₁⟩

end Registers

/-- The driver as its constructor leaves it. -/
structure Fresh (r : Receiver) : Prop where
  ERXRDPT : r.ERXRDPT = RXSTART_INIT
  ERXWRPT : r.ERXWRPT = RXSTART_INIT
  EPKTCNT : r.EPKTCNT = 0
  gNextPacketPtr : r.gNextPacketPtr = RXSTART_INIT
  recvBuffer : r.recvBuffer = ENC28J60Buffer.recvBuffer

/-! ### Runs -/

/-- The receiver, the frames that have been stored, and what the calls of `receiveFrame` that
found one have returned. -/
structure Session where
  receiver : Receiver
  stored : List Packet
  results : List UInt16

/-- A frame is stored, `receiveFrame` is called, or the driver uses its other buffers. -/
inductive Event
  | stores (p : Packet) (after : Receiver)
  | receiveFrame
  | other (chip : Chip) (ERDPT : UInt16)

/-- What an event makes of a session. -/
def run : Event → Session → Session
  | .stores p after, s => { s with receiver := after, stored := s.stored ++ [p] }
  | .receiveFrame, s =>
      { s with
        receiver := (receiveFrame s.receiver).2
        results := if s.receiver.EPKTCNT > 0 then s.results ++ [(receiveFrame s.receiver).1]
          else s.results }
  | .other chip ERDPT, s => { s with receiver := { s.receiver with chip := chip, ERDPT := ERDPT } }

/-- The events that can happen: only the controller writes to the ring. -/
def Ok (s : Session) : Event → Prop
  | .stores p after => Stores p s.receiver after
  | .receiveFrame => True
  | .other chip _ => ∀ a < 3072, chip.ram a = s.receiver.chip.ram a

/-! ### The queue -/

/-- The packets `taken` have been handed to the driver, and the last of them is still on the
ring, from position `start` on; `pending` lie behind it. -/
structure Queue (s : Session) (start : ℕ) (front : Bytes) (taken pending : List Packet) :
    Prop where
  ERXRDPT : s.receiver.ERXRDPT.toNat = start % 3072
  gNextPacketPtr : s.receiver.gNextPacketPtr.toNat = (start + front.length) % 3072
  ERXWRPT : s.receiver.ERXWRPT.toNat =
    (start + front.length + (storedFrom (start + front.length) pending).length) % 3072
  EPKTCNT : s.receiver.EPKTCNT.toNat = pending.length
  holds : Holds 3072 s.receiver.chip.ram start
    (front ++ storedFrom (start + front.length) pending)
  fits : front.length + (storedFrom (start + front.length) pending).length ≤ 3071
  stored : s.stored = taken ++ pending
  results : s.results = taken.map Packet.reported
  shown : ∀ p, taken.getLast? = some p → front = p.body ∧
    s.receiver.recvBuffer.payloadPointer.toNat = start % 3072
  recvBuffer : ∃ offset, s.receiver.recvBuffer =
    ENC28J60Buffer.recvBuffer.setPayloadPointer offset

variable {s : Session} {start : ℕ} {front : Bytes} {taken pending : List Packet}

/-- A new receiver has an empty queue. -/
theorem queue_fresh {r : Receiver} (h : Fresh r) : Queue ⟨r, [], []⟩ 0 [] [] [] where
  ERXRDPT := by rw [h.ERXRDPT]; rfl
  gNextPacketPtr := by rw [h.gNextPacketPtr]; rfl
  ERXWRPT := by rw [h.ERXWRPT]; rfl
  EPKTCNT := by rw [h.EPKTCNT]; rfl
  holds := holds_nil
  fits := Nat.zero_le _
  stored := rfl
  results := rfl
  shown := by simp
  recvBuffer := ⟨0, h.recvBuffer⟩

/-- How much room the pointers leave. -/
theorem Queue.free_eq (h : Queue s start front taken pending) :
    free s.receiver =
      3071 - (front.length + (storedFrom (start + front.length) pending).length) := by
  have hfits := h.fits
  have hread := h.ERXRDPT
  have hwrite := h.ERXWRPT
  generalize (storedFrom (start + front.length) pending).length = length at hfits hwrite ⊢
  unfold free
  split_ifs with hlt heq
  · have hlt := UInt16.lt_iff_toNat_lt.mp hlt
    omega
  · have heq := congrArg UInt16.toNat heq
    omega
  · have hlt := mt UInt16.lt_iff_toNat_lt.mpr hlt
    have hne := mt UInt16.toNat_inj.mp heq
    omega

/-- The controller stores a frame behind the others. -/
theorem Queue.stores (h : Queue s start front taken pending) {p : Packet} {after : Receiver}
    (hstores : Stores p s.receiver after) :
    Queue (run (.stores p after) s) start front taken (pending ++ [p]) := by
  have hroom := hstores.room
  rw [h.free_eq] at hroom
  have hfits := h.fits
  have hwrite := h.ERXWRPT
  have hcount := UInt8.lt_iff_toNat_lt.mp hstores.countable
  have hrest := hstores.rest
  generalize hposition : start + front.length = position at *
  have hlength : (storedFrom position (pending ++ [p])).length =
      (storedFrom position pending).length + p.total := by
    rw [storedFrom_append, List.length_append, p.length_stored]
  have hnext : p.stored s.receiver.ERXWRPT.toNat =
      p.stored (position + (storedFrom position pending).length) := by
    unfold Packet.stored
    rw [hwrite, Nat.mod_add_mod]
  have hcell : ∀ i, (s.receiver.ERXWRPT.toNat + i) % 3072 =
      (position + (storedFrom position pending).length + i) % 3072 := fun i => by
    rw [hwrite, Nat.mod_add_mod]
  have hbehind : start + (front ++ storedFrom position pending).length =
      position + (storedFrom position pending).length := by
    rw [List.length_append, ← Nat.add_assoc, hposition]
  constructor
  · rw [run, hrest]
    exact h.ERXRDPT
  · rw [run, hrest, hposition]
    exact hposition ▸ h.gNextPacketPtr
  · rw [run, hposition, hlength, ← Nat.add_assoc]
    dsimp only
    rw [hstores.ERXWRPT, hcell]
  · rw [run, List.length_append]
    dsimp only
    rw [hstores.EPKTCNT, UInt8.toNat_add, h.EPKTCNT]
    rw [h.EPKTCNT] at hcount
    exact Nat.mod_eq_of_lt (Nat.succ_lt_succ hcount)
  · rw [run, hposition, storedFrom_append, ← List.append_assoc]
    have hholds := h.holds
    rw [hposition] at hholds
    refine hholds.write ?_ ?_ fun a ha => hstores.others a fun i hi => ?_
    · rw [List.length_append, p.length_stored]
      omega
    · rw [hbehind]
      intro i hi
      have hwritten := hstores.written
      rw [hnext] at hwritten
      rw [← hcell]
      exact hwritten i hi
    · rw [hcell, ← hbehind]
      exact ha i (by rwa [p.length_stored])
  · rw [hposition, hlength]
    omega
  · rw [run, h.stored, List.append_assoc]
  · exact h.results
  · intro q hq
    rw [run, hrest]
    exact h.shown q hq
  · rw [run, hrest]
    exact h.recvBuffer

/-- The header that the driver reads is the one of the next packet. -/
theorem Queue.header {p : Packet} (h : Queue s start front taken (p :: pending)) :
    Walk.read advance 6 s.receiver.gNextPacketPtr.toNat s.receiver.chip.ram =
      bytesOf16 (UInt16.ofNat ((start + front.length + p.total) % 3072)) ++
        bytesOf16 (UInt16.ofNat (p.frame.length + 4)) ++ bytesOf16 p.status := by
  have hring : s.receiver.gNextPacketPtr.toNat < 3072 := by
    rw [h.gNextPacketPtr]
    exact Nat.mod_lt _ (by decide)
  have hlength : 6 ≤ p.total := Nat.le_add_right 6 _
  have hread := h.holds.map_range front.length 6 (by
    rw [List.length_append, storedFrom, List.length_append, p.length_stored]
    omega)
  rw [List.drop_left, storedFrom, Packet.stored] at hread
  rw [Walk.read_eq_map]
  refine (List.map_congr_left fun i _ => ?_).trans hread
  rw [iterate_advance_ring hring, h.gNextPacketPtr, Nat.mod_add_mod]

/-- The length that the driver works out. -/
theorem Packet.toNat_length {p : Packet} (h : p.total ≤ 3071) :
    (UInt16.ofNat (p.frame.length + 4) - 4).toNat = p.frame.length := by
  have hbody := p.length_body
  have htotal : p.total = 6 + p.body.length := rfl
  have hcount : (UInt16.ofNat (p.frame.length + 4)).toNat = p.frame.length + 4 :=
    UInt16.toNat_ofNat_of_lt' (Nat.lt_of_le_of_lt (by omega : _ ≤ 3071) (by decide))
  rw [UInt16.toNat_sub_of_le _ _ (UInt16.le_iff_toNat_le.mpr (by rw [hcount]; simp)), hcount]
  exact Nat.add_sub_cancel _ 4

/-- The driver takes the next packet. -/
theorem Queue.receiveFrame_eq {p : Packet} (h : Queue s start front taken (p :: pending)) :
    ∃ offset next : UInt16, offset.toNat = (start + front.length + 6) % 3072 ∧
      next.toNat = (start + front.length + p.total) % 3072 ∧
      ReceiveRing.receiveFrame s.receiver = (p.reported, { s.receiver with
        ERDPT := offset, ERXRDPT := offset, EPKTCNT := s.receiver.EPKTCNT - 1
        gNextPacketPtr := next
        recvBuffer := s.receiver.recvBuffer.setPayloadPointer offset }) := by
  have hfits := h.fits
  rw [storedFrom, List.length_append, p.length_stored] at hfits
  have hring : s.receiver.gNextPacketPtr.toNat < 3072 := by
    rw [h.gNextPacketPtr]
    exact Nat.mod_lt _ (by decide)
  have hsmall : ∀ n, (UInt16.ofNat (n % 3072)).toNat = n % 3072 := fun n =>
    UInt16.toNat_ofNat_of_lt' (Nat.lt_trans (Nat.mod_lt n (by decide : 0 < 3072)) (by decide))
  have hcount : s.receiver.EPKTCNT > 0 := by
    rw [gt_iff_lt, UInt8.lt_iff_toNat_lt, h.EPKTCNT]
    exact Nat.succ_pos _
  have hsize : s.receiver.recvBuffer.size = MAX_FRAMELEN := by
    obtain ⟨offset, hbuffer⟩ := h.recvBuffer
    rw [hbuffer]
    rfl
  have hlength := p.toNat_length (by omega)
  -- the length is the one of the frame, or that of the buffer
  have hreported : (if p.status &&& 0x80 = 0 then 0
      else if UInt16.ofNat (p.frame.length + 4) - 4 > MAX_FRAMELEN then MAX_FRAMELEN
        else UInt16.ofNat (p.frame.length + 4) - 4) = p.reported := by
    unfold Packet.reported
    split_ifs with hstatus hlong
    · rfl
    · have hlong := UInt16.lt_iff_toNat_lt.mp hlong
      rw [hlength] at hlong
      rw [Nat.min_eq_right (Nat.le_of_lt hlong), UInt16.ofNat_toNat]
    · have hlong := mt UInt16.lt_iff_toNat_lt.mpr hlong
      rw [hlength] at hlong
      rw [Nat.min_eq_left (Nat.le_of_not_lt hlong)]
      exact UInt16.ofNat_toNat.symm.trans (congrArg UInt16.ofNat hlength)
  generalize hnext : UInt16.ofNat ((start + front.length + p.total) % 3072) = next
  have hheader := h.header
  rw [hnext] at hheader
  generalize hbytes : bytesOf16 next ++ bytesOf16 (UInt16.ofNat (p.frame.length + 4)) ++
    bytesOf16 p.status = header at hheader
  have hpointer : word16 header = next := by
    rw [← hbytes]
    exact word16_bytesOf16 next
  have hbyteCount : word16 (header.drop 2) = UInt16.ofNat (p.frame.length + 4) := by
    rw [← hbytes]
    exact word16_bytesOf16 _
  have hstatus : word16 (header.drop 4) = p.status := by
    rw [← hbytes]
    exact word16_bytesOf16 _
  refine ⟨UInt16.ofNat ((start + front.length + 6) % 3072), next, hsmall _, hnext ▸ hsmall _, ?_⟩
  unfold ReceiveRing.receiveFrame
  rw [if_pos hcount]
  dsimp only [readBuf]
  rw [hheader, iterate_advance_ring hring, h.gNextPacketPtr, Nat.mod_add_mod, hpointer, hbyteCount,
    hstatus, ← hreported]
  show (if p.status &&& 0x80 = 0 then 0 else if _ > s.receiver.recvBuffer.size then
    s.receiver.recvBuffer.size else _, _) = _
  rw [hsize]

/-- So what was shown before is off the ring, and the frame of this packet is shown. -/
theorem Queue.receiveFrame {p : Packet} (h : Queue s start front taken (p :: pending)) :
    Queue (run .receiveFrame s) (start + front.length + 6) p.body (taken ++ [p]) pending := by
  obtain ⟨offset, next, hoffset, hnext, heq⟩ := h.receiveFrame_eq
  have hcount : s.receiver.EPKTCNT.toNat = pending.length + 1 := h.EPKTCNT
  have hpos : s.receiver.EPKTCNT > 0 := by
    rw [gt_iff_lt, UInt8.lt_iff_toNat_lt, hcount]
    exact Nat.succ_pos _
  have hbehind : start + front.length + 6 + p.body.length = start + front.length + p.total :=
    Nat.add_assoc _ 6 _
  have hfits := h.fits
  have hwrite := h.ERXWRPT
  have hholds := h.holds
  simp only [storedFrom, List.length_append, p.length_stored] at hfits hwrite
  have hrun : run .receiveFrame s = { s with
      receiver := (ReceiveRing.receiveFrame s.receiver).2
      results := s.results ++ [(ReceiveRing.receiveFrame s.receiver).1] } := by
    rw [run, if_pos hpos]
  rw [hrun, heq]
  constructor
  · exact hoffset
  · rw [hbehind]
    exact hnext
  · rw [hbehind]
    dsimp only
    rw [hwrite, ← Nat.add_assoc]
  · dsimp only
    rw [UInt8.toNat_sub_of_le _ _ (UInt8.le_iff_toNat_le.mpr (by rw [hcount]; simp)), hcount]
    rfl
  · rw [hbehind]
    have hrest := (holds_append_iff.mp hholds).2
    rw [storedFrom, Packet.stored, List.append_assoc] at hrest
    exact (holds_append_iff.mp hrest).2
  · rw [hbehind]
    have htotal : p.total = 6 + p.body.length := rfl
    omega
  · rw [h.stored, List.append_assoc]
    rfl
  · dsimp only
    rw [h.results, List.map_append]
    rfl
  · intro q hq
    rw [List.getLast?_concat] at hq
    obtain rfl := Option.some.inj hq
    exact ⟨rfl, hoffset⟩
  · obtain ⟨before, hbuffer⟩ := h.recvBuffer
    refine ⟨offset, ?_⟩
    dsimp only
    rw [hbuffer]
    rfl

/-- Without a packet the driver does nothing. -/
theorem Queue.receiveFrame_nil (h : Queue s start front taken []) :
    run .receiveFrame s = s := by
  have hcount : s.receiver.EPKTCNT = 0 := UInt8.toNat_inj.mp h.EPKTCNT
  have hnone : ¬ s.receiver.EPKTCNT > 0 := by
    rw [hcount]
    decide
  rw [run, if_neg hnone, ReceiveRing.receiveFrame, if_neg hnone]

/-- What the driver does elsewhere leaves the queue alone. -/
theorem Queue.other (h : Queue s start front taken pending) {chip : Chip} {ERDPT : UInt16}
    (hok : Ok s (.other chip ERDPT)) :
    Queue (run (.other chip ERDPT) s) start front taken pending :=
  { h with holds := h.holds.congr (by decide) hok }

/-- The receive buffer shows the frame that was taken last. -/
theorem Queue.read (h : Queue s start front taken pending) {p : Packet}
    (hp : taken.getLast? = some p) {offset len : UInt16}
    (hle : offset.toNat + len.toNat ≤ min p.frame.length MAX_FRAMELEN.toNat) :
    s.receiver.recvBuffer.read offset len s.receiver.chip =
      (true, (p.frame.drop offset.toNat).take len.toNat) := by
  obtain ⟨hfront, hpointer⟩ := h.shown p hp
  obtain ⟨pointer, hbuffer⟩ := h.recvBuffer
  rw [hbuffer] at hpointer ⊢
  have hpointer : pointer.toNat = start % 3072 := hpointer
  have hdevice : ENC28J60Buffer.Device (ENC28J60Buffer.recvBuffer.setPayloadPointer pointer) :=
    .recv (UInt16.le_iff_toNat_le.mpr (by
      rw [hpointer]
      exact Nat.le_of_lt_succ (Nat.mod_lt _ (by decide : 0 < 3072))))
  have hsize : (ENC28J60Buffer.recvBuffer.setPayloadPointer pointer).size = MAX_FRAMELEN := rfl
  have hshown : ((ENC28J60Buffer.recvBuffer.setPayloadPointer pointer).read offset len
      s.receiver.chip).1 = true := by
    unfold ENC28J60Buffer.read
    cases haddress : (ENC28J60Buffer.recvBuffer.setPayloadPointer pointer).address offset with
    | some address => rfl
    | none =>
        have hrefused := (ENC28J60Buffer.address_eq_none.mp haddress).1
        exact absurd hrefused (by simp [ENC28J60Buffer.setPayloadPointer,
          ENC28J60Buffer.recvBuffer])
  obtain ⟨-, hdata⟩ := ENC28J60Buffer.respectsRead_of_le hdevice (by rw [hsize]; omega)
    s.receiver.chip hshown
  refine Prod.ext hshown (hdata.trans ?_)
  have hfrom := (holds_append_iff.mp h.holds).1
  rw [hfront, Packet.body, List.append_assoc] at hfrom
  refine Eq.trans ?_ ((holds_append_iff.mp hfrom).1.map_range _ _ (by omega))
  refine List.map_congr_left fun i _ => ?_
  show s.receiver.chip.ram (0 + (pointer.toNat + offset.toNat + i) % 3072) = _
  rw [Nat.zero_add, hpointer, Nat.add_assoc, Nat.mod_add_mod, ← Nat.add_assoc]

/-- In every state of every run the calls of `receiveFrame` that have found a frame have returned
the lengths of the frames in the order in which they have been stored, the counter counts the
others, and the receive buffer shows the last frame taken, however many have arrived since. -/
theorem reaches_queue {r : Receiver} (hfresh : Fresh r) (hrun : Reaches Ok run ⟨r, [], []⟩ s) :
    s.results = (s.stored.take s.results.length).map Packet.reported ∧
      s.receiver.EPKTCNT.toNat + s.results.length = s.stored.length ∧
      ∀ n p, s.results.length = n + 1 → s.stored[n]? = some p →
        ∀ offset len : UInt16, offset.toNat + len.toNat ≤ min p.frame.length MAX_FRAMELEN.toNat →
          s.receiver.recvBuffer.read offset len s.receiver.chip =
            (true, (p.frame.drop offset.toNat).take len.toNat) := by
  have hall : ∃ start front taken pending, Queue s start front taken pending := by
    refine hrun.invariant (P := fun s => ∃ start front taken pending,
      Queue s start front taken pending) ⟨_, _, _, _, queue_fresh hfresh⟩ ?_
    rintro s event ⟨start, front, taken, pending, h⟩ hok
    cases event with
    | stores p after => exact ⟨_, _, _, _, h.stores hok⟩
    | other chip ERDPT => exact ⟨_, _, _, _, h.other hok⟩
    | receiveFrame =>
        cases pending with
        | nil =>
            rw [h.receiveFrame_nil]
            exact ⟨_, _, _, _, h⟩
        | cons p pending => exact ⟨_, _, _, _, h.receiveFrame⟩
  obtain ⟨start, front, taken, pending, h⟩ := hall
  have hlength : s.results.length = taken.length := by
    rw [h.results, List.length_map]
  refine ⟨?_, ?_, fun n p hn hp offset len hle => h.read ?_ hle⟩
  · rw [hlength, h.stored, List.take_left, h.results]
  · rw [h.EPKTCNT, hlength, h.stored, List.length_append, Nat.add_comm]
  · rw [hlength] at hn
    rw [h.stored, List.getElem?_append_left (by omega)] at hp
    rw [List.getLast?_eq_getElem?, hn]
    exact hp

/-! ### The example -/

/-- The controller with a frame behind the others. -/
def store (p : Packet) (r : Receiver) : Receiver :=
  { r with
    chip := { r.chip with
      ram := Walk.write advance (p.stored r.ERXWRPT.toNat) r.ERXWRPT.toNat r.chip.ram }
    ERXWRPT := UInt16.ofNat ((r.ERXWRPT.toNat + p.total) % 3072)
    EPKTCNT := r.EPKTCNT + 1 }

theorem stores_store {p : Packet} {r : Receiver} (hroom : p.total ≤ free r)
    (hcount : r.EPKTCNT < 255) (hring : r.ERXWRPT.toNat < 3072)
    (hfree : r.ERXRDPT.toNat < 3072) : Stores p r (store p r) := by
  have htotal : p.total ≤ 3071 := by
    refine hroom.trans ?_
    unfold free
    split_ifs
    all_goals omega
  have hcell : ∀ i, advance^[i] r.ERXWRPT.toNat = (r.ERXWRPT.toNat + i) % 3072 :=
    iterate_advance_ring hring
  refine ⟨hroom, hcount, fun i hi => ?_, fun a ha => ?_, ?_, rfl, rfl⟩
  · have hlength := p.length_stored r.ERXWRPT.toNat
    rw [← hcell]
    refine Walk.write_iterate hi fun j hj hij => ?_
    rw [hcell, hcell]
    exact (mod_ne (by omega) (by omega)).symm
  · refine Walk.write_of_ne fun i hi => ?_
    rw [hcell]
    exact ha i (by rwa [p.length_stored] at hi)
  · exact UInt16.toNat_ofNat_of_lt'
      (Nat.lt_trans (Nat.mod_lt _ (by decide : 0 < 3072)) (by decide))

/-- A receiver with nothing on the ring. -/
def exampleReceiver : Receiver :=
  ⟨⟨fun _ => 0, false⟩, 0, 0, 0, 0, 0, ENC28J60Buffer.recvBuffer⟩

/-- A frame as long as the driver takes. -/
def exampleLong : Packet :=
  ⟨List.replicate 1500 7, [9, 9, 9, 9], [], 0x80, rfl, by rw [List.length_replicate]; rfl⟩

/-- A frame of sixty bytes. -/
def exampleShort : Packet :=
  ⟨(List.range 60).map UInt8.ofNat, [9, 9, 9, 9], [], 0x80, rfl, by simp⟩

/-- A frame arrives. -/
def arrive (p : Packet) (s : Session) : Session := run (.stores p (store p s.receiver)) s

/-- Frames that arrive and are taken, one after the other. -/
def exampleTaken (packets : List Packet) : Session :=
  packets.foldl (fun s p => run .receiveFrame (arrive p s)) ⟨exampleReceiver, [], []⟩

/-- Two long frames have been taken, and then a short one, which lies around the end of the ring;
another has arrived. -/
def exampleWrapped : Session :=
  arrive exampleShort (exampleTaken [exampleLong, exampleLong, exampleShort])

/-- A frame that there is room for can arrive. -/
theorem reaches_arrive {s₀ s : Session} (h : Reaches Ok run s₀ s) {p : Packet}
    (hroom : p.total ≤ free s.receiver) (hcount : s.receiver.EPKTCNT < 255)
    (hring : s.receiver.ERXWRPT.toNat < 3072) (hfree : s.receiver.ERXRDPT.toNat < 3072) :
    Reaches Ok run s₀ (arrive p s) :=
  h.step (stores_store hroom hcount hring hfree)

/-- And then be taken. -/
theorem reaches_exampleTaken {s₀ : Session} {packets : List Packet}
    (h : Reaches Ok run s₀ (exampleTaken packets)) {p : Packet}
    (hroom : p.total ≤ free (exampleTaken packets).receiver)
    (hcount : (exampleTaken packets).receiver.EPKTCNT < 255)
    (hring : (exampleTaken packets).receiver.ERXWRPT.toNat < 3072)
    (hfree : (exampleTaken packets).receiver.ERXRDPT.toNat < 3072) :
    Reaches Ok run s₀ (exampleTaken (packets ++ [p])) := by
  rw [exampleTaken, List.foldl_concat]
  exact (reaches_arrive h hroom hcount hring hfree).step (e := Event.receiveFrame) trivial

/-- The short frame is shown, from the cells at the end of the ring and those at its start. -/
theorem reaches_queue_wrapped : exampleWrapped.results = [1500, 1500, 60] ∧
    exampleWrapped.receiver.ERXRDPT = 3026 ∧
    exampleWrapped.receiver.recvBuffer.read 44 4 exampleWrapped.receiver.chip =
      (true, [44, 45, 46, 47]) := by
  have hstart : Reaches Ok run ⟨exampleReceiver, [], []⟩ (exampleTaken []) := .refl
  have hfirst : Reaches Ok run ⟨exampleReceiver, [], []⟩ (exampleTaken ([] ++ [exampleLong])) :=
    reaches_exampleTaken hstart (by decide +kernel) (by decide +kernel) (by decide +kernel)
      (by decide +kernel)
  have hsecond : Reaches Ok run ⟨exampleReceiver, [], []⟩
      (exampleTaken ([exampleLong] ++ [exampleLong])) :=
    reaches_exampleTaken hfirst (by decide +kernel) (by decide +kernel) (by decide +kernel)
      (by decide +kernel)
  have hthird : Reaches Ok run ⟨exampleReceiver, [], []⟩
      (exampleTaken ([exampleLong, exampleLong] ++ [exampleShort])) :=
    reaches_exampleTaken hsecond (by decide +kernel) (by decide +kernel) (by decide +kernel)
      (by decide +kernel)
  have hrun : Reaches Ok run ⟨exampleReceiver, [], []⟩ exampleWrapped :=
    reaches_arrive hthird (by decide +kernel) (by decide +kernel) (by decide +kernel)
      (by decide +kernel)
  obtain ⟨hresults, -, hread⟩ := reaches_queue (r := exampleReceiver) ⟨rfl, rfl, rfl, rfl, rfl⟩
    hrun
  have hlength : exampleWrapped.results.length = 3 := by decide +kernel
  refine ⟨?_, by decide +kernel, hread 2 exampleShort hlength rfl 44 4 (by decide)⟩
  rw [hlength] at hresults
  exact hresults.trans (by decide +kernel)

end ReceiveRing

end AtmegaNet
