import AtmegaNet.Access
import AtmegaNet.ENC28J60Buffer

/-!
# Copies between buffers of all three classes

`copyTo` and `copyFrom` are virtual functions that hand a copy over to each other, depending on
the class of the source and of the destination. Here a buffer is a `MemBuffer`, a buffer of the
ENC28J60, or an `OffsetBuffer` over any other, and a copy runs for a given number of calls.

## Main results

* `copyTo_loops`: the two functions hand a copy from the controller into a view to each other
  for ever.
* `returns_iff`: every other copy returns.
-/

namespace AtmegaNet

open ENC28J60Driver

/-- A buffer of the driver, whatever frame has been received. -/
abbrev DeviceBuffer := { b : ENC28J60Buffer // ENC28J60Buffer.Device b }

/-- A buffer of any class. -/
inductive AnyBuffer
  | memBuffer (root : Root) (bufferLength : UInt16)
  | enc28j60Buffer (device : DeviceBuffer)
  | offsetBuffer (bufferLength offset : UInt16) (innerBuffer : AnyBuffer)

/-- The memory of the microcontroller, and the chip. -/
structure Storage where
  mem : Memory
  chip : Chip

namespace AnyBuffer

/-! ### The virtual functions -/

/-- `size` -/
def size : AnyBuffer → UInt16
  | memBuffer _ bufferLength => bufferLength
  | enc28j60Buffer device => device.val.size
  | offsetBuffer bufferLength _ _ => bufferLength

/-- `MemBuffer::BufferType` is 1, `OffsetBuffer::BufferType` is 2, `ENC28J60Buffer::BufferType`
is 3. -/
def getBufferType : AnyBuffer → UInt8
  | memBuffer _ _ => 1
  | offsetBuffer _ _ _ => 2
  | enc28j60Buffer _ => 3

/-- `read` -/
def read : AnyBuffer → UInt16 → UInt16 → Storage → Option Bytes
  | memBuffer root bufferLength, start, len, s =>
      if start + len > bufferLength then none
      else some (Region.read s.mem root start.toNat len.toNat)
  | enc28j60Buffer device, start, len, s =>
      match device.val.read start len s.chip with
      | (true, data) => some data
      | (false, _) => none
  | offsetBuffer bufferLength offset innerBuffer, start, len, s =>
      if start + len > bufferLength then none else innerBuffer.read (offset + start) len s

/-- `write` -/
def write : AnyBuffer → UInt16 → Bytes → Storage → Bool × Storage
  | memBuffer root bufferLength, start, data, s =>
      if start + Buffer.lengthOf data > bufferLength then (false, s)
      else (true, { s with mem := Region.write s.mem root start.toNat data })
  | enc28j60Buffer device, start, data, s =>
      let (written, chip) := device.val.write start data s.chip
      (written, { s with chip := chip })
  | offsetBuffer bufferLength offset innerBuffer, start, data, s =>
      if start + Buffer.lengthOf data > bufferLength then (false, s)
      else innerBuffer.write (offset + start) data s

/-- `OffsetBuffer::getRootBuffer`; any other buffer is its own root. -/
def getRootBuffer : AnyBuffer → AnyBuffer
  | offsetBuffer _ _ innerBuffer => innerBuffer.getRootBuffer
  | b => b

/-- `OffsetBuffer::getRootBufferOffset`; any other buffer starts at 0. -/
def getRootBufferOffset : AnyBuffer → UInt16
  | offsetBuffer _ offset innerBuffer => innerBuffer.getRootBufferOffset + offset
  | _ => 0

/-! ### The copies -/

/-- The loop of `Buffer::copyTo`: the bytes `offset` to `len`, of which `rest` are left. -/
def copyBytes (source destination : AnyBuffer) (dest_start src_start : UInt16) :
    ℕ → UInt16 → Storage → Bool × Storage
  | 0, _, s => (true, s)
  | rest + 1, offset, s =>
      match source.read (src_start + offset) 1 s with
      | none => (false, s)
      | some d => match destination.write (dest_start + offset) d s with
        | (false, s) => (false, s)
        | (true, s) => copyBytes source destination dest_start src_start rest (offset + 1) s

/-- `Buffer::copyTo` -/
def copyToBase (source destination : AnyBuffer) (dest_start src_start len : UInt16) (s : Storage) :
    Bool × Storage :=
  let len :=
    if len = 0 then
      if destination.size < source.size then destination.size else source.size
    else len
  if src_start + len > source.size then (false, s)
  else if dest_start + len > destination.size then (false, s)
  else copyBytes source destination dest_start src_start len.toNat 0 s

/-- The part of `ENC28J60Buffer::copyTo` for a destination on the same chip. -/
def copyOnChip (b d : ENC28J60Buffer) (dest_start src_start len : UInt16) (s : Storage) :
    Option (Bool × Storage) :=
  let src_address := b.bufferStart + b.payloadPointer + src_start
  let dst_address := d.bufferStart + d.payloadPointer + dest_start
  let src_address := if src_address > b.bufferEnd ∧ b.wrap
    then src_address - b.bufferEnd + b.bufferStart - 1 else src_address
  if src_address + len - 1 > b.bufferEnd ∧ ¬ b.wrap then some (false, s)
  else if len > b.size then some (false, s)
  else if dst_address + len - 1 > d.bufferEnd then some (false, s)
  else (ENC28J60Driver.copy src_address dst_address len s.chip).map fun (copied, chip) =>
    (copied, { s with chip := chip })

mutual

/-- `copyTo` of the class of the source: what it returns, where at most this many calls follow
one another. -/
def copyTo : ℕ → AnyBuffer → AnyBuffer → UInt16 → UInt16 → UInt16 → Storage →
    Option (Bool × Storage)
  | 0, _, _, _, _, _, _ => none
  | _ + 1, memBuffer root bufferLength, destination, dest_start, src_start, len, s =>
      some ((memBuffer root bufferLength).copyToBase destination dest_start src_start len s)
  | calls + 1, enc28j60Buffer device, destination, dest_start, src_start, len, s =>
      let len := if len = 0 then device.val.size else len
      match destination with
      | offsetBuffer _ _ _ =>
          copyFrom calls destination (enc28j60Buffer device) dest_start src_start len s
      | enc28j60Buffer deb => copyOnChip device.val deb.val dest_start src_start len s
      | memBuffer _ _ =>
          some ((enc28j60Buffer device).copyToBase destination dest_start src_start len s)
  | calls + 1, offsetBuffer bufferLength offset innerBuffer, destination, dest_start, src_start,
      len, s =>
      let source := offsetBuffer bufferLength offset innerBuffer
      let len := if len = 0 then bufferLength else len
      if len + src_start > bufferLength then some (false, s)
      else if destination.getBufferType = 2 then
        if len + dest_start > destination.size then some (false, s)
        else copyTo calls source.getRootBuffer destination.getRootBuffer
          (dest_start + destination.getRootBufferOffset)
          (src_start + source.getRootBufferOffset) len s
      else copyTo calls source.getRootBuffer destination dest_start
        (src_start + source.getRootBufferOffset) len s

/-- `copyFrom`, which every class has by the same body. -/
def copyFrom : ℕ → AnyBuffer → AnyBuffer → UInt16 → UInt16 → UInt16 → Storage →
    Option (Bool × Storage)
  | 0, _, _, _, _, _, _ => none
  | calls + 1, destination, source, dest_start, src_start, len, s =>
      copyTo calls source destination dest_start src_start len s

end

/-- The copy returns. -/
def Returns (source destination : AnyBuffer) (dest_start src_start len : UInt16) (s : Storage) :
    Prop :=
  ∃ calls, (source.copyTo calls destination dest_start src_start len s).isSome

/-- The copy returns, when it is asked of the destination. -/
def ReturnsFrom (destination source : AnyBuffer) (dest_start src_start len : UInt16)
    (s : Storage) : Prop :=
  ∃ calls, (destination.copyFrom calls source dest_start src_start len s).isSome

/-! ### Roots -/

theorem getBufferType_root (b : AnyBuffer) : b.getRootBuffer.getBufferType ≠ 2 := by
  induction b with
  | memBuffer root n => exact fun h => absurd (show (1 : UInt8) = 2 from h) (by decide)
  | enc28j60Buffer device => exact fun h => absurd (show (3 : UInt8) = 2 from h) (by decide)
  | offsetBuffer n off inner ih => exact ih

/-- A buffer of the driver is shorter than the RAM. -/
theorem size_device (device : DeviceBuffer) : device.val.size.toNat ≤ 57344 := by
  obtain ⟨b, hb⟩ := device
  cases hb with
  | send => exact show (1500 : ℕ) ≤ 57344 by decide
  | stash => exact show (3584 : ℕ) ≤ 57344 by decide
  | recv h => exact show (1500 : ℕ) ≤ 57344 by decide

section Returns

variable {source destination : AnyBuffer} {dest_start src_start len : UInt16} {s : Storage}

/-- A copy on the chip returns. -/
theorem copyOnChip_isSome (device deb : DeviceBuffer) :
    (copyOnChip device.val deb.val dest_start src_start len s).isSome := by
  unfold copyOnChip
  dsimp only
  generalize (if device.val.bufferStart + device.val.payloadPointer + src_start >
      device.val.bufferEnd ∧ device.val.wrap then
    device.val.bufferStart + device.val.payloadPointer + src_start - device.val.bufferEnd +
      device.val.bufferStart - 1
    else device.val.bufferStart + device.val.payloadPointer + src_start) = src_address
  split
  case isTrue => rfl
  case isFalse =>
    split
    case isTrue => rfl
    case isFalse hshort =>
      split
      case isTrue => rfl
      case isFalse =>
        rw [Option.isSome_map]
        exact ENC28J60Driver.copy_isSome _ _ _
          ((UInt16.le_iff_toNat_le.mp (UInt16.not_lt.mp hshort)).trans (size_device device))

/-- A copy between buffers that are no views is made at once. -/
theorem copyTo_isSome_of_roots (hs : source.getBufferType ≠ 2)
    (hd : destination.getBufferType ≠ 2) (calls : ℕ) :
    (source.copyTo (calls + 1) destination dest_start src_start len s).isSome := by
  cases source with
  | memBuffer root n =>
    rw [copyTo]
    rfl
  | offsetBuffer n off inner => exact absurd rfl hs
  | enc28j60Buffer device =>
    cases destination with
    | memBuffer root n =>
      rw [copyTo]
      rfl
    | offsetBuffer n off inner => exact absurd rfl hd
    | enc28j60Buffer deb =>
      rw [copyTo]
      exact copyOnChip_isSome device deb

/-- A copy out of a view goes on between the roots. -/
theorem copyTo_isSome_of_offset (hs : source.getBufferType = 2) (calls : ℕ) :
    (source.copyTo (calls + 2) destination dest_start src_start len s).isSome := by
  cases source with
  | memBuffer root n => exact absurd (show (1 : UInt8) = 2 from hs) (by decide)
  | enc28j60Buffer device => exact absurd (show (3 : UInt8) = 2 from hs) (by decide)
  | offsetBuffer n off inner =>
    have hroot := getBufferType_root (offsetBuffer n off inner)
    rw [copyTo]
    generalize (if len = 0 then n else len) = l
    split
    case isTrue => rfl
    case isFalse =>
      split
      case isTrue =>
        split
        case isTrue => rfl
        case isFalse => exact copyTo_isSome_of_roots hroot (getBufferType_root destination) calls
      case isFalse hd => exact copyTo_isSome_of_roots hroot hd calls

/-- A copy from the controller into a view goes back and forth for ever. -/
theorem copyTo_loops (hs : source.getBufferType = 3) (hd : destination.getBufferType = 2)
    (calls : ℕ) :
    source.copyTo calls destination dest_start src_start len s = none := by
  induction calls using Nat.strongRecOn generalizing len with
  | ind calls ih =>
    match calls with
    | 0 => rw [copyTo]
    | 1 =>
      cases source with
      | memBuffer root n => exact absurd (show (1 : UInt8) = 3 from hs) (by decide)
      | offsetBuffer n off inner => exact absurd (show (2 : UInt8) = 3 from hs) (by decide)
      | enc28j60Buffer device =>
        cases destination with
        | memBuffer root n => exact absurd (show (1 : UInt8) = 2 from hd) (by decide)
        | enc28j60Buffer deb => exact absurd (show (3 : UInt8) = 2 from hd) (by decide)
        | offsetBuffer n off inner =>
          rw [copyTo, copyFrom]
    | calls + 2 =>
      cases source with
      | memBuffer root n => exact absurd (show (1 : UInt8) = 3 from hs) (by decide)
      | offsetBuffer n off inner => exact absurd (show (2 : UInt8) = 3 from hs) (by decide)
      | enc28j60Buffer device =>
        cases destination with
        | memBuffer root n => exact absurd (show (1 : UInt8) = 2 from hd) (by decide)
        | enc28j60Buffer deb => exact absurd (show (3 : UInt8) = 2 from hd) (by decide)
        | offsetBuffer n off inner =>
          rw [copyTo, copyFrom]
          exact ih calls (by omega)

/-- A copy returns, asked of the source as of the destination, if and only if it is not one from
the controller into a view. -/
theorem returns_iff (source destination : AnyBuffer) (dest_start src_start len : UInt16)
    (s : Storage) :
    (Returns source destination dest_start src_start len s ↔
      ¬ (source.getBufferType = 3 ∧ destination.getBufferType = 2)) ∧
    (ReturnsFrom destination source dest_start src_start len s ↔
      ¬ (source.getBufferType = 3 ∧ destination.getBufferType = 2)) := by
  have hreturns : Returns source destination dest_start src_start len s ↔
      ¬ (source.getBufferType = 3 ∧ destination.getBufferType = 2) := by
    constructor
    · rintro ⟨calls, hcalls⟩ ⟨hs, hd⟩
      rw [copyTo_loops hs hd] at hcalls
      exact absurd hcalls (by decide)
    · intro hother
      by_cases hs : source.getBufferType = 2
      · exact ⟨2, copyTo_isSome_of_offset hs 0⟩
      · by_cases hd : destination.getBufferType = 2
        · cases source with
          | memBuffer root n => exact ⟨1, by rw [copyTo]; rfl⟩
          | enc28j60Buffer device => exact absurd ⟨rfl, hd⟩ hother
          | offsetBuffer n off inner => exact absurd rfl hs
        · exact ⟨1, copyTo_isSome_of_roots hs hd 0⟩
  refine ⟨hreturns, Iff.trans ⟨?_, ?_⟩ hreturns⟩
  · rintro ⟨calls, hcalls⟩
    cases calls with
    | zero =>
      rw [copyFrom] at hcalls
      exact absurd hcalls (by decide)
    | succ calls =>
      rw [copyFrom] at hcalls
      exact ⟨calls, hcalls⟩
  · rintro ⟨calls, hcalls⟩
    refine ⟨calls + 1, ?_⟩
    rw [copyFrom]
    exact hcalls

end Returns

/-- The stash of the controller is copied into a view of the send buffer: this never returns. -/
theorem stash_copyTo_loops :
    ¬ Returns (.enc28j60Buffer ⟨_, .stash⟩)
      (.offsetBuffer 1480 20 (.enc28j60Buffer ⟨_, .send⟩)) 0 0 100
      ⟨fun _ _ => 0, ⟨fun _ => 0, false⟩⟩ := by
  rintro ⟨calls, hcalls⟩
  rw [copyTo_loops rfl rfl] at hcalls
  exact absurd hcalls (by decide)

end AnyBuffer

end AtmegaNet
