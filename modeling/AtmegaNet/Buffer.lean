import Mathlib.Tactic.Ring
import AtmegaNet.Lib.Proc
import AtmegaNet.Host

/-!
# Buffers and views

A `Buffer` is a `MemBuffer` over a storage area of its own, or an `OffsetBuffer`: a window
onto another buffer. The object only holds sizes and offsets; the bytes live in a memory
with one region per storage area, so that two views of one area see each other's writes.
All offsets and lengths are `uint16_t`, and the AVR target adds them in 16 bits.

`Buffer.read` and `Buffer.write` are the virtual functions of the class, and
`OffsetBuffer.reinit` computes the window of a view.

## Main results

* `Buffer.Fits`: every window of the tower lies inside the buffer below it. Every view
  `OffsetBuffer.reinit` makes over a fitting buffer fits (`OffsetBuffer.fits_reinit`).
* `Buffer.read_of_fits`, `Buffer.write_of_fits`: on a fitting buffer an access whose bounds do
  not wrap around succeeds exactly inside the window, and touches exactly the bytes of the
  storage area it names.
* `Buffer.read_isSome`, `Buffer.write_isSome`: every access is judged by the 16-bit sum of
  its bounds, the outermost verdict stands.
-/

open Procedure

namespace AtmegaNet

/-- The storage areas a buffer can be rooted in: the driver's send and receive buffers,
the outbound buffer given to `TCPHandler`, and any other. -/
inductive Root
  | send
  | receive
  | outbound
  | other (n : ℕ)
  deriving DecidableEq, Repr

/-- The contents of all storage areas. -/
abbrev Memory := Region.Memory Root UInt8

/-- A buffer object: a `MemBuffer` of a given size, or an `OffsetBuffer` with its length,
its offset, and the buffer it looks into. -/
inductive Buffer
  | memBuffer (root : Root) (bufferLength : UInt16)
  | offsetBuffer (bufferLength offset : UInt16) (innerBuffer : Buffer)
  deriving DecidableEq, Repr

namespace Buffer

/-- `MemBuffer::size`, `OffsetBuffer::size` -/
def size : Buffer → UInt16
  | memBuffer _ bufferLength => bufferLength
  | offsetBuffer bufferLength _ _ => bufferLength

@[simp] theorem size_memBuffer (r : Root) (n : UInt16) : (memBuffer r n).size = n := rfl

@[simp] theorem size_offsetBuffer (n off : UInt16) (inner : Buffer) :
    (offsetBuffer n off inner).size = n := rfl

/-- `MemBuffer::BufferType` is 1, `OffsetBuffer::BufferType` is 2. -/
def getBufferType : Buffer → UInt8
  | memBuffer _ _ => 1
  | offsetBuffer _ _ _ => 2

/-- The length argument of an access that hands over `data`. -/
def lengthOf (data : Bytes) : UInt16 := UInt16.ofNat data.length

/-- `MemBuffer::read` and `OffsetBuffer::read`: the bytes read, or `none` for false. The
sum of the bounds check and the offset handed down are 16-bit. -/
def read : Buffer → UInt16 → UInt16 → Memory → Option Bytes
  | memBuffer root bufferLength, start, len, m =>
      if start + len > bufferLength then none
      else some (Region.read m root start.toNat len.toNat)
  | offsetBuffer bufferLength offset innerBuffer, start, len, m =>
      if start + len > bufferLength then none else innerBuffer.read (offset + start) len m

/-- `MemBuffer::write` and `OffsetBuffer::write` -/
def write : Buffer → UInt16 → Bytes → Proc Memory Unit
  | memBuffer root bufferLength, start, data =>
      ⟨fun m =>
        if start + lengthOf data > bufferLength then (none, m)
        else (some (), Region.write m root start.toNat data)⟩
  | offsetBuffer bufferLength offset innerBuffer, start, data =>
      if start + lengthOf data > bufferLength then Proc.fail
      else innerBuffer.write (offset + start) data

/-- `OffsetBuffer::getRootBuffer`; a `MemBuffer` is its own root. -/
def getRootBuffer : Buffer → Buffer
  | memBuffer root bufferLength => memBuffer root bufferLength
  | offsetBuffer _ _ innerBuffer => innerBuffer.getRootBuffer

/-- `OffsetBuffer::getRootBufferOffset`; a `MemBuffer` starts at 0. -/
def getRootBufferOffset : Buffer → UInt16
  | memBuffer _ _ => 0
  | offsetBuffer _ offset innerBuffer => innerBuffer.getRootBufferOffset + offset

/-- The storage area under a buffer. -/
def root : Buffer → Root
  | memBuffer root _ => root
  | offsetBuffer _ _ innerBuffer => innerBuffer.root

/-- Where a buffer starts in its storage area, as a natural number. -/
def base : Buffer → ℕ
  | memBuffer _ _ => 0
  | offsetBuffer _ offset innerBuffer => innerBuffer.base + offset.toNat

/-- The size of the storage area under a buffer. -/
def rootSize : Buffer → UInt16
  | memBuffer _ bufferLength => bufferLength
  | offsetBuffer _ _ innerBuffer => innerBuffer.rootSize

/-- Every window of the tower lies inside the buffer below it. -/
def Fits : Buffer → Prop
  | memBuffer _ _ => True
  | offsetBuffer bufferLength offset innerBuffer =>
      offset.toNat + bufferLength.toNat ≤ innerBuffer.size.toNat ∧ innerBuffer.Fits

/-- The bytes visible through a buffer. -/
def contents (b : Buffer) (m : Memory) : Bytes := Region.read m b.root b.base b.size.toNat

end Buffer

/-- `OffsetBuffer::reinit`, which the constructor calls as well: the view it leaves. A
length of 0 stands for the rest of the buffer, and so does one that is too long. Nothing reads
the value it returns, which says whether the view is the one that was asked for. -/
def OffsetBuffer.reinit (buffer : Buffer) (offset : UInt16) (length : UInt16) : Buffer :=
  let offset := if offset > buffer.size then buffer.size else offset
  let rest := buffer.size - offset
  if length > 0 ∧ length < rest then .offsetBuffer length offset buffer
  else .offsetBuffer rest offset buffer

namespace OffsetBuffer

/-- The window of a view over a buffer it fits into. -/
theorem fits_reinit {b : Buffer} (hb : b.Fits) (offset length : UInt16) :
    (reinit b offset length).Fits := by
  unfold reinit
  by_cases ho : offset > b.size
  · simp only [ho, if_true, UInt16.sub_self]
    split <;> simp_all [Buffer.Fits]
  · have ho' : offset.toNat ≤ b.size.toNat := by
      rw [gt_iff_lt, UInt16.not_lt, UInt16.le_iff_toNat_le] at ho
      exact ho
    have hsub : (b.size - offset).toNat = b.size.toNat - offset.toNat :=
      UInt16.toNat_sub_of_le _ _ (UInt16.le_iff_toNat_le.mpr ho')
    simp only [ho, if_false]
    split
    · next h =>
        have := UInt16.lt_iff_toNat_lt.mp h.2
        exact ⟨by omega, hb⟩
    · exact ⟨by omega, hb⟩

/-- A view of the rest of the buffer from an offset inside it on. -/
theorem reinit_zero {b : Buffer} {offset : UInt16} (ho : offset ≤ b.size) :
    reinit b offset 0 = .offsetBuffer (b.size - offset) offset b := by
  have : ¬ offset > b.size := UInt16.not_lt.mpr ho
  simp [reinit, this]

@[simp] theorem root_reinit (b : Buffer) (offset length : UInt16) :
    (reinit b offset length).root = b.root := by
  unfold reinit
  dsimp only
  split <;> split <;> rfl

/-- A view of the rest of a buffer is as long as what is left of it. -/
theorem toNat_size_reinit_zero (b : Buffer) (offset : UInt16) :
    (reinit b offset 0).size.toNat = b.size.toNat - offset.toNat := by
  unfold reinit
  by_cases ho : offset > b.size
  · have := UInt16.lt_iff_toNat_lt.mp ho
    simp only [ho, if_true, UInt16.sub_self]
    simp
    omega
  · have ho' := UInt16.not_lt.mp ho
    simp only [ho, if_false]
    simp [UInt16.toNat_sub_of_le _ _ ho']

/-- A view at an offset inside the buffer starts there. -/
theorem base_reinit_of_le (b : Buffer) {offset : UInt16} (length : UInt16)
    (ho : offset ≤ b.size) : (reinit b offset length).base = b.base + offset.toNat := by
  have : ¬ offset > b.size := UInt16.not_lt.mpr ho
  unfold reinit
  simp only [this, if_false]
  split <;> rfl

theorem base_reinit_le (b : Buffer) (offset length : UInt16) :
    (reinit b offset length).base ≤ b.base + offset.toNat := by
  by_cases ho : offset ≤ b.size
  · exact (base_reinit_of_le b length ho).le
  · have hlt : offset > b.size := UInt16.not_le.mp ho
    have hle := UInt16.le_iff_toNat_le.mp (UInt16.le_of_lt hlt)
    unfold reinit
    simp only [hlt, if_true]
    split <;> exact Nat.add_le_add_left hle b.base

end OffsetBuffer

/-! ### Bounds of an access -/

namespace Buffer

@[simp] theorem toNat_lengthOf {data : Bytes} (h : data.length < 65536) :
    (lengthOf data).toNat = data.length := by
  simp [lengthOf, Nat.mod_eq_of_lt h]

/-- The 16-bit bounds check of an access that does not wrap around. -/
theorem bounds_iff {start len n : UInt16} (h : start.toNat + len.toNat < 65536) :
    start + len > n ↔ n.toNat < start.toNat + len.toNat := by
  rw [gt_iff_lt, UInt16.lt_iff_toNat_lt, UInt16.toNat_add, Nat.mod_eq_of_lt h]

/-- The 16-bit bounds check of an access that wraps around. -/
theorem bounds_iff_of_wrap {start len n : UInt16} (h : 65536 ≤ start.toNat + len.toNat) :
    start + len > n ↔ n.toNat + 65536 < start.toNat + len.toNat := by
  have hs := start.toNat_lt
  have hl := len.toNat_lt
  rw [gt_iff_lt, UInt16.lt_iff_toNat_lt, UInt16.toNat_add]
  omega

theorem base_add_size_le {b : Buffer} (hb : b.Fits) :
    b.base + b.size.toNat ≤ b.rootSize.toNat := by
  induction b with
  | memBuffer root n => simp [base, size, rootSize]
  | offsetBuffer n off inner ih =>
      have := ih hb.2
      have := hb.1
      simp only [base, size, rootSize]
      omega

/-- The root offset of a fitting buffer does not wrap around. -/
theorem toNat_getRootBufferOffset {b : Buffer} (hb : b.Fits) :
    b.getRootBufferOffset.toNat = b.base := by
  induction b with
  | memBuffer root n => rfl
  | offsetBuffer n off inner ih =>
      have h1 := base_add_size_le hb.2
      have h2 := hb.1
      have h3 := inner.rootSize.toNat_lt
      rw [getRootBufferOffset, UInt16.toNat_add, ih hb.2, base]
      exact Nat.mod_eq_of_lt (by omega)

/-- A write leaves the same verdict and memory however deep the view is: its address is
carried down the tower. -/
theorem write_of_fits {b : Buffer} (hb : b.Fits) {start : UInt16} {data : Bytes}
    (m : Memory) (h : start.toNat + (lengthOf data).toNat < 65536) :
    (b.write start data).run m =
      if b.size.toNat < start.toNat + (lengthOf data).toNat then (none, m)
      else (some (), Region.write m b.root (b.base + start.toNat) data) := by
  induction b generalizing start with
  | memBuffer root n =>
      have hn : (memBuffer root n).size = n := rfl
      rw [hn, write]
      dsimp only
      by_cases hin : n.toNat < start.toNat + (lengthOf data).toNat
      · rw [if_pos hin, if_pos ((bounds_iff h).mpr hin)]
      · rw [if_neg hin, if_neg (mt (bounds_iff h).mp hin), base, Nat.zero_add, Buffer.root]
  | offsetBuffer n off inner ih =>
      have hn : (offsetBuffer n off inner).size = n := rfl
      rw [hn, write]
      by_cases hin : n.toNat < start.toNat + (lengthOf data).toNat
      · rw [if_pos hin, if_pos ((bounds_iff h).mpr hin), Proc.run_fail]
      · -- the sum handed down cannot wrap: the inner bound caps it
        have h1 := hb.1
        have h2 := inner.size.toNat_lt
        have hadd : (off + start).toNat = off.toNat + start.toNat := by
          rw [UInt16.toNat_add]
          exact Nat.mod_eq_of_lt (by omega)
        rw [if_neg hin, if_neg (mt (bounds_iff h).mp hin), ih hb.2 (by omega), hadd,
          if_neg (by omega), base, Buffer.root, Nat.add_assoc]

/-- A write inside a fitting view. -/
theorem write_fits {b : Buffer} (hb : b.Fits) {start : UInt16} {data : Bytes} (m : Memory)
    (h : start.toNat + data.length ≤ b.size.toNat) :
    (b.write start data).run m =
      (some (), Region.write m b.root (b.base + start.toNat) data) := by
  have h16 := b.size.toNat_lt
  have hlen : (lengthOf data).toNat = data.length := toNat_lengthOf (by omega)
  rw [write_of_fits hb m (by omega), if_neg (by omega)]

/-- A read on a fitting view: exactly the bytes of the window, or nothing. -/
theorem read_of_fits {b : Buffer} (hb : b.Fits) {start len : UInt16} (m : Memory)
    (h : start.toNat + len.toNat < 65536) :
    b.read start len m =
      if b.size.toNat < start.toNat + len.toNat then none
      else some (Region.read m b.root (b.base + start.toNat) len.toNat) := by
  induction b generalizing start with
  | memBuffer root n =>
      have hn : (memBuffer root n).size = n := rfl
      rw [hn, read]
      by_cases hin : n.toNat < start.toNat + len.toNat
      · rw [if_pos hin, if_pos ((bounds_iff h).mpr hin)]
      · rw [if_neg hin, if_neg (mt (bounds_iff h).mp hin), base, Nat.zero_add, Buffer.root]
  | offsetBuffer n off inner ih =>
      have hn : (offsetBuffer n off inner).size = n := rfl
      rw [hn, read]
      by_cases hin : n.toNat < start.toNat + len.toNat
      · rw [if_pos hin, if_pos ((bounds_iff h).mpr hin)]
      · have h1 := hb.1
        have h2 := inner.size.toNat_lt
        have hadd : (off + start).toNat = off.toNat + start.toNat := by
          rw [UInt16.toNat_add]
          exact Nat.mod_eq_of_lt (by omega)
        rw [if_neg hin, if_neg (mt (bounds_iff h).mp hin), ih hb.2 (by omega), hadd,
          if_neg (by omega), base, Buffer.root, Nat.add_assoc]

/-- When the bounds of an access wrap around, every layer of a fitting tower judges it by
the wrapped sum: the outermost verdict stands. -/
theorem bounds_of_wrap {n off k : UInt16} {start len : UInt16}
    (hfit : off.toNat + n.toNat ≤ k.toNat) (hin : ¬ start + len > n) :
    ¬ off + start + len > k := by
  have h1 := off.toNat_lt
  have h2 := k.toNat_lt
  rw [gt_iff_lt, UInt16.not_lt, UInt16.le_iff_toNat_le] at hin ⊢
  rw [show off + start + len = off + (start + len) from UInt16.add_assoc _ _ _,
    UInt16.toNat_add]
  omega

/-- A read on a fitting view succeeds exactly when the 16-bit sum of its bounds is inside. -/
theorem read_isSome {b : Buffer} (hb : b.Fits) (start len : UInt16) (m : Memory) :
    (b.read start len m).isSome ↔ ¬ start + len > b.size := by
  induction b generalizing start with
  | memBuffer root n =>
      rw [show (memBuffer root n).size = n from rfl, read]
      by_cases hin : start + len > n <;> simp [hin]
  | offsetBuffer n off inner ih =>
      rw [show (offsetBuffer n off inner).size = n from rfl, read]
      by_cases hin : start + len > n
      · simp [hin]
      · rw [if_neg hin, ih hb.2]
        exact iff_of_true (bounds_of_wrap hb.1 hin) hin

/-- A write on a fitting view succeeds exactly when the 16-bit sum of its bounds is inside. -/
theorem write_isSome {b : Buffer} (hb : b.Fits) (start : UInt16) (data : Bytes)
    (m : Memory) :
    ((b.write start data).run m).1.isSome ↔ ¬ start + lengthOf data > b.size := by
  induction b generalizing start with
  | memBuffer root n =>
      rw [show (memBuffer root n).size = n from rfl, write]
      by_cases hin : start + lengthOf data > n <;> simp [hin]
  | offsetBuffer n off inner ih =>
      rw [show (offsetBuffer n off inner).size = n from rfl, write]
      by_cases hin : start + lengthOf data > n
      · simp [hin]
      · rw [if_neg hin, ih hb.2]
        exact iff_of_true (bounds_of_wrap hb.1 hin) hin

/-- A write that returns false has changed nothing. -/
theorem write_of_eq_none (b : Buffer) (start : UInt16) (data : Bytes) (m : Memory)
    (h : ((b.write start data).run m).1 = none) : ((b.write start data).run m).2 = m := by
  induction b generalizing start with
  | memBuffer root n =>
      rw [write] at h ⊢
      by_cases hin : start + lengthOf data > n <;> simp_all
  | offsetBuffer n off inner ih =>
      rw [write] at h ⊢
      by_cases hin : start + lengthOf data > n
      · rw [if_pos hin, Proc.run_fail]
      · rw [if_neg hin] at h ⊢
        exact ih (off + start) h

end Buffer

end AtmegaNet
