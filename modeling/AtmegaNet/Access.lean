import Mathlib.Data.List.Basic
import AtmegaNet.Buffer

/-!
# The functions of the class `Buffer`

`Buffer.cpp` writes the typed accesses, the checksum and the copy over the virtual functions
`size`, `read` and `write`. Reading only needs the first two, so the reading functions take a
`View`: the sizes and bytes a buffer shows at one moment. A block of bytes that has been
received and is not written any more is a view as well (`viewOf`).

## Main results

* `View.Shows`: the view shows given bytes; `Buffer.shows` and `shows_viewOf` give them for a
  fitting buffer and for a received block, `View.Shows.readNet16` and its siblings read them.
* `View.checksum_congr`: views that show the same bytes, the checksum field apart, have the
  same checksum.
* `foldCarry_lt`: two rounds end the carry loop of `checksum`.
* `Buffer.copyTo_exact`: a copy between views of two storage areas moves exactly the bytes
  asked for, `Buffer.copyTo_short` a copy of too many bytes moves none.
-/

open Procedure

namespace AtmegaNet

/-- What a buffer shows: its size and its virtual function `read`. -/
structure View where
  size : UInt16
  read : UInt16 → UInt16 → Option Bytes

/-- The view of a buffer at the memory `m`. -/
def Buffer.view (b : Buffer) (m : Memory) : View where
  size := b.size
  read start len := b.read start len m

/-- The view of a block of bytes, bounds checked as `MemBuffer::read` does. -/
def viewOf (data : Bytes) : View where
  size := Buffer.lengthOf data
  read start len :=
    if start + len > Buffer.lengthOf data then none
    else some ((data.drop start.toNat).take len.toNat)

namespace View

/-- `Buffer::read8` -/
def read8 (v : View) (offset : UInt16) : Option UInt8 := (v.read offset 1).map (·.getD 0 0)

/-- `Buffer::read16` -/
def read16 (v : View) (offset : UInt16) : Option UInt16 := (v.read offset 2).map word16

/-- `Buffer::read32` -/
def read32 (v : View) (offset : UInt16) : Option UInt32 := (v.read offset 4).map word32

/-- `Buffer::readNet16` -/
def readNet16 (v : View) (offset : UInt16) : Option UInt16 := (v.read16 offset).map NTOHS

/-- `Buffer::readNet32` -/
def readNet32 (v : View) (offset : UInt16) : Option UInt32 := (v.read32 offset).map NTOHL

end View

/-- `while (sum >> 16) sum = (sum & 0xFFFF) + (sum >> 16)`, with a bound on the rounds that
`foldCarry_lt` shows to be large enough. -/
def foldCarry : ℕ → UInt32 → UInt32
  | 0, sum => sum
  | rounds + 1, sum =>
      if sum >>> 16 ≠ 0 then foldCarry rounds ((sum &&& (0xFFFF : UInt32)) + (sum >>> 16)) else sum

/-- The 16-bit word `checksum` adds at offset `i`: in network order, a last odd byte padded
with a zero byte. Neither read can fail, since `i < len ≤ size()`. -/
def View.checksumWord (v : View) (len i : UInt16) : UInt16 :=
  if i + 1 < len then (v.readNet16 i).getD 0
  else NTOHS ((v.read8 i).getD 0).toUInt16

/-- `Buffer::checksum`. The loop runs over the even offsets below `len`; its 16-bit counter
is enough for every buffer below 65535 bytes. -/
def View.checksum (v : View) (len checksum_offset : UInt16) (pseudo : UInt32) : UInt16 :=
  let len := if len > v.size then v.size else len
  let sum := (List.range ((len.toNat + 1) / 2)).foldl (fun sum k =>
    let i := UInt16.ofNat (2 * k)
    if i = checksum_offset then sum else sum + (v.checksumWord len i).toUInt32) pseudo
  (~~~ foldCarry 2 sum).toUInt16

namespace Buffer

/-- `Buffer::write8` -/
def write8 (b : Buffer) (offset : UInt16) (d : UInt8) : Proc Memory Unit := b.write offset [d]

/-- `Buffer::write16` -/
def write16 (b : Buffer) (offset : UInt16) (d : UInt16) : Proc Memory Unit :=
  b.write offset (bytesOf16 d)

/-- `Buffer::write32` -/
def write32 (b : Buffer) (offset : UInt16) (d : UInt32) : Proc Memory Unit :=
  b.write offset (bytesOf32 d)

/-- `Buffer::writeNet16` -/
def writeNet16 (b : Buffer) (offset : UInt16) (d : UInt16) : Proc Memory Unit :=
  b.write16 offset (HTONS d)

/-- `Buffer::writeNet32`. Its offset is a `uint32_t`, cut to 16 bits by `write32`. -/
def writeNet32 (b : Buffer) (offset : UInt32) (d : UInt32) : Proc Memory Unit :=
  b.write32 offset.toUInt16 (HTONL d)

/-- The loop of `Buffer::copyTo`, byte by byte in increasing order. -/
def copyBytes (source destination : Buffer) (dest_start src_start : UInt16) :
    ℕ → Proc Memory Unit
  | 0 => pure ()
  | n + 1 => do
      copyBytes source destination dest_start src_start n
      let d ← Proc.query fun m => (source.view m).read8 (src_start + UInt16.ofNat n)
      destination.write8 (dest_start + UInt16.ofNat n) d

/-- `Buffer::copyTo`, which `MemBuffer` inherits. -/
def copyToBase (source destination : Buffer) (dest_start src_start len : UInt16) :
    Proc Memory Unit :=
  let len :=
    if len = 0 then
      if destination.size < source.size then destination.size else source.size
    else len
  if src_start + len > source.size then Proc.fail
  else if dest_start + len > destination.size then Proc.fail
  else copyBytes source destination dest_start src_start len.toNat

/-- `OffsetBuffer::copyTo`; a `MemBuffer` copies by the function of the base class. -/
def copyTo (source destination : Buffer) (dest_start src_start len : UInt16) :
    Proc Memory Unit :=
  match source with
  | memBuffer _ _ => source.copyToBase destination dest_start src_start len
  | offsetBuffer _ _ _ =>
      let len := if len = 0 then source.size else len
      if len + src_start > source.size then Proc.fail
      else if destination.getBufferType = source.getBufferType then
        if len + dest_start > destination.size then Proc.fail
        else source.getRootBuffer.copyToBase destination.getRootBuffer
          (dest_start + destination.getRootBufferOffset)
          (src_start + source.getRootBufferOffset) len
      else source.getRootBuffer.copyToBase destination dest_start
        (src_start + source.getRootBufferOffset) len

/-- `Buffer::copyFrom`, `OffsetBuffer::copyFrom` -/
def copyFrom (destination source : Buffer) (dest_start src_start len : UInt16) :
    Proc Memory Unit :=
  source.copyTo destination dest_start src_start len

end Buffer

/-! ### The carry loop -/

theorem foldCarry_round (sum : UInt32) :
    ((sum &&& (0xFFFF : UInt32)) + (sum >>> 16)).toNat = sum.toNat % 65536 + sum.toNat / 65536 := by
  have h := sum.toNat_lt
  have hand : (sum &&& (0xFFFF : UInt32)).toNat = sum.toNat % 65536 := by
    simpa using Nat.and_two_pow_sub_one_eq_mod sum.toNat 16
  have hshift : (sum >>> 16).toNat = sum.toNat / 65536 := by
    simp [UInt32.toNat_shiftRight, Nat.shiftRight_eq_div_pow]
  rw [UInt32.toNat_add, hand, hshift]
  exact Nat.mod_eq_of_lt (by omega)

theorem shiftRight16_eq_zero {sum : UInt32} : sum >>> 16 = 0 ↔ sum.toNat < 65536 := by
  have hshift : (sum >>> 16).toNat = sum.toNat / 65536 := by
    simp [UInt32.toNat_shiftRight, Nat.shiftRight_eq_div_pow]
  rw [← UInt32.toNat_inj, hshift]
  simp only [UInt32.toNat_zero]
  omega

/-- Two rounds end the carry loop: more rounds would leave the same sum. -/
theorem foldCarry_lt (sum : UInt32) : (foldCarry 2 sum).toNat < 65536 := by
  have h := sum.toNat_lt
  by_cases h1 : sum >>> 16 = 0
  · have := shiftRight16_eq_zero.mp h1
    simp only [foldCarry, h1]
    simpa using this
  · rw [foldCarry, if_pos h1, foldCarry]
    have hr := foldCarry_round sum
    by_cases h2 : ((sum &&& (0xFFFF : UInt32)) + (sum >>> 16)) >>> 16 = 0
    · have := shiftRight16_eq_zero.mp h2
      simpa [h2] using this
    · rw [if_pos h2, foldCarry, foldCarry_round, hr]
      have := mt shiftRight16_eq_zero.mpr h2
      omega

/-! ### What a view shows -/

/-- Inside its first `n` bytes the view shows the bytes `f`. -/
def View.Shows (v : View) (f : ℕ → UInt8) (n : ℕ) : Prop :=
  ∀ i l : UInt16, i.toNat + l.toNat ≤ n →
    v.read i l = some ((List.range l.toNat).map fun j => f (i.toNat + j))

/-- A fitting buffer shows its window of the storage area. -/
theorem Buffer.shows {b : Buffer} (hb : b.Fits) (m : Memory) :
    (b.view m).Shows (fun i => m b.root (b.base + i)) b.size.toNat := by
  intro i l h
  have hsize := b.size.toNat_lt
  show b.read i l m = _
  rw [read_of_fits hb m (by omega), if_neg (by omega)]
  simp [Region.read, Nat.add_assoc]

/-- A block of bytes shows itself. -/
theorem shows_viewOf {data : Bytes} (h : data.length < 65536) :
    (viewOf data).Shows (fun i => data.getD i 0) data.length := by
  intro i l hin
  have hle : ¬ i + l > Buffer.lengthOf data := by
    rw [Buffer.bounds_iff (by omega), Buffer.toNat_lengthOf h]
    omega
  simp only [viewOf, if_neg hle]
  congr 1
  refine List.ext_getElem (by simp; omega) ?_
  intro j hj _
  have hij : i.toNat + j < data.length := by simp at hj; omega
  simp [List.getD_eq_getElem?_getD, hij]

namespace View.Shows

variable {v w : View} {f g : ℕ → UInt8} {n : ℕ} {i : UInt16}

theorem read8 (h : v.Shows f n) (hi : i.toNat + 1 ≤ n) : v.read8 i = some (f i.toNat) := by
  rw [View.read8, h i 1 (by simpa using hi)]
  simp

theorem read16 (h : v.Shows f n) (hi : i.toNat + 2 ≤ n) :
    v.read16 i = some (word16 [f i.toNat, f (i.toNat + 1)]) := by
  rw [View.read16, h i 2 (by simpa using hi)]
  simp [List.range_succ]

theorem readNet16 (h : v.Shows f n) (hi : i.toNat + 2 ≤ n) :
    v.readNet16 i = some (NTOHS (word16 [f i.toNat, f (i.toNat + 1)])) := by
  rw [View.readNet16, h.read16 hi]
  rfl

theorem readNet32 (h : v.Shows f n) (hi : i.toNat + 4 ≤ n) :
    v.readNet32 i = some (NTOHL (word32 [f i.toNat, f (i.toNat + 1), f (i.toNat + 2),
      f (i.toNat + 3)])) := by
  rw [View.readNet32, View.read32, h i 4 (by simpa using hi)]
  simp [List.range_succ]

/-- Two views that show the same bytes at a word give `checksum` the same summand. -/
theorem checksumWord_congr {len : UInt16} (hv : v.Shows f len.toNat)
    (hw : w.Shows g len.toNat) (hi : i.toNat < len.toNat) (h0 : f i.toNat = g i.toNat)
    (h1 : i.toNat + 1 < len.toNat → f (i.toNat + 1) = g (i.toNat + 1)) :
    v.checksumWord len i = w.checksumWord len i := by
  have hlen := len.toNat_lt
  have hadd : (i + 1).toNat = i.toNat + 1 := by
    rw [UInt16.toNat_add]
    exact Nat.mod_eq_of_lt (by simp; omega)
  have hlt : i + 1 < len ↔ i.toNat + 1 < len.toNat := by
    rw [UInt16.lt_iff_toNat_lt, hadd]
  unfold checksumWord
  by_cases hlast : i + 1 < len
  · have h2 := hlt.mp hlast
    rw [if_pos hlast, if_pos hlast, hv.readNet16 h2, hw.readNet16 h2, h0, h1 h2]
  · rw [if_neg hlast, if_neg hlast, hv.read8 hi, hw.read8 hi, h0]

/-- Only the bytes shown matter. -/
theorem congr (h : v.Shows f n) (hfg : ∀ i < n, f i = g i) : v.Shows g n := by
  intro i l hil
  rw [h i l hil]
  congr 1
  refine List.map_congr_left ?_
  intro j hj
  exact hfg _ (by have := List.mem_range.mp hj; omega)

/-- Fewer bytes are shown as well. -/
theorem mono (h : v.Shows f n) {k : ℕ} (hk : k ≤ n) : v.Shows f k :=
  fun i l hil => h i l (by omega)

end View.Shows

/-- A block written at the start of a fitting buffer is shown. -/
theorem Buffer.shows_write {b : Buffer} (hb : b.Fits) (m : Memory) {data : Bytes}
    (h : data.length ≤ b.size.toNat) :
    (b.view (Region.write m b.root b.base data)).Shows (fun i => data.getD i 0)
      data.length := by
  refine ((b.shows hb _).mono h).congr ?_
  intro i hi
  rw [Region.write_in m b.root b.base hi]
  simp [List.getD_eq_getElem?_getD, hi]

/-- Views that show the same `len` bytes have the same checksum; the two bytes of the
checksum field itself may differ. -/
theorem View.checksum_congr {v w : View} {f g : ℕ → UInt8} {len checksum_offset : UInt16}
    (pseudo : UInt32) (hv : len ≤ v.size) (hw : len ≤ w.size) (hfv : v.Shows f len.toNat)
    (hgw : w.Shows g len.toNat) (heven : checksum_offset.toNat % 2 = 0)
    (h : ∀ i < len.toNat, i ≠ checksum_offset.toNat → i ≠ checksum_offset.toNat + 1 →
      f i = g i) :
    v.checksum len checksum_offset pseudo = w.checksum len checksum_offset pseudo := by
  have hlen := len.toNat_lt
  unfold checksum
  rw [if_neg (UInt16.not_lt.mpr hv), if_neg (UInt16.not_lt.mpr hw)]
  dsimp only
  congr 3
  refine List.foldl_ext _ _ _ ?_
  intro sum k hk
  have hk2 : 2 * k < len.toNat := by
    have := List.mem_range.mp hk
    omega
  have hnat : (UInt16.ofNat (2 * k)).toNat = 2 * k := by
    simpa using Nat.mod_eq_of_lt (by omega : 2 * k < 65536)
  by_cases hskip : UInt16.ofNat (2 * k) = checksum_offset
  · rw [if_pos hskip, if_pos hskip]
  · have hne : 2 * k ≠ checksum_offset.toNat := by
      intro he
      exact hskip (UInt16.toNat_inj.mp (by rw [hnat, he]))
    rw [if_neg hskip, if_neg hskip, hfv.checksumWord_congr hgw (by rw [hnat]; exact hk2)]
    · rw [hnat]
      exact h _ hk2 hne (by omega)
    · rw [hnat]
      intro hlt
      exact h _ hlt (by omega) (by omega)

/-! ### Copies -/

namespace Buffer

theorem getRootBuffer_eq (b : Buffer) : b.getRootBuffer = .memBuffer b.root b.rootSize := by
  induction b with
  | memBuffer root n => rfl
  | offsetBuffer n off inner ih => exact ih

theorem toNat_add_ofNat {a : UInt16} {n : ℕ} (h : a.toNat + n < 65536) :
    (a + UInt16.ofNat n).toNat = a.toNat + n := by
  have hn : (UInt16.ofNat n).toNat = n := by
    simpa using Nat.mod_eq_of_lt (by omega : n < 65536)
  rw [UInt16.toNat_add, hn]
  exact Nat.mod_eq_of_lt (by omega)

/-- The copy loop between two storage areas: the first `n` bytes, as one block. -/
theorem copyBytes_exact {b d : Buffer} (hb : b.Fits) (hd : d.Fits) (hr : b.root ≠ d.root)
    {dest_start src_start : UInt16} (m : Memory) {n : ℕ}
    (hsrc : src_start.toNat + n ≤ b.size.toNat) (hdst : dest_start.toNat + n ≤ d.size.toNat) :
    (b.copyBytes d dest_start src_start n).run m =
      (some (), Region.write m d.root (d.base + dest_start.toNat)
        (Region.read m b.root (b.base + src_start.toNat) n)) := by
  have hb16 := b.size.toNat_lt
  have hd16 := d.size.toNat_lt
  induction n with
  | zero => simp [copyBytes]
  | succ n ih =>
      have hsn := toNat_add_ofNat (a := src_start) (n := n) (by omega)
      have hdn := toNat_add_ofNat (a := dest_start) (n := n) (by omega)
      have hread := fun m' => (shows hb m').read8 (i := src_start + UInt16.ofNat n)
        (by rw [hsn]; omega)
      rw [copyBytes, Proc.run_bind_of_some (ih (by omega) (by omega)),
        Proc.run_bind_of_some ((Proc.run_query _ _).trans (by rw [hread])), write8,
        write_of_fits hd _ (by simp [lengthOf, hdn]; omega),
        if_neg (by simp [lengthOf, hdn]; omega)]
      rw [Region.read_add, Region.write_append, Region.write_region _ hr, hsn, hdn]
      simp [Region.read, Nat.add_assoc]

/-- `Buffer::copyTo` between two storage areas. -/
theorem copyToBase_exact {b d : Buffer} (hb : b.Fits) (hd : d.Fits) (hr : b.root ≠ d.root)
    {dest_start src_start len : UInt16} (m : Memory) (hpos : len ≠ 0)
    (hsrc : src_start.toNat + len.toNat ≤ b.size.toNat)
    (hdst : dest_start.toNat + len.toNat ≤ d.size.toNat) :
    (b.copyToBase d dest_start src_start len).run m =
      (some (), Region.write m d.root (d.base + dest_start.toNat)
        (Region.read m b.root (b.base + src_start.toNat) len.toNat)) := by
  have hb16 := b.size.toNat_lt
  have hd16 := d.size.toNat_lt
  unfold copyToBase
  rw [if_neg hpos]
  dsimp only
  rw [if_neg (by rw [bounds_iff (by omega)]; omega),
    if_neg (by rw [bounds_iff (by omega)]; omega)]
  exact copyBytes_exact hb hd hr m hsrc hdst

theorem size_root (b : Buffer) : b.getRootBuffer.size = b.rootSize := by
  rw [getRootBuffer_eq, size]

/-- A copy between buffers of two storage areas moves exactly the bytes asked for, through
the shortcut of `OffsetBuffer` as well. -/
theorem copyTo_exact {b d : Buffer} (hb : b.Fits) (hd : d.Fits) (hr : b.root ≠ d.root)
    {dest_start src_start len : UInt16} (m : Memory) (hpos : len ≠ 0)
    (hsrc : src_start.toNat + len.toNat ≤ b.size.toNat)
    (hdst : dest_start.toNat + len.toNat ≤ d.size.toNat) :
    (b.copyTo d dest_start src_start len).run m =
      (some (), Region.write m d.root (d.base + dest_start.toNat)
        (Region.read m b.root (b.base + src_start.toNat) len.toNat)) := by
  have hb16 := b.size.toNat_lt
  have hd16 := d.size.toNat_lt
  have hbroot := base_add_size_le hb
  have hdroot := base_add_size_le hd
  have hrb16 := b.rootSize.toNat_lt
  have hrd16 := d.rootSize.toNat_lt
  have hsrcOff : (src_start + b.getRootBufferOffset).toNat = src_start.toNat + b.base := by
    rw [UInt16.toNat_add, toNat_getRootBufferOffset hb]
    exact Nat.mod_eq_of_lt (by omega)
  have hdstOff : (dest_start + d.getRootBufferOffset).toNat = dest_start.toNat + d.base := by
    rw [UInt16.toNat_add, toNat_getRootBufferOffset hd]
    exact Nat.mod_eq_of_lt (by omega)
  have hsrcRoot : (src_start + b.getRootBufferOffset).toNat + len.toNat ≤
      (memBuffer b.root b.rootSize).size.toNat := by
    rw [hsrcOff, size]
    omega
  have hdstRoot : (dest_start + d.getRootBufferOffset).toNat + len.toNat ≤
      (memBuffer d.root d.rootSize).size.toNat := by
    rw [hdstOff, size]
    omega
  -- the two calls `OffsetBuffer::copyTo` can end in, on the roots
  have hmem : ((memBuffer b.root b.rootSize).copyToBase d dest_start
      (src_start + b.getRootBufferOffset) len).run m =
        (some (), Region.write m d.root (d.base + dest_start.toNat)
          (Region.read m b.root (b.base + src_start.toNat) len.toNat)) := by
    rw [copyToBase_exact (b := memBuffer b.root b.rootSize) trivial hd hr m hpos hsrcRoot hdst,
      hsrcOff, Nat.add_comm src_start.toNat]
    simp only [root, base, Nat.zero_add]
  have hroots : ((memBuffer b.root b.rootSize).copyToBase (memBuffer d.root d.rootSize)
      (dest_start + d.getRootBufferOffset) (src_start + b.getRootBufferOffset) len).run m =
        (some (), Region.write m d.root (d.base + dest_start.toNat)
          (Region.read m b.root (b.base + src_start.toNat) len.toNat)) := by
    rw [copyToBase_exact (b := memBuffer b.root b.rootSize) (d := memBuffer d.root d.rootSize)
      trivial trivial hr m hpos hsrcRoot hdstRoot, hsrcOff, hdstOff,
      Nat.add_comm src_start.toNat, Nat.add_comm dest_start.toNat]
    simp only [root, base, Nat.zero_add]
  cases b with
  | memBuffer r n => exact copyToBase_exact hb hd hr m hpos hsrc hdst
  | offsetBuffer n off inner =>
      have hn : (offsetBuffer n off inner).size = n := rfl
      have hin : ¬ len + src_start > n := by
        rw [hn] at hsrc hb16
        rw [UInt16.add_comm, bounds_iff (by omega)]
        omega
      unfold copyTo
      rw [hn]
      dsimp only
      rw [if_neg hpos, if_neg hin, getRootBuffer_eq]
      cases d with
      | memBuffer r' n' =>
          rw [if_neg (by simp [getBufferType])]
          exact hmem
      | offsetBuffer n' off' inner' =>
          have hn' : (offsetBuffer n' off' inner').size = n' := rfl
          have hin' : ¬ len + dest_start > n' := by
            rw [hn'] at hdst hd16
            rw [UInt16.add_comm, bounds_iff (by omega)]
            omega
          have htype : (offsetBuffer n' off' inner').getBufferType =
              (offsetBuffer n off inner).getBufferType := rfl
          rw [hn', if_pos htype, if_neg hin', getRootBuffer_eq]
          exact hroots

/-- A copy out of a view that is too short moves nothing. -/
theorem copyTo_short {n off : UInt16} {inner d : Buffer} {dest_start len : UInt16}
    (m : Memory) (hpos : len ≠ 0) (h : n < len) :
    ((Buffer.offsetBuffer n off inner).copyTo d dest_start 0 len).run m = (none, m) := by
  unfold copyTo
  dsimp only
  rw [if_neg hpos, if_pos (by simpa [size] using h), Proc.run_fail]

end Buffer

end AtmegaNet
