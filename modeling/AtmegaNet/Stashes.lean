import Mathlib.Order.CompletePartialOrder
import AtmegaNet.TCPHandler

/-!
# The stashes of the TCP handler

`TCPHandler` cuts the outbound buffer into one stash for each of its slots: the number of bytes
that a segment can have as payload, divided by the number of slots. `OffsetBuffer` takes a length
of 0 for the rest of the buffer. So when there are more slots than bytes, and the quotient is 0,
every stash is the whole buffer.

## Main results

* `Partition`: the stashes lie in the buffer, are disjoint, and have the size intended.
* `Separate`: a write through one of them is not visible through another.
* `new_partition_iff`: when the constructor makes such stashes, and for which writes.
-/

open Procedure

namespace AtmegaNet

/-! ### Blocks that are not seen -/

/-- A write is not seen through a block, whatever the memory holds, if and only if it does not
meet the block. -/
theorem read_write_eq_iff {r : Root} {a b n : ℕ} {d : Bytes} :
    (∀ m : Memory, Region.read (Region.write m r a d) r b n = Region.read m r b n) ↔
      n = 0 ∨ d = [] ∨ a + d.length ≤ b ∨ b + n ≤ a := by
  constructor
  · intro hsame
    by_contra hmeet
    obtain ⟨hn, hmeet⟩ := not_or.mp hmeet
    obtain ⟨hd, hmeet⟩ := not_or.mp hmeet
    have hpos : 0 < d.length := List.length_pos_iff.mpr hd
    -- the first cell that the write and the block share
    obtain ⟨i, hi, k, hk, haddr⟩ : ∃ i < n, ∃ k, ∃ _ : k < d.length, b + i = a + k := by
      by_cases hab : a ≤ b
      · exact ⟨0, by omega, b - a, by omega, by omega⟩
      · exact ⟨a - b, by omega, 0, hpos, by omega⟩
    have hcell := congrArg (fun l => l[i]?) (hsame fun _ _ => d[k] + 1)
    simp only [Region.read, List.getElem?_map, List.getElem?_range hi, Option.map_some, haddr,
      Region.write_in _ r a hk, Option.some.injEq] at hcell
    have hne : ∀ x : UInt8, x ≠ x + 1 := forall_uint8 (by decide +kernel)
    exact hne _ hcell
  · intro hmiss m
    rcases hmiss with rfl | rfl | hmiss
    · rfl
    · rw [Region.write_nil]
    · exact Region.read_write_disjoint m r r (by omega)

/-- A view that ends at the end of the buffer at the latest has the length asked for. -/
theorem reinit_of_le {b : Buffer} {offset length : UInt16} (ho : offset ≤ b.size)
    (hpos : 0 < length) (hle : length ≤ b.size - offset) :
    OffsetBuffer.reinit b offset length = .offsetBuffer length offset b := by
  have hclip : ¬ offset > b.size := UInt16.not_lt.mpr ho
  unfold OffsetBuffer.reinit
  simp only [hclip, if_false]
  split
  case isTrue => rfl
  case isFalse hlong =>
    have hge : b.size - offset ≤ length := UInt16.not_lt.mp fun hlt => hlong ⟨hpos, hlt⟩
    rw [UInt16.le_antisymm hge hle]

namespace TCPHandler

/-! ### What the stashes should be -/

/-- The addresses that the stash of slot `i` shows. -/
def stashRange (tcp : TCPHandler) (h : Stack) (i : ℕ) : Set ℕ :=
  Set.Ico (tcp.stashBuffer h i).base
    ((tcp.stashBuffer h i).base + (tcp.stashBuffer h i).size.toNat)

/-- The stashes are a partition of the first bytes of the outbound buffer into blocks of the size
intended. -/
structure Partition (tcp : TCPHandler) (h : Stack) (capacity : ℕ) : Prop where
  inside : ∀ i < capacity, (tcp.stashBuffer h i).root = .outbound ∧
    (tcp.stashBuffer h i).base + (tcp.stashBuffer h i).size.toNat ≤ h.outboundSize.toNat
  disjoint : ∀ i < capacity, ∀ j < capacity, i ≠ j →
    Disjoint (tcp.stashRange h i) (tcp.stashRange h j)
  size : ∀ i < capacity, ((tcp.stashBuffer h i).size.toNat : ℤ) =
    min (h.outboundSize.toNat : ℤ) (h.ipPayload.size.toNat - 20) / capacity

/-- A write through the stash of one slot changes no byte visible through another's. -/
def Separate (tcp : TCPHandler) (h : Stack) (capacity : ℕ) (start : UInt16) (data : Bytes) : Prop :=
  ∀ i < capacity, ∀ j < capacity, i ≠ j → ∀ m : Memory,
    (tcp.stashBuffer h j).contents (((tcp.stashBuffer h i).write start data).run m).2 =
      (tcp.stashBuffer h j).contents m

/-! ### When they are -/

/-- The number of bytes that are divided. -/
def stashable (h : Stack) : ℕ := min h.outboundSize.toNat (h.ipPayload.size.toNat - 20)

/-- There is room for a TCP header, and a byte for each slot or no byte at all. -/
structure Divisible (h : Stack) (capacity : ℕ) : Prop where
  header : 20 ≤ h.ipPayload.size.toNat
  share : h.outboundSize = 0 ∨ capacity ≤ stashable h

/-- A write of `n` bytes whose bounds stay below 65536, or are refused in spite of the overflow.
One of a single stash meets no other, and neither does one that begins behind all of them when
there is no stash so far behind that the overflow leads back. -/
def Harmless (size capacity start n : ℕ) : Prop :=
  capacity = 1 ∨ start + n < 65536 ∨ 65536 + size < start + n ∨
    size * capacity ≤ start ∧ start + size * (capacity - 1) < 65536

section Stashes

variable {h : Stack} {number : ℕ} {socketCapacity : UInt8}

variable (socketCapacity) in
/-- The length of a stash, where a TCP header fits. -/
theorem toNat_stashLength (hheader : 20 ≤ h.ipPayload.size.toNat) :
    (stashLength socketCapacity h).toNat = stashable h / socketCapacity.toNat := by
  have hrest : (h.ipPayload.size - Socket.TCP_HEADER_LENGTH).toNat =
      h.ipPayload.size.toNat - 20 :=
    UInt16.toNat_sub_of_le _ _ (UInt16.le_iff_toNat_le.mpr hheader)
  unfold stashLength stashable
  dsimp only
  rw [UInt16.toNat_div, UInt8.toNat_toUInt16]
  congr 1
  split
  case isTrue hgt =>
    have hlt := UInt16.lt_iff_toNat_lt.mp hgt
    omega
  case isFalse hle =>
    have hle := UInt16.le_iff_toNat_le.mp (UInt16.not_lt.mp hle)
    omega

variable (socketCapacity) in
/-- All slots together do not take more than there is. -/
theorem stashes_le (h : Stack) :
    (stashLength socketCapacity h).toNat * socketCapacity.toNat ≤ h.outboundSize.toNat := by
  have hle : (if h.outboundSize > h.ipPayload.size - Socket.TCP_HEADER_LENGTH then
      h.ipPayload.size - Socket.TCP_HEADER_LENGTH else h.outboundSize) ≤ h.outboundSize := by
    split
    case isTrue hgt => exact UInt16.le_of_lt hgt
    case isFalse => exact UInt16.le_refl _
  unfold stashLength
  dsimp only
  rw [UInt16.toNat_div, UInt8.toNat_toUInt16]
  exact Nat.le_trans (Nat.div_mul_le_self _ _) (UInt16.le_iff_toNat_le.mp hle)

variable (number) in
/-- The stash of a slot, where each has at least one byte. -/
theorem stashBuffer_of_pos (hpos : 0 < (stashLength socketCapacity h).toNat) {i : ℕ}
    (hi : i < socketCapacity.toNat) :
    ∃ offset : UInt16, offset.toNat = (stashLength socketCapacity h).toNat * i ∧
      (new number socketCapacity h).1.stashBuffer h i =
        .offsetBuffer (stashLength socketCapacity h) offset
          (.memBuffer .outbound h.outboundSize) := by
  have hall := stashes_le socketCapacity h
  have hslot : (stashLength socketCapacity h).toNat * (i + 1) ≤
      (stashLength socketCapacity h).toNat * socketCapacity.toNat := Nat.mul_le_mul_left _ hi
  have h16 := h.outboundSize.toNat_lt
  have hmul : (stashLength socketCapacity h).toNat * (i + 1) =
      (stashLength socketCapacity h).toNat * i + (stashLength socketCapacity h).toNat := by ring
  have hnat : (UInt16.ofNat i).toNat = i := by
    have hcap := socketCapacity.toNat_lt
    simpa using Nat.mod_eq_of_lt (by omega : i < 65536)
  have hoffset : (stashLength socketCapacity h * UInt16.ofNat i).toNat =
      (stashLength socketCapacity h).toNat * i := by
    rw [UInt16.toNat_mul, hnat]
    exact Nat.mod_eq_of_lt (by omega)
  refine ⟨stashLength socketCapacity h * UInt16.ofNat i, hoffset, ?_⟩
  have hle : stashLength socketCapacity h * UInt16.ofNat i ≤ h.outboundSize := by
    rw [UInt16.le_iff_toNat_le, hoffset]
    omega
  have hrest : (h.outboundSize - stashLength socketCapacity h * UInt16.ofNat i).toNat =
      h.outboundSize.toNat - (stashLength socketCapacity h).toNat * i := by
    rw [UInt16.toNat_sub_of_le _ _ hle, hoffset]
  have hfits : stashLength socketCapacity h ≤
      h.outboundSize - stashLength socketCapacity h * UInt16.ofNat i := by
    rw [UInt16.le_iff_toNat_le, hrest]
    omega
  exact reinit_of_le (b := .memBuffer .outbound h.outboundSize) hle
    (UInt16.lt_iff_toNat_lt.mpr hpos) hfits

variable (number) in
/-- Where the quotient is 0, the stash of every slot is the whole outbound buffer. -/
theorem stashBuffer_of_zero (hzero : (stashLength socketCapacity h).toNat = 0) (i : ℕ) :
    (new number socketCapacity h).1.stashBuffer h i =
      .offsetBuffer h.outboundSize 0 (.memBuffer .outbound h.outboundSize) := by
  have hlength : stashLength socketCapacity h = 0 := UInt16.toNat_inj.mp hzero
  unfold stashBuffer new
  dsimp only
  rw [hlength, UInt16.zero_mul]
  have hle : (0 : UInt16) ≤ (Buffer.memBuffer .outbound h.outboundSize).size :=
    UInt16.le_iff_toNat_le.mpr (Nat.zero_le _)
  rw [OffsetBuffer.reinit_zero hle, Buffer.size_memBuffer, UInt16.sub_zero]

/-! ### Stashes of at least one byte -/

/-- The window of the outbound buffer that slot `i` should have. -/
def window (size i : ℕ) : Set ℕ := Set.Ico (size * i) (size * i + size)

theorem disjoint_window (size : ℕ) {i j : ℕ} (hne : i ≠ j) :
    Disjoint (window size i) (window size j) := by
  refine Set.disjoint_left.mpr fun a hi hj => ?_
  obtain ⟨hilow, hihigh⟩ := hi
  obtain ⟨hjlow, hjhigh⟩ := hj
  rcases Nat.lt_or_gt_of_ne hne with hlt | hlt
  · have hmul : size * (i + 1) ≤ size * j := Nat.mul_le_mul_left size hlt
    rw [Nat.mul_succ] at hmul
    omega
  · have hmul : size * (j + 1) ≤ size * i := Nat.mul_le_mul_left size hlt
    rw [Nat.mul_succ] at hmul
    omega

/-- The stashes of two slots have no byte in common. -/
theorem disjoint_stashRange (hpos : 0 < (stashLength socketCapacity h).toNat) {i j : ℕ}
    (hi : i < socketCapacity.toNat) (hj : j < socketCapacity.toNat) (hne : i ≠ j) :
    Disjoint ((new number socketCapacity h).1.stashRange h i)
      ((new number socketCapacity h).1.stashRange h j) := by
  obtain ⟨offset, hoffset, heq⟩ := stashBuffer_of_pos number hpos hi
  obtain ⟨offset', hoffset', heq'⟩ := stashBuffer_of_pos number hpos hj
  have hdisjoint := disjoint_window (stashLength socketCapacity h).toNat hne
  unfold stashRange
  rw [heq, heq']
  simpa only [Buffer.base, Buffer.size, hoffset, hoffset', Nat.zero_add, window] using hdisjoint

theorem partition_of_pos (hheader : 20 ≤ h.ipPayload.size.toNat)
    (hpos : 0 < (stashLength socketCapacity h).toNat) :
    (new number socketCapacity h).1.Partition h socketCapacity.toNat := by
  have hshape := fun i hi => stashBuffer_of_pos number hpos (i := i) hi
  have hall := stashes_le socketCapacity h
  refine ⟨fun i hi => ?_, fun i hi j hj hne => disjoint_stashRange hpos hi hj hne, fun i hi => ?_⟩
  · obtain ⟨offset, hoffset, heq⟩ := hshape i hi
    have hmul := Nat.mul_le_mul_left (stashLength socketCapacity h).toNat hi
    rw [Nat.mul_succ] at hmul
    rw [heq]
    refine ⟨rfl, ?_⟩
    simp only [Buffer.base, Buffer.size, hoffset]
    omega
  · obtain ⟨offset, -, heq⟩ := hshape i hi
    rw [heq, Buffer.size_offsetBuffer, toNat_stashLength _ hheader, stashable]
    push_cast [Nat.cast_sub hheader]
    rfl

variable (number) in
/-- What a write through the stash of slot `i` does to the outbound buffer. -/
theorem run_write_stash (hpos : 0 < (stashLength socketCapacity h).toNat) {i : ℕ}
    (hi : i < socketCapacity.toNat) (start : UInt16) (data : Bytes) (m : Memory) :
    (((new number socketCapacity h).1.stashBuffer h i).write start data).run m =
      if start + Buffer.lengthOf data > stashLength socketCapacity h then (none, m)
      else (some (), Region.write m .outbound
        (((stashLength socketCapacity h).toNat * i + start.toNat) % 65536) data) := by
  obtain ⟨offset, hoffset, heq⟩ := stashBuffer_of_pos number hpos hi
  have hall := stashes_le socketCapacity h
  have hmul := Nat.mul_le_mul_left (stashLength socketCapacity h).toNat hi
  rw [Nat.mul_succ] at hmul
  have hfits : offset.toNat + (stashLength socketCapacity h).toNat ≤ h.outboundSize.toNat := by
    rw [hoffset]
    omega
  rw [heq, Buffer.write]
  by_cases hlong : start + Buffer.lengthOf data > stashLength socketCapacity h
  · rw [if_pos hlong, if_pos hlong]
    rfl
  · have hinner := Buffer.bounds_of_wrap hfits hlong
    rw [if_neg hlong, if_neg hlong, Buffer.write]
    dsimp only
    rw [if_neg hinner, UInt16.toNat_add, hoffset]

/-- The writes that no slot's stash lets through to another one's, as arithmetic. -/
theorem harmless_iff {size capacity start n : ℕ} (hsize : 0 < size) (hcapacity : 0 < capacity)
    (hall : size * capacity < 65536) (hstart : start < 65536) (hn : n < 65536) :
    (∀ i < capacity, ∀ j < capacity, i ≠ j → size < (start + n) % 65536 ∨ n = 0 ∨
      (size * i + start) % 65536 + n ≤ size * j ∨ size * j + size ≤ (size * i + start) % 65536) ↔
        Harmless size capacity start n := by
  have hslot : ∀ i < capacity, size * i + size ≤ size * capacity := fun i hi => by
    have hmul := Nat.mul_le_mul_left size hi
    rwa [Nat.mul_succ] at hmul
  have horder : ∀ i j, i < j → size * i + size ≤ size * j := fun i j hlt => by
    have hmul := Nat.mul_le_mul_left size hlt
    rwa [Nat.mul_succ] at hmul
  constructor
  · intro hmiss
    by_contra hharm
    unfold Harmless at hharm
    obtain ⟨hmany, hharm⟩ := not_or.mp hharm
    obtain ⟨hwrap, hharm⟩ := not_or.mp hharm
    obtain ⟨haccepted, hharm⟩ := not_or.mp hharm
    have hlast := hslot (capacity - 1) (by omega)
    by_cases hback : start + size * (capacity - 1) < 65536
    · -- the first stash reaches the last one
      have hlow : start < size * capacity := by
        by_contra hbehind
        exact hharm ⟨by omega, hback⟩
      have hfull : size * (capacity - 1) + size = size * capacity := by
        rw [← Nat.mul_succ]
        congr 1
        omega
      have hmiss := hmiss 0 hcapacity (capacity - 1) (by omega) (by omega)
      rw [Nat.mul_zero, Nat.zero_add, Nat.mod_eq_of_lt hstart] at hmiss
      omega
    · -- the last stash reaches back to the one before
      have hbefore := horder (capacity - 2) (capacity - 1) (by omega)
      have hprevious : size * (capacity - 2) + size = size * (capacity - 1) := by
        rw [← Nat.mul_succ]
        congr 1
        omega
      have hmiss := hmiss (capacity - 1) (by omega) (capacity - 2) (by omega) (by omega)
      omega
  · intro hharmless i hi j hj hne
    have hilast := hslot i hi
    have hjlast := hslot j hj
    rcases hharmless with hone | hfits | hrefused | ⟨hbehind, hback⟩
    · omega
    · rcases Nat.lt_or_gt_of_ne hne with hlt | hlt
      · have hij := horder i j hlt
        omega
      · have hji := horder j i hlt
        omega
    · omega
    · have hile : size * i ≤ size * (capacity - 1) := Nat.mul_le_mul_left size (by omega)
      omega

/-- Which writes are not seen through the other stashes. -/
theorem separate_iff (hcapacity : 1 ≤ socketCapacity)
    (hpos : 0 < (stashLength socketCapacity h).toNat) {start : UInt16} {data : Bytes}
    (hdata : data.length < 65536) :
    (new number socketCapacity h).1.Separate h socketCapacity.toNat start data ↔
      Harmless (stashLength socketCapacity h).toNat socketCapacity.toNat start.toNat
        data.length := by
  have hlength := Buffer.toNat_lengthOf hdata
  have hall := stashes_le socketCapacity h
  have h16 := h.outboundSize.toNat_lt
  have hcontents : ∀ j < socketCapacity.toNat, ∀ m,
      ((new number socketCapacity h).1.stashBuffer h j).contents m = Region.read m .outbound
        ((stashLength socketCapacity h).toNat * j) (stashLength socketCapacity h).toNat := by
    intro j hj m
    obtain ⟨offset, hoffset, heq⟩ := stashBuffer_of_pos number hpos hj
    rw [heq, Buffer.contents]
    simp only [Buffer.root, Buffer.base, Buffer.size, hoffset, Nat.zero_add]
  have hlong : start + Buffer.lengthOf data > stashLength socketCapacity h ↔
      (stashLength socketCapacity h).toNat < (start.toNat + data.length) % 65536 := by
    rw [gt_iff_lt, UInt16.lt_iff_toNat_lt, UInt16.toNat_add, hlength]
  rw [← harmless_iff hpos (UInt8.le_iff_toNat_le.mp hcapacity) (by omega) start.toNat_lt hdata]
  refine forall_congr' fun i => forall_congr' fun hi => forall_congr' fun j =>
    forall_congr' fun hj => forall_congr' fun _ => ?_
  have hrun := run_write_stash number hpos hi start data
  by_cases hrefused : start + Buffer.lengthOf data > stashLength socketCapacity h
  · refine iff_of_true (fun m => ?_) (.inl (hlong.mp hrefused))
    rw [hrun, if_pos hrefused]
  · have hseen := read_write_eq_iff (r := .outbound) (d := data)
      (a := ((stashLength socketCapacity h).toNat * i + start.toNat) % 65536)
      (b := (stashLength socketCapacity h).toNat * j) (n := (stashLength socketCapacity h).toNat)
    have hnotLong := mt hlong.mpr hrefused
    rw [or_iff_right hnotLong]
    rw [or_iff_right (Nat.ne_of_gt hpos), ← List.length_eq_zero_iff] at hseen
    refine Iff.trans (forall_congr' fun m => ?_) hseen
    rw [hrun, if_neg hrefused, hcontents j hj, hcontents j hj]

/-! ### The constructor -/

/-- Where there is nothing to divide, the stashes are empty. -/
theorem partition_of_empty (hheader : 20 ≤ h.ipPayload.size.toNat)
    (hempty : h.outboundSize = 0) (start : UInt16) (data : Bytes) :
    (new number socketCapacity h).1.Partition h socketCapacity.toNat ∧
      (new number socketCapacity h).1.Separate h socketCapacity.toNat start data := by
  have hnothing : stashable h = 0 := by
    rw [stashable, hempty]
    exact Nat.zero_min _
  have hzero : (stashLength socketCapacity h).toNat = 0 := by
    rw [toNat_stashLength socketCapacity hheader, hnothing, Nat.zero_div]
  have hshape := stashBuffer_of_zero number hzero
  have hsize : ∀ i, ((new number socketCapacity h).1.stashBuffer h i).size.toNat = 0 := by
    intro i
    rw [hshape, hempty]
    rfl
  refine ⟨⟨fun i _ => ?_, fun i _ j _ _ => ?_, fun i _ => ?_⟩, fun i _ j _ _ m => ?_⟩
  · rw [hsize, hshape]
    exact ⟨rfl, Nat.zero_le _⟩
  · unfold stashRange
    rw [hsize, Nat.add_zero, Set.Ico_self]
    exact Set.empty_disjoint _
  · have hmin : min (h.outboundSize.toNat : ℤ) (h.ipPayload.size.toNat - 20) = 0 := by
      have hnone : h.outboundSize.toNat = 0 := by rw [hempty]; rfl
      omega
    rw [hsize, hmin, Int.zero_ediv]
    rfl
  · unfold Buffer.contents
    rw [hsize, Region.read_zero, Region.read_zero]

/-- Stashes of the size intended leave room for a TCP header. -/
theorem Partition.header (hp : (new number socketCapacity h).1.Partition h socketCapacity.toNat)
    (hcapacity : 1 ≤ socketCapacity) : 20 ≤ h.ipPayload.size.toNat := by
  have hpos : 0 < socketCapacity.toNat := UInt8.le_iff_toNat_le.mp hcapacity
  have hsize := hp.size 0 hpos
  by_contra hshort
  have hneg : min (h.outboundSize.toNat : ℤ) (h.ipPayload.size.toNat - 20) < 0 := by omega
  have hquotient := Int.ediv_neg_of_neg_of_pos hneg (Int.natCast_pos.mpr hpos)
  omega

/-- The constructor makes the stashes that it should, and a write through one of them is not
seen through another, if and only if there is a byte for each slot (or nothing to divide) and
the write's bounds do not overflow to where another stash is. -/
theorem new_partition_iff (number : ℕ) {socketCapacity : UInt8} (hcapacity : 1 ≤ socketCapacity)
    (h : Stack) (start : UInt16) {data : Bytes} (hdata : data.length < 65536) :
    let tcp := (new number socketCapacity h).1
    tcp.Partition h socketCapacity.toNat ∧ tcp.Separate h socketCapacity.toNat start data ↔
      Divisible h socketCapacity.toNat ∧ Harmless (stashable h / socketCapacity.toNat)
        socketCapacity.toNat start.toNat data.length := by
  dsimp only
  have hcap : 0 < socketCapacity.toNat := UInt8.le_iff_toNat_le.mp hcapacity
  constructor
  · rintro ⟨hp, hs⟩
    have hheader := hp.header hcapacity
    have hlength := toNat_stashLength socketCapacity hheader
    rcases Nat.eq_zero_or_pos (stashLength socketCapacity h).toNat with hzero | hpos
    · -- the stash of slot 0 is the whole buffer
      have hsize := hp.size 0 hcap
      have hquotient : min (h.outboundSize.toNat : ℤ) (h.ipPayload.size.toNat - 20) /
          socketCapacity.toNat = ((stashable h / socketCapacity.toNat : ℕ) : ℤ) := by
        rw [stashable]
        push_cast [Nat.cast_sub hheader]
        rfl
      rw [stashBuffer_of_zero _ hzero, Buffer.size_offsetBuffer, hquotient, ← hlength, hzero]
        at hsize
      have hempty : h.outboundSize = 0 := UInt16.toNat_inj.mp (by simpa using hsize)
      have hbound := start.toNat_lt
      rw [← hlength, hzero]
      exact ⟨⟨hheader, .inl hempty⟩, .inr (.inr (.inr ⟨by omega, by omega⟩))⟩
    · rw [← hlength]
      refine ⟨⟨hheader, .inr ?_⟩, (separate_iff hcapacity hpos hdata).mp hs⟩
      rw [hlength] at hpos
      exact (Nat.div_pos_iff.mp hpos).2
  · rintro ⟨⟨hheader, hshare⟩, hharmless⟩
    by_cases hempty : h.outboundSize = 0
    · exact partition_of_empty hheader hempty start data
    have hlength := toNat_stashLength socketCapacity hheader
    have hpos : 0 < (stashLength socketCapacity h).toNat := by
      rw [hlength]
      exact Nat.div_pos (hshare.resolve_left hempty) hcap
    rw [← hlength] at hharmless
    exact ⟨partition_of_pos hheader hpos, (separate_iff hcapacity hpos hdata).mpr hharmless⟩

/-- Two slots share the 40 bytes of the outbound buffer. -/
theorem new_partition_example : (new 0 2 (exampleStack 1 2)).1.Partition (exampleStack 1 2) 2 ∧
    (new 0 2 (exampleStack 1 2)).1.Separate (exampleStack 1 2) 2 3 [1, 2] :=
  (new_partition_iff 0 (by decide) (exampleStack 1 2) 3 (by decide)).mpr
    ⟨⟨by decide +kernel, .inr (by decide +kernel)⟩, .inr (.inl (by decide +kernel))⟩

/-- Of 41 slots that share them each has all 40 bytes, and each sees what the others write. -/
theorem stashes_alias : ¬ ((new 0 41 (exampleStack 1 2)).1.Partition (exampleStack 1 2) 41 ∧
    (new 0 41 (exampleStack 1 2)).1.Separate (exampleStack 1 2) 41 0 [1]) := by
  rintro ⟨hp, -⟩
  have hsize := hp.size 0 (by decide)
  revert hsize
  decide +kernel

end Stashes

end TCPHandler

end AtmegaNet
