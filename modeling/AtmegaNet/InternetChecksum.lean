import AtmegaNet.Access
import AtmegaNet.Lib.OnesComplement

/-!
# The Internet checksum

`Buffer::checksum` is the complement of the one's complement sum of the words of a block in
network order, without the field that is to hold it. This module says so for every buffer, every
length and every even offset of that field, and that a block in which the checksum has been stored
has a sum of 0xFFFF, which is what the receiving side tests.

## Main results

* `toNat_sumTo`: the loop adds up natural numbers, nothing is carried out of its 32 bits.
* `toNat_foldCarry`, `foldCarry_stop`: what the carry loop computes, and that it ends.
* `toNat_checksum_of_lt`: what `checksum` computes.
* `Buffer.checksum_spec`: all of this for a buffer, and the sum of the block with its checksum.
-/

open Procedure

namespace AtmegaNet

/-! ### Words -/

/-- The 16-bit words of a block in network order, a last odd byte padded with a zero byte. -/
def netWords : Bytes → List ℕ
  | a :: b :: rest => (256 * a.toNat + b.toNat) :: netWords rest
  | [a] => [256 * a.toNat]
  | [] => []

/-- The 16-bit field of a block at an offset. -/
def fieldAt (block : Bytes) (i : ℕ) : ℕ :=
  256 * (block.getD i 0).toNat + (block.getD (i + 1) 0).toNat

/-- A block with the two bytes at an offset replaced by zeros. -/
def blankAt (offset : ℕ) (block : Bytes) : Bytes :=
  block.mapIdx fun i c => if i = offset ∨ i = offset + 1 then 0 else c

/-- The words of a block and of a 32-bit number in front of it. -/
def summands (pseudo : UInt32) (block : Bytes) : List ℕ :=
  pseudo.toNat / 65536 :: pseudo.toNat % 65536 :: netWords block

theorem netWords_le (b : Bytes) : ∀ w ∈ netWords b, w ≤ 65535 := by
  induction b using netWords.induct with
  | case1 a b rest ih =>
      have ha := a.toNat_lt
      have hb := b.toNat_lt
      simp only [netWords, List.mem_cons, forall_eq_or_imp]
      exact ⟨by omega, ih⟩
  | case2 a =>
      have ha := a.toNat_lt
      simp only [netWords, List.mem_singleton, forall_eq]
      omega
  | case3 => simp [netWords]

/-- The words of a block are its fields at the even offsets. -/
theorem netWords_eq_map (b : Bytes) :
    netWords b = (List.range ((b.length + 1) / 2)).map fun k => fieldAt b (2 * k) := by
  induction b using netWords.induct with
  | case1 a b rest ih =>
      have hlen : ((a :: b :: rest).length + 1) / 2 = (rest.length + 1) / 2 + 1 := by
        simp only [List.length_cons]
        omega
      have hnext : ∀ k, fieldAt (a :: b :: rest) (2 * (k + 1)) = fieldAt rest (2 * k) := by
        intro k
        simp only [fieldAt, Nat.mul_add, Nat.mul_one]
        rfl
      rw [hlen, List.range_succ_eq_map, List.map_cons, List.map_map, netWords, ih]
      simp only [Function.comp_def, Nat.succ_eq_add_one, hnext]
      rfl
  | case2 a => simp [netWords, fieldAt]
  | case3 => simp [netWords]

/-- The bytes of a field in network order. -/
theorem toNat_HTONS_bytes (n : UInt16) :
    256 * (HTONS n).toUInt8.toNat + (HTONS n >>> 8).toUInt8.toNat = n.toNat := by
  rw [← toNat_NTOHS_word16]
  exact congrArg UInt16.toNat ((congrArg NTOHS (word16_bytesOf16 _)).trans (NTOHS_HTONS n))

@[simp] theorem length_blankAt (offset : ℕ) (block : Bytes) :
    (blankAt offset block).length = block.length :=
  List.length_mapIdx

/-- The fields at the even offsets of a blanked block. -/
theorem fieldAt_blankAt {offset : ℕ} (heven : offset % 2 = 0) (block : Bytes) (k : ℕ) :
    fieldAt (blankAt offset block) (2 * k) =
      if 2 * k = offset then 0 else fieldAt block (2 * k) := by
  have hget : ∀ i, (blankAt offset block).getD i 0 =
      if i = offset ∨ i = offset + 1 then 0 else block.getD i 0 := by
    intro i
    rw [List.getD_eq_getElem?_getD, List.getD_eq_getElem?_getD, blankAt, List.getElem?_mapIdx]
    cases block[i]? with
    | none => exact (ite_self _).symm
    | some c => rfl
  unfold fieldAt
  rw [hget, hget]
  by_cases hk : 2 * k = offset
  · rw [if_pos (.inl hk), if_pos (.inr (by omega)), if_pos hk]
    rfl
  · rw [if_neg (by omega), if_neg (by omega), if_neg hk]

theorem fieldAt_le (block : Bytes) (i : ℕ) : fieldAt block i ≤ 65535 := by
  have hhigh := (block.getD i 0).toNat_lt
  have hlow := (block.getD (i + 1) 0).toNat_lt
  unfold fieldAt
  omega

/-! ### `Buffer::checksum` -/

/-- The carry loop folds its sum into a word. -/
theorem toNat_foldCarry (sum : UInt32) :
    (foldCarry 2 sum).toNat = OnesComplement.norm 65535 sum.toNat := by
  have hround : ∀ rounds (sum : UInt32), ((foldCarry rounds sum).toNat = 0 ↔ sum.toNat = 0) ∧
      (foldCarry rounds sum).toNat % 65535 = sum.toNat % 65535 := by
    intro rounds
    induction rounds with
    | zero => exact fun sum => ⟨Iff.rfl, rfl⟩
    | succ rounds ih =>
        intro sum
        rw [foldCarry]
        by_cases hcarry : sum >>> 16 ≠ 0
        · obtain ⟨hzero, hmod⟩ := ih ((sum &&& (0xFFFF : UInt32)) + (sum >>> 16))
          rw [foldCarry_round] at hzero hmod
          rw [if_pos hcarry]
          exact ⟨hzero.trans (by omega), hmod.trans (by omega)⟩
        · rw [if_neg hcarry]
          exact ⟨Iff.rfl, rfl⟩
  have hlt := foldCarry_lt sum
  obtain ⟨hzero, hmod⟩ := hround 2 sum
  exact OnesComplement.eq_norm (by omega) hzero hmod

/-- A fitting buffer shows the block it holds. -/
theorem shows_block {b : Buffer} (hb : b.Fits) (m : Memory) {n : ℕ} (hn : n ≤ b.size.toNat) :
    (b.view m).Shows (fun i => (Region.read m b.root b.base n).getD i 0) n := by
  refine ((b.shows hb m).mono hn).congr ?_
  intro i hi
  have hlen : i < (Region.read m b.root b.base n).length := by rwa [Region.length_read]
  rw [List.getD_eq_getElem?_getD, List.getElem?_eq_getElem hlen, Option.getD_some,
    Region.getElem_read]

/-- The word the loop adds at an even offset. -/
theorem toNat_checksumWord {v : View} {data : Bytes} (hlen : data.length < 65536)
    (hv : v.Shows (fun i => data.getD i 0) data.length) {k : ℕ} (hk : 2 * k < data.length) :
    (v.checksumWord (Buffer.lengthOf data) (UInt16.ofNat (2 * k))).toNat =
      fieldAt data (2 * k) := by
  have hi : (UInt16.ofNat (2 * k)).toNat = 2 * k := by
    simpa using Nat.mod_eq_of_lt (by omega : 2 * k < 65536)
  have hn : (Buffer.lengthOf data).toNat = data.length := Buffer.toNat_lengthOf hlen
  have hnext : UInt16.ofNat (2 * k) + 1 < Buffer.lengthOf data ↔ 2 * k + 1 < data.length := by
    have hone : (1 : UInt16).toNat = 1 := rfl
    rw [UInt16.lt_iff_toNat_lt, UInt16.toNat_add, hi, hn, hone]
    omega
  unfold View.checksumWord
  by_cases hlast : 2 * k + 1 < data.length
  · rw [if_pos (hnext.mpr hlast), hv.readNet16 (by omega), Option.getD_some, toNat_NTOHS_word16,
      hi, fieldAt]
  · have hpad : data.getD (2 * k + 1) 0 = 0 := by
      rw [List.getD_eq_getElem?_getD, List.getElem?_eq_none (by omega), Option.getD_none]
    have hbyte := toNat_NTOHS_word16 (data.getD (2 * k) 0) 0
    have hword : word16 [data.getD (2 * k) 0, 0] = (data.getD (2 * k) 0).toUInt16 := by
      simp [word16]
    rw [hword] at hbyte
    rw [if_neg (mt hnext.mp hlast), hv.read8 (by omega), Option.getD_some, hi, hbyte, fieldAt,
      hpad]

/-- The sum behind the first `K` rounds of the loop of `checksum`, `len` being cut to the size of
the buffer. -/
def View.sumTo (v : View) (len checksum_offset : UInt16) (pseudo : UInt32) (K : ℕ) : UInt32 :=
  (List.range K).foldl (fun sum k =>
    let i := UInt16.ofNat (2 * k)
    if i = checksum_offset then sum else sum + (v.checksumWord len i).toUInt32) pseudo

theorem View.checksum_eq (v : View) (len checksum_offset : UInt16) (pseudo : UInt32) :
    v.checksum len checksum_offset pseudo =
      let len := if len > v.size then v.size else len
      (~~~ foldCarry 2 (v.sumTo len checksum_offset pseudo ((len.toNat + 1) / 2))).toUInt16 :=
  rfl

/-- A sum without a carry is left as it is. -/
theorem foldCarry_of_eq_zero {sum : UInt32} (h : sum >>> 16 = 0) (rounds : ℕ) :
    foldCarry rounds sum = sum := by
  cases rounds with
  | zero => rfl
  | succ rounds => rw [foldCarry, if_neg (not_not.mpr h)]

theorem foldCarry_add (rounds more : ℕ) (sum : UInt32) :
    foldCarry (rounds + more) sum = foldCarry more (foldCarry rounds sum) := by
  induction rounds generalizing sum with
  | zero => rw [Nat.zero_add, foldCarry]
  | succ rounds ih =>
      rw [Nat.add_right_comm, foldCarry, foldCarry]
      by_cases hcarry : sum >>> 16 ≠ 0
      · rw [if_pos hcarry, if_pos hcarry, ih]
      · rw [if_neg hcarry, if_neg hcarry, foldCarry_of_eq_zero (not_not.mp hcarry)]

/-- The carry loop has ended after two rounds. -/
theorem foldCarry_stop (sum : UInt32) :
    foldCarry 2 sum >>> 16 = 0 ∧ ∀ more, foldCarry (2 + more) sum = foldCarry 2 sum := by
  have hdone : foldCarry 2 sum >>> 16 = 0 := shiftRight16_eq_zero.mpr (foldCarry_lt sum)
  refine ⟨hdone, fun more => ?_⟩
  rw [foldCarry_add, foldCarry_of_eq_zero hdone]

/-- The loop adds up natural numbers: its sum fits into 32 bits all the time. -/
theorem toNat_sumTo {v : View} {data : Bytes} (hlen : data.length < 65536)
    (hv : v.Shows (fun i => data.getD i 0) data.length) {checksum_offset : UInt16}
    (heven : checksum_offset.toNat % 2 = 0) {pseudo : UInt32} (hpseudo : pseudo.toNat < 2 ^ 31)
    {K : ℕ} (hK : K ≤ (data.length + 1) / 2) :
    (v.sumTo (Buffer.lengthOf data) checksum_offset pseudo K).toNat =
      pseudo.toNat + ((netWords (blankAt checksum_offset.toNat data)).take K).sum := by
  have htake : (netWords (blankAt checksum_offset.toNat data)).take K =
      (List.range K).map fun k => fieldAt (blankAt checksum_offset.toNat data) (2 * k) := by
    rw [netWords_eq_map, length_blankAt, ← List.map_take, List.take_range, Nat.min_eq_left hK]
  have hloop : ∀ K ≤ (data.length + 1) / 2,
      (v.sumTo (Buffer.lengthOf data) checksum_offset pseudo K).toNat = pseudo.toNat +
        ((List.range K).map fun k => fieldAt (blankAt checksum_offset.toNat data) (2 * k)).sum ∧
      ((List.range K).map fun k => fieldAt (blankAt checksum_offset.toNat data) (2 * k)).sum ≤
        K * 65535 := by
    intro K
    induction K with
    | zero => exact fun _ => ⟨rfl, le_rfl⟩
    | succ K ih =>
        intro hK
        obtain ⟨hsum, hle⟩ := ih (by omega)
        have hfieldK := fieldAt_le (blankAt checksum_offset.toNat data) (2 * K)
        have hi : (UInt16.ofNat (2 * K)).toNat = 2 * K := by
          simpa using Nat.mod_eq_of_lt (by omega : 2 * K < 65536)
        have hskip : UInt16.ofNat (2 * K) = checksum_offset ↔ 2 * K = checksum_offset.toNat := by
          rw [← UInt16.toNat_inj, hi]
        rw [View.sumTo] at hsum ⊢
        rw [List.range_succ, List.foldl_append, List.map_append, List.sum_append, List.foldl_cons,
          List.foldl_nil, List.map_cons, List.map_nil, List.sum_singleton]
        refine ⟨?_, by omega⟩
        dsimp only
        rw [fieldAt_blankAt heven] at hfieldK ⊢
        by_cases hfield : 2 * K = checksum_offset.toNat
        · rw [if_pos (hskip.mpr hfield), hsum, if_pos hfield, Nat.add_zero]
        · have hword := toNat_checksumWord hlen hv (by omega : 2 * K < data.length)
          rw [if_neg hfield] at hfieldK ⊢
          rw [if_neg (mt hskip.mp hfield), UInt32.toNat_add, hsum, UInt16.toNat_toUInt32, hword,
            Nat.add_assoc]
          exact Nat.mod_eq_of_lt (by omega)
  rw [htake]
  exact (hloop K hK).1

/-- `checksum` is the complement of the sum over the block, its checksum field taken for 0. -/
theorem toNat_checksum_of_lt {v : View} {data : Bytes} (hlen : data.length < 65536)
    (hv : v.Shows (fun i => data.getD i 0) data.length) {len checksum_offset : UInt16}
    (hcut : Buffer.lengthOf data = if len > v.size then v.size else len)
    (heven : checksum_offset.toNat % 2 = 0) {pseudo : UInt32} (hpseudo : pseudo.toNat < 2 ^ 31) :
    (v.checksum len checksum_offset pseudo).toNat = 65535 -
      OnesComplement.norm 65535
        (pseudo.toNat + (netWords (blankAt checksum_offset.toNat data)).sum) := by
  have hsum := toNat_sumTo hlen hv heven hpseudo le_rfl
  have hall : (netWords (blankAt checksum_offset.toNat data)).take ((data.length + 1) / 2) =
      netWords (blankAt checksum_offset.toNat data) := by
    refine List.take_of_length_le ?_
    rw [netWords_eq_map, length_blankAt, List.length_map, List.length_range]
  have hnorm := toNat_foldCarry
    (v.sumTo (Buffer.lengthOf data) checksum_offset pseudo ((data.length + 1) / 2))
  rw [hsum, hall] at hnorm
  rw [View.checksum_eq]
  dsimp only
  rw [← hcut, Buffer.toNat_lengthOf hlen, ← hnorm]
  have hlt := foldCarry_lt
    (v.sumTo (Buffer.lengthOf data) checksum_offset pseudo ((data.length + 1) / 2))
  have hword : UInt32.size = 65536 * 65536 := rfl
  simp only [UInt32.toNat_toUInt16, UInt32.toNat_not, hword]
  omega

/-! ### The sum of a block with its checksum -/

/-- The sum of the words of a number and a block. -/
theorem sum_summands (pseudo : UInt32) (block : Bytes) :
    OnesComplement.sum 65535 (summands pseudo block) =
      OnesComplement.norm 65535 (pseudo.toNat + (netWords block).sum) := by
  have hlt := pseudo.toNat_lt
  have hle : ∀ w ∈ summands pseudo block, w ≤ 65535 := by
    intro w hw
    rcases List.mem_cons.mp hw with rfl | hw
    · omega
    · rcases List.mem_cons.mp hw with rfl | hw
      · omega
      · exact netWords_le block w hw
  rw [OnesComplement.sum_eq_norm (by decide) hle, summands, List.sum_cons, List.sum_cons]
  refine (OnesComplement.eq_norm (OnesComplement.norm_le (by decide)) ?_ ?_)
  · rw [OnesComplement.norm_eq_zero]
    omega
  · rw [OnesComplement.norm_mod]
    omega

/-- The fields of a block with a number stored at an offset. -/
theorem sum_netWords_stored {d e : Bytes} (hlength : e.length = d.length) {offset c : ℕ}
    (heven : offset % 2 = 0) (hin : offset + 2 ≤ d.length)
    (hstored : ∀ k, fieldAt e (2 * k) = if 2 * k = offset then c else fieldAt d (2 * k)) :
    (netWords e).sum = c + (netWords (blankAt offset d)).sum := by
  have hreplaced : ∀ K, offset < 2 * K →
      ((List.range K).map fun k => fieldAt e (2 * k)).sum =
        c + ((List.range K).map fun k => fieldAt (blankAt offset d) (2 * k)).sum := by
    intro K
    induction K with
    | zero => exact fun h => absurd h (by omega)
    | succ K ih =>
        intro hK
        rw [List.range_succ, List.map_append, List.map_append, List.sum_append, List.sum_append,
          List.map_singleton, List.map_singleton, List.sum_singleton, List.sum_singleton, hstored,
          fieldAt_blankAt heven]
        by_cases hlast : 2 * K = offset
        · have hbefore : (List.range K).map (fun k => fieldAt e (2 * k)) =
              (List.range K).map fun k => fieldAt (blankAt offset d) (2 * k) := by
            refine List.map_congr_left fun k hk => ?_
            have hne : 2 * k ≠ offset := by
              have hlt := List.mem_range.mp hk
              omega
            rw [hstored, fieldAt_blankAt heven, if_neg hne, if_neg hne]
          rw [if_pos hlast, if_pos hlast, hbefore, Nat.add_zero, Nat.add_comm]
        · rw [if_neg hlast, if_neg hlast, ih (by omega), Nat.add_assoc]
  rw [netWords_eq_map, netWords_eq_map, length_blankAt, hlength]
  exact hreplaced _ (by omega)

/-- The fields of a block of the memory in which a number has been stored. -/
theorem fieldAt_stored (m : Memory) (r : Root) (base : ℕ) {offset n : ℕ} (heven : offset % 2 = 0)
    (hin : offset + 2 ≤ n) (c : UInt16) (k : ℕ) :
    fieldAt (Region.read (Region.write m r (base + offset) (bytesOf16 (HTONS c))) r base n) (2 * k) =
      if 2 * k = offset then c.toNat else fieldAt (Region.read m r base n) (2 * k) := by
  have hread : ∀ (m : Memory) (i : ℕ), (Region.read m r base n).getD i 0 =
      if i < n then m r (base + i) else 0 := by
    intro m i
    by_cases hi : i < n
    · have hlength : i < (Region.read m r base n).length := by rwa [Region.length_read]
      rw [if_pos hi, List.getD_eq_getElem?_getD, List.getElem?_eq_getElem hlength,
        Option.getD_some, Region.getElem_read]
    · have hlength : (Region.read m r base n).length ≤ i := by
        rw [Region.length_read]
        omega
      rw [if_neg hi, List.getD_eq_getElem?_getD, List.getElem?_eq_none hlength, Option.getD_none]
  unfold fieldAt
  rw [hread, hread, hread, hread]
  by_cases hk : 2 * k = offset
  · have hhigh := Region.write_in m r (base + offset) (d := bytesOf16 (HTONS c)) (i := 0)
      (by simp)
    have hlow := Region.write_in m r (base + offset) (d := bytesOf16 (HTONS c)) (i := 1)
      (by simp)
    rw [if_pos hk, if_pos (by omega), if_pos (by omega), hk, ← Nat.add_assoc, hlow]
    rw [Nat.add_zero] at hhigh
    rw [hhigh]
    exact toNat_HTONS_bytes c
  · have hsize : (bytesOf16 (HTONS c)).length = 2 := rfl
    rw [if_neg hk, Region.write_out m r (base + offset) (by rw [hsize]; omega),
      Region.write_out m r (base + offset) (by rw [hsize]; omega)]

/-- The complement of a sum, added to it, gives 0xFFFF. -/
theorem norm_add_complement (n : ℕ) :
    OnesComplement.norm 65535 (n + (65535 - OnesComplement.norm 65535 n)) = 65535 := by
  have hle : OnesComplement.norm 65535 n ≤ 65535 := OnesComplement.norm_le (by decide)
  have hmod : OnesComplement.norm 65535 n % 65535 = n % 65535 := OnesComplement.norm_mod
  have hzero : OnesComplement.norm 65535 n = 0 ↔ n = 0 := OnesComplement.norm_eq_zero
  exact (OnesComplement.norm_eq_iff_dvd (by decide) (by omega)).mpr (by omega)

/-- `Buffer::checksum` of a buffer of at most 32766 bytes: the result is the complement of the sum
over the first `min(len, size())` bytes, the counter and the sum of the loop do not overflow, the
carry loop ends, and the block with its checksum has the sum 0xFFFF. -/
theorem Buffer.checksum_spec {b : Buffer} (hb : b.Fits) (m : Memory)
    (hsize : b.size.toNat ≤ 32766) (len checksum_offset : UInt16)
    (heven : checksum_offset.toNat % 2 = 0) {pseudo : UInt32} (hpseudo : pseudo.toNat < 2 ^ 31) :
    let v := b.view m
    let n := if len > b.size then b.size else len
    let block := (b.contents m).take n.toNat
    let blanked := blankAt checksum_offset.toNat block
    let rounds := (n.toNat + 1) / 2
    let total := v.sumTo n checksum_offset pseudo rounds
    let checksum := v.checksum len checksum_offset pseudo
    (n.toNat = min len.toNat b.size.toNat ∧
      checksum = (~~~ foldCarry 2 total).toUInt16 ∧
      checksum.toNat = 65535 - OnesComplement.sum 65535 (summands pseudo blanked)) ∧
    (∀ K ≤ rounds, 2 * K < 2 ^ 15 ∧
      (v.sumTo n checksum_offset pseudo K).toNat =
        pseudo.toNat + ((netWords blanked).take K).sum) ∧
    (foldCarry 2 total >>> 16 = 0 ∧ ∀ more, foldCarry (2 + more) total = foldCarry 2 total) ∧
    (checksum_offset.toNat + 2 ≤ n.toNat → ∃ m',
      (b.writeNet16 checksum_offset checksum).run m = (some (), m') ∧
      OnesComplement.sum 65535 (summands pseudo ((b.contents m').take n.toNat)) = 65535) := by
  intro v n block blanked rounds total checksum
  have hmin : n.toNat = min len.toNat b.size.toNat := by
    by_cases hcut : len > b.size
    · have hlt := UInt16.lt_iff_toNat_lt.mp hcut
      have hn : n = b.size := if_pos hcut
      rw [hn, Nat.min_eq_right (by omega)]
    · have hle := UInt16.le_iff_toNat_le.mp (UInt16.not_lt.mp hcut)
      have hn : n = len := if_neg hcut
      rw [hn, Nat.min_eq_left hle]
  have hn : n.toNat ≤ b.size.toNat := hmin.trans_le (Nat.min_le_right _ _)
  have hblock : block = Region.read m b.root b.base n.toNat := Region.take_read _ _ _ hn
  have hlength : block.length = n.toNat := by rw [hblock, Region.length_read]
  have hlen : block.length < 65536 := by omega
  have hcut : Buffer.lengthOf block = n := by rw [lengthOf, hlength, UInt16.ofNat_toNat]
  have hshows : v.Shows (fun i => block.getD i 0) block.length := by
    rw [hlength, hblock]
    exact shows_block hb m hn
  have hchecksum := toNat_checksum_of_lt hlen hshows hcut heven hpseudo
  refine ⟨⟨hmin, rfl, ?_⟩, fun K hK => ⟨by omega, ?_⟩, foldCarry_stop total, fun hin => ?_⟩
  · rw [hchecksum, sum_summands]
  · rw [← hcut]
    exact toNat_sumTo hlen hshows heven hpseudo (by rwa [hlength])
  · have hroom : checksum_offset.toNat + (bytesOf16 (HTONS checksum)).length ≤ b.size.toNat := by
      rw [length_bytesOf16]
      omega
    refine ⟨_, write_fits hb m hroom, ?_⟩
    rw [contents, Region.take_read _ _ _ hn, sum_summands]
    have hstored := fieldAt_stored m b.root b.base heven hin checksum
    rw [← hblock] at hstored
    rw [sum_netWords_stored ((Region.length_read _ _ _ _).trans hlength.symm) heven
      (by rwa [hlength]) hstored, Nat.add_comm checksum.toNat, ← Nat.add_assoc, hchecksum]
    exact norm_add_complement _

/-- The bytes 1 to 5 in a buffer of five bytes, with the checksum at 2. -/
theorem Buffer.checksum_spec_example :
    let b := Buffer.memBuffer .send 5
    let m := Region.write (fun _ _ => 0) Root.send 0 [1, 2, 3, 4, 5]
    (((b.view m).checksum 9 2 0).toNat =
        65535 - OnesComplement.sum 65535 (summands 0 (blankAt 2 [1, 2, 3, 4, 5])) ∧
      (b.view m).checksum 9 2 0 = 0xF9FD) ∧
    ∃ m', (b.writeNet16 2 ((b.view m).checksum 9 2 0)).run m = (some (), m') ∧
      OnesComplement.sum 65535 (summands 0 ((b.contents m').take 5)) = 65535 := by
  intro b m
  have hspec := @Buffer.checksum_spec b trivial m (by decide) 9 2 (by decide) 0 (by decide)
  exact ⟨⟨hspec.1.2.2, by decide⟩, hspec.2.2.2 (by decide)⟩

end AtmegaNet
