import AtmegaNet.Host
import AtmegaNet.Lib.Rfc4648

/-!
# Base 64

`Base64::Encode` cuts every character of its result out of a bank of 24 bits, which it puts
together from characters that are signed on the AVR. `Base64::Decode` finds each character in a
table, and can write its result over the text it reads.

## Main results

* `encode_eq`: what `Encode` returns is the encoding of bytes that carry the signs of those behind
  them (`smear`).
* `encode_iff`: it is the encoding of its input if and only if this alters no byte.
* `decode_encode`: `Decode` inverts the encoding, in place or not.
-/

namespace AtmegaNet
namespace Base64

/-! ### The class -/

/-- `codec` -/
def codec : Bytes :=
  ['A', 'B', 'C', 'D', 'E', 'F', 'G', 'H', 'I', 'J', 'K', 'L', 'M', 'N', 'O', 'P',
   'Q', 'R', 'S', 'T', 'U', 'V', 'W', 'X', 'Y', 'Z', 'a', 'b', 'c', 'd', 'e', 'f',
   'g', 'h', 'i', 'j', 'k', 'l', 'm', 'n', 'o', 'p', 'q', 'r', 's', 't', 'u', 'v',
   'w', 'x', 'y', 'z', '0', '1', '2', '3', '4', '5', '6', '7', '8', '9', '+', '/'].map
    fun c => UInt8.ofNat c.toNat

/-- `strlen`, cut to 16 bits. -/
def strlen (block : Bytes) : UInt16 := UInt16.ofNat (block.takeWhile (· ≠ 0)).length

/-- `(uint32_t)` of a `char`, which is signed. -/
def promote (c : UInt8) : UInt32 := c.toInt8.toInt32.toUInt32

/-- `neededChars` -/
def neededChars (length : UInt16) : UInt16 :=
  let neededChars := length * 8 / 6
  if length * 8 % 6 > 6 then neededChars + 2
  else if length * 8 % 6 > 0 then neededChars + 1
  else neededChars

/-- `outputLength` -/
def outputLength (length : UInt16) : UInt16 :=
  if neededChars length % 4 > 0 then neededChars length + (4 - neededChars length % 4)
  else neededChars length

/-- `bank`, from the three characters at `startIndex`. -/
def bank (input : Bytes) (startIndex length : UInt16) : UInt32 :=
  let bank := if startIndex < length then promote (input.getD startIndex.toNat 0) <<< 16 else 0
  let bank := if startIndex + 1 < length
    then bank ||| promote (input.getD (startIndex + 1).toNat 0) <<< 8 else bank
  if startIndex + 2 < length then bank ||| promote (input.getD (startIndex + 2).toNat 0) else bank

/-- `index`, the six bits of the bank that the character `j` of a group stands for. -/
def index (bank : UInt32) (j : ℕ) : UInt8 :=
  match j with
  | 0 => (bank <<< 8 >>> 26).toUInt8
  | 1 => (bank <<< 14 >>> 26).toUInt8
  | 2 => (bank <<< 20 >>> 26).toUInt8
  | _ => (bank <<< 26 >>> 26).toUInt8

/-- The character `i` of the result. -/
def encodeChar (input : Bytes) (length : UInt16) (i : ℕ) : UInt8 :=
  if i < (neededChars length).toNat then
    codec.getD (index (bank input (UInt16.ofNat (i / 4 * 3)) length) (i % 4)).toNat 0
  else 61

/-- `Base64::Encode`: the block that it allocates, null where there is no memory for it. -/
def Encode (input : Bytes) (allocated : Bool) : Option Bytes :=
  let length := strlen input
  if allocated then
    some ((List.range (outputLength length).toNat).map (encodeChar input length) ++ [0])
  else none

/-- The bank of four characters, looked up one table entry after the other. -/
def groupBank (x0 x1 x2 x3 : UInt8) : UInt32 :=
  (List.range 64).foldl (fun bank q =>
    let bank := if codec.getD q 0 = x0 then bank ||| UInt32.ofNat q <<< 26 else bank
    let bank := if codec.getD q 0 = x1 then bank ||| UInt32.ofNat q <<< 20 else bank
    let bank := if codec.getD q 0 = x2 then bank ||| UInt32.ofNat q <<< 14 else bank
    if codec.getD q 0 = x3 then bank ||| UInt32.ofNat q <<< 8 else bank) 0

/-- The loop of `Base64::Decode` over this many groups, from `i` on in the text and `b` on in the
buffer. In place, the text is what is left of it in the buffer. -/
def decodeGroups (inPlace : Bool) (input : Bytes) : ℕ → ℕ → ℕ → Bytes → Bytes
  | 0, _, _, buffer => buffer
  | n + 1, i, b, buffer =>
      let source := if inPlace then buffer else input
      let bank := groupBank (source.getD i 0) (source.getD (i + 1) 0) (source.getD (i + 2) 0)
        (source.getD (i + 3) 0)
      decodeGroups inPlace input n (i + 4) (b + 3)
        (((buffer.set b (bank >>> 24).toUInt8).set (b + 1) (bank >>> 16).toUInt8).set (b + 2)
          (bank >>> 8).toUInt8)

/-- `Base64::Decode`: the block in which it leaves its result, given the one that it allocates. -/
def Decode (input : Bytes) (inPlace : Bool) (allocated : Option Bytes) : Option Bytes :=
  let len := strlen input
  if len % 4 ≠ 0 then none
  else
    let outlen := len * 6 / 8
    match if inPlace then some input else allocated with
    | none => none
    | some buffer =>
        some ((decodeGroups inPlace input (len.toNat / 4) 0 0 buffer).set outlen.toNat 0)

/-! ### The bank -/

/-- The sign of a character, in all bits of a byte. -/
def high (c : UInt8) : UInt8 := if 128 ≤ c then 255 else 0

/-- The bank of three characters. -/
def bankOf (a b c : UInt8) : UInt32 :=
  promote a <<< 16 ||| promote b <<< 8 ||| promote c

theorem toNat_promote (c : UInt8) :
    (promote c).toNat = (high c).toNat * 16843008 + c.toNat := by
  revert c
  refine forall_uint8 ?_
  decide +kernel

/-- A bitwise or, byte by byte. -/
theorem or_byte {x y z w : ℕ} (hy : y < 256) (hw : w < 256) :
    (x * 256 + y) ||| (z * 256 + w) = (x ||| z) * 256 + (y ||| w) := by
  have hyw : y ||| w < 2 ^ 8 := Nat.or_lt_two_pow hy hw
  have hshift : ∀ n : ℕ, n * 256 = n <<< 8 := fun n => (Nat.shiftLeft_eq n 8).symm
  rw [hshift, hshift, hshift, Nat.shiftLeft_add_eq_or_of_lt hy, Nat.shiftLeft_add_eq_or_of_lt hw,
    Nat.shiftLeft_add_eq_or_of_lt hyw, Nat.shiftLeft_or_distrib]
  ac_rfl

/-- The lower 24 bits of the bank: each character carries the signs of those behind it. -/
theorem toNat_bankOf (a b c : UInt8) : (bankOf a b c).toNat % 2 ^ 24 =
    Rfc4648.bits (a ||| high b ||| high c) (b ||| high c) c := by
  have ha := a.toNat_lt
  have hb := b.toNat_lt
  have hc := c.toNat_lt
  have hhb := (high b).toNat_lt
  have hhc := (high c).toNat_lt
  have hfirst : (promote a <<< 16).toNat % 2 ^ 24 = (a.toNat * 256 + 0) * 256 + 0 := by
    rw [UInt32.toNat_shiftLeft, toNat_promote]
    simp only [UInt32.reduceToNat, Nat.reduceMod, Nat.shiftLeft_eq, Nat.reducePow]
    omega
  have hsecond : (promote b <<< 8).toNat % 2 ^ 24 =
      ((high b).toNat * 256 + b.toNat) * 256 + 0 := by
    rw [UInt32.toNat_shiftLeft, toNat_promote]
    simp only [UInt32.reduceToNat, Nat.reduceMod, Nat.shiftLeft_eq, Nat.reducePow]
    omega
  have hthird : (promote c).toNat % 2 ^ 24 =
      ((high c).toNat * 256 + (high c).toNat) * 256 + c.toNat := by
    rw [toNat_promote]
    omega
  unfold bankOf Rfc4648.bits
  rw [UInt32.toNat_or, UInt32.toNat_or, Nat.or_mod_two_pow, Nat.or_mod_two_pow, hfirst, hsecond,
    hthird, or_byte (by decide) (by decide), or_byte (by decide) hb, or_byte (by decide) hc,
    Nat.zero_or, Nat.zero_or, or_byte hb hhc, UInt8.toNat_or, UInt8.toNat_or, UInt8.toNat_or,
    Nat.add_mul, Nat.mul_assoc, Nat.zero_or]

/-- The six bits that `index` takes. -/
theorem toNat_index (bank : UInt32) {j : ℕ} (hj : j < 4) :
    (index bank j).toNat = Rfc4648.sextet (bank.toNat % 2 ^ 24) j := by
  have hbank := bank.toNat_lt
  unfold index Rfc4648.sextet
  rcases (by omega : j = 0 ∨ j = 1 ∨ j = 2 ∨ j = 3) with rfl | rfl | rfl | rfl
  all_goals
    simp only [UInt32.toNat_toUInt8, UInt32.toNat_shiftRight, UInt32.toNat_shiftLeft,
      UInt32.reduceToNat, Nat.reduceMod, Nat.shiftLeft_eq, Nat.shiftRight_eq_div_pow,
      Nat.reducePow, Nat.reduceSub]
    omega

/-- The table holds the alphabet. -/
theorem codec_symbol {v : ℕ} (hv : v < 64) : codec.getD v 0 = Rfc4648.symbol v :=
  Rfc4648.forall_symbol (P := fun v => codec.getD v 0 = Rfc4648.symbol v) (by decide) hv

/-- The symbol that `Encode` takes for the character `j` of a group. -/
theorem codec_index (a b c : UInt8) {j : ℕ} (hj : j < 4) :
    codec.getD (index (bankOf a b c) j).toNat 0 =
      Rfc4648.symbol (Rfc4648.sextet (Rfc4648.bits (a ||| high b ||| high c) (b ||| high c) c) j) := by
  rw [toNat_index _ hj, toNat_bankOf, codec_symbol (Rfc4648.sextet_lt _ _)]

/-! ### Encoding -/

/-- The bytes as the bank holds them: each carries the signs of those behind it in its group. -/
def smear : Bytes → Bytes
  | [] => []
  | [a] => [a]
  | [a, b] => [a ||| high b, b]
  | a :: b :: c :: rest => (a ||| high b ||| high c) :: (b ||| high c) :: c :: smear rest

/-- The character `i` of the result for the bytes `d`. -/
def charOf (d : Bytes) (i : ℕ) : UInt8 :=
  if i < (4 * d.length + 2) / 3 then
    codec.getD (index (bankOf (d.getD (i / 4 * 3) 0) (d.getD (i / 4 * 3 + 1) 0)
      (d.getD (i / 4 * 3 + 2) 0)) (i % 4)).toNat 0
  else 61

/-- The next group has the characters four places further on. -/
theorem charOf_add_four (a b c : UInt8) (rest : Bytes) (i : ℕ) :
    charOf (a :: b :: c :: rest) (i + 4) = charOf rest i := by
  have hgroup : (i + 4) / 4 * 3 = i / 4 * 3 + 3 := by omega
  have hneeded : i + 4 < (4 * (a :: b :: c :: rest).length + 2) / 3 ↔
      i < (4 * rest.length + 2) / 3 := by
    simp only [List.length_cons]
    omega
  have hplace : (i + 4) % 4 = i % 4 := by omega
  unfold charOf
  rw [if_congr hneeded rfl rfl, hgroup, hplace]
  rfl

/-- The characters of the first group. -/
theorem charOf_first (d : Bytes) {j : ℕ} (hj : j < 4) :
    charOf d j = if j < (4 * d.length + 2) / 3 then
      Rfc4648.symbol (Rfc4648.sextet (Rfc4648.bits (d.getD 0 0 ||| high (d.getD 1 0) |||
        high (d.getD 2 0)) (d.getD 1 0 ||| high (d.getD 2 0)) (d.getD 2 0)) j)
      else Rfc4648.pad := by
  have hgroup : j / 4 * 3 = 0 := by omega
  have hplace : j % 4 = j := by omega
  unfold charOf
  rw [hgroup, hplace, codec_index _ _ _ hj]
  rfl

/-- A block of four, and what follows it. -/
theorem map_range_add_four {α : Type} (f : ℕ → α) (n : ℕ) :
    (List.range (n + 4)).map f =
      f 0 :: f 1 :: f 2 :: f 3 :: (List.range n).map fun i => f (i + 4) := by
  have hshift : (f ∘ fun i => 4 + i) = fun i => f (i + 4) :=
    funext fun i => congrArg f (Nat.add_comm 4 i)
  rw [Nat.add_comm, List.range_add, List.map_append, List.map_map, hshift]
  rfl

theorem map_charOf (d : Bytes) :
    (List.range (4 * ((d.length + 2) / 3))).map (charOf d) = Rfc4648.encode (smear d) := by
  have hzero : high 0 = 0 := rfl
  induction d using smear.induct with
  | case1 => rfl
  | case2 a =>
    have hlength : 4 * (([a].length + 2) / 3) = 0 + 4 := by simp
    rw [hlength, map_range_add_four]
    simp [charOf_first, smear, Rfc4648.encode, hzero]
  | case3 a b =>
    have hlength : 4 * (([a, b].length + 2) / 3) = 0 + 4 := by simp
    rw [hlength, map_range_add_four]
    simp [charOf_first, smear, Rfc4648.encode, hzero]
  | case4 a b c rest ih =>
    have hlength : 4 * (((a :: b :: c :: rest).length + 2) / 3) =
        4 * ((rest.length + 2) / 3) + 4 := by
      simp only [List.length_cons]
      omega
    have hneeded : ∀ j < 4, j < (4 * (a :: b :: c :: rest).length + 2) / 3 := fun j hj => by
      simp only [List.length_cons]
      omega
    rw [hlength, map_range_add_four]
    simp only [charOf_add_four, ih, smear, Rfc4648.encode]
    rw [charOf_first _ (by decide), charOf_first _ (by decide), charOf_first _ (by decide),
      charOf_first _ (by decide), if_pos (hneeded 0 (by decide)), if_pos (hneeded 1 (by decide)),
      if_pos (hneeded 2 (by decide)), if_pos (hneeded 3 (by decide))]
    rfl

/-- The length of a string. -/
theorem toNat_strlen {d : Bytes} (hd : ∀ x ∈ d, x ≠ 0) (hlength : d.length < 65536)
    (rest : Bytes) : (strlen (d ++ 0 :: rest)).toNat = d.length := by
  have hpos : ∀ x ∈ d, (decide (x ≠ 0)) = true := fun x hx => decide_eq_true (hd x hx)
  have htake : (d ++ 0 :: rest).takeWhile (· ≠ 0) = d := by
    rw [List.takeWhile_append_of_pos hpos, List.takeWhile_cons_of_neg (by simp), List.append_nil]
  unfold strlen
  rw [htake]
  exact Nat.mod_eq_of_lt hlength

theorem toNat_neededChars {length : UInt16} (h : length.toNat ≤ 8191) :
    (neededChars length).toNat = (4 * length.toNat + 2) / 3 := by
  have hbits : (length * 8).toNat = length.toNat * 8 := by
    rw [UInt16.toNat_mul]
    exact Nat.mod_eq_of_lt (show length.toNat * 8 < 65536 by omega)
  have hquotient : (length * 8 / 6).toNat = length.toNat * 8 / 6 := by
    rw [UInt16.toNat_div, hbits]
    rfl
  have hrest : (length * 8 % 6).toNat = length.toNat * 8 % 6 := by
    rw [UInt16.toNat_mod, hbits]
    rfl
  have hsix : ¬ length * 8 % 6 > 6 := by
    rw [gt_iff_lt, UInt16.lt_iff_toNat_lt, hrest, show (6 : UInt16).toNat = 6 from rfl]
    omega
  have hzero : length * 8 % 6 > 0 ↔ 0 < length.toNat * 8 % 6 := by
    rw [gt_iff_lt, UInt16.lt_iff_toNat_lt, hrest]
    rfl
  unfold neededChars
  dsimp only
  rw [if_neg hsix]
  by_cases hsome : 0 < length.toNat * 8 % 6
  · rw [if_pos (hzero.mpr hsome), UInt16.toNat_add, hquotient]
    show (length.toNat * 8 / 6 + 1) % 65536 = (4 * length.toNat + 2) / 3
    rw [Nat.mod_eq_of_lt (by omega)]
    omega
  · rw [if_neg (mt hzero.mp hsome), hquotient]
    omega

theorem toNat_outputLength {length : UInt16} (h : length.toNat ≤ 8191) :
    (outputLength length).toNat = 4 * ((length.toNat + 2) / 3) := by
  have hneeded := toNat_neededChars h
  have hrest : (neededChars length % 4).toNat = (neededChars length).toNat % 4 := by
    rw [UInt16.toNat_mod]
    rfl
  have hsome : neededChars length % 4 > 0 ↔ 0 < (neededChars length).toNat % 4 := by
    rw [gt_iff_lt, UInt16.lt_iff_toNat_lt, hrest]
    rfl
  have hfour : (4 - neededChars length % 4).toNat = 4 - (neededChars length).toNat % 4 := by
    rw [UInt16.toNat_sub_of_le, hrest]
    · rfl
    · rw [UInt16.le_iff_toNat_le, hrest]
      exact Nat.le_of_lt (Nat.mod_lt _ (by decide))
  unfold outputLength
  by_cases hfill : 0 < (neededChars length).toNat % 4
  · rw [if_pos (hsome.mpr hfill), UInt16.toNat_add, hfour]
    show ((neededChars length).toNat + (4 - (neededChars length).toNat % 4)) % 65536 =
      4 * ((length.toNat + 2) / 3)
    have hsmall : (neededChars length).toNat + (4 - (neededChars length).toNat % 4) < 65536 := by
      omega
    rw [Nat.mod_eq_of_lt hsmall]
    rcases (by omega : (neededChars length).toNat % 4 = 1 ∨ (neededChars length).toNat % 4 = 2 ∨
      (neededChars length).toNat % 4 = 3) with hone | htwo | hthree <;> omega
  · rw [if_neg (mt hsome.mp hfill)]
    omega

/-- The bank at a group: characters behind the end are zeros. -/
theorem bank_eq {d rest : Bytes} {start length : UInt16} (hlength : length.toNat = d.length)
    (hstart : start.toNat + 2 < 65536) :
    bank (d ++ 0 :: rest) start length =
      bankOf (d.getD start.toNat 0) (d.getD (start.toNat + 1) 0) (d.getD (start.toNat + 2) 0) := by
  have hone : (start + 1).toNat = start.toNat + 1 := by
    rw [UInt16.toNat_add]
    exact Nat.mod_eq_of_lt (show start.toNat + 1 < 65536 by omega)
  have htwo : (start + 2).toNat = start.toNat + 2 := by
    rw [UInt16.toNat_add]
    exact Nat.mod_eq_of_lt hstart
  have hin : ∀ {n : ℕ}, n < d.length → (d ++ 0 :: rest).getD n 0 = d.getD n 0 := fun hn => by
    rw [List.getD_eq_getElem?_getD, List.getD_eq_getElem?_getD, List.getElem?_append_left hn]
  have hout : ∀ {n : ℕ}, ¬ n < d.length → promote (d.getD n 0) = 0 := fun hn => by
    rw [List.getD_eq_getElem?_getD, List.getElem?_eq_none (Nat.not_lt.mp hn)]
    rfl
  unfold bank bankOf
  simp only [UInt16.lt_iff_toNat_lt, hone, htwo, hlength]
  by_cases h2 : start.toNat + 2 < d.length
  · rw [if_pos h2, if_pos (by omega), if_pos (by omega), hin h2, hin (by omega), hin (by omega)]
  · rw [if_neg h2, hout h2, UInt32.or_zero]
    by_cases h1 : start.toNat + 1 < d.length
    · rw [if_pos h1, if_pos (by omega), hin h1, hin (by omega)]
    · rw [if_neg h1, hout h1]
      by_cases h0 : start.toNat < d.length
      · rw [if_pos h0, hin h0]
        exact UInt32.or_zero.symm
      · rw [if_neg h0, hout h0]
        rfl

/-- What `Encode` returns. -/
theorem encode_eq {d : Bytes} (hd : ∀ x ∈ d, x ≠ 0) (hlength : d.length ≤ 8191) (rest : Bytes) :
    Encode (d ++ 0 :: rest) true = some (Rfc4648.encode (smear d) ++ [0]) := by
  have hstrlen := toNat_strlen hd (by omega) rest
  have hshort : (strlen (d ++ 0 :: rest)).toNat ≤ 8191 := by omega
  have hchars : (List.range (outputLength (strlen (d ++ 0 :: rest))).toNat).map
      (encodeChar (d ++ 0 :: rest) (strlen (d ++ 0 :: rest))) =
      Rfc4648.encode (smear d) := by
    rw [toNat_outputLength hshort, hstrlen, ← map_charOf]
    refine List.map_congr_left fun i hi => ?_
    have hsmall : i / 4 * 3 < 65536 - 2 := by
      have := List.mem_range.mp hi
      omega
    have hstart : (UInt16.ofNat (i / 4 * 3)).toNat = i / 4 * 3 :=
      Nat.mod_eq_of_lt (show i / 4 * 3 < 65536 by omega)
    unfold encodeChar charOf
    rw [toNat_neededChars hshort, hstrlen, bank_eq hstrlen (by omega), hstart]
  unfold Encode
  dsimp only
  rw [if_pos rfl, hchars]

/-! ### When the encoding is right -/

/-- In every group, a byte from 128 on has only bytes 255 in front of it. -/
def Clean : Bytes → Prop
  | [] => True
  | [_] => True
  | [a, b] => 128 ≤ b → a = 255
  | a :: b :: c :: rest => (128 ≤ b → a = 255) ∧ (128 ≤ c → a = 255 ∧ b = 255) ∧ Clean rest

/-- The sign of a byte leaves another alone. -/
theorem or_high_eq_self {a b : UInt8} : a ||| high b = a ↔ (128 ≤ b → a = 255) := by
  unfold high
  by_cases h : 128 ≤ b
  · rw [if_pos h]
    have hall : a ||| 255 = 255 := UInt8.or_neg_one
    rw [hall]
    exact ⟨fun heq _ => heq.symm, fun heq => (heq h).symm⟩
  · rw [if_neg h, UInt8.or_zero]
    exact ⟨fun _ h' => absurd h' h, fun _ => rfl⟩

/-- A bitwise or that alters nothing is one of two that alter nothing. -/
theorem or_eq_left {x y z : UInt8} (h : x ||| y ||| z = x) : x ||| y = x ∧ x ||| z = x := by
  constructor
  · calc x ||| y = x ||| y ||| z ||| y := by rw [h]
      _ = x ||| (y ||| y) ||| z := by ac_rfl
      _ = x := by rw [UInt8.or_self, h]
  · calc x ||| z = x ||| y ||| z ||| z := by rw [h]
      _ = x ||| y ||| (z ||| z) := by ac_rfl
      _ = x := by rw [UInt8.or_self, h]

/-- The text tells the bytes of a group apart. -/
theorem bits_of_symbols {a b c a' b' c' : UInt8}
    (h : ∀ j < 4, Rfc4648.symbol (Rfc4648.sextet (Rfc4648.bits a b c) j) =
      Rfc4648.symbol (Rfc4648.sextet (Rfc4648.bits a' b' c') j)) : a = a' ∧ b = b' ∧ c = c' :=
  Rfc4648.bits_injective
    (Rfc4648.bits_of_symbols (Rfc4648.bits_lt _ _ _) (Rfc4648.bits_lt _ _ _) h)

/-- The encoding is right if and only if no byte carries a sign that alters it. -/
theorem encode_smear_iff (d : Bytes) :
    Rfc4648.encode (smear d) = Rfc4648.encode d ↔ Clean d := by
  induction d using smear.induct with
  | case1 => exact iff_of_true rfl trivial
  | case2 a => exact iff_of_true rfl trivial
  | case3 a b =>
    rw [Clean, ← or_high_eq_self]
    constructor
    · intro h
      simp only [smear, Rfc4648.encode, List.cons.injEq, and_true] at h
      obtain ⟨h0, h1, h2⟩ := h
      have hthree : Rfc4648.sextet (Rfc4648.bits (a ||| high b) b 0) 3 =
          Rfc4648.sextet (Rfc4648.bits a b 0) 3 := by
        rw [Rfc4648.sextet_two, Rfc4648.sextet_two]
      have hsymbols : ∀ j < 4,
          Rfc4648.symbol (Rfc4648.sextet (Rfc4648.bits (a ||| high b) b 0) j) =
            Rfc4648.symbol (Rfc4648.sextet (Rfc4648.bits a b 0) j) := fun j hj => by
        rcases (by omega : j = 0 ∨ j = 1 ∨ j = 2 ∨ j = 3) with rfl | rfl | rfl | rfl
        · exact h0
        · exact h1
        · exact h2
        · rw [hthree]
      exact (bits_of_symbols hsymbols).1
    · intro h
      rw [smear, h]
  | case4 a b c rest ih =>
    constructor
    · intro h
      simp only [smear, Rfc4648.encode, List.cons.injEq] at h
      obtain ⟨h0, h1, h2, h3, hrest⟩ := h
      obtain ⟨ha, hb, -⟩ := bits_of_symbols fun j hj => by
        rcases (by omega : j = 0 ∨ j = 1 ∨ j = 2 ∨ j = 3) with rfl | rfl | rfl | rfl
        · exact h0
        · exact h1
        · exact h2
        · exact h3
      obtain ⟨hhb, hhc⟩ := or_eq_left ha
      exact ⟨or_high_eq_self.mp hhb,
        fun h => ⟨or_high_eq_self.mp hhc h, or_high_eq_self.mp hb h⟩, ih.mp hrest⟩
    · rintro ⟨hb, hc, hrest⟩
      have hsecond : b ||| high c = b := or_high_eq_self.mpr fun h => (hc h).2
      have hfirst : a ||| high b ||| high c = a := by
        rw [or_high_eq_self.mpr hb]
        exact or_high_eq_self.mpr fun h => (hc h).1
      rw [smear, hfirst, hsecond, Rfc4648.encode, Rfc4648.encode, ih.mpr hrest]

/-- `Encode` returns the encoding of a string if and only if no byte from 128 on follows another
than 255 in its group. -/
theorem encode_iff {d : Bytes} (hd : ∀ x ∈ d, x ≠ 0) (hlength : d.length ≤ 8191) (rest : Bytes) :
    Encode (d ++ 0 :: rest) true = some (Rfc4648.encode d ++ [0]) ↔ Clean d := by
  rw [encode_eq hd hlength, ← encode_smear_iff, Option.some.injEq]
  exact List.append_left_inj _

theorem encode_iff_umlaut :
    Encode ([72, 252] ++ 0 :: []) true = some (Rfc4648.encode [72, 252] ++ [0]) ↔
      Clean [72, 252] :=
  encode_iff (by decide) (by decide) []

/-- The string `Hü`, in Latin-1. -/
theorem encode_umlaut :
    Encode ([72, 252] ++ 0 :: []) true = some [47, 47, 119, 61, 0] ∧
      Rfc4648.encode [72, 252] = [83, 80, 119, 61] := by
  decide +kernel

/-! ### Decoding -/

/-- What one character adds to the bank, up to the table entry `n`. -/
def collect (x : UInt8) (shift : UInt32) (n : ℕ) : UInt32 :=
  (List.range n).foldl (fun bank q =>
    bank ||| if codec.getD q 0 = x then UInt32.ofNat q <<< shift else 0) 0

theorem collect_succ (x : UInt8) (shift : UInt32) (n : ℕ) : collect x shift (n + 1) =
    collect x shift n ||| if codec.getD n 0 = x then UInt32.ofNat n <<< shift else 0 := by
  unfold collect
  rw [List.range_succ, List.foldl_append]
  rfl

/-- The four characters add to the bank each its own. -/
theorem groupBank_eq (x0 x1 x2 x3 : UInt8) : groupBank x0 x1 x2 x3 =
    collect x0 26 64 ||| collect x1 20 64 ||| collect x2 14 64 ||| collect x3 8 64 := by
  have hor : ∀ (p : Prop) [Decidable p] (bank v : UInt32),
      (if p then bank ||| v else bank) = bank ||| if p then v else 0 := fun p _ bank v => by
    split
    · rfl
    · exact UInt32.or_zero.symm
  unfold groupBank
  generalize (64 : ℕ) = n
  induction n with
  | zero => exact show (0 : UInt32) = 0 ||| 0 ||| 0 ||| 0 by decide
  | succ n ih =>
    rw [List.range_succ, List.foldl_append, ih]
    simp only [List.foldl_cons, List.foldl_nil, hor, collect_succ]
    ac_rfl

/-- The character `x` stands for the six bits `v`. -/
def Stands (x : UInt8) (v : ℕ) : Prop :=
  v < 64 ∧ (x = Rfc4648.symbol v ∨ x = Rfc4648.pad ∧ v = 0)

theorem collect_stands {x : UInt8} {v : ℕ} (h : Stands x v) (shift : UInt32) :
    collect x shift 64 = UInt32.ofNat v <<< shift := by
  obtain ⟨hv, hsymbol | ⟨hpad, hzero⟩⟩ := h
  · have hupto : ∀ n ≤ 64, collect x shift n =
        if v < n then UInt32.ofNat v <<< shift else 0 := fun n hn => by
      induction n with
      | zero => rfl
      | succ n ih =>
        have hfound : codec.getD n 0 = x ↔ n = v := by
          rw [codec_symbol (by omega), hsymbol]
          exact ⟨Rfc4648.symbol_injective (by omega) hv, fun h => by rw [h]⟩
        rw [collect_succ, ih (by omega)]
        by_cases heq : n = v
        · rw [if_pos (hfound.mpr heq), if_neg (by omega), if_pos (by omega), heq, UInt32.zero_or]
        · rw [if_neg (mt hfound.mp heq), UInt32.or_zero]
          exact if_congr (by omega) rfl rfl
    rw [hupto 64 (Nat.le_refl _), if_pos hv]
  · have hupto : ∀ n ≤ 64, collect x shift n = 0 := fun n hn => by
      induction n with
      | zero => rfl
      | succ n ih =>
        have hother : codec.getD n 0 ≠ x := by
          rw [codec_symbol (by omega), hpad]
          exact Rfc4648.symbol_ne_pad (by omega)
        rw [collect_succ, ih (by omega), if_neg hother, UInt32.or_zero]
    rw [hupto 64 (Nat.le_refl _), hzero]
    exact UInt32.zero_shiftLeft.symm

/-- The bank of four characters that stand for the parts of `n`. -/
theorem toNat_groupBank {x0 x1 x2 x3 : UInt8} {n : ℕ} (hn : n < 16777216)
    (h0 : Stands x0 (Rfc4648.sextet n 0)) (h1 : Stands x1 (Rfc4648.sextet n 1))
    (h2 : Stands x2 (Rfc4648.sextet n 2)) (h3 : Stands x3 (Rfc4648.sextet n 3)) :
    (groupBank x0 x1 x2 x3).toNat = 256 * n := by
  have hbits := Rfc4648.bits_eq hn
  rw [groupBank_eq, collect_stands h0, collect_stands h1, collect_stands h2, collect_stands h3]
  obtain ⟨hv0, hv1, hv2, hv3⟩ : _ ∧ _ ∧ _ ∧ _ := ⟨h0.1, h1.1, h2.1, h3.1⟩
  generalize Rfc4648.sextet n 0 = v0, Rfc4648.sextet n 1 = v1, Rfc4648.sextet n 2 = v2,
    Rfc4648.sextet n 3 = v3 at hbits hv0 hv1 hv2 hv3 ⊢
  have hfirst : (UInt32.ofNat v0 <<< 26).toNat = 2 ^ 26 * v0 := by
    simp only [UInt32.toNat_shiftLeft, UInt32.toNat_ofNat', UInt32.reduceToNat, Nat.reduceMod,
      Nat.shiftLeft_eq, Nat.reducePow]
    omega
  have hsecond : (UInt32.ofNat v1 <<< 20).toNat = 2 ^ 20 * v1 := by
    simp only [UInt32.toNat_shiftLeft, UInt32.toNat_ofNat', UInt32.reduceToNat, Nat.reduceMod,
      Nat.shiftLeft_eq, Nat.reducePow]
    omega
  have hthird : (UInt32.ofNat v2 <<< 14).toNat = 2 ^ 14 * v2 := by
    simp only [UInt32.toNat_shiftLeft, UInt32.toNat_ofNat', UInt32.reduceToNat, Nat.reduceMod,
      Nat.shiftLeft_eq, Nat.reducePow]
    omega
  have hfourth : (UInt32.ofNat v3 <<< 8).toNat = 2 ^ 8 * v3 := by
    simp only [UInt32.toNat_shiftLeft, UInt32.toNat_ofNat', UInt32.reduceToNat, Nat.reduceMod,
      Nat.shiftLeft_eq, Nat.reducePow]
    omega
  have htwo : 2 ^ 26 * v0 ||| 2 ^ 20 * v1 = 2 ^ 20 * (64 * v0 + v1) := by
    rw [← Nat.two_pow_add_eq_or_of_lt (by omega)]
    omega
  have hthree : 2 ^ 20 * (64 * v0 + v1) ||| 2 ^ 14 * v2 =
      2 ^ 14 * (4096 * v0 + 64 * v1 + v2) := by
    rw [← Nat.two_pow_add_eq_or_of_lt (by omega)]
    omega
  rw [UInt32.toNat_or, UInt32.toNat_or, UInt32.toNat_or, hfirst, hsecond, hthird, hfourth, htwo,
    hthree, ← Nat.two_pow_add_eq_or_of_lt (by omega)]
  omega

/-- The three bytes that are written for the bank of a group. -/
theorem bytes_of_bank {bank : UInt32} {a b c : UInt8}
    (h : bank.toNat = 256 * Rfc4648.bits a b c) :
    (bank >>> 24).toUInt8 = a ∧ (bank >>> 16).toUInt8 = b ∧ (bank >>> 8).toUInt8 = c := by
  have ha := a.toNat_lt
  have hb := b.toNat_lt
  have hc := c.toNat_lt
  unfold Rfc4648.bits at h
  refine ⟨UInt8.toNat_inj.mp ?_, UInt8.toNat_inj.mp ?_, UInt8.toNat_inj.mp ?_⟩
  all_goals
    simp only [UInt32.toNat_toUInt8, UInt32.toNat_shiftRight, UInt32.reduceToNat, Nat.reduceMod,
      Nat.shiftRight_eq_div_pow, Nat.reducePow, h]
    omega

/-- Three bytes written into a buffer. -/
theorem set_three {buffer : Bytes} {b : ℕ} (h : b + 3 ≤ buffer.length) (x y z : UInt8) :
    ((buffer.set b x).set (b + 1) y).set (b + 2) z =
      buffer.take b ++ x :: y :: z :: buffer.drop (b + 3) := by
  induction buffer generalizing b with
  | nil => exact absurd h (by simp)
  | cons p buffer ih =>
    cases b with
    | zero =>
      match buffer, h with
      | q :: r :: rest, _ => rfl
    | succ b =>
      have htail : b + 3 ≤ buffer.length := by
        simp only [List.length_cons] at h
        omega
      have hset := ih htail
      simp only [List.set_cons_succ, List.take_succ_cons, List.cons_append, Nat.add_right_comm b 1]
      exact congrArg (p :: ·) hset

/-- The bytes of a text, with a zero byte for each padding. -/
def padded (d : Bytes) : Bytes := d ++ List.replicate (Rfc4648.padding d) 0

/-- There are as many as the text has `=`. -/
theorem padded_eq (d : Bytes) :
    padded d = d ++ List.replicate ((Rfc4648.encode d).count Rfc4648.pad) 0 := by
  rw [padded, Rfc4648.count_pad_encode]

/-- The first group of a text, and what its bank holds. -/
theorem encode_group {d : Bytes} (hd : d ≠ []) : ∃ (a b c x0 x1 x2 x3 : UInt8) (rest : Bytes),
    Rfc4648.encode d = x0 :: x1 :: x2 :: x3 :: Rfc4648.encode rest ∧
    (groupBank x0 x1 x2 x3).toNat = 256 * Rfc4648.bits a b c ∧
    (d.length + 2) / 3 = (rest.length + 2) / 3 + 1 ∧
    padded d = a :: b :: c :: padded rest := by
  have hsymbol : ∀ n j, Stands (Rfc4648.symbol (Rfc4648.sextet n j)) (Rfc4648.sextet n j) :=
    fun n j => ⟨Rfc4648.sextet_lt n j, .inl rfl⟩
  have hpad : ∀ {v}, v = 0 → Stands Rfc4648.pad v := fun hv => ⟨by omega, .inr ⟨rfl, hv⟩⟩
  match d, hd with
  | [a], _ =>
    obtain ⟨htwo, hthree⟩ := Rfc4648.sextet_one a
    exact ⟨a, 0, 0, _, _, _, _, [], rfl, toNat_groupBank (Rfc4648.bits_lt a 0 0) (hsymbol _ 0)
      (hsymbol _ 1) (hpad htwo) (hpad hthree), by simp, rfl⟩
  | [a, b], _ =>
    exact ⟨a, b, 0, _, _, _, _, [], rfl, toNat_groupBank (Rfc4648.bits_lt a b 0) (hsymbol _ 0)
      (hsymbol _ 1) (hsymbol _ 2) (hpad (Rfc4648.sextet_two a b)), by simp, rfl⟩
  | a :: b :: c :: rest, _ =>
    have hpadding : Rfc4648.padding (a :: b :: c :: rest) = Rfc4648.padding rest := by
      unfold Rfc4648.padding
      simp only [List.length_cons]
      omega
    refine ⟨a, b, c, _, _, _, _, rest, rfl, toNat_groupBank (Rfc4648.bits_lt a b c) (hsymbol _ 0)
      (hsymbol _ 1) (hsymbol _ 2) (hsymbol _ 3), ?_, ?_⟩
    · simp only [List.length_cons]
      omega
    · unfold padded
      rw [hpadding]
      rfl

/-- The loop leaves the bytes of the text in the buffer, also where it reads from there: what it
has not read yet lies behind what it writes. -/
theorem decodeGroups_encode {inPlace : Bool} {input : Bytes} {n : ℕ} {d tail buffer : Bytes}
    {i b : ℕ} (hn : (d.length + 2) / 3 = n) (hbi : b ≤ i) (hroom : b + 3 * n ≤ buffer.length)
    (hsource : (if inPlace then buffer else input).drop i = Rfc4648.encode d ++ tail) :
    decodeGroups inPlace input n i b buffer =
      buffer.take b ++ padded d ++ buffer.drop (b + 3 * n) := by
  induction n generalizing d i b buffer with
  | zero =>
    have hnil : d = [] := List.length_eq_zero_iff.mp (by omega)
    subst hnil
    exact (List.take_append_drop b buffer).symm.trans (by simp [padded, Rfc4648.padding])
  | succ n ih =>
    have hd : d ≠ [] := fun hnil => by
      rw [hnil] at hn
      exact absurd hn (by simp)
    obtain ⟨x, y, z, x0, x1, x2, x3, rest, hencode, hbank, hcount, hpadded⟩ := encode_group hd
    have hchar : ∀ (j : ℕ) (c : UInt8), (x0 :: x1 :: x2 :: x3 :: Rfc4648.encode rest ++ tail)[j]? =
        some c → (if inPlace then buffer else input).getD (i + j) 0 = c := fun j c hc => by
      rw [List.getD_eq_getElem?_getD, ← List.getElem?_drop, hsource, hencode, hc]
      rfl
    obtain ⟨hx, hy, hz⟩ := bytes_of_bank hbank
    have hset : ((buffer.set b x).set (b + 1) y).set (b + 2) z =
        (buffer.take b ++ [x, y, z]) ++ buffer.drop (b + 3) := by
      rw [set_three (by omega), List.append_assoc]
      rfl
    have hprefix : (buffer.take b ++ [x, y, z]).length = b + 3 := by
      rw [List.length_append, List.length_take_of_le (by omega)]
      rfl
    have hfirst : (if inPlace then buffer else input).getD i 0 = x0 := hchar 0 x0 rfl
    rw [decodeGroups, hfirst, hchar 1 x1 rfl, hchar 2 x2 rfl, hchar 3 x3 rfl, hx, hy, hz]
    have hbehind : (((buffer.set b x).set (b + 1) y).set (b + 2) z).drop (b + 3) =
        buffer.drop (b + 3) := by
      rw [hset, List.drop_left' hprefix]
    have hnext : (if inPlace then ((buffer.set b x).set (b + 1) y).set (b + 2) z else input).drop
        (i + 4) = Rfc4648.encode rest ++ tail := by
      have hrest : (if inPlace then buffer else input).drop (i + 4) =
          Rfc4648.encode rest ++ tail := by
        rw [← List.drop_drop, hsource, hencode]
        rfl
      cases inPlace with
      | false => exact hrest
      | true =>
        obtain ⟨k, hk⟩ : ∃ k, i + 4 = b + 3 + k := ⟨i + 4 - (b + 3), by omega⟩
        rw [if_pos rfl, hk, ← List.drop_drop] at hrest ⊢
        rw [hbehind, hrest]
    rw [ih (d := rest) (by omega) (by omega) (by simp only [List.length_set]; omega) hnext,
      ← List.drop_drop, hbehind, hset, List.take_left' hprefix, List.drop_drop, hpadded]
    have hend : b + 3 + 3 * n = b + 3 * (n + 1) := by omega
    rw [hend]
    simp only [List.append_assoc, List.cons_append, List.nil_append]

theorem length_padded (d : Bytes) : (padded d).length = 3 * ((d.length + 2) / 3) := by
  unfold padded Rfc4648.padding
  rw [List.length_append, List.length_replicate]
  omega

/-- The block that `Decode` leaves, in place or not: the bytes, a zero for each padding, and the
terminating zero. -/
theorem decode_eq {d rest block : Bytes} {inPlace : Bool} {allocated : Option Bytes}
    (hlength : (Rfc4648.encode d).length ≤ 10920)
    (hblock : (if inPlace then some (Rfc4648.encode d ++ 0 :: rest) else allocated) = some block)
    (hroom : 3 * (Rfc4648.encode d).length / 4 < block.length) :
    Decode (Rfc4648.encode d ++ 0 :: rest) inPlace allocated =
      some (padded d ++ 0 :: block.drop (3 * (Rfc4648.encode d).length / 4 + 1)) := by
  have htext := Rfc4648.length_encode d
  have hstrlen := toNat_strlen (Rfc4648.encode_ne_zero d) (by omega) rest
  have hmod : ¬ strlen (Rfc4648.encode d ++ 0 :: rest) % 4 ≠ 0 := by
    rw [not_not, ← UInt16.toNat_inj, UInt16.toNat_mod, hstrlen]
    show (Rfc4648.encode d).length % 4 = 0
    omega
  have houtlen : (strlen (Rfc4648.encode d ++ 0 :: rest) * 6 / 8).toNat =
      3 * (Rfc4648.encode d).length / 4 := by
    have hsix : (strlen (Rfc4648.encode d ++ 0 :: rest) * 6).toNat =
        (Rfc4648.encode d).length * 6 := by
      rw [UInt16.toNat_mul, hstrlen]
      exact Nat.mod_eq_of_lt (show (Rfc4648.encode d).length * 6 < 65536 by omega)
    rw [UInt16.toNat_div, hsix]
    show (Rfc4648.encode d).length * 6 / 8 = _
    omega
  have hgroups : (d.length + 2) / 3 = (Rfc4648.encode d).length / 4 := by omega
  have hsource : (if inPlace then block else Rfc4648.encode d ++ 0 :: rest).drop 0 =
      Rfc4648.encode d ++ 0 :: rest := by
    cases inPlace with
    | false => rfl
    | true => exact (Option.some.inj hblock).symm
  have hloop := decodeGroups_encode (b := 0) hgroups (Nat.le_refl 0) (by omega) hsource
  have hpadded : (padded d).length = 3 * (Rfc4648.encode d).length / 4 := by
    rw [length_padded]
    omega
  have hthree : 0 + 3 * ((Rfc4648.encode d).length / 4) = 3 * (Rfc4648.encode d).length / 4 := by
    omega
  unfold Decode
  dsimp only
  rw [if_neg hmod, hblock, hstrlen, houtlen]
  dsimp only
  rw [hloop, hthree, List.take_zero, List.nil_append, ← hpadded,
    List.set_append_right _ _ (Nat.le_refl _), Nat.sub_self, List.drop_eq_getElem_cons (by omega)]
  rfl

/-- `Decode` inverts the encoding, in place or not: it leaves the bytes, a zero for each padding,
and a terminating zero. -/
theorem decode_encode {d : Bytes} (hlength : (Rfc4648.encode d).length ≤ 10920) (rest : Bytes)
    (allocated : Option Bytes) {fresh : Bytes}
    (hfresh : fresh.length = 3 * (Rfc4648.encode d).length / 4 + 1) :
    (padded d).length = 3 * (Rfc4648.encode d).length / 4 ∧
      Decode (Rfc4648.encode d ++ 0 :: rest) true allocated = some (padded d ++ 0 ::
        (Rfc4648.encode d ++ 0 :: rest).drop (3 * (Rfc4648.encode d).length / 4 + 1)) ∧
      Decode (Rfc4648.encode d ++ 0 :: rest) false (some fresh) = some (padded d ++ [0]) := by
  have htext := Rfc4648.length_encode d
  refine ⟨?_, decode_eq hlength rfl ?_, ?_⟩
  · rw [length_padded]
    omega
  · rw [List.length_append, List.length_cons]
    omega
  · have hend : Decode (Rfc4648.encode d ++ 0 :: rest) false (some fresh) =
        some (padded d ++ 0 :: fresh.drop (3 * (Rfc4648.encode d).length / 4 + 1)) :=
      decode_eq hlength rfl (by omega)
    rwa [List.drop_eq_nil_of_le (by omega)] at hend

/-- "Many hands", four groups of which the last has two characters of padding. -/
theorem decode_encode_groups :
    let d : Bytes := [77, 97, 110, 121, 32, 104, 97, 110, 100, 115]
    (padded d).length = 3 * (Rfc4648.encode d).length / 4 ∧
      Decode (Rfc4648.encode d ++ 0 :: []) true none = some (padded d ++ 0 ::
        (Rfc4648.encode d ++ 0 :: []).drop (3 * (Rfc4648.encode d).length / 4 + 1)) ∧
      Decode (Rfc4648.encode d ++ 0 :: []) false (some (List.replicate 13 0)) =
        some (padded d ++ [0]) :=
  decode_encode (by decide +kernel) [] none (by decide +kernel)

end Base64
end AtmegaNet
