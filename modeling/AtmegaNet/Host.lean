import Mathlib.Tactic.IntervalCases
import AtmegaNet.Lib.Region

/-!
# Host byte order

The AVR target stores a 16-bit or 32-bit word least significant byte first; the macros of
`Host.h` swap words into network byte order and back. This module embeds the macros as
they are written and the words' storage (`bytesOf16`, `word16`, …), and proves that a word
written in network order and read back the same way is unchanged.

The addresses of the stack, `IPAddr` and `MACAddr`, are fixed-size byte arrays in the
source and structures here, so that an address of the wrong length cannot be built.
-/

namespace AtmegaNet

/-- A byte string. -/
abbrev Bytes := List UInt8

/-- A statement about the members of a list is decided along the list, also where its type has
only finitely many values. -/
instance (priority := high) decidableForallMem {α : Type} (p : α → Prop) [DecidablePred p]
    (l : List α) : Decidable (∀ a ∈ l, p a) :=
  List.decidableBAll p l

/-- `#define HTONS(s) (s >> 8 | s << 8)`, on a 16-bit `int`. -/
def HTONS (s : UInt16) : UInt16 := s >>> 8 ||| s <<< 8

/-- `#define NTOHS(s) HTONS(s)` -/
def NTOHS (s : UInt16) : UInt16 := HTONS s

/-- `#define HTONL(w) (w>>24|w<<8>>24<<8|w>>8<<24>>8|w<<24)` -/
def HTONL (w : UInt32) : UInt32 :=
  w >>> 24 ||| w <<< 8 >>> 24 <<< 8 ||| w >>> 8 <<< 24 >>> 8 ||| w <<< 24

/-- `#define NTOHL(w) HTONL(w)` -/
def NTOHL (w : UInt32) : UInt32 := HTONL w

/-- The bytes of a 16-bit word in memory. -/
def bytesOf16 (d : UInt16) : Bytes := [d.toUInt8, (d >>> 8).toUInt8]

/-- The bytes of a 32-bit word in memory. -/
def bytesOf32 (d : UInt32) : Bytes :=
  [d.toUInt8, (d >>> 8).toUInt8, (d >>> 16).toUInt8, (d >>> 24).toUInt8]

/-- The 16-bit word stored in the first two bytes of a block. -/
def word16 (b : Bytes) : UInt16 := (b.getD 0 0).toUInt16 ||| (b.getD 1 0).toUInt16 <<< 8

/-- The 32-bit word stored in the first four bytes of a block. -/
def word32 (b : Bytes) : UInt32 :=
  (b.getD 0 0).toUInt32 ||| (b.getD 1 0).toUInt32 <<< 8 |||
    (b.getD 2 0).toUInt32 <<< 16 ||| (b.getD 3 0).toUInt32 <<< 24

@[simp] theorem length_bytesOf16 (d : UInt16) : (bytesOf16 d).length = 2 := rfl

@[simp] theorem length_bytesOf32 (d : UInt32) : (bytesOf32 d).length = 4 := rfl

/-- Bytes can be tried out one by one. -/
theorem forall_uint8 {P : UInt8 → Prop} (h : ∀ b : BitVec 8, P ⟨b⟩) (x : UInt8) : P x :=
  h x.toBitVec

/-- Swapping the bytes of a 16-bit word twice is the identity. -/
@[simp] theorem NTOHS_HTONS (s : UInt16) : NTOHS (HTONS s) = s := by
  unfold NTOHS HTONS
  apply UInt16.toBitVec_inj.1
  ext i hi
  simp only [UInt16.toBitVec_or, UInt16.toBitVec_shiftLeft, UInt16.toBitVec_shiftRight]
  interval_cases i <;> simp

/-- Swapping the bytes of a 32-bit word twice is the identity. -/
@[simp] theorem NTOHL_HTONL (w : UInt32) : NTOHL (HTONL w) = w := by
  unfold NTOHL HTONL
  apply UInt32.toBitVec_inj.1
  ext i hi
  simp only [UInt32.toBitVec_or, UInt32.toBitVec_shiftLeft, UInt32.toBitVec_shiftRight]
  interval_cases i <;> simp

/-- A 16-bit word is read back from its bytes. -/
@[simp] theorem word16_bytesOf16 (d : UInt16) : word16 (bytesOf16 d) = d := by
  unfold word16 bytesOf16
  apply UInt16.toBitVec_inj.1
  ext i hi
  simp only [List.getD_cons_zero, List.getD_cons_succ, UInt16.toBitVec_or,
    UInt16.toBitVec_shiftLeft, UInt8.toBitVec_toUInt16, UInt16.toBitVec_toUInt8,
    UInt16.toBitVec_shiftRight]
  interval_cases i <;> simp

/-- A 32-bit word is read back from its bytes. -/
@[simp] theorem word32_bytesOf32 (d : UInt32) : word32 (bytesOf32 d) = d := by
  unfold word32 bytesOf32
  apply UInt32.toBitVec_inj.1
  ext i hi
  simp only [List.getD_cons_zero, List.getD_cons_succ, UInt32.toBitVec_or,
    UInt32.toBitVec_shiftLeft, UInt8.toBitVec_toUInt32, UInt32.toBitVec_toUInt8,
    UInt32.toBitVec_shiftRight]
  interval_cases i <;> simp

/-- A 16-bit word in network order, from its bytes. -/
theorem NTOHS_word16 (c d : UInt8) : NTOHS (word16 [c, d]) = c.toUInt16 <<< 8 ||| d.toUInt16 := by
  unfold NTOHS HTONS word16
  apply UInt16.toBitVec_inj.1
  ext i hi
  simp only [List.getD_cons_zero, List.getD_cons_succ, UInt16.toBitVec_or,
    UInt16.toBitVec_shiftLeft, UInt8.toBitVec_toUInt16, UInt16.toBitVec_shiftRight]
  interval_cases i <;> simp

theorem toNat_NTOHS_word16 (c d : UInt8) :
    (NTOHS (word16 [c, d])).toNat = 256 * c.toNat + d.toNat := by
  have hc := c.toNat_lt
  have hd := d.toNat_lt
  have hshift : (c.toUInt16 <<< 8).toNat = c.toNat <<< 8 := by
    rw [UInt16.toNat_shiftLeft, UInt8.toNat_toUInt16]
    exact Nat.mod_eq_of_lt (by simp [Nat.shiftLeft_eq]; omega)
  rw [NTOHS_word16, UInt16.toNat_or, hshift, UInt8.toNat_toUInt16,
    ← Nat.shiftLeft_add_eq_or_of_lt hd, Nat.shiftLeft_eq]
  omega

/-- The bytes are swapped bit by bit. -/
theorem HTONL_or (x y : UInt32) : HTONL (x ||| y) = HTONL x ||| HTONL y := by
  have hcomm (p p' q q' r r' s s' : UInt32) :
      p ||| p' ||| (q ||| q') ||| (r ||| r') ||| (s ||| s') =
        p ||| q ||| r ||| s ||| (p' ||| q' ||| r' ||| s') := by ac_rfl
  unfold HTONL
  simp only [UInt32.shiftLeft_or, UInt32.shiftRight_or, hcomm]

/-- A byte of a word is swapped with the one as far from the other end. -/
theorem HTONL_byte (x : UInt8) :
    (HTONL x.toUInt32).toNat = 2 ^ 24 * x.toNat ∧
      (HTONL (x.toUInt32 <<< 8)).toNat = 2 ^ 16 * x.toNat ∧
      (HTONL (x.toUInt32 <<< 16)).toNat = 2 ^ 8 * x.toNat ∧
      (HTONL (x.toUInt32 <<< 24)).toNat = x.toNat := by
  revert x
  refine forall_uint8 ?_
  decide +kernel

/-- A 32-bit word in network order, from its bytes. -/
theorem toNat_NTOHL_word32 (a b c d : UInt8) : (NTOHL (word32 [a, b, c, d])).toNat =
    2 ^ 24 * a.toNat + (2 ^ 16 * b.toNat + (2 ^ 8 * c.toNat + d.toNat)) := by
  have hb := b.toNat_lt
  have hc := c.toNat_lt
  have hd := d.toNat_lt
  have hword : (NTOHL (word32 [a, b, c, d])).toNat =
      2 ^ 24 * a.toNat ||| (2 ^ 16 * b.toNat ||| (2 ^ 8 * c.toNat ||| d.toNat)) := by
    unfold NTOHL word32
    simp only [List.getD_cons_zero, List.getD_cons_succ, HTONL_or, UInt32.toNat_or,
      (HTONL_byte a).1, (HTONL_byte b).2.1, (HTONL_byte c).2.2.1, (HTONL_byte d).2.2.2]
    ac_rfl
  rw [hword, ← Nat.two_pow_add_eq_or_of_lt hd,
    ← Nat.two_pow_add_eq_or_of_lt (b := 2 ^ 8 * c.toNat + d.toNat) (by omega),
    ← Nat.two_pow_add_eq_or_of_lt (by omega)]

/-- An IPv4 address, `uint8_t[4]` in the source. -/
structure IPAddr where
  b0 : UInt8
  b1 : UInt8
  b2 : UInt8
  b3 : UInt8
  deriving DecidableEq, Repr

/-- The bytes of an address in the order they are stored. -/
def IPAddr.bytes (a : IPAddr) : Bytes := [a.b0, a.b1, a.b2, a.b3]

/-- The address stored in the first four bytes of a block. -/
def IPAddr.ofBytes (b : Bytes) : IPAddr :=
  ⟨b.getD 0 0, b.getD 1 0, b.getD 2 0, b.getD 3 0⟩

@[simp] theorem IPAddr.length_bytes (a : IPAddr) : a.bytes.length = 4 := rfl

@[simp] theorem IPAddr.ofBytes_bytes (a : IPAddr) : IPAddr.ofBytes a.bytes = a := rfl

/-- Apply a function of two octets to two addresses, octet by octet. -/
def IPAddr.map₂ (f : UInt8 → UInt8 → UInt8) (a b : IPAddr) : IPAddr :=
  ⟨f a.b0 b.b0, f a.b1 b.b1, f a.b2 b.b2, f a.b3 b.b3⟩

/-- The sum of the two 16-bit words of an address in network order, as both checksum
functions add it to their pseudo header: `HTONS(*((uint16_t*)ip))` and
`HTONS(*((uint16_t*)(ip+2)))`. -/
def IPAddr.words (a : IPAddr) : UInt32 :=
  (HTONS (word16 [a.b0, a.b1])).toUInt32 + (HTONS (word16 [a.b2, a.b3])).toUInt32

/-- An Ethernet address, `uint8_t[6]` in the source. -/
structure MACAddr where
  m0 : UInt8
  m1 : UInt8
  m2 : UInt8
  m3 : UInt8
  m4 : UInt8
  m5 : UInt8
  deriving DecidableEq, Repr

/-- The bytes of an Ethernet address in the order they are stored. -/
def MACAddr.bytes (a : MACAddr) : Bytes := [a.m0, a.m1, a.m2, a.m3, a.m4, a.m5]

@[simp] theorem MACAddr.length_bytes (a : MACAddr) : a.bytes.length = 6 := rfl

/-- `broadcastMAC` -/
def broadcastMAC : MACAddr := ⟨0xFF, 0xFF, 0xFF, 0xFF, 0xFF, 0xFF⟩

end AtmegaNet
