import AtmegaNet.Host
import AtmegaNet.Lib.Walk

/-!
# The ENC28J60 driver

The controller has 8 KiB of RAM, of which the driver takes one area for what it receives, one
for what it sends, and leaves the rest as a stash. The pointers with which the RAM is accessed
move on by one after every access, from the end of the receive area to its start. A DMA copies
from one place to another: from the address in `EDMAST` through the one in `EDMAND`, inclusive.

## Main results

* `copy_eq`: when `copy` starts a DMA, and where the DMA ends.
* `exactly_copied_iff`: the requests on which `copy` does what it is for: none that it has to
  serve, since the DMA takes one byte too many.
* `copy_overruns`: what this means for a stash.
-/

open Walk

namespace AtmegaNet
namespace ENC28J60Driver

/-! ### The chip -/

def RXSTART_INIT : UInt16 := 0x0000
def RXSTOP_INIT : UInt16 := 0x0BFF
def TXSTART_INIT : UInt16 := 0x0C00
def TXSTOP_INIT : UInt16 := 0x11FF
def STASH_START_INIT : UInt16 := 0x1200
def STASH_STOP_INIT : UInt16 := 0x1FFF
def MAX_FRAMELEN : UInt16 := 1500

/-- The RAM, and the bit of `ECON1` that is set while a DMA is in progress. -/
structure Chip where
  ram : ℕ → UInt8
  dmast : Bool

/-- An address of the RAM has 13 bits. -/
def ramSize : ℕ := 0x2000

/-- How the read pointer, the write pointer and the source pointer of a DMA move on. -/
def advance (a : ℕ) : ℕ :=
  if a = RXSTOP_INIT.toNat then RXSTART_INIT.toNat else (a + 1) % ramSize

/-- How the destination pointer of a DMA moves on. -/
def advanceLinear (a : ℕ) : ℕ := (a + 1) % ramSize

/-- In the receive area the pointers go round. -/
theorem iterate_advance_ring {a : ℕ} (ha : a < 3072) (n : ℕ) : advance^[n] a = (a + n) % 3072 := by
  induction n with
  | zero => exact (Nat.mod_eq_of_lt ha).symm
  | succ n ih =>
    rw [Function.iterate_succ_apply', ih]
    unfold advance
    have hstop : RXSTOP_INIT.toNat = 3071 := rfl
    have hstart : RXSTART_INIT.toNat = 0 := rfl
    rw [hstop, hstart, ramSize]
    split <;> omega

/-- Behind the receive area they move on to the end of the RAM. -/
theorem iterate_advance_line {a n : ℕ} (ha : 3072 ≤ a) (hn : a + n < 8192) :
    advance^[n] a = a + n := by
  induction n with
  | zero => rfl
  | succ n ih =>
    rw [Function.iterate_succ_apply', ih (by omega)]
    unfold advance
    have hstop : a + n ≠ RXSTOP_INIT.toNat := by
      have : RXSTOP_INIT.toNat = 3071 := rfl
      omega
    rw [if_neg hstop, ramSize]
    omega

/-- At the end of the RAM they move on to the receive area. -/
theorem iterate_advance_past {a n : ℕ} (ha : 3072 ≤ a) (hin : a < 8192) (hn : 8192 ≤ a + n) :
    advance^[n] a < 3072 := by
  obtain ⟨k, rfl⟩ : ∃ k, n = k + (8191 - a).succ := ⟨n - (8192 - a), by omega⟩
  have hend : advance^[8191 - a] a = 8191 := by
    rw [iterate_advance_line ha (by omega)]
    omega
  have hstart : advance 8191 = 0 := rfl
  rw [Function.iterate_add_apply, Function.iterate_succ_apply', hend, hstart,
    iterate_advance_ring (by decide)]
  exact Nat.mod_lt _ (by decide)

theorem iterate_advanceLinear {a : ℕ} (ha : a < 8192) (n : ℕ) :
    advanceLinear^[n] a = (a + n) % 8192 := by
  induction n with
  | zero => exact (Nat.mod_eq_of_lt ha).symm
  | succ n ih =>
    rw [Function.iterate_succ_apply', ih]
    unfold advanceLinear ramSize
    omega

/-! ### The driver -/

/-- `ENC28J60Driver::write` -/
def write (offset : UInt16) (data : Bytes) (c : Chip) : Bool × Chip :=
  (true, { c with ram := Walk.write advance data (offset.toNat % ramSize) c.ram })

/-- `ENC28J60Driver::read`: the bytes, and the result. -/
def read (offset len : UInt16) (c : Chip) : Bool × Bytes :=
  (true, Walk.read advance len.toNat (offset.toNat % ramSize) c.ram)

/-- `ENC28J60Driver::copy`. No value is returned where the DMA never ends, so that the loop that
waits for its end does not end either: a source pointer that has not been at `EDMAND` after as
many steps as there are addresses never comes there. -/
def copy (src_addr_start dest_addr len : UInt16) (c : Chip) : Option (Bool × Chip) :=
  if dest_addr > 0x1FFF then some (false, c)
  else if src_addr_start > 0x1FFF then some (false, c)
  else if dest_addr ≥ RXSTART_INIT ∧ dest_addr ≤ RXSTOP_INIT then some (false, c)
  else
    let src_addr_end := src_addr_start + len
    let inReceive := src_addr_start ≥ RXSTART_INIT ∧ src_addr_start ≤ RXSTOP_INIT
    let src_addr_end := if inReceive ∧ src_addr_end > RXSTOP_INIT
      then src_addr_end - RXSTOP_INIT + RXSTART_INIT - 1 else src_addr_end
    if inReceive ∧ src_addr_end > RXSTOP_INIT then some (false, c)
    else if src_addr_end > 0x1FFF then some (false, c)
    else if dest_addr + len > 0x1FFF then some (false, c)
    else if c.dmast then some (false, c)
    else (transferUntil advance advanceLinear src_addr_end.toNat ramSize src_addr_start.toNat
      dest_addr.toNat c.ram).map fun ram => (true, { c with ram := ram })

/-- How the code brings an address behind the receive area back to its start. -/
theorem toNat_sub_ring {a : UInt16} (h : 3072 ≤ a.toNat) :
    (a - RXSTOP_INIT + RXSTART_INIT - 1).toNat = a.toNat - 3072 := by
  have hle : RXSTOP_INIT.toNat ≤ a.toNat := Nat.le_of_succ_le h
  have hsub : (a - RXSTOP_INIT).toNat = a.toNat - 3071 :=
    UInt16.toNat_sub_of_le _ _ (UInt16.le_iff_toNat_le.mpr hle)
  have hzero : a - RXSTOP_INIT + RXSTART_INIT = a - RXSTOP_INIT := UInt16.add_zero _
  have hone : (1 : UInt16) ≤ a - RXSTOP_INIT := by
    rw [UInt16.le_iff_toNat_le, hsub]
    exact Nat.le_sub_of_add_le h
  rw [hzero, UInt16.toNat_sub_of_le _ _ hone, hsub]
  exact Nat.sub_sub _ _ _

/-! ### When it copies -/

/-- The requests for which `copy` starts a DMA. -/
def Accepted (src dst len : UInt16) : Prop :=
  3072 ≤ dst.toNat ∧ dst.toNat < 8192 ∧ src.toNat < 8192 ∧
    (dst.toNat + len.toNat) % 65536 < 8192 ∧
    (src.toNat + len.toNat) % 65536 < if src.toNat < 3072 then 6144 else 8192

instance (src dst len : UInt16) : Decidable (Accepted src dst len) :=
  inferInstanceAs (Decidable (_ ∧ _))

/-- The last address of the source of the DMA. -/
def lastAddress (src len : UInt16) : ℕ :=
  let last := (src.toNat + len.toNat) % 65536
  if src.toNat < 3072 ∧ 3072 ≤ last then last - 3072 else last

/-- When `copy` starts a DMA, and where the DMA ends. -/
theorem copy_eq (src dst len : UInt16) (c : Chip) :
    copy src dst len c = if Accepted src dst len ∧ c.dmast = false then
      (transferUntil advance advanceLinear (lastAddress src len) ramSize src.toNat dst.toNat
        c.ram).map fun ram => (true, { c with ram := ram })
      else some (false, c) := by
  have hstart : ∀ a : UInt16, a ≥ RXSTART_INIT ∧ a ≤ RXSTOP_INIT ↔ a.toNat < 3072 := fun a => by
    rw [ge_iff_le, UInt16.le_iff_toNat_le, UInt16.le_iff_toNat_le]
    have hzero : RXSTART_INIT.toNat = 0 := rfl
    have hstop : RXSTOP_INIT.toNat = 3071 := rfl
    omega
  have hram : ∀ a : UInt16, a > 0x1FFF ↔ 8192 ≤ a.toNat := fun a => by
    rw [gt_iff_lt, UInt16.lt_iff_toNat_lt]
    exact Iff.rfl
  have hstop : ∀ a : UInt16, a > RXSTOP_INIT ↔ 3072 ≤ a.toNat := fun a => by
    rw [gt_iff_lt, UInt16.lt_iff_toNat_lt]
    exact Iff.rfl
  have hend : (if src.toNat < 3072 ∧ 3072 ≤ (src + len).toNat
      then src + len - RXSTOP_INIT + RXSTART_INIT - 1 else src + len).toNat =
      lastAddress src len := by
    unfold lastAddress
    dsimp only
    rw [← UInt16.toNat_add]
    split
    case isTrue hwrap => exact toNat_sub_ring hwrap.2
    case isFalse => rfl
  unfold copy
  simp only [hstart, hram, hstop, hend]
  have hiff : Accepted src dst len ↔
      ¬ (8192 ≤ dst.toNat ∨ 8192 ≤ src.toNat ∨ dst.toNat < 3072 ∨
        src.toNat < 3072 ∧ 3072 ≤ lastAddress src len ∨ 8192 ≤ lastAddress src len ∨
        8192 ≤ (dst + len).toNat) := by
    unfold Accepted lastAddress
    rw [UInt16.toNat_add]
    by_cases hsrc : src.toNat < 3072
    · by_cases hlast : 3072 ≤ (src.toNat + len.toNat) % 65536
      · simp only [hsrc, hlast, if_true, and_self, true_and]
        omega
      · simp only [hsrc, hlast, if_true, and_false, if_false, false_or]
        omega
    · simp only [hsrc, false_and, if_false, false_or]
      omega
  simp only [hiff, ← Bool.not_eq_true, ← not_or, ← ite_or, ite_not, or_assoc]

/-- A copy that is not too long returns: the DMA comes to its end. -/
theorem copy_isSome (src dst : UInt16) {len : UInt16} (c : Chip) (hlen : len.toNat ≤ 57344) :
    (copy src dst len c).isSome := by
  rw [copy_eq]
  split
  case isFalse => rfl
  case isTrue haccepted =>
    rw [Option.isSome_map]
    obtain ⟨⟨-, -, hsrc, -, hlast⟩, -⟩ := haccepted
    by_cases hring : src.toNat < 3072
    · have hend : lastAddress src len < 3072 := by
        rw [if_pos hring] at hlast
        unfold lastAddress
        dsimp only
        split <;> omega
      rw [transferUntil_eq (n := (lastAddress src len + 3072 - src.toNat) % 3072)]
      · rfl
      · rw [ramSize]
        omega
      · rw [iterate_advance_ring hring]
        omega
      · intro i hi
        rw [iterate_advance_ring hring]
        omega
    · rw [if_neg hring] at hlast
      have hend : lastAddress src len = src.toNat + len.toNat := by
        unfold lastAddress
        dsimp only
        rw [if_neg fun h => hring h.1]
        omega
      rw [hend, transferUntil_eq (n := len.toNat)]
      · rfl
      · rw [ramSize]
        omega
      · exact iterate_advance_line (Nat.not_lt.mp hring) (by omega)
      · intro i hi
        rw [iterate_advance_line (Nat.not_lt.mp hring) (by omega)]
        omega

/-! ### What it copies -/

/-- Exactly the `len` bytes from `dst` on are overwritten, by the bytes of the source. -/
def ExactlyCopied (src dst len : UInt16) (ram ram' : ℕ → UInt8) : Prop :=
  dst.toNat + len.toNat ≤ ramSize ∧
    (∀ i < len.toNat, ram' (dst.toNat + i) = ram (advance^[i] src.toNat)) ∧
    ∀ a, a < dst.toNat ∨ dst.toNat + len.toNat ≤ a → ram' a = ram a

/-- The source and the destination have no address in common. -/
def Disjoint (src dst len : UInt16) : Prop :=
  ∀ i < len.toNat, ∀ j < len.toNat, dst.toNat + i ≠ advance^[j] src.toNat

/-- The requests that have to be served: the destination lies in the RAM behind the receive area,
and the source does not run past the RAM. -/
def Servable (src dst len : UInt16) : Prop :=
  RXSTOP_INIT < dst ∧ dst.toNat + len.toNat ≤ ramSize ∧
    (src ≤ RXSTOP_INIT ∨ src.toNat + len.toNat ≤ ramSize)

/-- `copy` returns, it copies exactly when it says so, and it serves what it has to. -/
def Copies (src dst len : UInt16) (dmast : Bool) : Prop :=
  ∀ ram, ∃ accepted c, copy src dst len ⟨ram, dmast⟩ = some (accepted, c) ∧
    (accepted = true → ExactlyCopied src dst len ram c.ram) ∧
    (Servable src dst len → accepted = true)

section Copies

variable {src dst len : UInt16}

theorem servable_iff : Servable src dst len ↔ 3072 ≤ dst.toNat ∧
    dst.toNat + len.toNat ≤ 8192 ∧ (src.toNat < 3072 ∨ src.toNat + len.toNat ≤ 8192) := by
  have hstop : RXSTOP_INIT.toNat = 3071 := rfl
  unfold Servable
  rw [UInt16.lt_iff_toNat_lt, UInt16.le_iff_toNat_le, hstop, ramSize]
  omega

/-- Behind the receive area, disjoint ranges lie one behind the other. -/
theorem Disjoint.apart (h : Disjoint src dst len) (hlen : 0 < len) (hsrc : 3072 ≤ src.toNat)
    (hdst : dst.toNat < 8192) :
    dst.toNat + len.toNat ≤ src.toNat ∨ src.toNat + len.toNat ≤ dst.toNat := by
  have hpos : 0 < len.toNat := UInt16.lt_iff_toNat_lt.mp hlen
  by_contra hmeet
  rcases Nat.le_total dst.toNat src.toNat with hle | hle
  · refine h (src.toNat - dst.toNat) (by omega) 0 hpos ?_
    rw [Function.iterate_zero_apply]
    omega
  · refine h 0 hpos (dst.toNat - src.toNat) (by omega) ?_
    rw [iterate_advance_line hsrc (by omega)]
    omega

/-- The number of steps that the DMA takes for a request that has to be served. -/
def steps (src len : UInt16) : ℕ :=
  if src.toNat < 3072 ∧ 3072 ≤ len.toNat then len.toNat - 3072 else len.toNat

/-- The DMA takes a byte too many, or the receive area around too few. -/
theorem transferUntil_of_servable (hservable : Servable src dst len)
    (haccepted : Accepted src dst len) (ram : ℕ → UInt8) :
    transferUntil advance advanceLinear (lastAddress src len) ramSize src.toNat dst.toNat ram =
      some (transfer advance advanceLinear (steps src len + 1) src.toNat dst.toNat ram) := by
  obtain ⟨hdst, hfits, hsource⟩ := servable_iff.mp hservable
  obtain ⟨-, -, hsrc, -, hlast⟩ := haccepted
  unfold lastAddress steps
  dsimp only
  by_cases hring : src.toNat < 3072
  · rw [if_pos hring] at hlast
    have hmod : (src.toNat + len.toNat) % 65536 = src.toNat + len.toNat :=
      Nat.mod_eq_of_lt (by omega)
    rw [hmod] at hlast ⊢
    have hstep : ∀ n, advance^[n] src.toNat = (src.toNat + n) % 3072 :=
      iterate_advance_ring hring
    refine transferUntil_eq ?_ ?_ fun i hi => ?_
    · rw [ramSize]
      split <;> omega
    · rw [hstep]
      split <;> split <;> omega
    · rw [hstep]
      split at hi <;> split <;> omega
  · rw [if_neg hring] at hlast
    have hline : src.toNat + len.toNat ≤ 8192 := hsource.resolve_left hring
    have hmod : (src.toNat + len.toNat) % 65536 = src.toNat + len.toNat :=
      Nat.mod_eq_of_lt (by omega)
    rw [hmod] at hlast ⊢
    rw [if_neg (fun h => hring h.1), if_neg (fun h => hring h.1)]
    refine transferUntil_eq ?_ ?_ fun i hi => ?_
    · rw [ramSize]
      omega
    · exact iterate_advance_line (Nat.not_lt.mp hring) hlast
    · rw [iterate_advance_line (Nat.not_lt.mp hring) (by omega)]
      omega

/-- The addresses behind the receive area that are in the RAM. -/
theorem iterate_destination {i : ℕ} (hdst : dst.toNat < 8192) (hi : dst.toNat + i < 8192) :
    advanceLinear^[i] dst.toNat = dst.toNat + i := by
  rw [iterate_advanceLinear hdst, Nat.mod_eq_of_lt hi]

/-- Where the DMA takes one byte too many, it alters the byte behind the destination. -/
theorem not_exactlyCopied_of_more (hservable : Servable src dst len)
    (haccepted : Accepted src dst len) (hlen : 0 < len) (hdisjoint : Disjoint src dst len)
    (hsteps : steps src len = len.toNat) :
    ∃ ram, ¬ ExactlyCopied src dst len ram
      (transfer advance advanceLinear (steps src len + 1) src.toNat dst.toNat ram) := by
  obtain ⟨hdst, hfits, hsource⟩ := servable_iff.mp hservable
  obtain ⟨-, hin, hsrc, hroom, hlast⟩ := haccepted
  have hnext : dst.toNat + len.toNat < 8192 := by omega
  have hd : ∀ i ≤ len.toNat, advanceLinear^[i] dst.toNat = dst.toNat + i := fun i hi =>
    iterate_destination hin (by omega)
  let ram : ℕ → UInt8 := fun a => if a = dst.toNat + len.toNat then 1 else 0
  refine ⟨ram, fun ⟨_, _, hframe⟩ => ?_⟩
  have hkept := hframe (dst.toNat + len.toNat) (.inr (Nat.le_refl _))
  have hone : ram (dst.toNat + len.toNat) = 1 := if_pos rfl
  rw [hsteps, transfer_succ, hd _ (Nat.le_refl _), Function.update_self, hone] at hkept
  -- what is copied there is not what was there
  have hother : ∀ i ≤ len.toNat, advance^[len.toNat] src.toNat = dst.toNat + i →
      i < len.toNat ∧ advance^[i] src.toNat ≠ dst.toNat + len.toNat := fun i hi heq => by
    by_cases hring : src.toNat < 3072
    · rw [iterate_advance_ring hring] at heq
      omega
    · rw [if_neg hring] at hlast
      have hline : src.toNat + len.toNat < 8192 := by
        have := hsource.resolve_left hring
        rwa [Nat.mod_eq_of_lt (by omega)] at hlast
      have hapart := hdisjoint.apart hlen (Nat.not_lt.mp hring) hin
      have hpos : 0 < len.toNat := UInt16.lt_iff_toNat_lt.mp hlen
      rw [iterate_advance_line (Nat.not_lt.mp hring) hline] at heq
      rw [iterate_advance_line (Nat.not_lt.mp hring) (by omega)]
      omega
  have hzero : transfer advance advanceLinear len.toNat src.toNat dst.toNat ram
      (advance^[len.toNat] src.toNat) = 0 := by
    by_cases hmeet : ∃ i < len.toNat, advance^[len.toNat] src.toNat = dst.toNat + i
    · obtain ⟨i, hi, heq⟩ := hmeet
      rw [heq, ← hd i (Nat.le_of_lt hi), transfer_iterate ?_ ?_ hi]
      · exact if_neg (hother i (Nat.le_of_lt hi) heq).2
      · intro i hi j hj hne
        rw [hd i (Nat.le_of_lt hi), hd j (Nat.le_of_lt hj)]
        omega
      · intro i hi j hj
        rw [hd i (Nat.le_of_lt hi)]
        exact hdisjoint i hi j hj
    · rw [transfer_of_ne fun i hi heq => hmeet ⟨i, hi, by rw [← heq, hd i (Nat.le_of_lt hi)]⟩]
      exact if_neg fun heq => Nat.lt_irrefl _ (hother _ (Nat.le_refl _) heq).1
  rw [hzero] at hkept
  exact absurd hkept (by decide)

/-- Where the source goes round in the receive area, the last byte is not copied. -/
theorem not_exactlyCopied_of_less (hservable : Servable src dst len)
    (haccepted : Accepted src dst len) (hring : src.toNat < 3072) (hlong : 3072 ≤ len.toNat) :
    ∃ ram, ¬ ExactlyCopied src dst len ram
      (transfer advance advanceLinear (steps src len + 1) src.toNat dst.toNat ram) := by
  obtain ⟨hdst, hfits, -⟩ := servable_iff.mp hservable
  have hin := haccepted.2.1
  let ram : ℕ → UInt8 := fun a => if a = dst.toNat + (len.toNat - 1) then 1 else 0
  refine ⟨ram, fun ⟨_, hcopied, _⟩ => ?_⟩
  have hlast := hcopied (len.toNat - 1) (by omega)
  have hone : ram (dst.toNat + (len.toNat - 1)) = 1 := if_pos rfl
  have hzero : ram (advance^[len.toNat - 1] src.toNat) = 0 := by
    refine if_neg ?_
    rw [iterate_advance_ring hring]
    omega
  have hsteps : steps src len = len.toNat - 3072 := if_pos ⟨hring, hlong⟩
  rw [transfer_of_ne fun i hi => ?_, hone, hzero] at hlast
  · exact absurd hlast (by decide)
  · rw [iterate_destination hin (by omega)]
    omega

/-- The requests on which `copy` does what it is for: those that it need not serve and does not
take for others because a sum of 16 bits has no room for it. -/
theorem exactly_copied_iff (dmast : Bool) (hlen : 0 < len) (hdisjoint : Disjoint src dst len) :
    Copies src dst len dmast ↔ ¬ Servable src dst len ∧
      ¬ (dmast = false ∧ src ≤ RXSTOP_INIT ∧ RXSTOP_INIT < dst ∧ dst.toNat < ramSize ∧
        65536 ≤ src.toNat + len.toNat) := by
  have hring : src ≤ RXSTOP_INIT ↔ src.toNat < 3072 :=
    UInt16.le_iff_toNat_le.trans Nat.lt_succ_iff.symm
  have hbehind : RXSTOP_INIT < dst ↔ 3072 ≤ dst.toNat := UInt16.lt_iff_toNat_lt
  have hpos : 0 < len.toNat := UInt16.lt_iff_toNat_lt.mp hlen
  have hsmall : len.toNat < 65536 := UInt16.toNat_lt len
  rw [hring, hbehind]
  constructor
  · intro h
    refine ⟨fun hservable => ?_, fun ⟨hdmast, hring, hbehind, hin, hwrap⟩ => ?_⟩
    · have haccepted : Accepted src dst len ∧ dmast = false := by
        obtain ⟨accepted, c, hcopy, -, hserved⟩ := h fun _ => 0
        by_contra hrefused
        rw [copy_eq, if_neg hrefused, Option.some.injEq, Prod.mk.injEq] at hcopy
        rw [hserved hservable] at hcopy
        exact absurd hcopy.1 (by decide)
      have hexact : ∀ ram, ExactlyCopied src dst len ram
          (transfer advance advanceLinear (steps src len + 1) src.toNat dst.toNat ram) :=
        fun ram => by
          obtain ⟨accepted, c, hcopy, hcopied, hserved⟩ := h ram
          rw [copy_eq, if_pos haccepted, transferUntil_of_servable hservable haccepted.1] at hcopy
          cases hcopy
          exact hcopied rfl
      have hcount : steps src len = len.toNat ∨ src.toNat < 3072 ∧ 3072 ≤ len.toNat := by
        unfold steps
        split
        case isTrue hround => exact .inr hround
        case isFalse => exact .inl rfl
      rcases hcount with hsteps | ⟨hring, hlong⟩
      · obtain ⟨ram, hram⟩ :=
          not_exactlyCopied_of_more hservable haccepted.1 hlen hdisjoint hsteps
        exact hram (hexact ram)
      · obtain ⟨ram, hram⟩ := not_exactlyCopied_of_less hservable haccepted.1 hring hlong
        exact hram (hexact ram)
    · have haccepted : Accepted src dst len := by
        unfold Accepted
        rw [ramSize] at hin
        rw [if_pos hring]
        omega
      obtain ⟨accepted, c, hcopy, hcopied, -⟩ := h fun _ => 0
      rw [copy_eq, if_pos ⟨haccepted, hdmast⟩] at hcopy
      obtain ⟨ram, -, heq⟩ := Option.map_eq_some_iff.mp hcopy
      cases heq
      have hfits := (hcopied rfl).1
      rw [ramSize] at hfits
      omega
  · rintro ⟨hservable, hwrap⟩ ram
    refine ⟨false, ⟨ram, dmast⟩, ?_, fun h => absurd h (by decide), fun h => absurd h hservable⟩
    rw [copy_eq]
    refine if_neg fun ⟨⟨hbehind, hin, hsrc, hroom, hlast⟩, hdmast⟩ => ?_
    rw [servable_iff] at hservable
    rw [ramSize] at hwrap
    by_cases hring : src.toNat < 3072
    · rw [if_pos hring] at hlast
      exact hwrap ⟨hdmast, hring, hbehind, hin, by omega⟩
    · have hapart := hdisjoint.apart hlen (Nat.not_lt.mp hring) hin
      rw [if_neg hring] at hlast
      omega

end Copies

/-- A payload in the send buffer and the first of eight stashes do not overlap. -/
theorem disjoint_stash : Disjoint 0x0C37 0x1200 448 := by
  intro i hi j hj
  have hlen : (448 : UInt16).toNat = 448 := rfl
  have hdst : (0x1200 : UInt16).toNat = 4608 := rfl
  have hsrc : (0x0C37 : UInt16).toNat = 3127 := rfl
  rw [hlen] at hi hj
  rw [hdst, hsrc, iterate_advance_line (by omega) (by omega)]
  omega

/-- A request that `copy` has to serve, and does not serve exactly. -/
theorem exactly_copied_iff_stash :
    Copies 0x0C37 0x1200 448 false ↔ ¬ Servable 0x0C37 0x1200 448 ∧
      ¬ (false = false ∧ 0x0C37 ≤ RXSTOP_INIT ∧ RXSTOP_INIT < 0x1200 ∧
        (0x1200 : UInt16).toNat < ramSize ∧
        65536 ≤ (0x0C37 : UInt16).toNat + (448 : UInt16).toNat) :=
  exactly_copied_iff false (by decide) disjoint_stash

/-- The payload that fills the first of eight stashes overwrites the first byte of the second. -/
theorem copy_overruns :
    Disjoint 0x0C37 0x1200 448 ∧ Servable 0x0C37 0x1200 448 ∧
      (copy 0x0C37 0x1200 448 ⟨fun a => if a = 0x1200 + 448 then 1 else 0, false⟩).map
        (fun r => (r.1, r.2.ram (0x1200 + 448))) = some (true, 0) := by
  refine ⟨disjoint_stash, servable_iff.mpr (by decide), ?_⟩
  decide +kernel

end ENC28J60Driver
end AtmegaNet
