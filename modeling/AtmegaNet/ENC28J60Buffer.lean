import AtmegaNet.ENC28J60Driver

/-!
# The buffers of the ENC28J60

An `ENC28J60Buffer` is a window on the RAM of the controller. It checks the address of the first
byte of an access, and leaves the others to the pointers of the chip.

## Main results

* `walk`: the addresses of an access that starts inside the buffer and is not too long.
* `respects_iff`: a buffer respects its bounds if and only if the access does; the payload of a
  frame stays out of the stash as long as it ends before it.
-/

namespace AtmegaNet

open ENC28J60Driver

/-- The fields of `ENC28J60Buffer`. -/
structure ENC28J60Buffer where
  bufferStart : UInt16
  bufferEnd : UInt16
  len : UInt16
  payloadPointer : UInt16
  wrap : Bool
  deriving DecidableEq, Repr

namespace ENC28J60Buffer

/-! ### The class -/

/-- `ENC28J60Buffer::size` -/
def size (b : ENC28J60Buffer) : UInt16 := b.len

/-- The address at which `write` and `read` start, where they do not refuse. -/
def address (b : ENC28J60Buffer) (offset : UInt16) : Option UInt16 :=
  let address := b.bufferStart + b.payloadPointer + offset
  if address > b.bufferEnd then
    if b.wrap then some (address - b.bufferEnd + b.bufferStart - 1) else none
  else some address

/-- `ENC28J60Buffer::write` -/
def write (b : ENC28J60Buffer) (offset : UInt16) (data : Bytes) (c : Chip) : Bool × Chip :=
  match b.address offset with
  | some address => ENC28J60Driver.write address data c
  | none => (false, c)

/-- `ENC28J60Buffer::read`: the result, and the bytes. -/
def read (b : ENC28J60Buffer) (offset len : UInt16) (c : Chip) : Bool × Bytes :=
  match b.address offset with
  | some address => ENC28J60Driver.read address len c
  | none => (false, [])

/-- `ENC28J60Buffer::setPayloadPointer` -/
def setPayloadPointer (offset : UInt16) (b : ENC28J60Buffer) : ENC28J60Buffer :=
  { b with payloadPointer := offset }

/-- `sendBuffer`, as the constructor of the driver makes it. -/
def sendBuffer : ENC28J60Buffer := ⟨TXSTART_INIT + 1, TXSTOP_INIT, MAX_FRAMELEN, 0, false⟩

/-- `recvBuffer` -/
def recvBuffer : ENC28J60Buffer := ⟨RXSTART_INIT, RXSTOP_INIT, MAX_FRAMELEN, 0, true⟩

/-- `stashBuffer` -/
def stashBuffer : ENC28J60Buffer :=
  ⟨STASH_START_INIT, STASH_STOP_INIT, STASH_STOP_INIT - STASH_START_INIT + 1, 0, false⟩

/-- The buffers of the driver. The payload pointer is where a frame has been received. -/
inductive Device : ENC28J60Buffer → Prop
  | send : Device sendBuffer
  | stash : Device stashBuffer
  | recv {offset : UInt16} (h : offset ≤ RXSTOP_INIT) : Device (recvBuffer.setPayloadPointer offset)

/-! ### Sending a frame -/

/-- `ENC28J60Driver::sendFrame`, as far as it writes to the RAM: the control byte. -/
def transmit (c : Chip) : Chip := (ENC28J60Driver.write TXSTART_INIT [0] c).2

/-- `EtherControl::sendFrame`, the payload already in the buffer. -/
def sendFrameHeader (destinationMAC macAddr : MACAddr) (protocol payloadLength : UInt16) (c : Chip) :
    Bool × Chip :=
  if payloadLength > sendBuffer.size - 14 then (false, c)
  else match sendBuffer.write 0 destinationMAC.bytes c with
    | (false, c) => (false, c)
    | (true, c) => match sendBuffer.write 6 macAddr.bytes c with
      | (false, c) => (false, c)
      | (true, c) => match sendBuffer.write 12 (bytesOf16 (HTONS protocol)) c with
        | (false, c) => (false, c)
        | (true, c) => (true, transmit c)

/-- `EtherControl::sendFrame`, with a payload. -/
def sendFrame (destinationMAC macAddr : MACAddr) (protocol : UInt16) (payload : Bytes) (c : Chip) :
    Bool × Chip :=
  match sendBuffer.write 14 payload c with
  | (false, c) => (false, c)
  | (true, c) => sendFrameHeader destinationMAC macAddr protocol (UInt16.ofNat payload.length) c

/-! ### The bounds of a buffer -/

/-- The address of the byte `i` of an access at `offset`, modulo the ring where there is one. -/
def addressAt (b : ENC28J60Buffer) (offset : UInt16) (i : ℕ) : ℕ :=
  let a := b.payloadPointer.toNat + offset.toNat + i
  b.bufferStart.toNat + if b.wrap then a % (b.bufferEnd.toNat - b.bufferStart.toNat + 1) else a

/-- The access is in the buffer. -/
def Within (b : ENC28J60Buffer) (offset len : UInt16) : Prop :=
  offset.toNat + len.toNat ≤ b.size.toNat ∧
    ∀ i < len.toNat, b.bufferStart.toNat ≤ b.addressAt offset i ∧
      b.addressAt offset i ≤ b.bufferEnd.toNat

/-- A write of `len` bytes at `offset` respects the bounds of the buffer. -/
def RespectsWrite (b : ENC28J60Buffer) (offset len : UInt16) : Prop :=
  ∀ (data : Bytes) (c : Chip), data.length = len.toNat →
    ((b.write offset data c).1 = true → b.Within offset len ∧
      (∀ (i : ℕ) (hi : i < data.length),
        (b.write offset data c).2.ram (b.addressAt offset i) = data.get ⟨i, hi⟩) ∧
      ∀ a, (∀ i < len.toNat, a ≠ b.addressAt offset i) →
        (b.write offset data c).2.ram a = c.ram a) ∧
    ((b.write offset data c).1 = false → (b.write offset data c).2.ram = c.ram)

/-- A read of `len` bytes at `offset` respects the bounds of the buffer. -/
def RespectsRead (b : ENC28J60Buffer) (offset len : UInt16) : Prop :=
  ∀ c : Chip, (b.read offset len c).1 = true → b.Within offset len ∧
    (b.read offset len c).2 = (List.range len.toNat).map fun i => c.ram (b.addressAt offset i)

/-- A buffer behind the receive area, with room for its size. -/
structure Line (b : ENC28J60Buffer) : Prop where
  wrap : b.wrap = false
  payloadPointer : b.payloadPointer = 0
  behind : 3072 ≤ b.bufferStart.toNat
  fits : b.bufferStart.toNat + b.size.toNat ≤ b.bufferEnd.toNat + 1
  inRam : b.bufferEnd.toNat < 8192

theorem line_send : Line sendBuffer := ⟨rfl, rfl, by decide, by decide, by decide⟩

theorem line_stash : Line stashBuffer := ⟨rfl, rfl, by decide, by decide, by decide⟩

section Bounds

variable {b : ENC28J60Buffer} {offset len : UInt16}

theorem Line.walk (hb : Line b) (hoffset : offset.toNat ≤ b.size.toNat) {address : UInt16}
    (haddress : b.address offset = some address) :
    address.toNat < ramSize ∧ ∀ i, offset.toNat + i < b.size.toNat →
      advance^[i] address.toNat = b.addressAt offset i ∧
      b.bufferStart.toNat ≤ b.addressAt offset i ∧ b.addressAt offset i ≤ b.bufferEnd.toNat := by
  obtain ⟨hwrap, hpointer, hbehind, hfits, hram⟩ := hb
  unfold ENC28J60Buffer.address at haddress
  rw [hpointer, UInt16.add_zero, hwrap] at haddress
  dsimp only at haddress
  split at haddress
  case isTrue => exact absurd haddress (by simp)
  case isFalse hin =>
    cases haddress
    have hsum : (b.bufferStart + offset).toNat = b.bufferStart.toNat + offset.toNat := by
      rw [UInt16.toNat_add]
      exact Nat.mod_eq_of_lt (by omega)
    have hle : (b.bufferStart + offset).toNat ≤ b.bufferEnd.toNat :=
      UInt16.le_iff_toNat_le.mp (UInt16.not_lt.mp hin)
    have hat : ∀ i, b.addressAt offset i = b.bufferStart.toNat + offset.toNat + i := fun i => by
      unfold addressAt
      rw [hwrap, hpointer]
      show b.bufferStart.toNat + (0 + offset.toNat + i) = _
      omega
    refine ⟨Nat.lt_of_le_of_lt hle hram, fun i hi => ?_⟩
    rw [hat, hsum, iterate_advance_line (by omega) (by omega)]
    exact ⟨rfl, by omega, by omega⟩

/-- Where an access to the receive buffer starts, and how it goes on. -/
theorem walk_recv {pointer : UInt16} (hpointer : pointer ≤ RXSTOP_INIT)
    (hoffset : offset.toNat ≤ MAX_FRAMELEN.toNat) {address : UInt16}
    (haddress : (recvBuffer.setPayloadPointer pointer).address offset = some address) :
    address.toNat < 3072 ∧ ∀ i, advance^[i] address.toNat =
      (recvBuffer.setPayloadPointer pointer).addressAt offset i ∧
      (recvBuffer.setPayloadPointer pointer).addressAt offset i < 3072 := by
  have hle : pointer.toNat ≤ 3071 := UInt16.le_iff_toNat_le.mp hpointer
  have hmax : offset.toNat ≤ 1500 := hoffset
  have hsum : (pointer + offset).toNat = pointer.toNat + offset.toNat := by
    rw [UInt16.toNat_add]
    exact Nat.mod_eq_of_lt (by omega)
  have hin : address.toNat = (pointer.toNat + offset.toNat) % 3072 := by
    have hbuffer : (recvBuffer.setPayloadPointer pointer).address offset =
        if 0 + pointer + offset > RXSTOP_INIT then
          some (0 + pointer + offset - RXSTOP_INIT + RXSTART_INIT - 1)
        else some (0 + pointer + offset) := rfl
    rw [hbuffer, UInt16.zero_add] at haddress
    have hgt : pointer + offset > RXSTOP_INIT ↔ 3072 ≤ pointer.toNat + offset.toNat := by
      rw [gt_iff_lt, UInt16.lt_iff_toNat_lt, hsum]
      exact Iff.rfl
    by_cases hwrap : 3072 ≤ pointer.toNat + offset.toNat
    · rw [if_pos (hgt.mpr hwrap)] at haddress
      cases haddress
      rw [toNat_sub_ring (by rwa [hsum]), hsum]
      omega
    · rw [if_neg (mt hgt.mp hwrap)] at haddress
      cases haddress
      rw [hsum]
      omega
  have hat : ∀ i, (recvBuffer.setPayloadPointer pointer).addressAt offset i =
      (pointer.toNat + offset.toNat + i) % 3072 := fun i => Nat.zero_add _
  refine ⟨by omega, fun i => ?_⟩
  rw [iterate_advance_ring (by omega), hat, hin]
  omega

/-- Where an access starts, and how it goes on. -/
theorem walk (hb : Device b) (hoffset : offset.toNat ≤ b.size.toNat) {address : UInt16}
    (haddress : b.address offset = some address) :
    address.toNat < ramSize ∧ ∀ i, offset.toNat + i < b.size.toNat →
      advance^[i] address.toNat = b.addressAt offset i ∧
      b.bufferStart.toNat ≤ b.addressAt offset i ∧ b.addressAt offset i ≤ b.bufferEnd.toNat := by
  cases hb with
  | send => exact line_send.walk hoffset haddress
  | stash => exact line_stash.walk hoffset haddress
  | recv h =>
    obtain ⟨hin, hwalk⟩ := walk_recv h hoffset haddress
    exact ⟨Nat.lt_trans hin (by decide), fun i _ =>
      ⟨(hwalk i).1, Nat.zero_le _, Nat.le_of_lt_succ (hwalk i).2⟩⟩

/-- The addresses of an access that is not too long differ. -/
theorem addressAt_ne (hb : Device b) {i j : ℕ} (hi : offset.toNat + i < b.size.toNat)
    (hj : offset.toNat + j < b.size.toNat) (hij : i ≠ j) :
    b.addressAt offset i ≠ b.addressAt offset j := by
  cases hb with
  | send =>
    show 3073 + (0 + offset.toNat + i) ≠ 3073 + (0 + offset.toNat + j)
    omega
  | stash =>
    show 4608 + (0 + offset.toNat + i) ≠ 4608 + (0 + offset.toNat + j)
    omega
  | @recv pointer h =>
    show 0 + (pointer.toNat + offset.toNat + i) % 3072 ≠
      0 + (pointer.toNat + offset.toNat + j) % 3072
    have hsize : (recvBuffer.setPayloadPointer pointer).size.toNat = 1500 := rfl
    omega

/-- The address check refuses an access at `offset`. -/
def Refused (b : ENC28J60Buffer) (offset : UInt16) : Prop :=
  b.wrap = false ∧ b.bufferEnd < b.bufferStart + b.payloadPointer + offset

theorem address_eq_none : b.address offset = none ↔ b.Refused offset := by
  unfold address Refused
  dsimp only
  constructor
  · intro h
    split at h
    case isTrue hgt =>
      split at h
      case isTrue => exact absurd h (by simp)
      case isFalse hwrap => exact ⟨Bool.eq_false_iff.mpr hwrap, hgt⟩
    case isFalse => exact absurd h (by simp)
  · rintro ⟨hwrap, hgt⟩
    rw [if_pos hgt, if_neg (Bool.eq_false_iff.mp hwrap)]

/-- An access within the size of the buffer stays in the buffer. -/
theorem within_of_le (hb : Device b) {address : UInt16}
    (haddress : b.address offset = some address)
    (hle : offset.toNat + len.toNat ≤ b.size.toNat) : b.Within offset len :=
  ⟨hle, fun i hi => ((walk hb (Nat.le_of_add_right_le hle) haddress).2 i (by omega)).2⟩

theorem respectsWrite_of_le (hb : Device b) (hle : offset.toNat + len.toNat ≤ b.size.toNat) :
    b.RespectsWrite offset len := by
  intro data c hlength
  unfold write
  cases haddress : b.address offset with
  | none => exact ⟨fun h => absurd h (by simp), fun _ => rfl⟩
  | some address =>
    refine ⟨fun _ => ?_, fun h => absurd h (by simp [ENC28J60Driver.write])⟩
    obtain ⟨hin, hwalk⟩ := walk hb (Nat.le_of_add_right_le hle) haddress
    have hat : ∀ i < data.length, advance^[i] address.toNat = b.addressAt offset i :=
      fun i hi => (hwalk i (by omega)).1
    have hmod : address.toNat % ramSize = address.toNat := Nat.mod_eq_of_lt hin
    refine ⟨within_of_le hb haddress hle, fun i hi => ?_, fun a ha => ?_⟩
    · show Walk.write advance data (address.toNat % ramSize) c.ram _ = _
      rw [hmod, ← hat i hi, Walk.write_iterate hi fun j hj hij => ?_]
      · rfl
      · rw [hat i hi, hat j hj]
        exact addressAt_ne hb (by omega) (by omega) (Nat.ne_of_gt hij)
    · show Walk.write advance data (address.toNat % ramSize) c.ram a = _
      rw [hmod]
      refine Walk.write_of_ne fun i hi => ?_
      rw [hat i hi]
      exact (ha i (by omega)).symm

theorem respectsRead_of_le (hb : Device b) (hle : offset.toNat + len.toNat ≤ b.size.toNat) :
    b.RespectsRead offset len := by
  intro c hread
  unfold read at hread ⊢
  cases haddress : b.address offset with
  | none =>
    rw [haddress] at hread
    exact absurd hread (by simp)
  | some address =>
    obtain ⟨hin, hwalk⟩ := walk hb (Nat.le_of_add_right_le hle) haddress
    refine ⟨within_of_le hb haddress hle, ?_⟩
    show Walk.read advance len.toNat (address.toNat % ramSize) c.ram = _
    rw [Nat.mod_eq_of_lt hin, Walk.read_eq_map]
    refine List.map_congr_left fun i hi => ?_
    rw [(hwalk i (by have := List.mem_range.mp hi; omega)).1]

/-- An access that is refused touches nothing. -/
theorem respects_of_refused (h : b.Refused offset) :
    b.RespectsWrite offset len ∧ b.RespectsRead offset len := by
  have hnone := address_eq_none.mpr h
  constructor
  · intro data c _
    unfold write
    rw [hnone]
    exact ⟨fun h => absurd h (by simp), fun _ => rfl⟩
  · intro c hread
    unfold read at hread
    rw [hnone] at hread
    exact absurd hread (by simp)

/-- What is not refused is done, whatever its length. -/
theorem le_of_respectsWrite (hrefused : ¬ b.Refused offset) (h : b.RespectsWrite offset len) :
    offset.toNat + len.toNat ≤ b.size.toNat := by
  obtain ⟨address, haddress⟩ := Option.ne_none_iff_exists'.mp (mt address_eq_none.mp hrefused)
  have hwrite := (h (List.replicate len.toNat 0) ⟨fun _ => 0, false⟩ (List.length_replicate)).1
  unfold write at hwrite
  rw [haddress] at hwrite
  exact (hwrite rfl).1.1

end Bounds

/-! ### The stash -/

/-- A frame with a payload of this length leaves the stash alone. -/
def KeepsStash (length : UInt16) : Prop :=
  ∀ (destinationMAC macAddr : MACAddr) (protocol : UInt16) (payload : Bytes) (c : Chip),
    payload.length = length.toNat →
    ∀ a, STASH_START_INIT.toNat ≤ a → a ≤ STASH_STOP_INIT.toNat →
      (sendFrame destinationMAC macAddr protocol payload c).2.ram a = c.ram a

/-- A short write near the start of the send buffer. -/
theorem write_sendBuffer_of_le {offset : UInt16} {data : Bytes} (c : Chip) {a : ℕ}
    (hend : offset.toNat + data.length ≤ 1535) (ha : 4608 ≤ a) :
    (sendBuffer.write offset data c).2.ram a = c.ram a := by
  unfold write
  cases haddress : sendBuffer.address offset with
  | none => rfl
  | some address =>
    have hsum : (3073 + offset).toNat = 3073 + offset.toNat := by
      rw [UInt16.toNat_add]
      exact Nat.mod_eq_of_lt (show 3073 + offset.toNat < 65536 by omega)
    have heq : address = 3073 + offset := by
      unfold ENC28J60Buffer.address at haddress
      have hstart : sendBuffer.bufferStart + sendBuffer.payloadPointer + offset = 3073 + offset :=
        rfl
      rw [hstart] at haddress
      dsimp only at haddress
      split at haddress
      case isTrue => exact absurd haddress (by simp [sendBuffer])
      case isFalse => exact (Option.some.inj haddress).symm
    have hmod : (3073 + offset.toNat) % ramSize = 3073 + offset.toNat :=
      Nat.mod_eq_of_lt (show 3073 + offset.toNat < 8192 by omega)
    show Walk.write advance data (address.toNat % ramSize) c.ram a = c.ram a
    rw [heq, hsum, hmod]
    refine Walk.write_of_ne fun i hi => ?_
    rw [iterate_advance_line (by omega) (by omega)]
    omega

/-- The header and the control byte stay in front of the stash. -/
theorem sendFrameHeader_of_le (destinationMAC macAddr : MACAddr)
    (protocol payloadLength : UInt16) (c : Chip) {a : ℕ} (ha : 4608 ≤ a) :
    (sendFrameHeader destinationMAC macAddr protocol payloadLength c).2.ram a = c.ram a := by
  unfold sendFrameHeader
  split
  case isTrue => rfl
  case isFalse =>
    have hwrite : ∀ (offset : UInt16) (data : Bytes) (c : Chip),
        offset.toNat + data.length ≤ 1535 → (sendBuffer.write offset data c).2.ram a = c.ram a :=
      fun _ _ c hend => write_sendBuffer_of_le c hend ha
    have hcontrol : ∀ c : Chip, (transmit c).ram a = c.ram a := fun c =>
      Walk.write_of_ne fun i hi => by
        rw [Nat.lt_one_iff.mp hi, Function.iterate_zero_apply]
        show 3072 ≠ a
        omega
    show (transmit (sendBuffer.write 12 (bytesOf16 (HTONS protocol)) (sendBuffer.write 6
      macAddr.bytes (sendBuffer.write 0 destinationMAC.bytes c).2).2).2).ram a = c.ram a
    rw [hcontrol, hwrite, hwrite, hwrite]
    · exact show 0 + 6 ≤ 1535 by decide
    · exact show 6 + 6 ≤ 1535 by decide
    · exact show 12 + 2 ≤ 1535 by decide

/-- A frame leaves the stash alone if and only if its payload ends before it. -/
theorem keepsStash_iff (length : UInt16) : KeepsStash length ↔ length.toNat ≤ 1521 := by
  have hstart : ∀ (destinationMAC macAddr : MACAddr) (protocol : UInt16) (payload : Bytes)
      (c : Chip) (a : ℕ), 4608 ≤ a →
      (sendFrame destinationMAC macAddr protocol payload c).2.ram a =
        (sendBuffer.write 14 payload c).2.ram a := fun destinationMAC macAddr _ payload c a ha =>
    sendFrameHeader_of_le destinationMAC macAddr _ _ _ ha
  constructor
  · intro h
    by_contra hlong
    have hzero : MACAddr := ⟨0, 0, 0, 0, 0, 0⟩
    have hlength : (List.replicate length.toNat (0 : UInt8)).length = length.toNat :=
      List.length_replicate
    have hkept := h hzero hzero 0 (List.replicate length.toNat 0) ⟨fun _ => 1, false⟩ hlength
      4608 (by decide) (by decide)
    rw [hstart _ _ _ _ _ _ (Nat.le_refl _)] at hkept
    have hat : advance^[1521] 3087 = 4608 := iterate_advance_line (by decide) (by decide)
    -- the walk comes to the first byte of the stash, and never again
    have honce : ∀ j < (List.replicate length.toNat (0 : UInt8)).length, 1521 < j →
        advance^[j] 3087 ≠ advance^[1521] 3087 := fun j _ hj => by
      rw [hat]
      by_cases hin : 3087 + j < 8192
      · rw [iterate_advance_line (by decide) hin]
        omega
      · have := iterate_advance_past (by decide) (by decide) (Nat.not_lt.mp hin)
        omega
    have hlt : 1521 < (List.replicate length.toNat (0 : UInt8)).length := by omega
    have hwritten : Walk.write advance (List.replicate length.toNat (0 : UInt8)) 3087 (fun _ => 1)
        (advance^[1521] 3087) = (List.replicate length.toNat (0 : UInt8))[1521] :=
      Walk.write_iterate hlt honce
    rw [hat, List.getElem_replicate] at hwritten
    have hsame : (sendBuffer.write 14 (List.replicate length.toNat 0) ⟨fun _ => 1, false⟩).2.ram
        4608 = Walk.write advance (List.replicate length.toNat 0) 3087 (fun _ => 1) 4608 := rfl
    rw [hsame, hwritten] at hkept
    exact absurd hkept (by decide)
  · intro hshort destinationMAC macAddr protocol payload c hlength a ha _
    rw [hstart destinationMAC macAddr protocol payload c a ha]
    exact write_sendBuffer_of_le c (show 14 + payload.length ≤ 1535 by omega) ha

/-! ### The main result -/

/-- A buffer of the driver respects its bounds exactly where its check refuses the access or the
access is in bounds, and a payload stays out of the stash exactly where it ends before it. -/
theorem respects_iff {b : ENC28J60Buffer} (hb : Device b) (offset len : UInt16) :
    (b.RespectsWrite offset len ∧ b.RespectsRead offset len ↔
      b.Refused offset ∨ offset.toNat + len.toNat ≤ b.size.toNat) ∧
    (KeepsStash len ↔ len.toNat ≤ 1521) := by
  refine ⟨⟨fun h => ?_, fun h => ?_⟩, keepsStash_iff len⟩
  · by_cases hrefused : b.Refused offset
    · exact .inl hrefused
    · exact .inr (le_of_respectsWrite hrefused h.1)
  · rcases h with hrefused | hle
    · exact respects_of_refused hrefused
    · exact ⟨respectsWrite_of_le hb hle, respectsRead_of_le hb hle⟩

/-- The payload of a frame that is sent out of the send buffer, as long as it may be. -/
theorem respects_iff_send :
    (sendBuffer.RespectsWrite 14 1486 ∧ sendBuffer.RespectsRead 14 1486 ↔
      sendBuffer.Refused 14 ∨ (14 : UInt16).toNat + (1486 : UInt16).toNat ≤ sendBuffer.size.toNat) ∧
    (KeepsStash 1486 ↔ (1486 : UInt16).toNat ≤ 1521) :=
  respects_iff .send 14 1486

/-- A payload of 1522 bytes is accepted by the send buffer, and its last byte is written into the
stash. -/
theorem write_overruns :
    (sendBuffer.write 14 (List.replicate 1522 0) ⟨fun _ => 1, false⟩).1 = true ∧
      sendBuffer.size.toNat < 14 + 1522 ∧
      (sendFrame ⟨0, 0, 0, 0, 0, 0⟩ ⟨0, 0, 0, 0, 0, 0⟩ 0 (List.replicate 1522 0)
        ⟨fun _ => 1, false⟩).1 = false ∧
      (sendFrame ⟨0, 0, 0, 0, 0, 0⟩ ⟨0, 0, 0, 0, 0, 0⟩ 0 (List.replicate 1522 0)
        ⟨fun _ => 1, false⟩).2.ram STASH_START_INIT.toNat = 0 := by
  refine ⟨rfl, by decide, ?_, ?_⟩
  · decide +kernel
  · decide +kernel

end ENC28J60Buffer
end AtmegaNet
