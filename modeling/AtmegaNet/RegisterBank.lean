import AtmegaNet.ENC28J60Buffer
import AtmegaNet.Lib.Proc

/-!
# The control registers of the ENC28J60

The controller has four banks of 32 control registers, the last five of which are the same in
every bank. An instruction names a register by five bits only, in the bank that two bits of ECON1
select. The driver remembers the bank it has selected in `Enc28j60Bank`, and selects another one
only where a register is in another. Its constructor does not initialise the field.

The answers of the chip are a list of bytes: those it will have given up to the moment one looks
at it. A procedure that needs another answer gives up there.

## Main results

* `waits_session`: a session gives up only if the chip gives no more answers.
* `truthful_of_fresh`: the first access behind the reset makes `Enc28j60Bank` tell the truth.
* `inBank_session`: in every session every register is accessed in its bank.
-/

open Procedure

namespace AtmegaNet

namespace ENC28J60Registers

open ENC28J60Driver (RXSTART_INIT RXSTOP_INIT TXSTART_INIT TXSTOP_INIT MAX_FRAMELEN)

/-! ### Registers -/

def ADDR_MASK : UInt8 := 0x1F
def BANK_MASK : UInt8 := 0x60

def EIE : UInt8 := 0x1B
def EIR : UInt8 := 0x1C
def ESTAT : UInt8 := 0x1D
def ECON2 : UInt8 := 0x1E
def ECON1 : UInt8 := 0x1F
def ERDPT : UInt8 := 0x00
def EWRPT : UInt8 := 0x02
def ETXST : UInt8 := 0x04
def ETXND : UInt8 := 0x06
def ERXST : UInt8 := 0x08
def ERXND : UInt8 := 0x0A
def ERXRDPT : UInt8 := 0x0C
def EDMAST : UInt8 := 0x10
def EDMAND : UInt8 := 0x12
def EDMADST : UInt8 := 0x14
def EPMM0 : UInt8 := 0x08 ||| 0x20
def EPMCS : UInt8 := 0x10 ||| 0x20
def ERXFCON : UInt8 := 0x18 ||| 0x20
def EPKTCNT : UInt8 := 0x19 ||| 0x20
def MACON1 : UInt8 := 0x00 ||| 0x40 ||| 0x80
def MACON2 : UInt8 := 0x01 ||| 0x40 ||| 0x80
def MACON3 : UInt8 := 0x02 ||| 0x40 ||| 0x80
def MABBIPG : UInt8 := 0x04 ||| 0x40 ||| 0x80
def MAIPG : UInt8 := 0x06 ||| 0x40 ||| 0x80
def MAMXFL : UInt8 := 0x0A ||| 0x40 ||| 0x80
def MICMD : UInt8 := 0x12 ||| 0x40 ||| 0x80
def MIREGADR : UInt8 := 0x14 ||| 0x40 ||| 0x80
def MIWR : UInt8 := 0x16 ||| 0x40 ||| 0x80
def MIRD : UInt8 := 0x18 ||| 0x40 ||| 0x80
def MAADR1 : UInt8 := 0x00 ||| 0x60 ||| 0x80
def MAADR0 : UInt8 := 0x01 ||| 0x60 ||| 0x80
def MAADR3 : UInt8 := 0x02 ||| 0x60 ||| 0x80
def MAADR2 : UInt8 := 0x03 ||| 0x60 ||| 0x80
def MAADR5 : UInt8 := 0x04 ||| 0x60 ||| 0x80
def MAADR4 : UInt8 := 0x05 ||| 0x60 ||| 0x80
def MISTAT : UInt8 := 0x0A ||| 0x60 ||| 0x80
def EREVID : UInt8 := 0x12 ||| 0x60

def ERXFCON_UCEN : UInt8 := 0x80
def ERXFCON_CRCEN : UInt8 := 0x20
def ERXFCON_PMEN : UInt8 := 0x10
def ERXFCON_BCEN : UInt8 := 0x01
def EIE_INTIE : UInt8 := 0x80
def EIE_PKTIE : UInt8 := 0x40
def EIR_TXERIF : UInt8 := 0x02
def ESTAT_RXBUSY : UInt8 := 0x04
def ESTAT_CLKRDY : UInt8 := 0x01
def ECON2_PKTDEC : UInt8 := 0x40
def ECON2_PWRSV : UInt8 := 0x20
def ECON2_VRPS : UInt8 := 0x08
def ECON1_TXRST : UInt8 := 0x80
def ECON1_DMAST : UInt8 := 0x20
def ECON1_CSUMEN : UInt8 := 0x10
def ECON1_TXRTS : UInt8 := 0x08
def ECON1_RXEN : UInt8 := 0x04
def ECON1_BSEL1 : UInt8 := 0x02
def ECON1_BSEL0 : UInt8 := 0x01
def MACON1_TXPAUS : UInt8 := 0x08
def MACON1_RXPAUS : UInt8 := 0x04
def MACON1_MARXEN : UInt8 := 0x01
def MACON3_PADCFG0 : UInt8 := 0x20
def MACON3_TXCRCEN : UInt8 := 0x10
def MACON3_FRMLNEN : UInt8 := 0x02
def MICMD_MIIRD : UInt8 := 0x01
def MISTAT_BUSY : UInt8 := 0x01
def PHCON2 : UInt8 := 0x10
def PHSTAT2 : UInt8 := 0x11
def PHCON2_HDLDIS : UInt16 := 0x0100

def ENC28J60_READ_CTRL_REG : UInt8 := 0x00
def ENC28J60_READ_BUF_MEM : UInt8 := 0x3A
def ENC28J60_WRITE_CTRL_REG : UInt8 := 0x40
def ENC28J60_WRITE_BUF_MEM : UInt8 := 0x7A
def ENC28J60_BIT_FIELD_SET : UInt8 := 0x80
def ENC28J60_BIT_FIELD_CLR : UInt8 := 0xA0
def ENC28J60_SOFT_RESET : UInt8 := 0xFF

/-! ### The chip -/

/-- An instruction the driver has issued, and the bank that was selected then. -/
structure Access where
  op : UInt8
  address : UInt8
  bank : UInt8
  deriving DecidableEq, Repr

/-- The instruction reads or writes a control register, or sets or clears bits of one. -/
def Access.isControl (a : Access) : Bool :=
  [ENC28J60_READ_CTRL_REG, ENC28J60_WRITE_CTRL_REG, ENC28J60_BIT_FIELD_SET,
    ENC28J60_BIT_FIELD_CLR].contains a.op

/-- If the register is in a bank, it is in the one that is selected. -/
def Access.InBank (a : Access) : Prop :=
  a.isControl → a.address &&& ADDR_MASK < EIE → a.bank = (a.address &&& BANK_MASK) >>> 5

instance (a : Access) : Decidable a.InBank := by unfold Access.InBank; infer_instance

/-- The bank that is selected behind an instruction: a reset selects the first one, and the two
lowest bits of ECON1 select one. -/
def bankAfter (op address data bank : UInt8) : UInt8 :=
  if op = ENC28J60_SOFT_RESET then 0
  else if address &&& ADDR_MASK = ECON1 then
    if op = ENC28J60_WRITE_CTRL_REG then data &&& (ECON1_BSEL1 ||| ECON1_BSEL0)
    else if op = ENC28J60_BIT_FIELD_SET then bank ||| (data &&& (ECON1_BSEL1 ||| ECON1_BSEL0))
    else if op = ENC28J60_BIT_FIELD_CLR then
      bank &&& ~~~(data &&& (ECON1_BSEL1 ||| ECON1_BSEL0))
    else bank
  else bank

/-- The fields of the driver, the bank that is selected on the chip, the answers of the chip that
are to come, and the instructions that have been issued. -/
structure Driver where
  Enc28j60Bank : UInt8
  gNextPacketPtr : UInt16
  revision : UInt8
  recvBuffer : ENC28J60Buffer
  bank : UInt8
  answers : Bytes
  log : List Access
  deriving DecidableEq, Repr

/-- Issue an instruction. -/
def issue (op address : UInt8) (s : Driver) : Driver :=
  { s with log := s.log ++ [⟨op, address, s.bank⟩] }

/-- The next answer of the chip. -/
def answer : Proc Driver UInt8 :=
  ⟨fun s => match s.answers with
    | [] => (none, s)
    | a :: answers => (some a, { s with answers := answers })⟩

/-- `while (cond) body`. A round takes an answer at least, so that the answers there are bound the
number of rounds. -/
def loop (cond : Proc Driver Bool) (body : Proc Driver Unit) : Proc Driver Unit :=
  ⟨fun s => (go (s.answers.length + 1)).run s⟩
where
  go : ℕ → Proc Driver Unit
    | 0 => Proc.fail
    | rounds + 1 => do
        let again ← cond
        if again then do
          body
          go rounds
        else pure ()

/-! ### Private helpers -/

/-- `ENC28J60Driver::readOp`; only the last byte of the answer of a MAC or MII register counts. -/
def readOp (op address : UInt8) : Proc Driver UInt8 := do
  Proc.modify (issue op address)
  answer

/-- `ENC28J60Driver::writeOp` -/
def writeOp (op address data : UInt8) : Proc Driver Unit :=
  Proc.modify fun s => { issue op address s with bank := bankAfter op address data s.bank }

/-- `ENC28J60Driver::SetBank` -/
def SetBank (address : UInt8) : Proc Driver Unit := do
  let bank ← Proc.read Driver.Enc28j60Bank
  if address &&& BANK_MASK ≠ bank then do
    writeOp ENC28J60_BIT_FIELD_CLR ECON1 (ECON1_BSEL1 ||| ECON1_BSEL0)
    Proc.modify fun s => { s with Enc28j60Bank := address &&& BANK_MASK }
    let bank ← Proc.read Driver.Enc28j60Bank
    writeOp ENC28J60_BIT_FIELD_SET ECON1 (bank >>> 5)
  else pure ()

/-- `ENC28J60Driver::readRegByte` -/
def readRegByte (address : UInt8) : Proc Driver UInt8 := do
  SetBank address
  readOp ENC28J60_READ_CTRL_REG address

/-- `ENC28J60Driver::readReg`, the operands of the sum from left to right. -/
def readReg (address : UInt8) : Proc Driver UInt16 := do
  let low ← readRegByte address
  let high ← readRegByte (address + 1)
  pure (low.toUInt16 + high.toUInt16 <<< 8)

/-- `ENC28J60Driver::writeRegByte` -/
def writeRegByte (address data : UInt8) : Proc Driver Unit := do
  SetBank address
  writeOp ENC28J60_WRITE_CTRL_REG address data

/-- `ENC28J60Driver::writeReg` -/
def writeReg (address : UInt8) (data : UInt16) : Proc Driver Unit := do
  writeRegByte address data.toUInt8
  writeRegByte (address + 1) (data >>> 8).toUInt8

/-- `readRegByte(address) & mask`, as a condition. -/
def testRegByte (address mask : UInt8) : Proc Driver Bool := do
  let d ← readRegByte address
  pure (d &&& mask != 0)

/-- `readOp(ENC28J60_READ_CTRL_REG, address) & mask`, as a condition. -/
def testOp (address mask : UInt8) : Proc Driver Bool := do
  let d ← readOp ENC28J60_READ_CTRL_REG address
  pure (d &&& mask != 0)

/-- `ENC28J60Driver::readPhyByte` -/
def readPhyByte (address : UInt8) : Proc Driver UInt16 := do
  writeRegByte MIREGADR address
  writeRegByte MICMD MICMD_MIIRD
  loop (testRegByte MISTAT MISTAT_BUSY) (pure ())
  writeRegByte MICMD 0x00
  let d ← readRegByte (MIRD + 1)
  pure d.toUInt16

/-- `ENC28J60Driver::writePhy` -/
def writePhy (address : UInt8) (data : UInt16) : Proc Driver Unit := do
  writeRegByte MIREGADR address
  writeReg MIWR data
  loop (testRegByte MISTAT MISTAT_BUSY) (pure ())

/-- The bytes of `readBuf`. -/
def readBytes : ℕ → Proc Driver Bytes
  | 0 => pure []
  | len + 1 => do
      let d ← answer
      let rest ← readBytes len
      pure (d :: rest)

/-- `ENC28J60Driver::readBuf` -/
def readBuf (len : UInt16) : Proc Driver Bytes := do
  Proc.modify (issue ENC28J60_READ_BUF_MEM 0)
  readBytes len.toNat

/-- `ENC28J60Driver::writeBuf`. The data go to the RAM. -/
def writeBuf (_data : Bytes) : Proc Driver Unit :=
  Proc.modify (issue ENC28J60_WRITE_BUF_MEM 0)

/-! ### The constructor -/

/-- The part of the constructor behind the first register that is written. -/
def setUp (macaddr : MACAddr) : Proc Driver Unit := do
  writeReg ERXRDPT RXSTART_INIT
  writeReg ERXND RXSTOP_INIT
  writeReg ETXST TXSTART_INIT
  writeReg ETXND TXSTOP_INIT
  writeRegByte ERXFCON (ERXFCON_UCEN ||| ERXFCON_CRCEN ||| ERXFCON_PMEN ||| ERXFCON_BCEN)
  writeReg EPMM0 0x303f
  writeReg EPMCS 0xf7f9
  writeRegByte MACON1 (MACON1_MARXEN ||| MACON1_TXPAUS ||| MACON1_RXPAUS)
  writeRegByte MACON2 0x00
  writeOp ENC28J60_BIT_FIELD_SET MACON3 (MACON3_PADCFG0 ||| MACON3_TXCRCEN ||| MACON3_FRMLNEN)
  writeReg MAIPG 0x0C12
  writeRegByte MABBIPG 0x12
  writeReg MAMXFL MAX_FRAMELEN
  writeRegByte MAADR5 macaddr.m0
  writeRegByte MAADR4 macaddr.m1
  writeRegByte MAADR3 macaddr.m2
  writeRegByte MAADR2 macaddr.m3
  writeRegByte MAADR1 macaddr.m4
  writeRegByte MAADR0 macaddr.m5
  writePhy PHCON2 PHCON2_HDLDIS
  SetBank ECON1
  writeOp ENC28J60_BIT_FIELD_SET EIE (EIE_INTIE ||| EIE_PKTIE)
  writeOp ENC28J60_BIT_FIELD_SET ECON1 ECON1_RXEN
  let revision ← readRegByte EREVID
  Proc.modify fun s => { s with revision := revision }
  Proc.modify fun s => if s.revision > 5 then { s with revision := s.revision + 1 } else s

/-- `ENC28J60Driver::ENC28J60Driver`. `!` binds tighter than `&`, so that the driver waits for a
status other than 0. -/
def new (macaddr : MACAddr) : Proc Driver Unit := do
  Proc.modify fun s => { s with recvBuffer := ENC28J60Buffer.recvBuffer }
  writeOp ENC28J60_SOFT_RESET 0 ENC28J60_SOFT_RESET
  loop (do
    let d ← readOp ENC28J60_READ_CTRL_REG ESTAT
    pure ((if d = 0 then 1 else 0) &&& ESTAT_CLKRDY != 0)) (pure ())
  Proc.modify fun s => { s with gNextPacketPtr := RXSTART_INIT }
  writeReg ERXST RXSTART_INIT
  setUp macaddr

/-! ### Access to the RAM -/

/-- `ENC28J60Driver::write` -/
def write (offset : UInt16) (data : Bytes) : Proc Driver Bool := do
  writeReg EWRPT offset
  writeBuf data
  pure true

/-- `ENC28J60Driver::read` -/
def read (offset len : UInt16) : Proc Driver (Bool × Bytes) := do
  writeReg ERDPT offset
  let data ← readBuf len
  pure (true, data)

/-- The checks of `ENC28J60Driver::copy`: the last address of the source, if it goes on. -/
def copyEnd (src_addr_start dest_addr len : UInt16) : Option UInt16 :=
  if dest_addr > 0x1FFF then none
  else if src_addr_start > 0x1FFF then none
  else if dest_addr ≥ RXSTART_INIT ∧ dest_addr ≤ RXSTOP_INIT then none
  else
    let src_addr_end := src_addr_start + len
    let inReceive := src_addr_start ≥ RXSTART_INIT ∧ src_addr_start ≤ RXSTOP_INIT
    let src_addr_end := if inReceive ∧ src_addr_end > RXSTOP_INIT
      then src_addr_end - RXSTOP_INIT + RXSTART_INIT - 1 else src_addr_end
    if inReceive ∧ src_addr_end > RXSTOP_INIT then none
    else if src_addr_end > 0x1FFF then none
    else if dest_addr + len > 0x1FFF then none
    else some src_addr_end

/-- The DMA that `copy` starts, as far as the RAM is concerned. -/
theorem copy_eq_copyEnd (src_addr_start dest_addr len : UInt16) (c : ENC28J60Driver.Chip) :
    ENC28J60Driver.copy src_addr_start dest_addr len c =
      match copyEnd src_addr_start dest_addr len with
      | none => some (false, c)
      | some src_addr_end =>
          if c.dmast then some (false, c)
          else (Walk.transferUntil ENC28J60Driver.advance ENC28J60Driver.advanceLinear
            src_addr_end.toNat ENC28J60Driver.ramSize src_addr_start.toNat dest_addr.toNat
            c.ram).map fun ram => (true, { c with ram := ram }) := by
  unfold ENC28J60Driver.copy copyEnd
  dsimp only
  split_ifs
  all_goals rfl

/-- `ENC28J60Driver::copy` -/
def copy (src_addr_start dest_addr len : UInt16) : Proc Driver Bool :=
  match copyEnd src_addr_start dest_addr len with
  | none => pure false
  | some src_addr_end => do
      let busy ← testOp ECON1 ECON1_DMAST
      if busy then pure false
      else do
        writeOp ENC28J60_BIT_FIELD_CLR ECON1 (ECON1_DMAST ||| ECON1_CSUMEN)
        writeReg EDMAST src_addr_start
        writeReg EDMAND src_addr_end
        writeReg EDMADST dest_addr
        writeOp ENC28J60_BIT_FIELD_SET ECON1 ECON1_DMAST
        loop (testOp ECON1 ECON1_DMAST) (pure ())
        pure true

/-! ### Sending and receiving -/

/-- `ENC28J60Driver::sendFrame` -/
def sendFrame (len : UInt16) : Proc Driver Unit := do
  loop (testOp ECON1 ECON1_TXRTS) do
    let failed ← testRegByte EIR EIR_TXERIF
    if failed then do
      writeOp ENC28J60_BIT_FIELD_SET ECON1 ECON1_TXRST
      writeOp ENC28J60_BIT_FIELD_CLR ECON1 ECON1_TXRST
    else pure ()
  writeReg ETXND (TXSTART_INIT + len)
  writeReg EWRPT TXSTART_INIT
  writeOp ENC28J60_WRITE_BUF_MEM 0 0x00
  writeOp ENC28J60_BIT_FIELD_SET ECON1 ECON1_TXRTS

/-- `ENC28J60Driver::receiveFrame` -/
def receiveFrame : Proc Driver UInt16 := do
  let count ← readRegByte EPKTCNT
  if count > 0 then do
    let nextPacketPtr ← Proc.read Driver.gNextPacketPtr
    writeReg ERDPT nextPacketPtr
    let header ← readBuf 6
    let offset ← readReg ERDPT
    Proc.modify fun s => { s with recvBuffer := s.recvBuffer.setPayloadPointer offset }
    Proc.modify fun s => { s with gNextPacketPtr := word16 header }
    let size ← Proc.read fun s => s.recvBuffer.size
    let len := word16 (header.drop 2) - 4
    let len := if len > size then size else len
    let len := if word16 (header.drop 4) &&& 0x80 = 0 then 0 else len
    writeReg ERXRDPT offset
    writeOp ENC28J60_BIT_FIELD_SET ECON2 ECON2_PKTDEC
    pure len
  else pure 0

/-! ### Power management -/

/-- `ENC28J60Driver::isLinkUp` -/
def isLinkUp : Proc Driver Bool := do
  let d ← readPhyByte PHSTAT2
  pure ((d >>> 2) &&& 1 != 0)

/-- `ENC28J60Driver::powerDown` -/
def powerDown : Proc Driver Unit := do
  writeOp ENC28J60_BIT_FIELD_CLR ECON1 ECON1_RXEN
  loop (testRegByte ESTAT ESTAT_RXBUSY) (pure ())
  loop (testRegByte ECON1 ECON1_TXRTS) (pure ())
  writeOp ENC28J60_BIT_FIELD_SET ECON2 ECON2_VRPS
  writeOp ENC28J60_BIT_FIELD_SET ECON2 ECON2_PWRSV

/-- `ENC28J60Driver::powerUp`, with the same condition as in the constructor. -/
def powerUp : Proc Driver Unit := do
  writeOp ENC28J60_BIT_FIELD_CLR ECON2 ECON2_PWRSV
  loop (do
    let d ← readRegByte ESTAT
    pure ((if d = 0 then 1 else 0) &&& ESTAT_CLKRDY != 0)) (pure ())
  writeOp ENC28J60_BIT_FIELD_SET ECON1 ECON1_RXEN

/-! ### Sessions -/

/-- The operations of the driver. -/
inductive Operation
  | sendFrame (len : UInt16)
  | receiveFrame
  | read (offset len : UInt16)
  | write (offset : UInt16) (data : Bytes)
  | copy (src_addr dest_addr len : UInt16)
  | isLinkUp
  | powerDown
  | powerUp

/-- Discard a result. -/
def discard {β : Type} (x : Proc Driver β) : Proc Driver Unit := do
  let _ ← x
  pure ()

/-- An operation, its result left to the caller. -/
def perform : Operation → Proc Driver Unit
  | .sendFrame len => sendFrame len
  | .receiveFrame => discard receiveFrame
  | .read offset len => discard (read offset len)
  | .write offset data => discard (write offset data)
  | .copy src_addr dest_addr len => discard (copy src_addr dest_addr len)
  | .isLinkUp => discard isLinkUp
  | .powerDown => powerDown
  | .powerUp => powerUp

/-- Operations one behind the other. -/
def performAll : List Operation → Proc Driver Unit
  | [] => pure ()
  | operation :: operations => do
      perform operation
      performAll operations

/-- The constructor, and what is called then. -/
def session (macaddr : MACAddr) (operations : List Operation) : Proc Driver Unit := do
  new macaddr
  performAll operations

/-! ### Waiting for the chip -/

/-- A procedure that gives up only where the chip gives no more answers. -/
def Waits {β : Type} (x : Proc Driver β) : Prop :=
  ∀ s, (x.run s).2.answers.length ≤ s.answers.length ∧
    ((x.run s).1 = none → (x.run s).2.answers = [])

/-- A procedure that has taken an answer wherever it goes on. -/
def Takes {β : Type} (x : Proc Driver β) : Prop :=
  ∀ s b s', x.run s = (some b, s') → s'.answers.length < s.answers.length

section Waits

variable {β γ : Type} {x : Proc Driver β} {f : β → Proc Driver γ}

/-- A value needs no answer. -/
theorem waits_pure (b : β) : Waits (pure b) := fun _ => ⟨le_rfl, fun h => absurd h (by simp)⟩

/-- A step that leaves the answers alone needs none. -/
theorem waits_modify {f : Driver → Driver} (h : ∀ s, (f s).answers = s.answers) :
    Waits (Proc.modify f) :=
  fun s => ⟨(congrArg List.length (h s)).le, fun hnone => absurd hnone (by simp)⟩

/-- Asking for an answer gives up only where there is none. -/
theorem waits_answer : Waits answer := by
  intro s
  unfold answer
  dsimp only
  cases hs : s.answers with
  | nil => exact ⟨(congrArg List.length hs).le, fun _ => hs⟩
  | cons a answers => exact ⟨Nat.le_succ _, fun h => absurd h (by simp)⟩

/-- Asking for an answer uses one up. -/
theorem takes_answer : Takes answer := by
  intro s b s' h
  unfold answer at h
  dsimp only at h
  cases hs : s.answers with
  | nil => exact absurd (congrArg Prod.fst h) (by simp [hs])
  | cons a answers =>
      rw [hs] at h
      have hs' : { s with answers := answers } = s' := congrArg Prod.snd h
      rw [← hs']
      exact Nat.lt_succ_self _

/-- Procedures that only wait, one behind the other, only wait. -/
theorem Waits.bind (hx : Waits x) (hf : ∀ b, Waits (f b)) : Waits (x >>= f) := by
  intro s
  have h := hx s
  rcases hrun : x.run s with ⟨_ | b, s'⟩
  · rw [Proc.run_bind_of_none hrun]
    rw [hrun] at h
    exact ⟨h.1, fun _ => h.2 rfl⟩
  · rw [Proc.run_bind_of_some hrun]
    rw [hrun] at h
    exact ⟨(hf b s').1.trans h.1, (hf b s').2⟩

/-- Whichever branch is taken only waits. -/
theorem Waits.ite {c : Prop} [Decidable c] {x y : Proc Driver β} (hx : Waits x) (hy : Waits y) :
    Waits (if c then x else y) := by
  split
  · exact hx
  · exact hy

/-- Looking at a field needs no answer. -/
theorem waits_read_bind {g : Driver → β} (hf : ∀ b, Waits (f b)) : Waits (Proc.read g >>= f) :=
  fun s => hf (g s) s

/-- What is read before and what is done behind does not matter for an answer that is taken. -/
theorem Takes.bind (hx : Takes x) (hf : ∀ b, Waits (f b)) : Takes (x >>= f) := by
  intro s c s' h
  obtain ⟨b, t, hrun, hrest⟩ := Proc.run_bind_eq_some h
  have hle := (hf b t).1
  rw [hrest] at hle
  exact hle.trans_lt (hx s b t hrun)

/-- What uses an answer up still does so behind another procedure. -/
theorem Waits.bind_takes (hx : Waits x) (hf : ∀ b, Takes (f b)) : Takes (x >>= f) := by
  intro s c s' h
  obtain ⟨b, t, hrun, hrest⟩ := Proc.run_bind_eq_some h
  have hle := (hx s).1
  rw [hrun] at hle
  exact (hf b t c s' hrest).trans_le hle

/-- The answers there are bound the rounds of a loop that takes one in each. -/
theorem Waits.loop {cond : Proc Driver Bool} {body : Proc Driver Unit} (hcond : Waits cond)
    (htakes : Takes cond) (hbody : Waits body) : Waits (loop cond body) := by
  have hgo : ∀ (rounds : ℕ) (s : Driver), s.answers.length < rounds →
      ((loop.go cond body rounds).run s).2.answers.length ≤ s.answers.length ∧
        (((loop.go cond body rounds).run s).1 = none →
          ((loop.go cond body rounds).run s).2.answers = []) := by
    intro rounds
    induction rounds with
    | zero => exact fun s h => absurd h (Nat.not_lt_zero _)
    | succ rounds ih =>
        intro s hlt
        have h := hcond s
        rw [loop.go]
        rcases hrun : cond.run s with ⟨_ | again, s'⟩
        · rw [Proc.run_bind_of_none hrun]
          rw [hrun] at h
          exact ⟨h.1, fun _ => h.2 rfl⟩
        rw [Proc.run_bind_of_some hrun]
        have hless := htakes s again s' hrun
        cases again with
        | false => exact ⟨hless.le, fun hnone => absurd hnone (by simp)⟩
        | true =>
            rw [if_pos rfl]
            have hb := hbody s'
            rcases hrun' : body.run s' with ⟨_ | u, s''⟩
            · rw [Proc.run_bind_of_none hrun']
              rw [hrun'] at hb
              exact ⟨hb.1.trans hless.le, fun _ => hb.2 rfl⟩
            · rw [Proc.run_bind_of_some hrun']
              rw [hrun'] at hb
              have hle : s''.answers.length ≤ s'.answers.length := hb.1
              obtain ⟨hlen, hnone⟩ := ih s'' (by omega)
              exact ⟨by omega, hnone⟩
  exact fun s => hgo _ s (Nat.lt_succ_self _)

end Waits

/-! ### The bank that is remembered -/

/-- `Enc28j60Bank` tells the truth, and every register has been accessed in its bank. -/
structure Truthful (s : Driver) : Prop where
  lt : s.bank < 4
  bank : s.Enc28j60Bank = s.bank <<< 5
  log : ∀ a ∈ s.log, a.InBank

/-- Behind the reset the first bank is selected, whatever `Enc28j60Bank` says. -/
structure Fresh (s : Driver) : Prop where
  bank : s.bank = 0
  log : ∀ a ∈ s.log, a.InBank

/-- A step keeps a property. -/
def Keeps (P : Driver → Prop) (s s' : Driver) : Prop := P s → P s'

instance (P : Driver → Prop) : IsPreorder Driver (Keeps P) where
  refl _ := id
  trans _ _ _ h h' := h' ∘ h

/-- A part of the driver: it waits for answers only, and keeps `Enc28j60Bank` truthful. -/
structure Driven {β : Type} (x : Proc Driver β) : Prop where
  waits : Waits x
  keeps : Proc.Within (Keeps Truthful) x

/-- One more instruction in its bank keeps all of them in their banks. -/
theorem inBank_concat {l : List Access} (hl : ∀ a ∈ l, a.InBank) {b : Access} (hb : b.InBank) :
    ∀ a ∈ l ++ [b], a.InBank := by
  intro a ha
  rcases List.mem_append.mp ha with ha | ha
  · exact hl a ha
  · rw [List.mem_singleton.mp ha]
    exact hb

/-- An instruction in its bank keeps the record truthful. -/
theorem Truthful.issue {s : Driver} (h : Truthful s) {op address : UInt8}
    (hin : (Access.mk op address s.bank).InBank) : Truthful (issue op address s) :=
  ⟨h.lt, h.bank, inBank_concat h.log hin⟩

/-- An instruction that is no reset, and that neither writes ECON1 nor names one of its two lowest
bits. -/
def SelectsNoBank (op address data : UInt8) : Prop :=
  op ≠ ENC28J60_SOFT_RESET ∧ (address &&& ADDR_MASK = ECON1 →
    op ≠ ENC28J60_WRITE_CTRL_REG ∧ data &&& (ECON1_BSEL1 ||| ECON1_BSEL0) = 0)

instance (op address data : UInt8) : Decidable (SelectsNoBank op address data) :=
  inferInstanceAs (Decidable (_ ∧ _))

/-- Such an instruction leaves the bank that is selected. -/
theorem SelectsNoBank.bankAfter {op address data : UInt8} (h : SelectsNoBank op address data)
    (bank : UInt8) : bankAfter op address data bank = bank := by
  obtain ⟨hreset, hselect⟩ := h
  unfold ENC28J60Registers.bankAfter
  rw [if_neg hreset]
  by_cases hcontrol : address &&& ADDR_MASK = ECON1
  · obtain ⟨hwrite, hbits⟩ := hselect hcontrol
    rw [if_pos hcontrol, if_neg hwrite, hbits]
    simp
  · rw [if_neg hcontrol]

/-- An instruction that selects no bank. -/
theorem Truthful.writeOp {s : Driver} (h : Truthful s) {op address data : UInt8}
    (hbank : SelectsNoBank op address data)
    (hin : (Access.mk op address s.bank).InBank) :
    ∃ t, (writeOp op address data).run s = (some (), t) ∧ Truthful t ∧ t.bank = s.bank := by
  have hsame := hbank.bankAfter s.bank
  refine ⟨_, rfl, ⟨?_, ?_, inBank_concat h.log hin⟩, hsame⟩
  · dsimp only
    rw [hsame]
    exact h.lt
  · dsimp only
    rw [hsame]
    exact h.bank

/-- Selecting a bank: if the bank is not selected because it is remembered, it has to be the one
that is selected. -/
theorem setBank_run (address : UInt8) {s : Driver} (hlog : ∀ a ∈ s.log, a.InBank)
    (hlt : s.bank < 4)
    (h : s.Enc28j60Bank = address &&& BANK_MASK → s.bank = (address &&& BANK_MASK) >>> 5) :
    ∃ s', (SetBank address).run s = (some (), s') ∧ Truthful s' ∧ s'.answers = s.answers ∧
      s'.bank = (address &&& BANK_MASK) >>> 5 := by
  have hbits : ∀ address : UInt8, (address &&& BANK_MASK) >>> 5 < 4 ∧
      (address &&& BANK_MASK) >>> 5 <<< 5 = address &&& BANK_MASK ∧
      bankAfter ENC28J60_BIT_FIELD_SET ECON1 ((address &&& BANK_MASK) >>> 5) 0 =
        (address &&& BANK_MASK) >>> 5 :=
    forall_uint8 (by decide +kernel)
  have hclear : ∀ bank : UInt8, bank < 4 →
      bankAfter ENC28J60_BIT_FIELD_CLR ECON1 (ECON1_BSEL1 ||| ECON1_BSEL0) bank = 0 :=
    forall_uint8 (by decide +kernel)
  have hcommon : ∀ op bank : UInt8, (Access.mk op ECON1 bank).InBank :=
    fun _ _ _ hlt => absurd hlt (by decide : ¬ ECON1 &&& ADDR_MASK < EIE)
  obtain ⟨hlt', hshift, hset⟩ := hbits address
  unfold SetBank
  rw [Proc.run_read_bind]
  by_cases hsame : address &&& BANK_MASK ≠ s.Enc28j60Bank
  · rw [if_pos hsame]
    refine ⟨_, rfl, ⟨?_, ?_, ?_⟩, rfl, ?_⟩
    · dsimp only [issue]
      rw [hclear _ hlt, hset]
      exact hlt'
    · dsimp only [issue]
      rw [hclear _ hlt, hset, hshift]
    · exact inBank_concat (inBank_concat hlog (hcommon _ _)) (hcommon _ _)
    · dsimp only [issue]
      rw [hclear _ hlt, hset]
  · have hbank := h (not_not.mp hsame).symm
    rw [if_neg hsame]
    refine ⟨s, rfl, ⟨hlt, ?_, hlog⟩, rfl, hbank⟩
    rw [hbank, hshift, not_not.mp hsame]

/-- With a truthful `Enc28j60Bank` a bank is selected. -/
theorem Truthful.setBank {s : Driver} (h : Truthful s) (address : UInt8) :
    ∃ s', (SetBank address).run s = (some (), s') ∧ Truthful s' ∧ s'.answers = s.answers ∧
      s'.bank = (address &&& BANK_MASK) >>> 5 := by
  have hshift : ∀ bank : UInt8, bank < 4 → bank <<< 5 >>> 5 = bank :=
    forall_uint8 (by decide +kernel)
  refine setBank_run address h.log h.lt fun hsame => ?_
  rw [← hsame, h.bank, hshift _ h.lt]

/-- Behind the reset the first bank is selected. -/
theorem Fresh.setBank {s : Driver} (h : Fresh s) (address : UInt8)
    (hfirst : address &&& BANK_MASK = 0) :
    ∃ s', (SetBank address).run s = (some (), s') ∧ Truthful s' ∧ s'.answers = s.answers ∧
      s'.bank = (address &&& BANK_MASK) >>> 5 := by
  refine setBank_run address h.log ?_ fun _ => ?_
  · rw [h.bank]
    decide
  · rw [h.bank, hfirst]
    decide

/-- What every test and every round preserve, the loop preserves. -/
theorem within_loop {R : Driver → Driver → Prop} [IsPreorder Driver R] {cond : Proc Driver Bool}
    {body : Proc Driver Unit} (hcond : Proc.Within R cond) (hbody : Proc.Within R body) :
    Proc.Within R (loop cond body) := by
  have hgo : ∀ rounds, Proc.Within R (loop.go cond body rounds) := by
    intro rounds
    induction rounds with
    | zero => exact Proc.within_fail
    | succ rounds ih =>
        exact hcond.bind fun _ => (hbody.bind fun _ => ih).ite (Proc.within_pure _)
  exact fun s => hgo (s.answers.length + 1) s

namespace Driven

variable {β γ : Type} {x : Proc Driver β} {f : β → Proc Driver γ}

/-- A value is driven. -/
theorem pure (b : β) : Driven (Pure.pure b) := ⟨waits_pure b, Proc.within_pure b⟩

/-- Driven procedures, one behind the other, are driven. -/
theorem bind (hx : Driven x) (hf : ∀ b, Driven (f b)) : Driven (x >>= f) :=
  ⟨hx.waits.bind fun b => (hf b).waits, hx.keeps.bind fun b => (hf b).keeps⟩

/-- Looking at a field keeps a procedure driven. -/
theorem read_bind {g : Driver → β} (hf : ∀ b, Driven (f b)) : Driven (Proc.read g >>= f) :=
  ⟨waits_read_bind fun b => (hf b).waits, Proc.within_read_bind fun b => (hf b).keeps⟩

/-- Whichever branch is taken is driven. -/
theorem ite {c : Prop} [Decidable c] {x y : Proc Driver β} (hx : Driven x) (hy : Driven y) :
    Driven (if c then x else y) :=
  ⟨hx.waits.ite hy.waits, hx.keeps.ite hy.keeps⟩

/-- A loop is driven if its test uses an answer up. -/
theorem loop {cond : Proc Driver Bool} {body : Proc Driver Unit} (hcond : Driven cond)
    (htakes : Takes cond) (hbody : Driven body) : Driven (loop cond body) :=
  ⟨hcond.waits.loop htakes hbody.waits, within_loop hcond.keeps hbody.keeps⟩

/-- Changes of the other fields. -/
theorem modify {f : Driver → Driver} (hanswers : ∀ s, (f s).answers = s.answers)
    (hbank : ∀ s, (f s).bank = s.bank) (hshadow : ∀ s, (f s).Enc28j60Bank = s.Enc28j60Bank)
    (hlog : ∀ s, (f s).log = s.log) : Driven (Proc.modify f) := by
  refine ⟨waits_modify hanswers, fun s h => ⟨?_, ?_, ?_⟩⟩
  · exact (hbank s).symm ▸ h.lt
  · exact (hshadow s).trans (h.bank.trans (by rw [← hbank s]; rfl))
  · exact fun a ha => h.log a (hlog s ▸ ha)

end Driven

/-! ### The parts of the driver -/

/-- Writing needs no answer. -/
theorem waits_writeOp (op address data : UInt8) : Waits (writeOp op address data) :=
  waits_modify fun _ => rfl

/-- An instruction that selects no bank, to a register that is in all of them or to the RAM. -/
theorem driven_writeOp {op address data : UInt8}
    (hbank : SelectsNoBank op address data)
    (hcommon : (Access.mk op address 0).isControl → ¬ address &&& ADDR_MASK < EIE) :
    Driven (writeOp op address data) := by
  refine ⟨waits_writeOp op address data, fun s h => ?_⟩
  obtain ⟨t, hrun, ht, -⟩ := h.writeOp hbank fun hcontrol hlt => absurd hlt (hcommon hcontrol)
  rw [hrun]
  exact ht

/-- Asking for an answer issues nothing. -/
theorem driven_answer : Driven answer := by
  refine ⟨waits_answer, fun s h => ?_⟩
  unfold answer
  dsimp only
  cases s.answers with
  | nil => exact h
  | cons a answers => exact ⟨h.lt, h.bank, h.log⟩

/-- Reading a register that is in all banks. -/
theorem driven_readOp {address : UInt8} (hcommon : ¬ address &&& ADDR_MASK < EIE) :
    Driven (readOp ENC28J60_READ_CTRL_REG address) := by
  have hissue : Driven (Proc.modify (issue ENC28J60_READ_CTRL_REG address)) :=
    ⟨waits_modify fun _ => rfl, fun s h =>
      h.issue fun _ hlt => absurd hlt hcommon⟩
  exact hissue.bind fun _ => driven_answer

/-- Reading uses an answer up. -/
theorem takes_readOp (op address : UInt8) : Takes (readOp op address) :=
  (waits_modify (f := issue op address) fun _ => rfl).bind_takes fun _ => takes_answer

/-- Selecting a bank needs no answer. -/
theorem waits_SetBank (address : UInt8) : Waits (SetBank address) := by
  refine waits_read_bind fun bank => Waits.ite ?_ (waits_pure ())
  refine (waits_writeOp _ _ _).bind fun _ => Waits.bind (waits_modify fun _ => rfl) fun _ => ?_
  exact waits_read_bind fun bank => waits_writeOp _ _ _

/-- Selecting a bank only touches ECON1, which is in every bank. -/
theorem driven_SetBank (address : UInt8) : Driven (SetBank address) := by
  refine ⟨waits_SetBank address, fun s h => ?_⟩
  obtain ⟨s', hrun, hs', -⟩ := h.setBank address
  rw [hrun]
  exact hs'

/-- A register is read in the bank that has been selected for it. -/
theorem driven_readRegByte (address : UInt8) : Driven (readRegByte address) := by
  have hissue : Waits (Proc.modify (issue ENC28J60_READ_CTRL_REG address)) :=
    waits_modify fun _ => rfl
  refine ⟨(waits_SetBank address).bind fun _ => hissue.bind fun _ => waits_answer, fun s h => ?_⟩
  obtain ⟨s', hrun, hs', -, hbank⟩ := h.setBank address
  unfold readRegByte readOp
  rw [Proc.run_bind_of_some hrun, Proc.run_modify_bind]
  exact driven_answer.keeps _ (hs'.issue fun _ _ => hbank)

/-- Reading a register uses an answer up. -/
theorem takes_readRegByte (address : UInt8) : Takes (readRegByte address) :=
  (waits_SetBank address).bind_takes fun _ => takes_readOp _ _

/-- Both halves of a register are read in their banks. -/
theorem driven_readReg (address : UInt8) : Driven (readReg address) :=
  (driven_readRegByte address).bind fun _ => (driven_readRegByte (address + 1)).bind fun _ =>
    .pure _

/-- Writing a register other than ECON1, behind the selection of its bank. -/
theorem writeRegByte_run {address : UInt8} (hother : address &&& ADDR_MASK ≠ ECON1)
    (data : UInt8) {s s' : Driver} (hrun : (SetBank address).run s = (some (), s'))
    (hs' : Truthful s') (hbank : s'.bank = (address &&& BANK_MASK) >>> 5) :
    ∃ t, (writeRegByte address data).run s = (some (), t) ∧ Truthful t ∧ t.bank = s'.bank := by
  have hselect : SelectsNoBank ENC28J60_WRITE_CTRL_REG address data :=
    ⟨by decide, fun hcontrol => absurd hcontrol hother⟩
  unfold writeRegByte
  rw [Proc.run_bind_of_some hrun]
  exact hs'.writeOp hselect fun _ _ => hbank

/-- Writing a register needs no answer. -/
theorem waits_writeRegByte (address data : UInt8) : Waits (writeRegByte address data) :=
  (waits_SetBank address).bind fun _ => waits_writeOp _ _ _

/-- A register other than ECON1 is written in the bank that has been selected for it; ECON1 would
select another one behind the back of the driver. -/
theorem driven_writeRegByte {address : UInt8} (hother : address &&& ADDR_MASK ≠ ECON1)
    (data : UInt8) : Driven (writeRegByte address data) := by
  refine ⟨waits_writeRegByte address data, fun s h => ?_⟩
  obtain ⟨s', hrun, hs', -, hbank⟩ := h.setBank address
  obtain ⟨t, hwrite, ht, -⟩ := writeRegByte_run hother data hrun hs' hbank
  rw [hwrite]
  exact ht

/-- Both halves of a register are written in their banks. -/
theorem driven_writeReg {address : UInt8} (hlow : address &&& ADDR_MASK ≠ ECON1)
    (hhigh : (address + 1) &&& ADDR_MASK ≠ ECON1) (data : UInt16) :
    Driven (writeReg address data) :=
  (driven_writeRegByte hlow _).bind fun _ => driven_writeRegByte hhigh _

/-- An instruction that relies on the bank which the access before has selected. -/
theorem Driven.sameBank {β : Type} {address op address' data' : UInt8} {f : Unit → Proc Driver β}
    (hother : address &&& ADDR_MASK ≠ ECON1) (data : UInt8)
    (hbank : SelectsNoBank op address' data')
    (hsame : address' &&& BANK_MASK = address &&& BANK_MASK) (hf : Driven (f ())) :
    Driven (writeRegByte address data >>= fun _ => writeOp op address' data' >>= f) := by
  refine ⟨(waits_writeRegByte address data).bind fun _ =>
    (waits_writeOp op address' data').bind fun _ => hf.waits, fun s h => ?_⟩
  obtain ⟨s', hrun, hs', -, hs'bank⟩ := h.setBank address
  obtain ⟨t, hwrite, ht, htbank⟩ := writeRegByte_run hother data hrun hs' hs'bank
  obtain ⟨u, hwrite', hu, -⟩ := ht.writeOp hbank
    fun _ _ => htbank.trans (hs'bank.trans (by rw [hsame]))
  rw [Proc.run_bind_of_some hwrite, Proc.run_bind_of_some hwrite']
  exact hf.keeps u hu

/-- Testing bits of a register is driven. -/
theorem driven_testRegByte (address mask : UInt8) : Driven (testRegByte address mask) :=
  (driven_readRegByte address).bind fun _ => .pure _

/-- Testing bits of a register uses an answer up. -/
theorem takes_testRegByte (address mask : UInt8) : Takes (testRegByte address mask) :=
  (takes_readRegByte address).bind fun _ => waits_pure _

/-- A register that every bank has is tested without selecting one. -/
theorem driven_testOp {address : UInt8} (hcommon : ¬ address &&& ADDR_MASK < EIE) (mask : UInt8) :
    Driven (testOp address mask) :=
  (driven_readOp hcommon).bind fun _ => .pure _

/-- Testing bits without selecting a bank uses an answer up. -/
theorem takes_testOp (address mask : UInt8) : Takes (testOp address mask) :=
  (takes_readOp _ address).bind fun _ => waits_pure _

/-- Waiting until bits of a register are clear. -/
theorem driven_wait (address mask : UInt8) :
    Driven (loop (testRegByte address mask) (pure ())) :=
  .loop (driven_testRegByte address mask) (takes_testRegByte address mask) (.pure ())

/-- Reading from the PHY is driven. -/
theorem driven_readPhyByte (address : UInt8) : Driven (readPhyByte address) :=
  (driven_writeRegByte (by decide) _).bind fun _ => (driven_writeRegByte (by decide) _).bind
    fun _ => (driven_wait _ _).bind fun _ => (driven_writeRegByte (by decide) _).bind fun _ =>
    (driven_readRegByte _).bind fun _ => .pure _

/-- Writing to the PHY is driven. -/
theorem driven_writePhy (address : UInt8) (data : UInt16) : Driven (writePhy address data) :=
  (driven_writeRegByte (by decide) _).bind fun _ =>
    (driven_writeReg (by decide) (by decide) _).bind fun _ => driven_wait _ _

/-- Reading the RAM addresses no register. -/
theorem driven_readBuf (len : UInt16) : Driven (readBuf len) := by
  have hbytes : ∀ len, Driven (readBytes len) := by
    intro len
    induction len with
    | zero => exact .pure []
    | succ len ih => exact driven_answer.bind fun _ => ih.bind fun _ => .pure _
  have hissue : Driven (Proc.modify (issue ENC28J60_READ_BUF_MEM 0)) :=
    ⟨waits_modify fun _ => rfl, fun s h => h.issue fun hcontrol => absurd hcontrol
      (by decide : ¬ (Access.mk ENC28J60_READ_BUF_MEM 0 0).isControl)⟩
  exact hissue.bind fun _ => hbytes len.toNat

/-- Writing the RAM addresses no register. -/
theorem driven_writeBuf (data : Bytes) : Driven (writeBuf data) :=
  ⟨waits_modify fun _ => rfl, fun s h => h.issue fun hcontrol => absurd hcontrol
    (by decide : ¬ (Access.mk ENC28J60_WRITE_BUF_MEM 0 0).isControl)⟩

/-! ### Operations -/

/-- `write` is driven. -/
theorem driven_write (offset : UInt16) (data : Bytes) : Driven (write offset data) :=
  (driven_writeReg (by decide) (by decide) _).bind fun _ => (driven_writeBuf data).bind fun _ =>
    .pure true

/-- `read` is driven. -/
theorem driven_read (offset len : UInt16) : Driven (read offset len) :=
  (driven_writeReg (by decide) (by decide) _).bind fun _ => (driven_readBuf len).bind fun _ =>
    .pure _

/-- `copy` is driven, whether or not it starts the DMA. -/
theorem driven_copy (src_addr_start dest_addr len : UInt16) :
    Driven (copy src_addr_start dest_addr len) := by
  unfold copy
  cases copyEnd src_addr_start dest_addr len with
  | none => exact .pure false
  | some src_addr_end =>
      refine (driven_testOp (by decide) _).bind fun busy => Driven.ite (.pure false) ?_
      refine (driven_writeOp (by decide) (by decide)).bind fun _ =>
        (driven_writeReg (by decide) (by decide) _).bind fun _ =>
        (driven_writeReg (by decide) (by decide) _).bind fun _ =>
        (driven_writeReg (by decide) (by decide) _).bind fun _ =>
        (driven_writeOp (by decide) (by decide)).bind fun _ => ?_
      exact (Driven.loop (driven_testOp (by decide) _) (takes_testOp _ _) (.pure ())).bind
        fun _ => .pure true

/-- `sendFrame` is driven, however often the last frame is being waited for. -/
theorem driven_sendFrame (len : UInt16) : Driven (sendFrame len) := by
  have hreset : Driven (do
      let failed ← testRegByte EIR EIR_TXERIF
      if failed then do
        writeOp ENC28J60_BIT_FIELD_SET ECON1 ECON1_TXRST
        writeOp ENC28J60_BIT_FIELD_CLR ECON1 ECON1_TXRST
      else pure ()) :=
    (driven_testRegByte _ _).bind fun failed =>
      .ite ((driven_writeOp (by decide) (by decide)).bind fun _ =>
        driven_writeOp (by decide) (by decide)) (.pure ())
  refine (Driven.loop (driven_testOp (by decide) _) (takes_testOp _ _) hreset).bind fun _ => ?_
  exact (driven_writeReg (by decide) (by decide) _).bind fun _ =>
    (driven_writeReg (by decide) (by decide) _).bind fun _ =>
    (driven_writeOp (by decide) (by decide)).bind fun _ =>
    driven_writeOp (by decide) (by decide)

/-- `receiveFrame` is driven, whether or not a frame has come. -/
theorem driven_receiveFrame : Driven receiveFrame := by
  refine (driven_readRegByte _).bind fun count => Driven.ite ?_ (.pure 0)
  refine Driven.read_bind fun nextPacketPtr =>
    (driven_writeReg (by decide) (by decide) _).bind fun _ => (driven_readBuf 6).bind fun header =>
    (driven_readReg _).bind fun offset => ?_
  refine Driven.bind (.modify (fun _ => rfl) (fun _ => rfl) (fun _ => rfl) fun _ => rfl) fun _ =>
    Driven.bind (.modify (fun _ => rfl) (fun _ => rfl) (fun _ => rfl) fun _ => rfl) fun _ => ?_
  exact Driven.read_bind fun size => (driven_writeReg (by decide) (by decide) _).bind fun _ =>
    (driven_writeOp (by decide) (by decide)).bind fun _ => .pure _

/-- `isLinkUp` is driven. -/
theorem driven_isLinkUp : Driven isLinkUp :=
  (driven_readPhyByte _).bind fun _ => .pure _

/-- `powerDown` is driven. -/
theorem driven_powerDown : Driven powerDown :=
  (driven_writeOp (by decide) (by decide)).bind fun _ => (driven_wait _ _).bind fun _ =>
    (driven_wait _ _).bind fun _ => (driven_writeOp (by decide) (by decide)).bind fun _ =>
    driven_writeOp (by decide) (by decide)

/-- `powerUp` is driven. -/
theorem driven_powerUp : Driven powerUp :=
  (driven_writeOp (by decide) (by decide)).bind fun _ =>
    (Driven.loop ((driven_readRegByte _).bind fun _ => .pure _)
      ((takes_readRegByte _).bind fun _ => waits_pure _) (.pure ())).bind fun _ =>
    driven_writeOp (by decide) (by decide)

/-- Every operation is driven. -/
theorem driven_perform (operation : Operation) : Driven (perform operation) := by
  cases operation with
  | sendFrame len => exact driven_sendFrame len
  | receiveFrame => exact driven_receiveFrame.bind fun _ => .pure ()
  | read offset len => exact (driven_read offset len).bind fun _ => .pure ()
  | write offset data => exact (driven_write offset data).bind fun _ => .pure ()
  | copy src_addr dest_addr len => exact (driven_copy src_addr dest_addr len).bind fun _ => .pure ()
  | isLinkUp => exact driven_isLinkUp.bind fun _ => .pure ()
  | powerDown => exact driven_powerDown
  | powerUp => exact driven_powerUp

/-- Operations one after the other are driven. -/
theorem driven_performAll (operations : List Operation) : Driven (performAll operations) := by
  induction operations with
  | nil => exact .pure ()
  | cons operation operations ih => exact (driven_perform operation).bind fun _ => ih

/-! ### The constructor, and sessions -/

/-- The constructor is driven from the second register it writes. -/
theorem driven_setUp (macaddr : MACAddr) : Driven (setUp macaddr) := by
  have hreg := fun {address : UInt8} (hlow : address &&& ADDR_MASK ≠ ECON1)
    (hhigh : (address + 1) &&& ADDR_MASK ≠ ECON1) (data : UInt16) => driven_writeReg hlow hhigh data
  have hbyte := fun {address : UInt8} (hother : address &&& ADDR_MASK ≠ ECON1) (data : UInt8) =>
    driven_writeRegByte hother data
  refine (hreg (by decide) (by decide) _).bind fun _ => (hreg (by decide) (by decide) _).bind
    fun _ => (hreg (by decide) (by decide) _).bind fun _ => (hreg (by decide) (by decide) _).bind
    fun _ => (hbyte (by decide) _).bind fun _ => (hreg (by decide) (by decide) _).bind fun _ =>
    (hreg (by decide) (by decide) _).bind fun _ => (hbyte (by decide) _).bind fun _ => ?_
  -- MACON3 is in the bank of MACON2
  refine Driven.sameBank (by decide) _ (by decide) (by decide) ?_
  refine (hreg (by decide) (by decide) _).bind fun _ => (hbyte (by decide) _).bind fun _ =>
    (hreg (by decide) (by decide) _).bind fun _ => (hbyte (by decide) _).bind fun _ =>
    (hbyte (by decide) _).bind fun _ => (hbyte (by decide) _).bind fun _ =>
    (hbyte (by decide) _).bind fun _ => (hbyte (by decide) _).bind fun _ =>
    (hbyte (by decide) _).bind fun _ => (driven_writePhy _ _).bind fun _ => ?_
  refine (driven_SetBank _).bind fun _ => (driven_writeOp (by decide) (by decide)).bind
    fun _ => (driven_writeOp (by decide) (by decide)).bind fun _ =>
    (driven_readRegByte _).bind fun revision => ?_
  refine Driven.bind (.modify (fun _ => rfl) (fun _ => rfl) (fun _ => rfl) fun _ => rfl) fun _ => ?_
  exact .modify (fun s => by split <;> rfl) (fun s => by split <;> rfl)
    (fun s => by split <;> rfl) fun s => by split <;> rfl

/-- The wait for the clock in the constructor. -/
theorem waits_clock :
    Waits (loop (do
      let d ← readOp ENC28J60_READ_CTRL_REG ESTAT
      pure ((if d = 0 then 1 else 0) &&& ESTAT_CLKRDY != 0)) (pure ())) :=
  Waits.loop ((driven_readOp (by decide)).waits.bind fun _ => waits_pure _)
    ((takes_readOp _ _).bind fun _ => waits_pure _) (waits_pure ())

/-- The constructor gives up only if the chip gives no more answers. -/
theorem waits_new (macaddr : MACAddr) : Waits (new macaddr) := by
  refine Waits.bind (waits_modify fun _ => rfl) fun _ => (waits_writeOp _ _ _).bind fun _ =>
    waits_clock.bind fun _ => Waits.bind (waits_modify fun _ => rfl) fun _ => ?_
  exact ((waits_writeRegByte _ _).bind fun _ => waits_writeRegByte _ _).bind fun _ =>
    (driven_setUp macaddr).waits

/-- Waiting for the clock accesses a register that is in all banks. -/
theorem fresh_clock {s : Driver} (h : Fresh s) :
    Fresh ((loop (do
      let d ← readOp ENC28J60_READ_CTRL_REG ESTAT
      pure ((if d = 0 then 1 else 0) &&& ESTAT_CLKRDY != 0)) (pure ())).run s).2 := by
  have hissue : Proc.Within (Keeps Fresh) (Proc.modify (issue ENC28J60_READ_CTRL_REG ESTAT)) :=
    fun s h => ⟨h.bank, inBank_concat h.log fun _ hlt =>
      absurd hlt (by decide : ¬ ESTAT &&& ADDR_MASK < EIE)⟩
  have hanswer : Proc.Within (Keeps Fresh) answer := by
    intro s h
    unfold answer
    dsimp only
    cases s.answers with
    | nil => exact h
    | cons a answers => exact ⟨h.bank, h.log⟩
  have hcond := (hissue.bind fun _ => hanswer).bind fun d =>
    Proc.within_pure ((if d = 0 then 1 else 0) &&& ESTAT_CLKRDY != 0)
  exact within_loop hcond (Proc.within_pure ()) s h

/-- The first access behind the reset makes `Enc28j60Bank` tell the truth. -/
theorem truthful_of_fresh {s : Driver} (h : Fresh s) :
    ∃ t, (writeReg ERXST RXSTART_INIT).run s = (some (), t) ∧ Truthful t := by
  obtain ⟨s', hrun, hs', -, hbank⟩ := h.setBank ERXST (by decide)
  obtain ⟨t, hwrite, ht, -⟩ :=
    writeRegByte_run (by decide) RXSTART_INIT.toUInt8 hrun hs' hbank
  obtain ⟨t', hrun', ht', -, hbank'⟩ := ht.setBank (ERXST + 1)
  obtain ⟨u, hwrite', hu, -⟩ :=
    writeRegByte_run (by decide) (RXSTART_INIT >>> 8).toUInt8 hrun' ht' hbank'
  unfold writeReg
  rw [Proc.run_bind_of_some hwrite]
  exact ⟨u, hwrite', hu⟩

/-- Behind the constructor `Enc28j60Bank` tells the truth, whatever it was before. -/
theorem new_run (macaddr : MACAddr) {s : Driver} (hlog : s.log = []) :
    (∀ a ∈ ((new macaddr).run s).2.log, a.InBank) ∧
      (((new macaddr).run s).1 ≠ none → Truthful ((new macaddr).run s).2) := by
  unfold new
  rw [Proc.run_modify_bind]
  have hreset : ∃ s', (writeOp ENC28J60_SOFT_RESET 0 ENC28J60_SOFT_RESET).run
      { s with recvBuffer := ENC28J60Buffer.recvBuffer } = (some (), s') ∧ Fresh s' := by
    refine ⟨_, rfl, rfl, ?_⟩
    dsimp only [issue]
    rw [hlog]
    exact inBank_concat (fun a ha => absurd ha List.not_mem_nil) fun hcontrol =>
      absurd hcontrol (by decide : ¬ [ENC28J60_READ_CTRL_REG, ENC28J60_WRITE_CTRL_REG,
        ENC28J60_BIT_FIELD_SET, ENC28J60_BIT_FIELD_CLR].contains ENC28J60_SOFT_RESET)
  obtain ⟨s₁, hrun₁, hs₁⟩ := hreset
  rw [Proc.run_bind_of_some hrun₁]
  have hs₂ := fresh_clock hs₁
  generalize hclock : loop _ (pure ()) = clock at hs₂ ⊢
  rcases hrun₂ : clock.run s₁ with ⟨_ | u, s₂⟩
  · rw [Proc.run_bind_of_none hrun₂]
    rw [hrun₂] at hs₂
    exact ⟨hs₂.log, fun h => absurd rfl h⟩
  · rw [hrun₂] at hs₂
    rw [Proc.run_bind_of_some hrun₂, Proc.run_modify_bind]
    obtain ⟨t, hwrite, ht⟩ :=
      truthful_of_fresh (s := { s₂ with gNextPacketPtr := RXSTART_INIT }) ⟨hs₂.bank, hs₂.log⟩
    rw [Proc.run_bind_of_some hwrite]
    have hset := (driven_setUp macaddr).keeps t ht
    exact ⟨hset.log, fun _ => hset⟩

/-- A session gives up only where the chip gives no more answers. -/
theorem waits_session (macaddr : MACAddr) (operations : List Operation) :
    Waits (session macaddr operations) :=
  (waits_new macaddr).bind fun _ => (driven_performAll operations).waits

/-- In every session, from every state of the driver and the chip and for all answers of the chip,
a register in a bank is accessed while its bank is selected. -/
theorem inBank_session (macaddr : MACAddr) (operations : List Operation) (s : Driver) :
    ∀ a ∈ ((session macaddr operations).run { s with log := [] }).2.log, a.InBank := by
  obtain ⟨hlog, htruthful⟩ := new_run macaddr (s := { s with log := [] }) rfl
  unfold session
  rcases hrun : (new macaddr).run { s with log := [] } with ⟨_ | u, t⟩
  · rw [hrun] at hlog
    rw [Proc.run_bind_of_none hrun]
    exact hlog
  · rw [hrun] at htruthful
    rw [Proc.run_bind_of_some hrun]
    exact ((driven_performAll operations).keeps t (htruthful (by simp))).log

/-- A driver that is about to be constructed, and a chip that gives six answers. -/
def exampleDriver : Driver where
  Enc28j60Bank := 0x55
  gNextPacketPtr := 0
  revision := 0
  recvBuffer := ENC28J60Buffer.recvBuffer
  bank := 3
  answers := [1, 0, 6, 0, 0, 4]
  log := []

-- the chip answers everything it is asked in the session
example : ((session ⟨2, 0, 0, 0, 0, 1⟩ [.sendFrame 60, .isLinkUp]).run exampleDriver).1 =
    some () := by
  decide +kernel

/-- An access of that session: the number of a PHY register is written in bank 2. -/
theorem inBank_session_phyRead :
    (Access.mk ENC28J60_WRITE_CTRL_REG MIREGADR 2).InBank :=
  inBank_session ⟨2, 0, 0, 0, 0, 1⟩ [.sendFrame 60, .isLinkUp] exampleDriver _ (by decide +kernel)

end ENC28J60Registers

end AtmegaNet
