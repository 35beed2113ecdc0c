import AtmegaNet.UDPHandler

/-!
# The DNS handler

`DNSHandler` keeps a cache of names. An entry is looked up by a request that carries the number
of the entry, from 1, as its id; a response is matched to the entry by that id alone. A timer
repeats the requests that have not been answered.

The integers of the microcontroller have 16 bits, which is what the comparisons and the shifts
of `handleDatagram` rest on.
-/

open Procedure

namespace AtmegaNet

/-! ### Codes of `DNSHandler.h` -/

namespace DNSHandler

def NO_ERROR : UInt8 := 0x00
def SERVER_FAILURE : UInt8 := 0x02
def CLIENT_ERROR : UInt8 := 0x08
def NO_RESPONSE : UInt8 := 0x09
def PENDING : UInt8 := 0x00
def DONE : UInt8 := 0x10
def INIT : UInt8 := 0x20
def EXPIRED : UInt8 := 0x40

def DNS_HEADER_LENGTH : UInt16 := 12

end DNSHandler

/-! ### Data -/

/-- `dns_header` -/
structure DnsHeader where
  id : UInt16
  control : UInt16
  qdcount : UInt16
  ancount : UInt16
  nscount : UInt16
  arcount : UInt16
  deriving DecidableEq, Repr

namespace DnsHeader

/-- The reads of the header in `handleDatagram`. -/
def read (packet : View) : Option DnsHeader := do
  let id ← packet.readNet16 0
  let control ← packet.readNet16 2
  let qdcount ← packet.readNet16 4
  let ancount ← packet.readNet16 6
  let nscount ← packet.readNet16 8
  let arcount ← packet.readNet16 10
  pure ⟨id, control, qdcount, ancount, nscount, arcount⟩

/-- The response code, `(uint8_t)(control<<12>>12)`. -/
def responseCode (header : DnsHeader) : UInt8 := (header.control <<< 12 >>> 12).toUInt8

end DnsHeader

/-- A stack and the DNS handler above it, while it is running. -/
structure NameService where
  dns : DNSHandler
  stack : Stack

namespace NameService

/-- Change the entry `i` of the cache. -/
def modifyEntry (i : ℕ) (f : DnsLookup → DnsLookup) (s : NameService) : NameService :=
  { s with dns := { s.dns with cache := Function.update s.dns.cache i (f (s.dns.cache i)) } }

/-- The entry `i` of the cache. -/
def entry (s : NameService) (i : ℕ) : DnsLookup := s.dns.cache i

end NameService

namespace DNSHandler

/-- The constructor, on the entries `found` by `malloc`. What it writes through the names that
are not set yet is left out. -/
def new (dnsIP : IPAddr) (cacheCapacity : UInt8) (dnsIPBackup : Option IPAddr)
    (found : ℕ → DnsLookup) : DNSHandler where
  cacheCapacity := cacheCapacity
  cacheSize := 0
  cache i := { found i with status := INIT ||| NO_ERROR }
  dnsIP := dnsIP
  dnsIPBackup := dnsIPBackup.getD dnsIP
  timer := 0

/-! ### Requests -/

/-- The loop of `sendDNSRequest` over the characters of the name. Its variables are the offset
and the value of the length byte of the host being written, and the length of the request. -/
def writeHosts (udpBuffer : Buffer) :
    Bytes → UInt16 → UInt8 → UInt16 → Proc Memory (UInt16 × UInt8 × UInt16)
  | [], hostLengthOffset, hostLength, length => pure (hostLengthOffset, hostLength, length)
  | nextChar :: rest, hostLengthOffset, hostLength, length =>
      -- a dot ends a host
      if nextChar = 46 then do
        udpBuffer.write8 hostLengthOffset hostLength
        writeHosts udpBuffer rest (hostLengthOffset + 1 + hostLength.toUInt16) 0 (length + 1)
      else do
        udpBuffer.write8 (hostLengthOffset + 1 + hostLength.toUInt16) nextChar
        writeHosts udpBuffer rest hostLengthOffset (hostLength + 1) (length + 1)

/-- The part of `sendDNSRequest` that fills the buffer. Its result is the length of the
request. -/
def writeRequest (udpBuffer : Buffer) (domainName : Bytes) (id : UInt16) :
    Proc Memory UInt16 := do
  udpBuffer.writeNet16 0 id
  udpBuffer.writeNet16 2 0x0100
  udpBuffer.writeNet16 4 0x0001
  udpBuffer.writeNet16 6 0x0000
  udpBuffer.writeNet16 8 0x0000
  udpBuffer.writeNet16 10 0x0000
  let (hostLengthOffset, hostLength, length) ←
    writeHosts udpBuffer domainName DNS_HEADER_LENGTH 0 DNS_HEADER_LENGTH
  udpBuffer.write8 hostLengthOffset hostLength
  let hostLengthOffset := hostLengthOffset + 1 + hostLength.toUInt16
  udpBuffer.write8 hostLengthOffset 0
  udpBuffer.writeNet16 (hostLengthOffset + 1) 1
  udpBuffer.writeNet16 (hostLengthOffset + 1 + 2) 1
  pure (length + 2 + 4)

/-- `DNSHandler::sendDNSRequest`. Whether the datagram could be sent is not looked at. -/
def sendDNSRequest (domainName : Bytes) (id : UInt16) (dnsServer : IPAddr) :
    Proc Stack Unit := do
  let udpBuffer ← Proc.read Stack.udpPayload
  if domainName.length > 255 then Proc.fail
  else if udpBuffer.size < DNS_HEADER_LENGTH then Proc.fail
  else do
    let length ← Stack.onMem (writeRequest udpBuffer domainName id)
    Proc.attempt (UDPHandler.sendDatagram dnsServer 53 53 length)

/-- `DNSHandler::checkAndSetExpiration`, on the entry. -/
def expire (currentTime : UInt32) (e : DnsLookup) : DnsLookup :=
  if e.status = DONE ||| NO_ERROR ∧ currentTime - e.time > e.ttl * 1000 then
    { e with status := EXPIRED ||| NO_ERROR }
  else e

/-- `DNSHandler::checkAndSetExpiration` -/
def checkAndSetExpiration (i : ℕ) (s : NameService) : NameService :=
  s.modifyEntry i (expire s.stack.millis)

/-- What `resolve` does to have the requests repeated. -/
def ensureTimer (millisDelay : UInt16) (s : NameService) : NameService :=
  if s.dns.timer = 0 then
    let (timer, stack) := EtherControl.registerTimer .dns millisDelay s.stack
    ⟨{ s.dns with timer := timer }, stack⟩
  else s

/-- `resolve` looks an entry up again. When the request cannot be built, the entry stays as it
is: the statement that should set its status is a comparison. -/
def requery (domainName : Bytes) (i : ℕ) (s : NameService) : NameService :=
  let s := s.modifyEntry i fun e => { e with status := PENDING ||| NO_ERROR }
  match (sendDNSRequest domainName (UInt16.ofNat (i + 1)) s.dns.dnsIP).run s.stack with
  | (some _, stack) =>
      let s : NameService := { s with stack := stack }
      ensureTimer 1000 (s.modifyEntry i fun e => { e with time := s.stack.millis, attempts := 1 })
  | (none, stack) => { s with stack := stack }

/-- The first entry with a name. -/
def findName (domainName : Bytes) (dns : DNSHandler) : Option ℕ :=
  (List.range dns.cacheSize.toNat).find? fun i => domainName = (dns.cache i).domainName

/-- The part of `resolve` for a name that is in the cache at `i`. -/
def resolveCached (domainName : Bytes) (force : Bool) (i : ℕ) (s : NameService) :
    (Option IPAddr × UInt8) × NameService :=
  let s := checkAndSetExpiration i s
  let s := if force ∨ (s.entry i).status &&& 0xF0 = EXPIRED then requery domainName i s else s
  -- `status == DONE | NO_ERROR` compares first
  let ip := if (s.entry i).status = DONE then some (s.entry i).ipAddress else none
  ((ip, (s.entry i).status &&& 0x0F), s)

/-- The part of `resolve` for a name that is not in the cache, given whether `malloc` has room
for it. A name whose request cannot be built is freed, but its entry is counted. -/
def resolveNew (domainName : Bytes) (allocates : Bool) (s : NameService) :
    (Option IPAddr × UInt8) × NameService :=
  let i := s.dns.cacheSize.toNat
  if s.dns.cacheSize ≥ s.dns.cacheCapacity then ((none, CLIENT_ERROR), s)
  else if ¬ allocates then
    ((none, CLIENT_ERROR), s.modifyEntry i fun e => { e with status := DONE ||| CLIENT_ERROR })
  else
    let s := s.modifyEntry i fun e => { e with
      status := NO_ERROR ||| PENDING, domainName := domainName, attempts := 1, freed := false }
    match (sendDNSRequest domainName (UInt16.ofNat (i + 1)) s.dns.dnsIP).run s.stack with
    | (some _, stack) =>
        let s : NameService := { s with stack := stack }
        let s := ensureTimer 5000 (s.modifyEntry i fun e => { e with time := s.stack.millis })
        ((none, NO_ERROR ||| PENDING),
          { s with dns := { s.dns with cacheSize := s.dns.cacheSize + 1 } })
    | (none, stack) =>
        let s := s.modifyEntry i fun e => { e with freed := true }
        ((none, CLIENT_ERROR),
          ⟨{ s.dns with cacheSize := s.dns.cacheSize + 1 }, stack⟩)

/-- `DNSHandler::resolve`: the address and `*err`. -/
def resolve (domainName : Bytes) (force allocates : Bool) (s : NameService) :
    (Option IPAddr × UInt8) × NameService :=
  match findName domainName s.dns with
  | some i => resolveCached domainName force i s
  | none => resolveNew domainName allocates s

/-! ### Responses -/

/-- The loop over the labels of a name, from the length of the first: the offset behind the
name. `pointer` tells the lengths that are taken for pointers. The loop can only go on for
ever by going round the 16-bit offset, which more rounds than there are offsets decide. -/
def skipName (pointer : UInt8 → Bool) (packet : View) : ℕ → UInt16 → Option UInt16
  | 0, _ => none
  | rounds + 1, ptrOffset => do
      let size ← packet.read8 ptrOffset
      let ptrOffset := ptrOffset + 1
      if size = 0 then some ptrOffset
      else if pointer size then some (ptrOffset + 1)
      else skipName pointer packet rounds (ptrOffset + size.toUInt16)

/-- The questions are taken to have no pointers. -/
def noPointer (_ : UInt8) : Bool := false

/-- `size >> 6 == 3` -/
def isPointer (size : UInt8) : Bool := size >>> 6 == 3

/-- The loop of `handleDatagram` over the questions, with their types and classes. -/
def skipQuestions (packet : View) : ℕ → UInt16 → Option UInt16
  | 0, ptrOffset => some ptrOffset
  | n + 1, ptrOffset => do
      let ptrOffset ← skipName noPointer packet 65536 ptrOffset
      skipQuestions packet n (ptrOffset + 4)

/-- What is read from the packet, or the early return. -/
def fetch {β : Type} (x : Option β) : Proc DnsLookup β := Proc.query fun _ => x

/-- The four bytes of the address, each stored as it is read. -/
def readAddress (packet : View) (ptrOffset : UInt16) : Proc DnsLookup Unit := do
  let b0 ← fetch (packet.read8 ptrOffset)
  Proc.modify fun e => { e with ipAddress := { e.ipAddress with b0 := b0 } }
  let b1 ← fetch (packet.read8 (ptrOffset + 1))
  Proc.modify fun e => { e with ipAddress := { e.ipAddress with b1 := b1 } }
  let b2 ← fetch (packet.read8 (ptrOffset + 2))
  Proc.modify fun e => { e with ipAddress := { e.ipAddress with b2 := b2 } }
  let b3 ← fetch (packet.read8 (ptrOffset + 3))
  Proc.modify fun e => { e with ipAddress := { e.ipAddress with b3 := b3 } }

/-- The loop of `handleDatagram` over the answers: the first with four bytes of data ends it. -/
def readAnswers (packet : View) : ℕ → UInt16 → Proc DnsLookup Unit
  | 0, _ => pure ()
  | n + 1, ptrOffset => do
      let ptrOffset ← fetch (skipName isPointer packet 65536 ptrOffset)
      let ptrOffset := ptrOffset + 4
      let ttl ← fetch (packet.readNet32 ptrOffset)
      Proc.modify fun e => { e with ttl := ttl }
      let ptrOffset := ptrOffset + 4
      let rdlength ← fetch (packet.readNet16 ptrOffset)
      let ptrOffset := ptrOffset + 2
      if rdlength = 4 then readAddress packet ptrOffset
      else readAnswers packet n (ptrOffset + rdlength)

/-- The checks of `handleDatagram` before it changes anything: the entry a response is for,
and its header. The source port is not looked at. -/
def matchResponse (sourceIP : IPAddr) (packet : View) (dns : DNSHandler) :
    Option (ℕ × DnsHeader) := do
  guard ¬ packet.size < DNS_HEADER_LENGTH
  guard (sourceIP = dns.dnsIP ∨ sourceIP = dns.dnsIPBackup)
  let header ← DnsHeader.read packet
  -- a response, and not a truncated one
  guard (header.control >>> 15 = 1)
  guard (header.control <<< 6 >>> 15 ≠ 1)
  guard ¬ header.id - 1 ≥ dns.cacheSize.toUInt16
  let i := (header.id - 1).toNat
  -- `status & PENDING != PENDING` compares first
  guard ((dns.cache i).status &&& (if PENDING ≠ PENDING then 1 else 0) = 0)
  pure (i, header)

/-- The rest of `handleDatagram`, on the entry. -/
def receive (now : UInt32) (header : DnsHeader) (packet : View) : Proc DnsLookup Unit := do
  let status := header.responseCode
  Proc.modify fun e => { e with status := DONE ||| status }
  if status ≠ NO_ERROR then Proc.fail
  else do
    Proc.modify fun e => { e with time := now }
    if header.ancount = 0 then
      Proc.modify fun e => { e with status := DONE ||| SERVER_FAILURE }
    else do
      let ptrOffset ← fetch (skipQuestions packet header.qdcount.toNat DNS_HEADER_LENGTH)
      readAnswers packet header.ancount.toNat ptrOffset

/-- `DNSHandler::handleDatagram` -/
def handleDatagram (sourceIP : IPAddr) (packet : View) (s : NameService) : NameService :=
  match matchResponse sourceIP packet s.dns with
  | none => s
  | some (i, header) => s.modifyEntry i (receive s.stack.millis header packet).exec

/-! ### The timer -/

/-- What `handleTimer` does to one entry, and whether the entry needs the timer again. -/
def retry (currentTime : UInt32) (i : ℕ) (s : NameService) : Bool × NameService :=
  if (s.entry i).status = PENDING ||| NO_ERROR ∧ currentTime - (s.entry i).time > 1000 then
    if (s.entry i).attempts ≥ 5 then
      (false, s.modifyEntry i fun e => { e with status := DONE ||| NO_RESPONSE })
    else
      let s := s.modifyEntry i fun e => { e with
        attempts := e.attempts + 1, time := currentTime }
      let dnsServer := if (s.entry i).attempts % 2 = 0 then s.dns.dnsIPBackup else s.dns.dnsIP
      (true, { s with stack :=
        (sendDNSRequest (s.entry i).domainName (UInt16.ofNat (i + 1)) dnsServer).exec s.stack })
  else (false, s)

/-- The loop of `handleTimer` over the entries below `k`. -/
def retryEntries (currentTime : UInt32) (s : NameService) : ℕ → Bool × NameService
  | 0 => (false, s)
  | k + 1 =>
      let (needTimer, s) := retryEntries currentTime s k
      let (again, s) := retry currentTime k s
      (needTimer || again, s)

/-- `DNSHandler::handleTimer` -/
def handleTimer (s : NameService) : NameService :=
  let (needTimer, s) := retryEntries s.stack.millis s s.dns.cacheSize.toNat
  if needTimer then s
  else ⟨{ s.dns with timer := 0 }, EtherControl.unregisterTimer s.dns.timer s.stack⟩

/-- What `printDNSCache` does to the entries below `k`. -/
def printEntries (s : NameService) : ℕ → NameService
  | 0 => s
  | k + 1 => checkAndSetExpiration k (printEntries s k)

/-- `DNSHandler::printDNSCache`, of which the output is left out. -/
def printDNSCache (s : NameService) : NameService := printEntries s s.dns.cacheSize.toNat

end DNSHandler

/-! ### Runs -/

/-- A received datagram: its bytes, and the view of its buffer, which shows them. What the view
shows past its end, where an offset has gone round its 16 bits, depends on the buffer below. -/
structure Datagram where
  bytes : Bytes
  view : View
  short : bytes.length < 65536
  size_eq : view.size = Buffer.lengthOf bytes
  shows : view.Shows (fun i => bytes.getD i 0) bytes.length

/-- A datagram as a block of bytes. -/
def Datagram.ofBytes (bytes : Bytes) (h : bytes.length < 65536) : Datagram :=
  ⟨bytes, viewOf bytes, h, rfl, shows_viewOf h⟩

namespace DNSHandler

/-- What happens to a DNS handler. A name that has been freed may change. -/
inductive Event
  | resolve (domainName : Bytes) (force allocates : Bool)
  | datagram (sourceIP : IPAddr) (packet : Datagram)
  | tick
  | print
  | heap (i : ℕ) (domainName : Bytes)
  | elsewhere (stack : Stack)

/-- What a DNS handler makes of an event. Ticks come while its timer is registered. -/
def run : Event → NameService → NameService
  | .resolve domainName force allocates, s => (resolve domainName force allocates s).2
  | .datagram sourceIP packet, s => handleDatagram sourceIP packet.view s
  | .tick, s => if s.dns.timer = 0 then s else handleTimer s
  | .print, s => printDNSCache s
  | .heap i domainName, s =>
      if (s.entry i).freed then s.modifyEntry i fun e => { e with domainName := domainName }
      else s
  | .elsewhere stack, s => { s with stack := stack }

/-- A handler that has just been constructed. -/
def Constructed (s : NameService) : Prop :=
  ∃ dnsIP cacheCapacity dnsIPBackup found, s.dns = new dnsIP cacheCapacity dnsIPBackup found

end DNSHandler

/-! ### Entries -/

namespace NameService

variable {s : NameService} {f : DnsLookup → DnsLookup} {i j : ℕ}

@[simp] theorem stack_modifyEntry : (s.modifyEntry i f).stack = s.stack := rfl

@[simp] theorem cacheSize_modifyEntry : (s.modifyEntry i f).dns.cacheSize = s.dns.cacheSize := rfl

@[simp] theorem timer_modifyEntry : (s.modifyEntry i f).dns.timer = s.dns.timer := rfl

@[simp] theorem entry_modifyEntry_self : (s.modifyEntry i f).entry i = f (s.entry i) :=
  Function.update_self _ _ _

theorem entry_modifyEntry_ne (h : j ≠ i) : (s.modifyEntry i f).entry j = s.entry j :=
  Function.update_of_ne h _ _

/-- A change to an entry is a change to each entry or none. -/
theorem entry_modifyEntry {R : DnsLookup → DnsLookup → Prop} (hrefl : ∀ e, R e e)
    (h : R (s.entry i) (f (s.entry i))) (j : ℕ) : R (s.entry j) ((s.modifyEntry i f).entry j) := by
  by_cases hj : j = i
  · rw [hj, entry_modifyEntry_self]
    exact h
  · rw [entry_modifyEntry_ne hj]
    exact hrefl _

end NameService

end AtmegaNet
