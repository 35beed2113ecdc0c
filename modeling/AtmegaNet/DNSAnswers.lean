import AtmegaNet.DNSMessage

/-!
# Answers of a name server

A response without an error resolves the entry it is for: to the data and the time to live of the
first answer whose data has four bytes. The names in front of the answers may be written out, be
pointers, or end in one, so that an answer begins where its predecessor's lengths say.

## Main results

* `readAnswers_find`: what the loop over the answers stores.
* `handleDatagram_response`: what a response leaves in the cache.
-/

open Procedure

namespace AtmegaNet

theorem Lies.readNet32_word {packet : View} {p : UInt16} {d : UInt32} {b : Bytes}
    (h : Lies packet p (bytesOf32 (HTONL d) ++ b)) : packet.readNet32 p = some d := by
  rw [View.readNet32, View.read32, h.left.read_here (by simp [bytesOf32])]
  exact congrArg some ((congrArg NTOHL (word32_bytesOf32 _)).trans (NTOHL_HTONL d))

/-- Four bytes are those of an address. -/
theorem IPAddr.bytes_ofBytes {b : Bytes} (h : b.length = 4) : (IPAddr.ofBytes b).bytes = b := by
  match b, h with
  | [b₀, b₁, b₂, b₃], _ => rfl

namespace DNSHandler

/-! ### The format -/

/-- A resource record: name, type and class, time to live, and data. -/
structure Answer where
  name : Bytes
  fields : Bytes
  ttl : UInt32
  rdata : Bytes

namespace Answer

/-- The record as it lies in a packet. -/
def bytes (a : Answer) : Bytes :=
  a.name ++ (a.fields ++ (bytesOf32 (HTONL a.ttl) ++
    (bytesOf16 (HTONS (Buffer.lengthOf a.rdata)) ++ a.rdata)))

structure WellFormed (a : Answer) : Prop where
  name : Name isPointer a.name
  fields : a.fields.length = 4
  rdata : a.rdata.length < 65536

/-- A record with four bytes of data is taken for an address. -/
def isAddress (a : Answer) : Bool := a.rdata.length == 4

end Answer

/-- A response: header, question section and answers, and what follows them. -/
structure Response where
  header : DnsHeader
  questions : Bytes
  answers : List Answer
  rest : Bytes

namespace Response

/-- The response as it lies in a packet. -/
def bytes (r : Response) : Bytes :=
  r.header.bytes ++ (r.questions ++ (r.answers.flatMap Answer.bytes ++ r.rest))

structure WellFormed (r : Response) : Prop where
  questions : Questions r.header.qdcount.toNat r.questions
  count : r.answers.length = r.header.ancount.toNat
  answers : ∀ a ∈ r.answers, a.WellFormed
  /-- The bit QR: this is a response. -/
  isResponse : r.header.control.toNat.testBit 15 = true
  /-- The bit TC: it has not been truncated. -/
  complete : r.header.control.toNat.testBit 9 = false

/-- The four bits of RCODE. -/
def rcode (r : Response) : ℕ := r.header.control.toNat % 16

end Response

/-! ### The bits of the header -/

variable (header : DnsHeader)

theorem control_isResponse (h : header.control.toNat.testBit 15 = true) :
    header.control >>> 15 = 1 := by
  have hlt := header.control.toNat_lt
  have hshift : (header.control >>> 15).toNat = header.control.toNat / 32768 := by
    simp [UInt16.toNat_shiftRight, Nat.shiftRight_eq_div_pow]
  rw [Nat.testBit_eq_decide_div_mod_eq, decide_eq_true_iff] at h
  rw [← UInt16.toNat_inj, hshift]
  simp only [UInt16.toNat_one]
  omega

theorem control_complete (h : header.control.toNat.testBit 9 = false) :
    header.control <<< 6 >>> 15 ≠ 1 := by
  have hlt := header.control.toNat_lt
  have hshift : (header.control <<< 6 >>> 15).toNat =
      header.control.toNat * 64 % 65536 / 32768 := by
    simp [Nat.shiftLeft_eq, Nat.shiftRight_eq_div_pow]
  rw [Nat.testBit_eq_decide_div_mod_eq, decide_eq_false_iff_not] at h
  intro hone
  have hnat := congrArg UInt16.toNat hone
  rw [hshift] at hnat
  simp only [UInt16.toNat_one] at hnat
  omega

theorem responseCode_eq (h : header.control.toNat % 16 = 0) :
    header.responseCode = NO_ERROR := by
  have hshift : (header.control <<< 12 >>> 12).toNat =
      header.control.toNat * 4096 % 65536 / 4096 := by
    simp [Nat.shiftLeft_eq, Nat.shiftRight_eq_div_pow]
  rw [DnsHeader.responseCode, ← UInt8.toNat_inj, UInt16.toNat_toUInt8, hshift]
  have hzero : NO_ERROR.toNat = 0 := rfl
  omega

/-! ### The answers -/

variable {packet : View}

/-- An answer is read up to its data. -/
theorem readAnswers_answer {a : Answer} (ha : a.WellFormed) {p : UInt16} {rest : Bytes}
    (h : Lies packet p (a.bytes ++ rest)) (n : ℕ) (e : DnsLookup) :
    ∃ q, Lies packet q (a.rdata ++ rest) ∧ (readAnswers packet (n + 1) p).run e =
      (if a.isAddress then readAddress packet q
        else readAnswers packet n (q + Buffer.lengthOf a.rdata)).run { e with ttl := a.ttl } := by
  have hshort := h.short
  simp only [Answer.bytes, List.append_assoc] at h
  have h4 := h.right.skip (k := 4) ha.fields
  have h8 := h4.skip (k := 4) rfl
  have h10 := h8.skip (k := 2) rfl
  have hlen : a.name.length ≤ 65536 := by
    simp only [Answer.bytes, List.length_append] at hshort
    omega
  have hlength : Buffer.lengthOf a.rdata = 4 ↔ a.isAddress = true := by
    have hnat : (Buffer.lengthOf a.rdata).toNat = a.rdata.length := Buffer.toNat_lengthOf ha.rdata
    rw [← UInt16.toNat_inj, hnat, Answer.isAddress, beq_iff_eq]
    rfl
  refine ⟨_, h10, ?_⟩
  rw [readAnswers, run_fetch_bind (skipName_of_lies rfl ha.name hlen h)]
  dsimp only
  rw [run_fetch_bind h4.readNet32_word, Proc.run_modify_bind, run_fetch_bind h8.readNet16]
  by_cases haddress : a.isAddress = true
  · rw [if_pos haddress, if_pos (hlength.mpr haddress)]
  · rw [if_neg haddress, if_neg (mt hlength.mp haddress)]

/-- The first answer with four bytes of data is stored, with its time to live. -/
theorem readAnswers_find {answers : List Answer} (hwf : ∀ a ∈ answers, a.WellFormed) {a : Answer}
    (ha : answers.find? Answer.isAddress = some a) {p : UInt16} {rest : Bytes}
    (h : Lies packet p (answers.flatMap Answer.bytes ++ rest)) (e : DnsLookup) :
    (readAnswers packet answers.length p).run e =
      (some (), { e with ttl := a.ttl, ipAddress := IPAddr.ofBytes a.rdata }) := by
  induction answers generalizing p e with
  | nil => cases ha
  | cons b answers ih =>
      rw [List.flatMap_cons, List.append_assoc] at h
      obtain ⟨q, hq, hrun⟩ := readAnswers_answer (hwf b (by simp)) h answers.length e
      rw [List.length_cons, hrun]
      by_cases haddress : b.isAddress = true
      · rw [List.find?_cons_of_pos haddress] at ha
        obtain rfl := Option.some.inj ha
        have hfour : b.rdata.length = 4 := by simpa [Answer.isAddress] using haddress
        rw [← IPAddr.bytes_ofBytes hfour] at hq
        rw [if_pos haddress, readAddress_of_lies hq]
      · rw [List.find?_cons_of_neg haddress] at ha
        rw [if_neg haddress]
        exact ih (fun a ha => hwf a (by simp [ha])) ha hq.right _

/-! ### The response -/

/-- A response without an error is stored. -/
theorem receive_response {r : Response} (hr : r.WellFormed) (hcode : r.rcode = 0) {a : Answer}
    (ha : r.answers.find? Answer.isAddress = some a) (h : Lies packet 0 r.bytes) (now : UInt32)
    (e : DnsLookup) :
    (receive now r.header packet).exec e = { e with
      status := DONE ||| NO_ERROR, time := now, ttl := a.ttl,
      ipAddress := IPAddr.ofBytes a.rdata } := by
  have hquestions : Lies packet DNS_HEADER_LENGTH
      (r.questions ++ (r.answers.flatMap Answer.bytes ++ r.rest)) := h.skip (k := 12) rfl
  have hcount : r.header.ancount ≠ 0 := by
    intro hzero
    have hnil : r.answers = [] := List.eq_nil_of_length_eq_zero (hr.count.trans (by rw [hzero]; rfl))
    rw [hnil] at ha
    cases ha
  have hread := readAnswers_find hr.answers ha hquestions.right
    { e with status := DONE ||| NO_ERROR, time := now }
  unfold receive
  rw [Proc.exec, responseCode_eq _ hcode, Proc.run_modify_bind, if_neg (by decide),
    Proc.run_modify_bind, if_neg hcount,
    run_fetch_bind (skipQuestions_of_lies hr.questions hquestions), ← hr.count, hread]

/-- A check that succeeds. -/
theorem guard_bind {β : Type} {P : Prop} [Decidable P] (h : P) (k : Unit → Option β) :
    (guard P >>= k) = k () := by
  simp [guard, h]

/-- A response from a server of the handler is matched to the entry of its id. -/
theorem matchResponse_of_lies {r : Response} (hr : r.WellFormed) {sourceIP : IPAddr}
    {dns : DNSHandler} (hserver : sourceIP = dns.dnsIP ∨ sourceIP = dns.dnsIPBackup) {i : ℕ}
    (hi : i < dns.cacheSize.toNat) (hid : r.header.id = UInt16.ofNat (i + 1))
    (hsize : ¬ packet.size < DNS_HEADER_LENGTH) (h : Lies packet 0 r.bytes) :
    matchResponse sourceIP packet dns = some (i, r.header) := by
  have h8 := dns.cacheSize.toNat_lt
  have hpred : (r.header.id - 1).toNat = i := by
    have hadd : r.header.id = UInt16.ofNat i + 1 := by
      rw [hid, UInt16.ofNat_add]
      rfl
    rw [hadd, UInt16.add_sub_cancel]
    simp
    omega
  have hinside : ¬ r.header.id - 1 ≥ dns.cacheSize.toUInt16 := by
    rw [ge_iff_le, UInt16.le_iff_toNat_le, hpred, UInt8.toNat_toUInt16]
    omega
  have hstatus : (dns.cache (r.header.id - 1).toNat).status &&&
      (if PENDING ≠ PENDING then 1 else 0) = 0 := UInt8.and_zero
  unfold matchResponse
  rw [guard_bind hsize, guard_bind hserver, DnsHeader.read_of_lies h]
  simp only [Option.bind_eq_bind, Option.bind_some]
  exact (guard_bind (control_isResponse _ hr.isResponse) _).trans
    ((guard_bind (control_complete _ hr.complete) _).trans
      ((guard_bind hinside _).trans ((guard_bind hstatus _).trans (by rw [hpred]; rfl))))

/-- A complete response without an error, from a server of the handler and with the id of an
entry, resolves the entry to its first answer with four bytes of data. -/
theorem handleDatagram_response {r : Response} (hr : r.WellFormed) (hcode : r.rcode = 0)
    {a : Answer} (ha : r.answers.find? Answer.isAddress = some a) {d : Datagram}
    (hd : d.bytes = r.bytes) {s : NameService} {sourceIP : IPAddr}
    (hserver : sourceIP = s.dns.dnsIP ∨ sourceIP = s.dns.dnsIPBackup) {i : ℕ}
    (hi : i < s.dns.cacheSize.toNat) (hid : r.header.id = UInt16.ofNat (i + 1)) :
    let s' := handleDatagram sourceIP d.view s
    (s'.entry i).status = DONE ||| NO_ERROR ∧ (s'.entry i).ipAddress.bytes = a.rdata ∧
      (s'.entry i).ttl = a.ttl ∧ ∀ j, j ≠ i → s'.entry j = s.entry j := by
  intro s'
  have hlies := d.lies
  rw [hd] at hlies
  have hsize : ¬ d.view.size < DNS_HEADER_LENGTH := by
    have hlength := congrArg List.length hd
    have hshort := d.short
    rw [d.size_eq, UInt16.lt_iff_toNat_lt, Buffer.toNat_lengthOf hshort, Nat.not_lt, hlength,
      Response.bytes, List.length_append, DnsHeader.length_bytes]
    exact Nat.le_add_right 12 _
  have hs' : s' = s.modifyEntry i (receive s.stack.millis r.header d.view).exec := by
    have hmatch := matchResponse_of_lies hr hserver hi hid hsize hlies
    change handleDatagram sourceIP d.view s = _
    rw [handleDatagram, hmatch]
  have hentry := NameService.entry_modifyEntry_self (s := s) (i := i)
    (f := (receive s.stack.millis r.header d.view).exec)
  rw [receive_response hr hcode ha hlies, ← hs'] at hentry
  have hfour : a.rdata.length = 4 := by
    simpa [Answer.isAddress] using List.find?_some ha
  refine ⟨congrArg DnsLookup.status hentry, ?_, congrArg DnsLookup.ttl hentry, fun j hj => ?_⟩
  · rw [hentry]
    exact IPAddr.bytes_ofBytes hfour
  · rw [hs']
    exact NameService.entry_modifyEntry_ne hj

/-- The answer to a request for "a": an alias, "b", and its address. -/
def exampleAlias : Response where
  header := ⟨1, 0x8180, 1, 2, 0, 0⟩
  questions := [1, 97, 0] ++ ([0, 1, 0, 1] ++ [])
  answers := [⟨[192, 12], [0, 5, 0, 1], 60, [1, 98, 0]⟩,
    ⟨[1, 98] ++ [192, 14], [0, 1, 0, 1], 300, [10, 0, 0, 7]⟩]
  rest := []

theorem wellFormed_exampleAlias : exampleAlias.WellFormed where
  questions := .question (@Name.label _ 1 [97] _ (by decide) (by decide) rfl .root) rfl .none
  count := rfl
  answers := by
    intro a ha
    simp only [exampleAlias, List.mem_cons, List.not_mem_nil, or_false] at ha
    obtain rfl | rfl := ha
    · exact ⟨.pointer (by decide), rfl, by decide⟩
    · exact ⟨@Name.label _ 1 [98] _ (by decide) (by decide) rfl (.pointer (by decide)), rfl,
        by decide⟩
  isResponse := by decide
  complete := by decide

/-- "a" is asked for, and the entry gets the address behind the alias. -/
theorem handleDatagram_alias :
    let s := run (.resolve [97] false true) exampleService
    let d := Datagram.ofBytes exampleAlias.bytes (by decide)
    ((handleDatagram ⟨10, 0, 0, 2⟩ d.view s).entry 0).ipAddress.bytes = [10, 0, 0, 7] ∧
      ((handleDatagram ⟨10, 0, 0, 2⟩ d.view s).entry 0).ttl = 300 := by
  intro s d
  have hserver : (⟨10, 0, 0, 2⟩ : IPAddr) = s.dns.dnsIP ∨ ⟨10, 0, 0, 2⟩ = s.dns.dnsIPBackup :=
    .inl (by decide +kernel)
  obtain ⟨-, hip, httl, -⟩ := handleDatagram_response wellFormed_exampleAlias rfl
    (a := ⟨[1, 98] ++ [192, 14], [0, 1, 0, 1], 300, [10, 0, 0, 7]⟩) rfl (d := d) rfl hserver
    (i := 0) (by decide +kernel) rfl
  exact ⟨hip, httl⟩

end DNSHandler

end AtmegaNet
