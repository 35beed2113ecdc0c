import AtmegaNet.DNSEntries
import AtmegaNet.Lib.Runs

/-!
# Responses of a name server

The format of a response, by its parts, and what `handleDatagram` makes of one. A response is
parsed by offsets into the packet; `Lies` says which bytes lie at an offset, and each part of
the format has a lemma on the function that skips or reads it.

## Main results

* `receive_of_carries`: from a response that carries an address the entry gets that address.
* `reaches_provenance`: if every accepted response without an error carries an address, what
  `resolve` returns is the address that the last one for its entry carried.
-/

open Procedure Runs

namespace AtmegaNet

/-! ### Bytes at an offset -/

/-- The bytes `b` lie in the packet from the offset `p` on. -/
structure Lies (packet : View) (p : UInt16) (b : Bytes) : Prop where
  short : p.toNat + b.length < 65536
  read : ∀ i l : UInt16, i.toNat + l.toNat ≤ b.length →
    packet.read (p + i) l = some ((b.drop i.toNat).take l.toNat)

namespace Lies

variable {packet : View} {p : UInt16} {a b : Bytes}

/-- The first part lies where the whole lies. -/
theorem left (h : Lies packet p (a ++ b)) : Lies packet p a := by
  have hshort := h.short
  rw [List.length_append] at hshort
  refine ⟨by omega, fun i l hil => ?_⟩
  rw [h.read i l (by rw [List.length_append]; omega), List.drop_append_of_le_length (by omega),
    List.take_append_of_le_length (by rw [List.length_drop]; omega)]

/-- The second part lies behind the first. -/
theorem right (h : Lies packet p (a ++ b)) : Lies packet (p + UInt16.ofNat a.length) b := by
  have hshort := h.short
  rw [List.length_append] at hshort
  have hlength : (UInt16.ofNat a.length).toNat = a.length :=
    UInt16.toNat_ofNat_of_lt' (by simp [UInt16.size]; omega)
  refine ⟨?_, fun i l hil => ?_⟩
  · rw [Buffer.toNat_add_ofNat (by omega)]
    omega
  · have hi : (UInt16.ofNat a.length + i).toNat = a.length + i.toNat := by
      rw [UInt16.toNat_add, hlength]
      exact Nat.mod_eq_of_lt (by omega)
    have hread := h.read (UInt16.ofNat a.length + i) l (by rw [hi, List.length_append]; omega)
    rw [hi, ← List.drop_drop, List.drop_left] at hread
    rw [UInt16.add_assoc]
    exact hread

/-- The second part, at the position reached by the count of bytes. -/
theorem skip {k : UInt16} (h : Lies packet p (a ++ b)) (hk : a.length = k.toNat) :
    Lies packet (p + k) b := by
  have hright := h.right
  rwa [hk, UInt16.ofNat_toNat] at hright

/-- What lies there is read there. -/
theorem read_here {l : UInt16} (h : Lies packet p b) (hl : l.toNat ≤ b.length) :
    packet.read p l = some (b.take l.toNat) := by
  have hread := h.read 0 l (by simpa using hl)
  rwa [UInt16.add_zero] at hread

/-- One byte is read. -/
theorem read8 {x : UInt8} (h : Lies packet p (x :: b)) : packet.read8 p = some x := by
  rw [View.read8, h.read_here (by simp)]
  rfl

/-- A field of two bytes is read. -/
theorem readNet16 {d : UInt16} (h : Lies packet p (bytesOf16 (HTONS d) ++ b)) :
    packet.readNet16 p = some d := by
  rw [View.readNet16, View.read16, h.left.read_here (by simp [bytesOf16])]
  exact congrArg some ((congrArg NTOHS (word16_bytesOf16 _)).trans (NTOHS_HTONS d))

/-- A field of four bytes is read, whatever it holds. -/
theorem readNet32 (h : Lies packet p (a ++ b)) (ha : a.length = 4) :
    ∃ d, packet.readNet32 p = some d := by
  rw [View.readNet32, View.read32, h.left.read_here (by simp [ha])]
  exact ⟨_, rfl⟩

end Lies

/-- The bytes of a datagram lie at the start of its view. -/
theorem Datagram.lies (d : Datagram) : Lies d.view 0 d.bytes := by
  have hshort := d.short
  refine ⟨by simpa using hshort, fun i l hil => ?_⟩
  rw [UInt16.zero_add, d.shows i l hil]
  refine congrArg some (List.ext_getElem (by simp; omega) fun j hj _ => ?_)
  have hij : i.toNat + j < d.bytes.length := by simp at hj; omega
  simp [List.getD_eq_getElem?_getD, hij]

/-! ### The format -/

namespace DnsHeader

/-- The header as it lies in a packet. -/
def bytes (header : DnsHeader) : Bytes :=
  bytesOf16 (HTONS header.id) ++ (bytesOf16 (HTONS header.control) ++
    (bytesOf16 (HTONS header.qdcount) ++ (bytesOf16 (HTONS header.ancount) ++
      (bytesOf16 (HTONS header.nscount) ++ bytesOf16 (HTONS header.arcount)))))

/-- The header is twelve bytes. -/
@[simp] theorem length_bytes (header : DnsHeader) : header.bytes.length = 12 := rfl

/-- A header is read back. -/
theorem read_of_lies {packet : View} {header : DnsHeader} {rest : Bytes}
    (h : Lies packet 0 (header.bytes ++ rest)) : read packet = some header := by
  have h0 := h.left
  have h2 := h0.right
  have h4 := h2.right
  have h6 := h4.right
  have h8 := h6.right
  have h10 := h8.right
  rw [← List.append_nil (bytesOf16 (HTONS header.arcount))] at h10
  unfold read
  have e0 : packet.readNet16 0 = some header.id := h0.readNet16
  have e2 : packet.readNet16 2 = some header.control := h2.readNet16
  have e4 : packet.readNet16 4 = some header.qdcount := h4.readNet16
  have e6 : packet.readNet16 6 = some header.ancount := h6.readNet16
  have e8 : packet.readNet16 8 = some header.nscount := h8.readNet16
  have e10 : packet.readNet16 10 = some header.arcount := h10.readNet16
  rw [e0, e2, e4, e6, e8, e10]
  rfl

end DnsHeader

namespace DNSHandler

/-- A domain name as the parser reads it: labels behind their lengths, which are not 0 and no first
byte of a pointer, ended by an empty one or by a pointer. -/
inductive Name (pointer : UInt8 → Bool) : Bytes → Prop
  | root : Name pointer [0]
  | pointer {hi lo : UInt8} : pointer hi → Name pointer [hi, lo]
  | label {n : UInt8} {host rest : Bytes} : 0 < n → pointer n = false → host.length = n.toNat →
      Name pointer rest → Name pointer (n :: host ++ rest)

/-- The question section: names without pointers, each with a type and a class. -/
inductive Questions : ℕ → Bytes → Prop
  | none : Questions 0 []
  | question {n : ℕ} {name fields rest : Bytes} : Name noPointer name → fields.length = 4 →
      Questions n rest → Questions (n + 1) (name ++ (fields ++ rest))

/-- A complete resource record: name, type and class, time to live, length and data. -/
inductive Record (rdata : Bytes) : Bytes → Prop
  | mk {name fields ttl : Bytes} : Name isPointer name → fields.length = 4 → ttl.length = 4 →
      rdata.length < 65536 → Record rdata
        (name ++ (fields ++ (ttl ++ (bytesOf16 (HTONS (Buffer.lengthOf rdata)) ++ rdata))))

/-- An answer section of `n` records, of which the first with four bytes of data is complete
and has the address `ip`, and so are those before it. -/
inductive FirstAddress (ip : IPAddr) : ℕ → Bytes → Prop
  | here {n : ℕ} {record rest : Bytes} : Record ip.bytes record →
      FirstAddress ip (n + 1) (record ++ rest)
  | later {n : ℕ} {rdata record rest : Bytes} : Record rdata record → rdata.length ≠ 4 →
      FirstAddress ip n rest → FirstAddress ip (n + 1) (record ++ rest)

/-- A response to the request `id` that has a complete answer with the address `ip`. -/
def Carries (id : UInt16) (ip : IPAddr) (d : Bytes) : Prop :=
  ∃ (header : DnsHeader) (questions answers : Bytes),
    d = header.bytes ++ (questions ++ answers) ∧ header.id = id ∧
      Questions header.qdcount.toNat questions ∧ FirstAddress ip header.ancount.toNat answers

/-- No name is empty. -/
theorem Name.length_pos {pointer : UInt8 → Bool} {name : Bytes} (h : Name pointer name) :
    0 < name.length := by
  cases h with
  | root => simp
  | pointer => simp
  | label => simp

/-- A record is a name, ten bytes of fields, and its data. -/
theorem Record.length {rdata record : Bytes} (h : Record rdata record) :
    11 + rdata.length ≤ record.length := by
  obtain @⟨name, fields, ttl, hname, hfields, httl, -⟩ := h
  have hpos := hname.length_pos
  simp only [List.length_append, hfields, httl, length_bytesOf16]
  omega

/-- Answers with an address have at least one record. -/
theorem FirstAddress.length {ip : IPAddr} {n : ℕ} {answers : Bytes}
    (h : FirstAddress ip n answers) : 11 ≤ answers.length := by
  cases h with
  | here hrecord =>
      have hlength := hrecord.length
      rw [List.length_append]
      omega
  | later hrecord =>
      have hlength := hrecord.length
      rw [List.length_append]
      omega

/-- A response that carries an address is not short. -/
theorem Carries.length {id : UInt16} {ip : IPAddr} {d : Bytes} (h : Carries id ip d) :
    23 ≤ d.length := by
  obtain ⟨header, questions, answers, rfl, -, -, ha⟩ := h
  have hanswers := ha.length
  simp only [List.length_append, DnsHeader.length_bytes]
  omega

/-! ### Parsing -/

variable {packet : View}

/-- A name is skipped, given enough rounds and that its end is no pointer. -/
theorem skipName_of_lies {pointer : UInt8 → Bool} (hroot : pointer 0 = false) {name rest : Bytes}
    (hname : Name pointer name) {p : UInt16} {rounds : ℕ} (hrounds : name.length ≤ rounds)
    (h : Lies packet p (name ++ rest)) :
    skipName pointer packet rounds p = some (p + UInt16.ofNat name.length) := by
  induction hname generalizing p rounds with
  | root =>
      obtain ⟨rounds, rfl⟩ : ∃ k, rounds = k + 1 := ⟨rounds - 1, by simp at hrounds; omega⟩
      rw [skipName, h.read8]
      rfl
  | @pointer hi lo hhi =>
      obtain ⟨rounds, rfl⟩ : ∃ k, rounds = k + 1 := ⟨rounds - 1, by simp at hrounds; omega⟩
      have hnonzero : hi ≠ 0 := by
        rintro rfl
        rw [hroot] at hhi
        exact Bool.false_ne_true hhi
      rw [skipName, h.read8]
      simp only [Option.bind_eq_bind, Option.bind_some, if_neg hnonzero, if_pos hhi]
      rw [UInt16.add_assoc]
      rfl
  | @label n host tail hpos hlabel hlength _ ih =>
      obtain ⟨rounds, rfl⟩ : ∃ k, rounds = k + 1 := ⟨rounds - 1, by simp at hrounds; omega⟩
      have hnonzero : n ≠ 0 := by
        rintro rfl
        exact absurd hpos (by decide)
      have hsize : UInt16.ofNat (n :: host).length = 1 + n.toUInt16 := by
        rw [List.length_cons, hlength, Nat.add_comm, UInt16.ofNat_add, UInt16.ofNat_uInt8ToNat]
        rfl
      rw [List.append_assoc] at h
      have htail := h.right
      rw [hsize] at htail
      have hlen : tail.length ≤ rounds := by
        simp only [List.length_append, List.length_cons] at hrounds
        omega
      rw [skipName, (show Lies packet p (n :: (host ++ (tail ++ rest))) from h).read8]
      simp only [Option.bind_eq_bind, Option.bind_some, if_neg hnonzero, hlabel,
        Bool.false_eq_true, if_false]
      rw [UInt16.add_assoc, ih hlen htail, List.length_append, UInt16.ofNat_add, hsize,
        UInt16.add_assoc]

/-- The questions are skipped. -/
theorem skipQuestions_of_lies {n : ℕ} {questions : Bytes} (hq : Questions n questions)
    {rest : Bytes} {p : UInt16} (h : Lies packet p (questions ++ rest)) :
    skipQuestions packet n p = some (p + UInt16.ofNat questions.length) := by
  induction hq generalizing p with
  | none => rw [skipQuestions, List.length_nil]; simp
  | @question n name fields tail hname hfields _ ih =>
      have hshort := h.short
      simp only [List.append_assoc] at h
      have htail := h.right.skip (k := 4) hfields
      have hlen : name.length ≤ 65536 := by
        simp only [List.length_append] at hshort
        omega
      rw [skipQuestions, skipName_of_lies rfl hname hlen h]
      simp only [Option.bind_eq_bind, Option.bind_some]
      rw [ih htail]
      simp only [List.length_append, hfields, UInt16.ofNat_add, UInt16.add_assoc]
      rfl

/-- A read that succeeds hands its value on. -/
theorem run_fetch_bind {β γ : Type} {x : Option β} {a : β} (h : x = some a)
    (k : β → Proc DnsLookup γ) (e : DnsLookup) : (fetch x >>= k).run e = (k a).run e :=
  Proc.run_bind_of_some (congrArg (fun o => (o, e)) h)

/-- The address is stored. -/
theorem readAddress_of_lies {ip : IPAddr} {rest : Bytes} {p : UInt16}
    (h : Lies packet p (ip.bytes ++ rest)) (e : DnsLookup) :
    (readAddress packet p).run e = (some (), { e with ipAddress := ip }) := by
  have h0 : Lies packet p (ip.b0 :: [ip.b1, ip.b2, ip.b3] ++ rest) := h
  have h1 : Lies packet (p + 1) (ip.b1 :: [ip.b2, ip.b3] ++ rest) :=
    (show Lies packet p ([ip.b0] ++ _) from h).skip rfl
  have h2 : Lies packet (p + 2) (ip.b2 :: [ip.b3] ++ rest) :=
    (show Lies packet p ([ip.b0, ip.b1] ++ _) from h).skip rfl
  have h3 : Lies packet (p + 3) (ip.b3 :: rest) :=
    (show Lies packet p ([ip.b0, ip.b1, ip.b2] ++ _) from h).skip rfl
  unfold readAddress
  rw [run_fetch_bind h0.read8, Proc.run_modify_bind, run_fetch_bind h1.read8,
    Proc.run_modify_bind, run_fetch_bind h2.read8, Proc.run_modify_bind, run_fetch_bind h3.read8]
  rfl

/-- A complete record is read up to its data. -/
theorem readAnswers_record {rdata record rest : Bytes} (hrecord : Record rdata record)
    {p : UInt16} (h : Lies packet p (record ++ rest)) (n : ℕ) (e : DnsLookup) :
    ∃ ttl q, Lies packet q (rdata ++ rest) ∧ (readAnswers packet (n + 1) p).run e =
      (if Buffer.lengthOf rdata = 4 then readAddress packet q
        else readAnswers packet n (q + Buffer.lengthOf rdata)).run { e with ttl := ttl } := by
  obtain @⟨name, fields, ttl, hname, hfields, httl, -⟩ := hrecord
  have hshort := h.short
  simp only [List.append_assoc] at h
  have h4 := h.right.skip (k := 4) hfields
  have h8 := h4.skip (k := 4) httl
  have h10 := h8.skip (k := 2) rfl
  have hlen : name.length ≤ 65536 := by
    simp only [List.length_append] at hshort
    omega
  obtain ⟨time, htime⟩ := h4.readNet32 httl
  refine ⟨time, _, h10, ?_⟩
  rw [readAnswers, run_fetch_bind (skipName_of_lies rfl hname hlen h)]
  dsimp only
  rw [run_fetch_bind htime, Proc.run_modify_bind, run_fetch_bind h8.readNet16]

/-- The first address is stored. -/
theorem readAnswers_of_lies {ip : IPAddr} {n : ℕ} {answers : Bytes}
    (ha : FirstAddress ip n answers) {rest : Bytes} {p : UInt16}
    (h : Lies packet p (answers ++ rest)) (e : DnsLookup) :
    ∃ ttl, (readAnswers packet n p).run e =
      (some (), { e with ttl := ttl, ipAddress := ip }) := by
  induction ha generalizing p e with
  | @here n record tail hrecord =>
      rw [List.append_assoc] at h
      obtain ⟨ttl, q, hq, hrun⟩ := readAnswers_record hrecord h n e
      refine ⟨ttl, ?_⟩
      rw [hrun, if_pos (show Buffer.lengthOf ip.bytes = 4 from rfl), readAddress_of_lies hq]
  | @later n rdata record tail hrecord hne _ ih =>
      rw [List.append_assoc] at h
      obtain ⟨ttl, q, hq, hrun⟩ := readAnswers_record hrecord h n e
      have hshort := hq.short
      rw [List.length_append] at hshort
      have hlength : (Buffer.lengthOf rdata).toNat = rdata.length :=
        Buffer.toNat_lengthOf (by omega)
      have hdiffers : Buffer.lengthOf rdata ≠ 4 := by
        intro h4
        rw [h4] at hlength
        exact hne hlength.symm
      obtain ⟨ttl', hrest⟩ := ih hq.right { e with ttl := ttl }
      refine ⟨ttl', ?_⟩
      rw [hrun, if_neg hdiffers]
      exact hrest

/-- From a response without an error that carries an address, the entry gets the address. -/
theorem receive_of_carries {header : DnsHeader} {questions answers rest : Bytes} {ip : IPAddr}
    (hq : Questions header.qdcount.toNat questions)
    (ha : FirstAddress ip header.ancount.toNat answers)
    (h : Lies packet 0 (header.bytes ++ (questions ++ (answers ++ rest))))
    (hcode : header.responseCode = NO_ERROR) (now : UInt32) (e : DnsLookup) :
    ((receive now header packet).exec e).status = DONE ||| NO_ERROR ∧
      ((receive now header packet).exec e).ipAddress = ip := by
  have hquestions : Lies packet DNS_HEADER_LENGTH (questions ++ (answers ++ rest)) :=
    h.skip (k := 12) rfl
  have hanswers := hquestions.right
  have hcount : header.ancount ≠ 0 := by
    intro hzero
    rw [hzero] at ha
    cases ha
  obtain ⟨ttl, hread⟩ := readAnswers_of_lies ha hanswers
    { e with status := DONE ||| NO_ERROR, time := now }
  have hrun : (receive now header packet).exec e = { e with
      status := DONE ||| NO_ERROR, time := now, ttl := ttl, ipAddress := ip } := by
    unfold receive
    rw [Proc.exec, hcode, Proc.run_modify_bind, if_neg (by decide), Proc.run_modify_bind,
      if_neg hcount, run_fetch_bind (skipQuestions_of_lies hq hquestions), hread]
  rw [hrun]
  exact ⟨rfl, rfl⟩

/-! ### Accepted responses -/

/-- What `matchResponse` has found out. -/
theorem matchResponse_some {sourceIP : IPAddr} {dns : DNSHandler} {i : ℕ} {header : DnsHeader}
    (h : matchResponse sourceIP packet dns = some (i, header)) :
    DnsHeader.read packet = some header ∧ UInt16.ofNat (i + 1) = header.id := by
  simp only [matchResponse, Option.bind_eq_bind, Option.bind_eq_some_iff] at h
  obtain ⟨-, -, -, -, header', hread, -, -, -, -, -, -, -, -, hpure⟩ := h
  obtain ⟨rfl, rfl⟩ := Prod.mk.inj (Option.some.inj hpure)
  refine ⟨hread, ?_⟩
  rw [UInt16.ofNat_add, UInt16.ofNat_toNat]
  exact UInt16.sub_add_cancel _ _

/-- The response code is four bits. -/
theorem responseCode_lt (header : DnsHeader) : header.responseCode < 16 := by
  have hbits : (header.control <<< 12 >>> 12).toNat = header.control.toNat * 4096 % 65536 / 4096 := by
    simp [Nat.shiftLeft_eq, Nat.shiftRight_eq_div_pow]
  rw [UInt8.lt_iff_toNat_lt, DnsHeader.responseCode, UInt16.toNat_toUInt8, hbits]
  have h := header.control.toNat_lt
  show _ < 16
  omega

/-- An entry is resolved only by a response without an error that has answers. -/
theorem receive_resolved {now : UInt32} {header : DnsHeader} {e : DnsLookup}
    (h : ((receive now header packet).exec e).status = DONE ||| NO_ERROR) :
    header.responseCode = NO_ERROR ∧ header.ancount ≠ 0 := by
  have hcodes : ∀ code : UInt8, code < 16 → DONE ||| code = DONE ||| NO_ERROR → code = NO_ERROR :=
    forall_uint8 (by decide +kernel)
  have hcode : header.responseCode = NO_ERROR := by
    by_contra hne
    unfold receive at h
    rw [Proc.exec, Proc.run_modify_bind, if_pos hne] at h
    exact hne (hcodes _ (responseCode_lt header) h)
  refine ⟨hcode, fun hzero => ?_⟩
  unfold receive at h
  rw [Proc.exec, Proc.run_modify_bind, if_neg (by rw [hcode]; decide), Proc.run_modify_bind,
    if_pos hzero] at h
  exact absurd (show DONE ||| SERVER_FAILURE = DONE ||| NO_ERROR from h) (by decide)

/-! ### What else happens to an entry -/

/-- The entry has not become resolved, and if it is its address has not changed. -/
def Undone (e e' : DnsLookup) : Prop :=
  e'.status = DONE ||| NO_ERROR → e.status = DONE ||| NO_ERROR ∧ e'.ipAddress = e.ipAddress

instance : IsPreorder DnsLookup Undone where
  refl _ h := ⟨h, rfl⟩
  trans e e' e'' h h' hdone := by
    obtain ⟨hdone', hip⟩ := h' hdone
    obtain ⟨hdone, hip'⟩ := h hdone'
    exact ⟨hdone, hip.trans hip'⟩

/-- An entry that has got another status is not resolved. -/
theorem Undone.of_status {e e' : DnsLookup} {status : UInt8} (h : e'.status = status)
    (hstatus : status ≠ DONE ||| NO_ERROR) : Undone e e' :=
  fun hdone => absurd (h.symm.trans hdone) hstatus

/-- No entry has become resolved. -/
def NoneResolved (s s' : NameService) : Prop := ∀ i, Undone (s.entry i) (s'.entry i)

/-- No change but a response resolves an entry. -/
theorem undone_touch {counted : Prop} (e e' : DnsLookup) (h : Touch counted e e') :
    Undone e e' := by
  cases h with
  | expired => exact .of_status (show _ = EXPIRED ||| NO_ERROR from rfl) (by decide)
  | asked => exact .of_status (show _ = PENDING ||| NO_ERROR from rfl) (by decide)
  | stamped => exact fun hdone => ⟨hdone, rfl⟩
  | givenUp => exact .of_status (show _ = DONE ||| NO_RESPONSE from rfl) (by decide)
  | refused => exact .of_status (show _ = DONE ||| CLIENT_ERROR from rfl) (by decide)
  | named => exact .of_status (show _ = NO_ERROR ||| PENDING from rfl) (by decide)
  | freed => exact fun hdone => ⟨hdone, rfl⟩
  | heap => exact fun hdone => ⟨hdone, rfl⟩

/-- What `resolve` returns is the address of an entry with the name that is resolved then. -/
theorem resolve_some {domainName : Bytes} {force allocates : Bool} {s : NameService}
    {ip : IPAddr} (h : (resolve domainName force allocates s).1.1 = some ip) :
    ∃ i, findName domainName s.dns = some i ∧
      ((resolve domainName force allocates s).2.entry i).status = DONE ||| NO_ERROR ∧
      ((resolve domainName force allocates s).2.entry i).ipAddress = ip := by
  unfold resolve at h ⊢
  split at h
  case h_1 i hfound =>
    refine ⟨i, hfound, ?_⟩
    rw [resolveCached, Option.ite_none_right_eq_some] at h
    exact ⟨h.1, Option.some.inj h.2⟩
  case h_2 =>
    unfold resolveNew at h
    dsimp only at h
    split_ifs at h
    split at h
    · exact absurd h (by simp)
    · exact absurd h (by simp)

/-- `resolve` resolves nothing by itself. -/
theorem noneResolved_resolve (domainName : Bytes) (force allocates : Bool) (s : NameService) :
    NoneResolved s (resolve domainName force allocates s).2 :=
  fun i => (touches_resolve domainName force allocates s i).keeps undone_touch

/-- The response that an event has accepted, with the number of the entry. -/
def answered : Event → NameService → Option (ℕ × DnsHeader × Bytes)
  | .datagram sourceIP packet, s =>
      (matchResponse sourceIP packet.view s.dns).map fun x => (x.1, x.2, packet.bytes)
  | _, _ => none

/-- Nothing but an accepted response resolves an entry. -/
theorem noneResolved_run {e : Event} {s : NameService} (h : answered e s = none) :
    NoneResolved s (run e s) := by
  have hnone : TakesNone s e := by
    cases e with
    | datagram sourceIP packet => exact Option.map_eq_none_iff.mp h
    | _ => trivial
  exact fun i => (touches_run hnone i).keeps undone_touch

/-! ### Where an address comes from -/

/-- A DNS handler, and the response accepted last for each entry. -/
structure Transcript where
  service : NameService
  accepted : ℕ → Option Bytes

/-- A step of the handler, with the response it accepts written down. -/
def Transcript.run (e : Event) (t : Transcript) : Transcript where
  service := DNSHandler.run e t.service
  accepted := match answered e t.service with
    | some (i, _, d) => Function.update t.accepted i (some d)
    | none => t.accepted

/-- An accepted response without an error that has answers carries an address. -/
def WellAnswered (t : Transcript) (e : Event) : Prop :=
  ∀ i header d, answered e t.service = some (i, header, d) →
    header.responseCode = NO_ERROR → header.ancount ≠ 0 → ∃ ip, Carries header.id ip d

/-- The address of a resolved entry was carried by the response accepted last for it. -/
def Provenance (t : Transcript) : Prop :=
  ∀ i, (t.service.entry i).status = DONE ||| NO_ERROR → ∃ d, t.accepted i = some d ∧
    Carries (UInt16.ofNat (i + 1)) (t.service.entry i).ipAddress d

/-- A step keeps the provenance. -/
theorem Provenance.run {t : Transcript} {e : Event} (h : Provenance t) (he : WellAnswered t e) :
    Provenance (t.run e) := by
  rcases hanswered : answered e t.service with _ | ⟨i, header, d⟩
  · intro j hdone
    obtain ⟨hdone, hip⟩ := noneResolved_run hanswered j hdone
    obtain ⟨d, haccepted, hcarries⟩ := h j hdone
    refine ⟨d, ?_, ?_⟩
    · rw [Transcript.run, hanswered]
      exact haccepted
    · show Carries _ ((DNSHandler.run e t.service).entry j).ipAddress d
      rwa [hip]
  obtain ⟨sourceIP, packet, rfl⟩ : ∃ sourceIP packet, e = .datagram sourceIP packet := by
    cases e with
    | datagram sourceIP packet => exact ⟨sourceIP, packet, rfl⟩
    | _ => cases hanswered
  obtain ⟨⟨i', header'⟩, hmatch, hsame⟩ := Option.map_eq_some_iff.mp hanswered
  obtain ⟨rfl, rfl, rfl⟩ : i' = i ∧ header' = header ∧ packet.bytes = d := by simpa using hsame
  have hservice : (t.run (.datagram sourceIP packet)).service =
      t.service.modifyEntry i' (receive t.service.stack.millis header' packet.view).exec := by
    show handleDatagram sourceIP packet.view t.service = _
    rw [handleDatagram, hmatch]
  have haccepted : (t.run (.datagram sourceIP packet)).accepted =
      Function.update t.accepted i' (some packet.bytes) := by
    rw [Transcript.run, hanswered]
  intro j hdone
  rw [hservice] at hdone ⊢
  rw [haccepted]
  by_cases hj : j = i'
  · subst hj
    rw [NameService.entry_modifyEntry_self] at hdone ⊢
    obtain ⟨hcode, hcount⟩ := receive_resolved hdone
    obtain ⟨hread, hid⟩ := matchResponse_some hmatch
    obtain ⟨ip, hcarries⟩ := he j header' packet.bytes hanswered hcode hcount
    obtain ⟨header, questions, answers, hbytes, -, hq, ha⟩ := id hcarries
    have hlies := packet.lies
    rw [hbytes] at hlies
    obtain rfl : header = header' :=
      Option.some.inj ((DnsHeader.read_of_lies hlies).symm.trans hread)
    rw [← List.append_nil answers] at hlies
    obtain ⟨-, hip⟩ := receive_of_carries hq ha hlies hcode t.service.stack.millis
      (t.service.entry j)
    refine ⟨packet.bytes, Function.update_self _ _ _, ?_⟩
    rw [hip, hid]
    exact hcarries
  · rw [NameService.entry_modifyEntry_ne hj] at hdone ⊢
    rw [Function.update_of_ne hj]
    exact h j hdone

/-- In every run in which the accepted responses without an error that have answers carry an
address, a resolved entry has the address of the response accepted last for it, and what
`resolve` returns is such an address. -/
theorem reaches_provenance {t₀ t : Transcript} (hstart : Constructed t₀.service)
    (hrun : Reaches WellAnswered Transcript.run t₀ t) :
    Provenance t ∧ ∀ domainName force allocates ip,
      (resolve domainName force allocates t.service).1.1 = some ip →
        ∃ i d, findName domainName t.service.dns = some i ∧ t.accepted i = some d ∧
          Carries (UInt16.ofNat (i + 1)) ip d := by
  have hinit : Provenance t₀ := by
    obtain ⟨dnsIP, cacheCapacity, dnsIPBackup, found, hnew⟩ := hstart
    intro i hdone
    have hstatus : (t₀.service.entry i).status = INIT ||| NO_ERROR := by
      rw [NameService.entry, hnew]
      rfl
    rw [hstatus] at hdone
    exact absurd hdone (by decide)
  have hprovenance : Provenance t := hrun.invariant hinit fun _ _ h he => h.run he
  refine ⟨hprovenance, fun domainName force allocates ip hsome => ?_⟩
  obtain ⟨i, hfound, hdone, hip⟩ := resolve_some hsome
  obtain ⟨hdone, hsame⟩ := noneResolved_resolve domainName force allocates t.service i hdone
  obtain ⟨d, haccepted, hcarries⟩ := hprovenance i hdone
  refine ⟨i, d, hfound, haccepted, ?_⟩
  rwa [← hip, hsame]

/-! ### An example -/

/-- The host 10.0.0.1 with a cache of two names, whose server is 10.0.0.2. -/
def exampleService : NameService :=
  ⟨new ⟨10, 0, 0, 2⟩ 2 none fun _ => ⟨[], ⟨0, 0, 0, 0⟩, 0, 0, 0, 0, false⟩, exampleHost 1 1⟩

/-- The example is a service as it was constructed. -/
theorem constructed_exampleService : Constructed exampleService := ⟨_, _, _, _, rfl⟩

/-- The answer 10.0.0.7 to a request for the address of "a". -/
def exampleResponse : Datagram :=
  .ofBytes [0, 1, 129, 128, 0, 1, 0, 1, 0, 0, 0, 0, 1, 97, 0, 0, 1, 0, 1, 192, 12, 0, 1, 0, 1,
    0, 0, 0, 60, 0, 4, 10, 0, 0, 7] (by decide)

/-- A response that announces an answer and ends behind its header. -/
def exampleTruncated : Datagram :=
  .ofBytes [0, 1, 129, 128, 0, 0, 0, 1, 0, 0, 0, 0] (by decide)

/-- The example's response carries the address. -/
theorem carries_exampleResponse : Carries 1 ⟨10, 0, 0, 7⟩ exampleResponse.bytes := by
  refine ⟨⟨1, 0x8180, 1, 1, 0, 0⟩, [1, 97, 0] ++ ([0, 1, 0, 1] ++ []),
    ([192, 12] ++ ([0, 1, 0, 1] ++ ([0, 0, 0, 60] ++ ([0, 4] ++ [10, 0, 0, 7])))) ++ [],
    by decide, rfl, ?_, ?_⟩
  · exact .question (@Name.label _ 1 [97] _ (by decide) (by decide) rfl .root) rfl .none
  · exact .here (.mk (.pointer (by decide)) rfl rfl (by decide))

/-- "a" is asked for and the datagram arrives. -/
def exampleTranscript (packet : Datagram) : Transcript :=
  Transcript.run (.datagram ⟨10, 0, 0, 2⟩ packet)
    (Transcript.run (.resolve [97] false true) ⟨exampleService, fun _ => none⟩)

theorem answered_exampleResponse :
    answered (.datagram ⟨10, 0, 0, 2⟩ exampleResponse)
      (Transcript.run (.resolve [97] false true) ⟨exampleService, fun _ => none⟩).service =
        some (0, ⟨1, 0x8180, 1, 1, 0, 0⟩, exampleResponse.bytes) := by
  decide +kernel

/-- The address that `resolve` returns is the one in the response. -/
theorem reaches_provenance_example : ∃ i d,
    findName [97] (exampleTranscript exampleResponse).service.dns = some i ∧
      (exampleTranscript exampleResponse).accepted i = some d ∧
        Carries (UInt16.ofNat (i + 1)) ⟨10, 0, 0, 7⟩ d := by
  have hfirst : WellAnswered ⟨exampleService, fun _ => none⟩ (.resolve [97] false true) :=
    fun _ _ _ h => absurd h (by simp [answered])
  refine (reaches_provenance constructed_exampleService
    ((Reaches.refl.step hfirst).step (e := .datagram ⟨10, 0, 0, 2⟩ exampleResponse) ?_)).2
    [97] false true ⟨10, 0, 0, 7⟩ (by decide +kernel)
  intro i header d h _ _
  obtain ⟨-, rfl, rfl⟩ : 0 = i ∧ (⟨1, 0x8180, 1, 1, 0, 0⟩ : DnsHeader) = header ∧
      exampleResponse.bytes = d := by
    simpa using answered_exampleResponse.symm.trans h
  exact ⟨_, carries_exampleResponse⟩

/-- A response that ends behind its header resolves the name to an address that no response has
carried. -/
theorem truncated_resolves :
    Reaches (fun _ _ => True) Transcript.run ⟨exampleService, fun _ => none⟩
        (exampleTranscript exampleTruncated) ∧
      Constructed exampleService ∧
      ((exampleTranscript exampleTruncated).service.entry 0).status = DONE ||| NO_ERROR ∧
      (resolve [97] false true (exampleTranscript exampleTruncated).service).1.1 =
        some ⟨0, 0, 0, 0⟩ ∧
      ∀ i d, (exampleTranscript exampleTruncated).accepted i = some d →
        ∀ id ip, ¬ Carries id ip d := by
  have hfirst : Reaches (fun _ _ => True) Transcript.run ⟨exampleService, fun _ => none⟩
      (Transcript.run (.resolve [97] false true) ⟨exampleService, fun _ => none⟩) :=
    Reaches.refl.step trivial
  refine ⟨hfirst.step trivial, constructed_exampleService, by decide +kernel,
    by decide +kernel, fun i d h id ip hcarries => ?_⟩
  have haccepted : (exampleTranscript exampleTruncated).accepted =
      Function.update (fun _ => none) 0 (some exampleTruncated.bytes) := by
    have hanswered : answered (.datagram ⟨10, 0, 0, 2⟩ exampleTruncated)
        (Transcript.run (.resolve [97] false true) ⟨exampleService, fun _ => none⟩).service =
          some (0, ⟨1, 0x8180, 0, 1, 0, 0⟩, exampleTruncated.bytes) := by
      decide +kernel
    rw [exampleTranscript, Transcript.run, hanswered]
    rfl
  have hlength := hcarries.length
  rw [haccepted, Function.update_apply] at h
  split at h
  · rw [← Option.some.inj h] at hlength
    exact absurd hlength (by decide)
  · exact absurd h (by simp)

end DNSHandler

end AtmegaNet
