import Mathlib.Data.List.Perm.Subperm
import AtmegaNet.DNSMessage

/-!
# The walk of the DNS parser

`handleDatagram` walks from length to length through a message. All lengths come from the message,
and the offset they are added to has 16 bits, as has the bounds check of the buffer. `Reader` is
what a walk needs of its message, so that the same walk can be taken with 16-bit offsets, through
the buffer, and with natural numbers as offsets, through the bytes.

## Main results

* `walkName_view`, `walkQuestions_view`, `walkAnswers_view`: the walk through the buffer is the one
  of the parser, with its accesses written down.
* `InStep`: the two walks make the same accesses as long as none ends beyond 65535.
* `forward_iff`: the parser moves forward inside the message just if the walk with natural numbers
  makes no access that ends beyond 65535.
-/

open Procedure

namespace AtmegaNet

namespace DNSHandler

/-! ### Walks -/

/-- What an access reads: the first byte of a question or an answer, that of an answer behind the
RDLENGTH read at `p`, or anything else. -/
inductive Field (A : Type)
  | begins
  | behind (p : A) (rdlength : UInt16)
  | other
  deriving DecidableEq, Repr

/-- An access to the message. -/
structure Access (A : Type) where
  field : Field A
  offset : A
  width : ℕ
  deriving DecidableEq, Repr

/-- The accesses of a walk, and its result unless one of them fails. -/
structure Walk (A β : Type) where
  accesses : List (Access A)
  result : Option β

namespace Walk

variable {A β γ : Type}

/-- One walk after the other. -/
def andThen (x : Walk A β) (k : β → Walk A γ) : Walk A γ :=
  match x.result with
  | none => ⟨x.accesses, none⟩
  | some b => ⟨x.accesses ++ (k b).accesses, (k b).result⟩

instance : Monad (Walk A) where
  pure b := ⟨[], some b⟩
  bind := andThen

/-- A walk that has stopped goes no further. -/
theorem bind_none {x : Walk A β} (h : x.result = none) (k : β → Walk A γ) :
    x >>= k = ⟨x.accesses, none⟩ := by
  change x.andThen k = _
  rw [andThen, h]

/-- A walk that has not stopped goes on. -/
theorem bind_some {x : Walk A β} {b : β} (h : x.result = some b) (k : β → Walk A γ) :
    x >>= k = ⟨x.accesses ++ (k b).accesses, (k b).result⟩ := by
  change x.andThen k = _
  rw [andThen, h]

/-- The result of a walk is that of its last part. -/
theorem result_bind (x : Walk A β) (k : β → Walk A γ) :
    (x >>= k).result = x.result.bind fun b => (k b).result := by
  cases h : x.result with
  | none => rw [bind_none h, Option.bind_none]
  | some b => rw [bind_some h, Option.bind_some]

end Walk

/-- A message with the offsets into it. -/
structure Reader (A : Type) where
  read : A → ℕ → Option Bytes
  add : A → ℕ → A

/-- The message in a buffer, with 16-bit offsets. -/
def viewReader (packet : View) : Reader UInt16 where
  read p width := packet.read p (UInt16.ofNat width)
  add p k := p + UInt16.ofNat k

/-- The message as a block of bytes, with natural numbers as offsets. -/
def bytesReader (d : Bytes) : Reader ℕ where
  read x width := if x + width ≤ d.length then some ((d.drop x).take width) else none
  add x k := x + k

namespace Reader

variable {A : Type} (r : Reader A)

def access (field : Field A) (p : A) (width : ℕ) : Walk A Bytes :=
  ⟨[⟨field, p, width⟩], r.read p width⟩

/-- `skipName`, with the accesses it makes. -/
def walkName (pointer : UInt8 → Bool) : ℕ → Field A → A → Walk A A
  | 0, _, _ => ⟨[], none⟩
  | rounds + 1, field, p => do
      let b ← r.access field p 1
      let size := b.getD 0 0
      let p := r.add p 1
      if size = 0 then pure p
      else if pointer size then pure (r.add p 1)
      else walkName pointer rounds .other (r.add p size.toNat)

/-- `skipQuestions`, with the accesses it makes. -/
def walkQuestions (rounds : ℕ) : ℕ → A → Walk A A
  | 0, p => pure p
  | n + 1, p => do
      let p ← r.walkName noPointer rounds .begins p
      walkQuestions rounds n (r.add p 4)

/-- `readAddress`, from one of its four bytes on, with the accesses it makes. -/
def walkAddress : ℕ → A → Walk A Unit
  | 0, _ => pure ()
  | k + 1, p => do
      let _ ← r.access .other p 1
      walkAddress k (r.add p 1)

/-- `readAnswers`, with the accesses it makes. -/
def walkAnswers (rounds : ℕ) : ℕ → Field A → A → Walk A Unit
  | 0, _, _ => pure ()
  | n + 1, field, p => do
      let p ← r.walkName isPointer rounds field p
      let p := r.add p 4
      let _ ← r.access .other p 4
      let p := r.add p 4
      let b ← r.access .other p 2
      let rdlength := NTOHS (word16 b)
      if rdlength = 4 then r.walkAddress 4 (r.add p 2)
      else walkAnswers rounds n (.behind p rdlength) (r.add (r.add p 2) rdlength.toNat)

/-- The walk through the questions and answers of a message, with a bound on the labels of a
name. -/
def walk (rounds : ℕ) (header : DnsHeader) (p : A) : Walk A Unit := do
  let p ← r.walkQuestions rounds header.qdcount.toNat p
  r.walkAnswers rounds header.ancount.toNat .begins p

end Reader

/-- The message that the parser walks through, if it does. -/
def walked (sourceIP : IPAddr) (packet : View) (dns : DNSHandler) : Option DnsHeader :=
  match matchResponse sourceIP packet dns with
  | none => none
  | some (_, header) =>
      if header.responseCode ≠ NO_ERROR ∨ header.ancount = 0 then none else some header

/-- The accesses of `handleDatagram`: to the header, unless the packet is rejected before, and then
the walk through the message. -/
def accesses (rounds : ℕ) (sourceIP : IPAddr) (packet : View) (dns : DNSHandler) :
    List (Access UInt16) :=
  if packet.size < DNS_HEADER_LENGTH ∨ ¬ (sourceIP = dns.dnsIP ∨ sourceIP = dns.dnsIPBackup) then []
  else [0, 2, 4, 6, 8, 10].map (fun p => ⟨.other, p, 2⟩) ++
    match walked sourceIP packet dns with
    | none => []
    | some header => ((viewReader packet).walk rounds header DNS_HEADER_LENGTH).accesses

/-! ### The walk is that of the parser -/

section View

variable {packet : View}

/-- The walk over a name is the parser's. -/
theorem walkName_view (pointer : UInt8 → Bool) (rounds : ℕ) (field : Field UInt16) (p : UInt16) :
    ((viewReader packet).walkName pointer rounds field p).result =
      skipName pointer packet rounds p := by
  induction rounds generalizing field p with
  | zero => rfl
  | succ rounds ih =>
      have hread : ((viewReader packet).access field p 1).result = packet.read p 1 := rfl
      have hadd : ∀ q k, (viewReader packet).add q k = q + UInt16.ofNat k := fun _ _ => rfl
      rw [Reader.walkName, skipName, View.read8, Walk.result_bind, hread]
      cases packet.read p 1 with
      | none => rfl
      | some b =>
          simp only [Option.map_some, Option.bind_eq_bind, Option.bind_some, hadd]
          by_cases hzero : b.getD 0 0 = 0
          · rw [if_pos hzero, if_pos hzero]
            rfl
          rw [if_neg hzero, if_neg hzero]
          by_cases hpointer : pointer (b.getD 0 0) = true
          · rw [if_pos hpointer, if_pos hpointer]
            rfl
          rw [if_neg hpointer, if_neg hpointer, ← UInt16.ofNat_uInt8ToNat]
          exact ih .other _

/-- The walk over the questions is the parser's. -/
theorem walkQuestions_view (n : ℕ) (p : UInt16) :
    ((viewReader packet).walkQuestions 65536 n p).result = skipQuestions packet n p := by
  induction n generalizing p with
  | zero => rfl
  | succ n ih =>
      rw [Reader.walkQuestions, skipQuestions, Walk.result_bind, walkName_view]
      exact Option.bind_congr fun q _ => ih (q + 4)

/-- The walk over an address is the parser's. -/
theorem walkAddress_view (p : UInt16) (e : DnsLookup) :
    ((viewReader packet).walkAddress 4 p).result = ((readAddress packet p).run e).1 := by
  have hread : ∀ q, ((viewReader packet).access .other q 1).result = packet.read q 1 := fun _ => rfl
  have h2 : p + 1 + 1 = p + 2 := UInt16.add_assoc p 1 1
  have h3 : p + 2 + 1 = p + 3 := UInt16.add_assoc p 2 1
  have hadd : ∀ q, (viewReader packet).add q 1 = q + 1 := fun _ => rfl
  simp only [Reader.walkAddress, readAddress, Walk.result_bind, hread, hadd, h2, h3, View.read8]
  cases packet.read p 1 with
  | none => rfl
  | some b₀ =>
      cases packet.read (p + 1) 1 with
      | none => rfl
      | some b₁ =>
          cases packet.read (p + 2) 1 with
          | none => rfl
          | some b₂ =>
              cases packet.read (p + 3) 1 with
              | none => rfl
              | some b₃ => rfl

/-- Nothing that is fetched, nothing that is done. -/
theorem run_fetch_none {β γ : Type} {x : Option β} (h : x = none) (k : β → Proc DnsLookup γ)
    (e : DnsLookup) : (fetch x >>= k).run e = (none, e) :=
  Proc.run_bind_of_none (congrArg (fun o => (o, e)) h)

/-- The walk over the answers is the parser's. -/
theorem walkAnswers_view (n : ℕ) (field : Field UInt16) (p : UInt16) (e : DnsLookup) :
    ((viewReader packet).walkAnswers 65536 n field p).result = ((readAnswers packet n p).run e).1 := by
  induction n generalizing field p e with
  | zero => rfl
  | succ n ih =>
      have hread : ∀ q k, ((viewReader packet).access .other q k).result =
        packet.read q (UInt16.ofNat k) := fun _ _ => rfl
      have hadd : ∀ q k, (viewReader packet).add q k = q + UInt16.ofNat k := fun _ _ => rfl
      have hfour : UInt16.ofNat 4 = 4 := rfl
      have htwo : UInt16.ofNat 2 = 2 := rfl
      simp only [Reader.walkAnswers, readAnswers, Walk.result_bind, walkName_view, hread, hadd, hfour,
        htwo]
      cases hname : skipName isPointer packet 65536 p with
      | none => rw [run_fetch_none rfl, Option.bind_none]
      | some q =>
          rw [run_fetch_bind rfl, Option.bind_some]
          cases httl : packet.read (q + 4) 4 with
          | none =>
              have hfetch : packet.readNet32 (q + 4) = none := by
                rw [View.readNet32, View.read32, httl, Option.map_none, Option.map_none]
              rw [run_fetch_none hfetch, Option.bind_none]
          | some ttl =>
              have hfetch : packet.readNet32 (q + 4) = some (NTOHL (word32 ttl)) := by
                rw [View.readNet32, View.read32, httl, Option.map_some, Option.map_some]
              rw [run_fetch_bind hfetch, Proc.run_modify_bind, Option.bind_some]
              cases hdata : packet.read (q + 4 + 4) 2 with
              | none =>
                  have hfetch : packet.readNet16 (q + 4 + 4) = none := by
                    rw [View.readNet16, View.read16, hdata, Option.map_none, Option.map_none]
                  rw [run_fetch_none hfetch, Option.bind_none]
              | some b =>
                  have hfetch : packet.readNet16 (q + 4 + 4) = some (NTOHS (word16 b)) := by
                    rw [View.readNet16, View.read16, hdata, Option.map_some, Option.map_some]
                  rw [run_fetch_bind hfetch, Option.bind_some]
                  by_cases haddress : NTOHS (word16 b) = 4
                  · rw [if_pos haddress, if_pos haddress]
                    exact walkAddress_view _ _
                  · rw [if_neg haddress, if_neg haddress, UInt16.ofNat_toNat]
                    exact ih _ _ _

/-- The walk succeeds where the rest of the parser does. -/
theorem walk_view (header : DnsHeader) (now : UInt32) (e : DnsLookup)
    (hcode : header.responseCode = NO_ERROR) (hcount : header.ancount ≠ 0) :
    ((viewReader packet).walk 65536 header DNS_HEADER_LENGTH).result =
      ((receive now header packet).run e).1 := by
  unfold receive
  rw [Reader.walk, Walk.result_bind, walkQuestions_view, hcode, Proc.run_modify_bind,
    if_neg (by decide), Proc.run_modify_bind, if_neg hcount]
  cases hquestions : skipQuestions packet header.qdcount.toNat DNS_HEADER_LENGTH with
  | none => rw [run_fetch_none rfl, Option.bind_none]
  | some q =>
      rw [run_fetch_bind rfl, Option.bind_some]
      exact walkAnswers_view _ _ _ _

end View

/-! ### The two walks in step -/

/-- The field with a 16-bit offset. -/
def Field.narrow : Field ℕ → Field UInt16
  | .begins => .begins
  | .behind x rdlength => .behind (UInt16.ofNat x) rdlength
  | .other => .other

namespace Access

/-- The access with a 16-bit offset. -/
def narrow (a : Access ℕ) : Access UInt16 := ⟨a.field.narrow, UInt16.ofNat a.offset, a.width⟩

/-- Where the access ends. -/
def stop (a : Access ℕ) : ℕ := a.offset + a.width

end Access

/-- The walk `y` with 16-bit offsets makes the accesses of the walk `x`, and no others if those of
`x` end below 65536. -/
structure InStep {α β : Type} (f : α → β) (x : Walk ℕ α) (y : Walk UInt16 β) : Prop where
  leads : x.accesses.map Access.narrow <+: y.accesses
  same : (∀ a ∈ x.accesses, a.stop < 65536) →
    y.accesses = x.accesses.map Access.narrow ∧ y.result = x.result.map f
  inside : x.result.isSome → ∀ a ∈ x.accesses, a.stop < 65536

section InStep

/-- Walks that read nothing are in step. -/
theorem InStep.pure {α β : Type} {f : α → β} (a : α) :
    InStep f (Pure.pure a : Walk ℕ α) (Pure.pure (f a) : Walk UInt16 β) where
  leads := List.prefix_rfl
  same _ := ⟨rfl, rfl⟩
  inside _ a ha := absurd ha (by simp [Pure.pure])

/-- Walks in step stay in step. -/
theorem InStep.bind {α β γ δ : Type} {f : α → β} {g : γ → δ} {x : Walk ℕ α} {y : Walk UInt16 β}
    {k : α → Walk ℕ γ} {k' : β → Walk UInt16 δ} (h : InStep f x y)
    (hk : ∀ a, InStep g (k a) (k' (f a))) : InStep g (x >>= k) (y >>= k') := by
  cases hx : x.result with
  | none =>
      rw [Walk.bind_none hx]
      refine ⟨?_, fun hall => ?_, fun hsome => absurd hsome (by simp)⟩
      · -- the other walk may go on
        cases hy : y.result with
        | none =>
            rw [Walk.bind_none hy]
            exact h.leads
        | some b =>
            rw [Walk.bind_some hy]
            exact h.leads.trans (List.prefix_append _ _)
      · obtain ⟨haccesses, hresult⟩ := h.same hall
        rw [hx] at hresult
        rw [Walk.bind_none hresult]
        exact ⟨haccesses, rfl⟩
  | some a =>
      have hinside := h.inside (by rw [hx]; rfl)
      obtain ⟨haccesses, hresult⟩ := h.same hinside
      rw [hx] at hresult
      have hnext := hk a
      rw [Walk.bind_some hx, Walk.bind_some hresult]
      refine ⟨?_, fun hall => ?_, fun hsome b hb => ?_⟩
      · rw [haccesses, List.map_append]
        exact (List.prefix_append_right_inj _).mpr hnext.leads
      · obtain ⟨hlist, hlast⟩ := hnext.same fun b hb => hall b (List.mem_append_right _ hb)
        rw [haccesses, hlist, List.map_append]
        exact ⟨rfl, hlast⟩
      · obtain hb | hb := List.mem_append.mp hb
        · exact hinside b hb
        · exact hnext.inside hsome b hb

/-- The packet shows the bytes `d`, through a buffer they fill. -/
structure ShowsBytes (packet : View) (d : Bytes) : Prop where
  short : d.length < 65536
  read : ∀ x width, x + width < 65536 →
    (viewReader packet).read (UInt16.ofNat x) width = (bytesReader d).read x width
  isSome : ∀ p len : UInt16, (packet.read p len).isSome ↔ (p + len).toNat ≤ d.length

/-- A buffer shows what lies in it. -/
theorem ShowsBytes.of_buffer {b : Buffer} (hb : b.Fits) (m : Memory) :
    ShowsBytes (b.view m) (b.contents m) where
  short := by
    rw [Buffer.contents, Region.length_read]
    exact b.size.toNat_lt
  read x width hsum := by
    have hx : (UInt16.ofNat x).toNat = x := by
      simpa using Nat.mod_eq_of_lt (by omega : x < 65536)
    have hwidth : (UInt16.ofNat width).toNat = width := by
      simpa using Nat.mod_eq_of_lt (by omega : width < 65536)
    have hread : (viewReader (b.view m)).read (UInt16.ofNat x) width =
        b.read (UInt16.ofNat x) (UInt16.ofNat width) m := rfl
    rw [hread, Buffer.read_of_fits hb m (by omega), hx, hwidth, bytesReader, Buffer.contents,
      Region.length_read]
    dsimp only
    by_cases hin : x + width ≤ b.size.toNat
    · rw [if_pos hin, if_neg (by omega), Region.take_drop_read _ _ _ hin]
    · rw [if_neg hin, if_pos (by omega)]
  isSome p len := by
    rw [Buffer.contents, Region.length_read]
    refine (Buffer.read_isSome hb p len m).trans ?_
    rw [gt_iff_lt, UInt16.lt_iff_toNat_lt, Nat.not_lt]

variable {packet : View} {d : Bytes}

/-- Offsets of a block of bytes are numbers. -/
@[simp] theorem add_bytesReader (x k : ℕ) : (bytesReader d).add x k = x + k := rfl

/-- Offsets of a view wrap around. -/
@[simp] theorem add_viewReader (x k : ℕ) :
    (viewReader packet).add (UInt16.ofNat x) k = UInt16.ofNat (x + k) :=
  (UInt16.ofNat_add x k).symm

/-- An access to the view is in step with the one to the bytes, while it is inside. -/
theorem inStep_access (hd : ShowsBytes packet d) (field : Field ℕ) (x width : ℕ) :
    InStep id ((bytesReader d).access field x width)
      ((viewReader packet).access field.narrow (UInt16.ofNat x) width) := by
  refine ⟨List.prefix_rfl, fun hall => ⟨rfl, ?_⟩, fun hsome => ?_⟩
  · have hstop : x + width < 65536 := hall ⟨field, x, width⟩ (by simp [Reader.access])
    rw [Option.map_id]
    exact hd.read x width hstop
  · have hshort := hd.short
    have hin : x + width ≤ d.length := by
      by_contra hout
      simp [Reader.access, bytesReader, hout] at hsome
    simp only [Reader.access, List.mem_singleton, forall_eq, Access.stop]
    omega

/-- So is the walk over a name. -/
theorem inStep_walkName (hd : ShowsBytes packet d) (pointer : UInt8 → Bool) (rounds : ℕ)
    (field : Field ℕ) (x : ℕ) :
    InStep UInt16.ofNat ((bytesReader d).walkName pointer rounds field x)
      ((viewReader packet).walkName pointer rounds field.narrow (UInt16.ofNat x)) := by
  induction rounds generalizing field x with
  | zero => exact ⟨List.prefix_rfl, fun _ => ⟨rfl, rfl⟩, fun h => absurd h (by simp [Reader.walkName])⟩
  | succ rounds ih =>
      rw [Reader.walkName, Reader.walkName]
      refine (inStep_access hd field x 1).bind fun b => ?_
      simp only [id_eq, add_bytesReader, add_viewReader]
      by_cases hzero : b.getD 0 0 = 0
      · rw [if_pos hzero, if_pos hzero]
        exact .pure (x + 1)
      by_cases hpointer : pointer (b.getD 0 0) = true
      · rw [if_neg hzero, if_neg hzero, if_pos hpointer, if_pos hpointer]
        exact .pure (x + 1 + 1)
      rw [if_neg hzero, if_neg hzero, if_neg hpointer, if_neg hpointer]
      exact ih .other _

/-- So is the walk over the questions. -/
theorem inStep_walkQuestions (hd : ShowsBytes packet d) (rounds n x : ℕ) :
    InStep UInt16.ofNat ((bytesReader d).walkQuestions rounds n x)
      ((viewReader packet).walkQuestions rounds n (UInt16.ofNat x)) := by
  induction n generalizing x with
  | zero => exact .pure x
  | succ n ih =>
      rw [Reader.walkQuestions, Reader.walkQuestions]
      refine (inStep_walkName hd noPointer rounds .begins x).bind fun y => ?_
      rw [add_bytesReader, add_viewReader]
      exact ih (y + 4)

/-- So is the walk over an address. -/
theorem inStep_walkAddress (hd : ShowsBytes packet d) (k x : ℕ) :
    InStep id ((bytesReader d).walkAddress k x)
      ((viewReader packet).walkAddress k (UInt16.ofNat x)) := by
  induction k generalizing x with
  | zero => exact .pure ()
  | succ k ih =>
      rw [Reader.walkAddress, Reader.walkAddress]
      refine (inStep_access hd .other x 1).bind fun _ => ?_
      rw [add_bytesReader, add_viewReader]
      exact ih (x + 1)

/-- So is the walk over the answers. -/
theorem inStep_walkAnswers (hd : ShowsBytes packet d) (rounds n : ℕ) (field : Field ℕ) (x : ℕ) :
    InStep id ((bytesReader d).walkAnswers rounds n field x)
      ((viewReader packet).walkAnswers rounds n field.narrow (UInt16.ofNat x)) := by
  induction n generalizing field x with
  | zero => exact .pure ()
  | succ n ih =>
      rw [Reader.walkAnswers, Reader.walkAnswers]
      refine (inStep_walkName hd isPointer rounds field x).bind fun y => ?_
      simp only [add_bytesReader, add_viewReader]
      refine (inStep_access hd .other (y + 4) 4).bind fun _ => ?_
      refine (inStep_access hd .other (y + 4 + 4) 2).bind fun b => ?_
      rw [id_eq]
      by_cases haddress : NTOHS (word16 b) = 4
      · rw [if_pos haddress, if_pos haddress]
        exact inStep_walkAddress hd 4 _
      · rw [if_neg haddress, if_neg haddress]
        exact ih (.behind (y + 4 + 4) (NTOHS (word16 b))) _

/-- So is the walk over a message. -/
theorem inStep_walk (hd : ShowsBytes packet d) (rounds : ℕ) (header : DnsHeader) (x : ℕ) :
    InStep id ((bytesReader d).walk rounds header x)
      ((viewReader packet).walk rounds header (UInt16.ofNat x)) :=
  (inStep_walkQuestions hd rounds header.qdcount.toNat x).bind fun y =>
    inStep_walkAnswers hd rounds header.ancount.toNat .begins y

end InStep

/-! ### Where a walk goes -/

/-- How an access follows another: it is a little further on, or where the RDLENGTH says. -/
structure Next (a b : Access ℕ) : Prop where
  width : 1 ≤ b.width ∧ b.width ≤ 4
  further : a.offset < b.offset
  near : b.offset ≤ a.offset + 300 ∨
    ∃ n, b.field = .behind a.offset n ∧ a.width = 2 ∧ b.width = 1
  behind : ∀ x n, b.field = .behind x n → b.offset = x + 2 + n.toNat

/-- The accesses follow each other from `a` on, and only the last may fail, in `N` bytes. -/
inductive Goes (N : ℕ) : Access ℕ → List (Access ℕ) → Prop
  | stop {a : Access ℕ} : Goes N a []
  | fails {a b : Access ℕ} : Next a b → N < b.stop → Goes N a [b]
  | reads {a b : Access ℕ} {l : List (Access ℕ)} : Next a b → b.stop ≤ N → Goes N b l →
      Goes N a (b :: l)

/-- The walk goes on from `a`, and if it has a result, it may go on from where `P` says. -/
def Continues {β : Type} (N : ℕ) (P : Access ℕ → β → Prop) (a : Access ℕ) (w : Walk ℕ β) : Prop :=
  match w.result with
  | none => Goes N a w.accesses
  | some r => ∀ rest, (∀ b, P b r → Goes N b rest) → Goes N a (w.accesses ++ rest)

section Continues

variable {N : ℕ} {a : Access ℕ} {β γ : Type} {P : Access ℕ → β → Prop}

/-- A walk that goes on from a place makes its accesses one behind the other. -/
theorem Continues.goes {w : Walk ℕ β} (h : Continues N P a w) : Goes N a w.accesses := by
  unfold Continues at h
  cases hw : w.result with
  | none => rwa [hw] at h
  | some r =>
      rw [hw] at h
      rw [← List.append_nil w.accesses]
      exact h [] fun _ _ => .stop

/-- Reading nothing goes on from anywhere. -/
theorem Continues.pure {r : β} (h : P a r) : Continues N P a (Pure.pure r) :=
  fun _ hrest => hrest a h

/-- Walks that go on one from the other go on together. -/
theorem Continues.bind {Q : Access ℕ → γ → Prop} {w : Walk ℕ β} {k : β → Walk ℕ γ}
    (h : Continues N P a w) (hk : ∀ b r, P b r → Continues N Q b (k r)) :
    Continues N Q a (w >>= k) := by
  unfold Continues at h ⊢
  cases hw : w.result with
  | none =>
      rw [hw] at h
      rw [Walk.bind_none hw]
      exact h
  | some r =>
      rw [hw] at h
      rw [Walk.bind_some hw]
      dsimp only at h ⊢
      have hnext : ∀ b, P b r → Continues N Q b (k r) := fun b hb => hk b r hb
      unfold Continues at hnext
      cases hk : (k r).result with
      | none =>
          rw [hk] at hnext
          exact h _ hnext
      | some r' =>
          rw [hk] at hnext
          intro rest hrest
          rw [List.append_assoc]
          exact h _ fun b hb => hnext b hb rest hrest

/-- An access to the next place goes on from there, unless it is outside. -/
theorem continues_access {d : Bytes} {field : Field ℕ} {x width : ℕ}
    (h : Next a ⟨field, x, width⟩) :
    Continues d.length (fun b _ => b = ⟨field, x, width⟩) a
      ((bytesReader d).access field x width) := by
  unfold Continues
  by_cases hin : x + width ≤ d.length
  · have hread : ((bytesReader d).access field x width).result =
        some ((d.drop x).take width) := if_pos hin
    rw [hread]
    exact fun rest hrest => .reads h hin (hrest _ rfl)
  · have hread : ((bytesReader d).access field x width).result = none := if_neg hin
    rw [hread]
    exact .fails h (Nat.not_le.mp hin)

end Continues

section Walks

variable {d : Bytes} {a : Access ℕ}

/-- An access to anything but a record behind data, a little further on. -/
theorem Next.of_near {field : Field ℕ} {x width : ℕ} (hfield : ∀ y n, field ≠ .behind y n)
    (hwidth : 1 ≤ width ∧ width ≤ 4) (hlt : a.offset < x) (hle : x ≤ a.offset + 300) :
    Next a ⟨field, x, width⟩ :=
  ⟨hwidth, hlt, .inl hle, fun y n h => absurd h (hfield y n)⟩

/-- The walk over a name goes on from its last access. -/
theorem continues_walkName (pointer : UInt8 → Bool) (rounds : ℕ) {field : Field ℕ} {x : ℕ}
    (h : Next a ⟨field, x, 1⟩) :
    Continues d.length (fun b y => b.offset < y ∧ y ≤ b.offset + 2) a
      ((bytesReader d).walkName pointer rounds field x) := by
  induction rounds generalizing a field x with
  | zero => exact .stop
  | succ rounds ih =>
      rw [Reader.walkName]
      refine (continues_access h).bind ?_
      rintro b bytes rfl
      simp only [add_bytesReader]
      generalize bytes.getD 0 0 = size
      have hsize := size.toNat_lt
      by_cases hzero : size = 0
      · rw [if_pos hzero]
        exact .pure ⟨by simp, by simp⟩
      by_cases hpointer : pointer size = true
      · rw [if_neg hzero, if_pos hpointer]
        exact .pure ⟨Nat.lt_add_right 1 (Nat.lt_succ_self x), by simp⟩
      rw [if_neg hzero, if_neg hpointer]
      exact ih (.of_near (by simp) (by simp) (by simp; omega) (by simp; omega))

/-- The walk over the questions goes on from its last access. -/
theorem continues_walkQuestions (rounds n : ℕ) {x : ℕ} (hlt : a.offset < x) (hle : x ≤ a.offset + 6) :
    Continues d.length (fun b y => b.offset < y ∧ y ≤ b.offset + 6) a
      ((bytesReader d).walkQuestions rounds n x) := by
  induction n generalizing a x with
  | zero => exact .pure ⟨hlt, hle⟩
  | succ n ih =>
      rw [Reader.walkQuestions]
      refine (continues_walkName noPointer rounds (.of_near (by simp) (by simp) hlt
        (by omega))).bind ?_
      rintro b y ⟨hby, hyb⟩
      rw [add_bytesReader]
      exact ih (by omega) (by omega)

/-- So does the walk over an address. -/
theorem continues_walkAddress (k : ℕ) {x : ℕ} (hlt : a.offset < x) (hle : x ≤ a.offset + 2) :
    Continues d.length (fun _ _ => True) a ((bytesReader d).walkAddress k x) := by
  induction k generalizing a x with
  | zero => exact .pure trivial
  | succ k ih =>
      rw [Reader.walkAddress]
      refine (continues_access (.of_near (by simp) (by simp) hlt (by omega))).bind ?_
      rintro b _ rfl
      rw [add_bytesReader]
      exact ih (by simp) (by simp)

/-- So does the walk over the answers. -/
theorem continues_walkAnswers (rounds n : ℕ) {field : Field ℕ} {x : ℕ}
    (h : Next a ⟨field, x, 1⟩) :
    Continues d.length (fun _ _ => True) a ((bytesReader d).walkAnswers rounds n field x) := by
  induction n generalizing a field x with
  | zero => exact .pure trivial
  | succ n ih =>
      rw [Reader.walkAnswers]
      refine (continues_walkName isPointer rounds h).bind ?_
      rintro b y ⟨hby, hyb⟩
      simp only [add_bytesReader]
      refine (continues_access (.of_near (by simp) (by simp) (by omega) (by omega))).bind ?_
      rintro c _ rfl
      refine (continues_access (.of_near (by simp) (by simp) (by simp) (by simp))).bind ?_
      rintro c bytes rfl
      by_cases haddress : NTOHS (word16 bytes) = 4
      · rw [if_pos haddress]
        exact continues_walkAddress 4 (by simp) (by simp)
      · rw [if_neg haddress]
        refine ih ⟨by simp, by simp; omega, .inr ⟨_, rfl, rfl, rfl⟩, ?_⟩
        intro x n hfield
        simp only [Field.behind.injEq] at hfield
        obtain ⟨rfl, rfl⟩ := hfield
        rfl

/-- The walk goes on behind the header. -/
theorem goes_walk (rounds : ℕ) (header : DnsHeader) :
    Goes d.length ⟨.other, 10, 2⟩ ((bytesReader d).walk rounds header 12).accesses := by
  have hwalk : Continues d.length (fun _ _ => True) ⟨.other, 10, 2⟩
      ((bytesReader d).walk rounds header 12) := by
    rw [Reader.walk]
    refine (continues_walkQuestions rounds header.qdcount.toNat (by simp) (by simp)).bind ?_
    rintro b y ⟨hby, hyb⟩
    exact continues_walkAnswers rounds _ (.of_near (by simp) (by simp) hby (by omega))
  exact hwalk.goes

end Walks

/-! ### Forward inside the message -/

/-- The accesses that succeed. -/
def successes (packet : View) (l : List (Access UInt16)) : List (Access UInt16) :=
  l.filter fun a => (packet.read a.offset (UInt16.ofNat a.width)).isSome

/-- What is read lies in `N` bytes and further and further on, so that there is at most one access
for each byte, and no answer begins behind data that reaches past the end. -/
structure Forward (N : ℕ) (l : List (Access UInt16)) : Prop where
  inside : ∀ a ∈ l, a.offset.toNat + a.width ≤ N
  increasing : l.Pairwise fun a b => a.offset.toNat < b.offset.toNat
  ends : ∀ a ∈ l, ∀ p n, a.field = .behind p n → p.toNat + 2 + n.toNat ≤ N
  few : l.length ≤ N

/-- The walk with natural numbers makes an access that ends beyond 65535. -/
def Wraps (sourceIP : IPAddr) (packet : View) (d : Bytes) (dns : DNSHandler) : Prop :=
  ∃ header, walked sourceIP packet dns = some header ∧
    ∃ rounds, ∃ a ∈ ((bytesReader d).walk rounds header 12).accesses, 65536 ≤ a.stop

section Goes

variable {N : ℕ} {a : Access ℕ} {l : List (Access ℕ)}

/-- Offsets grow along the walk. -/
theorem Goes.increasing (h : Goes N a l) : (a :: l).Pairwise fun a b => a.offset < b.offset := by
  induction h with
  | stop => exact List.pairwise_singleton _ _
  | @fails a b hnext _ => simpa using hnext.further
  | @reads a b l hnext _ _ ih =>
      have hrest := List.pairwise_cons.mp ih
      refine List.pairwise_cons.mpr ⟨?_, ih⟩
      intro c hc
      obtain rfl | hc := List.mem_cons.mp hc
      · exact hnext.further
      · exact hnext.further.trans (hrest.1 c hc)

/-- Every access follows another one, or the place before them all. -/
theorem Goes.next (h : Goes N a l) : ∀ b ∈ l, ∃ c, Next c b := by
  induction h with
  | stop => simp
  | @fails a b hnext _ => exact fun c hc => ⟨a, by rwa [List.mem_singleton.mp hc]⟩
  | @reads a b l hnext _ _ ih =>
      intro c hc
      obtain rfl | hc := List.mem_cons.mp hc
      · exact ⟨a, hnext⟩
      · exact ih c hc

/-- An access that fails is the last one. -/
theorem Goes.last (h : Goes N a l) {b : Access ℕ} (hb : b ∈ l) (hout : N < b.stop) :
    ∃ first c, l = first ++ [b] ∧ (∀ x ∈ first, x.stop ≤ N) ∧ c ∈ a :: first ∧ Next c b := by
  induction h with
  | stop => cases hb
  | @fails a b' hnext _ =>
      obtain rfl := List.mem_singleton.mp hb
      exact ⟨[], a, rfl, by simp, by simp, hnext⟩
  | @reads a b' l hnext hin _ ih =>
      obtain rfl | hb := List.mem_cons.mp hb
      · omega
      obtain ⟨first, c, rfl, hfirst, hc, hnext'⟩ := ih hb
      refine ⟨b' :: first, c, rfl, ?_, List.mem_cons_of_mem _ hc, hnext'⟩
      intro x hx
      obtain rfl | hx := List.mem_cons.mp hx
      · exact hin
      · exact hfirst x hx

end Goes

/-- Increasing offsets below `N` are at most `N`. -/
theorem length_le_of_increasing {N : ℕ} {l : List (Access UInt16)}
    (hl : l.Pairwise fun a b => a.offset.toNat < b.offset.toNat)
    (hN : ∀ a ∈ l, a.offset.toNat < N) : l.length ≤ N := by
  have hnodup : (l.map fun a => a.offset.toNat).Nodup :=
    (List.pairwise_map.mpr hl).imp fun h => Nat.ne_of_lt h
  have hsub : (l.map fun a => a.offset.toNat) ⊆ List.range N := by
    intro x hx
    obtain ⟨a, ha, rfl⟩ := List.mem_map.mp hx
    exact List.mem_range.mpr (hN a ha)
  simpa using (List.Nodup.subperm hnodup hsub).length_le

/-- Accesses inside the message, each further on than the one before. -/
theorem forward_narrow {N : ℕ} (hN : N < 65536) {l : List (Access ℕ)}
    (hinside : ∀ a ∈ l, 1 ≤ a.width ∧ a.stop ≤ N)
    (hincreasing : l.Pairwise fun a b => a.offset < b.offset)
    (hbehind : ∀ a ∈ l, ∀ x n, a.field = .behind x n → a.offset = x + 2 + n.toNat) :
    Forward N (l.map Access.narrow) := by
  have hoffset : ∀ a ∈ l, a.narrow.offset.toNat = a.offset := by
    intro a ha
    have hin := (hinside a ha).2
    unfold Access.stop at hin
    simpa [Access.narrow] using Nat.mod_eq_of_lt (by omega : a.offset < 65536)
  have hall : ∀ b ∈ l.map Access.narrow, b.offset.toNat + b.width ≤ N ∧ 1 ≤ b.width := by
    intro b hb
    obtain ⟨a, ha, rfl⟩ := List.mem_map.mp hb
    rw [hoffset a ha]
    exact ⟨(hinside a ha).2, (hinside a ha).1⟩
  have hpairs : (l.map Access.narrow).Pairwise fun a b => a.offset.toNat < b.offset.toNat := by
    rw [List.pairwise_map]
    refine hincreasing.imp_of_mem ?_
    intro a b ha hb hab
    rwa [hoffset a ha, hoffset b hb]
  refine ⟨fun b hb => (hall b hb).1, hpairs, ?_, ?_⟩
  · intro b hb p n hfield
    obtain ⟨a, ha, rfl⟩ := List.mem_map.mp hb
    cases ha' : a.field with
    | begins => simp [Access.narrow, ha', Field.narrow] at hfield
    | other => simp [Access.narrow, ha', Field.narrow] at hfield
    | behind x n' =>
        have hin := (hinside a ha)
        have hsum := hbehind a ha x n' ha'
        simp only [Access.narrow, ha', Field.narrow, Field.behind.injEq] at hfield
        obtain ⟨rfl, rfl⟩ := hfield
        unfold Access.stop at hin
        have hx : (UInt16.ofNat x).toNat = x := by
          simpa using Nat.mod_eq_of_lt (by omega : x < 65536)
        omega
  · refine length_le_of_increasing hpairs ?_
    intro b hb
    have hin := hall b hb
    omega

section Message

variable {packet : View} {d : Bytes}

/-- An access succeeds by the 16-bit sum of its offset and width. -/
theorem isSome_narrow (hd : ShowsBytes packet d) (a : Access ℕ) :
    (packet.read a.narrow.offset (UInt16.ofNat a.narrow.width)).isSome ↔
      a.stop % 65536 ≤ d.length := by
  rw [hd.isSome]
  have hsum : (a.narrow.offset + UInt16.ofNat a.narrow.width).toNat = a.stop % 65536 := by
    have hadd : a.narrow.offset + UInt16.ofNat a.narrow.width = UInt16.ofNat a.stop :=
      (UInt16.ofNat_add a.offset a.width).symm
    rw [hadd]
    simp
  rw [hsum]

/-- A walk in which no access ends beyond 65535 moves forward. -/
theorem forward_of_goes (hd : ShowsBytes packet d) {l : List (Access ℕ)} {a : Access ℕ}
    {first : List (Access ℕ)} (hgoes : Goes d.length a l) (hl : ∀ b ∈ l, b.stop < 65536)
    (hfirst : (first ++ [a]).Pairwise fun a b => a.offset < b.offset)
    (hinside : ∀ b ∈ first ++ [a], b.field = .other ∧ 1 ≤ b.width ∧ b.stop ≤ d.length) :
    Forward d.length (successes packet ((first ++ [a] ++ l).map Access.narrow)) := by
  have hshort := hd.short
  have hall : ∀ b ∈ first ++ [a] ++ l, b.stop < 65536 ∧ 1 ≤ b.width ∧
      ∀ x n, b.field = .behind x n → b.offset = x + 2 + n.toNat := by
    intro b hb
    obtain hb | hb := List.mem_append.mp hb
    · obtain ⟨hfield, hwidth, hin⟩ := hinside b hb
      exact ⟨by omega, hwidth, fun x n h => absurd (hfield.symm.trans h) (by simp)⟩
    · obtain ⟨c, hnext⟩ := hgoes.next b hb
      exact ⟨hl b hb, hnext.width.1, hnext.behind⟩
  have hfilter : successes packet ((first ++ [a] ++ l).map Access.narrow) =
      ((first ++ [a] ++ l).filter fun b => b.stop ≤ d.length).map Access.narrow := by
    unfold successes
    rw [List.filter_map]
    congr 1
    refine List.filter_congr fun b hb => ?_
    have hsome := isSome_narrow hd b
    rw [Nat.mod_eq_of_lt (hall b hb).1] at hsome
    rw [Bool.eq_iff_iff, decide_eq_true_iff]
    exact hsome
  have hpairs : (first ++ [a] ++ l).Pairwise fun a b => a.offset < b.offset := by
    have hrest := List.pairwise_cons.mp hgoes.increasing
    refine List.pairwise_append.mpr ⟨hfirst, hrest.2, ?_⟩
    intro b hb c hc
    have hac := hrest.1 c hc
    obtain hb | hb := List.mem_append.mp hb
    · have hba := (List.pairwise_append.mp hfirst).2.2 b hb a (by simp)
      omega
    · rwa [List.mem_singleton.mp hb]
  rw [hfilter]
  refine forward_narrow hshort ?_ (hpairs.sublist List.filter_sublist) ?_
  · intro b hb
    obtain ⟨hb, hin⟩ := List.mem_filter.mp hb
    exact ⟨(hall b hb).2.1, by simpa using hin⟩
  · intro b hb
    exact (hall b (List.mem_of_mem_filter hb)).2.2

/-- A walk in step with one that wraps does not move forward. -/
theorem not_forward_of_goes (hd : ShowsBytes packet d) (h12 : 12 ≤ d.length)
    {l : List (Access ℕ)} {a : Access ℕ} {first : List (Access ℕ)} {l' : List (Access UInt16)}
    (hgoes : Goes d.length a l) (ha : a.stop ≤ d.length)
    (hleads : l.map Access.narrow <+: l') {b : Access ℕ} (hb : b ∈ l) (hwrap : 65536 ≤ b.stop) :
    ¬ Forward d.length (successes packet ((first ++ [a]).map Access.narrow ++ l')) := by
  intro hforward
  have hshort := hd.short
  obtain ⟨before, c, rfl, hbefore, hc, hnext⟩ := hgoes.last hb (by omega)
  obtain ⟨more, rfl⟩ := hleads
  have hcin : c.stop ≤ d.length := by
    obtain rfl | hc := List.mem_cons.mp hc
    · exact ha
    · exact hbefore c hc
  have hwidth := hnext.width
  have hfurther := hnext.further
  unfold Access.stop at hwrap hcin
  have hcoffset : c.narrow.offset.toNat = c.offset := by
    simpa [Access.narrow] using Nat.mod_eq_of_lt (by omega : c.offset < 65536)
  have hboffset : b.narrow.offset.toNat = b.offset % 65536 := by simp [Access.narrow]
  have hnear : b.offset ≤ c.offset + 300 ∨
      ∃ n, b.field = .behind c.offset n ∧ c.width = 2 ∧ b.width = 1 ∧
        b.offset = c.offset + 2 + n.toNat := by
    obtain hnear | ⟨n, hfield, hc2, hb1⟩ := hnext.near
    · exact .inl hnear
    · exact .inr ⟨n, hfield, hc2, hb1, hnext.behind _ _ hfield⟩
  -- both accesses succeed, one after the other
  have hbsome : (packet.read b.narrow.offset (UInt16.ofNat b.narrow.width)).isSome := by
    rw [isSome_narrow hd, Access.stop]
    obtain hnear | ⟨n, -, hc2, hb1, hsum⟩ := hnear
    · omega
    · have hn := n.toNat_lt
      omega
  have hcsome : (packet.read c.narrow.offset (UInt16.ofNat c.narrow.width)).isSome := by
    rw [isSome_narrow hd, Access.stop, Nat.mod_eq_of_lt (by omega)]
    exact hcin
  have hsplit : (first ++ [a]).map Access.narrow ++ ((before ++ [b]).map Access.narrow ++ more) =
      ((first ++ [a]).map Access.narrow ++ before.map Access.narrow) ++ (b.narrow :: more) := by
    simp
  have hsuccesses := hforward
  rw [hsplit, successes, List.filter_append, List.filter_cons_of_pos (by simpa using hbsome)]
    at hsuccesses
  have hmemb : b.narrow ∈ (((first ++ [a]).map Access.narrow ++ before.map Access.narrow).filter
      fun a => (packet.read a.offset (UInt16.ofNat a.width)).isSome) ++ b.narrow ::
        more.filter fun a => (packet.read a.offset (UInt16.ofNat a.width)).isSome := by
    simp
  have hlt : c.narrow.offset.toNat < b.narrow.offset.toNat := by
    refine (List.pairwise_append.mp hsuccesses.increasing).2.2 c.narrow ?_ b.narrow (by simp)
    refine List.mem_filter.mpr ⟨?_, by simpa using hcsome⟩
    obtain rfl | hc := List.mem_cons.mp hc
    · exact List.mem_append_left _ (List.mem_map_of_mem (by simp))
    · exact List.mem_append_right _ (List.mem_map_of_mem hc)
  rw [hcoffset, hboffset] at hlt
  have hin := hsuccesses.inside b.narrow hmemb
  rw [hboffset] at hin
  have hsame : b.narrow.width = b.width := rfl
  rw [hsame] at hin
  obtain hnear | ⟨n, hfield, -, -, hsum⟩ := hnear
  · omega
  · have hends := hsuccesses.ends b.narrow hmemb (UInt16.ofNat c.offset) n
      (by simp [Access.narrow, hfield, Field.narrow])
    have hc' : (UInt16.ofNat c.offset).toNat = c.offset := hcoffset
    omega

end Message

/-- A check that has succeeded. -/
theorem of_guard {P : Prop} [Decidable P] {u : Unit} (h : (guard P : Option Unit) = some u) : P := by
  by_contra hnot
  simp [guard, hnot] at h

/-- A packet that is walked through is not short and comes from a server. -/
theorem walked_some {sourceIP : IPAddr} {packet : View} {dns : DNSHandler} {header : DnsHeader}
    (h : walked sourceIP packet dns = some header) :
    ¬ packet.size < DNS_HEADER_LENGTH ∧ (sourceIP = dns.dnsIP ∨ sourceIP = dns.dnsIPBackup) := by
  unfold walked at h
  cases hmatch : matchResponse sourceIP packet dns with
  | none =>
      rw [hmatch] at h
      cases h
  | some x =>
      simp only [matchResponse, Option.bind_eq_bind, Option.bind_eq_some_iff] at hmatch
      obtain ⟨_, hsize, _, hserver, -⟩ := hmatch
      exact ⟨of_guard hsize, of_guard hserver⟩

/-- However long its names are, the parser moves forward inside the message, just if no access of
the walk with natural numbers ends beyond 65535. -/
theorem forward_iff (sourceIP : IPAddr) (dns : DNSHandler) {b : Buffer} (hb : b.Fits)
    (m : Memory) :
    (∀ rounds, Forward b.size.toNat
        (successes (b.view m) (accesses rounds sourceIP (b.view m) dns))) ↔
      ¬ Wraps sourceIP (b.view m) (b.contents m) dns := by
  have hd := ShowsBytes.of_buffer hb m
  have hlength : (b.contents m).length = b.size.toNat := Region.length_read _ _ _ _
  rw [← hlength]
  by_cases hreject : (b.view m).size < DNS_HEADER_LENGTH ∨
      ¬ (sourceIP = dns.dnsIP ∨ sourceIP = dns.dnsIPBackup)
  · have hnone : ∀ rounds, accesses rounds sourceIP (b.view m) dns = [] := fun rounds =>
      if_pos hreject
    refine iff_of_true (fun rounds => ?_) ?_
    · rw [hnone]
      exact ⟨by simp [successes], .nil, by simp [successes], Nat.zero_le _⟩
    · rintro ⟨header, hwalked, -⟩
      obtain ⟨hsize, hserver⟩ := walked_some hwalked
      exact hreject.elim hsize fun h => h hserver
  have h12 : 12 ≤ (b.contents m).length := by
    have hsize := UInt16.not_lt.mp fun h => hreject (.inl h)
    rw [hlength]
    exact UInt16.le_iff_toNat_le.mp hsize
  -- the accesses to the header, with natural numbers as offsets
  set first : List (Access ℕ) := [0, 2, 4, 6, 8].map fun x => ⟨.other, x, 2⟩ with hfirst
  set last : Access ℕ := ⟨.other, 10, 2⟩ with hlast
  have hheader : ∀ rounds, accesses rounds sourceIP (b.view m) dns =
      (first ++ [last]).map Access.narrow ++ match walked sourceIP (b.view m) dns with
        | none => []
        | some header =>
            ((viewReader (b.view m)).walk rounds header DNS_HEADER_LENGTH).accesses := by
    intro rounds
    rw [accesses, if_neg hreject]
    rfl
  have hincreasing : (first ++ [last]).Pairwise fun a b => a.offset < b.offset := by
    rw [hfirst, hlast]
    decide
  have hinside : ∀ a ∈ first ++ [last],
      a.field = .other ∧ 1 ≤ a.width ∧ a.stop ≤ (b.contents m).length := by
    have hstop : ∀ a ∈ first ++ [last], a.field = .other ∧ 1 ≤ a.width ∧ a.stop ≤ 12 := by
      rw [hfirst, hlast]
      decide
    intro a ha
    obtain ⟨hfield, hwidth, hle⟩ := hstop a ha
    exact ⟨hfield, hwidth, hle.trans h12⟩
  cases hwalked : walked sourceIP (b.view m) dns with
  | none =>
      refine iff_of_true (fun rounds => ?_) ?_
      · have hforward := forward_of_goes hd (.stop (a := last)) (by simp) hincreasing hinside
        rw [hheader, hwalked]
        simpa using hforward
      · rintro ⟨header, hsome, -⟩
        exact absurd (hwalked.symm.trans hsome) (by simp)
  | some header =>
      simp only [hheader, hwalked]
      constructor
      · rintro hall ⟨header', hsome, rounds, c, hc, hwrap⟩
        obtain rfl : header = header' := Option.some.inj (hwalked.symm.trans hsome)
        exact not_forward_of_goes hd h12 (goes_walk rounds header) h12
          (inStep_walk hd rounds header 12).leads hc hwrap (hall rounds)
      · intro hnot rounds
        have hshort : ∀ c ∈ ((bytesReader (b.contents m)).walk rounds header 12).accesses,
            c.stop < 65536 := by
          intro c hc
          by_contra hwrap
          exact hnot ⟨header, hwalked, rounds, c, hc, Nat.not_lt.mp hwrap⟩
        have hsame := ((inStep_walk hd rounds header 12).same hshort).1
        have hforward := forward_of_goes hd (goes_walk rounds header) hshort hincreasing hinside
        rw [List.map_append] at hforward
        rw [show DNS_HEADER_LENGTH = UInt16.ofNat 12 from rfl, hsame]
        exact hforward

/-- A response to the first entry, with an answer whose RDLENGTH is `high`, `low`, and another
answer announced behind it. -/
def exampleLong (high low : UInt8) : Memory := fun _ i =>
  [0, 1, 129, 128, 0, 0, 0, 2, 0, 0, 0, 0, 0, 0, 1, 0, 1, 0, 0, 0, 60, high, low].getD i 0

/-- A handler that has asked for one name. -/
def exampleAsking : DNSHandler := { exampleService.dns with cacheSize := 1 }

/-- Behind an RDLENGTH of 65535 the next answer would begin at 65558. -/
theorem forward_iff_example :
    ¬ ∀ rounds, Forward 23 (successes ((Buffer.memBuffer .receive 23).view (exampleLong 255 255))
      (accesses rounds ⟨10, 0, 0, 2⟩ ((Buffer.memBuffer .receive 23).view (exampleLong 255 255))
        exampleAsking)) := by
  have hfits : (Buffer.memBuffer .receive 23).Fits := trivial
  refine (forward_iff ⟨10, 0, 0, 2⟩ exampleAsking hfits (exampleLong 255 255)).not.mpr
    (not_not.mpr ⟨⟨1, 0x8180, 0, 2, 0, 0⟩, by decide +kernel, 1, ?_⟩)
  exact ⟨⟨.behind 21 65535, 23 + 65535, 1⟩, by decide +kernel, by decide⟩

/-- Behind an RDLENGTH of 65525 the next answer begins where its predecessor did. -/
theorem backward_example :
    ((successes ((Buffer.memBuffer .receive 23).view (exampleLong 255 245))
      (accesses 65536 ⟨10, 0, 0, 2⟩ ((Buffer.memBuffer .receive 23).view (exampleLong 255 245))
        exampleAsking)).filter fun a => a.field ≠ .other) =
          [⟨.begins, 12, 1⟩, ⟨.behind 21 65525, 12, 1⟩] ∧
    ¬ Forward 23 (successes ((Buffer.memBuffer .receive 23).view (exampleLong 255 245))
      (accesses 65536 ⟨10, 0, 0, 2⟩ ((Buffer.memBuffer .receive 23).view (exampleLong 255 245))
        exampleAsking)) := by
  refine ⟨by decide +kernel, fun h => ?_⟩
  have hincreasing := h.increasing
  revert hincreasing
  decide +kernel

end DNSHandler

end AtmegaNet
