import AtmegaNet.DNSMessage

/-!
# Pending lookups

Which responses a cache takes, and what keeps the timer that repeats the requests of the
lookups that are pending.

## Main results

* `sendDNSRequest_succeeds`: a request is built if it fits into a datagram.
* `reaches_onlyPending`: while accepted responses are for pending entries, a response changes
  pending entries only.
* `reaches_timerKept`: in which steps the handler keeps its timer while a lookup is pending.
-/

open Procedure Runs

namespace AtmegaNet

/-! ### The size of a request -/

namespace DNSHandler

section Request

variable {b : Buffer} (hb : b.Fits)

include hb

/-- A write is followed by the rest if it fits. -/
theorem succeeds_write_bind {β : Type} {start : UInt16} {data : Bytes}
    (h : start.toNat + data.length < 65536) {k : Unit → Proc Memory β} {m : Memory} :
    (b.write start data >>= k).succeeds m ↔ start.toNat + data.length ≤ b.size.toNat ∧
      (k ()).succeeds (Region.write m b.root (b.base + start.toNat) data) := by
  have hlength : (Buffer.lengthOf data).toNat = data.length := Buffer.toNat_lengthOf (by omega)
  have hrun : (b.write start data).run m =
      if b.size.toNat < start.toNat + (Buffer.lengthOf data).toNat then (none, m)
      else (some (), Region.write m b.root (b.base + start.toNat) data) :=
    Buffer.write_of_fits hb m (by omega)
  rw [hlength] at hrun
  by_cases hin : b.size.toNat < start.toNat + data.length
  · rw [if_pos hin] at hrun
    rw [Proc.succeeds, Proc.run_bind_of_none hrun]
    simp only [Option.isSome_none, Bool.false_eq_true, false_iff, not_and]
    exact fun hle => absurd hle (by omega)
  · rw [if_neg hin] at hrun
    rw [Proc.succeeds, Proc.run_bind_of_some hrun]
    exact ⟨fun hrest => ⟨by omega, hrest⟩, And.right⟩

omit hb in
/-- The offset behind the host that is being written. -/
theorem toNat_behind {o : UInt16} {l : UInt8} (h : o.toNat + 1 + l.toNat < 65536) :
    (o + 1 + l.toUInt16).toNat = o.toNat + 1 + l.toNat := by
  simp only [UInt16.toNat_add, UInt8.toNat_toUInt16, UInt16.toNat_one]
  omega

/-- The hosts of a name are as long as the name and a length byte. They are written if they
fit. -/
theorem writeHosts_spec (name : Bytes) {o : UInt16} {l : UInt8} {n : UInt16} {m : Memory}
    (hl : l.toNat + name.length < 256) (ho : o.toNat + 1 + l.toNat + name.length < 65536) :
    (o.toNat + 1 + l.toNat + name.length ≤ b.size.toNat →
      (writeHosts b name o l n).succeeds m) ∧
    ∀ o' l' n' m', (writeHosts b name o l n).run m = (some (o', l', n'), m') →
      o'.toNat + 1 + l'.toNat = o.toNat + 1 + l.toNat + name.length := by
  induction name generalizing o l n m with
  | nil =>
      refine ⟨fun _ => rfl, fun o' l' n' m' h => ?_⟩
      obtain ⟨rfl, rfl, -⟩ : o = o' ∧ l = l' ∧ _ := by
        simpa [writeHosts] using congrArg Prod.fst h
      rfl
  | cons c rest ih =>
      rw [List.length_cons] at hl ho ⊢
      have hbehind := toNat_behind (o := o) (l := l) (by omega)
      have hzero : (0 : UInt8).toNat = 0 := rfl
      rw [writeHosts]
      split
      case isTrue =>
        have hrest := @ih (o + 1 + l.toUInt16) 0 (n + 1)
        rw [hbehind, hzero] at hrest
        refine ⟨fun hin => ?_, fun o' l' n' m' h => ?_⟩
        · rw [Buffer.write8, succeeds_write_bind hb (by simp; omega)]
          exact ⟨by simp; omega, (hrest (by omega) (by omega)).1 (by omega)⟩
        · obtain ⟨_, m₁, -, hrun⟩ := Proc.run_bind_eq_some h
          rw [(hrest (by omega) (by omega)).2 o' l' n' m' hrun]
          omega
      case isFalse =>
        have hnext : (l + 1).toNat = l.toNat + 1 := by
          rw [UInt8.toNat_add]
          exact Nat.mod_eq_of_lt (by simp; omega)
        have hrest := @ih o (l + 1) (n + 1)
        rw [hnext] at hrest
        refine ⟨fun hin => ?_, fun o' l' n' m' h => ?_⟩
        · rw [Buffer.write8, succeeds_write_bind hb (by rw [hbehind]; simp; omega)]
          exact ⟨by rw [hbehind]; simp; omega, (hrest (by omega) (by omega)).1 (by omega)⟩
        · obtain ⟨_, m₁, -, hrun⟩ := Proc.run_bind_eq_some h
          rw [(hrest (by omega) (by omega)).2 o' l' n' m' hrun]
          omega

/-- The header of 12 bytes, the name with two bytes more, and the type and class of 4. -/
theorem writeRequest_succeeds (domainName : Bytes) (hlength : domainName.length ≤ 255)
    (id : UInt16) (m : Memory) :
    (writeRequest b domainName id).succeeds m ↔ domainName.length + 18 ≤ b.size.toNat := by
  have hword : ∀ d : UInt16, (bytesOf16 (HTONS d)).length = 2 := fun _ => rfl
  have hstart : DNS_HEADER_LENGTH.toNat = 12 := rfl
  -- the fixed part of the request behind the name
  have htail : ∀ (o : UInt16) (l : UInt8) (length : UInt16) (m : Memory),
      o.toNat + 1 + l.toNat = 13 + domainName.length →
      ((do
        b.write8 o l
        b.write8 (o + 1 + l.toUInt16) 0
        b.writeNet16 (o + 1 + l.toUInt16 + 1) 1
        b.writeNet16 (o + 1 + l.toUInt16 + 1 + 2) 1
        pure (length + 2 + 4) : Proc Memory UInt16).succeeds m ↔
          domainName.length + 18 ≤ b.size.toNat) := by
    intro o l length m ho
    have hbehind := toNat_behind (o := o) (l := l) (by omega)
    have htype : (o + 1 + l.toUInt16 + 1).toNat = 14 + domainName.length := by
      rw [UInt16.toNat_add, hbehind, ho, UInt16.toNat_one]
      omega
    have hclass : (o + 1 + l.toUInt16 + 1 + 2).toNat = 16 + domainName.length := by
      rw [UInt16.toNat_add, htype, show (2 : UInt16).toNat = 2 from rfl]
      omega
    rw [Buffer.write8, succeeds_write_bind hb (by simp; omega), Buffer.write8,
      succeeds_write_bind hb (by rw [hbehind]; simp; omega), Buffer.writeNet16, Buffer.write16,
      succeeds_write_bind hb (by rw [htype, hword]; omega), Buffer.writeNet16, Buffer.write16,
      succeeds_write_bind hb (by rw [hclass, hword]; omega), hbehind, htype, hclass, hword,
      List.length_singleton, List.length_singleton]
    constructor
    · rintro ⟨-, -, -, hin, -⟩
      omega
    · exact fun hin => ⟨by omega, by omega, by omega, by omega, rfl⟩
  have hhosts : ∀ m, 13 + domainName.length ≤ b.size.toNat →
      (writeHosts b domainName DNS_HEADER_LENGTH 0 DNS_HEADER_LENGTH).succeeds m := by
    intro m hin
    refine (writeHosts_spec hb domainName (by simp; omega) ?_).1 ?_
    · rw [hstart]
      simp
      omega
    · rw [hstart]
      simpa using hin
  have hoffset : ∀ {m o l length m'},
      (writeHosts b domainName DNS_HEADER_LENGTH 0 DNS_HEADER_LENGTH).run m =
        (some (o, l, length), m') → o.toNat + 1 + l.toNat = 13 + domainName.length := by
    intro m o l length m' h
    refine ((writeHosts_spec hb domainName (by simp; omega) ?_).2 o l length m' h).trans ?_
    · rw [hstart]
      simp
      omega
    · rw [hstart]
      simp
  unfold writeRequest
  simp only [Buffer.writeNet16, Buffer.write16]
  rw [succeeds_write_bind hb (by rw [hword]; decide),
    succeeds_write_bind hb (by rw [hword]; decide),
    succeeds_write_bind hb (by rw [hword]; decide),
    succeeds_write_bind hb (by rw [hword]; decide),
    succeeds_write_bind hb (by rw [hword]; decide),
    succeeds_write_bind hb (by rw [hword]; decide), Proc.succeeds_bind]
  simp only [hword]
  constructor
  · rintro ⟨-, -, -, -, -, -, ⟨o, l, length⟩, m', hrun, hrest⟩
    exact (htail o l length m' (hoffset hrun)).mp hrest
  · intro hin
    refine ⟨?_, ?_, ?_, ?_, ?_, ?_, ?_⟩
    rotate_left 6
    · obtain ⟨⟨o, l, length⟩, m', hrun⟩ := Proc.succeeds_iff.mp (hhosts _ (by omega))
      exact ⟨_, _, hrun, (htail o l length _ (hoffset hrun)).mpr hin⟩
    all_goals
      simp
      omega

end Request

/-- A request fits into a datagram. -/
def RequestFits (domainName : Bytes) (h : Stack) : Prop :=
  domainName.length ≤ 255 ∧ domainName.length + 18 ≤ h.udpPayload.size.toNat

instance (domainName : Bytes) (h : Stack) : Decidable (RequestFits domainName h) :=
  inferInstanceAs (Decidable (_ ∧ _))

/-- Sending a request succeeds just if it fits into a datagram. -/
theorem sendDNSRequest_succeeds (domainName : Bytes) (id : UInt16) (dnsServer : IPAddr)
    (h : Stack) :
    (sendDNSRequest domainName id dnsServer).succeeds h ↔ RequestFits domainName h := by
  unfold sendDNSRequest
  rw [Proc.succeeds, Proc.run_read_bind]
  split
  case isTrue hlong => exact iff_of_false (by simp) fun hfits => by have := hfits.1; omega
  case isFalse hlong =>
    split
    case isTrue hshort =>
      refine iff_of_false (by simp) fun hfits => ?_
      have hshort : h.udpPayload.size.toNat < 12 := UInt16.lt_iff_toNat_lt.mp hshort
      have := hfits.2
      omega
    case isFalse =>
      have hwrite := writeRequest_succeeds h.fits_udpPayload domainName (by omega) id h.mem
      refine Iff.trans ?_ (hwrite.trans ⟨fun hin => ⟨by omega, hin⟩, And.right⟩)
      rw [← Proc.succeeds, Proc.succeeds_bind]
      constructor
      · rintro ⟨length, h', hrun, -⟩
        exact congrArg Option.isSome (congrArg Prod.fst hrun)
      · intro hsome
        obtain ⟨length, m', hrun⟩ := Proc.succeeds_iff.mp hsome
        have hzoom : (Stack.onMem (writeRequest h.udpPayload domainName id)).run h =
            (some length, { h with mem := m' }) := by
          rw [Stack.onMem, Proc.run_zoom, hrun]
        exact ⟨length, _, hzoom, rfl⟩

/-! ### Responses to pending entries -/

/-- The first four bits of the status say that the entry waits for a response. -/
def Pending (e : DnsLookup) : Prop := e.status &&& 0xF0 = PENDING

instance (e : DnsLookup) : Decidable (Pending e) := inferInstanceAs (Decidable (_ = _))

/-- What a response may change of an entry has not changed. -/
structure Unanswered (e e' : DnsLookup) : Prop where
  status : e'.status = e.status
  ipAddress : e'.ipAddress = e.ipAddress
  ttl : e'.ttl = e.ttl
  time : e'.time = e.time

/-- An entry that is left alone is not answered. -/
theorem Unanswered.refl (e : DnsLookup) : Unanswered e e := ⟨rfl, rfl, rfl, rfl⟩

/-- A response that is accepted is for an entry that waits for one. -/
def InTurn (s : NameService) : Event → Prop
  | .datagram sourceIP packet => ∀ i header,
      matchResponse sourceIP packet.view s.dns = some (i, header) → Pending (s.entry i)
  | _ => True

/-- A response changes only entries that wait for one. -/
def OnlyPending (s : NameService) : Event → Prop
  | .datagram sourceIP packet => ∀ i, ¬ Pending (s.entry i) →
      Unanswered (s.entry i) ((handleDatagram sourceIP packet.view s).entry i)
  | _ => True

/-- A response in turn changes only entries that wait for one. -/
theorem InTurn.onlyPending {s : NameService} {e : Event} (h : InTurn s e) : OnlyPending s e := by
  cases e with
  | datagram sourceIP packet =>
      intro i hpending
      rcases hmatch : matchResponse sourceIP packet.view s.dns with _ | ⟨j, header⟩
      · rw [handleDatagram, hmatch]
        exact .refl _
      · rw [handleDatagram, hmatch]
        dsimp only
        have hne : i ≠ j := by
          rintro rfl
          exact hpending (h i header hmatch)
        rw [NameService.entry_modifyEntry_ne hne]
        exact .refl _
  | _ => trivial

/-- The reading of the answers leaves the status and the time alone. -/
structure KeepsVerdict (e e' : DnsLookup) : Prop where
  status : e'.status = e.status
  time : e'.time = e.time

instance : IsPreorder DnsLookup KeepsVerdict where
  refl _ := ⟨rfl, rfl⟩
  trans _ _ _ h h' := ⟨h'.status.trans h.status, h'.time.trans h.time⟩

section Answers

variable {R : DnsLookup → DnsLookup → Prop} [IsPreorder DnsLookup R]
  (hip : ∀ e ipAddress, R e { e with ipAddress := ipAddress })

include hip

/-- The reading of an address changes the address. -/
theorem within_readAddress (packet : View) (ptrOffset : UInt16) :
    Proc.Within R (readAddress packet ptrOffset) := by
  have hstep : ∀ {β : Type} (x : Option β) (f : β → DnsLookup → DnsLookup)
      {γ : Type} {k : β → Proc DnsLookup γ}, (∀ a e, R e (f a e)) →
      (∀ a, Proc.Within R (k a)) →
      Proc.Within R (fetch x >>= fun a => Proc.modify (f a) >>= fun _ => k a) :=
    fun x f _ _ hf hk => (Proc.within_query _).bind fun a =>
      (Proc.within_modify (hf a)).bind fun _ => hk a
  unfold readAddress
  refine hstep _ _ (fun _ _ => hip _ _) fun _ => ?_
  refine hstep _ _ (fun _ _ => hip _ _) fun _ => ?_
  refine hstep _ _ (fun _ _ => hip _ _) fun _ => ?_
  exact (Proc.within_query _).bind fun _ => Proc.within_modify fun _ => hip _ _

/-- The reading of the answers changes the address and the time to live. -/
theorem within_readAnswers (httl : ∀ e ttl, R e { e with ttl := ttl }) (packet : View) (n : ℕ)
    (ptrOffset : UInt16) : Proc.Within R (readAnswers packet n ptrOffset) := by
  induction n generalizing ptrOffset with
  | zero => exact Proc.within_pure ()
  | succ n ih =>
      rw [readAnswers]
      refine (Proc.within_query _).bind fun p => (Proc.within_query _).bind fun ttl => ?_
      refine (Proc.within_modify fun _ => httl _ _).bind fun _ => ?_
      refine (Proc.within_query _).bind fun rdlength => ?_
      exact .ite (within_readAddress hip packet _) (ih _)

end Answers

/-- The verdict on an entry that an accepted response is for. -/
theorem receive_verdict (now : UInt32) (header : DnsHeader) (packet : View) (e : DnsLookup) :
    (header.responseCode ≠ NO_ERROR →
      ((receive now header packet).exec e).status = DONE ||| header.responseCode) ∧
    (header.responseCode = NO_ERROR → ((receive now header packet).exec e).time = now ∧
      (((receive now header packet).exec e).status = DONE ||| NO_ERROR ∨
        ((receive now header packet).exec e).status = DONE ||| SERVER_FAILURE)) := by
  have hrest : ∀ n (e : DnsLookup), KeepsVerdict e
      (((fetch (skipQuestions packet n DNS_HEADER_LENGTH)) >>=
        readAnswers packet header.ancount.toNat).exec e) :=
    fun n => (Proc.within_query _).bind fun _ =>
      within_readAnswers (fun _ _ => ⟨rfl, rfl⟩) (fun _ _ => ⟨rfl, rfl⟩) packet _ _
  unfold receive
  rw [Proc.exec, Proc.run_modify_bind]
  refine ⟨fun hne => by rw [if_pos hne]; rfl, fun hcode => ?_⟩
  rw [if_neg (not_not.mpr hcode), Proc.run_modify_bind, hcode]
  split
  · exact ⟨rfl, .inr rfl⟩
  · have hkeeps := hrest header.qdcount.toNat { e with
      status := DONE ||| NO_ERROR, time := now }
    exact ⟨hkeeps.time, .inl hkeeps.status⟩

/-- In every run in which the accepted responses are for pending entries, responses change
pending entries only. A response that is accepted for another entry changes it, unless it finds
its error there already or comes in the same millisecond. -/
theorem reaches_onlyPending {s₀ s : NameService} (hrun : Reaches InTurn run s₀ s) :
    Reaches OnlyPending run s₀ s ∧ (∀ e, InTurn s e → OnlyPending s e) ∧
      ∀ sourceIP packet i header,
        matchResponse sourceIP packet.view s.dns = some (i, header) → ¬ Pending (s.entry i) →
        (header.responseCode ≠ NO_ERROR → (s.entry i).status ≠ DONE ||| header.responseCode) →
        (header.responseCode = NO_ERROR → (s.entry i).time ≠ s.stack.millis) →
        ¬ OnlyPending s (.datagram sourceIP packet) := by
  refine ⟨hrun.mono fun _ _ he => he.onlyPending, fun _ he => he.onlyPending, ?_⟩
  intro sourceIP packet i header hmatch hpending hstatus htime honly
  have hsame := honly i hpending
  rw [handleDatagram, hmatch] at hsame
  dsimp only at hsame
  rw [NameService.entry_modifyEntry_self] at hsame
  obtain ⟨herror, hsuccess⟩ := receive_verdict s.stack.millis header packet.view (s.entry i)
  by_cases hcode : header.responseCode = NO_ERROR
  · exact htime hcode (hsame.time.symm.trans (hsuccess hcode).1)
  · exact hstatus hcode (hsame.status.symm.trans (herror hcode))

/-- "a" has been asked for. -/
def exampleAsked : NameService := run (.resolve [97] false true) exampleService

/-- The response that answers "a" may change its entry. -/
theorem reaches_onlyPending_example :
    OnlyPending exampleAsked (.datagram ⟨10, 0, 0, 2⟩ exampleResponse) := by
  have hpending : ∀ i header, matchResponse ⟨10, 0, 0, 2⟩ exampleResponse.view exampleAsked.dns =
      some (i, header) → Pending (exampleAsked.entry i) := by
    intro i header h
    have hmatch : matchResponse ⟨10, 0, 0, 2⟩ exampleResponse.view exampleAsked.dns =
        some (0, ⟨1, 0x8180, 1, 1, 0, 0⟩) := by decide +kernel
    obtain ⟨rfl, -⟩ : 0 = i ∧ _ := by simpa using hmatch.symm.trans h
    decide +kernel
  exact (reaches_onlyPending (Reaches.refl.step (e := Event.resolve [97] false true) trivial :
    Reaches InTurn run exampleService exampleAsked)).2.1 _ hpending

/-- "a" has been asked for and answered. -/
def exampleAnswered : NameService := run (.datagram ⟨10, 0, 0, 2⟩ exampleResponse) exampleAsked

/-- An answer 10.0.0.66 that nobody waits for. -/
def exampleForged : Datagram :=
  .ofBytes [0, 1, 129, 128, 0, 1, 0, 1, 0, 0, 0, 0, 1, 97, 0, 0, 1, 0, 1, 192, 12, 0, 1, 0, 1,
    0, 0, 0, 60, 0, 4, 10, 0, 0, 66] (by decide)

/-- A second response overwrites the address of an entry that is resolved. -/
theorem resolved_overwritten :
    Constructed exampleService ∧
      Reaches (fun _ _ => True) run exampleService exampleAnswered ∧
      (exampleAnswered.entry 0).status = DONE ||| NO_ERROR ∧
      (exampleAnswered.entry 0).ipAddress = ⟨10, 0, 0, 7⟩ ∧
      ((run (.datagram ⟨10, 0, 0, 2⟩ exampleForged) exampleAnswered).entry 0).ipAddress =
        ⟨10, 0, 0, 66⟩ ∧
      ¬ OnlyPending exampleAnswered (.datagram ⟨10, 0, 0, 2⟩ exampleForged) := by
  have hasked : Reaches (fun _ _ => True) run exampleService exampleAsked :=
    Reaches.refl.step (e := Event.resolve [97] false true) trivial
  have hbefore : (exampleAnswered.entry 0).ipAddress = ⟨10, 0, 0, 7⟩ := by decide +kernel
  have hafter : ((run (.datagram ⟨10, 0, 0, 2⟩ exampleForged) exampleAnswered).entry 0).ipAddress =
      ⟨10, 0, 0, 66⟩ := by decide +kernel
  refine ⟨constructed_exampleService, hasked.step trivial, by decide +kernel, hbefore, hafter,
    fun honly => ?_⟩
  have hsame := (honly 0 (by decide +kernel)).ipAddress
  rw [hbefore] at hsame
  exact absurd (hafter.symm.trans hsame) (by decide)

/-! ### The timer -/

/-- The handler has its timer while a lookup is pending. -/
def TimerKept (s : NameService) : Prop :=
  ∀ i < s.dns.cacheSize.toNat, (s.entry i).status = PENDING ||| NO_ERROR → s.dns.timer ≠ 0

/-- A lookup that `handleTimer` leaves for the next tick. -/
def Waits (now : UInt32) (e : DnsLookup) : Prop :=
  e.status = PENDING ||| NO_ERROR ∧ ¬ now - e.time > 1000

/-- A lookup that `handleTimer` requests again. -/
def Retries (now : UInt32) (e : DnsLookup) : Prop :=
  e.status = PENDING ||| NO_ERROR ∧ now - e.time > 1000 ∧ ¬ e.attempts ≥ 5

/-- `resolve` starts a lookup: of a name in the cache if it is forced to or the entry has
expired, of another if there is room for it. -/
def Starts (s : NameService) (domainName : Bytes) (force allocates : Bool) : Prop :=
  match findName domainName s.dns with
  | some i => force ∨ (expire s.stack.millis (s.entry i)).status &&& 0xF0 = EXPIRED
  | none => s.dns.cacheSize < s.dns.cacheCapacity ∧ allocates

/-- A step that keeps the timer: at a tick no pending lookup is left for the next one, or one
is requested again; and a lookup whose request does not fit is only started while the timer is
registered anyway. -/
def Timed (s : NameService) : Event → Prop
  | .tick => (∃ i < s.dns.cacheSize.toNat, Waits s.stack.millis (s.entry i)) →
      ∃ i < s.dns.cacheSize.toNat, Retries s.stack.millis (s.entry i)
  | .resolve domainName force allocates =>
      Starts s domainName force allocates → RequestFits domainName s.stack ∨ s.dns.timer ≠ 0
  | _ => True

/-- The timer registry has a free slot, of those that a number of 8 bits can name. -/
def FreeTimer (h : Stack) : Prop :=
  ∃ i < 255, ∃ t, h.etherControl.timerRegistry[i]? = some t ∧ t.handler = none

/-- With a free timer the registration succeeds. -/
theorem registerTimer_ne_zero {h : Stack} (hfree : FreeTimer h) (handler : TimerHandler)
    (millisDelay : UInt16) : (EtherControl.registerTimer handler millisDelay h).1 ≠ 0 := by
  obtain ⟨i, hi, t, ht, hnone⟩ := hfree
  obtain ⟨hlt, rfl⟩ := List.getElem?_eq_some_iff.mp ht
  unfold EtherControl.registerTimer
  split
  case h_1 hall =>
    rw [List.findIdx?_eq_none_iff] at hall
    have hbusy := hall _ (List.getElem_mem hlt)
    rw [hnone] at hbusy
    exact absurd hbusy (by simp)
  case h_2 j hfirst =>
    obtain ⟨hj, -, hbefore⟩ := List.findIdx?_eq_some_iff_getElem.mp hfirst
    have hle : j ≤ i := by
      by_contra hlt
      have hbusy := hbefore i (by omega)
      rw [hnone] at hbusy
      exact absurd hbusy (by simp)
    intro hzero
    have htoNat := congrArg UInt8.toNat hzero
    rw [UInt8.toNat_ofNat_of_lt' (by simp [UInt8.size]; omega)] at htoNat
    exact absurd htoNat (by simp)

/-- Between two stacks the timers and the registered protocols are the same. -/
structure KeepsRegistries (h h' : Stack) : Prop where
  etherControl : h'.etherControl = h.etherControl

instance : IsPreorder Stack KeepsRegistries where
  refl _ := ⟨rfl⟩
  trans _ _ _ h h' := ⟨h'.etherControl.trans h.etherControl⟩

/-- Writing to the buffers keeps the registries. -/
theorem keepsRegistries_onMem {β : Type} (x : Proc Memory β) :
    Proc.Within KeepsRegistries (Stack.onMem x) :=
  fun _ => ⟨rfl⟩

/-- Sending a frame keeps the registries. -/
theorem keepsRegistries_sendFrame (destinationMAC : MACAddr) (protocol payloadLength : UInt16) :
    Proc.Within KeepsRegistries (EtherControl.sendFrame destinationMAC protocol payloadLength) := by
  refine Proc.within_read_bind fun _ => Proc.within_read_bind fun _ => ?_
  refine Proc.Within.ite Proc.within_fail ?_
  refine (keepsRegistries_onMem _).bind fun _ => (keepsRegistries_onMem _).bind fun _ =>
    (keepsRegistries_onMem _).bind fun _ => Proc.within_read_bind fun _ => ?_
  exact Proc.within_modify fun _ => ⟨rfl⟩

/-- Sending a packet keeps the registries. -/
theorem keepsRegistries_sendPacket (destinationIP : IPAddr) (protocol : UInt8)
    (packetPayloadLength : UInt16) :
    Proc.Within KeepsRegistries
      (IPHandler.sendPacket destinationIP protocol packetPayloadLength) := by
  have hwrite : ∀ {β : Type} (x : Proc Memory Unit) {k : Unit → Proc Stack β},
      Proc.Within KeepsRegistries (k ()) →
      Proc.Within KeepsRegistries (Proc.attempt (Stack.onMem x) >>= k) :=
    fun x _ hk => (keepsRegistries_onMem x).attempt.bind fun _ => hk
  refine Proc.within_read_bind fun p => Proc.Within.ite Proc.within_fail ?_
  refine (Proc.within_query _).bind fun _ => Proc.within_read_bind fun _ => ?_
  refine hwrite _ (hwrite _ (hwrite _ (hwrite _ (hwrite _ (hwrite _ (hwrite _ (hwrite _
    (hwrite _ ?_))))))))
  refine Proc.within_read_bind fun _ => hwrite _ (Proc.within_read_bind fun _ => ?_)
  exact (keepsRegistries_sendFrame _ _ _).bind fun _ => Proc.within_modify fun _ => ⟨rfl⟩

/-- Sending a request keeps the registries. -/
theorem keepsRegistries_sendDNSRequest (domainName : Bytes) (id : UInt16) (dnsServer : IPAddr) :
    Proc.Within KeepsRegistries (sendDNSRequest domainName id dnsServer) := by
  refine Proc.within_read_bind fun _ => Proc.Within.ite Proc.within_fail ?_
  refine Proc.Within.ite Proc.within_fail ?_
  refine (keepsRegistries_onMem _).bind fun _ => Proc.Within.attempt ?_
  refine Proc.within_read_bind fun _ => Proc.Within.ite Proc.within_fail ?_
  refine (keepsRegistries_onMem _).bind fun _ => (keepsRegistries_onMem _).bind fun _ =>
    (keepsRegistries_onMem _).bind fun _ => Proc.within_read_bind fun _ => ?_
  exact (keepsRegistries_onMem _).bind fun _ => keepsRegistries_sendPacket _ _ _

/-- With a free timer the handler gets one. -/
theorem ensureTimer_ne_zero {s : NameService} (hfree : FreeTimer s.stack)
    (millisDelay : UInt16) : (ensureTimer millisDelay s).dns.timer ≠ 0 := by
  unfold ensureTimer
  split
  · exact registerTimer_ne_zero hfree _ _
  · assumption

/-- A lookup is started: its entry is pending, and if its request fits there is a timer. -/
structure Started (i : ℕ) (fits : Prop) (s s' : NameService) : Prop where
  timed : fits → s'.dns.timer ≠ 0
  untimed : ¬ fits → s'.dns.timer = s.dns.timer ∧ i < s'.dns.cacheSize.toNat ∧
    (s'.entry i).status = PENDING ||| NO_ERROR

/-- A started lookup keeps the timer if its request fits or there is one. -/
theorem Started.timerKept_iff {i : ℕ} {fits : Prop} {s s' : NameService}
    (h : Started i fits s s') : TimerKept s' ↔ fits ∨ s.dns.timer ≠ 0 := by
  by_cases hfits : fits
  · exact iff_of_true (fun _ _ _ => h.timed hfits) (.inl hfits)
  · obtain ⟨htimer, hi, hpending⟩ := h.untimed hfits
    rw [← htimer]
    exact ⟨fun hkept => .inr (hkept i hi hpending),
      fun hor _ _ _ => hor.resolve_left hfits⟩

/-- The request of a lookup, as the match in `resolve` sees it. -/
theorem sendDNSRequest_cases (domainName : Bytes) (id : UInt16) (dnsServer : IPAddr)
    (h : Stack) :
    (RequestFits domainName h ∧ ∃ h', h'.etherControl = h.etherControl ∧
      (sendDNSRequest domainName id dnsServer).run h = (some (), h')) ∨
    ¬ RequestFits domainName h ∧ ∃ h',
      (sendDNSRequest domainName id dnsServer).run h = (none, h') := by
  have hsucceeds := sendDNSRequest_succeeds domainName id dnsServer h
  have hkeeps := keepsRegistries_sendDNSRequest domainName id dnsServer h
  rcases hrun : (sendDNSRequest domainName id dnsServer).run h with ⟨_ | _, h'⟩
  · refine .inr ⟨fun hfits => ?_, h', rfl⟩
    have hsome := hsucceeds.mpr hfits
    rw [Proc.succeeds, hrun] at hsome
    exact absurd hsome (by simp)
  · rw [hrun] at hkeeps
    refine .inl ⟨hsucceeds.mp ?_, h', hkeeps.etherControl, rfl⟩
    rw [Proc.succeeds, hrun]
    rfl

/-- Whether a timer is free depends on the registry only. -/
theorem FreeTimer.congr {h h' : Stack} (hfree : FreeTimer h)
    (heq : h'.etherControl = h.etherControl) : FreeTimer h' := by
  rw [FreeTimer, heq]
  exact hfree

/-- Asking again for an entry starts a lookup. -/
theorem started_requery {s : NameService} (hfree : FreeTimer s.stack) (domainName : Bytes)
    {i : ℕ} (hi : i < s.dns.cacheSize.toNat) :
    Started i (RequestFits domainName s.stack) s (requery domainName i s) := by
  unfold requery
  dsimp only
  rcases sendDNSRequest_cases domainName (UInt16.ofNat (i + 1)) s.dns.dnsIP s.stack with
    ⟨hfits, stack, hsame, hrun⟩ | ⟨hshort, stack, hrun⟩
  · refine ⟨fun _ => ?_, fun hshort => absurd hfits hshort⟩
    have hrun' : (sendDNSRequest domainName (UInt16.ofNat (i + 1))
        (s.modifyEntry i fun e => { e with status := PENDING ||| NO_ERROR }).dns.dnsIP).run
        (s.modifyEntry i fun e => { e with status := PENDING ||| NO_ERROR }).stack =
          (some (), stack) := hrun
    rw [hrun']
    exact ensureTimer_ne_zero (hfree.congr hsame) 1000
  · refine ⟨fun hfits => absurd hfits hshort, fun _ => ?_⟩
    have hrun' : (sendDNSRequest domainName (UInt16.ofNat (i + 1))
        (s.modifyEntry i fun e => { e with status := PENDING ||| NO_ERROR }).dns.dnsIP).run
        (s.modifyEntry i fun e => { e with status := PENDING ||| NO_ERROR }).stack =
          (none, stack) := hrun
    rw [hrun']
    refine ⟨rfl, hi, ?_⟩
    show ((s.modifyEntry i fun e => { e with status := PENDING ||| NO_ERROR }).entry i).status = _
    rw [NameService.entry_modifyEntry_self]

/-- A new name starts a lookup. -/
theorem started_resolveNew {s : NameService} (hfree : FreeTimer s.stack) (domainName : Bytes)
    (hroom : s.dns.cacheSize < s.dns.cacheCapacity) :
    Started s.dns.cacheSize.toNat (RequestFits domainName s.stack) s
      (resolveNew domainName true s).2 := by
  have hsize : (s.dns.cacheSize + 1).toNat = s.dns.cacheSize.toNat + 1 := by
    have hlt := UInt8.lt_iff_toNat_lt.mp hroom
    have hmax := s.dns.cacheCapacity.toNat_lt
    rw [UInt8.toNat_add]
    exact Nat.mod_eq_of_lt (by simp; omega)
  unfold resolveNew
  dsimp only
  rw [if_neg (UInt8.not_le.mpr hroom), if_neg (by simp)]
  generalize hs₁ : s.modifyEntry s.dns.cacheSize.toNat _ = s₁
  have hdnsIP : s₁.dns.dnsIP = s.dns.dnsIP := by rw [← hs₁]; rfl
  have hstack : s₁.stack = s.stack := by rw [← hs₁]; rfl
  have hcacheSize : s₁.dns.cacheSize = s.dns.cacheSize := by rw [← hs₁]; rfl
  have htimer : s₁.dns.timer = s.dns.timer := by rw [← hs₁]; rfl
  have hpending : (s₁.entry s.dns.cacheSize.toNat).status = NO_ERROR ||| PENDING := by
    rw [← hs₁, NameService.entry_modifyEntry_self]
  rw [hdnsIP, hstack]
  rcases sendDNSRequest_cases domainName (UInt16.ofNat (s.dns.cacheSize.toNat + 1)) s.dns.dnsIP
    s.stack with ⟨hfits, stack, hsame, hrun⟩ | ⟨hshort, stack, hrun⟩
  · rw [hrun]
    exact ⟨fun _ => ensureTimer_ne_zero (hfree.congr hsame) 5000,
      fun hshort => absurd hfits hshort⟩
  · rw [hrun]
    refine ⟨fun hfits => absurd hfits hshort, fun _ => ⟨htimer, ?_, ?_⟩⟩
    · show s.dns.cacheSize.toNat < (s₁.dns.cacheSize + 1).toNat
      rw [hcacheSize, hsize]
      omega
    · have hfreed : ((s₁.modifyEntry s.dns.cacheSize.toNat fun e => { e with
          freed := true }).entry s.dns.cacheSize.toNat).status = NO_ERROR ||| PENDING := by
        rw [NameService.entry_modifyEntry_self]
        exact hpending
      exact hfreed

/-- An entry that is counted and pending was so before, and the timer is the same. -/
structure NoneStarted (s s' : NameService) : Prop where
  timer : s'.dns.timer = s.dns.timer
  cacheSize : s'.dns.cacheSize = s.dns.cacheSize
  entry : ∀ i < s.dns.cacheSize.toNat, (s'.entry i).status = PENDING ||| NO_ERROR →
    (s.entry i).status = PENDING ||| NO_ERROR

instance : IsPreorder NameService NoneStarted where
  refl _ := ⟨rfl, rfl, fun _ _ h => h⟩
  trans s s₁ s₂ h h' := by
    refine ⟨h'.timer.trans h.timer, h'.cacheSize.trans h.cacheSize, fun i hi hpending => ?_⟩
    exact h.entry i hi (h'.entry i (by rwa [h.cacheSize]) hpending)

/-- Where no lookup starts, the timer is kept. -/
theorem NoneStarted.timerKept {s s' : NameService} (h : NoneStarted s s') (hs : TimerKept s) :
    TimerKept s' := by
  intro i hi hpending
  rw [h.cacheSize] at hi
  rw [h.timer]
  exact hs i hi (h.entry i hi hpending)

/-- Changing an entry to anything but PENDING starts no lookup. -/
theorem noneStarted_modifyEntry {s : NameService} {i : ℕ} {f : DnsLookup → DnsLookup}
    (h : (f (s.entry i)).status = PENDING ||| NO_ERROR →
      (s.entry i).status = PENDING ||| NO_ERROR) : NoneStarted s (s.modifyEntry i f) := by
  refine ⟨rfl, rfl, fun j _ => ?_⟩
  exact NameService.entry_modifyEntry
    (R := fun e e' => e'.status = PENDING ||| NO_ERROR → e.status = PENDING ||| NO_ERROR)
    (fun _ h => h) h j

/-- An expiry starts no lookup. -/
theorem noneStarted_checkAndSetExpiration (i : ℕ) (s : NameService) :
    NoneStarted s (checkAndSetExpiration i s) := by
  refine noneStarted_modifyEntry ?_
  unfold expire
  split
  · exact fun h => absurd (show EXPIRED ||| NO_ERROR = PENDING ||| NO_ERROR from h) (by decide)
  · exact id

/-- Printing the cache starts no lookup. -/
theorem noneStarted_printDNSCache (s : NameService) : NoneStarted s (printDNSCache s) := by
  unfold printDNSCache
  induction s.dns.cacheSize.toNat with
  | zero => exact refl_of NoneStarted s
  | succ k ih => exact trans_of NoneStarted ih (noneStarted_checkAndSetExpiration k _)

/-- A response starts no lookup. -/
theorem noneStarted_handleDatagram (sourceIP : IPAddr) (packet : View) (s : NameService) :
    NoneStarted s (handleDatagram sourceIP packet s) := by
  have hdone : ∀ code : UInt8, DONE ||| code ≠ PENDING ||| NO_ERROR :=
    forall_uint8 (by decide +kernel)
  unfold handleDatagram
  split
  · exact refl_of NoneStarted s
  case h_2 i header _ =>
    refine noneStarted_modifyEntry fun hpending => ?_
    obtain ⟨herror, hsuccess⟩ := receive_verdict s.stack.millis header packet (s.entry i)
    by_cases hcode : header.responseCode = NO_ERROR
    · rcases (hsuccess hcode).2 with hstatus | hstatus
      · exact absurd (hstatus.symm.trans hpending) (hdone _)
      · exact absurd (hstatus.symm.trans hpending) (hdone _)
    · exact absurd ((herror hcode).symm.trans hpending) (hdone _)

/-- An entry that is found is in use. -/
theorem findName_lt {domainName : Bytes} {dns : DNSHandler} {i : ℕ}
    (h : findName domainName dns = some i) : i < dns.cacheSize.toNat :=
  List.mem_range.mp (List.mem_of_find?_eq_some h)

/-- The entry behind the counted ones may get any status. -/
theorem noneStarted_uncounted (s : NameService) (status : UInt8) :
    NoneStarted s (s.modifyEntry s.dns.cacheSize.toNat fun e => { e with status := status }) := by
  refine ⟨rfl, rfl, fun i hi hpending => ?_⟩
  rwa [NameService.entry_modifyEntry_ne (by omega)] at hpending

/-- `resolve` keeps the timer just if the lookup it starts, if any, has a request that fits, or
there is a timer. -/
theorem timerKept_resolve {s : NameService} (hs : TimerKept s) (hfree : FreeTimer s.stack)
    (domainName : Bytes) (force allocates : Bool) :
    TimerKept (resolve domainName force allocates s).2 ↔
      (Starts s domainName force allocates →
        RequestFits domainName s.stack ∨ s.dns.timer ≠ 0) := by
  unfold resolve Starts
  cases hfound : findName domainName s.dns with
  | some i =>
    dsimp only
    have hexpired := noneStarted_checkAndSetExpiration i s
    have hentry : (checkAndSetExpiration i s).entry i = expire s.stack.millis (s.entry i) :=
      NameService.entry_modifyEntry_self
    unfold resolveCached
    dsimp only
    rw [hentry]
    split
    case isTrue hstarts =>
      have hi : i < s.dns.cacheSize.toNat := findName_lt hfound
      rw [(started_requery (s := checkAndSetExpiration i s) hfree domainName hi).timerKept_iff]
      exact ⟨fun h _ => h, fun h => h hstarts⟩
    case isFalse hstarts =>
      exact iff_of_true (hexpired.timerKept hs) fun h => absurd h hstarts
  | none =>
    dsimp only
    by_cases hstarts : s.dns.cacheSize < s.dns.cacheCapacity ∧ allocates
    · obtain ⟨hroom, rfl⟩ := hstarts
      rw [(started_resolveNew hfree domainName hroom).timerKept_iff]
      exact ⟨fun h _ => h, fun h => h ⟨hroom, rfl⟩⟩
    · refine iff_of_true ?_ fun h => absurd h hstarts
      unfold resolveNew
      dsimp only
      split
      · exact hs
      case isFalse hroom =>
        have hroom := UInt8.not_le.mp hroom
        rw [if_pos (by simpa [hroom] using hstarts)]
        exact (noneStarted_uncounted s _).timerKept hs

/-- What `handleTimer` does to the entries below `k`, and whether it needs the timer. -/
structure Retried (now : UInt32) (k : ℕ) (s : NameService) (x : Bool × NameService) : Prop where
  timer : x.2.dns.timer = s.dns.timer
  cacheSize : x.2.dns.cacheSize = s.dns.cacheSize
  again : x.1 ↔ ∃ i < k, Retries now (s.entry i)
  pending : ∀ i < k, (x.2.entry i).status = PENDING ||| NO_ERROR ↔
    Waits now (s.entry i) ∨ Retries now (s.entry i)
  rest : ∀ i, k ≤ i → x.2.entry i = s.entry i

/-- One entry is given up, requested again or left alone. -/
theorem retry_spec (now : UInt32) (i : ℕ) (s : NameService) :
    (retry now i s).2.dns.timer = s.dns.timer ∧
      (retry now i s).2.dns.cacheSize = s.dns.cacheSize ∧
      ((retry now i s).1 ↔ Retries now (s.entry i)) ∧
      (((retry now i s).2.entry i).status = PENDING ||| NO_ERROR ↔
        Waits now (s.entry i) ∨ Retries now (s.entry i)) ∧
      ∀ j, j ≠ i → (retry now i s).2.entry j = s.entry j := by
  unfold retry Waits Retries
  split
  case isTrue hdue =>
    obtain ⟨hpending, hlate⟩ := hdue
    split
    case isTrue htries =>
      refine ⟨rfl, rfl, by simp [htries], ?_, fun j hj => NameService.entry_modifyEntry_ne hj⟩
      rw [NameService.entry_modifyEntry_self]
      have hgiven : DONE ||| NO_RESPONSE ≠ PENDING ||| NO_ERROR := by decide
      refine iff_of_false hgiven ?_
      rintro (⟨-, hearly⟩ | ⟨-, -, hfew⟩)
      · exact hearly hlate
      · exact hfew htries
    case isFalse htries =>
      generalize hs₁ : s.modifyEntry i (fun e => { e with
        attempts := e.attempts + 1, time := now }) = s₁
      have hstatus : (s₁.entry i).status = PENDING ||| NO_ERROR := by
        rw [← hs₁, NameService.entry_modifyEntry_self]
        exact hpending
      have hothers : ∀ j, j ≠ i → s₁.entry j = s.entry j := by
        intro j hj
        rw [← hs₁, NameService.entry_modifyEntry_ne hj]
      have htimer : s₁.dns.timer = s.dns.timer := by rw [← hs₁]; rfl
      have hsize : s₁.dns.cacheSize = s.dns.cacheSize := by rw [← hs₁]; rfl
      exact ⟨htimer, hsize, iff_of_true rfl ⟨hpending, hlate, htries⟩,
        iff_of_true hstatus (.inr ⟨hpending, hlate, htries⟩), hothers⟩
  case isFalse hdue =>
    refine ⟨rfl, rfl, iff_of_false (by simp) fun h => hdue ⟨h.1, h.2.1⟩, ?_, fun _ _ => rfl⟩
    constructor
    · exact fun hpending => .inl ⟨hpending, fun hlate => hdue ⟨hpending, hlate⟩⟩
    · rintro (⟨hpending, -⟩ | ⟨hpending, -⟩)
      · exact hpending
      · exact hpending

/-- The pass of the timer has retried the entries up to where it is. -/
theorem retried_retryEntries (now : UInt32) (s : NameService) (k : ℕ) :
    Retried now k s (retryEntries now s k) := by
  induction k with
  | zero => exact ⟨rfl, rfl, by simp [retryEntries], by simp, fun _ _ => rfl⟩
  | succ k ih =>
      obtain ⟨htimer, hsize, hagain, hpending, hothers⟩ :=
        retry_spec now k (retryEntries now s k).2
      have hsucc : retryEntries now s (k + 1) =
          ((retryEntries now s k).1 || (retry now k (retryEntries now s k).2).1,
            (retry now k (retryEntries now s k).2).2) := rfl
      rw [ih.rest k le_rfl] at hagain hpending
      rw [hsucc]
      refine ⟨htimer.trans ih.timer, hsize.trans ih.cacheSize, ?_, fun i hi => ?_, fun i hi => ?_⟩
      · rw [Bool.or_eq_true, ih.again, hagain]
        constructor
        · rintro (⟨i, hi, hretries⟩ | hretries)
          · exact ⟨i, by omega, hretries⟩
          · exact ⟨k, by omega, hretries⟩
        · rintro ⟨i, hi, hretries⟩
          by_cases hik : i = k
          · exact .inr (hik ▸ hretries)
          · exact .inl ⟨i, by omega, hretries⟩
      · by_cases hik : i = k
        · subst hik
          exact hpending
        · rw [hothers i hik]
          exact ih.pending i (by omega)
      · rw [hothers i (by omega)]
        exact ih.rest i (by omega)

/-- A tick keeps the timer just if no lookup waits for the next one, or one is requested
again. -/
theorem timerKept_handleTimer {s : NameService} (htimer : s.dns.timer ≠ 0) :
    TimerKept (handleTimer s) ↔
      ((∃ i < s.dns.cacheSize.toNat, Waits s.stack.millis (s.entry i)) →
        ∃ i < s.dns.cacheSize.toNat, Retries s.stack.millis (s.entry i)) := by
  have hretried := retried_retryEntries s.stack.millis s s.dns.cacheSize.toNat
  unfold handleTimer
  generalize retryEntries s.stack.millis s s.dns.cacheSize.toNat = x at hretried ⊢
  obtain ⟨needTimer, s'⟩ := x
  obtain ⟨hsame, hsize, hagain, hpending, -⟩ := hretried
  dsimp only at hsame hsize hagain hpending ⊢
  by_cases hneed : needTimer = true
  · rw [if_pos hneed]
    refine iff_of_true (fun _ _ _ => ?_) fun _ => hagain.mp hneed
    rwa [hsame]
  · rw [if_neg hneed]
    have hnone := mt hagain.mpr hneed
    constructor
    · rintro hkept ⟨i, hi, hwaits⟩
      have hstatus := (hpending i hi).mpr (.inl hwaits)
      exact absurd rfl (hkept i (by rwa [← hsize] at hi) hstatus)
    · intro hwaits i hi hstatus
      have hi : i < s.dns.cacheSize.toNat := by rwa [← hsize]
      rcases (hpending i hi).mp hstatus with h | h
      · exact absurd (hwaits ⟨i, hi, h⟩) hnone
      · exact absurd ⟨i, hi, h⟩ hnone

/-- A step keeps the timer just if it is `Timed`. -/
theorem timerKept_run {s : NameService} (hs : TimerKept s) {e : Event}
    (hfree : FreeTimer s.stack) : TimerKept (run e s) ↔ Timed s e := by
  cases e with
  | resolve domainName force allocates => exact timerKept_resolve hs hfree _ _ _
  | datagram sourceIP packet =>
      exact iff_of_true ((noneStarted_handleDatagram sourceIP packet.view s).timerKept hs) trivial
  | tick =>
      rw [run]
      by_cases htimer : s.dns.timer = 0
      · rw [if_pos htimer]
        refine iff_of_true hs ?_
        rintro ⟨i, hi, hwaits⟩
        exact absurd htimer (hs i hi hwaits.1)
      · rw [if_neg htimer]
        exact timerKept_handleTimer htimer
  | print => exact iff_of_true ((noneStarted_printDNSCache s).timerKept hs) trivial
  | heap i domainName =>
      refine iff_of_true (NoneStarted.timerKept ?_ hs) trivial
      rw [run]
      split
      · exact noneStarted_modifyEntry id
      · exact refl_of NoneStarted s
  | elsewhere stack => exact iff_of_true hs trivial

/-- In every run whose steps are `Timed` and find a free slot in the timer registry, the
handler has its timer while a lookup is pending; and these are just the steps that keep it. -/
theorem reaches_timerKept {s₀ s : NameService} (hstart : Constructed s₀)
    (hrun : Reaches (fun s e => FreeTimer s.stack ∧ Timed s e) run s₀ s) :
    TimerKept s ∧ ∀ e, FreeTimer s.stack → (TimerKept (run e s) ↔ Timed s e) := by
  have hinit : TimerKept s₀ := by
    obtain ⟨dnsIP, cacheCapacity, dnsIPBackup, found, hnew⟩ := hstart
    intro i hi
    have hsize : s₀.dns.cacheSize = 0 := by rw [hnew]; rfl
    rw [hsize] at hi
    exact absurd hi (by simp)
  have hkept : TimerKept s :=
    hrun.invariant hinit fun _ _ hs he => (timerKept_run hs he.1).mpr he.2
  exact ⟨hkept, fun _ hfree => timerKept_run hkept hfree⟩

/-- The example has a free timer. -/
theorem freeTimer_exampleService : FreeTimer exampleService.stack :=
  ⟨2, by decide, ⟨0, 0, none⟩, by decide +kernel, rfl⟩

/-- The handler has its timer when "a" has been asked for. -/
theorem reaches_timerKept_example : exampleAsked.dns.timer ≠ 0 := by
  have hfits : RequestFits [97] exampleService.stack := by decide +kernel
  have hstep : Reaches (fun s e => FreeTimer s.stack ∧ Timed s e) run exampleService exampleAsked :=
    Reaches.refl.step (e := Event.resolve [97] false true)
      ⟨freeTimer_exampleService, fun _ => .inl hfits⟩
  exact (reaches_timerKept constructed_exampleService hstep).1 0 (by decide +kernel)
    (by decide +kernel)

/-- Time passes until `millis`. -/
def wait (millis : UInt32) (s : NameService) : NameService :=
  run (.elsewhere { s.stack with millis := millis }) s

/-- "a" has been answered, "b" is asked for when the timer has run for 4.6 seconds, and the
timer expires after 5. -/
def exampleUntimed : NameService :=
  run .tick (wait 5001 (run (.resolve [98] false true) (wait 4600 exampleAnswered)))

/-- A tick finds "b" pending, but too young to be asked for again, and drops the timer. -/
theorem tick_dropsTimer :
    Constructed exampleService ∧
      Reaches (fun s _ => FreeTimer s.stack) run exampleService exampleUntimed ∧
      (exampleUntimed.entry 1).status = PENDING ||| NO_ERROR ∧ exampleUntimed.dns.timer = 0 ∧
      ¬ TimerKept exampleUntimed := by
  have hfree : ∀ s : NameService, s.stack.etherControl.timerRegistry[2]? = some ⟨0, 0, none⟩ →
      FreeTimer s.stack := fun s h => ⟨2, by decide, _, h, rfl⟩
  have hasked : Reaches (fun s _ => FreeTimer s.stack) run exampleService exampleAsked :=
    Reaches.refl.step (e := Event.resolve [97] false true) freeTimer_exampleService
  have hanswered : Reaches (fun s _ => FreeTimer s.stack) run exampleService exampleAnswered :=
    hasked.step (hfree _ (by decide +kernel))
  have hlater : Reaches (fun s _ => FreeTimer s.stack) run exampleService
      (wait 4600 exampleAnswered) :=
    hanswered.step (e := Event.elsewhere _) (hfree _ (by decide +kernel))
  have hboth : Reaches (fun s _ => FreeTimer s.stack) run exampleService
      (wait 5001 (run (.resolve [98] false true) (wait 4600 exampleAnswered))) :=
    (hlater.step (e := Event.resolve [98] false true) (hfree _ (by decide +kernel))).step
      (e := Event.elsewhere _) (hfree _ (by decide +kernel))
  have hpending : (exampleUntimed.entry 1).status = PENDING ||| NO_ERROR := by decide +kernel
  have htimer : exampleUntimed.dns.timer = 0 := by decide +kernel
  exact ⟨constructed_exampleService, hboth.step (e := Event.tick) (hfree _ (by decide +kernel)),
    hpending, htimer, fun hkept => hkept 1 (by decide +kernel) hpending htimer⟩

end DNSHandler

end AtmegaNet
