import AtmegaNet.LookupErrors

/-!
# The lifetime of an answer

How long `resolve` returns an answer. The time an answer came is kept in the 32 bits that
`host_millis` shows, and so is the time to live, in milliseconds; the runs here have the time
beside it as a number without a bound.

## Main results

* `expire_iff`: an entry expires when the low 32 bits of the time since its answer are more than
  those of its time to live.
* `resolve_lifetime_iff`: when that is the lifetime that the answer has.
-/

open Procedure Runs Relation

namespace AtmegaNet

namespace DNSHandler

/-! ### The clock -/

/-- The difference of two readings of the clock. -/
theorem toNat_elapsed {start now : ℕ} (h : start ≤ now) :
    (UInt32.ofNat now - UInt32.ofNat start).toNat = (now - start) % 2 ^ 32 := by
  simp only [UInt32.toNat_sub, UInt32.toNat_ofNat']
  omega

/-- A time to live in milliseconds. -/
theorem toNat_limit (ttl : UInt32) : (ttl * 1000).toNat = 1000 * ttl.toNat % 2 ^ 32 := by
  rw [UInt32.toNat_mul, show (1000 : UInt32).toNat = 1000 from rfl, Nat.mul_comm]

/-- The low 32 bits compare as the numbers do: the numbers are in the same turn of a clock of 32
bits, or in different turns and their low bits are in the order of the turns. -/
def Comparable (elapsed limit : ℕ) : Prop :=
  elapsed / 2 ^ 32 = limit / 2 ^ 32 ∨
    (elapsed / 2 ^ 32 < limit / 2 ^ 32 ∧ elapsed % 2 ^ 32 ≤ limit % 2 ^ 32) ∨
    (limit / 2 ^ 32 < elapsed / 2 ^ 32 ∧ limit % 2 ^ 32 < elapsed % 2 ^ 32)

instance (elapsed limit : ℕ) : Decidable (Comparable elapsed limit) :=
  inferInstanceAs (Decidable (_ ∨ _ ∨ _))

theorem comparable_iff (elapsed limit : ℕ) :
    Comparable elapsed limit ↔ (limit < elapsed ↔ limit % 2 ^ 32 < elapsed % 2 ^ 32) := by
  unfold Comparable
  omega

/-! ### Entries and their answers -/

/-- The entry has an address, which may have been found to be too old. -/
def Answered (e : DnsLookup) : Prop :=
  e.status = DONE ||| NO_ERROR ∨ e.status = EXPIRED ||| NO_ERROR

/-- The entry has got no new answer, and if it still has one it is from the same time. -/
def Aged (e e' : DnsLookup) : Prop := Answered e' → Answered e ∧ e'.time = e.time

instance : IsPreorder DnsLookup Aged where
  refl _ h := ⟨h, rfl⟩
  trans e e' e'' h h' hanswered := by
    obtain ⟨hanswered', htime⟩ := h' hanswered
    obtain ⟨hanswered, htime'⟩ := h hanswered'
    exact ⟨hanswered, htime.trans htime'⟩

theorem Aged.of_status {e e' : DnsLookup} {status : UInt8} (h : e'.status = status)
    (hdone : status ≠ DONE ||| NO_ERROR) (hexpired : status ≠ EXPIRED ||| NO_ERROR) :
    Aged e e' := by
  rintro (hstatus | hstatus)
  · exact absurd (h.symm.trans hstatus) hdone
  · exact absurd (h.symm.trans hstatus) hexpired

/-- No change but a response answers an entry. -/
theorem aged_touch {counted : Prop} (e e' : DnsLookup) (h : Touch counted e e') : Aged e e' := by
  cases h with
  | expired hdone => exact fun _ => ⟨.inl hdone, rfl⟩
  | asked => exact .of_status (show _ = PENDING ||| NO_ERROR from rfl) (by decide) (by decide)
  | stamped time attempts hpending =>
      exact .of_status (show _ = PENDING ||| NO_ERROR from hpending) (by decide) (by decide)
  | givenUp => exact .of_status (show _ = DONE ||| NO_RESPONSE from rfl) (by decide) (by decide)
  | refused => exact .of_status (show _ = DONE ||| CLIENT_ERROR from rfl) (by decide) (by decide)
  | named => exact .of_status (show _ = NO_ERROR ||| PENDING from rfl) (by decide) (by decide)
  | freed => exact fun hanswered => ⟨hanswered, rfl⟩
  | heap => exact fun hanswered => ⟨hanswered, rfl⟩

/-- A response that answers an entry gives it the time of the clock. -/
theorem receive_time {now : UInt32} {header : DnsHeader} {packet : View} {e : DnsLookup}
    (h : Answered ((receive now header packet).exec e)) :
    ((receive now header packet).exec e).time = now := by
  have hcodes : ∀ code : UInt8, code < 16 → code ≠ NO_ERROR → DONE ||| code ≠ DONE ||| NO_ERROR ∧
      DONE ||| code ≠ EXPIRED ||| NO_ERROR := forall_uint8 (by decide +kernel)
  obtain ⟨herror, hsuccess⟩ := receive_verdict now header packet e
  by_cases hcode : header.responseCode = NO_ERROR
  · exact (hsuccess hcode).1
  · obtain ⟨hdone, hexpired⟩ := hcodes _ (responseCode_lt header) hcode
    rcases h with h | h
    · exact absurd ((herror hcode).symm.trans h) hdone
    · exact absurd ((herror hcode).symm.trans h) hexpired

/-! ### Runs -/

/-- A DNS handler, the time in milliseconds, and when the last response was accepted for each
entry. -/
structure Clocked where
  service : NameService
  now : ℕ
  received : ℕ → ℕ

namespace Clocked

/-- The handler when `host_millis` shows the low bits of a time. -/
def serviceAt (t : Clocked) (time : ℕ) : NameService :=
  { t.service with stack := { t.service.stack with millis := UInt32.ofNat time } }

/-- A step of the handler at a time. -/
def run (x : ℕ × Event) (t : Clocked) : Clocked where
  service := DNSHandler.run x.2 (t.serviceAt x.1)
  now := x.1
  received := match answered x.2 t.service with
    | some (i, _) => Function.update t.received i x.1
    | none => t.received

/-- The handler keeps the times at which its entries have been answered. -/
def Stamped (t : Clocked) : Prop :=
  ∀ i, Answered (t.service.entry i) →
    (t.service.entry i).time = UInt32.ofNat (t.received i) ∧ t.received i ≤ t.now

end Clocked

/-- The time does not go back. -/
def Timely (t : Clocked) (x : ℕ × Event) : Prop := t.now ≤ x.1

/-- A step keeps the times. -/
theorem Clocked.Stamped.run {t : Clocked} (h : t.Stamped) {x : ℕ × Event} (hx : Timely t x) :
    (t.run x).Stamped := by
  obtain ⟨time, e⟩ := x
  have hlater : t.now ≤ time := hx
  have hkept : ∀ i, Aged ((t.serviceAt time).entry i) ((t.run (time, e)).service.entry i) →
      (t.run (time, e)).received i = t.received i →
      Answered ((t.run (time, e)).service.entry i) →
        ((t.run (time, e)).service.entry i).time = UInt32.ofNat ((t.run (time, e)).received i) ∧
          (t.run (time, e)).received i ≤ (t.run (time, e)).now := by
    intro i haged hreceived hanswered
    obtain ⟨hbefore, htime⟩ := haged hanswered
    obtain ⟨hstamp, hle⟩ := h i hbefore
    rw [hreceived]
    exact ⟨htime.trans hstamp, hle.trans hlater⟩
  by_cases hnone : TakesNone t.service e
  · have hsame : answered e t.service = none := by
      cases e with
      | datagram sourceIP packet => exact Option.map_eq_none_iff.mpr hnone
      | _ => rfl
    have hnone' : TakesNone (t.serviceAt time) e := by
      cases e with
      | datagram sourceIP packet => exact hnone
      | _ => trivial
    intro i hanswered
    refine hkept i ((touches_run hnone' i).keeps aged_touch) ?_ hanswered
    rw [Clocked.run, hsame]
  cases e with
  | datagram sourceIP packet =>
      obtain ⟨⟨j, header⟩, hmatch⟩ := Option.ne_none_iff_exists'.mp hnone
      have hservice : (t.run (time, .datagram sourceIP packet)).service =
          (t.serviceAt time).modifyEntry j
            (receive (UInt32.ofNat time) header packet.view).exec := by
        show handleDatagram sourceIP packet.view (t.serviceAt time) = _
        rw [handleDatagram, show matchResponse sourceIP packet.view (t.serviceAt time).dns =
          some (j, header) from hmatch]
        rfl
      have hreceived : (t.run (time, .datagram sourceIP packet)).received =
          Function.update t.received j time := by
        rw [Clocked.run, answered, hmatch]
        rfl
      intro i hanswered
      by_cases hi : i = j
      · subst hi
        rw [hservice, NameService.entry_modifyEntry_self] at hanswered ⊢
        rw [hreceived, Function.update_self]
        exact ⟨receive_time hanswered, le_rfl⟩
      · refine hkept i ?_ ?_ hanswered
        · rw [hservice, NameService.entry_modifyEntry_ne hi]
          exact refl_of Aged _
        · rw [hreceived, Function.update_of_ne hi]
  | _ => exact absurd trivial hnone

/-! ### The lifetime -/

/-- An entry that has expired. -/
def expiredEntry (e : DnsLookup) : DnsLookup := { e with status := EXPIRED ||| NO_ERROR }

/-- The lifetime an answer should have when `resolve` is called at a time without force: the
address is returned while no more than the time to live has passed, and then the entry is taken
to have expired and is asked for again. -/
structure Lifetime (t : Clocked) (time : ℕ) (domainName : Bytes) (i : ℕ) (allocates : Bool) :
    Prop where
  kept : time - t.received i ≤ 1000 * (t.service.entry i).ttl.toNat →
    (resolve domainName false allocates (t.serviceAt time)).1 =
      (some (t.service.entry i).ipAddress, NO_ERROR)
  expired : 1000 * (t.service.entry i).ttl.toNat < time - t.received i →
    resolve domainName false allocates (t.serviceAt time) = ((none, NO_ERROR),
      requery domainName i ((t.serviceAt time).modifyEntry i expiredEntry))

/-- An entry expires when the low bits of the time that has passed are more than those of its
time to live. -/
theorem expire_iff {e : DnsLookup} (hdone : e.status = DONE ||| NO_ERROR) {start now : ℕ}
    (htime : e.time = UInt32.ofNat start) (hle : start ≤ now) :
    expire (UInt32.ofNat now) e =
      if 1000 * e.ttl.toNat % 2 ^ 32 < (now - start) % 2 ^ 32 then expiredEntry e else e := by
  have hover : UInt32.ofNat now - e.time > e.ttl * 1000 ↔
      1000 * e.ttl.toNat % 2 ^ 32 < (now - start) % 2 ^ 32 := by
    rw [gt_iff_lt, UInt32.lt_iff_toNat_lt, toNat_limit, htime, toNat_elapsed hle]
  unfold expire
  simp only [hdone, hover, true_and]
  rfl

section Call

variable {s : NameService} {domainName : Bytes} {i : ℕ}
  (hfound : findName domainName s.dns = some i) (allocates : Bool)

include hfound

/-- A resolved entry that has not expired is returned. -/
theorem resolve_kept (hdone : (s.entry i).status = DONE ||| NO_ERROR)
    (hkept : expire s.stack.millis (s.entry i) = s.entry i) :
    (resolve domainName false allocates s).1 = (some (s.entry i).ipAddress, NO_ERROR) := by
  have hentry : (checkAndSetExpiration i s).entry i = s.entry i := by
    rw [checkAndSetExpiration, NameService.entry_modifyEntry_self, hkept]
  have hstatus : (s.entry i).status = DONE := hdone
  have hyoung : ¬ ((false : Bool) = true ∨
      ((checkAndSetExpiration i s).entry i).status &&& 0xF0 = EXPIRED) := by
    rw [hentry, hstatus]
    decide
  rw [resolve, hfound]
  unfold resolveCached
  dsimp only
  rw [if_neg hyoung, hentry, if_pos hstatus, hstatus]
  rfl

/-- An entry that has expired is asked for again. -/
theorem resolve_expired (hexpired : expire s.stack.millis (s.entry i) = expiredEntry (s.entry i)) :
    resolve domainName false allocates s =
      ((none, NO_ERROR), requery domainName i (s.modifyEntry i expiredEntry)) := by
  have hcheck : checkAndSetExpiration i s = s.modifyEntry i expiredEntry := by
    rw [checkAndSetExpiration, NameService.modifyEntry, NameService.modifyEntry]
    exact congrArg (fun e => { s with dns := { s.dns with
      cache := Function.update s.dns.cache i e } }) hexpired
  have hold : (false : Bool) = true ∨
      ((s.modifyEntry i expiredEntry).entry i).status &&& 0xF0 = EXPIRED := by
    have hstatus : (expiredEntry (s.entry i)).status = EXPIRED ||| NO_ERROR := rfl
    rw [NameService.entry_modifyEntry_self, hstatus]
    decide
  have hpending := requery_pending domainName i (s.modifyEntry i expiredEntry)
  have hasked : PENDING ||| NO_ERROR ≠ DONE := by decide
  rw [resolve, hfound]
  unfold resolveCached
  dsimp only
  rw [hcheck, if_pos hold, hpending, if_neg hasked]
  rfl

end Call

/-- In every run, and at every time after it, `resolve` gives a resolved entry its lifetime just
if the time since its answer and its time to live compare as their low 32 bits in milliseconds
do; and an entry that has already been found to be too old just if it is. -/
theorem resolve_lifetime_iff {t₀ t : Clocked} (hstart : Constructed t₀.service)
    (hrun : Reaches Timely Clocked.run t₀ t) {time : ℕ} (htime : t.now ≤ time)
    {domainName : Bytes} {i : ℕ} (hfound : findName domainName t.service.dns = some i)
    (hanswered : Answered (t.service.entry i)) (allocates : Bool) :
    Lifetime t time domainName i allocates ↔
      ((t.service.entry i).status = DONE ||| NO_ERROR →
        Comparable (time - t.received i) (1000 * (t.service.entry i).ttl.toNat)) ∧
      ((t.service.entry i).status = EXPIRED ||| NO_ERROR →
        1000 * (t.service.entry i).ttl.toNat < time - t.received i) := by
  have hinit : t₀.Stamped := by
    obtain ⟨dnsIP, cacheCapacity, dnsIPBackup, found, hnew⟩ := hstart
    intro i hanswered
    have hstatus : (t₀.service.entry i).status = INIT ||| NO_ERROR := by
      rw [NameService.entry, hnew]
      rfl
    rcases hanswered with h | h
    · exact absurd (hstatus.symm.trans h) (by decide)
    · exact absurd (hstatus.symm.trans h) (by decide)
  have hstamped : t.Stamped := hrun.invariant hinit fun _ _ h hx => h.run hx
  obtain ⟨hstamp, hreceived⟩ := hstamped i hanswered
  have hle : t.received i ≤ time := hreceived.trans htime
  have hfound' : findName domainName (t.serviceAt time).dns = some i := hfound
  have hne : DONE ||| NO_ERROR ≠ EXPIRED ||| NO_ERROR := by decide
  -- an entry that is asked for again, and one that is returned
  have hagain : expire (UInt32.ofNat time) (t.service.entry i) =
      expiredEntry (t.service.entry i) → (Lifetime t time domainName i allocates ↔
        1000 * (t.service.entry i).ttl.toNat < time - t.received i) := by
    intro hexpired
    have hresult := resolve_expired hfound' allocates hexpired
    refine ⟨fun h => ?_, fun hlate => ⟨fun hearly => absurd hearly (by omega), fun _ => hresult⟩⟩
    by_contra hearly
    have hkept := h.kept (by omega)
    rw [hresult] at hkept
    exact absurd (congrArg Prod.fst hkept) (by simp)
  have hreturned : (t.service.entry i).status = DONE ||| NO_ERROR →
      expire (UInt32.ofNat time) (t.service.entry i) = t.service.entry i →
        (Lifetime t time domainName i allocates ↔
          ¬ 1000 * (t.service.entry i).ttl.toNat < time - t.received i) := by
    intro hdone hkept
    have hresult := resolve_kept hfound' allocates hdone hkept
    refine ⟨fun h hlate => ?_, fun hearly => ⟨fun _ => hresult, fun hlate => absurd hlate hearly⟩⟩
    have hexpired := congrArg Prod.fst (h.expired hlate)
    rw [hresult] at hexpired
    exact absurd (congrArg Prod.fst hexpired) (by simp)
  rcases hanswered with hdone | hexpired
  · have hexpire := expire_iff hdone hstamp hle
    have hclosed : ¬ (t.service.entry i).status = EXPIRED ||| NO_ERROR := by
      rw [hdone]
      exact hne
    refine Iff.trans ?_ ⟨fun h => ⟨fun _ => h, fun h' => absurd h' hclosed⟩, fun h => h.1 hdone⟩
    rw [comparable_iff]
    by_cases hlow : 1000 * (t.service.entry i).ttl.toNat % 2 ^ 32 < (time - t.received i) % 2 ^ 32
    · rw [if_pos hlow] at hexpire
      rw [hagain hexpire]
      exact ⟨fun h => iff_of_true h hlow, fun h => h.mpr hlow⟩
    · rw [if_neg hlow] at hexpire
      rw [hreturned hdone hexpire]
      exact ⟨fun h => iff_of_false h hlow, fun h => mt h.mp hlow⟩
  · have hclosed : ¬ (t.service.entry i).status = DONE ||| NO_ERROR := by
      rw [hexpired]
      exact hne.symm
    refine Iff.trans (hagain ?_)
      ⟨fun h => ⟨fun h' => absurd h' hclosed, fun _ => h⟩, fun h => h.2 hexpired⟩
    unfold expire
    rw [if_neg (by rintro ⟨h, -⟩; exact hclosed h), expiredEntry, ← hexpired]

/-! ### An example -/

/-- "a" has been asked for at the start and the response has come 20 ms later. -/
def exampleClocked (packet : Datagram) : Clocked :=
  Clocked.run (20, .datagram ⟨10, 0, 0, 2⟩ packet)
    (Clocked.run (0, .resolve [97] false true) ⟨exampleService, 0, fun _ => 0⟩)

theorem reaches_exampleClocked (packet : Datagram) :
    Reaches Timely Clocked.run ⟨exampleService, 0, fun _ => 0⟩ (exampleClocked packet) :=
  (Reaches.refl.step (e := (0, Event.resolve [97] false true)) (Nat.le_refl 0)).step
    (Nat.zero_le 20)

/-- An answer with a time to live of 60 seconds is returned after one second. -/
theorem resolve_lifetime_example :
    Lifetime (exampleClocked exampleResponse) 1020 [97] 0 true := by
  have hdone : ((exampleClocked exampleResponse).service.entry 0).status = DONE ||| NO_ERROR := by
    decide +kernel
  have hexpired : ((exampleClocked exampleResponse).service.entry 0).status ≠
      EXPIRED ||| NO_ERROR := by
    decide +kernel
  refine (resolve_lifetime_iff constructed_exampleService (reaches_exampleClocked exampleResponse)
    (by decide) (by decide +kernel) (.inl hdone) true).mpr
      ⟨fun _ => ?_, fun h => absurd h hexpired⟩
  decide +kernel

/-- The answer 10.0.0.7 with a time to live of 4294968 seconds. -/
def exampleLongLived : Datagram :=
  .ofBytes [0, 1, 129, 128, 0, 1, 0, 1, 0, 0, 0, 0, 1, 97, 0, 0, 1, 0, 1, 192, 12, 0, 1, 0, 1,
    0, 65, 137, 56, 0, 4, 10, 0, 0, 7] (by decide)

/-- An answer with a time to live of some fifty days is asked for again after one second. -/
theorem longLived_expires :
    Reaches Timely Clocked.run ⟨exampleService, 0, fun _ => 0⟩ (exampleClocked exampleLongLived) ∧
      findName [97] (exampleClocked exampleLongLived).service.dns = some 0 ∧
      ((exampleClocked exampleLongLived).service.entry 0).status = DONE ||| NO_ERROR ∧
      ((exampleClocked exampleLongLived).service.entry 0).ttl = 4294968 ∧
      (exampleClocked exampleLongLived).received 0 = 20 ∧
      (resolve [97] false true ((exampleClocked exampleLongLived).serviceAt 1020)).1 =
        (none, NO_ERROR) ∧
      ¬ Lifetime (exampleClocked exampleLongLived) 1020 [97] 0 true := by
  have hreceived : (exampleClocked exampleLongLived).received 0 = 20 := by decide +kernel
  have httl : ((exampleClocked exampleLongLived).service.entry 0).ttl = 4294968 := by
    decide +kernel
  have hnone : (resolve [97] false true ((exampleClocked exampleLongLived).serviceAt 1020)).1 =
      (none, NO_ERROR) := by
    decide +kernel
  refine ⟨reaches_exampleClocked exampleLongLived, by decide +kernel, by decide +kernel, httl,
    hreceived, hnone, fun h => ?_⟩
  have hkept := h.kept (by rw [hreceived, httl]; decide)
  rw [hnone] at hkept
  exact absurd (congrArg Prod.fst hkept) (by simp)

end DNSHandler

end AtmegaNet
