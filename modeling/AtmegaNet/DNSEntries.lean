import Mathlib.Logic.Relation
import AtmegaNet.DNSHandler

/-!
# The entries of the cache

What a DNS handler does to an entry of its cache other than storing a response. The changes are
listed once, as `Touch`; what they all keep, every step keeps.

## Main results

* `touches_run`: every event that has no response accepted does to each entry a sequence of the
  changes listed.
* `Touches.keeps`: a sequence of changes keeps what each of them keeps.
-/

open Procedure Relation

namespace AtmegaNet

namespace DNSHandler

/-! ### Changes -/

/-- A change to an entry that is no response. Some are only made to the entry behind those that
are counted. -/
inductive Touch (counted : Prop) : DnsLookup → DnsLookup → Prop
  | expired {e : DnsLookup} : e.status = DONE ||| NO_ERROR →
      Touch counted e { e with status := EXPIRED ||| NO_ERROR }
  | asked (e : DnsLookup) : Touch counted e { e with status := PENDING ||| NO_ERROR }
  | stamped {e : DnsLookup} (time : UInt32) (attempts : UInt8) :
      e.status = PENDING ||| NO_ERROR →
      Touch counted e { e with time := time, attempts := attempts }
  | givenUp (e : DnsLookup) : Touch counted e { e with status := DONE ||| NO_RESPONSE }
  | refused (e : DnsLookup) : ¬ counted →
      Touch counted e { e with status := DONE ||| CLIENT_ERROR }
  | named (e : DnsLookup) (domainName : Bytes) : ¬ counted → Touch counted e { e with
      status := NO_ERROR ||| PENDING, domainName := domainName, attempts := 1, freed := false }
  | freed (e : DnsLookup) : ¬ counted → Touch counted e { e with freed := true }
  | heap {e : DnsLookup} (domainName : Bytes) : e.freed = true →
      Touch counted e { e with domainName := domainName }

/-- A sequence of changes. -/
abbrev Touches (counted : Prop) : DnsLookup → DnsLookup → Prop := ReflTransGen (Touch counted)

theorem Touches.keeps {R : DnsLookup → DnsLookup → Prop} [IsPreorder DnsLookup R]
    {counted : Prop} (htouch : ∀ e e', Touch counted e e' → R e e') {e e' : DnsLookup}
    (h : Touches counted e e') : R e e' := by
  induction h with
  | refl => exact refl_of R e
  | tail _ hlast ih => exact trans_of R ih (htouch _ _ hlast)

/-- Between two states every entry has been changed by a sequence of changes, and as many
entries are counted. -/
structure Touched (s s' : NameService) : Prop where
  cacheSize : s'.dns.cacheSize = s.dns.cacheSize
  entry : ∀ i, Touches (i < s.dns.cacheSize.toNat) (s.entry i) (s'.entry i)

instance : IsPreorder NameService Touched where
  refl _ := ⟨rfl, fun _ => .refl⟩
  trans s s₁ s₂ h h' := by
    refine ⟨h'.cacheSize.trans h.cacheSize, fun i => (h.entry i).trans ?_⟩
    have hentry := h'.entry i
    rwa [h.cacheSize] at hentry

theorem touched_modifyEntry {s : NameService} {i : ℕ} {f : DnsLookup → DnsLookup}
    (h : Touches (i < s.dns.cacheSize.toNat) (s.entry i) (f (s.entry i))) :
    Touched s (s.modifyEntry i f) := by
  refine ⟨rfl, fun j => ?_⟩
  by_cases hj : j = i
  · subst hj
    rwa [NameService.entry_modifyEntry_self]
  · rw [NameService.entry_modifyEntry_ne hj]

/-- The cache is what counts. -/
theorem Touched.of_cache {s s' : NameService} (hsize : s'.dns.cacheSize = s.dns.cacheSize)
    (hcache : s'.dns.cache = s.dns.cache) : Touched s s' := by
  refine ⟨hsize, fun i => ?_⟩
  have hentry : s'.entry i = s.entry i := congrFun hcache i
  rw [hentry]

/-! ### Functions -/

theorem touched_checkAndSetExpiration (i : ℕ) (s : NameService) :
    Touched s (checkAndSetExpiration i s) := by
  refine touched_modifyEntry ?_
  unfold expire
  split
  case isTrue h => exact .single (.expired h.1)
  case isFalse => exact .refl

theorem touched_ensureTimer (millisDelay : UInt16) (s : NameService) :
    Touched s (ensureTimer millisDelay s) := by
  unfold ensureTimer
  split
  · exact .of_cache rfl rfl
  · exact refl_of Touched s

theorem touched_requery (domainName : Bytes) (i : ℕ) (s : NameService) :
    Touched s (requery domainName i s) := by
  unfold requery
  generalize hs₁ : (s.modifyEntry i fun e => { e with status := PENDING ||| NO_ERROR }) = s₁
  have hasked : Touched s s₁ := by
    rw [← hs₁]
    exact touched_modifyEntry (.single (.asked _))
  have hpending : (s₁.entry i).status = PENDING ||| NO_ERROR := by
    rw [← hs₁, NameService.entry_modifyEntry_self]
  refine trans_of Touched hasked ?_
  dsimp only
  split
  case h_1 stack _ =>
    have hsent : Touched s₁ ⟨s₁.dns, stack⟩ := .of_cache rfl rfl
    have hstamped : Touched ⟨s₁.dns, stack⟩ ((⟨s₁.dns, stack⟩ : NameService).modifyEntry i
        fun e => { e with time := stack.millis, attempts := 1 }) :=
      touched_modifyEntry (.single (.stamped stack.millis 1 hpending))
    exact trans_of Touched hsent (trans_of Touched hstamped (touched_ensureTimer 1000 _))
  case h_2 => exact .of_cache rfl rfl

theorem touched_resolveCached (domainName : Bytes) (force : Bool) (i : ℕ) (s : NameService) :
    Touched s (resolveCached domainName force i s).2 := by
  unfold resolveCached
  dsimp only
  split
  · exact trans_of Touched (touched_checkAndSetExpiration i s) (touched_requery domainName i _)
  · exact touched_checkAndSetExpiration i s

/-- `resolveNew` changes the entry behind the counted ones, which may be counted then. -/
theorem touched_resolveNew (domainName : Bytes) (allocates : Bool) (s : NameService) :
    ∃ s', Touched s s' ∧ (resolveNew domainName allocates s).2.dns.cache = s'.dns.cache := by
  have hbehind : ¬ s.dns.cacheSize.toNat < s.dns.cacheSize.toNat := by omega
  unfold resolveNew
  dsimp only
  split
  · exact ⟨s, refl_of Touched s, rfl⟩
  split
  · exact ⟨_, touched_modifyEntry (.single (.refused _ hbehind)), rfl⟩
  generalize hs₁ : s.modifyEntry s.dns.cacheSize.toNat _ = s₁
  have hnamed : Touched s s₁ := by
    rw [← hs₁]
    exact touched_modifyEntry (.single (.named _ domainName hbehind))
  have hpending : (s₁.entry s.dns.cacheSize.toNat).status = PENDING ||| NO_ERROR := by
    rw [← hs₁, NameService.entry_modifyEntry_self]
    rfl
  split
  case h_1 stack _ =>
    refine ⟨ensureTimer 5000 ((⟨s₁.dns, stack⟩ : NameService).modifyEntry s.dns.cacheSize.toNat
      fun e => { e with time := stack.millis }), ?_, rfl⟩
    have hsent : Touched s₁ ⟨s₁.dns, stack⟩ := .of_cache rfl rfl
    have hstamped : Touched ⟨s₁.dns, stack⟩ ((⟨s₁.dns, stack⟩ : NameService).modifyEntry
        s.dns.cacheSize.toNat fun e => { e with time := stack.millis }) :=
      touched_modifyEntry (.single (.stamped stack.millis _ hpending))
    exact trans_of Touched hnamed
      (trans_of Touched hsent (trans_of Touched hstamped (touched_ensureTimer 5000 _)))
  case h_2 =>
    refine ⟨s₁.modifyEntry s.dns.cacheSize.toNat fun e => { e with freed := true }, ?_, rfl⟩
    refine trans_of Touched hnamed (touched_modifyEntry (.single (.freed _ ?_)))
    rwa [hnamed.cacheSize]

/-- What `resolve` does to each entry. -/
theorem touches_resolve (domainName : Bytes) (force allocates : Bool) (s : NameService) (i : ℕ) :
    Touches (i < s.dns.cacheSize.toNat) (s.entry i)
      ((resolve domainName force allocates s).2.entry i) := by
  unfold resolve
  split
  case h_1 j _ => exact (touched_resolveCached domainName force j s).entry i
  case h_2 =>
    obtain ⟨s', htouched, hcache⟩ := touched_resolveNew domainName allocates s
    have hentry : (resolveNew domainName allocates s).2.entry i = s'.entry i := congrFun hcache i
    rw [hentry]
    exact htouched.entry i

theorem touched_retry (currentTime : UInt32) (i : ℕ) (s : NameService) :
    Touched s (retry currentTime i s).2 := by
  unfold retry
  split
  case isTrue hdue =>
    split
    · have hgiven : Touched s (s.modifyEntry i fun e => { e with
          status := DONE ||| NO_RESPONSE }) :=
        touched_modifyEntry (.single (.givenUp _))
      exact hgiven
    · have hstamped : Touched s (s.modifyEntry i fun e => { e with
          attempts := e.attempts + 1, time := currentTime }) :=
        touched_modifyEntry (.single (.stamped currentTime _ hdue.1))
      refine trans_of Touched hstamped ?_
      exact .of_cache rfl rfl
  case isFalse => exact refl_of Touched s

theorem touched_retryEntries (currentTime : UInt32) (s : NameService) (k : ℕ) :
    Touched s (retryEntries currentTime s k).2 := by
  induction k with
  | zero => exact refl_of Touched s
  | succ k ih => exact trans_of Touched ih (touched_retry currentTime k _)

theorem touched_handleTimer (s : NameService) : Touched s (handleTimer s) := by
  have hretried := touched_retryEntries s.stack.millis s s.dns.cacheSize.toNat
  unfold handleTimer
  dsimp only
  split
  · exact hretried
  · refine trans_of Touched hretried ?_
    exact .of_cache rfl rfl

theorem touched_printDNSCache (s : NameService) : Touched s (printDNSCache s) := by
  unfold printDNSCache
  induction s.dns.cacheSize.toNat with
  | zero => exact refl_of Touched s
  | succ k ih => exact trans_of Touched ih (touched_checkAndSetExpiration k _)

/-! ### Events -/

/-- The event is no response that is accepted. -/
def TakesNone (s : NameService) : Event → Prop
  | .datagram sourceIP packet => matchResponse sourceIP packet.view s.dns = none
  | _ => True

/-- All events but calls of `resolve` leave as many entries counted. -/
theorem touched_run {e : Event} {s : NameService} (h : TakesNone s e)
    (hresolve : ∀ domainName force allocates, e ≠ .resolve domainName force allocates) :
    Touched s (run e s) := by
  cases e with
  | resolve domainName force allocates => exact absurd rfl (hresolve _ _ _)
  | datagram sourceIP packet =>
      have hnone : matchResponse sourceIP packet.view s.dns = none := h
      rw [run, handleDatagram, hnone]
      exact refl_of Touched s
  | tick =>
      rw [run]
      split
      · exact refl_of Touched s
      · exact touched_handleTimer s
  | print => exact touched_printDNSCache s
  | heap i domainName =>
      rw [run]
      split
      case isTrue hfreed => exact touched_modifyEntry (.single (.heap domainName hfreed))
      case isFalse => exact refl_of Touched s
  | elsewhere stack => exact .of_cache rfl rfl

/-- An event that has no response accepted does to each entry a sequence of changes. -/
theorem touches_run {e : Event} {s : NameService} (h : TakesNone s e) (i : ℕ) :
    Touches (i < s.dns.cacheSize.toNat) (s.entry i) ((run e s).entry i) := by
  cases e with
  | resolve domainName force allocates => exact touches_resolve domainName force allocates s i
  | _ => exact (touched_run h (by simp)).entry i

end DNSHandler

end AtmegaNet
