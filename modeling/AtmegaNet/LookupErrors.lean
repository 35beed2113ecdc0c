import AtmegaNet.PendingLookups

/-!
# Lookups that cannot be sent

What `resolve` makes of a request that it cannot send, and whether every name that is counted
is still there.

## Main results

* `reported_iff`: a lookup that cannot be sent is reported, and leaves no trace, just if it is not
  for want of room in a datagram.
* `reaches_live`: while no lookup is started whose request does not fit, every counted entry
  holds the name it was created for.
-/

open Procedure Runs Relation

namespace AtmegaNet

namespace DNSHandler

/-! ### One call -/

/-- `resolve` needs a request and cannot send it: it is not built, the cache is full or there is
no memory for the name. -/
def Unsent (s : NameService) (domainName : Bytes) (force allocates : Bool) : Prop :=
  match findName domainName s.dns with
  | some i => (force ∨ (expire s.stack.millis (s.entry i)).status &&& 0xF0 = EXPIRED) ∧
      ¬ (sendDNSRequest domainName (UInt16.ofNat (i + 1)) s.dns.dnsIP).succeeds s.stack
  | none => s.dns.cacheSize ≥ s.dns.cacheCapacity ∨ ¬ allocates ∨
      ¬ (sendDNSRequest domainName (UInt16.ofNat (s.dns.cacheSize.toNat + 1))
        s.dns.dnsIP).succeeds s.stack

/-- What a call of `resolve` should leave of a request that it cannot send: the entry of a cached
name says so, and of another name there is no trace. -/
def Untraced (s : NameService) (domainName : Bytes) (s' : NameService) : Prop :=
  match findName domainName s.dns with
  | some i => (s'.entry i).status = DONE ||| CLIENT_ERROR
  | none => s'.dns.cacheSize = s.dns.cacheSize ∧
      ∀ i < s.dns.cacheSize.toNat, s'.entry i = s.entry i

/-- A lookup that cannot be sent is reported and leaves no trace. -/
def Reported (s : NameService) (domainName : Bytes) (force allocates : Bool) : Prop :=
  Unsent s domainName force allocates →
    (resolve domainName force allocates s).1 = (none, CLIENT_ERROR) ∧
      Untraced s domainName (resolve domainName force allocates s).2

/-- Registering the timer leaves the cache alone. -/
theorem cache_ensureTimer (millisDelay : UInt16) (s : NameService) :
    (ensureTimer millisDelay s).dns.cache = s.dns.cache ∧
      (ensureTimer millisDelay s).dns.cacheSize = s.dns.cacheSize := by
  unfold ensureTimer
  split
  · exact ⟨rfl, rfl⟩
  · exact ⟨rfl, rfl⟩

/-- The entry of a cached name that is asked for again is pending, whether its request fits or
not. -/
theorem requery_pending (domainName : Bytes) (i : ℕ) (s : NameService) :
    ((requery domainName i s).entry i).status = PENDING ||| NO_ERROR := by
  unfold requery
  generalize hs₁ : (s.modifyEntry i fun e => { e with status := PENDING ||| NO_ERROR }) = s₁
  have hpending : (s₁.entry i).status = PENDING ||| NO_ERROR := by
    rw [← hs₁, NameService.entry_modifyEntry_self]
  dsimp only
  split
  case h_1 stack _ =>
    have hentry : ((⟨s₁.dns, stack⟩ : NameService).modifyEntry i fun e => { e with
        time := stack.millis, attempts := 1 }).entry i =
          { s₁.entry i with time := stack.millis, attempts := 1 } :=
      NameService.entry_modifyEntry_self
    rw [NameService.entry, (cache_ensureTimer 1000 _).1]
    exact (congrArg DnsLookup.status hentry).trans hpending
  case h_2 => exact hpending

/-- A new name is counted if there is room and memory for it. It is freed again if its request
does not fit. -/
theorem resolveNew_counted {s : NameService} (hroom : s.dns.cacheSize < s.dns.cacheCapacity)
    (domainName : Bytes) :
    (resolveNew domainName true s).2.dns.cacheSize = s.dns.cacheSize + 1 ∧
      ((resolveNew domainName true s).2.entry s.dns.cacheSize.toNat).domainName = domainName ∧
      (((resolveNew domainName true s).2.entry s.dns.cacheSize.toNat).freed = false ↔
        RequestFits domainName s.stack) := by
  unfold resolveNew
  dsimp only
  rw [if_neg (UInt8.not_le.mpr hroom), if_neg (by simp)]
  generalize hs₁ : s.modifyEntry s.dns.cacheSize.toNat _ = s₁
  have hdnsIP : s₁.dns.dnsIP = s.dns.dnsIP := by rw [← hs₁]; rfl
  have hstack : s₁.stack = s.stack := by rw [← hs₁]; rfl
  have hsize : s₁.dns.cacheSize = s.dns.cacheSize := by rw [← hs₁]; rfl
  have hname : (s₁.entry s.dns.cacheSize.toNat).domainName = domainName := by
    rw [← hs₁, NameService.entry_modifyEntry_self]
  have hlive : (s₁.entry s.dns.cacheSize.toNat).freed = false := by
    rw [← hs₁, NameService.entry_modifyEntry_self]
  rw [hdnsIP, hstack]
  rcases sendDNSRequest_cases domainName (UInt16.ofNat (s.dns.cacheSize.toNat + 1)) s.dns.dnsIP
    s.stack with ⟨hfits, stack, -, hrun⟩ | ⟨hshort, stack, hrun⟩
  · rw [hrun]
    generalize hs₂ : (⟨s₁.dns, stack⟩ : NameService).modifyEntry s.dns.cacheSize.toNat
      (fun e => { e with time := stack.millis }) = s₂
    have htimer := cache_ensureTimer 5000 s₂
    have hentry : (ensureTimer 5000 s₂).entry s.dns.cacheSize.toNat =
        { s₁.entry s.dns.cacheSize.toNat with time := stack.millis } := by
      rw [NameService.entry, htimer.1, ← hs₂]
      exact NameService.entry_modifyEntry_self
    have hsize₂ : (ensureTimer 5000 s₂).dns.cacheSize = s.dns.cacheSize := by
      rw [htimer.2, ← hs₂]
      exact hsize
    subst hs₂
    refine ⟨congrArg (· + 1) hsize₂, ?_, iff_of_true ?_ hfits⟩
    · exact (congrArg DnsLookup.domainName hentry).trans hname
    · exact (congrArg DnsLookup.freed hentry).trans hlive
  · rw [hrun]
    have hentry : (s₁.modifyEntry s.dns.cacheSize.toNat fun e => { e with freed := true }).entry
        s.dns.cacheSize.toNat = { s₁.entry s.dns.cacheSize.toNat with freed := true } :=
      NameService.entry_modifyEntry_self
    refine ⟨congrArg (· + 1) hsize, ?_, iff_of_false (fun hfreed => ?_) hshort⟩
    · exact (congrArg DnsLookup.domainName hentry).trans hname
    · exact absurd ((congrArg DnsLookup.freed hentry).symm.trans hfreed) (by simp)

theorem succ_ne_self (k : UInt8) : k + 1 ≠ k := by
  revert k
  exact forall_uint8 (by decide +kernel)

/-- A lookup that cannot be sent is reported and leaves no trace just if `resolve` does not get as
far as a request that does not fit into a datagram. -/
theorem reported_iff (s : NameService) (domainName : Bytes) (force allocates : Bool) :
    Reported s domainName force allocates ↔
      (Starts s domainName force allocates → RequestFits domainName s.stack) := by
  unfold Reported Unsent Untraced Starts resolve
  cases hfound : findName domainName s.dns with
  | some i =>
    dsimp only
    rw [sendDNSRequest_succeeds]
    constructor
    · intro hreported hstarts
      by_contra hshort
      obtain ⟨hresult, -⟩ := hreported ⟨hstarts, hshort⟩
      have hpending : ((resolveCached domainName force i s).2.entry i).status =
          PENDING ||| NO_ERROR := by
        unfold resolveCached
        dsimp only
        rw [if_pos (by
          rw [checkAndSetExpiration, NameService.entry_modifyEntry_self]
          exact hstarts)]
        exact requery_pending domainName i _
      have herr : (resolveCached domainName force i s).1.2 =
          ((resolveCached domainName force i s).2.entry i).status &&& 0x0F := rfl
      rw [hresult, hpending] at herr
      exact absurd herr (by decide)
    · rintro hfits ⟨hstarts, hshort⟩
      exact absurd (hfits hstarts) hshort
  | none =>
    dsimp only
    rw [sendDNSRequest_succeeds]
    by_cases hstarts : s.dns.cacheSize < s.dns.cacheCapacity ∧ allocates
    · obtain ⟨hroom, rfl⟩ := hstarts
      have hfull : ¬ s.dns.cacheSize ≥ s.dns.cacheCapacity := UInt8.not_le.mpr hroom
      constructor
      · intro hreported _
        by_contra hshort
        obtain ⟨-, hsize, -⟩ := hreported (.inr (.inr hshort))
        exact succ_ne_self _ ((resolveNew_counted hroom domainName).1.symm.trans hsize)
      · rintro hfits (hno | hno | hshort)
        · exact absurd hno hfull
        · exact absurd rfl hno
        · exact absurd (hfits ⟨hroom, rfl⟩) hshort
    · refine iff_of_true (fun _ => ?_) fun h => absurd h hstarts
      unfold resolveNew
      dsimp only
      split
      case isTrue => exact ⟨rfl, rfl, fun _ _ => rfl⟩
      case isFalse hroom =>
        have hroom := UInt8.not_le.mp hroom
        rw [if_pos (by simpa [hroom] using hstarts)]
        exact ⟨rfl, rfl, fun i hi => NameService.entry_modifyEntry_ne (by omega)⟩

/-! ### Runs -/

/-- A DNS handler, and the names its counted entries were created for. -/
structure Ledger where
  service : NameService
  names : List Bytes

namespace Ledger

/-- The entry `i` of the cache. -/
def entry (t : Ledger) (i : ℕ) : DnsLookup := t.service.entry i

/-- A step of the handler; a call of `resolve` after which one entry more is counted has created
it for its name. -/
def run (e : Event) (t : Ledger) : Ledger where
  service := DNSHandler.run e t.service
  names := match e with
    | .resolve domainName _ _ =>
        if (DNSHandler.run e t.service).dns.cacheSize = t.service.dns.cacheSize then t.names
        else t.names ++ [domainName]
    | _ => t.names

/-- Every counted entry holds a live copy of the name it was created for. -/
structure Live (t : Ledger) : Prop where
  length : t.names.length = t.service.dns.cacheSize.toNat
  live : ∀ i < t.names.length, (t.entry i).freed = false
  name : ∀ i < t.names.length, t.names[i]? = some (t.entry i).domainName

end Ledger

/-- The lookup that a call of `resolve` starts, if any, has a request that fits. -/
def Fitting (t : Ledger) : Event → Prop
  | .resolve domainName force allocates =>
      Starts t.service domainName force allocates → RequestFits domainName t.service.stack
  | _ => True

/-- A name that has not been freed is kept. -/
def Owned (e e' : DnsLookup) : Prop :=
  e.freed = false → e'.freed = false ∧ e'.domainName = e.domainName

instance : IsPreorder DnsLookup Owned where
  refl _ h := ⟨h, rfl⟩
  trans e e' e'' h h' hlive := by
    obtain ⟨hlive', hname⟩ := h hlive
    obtain ⟨hlive'', hname'⟩ := h' hlive'
    exact ⟨hlive'', hname'.trans hname⟩

/-- The changes to a counted entry keep its name. -/
theorem owned_touch {counted : Prop} (hcounted : counted) (e e' : DnsLookup)
    (h : Touch counted e e') : Owned e e' := by
  intro hlive
  cases h with
  | refused hbehind => exact absurd hcounted hbehind
  | named _ hbehind => exact absurd hcounted hbehind
  | freed hbehind => exact absurd hcounted hbehind
  | heap _ hfreed => exact absurd (hlive.symm.trans hfreed) (by simp)
  | _ => exact ⟨hlive, rfl⟩

/-- So does a response. -/
theorem owned_receive (now : UInt32) (header : DnsHeader) (packet : View) :
    Proc.Within Owned (receive now header packet) := by
  have hkept : ∀ {e e' : DnsLookup}, e'.freed = e.freed → e'.domainName = e.domainName →
      Owned e e' :=
    fun hfreed hname hlive => ⟨hfreed.trans hlive, hname⟩
  unfold receive
  refine Proc.Within.bind (Proc.within_modify ?_) fun _ => ?_
  · exact fun _ => hkept rfl rfl
  refine .ite Proc.within_fail ?_
  refine Proc.Within.bind (Proc.within_modify ?_) fun _ => ?_
  · exact fun _ => hkept rfl rfl
  refine .ite ?_ ?_
  · exact Proc.within_modify fun _ => hkept rfl rfl
  · refine Proc.Within.bind (Proc.within_query _) fun _ => ?_
    exact within_readAnswers (fun _ _ => hkept rfl rfl) (fun _ _ => hkept rfl rfl) packet _ _

/-- A step keeps the names of the counted entries. -/
theorem owned_run (e : Event) (s : NameService) {i : ℕ} (hi : i < s.dns.cacheSize.toNat) :
    Owned (s.entry i) ((DNSHandler.run e s).entry i) := by
  by_cases hnone : TakesNone s e
  · exact (touches_run hnone i).keeps (owned_touch hi)
  cases e with
  | datagram sourceIP packet =>
      rw [DNSHandler.run, handleDatagram]
      split
      · exact refl_of Owned _
      · exact NameService.entry_modifyEntry (refl_of Owned) (owned_receive _ _ _ _) i
  | _ => exact absurd trivial hnone

/-- Only a call of `resolve` for a new name counts an entry. -/
theorem cacheSize_run (e : Event) (s : NameService) :
    (DNSHandler.run e s).dns.cacheSize = s.dns.cacheSize ∨
      ∃ domainName force, e = .resolve domainName force true ∧
        findName domainName s.dns = none ∧ s.dns.cacheSize < s.dns.cacheCapacity := by
  cases e with
  | resolve domainName force allocates =>
      rw [DNSHandler.run, resolve]
      cases hfound : findName domainName s.dns with
      | some i => exact .inl (touched_resolveCached domainName force i s).cacheSize
      | none =>
          by_cases hroom : s.dns.cacheSize < s.dns.cacheCapacity
          · cases allocates with
            | true => exact .inr ⟨domainName, force, rfl, hfound, hroom⟩
            | false =>
                refine .inl ?_
                dsimp only
                rw [resolveNew]
                dsimp only
                rw [if_neg (UInt8.not_le.mpr hroom), if_pos (by simp)]
                rfl
          · refine .inl ?_
            dsimp only
            rw [resolveNew]
            dsimp only
            rw [if_pos (UInt8.not_lt.mp hroom)]
  | datagram sourceIP packet =>
      refine .inl ?_
      rw [DNSHandler.run, handleDatagram]
      split
      · rfl
      · rfl
  | _ =>
      refine .inl (Touched.cacheSize (touched_run ?_ (by simp)))
      trivial

/-- A step that starts no lookup whose request does not fit keeps the names live. -/
theorem Ledger.Live.run {t : Ledger} (h : t.Live) {e : Event} (he : Fitting t e) :
    (t.run e).Live := by
  have howned : ∀ i < t.names.length, ((t.run e).entry i).freed = false ∧
      ((t.run e).entry i).domainName = (t.entry i).domainName := by
    intro i hi
    exact owned_run e t.service (by rwa [← h.length]) (h.live i hi)
  rcases cacheSize_run e t.service with hsame | ⟨domainName, force, rfl, hfound, hroom⟩
  · have hnames : (t.run e).names = t.names := by
      cases e with
      | resolve => exact if_pos hsame
      | _ => rfl
    refine ⟨?_, fun i hi => ?_, fun i hi => ?_⟩
    · rw [hnames, h.length]
      exact congrArg UInt8.toNat hsame.symm
    · rw [hnames] at hi
      exact (howned i hi).1
    · rw [hnames] at hi ⊢
      rw [(howned i hi).2, h.name i hi]
  · obtain ⟨hsize, hname, hlive⟩ := resolveNew_counted hroom domainName
    have hservice : (t.run (.resolve domainName force true)).service =
        (resolveNew domainName true t.service).2 := by
      show (resolve domainName force true t.service).2 = _
      rw [resolve, hfound]
    have hnames : (t.run (.resolve domainName force true)).names = t.names ++ [domainName] := by
      refine if_neg fun hsame => ?_
      have hcount : (t.run (.resolve domainName force true)).service.dns.cacheSize =
          t.service.dns.cacheSize := hsame
      rw [hservice, hsize] at hcount
      exact succ_ne_self _ hcount
    have hfits : RequestFits domainName t.service.stack := by
      refine he ?_
      rw [Starts, hfound]
      exact ⟨hroom, rfl⟩
    have hnext : (t.service.dns.cacheSize + 1).toNat = t.service.dns.cacheSize.toNat + 1 := by
      have hlt := UInt8.lt_iff_toNat_lt.mp hroom
      have hmax := t.service.dns.cacheCapacity.toNat_lt
      rw [UInt8.toNat_add]
      exact Nat.mod_eq_of_lt (by simp; omega)
    have hlength : (t.names ++ [domainName]).length = t.names.length + 1 := List.length_append
    -- the last entry is the new one
    have hlast : (t.run (.resolve domainName force true)).entry t.names.length =
        (resolveNew domainName true t.service).2.entry t.service.dns.cacheSize.toNat := by
      rw [Ledger.entry, hservice, h.length]
    refine ⟨?_, fun i hi => ?_, fun i hi => ?_⟩
    · rw [hnames, hservice, hsize, hnext, hlength, h.length]
    · rw [hnames, hlength] at hi
      rcases Nat.lt_succ_iff_lt_or_eq.mp hi with hi | rfl
      · exact (howned i hi).1
      · rw [hlast]
        exact hlive.mpr hfits
    · rw [hnames, hlength] at hi
      rw [hnames]
      rcases Nat.lt_succ_iff_lt_or_eq.mp hi with hi | rfl
      · rw [List.getElem?_append_left hi, (howned i hi).2, h.name i hi]
      · rw [List.getElem?_append_right le_rfl, Nat.sub_self, hlast, hname]
        rfl

/-- In every run in which no lookup is started whose request does not fit, every counted entry
holds a live copy of the name it was created for; a call that starts such a lookup for a new name
ends that. Just such lookups are those that are not reported, or leave a trace. -/
theorem reaches_live {t₀ t : Ledger} (hstart : Constructed t₀.service) (hnames : t₀.names = [])
    (hrun : Reaches Fitting Ledger.run t₀ t) :
    t.Live ∧
      (∀ domainName force, findName domainName t.service.dns = none →
        ¬ Fitting t (.resolve domainName force true) →
          ¬ (t.run (.resolve domainName force true)).Live) ∧
      ∀ s domainName force allocates, Reported s domainName force allocates ↔
        (Starts s domainName force allocates → RequestFits domainName s.stack) := by
  have hinit : t₀.Live := by
    obtain ⟨dnsIP, cacheCapacity, dnsIPBackup, found, hnew⟩ := hstart
    refine ⟨?_, fun i hi => ?_, fun i hi => ?_⟩
    · rw [hnames, hnew]
      rfl
    · rw [hnames] at hi
      exact absurd hi (by simp)
    · rw [hnames] at hi
      exact absurd hi (by simp)
  have hlive : t.Live := hrun.invariant hinit fun _ _ h he => h.run he
  refine ⟨hlive, fun domainName force hfound hshort hafter => ?_, reported_iff⟩
  rw [Fitting, Starts, hfound, Classical.not_imp] at hshort
  obtain ⟨⟨hroom, -⟩, hshort⟩ := hshort
  obtain ⟨hsize, -, hfreed⟩ := resolveNew_counted hroom domainName
  have hservice : (t.run (.resolve domainName force true)).service =
      (resolveNew domainName true t.service).2 := by
    show (resolve domainName force true t.service).2 = _
    rw [resolve, hfound]
  have hlength := hafter.length
  rw [hservice, hsize] at hlength
  have hlt : t.service.dns.cacheSize.toNat <
      (t.run (.resolve domainName force true)).names.length := by
    have hlt := UInt8.lt_iff_toNat_lt.mp hroom
    have hmax := t.service.dns.cacheCapacity.toNat_lt
    rw [hlength, UInt8.toNat_add, Nat.mod_eq_of_lt (by simp; omega)]
    simp
  have hkept := hafter.live _ hlt
  rw [Ledger.entry, hservice] at hkept
  exact hshort (hfreed.mp hkept)

/-- The handler of the example, before any name. -/
def exampleLedger : Ledger := ⟨exampleService, []⟩

/-- "a" is held by its entry when it has been asked for. -/
theorem reaches_live_example : (exampleLedger.run (.resolve [97] false true)).Live := by
  have hfits : RequestFits [97] exampleService.stack := by decide +kernel
  have hstep : Reaches Fitting Ledger.run exampleLedger
      (exampleLedger.run (.resolve [97] false true)) :=
    Reaches.refl.step (e := Event.resolve [97] false true) fun _ => hfits
  exact (reaches_live constructed_exampleService rfl hstep).1

/-- A name of 41 characters, whose request needs 59 bytes of the 58 there are. -/
def exampleName : Bytes := List.replicate 41 97

/-- The lookup of the name is reported, but its entry is counted with the name freed; asked for
again by force it is not even reported, and the entry stays pending. -/
theorem unsent_leavesTrace :
    Unsent exampleService exampleName false true ∧
      ¬ Reported exampleService exampleName false true ∧
      ¬ (exampleLedger.run (.resolve exampleName false true)).Live ∧
      (resolve exampleName true true (run (.resolve exampleName false true) exampleService)).1 =
        (none, NO_ERROR) ∧
      ¬ Reported (run (.resolve exampleName false true) exampleService) exampleName true true := by
  have hshort : ¬ RequestFits exampleName exampleService.stack := by decide +kernel
  have hnone : findName exampleName exampleService.dns = none := by decide +kernel
  have hsome : findName exampleName
      (run (.resolve exampleName false true) exampleService).dns = some 0 := by decide +kernel
  have hfreed : ((exampleLedger.run (.resolve exampleName false true)).entry 0).freed = true := by
    decide +kernel
  have hshort' : ¬ RequestFits exampleName
      (run (.resolve exampleName false true) exampleService).stack := by decide +kernel
  refine ⟨?_, fun hreported => ?_, fun hlive => ?_, by decide +kernel, fun hreported => ?_⟩
  · rw [Unsent, hnone]
    refine .inr (.inr ?_)
    rwa [sendDNSRequest_succeeds]
  · refine hshort ((reported_iff _ _ _ _).mp hreported ?_)
    rw [Starts, hnone]
    exact ⟨by decide, rfl⟩
  · have hkept := hlive.live 0 (by decide +kernel)
    exact absurd (hkept.symm.trans hfreed) (by simp)
  · refine hshort' ((reported_iff _ _ _ _).mp hreported ?_)
    rw [Starts, hsome]
    exact .inl rfl

end DNSHandler

end AtmegaNet
