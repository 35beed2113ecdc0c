import AtmegaNet.Lib.Runs
import AtmegaNet.ARPHandler

/-!
# The routing table over whole runs

Requests, payloads and timer ticks change the routing table in the four ways of
`ARPHandler.TableStep`. The invariants of the table are proved against these, and then hold
in every state of every run of the handler, whatever the rest of the host does in between.

## Main results

* `ARPHandler.TableStep.tidy`, `ARPHandler.TableStep.keeps`: what one change preserves.
* `ARPHandler.reaches_tableInvariant`: addresses are distinct, attempts are counted up to five,
  the timer runs while a lookup does, and a resolved entry stays.
* `ARPHandler.storesOnlyAsked_iff`: when a payload changes only entries that were asked for.
-/

open Procedure Runs

namespace AtmegaNet

/-- The address 0.0.0.0, which entries not in use have. -/
def zeroIP : IPAddr := ⟨0, 0, 0, 0⟩

namespace ARPHandler

/-! ### The ways the table changes -/

/-- One operation's effect on the table. -/
inductive TableStep (t : List EtherRoute) : List EtherRoute → Prop
  | same : TableStep t t
  | ask {i : ℕ} {r : EtherRoute} (remoteIP : IPAddr) (now : UInt32)
      (h : Takes remoteIP t i r) : TableStep t (t.set i (r.ask remoteIP now))
  | learn (ip : IPAddr) (mac : MACAddr) : TableStep t (learn ip mac t)
  | tick (now : UInt32) : TableStep t (t.map (·.tick now))

/-- `learn` changes nothing, or the first entry of the address. -/
theorem learn_cases (ip : IPAddr) (mac : MACAddr) (t : List EtherRoute) :
    learn ip mac t = t ∧ (∀ r ∈ t, r.ipAddress ≠ ip) ∨
      ∃ i r, t[i]? = some r ∧ r.ipAddress = ip ∧ learn ip mac t = t.set i (r.answer mac) := by
  induction t with
  | nil => exact .inl ⟨rfl, by simp⟩
  | cons r t ih =>
      rw [learn]
      by_cases hip : ip = r.ipAddress
      · rw [if_pos hip]
        exact .inr ⟨0, r, rfl, hip.symm, rfl⟩
      · rw [if_neg hip]
        rcases ih with ⟨hsame, hnone⟩ | ⟨i, s, hs, hs', hlearn⟩
        · refine .inl ⟨by rw [hsame], ?_⟩
          rintro s (_ | ⟨_, hs⟩)
          · exact fun h => hip h.symm
          · exact hnone s hs
        · exact .inr ⟨i + 1, s, hs, hs', by rw [hlearn]; rfl⟩

/-- Reading an entry of a table in which one entry was overwritten. -/
theorem getElem?_set_eq_some {t : List EtherRoute} {i j : ℕ} {r r' s : EtherRoute}
    (hr : t[i]? = some r) (hs : (t.set i r')[j]? = some s) :
    i = j ∧ s = r' ∨ i ≠ j ∧ t[j]? = some s := by
  obtain ⟨hi, -⟩ := List.getElem?_eq_some_iff.mp hr
  by_cases hij : i = j
  · subst hij
    rw [List.getElem?_set_self hi, Option.some.injEq] at hs
    exact .inl ⟨rfl, hs.symm⟩
  · rw [List.getElem?_set_ne hij] at hs
    exact .inr ⟨hij, hs⟩

/-- Entries in use have distinct addresses, the address 0.0.0.0 apart; a lookup has at most
five attempts; an entry not in use is all zero. -/
structure Tidy (t : List EtherRoute) : Prop where
  distinct : ∀ (i j : ℕ) (r s : EtherRoute), t[i]? = some r → t[j]? = some s → r.ipAddress = s.ipAddress →
    r.ipAddress ≠ zeroIP → i = j
  attempts : ∀ r ∈ t, ¬ r.resolved → r.attemptCount ≤ 5 ∧ (r.attemptCount = 0 → r = .zero)

/-- An empty table is tidy. -/
theorem tidy_replicate (n : ℕ) : Tidy (List.replicate n EtherRoute.zero) := by
  constructor
  · intro i j r s hr _ _ hne
    have hzero := List.eq_of_mem_replicate (List.mem_of_getElem? hr)
    exact absurd (by rw [hzero]; rfl) hne
  · intro r hr _
    rw [List.eq_of_mem_replicate hr]
    exact ⟨by decide, fun _ => rfl⟩

/-- In a tidy table an unused entry is all zeros. -/
theorem Tidy.eq_zero {t : List EtherRoute} (h : Tidy t) {r : EtherRoute} (hr : r ∈ t)
    (hun : r.Unused) : r = .zero :=
  (h.attempts r hr hun.1).2 hun.2

/-- Overwriting an entry keeps the table tidy, if the new entry is tidy itself and does not
take the address of another. -/
theorem Tidy.set {t : List EtherRoute} (h : Tidy t) {i : ℕ} {r r' : EtherRoute}
    (hr : t[i]? = some r)
    (hfree : ∀ j s, t[j]? = some s → s.ipAddress = r'.ipAddress → r'.ipAddress ≠ zeroIP → i = j)
    (htidy : ¬ r'.resolved → r'.attemptCount ≤ 5 ∧ (r'.attemptCount = 0 → r' = .zero)) :
    Tidy (t.set i r') := by
  constructor
  · intro j k s u hs hu hip hne
    rcases getElem?_set_eq_some hr hs with ⟨rfl, rfl⟩ | ⟨hij, hs'⟩
    · rcases getElem?_set_eq_some hr hu with ⟨hik, -⟩ | ⟨-, hu'⟩
      · exact hik
      · exact hfree k u hu' hip.symm hne
    · rcases getElem?_set_eq_some hr hu with ⟨rfl, rfl⟩ | ⟨-, hu'⟩
      · exact (hfree j s hs' hip (hip ▸ hne)).symm
      · exact h.distinct j k s u hs' hu' hip hne
  · intro s hs
    rcases List.mem_or_eq_of_mem_set hs with hs | rfl
    · exact h.attempts s hs
    · exact htidy

/-- A tick makes no sixth attempt, and clears the entry it gives up. -/
theorem attempts_tick {now : UInt32} {r : EtherRoute}
    (h : ¬ r.resolved → r.attemptCount ≤ 5 ∧ (r.attemptCount = 0 → r = .zero))
    (hres : ¬ (r.tick now).resolved) :
    (r.tick now).attemptCount ≤ 5 ∧ ((r.tick now).attemptCount = 0 → r.tick now = .zero) := by
  rcases r.tick_cases now with heq | ⟨hactive, ⟨-, heq⟩ | ⟨hlt, heq⟩⟩
  · rw [heq] at hres ⊢
    exact h hres
  · rw [heq]
    exact ⟨by decide, fun _ => rfl⟩
  · have hpos := (EtherRoute.active_iff.mp hactive).1
    rw [heq, EtherRoute.attemptCount_eq]
    dsimp only
    have hcount : ∀ s : UInt8, 0 < s → s < 5 →
        (s + 1).toUInt16 ≤ 5 ∧ (s + 1).toUInt16 ≠ 0 := forall_uint8 (by decide +kernel)
    obtain ⟨hle, hne⟩ := hcount r.lookupStatus hpos hlt
    exact ⟨hle, fun h0 => absurd h0 hne⟩

/-- An entry keeps its address over a tick, or is given up. -/
theorem ipAddress_tick (now : UInt32) (r : EtherRoute) :
    (r.tick now).ipAddress = r.ipAddress ∨ r.tick now = .zero := by
  rcases r.tick_cases now with heq | ⟨-, ⟨-, heq⟩ | ⟨-, heq⟩⟩
  · exact .inl (by rw [heq])
  · exact .inr heq
  · exact .inl (by rw [heq])

/-- Every operation keeps the table tidy. -/
theorem TableStep.tidy {t t' : List EtherRoute} (hs : TableStep t t') (h : Tidy t) : Tidy t' := by
  cases hs with
  | same => exact h
  | @ask i r remoteIP now htakes =>
      obtain ⟨hr, hwhy⟩ := htakes
      refine h.set hr ?_ ?_
      · intro j s hs hip hne
        rcases hwhy with ⟨-, hself⟩ | ⟨-, hnone⟩
        · exact h.distinct i j r s hr hs (hself.trans hip.symm) (hself ▸ hne)
        · exact absurd hip (hnone s (List.mem_of_getElem? hs))
      · intro hres
        rw [EtherRoute.resolved_ask] at hres
        rw [EtherRoute.attemptCount_eq, EtherRoute.lookupStatus_ask hres]
        exact ⟨by decide, fun h0 => absurd h0 (by decide)⟩
  | learn ip mac =>
      rcases learn_cases ip mac t with ⟨heq, -⟩ | ⟨i, r, hr, hip, heq⟩
      · rw [heq]
        exact h
      · rw [heq]
        refine h.set hr ?_ fun hres => absurd (EtherRoute.resolved_answer mac r) hres
        intro j s hs hip' hne
        exact h.distinct i j r s hr hs hip'.symm hne
  | tick now =>
      constructor
      · intro i j r s hr hs hip hne
        rw [List.getElem?_map, Option.map_eq_some_iff] at hr hs
        obtain ⟨r₀, hr₀, rfl⟩ := hr
        obtain ⟨s₀, hs₀, rfl⟩ := hs
        have hkeep : ∀ e : EtherRoute, (e.tick now).ipAddress ≠ zeroIP →
            (e.tick now).ipAddress = e.ipAddress := by
          intro e he
          refine (ipAddress_tick now e).resolve_right fun hz => he ?_
          rw [hz]
          rfl
        refine h.distinct i j r₀ s₀ hr₀ hs₀ ?_ ?_
        · rw [← hkeep r₀ hne, hip, hkeep s₀ (hip ▸ hne)]
        · rwa [← hkeep r₀ hne]
      · intro r hr
        obtain ⟨r₀, hr₀, rfl⟩ := List.mem_map.mp hr
        exact attempts_tick (h.attempts r₀ hr₀)

/-- A resolved entry is still there, resolved and with its address. -/
def Keeps (t t' : List EtherRoute) : Prop :=
  ∀ (i : ℕ) (r : EtherRoute), t[i]? = some r → r.resolved →
    ∃ r' : EtherRoute, t'[i]? = some r' ∧ r'.ipAddress = r.ipAddress ∧ r'.resolved

/-- A table keeps its own routes. -/
theorem Keeps.refl (t : List EtherRoute) : Keeps t t := fun _ r hr hres => ⟨r, hr, rfl, hres⟩

/-- What two steps both keep. -/
theorem Keeps.trans {t t' t'' : List EtherRoute} (h : Keeps t t') (h' : Keeps t' t'') :
    Keeps t t'' := by
  intro i r hr hres
  obtain ⟨r', hr', hip', hres'⟩ := h i r hr hres
  obtain ⟨r'', hr'', hip'', hres''⟩ := h' i r' hr' hres'
  exact ⟨r'', hr'', hip''.trans hip', hres''⟩

/-- A route replaced by one for the same address, if it was resolved. -/
theorem Keeps.set {t : List EtherRoute} {i : ℕ} {r r' : EtherRoute} (hr : t[i]? = some r)
    (h : r.resolved → r'.ipAddress = r.ipAddress ∧ r'.resolved) : Keeps t (t.set i r') := by
  intro j s hs hres
  obtain ⟨hi, -⟩ := List.getElem?_eq_some_iff.mp hr
  by_cases hij : i = j
  · subst hij
    obtain rfl : r = s := Option.some.inj (hr.symm.trans hs)
    exact ⟨r', List.getElem?_set_self hi, h hres⟩
  · exact ⟨s, by rw [List.getElem?_set_ne hij, hs], rfl, hres⟩

/-- No operation forgets a resolved entry. -/
theorem TableStep.keeps {t t' : List EtherRoute} (hs : TableStep t t') : Keeps t t' := by
  cases hs with
  | same => exact .refl t
  | @ask i r remoteIP now htakes =>
      refine Keeps.set htakes.1 fun hres => ⟨?_, (EtherRoute.resolved_ask remoteIP now r).trans hres⟩
      rcases htakes.2 with ⟨-, hip⟩ | ⟨hun, -⟩
      · exact hip.symm
      · exact absurd hres hun.1
  | learn ip mac =>
      rcases learn_cases ip mac t with ⟨heq, -⟩ | ⟨i, r, hr, -, heq⟩
      · rw [heq]
        exact .refl t
      · rw [heq]
        exact Keeps.set hr fun _ => ⟨rfl, EtherRoute.resolved_answer mac r⟩
  | tick now =>
      intro i r hr hres
      refine ⟨r, ?_, rfl, hres⟩
      rw [List.getElem?_map, hr, Option.map_some,
        EtherRoute.tick_of_not_active fun hactive => hactive.1 hres]

/-- No step changes the size of the table. -/
theorem TableStep.length {t t' : List EtherRoute} (hs : TableStep t t') :
    t'.length = t.length := by
  cases hs with
  | same => rfl
  | ask remoteIP now _ => exact List.length_set
  | learn ip mac =>
      rcases learn_cases ip mac t with ⟨heq, -⟩ | ⟨i, r, -, -, heq⟩
      · rw [heq]
      · rw [heq, List.length_set]
  | tick now => exact List.length_map _

/-! ### Runs of the handler -/

/-- What reaches the handler, or happens elsewhere on the host in between. -/
inductive Event
  | requestMACAddress (remoteIP : IPAddr)
  | handlePayload (p : View)
  | handleTimer
  | elsewhere (h' : Stack)

/-- The effect of an event. -/
def run : Event → Stack → Stack
  | .requestMACAddress remoteIP, h => (requestMACAddress remoteIP).exec h
  | .handlePayload p, h => handlePayload p h
  | .handleTimer, h => handleTimer h
  | .elsewhere h', _ => h'

/-- The handler's timer is in the registry. -/
def TimerRegistered (h : Stack) : Prop :=
  h.arp.timer ≠ 0 ∧ ∃ t, h.etherControl.timerRegistry[h.arp.timer.toNat - 1]? = some t ∧
    t.handler = some .arp

/-- A frame whose EtherType says that it carries an ARP message. -/
def CarriesARP (frame : Bytes) : Prop :=
  (frame.drop 12).take 2 = bytesOf16 (HTONS ARP_PROTOCOL)

instance (frame : Bytes) : Decidable (CarriesARP frame) := inferInstanceAs (Decidable (_ = _))

/-- The rest of the host may do anything, the clock included, but leaves the handler and its
timer alone, and sends no ARP frames. -/
structure Elsewhere (h h' : Stack) : Prop where
  arp : h'.arp = h.arp
  macAddr : h'.macAddr = h.macAddr
  capacity : h'.etherControl.timerRegistry.length = h.etherControl.timerRegistry.length
  timer : TimerRegistered h → TimerRegistered h'
  log : ∃ l, h'.log = h.log ++ l ∧ ∀ frame, .frame frame ∈ l → ¬ CarriesARP frame

/-- Every event can arrive at any time; what happens elsewhere is `Elsewhere`. -/
def Arrives (h : Stack) : Event → Prop
  | .elsewhere h' => Elsewhere h h'
  | _ => True

/-- Outside its fields and the timer registry, the handler sends frames, if it does anything. -/
theorem speaks_run {e : Event} (he : ∀ h', e ≠ .elsewhere h') {h : Stack}
    (hlen : h.arp.routingTable.length < 256) : Speaks h (run e h) := by
  have htimer : Speaks h (ensureTimer.exec h) := by
    rw [ensureTimer_rest h]
    exact .of_update rfl
  cases e with
  | requestMACAddress remoteIP =>
      rcases requestMACAddress_does remoteIP h with heq | ⟨heq, -⟩ | ⟨-, i, r, -, htends⟩
      · rw [run, heq]
        exact .refl h
      · rw [run, heq]
        exact htimer
      · exact htimer.trans htends.speaks
  | handlePayload p => exact (handlePayload_does p h).speaks
  | handleTimer => exact (handleTimer_does hlen).1
  | elsewhere h' => exact absurd rfl (he h')

/-- Every event changes the table in one of the four ways. -/
theorem run_tableStep {h : Stack} {e : Event} (he : Arrives h e)
    (hlen : h.arp.routingTable.length < 256) :
    TableStep h.arp.routingTable (run e h).arp.routingTable := by
  cases e with
  | requestMACAddress remoteIP =>
      have hrest := ensureTimer_rest h
      have htable : (ensureTimer.exec h).arp.routingTable = h.arp.routingTable := by rw [hrest]
      rcases requestMACAddress_does remoteIP h with heq | ⟨heq, -⟩ | ⟨-, i, r, htakes, htends⟩
      · rw [run, heq]
        exact .same
      · rw [run, heq, htable]
        exact .same
      · rw [run, htends.arp]
        exact .ask remoteIP h.millis htakes
  | handlePayload p =>
      rw [run, (handlePayload_does p h).arp]
      dsimp only
      unfold heard
      split
      · exact .same
      · exact .learn _ _
  | handleTimer =>
      rw [run, (handleTimer_does hlen).2.1]
      exact .tick h.millis
  | elsewhere h' =>
      rw [run, he.arp]
      exact .same

/-- A timer that could be registered is. The capacity of the registry is a `uint8_t`. -/
theorem ensureTimer_does {h : Stack} (hcap : h.etherControl.timerRegistry.length < 256)
    (htimer : h.arp.timer ≠ 0 → TimerRegistered h) :
    (ensureTimer.exec h).etherControl.timerRegistry.length =
        h.etherControl.timerRegistry.length ∧
      ((ensureTimer.exec h).arp.timer ≠ 0 → TimerRegistered (ensureTimer.exec h)) ∧
      (ensureTimer.succeeds h ↔ (ensureTimer.exec h).arp.timer ≠ 0) ∧
      (h.arp.timer ≠ 0 → ensureTimer.succeeds h) := by
  unfold ensureTimer Proc.exec Proc.succeeds
  rw [Proc.run_read_bind]
  by_cases hset : h.arp.timer ≠ 0
  · rw [if_pos hset]
    exact ⟨rfl, fun _ => htimer hset, by simp [hset], fun _ => rfl⟩
  · rw [if_neg hset, Proc.run_modify_bind, Proc.run_read_bind]
    unfold EtherControl.registerTimer
    cases hfind : h.etherControl.timerRegistry.findIdx? fun t => t.handler.isNone with
    | none =>
        dsimp only
        rw [if_pos rfl]
        exact ⟨rfl, fun hne => absurd rfl hne, by simp, fun hne => absurd hne hset⟩
    | some i =>
        dsimp only
        obtain ⟨hi, -⟩ := List.findIdx?_eq_some_iff_getElem.mp hfind
        have hnum : (UInt8.ofNat (i + 1)).toNat = i + 1 :=
          UInt8.toNat_ofNat_of_lt' (lt_of_le_of_lt hi hcap)
        have hne : UInt8.ofNat (i + 1) ≠ 0 := by
          intro h0
          rw [h0] at hnum
          exact absurd hnum (by simp)
        rw [if_neg hne]
        refine ⟨List.length_set, fun _ => ⟨hne, ?_⟩, iff_of_true rfl hne,
          fun hne' => absurd hne' hset⟩
        dsimp only [Proc.run_pure]
        rw [hnum, Nat.add_sub_cancel, List.getElem?_set_self hi]
        exact ⟨_, rfl, rfl⟩

/-- The table is tidy, and the timer runs while a lookup does. -/
structure Sound (h : Stack) : Prop where
  size : h.arp.routingTable.length < 256
  capacity : h.etherControl.timerRegistry.length < 256
  tidy : Tidy h.arp.routingTable
  timed : ∀ r ∈ h.arp.routingTable, r.Active → TimerRegistered h
  timer : h.arp.timer ≠ 0 → TimerRegistered h

/-- A step that leaves the registry leaves the timer registered. -/
theorem TimerRegistered.of_tends {t : List EtherRoute} {h h' : Stack} (ht : Tends t h h')
    (hr : TimerRegistered h) : TimerRegistered h' := by
  unfold TimerRegistered at *
  rwa [ht.arp, ht.etherControl]

/-- A table just constructed is sound. -/
theorem sound_new (ipAddress : IPAddr) (routingTableSize : UInt8) {h : Stack}
    (hcap : h.etherControl.timerRegistry.length < 256) :
    Sound (new ipAddress routingTableSize h) := by
  have htable : (new ipAddress routingTableSize h).arp.routingTable =
      List.replicate routingTableSize.toNat EtherRoute.zero := rfl
  refine ⟨?_, ?_, ?_, ?_, fun hne => absurd rfl hne⟩
  · rw [htable, List.length_replicate]
    exact routingTableSize.toNat_lt
  · unfold new EtherControl.registerProtocol
    split <;> exact hcap
  · rw [htable]
    exact tidy_replicate _
  · intro r hr hactive
    rw [htable] at hr
    rw [List.eq_of_mem_replicate hr] at hactive
    exact absurd hactive (by decide)

/-- A payload starts no lookup. -/
theorem mem_of_mem_heard {p : View} {h : Stack} {r : EtherRoute} (hr : r ∈ heard p h)
    (hactive : r.Active) : r ∈ h.arp.routingTable := by
  unfold heard at hr
  split at hr
  · exact hr
  · next m _ =>
      rcases learn_cases m.sender_protocol_addr m.sender_hardware_addr h.arp.routingTable with
        ⟨heq, -⟩ | ⟨i, s, -, -, heq⟩
      · rwa [heq] at hr
      · rw [heq] at hr
        rcases List.mem_or_eq_of_mem_set hr with hr | rfl
        · exact hr
        · exact absurd (EtherRoute.resolved_answer _ s) hactive.1

/-- A tick starts no lookup. -/
theorem active_of_tick {now : UInt32} {r : EtherRoute} (h : (r.tick now).Active) : r.Active := by
  rcases r.tick_cases now with heq | ⟨hactive, -⟩
  · rwa [heq] at h
  · exact hactive

/-- Every event keeps the table tidy and the timer running. -/
theorem Sound.step {h : Stack} (hs : Sound h) {e : Event} (he : Arrives h e) :
    Sound (run e h) := by
  have hstep := run_tableStep he hs.size
  have hsize : (run e h).arp.routingTable.length < 256 := by
    rw [hstep.length]
    exact hs.size
  have htidy := hstep.tidy hs.tidy
  cases e with
  | requestMACAddress remoteIP =>
      obtain ⟨hcap, hreg, hsucc, hkeep⟩ := ensureTimer_does hs.capacity hs.timer
      have htable : (ensureTimer.exec h).arp.routingTable = h.arp.routingTable := by
        rw [ensureTimer_rest h]
      rcases requestMACAddress_does remoteIP h with heq | ⟨heq, hfail⟩ |
        ⟨hdone, i, r, htakes, htends⟩
      · rw [run, heq]
        exact hs
      · have hnone : ∀ r ∈ h.arp.routingTable, ¬ r.Active :=
          fun r hr hactive => hfail (hkeep (hs.timed r hr hactive).1)
        refine ⟨hsize, ?_, htidy, ?_, ?_⟩ <;> rw [run, heq]
        · exact hcap.symm ▸ hs.capacity
        · rw [htable]
          exact fun r hr hactive => absurd hactive (hnone r hr)
        · exact hreg
      · have hregistered := (hreg (hsucc.mp hdone)).of_tends htends
        refine ⟨hsize, ?_, htidy, fun _ _ _ => hregistered, fun _ => hregistered⟩
        rw [run, htends.etherControl, hcap]
        exact hs.capacity
  | handlePayload p =>
      have htends := handlePayload_does p h
      refine ⟨hsize, ?_, htidy, ?_, ?_⟩
      · rw [run, htends.etherControl]
        exact hs.capacity
      · intro r hr hactive
        rw [run, htends.arp] at hr
        exact (hs.timed r (mem_of_mem_heard hr hactive) hactive).of_tends htends
      · intro hne
        rw [run, htends.arp] at hne
        exact (hs.timer hne).of_tends htends
  | handleTimer =>
      obtain ⟨-, htable, htends | ⟨hnone, hzero, hcap⟩⟩ := handleTimer_does hs.size
      · refine ⟨hsize, ?_, htidy, ?_, ?_⟩
        · rw [run, htends.etherControl]
          exact hs.capacity
        · intro r hr hactive
          rw [run, htable] at hr
          obtain ⟨r₀, hr₀, rfl⟩ := List.mem_map.mp hr
          exact (hs.timed r₀ hr₀ (active_of_tick hactive)).of_tends htends
        · intro hne
          rw [run, htends.arp] at hne
          exact (hs.timer hne).of_tends htends
      · refine ⟨hsize, ?_, htidy, ?_, fun hne => absurd hzero hne⟩
        · exact hcap.symm ▸ hs.capacity
        · intro r hr hactive
          rw [run, htable] at hr
          obtain ⟨r₀, hr₀, rfl⟩ := List.mem_map.mp hr
          exact absurd (active_of_tick hactive) (hnone r₀ hr₀)
  | elsewhere h' =>
      refine ⟨hsize, ?_, htidy, ?_, ?_⟩
      · exact he.capacity.symm ▸ hs.capacity
      · intro r hr hactive
        exact he.timer (hs.timed r (he.arp ▸ hr) hactive)
      · intro hne
        exact he.timer (hs.timer (he.arp ▸ hne))

/-- Soundness over a whole run. -/
theorem Sound.reaches {h h' : Stack} (hs : Sound h) (hrun : Reaches Arrives run h h') :
    Sound h' :=
  hrun.invariant hs fun _ _ hs he => hs.step he

/-- Whatever happens, a resolved entry stays. -/
theorem Sound.keeps {h h' : Stack} (hs : Sound h) (hrun : Reaches Arrives run h h') :
    Keeps h.arp.routingTable h'.arp.routingTable := by
  induction hrun with
  | refl => exact .refl _
  | step hrun he ih => exact ih.trans (run_tableStep he (hs.reaches hrun).size).keeps

/-- What holds of the routing table in every state. -/
structure TableInvariant (h : Stack) : Prop where
  distinct : ∀ (i j : ℕ) (r s : EtherRoute), h.arp.routingTable[i]? = some r →
    h.arp.routingTable[j]? = some s → r.ipAddress = s.ipAddress → r.ipAddress ≠ zeroIP → i = j
  attempts : ∀ r ∈ h.arp.routingTable, ¬ r.resolved →
    r.attemptCount ≤ 5 ∧ (r.attemptCount = 0 → r = .zero)
  timed : (∃ r ∈ h.arp.routingTable, ¬ r.resolved ∧ r.attemptCount ≠ 0) → TimerRegistered h
  stays : ∀ h', Reaches Arrives run h h' → ∀ (i : ℕ) (r : EtherRoute),
    h.arp.routingTable[i]? = some r → r.ipAddress ≠ zeroIP → r.resolved →
      ∃ r' : EtherRoute, h'.arp.routingTable[i]? = some r' ∧ r'.ipAddress = r.ipAddress ∧
        r'.resolved

/-- From a new handler on, with a table of any size, the table satisfies its invariant. The
capacity of the timer registry is a `uint8_t`. -/
theorem reaches_tableInvariant (ipAddress : IPAddr) (routingTableSize : UInt8) {h₀ h : Stack}
    (hcap : h₀.etherControl.timerRegistry.length < 256)
    (hrun : Reaches Arrives run (new ipAddress routingTableSize h₀) h) : TableInvariant h := by
  have hs := (sound_new ipAddress routingTableSize hcap).reaches hrun
  constructor
  · exact hs.tidy.distinct
  · exact hs.tidy.attempts
  · rintro ⟨r, hr, hactive⟩
    exact hs.timed r hr hactive
  · intro h' hrun' i r hr _ hres
    exact hs.keeps hrun' i r hr hres

/-- A new handler of one entry is asked for an address. -/
theorem tableInvariant_asked :
    TableInvariant (run (.requestMACAddress ⟨10, 0, 0, 9⟩) (exampleHost 1 1)) :=
  reaches_tableInvariant ⟨10, 0, 0, 1⟩ 1 (by decide) (Reaches.refl.step trivial)

/-! ### Who an entry belongs to -/

/-- A handler together with, for every entry, the address it was allocated for: the argument
of the `requestMACAddress` that took the entry into use, until the entry is given up. -/
structure Owned where
  stack : Stack
  owner : ℕ → Option IPAddr

/-- Entry `i` is in the table and not in use. -/
def Free (t : List EtherRoute) (i : ℕ) : Prop := (t[i]?).any (fun r => r.Unused)

instance (t : List EtherRoute) (i : ℕ) : Decidable (Free t i) :=
  inferInstanceAs (Decidable (_ = true))

/-- Whose entry `i` is after an event that left the table `t'`. -/
def ownerAfter (e : Event) (t t' : List EtherRoute) (owner : ℕ → Option IPAddr) (i : ℕ) :
    Option IPAddr :=
  if Free t' i then none
  else match e with
    | .requestMACAddress remoteIP => if Free t i then some remoteIP else owner i
    | _ => owner i

/-- A handler's new state, and whose its entries then are. -/
def track (e : Event) (o : Owned) : Owned where
  stack := run e o.stack
  owner := ownerAfter e o.stack.arp.routingTable (run e o.stack).arp.routingTable o.owner

/-- A new handler, none of whose entries has been allocated. -/
def newOwned (ipAddress : IPAddr) (routingTableSize : UInt8) (h : Stack) : Owned :=
  ⟨new ipAddress routingTableSize h, fun _ => none⟩

/-- The payload changes only entries that are allocated for the address they have, and takes
no entry into use. -/
def StoresOnlyAsked (p : View) (o : Owned) : Prop :=
  (∀ (i : ℕ) (r : EtherRoute), o.stack.arp.routingTable[i]? = some r →
    (handlePayload p o.stack).arp.routingTable[i]? ≠ some r → o.owner i = some r.ipAddress) ∧
  ∀ i, Free o.stack.arp.routingTable i → Free (handlePayload p o.stack).arp.routingTable i

/-- The payload is a response to this host whose sender has the address 0.0.0.0, and the table
has an entry not in use. -/
def Consumes (p : View) (h : Stack) : Prop :=
  ∃ m, response p h = some m ∧ m.sender_protocol_addr = zeroIP ∧
    ∃ r ∈ h.arp.routingTable, r.Unused

/-- Every event but a payload that takes an entry. -/
def Harmless (o : Owned) (e : Event) : Prop :=
  Arrives o.stack e ∧ ∀ p, e = .handlePayload p → ¬ Consumes p o.stack

/-- Entry `i` is in use for the address `ip`. -/
def Used (t : List EtherRoute) (i : ℕ) (ip : IPAddr) : Prop :=
  ∃ r : EtherRoute, t[i]? = some r ∧ ¬ r.Unused ∧ r.ipAddress = ip

/-- The entries in use are those that are allocated, and 0.0.0.0 is not among their
addresses. -/
structure OwnedSound (o : Owned) : Prop where
  sound : Sound o.stack
  used : ∀ i ip, Used o.stack.arp.routingTable i ip → o.owner i = some ip ∧ ip ≠ zeroIP

/-- An entry is free when it is unused. -/
theorem free_iff {t : List EtherRoute} {i : ℕ} :
    Free t i ↔ ∃ r : EtherRoute, t[i]? = some r ∧ r.Unused := by
  unfold Free
  cases t[i]? <;> simp

/-- An entry for an address is not free. -/
theorem Used.not_free {t : List EtherRoute} {i : ℕ} {ip : IPAddr} (h : Used t i ip) :
    ¬ Free t i := by
  obtain ⟨r, hr, hun, -⟩ := h
  rw [free_iff]
  rintro ⟨s, hs, hun'⟩
  rw [hr, Option.some.injEq] at hs
  exact hun (hs ▸ hun')

/-- An answered entry is used. -/
theorem not_unused_answer (mac : MACAddr) (r : EtherRoute) : ¬ (r.answer mac).Unused :=
  fun h => h.1 (EtherRoute.resolved_answer mac r)

/-- A tick takes no entry into use, and changes no address but by giving the entry up. -/
theorem used_of_tick {t : List EtherRoute} {now : UInt32} {i : ℕ} {ip : IPAddr}
    (h : Used (t.map (·.tick now)) i ip) : Used t i ip := by
  obtain ⟨r, hr, hun, rfl⟩ := h
  rw [List.getElem?_map, Option.map_eq_some_iff] at hr
  obtain ⟨r₀, hr₀, rfl⟩ := hr
  rcases r₀.tick_cases now with heq | ⟨hactive, ⟨-, heq⟩ | ⟨-, heq⟩⟩
  · exact ⟨r₀, hr₀, heq ▸ hun, by rw [heq]⟩
  · exact absurd (heq ▸ by decide) hun
  · exact ⟨r₀, hr₀, fun h => hactive.2 h.2, by rw [heq]⟩

/-- What `learn` changes is an entry of the address. -/
theorem used_of_learn {t : List EtherRoute} {ip : IPAddr} {mac : MACAddr} {i : ℕ} {ip' : IPAddr}
    (htidy : Tidy t) (hzero : ip = zeroIP → ∀ r ∈ t, ¬ r.Unused)
    (h : Used (learn ip mac t) i ip') : Used t i ip' := by
  rcases learn_cases ip mac t with ⟨heq, -⟩ | ⟨j, r, hr, hip, heq⟩
  · rwa [heq] at h
  · obtain ⟨s, hs, hun, rfl⟩ := heq ▸ h
    rcases getElem?_set_eq_some hr hs with ⟨rfl, rfl⟩ | ⟨-, hs'⟩
    · refine ⟨r, hr, fun hun' => ?_, rfl⟩
      have hmem := List.mem_of_getElem? hr
      rw [htidy.eq_zero hmem hun'] at hip
      exact hzero hip.symm r hmem hun'
    · exact ⟨s, hs', hun, rfl⟩

/-- An entry that stays used keeps its owner. -/
theorem ownerAfter_of_used {e : Event} {t t' : List EtherRoute} {owner : ℕ → Option IPAddr}
    {i : ℕ} {ip : IPAddr} (h : Used t' i ip) (hold : Used t i ip)
    (howner : owner i = some ip) : ownerAfter e t t' owner i = some ip := by
  unfold ownerAfter
  rw [if_neg h.not_free]
  cases e with
  | requestMACAddress remoteIP =>
      dsimp only
      rw [if_neg hold.not_free, howner]
  | handlePayload p => exact howner
  | handleTimer => exact howner
  | elsewhere h' => exact howner

/-- Every harmless event keeps track of who the entries belong to. -/
theorem OwnedSound.step {o : Owned} (ho : OwnedSound o) {e : Event} (he : Harmless o e) :
    OwnedSound (track e o) := by
  refine ⟨ho.sound.step he.1, ?_⟩
  intro i ip hused
  change Used (run e o.stack).arp.routingTable i ip at hused
  -- an entry that was in use for the address before is still its
  suffices h : Used o.stack.arp.routingTable i ip ∨
      (∃ remoteIP, e = .requestMACAddress remoteIP ∧ Free o.stack.arp.routingTable i ∧
        ip = remoteIP ∧ ip ≠ zeroIP) by
    rcases h with hold | ⟨remoteIP, rfl, hfree, rfl, hne⟩
    · obtain ⟨howner, hne⟩ := ho.used i ip hold
      exact ⟨ownerAfter_of_used hused hold howner, hne⟩
    · refine ⟨?_, hne⟩
      unfold track ownerAfter
      dsimp only
      rw [if_neg hused.not_free, if_pos hfree]
  cases e with
  | requestMACAddress remoteIP =>
      have htable : (ensureTimer.exec o.stack).arp.routingTable =
          o.stack.arp.routingTable := by rw [ensureTimer_rest o.stack]
      rcases requestMACAddress_does remoteIP o.stack with heq | ⟨heq, -⟩ |
        ⟨-, j, r, ⟨hr, hwhy⟩, htends⟩
      · rw [run, heq] at hused
        exact .inl hused
      · rw [run, heq, htable] at hused
        exact .inl hused
      · rw [run, htends.arp] at hused
        obtain ⟨s, hs, hun, rfl⟩ := hused
        rcases getElem?_set_eq_some hr hs with ⟨rfl, rfl⟩ | ⟨-, hs'⟩
        · rcases hwhy with ⟨hres, hip⟩ | ⟨hunused, hnone⟩
          · exact .inl ⟨r, hr, fun hun' => hun'.1 hres, hip⟩
          · have hmem := List.mem_of_getElem? hr
            refine .inr ⟨remoteIP, rfl, free_iff.mpr ⟨r, hr, hunused⟩, rfl, fun hzero => ?_⟩
            refine hnone r hmem ?_
            rw [ho.sound.tidy.eq_zero hmem hunused]
            exact hzero.symm
        · exact .inl ⟨s, hs', hun, rfl⟩
  | handlePayload p =>
      left
      rw [run, (handlePayload_does p o.stack).arp] at hused
      dsimp only at hused
      unfold heard at hused
      split at hused
      · exact hused
      · next m hm =>
          refine used_of_learn ho.sound.tidy (fun hzero r hr hun => ?_) hused
          exact he.2 p rfl ⟨m, hm, hzero, r, hr, hun⟩
  | handleTimer =>
      left
      rw [run, (handleTimer_does ho.sound.size).2.1] at hused
      exact used_of_tick hused
  | elsewhere h' =>
      left
      rw [run, he.1.arp] at hused
      exact hused

/-- In a table just constructed nothing is owned. -/
theorem ownedSound_new (ipAddress : IPAddr) (routingTableSize : UInt8) {h : Stack}
    (hcap : h.etherControl.timerRegistry.length < 256) :
    OwnedSound (newOwned ipAddress routingTableSize h) := by
  refine ⟨sound_new ipAddress routingTableSize hcap, ?_⟩
  rintro i ip ⟨r, hr, hun, -⟩
  have hzero := List.eq_of_mem_replicate (List.mem_of_getElem? hr)
  exact absurd (hzero ▸ by decide) hun

/-- While the entries in use are those allocated, a payload stores only what was asked for if
and only if it does not take an entry for 0.0.0.0. -/
theorem OwnedSound.stores_iff {o : Owned} (ho : OwnedSound o) (p : View) :
    StoresOnlyAsked p o ↔ ¬ Consumes p o.stack := by
  have htable : (handlePayload p o.stack).arp.routingTable = heard p o.stack :=
    congrArg ARPHandler.routingTable (handlePayload_does p o.stack).arp
  unfold StoresOnlyAsked
  rw [htable]
  constructor
  · rintro ⟨-, hfree⟩ ⟨m, hm, hip, r, hr, hun⟩
    rw [heard, hm] at hfree
    dsimp only at hfree
    rcases learn_cases m.sender_protocol_addr m.sender_hardware_addr
      o.stack.arp.routingTable with ⟨-, hnone⟩ | ⟨i, s, hs, hip', heq⟩
    · refine hnone r hr ?_
      rw [ho.sound.tidy.eq_zero hr hun, hip]
      rfl
    · -- the entry found has the address 0.0.0.0, so it was not in use
      have hsun : s.Unused := by
        by_contra hused
        exact (ho.used i _ ⟨s, hs, hused, rfl⟩).2 (hip'.trans hip)
      have hafter := hfree i (free_iff.mpr ⟨s, hs, hsun⟩)
      obtain ⟨hi, -⟩ := List.getElem?_eq_some_iff.mp hs
      obtain ⟨u, hu, huun⟩ := free_iff.mp hafter
      rw [heq, List.getElem?_set_self hi, Option.some.injEq] at hu
      exact not_unused_answer _ s (hu ▸ huun)
  · intro hharmless
    unfold heard
    split
    · exact ⟨fun i r hr hne => absurd hr hne, fun i h => h⟩
    · next m hm =>
        rcases learn_cases m.sender_protocol_addr m.sender_hardware_addr
          o.stack.arp.routingTable with ⟨heq, -⟩ | ⟨j, s, hs, hip, heq⟩
        · rw [heq]
          exact ⟨fun i r hr hne => absurd hr hne, fun i h => h⟩
        · have hused : ¬ s.Unused := by
            intro hun
            have hmem := List.mem_of_getElem? hs
            refine hharmless ⟨m, hm, ?_, s, hmem, hun⟩
            rw [← hip, ho.sound.tidy.eq_zero hmem hun]
            rfl
          rw [heq]
          refine ⟨fun i r hr hne => ?_, fun i hfree => ?_⟩
          · by_cases hij : j = i
            · subst hij
              obtain rfl : s = r := Option.some.inj (hs.symm.trans hr)
              exact (ho.used j _ ⟨s, hs, hused, rfl⟩).1
            · exact absurd (by rw [List.getElem?_set_ne hij, hr]) hne
          · obtain ⟨r, hr, hun⟩ := free_iff.mp hfree
            have hij : j ≠ i := by
              rintro rfl
              obtain rfl : s = r := Option.some.inj (hs.symm.trans hr)
              exact hused hun
            exact free_iff.mpr ⟨r, by rw [List.getElem?_set_ne hij, hr], hun⟩

/-- In every run from a new handler on in which no payload has taken an entry for 0.0.0.0, the
next payload stores only what was asked for if and only if it does not do so either. -/
theorem storesOnlyAsked_iff (ipAddress : IPAddr) (routingTableSize : UInt8) {h₀ : Stack}
    {o : Owned} (hcap : h₀.etherControl.timerRegistry.length < 256)
    (hrun : Reaches Harmless track (newOwned ipAddress routingTableSize h₀) o) (p : View) :
    StoresOnlyAsked p o ↔ ¬ Consumes p o.stack :=
  (hrun.invariant (ownedSound_new ipAddress routingTableSize hcap)
    fun _ _ ho he => ho.step he).stores_iff p

/-- The response of 10.0.0.9 to a request of 10.0.0.1. -/
def exampleResponse : ARPMessage :=
  ⟨ARP_RESPONSE, ⟨2, 0, 0, 0, 0, 9⟩, ⟨10, 0, 0, 9⟩, ⟨2, 0, 0, 0, 0, 1⟩, ⟨10, 0, 0, 1⟩⟩

/-- 10.0.0.1 has asked for 10.0.0.9, which answers. -/
theorem storesOnlyAsked_response :
    StoresOnlyAsked (viewOf exampleResponse.bytes)
      (track (.requestMACAddress ⟨10, 0, 0, 9⟩) (newOwned ⟨10, 0, 0, 1⟩ 2 (bareHost 1))) := by
  have hstep : Harmless (newOwned ⟨10, 0, 0, 1⟩ 2 (bareHost 1))
      (.requestMACAddress ⟨10, 0, 0, 9⟩) := ⟨trivial, by simp⟩
  refine (storesOnlyAsked_iff ⟨10, 0, 0, 1⟩ 2 (by decide) (.step .refl hstep) _).mpr ?_
  rintro ⟨m, hm, hzero, -⟩
  have hread : response (viewOf exampleResponse.bytes)
      ((requestMACAddress ⟨10, 0, 0, 9⟩).exec (exampleHost 1 2)) = some exampleResponse := by
    decide +kernel
  obtain rfl : exampleResponse = m := Option.some.inj (hread.symm.trans hm)
  exact absurd hzero (by decide)

/-- A response whose sender claims the address 0.0.0.0 is taken for the answer to a request of
a new handler, which has made none: the entry is resolved and lost to others. -/
theorem zeroSender_consumes :
    (exampleHost 1 1).arp.routingTable = [EtherRoute.zero] ∧
      (handlePayload (viewOf { exampleResponse with sender_protocol_addr := zeroIP }.bytes)
        (exampleHost 1 1)).arp.routingTable = [⟨zeroIP, ⟨2, 0, 0, 0, 0, 9⟩, 0, ARP_RESOLVED⟩] ∧
      ¬ StoresOnlyAsked (viewOf { exampleResponse with sender_protocol_addr := zeroIP }.bytes)
        (newOwned ⟨10, 0, 0, 1⟩ 1 (bareHost 1)) := by
  refine ⟨by decide, by decide +kernel, fun h => ?_⟩
  exact absurd (h.2 0 (by decide)) (by decide +kernel)

end ARPHandler

end AtmegaNet
