import AtmegaNet.DNSHandler
import AtmegaNet.Frame
import AtmegaNet.HostRuns
import AtmegaNet.Lib.Slots
import AtmegaNet.Registration

/-!
# The timer registry

The ARP, the DNS and the TCP handler share the timers of one `EtherControl`. Each of them keeps
the number of its timer and gives it back when it needs it no more; `unregisterTimer` takes
whatever number it is given. `TCPHandler::unregisterSocket` gives its timer back whenever the
table is empty, also when it has none: to unregister a socket and then destroy it, which
unregisters it once more, accesses the registry outside its bounds.

## Main results

* `Kept.registerTimer`, `Kept.unregisterTimer`: what a handler may do to the registry.
* `Kept.serves`, `Kept.resolve`, `Kept.dnsTimer`, `Kept.arpTimer`: what the handlers do.
* `unregisterSocket_outOfBounds`: what `TCPHandler` does when it has no timer.
* `reaches_registryIntact`: in a run whose steps all have a timer to give back, or none to give
  back, the registry and the numbers agree.
-/

open Procedure Runs Slots

namespace AtmegaNet

/-! ### Names for the sockets -/

namespace DNSHandler

/-- `DNSHandler::resolve` as a socket calls it, given whether `malloc` has room for the name. -/
def resolver (allocates : Bool) : Resolver := fun domainName h =>
  let (answer, s) := resolve domainName false allocates ⟨h.dns, h⟩
  (answer, { s.stack with dns := s.dns })

end DNSHandler

/-! ### What the other handlers do to a stack -/

namespace Serves

variable {h h' : Stack}

/-- `ARPHandler::handlePayload` -/
theorem of_handlePayload (p : View) (h : Stack) : Serves h (ARPHandler.handlePayload p h) := by
  have hresponse : ∀ mac ip, Proc.Within Serves (ARPHandler.sendARPResponse mac ip) := by
    intro mac ip
    refine Proc.within_read_bind fun _ => Proc.within_read_bind fun _ =>
      Proc.within_read_bind fun _ => ?_
    iterate 9 refine .bind (within_onMem _) fun _ => ?_
    exact within_sendFrame _ _ _
  unfold ARPHandler.handlePayload
  split
  · exact .refl
  split
  · split
    · exact .refl
    · exact hresponse _ _ h
  split
  · split
    · exact .refl
    split
    · exact .refl
    · exact .route _ .refl
  · exact .refl

/-- The loop of `ARPHandler::handleTimer`. -/
theorem of_checkRoutes (current : UInt32) (h : Stack) (n : ℕ) :
    Serves h (ARPHandler.checkRoutes current h n).2 := by
  induction n with
  | zero => exact .refl
  | succ n ih =>
      rw [ARPHandler.checkRoutes]
      dsimp only
      split
      case h_2 => exact ih
      case h_1 r _ =>
        refine ih.trans ?_
        unfold ARPHandler.checkRoute
        dsimp only
        split
        · exact .refl
        split
        · exact .refl
        split
        · exact .refl
        split
        · exact .route _ .refl
        split
        · exact trans (.route _ .refl) (within_sendARPRequest _ _)
        · exact .refl

/-- `DNSHandler::sendDNSRequest` -/
theorem of_sendDNSRequest (domainName : Bytes) (id : UInt16) (dnsServer : IPAddr) :
    Proc.Within Serves (DNSHandler.sendDNSRequest domainName id dnsServer) := by
  have hdatagram : ∀ length,
      Proc.Within Serves (UDPHandler.sendDatagram dnsServer 53 53 length) := by
    intro length
    refine Proc.within_read_bind fun datagram => .ite Proc.within_fail ?_
    iterate 3 refine .bind (within_onMem _) fun _ => ?_
    exact Proc.within_read_bind fun _ => .bind (within_onMem _) fun _ => of_sendPacket _ _ _
  refine Proc.within_read_bind fun udpBuffer => .ite Proc.within_fail (.ite Proc.within_fail ?_)
  exact .bind (within_onMem _) fun length => (hdatagram length).attempt

/-- None of it changes the DNS handler. -/
theorem dns_eq (hs : Serves h h') : h'.dns = h.dns := by
  induction hs with
  | refl => rfl
  | mem _ _ ih => exact ih
  | output _ _ ih => exact ih
  | route _ _ ih => exact ih
  | @timer h' _ _ ih =>
      have hrest : (EtherControl.registerTimer .arp 250 h').2.dns = h'.dns := by
        rw [ARPHandler.registerTimer_rest]
      exact hrest.trans ih
  | port _ _ ih => exact ih

end Serves

/-! ### The timers of a host -/

namespace EtherControl

/-- Who holds which timer. -/
def owners (h : Stack) : List (Option TimerHandler) :=
  h.etherControl.timerRegistry.map Timer.handler

/-- The number a handler keeps, given those of the TCP and the DNS handler. -/
def kept (tcp dns : UInt8) (h : Stack) : TimerHandler → ℕ
  | .arp => h.arp.timer.toNat
  | .dns => dns.toNat
  | .tcp => tcp.toNat

/-- The registry and the numbers the handlers keep agree, and no number has led outside. The
capacity of the registry is a byte. -/
structure Kept (tcp dns : UInt8) (h : Stack) : Prop where
  capacity : h.etherControl.timerRegistry.length < 256
  timers : h.etherControl.timers = held (owners h)
  numbers : Matches (owners h) (kept tcp dns h)
  log : .outOfBounds ∉ h.log

/-- What `registerTimer` does for a handler that has no timer. -/
structure Registered (handler : TimerHandler) (number : TimerHandler → ℕ) (h : Stack)
    (x : UInt8 × Stack) : Prop where
  rest : x.2 = { h with etherControl := x.2.etherControl }
  capacity : x.2.etherControl.timerRegistry.length = h.etherControl.timerRegistry.length
  timers : x.2.etherControl.timers = held (owners x.2)
  numbers : Matches (owners x.2) (Function.update number handler x.1.toNat)

/-- `registerTimer` numbers a handler that has none, or the registry is full. -/
theorem registerTimer_registered {number : TimerHandler → ℕ} {h : Stack}
    (hcapacity : h.etherControl.timerRegistry.length < 256)
    (htimers : h.etherControl.timers = held (owners h)) (hmatches : Matches (owners h) number)
    {handler : TimerHandler} (hnone : number handler = 0) (millisDelay : UInt16) :
    Registered handler number h (registerTimer handler millisDelay h) := by
  unfold registerTimer
  split
  case h_1 =>
    refine ⟨rfl, rfl, htimers, ?_⟩
    have hsame : Function.update number handler (0 : UInt8).toNat = number := by
      have hzero : (0 : UInt8).toNat = number handler := hnone.symm
      rw [hzero, Function.update_eq_self]
    rwa [hsame]
  case h_2 k hk =>
    obtain ⟨hlt, hfree, -⟩ := List.findIdx?_eq_some_iff_getElem.mp hk
    have hfree : (owners h)[k]? = some none := by
      rw [owners, List.getElem?_map, List.getElem?_eq_getElem hlt]
      exact congrArg some (by simpa using hfree)
    have howners : ∀ t : Timer, t.handler = some handler →
        (h.etherControl.timerRegistry.set k t).map Timer.handler =
          (owners h).set k (some handler) := by
      intro t ht
      rw [List.map_set, ht, owners]
    have hnumber : (UInt8.ofNat (k + 1)).toNat = k + 1 :=
      UInt8.toNat_ofNat_of_lt' (show k + 1 < 256 by omega)
    refine ⟨rfl, List.length_set, ?_, ?_⟩
    · show h.etherControl.timers + 1 = held (List.map Timer.handler _)
      rw [howners _ rfl, held_take hfree, htimers]
    · show Matches (List.map Timer.handler _) _
      rw [howners _ rfl, hnumber]
      exact hmatches.take hfree hnone

/-- What `unregisterTimer` does with the number a handler keeps. -/
structure Unregistered (handler : TimerHandler) (number : TimerHandler → ℕ) (h h' : Stack) :
    Prop where
  rest : h' = { h with etherControl := h'.etherControl }
  capacity : h'.etherControl.timerRegistry.length = h.etherControl.timerRegistry.length
  timers : h'.etherControl.timers = held (owners h')
  numbers : Matches (owners h') (Function.update number handler 0)

/-- `unregisterTimer` takes the number away from the handler. -/
theorem unregisterTimer_unregistered {number : TimerHandler → ℕ} {h : Stack}
    (htimers : h.etherControl.timers = held (owners h)) (hmatches : Matches (owners h) number)
    (handler : TimerHandler) {index : UInt8} (hindex : number handler = index.toNat)
    (hne : index ≠ 0) : Unregistered handler number h (unregisterTimer index h) := by
  have hpos : index.toNat ≠ 0 := fun h0 => hne (UInt8.toNat_inj.mp h0)
  have hslot := hmatches.slot (k := handler) (by rwa [hindex])
  rw [hindex] at hslot
  have hle := hmatches.le_length handler
  rw [hindex, owners, List.length_map] at hle
  obtain ⟨t, ht, howner⟩ : ∃ t, h.etherControl.timerRegistry[index.toNat - 1]? = some t ∧
      t.handler = some handler := by
    rw [owners, List.getElem?_map, Option.map_eq_some_iff] at hslot
    exact hslot
  obtain ⟨delayTime, startTime, owner⟩ := t
  obtain rfl : owner = some handler := howner
  have hrun : unregisterTimer index h = { h with etherControl := { h.etherControl with
      timers := h.etherControl.timers - 1
      timerRegistry := h.etherControl.timerRegistry.set (index.toNat - 1) ⟨0, 0, none⟩ } } := by
    have hin : ¬ (index = 0 ∨ h.etherControl.timerRegistry.length < index.toNat) := by
      rintro (hzero | hlt)
      · exact hne hzero
      · omega
    rw [unregisterTimer, if_neg hin, ht]
  have howners : (h.etherControl.timerRegistry.set (index.toNat - 1) ⟨0, 0, none⟩).map
      Timer.handler = (owners h).set (index.toNat - 1) none := by
    rw [List.map_set, owners]
  have hheld := held_release hslot
  rw [hrun]
  refine ⟨rfl, List.length_set, ?_, ?_⟩
  · show h.etherControl.timers - 1 = held (List.map Timer.handler _)
    rw [howners, htimers]
    omega
  · show Matches (List.map Timer.handler _) _
    rw [howners]
    exact hmatches.release (by omega)

/-! ### What the handlers do -/

namespace Kept

variable {tcp dns : UInt8} {h h' : Stack}

/-- A change to neither the registry nor the number of the ARP handler's timer. -/
theorem congr (hk : Kept tcp dns h) (hether : h'.etherControl = h.etherControl)
    (harp : h'.arp.timer = h.arp.timer) (hlog : .outOfBounds ∉ h'.log) : Kept tcp dns h' := by
  have howners : owners h' = owners h := by rw [owners, owners, hether]
  have hnumber : kept tcp dns h' = kept tcp dns h := by
    funext handler
    cases handler with
    | arp => exact congrArg UInt8.toNat harp
    | dns => rfl
    | tcp => rfl
  refine ⟨?_, ?_, ?_, hlog⟩
  · rw [hether]
    exact hk.capacity
  · rw [hether, howners]
    exact hk.timers
  · rw [howners, hnumber]
    exact hk.numbers

/-- The registry when `registerTimer` has run for a handler without a timer. -/
theorem registerTimer (hk : Kept tcp dns h) (handler : TimerHandler)
    (hnone : kept tcp dns h handler = 0) (millisDelay : UInt16) {tcp' dns' : UInt8}
    (arp : ARPHandler)
    (hnumber : kept tcp' dns' { (registerTimer handler millisDelay h).2 with arp := arp } =
      Function.update (kept tcp dns h) handler (registerTimer handler millisDelay h).1.toNat) :
    Kept tcp' dns' { (EtherControl.registerTimer handler millisDelay h).2 with arp := arp } := by
  obtain ⟨hrest, hcapacity, htimers, hnumbers⟩ :=
    registerTimer_registered hk.capacity hk.timers hk.numbers hnone millisDelay
  refine ⟨?_, htimers, ?_, ?_⟩
  · exact lt_of_eq_of_lt hcapacity hk.capacity
  · rw [hnumber]
    exact hnumbers
  · have hlog : (EtherControl.registerTimer handler millisDelay h).2.log = h.log := by rw [hrest]
    show .outOfBounds ∉ (EtherControl.registerTimer handler millisDelay h).2.log
    rw [hlog]
    exact hk.log

/-- The registry when `unregisterTimer` has run for a handler with a timer. -/
theorem unregisterTimer (hk : Kept tcp dns h) (handler : TimerHandler) {index : UInt8}
    (hindex : kept tcp dns h handler = index.toNat) (hne : index ≠ 0) {tcp' dns' : UInt8}
    (arp : ARPHandler)
    (hnumber : kept tcp' dns' { EtherControl.unregisterTimer index h with arp := arp } =
      Function.update (kept tcp dns h) handler 0) :
    Kept tcp' dns' { EtherControl.unregisterTimer index h with arp := arp } := by
  obtain ⟨hrest, hcapacity, htimers, hnumbers⟩ :=
    unregisterTimer_unregistered hk.timers hk.numbers handler hindex hne
  refine ⟨?_, htimers, ?_, ?_⟩
  · exact lt_of_eq_of_lt hcapacity hk.capacity
  · rw [hnumber]
    exact hnumbers
  · have hlog : (EtherControl.unregisterTimer index h).log = h.log := by rw [hrest]
    show .outOfBounds ∉ (EtherControl.unregisterTimer index h).log
    rw [hlog]
    exact hk.log

/-- What a stack does for a socket keeps the registry. -/
theorem serves (hk : Kept tcp dns h) (hs : Serves h h') : Kept tcp dns h' := by
  induction hs with
  | refl => exact hk
  | mem m _ ih => exact ih.congr rfl rfl ih.log
  | @output h' o ho _ ih =>
      refine ih.congr rfl rfl ?_
      rw [List.mem_append, not_or]
      refine ⟨ih.log, fun hmem => ?_⟩
      rw [← List.mem_singleton.mp hmem] at ho
      exact Bool.false_ne_true ho
  | route table _ ih => exact ih.congr rfl rfl ih.log
  | @timer h' hzero _ ih =>
      refine ih.registerTimer .arp (congrArg UInt8.toNat hzero) 250 _ ?_
      funext handler
      cases handler with
      | arp => rw [Function.update_self]; rfl
      | dns => rw [Function.update_of_ne (by decide)]; rfl
      | tcp => rw [Function.update_of_ne (by decide)]; rfl
  | port nextPort _ ih => exact ih.congr rfl rfl ih.log

/-- `ARPHandler::handleTimer` gives up a timer only if it has one. -/
theorem arpTimer (hk : Kept tcp dns h) : Kept tcp dns (ARPHandler.handleTimer h) := by
  have hchecked := hk.serves (Serves.of_checkRoutes h.millis h h.arp.routingTable.length)
  unfold ARPHandler.handleTimer
  generalize ARPHandler.checkRoutes h.millis h h.arp.routingTable.length = x at hchecked ⊢
  obtain ⟨lookupCount, h'⟩ := x
  dsimp only at hchecked ⊢
  split
  case isTrue hdrop =>
    refine hchecked.unregisterTimer .arp rfl hdrop.2 _ ?_
    funext handler
    cases handler with
    | arp => rw [Function.update_self]; rfl
    | dns => rw [Function.update_of_ne (by decide)]; rfl
    | tcp => rw [Function.update_of_ne (by decide)]; rfl
  case isFalse => exact hchecked

/-- The ARP timer leaves the DNS handler. -/
theorem dns_arpTimer (h : Stack) : (ARPHandler.handleTimer h).dns = h.dns := by
  have hserves := Serves.of_checkRoutes h.millis h h.arp.routingTable.length
  unfold ARPHandler.handleTimer
  generalize ARPHandler.checkRoutes h.millis h h.arp.routingTable.length = x at hserves ⊢
  obtain ⟨lookupCount, h'⟩ := x
  have hrest : ∀ index, (EtherControl.unregisterTimer index h').dns = h'.dns := by
    intro index
    unfold EtherControl.unregisterTimer
    split
    · rfl
    split
    · rfl
    · rfl
  dsimp only at hserves ⊢
  split
  · exact (hrest _).trans hserves.dns_eq
  · exact hserves.dns_eq

variable {s : NameService}

/-- `DNSHandler` registers a timer only if it has none. -/
theorem dnsEnsureTimer (hk : Kept tcp s.dns.timer s.stack) (millisDelay : UInt16) :
    Kept tcp (DNSHandler.ensureTimer millisDelay s).dns.timer
      (DNSHandler.ensureTimer millisDelay s).stack := by
  unfold DNSHandler.ensureTimer
  split
  case isTrue hzero =>
    refine hk.registerTimer .dns (congrArg UInt8.toNat hzero) millisDelay
      (EtherControl.registerTimer .dns millisDelay s.stack).2.arp ?_
    have harp : (EtherControl.registerTimer .dns millisDelay s.stack).2.arp = s.stack.arp := by
      rw [ARPHandler.registerTimer_rest]
    funext handler
    cases handler with
    | arp =>
        rw [Function.update_of_ne (by decide)]
        exact congrArg (fun arp : ARPHandler => arp.timer.toNat) harp
    | dns => rw [Function.update_self]; rfl
    | tcp => rw [Function.update_of_ne (by decide)]; rfl
  case isFalse => exact hk

/-- `DNSHandler::resolve` keeps the registry. -/
theorem resolve (hk : Kept tcp s.dns.timer s.stack) (domainName : Bytes)
    (force allocates : Bool) :
    Kept tcp (DNSHandler.resolve domainName force allocates s).2.dns.timer
      (DNSHandler.resolve domainName force allocates s).2.stack := by
  have hsent : ∀ (s : NameService) (id : UInt16), Kept tcp s.dns.timer s.stack →
      Kept tcp s.dns.timer
        ((DNSHandler.sendDNSRequest domainName id s.dns.dnsIP).run s.stack).2 :=
    fun s id hk => hk.serves (Serves.of_sendDNSRequest domainName id s.dns.dnsIP s.stack)
  have hrequery : ∀ (i : ℕ) (s : NameService), Kept tcp s.dns.timer s.stack →
      Kept tcp (DNSHandler.requery domainName i s).dns.timer
        (DNSHandler.requery domainName i s).stack := by
    intro i s hk
    have hrun := hsent s (UInt16.ofNat (i + 1)) hk
    unfold DNSHandler.requery
    dsimp only
    split
    case h_1 stack heq =>
      rw [show (DNSHandler.sendDNSRequest domainName (UInt16.ofNat (i + 1)) s.dns.dnsIP).run
        s.stack = _ from heq] at hrun
      exact dnsEnsureTimer hrun 1000
    case h_2 stack heq =>
      rw [show (DNSHandler.sendDNSRequest domainName (UInt16.ofNat (i + 1)) s.dns.dnsIP).run
        s.stack = _ from heq] at hrun
      exact hrun
  unfold DNSHandler.resolve
  split
  case h_1 i _ =>
    unfold DNSHandler.resolveCached
    dsimp only
    split
    · exact hrequery i _ hk
    · exact hk
  case h_2 =>
    unfold DNSHandler.resolveNew
    dsimp only
    split
    · exact hk
    split
    · exact hk
    have hrun := hsent s (UInt16.ofNat (s.dns.cacheSize.toNat + 1)) hk
    split
    case h_1 stack heq =>
      rw [show (DNSHandler.sendDNSRequest domainName (UInt16.ofNat (s.dns.cacheSize.toNat + 1))
        s.dns.dnsIP).run s.stack = _ from heq] at hrun
      exact dnsEnsureTimer hrun 5000
    case h_2 stack heq =>
      rw [show (DNSHandler.sendDNSRequest domainName (UInt16.ofNat (s.dns.cacheSize.toNat + 1))
        s.dns.dnsIP).run s.stack = _ from heq] at hrun
      exact hrun

/-- `DNSHandler::handleTimer` gives its timer up; it is called for a timer of its own. -/
theorem dnsTimer (hk : Kept tcp s.dns.timer s.stack) (hne : s.dns.timer ≠ 0) :
    Kept tcp (DNSHandler.handleTimer s).dns.timer (DNSHandler.handleTimer s).stack := by
  have hretried : ∀ k, (DNSHandler.retryEntries s.stack.millis s k).2.dns.timer = s.dns.timer ∧
      Serves s.stack (DNSHandler.retryEntries s.stack.millis s k).2.stack := by
    intro k
    induction k with
    | zero => exact ⟨rfl, .refl⟩
    | succ k ih =>
        rw [DNSHandler.retryEntries]
        generalize DNSHandler.retryEntries s.stack.millis s k = x at ih ⊢
        obtain ⟨needTimer, s'⟩ := x
        obtain ⟨htimer, hserves⟩ := ih
        dsimp only at htimer hserves ⊢
        unfold DNSHandler.retry
        split
        · split
          · exact ⟨htimer, hserves⟩
          · exact ⟨htimer, hserves.trans (Serves.of_sendDNSRequest _ _ _ _)⟩
        · exact ⟨htimer, hserves⟩
  obtain ⟨htimer, hserves⟩ := hretried s.dns.cacheSize.toNat
  have hkept := hk.serves hserves
  unfold DNSHandler.handleTimer
  generalize DNSHandler.retryEntries s.stack.millis s s.dns.cacheSize.toNat = x at *
  obtain ⟨needTimer, s'⟩ := x
  dsimp only at htimer hkept ⊢
  rw [← htimer] at hkept hne
  split
  · exact hkept
  · refine hkept.unregisterTimer .dns rfl hne
      (EtherControl.unregisterTimer s'.dns.timer s'.stack).arp ?_
    have hrest := (unregisterTimer_unregistered hkept.timers hkept.numbers .dns rfl hne).rest
    have harp : (EtherControl.unregisterTimer s'.dns.timer s'.stack).arp = s'.stack.arp := by
      rw [hrest]
    funext handler
    cases handler with
    | arp =>
        rw [Function.update_of_ne (by decide)]
        exact congrArg (fun arp : ARPHandler => arp.timer.toNat) harp
    | dns => rw [Function.update_self]; rfl
    | tcp => rw [Function.update_of_ne (by decide)]; rfl

end Kept

end EtherControl

/-! ### What the sockets do -/

/-- What sockets and lookups do to a stack. -/
inductive Uses (h : Stack) : Stack → Prop
  | refl : Uses h h
  | serves {h' h'' : Stack} : Uses h h' → Serves h' h'' → Uses h h''
  /-- An observation of a socket. -/
  | observe {h' : Stack} {o : Obs} : o ≠ .outOfBounds → Uses h h' →
      Uses h { h' with log := h'.log ++ [o] }
  /-- The lookup of a name. -/
  | resolve {h' : Stack} (domainName : Bytes) (allocates : Bool) : Uses h h' →
      Uses h (DNSHandler.resolver allocates domainName h').2

namespace Uses

variable {h h' h'' : Stack}

/-- One use of the stack after another. -/
theorem trans (hu : Uses h h') (hu' : Uses h' h'') : Uses h h'' := by
  induction hu' with
  | refl => exact hu
  | serves _ hs ih => exact ih.serves hs
  | observe ho _ ih => exact ih.observe ho
  | resolve domainName allocates _ ih => exact ih.resolve domainName allocates

/-- They keep the registry. -/
theorem kept {tcp : UInt8} (hu : Uses h h') (hk : EtherControl.Kept tcp h.dns.timer h) :
    EtherControl.Kept tcp h'.dns.timer h' := by
  induction hu with
  | refl => exact hk
  | serves _ hs ih =>
      rw [hs.dns_eq]
      exact ih.serves hs
  | observe ho _ ih =>
      refine ih.congr rfl rfl ?_
      rw [List.mem_append, not_or]
      exact ⟨ih.log, fun hmem => ho (List.mem_singleton.mp hmem).symm⟩
  | @resolve h' domainName allocates _ ih =>
      have hresolved := ih.resolve (s := ⟨h'.dns, h'⟩) domainName false allocates
      exact hresolved.congr rfl rfl hresolved.log

end Uses

namespace Socket

variable {α : Type}

/-- What a function of a socket does outside the socket, and that it leaves it its handler. -/
structure Abides (w w' : World α) : Prop where
  this : w'.this = w.this
  tcp : w'.self.tcp = w.self.tcp
  stack : Uses w.stack w'.stack

instance : IsPreorder (World α) Abides where
  refl _ := ⟨rfl, rfl, .refl⟩
  trans _ _ _ h h' := ⟨h'.this.trans h.this, h'.tcp.trans h.tcp, h.stack.trans h'.stack⟩

/-- Callbacks that do to the stack what sockets do. -/
structure Abiding (cb : Callbacks α) : Prop where
  on : ∀ e w, Abides w (cb.on e w)
  onDataReceived : ∀ d w, Abides w (cb.onDataReceived d w).2

/-- The callbacks of an application leave the pointers of the socket. -/
theorem App.abiding (a : App α) : Abiding a.callbacks :=
  ⟨fun _ _ => ⟨rfl, rfl, .refl⟩, fun _ _ => ⟨rfl, rfl, .refl⟩⟩

/-- Abiding steps compose with the callbacks that abide. -/
theorem Frames.abides {cb : Callbacks α} (hcb : Abiding cb) : Frames cb Abides where
  self _ _ hs := ⟨rfl, congrArg (fun t => t.1) hs, .refl⟩
  stack _ _ hs := ⟨rfl, rfl, .serves .refl hs⟩
  event _ _ := ⟨rfl, rfl, .observe (by simp) .refl⟩
  received _ _ _ := ⟨rfl, rfl, .observe (by simp) .refl⟩
  dangling _ _ := ⟨rfl, rfl, .observe (by simp) .refl⟩
  on := hcb.on
  onDataReceived := hcb.onDataReceived

/-- A name that is resolved is no concern of the pointers. -/
theorem resolver_abides (allocates : Bool) (d : Bytes) (w : World α) :
    Abides w { w with stack := (DNSHandler.resolver allocates d w.stack).2 } :=
  ⟨rfl, rfl, .resolve d allocates .refl⟩

end Socket

/-! ### Runs -/

namespace EtherControl

variable {α : Type} (cb : ℕ → Callbacks α)

/-- `handler->handleTimer` -/
def handleTimer (dns : Resolver) (handler : TimerHandler) (n : Net α) : Net α :=
  match handler with
  | .arp => { n with stack := ARPHandler.handleTimer n.stack }
  | .dns =>
      let s := DNSHandler.handleTimer ⟨n.stack.dns, n.stack⟩
      { n with stack := { s.stack with dns := s.dns } }
  | .tcp => TCPHandler.handleTimer cb dns n

/-- Start a timer again. -/
def restart (i : ℕ) (t : Timer) (h : Stack) : Stack :=
  { h with etherControl := { h.etherControl with
    timerRegistry := h.etherControl.timerRegistry.set i { t with startTime := h.millis } } }

/-- One round of the loop of `processTimers`, given how many timers have been processed. -/
def processTimer (dns : Resolver) (i processed : ℕ) (n : Net α) : ℕ × Net α :=
  if processed < n.stack.etherControl.timers then
    match n.stack.etherControl.timerRegistry[i]? with
    | some ⟨delayTime, startTime, some handler⟩ =>
        if n.stack.millis - startTime > delayTime then
          (processed + 1, handleTimer cb dns handler { n with
            stack := restart i ⟨delayTime, startTime, some handler⟩ n.stack })
        else (processed, n)
    | _ => (processed, n)
  else (processed, n)

/-- The loop of `processTimers` over the entries below `k`. -/
def processBelow (dns : Resolver) (n : Net α) : ℕ → ℕ × Net α
  | 0 => (0, n)
  | k + 1 =>
      let (processed, n) := processBelow dns n k
      processTimer cb dns k processed n

/-- `EtherControl::processTimers` -/
def processTimers (dns : Resolver) (n : Net α) : Net α :=
  (processBelow cb dns n n.stack.etherControl.timerRegistry.length).2

/-- What the handlers that share the timers do: the operations of the sockets and the TCP handler,
requests for routes and ARP payloads, lookups of names and their answers, and the timers. -/
inductive Event (α : Type)
  | operation (o : TCPHandler.Operation α)
  | requestMACAddress (remoteIP : IPAddr)
  | handlePayload (p : View)
  | resolve (domainName : Bytes) (force allocates : Bool)
  | handleDatagram (sourceIP : IPAddr) (packet : View)
  | processTimers (allocates : Bool)

/-- What a host makes of an event. -/
def run : Event α → Net α → Net α
  | .operation o, n => TCPHandler.perform cb o n
  | .requestMACAddress remoteIP, n =>
      { n with stack := (ARPHandler.requestMACAddress remoteIP).exec n.stack }
  | .handlePayload p, n => { n with stack := ARPHandler.handlePayload p n.stack }
  | .resolve domainName force allocates, n =>
      let s := (DNSHandler.resolve domainName force allocates ⟨n.stack.dns, n.stack⟩).2
      { n with stack := { s.stack with dns := s.dns } }
  | .handleDatagram sourceIP packet, n =>
      let s := DNSHandler.handleDatagram sourceIP packet ⟨n.stack.dns, n.stack⟩
      { n with stack := { s.stack with dns := s.dns } }
  | .processTimers allocates, n => processTimers cb (DNSHandler.resolver allocates) n

/-- The registry of a host and the numbers of its handlers agree. -/
def Intact (n : Net α) : Prop := Kept n.tcp.timerIndex n.stack.dns.timer n.stack

/-- To take socket `i` out of the table leaves a socket in it, or a timer to give back. -/
def CanDrop (i : ℕ) (n : Net α) : Prop :=
  n.tcp.timerIndex ≠ 0 ∨ ∃ j, j ≠ i ∧ n.Registered j

/-- Names are looked up by the DNS handler of the stack, and nobody else touches the registry
or the fields of the handlers. -/
def Arrives (n : Net α) : Event α → Prop
  | .operation (.event (.connect _ dns)) => ∃ allocates, dns = DNSHandler.resolver allocates
  | .operation (.event (.tick dns)) => ∃ allocates, dns = DNSHandler.resolver allocates
  | .operation (.event (.elsewhere h _)) =>
      h.etherControl = n.stack.etherControl ∧ h.arp.timer = n.stack.arp.timer ∧
        h.dns.timer = n.stack.dns.timer ∧ (.outOfBounds ∈ h.log → .outOfBounds ∈ n.stack.log)
  | _ => True

/-- The event calls `TCPHandler::unregisterSocket`, if it does, only when there is a timer to give
back or no need to. -/
def Orderly (n : Net α) : Event α → Prop
  | .operation (.unregisterSocket i) => CanDrop i n
  | .operation (.unregisterTCPHandler i) => (n.sockets i).tcp = some n.tcp.number → CanDrop i n
  | .operation (.delete i) => (n.sockets i).tcp = some n.tcp.number → CanDrop i n
  | _ => True

variable {cb}

namespace Intact

variable {n : Net α} {i : ℕ}

/-- A call on a socket keeps the invariant. -/
theorem call (hn : Intact n) {f : World α → World α}
    (hf : Socket.Abides (n.world i) (f (n.world i))) : Intact (n.call i f) :=
  hf.stack.kept hn

/-! ### Registration -/

/-- So does the registration of the timer. -/
theorem ensureTimer (hn : Intact n) : Intact (TCPHandler.ensureTimer n).2 := by
  unfold TCPHandler.ensureTimer
  split
  case isTrue => exact hn
  case isFalse hzero =>
    have hrest := ARPHandler.registerTimer_rest .tcp 1000 n.stack
    have harp : (EtherControl.registerTimer .tcp 1000 n.stack).2.arp = n.stack.arp := by rw [hrest]
    have hdns : (EtherControl.registerTimer .tcp 1000 n.stack).2.dns = n.stack.dns := by rw [hrest]
    refine hn.registerTimer .tcp (congrArg UInt8.toNat (not_not.mp hzero)) 1000
      (EtherControl.registerTimer .tcp 1000 n.stack).2.arp ?_
    funext handler
    cases handler with
    | arp =>
        rw [Function.update_of_ne (by decide)]
        exact congrArg (fun arp : ARPHandler => arp.timer.toNat) harp
    | dns =>
        rw [Function.update_of_ne (by decide)]
        exact congrArg (fun dns : DNSHandler => dns.timer.toNat) hdns
    | tcp => rw [Function.update_self]; rfl

/-- A registration on the handler's side, given that the socket's side keeps the registry. -/
theorem registerSocketWith {registerTCPHandler : Net α → Bool × Net α}
    (h : ∀ n, Intact n → Intact (registerTCPHandler n).2) (hn : Intact n) :
    Intact (TCPHandler.registerSocketWith registerTCPHandler i n).2 := by
  by_cases hin : some i ∈ n.tcp.registeredSockets
  · rw [TCPHandler.registerSocketWith_found hin]
    exact hn
  cases hk : n.tcp.registeredSockets.findIdx? (·.isNone) with
  | none =>
      have hfull : none ∉ n.tcp.registeredSockets := fun hfree =>
        absurd (List.findIdx?_eq_none_iff.mp hk none hfree) (by simp)
      rw [TCPHandler.registerSocketWith_full hin hfull]
      exact hn
  | some k =>
      have hcall := h (TCPHandler.setSlot n k (some i)) hn
      rcases hx : registerTCPHandler (TCPHandler.setSlot n k (some i)) with ⟨registered, n₁⟩
      rw [hx] at hcall
      rw [TCPHandler.registerSocketWith_free hin hk hx]
      split
      · split
        · exact hcall.ensureTimer
        · exact hcall.ensureTimer
      · exact hcall

/-- And the other way round. -/
theorem registerTCPHandlerWith {registerSocket : Net α → Bool × Net α}
    (h : ∀ n, Intact n → Intact (registerSocket n).2) (cb : Callbacks α) (hn : Intact n) :
    Intact (Socket.registerTCPHandlerWith registerSocket cb i n).2 := by
  by_cases hhere : (n.sockets i).tcp = some n.tcp.number
  · rw [Socket.registerTCPHandlerWith_attached hhere]
    exact hn
  rcases htcp : (n.sockets i).tcp with _ | m
  · have hcall := h (Socket.attach i n) hn
    rcases hx : registerSocket (Socket.attach i n) with ⟨registered, n₁⟩
    rw [hx] at hcall
    rw [Socket.registerTCPHandlerWith_detached htcp hx]
    split
    · obtain ⟨htcpa, hstacka, -⟩ := Socket.adopt_rest cb i n₁
      unfold Intact
      rw [htcpa, hstacka]
      exact hcall
    · exact hcall
  · rw [Socket.registerTCPHandlerWith_elsewhere htcp fun hm => hhere (hm ▸ htcp)]
    exact hn

/-- So does the registration of a socket. -/
theorem registerSocket (cb : Callbacks α) (i : ℕ) (hn : Intact n) :
    Intact (TCPHandler.registerSocket cb i n).2 :=
  hn.registerSocketWith fun _ hn' => hn'.registerTCPHandlerWith
    (fun _ hn'' => hn''.registerSocketWith fun _ h => h) cb

/-- So does the attachment of a socket. -/
theorem registerTCPHandler (cb : Callbacks α) (i : ℕ) (hn : Intact n) :
    Intact (Socket.registerTCPHandler cb i n).2 :=
  hn.registerTCPHandlerWith (fun _ hn' => hn'.registerSocketWith
    fun _ hn'' => hn''.registerTCPHandlerWith (fun _ h => h) cb) cb

/-! ### Unregistering -/

/-- The timer is given back if it is there. -/
theorem unregisterSocket (hn : Intact n) (hdrop : CanDrop i n) :
    Intact (TCPHandler.unregisterSocket i n) := by
  unfold TCPHandler.unregisterSocket
  dsimp only
  split
  case isFalse => exact hn
  case isTrue hempty =>
    have hnone := List.count_eq_length.mp hempty
    have htimer : n.tcp.timerIndex ≠ 0 := by
      refine hdrop.resolve_right ?_
      rintro ⟨j, hj, hreg⟩
      have hstays : some j ∈ (TCPHandler.clearSlots i n).tcp.registeredSockets := by
        refine List.mem_map.mpr ⟨some j, hreg, ?_⟩
        rw [if_neg fun h => hj (Option.some.inj h)]
      exact absurd (hnone _ hstays) (by simp)
    have hrest := (unregisterTimer_unregistered hn.timers hn.numbers .tcp rfl htimer).rest
    have harp : (EtherControl.unregisterTimer n.tcp.timerIndex n.stack).arp = n.stack.arp := by
      rw [hrest]
    have hdns : (EtherControl.unregisterTimer n.tcp.timerIndex n.stack).dns = n.stack.dns := by
      rw [hrest]
    refine hn.unregisterTimer .tcp rfl htimer
      (EtherControl.unregisterTimer n.tcp.timerIndex n.stack).arp ?_
    funext handler
    cases handler with
    | arp =>
        rw [Function.update_of_ne (by decide)]
        exact congrArg (fun arp : ARPHandler => arp.timer.toNat) harp
    | dns =>
        rw [Function.update_of_ne (by decide)]
        exact congrArg (fun dns : DNSHandler => dns.timer.toNat) hdns
    | tcp => rw [Function.update_self]; rfl

/-- `Socket::unregisterTCPHandler`, when the socket is not registered or can be dropped. -/
theorem unregisterTCPHandler {cb : Callbacks α} (hcb : Socket.Abiding cb) (hn : Intact n)
    (hdrop : (n.sockets i).tcp = some n.tcp.number → CanDrop i n) :
    Intact (Socket.unregisterTCPHandler cb i n) := by
  unfold Socket.unregisterTCPHandler
  split
  case isFalse => exact hn
  case isTrue =>
    have hforce : ∀ n : Net α, Intact n → Intact (n.call i (Socket.forceClose cb)) :=
      fun n hn => hn.call ((Socket.Frames.abides hcb).forceClose _)
    have hself := (Socket.Frames.abides hcb).forceClose (n.world i)
    have htcp : ((n.call i (Socket.forceClose cb)).sockets i).tcp = (n.sockets i).tcp := by
      rw [← show (Socket.forceClose cb (n.world i)).self.tcp = (n.sockets i).tcp from hself.tcp]
      exact congrArg Socket.tcp (if_pos hself.this.symm)
    have hclosed := hforce n hn
    have hdrop : ((n.call i (Socket.forceClose cb)).sockets i).tcp = some n.tcp.number →
        CanDrop i (n.call i (Socket.forceClose cb)) := by
      rw [htcp]
      exact hdrop
    generalize hn₁ : n.call i (Socket.forceClose cb) = n₁ at hclosed hdrop ⊢
    have hnumber : n₁.tcp.number = n.tcp.number := by rw [← hn₁]; rfl
    unfold Socket.dropTCPHandler
    dsimp only
    have hset : ∀ n : Net α, Intact n →
        Intact (n.call i fun w => w.setSelf { w.self with tcp := none, stash := none }) :=
      fun _ hn => hn
    refine hforce _ (hset _ ?_)
    split
    · refine hclosed.congr rfl rfl fun hmem => ?_
      have hlog : (n₁.call i fun w => w.observe .nullDereference).stack.log =
          n₁.stack.log ++ [.nullDereference] := rfl
      rw [hlog, List.mem_append] at hmem
      exact hmem.elim hclosed.log (by simp)
    case h_2 m hm =>
      split
      case isTrue hhere =>
        exact hclosed.unregisterSocket (hdrop (by rw [hm, hhere, hnumber]))
      case isFalse => exact hclosed

/-! ### Steps -/

section Step

variable (hcb : ∀ i, Socket.Abiding (cb i))

include hcb

/-- The TCP handler's timer. -/
theorem tcpTimer (allocates : Bool) (hn : Intact n) :
    Intact (TCPHandler.handleTimer cb (DNSHandler.resolver allocates) n) := by
  have hslots : ∀ k, Intact (TCPHandler.checkSlots cb (DNSHandler.resolver allocates) n k) := by
    intro k
    induction k with
    | zero => exact hn
    | succ k ih =>
        rw [TCPHandler.checkSlots]
        split
        · exact ih.call ((Socket.Frames.abides (hcb _)).checkState
            (Socket.resolver_abides allocates) _)
        · exact ih
  exact hslots _

/-- So does a packet. -/
theorem handlePacket (sourceIP : IPAddr) (packet : Bytes) (hn : Intact n) :
    Intact (TCPHandler.handlePacket cb sourceIP packet n) := by
  have hsegment : ∀ i, Intact (n.call i (Socket.handleSegment (cb i) sourceIP packet)) :=
    fun i => hn.call ((Socket.Frames.abides (hcb i)).handleSegment sourceIP packet _
      fun _ _ _ => ⟨rfl, rfl, .refl⟩)
  unfold TCPHandler.handlePacket
  split
  case h_2 => exact hn
  split
  case h_1 i _ => exact hsegment i
  split
  case h_1 i _ => exact hsegment i
  case h_2 => exact hn

/-- An operation of the sockets and the TCP handler. -/
theorem perform {o : TCPHandler.Operation α} (hn : Intact n) (ha : Arrives n (.operation o))
    (ho : Orderly n (.operation o)) : Intact (TCPHandler.perform cb o n) := by
  have hf := fun i => Socket.Frames.abides (hcb i)
  cases o with
  | registerSocket i => exact hn.registerSocket (cb i) i
  | unregisterTCPHandler i => exact hn.unregisterTCPHandler (hcb i) ho
  | unregisterSocket i => exact hn.unregisterSocket ho
  | delete i => exact hn.unregisterTCPHandler (hcb i) ho
  | event e =>
      cases e with
      | register i => exact hn.registerTCPHandler (cb i) i
      | connect i dns =>
          obtain ⟨allocates, rfl⟩ := ha
          exact hn.call ((hf i).connect (Socket.resolver_abides allocates) _)
      | send i length => exact hn.call ((hf i).send length _)
      | sendBytes i data => exact hn.call ((hf i).sendBytes data _)
      | close i => exact hn.call ((hf i).close _)
      | forceClose i => exact hn.call ((hf i).forceClose _)
      | setTimeout i t => exact hn
      | packet sourceIP packet => exact hn.handlePacket hcb sourceIP packet
      | tick dns =>
          obtain ⟨allocates, rfl⟩ := ha
          exact hn.tcpTimer hcb allocates
      | elsewhere h app =>
          obtain ⟨hether, harp, hdns, hlog⟩ := ha
          have hkept := hn.congr hether harp fun hmem => hn.log (hlog hmem)
          rw [← hdns] at hkept
          exact hkept

/-- A timer that expires is that of the handler that is called. -/
theorem processTimer (allocates : Bool) (i processed : ℕ) (hn : Intact n) :
    Intact (processTimer cb (DNSHandler.resolver allocates) i processed n).2 := by
  unfold EtherControl.processTimer
  split
  case isFalse => exact hn
  split
  case h_2 => exact hn
  case h_1 delayTime startTime handler hentry =>
    split
    case isFalse => exact hn
    case isTrue =>
      obtain ⟨hlt, hget⟩ := List.getElem?_eq_some_iff.mp hentry
      have howners : owners (restart i ⟨delayTime, startTime, some handler⟩ n.stack) =
          owners n.stack := by
        have hin : i < (owners n.stack).length := by rw [owners, List.length_map]; exact hlt
        have hslot : (owners n.stack)[i] = some handler := by
          simp only [owners, List.getElem_map, hget]
        show List.map Timer.handler (n.stack.etherControl.timerRegistry.set i _) = owners n.stack
        rw [List.map_set]
        show (owners n.stack).set i (some handler) = _
        rw [← hslot, List.set_getElem_self]
      have hrestart : Intact { n with
          stack := restart i ⟨delayTime, startTime, some handler⟩ n.stack } := by
        refine ⟨?_, ?_, ?_, hn.log⟩
        · exact lt_of_eq_of_lt List.length_set hn.capacity
        · exact hn.timers.trans (congrArg held howners.symm)
        · show Matches (owners (restart i _ n.stack)) _
          rw [howners]
          exact hn.numbers
      have hslot : (owners n.stack)[i]? = some (some handler) := by
        rw [owners, List.getElem?_map, hentry]
        rfl
      have hnumber := (hn.numbers handler i).mp hslot
      cases handler with
      | arp =>
          have hkept := hrestart.arpTimer
          rw [← Kept.dns_arpTimer] at hkept
          exact hkept
      | tcp => exact hrestart.tcpTimer hcb allocates
      | dns =>
          have hne : n.stack.dns.timer ≠ 0 := by
            intro hzero
            have hkept : n.stack.dns.timer.toNat = i + 1 := hnumber
            rw [hzero] at hkept
            exact absurd hkept (by simp)
          have htimer := hrestart.dnsTimer (s := ⟨n.stack.dns,
            restart i ⟨delayTime, startTime, some .dns⟩ n.stack⟩) hne
          exact htimer.congr rfl rfl htimer.log

/-- An event keeps the registry intact. -/
theorem run {e : Event α} (hn : Intact n) (ha : Arrives n e) (ho : Orderly n e) :
    Intact (run cb e n) := by
  cases e with
  | operation o => exact hn.perform hcb ha ho
  | requestMACAddress remoteIP =>
      have hs := Serves.of_requestMACAddress remoteIP n.stack
      have hkept := hn.serves hs
      rw [← hs.dns_eq] at hkept
      exact hkept
  | handlePayload p =>
      have hs := Serves.of_handlePayload p n.stack
      have hkept := hn.serves hs
      rw [← hs.dns_eq] at hkept
      exact hkept
  | resolve domainName force allocates =>
      have hkept := Kept.resolve (s := ⟨n.stack.dns, n.stack⟩) hn domainName force allocates
      exact hkept.congr rfl rfl hkept.log
  | handleDatagram sourceIP packet =>
      have hkept : Kept n.tcp.timerIndex
          (DNSHandler.handleDatagram sourceIP packet ⟨n.stack.dns, n.stack⟩).dns.timer
          (DNSHandler.handleDatagram sourceIP packet ⟨n.stack.dns, n.stack⟩).stack := by
        unfold DNSHandler.handleDatagram
        split
        · exact hn
        · exact hn
      exact hkept.congr rfl rfl hkept.log
  | processTimers allocates =>
      have hbelow : ∀ k, Intact (processBelow cb (DNSHandler.resolver allocates) n k).2 := by
        intro k
        induction k with
        | zero => exact hn
        | succ k ih => exact ih.processTimer hcb allocates k _
      exact hbelow _

end Step

end Intact

/-- The number of its timer that a handler keeps. -/
def timerOf (n : Net α) : TimerHandler → UInt8
  | .arp => n.stack.arp.timer
  | .dns => n.stack.dns.timer
  | .tcp => n.tcp.timerIndex

/-- No number has led `unregisterTimer` outside the registry, the timers in use have been counted
right, and every number kept is that of an entry with the handler that keeps it. -/
structure Integrity (n : Net α) : Prop where
  calls : .outOfBounds ∉ n.stack.log
  timers : n.stack.etherControl.timers =
    n.stack.etherControl.timerRegistry.countP fun t => t.handler.isSome
  kept : ∀ handler, timerOf n handler ≠ 0 →
    ∃ t, n.stack.etherControl.timerRegistry[(timerOf n handler).toNat - 1]? = some t ∧
      t.handler = some handler

/-- The invariant gives the integrity of the registry. -/
theorem Intact.integrity {n : Net α} (hn : Intact n) : Integrity n := by
  refine ⟨hn.log, ?_, fun handler hne => ?_⟩
  · rw [hn.timers, held, owners, List.countP_map]
    rfl
  · have hnumber : kept n.tcp.timerIndex n.stack.dns.timer n.stack handler =
        (timerOf n handler).toNat := by
      cases handler with
      | arp => rfl
      | dns => rfl
      | tcp => rfl
    have hpos : kept n.tcp.timerIndex n.stack.dns.timer n.stack handler ≠ 0 := by
      rw [hnumber]
      exact fun h => hne (UInt8.toNat_inj.mp h)
    have hslot := hn.numbers.slot hpos
    rw [hnumber, owners, List.getElem?_map, Option.map_eq_some_iff] at hslot
    exact hslot

/-- A host whose handlers have just been constructed: no timer is registered, and the capacity of
the registry is a byte. -/
structure Started (n : Net α) : Prop where
  capacity : n.stack.etherControl.timerRegistry.length < 256
  timers : n.stack.etherControl.timers = 0
  free : ∀ t ∈ n.stack.etherControl.timerRegistry, t.handler = none
  numbers : ∀ handler, timerOf n handler = 0
  log : .outOfBounds ∉ n.stack.log

/-- The invariant holds at the start. -/
theorem Started.intact {n : Net α} (hn : Started n) : Intact n := by
  have hfree : ∀ slot ∈ owners n.stack, slot = none := by
    intro slot hslot
    obtain ⟨t, ht, rfl⟩ := List.mem_map.mp hslot
    exact hn.free t ht
  refine ⟨hn.capacity, ?_, matches_free hfree fun handler => ?_, hn.log⟩
  · rw [hn.timers, held, List.countP_eq_zero.mpr]
    intro slot hslot
    rw [hfree slot hslot]
    simp
  · have hzero := congrArg UInt8.toNat (hn.numbers handler)
    cases handler with
    | arp => exact hzero
    | dns => exact hzero
    | tcp => exact hzero

/-- In every run in which `unregisterSocket` finds a timer to give back, or a socket left in the
table, the registry keeps its integrity. -/
theorem reaches_registryIntact (hcb : ∀ i, Socket.Abiding (cb i)) {n n' : Net α}
    (hstart : Started n) (hrun : Reaches (fun n e => Arrives n e ∧ Orderly n e) (run cb) n n') :
    Integrity n' :=
  (hrun.invariant hstart.intact fun _ _ hn he => hn.run hcb he.1 he.2).integrity

/-- Otherwise it leads outside. -/
theorem unregisterSocket_outOfBounds {i : ℕ} {n : Net α} (hno : ¬ CanDrop i n) :
    .outOfBounds ∈ (TCPHandler.unregisterSocket i n).stack.log := by
  obtain ⟨htimer, hnone⟩ := not_or.mp hno
  have htimer : n.tcp.timerIndex = 0 := not_not.mp htimer
  have hempty : (TCPHandler.clearSlots i n).tcp.registeredSockets.count none =
      (TCPHandler.clearSlots i n).tcp.registeredSockets.length := by
    rw [List.count_eq_length]
    intro slot hslot
    obtain ⟨s, hs, rfl⟩ := List.mem_map.mp hslot
    cases s with
    | none => simp
    | some j =>
        by_cases hj : j = i
        · rw [if_pos (by rw [hj])]
        · exact absurd ⟨j, hj, hs⟩ hnone
  have hout : (TCPHandler.unregisterSocket i n).stack =
      EtherControl.unregisterTimer n.tcp.timerIndex n.stack := by
    unfold TCPHandler.unregisterSocket
    dsimp only
    rw [if_pos hempty]
    rfl
  rw [hout, EtherControl.unregisterTimer, if_pos (.inl htimer)]
  exact List.mem_append_right _ (List.mem_singleton_self _)

/-- A host of three timers with a socket that is to connect. -/
def exampleStarted : Net Unit :=
  ⟨(TCPHandler.new 0 1 (exampleHost 1 4)).1, (TCPHandler.new 0 1 (exampleHost 1 4)).2,
    fun _ => Socket.newClient ⟨10, 0, 0, 2⟩ 80 7 0 Socket.zero, ()⟩

theorem started_exampleStarted : Started exampleStarted := by
  refine ⟨by decide, rfl, by decide, fun handler => ?_, by decide⟩
  cases handler with
  | arp => rfl
  | dns => rfl
  | tcp => rfl

/-- The socket is registered and asks for a route. -/
theorem reaches_registryIntact_example :
    Integrity (run (fun _ => exampleApp.callbacks)
      (.operation (.event (.connect 0 (DNSHandler.resolver true))))
      (run (fun _ => exampleApp.callbacks) (.operation (.registerSocket 0)) exampleStarted)) :=
  reaches_registryIntact (fun _ => Socket.App.abiding exampleApp) started_exampleStarted
    ((Reaches.refl.step (e := Event.operation (.registerSocket 0)) ⟨trivial, trivial⟩).step
      (e := Event.operation (.event (.connect 0 (DNSHandler.resolver true))))
      ⟨⟨true, rfl⟩, trivial⟩)

/-- The socket is registered, unregistered by the handler, and destroyed. -/
def exampleDropped : Net Unit :=
  run (fun _ => exampleApp.callbacks) (.operation (.delete 0))
    (run (fun _ => exampleApp.callbacks) (.operation (.unregisterSocket 0))
      (run (fun _ => exampleApp.callbacks) (.operation (.registerSocket 0)) exampleStarted))

/-- Without the condition it fails: a socket that is registered, unregistered and deleted. -/
theorem delete_outOfBounds :
    Started exampleStarted ∧
      Reaches Arrives (run fun _ => exampleApp.callbacks) exampleStarted exampleDropped ∧
      .outOfBounds ∈ exampleDropped.stack.log ∧ ¬ Integrity exampleDropped := by
  have hout : .outOfBounds ∈ exampleDropped.stack.log := by decide +kernel
  exact ⟨started_exampleStarted,
    ((Reaches.refl.step (e := Event.operation (.registerSocket 0)) trivial).step
      (e := Event.operation (.unregisterSocket 0)) trivial).step
      (e := Event.operation (.delete 0)) trivial, hout, fun h => h.calls hout⟩

end EtherControl

end AtmegaNet
