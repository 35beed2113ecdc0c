import AtmegaNet.IPHandler

/-!
# Asking for a route

`Socket::transmit` asks for a route when it has none, and so writes an ARP request over the
beginning of the packet it was about to send. This module bounds what that can disturb.

## Main results

* `Stack.Scratch a`: below address `a` the send buffer may have been overwritten, frames may
  have left, and the ARP table may have changed, but no route was lost and everything else
  is as it was.
* `ARPHandler.requestMACAddress_scratch`: `requestMACAddress` stays below address 42, the
  end of an ARP frame.
-/

open Procedure

namespace AtmegaNet

/-! ### The routing table -/

namespace ARPHandler

/-- The table has an Ethernet address for `ip`. -/
def Resolves (ip : IPAddr) (table : List EtherRoute) : Prop :=
  ∃ r, table.find? (fun r => r.ipAddress = ip) = some r ∧ r.resolved

theorem isSome_getMACAddress {ip : IPAddr} {arp : ARPHandler} :
    (arp.getMACAddress ip).isSome ↔ Resolves ip arp.routingTable := by
  unfold getMACAddress Resolves
  cases arp.routingTable.find? (fun r => r.ipAddress = ip) with
  | none => simp
  | some r => by_cases hr : r.resolved <;> simp [hr]

/-- Changing one entry keeps a route, unless the entry is the route's and loses it, or
takes the route's address. -/
theorem Resolves.modify {ip : IPAddr} {table : List EtherRoute} (h : Resolves ip table)
    {i : ℕ} {f : EtherRoute → EtherRoute}
    (hf : ∀ e, table[i]? = some e →
      (e.ipAddress = ip → e.resolved → (f e).ipAddress = ip ∧ (f e).resolved) ∧
        (e.ipAddress ≠ ip → (f e).ipAddress ≠ ip)) :
    Resolves ip (table.modify i f) := by
  induction table generalizing i with
  | nil => simp [Resolves] at h
  | cons e rest ih =>
      obtain ⟨r, hr, hres⟩ := h
      by_cases he : e.ipAddress = ip
      · rw [List.find?_cons_of_pos (by simpa using he)] at hr
        cases hr
        cases i with
        | zero =>
            obtain ⟨h1, h2⟩ := (hf e (by simp)).1 he hres
            exact ⟨f e, by simp [h1], h2⟩
        | succ i => exact ⟨e, by simp [he], hres⟩
      · rw [List.find?_cons_of_neg (by simpa using he)] at hr
        cases i with
        | zero =>
            have h1 := (hf e (by simp)).2 he
            exact ⟨r, by simp [h1, hr], hres⟩
        | succ i =>
            obtain ⟨r', hr', hres'⟩ := ih ⟨r, hr, hres⟩ fun e' he' => hf e' (by simpa using he')
            exact ⟨r', by simpa [he] using hr', hres'⟩

/-- The entry `findRoute` names is a resolved one of the address, or the one it started with. -/
theorem findRoute_eq_some {ip : IPAddr} {table : List EtherRoute} {i j : ℕ} {index : Option ℕ}
    (h : findRoute ip table i index = some (some j)) :
    index = some j ∨ ∃ e, i ≤ j ∧ table[j - i]? = some e ∧ e.ipAddress = ip ∧ e.resolved := by
  induction table generalizing i index with
  | nil => exact .inl (by simpa [findRoute] using h)
  | cons r rest ih =>
      rw [findRoute] at h
      split at h
      · next hip =>
          split at h
          · next hres =>
              rcases ih h with h' | ⟨e, hij, he, h1, h2⟩
              · cases h'
                exact .inr ⟨r, le_refl _, by simp, hip, hres⟩
              · obtain ⟨k, rfl⟩ := Nat.exists_eq_add_of_le hij
                refine .inr ⟨e, by omega, ?_, h1, h2⟩
                rw [show i + 1 + k - i = (i + 1 + k - (i + 1)) + 1 by omega]
                simpa using he
          · exact absurd h (by simp)
      · rcases ih h with h' | ⟨e, hij, he, h1, h2⟩
        · exact .inl h'
        · obtain ⟨k, rfl⟩ := Nat.exists_eq_add_of_le hij
          refine .inr ⟨e, by omega, ?_, h1, h2⟩
          rw [show i + 1 + k - i = (i + 1 + k - (i + 1)) + 1 by omega]
          simpa using he

/-- When `findRoute` names no entry, the table has none of the address. -/
theorem findRoute_eq_none {ip : IPAddr} {table : List EtherRoute} {i : ℕ} {index : Option ℕ}
    (h : findRoute ip table i index = some none) :
    index = none ∧ ∀ e ∈ table, e.ipAddress ≠ ip := by
  induction table generalizing i index with
  | nil => exact ⟨by simpa [findRoute] using h, by simp⟩
  | cons r rest ih =>
      rw [findRoute] at h
      split at h
      · split at h
        · exact absurd (ih h).1 (by simp)
        · exact absurd h (by simp)
      · next hip =>
          obtain ⟨h1, h2⟩ := ih h
          exact ⟨h1, by simpa [hip] using h2⟩

@[simp] theorem resolved_setAttemptCount (r : EtherRoute) :
    (r.setAttemptCount 1).resolved = r.resolved := by
  unfold EtherRoute.resolved EtherRoute.setAttemptCount
  rw [decide_eq_decide]
  dsimp only
  generalize r.lookupStatus = status
  revert status
  exact forall_uint8 (by decide +kernel)

end ARPHandler

/-! ### What a request disturbs -/

/-- Below address `a` the send buffer may have been overwritten, frames may have left, and the
ARP table may have changed without losing a route; everything else is as it was. -/
structure Stack.Scratch (a : ℕ) (h h' : Stack) : Prop where
  rest : h' = { h with
    mem := h'.mem, log := h'.log, arp := h'.arp, etherControl := h'.etherControl }
  mem : KeepsFrom a h.mem h'.mem
  log : ∃ l, h'.log = h.log ++ l ∧ ∀ o ∈ l, ∃ data, o = .frame data
  routes : ∀ ip, ARPHandler.Resolves ip h.arp.routingTable →
    ARPHandler.Resolves ip h'.arp.routingTable

namespace Stack.Scratch

variable {a : ℕ} {h h' h'' : Stack}

theorem refl (h : Stack) : Scratch a h h :=
  ⟨rfl, .refl _, ⟨[], by simp⟩, fun _ hr => hr⟩

theorem trans (h₁ : Scratch a h h') (h₂ : Scratch a h' h'') : Scratch a h h'' := by
  obtain ⟨l₁, hl₁, hf₁⟩ := h₁.log
  obtain ⟨l₂, hl₂, hf₂⟩ := h₂.log
  refine ⟨?_, h₁.mem.trans h₂.mem, ⟨l₁ ++ l₂, by rw [hl₂, hl₁, List.append_assoc], ?_⟩,
    fun ip hr => h₂.routes ip (h₁.routes ip hr)⟩
  · rw [h₂.rest, h₁.rest]
  · intro o ho
    rcases List.mem_append.mp ho with ho | ho
    · exact hf₁ o ho
    · exact hf₂ o ho

instance : IsPreorder Stack (Scratch a) where
  refl := refl
  trans _ _ _ := trans

/-- A route is still there. -/
theorem route (hs : Scratch a h h') {ip : IPAddr}
    (hr : (IPHandler.getMACForIP ip h).isSome) : (IPHandler.getMACForIP ip h').isSome := by
  have hip : h'.ip = h.ip := by rw [hs.rest]
  have hkeep : ∀ ip, (h.arp.getMACAddress ip).isSome → (h'.arp.getMACAddress ip).isSome :=
    fun ip hr => ARPHandler.isSome_getMACAddress.mpr
      (hs.routes ip (ARPHandler.isSome_getMACAddress.mp hr))
  unfold IPHandler.getMACForIP at hr ⊢
  rw [hip]
  split
  · rfl
  · next h1 =>
      rw [if_neg h1] at hr
      split
      · next h2 => exact hkeep _ (by rwa [if_pos h2] at hr)
      · next h2 => exact hkeep _ (by rwa [if_neg h2] at hr)

/-- A memory access that stays below `a`. -/
theorem within_onMem {α : Type} {x : Proc Memory α} (hx : Proc.Within (KeepsFrom a) x) :
    Proc.Within (Scratch a) (onMem x) := by
  intro h
  exact ⟨rfl, hx h.mem, ⟨[], by simp [onMem, Proc.run_zoom]⟩, fun _ hr => hr⟩

/-- A write into a window of the send buffer that stays below `a`, or fails. -/
theorem within_write {b : Buffer} (hb : b.Fits) (hroot : b.root = .send) {start : UInt16}
    {data : Bytes} (ha : b.base + start.toNat + data.length ≤ a) (ha16 : a < 65536) :
    Proc.Within (Scratch a) (onMem (b.write start data)) :=
  within_onMem (KeepsFrom.within_write hb hroot ha ha16)

end Stack.Scratch

/-- Sending a frame writes its header only. -/
theorem EtherControl.sendFrame_scratch {a : ℕ} (ha : 14 ≤ a) (ha16 : a < 65536)
    (destinationMAC : MACAddr) (protocol payloadLength : UInt16) :
    Proc.Within (Stack.Scratch a) (sendFrame destinationMAC protocol payloadLength) := by
  intro h
  have hb := h.fits_sendBuffer
  have hbase : h.sendBuffer.base = 0 := rfl
  have hwrite : ∀ (start : UInt16) (data : Bytes), start.toNat + data.length ≤ 14 →
      Proc.Within (Stack.Scratch a) (Stack.onMem (h.sendBuffer.write start data)) :=
    fun start data hin => .within_write hb rfl (by omega) ha16
  unfold sendFrame
  rw [Proc.run_read_bind, Proc.run_read_bind]
  split
  · exact .refl h
  refine Proc.Within.bind (hwrite 0 destinationMAC.bytes (by simp)) (fun _ => ?_) h
  refine .bind (hwrite 6 _ (by simp)) fun _ => ?_
  refine .bind (hwrite 12 _ (by simp)) fun _ => ?_
  refine .bind (Proc.within_read _) fun frame => ?_
  exact Proc.within_modify fun h =>
    ⟨rfl, .refl _, ⟨[.frame frame], rfl, by simp⟩, fun _ hr => hr⟩

namespace ARPHandler

/-- An ARP request is 28 bytes behind the Ethernet header. -/
theorem sendARPRequest_scratch (target_protocol_addr : IPAddr) :
    Proc.Within (Stack.Scratch 42) (sendARPRequest target_protocol_addr) := by
  intro h
  have hbase := h.base_etherPayload_le
  have hwrite : ∀ (start : UInt16) (data : Bytes), start.toNat + data.length ≤ 28 →
      Proc.Within (Stack.Scratch 42) (Stack.onMem (h.etherPayload.write start data)) :=
    fun start data hin =>
      .within_write h.fits_etherPayload h.root_etherPayload (by omega) (by omega)
  unfold sendARPRequest
  rw [Proc.run_read_bind, Proc.run_read_bind, Proc.run_read_bind]
  simp only [Buffer.write8, Buffer.writeNet16, Buffer.write16]
  refine Proc.Within.bind (hwrite 0 (bytesOf16 (HTONS 0x0001)) (by simp)) (fun _ => ?_) h
  refine .bind (hwrite 2 _ (by simp)) fun _ => ?_
  refine .bind (hwrite 4 _ (by simp)) fun _ => ?_
  refine .bind (hwrite 5 _ (by simp)) fun _ => ?_
  refine .bind (hwrite 6 _ (by simp)) fun _ => ?_
  refine .bind (hwrite 8 _ (by simp)) fun _ => ?_
  refine .bind (hwrite 14 _ (by simp)) fun _ => ?_
  refine .bind (hwrite 18 _ (by simp)) fun _ => ?_
  refine .bind (hwrite 19 _ (by simp)) fun _ => ?_
  refine .bind (hwrite 20 _ (by simp)) fun _ => ?_
  refine .bind (hwrite 21 _ (by simp)) fun _ => ?_
  refine .bind (hwrite 22 _ (by simp)) fun _ => ?_
  refine .bind (hwrite 23 _ (by simp)) fun _ => ?_
  refine .bind (hwrite 24 _ (by simp)) fun _ => ?_
  exact EtherControl.sendFrame_scratch (by omega) (by omega) _ _ _

theorem registerTimer_rest (handler : TimerHandler) (millisDelay : UInt16) (h : Stack) :
    (EtherControl.registerTimer handler millisDelay h).2 =
      { h with etherControl := (EtherControl.registerTimer handler millisDelay h).2.etherControl } := by
  unfold EtherControl.registerTimer
  split <;> rfl

/-- Registering the timer leaves the table alone. -/
theorem ensureTimer_scratch (h : Stack) :
    Stack.Scratch 42 h (ensureTimer.run h).2 ∧
      (ensureTimer.run h).2.arp.routingTable = h.arp.routingTable := by
  have hrest := registerTimer_rest .arp 250 h
  unfold ensureTimer
  rw [Proc.run_read_bind]
  split
  · exact ⟨.refl h, rfl⟩
  · rw [Proc.run_modify_bind, Proc.run_read_bind]
    generalize EtherControl.registerTimer .arp 250 h = registered at hrest ⊢
    obtain ⟨timer, h'⟩ := registered
    dsimp only at hrest ⊢
    rw [hrest]
    split <;> exact ⟨⟨rfl, .refl _, ⟨[], by simp⟩, fun _ hr => hr⟩, rfl⟩

/-- The lookup of an address starts without losing a route, when the entry taken for it is
one of the address or not in use. -/
theorem startLookup_scratch {remoteIP : IPAddr} {index : ℕ} {h : Stack}
    (hindex : ∀ e, h.arp.routingTable[index]? = some e →
      e.ipAddress = remoteIP ∨
        (e.resolved = false ∧ ∀ e' ∈ h.arp.routingTable, e'.ipAddress ≠ remoteIP)) :
    Stack.Scratch 42 h ((startLookup remoteIP index).run h).2 := by
  obtain ⟨hs, htable⟩ := ensureTimer_scratch h
  unfold startLookup
  rcases hrun : ensureTimer.run h with ⟨_ | u, h'⟩
  · rw [Proc.run_bind_of_none hrun]
    rwa [hrun] at hs
  · rw [Proc.run_bind_of_some hrun, Proc.run_modify_bind]
    rw [hrun] at hs htable
    refine hs.trans (.trans ?_ (sendARPRequest_scratch remoteIP _))
    refine ⟨rfl, .refl _, ⟨[], by simp⟩, ?_⟩
    intro ip hr
    refine hr.modify ?_
    intro e he
    rw [htable] at he
    rcases hindex e he with hip | ⟨hres, hnone⟩
    · have hres : ∀ r : EtherRoute, r.resolved → EtherRoute.resolved
          { r.setAttemptCount 1 with lookupTime := h'.millis, ipAddress := remoteIP } :=
        fun r h2 => (resolved_setAttemptCount r).trans h2
      exact ⟨fun h1 h2 => ⟨hip ▸ h1, hres e h2⟩, fun hne => hip ▸ hne⟩
    · refine ⟨fun _ h2 => absurd h2 (by simp [hres]), ?_⟩
      rintro - rfl
      obtain ⟨r, hr, -⟩ := hr
      rw [htable] at hr
      exact hnone r (List.mem_of_find?_eq_some hr) (by simpa using List.find?_some hr)

/-- Asking for a route forgets none, and stays in the first 42 bytes of the send buffer. -/
theorem requestMACAddress_scratch (remoteIP : IPAddr) :
    Proc.Within (Stack.Scratch 42) (requestMACAddress remoteIP) := by
  intro h
  unfold requestMACAddress
  rw [Proc.run_read_bind]
  split
  · exact .refl h
  · next index hfind =>
      refine startLookup_scratch fun e he => .inl ?_
      rcases findRoute_eq_some hfind with h' | ⟨e', -, he', hip, -⟩
      · exact absurd h' (by simp)
      · rw [Nat.sub_zero, he] at he'
        cases he'
        exact hip
  · next hfind =>
      split
      · exact .refl h
      · next index hunused =>
          refine startLookup_scratch fun e he => .inr ⟨?_, (findRoute_eq_none hfind).2⟩
          obtain ⟨hlt, hpred, -⟩ := List.findIdx?_eq_some_iff_getElem.mp hunused
          rw [List.getElem?_eq_getElem hlt] at he
          cases he
          simpa using (Bool.and_eq_true_iff.mp hpred).1

end ARPHandler

end AtmegaNet
