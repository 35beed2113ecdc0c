import AtmegaNet.Lib.FirstMatch
import AtmegaNet.Lib.Runs
import AtmegaNet.UDPHandler
import AtmegaNet.TCPHandler

/-!
# The registries as maps

`EtherControl`, `IPHandler` and `UDPHandler` each have a table of the handlers registered with
them, by EtherType, IP protocol and port. A table is to be a map of its declared capacity: it
finds the handler that was last registered for a key, and it refuses a new key only when every
entry it declares holds another one.

Two of the tables are not. The loops of `IPHandler` are bounded by the size of its table over
that of an entry of the other protocol table, which leaves the last of its three entries unused.
And an entry of the UDP table that is given up is marked by port 0, which is a port like the
others: a listener on port 0 is no longer found, once an entry in front of it is given up.

## Main results

* `Session.maps_iff`: in a run without the two cases, all three tables find what was last
  registered, and a step keeps to that exactly if it is neither of them.
* `EtherControl.registerProtocol_entries`, `IPHandler.registerProtocol_entries`: the tables of a
  host are registries of this kind.
-/

open Runs

namespace AtmegaNet

/-- An entry of a registry: `protocolMap` or `ipProtocolMap`, with any type of handlers. -/
structure Entry (κ ρ : Type) where
  key : κ
  handler : Option ρ
  deriving DecidableEq, Repr

/-! ### Sizes on the AVR -/

/-- `sizeof(void*)` -/
def sizeofPointer : ℕ := 2

/-- `sizeof(protocolMap)` -/
def EtherControl.sizeofProtocolMap : ℕ := 2 + sizeofPointer

/-- `sizeof(ipProtocolMap)` -/
def IPHandler.sizeofIpProtocolMap : ℕ := 1 + sizeofPointer

/-- The entries that `ipProtocolMap protocolRegistry[3]` declares. -/
def IPHandler.protocolCapacity : ℕ := 3

/-- `sizeof(protocolRegistry) / sizeof(protocolMap)`, the bound of the loops of `IPHandler`. -/
def IPHandler.protocolBound : ℕ :=
  IPHandler.protocolCapacity * IPHandler.sizeofIpProtocolMap / EtherControl.sizeofProtocolMap

/-! ### The two protocol registries -/

namespace Registry

variable {κ ρ : Type} [DecidableEq κ] [OfNat κ 0]

/-- `registerProtocol`, with the bound of its loop: an entry not in use, or one to replace. -/
def registerProtocol (bound : ℕ) (protocol : κ) (handler : Option ρ)
    (registry : List (Entry κ ρ)) : Bool × List (Entry κ ρ) :=
  match (registry.take bound).findIdx? fun e => e.key = 0 ∨ e.key = protocol with
  | none => (false, registry)
  | some i => (true, registry.set i ⟨protocol, handler⟩)

/-- `getProtocolHandler`, with the bound of its loop. -/
def getProtocolHandler (bound : ℕ) (protocol : κ) (registry : List (Entry κ ρ)) : Option ρ :=
  ((registry.take bound).find? fun e => e.key = protocol).bind Entry.handler

end Registry

namespace EtherControl

variable {π : Type}

/-- The registry as `initProtocolRegistry` leaves it. -/
def initProtocolRegistry (protocolCapacity : ℕ) : List (Entry UInt16 π) :=
  List.replicate protocolCapacity ⟨0, none⟩

/-- `EtherControl::registerProtocol`, for any handlers: the bound is the capacity. -/
def registerAny (etherType : UInt16) (handler : Option π) (registry : List (Entry UInt16 π)) :
    Bool × List (Entry UInt16 π) :=
  Registry.registerProtocol registry.length etherType handler registry

/-- `EtherControl::getProtocolHandler`, for any handlers. -/
def getAny (etherType : UInt16) (registry : List (Entry UInt16 π)) : Option π :=
  Registry.getProtocolHandler registry.length etherType registry

/-- The registry of a host. -/
def entries (control : EtherControl) : List (Entry UInt16 PayloadHandler) :=
  control.protocolRegistry.map fun e => ⟨e.etherType, e.handler⟩

end EtherControl

namespace IPHandler

variable {κ : Type}

/-- The registry as `initProtocolRegistry` leaves it. -/
def initProtocolRegistry : List (Entry UInt8 κ) := List.replicate protocolCapacity ⟨0, none⟩

/-- `IPHandler::registerProtocol`, for any handlers. -/
def registerAny (protocol : UInt8) (handler : Option κ) (registry : List (Entry UInt8 κ)) :
    Bool × List (Entry UInt8 κ) :=
  Registry.registerProtocol protocolBound protocol handler registry

/-- `IPHandler::getProtocolHandler`, for any handlers. -/
def getAny (ipProtocol : UInt8) (registry : List (Entry UInt8 κ)) : Option κ :=
  Registry.getProtocolHandler protocolBound ipProtocol registry

/-- The registry of a host. -/
def entries (ip : IPHandler) : List (Entry UInt8 PacketHandler) :=
  ip.protocolRegistry.map fun e => ⟨e.ipProtocol, e.handler⟩

end IPHandler

/-- Registering with the `EtherControl` of a host registers with its table. -/
theorem EtherControl.registerProtocol_entries (etherType : UInt16) (handler : PayloadHandler)
    (h : Stack) :
    registerAny etherType (some handler) h.etherControl.entries =
      ((EtherControl.registerProtocol etherType handler h).1,
        (EtherControl.registerProtocol etherType handler h).2.etherControl.entries) := by
  rw [registerAny, Registry.registerProtocol, List.take_length, entries, List.findIdx?_map,
    EtherControl.registerProtocol]
  simp only [Function.comp_def]
  cases h.etherControl.protocolRegistry.findIdx?
      fun e => e.etherType = 0 ∨ e.etherType = etherType with
  | none => rfl
  | some i => simp only [entries, List.map_set]

/-- Registering with the `IPHandler` of a host registers with its table. -/
theorem IPHandler.registerProtocol_entries (protocol : UInt8) (handler : PacketHandler)
    (h : Stack) :
    registerAny protocol (some handler) h.ip.entries =
      ((IPHandler.registerProtocol protocol handler h).1,
        (IPHandler.registerProtocol protocol handler h).2.ip.entries) := by
  rw [registerAny, Registry.registerProtocol, entries, ← List.map_take, List.findIdx?_map,
    IPHandler.registerProtocol]
  have hbound : protocolBound = 2 := rfl
  rw [hbound]
  simp only [Function.comp_def]
  cases (h.ip.protocolRegistry.take 2).findIdx?
      fun e => e.ipProtocol = 0 ∨ e.ipProtocol = protocol with
  | none => rfl
  | some i => simp only [entries, List.map_set]

/-- And it is where the handler of a packet is looked up. -/
theorem IPHandler.getProtocolHandler_entries (ipProtocol : UInt8) (ip : IPHandler) :
    IPHandler.getProtocolHandler ipProtocol ip = getAny ipProtocol ip.entries := by
  rw [getAny, Registry.getProtocolHandler, entries, ← List.map_take, List.find?_map,
    IPHandler.getProtocolHandler]
  have hbound : protocolBound = 2 := rfl
  rw [hbound]
  simp only [Function.comp_def]
  cases (ip.protocolRegistry.take 2).find? fun e => e.ipProtocol = ipProtocol with
  | none => rfl
  | some e => rfl

/-! ### What a registration does to a protocol registry -/

namespace Registry

variable {κ ρ : Type} [DecidableEq κ] [OfNat κ 0] {bound : ℕ} {k k' : κ} {handler : Option ρ}
  {registry : List (Entry κ ρ)}

/-- The key of an entry that may be taken. -/
theorem key_of_test {e : Entry κ ρ}
    (h : decide (e.key = 0 ∨ e.key = k) = true) : e.key = 0 ∨ e.key = k := by
  simpa using h

omit [OfNat κ 0] in
/-- `getProtocolHandler` looks up the first match. -/
theorem getProtocolHandler_eq (bound : ℕ) (k : κ) (registry : List (Entry κ ρ)) :
    getProtocolHandler bound k registry =
      FirstMatch.lookup Entry.key Entry.handler k (registry.take bound) := rfl

/-- What `registerProtocol` does: it overwrites an entry, or it refuses. -/
theorem registerProtocol_cases (bound : ℕ) (k : κ) (handler : Option ρ)
    (registry : List (Entry κ ρ)) :
    (∃ i, (registry.take bound).findIdx? (fun e => e.key = 0 ∨ e.key = k) = some i ∧
      registerProtocol bound k handler registry = (true, registry.set i ⟨k, handler⟩)) ∨
    ((∀ e ∈ registry.take bound, e.key ≠ 0 ∧ e.key ≠ k) ∧
      registerProtocol bound k handler registry = (false, registry)) := by
  rw [registerProtocol]
  cases hfind : (registry.take bound).findIdx? fun e => e.key = 0 ∨ e.key = k with
  | some i => exact .inl ⟨i, rfl, rfl⟩
  | none =>
      refine .inr ⟨fun e he => ?_, rfl⟩
      have hno := List.findIdx?_eq_none_iff.mp hfind e he
      exact not_or.mp (by simpa using hno)

/-- It is refused when no slot is free and none has the protocol. -/
theorem registerProtocol_refused :
    (registerProtocol bound k handler registry).1 = false ↔
      ∀ e ∈ registry.take bound, e.key ≠ 0 ∧ e.key ≠ k := by
  rcases registerProtocol_cases bound k handler registry with ⟨i, hfind, heq⟩ | ⟨hno, heq⟩
  · rw [heq]
    refine iff_of_false (by simp) fun hno => ?_
    obtain ⟨front, a, back, hsplit, -, ha, -⟩ := FirstMatch.exists_split hfind
    have hmem : a ∈ registry.take bound := by rw [hsplit]; simp
    exact (key_of_test ha).elim (hno a hmem).1 (hno a hmem).2
  · rw [heq]
    exact iff_of_true rfl hno

/-- A refused registration changes nothing. -/
theorem registerProtocol_unchanged
    (h : (registerProtocol bound k handler registry).1 = false) :
    (registerProtocol bound k handler registry).2 = registry := by
  rcases registerProtocol_cases bound k handler registry with ⟨i, -, heq⟩ | ⟨-, heq⟩
  · rw [heq] at h
    exact absurd h (by simp)
  · rw [heq]

/-- The table keeps its size. -/
@[simp] theorem length_registerProtocol :
    (registerProtocol bound k handler registry).2.length = registry.length := by
  rcases registerProtocol_cases bound k handler registry with ⟨i, -, heq⟩ | ⟨-, heq⟩
  · rw [heq, List.length_set]
  · rw [heq]

/-- The entries behind the bound are not touched. -/
@[simp] theorem drop_registerProtocol :
    (registerProtocol bound k handler registry).2.drop bound = registry.drop bound := by
  rcases registerProtocol_cases bound k handler registry with ⟨i, hfind, heq⟩ | ⟨-, heq⟩
  · have hlt := (List.findIdx?_eq_some_iff_getElem.mp hfind).1
    rw [List.length_take] at hlt
    rw [heq, List.drop_set_of_lt (by omega)]
  · rw [heq]

/-- What a registration that is accepted registers is found. -/
theorem getProtocolHandler_self (h : (registerProtocol bound k handler registry).1) :
    getProtocolHandler bound k (registerProtocol bound k handler registry).2 = handler := by
  rcases registerProtocol_cases bound k handler registry with ⟨i, hfind, heq⟩ | ⟨-, heq⟩
  · rw [heq, getProtocolHandler_eq, List.take_set]
    exact FirstMatch.lookup_set_self hfind rfl fun e _ hk => by simpa using Or.inr hk
  · rw [heq] at h
    exact absurd h (by simp)

/-- The other protocols keep their handlers. -/
theorem getProtocolHandler_ne (hzero : k' ≠ 0) (hne : k' ≠ k) :
    getProtocolHandler bound k' (registerProtocol bound k handler registry).2 =
      getProtocolHandler bound k' registry := by
  rcases registerProtocol_cases bound k handler registry with ⟨i, hfind, heq⟩ | ⟨-, heq⟩
  · rw [heq, getProtocolHandler_eq, getProtocolHandler_eq, List.take_set]
    refine FirstMatch.lookup_set_ne hfind (fun e he hk => ?_) hne.symm
    rcases key_of_test he with h0 | h0
    · exact hzero (hk.symm.trans h0)
    · exact hne (hk.symm.trans h0)
  · rw [heq]

/-- The entries in use come first, and no two of them have one key. -/
def Packed (registry : List (Entry κ ρ)) : Prop :=
  registry.Pairwise fun a b => (a.key = 0 → b.key = 0) ∧ (a.key ≠ 0 → b.key ≠ a.key)

/-- The table stays packed. -/
theorem Packed.registerProtocol (h : Packed registry) :
    Packed (registerProtocol registry.length k handler registry).2 := by
  rcases registerProtocol_cases registry.length k handler registry with
    ⟨i, hfind, heq⟩ | ⟨-, heq⟩
  · rw [heq]
    rw [List.take_length] at hfind
    obtain ⟨front, a, back, rfl, hi, ha, hfront⟩ := FirstMatch.exists_split hfind
    rw [FirstMatch.set_split hi]
    obtain ⟨hf, hab, hcross⟩ := List.pairwise_append.mp h
    obtain ⟨hback, hb⟩ := List.pairwise_cons.mp hab
    refine List.pairwise_append.mpr ⟨hf, List.pairwise_cons.mpr ⟨?_, hb⟩, ?_⟩
    · intro b hmem
      obtain ⟨hzero, hother⟩ := hback b hmem
      rcases key_of_test ha with h0 | h0
      · exact ⟨fun _ => hzero h0, fun hk heq => hk (heq.symm.trans (hzero h0))⟩
      · rw [h0] at hzero hother
        exact ⟨hzero, hother⟩
    · intro c hc b hmem
      have htest := hfront c hc
      rw [decide_eq_true_eq, not_or] at htest
      rcases List.mem_cons.mp hmem with rfl | hmem
      · exact ⟨fun h0 => absurd h0 htest.1, fun _ heq => htest.2 heq.symm⟩
      · exact hcross c hc b (List.mem_cons_of_mem _ hmem)
  · rw [heq]
    exact h

/-- Every entry holds another key. -/
def Full (k : κ) (registry : List (Entry κ ρ)) : Prop :=
  (∀ e ∈ registry, e.key ≠ 0 ∧ e.key ≠ k) ∧ (registry.map Entry.key).Nodup

omit [DecidableEq κ] in
/-- A packed table all of whose entries are in use holds as many keys. -/
theorem Packed.full (h : Packed registry) (hno : ∀ e ∈ registry, e.key ≠ 0 ∧ e.key ≠ k) :
    Full k registry := by
  refine ⟨hno, ?_⟩
  rw [List.nodup_iff_pairwise_ne, List.pairwise_map]
  refine List.Pairwise.imp_of_mem ?_ h
  intro a b ha _ hab
  exact (hab.2 (hno a ha).1).symm

end Registry

/-! ### The registry of listeners -/

namespace UDPHandler

variable {δ : Type} {port p : UInt16} {receiver : Option δ} {udp : UDPHandler δ}

/-- No entry for port 0 hides a listener behind it. -/
def Unshadowed (udp : UDPHandler δ) : Prop :=
  FirstMatch.Unshadowed ListenerMap.port ListenerMap.receiver udp.receivers

/-- `getListener` looks up the first match. -/
theorem getListener_eq (udp : UDPHandler δ) (port : UInt16) :
    udp.getListener port =
      FirstMatch.lookup ListenerMap.port ListenerMap.receiver port udp.receivers := rfl

/-- What `registerListener` does: it overwrites the entry of the port, or one without a
receiver, or it refuses. -/
theorem registerListener_cases (port : UInt16) (receiver : Option δ) (udp : UDPHandler δ) :
    (∃ i, (udp.receivers.findIdx? fun l => l.port = port) = some i ∧
      registerListener port receiver udp = (true, ⟨udp.receivers.set i ⟨port, receiver⟩⟩)) ∨
    ((∀ l ∈ udp.receivers, l.port ≠ port) ∧
      ∃ i, (udp.receivers.findIdx? fun l => l.receiver.isNone) = some i ∧
        registerListener port receiver udp = (true, ⟨udp.receivers.set i ⟨port, receiver⟩⟩)) ∨
    ((∀ l ∈ udp.receivers, l.receiver ≠ none ∧ l.port ≠ port) ∧
      registerListener port receiver udp = (false, udp)) := by
  rw [registerListener]
  cases hport : udp.receivers.findIdx? fun l => l.port = port with
  | some i => exact .inl ⟨i, rfl, rfl⟩
  | none =>
      have hother : ∀ l ∈ udp.receivers, l.port ≠ port := fun l hl => by
        simpa using List.findIdx?_eq_none_iff.mp hport l hl
      cases hfree : udp.receivers.findIdx? fun l => l.receiver.isNone with
      | some i => exact .inr (.inl ⟨hother, i, rfl, rfl⟩)
      | none =>
          refine .inr (.inr ⟨fun l hl => ⟨?_, hother l hl⟩, rfl⟩)
          exact Option.isSome_iff_ne_none.mp
            (by simpa using List.findIdx?_eq_none_iff.mp hfree l hl)

/-- A registration shadows no entry. -/
theorem Unshadowed.registerListener (h : Unshadowed udp) (port : UInt16)
    (receiver : Option δ) :
    Unshadowed (registerListener port receiver udp).2 := by
  rcases registerListener_cases port receiver udp with
    ⟨i, hfind, heq⟩ | ⟨hother, i, hfind, heq⟩ | ⟨-, heq⟩
  · rw [heq, Unshadowed]
    rw [Unshadowed] at h
    obtain ⟨front, a, back, hsplit, hi, ha, hfront⟩ := FirstMatch.exists_split hfind
    rw [hsplit] at h ⊢
    rw [FirstMatch.set_split hi]
    exact h.replace (fun b hb hk => hfront b hb (by simpa using hk)) (.inl (by simpa using ha))
  · rw [heq, Unshadowed]
    rw [Unshadowed] at h
    obtain ⟨front, a, back, hsplit, hi, -, -⟩ := FirstMatch.exists_split hfind
    rw [hsplit] at h hother ⊢
    rw [FirstMatch.set_split hi]
    exact h.replace (fun b hb => hother b (by simp [hb]))
      (.inr fun b hb => (hother b (by simp [hb])).symm)
  · rw [heq]
    exact h

/-- A refused registration changes nothing. -/
theorem registerListener_unchanged (h : (registerListener port receiver udp).1 = false) :
    (registerListener port receiver udp).2 = udp := by
  rcases registerListener_cases port receiver udp with
    ⟨i, -, heq⟩ | ⟨-, i, -, heq⟩ | ⟨-, heq⟩
  · rw [heq] at h
    exact absurd h (by simp)
  · rw [heq] at h
    exact absurd h (by simp)
  · rw [heq]

/-- What a registration that is accepted registers is found. -/
theorem getListener_self (h : (registerListener port receiver udp).1) :
    (registerListener port receiver udp).2.getListener port = receiver := by
  rcases registerListener_cases port receiver udp with
    ⟨i, hfind, heq⟩ | ⟨hother, i, hfind, heq⟩ | ⟨-, heq⟩
  · rw [heq, getListener_eq]
    exact FirstMatch.lookup_set_self hfind rfl fun l _ hl => by simpa using hl
  · rw [heq, getListener_eq]
    exact FirstMatch.lookup_set_self hfind rfl fun l hmem hl => absurd hl (hother l hmem)
  · rw [heq] at h
    exact absurd h (by simp)

/-- The other ports keep their listeners. -/
theorem getListener_ne (h : Unshadowed udp) (hne : p ≠ port) :
    (registerListener port receiver udp).2.getListener p = udp.getListener p := by
  have hkept := h.registerListener port receiver
  rcases registerListener_cases port receiver udp with
    ⟨i, hfind, heq⟩ | ⟨-, i, hfind, heq⟩ | ⟨-, heq⟩
  · rw [heq, getListener_eq, getListener_eq]
    exact FirstMatch.lookup_set_ne hfind
      (fun l hl hp => hne (hp.symm.trans (by simpa using hl))) hne.symm
  · rw [heq] at hkept ⊢
    rw [getListener_eq, getListener_eq]
    refine Option.ext fun v => ?_
    rw [hkept.lookup_eq_some_iff, h.lookup_eq_some_iff]
    obtain ⟨front, a, back, hsplit, hi, ha, -⟩ := FirstMatch.exists_split hfind
    simp only [hsplit, FirstMatch.set_split hi]
    -- neither the entry that is overwritten nor the new one is a listener on `p`
    refine exists_congr fun l => and_congr_left fun hl => ?_
    have ha' : l ≠ a := by
      rintro rfl
      rw [Option.isNone_iff_eq_none, hl.2] at ha
      exact absurd ha (by simp)
    have hnew : l ≠ ⟨port, receiver⟩ := by
      rintro rfl
      exact hne hl.1.symm
    simp only [List.mem_append, List.mem_cons, ha', hnew, false_or]
  · rw [heq]

/-- Every entry holds the listener of another port. -/
def Full (port : UInt16) (udp : UDPHandler δ) : Prop :=
  (∀ l ∈ udp.receivers, l.receiver ≠ none ∧ l.port ≠ port) ∧
    (udp.receivers.map ListenerMap.port).Nodup

/-- A registration is refused when the table is full. -/
theorem Unshadowed.full (h : Unshadowed udp)
    (hrefused : (UDPHandler.registerListener port receiver udp).1 = false) :
    Full port udp := by
  rcases registerListener_cases port receiver udp with
    ⟨i, -, heq⟩ | ⟨-, i, -, heq⟩ | ⟨hno, -⟩
  · rw [heq] at hrefused
    exact absurd hrefused (by simp)
  · rw [heq] at hrefused
    exact absurd hrefused (by simp)
  · exact ⟨hno, FirstMatch.Unshadowed.nodup h fun l hl => (hno l hl).1⟩

/-- Giving the port up does not free an entry in front of the listener on port 0. -/
def Frees (port : UInt16) (udp : UDPHandler δ) : Prop :=
  port = 0 ∨ udp.receivers.Pairwise fun a b =>
    a.port = port → b.port = 0 → b.receiver = none

/-- An entry taken out shadows none. -/
theorem Unshadowed.unregisterListener (h : Unshadowed udp) (hfrees : Frees port udp) :
    Unshadowed (unregisterListener port udp) := by
  have hpairs : udp.receivers.Pairwise fun a b =>
      a.port = port → b.port = 0 → b.port ≠ port → b.receiver = none := by
    rcases hfrees with rfl | hfrees
    · exact List.pairwise_of_forall fun a b _ hb hne => absurd hb hne
    · exact hfrees.imp fun hab ha hb _ => hab ha hb
  rw [Unshadowed, FirstMatch.Unshadowed, UDPHandler.unregisterListener, List.pairwise_map]
  refine List.Pairwise.imp ?_ (List.pairwise_and_iff.mpr ⟨h, hpairs⟩)
  rintro a b ⟨hab, hpair⟩ heq
  by_cases hb : b.port = port
  · rw [if_pos hb]
  · rw [if_neg hb] at heq ⊢
    by_cases ha : a.port = port
    · rw [if_pos ha] at heq
      exact hpair ha heq.symm hb
    · rw [if_neg ha] at heq
      exact hab heq

/-- A port that is given up has no listener. -/
theorem getListener_unregister_self :
    (unregisterListener port udp).getListener port = none := by
  refine FirstMatch.lookup_eq_none fun l hl hport => ?_
  obtain ⟨a, -, rfl⟩ := List.mem_map.mp hl
  split_ifs at hport ⊢ with ha
  · rfl
  · exact absurd hport ha

/-- The other ports keep their listeners, if the entry may be freed. -/
theorem getListener_unregister_ne (h : Unshadowed udp) (hfrees : Frees port udp)
    (hne : p ≠ port) : (unregisterListener port udp).getListener p = udp.getListener p := by
  have hkept := h.unregisterListener hfrees
  rw [getListener_eq, getListener_eq]
  refine Option.ext fun v => ?_
  rw [hkept.lookup_eq_some_iff, h.lookup_eq_some_iff]
  constructor
  · rintro ⟨l, hl, hp, hv⟩
    obtain ⟨a, ha, rfl⟩ := List.mem_map.mp hl
    by_cases hport : a.port = port
    · rw [if_pos hport] at hv
      exact absurd hv (by simp)
    · rw [if_neg hport] at hp hv
      exact ⟨a, ha, hp, hv⟩
  · rintro ⟨l, hl, hp, hv⟩
    exact ⟨l, List.mem_map.mpr ⟨l, hl, if_neg fun hport => hne (hp.symm.trans hport)⟩, hp, hv⟩

/-- Otherwise the listener on port 0 is lost. -/
theorem getListener_unregister_zero (h : Unshadowed udp) (hfrees : ¬ Frees port udp) :
    ∃ v, udp.getListener 0 = some v ∧ (unregisterListener port udp).getListener 0 = none := by
  obtain ⟨hport, hpair⟩ := not_or.mp hfrees
  rw [Unshadowed] at h
  simp only [getListener_eq, unregisterListener]
  generalize udp.receivers = receivers at h hpair
  induction receivers with
  | nil => exact absurd List.Pairwise.nil hpair
  | cons a receivers ih =>
      obtain ⟨ha, hrest⟩ := List.pairwise_cons.mp h
      rw [List.map_cons]
      by_cases hbad : a.port = port ∧ ∃ b ∈ receivers, b.port = 0 ∧ b.receiver ≠ none
      · obtain ⟨haport, b, hb, hb0, hbsome⟩ := hbad
        obtain ⟨v, hv⟩ := Option.ne_none_iff_exists'.mp hbsome
        have hfound := (FirstMatch.Unshadowed.lookup_eq_some_iff hrest).mpr ⟨b, hb, hb0, hv⟩
        refine ⟨v, ?_, ?_⟩
        · rw [FirstMatch.lookup_cons_ne (by rw [haport]; exact hport), hfound]
        · rw [if_pos haport]
          exact FirstMatch.lookup_cons_self rfl
      · obtain ⟨v, hv, hlost⟩ := ih hrest fun hall => hpair (List.pairwise_cons.mpr
          ⟨fun b hb haport hb0 => by_contra fun hbsome =>
            hbad ⟨haport, b, hb, hb0, hbsome⟩, hall⟩)
        obtain ⟨b, hb, hb0, hbv⟩ := FirstMatch.exists_mem_of_lookup hv
        have hbsome : b.receiver ≠ none := by rw [hbv]; simp
        have haport : a.port ≠ port := fun haport => hbad ⟨haport, b, hb, hb0, hbsome⟩
        have ha0 : a.port ≠ 0 := fun ha0 => hbsome (ha b hb (ha0.trans hb0.symm))
        refine ⟨v, ?_, ?_⟩
        · rw [FirstMatch.lookup_cons_ne ha0, hv]
        · rw [if_neg haport, FirstMatch.lookup_cons_ne ha0, hlost]

end UDPHandler

/-! ### Runs -/

/-- A registry, and beside it what was last registered for each key and not given up since. -/
structure Recorded (κ ρ σ : Type) where
  registry : σ
  recent : κ → Option ρ

/-- Record what a registration returned and left. -/
def Recorded.register {κ ρ σ : Type} [DecidableEq κ] (t : Recorded κ ρ σ) (k : κ)
    (handler : Option ρ) (result : Bool × σ) : Recorded κ ρ σ :=
  ⟨result.2, if result.1 then Function.update t.recent k handler else t.recent⟩

/-- A registry that found what was recorded still does, if a registration that is accepted is
found, one that is refused changes nothing, and the other keys keep what they have. -/
theorem Recorded.agree_register {κ ρ σ : Type} [DecidableEq κ] {t : Recorded κ ρ σ} {k : κ}
    {handler : Option ρ} {result : Bool × σ} {P : κ → Prop} (get : κ → σ → Option ρ)
    (h : ∀ k', P k' → get k' t.registry = t.recent k')
    (hself : result.1 → get k result.2 = handler)
    (hrefused : result.1 = false → result.2 = t.registry)
    (hne : ∀ k', P k' → k' ≠ k → get k' result.2 = get k' t.registry) (k' : κ) (hk' : P k') :
    get k' (t.register k handler result).registry = (t.register k handler result).recent k' := by
  obtain ⟨accepted, registry⟩ := result
  cases accepted with
  | false =>
      simp only [register, Bool.false_eq_true, if_false]
      have hsame : registry = t.registry := hrefused rfl
      rw [hsame]
      exact h k' hk'
  | true =>
      simp only [register, if_true]
      by_cases heq : k' = k
      · rw [heq, Function.update_self]
        exact hself rfl
      · rw [Function.update_of_ne heq, ← h k' hk']
        exact hne k' hk' heq

/-- The three registries of a host. -/
structure Session (π κ δ : Type) where
  etherTypes : Recorded UInt16 π (List (Entry UInt16 π))
  protocols : Recorded UInt8 κ (List (Entry UInt8 κ))
  ports : Recorded UInt16 δ (UDPHandler δ)

/-- A call of `registerProtocol`, of either class, or of `registerListener` or
`unregisterListener`. -/
inductive RegistryCall (π κ δ : Type)
  | etherType (etherType : UInt16) (handler : Option π)
  | protocol (ipProtocol : UInt8) (handler : Option κ)
  | listener (port : UInt16) (receiver : Option δ)
  | noListener (port : UInt16)

namespace Session

variable {π κ δ : Type}

/-- The registries as the constructors leave them. -/
def start (protocolCapacity receiverCount : ℕ) : Session π κ δ where
  etherTypes := ⟨EtherControl.initProtocolRegistry protocolCapacity, fun _ => none⟩
  protocols := ⟨IPHandler.initProtocolRegistry, fun _ => none⟩
  ports := ⟨UDPHandler.new receiverCount, fun _ => none⟩

/-- One call. -/
def run : RegistryCall π κ δ → Session π κ δ → Session π κ δ
  | .etherType k h, s =>
      { s with etherTypes :=
          s.etherTypes.register k h (EtherControl.registerAny k h s.etherTypes.registry) }
  | .protocol k h, s =>
      { s with protocols :=
          s.protocols.register k h (IPHandler.registerAny k h s.protocols.registry) }
  | .listener p r, s =>
      { s with ports := s.ports.register p r (s.ports.registry.registerListener p r) }
  | .noListener p, s =>
      { s with ports := ⟨s.ports.registry.unregisterListener p,
          Function.update s.ports.recent p none⟩ }

/-- A call that registers returns `false`. -/
def Refused (s : Session π κ δ) : RegistryCall π κ δ → Prop
  | .etherType k h => (EtherControl.registerAny k h s.etherTypes.registry).1 = false
  | .protocol k h => (IPHandler.registerAny k h s.protocols.registry).1 = false
  | .listener p r => (s.ports.registry.registerListener p r).1 = false
  | .noListener _ => False

/-- Every entry the table of the call declares holds another key. -/
def Full (s : Session π κ δ) : RegistryCall π κ δ → Prop
  | .etherType k _ => Registry.Full k s.etherTypes.registry
  | .protocol k _ => Registry.Full k s.protocols.registry
  | .listener p _ => UDPHandler.Full p s.ports.registry
  | .noListener _ => False

/-- The tables find what was last registered, for every port and every EtherType and IP protocol
other than 0. -/
structure Maps (s : Session π κ δ) : Prop where
  etherTypes : ∀ k ≠ 0, EtherControl.getAny k s.etherTypes.registry = s.etherTypes.recent k
  protocols : ∀ k ≠ 0, IPHandler.getAny k s.protocols.registry = s.protocols.recent k
  ports : ∀ p, s.ports.registry.getListener p = s.ports.recent p

/-- A call keeps to what a map of its capacity does. -/
def Conforms (s : Session π κ δ) (call : RegistryCall π κ δ) : Prop :=
  (s.Refused call → s.Full call) ∧ (run call s).Maps

/-- The calls that none of the defects is in the way of: fewer than two other IP protocols are
registered, and a port that is given up does not free an entry in front of port 0. -/
def Meets (s : Session π κ δ) : RegistryCall π κ δ → Prop
  | .etherType _ _ => True
  | .protocol k _ => (s.protocols.registry.countP fun e => e.key ≠ 0 ∧ e.key ≠ k) < 2
  | .listener _ _ => True
  | .noListener p => s.ports.registry.Frees p

/-- What holds of the three tables at any time. -/
structure Kept (s : Session π κ δ) : Prop where
  maps : s.Maps
  packed : Registry.Packed s.etherTypes.registry
  declared : s.protocols.registry.length = IPHandler.protocolCapacity
  behind : ∀ e ∈ s.protocols.registry.drop IPHandler.protocolBound, e.key = 0
  unshadowed : s.ports.registry.Unshadowed

variable {s : Session π κ δ}

/-- Empty tables keep what has been registered. -/
theorem kept_start (protocolCapacity receiverCount : ℕ) :
    (start protocolCapacity receiverCount : Session π κ δ).Kept where
  maps := by
    refine ⟨fun k _ => ?_, fun k _ => ?_, fun p => ?_⟩
    · rw [EtherControl.getAny, Registry.getProtocolHandler_eq]
      exact FirstMatch.lookup_eq_none fun e he _ => by
        rw [List.eq_of_mem_replicate (List.mem_of_mem_take he)]
    · rw [IPHandler.getAny, Registry.getProtocolHandler_eq]
      exact FirstMatch.lookup_eq_none fun e he _ => by
        rw [List.eq_of_mem_replicate (List.mem_of_mem_take he)]
    · exact FirstMatch.lookup_eq_none fun l hl _ => by rw [List.eq_of_mem_replicate hl]
  packed := List.pairwise_replicate.mpr (.inr ⟨fun _ => rfl, fun h => absurd rfl h⟩)
  declared := List.length_replicate
  behind := fun e he => by rw [List.eq_of_mem_replicate (List.mem_of_mem_drop he)]
  unshadowed := List.pairwise_replicate.mpr (.inr fun _ => rfl)

/-- The table of `IPHandler` refuses a protocol exactly when two others are registered. -/
theorem Kept.refused_protocol_iff (h : s.Kept) (k : UInt8) (handler : Option κ) :
    s.Refused (.protocol k handler) ↔ ¬ s.Meets (.protocol k handler) := by
  have hbound : IPHandler.protocolBound = 2 := rfl
  have hlen := h.declared
  have hbehind := h.behind
  rw [hbound] at hbehind
  rw [IPHandler.protocolCapacity] at hlen
  rw [Refused, IPHandler.registerAny, Registry.registerProtocol_refused, Meets, hbound]
  have hcount : (s.protocols.registry.countP fun e => e.key ≠ 0 ∧ e.key ≠ k) =
      (s.protocols.registry.take 2).countP fun e => e.key ≠ 0 ∧ e.key ≠ k := by
    have hdrop : ((s.protocols.registry.drop 2).countP fun e => e.key ≠ 0 ∧ e.key ≠ k) = 0 :=
      List.countP_eq_zero.mpr fun e he => by simp [hbehind e he]
    conv_lhs => rw [← List.take_append_drop 2 s.protocols.registry, List.countP_append, hdrop]
    rfl
  have htake : (s.protocols.registry.take 2).length = 2 := by rw [List.length_take, hlen]; rfl
  have hle := List.countP_le_length (p := fun e : Entry UInt8 κ => e.key ≠ 0 ∧ e.key ≠ k)
    (l := s.protocols.registry.take 2)
  have hall : (∀ e ∈ s.protocols.registry.take 2, e.key ≠ 0 ∧ e.key ≠ k) ↔
      ((s.protocols.registry.take 2).countP fun e => e.key ≠ 0 ∧ e.key ≠ k) =
        (s.protocols.registry.take 2).length := by
    rw [List.countP_eq_length]
    simp
  rw [hcount, hall]
  omega

/-- And that is before its entries all hold one: the last is never in use. -/
theorem Kept.not_full_protocol (h : s.Kept) (k : UInt8) (handler : Option κ) :
    ¬ s.Full (.protocol k handler) := by
  intro hfull
  have hlt : 2 < s.protocols.registry.length := by rw [h.declared]; decide
  have hmem : s.protocols.registry[2] ∈ s.protocols.registry.drop IPHandler.protocolBound := by
    have hbound : IPHandler.protocolBound = 2 := rfl
    rw [hbound, List.drop_eq_getElem_cons hlt]
    exact List.mem_cons_self
  exact (hfull.1 _ (List.getElem_mem hlt)).1 (h.behind _ hmem)

/-- What a call leaves of the tables, unless it frees an entry in front of port 0. -/
theorem Kept.run (h : s.Kept) (call : RegistryCall π κ δ)
    (hfrees : ∀ p, call = .noListener p → s.ports.registry.Frees p) :
    (Session.run call s).Kept := by
  obtain ⟨⟨hether, hip, hudp⟩, hpacked, hdeclared, hbehind, hunshadowed⟩ := h
  cases call with
  | etherType k handler =>
      refine ⟨⟨?_, hip, hudp⟩, hpacked.registerProtocol, hdeclared, hbehind, hunshadowed⟩
      refine Recorded.agree_register EtherControl.getAny hether ?_ ?_ ?_
      · intro haccepted
        rw [EtherControl.getAny, EtherControl.registerAny, Registry.length_registerProtocol]
        exact Registry.getProtocolHandler_self haccepted
      · exact Registry.registerProtocol_unchanged
      · intro k' hk' hne
        rw [EtherControl.getAny, EtherControl.registerAny, Registry.length_registerProtocol]
        exact Registry.getProtocolHandler_ne hk' hne
  | protocol k handler =>
      refine ⟨⟨hether, ?_, hudp⟩, hpacked, ?_, ?_, hunshadowed⟩
      · exact Recorded.agree_register IPHandler.getAny hip Registry.getProtocolHandler_self
          Registry.registerProtocol_unchanged
          fun k' hk' hne => Registry.getProtocolHandler_ne hk' hne
      · exact Registry.length_registerProtocol.trans hdeclared
      · intro e he
        have hdrop : (IPHandler.registerAny k handler s.protocols.registry).2.drop
            IPHandler.protocolBound = s.protocols.registry.drop IPHandler.protocolBound :=
          Registry.drop_registerProtocol
        exact hbehind e (hdrop ▸ he)
  | listener p receiver =>
      refine ⟨⟨hether, hip, ?_⟩, hpacked, hdeclared, hbehind, hunshadowed.registerListener ..⟩
      intro p'
      refine Recorded.agree_register (P := fun _ => True)
        (fun p (t : UDPHandler δ) => t.getListener p) (fun p' _ => hudp p') ?_ ?_ ?_ p' trivial
      · exact UDPHandler.getListener_self
      · exact UDPHandler.registerListener_unchanged
      · exact fun p' _ hne => UDPHandler.getListener_ne hunshadowed hne
  | noListener p =>
      have hp := hfrees p rfl
      refine ⟨⟨hether, hip, ?_⟩, hpacked, hdeclared, hbehind,
        hunshadowed.unregisterListener hp⟩
      intro p'
      by_cases heq : p' = p
      · rw [heq]
        have hrecent : Function.update s.ports.recent p none p = none := Function.update_self ..
        exact UDPHandler.getListener_unregister_self.trans hrecent.symm
      · exact (UDPHandler.getListener_unregister_ne hunshadowed hp heq).trans
          ((hudp p').trans (Function.update_of_ne heq ..).symm)

/-- A call keeps to what a map does exactly if no defect is in its way. -/
theorem Kept.conforms_iff (h : s.Kept) (call : RegistryCall π κ δ) :
    s.Conforms call ↔ s.Meets call := by
  cases call with
  | etherType k handler =>
      refine iff_of_true ⟨fun hrefused => ?_, (h.run _ (by simp)).maps⟩ trivial
      have hno := Registry.registerProtocol_refused.mp hrefused
      rw [List.take_length] at hno
      exact h.packed.full hno
  | protocol k handler =>
      have hmaps := (h.run (.protocol k handler) (by simp)).maps
      have hiff := h.refused_protocol_iff k handler
      constructor
      · rintro ⟨hfull, -⟩
        by_contra hmeets
        exact h.not_full_protocol k handler (hfull (hiff.mpr hmeets))
      · intro hmeets
        exact ⟨fun hrefused => absurd hmeets (hiff.mp hrefused), hmaps⟩
  | listener p receiver =>
      exact iff_of_true ⟨h.unshadowed.full, (h.run _ (by simp)).maps⟩ trivial
  | noListener p =>
      constructor
      · rintro ⟨-, hmaps⟩
        by_contra hfrees
        obtain ⟨v, hbefore, hafter⟩ := UDPHandler.getListener_unregister_zero h.unshadowed hfrees
        have hp : 0 ≠ p := fun hp => hfrees (.inl hp.symm)
        have hrecent : (Session.run (.noListener p) s).ports.recent 0 = some v :=
          (Function.update_of_ne hp ..).trans ((h.maps.ports 0).symm.trans hbefore)
        have hfound := (hmaps.ports 0).trans hrecent
        rw [Session.run, hafter] at hfound
        exact absurd hfound (by simp)
      · intro hfrees
        refine ⟨fun hrefused => hrefused.elim, (h.run _ ?_).maps⟩
        rintro p' heq
        cases heq
        exact hfrees

/-- The tables are maps of their capacity, in every run whose calls meet the condition: they
find what was last registered for every key, and the next call keeps to that exactly if it meets
the condition as well. -/
theorem maps_iff (protocolCapacity receiverCount : ℕ)
    (h : Reaches (fun (t : Session π κ δ) call => t.Meets call) run
      (start protocolCapacity receiverCount) s) :
    s.Maps ∧ ∀ call, s.Conforms call ↔ s.Meets call := by
  have hkept : s.Kept := by
    refine h.invariant (kept_start protocolCapacity receiverCount) fun t call ht hcall => ?_
    refine ht.run call fun p heq => ?_
    subst heq
    exact hcall
  exact ⟨hkept.maps, hkept.conforms_iff⟩

/-- Two IP protocols, and listeners on the ports 0 and 5, in this order. -/
theorem maps_iff_two :
    (run (.noListener 5) (run (.listener 5 (some 4)) (run (.listener 0 (some 3))
      (run (.protocol 17 (some 2)) (run (.protocol 1 (some 1))
        (start 4 3 : Session ℕ ℕ ℕ)))))).Maps := by
  refine (maps_iff 4 3 (.step (.step (.step (.step (.step .refl ?_) ?_) ?_) ?_) ?_)).1
  · exact of_decide_eq_true (p := List.countP _ _ < 2) rfl
  · exact of_decide_eq_true (p := List.countP _ _ < 2) rfl
  · exact trivial
  · exact trivial
  · exact Or.inr (by decide)

/-- A third IP protocol is refused, while the third entry is empty; and the listener on port 0 is
lost, once port 5 is given up in front of it. -/
theorem third_protocol_refused :
    (run (.protocol 17 (some 2)) (run (.protocol 1 (some 1))
      (start 4 3 : Session ℕ ℕ ℕ))).Refused (.protocol 6 (some 3)) ∧
    ¬ (run (.protocol 17 (some 2)) (run (.protocol 1 (some 1))
      (start 4 3 : Session ℕ ℕ ℕ))).Full (.protocol 6 (some 3)) ∧
    ¬ (run (.noListener 5) (run (.listener 0 (some 2)) (run (.listener 5 (some 1))
      (start 4 3 : Session ℕ ℕ ℕ)))).Maps := by
  refine ⟨rfl, fun hfull => ?_, fun hmaps => ?_⟩
  · exact (hfull.1 ⟨0, none⟩ (by decide)).1 rfl
  · exact absurd (hmaps.ports 0) (by decide)

end Session

end AtmegaNet
