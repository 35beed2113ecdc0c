import AtmegaNet.NotEstablished

/-!
# One owner for every connection

A host socket listens as soon as it has a handler, and a SYN gives it a connection only when no
socket in the table has that connection already. From then on its addresses stay as they are
until it listens again.

## Main results

* `allows_keepsOwner`: the functions of `Socket` leave a host its connection, or put it back
  into LISTEN.
* `stable_ownership`: a passive open does not make a second owner.
* `TCPHandler.reaches_oneOwner`: in every state of every run, a connection has one owner, and
  a packet gets to a listener only if its connection has none.
-/

open Procedure Runs

namespace AtmegaNet

namespace Socket

variable {α : Type}

/-! ### Hosts -/

/-- The states of a host that has a handler. -/
def hostStates : List UInt8 :=
  [LISTEN, SYN_RECEIVED, ESTABLISHED, ESTABLISHED ||| AWAITING_ACK, FIN_WAIT_1, FIN_WAIT_2,
    CLOSE_WAIT, CLOSING, LAST_ACK, TIME_WAIT]

/-- A regular socket that, if it is a host, uses the port it listens on, and is never closed
while it has a handler. -/
structure Homed (s : Socket) : Prop where
  regular : s.Regular
  port : s.isHost → s.localPort = s.listenPort
  hosting : s.isHost → s.tcp.isSome → s.state ∈ hostStates

/-- The two addresses and ports of a connection but for the local address, which is the
host's. -/
def connection (s : Socket) : IPAddr × UInt16 × UInt16 := (s.remoteIP, s.remotePort, s.localPort)

/-- Between two worlds a host with a handler has kept its connection or is back in LISTEN. -/
structure KeepsOwner (w w' : World α) : Prop where
  this : w'.this = w.this
  tcp : w'.self.tcp = w.self.tcp
  listenPort : w'.self.listenPort = w.self.listenPort
  homed : w.self.Homed → w'.self.Homed
  owner : w.self.Homed → w.self.isHost → w.self.tcp.isSome →
    w'.self.state = LISTEN ∨
      w.self.state ≠ LISTEN ∧ connection w'.self = connection w.self

instance : IsPreorder (World α) KeepsOwner where
  refl w := by
    refine ⟨rfl, rfl, rfl, id, fun _ _ _ => ?_⟩
    by_cases hlisten : w.self.state = LISTEN
    · exact .inl hlisten
    · exact .inr ⟨hlisten, rfl⟩
  trans w w₁ w₂ h h' := by
    refine ⟨h'.this.trans h.this, h'.tcp.trans h.tcp, h'.listenPort.trans h.listenPort,
      h'.homed ∘ h.homed, fun hhomed hhost htcp => ?_⟩
    have hhost₁ : w₁.self.isHost := (isHost_eq h.listenPort).trans hhost
    have htcp₁ : w₁.self.tcp.isSome := by rwa [h.tcp]
    rcases h'.owner (h.homed hhomed) hhost₁ htcp₁ with hlisten | ⟨hopen, hsame⟩
    · exact .inl hlisten
    · obtain ⟨hopen₁, hsame₁⟩ := (h.owner hhomed hhost htcp).resolve_left hopen
      exact .inr ⟨hopen₁, hsame.trans hsame₁⟩

/-- A host with a handler that leaves LISTEN does so by a SYN. -/
theorem Next.hosting {s : Socket} {state : UInt8} (h : Next s state) (hhost : s.isHost)
    (htcp : s.tcp.isSome) (hs : s.state ∈ hostStates) :
    state ∈ hostStates ∧ (state = LISTEN ∨ s.state ≠ LISTEN) := by
  have hclear : ∀ v ∈ hostStates, v &&& 0x0F ∈ hostStates ∧ (v &&& 0x0F = LISTEN ∨ v ≠ LISTEN) := by
    decide
  have hawait : ∀ v ∈ hostStates, v &&& 0x0F = ESTABLISHED →
      v ||| AWAITING_ACK ∈ hostStates ∧ v ≠ LISTEN := by decide
  have hclose : ∀ v ∈ hostStates, ∀ state ∈ stateAfterClose v,
      state ∈ hostStates ∧ v ≠ LISTEN := by decide +kernel
  have hopen : ∀ v ∈ hostStates, v &&& 0x0F = ESTABLISHED → v ≠ LISTEN := by decide
  have hfrom : ∀ {v}, s.state = v → v ≠ LISTEN → s.state ≠ LISTEN := fun h hv => h ▸ hv
  have hunused : ∀ v ∈ hostStates, v ≠ SYN_SENT ∧ v ≠ CLOSED ∧
      v ∉ [RESOLVING, CLOSED, UNKNOWN_HOST] := by decide
  obtain ⟨hsent, hclosed, hresolving⟩ := hunused _ hs
  cases h with
  | down =>
      rw [Socket.down, if_pos ⟨htcp, hhost⟩]
      exact ⟨by decide, .inl rfl⟩
  | cleared => exact hclear _ hs
  | awaiting h => exact ⟨(hawait _ hs h).1, .inr (hawait _ hs h).2⟩
  | close hafter => exact ⟨(hclose _ hs _ hafter).1, .inr (hclose _ hs _ hafter).2⟩
  | remoteClosed h => exact ⟨by decide, .inr (hopen _ hs h)⟩
  | closing h => exact ⟨by decide, .inr (hfrom h (by decide))⟩
  | halfClosed h => exact ⟨by decide, .inr (hfrom h (by decide))⟩
  | timeWait h =>
      have hopened : ∀ v ∈ [FIN_WAIT_1, FIN_WAIT_2, CLOSING], v ≠ LISTEN := by decide
      exact ⟨by decide, .inr (hopened _ h)⟩
  | established h =>
      have hopened : ∀ v ∈ [SYN_SENT, SYN_RECEIVED], v ≠ LISTEN := by decide
      exact ⟨by decide, .inr (hopened _ h)⟩
  | synReceived h => exact absurd h hsent
  | synSent h => exact absurd h hclosed
  | resolve h => exact absurd h hresolving

/-- The addresses and ports are part of the bearings. -/
theorem connection_eq {s s' : Socket} (h : bearings s' = bearings s) :
    connection s' = connection s :=
  congrArg (fun b => (b.2.2.2.2.1, b.2.2.2.2.2, b.2.2.2.1)) h

theorem localPort_eq {s s' : Socket} (h : bearings s' = bearings s) :
    s'.localPort = s.localPort :=
  congrArg (fun b => b.2.2.2.1) h

theorem tcp_eq {s s' : Socket} (h : bearings s' = bearings s) : s'.tcp = s.tcp :=
  congrArg (fun b => b.2.1) h

theorem Homed.congr {s s' : Socket} (h : s.Homed) (hb : bearings s' = bearings s) : s'.Homed := by
  have hhost : s'.isHost = s.isHost := isHost_eq (listenPort_eq hb)
  refine ⟨h.regular.congr (state_eq hb) (listenPort_eq hb), fun hs => ?_, fun hs ht => ?_⟩
  · rw [localPort_eq hb, listenPort_eq hb]
    exact h.port (hhost ▸ hs)
  · rw [state_eq hb]
    rw [tcp_eq hb] at ht
    exact h.hosting (hhost ▸ hs) ht

theorem KeepsOwner.of_bearings {w w' : World α} (hthis : w'.this = w.this)
    (hb : bearings w'.self = bearings w.self) : KeepsOwner w w' := by
  refine ⟨hthis, tcp_eq hb, listenPort_eq hb, fun h => h.congr hb, fun _ _ _ => ?_⟩
  by_cases hlisten : w.self.state = LISTEN
  · exact .inl ((state_eq hb).trans hlisten)
  · exact .inr ⟨hlisten, connection_eq hb⟩

/-- The functions of `Socket` leave a host its connection. The addresses of a socket change
where no host with a handler gets. -/
theorem allows_keepsOwner : Allows (KeepsOwner (α := α)) where
  still := KeepsOwner.of_bearings
  next w s hnext hb := by
    have hport := listenPort_eq hb
    have hlocal := localPort_eq hb
    have htcp := tcp_eq hb
    have hconnection := connection_eq hb
    have hhost : s.isHost = w.self.isHost := isHost_eq hport
    refine ⟨rfl, htcp, hport, fun h => ⟨?_, fun hs => ?_, fun hs ht => ?_⟩, fun h hs ht => ?_⟩
    · obtain ⟨hnamed, hlisten⟩ := hnext.regular h.regular
      exact ⟨hnamed, fun hl => hhost.trans (hlisten hl)⟩
    · show s.localPort = s.listenPort
      rw [hlocal, hport]
      exact h.port (hhost ▸ hs)
    · have hs : w.self.isHost := hhost ▸ hs
      have ht : w.self.tcp.isSome := htcp ▸ ht
      exact (hnext.hosting hs ht (h.hosting hs ht)).1
    · rcases (hnext.hosting hs ht (h.hosting hs ht)).2 with hlisten | hopen
      · exact .inl hlisten
      · exact .inr ⟨hopen, hconnection⟩
  remote w ip hstate := by
    have hunused : ∀ v ∈ hostStates, v ∉ [RESOLVING, CLOSED, UNKNOWN_HOST] := by decide
    exact ⟨rfl, rfl, rfl, fun h => ⟨h.regular.congr rfl rfl, h.port, h.hosting⟩,
      fun h hs ht => absurd hstate (hunused _ (h.hosting hs ht))⟩
  port w port hstate htcp := by
    have hunused : ∀ v ∈ hostStates, v ≠ CLOSED := by decide
    have hclient : w.self.Homed → ¬ w.self.isHost :=
      fun h hs => hunused _ (h.hosting hs htcp) hstate
    exact ⟨rfl, rfl, rfl, fun h => ⟨h.regular.congr rfl rfl, fun hs => absurd hs (hclient h),
      fun hs => absurd hs (hclient h)⟩, fun h hs => absurd hs (hclient h)⟩

end Socket

/-! ### Tables -/

namespace Net

variable {α : Type}

/-- The socket `i` is in the table and has a connection. -/
def Owns (n : Net α) (i : ℕ) : Prop :=
  n.Registered i ∧ (n.sockets i).state ≠ Socket.LISTEN ∧ (n.sockets i).state ≠ Socket.CLOSED

/-- No two hosts in the table have the same connection. -/
def OneOwner (n : Net α) : Prop :=
  ∀ i j, (n.sockets i).isHost → (n.sockets j).isHost → n.Owns i → n.Owns j →
    (n.sockets i).connection = (n.sockets j).connection → i = j

end Net

namespace TCPHandler

variable {α : Type}

/-- The invariant of the runs: hosts are homed, the sockets of the table have a handler, and no
connection has two owners. -/
structure Owned (n : Net α) : Prop where
  homed : ∀ i, (n.sockets i).Homed
  adopted : ∀ i, n.Registered i → (n.sockets i).tcp.isSome
  unique : n.OneOwner

/-- A call on a host that leaves every other socket alone, if the host ends in LISTEN or no
other host owns the connection it has then. -/
theorem Owned.update {n : Net α} {w : World α} (hn : Owned n) (hhomed : w.self.Homed)
    (htcp : w.self.tcp = (n.sockets w.this).tcp)
    (howner : w.self.isHost → n.Registered w.this → w.self.state ≠ Socket.LISTEN →
      ∀ j, j ≠ w.this → (n.sockets j).isHost → n.Owns j →
        w.self.connection ≠ (n.sockets j).connection) : Owned (n.update w) := by
  refine ⟨fun j => ?_, fun j hj => ?_, fun i j hi hj hown hown' hsame => ?_⟩
  · by_cases h : j = w.this
    · rw [h, Net.sockets_update_self]
      exact hhomed
    · rw [Net.sockets_update_other h]
      exact hn.homed j
  · have hj : n.Registered j := hj
    by_cases h : j = w.this
    · subst h
      rw [Net.sockets_update_self, htcp]
      exact hn.adopted _ hj
    · rw [Net.sockets_update_other h]
      exact hn.adopted j hj
  · obtain ⟨hreg, hstate⟩ := hown
    obtain ⟨hreg', hstate'⟩ := hown'
    have hreg : n.Registered i := hreg
    have hreg' : n.Registered j := hreg'
    by_contra hne
    by_cases h : i = w.this
    · subst h
      rw [Net.sockets_update_self] at hi hstate hsame
      rw [Net.sockets_update_other (Ne.symm hne)] at hj hstate' hsame
      exact howner hi hreg hstate.1 j (Ne.symm hne) hj ⟨hreg', hstate'⟩ hsame
    rw [Net.sockets_update_other h] at hi hstate hsame
    by_cases h' : j = w.this
    · subst h'
      rw [Net.sockets_update_self] at hj hstate' hsame
      exact howner hj hreg' hstate'.1 i h hi ⟨hreg, hstate⟩ hsame.symm
    · rw [Net.sockets_update_other h'] at hj hstate' hsame
      exact hne (hn.unique i j hi hj ⟨hreg, hstate⟩ ⟨hreg', hstate'⟩ hsame)

/-- A call that stays inside `KeepsOwner`. -/
theorem Owned.call {n : Net α} {i : ℕ} {w : World α} (hn : Owned n)
    (h : Socket.KeepsOwner (n.world i) w) : Owned (n.update w) := by
  obtain rfl : w.this = i := h.this
  have hhomed : (n.sockets w.this).Homed := hn.homed _
  have hnever : ∀ v ∈ Socket.hostStates, v ≠ Socket.CLOSED := by decide
  refine hn.update (h.homed hhomed) h.tcp fun hhost hreg hopen j hj hhost' hown hsame => ?_
  have hhost : (n.sockets w.this).isHost := (Socket.isHost_eq h.listenPort).symm.trans hhost
  have htcp := hn.adopted _ hreg
  obtain ⟨hbefore, hkept⟩ := (h.owner hhomed hhost htcp).resolve_left hopen
  have hclosed := hnever _ (hhomed.hosting hhost htcp)
  exact hj (hn.unique j _ hhost' hhost hown ⟨hreg, hbefore, hclosed⟩ (hsame.symm.trans hkept))

/-- The test that finds the owner of a connection. -/
theorem equals_eq_false {s : Socket} (hlisten : s.state ≠ Socket.LISTEN)
    (hclosed : s.state ≠ Socket.CLOSED) {ip : IPAddr} {sourcePort localPort : UInt16}
    (h : s.equals ip sourcePort localPort = false) : s.connection ≠ (ip, sourcePort, localPort) := by
  intro hconnection
  obtain ⟨rfl, rfl, rfl⟩ : s.remoteIP = ip ∧ s.remotePort = sourcePort ∧ s.localPort = localPort := by
    simpa [Socket.connection] using hconnection
  simp [Socket.equals, hlisten, hclosed] at h

/-- A passive open. -/
theorem Owned.offer {n : Net α} {sourceIP : IPAddr} {packet : Bytes} {i : ℕ} {w₁ w : World α}
    (hn : Owned n) (h : Offers n sourceIP packet i) (hthis : w₁.this = i)
    (hnoted : w₁.self.bearings = Socket.bearings { n.sockets i with remoteIP := w₁.self.remoteIP })
    (hcases : Socket.KeepsOwner w₁ w ∨ w₁.self.remoteIP = sourceIP ∧
      Socket.Captures ((viewOf packet).readNet16 0) w₁ w) : Owned (n.update w) := by
  subst hthis
  have hhost : w₁.self.isHost := (Socket.isHost_eq (Socket.listenPort_eq hnoted)).trans h.host
  have hlisten : w₁.self.state = Socket.LISTEN := (Socket.state_eq hnoted).trans h.listen
  have htcp := Socket.tcp_eq hnoted
  dsimp only at htcp
  have hadopted : w₁.self.tcp.isSome := htcp ▸ hn.adopted _ h.registered
  have hhomed : w₁.self.Homed := by
    have hbefore := hn.homed w₁.this
    refine Socket.Homed.congr ?_ hnoted
    exact ⟨hbefore.regular.congr rfl rfl, hbefore.port, hbefore.hosting⟩
  rcases hcases with hkeeps | ⟨hip, hcaptures⟩
  · -- without a connection the listener stays one
    have hstays := (hkeeps.owner hhomed hhost hadopted).resolve_right fun h => h.1 hlisten
    refine hn.update (hkeeps.homed hhomed) ?_ fun _ _ hopen => absurd hstays hopen
    rw [hkeeps.this, hkeeps.tcp, htcp]
  have hhome := hcaptures.home
  simp only [Socket.home, Prod.mk.injEq] at hhome
  obtain ⟨htcp', hlistenPort, hlocalPort, hremoteIP⟩ := hhome
  have hport : w.self.localPort = w.self.listenPort := by
    rw [hlocalPort, hlistenPort]
    exact hhomed.port hhost
  have hnamed : w.self.state = Socket.LISTEN ∨ w.self.state = Socket.SYN_RECEIVED :=
    hcaptures.state.imp (fun h => h.trans hlisten) And.left
  have hvalues : ∀ v, v = Socket.LISTEN ∨ v = Socket.SYN_RECEIVED →
      v ∈ Socket.stateValues ∧ v ∈ Socket.hostStates := by
    rintro v (rfl | rfl)
    · decide
    · decide
  have hhost' : w.self.isHost := (Socket.isHost_eq hlistenPort).trans hhost
  refine hn.update ⟨⟨(hvalues _ hnamed).1, fun _ => hhost'⟩, fun _ => hport, fun _ _ =>
    (hvalues _ hnamed).2⟩ ?_ fun _ _ hopen j _ _ hown hsame => ?_
  · rw [hcaptures.this, htcp', htcp]
  obtain ⟨sourcePort, hsource, hfree⟩ := h.ports
  obtain ⟨-, hcaptured⟩ := hcaptures.state.resolve_left fun h => hopen (h.trans hlisten)
  obtain rfl : sourcePort = w.self.remotePort := Option.some.inj (hsource.symm.trans hcaptured)
  refine equals_eq_false hown.2.1 hown.2.2 (hfree j hown.1) (hsame.symm.trans ?_)
  have hlisten := Socket.listenPort_eq hnoted
  rw [Socket.connection, hremoteIP, hip, hport, hlistenPort, hlisten]

/-- A registration. -/
theorem Owned.register {n n' : Net α} {i : ℕ} (hn : Owned n) (h : n.Registers i n') :
    Owned n' := by
  have hadopts : ∀ {s s' : Socket}, s.Homed → Net.Adopted n.tcp.number s s' →
      s'.Homed ∧ (s'.isHost → s'.state = Socket.LISTEN) := by
    intro s s' hs hadopted
    have hstate := Socket.state_eq hadopted
    have hlistenPort := Socket.listenPort_eq hadopted
    have hlocalPort := Socket.localPort_eq hadopted
    have hhost : s'.isHost = s.isHost := Socket.isHost_eq hlistenPort
    have hlistens : s'.isHost → s'.state = Socket.LISTEN := fun h => by
      rw [hhost] at h
      exact hstate.trans (if_pos h)
    refine ⟨⟨⟨?_, fun hl => ?_⟩, fun h => ?_, fun h _ => ?_⟩, hlistens⟩
    · by_cases h : s.isHost
      · rw [hlistens (hhost.trans h)]
        decide
      · rw [hstate]
        dsimp only
        rw [if_neg h]
        exact hs.regular.named
    · rw [hhost]
      by_contra h
      have hstate : s'.state = s.state := hstate.trans (if_neg h)
      exact h (hs.regular.listen (hstate ▸ hl))
    · rw [hlocalPort, hlistenPort]
      exact hs.port (hhost ▸ h)
    · rw [hlistens h]
      decide
  have hself : ∀ j, n'.sockets j = n.sockets j ∨
      Net.Adopted n.tcp.number (n.sockets j) (n'.sockets j) := by
    intro j
    by_cases hj : j = i
    · exact hj ▸ h.self
    · exact .inl (h.other j hj)
  have howns : ∀ j, (n'.sockets j).isHost → n'.Owns j →
      n'.sockets j = n.sockets j ∧ n.Owns j := by
    intro j hhost ⟨hreg, hopen, hclosed⟩
    have hsame : n'.sockets j = n.sockets j := (hself j).resolve_right fun hadopted =>
      hopen ((hadopts (hn.homed j) hadopted).2 hhost)
    have hreg : n.Registered j := (h.table j hreg).resolve_right fun ⟨hj, hadopted⟩ =>
      hopen ((hadopts (hn.homed j) (hj ▸ hadopted)).2 hhost)
    rw [hsame] at hopen hclosed
    exact ⟨hsame, hreg, hopen, hclosed⟩
  refine ⟨fun j => ?_, fun j hreg => ?_, fun j k hj hk hown hown' hsame => ?_⟩
  · rcases hself j with hsame | hadopted
    · rw [hsame]
      exact hn.homed j
    · exact (hadopts (hn.homed j) hadopted).1
  · rcases hself j with hsame | hadopted
    · rcases h.table j hreg with hreg | ⟨hj, hadopted⟩
      · rw [hsame]
        exact hn.adopted j hreg
      · rw [hj, hadopted.tcp]
        rfl
    · rw [hadopted.tcp]
      rfl
  · obtain ⟨hsj, hown⟩ := howns j hj hown
    obtain ⟨hsk, hown'⟩ := howns k hk hown'
    rw [hsj] at hj hsame
    rw [hsk] at hk hsame
    exact hn.unique j k hj hk hown hown' hsame

/-- Whatever happens on a host, its connections have one owner each. -/
theorem stable_ownership : Stable Socket.KeepsOwner (Owned (α := α)) where
  this h := h.this
  host hn hl := (hn.homed _).regular.listen hl
  call := Owned.call
  offer := Owned.offer
  register := Owned.register
  elsewhere _ _ hn := ⟨hn.homed, hn.adopted, hn.unique⟩

/-- A host whose sockets have just been constructed has no owners. -/
theorem owned_fresh {n : Net α} (hn : n.Fresh) : Owned n := by
  refine ⟨fun i => ?_, fun i hi => absurd hi (hn.table i),
    fun i j _ _ hown => absurd hown.1 (hn.table i)⟩
  obtain ⟨hclosed, htcp, hport⟩ := (hn.sockets i).closed
  refine ⟨⟨by rw [hclosed]; decide, fun h => absurd (hclosed.symm.trans h) (by decide)⟩, hport,
    fun _ h => ?_⟩
  rw [htcp] at h
  exact absurd h Bool.false_ne_true

/-! ### Packets -/

/-- A packet gets to no socket or to one of the table, and to one in LISTEN only if no socket
owns its connection. -/
def Delivers (cb : ℕ → Callbacks α) (sourceIP : IPAddr) (packet : Bytes) (n : Net α) : Prop :=
  handlePacket cb sourceIP packet n = n ∨
    ∃ i, n.Registered i ∧
      handlePacket cb sourceIP packet n = n.call i (Socket.handleSegment (cb i) sourceIP packet) ∧
      ((n.sockets i).state = Socket.LISTEN → ∀ sourcePort localPort,
        (viewOf packet).readNet16 0 = some sourcePort →
        (viewOf packet).readNet16 2 = some localPort →
        ∀ j, n.Owns j → (n.sockets j).connection ≠ (sourceIP, sourcePort, localPort))

theorem Owned.delivers {n : Net α} (hn : Owned n) (cb : ℕ → Callbacks α) (sourceIP : IPAddr)
    (packet : Bytes) : Delivers cb sourceIP packet n := by
  unfold Delivers handlePacket
  split
  case h_2 => exact .inl rfl
  case h_1 sourcePort localPort hsource hlocal =>
    split
    case h_1 i hfound =>
      obtain ⟨hreg, hequals⟩ := findSocket_some hfound
      refine .inr ⟨i, hreg, rfl, fun hlisten => ?_⟩
      have hhost := (hn.homed i).regular.listen hlisten
      rw [Socket.equals, if_pos ⟨hhost, hlisten⟩] at hequals
      exact absurd hequals Bool.false_ne_true
    case h_2 hunowned =>
      split
      case h_2 => exact .inl rfl
      case h_1 i hfound =>
        refine .inr ⟨i, (findSocket_some hfound).1, rfl, fun _ port port' hport hport' j hown => ?_⟩
        obtain rfl : sourcePort = port := Option.some.inj (hsource.symm.trans hport)
        obtain rfl : localPort = port' := Option.some.inj (hlocal.symm.trans hport')
        exact equals_eq_false hown.2.1 hown.2.2 (findSocket_none hunowned hown.1)

/-- In every state that a run of the host leads to, the connections of the hosts in the table
have one owner each, and a packet gets to one socket at most, to a listener only if no socket
owns its connection. -/
theorem reaches_oneOwner {cb : ℕ → Callbacks α}
    (hcb : ∀ i, Socket.Respects (cb i) Socket.KeepsOwner) {n n' : Net α} (hn : n.Fresh)
    (hrun : Reaches (fun _ _ => True) (run cb) n n') :
    n'.OneOwner ∧ ∀ sourceIP packet, Delivers cb sourceIP packet n' := by
  have howned : Owned n' :=
    stable_ownership.reaches (fun i => ⟨Socket.allows_keepsOwner, hcb i⟩) (owned_fresh hn) hrun
  exact ⟨howned.unique, howned.delivers cb⟩

/-! ### The example -/

/-- 10.0.0.2 with two sockets that are to listen on port 80, and a slot for each. -/
def exampleHost : Net Unit :=
  ⟨(TCPHandler.new 0 2 (exampleStack 2 1)).1, (TCPHandler.new 0 2 (exampleStack 2 1)).2,
    fun _ => Socket.newListener 80 11 0 Socket.zero, ()⟩

theorem fresh_exampleHost : exampleHost.Fresh := by
  refine ⟨fun _ => .listener 80 11 0 Socket.zero, fun i hi => ?_⟩
  have hnone : some i ∈ [none, none] := hi
  simp at hnone

/-- The SYN of a second connection of 10.0.0.1, from port 49153. -/
def exampleSecondSyn : Bytes :=
  [192, 1, 0, 80, 0, 0, 0, 7, 0, 0, 0, 0, 96, 2, 0, 42, 201, 43, 0, 0, 2, 4, 0, 42]

/-- The listeners are registered, either is opened by a SYN, and the ACK for the first comes. -/
def exampleOpened : Net Unit :=
  [.register 0, .register 1, .packet ⟨10, 0, 0, 1⟩ exampleSyn,
    .packet ⟨10, 0, 0, 1⟩ exampleSecondSyn, .packet ⟨10, 0, 0, 1⟩ exampleAck].foldl
    (fun n e => run (fun _ => exampleApp.callbacks) e n) exampleHost

theorem reaches_exampleOpened : ExampleRun exampleHost exampleOpened :=
  .foldl fun _ _ _ => trivial

theorem owns_exampleOpened : exampleOpened.Owns 0 ∧ exampleOpened.Owns 1 := by
  unfold Net.Owns Net.Registered
  decide +kernel

/-- Two listeners on one port: both have been opened, and either connection has one owner. -/
theorem reaches_oneOwner_listener :
    (exampleOpened.Owns 0 ∧ exampleOpened.Owns 1) ∧ exampleOpened.OneOwner ∧
      ∀ sourceIP packet,
        Delivers (fun _ => exampleApp.callbacks) sourceIP packet exampleOpened :=
  ⟨owns_exampleOpened,
    reaches_oneOwner (fun _ => (Socket.allows_keepsOwner.follows exampleApp).toRespects)
      fresh_exampleHost reaches_exampleOpened⟩

end TCPHandler

end AtmegaNet
