import AtmegaNet.SocketRuns

/-!
# A transfer between two hosts

Two hosts with one socket each, the client's with the address of the server and the server's
listening. Either application calls the functions of its socket as it likes, the timers tick
whenever they do, and of the TCP segments that have left a host the network delivers any to the
socket of the other, any number of times and in any order, or never.

Every activity of a host is a step of the protocol, so that a run is one of `Link`.

## Main results

* `simulates`: a run of two hosts is matched by a run of `Link`.
* `reaches_delivery`: in every state reached the server's application has accepted a beginning of
  what the client's application has sent, and all of it when the client's socket is ready to send.
-/

open Procedure Runs

namespace AtmegaNet

open Socket SocketRuns

namespace Transfer

/-! ### Two hosts -/

/-- The two hosts. `connected` says that the client's application has called `connect`, `sent` is
what it has sent. -/
structure Session (α β : Type) where
  client : World α
  server : World β
  connected : Bool
  sent : Bytes

/-- An activity of either host. -/
inductive Event (α β : Type)
  | client (t : Activity α)
  | server (t : Activity β)

variable {α β : Type}

/-- The bytes that a socket has accepted. -/
def acceptedOf (this : ℕ) (log : List Obs) : Bytes :=
  ((receivedOf this log).filter (·.2)).flatMap (·.1)

/-- What the two hosts make of an event. -/
def run (a : App α) (b : App β) : Event α β → Session α β → Session α β
  | .client t, s =>
      { s with
        client := t.run a s.client
        connected := s.connected || t.connects
        sent := s.sent ++ t.sends a s.client }
  | .server t, s => { s with server := t.run b s.server }

/-- An activity that can happen on a host when a segment of these packets arrives: the socket's
number does not wrap around. -/
structure Possible (a : App α) (w : World α) (packets : List (IPAddr × UInt8 × Bytes))
    (t : Activity α) : Prop where
  arrives : ∀ sourceIP bytes, t = .segment sourceIP bytes → ∃ p ∈ packets, p.2.2 = bytes
  elsewhere : ∀ stack app, t = .elsewhere stack app → Elsewhere w stack
  next : w.self.localSeq ≤ (t.run a w).self.localSeq

/-- The events that can happen. The client's application connects once, the server's does not. -/
def Ok (a : App α) (b : App β) (s : Session α β) : Event α β → Prop
  | .client t =>
      Possible a s.client (segmentsOf s.server.stack.log) t ∧ (t.connects → s.connected = false)
  | .server t => Possible b s.server (segmentsOf s.client.stack.log) t ∧ t.connects = false

/-- A registered socket that has not been used. -/
structure Unused (w : World α) : Prop where
  wired : Wired w
  domain : w.self.remoteDomain = none
  room : 24 ≤ w.stack.room
  remoteSeq : w.self.remoteSeq = 0
  segments : segmentsOf w.stack.log = []
  received : receivedOf w.this w.stack.log = []

/-- The beginning. -/
structure Starts (s : Session α β) : Prop where
  client : Unused s.client
  closed : s.client.self.state = CLOSED
  noHost : ¬ s.client.self.isHost
  server : Unused s.server
  listens : s.server.self.state = LISTEN
  host : s.server.self.isHost
  connected : s.connected = false
  sent : s.sent = []

/-- A state of the two hosts and the state of the protocol. -/
structure Shows (kc ks : Limits) (s : Session α β) (l : Link) : Prop where
  client : l.client = conn s.client
  clientReady : Ready kc s.client
  server : l.server = conn s.server
  serverReady : Ready ks s.server
  connected : l.connected = s.connected
  sent : l.sent = s.sent
  accepted : l.accepted = acceptedOf s.server.this s.server.stack.log
  fromClient : ∀ p ∈ segmentsOf s.client.stack.log, ∃ o ∈ l.fromClient, Carries p.2.2 o
  fromServer : ∀ p ∈ segmentsOf s.server.stack.log, ∃ o ∈ l.fromServer, Carries p.2.2 o

section Simulation

variable {kc ks : Limits} {k : Limits} {w w' : World α} {e : Effect}

/-- What has left a host after an activity. -/
theorem carries_of_plays (h : Plays k w e w') {flight : List Sending}
    (hflight : ∀ p ∈ segmentsOf w.stack.log, ∃ o ∈ flight, Carries p.2.2 o) :
    ∀ p ∈ segmentsOf w'.stack.log, ∃ o ∈ flight ++ e.sends.toList, Carries p.2.2 o := by
  obtain ⟨l, hlog, -, sent, hsent, hcarries⟩ := h.log
  intro p hp
  rw [hlog, segmentsOf_append, List.mem_append] at hp
  rcases hp with hp | hp
  · obtain ⟨o, ho, hc⟩ := hflight p hp
    exact ⟨o, List.mem_append_left _ ho, hc⟩
  · obtain ⟨o, ho, hc⟩ := exists_carried hcarries hp
    exact ⟨o, List.mem_append_right _ (hsent.subset ho), hc⟩

/-- What a socket has accepted after an activity. -/
theorem acceptedOf_of_plays (h : Plays k w e w') : acceptedOf w'.this w'.stack.log =
    acceptedOf w.this w.stack.log ++ Link.takenFrom e := by
  obtain ⟨l, hlog, hreceived, -⟩ := h.log
  have htaken : (e.delivers.toList.filter (·.2)).flatMap (·.1) = Link.takenFrom e := by
    unfold Link.takenFrom
    rcases e.delivers with _ | ⟨payload, _ | _⟩
    · rfl
    · rfl
    · exact List.append_nil _
  rw [h.this, hlog, acceptedOf, receivedOf_append, List.filter_append, List.flatMap_append,
    hreceived, htaken]
  rfl

/-- A packet that arrives has been sent. -/
theorem exists_sending {packets : List (IPAddr × UInt8 × Bytes)} {flight : List Sending}
    (hflight : ∀ p ∈ packets, ∃ o ∈ flight, Carries p.2.2 o) {a : App α} {t : Activity α}
    (hok : Possible a w packets t) {sourceIP : IPAddr} {bytes : Bytes}
    (ht : t = .segment sourceIP bytes) : ∃ o ∈ flight, o.Arrives (segmentOf a bytes w) := by
  obtain ⟨p, hp, rfl⟩ := hok.arrives sourceIP bytes ht
  obtain ⟨o, ho, hc⟩ := hflight p hp
  exact ⟨o, ho, hc _⟩

section Activities

variable {a : App α} {b : App β} {s : Session α β} {l : Link} (h : Shows kc ks s l)

include h

/-- What shows the state after an activity of the client. -/
theorem Shows.client_next {t : Activity α} {e : Effect}
    (hplays : Plays kc s.client e (t.run a s.client)) :
    Shows kc ks (run a b (.client t) s)
      { Link.clientSteps e (conn (t.run a s.client)) l with
        connected := s.connected || t.connects, sent := s.sent ++ t.sends a s.client } where
  client := rfl
  clientReady := hplays.ready
  server := h.server
  serverReady := h.serverReady
  connected := rfl
  sent := rfl
  accepted := h.accepted
  fromClient := carries_of_plays hplays h.fromClient
  fromServer := h.fromServer

/-- What shows the state after an activity of the server. -/
theorem Shows.server_next {t : Activity β} {e : Effect}
    (hplays : Plays ks s.server e (t.run b s.server)) :
    Shows kc ks (run a b (.server t) s)
      { Link.serverSteps e (conn (t.run b s.server)) l with
        accepted := l.accepted ++ Link.takenFrom e } where
  client := h.client
  clientReady := h.clientReady
  server := rfl
  serverReady := hplays.ready
  connected := h.connected
  sent := h.sent
  accepted := by
    rw [h.accepted]
    exact (acceptedOf_of_plays hplays).symm
  fromClient := h.fromClient
  fromServer := carries_of_plays hplays h.fromServer

/-- An activity of the client is a step of the protocol, or none. -/
theorem Shows.client_activity {t : Activity α} (hok : Ok a b s (.client t)) :
    ∃ l', Reaches (Link.Ok kc ks) Link.run l l' ∧ Shows kc ks (run a b (.client t) s) l' := by
  obtain ⟨hpossible, hfresh⟩ := hok
  obtain ⟨e, hstep, hplays⟩ := h.clientReady.activity a t hpossible.elsewhere
  have hnext : (conn s.client).localSeq ≤ (conn (t.run a s.client)).localSeq := hpossible.next
  have hshows := h.client_next (b := b) hplays
  generalize conn (t.run a s.client) = c at hstep hnext hshows
  rw [← h.client] at hnext
  cases hstep with
  | idle hconnects hsends =>
      refine ⟨l, .refl, ?_⟩
      rw [hconnects, hsends, Bool.or_false, List.append_nil, ← h.connected, ← h.sent,
        ← h.client] at hshows
      simpa [Link.clientSteps] using hshows
  | @acts call _ _ hacts haddr hconnects hsends =>
      have hdecide : decide (call = .connect) = t.connects := by
        rw [Bool.eq_iff_iff, decide_eq_true_iff]
        exact hconnects
      have hok : Link.Ok kc ks l (.clientCall call e c) := by
        refine ⟨h.client ▸ hacts, fun hcall => ?_, ?_, hnext⟩
        · rw [h.connected]
          exact hfresh (hconnects.mp hcall)
        · rw [h.client]
          exact haddr
      refine ⟨_, Reaches.refl.step hok, ?_⟩
      rw [Link.run, h.connected, h.sent, hsends, hdecide]
      exact hshows
  | @receives sourceIP bytes _ _ ht hreceives =>
      obtain ⟨o, ho, harrives⟩ := exists_sending h.fromServer hpossible ht
      have hok : Link.Ok kc ks l (.toClient o (segmentOf a bytes s.client) e c) := by
        refine ⟨ho, harrives, h.client ▸ hreceives, ?_, hnext⟩
        rw [h.client]
        exact hreceives.address
      refine ⟨_, Reaches.refl.step hok, ?_⟩
      rw [show t.connects = false by rw [ht]; rfl, show t.sends a s.client = [] by rw [ht]; rfl,
        Bool.or_false, List.append_nil, ← h.connected, ← h.sent] at hshows
      exact hshows

/-- An activity of the server is a step of the protocol, or none. -/
theorem Shows.server_activity {t : Activity β} (hok : Ok a b s (.server t)) :
    ∃ l', Reaches (Link.Ok kc ks) Link.run l l' ∧ Shows kc ks (run a b (.server t) s) l' := by
  obtain ⟨hpossible, hnever⟩ := hok
  obtain ⟨e, hstep, hplays⟩ := h.serverReady.activity b t hpossible.elsewhere
  have hnext : (conn s.server).localSeq ≤ (conn (t.run b s.server)).localSeq := hpossible.next
  have hshows := h.server_next (a := a) hplays
  generalize conn (t.run b s.server) = c at hstep hnext hshows
  rw [← h.server] at hnext
  cases hstep with
  | idle hconnects hsends =>
      refine ⟨l, .refl, ?_⟩
      rw [← h.server] at hshows
      simpa [Link.serverSteps, Link.takenFrom] using hshows
  | @acts call _ _ hacts haddr hconnects hsends =>
      have hok : Link.Ok kc ks l (.serverCall call e c) := by
        refine ⟨h.server ▸ hacts, fun hcall => ?_, ?_, hnext⟩
        · rw [hconnects.mp hcall] at hnever
          exact absurd hnever (by simp)
        · rw [h.server]
          exact haddr
      have htaken : Link.takenFrom e = [] := by
        rw [Link.takenFrom, hacts.unloaded.1]
      rw [htaken, List.append_nil] at hshows
      exact ⟨_, Reaches.refl.step hok, hshows⟩
  | @receives sourceIP bytes _ _ ht hreceives =>
      obtain ⟨o, ho, harrives⟩ := exists_sending h.fromClient hpossible ht
      have hok : Link.Ok kc ks l (.toServer o (segmentOf b bytes s.server) e c) := by
        refine ⟨ho, harrives, h.server ▸ hreceives, ?_, hnext⟩
        rw [h.server]
        exact hreceives.address
      exact ⟨_, Reaches.refl.step hok, hshows⟩

end Activities

/-- What the beginning shows. -/
def begins (s : Session α β) : Link where
  client := conn s.client
  server := conn s.server
  fromClient := []
  fromServer := []
  connected := false
  sent := []
  accepted := []

theorem Unused.ready (h : Unused w) (hstate : w.self.state ∈ [CLOSED, LISTEN]) :
    Ready (limits w) w :=
  ⟨h.wired, rfl, h.domain, h.room, .inl hstate⟩

theorem Starts.shows {s : Session α β} (h : Starts s) :
    Shows (limits s.client) (limits s.server) s (begins s) where
  client := rfl
  clientReady := h.client.ready (by rw [h.closed]; decide)
  server := rfl
  serverReady := h.server.ready (by rw [h.listens]; decide)
  connected := h.connected.symm
  sent := h.sent.symm
  accepted := by
    rw [acceptedOf, h.server.received]
    rfl
  fromClient := by
    rw [h.client.segments]
    simp
  fromServer := by
    rw [h.server.segments]
    simp

theorem Starts.link {s : Session α β} (h : Starts s) : (begins s).Starts where
  client := h.closed
  clientRemote := h.client.remoteSeq
  server := h.listens
  serverRemote := h.server.remoteSeq
  fromClient := rfl
  fromServer := rfl
  connected := rfl
  sent := rfl
  accepted := rfl

/-- A run of the two hosts is matched by a run of the protocol. -/
theorem simulates (a : App α) (b : App β) {s₀ s : Session α β} (hstart : Starts s₀)
    (hrun : Reaches (Ok a b) (run a b) s₀ s) :
    ∃ l, Reaches (Link.Ok (limits s₀.client) (limits s₀.server)) Link.run (begins s₀) l ∧
      Shows (limits s₀.client) (limits s₀.server) s l := by
  refine hrun.simulates hstart.shows fun s event l h hok => ?_
  cases event with
  | client t => exact h.client_activity hok
  | server t => exact h.server_activity hok

theorem room_lt (h : Stack) : h.room < 65536 := by
  have hsize := h.sendSize.toNat_lt
  have hroom : h.room = h.sendSize.toNat - 34 := rfl
  omega

/-- What the protocol says of the bytes, where it matches a run. -/
theorem Starts.delivers {s₀ s : Session α β} (hstart : Starts s₀) {l : Link}
    (hreach : Reaches (Link.Ok (limits s₀.client) (limits s₀.server)) Link.run (begins s₀) l)
    (hshows : Shows (limits s₀.client) (limits s₀.server) s l) :
    acceptedOf s.server.this s.server.stack.log <+: s.sent ∧
      (s.client.self.readyToSend → acceptedOf s.server.this s.server.stack.log = s.sent) := by
  have hdown : (limits s₀.client).down = CLOSED := if_neg fun h => hstart.noHost h.2
  have hlisten : (limits s₀.server).down = LISTEN := if_pos ⟨hstart.server.wired.tcp, hstart.host⟩
  obtain ⟨hbeginning, hall⟩ := Link.reaches_stream ⟨hdown, room_lt _⟩ ⟨hlisten, room_lt _⟩
    hstart.link hreach
  rw [hshows.accepted, hshows.sent] at hbeginning hall
  refine ⟨hbeginning, fun hready => ?_⟩
  obtain ⟨hopen, hidle⟩ := readyToSend_iff.mp hready
  rw [hshows.client] at hall
  exact hall hopen fun h => hidle (beq_iff_eq.mp h)

/-- Whatever the two applications, the timers and the network do, the server's application has
accepted a beginning of what the client's application has sent, and all of it whenever the
client's socket is ready to send. -/
theorem reaches_delivery (a : App α) (b : App β) {s₀ s : Session α β} (hstart : Starts s₀)
    (hrun : Reaches (Ok a b) (run a b) s₀ s) :
    acceptedOf s.server.this s.server.stack.log <+: s.sent ∧
      (s.client.self.readyToSend → acceptedOf s.server.this s.server.stack.log = s.sent) := by
  obtain ⟨l, hreach, hshows⟩ := simulates a b hstart hrun
  exact hstart.delivers hreach hshows

end Simulation

/-! ### The example -/

theorem possible_call {a : App α} {w : World α} {packets : List (IPAddr × UInt8 × Bytes)}
    {dns : Resolver} {o : Operation}
    (hnext : w.self.localSeq ≤ ((Activity.call dns o).run a w).self.localSeq) :
    Possible a w packets (.call dns o) := ⟨by simp, by simp, hnext⟩

theorem possible_sendBytes {a : App α} {w : World α} {packets : List (IPAddr × UInt8 × Bytes)}
    {data : Bytes} (hnext : w.self.localSeq ≤ ((Activity.sendBytes data).run a w).self.localSeq) :
    Possible a w packets (.sendBytes data) := ⟨by simp, by simp, hnext⟩

theorem possible_segment {a : App α} {w : World α} {packets : List (IPAddr × UInt8 × Bytes)}
    {sourceIP : IPAddr} {bytes : Bytes} (hmem : bytes ∈ packets.map (·.2.2))
    (hnext : w.self.localSeq ≤ ((Activity.segment sourceIP bytes).run a w).self.localSeq) :
    Possible a w packets (.segment sourceIP bytes) := by
  refine ⟨?_, by simp, hnext⟩
  rintro _ _ ht
  cases ht
  obtain ⟨p, hp, heq⟩ := List.mem_map.mp hmem
  exact ⟨p, hp, heq⟩

/-- The client 10.0.0.1 and the server 10.0.0.2. -/
def exampleSession : Session Unit Unit :=
  ⟨exampleClient.world 0, exampleListener.world 0, false, []⟩

/-- Three bytes from the client. -/
def exampleData : Bytes :=
  [192, 0, 0, 80, 0, 0, 0, 8, 0, 0, 0, 12, 80, 24, 0, 42, 215, 54, 0, 0, 1, 2, 3]

/-- The handshake, and three bytes that arrive twice and are acknowledged. -/
def exampleEvents : List (Event Unit Unit) :=
  [.client (.call exampleResolver .connect), .server (.segment ⟨10, 0, 0, 1⟩ exampleSyn),
    .client (.segment ⟨10, 0, 0, 2⟩ exampleAnswer), .server (.segment ⟨10, 0, 0, 1⟩ exampleAck),
    .client (.sendBytes [1, 2, 3]), .server (.segment ⟨10, 0, 0, 1⟩ exampleData),
    .server (.segment ⟨10, 0, 0, 1⟩ exampleData),
    .client (.segment ⟨10, 0, 0, 2⟩ exampleDataAck)]

/-- The two hosts after the first `n` events. -/
def exampleAfter (n : ℕ) : Session Unit Unit :=
  (exampleEvents.take n).foldl (fun s e => run exampleApp exampleApp e s) exampleSession

theorem starts_exampleSession : Starts exampleSession where
  client := ⟨⟨by decide +kernel, rfl, ⟨_, rfl, ⟨by decide +kernel, trivial⟩, rfl⟩,
    ⟨fun h => absurd h (by decide +kernel), fun h => absurd h (by decide +kernel),
      fun h => absurd h (by decide +kernel)⟩⟩, by decide +kernel, by decide +kernel,
    by decide +kernel, by decide +kernel, by decide +kernel⟩
  closed := by decide +kernel
  noHost := by decide +kernel
  server := ⟨⟨by decide +kernel, rfl, ⟨_, rfl, ⟨by decide +kernel, trivial⟩, rfl⟩,
    ⟨fun h => absurd h (by decide +kernel), fun h => absurd h (by decide +kernel),
      fun h => absurd h (by decide +kernel)⟩⟩, by decide +kernel, by decide +kernel,
    by decide +kernel, by decide +kernel, by decide +kernel⟩
  listens := by decide +kernel
  host := by decide +kernel
  connected := rfl
  sent := rfl

theorem reaches_exampleAfter :
    Reaches (Ok exampleApp exampleApp) (run exampleApp exampleApp) exampleSession
      (exampleAfter 8) := by
  have hconnect : Ok exampleApp exampleApp (exampleAfter 0)
      (.client (.call exampleResolver .connect)) :=
    ⟨possible_call (by decide +kernel), fun _ => rfl⟩
  have hsyn : Ok exampleApp exampleApp (exampleAfter 1)
      (.server (.segment ⟨10, 0, 0, 1⟩ exampleSyn)) :=
    ⟨possible_segment (by decide +kernel) (by decide +kernel), rfl⟩
  have hsynAck : Ok exampleApp exampleApp (exampleAfter 2)
      (.client (.segment ⟨10, 0, 0, 2⟩ exampleAnswer)) :=
    ⟨possible_segment (by decide +kernel) (by decide +kernel), fun h => absurd h (by decide)⟩
  have hack : Ok exampleApp exampleApp (exampleAfter 3)
      (.server (.segment ⟨10, 0, 0, 1⟩ exampleAck)) :=
    ⟨possible_segment (by decide +kernel) (by decide +kernel), rfl⟩
  have hsend : Ok exampleApp exampleApp (exampleAfter 4) (.client (.sendBytes [1, 2, 3])) :=
    ⟨possible_sendBytes (by decide +kernel), fun h => absurd h (by decide)⟩
  have hdata : Ok exampleApp exampleApp (exampleAfter 5)
      (.server (.segment ⟨10, 0, 0, 1⟩ exampleData)) :=
    ⟨possible_segment (by decide +kernel) (by decide +kernel), rfl⟩
  have hagain : Ok exampleApp exampleApp (exampleAfter 6)
      (.server (.segment ⟨10, 0, 0, 1⟩ exampleData)) :=
    ⟨possible_segment (by decide +kernel) (by decide +kernel), rfl⟩
  have hacked : Ok exampleApp exampleApp (exampleAfter 7)
      (.client (.segment ⟨10, 0, 0, 2⟩ exampleDataAck)) :=
    ⟨possible_segment (by decide +kernel) (by decide +kernel), fun h => absurd h (by decide)⟩
  have hopened : Reaches (Ok exampleApp exampleApp) (run exampleApp exampleApp) exampleSession
      (exampleAfter 4) :=
    (((Reaches.refl.step hconnect).step hsyn).step hsynAck).step hack
  exact (((hopened.step hsend).step hdata).step hagain).step hacked

/-- The server's application has the three bytes, once. -/
theorem reaches_delivery_thrice :
    (exampleAfter 8).client.self.readyToSend ∧
      acceptedOf (exampleAfter 8).server.this (exampleAfter 8).server.stack.log = [1, 2, 3] := by
  have hready : (exampleAfter 8).client.self.readyToSend := by decide +kernel
  exact ⟨hready, ((reaches_delivery exampleApp exampleApp starts_exampleSession
    reaches_exampleAfter).2 hready).trans (by decide +kernel)⟩

end Transfer

end AtmegaNet
