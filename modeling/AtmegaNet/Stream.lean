import AtmegaNet.Lib.Runs
import AtmegaNet.Protocol

/-!
# A stream between two parties

A client and a server of the protocol, and everything they have sent to each other. The network
delivers any of it at any time, any number of times and in any order, or never. The client
connects once; both parties send, close and give up when they like, and the server takes a
payload or refuses it.

The numbers of neither party wrap around, so that everything is said in natural numbers: the
stream begins at the number `base`, and a segment with a payload carries the part of the stream
that begins at its number less `base`.

## Main results

* `Link.reaches_stream`: in every state reached the server has accepted a beginning of what the
  client has sent, and all of it when the client is ready to send.
-/

namespace AtmegaNet

open Socket Runs

/-! ### The network -/

/-- How many numbers a segment takes. -/
def Sending.numbers (o : Sending) : ℕ :=
  o.payload.length + (if has o.control SYN then 1 else 0) + if has o.control FIN then 1 else 0

/-- A segment as it arrives at the other party. The header of a FIN need not have the length it
says it has. -/
structure Sending.Arrives (o : Sending) (s : Segment) : Prop where
  control : s.control = o.control
  seq : s.seq = o.seq
  ack : s.ack = o.ack
  payload : s.payload = o.payload
  payloadSize : ¬ has o.control FIN → s.payloadSize = Buffer.lengthOf o.payload

/-- Two parties and all they have sent. `sent` is what the client has sent on its application's
behalf, `accepted` what the server's application has taken. -/
structure Link where
  client : Conn
  server : Conn
  fromClient : List Sending
  fromServer : List Sending
  connected : Bool
  sent : Bytes
  accepted : Bytes
  deriving DecidableEq, Repr

namespace Link

/-- A step of one party, with its effect and the connection it leaves. -/
inductive Event
  | clientCall (call : AtmegaNet.Call) (e : Effect) (c : Conn)
  | serverCall (call : AtmegaNet.Call) (e : Effect) (c : Conn)
  | toClient (o : Sending) (s : Segment) (e : Effect) (c : Conn)
  | toServer (o : Sending) (s : Segment) (e : Effect) (c : Conn)

/-- The payload that a call has sent. -/
def payloadOf (call : AtmegaNet.Call) (e : Effect) : Bytes :=
  match call with
  | .send data => if e.sends.isSome then data else []
  | _ => []

/-- The payload that a segment has brought. -/
def takenFrom (e : Effect) : Bytes :=
  match e.delivers with
  | some (payload, true) => payload
  | _ => []

/-- The client makes a step. -/
def clientSteps (e : Effect) (c : Conn) (l : Link) : Link :=
  { l with client := c, fromClient := l.fromClient ++ e.sends.toList }

/-- The server makes a step. -/
def serverSteps (e : Effect) (c : Conn) (l : Link) : Link :=
  { l with server := c, fromServer := l.fromServer ++ e.sends.toList }

/-- What an event does. -/
def run : Event → Link → Link
  | .clientCall call e c, l =>
      { clientSteps e c l with
        connected := l.connected || call = .connect, sent := l.sent ++ payloadOf call e }
  | .serverCall _ e c, l => serverSteps e c l
  | .toClient _ _ e c, l => clientSteps e c l
  | .toServer _ _ e c, l => { serverSteps e c l with accepted := l.accepted ++ takenFrom e }

/-- A party with an address looks no name up, and its numbers do not wrap around. -/
structure Proceeds (c c' : Conn) : Prop where
  address : c'.state ∈ [RESOLVING, UNKNOWN_HOST] → c'.state = c.state
  next : c.localSeq ≤ c'.localSeq

/-- The events that can happen. -/
def Ok (kc ks : Limits) (l : Link) : Event → Prop
  | .clientCall call e c =>
      Acts kc l.client call e c ∧ (call = .connect → l.connected = false) ∧ Proceeds l.client c
  | .serverCall call e c => Acts ks l.server call e c ∧ call ≠ .connect ∧ Proceeds l.server c
  | .toClient o s e c =>
      o ∈ l.fromServer ∧ o.Arrives s ∧ Receives kc s l.client e c ∧ Proceeds l.client c
  | .toServer o s e c =>
      o ∈ l.fromClient ∧ o.Arrives s ∧ Receives ks s l.server e c ∧ Proceeds l.server c

/-- The beginning: nothing has been sent, the client is closed, the server listens. -/
structure Starts (l : Link) : Prop where
  client : l.client.state = CLOSED
  clientRemote : l.client.remoteSeq = 0
  server : l.server.state = LISTEN
  serverRemote : l.server.remoteSeq = 0
  fromClient : l.fromClient = []
  fromServer : l.fromServer = []
  connected : l.connected = false
  sent : l.sent = []
  accepted : l.accepted = []

/-! ### The invariant -/

/-- What is true of a segment of the client that is no RST. `opened` says that the connection
was established at the client, `held` that it is still, or not yet; `acked` bounds the numbers
the client has acknowledged. -/
structure ClientSent (base : ℕ) (opened : Bool) (held : Prop) (sent : Bytes) (acked : ℕ)
    (o : Sending) : Prop where
  short : o.payload.length < 65536
  data : o.payload ≠ [] → opened = true ∧ ¬ has o.control FIN ∧ ∃ front rest,
    sent = front ++ o.payload ++ rest ∧ o.seq.toNat = base + front.length
  syn : has o.control SYN → o.seq.toNat < base
  fin : held → has o.control FIN → o.seq.toNat < base
  ack : has o.control ACK → o.ack.toNat ≤ acked

/-- What is true of a segment of the server that is no RST. `handshake` says that the server
awaits the ACK of its SYN, with `remoteSeq` for the number it has acknowledged; `bound` bounds
what the server acknowledges. -/
structure ServerSent (next : ℕ) (handshake : Prop) (remoteSeq : UInt32) (held : Prop) (bound : ℕ)
    (o : Sending) : Prop where
  short : o.payload.length < 65536
  flags : o.payload ≠ [] → ¬ has o.control SYN ∧ ¬ has o.control FIN
  acks : has o.control ACK
  numbers : o.seq.toNat + o.numbers ≤ next
  old : handshake → ¬ has o.control SYN → o.seq.toNat + o.numbers < next
  current : handshake → has o.control SYN →
    o.seq.toNat + 1 < next ∨ o.seq.toNat + 1 = next ∧ o.ack = remoteSeq
  limit : held → o.ack.toNat ≤ bound

/-- The states of a client that has an address. -/
def clientStates : List UInt8 :=
  [CLOSED, SYN_SENT, ESTABLISHED, ESTABLISHED ||| AWAITING_ACK, FIN_WAIT_1, FIN_WAIT_2,
    CLOSE_WAIT, CLOSING, LAST_ACK, TIME_WAIT]

/-- The states of a server. -/
def serverStates : List UInt8 :=
  [LISTEN, SYN_RECEIVED, ESTABLISHED, ESTABLISHED ||| AWAITING_ACK, FIN_WAIT_1, FIN_WAIT_2,
    CLOSE_WAIT, CLOSING, LAST_ACK, TIME_WAIT]

/-- The connection of the client is established, or has not been yet. -/
def held (opened : Bool) (c : Conn) : Prop := opened = true → c.Open

/-- The stream begins at `base`; as long as the connection is not `opened` at the client, that
is the client's next number. -/
structure Streams (kc ks : Limits) (base : ℕ) (opened : Bool) (l : Link) : Prop where
  states : l.client.state ∈ clientStates
  within : l.client.Within kc
  positive : l.client.state ≠ CLOSED → 1 ≤ l.client.localSeq.toNat
  before : opened = false → l.client.localSeq.toNat = base ∧
    (l.client.state = CLOSED ∨ l.client.state = SYN_SENT) ∧ l.sent = [] ∧ l.accepted = [] ∧
      l.client.remoteSeq = 0
  after : opened = true → l.client.state ≠ SYN_SENT ∧ l.connected = true
  connected : l.client.state = SYN_SENT → l.connected = true
  next : base + l.sent.length ≤ l.client.localSeq.toNat
  current : opened = true → l.client.Open → l.client.localSeq.toNat = base + l.sent.length
  ready : l.client.state = ESTABLISHED → l.accepted = l.sent
  outstanding : l.client.state = ESTABLISHED ||| AWAITING_ACK →
    ∃ front, l.sent = front ++ l.client.data
  accepted : l.accepted <+: l.sent
  fromClient : ∀ o ∈ l.fromClient, ¬ has o.control RST →
    ClientSent base opened (held opened l.client) l.sent l.client.remoteSeq.toNat o
  serverStates : l.server.state ∈ serverStates
  serverWithin : l.server.Within ks
  serverPositive : l.server.state ≠ LISTEN → 1 ≤ l.server.localSeq.toNat
  serverData : l.server.state = ESTABLISHED ||| AWAITING_ACK →
    l.server.data.length ≤ l.server.localSeq.toNat
  serverOpen : l.server.Open → opened = true ∧
    l.server.remoteSeq.toNat = base + l.accepted.length
  handshake : l.server.state = SYN_RECEIVED →
    l.client.remoteSeq.toNat < l.server.localSeq.toNat ∨
      opened = true ∧ l.client.remoteSeq.toNat = l.server.localSeq.toNat ∧ l.accepted = [] ∧
        l.server.remoteSeq.toNat = base
  limit : held opened l.client → l.server.remoteSeq.toNat ≤ base + l.accepted.length
  acked : l.client.remoteSeq.toNat ≤ l.server.localSeq.toNat
  fromServer : ∀ o ∈ l.fromServer, ¬ has o.control RST →
    ServerSent l.server.localSeq.toNat (l.server.state = SYN_RECEIVED) l.server.remoteSeq
      (held opened l.client) (base + l.accepted.length) o

/-- What is in flight after a step was so before, or has been sent by it. -/
theorem mem_sends {o : Sending} {flight : List Sending} {sends : Option Sending} :
    o ∈ flight ++ sends.toList ↔ o ∈ flight ∨ sends = some o := by
  rw [List.mem_append, Option.mem_toList]

variable {kc ks : Limits} {base : ℕ} {opened : Bool} {l : Link} {o : Sending} {e : Effect}

/-- A number that does not wrap around. -/
theorem toNat_add_of_le {a b : UInt32} (h : a ≤ a + b) :
    (a + b).toNat = a.toNat + b.toNat := by
  rw [UInt32.le_iff_toNat_le, UInt32.toNat_add] at h
  have ha := a.toNat_lt
  have hb := b.toNat_lt
  rw [UInt32.toNat_add]
  omega

/-- An addition of sequence numbers that does not wrap. -/
theorem toNat_add_of_lt {a b : UInt32} (h : a.toNat + b.toNat < 4294967296) :
    (a + b).toNat = a.toNat + b.toNat := by
  rw [UInt32.toNat_add]
  exact Nat.mod_eq_of_lt h

/-- A subtraction of sequence numbers that does not wrap. -/
theorem toNat_sub_of_le {a b : UInt32} (h : b.toNat ≤ a.toNat) :
    (a - b).toNat = a.toNat - b.toNat :=
  UInt32.toNat_sub_of_le a b (UInt32.le_iff_toNat_le.mpr h)

/-- What the client has sent stays what it has sent while the connection goes on. -/
theorem ClientSent.mono {base' : ℕ} {opened' : Bool} {held held' : Prop} {sent sent' : Bytes}
    {acked acked' : ℕ} (h : ClientSent base opened held sent acked o) (hle : base ≤ base')
    (hopened : opened = true → opened' = true ∧ base' = base) (hheld : held' → held)
    (hsent : sent <+: sent') (hacked : acked ≤ acked') :
    ClientSent base' opened' held' sent' acked' o where
  short := h.short
  data hne := by
    obtain ⟨ho, hfin, front, rest, hfront, hseq⟩ := h.data hne
    obtain ⟨more, rfl⟩ := hsent
    obtain ⟨ho', rfl⟩ := hopened ho
    exact ⟨ho', hfin, front, rest ++ more, by rw [hfront]; simp, hseq⟩
  syn hs := Nat.lt_of_lt_of_le (h.syn hs) hle
  fin hh hf := Nat.lt_of_lt_of_le (h.fin (hheld hh) hf) hle
  ack ha := Nat.le_trans (h.ack ha) hacked

/-- So does what the server has sent. -/
theorem ServerSent.mono {next next' : ℕ} {handshake handshake' : Prop}
    {remoteSeq remoteSeq' : UInt32} {held held' : Prop} {bound bound' : ℕ}
    (h : ServerSent next handshake remoteSeq held bound o) (hnext : next ≤ next')
    (hsame : handshake' → next < next' ∨ handshake ∧ remoteSeq' = remoteSeq ∧ next' = next)
    (hheld : held' → held ∧ bound ≤ bound') :
    ServerSent next' handshake' remoteSeq' held' bound' o where
  short := h.short
  flags := h.flags
  acks := h.acks
  numbers := Nat.le_trans h.numbers hnext
  old hh hs := by
    rcases hsame hh with hlt | ⟨hh', -, hn⟩
    · exact Nat.lt_of_le_of_lt h.numbers hlt
    · rw [hn]
      exact h.old hh' hs
  current hh hs := by
    rcases hsame hh with hlt | ⟨hh', hr, hn⟩
    · have hnumbers := h.numbers
      rw [Sending.numbers, if_pos hs] at hnumbers
      exact .inl (by omega)
    · rw [hn, hr]
      exact h.current hh' hs
  limit hh := Nat.le_trans (h.limit (hheld hh).1) (hheld hh).2

/-- Without SYN and FIN a segment takes the numbers of its payload. -/
theorem numbers_of_no_flag (hsyn : ¬ has o.control SYN) (hfin : ¬ has o.control FIN) :
    o.numbers = o.payload.length := by
  rw [Sending.numbers, if_neg hsyn, if_neg hfin]
  rfl

/-- An ACK of the client. -/
theorem clientSent_ack (base : ℕ) (opened : Bool) (held : Prop) (sent : Bytes) (seq ack : UInt32) :
    ClientSent base opened held sent ack.toNat ⟨ACK, seq, ack, []⟩ where
  short := (by decide : 0 < 65536)
  data h := absurd rfl h
  syn h := absurd h (by decide : ¬ has ACK SYN)
  fin _ h := absurd h (by decide : ¬ has ACK FIN)
  ack _ := Nat.le_refl _

/-- An ACK of the server, outside the handshake. -/
theorem serverSent_ack {held : Prop} {bound : ℕ} {handshake : Prop} (hno : ¬ handshake)
    (seq ack remoteSeq : UInt32) (hlimit : held → ack.toNat ≤ bound) :
    ServerSent seq.toNat handshake remoteSeq held bound ⟨ACK, seq, ack, []⟩ where
  short := (by decide : 0 < 65536)
  flags h := absurd rfl h
  acks := (by decide : has ACK ACK)
  numbers := Nat.le_of_eq (by
    rw [numbers_of_no_flag (by decide : ¬ has ACK SYN) (by decide : ¬ has ACK FIN)]
    rfl)
  old h := absurd h hno
  current h := absurd h hno
  limit := hlimit

/-! ### Steps of the client -/

namespace Streams

variable (h : Streams kc ks base opened l)

include h

/-- What the client sends must be true of it. -/
theorem fromClient_append {c : Conn} {sent : Bytes} (hsent : l.sent <+: sent)
    (hheld : held opened c → held opened l.client) {acked : ℕ}
    (hacked : l.client.remoteSeq.toNat ≤ acked)
    (hsends : ∀ o, e.sends = some o → ¬ has o.control RST →
      ClientSent base opened (held opened c) sent acked o) :
    ∀ o ∈ l.fromClient ++ e.sends.toList, ¬ has o.control RST →
      ClientSent base opened (held opened c) sent acked o := by
  intro o ho hrst
  rcases mem_sends.mp ho with ho | ho
  · exact (h.fromClient o ho hrst).mono (Nat.le_refl _) (fun hop => ⟨hop, rfl⟩) hheld hsent hacked
  · exact hsends o ho hrst

/-- The client stays as it is, and may send something. -/
theorem clientSends (hsends : ∀ o, e.sends = some o → ¬ has o.control RST →
    ClientSent base opened (held opened l.client) l.sent l.client.remoteSeq.toNat o) :
    Streams kc ks base opened (clientSteps e l.client l) :=
  { h with
    fromClient := h.fromClient_append (List.prefix_refl _) id (Nat.le_refl _) hsends }

/-- An acknowledgement by the client keeps the invariant. -/
theorem clientAcks :
    Streams kc ks base opened (clientSteps { sends := some l.client.ackNow } l.client l) :=
  h.clientSends fun o ho _ => by
    obtain rfl := Option.some.inj ho
    exact clientSent_ack _ _ _ _ _ _

/-- A refusal by the client keeps it. -/
theorem clientRefuses {sends : Option Sending} {delivers : Option (Bytes × Bool)}
    (hsends : ∀ o, sends = some o → has o.control RST) :
    Streams kc ks base opened (clientSteps ⟨sends, delivers⟩ l.client l) :=
  h.clientSends fun o ho hrst => absurd (hsends o ho) hrst

/-- The client leaves the connection. -/
theorem clientLeaves {state : UInt8} (hmem : state ∈ [CLOSED, FIN_WAIT_2, TIME_WAIT])
    (hstate : state ≠ CLOSED → l.client.state ∉ [CLOSED, SYN_SENT])
    (hwithin : ({ l.client with state := state } : Conn).Within kc)
    (hsends : ∀ o, e.sends = some o → has o.control RST) :
    Streams kc ks base opened (clientSteps e { l.client with state := state } l) := by
  obtain ⟨hnot, hsyn, hest, hawait, hclient⟩ :=
    (by decide : ∀ state ∈ [CLOSED, FIN_WAIT_2, TIME_WAIT], state &&& 0x0F ≠ ESTABLISHED ∧
      state ≠ SYN_SENT ∧ state ≠ ESTABLISHED ∧ state ≠ ESTABLISHED ||| AWAITING_ACK ∧
        state ∈ clientStates) state hmem
  have hheld : held opened { l.client with state := state } → held opened l.client :=
    fun hh ho => absurd (hh ho) hnot
  exact { h with
    states := hclient
    within := hwithin
    positive := fun hne => h.positive fun hc => hstate hne (by rw [hc]; decide)
    before := fun ho => by
      obtain ⟨hnext, hclosed, hrest⟩ := h.before ho
      refine ⟨hnext, .inl ?_, hrest⟩
      by_contra hne
      exact hstate hne (by rcases hclosed with hc | hc <;> rw [hc] <;> decide)
    after := fun ho => ⟨hsyn, (h.after ho).2⟩
    connected := fun hs => absurd hs hsyn
    current := fun _ hopen => absurd hopen hnot
    ready := fun hs => absurd hs hest
    outstanding := fun hs => absurd hs hawait
    fromClient := h.fromClient_append (List.prefix_refl _) hheld (Nat.le_refl _)
      fun o ho hrst => absurd (hsends o ho) hrst
    limit := fun hh => h.limit (hheld hh)
    fromServer := fun o ho hrst => (h.fromServer o ho hrst).mono (Nat.le_refl _)
      (fun hs => .inr ⟨hs, rfl, rfl⟩) fun hh => ⟨hheld hh, Nat.le_refl _⟩ }

/-- The client calls `connect`, once. -/
theorem clientConnects (hfresh : l.connected = false)
    (hnext : l.client.localSeq ≤ l.client.localSeq + 1) (hroom : 24 ≤ kc.room) :
    Streams kc ks (base + 1) opened
      { clientSteps { sends := some ⟨SYN, l.client.localSeq, l.client.remoteSeq, []⟩ }
          { l.client with state := SYN_SENT, localSeq := l.client.localSeq + 1 } l with
        connected := true } := by
  have hopened : opened = false := by
    by_contra ho
    rw [Bool.not_eq_false] at ho
    rw [(h.after ho).2] at hfresh
    cases hfresh
  obtain ⟨hbase, -, hsent, haccepted, hremote⟩ := h.before hopened
  have hlocal : (l.client.localSeq + 1).toNat = base + 1 := by
    rw [toNat_add_of_le hnext, hbase]
    rfl
  have hheld : ∀ c, held opened c := fun _ ho => absurd ho (by simp [hopened])
  exact { h with
    states := (by decide : SYN_SENT ∈ clientStates)
    within := h.within.of_state rfl (.inr (.inr (.inr ⟨hroom, (by decide : SYN_SENT ≠ _)⟩)))
    positive := fun _ => by
      dsimp only [clientSteps]
      rw [hlocal]
      exact Nat.le_add_left 1 base
    before := fun _ => ⟨hlocal, .inr rfl, hsent, haccepted, hremote⟩
    after := fun ho => absurd ho (by simp [hopened])
    connected := fun _ => rfl
    next := by
      dsimp only [clientSteps]
      rw [hlocal, hsent]
      exact Nat.le_refl _
    current := fun ho => absurd ho (by simp [hopened])
    ready := fun hs => absurd hs (by decide : SYN_SENT ≠ ESTABLISHED)
    outstanding := fun hs => absurd hs (by decide : SYN_SENT ≠ ESTABLISHED ||| AWAITING_ACK)
    fromClient := by
      intro o ho hrst
      rcases mem_sends.mp ho with ho | ho
      · exact (h.fromClient o ho hrst).mono (Nat.le_succ _)
          (fun hop => absurd hop (by simp [hopened])) (fun _ => hheld _) (List.prefix_refl _)
          (Nat.le_refl _)
      · obtain rfl := Option.some.inj ho
        exact ⟨(by decide : 0 < 65536), fun hne => absurd rfl hne,
          fun _ => by dsimp only; omega, fun _ hf => absurd hf (by decide : ¬ has SYN FIN),
          fun ha => absurd ha (by decide : ¬ has SYN ACK)⟩
    serverOpen := fun ho => absurd (h.serverOpen ho).1 (by simp [hopened])
    handshake := fun hs => (h.handshake hs).imp_right
      fun ho => absurd ho.1 (by simp [hopened])
    limit := fun _ => Nat.le_trans (h.limit (hheld _)) (Nat.add_le_add_right (Nat.le_succ _) _)
    fromServer := fun o ho hrst => (h.fromServer o ho hrst).mono (Nat.le_refl _)
      (fun hs => .inr ⟨hs, rfl, rfl⟩)
      fun _ => ⟨hheld _, Nat.add_le_add_right (Nat.le_succ _) _⟩ }

/-- A connection that is open is established at the client. -/
theorem opened_of_open (hopen : l.client.Open) : opened = true := by
  by_contra ho
  rw [Bool.not_eq_true] at ho
  obtain ⟨-, hstate, -⟩ := h.before ho
  have hne : ∀ state ∈ [CLOSED, SYN_SENT], l.client.state ≠ state := by
    intro state hmem hs
    rw [Conn.Open, hs] at hopen
    exact (by decide : ∀ state ∈ [CLOSED, SYN_SENT], state &&& 0x0F ≠ ESTABLISHED) state hmem hopen
  rcases hstate with hs | hs
  · exact hne _ (by decide) hs
  · exact hne _ (by decide) hs

/-- The client sends a payload. -/
theorem clientTransmits {data : Bytes} (hopen : l.client.Open)
    (hnext : l.client.localSeq ≤ l.client.localSeq + UInt32.ofNat data.length)
    (hne : data ≠ []) (hshort : data.length < 65536)
    (hwithin : ({ l.client with
      state := l.client.state ||| AWAITING_ACK
      localSeq := l.client.localSeq + UInt32.ofNat data.length, data := data } : Conn).Within kc) :
    Streams kc ks base opened
      { clientSteps
          { sends := some ⟨ACK ||| PSH, l.client.localSeq, l.client.remoteSeq, data⟩ }
          { l.client with
            state := l.client.state ||| AWAITING_ACK
            localSeq := l.client.localSeq + UInt32.ofNat data.length, data := data } l with
        sent := l.sent ++ data } := by
  have ho := h.opened_of_open hopen
  have hcurrent := h.current ho hopen
  have hlocal : (l.client.localSeq + UInt32.ofNat data.length).toNat =
      base + (l.sent ++ data).length := by
    rw [toNat_add_of_le hnext, UInt32.toNat_ofNat_of_lt' (Nat.lt_trans hshort (by decide)),
      hcurrent, List.length_append,
      Nat.add_assoc]
  have hstate : l.client.state ||| AWAITING_ACK = ESTABLISHED ||| AWAITING_ACK := hopen.or_awaiting
  have hheld : held opened { l.client with
      state := l.client.state ||| AWAITING_ACK
      localSeq := l.client.localSeq + UInt32.ofNat data.length, data := data } →
        held opened l.client := fun _ _ => hopen
  refine { h with
    states := ?_
    within := hwithin
    positive := fun _ => ?_
    before := fun ho' => absurd ho (by simp [ho'])
    after := fun _ => ⟨?_, (h.after ho).2⟩
    connected := fun _ => (h.after ho).2
    next := Nat.le_of_eq hlocal.symm
    current := fun _ _ => hlocal
    ready := fun hs => absurd (hstate.symm.trans hs) (by decide)
    outstanding := fun _ => ⟨l.sent, rfl⟩
    accepted := h.accepted.trans (List.prefix_append _ _)
    fromClient := h.fromClient_append (List.prefix_append _ _) hheld (Nat.le_refl _) ?_
    limit := fun hh => h.limit (hheld hh)
    fromServer := fun o ho hrst => (h.fromServer o ho hrst).mono (Nat.le_refl _)
      (fun hs => .inr ⟨hs, rfl, rfl⟩) fun hh => ⟨hheld hh, Nat.le_refl _⟩ }
  · dsimp only [clientSteps]
    rw [hstate]
    decide
  · dsimp only [clientSteps]
    rw [hlocal, List.length_append]
    have hpos := List.length_pos_of_ne_nil hne
    omega
  · dsimp only [clientSteps]
    rw [hstate]
    decide
  · intro o hsend _
    obtain rfl := Option.some.inj hsend
    refine ⟨hshort, fun _ => ⟨ho, (by decide : ¬ has (ACK ||| PSH) FIN), l.sent, [], ?_, hcurrent⟩,
      fun hs => absurd hs (by decide : ¬ has (ACK ||| PSH) SYN),
      fun _ hf => absurd hf (by decide : ¬ has (ACK ||| PSH) FIN), fun _ => Nat.le_refl _⟩
    exact (List.append_nil _).symm

/-- The client closes, in the middle of the handshake. -/
theorem clientQuits (hnext : l.client.localSeq ≤ l.client.localSeq + 1)
    (hstate : l.client.state = SYN_SENT) :
    Streams kc ks (base + 1) opened
      (clientSteps { sends := some ⟨FIN ||| ACK, l.client.localSeq, l.client.remoteSeq, []⟩ }
        { l.client with localSeq := l.client.localSeq + 1 } l) := by
  have hopened : opened = false := by
    by_contra ho
    rw [Bool.not_eq_false] at ho
    exact (h.after ho).1 hstate
  obtain ⟨hbase, -, hsent, haccepted, hremote⟩ := h.before hopened
  have hlocal : (l.client.localSeq + 1).toNat = base + 1 := by
    rw [toNat_add_of_le hnext, hbase]
    rfl
  have hheld : ∀ c, held opened c := fun _ ho => absurd ho (by simp [hopened])
  exact { h with
    within := h.within.of_state rfl (.inl rfl)
    positive := fun _ => by
      dsimp only [clientSteps]
      rw [hlocal]
      exact Nat.le_add_left 1 base
    before := fun _ => ⟨hlocal, .inr hstate, hsent, haccepted, hremote⟩
    next := by
      dsimp only [clientSteps]
      rw [hlocal, hsent]
      exact Nat.le_refl _
    current := fun ho => absurd ho (by simp [hopened])
    fromClient := by
      intro o ho hrst
      rcases mem_sends.mp ho with ho | ho
      · exact (h.fromClient o ho hrst).mono (Nat.le_succ _)
          (fun hop => absurd hop (by simp [hopened])) (fun _ => hheld _) (List.prefix_refl _)
          (Nat.le_refl _)
      · obtain rfl := Option.some.inj ho
        exact ⟨(by decide : 0 < 65536), fun hne => absurd rfl hne,
          fun hs => absurd hs (by decide : ¬ has (FIN ||| ACK) SYN),
          fun _ _ => by dsimp only; omega, fun _ => Nat.le_refl _⟩
    serverOpen := fun ho => absurd (h.serverOpen ho).1 (by simp [hopened])
    handshake := fun hs => (h.handshake hs).imp_right
      fun ho => absurd ho.1 (by simp [hopened])
    limit := fun _ => Nat.le_trans (h.limit (hheld _)) (Nat.add_le_add_right (Nat.le_succ _) _)
    fromServer := fun o ho hrst => (h.fromServer o ho hrst).mono (Nat.le_refl _)
      (fun hs => .inr ⟨hs, rfl, rfl⟩)
      fun _ => ⟨hheld _, Nat.add_le_add_right (Nat.le_succ _) _⟩ }

/-- The client closes an established connection. -/
theorem clientCloses (state : UInt8) {sends : Option Sending} (ho : opened = true)
    (hnext : l.client.localSeq ≤ l.client.localSeq + 1)
    (hstate : state ∈ [FIN_WAIT_1, LAST_ACK, CLOSE_WAIT])
    (hwithin : ({ l.client with state := state, localSeq := l.client.localSeq + 1 } :
      Conn).Within kc)
    (hsends : ∀ o, sends = some o →
      o = ⟨FIN ||| ACK, l.client.localSeq, l.client.remoteSeq, []⟩) :
    Streams kc ks base opened (clientSteps { sends := sends }
      { l.client with state := state, localSeq := l.client.localSeq + 1 } l) := by
  obtain ⟨hnot, hsyn, hest, hawait, hclient⟩ :=
    (by decide : ∀ state ∈ [FIN_WAIT_1, LAST_ACK, CLOSE_WAIT], state &&& 0x0F ≠ ESTABLISHED ∧
      state ≠ SYN_SENT ∧ state ≠ ESTABLISHED ∧ state ≠ ESTABLISHED ||| AWAITING_ACK ∧
        state ∈ clientStates) state hstate
  have hlocal : (l.client.localSeq + 1).toNat = l.client.localSeq.toNat + 1 :=
    toNat_add_of_le hnext
  have hheld : ∀ {P : Prop}, held opened { l.client with
      state := state, localSeq := l.client.localSeq + 1 } → P := fun hh => absurd (hh ho) hnot
  exact { h with
    states := hclient
    within := hwithin
    positive := fun _ => by
      dsimp only [clientSteps]
      rw [hlocal]
      exact Nat.le_add_left 1 _
    before := fun ho' => absurd ho (by simp [ho'])
    after := fun _ => ⟨hsyn, (h.after ho).2⟩
    connected := fun hs => absurd hs hsyn
    next := by
      dsimp only [clientSteps]
      rw [hlocal]
      exact Nat.le_succ_of_le h.next
    current := fun _ hopen => absurd hopen hnot
    ready := fun hs => absurd hs hest
    outstanding := fun hs => absurd hs hawait
    fromClient := h.fromClient_append (List.prefix_refl _) hheld (Nat.le_refl _) fun o hs _ => by
      rw [hsends o hs]
      exact ⟨(by decide : 0 < 65536), fun hne => absurd rfl hne,
        fun hs => absurd hs (by decide : ¬ has (FIN ||| ACK) SYN), fun hh => hheld hh,
        fun _ => Nat.le_refl _⟩
    limit := hheld
    fromServer := fun o hm hrst => (h.fromServer o hm hrst).mono (Nat.le_refl _)
      (fun hs => .inr ⟨hs, rfl, rfl⟩) hheld }

/-- The SYN+ACK of the server establishes the connection. -/
theorem clientOpens {s : Segment} (ho : o ∈ l.fromServer) (harrives : o.Arrives s)
    (hrst : ¬ has o.control RST) (hstate : l.client.state = SYN_SENT)
    (hcontrol : s.control = ACK ||| SYN) (hack : s.ack = l.client.localSeq) (hroom : 24 ≤ kc.room) :
    Streams kc ks base true
      (clientSteps { sends := some ⟨ACK, l.client.localSeq, s.seq + 1, []⟩ }
        { l.client with state := ESTABLISHED, remoteSeq := s.seq + 1 } l) := by
  have hopened : opened = false := by
    by_contra ho
    rw [Bool.not_eq_false] at ho
    exact (h.after ho).1 hstate
  obtain ⟨hbase, -, hsent, haccepted, hremote⟩ := h.before hopened
  have hs := h.fromServer o ho hrst
  have hsyn : has o.control SYN := by
    rw [← harrives.control, hcontrol]
    decide
  have hnumbers := hs.numbers
  rw [Sending.numbers, if_pos hsyn] at hnumbers
  have hlt := l.server.localSeq.toNat_lt
  have hseq : (s.seq + 1).toNat = o.seq.toNat + 1 := by
    rw [harrives.seq]
    exact toNat_add_of_lt (Nat.lt_of_le_of_lt (Nat.add_le_add_left (Nat.le_refl 1) _)
      (Nat.lt_of_le_of_lt (by omega) hlt))
  have hheld : ∀ c, held opened c := fun _ ho => absurd ho (by simp [hopened])
  have hclosed : ¬ l.server.Open := fun hopen => absurd (h.serverOpen hopen).1 (by simp [hopened])
  exact { h with
    states := (by decide : ESTABLISHED ∈ clientStates)
    within := h.within.of_state rfl (.inr (.inr (.inr ⟨hroom, (by decide : ESTABLISHED ≠ _)⟩)))
    positive := fun _ => h.positive (by rw [hstate]; decide)
    before := fun ho => absurd ho (by decide)
    after := fun _ => ⟨(by decide : ESTABLISHED ≠ SYN_SENT), h.connected hstate⟩
    connected := fun hs => absurd hs (by decide : ESTABLISHED ≠ SYN_SENT)
    current := fun _ _ => by
      dsimp only [clientSteps]
      rw [hbase, hsent]
      rfl
    ready := fun _ => by
      dsimp only [clientSteps]
      rw [hsent, haccepted]
    outstanding := fun hs => absurd hs (by decide : ESTABLISHED ≠ ESTABLISHED ||| AWAITING_ACK)
    fromClient := by
      intro o' ho' hrst'
      rcases mem_sends.mp ho' with ho' | ho'
      · refine (h.fromClient o' ho' hrst').mono (Nat.le_refl _)
          (fun hop => absurd hop (by simp [hopened])) (fun _ => hheld _) (List.prefix_refl _) ?_
        rw [hremote]
        exact Nat.zero_le _
      · obtain rfl := Option.some.inj ho'
        exact clientSent_ack _ _ _ _ _ _
    serverOpen := fun hopen => absurd hopen hclosed
    handshake := fun hstate' => by
      dsimp only [clientSteps]
      rw [hseq]
      rcases hs.current hstate' hsyn with hold | ⟨hlast, hacked⟩
      · exact .inl hold
      · refine .inr ⟨rfl, hlast, haccepted, ?_⟩
        rw [← hacked, ← harrives.ack, hack, hbase]
    limit := fun _ => h.limit (hheld _)
    acked := by
      dsimp only [clientSteps]
      rw [hseq]
      omega
    fromServer := fun o hm hrst => (h.fromServer o hm hrst).mono (Nat.le_refl _)
      (fun hs => .inr ⟨hs, rfl, rfl⟩) fun _ => ⟨hheld _, Nat.le_refl _⟩ }

/-- What the client acknowledges of a segment in order lies inside the numbers of the server, and
below its next number during the handshake. -/
theorem client_acknowledges {s : Segment} (ho : o ∈ l.fromServer) (harrives : o.Arrives s)
    (hrst : ¬ has o.control RST) (hseq : s.seq = l.client.remoteSeq) :
    (l.client.acknowledges s).toNat = l.client.remoteSeq.toNat ∨
      l.client.remoteSeq.toNat < (l.client.acknowledges s).toNat ∧
        (l.client.acknowledges s).toNat ≤ l.server.localSeq.toNat ∧
          (l.server.state = SYN_RECEIVED →
            (l.client.acknowledges s).toNat < l.server.localSeq.toNat) := by
  have hs := h.fromServer o ho hrst
  have hnumbers := hs.numbers
  have hlt := l.server.localSeq.toNat_lt
  have hseq' : o.seq = l.client.remoteSeq := harrives.seq.symm.trans hseq
  rw [hseq'] at hnumbers
  unfold Conn.acknowledges
  by_cases htakes : Conn.takes s
  · rw [if_pos htakes]
    simp only [Conn.takes, Bool.and_eq_true, decide_eq_true_eq] at htakes
    obtain ⟨⟨-, hpos⟩, -⟩ := htakes
    rw [harrives.payload] at hpos
    obtain ⟨hsyn, hfin⟩ := hs.flags (List.ne_nil_of_length_pos hpos)
    have hsize : s.payloadSize.toUInt32.toNat = o.payload.length := by
      rw [UInt16.toNat_toUInt32, harrives.payloadSize hfin, Buffer.toNat_lengthOf hs.short]
    have hlength := numbers_of_no_flag hsyn hfin
    rw [hlength] at hnumbers
    rw [hseq, toNat_add_of_lt (by rw [hsize]; omega), hsize]
    refine .inr ⟨by omega, hnumbers, fun hstate => ?_⟩
    have hold := hs.old hstate hsyn
    rwa [hlength, hseq'] at hold
  rw [if_neg htakes]
  by_cases hfin : has s.control FIN
  · rw [if_pos hfin]
    have hfin : has o.control FIN := harrives.control ▸ hfin
    have hone : (l.client.remoteSeq + 1).toNat = l.client.remoteSeq.toNat + 1 := by
      refine toNat_add_of_lt ?_
      rw [Sending.numbers, if_pos hfin] at hnumbers
      have h1 : (1 : UInt32).toNat = 1 := rfl
      omega
    rw [hone]
    refine .inr ⟨Nat.lt_succ_self _, ?_, fun hstate => ?_⟩
    · rw [Sending.numbers, if_pos hfin] at hnumbers
      omega
    · -- a segment with both flags would take two numbers
      by_cases hsyn : has o.control SYN
      · rw [Sending.numbers, if_pos hfin, if_pos hsyn] at hnumbers
        omega
      · have hold := hs.old hstate hsyn
        rw [Sending.numbers, if_pos hfin, hseq'] at hold
        omega
  · rw [if_neg hfin]
    exact .inl rfl

/-- The client receives the next segment. -/
theorem clientReceives {s : Segment} (ho : o ∈ l.fromServer) (harrives : o.Arrives s)
    (hrst : ¬ has o.control RST) (hopen : l.client.Open) (hseq : s.seq = l.client.remoteSeq)
    (hwithin : (l.client.inOrder s).Within kc) :
    Streams kc ks base opened
      (clientSteps (l.client.inOrderEffect s) (l.client.inOrder s) l) := by
  have hopened := h.opened_of_open hopen
  have hacked := h.client_acknowledges ho harrives hrst hseq
  have hstate := hopen.state_inOrder s
  have hopens : ∀ state ∈ [CLOSED, SYN_SENT], l.client.state ≠ state := by
    intro state hmem hs
    rw [Conn.Open, hs] at hopen
    exact (by decide : ∀ state ∈ [CLOSED, SYN_SENT], state &&& 0x0F ≠ ESTABLISHED) state hmem hopen
  have hheld : held opened (l.client.inOrder s) → held opened l.client := fun _ _ => hopen
  have hsyn : (l.client.inOrder s).state ≠ SYN_SENT := by
    rcases hstate with ⟨-, hs⟩ | ⟨-, hs | ⟨hs, -⟩⟩
    · rw [hs]; decide
    · rw [hs]; exact hopens _ (by decide)
    · rw [hs]; decide
  refine { h with
    states := ?_
    within := hwithin
    positive := fun _ => h.positive (hopens _ (by decide))
    before := fun ho' => absurd hopened (by simp [ho'])
    after := fun _ => ⟨hsyn, (h.after hopened).2⟩
    connected := fun hs => absurd hs hsyn
    current := fun _ _ => h.current hopened hopen
    ready := fun hs => ?_
    outstanding := fun hs => ?_
    fromClient := h.fromClient_append (List.prefix_refl _) hheld ?_ fun o' ho' _ => ?_
    handshake := fun hs => ?_
    limit := fun hh => h.limit (hheld hh)
    acked := ?_
    fromServer := fun o hm hrst => (h.fromServer o hm hrst).mono (Nat.le_refl _)
      (fun hs => .inr ⟨hs, rfl, rfl⟩) fun hh => ⟨hheld hh, Nat.le_refl _⟩ }
  · dsimp only [clientSteps]
    rcases hstate with ⟨-, hs⟩ | ⟨-, hs | ⟨hs, -⟩⟩
    · rw [hs]; decide
    · rw [hs]; exact h.states
    · rw [hs]; decide
  · rcases hstate with ⟨-, hs'⟩ | ⟨-, hs' | ⟨-, hack, -⟩⟩
    · exact absurd (hs'.symm.trans hs) (by decide)
    · exact h.ready (hs'.symm.trans hs)
    · -- everything sent is acknowledged, and the server acknowledges what it has accepted
      have hlimit := (h.fromServer o ho hrst).limit fun _ => hopen
      rw [← harrives.ack, hack, h.current hopened hopen] at hlimit
      exact h.accepted.eq_of_length_le (Nat.le_of_add_le_add_left hlimit)
  · rcases hstate with ⟨-, hs'⟩ | ⟨-, hs' | ⟨hs', -⟩⟩
    · exact absurd (hs'.symm.trans hs) (by decide)
    · exact h.outstanding (hs'.symm.trans hs)
    · exact absurd (hs'.symm.trans hs) (by decide)
  · rcases hacked with hsame | ⟨hlt, -⟩
    · exact Nat.le_of_eq hsame.symm
    · exact Nat.le_of_lt hlt
  · dsimp only [Conn.inOrderEffect] at ho'
    split at ho'
    · obtain rfl := Option.some.inj ho'
      exact clientSent_ack _ _ _ _ _ _
    · exact absurd ho' (by simp)
  · rcases hacked with hsame | ⟨-, -, hlt⟩
    · have hold := h.handshake hs
      rwa [← hsame] at hold
    · exact .inl (hlt hs)
  · rcases hacked with hsame | ⟨-, hle, -⟩
    · exact Nat.le_trans (Nat.le_of_eq hsame) h.acked
    · exact hle

/-! ### Steps of the server -/

/-- What the server sends must be true of it. -/
theorem fromServer_append {c : Conn} {bound : ℕ}
    (hnext : l.server.localSeq.toNat ≤ c.localSeq.toNat)
    (hsame : c.state = SYN_RECEIVED → l.server.localSeq.toNat < c.localSeq.toNat ∨
      l.server.state = SYN_RECEIVED ∧ c.remoteSeq = l.server.remoteSeq ∧
        c.localSeq.toNat = l.server.localSeq.toNat)
    (hbound : base + l.accepted.length ≤ bound)
    (hsends : ∀ o, e.sends = some o → ¬ has o.control RST →
      ServerSent c.localSeq.toNat (c.state = SYN_RECEIVED) c.remoteSeq (held opened l.client)
        bound o) :
    ∀ o ∈ l.fromServer ++ e.sends.toList, ¬ has o.control RST →
      ServerSent c.localSeq.toNat (c.state = SYN_RECEIVED) c.remoteSeq (held opened l.client)
        bound o := by
  intro o ho hrst
  rcases mem_sends.mp ho with ho | ho
  · exact (h.fromServer o ho hrst).mono hnext hsame fun hh => ⟨hh, hbound⟩
  · exact hsends o ho hrst

/-- The server stays as it is, and may send something. -/
theorem serverSends (hsends : ∀ o, e.sends = some o → ¬ has o.control RST →
    ServerSent l.server.localSeq.toNat (l.server.state = SYN_RECEIVED) l.server.remoteSeq
      (held opened l.client) (base + l.accepted.length) o) :
    Streams kc ks base opened (serverSteps e l.server l) :=
  { h with
    fromServer := h.fromServer_append (Nat.le_refl _) (fun hs => .inr ⟨hs, rfl, rfl⟩)
      (Nat.le_refl _) hsends }

/-- An acknowledgement by the server keeps it. -/
theorem serverAcks (hstate : l.server.state ≠ SYN_RECEIVED) :
    Streams kc ks base opened (serverSteps { sends := some l.server.ackNow } l.server l) :=
  h.serverSends fun o ho _ => by
    obtain rfl := Option.some.inj ho
    exact serverSent_ack hstate _ _ _ h.limit

/-- A refusal by the server keeps it. -/
theorem serverRefuses {sends : Option Sending} {delivers : Option (Bytes × Bool)}
    (hsends : ∀ o, sends = some o → has o.control RST) :
    Streams kc ks base opened (serverSteps ⟨sends, delivers⟩ l.server l) :=
  h.serverSends fun o ho hrst => absurd (hsends o ho) hrst

/-- The server leaves the connection. -/
theorem serverLeaves {state : UInt8} (hmem : state ∈ [LISTEN, FIN_WAIT_2, TIME_WAIT])
    (hstate : state ≠ LISTEN → l.server.state ≠ LISTEN)
    (hwithin : ({ l.server with state := state } : Conn).Within ks)
    (hsends : ∀ o, e.sends = some o → has o.control RST) :
    Streams kc ks base opened (serverSteps e { l.server with state := state } l) := by
  obtain ⟨hnot, hreceived, hawait, hserver⟩ :=
    (by decide : ∀ state ∈ [LISTEN, FIN_WAIT_2, TIME_WAIT], state &&& 0x0F ≠ ESTABLISHED ∧
      state ≠ SYN_RECEIVED ∧ state ≠ ESTABLISHED ||| AWAITING_ACK ∧
        state ∈ Link.serverStates) state hmem
  exact { h with
    serverStates := hserver
    serverWithin := hwithin
    serverPositive := fun hne => h.serverPositive (hstate hne)
    serverData := fun hs => absurd hs hawait
    serverOpen := fun hopen => absurd hopen hnot
    handshake := fun hs => absurd hs hreceived
    fromServer := h.fromServer_append (c := { l.server with state := state }) (Nat.le_refl _)
      (fun hs => absurd hs hreceived) (Nat.le_refl _)
      fun o ho hrst => absurd (hsends o ho) hrst }

/-- What a SYN of the client acknowledges lies before the stream. -/
theorem toNat_syn {s : Segment} (ho : o ∈ l.fromClient) (harrives : o.Arrives s)
    (hcontrol : s.control = SYN) : (s.seq + 1).toNat ≤ base := by
  have hsyn : o.control = SYN := harrives.control.symm.trans hcontrol
  have hbelow := (h.fromClient o ho (by rw [hsyn]; decide)).syn (by rw [hsyn]; decide)
  have hnext := h.next
  have hlt := l.client.localSeq.toNat_lt
  rw [harrives.seq, toNat_add_of_lt]
  · exact hbelow
  · have h1 : (1 : UInt32).toNat = 1 := rfl
    omega

/-- A SYN reaches the server in LISTEN. -/
theorem serverAccepts {s : Segment} (ho : o ∈ l.fromClient) (harrives : o.Arrives s)
    (hcontrol : s.control = SYN) (hnext : l.server.localSeq ≤ l.server.localSeq + 1)
    (hroom : 24 ≤ ks.room) :
    Streams kc ks base opened
      (serverSteps { sends := some ⟨SYN ||| ACK, l.server.localSeq, s.seq + 1, []⟩ }
        { l.server with
          state := SYN_RECEIVED, localSeq := l.server.localSeq + 1
          remoteSeq := s.seq + 1 } l) := by
  have hlocal : (l.server.localSeq + 1).toNat = l.server.localSeq.toNat + 1 :=
    toNat_add_of_le hnext
  have hremote := h.toNat_syn ho harrives hcontrol
  have hlt : l.server.localSeq.toNat < (l.server.localSeq + 1).toNat := by
    rw [hlocal]
    exact Nat.lt_succ_self _
  exact { h with
    serverStates := (by decide : SYN_RECEIVED ∈ Link.serverStates)
    serverWithin := h.serverWithin.of_state rfl
      (.inr (.inr (.inr ⟨hroom, (by decide : SYN_RECEIVED ≠ _)⟩)))
    serverPositive := fun _ => Nat.lt_of_le_of_lt (Nat.zero_le _) hlt
    serverData := fun hs => absurd hs (by decide : SYN_RECEIVED ≠ ESTABLISHED ||| AWAITING_ACK)
    serverOpen := fun hopen => absurd hopen (by decide : SYN_RECEIVED &&& 0x0F ≠ ESTABLISHED)
    handshake := fun _ => .inl (Nat.lt_of_le_of_lt h.acked hlt)
    limit := fun _ => Nat.le_trans hremote (Nat.le_add_right _ _)
    acked := Nat.le_trans h.acked (Nat.le_of_lt hlt)
    fromServer := h.fromServer_append (c := { l.server with
        state := SYN_RECEIVED, localSeq := l.server.localSeq + 1, remoteSeq := s.seq + 1 })
      (Nat.le_of_lt hlt) (fun _ => .inl hlt) (Nat.le_refl _) fun o' ho' _ => by
        obtain rfl := Option.some.inj ho'
        refine ⟨(by decide : 0 < 65536), fun hne => absurd rfl hne,
          (by decide : has (SYN ||| ACK) ACK), Nat.le_of_eq ?_,
          fun _ hs => absurd (by decide : has (SYN ||| ACK) SYN) hs,
          fun _ _ => .inr ⟨hlocal.symm, rfl⟩, fun _ => Nat.le_trans hremote (Nat.le_add_right _ _)⟩
        rw [Sending.numbers, if_pos (by decide : has (SYN ||| ACK) SYN),
          if_neg (by decide : ¬ has (SYN ||| ACK) FIN)]
        exact hlocal.symm }

/-- A SYN reaches the server in LISTEN, but the answer does not fit. -/
theorem serverNotes {s : Segment} (ho : o ∈ l.fromClient) (harrives : o.Arrives s)
    (hcontrol : s.control = SYN) (hstate : l.server.state = LISTEN) :
    Streams kc ks base opened (serverSteps {} { l.server with remoteSeq := s.seq + 1 } l) := by
  have hremote := h.toNat_syn ho harrives hcontrol
  exact { h with
    serverWithin := h.serverWithin.of_state rfl (.inl rfl)
    serverOpen := fun hopen => by
      have hopen : l.server.state &&& 0x0F = ESTABLISHED := hopen
      rw [hstate] at hopen
      exact absurd hopen (by decide)
    handshake := fun hs => absurd (hstate.symm.trans hs) (by decide)
    limit := fun _ => Nat.le_trans hremote (Nat.le_add_right _ _)
    fromServer := h.fromServer_append (c := { l.server with remoteSeq := s.seq + 1 })
      (Nat.le_refl _) (fun hs => absurd (hstate.symm.trans hs) (by decide)) (Nat.le_refl _)
      fun o ho => absurd ho (by simp) }

/-- The server sends a payload. -/
theorem serverTransmits {data : Bytes} (hopen : l.server.Open)
    (hnext : l.server.localSeq ≤ l.server.localSeq + UInt32.ofNat data.length)
    (hshort : data.length < 65536)
    (hwithin : ({ l.server with
      state := l.server.state ||| AWAITING_ACK
      localSeq := l.server.localSeq + UInt32.ofNat data.length, data := data } : Conn).Within ks) :
    Streams kc ks base opened
      (serverSteps { sends := some ⟨ACK ||| PSH, l.server.localSeq, l.server.remoteSeq, data⟩ }
        { l.server with
          state := l.server.state ||| AWAITING_ACK
          localSeq := l.server.localSeq + UInt32.ofNat data.length, data := data } l) := by
  have hlocal : (l.server.localSeq + UInt32.ofNat data.length).toNat =
      l.server.localSeq.toNat + data.length := by
    rw [toNat_add_of_le hnext, UInt32.toNat_ofNat_of_lt' (Nat.lt_trans hshort (by decide))]
  have hle : l.server.localSeq.toNat ≤ (l.server.localSeq + UInt32.ofNat data.length).toNat := by
    rw [hlocal]
    exact Nat.le_add_right _ _
  have hstate : l.server.state ||| AWAITING_ACK = ESTABLISHED ||| AWAITING_ACK := hopen.or_awaiting
  have hlisten : l.server.state ≠ LISTEN := hopen.ne (by decide)
  have hreceived : l.server.state ||| AWAITING_ACK ≠ SYN_RECEIVED := by
    rw [hstate]
    decide
  exact { h with
    serverStates := by
      dsimp only [serverSteps]
      rw [hstate]
      decide
    serverWithin := hwithin
    serverPositive := fun _ => Nat.le_trans (h.serverPositive hlisten) hle
    serverData := fun _ => by
      dsimp only [serverSteps]
      rw [hlocal]
      exact Nat.le_add_left _ _
    serverOpen := fun _ => h.serverOpen hopen
    handshake := fun hs => absurd hs hreceived
    acked := Nat.le_trans h.acked hle
    fromServer := h.fromServer_append (c := { l.server with
        state := l.server.state ||| AWAITING_ACK
        localSeq := l.server.localSeq + UInt32.ofNat data.length, data := data })
      hle (fun hs => absurd hs hreceived) (Nat.le_refl _) fun o ho _ => by
        obtain rfl := Option.some.inj ho
        refine ⟨hshort, fun _ => ⟨(by decide : ¬ has (ACK ||| PSH) SYN),
          (by decide : ¬ has (ACK ||| PSH) FIN)⟩, (by decide : has (ACK ||| PSH) ACK),
          Nat.le_of_eq ?_, fun hs => absurd hs hreceived, fun hs => absurd hs hreceived, h.limit⟩
        rw [numbers_of_no_flag (by decide : ¬ has (ACK ||| PSH) SYN)
          (by decide : ¬ has (ACK ||| PSH) FIN)]
        exact hlocal.symm }

/-- The server closes. -/
theorem serverCloses (state : UInt8) {sends : Option Sending}
    (hnext : l.server.localSeq ≤ l.server.localSeq + 1)
    (hstate : state ∈ [FIN_WAIT_1, LAST_ACK, CLOSE_WAIT])
    (hwithin : ({ l.server with state := state, localSeq := l.server.localSeq + 1 } :
      Conn).Within ks)
    (hsends : ∀ o, sends = some o →
      o = ⟨FIN ||| ACK, l.server.localSeq, l.server.remoteSeq, []⟩) :
    Streams kc ks base opened (serverSteps { sends := sends }
      { l.server with state := state, localSeq := l.server.localSeq + 1 } l) := by
  obtain ⟨hnot, hreceived, hawait, hserver⟩ :=
    (by decide : ∀ state ∈ [FIN_WAIT_1, LAST_ACK, CLOSE_WAIT], state &&& 0x0F ≠ ESTABLISHED ∧
      state ≠ SYN_RECEIVED ∧ state ≠ ESTABLISHED ||| AWAITING_ACK ∧
        state ∈ Link.serverStates) state hstate
  have hlocal : (l.server.localSeq + 1).toNat = l.server.localSeq.toNat + 1 :=
    toNat_add_of_le hnext
  have hlt : l.server.localSeq.toNat < (l.server.localSeq + 1).toNat := by
    rw [hlocal]
    exact Nat.lt_succ_self _
  exact { h with
    serverStates := hserver
    serverWithin := hwithin
    serverPositive := fun _ => Nat.lt_of_le_of_lt (Nat.zero_le _) hlt
    serverData := fun hs => absurd hs hawait
    serverOpen := fun hopen => absurd hopen hnot
    handshake := fun hs => absurd hs hreceived
    acked := Nat.le_trans h.acked (Nat.le_of_lt hlt)
    fromServer := h.fromServer_append
      (c := { l.server with state := state, localSeq := l.server.localSeq + 1 })
      (Nat.le_of_lt hlt) (fun hs => absurd hs hreceived) (Nat.le_refl _) fun o ho _ => by
        rw [hsends o ho]
        refine ⟨(by decide : 0 < 65536), fun hne => absurd rfl hne,
          (by decide : has (FIN ||| ACK) ACK), Nat.le_of_eq ?_, fun hs => absurd hs hreceived,
          fun hs => absurd hs hreceived, h.limit⟩
        rw [Sending.numbers, if_neg (by decide : ¬ has (FIN ||| ACK) SYN),
          if_pos (by decide : has (FIN ||| ACK) FIN)]
        exact hlocal.symm }

/-- The ACK of its SYN reaches the server: it is of the connection the client has, and nothing
has been accepted before. -/
theorem serverEstablishes {s : Segment} (ho : o ∈ l.fromClient) (harrives : o.Arrives s)
    (hrst : ¬ has o.control RST) (hstate : l.server.state = SYN_RECEIVED)
    (hack : (l.server).Acknowledged s) :
    Streams kc ks base opened (serverSteps {} { l.server with state := ESTABLISHED } l) := by
  have hacked := (h.fromClient o ho hrst).ack (harrives.control ▸ hack.1)
  rw [← harrives.ack, hack.2] at hacked
  obtain ⟨hopened, -, haccepted, hremote⟩ :=
    (h.handshake hstate).resolve_left (Nat.not_lt.mpr hacked)
  have hroom := h.serverWithin.room_of_syn (.inr hstate)
  exact { h with
    serverStates := (by decide : ESTABLISHED ∈ Link.serverStates)
    serverWithin := h.serverWithin.of_state rfl
      (.inr (.inr (.inr ⟨hroom, (by decide : ESTABLISHED ≠ _)⟩)))
    serverPositive := fun _ => h.serverPositive (by rw [hstate]; decide)
    serverData := fun hs => absurd hs (by decide : ESTABLISHED ≠ ESTABLISHED ||| AWAITING_ACK)
    serverOpen := fun _ => ⟨hopened, by
      dsimp only [serverSteps]
      rw [hremote, haccepted]
      rfl⟩
    handshake := fun hs => absurd hs (by decide : ESTABLISHED ≠ SYN_RECEIVED)
    fromServer := h.fromServer_append (c := { l.server with state := ESTABLISHED })
      (Nat.le_refl _) (fun hs => absurd hs (by decide : ESTABLISHED ≠ SYN_RECEIVED))
      (Nat.le_refl _) fun o ho => absurd ho (by simp) }

/-- A payload in order is the next piece of the stream. -/
theorem accepted_append {s : Segment} (ho : o ∈ l.fromClient) (harrives : o.Arrives s)
    (hrst : ¬ has o.control RST) (hopen : l.server.Open) (hseq : s.seq = l.server.remoteSeq)
    (hne : s.payload ≠ []) :
    ¬ has s.control FIN ∧ s.payloadSize.toUInt32.toNat = s.payload.length ∧
      l.accepted ++ s.payload <+: l.sent := by
  rw [harrives.payload] at hne ⊢
  have hs := h.fromClient o ho hrst
  obtain ⟨-, hfin, front, rest, hsent, hfront⟩ := hs.data hne
  obtain ⟨-, hremote⟩ := h.serverOpen hopen
  refine ⟨harrives.control ▸ hfin, ?_, ?_⟩
  · rw [UInt16.toNat_toUInt32, harrives.payloadSize hfin, Buffer.toNat_lengthOf hs.short]
  · -- both `front` and what has been accepted are the beginning of that length
    rw [← harrives.seq, hseq, hremote] at hfront
    have hlength : l.accepted.length = front.length := Nat.add_left_cancel hfront
    have hfront : front <+: l.sent := ⟨o.payload ++ rest, by rw [hsent, List.append_assoc]⟩
    have heq : l.accepted = front :=
      (List.prefix_of_prefix_length_le h.accepted hfront (Nat.le_of_eq hlength)).eq_of_length
        hlength
    rw [heq, hsent]
    exact List.prefix_append _ _

/-- What the server accepts of a segment in order is part of the stream, and it acknowledges what
it has accepted, unless the client has closed. -/
theorem server_acknowledges {s : Segment} (ho : o ∈ l.fromClient) (harrives : o.Arrives s)
    (hrst : ¬ has o.control RST) (hopen : l.server.Open) (hseq : s.seq = l.server.remoteSeq) :
    let accepted := l.accepted ++ takenFrom (l.server.inOrderEffect s)
    accepted <+: l.sent ∧
      (¬ has s.control FIN ∧ (l.server.acknowledges s).toNat = base + accepted.length ∨
        has s.control FIN ∧ ¬ held opened l.client) := by
  obtain ⟨-, hremote⟩ := h.serverOpen hopen
  have hlt := l.client.localSeq.toNat_lt
  have hnext := h.next
  intro accepted
  by_cases htakes : Conn.takes s
  · have hparts := htakes
    simp only [Conn.takes, Bool.and_eq_true, decide_eq_true_eq] at hparts
    obtain ⟨⟨hsize, hpos⟩, htrue⟩ := hparts
    have htaken : accepted = l.accepted ++ s.payload := by
      show l.accepted ++ takenFrom (l.server.inOrderEffect s) = _
      rw [takenFrom, Conn.inOrderEffect]
      dsimp only
      rw [if_pos ⟨hsize, hpos⟩, htrue]
    obtain ⟨hfin, hlength, hfront⟩ := h.accepted_append ho harrives hrst hopen hseq
      (List.ne_nil_of_length_pos hpos)
    rw [htaken]
    refine ⟨hfront, .inl ⟨hfin, ?_⟩⟩
    have hle := hfront.length_le
    rw [List.length_append] at hle
    rw [Conn.acknowledges, if_pos htakes, hseq,
      toNat_add_of_lt (by rw [hremote, hlength]; omega), hremote, hlength, List.length_append,
      Nat.add_assoc]
  · have htaken : accepted = l.accepted := by
      show l.accepted ++ takenFrom (l.server.inOrderEffect s) = _
      have hnone : takenFrom (l.server.inOrderEffect s) = [] := by
        rw [takenFrom, Conn.inOrderEffect]
        dsimp only
        split
        · rename_i hdelivers
          split at hdelivers
          · rename_i hparts
            obtain ⟨-, htrue⟩ := Prod.mk.inj (Option.some.inj hdelivers)
            exact absurd (by simp [Conn.takes, hparts.1, hparts.2, htrue]) htakes
          · exact absurd hdelivers (by simp)
        · rfl
      rw [hnone, List.append_nil]
    rw [htaken]
    refine ⟨h.accepted, ?_⟩
    by_cases hfin : has s.control FIN
    · refine .inr ⟨hfin, fun hh => ?_⟩
      have hbelow := (h.fromClient o ho hrst).fin hh (harrives.control ▸ hfin)
      rw [← harrives.seq, hseq, hremote] at hbelow
      omega
    · refine .inl ⟨hfin, ?_⟩
      rw [Conn.acknowledges, if_neg htakes, if_neg hfin]
      exact hremote

/-- The server receives the next segment. -/
theorem serverReceives {s : Segment} (ho : o ∈ l.fromClient) (harrives : o.Arrives s)
    (hrst : ¬ has o.control RST) (hopen : l.server.Open) (hseq : s.seq = l.server.remoteSeq)
    (hwithin : (l.server.inOrder s).Within ks) :
    Streams kc ks base opened
      { serverSteps (l.server.inOrderEffect s) (l.server.inOrder s) l with
        accepted := l.accepted ++ takenFrom (l.server.inOrderEffect s) } := by
  obtain ⟨hopened, -⟩ := h.serverOpen hopen
  obtain ⟨hfront, hacked⟩ := h.server_acknowledges ho harrives hrst hopen hseq
  generalize haccepted : l.accepted ++ takenFrom (l.server.inOrderEffect s) = accepted
    at hfront hacked
  have hle : l.accepted.length ≤ accepted.length := by
    rw [← haccepted, List.length_append]
    exact Nat.le_add_right _ _
  have hstate := hopen.state_inOrder s
  have hreceived : (l.server.inOrder s).state ≠ SYN_RECEIVED := by
    rcases hstate with ⟨-, hs⟩ | ⟨-, hs | ⟨hs, -⟩⟩
    · rw [hs]; decide
    · rw [hs]; exact hopen.ne (by decide)
    · rw [hs]; decide
  have hlimit : held opened l.client →
      (l.server.acknowledges s).toNat ≤ base + accepted.length := by
    intro hh
    rcases hacked with ⟨-, heq⟩ | ⟨-, hno⟩
    · exact Nat.le_of_eq heq
    · exact absurd hh hno
  refine { h with
    before := fun ho' => absurd hopened (by simp [ho'])
    ready := fun hs => ?_
    accepted := hfront
    serverStates := ?_
    serverWithin := hwithin
    serverPositive := fun _ => h.serverPositive (hopen.ne (by decide))
    serverData := fun hs => ?_
    serverOpen := fun hopen' => ⟨hopened, ?_⟩
    handshake := fun hs => absurd hs hreceived
    limit := hlimit
    fromServer := h.fromServer_append (c := l.server.inOrder s) (Nat.le_refl _)
      (fun hs => absurd hs hreceived) (Nat.add_le_add_left hle _) fun o' ho' _ => ?_ }
  · refine hfront.eq_of_length_le ?_
    rw [← h.ready hs]
    exact hle
  · dsimp only [serverSteps]
    rcases hstate with ⟨-, hs⟩ | ⟨-, hs | ⟨hs, -⟩⟩
    · rw [hs]; decide
    · rw [hs]; exact h.serverStates
    · rw [hs]; decide
  · rcases hstate with ⟨-, hs'⟩ | ⟨-, hs' | ⟨hs', -⟩⟩
    · exact absurd (hs'.symm.trans hs) (by decide)
    · exact h.serverData (hs'.symm.trans hs)
    · exact absurd (hs'.symm.trans hs) (by decide)
  · rcases hacked with ⟨-, heq⟩ | ⟨hfin, -⟩
    · exact heq
    · -- a FIN leads to CLOSE_WAIT
      rcases hstate with ⟨-, hs⟩ | ⟨hno, -⟩
      · have hopen' : (l.server.inOrder s).state &&& 0x0F = ESTABLISHED := hopen'
        rw [hs] at hopen'
        exact absurd hopen' (by decide)
      · exact absurd hfin hno
  · dsimp only [Conn.inOrderEffect] at ho'
    split at ho'
    · obtain rfl := Option.some.inj ho'
      exact serverSent_ack hreceived _ _ _ hlimit
    · exact absurd ho' (by simp)

end Streams

/-! ### Every step -/

/-- What a forced close sends is a reset. -/
theorem abortion_rst {c : Conn} (ho : c.abortion = some o) : has o.control RST := by
  unfold Conn.abortion at ho
  split at ho
  · exact absurd ho (by simp)
  · obtain rfl := Option.some.inj ho
    exact (by decide : has (RST ||| ACK) RST)

/-- Both refusals are resets. -/
theorem refusal_rst {control : UInt8} (hcontrol : control = RST ∨ control = RST ||| ACK) :
    has control RST := by
  rcases hcontrol with rfl | rfl
  · decide
  · decide

/-- The states in which the client has been established, and is no more. -/
theorem opened_of_state (h : Streams kc ks base opened l) {state : UInt8}
    (hstate : l.client.state = state) (hne : state ≠ CLOSED ∧ state ≠ SYN_SENT) :
    opened = true := by
  by_contra ho
  rw [Bool.not_eq_true] at ho
  rcases (h.before ho).2.1 with hs | hs
  · exact hne.1 (hstate.symm.trans hs)
  · exact hne.2 (hstate.symm.trans hs)

/-- The payload of the client that is outstanding is the last piece of the stream. -/
theorem clientSent_again (h : Streams kc ks base opened l) (hbound : kc.room < 65536)
    (hstate : l.client.state = ESTABLISHED ||| AWAITING_ACK) :
    ClientSent base opened (held opened l.client) l.sent l.client.remoteSeq.toNat
      ⟨ACK, l.client.localSeq - UInt32.ofNat l.client.data.length, l.client.remoteSeq,
        l.client.data⟩ := by
  have hopened := opened_of_state h hstate (by decide)
  have hopen : l.client.Open := by
    rw [Conn.Open, hstate]
    decide
  obtain ⟨-, -, hroom⟩ := h.within.data hstate
  obtain ⟨front, hfront⟩ := h.outstanding hstate
  have hcurrent := h.current hopened hopen
  have hlength : l.sent.length = front.length + l.client.data.length := by
    rw [hfront, List.length_append]
  have hdata : (UInt32.ofNat l.client.data.length).toNat = l.client.data.length :=
    UInt32.toNat_ofNat_of_lt' (Nat.lt_trans (by omega : _ < 65536) (by decide))
  refine ⟨by dsimp only; omega, fun _ => ⟨hopened, (by decide : ¬ has ACK FIN), front, [], ?_, ?_⟩,
    fun hs => absurd hs (by decide : ¬ has ACK SYN),
    fun _ hf => absurd hf (by decide : ¬ has ACK FIN), fun _ => Nat.le_refl _⟩
  · rw [List.append_nil]
    exact hfront
  · dsimp only
    rw [toNat_sub_of_le (by rw [hdata]; omega), hdata]
    omega

/-- The SYN or the FIN of the client again. -/
theorem clientSent_flag (h : Streams kc ks base opened l) {control : UInt8}
    (hresends : l.client.resends = some control) :
    ClientSent base opened (held opened l.client) l.sent l.client.remoteSeq.toNat
      ⟨control, l.client.localSeq - 1, l.client.remoteSeq, []⟩ := by
  have hone : ∀ {state : UInt8}, l.client.state = state → state ≠ CLOSED →
      (l.client.localSeq - 1).toNat = l.client.localSeq.toNat - 1 := fun hs hne =>
    toNat_sub_of_le (h.positive (hs ▸ hne))
  unfold Conn.resends at hresends
  split_ifs at hresends with h1 h2 h3
  · obtain rfl := Option.some.inj hresends
    have hopened : opened = false := by
      by_contra ho
      rw [Bool.not_eq_false] at ho
      exact (h.after ho).1 h1
    have hpositive := h.positive (by rw [h1]; decide)
    refine ⟨(by decide : 0 < 65536), fun hne => absurd rfl hne, fun _ => ?_,
      fun _ hf => absurd hf (by decide : ¬ has SYN FIN),
      fun ha => absurd ha (by decide : ¬ has SYN ACK)⟩
    dsimp only
    rw [hone h1 (by decide), ← (h.before hopened).1]
    omega
  · have hmem := h.states
    rw [h2] at hmem
    exact absurd hmem (by decide)
  · obtain rfl := Option.some.inj hresends
    refine ⟨(by decide : 0 < 65536), fun hne => absurd rfl hne,
      fun hs => absurd hs (by decide : ¬ has (FIN ||| ACK) SYN), fun hh => ?_,
      fun _ => Nat.le_refl _⟩
    -- the connection is closed
    obtain ⟨state, hstate, hmem⟩ : ∃ state, l.client.state = state ∧
        state ∈ [FIN_WAIT_1, CLOSING] := by
      rcases h3 with hs | hs
      · exact ⟨_, hs, by decide⟩
      · exact ⟨_, hs, by decide⟩
    obtain ⟨hne, hnot⟩ := (by decide : ∀ state ∈ [FIN_WAIT_1, CLOSING],
      (state ≠ CLOSED ∧ state ≠ SYN_SENT) ∧ state &&& 0x0F ≠ ESTABLISHED) state hmem
    have hopen := hh (opened_of_state h hstate hne)
    rw [Conn.Open, hstate] at hopen
    exact absurd hopen hnot

/-- The flag of a call that is not the one for `connect`. -/
theorem Streams.called (h : Streams kc ks base opened l) (b : Bool) :
    Streams kc ks base opened { l with connected := l.connected || b } :=
  { h with
    after := fun ho => ⟨(h.after ho).1, by rw [(h.after ho).2]; rfl⟩
    connected := fun hs => by
      show (l.connected || b) = true
      rw [h.connected hs]
      rfl }

/-- A call that sends no payload. -/
theorem run_clientCall {call : AtmegaNet.Call} {c : Conn} (hpayload : payloadOf call e = []) :
    run (.clientCall call e c) l =
      { clientSteps e c l with
        connected := (clientSteps e c l).connected || decide (call = .connect) } := by
  rw [run, hpayload, List.append_nil]
  rfl

/-- A call of the client that accepts no payload. -/
theorem Streams.clientRuns {call : AtmegaNet.Call} {c : Conn} (hpayload : payloadOf call e = [])
    (h : Streams kc ks base opened (clientSteps e c l)) :
    Streams kc ks base opened (run (.clientCall call e c) l) := by
  rw [run_clientCall hpayload]
  exact h.called (decide (call = .connect))

/-- Only `send` accepts a payload. -/
theorem payloadOf_of_ne {call : AtmegaNet.Call} (hne : ∀ data, call ≠ .send data) (e : Effect) :
    payloadOf call e = [] := by
  cases call with
  | send data => exact absurd rfl (hne data)
  | connect => rfl
  | close => rfl
  | abort => rfl
  | check => rfl

section Calls

variable (h : Streams kc ks base opened l)

include h

/-- The client's address is known, so that a look-up leaves it closed. -/
theorem Streams.closed_of_resolve {state : UInt8}
    (hstate : state ∈ [CLOSED, RESOLVING, UNKNOWN_HOST])
    (haddress : state ∈ [RESOLVING, UNKNOWN_HOST] → state = l.client.state) : state = CLOSED := by
  rcases List.mem_cons.mp hstate with hclosed | hmem
  · exact hclosed
  · have hknown := (by decide : ∀ state ∈ clientStates,
      state ∉ [RESOLVING, UNKNOWN_HOST]) _ h.states
    rw [← haddress hmem] at hknown
    exact absurd hmem hknown

/-- The client sends its FIN: it gives up its SYN, or closes its connection. -/
theorem Streams.clientFinishes (hlocal : ¬ l.client.LocalClosed)
    (hnext : l.client.localSeq ≤ l.client.localSeq + 1)
    (hwithin : ({ l.client with
      state := (stateAfterClose l.client.state).getD l.client.state
      localSeq := l.client.localSeq + 1 } : Conn).Within kc) :
    ∃ base', (opened = true → base' = base) ∧ Streams kc ks base' opened
      (clientSteps { sends := some ⟨FIN ||| ACK, l.client.localSeq, l.client.remoteSeq, []⟩ }
        { l.client with
          state := (stateAfterClose l.client.state).getD l.client.state
          localSeq := l.client.localSeq + 1 } l) := by
  by_cases hsyn : l.client.state = SYN_SENT
  · refine ⟨base + 1, fun ho => absurd hsyn (h.after ho).1, ?_⟩
    have hsame : (stateAfterClose l.client.state).getD l.client.state = l.client.state := by
      rw [hsyn]
      decide
    rw [hsame]
    exact h.clientQuits hnext hsyn
  · refine ⟨base, fun _ => rfl, ?_⟩
    have hmem : ∀ state ∈ clientStates, state ≠ SYN_SENT →
        state ∉ [FIN_WAIT_1, FIN_WAIT_2, CLOSING, LAST_ACK, TIME_WAIT, LISTEN, CLOSED] →
          state ≠ CLOSED ∧ (stateAfterClose state).getD state ∈
            [FIN_WAIT_1, LAST_ACK, CLOSE_WAIT] := by decide
    obtain ⟨hclosed, hafter⟩ := hmem _ h.states hsyn hlocal
    exact h.clientCloses _ (opened_of_state h rfl ⟨hclosed, hsyn⟩) hnext hafter hwithin
      fun o ho => (Option.some.inj ho).symm

/-- Only in CLOSE_WAIT there may be no room for the client's FIN. -/
theorem Streams.clientFinishesShort (hlocal : ¬ l.client.LocalClosed)
    (hnext : l.client.localSeq ≤ l.client.localSeq + 1) (hroom : kc.room < 20)
    (hwithin : ({ l.client with localSeq := l.client.localSeq + 1 } : Conn).Within kc) :
    Streams kc ks base opened
      (clientSteps {} { l.client with localSeq := l.client.localSeq + 1 } l) := by
  have hmem : ∀ state ∈ clientStates, state ∈ CLOSE_WAIT :: unopened →
      state ∉ [FIN_WAIT_1, FIN_WAIT_2, CLOSING, LAST_ACK, TIME_WAIT, LISTEN, CLOSED] →
        state = CLOSE_WAIT := by decide
  have hwait := hmem _ h.states (h.within.header hroom) hlocal
  exact h.clientCloses _ (opened_of_state h hwait (by decide)) hnext (by rw [hwait]; decide)
    hwithin fun o ho => absurd ho (by simp)

end Calls

section Steps

/-- A call at the client. The stream begins elsewhere only if it has not begun. -/
theorem clientCall (h : Streams kc ks base opened l) (hdown : kc.down = CLOSED)
    (hbound : kc.room < 65536) {call : AtmegaNet.Call} {c : Conn}
    (hacts : Acts kc l.client call e c) (hfresh : call = .connect → l.connected = false)
    (hproceeds : Proceeds l.client c) :
    ∃ base', (opened = true → base' = base) ∧
      Streams kc ks base' opened (run (.clientCall call e c) l) := by
  have hwithin := hacts.within h.within
  have hnext := hproceeds.next
  cases hacts with
  | idle _ =>
      exact ⟨base, fun _ => rfl, Streams.clientRuns (by cases call <;> rfl)
        (h.clientSends fun o ho => absurd ho (by simp))⟩
  | resolve hcall hunopened hstate =>
      rw [hdown] at hstate
      obtain rfl := h.closed_of_resolve hstate hproceeds.address
      exact ⟨base, fun _ => rfl, Streams.clientRuns (by cases call <;> rfl)
        (h.clientLeaves (by decide) (fun hne => absurd rfl hne) hwithin
          fun o ho => absurd ho (by simp))⟩
  | connect hcall hunopened hroom =>
      have hclosed : l.client.state = CLOSED := (by decide : ∀ state ∈ clientStates,
        state ∈ unopened → state = CLOSED) _ h.states hunopened
      rcases hcall with rfl | ⟨-, hstate⟩
      · refine ⟨base + 1, fun ho => ?_, ?_⟩
        · have hcalled := (h.after ho).2.symm.trans (hfresh rfl)
          exact absurd hcalled (by decide)
        have hconnects := h.clientConnects (hfresh rfl) hnext hroom
        rw [run_clientCall rfl]
        simpa only [decide_true, Bool.or_true] using hconnects
      · exact absurd (hclosed.symm.trans hstate) (by decide)
  | send hopen _ hne hstash hroom =>
      refine ⟨base, fun _ => rfl, ?_⟩
      exact (h.clientTransmits hopen hnext hne (by omega) hwithin).called false
  | close hcall hlocal hroom =>
      obtain ⟨base', hbase, hstreams⟩ := h.clientFinishes hlocal hnext hwithin
      exact ⟨base', hbase, Streams.clientRuns
        (payloadOf_of_ne (by rcases hcall with rfl | rfl <;> simp) _) hstreams⟩
  | closeShort hcall hlocal hroom =>
      exact ⟨base, fun _ => rfl, Streams.clientRuns
        (payloadOf_of_ne (by rcases hcall with rfl | rfl <;> simp) _)
        (h.clientFinishesShort hlocal hnext hroom hwithin)⟩
  | abort hcall =>
      rw [hdown] at hwithin ⊢
      exact ⟨base, fun _ => rfl, Streams.clientRuns
        (payloadOf_of_ne (by rcases hcall with rfl | rfl <;> simp) _)
        (h.clientLeaves (by decide) (fun hne => absurd rfl hne) hwithin
          fun o ho => abortion_rst ho)⟩
  | resendData hstate =>
      refine ⟨base, fun _ => rfl, Streams.clientRuns rfl (h.clientSends fun o ho _ => ?_)⟩
      obtain rfl := Option.some.inj ho
      exact clientSent_again h hbound hstate
  | resend hresends =>
      refine ⟨base, fun _ => rfl, Streams.clientRuns rfl (h.clientSends fun o ho _ => ?_)⟩
      obtain rfl := Option.some.inj ho
      exact clientSent_flag h hresends
  | expire hstate =>
      rw [hdown] at hwithin ⊢
      exact ⟨base, fun _ => rfl, Streams.clientRuns rfl
        (h.clientLeaves (by decide) (fun hne => absurd rfl hne) hwithin
          fun o ho => absurd ho (by simp))⟩

/-- A segment at the client, which has been established for good once it is. -/
theorem toClient (h : Streams kc ks base opened l) (hdown : kc.down = CLOSED) {s : Segment}
    {c : Conn} (ho : o ∈ l.fromServer) (harrives : o.Arrives s)
    (hreceives : Receives kc s l.client e c) :
    ∃ opened', (opened = true → opened' = true) ∧
      Streams kc ks base opened' (clientSteps e c l) := by
  have hwithin := hreceives.within h.within
  have hstates := h.states
  have hrst : ∀ {P : Prop}, l.client.Admits s → (¬ has o.control RST → P) → P :=
    fun hadmits hP => hP (harrives.control ▸ hadmits.2.2)
  cases hreceives with
  | refuse seq ack _ hcontrol =>
      refine ⟨opened, id, h.clientRefuses fun o ho => ?_⟩
      obtain rfl := Option.some.inj ho
      exact refusal_rst hcontrol
  | challenge _ _ => exact ⟨opened, id, h.clientAcks⟩
  | reset _ _ _ _ =>
      rw [hdown] at hwithin ⊢
      exact ⟨opened, id, h.clientLeaves (by decide) (fun hne => absurd rfl hne) hwithin
        fun o ho => absurd ho (by simp)⟩
  | resetIgnored _ _ _ _ => exact ⟨opened, id, h.clientRefuses fun o ho => absurd ho (by simp)⟩
  | passiveOpen _ hstate _ _ =>
      rw [hstate] at hstates
      exact absurd hstates (by decide)
  | passiveOpenShort _ hstate _ _ =>
      rw [hstate] at hstates
      exact absurd hstates (by decide)
  | simultaneousOpen hadmits hstate hcontrol =>
      -- the server acknowledges with every segment
      have hacks := hrst hadmits fun hrst => (h.fromServer o ho hrst).acks
      rw [← harrives.control, hcontrol] at hacks
      exact absurd hacks (by decide)
  | activeOpen hadmits hstate hcontrol hack =>
      exact ⟨true, fun _ => rfl, hrst hadmits fun hrst => h.clientOpens ho harrives hrst hstate hcontrol hack
        (h.within.room_of_syn (.inl hstate))⟩
  | noAck _ _ _ => exact ⟨opened, id, h.clientRefuses fun o ho => absurd ho (by simp)⟩
  | outOfOrder _ _ _ _ => exact ⟨opened, id, h.clientAcks⟩
  | inOrder hadmits hopen _ hseq =>
      exact ⟨opened, id, hrst hadmits fun hrst =>
        h.clientReceives ho harrives hrst hopen hseq hwithin⟩
  | acked hadmits hopens hopen hack =>
      refine ⟨opened, id, ?_⟩
      rcases l.client.afterAck_cases kc.down with ⟨hs, -⟩ | ⟨hs, h'⟩ | ⟨hs, h'⟩ | ⟨hs, h'⟩ | h'
      · rw [hs] at hstates
        exact absurd hstates (by decide)
      · rw [h'] at hwithin ⊢
        exact h.clientLeaves (by decide) (fun _ => by rw [hs]; decide) hwithin
          fun o ho => absurd ho (by simp)
      · rw [h'] at hwithin ⊢
        exact h.clientLeaves (by decide) (fun _ => by rw [hs]; decide) hwithin
          fun o ho => absurd ho (by simp)
      · rw [h', hdown] at hwithin ⊢
        exact h.clientLeaves (by decide) (fun hne => absurd rfl hne) hwithin
          fun o ho => absurd ho (by simp)
      · rw [h']
        exact h.clientRefuses fun o ho => absurd ho (by simp)
  | abort _ _ _ _ =>
      rw [hdown] at hwithin ⊢
      exact ⟨opened, id, h.clientLeaves (by decide) (fun hne => absurd rfl hne) hwithin
        fun o ho => abortion_rst ho⟩

/-- The payload of the server that is outstanding, and its SYN+ACK or FIN, again. -/
theorem serverSent_again (h : Streams kc ks base opened l) (hbound : ks.room < 65536)
    (hstate : l.server.state = ESTABLISHED ||| AWAITING_ACK) :
    ServerSent l.server.localSeq.toNat (l.server.state = SYN_RECEIVED) l.server.remoteSeq
      (held opened l.client) (base + l.accepted.length)
      ⟨ACK, l.server.localSeq - UInt32.ofNat l.server.data.length, l.server.remoteSeq,
        l.server.data⟩ := by
  obtain ⟨-, -, hroom⟩ := h.serverWithin.data hstate
  have hle := h.serverData hstate
  have hdata : (UInt32.ofNat l.server.data.length).toNat = l.server.data.length :=
    UInt32.toNat_ofNat_of_lt' (Nat.lt_trans (by omega : _ < 65536) (by decide))
  have hreceived : l.server.state ≠ SYN_RECEIVED := by
    rw [hstate]
    decide
  refine ⟨by dsimp only; omega, fun _ => ⟨(by decide : ¬ has ACK SYN), (by decide : ¬ has ACK FIN)⟩,
    (by decide : has ACK ACK), ?_, fun hs => absurd hs hreceived, fun hs => absurd hs hreceived,
    h.limit⟩
  rw [numbers_of_no_flag (by decide : ¬ has ACK SYN) (by decide : ¬ has ACK FIN)]
  dsimp only
  rw [toNat_sub_of_le (by rw [hdata]; exact hle), hdata]
  omega

/-- What the server re-sends without payload is what it has sent before. -/
theorem serverSent_flag (h : Streams kc ks base opened l) {control : UInt8}
    (hresends : l.server.resends = some control) :
    ServerSent l.server.localSeq.toNat (l.server.state = SYN_RECEIVED) l.server.remoteSeq
      (held opened l.client) (base + l.accepted.length)
      ⟨control, l.server.localSeq - 1, l.server.remoteSeq, []⟩ := by
  have hone : ∀ {state : UInt8}, l.server.state = state → state ≠ LISTEN →
      (l.server.localSeq - 1).toNat + 1 = l.server.localSeq.toNat := fun hs hne => by
    have hpositive := h.serverPositive (hs ▸ hne)
    have hback := toNat_sub_of_le (b := 1) hpositive
    have h1 : (1 : UInt32).toNat = 1 := rfl
    omega
  unfold Conn.resends at hresends
  split_ifs at hresends with h1 h2 h3
  · have hmem := h.serverStates
    rw [h1] at hmem
    exact absurd hmem (by decide)
  · obtain rfl := Option.some.inj hresends
    have hlast := hone h2 (by decide)
    refine ⟨(by decide : 0 < 65536), fun hne => absurd rfl hne,
      (by decide : has (SYN ||| ACK) ACK), Nat.le_of_eq ?_,
      fun _ hs => absurd (by decide : has (SYN ||| ACK) SYN) hs, fun _ _ => .inr ⟨hlast, rfl⟩,
      h.limit⟩
    rw [Sending.numbers, if_pos (by decide : has (SYN ||| ACK) SYN),
      if_neg (by decide : ¬ has (SYN ||| ACK) FIN)]
    exact hlast
  · obtain rfl := Option.some.inj hresends
    obtain ⟨hlisten, hreceived⟩ : l.server.state ≠ LISTEN ∧ l.server.state ≠ SYN_RECEIVED := by
      rcases h3 with hs | hs <;> rw [hs] <;> decide
    have hlast := hone rfl hlisten
    refine ⟨(by decide : 0 < 65536), fun hne => absurd rfl hne,
      (by decide : has (FIN ||| ACK) ACK), Nat.le_of_eq ?_, fun hs => absurd hs hreceived,
      fun hs => absurd hs hreceived, h.limit⟩
    rw [Sending.numbers, if_neg (by decide : ¬ has (FIN ||| ACK) SYN),
      if_pos (by decide : has (FIN ||| ACK) FIN)]
    exact hlast

/-- A call at the server. -/
theorem serverCall (h : Streams kc ks base opened l) (hdown : ks.down = LISTEN)
    (hbound : ks.room < 65536) {call : AtmegaNet.Call} {c : Conn}
    (hacts : Acts ks l.server call e c) (hcall : call ≠ .connect)
    (hproceeds : Proceeds l.server c) : Streams kc ks base opened (serverSteps e c l) := by
  have hwithin := hacts.within h.serverWithin
  have hnext := hproceeds.next
  have hstates := h.serverStates
  cases hacts with
  | idle _ => exact h.serverSends fun o ho => absurd ho (by simp)
  | resolve _ _ hstate =>
      rw [List.mem_cons, hdown] at hstate
      have hlisten : ∀ state, state = LISTEN ∨ state ∈ [RESOLVING, UNKNOWN_HOST] →
          (state ∈ [RESOLVING, UNKNOWN_HOST] → state = l.server.state) → state = LISTEN := by
        rintro state (hs | hs) haddress
        · exact hs
        · rw [← haddress hs] at hstates
          exact absurd hs ((by decide : ∀ state ∈ Link.serverStates,
            state ∉ [RESOLVING, UNKNOWN_HOST]) state hstates)
      obtain rfl := hlisten _ hstate hproceeds.address
      exact h.serverLeaves (by decide) (fun hne => absurd rfl hne) hwithin
        fun o ho => absurd ho (by simp)
  | connect hconnect _ _ =>
      rcases hconnect with hc | ⟨-, hs⟩
      · exact absurd hc hcall
      · rw [hs] at hstates
        exact absurd hstates (by decide)
  | send hopen _ _ _ hroom => exact h.serverTransmits hopen hnext (by omega) hwithin
  | close _ hlocal _ =>
      have hmem : ∀ state ∈ Link.serverStates,
          state ∉ [FIN_WAIT_1, FIN_WAIT_2, CLOSING, LAST_ACK, TIME_WAIT, LISTEN, CLOSED] →
            (stateAfterClose state).getD state ∈ [FIN_WAIT_1, LAST_ACK, CLOSE_WAIT] := by decide
      exact h.serverCloses _ hnext (hmem _ hstates hlocal) hwithin
        fun o ho => (Option.some.inj ho).symm
  | closeShort _ hlocal hroom =>
      have hmem : ∀ state ∈ Link.serverStates, state ∈ CLOSE_WAIT :: unopened →
          state ∉ [FIN_WAIT_1, FIN_WAIT_2, CLOSING, LAST_ACK, TIME_WAIT, LISTEN, CLOSED] →
            state = CLOSE_WAIT := by decide
      have hwait := hmem _ hstates (h.serverWithin.header hroom) hlocal
      exact h.serverCloses _ hnext (by rw [hwait]; decide) hwithin
        fun o ho => absurd ho (by simp)
  | abort _ =>
      rw [hdown] at hwithin ⊢
      exact h.serverLeaves (by decide) (fun hne => absurd rfl hne) hwithin
        fun o ho => abortion_rst ho
  | resendData hstate =>
      refine h.serverSends fun o ho _ => ?_
      obtain rfl := Option.some.inj ho
      exact serverSent_again h hbound hstate
  | resend hresends =>
      refine h.serverSends fun o ho _ => ?_
      obtain rfl := Option.some.inj ho
      exact serverSent_flag h hresends
  | expire _ =>
      rw [hdown] at hwithin ⊢
      exact h.serverLeaves (by decide) (fun hne => absurd rfl hne) hwithin
        fun o ho => absurd ho (by simp)

/-- A segment at the server. -/
theorem toServer (h : Streams kc ks base opened l) (hdown : ks.down = LISTEN) {s : Segment}
    {c : Conn} (ho : o ∈ l.fromClient) (harrives : o.Arrives s)
    (hreceives : Receives ks s l.server e c) (hproceeds : Proceeds l.server c) :
    Streams kc ks base opened
      { serverSteps e c l with accepted := l.accepted ++ takenFrom e } := by
  have hwithin := hreceives.within h.serverWithin
  have hnext := hproceeds.next
  have hstates := h.serverStates
  have hrst : ∀ {P : Prop}, l.server.Admits s → (¬ has o.control RST → P) → P :=
    fun hadmits hP => hP (harrives.control ▸ hadmits.2.2)
  -- only the next segment brings a payload
  have hquiet : ∀ {sends : Option Sending} {c : Conn},
      Streams kc ks base opened (serverSteps { sends := sends } c l) →
        Streams kc ks base opened { serverSteps { sends := sends } c l with
          accepted := l.accepted ++ takenFrom { sends := sends } } := by
    intro sends c hs
    have hnone : takenFrom { sends := sends } = [] := rfl
    rw [hnone, List.append_nil]
    exact hs
  cases hreceives with
  | refuse seq ack _ hcontrol =>
      refine hquiet (h.serverRefuses fun o ho => ?_)
      obtain rfl := Option.some.inj ho
      exact refusal_rst hcontrol
  | challenge _ hchallenges =>
      refine hquiet (h.serverAcks ?_)
      rintro hs
      have hsync := hchallenges.1
      rw [hs] at hsync
      exact absurd hsync (by decide)
  | reset _ _ _ _ =>
      rw [hdown] at hwithin ⊢
      exact hquiet (h.serverLeaves (by decide) (fun hne => absurd rfl hne) hwithin
        fun o ho => absurd ho (by simp))
  | resetIgnored _ _ _ _ => exact hquiet (h.serverRefuses fun o ho => absurd ho (by simp))
  | passiveOpen _ _ hcontrol hroom =>
      exact hquiet (h.serverAccepts ho harrives hcontrol hnext hroom)
  | passiveOpenShort _ hstate hcontrol _ =>
      exact hquiet (h.serverNotes ho harrives hcontrol hstate)
  | simultaneousOpen _ hstate _ =>
      rw [hstate] at hstates
      exact absurd hstates (by decide)
  | activeOpen _ hstate _ _ =>
      rw [hstate] at hstates
      exact absurd hstates (by decide)
  | noAck _ _ _ => exact hquiet (h.serverRefuses fun o ho => absurd ho (by simp))
  | outOfOrder _ hopen _ _ => exact hquiet (h.serverAcks (hopen.ne (by decide)))
  | inOrder hadmits hopen _ hseq =>
      exact hrst hadmits fun hrst => h.serverReceives ho harrives hrst hopen hseq hwithin
  | acked hadmits hopens hopen hack =>
      rcases l.server.afterAck_cases ks.down with ⟨hs, h'⟩ | ⟨hs, h'⟩ | ⟨hs, h'⟩ | ⟨hs, h'⟩ | h'
      · rw [h']
        exact hrst hadmits fun hrst => hquiet (h.serverEstablishes ho harrives hrst hs hack)
      · rw [h'] at hwithin ⊢
        exact hquiet (h.serverLeaves (by decide) (fun _ => by rw [hs]; decide) hwithin
          fun o ho => absurd ho (by simp))
      · rw [h'] at hwithin ⊢
        exact hquiet (h.serverLeaves (by decide) (fun _ => by rw [hs]; decide) hwithin
          fun o ho => absurd ho (by simp))
      · rw [h', hdown] at hwithin ⊢
        exact hquiet (h.serverLeaves (by decide) (fun hne => absurd rfl hne) hwithin
          fun o ho => absurd ho (by simp))
      · rw [h']
        exact hquiet (h.serverRefuses fun o ho => absurd ho (by simp))
  | abort _ _ _ _ =>
      rw [hdown] at hwithin ⊢
      exact hquiet (h.serverLeaves (by decide) (fun hne => absurd rfl hne) hwithin
        fun o ho => abortion_rst ho)

/-! ### Runs -/

/-- The invariant holds before anything is sent. -/
theorem Starts.streams (h : Starts l) (kc ks : Limits) :
    Streams kc ks l.client.localSeq.toNat false l := by
  have hnever : ∀ {flight : List Sending}, flight = [] → ∀ o, o ∉ flight := by
    rintro _ rfl o ho
    exact absurd ho List.not_mem_nil
  have hwithin : ∀ (k : Limits) (c : Conn), c.state = CLOSED ∨ c.state = LISTEN → c.Within k := by
    intro k c hs
    rcases hs with hs | hs
    · exact ⟨fun _ => by rw [hs]; decide, fun _ => by rw [hs]; decide,
        fun hd => absurd (hs.symm.trans hd) (by decide)⟩
    · exact ⟨fun _ => by rw [hs]; decide, fun _ => by rw [hs]; decide,
        fun hd => absurd (hs.symm.trans hd) (by decide)⟩
  exact {
    states := by rw [h.client]; decide
    within := hwithin kc _ (.inl h.client)
    positive := fun hne => absurd h.client hne
    before := fun _ => ⟨rfl, .inl h.client, h.sent, h.accepted, h.clientRemote⟩
    after := fun ho => absurd ho (by decide)
    connected := fun hs => absurd (h.client.symm.trans hs) (by decide)
    next := by rw [h.sent]; exact Nat.le_refl _
    current := fun ho => absurd ho (by decide)
    ready := fun hs => absurd (h.client.symm.trans hs) (by decide)
    outstanding := fun hs => absurd (h.client.symm.trans hs) (by decide)
    accepted := by rw [h.accepted]; exact List.nil_prefix
    fromClient := fun o ho => absurd ho (hnever h.fromClient o)
    serverStates := by rw [h.server]; decide
    serverWithin := hwithin ks _ (.inr h.server)
    serverPositive := fun hne => absurd h.server hne
    serverData := fun hs => absurd (h.server.symm.trans hs) (by decide)
    serverOpen := fun hopen => by
      rw [Conn.Open, h.server] at hopen
      exact absurd hopen (by decide)
    handshake := fun hs => absurd (h.server.symm.trans hs) (by decide)
    limit := fun _ => by rw [h.serverRemote]; exact Nat.zero_le _
    acked := by rw [h.clientRemote]; exact Nat.zero_le _
    fromServer := fun o ho => absurd ho (hnever h.fromServer o) }

/-- One step. -/
theorem Streams.run (h : Streams kc ks base opened l) (hc : kc.down = CLOSED ∧ kc.room < 65536)
    (hs : ks.down = LISTEN ∧ ks.room < 65536) {event : Event} (hok : Ok kc ks l event) :
    ∃ base' opened', Streams kc ks base' opened' (Link.run event l) := by
  cases event with
  | clientCall call e c =>
      obtain ⟨hacts, hfresh, hproceeds⟩ := hok
      obtain ⟨base', -, h'⟩ := clientCall h hc.1 hc.2 hacts hfresh hproceeds
      exact ⟨base', opened, h'⟩
  | serverCall call e c =>
      obtain ⟨hacts, hcall, hproceeds⟩ := hok
      exact ⟨base, opened, serverCall h hs.1 hs.2 hacts hcall hproceeds⟩
  | toClient o s e c =>
      obtain ⟨ho, harrives, hreceives, -⟩ := hok
      obtain ⟨opened', -, h'⟩ := toClient h hc.1 ho harrives hreceives
      exact ⟨base, opened', h'⟩
  | toServer o s e c =>
      obtain ⟨ho, harrives, hreceives, hproceeds⟩ := hok
      exact ⟨base, opened, toServer h hs.1 ho harrives hreceives hproceeds⟩

/-- Every state reached has the invariant. -/
theorem reaches_streams {l₀ : Link} (hc : kc.down = CLOSED ∧ kc.room < 65536)
    (hs : ks.down = LISTEN ∧ ks.room < 65536) (hstart : Starts l₀)
    (hreach : Reaches (Ok kc ks) Link.run l₀ l) :
    ∃ base opened, Streams kc ks base opened l := by
  refine hreach.invariant (P := fun l => ∃ base opened, Streams kc ks base opened l)
    ⟨_, _, hstart.streams kc ks⟩ ?_
  rintro l event ⟨base, opened, h⟩ hok
  exact h.run hc hs hok

/-- Whatever the network does, the server has accepted a beginning of what the client has sent,
and all of it whenever the client is ready to send. -/
theorem reaches_stream {l₀ : Link} (hc : kc.down = CLOSED ∧ kc.room < 65536)
    (hs : ks.down = LISTEN ∧ ks.room < 65536) (hstart : Starts l₀)
    (hreach : Reaches (Ok kc ks) Link.run l₀ l) :
    l.accepted <+: l.sent ∧
      (l.client.state &&& 0x0F = ESTABLISHED → ¬ has l.client.state AWAITING_ACK →
        l.accepted = l.sent) := by
  obtain ⟨base, opened, h⟩ := reaches_streams hc hs hstart hreach
  refine ⟨h.accepted, fun hopen hready => h.ready ?_⟩
  -- of the states of a client only ESTABLISHED is left
  exact (by decide : ∀ state ∈ clientStates, state &&& 0x0F = ESTABLISHED →
    ¬ has state AWAITING_ACK → state = ESTABLISHED) _ h.states hopen hready

end Steps

end Link

end AtmegaNet
