import Mathlib.Data.List.GetD
import AtmegaNet.Frame
import AtmegaNet.SendSegment
import AtmegaNet.TCPHandler
import AtmegaNet.Lib.Runs

/-!
# The peer's maximum segment size

A SYN carries a list of options, one of which may be the maximum segment size of the sender.
`handleSegment` looks for it in one place only, and remembers it in `remoteMSS`, which bounds
the payload of `send`.

## Main results

* `readMSS_sole`, `readMSS_other`: the option is read if and only if it is all the option area
  holds.
* `handleSegment_mss_iff`: the socket honours what the segment announces if and only if it
  reads it, or remembers the same value from before.
-/

open Procedure Runs

namespace AtmegaNet

/-! ### Options -/

/-- An entry of an option list: a no-operation (kind 1), the maximum segment size (kind 2), or
an option of another kind, with a length byte. -/
inductive TCPOption
  | nop
  | mss (value : UInt16)
  | other (kind : UInt8) (data : Bytes) (hkind : 2 < kind) (hlen : data.length ≤ 38)

namespace TCPOption

/-- The bytes of an option. -/
def bytes : TCPOption → Bytes
  | nop => [1]
  | mss value => mssOption value
  | other kind data _ _ => [kind, UInt8.ofNat (data.length + 2)] ++ data

/-- The value of a maximum segment size option. -/
def mss? : TCPOption → Option UInt16
  | mss value => some value
  | _ => none

theorem bytes_ne_nil (o : TCPOption) : o.bytes ≠ [] := by
  cases o with
  | nop => exact List.cons_ne_nil _ _
  | mss value => exact List.cons_ne_nil _ _
  | other kind data _ _ => exact List.cons_ne_nil _ _

end TCPOption

/-- The maximum segment size an option list announces. -/
def announcedMSS (options : List TCPOption) : Option UInt16 := options.findSome? TCPOption.mss?

namespace Socket

/-- The options of a segment: between its header and its payload lies the list, and what
follows its end, which is marked by a zero. -/
structure Carries (buf : Bytes) (options : List TCPOption) : Prop where
  fits : buf.length < 65536
  words : 5 ≤ segWords buf
  header : (segWords buf).toNat * 4 ≤ buf.length
  area : ∃ padding : Bytes, (∀ b ∈ padding.head?, b = 0) ∧
    (buf.drop 20).take ((segWords buf).toNat * 4 - 20) =
      options.flatMap TCPOption.bytes ++ padding

/-- The maximum segment size is all the option area holds. -/
def Sole (buf : Bytes) (options : List TCPOption) : Prop :=
  segWords buf = 6 ∧ ∃ value, options = [.mss value]

/-! ### Reading the option -/

/-- The test for the option's kind and length. -/
theorem kind_length_iff (a b c d : UInt8) :
    NTOHL (word32 [a, b, c, d]) >>> 16 = 0x0204 ↔ a = 2 ∧ b = 4 := by
  have hword := toNat_NTOHL_word32 a b c d
  have ha := a.toNat_lt
  have hb := b.toNat_lt
  have hc := c.toNat_lt
  have hd := d.toNat_lt
  rw [← UInt32.toNat_inj, ← UInt8.toNat_inj, ← UInt8.toNat_inj, UInt32.toNat_shiftRight, hword]
  simp only [UInt32.reduceToNat, UInt8.reduceToNat, Nat.reduceMod, Nat.shiftRight_eq_div_pow]
  omega

/-- The value, from its bytes. -/
theorem value_eq (a b c d : UInt8) :
    (NTOHL (word32 [a, b, c, d]) <<< 16 >>> 16).toUInt16 = NTOHS (word16 [c, d]) := by
  have hword := toNat_NTOHL_word32 a b c d
  have hvalue := toNat_NTOHS_word16 c d
  have hc := c.toNat_lt
  have hd := d.toNat_lt
  rw [← UInt16.toNat_inj, hvalue, UInt32.toNat_toUInt16, UInt32.toNat_shiftRight,
    UInt32.toNat_shiftLeft, hword]
  simp only [UInt32.reduceToNat, Nat.reduceMod, Nat.shiftLeft_eq, Nat.shiftRight_eq_div_pow]
  omega

/-- An area of four bytes holds the option alone, or does not begin with its kind and
length. -/
theorem area_cases {a b c d : UInt8} {options : List TCPOption} {padding : Bytes}
    (hpadding : ∀ x ∈ padding.head?, x = 0)
    (harea : [a, b, c, d] = options.flatMap TCPOption.bytes ++ padding) :
    options = [.mss (NTOHS (word16 [c, d]))] ∧ a = 2 ∧ b = 4 ∨
      (∀ value, options ≠ [.mss value]) ∧ ¬ (a = 2 ∧ b = 4) := by
  cases options with
  | nil =>
      refine .inr ⟨fun _ => by simp, fun h => ?_⟩
      have hzero : a = 0 := hpadding a (by rw [List.flatMap_nil, List.nil_append] at harea; simp [← harea])
      rw [hzero] at h
      exact absurd h.1 (by decide)
  | cons o rest =>
      rw [List.flatMap_cons, List.append_assoc] at harea
      cases o with
      | nop =>
          refine .inr ⟨fun _ => by simp, fun h => ?_⟩
          have hone : a = 1 := (List.cons.inj harea).1
          rw [hone] at h
          exact absurd h.1 (by decide)
      | mss value =>
          have hparts : [a, b, c, d] ++ [] = [2, 4, (HTONS value).toUInt8,
              (HTONS value >>> 8).toUInt8] ++ (rest.flatMap TCPOption.bytes ++ padding) :=
            (List.append_nil _).trans harea
          obtain ⟨hbytes, hrest⟩ := List.append_inj hparts rfl
          have hempty : rest.flatMap TCPOption.bytes ++ padding = [] := hrest.symm
          obtain ⟨ha, hb, hc, hd⟩ : a = 2 ∧ b = 4 ∧ c = (HTONS value).toUInt8 ∧
              d = (HTONS value >>> 8).toUInt8 := by simpa using hbytes
          have hnil : rest = [] := by
            cases rest with
            | nil => rfl
            | cons o' rest' =>
                rw [List.flatMap_cons] at hempty
                exact absurd (List.append_eq_nil_iff.mp
                  (List.append_eq_nil_iff.mp hempty).1).1 o'.bytes_ne_nil
          have hvalue : NTOHS (word16 [c, d]) = value := by
            rw [hc, hd]
            exact (congrArg NTOHS (word16_bytesOf16 (HTONS value))).trans (NTOHS_HTONS value)
          refine .inl ⟨?_, ha, hb⟩
          rw [hnil, hvalue]
      | other kind data hkind hlen =>
          refine .inr ⟨fun _ => by simp, fun h => ?_⟩
          have hkind' : a = kind := (List.cons.inj harea).1
          rw [← hkind', h.1] at hkind
          exact absurd hkind (by decide)

section Carries

variable {α : Type} {buf : Bytes} {options : List TCPOption} (h : Carries buf options)

include h

/-- With a header of six words the option area is four bytes, and `readMSS` reads them. -/
theorem Carries.four (hwords : segWords buf = 6) :
    ∃ (a b c d : UInt8) (padding : Bytes), (∀ x ∈ padding.head?, x = 0) ∧
      [a, b, c, d] = options.flatMap TCPOption.bytes ++ padding ∧
      (viewOf buf).readNet32 20 = some (NTOHL (word32 [a, b, c, d])) := by
  obtain ⟨padding, hpadding, harea⟩ := h.area
  have hlen := h.header
  rw [hwords] at harea hlen
  have hlen : 24 ≤ buf.length := hlen
  refine ⟨buf.getD 20 0, buf.getD 21 0, buf.getD 22 0, buf.getD 23 0, padding, hpadding, ?_, ?_⟩
  · rw [← harea]
    refine List.ext_getElem ?_ fun i hi hi' => ?_
    · simp
      omega
    · have hi4 : i < 4 := hi
      have hget : ∀ k, (hk : k < buf.length) → buf.getD k 0 = buf[k] := fun k hk => by
        rw [List.getD_eq_getElem?_getD, List.getElem?_eq_getElem hk]
        rfl
      rw [List.getElem_take, List.getElem_drop]
      interval_cases i <;> exact hget _ _
  · rw [(shows_viewOf h.fits).readNet32 (by simp; omega)]
    rfl

/-- The option is read if it is all there is. -/
theorem readMSS_sole (hsole : Sole buf options) (w : World α) :
    some (readMSS (viewOf buf) (segWords buf) w).self.remoteMSS = announcedMSS options := by
  obtain ⟨hwords, value, rfl⟩ := hsole
  obtain ⟨a, b, c, d, padding, hpadding, harea, hread⟩ := h.four hwords
  obtain ⟨hvalue, rfl, rfl⟩ | ⟨hne, -⟩ := area_cases hpadding harea
  · have hvalue : NTOHS (word16 [c, d]) = value :=
      (TCPOption.mss.inj (List.cons.inj hvalue).1).symm
    unfold readMSS
    rw [if_pos hwords, hread]
    dsimp only [Option.getD_some]
    rw [if_pos ((kind_length_iff 2 4 c d).mpr ⟨rfl, rfl⟩)]
    exact congrArg some ((value_eq 2 4 c d).trans hvalue)
  · exact absurd rfl (hne value)

/-- Otherwise `remoteMSS` stays as it was. -/
theorem readMSS_other (hsole : ¬ Sole buf options) (w : World α) :
    readMSS (viewOf buf) (segWords buf) w = w := by
  unfold readMSS
  by_cases hwords : segWords buf = 6
  · obtain ⟨a, b, c, d, padding, hpadding, harea, hread⟩ := h.four hwords
    obtain ⟨hvalue, -, -⟩ | ⟨-, hne⟩ := area_cases hpadding harea
    · exact absurd ⟨hwords, _, hvalue⟩ hsole
    · rw [if_pos hwords, hread]
      dsimp only [Option.getD_some]
      rw [if_neg fun h => hne ((kind_length_iff a b c d).mp h)]
  · rw [if_neg hwords]

end Carries

/-! ### Remembering it -/

section Remember

variable {α : Type}

/-- Between two worlds the socket has not learned another maximum segment size. -/
def SameMSS (w w' : World α) : Prop := w'.self.remoteMSS = w.self.remoteMSS

instance : IsPreorder (World α) SameMSS where
  refl _ := rfl
  trans _ _ _ h h' := h'.trans h

/-- Callbacks that use the socket by its calls only. -/
structure KeepsMSS (cb : Callbacks α) : Prop where
  on : ∀ e w, SameMSS w (cb.on e w)
  onDataReceived : ∀ d w, SameMSS w (cb.onDataReceived d w).2

/-- An application whose callbacks make no calls. -/
theorem App.keepsMSS (a : App α) : KeepsMSS a.callbacks := ⟨fun _ _ => rfl, fun _ _ => rfl⟩

theorem KeepsMSS.frames {cb : Callbacks α} (hcb : KeepsMSS cb) : Frames cb SameMSS where
  self w s hs := by
    simp only [settings, Prod.mk.injEq] at hs
    exact hs.2.2.2.2.2.2
  stack _ _ _ := rfl
  event _ _ := rfl
  received _ _ _ := rfl
  dangling _ _ := rfl
  on := hcb.on
  onDataReceived := hcb.onDataReceived

/-- The uses of a socket between two segments that open a connection. -/
inductive Use (α : Type)
  | connect (dns : Resolver)
  | send (length : UInt16)
  | sendBytes (data : Bytes)
  | close
  | forceClose
  | checkState (dns : Resolver)
  | segment (sourceIP : IPAddr) (buf : Bytes)
  /-- Whatever happens around the socket. -/
  | outside (stack : Stack) (app : α)

/-- What a use does. -/
def use (cb : Callbacks α) : Use α → World α → World α
  | .connect dns, w => (connect cb dns).exec w
  | .send length, w => (send cb length).exec w
  | .sendBytes data, w => (sendBytes cb data).exec w
  | .close, w => (close cb).exec w
  | .forceClose, w => forceClose cb w
  | .checkState dns, w => checkState cb dns w
  | .segment sourceIP buf, w => handleSegment cb sourceIP buf w
  | .outside stack app, w => { w with stack := stack, app := app }

/-- The connection goes on: no segment opens another one. -/
def Ongoing (w : World α) : Use α → Prop
  | .segment _ buf => ¬ Opens (segControl buf) (segAck buf) w.self
  | _ => True

/-- A use of the connection keeps what was learned. -/
theorem sameMSS_use {cb : Callbacks α} (hcb : KeepsMSS cb) {w : World α} {e : Use α}
    (he : Ongoing w e) : SameMSS w (use cb e w) := by
  have h := hcb.frames
  cases e with
  | connect dns => exact h.connect (fun _ _ => rfl) w
  | send length => exact h.send length w
  | sendBytes data => exact h.sendBytes data w
  | close => exact h.close w
  | forceClose => exact h.forceClose w
  | checkState dns => exact h.checkState (fun _ _ => rfl) w
  | segment sourceIP buf => exact h.handleSegment sourceIP buf w fun hopens => absurd hopens he
  | outside stack app => exact rfl

/-- A whole connection keeps it. -/
theorem sameMSS_reaches {cb : Callbacks α} (hcb : KeepsMSS cb) {w v : World α}
    (h : Reaches Ongoing (use cb) w v) : SameMSS w v :=
  h.invariant (refl_of SameMSS w) fun _ _ hv he => trans_of SameMSS hv (sameMSS_use hcb he)

/-- A payload that `send` takes is not larger than the peer's maximum segment size. -/
theorem send_le_mss {cb : Callbacks α} {length : UInt16} {w : World α}
    (h : (send cb length).succeeds w) (hmss : w.self.remoteMSS ≠ 0) :
    length ≤ w.self.remoteMSS := by
  unfold send at h
  rw [Proc.succeeds, Proc.run_read_bind] at h
  split_ifs at h with hzero hready hmax
  · rw [hzero]
    exact UInt16.zero_le
  · exact absurd h (by simp)
  · exact absurd h (by simp)
  · have hpos : w.self.remoteMSS > 0 := UInt16.pos_iff_ne_zero.mpr hmss
    refine UInt16.le_trans (UInt16.not_lt.mp hmax) ?_
    unfold getMaxSendPayload
    dsimp only
    split_ifs with h1 h2 h2
    · exact UInt16.le_refl _
    · exact UInt16.not_lt.mp fun hlt => h2 ⟨hpos, hlt⟩
    · exact UInt16.le_refl _
    · exact UInt16.not_lt.mp fun hlt => h2 ⟨hpos, hlt⟩

theorem sendBytes_le_mss {cb : Callbacks α} {data : Bytes} {w : World α}
    (h : (sendBytes cb data).succeeds w) (hmss : w.self.remoteMSS ≠ 0) :
    Buffer.lengthOf data ≤ w.self.remoteMSS := by
  obtain ⟨sb, w₁, hw₁, h⟩ := Proc.succeeds_bind.mp h
  obtain ⟨_, w₂, hw₂, h⟩ := Proc.succeeds_bind.mp h
  have hself : w₂.self = w.self := by
    have h₁ : w₁ = w := (congrArg Prod.snd hw₁).symm
    have h₂ : w₂.self = w₁.self := (congrArg (fun r => r.2.self) hw₂).symm
    rw [h₂, h₁]
  rw [← hself] at hmss ⊢
  exact send_le_mss h hmss

/-- What a segment that opens a connection announces is honoured: the socket remembers it, 0
standing for what is not known, and takes no larger payload as long as the connection lasts. -/
structure Honours (cb : Callbacks α) (options : List TCPOption) (w : World α) : Prop where
  learned : w.self.remoteMSS = (announcedMSS options).getD 0
  obeyed : ∀ v, Reaches Ongoing (use cb) w v → ∀ mss, announcedMSS options = some mss → mss ≠ 0 →
    (∀ length, (send cb length).succeeds v → length ≤ mss) ∧
      ∀ data, (sendBytes cb data).succeeds v → Buffer.lengthOf data ≤ mss

/-- What is learned is obeyed. -/
theorem honours_iff {cb : Callbacks α} (hcb : KeepsMSS cb) {options : List TCPOption}
    {w : World α} :
    Honours cb options w ↔ w.self.remoteMSS = (announcedMSS options).getD 0 := by
  refine ⟨Honours.learned, fun h => ⟨h, fun v hv mss hmss hne => ?_⟩⟩
  have hv : v.self.remoteMSS = mss := by
    rw [sameMSS_reaches hcb hv, h, hmss]
    rfl
  rw [← hv] at hne ⊢
  exact ⟨fun _ hsend => send_le_mss hsend hne, fun _ hsend => sendBytes_le_mss hsend hne⟩

end Remember

/-! ### Segments that open a connection -/

section Opening

variable {α : Type} {cb : Callbacks α} {buf : Bytes} {localIP remoteIP : IPAddr}

/-- What a passive open does to the maximum segment size is what `readMSS` does. -/
theorem passiveOpen_mss (h : Frames cb SameMSS) (hsum : checksumOk buf localIP remoteIP)
    (seq : UInt32) (w : World α) :
    ∃ w₁ : World α, w₁.self.remoteMSS = w.self.remoteMSS ∧
      SameMSS (readMSS (viewOf buf) (segWords buf) w₁) (passiveOpen cb (viewOf buf) seq w) := by
  have hport : ∀ i, i + 2 ≤ 18 → ∃ port, (viewOf buf).readNet16 i = some port := by
    intro i hi
    have hread := isSome_read_of_checksumOk hsum hi
    exact Option.isSome_iff_exists.mp
      (by rwa [View.readNet16, Option.isSome_map, View.read16, Option.isSome_map])
  obtain ⟨port₂, hport₂⟩ := hport 2 (by decide)
  obtain ⟨port, hport₀⟩ := hport 0 (by decide)
  refine ⟨w.setSelf { w.self with remoteSeq := seq + 1, remotePort := port₂ }, rfl, ?_⟩
  unfold passiveOpen
  dsimp only
  rw [hport₂, read_segWords hsum]
  dsimp only
  rw [hport₀, show ((w.setSelf { w.self with remoteSeq := seq + 1 }).setSelf
    { (w.setSelf { w.self with remoteSeq := seq + 1 }).self with remotePort := port₂ }) =
      w.setSelf { w.self with remoteSeq := seq + 1, remotePort := port₂ } from rfl]
  generalize readMSS (viewOf buf) (segWords buf) _ = w₂
  have hset : SameMSS w₂ (w₂.setSelf { w₂.self with remotePort := port }) := rfl
  dsimp only
  generalize w₂.setSelf { w₂.self with remotePort := port } = w₃ at hset ⊢
  refine trans_of SameMSS hset ?_
  split
  · exact trans_of SameMSS (h.sendSegment _ 0 0 0 w₃) (h.setState _ _)
  · exact h.sendSegment _ 0 0 0 w₃

theorem simultaneousOpen_mss (h : Frames cb SameMSS) (hsum : checksumOk buf localIP remoteIP)
    (seq : UInt32) (w : World α) :
    ∃ w₁ : World α, w₁.self.remoteMSS = w.self.remoteMSS ∧
      SameMSS (readMSS (viewOf buf) (segWords buf) w₁)
        (simultaneousOpen cb (viewOf buf) seq w) := by
  refine ⟨w.setSelf { w.self with remoteSeq := seq + 1 }, rfl, ?_⟩
  unfold simultaneousOpen
  dsimp only
  rw [read_segWords hsum]
  exact trans_of SameMSS (h.setState _ _) (h.sendACK _)

theorem activeOpen_mss (h : Frames cb SameMSS) (hsum : checksumOk buf localIP remoteIP)
    (seq : UInt32) (w : World α) :
    ∃ w₁ : World α, w₁.self.remoteMSS = w.self.remoteMSS ∧
      SameMSS (readMSS (viewOf buf) (segWords buf) w₁) (activeOpen cb (viewOf buf) seq w) := by
  refine ⟨w.setSelf { w.self with remoteSeq := seq + 1 }, rfl, ?_⟩
  unfold activeOpen
  dsimp only
  rw [read_segWords hsum]
  exact trans_of SameMSS (h.sendACK _) (h.setState _ _)

/-- A segment that opens a connection gets through to the one of the three that is for it. -/
theorem handleValid_opens (hcb : KeepsMSS cb) (hsum : checksumOk buf localIP remoteIP)
    {w : World α} (hopens : Opens (segControl buf) (segAck buf) w.self) :
    ∃ w₁ : World α, w₁.self.remoteMSS = w.self.remoteMSS ∧
      SameMSS (readMSS (viewOf buf) (segWords buf) w₁)
        (handleValid cb buf (segControl buf) (segAck buf) (segSeq buf) w) := by
  have h := hcb.frames
  have hbits : segControl buf = SYN ∨ segControl buf = ACK ||| SYN := by
    rcases hopens with h | h | h
    · exact .inl h.2
    · exact .inl h.2
    · exact .inr h.2.1
  have hsyn : has (segControl buf) SYN := by rcases hbits with h | h <;> rw [h] <;> decide
  have hrst : ¬ has (segControl buf) RST := by rcases hbits with h | h <;> rw [h] <;> decide
  have hstate : w.self.state = LISTEN ∨ w.self.state = SYN_SENT := by
    rcases hopens with h | h | h
    · exact .inl h.1
    · exact .inr h.1
    · exact .inr h.1
  have hsync : ¬ synchronized w.self.state := by rcases hstate with h | h <;> rw [h] <;> decide
  have hclosed : w.self.state ≠ CLOSED := by rcases hstate with h | h <;> rw [h] <;> decide
  have hahead : ¬ (has (segControl buf) ACK ∧ segAck buf > w.self.localSeq) := by
    rintro ⟨hack, hgt⟩
    have hpure : ¬ has SYN ACK := by decide
    rcases hopens with h | h | h
    · rw [h.2] at hack
      exact hpure hack
    · rw [h.2] at hack
      exact hpure hack
    · rw [h.2.2] at hgt
      exact absurd hgt (UInt32.lt_irrefl _)
  unfold handleValid
  rw [if_neg fun h => hclosed h.1, if_neg fun h => h.2.1 hsyn, if_neg fun h => hahead h.2,
    if_neg fun h => hsync h.1, if_neg fun h => hsync h.1, if_neg hrst]
  by_cases hlisten : w.self.state = LISTEN ∧ segControl buf = SYN
  · rw [if_pos hlisten]
    exact passiveOpen_mss h hsum _ w
  rw [if_neg hlisten]
  by_cases hsent : w.self.state = SYN_SENT ∧ segControl buf = SYN
  · rw [if_pos hsent]
    exact simultaneousOpen_mss h hsum _ w
  · rw [if_neg hsent, if_pos ((hopens.resolve_left hlisten).resolve_left hsent)]
    exact activeOpen_mss h hsum _ w

/-- A segment is honoured if and only if it opens a connection and announces its maximum
segment size in the one place where it is looked for, or what it announces is what the socket
remembers from before, 0 standing for no announcement. -/
theorem handleSegment_mss_iff (hcb : KeepsMSS cb) {w : World α} (htcp : w.self.tcp.isSome)
    (sourceIP : IPAddr) {options : List TCPOption} (hcarries : Carries buf options)
    (hsum : checksumOk buf w.stack.ip.ipAddress (arrive sourceIP buf w).self.remoteIP) :
    Honours cb options (handleSegment cb sourceIP buf w) ↔
      Opens (segControl buf) (segAck buf) w.self ∧ Sole buf options ∨
        w.self.remoteMSS = (announcedMSS options).getD 0 := by
  rw [honours_iff hcb]
  by_cases hopens : Opens (segControl buf) (segAck buf) w.self
  · rw [handleSegment_valid cb htcp hsum]
    obtain ⟨w₁, hw₁, hsame⟩ :=
      handleValid_opens hcb hsum (w := arrive sourceIP buf w) hopens
    rw [show (handleValid cb buf _ _ _ _).self.remoteMSS = _ from hsame]
    by_cases hsole : Sole buf options
    · refine iff_of_true ?_ (.inl ⟨hopens, hsole⟩)
      rw [← readMSS_sole hcarries hsole w₁]
      rfl
    · rw [readMSS_other hcarries hsole, hw₁, or_iff_right fun h => hsole h.2]
      exact Iff.rfl
  · have hsame : SameMSS w (handleSegment cb sourceIP buf w) :=
      hcb.frames.handleSegment sourceIP buf w fun h => absurd h hopens
    rw [hsame, or_iff_right fun h => hopens h.1]

end Opening

/-- The client's SYN announces its maximum segment size, and nothing else. -/
theorem carries_exampleSyn : Carries exampleSyn [.mss 42] where
  fits := by decide
  words := by decide
  header := by decide
  area := ⟨[], by simp, by decide⟩

/-- The listener honours it. -/
theorem handleSegment_mss_syn :
    Honours exampleApp [.mss 42]
      (handleSegment exampleApp ⟨10, 0, 0, 1⟩ exampleSyn (exampleListener.world 0)) :=
  (handleSegment_mss_iff (App.keepsMSS exampleApp) (by decide +kernel) ⟨10, 0, 0, 1⟩ carries_exampleSyn
    (by decide +kernel)).mpr (.inl ⟨.inl (by decide +kernel), by decide +kernel, 42, rfl⟩)

/-- The same SYN with four no-operations behind the announcement of 10 bytes. -/
def exampleLongSyn : Bytes :=
  [192, 0, 0, 80, 0, 0, 0, 7, 0, 0, 0, 0, 112, 2, 0, 42, 183, 70, 0, 0, 2, 4, 0, 10,
    1, 1, 1, 1]

/-- The listener accepts it and does not read the announcement. -/
theorem longSyn_ignored :
    let w := exampleListener.world 0
    let w' := handleSegment exampleApp ⟨10, 0, 0, 1⟩ exampleLongSyn w
    w.self.tcp.isSome ∧ Carries exampleLongSyn [.mss 10, .nop, .nop, .nop, .nop] ∧
      checksumOk exampleLongSyn w.stack.ip.ipAddress
        (arrive ⟨10, 0, 0, 1⟩ exampleLongSyn w).self.remoteIP ∧
      w.self.state = LISTEN ∧ segControl exampleLongSyn = SYN ∧ w'.self.state = SYN_RECEIVED ∧
      ¬ Honours exampleApp [.mss 10, .nop, .nop, .nop, .nop] w' := by
  refine ⟨by decide +kernel, ⟨by decide, by decide, by decide, [], by simp, by decide⟩,
    by decide +kernel, by decide +kernel, by decide, by decide +kernel, fun h => ?_⟩
  exact absurd h.learned (by decide +kernel)

end Socket

end AtmegaNet
