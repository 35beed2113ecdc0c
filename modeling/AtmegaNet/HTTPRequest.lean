import Mathlib.Data.Nat.Digits.Defs
import AtmegaNet.HTTPClient
import AtmegaNet.SendData
import AtmegaNet.SMTPMessage
import AtmegaNet.Lib.Header

/-!
# The text of a request

The client sends its request in one segment: a line with the method and the path, lines for the
type and the length of the body if there is a body, an empty line, and the body. It sends what it
is given as it is. This module says what a server reads from the segment, and for which texts that
is what the client was given.

## Main results

* `receiveRequest_requestOf`: a request is read as it was given just if its line and its type are
  single lines, and its method a single word.
* `onEstablished_request`: a client that gets a connection sends its request, if it fits, and
  nothing if it does not.
-/

open Procedure

namespace AtmegaNet

namespace HTTPClient

open Socket

/-! ### Reading a request -/

/-- A request, as a server has read it. -/
structure Received where
  method : Bytes
  path : Bytes
  fields : List (Bytes × Bytes)
  body : Bytes
  deriving DecidableEq, Repr

/-- A number in decimal digits. -/
def decimalOf (text : Bytes) : Option ℕ :=
  if text ≠ [] ∧ ∀ d ∈ text, (Char.ofNat d.toNat).isDigit then
    some (Nat.ofDigitChars 10 (text.map fun d => Char.ofNat d.toNat) 0)
  else none

/-- A line of the header: a name, a colon and a blank, and a value. -/
def fieldOf (line : Bytes) : Option (Bytes × Bytes) :=
  match Header.cut 58 line with
  | some (name, 32 :: value) => some (name, value)
  | _ => none

/-- The length of the body: none is announced for an empty one. -/
def bodyLength (fields : List (Bytes × Bytes)) : Option ℕ :=
  match fields.lookup (ascii "Content-Length") with
  | none => some 0
  | some value => decimalOf value

/-- How a server reads a request: what it has read, and what is left behind it. -/
def receiveRequest (text : Bytes) : Option (Received × Bytes) :=
  match Header.readHeader 10 (text.length + 1) text with
  | some (first :: lines, rest) => do
      let (method, path) ← Header.cut 32 first
      let fields ← lines.mapM fieldOf
      let length ← bodyLength fields
      if length ≤ rest.length then
        some (⟨method, path, fields, rest.take length⟩, rest.drop length)
      else none
  | _ => none

/-! ### Writing a request -/

/-- The lines for the body. -/
def fieldsOf (c : HTTPClient) : List (Bytes × Bytes) :=
  if nonempty c.body then
    (if nonempty c.contentType then [(ascii "Content-Type", c.contentType.getD [])] else []) ++
      [(ascii "Content-Length", digits (c.body.getD []).length)]
  else []

/-- What the client is given. -/
def given (c : HTTPClient) : Received :=
  ⟨c.method.getD [], c.path.getD [], fieldsOf c, c.body.getD []⟩

/-- What the client sends. -/
def requestOf (c : HTTPClient) : Bytes := ((texts c).map (·.getD [])).flatten

/-- The texts of the header are single lines, and the method is a single word. -/
structure Clean (c : HTTPClient) : Prop where
  method : 10 ∉ c.method.getD [] ∧ 32 ∉ c.method.getD []
  path : 10 ∉ c.path.getD []
  contentType : nonempty c.body → 10 ∉ c.contentType.getD []

section Format

variable {c : HTTPClient}

theorem toNat_digit {char : Char} (h : char.isDigit) : char.toNat < 256 := by
  have hnine : '9'.toNat = 57 := rfl
  have hrange := Char.isDigit_iff_toNat.mp h
  omega

/-- The digits of a number are digits. -/
theorem mem_digits {n : ℕ} {d : UInt8} (h : d ∈ digits n) : (Char.ofNat d.toNat).isDigit := by
  obtain ⟨char, hchar, rfl⟩ := List.mem_map.mp h
  have hdigit := Nat.isDigit_of_mem_toDigits (by decide) (by decide) hchar
  rwa [UInt8.toNat_ofNat_of_lt' (toNat_digit hdigit), Char.ofNat_toNat]

/-- The digits of a number are read as the number. -/
theorem decimalOf_digits (n : ℕ) : decimalOf (digits n) = some n := by
  have hne : digits n ≠ [] := by simp [digits, Nat.toDigits_ne_nil]
  have hchars : (digits n).map (fun d => Char.ofNat d.toNat) = Nat.toDigits 10 n := by
    rw [digits, List.map_map]
    refine (List.map_congr_left fun char hchar => ?_).trans (List.map_id _)
    have hdigit := Nat.isDigit_of_mem_toDigits (by decide) (by decide) hchar
    rw [Function.comp_apply, UInt8.toNat_ofNat_of_lt' (toNat_digit hdigit), Char.ofNat_toNat]
    rfl
  rw [decimalOf, if_pos ⟨hne, fun d hd => mem_digits hd⟩, hchars, Nat.ofDigitChars_ten_toDigits]

/-- A length that is no negative `int` is written as it is. -/
theorem itoa_of_lt {n : ℕ} (h : n < 32768) : itoa (UInt16.ofNat n).toInt16 = digits n := by
  have hvalue : (UInt16.ofNat n).toInt16.toInt = n := by
    rw [UInt16.toInt16_ofNat', Int16.toInt_ofNat_of_lt h]
  have hneg : ¬ (UInt16.ofNat n).toInt16 < 0 := by
    rw [Int16.lt_iff_toInt_lt, hvalue]
    exact not_lt.mpr (Int.natCast_nonneg n)
  rw [itoa, if_neg hneg, hvalue, Int.natAbs_natCast, List.nil_append]

/-- The length of a body of at most four digits. -/
theorem contentLength_eq (h : (c.body.getD []).length < 10000) :
    contentLength c.body = digits (c.body.getD []).length :=
  itoa_of_lt (Nat.lt_trans h (by decide))

/-- It has room in its array. -/
theorem overruns_eq_false (h : (c.body.getD []).length < 10000) : overruns c = false := by
  have hdigits : (digits (c.body.getD []).length).length ≤ 4 := by
    rw [digits, List.length_map]
    exact Nat.toDigits_length 10 _ 4 (by decide) h
  rw [overruns, contentLength_eq h, Bool.and_eq_false_iff, decide_eq_false_iff_not]
  exact .inr (by omega)

/-- A line of the header. -/
def lineOf (field : Bytes × Bytes) : Bytes := field.1 ++ 58 :: 32 :: field.2

theorem fieldOf_eq_some_iff {line name value : Bytes} :
    fieldOf line = some (name, value) ↔ 58 ∉ name ∧ line = lineOf (name, value) := by
  unfold fieldOf
  constructor
  · intro h
    split at h
    case h_1 hcut =>
      cases h
      exact Header.cut_eq_some_iff.mp hcut
    case h_2 => exact absurd h (by simp)
  · rintro ⟨h, rfl⟩
    rw [lineOf, Header.cut_append h]
    rfl

theorem mapM_lineOf {fields : List (Bytes × Bytes)} (h : ∀ field ∈ fields, 58 ∉ field.1) :
    (fields.map lineOf).mapM fieldOf = some fields := by
  induction fields with
  | nil => rfl
  | cons field fields ih =>
      obtain ⟨hfield, hfields⟩ := List.forall_mem_cons.mp h
      rw [List.map_cons, List.mapM_cons, fieldOf_eq_some_iff.mpr ⟨hfield, rfl⟩, ih hfields]
      rfl

theorem mem_of_mapM {lines : List Bytes} {fields : List (Bytes × Bytes)}
    (h : lines.mapM fieldOf = some fields) : ∀ field ∈ fields, lineOf field ∈ lines := by
  induction lines generalizing fields with
  | nil =>
      obtain rfl : [] = fields := Option.some.inj h
      exact fun _ h => absurd h List.not_mem_nil
  | cons line lines ih =>
      rw [List.mapM_cons] at h
      obtain ⟨⟨name, value⟩, hfield, h⟩ := Option.bind_eq_some_iff.mp h
      obtain ⟨fields', hfields, h⟩ := Option.bind_eq_some_iff.mp h
      obtain rfl : (name, value) :: fields' = fields := Option.some.inj h
      rintro field hmem
      rcases List.mem_cons.mp hmem with rfl | hmem
      · rw [(fieldOf_eq_some_iff.mp hfield).2]
        exact List.mem_cons_self
      · exact List.mem_cons_of_mem _ (ih hfields field hmem)

/-- The text is a header, and the body behind it. -/
theorem requestOf_eq (h : (c.body.getD []).length < 10000) : requestOf c =
    Header.write 10 ((c.method.getD [] ++ 32 :: c.path.getD []) :: (fieldsOf c).map lineOf) ++
      c.body.getD [] := by
  by_cases hbody : nonempty c.body
  · by_cases htype : nonempty c.contentType
    · simp [requestOf, texts, Header.write, fieldsOf, lineOf, hbody, htype, contentLength_eq h,
        ascii]
    · simp [requestOf, texts, Header.write, fieldsOf, lineOf, hbody, htype, contentLength_eq h,
        ascii]
  · have hempty : c.body.getD [] = [] := by simpa [nonempty] using hbody
    simp [requestOf, texts, Header.write, fieldsOf, hbody, hempty, ascii]

theorem mem_fieldsOf {field : Bytes × Bytes} (h : field ∈ fieldsOf c) : 58 ∉ field.1 := by
  have hnames : (58 : UInt8) ∉ ascii "Content-Type" ∧ (58 : UInt8) ∉ ascii "Content-Length" := by
    decide
  unfold fieldsOf at h
  split_ifs at h
  · rcases List.mem_cons.mp h with rfl | h
    · exact hnames.1
    · rw [List.mem_singleton.mp h]
      exact hnames.2
  · rw [List.mem_singleton.mp h]
    exact hnames.2
  · exact absurd h List.not_mem_nil

theorem bodyLength_fieldsOf (c : HTTPClient) :
    bodyLength (fieldsOf c) = some (c.body.getD []).length := by
  by_cases hbody : nonempty c.body
  · have hname : (ascii "Content-Length" == ascii "Content-Type") = false := by decide
    have hlookup : (fieldsOf c).lookup (ascii "Content-Length") =
        some (digits (c.body.getD []).length) := by
      by_cases htype : nonempty c.contentType
      · simp [fieldsOf, hbody, htype, List.lookup_cons, hname]
      · simp [fieldsOf, hbody, htype]
    rw [bodyLength, hlookup]
    exact decimalOf_digits _
  · have hempty : c.body.getD [] = [] := by simpa [nonempty] using hbody
    have hnone : fieldsOf c = [] := if_neg hbody
    rw [hnone, hempty]
    rfl

/-- The lines of the header are lines just if the texts in them are. -/
theorem header_iff_clean (c : HTTPClient) :
    (∀ l ∈ (c.method.getD [] ++ 32 :: c.path.getD []) :: (fieldsOf c).map lineOf,
      l ≠ [] ∧ 10 ∉ l) ↔ 10 ∉ c.method.getD [] ∧ 10 ∉ c.path.getD [] ∧
        (nonempty c.body → 10 ∉ c.contentType.getD []) := by
  have hdigits : ∀ n, (10 : UInt8) ∉ digits n := fun n h => absurd (mem_digits h) (by decide)
  have hnames : (10 : UInt8) ∉ ascii "Content-Type" ∧ (10 : UInt8) ∉ ascii "Content-Length" := by
    decide
  by_cases hbody : nonempty c.body
  · by_cases htype : nonempty c.contentType
    · simp [fieldsOf, lineOf, hbody, htype, hdigits, hnames, and_assoc]
    · have hempty : c.contentType.getD [] = [] := by simpa [nonempty] using htype
      simp [fieldsOf, lineOf, hbody, htype, hdigits, hnames, hempty]
  · simp [fieldsOf, hbody]

/-- A request is read as it was given, with nothing left behind it, just if its line and its type
are single lines and its method is a single word. The length of its body has four digits at
most. -/
theorem receiveRequest_requestOf (hshort : (c.body.getD []).length < 10000) :
    receiveRequest (requestOf c) = some (given c, []) ↔ Clean c := by
  constructor
  · intro h
    unfold receiveRequest at h
    split at h
    case h_2 => exact absurd h (by simp)
    case h_1 first lines rest hread =>
      obtain ⟨hlines, -, -⟩ := Header.readHeader_eq_some_iff.mp hread
      obtain ⟨⟨method, path⟩, hcut, h⟩ := Option.bind_eq_some_iff.mp h
      obtain ⟨fields, hfields, h⟩ := Option.bind_eq_some_iff.mp h
      obtain ⟨length, -, h⟩ := Option.bind_eq_some_iff.mp h
      split at h
      case isFalse => exact absurd h (by simp)
      case isTrue =>
        obtain ⟨hgiven, -⟩ := Prod.mk.inj (Option.some.inj h)
        obtain ⟨rfl, rfl, rfl, -⟩ := Received.mk.inj hgiven
        obtain ⟨hword, rfl⟩ := Header.cut_eq_some_iff.mp hcut
        have hfirst := (hlines _ List.mem_cons_self).2
        simp only [List.mem_append, List.mem_cons, not_or] at hfirst
        refine ⟨⟨hfirst.1, hword⟩, hfirst.2.2, fun hbody hmem => ?_⟩
        have htype : nonempty c.contentType :=
          decide_eq_true (List.length_pos_of_mem hmem)
        have hfield : (ascii "Content-Type", c.contentType.getD []) ∈ fieldsOf c := by
          rw [fieldsOf, if_pos hbody, if_pos htype]
          exact List.mem_cons_self
        refine (hlines _ (List.mem_cons_of_mem _ (mem_of_mapM hfields _ hfield))).2 ?_
        exact List.mem_append_right _ (List.mem_cons_of_mem _ (List.mem_cons_of_mem _ hmem))
  · intro h
    have hread : Header.readHeader 10 ((requestOf c).length + 1) (requestOf c) =
        some ((c.method.getD [] ++ 32 :: c.path.getD []) :: (fieldsOf c).map lineOf,
          c.body.getD []) := by
      have hlines := (header_iff_clean c).mpr ⟨h.method.1, h.path, h.contentType⟩
      refine Header.readHeader_eq_some_iff.mpr ⟨hlines, ?_, requestOf_eq hshort⟩
      rw [requestOf_eq hshort, List.length_append]
      have hlength := Header.length_lt_write (10 : UInt8)
        ((c.method.getD [] ++ 32 :: c.path.getD []) :: (fieldsOf c).map lineOf)
      omega
    unfold receiveRequest
    rw [hread]
    dsimp only
    rw [Header.cut_append h.method.2, Option.bind_eq_bind, Option.bind_some]
    dsimp only
    rw [mapM_lineOf fun _ => mem_fieldsOf, Option.bind_eq_bind, Option.bind_some,
      bodyLength_fieldsOf, Option.bind_eq_bind, Option.bind_some, if_pos (Nat.le_refl _),
      List.take_length, List.drop_length]
    rfl

end Format

/-! ### Sending a request -/

/-- The texts of a request, if the client has been given a method and a path. -/
theorem texts_eq {c : HTTPClient} (hmethod : c.method.isSome) (hpath : c.path.isSome) :
    ∃ ts : List Bytes, texts c = ts.map some ∧ ts.flatten = requestOf c := by
  refine ⟨(texts c).map (·.getD []), ?_, rfl⟩
  have hsome : ∀ text ∈ texts c, text.isSome := by
    have hbody : ∀ text : Option Bytes, nonempty text → text.isSome := fun text h => by
      cases text with
      | none => exact absurd h (by decide)
      | some text => rfl
    by_cases hb : nonempty c.body
    · by_cases ht : nonempty c.contentType
      · simp [texts, hb, ht, hmethod, hpath, hbody]
      · simp [texts, hb, ht, hmethod, hpath, hbody]
    · simp [texts, hb, hmethod, hpath]
  rw [List.map_map]
  refine ((List.map_congr_left fun text htext => ?_).trans (List.map_id _)).symm
  obtain ⟨text, rfl⟩ := Option.isSome_iff_exists.mp (hsome text htext)
  rfl

/-- A client that has just got its connection sends its request and stashes it, if it fits, and
nothing otherwise; a server reads from the segment what the client was given just if its texts are
clean. The bodies are those whose length `contentLength` has room for. -/
theorem onEstablished_request {w : World HTTPClient} (hmethod : w.app.method.isSome)
    (hpath : w.app.path.isSome) (hbody : (w.app.body.getD []).length < 10000)
    (hlength : (requestOf w.app).length < 65536) (hg : Geared w) (hready : w.self.readyToSend) :
    (Sendable (Buffer.lengthOf (requestOf w.app)) w → ∃ log,
      (onEstablished w).stack.log = w.stack.log ++ log ∧
      (∀ p ∈ packetsOf log, p.1 = w.self.remoteIP ∧ segPayload p.2.2 = requestOf w.app ∧
        (receiveRequest (segPayload p.2.2) = some (given w.app, []) ↔ Clean w.app)) ∧
      ((IPHandler.getMACForIP w.self.remoteIP w.stack).isSome → (packetsOf log).length = 1) ∧
      (onEstablished w).self.state = w.self.state ||| AWAITING_ACK) ∧
    (¬ Sendable (Buffer.lengthOf (requestOf w.app)) w →
      (onEstablished w).stack.log = w.stack.log ∧ (onEstablished w).self.readyToSend) := by
  obtain ⟨ts, htexts, hflatten⟩ := texts_eq hmethod hpath
  obtain ⟨m, hwrite, hm⟩ := writeTexts_run (dataBuffer w.stack) ts 0 w
  have hoverruns : ¬ overruns w.app := by simp [overruns_eq_false hbody]
  rw [hflatten, UInt16.zero_add] at hwrite
  generalize hw₁ : { w with stack := { w.stack with mem := m } } = w₁ at hwrite
  have hself₁ : w₁.self = w.self := by rw [← hw₁]
  have hg₁ : Geared w₁ := by
    rw [← hw₁]
    exact ⟨hg.tcp, hg.sendBuffer, hg.stash⟩
  have hsendable : Sendable (Buffer.lengthOf (requestOf w.app)) w₁ ↔
      Sendable (Buffer.lengthOf (requestOf w.app)) w := by
    rw [← hw₁]
    exact ⟨fun h => ⟨h.nonempty, h.ready, h.limit, h.room⟩,
      fun h => ⟨h.nonempty, h.ready, h.limit, h.room⟩⟩
  have hrun : onEstablished w =
      (Socket.send inner (Buffer.lengthOf (requestOf w.app))).exec w₁ := by
    unfold onEstablished
    rw [hg.getSendDataBuffer, htexts]
    dsimp only
    rw [if_neg hoverruns, hwrite]
  rw [hrun, Proc.exec]
  constructor
  · intro hs
    have hlen : (Buffer.lengthOf (requestOf w.app)).toNat = (requestOf w.app).length :=
      Buffer.toNat_lengthOf hlength
    have hroom := hs.room
    have hfit : (0 : UInt16).toNat + ts.flatten.length ≤ (dataBuffer w.stack).size.toNat := by
      rw [toNat_size_dataBuffer, hflatten, UInt16.toNat_zero]
      omega
    have hm := hm (fits_dataBuffer w.stack) hfit
    rw [root_dataBuffer, base_dataBuffer (by omega), hflatten] at hm
    have hread : Region.read w₁.stack.mem .send 54 (Buffer.lengthOf (requestOf w.app)).toNat =
        requestOf w.app := by
      rw [← hw₁, hm]
      exact Region.read_write_eq _ _ _ hlen
    obtain ⟨log, hlog, hsegments, hone, hstate⟩ :=
      send_segment inner hg₁ (hsendable.mpr hs) hread
    rw [hself₁] at hsegments hone hstate
    refine ⟨log, ?_, fun p hp => ?_, fun hroute => hone ?_, hstate⟩
    · rw [← hw₁] at hlog ⊢
      exact hlog
    · obtain ⟨hdestination, hpayload⟩ := hsegments p hp
      exact ⟨hdestination, hpayload, by rw [hpayload]; exact receiveRequest_requestOf hbody⟩
    · rw [← hw₁]
      exact hroute
  · intro hs
    have hlog₁ : w₁.stack.log = w.stack.log := by rw [← hw₁]
    have hready₁ : w₁.self.readyToSend := by rw [hself₁]; exact hready
    rcases send_unsent inner (fun _ => hg₁) fun h => hs (hsendable.mp h.2) with h | h
    · rw [h]
      exact ⟨hlog₁, hready₁⟩
    · rw [h]
      exact ⟨hlog₁, hready₁⟩

/-- A client with a connection, and two bytes to upload. -/
def exampleUpload : World HTTPClient :=
  ⟨(SMTPClient.exampleMail 100).this, (SMTPClient.exampleMail 100).self,
    (SMTPClient.exampleMail 100).stack,
    ⟨some (ascii "/a b"), some (ascii "PUT"), some (ascii "hi"), none, true⟩⟩

-- the path may have blanks
example : receiveRequest (ascii "PUT /a b\nContent-Length: 2\n\nhi!") =
    some (⟨ascii "PUT", ascii "/a b", [(ascii "Content-Length", ascii "2")], ascii "hi"⟩,
      ascii "!") := by
  decide +kernel

/-- The two bytes are sent. -/
theorem onEstablished_request_upload :
    Sendable (Buffer.lengthOf (requestOf exampleUpload.app)) exampleUpload ∧ ∃ log,
      (onEstablished exampleUpload).stack.log = exampleUpload.stack.log ++ log ∧
      (∀ p ∈ packetsOf log, p.1 = exampleUpload.self.remoteIP ∧
        segPayload p.2.2 = requestOf exampleUpload.app ∧
        (receiveRequest (segPayload p.2.2) = some (given exampleUpload.app, []) ↔
          Clean exampleUpload.app)) ∧
      ((IPHandler.getMACForIP exampleUpload.self.remoteIP exampleUpload.stack).isSome →
        (packetsOf log).length = 1) ∧
      (onEstablished exampleUpload).self.state = exampleUpload.self.state ||| AWAITING_ACK := by
  have hs : Sendable (Buffer.lengthOf (requestOf exampleUpload.app)) exampleUpload :=
    ⟨by decide +kernel, by decide +kernel, by decide +kernel, by decide +kernel⟩
  have hg : Geared exampleUpload := ⟨rfl, rfl, _, rfl, ⟨by decide, trivial⟩, rfl⟩
  exact ⟨hs, (onEstablished_request (w := exampleUpload) rfl rfl (by decide) (by decide +kernel) hg
    (by decide +kernel)).1 hs⟩

end HTTPClient

end AtmegaNet
