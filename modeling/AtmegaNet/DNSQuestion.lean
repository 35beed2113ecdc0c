import AtmegaNet.PendingLookups

/-!
# The question of a request

What `sendDNSRequest` writes. The length bytes of the hosts are filled in when a host ends, and
the offset, the length byte and the length of the request advance side by side. The request is
compared with the format it should have: the labels of the name, each behind its length, and
the root.

## Main results

* `readName_eq_some`: the reader of names inverts the format.
* `writeRequest_run`: a request is its header, every part of the name between dots behind its
  length, the root, and the type and class.
* `question_iff`: the question is the one asked for just if no part of the name between dots is
  empty or longer than 63 bytes.
-/

open Procedure

namespace AtmegaNet

namespace DNSHandler

/-! ### Names -/

/-- The labels of a name: what stands between its dots. A dot at the end stands for the root. -/
def labelsOf (domainName : Bytes) : List Bytes :=
  if (domainName.splitOn 46).getLast? = some [] then (domainName.splitOn 46).dropLast
  else domainName.splitOn 46

/-- The name at the start of a block of bytes: its labels, each behind a length of at most 63,
until the first length that is zero, and what is behind it. -/
def readName : Bytes → Option (List Bytes × Bytes)
  | [] => none
  | n :: rest =>
      if n = 0 then some ([], rest)
      else if n.toNat > 63 ∨ rest.length < n.toNat then none
      else (readName (rest.drop n.toNat)).map fun r => (rest.take n.toNat :: r.1, r.2)
termination_by d => d.length
decreasing_by
  simp only [List.length_drop, List.length_cons]
  omega

/-- Labels as they are written, each behind its length. -/
def wire (labels : List Bytes) : Bytes :=
  labels.flatMap fun label => UInt8.ofNat label.length :: label

/-- A length that a label may have. -/
def LabelLength (label : Bytes) : Prop := 1 ≤ label.length ∧ label.length ≤ 63

instance (label : Bytes) : Decidable (LabelLength label) := inferInstanceAs (Decidable (_ ∧ _))

/-- What a request should be: behind its header the labels of the name, the type 1 and the
class 1, and no more; and the loop that skips a question stops at its end. -/
structure Question (domainName message : Bytes) : Prop where
  labels : readName (message.drop 12) = some (labelsOf domainName, [0, 1, 0, 1])
  skipped : ∀ packet : Datagram, packet.bytes = message →
    skipQuestions packet.view 1 DNS_HEADER_LENGTH = some (Buffer.lengthOf message)

@[simp] theorem wire_nil : wire [] = [] := rfl

@[simp] theorem wire_cons (label : Bytes) (labels : List Bytes) :
    wire (label :: labels) = UInt8.ofNat label.length :: (label ++ wire labels) := rfl

theorem wire_append (labels labels' : List Bytes) :
    wire (labels ++ labels') = wire labels ++ wire labels' :=
  List.flatMap_append

/-- The length byte of a label. -/
theorem LabelLength.toNat {label : Bytes} (h : LabelLength label) :
    (UInt8.ofNat label.length).toNat = label.length :=
  UInt8.toNat_ofNat_of_lt' (by have := h.2; simp [UInt8.size]; omega)

/-- What is read as a name is its labels behind their lengths, the root and the rest. -/
theorem readName_sound {d rest : Bytes} {labels : List Bytes}
    (h : readName d = some (labels, rest)) :
    d = wire labels ++ 0 :: rest ∧ ∀ label ∈ labels, LabelLength label := by
  fun_induction readName d generalizing labels rest with
  | case1 => cases h
  | case2 tail =>
      obtain ⟨rfl, rfl⟩ : [] = labels ∧ tail = rest := by simpa using h
      exact ⟨rfl, by simp⟩
  | case3 => cases h
  | case4 n tail hpos hlength ih =>
      push Not at hlength
      obtain ⟨⟨labels', rest'⟩, hread, heq⟩ := Option.map_eq_some_iff.mp h
      obtain ⟨rfl, rfl⟩ : tail.take n.toNat :: labels' = labels ∧ rest' = rest := by
        simpa using heq
      obtain ⟨hdrop, hlabels⟩ := ih hread
      have htake : (tail.take n.toNat).length = n.toNat := by
        rw [List.length_take]
        omega
      have hnonzero : n.toNat ≠ 0 := fun hzero => hpos (UInt8.toNat_inj.mp hzero)
      constructor
      · rw [wire_cons, htake, UInt8.ofNat_toNat, List.cons_append, List.append_assoc, ← hdrop,
          List.take_append_drop]
      · intro label hmem
        rcases List.mem_cons.mp hmem with rfl | hmem
        · exact ⟨by omega, by omega⟩
        · exact hlabels label hmem

/-- Labels of lengths that they may have are read back. -/
theorem readName_wire {labels : List Bytes} (h : ∀ label ∈ labels, LabelLength label)
    (rest : Bytes) : readName (wire labels ++ 0 :: rest) = some (labels, rest) := by
  induction labels with
  | nil => rw [wire_nil, List.nil_append, readName, if_pos rfl]
  | cons label labels ih =>
      have hlabel := h label List.mem_cons_self
      have hnat := hlabel.toNat
      have hnonzero : UInt8.ofNat label.length ≠ 0 := by
        intro hzero
        rw [hzero] at hnat
        exact absurd hnat (by have := hlabel.1; simp; omega)
      have hshort : ¬ ((UInt8.ofNat label.length).toNat > 63 ∨
          (label ++ (wire labels ++ 0 :: rest)).length < (UInt8.ofNat label.length).toNat) := by
        have := hlabel.2
        rw [hnat, List.length_append]
        omega
      have htail := ih fun l hl => h l (List.mem_cons_of_mem label hl)
      rw [wire_cons, List.cons_append, List.append_assoc, readName, if_neg hnonzero,
        if_neg hshort, hnat, List.drop_left, List.take_left, htail]
      rfl

theorem readName_eq_some {d rest : Bytes} {labels : List Bytes} :
    readName d = some (labels, rest) ↔
      d = wire labels ++ 0 :: rest ∧ ∀ label ∈ labels, LabelLength label := by
  constructor
  · exact readName_sound
  · rintro ⟨rfl, h⟩
    exact readName_wire h rest

/-- The labels and the root are a name without pointers. -/
theorem name_wire {labels : List Bytes} (h : ∀ label ∈ labels, LabelLength label) :
    Name noPointer (wire labels ++ [0]) := by
  induction labels with
  | nil => exact .root
  | cons label labels ih =>
      have hlabel := h label List.mem_cons_self
      have hnat := hlabel.toNat
      have htail := ih fun l hl => h l (List.mem_cons_of_mem label hl)
      have hpos : 0 < UInt8.ofNat label.length := by
        rw [UInt8.lt_iff_toNat_lt, hnat]
        exact hlabel.1
      rw [wire_cons, List.cons_append, List.append_assoc]
      exact Name.label hpos rfl hnat.symm htail

/-! ### Writing a request -/

section Write

variable {b : Buffer} (hb : b.Fits)

include hb

/-- A write behind what has been written. -/
theorem write_snoc {m : Memory} {k : ℕ} (start : UInt16) (data : Bytes) (hstart : start.toNat = k)
    (hin : k + data.length ≤ b.size.toNat) :
    ∃ m', (b.write start data).run m = (some (), m') ∧
      Region.read m' b.root b.base (k + data.length) = Region.read m b.root b.base k ++ data := by
  refine ⟨_, Buffer.write_fits hb m (by omega), ?_⟩
  rw [hstart]
  exact Region.read_write_append m b.root b.base k rfl

/-- What has been written of the parts of a name: the parts that have ended, up to the offset of
the length byte of the next, and behind that the next part so far. -/
structure Written (b : Buffer) (o : UInt16) (l : UInt8) (parts label : Bytes) (m : Memory) :
    Prop where
  parts : Region.read m b.root b.base o.toNat = parts
  label : Region.read m b.root (b.base + o.toNat + 1) l.toNat = label

omit hb in
theorem Written.length {o : UInt16} {l : UInt8} {parts label : Bytes} {m : Memory}
    (h : Written b o l parts label m) : parts.length = o.toNat ∧ label.length = l.toNat :=
  ⟨by rw [← h.parts, Region.length_read], by rw [← h.label, Region.length_read]⟩

/-- The length byte of a part that has ended completes it. -/
theorem Written.complete {o : UInt16} {l : UInt8} {parts label : Bytes} {m : Memory}
    (h : Written b o l parts label m) (hin : o.toNat + 1 + l.toNat ≤ b.size.toNat) :
    ∃ m', (b.write8 o l).run m = (some (), m') ∧
      Region.read m' b.root b.base (o.toNat + 1 + l.toNat) = parts ++ wire [label] := by
  have hlength : UInt8.ofNat label.length = l := by rw [h.length.2, UInt8.ofNat_toNat]
  refine ⟨_, Buffer.write_fits hb m (by simp; omega), ?_⟩
  have hbehind : Region.read (Region.write m b.root (b.base + o.toNat) [l]) b.root
      (b.base + (o.toNat + 1)) l.toNat = label := by
    rw [Region.read_write_disjoint m b.root b.root (.inr (by rw [List.length_singleton]; omega)),
      ← Nat.add_assoc, h.label]
  rw [Region.read_add, Region.read_write_append m b.root b.base o.toNat (d := [l]) (n := 1) rfl,
    h.parts, hbehind, List.append_assoc, wire_cons, wire_nil, hlength, List.append_nil]
  rfl

/-- A character behind the length byte lengthens the part. -/
theorem Written.push {o : UInt16} {l : UInt8} {parts label : Bytes} {m : Memory}
    (h : Written b o l parts label m) (hl : l.toNat < 255)
    (hin : o.toNat + 1 + l.toNat + 1 ≤ b.size.toNat) (c : UInt8) :
    ∃ m', (b.write8 (o + 1 + l.toUInt16) c).run m = (some (), m') ∧
      Written b o (l + 1) parts (label ++ [c]) m' := by
  have hsize := b.size.toNat_lt
  have hbehind := toNat_behind (o := o) (l := l) (by omega)
  have hnext : (l + 1).toNat = l.toNat + 1 := by
    rw [UInt8.toNat_add]
    exact Nat.mod_eq_of_lt (by simp; omega)
  refine ⟨_, Buffer.write_fits hb m (by rw [hbehind]; simpa using hin), ?_, ?_⟩
  · rw [hbehind, Region.read_write_disjoint m b.root b.root (.inl (by omega)), h.parts]
  · rw [hbehind, hnext, show b.base + (o.toNat + 1 + l.toNat) = b.base + o.toNat + 1 + l.toNat by
      omega, Region.read_write_append m b.root _ l.toNat (d := [c]) (n := 1) rfl, h.label]

/-- The loop over the characters of a name writes its parts between the dots, but for the length
byte of the last. -/
theorem writeHosts_run (name : Bytes) {o : UInt16} {l : UInt8} (n : UInt16) {m : Memory}
    {parts label : Bytes} (hwritten : Written b o l parts label m)
    (hl : l.toNat + name.length < 256)
    (hin : o.toNat + 1 + l.toNat + name.length ≤ b.size.toNat) :
    ∃ o' l' m' parts' label',
      (writeHosts b name o l n).run m =
        (some (o', l', n + UInt16.ofNat name.length), m') ∧
      Written b o' l' parts' label' m' ∧
      o'.toNat + 1 + l'.toNat = o.toNat + 1 + l.toNat + name.length ∧
      parts' ++ wire [label'] =
        parts ++ wire ((name.splitOn 46).modifyHead (label ++ ·)) := by
  have hsize := b.size.toNat_lt
  induction name generalizing o l n m parts label with
  | nil =>
      refine ⟨o, l, m, parts, label, ?_, hwritten, rfl, ?_⟩
      · rw [writeHosts, List.length_nil, show UInt16.ofNat 0 = 0 from rfl, UInt16.add_zero]
        rfl
      · rw [List.splitOn_nil, List.modifyHead_cons, List.append_nil]
  | cons c rest ih =>
      rw [List.length_cons] at hl hin ⊢
      have hcount : n + UInt16.ofNat (rest.length + 1) = n + 1 + UInt16.ofNat rest.length := by
        rw [UInt16.ofNat_add, UInt16.add_assoc, UInt16.add_comm (UInt16.ofNat rest.length)]
        rfl
      rw [hcount, List.splitOn_cons_eq_if_modifyHead, writeHosts]
      by_cases hdot : c = 46
      · obtain ⟨m₁, hrun, hread⟩ := hwritten.complete hb (by omega)
        have hbehind := toNat_behind (o := o) (l := l) (by omega)
        have hzero : (0 : UInt8).toNat = 0 := rfl
        have hnext : Written b (o + 1 + l.toUInt16) 0 (parts ++ wire [label]) [] m₁ :=
          ⟨by rw [hbehind, hread], rfl⟩
        obtain ⟨o', l', m', parts', label', hrest, hwritten', hlast, hwire⟩ :=
          ih (n + 1) hnext (by omega) (by omega)
        refine ⟨o', l', m', parts', label', ?_, hwritten', by omega, ?_⟩
        · rw [if_pos hdot, Proc.run_bind_of_some hrun, hrest]
        · have hid : (rest.splitOn 46).modifyHead ([] ++ ·) = rest.splitOn 46 := by
            simp only [List.nil_append]
            exact congrFun List.modifyHead_id _
          rw [hwire, hid, if_pos (by simp [hdot]), List.modifyHead_cons, List.append_nil,
            List.append_assoc, ← wire_append]
          rfl
      · obtain ⟨m₁, hrun, hnext⟩ := hwritten.push hb (by omega) (by omega) c
        have hl₁ : (l + 1).toNat = l.toNat + 1 := by
          rw [UInt8.toNat_add]
          exact Nat.mod_eq_of_lt (by simp; omega)
        obtain ⟨o', l', m', parts', label', hrest, hwritten', hlast, hwire⟩ :=
          ih (n + 1) hnext (by omega) (by omega)
        refine ⟨o', l', m', parts', label', ?_, hwritten', by omega, ?_⟩
        · rw [if_neg hdot, Proc.run_bind_of_some hrun, hrest]
        · rw [hwire, if_neg (by simp [hdot]), List.modifyHead_modifyHead]
          simp only [Function.comp_def, List.append_assoc, List.singleton_append]

/-- A request, given room: its header, every part of the name between dots behind its length,
the root, the type and the class. -/
theorem writeRequest_run {domainName : Bytes} (hlength : domainName.length ≤ 255)
    (hin : domainName.length + 18 ≤ b.size.toNat) (id : UInt16) (m : Memory) :
    ∃ m', (writeRequest b domainName id).run m =
        (some (UInt16.ofNat (domainName.length + 18)), m') ∧
      Region.read m' b.root b.base (domainName.length + 18) =
        DnsHeader.bytes ⟨id, 0x0100, 1, 0, 0, 0⟩ ++
          (wire (domainName.splitOn 46) ++ 0 :: [0, 1, 0, 1]) := by
  have hword : ∀ d : UInt16, (bytesOf16 (HTONS d)).length = 2 := fun _ => rfl
  -- the header
  obtain ⟨m₁, hrun₁, hread₁⟩ := write_snoc hb (m := m) (k := 0) 0
    (bytesOf16 (HTONS id)) rfl (by rw [hword]; omega)
  obtain ⟨m₂, hrun₂, hread₂⟩ := write_snoc hb (m := m₁) (k := 2) 2
    (bytesOf16 (HTONS 0x0100)) rfl (by rw [hword]; omega)
  obtain ⟨m₃, hrun₃, hread₃⟩ := write_snoc hb (m := m₂) (k := 4) 4
    (bytesOf16 (HTONS 1)) rfl (by rw [hword]; omega)
  obtain ⟨m₄, hrun₄, hread₄⟩ := write_snoc hb (m := m₃) (k := 6) 6
    (bytesOf16 (HTONS 0)) rfl (by rw [hword]; omega)
  obtain ⟨m₅, hrun₅, hread₅⟩ := write_snoc hb (m := m₄) (k := 8) 8
    (bytesOf16 (HTONS 0)) rfl (by rw [hword]; omega)
  obtain ⟨m₆, hrun₆, hread₆⟩ := write_snoc hb (m := m₅) (k := 10) 10
    (bytesOf16 (HTONS 0)) rfl (by rw [hword]; omega)
  rw [hword] at hread₁ hread₂ hread₃ hread₄ hread₅ hread₆
  have hheader : Region.read m₆ b.root b.base 12 =
      DnsHeader.bytes ⟨id, 0x0100, 1, 0, 0, 0⟩ := by
    rw [hread₆, hread₅, hread₄, hread₃, hread₂, hread₁]
    rfl
  -- the name
  have hstart : DNS_HEADER_LENGTH.toNat = 12 := rfl
  have hzero : (0 : UInt8).toNat = 0 := rfl
  have hnone : Written b DNS_HEADER_LENGTH 0 (DnsHeader.bytes ⟨id, 0x0100, 1, 0, 0, 0⟩) [] m₆ :=
    ⟨hheader, rfl⟩
  obtain ⟨o, l, m₇, parts, label, hrun₇, hwritten, hlast, hwire⟩ :=
    writeHosts_run hb domainName DNS_HEADER_LENGTH hnone (by omega) (by omega)
  have hid : (domainName.splitOn 46).modifyHead ([] ++ ·) = domainName.splitOn 46 := by
    simp only [List.nil_append]
    exact congrFun List.modifyHead_id _
  rw [hid] at hwire
  rw [hstart, hzero] at hlast
  -- the root, the type and the class
  have hsize := b.size.toNat_lt
  have hbehind := toNat_behind (o := o) (l := l) (by omega)
  obtain ⟨m₈, hrun₈, hread₈⟩ := hwritten.complete hb (by omega)
  obtain ⟨m₉, hrun₉, hread₉⟩ := write_snoc hb (m := m₈) _ [0] hbehind (by simp; omega)
  have htype : (o + 1 + l.toUInt16 + 1).toNat = o.toNat + 1 + l.toNat + [(0 : UInt8)].length := by
    rw [UInt16.toNat_add, hbehind]
    exact Nat.mod_eq_of_lt (by simp; omega)
  obtain ⟨m₁₀, hrun₁₀, hread₁₀⟩ := write_snoc hb (m := m₉) _ (bytesOf16 (HTONS 1)) htype
    (by rw [hword]; simp; omega)
  have hclass : (o + 1 + l.toUInt16 + 1 + 2).toNat =
      o.toNat + 1 + l.toNat + [(0 : UInt8)].length + (bytesOf16 (HTONS 1)).length := by
    rw [UInt16.toNat_add, htype, hword]
    exact Nat.mod_eq_of_lt (by simp; omega)
  obtain ⟨m₁₁, hrun₁₁, hread₁₁⟩ := write_snoc hb (m := m₁₀) _ (bytesOf16 (HTONS 1)) hclass
    (by rw [hword]; simp; omega)
  refine ⟨m₁₁, ?_, ?_⟩
  · have hresult : DNS_HEADER_LENGTH + UInt16.ofNat domainName.length + 2 + 4 =
        UInt16.ofNat (domainName.length + 18) := by
      have htwo : (2 : UInt16).toNat = 2 := rfl
      have hfour : (4 : UInt16).toNat = 4 := rfl
      apply UInt16.toNat_inj.mp
      simp only [UInt16.toNat_add, hstart, htwo, hfour, UInt16.toNat_ofNat']
      omega
    unfold writeRequest
    simp only [Buffer.writeNet16, Buffer.write16]
    rw [Proc.run_bind_of_some hrun₁, Proc.run_bind_of_some hrun₂, Proc.run_bind_of_some hrun₃,
      Proc.run_bind_of_some hrun₄, Proc.run_bind_of_some hrun₅, Proc.run_bind_of_some hrun₆,
      Proc.run_bind_of_some hrun₇]
    dsimp only
    rw [Proc.run_bind_of_some hrun₈, Buffer.write8, Proc.run_bind_of_some hrun₉,
      Proc.run_bind_of_some hrun₁₀, Proc.run_bind_of_some hrun₁₁, hresult]
    rfl
  · have htotal : o.toNat + 1 + l.toNat + [(0 : UInt8)].length + (bytesOf16 (HTONS 1)).length +
        (bytesOf16 (HTONS 1)).length = domainName.length + 18 := by
      rw [hword, List.length_singleton]
      omega
    rw [htotal, hread₁₀, hread₉, hread₈, hwire] at hread₁₁
    rw [hread₁₁]
    simp only [List.append_assoc]
    rfl

end Write

/-! ### The question -/

/-- With labels that are all of a length they may have, the question is well formed; if the last
is empty, there is one zero too many, and otherwise the reader refuses the label that is not. -/
theorem question_iff (domainName : Bytes) (header : DnsHeader) :
    Question domainName (header.bytes ++ (wire (domainName.splitOn 46) ++ 0 :: [0, 1, 0, 1])) ↔
      ∀ label ∈ domainName.splitOn 46, LabelLength label := by
  constructor
  · intro h
    obtain ⟨hwire, hlabels⟩ := readName_eq_some.mp h.labels
    rw [List.drop_left' header.length_bytes, labelsOf] at hwire
    rw [labelsOf] at hlabels
    by_cases hlast : (domainName.splitOn 46).getLast? = some []
    · exfalso
      rw [if_pos hlast] at hwire
      obtain ⟨front, hfront⟩ := List.getLast?_eq_some_iff.mp hlast
      rw [hfront, List.dropLast_concat, wire_append] at hwire
      have hlength := congrArg List.length hwire
      simp only [List.length_append, List.length_cons, wire_cons, wire_nil] at hlength
      omega
    · rwa [if_neg hlast] at hlabels
  · intro h
    have hlast : (domainName.splitOn 46).getLast? ≠ some [] := by
      intro hlast
      have hempty := (h [] (List.mem_of_getLast? hlast)).1
      exact absurd hempty (by simp)
    constructor
    · rw [List.drop_left' header.length_bytes, labelsOf, if_neg hlast]
      exact readName_wire h _
    · intro packet hpacket
      have hlies := packet.lies
      have hquestion : Questions 1 (wire (domainName.splitOn 46) ++ 0 :: [0, 1, 0, 1]) := by
        have hone := @Questions.question 0 _ [0, 1, 0, 1] [] (name_wire h) rfl .none
        rwa [List.append_assoc] at hone
      rw [hpacket] at hlies
      have hskip := hlies.skip (k := DNS_HEADER_LENGTH) header.length_bytes
      rw [← List.append_nil (wire _ ++ _)] at hskip
      rw [UInt16.zero_add] at hskip
      rw [skipQuestions_of_lies hquestion hskip, Buffer.lengthOf,
        @List.length_append UInt8 header.bytes, header.length_bytes, UInt16.ofNat_add]
      rfl

/-- A request that is sent is well formed just if no part of its name between dots is empty or
longer than 63 bytes. -/
theorem sendDNSRequest_question {domainName : Bytes} {id : UInt16} {dnsServer : IPAddr}
    {h : Stack} (hsucceeds : (sendDNSRequest domainName id dnsServer).succeeds h) :
    ∃ length m', (writeRequest h.udpPayload domainName id).run h.mem = (some length, m') ∧
      (sendDNSRequest domainName id dnsServer).run h =
        (some (), (UDPHandler.sendDatagram dnsServer 53 53 length).exec { h with mem := m' }) ∧
      length.toNat = domainName.length + 18 ∧ length ≤ h.udpPayload.size ∧
      (Question domainName (Region.read m' h.udpPayload.root h.udpPayload.base length.toNat) ↔
        ∀ label ∈ domainName.splitOn 46, 1 ≤ label.length ∧ label.length ≤ 63) := by
  obtain ⟨hlong, hin⟩ := (sendDNSRequest_succeeds domainName id dnsServer h).mp hsucceeds
  obtain ⟨m', hrun, hread⟩ := writeRequest_run h.fits_udpPayload hlong hin id h.mem
  have hlength : (UInt16.ofNat (domainName.length + 18)).toNat = domainName.length + 18 :=
    UInt16.toNat_ofNat_of_lt' (by simp [UInt16.size]; omega)
  refine ⟨_, m', hrun, ?_, hlength, ?_, ?_⟩
  · have hzoom : (Stack.onMem (writeRequest h.udpPayload domainName id)).run h =
        (some (UInt16.ofNat (domainName.length + 18)), { h with mem := m' }) := by
      rw [Stack.onMem, Proc.run_zoom, hrun]
    have hroom : ¬ h.udpPayload.size < DNS_HEADER_LENGTH := by
      rw [UInt16.lt_iff_toNat_lt, show DNS_HEADER_LENGTH.toNat = 12 from rfl]
      omega
    unfold sendDNSRequest
    rw [Proc.run_read_bind, if_neg (by omega), if_neg hroom, Proc.run_bind_of_some hzoom]
    rfl
  · rw [UInt16.le_iff_toNat_le, hlength]
    exact hin
  · rw [hlength, hread]
    exact question_iff domainName _

/-- The request for "a" is well formed. -/
theorem sendDNSRequest_question_example :
    ∃ length m', (writeRequest exampleService.stack.udpPayload [97] 1).run
        exampleService.stack.mem = (some length, m') ∧
      Question [97] (Region.read m' exampleService.stack.udpPayload.root
        exampleService.stack.udpPayload.base length.toNat) := by
  have hfits : RequestFits [97] exampleService.stack := by decide +kernel
  have hsucceeds : (sendDNSRequest [97] 1 ⟨10, 0, 0, 2⟩).succeeds exampleService.stack :=
    (sendDNSRequest_succeeds _ _ _ _).mpr hfits
  obtain ⟨length, m', hrun, -, -, -, hquestion⟩ := sendDNSRequest_question hsucceeds
  exact ⟨length, m', hrun, hquestion.mpr (by decide)⟩

/-- The request for "a." ends with a zero too many: what is read behind its name is not the type
and the class. -/
theorem trailingDot_malformed :
    (sendDNSRequest [97, 46] 1 ⟨10, 0, 0, 2⟩).succeeds exampleService.stack ∧
    ∃ m', (writeRequest exampleService.stack.udpPayload [97, 46] 1).run
        exampleService.stack.mem = (some 20, m') ∧
      Region.read m' exampleService.stack.udpPayload.root exampleService.stack.udpPayload.base 20 =
        [0, 1, 1, 0, 0, 1, 0, 0, 0, 0, 0, 0, 1, 97, 0, 0, 0, 1, 0, 1] ∧
      ¬ Question [97, 46] [0, 1, 1, 0, 0, 1, 0, 0, 0, 0, 0, 0, 1, 97, 0, 0, 0, 1, 0, 1] := by
  have hfits : RequestFits [97, 46] exampleService.stack := by decide +kernel
  obtain ⟨m', hrun, hread⟩ := writeRequest_run exampleService.stack.fits_udpPayload hfits.1
    hfits.2 1 exampleService.stack.mem
  refine ⟨(sendDNSRequest_succeeds _ _ _ _).mpr hfits, m', hrun, hread, fun hquestion => ?_⟩
  obtain ⟨hwire, -⟩ := readName_eq_some.mp hquestion.labels
  exact absurd hwire (by decide)

end DNSHandler

end AtmegaNet
