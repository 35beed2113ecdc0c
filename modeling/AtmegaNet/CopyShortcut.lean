import AtmegaNet.Access

/-!
# The shortcut of `OffsetBuffer::copyTo`

`OffsetBuffer::copyTo` checks the bounds of the views and then hands the copy over to the root
buffers, at offsets that are sums. A length of 0 stands for all there is, which the two
functions, and again the call on the roots, understand each in its own way.

## Main results

* `copyToBase_run`, `copyTo_run`: the verdict of the plain copy and of the shortcut; what is
  copied is the same run of bytes (`carry`), as far as each goes.
* `copyTo_agrees_iff`: when the two agree: always for a given length, and for a length of 0
  unless the destination is the smaller one, or the source view is empty.
-/

open Procedure

namespace AtmegaNet
namespace Buffer

/-! ### What is copied -/

/-- Bytes copied one after the other, `n` of them. -/
def carry (r : Root) (a : ℕ) (r' : Root) (a' : ℕ) : ℕ → Memory → Memory
  | 0, m => m
  | n + 1, m => Region.write (carry r a r' a' n m) r' (a' + n) [carry r a r' a' n m r (a + n)]

/-- A copy onto itself changes nothing. -/
theorem carry_self (r : Root) (a n : ℕ) (m : Memory) : carry r a r a n m = m := by
  induction n with
  | zero => rfl
  | succ n ih =>
    rw [carry, ih]
    funext r' i
    by_cases hcell : r' = r ∧ i = a + n
    · obtain ⟨rfl, rfl⟩ := hcell
      exact Region.write_of_getElem? (i := 0) m r' (a + n) rfl
    · by_cases hr : r' = r
      · subst hr
        refine Region.write_out m r' (a + n) ?_
        have : i ≠ a + n := fun h => hcell ⟨rfl, h⟩
        rw [List.length_singleton]
        omega
      · exact Region.write_region m hr (a + n) _ i

/-- The first byte of a copy stays as it was copied. -/
theorem carry_first (r : Root) (a : ℕ) (r' : Root) (a' n : ℕ) (m : Memory) :
    carry r a r' a' (n + 1) m r' a' = m r a := by
  induction n with
  | zero => exact Region.write_of_getElem? (i := 0) m r' a' rfl
  | succ n ih =>
    rw [carry, Region.write_out _ r' _ (.inl (by omega)), ih]

/-- A copy to another place changes some memory. -/
theorem exists_carry_ne {r r' : Root} {a a' n : ℕ} (hn : n ≠ 0) (hne : ¬ (r = r' ∧ a = a')) :
    ∃ m, carry r a r' a' n m ≠ m := by
  obtain ⟨n, rfl⟩ := Nat.exists_eq_succ_of_ne_zero hn
  refine ⟨fun s i => if s = r ∧ i = a then 1 else 0, fun h => ?_⟩
  have hfirst := carry_first r a r' a' n fun s i => if s = r ∧ i = a then 1 else 0
  have hother : ¬ (r' = r ∧ a' = a) := fun h => hne ⟨h.1.symm, h.2.symm⟩
  rw [h] at hfirst
  dsimp only at hfirst
  rw [if_neg hother, if_pos ⟨rfl, rfl⟩] at hfirst
  exact absurd hfirst (by decide)

/-! ### The plain copy -/

section Copy

variable {source destination : Buffer} {dest_start src_start len : UInt16}

/-- The loop of the plain copy. -/
theorem copyBytes_run (hs : source.Fits) (hd : destination.Fits) {n : ℕ}
    (hsrc : src_start.toNat + n ≤ source.size.toNat)
    (hdst : dest_start.toNat + n ≤ destination.size.toNat) (m : Memory) :
    (source.copyBytes destination dest_start src_start n).run m =
      (some (), carry source.root (source.base + src_start.toNat) destination.root
        (destination.base + dest_start.toNat) n m) := by
  have hs16 := source.size.toNat_lt
  have hd16 := destination.size.toNat_lt
  induction n with
  | zero => rfl
  | succ n ih =>
    have hsn := toNat_add_ofNat (a := src_start) (n := n) (by omega)
    have hdn := toNat_add_ofNat (a := dest_start) (n := n) (by omega)
    have hread := fun m' => (shows hs m').read8 (i := src_start + UInt16.ofNat n)
      (by rw [hsn]; omega)
    rw [copyBytes, Proc.run_bind_of_some (ih (by omega) (by omega)),
      Proc.run_bind_of_some ((Proc.run_query _ _).trans (by rw [hread])), write8,
      write_fits hd _ (by rw [hdn, List.length_singleton]; omega), hsn, hdn, carry,
      Nat.add_assoc, Nat.add_assoc]

/-- The length of the plain copy. -/
def plainLength (source destination : Buffer) (len : UInt16) : ℕ :=
  if len = 0 then min source.size.toNat destination.size.toNat else len.toNat

/-- The checks of the plain copy. -/
def PlainPasses (source destination : Buffer) (dest_start src_start len : UInt16) : Prop :=
  src_start.toNat + plainLength source destination len ≤ source.size.toNat ∧
    dest_start.toNat + plainLength source destination len ≤ destination.size.toNat

instance : Decidable (PlainPasses source destination dest_start src_start len) :=
  inferInstanceAs (Decidable (_ ∧ _))

/-- The verdict of the plain copy, and what it copies. -/
theorem copyToBase_run (hs : source.Fits) (hd : destination.Fits)
    (hsrc : src_start.toNat + plainLength source destination len < 65536)
    (hdst : dest_start.toNat + plainLength source destination len < 65536) (m : Memory) :
    (source.copyToBase destination dest_start src_start len).run m =
      if PlainPasses source destination dest_start src_start len then
        (some (), carry source.root (source.base + src_start.toNat) destination.root
          (destination.base + dest_start.toNat) (plainLength source destination len) m)
      else (none, m) := by
  have hlength : (if len = 0 then
      if destination.size < source.size then destination.size else source.size
      else len).toNat = plainLength source destination len := by
    unfold plainLength
    by_cases hzero : len = 0
    · rw [if_pos hzero, if_pos hzero]
      split
      case isTrue hlt =>
        exact (Nat.min_eq_right (Nat.le_of_lt (UInt16.lt_iff_toNat_lt.mp hlt))).symm
      case isFalse hge =>
        exact (Nat.min_eq_left (UInt16.le_iff_toNat_le.mp (UInt16.not_lt.mp hge))).symm
    · rw [if_neg hzero, if_neg hzero]
  unfold copyToBase
  dsimp only
  generalize (if len = 0 then
    if destination.size < source.size then destination.size else source.size else len) = l
    at hlength ⊢
  have hpasses : PlainPasses source destination dest_start src_start len ↔
      src_start.toNat + l.toNat ≤ source.size.toNat ∧
        dest_start.toNat + l.toNat ≤ destination.size.toNat := by
    unfold PlainPasses
    rw [hlength]
  rw [← hlength] at hsrc hdst ⊢
  by_cases hin : src_start.toNat + l.toNat ≤ source.size.toNat
  · rw [if_neg (by rw [bounds_iff hsrc]; omega)]
    by_cases hfits : dest_start.toNat + l.toNat ≤ destination.size.toNat
    · rw [if_neg (by rw [bounds_iff hdst]; omega), if_pos (hpasses.mpr ⟨hin, hfits⟩)]
      exact copyBytes_run hs hd hin hfits m
    · rw [if_pos (by rw [bounds_iff hdst]; omega), if_neg fun h => hfits (hpasses.mp h).2]
      rfl
  · rw [if_pos (by rw [bounds_iff hsrc]; omega), if_neg fun h => hin (hpasses.mp h).1]
    rfl

/-! ### The shortcut -/

/-- The length with which the shortcut checks the views. -/
def viewLength (source : Buffer) (len : UInt16) : ℕ :=
  if len = 0 then source.size.toNat else len.toNat

/-- The length with which the shortcut copies between the root buffers. -/
def rootLength (source destination : Buffer) (len : UInt16) : ℕ :=
  if viewLength source len = 0 then min source.rootSize.toNat destination.rootSize.toNat
  else viewLength source len

/-- None of the sums of starts and lengths that the two functions form wraps around. -/
structure NoWrap (source destination : Buffer) (dest_start src_start len : UInt16) : Prop where
  src : src_start.toNat + viewLength source len < 65536
  dst : dest_start.toNat + viewLength source len < 65536
  rootSrc : viewLength source len = 0 →
    source.base + src_start.toNat + rootLength source destination len < 65536
  rootDst : viewLength source len = 0 →
    destination.base + dest_start.toNat + rootLength source destination len < 65536

/-- The checks of the shortcut, those on the roots included. -/
def Passes (source destination : Buffer) (dest_start src_start len : UInt16) : Prop :=
  src_start.toNat + viewLength source len ≤ source.size.toNat ∧
    (destination.getBufferType = 2 →
      dest_start.toNat + viewLength source len ≤ destination.size.toNat) ∧
    source.base + src_start.toNat + rootLength source destination len ≤ source.rootSize.toNat ∧
    destination.base + dest_start.toNat + rootLength source destination len ≤
      destination.rootSize.toNat

instance : Decidable (Passes source destination dest_start src_start len) :=
  inferInstanceAs (Decidable (_ ∧ _))

theorem toNat_viewLength (source : Buffer) (len : UInt16) :
    (if len = 0 then source.size else len).toNat = viewLength source len := by
  unfold viewLength
  split <;> rfl

/-- The copy between the roots. -/
theorem copyRoots_run (hs : source.Fits) (hd : destination.Fits)
    (hwrap : NoWrap source destination dest_start src_start len)
    (hsrc : src_start.toNat + viewLength source len ≤ source.size.toNat)
    (hdst : destination.getBufferType = 2 →
      dest_start.toNat + viewLength source len ≤ destination.size.toNat) (m : Memory) :
    (source.getRootBuffer.copyToBase destination.getRootBuffer
        (dest_start + destination.getRootBufferOffset)
        (src_start + source.getRootBufferOffset) (if len = 0 then source.size else len)).run m =
      if Passes source destination dest_start src_start len then
        (some (), carry source.root (source.base + src_start.toNat) destination.root
          (destination.base + dest_start.toNat) (rootLength source destination len) m)
      else (none, m) := by
  have hsroot := base_add_size_le hs
  have hdroot := base_add_size_le hd
  have hs16 := source.rootSize.toNat_lt
  have hd16 := destination.rootSize.toNat_lt
  -- the destination is its own root, or its bounds have been checked
  have hdest : destination.base = 0 ∨ destination.getBufferType = 2 := by
    cases destination with
    | memBuffer => exact .inl rfl
    | offsetBuffer => exact .inr rfl
  have hdin : destination.base + dest_start.toNat < 65536 := by
    rcases hdest with hzero | htype
    · have := dest_start.toNat_lt
      omega
    · have := hdst htype
      omega
  have hsrcOff : (src_start + source.getRootBufferOffset).toNat =
      source.base + src_start.toNat := by
    rw [UInt16.toNat_add, toNat_getRootBufferOffset hs, Nat.add_comm]
    exact Nat.mod_eq_of_lt (by omega)
  have hdstOff : (dest_start + destination.getRootBufferOffset).toNat =
      destination.base + dest_start.toNat := by
    rw [UInt16.toNat_add, toNat_getRootBufferOffset hd, Nat.add_comm]
    exact Nat.mod_eq_of_lt hdin
  have hlength : plainLength source.getRootBuffer destination.getRootBuffer
      (if len = 0 then source.size else len) = rootLength source destination len := by
    have hzero : ((if len = 0 then source.size else len) = 0) = (viewLength source len = 0) := by
      rw [← toNat_viewLength]
      exact propext UInt16.toNat_inj.symm
    unfold plainLength rootLength
    simp only [hzero, size_root, toNat_viewLength]
  have hrootLength : viewLength source len ≠ 0 →
      rootLength source destination len = viewLength source len := fun h => if_neg h
  have hsum : source.base + src_start.toNat + rootLength source destination len < 65536 := by
    by_cases hzero : viewLength source len = 0
    · exact hwrap.rootSrc hzero
    · rw [hrootLength hzero]
      omega
  have hdsum : destination.base + dest_start.toNat + rootLength source destination len <
      65536 := by
    by_cases hzero : viewLength source len = 0
    · exact hwrap.rootDst hzero
    · rw [hrootLength hzero]
      rcases hdest with hroot | htype
      · have := hwrap.dst
        omega
      · have := hdst htype
        omega
  have hpasses : Passes source destination dest_start src_start len ↔
      PlainPasses source.getRootBuffer destination.getRootBuffer
        (dest_start + destination.getRootBufferOffset)
        (src_start + source.getRootBufferOffset) (if len = 0 then source.size else len) := by
    unfold PlainPasses
    rw [hsrcOff, hdstOff, hlength, size_root, size_root]
    exact ⟨fun h => h.2.2, fun h => ⟨hsrc, hdst, h⟩⟩
  rw [copyToBase_run (by rw [getRootBuffer_eq]; trivial) (by rw [getRootBuffer_eq]; trivial)
    (by rwa [hsrcOff, hlength]) (by rwa [hdstOff, hlength]), if_congr hpasses.symm rfl rfl,
    hsrcOff, hdstOff, hlength, getRootBuffer_eq, getRootBuffer_eq]
  simp only [root, base, Nat.zero_add]

/-- The verdict of the shortcut, and what it copies. -/
theorem copyTo_run (hoffset : source.getBufferType = 2) (hs : source.Fits) (hd : destination.Fits)
    (hwrap : NoWrap source destination dest_start src_start len) (m : Memory) :
    (source.copyTo destination dest_start src_start len).run m =
      if Passes source destination dest_start src_start len then
        (some (), carry source.root (source.base + src_start.toNat) destination.root
          (destination.base + dest_start.toNat) (rootLength source destination len) m)
      else (none, m) := by
  obtain ⟨n, off, inner, rfl⟩ : ∃ n off inner, source = offsetBuffer n off inner := by
    cases source with
    | memBuffer => exact absurd (show (1 : UInt8) = 2 from hoffset) (by decide)
    | offsetBuffer n off inner => exact ⟨n, off, inner, rfl⟩
  have hroots := fun hsrc hdst => copyRoots_run hs hd hwrap hsrc hdst m
  have hlength : (if len = 0 then n else len).toNat = _ :=
    toNat_viewLength (offsetBuffer n off inner) len
  unfold copyTo
  dsimp only at hroots ⊢
  rw [size_offsetBuffer] at hroots ⊢
  generalize (if len = 0 then n else len) = l at hlength hroots ⊢
  have hsrc : l + src_start > n ↔
      ¬ src_start.toNat + viewLength (offsetBuffer n off inner) len ≤ n.toNat := by
    rw [UInt16.add_comm, bounds_iff (by rw [hlength]; exact hwrap.src), hlength]
    exact Nat.not_le.symm
  have hdst : l + dest_start > destination.size ↔
      ¬ dest_start.toNat + viewLength (offsetBuffer n off inner) len ≤ destination.size.toNat := by
    rw [UInt16.add_comm, bounds_iff (by rw [hlength]; exact hwrap.dst), hlength]
    exact Nat.not_le.symm
  by_cases hin : src_start.toNat + viewLength (offsetBuffer n off inner) len ≤ n.toNat
  · rw [if_neg (by rw [hsrc]; exact not_not_intro hin)]
    cases destination with
    | memBuffer r k =>
      rw [if_neg (by simp [getBufferType])]
      have hmem := hroots hin fun h => absurd (show (1 : UInt8) = 2 from h) (by decide)
      have hstart : dest_start + (memBuffer r k).getRootBufferOffset = dest_start :=
        UInt16.add_zero _
      rwa [hstart] at hmem
    | offsetBuffer k off' inner' =>
      have htype : (offsetBuffer k off' inner').getBufferType =
          (offsetBuffer n off inner).getBufferType := rfl
      rw [if_pos htype]
      by_cases hfits : dest_start.toNat + viewLength (offsetBuffer n off inner) len ≤ k.toNat
      · rw [if_neg (by rw [hdst]; exact not_not_intro hfits)]
        exact hroots hin fun _ => hfits
      · rw [if_pos (hdst.mpr hfits), if_neg fun h => hfits (h.2.1 rfl)]
        rfl
  · rw [if_pos (hsrc.mpr hin), if_neg fun h => hin h.1]
    rfl

/-! ### When they agree -/

/-- The shortcut returns the same result and leaves the same memory as the plain copy. -/
def Agrees (source destination : Buffer) (dest_start src_start len : UInt16) : Prop :=
  ∀ m, (source.copyTo destination dest_start src_start len).run m =
    (source.copyToBase destination dest_start src_start len).run m

/-- A destination that is its own root, or one whose bounds are checked. -/
theorem destination_cases (destination : Buffer) :
    destination.getBufferType ≠ 2 ∧ destination.base = 0 ∧
      destination.rootSize = destination.size ∨ destination.getBufferType = 2 := by
  cases destination with
  | memBuffer => exact .inl ⟨fun h => absurd (show (1 : UInt8) = 2 from h) (by decide), rfl, rfl⟩
  | offsetBuffer => exact .inr rfl

/-- What the shortcut lets pass, the plain copy lets pass. -/
theorem Passes.plain (h : Passes source destination dest_start src_start len) :
    PlainPasses source destination dest_start src_start len := by
  obtain ⟨hsrc, hdst, hroot, hdroot⟩ := h
  have hdest : dest_start.toNat + viewLength source len ≤ destination.size.toNat := by
    rcases destination_cases destination with ⟨-, hbase, hsize⟩ | htype
    · rw [hbase, hsize] at hdroot
      have hle : viewLength source len ≤ rootLength source destination len := by
        unfold rootLength
        split <;> omega
      omega
    · exact hdst htype
  have hle : plainLength source destination len ≤ viewLength source len := by
    unfold plainLength viewLength
    split <;> omega
  exact ⟨by omega, by omega⟩

theorem agrees_iff (hoffset : source.getBufferType = 2) (hs : source.Fits)
    (hd : destination.Fits) (hwrap : NoWrap source destination dest_start src_start len) :
    Agrees source destination dest_start src_start len ↔
      (PlainPasses source destination dest_start src_start len →
        Passes source destination dest_start src_start len ∧
        ∀ m, carry source.root (source.base + src_start.toNat) destination.root
            (destination.base + dest_start.toNat) (rootLength source destination len) m =
          carry source.root (source.base + src_start.toNat) destination.root
            (destination.base + dest_start.toNat) (plainLength source destination len) m) := by
  have hle : plainLength source destination len ≤ viewLength source len := by
    unfold plainLength viewLength
    split <;> omega
  have hsrc := hwrap.src
  have hdst := hwrap.dst
  have hsrcPlain : src_start.toNat + plainLength source destination len < 65536 := by omega
  have hdstPlain : dest_start.toNat + plainLength source destination len < 65536 := by omega
  have hplain := copyToBase_run hs hd hsrcPlain hdstPlain
  have hshortcut := fun m => copyTo_run hoffset hs hd hwrap m
  constructor
  · intro h hpass
    have hpasses : Passes source destination dest_start src_start len := by
      by_contra hrefused
      have heq := h fun _ _ => 0
      rw [hshortcut, hplain, if_neg hrefused, if_pos hpass] at heq
      exact absurd (congrArg Prod.fst heq) (by simp)
    refine ⟨hpasses, fun m => ?_⟩
    have heq := h m
    rw [hshortcut, hplain, if_pos hpasses, if_pos hpass] at heq
    exact congrArg Prod.snd heq
  · intro h m
    rw [hshortcut, hplain]
    by_cases hpass : PlainPasses source destination dest_start src_start len
    · obtain ⟨hpasses, hcarry⟩ := h hpass
      rw [if_pos hpasses, if_pos hpass, hcarry]
    · rw [if_neg (mt Passes.plain hpass), if_neg hpass]

/-- The calls on which the shortcut agrees with the plain copy: a length is given; or the source
view is not empty, and the destination is not the shorter one with room for the copy; or the
source view is empty, and a start is out of bounds, a storage area is empty too, or both are the
start of one storage area. -/
def Agreeing (source destination : Buffer) (dest_start src_start len : UInt16) : Prop :=
  len ≠ 0 ∨
  source.size ≠ 0 ∧ ¬ (destination.size < source.size ∧ dest_start = 0 ∧
    src_start.toNat + destination.size.toNat ≤ source.size.toNat) ∨
  source.size = 0 ∧ (src_start ≠ 0 ∨ destination.size < dest_start ∨
    source.rootSize = 0 ∨ destination.rootSize = 0 ∨
    source.root = destination.root ∧ source.base = 0 ∧
      destination.base + dest_start.toNat = 0)

/-- Where a length is given, the two always agree. -/
theorem agrees_of_length (hs : source.Fits) (hd : destination.Fits) (hlen : len ≠ 0)
    (hpass : PlainPasses source destination dest_start src_start len) :
    Passes source destination dest_start src_start len ∧
      rootLength source destination len = plainLength source destination len := by
  have hsroot := base_add_size_le hs
  have hdroot := base_add_size_le hd
  have hview : viewLength source len = len.toNat := if_neg hlen
  have hplain : plainLength source destination len = len.toNat := if_neg hlen
  have hroot : rootLength source destination len = len.toNat := by
    have hpos : len.toNat ≠ 0 := fun h => hlen (UInt16.toNat_inj.mp h)
    rw [rootLength, hview, if_neg hpos]
  obtain ⟨hsrc, hdst⟩ := hpass
  rw [hplain] at hsrc hdst
  refine ⟨⟨?_, fun _ => ?_, ?_, ?_⟩, by rw [hroot, hplain]⟩
  · rwa [hview]
  · rwa [hview]
  · rw [hroot]
    omega
  · rw [hroot]
    omega

/-- For a length of 0 and a view that is not empty, the shortcut wants to copy all of the view,
and the plain copy what the destination has room for. -/
theorem passes_of_all (hs : source.Fits) (hd : destination.Fits) (hpos : source.size.toNat ≠ 0) :
    Passes source destination dest_start src_start 0 ↔
      src_start.toNat = 0 ∧ dest_start.toNat + source.size.toNat ≤ destination.size.toNat := by
  have hsroot := base_add_size_le hs
  have hdroot := base_add_size_le hd
  have hview : viewLength source 0 = source.size.toNat := if_pos rfl
  have hroot : rootLength source destination 0 = source.size.toNat := by
    rw [rootLength, hview, if_neg hpos]
  unfold Passes
  rw [hview, hroot]
  rcases destination_cases destination with ⟨htype, hbase, hsize⟩ | htype
  · rw [hbase, hsize]
    simp only [htype, false_imp_iff, true_and]
    omega
  · simp only [htype, true_imp_iff]
    omega

/-- For a length of 0 and an empty view, the call on the roots copies all of a storage area. -/
theorem passes_of_empty (hd : destination.Fits) (hempty : source.size.toNat = 0) :
    Passes source destination dest_start src_start 0 ↔
      src_start.toNat = 0 ∧ dest_start.toNat ≤ destination.size.toNat ∧
        source.base + min source.rootSize.toNat destination.rootSize.toNat ≤
          source.rootSize.toNat ∧
        destination.base + dest_start.toNat +
          min source.rootSize.toNat destination.rootSize.toNat ≤ destination.rootSize.toNat := by
  have hdroot := base_add_size_le hd
  have hview : viewLength source 0 = 0 := hempty
  have hroot : rootLength source destination 0 =
      min source.rootSize.toNat destination.rootSize.toNat := if_pos hview
  unfold Passes
  rw [hview, hroot, hempty]
  rcases destination_cases destination with ⟨htype, hbase, hsize⟩ | htype
  · rw [hbase, hsize]
    simp only [htype, false_imp_iff, true_and]
    omega
  · simp only [htype, true_imp_iff]
    omega

/-- When the shortcut of `OffsetBuffer::copyTo` agrees with `Buffer::copyTo`. -/
theorem copyTo_agrees_iff (hoffset : source.getBufferType = 2) (hs : source.Fits)
    (hd : destination.Fits) (hwrap : NoWrap source destination dest_start src_start len) :
    Agrees source destination dest_start src_start len ↔
      Agreeing source destination dest_start src_start len := by
  rw [agrees_iff hoffset hs hd hwrap]
  by_cases hlen : len = 0
  · subst hlen
    have hsroot := base_add_size_le hs
    have hdroot := base_add_size_le hd
    have hplain : plainLength source destination 0 =
        min source.size.toNat destination.size.toNat := if_pos rfl
    unfold PlainPasses Agreeing
    rw [hplain]
    simp only [← UInt16.toNat_inj, ne_eq, UInt16.lt_iff_toNat_lt, UInt16.toNat_zero]
    by_cases hempty : source.size.toNat = 0
    · have hroot : rootLength source destination 0 =
          min source.rootSize.toNat destination.rootSize.toNat := if_pos hempty
      have hnone : min source.size.toNat destination.size.toNat = 0 := by omega
      rw [passes_of_empty hd hempty, hroot, hnone]
      constructor
      · intro h
        refine .inr (.inr ⟨hempty, ?_⟩)
        by_contra hother
        simp only [not_or, not_and, not_not] at hother
        obtain ⟨hstart, hin, hsome, hdsome, hplace⟩ := hother
        obtain ⟨⟨-, -, hfits, hdfits⟩, hcarry⟩ := h ⟨by omega, by omega⟩
        have hne : ¬ (source.root = destination.root ∧ source.base + src_start.toNat =
            destination.base + dest_start.toNat) := fun ⟨hsame, hat⟩ =>
          hplace hsame (by omega) (by omega)
        obtain ⟨m, hm⟩ := exists_carry_ne
          (n := min source.rootSize.toNat destination.rootSize.toNat) (by omega) hne
        exact hm (hcarry m)
      · intro h hpass
        have hcases : source.rootSize.toNat = 0 ∨ destination.rootSize.toNat = 0 ∨
            source.root = destination.root ∧ source.base = 0 ∧
              destination.base + dest_start.toNat = 0 := by
          rcases h with h | ⟨h, -⟩ | ⟨-, h | h | h⟩
          · exact absurd trivial h
          · exact absurd hempty h
          · omega
          · omega
          · exact h
        refine ⟨?_, fun m => ?_⟩
        · rcases hcases with h | h | ⟨-, h, h'⟩ <;> omega
        · rcases hcases with h | h | ⟨hsame, h, h'⟩
          · rw [h, Nat.zero_min]
          · rw [h, Nat.min_zero]
          · have hat : source.base + src_start.toNat = destination.base + dest_start.toNat := by
              omega
            rw [hsame, hat, carry_self]
            rfl
    · have hroot : rootLength source destination 0 = source.size.toNat := by
        have hview : viewLength source 0 = source.size.toNat := if_pos rfl
        rw [rootLength, hview, if_neg hempty]
      rw [passes_of_all hs hd hempty, hroot]
      constructor
      · intro h
        refine .inr (.inl ⟨hempty, fun hshort => ?_⟩)
        have hpass := (h ⟨by omega, by omega⟩).1
        omega
      · intro h hpass
        have hroom : ¬ (destination.size.toNat < source.size.toNat ∧ dest_start.toNat = 0 ∧
            src_start.toNat + destination.size.toNat ≤ source.size.toNat) := by
          rcases h with h | ⟨-, h⟩ | ⟨h, -⟩
          · exact absurd trivial h
          · exact h
          · exact absurd h hempty
        have hall : src_start.toNat = 0 ∧
            dest_start.toNat + source.size.toNat ≤ destination.size.toNat := by omega
        refine ⟨hall, fun m => ?_⟩
        rw [Nat.min_eq_left (by omega)]
  · refine iff_of_true (fun hpass => ?_) (.inl hlen)
    obtain ⟨hpasses, hlength⟩ := agrees_of_length hs hd hlen hpass
    exact ⟨hpasses, fun m => by rw [hlength]⟩

end Copy

/-- The rest, of no bytes, of a view of the first two bytes of eight. -/
def emptyView : Buffer := .offsetBuffer 0 2 (.offsetBuffer 2 0 (.memBuffer (.other 0) 8))

theorem noWrap_emptyView : NoWrap emptyView (.memBuffer (.other 1) 4) 0 0 0 :=
  ⟨by decide, by decide, fun _ => by decide, fun _ => by decide⟩

theorem copyTo_agrees_iff_emptyView :
    Agrees emptyView (.memBuffer (.other 1) 4) 0 0 0 ↔
      Agreeing emptyView (.memBuffer (.other 1) 4) 0 0 0 :=
  copyTo_agrees_iff rfl ⟨by decide, by decide, trivial⟩ trivial noWrap_emptyView

/-- Of an empty view, the shortcut copies the four bytes behind it. -/
theorem copyTo_copies_outside :
    NoWrap emptyView (.memBuffer (.other 1) 4) 0 0 0 ∧
      ((emptyView.copyTo (.memBuffer (.other 1) 4) 0 0 0).run
        fun r _ => if r = .other 0 then 7 else 0).2 (.other 1) 3 = 7 ∧
      ((emptyView.copyToBase (.memBuffer (.other 1) 4) 0 0 0).run
        fun r _ => if r = .other 0 then 7 else 0).2 (.other 1) 3 = 0 := by
  refine ⟨noWrap_emptyView, ?_, ?_⟩
  · decide +kernel
  · decide +kernel

end Buffer
end AtmegaNet
