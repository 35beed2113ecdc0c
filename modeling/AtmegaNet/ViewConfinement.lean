import AtmegaNet.Buffer
import AtmegaNet.Lib.Runs

/-!
# Confinement of views

Buffer objects refer to each other: a view holds the address of the buffer it looks into, and
`OffsetBuffer::reinit` points it elsewhere. As long as no view is initialised anew under another,
every object stands for a tower of windows that lie inside one another. An access to a view
is then confined to its window, unless the sum of its bounds, which is formed in 16 bits, wraps
around.

## Main results

* `BufferHeap.exists_denotes`: every object stands for a tower that fits.
* `BufferHeap.confined_iff`: an access is confined exactly if its bounds do not wrap around to
  a sum inside the view.
-/

open Procedure Runs

namespace AtmegaNet

/-- A buffer object: a `MemBuffer`, or an `OffsetBuffer` with the address of the buffer it looks
into. -/
inductive BufferObject
  | memBuffer (root : Root) (bufferLength : UInt16)
  | offsetBuffer (bufferLength offset : UInt16) (innerBuffer : ℕ)
  deriving DecidableEq, Repr

/-- The buffer objects by their addresses. -/
abbrev BufferHeap := List BufferObject

namespace BufferObject

/-- `size` -/
def size : BufferObject → UInt16
  | memBuffer _ bufferLength => bufferLength
  | offsetBuffer bufferLength _ _ => bufferLength

/-- A view looks into the buffer at an address. -/
def LooksInto (address : ℕ) : BufferObject → Prop
  | memBuffer _ _ => False
  | offsetBuffer _ _ innerBuffer => innerBuffer = address

/-- `OffsetBuffer::reinit`: the fields it sets, given the size of the buffer at `address`. -/
def reinit (address : ℕ) (size offset length : UInt16) : BufferObject :=
  let offset := if offset > size then size else offset
  let rest := size - offset
  if length > 0 ∧ length < rest then .offsetBuffer length offset address
  else .offsetBuffer rest offset address

end BufferObject

namespace BufferHeap

/-- The size of the buffer at an address. -/
def sizeAt (h : BufferHeap) (address : ℕ) : UInt16 := (h[address]?.map BufferObject.size).getD 0

/-- A call that makes a buffer or initialises a view. -/
inductive Call
  | memBuffer (root : Root) (bufferLength : UInt16)
  | offsetBuffer (address : ℕ) (offset length : UInt16)
  | reinit (view address : ℕ) (offset length : UInt16)

/-- What a call leaves. -/
def run : Call → BufferHeap → BufferHeap
  | .memBuffer root bufferLength, h => h ++ [.memBuffer root bufferLength]
  | .offsetBuffer address offset length, h =>
      h ++ [.reinit address (h.sizeAt address) offset length]
  | .reinit view address offset length, h =>
      h.set view (.reinit address (h.sizeAt address) offset length)

/-- A view is made over a buffer that exists, and it is not initialised anew while another is
stacked on it. -/
def Possible (h : BufferHeap) : Call → Prop
  | .memBuffer _ _ => True
  | .offsetBuffer address _ _ => address < h.length
  | .reinit view address _ _ =>
      view < h.length ∧ address < h.length ∧ address ≠ view ∧ ∀ o ∈ h, ¬ o.LooksInto view

/-- The tower an object stands for. -/
inductive Denotes (h : BufferHeap) : ℕ → Buffer → Prop
  | memBuffer {address : ℕ} {root : Root} {n : UInt16}
      (hget : h[address]? = some (.memBuffer root n)) : Denotes h address (.memBuffer root n)
  | offsetBuffer {address inner : ℕ} {n off : UInt16} {b : Buffer}
      (hget : h[address]? = some (.offsetBuffer n off inner)) (hinner : Denotes h inner b) :
      Denotes h address (.offsetBuffer n off b)

variable {h h' : BufferHeap} {address view : ℕ} {b : Buffer}

/-- A tower is as large as the object that stands for it. -/
theorem Denotes.size_eq (hb : Denotes h address b) : h.sizeAt address = b.size := by
  cases hb with
  | memBuffer hget => rw [sizeAt, hget]; rfl
  | offsetBuffer hget _ => rw [sizeAt, hget]; rfl

/-- Further objects do not change what an object stands for. -/
theorem Denotes.append (hb : Denotes h address b) (o : BufferObject) :
    Denotes (h ++ [o]) address b := by
  have hold : ∀ {a : ℕ} {o'}, h[a]? = some o' → (h ++ [o])[a]? = some o' := by
    intro a o' hget
    obtain ⟨hlt, -⟩ := List.getElem?_eq_some_iff.mp hget
    rwa [List.getElem?_append_left hlt]
  induction hb with
  | memBuffer hget => exact .memBuffer (hold hget)
  | offsetBuffer hget _ ih => exact .offsetBuffer (hold hget) ih

/-- Nor does a view on which none is stacked. -/
theorem Denotes.set (hb : Denotes h address b) (hne : address ≠ view)
    (hfree : ∀ o ∈ h, ¬ o.LooksInto view) (o : BufferObject) :
    Denotes (h.set view o) address b := by
  have hold : ∀ {a : ℕ} {o'}, a ≠ view → h[a]? = some o' → (h.set view o)[a]? = some o' := by
    intro a o' ha hget
    rwa [List.getElem?_set_ne ha.symm]
  induction hb with
  | memBuffer hget => exact .memBuffer (hold hne hget)
  | @offsetBuffer a inner n off b hget _ ih =>
      have hinner : inner ≠ view := fun heq => hfree _ (List.mem_of_getElem? hget) heq
      exact .offsetBuffer (hold hne hget) (ih hinner)

/-- A view that was just initialised stands for the window over its buffer. -/
theorem Denotes.reinit (hb : Denotes h address b) {offset length : UInt16}
    (hget : h[view]? = some (.reinit address b.size offset length)) :
    Denotes h view (OffsetBuffer.reinit b offset length) := by
  unfold BufferObject.reinit at hget
  unfold OffsetBuffer.reinit
  dsimp only at hget ⊢
  by_cases hlength : length > 0 ∧ length < b.size - if offset > b.size then b.size else offset
  · rw [if_pos hlength] at hget ⊢
    exact .offsetBuffer hget hb
  · rw [if_neg hlength] at hget ⊢
    exact .offsetBuffer hget hb

/-- An object stands for one tower only. -/
theorem Denotes.unique {b' : Buffer} (hb : Denotes h address b) (hb' : Denotes h address b') :
    b = b' := by
  induction hb generalizing b' with
  | memBuffer hget =>
      cases hb' with
      | memBuffer hget' =>
          cases hget.symm.trans hget'
          rfl
      | offsetBuffer hget' _ => cases hget.symm.trans hget'
  | offsetBuffer hget _ ih =>
      cases hb' with
      | memBuffer hget' => cases hget.symm.trans hget'
      | offsetBuffer hget' hinner' =>
          cases hget.symm.trans hget'
          rw [ih hinner']

/-- Every object stands for a tower that fits. -/
def Sound (h : BufferHeap) : Prop := ∀ address < h.length, ∃ b, Denotes h address b ∧ b.Fits

/-- A call keeps that. -/
theorem Sound.run (hsound : Sound h) {call : Call} (hcall : Possible h call) :
    Sound (BufferHeap.run call h) := by
  have happend : ∀ {o : BufferObject}, (∃ b, Denotes (h ++ [o]) h.length b ∧ b.Fits) →
      Sound (h ++ [o]) := by
    intro o hnew address hlt
    rw [List.length_append, List.length_singleton] at hlt
    rcases Nat.lt_succ_iff_lt_or_eq.mp hlt with hlt | rfl
    · obtain ⟨b, hb, hfits⟩ := hsound address hlt
      exact ⟨b, hb.append o, hfits⟩
    · exact hnew
  cases call with
  | memBuffer root n =>
      exact happend ⟨.memBuffer root n, .memBuffer List.getElem?_concat_length, trivial⟩
  | offsetBuffer address offset length =>
      obtain ⟨b, hb, hfits⟩ := hsound address hcall
      refine happend ⟨OffsetBuffer.reinit b offset length, ?_, OffsetBuffer.fits_reinit hfits ..⟩
      refine (hb.append _).reinit ?_
      rw [List.getElem?_concat_length, hb.size_eq]
  | reinit view address offset length =>
      obtain ⟨hview, haddress, hne, hfree⟩ := hcall
      obtain ⟨b, hb, hfits⟩ := hsound address haddress
      intro a hlt
      rw [BufferHeap.run, List.length_set] at hlt
      by_cases ha : a = view
      · subst ha
        refine ⟨OffsetBuffer.reinit b offset length, ?_, OffsetBuffer.fits_reinit hfits ..⟩
        refine (hb.set hne hfree _).reinit ?_
        rw [List.getElem?_set_self hview, hb.size_eq]
      · obtain ⟨b', hb', hfits'⟩ := hsound a hlt
        exact ⟨b', hb'.set ha hfree _, hfits'⟩

/-- The objects of every program. -/
theorem exists_denotes (hreach : Reaches Possible run [] h) : Sound h :=
  hreach.invariant (fun _ hlt => absurd hlt (Nat.not_lt_zero _)) fun _ _ hsound hcall =>
    hsound.run hcall

end BufferHeap

/-! ### Accesses -/

/-- An access to a view from `start` on, of `len` bytes, is confined to it: it succeeds exactly
inside the view, touches exactly the bytes of the root it names, and changes nothing when it
fails. -/
structure Buffer.Confined (b : Buffer) (start len : UInt16) : Prop where
  read : ∀ m, b.read start len m =
    if start.toNat + len.toNat ≤ b.size.toNat then
      some (Region.read m b.root (b.getRootBufferOffset.toNat + start.toNat) len.toNat)
    else none
  write : ∀ m (data : Bytes), data.length = len.toNat →
    (b.write start data).run m =
      if start.toNat + len.toNat ≤ b.size.toNat then
        (some (),
          Region.write m b.root (b.getRootBufferOffset.toNat + start.toNat) data)
      else (none, m)

/-- The bounds of an access wrap around to a sum inside a view of `size` bytes. -/
def WrapsInside (start len size : UInt16) : Prop :=
  65536 ≤ start.toNat + len.toNat ∧ start.toNat + len.toNat - 65536 ≤ size.toNat

theorem Buffer.confined_iff_bounds {b : Buffer} (hb : b.Fits) (start len : UInt16) :
    b.Confined start len ↔ ¬ WrapsInside start len b.size := by
  have hsize := b.size.toNat_lt
  constructor
  · rintro ⟨hread, -⟩ ⟨hwrap, hin⟩
    have hsome := (read_isSome hb start len fun _ _ => 0).mpr
      (by rw [bounds_iff_of_wrap hwrap]; omega)
    rw [hread, if_neg (by omega)] at hsome
    exact absurd hsome (by simp)
  · intro hno
    rw [WrapsInside, not_and] at hno
    by_cases hwrap : start.toNat + len.toNat < 65536
    · refine ⟨fun m => ?_, fun m data hdata => ?_⟩
      · rw [read_of_fits hb m hwrap, toNat_getRootBufferOffset hb]
        by_cases hin : start.toNat + len.toNat ≤ b.size.toNat
        · rw [if_pos hin, if_neg (by omega)]
        · rw [if_neg hin, if_pos (by omega)]
      · have hlength : (lengthOf data).toNat = len.toNat := by
          rw [toNat_lengthOf (by rw [hdata]; exact len.toNat_lt), hdata]
        rw [write_of_fits hb m (by omega), toNat_getRootBufferOffset hb, hlength]
        by_cases hin : start.toNat + len.toNat ≤ b.size.toNat
        · rw [if_pos hin, if_neg (by omega)]
        · rw [if_neg hin, if_pos (by omega)]
    · -- the wrapped sum is behind the view, too
      have hover := hno (by omega)
      refine ⟨fun m => ?_, fun m data hdata => ?_⟩
      · rw [if_neg (by omega)]
        refine Option.not_isSome_iff_eq_none.mp fun hsome => ?_
        rw [read_isSome hb, bounds_iff_of_wrap (by omega)] at hsome
        omega
      · have hlength : lengthOf data = len := by
          rw [lengthOf, hdata, UInt16.ofNat_toNat]
        rw [if_neg (by omega)]
        have hnone : ((b.write start data).run m).1 = none := by
          refine Option.not_isSome_iff_eq_none.mp fun hsome => ?_
          rw [write_isSome hb, hlength, bounds_iff_of_wrap (by omega)] at hsome
          omega
        exact Prod.ext hnone (write_of_eq_none b start data m hnone)

/-- Every object stands for one tower, and an access to it is confined exactly if its bounds do
not wrap around to a sum inside it. -/
theorem BufferHeap.confined_iff {h : BufferHeap} (hreach : Reaches Possible run [] h)
    {address : ℕ} (hlt : address < h.length) :
    ∃! b, Denotes h address b ∧
      ∀ start len, b.Confined start len ↔ ¬ WrapsInside start len b.size := by
  obtain ⟨b, hb, hfits⟩ := exists_denotes hreach address hlt
  exact ⟨b, ⟨hb, Buffer.confined_iff_bounds hfits⟩, fun _ hb' => hb'.1.unique hb⟩

/-- A view over a view. -/
theorem BufferHeap.confined_iff_tower :
    ∃! b, Denotes [.memBuffer .send 10, .offsetBuffer 8 2 0, .offsetBuffer 3 4 1] 2 b ∧
      ∀ start len, b.Confined start len ↔ ¬ WrapsInside start len b.size := by
  have hmade : Reaches Possible run [] [.memBuffer .send 10] :=
    .step (e := Call.memBuffer .send 10) .refl trivial
  have hview : Reaches Possible run [] [.memBuffer .send 10, .offsetBuffer 8 2 0] :=
    .step (e := Call.offsetBuffer 0 2 0) hmade Nat.zero_lt_one
  exact confined_iff (.step (e := Call.offsetBuffer 1 4 3) hview (Nat.lt_succ_self 1)) (by decide)

/-- Two bytes from 65535 on are read from a buffer of ten. -/
theorem BufferHeap.read_wraps :
    Reaches Possible run [] [.memBuffer .send 10] ∧
      Denotes [.memBuffer .send 10] 0 (.memBuffer .send 10) ∧
      ¬ (Buffer.memBuffer .send 10).Confined 65535 2 := by
  refine ⟨.step (e := Call.memBuffer .send 10) .refl trivial, .memBuffer rfl, fun h => ?_⟩
  exact absurd (h.read fun _ _ => 0) (by decide)

end AtmegaNet
