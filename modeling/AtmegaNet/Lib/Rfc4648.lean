import Mathlib.Data.Nat.Notation
import Mathlib.Tactic.Common
import Mathlib.Tactic.IntervalCases

/-!
# The base 64 encoding of RFC 4648

Groups of three bytes are read as numbers of 24 bits, of which every six bits are a symbol of the
alphabet. A last group of one or two bytes is filled up with zero bits, and the symbols that hold
none of its bits are replaced by padding.

## Main results

* `symbol_injective`, `symbol_ne_pad`: the symbols are different, and none is the padding.
* `length_encode`, `encode_ne_zero`: the text has four symbols for every group, and no zero byte.
* `count_pad_encode`: `padding` counts the padding symbols of the text.
* `bits_eq`, `bits_of_symbols`: a group is given by its four symbols.
-/

namespace Rfc4648

/-- The symbol of a number of six bits: `A` to `Z`, `a` to `z`, `0` to `9`, `+` and `/`. -/
def symbol (v : ℕ) : UInt8 :=
  if v < 26 then UInt8.ofNat (65 + v)
  else if v < 52 then UInt8.ofNat (97 + (v - 26))
  else if v < 62 then UInt8.ofNat (48 + (v - 52))
  else if v = 62 then 43 else 47

/-- The padding, `=`. -/
def pad : UInt8 := 61

/-- The number of 24 bits that a group of three bytes is. -/
def bits (a b c : UInt8) : ℕ := a.toNat * 65536 + b.toNat * 256 + c.toNat

/-- The six bits `j`, from the left, of a number of 24 bits. -/
def sextet (n j : ℕ) : ℕ := n / 64 ^ (3 - j) % 64

/-- The text of a byte string. -/
def encode : List UInt8 → List UInt8
  | [] => []
  | [a] => [symbol (sextet (bits a 0 0) 0), symbol (sextet (bits a 0 0) 1), pad, pad]
  | [a, b] => [symbol (sextet (bits a b 0) 0), symbol (sextet (bits a b 0) 1),
      symbol (sextet (bits a b 0) 2), pad]
  | a :: b :: c :: rest => symbol (sextet (bits a b c) 0) :: symbol (sextet (bits a b c) 1) ::
      symbol (sextet (bits a b c) 2) :: symbol (sextet (bits a b c) 3) :: encode rest

/-- The number of padding symbols. -/
def padding (d : List UInt8) : ℕ := (3 - d.length % 3) % 3

/-! ### Symbols -/

theorem sextet_lt (n j : ℕ) : sextet n j < 64 := Nat.mod_lt _ (by decide)

/-- Statements about the symbols can be tried out one by one. -/
theorem forall_symbol {P : ℕ → Prop} [DecidablePred P] (h : ∀ v : Fin 64, P v) {v : ℕ}
    (hv : v < 64) : P v :=
  h ⟨v, hv⟩

/-- The number of a symbol's character, range by range. -/
theorem toNat_symbol {v : ℕ} (hv : v < 64) : (symbol v).toNat =
    if v < 26 then 65 + v else if v < 52 then 71 + v
    else if v < 62 then v - 4 else if v = 62 then 43 else 47 := by
  unfold symbol
  split_ifs <;> simp [UInt8.toNat_ofNat'] <;> omega

/-- Different values have different symbols. -/
theorem symbol_injective {v w : ℕ} (hv : v < 64) (hw : w < 64) (h : symbol v = symbol w) :
    v = w := by
  have hchar := congrArg UInt8.toNat h
  rw [toNat_symbol hv, toNat_symbol hw] at hchar
  split_ifs at hchar <;> omega

/-- The padding is no symbol. -/
theorem symbol_ne_pad {v : ℕ} (hv : v < 64) : symbol v ≠ pad := by
  intro h
  have hchar := congrArg UInt8.toNat h
  have hpad : pad.toNat = 61 := rfl
  rw [toNat_symbol hv, hpad] at hchar
  split_ifs at hchar <;> omega

/-- The end of a string is no symbol. -/
theorem symbol_ne_zero {v : ℕ} (hv : v < 64) : symbol v ≠ 0 := by
  intro h
  have hchar := congrArg UInt8.toNat h
  rw [toNat_symbol hv, UInt8.toNat_zero] at hchar
  split_ifs at hchar <;> omega

/-! ### Groups -/

theorem bits_lt (a b c : UInt8) : bits a b c < 16777216 := by
  have ha := a.toNat_lt
  have hb := b.toNat_lt
  have hc := c.toNat_lt
  unfold bits
  omega

/-- A number of 24 bits is given by its four parts. -/
theorem bits_eq {n : ℕ} (h : n < 16777216) :
    sextet n 0 * 262144 + sextet n 1 * 4096 + sextet n 2 * 64 + sextet n 3 = n := by
  unfold sextet
  simp only [Nat.sub_zero, Nat.reduceSub, Nat.reducePow, Nat.div_one]
  omega

theorem sextets_injective {n m : ℕ} (hn : n < 16777216) (hm : m < 16777216)
    (h : ∀ j < 4, sextet n j = sextet m j) : n = m := by
  rw [← bits_eq hn, ← bits_eq hm, h 0 (by decide), h 1 (by decide), h 2 (by decide),
    h 3 (by decide)]

theorem bits_injective {a b c a' b' c' : UInt8} (h : bits a b c = bits a' b' c') :
    a = a' ∧ b = b' ∧ c = c' := by
  have ha := a.toNat_lt
  have hb := b.toNat_lt
  have hc := c.toNat_lt
  have ha' := a'.toNat_lt
  have hb' := b'.toNat_lt
  have hc' := c'.toNat_lt
  unfold bits at h
  refine ⟨UInt8.toNat_inj.mp ?_, UInt8.toNat_inj.mp ?_, UInt8.toNat_inj.mp ?_⟩ <;> omega

/-- The bits that a group of one byte is filled up with. -/
theorem sextet_one (a : UInt8) : sextet (bits a 0 0) 2 = 0 ∧ sextet (bits a 0 0) 3 = 0 := by
  unfold sextet bits
  simp only [Nat.reduceSub, Nat.reducePow, UInt8.toNat_zero]
  omega

/-- The bits that a group of two bytes is filled up with. -/
theorem sextet_two (a b : UInt8) : sextet (bits a b 0) 3 = 0 := by
  unfold sextet bits
  simp only [Nat.reduceSub, Nat.reducePow, UInt8.toNat_zero]
  omega

/-! ### Texts -/

theorem length_encode (d : List UInt8) : (encode d).length = 4 * ((d.length + 2) / 3) := by
  induction d using encode.induct with
  | case1 => simp [encode]
  | case2 a => simp [encode]
  | case3 a b => simp [encode]
  | case4 a b c rest ih =>
    simp only [encode, List.length_cons, ih]
    omega

theorem encode_ne_zero (d : List UInt8) : ∀ x ∈ encode d, x ≠ 0 := by
  have hpad : pad ≠ 0 := by decide
  induction d using encode.induct with
  | case1 => exact fun x hx => absurd hx List.not_mem_nil
  | case2 a =>
    simp only [encode, List.forall_mem_cons]
    exact ⟨symbol_ne_zero (sextet_lt _ _), symbol_ne_zero (sextet_lt _ _), hpad, hpad,
      fun x hx => absurd hx List.not_mem_nil⟩
  | case3 a b =>
    simp only [encode, List.forall_mem_cons]
    exact ⟨symbol_ne_zero (sextet_lt _ _), symbol_ne_zero (sextet_lt _ _),
      symbol_ne_zero (sextet_lt _ _), hpad, fun x hx => absurd hx List.not_mem_nil⟩
  | case4 a b c rest ih =>
    simp only [encode, List.forall_mem_cons]
    exact ⟨symbol_ne_zero (sextet_lt _ _), symbol_ne_zero (sextet_lt _ _),
      symbol_ne_zero (sextet_lt _ _), symbol_ne_zero (sextet_lt _ _), ih⟩

/-- The text ends in as many `=` as `padding` says, and has no other. -/
theorem count_pad_encode (d : List UInt8) : (encode d).count pad = padding d := by
  have hsymbol (n j : ℕ) : symbol (sextet n j) ≠ pad := symbol_ne_pad (sextet_lt n j)
  induction d using encode.induct with
  | case1 => rfl
  | case2 a => simp [encode, padding, hsymbol]
  | case3 a b => simp [encode, padding, hsymbol]
  | case4 a b c rest ih => simp [encode, padding, hsymbol, ih, Nat.add_mod_right, Nat.add_assoc]

/-- A group of symbols gives the bits. -/
theorem bits_of_symbols {n m : ℕ} (hn : n < 16777216) (hm : m < 16777216)
    (h : ∀ j < 4, symbol (sextet n j) = symbol (sextet m j)) : n = m :=
  sextets_injective hn hm fun j hj => symbol_injective (sextet_lt _ _) (sextet_lt _ _) (h j hj)

end Rfc4648
