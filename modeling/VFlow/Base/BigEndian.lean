import Mathlib.Data.Nat.Bitwise
import Mathlib.Data.Nat.Digits.Lemmas
import Mathlib.Tactic.Common

/-!
# Big-endian integers

The byte order of network formats: reading a word from the front of a byte string (`uint16`,
`uint32`, `uint64`) and writing one (`putUint16`, `putUint32`, `putUint64`), by shifts and ors. The `toNat`
equations say that a word is its bytes in base `256`, and reading gives back what was written. `value` is the
number that a byte string of any length spells, and a word is the value of the bytes it is read from.
-/

namespace BigEndian

def uint16 (b : List UInt8) : UInt16 :=
  (b.getD 1 0).toUInt16 ||| (b.getD 0 0).toUInt16 <<< 8

def uint32 (b : List UInt8) : UInt32 :=
  (b.getD 3 0).toUInt32 ||| (b.getD 2 0).toUInt32 <<< 8 ||| (b.getD 1 0).toUInt32 <<< 16 |||
    (b.getD 0 0).toUInt32 <<< 24

def uint64 (b : List UInt8) : UInt64 :=
  (b.getD 7 0).toUInt64 ||| (b.getD 6 0).toUInt64 <<< 8 ||| (b.getD 5 0).toUInt64 <<< 16 |||
    (b.getD 4 0).toUInt64 <<< 24 ||| (b.getD 3 0).toUInt64 <<< 32 ||| (b.getD 2 0).toUInt64 <<< 40 |||
    (b.getD 1 0).toUInt64 <<< 48 ||| (b.getD 0 0).toUInt64 <<< 56

def putUint16 (v : UInt16) : List UInt8 := [(v >>> 8).toUInt8, v.toUInt8]

def putUint32 (v : UInt32) : List UInt8 :=
  [(v >>> 24).toUInt8, (v >>> 16).toUInt8, (v >>> 8).toUInt8, v.toUInt8]

def putUint64 (v : UInt64) : List UInt8 :=
  [(v >>> 56).toUInt8, (v >>> 48).toUInt8, (v >>> 40).toUInt8, (v >>> 32).toUInt8,
    (v >>> 24).toUInt8, (v >>> 16).toUInt8, (v >>> 8).toUInt8, v.toUInt8]

@[simp] theorem length_putUint16 (v : UInt16) : (putUint16 v).length = 2 := rfl

@[simp] theorem length_putUint32 (v : UInt32) : (putUint32 v).length = 4 := rfl

@[simp] theorem length_putUint64 (v : UInt64) : (putUint64 v).length = 8 := rfl

theorem or_shiftLeft (a b k : Nat) (hb : b < 2 ^ k) : b ||| a <<< k = b + a * 2 ^ k := by
  rw [Nat.or_comm, ← Nat.shiftLeft_add_eq_or_of_lt hb, Nat.shiftLeft_eq, Nat.add_comm]

theorem uint16_toNat (a b : UInt8) (rest : List UInt8) :
    (uint16 (a :: b :: rest)).toNat = a.toNat * 2 ^ 8 + b.toNat := by
  have ha := a.toNat_lt
  have hb := b.toNat_lt
  have h8 : (8 : UInt16).toNat % 16 = 8 := rfl
  simp only [uint16, List.getD_cons_succ, List.getD_cons_zero, UInt16.toNat_or, UInt16.toNat_shiftLeft,
    UInt8.toNat_toUInt16, h8]
  rw [Nat.mod_eq_of_lt (by rw [Nat.shiftLeft_eq]; omega), or_shiftLeft _ _ _ hb, Nat.add_comm]

theorem shiftLeft_mod {x k n : Nat} (hx : x < 2 ^ 8) (hk : 8 + k ≤ n) : x <<< k % 2 ^ n = x <<< k := by
  rw [Nat.shiftLeft_eq]
  refine Nat.mod_eq_of_lt (lt_of_lt_of_le (Nat.mul_lt_mul_of_pos_right hx (Nat.two_pow_pos k)) ?_)
  rw [← Nat.pow_add]
  exact Nat.pow_le_pow_right (by decide) hk

theorem uint32_toNat (a b c d : UInt8) (rest : List UInt8) :
    (uint32 (a :: b :: c :: d :: rest)).toNat =
      a.toNat * 2 ^ 24 + b.toNat * 2 ^ 16 + c.toNat * 2 ^ 8 + d.toNat := by
  have ha := a.toNat_lt
  have hb := b.toNat_lt
  have hc := c.toNat_lt
  have hd := d.toNat_lt
  simp only [uint32, List.getD_cons_succ, List.getD_cons_zero, UInt32.toNat_or, UInt32.toNat_shiftLeft,
    UInt8.toNat_toUInt32, UInt32.reduceToNat, Nat.reduceMod]
  rw [shiftLeft_mod hc (by decide), shiftLeft_mod hb (by decide), shiftLeft_mod ha (by decide),
    or_shiftLeft _ _ 8 (by omega), or_shiftLeft _ _ 16 (by omega), or_shiftLeft _ _ 24 (by omega)]
  omega

theorem uint64_toNat (a b c d e f g h : UInt8) (rest : List UInt8) :
    (uint64 (a :: b :: c :: d :: e :: f :: g :: h :: rest)).toNat =
      a.toNat * 2 ^ 56 + b.toNat * 2 ^ 48 + c.toNat * 2 ^ 40 + d.toNat * 2 ^ 32 + e.toNat * 2 ^ 24 +
        f.toNat * 2 ^ 16 + g.toNat * 2 ^ 8 + h.toNat := by
  have ha := a.toNat_lt
  have hb := b.toNat_lt
  have hc := c.toNat_lt
  have hd := d.toNat_lt
  have he := e.toNat_lt
  have hf := f.toNat_lt
  have hg := g.toNat_lt
  have hh := h.toNat_lt
  simp only [uint64, List.getD_cons_succ, List.getD_cons_zero, UInt64.toNat_or, UInt64.toNat_shiftLeft,
    UInt8.toNat_toUInt64, UInt64.reduceToNat, Nat.reduceMod]
  rw [shiftLeft_mod hg (by decide), shiftLeft_mod hf (by decide), shiftLeft_mod he (by decide),
    shiftLeft_mod hd (by decide), shiftLeft_mod hc (by decide), shiftLeft_mod hb (by decide),
    shiftLeft_mod ha (by decide), or_shiftLeft _ _ 8 (by omega), or_shiftLeft _ _ 16 (by omega),
    or_shiftLeft _ _ 24 (by omega), or_shiftLeft _ _ 32 (by omega), or_shiftLeft _ _ 40 (by omega),
    or_shiftLeft _ _ 48 (by omega), or_shiftLeft _ _ 56 (by omega)]
  omega

theorem uint16_take {b : List UInt8} (h : 2 ≤ b.length) : uint16 (b.take 2) = uint16 b := by
  match b with
  | _ :: _ :: _ => rfl

theorem uint32_take {b : List UInt8} (h : 4 ≤ b.length) : uint32 (b.take 4) = uint32 b := by
  match b with
  | _ :: _ :: _ :: _ :: _ => rfl

theorem uint32_append {u v : List UInt8} (h : 4 ≤ u.length) : uint32 (u ++ v) = uint32 u := by
  match u with
  | _ :: _ :: _ :: _ :: _ => rfl

theorem uint32_drop_append {u v : List UInt8} {k : Nat} (h : k + 4 ≤ u.length) :
    uint32 ((u ++ v).drop k) = uint32 (u.drop k) := by
  rw [List.drop_append_of_le_length (by omega), uint32_append (by rw [List.length_drop]; omega)]

theorem uint16_drop_append {u v : List UInt8} {k : Nat} (h : k + 2 ≤ u.length) :
    uint16 ((u ++ v).drop k) = uint16 (u.drop k) := by
  rw [List.drop_append_of_le_length (by omega)]
  have hlen : 2 ≤ (u.drop k).length := by
    rw [List.length_drop]
    omega
  match u.drop k, hlen with
  | _ :: _ :: _, _ => rfl

theorem uint16_put (v : UInt16) (rest : List UInt8) : uint16 (putUint16 v ++ rest) = v := by
  apply UInt16.toNat_inj.mp
  have hv := v.toNat_lt
  simp only [putUint16, List.cons_append, List.nil_append, uint16_toNat]
  simp [UInt16.toNat_shiftRight, Nat.shiftRight_eq_div_pow]
  omega

theorem uint32_put (v : UInt32) (rest : List UInt8) : uint32 (putUint32 v ++ rest) = v := by
  apply UInt32.toNat_inj.mp
  have hv := v.toNat_lt
  simp only [putUint32, List.cons_append, List.nil_append, uint32_toNat]
  simp [UInt32.toNat_shiftRight, Nat.shiftRight_eq_div_pow]
  omega

theorem uint64_put (v : UInt64) (rest : List UInt8) : uint64 (putUint64 v ++ rest) = v := by
  apply UInt64.toNat_inj.mp
  have hv := v.toNat_lt
  simp only [putUint64, List.cons_append, List.nil_append, uint64_toNat]
  simp [UInt64.toNat_shiftRight, Nat.shiftRight_eq_div_pow]
  omega

/-! ## The bytes of a word -/

theorem toNat_high (v : UInt16) : ((v >>> 8).toUInt8).toNat = v.toNat / 256 := by
  have hv := v.toNat_lt
  simp only [UInt16.toNat_toUInt8, UInt16.toNat_shiftRight, Nat.shiftRight_eq_div_pow, UInt16.reduceToNat,
    Nat.reduceMod, Nat.reducePow]
  omega

theorem toNat_bytes (v : UInt32) :
    (v >>> 24).toUInt8.toNat = v.toNat / 2 ^ 24 ∧ (v >>> 16).toUInt8.toNat = v.toNat / 2 ^ 16 % 256 ∧
      (v >>> 8).toUInt8.toNat = v.toNat / 2 ^ 8 % 256 ∧ v.toUInt8.toNat = v.toNat % 256 := by
  have hv := v.toNat_lt
  simp only [UInt32.toNat_toUInt8, UInt32.toNat_shiftRight, Nat.shiftRight_eq_div_pow, UInt32.reduceToNat,
    Nat.reduceMod]
  simp only [and_true]
  omega

theorem getD_eq_uint16 {b : List UInt8} {k : Nat} (h : k + 2 ≤ b.length) :
    (b.getD k 0).toNat = (uint16 (b.drop k)).toNat / 256 := by
  have hlow := (b.getD (k + 1) 0).toNat_lt
  have hcons : b.drop k = b.getD k 0 :: b.getD (k + 1) 0 :: b.drop (k + 2) := by
    rw [List.drop_eq_getElem_cons (by omega), List.drop_eq_getElem_cons (by omega),
      List.getD_eq_getElem _ _ (by omega), List.getD_eq_getElem _ _ (by omega)]
  rw [hcons, uint16_toNat]
  omega

theorem put_uint16 (a b : UInt8) (rest : List UInt8) : putUint16 (uint16 (a :: b :: rest)) = [a, b] := by
  have ha := a.toNat_lt
  have hb := b.toNat_lt
  have hword := uint16_toNat a b rest
  have hhigh : (uint16 (a :: b :: rest) >>> 8).toUInt8 = a := by
    apply UInt8.toNat_inj.mp
    rw [toNat_high, hword]
    omega
  have hlow : (uint16 (a :: b :: rest)).toUInt8 = b := by
    apply UInt8.toNat_inj.mp
    rw [UInt16.toNat_toUInt8, hword]
    omega
  rw [putUint16, hhigh, hlow]

theorem put_uint32 (a b c d : UInt8) (rest : List UInt8) :
    putUint32 (uint32 (a :: b :: c :: d :: rest)) = [a, b, c, d] := by
  have ha := a.toNat_lt
  have hb := b.toNat_lt
  have hc := c.toNat_lt
  have hd := d.toNat_lt
  have hword := uint32_toNat a b c d rest
  obtain ⟨h24, h16, h8, h0⟩ := toNat_bytes (uint32 (a :: b :: c :: d :: rest))
  rw [hword] at h24 h16 h8 h0
  have ha' := UInt8.toNat_inj.mp (h24.trans (show _ = a.toNat by omega))
  have hb' := UInt8.toNat_inj.mp (h16.trans (show _ = b.toNat by omega))
  have hc' := UInt8.toNat_inj.mp (h8.trans (show _ = c.toNat by omega))
  have hd' := UInt8.toNat_inj.mp (h0.trans (show _ = d.toNat by omega))
  rw [putUint32, ha', hb', hc', hd']

theorem take_eq_putUint16 {b : List UInt8} (h : 2 ≤ b.length) : b.take 2 = putUint16 (uint16 b) := by
  match b, h with
  | a₀ :: a₁ :: rest, _ => exact (put_uint16 a₀ a₁ rest).symm

theorem take_eq_putUint32 {b : List UInt8} (h : 4 ≤ b.length) : b.take 4 = putUint32 (uint32 b) := by
  match b, h with
  | a₀ :: a₁ :: a₂ :: a₃ :: rest, _ => exact (put_uint32 a₀ a₁ a₂ a₃ rest).symm

/-! ## Byte strings of any length -/

/-- The number that a byte string spells, the first byte first. -/
def value (b : List UInt8) : Nat := Nat.ofDigits 256 (b.reverse.map UInt8.toNat)

theorem value_append (b c : List UInt8) : value (b ++ c) = value b * 256 ^ c.length + value c := by
  unfold value
  rw [List.reverse_append, List.map_append, Nat.ofDigits_append, List.length_map, List.length_reverse, Nat.add_comm,
    Nat.mul_comm]

theorem value_cons (x : UInt8) (b : List UInt8) : value (x :: b) = x.toNat * 256 ^ b.length + value b := by
  have hx : value [x] = x.toNat := by simp [value]
  rw [← List.singleton_append, value_append, hx]

@[simp] theorem value_nil : value [] = 0 := rfl

theorem value_lt (b : List UInt8) : value b < 256 ^ b.length := by
  have hdigits : ∀ d ∈ b.reverse.map UInt8.toNat, d < 256 := by
    rw [List.forall_mem_map]
    exact fun x _ => x.toNat_lt
  have hlt := Nat.ofDigits_lt_base_pow_length (by decide) hdigits
  rwa [List.length_map, List.length_reverse] at hlt

theorem uint16_value {b : List UInt8} (h : 2 ≤ b.length) : (uint16 b).toNat = value (b.take 2) := by
  match b, h with
  | _ :: _ :: _, _ =>
    rw [uint16_toNat]
    simp [value_cons]

theorem uint32_value {b : List UInt8} (h : 4 ≤ b.length) : (uint32 b).toNat = value (b.take 4) := by
  match b, h with
  | _ :: _ :: _ :: _ :: _, _ =>
    rw [uint32_toNat]
    simp [value_cons]
    omega

theorem uint64_value {b : List UInt8} (h : 8 ≤ b.length) : (uint64 b).toNat = value (b.take 8) := by
  match b, h with
  | _ :: _ :: _ :: _ :: _ :: _ :: _ :: _ :: _, _ =>
    rw [uint64_toNat]
    simp [value_cons]
    omega

/-! ## The leading byte -/

theorem testBit_byte (x : UInt8) {k : Nat} (hk : 8 ≤ k) : x.toNat.testBit k = false :=
  Nat.testBit_lt_two_pow (Nat.lt_of_lt_of_le x.toNat_lt (Nat.pow_le_pow_right (by decide) hk))

theorem testBit_uint16 (b : List UInt8) : (uint16 b).toNat.testBit 8 = (b.getD 0 0).toNat.testBit 0 := by
  simp only [uint16, UInt16.toNat_or, UInt16.toNat_shiftLeft, UInt8.toNat_toUInt16, UInt16.reduceToNat, Nat.reduceMod,
    Nat.testBit_or, Nat.testBit_mod_two_pow, Nat.testBit_shiftLeft]
  simp [testBit_byte, -List.getD_eq_getElem?_getD, -Nat.testBit_zero]

theorem testBit_uint32 (b : List UInt8) : (uint32 b).toNat.testBit 24 = (b.getD 0 0).toNat.testBit 0 := by
  simp only [uint32, UInt32.toNat_or, UInt32.toNat_shiftLeft, UInt8.toNat_toUInt32, UInt32.reduceToNat, Nat.reduceMod,
    Nat.testBit_or, Nat.testBit_mod_two_pow, Nat.testBit_shiftLeft]
  simp [testBit_byte, -List.getD_eq_getElem?_getD, -Nat.testBit_zero]

theorem testBit_uint64 (b : List UInt8) : (uint64 b).toNat.testBit 56 = (b.getD 0 0).toNat.testBit 0 := by
  simp only [uint64, UInt64.toNat_or, UInt64.toNat_shiftLeft, UInt8.toNat_toUInt64, UInt64.reduceToNat, Nat.reduceMod,
    Nat.testBit_or, Nat.testBit_mod_two_pow, Nat.testBit_shiftLeft]
  simp [testBit_byte, -List.getD_eq_getElem?_getD, -Nat.testBit_zero]

end BigEndian
