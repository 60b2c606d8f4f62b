import Mathlib.Data.Nat.Bitwise
import Mathlib.Tactic.Common

/-!
# The FNV-1 hash, 32 bits

Each byte multiplies the sum by the FNV prime and is then xored in. The last two bytes of a key can
be recovered from the hash of the key and of what precedes them: multiplying by the prime
`2 ^ 24 + 403` moves a difference in the low byte into the high bits without wrapping back into
the low byte, so the xor with the last byte cannot cancel it.
-/

namespace Fnv

def offset32 : UInt32 := 2166136261

def prime32 : UInt32 := 16777619

/-- One byte of `Write`. -/
def write (sum : UInt32) (c : UInt8) : UInt32 := (sum * prime32) ^^^ c.toUInt32

def sum32 (key : List UInt8) : UInt32 := key.foldl write offset32

/-- Two words that differ in the low byte at most and whose products with the prime differ in the
low byte at most are equal. -/
theorem mul_prime_injective {u v : Nat} (huv : u / 2 ^ 8 = v / 2 ^ 8)
    (h : u * 16777619 % 2 ^ 32 / 2 ^ 8 = v * 16777619 % 2 ^ 32 / 2 ^ 8) : u = v := by
  have hu := Nat.div_add_mod (u * 16777619) (2 ^ 32)
  have hv := Nat.div_add_mod (v * 16777619) (2 ^ 32)
  generalize u * 16777619 / 2 ^ 32 = i at hu
  generalize v * 16777619 / 2 ^ 32 = j at hv
  -- the products differ by less than `2 ^ 8` modulo `2 ^ 32`, hence not at all
  rcases Nat.lt_trichotomy i j with hij | rfl | hij
  · omega
  · omega
  · omega

theorem write_toNat (sum : UInt32) (c : UInt8) :
    (write sum c).toNat = (sum.toNat * 16777619 % 2 ^ 32) ^^^ c.toNat := by
  simp [write, prime32, UInt32.toNat_xor, UInt32.toNat_mul]

theorem write_toNat_div (sum : UInt32) (c : UInt8) :
    (write sum c).toNat / 2 ^ 8 = sum.toNat * 16777619 % 2 ^ 32 / 2 ^ 8 := by
  rw [write_toNat, Nat.xor_div_two_pow, Nat.div_eq_of_lt c.toNat_lt, Nat.xor_zero]

theorem write_injective {sum : UInt32} {c d : UInt8} (h : write sum c = write sum d) : c = d := by
  have hn := congrArg UInt32.toNat h
  rw [write_toNat, write_toNat] at hn
  exact UInt8.toNat_inj.mp (Nat.xor_right_injective hn)

theorem write_write_injective {sum : UInt32} {a b c d : UInt8}
    (h : write (write sum a) b = write (write sum c) d) : a = c ∧ b = d := by
  have hprod := congrArg (fun sum => sum.toNat / 2 ^ 8) h
  simp only [write_toNat_div (write sum a), write_toNat_div (write sum c)] at hprod
  have hlow : (write sum a).toNat / 2 ^ 8 = (write sum c).toNat / 2 ^ 8 := by
    rw [write_toNat_div, write_toNat_div]
  have hsum : write sum a = write sum c := UInt32.toNat_inj.mp (mul_prime_injective hlow hprod)
  refine ⟨write_injective hsum, ?_⟩
  rw [hsum] at h
  exact write_injective h

/-- The hash separates keys that differ in the last two bytes only. -/
theorem sum32_append_injective (key : List UInt8) {a b c d : UInt8}
    (h : sum32 (key ++ [a, b]) = sum32 (key ++ [c, d])) : a = c ∧ b = d := by
  simp only [sum32, List.foldl_append, List.foldl_cons, List.foldl_nil] at h
  exact write_write_injective h

end Fnv
