import Mathlib.Tactic.Common

/-!
# Buffers that are written in place

Slices of a buffer and copying into them, with the bounds checked: `none` is an access out of range. A copy keeps
the length of the buffer and writes at most as many elements as the slice has. Two rules say what a buffer holds
afterwards: a block within the buffer is replaced (`copy_block`), and what is written behind the part that is known
makes that part longer (`take_copy`), whatever the buffer held before.
-/

namespace Buffer

variable {α : Type*}

/-- The elements from `low` up to `high`. -/
def slice (b : List α) (low high : Nat) : Option (List α) :=
  if low ≤ high ∧ high ≤ b.length then some ((b.take high).drop low) else none

/-- Copying to the elements from `low` up to `high`, as many as there are on both sides. -/
def copy (b : List α) (low high : Nat) (src : List α) : Option (List α) :=
  if low ≤ high ∧ high ≤ b.length then
    some (b.take low ++ (src.take (high - low) ++ b.drop (low + (src.take (high - low)).length)))
  else none

theorem slice_eq_some {b : List α} {low high : Nat} (hlow : low ≤ high) (hhigh : high ≤ b.length) :
    slice b low high = some ((b.take high).drop low) := if_pos ⟨hlow, hhigh⟩

theorem le_of_slice {b s : List α} {low high : Nat} (h : slice b low high = some s) : high ≤ b.length := by
  by_contra hlt
  rw [slice, if_neg (by omega)] at h
  exact nomatch h

theorem slice_drop {b : List α} {low : Nat} (h : low ≤ b.length) : slice b low b.length = some (b.drop low) := by
  rw [slice_eq_some h (Nat.le_refl _), List.take_length]

theorem copy_isSome {b : List α} {low high : Nat} (hlow : low ≤ high) (hhigh : high ≤ b.length) (src : List α) :
    ∃ b', copy b low high src = some b' := ⟨_, if_pos ⟨hlow, hhigh⟩⟩

section
variable {b b' src : List α} {low high : Nat} (h : copy b low high src = some b')
include h

theorem bounds_of_copy : low ≤ high ∧ high ≤ b.length := by
  by_contra hbounds
  rw [copy, if_neg hbounds] at h
  exact nomatch h

theorem copy_eq : b' = b.take low ++ (src.take (high - low) ++ b.drop (low + (src.take (high - low)).length)) := by
  rw [copy, if_pos (bounds_of_copy h)] at h
  exact (Option.some.inj h).symm

theorem length_copy : b'.length = b.length := by
  obtain ⟨hlow, hhigh⟩ := bounds_of_copy h
  rw [copy_eq h]
  simp only [List.length_append, List.length_take, List.length_drop]
  omega

theorem take_copy (hsrc : src.length ≤ high - low) : b'.take (low + src.length) = b.take low ++ src := by
  obtain ⟨hlow, hhigh⟩ := bounds_of_copy h
  have hlen : (b.take low ++ src).length = low + src.length := by
    rw [List.length_append, List.length_take]
    omega
  rw [copy_eq h, List.take_of_length_le hsrc, ← List.append_assoc, ← hlen, List.take_left]

end

theorem copy_block {pre old new post : List α} {low high : Nat} (hpre : pre.length = low)
    (hnew : new.length = old.length) (hlow : low + new.length ≤ high)
    (hhigh : high ≤ (pre ++ (old ++ post)).length) :
    copy (pre ++ (old ++ post)) low high new = some (pre ++ (new ++ post)) := by
  obtain ⟨b', hb'⟩ := copy_isSome (show low ≤ high by omega) hhigh new
  rw [hb', copy_eq hb', List.take_of_length_le (show new.length ≤ high - low by omega), List.take_left' hpre,
    ← List.drop_drop, List.drop_left' hpre, hnew, List.drop_left]

end Buffer
