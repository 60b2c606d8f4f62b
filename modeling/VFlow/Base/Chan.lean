import Mathlib.Tactic.Common

/-!
# Buffered channels

A channel is a queue with room for `cap` values that can be closed. The operations are partial: where they
return `none`, the goroutine that calls them blocks or, on a closed channel, panics.
-/

/-- A channel and the values in its buffer, the oldest first. -/
@[ext] structure Chan (α : Type) where
  cap : Nat
  buf : List α
  closed : Bool
  length_le : buf.length ≤ cap

namespace Chan

variable {α : Type} {c c' : Chan α} {a : α}

/-- `make(chan α, cap)`. -/
def make (α : Type) (cap : Nat) : Chan α := ⟨cap, [], false, Nat.zero_le cap⟩

/-- A send. It blocks on a full channel and panics on a closed one. -/
def send (c : Chan α) (a : α) : Option (Chan α) :=
  if h : c.closed = false ∧ c.buf.length < c.cap then
    some { c with buf := c.buf ++ [a], length_le := by simpa using Nat.succ_le_of_lt h.2 }
  else none

def pop (c : Chan α) : Chan α :=
  { c with buf := c.buf.tail, length_le := by simpa using Nat.le_succ_of_le c.length_le }

/-- A receive. It blocks on an empty channel, unless the channel is closed: then there is no value. -/
def recv (c : Chan α) : Option (Option α × Chan α) :=
  match c.buf.head? with
  | some a => some (some a, c.pop)
  | none => if c.closed then some (none, c) else none

/-- `close`. It panics on a closed channel. -/
def close (c : Chan α) : Option (Chan α) :=
  if c.closed then none else some { c with closed := true }

theorem eq_iff : c = c' ↔ c'.buf = c.buf ∧ c'.cap = c.cap ∧ c'.closed = c.closed := by
  rw [eq_comm, Chan.ext_iff]
  tauto

theorem send_eq_some : c.send a = some c' ↔
    c.closed = false ∧ c.buf.length < c.cap ∧ c'.buf = c.buf ++ [a] ∧ c'.cap = c.cap ∧ c'.closed = false := by
  unfold send
  split
  case isTrue h => simp only [Option.some.injEq, eq_iff, h, true_and]
  case isFalse h =>
    simp only [reduceCtorEq, false_iff]
    intro hsend
    exact h ⟨hsend.1, hsend.2.1⟩

theorem recv_eq_value : c.recv = some (some a, c') ↔
    c.buf = a :: c'.buf ∧ c'.cap = c.cap ∧ c'.closed = c.closed := by
  unfold recv
  cases hbuf : c.buf with
  | nil => cases hclosed : c.closed <;> simp
  | cons x buf =>
    simp only [List.head?_cons, Option.some.injEq, Prod.mk.injEq, eq_iff, pop, hbuf, List.tail_cons, List.cons.injEq,
      and_assoc, eq_comm (a := c'.buf)]

theorem recv_eq_closed : c.recv = some (none, c') ↔ c.buf = [] ∧ c.closed = true ∧ c' = c := by
  unfold recv
  cases hbuf : c.buf with
  | nil => cases hclosed : c.closed <;> simp [eq_comm]
  | cons x buf => simp

theorem close_eq_some : c.close = some c' ↔
    c.closed = false ∧ c'.buf = c.buf ∧ c'.cap = c.cap ∧ c'.closed = true := by
  unfold close
  cases hclosed : c.closed <;> simp [eq_iff]

/-! ## The values seen from elsewhere -/

variable {β : Type} {f : α → β}

/-- The channel with `f a` for each value `a`. -/
def map (f : α → β) (c : Chan α) : Chan β := ⟨c.cap, c.buf.map f, c.closed, by simpa using c.length_le⟩

theorem send_map (h : c.send a = some c') : (c.map f).send (f a) = some (c'.map f) := by
  obtain ⟨hopen, hroom, hbuf, hcap, hopen'⟩ := send_eq_some.mp h
  exact send_eq_some.mpr ⟨hopen, by simpa [map] using hroom, by simp [map, hbuf], hcap, hopen'⟩

theorem recv_map (h : c.recv = some (some a, c')) : (c.map f).recv = some (some (f a), c'.map f) := by
  obtain ⟨hbuf, hcap, hclosed⟩ := recv_eq_value.mp h
  exact recv_eq_value.mpr ⟨by simp [map, hbuf], hcap, hclosed⟩

theorem recv_map_closed (h : c.recv = some (none, c')) : (c.map f).recv = some (none, c.map f) := by
  obtain ⟨hbuf, hclosed, -⟩ := recv_eq_closed.mp h
  exact recv_eq_closed.mpr ⟨by simp [map, hbuf], hclosed, rfl⟩

theorem close_map (h : c.close = some c') : (c.map f).close = some (c'.map f) := by
  obtain ⟨hopen, hbuf, hcap, hclosed⟩ := close_eq_some.mp h
  exact close_eq_some.mpr ⟨hopen, by simp [map, hbuf], hcap, hclosed⟩

end Chan
