import VFlow.Base.BigEndian
import VFlow.Base.Cursor
import VFlow.Error

/-!
# The reader

`reader.Reader`: the unread bytes of a packet and the number of bytes read. Every method is a
scanner of the cursor library, `errReader` being its only error.
-/

namespace VFlow

abbrev Reader := Cursor UInt8

/-- A function that reads from a `*Reader` and may fail. -/
abbrev ReadM := Scan Error UInt8

namespace Reader

def new (b : List UInt8) : Reader := ⟨b, 0⟩

def readCount (r : Reader) : Nat := r.count

def uint8 : ReadM UInt8 := fun r =>
  if r.len < 1 then .error .errReader r else .ok (r.data.getD 0 0) (r.advance 1)

def uint16 : ReadM UInt16 := fun r =>
  if r.len < 2 then .error .errReader r else .ok (BigEndian.uint16 r.data) (r.advance 2)

def uint32 : ReadM UInt32 := fun r =>
  if r.len < 4 then .error .errReader r else .ok (BigEndian.uint32 r.data) (r.advance 4)

def uint64 : ReadM UInt64 := fun r =>
  if r.len < 8 then .error .errReader r else .ok (BigEndian.uint64 r.data) (r.advance 8)

/-- `Read`, for a count that is not negative. -/
def read (n : Nat) : ReadM (List UInt8) := Scan.take .errReader n

def peek (r : Reader) (n : Nat) : Except Error (List UInt8) :=
  if r.len < n then .error .errReader else .ok (r.data.take n)

def peekUint16 (r : Reader) : Except Error UInt16 :=
  (peek r 2).map BigEndian.uint16

open Scan

theorem uint16_of_le {r : Reader} (h : 2 ≤ r.len) : uint16 r = .ok (BigEndian.uint16 r.data) (r.advance 2) := by
  rw [uint16, if_neg (by omega)]

theorem uint32_of_le {r : Reader} (h : 4 ≤ r.len) : uint32 r = .ok (BigEndian.uint32 r.data) (r.advance 4) := by
  rw [uint32, if_neg (by omega)]

theorem uint16_of_lt {r : Reader} (h : r.len < 2) : uint16 r = .error .errReader r := by
  rw [uint16, if_pos h]

theorem uint32_of_lt {r : Reader} (h : r.len < 4) : uint32 r = .error .errReader r := by
  rw [uint32, if_pos h]

theorem reads_uint16 : Reads .errReader uint16 2 := by
  intro r
  refine ⟨fun h => ⟨_, uint16_of_le h⟩, fun h => ⟨0, Nat.zero_le _, ?_⟩⟩
  rw [uint16_of_lt h, Cursor.advance_zero]

theorem reads_uint32 : Reads .errReader uint32 4 := by
  intro r
  refine ⟨fun h => ⟨_, uint32_of_le h⟩, fun h => ⟨0, Nat.zero_le _, ?_⟩⟩
  rw [uint32_of_lt h, Cursor.advance_zero]

theorem forward_uint8 : Forward uint8 := by
  intro r
  unfold uint8
  split_ifs with h
  · exact ⟨0, Nat.zero_le _, (Cursor.advance_zero r).symm⟩
  · exact ⟨1, by omega, rfl⟩

theorem forward_uint64 : Forward uint64 := by
  intro r
  unfold uint64
  split_ifs with h
  · exact ⟨0, Nat.zero_le _, (Cursor.advance_zero r).symm⟩
  · exact ⟨8, by omega, rfl⟩

theorem parses_uint16 (v : UInt16) : Parses uint16 (BigEndian.putUint16 v) v := by
  intro rest n
  have hlen : ¬ (Cursor.mk (BigEndian.putUint16 v ++ rest) n).len < 2 := by
    rw [Cursor.len_mk, List.length_append, BigEndian.length_putUint16]
    omega
  rw [uint16, if_neg hlen, BigEndian.uint16_put]
  rfl

theorem parses_uint32 (v : UInt32) : Parses uint32 (BigEndian.putUint32 v) v := by
  intro rest n
  have hlen : ¬ (Cursor.mk (BigEndian.putUint32 v ++ rest) n).len < 4 := by
    rw [Cursor.len_mk, List.length_append, BigEndian.length_putUint32]
    omega
  rw [uint32, if_neg hlen, BigEndian.uint32_put]
  rfl

theorem read_of_le {n : Nat} {r : Reader} (h : n ≤ r.len) : read n r = .ok (r.data.take n) (r.advance n) := by
  rw [read, Scan.take, if_neg (by omega)]

theorem read_of_lt {n : Nat} {r : Reader} (h : r.len < n) : read n r = .error .errReader r := by
  rw [read, Scan.take, if_pos h]

theorem peekUint16_of_le {r : Reader} (h : 2 ≤ r.len) : peekUint16 r = .ok (BigEndian.uint16 (r.data.take 2)) := by
  have hlen : ¬ r.len < 2 := by omega
  rw [peekUint16, peek, if_neg hlen]
  rfl

/-- The reader `r'` is `r` moved forward, past a set header at least. -/
def Past (r r' : Reader) : Prop := ∃ k, 4 ≤ k ∧ k ≤ r.len ∧ r' = r.advance k

theorem Past.header {r : Reader} (h : 4 ≤ r.len) : Past r (r.advance 4) := ⟨4, le_refl _, h, rfl⟩

theorem Past.advance {r r' : Reader} {k : Nat} (h : Past r r') (hk : k ≤ r'.len) : Past r (r'.advance k) := by
  obtain ⟨j, hj4, hj, rfl⟩ := h
  rw [Cursor.len_advance] at hk
  exact ⟨j + k, by omega, by omega, Cursor.advance_advance _ _ _⟩

end Reader

end VFlow
