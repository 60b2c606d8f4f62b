import VFlow.Base.BigEndian
import VFlow.Base.Passes
import VFlow.Sflow.Packet

/-!
# Reading a datagram

The decoder reads from a `bytes.Reader` in three ways. `binary.Read` takes as many bytes as it is asked
for or fails. `Read` fails only when nothing is left: a shorter rest is copied and what remains of the
buffer stays zero. `Seek` never fails and may stop beyond the end.
-/

namespace VFlow.Sflow

open Scan

inductive Error where
  | eof
  | unexpectedEOF
  | errNoneEnterpriseStandard
  | errDataLengthUnknown
  | errSFVersionNotSupport
  | errMaxOutEthernetLength
  | packet (e : PacketError)
  deriving DecidableEq, Repr

def Error.text : Error → String
  | eof => "EOF"
  | unexpectedEOF => "unexpected EOF"
  | errNoneEnterpriseStandard => "the enterprise is not standard sflow data"
  | errDataLengthUnknown => "the sflow data length is unknown"
  | errSFVersionNotSupport => "the sflow version doesn't support"
  | errMaxOutEthernetLength => "the ethernet length is greater than 1500"
  | packet e => e.text

/-- A panic of this package, or of the package `packet`. -/
inductive Panic where
  | sliceBounds
  | packet
  deriving DecidableEq, Repr

inductive Failure where
  | err (e : Error)
  | panic (p : Panic)
  deriving DecidableEq, Repr

abbrev Reader := Cursor UInt8

abbrev ReadM := Scan Failure UInt8

/-- `binary.Read` of `n` bytes. -/
def binaryRead (n : Nat) : ReadM (List UInt8) := fun r =>
  if n ≤ r.len then .ok (r.data.take n) (r.advance n)
  else if r.len = 0 then .error (.err .eof) r
  else .error (.err .unexpectedEOF) (r.advance r.len)

def uint8 : ReadM UInt8 := do
  let b ← binaryRead 1
  return b.getD 0 0

def uint32 : ReadM UInt32 := do
  let b ← binaryRead 4
  return BigEndian.uint32 b

def uint64 : ReadM UInt64 := do
  let b ← binaryRead 8
  return BigEndian.uint64 b

/-- `Read` into a buffer of `n` zero bytes. -/
def rawRead (n : Nat) : ReadM (List UInt8) := fun r =>
  if r.len = 0 then .error (.err .eof) r
  else .ok (r.data.take n ++ List.replicate (n - r.len) 0) (r.advance (min n r.len))

def seek (n : Nat) : ReadM Unit := fun r => .ok () (r.advance n)

def sliceFrom (b : List UInt8) (low : Nat) : ReadM (List UInt8) :=
  if low ≤ b.length then pure (b.drop low) else throw (.panic .sliceBounds)

/-- `b[:high]`, for a buffer that was made with the length of `b`. -/
def sliceTo (b : List UInt8) (high : Nat) : ReadM (List UInt8) :=
  if high ≤ b.length then pure (b.take high) else throw (.panic .sliceBounds)

/-! ## What the methods take -/

/-- The error is returned to the caller. -/
def Returned (f : Failure) : Prop := ∃ e, f = .err e

theorem takes_binaryRead (n : Nat) : Takes Returned (binaryRead n) n := by
  intro r
  unfold binaryRead
  refine ⟨fun h => ?_, fun h => ?_⟩
  · exact ⟨r.data.take n, if_pos h⟩
  · rw [if_neg (by omega)]
    split_ifs with h0
    · exact ⟨_, 0, by rw [Cursor.advance_zero], .eof, rfl⟩
    · exact ⟨_, r.len, rfl, .unexpectedEOF, rfl⟩

theorem takes_uint8 : Takes Returned uint8 1 :=
  (takes_binaryRead 1).bind fun _ => Takes.pure _

theorem takes_uint32 : Takes Returned uint32 4 :=
  (takes_binaryRead 4).bind fun _ => Takes.pure _

theorem takes_uint64 : Takes Returned uint64 8 :=
  (takes_binaryRead 8).bind fun _ => Takes.pure _

theorem skips_seek (n : Nat) : Skips (seek n) n := fun _ => ⟨(), rfl⟩

theorem onward_rawRead (n : Nat) : Onward (rawRead n) := by
  intro r
  unfold rawRead
  split_ifs with h
  · exact ⟨0, by rw [final_error, Cursor.advance_zero]⟩
  · exact ⟨_, final_ok _ _⟩

theorem binaryRead_of_le {r : Reader} {n : Nat} (h : n ≤ r.len) :
    binaryRead n r = .ok (r.data.take n) (r.advance n) :=
  if_pos h

theorem rawRead_eq_ok {n : Nat} {r r' : Reader} {x : List UInt8} (h : rawRead n r = .ok x r') :
    x = r.data.take n ++ List.replicate (n - r.len) 0 ∧ r' = r.advance (min n r.len) := by
  unfold rawRead at h
  split_ifs at h
  rw [EStateM.Result.ok.injEq] at h
  exact ⟨h.1.symm, h.2.symm⟩

theorem uint32_of_le {r : Reader} (h : 4 ≤ r.len) : uint32 r = .ok (BigEndian.uint32 r.data) (r.advance 4) := by
  unfold uint32
  rw [bind_apply, binaryRead_of_le h]
  dsimp only
  rw [pure_apply, BigEndian.uint32_take h]

theorem bind_uint32_of_le {β : Type} {f : UInt32 → ReadM β} {r : Reader} (h : 4 ≤ r.len) :
    (uint32 >>= f) r = f (BigEndian.uint32 r.data) (r.advance 4) := by
  rw [bind_apply, uint32_of_le h]

theorem bind_uint32_at {β : Type} {f : UInt32 → ReadM β} {r : Reader} {k : Nat} (h : k + 4 ≤ r.len) :
    (uint32 >>= f) (r.advance k) = f (BigEndian.uint32 (r.data.drop k)) (r.advance (k + 4)) := by
  rw [bind_uint32_of_le (by rw [Cursor.len_advance]; omega), Cursor.advance_advance, Cursor.advance_data]

theorem bind_binaryRead_at {β : Type} {f : List UInt8 → ReadM β} {r : Reader} {k n : Nat} (h : k + n ≤ r.len) :
    (binaryRead n >>= f) (r.advance k) = f ((r.data.drop k).take n) (r.advance (k + n)) := by
  have hlen : n ≤ (r.advance k).len := by
    rw [Cursor.len_advance]
    omega
  rw [bind_apply, binaryRead_of_le hlen]
  dsimp only
  rw [Cursor.advance_advance, Cursor.advance_data]

theorem bind_uint8_at {β : Type} {f : UInt8 → ReadM β} {r : Reader} {k : Nat} (h : k + 1 ≤ r.len) :
    (uint8 >>= f) (r.advance k) = f (r.data.getD k 0) (r.advance (k + 1)) := by
  have hget : ((r.data.drop k).take 1).getD 0 0 = r.data.getD k 0 := by
    rw [List.getD_eq_getElem?_getD, List.getD_eq_getElem?_getD, List.getElem?_take, List.getElem?_drop]
    rfl
  unfold uint8
  rw [bind_assoc, bind_binaryRead_at h, pure_bind, hget]

theorem bind_seek_at {β : Type} {f : Unit → ReadM β} {r : Reader} {k : Nat} (n : Nat) :
    (seek n >>= f) (r.advance k) = f () (r.advance (k + n)) := by
  rw [← Cursor.advance_advance]
  rfl

theorem uint32_eq_ok {r r' : Reader} {x : UInt32} (h : uint32 r = .ok x r') :
    4 ≤ r.len ∧ x = BigEndian.uint32 r.data ∧ r' = r.advance 4 := by
  obtain ⟨hlen, rfl⟩ := takes_uint32.of_ok h
  rw [uint32_of_le hlen, EStateM.Result.ok.injEq] at h
  exact ⟨hlen, h.1.symm, rfl⟩

theorem onward_sliceFrom (b : List UInt8) (low : Nat) : Onward (sliceFrom b low) := by
  unfold sliceFrom
  split_ifs
  · exact (Forward.pure _).onward
  · exact (Forward.throw _).onward

theorem onward_sliceTo (b : List UInt8) (high : Nat) : Onward (sliceTo b high) := by
  unfold sliceTo
  split_ifs
  · exact (Forward.pure _).onward
  · exact (Forward.throw _).onward

theorem sliceFrom_of_le {b : List UInt8} {low : Nat} (h : low ≤ b.length) : sliceFrom b low = pure (b.drop low) :=
  if_pos h

theorem sliceTo_of_le {b : List UInt8} {high : Nat} (h : high ≤ b.length) : sliceTo b high = pure (b.take high) :=
  if_pos h

theorem length_take_append_replicate (w : List UInt8) (n : Nat) :
    (w.take n ++ List.replicate (n - w.length) 0).length = n := by
  rw [List.length_append, List.length_take, List.length_replicate]
  omega

/-! ## Failures -/

/-- No failure is a panic. -/
def Errs {β : Type} (m : ReadM β) : Prop := ∀ r f r', m r = .error f r' → Returned f

theorem errs_of_takes {β : Type} {m : ReadM β} {k : Nat} (h : Takes Returned m k) : Errs m :=
  fun _ _ _ hr => (h.of_error hr).2

theorem Errs.bind {β γ : Type} {m : ReadM β} {f : β → ReadM γ} (hm : Errs m) (hf : ∀ x, Errs (f x)) :
    Errs (m >>= f) := by
  intro r e r' h
  obtain h | ⟨x, d, -, h⟩ := bind_eq_error.mp h
  · exact hm r e r' h
  · exact hf x d e r' h

theorem errs_pure {β : Type} (x : β) : Errs (pure x : ReadM β) := by
  intro r e r' h
  cases h

theorem errs_throw {β : Type} (e : Error) : Errs (throw (.err e) : ReadM β) := by
  intro r f r' h
  rw [throw_apply, EStateM.Result.error.injEq] at h
  exact ⟨e, h.1.symm⟩

theorem errs_rawRead (n : Nat) : Errs (rawRead n) := by
  intro r f r' h
  unfold rawRead at h
  split_ifs at h
  rw [EStateM.Result.error.injEq] at h
  exact ⟨.eof, h.1.symm⟩

end VFlow.Sflow
