import Mathlib.Data.List.Forall2
import Mathlib.Data.List.SplitLengths
import VFlow.Reader

/-!
# Sets on the wire

IPFIX and NetFlow v9 frame their sets in the same way: an id, the length of the whole set, and the body.
A data record is the bytes of its fields one after the other.
-/

namespace VFlow

open BigEndian

theorem toNat_ofNat_of_lt {n : Nat} (h : n < 2 ^ 16) : (UInt16.ofNat n).toNat = n := by
  rw [UInt16.toNat_ofNat', Nat.mod_eq_of_lt h]

/-! ## Records -/

/-- A data record as it is sent: the bytes of each field. -/
abbrev Record := List (List UInt8)

theorem map_length_record {σ : Type} {k : σ → Nat} {specs : List σ} {r : Record} :
    r.map List.length = specs.map k ↔ List.Forall₂ (fun f w => w.length = k f) specs r := by
  rw [← List.forall₂_eq_eq_eq, List.forall₂_map_left_iff, List.forall₂_map_right_iff]
  exact ⟨fun h => h.flip, fun h => h.flip⟩

theorem length_record {σ : Type} {k : σ → Nat} {specs : List σ} {r : Record}
    (h : List.Forall₂ (fun f w => w.length = k f) specs r) : r.flatten.length = (specs.map k).sum := by
  rw [List.length_flatten, map_length_record.mpr h]

theorem exists_record {σ : Type} (k : σ → Nat) (specs : List σ) {w : List UInt8} (h : w.length = (specs.map k).sum) :
    ∃ r : Record, List.Forall₂ (fun f w => w.length = k f) specs r ∧ r.flatten = w :=
  ⟨(specs.map k).splitLengths w, map_length_record.mp (List.map_splitLengths_length _ _ h.ge),
    List.flatten_splitLengths _ _ h.le⟩

theorem length_records {k : Nat} {rs : List Record} (h : ∀ r ∈ rs, r.flatten.length = k) :
    (rs.map List.flatten).flatten.length = rs.length * k := by
  induction rs with
  | nil => simp
  | cons v vs ih =>
    rw [List.map_cons, List.flatten_cons, List.length_append, h v List.mem_cons_self,
      ih fun r hr => h r (List.mem_cons_of_mem _ hr), List.length_cons, Nat.succ_mul, Nat.add_comm]

theorem parses_record {σ β : Type} {g : σ → ReadM β} {k : σ → Nat} {x : σ → List UInt8 → β} {specs : List σ}
    {r : Record} (hg : ∀ f ∈ specs, ∀ w : List UInt8, w.length = k f → Scan.Parses (g f) w (x f w))
    (h : List.Forall₂ (fun f w => w.length = k f) specs r) :
    Scan.Parses (Scan.each g specs) r.flatten ((specs.zip r).map fun q => x q.1 q.2) := by
  obtain ⟨hlen, hzip⟩ := List.forall₂_iff_zip.mp h
  have hitems : ∀ q ∈ specs.zip r, Scan.Parses (g q.1) q.2 (x q.1 q.2) :=
    fun q hq => hg q.1 (List.of_mem_zip hq).1 q.2 (hzip hq)
  have hparse := Scan.Parses.each (g := g) hitems
  rwa [List.map_fst_zip hlen.le, List.flatMap_def, List.map_snd_zip hlen.ge] at hparse

/-! ## Sets -/

/-- A set: its id, its length, and its body. -/
def setBytes (id : UInt16) (body : List UInt8) : List UInt8 :=
  putUint16 id ++ (putUint16 (UInt16.ofNat (4 + body.length)) ++ body)

@[simp] theorem length_setBytes (id : UInt16) (body : List UInt8) : (setBytes id body).length = 4 + body.length := by
  simp only [setBytes, List.length_append, length_putUint16]
  omega

theorem uint16_setBytes (id : UInt16) (body rest : List UInt8) : uint16 (setBytes id body ++ rest) = id := by
  rw [setBytes, List.append_assoc, uint16_put]

theorem uint16_drop_setBytes (id : UInt16) (body rest : List UInt8) :
    uint16 ((setBytes id body ++ rest).drop 2) = UInt16.ofNat (4 + body.length) := by
  rw [setBytes, List.append_assoc, List.append_assoc]
  exact uint16_put _ _

theorem drop_setBytes (id : UInt16) (body rest : List UInt8) : (setBytes id body ++ rest).drop 4 = body ++ rest := by
  simp only [setBytes, List.append_assoc]
  rfl

structure AtSet (r : Reader) (id : UInt16) (body rest : List UInt8) : Prop where
  data : r.data = setBytes id body ++ rest
  small : 4 + body.length < 2 ^ 16

namespace AtSet

variable {r : Reader} {id : UInt16} {body rest : List UInt8}

theorem len (h : AtSet r id body rest) : r.len = 4 + body.length + rest.length := by
  rw [Cursor.len, h.data, List.length_append, length_setBytes]

theorem data_advance (h : AtSet r id body rest) : (r.advance 4).data = body ++ rest := by
  rw [Cursor.advance_data, h.data, drop_setBytes]

end AtSet

end VFlow
