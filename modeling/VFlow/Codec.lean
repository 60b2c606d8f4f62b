import Mathlib.Data.List.FinRange
import Mathlib.Data.List.Induction
import VFlow.Base.JsonCut
import VFlow.Base.Unmarshal

/-!
# Go values as JSON

`json.Marshal` and `json.Unmarshal` on the types of the template cache and of the monitor. A variable holds more than
its value, since a slice keeps what is behind its end (`Cell`). A `Codec` has both directions and reads back what it
writes, whatever the variable held; a struct has one if all its fields have one (`Codec.struct`).
-/

namespace VFlow

open Json (text named Slice unmarshalInt unmarshalUint unmarshalSlice)

structure Codec (T : Type) where
  /-- What a variable holds. -/
  Cell : Type
  zero : Cell
  value : Cell → T
  json : T → Json
  read : Cell → Json → Option Cell
  utf8 : ∀ t, (json t).Utf8
  read_json : ∀ old t, ∃ c, read old (json t) = some c ∧ value c = t

namespace Codec

/-- `json.Unmarshal` into a new variable. -/
def decode {T : Type} (k : Codec T) (j : Json) : Option T := (k.read k.zero j).map k.value

theorem decode_json {T : Type} (k : Codec T) (t : T) : k.decode (k.json t) = some t := by
  obtain ⟨c, hc, ht⟩ := k.read_json k.zero t
  rw [decode, hc, Option.map_some, ht]

/-! ## Numbers -/

def uint16 : Codec UInt16 where
  Cell := UInt16
  zero := 0
  value := id
  json n := .int n.toNat
  read old j := (unmarshalUint 16 old.toNat j).map UInt16.ofNat
  utf8 _ := .int _
  read_json old n := ⟨n, by rw [Json.unmarshalUint_int _ n.toNat_lt, Option.map_some, UInt16.ofNat_toNat], rfl⟩

def uint32 : Codec UInt32 where
  Cell := UInt32
  zero := 0
  value := id
  json n := .int n.toNat
  read old j := (unmarshalUint 32 old.toNat j).map UInt32.ofNat
  utf8 _ := .int _
  read_json old n := ⟨n, by rw [Json.unmarshalUint_int _ n.toNat_lt, Option.map_some, UInt32.ofNat_toNat], rfl⟩

def int64 : Codec Int64 where
  Cell := Int64
  zero := 0
  value := id
  json n := .int n.toInt
  read old j := (unmarshalInt old.toInt j).map Int64.ofInt
  utf8 _ := .int _
  read_json old n := ⟨n, Json.unmarshalInt_int64 old.toInt n, rfl⟩

/-! ## Slices -/

/-- The only empty slice is nil. -/
def slice {T : Type} (k : Codec T) : Codec (List T) where
  Cell := Slice k.Cell
  zero := {}
  value s := s.live.map k.value
  json l := if l = [] then .null else .arr (l.map k.json)
  read := unmarshalSlice k.read k.zero
  utf8 l := by
    split_ifs
    · exact .null
    · rw [Json.utf8_arr]
      intro j hj
      obtain ⟨t, -, rfl⟩ := List.mem_map.mp hj
      exact k.utf8 t
  read_json old l := by
    split_ifs with hl
    · rw [hl]
      exact ⟨{}, rfl, rfl⟩
    · exact Json.unmarshalSlice_map k.read_json old l

end Codec

/-! ## Structs -/

structure Field (T : Type) where
  name : String
  {Content : Type}
  codec : Codec Content
  get : T → Content
  put : T → Content → T

def Field.member {T : Type} (t : T) (f : Field T) : String × Json := (f.name, f.codec.json (f.get t))

section struct

variable {T : Type} {fields : List (Field T)}

/-- What a variable for the struct holds. -/
abbrev Cells (fields : List (Field T)) := (i : Fin fields.length) → (fields.get i).codec.Cell

/-- The field `i`, as `json.Unmarshal` sets it. -/
def fieldSetter (fields : List (Field T)) (i : Fin fields.length) : Json.Setter (Cells fields) :=
  .of (fields.get i).name (fields.get i).codec.read (· i) fun cells c => Function.update cells i c

def setters (fields : List (Field T)) : List (Json.Setter (Cells fields)) :=
  (List.finRange fields.length).map (fieldSetter fields)

def structValue (zero : T) (fields : List (Field T)) (cells : Cells fields) : T :=
  (List.finRange fields.length).foldl (fun t i => (fields.get i).put t ((fields.get i).codec.value (cells i))) zero

def DistinctNames (fields : List (Field T)) : Prop :=
  (fields.map Field.name).Pairwise fun a b => named a (text b) = false

instance : Decidable (DistinctNames fields) :=
  inferInstanceAs (Decidable ((fields.map Field.name).Pairwise fun a b => named a (text b) = false))

theorem find?_named {ι : Type} {name : ι → String} {is : List ι}
    (h : (is.map name).Pairwise fun a b => named a (text b) = false) {i : ι} (hi : i ∈ is) :
    is.find? (fun k => named (name k) (text (name i))) = some i := by
  induction is with
  | nil => cases hi
  | cons k is ih =>
    rw [List.map_cons, List.pairwise_cons] at h
    rcases List.mem_cons.mp hi with rfl | hi
    · exact List.find?_cons_of_pos (Json.named_self _)
    · have hk := h.1 (name i) (List.mem_map_of_mem hi)
      rw [List.find?_cons_of_neg (by simp [hk])]
      exact ih h.2 hi

theorem find?_setters (h : DistinctNames fields) (i : Fin fields.length) :
    (setters fields).find? (fun f => named f.1 (text (fields.get i).name)) = some (fieldSetter fields i) := by
  rw [DistinctNames, ← List.map_get_finRange fields, List.map_map] at h
  rw [setters, List.find?_map]
  exact congrArg (Option.map _) (find?_named h (List.mem_finRange i))

theorem setMember_json (h : DistinctNames fields) (cells : Cells fields) (t : T) (i : Fin fields.length) :
    ∃ c, Json.setMember (setters fields) cells (text (fields.get i).name, ((fields.get i).member t).2) =
      some (Function.update cells i c) ∧ (fields.get i).codec.value c = (fields.get i).get t := by
  obtain ⟨c, hc, hvalue⟩ := (fields.get i).codec.read_json (cells i) ((fields.get i).get t)
  refine ⟨c, ?_, hvalue⟩
  rw [Json.setMember, find?_setters h]
  exact congrArg (Option.map _) hc

theorem unmarshalStruct_members (h : DistinctNames fields) (t : T) (is : List (Fin fields.length))
    (old : Cells fields) :
    ∃ cells, Json.unmarshalStruct (setters fields) old (.struct ((is.map fields.get).map (Field.member t))) =
        some cells ∧
      ∀ i, (i ∈ is → (fields.get i).codec.value (cells i) = (fields.get i).get t) ∧ (i ∉ is → cells i = old i) := by
  rw [Json.struct, Json.unmarshalStruct, List.map_map, List.map_map]
  induction is using List.reverseRecOn with
  | nil => exact ⟨old, rfl, fun i => ⟨fun hi => absurd hi List.not_mem_nil, fun _ => rfl⟩⟩
  | append_singleton is i ih =>
    obtain ⟨cells, hcells, hold⟩ := ih
    obtain ⟨c, hc, hvalue⟩ := setMember_json h cells t i
    refine ⟨Function.update cells i c, ?_, fun k => ?_⟩
    · rw [List.map_append, List.foldlM_append, hcells]
      exact (congrArg (fun x => x >>= pure) hc).trans rfl
    · by_cases hk : k = i
      · subst hk
        rw [Function.update_self]
        exact ⟨fun _ => hvalue, fun hnot => absurd (List.mem_append_right _ (List.mem_singleton_self _)) hnot⟩
      · rw [Function.update_of_ne hk, List.mem_append, List.mem_singleton, or_iff_left hk]
        exact hold k

theorem structValue_eq {zero t : T} {cells : Cells fields}
    (hcells : ∀ i, (fields.get i).codec.value (cells i) = (fields.get i).get t)
    (hput : fields.foldl (fun old f => f.put old (f.get t)) zero = t) : structValue zero fields cells = t := by
  unfold structValue
  simp only [hcells]
  rw [← List.foldl_map (f := fields.get) (g := fun old f => f.put old (f.get t)), List.map_get_finRange]
  exact hput

/-- A struct whose fields determine it. -/
def Codec.struct (zero : T) (fields : List (Field T)) (hnames : DistinctNames fields)
    (hput : ∀ t, fields.foldl (fun old f => f.put old (f.get t)) zero = t) : Codec T where
  Cell := Cells fields
  zero i := (fields.get i).codec.zero
  value := structValue zero fields
  json t := .struct (fields.map (Field.member t))
  read := Json.unmarshalStruct (setters fields)
  utf8 t := by
    rw [Json.utf8_struct]
    intro m hm
    obtain ⟨f, -, rfl⟩ := List.mem_map.mp hm
    exact f.codec.utf8 (f.get t)
  read_json old t := by
    obtain ⟨cells, hcells, hfields⟩ := unmarshalStruct_members hnames t (List.finRange fields.length) old
    rw [List.map_get_finRange] at hcells
    exact ⟨cells, hcells, structValue_eq (fun i => (hfields i).1 (List.mem_finRange i)) (hput t)⟩

theorem Codec.decode_members {zero : T} (hnames : DistinctNames fields)
    (hput : ∀ t, fields.foldl (fun old f => f.put old (f.get t)) zero = t) (is : List (Fin fields.length)) {t : T}
    (ht : ∀ i, i ∉ is → (fields.get i).codec.value (fields.get i).codec.zero = (fields.get i).get t) :
    (Codec.struct zero fields hnames hput).decode (.struct ((is.map fields.get).map (Field.member t))) = some t := by
  obtain ⟨cells, hcells, hfields⟩ := unmarshalStruct_members hnames t is fun i => (fields.get i).codec.zero
  have hvalue : structValue zero fields cells = t := by
    refine structValue_eq (fun i => ?_) (hput t)
    by_cases hi : i ∈ is
    · exact (hfields i).1 hi
    · rw [(hfields i).2 hi]
      exact ht i hi
  exact (congrArg (Option.map (structValue zero fields)) hcells).trans (congrArg some hvalue)

end struct

end VFlow
