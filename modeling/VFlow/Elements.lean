import VFlow.Published

/-!
# The information model from a file

`LoadExtElements` replaces `InfoModel` by what the file `ipfix.elements` defines. `yaml.Unmarshal` is a
parameter: it returns a map, and says whether it failed; then the map is filled as far as it came. The error
is not looked at, so that `InfoModel` is rebuilt from the map of a failed `Unmarshal` too, which is the model of
before only by chance.
-/

namespace VFlow

structure NamedEntry where
  fieldID : UInt16
  name : String
  type : FieldType
  deriving DecidableEq, Repr

/-- `IANAInfoModel`, with the names of the elements. -/
@[ext] structure NamedModel where
  lookup : ElementKey → Option NamedEntry
  fieldID_eq : ∀ key entry, lookup key = some entry → entry.fieldID = key.elementID

namespace NamedModel

def toInfoModel (m : NamedModel) : IANAInfoModel where
  lookup key := (m.lookup key).map fun entry => { fieldID := entry.fieldID, type := entry.type }
  fieldID_eq key entry h := by
    obtain ⟨e, he, rfl⟩ := Option.map_eq_some_iff.mp h
    exact m.fieldID_eq key e he

def empty : NamedModel where
  lookup _ := none
  fieldID_eq _ _ h := by cases h

def set (m : NamedModel) (key : ElementKey) (name : String) (type : FieldType) : NamedModel where
  lookup := Function.update m.lookup key (some { fieldID := key.elementID, name, type })
  fieldID_eq key' entry h := by
    by_cases hkey : key' = key
    · rw [hkey, Function.update_self, Option.some.injEq] at h
      rw [← h, hkey]
    · rw [Function.update_of_ne hkey] at h
      exact m.fieldID_eq key' entry h

end NamedModel

def fieldTypes : List (String × FieldType) :=
  [("unsigned8", .uint8), ("unsigned16", .uint16), ("unsigned32", .uint32), ("unsigned64", .uint64),
    ("signed8", .int8), ("signed16", .int16), ("signed32", .int32), ("signed64", .int64), ("float32", .float32),
    ("float64", .float64), ("boolean", .boolean), ("macAddress", .macAddress), ("octetArray", .octetArray),
    ("string", .string), ("dateTimeSeconds", .dateTimeSeconds), ("dateTimeMilliseconds", .dateTimeMilliseconds),
    ("dateTimeMicroseconds", .dateTimeMicroseconds), ("dateTimeNanoseconds", .dateTimeNanoseconds),
    ("ipv4Address", .ipv4Address), ("ipv6Address", .ipv6Address)]

/-- `FieldTypes[name]`; a name that is not there gives the zero value. -/
def fieldType (name : String) : FieldType := (fieldTypes.lookup name).getD .unknown

/-! ## The file -/

/-- `map[uint32]map[uint16][]string`, in the order in which it is ranged over. -/
structure Elements where
  entries : List (UInt32 × List (UInt16 × List String))
  nodup : (entries.map Prod.fst).Nodup
  nodup_elements : ∀ e ∈ entries, (e.2.map Prod.fst).Nodup

/-- What `yaml.Unmarshal` leaves in the map, and whether it returned an error. -/
structure Unmarshalled where
  elements : Elements
  failed : Bool

/-- The file `ipfix.elements`: it may not exist, or not be readable. -/
inductive ElementsFile where
  | notExist
  | unreadable
  | content (b : List UInt8)

def addElement (pen : UInt32) (m : NamedModel) (e : UInt16 × List String) : NamedModel :=
  match e.2 with
  | name :: type :: _ => m.set ⟨pen, e.1⟩ name (fieldType type)
  | _ => m

def addElements (m : NamedModel) (e : UInt32 × List (UInt16 × List String)) : NamedModel :=
  e.2.foldl (addElement e.1) m

def rebuild (elements : Elements) : NamedModel := elements.entries.foldl addElements .empty

/-- `LoadExtElements`, for a value of `InfoModel`. -/
def loadExtElements (unmarshal : List UInt8 → Unmarshalled) (file : ElementsFile) (model : NamedModel) : NamedModel :=
  match file with
  | .notExist => model
  | .unreadable => model
  -- the error of `Unmarshal` is not looked at
  | .content b => rebuild (unmarshal b).elements

/-! ## What is defined -/

def entryOf (id : UInt16) : List String → Option NamedEntry
  | name :: type :: _ => some { fieldID := id, name, type := fieldType type }
  | _ => none

def Elements.entry (elements : Elements) (key : ElementKey) : Option NamedEntry := do
  let es ← elements.entries.lookup key.enterpriseNo
  let prop ← es.lookup key.elementID
  entryOf key.elementID prop

theorem lookup_eq_none {α β : Type} [BEq α] [LawfulBEq α] {l : List (α × β)} {a : α} (h : a ∉ l.map Prod.fst) :
    l.lookup a = none := by
  rw [List.lookup_eq_none_iff]
  intro p hp
  rw [bne_iff_ne]
  rintro rfl
  exact h (List.mem_map_of_mem hp)

theorem lookup_addElement (pen : UInt32) (m : NamedModel) (e : UInt16 × List String) (key : ElementKey) :
    (addElement pen m e).lookup key =
      if key = ⟨pen, e.1⟩ then (entryOf e.1 e.2).or (m.lookup key) else m.lookup key := by
  unfold addElement entryOf
  split
  · by_cases hkey : key = ⟨pen, e.1⟩
    · rw [if_pos hkey, hkey]
      exact Function.update_self _ _ _
    · rw [if_neg hkey]
      exact Function.update_of_ne hkey _ _
  · simp

theorem lookup_foldl_addElement {pen : UInt32} {es : List (UInt16 × List String)} (hnodup : (es.map Prod.fst).Nodup)
    (m : NamedModel) (key : ElementKey) :
    (es.foldl (addElement pen) m).lookup key =
      (if key.enterpriseNo = pen then (es.lookup key.elementID).bind (entryOf key.elementID) else none).or
        (m.lookup key) := by
  induction es generalizing m with
  | nil => simp
  | cons e es ih =>
    obtain ⟨id, prop⟩ := e
    obtain ⟨pen', id'⟩ := key
    rw [List.map_cons, List.nodup_cons] at hnodup
    rw [List.foldl_cons, ih hnodup.2, lookup_addElement]
    by_cases hpen : pen' = pen
    · by_cases hid : id' = id
      · subst hpen hid
        simp [lookup_eq_none hnodup.1]
      · simp [hpen, hid, List.lookup_cons, beq_eq_false_iff_ne.mpr hid]
    · simp [hpen]

theorem lookup_foldl_addElements {entries : List (UInt32 × List (UInt16 × List String))}
    (hnodup : (entries.map Prod.fst).Nodup) (hnodup_elements : ∀ e ∈ entries, (e.2.map Prod.fst).Nodup)
    (m : NamedModel) (key : ElementKey) :
    (entries.foldl addElements m).lookup key =
      ((entries.lookup key.enterpriseNo).bind fun es =>
        (es.lookup key.elementID).bind (entryOf key.elementID)).or (m.lookup key) := by
  induction entries generalizing m with
  | nil => simp
  | cons e entries ih =>
    obtain ⟨pen, es⟩ := e
    rw [List.map_cons, List.nodup_cons] at hnodup
    rw [List.forall_mem_cons] at hnodup_elements
    rw [List.foldl_cons, ih hnodup.2 hnodup_elements.2, addElements, lookup_foldl_addElement hnodup_elements.1]
    by_cases hpen : key.enterpriseNo = pen
    · rw [hpen, lookup_eq_none hnodup.1]
      simp
    · simp [hpen, List.lookup_cons, beq_eq_false_iff_ne.mpr hpen]

theorem lookup_rebuild (elements : Elements) (key : ElementKey) :
    (rebuild elements).lookup key = elements.entry key := by
  unfold rebuild
  rw [lookup_foldl_addElements elements.nodup elements.nodup_elements]
  exact Option.or_none

/-- A file that was parsed gives the model its entries, one that was not parsed leaves the model as it is, and so
does a file that is not there or cannot be read, exactly when the map of a file that was not parsed defines the
model of before. -/
theorem loadExtElements_intact_iff (unmarshal : List UInt8 → Unmarshalled) (file : ElementsFile) (model : NamedModel) :
    ((∀ b, file = .content b → (unmarshal b).failed = false →
        ∀ key, (loadExtElements unmarshal file model).lookup key = (unmarshal b).elements.entry key) ∧
      (∀ b, file = .content b → (unmarshal b).failed = true → loadExtElements unmarshal file model = model) ∧
      ((∀ b, file ≠ .content b) → loadExtElements unmarshal file model = model)) ↔
    ∀ b, file = .content b → (unmarshal b).failed = true →
      ∀ key, (unmarshal b).elements.entry key = model.lookup key := by
  have hload : ∀ b, file = .content b → loadExtElements unmarshal file model = rebuild (unmarshal b).elements := by
    rintro b rfl
    rfl
  constructor
  · rintro ⟨-, h, -⟩ b hb hfailed key
    rw [← lookup_rebuild, ← hload b hb, h b hb hfailed]
  · intro h
    refine ⟨fun b hb _ key => ?_, fun b hb hfailed => ?_, fun hfile => ?_⟩
    · rw [hload b hb, lookup_rebuild]
    · rw [hload b hb]
      ext1
      funext key
      rw [lookup_rebuild, h b hb hfailed]
    · cases file with
      | notExist => rfl
      | unreadable => rfl
      | content b => exact absurd rfl (hfile b)

/-! ## A file that is not parsed -/

def addressModel : NamedModel :=
  (NamedModel.empty.set ⟨0, 8⟩ "sourceIPv4Address" .ipv4Address).set ⟨0, 12⟩ "destinationIPv4Address" .ipv4Address

def refused (_ : List UInt8) : Unmarshalled where
  elements := { entries := [], nodup := List.nodup_nil, nodup_elements := by simp }
  failed := true

def addressPacket : List UInt8 :=
  [0, 10, 0, 44, 0, 0, 0, 1, 0, 0, 0, 2, 0, 0, 0, 3, 0, 2, 0, 16, 1, 0, 0, 2, 0, 8, 0, 4, 0, 12, 0, 4,
    1, 0, 0, 12, 10, 0, 0, 1, 10, 0, 0, 2]

/-- The file is not parsed and the elements are gone, and with them a record that was decoded before. -/
theorem loadExtElements_refused :
    (refused (Json.text "0: [")).failed = true ∧
    (loadExtElements refused (.content (Json.text "0: [")) addressModel).lookup ⟨0, 8⟩ = none ∧
    (∃ out m, Ipfix.Decodes addressModel.toInfoModel [192, 0, 2, 1] .empty addressPacket out ∧ out.msg = some m ∧
      m.dataSets = [[{ id := 8, value := .ip [10, 0, 0, 1] }, { id := 12, value := .ip [10, 0, 0, 2] }]]) ∧
    ∃ out m, Ipfix.Decodes (loadExtElements refused (.content (Json.text "0: [")) addressModel).toInfoModel
      [192, 0, 2, 1] .empty addressPacket out ∧ out.msg = some m ∧ m.dataSets = [] :=
  ⟨rfl, rfl, ⟨_, _, ⟨5, rfl⟩, rfl, rfl⟩, ⟨_, _, ⟨5, rfl⟩, rfl, rfl⟩⟩

end VFlow
