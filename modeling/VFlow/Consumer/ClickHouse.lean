import VFlow.Base.Unmarshal
import VFlow.Published

/-!
# The ClickHouse consumer

`consumers/clickhouse/main.go`: a message from the bus is unmarshalled into an `ipfix` value, and the
loop over its data sets takes a few elements by their id. A type assertion of the loop that fails is a
panic; here the loop is then `none`.

A message that `json.Unmarshal` refuses is logged and passed over.
-/

namespace VFlow.ClickHouse

open Json (text named Slice StringReading unmarshalInt unmarshalString unmarshalInterface unmarshalSlice
  unmarshalStruct)

/-- `dataField`; `V` is `nil` where no value was given. -/
structure DataField where
  i : Int := 0
  v : Option Json := none

structure Ipfix where
  agentID : List UInt8 := []
  dataSets : Slice (Slice DataField) := {}

/-! ## Unmarshalling -/

def unmarshalDataField : Json.Unmarshal DataField :=
  unmarshalStruct [
    .of "I" unmarshalInt (·.i) ({ · with i := · }),
    .of "V" (fun _ j => some (unmarshalInterface j)) (·.v) ({ · with v := · })]

def unmarshalIpfix : Json → Option Ipfix :=
  unmarshalStruct [
    .of "AgentID" unmarshalString (·.agentID) ({ · with agentID := · }),
    .of "DataSets" (unmarshalSlice (unmarshalSlice unmarshalDataField {}) {}) (·.dataSets)
      ({ · with dataSets := · })] {}

/-! ## The loop over the data sets -/

/-- `dIPFIXSample`, without the device, which is not set. A number `m * 10 ^ e` stands as `(m, e)`. -/
structure Sample where
  src : List UInt8 := []
  dst : List UInt8 := []
  srcASN : Int × Int := (0, 0)
  dstASN : Int × Int := (0, 0)
  proto : Int × Int := (0, 0)

/-- `V.(string)`. -/
def assertString : Option Json → Option (List UInt8)
  | some (.str s) => some s
  | _ => none

/-- `V.(float64)`. -/
def assertFloat64 : Option Json → Option (Int × Int)
  | some (.int i) => some (i, 0)
  | some (.num m e) => some (m, e)
  | _ => none

def sampleField (s : Sample) (dd : DataField) : Option Sample :=
  if dd.i = 8 ∨ dd.i = 27 then (assertString dd.v).map fun src => { s with src }
  else if dd.i = 12 ∨ dd.i = 28 then (assertString dd.v).map fun dst => { s with dst }
  else if dd.i = 16 then (assertFloat64 dd.v).map fun srcASN => { s with srcASN }
  else if dd.i = 17 then (assertFloat64 dd.v).map fun dstASN => { s with dstASN }
  else if dd.i = 4 then (assertFloat64 dd.v).map fun proto => { s with proto }
  else some s

/-- `ingestClickHouse` for one message: the rows it inserts. -/
def ingestClickHouse (sample : Ipfix) : Option (List Sample) :=
  sample.dataSets.live.mapM fun data => data.live.foldlM sampleField {}

def Accepts (j : Json) : Prop := ∃ sample rows, unmarshalIpfix j = some sample ∧ ingestClickHouse sample = some rows

/-! ## Published messages -/

section published

variable (ρ : StringReading) (shortest : Shortest)

def DataField.ofDecoded (f : Ipfix.DecodedField) : DataField where
  i := f.id.toNat
  v := unmarshalInterface (f.value.jsonAs ρ shortest)

theorem unmarshalDataField_json (f : Ipfix.DecodedField) :
    unmarshalDataField {} (fieldJson ρ shortest VFlow.Ipfix.DecodedField.jsonShape f) =
      some (.ofDecoded ρ shortest f) := by
  have hI : named "I" (text "I") = true := by decide
  have hV : named "I" (text "V") = false ∧ named "V" (text "V") = true := by decide
  have hE : named "I" (text "E") = false ∧ named "V" (text "E") = false := by decide
  have hid : unmarshalInt 0 (.int f.id.toNat) = some (f.id.toNat : Int) := by
    have hlt := f.id.toNat_lt
    rw [unmarshalInt, if_pos ⟨by omega, by omega⟩]
  unfold fieldJson VFlow.Ipfix.DecodedField.jsonShape VFlow.Ipfix.DecodedField.shape
  by_cases hf : f.enterpriseNo = 0
  · simp [unmarshalDataField, unmarshalStruct, Json.setMember, Json.Setter.of, hI, hV, hid, hf, DataField.ofDecoded]
  · simp [unmarshalDataField, unmarshalStruct, Json.setMember, Json.Setter.of, hI, hV, hE, hid, hf,
      DataField.ofDecoded]

def ofDataSets (dataSets : List (List VFlow.Ipfix.DecodedField)) : Slice (Slice DataField) where
  live := dataSets.map fun fs => { live := fs.map (.ofDecoded ρ shortest) }

theorem unmarshalIpfix_json (m : VFlow.Ipfix.Message) :
    ∃ agentID, (∀ t, ρ.json (text m.agentID) = .str t → agentID = t) ∧
      unmarshalIpfix (VFlow.Ipfix.Message.shape.json ρ shortest m) =
        some { agentID, dataSets := ofDataSets ρ shortest m.dataSets } := by
  have hagent : named "AgentID" (text "AgentID") = true := by decide +kernel
  have hheader : named "AgentID" (text "Header") = false ∧ named "DataSets" (text "Header") = false := by decide +kernel
  have hsets : named "AgentID" (text "DataSets") = false ∧ named "DataSets" (text "DataSets") = true := by
    decide +kernel
  have hrecords := Json.unmarshalSlice_empty
    (fun fs => Json.unmarshalSlice_empty (unmarshalDataField_json ρ shortest) fs) m.dataSets
  obtain ⟨agentID, ht, hstring⟩ : ∃ agentID, (∀ t, ρ.json (text m.agentID) = .str t → agentID = t) ∧
      unmarshalString [] (ρ.json (text m.agentID)) = some agentID := by
    rcases ρ.string (text m.agentID) with hnull | ⟨t, ht⟩
    · exact ⟨[], fun t ht => absurd (hnull.symm.trans ht) (by simp), by rw [hnull, unmarshalString]⟩
    · exact ⟨t, fun t' ht' => Json.str.inj (ht.symm.trans ht'), by rw [ht, unmarshalString]⟩
  refine ⟨agentID, ht, ?_⟩
  unfold MessageShape.json VFlow.Ipfix.Message.shape dataSetsJson
  simp [unmarshalIpfix, unmarshalStruct, Json.setMember, Json.Setter.of, hagent, hheader, hsets, hstring, hrecords,
    ofDataSets]

end published

/-! ## Type assertions -/

def stringIDs : List Int := [8, 27, 12, 28]

def numberIDs : List Int := [16, 17, 4]

def DataField.Asserted (dd : DataField) : Prop :=
  (dd.i ∈ stringIDs → (assertString dd.v).isSome) ∧ (dd.i ∈ numberIDs → (assertFloat64 dd.v).isSome)

instance : DecidablePred DataField.Asserted := fun dd => inferInstanceAs (Decidable
  ((dd.i ∈ stringIDs → (assertString dd.v).isSome) ∧ (dd.i ∈ numberIDs → (assertFloat64 dd.v).isSome)))

theorem sampleField_isSome (s : Sample) (dd : DataField) : (sampleField s dd).isSome ↔ dd.Asserted := by
  unfold sampleField DataField.Asserted stringIDs numberIDs
  split_ifs with hsrc hdst hsrcASN hdstASN hproto
  · rcases hsrc with h | h <;> simp [h]
  · rcases hdst with h | h <;> simp [h]
  · simp [hsrcASN]
  · simp [hdstASN]
  · simp [hproto]
  · simp_all

theorem foldlM_isSome (dds : List DataField) (s : Sample) :
    (dds.foldlM sampleField s).isSome ↔ ∀ dd ∈ dds, dd.Asserted := by
  induction dds generalizing s with
  | nil => simp
  | cons dd dds ih =>
    rw [List.foldlM_cons, List.forall_mem_cons, ← sampleField_isSome s dd]
    cases hs : sampleField s dd with
    | none => simp
    | some s' => simpa [hs] using ih s'

theorem mapM_isSome {α β : Type} {f : α → Option β} (xs : List α) :
    (xs.mapM f).isSome ↔ ∀ x ∈ xs, (f x).isSome := by
  induction xs with
  | nil => simp
  | cons x xs ih =>
    rw [List.mapM_cons, List.forall_mem_cons, ← ih]
    cases f x with
    | none => simp
    | some y => cases xs.mapM f <;> simp

theorem accepts_json_iff (ρ : StringReading) (shortest : Shortest) (m : VFlow.Ipfix.Message) :
    Accepts (VFlow.Ipfix.Message.shape.json ρ shortest m) ↔
      ∀ fs ∈ m.dataSets, ∀ f ∈ fs, (DataField.ofDecoded ρ shortest f).Asserted := by
  obtain ⟨agentID, -, hread⟩ := unmarshalIpfix_json ρ shortest m
  have hingest : Accepts (VFlow.Ipfix.Message.shape.json ρ shortest m) ↔
      (ingestClickHouse { agentID, dataSets := ofDataSets ρ shortest m.dataSets }).isSome := by
    simp [Accepts, hread, Option.isSome_iff_exists]
  rw [hingest, ingestClickHouse, mapM_isSome]
  simp [foldlM_isSome, ofDataSets]

end VFlow.ClickHouse
