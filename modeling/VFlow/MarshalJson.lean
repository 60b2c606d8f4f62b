import VFlow.Printed

/-!
# What the published text is read as

The text of a value, of a field, of a record and of a message, each with the JSON value it stands for
and the condition under which it is read as that value, which is one on the strings in it. The strings are to
stand for themselves, or to be the insides of literals (`StringReading`).
-/

namespace VFlow

open Json (text quote comma Numeral PlainText Spells StringReading Member object array commas)

/-! ## Values -/

/-- A value that `writeValue` has a JSON text for: a boolean has none, nor has an infinite float. -/
def Value.printable : Value → Bool
  | .bool _ => false
  | .float32 bits => !special32 bits
  | .float64 bits => !special64 bits
  | _ => true

/-- The JSON value of a printable value, with what its strings are read as. -/
def Value.jsonAs (ρ : StringReading) (shortest : Shortest) : Value → Json
  | .uint8 v => .int v.toNat
  | .uint16 v => .int v.toNat
  | .uint32 v => .int v.toNat
  | .uint64 v => .int v.toInt64.toInt
  | .int8 v => .int v.toInt
  | .int16 v => .int v.toInt
  | .int32 v => .int v.toInt
  | .int64 v => .int v.toInt
  | .float32 bits => ((shortest.float32 bits).numeral (bits >>> 31 = 1)).json
  | .float64 bits => ((shortest.float64 bits).numeral (bits >>> 63 = 1)).json
  | .string s => ρ.json s
  | .ip a => .str (text (IP.string a))
  | .hardwareAddr a => .str (text (hardwareAddrString a))
  | .bytes b => .str (text ("0x" ++ IP.hexString b))
  | .bool _ => .null

/-- The strings that stand for themselves. -/
abbrev Value.json : Shortest → Value → Json := Value.jsonAs .asThemselves

/-- The strings of a value that are written as they came: no other value has any. -/
def Value.Holds (ρ : StringReading) : Value → Prop
  | .string s => ρ.holds s
  | _ => True

abbrev Value.Plain : Value → Prop := Value.Holds .asThemselves

instance (ρ : StringReading) [DecidablePred ρ.holds] : DecidablePred (Value.Holds ρ)
  | .string s => inferInstanceAs (Decidable (ρ.holds s))
  | .bytes _ | .bool _ | .uint8 _ | .uint16 _ | .uint32 _ | .uint64 _ | .int8 _ | .int16 _ | .int32 _ | .int64 _
  | .float32 _ | .float64 _ | .hardwareAddr _ | .ip _ => .isTrue trivial

def Value.text (shortest : Shortest) (v : Value) : List UInt8 := (writeValue shortest v []).1

def Value.marshalError : Value → Option MarshalError
  | .bool _ => some .uknownMarshalDataType
  | _ => none

theorem writeValue_eq (shortest : Shortest) (v : Value) (b : Buffer) :
    writeValue shortest v b = (b ++ v.text shortest, v.marshalError) := by
  cases v <;> simp [writeValue, Value.text, Value.marshalError]

section Values

variable {i : Json.Invalid}

theorem spells_nil : Spells i True none [] := by
  intro n hn
  obtain ⟨n, rfl⟩ := Nat.exists_eq_succ_of_ne_zero (Nat.ne_zero_of_lt hn)
  constructor
  · intro _ rest hrest
    match rest with
    | [] => rfl
    | c :: rest =>
      rcases hrest c (by simp) with rfl | rfl | rfl
      · exact Json.value_number (by decide) (by decide)
      · exact Json.value_number (by decide) (by decide)
      · exact Json.value_number (by decide) (by decide)
  · intro h
    exact absurd trivial h

theorem number_eq_none {w : List UInt8} (h : ∀ c ∈ (Json.sign false w).2.head?, Json.isDigit c = false) :
    Json.number w = none := by
  have hdigits : (Json.sign false w).2.takeWhile Json.isDigit = [] := by
    match hw : (Json.sign false w).2 with
    | [] => rfl
    | c :: v => simp [h c (by simp [hw])]
  simp [Json.number, Json.integer, Json.digits, hdigits]

theorem spells_special (negative fraction : Bool) (d : Decimal) :
    Spells i True none (formatFloat negative true fraction d) := by
  unfold formatFloat
  rw [if_pos rfl]
  split_ifs
  · refine Spells.number (c := 0x4e) (v := [0x61, 0x4e]) (by decide) fun _ _ => number_eq_none ?_
    simp [Json.sign]
    decide
  · refine Spells.number (c := 0x2d) (v := [0x49, 0x6e, 0x66]) (by decide) fun _ _ => number_eq_none ?_
    simp [Json.sign]
    decide
  · refine Spells.number (c := 0x2b) (v := [0x49, 0x6e, 0x66]) (by decide) fun _ _ => number_eq_none ?_
    simp [Json.sign]
    decide

theorem spells_formatInt (n : Int) : Spells i True (some (.int n)) (formatInt n) :=
  formatInt_eq n ▸ Spells.int n

theorem spells_formatFloat (negative special fraction : Bool) (d : Decimal) :
    Spells i True (if !special then some (d.numeral negative).json else none)
      (formatFloat negative special fraction d) := by
  cases special with
  | true => exact spells_special negative fraction d
  | false =>
    have hfinite : formatFloat negative false fraction d = (d.numeral negative).text := formatE_eq negative d
    rw [hfinite]
    exact Spells.numeral _

theorem spells_printed (ρ : StringReading) {s : String} (h : PlainString s) :
    Spells ρ.invalid True (some (.str (text s))) (quote :: text s ++ [quote]) := by
  obtain ⟨hs, hjson⟩ := ρ.plain _ h.plainText
  have hspells := ρ.spells (text s)
  rwa [eq_true hs, hjson] at hspells

end Values

/-- The text of a value is read as its JSON value when its strings are read as they are meant to be, and only then. -/
theorem spells_value (ρ : StringReading) (shortest : Shortest) (v : Value) :
    Spells ρ.invalid (v.Holds ρ) (if v.printable then some (v.jsonAs ρ shortest) else none) (v.text shortest) := by
  cases v with
  | string s => exact ρ.spells s
  | bool _ => exact spells_nil
  | float32 bits => exact spells_formatFloat _ _ _ _
  | float64 bits => exact spells_formatFloat _ _ _ _
  | ip a => exact spells_printed ρ (plainString_ip a)
  | hardwareAddr a => exact spells_printed ρ (plainString_hardwareAddrString a)
  | bytes b => exact spells_printed ρ ((show PlainString "0x" by decide).append (plainString_hexString b))
  | _ => exact spells_formatInt _

theorem Value.as_of_plain {v : Value} (h : v.Plain) (ρ : StringReading) (shortest : Shortest) :
    v.Holds ρ ∧ v.jsonAs ρ shortest = v.json shortest := by
  cases v with
  | string s => exact ρ.plain s h
  | _ => exact ⟨trivial, rfl⟩

/-! ## The loops -/

theorem forRange_commas {α : Type} {body : Nat → α → Buffer × Option MarshalError → Buffer × Option MarshalError}
    {w : α → List UInt8} (err : α → Option MarshalError → Option MarshalError) {length : Nat}
    (hbody : ∀ i x s, body i x s = (s.1 ++ w x ++ (if i < length - 1 then [comma] else []), err x s.2))
    {i : Nat} {xs : List α} (hlength : i + xs.length = length) (s : Buffer × Option MarshalError) :
    forRange body i xs s = (s.1 ++ commas (xs.map w), xs.foldl (fun e x => err x e) s.2) := by
  induction xs generalizing i s with
  | nil => simp [forRange]
  | cons x xs ih =>
    rw [List.length_cons] at hlength
    rw [forRange, ih (by omega), hbody]
    match xs with
    | [] =>
      rw [List.length_nil] at hlength
      simp [show ¬i < length - 1 by omega]
    | y :: ys =>
      rw [List.length_cons] at hlength
      simp [show i < length - 1 by omega]

/-! ## Fields and records -/

/-- The error that is left when the loop over the fields ends. -/
def fieldsError (vs : List Value) (err : Option MarshalError) : Option MarshalError :=
  vs.foldl (fun _ v => v.marshalError) err

theorem fieldsError_eq {φ : Type} (value : φ → Value) (fs : List φ) :
    fieldsError (fs.map value) none = fs.getLast?.bind fun f => (value f).marshalError := by
  unfold fieldsError
  cases fs using List.reverseRecOn with
  | nil => rfl
  | append_singleton fs f => simp

def intMember (name : List UInt8) (i : Int) : Member where
  name
  holds := True
  json := some (.int i)
  spelled := formatInt i

@[simp] theorem pair_intMember (name : List UInt8) (i : Int) : (intMember name i).pair = some (name, .int i) := rfl

/-- The shape of a field as JSON: the members after `I` and `V`, all of them numbers. -/
structure FieldJson (φ : Type) extends FieldShape φ where
  extra : φ → List (List UInt8 × Int)
  plain_extra : ∀ f, ∀ m ∈ extra f, PlainText m.1
  more_eq : ∀ f, more f = (extra f).flatMap fun m => comma :: quote :: m.1 ++ quote :: 0x3a :: formatInt m.2

section Fields

variable {φ : Type} (ρ : StringReading) (shortest : Shortest) (shape : FieldJson φ)

def valueMember (v : Value) : Member where
  name := text "V"
  holds := v.Holds ρ
  json := if v.printable then some (v.jsonAs ρ shortest) else none
  spelled := v.text shortest

def fieldMembers (f : φ) : List Member :=
  intMember (text "I") (shape.id f).toNat :: valueMember ρ shortest (shape.value f) ::
    (shape.extra f).map fun m => intMember m.1 m.2

def fieldJson (f : φ) : Json :=
  .obj ((text "I", .int (shape.id f).toNat) :: (text "V", (shape.value f).jsonAs ρ shortest) ::
    (shape.extra f).map fun m => (m.1, .int m.2))

def fieldText (f : φ) : List UInt8 :=
  text "\x7b\"I\":" ++ formatInt (shape.id f).toNat ++ text ",\"V\":" ++ (shape.value f).text shortest ++
    shape.more f ++ text "\x7d"

theorem object_fieldMembers (f : φ) :
    object ((fieldMembers ρ shortest shape f).map Member.text) = fieldText shortest shape f := by
  have hI : text "\x7b\"I\":" = 0x7b :: quote :: text "I" ++ [quote, 0x3a] := rfl
  have hV : text ",\"V\":" = comma :: quote :: text "V" ++ [quote, 0x3a] := rfl
  have hclose : text "\x7d" = [0x7d] := rfl
  unfold fieldText fieldMembers object
  rw [List.map_cons, List.map_cons, Json.commas_cons, List.flatMap_cons, shape.more_eq, hI, hV, hclose]
  simp [Member.text, List.flatMap_map, intMember, valueMember]

theorem encodeField_eq (length j : Nat) (f : φ) (s : Buffer × Option MarshalError) :
    encodeField shortest shape.toFieldShape length j f s =
      (s.1 ++ fieldText shortest shape f ++ (if j < length - 1 then [comma] else []),
        (shape.value f).marshalError) := by
  have hclose : text "\x7d," = text "\x7d" ++ [comma] := rfl
  simp only [encodeField, writeValue_eq, fieldText]
  split_ifs
  · simp [hclose]
  · simp

theorem spells_fieldMembers (f : φ) :
    (∀ m ∈ fieldMembers ρ shortest shape f, PlainText m.name) ∧
      ∀ m ∈ fieldMembers ρ shortest shape f, Spells ρ.invalid m.holds m.json m.spelled := by
  simp only [fieldMembers, List.forall_mem_cons, List.forall_mem_map]
  refine ⟨⟨PlainString.plainText (by decide), PlainString.plainText (by decide), ?_⟩, ?_, ?_, ?_⟩
  · exact shape.plain_extra f
  · exact spells_formatInt _
  · exact spells_value ρ shortest _
  · exact fun m _ => spells_formatInt m.2

theorem spells_field (f : φ) :
    Spells ρ.invalid ((shape.value f).Holds ρ)
      (if (shape.value f).printable then some (fieldJson ρ shortest shape f) else none)
      (fieldText shortest shape f) := by
  obtain ⟨hnames, hspells⟩ := spells_fieldMembers ρ shortest shape f
  rw [← object_fieldMembers ρ]
  refine (Spells.obj hnames hspells).congr ?_ ?_
  · simp only [fieldMembers, List.forall_mem_cons, List.forall_mem_map]
    exact ⟨fun h => h.2.1, fun h => ⟨trivial, h, fun _ _ => trivial⟩⟩
  · have hextra : ((shape.extra f).map fun m => intMember m.1 m.2).mapM Member.pair =
        some ((shape.extra f).map fun m => (m.1, Json.int m.2)) := by
      rw [List.mapM_map]
      exact List.mapM_pure
    rw [fieldMembers, List.mapM_cons, List.mapM_cons, hextra, pair_intMember]
    unfold Member.pair valueMember fieldJson
    cases (shape.value f).printable <;> rfl

/-! ## Records and messages -/

def dataSetsJson (dataSets : List (List φ)) : Json :=
  .arr (dataSets.map fun fs => .arr (fs.map (fieldJson ρ shortest shape)))

def dataSetsText (dataSets : List (List φ)) : List UInt8 :=
  array (dataSets.map fun fs => array (fs.map (fieldText shortest shape)))

def dataSetsPrintable (dataSets : List (List φ)) : Bool :=
  dataSets.all fun fs => fs.all fun f => (shape.value f).printable

theorem spells_dataSets (dataSets : List (List φ)) :
    Spells ρ.invalid (∀ fs ∈ dataSets, ∀ f ∈ fs, (shape.value f).Holds ρ)
      (if dataSetsPrintable shape dataSets then some (dataSetsJson ρ shortest shape dataSets) else none)
      (dataSetsText shortest shape dataSets) := by
  have hrecord (fs : List φ) : Spells ρ.invalid (∀ f ∈ fs, (shape.value f).Holds ρ)
      (if fs.all fun f => (shape.value f).printable then some (.arr (fs.map (fieldJson ρ shortest shape))) else none)
      (array (fs.map (fieldText shortest shape))) := by
    refine (Spells.arr (fun f _ => ?_) fun f _ => spells_field ρ shortest shape f).congr Iff.rfl ?_
    · rw [← object_fieldMembers ρ]
      exact Json.starts_object _
    rw [Json.mapM_ite]
    split_ifs <;> rfl
  refine (Spells.arr (fun fs _ => Json.starts_array _) fun fs _ => hrecord fs).congr Iff.rfl ?_
  rw [Json.mapM_ite]
  unfold dataSetsPrintable
  split_ifs <;> rfl

theorem encodeRecord_eq (dsLength i : Nat) (fs : List φ) (s : Buffer × Option MarshalError) :
    encodeRecord shortest shape.toFieldShape dsLength i fs s =
      (s.1 ++ array (fs.map (fieldText shortest shape)) ++ (if i < dsLength - 1 then [comma] else []),
        fieldsError (fs.map shape.value) s.2) := by
  have hopen : text "[" = [0x5b] := rfl
  have hclose : text "]" = [0x5d] := rfl
  have hnext : text "]," = [0x5d, comma] := rfl
  have hfields := forRange_commas (fun f _ => (shape.value f).marshalError)
    (encodeField_eq shortest shape fs.length) (Nat.zero_add _) (s.1 ++ [0x5b], s.2)
  simp only [encodeRecord, hopen, hfields, fieldsError, List.foldl_map, array, hclose, hnext]
  split_ifs <;> simp

theorem encodeDataSet_eq (dataSets : List (List φ)) (b : Buffer) :
    encodeDataSet shortest shape.toFieldShape dataSets b =
      (b ++ text "\"DataSets\":" ++ dataSetsText shortest shape dataSets,
        fieldsError (dataSets.flatten.map shape.value) none) := by
  have hopen : text "[" = [0x5b] := rfl
  have hclose : text "]" = [0x5d] := rfl
  have hrecords := forRange_commas (fun (fs : List φ) e => fieldsError (fs.map shape.value) e)
    (encodeRecord_eq shortest shape dataSets.length) (Nat.zero_add _) (b ++ text "\"DataSets\":" ++ [0x5b], none)
  simp only [encodeDataSet, hopen, hrecords, hclose]
  simp [fieldsError, dataSetsText, array, List.foldl_map, List.foldl_flatten]

end Fields

/-! ## Messages -/

/-- A type of messages with its part of `JSONMarshal`, as the packages `ipfix` and `netflow9` have one each. -/
structure MessageShape (M φ : Type) where
  field : FieldJson φ
  agentID : M → String
  header : M → List (String × Nat)
  dataSets : M → List (List φ)
  encodeHeader : M → Buffer → Buffer
  plainString_header : ∀ m, ∀ h ∈ header m, PlainString h.1
  encodeHeader_eq : ∀ m b, encodeHeader m b =
    b ++ text "\"Header\":" ++ object ((header m).map fun h => (intMember (text h.1) h.2).text) ++ [comma]

namespace MessageShape

variable {M φ : Type} (shape : MessageShape M φ) (ρ : StringReading) (shortest : Shortest) (m : M)

def jsonMarshal : Buffer → Except MarshalError Buffer :=
  VFlow.jsonMarshal (encodeAgent (shape.agentID m)) (shape.encodeHeader m)
    (encodeDataSet shortest shape.field.toFieldShape (shape.dataSets m))

/-- The JSON that a message stands for. -/
def json : Json :=
  .obj [(text "AgentID", ρ.json (text (shape.agentID m))),
    (text "Header", .obj ((shape.header m).map fun h => (text h.1, .int h.2))),
    (text "DataSets", dataSetsJson ρ shortest shape.field (shape.dataSets m))]

/-- Every value of the message has a JSON text. -/
def Printable : Prop := ∀ fs ∈ shape.dataSets m, ∀ f ∈ fs, (shape.field.value f).printable = true

instance : Decidable (shape.Printable m) :=
  inferInstanceAs (Decidable (∀ fs ∈ shape.dataSets m, ∀ f ∈ fs, (shape.field.value f).printable = true))

/-- Every string of the message is read as it is meant to be. -/
def Holds : Prop :=
  ρ.holds (text (shape.agentID m)) ∧ ∀ fs ∈ shape.dataSets m, ∀ f ∈ fs, (shape.field.value f).Holds ρ

/-- The last field of the message is a boolean. -/
def EndsInBool : Prop := ∃ f ∈ (shape.dataSets m).flatten.getLast?, ∃ v, shape.field.value f = .bool v

/-- The members of a message: the agent, the header and the data sets. -/
def members : List Member :=
  [{ name := text "AgentID"
     holds := ρ.holds (text (shape.agentID m))
     json := some (ρ.json (text (shape.agentID m)))
     spelled := quote :: text (shape.agentID m) ++ [quote] },
   { name := text "Header"
     holds := True
     json := some (.obj ((shape.header m).map fun h => (text h.1, .int h.2)))
     spelled := object ((shape.header m).map fun h => (intMember (text h.1) h.2).text) },
   { name := text "DataSets"
     holds := ∀ fs ∈ shape.dataSets m, ∀ f ∈ fs, (shape.field.value f).Holds ρ
     json :=
      if dataSetsPrintable shape.field (shape.dataSets m) then
        some (dataSetsJson ρ shortest shape.field (shape.dataSets m))
      else none
     spelled := dataSetsText shortest shape.field (shape.dataSets m) }]

variable {shape m}

theorem dataSetsPrintable_iff : dataSetsPrintable shape.field (shape.dataSets m) = true ↔ shape.Printable m := by
  simp [dataSetsPrintable, Printable]

theorem not_endsInBool (h : shape.Printable m) : ¬shape.EndsInBool m := by
  rintro ⟨f, hf, v, hv⟩
  obtain ⟨fs, hfs, hmem⟩ := List.mem_flatten.mp (List.mem_of_getLast? hf)
  have hprint := h fs hfs f hmem
  rw [hv] at hprint
  exact Bool.false_ne_true hprint

variable (shape m)

theorem spells_header : Spells ρ.invalid True (some (.obj ((shape.header m).map fun h => (text h.1, .int h.2))))
    (object ((shape.header m).map fun h => (intMember (text h.1) h.2).text)) := by
  have hnames : ∀ x ∈ (shape.header m).map fun h => intMember (text h.1) h.2, PlainText x.name := by
    rw [List.forall_mem_map]
    exact fun h hh => (shape.plainString_header m h hh).plainText
  have hspells : ∀ x ∈ (shape.header m).map fun h => intMember (text h.1) h.2,
      Spells ρ.invalid x.holds x.json x.spelled := by
    rw [List.forall_mem_map]
    exact fun h _ => spells_formatInt h.2
  have hobj := Spells.obj hnames hspells
  rw [List.map_map] at hobj
  refine hobj.congr ?_ ?_
  · rw [List.forall_mem_map]
    exact ⟨fun _ => trivial, fun _ _ _ => trivial⟩
  · rw [List.mapM_map]
    exact congrArg (Option.map Json.obj) List.mapM_pure

/-- The text of a message is read as its JSON exactly when its strings are read as they are meant to be, provided
that all of its values have a JSON text. -/
theorem spells_members : Spells ρ.invalid (shape.Holds ρ m)
    (if dataSetsPrintable shape.field (shape.dataSets m) then some (shape.json ρ shortest m) else none)
    (object ((shape.members ρ shortest m).map Member.text)) := by
  have hnames : ∀ x ∈ shape.members ρ shortest m, PlainText x.name := by
    simp only [members, List.forall_mem_cons, List.not_mem_nil, false_imp_iff, implies_true, and_true]
    exact ⟨PlainString.plainText (by decide), PlainString.plainText (by decide), PlainString.plainText (by decide)⟩
  have hspells : ∀ x ∈ shape.members ρ shortest m, Spells ρ.invalid x.holds x.json x.spelled := by
    simp only [members, List.forall_mem_cons, List.not_mem_nil, false_imp_iff, implies_true, and_true]
    exact ⟨ρ.spells _, shape.spells_header ρ m, spells_dataSets ρ shortest shape.field (shape.dataSets m)⟩
  refine (Spells.obj hnames hspells).congr ?_ ?_
  · simp only [members, List.forall_mem_cons, List.not_mem_nil, false_imp_iff, implies_true, and_true]
    exact ⟨fun h => ⟨h.1, h.2.2⟩, fun h => ⟨h.1, trivial, h.2⟩⟩
  · rw [members, List.mapM_cons, List.mapM_cons, List.mapM_cons, List.mapM_nil]
    unfold Member.pair json
    cases dataSetsPrintable shape.field (shape.dataSets m) <;> rfl

theorem jsonMarshal_eq (b : Buffer) :
    shape.jsonMarshal shortest m b =
      match fieldsError ((shape.dataSets m).flatten.map shape.field.value) none with
      | some err => .error err
      | none => .ok (b ++ object ((shape.members ρ shortest m).map Member.text)) := by
  have hagent : text "\"AgentID\":\"" = quote :: text "AgentID" ++ [quote, 0x3a, quote] := rfl
  have hend : text "\"," = [quote, comma] := rfl
  have hname : text "\"Header\":" = quote :: text "Header" ++ [quote, 0x3a] := rfl
  have hsets : text "\"DataSets\":" = quote :: text "DataSets" ++ [quote, 0x3a] := rfl
  have hopen : text "\x7b" = [0x7b] := rfl
  have hclose : text "\x7d" = [0x7d] := rfl
  have htext : object ((shape.members ρ shortest m).map Member.text) =
      text "\x7b" ++ text "\"AgentID\":\"" ++ text (shape.agentID m) ++ text "\"," ++ text "\"Header\":" ++
        object ((shape.header m).map fun h => (intMember (text h.1) h.2).text) ++ [comma] ++ text "\"DataSets\":" ++
        dataSetsText shortest shape.field (shape.dataSets m) ++ text "\x7d" := by
    rw [hagent, hend, hname, hsets, hopen, hclose]
    simp [members, Member.text, object]
  unfold jsonMarshal VFlow.jsonMarshal
  rw [shape.encodeHeader_eq, encodeDataSet_eq]
  cases fieldsError ((shape.dataSets m).flatten.map shape.field.value) none with
  | some err => rfl
  | none => simp [htext, encodeAgent]

theorem jsonMarshal_isOk {b₀ : Buffer} : (∃ b, shape.jsonMarshal shortest m b₀ = .ok b) ↔ ¬shape.EndsInBool m := by
  rw [shape.jsonMarshal_eq .asThemselves, fieldsError_eq, EndsInBool]
  cases (shape.dataSets m).flatten.getLast? with
  | none => simp
  | some f => cases hf : shape.field.value f <;> simp [hf, Value.marshalError]

variable {shape shortest m}

theorem spells_of_jsonMarshal {b : Buffer} (h : shape.jsonMarshal shortest m [] = .ok b) :
    Spells ρ.invalid (shape.Holds ρ m)
      (if dataSetsPrintable shape.field (shape.dataSets m) then some (shape.json ρ shortest m) else none) b := by
  rw [shape.jsonMarshal_eq ρ] at h
  split at h
  · simp at h
  · rw [← Except.ok.inj h, List.nil_append]
    exact shape.spells_members ρ shortest m

/-- What `JSONMarshal` returns for a message whose values all have a JSON text is read as the JSON of
the message exactly when its strings are read as they are meant to be. -/
theorem parse_iff {b : Buffer} (h : shape.jsonMarshal shortest m [] = .ok b) (hprint : shape.Printable m) :
    Json.parseAs ρ.invalid b = some (shape.json ρ shortest m) ↔ shape.Holds ρ m := by
  have hspells := spells_of_jsonMarshal ρ h
  rw [if_pos (dataSetsPrintable_iff.mpr hprint)] at hspells
  exact hspells.parse_eq_some

theorem eq_json_of_parse {b : Buffer} {j : Json} (h : shape.jsonMarshal shortest m [] = .ok b)
    (hholds : shape.Holds ρ m) (hj : Json.parseAs ρ.invalid b = some j) : j = shape.json ρ shortest m := by
  rw [(spells_of_jsonMarshal ρ h).parse hholds] at hj
  split_ifs at hj
  exact (Option.some.inj hj).symm

theorem exists_text (shortest : Shortest) (hprint : shape.Printable m) (hholds : shape.Holds ρ m) :
    ∃ b, shape.jsonMarshal shortest m [] = .ok b ∧ Json.parseAs ρ.invalid b = some (shape.json ρ shortest m) := by
  obtain ⟨b, hb⟩ := (shape.jsonMarshal_isOk shortest m).mpr (not_endsInBool hprint)
  exact ⟨b, hb, (parse_iff ρ hb hprint).mpr hholds⟩

theorem as_of_plain (shortest : Shortest) (hplain : shape.Holds .asThemselves m) :
    shape.Holds ρ m ∧ shape.json ρ shortest m = shape.json .asThemselves shortest m := by
  obtain ⟨hagent, hfields⟩ := hplain
  have hvalue (fs) (hfs : fs ∈ shape.dataSets m) (f) (hf : f ∈ fs) := Value.as_of_plain (hfields fs hfs f hf) ρ shortest
  refine ⟨⟨(ρ.plain _ hagent).1, fun fs hfs f hf => (hvalue fs hfs f hf).1⟩, ?_⟩
  have hsets : dataSetsJson ρ shortest shape.field (shape.dataSets m) =
      dataSetsJson .asThemselves shortest shape.field (shape.dataSets m) := by
    refine congrArg Json.arr (List.map_congr_left fun fs hfs => congrArg Json.arr (List.map_congr_left fun f hf => ?_))
    rw [fieldJson, fieldJson, (hvalue fs hfs f hf).2]
  rw [json, json, hsets, (ρ.plain _ hagent).2]
  rfl

end MessageShape

end VFlow
