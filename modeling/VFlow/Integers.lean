import VFlow.Published

/-!
# Integers

What becomes of the integers of a field between the wire and the published text.

`Interpret` reads as many bytes as the type has, from the front of the field (`interpret_unsigned`). A field
that is longer than its type has its leading bytes read, so that its number is lost unless it is `0`. No
length makes `Interpret` read beyond the field: `interpretChecked` is `Interpret` with every index checked,
and no check fails.

`writeValue` converts an unsigned number to `int64`. What `JSONMarshal` writes for a field stands between two
texts that do not depend on its value (`jsonMarshal_around`), and this is the decimal of a number of 64 bits
exactly when the number is below `2 ^ 63`.
-/

namespace VFlow

open BigEndian
open Json (text commas comma array)

/-! ## Checked reads -/

section checked
variable (b : List UInt8)

/-- `binary.BigEndian.Uint16`, with every index checked. -/
def uint16? : Option UInt16 := do
  let b₁ ← b[1]?
  let b₀ ← b[0]?
  return b₁.toUInt16 ||| b₀.toUInt16 <<< 8

/-- `binary.BigEndian.Uint32`, with every index checked. -/
def uint32? : Option UInt32 := do
  let b₃ ← b[3]?
  let b₂ ← b[2]?
  let b₁ ← b[1]?
  let b₀ ← b[0]?
  return b₃.toUInt32 ||| b₂.toUInt32 <<< 8 ||| b₁.toUInt32 <<< 16 ||| b₀.toUInt32 <<< 24

/-- `binary.BigEndian.Uint64`, with every index checked. -/
def uint64? : Option UInt64 := do
  let b₇ ← b[7]?
  let b₆ ← b[6]?
  let b₅ ← b[5]?
  let b₄ ← b[4]?
  let b₃ ← b[3]?
  let b₂ ← b[2]?
  let b₁ ← b[1]?
  let b₀ ← b[0]?
  return b₇.toUInt64 ||| b₆.toUInt64 <<< 8 ||| b₅.toUInt64 <<< 16 ||| b₄.toUInt64 <<< 24 ||| b₃.toUInt64 <<< 32 |||
    b₂.toUInt64 <<< 40 ||| b₁.toUInt64 <<< 48 ||| b₀.toUInt64 <<< 56

/-- `Interpret`, with every index checked. -/
def interpretChecked (t : FieldType) : Option Value :=
  if b.length < t.minLen then some (.bytes b)
  else match t with
    | .boolean => b[0]?.map fun x => .bool (x = 1)
    | .uint8 => b[0]?.map .uint8
    | .uint16 => (uint16? b).map .uint16
    | .uint32 => (uint32? b).map .uint32
    | .uint64 => (uint64? b).map .uint64
    | .int8 => b[0]?.map fun x => .int8 x.toInt8
    | .int16 => (uint16? b).map fun x => .int16 x.toInt16
    | .int32 => (uint32? b).map fun x => .int32 x.toInt32
    | .int64 => (uint64? b).map fun x => .int64 x.toInt64
    | .float32 => (uint32? b).map .float32
    | .float64 => (uint64? b).map .float64
    | .macAddress => some (.hardwareAddr b)
    | .string => some (.string b)
    | .ipv4Address | .ipv6Address => some (.ip b)
    | .dateTimeSeconds => (uint32? b).map .uint32
    | .dateTimeMilliseconds | .dateTimeMicroseconds | .dateTimeNanoseconds => (uint64? b).map .uint64
    | .unknown | .octetArray => some (.bytes b)

variable {b}

theorem uint8?_of_lt {i : Nat} (h : i < b.length) : b[i]? = some (b.getD i 0) := by
  rw [List.getElem?_eq_getElem h, List.getD_eq_getElem _ _ h]

theorem uint16?_of_le (h : 2 ≤ b.length) : uint16? b = some (uint16 b) := by
  unfold uint16?
  rw [uint8?_of_lt (by omega), uint8?_of_lt (by omega)]
  rfl

theorem uint32?_of_le (h : 4 ≤ b.length) : uint32? b = some (uint32 b) := by
  unfold uint32?
  rw [uint8?_of_lt (by omega), uint8?_of_lt (by omega), uint8?_of_lt (by omega), uint8?_of_lt (by omega)]
  rfl

theorem uint64?_of_le (h : 8 ≤ b.length) : uint64? b = some (uint64 b) := by
  unfold uint64?
  rw [uint8?_of_lt (by omega), uint8?_of_lt (by omega), uint8?_of_lt (by omega), uint8?_of_lt (by omega),
    uint8?_of_lt (by omega), uint8?_of_lt (by omega), uint8?_of_lt (by omega), uint8?_of_lt (by omega)]
  rfl

theorem interpretChecked_eq (b : List UInt8) (t : FieldType) : interpretChecked b t = some (interpret b t) := by
  unfold interpretChecked interpret
  split_ifs with h
  · rfl
  · cases t with
    | boolean | uint8 | int8 =>
      dsimp only
      rw [uint8?_of_lt (show 0 < b.length from Nat.le_of_not_lt h)]
      rfl
    | uint16 | int16 =>
      dsimp only
      rw [uint16?_of_le (Nat.le_of_not_lt h)]
      rfl
    | uint32 | int32 | float32 | dateTimeSeconds =>
      dsimp only
      rw [uint32?_of_le (Nat.le_of_not_lt h)]
      rfl
    | uint64 | int64 | float64 | dateTimeMilliseconds | dateTimeMicroseconds | dateTimeNanoseconds =>
      dsimp only
      rw [uint64?_of_le (Nat.le_of_not_lt h)]
      rfl
    | macAddress | string | ipv4Address | ipv6Address | unknown | octetArray => rfl

end checked

/-! ## Fields that are longer than their type -/

/-- The unsigned integer types: the width in bytes, and the value that holds a number. -/
def FieldType.unsigned : FieldType → Option (Nat × (Nat → Value))
  | uint8 => some (1, fun n => .uint8 (UInt8.ofNat n))
  | uint16 => some (2, fun n => .uint16 (UInt16.ofNat n))
  | uint32 => some (4, fun n => .uint32 (UInt32.ofNat n))
  | uint64 => some (8, fun n => .uint64 (UInt64.ofNat n))
  | _ => none

theorem interpret_unsigned {t : FieldType} {w : Nat} {number : Nat → Value} (ht : t.unsigned = some (w, number))
    {b : List UInt8} (h : w ≤ b.length) : interpret b t = number (value (b.take w)) := by
  unfold interpret
  cases t with
  | uint8 =>
    cases ht
    match b, h with
    | x :: _, _ =>
      rw [if_neg (by simp [FieldType.minLen])]
      simp [value_cons]
  | uint16 =>
    cases ht
    rw [if_neg (show ¬b.length < FieldType.uint16.minLen from Nat.not_lt.mpr h), ← uint16_value h]
    exact congrArg Value.uint16 UInt16.ofNat_toNat.symm
  | uint32 =>
    cases ht
    rw [if_neg (show ¬b.length < FieldType.uint32.minLen from Nat.not_lt.mpr h), ← uint32_value h]
    exact congrArg Value.uint32 UInt32.ofNat_toNat.symm
  | uint64 =>
    cases ht
    rw [if_neg (show ¬b.length < FieldType.uint64.minLen from Nat.not_lt.mpr h), ← uint64_value h]
    exact congrArg Value.uint64 UInt64.ofNat_toNat.symm
  | _ => cases ht

theorem FieldType.number_inj {t : FieldType} {w : Nat} {number : Nat → Value} (ht : t.unsigned = some (w, number))
    {m n : Nat} (hm : m < 256 ^ w) (hn : n < 256 ^ w) (h : number m = number n) : m = n := by
  cases t with
  | uint8 =>
    cases ht
    have := congrArg UInt8.toNat (Value.uint8.inj h)
    rwa [UInt8.toNat_ofNat_of_lt' hm, UInt8.toNat_ofNat_of_lt' hn] at this
  | uint16 =>
    cases ht
    have := congrArg UInt16.toNat (Value.uint16.inj h)
    rwa [UInt16.toNat_ofNat_of_lt' hm, UInt16.toNat_ofNat_of_lt' hn] at this
  | uint32 =>
    cases ht
    have := congrArg UInt32.toNat (Value.uint32.inj h)
    rwa [UInt32.toNat_ofNat_of_lt' hm, UInt32.toNat_ofNat_of_lt' hn] at this
  | uint64 =>
    cases ht
    have := congrArg UInt64.toNat (Value.uint64.inj h)
    rwa [UInt64.toNat_ofNat_of_lt' hm, UInt64.toNat_ofNat_of_lt' hn] at this
  | _ => cases ht

theorem value_take_iff {b : List UInt8} {w : Nat} (h : w ≤ b.length) :
    value (b.take w) = value b ↔ b.length = w ∨ value b = 0 := by
  have hvalue : value b = value (b.take w) * 256 ^ (b.length - w) + value (b.drop w) := by
    rw [← List.length_drop, ← value_append, List.take_append_drop]
  constructor
  · intro heq
    rw [heq] at hvalue
    by_cases hlen : b.length = w
    · exact Or.inl hlen
    · right
      have hpow : 2 ≤ 256 ^ (b.length - w) := le_trans (by decide) (Nat.pow_le_pow_right (by decide) (by omega : 1 ≤ _))
      nlinarith
  · rintro (hlen | hzero)
    · rw [List.take_of_length_le (by omega)]
    · have hpow : 0 < 256 ^ (b.length - w) := Nat.pow_pos (by decide)
      nlinarith

/-- `Interpret` never reads beyond a field. It returns the number of a field that is at least as long as its type
and whose number fits the type exactly when the field is as long as the type or the number is `0`. -/
theorem interpret_whole_iff (t : FieldType) (b : List UInt8) :
    ((interpretChecked b t).isSome ∧
        ∀ w number, t.unsigned = some (w, number) → w ≤ b.length → value b < 256 ^ w →
          interpretChecked b t = some (number (value b))) ↔
      ∀ w number, t.unsigned = some (w, number) → w ≤ b.length → value b < 256 ^ w →
        b.length = w ∨ value b = 0 := by
  rw [interpretChecked_eq]
  simp only [Option.isSome_some, true_and, Option.some.injEq]
  refine forall_congr' fun w => forall_congr' fun number => forall_congr' fun ht => forall_congr' fun hlen =>
    forall_congr' fun hfit => ?_
  rw [interpret_unsigned ht hlen, ← value_take_iff hlen]
  constructor
  · intro h
    have htake : value (b.take w) < 256 ^ w := by
      have := value_lt (b.take w)
      rwa [List.length_take, Nat.min_eq_left hlen] at this
    exact FieldType.number_inj ht htake hfit h
  · exact congrArg number

theorem interpret_widened : FieldType.unsigned .uint16 = some (2, fun n => .uint16 (UInt16.ofNat n)) ∧
    value [0, 0, 7] = 7 ∧ interpretChecked [0, 0, 7] .uint16 = some (.uint16 0) :=
  ⟨rfl, rfl, rfl⟩

/-! ## Numbers of 64 bits in the published text -/

/-- The types whose values are unsigned numbers of 64 bits. -/
def FieldType.wide : FieldType → Bool
  | uint64 | dateTimeMilliseconds | dateTimeMicroseconds | dateTimeNanoseconds => true
  | _ => false

theorem interpret_wide {t : FieldType} (ht : t.wide = true) {b : List UInt8} (h : b.length = 8) :
    interpret b t = .uint64 (uint64 b) := by
  unfold interpret
  cases t with
  | uint64 | dateTimeMilliseconds | dateTimeMicroseconds | dateTimeNanoseconds =>
    rw [if_neg (by rw [h]; exact Nat.lt_irrefl 8)]
  | _ => cases ht

theorem toInt_toInt64_eq_iff (v : UInt64) : v.toInt64.toInt = v.toNat ↔ v.toNat < 2 ^ 63 := by
  have hv := v.toNat_lt
  have hint : v.toInt64.toInt = if 2 * v.toNat < 2 ^ 64 then (v.toNat : Int) else v.toNat - 2 ^ 64 :=
    BitVec.toInt_eq_toNat_cond v.toBitVec
  rw [hint]
  split_ifs <;> omega

theorem formatInt_inj {i j : Int} (h : formatInt i = formatInt j) : i = j := by
  have hi := (spells_formatInt (i := .refuse) i).parse trivial
  rw [h, (spells_formatInt j).parse trivial] at hi
  exact (Json.int.inj (Option.some.inj hi)).symm

/-- `F` writes what it is given between two texts. -/
def Around (F : List UInt8 → List UInt8) : Prop := ∃ l r, ∀ w, F w = l ++ w ++ r

theorem Around.comp {F G : List UInt8 → List UInt8} (hF : Around F) (hG : Around G) : Around (F ∘ G) := by
  obtain ⟨l, r, hF⟩ := hF
  obtain ⟨l', r', hG⟩ := hG
  refine ⟨l ++ l', r' ++ r, fun w => ?_⟩
  rw [Function.comp_apply, hF, hG]
  simp only [List.append_assoc]

theorem around_array (us vs : List (List UInt8)) : Around fun w => array (us ++ w :: vs) := by
  cases us with
  | nil =>
    refine ⟨[0x5b], (vs.flatMap fun v => comma :: v) ++ [0x5d], fun w => ?_⟩
    simp [array, Json.commas_cons]
  | cons u us =>
    refine ⟨0x5b :: u ++ (us.flatMap fun v => comma :: v) ++ [comma], (vs.flatMap fun v => comma :: v) ++ [0x5d],
      fun w => ?_⟩
    simp [array, Json.commas_cons]

section around
variable {φ : Type} (shortest : Shortest) (shape : FieldJson φ)

/-- A field with a place for its value: nothing else in it depends on the value. -/
structure Place (put : Value → φ) : Prop where
  value_put : ∀ v, shape.value (put v) = v
  id_put : ∀ v w, shape.id (put v) = shape.id (put w)
  more_put : ∀ v w, shape.more (put v) = shape.more (put w)

variable {shape} {put : Value → φ}

theorem Place.fieldText (h : Place shape put) :
    ∃ F, Around F ∧ ∀ v, fieldText shortest shape (put v) = F (v.text shortest) := by
  refine ⟨_, ⟨text "\x7b\"I\":" ++ formatInt (shape.id (put (.bytes []))).toNat ++ text ",\"V\":",
    shape.more (put (.bytes [])) ++ text "\x7d", fun w => rfl⟩, fun v => ?_⟩
  rw [VFlow.fieldText, h.id_put v (.bytes []), h.value_put, h.more_put v (.bytes [])]
  simp only [List.append_assoc]

/-- What `JSONMarshal` writes for a field stands between two texts that do not depend on the value, unless the
message ends in a boolean. -/
theorem jsonMarshal_around (hput : Place shape put) (agentID : String) (encodeHeader : Buffer → Buffer)
    {before after : List (List φ)} {fs fs' : List φ}
    (hlast : ∀ f ∈ (fs' ++ after.flatten).getLast?, (shape.value f).marshalError = none) :
    ∃ l r, ∀ v, v.marshalError = none →
      jsonMarshal (encodeAgent agentID) encodeHeader
        (encodeDataSet shortest shape.toFieldShape (before ++ (fs ++ put v :: fs') :: after)) [] =
      .ok (l ++ v.text shortest ++ r) := by
  obtain ⟨F, hF, hfield⟩ := hput.fieldText shortest
  obtain ⟨l, r, htext⟩ := ((around_array (before.map fun fs => array (fs.map (fieldText shortest shape)))
    (after.map fun fs => array (fs.map (fieldText shortest shape)))).comp
    (around_array (fs.map (fieldText shortest shape)) (fs'.map (fieldText shortest shape)))).comp hF
  refine ⟨encodeHeader (encodeAgent agentID (text "\x7b")) ++ text "\"DataSets\":" ++ l, r ++ text "\x7d",
    fun v hv => ?_⟩
  have hsets : dataSetsText shortest shape (before ++ (fs ++ put v :: fs') :: after) = l ++ v.text shortest ++ r := by
    rw [← htext, Function.comp_apply, ← hfield]
    simp [dataSetsText]
  have herr : fieldsError ((before ++ (fs ++ put v :: fs') :: after).flatten.map shape.value) none = none := by
    rw [fieldsError_eq, show (before ++ (fs ++ put v :: fs') :: after).flatten =
      (before.flatten ++ fs) ++ put v :: (fs' ++ after.flatten) by simp]
    rw [List.getLast?_append, List.getLast?_cons]
    cases hl : (fs' ++ after.flatten).getLast? with
    | none => simp [hput.value_put, hv]
    | some f => simpa using hlast f hl
  unfold jsonMarshal
  rw [encodeDataSet_eq, herr, hsets]
  simp only [List.nil_append, List.append_assoc]

theorem wide_iff {marshal : Value → Except MarshalError Buffer} {l r : Buffer}
    (h : ∀ v, v.marshalError = none → marshal v = .ok (l ++ v.text shortest ++ r)) {t : FieldType}
    (ht : t.wide = true) {b : List UInt8} (hb : b.length = 8) :
    marshal (interpret b t) = .ok (l ++ formatInt (value b) ++ r) ↔ value b < 2 ^ 63 := by
  have hnat : (uint64 b).toNat = value b := by
    rw [uint64_value (by omega), List.take_of_length_le (by omega)]
  rw [interpret_wide ht hb, h _ rfl, ← hnat, ← toInt_toInt64_eq_iff]
  show Except.ok (l ++ formatInt (uint64 b).toInt64.toInt ++ r) = _ ↔ _
  constructor
  · intro heq
    exact formatInt_inj (List.append_cancel_left (List.append_cancel_right (Except.ok.inj heq)))
  · intro heq
    rw [heq]

end around

/-- For a field of an unsigned type of 64 bits, at any place of a message of either kind, there are two texts such
that whatever its eight bytes are, `JSONMarshal` writes the decimal of their number between the two texts
exactly when the number is below `2 ^ 63`. -/
theorem jsonMarshal_wide_iff (shortest : Shortest) :
    (∀ (m : Ipfix.Message) (before after : List (List Ipfix.DecodedField)) (fs fs' : List Ipfix.DecodedField)
        (f : Ipfix.DecodedField), (∀ g ∈ (fs' ++ after.flatten).getLast?, ∀ v, g.value ≠ .bool v) →
      ∃ l r, ∀ t b, FieldType.wide t = true → b.length = 8 →
        (({ m with dataSets := before ++ (fs ++ { f with value := interpret b t } :: fs') :: after } :
            Ipfix.Message).jsonMarshal shortest [] = .ok (l ++ formatInt (value b) ++ r) ↔ value b < 2 ^ 63)) ∧
    (∀ (m : Netflow9.Message) (before after : List (List Netflow9.DecodedField)) (fs fs' : List Netflow9.DecodedField)
        (f : Netflow9.DecodedField), (∀ g ∈ (fs' ++ after.flatten).getLast?, ∀ v, g.value ≠ .bool v) →
      ∃ l r, ∀ t b, FieldType.wide t = true → b.length = 8 →
        (({ m with dataSets := before ++ (fs ++ { f with value := interpret b t } :: fs') :: after } :
            Netflow9.Message).jsonMarshal shortest [] = .ok (l ++ formatInt (value b) ++ r) ↔ value b < 2 ^ 63)) := by
  have hnone : ∀ v : Value, (∀ x, v ≠ .bool x) → v.marshalError = none := by
    intro v hv
    cases v with
    | bool x => exact absurd rfl (hv x)
    | _ => rfl
  constructor
  · intro m before after fs fs' f hlast
    have hput : Place Ipfix.DecodedField.jsonShape fun v => { f with value := v } :=
      ⟨fun _ => rfl, fun _ _ => rfl, fun _ _ => rfl⟩
    obtain ⟨l, r, h⟩ := jsonMarshal_around shortest hput m.agentID m.encodeHeader
      fun g hg => hnone _ (hlast g hg)
    exact ⟨l, r, fun t b ht hb => wide_iff shortest h ht hb⟩
  · intro m before after fs fs' f hlast
    have hput : Place Netflow9.DecodedField.jsonShape fun v => { f with value := v } :=
      ⟨fun _ => rfl, fun _ _ => rfl, fun _ _ => rfl⟩
    obtain ⟨l, r, h⟩ := jsonMarshal_around shortest hput m.agentID m.encodeHeader
      fun g hg => hnone _ (hlast g hg)
    exact ⟨l, r, fun t b ht hb => wide_iff shortest h ht hb⟩

def counterMessage (v : Value) : Netflow9.Message where
  agentID := "192.0.2.1"
  header := { version := 9, count := 1, sysUpTime := 1, unixSecs := 2, seqNum := 3, srcID := 4 }
  dataSets := [[{ id := 1, value := v }]]

theorem jsonMarshal_wide_iff_counter :
    ∃ l r, (counterMessage (interpret [0, 0, 0, 0, 0, 0, 0, 7] .uint64)).jsonMarshal zeroDigits [] =
      .ok (l ++ formatInt 7 ++ r) := by
  obtain ⟨l, r, h⟩ := (jsonMarshal_wide_iff zeroDigits).2 (counterMessage (.uint64 0)) [] [] [] []
    { id := 1, value := .uint64 0 } (fun g hg => by cases hg)
  exact ⟨l, r, (h .uint64 [0, 0, 0, 0, 0, 0, 0, 7] rfl rfl).mpr (by decide)⟩

/-- The greatest counter is written as `-1`. -/
theorem jsonMarshal_greatest :
    value (List.replicate 8 0xff) = 18446744073709551615 ∧
    (counterMessage (interpret (List.replicate 8 0xff) .uint64)).jsonMarshal zeroDigits [] =
      .ok (text "\x7b\"AgentID\":\"192.0.2.1\",\"Header\":\x7b\"Version\":9,\"Count\":1,\"SysUpTime\":1," ++
        text "\"UNIXSecs\":2,\"SeqNum\":3,\"SrcID\":4\x7d,\"DataSets\":[[\x7b\"I\":1,\"V\":-1\x7d]]\x7d") := by
  decide +kernel

end VFlow
