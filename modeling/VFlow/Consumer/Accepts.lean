import VFlow.Consumer.ClickHouse
import VFlow.Ipfix.Fields

/-!
# Which messages the ClickHouse consumer takes

The loop of `ingestClickHouse` asserts a string for the addresses 8, 12, 27 and 28 and a number for the
elements 4, 16 and 17. An address is published as a string whatever its length is, but a number that a
template declares shorter than its type is published as a hexadecimal string, and the assertion fails.

Strings from the wire are published without escapes. If each is the inside of a JSON literal the message is read with
its fields, whatever the strings are read as, and nothing else decides on the assertions (`clickHouse_accepts_iff`).
-/

namespace VFlow.ClickHouse

open Json (StringReading unmarshalInterface)
open VFlow.Ipfix (Decodes Enters AddsRecords FieldOf loopStart TemplateFieldSpecifier TemplateRecord)

/-! ## One field -/

/-- A specifier that declares one of the numbers the consumer takes shorter than its type is. -/
def ShortNumber (f : TemplateFieldSpecifier) : Prop :=
  (f.elementID = 16 ∨ f.elementID = 17) ∧ f.length < 4 ∨ f.elementID = 4 ∧ f.length = 0

instance : DecidablePred ShortNumber := fun f =>
  inferInstanceAs (Decidable ((f.elementID = 16 ∨ f.elementID = 17) ∧ f.length < 4 ∨ f.elementID = 4 ∧ f.length = 0))

section field

variable (ρ : StringReading) (shortest : Shortest)

theorem assertString_address {t : FieldType} (ht : t = .ipv4Address ∨ t = .ipv6Address)
    (b : List UInt8) : (assertString (unmarshalInterface ((interpret b t).jsonAs ρ shortest))).isSome := by
  unfold interpret
  split_ifs
  · rfl
  · rcases ht with rfl | rfl <;> rfl

theorem assertFloat64_number {t : FieldType} (ht : t = .uint8 ∨ t = .uint32) (b : List UInt8) :
    (assertFloat64 (unmarshalInterface ((interpret b t).jsonAs ρ shortest))).isSome ↔ ¬b.length < t.minLen := by
  unfold interpret
  split_ifs with hlen
  · simpa [Value.jsonAs, unmarshalInterface, assertFloat64] using hlen
  · rcases ht with rfl | rfl <;> simpa [Value.jsonAs, unmarshalInterface, assertFloat64] using hlen

theorem infoModel_type {f : TemplateFieldSpecifier} {m : InfoElementEntry} (h : infoModel.lookup f.key = some m) :
    m.fieldID = f.elementID ∧ infoElements.lookup f.elementID = some m.type := by
  unfold infoModel at h
  dsimp only at h
  split_ifs at h
  obtain ⟨type, ht, rfl⟩ := Option.map_eq_some_iff.mp h
  exact ⟨rfl, ht⟩

theorem id_eq_iff (id : UInt16) {n : Nat} (hn : n < 65536) : (id.toNat : Int) = n ↔ id = n.toUInt16 := by
  rw [← UInt16.toNat_inj, Nat.toUInt16_eq, UInt16.toNat_ofNat_of_lt' hn]
  exact Int.ofNat_inj

theorem mem_ids_iff (id : UInt16) :
    ((id.toNat : Int) ∈ stringIDs ↔ id = 8 ∨ id = 27 ∨ id = 12 ∨ id = 28) ∧
      ((id.toNat : Int) ∈ numberIDs ↔ id = 16 ∨ id = 17 ∨ id = 4) := by
  unfold stringIDs numberIDs
  simp only [List.mem_cons, List.not_mem_nil, or_false]
  exact ⟨or_congr (id_eq_iff id (n := 8) (by decide)) (or_congr (id_eq_iff id (n := 27) (by decide))
      (or_congr (id_eq_iff id (n := 12) (by decide)) (id_eq_iff id (n := 28) (by decide)))),
    or_congr (id_eq_iff id (n := 16) (by decide)) (or_congr (id_eq_iff id (n := 17) (by decide))
      (id_eq_iff id (n := 4) (by decide)))⟩

theorem asserted_iff {p : Bool × TemplateFieldSpecifier} {f : Ipfix.DecodedField}
    (h : FieldOf infoModel p f) : (DataField.ofDecoded ρ shortest f).Asserted ↔ ¬ShortNumber p.2 := by
  obtain ⟨m, bytes, hm, hlen, hid, hvalue⟩ := h
  obtain ⟨hfield, htype⟩ := infoModel_type hm
  have hfield : (DataField.ofDecoded ρ shortest f).i = (p.2.elementID.toNat : Int) ∧
      (DataField.ofDecoded ρ shortest f).v = unmarshalInterface ((interpret bytes m.type).jsonAs ρ shortest) := by
    rw [← hvalue, ← hfield, ← hid]
    exact ⟨rfl, rfl⟩
  unfold DataField.Asserted ShortNumber
  rw [hfield.1, hfield.2, (mem_ids_iff _).1, (mem_ids_iff _).2]
  have hlength : bytes.length < 4 ↔ p.2.length < 4 := by
    rw [hlen, UInt16.lt_iff_toNat_lt]
    rfl
  have hempty : bytes.length < 1 ↔ p.2.length = 0 := by
    rw [hlen, Nat.lt_one_iff, ← UInt16.toNat_inj]
    rfl
  have hnumber : p.2.elementID = 16 ∨ p.2.elementID = 17 ∨ p.2.elementID = 4 →
      ((assertFloat64 (unmarshalInterface ((interpret bytes m.type).jsonAs ρ shortest))).isSome ↔
        ¬((p.2.elementID = 16 ∨ p.2.elementID = 17) ∧ p.2.length < 4 ∨ p.2.elementID = 4 ∧ p.2.length = 0)) := by
    rintro (h | h | h)
    all_goals
      rw [h] at htype
      have ht := Option.some.inj htype
      rw [← ht, assertFloat64_number ρ shortest (by decide)]
    · simp [FieldType.minLen, h, hlength]
    · simp [FieldType.minLen, h, hlength]
    · simp [FieldType.minLen, h, hempty]
  constructor
  · rintro ⟨-, hfloat⟩ hshort
    have hid : p.2.elementID = 16 ∨ p.2.elementID = 17 ∨ p.2.elementID = 4 := by
      tauto
    exact (hnumber hid).mp (hfloat hid) hshort
  · intro hshort
    refine ⟨fun hstring => ?_, fun hid => (hnumber hid).mpr hshort⟩
    apply assertString_address
    rcases hstring with h | h | h | h
    all_goals
      rw [h] at htype
      rw [← Option.some.inj htype]
      decide

/-! ## Messages -/

theorem asserted_record_iff {tr : TemplateRecord} {r r' : Reader} {data : List Ipfix.DecodedField}
    (h : Ipfix.decodeData infoModel tr r = .ok data r') :
    (∀ f ∈ data, (DataField.ofDecoded ρ shortest f).Asserted) ↔ ∀ p ∈ tr.specifiers, ¬ShortNumber p.2 := by
  have hfields := Ipfix.decodeData_fields h
  generalize tr.specifiers = specifiers at hfields ⊢
  clear h
  induction hfields with
  | nil => simp
  | cons hf _ ih =>
    rw [List.forall_mem_cons, List.forall_mem_cons]
    exact and_congr (asserted_iff ρ shortest hf) ih

end field

/-- No set that adds records to the message has a template that declares element 16 or 17 with less than
4 bytes or element 4 with none. -/
def NumbersLong (raddr : IP) (mem : MemCache TemplateRecord) (b : List UInt8) : Prop :=
  ∀ s, Enters infoModel raddr mem b s → AddsRecords infoModel raddr s →
    ∀ p ∈ (loopStart raddr s).1.specifiers, ¬ShortNumber p.2

/-- Every string of the message is the inside of a literal, as `json.Unmarshal` reads it. -/
abbrev Literals (m : Ipfix.Message) : Prop := VFlow.Ipfix.Message.shape.Holds .asLiterals m

theorem accepts_decoded_iff (ρ : StringReading) (shortest : Shortest) {raddr : IP} {mem : MemCache TemplateRecord}
    {b : List UInt8} {out : Ipfix.Outcome} {msg : Ipfix.Message} (h : Decodes infoModel raddr mem b out)
    (hmsg : out.msg = some msg) :
    Accepts (VFlow.Ipfix.Message.shape.json ρ shortest msg) ↔ NumbersLong raddr mem b := by
  rw [accepts_json_iff]
  exact h.forall_records_iff (T := fun tr => ∀ p ∈ tr.specifiers, ¬ShortNumber p.2)
    (fun tr r r' data hdata => asserted_record_iff ρ shortest hdata) hmsg

/-- For every packet and cache and every published message whose text is JSON and whose strings are the insides of
literals, the consumer takes the message exactly when all numbers are long enough. -/
theorem clickHouse_accepts_iff (shortest : Shortest) {raddr : IP} {mem : MemCache TemplateRecord} {b : List UInt8}
    {out : Ipfix.Outcome} {msg : Ipfix.Message} {text : Buffer} {j : Json} (h : Decodes infoModel raddr mem b out)
    (hmsg : out.msg = some msg) (htext : msg.jsonMarshal shortest [] = .ok text) (hj : Json.unmarshal text = some j)
    (hliterals : Literals msg) : Accepts j ↔ NumbersLong raddr mem b := by
  have htext' : VFlow.Ipfix.Message.shape.jsonMarshal shortest msg [] = .ok text := htext
  rw [MessageShape.eq_json_of_parse .asLiterals htext' hliterals hj]
  exact accepts_decoded_iff .asLiterals shortest h hmsg

/-- The name `eth\/0`, with an escape, and a byte of Latin-1. -/
def escapedName : List UInt8 := [0x65, 0x74, 0x68, 0x5c, 0x2f, 0x30, 0xe9]

/-- A template that declares `bgpSourceAsNumber` with 4 bytes and `interfaceName` with 7 bytes, and a record. -/
def namePacket : List UInt8 :=
  [0, 10, 0, 0, 0, 0, 0, 1, 0, 0, 0, 2, 0, 0, 0, 3, 0, 2, 0, 20, 1, 0, 0, 3, 0, 8, 0, 4, 0, 16, 0, 4, 0, 82, 0, 7] ++
    [1, 0, 0, 19, 10, 0, 0, 1, 0, 0, 1, 0] ++ escapedName

def nameMessage : Ipfix.Message where
  agentID := IP.string [192, 0, 2, 1]
  header := { version := 10, length := 0, exportTime := 1, sequenceNo := 2, domainID := 3 }
  dataSets := [[{ id := 8, value := .ip [10, 0, 0, 1] }, { id := 16, value := .uint32 256 },
    { id := 82, value := .string escapedName }]]

theorem holds_asLiterals (agent : IP) : StringReading.asLiterals.holds (Json.text agent.string) :=
  (StringReading.asLiterals.plain _ (plainString_ip agent).plainText).1

theorem clickHouse_accepts_escaped :
    ∃ out text j, Decodes infoModel [192, 0, 2, 1] .empty namePacket out ∧ out.msg = some nameMessage ∧
      nameMessage.jsonMarshal zeroDigits [] = .ok text ∧ Json.unmarshal text = some j ∧ Literals nameMessage ∧
      ¬nameMessage.Plain ∧ Accepts j := by
  have hliterals : Literals nameMessage := ⟨holds_asLiterals _, by decide⟩
  have hplain : ¬nameMessage.Plain := by
    rintro ⟨-, hfields⟩
    exact absurd (hfields _ (List.mem_singleton_self _) { id := 82, value := .string escapedName } (by simp))
      (by decide)
  have hprint : nameMessage.Printable := by decide
  obtain ⟨text, htext, hj⟩ := MessageShape.exists_text .asLiterals zeroDigits hprint hliterals
  have hdecodes : Decodes infoModel [192, 0, 2, 1] .empty namePacket _ := ⟨5, rfl⟩
  refine ⟨_, text, _, hdecodes, rfl, htext, hj, hliterals, hplain, ?_⟩
  refine (clickHouse_accepts_iff zeroDigits hdecodes rfl htext hj hliterals).mpr ?_
  refine (accepts_decoded_iff .asLiterals zeroDigits hdecodes rfl).mp ((accepts_json_iff _ _ _).mpr ?_)
  decide

/-- A template that declares `bgpSourceAsNumber` with 2 bytes, and a record. -/
def asnPacket : List UInt8 :=
  [0, 10, 0, 0, 0, 0, 0, 1, 0, 0, 0, 2, 0, 0, 0, 3, 0, 2, 0, 16, 1, 0, 0, 2, 0, 8, 0, 4, 0, 16, 0, 2] ++
    [1, 0, 0, 10, 10, 0, 0, 1, 1, 0]

def asnMessage : Ipfix.Message where
  agentID := IP.string [192, 0, 2, 1]
  header := { version := 10, length := 0, exportTime := 1, sequenceNo := 2, domainID := 3 }
  dataSets := [[{ id := 8, value := .ip [10, 0, 0, 1] }, { id := 16, value := .bytes [1, 0] }]]

/-- The number is published as the string `"0x0100"`, and the assertion of the consumer fails. -/
theorem clickHouse_rejects_short :
    ∃ out text j, Decodes infoModel [192, 0, 2, 1] .empty asnPacket out ∧ out.err = none ∧
      out.msg = some asnMessage ∧ asnMessage.jsonMarshal zeroDigits [] = .ok text ∧ Json.unmarshal text = some j ∧
      ¬Accepts j := by
  have hliterals : Literals asnMessage := ⟨holds_asLiterals _, by decide⟩
  have hprint : asnMessage.Printable := by decide
  obtain ⟨text, htext, hj⟩ := MessageShape.exists_text .asLiterals zeroDigits hprint hliterals
  refine ⟨_, text, _, ⟨5, rfl⟩, rfl, rfl, htext, hj, ?_⟩
  rw [accepts_json_iff]
  decide

end VFlow.ClickHouse
