import VFlow.MarshalJson
import VFlow.Ipfix.Message

/-!
# Published messages

The JSON that an IPFIX message and a NetFlow v9 message stand for, and when the text that `JSONMarshal`
returns for a message is read as it: for messages whose values have a JSON text, exactly when all the
strings of the message are plain. A string is written between quotes as it came from the wire, so that
any other string changes what the text is read as.

A value that has no text is not noticed unless it is the last one of the message (`jsonMarshal_errors_iff`).
-/

namespace VFlow

open Json (text quote comma PlainText StringReading Member object)

namespace Ipfix

def DecodedField.jsonShape : FieldJson DecodedField where
  toFieldShape := DecodedField.shape
  extra f := if f.enterpriseNo ≠ 0 then [(text "E", f.enterpriseNo.toNat)] else []
  plain_extra f := by
    split_ifs
    · simp only [List.mem_singleton, forall_eq]
      exact PlainString.plainText (by decide)
    · simp
  more_eq f := by
    have hE : text ",\"E\":" = comma :: quote :: text "E" ++ [quote, 0x3a] := rfl
    by_cases hf : f.enterpriseNo = 0
    · simp [DecodedField.shape, hf]
    · simp [DecodedField.shape, hf, hE]

def Message.headerFields (m : Message) : List (String × Nat) :=
  [("Version", m.header.version.toNat), ("Length", m.header.length.toNat), ("ExportTime", m.header.exportTime.toNat),
    ("SequenceNo", m.header.sequenceNo.toNat), ("DomainID", m.header.domainID.toNat)]

theorem Message.encodeHeader_eq (m : Message) (b : Buffer) :
    m.encodeHeader b =
      b ++ text "\"Header\":" ++ object (m.headerFields.map fun h => (intMember (text h.1) h.2).text) ++ [comma] := by
  have hversion : text "\"Header\":\x7b\"Version\":" =
      text "\"Header\":" ++ 0x7b :: quote :: text "Version" ++ [quote, 0x3a] := rfl
  have hlength : text ",\"Length\":" = comma :: quote :: text "Length" ++ [quote, 0x3a] := rfl
  have htime : text ",\"ExportTime\":" = comma :: quote :: text "ExportTime" ++ [quote, 0x3a] := rfl
  have hseq : text ",\"SequenceNo\":" = comma :: quote :: text "SequenceNo" ++ [quote, 0x3a] := rfl
  have hdomain : text ",\"DomainID\":" = comma :: quote :: text "DomainID" ++ [quote, 0x3a] := rfl
  have hclose : text "\x7d," = [0x7d, comma] := rfl
  unfold Message.encodeHeader
  rw [hversion, hlength, htime, hseq, hdomain, hclose]
  simp [Message.headerFields, object, Member.text, intMember]

theorem Message.plainString_headerFields (m : Message) : ∀ h ∈ m.headerFields, PlainString h.1 := by
  simp only [Message.headerFields, List.forall_mem_cons, List.not_mem_nil, false_imp_iff, implies_true, and_true]
  decide +kernel

def Message.shape : MessageShape Message DecodedField where
  field := DecodedField.jsonShape
  agentID := Message.agentID
  header := Message.headerFields
  dataSets := Message.dataSets
  encodeHeader := Message.encodeHeader
  plainString_header := Message.plainString_headerFields
  encodeHeader_eq := Message.encodeHeader_eq

/-- The JSON that a message stands for. -/
abbrev Message.json (shortest : Shortest) (m : Message) : Json := Message.shape.json .asThemselves shortest m

/-- Every value of the message has a JSON text. -/
abbrev Message.Printable (m : Message) : Prop := Message.shape.Printable m

/-- Every string of the message can stand between quotes as it is. -/
abbrev Message.Plain (m : Message) : Prop := Message.shape.Holds .asThemselves m

abbrev Message.EndsInBool (m : Message) : Prop := Message.shape.EndsInBool m

end Ipfix

namespace Netflow9

def DecodedField.jsonShape : FieldJson DecodedField where
  toFieldShape := DecodedField.shape
  extra _ := []
  plain_extra f := by simp
  more_eq f := rfl

def Message.headerFields (m : Message) : List (String × Nat) :=
  [("Version", m.header.version.toNat), ("Count", m.header.count.toNat), ("SysUpTime", m.header.sysUpTime.toNat),
    ("UNIXSecs", m.header.unixSecs.toNat), ("SeqNum", m.header.seqNum.toNat), ("SrcID", m.header.srcID.toNat)]

theorem Message.encodeHeader_eq (m : Message) (b : Buffer) :
    m.encodeHeader b =
      b ++ text "\"Header\":" ++ object (m.headerFields.map fun h => (intMember (text h.1) h.2).text) ++ [comma] := by
  have hversion : text "\"Header\":\x7b\"Version\":" =
      text "\"Header\":" ++ 0x7b :: quote :: text "Version" ++ [quote, 0x3a] := rfl
  have hcount : text ",\"Count\":" = comma :: quote :: text "Count" ++ [quote, 0x3a] := rfl
  have huptime : text ",\"SysUpTime\":" = comma :: quote :: text "SysUpTime" ++ [quote, 0x3a] := rfl
  have hsecs : text ",\"UNIXSecs\":" = comma :: quote :: text "UNIXSecs" ++ [quote, 0x3a] := rfl
  have hseq : text ",\"SeqNum\":" = comma :: quote :: text "SeqNum" ++ [quote, 0x3a] := rfl
  have hsrc : text ",\"SrcID\":" = comma :: quote :: text "SrcID" ++ [quote, 0x3a] := rfl
  have hclose : text "\x7d," = [0x7d, comma] := rfl
  unfold Message.encodeHeader
  rw [hversion, hcount, huptime, hsecs, hseq, hsrc, hclose]
  simp [Message.headerFields, object, Member.text, intMember]

theorem Message.plainString_headerFields (m : Message) : ∀ h ∈ m.headerFields, PlainString h.1 := by
  simp only [Message.headerFields, List.forall_mem_cons, List.not_mem_nil, false_imp_iff, implies_true, and_true]
  decide +kernel

def Message.shape : MessageShape Message DecodedField where
  field := DecodedField.jsonShape
  agentID := Message.agentID
  header := Message.headerFields
  dataSets := Message.dataSets
  encodeHeader := Message.encodeHeader
  plainString_header := Message.plainString_headerFields
  encodeHeader_eq := Message.encodeHeader_eq

abbrev Message.json (shortest : Shortest) (m : Message) : Json := Message.shape.json .asThemselves shortest m

abbrev Message.Printable (m : Message) : Prop := Message.shape.Printable m

abbrev Message.Plain (m : Message) : Prop := Message.shape.Holds .asThemselves m

abbrev Message.EndsInBool (m : Message) : Prop := Message.shape.EndsInBool m

end Netflow9

/-! ## The round trip of the structure -/

/-- The types of values whose text depends on nothing but numbers and printed addresses: the integers
that fit `int64`, addresses and byte strings. -/
def Value.listed : Value → Bool
  | .int8 _ | .int16 _ | .int32 _ | .int64 _ | .uint8 _ | .uint16 _ | .uint32 _ => true
  | .ip _ | .hardwareAddr _ | .bytes _ => true
  | _ => false

theorem Value.printable_of_listed {v : Value} (h : v.listed = true) : v.printable = true := by
  cases v <;> simp_all [Value.listed, Value.printable]

theorem Value.plain_of_listed {v : Value} (h : v.listed = true) : v.Plain := by
  cases v <;> simp_all [Value.listed, Value.Holds]

theorem MessageShape.structure_of_listed {M φ : Type} (shape : MessageShape M φ) (shortest : Shortest) (m : M)
    (agent : IP) (hagent : shape.agentID m = agent.string)
    (hlisted : ∀ fs ∈ shape.dataSets m, ∀ f ∈ fs, (shape.field.value f).listed = true) :
    ∃ b, shape.jsonMarshal shortest m [] = .ok b ∧ Json.parse b = some (shape.json .asThemselves shortest m) := by
  refine exists_text .asThemselves shortest (fun fs hfs f hf => Value.printable_of_listed (hlisted fs hfs f hf))
    ⟨?_, ?_⟩
  · exact hagent ▸ (plainString_ip agent).plainText
  · exact fun fs hfs f hf => Value.plain_of_listed (hlisted fs hfs f hf)

/-- With any number of data sets and fields, `JSONMarshal` returns no error, and its output is read as
the agent, the header and the fields of the message. -/
theorem jsonMarshal_structure (shortest : Shortest) :
    (∀ (m : Ipfix.Message) (agent : IP), m.agentID = agent.string →
      (∀ fs ∈ m.dataSets, ∀ f ∈ fs, f.value.listed = true) →
      ∃ b, m.jsonMarshal shortest [] = .ok b ∧ Json.parse b = some (m.json shortest)) ∧
    (∀ (m : Netflow9.Message) (agent : IP), m.agentID = agent.string →
      (∀ fs ∈ m.dataSets, ∀ f ∈ fs, f.value.listed = true) →
      ∃ b, m.jsonMarshal shortest [] = .ok b ∧ Json.parse b = some (m.json shortest)) := by
  exact ⟨Ipfix.Message.shape.structure_of_listed shortest, Netflow9.Message.shape.structure_of_listed shortest⟩

/-- Digits for a witness without floats. -/
def zeroDigits : Shortest where
  float32 _ := { lead := 0, more := [], exponent := 0 }
  float64 _ := { lead := 0, more := [], exponent := 0 }

def listedMessage : Ipfix.Message where
  agentID := IP.string [192, 0, 2, 1]
  header := { version := 10, length := 60, exportTime := 1, sequenceNo := 2, domainID := 3 }
  dataSets := [[{ id := 8, value := .ip [10, 0, 0, 1] }, { id := 95, value := .bytes [1, 2], enterpriseNo := 9 },
    { id := 434, value := .int8 (-5) }], []]

def listedPacket : Netflow9.Message where
  agentID := IP.string [192, 0, 2, 1]
  header := { version := 9, count := 1, sysUpTime := 1, unixSecs := 2, seqNum := 3, srcID := 4 }
  dataSets := [[{ id := 8, value := .ip [10, 0, 0, 1] }]]

theorem jsonMarshal_structure_listed :
    (∃ b, listedMessage.jsonMarshal zeroDigits [] = .ok b ∧
      Json.parse b = some (listedMessage.json zeroDigits)) ∧
    (∃ b, listedPacket.jsonMarshal zeroDigits [] = .ok b ∧
      Json.parse b = some (listedPacket.json zeroDigits)) := by
  have hstructure := jsonMarshal_structure zeroDigits
  exact ⟨hstructure.1 listedMessage [192, 0, 2, 1] rfl (by decide),
    hstructure.2 listedPacket [192, 0, 2, 1] rfl (by decide)⟩

/-! ## Strings from the wire -/

theorem MessageShape.faithful_iff {M φ : Type} (shape : MessageShape M φ) (shortest : Shortest) (m : M) :
    (∀ b, shape.jsonMarshal shortest m [] = .ok b →
      shape.Printable m ∧ Json.parse b = some (shape.json .asThemselves shortest m)) ↔
      shape.EndsInBool m ∨ shape.Printable m ∧ shape.Holds .asThemselves m := by
  constructor
  · intro h
    by_cases hbool : shape.EndsInBool m
    · exact Or.inl hbool
    · obtain ⟨b, hb⟩ := (shape.jsonMarshal_isOk shortest m).mpr hbool
      obtain ⟨hprint, hj⟩ := h b hb
      exact Or.inr ⟨hprint, (parse_iff .asThemselves hb hprint).mp hj⟩
  · rintro (hbool | ⟨hprint, hplain⟩) b hb
    · exact absurd hbool ((shape.jsonMarshal_isOk shortest m).mp ⟨b, hb⟩)
    · exact ⟨hprint, (parse_iff .asThemselves hb hprint).mpr hplain⟩

/-- For every message, the text that `JSONMarshal` emits is read as the message exactly when
`JSONMarshal` emits nothing, because the last field is a boolean, or when no field is a boolean or an
infinite float and every string is plain. -/
theorem jsonMarshal_faithful_iff (shortest : Shortest) :
    (∀ m : Ipfix.Message,
      (∀ b, m.jsonMarshal shortest [] = .ok b → m.Printable ∧ Json.parse b = some (m.json shortest)) ↔
        m.EndsInBool ∨ m.Printable ∧ m.Plain) ∧
    (∀ m : Netflow9.Message,
      (∀ b, m.jsonMarshal shortest [] = .ok b → m.Printable ∧ Json.parse b = some (m.json shortest)) ↔
        m.EndsInBool ∨ m.Printable ∧ m.Plain) := by
  exact ⟨Ipfix.Message.shape.faithful_iff shortest, Netflow9.Message.shape.faithful_iff shortest⟩

/-- An interface description that closes its field and starts another one. -/
def forgingString : List UInt8 := text "eth0\"\x7d,\x7b\"I\":8,\"V\":\"10.0.0.1"

/-- The template 256 of one string of 27 bytes, and a record. -/
def forgingPacket : List UInt8 :=
  [0, 10, 0, 59, 0, 0, 0, 1, 0, 0, 0, 2, 0, 0, 0, 3, 0, 2, 0, 12, 1, 0, 0, 1, 0, 83, 0, 27, 1, 0, 0, 31] ++
    forgingString

def forgingMessage : Ipfix.Message where
  agentID := IP.string [192, 0, 2, 1]
  header := { version := 10, length := 59, exportTime := 1, sequenceNo := 2, domainID := 3 }
  dataSets := [[{ id := 83, value := .string forgingString }]]

def forgedMessage : Ipfix.Message where
  agentID := IP.string [192, 0, 2, 1]
  header := { version := 10, length := 59, exportTime := 1, sequenceNo := 2, domainID := 3 }
  dataSets := [[{ id := 83, value := .string (text "eth0") }, { id := 8, value := .ip [10, 0, 0, 1] }]]

/-- The published text of a decoded message has a field that no exporter sent: it is the text of another
message. -/
theorem jsonMarshal_forged :
    (∃ out, Ipfix.Decodes infoModel [192, 0, 2, 1] .empty forgingPacket out ∧ out.msg = some forgingMessage) ∧
    ∃ b, forgingMessage.jsonMarshal zeroDigits [] = .ok b ∧ Json.parse b = some (forgedMessage.json zeroDigits) ∧
      Json.parse b ≠ some (forgingMessage.json zeroDigits) := by
  refine ⟨⟨_, ⟨5, rfl⟩, rfl⟩, ?_⟩
  have hprint : forgingMessage.Printable := by decide
  have hprint' : forgedMessage.Printable := by decide
  obtain ⟨b, hb⟩ := (Ipfix.Message.shape.jsonMarshal_isOk zeroDigits forgingMessage).mpr
    (MessageShape.not_endsInBool hprint)
  have hsame : forgedMessage.jsonMarshal zeroDigits [] = forgingMessage.jsonMarshal zeroDigits [] := by decide +kernel
  have hb' : Ipfix.Message.shape.jsonMarshal zeroDigits forgedMessage [] = .ok b := hsame.trans hb
  refine ⟨b, hb, (MessageShape.parse_iff .asThemselves hb' hprint').mpr ?_, fun h => ?_⟩
  · exact ⟨(plainString_ip _).plainText, by decide⟩
  · have hplain := ((MessageShape.parse_iff .asThemselves hb hprint).mp h).2
    exact absurd (hplain _ (List.mem_singleton_self _) _ (List.mem_singleton_self _)) (by decide)

/-! ## Errors -/

/-- `writeValue` has no text for the value. -/
def Value.Unsupported (shortest : Shortest) (v : Value) : Prop := (writeValue shortest v []).2 ≠ none

theorem Value.unsupported_iff {shortest : Shortest} {v : Value} : v.Unsupported shortest ↔ ∃ x, v = .bool x := by
  cases v <;> simp [Value.Unsupported, writeValue]

/-- To look at the last element only is right exactly if no element has the property, or the last one has. -/
theorem last_iff_exists {φ : Type} {p : φ → Prop} {fs : List φ} {q : Prop} (hq : q ↔ ∃ f ∈ fs.getLast?, p f) :
    (q ↔ ∃ f ∈ fs, p f) ↔ (∀ f ∈ fs, ¬ p f) ∨ ∃ f ∈ fs.getLast?, p f := by
  rw [hq]
  constructor
  · intro h
    by_cases hall : ∀ f ∈ fs, ¬ p f
    · exact Or.inl hall
    · simp only [not_forall, not_not, exists_prop] at hall
      exact Or.inr (h.mpr hall)
  · rintro (hall | hlast)
    · exact iff_of_false (fun ⟨f, hf, hp⟩ => hall f (List.mem_of_getLast? hf) hp) fun ⟨f, hf, hp⟩ => hall f hf hp
    · obtain ⟨f, hf, hp⟩ := hlast
      exact iff_of_true ⟨f, hf, hp⟩ ⟨f, List.mem_of_getLast? hf, hp⟩

theorem isError_iff {result : Except MarshalError Buffer} :
    (∃ e, result = .error e) ↔ ¬ ∃ b, result = .ok b := by
  cases result with
  | error e => exact iff_of_true ⟨e, rfl⟩ (by simp)
  | ok b => exact iff_of_false (by simp) (not_not.mpr ⟨b, rfl⟩)

theorem MessageShape.errors_iff {M φ : Type} (shape : MessageShape M φ) (shortest : Shortest) (m : M) (b : Buffer) :
    ((∃ e, shape.jsonMarshal shortest m b = .error e) ↔
        ∃ f ∈ (shape.dataSets m).flatten, (shape.field.value f).Unsupported shortest) ↔
      (∀ f ∈ (shape.dataSets m).flatten, ¬(shape.field.value f).Unsupported shortest) ∨
        ∃ f ∈ (shape.dataSets m).flatten.getLast?, (shape.field.value f).Unsupported shortest := by
  simp only [Value.unsupported_iff]
  refine last_iff_exists ?_
  rw [isError_iff, shape.jsonMarshal_isOk shortest m, not_not, EndsInBool]

/-- **Errors of the encoder.** `JSONMarshal` returns an error for a message with a value that `writeValue` does not
support, and only then, exactly if there is no such value or the last field has one. -/
theorem jsonMarshal_errors_iff (shortest : Shortest) :
    (∀ (m : Ipfix.Message) (b : Buffer),
      ((∃ e, m.jsonMarshal shortest b = .error e) ↔ ∃ f ∈ m.dataSets.flatten, f.value.Unsupported shortest) ↔
        (∀ f ∈ m.dataSets.flatten, ¬ f.value.Unsupported shortest) ∨
          ∃ f ∈ m.dataSets.flatten.getLast?, f.value.Unsupported shortest) ∧
    (∀ (m : Netflow9.Message) (b : Buffer),
      ((∃ e, m.jsonMarshal shortest b = .error e) ↔ ∃ f ∈ m.dataSets.flatten, f.value.Unsupported shortest) ↔
        (∀ f ∈ m.dataSets.flatten, ¬ f.value.Unsupported shortest) ∨
          ∃ f ∈ m.dataSets.flatten.getLast?, f.value.Unsupported shortest) := by
  exact ⟨Ipfix.Message.shape.errors_iff shortest, Netflow9.Message.shape.errors_iff shortest⟩

def reliabilityPacket : List UInt8 :=
  [0, 10, 0, 41, 0, 0, 0, 1, 0, 0, 0, 2, 0, 0, 0, 3, 0, 2, 0, 16, 1, 0, 0, 2, 1, 20, 0, 1, 0, 8, 0, 4,
    1, 0, 0, 9, 1, 10, 0, 0, 1]

def reliabilityMessage : Ipfix.Message where
  agentID := IP.string [192, 0, 2, 1]
  header := { version := 10, length := 41, exportTime := 1, sequenceNo := 2, domainID := 3 }
  dataSets := [[{ id := 276, value := .bool true }, { id := 8, value := .ip [10, 0, 0, 1] }]]

/-- The boolean of the packet is not written, and no error is returned. -/
theorem jsonMarshal_swallows_error :
    (∃ out, Ipfix.Decodes infoModel [192, 0, 2, 1] .empty reliabilityPacket out ∧
      out.msg = some reliabilityMessage) ∧
    (∃ f ∈ reliabilityMessage.dataSets.flatten, f.value.Unsupported zeroDigits) ∧
    ¬ ∃ e, reliabilityMessage.jsonMarshal zeroDigits [] = .error e := by
  refine ⟨⟨_, ⟨5, rfl⟩, rfl⟩, ⟨_, List.mem_cons_self, Value.unsupported_iff.mpr ⟨true, rfl⟩⟩, ?_⟩
  rw [isError_iff, not_not]
  refine (Ipfix.Message.shape.jsonMarshal_isOk zeroDigits reliabilityMessage).mpr ?_
  rintro ⟨f, hf, v, hv⟩
  obtain rfl := Option.some.inj hf
  cases hv

end VFlow
