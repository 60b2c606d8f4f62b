import VFlow.Netflow9.Decoder

/-!
# Reading NetFlow v9 headers, template records and data records

The counterpart of the IPFIX record facts. Field specifiers have 4 bytes here, so that the size of a
template record is a function of its first bytes (`templateSize`, `optionsSize`), and a record is
read completely exactly if it fits in the packet (`unmarshal_spec`, `unmarshalOpts_spec`).
-/

namespace VFlow.Netflow9

open Scan Reader

/-! ## Headers -/

theorem reads_packetHeader : Reads .errReader PacketHeader.unmarshal 20 :=
  reads_uint16.bind fun _ => reads_uint16.bind fun _ => reads_uint32.bind fun _ => reads_uint32.bind fun _ =>
    reads_uint32.bind fun _ => reads_uint32.bind fun _ => Reads.pure _ _

def SetHeader.ofBytes (b : List UInt8) : SetHeader :=
  { flowSetID := BigEndian.uint16 b, length := BigEndian.uint16 (b.drop 2) }

theorem setHeader_of_le {r : Reader} (h : 4 ≤ r.len) :
    SetHeader.unmarshal r = .ok (SetHeader.ofBytes r.data) (r.advance 4) := by
  have h2 : 2 ≤ (r.advance 2).len := by rw [Cursor.len_advance]; omega
  rw [SetHeader.unmarshal, bind_apply, uint16_of_le (by omega)]
  dsimp only
  rw [bind_apply, uint16_of_le h2]
  dsimp only
  rw [pure_apply, Cursor.advance_advance]
  rfl

theorem templateHeader_of_le {r : Reader} (h : 4 ≤ r.len) :
    TemplateHeader.unmarshal r =
      .ok { templateID := BigEndian.uint16 r.data, fieldCount := BigEndian.uint16 (r.data.drop 2) } (r.advance 4) := by
  have h2 : 2 ≤ (r.advance 2).len := by rw [Cursor.len_advance]; omega
  rw [TemplateHeader.unmarshal, bind_apply, uint16_of_le (by omega)]
  dsimp only
  rw [bind_apply, uint16_of_le h2]
  dsimp only
  rw [pure_apply, Cursor.advance_advance]
  rfl

theorem templateHeaderOpts_of_le {r : Reader} (h : 4 ≤ r.len) :
    TemplateHeader.unmarshalOpts r =
      if 6 ≤ r.len then
        .ok { templateID := BigEndian.uint16 r.data, optionScopeLen := BigEndian.uint16 (r.data.drop 2),
              optionLen := BigEndian.uint16 (r.data.drop 4) } (r.advance 6)
      else .error .errReader (r.advance 4) := by
  have h2 : 2 ≤ (r.advance 2).len := by rw [Cursor.len_advance]; omega
  rw [TemplateHeader.unmarshalOpts, bind_apply, uint16_of_le (by omega)]
  dsimp only
  rw [bind_apply, uint16_of_le h2]
  dsimp only
  rw [Cursor.advance_advance, bind_apply]
  split_ifs with h6
  · rw [uint16_of_le (by rw [Cursor.len_advance]; omega)]
    dsimp only
    rw [pure_apply, Cursor.advance_advance]
    rfl
  · rw [uint16, if_pos (by rw [Cursor.len_advance]; omega)]

/-! ## Template records -/

theorem reads_fieldSpecifier : Reads .errReader TemplateFieldSpecifier.unmarshal 4 :=
  reads_uint16.bind fun _ => reads_uint16.bind fun _ => Reads.pure _ _

def templateSize (b : List UInt8) : Nat := 4 + (BigEndian.uint16 (b.drop 2)).toNat * 4

def optionsSize (b : List UInt8) : Nat :=
  6 + (BigEndian.uint16 (b.drop 2) / 4).toNat * 4 + (BigEndian.uint16 (b.drop 4) / 4).toNat * 4

theorem unmarshal_spec {r : Reader} (h : 4 ≤ r.len) :
    (templateSize r.data ≤ r.len →
        ∃ tr, TemplateRecord.unmarshal r = (tr, none, r.advance (templateSize r.data))) ∧
      (r.len < templateSize r.data →
        ∃ tr k, 4 ≤ k ∧ k ≤ r.len ∧ TemplateRecord.unmarshal r = (tr, some .errReader, r.advance k)) := by
  obtain ⟨hok, hshort⟩ := many_reads reads_fieldSpecifier (BigEndian.uint16 (r.data.drop 2)).toNat (r.advance 4)
  rw [Cursor.len_advance] at hok hshort
  rw [TemplateRecord.unmarshal, templateHeader_of_le h]
  dsimp only
  refine ⟨fun hle => ?_, fun hlt => ?_⟩
  · obtain ⟨specs, -, hmany⟩ := hok (by rw [templateSize] at hle; omega)
    rw [hmany, Cursor.advance_advance]
    exact ⟨_, rfl⟩
  · obtain ⟨specs, k, hk, hmany⟩ := hshort (by rw [templateSize] at hlt; omega)
    rw [hmany, Cursor.advance_advance]
    exact ⟨_, 4 + k, by omega, by omega, rfl⟩

theorem unmarshalOpts_spec {r : Reader} (h : 4 ≤ r.len) :
    (optionsSize r.data ≤ r.len →
        ∃ tr, TemplateRecord.unmarshalOpts r = (tr, none, r.advance (optionsSize r.data))) ∧
      (r.len < optionsSize r.data →
        ∃ tr k, 4 ≤ k ∧ k ≤ r.len ∧ TemplateRecord.unmarshalOpts r = (tr, some .errReader, r.advance k)) := by
  rw [TemplateRecord.unmarshalOpts, templateHeaderOpts_of_le h, optionsSize]
  by_cases h6 : 6 ≤ r.len
  swap
  · rw [if_neg h6]
    exact ⟨fun hle => by omega, fun _ => ⟨_, 4, le_refl _, h, rfl⟩⟩
  rw [if_pos h6]
  dsimp only
  generalize (BigEndian.uint16 (r.data.drop 2) / 4).toNat = scopeCount
  generalize (BigEndian.uint16 (r.data.drop 4) / 4).toNat = fieldCount
  have hscope := many_reads reads_fieldSpecifier scopeCount (r.advance 6)
  have hspec := many_reads reads_fieldSpecifier fieldCount (r.advance (6 + scopeCount * 4))
  rw [Cursor.len_advance] at hscope hspec
  by_cases hs : scopeCount * 4 ≤ r.len - 6
  · obtain ⟨scopes, -, hmany⟩ := hscope.1 hs
    rw [hmany, Cursor.advance_advance]
    dsimp only
    refine ⟨fun hle => ?_, fun hlt => ?_⟩
    · obtain ⟨specs, -, hmany'⟩ := hspec.1 (by omega)
      rw [hmany', Cursor.advance_advance]
      exact ⟨_, rfl⟩
    · obtain ⟨specs, k, hk, hmany'⟩ := hspec.2 (by omega)
      rw [hmany', Cursor.advance_advance]
      exact ⟨_, 6 + scopeCount * 4 + k, by omega, by omega, rfl⟩
  · obtain ⟨scopes, k, hk, hmany⟩ := hscope.2 (by omega)
    rw [hmany, Cursor.advance_advance]
    dsimp only
    exact ⟨fun hle => by omega, fun _ => ⟨_, 6 + k, by omega, by omega, rfl⟩⟩

/-! ## Data records -/

def TemplateRecord.specifiers (tr : TemplateRecord) : List (Bool × TemplateFieldSpecifier) :=
  tr.fieldSpecifiers.map (false, ·) ++ tr.scopeFieldSpecifiers.map (true, ·)

def TemplateRecord.recordLength (tr : TemplateRecord) : Nat :=
  (tr.specifiers.map fun p => p.2.length.toNat).sum

def TemplateFieldSpecifier.key (f : TemplateFieldSpecifier) : ElementKey :=
  { enterpriseNo := 0, elementID := f.elementID }

variable {im : IANAInfoModel}

def TemplateFieldSpecifier.Known (im : IANAInfoModel) (f : TemplateFieldSpecifier) : Prop :=
  (im.lookup f.key).isSome

instance (f : TemplateFieldSpecifier) : Decidable (f.Known im) :=
  inferInstanceAs (Decidable (_ = true))

def TemplateRecord.Known (im : IANAInfoModel) (tr : TemplateRecord) : Prop :=
  ∀ p ∈ tr.specifiers, p.2.Known im

instance (tr : TemplateRecord) : Decidable (tr.Known im) :=
  inferInstanceAs (Decidable (∀ p ∈ tr.specifiers, _))

theorem decodeData_eq (tr : TemplateRecord) :
    decodeData im tr = Scan.each (fun p => decodeField im p.1 p.2) tr.specifiers := by
  funext r
  rw [TemplateRecord.specifiers, each_append, each_map, each_map]
  rfl

theorem decodeField_eq (scope : Bool) (f : TemplateFieldSpecifier) :
    decodeField im scope f = Scan.field .errReader f.length.toNat (im.lookup f.key)
      (.unknownElement .netflow9 f.elementID scope) fun m b => { id := m.fieldID, value := interpret b m.type } := by
  unfold decodeField Scan.field TemplateFieldSpecifier.key
  cases im.lookup { enterpriseNo := 0, elementID := f.elementID } <;> rfl

theorem reads_decodeField {scope : Bool} {f : TemplateFieldSpecifier} (h : f.Known im) :
    Reads .errReader (decodeField im scope f) f.length.toNat := by
  rw [decodeField_eq]
  exact Reads.field h

theorem reads_decodeData {tr : TemplateRecord} (h : tr.Known im) :
    Reads .errReader (decodeData im tr) tr.recordLength := by
  rw [decodeData_eq]
  exact Reads.each fun p hp => reads_decodeField (h p hp)

def TemplateRecord.firstUnknown (im : IANAInfoModel) (tr : TemplateRecord) : Option (Bool × TemplateFieldSpecifier) :=
  tr.specifiers.find? fun p => ¬ p.2.Known im

def TemplateRecord.refusedLength (im : IANAInfoModel) (tr : TemplateRecord) : Nat :=
  sizeUpTo (fun p => p.2.Known im) (fun p => p.2.length.toNat) tr.specifiers

theorem TemplateRecord.firstUnknown_eq_none {tr : TemplateRecord} : tr.firstUnknown im = none ↔ tr.Known im := by
  simp [TemplateRecord.firstUnknown, TemplateRecord.Known]

theorem TemplateRecord.exists_firstUnknown {tr : TemplateRecord} (h : ¬ tr.Known im) :
    ∃ p, tr.firstUnknown im = some p := by
  rw [← TemplateRecord.firstUnknown_eq_none] at h
  exact Option.ne_none_iff_exists'.mp h

theorem rejects_decodeData {tr : TemplateRecord} {p : Bool × TemplateFieldSpecifier}
    (h : tr.firstUnknown im = some p) :
    Rejects .errReader (decodeData im tr) (tr.refusedLength im) (.unknownElement .netflow9 p.2.elementID p.1) := by
  rw [decodeData_eq]
  refine Rejects.each_find (e := fun q => .unknownElement .netflow9 q.2.elementID q.1)
    (fun q hq => reads_decodeField hq) (fun q hq => ?_) h
  rw [decodeField_eq]
  exact Rejects.field hq

theorem decodeData_skippable {tr : TemplateRecord} {r r' : Reader} {e : Error}
    (hdec : decodeData im tr r = .error e r') (he : e.Skippable) :
    ¬ tr.Known im ∧ tr.refusedLength im ≤ r.len ∧ r' = r.advance (tr.refusedLength im) := by
  by_cases hk : tr.Known im
  · obtain ⟨rfl, -⟩ := (reads_decodeData hk).of_error hdec
    exact absurd he id
  · obtain ⟨p, hp⟩ := TemplateRecord.exists_firstUnknown hk
    rcases (rejects_decodeData hp).of_error hdec with ⟨hle, -, hr⟩ | ⟨-, rfl⟩
    · exact ⟨hk, hle, hr⟩
    · exact absurd he id

theorem forward_decodeData (im : IANAInfoModel) (tr : TemplateRecord) : Forward (decodeData im tr) := by
  rw [decodeData_eq]
  refine Forward.each (fun p => ?_) _
  rw [decodeField_eq]
  exact Forward.field

theorem decodeData_ok {tr : TemplateRecord} {r r' : Reader} {data : List DecodedField}
    (h : decodeData im tr r = .ok data r') :
    tr.Known im ∧ tr.recordLength ≤ r.len ∧ r' = r.advance tr.recordLength := by
  by_cases hk : tr.Known im
  · exact ⟨hk, (reads_decodeData hk).of_ok h⟩
  · obtain ⟨p, hp⟩ := TemplateRecord.exists_firstUnknown hk
    exact absurd h ((rejects_decodeData hp).not_ok _ _ _)

end VFlow.Netflow9
