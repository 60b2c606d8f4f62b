import VFlow.Ipfix.Decoder

/-!
# Reading IPFIX headers, template records and data records

One or two facts for each unmarshalling function, in the judgements of the cursor library; later
modules use these and never unfold the functions.

A data record is read by its template alone: `decodeData` takes `recordLength` bytes when every
element is known (`reads_decodeData`), and stops behind the first unknown element otherwise
(`rejects_decodeData`).
-/

namespace VFlow.Ipfix

open Scan Reader

/-! ## Headers -/

theorem reads_messageHeader : Reads .errReader MessageHeader.unmarshal 16 :=
  reads_uint16.bind fun _ => reads_uint16.bind fun _ => reads_uint32.bind fun _ => reads_uint32.bind fun _ =>
    reads_uint32.bind fun _ => Reads.pure _ _

def SetHeader.ofBytes (b : List UInt8) : SetHeader :=
  { setID := BigEndian.uint16 b, length := BigEndian.uint16 (b.drop 2) }

theorem setHeader_of_le {r : Reader} (h : 4 ≤ r.len) :
    SetHeader.unmarshal r = .ok (SetHeader.ofBytes r.data) (r.advance 4) := by
  have h2 : 2 ≤ (r.advance 2).len := by rw [Cursor.len_advance]; omega
  rw [SetHeader.unmarshal, bind_apply, uint16_of_le (by omega)]
  dsimp only
  rw [bind_apply, uint16_of_le h2]
  dsimp only
  rw [pure_apply, Cursor.advance_advance]
  rfl

theorem reads_templateHeader : Reads .errReader TemplateHeader.unmarshal 4 :=
  reads_uint16.bind fun _ => reads_uint16.bind fun _ => Reads.pure _ _

theorem templateHeader_ofBytes {r : Reader} (h : 4 ≤ r.len) :
    TemplateHeader.unmarshal r =
      .ok { templateID := BigEndian.uint16 r.data, fieldCount := BigEndian.uint16 (r.data.drop 2) } (r.advance 4) := by
  rw [TemplateHeader.unmarshal, bind_apply, uint16_of_le (by omega)]
  dsimp only
  rw [bind_apply, uint16_of_le (by rw [Cursor.len_advance]; omega), Cursor.advance_advance]
  rfl

/-! ## Template records -/

theorem forward_fieldSpecifier : Forward TemplateFieldSpecifier.unmarshal := by
  refine reads_uint16.forward.bind fun _ => reads_uint16.forward.bind fun _ => ?_
  split_ifs
  · exact reads_uint32.forward.bind fun _ => Forward.pure _
  · exact Forward.pure _

theorem unmarshal_forward {r : Reader} (h : 4 ≤ r.len) :
    ∃ k, 4 ≤ k ∧ k ≤ r.len ∧ (TemplateRecord.unmarshal r).2.2 = r.advance k := by
  obtain ⟨th, hth⟩ := (reads_templateHeader r).1 h
  obtain ⟨k, hk, hr⟩ := many_forward forward_fieldSpecifier th.fieldCount.toNat (r.advance 4)
  rw [Cursor.len_advance] at hk
  refine ⟨4 + k, by omega, by omega, ?_⟩
  rw [TemplateRecord.unmarshal, hth]
  dsimp only
  rw [hr, Cursor.advance_advance]

theorem templateHeaderOpts_forward {r : Reader} (h : 4 ≤ r.len) :
    ∃ k, 4 ≤ k ∧ k ≤ r.len ∧ final (TemplateHeader.unmarshalOpts r) = r.advance k := by
  have h2 : 2 ≤ (r.advance 2).len := by rw [Cursor.len_advance]; omega
  rw [TemplateHeader.unmarshalOpts, bind_apply, uint16_of_le (by omega)]
  dsimp only
  rw [bind_apply, uint16_of_le h2, Cursor.advance_advance]
  dsimp only
  obtain ⟨k, hk, hr⟩ := (reads_uint16.bind fun n => Reads.pure Error.errReader
    (TemplateHeader.mk (BigEndian.uint16 r.data) (BigEndian.uint16 (r.advance 2).data) n)).forward (r.advance 4)
  rw [Cursor.len_advance] at hk
  exact ⟨4 + k, by omega, by omega, hr.trans (Cursor.advance_advance _ _ _)⟩

theorem unmarshalOpts_forward {r : Reader} (h : 4 ≤ r.len) :
    ∃ k, 4 ≤ k ∧ k ≤ r.len ∧ (TemplateRecord.unmarshalOpts r).2.2 = r.advance k := by
  obtain ⟨k, hk4, hk, hth⟩ := templateHeaderOpts_forward h
  rw [TemplateRecord.unmarshalOpts]
  cases hh : TemplateHeader.unmarshalOpts r with
  | error e r' =>
    rw [hh, final_error] at hth
    exact ⟨k, hk4, hk, hth⟩
  | ok th r' =>
    rw [hh, final_ok] at hth
    subst hth
    obtain ⟨i, hi, hscope⟩ := many_forward forward_fieldSpecifier th.scopeFieldCount.toNat (r.advance k)
    rw [Cursor.len_advance] at hi
    dsimp only
    split
    · exact ⟨k + i, by omega, by omega, by rw [hscope, Cursor.advance_advance]⟩
    · obtain ⟨j, hj, hspec⟩ := many_forward forward_fieldSpecifier
        (th.fieldCount - th.scopeFieldCount).toNat
        (many TemplateFieldSpecifier.unmarshal th.scopeFieldCount.toNat (r.advance k)).2.2
      rw [hscope, Cursor.len_advance, Cursor.len_advance] at hj
      refine ⟨k + i + j, by omega, by omega, ?_⟩
      rw [hspec, hscope, Cursor.advance_advance, Cursor.advance_advance, Nat.add_assoc]

/-! ## Data records -/

def TemplateRecord.specifiers (tr : TemplateRecord) : List (Bool × TemplateFieldSpecifier) :=
  tr.fieldSpecifiers.map (false, ·) ++ tr.scopeFieldSpecifiers.map (true, ·)

/-- The bytes of a data record of the template, as the decoder reads it. -/
def TemplateRecord.recordLength (tr : TemplateRecord) : Nat :=
  (tr.specifiers.map fun p => p.2.length.toNat).sum

def TemplateFieldSpecifier.key (f : TemplateFieldSpecifier) : ElementKey :=
  { enterpriseNo := f.enterpriseNo, elementID := f.elementID }

variable {im : IANAInfoModel}

def TemplateFieldSpecifier.Known (im : IANAInfoModel) (f : TemplateFieldSpecifier) : Prop :=
  (im.lookup f.key).isSome

instance (f : TemplateFieldSpecifier) : Decidable (f.Known im) :=
  inferInstanceAs (Decidable (_ = true))

/-- All elements of the template are in the information model. -/
def TemplateRecord.Known (im : IANAInfoModel) (tr : TemplateRecord) : Prop :=
  ∀ p ∈ tr.specifiers, p.2.Known im

instance (tr : TemplateRecord) : Decidable (tr.Known im) :=
  inferInstanceAs (Decidable (∀ p ∈ tr.specifiers, _))

theorem decodeData_eq (tr : TemplateRecord) :
    decodeData im tr = Scan.each (fun p => decodeField im p.1 p.2) tr.specifiers := by
  funext r
  rw [TemplateRecord.specifiers, each_append, each_map, each_map]
  rfl

theorem decodeField_eq (scope : Bool) (f : TemplateFieldSpecifier) :
    decodeField im scope f = Scan.field .errReader f.length.toNat (im.lookup f.key)
      (.unknownElement .ipfix f.elementID scope) fun m b =>
        { id := m.fieldID, value := interpret b m.type, enterpriseNo := if scope then f.enterpriseNo else 0 } := by
  unfold decodeField Scan.field TemplateFieldSpecifier.key
  cases im.lookup { enterpriseNo := f.enterpriseNo, elementID := f.elementID } <;> rfl

theorem reads_decodeField {scope : Bool} {f : TemplateFieldSpecifier} (h : f.Known im) :
    Reads .errReader (decodeField im scope f) f.length.toNat := by
  rw [decodeField_eq]
  exact Reads.field h

theorem reads_decodeData {tr : TemplateRecord} (h : tr.Known im) :
    Reads .errReader (decodeData im tr) tr.recordLength := by
  rw [decodeData_eq]
  exact Reads.each fun p hp => reads_decodeField (h p hp)

def TemplateRecord.firstUnknown (im : IANAInfoModel) (tr : TemplateRecord) : Option (Bool × TemplateFieldSpecifier) :=
  tr.specifiers.find? fun p => ¬ p.2.Known im

def TemplateRecord.refusedLength (im : IANAInfoModel) (tr : TemplateRecord) : Nat :=
  sizeUpTo (fun p => p.2.Known im) (fun p => p.2.length.toNat) tr.specifiers

theorem TemplateRecord.firstUnknown_eq_none {tr : TemplateRecord} : tr.firstUnknown im = none ↔ tr.Known im := by
  simp [TemplateRecord.firstUnknown, TemplateRecord.Known]

theorem TemplateRecord.exists_firstUnknown {tr : TemplateRecord} (h : ¬ tr.Known im) :
    ∃ p, tr.firstUnknown im = some p := by
  rw [← TemplateRecord.firstUnknown_eq_none] at h
  exact Option.ne_none_iff_exists'.mp h

theorem rejects_decodeData {tr : TemplateRecord} {p : Bool × TemplateFieldSpecifier}
    (h : tr.firstUnknown im = some p) :
    Rejects .errReader (decodeData im tr) (tr.refusedLength im) (.unknownElement .ipfix p.2.elementID p.1) := by
  rw [decodeData_eq]
  refine Rejects.each_find (e := fun q => .unknownElement .ipfix q.2.elementID q.1)
    (fun q hq => reads_decodeField hq) (fun q hq => ?_) h
  rw [decodeField_eq]
  exact Rejects.field hq

/-- A record is refused only at its first unknown element; before it nothing but the end of the packet
can be met. -/
theorem decodeData_skippable {tr : TemplateRecord} {r r' : Reader} {e : Error}
    (hdec : decodeData im tr r = .error e r') (he : e.Skippable) :
    ¬ tr.Known im ∧ tr.refusedLength im ≤ r.len ∧ r' = r.advance (tr.refusedLength im) := by
  by_cases hk : tr.Known im
  · obtain ⟨rfl, -⟩ := (reads_decodeData hk).of_error hdec
    exact absurd he id
  · obtain ⟨p, hp⟩ := TemplateRecord.exists_firstUnknown hk
    rcases (rejects_decodeData hp).of_error hdec with ⟨hle, -, hr⟩ | ⟨-, rfl⟩
    · exact ⟨hk, hle, hr⟩
    · exact absurd he id

theorem forward_decodeData (im : IANAInfoModel) (tr : TemplateRecord) : Forward (decodeData im tr) := by
  rw [decodeData_eq]
  refine Forward.each (fun p => ?_) _
  rw [decodeField_eq]
  exact Forward.field

theorem decodeData_ok {tr : TemplateRecord} {r r' : Reader} {data : List DecodedField}
    (h : decodeData im tr r = .ok data r') :
    tr.Known im ∧ tr.recordLength ≤ r.len ∧ r' = r.advance tr.recordLength := by
  by_cases hk : tr.Known im
  · exact ⟨hk, (reads_decodeData hk).of_ok h⟩
  · obtain ⟨p, hp⟩ := TemplateRecord.exists_firstUnknown hk
    exact absurd h ((rejects_decodeData hp).not_ok _ _ _)

end VFlow.Ipfix
