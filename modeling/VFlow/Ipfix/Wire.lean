import VFlow.Ipfix.Records
import VFlow.Wire

/-!
# IPFIX messages on the wire

What an exporter sends, and its bytes: field specifiers of 4 or 8 bytes, template records, options
template records, sets, messages. The unmarshalling functions read these bytes back
(`parses_fieldSpecifier`, `unmarshal_encode`, `unmarshalOpts_encode`, `setHeader_setBytes`), with
whatever follows left unread.
-/

namespace VFlow.Ipfix

open Scan Reader BigEndian

/-! ## Template records -/

/-- A field specifier as it is sent: the enterprise number follows when the enterprise bit is set. -/
structure WireField where
  elementID : UInt16
  length : UInt16
  enterprise : Option UInt32 := none
  deriving DecidableEq, Repr

/-- The element ids of the format are the 15-bit numbers from 1 on. -/
def WireField.Ok (f : WireField) : Prop := 1 ≤ f.elementID.toNat ∧ f.elementID.toNat ≤ 32767

instance (f : WireField) : Decidable f.Ok := inferInstanceAs (Decidable (_ ∧ _))

def WireField.encode (f : WireField) : List UInt8 :=
  match f.enterprise with
  | none => putUint16 f.elementID ++ putUint16 f.length
  | some enterpriseNo => putUint16 (f.elementID + 0x8000) ++ (putUint16 f.length ++ putUint32 enterpriseNo)

def WireField.spec (f : WireField) : TemplateFieldSpecifier :=
  { elementID := f.elementID, length := f.length, enterpriseNo := f.enterprise.getD 0 }

theorem enterpriseBit_toNat {id : UInt16} (h : id.toNat ≤ 32767) : (id + 0x8000).toNat = id.toNat + 32768 := by
  rw [UInt16.toNat_add]
  change (id.toNat + 32768) % 2 ^ 16 = _
  omega

theorem and_elementMask {id : UInt16} (h : id.toNat ≤ 32767) : (id + 0x8000) &&& 0x7fff = id := by
  apply UInt16.toNat_inj.mp
  rw [UInt16.toNat_and, enterpriseBit_toNat h]
  change (id.toNat + 32768) &&& (2 ^ 15 - 1) = _
  rw [Nat.and_two_pow_sub_one_eq_mod]
  omega

theorem parses_fieldSpecifier {f : WireField} (h : f.Ok) :
    Parses TemplateFieldSpecifier.unmarshal f.encode f.spec := by
  obtain ⟨id, length, enterprise⟩ := f
  obtain ⟨hpos, hle⟩ := h
  dsimp only at hpos hle
  unfold TemplateFieldSpecifier.unmarshal WireField.encode WireField.spec
  cases enterprise with
  | none =>
    have hbit : ¬ id > 0x8000 := by
      rw [gt_iff_lt, UInt16.lt_iff_toNat_lt]
      change ¬ 32768 < id.toNat
      omega
    refine (parses_uint16 id).bind ?_
    rw [← List.append_nil (putUint16 length)]
    refine (parses_uint16 length).bind ?_
    rw [if_neg hbit]
    exact Parses.pure _
  | some enterpriseNo =>
    have hbit : id + 0x8000 > 0x8000 := by
      rw [gt_iff_lt, UInt16.lt_iff_toNat_lt, enterpriseBit_toNat hle]
      change 32768 < _
      omega
    refine (parses_uint16 _).bind ((parses_uint16 length).bind ?_)
    rw [if_pos hbit, ← List.append_nil (putUint32 enterpriseNo)]
    refine (parses_uint32 enterpriseNo).bind ?_
    rw [and_elementMask hle]
    exact Parses.pure _

theorem four_le_encode (f : WireField) : 4 ≤ f.encode.length := by
  unfold WireField.encode
  cases f.enterprise <;> simp

structure WireTemplate where
  templateID : UInt16
  fields : List WireField
  deriving DecidableEq, Repr

def WireTemplate.encode (t : WireTemplate) : List UInt8 :=
  putUint16 t.templateID ++ (putUint16 (UInt16.ofNat t.fields.length) ++ (t.fields.map WireField.encode).flatten)

def WireTemplate.record (t : WireTemplate) : TemplateRecord :=
  { templateID := t.templateID, fieldCount := UInt16.ofNat t.fields.length,
    fieldSpecifiers := t.fields.map WireField.spec }

structure WireTemplate.Ok (t : WireTemplate) : Prop where
  id : 255 < t.templateID
  count : t.fields.length < 2 ^ 16
  fields : ∀ f ∈ t.fields, f.Ok

structure WireOptions where
  templateID : UInt16
  scopes : List WireField
  fields : List WireField
  deriving DecidableEq, Repr

def WireOptions.encode (t : WireOptions) : List UInt8 :=
  putUint16 t.templateID ++ (putUint16 (UInt16.ofNat (t.scopes.length + t.fields.length)) ++
    (putUint16 (UInt16.ofNat t.scopes.length) ++
      ((t.scopes.map WireField.encode).flatten ++ (t.fields.map WireField.encode).flatten)))

/-- The record that is stored, with the last scope specifier only. -/
def WireOptions.record (t : WireOptions) : TemplateRecord :=
  { templateID := t.templateID, fieldCount := UInt16.ofNat (t.scopes.length + t.fields.length),
    fieldSpecifiers := t.fields.map WireField.spec, scopeFieldCount := UInt16.ofNat t.scopes.length,
    scopeFieldSpecifiers := (t.scopes.map WireField.spec).foldl (fun _ tf => [tf]) [] }

structure WireOptions.Ok (t : WireOptions) : Prop where
  id : 255 < t.templateID
  count : t.scopes.length + t.fields.length < 2 ^ 16
  scopes : ∀ f ∈ t.scopes, f.Ok
  fields : ∀ f ∈ t.fields, f.Ok

theorem many_fieldSpecifiers {fs : List WireField} (h : ∀ f ∈ fs, f.Ok) (rest : List UInt8) (n : Nat) :
    many TemplateFieldSpecifier.unmarshal fs.length ⟨(fs.map WireField.encode).flatten ++ rest, n⟩ =
      (fs.map WireField.spec, none, ⟨rest, n + (fs.map WireField.encode).flatten.length⟩) := by
  have hall : List.Forall₂ (Parses TemplateFieldSpecifier.unmarshal) (fs.map WireField.encode)
      (fs.map WireField.spec) := by
    rw [List.forall₂_map_left_iff, List.forall₂_map_right_iff]
    exact List.forall₂_same.mpr fun f hf => parses_fieldSpecifier (h f hf)
  have hmany := many_parses hall rest n
  rwa [List.length_map] at hmany

theorem unmarshal_encode {t : WireTemplate} (h : t.Ok) (rest : List UInt8) (n : Nat) :
    TemplateRecord.unmarshal ⟨t.encode ++ rest, n⟩ = (t.record, none, ⟨rest, n + t.encode.length⟩) := by
  have hheader : Parses TemplateHeader.unmarshal
      (putUint16 t.templateID ++ (putUint16 (UInt16.ofNat t.fields.length) ++ []))
      { templateID := t.templateID, fieldCount := UInt16.ofNat t.fields.length } :=
    (parses_uint16 _).bind ((parses_uint16 _).bind (Parses.pure _))
  have hread := hheader ((t.fields.map WireField.encode).flatten ++ rest) n
  rw [List.append_nil] at hread
  rw [TemplateRecord.unmarshal, WireTemplate.encode, ← List.append_assoc, List.append_assoc, hread]
  dsimp only
  rw [toNat_ofNat_of_lt h.count, many_fieldSpecifiers h.fields]
  simp only [WireTemplate.record, List.length_append, Nat.add_assoc]

theorem unmarshalOpts_encode {t : WireOptions} (hcount : t.scopes.length + t.fields.length < 2 ^ 16)
    (hscopes : ∀ f ∈ t.scopes, f.Ok) (hfields : ∀ f ∈ t.fields, f.Ok) (rest : List UInt8) (n : Nat) :
    TemplateRecord.unmarshalOpts ⟨t.encode ++ rest, n⟩ = (t.record, none, ⟨rest, n + t.encode.length⟩) := by
  have hheader : Parses TemplateHeader.unmarshalOpts
      (putUint16 t.templateID ++ (putUint16 (UInt16.ofNat (t.scopes.length + t.fields.length)) ++
        (putUint16 (UInt16.ofNat t.scopes.length) ++ [])))
      { templateID := t.templateID, fieldCount := UInt16.ofNat (t.scopes.length + t.fields.length),
        scopeFieldCount := UInt16.ofNat t.scopes.length } :=
    (parses_uint16 _).bind ((parses_uint16 _).bind ((parses_uint16 _).bind (Parses.pure _)))
  have hread := hheader ((t.scopes.map WireField.encode).flatten ++
    ((t.fields.map WireField.encode).flatten ++ rest)) n
  have hsub : (UInt16.ofNat (t.scopes.length + t.fields.length) - UInt16.ofNat t.scopes.length).toNat =
      t.fields.length := by
    rw [UInt16.toNat_sub_of_le, toNat_ofNat_of_lt hcount, toNat_ofNat_of_lt (by omega), Nat.add_sub_cancel_left]
    rw [UInt16.le_iff_toNat_le, toNat_ofNat_of_lt hcount, toNat_ofNat_of_lt (by omega)]
    omega
  rw [List.append_nil] at hread
  rw [TemplateRecord.unmarshalOpts, WireOptions.encode]
  simp only [List.append_assoc] at hread ⊢
  rw [hread]
  dsimp only
  rw [toNat_ofNat_of_lt (by omega), many_fieldSpecifiers hscopes]
  dsimp only
  rw [hsub, many_fieldSpecifiers hfields]
  simp only [WireOptions.record, List.length_append, Nat.add_assoc, List.nil_append]

/-! ## Data records -/

variable {im : IANAInfoModel} {tr : TemplateRecord} {r : Record}

/-- The record has the fields of the template, of the lengths the template gives. -/
def TemplateRecord.Matches (tr : TemplateRecord) (r : Record) : Prop :=
  List.Forall₂ (fun p w => w.length = p.2.length.toNat) tr.specifiers r

def TemplateFieldSpecifier.entry (im : IANAInfoModel) (f : TemplateFieldSpecifier) : InfoElementEntry :=
  (im.lookup f.key).getD { fieldID := f.elementID, type := .unknown }

theorem entry_fieldID (f : TemplateFieldSpecifier) : (f.entry im).fieldID = f.elementID := by
  unfold TemplateFieldSpecifier.entry
  cases hlookup : im.lookup f.key with
  | none => rfl
  | some m => exact im.fieldID_eq f.key m hlookup

def fieldValue (im : IANAInfoModel) (p : Bool × TemplateFieldSpecifier) (w : List UInt8) : DecodedField :=
  { id := (p.2.entry im).fieldID, value := interpret w (p.2.entry im).type,
    enterpriseNo := if p.1 then p.2.enterpriseNo else 0 }

def recordValue (im : IANAInfoModel) (tr : TemplateRecord) (r : Record) : List DecodedField :=
  (tr.specifiers.zip r).map fun q => fieldValue im q.1 q.2

theorem TemplateRecord.Matches.length_flatten (h : tr.Matches r) : r.flatten.length = tr.recordLength :=
  length_record h

theorem parses_decodeField {p : Bool × TemplateFieldSpecifier} {w : List UInt8} (hk : p.2.Known im)
    (hw : w.length = p.2.length.toNat) : Parses (decodeField im p.1 p.2) w (fieldValue im p w) := by
  obtain ⟨m, hm⟩ := Option.isSome_iff_exists.mp hk
  have hentry : p.2.entry im = m := by rw [TemplateFieldSpecifier.entry, hm, Option.getD_some]
  rw [decodeField_eq, fieldValue, hentry, ← hw]
  exact Parses.field hm

theorem parses_decodeData (hk : tr.Known im) (hm : tr.Matches r) :
    Parses (decodeData im tr) r.flatten (recordValue im tr r) := by
  rw [decodeData_eq]
  exact parses_record (fun p hp w hw => parses_decodeField (hk p hp) hw) hm

/-! ## Sets and messages -/

/-- The sets of a message. The padding of a data set is counted in its length. -/
inductive WireSet where
  | template (records : List WireTemplate)
  | options (records : List WireOptions)
  | data (id : UInt16) (records : List Record) (pad : Nat)
  | reserved (id : UInt16) (body : List UInt8)

def WireSet.bytes : WireSet → List UInt8
  | template records => setBytes 2 (records.map WireTemplate.encode).flatten
  | options records => setBytes 3 (records.map WireOptions.encode).flatten
  | data id records pad => setBytes id ((records.map List.flatten).flatten ++ List.replicate pad 0)
  | reserved id body => setBytes id body

def setsBytes (sets : List WireSet) : List UInt8 := (sets.map WireSet.bytes).flatten

@[simp] theorem setsBytes_cons (set : WireSet) (sets : List WireSet) :
    setsBytes (set :: sets) = set.bytes ++ setsBytes sets := rfl

structure WireHeader where
  exportTime : UInt32
  sequenceNo : UInt32
  domainID : UInt32

/-- A message: the 16-byte header with the length of the message, and the sets. -/
def messageBytes (h : WireHeader) (sets : List WireSet) : List UInt8 :=
  putUint16 10 ++ (putUint16 (UInt16.ofNat (16 + (setsBytes sets).length)) ++ (putUint32 h.exportTime ++
    (putUint32 h.sequenceNo ++ (putUint32 h.domainID ++ setsBytes sets))))

theorem setHeader_setBytes (id : UInt16) (body rest : List UInt8) :
    SetHeader.ofBytes (setBytes id body ++ rest) = { setID := id, length := UInt16.ofNat (4 + body.length) } := by
  rw [SetHeader.ofBytes, uint16_setBytes, uint16_drop_setBytes]

theorem four_le_bytes (set : WireSet) : 4 ≤ set.bytes.length := by
  cases set <;> simp [WireSet.bytes]

theorem sets_eq_nil {set : WireSet} {sets : List WireSet} (h : (setsBytes (set :: sets)).length ≤ 4) : sets = [] := by
  cases sets with
  | nil => rfl
  | cons set' sets =>
    have := four_le_bytes set
    have := four_le_bytes set'
    simp only [setsBytes_cons, List.length_append] at h
    omega

@[simp] theorem length_messageBytes (h : WireHeader) (sets : List WireSet) :
    (messageBytes h sets).length = 16 + (setsBytes sets).length := by
  simp only [messageBytes, List.length_append, length_putUint16, length_putUint32]
  omega

def WireHeader.header (h : WireHeader) (sets : List WireSet) : MessageHeader :=
  { version := 10, length := UInt16.ofNat (16 + (setsBytes sets).length), exportTime := h.exportTime,
    sequenceNo := h.sequenceNo, domainID := h.domainID }

theorem unmarshal_messageBytes (h : WireHeader) (sets : List WireSet) :
    MessageHeader.unmarshal (Reader.new (messageBytes h sets)) = .ok (h.header sets) ⟨setsBytes sets, 16⟩ := by
  have hparse : Parses MessageHeader.unmarshal
      (putUint16 10 ++ (putUint16 (UInt16.ofNat (16 + (setsBytes sets).length)) ++
        (putUint32 h.exportTime ++ (putUint32 h.sequenceNo ++ (putUint32 h.domainID ++ [])))))
      (h.header sets) :=
    (parses_uint16 _).bind ((parses_uint16 _).bind ((parses_uint32 _).bind ((parses_uint32 _).bind
      ((parses_uint32 _).bind (Parses.pure _)))))
  have hread := hparse (setsBytes sets) 0
  simp only [List.append_assoc, List.nil_append] at hread
  exact hread

end VFlow.Ipfix
