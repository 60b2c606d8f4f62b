import VFlow.Netflow9.Records
import VFlow.Wire

/-!
# NetFlow v9 packets on the wire

What an exporter sends, and its bytes: template records, data records, flowsets with padding, packets. The
unmarshalling functions read these bytes back, with whatever follows left unread.
-/

namespace VFlow.Netflow9

open Scan Reader BigEndian

/-! ## Template records -/

def TemplateFieldSpecifier.encode (f : TemplateFieldSpecifier) : List UInt8 :=
  putUint16 f.elementID ++ putUint16 f.length

@[simp] theorem length_encode_specifier (f : TemplateFieldSpecifier) : f.encode.length = 4 := rfl

theorem parses_fieldSpecifier (f : TemplateFieldSpecifier) : Parses TemplateFieldSpecifier.unmarshal f.encode f := by
  have h : Parses TemplateFieldSpecifier.unmarshal (putUint16 f.elementID ++ (putUint16 f.length ++ [])) f :=
    (parses_uint16 _).bind ((parses_uint16 _).bind (Parses.pure _))
  rwa [List.append_nil] at h

structure WireTemplate where
  templateID : UInt16
  fields : List TemplateFieldSpecifier
  deriving DecidableEq, Repr

def WireTemplate.encode (t : WireTemplate) : List UInt8 :=
  putUint16 t.templateID ++ (putUint16 (UInt16.ofNat t.fields.length) ++
    (t.fields.map TemplateFieldSpecifier.encode).flatten)

def WireTemplate.record (t : WireTemplate) : TemplateRecord :=
  { templateID := t.templateID, fieldCount := UInt16.ofNat t.fields.length, fieldSpecifiers := t.fields }

/-- The record has a field, and its field count is one of 16 bits. -/
structure WireTemplate.Ok (t : WireTemplate) : Prop where
  count : t.fields.length < 2 ^ 16
  fields : t.fields ≠ []

theorem many_fieldSpecifiers (fs : List TemplateFieldSpecifier) (rest : List UInt8) (n : Nat) :
    many TemplateFieldSpecifier.unmarshal fs.length ⟨(fs.map TemplateFieldSpecifier.encode).flatten ++ rest, n⟩ =
      (fs, none, ⟨rest, n + (fs.map TemplateFieldSpecifier.encode).flatten.length⟩) := by
  have hall : List.Forall₂ (Parses TemplateFieldSpecifier.unmarshal) (fs.map TemplateFieldSpecifier.encode) fs := by
    rw [List.forall₂_map_left_iff]
    exact List.forall₂_same.mpr fun f _ => parses_fieldSpecifier f
  exact many_parses hall rest n

theorem unmarshal_encode {t : WireTemplate} (h : t.Ok) (rest : List UInt8) (n : Nat) :
    TemplateRecord.unmarshal ⟨t.encode ++ rest, n⟩ = (t.record, none, ⟨rest, n + t.encode.length⟩) := by
  have hheader : Parses TemplateHeader.unmarshal
      (putUint16 t.templateID ++ (putUint16 (UInt16.ofNat t.fields.length) ++ []))
      { templateID := t.templateID, fieldCount := UInt16.ofNat t.fields.length } :=
    (parses_uint16 _).bind ((parses_uint16 _).bind (Parses.pure _))
  have hread := hheader ((t.fields.map TemplateFieldSpecifier.encode).flatten ++ rest) n
  rw [List.append_nil] at hread
  rw [TemplateRecord.unmarshal, WireTemplate.encode, ← List.append_assoc, List.append_assoc, hread]
  dsimp only
  rw [toNat_ofNat_of_lt h.count, many_fieldSpecifiers]
  simp only [WireTemplate.record, List.length_append, Nat.add_assoc]

theorem WireTemplate.Ok.eight_le {t : WireTemplate} (h : t.Ok) : 8 ≤ t.encode.length := by
  obtain ⟨f, fs, hf⟩ := List.exists_cons_of_ne_nil h.fields
  simp only [WireTemplate.encode, hf, List.length_append, length_putUint16, List.map_cons, List.flatten_cons,
    length_encode_specifier]
  omega

structure WireOptions where
  templateID : UInt16
  scopes : List TemplateFieldSpecifier
  fields : List TemplateFieldSpecifier
  deriving DecidableEq, Repr

def WireOptions.encode (t : WireOptions) : List UInt8 :=
  putUint16 t.templateID ++ (putUint16 (UInt16.ofNat (4 * t.scopes.length)) ++
    (putUint16 (UInt16.ofNat (4 * t.fields.length)) ++
      ((t.scopes.map TemplateFieldSpecifier.encode).flatten ++ (t.fields.map TemplateFieldSpecifier.encode).flatten)))

def WireOptions.record (t : WireOptions) : TemplateRecord :=
  { templateID := t.templateID, fieldSpecifiers := t.fields,
    scopeFieldSpecifiers := t.scopes.foldl (fun _ tf => [tf]) [] }

theorem toNat_ofNat_div {n : Nat} (h : 4 * n < 2 ^ 16) : (UInt16.ofNat (4 * n) / 4).toNat = n := by
  rw [UInt16.toNat_div, toNat_ofNat_of_lt h]
  change 4 * n / 4 = n
  omega

theorem unmarshalOpts_encode {t : WireOptions} (hscopes : 4 * t.scopes.length < 2 ^ 16)
    (hfields : 4 * t.fields.length < 2 ^ 16) (rest : List UInt8) (n : Nat) :
    TemplateRecord.unmarshalOpts ⟨t.encode ++ rest, n⟩ = (t.record, none, ⟨rest, n + t.encode.length⟩) := by
  have hheader : Parses TemplateHeader.unmarshalOpts
      (putUint16 t.templateID ++ (putUint16 (UInt16.ofNat (4 * t.scopes.length)) ++
        (putUint16 (UInt16.ofNat (4 * t.fields.length)) ++ [])))
      { templateID := t.templateID, optionLen := UInt16.ofNat (4 * t.fields.length),
        optionScopeLen := UInt16.ofNat (4 * t.scopes.length) } :=
    (parses_uint16 _).bind ((parses_uint16 _).bind ((parses_uint16 _).bind (Parses.pure _)))
  have hread := hheader ((t.scopes.map TemplateFieldSpecifier.encode).flatten ++
    ((t.fields.map TemplateFieldSpecifier.encode).flatten ++ rest)) n
  rw [List.append_nil] at hread
  rw [TemplateRecord.unmarshalOpts, WireOptions.encode]
  simp only [List.append_assoc] at hread ⊢
  rw [hread]
  dsimp only
  rw [toNat_ofNat_div hscopes, many_fieldSpecifiers]
  dsimp only
  rw [toNat_ofNat_div hfields, many_fieldSpecifiers]
  simp only [WireOptions.record, List.length_append, Nat.add_assoc, List.nil_append]

/-! ## Data records -/

variable {im : IANAInfoModel} {tr : TemplateRecord} {r : Record}

def TemplateRecord.Matches (tr : TemplateRecord) (r : Record) : Prop :=
  List.Forall₂ (fun p w => w.length = p.2.length.toNat) tr.specifiers r

def TemplateFieldSpecifier.entry (im : IANAInfoModel) (f : TemplateFieldSpecifier) : InfoElementEntry :=
  (im.lookup f.key).getD { fieldID := f.elementID, type := .unknown }

theorem entry_fieldID (f : TemplateFieldSpecifier) : (f.entry im).fieldID = f.elementID := by
  unfold TemplateFieldSpecifier.entry
  cases hlookup : im.lookup f.key with
  | none => rfl
  | some m => exact im.fieldID_eq f.key m hlookup

def fieldValue (im : IANAInfoModel) (f : TemplateFieldSpecifier) (w : List UInt8) : DecodedField :=
  { id := (f.entry im).fieldID, value := interpret w (f.entry im).type }

def recordValue (im : IANAInfoModel) (tr : TemplateRecord) (r : Record) : List DecodedField :=
  (tr.specifiers.zip r).map fun q => fieldValue im q.1.2 q.2

theorem TemplateRecord.Matches.length_flatten (h : tr.Matches r) : r.flatten.length = tr.recordLength :=
  length_record h

theorem parses_decodeField {scope : Bool} {f : TemplateFieldSpecifier} {w : List UInt8} (hk : f.Known im)
    (hw : w.length = f.length.toNat) : Parses (decodeField im scope f) w (fieldValue im f w) := by
  obtain ⟨m, hm⟩ := Option.isSome_iff_exists.mp hk
  have hentry : f.entry im = m := by rw [TemplateFieldSpecifier.entry, hm, Option.getD_some]
  rw [decodeField_eq, fieldValue, hentry, ← hw]
  exact Parses.field hm

theorem parses_decodeData (hk : tr.Known im) (hm : tr.Matches r) :
    Parses (decodeData im tr) r.flatten (recordValue im tr r) := by
  rw [decodeData_eq]
  exact parses_record (fun p hp w hw => parses_decodeField (hk p hp) hw) hm

/-! ## Flowsets and packets -/

/-- The flowsets of a packet. The padding is counted in the length; that of a reserved flowset is part of
its body. -/
inductive WireSet where
  | template (records : List WireTemplate) (pad : List UInt8)
  | data (id : UInt16) (records : List Record) (pad : List UInt8)
  | reserved (id : UInt16) (body : List UInt8)

def WireSet.id : WireSet → UInt16
  | template _ _ => 0
  | data id _ _ => id
  | reserved id _ => id

def WireSet.body : WireSet → List UInt8
  | template records pad => (records.map WireTemplate.encode).flatten ++ pad
  | data _ records pad => (records.map List.flatten).flatten ++ pad
  | reserved _ body => body

def WireSet.bytes (set : WireSet) : List UInt8 := setBytes set.id set.body

def WireSet.header (set : WireSet) : SetHeader :=
  { flowSetID := set.id, length := UInt16.ofNat (4 + set.body.length) }

def setsBytes (sets : List WireSet) : List UInt8 := (sets.map WireSet.bytes).flatten

@[simp] theorem setsBytes_cons (set : WireSet) (sets : List WireSet) :
    setsBytes (set :: sets) = set.bytes ++ setsBytes sets := rfl

@[simp] theorem length_bytes (set : WireSet) : set.bytes.length = 4 + set.body.length := length_setBytes _ _

theorem sets_eq_nil {set : WireSet} {sets : List WireSet} (h : (setsBytes (set :: sets)).length ≤ 4) :
    sets = [] ∧ set.body = [] := by
  have hbody : set.body.length = 0 := by
    rw [setsBytes_cons, List.length_append, length_bytes] at h
    omega
  refine ⟨?_, List.length_eq_zero_iff.mp hbody⟩
  cases sets with
  | nil => rfl
  | cons set' sets =>
    simp only [setsBytes_cons, List.length_append, length_bytes] at h
    omega

structure WireHeader where
  count : UInt16
  sysUpTime : UInt32
  unixSecs : UInt32
  seqNum : UInt32
  srcID : UInt32

def WireHeader.header (h : WireHeader) : PacketHeader :=
  { version := 9, count := h.count, sysUpTime := h.sysUpTime, unixSecs := h.unixSecs, seqNum := h.seqNum,
    srcID := h.srcID }

/-- A packet: the 20-byte header, and the flowsets. -/
def packetBytes (h : WireHeader) (sets : List WireSet) : List UInt8 :=
  putUint16 9 ++ (putUint16 h.count ++ (putUint32 h.sysUpTime ++ (putUint32 h.unixSecs ++ (putUint32 h.seqNum ++
    (putUint32 h.srcID ++ setsBytes sets)))))

@[simp] theorem length_packetBytes (h : WireHeader) (sets : List WireSet) :
    (packetBytes h sets).length = 20 + (setsBytes sets).length := by
  simp only [packetBytes, List.length_append, length_putUint16, length_putUint32]
  omega

def PacketHeader.encode (h : PacketHeader) : List UInt8 :=
  putUint16 h.version ++ (putUint16 h.count ++ (putUint32 h.sysUpTime ++ (putUint32 h.unixSecs ++
    (putUint32 h.seqNum ++ putUint32 h.srcID))))

theorem parses_packetHeader (h : PacketHeader) : Parses PacketHeader.unmarshal h.encode h := by
  have hparse : Parses PacketHeader.unmarshal
      (putUint16 h.version ++ (putUint16 h.count ++ (putUint32 h.sysUpTime ++ (putUint32 h.unixSecs ++
        (putUint32 h.seqNum ++ (putUint32 h.srcID ++ [])))))) h :=
    (parses_uint16 _).bind ((parses_uint16 _).bind ((parses_uint32 _).bind ((parses_uint32 _).bind
      ((parses_uint32 _).bind ((parses_uint32 _).bind (Parses.pure _))))))
  rwa [List.append_nil] at hparse

theorem unmarshal_packetBytes (h : WireHeader) (sets : List WireSet) :
    PacketHeader.unmarshal (Reader.new (packetBytes h sets)) = .ok h.header ⟨setsBytes sets, 20⟩ := by
  have hread := parses_packetHeader h.header (setsBytes sets) 0
  simp only [PacketHeader.encode, List.append_assoc] at hread
  exact hread

theorem setHeader_bytes (set : WireSet) (rest : List UInt8) :
    SetHeader.ofBytes (set.bytes ++ rest) = set.header := by
  rw [SetHeader.ofBytes, WireSet.bytes, uint16_setBytes, uint16_drop_setBytes, WireSet.header]

end VFlow.Netflow9
