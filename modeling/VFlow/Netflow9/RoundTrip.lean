import VFlow.Netflow9.Collector

/-!
# Export packets

An export packet defines templates and sends data records in them; reserved flowsets may stand between,
and every flowset may end with up to 3 bytes of padding. `Decode` returns exactly the records that were
sent, each with the header of its flowset, and stores the definitions, the last one of each id, over
whatever the cache held before: `decode_exportPacket`.

As for IPFIX the definitions sent so far, the newest first, relate the exporter to the cache.
-/

namespace VFlow.Netflow9

open Scan Reader BigEndian

variable {im : IANAInfoModel} {raddr : IP} {mem : MemCache TemplateRecord} {defs : List WireTemplate}
  {sets : List WireSet} {t : WireTemplate} {r : Record} {c : Collected}

/-! ## What is sent -/

def definition (defs : List WireTemplate) (id : UInt16) : Option WireTemplate :=
  defs.find? fun t => t.templateID = id

def WireTemplate.length (t : WireTemplate) : Nat := (t.fields.map fun f => f.length.toNat).sum

def WireTemplate.Matches (t : WireTemplate) (r : Record) : Prop :=
  List.Forall₂ (fun f w => w.length = f.length.toNat) t.fields r

/-- Template flowsets of complete records with a field, data flowsets of templates defined before, whose
elements are in the information model and have 5 bytes at least together, and reserved flowsets, with up to
3 bytes of padding each. -/
def PacketOk (im : IANAInfoModel) (defs : List WireTemplate) : List WireSet → Prop
  | [] => True
  | .template records pad :: sets =>
    (∀ t ∈ records, t.Ok) ∧ pad.length ≤ 3 ∧ PacketOk im (records.reverse ++ defs) sets
  | .data id records pad :: sets =>
    (255 < id ∧ ∃ t, definition defs id = some t ∧ 5 ≤ t.length ∧ (∀ f ∈ t.fields, f.Known im) ∧
      ∀ r ∈ records, t.Matches r) ∧ pad.length ≤ 3 ∧ PacketOk im defs sets
  | .reserved id _ :: sets => (4 ≤ id ∧ id ≤ 255) ∧ PacketOk im defs sets

def definitions (defs : List WireTemplate) : List WireSet → List WireTemplate
  | [] => defs
  | .template records _ :: sets => definitions (records.reverse ++ defs) sets
  | .data _ _ _ :: sets | .reserved _ _ :: sets => definitions defs sets

def WireTemplate.decoded (im : IANAInfoModel) (t : WireTemplate) (r : Record) : List (UInt16 × Value) :=
  (t.fields.zip r).map fun q => (q.1.elementID, interpret q.2 (q.1.entry im).type)

def decodedSets (im : IANAInfoModel) (defs : List WireTemplate) :
    List WireSet → List (SetHeader × List (UInt16 × Value))
  | [] => []
  | .template records _ :: sets => decodedSets im (records.reverse ++ defs) sets
  | .data id records pad :: sets =>
    (match definition defs id with
      | some t => records.map fun r => ((WireSet.data id records pad).header, t.decoded im r)
      | none => []) ++ decodedSets im defs sets
  | .reserved _ _ :: sets => decodedSets im defs sets

def Message.decoded (msg : Message) : List (List (UInt16 × Value)) :=
  msg.dataSets.map fun record => record.map fun f => (f.id, f.value)

/-! ## The cache and the definitions -/

def stored (raddr : IP) (mem : MemCache TemplateRecord) (defs : List WireTemplate) : MemCache TemplateRecord :=
  mem.insertAll TemplateRecord.templateID raddr (defs.reverse.map WireTemplate.record)

theorem retrieve_stored (id : UInt16) :
    (stored raddr mem defs).retrieve id raddr =
      ((definition defs id).map WireTemplate.record).or (mem.retrieve id raddr) := by
  rw [stored, MemCache.retrieve_insertAll, List.map_reverse, List.reverse_reverse, List.find?_map]
  rfl

theorem insertAll_stored (records : List WireTemplate) :
    (stored raddr mem defs).insertAll TemplateRecord.templateID raddr (records.map WireTemplate.record) =
      stored raddr mem (records.reverse ++ defs) := by
  rw [stored, stored, List.reverse_append, List.reverse_reverse, List.map_append, MemCache.insertAll_append]

theorem retrieve_of_definition {id : UInt16} (h : definition defs id = some t) :
    (stored raddr mem defs).retrieve id raddr = some t.record := by
  rw [retrieve_stored, h]
  rfl

/-! ## Records -/

theorem specifiers_record : t.record.specifiers = t.fields.map fun f => (false, f) := by
  simp only [TemplateRecord.specifiers, WireTemplate.record, List.map_nil, List.append_nil]

theorem recordLength_record : t.record.recordLength = t.length := by
  rw [TemplateRecord.recordLength, specifiers_record, List.map_map]
  rfl

theorem known_record (h : ∀ f ∈ t.fields, f.Known im) : t.record.Known im := by
  rw [TemplateRecord.Known, specifiers_record]
  simp only [List.mem_map]
  rintro p ⟨f, hf, rfl⟩
  exact h f hf

theorem WireTemplate.Matches.record (h : t.Matches r) : t.record.Matches r := by
  rw [TemplateRecord.Matches, specifiers_record, List.forall₂_map_left_iff]
  exact h

theorem recordValue_record :
    (recordValue im t.record r).map (fun f => (f.id, f.value)) = t.decoded im r := by
  rw [recordValue, specifiers_record, List.zip_map_left, List.map_map, List.map_map, WireTemplate.decoded]
  refine List.map_congr_left fun q _ => ?_
  simp only [Function.comp_apply, fieldValue, Prod.map, id_eq, entry_fieldID]

/-! ## What is collected -/

theorem foldl_store (raddr : IP) (records : List WireTemplate) (c : Collected) :
    (records.foldl (fun c t => c.store raddr t.record) c).mem =
        c.mem.insertAll TemplateRecord.templateID raddr (records.map WireTemplate.record) ∧
      (records.foldl (fun c t => c.store raddr t.record) c).msg.dataSets = c.msg.dataSets ∧
      (records.foldl (fun c t => c.store raddr t.record) c).msg.setHeaders = c.msg.setHeaders := by
  induction records generalizing c with
  | nil => exact ⟨rfl, rfl, rfl⟩
  | cons t ts ih => exact ih (c.store raddr t.record)

theorem foldl_append (h : SetHeader) (datas : List (List DecodedField)) (c : Collected) :
    (datas.foldl (fun c data => c.append h data) c).mem = c.mem ∧
      (datas.foldl (fun c data => c.append h data) c).msg.dataSets = c.msg.dataSets ++ datas ∧
      (datas.foldl (fun c data => c.append h data) c).msg.setHeaders =
        c.msg.setHeaders ++ datas.map fun _ => h := by
  induction datas generalizing c with
  | nil => exact ⟨rfl, (List.append_nil _).symm, (List.append_nil _).symm⟩
  | cons data datas ih =>
    obtain ⟨hmem, hdata, hheaders⟩ := ih (c.append h data)
    rw [List.foldl_cons]
    refine ⟨hmem, hdata.trans ?_, hheaders.trans ?_⟩
    · exact List.append_assoc _ _ _
    · exact List.append_assoc _ _ _

structure Collects (c c' : Collected) (sent : List (SetHeader × List (UInt16 × Value))) : Prop where
  records : c'.msg.decoded = c.msg.decoded ++ sent.map Prod.snd
  headers : c'.msg.setHeaders = c.msg.setHeaders ++ sent.map Prod.fst

theorem Collects.append {c c' c'' : Collected} {sent sent' : List (SetHeader × List (UInt16 × Value))}
    (h : Collects c c' sent) (h' : Collects c' c'' sent') : Collects c c'' (sent ++ sent') where
  records := by rw [h'.records, h.records, List.map_append, List.append_assoc]
  headers := by rw [h'.headers, h.headers, List.map_append, List.append_assoc]

theorem collect_template (im : IANAInfoModel) (records : List WireTemplate) (pad : List UInt8)
    (hc : c.mem = stored raddr mem defs) :
    ((WireSet.template records pad).collect im raddr c).mem = stored raddr mem (records.reverse ++ defs) ∧
      Collects c ((WireSet.template records pad).collect im raddr c) [] := by
  obtain ⟨hmem, hdata, hheaders⟩ := foldl_store raddr records c
  rw [WireSet.collect]
  refine ⟨by rw [hmem, hc, insertAll_stored], ?_, ?_⟩
  · rw [Message.decoded, hdata]
    exact (List.append_nil _).symm
  · rw [hheaders]
    exact (List.append_nil _).symm

theorem collect_data (im : IANAInfoModel) {id : UInt16} (records : List Record) (pad : List UInt8)
    (hc : c.mem = stored raddr mem defs) (hdef : definition defs id = some t) :
    ((WireSet.data id records pad).collect im raddr c).mem = stored raddr mem defs ∧
      Collects c ((WireSet.data id records pad).collect im raddr c)
        (records.map fun r => ((WireSet.data id records pad).header, t.decoded im r)) := by
  have hret : c.mem.retrieve id raddr = some t.record := by rw [hc, retrieve_of_definition hdef]
  obtain ⟨hmem, hdata, hheaders⟩ := foldl_append (WireSet.data id records pad).header
    (records.map (recordValue im t.record)) c
  rw [List.foldl_map] at hmem hdata hheaders
  simp only [WireSet.collect, hret]
  refine ⟨hmem.trans hc, ?_, ?_⟩
  · rw [Message.decoded, hdata, List.map_append, List.map_map, List.map_map]
    congr 1
    exact List.map_congr_left fun r _ => recordValue_record
  · rw [hheaders, List.map_map, List.map_map]
    rfl

theorem PacketOk.collectAll (h : PacketOk im defs sets) (hc : c.mem = stored raddr mem defs) :
    AllOk im raddr c sets ∧
      (collectAll im raddr c sets).mem = stored raddr mem (definitions defs sets) ∧
      Collects c (Netflow9.collectAll im raddr c sets) (decodedSets im defs sets) := by
  induction sets generalizing c defs with
  | nil => exact ⟨trivial, hc, (List.append_nil _).symm, (List.append_nil _).symm⟩
  | cons set sets ih =>
    cases set with
    | template records pad =>
      obtain ⟨hok, hpad, htail⟩ := h
      obtain ⟨hmem, hcol⟩ := collect_template im records pad hc
      obtain ⟨hall, hend, hcols⟩ := ih htail hmem
      exact ⟨⟨⟨hok, Nat.le_succ_of_le hpad⟩, hall⟩, hend, hcol.append hcols⟩
    | data id records pad =>
      obtain ⟨⟨hid, t, hdef, hfive, hk, hrs⟩, hpad, htail⟩ := h
      obtain ⟨hmem, hcol⟩ := collect_data im records pad hc hdef
      obtain ⟨hall, hend, hcols⟩ := ih htail hmem
      have hret : c.mem.retrieve id raddr = some t.record := by rw [hc, retrieve_of_definition hdef]
      refine ⟨⟨⟨hid, ⟨t.record, hret, known_record hk, recordLength_record.symm ▸ hfive,
        fun r hr => (hrs r hr).record⟩, Nat.le_succ_of_le hpad⟩, hall⟩, hend, ?_⟩
      rw [decodedSets, hdef]
      exact hcol.append hcols
    | reserved id body =>
      obtain ⟨hall, hend, hcols⟩ := ih h.2 hc
      exact ⟨⟨h.1, hall⟩, hend, hcols⟩

/-- **Export packets.** For every exporter and every packet of template flowsets, reserved flowsets and
data flowsets of templates defined before, in the packet or earlier, `Decode` returns no error and exactly
the records of the packet in order, each with the header of its flowset, and the cache then has the last
definition of each template id. -/
theorem decode_exportPacket (im : IANAInfoModel) (raddr : IP) (mem : MemCache TemplateRecord)
    (defs : List WireTemplate) (h : WireHeader) (sets : List WireSet) (hok : PacketOk im defs sets)
    (hlen : (packetBytes h sets).length ≤ 65535) :
    ∃ out msg, Decodes im raddr (stored raddr mem defs) (packetBytes h sets) out ∧ out.err = none ∧
      out.msg = some msg ∧ msg.decoded = (decodedSets im defs sets).map Prod.snd ∧
      msg.setHeaders = (decodedSets im defs sets).map Prod.fst ∧ msg.setHeaders.length = msg.dataSets.length ∧
      out.mem = stored raddr mem (definitions defs sets) ∧
      ∀ id, out.mem.retrieve id raddr =
        ((definition (definitions defs sets) id).map WireTemplate.record).or (mem.retrieve id raddr) := by
  have hstart : (Collected.start raddr (stored raddr mem defs) h).mem = stored raddr mem defs := rfl
  obtain ⟨hall, hmem, hcol⟩ := hok.collectAll hstart
  have hrecords := hcol.records
  have hheaders := hcol.headers
  refine ⟨_, _, decodes_packetBytes hall hlen, rfl, rfl, hrecords, hheaders, ?_, hmem, fun id => ?_⟩
  · have hlength := congrArg List.length hrecords
    rw [Message.decoded, List.length_map] at hlength
    rw [hheaders, hlength]
    simp [Collected.start, Message.decoded]
  · dsimp only
    rw [hmem, retrieve_stored]

/-- A template flowset, a reserved flowset and a data flowset, each with padding. -/
def exportSets : List WireSet :=
  [.template [{ templateID := 256, fields := [{ elementID := 8, length := 4 }, { elementID := 7, length := 2 }] }] [0],
   .reserved 7 [1, 2, 3], .data 256 [[[10, 0, 0, 1], [0, 80]], [[10, 0, 0, 2], [0, 22]]] [0, 0, 0]]

theorem decode_exportPacket_padded :
    PacketOk infoModel [] exportSets ∧
    ∃ out msg, Decodes infoModel [192, 0, 2, 1] .empty (packetBytes ⟨3, 0, 0, 0, 0⟩ exportSets) out ∧
      out.err = none ∧ out.msg = some msg ∧ msg.decoded = (decodedSets infoModel [] exportSets).map Prod.snd ∧
      msg.setHeaders = (decodedSets infoModel [] exportSets).map Prod.fst := by
  have hok : PacketOk infoModel [] exportSets := by
    refine ⟨fun t ht => ?_, by decide, ⟨by decide, by decide⟩,
      ⟨by decide, _, rfl, by decide, by decide, fun r hr => ?_⟩, by decide, trivial⟩
    · rw [List.mem_singleton.mp ht]
      exact ⟨by decide, by decide⟩
    · simp only [List.mem_cons, List.not_mem_nil, or_false] at hr
      rcases hr with rfl | rfl
      · exact .cons rfl (.cons rfl .nil)
      · exact .cons rfl (.cons rfl .nil)
  obtain ⟨out, msg, hdec, herr, hmsg, hrecords, hheaders, -⟩ :=
    decode_exportPacket infoModel [192, 0, 2, 1] .empty [] ⟨3, 0, 0, 0, 0⟩ exportSets hok (by decide)
  exact ⟨hok, out, msg, hdec, herr, hmsg, hrecords, hheaders⟩

end VFlow.Netflow9
