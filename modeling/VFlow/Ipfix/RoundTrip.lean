import VFlow.Ipfix.Collector

/-!
# From templates to data

An exporter defines templates and then sends data records in them, in the same message or in later ones.
`Decode` stores the definitions, the last one of each id, over whatever the cache held before, and decodes
exactly the records that were sent: `decode_roundTrip`.

The definitions sent so far, the newest first, are what relates the exporter to the cache: the cache is
the one before the first message with the definitions stored in order (`retrieve_stored`).
-/

namespace VFlow.Ipfix

open Scan Reader BigEndian

variable {im : IANAInfoModel} {raddr : IP} {mem mem₀ : MemCache TemplateRecord} {defs : List WireTemplate}
  {sets : List WireSet} {t : WireTemplate} {r : Record} {c : Collected}

/-! ## What is sent -/

/-- The definition of a template id in force, among definitions from the newest to the oldest. -/
def definition (defs : List WireTemplate) (id : UInt16) : Option WireTemplate :=
  defs.find? fun t => t.templateID = id

def WireTemplate.length (t : WireTemplate) : Nat := (t.fields.map fun f => f.length.toNat).sum

/-- The record has one field for each field of the template, of its length. -/
def WireTemplate.Matches (t : WireTemplate) (r : Record) : Prop :=
  List.Forall₂ (fun f w => w.length = f.length.toNat) t.fields r

/-- Template sets of complete records, and unpadded data sets of templates defined before, whose elements
are in the information model and have 5 bytes at least together. -/
def RoundTripOk (im : IANAInfoModel) (defs : List WireTemplate) : List WireSet → Prop
  | [] => True
  | .template records :: sets =>
    (∀ t ∈ records, t.Ok ∧ t.fields ≠ []) ∧ RoundTripOk im (records.reverse ++ defs) sets
  | .data id records pad :: sets =>
    pad = 0 ∧ (∃ t, definition defs id = some t ∧ 255 < id ∧ 5 ≤ t.length ∧ (∀ f ∈ t.fields, f.spec.Known im) ∧
      ∀ r ∈ records, t.Matches r) ∧ RoundTripOk im defs sets
  | .options _ :: _ | .reserved _ _ :: _ => False

def definitions (defs : List WireTemplate) : List WireSet → List WireTemplate
  | [] => defs
  | .template records :: sets => definitions (records.reverse ++ defs) sets
  | .data _ _ _ :: sets | .options _ :: sets | .reserved _ _ :: sets => definitions defs sets

def WireTemplate.decoded (im : IANAInfoModel) (t : WireTemplate) (r : Record) : List (UInt16 × Value) :=
  (t.fields.zip r).map fun q => (q.1.elementID, interpret q.2 (q.1.spec.entry im).type)

def decodedSets (im : IANAInfoModel) (defs : List WireTemplate) : List WireSet → List (List (UInt16 × Value))
  | [] => []
  | .template records :: sets => decodedSets im (records.reverse ++ defs) sets
  | .data id records _ :: sets =>
    (match definition defs id with
      | some t => records.map (t.decoded im)
      | none => []) ++ decodedSets im defs sets
  | .options _ :: sets | .reserved _ _ :: sets => decodedSets im defs sets

def Message.decoded (msg : Message) : List (List (UInt16 × Value)) :=
  msg.dataSets.map fun record => record.map fun f => (f.id, f.value)

/-! ## The cache and the definitions -/

def stored (raddr : IP) (mem : MemCache TemplateRecord) (defs : List WireTemplate) : MemCache TemplateRecord :=
  storeAll raddr mem (defs.reverse.map WireTemplate.record)

theorem storeAll_stored (records : List WireTemplate) :
    storeAll raddr (stored raddr mem defs) (records.map WireTemplate.record) =
      stored raddr mem (records.reverse ++ defs) := by
  rw [stored, stored, storeAll, storeAll, storeAll, List.reverse_append, List.reverse_reverse, List.map_append,
    MemCache.insertAll_append]

theorem retrieve_stored (id : UInt16) :
    (stored raddr mem defs).retrieve id raddr =
      ((definition defs id).map WireTemplate.record).or (mem.retrieve id raddr) := by
  rw [stored, storeAll, MemCache.retrieve_insertAll, List.map_reverse, List.reverse_reverse, List.find?_map]
  rfl

/-! ## Records -/

theorem specifiers_record : t.record.specifiers = t.fields.map fun f => (false, f.spec) := by
  simp only [TemplateRecord.specifiers, WireTemplate.record, List.map_map, List.map_nil, List.append_nil]
  rfl

theorem recordLength_record : t.record.recordLength = t.length := by
  rw [TemplateRecord.recordLength, specifiers_record, List.map_map]
  rfl

theorem known_record (h : ∀ f ∈ t.fields, f.spec.Known im) : t.record.Known im := by
  intro p hp
  rw [specifiers_record] at hp
  obtain ⟨f, hf, rfl⟩ := List.mem_map.mp hp
  exact h f hf

theorem WireTemplate.Matches.record (h : t.Matches r) : t.record.Matches r := by
  rw [TemplateRecord.Matches, specifiers_record, List.forall₂_map_left_iff]
  exact h

theorem recordValue_record :
    (recordValue im t.record r).map (fun f => (f.id, f.value)) = t.decoded im r := by
  rw [recordValue, specifiers_record, List.zip_map_left, List.map_map, List.map_map, WireTemplate.decoded]
  refine List.map_congr_left fun q _ => ?_
  simp only [Function.comp_apply, fieldValue, entry_fieldID]
  rfl

/-! ## Messages -/

theorem store_template {n : Nat} {records : List WireTemplate} (h : ∀ t ∈ records, t.Ok ∧ t.fields ≠ []) :
    (WireSet.template records).store raddr n (stored raddr mem defs) =
      stored raddr mem (records.reverse ++ defs) := by
  rw [WireSet.store, readable_of_lt, WireSet.words, List.map_map]
  · exact storeAll_stored records
  · simp only [WireSet.words, List.mem_map]
    rintro q ⟨t, ht, rfl⟩
    exact four_lt_encode_template (h t ht).2

theorem retrieve_of_definition {id : UInt16} (h : definition defs id = some t) :
    (stored raddr mem defs).retrieve id raddr = some t.record := by
  rw [retrieve_stored, h]
  rfl

theorem RoundTripOk.allOk (h : RoundTripOk im defs sets) : AllOk im raddr (stored raddr mem defs) sets := by
  induction sets generalizing defs with
  | nil => trivial
  | cons set sets ih =>
    cases set with
    | template records =>
      refine ⟨fun t ht => (h.1 t ht).1, ?_⟩
      rw [store_template h.1]
      exact ih h.2
    | data id records pad =>
      obtain ⟨rfl, ⟨t, hdef, hid, hfive, hk, hrs⟩, htail⟩ := h
      have hret : (stored raddr mem defs).retrieve id raddr = some t.record := retrieve_of_definition hdef
      refine ⟨⟨hid, fun tr htr => ?_, Or.inl ⟨t.record, hret, known_record hk⟩⟩, ih htail⟩
      obtain rfl := Option.some.inj (hret.symm.trans htr)
      exact ⟨recordLength_record.symm ▸ hfive, fun r hr => (hrs r hr).record, Or.inl rfl⟩
    | options records => exact h.elim
    | reserved id body => exact h.elim

theorem collectAll_roundTrip (h : RoundTripOk im defs sets) (hc : c.mem = stored raddr mem defs) :
    (collectAll im raddr c sets).2 = [] ∧
      (collectAll im raddr c sets).1.mem = stored raddr mem (definitions defs sets) ∧
      (collectAll im raddr c sets).1.dataSets.map (fun record => record.map fun f => (f.id, f.value)) =
        c.dataSets.map (fun record => record.map fun f => (f.id, f.value)) ++ decodedSets im defs sets := by
  induction sets generalizing c defs with
  | nil => exact ⟨rfl, hc, (List.append_nil _).symm⟩
  | cons set sets ih =>
    cases set with
    | template records =>
      obtain ⟨herr, hmem, hdata⟩ := ih
        (c := { c with mem := (WireSet.template records).store raddr (setsBytes sets).length c.mem }) h.2
        (by rw [hc]; exact store_template h.1)
      exact ⟨herr, hmem, hdata⟩
    | data id records pad =>
      obtain ⟨rfl, ⟨t, hdef, hid, hfive, hk, hrs⟩, htail⟩ := h
      have hret : c.mem.retrieve id raddr = some t.record := by rw [hc, retrieve_of_definition hdef]
      have hcollect : (WireSet.data id records 0).collect im raddr (setsBytes sets).length c =
          ({ c with dataSets := c.dataSets ++ records.map (recordValue im t.record) }, none) := by
        simp only [WireSet.collect, hret, TemplateRecord.firstUnknown_eq_none.mpr (known_record hk)]
      obtain ⟨herr, hmem, hdata⟩ := ih
        (c := { c with dataSets := c.dataSets ++ records.map (recordValue im t.record) }) htail hc
      simp only [collectAll, hcollect, definitions, decodedSets, hdef]
      refine ⟨herr, hmem, ?_⟩
      rw [hdata, List.map_append, List.map_map, List.append_assoc]
      congr 2
      exact List.map_congr_left fun r _ => recordValue_record
    | options records => exact h.elim
    | reserved id body => exact h.elim

def MessagesOk (im : IANAInfoModel) (defs : List WireTemplate) : List (WireHeader × List WireSet) → Prop
  | [] => True
  | (h, sets) :: msgs => RoundTripOk im defs sets ∧ (messageBytes h sets).length ≤ 65535 ∧
      MessagesOk im (definitions defs sets) msgs

/-- The messages are decoded one after the other, with the cache `mem₀` before the first and `mem` before
the next one: each without an error and with the records that were sent, and the cache has the definitions
sent so far stored over `mem₀`, the last one of each id. -/
def RoundTrips (im : IANAInfoModel) (raddr : IP) (mem₀ mem : MemCache TemplateRecord) (defs : List WireTemplate) :
    List (WireHeader × List WireSet) → Prop
  | [] => True
  | (h, sets) :: msgs => ∃ out msg, Decodes im raddr mem (messageBytes h sets) out ∧ out.err = none ∧
      out.msg = some msg ∧ msg.decoded = decodedSets im defs sets ∧
      out.mem = stored raddr mem₀ (definitions defs sets) ∧
      (∀ id, out.mem.retrieve id raddr =
        ((definition (definitions defs sets) id).map WireTemplate.record).or (mem₀.retrieve id raddr)) ∧
      RoundTrips im raddr mem₀ out.mem (definitions defs sets) msgs

theorem roundTrips_of_stored {msgs : List (WireHeader × List WireSet)} (h : MessagesOk im defs msgs) :
    RoundTrips im raddr mem₀ (stored raddr mem₀ defs) defs msgs := by
  induction msgs generalizing defs with
  | nil => trivial
  | cons msg msgs ih =>
    obtain ⟨hd, sets⟩ := msg
    obtain ⟨hsets, hlen, htail⟩ := h
    obtain ⟨herr, hmem, hdata⟩ := collectAll_roundTrip (c := { mem := stored raddr mem₀ defs }) hsets rfl
    refine ⟨_, _, decodes_messageBytes hsets.allOk hlen, ?_, rfl, hdata, hmem, fun id => ?_, ?_⟩
    · rw [combineErrors_eq_none]
      exact herr
    · dsimp only
      rw [hmem, retrieve_stored]
    · dsimp only
      rw [hmem]
      exact ih htail

/-- **Round trip.** For every exporter, every cache and every sequence of messages of template sets and
data sets of the templates defined before, `Decode` stores exactly these templates, returns exactly these
records, and no error. -/
theorem decode_roundTrip (im : IANAInfoModel) (raddr : IP) (mem : MemCache TemplateRecord)
    (msgs : List (WireHeader × List WireSet)) (h : MessagesOk im [] msgs) :
    RoundTrips im raddr mem mem [] msgs :=
  roundTrips_of_stored h

def twoMessages : List (WireHeader × List WireSet) :=
  [(⟨0, 0, 0⟩, [.template [{ templateID := 256, fields := [{ elementID := 8, length := 4 },
      { elementID := 7, length := 2 }] }]]),
   (⟨0, 1, 0⟩, [.data 256 [[[10, 0, 0, 1], [0, 80]]] 0])]

theorem decode_roundTrip_twoMessages :
    MessagesOk infoModel [] twoMessages ∧ RoundTrips infoModel [192, 0, 2, 1] .empty .empty [] twoMessages := by
  have h : MessagesOk infoModel [] twoMessages := by
    refine ⟨⟨fun t ht => ?_, trivial⟩, by decide, ⟨rfl, ⟨_, rfl, by decide, by decide, by decide, fun r hr => ?_⟩,
      trivial⟩, by decide, trivial⟩
    · rw [List.mem_singleton.mp ht]
      exact ⟨⟨by decide, by decide, by decide⟩, by decide⟩
    · rw [List.mem_singleton.mp hr]
      exact .cons rfl (.cons rfl .nil)
  exact ⟨h, decode_roundTrip infoModel [192, 0, 2, 1] .empty twoMessages h⟩

end VFlow.Ipfix
