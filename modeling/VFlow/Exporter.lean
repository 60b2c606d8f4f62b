import VFlow.Ipfix.RoundTrip
import VFlow.Netflow9.RoundTrip

/-!
# One exporter, two protocols

What an exporter has to say is a sequence of items: it defines a template, or it sends a record in a template that it
defined before. `values` says what the records are. The exporter can say it in IPFIX or in NetFlow v9, with any number
of templates or records in a set and of sets in a packet, in NetFlow v9 also with padding and with reserved flowsets.

`exporters_agree`: whichever it does, the decoder of the protocol returns the same records in the same order, and no
error, from any cache.
-/

namespace VFlow.Exporter

/-! ## Items -/

/-- The elements, each with its length. -/
structure Template where
  id : UInt16
  fields : List (UInt16 × UInt16)

inductive Item where
  | template (t : Template)
  | record (id : UInt16) (r : Record)

/-- The definition of an id in force, among definitions from the newest to the oldest. -/
def definition (defs : List Template) (id : UInt16) : Option Template := defs.find? fun t => t.id = id

def elementType (im : IANAInfoModel) (id : UInt16) : FieldType :=
  ((im.lookup { enterpriseNo := 0, elementID := id }).getD { fieldID := id, type := .unknown }).type

def Template.decoded (im : IANAInfoModel) (t : Template) (r : Record) : List (UInt16 × Value) :=
  (t.fields.zip r).map fun q => (q.1.1, interpret q.2 (elementType im q.1.1))

def values (im : IANAInfoModel) (defs : List Template) : List Item → List (List (UInt16 × Value))
  | [] => []
  | .template t :: items => values im (t :: defs) items
  | .record id r :: items => ((definition defs id).map fun t => t.decoded im r).toList ++ values im defs items

def defined (defs : List Template) : List Item → List Template
  | [] => defs
  | .template t :: items => defined (t :: defs) items
  | .record _ _ :: items => defined defs items

/-- A template that both protocols have. -/
structure Template.Ok (t : Template) : Prop where
  id : 255 < t.id
  count : t.fields.length < 2 ^ 16
  nonempty : t.fields ≠ []
  elements : ∀ f ∈ t.fields, 1 ≤ f.1.toNat ∧ f.1.toNat ≤ 32767

/-- A record of the template, of 5 bytes at least, with elements of the information model. -/
structure Template.Describes (im : IANAInfoModel) (t : Template) (r : Record) : Prop where
  long : 5 ≤ (t.fields.map fun f => f.2.toNat).sum
  known : ∀ f ∈ t.fields, (im.lookup { enterpriseNo := 0, elementID := f.1 }).isSome
  lengths : List.Forall₂ (fun f w => w.length = f.2.toNat) t.fields r

/-- Templates of both protocols, and records in templates that were defined before. -/
def Ok (im : IANAInfoModel) (defs : List Template) : List Item → Prop
  | [] => True
  | .template t :: items => t.Ok ∧ Ok im (t :: defs) items
  | .record id r :: items =>
    (255 < id ∧ ∃ t, definition defs id = some t ∧ t.Describes im r) ∧ Ok im defs items

section items

variable {im : IANAInfoModel} {defs : List Template}

theorem values_append (items items' : List Item) :
    values im defs (items ++ items') = values im defs items ++ values im (defined defs items) items' := by
  induction items generalizing defs with
  | nil => rfl
  | cons item items ih =>
    cases item with
    | template t => exact ih
    | record id r =>
      rw [List.cons_append, values, values, ih, List.append_assoc]
      rfl

theorem defined_append (items items' : List Item) :
    defined defs (items ++ items') = defined (defined defs items) items' := by
  induction items generalizing defs with
  | nil => rfl
  | cons item items ih => cases item <;> exact ih

theorem ok_append {items items' : List Item} :
    Ok im defs (items ++ items') ↔ Ok im defs items ∧ Ok im (defined defs items) items' := by
  induction items generalizing defs with
  | nil => exact (and_iff_right trivial).symm
  | cons item items ih => cases item <;> exact (and_congr_right fun _ => ih).trans and_assoc.symm

theorem of_templates (im : IANAInfoModel) (defs ts : List Template) :
    values im defs (ts.map .template) = [] ∧ defined defs (ts.map .template) = ts.reverse ++ defs ∧
      (Ok im defs (ts.map .template) ↔ ∀ t ∈ ts, t.Ok) := by
  induction ts generalizing defs with
  | nil => exact ⟨rfl, rfl, by simp [Ok]⟩
  | cons t ts ih =>
    obtain ⟨hvalues, hdefined, hok⟩ := ih (t :: defs)
    refine ⟨hvalues, hdefined.trans (by simp), ?_⟩
    rw [List.forall_mem_cons, ← hok]
    rfl

theorem defined_records (id : UInt16) (rs : List Record) : defined defs (rs.map (.record id)) = defs := by
  induction rs with
  | nil => rfl
  | cons r rs ih => exact ih

theorem values_records {id : UInt16} {t : Template} (h : definition defs id = some t) (rs : List Record) :
    values im defs (rs.map (.record id)) = rs.map (t.decoded im) := by
  induction rs with
  | nil => rfl
  | cons r rs ih =>
    rw [List.map_cons, values, h, ih]
    rfl

theorem ok_records {id : UInt16} {r : Record} {rs : List Record} (h : Ok im defs ((r :: rs).map (.record id))) :
    255 < id ∧ ∃ t, definition defs id = some t ∧ ∀ r' ∈ r :: rs, t.Describes im r' := by
  obtain ⟨⟨hid, t, ht, hr⟩, hrs⟩ := h
  refine ⟨hid, t, ht, List.forall_mem_cons.mpr ⟨hr, ?_⟩⟩
  induction rs with
  | nil => exact fun _ hr' => absurd hr' List.not_mem_nil
  | cons r₁ rs ih =>
    obtain ⟨⟨-, t₁, ht₁, hr₁⟩, hrs⟩ := hrs
    obtain rfl := Option.some.inj (ht.symm.trans ht₁)
    exact List.forall_mem_cons.mpr ⟨hr₁, ih hrs⟩

end items

/-! ## Sets -/

/-- Items that go into one set. A set of records has one at least. -/
inductive Chunk where
  | templates (ts : List Template)
  | records (id : UInt16) (r : Record) (rs : List Record)

def Chunk.items : Chunk → List Item
  | templates ts => ts.map .template
  | records id r rs => (r :: rs).map (.record id)

/-- The messages or packets are decoded one after the other, the cache of one being that of the next. -/
def DecodesAll {Mem Out : Type} (decodes : Mem → List UInt8 → Out → Prop) (mem : Out → Mem) :
    Mem → List (List UInt8) → List Out → Prop
  | _, [], outs => outs = []
  | m, b :: bs, outs => ∃ out rest, outs = out :: rest ∧ decodes m b out ∧ DecodesAll decodes mem (mem out) bs rest

theorem decodesAll_of_each {M Mem Out : Type} {im : IANAInfoModel} {decodes : Mem → List UInt8 → Out → Prop}
    {mem : Out → Mem} {err : Out → Option Error} {records : Out → List (List (UInt16 × Value))}
    (store : List Template → Mem) {bytes : M → List UInt8} {items : M → List Item}
    (heach : ∀ defs m, Ok im defs (items m) → ∃ out, decodes (store defs) (bytes m) out ∧ err out = none ∧
      mem out = store (defined defs (items m)) ∧ records out = values im defs (items m))
    {defs : List Template} {ms : List M} (h : Ok im defs (ms.flatMap items)) :
    ∃ outs, DecodesAll decodes mem (store defs) (ms.map bytes) outs ∧ (∀ out ∈ outs, err out = none) ∧
      outs.flatMap records = values im defs (ms.flatMap items) := by
  induction ms generalizing defs with
  | nil => exact ⟨[], rfl, fun _ hout => absurd hout List.not_mem_nil, rfl⟩
  | cons m ms ih =>
    rw [List.flatMap_cons, ok_append] at h
    obtain ⟨out, hdecodes, herr, hmem, hrecords⟩ := heach defs m h.1
    obtain ⟨outs, houts, herrs, hvalues⟩ := ih h.2
    refine ⟨out :: outs, ⟨out, outs, rfl, hdecodes, hmem ▸ houts⟩, List.forall_mem_cons.mpr ⟨herr, herrs⟩, ?_⟩
    rw [List.flatMap_cons, List.flatMap_cons, values_append, hrecords, hvalues]

theorem map_define {T : Type} (f : Template → T) (ts defs : List Template) :
    (ts.map f).reverse ++ defs.map f = (ts.reverse ++ defs).map f := by
  rw [List.map_append, List.map_reverse]

/-! ## IPFIX -/

def ipfixField (f : UInt16 × UInt16) : Ipfix.WireField := { elementID := f.1, length := f.2 }

def Template.ipfix (t : Template) : Ipfix.WireTemplate := ⟨t.id, t.fields.map ipfixField⟩

def Chunk.ipfix : Chunk → Ipfix.WireSet
  | templates ts => .template (ts.map Template.ipfix)
  | records id r rs => .data id (r :: rs) 0

structure IpfixMessage where
  header : Ipfix.WireHeader
  chunks : List Chunk
  fits : (Ipfix.messageBytes header (chunks.map Chunk.ipfix)).length ≤ 65535

def IpfixMessage.bytes (m : IpfixMessage) : List UInt8 := Ipfix.messageBytes m.header (m.chunks.map Chunk.ipfix)

def IpfixMessage.items (m : IpfixMessage) : List Item := m.chunks.flatMap Chunk.items

def ipfixRecords (out : Ipfix.Outcome) : List (List (UInt16 × Value)) := (out.msg.map Ipfix.Message.decoded).getD []

section ipfix

variable {im : IANAInfoModel} {defs : List Template}

theorem definition_ipfix (id : UInt16) :
    Ipfix.definition (defs.map Template.ipfix) id = (definition defs id).map Template.ipfix := by
  rw [Ipfix.definition, List.find?_map]
  rfl

theorem decoded_ipfix (t : Template) : t.ipfix.decoded im = t.decoded im := by
  funext r
  rw [Ipfix.WireTemplate.decoded, Template.decoded, Template.ipfix, List.zip_map_left, List.map_map]
  rfl

theorem Template.Ok.ipfix {t : Template} (h : t.Ok) : t.ipfix.Ok ∧ t.ipfix.fields ≠ [] := by
  refine ⟨⟨h.id, by simpa [Template.ipfix] using h.count, ?_⟩, by simpa [Template.ipfix] using h.nonempty⟩
  intro f hf
  obtain ⟨g, hg, rfl⟩ := List.mem_map.mp hf
  exact h.elements g hg

theorem Template.Describes.ipfix {t : Template} {r : Record} (h : t.Describes im r) :
    5 ≤ t.ipfix.length ∧ (∀ f ∈ t.ipfix.fields, f.spec.Known im) ∧ t.ipfix.Matches r := by
  refine ⟨?_, ?_, ?_⟩
  · rw [Ipfix.WireTemplate.length, Template.ipfix, List.map_map]
    exact h.long
  · intro f hf
    obtain ⟨g, hg, rfl⟩ := List.mem_map.mp hf
    exact h.known g hg
  · rw [Ipfix.WireTemplate.Matches, Template.ipfix, List.forall₂_map_left_iff]
    exact h.lengths

theorem sets_ipfix {chunks : List Chunk} (h : Ok im defs (chunks.flatMap Chunk.items)) :
    Ipfix.RoundTripOk im (defs.map Template.ipfix) (chunks.map Chunk.ipfix) ∧
      Ipfix.definitions (defs.map Template.ipfix) (chunks.map Chunk.ipfix) =
        (defined defs (chunks.flatMap Chunk.items)).map Template.ipfix ∧
      Ipfix.decodedSets im (defs.map Template.ipfix) (chunks.map Chunk.ipfix) =
        values im defs (chunks.flatMap Chunk.items) := by
  induction chunks generalizing defs with
  | nil => exact ⟨trivial, rfl, rfl⟩
  | cons chunk chunks ih =>
    rw [List.flatMap_cons, ok_append] at h
    obtain ⟨hchunk, hchunks⟩ := h
    rw [List.flatMap_cons, defined_append, values_append, List.map_cons]
    cases chunk with
    | templates ts =>
      obtain ⟨hvalues, hdefined, hok⟩ := of_templates im defs ts
      rw [Chunk.items, hvalues, hdefined, List.nil_append]
      rw [Chunk.items, hdefined] at hchunks
      obtain ⟨hsets, hdefinitions, hdecoded⟩ := ih hchunks
      rw [Chunk.ipfix, Ipfix.RoundTripOk, Ipfix.definitions, Ipfix.decodedSets, map_define]
      refine ⟨⟨?_, hsets⟩, hdefinitions, hdecoded⟩
      rw [List.forall_mem_map]
      exact fun t ht => (hok.mp hchunk t ht).ipfix
    | records id r rs =>
      rw [Chunk.items, defined_records] at hchunks
      obtain ⟨hsets, hdefinitions, hdecoded⟩ := ih hchunks
      obtain ⟨hid, t, ht, hdescribes⟩ := ok_records hchunk
      have hr := (hdescribes r List.mem_cons_self).ipfix
      have hdef : Ipfix.definition (defs.map Template.ipfix) id = some t.ipfix := by
        rw [definition_ipfix, ht]
        rfl
      rw [Chunk.items, defined_records, values_records ht, Chunk.ipfix, ← decoded_ipfix]
      refine ⟨⟨rfl, ⟨t.ipfix, hdef, hid, hr.1, hr.2.1, fun r' hr' => (hdescribes r' hr').ipfix.2.2⟩, hsets⟩,
        hdefinitions, ?_⟩
      rw [Ipfix.decodedSets, hdef, hdecoded]

theorem decodesAll_ipfix (raddr : IP) (mem : MemCache Ipfix.TemplateRecord) {ms : List IpfixMessage}
    (h : Ok im defs (ms.flatMap IpfixMessage.items)) :
    ∃ outs, DecodesAll (Ipfix.Decodes im raddr) Ipfix.Outcome.mem (Ipfix.stored raddr mem (defs.map Template.ipfix))
        (ms.map IpfixMessage.bytes) outs ∧ (∀ out ∈ outs, out.err = none) ∧
      outs.flatMap ipfixRecords = values im defs (ms.flatMap IpfixMessage.items) := by
  refine decodesAll_of_each (fun defs => Ipfix.stored raddr mem (defs.map Template.ipfix)) ?_ h
  intro defs m hm
  obtain ⟨hsets, hdefinitions, hdecoded⟩ := sets_ipfix hm
  have htrip : Ipfix.RoundTrips im raddr mem (Ipfix.stored raddr mem (defs.map Template.ipfix))
      (defs.map Template.ipfix) [(m.header, m.chunks.map Chunk.ipfix)] :=
    Ipfix.roundTrips_of_stored ⟨hsets, m.fits, trivial⟩
  obtain ⟨out, msg, hdecodes, herr, hmsg, hrecords, hmem, -⟩ := htrip
  rw [hdefinitions] at hmem
  refine ⟨out, hdecodes, herr, hmem, ?_⟩
  rw [ipfixRecords, hmsg, Option.map_some, Option.getD_some, hrecords, hdecoded]
  rfl

end ipfix

/-! ## NetFlow v9 -/

def netflow9Field (f : UInt16 × UInt16) : Netflow9.TemplateFieldSpecifier := { elementID := f.1, length := f.2 }

def Template.netflow9 (t : Template) : Netflow9.WireTemplate := ⟨t.id, t.fields.map netflow9Field⟩

/-- A flowset, with up to 3 bytes of padding, or one with a reserved id. -/
inductive FlowSet where
  | chunk (c : Chunk) (pad : List UInt8) (short : pad.length ≤ 3)
  | reserved (id : UInt16) (body : List UInt8) (range : 4 ≤ id ∧ id ≤ 255)

def FlowSet.items : FlowSet → List Item
  | chunk c _ _ => c.items
  | reserved _ _ _ => []

def FlowSet.netflow9 : FlowSet → Netflow9.WireSet
  | chunk (.templates ts) pad _ => .template (ts.map Template.netflow9) pad
  | chunk (.records id r rs) pad _ => .data id (r :: rs) pad
  | reserved id body _ => .reserved id body

structure Netflow9Packet where
  header : Netflow9.WireHeader
  flowSets : List FlowSet
  fits : (Netflow9.packetBytes header (flowSets.map FlowSet.netflow9)).length ≤ 65535

def Netflow9Packet.bytes (p : Netflow9Packet) : List UInt8 :=
  Netflow9.packetBytes p.header (p.flowSets.map FlowSet.netflow9)

def Netflow9Packet.items (p : Netflow9Packet) : List Item := p.flowSets.flatMap FlowSet.items

def netflow9Records (out : Netflow9.Outcome) : List (List (UInt16 × Value)) :=
  (out.msg.map Netflow9.Message.decoded).getD []

section netflow9

variable {im : IANAInfoModel} {defs : List Template}

theorem definition_netflow9 (id : UInt16) :
    Netflow9.definition (defs.map Template.netflow9) id = (definition defs id).map Template.netflow9 := by
  rw [Netflow9.definition, List.find?_map]
  rfl

theorem decoded_netflow9 (t : Template) : t.netflow9.decoded im = t.decoded im := by
  funext r
  rw [Netflow9.WireTemplate.decoded, Template.decoded, Template.netflow9, List.zip_map_left, List.map_map]
  rfl

theorem Template.Ok.netflow9 {t : Template} (h : t.Ok) : t.netflow9.Ok :=
  ⟨by simpa [Template.netflow9] using h.count, by simpa [Template.netflow9] using h.nonempty⟩

theorem Template.Describes.netflow9 {t : Template} {r : Record} (h : t.Describes im r) :
    5 ≤ t.netflow9.length ∧ (∀ f ∈ t.netflow9.fields, f.Known im) ∧ t.netflow9.Matches r := by
  refine ⟨?_, ?_, ?_⟩
  · rw [Netflow9.WireTemplate.length, Template.netflow9, List.map_map]
    exact h.long
  · intro f hf
    obtain ⟨g, hg, rfl⟩ := List.mem_map.mp hf
    exact h.known g hg
  · rw [Netflow9.WireTemplate.Matches, Template.netflow9, List.forall₂_map_left_iff]
    exact h.lengths

theorem sets_netflow9 {fs : List FlowSet} (h : Ok im defs (fs.flatMap FlowSet.items)) :
    Netflow9.PacketOk im (defs.map Template.netflow9) (fs.map FlowSet.netflow9) ∧
      Netflow9.definitions (defs.map Template.netflow9) (fs.map FlowSet.netflow9) =
        (defined defs (fs.flatMap FlowSet.items)).map Template.netflow9 ∧
      (Netflow9.decodedSets im (defs.map Template.netflow9) (fs.map FlowSet.netflow9)).map Prod.snd =
        values im defs (fs.flatMap FlowSet.items) := by
  induction fs generalizing defs with
  | nil => exact ⟨trivial, rfl, rfl⟩
  | cons flowSet fs ih =>
    rw [List.flatMap_cons, ok_append] at h
    obtain ⟨hchunk, hchunks⟩ := h
    rw [List.flatMap_cons, defined_append, values_append, List.map_cons]
    rcases flowSet with ⟨chunk, pad, hpad⟩ | ⟨id, body, hrange⟩
    · cases chunk with
      | templates ts =>
        obtain ⟨hvalues, hdefined, hok⟩ := of_templates im defs ts
        rw [FlowSet.items, Chunk.items, hvalues, hdefined, List.nil_append]
        rw [FlowSet.items, Chunk.items, hdefined] at hchunks
        obtain ⟨hsets, hdefinitions, hdecoded⟩ := ih hchunks
        rw [FlowSet.netflow9, Netflow9.PacketOk, Netflow9.definitions, Netflow9.decodedSets, map_define]
        refine ⟨⟨?_, hpad, hsets⟩, hdefinitions, hdecoded⟩
        rw [List.forall_mem_map]
        exact fun t ht => (hok.mp hchunk t ht).netflow9
      | records id r rs =>
        rw [FlowSet.items, Chunk.items, defined_records] at hchunks
        obtain ⟨hsets, hdefinitions, hdecoded⟩ := ih hchunks
        obtain ⟨hid, t, ht, hdescribes⟩ := ok_records hchunk
        have hr := (hdescribes r List.mem_cons_self).netflow9
        have hdef : Netflow9.definition (defs.map Template.netflow9) id = some t.netflow9 := by
          rw [definition_netflow9, ht]
          rfl
        rw [FlowSet.items, Chunk.items, defined_records, values_records ht, FlowSet.netflow9, ← decoded_netflow9]
        refine ⟨⟨⟨hid, t.netflow9, hdef, hr.1, hr.2.1, fun r' hr' => (hdescribes r' hr').netflow9.2.2⟩, hpad, hsets⟩,
          hdefinitions, ?_⟩
        rw [Netflow9.decodedSets, hdef, List.map_append, hdecoded, List.map_map]
        rfl
    · obtain ⟨hsets, hdefinitions, hdecoded⟩ := ih hchunks
      exact ⟨⟨hrange, hsets⟩, hdefinitions, hdecoded⟩

theorem decodesAll_netflow9 (raddr : IP) (mem : MemCache Netflow9.TemplateRecord) {ps : List Netflow9Packet}
    (h : Ok im defs (ps.flatMap Netflow9Packet.items)) :
    ∃ outs, DecodesAll (Netflow9.Decodes im raddr) Netflow9.Outcome.mem
        (Netflow9.stored raddr mem (defs.map Template.netflow9)) (ps.map Netflow9Packet.bytes) outs ∧
      (∀ out ∈ outs, out.err = none) ∧
      outs.flatMap netflow9Records = values im defs (ps.flatMap Netflow9Packet.items) := by
  refine decodesAll_of_each (fun defs => Netflow9.stored raddr mem (defs.map Template.netflow9)) ?_ h
  intro defs p hp
  obtain ⟨hsets, hdefinitions, hdecoded⟩ := sets_netflow9 hp
  obtain ⟨hall, hmem, hcollects⟩ := hsets.collectAll
    (c := .start raddr (Netflow9.stored raddr mem (defs.map Template.netflow9)) p.header) rfl
  have hdecodes := Netflow9.decodes_packetBytes hall p.fits
  rw [hdefinitions] at hmem
  exact ⟨_, hdecodes, rfl, hmem, hcollects.records.trans hdecoded⟩

end netflow9

/-- **The two decoders agree.** Whatever an exporter has to say, and however it packs it into IPFIX messages or into
NetFlow v9 packets: they are decoded without an error to the same records, which are those that it sent. -/
theorem exporters_agree (im : IANAInfoModel) (raddr raddr' : IP) (mem : MemCache Ipfix.TemplateRecord)
    (mem' : MemCache Netflow9.TemplateRecord) {ms : List IpfixMessage} {ps : List Netflow9Packet}
    (hsame : ms.flatMap IpfixMessage.items = ps.flatMap Netflow9Packet.items)
    (hok : Ok im [] (ms.flatMap IpfixMessage.items)) :
    ∃ outs outs', DecodesAll (Ipfix.Decodes im raddr) Ipfix.Outcome.mem mem (ms.map IpfixMessage.bytes) outs ∧
      DecodesAll (Netflow9.Decodes im raddr') Netflow9.Outcome.mem mem' (ps.map Netflow9Packet.bytes) outs' ∧
      (∀ out ∈ outs, out.err = none) ∧ (∀ out ∈ outs', out.err = none) ∧
      outs.flatMap ipfixRecords = values im [] (ms.flatMap IpfixMessage.items) ∧
      outs'.flatMap netflow9Records = outs.flatMap ipfixRecords := by
  obtain ⟨outs, houts, herrs, hvalues⟩ := decodesAll_ipfix raddr mem hok
  obtain ⟨outs', houts', herrs', hvalues'⟩ := decodesAll_netflow9 raddr' mem' (hsame ▸ hok)
  exact ⟨outs, outs', houts, houts', herrs, herrs', hvalues, by rw [hvalues', hvalues, hsame]⟩

def flowTemplate : Template := ⟨256, [(8, 4), (7, 2)]⟩

def flowRecords : List Record := [[[10, 0, 0, 1], [0, 80]], [[10, 0, 0, 2], [0, 22]]]

def flowMessages : List IpfixMessage :=
  [⟨⟨0, 0, 0⟩, [.templates [flowTemplate]], by decide⟩,
    ⟨⟨0, 0, 0⟩, [.records 256 [[10, 0, 0, 1], [0, 80]] [[[10, 0, 0, 2], [0, 22]]]], by decide⟩]

def flowPackets : List Netflow9Packet :=
  [⟨⟨2, 0, 0, 0, 0⟩, [.chunk (.templates [flowTemplate]) [] (by decide),
      .chunk (.records 256 [[10, 0, 0, 1], [0, 80]] []) [0, 0] (by decide)], by decide⟩,
    ⟨⟨2, 0, 0, 1, 0⟩, [.reserved 7 [1, 2, 3] (by decide),
      .chunk (.records 256 [[10, 0, 0, 2], [0, 22]] []) [0, 0] (by decide)], by decide⟩]

theorem exporters_agree_flow :
    ∃ outs outs', DecodesAll (Ipfix.Decodes infoModel [192, 0, 2, 1]) Ipfix.Outcome.mem .empty
        (flowMessages.map IpfixMessage.bytes) outs ∧
      DecodesAll (Netflow9.Decodes infoModel [192, 0, 2, 1]) Netflow9.Outcome.mem .empty
        (flowPackets.map Netflow9Packet.bytes) outs' ∧
      outs.flatMap ipfixRecords = flowRecords.map (flowTemplate.decoded infoModel) ∧
      outs'.flatMap netflow9Records = flowRecords.map (flowTemplate.decoded infoModel) := by
  have hok : Ok infoModel [] (flowMessages.flatMap IpfixMessage.items) := by
    have hlong : 5 ≤ (flowTemplate.fields.map fun f => f.2.toNat).sum := by decide
    have hknown : ∀ f ∈ flowTemplate.fields, (infoModel.lookup { enterpriseNo := 0, elementID := f.1 }).isSome := by
      intro f hf
      rcases List.mem_pair.mp hf with rfl | rfl <;> decide
    have helements : ∀ f ∈ flowTemplate.fields, 1 ≤ f.1.toNat ∧ f.1.toNat ≤ 32767 := by
      intro f hf
      rcases List.mem_pair.mp hf with rfl | rfl <;> decide
    have hlengths (r : Record) (hr : r ∈ flowRecords) :
        List.Forall₂ (fun f w => w.length = f.2.toNat) flowTemplate.fields r := by
      rcases List.mem_pair.mp hr with rfl | rfl
      · exact .cons rfl (.cons rfl .nil)
      · exact .cons rfl (.cons rfl .nil)
    refine ⟨⟨by decide, by decide, by decide, helements⟩, ⟨by decide, flowTemplate, rfl, hlong, hknown, ?_⟩,
      ⟨by decide, flowTemplate, rfl, hlong, hknown, ?_⟩, trivial⟩
    · exact hlengths _ List.mem_cons_self
    · exact hlengths _ (List.mem_cons_of_mem _ List.mem_cons_self)
  have hsame : flowMessages.flatMap IpfixMessage.items = flowPackets.flatMap Netflow9Packet.items := rfl
  obtain ⟨outs, outs', houts, houts', -, -, hvalues, hagree⟩ :=
    exporters_agree infoModel [192, 0, 2, 1] [192, 0, 2, 1] .empty .empty hsame hok
  exact ⟨outs, outs', houts, houts', hvalues, hagree.trans hvalues⟩

end VFlow.Exporter
