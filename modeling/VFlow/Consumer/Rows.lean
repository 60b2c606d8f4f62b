import VFlow.Consumer.Accepts
import VFlow.Ipfix.RoundTrip

/-!
# From an exporter to the rows of a table

An exporter defines templates and sends records in them. The collector decodes the messages and publishes each as
JSON; the consumer reads the JSON and inserts a row for every record. `row` says what the row of a record is in terms
of what the exporter sent: the addresses, the AS numbers and the protocol, of each the last field that has it.

`ingested_of_messages` puts the three programs together: every message of the exporter arrives as the rows of its
records. The templates have to declare these elements with the length of their type or more, since a shorter number is
published as a string, and none of the booleans, floats and strings, which can spoil the text of the message.
-/

namespace VFlow.ClickHouse

open VFlow.Ipfix (Decodes WireField WireTemplate WireSet WireHeader RoundTripOk MessagesOk definition definitions
  decodedSets messageBytes stored)
open Json (text)

/-! ## Rows -/

abbrev Sent := WireField × List UInt8

/-- The bytes of the last field with one of the ids. -/
def column (ids : List UInt16) (fs : List Sent) : Option (List UInt8) :=
  ((fs.filter fun q => q.1.elementID ∈ ids).getLast?).map Prod.snd

def address (w : List UInt8) : List UInt8 := text (IP.string w)

def row (fs : List Sent) : Sample where
  src := ((column [8, 27] fs).map address).getD []
  dst := ((column [12, 28] fs).map address).getD []
  srcASN := ((column [16] fs).map fun w => (((BigEndian.uint32 w).toNat : Int), 0)).getD (0, 0)
  dstASN := ((column [17] fs).map fun w => (((BigEndian.uint32 w).toNat : Int), 0)).getD (0, 0)
  proto := ((column [4] fs).map fun w => (((w.getD 0 0).toNat : Int), 0)).getD (0, 0)

def put (s : Sample) (q : Sent) : Sample :=
  if q.1.elementID = 8 ∨ q.1.elementID = 27 then { s with src := address q.2 }
  else if q.1.elementID = 12 ∨ q.1.elementID = 28 then { s with dst := address q.2 }
  else if q.1.elementID = 16 then { s with srcASN := (((BigEndian.uint32 q.2).toNat : Int), 0) }
  else if q.1.elementID = 17 then { s with dstASN := (((BigEndian.uint32 q.2).toNat : Int), 0) }
  else if q.1.elementID = 4 then { s with proto := (((q.2.getD 0 0).toNat : Int), 0) }
  else s

theorem column_snoc (ids : List UInt16) (fs : List Sent) (q : Sent) :
    column ids (fs ++ [q]) = if q.1.elementID ∈ ids then some q.2 else column ids fs := by
  unfold column
  rw [List.filter_append]
  split_ifs with h
  · rw [List.filter_cons_of_pos (by simpa using h), List.filter_nil, List.getLast?_concat, Option.map_some]
  · rw [List.filter_cons_of_neg (by simpa using h), List.filter_nil, List.append_nil]

theorem row_snoc (fs : List Sent) (q : Sent) : row (fs ++ [q]) = put (row fs) q := by
  unfold put
  split_ifs with h1 h2 h3 h4 h5
  · rcases h1 with h | h <;> simp [row, column_snoc, h]
  · rcases h2 with h | h <;> simp [row, column_snoc, h]
  · simp [row, column_snoc, h3]
  · simp [row, column_snoc, h4]
  · simp [row, column_snoc, h5]
  · rw [not_or] at h1 h2
    simp [row, column_snoc, h1, h2, h3, h4, h5]

theorem foldl_put (fs : List Sent) : fs.foldl put {} = row fs := by
  induction fs using List.reverseRecOn with
  | nil => rfl
  | append_singleton fs q ih => rw [List.foldl_append, ih, row_snoc, List.foldl_cons, List.foldl_nil]

/-! ## Fields -/

def columnIDs : List UInt16 := [8, 27, 12, 28, 16, 17, 4]

def fieldType (f : WireField) : FieldType := (f.spec.entry infoModel).type

/-- The element is in the information model and its values have a text without escapes; if the consumer looks at it, it
is declared with the length of its type or more. -/
structure Readable (f : WireField) : Prop where
  known : f.spec.Known infoModel
  plain : fieldType f ∉ [.boolean, .string, .float32, .float64]
  whole : f.elementID ∈ columnIDs → (fieldType f).minLen ≤ f.length.toNat

instance (f : WireField) : Decidable (Readable f) :=
  decidable_of_iff (f.spec.Known infoModel ∧ fieldType f ∉ [.boolean, .string, .float32, .float64] ∧
      (f.elementID ∈ columnIDs → (fieldType f).minLen ≤ f.length.toNat))
    ⟨fun h => ⟨h.1, h.2.1, h.2.2⟩, fun h => ⟨h.known, h.plain, h.whole⟩⟩

def decodedField (q : Sent) : UInt16 × Value := (q.1.elementID, interpret q.2 (fieldType q.1))

def readField (shortest : Shortest) (p : UInt16 × Value) : DataField where
  i := p.1.toNat
  v := Json.unmarshalInterface (p.2.json shortest)

theorem lookup_fieldType {f : WireField} (h : f.spec.Known infoModel) :
    infoElements.lookup f.elementID = some (fieldType f) := by
  obtain ⟨m, hm⟩ := Option.isSome_iff_exists.mp h
  have htype : fieldType f = m.type := by
    rw [fieldType, Ipfix.TemplateFieldSpecifier.entry, hm]
    rfl
  rw [htype]
  exact (infoModel_type hm).2

theorem fieldType_of_id {f : WireField} (h : f.spec.Known infoModel) {id : UInt16} {t : FieldType}
    (hid : f.elementID = id) (ht : infoElements.lookup id = some t) : fieldType f = t := by
  have hlookup := lookup_fieldType h
  rw [hid, ht] at hlookup
  exact (Option.some.inj hlookup).symm

section fields

variable {shortest : Shortest} {q : Sent}

theorem assertString_sent (hq : Readable q.1) (hlen : q.2.length = q.1.length.toNat) (hid : q.1.elementID ∈ columnIDs)
    (ht : fieldType q.1 = .ipv4Address ∨ fieldType q.1 = .ipv6Address) :
    assertString (readField shortest (decodedField q)).v = some (address q.2) := by
  have hwhole := hq.whole hid
  have hvalue : interpret q.2 (fieldType q.1) = .ip q.2 := by
    unfold interpret
    rw [if_neg (by omega)]
    rcases ht with ht | ht <;> rw [ht]
  simp only [readField, decodedField, hvalue]
  rfl

theorem assertFloat64_uint32 (hq : Readable q.1) (hlen : q.2.length = q.1.length.toNat)
    (hid : q.1.elementID ∈ columnIDs) (ht : fieldType q.1 = .uint32) :
    assertFloat64 (readField shortest (decodedField q)).v = some (((BigEndian.uint32 q.2).toNat : Int), 0) := by
  have hwhole := hq.whole hid
  have hvalue : interpret q.2 (fieldType q.1) = .uint32 (BigEndian.uint32 q.2) := by
    unfold interpret
    rw [if_neg (by omega), ht]
  simp only [readField, decodedField, hvalue]
  rfl

theorem assertFloat64_uint8 (hq : Readable q.1) (hlen : q.2.length = q.1.length.toNat)
    (hid : q.1.elementID ∈ columnIDs) (ht : fieldType q.1 = .uint8) :
    assertFloat64 (readField shortest (decodedField q)).v = some (((q.2.getD 0 0).toNat : Int), 0) := by
  have hwhole := hq.whole hid
  have hvalue : interpret q.2 (fieldType q.1) = .uint8 (q.2.getD 0 0) := by
    unfold interpret
    rw [if_neg (by omega), ht]
  simp only [readField, decodedField, hvalue]
  rfl

theorem sampleField_sent (hq : Readable q.1) (hlen : q.2.length = q.1.length.toNat) (s : Sample) :
    sampleField s (readField shortest (decodedField q)) = some (put s q) := by
  have hids (i : Int) (hi : i = (readField shortest (decodedField q)).i) :
      ((i = 8 ∨ i = 27) = (q.1.elementID = 8 ∨ q.1.elementID = 27)) ∧
      ((i = 12 ∨ i = 28) = (q.1.elementID = 12 ∨ q.1.elementID = 28)) ∧
      ((i = 16) = (q.1.elementID = 16)) ∧ ((i = 17) = (q.1.elementID = 17)) ∧ ((i = 4) = (q.1.elementID = 4)) := by
    subst hi
    have hid (n : Nat) (hn : n < 65536) := propext (id_eq_iff q.1.elementID hn)
    exact ⟨congrArg₂ Or (hid 8 (by decide)) (hid 27 (by decide)),
      congrArg₂ Or (hid 12 (by decide)) (hid 28 (by decide)),
      hid 16 (by decide), hid 17 (by decide), hid 4 (by decide)⟩
  obtain ⟨hsrc, hdst, hsrcASN, hdstASN, hproto⟩ := hids _ rfl
  unfold sampleField put
  simp only [hsrc, hdst, hsrcASN, hdstASN, hproto]
  have hmem {id : UInt16} (hid : id ∈ columnIDs) (h : q.1.elementID = id) : q.1.elementID ∈ columnIDs := h ▸ hid
  split_ifs with h1 h2 h3 h4 h5
  · rw [assertString_sent hq hlen (h1.elim (hmem (by decide)) (hmem (by decide)))
      (h1.imp (fieldType_of_id hq.known · rfl) (fieldType_of_id hq.known · rfl))]
    rfl
  · rw [assertString_sent hq hlen (h2.elim (hmem (by decide)) (hmem (by decide)))
      (h2.imp (fieldType_of_id hq.known · rfl) (fieldType_of_id hq.known · rfl))]
    rfl
  · rw [assertFloat64_uint32 hq hlen (hmem (by decide) h3) (fieldType_of_id hq.known h3 rfl)]
    rfl
  · rw [assertFloat64_uint32 hq hlen (hmem (by decide) h4) (fieldType_of_id hq.known h4 rfl)]
    rfl
  · rw [assertFloat64_uint8 hq hlen (hmem (by decide) h5) (fieldType_of_id hq.known h5 rfl)]
    rfl
  · rfl

theorem value_decodedField (hq : Readable q.1) : (decodedField q).2.printable = true ∧ (decodedField q).2.Plain := by
  have hplain := hq.plain
  unfold decodedField interpret
  split_ifs
  · exact ⟨rfl, trivial⟩
  · cases ht : fieldType q.1 <;> first | exact ⟨rfl, trivial⟩ | exact absurd (ht ▸ hplain) (by decide)

end fields

/-! ## Records -/

theorem foldlM_sampleField (shortest : Shortest) {fs : List Sent}
    (h : ∀ q ∈ fs, Readable q.1 ∧ q.2.length = q.1.length.toNat) :
    ((fs.map decodedField).map (readField shortest)).foldlM sampleField {} = some (row fs) := by
  rw [← foldl_put]
  generalize ({} : Sample) = s
  induction fs generalizing s with
  | nil => rfl
  | cons q fs ih =>
    obtain ⟨⟨hq, hlen⟩, htail⟩ := List.forall_mem_cons.mp h
    rw [List.map_cons, List.map_cons, List.foldlM_cons, sampleField_sent hq hlen]
    exact ih htail (put s q)

def ReadableTemplate (t : WireTemplate) : Prop := ∀ f ∈ t.fields, Readable f

instance (t : WireTemplate) : Decidable (ReadableTemplate t) :=
  inferInstanceAs (Decidable (∀ f ∈ t.fields, Readable f))

def ReadableSet : WireSet → Prop
  | .template records => ∀ t ∈ records, ReadableTemplate t
  | .data _ _ _ | .options _ | .reserved _ _ => True

def rows (defs : List WireTemplate) : List WireSet → List Sample
  | [] => []
  | .template records :: sets => rows (records.reverse ++ defs) sets
  | .data id records _ :: sets =>
    (match definition defs id with
      | some t => records.map fun r => row (t.fields.zip r)
      | none => []) ++ rows defs sets
  | .options _ :: sets | .reserved _ _ :: sets => rows defs sets

def readRow (shortest : Shortest) (record : List (UInt16 × Value)) : Option Sample :=
  (record.map (readField shortest)).foldlM sampleField {}

section sets

variable {defs : List WireTemplate} {sets : List WireSet}

theorem forall_reverse_append {records : List WireTemplate} (h : ∀ t ∈ records, ReadableTemplate t)
    (hdefs : ∀ t ∈ defs, ReadableTemplate t) : ∀ t ∈ records.reverse ++ defs, ReadableTemplate t := by
  intro t ht
  rcases List.mem_append.mp ht with ht | ht
  · exact h t (List.mem_reverse.mp ht)
  · exact hdefs t ht

theorem forall_definitions (hsets : ∀ set ∈ sets, ReadableSet set) (hdefs : ∀ t ∈ defs, ReadableTemplate t) :
    ∀ t ∈ definitions defs sets, ReadableTemplate t := by
  induction sets generalizing defs with
  | nil => exact hdefs
  | cons set sets ih =>
    obtain ⟨hset, htail⟩ := List.forall_mem_cons.mp hsets
    cases set with
    | template records => exact ih htail (forall_reverse_append hset hdefs)
    | data id records pad => exact ih htail hdefs
    | options records => exact ih htail hdefs
    | reserved id body => exact ih htail hdefs

theorem forall_zip {t : WireTemplate} {r : List (List UInt8)} (ht : ReadableTemplate t) (hr : t.Matches r) :
    ∀ q ∈ t.fields.zip r, Readable q.1 ∧ q.2.length = q.1.length.toNat := by
  intro q hq
  exact ⟨ht _ (List.of_mem_zip hq).1, (List.forall₂_iff_zip.mp hr).2 hq⟩

theorem rows_decodedSets (shortest : Shortest) (h : RoundTripOk infoModel defs sets)
    (hsets : ∀ set ∈ sets, ReadableSet set) (hdefs : ∀ t ∈ defs, ReadableTemplate t) :
    (decodedSets infoModel defs sets).map (readRow shortest) = (rows defs sets).map some ∧
      ∀ record ∈ decodedSets infoModel defs sets, ∀ p ∈ record, p.2.printable = true ∧ p.2.Plain := by
  induction sets generalizing defs with
  | nil => exact ⟨rfl, fun _ hr => absurd hr List.not_mem_nil⟩
  | cons set sets ih =>
    obtain ⟨hset, htail⟩ := List.forall_mem_cons.mp hsets
    cases set with
    | template records => exact ih h.2 htail (forall_reverse_append hset hdefs)
    | data id records pad =>
      obtain ⟨-, ⟨t, hdef, -, -, -, hrs⟩, hrest⟩ := h
      obtain ⟨hrows, hvalues⟩ := ih hrest htail hdefs
      have ht : ReadableTemplate t := hdefs t (List.mem_of_find?_eq_some hdef)
      simp only [decodedSets, rows, hdef, List.map_append, List.map_map, List.forall_mem_append]
      refine ⟨congrArg₂ _ (List.map_congr_left fun r hr => ?_) hrows, ?_, hvalues⟩
      · exact foldlM_sampleField shortest (forall_zip ht (hrs r hr))
      · rintro record hrecord p hp
        obtain ⟨r, hr, rfl⟩ := List.mem_map.mp hrecord
        obtain ⟨q, hq, rfl⟩ := List.mem_map.mp hp
        exact value_decodedField (forall_zip ht (hrs r hr) q hq).1
    | options records => exact h.elim
    | reserved id body => exact h.elim

end sets

/-! ## Messages -/

theorem ingest_ofDataSets (shortest : Shortest) {msg : VFlow.Ipfix.Message} {samples : List Sample}
    (agentID : List UInt8) (h : msg.decoded.map (readRow shortest) = samples.map some) :
    ingestClickHouse { agentID, dataSets := ofDataSets .asThemselves shortest msg.dataSets } = some samples := by
  have hsets : (ofDataSets .asThemselves shortest msg.dataSets).live.map Json.Slice.live =
      msg.decoded.map fun record => record.map (readField shortest) := by
    rw [ofDataSets, VFlow.Ipfix.Message.decoded, List.map_map, List.map_map]
    refine List.map_congr_left fun fs _ => ?_
    rw [Function.comp_apply, Function.comp_apply, List.map_map]
    rfl
  calc ingestClickHouse { agentID, dataSets := ofDataSets .asThemselves shortest msg.dataSets }
      = ((ofDataSets .asThemselves shortest msg.dataSets).live.map Json.Slice.live).mapM
          fun data => data.foldlM sampleField {} := by
        rw [ingestClickHouse, List.mapM_map]
        rfl
    _ = msg.decoded.mapM (readRow shortest) := by
        rw [hsets, List.mapM_map]
        rfl
    _ = (msg.decoded.map (readRow shortest)).mapM id := by
        rw [List.mapM_map]
        rfl
    _ = samples.mapM fun s => pure (id s) := by
        rw [h, List.mapM_map]
        rfl
    _ = some (samples.map id) := List.mapM_pure
    _ = some samples := by rw [List.map_id]

theorem exists_sample (shortest : Shortest) {raddr : IP} {msg : VFlow.Ipfix.Message} {samples : List Sample}
    (hagent : msg.agentID = raddr.string)
    (hvalues : ∀ record ∈ msg.decoded, ∀ p ∈ record, p.2.printable = true ∧ p.2.Plain)
    (hrows : msg.decoded.map (readRow shortest) = samples.map some) :
    ∃ b j sample, msg.jsonMarshal shortest [] = .ok b ∧ Json.unmarshal b = some j ∧ unmarshalIpfix j = some sample ∧
      sample.agentID = text raddr.string ∧ ingestClickHouse sample = some samples := by
  have hfields : ∀ fs ∈ msg.dataSets, ∀ f ∈ fs, f.value.printable = true ∧ f.value.Plain := by
    intro fs hfs f hf
    exact hvalues _ (List.mem_map_of_mem hfs) _ (List.mem_map_of_mem hf)
  have hprint : msg.Printable := fun fs hfs f hf => (hfields fs hfs f hf).1
  have hplain : msg.Plain := by
    refine ⟨?_, fun fs hfs f hf => (hfields fs hfs f hf).2⟩
    change Json.PlainText (text msg.agentID)
    rw [hagent]
    exact (plainString_ip raddr).plainText
  obtain ⟨hliterals, hjson⟩ := MessageShape.as_of_plain .asLiterals shortest hplain
  obtain ⟨b, hb, hj⟩ := MessageShape.exists_text .asLiterals shortest hprint hliterals
  rw [hjson] at hj
  obtain ⟨agentID, hid, hsample⟩ := unmarshalIpfix_json .asThemselves shortest msg
  refine ⟨b, _, _, hb, hj, hsample, ?_, ingest_ofDataSets shortest agentID hrows⟩
  exact (hid _ rfl).trans (congrArg text hagent)

def Ingested (shortest : Shortest) (raddr : IP) (mem : MemCache VFlow.Ipfix.TemplateRecord) (defs : List WireTemplate) :
    List (WireHeader × List WireSet) → Prop
  | [] => True
  | (h, sets) :: msgs => ∃ out msg b j sample, Decodes infoModel raddr mem (messageBytes h sets) out ∧ out.err = none ∧
      out.msg = some msg ∧ msg.jsonMarshal shortest [] = .ok b ∧ Json.unmarshal b = some j ∧
      unmarshalIpfix j = some sample ∧ sample.agentID = text raddr.string ∧
      ingestClickHouse sample = some (rows defs sets) ∧
      Ingested shortest raddr out.mem (definitions defs sets) msgs

theorem ingested_of_stored (shortest : Shortest) {raddr : IP} {mem : MemCache VFlow.Ipfix.TemplateRecord}
    {defs : List WireTemplate} {msgs : List (WireHeader × List WireSet)} (h : MessagesOk infoModel defs msgs)
    (hmsgs : ∀ m ∈ msgs, ∀ set ∈ m.2, ReadableSet set) (hdefs : ∀ t ∈ defs, ReadableTemplate t) :
    Ingested shortest raddr (stored raddr mem defs) defs msgs := by
  induction msgs generalizing defs with
  | nil => trivial
  | cons m msgs ih =>
    obtain ⟨hd, sets⟩ := m
    obtain ⟨hsets, hlen, htail⟩ := h
    obtain ⟨hread, hreads⟩ := List.forall_mem_cons.mp hmsgs
    obtain ⟨hrows, hvalues⟩ := rows_decodedSets shortest hsets hread hdefs
    obtain ⟨herr, hmem, hdata⟩ := VFlow.Ipfix.collectAll_roundTrip (c := { mem := stored raddr mem defs }) hsets rfl
    generalize hout : VFlow.Ipfix.collectAll infoModel raddr { mem := stored raddr mem defs } sets = c
      at herr hmem hdata
    have hdecodes : Decodes infoModel raddr (stored raddr mem defs) (messageBytes hd sets)
        { msg := some ⟨raddr.string, hd.header sets, c.1.dataSets⟩, err := combineErrors c.2, mem := c.1.mem,
          rpc := c.1.rpc } :=
      hout ▸ VFlow.Ipfix.decodes_messageBytes hsets.allOk hlen
    have hdecoded : (⟨raddr.string, hd.header sets, c.1.dataSets⟩ : VFlow.Ipfix.Message).decoded =
        decodedSets infoModel defs sets := hdata
    obtain ⟨b, j, sample, hb, hj, hsample, hagent, hingest⟩ :=
      exists_sample shortest rfl (hdecoded ▸ hvalues) (hdecoded ▸ hrows)
    refine ⟨_, _, b, j, sample, hdecodes, ?_, rfl, hb, hj, hsample, hagent, hingest, ?_⟩
    · rw [combineErrors_eq_none]
      exact herr
    · dsimp only
      rw [hmem]
      exact ih htail hreads (forall_definitions hread hdefs)

/-- A template with the elements that the consumer takes and a counter, and two records of it in a second message. -/
def asnMessages : List (WireHeader × List WireSet) :=
  [(⟨0, 0, 0⟩, [.template [{ templateID := 256, fields := [{ elementID := 8, length := 4 },
      { elementID := 28, length := 16 }, { elementID := 17, length := 4 }, { elementID := 4, length := 1 },
      { elementID := 1, length := 4 }] }]]),
   (⟨0, 1, 0⟩, [.data 256
      [[[10, 0, 0, 1], [32, 1, 13, 184, 0, 0, 0, 0, 0, 0, 0, 0, 0, 0, 0, 1], [0, 0, 253, 232], [6], [0, 0, 0, 9]],
       [[10, 0, 0, 2], [32, 1, 13, 184, 0, 0, 0, 0, 0, 0, 0, 0, 0, 0, 0, 1], [0, 0, 253, 232], [17], [0, 0, 0, 3]]]
      0])]

end VFlow.ClickHouse
