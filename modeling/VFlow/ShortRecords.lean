import VFlow.Ipfix.Collector
import VFlow.Netflow9.Collector

/-!
# The last records of a data set

Both record loops take a few bytes for padding. That of IPFIX stops when no more than 4 bytes are left of the
message, that of NetFlow v9 also when no more than 4 bytes are left of the flowset. Of records with 4 bytes or
less the last ones are lost in this way: in IPFIX those that the end of the message cuts off, in NetFlow v9 the
last `4 / L` of every flowset. No error is reported for them.
-/

namespace VFlow

open Scan Reader

/-- Without those of the last `m` bytes, the records of length `l` are all there exactly if there are none, or one is
longer than `m` bytes. -/
theorem length_take_div {α : Type} {records : List α} {l m : Nat} (hl : 1 ≤ l) :
    (records.take (records.length - m / l)).length = records.length ↔ records = [] ∨ m < l := by
  rw [← Nat.div_eq_zero_iff_lt hl, List.length_take, ← List.length_eq_zero_iff]
  generalize m / l = q
  omega

/-! ## Records of a template -/

section

variable {T S β : Type}

/-- What a data set takes from its template: whether all elements are known, the length of a record, and which records
are of this template. -/
structure TemplateView (T : Type) where
  Known : T → Prop
  recordLength : T → Nat
  Matches : T → Record → Prop
  length_flatten : ∀ {tr v}, Matches tr v → v.flatten.length = recordLength tr

/-- The reader stands at an unpadded data set of these records, whose template is cached for the exporter and has only
known elements; `rest` is what follows in the packet. -/
structure UnpaddedSet (V : TemplateView T) (mem : MemCache T) (c : Reader) (raddr : IP) (id : UInt16) (tr : T)
    (records : List Record) (rest : List UInt8) : Prop where
  isData : 255 < id
  cached : mem.retrieve id raddr = some tr
  known : V.Known tr
  pos : 1 ≤ V.recordLength tr
  all : ∀ v ∈ records, V.Matches tr v
  atSet : AtSet c id (records.map List.flatten).flatten rest

/-- The reader stands at the records `vs`, the last ones of the set of `n` bytes that starts at `r`. -/
structure AtRecords (V : TemplateView T) (tr : T) (n : Nat) (r : Reader) (rest : List UInt8) (c : Reader)
    (vs : List Record) : Prop where
  all : ∀ v ∈ vs, V.Matches tr v
  data : c.data = (vs.map List.flatten).flatten ++ rest
  place : ∃ k, c = r.advance k ∧ k + vs.length * V.recordLength tr = n

variable {V : TemplateView T} {tr : T} {n m : Nat} {r c : Reader} {rest : List UInt8} {v : Record} {vs : List Record}

theorem UnpaddedSet.length_body {mem : MemCache T} {raddr : IP} {id : UInt16}
    (h : UnpaddedSet V mem c raddr id tr vs rest) :
    (vs.map List.flatten).flatten.length = vs.length * V.recordLength tr :=
  length_records fun v hv => V.length_flatten (h.all v hv)

theorem UnpaddedSet.atRecords {mem : MemCache T} {raddr : IP} {id : UInt16}
    (h : UnpaddedSet V mem c raddr id tr vs rest) (hn : n = 4 + vs.length * V.recordLength tr) :
    AtRecords V tr n c rest (c.advance 4) vs :=
  ⟨h.all, h.atSet.data_advance, 4, rfl, hn.symm⟩

theorem AtRecords.len (h : AtRecords V tr n r rest c vs) : c.len = vs.length * V.recordLength tr + rest.length := by
  rw [Cursor.len, h.data, List.length_append, length_records fun v hv => V.length_flatten (h.all v hv)]

theorem AtRecords.parse {δ : Type} {p : ReadM δ} {d : δ} (h : AtRecords V tr n r rest c (v :: vs))
    (hp : Parses p v.flatten d) : p c = .ok d (c.advance (V.recordLength tr)) := by
  have hdata := h.data
  rw [List.map_cons, List.flatten_cons, List.append_assoc] at hdata
  have hread := hp ((vs.map List.flatten).flatten ++ rest) c.count
  rw [← hdata] at hread
  rw [Cursor.advance, hdata, ← V.length_flatten (h.all v List.mem_cons_self), List.drop_left]
  exact hread

theorem AtRecords.tail (h : AtRecords V tr n r rest c (v :: vs)) :
    AtRecords V tr n r rest (c.advance (V.recordLength tr)) vs := by
  obtain ⟨hall, hdata, k, hc, hk⟩ := h
  refine ⟨fun u hu => hall u (List.mem_cons_of_mem _ hu), ?_, k + V.recordLength tr, ?_, ?_⟩
  · rw [Cursor.advance, hdata, ← V.length_flatten (hall v List.mem_cons_self), List.map_cons, List.flatten_cons,
      List.append_assoc, List.drop_left]
  · rw [hc, Cursor.advance_advance]
  · rw [List.length_cons, Nat.succ_mul] at hk
    omega

variable {reader : S → Reader} {dataSets : S → List β} {append : S → Record → S} {value : Record → β}

/-- A record loop that goes round while more than `m` bytes of the records are left, and appends a record each time,
leaves out the last records. -/
theorem AtRecords.recordsEnd (pass : S × Option Error → LoopStep (S × Option Error) (S × Option Error))
    (reader : S → Reader) (append : S → Record → S) (m : Nat) {s : S}
    (h : AtRecords V tr n r rest (reader s) vs) (hpos : 1 ≤ V.recordLength tr)
    (hreader : ∀ t v, reader (append t v) = (reader t).advance (V.recordLength tr))
    (hnext : ∀ t v vs, AtRecords V tr n r rest (reader t) (v :: vs) → m < (v :: vs).length * V.recordLength tr →
      pass (t, none) = .next (append t v, none))
    (hdone : ∀ t vs, AtRecords V tr n r rest (reader t) vs → vs.length * V.recordLength tr ≤ m →
      pass (t, none) = .done (t, none)) :
    RecordsEnd pass (s, none) ((vs.take (vs.length - m / V.recordLength tr)).foldl append s, none) := by
  refine RecordsEnd.all_but_last append (fun t vs => AtRecords V tr n r rest (reader t) vs) hpos ?_ hdone h
  intro t v vs hat hm
  refine ⟨hnext t v vs hat hm, ?_⟩
  rw [hreader]
  exact hat.tail

theorem foldl_append_reader {l : Nat} (hreader : ∀ t v, reader (append t v) = (reader t).advance l)
    (vs : List Record) (t : S) : reader (vs.foldl append t) = (reader t).advance (vs.length * l) := by
  induction vs generalizing t with
  | nil => simp
  | cons v vs ih =>
    rw [List.foldl_cons, ih, hreader, List.length_cons, Nat.succ_mul, Nat.add_comm, Cursor.advance_advance]

theorem foldl_append_dataSets (dataSets : S → List β)
    (happend : ∀ t v, dataSets (append t v) = dataSets t ++ [value v]) (vs : List Record) (t : S) :
    dataSets (vs.foldl append t) = dataSets t ++ vs.map value := by
  induction vs generalizing t with
  | nil => simp
  | cons v vs ih =>
    rw [List.foldl_cons, ih, happend, List.map_cons]
    exact (List.append_cons _ _ _).symm

/-- Decoding a set appends exactly `n` records to the message. -/
def AppendsRecords (decodeSet : Nat → S → Option (S × Option Error)) (dataSets : S → List β) (s : S) (n : Nat) : Prop :=
  ∃ fuel s' err new, decodeSet fuel s = some (s', err) ∧ dataSets s' = dataSets s ++ new ∧ new.length = n

theorem SetFamily.appends_iff {decodeSet : Nat → S → Option (S × Option Error)} {s s' : S} {err : Option Error}
    {fuel : Nat} {new : List β} (hfam : SetFamily decodeSet) (hs : decodeSet fuel s = some (s', err))
    (hsets : dataSets s' = dataSets s ++ new) : AppendsRecords decodeSet dataSets s n ↔ new.length = n := by
  constructor
  · rintro ⟨fuel', t, err', new', ht, htsets, rfl⟩
    obtain ⟨rfl, -⟩ := Prod.mk.inj (hfam.unique hs ht)
    rw [hsets, List.append_cancel_left_eq] at htsets
    rw [htsets]
  · exact fun hnew => ⟨fuel, s', err, new, hs, hsets, hnew⟩

end

/-! ## IPFIX -/

namespace Ipfix

variable {im : IANAInfoModel} {raddr : IP} {tr : TemplateRecord} {s t : DecodeState} {id : UInt16} {rest : List UInt8}
  {records vs : List Record} {v : Record} {h : SetHeader} {r : Reader}

def templateView (im : IANAInfoModel) : TemplateView TemplateRecord where
  Known := TemplateRecord.Known im
  recordLength := TemplateRecord.recordLength
  Matches := TemplateRecord.Matches
  length_flatten := TemplateRecord.Matches.length_flatten

abbrev UnpaddedSet (im : IANAInfoModel) (raddr : IP) (s : DecodeState) (id : UInt16) (tr : TemplateRecord)
    (records : List Record) (rest : List UInt8) : Prop :=
  VFlow.UnpaddedSet (templateView im) s.mem s.reader raddr id tr records rest

abbrev AppendsRecords (im : IANAInfoModel) (raddr : IP) (s : DecodeState) (n : Nat) : Prop :=
  VFlow.AppendsRecords (decodeSet im raddr) (fun s => s.msg.dataSets) s n

def DecodeState.append (im : IANAInfoModel) (tr : TemplateRecord) (t : DecodeState) (v : Record) : DecodeState :=
  { t with reader := t.reader.advance tr.recordLength,
           msg := { t.msg with dataSets := t.msg.dataSets ++ [recordValue im tr v] } }

theorem guard_iff (hat : AtRecords (templateView im) tr h.length.toNat r rest t.reader vs) :
    recordGuard h r.count (t, none) = true ↔ 4 - rest.length < vs.length * tr.recordLength := by
  obtain ⟨k, hread, hk⟩ := hat.place
  have hlen := hat.len
  rw [hread, Cursor.len_advance] at hlen
  rw [recordGuard_of_le hread rfl (by omega), and_iff_right rfl]
  change _ ↔ _ < vs.length * (templateView im).recordLength tr
  omega

/-- Of a data set, all records are appended but those that begin in the last 4 bytes of the message. -/
theorem decodeSet_short (hset : UnpaddedSet im raddr s id tr records rest) :
    ∃ fuel s', decodeSet im raddr fuel s = some (s', none) ∧
      s'.msg.dataSets = s.msg.dataSets ++
        (records.take (records.length - (4 - rest.length) / tr.recordLength)).map (recordValue im tr) := by
  have hbody : (records.map List.flatten).flatten.length = records.length * tr.recordLength := hset.length_body
  have hs := hset.atSet
  have hstart : loopStart raddr s = (tr, { s with reader := s.reader.advance 4 }, none) := by
    rw [loopStart, header_of_atSet hs, setTemplate, if_pos hset.isData]
    simp only [hset.cached]
  have hd : (SetHeader.ofBytes s.reader.data).IsData := by
    rw [header_of_atSet hs]
    exact Or.inr hset.isData
  have hat : AtRecords (templateView im) tr (SetHeader.ofBytes s.reader.data).length.toNat s.reader rest
      (s.reader.advance 4) records := hset.atRecords (by rw [length_of_atSet hs, hset.length_body])
  have hend := AtRecords.recordsEnd (recordPass im raddr (SetHeader.ofBytes s.reader.data) s.reader.count tr)
    DecodeState.reader (DecodeState.append im tr) (4 - rest.length)
    (s := { s with reader := s.reader.advance 4 }) hat hset.pos (fun _ _ => rfl)
    (fun t v vs hat hm => by
      rw [recordPass_of_guard ((guard_iff hat).mpr hm), recordBody_data hd]
      dsimp only
      rw [hat.parse (parses_decodeData hset.known (hat.all v List.mem_cons_self))]
      rfl)
    (fun t vs hat hm => recordPass_of_not_guard ((guard_iff hat).not.mpr (Nat.not_lt.mpr hm)))
  obtain ⟨fuel, hfuel⟩ := decodeSet_of_atSet hs hstart hend
    ((foldl_append_reader (fun _ _ => rfl) _ _).trans (Cursor.advance_advance _ _ _)) (by
      rw [hbody]
      exact Nat.add_le_add_left (Nat.mul_le_mul_right _ (List.length_take_le' _ _)) 4)
  exact ⟨fuel, _, hfuel, foldl_append_dataSets (fun t : DecodeState => t.msg.dataSets) (fun _ _ => rfl) _ _⟩

theorem appendsRecords_iff (hset : UnpaddedSet im raddr s id tr records rest) :
    AppendsRecords im raddr s records.length ↔ records = [] ∨ 4 < tr.recordLength + rest.length := by
  obtain ⟨fuel, s', hs', hsets⟩ := decodeSet_short hset
  have hpos : 1 ≤ tr.recordLength := hset.pos
  refine (decodeSet_family.appends_iff hs' hsets).trans ?_
  rw [List.length_map, length_take_div hpos]
  exact or_congr_right (by omega)

def portTemplate : TemplateRecord :=
  { templateID := 256, fieldCount := 1, fieldSpecifiers := [⟨7, 2, 0⟩] }

def atPorts (rest : List UInt8) : DecodeState where
  reader := ⟨setBytes 256 [0, 80, 0, 22] ++ rest, 16⟩
  mem := MemCache.empty.insert 256 [192, 0, 2, 1] portTemplate
  msg := { agentID := "192.0.2.1", header := ⟨10, 24, 0, 0, 0⟩ }

theorem unpaddedSet_atPorts (rest : List UInt8) :
    UnpaddedSet infoModel [192, 0, 2, 1] (atPorts rest) 256 portTemplate [[[0, 80]], [[0, 22]]] rest where
  isData := by decide
  cached := MemCache.retrieve_insert_self _ _ _ _
  known := (by decide : portTemplate.Known infoModel)
  pos := by decide
  all v hv := by
    rcases List.mem_pair.mp hv with rfl | rfl <;> exact .cons rfl .nil
  atSet := ⟨rfl, by decide⟩

end Ipfix

/-! ## NetFlow v9 -/

namespace Netflow9

variable {im : IANAInfoModel} {raddr : IP} {tr : TemplateRecord} {s t : DecodeState} {id : UInt16} {rest : List UInt8}
  {records vs : List Record} {v : Record} {h : SetHeader} {r : Reader}

def templateView (im : IANAInfoModel) : TemplateView TemplateRecord where
  Known := TemplateRecord.Known im
  recordLength := TemplateRecord.recordLength
  Matches := TemplateRecord.Matches
  length_flatten := TemplateRecord.Matches.length_flatten

abbrev UnpaddedSet (im : IANAInfoModel) (raddr : IP) (s : DecodeState) (id : UInt16) (tr : TemplateRecord)
    (records : List Record) (rest : List UInt8) : Prop :=
  VFlow.UnpaddedSet (templateView im) s.mem s.reader raddr id tr records rest

abbrev AppendsRecords (im : IANAInfoModel) (raddr : IP) (s : DecodeState) (n : Nat) : Prop :=
  VFlow.AppendsRecords (decodeSet im raddr) (fun s => s.msg.dataSets) s n

def DecodeState.append (im : IANAInfoModel) (h : SetHeader) (tr : TemplateRecord) (t : DecodeState) (v : Record) :
    DecodeState :=
  { t with reader := t.reader.advance tr.recordLength,
           msg := { t.msg with dataSets := t.msg.dataSets ++ [recordValue im tr v],
                               setHeaders := t.msg.setHeaders ++ [h] } }

theorem guard_iff (hat : AtRecords (templateView im) tr h.length.toNat r rest t.reader vs) :
    recordGuard h r.count (t, none) = true ↔ 4 < vs.length * tr.recordLength := by
  obtain ⟨k, hread, hk⟩ := hat.place
  have hlen := hat.len
  rw [hread, Cursor.len_advance] at hlen
  rw [recordGuard_of_reader hread]
  change _ ↔ _ < vs.length * (templateView im).recordLength tr
  omega

variable (records) in
theorem atWireSet (hs : AtSet s.reader id (records.map List.flatten).flatten rest) :
    AtWireSet s.reader (.data id records []) rest := by
  refine ⟨?_, ?_⟩
  · rw [hs.data, WireSet.bytes, WireSet.body, List.append_nil]
    rfl
  · rw [length_bytes, WireSet.body, List.append_nil]
    exact hs.small

/-- Of a data flowset, all records are appended but those that begin in its last 4 bytes. -/
theorem decodeSet_short (hset : UnpaddedSet im raddr s id tr records rest) :
    ∃ fuel s', decodeSet im raddr fuel s = some (s', none) ∧
      s'.msg.dataSets = s.msg.dataSets ++
        (records.take (records.length - 4 / tr.recordLength)).map (recordValue im tr) := by
  have hbody : (records.map List.flatten).flatten.length = records.length * tr.recordLength := hset.length_body
  have hs := atWireSet records hset.atSet
  have hstart : setTemplate raddr (WireSet.data id records []).header { s with reader := s.reader.advance 4 } =
      (tr, none) := by
    rw [setTemplate, if_pos (show (WireSet.data id records []).header.flowSetID > 255 from hset.isData)]
    simp only [WireSet.header, WireSet.id, hset.cached]
  have htemplate : loopTemplate raddr s = tr := by rw [loopTemplate, header_of_atSet hs, hstart]
  have hstate : loopStart raddr s = ({ s with reader := s.reader.advance 4 }, none) := by
    rw [loopStart, header_of_atSet hs, hstart]
  have hsize : (WireSet.data id records []).bytes.length = 4 + records.length * tr.recordLength := by
    rw [length_bytes, WireSet.body, List.append_nil, hbody]
  have hat : AtRecords (templateView im) tr (WireSet.data id records []).header.length.toNat s.reader rest
      (s.reader.advance 4) records := hset.atRecords (by rw [length_of_atSet hs, hsize]; rfl)
  have hend := AtRecords.recordsEnd (recordPass im raddr (WireSet.data id records []).header s.reader.count tr)
    DecodeState.reader (DecodeState.append im (WireSet.data id records []).header tr) 4
    (s := { s with reader := s.reader.advance 4 }) hat hset.pos (fun _ _ => rfl)
    (fun t v vs hat hm => by
      rw [recordPass_of_guard ((guard_iff hat).mpr hm), recordBody_data (Or.inr (Or.inr hset.isData))]
      dsimp only
      rw [hat.parse (parses_decodeData hset.known (hat.all v List.mem_cons_self))]
      rfl)
    (fun t vs hat hm => recordPass_of_not_guard ((guard_iff hat).not.mpr (Nat.not_lt.mpr hm)))
  obtain ⟨fuel, hfuel⟩ := decodeSet_of_atSet hs htemplate hstate hend
    ((foldl_append_reader (fun _ _ => rfl) _ _).trans (Cursor.advance_advance _ _ _)) (by
      rw [hsize]
      exact Nat.add_le_add_left (Nat.mul_le_mul_right _ (List.length_take_le' _ _)) 4)
  exact ⟨fuel, _, hfuel, foldl_append_dataSets (fun t : DecodeState => t.msg.dataSets) (fun _ _ => rfl) _ _⟩

theorem appendsRecords_iff (hset : UnpaddedSet im raddr s id tr records rest) :
    AppendsRecords im raddr s records.length ↔ records = [] ∨ 4 < tr.recordLength := by
  obtain ⟨fuel, s', hs', hsets⟩ := decodeSet_short hset
  refine (decodeSet_family.appends_iff hs' hsets).trans ?_
  rw [List.length_map]
  exact length_take_div hset.pos

def portTemplate : TemplateRecord :=
  { templateID := 256, fieldCount := 1, fieldSpecifiers := [{ elementID := 7, length := 2 }] }

def atPorts (rest : List UInt8) : DecodeState where
  reader := ⟨setBytes 256 [0, 80, 0, 22] ++ rest, 20⟩
  mem := MemCache.empty.insert 256 [192, 0, 2, 1] portTemplate
  msg := { agentID := "192.0.2.1", header := ⟨9, 2, 0, 0, 0, 0⟩ }

theorem unpaddedSet_atPorts (rest : List UInt8) :
    UnpaddedSet infoModel [192, 0, 2, 1] (atPorts rest) 256 portTemplate [[[0, 80]], [[0, 22]]] rest where
  isData := by decide
  cached := MemCache.retrieve_insert_self _ _ _ _
  known := (by decide : portTemplate.Known infoModel)
  pos := by decide
  all v hv := by
    rcases List.mem_pair.mp hv with rfl | rfl <;> exact .cons rfl .nil
  atSet := ⟨rfl, by decide⟩

end Netflow9

/-! ## Both formats -/

/-- **Complete records.** An unpadded data set is decoded into all its records exactly if it has none, or one
record is longer than 4 bytes; in IPFIX what follows the set in the message counts as well. -/
theorem records_complete_iff (im : IANAInfoModel) (raddr : IP) (id : UInt16) (records : List Record)
    (rest : List UInt8) :
    (∀ s tr, Ipfix.UnpaddedSet im raddr s id tr records rest →
      (Ipfix.AppendsRecords im raddr s records.length ↔ records = [] ∨ 4 < tr.recordLength + rest.length)) ∧
    (∀ s tr, Netflow9.UnpaddedSet im raddr s id tr records rest →
      (Netflow9.AppendsRecords im raddr s records.length ↔ records = [] ∨ 4 < tr.recordLength)) :=
  ⟨fun _ _ => Ipfix.appendsRecords_iff, fun _ _ => Netflow9.appendsRecords_iff⟩

/-- Three bytes of another set are enough for IPFIX, and not for NetFlow v9. -/
theorem records_complete_followed :
    Ipfix.AppendsRecords infoModel [192, 0, 2, 1] (Ipfix.atPorts [1, 0, 0]) 2 ∧
      ¬ Netflow9.AppendsRecords infoModel [192, 0, 2, 1] (Netflow9.atPorts [1, 0, 0]) 2 := by
  obtain ⟨hi, hn⟩ := records_complete_iff infoModel [192, 0, 2, 1] 256 [[[0, 80]], [[0, 22]]] [1, 0, 0]
  exact ⟨(hi _ _ (Ipfix.unpaddedSet_atPorts [1, 0, 0])).mpr (Or.inr (by decide)),
    fun h => absurd ((hn _ _ (Netflow9.unpaddedSet_atPorts [1, 0, 0])).mp h) (by decide)⟩

/-- Two ports at the end of a message are lost, and in a NetFlow v9 packet anywhere. -/
theorem records_lost :
    (Ipfix.UnpaddedSet infoModel [192, 0, 2, 1] (Ipfix.atPorts []) 256 Ipfix.portTemplate [[[0, 80]], [[0, 22]]] [] ∧
      ¬ Ipfix.AppendsRecords infoModel [192, 0, 2, 1] (Ipfix.atPorts []) 2) ∧
    (Netflow9.UnpaddedSet infoModel [192, 0, 2, 1] (Netflow9.atPorts []) 256 Netflow9.portTemplate
        [[[0, 80]], [[0, 22]]] [] ∧
      ¬ Netflow9.AppendsRecords infoModel [192, 0, 2, 1] (Netflow9.atPorts []) 2) := by
  refine ⟨⟨Ipfix.unpaddedSet_atPorts [], fun h => ?_⟩, Netflow9.unpaddedSet_atPorts [], fun h => ?_⟩
  · exact absurd ((Ipfix.appendsRecords_iff (Ipfix.unpaddedSet_atPorts [])).mp h) (by decide)
  · exact absurd ((Netflow9.appendsRecords_iff (Netflow9.unpaddedSet_atPorts [])).mp h) (by decide)

end VFlow
