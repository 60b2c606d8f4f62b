import Mathlib.Data.List.Forall2
import VFlow.Sflow.Panics
import VFlow.Sflow.Wire

/-!
# What the decoder reads

For every record, sample and header of the wire format, the value that the decoder reads from its bytes,
whatever follows them. A sample that is read without a filter is read with one too, or passed over
(`parses_filter`), and a datagram whose samples are all read is returned with what was read
(`sfDecode_of_parses`).
-/

namespace VFlow.Sflow

open Scan BigEndian

/-! ## Reading words -/

theorem parses_uint32 (x : UInt32) : Parses uint32 (putUint32 x) x := by
  intro rest n
  rw [uint32_of_le (by simp), uint32_put]
  rfl

theorem parses_binaryRead {k : Nat} (w : List UInt8) (hk : w.length = k) : Parses (binaryRead k) w w := by
  intro rest n
  rw [← hk, binaryRead_of_le (by simp), List.take_left]
  simp [Cursor.advance]

theorem parses_uint8 (x : UInt8) : Parses uint8 [x] x :=
  (parses_binaryRead [x] rfl).bind (Parses.pure _)

theorem parses_uint64 (x : UInt64) : Parses uint64 (putUint64 x) x := by
  have h : Parses uint64 (putUint64 x ++ []) (BigEndian.uint64 (putUint64 x)) :=
    (parses_binaryRead (putUint64 x) rfl).bind (Parses.pure _)
  have hx := uint64_put x []
  rw [List.append_nil] at h hx
  rwa [hx] at h

theorem parses_seek {k : Nat} (w : List UInt8) (hk : w.length = k) : Parses (seek k) w () := by
  intro rest n
  rw [← hk]
  simp [seek, Cursor.advance]

theorem parses_rawRead {k : Nat} (w : List UInt8) (hk : w.length = k) (hne : w ≠ []) : Parses (rawRead k) w w := by
  intro rest n
  have hpos : 0 < w.length := List.length_pos_iff.mpr hne
  unfold rawRead
  rw [if_neg (by simp [hne]), ← hk, Cursor.len_mk, List.take_left, List.length_append,
    Nat.min_eq_left (Nat.le_add_right _ _), Nat.sub_eq_zero_of_le (Nat.le_add_right _ _)]
  simp [Cursor.advance]

theorem parses_recordPass {ρ : Type} {record : UInt32 → UInt32 → ReadM ρ} {format : UInt32} {body : List UInt8}
    {x : ρ} (h : Parses (record format (UInt32.ofNat body.length)) body x) :
    Parses (recordPass record) (unit format body) x := by
  rw [unit, List.append_assoc]
  exact ((parses_uint32 format).mapError RecordFailure.header).bind <|
    ((parses_uint32 (UInt32.ofNat body.length)).mapError RecordFailure.header).bind (h.mapError RecordFailure.body)

/-! ## Flow records -/

def headerFields (protocol frameLength stripped headerLength : UInt32) : List UInt8 :=
  putUint32 protocol ++ putUint32 frameLength ++ putUint32 stripped ++ putUint32 headerLength

theorem length_headerFields (p f s l : UInt32) : (headerFields p f s l).length = 16 := rfl

theorem completed_of_le {n : Nat} {w : List UInt8} (h : n ≤ w.length) : completed n w = w.take n := by
  unfold completed
  rw [List.take_append_of_le_length h]

theorem decodeSampledHeader_at {protocol frameLength stripped : UInt32} {len n : Nat} {w : List UInt8}
    (hw : w ≠ []) (hlen : len ≤ 1500) :
    decodeSampledHeader ⟨headerFields protocol frameLength stripped (UInt32.ofNat len) ++ w, n⟩ =
      match decodeHeader (completed len w) protocol with
      | .ok p => .ok p (Cursor.advance ⟨w, n + 16⟩ (min ((len + 3) / 4 * 4) w.length))
      | .error f => .error f (Cursor.advance ⟨w, n + 16⟩ (min ((len + 3) / 4 * 4) w.length)) := by
  have hprotocol :
      BigEndian.uint32 (headerFields protocol frameLength stripped (UInt32.ofNat len) ++ w) = protocol := by
    simp only [headerFields, List.append_assoc, uint32_put]
  have hlength : BigEndian.uint32 ((headerFields protocol frameLength stripped (UInt32.ofNat len) ++ w).drop 12) =
      UInt32.ofNat len := uint32_put _ w
  have hheader : (headerFields protocol frameLength stripped (UInt32.ofNat len) ++ w).drop 16 = w :=
    List.drop_left' rfl
  have hsize : (headerFields protocol frameLength stripped (UInt32.ofNat len) ++ w).length = 16 + w.length := by
    rw [List.length_append, length_headerFields]
  generalize headerFields protocol frameLength stripped (UInt32.ofNat len) ++ w = data at *
  have hadvance : ∀ k, Cursor.advance ⟨data, n⟩ (16 + k) = Cursor.advance ⟨w, n + 16⟩ k := by
    intro k
    rw [← Cursor.advance_advance]
    show Cursor.advance ⟨data.drop 16, n + 16⟩ k = _
    rw [hheader]
  have hpos : 0 < w.length := List.length_pos_iff.mpr hw
  have htoNat : (UInt32.ofNat len).toNat = len := toNat_ofNat_of_lt (by omega)
  have hshort : BigEndian.uint32 ((Cursor.mk data n).data.drop 12) ≤ 1500 := by
    rw [hlength, UInt32.le_iff_toNat_le, htoNat]
    exact hlen
  have hrun := decodeSampledHeader_of_lt (r := ⟨data, n⟩) (by rw [Cursor.len_mk, hsize]; omega) hshort
  simp only [hlength, hprotocol, hheader, htoNat, Cursor.len_mk, hsize, Nat.add_sub_cancel_left, hadvance] at hrun
  exact hrun

/-- What is read from a flow record; nothing when its header is too long or cannot be decoded. The two priorities
of a switch are read into one field. -/
def WireFlowRecord.read : WireFlowRecord → Option FlowRecord
  | rawHeader protocol _ _ header _ =>
    if header.length ≤ 1500 then
      match decodeHeader header protocol with
      | .ok p => some (.rawHeader p)
      | .error _ => none
    else none
  | extSwitch srcVlan _ dstVlan dstPriority =>
    some (.extSwitch { srcVlan, srcPriority := dstPriority, dstVlan, dstPriority := 0 })
  | extRouter _ nextHop srcMask dstMask => some (.extRouter { nextHop, srcMask, dstMask })
  | unknown _ _ => some .skipped

theorem decodeHeader_nil (protocol : UInt32) : ∃ e, decodeHeader [] protocol = .error (.err e) := by
  unfold decodeHeader Packet.decoder
  dsimp only
  split_ifs
  · exact ⟨_, rfl⟩
  · exact ⟨_, rfl⟩
  · exact ⟨_, rfl⟩
  · exact ⟨_, rfl⟩

theorem parses_rawHeader {protocol frameLength stripped : UInt32} {header padding : List UInt8} {p : Packet}
    (hok : (WireFlowRecord.rawHeader protocol frameLength stripped header padding).Ok) (hlen : header.length ≤ 1500)
    (hp : decodeHeader header protocol = .ok p) :
    Parses decodeSampledHeader (WireFlowRecord.rawHeader protocol frameLength stripped header padding).body p := by
  have hne : header ≠ [] := by
    intro hnil
    obtain ⟨e, he⟩ := decodeHeader_nil protocol
    rw [hnil, he] at hp
    cases hp
  have hpad : header.length + padding.length = (header.length + 3) / 4 * 4 := hok.2
  have hbody : (WireFlowRecord.rawHeader protocol frameLength stripped header padding).body =
      headerFields protocol frameLength stripped (UInt32.ofNat header.length) ++ (header ++ padding) := rfl
  intro rest n
  rw [hbody, List.length_append, length_headerFields, List.append_assoc,
    decodeSampledHeader_at (by simp [hne]) hlen, completed_of_le (by simp), List.append_assoc,
    List.take_left, hp, ← hpad, ← List.append_assoc, ← List.length_append, Nat.min_eq_left (by simp)]
  simp [Cursor.advance, Nat.add_assoc]

theorem parses_extSwitchData (srcVlan srcPriority dstVlan dstPriority : UInt32) :
    Parses ExtSwitchData.unmarshal (WireFlowRecord.extSwitch srcVlan srcPriority dstVlan dstPriority).body
      { srcVlan, srcPriority := dstPriority, dstVlan, dstPriority := 0 } := by
  rw [← List.append_nil (WireFlowRecord.body _)]
  simp only [WireFlowRecord.body, List.append_assoc]
  exact (parses_uint32 _).bind <| (parses_uint32 _).bind <| (parses_uint32 _).bind <|
    (parses_uint32 _).bind (Parses.pure _)

theorem parses_extRouterData {addressType : UInt32} {nextHop : IP} {srcMask dstMask : UInt32}
    (hlen : (WireFlowRecord.extRouter addressType nextHop srcMask dstMask).body.length < 2 ^ 32) :
    Parses (ExtRouterData.unmarshal
        (UInt32.ofNat (WireFlowRecord.extRouter addressType nextHop srcMask dstMask).body.length))
      (WireFlowRecord.extRouter addressType nextHop srcMask dstMask).body { nextHop, srcMask, dstMask } := by
  have hsize : (WireFlowRecord.extRouter addressType nextHop srcMask dstMask).body.length = 4 + nextHop.length + 8 := by
    simp only [WireFlowRecord.body, List.length_append, length_putUint32]
  rw [hsize] at hlen
  have hbuffer := bufferSize_extRouterData (UInt32.ofNat (4 + nextHop.length + 8))
  rw [toNat_ofNat_of_lt hlen, if_pos (by omega), Nat.add_sub_cancel] at hbuffer
  rw [hsize, ← List.append_nil (WireFlowRecord.body _)]
  simp only [WireFlowRecord.body]
  rw [List.append_assoc, List.append_assoc]
  refine (parses_binaryRead (putUint32 addressType ++ nextHop) ?_).bind ?_
  · rw [hbuffer, List.length_append, length_putUint32]
  · rw [sliceFrom_of_le (by simp), pure_bind]
    exact (parses_uint32 _).bind <| (parses_uint32 _).bind (Parses.pure _)

theorem parses_flowRecord {r : WireFlowRecord} {x : FlowRecord} (hok : r.Ok) (hx : r.read = some x) :
    Parses (flowRecord r.format (UInt32.ofNat r.body.length)) r.body x := by
  match r, hx with
  | .rawHeader protocol frameLength stripped header padding, hx =>
    unfold WireFlowRecord.read at hx
    dsimp only at hx
    split_ifs at hx with hlen
    cases hp : decodeHeader header protocol with
    | error f => simp [hp] at hx
    | ok p =>
      rw [hp, Option.some.injEq] at hx
      rw [← hx]
      exact (parses_rawHeader hok hlen hp).bind_pure _
  | .extSwitch srcVlan srcPriority dstVlan dstPriority, hx =>
    rw [← Option.some.inj hx]
    exact (parses_extSwitchData srcVlan srcPriority dstVlan dstPriority).bind_pure _
  | .extRouter addressType nextHop srcMask dstMask, hx =>
    rw [← Option.some.inj hx]
    exact (parses_extRouterData hok.1).bind_pure _
  | .unknown format content, hx =>
    obtain ⟨hlen, hraw, hswitch, hrouter⟩ := hok
    rw [← Option.some.inj hx]
    show Parses (flowRecord format (UInt32.ofNat content.length)) content .skipped
    unfold flowRecord
    rw [if_neg hraw, if_neg hswitch, if_neg hrouter, toNat_ofNat_of_lt (show content.length < 2 ^ 32 from hlen)]
    exact (parses_seek content rfl).bind_pure _

/-! ## Counter records -/

theorem GenericInterfaceCounters.parses (d : GenericInterfaceCounters) :
    Parses GenericInterfaceCounters.unmarshal d.encode d := by
  rw [← List.append_nil d.encode]
  unfold encode unmarshal
  simp only [List.append_assoc]
  exact (parses_uint32 _).bind <| (parses_uint32 _).bind <| (parses_uint64 _).bind <| (parses_uint32 _).bind <|
    (parses_uint32 _).bind <| (parses_uint64 _).bind <| (parses_uint32 _).bind <| (parses_uint32 _).bind <|
    (parses_uint32 _).bind <| (parses_uint32 _).bind <| (parses_uint32 _).bind <| (parses_uint32 _).bind <|
    (parses_uint64 _).bind <| (parses_uint32 _).bind <| (parses_uint32 _).bind <| (parses_uint32 _).bind <|
    (parses_uint32 _).bind <| (parses_uint32 _).bind <| (parses_uint32 _).bind (Parses.pure _)

theorem EthernetInterfaceCounters.parses (d : EthernetInterfaceCounters) :
    Parses EthernetInterfaceCounters.unmarshal d.encode d := by
  rw [← List.append_nil d.encode]
  unfold encode unmarshal
  simp only [List.append_assoc]
  exact (parses_uint32 _).bind <| (parses_uint32 _).bind <| (parses_uint32 _).bind <| (parses_uint32 _).bind <|
    (parses_uint32 _).bind <| (parses_uint32 _).bind <| (parses_uint32 _).bind <| (parses_uint32 _).bind <|
    (parses_uint32 _).bind <| (parses_uint32 _).bind <| (parses_uint32 _).bind <| (parses_uint32 _).bind <|
    (parses_uint32 _).bind (Parses.pure _)

theorem TokenRingCounters.parses (d : TokenRingCounters) : Parses TokenRingCounters.unmarshal d.encode d := by
  rw [← List.append_nil d.encode]
  unfold encode unmarshal
  simp only [List.append_assoc]
  exact (parses_uint32 _).bind <| (parses_uint32 _).bind <| (parses_uint32 _).bind <| (parses_uint32 _).bind <|
    (parses_uint32 _).bind <| (parses_uint32 _).bind <| (parses_uint32 _).bind <| (parses_uint32 _).bind <|
    (parses_uint32 _).bind <| (parses_uint32 _).bind <| (parses_uint32 _).bind <| (parses_uint32 _).bind <|
    (parses_uint32 _).bind <| (parses_uint32 _).bind <| (parses_uint32 _).bind <| (parses_uint32 _).bind <|
    (parses_uint32 _).bind <| (parses_uint32 _).bind (Parses.pure _)

theorem VGCounters.parses (d : VGCounters) : Parses VGCounters.unmarshal d.encode d := by
  rw [← List.append_nil d.encode]
  unfold encode unmarshal
  simp only [List.append_assoc]
  exact (parses_uint32 _).bind <| (parses_uint64 _).bind <| (parses_uint32 _).bind <| (parses_uint64 _).bind <|
    (parses_uint32 _).bind <| (parses_uint32 _).bind <| (parses_uint32 _).bind <| (parses_uint32 _).bind <|
    (parses_uint32 _).bind <| (parses_uint64 _).bind <| (parses_uint32 _).bind <| (parses_uint64 _).bind <|
    (parses_uint64 _).bind <| (parses_uint64 _).bind (Parses.pure _)

theorem VlanCounters.parses (d : VlanCounters) : Parses VlanCounters.unmarshal d.encode d := by
  rw [← List.append_nil d.encode]
  unfold encode unmarshal
  simp only [List.append_assoc]
  exact (parses_uint32 _).bind <| (parses_uint64 _).bind <| (parses_uint32 _).bind <| (parses_uint32 _).bind <|
    (parses_uint32 _).bind <| (parses_uint32 _).bind (Parses.pure _)

theorem ProcessorCounters.parses (d : ProcessorCounters) : Parses ProcessorCounters.unmarshal d.encode d := by
  rw [← List.append_nil d.encode]
  unfold encode unmarshal
  simp only [List.append_assoc]
  exact (parses_uint32 _).bind <| (parses_uint32 _).bind <| (parses_uint32 _).bind <| (parses_uint64 _).bind <|
    (parses_uint64 _).bind (Parses.pure _)

def WireCounterRecord.read : WireCounterRecord → CounterRecord
  | genInt d => .genInt d
  | ethInt d => .ethInt d
  | trInt d => .trInt d
  | vgInt d => .vgInt d
  | vlan d => .vlan d
  | proc d => .proc d
  | unknown _ _ => .skipped

theorem parses_counterRecord {r : WireCounterRecord} (hok : r.Ok) :
    Parses (counterRecord r.format (UInt32.ofNat r.body.length)) r.body r.read := by
  match r with
  | .genInt d => exact d.parses.bind_pure _
  | .ethInt d => exact d.parses.bind_pure _
  | .trInt d => exact d.parses.bind_pure _
  | .vgInt d => exact d.parses.bind_pure _
  | .vlan d => exact d.parses.bind_pure _
  | .proc d => exact d.parses.bind_pure _
  | .unknown format content =>
    obtain ⟨hlen, hformat⟩ := hok
    simp only [List.mem_cons, List.not_mem_nil, or_false, not_or] at hformat
    obtain ⟨h₁, h₂, h₃, h₄, h₅, h₆⟩ := hformat
    show Parses (counterRecord format (UInt32.ofNat content.length)) content .skipped
    unfold counterRecord
    rw [if_neg h₁, if_neg h₂, if_neg h₃, if_neg h₄, if_neg h₅, if_neg h₆, toNat_ofNat_of_lt hlen]
    exact (parses_seek content rfl).bind_pure _

/-! ## Samples -/

theorem forall₂_map_of_mem {α β δ : Type} {R : β → δ → Prop} {f : α → β} {g : α → δ} {l : List α}
    (h : ∀ a ∈ l, R (f a) (g a)) : List.Forall₂ R (l.map f) (l.map g) := by
  rw [List.forall₂_map_left_iff, List.forall₂_map_right_iff, List.forall₂_same]
  exact h

theorem SampleDecoder.parses_decode {η ρ σ : Type} {d : SampleDecoder η ρ σ} {u : List UInt8} {h : η}
    {ws : List (List UInt8)} {xs : List ρ} (hhead : Parses d.unmarshal u h)
    (hno : (d.recordsNo h).toNat = ws.length) (hrecords : List.Forall₂ (Parses (recordPass d.record)) ws xs) :
    Parses d.decode (u ++ ws.flatten) (d.sample h xs) := by
  intro rest n
  have hloop := many_parses hrecords rest (n + u.length)
  rw [← hrecords.length_eq, ← hno] at hloop
  have hread := hhead (ws.flatten ++ rest) n
  rw [← List.append_assoc] at hread
  rw [SampleDecoder.decode_of_none hread hloop, List.length_append, Nat.add_assoc]

theorem SampleDecoder.parses_item {η ρ σ : Type} {d : SampleDecoder η ρ σ} {u : List UInt8} {h : η}
    {ws : List (List UInt8)} {xs : List ρ} (hhead : Parses d.unmarshal u h)
    (hno : (d.recordsNo h).toNat = ws.length) (hrecords : List.Forall₂ (Parses (recordPass d.record)) ws xs)
    (wrap : σ → Item) : Parses (d.item wrap) (u ++ ws.flatten) (wrap (d.sample h xs)) :=
  ((SampleDecoder.parses_decode hhead hno hrecords).mapError Stop.failure).bind_pure wrap

def WireFlowSample.head (s : WireFlowSample) : FlowSample where
  sequenceNo := s.sequenceNo
  sourceID := s.sourceIDType
  samplingRate := s.samplingRate
  samplePool := s.samplePool
  drops := s.drops
  input := s.input
  output := s.output
  recordsNo := UInt32.ofNat s.records.length

theorem parses_flowSample (s : WireFlowSample) : Parses FlowSample.unmarshal s.fields s.head := by
  rw [← List.append_nil s.fields]
  unfold WireFlowSample.fields encodeSource FlowSample.unmarshal
  simp only [List.append_assoc]
  exact (parses_uint32 _).bind <| (parses_uint8 _).bind <| (parses_seek [_, _, _] rfl).bind <|
    (parses_uint32 _).bind <| (parses_uint32 _).bind <| (parses_uint32 _).bind <| (parses_uint32 _).bind <|
    (parses_uint32 _).bind <| (parses_uint32 _).bind (Parses.pure _)

def WireExpandedFlowSample.head (s : WireExpandedFlowSample) : ExpandedFlowSample where
  sequenceNo := s.sequenceNo
  sourceID := s.sourceIDType
  samplingRate := s.samplingRate
  samplePool := s.samplePool
  drops := s.drops
  inputFormat := s.inputFormat
  input := s.input
  outputFormat := s.outputFormat
  output := s.output
  recordsNo := UInt32.ofNat s.records.length

theorem parses_expandedFlowSample (s : WireExpandedFlowSample) :
    Parses ExpandedFlowSample.unmarshal s.fields s.head := by
  rw [← List.append_nil s.fields]
  unfold WireExpandedFlowSample.fields encodeSource ExpandedFlowSample.unmarshal
  simp only [List.append_assoc]
  exact (parses_uint32 _).bind <| (parses_uint8 _).bind <| (parses_seek [_, _, _] rfl).bind <|
    (parses_uint32 _).bind <| (parses_uint32 _).bind <| (parses_uint32 _).bind <| (parses_uint32 _).bind <|
    (parses_uint32 _).bind <| (parses_uint32 _).bind <| (parses_uint32 _).bind <|
    (parses_uint32 _).bind (Parses.pure _)

def WireCounterSample.head (s : WireCounterSample) : CounterSample where
  sequenceNo := s.sequenceNo
  sourceIDType := s.sourceIDType
  sourceIDIdx := s.sourceIDIdx
  recordsNo := UInt32.ofNat s.records.length

theorem parses_counterSample {s : WireCounterSample} (hidx : s.sourceIDIdx < 16777216) :
    Parses CounterSample.unmarshal s.fields s.head := by
  have h : Parses CounterSample.unmarshal (putUint32 s.sequenceNo ++ ([s.sourceIDType] ++
      ([(s.sourceIDIdx >>> 16).toUInt8, (s.sourceIDIdx >>> 8).toUInt8, s.sourceIDIdx.toUInt8] ++
      (putUint32 (UInt32.ofNat s.records.length) ++ [])))) { s.head with
        sourceIDIdx := s.sourceIDIdx.toUInt8.toUInt32 ||| (s.sourceIDIdx >>> 8).toUInt8.toUInt32 <<< 8 |||
          (s.sourceIDIdx >>> 16).toUInt8.toUInt32 <<< 16 } :=
    (parses_uint32 _).bind <| (parses_uint8 _).bind <| (parses_binaryRead [_, _, _] rfl).bind <|
    (parses_uint32 _).bind (Parses.pure _)
  rw [List.append_nil, source_index hidx] at h
  exact h

/-- All records of the sample can be decoded, and its enterprise is the standard one. -/
def WireSample.Decodable : WireSample → Prop
  | flow s => ∀ r ∈ s.records, r.read.isSome
  | counter _ => True
  | other type _ => type >>> 12 = 0

instance : (s : WireSample) → Decidable s.Decodable
  | .flow s => List.decidableBAll (fun r : WireFlowRecord => r.read.isSome = true) s.records
  | .counter _ => .isTrue trivial
  | .other type _ => decEq (type >>> 12) 0

def WireSample.read : WireSample → Item
  | flow s => .sample (.flow (flowDecoder.sample s.head (s.records.filterMap WireFlowRecord.read)))
  | counter s => .counter (counterDecoder.sample s.head (s.records.map WireCounterRecord.read))
  | other _ _ => .skipped

theorem parses_flowRecords {rs : List WireFlowRecord} (hok : ∀ r ∈ rs, r.Ok) (hread : ∀ r ∈ rs, r.read.isSome) :
    List.Forall₂ (Parses (recordPass flowRecord)) (rs.map WireFlowRecord.encode)
      (rs.filterMap WireFlowRecord.read) := by
  induction rs with
  | nil => exact .nil
  | cons r rs ih =>
    obtain ⟨x, hx⟩ := Option.isSome_iff_exists.mp (hread r List.mem_cons_self)
    rw [List.map_cons, List.filterMap_cons_some hx]
    exact .cons (parses_recordPass (parses_flowRecord (hok r List.mem_cons_self) hx))
      (ih (fun r hr => hok r (List.mem_cons_of_mem _ hr)) fun r hr => hread r (List.mem_cons_of_mem _ hr))

theorem parses_decodeItem {s : WireSample} (hok : s.Ok) (hread : s.Decodable) :
    Parses (decodeItem [] s.type (UInt32.ofNat s.body.length)) s.body s.read := by
  match s with
  | .flow s =>
    obtain ⟨-, -, hno, hrecords⟩ := hok
    have h := SampleDecoder.parses_item (d := flowDecoder) (parses_flowSample s)
      (by rw [List.length_map]; exact toNat_ofNat_of_lt hno) (parses_flowRecords hrecords hread)
      fun s => .sample (.flow s)
    rwa [← List.flatMap_def] at h
  | .counter s =>
    obtain ⟨-, hidx, hno, hrecords⟩ := hok
    have hall : List.Forall₂ (Parses (recordPass counterRecord)) (s.records.map WireCounterRecord.encode)
        (s.records.map WireCounterRecord.read) :=
      forall₂_map_of_mem fun r hr => parses_recordPass (parses_counterRecord (hrecords r hr))
    have h := SampleDecoder.parses_item (d := counterDecoder) (parses_counterSample hidx)
      (by rw [List.length_map]; exact toNat_ofNat_of_lt hno) hall .counter
    rwa [← List.flatMap_def] at h
  | .other type content =>
    obtain ⟨hlen, hflow, hcounter, hexpanded⟩ := hok
    show Parses (decodeItem [] type (UInt32.ofNat content.length)) content .skipped
    unfold decodeItem
    rw [if_neg (by simp [isFilterMatch]), if_neg hflow, if_neg hcounter, if_neg hexpanded,
      toNat_ofNat_of_lt (show content.length < 2 ^ 32 from hlen)]
    exact (parses_seek content rfl).bind_pure _

theorem parses_getSampleInfo {type : UInt32} (hent : type >>> 12 = 0) (length : UInt32) :
    Parses getSampleInfo (putUint32 type ++ putUint32 length) (type, length) := by
  intro rest n
  have htype : BigEndian.uint32 (putUint32 type ++ putUint32 length ++ rest) = type := by
    rw [List.append_assoc, uint32_put]
  have hlength : BigEndian.uint32 ((putUint32 type ++ putUint32 length ++ rest).drop 4) = length :=
    uint32_put length rest
  rw [getSampleInfo_of_le (by simp [Cursor.len]; omega) (by rw [htype]; exact hent)]
  dsimp only
  rw [htype, hlength, and_of_shiftRight_eq_zero hent]
  rfl

theorem WireSample.Decodable.standard {s : WireSample} (h : s.Decodable) : s.type >>> 12 = 0 := by
  match s with
  | .flow s => exact (by decide : dataFlowSample >>> 12 = 0)
  | .counter s => exact (by decide : dataCounterSample >>> 12 = 0)
  | .other type content => exact h

theorem parses_samplePass {s : WireSample} (hok : s.Ok) (hread : s.Decodable) :
    Parses (samplePass []) s.encode s.read :=
  ((parses_getSampleInfo hread.standard _).mapError SampleFailure.info).bind
    ((parses_decodeItem hok hread).mapError SampleFailure.sample)

/-! ## Filters -/

theorem isFilterMatch_iff {filter : List UInt32} {f : UInt32} : isFilterMatch filter f ↔ f ∈ filter := by
  unfold isFilterMatch
  simp

theorem decodeItem_of_not_mem {filter : List UInt32} {format : UInt32} (h : format ∉ filter) (length : UInt32) :
    decodeItem filter format length = decodeItem [] format length := by
  have hfilter : isFilterMatch filter format = false := by
    rw [Bool.eq_false_iff, Ne, isFilterMatch_iff]
    exact h
  unfold decodeItem
  rw [hfilter, show isFilterMatch [] format = false from rfl]

/-- The format that a sample of a datagram came with. -/
def Sample.format : Sample → UInt32
  | flow _ => dataFlowSample
  | expanded _ => dataExpandedFlowSample

/-- What is left of a sample when the formats in a filter are dropped. -/
def Item.keep (filter : List UInt32) : Item → Item
  | .sample s => if s.format ∈ filter then .skipped else .sample s
  | .counter s => if dataCounterSample ∈ filter then .skipped else .counter s
  | .skipped => .skipped

theorem keep_of_decodeItem {filter : List UInt32} {format length : UInt32} {r r' : Reader} {item : Item}
    (h : decodeItem [] format length r = .ok item r') :
    item.keep filter = if format ∈ filter then .skipped else item := by
  unfold decodeItem at h
  rw [if_neg (by simp [isFilterMatch])] at h
  split_ifs at h with h₁ h₂ h₃
  · obtain ⟨d, -, rfl⟩ := bind_pure_eq_ok.mp h
    rw [h₁]
    rfl
  · obtain ⟨d, -, rfl⟩ := bind_pure_eq_ok.mp h
    rw [h₂]
    rfl
  · obtain ⟨d, -, rfl⟩ := bind_pure_eq_ok.mp h
    rw [h₃]
    rfl
  · obtain ⟨d, -, rfl⟩ := bind_pure_eq_ok.mp h
    rw [ite_self]
    rfl

/-- A sample that is read without a filter is read with one, or passed over. -/
theorem parses_filter {type : UInt32} {body : List UInt8} {item : Item} (hlen : body.length < 2 ^ 32)
    (h : Parses (samplePass []) (unit type body) item) (filter : List UInt32) :
    Parses (samplePass filter) (unit type body) (item.keep filter) := by
  have hent : type >>> 12 = 0 := by
    by_contra hent
    have hpass := h [] 0
    rw [samplePass_of_error (getSampleInfo_of_enterprise (by simp [length_unit]; omega)
      (by rw [unit, List.append_assoc, List.append_assoc, uint32_put]; exact hent))] at hpass
    cases hpass
  have hinfo := parses_getSampleInfo hent (UInt32.ofNat body.length)
  intro rest n
  have hpass := h rest n
  have hat : ∀ filter, samplePass filter ⟨unit type body ++ rest, n⟩ =
      mapError .sample (decodeItem filter type (UInt32.ofNat body.length)) ⟨body ++ rest, n + 8⟩ := by
    intro filter
    rw [unit, List.append_assoc]
    exact samplePass_of_info (hinfo (body ++ rest) n)
  rw [hat, mapError_eq_ok] at hpass
  rw [hat, keep_of_decodeItem hpass]
  split_ifs with hmem
  · refine mapError_of_ok ?_
    unfold decodeItem
    rw [if_pos (isFilterMatch_iff.mpr hmem), toNat_ofNat_of_lt hlen, length_unit, ← Nat.add_assoc]
    exact ((parses_seek body rfl).bind_pure _) rest (n + 8)
  · rw [decodeItem_of_not_mem hmem]
    exact mapError_of_ok hpass

/-! ## Datagrams -/

def WireHeader.datagram (h : WireHeader) (n : Nat) (now : Int) : SFDatagram where
  version := 5
  ipVersion := h.ipVersion
  agentSubID := h.agentSubID
  sequenceNo := h.sequenceNo
  sysUpTime := h.sysUpTime
  samplesNo := UInt32.ofNat n
  ipAddress := h.ipAddress
  colTime := now

theorem parses_sfHeaderDecode {h : WireHeader} (hok : h.Ok) (n : Nat) (now : Int) :
    Parses (sfHeaderDecode now) (h.encode n) (h.datagram n now) := by
  have hne : h.ipAddress ≠ [] := by
    intro hnil
    unfold WireHeader.Ok at hok
    rw [hnil, List.length_nil] at hok
    split_ifs at hok
  have hread : Parses (sfHeaderDecode now) (putUint32 5 ++ (putUint32 h.ipVersion ++ (h.ipAddress ++
      (putUint32 h.agentSubID ++ (putUint32 h.sequenceNo ++ (putUint32 h.sysUpTime ++
        (putUint32 (UInt32.ofNat n) ++ []))))))) (h.datagram n now) :=
    (parses_uint32 _).bind <| (parses_uint32 _).bind <| (parses_rawRead _ hok hne).bind <|
    (parses_uint32 _).bind <| (parses_uint32 _).bind <| (parses_uint32 _).bind <|
    (parses_uint32 _).bind (Parses.pure _)
  rw [List.append_nil] at hread
  exact hread

theorem sfDecode_of_parses {filter : List UInt32} {h : WireHeader} {ws : List (List UInt8)} {items : List Item}
    (hok : h.Ok) (hno : ws.length < 2 ^ 32) (hitems : List.Forall₂ (Parses (samplePass filter)) ws items)
    (now : Int) :
    sfDecode filter now (datagramBytes h ws) =
      .returned (some (items.foldl SFDatagram.append (h.datagram ws.length now))) none := by
  have hhead := parses_sfHeaderDecode hok ws.length now ws.flatten 0
  have hloop := many_parses hitems [] (0 + (h.encode ws.length).length)
  rw [List.append_nil, ← hitems.length_eq] at hloop
  unfold sfDecode datagramBytes
  rw [hhead]
  dsimp only
  rw [show (h.datagram ws.length now).samplesNo.toNat = ws.length from toNat_ofNat_of_lt hno, hloop]

end VFlow.Sflow
