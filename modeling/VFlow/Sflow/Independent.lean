import VFlow.Sflow.Filter
import VFlow.Sflow.Truncation

/-!
# Samples that cannot be decoded

A datagram in which some samples cannot be decoded: those of another enterprise, and those with a sampled
header of a protocol that the package `packet` does not know. `SFDecode` returns the other samples, as for
the datagram without those, exactly when the filter drops each of them (`independent_iff`). A sample that
is not dropped ends the loop with its error. None of another enterprise is ever dropped, because the
enterprise is refused before the filter is asked.
-/

namespace VFlow.Sflow

open Scan

/-- A sample with its declared length right. -/
structure RawSample where
  type : UInt32
  body : List UInt8
  body_lt : body.length < 2 ^ 32

def RawSample.encode (s : RawSample) : List UInt8 := unit s.type s.body

/-- The decoder reads the sample from its own bytes, whatever follows. -/
def RawSample.Decodable (s : RawSample) : Prop := ∃ item, Parses (samplePass []) s.encode item

/-- A sampled header of a frame with a protocol that is not known. -/
def WireFlowRecord.UnknownFrame : WireFlowRecord → Prop
  | rawHeader protocol _ _ header _ =>
    ∃ e ∈ [PacketError.errUnknownEtherType, .errUnknownHeaderProtocol, .errUnknownL3Protocol,
      .errUnknownTransportLayer], decodeHeader header protocol = .error (.err (.packet e))
  | _ => False

/-- Correctly encoded records, one of them with a frame that is not known. -/
def UnknownFrameAmong (records : List WireFlowRecord) : Prop :=
  records.length < 2 ^ 32 ∧ (∀ r ∈ records, r.Ok) ∧ ∃ r ∈ records, r.UnknownFrame

/-- The sample is of another enterprise, or it is a flow sample with a frame that is not known. -/
def RawSample.Undecodable (s : RawSample) : Prop :=
  s.type >>> 12 ≠ 0 ∨
    (s.type = dataFlowSample ∧ ∃ f : WireFlowSample, s.body = f.body ∧ UnknownFrameAmong f.records) ∨
    s.type = dataExpandedFlowSample ∧ ∃ f : WireExpandedFlowSample, s.body = f.body ∧ UnknownFrameAmong f.records

/-! ## One sample -/

theorem verdict_of_unknownFrame {r : WireFlowRecord} (h : r.UnknownFrame) : r.verdict r.body.length ≠ none := by
  match r with
  | .rawHeader protocol frameLength stripped header padding =>
    obtain ⟨e, -, he⟩ := h
    show headerVerdict protocol header padding (WireFlowRecord.body _).length ≠ none
    rw [show (WireFlowRecord.rawHeader protocol frameLength stripped header padding).body =
      headerFields protocol frameLength stripped (UInt32.ofNat header.length) ++ (header ++ padding) from rfl,
      List.length_append, length_headerFields, List.length_append]
    unfold headerVerdict
    split_ifs
    · exact Option.some_ne_none _
    · rw [completed_whole]
      unfold frameVerdict
      rw [he]
      exact Option.some_ne_none _

theorem SampleDecoder.refuses {η σ : Type} {d : SampleDecoder η FlowRecord σ} {u : List UInt8} {h : η}
    {records : List WireFlowRecord} (hd : d.record = flowRecord) (hhead : Parses d.unmarshal u h)
    (htakes : Takes Returned d.unmarshal u.length) (hno : d.recordsNo h = UInt32.ofNat records.length)
    (hrecords : UnknownFrameAmong records) (wrap : σ → Item) :
    Refuses (d.item wrap) (u ++ records.flatMap WireFlowRecord.encode) := by
  obtain ⟨hlt, hok, r, hr, hframe⟩ := hrecords
  have hone : ∀ r ∈ records, Judges (fun g => g.failure.ending) (recordPass d.record) r.encode
      (unitVerdict r.verdict) := by
    intro r hr
    rw [hd]
    exact judges_recordPass (judges_flowRecord (hok r hr))
  refine (SampleDecoder.judges_item hhead htakes (by rw [hno, toNat_ofNat_of_lt hlt]) hone).refuses ?_
  unfold recordsVerdict
  rw [List.length_append, if_neg (by omega), Nat.add_sub_cancel_left]
  refine cutVerdict_ne_none hr ?_
  rw [WireFlowRecord.encode, length_unit, unitVerdict, if_neg (by omega), Nat.add_sub_cancel_left]
  exact verdict_of_unknownFrame hframe

theorem refuses_body {filter : List UInt32} {type : UInt32} {body : List UInt8} (hent : type >>> 12 = 0)
    (h : Refuses (decodeItem filter type (UInt32.ofNat body.length)) body) :
    Refuses (samplePass filter) (unit type body) :=
  ((parses_getSampleInfo hent (UInt32.ofNat body.length)).mapError SampleFailure.info).bind_refuses
    (h.mapError SampleFailure.sample)

def Dropped (filter : List UInt32) (s : RawSample) : Prop := s.type >>> 12 = 0 ∧ s.type ∈ filter

theorem parses_dropped {filter : List UInt32} {s : RawSample} (h : Dropped filter s) :
    Parses (samplePass filter) s.encode .skipped := by
  have hskip : Parses (decodeItem filter s.type (UInt32.ofNat s.body.length)) s.body .skipped := by
    unfold decodeItem
    rw [if_pos (isFilterMatch_iff.mpr h.2), toNat_ofNat_of_lt s.body_lt]
    exact (parses_seek s.body rfl).bind_pure _
  exact ((parses_getSampleInfo h.1 _).mapError SampleFailure.info).bind (hskip.mapError SampleFailure.sample)

theorem refuses_undecodable {filter : List UInt32} {s : RawSample} (h : s.Undecodable) (hdropped : ¬ Dropped filter s) :
    Refuses (samplePass filter) s.encode := by
  obtain ⟨type, body, hlt⟩ := s
  by_cases hent : type >>> 12 = 0
  · have hmem : type ∉ filter := fun hmem => hdropped ⟨hent, hmem⟩
    refine refuses_body hent ?_
    rw [decodeItem_of_not_mem hmem]
    obtain h | ⟨rfl, f, rfl, hf⟩ | ⟨rfl, f, rfl, hf⟩ := h
    · exact absurd hent h
    · exact SampleDecoder.refuses rfl (parses_flowSample f) takes_flowSample rfl hf _
    · exact SampleDecoder.refuses rfl (parses_expandedFlowSample f) takes_expandedFlowSample rfl hf _
  · exact (judges_enterprise hent).refuses (Option.some_ne_none _)

/-! ## Datagrams -/

abbrev DecodableSample := { s : RawSample // s.Decodable }
abbrev UndecodableSample := { s : RawSample // s.Undecodable }

def sampleBytes : DecodableSample ⊕ UndecodableSample → List UInt8
  | .inl s => s.1.encode
  | .inr s => s.1.encode

def decodables (samples : List (DecodableSample ⊕ UndecodableSample)) : List (DecodableSample ⊕ UndecodableSample) :=
  samples.filter Sum.isLeft

theorem parses_decodable (filter : List UInt32) (s : DecodableSample) :
    ∃ item, Parses (samplePass filter) s.1.encode item := by
  obtain ⟨item, hitem⟩ := s.2
  exact ⟨item.keep filter, parses_filter s.1.body_lt hitem filter⟩

theorem parses_decodables {filter : List UInt32} {samples : List (DecodableSample ⊕ UndecodableSample)}
    (hdropped : ∀ s, Sum.inr s ∈ samples → Dropped filter s.1) :
    ∃ items items', List.Forall₂ (Parses (samplePass filter)) (samples.map sampleBytes) items ∧
      List.Forall₂ (Parses (samplePass filter)) ((decodables samples).map sampleBytes) items' ∧
      ∀ d, items.foldl SFDatagram.append d = items'.foldl SFDatagram.append d := by
  induction samples with
  | nil => exact ⟨[], [], .nil, .nil, fun _ => rfl⟩
  | cons s samples ih =>
    obtain ⟨items, items', hitems, hitems', hfold⟩ := ih fun s hs => hdropped s (List.mem_cons_of_mem _ hs)
    cases s with
    | inl s =>
      obtain ⟨item, hitem⟩ := parses_decodable filter s
      exact ⟨item :: items, item :: items', .cons hitem hitems, .cons hitem hitems', fun d => hfold (d.append item)⟩
    | inr s =>
      exact ⟨.skipped :: items, items', .cons (parses_dropped (hdropped s List.mem_cons_self)) hitems, hitems', hfold⟩

theorem failure_of_refuses {filter : List UInt32} {now : Int} {h : WireHeader} {ws : List (List UInt8)} {w : List UInt8}
    (hok : h.Ok) (hno : ws.length < 2 ^ 32)
    (hall : ∀ w ∈ ws, (∃ item, Parses (samplePass filter) w item) ∨ Refuses (samplePass filter) w)
    (hw : w ∈ ws) (hrefuses : Refuses (samplePass filter) w) :
    (sfDecode filter now (datagramBytes h ws)).failure ≠ none := by
  have hloop := many_refuses hall hw hrefuses [] (0 + (h.encode ws.length).length)
  rw [List.append_nil] at hloop
  rw [datagramBytes, failure_sfDecode_of_ok (parses_sfHeaderDecode hok ws.length 0 ws.flatten 0),
    show (h.datagram ws.length 0).samplesNo.toNat = ws.length from toNat_ofNat_of_lt hno, Ne, Option.map_eq_none_iff]
  exact hloop

theorem independent_iff (filter : List UInt32) (now : Int) (h : WireHeader)
    (samples : List (DecodableSample ⊕ UndecodableSample)) (hok : h.Ok) (hno : samples.length < 2 ^ 32) :
    (∃ D, sfDecode filter now (datagramBytes h ((decodables samples).map sampleBytes)) = .returned (some D) none ∧
      sfDecode filter now (datagramBytes h (samples.map sampleBytes)) =
        .returned (some { D with samplesNo := UInt32.ofNat samples.length }) none) ↔
      ∀ s, Sum.inr s ∈ samples → s.1.type >>> 12 = 0 ∧ s.1.type ∈ filter := by
  have hall : (samples.map sampleBytes).length < 2 ^ 32 := by
    rw [List.length_map]
    exact hno
  constructor
  · -- a sample that is not dropped makes the decoding fail
    intro ⟨D, _, hD⟩ s hs
    by_contra hdropped
    have hone : ∀ w ∈ samples.map sampleBytes,
        (∃ item, Parses (samplePass filter) w item) ∨ Refuses (samplePass filter) w := by
      intro w hw
      obtain ⟨s, -, rfl⟩ := List.mem_map.mp hw
      cases s with
      | inl s => exact Or.inl (parses_decodable filter s)
      | inr s =>
        by_cases hs : Dropped filter s.1
        · exact Or.inl ⟨_, parses_dropped hs⟩
        · exact Or.inr (refuses_undecodable s.2 hs)
    have hfails : (sfDecode filter now (datagramBytes h (samples.map sampleBytes))).failure ≠ none :=
      failure_of_refuses hok hall hone (List.mem_map_of_mem hs) (refuses_undecodable s.2 hdropped)
    rw [hD] at hfails
    exact hfails rfl
  · intro hdropped
    obtain ⟨items, items', hitems, hitems', hfold⟩ := parses_decodables hdropped
    have hleft : ((decodables samples).map sampleBytes).length < 2 ^ 32 := by
      rw [List.length_map]
      exact Nat.lt_of_le_of_lt (List.length_filter_le _ _) hno
    refine ⟨_, sfDecode_of_parses hok hleft hitems' now, ?_⟩
    rw [sfDecode_of_parses hok hall hitems now, hfold, foldl_append, foldl_append, List.length_map, List.length_map]
    rfl

/-! ## A vendor's sample and an ARP frame -/

def WireSample.raw (s : WireSample) (hok : s.Ok) (hread : s.Decodable) : DecodableSample :=
  ⟨⟨s.type, s.body, hok.1⟩, s.read, parses_samplePass hok hread⟩

def processorSample : DecodableSample :=
  WireSample.raw
    (.counter {
      sequenceNo := 2
      sourceIDType := 0
      sourceIDIdx := 1
      records := [.proc { cpu5s := 1, cpu1m := 2, cpu5m := 3, totalMemory := 4096, freeMemory := 1024 }] })
    (by decide +kernel) trivial

def vendorSample : UndecodableSample := ⟨⟨0x113d001, [0, 0, 0, 1], by decide⟩, Or.inl (by decide)⟩

def arpFlowSample : WireFlowSample where
  sequenceNo := 1
  sourceIDType := 0
  sourceIDIdx := 1
  samplingRate := 512
  samplePool := 1000
  drops := 0
  input := 1
  output := 2
  records := [.rawHeader 1 64 4 [0xff, 0xff, 0xff, 0xff, 0xff, 0xff, 2, 0, 0, 0, 0, 1, 0x08, 0x06, 0, 1] []]

def arpSample : UndecodableSample :=
  ⟨⟨dataFlowSample, arpFlowSample.body, by decide +kernel⟩,
    Or.inr (Or.inl ⟨rfl, arpFlowSample, rfl, by decide, by decide +kernel, _, List.mem_cons_self,
      .errUnknownEtherType, List.mem_cons_self, by decide +kernel⟩)⟩

/-- With flow samples filtered, the counter sample behind an ARP frame is decoded as if it were alone. -/
theorem independent_iff_arp :
    ∃ D, sfDecode [1] 0 (datagramBytes agentHeader ((decodables [.inr arpSample, .inl processorSample]).map
        sampleBytes)) = .returned (some D) none ∧
      sfDecode [1] 0 (datagramBytes agentHeader ([.inr arpSample, .inl processorSample].map sampleBytes)) =
        .returned (some { D with samplesNo := 2 }) none := by
  refine (independent_iff [1] 0 agentHeader [.inr arpSample, .inl processorSample] agentHeader_ok
    (by decide)).mpr fun s hs => ?_
  obtain rfl : s = arpSample := by simpa using hs
  exact ⟨by decide, List.mem_cons_self⟩

/-- A counter sample is lost with an ARP frame before it, and also with a vendor's sample after it. -/
theorem independent_lost :
    (∃ D, sfDecode [] 0 (datagramBytes agentHeader ([.inl processorSample].map sampleBytes)) =
        .returned (some D) none ∧ D.counters.length = 1) ∧
      (∃ D, sfDecode [] 0 (datagramBytes agentHeader ([.inr arpSample, .inl processorSample].map sampleBytes)) =
        .returned (some D) (some (.packet .errUnknownEtherType)) ∧ D.counters = []) ∧
      sfDecode [] 0 (datagramBytes agentHeader ([.inl processorSample, .inr vendorSample].map sampleBytes)) =
        .returned none (some .errNoneEnterpriseStandard) := by
  refine ⟨⟨{ agentHeader.datagram 1 0 with counters := [{
      sequenceNo := 2
      sourceIDType := 0
      sourceIDIdx := 1
      recordsNo := 1
      records := {
        proc := some { cpu5s := 1, cpu1m := 2, cpu5m := 3, totalMemory := 4096, freeMemory := 1024 } } }] },
    ?_, rfl⟩, ⟨agentHeader.datagram 2 0, ?_, rfl⟩, ?_⟩
  · decide +kernel
  · decide +kernel
  · decide +kernel

end VFlow.Sflow
