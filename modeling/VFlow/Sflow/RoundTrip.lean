import Mathlib.Data.List.Induction
import VFlow.Sflow.Values

/-!
# Round trips of samples

The map `Records` of a sample has one record of each kind, the last one that the loop came to
(`foldl_counterRecords`, `foldl_flowRecords`). A counter sample is returned as it was sent, whatever follows
it. So is a flow sample, save for its switch record: `ExtSwitchData.unmarshal` reads the destination
priority into the field of the source priority, so that the record comes back only when both are `0`.
-/

namespace VFlow.Sflow

open Scan BigEndian

/-! ## The last record of a kind -/

section lastOf
variable {α β : Type}

/-- The last value that `f` finds in a list. -/
def lastOf (f : α → Option β) (l : List α) : Option β := (l.filterMap f).getLast?

@[simp] theorem lastOf_nil (f : α → Option β) : lastOf f [] = none := rfl

@[simp] theorem lastOf_concat (f : α → Option β) (l : List α) (a : α) :
    lastOf f (l ++ [a]) = (f a).or (lastOf f l) := by
  unfold lastOf
  cases hf : f a with
  | none => simp [List.filterMap_append, hf]
  | some b => simp [List.filterMap_append, hf]

end lastOf

/-! ## Counter samples -/

namespace WireCounterRecord

def genInt? : WireCounterRecord → Option GenericInterfaceCounters
  | genInt d => some d
  | _ => none

def ethInt? : WireCounterRecord → Option EthernetInterfaceCounters
  | ethInt d => some d
  | _ => none

def trInt? : WireCounterRecord → Option TokenRingCounters
  | trInt d => some d
  | _ => none

def vgInt? : WireCounterRecord → Option VGCounters
  | vgInt d => some d
  | _ => none

def vlan? : WireCounterRecord → Option VlanCounters
  | vlan d => some d
  | _ => none

def proc? : WireCounterRecord → Option ProcessorCounters
  | proc d => some d
  | _ => none

end WireCounterRecord

def lastCounters (rs : List WireCounterRecord) : CounterRecords where
  genInt := lastOf WireCounterRecord.genInt? rs
  ethInt := lastOf WireCounterRecord.ethInt? rs
  trInt := lastOf WireCounterRecord.trInt? rs
  vgInt := lastOf WireCounterRecord.vgInt? rs
  vlan := lastOf WireCounterRecord.vlan? rs
  proc := lastOf WireCounterRecord.proc? rs

theorem lastCounters_concat (rs : List WireCounterRecord) (r : WireCounterRecord) :
    lastCounters (rs ++ [r]) = (lastCounters rs).add r.read := by
  unfold lastCounters
  simp only [lastOf_concat]
  cases r <;> rfl

theorem foldl_counterRecords (rs : List WireCounterRecord) :
    (rs.map WireCounterRecord.read).foldl CounterRecords.add {} = lastCounters rs := by
  induction rs using List.reverseRecOn with
  | nil => rfl
  | append_singleton rs r ih =>
    rw [List.map_append, List.foldl_append, ih, lastCounters_concat]
    rfl

/-- A counter sample is returned with its header and the last record of each kind, and nothing after it is
read. -/
theorem decodeFlowCounter_roundTrip (s : WireCounterSample) (hidx : s.sourceIDIdx < 16777216)
    (hno : s.records.length < 2 ^ 32) (hok : ∀ r ∈ s.records, r.Ok) (rest : List UInt8) (n : Nat) :
    decodeFlowCounter ⟨s.body ++ rest, n⟩ =
      .ok {
        sequenceNo := s.sequenceNo
        sourceIDType := s.sourceIDType
        sourceIDIdx := s.sourceIDIdx
        recordsNo := UInt32.ofNat s.records.length
        records := lastCounters s.records } ⟨rest, n + s.body.length⟩ := by
  have hrecords : List.Forall₂ (Parses (recordPass counterRecord)) (s.records.map WireCounterRecord.encode)
      (s.records.map WireCounterRecord.read) :=
    forall₂_map_of_mem fun r hr => parses_recordPass (parses_counterRecord (hok r hr))
  have hdecode := SampleDecoder.parses_decode (d := counterDecoder) (parses_counterSample hidx)
    (by rw [List.length_map]; exact toNat_ofNat_of_lt hno) hrecords
  rw [← List.flatMap_def] at hdecode
  have hsample : counterDecoder.sample s.head (s.records.map WireCounterRecord.read) =
      { s.head with records := lastCounters s.records } := by
    rw [← foldl_counterRecords]
    rfl
  rw [hsample] at hdecode
  exact hdecode rest n

/-- Two processor records with a record of another enterprise between them, and a VLAN record. -/
def vlanSample : WireCounterSample where
  sequenceNo := 7
  sourceIDType := 2
  sourceIDIdx := 70000
  records := [.proc { cpu5s := 1, cpu1m := 2, cpu5m := 3, totalMemory := 4, freeMemory := 5 },
    .unknown 8193 [1, 2, 3],
    .vlan {
      id := 10, octets := 11, unicastPackets := 12, multicastPackets := 13, broadcastPackets := 14, discards := 15 },
    .proc { cpu5s := 6, cpu1m := 7, cpu5m := 8, totalMemory := 9, freeMemory := 10 }]

theorem decodeFlowCounter_roundTrip_vlan :
    decodeFlowCounter ⟨vlanSample.body ++ [0xff], 0⟩ =
      .ok {
        sequenceNo := 7
        sourceIDType := 2
        sourceIDIdx := 70000
        recordsNo := 4
        records := {
          vlan := some {
            id := 10
            octets := 11
            unicastPackets := 12
            multicastPackets := 13
            broadcastPackets := 14
            discards := 15 }
          proc := some { cpu5s := 6, cpu1m := 7, cpu5m := 8, totalMemory := 9, freeMemory := 10 } } }
        ⟨[0xff], 0 + vlanSample.body.length⟩ :=
  decodeFlowCounter_roundTrip vlanSample (by decide) (by decide) (List.forall_mem_cons.mpr
    ⟨trivial, List.forall_mem_cons.mpr ⟨by decide, List.forall_mem_cons.mpr ⟨trivial,
      List.forall_mem_singleton.mpr trivial⟩⟩⟩) [0xff] 0

/-! ## Flow samples -/

namespace WireFlowRecord

def packet? : WireFlowRecord → Option Packet
  | rawHeader protocol _ _ header _ => (decodeHeader header protocol).toOption
  | _ => none

def switch? : WireFlowRecord → Option ExtSwitchData
  | extSwitch srcVlan srcPriority dstVlan dstPriority => some { srcVlan, srcPriority, dstVlan, dstPriority }
  | _ => none

def router? : WireFlowRecord → Option ExtRouterData
  | extRouter _ nextHop srcMask dstMask => some { nextHop, srcMask, dstMask }
  | _ => none

end WireFlowRecord

def lastRecords (rs : List WireFlowRecord) : FlowRecords where
  rawHeader := lastOf WireFlowRecord.packet? rs
  extSwitch := lastOf WireFlowRecord.switch? rs
  extRouter := lastOf WireFlowRecord.router? rs

/-- What `ExtSwitchData.unmarshal` makes of a switch record. -/
def ExtSwitchData.reread (d : ExtSwitchData) : ExtSwitchData :=
  { d with srcPriority := d.dstPriority, dstPriority := 0 }

theorem ExtSwitchData.reread_eq_iff (d : ExtSwitchData) : d.reread = d ↔ d.srcPriority = 0 ∧ d.dstPriority = 0 := by
  obtain ⟨srcVlan, srcPriority, dstVlan, dstPriority⟩ := d
  simp only [reread, ExtSwitchData.mk.injEq, true_and]
  constructor
  · rintro ⟨rfl, rfl⟩
    exact ⟨rfl, rfl⟩
  · rintro ⟨rfl, rfl⟩
    exact ⟨rfl, rfl⟩

/-- The records of a sample as the loop leaves them. -/
def FlowRecords.reread (m : FlowRecords) : FlowRecords := { m with extSwitch := m.extSwitch.map ExtSwitchData.reread }

theorem reread_lastRecords_concat (rs : List WireFlowRecord) {r : WireFlowRecord} {x : FlowRecord}
    (hx : r.read = some x) : (lastRecords (rs ++ [r])).reread = (lastRecords rs).reread.add x := by
  unfold lastRecords
  simp only [lastOf_concat]
  match r, hx with
  | .rawHeader protocol frameLength stripped header padding, hx =>
    unfold WireFlowRecord.read at hx
    dsimp only at hx
    split_ifs at hx
    cases hp : decodeHeader header protocol with
    | error f => simp [hp] at hx
    | ok p =>
      rw [hp, Option.some.injEq] at hx
      rw [← hx]
      simp [WireFlowRecord.packet?, WireFlowRecord.switch?, WireFlowRecord.router?, hp, Except.toOption,
        FlowRecords.reread, FlowRecords.add]
  | .extSwitch srcVlan srcPriority dstVlan dstPriority, hx =>
    rw [← Option.some.inj hx]
    rfl
  | .extRouter addressType nextHop srcMask dstMask, hx =>
    rw [← Option.some.inj hx]
    rfl
  | .unknown format content, hx =>
    rw [← Option.some.inj hx]
    rfl

theorem foldl_flowRecords {rs : List WireFlowRecord} (hread : ∀ r ∈ rs, r.read.isSome) :
    (rs.filterMap WireFlowRecord.read).foldl FlowRecords.add {} = (lastRecords rs).reread := by
  induction rs using List.reverseRecOn with
  | nil => rfl
  | append_singleton rs r ih =>
    rw [List.forall_mem_append, List.forall_mem_singleton] at hread
    obtain ⟨x, hx⟩ := Option.isSome_iff_exists.mp hread.2
    rw [List.filterMap_append, List.foldl_append, ih hread.1, reread_lastRecords_concat rs hx]
    simp [hx]

theorem parses_decodeFlowSample {s : WireFlowSample} (hno : s.records.length < 2 ^ 32) (hok : ∀ r ∈ s.records, r.Ok)
    (hread : ∀ r ∈ s.records, r.read.isSome) :
    Parses decodeFlowSample s.body { s.head with records := (lastRecords s.records).reread } := by
  have hdecode := SampleDecoder.parses_decode (d := flowDecoder) (parses_flowSample s)
    (by rw [List.length_map]; exact toNat_ofNat_of_lt hno) (parses_flowRecords hok hread)
  rw [← List.flatMap_def] at hdecode
  rw [← foldl_flowRecords hread]
  exact hdecode

theorem FlowRecords.reread_eq_iff (m : FlowRecords) :
    m.reread = m ↔ ∀ d ∈ m.extSwitch, d.srcPriority = 0 ∧ d.dstPriority = 0 := by
  obtain ⟨rawHeader, extSwitch, extRouter⟩ := m
  cases extSwitch with
  | none => simp [reread]
  | some d => simp [reread, ExtSwitchData.reread_eq_iff]

/-- A flow sample is returned with its header and the last record of each kind, and nothing after it is
read, exactly when the last switch record, if there is one, has no priorities. -/
theorem decodeFlowSample_roundTrip_iff (s : WireFlowSample) (hno : s.records.length < 2 ^ 32)
    (hok : ∀ r ∈ s.records, r.Ok) (hread : ∀ r ∈ s.records, r.read.isSome) (rest : List UInt8) (n : Nat) :
    decodeFlowSample ⟨s.body ++ rest, n⟩ =
      .ok {
        sequenceNo := s.sequenceNo
        sourceID := s.sourceIDType
        samplingRate := s.samplingRate
        samplePool := s.samplePool
        drops := s.drops
        input := s.input
        output := s.output
        recordsNo := UInt32.ofNat s.records.length
        records := lastRecords s.records } ⟨rest, n + s.body.length⟩ ↔
      ∀ d ∈ lastOf WireFlowRecord.switch? s.records, d.srcPriority = 0 ∧ d.dstPriority = 0 := by
  rw [parses_decodeFlowSample hno hok hread rest n]
  have hswitch := FlowRecords.reread_eq_iff (lastRecords s.records)
  unfold WireFlowSample.head
  simp only [EStateM.Result.ok.injEq, FlowSample.mk.injEq, true_and, and_true]
  exact hswitch

def pingHeader : List UInt8 :=
  [0x45, 0, 0, 28, 0, 0, 0, 0, 64, 1, 0, 0, 192, 0, 2, 1, 192, 0, 2, 2, 8, 0, 0, 0, 0, 1, 0]

/-- A sampled header, two switch records of which only the first has priorities, a record of an unknown format and
a router record. -/
def pingSample : WireFlowSample where
  sequenceNo := 1
  sourceIDType := 0
  sourceIDIdx := 9
  samplingRate := 512
  samplePool := 1024
  drops := 0
  input := 3
  output := 4
  records := [.rawHeader Packet.headerProtocolIPv4 42 0 pingHeader [0], .extSwitch 10 5 20 6, .unknown 1003 [1, 2],
    .extSwitch 10 0 20 0, .extRouter 1 [192, 0, 2, 254] 24 16]

theorem decodeFlowSample_roundTrip_iff_ping :
    decodeFlowSample ⟨pingSample.body ++ [0xff], 0⟩ =
      .ok {
        sequenceNo := 1
        sourceID := 0
        samplingRate := 512
        samplePool := 1024
        drops := 0
        input := 3
        output := 4
        recordsNo := 5
        records := lastRecords pingSample.records } ⟨[0xff], 0 + pingSample.body.length⟩ := by
  have hok : ∀ r ∈ pingSample.records, r.Ok := by
    simp only [pingSample, List.forall_mem_cons, List.not_mem_nil, false_imp_iff, implies_true, and_true]
    decide
  have hread : ∀ r ∈ pingSample.records, r.read.isSome := by
    simp only [pingSample, List.forall_mem_cons, List.not_mem_nil, false_imp_iff, implies_true, and_true]
    decide +kernel
  exact (decodeFlowSample_roundTrip_iff pingSample (by decide) hok hread [0xff] 0).mpr (by decide)

def prioritySample : WireFlowSample where
  sequenceNo := 1
  sourceIDType := 0
  sourceIDIdx := 9
  samplingRate := 512
  samplePool := 1024
  drops := 0
  input := 3
  output := 4
  records := [.extSwitch 10 5 20 6]

/-- The record comes back with the source priority `6` and the destination priority `0`. -/
theorem decodeFlowSample_priority :
    (∀ r ∈ prioritySample.records, r.Ok ∧ r.read.isSome) ∧
    (lastRecords prioritySample.records).extSwitch =
      some { srcVlan := 10, srcPriority := 5, dstVlan := 20, dstPriority := 6 } ∧
    ∃ s r, decodeFlowSample ⟨prioritySample.body, 0⟩ = .ok s r ∧
      s.records.extSwitch = some { srcVlan := 10, srcPriority := 6, dstVlan := 20, dstPriority := 0 } := by
  refine ⟨List.forall_mem_singleton.mpr (by decide), rfl, _, _, rfl, rfl⟩

end VFlow.Sflow
