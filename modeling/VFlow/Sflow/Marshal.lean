import VFlow.Base.JsonPrint
import VFlow.Sflow.Decoder

/-!
# The JSON texts of sFlow datagrams

The worker marshals a datagram with `encoding/json`: the exported fields of a struct in their order, the entries of a
map sorted by their keys, `nil` as `null`, bytes in base64. The only values that can fail are addresses: `net.IP` writes
itself, and refuses to if it has another length than 0, 4 or 16. The agent address has one of these lengths. The next
hop of a router record has the length that the exporter declares, and one such record makes the worker drop the whole
datagram (`jsonMarshal_decoded`).
-/

namespace VFlow

open Json (text)

def numbersJson (ms : List (String × Nat)) : Json := .struct (ms.map fun m => (m.1, .int m.2))

/-- `net.IP.MarshalText`. -/
def IP.json (ip : IP) : Option Json :=
  if ip.length = 0 then some (.str [])
  else if ip.length ≠ 4 ∧ ip.length ≠ 16 then none
  else some (.str (text ip.string))

/-! ## Sampled packets -/

def Datalink.json (l : Datalink) : Json := .struct [
  ("SrcMAC", .str (text l.srcMAC)), ("DstMAC", .str (text l.dstMAC)), ("Vlan", .int l.vlan),
  ("EtherType", .int l.etherType.toNat)]

def NetworkHeader.json : NetworkHeader → Json
  | ipv4 h => .struct [
    ("Version", .int h.version), ("TOS", .int h.tos), ("TotalLen", .int h.totalLen), ("ID", .int h.id),
    ("Flags", .int h.flags), ("FragOff", .int h.fragOff), ("TTL", .int h.ttl), ("Protocol", .int h.protocol),
    ("Checksum", .int h.checksum), ("Src", .str (text h.src)), ("Dst", .str (text h.dst))]
  | ipv6 h => .struct [
    ("Version", .int h.version), ("TrafficClass", .int h.trafficClass), ("FlowLabel", .int h.flowLabel),
    ("PayloadLen", .int h.payloadLen), ("NextHeader", .int h.nextHeader), ("HopLimit", .int h.hopLimit),
    ("Src", .str (text h.src)), ("Dst", .str (text h.dst))]

def TransportHeader.json : TransportHeader → Json
  | icmp h => .struct [("Type", .int h.type), ("Code", .int h.code), ("RestHeader", .str (Json.base64 h.restHeader))]
  | tcp h => numbersJson [
    ("SrcPort", h.srcPort), ("DstPort", h.dstPort), ("DataOffset", h.dataOffset), ("Reserved", h.reserved),
    ("Flags", h.flags)]
  | udp h => numbersJson [("SrcPort", h.srcPort), ("DstPort", h.dstPort)]

/-- The field `data` is not exported. -/
def Packet.json (p : Packet) : Json := .struct [
  ("L2", p.l2.json), ("L3", (p.l3.map NetworkHeader.json).getD .null),
  ("L4", (p.l4.map TransportHeader.json).getD .null)]

namespace Sflow

/-! ## Records -/

def ExtSwitchData.json (d : ExtSwitchData) : Json := numbersJson [
  ("SrcVlan", d.srcVlan.toNat), ("SrcPriority", d.srcPriority.toNat), ("DstVlan", d.dstVlan.toNat),
  ("DstPriority", d.dstPriority.toNat)]

def ExtRouterData.json (d : ExtRouterData) : Option Json :=
  d.nextHop.json.map fun nextHop => .struct [
    ("NextHop", nextHop), ("SrcMask", .int d.srcMask.toNat), ("DstMask", .int d.dstMask.toNat)]

def GenericInterfaceCounters.json (d : GenericInterfaceCounters) : Json := numbersJson [
  ("Index", d.index.toNat), ("Type", d.type.toNat), ("Speed", d.speed.toNat), ("Direction", d.direction.toNat),
  ("Status", d.status.toNat), ("InOctets", d.inOctets.toNat), ("InUnicastPackets", d.inUnicastPackets.toNat),
  ("InMulticastPackets", d.inMulticastPackets.toNat), ("InBroadcastPackets", d.inBroadcastPackets.toNat),
  ("InDiscards", d.inDiscards.toNat), ("InErrors", d.inErrors.toNat),
  ("InUnknownProtocols", d.inUnknownProtocols.toNat), ("OutOctets", d.outOctets.toNat),
  ("OutUnicastPackets", d.outUnicastPackets.toNat), ("OutMulticastPackets", d.outMulticastPackets.toNat),
  ("OutBroadcastPackets", d.outBroadcastPackets.toNat), ("OutDiscards", d.outDiscards.toNat),
  ("OutErrors", d.outErrors.toNat), ("PromiscuousMode", d.promiscuousMode.toNat)]

def EthernetInterfaceCounters.json (d : EthernetInterfaceCounters) : Json := numbersJson [
  ("AlignmentErrors", d.alignmentErrors.toNat), ("FCSErrors", d.fcsErrors.toNat),
  ("SingleCollisionFrames", d.singleCollisionFrames.toNat),
  ("MultipleCollisionFrames", d.multipleCollisionFrames.toNat), ("SQETestErrors", d.sqeTestErrors.toNat),
  ("DeferredTransmissions", d.deferredTransmissions.toNat), ("LateCollisions", d.lateCollisions.toNat),
  ("ExcessiveCollisions", d.excessiveCollisions.toNat),
  ("InternalMACTransmitErrors", d.internalMACTransmitErrors.toNat),
  ("CarrierSenseErrors", d.carrierSenseErrors.toNat), ("FrameTooLongs", d.frameTooLongs.toNat),
  ("InternalMACReceiveErrors", d.internalMACReceiveErrors.toNat), ("SymbolErrors", d.symbolErrors.toNat)]

def TokenRingCounters.json (d : TokenRingCounters) : Json := numbersJson [
  ("LineErrors", d.lineErrors.toNat), ("BurstErrors", d.burstErrors.toNat), ("ACErrors", d.acErrors.toNat),
  ("AbortTransErrors", d.abortTransErrors.toNat), ("InternalErrors", d.internalErrors.toNat),
  ("LostFrameErrors", d.lostFrameErrors.toNat), ("ReceiveCongestions", d.receiveCongestions.toNat),
  ("FrameCopiedErrors", d.frameCopiedErrors.toNat), ("TokenErrors", d.tokenErrors.toNat),
  ("SoftErrors", d.softErrors.toNat), ("HardErrors", d.hardErrors.toNat), ("SignalLoss", d.signalLoss.toNat),
  ("TransmitBeacons", d.transmitBeacons.toNat), ("Recoverys", d.recoverys.toNat), ("LobeWires", d.lobeWires.toNat),
  ("Removes", d.removes.toNat), ("Singles", d.singles.toNat), ("FreqErrors", d.freqErrors.toNat)]

def VGCounters.json (d : VGCounters) : Json := numbersJson [
  ("InHighPriorityFrames", d.inHighPriorityFrames.toNat), ("InHighPriorityOctets", d.inHighPriorityOctets.toNat),
  ("InNormPriorityFrames", d.inNormPriorityFrames.toNat), ("InNormPriorityOctets", d.inNormPriorityOctets.toNat),
  ("InIPMErrors", d.inIPMErrors.toNat), ("InOversizeFrameErrors", d.inOversizeFrameErrors.toNat),
  ("InDataErrors", d.inDataErrors.toNat), ("InNullAddressedFrames", d.inNullAddressedFrames.toNat),
  ("OutHighPriorityFrames", d.outHighPriorityFrames.toNat), ("OutHighPriorityOctets", d.outHighPriorityOctets.toNat),
  ("TransitionIntoTrainings", d.transitionIntoTrainings.toNat),
  ("HCInHighPriorityOctets", d.hcInHighPriorityOctets.toNat),
  ("HCInNormPriorityOctets", d.hcInNormPriorityOctets.toNat),
  ("HCOutHighPriorityOctets", d.hcOutHighPriorityOctets.toNat)]

def VlanCounters.json (d : VlanCounters) : Json := numbersJson [
  ("ID", d.id.toNat), ("Octets", d.octets.toNat), ("UnicastPackets", d.unicastPackets.toNat),
  ("MulticastPackets", d.multicastPackets.toNat), ("BroadcastPackets", d.broadcastPackets.toNat),
  ("Discards", d.discards.toNat)]

def ProcessorCounters.json (d : ProcessorCounters) : Json := numbersJson [
  ("CPU5s", d.cpu5s.toNat), ("CPU1m", d.cpu1m.toNat), ("CPU5m", d.cpu5m.toNat), ("TotalMemory", d.totalMemory.toNat),
  ("FreeMemory", d.freeMemory.toNat)]

/-- The entry of a map with this key, if there is one. -/
def entry {α : Type} (key : String) (json : α → Json) (x : Option α) : List (String × Json) :=
  (x.map fun a => (key, json a)).toList

def FlowRecords.json (m : FlowRecords) : Option Json :=
  (m.extRouter.mapM ExtRouterData.json).map fun extRouter => .struct
    (entry "ExtRouter" id extRouter ++ entry "ExtSwitch" ExtSwitchData.json m.extSwitch ++
      entry "RawHeader" Packet.json m.rawHeader)

def CounterRecords.json (m : CounterRecords) : Json := .struct
  (entry "EthInt" EthernetInterfaceCounters.json m.ethInt ++ entry "GenInt" GenericInterfaceCounters.json m.genInt ++
    entry "Proc" ProcessorCounters.json m.proc ++ entry "TRInt" TokenRingCounters.json m.trInt ++
    entry "VGInt" VGCounters.json m.vgInt ++ entry "Vlan" VlanCounters.json m.vlan)

/-! ## Datagrams -/

def FlowSample.json (s : FlowSample) : Option Json :=
  s.records.json.map fun records => .struct [
    ("SequenceNo", .int s.sequenceNo.toNat), ("SourceID", .int s.sourceID.toNat),
    ("SamplingRate", .int s.samplingRate.toNat), ("SamplePool", .int s.samplePool.toNat), ("Drops", .int s.drops.toNat),
    ("Input", .int s.input.toNat), ("Output", .int s.output.toNat), ("RecordsNo", .int s.recordsNo.toNat),
    ("Records", records)]

def ExpandedFlowSample.json (s : ExpandedFlowSample) : Option Json :=
  s.records.json.map fun records => .struct [
    ("SequenceNo", .int s.sequenceNo.toNat), ("SourceID", .int s.sourceID.toNat),
    ("SamplingRate", .int s.samplingRate.toNat), ("SamplePool", .int s.samplePool.toNat), ("Drops", .int s.drops.toNat),
    ("InputFormat", .int s.inputFormat.toNat), ("Input", .int s.input.toNat),
    ("OutputFormat", .int s.outputFormat.toNat), ("Output", .int s.output.toNat),
    ("RecordsNo", .int s.recordsNo.toNat), ("Records", records)]

def Sample.json : Sample → Option Json
  | flow s => s.json
  | expanded s => s.json

def CounterSample.json (s : CounterSample) : Json := .struct [
  ("SequenceNo", .int s.sequenceNo.toNat), ("SourceIDType", .int s.sourceIDType.toNat),
  ("SourceIDIdx", .int s.sourceIDIdx.toNat), ("RecordsNo", .int s.recordsNo.toNat), ("Records", s.records.json)]

def SFDatagram.json (d : SFDatagram) : Option Json := do
  let samples ← d.samples.mapM Sample.json
  let ipAddress ← d.ipAddress.json
  return .struct [
    ("Version", .int d.version.toNat), ("IPVersion", .int d.ipVersion.toNat), ("AgentSubID", .int d.agentSubID.toNat),
    ("SequenceNo", .int d.sequenceNo.toNat), ("SysUpTime", .int d.sysUpTime.toNat),
    ("SamplesNo", .int d.samplesNo.toNat), ("Samples", .arr samples),
    ("Counters", .arr (d.counters.map CounterSample.json)), ("IPAddress", ipAddress), ("ColTime", .int d.colTime)]

def SFDatagram.jsonMarshal (d : SFDatagram) : Option (List UInt8) := d.json.map Json.print

end Sflow

/-! ## Every string is UTF-8 -/

theorem utf8_numbersJson (ms : List (String × Nat)) : (numbersJson ms).Utf8 := by
  refine Json.utf8_struct.mpr fun m hm => ?_
  obtain ⟨x, -, rfl⟩ := List.mem_map.mp hm
  exact Json.utf8_int _

theorem IP.utf8_json {ip : IP} {j : Json} (h : ip.json = some j) : j.Utf8 := by
  unfold IP.json at h
  split_ifs at h
  · cases h
    exact .str rfl
  · cases h
    exact Json.utf8_text _

theorem NetworkHeader.utf8_json (h : NetworkHeader) : h.json.Utf8 := by
  cases h <;> simp [NetworkHeader.json]

theorem TransportHeader.utf8_json (h : TransportHeader) : h.json.Utf8 := by
  cases h <;> simp [TransportHeader.json, utf8_numbersJson]

theorem Packet.utf8_json (p : Packet) : p.json.Utf8 := by
  obtain ⟨l2, l3, l4, data⟩ := p
  cases l3 <;> cases l4 <;> simp [Packet.json, Datalink.json, NetworkHeader.utf8_json, TransportHeader.utf8_json]

namespace Sflow

open Scan

theorem utf8_entry {α : Type} {key : String} {json : α → Json} {x : Option α} (h : ∀ a ∈ x, (json a).Utf8) :
    ∀ m ∈ entry key json x, m.2.Utf8 := by
  cases x with
  | none => simp [entry]
  | some a => simpa [entry] using h a rfl

theorem CounterSample.utf8_json (s : CounterSample) : s.json.Utf8 := by
  have hentry : ∀ {α : Type} {key : String} (json : α → List (String × Nat)) (x : Option α),
      ∀ m ∈ entry key (fun a => numbersJson (json a)) x, m.2.Utf8 :=
    fun json x => utf8_entry fun a _ => utf8_numbersJson (json a)
  have hrecords : s.records.json.Utf8 := by
    simp only [CounterRecords.json, Json.utf8_struct, List.mem_append]
    rintro m (((((h | h) | h) | h) | h) | h)
    all_goals exact hentry _ _ m h
  simp [CounterSample.json, hrecords]

theorem ExtRouterData.utf8_json {d : ExtRouterData} {j : Json} (h : d.json = some j) : j.Utf8 := by
  obtain ⟨nextHop, hhop, rfl⟩ := Option.map_eq_some_iff.mp h
  simp [IP.utf8_json hhop]

theorem FlowRecords.utf8_json {m : FlowRecords} {j : Json} (h : m.json = some j) : j.Utf8 := by
  obtain ⟨extRouter, hrouter, rfl⟩ := Option.map_eq_some_iff.mp h
  simp only [Json.utf8_struct, List.mem_append]
  rintro e ((he | he) | he)
  · refine utf8_entry (fun a ha => ?_) e he
    cases hr : m.extRouter with
    | none =>
      rw [hr] at hrouter
      cases hrouter
      cases ha
    | some d =>
      rw [hr] at hrouter
      obtain ⟨r, hr', hj⟩ := Option.map_eq_some_iff.mp hrouter
      cases hj
      cases ha
      exact ExtRouterData.utf8_json hr'
  · exact utf8_entry (fun a _ => utf8_numbersJson _) e he
  · exact utf8_entry (fun a _ => a.utf8_json) e he

theorem Sample.utf8_json {s : Sample} {j : Json} (h : s.json = some j) : j.Utf8 := by
  cases s with
  | flow s =>
    obtain ⟨records, hrecords, rfl⟩ := Option.map_eq_some_iff.mp h
    simp [FlowRecords.utf8_json hrecords]
  | expanded s =>
    obtain ⟨records, hrecords, rfl⟩ := Option.map_eq_some_iff.mp h
    simp [FlowRecords.utf8_json hrecords]

theorem exists_of_mem_mapM {α β : Type} {f : α → Option β} {xs : List α} {ys : List β} (h : xs.mapM f = some ys)
    {y : β} (hy : y ∈ ys) : ∃ x ∈ xs, f x = some y := by
  induction xs generalizing ys with
  | nil =>
    cases h
    cases hy
  | cons x xs ih =>
    obtain ⟨z, zs, hz, hzs, rfl⟩ := Json.mapM_cons_eq_some h
    rcases List.mem_cons.mp hy with rfl | hy
    · exact ⟨x, by simp, hz⟩
    · obtain ⟨x', hx', hfx⟩ := ih hzs hy
      exact ⟨x', by simp [hx'], hfx⟩

theorem mapM_eq_none {α β : Type} {f : α → Option β} {xs : List α} : xs.mapM f = none ↔ ∃ x ∈ xs, f x = none := by
  induction xs with
  | nil => simp
  | cons x xs ih =>
    rw [List.mapM_cons, List.exists_mem_cons_iff, ← ih]
    cases f x with
    | none => simp
    | some y => cases xs.mapM f <;> simp

theorem SFDatagram.utf8_json {d : SFDatagram} {j : Json} (h : d.json = some j) : j.Utf8 := by
  simp only [SFDatagram.json, Option.bind_eq_bind, Option.bind_eq_some_iff, Option.pure_def] at h
  obtain ⟨samples, hsamples, ipAddress, hip, h⟩ := h
  cases h
  simp only [Json.utf8_struct, List.forall_mem_cons, Json.utf8_int, Json.utf8_arr, IP.utf8_json hip, true_and]
  refine ⟨fun j hj => ?_, fun j hj => ?_, by simp⟩
  · obtain ⟨s, -, hs⟩ := exists_of_mem_mapM hsamples hj
    exact Sample.utf8_json hs
  · obtain ⟨s, -, rfl⟩ := List.mem_map.mp hj
    exact s.utf8_json

theorem SFDatagram.parse_jsonMarshal {d : SFDatagram} {w : List UInt8} (h : d.jsonMarshal = some w) :
    Json.parse w = d.json := by
  obtain ⟨j, hj, rfl⟩ := Option.map_eq_some_iff.mp h
  rw [hj, Json.parse_print (SFDatagram.utf8_json hj)]

/-! ## What is not marshalled -/

def Sample.records : Sample → FlowRecords
  | flow s => s.records
  | expanded s => s.records

/-- A router record whose next hop is no address. -/
def Sample.OddHop (s : Sample) : Prop := ∃ r ∈ s.records.extRouter, r.nextHop.length ∉ [0, 4, 16]

theorem IP.json_eq_none {ip : IP} : ip.json = none ↔ ip.length ∉ [0, 4, 16] := by
  unfold IP.json
  split_ifs with h0 h
  · simp [h0]
  · simp [h0, h]
  · have hlen : ip.length = 4 ∨ ip.length = 16 := by omega
    simp only [false_iff, not_not]
    rcases hlen with h | h <;> simp [h]

theorem FlowRecords.json_eq_none {m : FlowRecords} :
    m.json = none ↔ ∃ r ∈ m.extRouter, r.nextHop.length ∉ [0, 4, 16] := by
  unfold FlowRecords.json
  cases m.extRouter with
  | none => simp
  | some r =>
    have hjson : r.json = none ↔ r.nextHop.length ∉ [0, 4, 16] := by
      rw [← IP.json_eq_none, ExtRouterData.json, Option.map_eq_none_iff]
    simp [hjson]

theorem Sample.json_eq_none {s : Sample} : s.json = none ↔ s.OddHop := by
  cases s with
  | flow s => exact Option.map_eq_none_iff.trans FlowRecords.json_eq_none
  | expanded s => exact Option.map_eq_none_iff.trans FlowRecords.json_eq_none

theorem rawRead_length {n : Nat} {r r' : Reader} {x : List UInt8} (h : rawRead n r = .ok x r') : x.length = n := by
  rw [(rawRead_eq_ok h).1, List.length_append, List.length_take, List.length_replicate, Cursor.len]
  omega

theorem sfHeaderDecode_ipAddress {now : Int} {r r' : Reader} {d : SFDatagram} (h : sfHeaderDecode now r = .ok d r') :
    d.ipAddress.length = 4 ∨ d.ipAddress.length = 16 := by
  unfold sfHeaderDecode at h
  obtain ⟨version, r₁, -, h⟩ := bind_eq_ok.mp h
  split_ifs at h with hv
  · cases h
  · obtain ⟨ipVersion, _, -, h⟩ := bind_eq_ok.mp h
    obtain ⟨ipAddress, _, haddress, h⟩ := bind_eq_ok.mp h
    obtain ⟨_, _, -, h⟩ := bind_eq_ok.mp h
    obtain ⟨_, _, -, h⟩ := bind_eq_ok.mp h
    obtain ⟨_, _, -, h⟩ := bind_eq_ok.mp h
    obtain ⟨_, _, -, h⟩ := bind_eq_ok.mp h
    rw [pure_apply, EStateM.Result.ok.injEq] at h
    rw [← h.1]
    have hlen := rawRead_length haddress
    split_ifs at hlen
    · exact Or.inr hlen
    · exact Or.inl hlen

theorem foldl_append_ipAddress (items : List Item) (d : SFDatagram) :
    (items.foldl SFDatagram.append d).ipAddress = d.ipAddress := by
  induction items generalizing d with
  | nil => rfl
  | cons x items ih =>
    rw [List.foldl_cons, ih]
    cases x <;> rfl

theorem sfDecode_ipAddress {filter : List UInt32} {now : Int} {b : List UInt8} {d : SFDatagram}
    (h : sfDecode filter now b = .returned (some d) none) : d.ipAddress.length = 4 ∨ d.ipAddress.length = 16 := by
  unfold sfDecode at h
  cases hh : sfHeaderDecode now ⟨b, 0⟩ with
  | error f r =>
    rw [hh] at h
    cases f <;> cases h
  | ok d₀ r =>
    simp only [hh] at h
    split at h
    case h_1 =>
      cases h
      rw [foldl_append_ipAddress]
      exact sfHeaderDecode_ipAddress hh
    case h_2 f _ _ => cases f <;> cases h
    case h_3 f _ _ => cases f <;> cases h

/-- **A datagram that was decoded is published as JSON, unless a next hop is no address.** -/
theorem jsonMarshal_decoded {filter : List UInt32} {now : Int} {b : List UInt8} {d : SFDatagram}
    (h : sfDecode filter now b = .returned (some d) none) :
    (d.jsonMarshal = none ↔ ∃ s ∈ d.samples, s.OddHop) ∧
      ∀ w, d.jsonMarshal = some w → Json.parse w = d.json := by
  refine ⟨?_, fun w hw => SFDatagram.parse_jsonMarshal hw⟩
  have hip : d.ipAddress.json ≠ none := by
    rw [Ne, IP.json_eq_none, not_not]
    rcases sfDecode_ipAddress h with hlen | hlen <;> simp [hlen]
  obtain ⟨j, hj⟩ := Option.ne_none_iff_exists'.mp hip
  rw [SFDatagram.jsonMarshal, Option.map_eq_none_iff, SFDatagram.json, hj]
  calc _ ↔ d.samples.mapM Sample.json = none := by cases d.samples.mapM Sample.json <;> simp
    _ ↔ ∃ s ∈ d.samples, s.json = none := mapM_eq_none
    _ ↔ ∃ s ∈ d.samples, s.OddHop := by simp only [Sample.json_eq_none]

def oddHopDatagram : List UInt8 :=
  ([5, 1, 0xc0000201, 0, 1, 1000, 1] ++ [1, 64] ++ [1, 1, 512, 1000, 0, 1, 2, 1] ++
    [1002, 24, 1, 0xc0000201, 0, 0, 24, 24] : List UInt32).flatMap BigEndian.putUint32

theorem jsonMarshal_oddHopDatagram :
    ∃ d, sfDecode [] 0 oddHopDatagram = .returned (some d) none ∧ d.jsonMarshal = none ∧
      ∃ s ∈ d.samples, s.OddHop := by
  obtain ⟨d, hd, hnone⟩ : ∃ d, sfDecode [] 0 oddHopDatagram = .returned (some d) none ∧ d.jsonMarshal = none :=
    ⟨_, rfl, rfl⟩
  exact ⟨d, hd, hnone, (jsonMarshal_decoded hd).1.mp hnone⟩

end Sflow

end VFlow
