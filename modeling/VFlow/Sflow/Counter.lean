import VFlow.Sflow.Records

/-!
# Counter samples

`flow_counter.go`. Every known record is a list of 32-bit and 64-bit counters.
-/

namespace VFlow.Sflow

open Scan

/-! ## Records -/

structure GenericInterfaceCounters where
  index : UInt32
  type : UInt32
  speed : UInt64
  direction : UInt32
  status : UInt32
  inOctets : UInt64
  inUnicastPackets : UInt32
  inMulticastPackets : UInt32
  inBroadcastPackets : UInt32
  inDiscards : UInt32
  inErrors : UInt32
  inUnknownProtocols : UInt32
  outOctets : UInt64
  outUnicastPackets : UInt32
  outMulticastPackets : UInt32
  outBroadcastPackets : UInt32
  outDiscards : UInt32
  outErrors : UInt32
  promiscuousMode : UInt32
  deriving DecidableEq, Repr

structure EthernetInterfaceCounters where
  alignmentErrors : UInt32
  fcsErrors : UInt32
  singleCollisionFrames : UInt32
  multipleCollisionFrames : UInt32
  sqeTestErrors : UInt32
  deferredTransmissions : UInt32
  lateCollisions : UInt32
  excessiveCollisions : UInt32
  internalMACTransmitErrors : UInt32
  carrierSenseErrors : UInt32
  frameTooLongs : UInt32
  internalMACReceiveErrors : UInt32
  symbolErrors : UInt32
  deriving DecidableEq, Repr

structure TokenRingCounters where
  lineErrors : UInt32
  burstErrors : UInt32
  acErrors : UInt32
  abortTransErrors : UInt32
  internalErrors : UInt32
  lostFrameErrors : UInt32
  receiveCongestions : UInt32
  frameCopiedErrors : UInt32
  tokenErrors : UInt32
  softErrors : UInt32
  hardErrors : UInt32
  signalLoss : UInt32
  transmitBeacons : UInt32
  recoverys : UInt32
  lobeWires : UInt32
  removes : UInt32
  singles : UInt32
  freqErrors : UInt32
  deriving DecidableEq, Repr

structure VGCounters where
  inHighPriorityFrames : UInt32
  inHighPriorityOctets : UInt64
  inNormPriorityFrames : UInt32
  inNormPriorityOctets : UInt64
  inIPMErrors : UInt32
  inOversizeFrameErrors : UInt32
  inDataErrors : UInt32
  inNullAddressedFrames : UInt32
  outHighPriorityFrames : UInt32
  outHighPriorityOctets : UInt64
  transitionIntoTrainings : UInt32
  hcInHighPriorityOctets : UInt64
  hcInNormPriorityOctets : UInt64
  hcOutHighPriorityOctets : UInt64
  deriving DecidableEq, Repr

structure VlanCounters where
  id : UInt32
  octets : UInt64
  unicastPackets : UInt32
  multicastPackets : UInt32
  broadcastPackets : UInt32
  discards : UInt32
  deriving DecidableEq, Repr

structure ProcessorCounters where
  cpu5s : UInt32
  cpu1m : UInt32
  cpu5m : UInt32
  totalMemory : UInt64
  freeMemory : UInt64
  deriving DecidableEq, Repr

def GenericInterfaceCounters.unmarshal : ReadM GenericInterfaceCounters := do
  let index ← uint32
  let type ← uint32
  let speed ← uint64
  let direction ← uint32
  let status ← uint32
  let inOctets ← uint64
  let inUnicastPackets ← uint32
  let inMulticastPackets ← uint32
  let inBroadcastPackets ← uint32
  let inDiscards ← uint32
  let inErrors ← uint32
  let inUnknownProtocols ← uint32
  let outOctets ← uint64
  let outUnicastPackets ← uint32
  let outMulticastPackets ← uint32
  let outBroadcastPackets ← uint32
  let outDiscards ← uint32
  let outErrors ← uint32
  let promiscuousMode ← uint32
  return {
    index, type, speed, direction, status, inOctets, inUnicastPackets, inMulticastPackets, inBroadcastPackets,
    inDiscards, inErrors, inUnknownProtocols, outOctets, outUnicastPackets, outMulticastPackets,
    outBroadcastPackets, outDiscards, outErrors, promiscuousMode }

def EthernetInterfaceCounters.unmarshal : ReadM EthernetInterfaceCounters := do
  let alignmentErrors ← uint32
  let fcsErrors ← uint32
  let singleCollisionFrames ← uint32
  let multipleCollisionFrames ← uint32
  let sqeTestErrors ← uint32
  let deferredTransmissions ← uint32
  let lateCollisions ← uint32
  let excessiveCollisions ← uint32
  let internalMACTransmitErrors ← uint32
  let carrierSenseErrors ← uint32
  let frameTooLongs ← uint32
  let internalMACReceiveErrors ← uint32
  let symbolErrors ← uint32
  return {
    alignmentErrors, fcsErrors, singleCollisionFrames, multipleCollisionFrames, sqeTestErrors,
    deferredTransmissions, lateCollisions, excessiveCollisions, internalMACTransmitErrors, carrierSenseErrors,
    frameTooLongs, internalMACReceiveErrors, symbolErrors }

def TokenRingCounters.unmarshal : ReadM TokenRingCounters := do
  let lineErrors ← uint32
  let burstErrors ← uint32
  let acErrors ← uint32
  let abortTransErrors ← uint32
  let internalErrors ← uint32
  let lostFrameErrors ← uint32
  let receiveCongestions ← uint32
  let frameCopiedErrors ← uint32
  let tokenErrors ← uint32
  let softErrors ← uint32
  let hardErrors ← uint32
  let signalLoss ← uint32
  let transmitBeacons ← uint32
  let recoverys ← uint32
  let lobeWires ← uint32
  let removes ← uint32
  let singles ← uint32
  let freqErrors ← uint32
  return {
    lineErrors, burstErrors, acErrors, abortTransErrors, internalErrors, lostFrameErrors, receiveCongestions,
    frameCopiedErrors, tokenErrors, softErrors, hardErrors, signalLoss, transmitBeacons, recoverys, lobeWires,
    removes, singles, freqErrors }

def VGCounters.unmarshal : ReadM VGCounters := do
  let inHighPriorityFrames ← uint32
  let inHighPriorityOctets ← uint64
  let inNormPriorityFrames ← uint32
  let inNormPriorityOctets ← uint64
  let inIPMErrors ← uint32
  let inOversizeFrameErrors ← uint32
  let inDataErrors ← uint32
  let inNullAddressedFrames ← uint32
  let outHighPriorityFrames ← uint32
  let outHighPriorityOctets ← uint64
  let transitionIntoTrainings ← uint32
  let hcInHighPriorityOctets ← uint64
  let hcInNormPriorityOctets ← uint64
  let hcOutHighPriorityOctets ← uint64
  return {
    inHighPriorityFrames, inHighPriorityOctets, inNormPriorityFrames, inNormPriorityOctets, inIPMErrors,
    inOversizeFrameErrors, inDataErrors, inNullAddressedFrames, outHighPriorityFrames, outHighPriorityOctets,
    transitionIntoTrainings, hcInHighPriorityOctets, hcInNormPriorityOctets, hcOutHighPriorityOctets }

def VlanCounters.unmarshal : ReadM VlanCounters := do
  let id ← uint32
  let octets ← uint64
  let unicastPackets ← uint32
  let multicastPackets ← uint32
  let broadcastPackets ← uint32
  let discards ← uint32
  return { id, octets, unicastPackets, multicastPackets, broadcastPackets, discards }

def ProcessorCounters.unmarshal : ReadM ProcessorCounters := do
  let cpu5s ← uint32
  let cpu1m ← uint32
  let cpu5m ← uint32
  let totalMemory ← uint64
  let freeMemory ← uint64
  return { cpu5s, cpu1m, cpu5m, totalMemory, freeMemory }

def sfGenericInterfaceCounters : UInt32 := 1
def sfEthernetInterfaceCounters : UInt32 := 2
def sfTokenRingInterfaceCounters : UInt32 := 3
def sf100BaseVGInterfaceCounters : UInt32 := 4
def sfVLANCounters : UInt32 := 5
def sfProcessorCounters : UInt32 := 1001

/-- What a pass of the record loop puts into the map of records. -/
inductive CounterRecord where
  | genInt (d : GenericInterfaceCounters)
  | ethInt (d : EthernetInterfaceCounters)
  | trInt (d : TokenRingCounters)
  | vgInt (d : VGCounters)
  | vlan (d : VlanCounters)
  | proc (d : ProcessorCounters)
  | skipped
  deriving DecidableEq, Repr

def counterRecord (rTypeFormat rTypeLength : UInt32) : ReadM CounterRecord :=
  if rTypeFormat = sfGenericInterfaceCounters then do
    let d ← GenericInterfaceCounters.unmarshal
    return .genInt d
  else if rTypeFormat = sfEthernetInterfaceCounters then do
    let d ← EthernetInterfaceCounters.unmarshal
    return .ethInt d
  else if rTypeFormat = sfTokenRingInterfaceCounters then do
    let d ← TokenRingCounters.unmarshal
    return .trInt d
  else if rTypeFormat = sf100BaseVGInterfaceCounters then do
    let d ← VGCounters.unmarshal
    return .vgInt d
  else if rTypeFormat = sfVLANCounters then do
    let d ← VlanCounters.unmarshal
    return .vlan d
  else if rTypeFormat = sfProcessorCounters then do
    let d ← ProcessorCounters.unmarshal
    return .proc d
  else do
    seek rTypeLength.toNat
    return .skipped

/-- The map `Records`, by its keys `GenInt`, `EthInt`, `TRInt`, `VGInt`, `Vlan` and `Proc`. -/
structure CounterRecords where
  genInt : Option GenericInterfaceCounters := none
  ethInt : Option EthernetInterfaceCounters := none
  trInt : Option TokenRingCounters := none
  vgInt : Option VGCounters := none
  vlan : Option VlanCounters := none
  proc : Option ProcessorCounters := none
  deriving DecidableEq, Repr

def CounterRecords.add (m : CounterRecords) : CounterRecord → CounterRecords
  | .genInt d => { m with genInt := some d }
  | .ethInt d => { m with ethInt := some d }
  | .trInt d => { m with trInt := some d }
  | .vgInt d => { m with vgInt := some d }
  | .vlan d => { m with vlan := some d }
  | .proc d => { m with proc := some d }
  | .skipped => m

/-! ## Samples -/

structure CounterSample where
  sequenceNo : UInt32
  sourceIDType : UInt8
  sourceIDIdx : UInt32
  recordsNo : UInt32
  records : CounterRecords := {}
  deriving DecidableEq, Repr

def CounterSample.unmarshal : ReadM CounterSample := do
  let sequenceNo ← uint32
  let sourceIDType ← uint8
  let buf ← binaryRead 3
  let sourceIDIdx := (buf.getD 2 0).toUInt32 ||| (buf.getD 1 0).toUInt32 <<< 8 ||| (buf.getD 0 0).toUInt32 <<< 16
  let recordsNo ← uint32
  return { sequenceNo, sourceIDType, sourceIDIdx, recordsNo }

def counterDecoder : SampleDecoder CounterSample CounterRecord CounterSample where
  unmarshal := CounterSample.unmarshal
  recordsNo := CounterSample.recordsNo
  record := counterRecord
  sample cs records := { cs with records := records.foldl CounterRecords.add {} }

def decodeFlowCounter : Scan (Stop CounterSample) UInt8 CounterSample := counterDecoder.decode

/-! ## What the functions take -/

theorem takes_genericInterfaceCounters : Takes Returned GenericInterfaceCounters.unmarshal 88 :=
  takes_uint32.bind fun _ => takes_uint32.bind fun _ => takes_uint64.bind fun _ => takes_uint32.bind fun _ =>
  takes_uint32.bind fun _ => takes_uint64.bind fun _ => takes_uint32.bind fun _ => takes_uint32.bind fun _ =>
  takes_uint32.bind fun _ => takes_uint32.bind fun _ => takes_uint32.bind fun _ => takes_uint32.bind fun _ =>
  takes_uint64.bind fun _ => takes_uint32.bind fun _ => takes_uint32.bind fun _ => takes_uint32.bind fun _ =>
  takes_uint32.bind fun _ => takes_uint32.bind fun _ => takes_uint32.bind fun _ => Takes.pure _

theorem takes_ethernetInterfaceCounters : Takes Returned EthernetInterfaceCounters.unmarshal 52 :=
  takes_uint32.bind fun _ => takes_uint32.bind fun _ => takes_uint32.bind fun _ => takes_uint32.bind fun _ =>
  takes_uint32.bind fun _ => takes_uint32.bind fun _ => takes_uint32.bind fun _ => takes_uint32.bind fun _ =>
  takes_uint32.bind fun _ => takes_uint32.bind fun _ => takes_uint32.bind fun _ => takes_uint32.bind fun _ =>
  takes_uint32.bind fun _ => Takes.pure _

theorem takes_tokenRingCounters : Takes Returned TokenRingCounters.unmarshal 72 :=
  takes_uint32.bind fun _ => takes_uint32.bind fun _ => takes_uint32.bind fun _ => takes_uint32.bind fun _ =>
  takes_uint32.bind fun _ => takes_uint32.bind fun _ => takes_uint32.bind fun _ => takes_uint32.bind fun _ =>
  takes_uint32.bind fun _ => takes_uint32.bind fun _ => takes_uint32.bind fun _ => takes_uint32.bind fun _ =>
  takes_uint32.bind fun _ => takes_uint32.bind fun _ => takes_uint32.bind fun _ => takes_uint32.bind fun _ =>
  takes_uint32.bind fun _ => takes_uint32.bind fun _ => Takes.pure _

theorem takes_vgCounters : Takes Returned VGCounters.unmarshal 80 :=
  takes_uint32.bind fun _ => takes_uint64.bind fun _ => takes_uint32.bind fun _ => takes_uint64.bind fun _ =>
  takes_uint32.bind fun _ => takes_uint32.bind fun _ => takes_uint32.bind fun _ => takes_uint32.bind fun _ =>
  takes_uint32.bind fun _ => takes_uint64.bind fun _ => takes_uint32.bind fun _ => takes_uint64.bind fun _ =>
  takes_uint64.bind fun _ => takes_uint64.bind fun _ => Takes.pure _

theorem takes_vlanCounters : Takes Returned VlanCounters.unmarshal 28 :=
  takes_uint32.bind fun _ => takes_uint64.bind fun _ => takes_uint32.bind fun _ => takes_uint32.bind fun _ =>
  takes_uint32.bind fun _ => takes_uint32.bind fun _ => Takes.pure _

theorem takes_processorCounters : Takes Returned ProcessorCounters.unmarshal 28 :=
  takes_uint32.bind fun _ => takes_uint32.bind fun _ => takes_uint32.bind fun _ => takes_uint64.bind fun _ =>
  takes_uint64.bind fun _ => Takes.pure _

theorem takes_counterSample : Takes Returned CounterSample.unmarshal 12 :=
  takes_uint32.bind fun _ => takes_uint8.bind fun _ => (takes_binaryRead 3).bind fun _ =>
    takes_uint32.bind fun _ => Takes.pure _

theorem onward_counterRecord (format length : UInt32) : Onward (counterRecord format length) := by
  unfold counterRecord
  split_ifs
  · exact takes_genericInterfaceCounters.onward.bind fun _ => (Forward.pure _).onward
  · exact takes_ethernetInterfaceCounters.onward.bind fun _ => (Forward.pure _).onward
  · exact takes_tokenRingCounters.onward.bind fun _ => (Forward.pure _).onward
  · exact takes_vgCounters.onward.bind fun _ => (Forward.pure _).onward
  · exact takes_vlanCounters.onward.bind fun _ => (Forward.pure _).onward
  · exact takes_processorCounters.onward.bind fun _ => (Forward.pure _).onward
  · exact (skips_seek _).onward.bind fun _ => (Forward.pure _).onward

end VFlow.Sflow
