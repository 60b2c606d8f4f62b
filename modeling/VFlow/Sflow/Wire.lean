import VFlow.Sflow.Decoder

/-!
# sFlow datagrams on the wire

What an agent sends, and its bytes: flow and counter records, samples, datagrams. Samples and records are
units: a format, the length of a body, and the body.
-/

namespace VFlow.Sflow

open BigEndian

/-- A format, the length of a body, and the body. -/
def unit (format : UInt32) (body : List UInt8) : List UInt8 :=
  (putUint32 format ++ putUint32 (UInt32.ofNat body.length)) ++ body

theorem length_unit (format : UInt32) (body : List UInt8) : (unit format body).length = 8 + body.length := by
  simp only [unit, List.length_append, length_putUint32]

theorem toNat_ofNat_of_lt {n : Nat} (h : n < 2 ^ 32) : (UInt32.ofNat n).toNat = n := by
  rw [UInt32.toNat_ofNat', Nat.mod_eq_of_lt h]

/-! ## Flow records -/

/-- A flow record as it is sent. A sampled header is followed by as many bytes as bring its length to a multiple
of four. The next hop of a router is an address with its type. -/
inductive WireFlowRecord where
  | rawHeader (protocol frameLength stripped : UInt32) (header padding : List UInt8)
  | extSwitch (srcVlan srcPriority dstVlan dstPriority : UInt32)
  | extRouter (addressType : UInt32) (nextHop : IP) (srcMask dstMask : UInt32)
  | unknown (format : UInt32) (content : List UInt8)
  deriving DecidableEq, Repr

namespace WireFlowRecord

def format : WireFlowRecord → UInt32
  | rawHeader .. => sfDataRawHeader
  | extSwitch .. => sfDataExtSwitch
  | extRouter .. => sfDataExtRouter
  | unknown format _ => format

def body : WireFlowRecord → List UInt8
  | rawHeader protocol frameLength stripped header padding =>
    (putUint32 protocol ++ putUint32 frameLength ++ putUint32 stripped ++
      putUint32 (UInt32.ofNat header.length)) ++ (header ++ padding)
  | extSwitch srcVlan srcPriority dstVlan dstPriority =>
    putUint32 srcVlan ++ putUint32 srcPriority ++ putUint32 dstVlan ++ putUint32 dstPriority
  | extRouter addressType nextHop srcMask dstMask =>
    putUint32 addressType ++ nextHop ++ putUint32 srcMask ++ putUint32 dstMask
  | unknown _ content => content

def encode (r : WireFlowRecord) : List UInt8 := unit r.format r.body

/-- The padding is right, an unknown format is none of the known ones, and the length is one of 32 bits. -/
def Ok (r : WireFlowRecord) : Prop :=
  r.body.length < 2 ^ 32 ∧
    match r with
    | rawHeader _ _ _ header padding => header.length + padding.length = (header.length + 3) / 4 * 4
    | unknown format _ => format ≠ sfDataRawHeader ∧ format ≠ sfDataExtSwitch ∧ format ≠ sfDataExtRouter
    | _ => True

instance : (r : WireFlowRecord) → Decidable r.Ok
  | rawHeader .. => inferInstanceAs (Decidable (_ < _ ∧ _ = _))
  | extSwitch .. => inferInstanceAs (Decidable (_ < _ ∧ True))
  | extRouter .. => inferInstanceAs (Decidable (_ < _ ∧ True))
  | unknown .. => inferInstanceAs (Decidable (_ < _ ∧ _ ≠ _ ∧ _ ≠ _ ∧ _ ≠ _))

end WireFlowRecord

/-! ## Counter records -/

def GenericInterfaceCounters.encode (d : GenericInterfaceCounters) : List UInt8 :=
  putUint32 d.index ++ putUint32 d.type ++ putUint64 d.speed ++ putUint32 d.direction ++ putUint32 d.status ++
    putUint64 d.inOctets ++ putUint32 d.inUnicastPackets ++ putUint32 d.inMulticastPackets ++
    putUint32 d.inBroadcastPackets ++ putUint32 d.inDiscards ++ putUint32 d.inErrors ++
    putUint32 d.inUnknownProtocols ++ putUint64 d.outOctets ++ putUint32 d.outUnicastPackets ++
    putUint32 d.outMulticastPackets ++ putUint32 d.outBroadcastPackets ++ putUint32 d.outDiscards ++
    putUint32 d.outErrors ++ putUint32 d.promiscuousMode

def EthernetInterfaceCounters.encode (d : EthernetInterfaceCounters) : List UInt8 :=
  putUint32 d.alignmentErrors ++ putUint32 d.fcsErrors ++ putUint32 d.singleCollisionFrames ++
    putUint32 d.multipleCollisionFrames ++ putUint32 d.sqeTestErrors ++ putUint32 d.deferredTransmissions ++
    putUint32 d.lateCollisions ++ putUint32 d.excessiveCollisions ++ putUint32 d.internalMACTransmitErrors ++
    putUint32 d.carrierSenseErrors ++ putUint32 d.frameTooLongs ++ putUint32 d.internalMACReceiveErrors ++
    putUint32 d.symbolErrors

def TokenRingCounters.encode (d : TokenRingCounters) : List UInt8 :=
  putUint32 d.lineErrors ++ putUint32 d.burstErrors ++ putUint32 d.acErrors ++ putUint32 d.abortTransErrors ++
    putUint32 d.internalErrors ++ putUint32 d.lostFrameErrors ++ putUint32 d.receiveCongestions ++
    putUint32 d.frameCopiedErrors ++ putUint32 d.tokenErrors ++ putUint32 d.softErrors ++
    putUint32 d.hardErrors ++ putUint32 d.signalLoss ++ putUint32 d.transmitBeacons ++ putUint32 d.recoverys ++
    putUint32 d.lobeWires ++ putUint32 d.removes ++ putUint32 d.singles ++ putUint32 d.freqErrors

def VGCounters.encode (d : VGCounters) : List UInt8 :=
  putUint32 d.inHighPriorityFrames ++ putUint64 d.inHighPriorityOctets ++ putUint32 d.inNormPriorityFrames ++
    putUint64 d.inNormPriorityOctets ++ putUint32 d.inIPMErrors ++ putUint32 d.inOversizeFrameErrors ++
    putUint32 d.inDataErrors ++ putUint32 d.inNullAddressedFrames ++ putUint32 d.outHighPriorityFrames ++
    putUint64 d.outHighPriorityOctets ++ putUint32 d.transitionIntoTrainings ++
    putUint64 d.hcInHighPriorityOctets ++ putUint64 d.hcInNormPriorityOctets ++
    putUint64 d.hcOutHighPriorityOctets

def VlanCounters.encode (d : VlanCounters) : List UInt8 :=
  putUint32 d.id ++ putUint64 d.octets ++ putUint32 d.unicastPackets ++ putUint32 d.multicastPackets ++
    putUint32 d.broadcastPackets ++ putUint32 d.discards

def ProcessorCounters.encode (d : ProcessorCounters) : List UInt8 :=
  putUint32 d.cpu5s ++ putUint32 d.cpu1m ++ putUint32 d.cpu5m ++ putUint64 d.totalMemory ++ putUint64 d.freeMemory

theorem GenericInterfaceCounters.length_encode (d : GenericInterfaceCounters) : d.encode.length = 88 := by
  unfold encode
  simp only [List.length_append, length_putUint32, length_putUint64]

theorem EthernetInterfaceCounters.length_encode (d : EthernetInterfaceCounters) : d.encode.length = 52 := by
  unfold encode
  simp only [List.length_append, length_putUint32]

theorem TokenRingCounters.length_encode (d : TokenRingCounters) : d.encode.length = 72 := by
  unfold encode
  simp only [List.length_append, length_putUint32]

theorem VGCounters.length_encode (d : VGCounters) : d.encode.length = 80 := by
  unfold encode
  simp only [List.length_append, length_putUint32, length_putUint64]

theorem VlanCounters.length_encode (d : VlanCounters) : d.encode.length = 28 := by
  unfold encode
  simp only [List.length_append, length_putUint32, length_putUint64]

theorem ProcessorCounters.length_encode (d : ProcessorCounters) : d.encode.length = 28 := by
  unfold encode
  simp only [List.length_append, length_putUint32, length_putUint64]

inductive WireCounterRecord where
  | genInt (d : GenericInterfaceCounters)
  | ethInt (d : EthernetInterfaceCounters)
  | trInt (d : TokenRingCounters)
  | vgInt (d : VGCounters)
  | vlan (d : VlanCounters)
  | proc (d : ProcessorCounters)
  | unknown (format : UInt32) (content : List UInt8)
  deriving DecidableEq, Repr

namespace WireCounterRecord

def format : WireCounterRecord → UInt32
  | genInt _ => sfGenericInterfaceCounters
  | ethInt _ => sfEthernetInterfaceCounters
  | trInt _ => sfTokenRingInterfaceCounters
  | vgInt _ => sf100BaseVGInterfaceCounters
  | vlan _ => sfVLANCounters
  | proc _ => sfProcessorCounters
  | unknown format _ => format

def body : WireCounterRecord → List UInt8
  | genInt d => d.encode
  | ethInt d => d.encode
  | trInt d => d.encode
  | vgInt d => d.encode
  | vlan d => d.encode
  | proc d => d.encode
  | unknown _ content => content

def encode (r : WireCounterRecord) : List UInt8 := unit r.format r.body

/-- An unknown format is none of the known ones, and its length is one of 32 bits. -/
def Ok : WireCounterRecord → Prop
  | unknown format content => content.length < 2 ^ 32 ∧
    format ∉ [sfGenericInterfaceCounters, sfEthernetInterfaceCounters, sfTokenRingInterfaceCounters,
      sf100BaseVGInterfaceCounters, sfVLANCounters, sfProcessorCounters]
  | _ => True

instance : (r : WireCounterRecord) → Decidable r.Ok
  | unknown .. => inferInstanceAs (Decidable (_ < _ ∧ _ ∉ _))
  | genInt _ | ethInt _ | trInt _ | vgInt _ | vlan _ | proc _ => .isTrue trivial

end WireCounterRecord

/-! ## Samples -/

/-- A type of one byte and an index of three. -/
def encodeSource (type : UInt8) (idx : UInt32) : List UInt8 :=
  [type] ++ [(idx >>> 16).toUInt8, (idx >>> 8).toUInt8, idx.toUInt8]

theorem source_index {idx : UInt32} (h : idx < 16777216) :
    idx.toUInt8.toUInt32 ||| (idx >>> 8).toUInt8.toUInt32 <<< 8 ||| (idx >>> 16).toUInt8.toUInt32 <<< 16 = idx := by
  have hlt : idx.toNat < 16777216 := UInt32.lt_iff_toNat_lt.mp h
  have h8 : (8 : UInt32).toNat % 32 = 8 := rfl
  have h16 : (16 : UInt32).toNat % 32 = 16 := rfl
  apply UInt32.toNat_inj.mp
  simp only [UInt32.toNat_or, UInt32.toNat_shiftLeft, UInt8.toNat_toUInt32, UInt32.toNat_toUInt8,
    UInt32.toNat_shiftRight, h8, h16, Nat.shiftRight_eq_div_pow]
  have hmid : (idx.toNat / 2 ^ 8 % 2 ^ 8) <<< 8 % 2 ^ 32 = (idx.toNat / 2 ^ 8 % 2 ^ 8) <<< 8 := by
    rw [Nat.shiftLeft_eq]
    omega
  have hhigh : (idx.toNat / 2 ^ 16 % 2 ^ 8) <<< 16 % 2 ^ 32 = (idx.toNat / 2 ^ 16 % 2 ^ 8) <<< 16 := by
    rw [Nat.shiftLeft_eq]
    omega
  rw [hmid, hhigh, or_shiftLeft (idx.toNat / 2 ^ 8 % 2 ^ 8) _ 8 (by omega), or_shiftLeft _ _ 16 (by omega)]
  omega

structure WireFlowSample where
  sequenceNo : UInt32
  sourceIDType : UInt8
  sourceIDIdx : UInt32
  samplingRate : UInt32
  samplePool : UInt32
  drops : UInt32
  input : UInt32
  output : UInt32
  records : List WireFlowRecord
  deriving DecidableEq, Repr

structure WireCounterSample where
  sequenceNo : UInt32
  sourceIDType : UInt8
  sourceIDIdx : UInt32
  records : List WireCounterRecord
  deriving DecidableEq, Repr

def WireFlowSample.fields (s : WireFlowSample) : List UInt8 :=
  putUint32 s.sequenceNo ++ (encodeSource s.sourceIDType s.sourceIDIdx ++ (putUint32 s.samplingRate ++
    (putUint32 s.samplePool ++ (putUint32 s.drops ++ (putUint32 s.input ++ (putUint32 s.output ++
      putUint32 (UInt32.ofNat s.records.length)))))))

def WireFlowSample.body (s : WireFlowSample) : List UInt8 := s.fields ++ s.records.flatMap WireFlowRecord.encode

def WireCounterSample.fields (s : WireCounterSample) : List UInt8 :=
  putUint32 s.sequenceNo ++ (encodeSource s.sourceIDType s.sourceIDIdx ++
    putUint32 (UInt32.ofNat s.records.length))

def WireCounterSample.body (s : WireCounterSample) : List UInt8 :=
  s.fields ++ s.records.flatMap WireCounterRecord.encode

/-- An expanded flow sample in the layout that the decoder reads, with the data source in one word. -/
structure WireExpandedFlowSample where
  sequenceNo : UInt32
  sourceIDType : UInt8
  sourceIDIdx : UInt32
  samplingRate : UInt32
  samplePool : UInt32
  drops : UInt32
  inputFormat : UInt32
  input : UInt32
  outputFormat : UInt32
  output : UInt32
  records : List WireFlowRecord
  deriving DecidableEq, Repr

def WireExpandedFlowSample.fields (s : WireExpandedFlowSample) : List UInt8 :=
  putUint32 s.sequenceNo ++ (encodeSource s.sourceIDType s.sourceIDIdx ++ (putUint32 s.samplingRate ++
    (putUint32 s.samplePool ++ (putUint32 s.drops ++ (putUint32 s.inputFormat ++ (putUint32 s.input ++
      (putUint32 s.outputFormat ++ (putUint32 s.output ++ putUint32 (UInt32.ofNat s.records.length)))))))))

def WireExpandedFlowSample.body (s : WireExpandedFlowSample) : List UInt8 :=
  s.fields ++ s.records.flatMap WireFlowRecord.encode

/-- A sample as it is sent. The type of another sample is an enterprise and a format, and none of the types that
the decoder knows. -/
inductive WireSample where
  | flow (s : WireFlowSample)
  | counter (s : WireCounterSample)
  | other (type : UInt32) (content : List UInt8)
  deriving DecidableEq, Repr

namespace WireSample

def type : WireSample → UInt32
  | flow _ => dataFlowSample
  | counter _ => dataCounterSample
  | other type _ => type

def body : WireSample → List UInt8
  | flow s => s.body
  | counter s => s.body
  | other _ content => content

def encode (s : WireSample) : List UInt8 := unit s.type s.body

/-- The records are right, the index of the source is one of 24 bits, and the length and the number of records are
of 32 bits. -/
def Ok (s : WireSample) : Prop :=
  s.body.length < 2 ^ 32 ∧
    match s with
    | flow s => s.sourceIDIdx < 16777216 ∧ s.records.length < 2 ^ 32 ∧ ∀ r ∈ s.records, r.Ok
    | counter s => s.sourceIDIdx < 16777216 ∧ s.records.length < 2 ^ 32 ∧ ∀ r ∈ s.records, r.Ok
    | other type _ => type ≠ dataFlowSample ∧ type ≠ dataCounterSample ∧ type ≠ dataExpandedFlowSample

instance : (s : WireSample) → Decidable s.Ok
  | flow s =>
    have : Decidable (∀ r ∈ s.records, r.Ok) := List.decidableBAll _ s.records
    inferInstanceAs (Decidable (_ < _ ∧ _ < _ ∧ _ < _ ∧ ∀ r ∈ s.records, r.Ok))
  | counter s =>
    have : Decidable (∀ r ∈ s.records, r.Ok) := List.decidableBAll _ s.records
    inferInstanceAs (Decidable (_ < _ ∧ _ < _ ∧ _ < _ ∧ ∀ r ∈ s.records, r.Ok))
  | other .. => inferInstanceAs (Decidable (_ < _ ∧ _ ≠ _ ∧ _ ≠ _ ∧ _ ≠ _))

end WireSample

/-! ## Datagrams -/

/-- The fields of the header of a datagram, save the number of samples. -/
structure WireHeader where
  ipVersion : UInt32
  ipAddress : IP
  agentSubID : UInt32
  sequenceNo : UInt32
  sysUpTime : UInt32
  deriving DecidableEq, Repr

/-- The address is one of four bytes, or of sixteen for version two. -/
def WireHeader.Ok (h : WireHeader) : Prop := h.ipAddress.length = if h.ipVersion = 2 then 16 else 4

def agentHeader : WireHeader where
  ipVersion := 1
  ipAddress := [192, 0, 2, 1]
  agentSubID := 0
  sequenceNo := 1
  sysUpTime := 1000

theorem agentHeader_ok : agentHeader.Ok := rfl

def WireHeader.encode (h : WireHeader) (n : Nat) : List UInt8 :=
  putUint32 5 ++ (putUint32 h.ipVersion ++ (h.ipAddress ++ (putUint32 h.agentSubID ++ (putUint32 h.sequenceNo ++
    (putUint32 h.sysUpTime ++ putUint32 (UInt32.ofNat n))))))

def datagramBytes (h : WireHeader) (samples : List (List UInt8)) : List UInt8 :=
  h.encode samples.length ++ samples.flatten

structure WireDatagram where
  header : WireHeader
  samples : List WireSample
  header_ok : header.Ok
  samples_ok : ∀ s ∈ samples, s.Ok
  samples_lt : samples.length < 2 ^ 32

def WireDatagram.encode (d : WireDatagram) : List UInt8 := datagramBytes d.header (d.samples.map WireSample.encode)

theorem WireDatagram.encode_eq (d : WireDatagram) :
    d.encode = d.header.encode d.samples.length ++ d.samples.flatMap WireSample.encode := by
  unfold WireDatagram.encode datagramBytes
  rw [List.length_map, List.flatMap_def]

end VFlow.Sflow
