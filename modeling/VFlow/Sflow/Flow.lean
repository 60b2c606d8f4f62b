import VFlow.Sflow.Records

/-!
# Flow samples

`flow_sample.go` and `expanded_flow_sample.go`. Known records are read field by field and their declared
length is not looked at, save for the extended router record, where it gives the size of the address.
-/

namespace VFlow.Sflow

open Scan

/-! ## Records -/

structure SampledHeader where
  protocol : UInt32
  frameLength : UInt32
  stripped : UInt32
  headerLength : UInt32
  header : List UInt8
  deriving DecidableEq, Repr

structure ExtSwitchData where
  srcVlan : UInt32
  srcPriority : UInt32
  dstVlan : UInt32
  dstPriority : UInt32
  deriving DecidableEq, Repr

structure ExtRouterData where
  nextHop : IP
  srcMask : UInt32
  dstMask : UInt32
  deriving DecidableEq, Repr

/-- The size of the buffer for a sampled header, whose length is rounded up to a multiple of four. -/
def SampledHeader.bufferSize (headerLength : UInt32) : UInt32 :=
  headerLength + (4 - headerLength) % 4

def SampledHeader.unmarshal : ReadM SampledHeader := do
  let protocol ← uint32
  let frameLength ← uint32
  let stripped ← uint32
  let headerLength ← uint32
  if headerLength > 1500 then throw (.err .errMaxOutEthernetLength)
  else
    let buffer ← rawRead (SampledHeader.bufferSize headerLength).toNat
    let header ← sliceTo buffer headerLength.toNat
    return { protocol, frameLength, stripped, headerLength, header }

/-- The last word is read into `SrcPriority` again, and `DstPriority` is never set. -/
def ExtSwitchData.unmarshal : ReadM ExtSwitchData := do
  let srcVlan ← uint32
  let _srcPriority ← uint32
  let dstVlan ← uint32
  let srcPriority ← uint32
  return { srcVlan, srcPriority, dstVlan, dstPriority := 0 }

/-- The size of the buffer for the address of a router record of a declared length. -/
def ExtRouterData.bufferSize (l : UInt32) : UInt32 := l - 8

def ExtRouterData.unmarshal (l : UInt32) : ReadM ExtRouterData := do
  let buff ← binaryRead (ExtRouterData.bufferSize l).toNat
  let nextHop ← sliceFrom buff 4
  let srcMask ← uint32
  let dstMask ← uint32
  return { nextHop, srcMask, dstMask }

def decodeHeader (header : List UInt8) (protocol : UInt32) : Except Failure Packet :=
  match Packet.decoder header protocol with
  | .ok _ p => .ok p
  | .error (.err e) _ => .error (.err (.packet e))
  | .error .indexOutOfRange _ => .error (.panic .packet)

def decodeSampledHeader : ReadM Packet := do
  let h ← SampledHeader.unmarshal
  match decodeHeader h.header h.protocol with
  | .ok p => return p
  | .error f => throw f

def sfDataRawHeader : UInt32 := 1
def sfDataExtSwitch : UInt32 := 1001
def sfDataExtRouter : UInt32 := 1002

/-- What a pass of the record loop puts into the map of records. -/
inductive FlowRecord where
  | rawHeader (d : Packet)
  | extSwitch (d : ExtSwitchData)
  | extRouter (d : ExtRouterData)
  | skipped
  deriving DecidableEq, Repr

def flowRecord (rTypeFormat rTypeLength : UInt32) : ReadM FlowRecord :=
  if rTypeFormat = sfDataRawHeader then do
    let d ← decodeSampledHeader
    return .rawHeader d
  else if rTypeFormat = sfDataExtSwitch then do
    let d ← ExtSwitchData.unmarshal
    return .extSwitch d
  else if rTypeFormat = sfDataExtRouter then do
    let d ← ExtRouterData.unmarshal rTypeLength
    return .extRouter d
  else do
    seek rTypeLength.toNat
    return .skipped

/-- The map `Records`, by its keys `RawHeader`, `ExtSwitch` and `ExtRouter`. -/
structure FlowRecords where
  rawHeader : Option Packet := none
  extSwitch : Option ExtSwitchData := none
  extRouter : Option ExtRouterData := none
  deriving DecidableEq, Repr

def FlowRecords.add (m : FlowRecords) : FlowRecord → FlowRecords
  | .rawHeader d => { m with rawHeader := some d }
  | .extSwitch d => { m with extSwitch := some d }
  | .extRouter d => { m with extRouter := some d }
  | .skipped => m

/-! ## Samples -/

structure FlowSample where
  sequenceNo : UInt32
  sourceID : UInt8
  samplingRate : UInt32
  samplePool : UInt32
  drops : UInt32
  input : UInt32
  output : UInt32
  recordsNo : UInt32
  records : FlowRecords := {}
  deriving DecidableEq, Repr

def FlowSample.unmarshal : ReadM FlowSample := do
  let sequenceNo ← uint32
  let sourceID ← uint8
  seek 3
  let samplingRate ← uint32
  let samplePool ← uint32
  let drops ← uint32
  let input ← uint32
  let output ← uint32
  let recordsNo ← uint32
  return { sequenceNo, sourceID, samplingRate, samplePool, drops, input, output, recordsNo }

def flowDecoder : SampleDecoder FlowSample FlowRecord FlowSample where
  unmarshal := FlowSample.unmarshal
  recordsNo := FlowSample.recordsNo
  record := flowRecord
  sample fs records := { fs with records := records.foldl FlowRecords.add {} }

def decodeFlowSample : Scan (Stop FlowSample) UInt8 FlowSample := flowDecoder.decode

structure ExpandedFlowSample where
  sequenceNo : UInt32
  sourceID : UInt8
  samplingRate : UInt32
  samplePool : UInt32
  drops : UInt32
  inputFormat : UInt32
  input : UInt32
  outputFormat : UInt32
  output : UInt32
  recordsNo : UInt32
  records : FlowRecords := {}
  deriving DecidableEq, Repr

/-- The data source is read as in a flow sample, from four bytes. -/
def ExpandedFlowSample.unmarshal : ReadM ExpandedFlowSample := do
  let sequenceNo ← uint32
  let sourceID ← uint8
  seek 3
  let samplingRate ← uint32
  let samplePool ← uint32
  let drops ← uint32
  let inputFormat ← uint32
  let input ← uint32
  let outputFormat ← uint32
  let output ← uint32
  let recordsNo ← uint32
  return {
    sequenceNo, sourceID, samplingRate, samplePool, drops, inputFormat, input, outputFormat, output, recordsNo }

def expandedDecoder : SampleDecoder ExpandedFlowSample FlowRecord ExpandedFlowSample where
  unmarshal := ExpandedFlowSample.unmarshal
  recordsNo := ExpandedFlowSample.recordsNo
  record := flowRecord
  sample efs records := { efs with records := records.foldl FlowRecords.add {} }

def decodeExpandedFlowSample : Scan (Stop ExpandedFlowSample) UInt8 ExpandedFlowSample := expandedDecoder.decode

/-! ## What the functions take -/

theorem takes_flowSample : Takes Returned FlowSample.unmarshal 32 :=
  takes_uint32.bind fun _ => takes_uint8.bind fun _ => (skips_seek 3).bind_takes
    (fun _ => takes_uint32.bind fun _ => takes_uint32.bind fun _ => takes_uint32.bind fun _ =>
      takes_uint32.bind fun _ => takes_uint32.bind fun _ => takes_uint32.bind fun _ => Takes.pure _)
    (by decide)

theorem takes_expandedFlowSample : Takes Returned ExpandedFlowSample.unmarshal 40 :=
  takes_uint32.bind fun _ => takes_uint8.bind fun _ => (skips_seek 3).bind_takes
    (fun _ => takes_uint32.bind fun _ => takes_uint32.bind fun _ => takes_uint32.bind fun _ =>
      takes_uint32.bind fun _ => takes_uint32.bind fun _ => takes_uint32.bind fun _ =>
      takes_uint32.bind fun _ => takes_uint32.bind fun _ => Takes.pure _)
    (by decide)

theorem takes_extSwitchData : Takes Returned ExtSwitchData.unmarshal 16 :=
  takes_uint32.bind fun _ => takes_uint32.bind fun _ => takes_uint32.bind fun _ => takes_uint32.bind fun _ =>
    Takes.pure _

theorem onward_sampledHeader : Onward SampledHeader.unmarshal := by
  unfold SampledHeader.unmarshal
  refine takes_uint32.onward.bind fun _ => takes_uint32.onward.bind fun _ => takes_uint32.onward.bind fun _ =>
    takes_uint32.onward.bind fun headerLength => ?_
  split_ifs
  · exact (Forward.throw _).onward
  · exact (onward_rawRead _).bind fun _ => (onward_sliceTo _ _).bind fun _ => (Forward.pure _).onward

theorem onward_decodeSampledHeader : Onward decodeSampledHeader := by
  refine onward_sampledHeader.bind fun h => ?_
  cases decodeHeader h.header h.protocol with
  | ok p => exact (Forward.pure p).onward
  | error f => exact (Forward.throw f).onward

theorem onward_extRouterData (l : UInt32) : Onward (ExtRouterData.unmarshal l) :=
  (takes_binaryRead _).onward.bind fun _ => (onward_sliceFrom _ _).bind fun _ => takes_uint32.onward.bind fun _ =>
    takes_uint32.onward.bind fun _ => (Forward.pure _).onward

theorem onward_flowRecord (format length : UInt32) : Onward (flowRecord format length) := by
  unfold flowRecord
  split_ifs
  · exact onward_decodeSampledHeader.bind fun _ => (Forward.pure _).onward
  · exact takes_extSwitchData.onward.bind fun _ => (Forward.pure _).onward
  · exact (onward_extRouterData length).bind fun _ => (Forward.pure _).onward
  · exact (skips_seek _).onward.bind fun _ => (Forward.pure _).onward

/-! ## Sampled headers -/

theorem bufferSize_toNat {headerLength : UInt32} (h : headerLength ≤ 1500) :
    (SampledHeader.bufferSize headerLength).toNat = (headerLength.toNat + 3) / 4 * 4 := by
  have hle : headerLength.toNat ≤ 1500 := UInt32.le_iff_toNat_le.mp h
  have hmod : ((4 - headerLength) % 4).toNat = (4 + (4294967296 - headerLength.toNat)) % 4 := by
    rw [UInt32.toNat_mod, UInt32.toNat_sub]
    show (4294967296 - headerLength.toNat + 4) % 4294967296 % 4 = _
    omega
  unfold SampledHeader.bufferSize
  rw [UInt32.toNat_add, hmod]
  omega

theorem le_bufferSize {headerLength : UInt32} (h : headerLength ≤ 1500) :
    headerLength.toNat ≤ (SampledHeader.bufferSize headerLength).toNat := by
  rw [bufferSize_toNat h]
  omega

theorem sampledHeader_of_le {r : Reader} (h : 16 ≤ r.len) :
    SampledHeader.unmarshal r =
      (if BigEndian.uint32 (r.data.drop 12) > 1500 then throw (.err .errMaxOutEthernetLength)
      else do
        let buffer ← rawRead (SampledHeader.bufferSize (BigEndian.uint32 (r.data.drop 12))).toNat
        let header ← sliceTo buffer (BigEndian.uint32 (r.data.drop 12)).toNat
        return {
          protocol := BigEndian.uint32 r.data
          frameLength := BigEndian.uint32 (r.data.drop 4)
          stripped := BigEndian.uint32 (r.data.drop 8)
          headerLength := BigEndian.uint32 (r.data.drop 12)
          header } : ReadM SampledHeader) (r.advance 16) := by
  unfold SampledHeader.unmarshal
  rw [bind_uint32_of_le (by omega), bind_uint32_at (by omega), bind_uint32_at (by omega), bind_uint32_at (by omega)]

/-- The first bytes of a header, followed by zeros up to its length. -/
def completed (headerLength : Nat) (w : List UInt8) : List UInt8 :=
  (w ++ List.replicate headerLength 0).take headerLength

theorem take_take_append_replicate (w : List UInt8) {k n : Nat} (h : k ≤ n) :
    (w.take n ++ List.replicate (n - w.length) 0).take k = completed k w := by
  unfold completed
  by_cases hk : k ≤ w.length
  · rw [List.take_append_of_le_length (by rw [List.length_take]; omega), List.take_take, Nat.min_eq_left h,
      List.take_append_of_le_length hk]
  · -- the input ends within the first `k` bytes, and zeros follow in either list
    have hmin : min (k - w.length) (n - w.length) = min (k - w.length) k := by omega
    rw [List.take_of_length_le (show w.length ≤ n by omega), List.take_append, List.take_append, List.take_replicate,
      List.take_replicate, hmin]

theorem decodeSampledHeader_of_lt {r : Reader} (h : 16 < r.len) (hlong : BigEndian.uint32 (r.data.drop 12) ≤ 1500) :
    decodeSampledHeader r =
      match decodeHeader (completed (BigEndian.uint32 (r.data.drop 12)).toNat (r.data.drop 16))
          (BigEndian.uint32 r.data) with
      | .ok p => .ok p (r.advance
          (16 + min (((BigEndian.uint32 (r.data.drop 12)).toNat + 3) / 4 * 4) (r.len - 16)))
      | .error f => .error f (r.advance
          (16 + min (((BigEndian.uint32 (r.data.drop 12)).toNat + 3) / 4 * 4) (r.len - 16))) := by
  have hne : (r.advance 16).len ≠ 0 := by
    rw [Cursor.len_advance]
    omega
  have hle := le_bufferSize hlong
  unfold decodeSampledHeader
  rw [bind_apply, sampledHeader_of_le (by omega), if_neg (UInt32.not_lt.mpr hlong), bind_apply]
  simp only [rawRead, if_neg hne]
  rw [sliceTo_of_le (by rw [Cursor.len, length_take_append_replicate]; exact hle), pure_bind, pure_apply,
    Cursor.len, take_take_append_replicate _ hle, bufferSize_toNat hlong, ← Cursor.len, Cursor.len_advance,
    Cursor.advance_advance]
  dsimp only
  rw [Cursor.advance_data]
  cases decodeHeader _ _ <;> rfl

theorem decodeSampledHeader_of_not {r : Reader} (h : r.len ≤ 16 ∨ BigEndian.uint32 (r.data.drop 12) > 1500) :
    ∃ e r', decodeSampledHeader r = .error (.err e) r' := by
  unfold decodeSampledHeader
  by_cases h16 : 16 ≤ r.len
  · rw [bind_apply, sampledHeader_of_le h16]
    split_ifs with hlong
    · exact ⟨.errMaxOutEthernetLength, r.advance 16, rfl⟩
    · obtain h | h := h
      · have hzero : (r.advance 16).len = 0 := by
          rw [Cursor.len_advance]
          omega
        rw [bind_apply]
        simp only [rawRead, if_pos hzero]
        exact ⟨.eof, r.advance 16, rfl⟩
      · exact absurd h hlong
  · have hneeds : Needs Returned SampledHeader.unmarshal 16 :=
      takes_uint32.bind_needs fun _ => takes_uint32.bind_needs fun _ => takes_uint32.bind_needs fun _ =>
        takes_uint32.needs.bind _
    obtain ⟨_, r', he, e, rfl⟩ := (hneeds.bind _) r (by omega)
    exact ⟨e, r', he⟩

end VFlow.Sflow
