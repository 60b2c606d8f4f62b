import VFlow.InfoModel
import VFlow.MemCache
import VFlow.Packet
import VFlow.RecordLoop

/-!
# The NetFlow v9 decoder

`netflow/v9/decoder.go`, in the same form as the IPFIX decoder. It differs from that copy in the
formats of headers and template records, in the flowset ids, in the condition of the record loop
and the count of leftover bytes, which are signed here, and in that an error of a template record
ends the loop.
-/

namespace VFlow.Netflow9

structure PacketHeader where
  version : UInt16
  count : UInt16
  sysUpTime : UInt32
  unixSecs : UInt32
  seqNum : UInt32
  srcID : UInt32
  deriving DecidableEq, Repr

structure SetHeader where
  flowSetID : UInt16
  length : UInt16
  deriving DecidableEq, Repr

structure TemplateHeader where
  templateID : UInt16
  fieldCount : UInt16 := 0
  optionLen : UInt16 := 0
  optionScopeLen : UInt16 := 0
  deriving DecidableEq, Repr

structure TemplateFieldSpecifier where
  elementID : UInt16
  length : UInt16
  deriving DecidableEq, Repr

structure TemplateRecord where
  templateID : UInt16 := 0
  fieldCount : UInt16 := 0
  fieldSpecifiers : List TemplateFieldSpecifier := []
  scopeFieldCount : UInt16 := 0
  scopeFieldSpecifiers : List TemplateFieldSpecifier := []
  deriving DecidableEq, Repr

structure DecodedField where
  id : UInt16
  value : Value
  deriving DecidableEq, Repr

structure Message where
  agentID : String
  header : PacketHeader
  templaRecord : TemplateRecord := {}
  setHeaders : List SetHeader := []
  dataSets : List (List DecodedField) := []
  deriving DecidableEq, Repr

/-! ## Unmarshalling -/

open Reader in
def PacketHeader.unmarshal : ReadM PacketHeader := do
  let version ← uint16
  let count ← uint16
  let sysUpTime ← uint32
  let unixSecs ← uint32
  let seqNum ← uint32
  let srcID ← uint32
  return { version, count, sysUpTime, unixSecs, seqNum, srcID }

def PacketHeader.validate (h : PacketHeader) : Option Error :=
  if h.version ≠ 9 then some (.invalidVersion .netflow9 h.version) else none

open Reader in
def SetHeader.unmarshal : ReadM SetHeader := do
  let flowSetID ← uint16
  let length ← uint16
  return { flowSetID, length }

open Reader in
def TemplateHeader.unmarshal : ReadM TemplateHeader := do
  let templateID ← uint16
  let fieldCount ← uint16
  return { templateID, fieldCount }

open Reader in
def TemplateHeader.unmarshalOpts : ReadM TemplateHeader := do
  let templateID ← uint16
  let optionScopeLen ← uint16
  let optionLen ← uint16
  return { templateID, optionLen, optionScopeLen }

open Reader in
def TemplateFieldSpecifier.unmarshal : ReadM TemplateFieldSpecifier := do
  let elementID ← uint16
  let length ← uint16
  return { elementID, length }

/-- `TemplateRecord.unmarshal` on a zero receiver: the record as far as it was filled in, the
error, and the reader. -/
def TemplateRecord.unmarshal (r : Reader) : TemplateRecord × Option Error × Reader :=
  match TemplateHeader.unmarshal r with
  | .error err r => ({}, some err, r)
  | .ok th r =>
    let (specs, err, r) := Scan.many TemplateFieldSpecifier.unmarshal th.fieldCount.toNat r
    ({ templateID := th.templateID, fieldCount := th.fieldCount, fieldSpecifiers := specs }, err, r)

/-- `TemplateRecord.unmarshalOpts` on a zero receiver. As in the IPFIX decoder each scope specifier
replaces the ones before it. -/
def TemplateRecord.unmarshalOpts (r : Reader) : TemplateRecord × Option Error × Reader :=
  match TemplateHeader.unmarshalOpts r with
  | .error err r => ({}, some err, r)
  | .ok th r =>
    let tr : TemplateRecord := { templateID := th.templateID }
    let (scopes, err, r) := Scan.many TemplateFieldSpecifier.unmarshal (th.optionScopeLen / 4).toNat r
    let tr := { tr with scopeFieldSpecifiers := scopes.foldl (fun _ tf => tr.fieldSpecifiers ++ [tf]) [] }
    match err with
    | some err => (tr, some err, r)
    | none =>
      let (specs, err, r) := Scan.many TemplateFieldSpecifier.unmarshal (th.optionLen / 4).toNat r
      ({ tr with fieldSpecifiers := specs }, err, r)

/-! ## Data records -/

variable (im : IANAInfoModel)

def decodeField (scope : Bool) (f : TemplateFieldSpecifier) : ReadM DecodedField := do
  let b ← Reader.read f.length.toNat
  match im.lookup { enterpriseNo := 0, elementID := f.elementID } with
  | none => throw (.unknownElement .netflow9 f.elementID scope)
  | some m => return { id := m.fieldID, value := interpret b m.type }

def decodeData (tr : TemplateRecord) : ReadM (List DecodedField) := do
  let fields ← Scan.each (decodeField im false) tr.fieldSpecifiers
  let scopeFields ← Scan.each (decodeField im true) tr.scopeFieldSpecifiers
  return fields ++ scopeFields

/-! ## Flowsets -/

structure DecodeState where
  reader : Reader
  mem : MemCache TemplateRecord
  msg : Message

variable (raddr : IP)

def setTemplate (h : SetHeader) (s : DecodeState) : TemplateRecord × Option Error :=
  if h.flowSetID > 255 then
    match s.mem.retrieve h.flowSetID raddr with
    | some tr => (tr, none)
    | none => ({}, some (.unknownTemplate .netflow9 raddr h.flowSetID))
  else ({}, none)

/-- The bytes of the flowset that were not read yet, negative when more was read than it has. -/
def leftover (h : SetHeader) (startCount : Nat) (s : DecodeState) : Int :=
  (h.length.toNat : Int) - ((s.reader.readCount : Int) - startCount)

/-- The condition of the record loop. -/
def recordGuard (h : SetHeader) (startCount : Nat) (x : DecodeState × Option Error) : Bool :=
  x.2.isNone && leftover h startCount x.1 > 4 && x.1.reader.len > 4

def recordBody (h : SetHeader) (tr : TemplateRecord) (x : DecodeState × Option Error) :
    LoopStep (DecodeState × Option Error) (DecodeState × Option Error) :=
  let (s, err) := x
  if h.flowSetID = 0 ∨ h.flowSetID = 1 then
    let (tr, trErr, r) :=
      if h.flowSetID = 0 then TemplateRecord.unmarshal s.reader else TemplateRecord.unmarshalOpts s.reader
    let mem := if trErr.isNone then s.mem.insert tr.templateID raddr tr else s.mem
    -- the message gets the record also when it was not read completely
    .next ({ reader := r, mem, msg := { s.msg with templaRecord := tr } }, trErr)
  else if h.flowSetID ≥ 4 ∧ h.flowSetID ≤ 255 then .done (s, err)
  else
    match decodeData im tr s.reader with
    | .ok data r =>
      .next ({ s with reader := r, msg := { s.msg with dataSets := s.msg.dataSets ++ [data],
                                                       setHeaders := s.msg.setHeaders ++ [h] } }, none)
    | .error err r => .next ({ s with reader := r }, some err)

def recordPass (h : SetHeader) (startCount : Nat) (tr : TemplateRecord) (x : DecodeState × Option Error) :
    LoopStep (DecodeState × Option Error) (DecodeState × Option Error) :=
  if recordGuard h startCount x then recordBody im raddr h tr x else .done x

/-- The end of `decodeSet`: skip what is left of the flowset, if anything is. -/
def skipLeftover (h : SetHeader) (startCount : Nat) (x : DecodeState × Option Error) : DecodeState × Option Error :=
  let (s, err) := x
  if leftover h startCount s > 0 then
    match Reader.read (leftover h startCount s).toNat s.reader with
    | .ok _ r => ({ s with reader := r }, err)
    | .error skipErr r => ({ s with reader := r }, some skipErr)
  else (s, err)

/-- `decodeSet`, with at most `fuel` passes of the record loop. -/
def decodeSet (fuel : Nat) (s : DecodeState) : Option (DecodeState × Option Error) :=
  let startCount := s.reader.readCount
  match SetHeader.unmarshal s.reader with
  | .error err r => some ({ s with reader := r }, some err)
  | .ok h r =>
    if h.length < 4 then some ({ s with reader := r }, some .errUnexpectedEOF)
    else
      let s := { s with reader := r }
      let (tr, err) := setTemplate raddr h s
      (Loop.run (recordLoop (recordPass im raddr h startCount tr) fuel) fuel (s, err)).map
        (skipLeftover h startCount)

/-! ## Packets -/

structure Outcome where
  msg : Option Message
  err : Option Error
  mem : MemCache TemplateRecord

def start (mem : MemCache TemplateRecord) (header : PacketHeader) (r : Reader) : DecodeState :=
  { reader := r, mem, msg := { agentID := raddr.string, header } }

def packetDecoder (mem : MemCache TemplateRecord) : PacketDecoder PacketHeader DecodeState where
  unmarshal := PacketHeader.unmarshal
  validate := PacketHeader.validate
  start := start raddr mem
  reader := DecodeState.reader
  decodeSet := decodeSet im raddr

def finish (mem : MemCache TemplateRecord) : Except Error (SetsEnd DecodeState) → Outcome
  | .error err => { msg := none, err := some err, mem }
  | .ok (.fatal s err) => { msg := none, err := some err, mem := s.mem }
  | .ok (.all s decodeErrors) => { msg := some s.msg, err := combineErrors decodeErrors, mem := s.mem }

def decode (mem : MemCache TemplateRecord) (b : List UInt8) (fuel : Nat) : Option Outcome :=
  ((packetDecoder im raddr mem).decode b fuel).map (finish mem)

end VFlow.Netflow9
