import VFlow.InfoModel
import VFlow.MemCache
import VFlow.Packet
import VFlow.RecordLoop

/-!
# The IPFIX decoder

`ipfix/decoder.go`. The unmarshalling functions are scanners over the reader; the loop over the
records of a set (`recordPass`) and the loop over the sets of a message (`setPass`) are loops with
a bound on their passes, and `decode` is `none` when the bound is too small.

The state carries what `decodeSet` changes: the reader, the cache, the message, and the template
requests offered to `rpcChan` (the send does not block, so the decoder does not depend on whether
they are taken).
-/

namespace VFlow.Ipfix

structure MessageHeader where
  version : UInt16
  length : UInt16
  exportTime : UInt32
  sequenceNo : UInt32
  domainID : UInt32
  deriving DecidableEq, Repr

structure TemplateHeader where
  templateID : UInt16
  fieldCount : UInt16
  scopeFieldCount : UInt16 := 0
  deriving DecidableEq, Repr

structure TemplateFieldSpecifier where
  elementID : UInt16
  length : UInt16
  enterpriseNo : UInt32
  deriving DecidableEq, Repr

structure TemplateRecord where
  templateID : UInt16 := 0
  fieldCount : UInt16 := 0
  fieldSpecifiers : List TemplateFieldSpecifier := []
  scopeFieldCount : UInt16 := 0
  scopeFieldSpecifiers : List TemplateFieldSpecifier := []
  deriving DecidableEq, Repr

structure DecodedField where
  id : UInt16
  value : Value
  enterpriseNo : UInt32 := 0
  deriving DecidableEq, Repr

structure Message where
  agentID : String
  header : MessageHeader
  dataSets : List (List DecodedField) := []
  deriving DecidableEq, Repr

structure SetHeader where
  setID : UInt16
  length : UInt16
  deriving DecidableEq, Repr

/-- A request for a template that other nodes may know. -/
structure RPCRequest where
  id : UInt16
  ip : IP
  deriving DecidableEq, Repr

/-! ## Unmarshalling -/

open Reader in
def MessageHeader.unmarshal : ReadM MessageHeader := do
  let version ← uint16
  let length ← uint16
  let exportTime ← uint32
  let sequenceNo ← uint32
  let domainID ← uint32
  return { version, length, exportTime, sequenceNo, domainID }

def MessageHeader.validate (h : MessageHeader) : Option Error :=
  if h.version ≠ 0x000a then some (.invalidVersion .ipfix h.version) else none

open Reader in
def SetHeader.unmarshal : ReadM SetHeader := do
  let setID ← uint16
  let length ← uint16
  return { setID, length }

open Reader in
def TemplateHeader.unmarshal : ReadM TemplateHeader := do
  let templateID ← uint16
  let fieldCount ← uint16
  return { templateID, fieldCount }

open Reader in
def TemplateHeader.unmarshalOpts : ReadM TemplateHeader := do
  let templateID ← uint16
  let fieldCount ← uint16
  let scopeFieldCount ← uint16
  return { templateID, fieldCount, scopeFieldCount }

open Reader in
def TemplateFieldSpecifier.unmarshal : ReadM TemplateFieldSpecifier := do
  let elementID ← uint16
  let length ← uint16
  if elementID > 0x8000 then
    let enterpriseNo ← uint32
    return { elementID := elementID &&& 0x7fff, length, enterpriseNo }
  else
    return { elementID, length, enterpriseNo := 0 }

/-- `TemplateRecord.unmarshal` on a zero receiver: the record as far as it was filled in, the
error, and the reader. -/
def TemplateRecord.unmarshal (r : Reader) : TemplateRecord × Option Error × Reader :=
  match TemplateHeader.unmarshal r with
  | .error err r => ({}, some err, r)
  | .ok th r =>
    let (specs, err, r) := Scan.many TemplateFieldSpecifier.unmarshal th.fieldCount.toNat r
    ({ templateID := th.templateID, fieldCount := th.fieldCount, fieldSpecifiers := specs }, err, r)

/-- `TemplateRecord.unmarshalOpts` on a zero receiver. Each scope specifier replaces the ones before
it: the source appends it to `FieldSpecifiers`, which is still empty, and stores the result in
`ScopeFieldSpecifiers`. -/
def TemplateRecord.unmarshalOpts (r : Reader) : TemplateRecord × Option Error × Reader :=
  match TemplateHeader.unmarshalOpts r with
  | .error err r => ({}, some err, r)
  | .ok th r =>
    let tr : TemplateRecord :=
      { templateID := th.templateID, fieldCount := th.fieldCount, scopeFieldCount := th.scopeFieldCount }
    let (scopes, err, r) := Scan.many TemplateFieldSpecifier.unmarshal th.scopeFieldCount.toNat r
    let tr := { tr with scopeFieldSpecifiers := scopes.foldl (fun _ tf => tr.fieldSpecifiers ++ [tf]) [] }
    match err with
    | some err => (tr, some err, r)
    | none =>
      let (specs, err, r) :=
        Scan.many TemplateFieldSpecifier.unmarshal (th.fieldCount - th.scopeFieldCount).toNat r
      ({ tr with fieldSpecifiers := specs }, err, r)

/-! ## Data records -/

variable (im : IANAInfoModel)

/-- One field of a data record; the two loops of `decodeData` differ in `scope` only. -/
def decodeField (scope : Bool) (f : TemplateFieldSpecifier) : ReadM DecodedField := do
  let b ← Reader.read f.length.toNat
  match im.lookup { enterpriseNo := f.enterpriseNo, elementID := f.elementID } with
  | none => throw (.unknownElement .ipfix f.elementID scope)
  | some m =>
    return { id := m.fieldID, value := interpret b m.type, enterpriseNo := if scope then f.enterpriseNo else 0 }

def decodeData (tr : TemplateRecord) : ReadM (List DecodedField) := do
  let fields ← Scan.each (decodeField im false) tr.fieldSpecifiers
  let scopeFields ← Scan.each (decodeField im true) tr.scopeFieldSpecifiers
  return fields ++ scopeFields

/-! ## Sets -/

structure DecodeState where
  reader : Reader
  mem : MemCache TemplateRecord
  msg : Message
  /-- The requests offered to `rpcChan`. -/
  rpc : List RPCRequest := []

variable (raddr : IP)

/-- The template of a set, looked up before its records are read: the zero record for the ids up to
255, which are not looked up. -/
def setTemplate (h : SetHeader) (s : DecodeState) : TemplateRecord × DecodeState × Option Error :=
  if h.setID > 255 then
    match s.mem.retrieve h.setID raddr with
    | some tr => (tr, s, none)
    | none =>
      ({}, { s with rpc := s.rpc ++ [{ id := h.setID, ip := raddr }] },
        some (.unknownTemplate .ipfix raddr h.setID))
  else ({}, s, none)

/-- The condition of the record loop. The bytes read since the start of the set are truncated to 16
bits. -/
def recordGuard (h : SetHeader) (startCount : Nat) (x : DecodeState × Option Error) : Bool :=
  x.2.isNone && h.length > UInt16.ofNat (x.1.reader.readCount - startCount) && x.1.reader.len > 4

def recordBody (h : SetHeader) (tr : TemplateRecord) (x : DecodeState × Option Error) :
    LoopStep (DecodeState × Option Error) (DecodeState × Option Error) :=
  let (s, err) := x
  if h.setID = 2 ∨ h.setID = 3 then
    -- a template id of zero is padding; the `err` of this branch shadows the one of the loop
    if s.reader.peekUint16.toOption = some 0 then .done (s, err)
    else
      let (tr, trErr, r) :=
        if h.setID = 2 then TemplateRecord.unmarshal s.reader else TemplateRecord.unmarshalOpts s.reader
      match trErr with
      | none => .next ({ s with reader := r, mem := s.mem.insert tr.templateID raddr tr }, err)
      | some _ => .next ({ s with reader := r }, err)
  else if h.setID ≥ 4 ∧ h.setID ≤ 255 then .done (s, err)
  else
    match decodeData im tr s.reader with
    | .ok data r => .next ({ s with reader := r, msg := { s.msg with dataSets := s.msg.dataSets ++ [data] } }, none)
    | .error err r => .next ({ s with reader := r }, some err)

def recordPass (h : SetHeader) (startCount : Nat) (tr : TemplateRecord) (x : DecodeState × Option Error) :
    LoopStep (DecodeState × Option Error) (DecodeState × Option Error) :=
  if recordGuard h startCount x then recordBody im raddr h tr x else .done x

/-- The end of `decodeSet`: skip what the set's length says is left of it, modulo `2 ^ 16`. -/
def skipLeftover (h : SetHeader) (startCount : Nat) (x : DecodeState × Option Error) : DecodeState × Option Error :=
  let (s, err) := x
  let leftoverBytes := h.length - UInt16.ofNat (s.reader.readCount - startCount)
  if leftoverBytes > 0 then
    match Reader.read leftoverBytes.toNat s.reader with
    | .ok _ r => ({ s with reader := r }, err)
    | .error skipErr r => ({ s with reader := r }, some skipErr)
  else (s, err)

/-- `decodeSet`, with at most `fuel` passes of the record loop. -/
def decodeSet (fuel : Nat) (s : DecodeState) : Option (DecodeState × Option Error) :=
  let startCount := s.reader.readCount
  match SetHeader.unmarshal s.reader with
  | .error err r => some ({ s with reader := r }, some err)
  | .ok h r =>
    if h.length < 4 then some ({ s with reader := r }, some .errUnexpectedEOF)
    else
      let (tr, s, err) := setTemplate raddr h { s with reader := r }
      (Loop.run (recordLoop (recordPass im raddr h startCount tr) fuel) fuel (s, err)).map
        (skipLeftover h startCount)

/-! ## Messages -/

/-- What `Decode` returns, with the cache and the requests it leaves. -/
structure Outcome where
  msg : Option Message
  err : Option Error
  mem : MemCache TemplateRecord
  rpc : List RPCRequest

def start (mem : MemCache TemplateRecord) (header : MessageHeader) (r : Reader) : DecodeState :=
  { reader := r, mem, msg := { agentID := raddr.string, header } }

/-- `Decode` up to its result. -/
def packetDecoder (mem : MemCache TemplateRecord) : PacketDecoder MessageHeader DecodeState where
  unmarshal := MessageHeader.unmarshal
  validate := MessageHeader.validate
  start := start raddr mem
  reader := DecodeState.reader
  decodeSet := decodeSet im raddr

def finish (mem : MemCache TemplateRecord) : Except Error (SetsEnd DecodeState) → Outcome
  | .error err => { msg := none, err := some err, mem, rpc := [] }
  | .ok (.fatal s err) => { msg := none, err := some err, mem := s.mem, rpc := s.rpc }
  | .ok (.all s decodeErrors) => { msg := some s.msg, err := combineErrors decodeErrors, mem := s.mem, rpc := s.rpc }

/-- `Decode` of a packet `b` from the exporter `raddr`. -/
def decode (mem : MemCache TemplateRecord) (b : List UInt8) (fuel : Nat) : Option Outcome :=
  ((packetDecoder im raddr mem).decode b fuel).map (finish mem)

end VFlow.Ipfix
