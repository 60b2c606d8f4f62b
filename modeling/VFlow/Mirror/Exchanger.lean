import Mathlib.Logic.Function.Basic
import VFlow.Netflow9.Decoder

/-!
# The NetFlow mirror

`mirror/udp_mirror.go`: decoded NetFlow messages are taken from a channel, the records that a rule of the
message's exporter selects are written into a datagram again (`toBytes`), and the datagram is sent to the
client the rule names.

The clients are opened by `initUdpClients` before the first message, and `exchange` is what one message does:
the datagrams that leave, in their order, and the panic that ends the goroutine, if there is one. Whether
the package variable `logger` was set is a parameter, since the loop uses it first of all. What an address
stands for is a parameter too (`dial`), and so is whether a connection takes a datagram (`write`): one of more
than 65507 bytes is refused by every socket.
-/

namespace VFlow.Mirror

open BigEndian Netflow9

structure ExchangeRule where
  inPort : Int32
  outPort : Int32
  distAddress : String
  deriving DecidableEq, Repr

structure ExchangerConfig where
  source : String
  rules : List ExchangeRule
  deriving DecidableEq, Repr

def inputID : UInt16 := 10

def outputID : UInt16 := 14

/-! ## Selecting records -/

/-- The comparison of a field with a port of a rule. The field is an interface value, so it equals the port
only if it is an `int32` as well. -/
def portMatches (value : Value) (port : Int32) : Bool := value = .int32 port || port = -1

/-- One field of a record, with the flags `inputMatch` and `outputMatch` so far. -/
def matchField (rule : ExchangeRule) (flags : Bool × Bool) (field : DecodedField) : Bool × Bool :=
  if field.id = inputID then (flags.1 || portMatches field.value rule.inPort, flags.2)
  else if field.id = outputID then (flags.1, flags.2 || portMatches field.value rule.outPort)
  else flags

/-- The rule takes the record: both flags are set after its last field. -/
def ExchangeRule.selects (rule : ExchangeRule) (record : List DecodedField) : Bool :=
  let flags := record.foldl (matchField rule) (false, false)
  flags.1 && flags.2

/-- The records of a message that a rule takes, `datas` of the loop. -/
def selection (rule : ExchangeRule) (msg : Message) : List (List DecodedField) := msg.dataSets.filter rule.selects

/-! ## Writing a message -/

/-- `binary.Write` of a field's value. A string is not a fixed-size value: the error is ignored, and nothing
is written. -/
def binaryWrite : Value → List UInt8
  | .bytes b => b
  | .bool v => [if v then 1 else 0]
  | .uint8 v => [v]
  | .uint16 v => putUint16 v
  | .uint32 v => putUint32 v
  | .uint64 v => putUint64 v
  | .int8 v => [v.toUInt8]
  | .int16 v => putUint16 v.toUInt16
  | .int32 v => putUint32 v.toUInt32
  | .int64 v => putUint64 v.toUInt64
  | .float32 bits => putUint32 bits
  | .float64 bits => putUint64 bits
  | .hardwareAddr b => b
  | .string _ => []
  | .ip b => b

def headerBytes (msg : Message) (seq : UInt32) : List UInt8 :=
  let count := msg.templaRecord.fieldCount + UInt16.ofNat msg.setHeaders.length
  putUint16 msg.header.version ++ (putUint16 count ++ (putUint32 msg.header.sysUpTime ++
    (putUint32 msg.header.unixSecs ++ (putUint32 seq ++ putUint32 msg.header.srcID))))

def specifierBytes (spec : TemplateFieldSpecifier) : List UInt8 := putUint16 spec.elementID ++ putUint16 spec.length

/-- The template record of the message, without a flowset header before it. -/
def templateBytes (tr : TemplateRecord) : List UInt8 :=
  if tr.fieldCount > 0 then
    putUint16 tr.templateID ++ (putUint16 tr.fieldCount ++ ((tr.fieldSpecifiers.map specifierBytes).flatten ++
      if tr.scopeFieldCount > 0 then (tr.scopeFieldSpecifiers.map specifierBytes).flatten else []))
  else []

/-- A record, each value with its element id before it. -/
def recordBytes (record : List DecodedField) : List UInt8 :=
  (record.map fun field => putUint16 field.id ++ binaryWrite field.value).flatten

/-- The last loop of `toBytes`: with each set header, the number of records in the place of its length, and
the record of the same index. A record that is not there is an index out of range. -/
def setBytes (count : UInt16) : List SetHeader → List (List DecodedField) → Option (List UInt8)
  | [], _ => some []
  | _ :: _, [] => none
  | setHeader :: setHeaders, record :: records =>
    (setBytes count setHeaders records).map fun rest =>
      putUint16 setHeader.flowSetID ++ (putUint16 count ++ (recordBytes record ++ rest))

/-- What `toBytes` writes behind the packet header. -/
def bodyBytes (msg : Message) (fields : List (List DecodedField)) : Option (List UInt8) :=
  (setBytes (UInt16.ofNat fields.length) msg.setHeaders fields).map fun sets =>
    templateBytes msg.templaRecord ++ ((fields.map recordBytes).flatten ++ sets)

def toBytes (msg : Message) (seq : UInt32) (fields : List (List DecodedField)) : Option (List UInt8) :=
  (bodyBytes msg fields).map (headerBytes msg seq ++ ·)

/-! ## The clients -/

/-- `strings.Split` with a separator of one character. -/
def split (sep : Char) : List Char → List (List Char)
  | [] => [[]]
  | c :: cs =>
    if c = sep then [] :: split sep cs
    else match split sep cs with
      | [] => [[c]]
      | part :: parts => (c :: part) :: parts

structure UdpMirror where
  remoteAddress : String
  port : String
  deriving DecidableEq, Repr

def UdpMirror.address (c : UdpMirror) : String := c.remoteAddress ++ ":" ++ c.port

/-- The client for a rule. Without a colon in the address there is no second part, and the index is out of
range. -/
def ExchangeRule.mirror (rule : ExchangeRule) : Option UdpMirror :=
  match split ':' rule.distAddress.toList with
  | remoteAddress :: port :: _ => some { remoteAddress := String.ofList remoteAddress, port := String.ofList port }
  | _ => none

/-- `initMap`: the last entry of a source is kept. -/
def initMap (mirrorConfigs : List ExchangerConfig) : String → Option ExchangerConfig :=
  mirrorConfigs.foldl (fun mirrorMaps ec => Function.update mirrorMaps ec.source (some ec)) fun _ => none

/-- The body of the loops of `initUdpClients`: a client is opened under the source of the entry, unless
there is one. -/
def initClient (source : String) (udpCliets : String → Option UdpMirror) (rule : ExchangeRule) :
    Option (String → Option UdpMirror) :=
  match udpCliets source with
  | some _ => some udpCliets
  | none => rule.mirror.map fun c => Function.update udpCliets source (some c)

def initUdpClients (mirrorConfigs : List ExchangerConfig) : Option (String → Option UdpMirror) :=
  mirrorConfigs.foldlM (fun udpCliets ec => ec.rules.foldlM (initClient ec.source) udpCliets) fun _ => none

/-! ## The exchange loop -/

/-- The panics that end the goroutine, and the process with it. -/
inductive Panic where
  | nilLogger | indexOutOfRange | nilClient | nilConn
  deriving DecidableEq, Repr

variable {E : Type}

structure Datagram (E : Type) where
  rule : ExchangeRule
  endpoint : E
  payload : List UInt8
  deriving DecidableEq, Repr

/-- What a message makes the exchanger do. -/
structure Exchanged (E : Type) where
  sent : List (Datagram E)
  panic : Option Panic
  deriving DecidableEq, Repr

variable (dial : String → Option E) (write : E → List UInt8 → Bool)

/-- The end of the loop body: the records of one rule are sent, if there are any. The client is looked up by
the address of the rule. A connection that cannot be opened stays nil, and `Send` writes to it. A failed
`Write` is logged, and the datagram is not written again. -/
def deliver (udpCliets : String → Option UdpMirror) (msg : Message) (rule : ExchangeRule) :
    Except Panic (List (Datagram E)) :=
  if (selection rule msg).length > 0 then
    match toBytes msg 0 (selection rule msg), udpCliets rule.distAddress with
    | none, _ => .error .indexOutOfRange
    | some _, none => .error .nilClient
    | some payload, some c =>
      match dial c.address with
      | none => .error .nilConn
      | some endpoint => .ok (if write endpoint payload then [{ rule, endpoint, payload }] else [])
  else .ok []

def deliverAll (udpCliets : String → Option UdpMirror) (msg : Message) : List ExchangeRule → Exchanged E
  | [] => { sent := [], panic := none }
  | rule :: rules =>
    match deliver dial write udpCliets msg rule with
    | .error p => { sent := [], panic := some p }
    | .ok sent =>
      let rest := deliverAll udpCliets msg rules
      { rest with sent := sent ++ rest.sent }

/-- A message in an exchanger that was started with this configuration. -/
def exchange (logger : Bool) (mirrorConfigs : List ExchangerConfig) (msg : Message) : Exchanged E :=
  match initUdpClients mirrorConfigs with
  | none => { sent := [], panic := some .indexOutOfRange }
  | some udpCliets =>
    if logger then
      deliverAll dial write udpCliets msg ((initMap mirrorConfigs msg.agentID).elim [] ExchangerConfig.rules)
    else { sent := [], panic := some .nilLogger }

end VFlow.Mirror
