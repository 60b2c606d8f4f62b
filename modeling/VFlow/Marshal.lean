import VFlow.Base.JsonNumber
import VFlow.Ipfix.Decoder
import VFlow.Netflow9.Decoder

/-!
# The JSON encoders

`ipfix/marshal.go` and `netflow/v9/marshal.go`. The encoders append to a buffer piece by piece and
place commas and brackets by comparing an index with a length. The two files differ in the header and
in the member `E`, which only IPFIX fields can have; what they share is written here once.

An error of `writeValue` does not end the loops: the variable it is stored in is assigned again at the
next field, so that only the error of the last field is returned.

`strconv.FormatFloat` is modelled up to the shortest decimal digits of a float, which are a parameter.
-/

namespace VFlow

open Json (text quote decimal)

abbrev Buffer := List UInt8

inductive MarshalError where
  | uknownMarshalDataType
  deriving DecidableEq, Repr

def MarshalError.text : MarshalError → String
  | uknownMarshalDataType => "unknown data type to marshal"

/-! ## Printed values -/

def formatInt (i : Int) : List UInt8 := text i.repr

/-- A number `d.ddd * 10 ^ exponent`. -/
structure Decimal where
  lead : Fin 10
  more : List (Fin 10)
  exponent : Int

/-- The shortest digits that tell a finite float from its neighbours. -/
structure Shortest where
  float32 : UInt32 → Decimal
  float64 : UInt64 → Decimal

def digit (d : Fin 10) : UInt8 := (0x30 + d.val).toUInt8

/-- At least two digits. -/
def exponentDigits (e : Nat) : List UInt8 := if e < 10 then 0x30 :: decimal e else decimal e

/-- The format `E` of `strconv.FormatFloat` for a finite float. -/
def formatE (negative : Bool) (d : Decimal) : List UInt8 :=
  (if negative then text "-" else []) ++ [digit d.lead] ++
    (if d.more = [] then [] else text "." ++ d.more.map digit) ++
    text "E" ++ (if d.exponent < 0 then text "-" else text "+") ++ exponentDigits d.exponent.natAbs

/-- A float whose exponent bits are all set is infinite, or not a number when it has a fraction. -/
def formatFloat (negative special fraction : Bool) (d : Decimal) : List UInt8 :=
  if special then
    if fraction then text "NaN" else if negative then text "-Inf" else text "+Inf"
  else formatE negative d

def special32 (bits : UInt32) : Bool := bits >>> 23 &&& 0xff = 0xff

def special64 (bits : UInt64) : Bool := bits >>> 52 &&& 0x7ff = 0x7ff

def formatFloat32 (shortest : Shortest) (bits : UInt32) : List UInt8 :=
  formatFloat (bits >>> 31 = 1) (special32 bits) (bits &&& 0x7fffff ≠ 0) (shortest.float32 bits)

def formatFloat64 (shortest : Shortest) (bits : UInt64) : List UInt8 :=
  formatFloat (bits >>> 63 = 1) (special64 bits) (bits &&& 0xfffffffffffff ≠ 0) (shortest.float64 bits)

def hardwareAddrString (b : List UInt8) : String := ":".intercalate (b.map fun x => IP.hexString [x])

/-- `writeValue`: the buffer after it and its error. An unsigned number is converted to `int64`, and
the bytes of a string are written as they are. -/
def writeValue (shortest : Shortest) (v : Value) (b : Buffer) : Buffer × Option MarshalError :=
  match v with
  | .uint8 v => (b ++ formatInt v.toNat, none)
  | .uint16 v => (b ++ formatInt v.toNat, none)
  | .uint32 v => (b ++ formatInt v.toNat, none)
  | .uint64 v => (b ++ formatInt v.toInt64.toInt, none)
  | .int8 v => (b ++ formatInt v.toInt, none)
  | .int16 v => (b ++ formatInt v.toInt, none)
  | .int32 v => (b ++ formatInt v.toInt, none)
  | .int64 v => (b ++ formatInt v.toInt, none)
  | .float32 bits => (b ++ formatFloat32 shortest bits, none)
  | .float64 bits => (b ++ formatFloat64 shortest bits, none)
  | .string s => (b ++ [quote] ++ s ++ [quote], none)
  | .ip a => (b ++ [quote] ++ text (IP.string a) ++ [quote], none)
  | .hardwareAddr a => (b ++ [quote] ++ text (hardwareAddrString a) ++ [quote], none)
  | .bytes s => (b ++ [quote] ++ text ("0x" ++ IP.hexString s) ++ [quote], none)
  | .bool _ => (b, some .uknownMarshalDataType)

/-! ## Data sets -/

/-- `for i := range xs`, from the index `i` on. -/
def forRange {α σ : Type} (body : Nat → α → σ → σ) : Nat → List α → σ → σ
  | _, [], s => s
  | i, x :: xs, s => forRange body (i + 1) xs (body i x s)

/-- What the encoder of a package takes from a decoded field. -/
structure FieldShape (φ : Type) where
  id : φ → UInt16
  value : φ → Value
  /-- What is written between the value and the closing brace. -/
  more : φ → List UInt8

section DataSets

variable {φ : Type} (shortest : Shortest) (shape : FieldShape φ)

/-- The body of the loop over the fields of a record. -/
def encodeField (length j : Nat) (f : φ) (s : Buffer × Option MarshalError) : Buffer × Option MarshalError :=
  let b := s.1 ++ text "\x7b\"I\":" ++ formatInt (shape.id f).toNat ++ text ",\"V\":"
  let (b, err) := writeValue shortest (shape.value f) b
  let b := b ++ shape.more f
  if j < length - 1 then (b ++ text "\x7d,", err) else (b ++ text "\x7d", err)

def encodeRecord (dsLength i : Nat) (fs : List φ) (s : Buffer × Option MarshalError) : Buffer × Option MarshalError :=
  let (b, err) := forRange (encodeField shortest shape fs.length) 0 fs (s.1 ++ text "[", s.2)
  if i < dsLength - 1 then (b ++ text "],", err) else (b ++ text "]", err)

/-- `encodeDataSet`: the buffer after it and its error. -/
def encodeDataSet (dataSets : List (List φ)) (b : Buffer) : Buffer × Option MarshalError :=
  let (b, err) := forRange (encodeRecord shortest shape dataSets.length) 0 dataSets
    (b ++ text "\"DataSets\":" ++ text "[", none)
  (b ++ text "]", err)

end DataSets

def encodeAgent (agentID : String) (b : Buffer) : Buffer :=
  b ++ text "\"AgentID\":\"" ++ text agentID ++ text "\","

/-- `JSONMarshal`, which returns the whole buffer. -/
def jsonMarshal (agent header : Buffer → Buffer) (dataSet : Buffer → Buffer × Option MarshalError) (b : Buffer) :
    Except MarshalError Buffer :=
  match dataSet (header (agent (b ++ text "\x7b"))) with
  | (_, some err) => .error err
  | (b, none) => .ok (b ++ text "\x7d")

namespace Ipfix

def DecodedField.shape : FieldShape DecodedField where
  id f := f.id
  value f := f.value
  more f := if f.enterpriseNo ≠ 0 then text ",\"E\":" ++ formatInt f.enterpriseNo.toNat else []

def Message.encodeHeader (m : Message) (b : Buffer) : Buffer :=
  b ++ text "\"Header\":\x7b\"Version\":" ++ formatInt m.header.version.toNat ++
    text ",\"Length\":" ++ formatInt m.header.length.toNat ++
    text ",\"ExportTime\":" ++ formatInt m.header.exportTime.toNat ++
    text ",\"SequenceNo\":" ++ formatInt m.header.sequenceNo.toNat ++
    text ",\"DomainID\":" ++ formatInt m.header.domainID.toNat ++
    text "\x7d,"

def Message.encodeDataSet (shortest : Shortest) (m : Message) : Buffer → Buffer × Option MarshalError :=
  VFlow.encodeDataSet shortest DecodedField.shape m.dataSets

def Message.jsonMarshal (shortest : Shortest) (m : Message) : Buffer → Except MarshalError Buffer :=
  VFlow.jsonMarshal (encodeAgent m.agentID) m.encodeHeader (m.encodeDataSet shortest)

end Ipfix

namespace Netflow9

def DecodedField.shape : FieldShape DecodedField where
  id f := f.id
  value f := f.value
  more _ := []

def Message.encodeHeader (m : Message) (b : Buffer) : Buffer :=
  b ++ text "\"Header\":\x7b\"Version\":" ++ formatInt m.header.version.toNat ++
    text ",\"Count\":" ++ formatInt m.header.count.toNat ++
    text ",\"SysUpTime\":" ++ formatInt m.header.sysUpTime.toNat ++
    text ",\"UNIXSecs\":" ++ formatInt m.header.unixSecs.toNat ++
    text ",\"SeqNum\":" ++ formatInt m.header.seqNum.toNat ++
    text ",\"SrcID\":" ++ formatInt m.header.srcID.toNat ++
    text "\x7d,"

def Message.encodeDataSet (shortest : Shortest) (m : Message) : Buffer → Buffer × Option MarshalError :=
  VFlow.encodeDataSet shortest DecodedField.shape m.dataSets

def Message.jsonMarshal (shortest : Shortest) (m : Message) : Buffer → Except MarshalError Buffer :=
  VFlow.jsonMarshal (encodeAgent m.agentID) m.encodeHeader (m.encodeDataSet shortest)

end Netflow9

end VFlow
