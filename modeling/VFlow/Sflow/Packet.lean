import VFlow.Net

/-!
# Sampled packets

The package `packet`: the headers of a sampled frame, from the data link layer to the transport layer.
The methods of `Packet` cut what they have read off `data`; a method that returns an error leaves the
packet as far as it got. An index beyond the data is a panic, which is kept apart from the errors.
-/

namespace VFlow

inductive PacketError where
  | errUnknownEtherType
  | errUnknownHeaderProtocol
  | errShortEthernetHeaderLength
  | errShortIPv4HeaderLength
  | errShortIPv6HeaderLength
  | errShortEthernetLength
  | errUnknownTransportLayer
  | errUnknownL3Protocol
  | errShortTCPHeaderLength
  | errShortUDPHeaderLength
  | errICMPHLenTooSHort
  deriving DecidableEq, Repr

def PacketError.text : PacketError → String
  | errUnknownEtherType => "unknown ether type"
  | errUnknownHeaderProtocol => "unknown header protocol"
  | errShortEthernetHeaderLength => "the ethernet header is too small"
  | errShortIPv4HeaderLength => "short ipv4 header length"
  | errShortIPv6HeaderLength => "short ipv6 header length"
  | errShortEthernetLength => "short ethernet header length"
  | errUnknownTransportLayer => "unknown transport layer"
  | errUnknownL3Protocol => "unknown network layer protocol"
  | errShortTCPHeaderLength => "short TCP header length"
  | errShortUDPHeaderLength => "short UDP header length"
  | errICMPHLenTooSHort => "ICMP header length is too short"

/-! ## Headers -/

structure Datalink where
  srcMAC : String := ""
  dstMAC : String := ""
  vlan : Nat := 0
  etherType : UInt16 := 0
  deriving DecidableEq, Repr

structure IPv4Header where
  version : Nat
  tos : Nat
  totalLen : Nat
  id : Nat
  flags : Nat
  fragOff : Nat := 0
  ttl : Nat
  protocol : Nat
  checksum : Nat
  src : String
  dst : String
  deriving DecidableEq, Repr

structure IPv6Header where
  version : Nat
  trafficClass : Nat
  flowLabel : Nat
  payloadLen : Nat
  nextHeader : Nat
  hopLimit : Nat
  src : String
  dst : String
  deriving DecidableEq, Repr

structure TCPHeader where
  srcPort : Nat
  dstPort : Nat
  dataOffset : Nat
  reserved : Nat
  flags : Nat
  deriving DecidableEq, Repr

structure UDPHeader where
  srcPort : Nat
  dstPort : Nat
  deriving DecidableEq, Repr

structure ICMP where
  type : Nat
  code : Nat
  restHeader : List UInt8
  deriving DecidableEq, Repr

/-- What the interface `L3` of a packet can hold besides nil. -/
inductive NetworkHeader where
  | ipv4 (h : IPv4Header)
  | ipv6 (h : IPv6Header)
  deriving DecidableEq, Repr

/-- What the interface `L4` of a packet can hold besides nil. -/
inductive TransportHeader where
  | icmp (h : ICMP)
  | tcp (h : TCPHeader)
  | udp (h : UDPHeader)
  deriving DecidableEq, Repr

structure Packet where
  l2 : Datalink := {}
  l3 : Option NetworkHeader := none
  l4 : Option TransportHeader := none
  data : List UInt8 := []
  deriving DecidableEq, Repr

/-- How a method of `Packet` ends when it does not succeed. -/
inductive PacketFailure where
  | err (e : PacketError)
  | indexOutOfRange
  deriving DecidableEq, Repr

abbrev PacketM := EStateM PacketFailure Packet

/-! ## Data link layer -/

def etherTypeIPv4 : UInt16 := 0x0800
def etherTypeIPv6 : UInt16 := 0x86DD
def etherTypeIEEE8021Q : UInt16 := 0x8100

/-- `fmt.Sprintf` with two hexadecimal digits for each byte and colons between them. -/
def hwAddrFmt (b : List UInt8) : String := ":".intercalate (b.map fun x => IP.hexString [x])

/-- The 16 bits at an offset, the high byte first. -/
def bits16 (b : List UInt8) (i : Nat) : Nat := (b.getD i 0).toNat <<< 8 ||| (b.getD (i + 1) 0).toNat

/-- A frame with a tag has its addresses left out. -/
def decodeIEEE802 (b : List UInt8) : Except PacketError Datalink :=
  if b.length < 14 then .error .errShortEthernetLength
  else
    let etherType := (b.getD 13 0).toUInt16 ||| (b.getD 12 0).toUInt16 <<< 8
    if etherType ≠ etherTypeIEEE8021Q then
      .ok { dstMAC := hwAddrFmt (b.take 6), srcMAC := hwAddrFmt ((b.drop 6).take 6), etherType }
    else .ok { etherType }

namespace Packet

/-- A tag is cut out of the frame and the frame is read again. -/
def decodeEthernet : PacketM Unit := fun p =>
  if p.data.length < 14 then .error (.err .errShortEthernetHeaderLength) p
  else match decodeIEEE802 p.data with
    | .error e => .error (.err e) p
    | .ok d =>
      if d.etherType = etherTypeIEEE8021Q then
        -- the tag and the type after it, `p.data[14]` to `p.data[17]`, are read without a check
        if p.data.length < 18 then .error .indexOutOfRange p
        else
          let vlan := bits16 p.data 14
          let data := p.data.take 12 ++ (p.data.drop 16).take 2 ++ p.data.drop 18
          match decodeIEEE802 data with
          | .error e => .error (.err e) { p with data }
          | .ok d => .ok () { p with l2 := { d with vlan }, data := data.drop 14 }
      else .ok () { p with l2 := d, data := p.data.drop 14 }

/-! ## Network layer -/

def ipv4HLen : Nat := 20
def ipv6HLen : Nat := 40

/-- The fragment offset is not read. -/
def decodeIPv4Header : PacketM Unit := fun p =>
  if p.data.length < ipv4HLen then .error (.err .errShortIPv4HeaderLength) p
  else
    let byte := fun i => p.data.getD i 0
    .ok () { p with
      l3 := some (.ipv4 {
        version := ((byte 0 &&& 0xf0) >>> 4).toNat
        tos := (byte 1).toNat
        totalLen := bits16 p.data 2
        id := bits16 p.data 4
        flags := (byte 6 &&& 0x07).toNat
        ttl := (byte 8).toNat
        protocol := (byte 9).toNat
        checksum := bits16 p.data 10
        src := IP.string ((p.data.drop 12).take 4)
        dst := IP.string ((p.data.drop 16).take 4) })
      data := p.data.drop ipv4HLen }

def decodeIPv6Header : PacketM Unit := fun p =>
  if p.data.length < ipv6HLen then .error (.err .errShortIPv6HeaderLength) p
  else
    let byte := fun i => p.data.getD i 0
    .ok () { p with
      l3 := some (.ipv6 {
        version := (byte 0).toNat >>> 4
        trafficClass := (byte 0 &&& 0x0f).toNat <<< 4 ||| (byte 1).toNat >>> 4
        flowLabel := (byte 1 &&& 0x0f).toNat <<< 16 ||| (byte 2).toNat <<< 8 ||| (byte 3).toNat
        payloadLen := bits16 p.data 4
        nextHeader := (byte 6).toNat
        hopLimit := (byte 7).toNat
        src := IP.string ((p.data.drop 8).take 16)
        dst := IP.string ((p.data.drop 24).take 16) })
      data := p.data.drop ipv6HLen }

end Packet

/-! ## Transport layer -/

def ianaProtoICMP : Nat := 1
def ianaProtoTCP : Nat := 6
def ianaProtoUDP : Nat := 17

def decodeICMP (b : List UInt8) : Except PacketError ICMP :=
  if b.length < 5 then .error .errICMPHLenTooSHort
  else .ok { type := (b.getD 0 0).toNat, code := (b.getD 1 0).toNat, restHeader := b.drop 4 }

def decodeTCP (b : List UInt8) : Except PacketError TCPHeader :=
  if b.length < 20 then .error .errShortTCPHeaderLength
  else .ok {
    srcPort := bits16 b 0
    dstPort := bits16 b 2
    dataOffset := (b.getD 12 0).toNat >>> 4
    reserved := 0
    flags := bits16 b 12 &&& 0x01ff }

def decodeUDP (b : List UInt8) : Except PacketError UDPHeader :=
  if b.length < 8 then .error .errShortUDPHeaderLength
  else .ok { srcPort := bits16 b 0, dstPort := bits16 b 2 }

namespace Packet

/-- A transport header is kept and its length cut off. -/
def transport {h : Type} (decode : List UInt8 → Except PacketError h) (header : h → TransportHeader) (len : Nat) :
    PacketM Unit := fun p =>
  match decode p.data with
  | .error e => .error (.err e) p
  | .ok x => .ok () { p with l4 := some (header x), data := p.data.drop len }

def decodeNextLayer : PacketM Unit := fun p =>
  match p.l3 with
  | none => .error (.err .errUnknownL3Protocol) p
  | some l3 =>
    let proto := match l3 with
      | .ipv4 h => h.protocol
      | .ipv6 h => h.nextHeader
    if proto = ianaProtoICMP then transport decodeICMP .icmp 4 p
    else if proto = ianaProtoTCP then transport decodeTCP .tcp 20 p
    else if proto = ianaProtoUDP then transport decodeUDP .udp 8 p
    else .error (.err .errUnknownTransportLayer) p

/-! ## The decoder -/

def headerProtocolEthernet : UInt32 := 1
def headerProtocolIPv4 : UInt32 := 11
def headerProtocolIPv6 : UInt32 := 12

def decodeEthernetHeader : PacketM Unit := do
  decodeEthernet
  let p ← get
  if p.l2.etherType = etherTypeIPv4 then
    decodeIPv4Header
    decodeNextLayer
  else if p.l2.etherType = etherTypeIPv6 then
    decodeIPv6Header
    decodeNextLayer
  else throw (.err .errUnknownEtherType)

def decoder (data : List UInt8) (protocol : UInt32) : EStateM.Result PacketFailure Packet Unit :=
  let decode : PacketM Unit :=
    if protocol = headerProtocolEthernet then decodeEthernetHeader
    else if protocol = headerProtocolIPv4 then do
      decodeIPv4Header
      decodeNextLayer
    else if protocol = headerProtocolIPv6 then do
      decodeIPv6Header
      decodeNextLayer
    else throw (.err .errUnknownHeaderProtocol)
  decode { data }

end Packet

end VFlow
