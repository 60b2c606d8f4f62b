import VFlow.Base.Buffer
import VFlow.Base.BigEndian
import VFlow.Net

/-!
# The packets of the IPFIX mirror

`mirrorIPFIX` sends every datagram on over a raw socket, with headers of its own that name the exporter as the
source. The two headers and the packet are buffers that are made once and written in place for every message. Every
slice of the source is a checked one here, and `none` is a panic.
-/

namespace VFlow.Mirror

open BigEndian

def ipv4HLen : Nat := 20
def ipv6HLen : Nat := 40
def udpHLen : Nat := 8
def udpProto : Nat := 17

/-! ## Headers -/

structure IPv4 where
  version : UInt8
  ihl : UInt8
  tos : UInt8
  length : UInt16 := 0
  ttl : UInt8
  protocol : UInt8

def newIPv4HeaderTpl (proto : Nat) : IPv4 where
  version := 4
  ihl := 5
  tos := 0
  ttl := 64
  protocol := UInt8.ofNat proto

namespace IPv4

/-- The identification, the checksum and the addresses are left zero. -/
def marshal (ip : IPv4) : List UInt8 :=
  [ip.version <<< 4 ||| ip.ihl, ip.tos] ++ putUint16 ip.length ++ [0, 0, 0, 0, ip.ttl, ip.protocol] ++
    List.replicate 10 0

def setLen (b : List UInt8) (n : Nat) : Option (List UInt8) :=
  Buffer.copy b 2 4 (putUint16 (UInt16.ofNat ipv4HLen + UInt16.ofNat n))

/-- The last four bytes of addresses of sixteen. -/
def setAddrs (b : List UInt8) (src dst : IP) : Option (List UInt8) := do
  let b ← Buffer.copy b 12 16 (← Buffer.slice src 12 16)
  Buffer.copy b 16 20 (← Buffer.slice dst 12 16)

end IPv4

structure IPv6 where
  version : UInt8
  trafficClass : UInt8
  flowLabel : UInt32
  nextHeader : UInt8
  hopLimit : UInt8

def newIPv6HeaderTpl (proto : Nat) : IPv6 where
  version := 6
  trafficClass := 0
  flowLabel := 0
  nextHeader := UInt8.ofNat proto
  hopLimit := 64

namespace IPv6

/-- The payload length and the addresses are left zero. -/
def marshal (ip : IPv6) : List UInt8 :=
  [ip.version <<< 4 ||| ip.trafficClass >>> 4, ip.trafficClass <<< 4 ||| (ip.flowLabel >>> 16).toUInt8] ++
    putUint16 ip.flowLabel.toUInt16 ++ [0, 0, ip.nextHeader, ip.hopLimit] ++ List.replicate 32 0

def setLen (b : List UInt8) (n : Nat) : Option (List UInt8) :=
  Buffer.copy b 4 6 (putUint16 (UInt16.ofNat ipv6HLen + UInt16.ofNat n))

def setAddrs (b : List UInt8) (src dst : IP) : Option (List UInt8) := do
  let b ← Buffer.copy b 8 b.length src
  Buffer.copy b 24 b.length dst

end IPv6

structure UDP where
  srcPort : Int
  dstPort : Int
  length : Int
  checksum : Int

namespace UDP

def marshal (u : UDP) : List UInt8 :=
  putUint16 (UInt16.ofInt u.srcPort) ++ putUint16 (UInt16.ofInt u.dstPort) ++
    putUint16 (UInt16.ofInt (udpHLen + u.length)) ++ putUint16 (UInt16.ofInt u.checksum)

def setLen (b : List UInt8) (n : Nat) : Option (List UInt8) :=
  Buffer.copy b 4 6 (putUint16 (UInt16.ofNat (udpHLen + n)))

end UDP

/-- What the interface `mirror.IP` can hold. -/
inductive Header where
  | ipv4 (ip : IPv4)
  | ipv6 (ip : IPv6)

namespace Header

def marshal : Header → List UInt8
  | ipv4 ip => ip.marshal
  | ipv6 ip => ip.marshal

def setLen (b : List UInt8) (n : Nat) : Header → Option (List UInt8)
  | ipv4 _ => IPv4.setLen b n
  | ipv6 _ => IPv6.setLen b n

def setAddrs (b : List UInt8) (src dst : IP) : Header → Option (List UInt8)
  | ipv4 _ => IPv4.setAddrs b src dst
  | ipv6 _ => IPv6.setAddrs b src dst

end Header

/-! ## The loop -/

/-- `IPFIXUDPMsg`. The body is a slice from the start of its buffer. -/
structure RawMsg where
  raddr : IP
  buffer : List UInt8
  len : Nat

def RawMsg.body (msg : RawMsg) : List UInt8 := msg.buffer.take msg.len

/-- The arguments of `mirrorIPFIX` and the option `IPFIXUDPSize`. -/
structure RawMirror where
  size : Nat
  dst : IP
  port : Int
  dst_length : dst.length = 4 ∨ dst.length = 16

structure Buffers where
  ipHdr : List UInt8
  udpHdr : List UInt8
  packet : List UInt8

namespace RawMirror
variable (c : RawMirror)

def ip : Header :=
  if c.dst.to4.isSome then .ipv4 (newIPv4HeaderTpl udpProto) else .ipv6 (newIPv6HeaderTpl udpProto)

def ipHLen : Nat := if c.dst.to4.isSome then ipv4HLen else ipv6HLen

def udp : UDP := ⟨55117, c.port, 0, 0⟩

def start : Buffers where
  ipHdr := c.ip.marshal
  udpHdr := c.udp.marshal
  packet := List.replicate c.size 0

/-- One message: the packet that is sent, and the buffers after it. -/
def step (s : Buffers) (msg : RawMsg) : Option (List UInt8 × Buffers) := do
  let pLen := msg.body.length
  let ipHdr ← c.ip.setAddrs s.ipHdr msg.raddr c.dst
  let ipHdr ← c.ip.setLen ipHdr (pLen + udpHLen)
  let udpHdr ← UDP.setLen s.udpHdr pLen
  -- `SetChecksum`, which is called for IPv6, does nothing
  let packet ← Buffer.copy s.packet 0 c.ipHLen ipHdr
  let packet ← Buffer.copy packet c.ipHLen (c.ipHLen + 8) udpHdr
  let packet ← Buffer.copy packet (c.ipHLen + 8) packet.length msg.body
  -- the whole buffer of the message is put back into the pool
  let _ ← Buffer.slice msg.buffer 0 c.size
  let sent ← Buffer.slice packet 0 (c.ipHLen + 8 + pLen)
  return (sent, { ipHdr, udpHdr, packet })

def run : Buffers → List RawMsg → Option (List (List UInt8) × Buffers)
  | s, [] => some ([], s)
  | s, msg :: msgs => do
    let (sent, s) ← c.step s msg
    let (rest, s) ← run s msgs
    return (sent :: rest, s)

end RawMirror

/-- A message as it comes to `mirrorIPFIX`: the body lies in a buffer of the pool, and the dispatcher has found that
the exporter has the family of the destination. -/
structure RawDatagram (c : RawMirror) extends RawMsg where
  buffer_length : buffer.length = c.size
  len_le : len ≤ c.size
  raddr_length : raddr.length = 4 ∨ raddr.length = 16
  family : raddr.to4.isSome = c.dst.to4.isSome

/-- The buffers after some messages. -/
def RawMirror.Reachable (c : RawMirror) (s : Buffers) : Prop :=
  ∃ (msgs : List (RawDatagram c)) (sent : List (List UInt8)),
    c.run c.start (msgs.map RawDatagram.toRawMsg) = some (sent, s)

end VFlow.Mirror
