import VFlow.Sflow.Tags

/-!
# Headers on the wire

The headers that the package `packet` reads, as a sender writes them: the fields of a header are numbers of
their own width, and `encode` packs those that share a byte. Each decoder is then one equation about an encoded
header with arbitrary bytes after it. The IPv6, TCP and UDP headers come back as they were written. The IPv4
header does not: the flags are taken from the upper bits of the fragment offset, and the offset is not read
(`decodeIPv4Header_encode`).
-/

namespace VFlow

open BigEndian

/-- Byte strings of a given length. -/
abbrev Octets (n : Nat) := { b : List UInt8 // b.length = n }

theorem Octets.take_append {n : Nat} (a : Octets n) (rest : List UInt8) : (a.val ++ rest).take n = a.val :=
  List.take_left' a.property

theorem Octets.drop_append {n : Nat} (a : Octets n) (rest : List UInt8) : (a.val ++ rest).drop n = rest :=
  List.drop_left' a.property

/-! ## Bits -/

theorem bits_put (v : UInt16) : (v >>> 8).toUInt8.toNat <<< 8 ||| v.toUInt8.toNat = v.toNat := by
  have h : bits16 (putUint16 v ++ []) 0 = v.toNat := by rw [bits16_eq, List.drop_zero, uint16_put]
  exact h

theorem toNat_upper (x : UInt8) : ((x &&& 0xf0) >>> 4).toNat = x.toNat / 16 := by
  have hx := x.toNat_lt
  simp only [UInt8.toNat_shiftRight, UInt8.toNat_and, Nat.shiftRight_and_distrib, UInt8.reduceToNat, Nat.reduceMod]
  rw [show 240 >>> 4 = 2 ^ 4 - 1 from rfl, Nat.and_two_pow_sub_one_eq_mod, Nat.shiftRight_eq_div_pow]
  omega

theorem toNat_lower (x : UInt8) : (x &&& 0x0f).toNat = x.toNat % 16 := by
  rw [UInt8.toNat_and]
  exact Nat.and_two_pow_sub_one_eq_mod x.toNat 4

/-! ## IPv4 -/

/-- The fields of an IPv4 header besides its length and its options. -/
structure WireIPv4 where
  version : Fin 16
  tos : UInt8
  totalLen : UInt16
  id : UInt16
  flags : Fin 8
  fragOff : Fin 8192
  ttl : UInt8
  protocol : UInt8
  checksum : UInt16
  src : Octets 4
  dst : Octets 4

/-- At most ten words, the most that the four bits of the header length can say. -/
structure IPv4Options where
  bytes : List UInt8
  words : bytes.length % 4 = 0
  le : bytes.length ≤ 40

def IPv4Options.none : IPv4Options := ⟨[], rfl, by decide⟩

namespace WireIPv4

def ihl (options : IPv4Options) : Nat := 5 + options.bytes.length / 4

def encode (h : WireIPv4) (options : IPv4Options) : List UInt8 :=
  [UInt8.ofNat (h.version.val * 16 + ihl options), h.tos] ++ putUint16 h.totalLen ++ putUint16 h.id ++
    putUint16 (UInt16.ofNat (h.flags.val * 8192 + h.fragOff.val)) ++ [h.ttl, h.protocol] ++ putUint16 h.checksum ++
    h.src.val ++ h.dst.val ++ options.bytes

def header (h : WireIPv4) : IPv4Header where
  version := h.version.val
  tos := h.tos.toNat
  totalLen := h.totalLen.toNat
  id := h.id.toNat
  flags := h.flags.val
  fragOff := h.fragOff.val
  ttl := h.ttl.toNat
  protocol := h.protocol.toNat
  checksum := h.checksum.toNat
  src := IP.string h.src.val
  dst := IP.string h.dst.val

theorem length_encode (h : WireIPv4) (options : IPv4Options) : (h.encode options).length = 4 * ihl options := by
  have hwords := options.words
  simp only [encode, ihl, List.length_append, List.length_cons, List.length_nil, length_putUint16, h.src.property,
    h.dst.property]
  omega

end WireIPv4

theorem WireIPv4.version_encode (h : WireIPv4) (options : IPv4Options) :
    ((UInt8.ofNat (h.version.val * 16 + ihl options) &&& 0xf0) >>> 4).toNat = h.version.val := by
  have hversion := h.version.isLt
  have hihl : ihl options < 16 := by
    have hle := options.le
    unfold ihl
    omega
  rw [toNat_upper, UInt8.toNat_ofNat_of_lt' (show _ < 256 by omega)]
  omega

/-- What is read for the flags: the lower three bits of the byte that has the flags in its upper three. -/
theorem WireIPv4.flags_encode (h : WireIPv4) :
    ((UInt16.ofNat (h.flags.val * 8192 + h.fragOff.val) >>> 8).toUInt8 &&& 0x07).toNat = h.fragOff.val / 256 % 8 := by
  have hflags := h.flags.isLt
  have hfrag := h.fragOff.isLt
  have hand : ∀ x : UInt8, (x &&& 0x07).toNat = x.toNat % 8 := by
    intro x
    rw [UInt8.toNat_and]
    exact Nat.and_two_pow_sub_one_eq_mod x.toNat 3
  rw [hand, toNat_high, UInt16.toNat_ofNat_of_lt' (show _ < 65536 by omega)]
  omega

theorem WireIPv4.encode_append (h : WireIPv4) (options : IPv4Options) (rest : List UInt8) :
    h.encode options ++ rest =
      [UInt8.ofNat (h.version.val * 16 + ihl options), h.tos] ++ (putUint16 h.totalLen ++ (putUint16 h.id ++
        (putUint16 (UInt16.ofNat (h.flags.val * 8192 + h.fragOff.val)) ++ ([h.ttl, h.protocol] ++
          (putUint16 h.checksum ++ (h.src.val ++ (h.dst.val ++ (options.bytes ++ rest)))))))) := by
  simp only [encode, List.append_assoc]

/-- An encoded header is read but for its flags and its fragment offset. Twenty bytes are cut off, so that the
options are left with what follows. -/
theorem decodeIPv4Header_encode (h : WireIPv4) (options : IPv4Options) (rest : List UInt8) (p : Packet)
    (hdata : p.data = h.encode options ++ rest) :
    Packet.decodeIPv4Header p = .ok ()
      { p with
        l3 := some (.ipv4 { h.header with flags := h.fragOff.val / 256 % 8, fragOff := 0 })
        data := options.bytes ++ rest } := by
  have hsize : ¬ p.data.length < Packet.ipv4HLen := by
    rw [hdata, List.length_append, h.length_encode]
    simp only [WireIPv4.ihl, Packet.ipv4HLen]
    omega
  unfold Packet.decodeIPv4Header
  rw [if_neg hsize, hdata, h.encode_append]
  simp only [putUint16, List.cons_append, List.nil_append, bits16, List.getD_cons_zero, List.getD_cons_succ, bits_put,
    h.version_encode, h.flags_encode, List.drop_succ_cons, List.drop_zero, Packet.ipv4HLen]
  rw [show (8 : Nat) = 4 + 4 from rfl, ← List.drop_drop, h.src.take_append, h.src.drop_append, h.dst.take_append,
    h.dst.drop_append]
  rfl

/-- Every field of a header without options comes back, and exactly the header is cut off, if and only if the flags
and the fragment offset are zero. -/
theorem decodeIPv4Header_encode_iff (h : WireIPv4) (rest : List UInt8) (p : Packet) :
    Packet.decodeIPv4Header { p with data := h.encode .none ++ rest } =
        .ok () { p with l3 := some (.ipv4 h.header), data := rest } ↔
      h.flags.val = 0 ∧ h.fragOff.val = 0 := by
  rw [decodeIPv4Header_encode h .none rest _ rfl]
  constructor
  · intro heq
    have hheader := NetworkHeader.ipv4.inj (Option.some.inj (congrArg Packet.l3 (EStateM.Result.ok.inj heq).2))
    have hflags : h.fragOff.val / 256 % 8 = h.flags.val := congrArg IPv4Header.flags hheader
    have hfrag : 0 = h.fragOff.val := congrArg IPv4Header.fragOff hheader
    omega
  · rintro ⟨hflags, hfrag⟩
    have hheader : { h.header with flags := h.fragOff.val / 256 % 8, fragOff := 0 } = h.header := by
      unfold WireIPv4.header
      rw [hflags, hfrag]
    rw [hheader]
    rfl

def WireIPv4.whole (totalLen id : UInt16) (src dst : Octets 4) : WireIPv4 where
  version := ⟨4, by decide⟩
  tos := 0
  totalLen := totalLen
  id := id
  flags := ⟨0, by decide⟩
  fragOff := ⟨0, by decide⟩
  ttl := 64
  protocol := 17
  checksum := 0
  src := src
  dst := dst

def client : Octets 4 := ⟨[10, 0, 0, 1], rfl⟩

def server : Octets 4 := ⟨[10, 0, 0, 2], rfl⟩

def dontFragment : WireIPv4 := { WireIPv4.whole 20 0 client server with flags := ⟨2, by decide⟩ }

/-- It comes back without the flag. -/
theorem decodeIPv4Header_dontFragment :
    dontFragment.header.flags = 2 ∧
      Packet.decodeIPv4Header { data := dontFragment.encode .none } =
        .ok () { l3 := some (.ipv4 { dontFragment.header with flags := 0 }) } :=
  ⟨rfl, rfl⟩

/-! ## IPv6 -/

structure WireIPv6 where
  version : Fin 16
  trafficClass : UInt8
  flowLabel : Fin 1048576
  payloadLen : UInt16
  nextHeader : UInt8
  hopLimit : UInt8
  src : Octets 16
  dst : Octets 16

namespace WireIPv6

def bestEffort (payloadLen : UInt16) (nextHeader : UInt8) (src dst : Octets 16) : WireIPv6 where
  version := ⟨6, by decide⟩
  trafficClass := 0
  flowLabel := ⟨0, by decide⟩
  payloadLen := payloadLen
  nextHeader := nextHeader
  hopLimit := 64
  src := src
  dst := dst

def word (h : WireIPv6) : UInt32 :=
  UInt32.ofNat (h.version.val * 2 ^ 28 + h.trafficClass.toNat * 2 ^ 20 + h.flowLabel.val)

def encode (h : WireIPv6) : List UInt8 :=
  putUint32 h.word ++ putUint16 h.payloadLen ++ [h.nextHeader, h.hopLimit] ++ h.src.val ++ h.dst.val

def header (h : WireIPv6) : IPv6Header where
  version := h.version.val
  trafficClass := h.trafficClass.toNat
  flowLabel := h.flowLabel.val
  payloadLen := h.payloadLen.toNat
  nextHeader := h.nextHeader.toNat
  hopLimit := h.hopLimit.toNat
  src := IP.string h.src.val
  dst := IP.string h.dst.val

theorem length_encode (h : WireIPv6) : h.encode.length = 40 := by
  simp only [encode, List.length_append, List.length_cons, List.length_nil, length_putUint16, length_putUint32,
    h.src.property, h.dst.property]

theorem encode_append (h : WireIPv6) (rest : List UInt8) :
    h.encode ++ rest =
      putUint32 h.word ++ (putUint16 h.payloadLen ++ ([h.nextHeader, h.hopLimit] ++
        (h.src.val ++ (h.dst.val ++ rest)))) := by
  simp only [encode, List.append_assoc]

theorem toNat_word (h : WireIPv6) :
    h.word.toNat = h.version.val * 2 ^ 28 + h.trafficClass.toNat * 2 ^ 20 + h.flowLabel.val := by
  have hversion := h.version.isLt
  have hclass := h.trafficClass.toNat_lt
  have hlabel := h.flowLabel.isLt
  exact UInt32.toNat_ofNat_of_lt' (show _ < 4294967296 by omega)

end WireIPv6

theorem shiftLeft_or {a b : Nat} (k : Nat) (hb : b < 2 ^ k) : a <<< k ||| b = b + a * 2 ^ k := by
  rw [Nat.or_comm, or_shiftLeft a b k hb]

theorem WireIPv6.version_encode (h : WireIPv6) : (h.word >>> 24).toUInt8.toNat >>> 4 = h.version.val := by
  have hclass := h.trafficClass.toNat_lt
  have hlabel := h.flowLabel.isLt
  rw [(toNat_bytes h.word).1, h.toNat_word, Nat.shiftRight_eq_div_pow]
  omega

theorem WireIPv6.trafficClass_encode (h : WireIPv6) :
    ((h.word >>> 24).toUInt8 &&& 0x0f).toNat <<< 4 ||| (h.word >>> 16).toUInt8.toNat >>> 4 = h.trafficClass.toNat := by
  have hclass := h.trafficClass.toNat_lt
  have hlabel := h.flowLabel.isLt
  obtain ⟨h0, h1, -, -⟩ := toNat_bytes h.word
  rw [toNat_lower, h0, h1, h.toNat_word, Nat.shiftRight_eq_div_pow, shiftLeft_or 4 (by omega)]
  omega

theorem WireIPv6.flowLabel_encode (h : WireIPv6) :
    ((h.word >>> 16).toUInt8 &&& 0x0f).toNat <<< 16 ||| (h.word >>> 8).toUInt8.toNat <<< 8 ||| h.word.toUInt8.toNat =
      h.flowLabel.val := by
  have hlabel := h.flowLabel.isLt
  obtain ⟨-, h1, h2, h3⟩ := toNat_bytes h.word
  rw [toNat_lower, Nat.or_assoc, shiftLeft_or 8 (by omega), shiftLeft_or 16 (by omega), h1, h2, h3, h.toNat_word]
  omega

theorem decodeIPv6Header_encode (h : WireIPv6) (rest : List UInt8) (p : Packet) (hdata : p.data = h.encode ++ rest) :
    Packet.decodeIPv6Header p = .ok () { p with l3 := some (.ipv6 h.header), data := rest } := by
  have hsize : ¬ p.data.length < Packet.ipv6HLen := by
    rw [hdata, List.length_append, h.length_encode]
    simp only [Packet.ipv6HLen]
    omega
  unfold Packet.decodeIPv6Header
  rw [if_neg hsize, hdata, h.encode_append]
  simp only [putUint16, putUint32, List.cons_append, List.nil_append, bits16, List.getD_cons_zero,
    List.getD_cons_succ, bits_put, h.version_encode, h.trafficClass_encode, h.flowLabel_encode,
    List.drop_succ_cons, List.drop_zero, Packet.ipv6HLen]
  rw [show (32 : Nat) = 16 + 16 from rfl, ← List.drop_drop, h.src.take_append, h.src.drop_append, h.dst.take_append,
    h.dst.drop_append]
  rfl

/-! ## The transport layer -/

structure WireICMP where
  type : UInt8
  code : UInt8
  checksum : UInt16
  rest : UInt32

/-- The reserved bits may be set on the wire; the decoder does not keep them. -/
structure WireTCP where
  srcPort : UInt16
  dstPort : UInt16
  seq : UInt32
  ack : UInt32
  dataOffset : Fin 16
  reserved : Fin 8
  flags : Fin 512
  window : UInt16
  checksum : UInt16
  urgent : UInt16

structure WireUDP where
  srcPort : UInt16
  dstPort : UInt16
  length : UInt16
  checksum : UInt16

def WireTCP.word (h : WireTCP) : UInt16 :=
  UInt16.ofNat (h.dataOffset.val * 4096 + h.reserved.val * 512 + h.flags.val)

inductive WireTransport where
  | icmp (h : WireICMP)
  | tcp (h : WireTCP)
  | udp (h : WireUDP)

namespace WireTransport

def protocol : WireTransport → Nat
  | icmp _ => ianaProtoICMP
  | tcp _ => ianaProtoTCP
  | udp _ => ianaProtoUDP

def encode : WireTransport → List UInt8
  | icmp h => [h.type, h.code] ++ putUint16 h.checksum ++ putUint32 h.rest
  | tcp h =>
    putUint16 h.srcPort ++ putUint16 h.dstPort ++ putUint32 h.seq ++ putUint32 h.ack ++ putUint16 h.word ++
      putUint16 h.window ++ putUint16 h.checksum ++ putUint16 h.urgent
  | udp h => putUint16 h.srcPort ++ putUint16 h.dstPort ++ putUint16 h.length ++ putUint16 h.checksum

/-- The fields of the header, as `packet` draws them: the rest of an ICMP header is a word of 32 bits. -/
def header : WireTransport → TransportHeader
  | icmp h => .icmp { type := h.type.toNat, code := h.code.toNat, restHeader := putUint32 h.rest }
  | tcp h =>
    .tcp {
      srcPort := h.srcPort.toNat
      dstPort := h.dstPort.toNat
      dataOffset := h.dataOffset.val
      reserved := 0
      flags := h.flags.val }
  | udp h => .udp { srcPort := h.srcPort.toNat, dstPort := h.dstPort.toNat }

/-- The header that a packet keeps. An ICMP header is kept with all that follows its checksum. -/
def kept (payload : List UInt8) : WireTransport → TransportHeader
  | icmp h => .icmp { type := h.type.toNat, code := h.code.toNat, restHeader := putUint32 h.rest ++ payload }
  | tcp h => (tcp h).header
  | udp h => (udp h).header

def cut : WireTransport → Nat
  | icmp _ => 4
  | tcp _ => 20
  | udp _ => 8

/-- The fields of a header of the same protocol, read from the start of a byte string. -/
def fields (b : List UInt8) : WireTransport → TransportHeader
  | icmp _ => .icmp { type := (b.getD 0 0).toNat, code := (b.getD 1 0).toNat, restHeader := b.drop 4 }
  | tcp _ =>
    .tcp {
      srcPort := bits16 b 0
      dstPort := bits16 b 2
      dataOffset := (b.getD 12 0).toNat >>> 4
      reserved := 0
      flags := bits16 b 12 &&& 0x01ff }
  | udp _ => .udp { srcPort := bits16 b 0, dstPort := bits16 b 2 }

end WireTransport

theorem WireTCP.toNat_word (h : WireTCP) :
    h.word.toNat = h.dataOffset.val * 4096 + h.reserved.val * 512 + h.flags.val := by
  have hoffset := h.dataOffset.isLt
  have hreserved := h.reserved.isLt
  have hflags := h.flags.isLt
  exact UInt16.toNat_ofNat_of_lt' (show _ < 65536 by omega)

theorem and_01ff (n : Nat) : n &&& 0x01ff = n % 512 := Nat.and_two_pow_sub_one_eq_mod n 9

theorem WireTCP.dataOffset_encode (h : WireTCP) : (h.word >>> 8).toUInt8.toNat >>> 4 = h.dataOffset.val := by
  have hreserved := h.reserved.isLt
  have hflags := h.flags.isLt
  rw [toNat_high, h.toNat_word, Nat.shiftRight_eq_div_pow]
  omega

theorem WireTCP.flags_encode (h : WireTCP) : h.word.toNat &&& 0x01ff = h.flags.val := by
  have hflags := h.flags.isLt
  rw [and_01ff, h.toNat_word]
  omega

theorem WireTransport.fields_encode (t : WireTransport) (payload : List UInt8) :
    t.fields (t.encode ++ payload) = t.kept payload := by
  cases t with
  | icmp h => rfl
  | tcp h =>
    simp only [fields, encode, kept, header, putUint16, putUint32, List.cons_append, List.nil_append, bits16,
      List.getD_cons_zero, List.getD_cons_succ, bits_put, h.dataOffset_encode, h.flags_encode]
  | udp h =>
    simp only [fields, encode, kept, header, putUint16, List.cons_append, List.nil_append, bits16,
      List.getD_cons_zero, List.getD_cons_succ, bits_put]

def NetworkHeader.next : NetworkHeader → Nat
  | ipv4 h => h.protocol
  | ipv6 h => h.nextHeader

theorem decodeNextLayer_of_le (t : WireTransport) {l3 : NetworkHeader} {p : Packet} (hl3 : p.l3 = some l3)
    (hproto : l3.next = t.protocol) (hlen : t.encode.length ≤ p.data.length) :
    Packet.decodeNextLayer p = .ok () { p with l4 := some (t.fields p.data), data := p.data.drop t.cut } := by
  have hnext : Packet.decodeNextLayer p =
      if l3.next = ianaProtoICMP then Packet.transport decodeICMP .icmp 4 p
      else if l3.next = ianaProtoTCP then Packet.transport decodeTCP .tcp 20 p
      else if l3.next = ianaProtoUDP then Packet.transport decodeUDP .udp 8 p
      else .error (.err .errUnknownTransportLayer) p := by
    unfold Packet.decodeNextLayer
    rw [hl3]
    cases l3 <;> rfl
  rw [hnext]
  cases t with
  | icmp h =>
    have hproto : l3.next = ianaProtoICMP := hproto
    have hsize : ¬ p.data.length < 5 := by
      have : (WireTransport.icmp h).encode.length = 8 := rfl
      omega
    rw [if_pos hproto]
    unfold Packet.transport decodeICMP
    rw [if_neg hsize]
    rfl
  | tcp h =>
    have hproto : l3.next = ianaProtoTCP := hproto
    have hsize : ¬ p.data.length < 20 := by
      have : (WireTransport.tcp h).encode.length = 20 := rfl
      omega
    rw [if_neg (by rw [hproto]; decide), if_pos hproto]
    unfold Packet.transport decodeTCP
    rw [if_neg hsize]
    rfl
  | udp h =>
    have hproto : l3.next = ianaProtoUDP := hproto
    have hsize : ¬ p.data.length < 8 := by
      have : (WireTransport.udp h).encode.length = 8 := rfl
      omega
    rw [if_neg (by rw [hproto]; decide), if_neg (by rw [hproto]; decide), if_pos hproto]
    unfold Packet.transport decodeUDP
    rw [if_neg hsize]
    rfl

end VFlow
