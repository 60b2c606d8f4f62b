import VFlow.Sflow.Headers

/-!
# From the link to the transport layer

An IP packet is sampled bare or in an Ethernet frame, with a tag or without (`Link`), and all the ways in lead to
the same decoders (`decoder_frame`). An IPv6 frame comes back as it was written. An IPv4 packet with options does
not: twenty bytes are taken for its header whatever the header length says, so that the transport layer is read
from the options (`decoder_ipv4`).
-/

namespace VFlow

open BigEndian

/-! ## Frames -/

def ethernetFrame (dst src : Octets 6) (etherType : UInt16) (packet : List UInt8) : List UInt8 :=
  dst.val ++ (src.val ++ (putUint16 etherType ++ packet))

def ethernetDatalink (dst src : Octets 6) (etherType : UInt16) : Datalink where
  dstMAC := hwAddrFmt dst.val
  srcMAC := hwAddrFmt src.val
  etherType := etherType

/-- What a sampled header starts with. -/
inductive Link where
  | bare
  | ethernet (dst src : Octets 6)
  | tagged (dst src : Octets 6) (tci : UInt16)

inductive Family where
  | ipv4
  | ipv6

namespace Family

def etherType : Family → UInt16
  | ipv4 => etherTypeIPv4
  | ipv6 => etherTypeIPv6

def headerProtocol : Family → UInt32
  | ipv4 => Packet.headerProtocolIPv4
  | ipv6 => Packet.headerProtocolIPv6

def decodeHeader : Family → PacketM Unit
  | ipv4 => Packet.decodeIPv4Header
  | ipv6 => Packet.decodeIPv6Header

end Family

namespace Link

def headerProtocol (f : Family) : Link → UInt32
  | bare => f.headerProtocol
  | ethernet _ _ => Packet.headerProtocolEthernet
  | tagged _ _ _ => Packet.headerProtocolEthernet

def frame (f : Family) (packet : List UInt8) : Link → List UInt8
  | bare => packet
  | ethernet dst src => ethernetFrame dst src f.etherType packet
  | tagged dst src tci => VFlow.tagged (ethernetFrame dst src f.etherType packet) tci

def l2 (f : Family) : Link → Datalink
  | bare => {}
  | ethernet dst src => ethernetDatalink dst src f.etherType
  | tagged dst src tci => { ethernetDatalink dst src f.etherType with vlan := tci.toNat }

end Link

theorem length_ethernetFrame (dst src : Octets 6) (etherType : UInt16) (packet : List UInt8) :
    (ethernetFrame dst src etherType packet).length = 14 + packet.length := by
  simp only [ethernetFrame, List.length_append, dst.property, src.property, length_putUint16]
  omega

theorem drop_ethernetFrame (dst src : Octets 6) (etherType : UInt16) (packet : List UInt8) :
    (ethernetFrame dst src etherType packet).drop 12 = putUint16 etherType ++ packet := by
  rw [show (12 : Nat) = 6 + 6 from rfl, ← List.drop_drop, ethernetFrame, dst.drop_append, src.drop_append]

section frame
variable (dst src : Octets 6) {etherType : UInt16} (packet : List UInt8)

theorem decodeIEEE802_frame (h : etherType ≠ etherTypeIEEE8021Q) :
    decodeIEEE802 (ethernetFrame dst src etherType packet) = .ok (ethernetDatalink dst src etherType) := by
  have htype : ((ethernetFrame dst src etherType packet).getD 13 0).toUInt16 |||
      ((ethernetFrame dst src etherType packet).getD 12 0).toUInt16 <<< 8 = etherType := by
    have hword : uint16 ((ethernetFrame dst src etherType packet).drop 12) = etherType := by
      rw [drop_ethernetFrame, uint16_put]
    rwa [uint16, getD_drop, getD_drop] at hword
  have hsrc : ((ethernetFrame dst src etherType packet).drop 6).take 6 = src.val := by
    rw [ethernetFrame, dst.drop_append, src.take_append]
  unfold decodeIEEE802
  rw [if_neg (by rw [length_ethernetFrame]; omega)]
  dsimp only
  rw [htype, if_pos h, hsrc, ethernetFrame, dst.take_append]
  rfl

theorem decodeEthernet_frame (h : etherType ≠ etherTypeIEEE8021Q) :
    Packet.decodeEthernet { data := ethernetFrame dst src etherType packet } =
      .ok () { l2 := ethernetDatalink dst src etherType, data := packet } := by
  have hrest : (ethernetFrame dst src etherType packet).drop 14 = packet := by
    rw [show (14 : Nat) = 12 + 2 from rfl, ← List.drop_drop, drop_ethernetFrame]
    rfl
  unfold Packet.decodeEthernet
  dsimp only
  rw [if_neg (by rw [length_ethernetFrame]; omega), decodeIEEE802_frame dst src packet h]
  dsimp only
  rw [if_neg (show (ethernetDatalink dst src etherType).etherType ≠ etherTypeIEEE8021Q from h), hrest]

end frame

/-! ## The ways in -/

/-- The two layers above the link. -/
def Family.decode (f : Family) : PacketM Unit := do
  f.decodeHeader
  Packet.decodeNextLayer

theorem Family.etherType_ne (f : Family) : f.etherType ≠ etherTypeIEEE8021Q := by
  cases f <;> decide

theorem decoder_bare (f : Family) (packet : List UInt8) :
    Packet.decoder packet f.headerProtocol = f.decode { data := packet } := by
  cases f <;> rfl

theorem decoder_ethernet (f : Family) (dst src : Octets 6) (packet : List UInt8) :
    Packet.decoder (ethernetFrame dst src f.etherType packet) Packet.headerProtocolEthernet =
      f.decode { l2 := ethernetDatalink dst src f.etherType, data := packet } := by
  unfold Packet.decoder
  dsimp only
  rw [if_pos rfl]
  unfold Packet.decodeEthernetHeader
  rw [packet_bind_apply, decodeEthernet_frame dst src packet f.etherType_ne]
  cases f <;> rfl

/-- A packet of which the upper layers are decoded whatever the link is decoded over every link. -/
theorem decoder_frame {f : Family} {packet : List UInt8} {l3 : Option NetworkHeader} {l4 : Option TransportHeader}
    {rest : List UInt8} (hdecode : ∀ l2, f.decode { l2, data := packet } = .ok () { l2, l3, l4, data := rest })
    (link : Link) :
    Packet.decoder (link.frame f packet) (link.headerProtocol f) =
      .ok () { l2 := link.l2 f, l3, l4, data := rest } := by
  cases link with
  | bare => exact (decoder_bare f packet).trans (hdecode {})
  | ethernet dst src => exact (decoder_ethernet f dst src packet).trans (hdecode _)
  | tagged dst src tci =>
    have htype : uint16 ((ethernetFrame dst src f.etherType packet).drop 12) ≠ etherTypeIEEE8021Q := by
      rw [drop_ethernetFrame, uint16_put]
      exact f.etherType_ne
    have hlen : 14 ≤ (ethernetFrame dst src f.etherType packet).length := by
      rw [length_ethernetFrame]
      omega
    exact (decoder_tagged hlen htype tci).trans (by rw [decoder_ethernet, hdecode]; rfl)

theorem decode_ipv4 (h : WireIPv4) (options : IPv4Options) (t : WireTransport) (payload : List UInt8)
    (hproto : h.protocol.toNat = t.protocol) (l2 : Datalink) :
    Family.ipv4.decode { l2, data := h.encode options ++ (t.encode ++ payload) } =
      .ok () {
        l2
        l3 := some (.ipv4 { h.header with flags := h.fragOff.val / 256 % 8, fragOff := 0 })
        l4 := some (t.fields (options.bytes ++ (t.encode ++ payload)))
        data := (options.bytes ++ (t.encode ++ payload)).drop t.cut } := by
  have hheader : Family.ipv4.decodeHeader _ = _ := decodeIPv4Header_encode h options (t.encode ++ payload)
    { l2, data := h.encode options ++ (t.encode ++ payload) } rfl
  rw [Family.decode, packet_bind_apply, hheader]
  refine decodeNextLayer_of_le t rfl hproto ?_
  simp only [List.length_append]
  omega

theorem decode_ipv6 (h : WireIPv6) (t : WireTransport) (payload : List UInt8)
    (hproto : h.nextHeader.toNat = t.protocol) (l2 : Datalink) :
    Family.ipv6.decode { l2, data := h.encode ++ (t.encode ++ payload) } =
      .ok () {
        l2
        l3 := some (.ipv6 h.header)
        l4 := some (t.kept payload)
        data := (t.encode ++ payload).drop t.cut } := by
  have hheader : Family.ipv6.decodeHeader _ = _ := decodeIPv6Header_encode h (t.encode ++ payload)
    { l2, data := h.encode ++ (t.encode ++ payload) } rfl
  rw [Family.decode, packet_bind_apply, hheader, ← t.fields_encode payload]
  refine decodeNextLayer_of_le t rfl hproto ?_
  simp only [List.length_append]
  omega

/-! ## IPv6 -/

/-- An IPv6 packet is decoded to the values of its headers, over every link. -/
theorem decoder_ipv6 (link : Link) (h : WireIPv6) (t : WireTransport) (payload : List UInt8)
    (hproto : h.nextHeader.toNat = t.protocol) :
    Packet.decoder (link.frame .ipv6 (h.encode ++ (t.encode ++ payload))) (link.headerProtocol .ipv6) =
      .ok () {
        l2 := link.l2 .ipv6
        l3 := some (.ipv6 h.header)
        l4 := some (t.kept payload)
        data := (t.encode ++ payload).drop t.cut } :=
  decoder_frame (decode_ipv6 h t payload hproto) link

def segmentIPv6 : WireIPv6 :=
  { WireIPv6.bestEffort 22 6
      ⟨[0x20, 0x01, 0x0d, 0xb8, 0, 0, 0, 0, 0, 0, 0, 0, 0, 0, 0, 1], rfl⟩
      ⟨[0x20, 0x01, 0x0d, 0xb8, 0, 0, 0, 0, 0, 0, 0, 0, 0, 0, 0, 2], rfl⟩ with
    trafficClass := 0xb8
    flowLabel := ⟨0xabcde, by decide⟩ }

def segmentTCP : WireTCP where
  srcPort := 443
  dstPort := 51000
  seq := 1
  ack := 2
  dataOffset := ⟨5, by decide⟩
  reserved := ⟨1, by decide⟩
  flags := ⟨0x118, by decide⟩
  window := 512
  checksum := 0
  urgent := 0

theorem decoder_segmentIPv6 :
    Packet.decoder
        (Link.frame .ipv6 (segmentIPv6.encode ++ ((WireTransport.tcp segmentTCP).encode ++ [7, 8]))
          (.ethernet ⟨[1, 2, 3, 4, 5, 6], rfl⟩ ⟨[7, 8, 9, 10, 11, 12], rfl⟩))
        Packet.headerProtocolEthernet =
      .ok () {
        l2 := { dstMAC := "01:02:03:04:05:06", srcMAC := "07:08:09:0a:0b:0c", etherType := 0x86DD }
        l3 := some (.ipv6 {
          version := 6
          trafficClass := 0xb8
          flowLabel := 0xabcde
          payloadLen := 22
          nextHeader := 6
          hopLimit := 64
          src := "2001:db8::1"
          dst := "2001:db8::2" })
        l4 := some (.tcp { srcPort := 443, dstPort := 51000, dataOffset := 5, reserved := 0, flags := 0x118 })
        data := [7, 8] } :=
  (decoder_ipv6 (.ethernet ⟨[1, 2, 3, 4, 5, 6], rfl⟩ ⟨[7, 8, 9, 10, 11, 12], rfl⟩) segmentIPv6 (.tcp segmentTCP)
    [7, 8] rfl).trans (congrArg (EStateM.Result.ok ()) (by decide +kernel))

/-! ## IPv4 -/

/-- An IPv4 packet is decoded over every link, with a transport header that is read right after the first twenty
bytes. -/
theorem decoder_ipv4 (link : Link) (h : WireIPv4) (options : IPv4Options) (t : WireTransport) (payload : List UInt8)
    (hproto : h.protocol.toNat = t.protocol) :
    Packet.decoder (link.frame .ipv4 (h.encode options ++ (t.encode ++ payload))) (link.headerProtocol .ipv4) =
      .ok () {
        l2 := link.l2 .ipv4
        l3 := some (.ipv4 { h.header with flags := h.fragOff.val / 256 % 8, fragOff := 0 })
        l4 := some (t.fields (options.bytes ++ (t.encode ++ payload)))
        data := (options.bytes ++ (t.encode ++ payload)).drop t.cut } :=
  decoder_frame (decode_ipv4 h options t payload hproto) link

/-- The options start with the bytes of the header behind them that the decoder looks at: the ports, and twelve
bytes on the data offset and the flags of a TCP header. What is kept of an ICMP header tells where it starts. -/
def WireTransport.Repeated (options : List UInt8) : WireTransport → Prop
  | icmp _ => False
  | tcp h =>
    options.take 4 = putUint16 h.srcPort ++ putUint16 h.dstPort ∧
      (uint16 ((options ++ (tcp h).encode).drop 12)).toNat / 4096 = h.dataOffset.val ∧
      (uint16 ((options ++ (tcp h).encode).drop 12)).toNat % 512 = h.flags.val
  | udp h => options.take 4 = putUint16 h.srcPort ++ putUint16 h.dstPort

/-- Nothing follows an ICMP header, of which all that follows is kept as well. -/
def WireTransport.Ends (payload : List UInt8) : WireTransport → Prop
  | icmp _ => payload = []
  | tcp _ => True
  | udp _ => True

theorem WireTransport.kept_eq_header_iff (payload : List UInt8) (t : WireTransport) :
    t.kept payload = t.header ↔ t.Ends payload := by
  cases t with
  | icmp h => simp [kept, header, Ends]
  | tcp h => simp [kept, Ends]
  | udp h => simp [kept, Ends]

theorem bits16_ports_iff {b : List UInt8} (hlen : 4 ≤ b.length) (v w : UInt16) :
    bits16 b 0 = v.toNat ∧ bits16 b 2 = w.toNat ↔ b.take 4 = putUint16 v ++ putUint16 w := by
  match b, hlen with
  | a :: b :: c :: d :: rest, _ =>
    rw [bits16_eq, bits16_eq, UInt16.toNat_inj, UInt16.toNat_inj]
    constructor
    · rintro ⟨rfl, rfl⟩
      rw [List.drop_zero, put_uint16, show List.drop 2 (a :: b :: c :: d :: rest) = c :: d :: rest from rfl,
        put_uint16]
      rfl
    · intro htake
      have heq : a :: b :: c :: d :: rest = putUint16 v ++ (putUint16 w ++ rest) := by
        rw [← List.append_assoc, ← htake]
        rfl
      rw [heq]
      exact ⟨uint16_put v _, uint16_put w rest⟩

section
variable {options : List UInt8} (payload : List UInt8)

theorem WireTransport.fields_iff (hwords : options.length % 4 = 0) (t : WireTransport) :
    t.fields (options ++ (t.encode ++ payload)) = t.header ↔
      options = [] ∧ t.Ends payload ∨ t.Repeated options := by
  by_cases hnil : options = []
  · have hrepeated : ¬ t.Repeated [] := by cases t <;> simp [Repeated, putUint16]
    rw [hnil, List.nil_append, t.fields_encode payload, t.kept_eq_header_iff payload]
    simp only [true_and, hrepeated, or_false]
  have hlen : 4 ≤ options.length := by
    have := List.length_pos_of_ne_nil hnil
    omega
  have htake : ∀ b, (options ++ b).take 4 = options.take 4 := fun b => List.take_append_of_le_length hlen
  have hports : ∀ b (v w : UInt16), bits16 (options ++ b) 0 = v.toNat ∧ bits16 (options ++ b) 2 = w.toNat ↔
      options.take 4 = putUint16 v ++ putUint16 w := by
    intro b v w
    rw [bits16_ports_iff (by rw [List.length_append]; omega), htake]
  simp only [hnil, false_and, false_or]
  cases t with
  | icmp h =>
    simp only [Repeated, iff_false]
    intro heq
    have hrest := congrArg List.length (ICMP.mk.inj (TransportHeader.icmp.inj heq)).2.2
    simp [encode, List.length_drop] at hrest
    omega
  | tcp h =>
    have hword : uint16 ((options ++ ((tcp h).encode ++ payload)).drop 12) =
        uint16 ((options ++ (tcp h).encode).drop 12) := by
      rw [← List.append_assoc]
      refine uint16_drop_append ?_
      have : (tcp h).encode.length = 20 := rfl
      rw [List.length_append]
      omega
    have hupper := getD_eq_uint16 (b := options ++ ((tcp h).encode ++ payload)) (k := 12) (by
      have : (tcp h).encode.length = 20 := rfl
      simp only [List.length_append]
      omega)
    simp only [fields, header, Repeated, TransportHeader.tcp.injEq, TCPHeader.mk.injEq, true_and]
    rw [hupper, bits16_eq _ 12, hword, and_01ff, Nat.shiftRight_eq_div_pow, Nat.div_div_eq_div_mul, ← and_assoc, hports]
  | udp h =>
    simp only [fields, header, Repeated, TransportHeader.udp.injEq, UDPHeader.mk.injEq]
    exact hports _ _ _

end

/-- The transport header of an IPv4 packet is found exactly when there are no options and nothing follows an ICMP
header, or when the options repeat what is looked at. -/
theorem decoder_transport_iff (link : Link) (h : WireIPv4) (options : IPv4Options) (t : WireTransport)
    (payload : List UInt8) (hproto : h.protocol.toNat = t.protocol) :
    (∃ p, Packet.decoder (link.frame .ipv4 (h.encode options ++ (t.encode ++ payload))) (link.headerProtocol .ipv4) =
        .ok () p ∧ p.l4 = some t.header) ↔
      options.bytes = [] ∧ t.Ends payload ∨ t.Repeated options.bytes := by
  rw [decoder_ipv4 link h options t payload hproto, ← t.fields_iff payload options.words]
  constructor
  · rintro ⟨p, hp, hl4⟩
    rw [← (EStateM.Result.ok.inj hp).2] at hl4
    exact Option.some.inj hl4
  · intro heq
    exact ⟨_, rfl, congrArg some heq⟩

def queryIPv4 : WireIPv4 := .whole 32 1 client server

def queryUDP : WireUDP where
  srcPort := 51000
  dstPort := 53
  length := 8
  checksum := 0

def noOperation : IPv4Options := ⟨[1, 1, 1, 1], rfl, by decide⟩

theorem decoder_query :
    ∃ p, Packet.decoder (queryIPv4.encode .none ++ (WireTransport.udp queryUDP).encode) Packet.headerProtocolIPv4 =
      .ok () p ∧ p.l4 = some (.udp { srcPort := 51000, dstPort := 53 }) :=
  (decoder_transport_iff .bare queryIPv4 .none (.udp queryUDP) [] rfl).mpr (.inl ⟨rfl, trivial⟩)

/-- With the options the ports are `257`, on both sides. -/
theorem decoder_query_noOperation :
    ∃ p, Packet.decoder (queryIPv4.encode noOperation ++ (WireTransport.udp queryUDP).encode)
        Packet.headerProtocolIPv4 = .ok () p ∧ p.l4 = some (.udp { srcPort := 257, dstPort := 257 }) :=
  ⟨_, rfl, rfl⟩

end VFlow
