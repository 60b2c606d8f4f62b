import VFlow.Mirror.Raw
import VFlow.Sflow.Layers

/-!
# What the IPFIX mirror sends

Whatever the buffers held before, a message that fits is sent in a packet that depends on the message alone
(`step_of_fits`): the headers keep the fixed fields of their templates, and all other bytes are written for every
message (`Valid`). A message fits when the headers and the body are no longer than `IPFIXUDPSize`, although the body
alone may be that long. The addresses of IPv4 are taken from the last four bytes of sixteen, so that an address of
four bytes is a panic.

The packets are read back with the decoder of the package `packet`. In the IPv4 packets everything agrees. In the
IPv6 packets the length of the header is added to the payload length, which does not count it.
-/

namespace VFlow.Mirror

open BigEndian

/-! ## Headers -/

namespace Header

def front : Header → List UInt8
  | ipv4 ip => [ip.version <<< 4 ||| ip.ihl, ip.tos]
  | ipv6 ip =>
    [ip.version <<< 4 ||| ip.trafficClass >>> 4, ip.trafficClass <<< 4 ||| (ip.flowLabel >>> 16).toUInt8] ++
      putUint16 ip.flowLabel.toUInt16

def middle : Header → List UInt8
  | ipv4 ip => [0, 0, 0, 0, ip.ttl, ip.protocol, 0, 0]
  | ipv6 ip => [ip.nextHeader, ip.hopLimit]

def bytes (len : UInt16) (src dst : List UInt8) (h : Header) : List UInt8 :=
  h.front ++ (putUint16 len ++ (h.middle ++ (src ++ dst)))

def addr (a : IP) : Header → List UInt8
  | ipv4 _ => a.drop 12
  | ipv6 _ => a

def addrLen : Header → Nat
  | ipv4 _ => 4
  | ipv6 _ => 16

def len (n : Nat) : Header → UInt16
  | ipv4 _ => UInt16.ofNat ipv4HLen + UInt16.ofNat n
  | ipv6 _ => UInt16.ofNat ipv6HLen + UInt16.ofNat n

def hLen : Header → Nat
  | ipv4 _ => ipv4HLen
  | ipv6 _ => ipv6HLen

/-- A buffer holds the header with some length and addresses. -/
def Holds (h : Header) (b : List UInt8) : Prop :=
  ∃ len src dst, src.length = h.addrLen ∧ dst.length = h.addrLen ∧ b = h.bytes len src dst

theorem length_addr (h : Header) {a : IP} (ha : a.length = 16) : (h.addr a).length = h.addrLen := by
  cases h with
  | ipv4 ip => rw [addr, List.length_drop, ha, addrLen]
  | ipv6 ip => exact ha

variable {src dst : List UInt8}

theorem length_bytes (h : Header) (len : UInt16) (hsrc : src.length = h.addrLen) (hdst : dst.length = h.addrLen) :
    (h.bytes len src dst).length = h.hLen := by
  cases h with
  | ipv4 ip => simp [bytes, front, middle, hsrc, hdst, addrLen, hLen, ipv4HLen]
  | ipv6 ip => simp [bytes, front, middle, hsrc, hdst, addrLen, hLen, ipv6HLen]

theorem holds_marshal (h : Header) : h.Holds h.marshal := by
  cases h with
  | ipv4 ip => exact ⟨ip.length, List.replicate 4 0, List.replicate 4 0, rfl, rfl, rfl⟩
  | ipv6 ip => exact ⟨0, List.replicate 16 0, List.replicate 16 0, rfl, rfl, rfl⟩

section fields
variable (h : Header) (len : UInt16) (hsrc : src.length = h.addrLen) (hdst : dst.length = h.addrLen)
include hsrc hdst

theorem copy_len (v : UInt16) : Buffer.copy (h.bytes len src dst) h.front.length (h.front.length + 2) (putUint16 v) =
    some (h.bytes v src dst) := by
  refine Buffer.copy_block rfl rfl (Nat.le_refl _) ?_
  simp only [List.length_append, length_putUint16]
  omega

theorem setLen_bytes (n : Nat) : h.setLen (h.bytes len src dst) n = some (h.bytes (h.len n) src dst) := by
  cases h with
  | ipv4 ip => exact copy_len (ipv4 ip) len hsrc hdst _
  | ipv6 ip => exact copy_len (ipv6 ip) len hsrc hdst _

theorem copy_src {new : List UInt8} (hnew : new.length = h.addrLen) {high : Nat}
    (hlow : h.hLen - h.addrLen ≤ high) (hhigh : high ≤ h.hLen) :
    Buffer.copy (h.bytes len src dst) (h.hLen - 2 * h.addrLen) high new = some (h.bytes len new dst) := by
  have hshape : ∀ x, h.bytes len x dst = (h.front ++ (putUint16 len ++ h.middle)) ++ (x ++ dst) := by
    intro x
    simp only [bytes, List.append_assoc]
  have hboth : (src ++ dst).length = 2 * h.addrLen := by
    rw [List.length_append]
    omega
  have hlen := h.length_bytes len hsrc hdst
  rw [hshape, List.length_append, hboth] at hlen
  rw [hshape, hshape]
  refine Buffer.copy_block (by omega) (hnew.trans hsrc.symm) (by omega) ?_
  rw [List.length_append, hboth]
  omega

theorem copy_dst {new : List UInt8} (hnew : new.length = h.addrLen) :
    Buffer.copy (h.bytes len src dst) (h.hLen - h.addrLen) h.hLen new = some (h.bytes len src new) := by
  have hshape : ∀ x, h.bytes len src x = (h.front ++ (putUint16 len ++ (h.middle ++ src))) ++ (x ++ []) := by
    intro x
    simp only [bytes, List.append_assoc, List.append_nil]
  have hlen := h.length_bytes len hsrc hdst
  rw [hshape, List.length_append, List.append_nil, hdst] at hlen
  rw [hshape, hshape]
  refine Buffer.copy_block (by omega) (hnew.trans hdst.symm) (by omega) ?_
  rw [List.length_append, List.append_nil, hdst]
  omega

theorem setAddrs_bytes {a d : IP} (ha : a.length = 16) (hd : d.length = 16) :
    h.setAddrs (h.bytes len src dst) a d = some (h.bytes len (h.addr a) (h.addr d)) := by
  have haddr := h.length_addr ha
  have hdaddr := h.length_addr hd
  cases h with
  | ipv4 ip =>
    have hslice : ∀ x : IP, x.length = 16 → Buffer.slice x 12 16 = some (x.drop 12) := by
      intro x hx
      rw [← hx]
      exact Buffer.slice_drop (by omega)
    have hfirst : Buffer.copy ((ipv4 ip).bytes len src dst) 12 16 (a.drop 12) =
        some ((ipv4 ip).bytes len (a.drop 12) dst) :=
      copy_src (ipv4 ip) len hsrc hdst haddr (show 16 ≤ 16 by decide) (show 16 ≤ 20 by decide)
    have hsecond : Buffer.copy ((ipv4 ip).bytes len (a.drop 12) dst) 16 20 (d.drop 12) =
        some ((ipv4 ip).bytes len (a.drop 12) (d.drop 12)) :=
      copy_dst (ipv4 ip) len haddr hdst hdaddr
    simp only [setAddrs, IPv4.setAddrs, hslice a ha, hslice d hd, Option.bind_eq_bind, Option.bind_some, hfirst,
      hsecond, addr]
  | ipv6 ip =>
    have hfirst : Buffer.copy ((ipv6 ip).bytes len src dst) 8 ((ipv6 ip).bytes len src dst).length a =
        some ((ipv6 ip).bytes len a dst) := by
      rw [length_bytes _ _ hsrc hdst]
      exact copy_src (ipv6 ip) len hsrc hdst haddr (show 24 ≤ 40 by decide) (show 40 ≤ 40 by decide)
    have hsecond : Buffer.copy ((ipv6 ip).bytes len a dst) 24 ((ipv6 ip).bytes len a dst).length d =
        some ((ipv6 ip).bytes len a d) := by
      rw [length_bytes _ _ (show a.length = (ipv6 ip).addrLen from ha) hdst]
      exact copy_dst (ipv6 ip) len haddr hdst hdaddr
    simp only [setAddrs, IPv6.setAddrs, Option.bind_eq_bind, hfirst, Option.bind_some, hsecond, addr]

end fields

end Header

def wireUDP (port : Int) (len : UInt16) : WireUDP where
  srcPort := 55117
  dstPort := UInt16.ofInt port
  length := len
  checksum := 0

def udpBytes (port : Int) (len : UInt16) : List UInt8 := (WireTransport.udp (wireUDP port len)).encode

theorem setLen_udpBytes (port : Int) (len : UInt16) (n : Nat) :
    UDP.setLen (udpBytes port len) n = some (udpBytes port (UInt16.ofNat (udpHLen + n))) := rfl

/-! ## One message -/

namespace RawMirror
variable (c : RawMirror)

/-- The packet for a body and its exporter. -/
def packetOf (raddr : IP) (body : List UInt8) : List UInt8 :=
  c.ip.bytes (c.ip.len (body.length + udpHLen)) (c.ip.addr raddr) (c.ip.addr c.dst) ++
    (udpBytes c.port (UInt16.ofNat (udpHLen + body.length)) ++ body)

/-- The headers are the templates but for what every message writes. -/
structure Valid (s : Buffers) : Prop where
  ipHdr : c.ip.Holds s.ipHdr
  udpHdr : ∃ len, s.udpHdr = udpBytes c.port len
  packet : s.packet.length = c.size

theorem valid_start : c.Valid c.start where
  ipHdr := c.ip.holds_marshal
  udpHdr := ⟨8, rfl⟩
  packet := List.length_replicate

theorem hLen_ip : c.ip.hLen = c.ipHLen := by
  unfold ip ipHLen
  split_ifs <;> rfl

variable {c} {s : Buffers} {msg : RawMsg}

/-- The three copies of a message that fits make the packet, whatever was in the buffer. -/
theorem packet_of_fits {packet hdr udp body : List UInt8} (hpacket : packet.length = c.size)
    (hhdr : hdr.length = c.ipHLen) (hudp : udp.length = 8) (hfits : c.ipHLen + 8 + body.length ≤ c.size) :
    ∃ p₁ p₂ p₃, Buffer.copy packet 0 c.ipHLen hdr = some p₁ ∧
      Buffer.copy p₁ c.ipHLen (c.ipHLen + 8) udp = some p₂ ∧
      Buffer.copy p₂ (c.ipHLen + 8) p₂.length body = some p₃ ∧
      p₃.length = c.size ∧ p₃.take (c.ipHLen + 8 + body.length) = hdr ++ (udp ++ body) := by
  obtain ⟨p₁, h₁⟩ := Buffer.copy_isSome (Nat.zero_le c.ipHLen) (show c.ipHLen ≤ packet.length by omega) hdr
  have hlen₁ := Buffer.length_copy h₁
  obtain ⟨p₂, h₂⟩ := Buffer.copy_isSome (Nat.le_add_right c.ipHLen 8) (show c.ipHLen + 8 ≤ p₁.length by omega) udp
  have hlen₂ := Buffer.length_copy h₂
  obtain ⟨p₃, h₃⟩ := Buffer.copy_isSome (show c.ipHLen + 8 ≤ p₂.length by omega) (Nat.le_refl _) body
  have hlen₃ := Buffer.length_copy h₃
  have htake₁ : p₁.take c.ipHLen = hdr := by
    have h := Buffer.take_copy h₁ (by omega)
    rwa [Nat.zero_add, hhdr, List.take_zero, List.nil_append] at h
  have htake₂ : p₂.take (c.ipHLen + 8) = hdr ++ udp := by
    have h := Buffer.take_copy h₂ (by omega)
    rwa [hudp, htake₁] at h
  have htake₃ : p₃.take (c.ipHLen + 8 + body.length) = hdr ++ udp ++ body := by
    rw [Buffer.take_copy h₃ (by omega), htake₂]
  exact ⟨p₁, p₂, p₃, h₁, h₂, h₃, by omega, htake₃.trans (List.append_assoc _ _ _)⟩

theorem step_of_fits (hs : c.Valid s) (hraddr : msg.raddr.length = 16) (hdst : c.dst.length = 16)
    (hbuffer : c.size ≤ msg.buffer.length) (hfits : c.ipHLen + 8 + msg.body.length ≤ c.size) :
    ∃ s', c.step s msg = some (c.packetOf msg.raddr msg.body, s') ∧ c.Valid s' := by
  obtain ⟨len, src, dst, hsrc, hdst', hip⟩ := hs.ipHdr
  obtain ⟨ulen, hudp⟩ := hs.udpHdr
  have hsrcAddr := c.ip.length_addr hraddr
  have hdstAddr := c.ip.length_addr hdst
  have haddrs := c.ip.setAddrs_bytes len hsrc hdst' hraddr hdst
  have hlen := c.ip.setLen_bytes len hsrcAddr hdstAddr (msg.body.length + udpHLen)
  have hhdr := c.ip.length_bytes (c.ip.len (msg.body.length + udpHLen)) hsrcAddr hdstAddr
  rw [c.hLen_ip] at hhdr
  obtain ⟨p₁, p₂, p₃, h₁, h₂, h₃, hsize, hpacket⟩ :=
    packet_of_fits hs.packet hhdr
      (show (udpBytes c.port (UInt16.ofNat (udpHLen + msg.body.length))).length = 8 from rfl) hfits
  have hput := Buffer.slice_eq_some (Nat.zero_le c.size) hbuffer
  have hsent := Buffer.slice_eq_some (Nat.zero_le (c.ipHLen + 8 + msg.body.length))
    (show c.ipHLen + 8 + msg.body.length ≤ p₃.length by omega)
  rw [hpacket, List.drop_zero] at hsent
  refine ⟨⟨c.ip.bytes (c.ip.len (msg.body.length + udpHLen)) (c.ip.addr msg.raddr) (c.ip.addr c.dst),
    udpBytes c.port (UInt16.ofNat (udpHLen + msg.body.length)), p₃⟩, ?_,
    ⟨_, _, _, hsrcAddr, hdstAddr, rfl⟩, ⟨_, rfl⟩, hsize⟩
  simp only [step, hip, hudp, haddrs, hlen, setLen_udpBytes, h₁, h₂, h₃, hput, hsent, Option.bind_eq_bind,
    Option.bind_some]
  rfl

theorem fits_of_step (hs : c.Valid s) {r : List UInt8 × Buffers} (hstep : c.step s msg = some r) :
    (c.dst.to4.isSome → 16 ≤ msg.raddr.length ∧ 16 ≤ c.dst.length) ∧ c.ipHLen + 8 + msg.body.length ≤ c.size := by
  simp only [step, Option.bind_eq_bind, Option.bind_eq_some_iff] at hstep
  obtain ⟨_, haddrs, _, -, _, -, _, h₁, _, h₂, _, h₃, _, -, _, hsent, -⟩ := hstep
  constructor
  · intro hv4
    have hip : c.ip = .ipv4 (newIPv4HeaderTpl udpProto) := if_pos hv4
    rw [hip] at haddrs
    simp only [Header.setAddrs, IPv4.setAddrs, Option.bind_eq_bind, Option.bind_eq_some_iff] at haddrs
    obtain ⟨_, ha, _, -, _, hd, -⟩ := haddrs
    exact ⟨Buffer.le_of_slice ha, Buffer.le_of_slice hd⟩
  · have hlen₁ := Buffer.length_copy h₁
    have hlen₂ := Buffer.length_copy h₂
    have hlen₃ := Buffer.length_copy h₃
    have hle := Buffer.le_of_slice hsent
    rw [hlen₃, hlen₂, hlen₁, hs.packet] at hle
    exact hle

end RawMirror

/-! ## Whole runs -/

theorem length_of_to4 {a : IP} (ha : a.length = 4 ∨ a.length = 16) (hto4 : ¬ a.to4.isSome) : a.length = 16 := by
  refine ha.resolve_left fun h => hto4 ?_
  rw [IP.to4, if_pos h]
  rfl

namespace RawDatagram
variable {c : RawMirror} (msg : RawDatagram c)

theorem length_body : msg.body.length = msg.len := by
  rw [RawMsg.body, List.length_take, msg.buffer_length]
  exact Nat.min_eq_left msg.len_le

/-- The addresses can be written and the packet buffer holds the packet. -/
def Fits : Prop :=
  (c.dst.to4.isSome → msg.raddr.length = 16 ∧ c.dst.length = 16) ∧ c.ipHLen + 8 + msg.len ≤ c.size

variable {msg} {s : Buffers}

theorem Fits.step (h : msg.Fits) (hs : c.Valid s) :
    ∃ s', c.step s msg.toRawMsg = some (c.packetOf msg.raddr msg.body, s') ∧ c.Valid s' := by
  have hlengths : msg.raddr.length = 16 ∧ c.dst.length = 16 := by
    by_cases hv4 : c.dst.to4.isSome
    · exact h.1 hv4
    · refine ⟨length_of_to4 msg.raddr_length ?_, length_of_to4 c.dst_length hv4⟩
      rwa [msg.family]
  exact RawMirror.step_of_fits hs hlengths.1 hlengths.2 msg.buffer_length.ge (msg.length_body.symm ▸ h.2)

theorem fits_of_step (hs : c.Valid s) {r : List UInt8 × Buffers} (hstep : c.step s msg.toRawMsg = some r) :
    msg.Fits := by
  obtain ⟨haddrs, hsize⟩ := RawMirror.fits_of_step hs hstep
  rw [msg.length_body] at hsize
  refine ⟨fun hv4 => ?_, hsize⟩
  have hraddr := msg.raddr_length
  have hdst := c.dst_length
  have hle := haddrs hv4
  omega

end RawDatagram

namespace RawMirror
variable {c : RawMirror} {s : Buffers}

theorem valid_of_run {msgs : List (RawDatagram c)} {sent : List (List UInt8)} {s' : Buffers} (hs : c.Valid s)
    (hrun : c.run s (msgs.map RawDatagram.toRawMsg) = some (sent, s')) : c.Valid s' := by
  induction msgs generalizing s sent with
  | nil =>
    obtain ⟨-, rfl⟩ := Prod.mk.inj (Option.some.inj hrun)
    exact hs
  | cons msg msgs ih =>
    simp only [List.map_cons, run, Option.bind_eq_bind, Option.bind_eq_some_iff] at hrun
    obtain ⟨⟨_, s₁⟩, hstep, ⟨_, _⟩, hrest, hret⟩ := hrun
    obtain ⟨-, rfl⟩ := Prod.mk.inj (Option.some.inj hret)
    obtain ⟨s₂, hstep', hs₂⟩ := (RawDatagram.fits_of_step hs hstep).step hs
    rw [hstep] at hstep'
    obtain ⟨-, rfl⟩ := Prod.mk.inj (Option.some.inj hstep')
    exact ih hs₂ hrest

theorem Reachable.valid (h : c.Reachable s) : c.Valid s := by
  obtain ⟨msgs, sent, hrun⟩ := h
  exact valid_of_run c.valid_start hrun

/-- A datagram is sent on, with its whole body at the end of the packet, exactly when it fits. -/
theorem step_safe_iff (hs : c.Reachable s) (msg : RawDatagram c) :
    (∃ sent s', c.step s msg.toRawMsg = some (sent, s') ∧ msg.body <:+ sent) ↔
      (c.dst.to4.isSome → msg.raddr.length = 16 ∧ c.dst.length = 16) ∧ c.ipHLen + 8 + msg.len ≤ c.size := by
  constructor
  · rintro ⟨sent, s', hstep, -⟩
    exact RawDatagram.fits_of_step hs.valid hstep
  · intro hfits
    obtain ⟨s', hstep, -⟩ := RawDatagram.Fits.step hfits hs.valid
    refine ⟨_, s', hstep, ?_⟩
    rw [packetOf, ← List.append_assoc]
    exact List.suffix_append _ _

def collector : RawMirror where
  size := 1500
  dst := List.replicate 10 0 ++ [0xff, 0xff, 192, 0, 2, 1]
  port := 10024
  dst_length := .inr rfl

def datagram (raddr : IP) (len : Nat) (hlen : len ≤ 1500) (hraddr : raddr.length = 4 ∨ raddr.length = 16)
    (hfamily : raddr.to4.isSome) : RawDatagram collector where
  raddr := raddr
  buffer := List.replicate 1500 0
  len := len
  buffer_length := List.length_replicate
  len_le := hlen
  raddr_length := hraddr
  family := hfamily.trans rfl

def exporter : IP := List.replicate 10 0 ++ [0xff, 0xff, 10, 0, 0, 1]

theorem step_safe_collector :
    ∃ sent s', collector.step collector.start (datagram exporter 1472 (by decide) (.inr rfl) rfl).toRawMsg =
        some (sent, s') ∧
      (datagram exporter 1472 (by decide) (.inr rfl) rfl).body <:+ sent :=
  (step_safe_iff ⟨[], [], rfl⟩ (datagram exporter 1472 (by decide) (.inr rfl) rfl)).mpr
    ⟨fun _ => ⟨rfl, rfl⟩, by decide⟩

/-- One byte more is out of range, and so is an address of four bytes with an empty body. -/
theorem step_collector_none :
    collector.step collector.start (datagram exporter 1473 (by decide) (.inr rfl) rfl).toRawMsg = none ∧
      collector.step collector.start (datagram [10, 0, 0, 1] 0 (by decide) (.inl rfl) rfl).toRawMsg = none := by
  constructor
  · refine Option.eq_none_iff_forall_ne_some.mpr fun r hstep => ?_
    have hfits := (RawDatagram.fits_of_step collector.valid_start hstep).2
    exact absurd hfits (by decide)
  · refine Option.eq_none_iff_forall_ne_some.mpr fun r hstep => ?_
    have hfits := (RawDatagram.fits_of_step collector.valid_start hstep).1 rfl
    exact absurd hfits.1 (by decide)

/-- Messages that fit are sent one after the other, each in the packet that it has by itself. -/
theorem run_of_fits {msgs : List (RawDatagram c)} (hs : c.Valid s) (hfits : ∀ msg ∈ msgs, msg.Fits) :
    ∃ s', c.run s (msgs.map RawDatagram.toRawMsg) = some (msgs.map fun msg => c.packetOf msg.raddr msg.body, s') := by
  induction msgs generalizing s with
  | nil => exact ⟨s, rfl⟩
  | cons msg msgs ih =>
    obtain ⟨hmsg, hmsgs⟩ := List.forall_mem_cons.mp hfits
    obtain ⟨s₁, hstep, hs₁⟩ := hmsg.step hs
    obtain ⟨s₂, hrun⟩ := ih hs₁ hmsgs
    refine ⟨s₂, ?_⟩
    simp only [List.map_cons, run, hstep, hrun, Option.bind_eq_bind, Option.bind_some]
    rfl

end RawMirror

/-! ## Reading the packets back -/

theorem toNat_len_ipv4 (ip : IPv4) (n : Nat) : ((Header.ipv4 ip).len (n + udpHLen)).toNat = (28 + n) % 65536 := by
  simp only [Header.len, ipv4HLen, udpHLen, UInt16.toNat_add, UInt16.toNat_ofNat']
  omega

theorem toNat_len_ipv6 (ip : IPv6) (n : Nat) : ((Header.ipv6 ip).len (n + udpHLen)).toNat = (48 + n) % 65536 := by
  simp only [Header.len, ipv6HLen, udpHLen, UInt16.toNat_add, UInt16.toNat_ofNat']
  omega

theorem ofInt_toNat (v : UInt16) : UInt16.ofInt v.toNat = v := by
  have hlt := v.toNat_lt
  have hmod : ((v.toNat : Int) % 2 ^ 16).toNat = v.toNat := by omega
  rw [UInt16.ofInt, hmod, UInt16.ofNat_toNat]

theorem string_of_to4 {a p : IP} (hto4 : a.to4 = some p) (hlen : a.length ≠ 0) :
    IP.string a = ".".intercalate (p.map fun x => toString x.toNat) := by
  unfold IP.string
  rw [if_neg hlen, hto4]

theorem string_drop {a : IP} (ha : a.length = 16) (hv4 : a.to4.isSome) : IP.string (a.drop 12) = IP.string a := by
  have hdrop : (a.drop 12).length = 4 := by
    rw [List.length_drop, ha]
  have hto4 : a.to4 = some (a.drop 12) := by
    unfold IP.to4 at hv4 ⊢
    rw [if_neg (by omega)] at hv4 ⊢
    split_ifs at hv4 ⊢ with hmapped
    · rfl
    · exact nomatch hv4
  have hdrop4 : IP.to4 (a.drop 12) = some (a.drop 12) := if_pos hdrop
  rw [string_of_to4 hdrop4 (by omega), string_of_to4 hto4 (by omega)]

def wireIPv4 (len : UInt16) (src dst : Octets 4) : WireIPv4 := .whole len 0 src dst

def wireIPv6 (len : UInt16) (src dst : Octets 16) : WireIPv6 := .bestEffort len 17 src dst

theorem bytes_ipv4 (len : UInt16) (src dst : Octets 4) :
    (Header.ipv4 (newIPv4HeaderTpl udpProto)).bytes len src.val dst.val = (wireIPv4 len src dst).encode .none := by
  have hfront : (Header.ipv4 (newIPv4HeaderTpl udpProto)).front =
      [UInt8.ofNat (4 * 16 + WireIPv4.ihl .none), 0] := by decide
  have hmiddle : (Header.ipv4 (newIPv4HeaderTpl udpProto)).middle =
      putUint16 0 ++ putUint16 (UInt16.ofNat (0 * 8192 + 0)) ++ [64, 17] ++ putUint16 0 := by decide
  simp only [Header.bytes, hfront, hmiddle, WireIPv4.encode, IPv4Options.none, List.append_nil, List.append_assoc]
  rfl

theorem bytes_ipv6 (len : UInt16) (src dst : Octets 16) :
    (Header.ipv6 (newIPv6HeaderTpl udpProto)).bytes len src.val dst.val = (wireIPv6 len src dst).encode := by
  have hfront : (Header.ipv6 (newIPv6HeaderTpl udpProto)).front = putUint32 0x60000000 := by decide
  have hword : (wireIPv6 len src dst).word = 0x60000000 := by
    apply UInt32.toNat_inj.mp
    rw [WireIPv6.toNat_word]
    show 6 * 2 ^ 28 + (0 : UInt8).toNat * 2 ^ 20 + 0 = _
    decide
  simp only [Header.bytes, hfront, WireIPv6.encode, hword, List.append_assoc]
  rfl

theorem bits16_append {u : List UInt8} {n : Nat} (hu : u.length = n) (k : Nat) (v : List UInt8) :
    bits16 (u ++ v) (n + k) = bits16 v k := by
  rw [bits16_eq, bits16_eq, ← List.drop_drop, List.drop_left' hu]

theorem bits16_udpBytes (port : Int) (n : Nat) (body : List UInt8) :
    bits16 (udpBytes port (UInt16.ofNat (udpHLen + n)) ++ body) 4 = (8 + n) % 65536 := by
  have hput : bits16 (udpBytes port (UInt16.ofNat (udpHLen + n)) ++ body) 4 = (UInt16.ofNat (udpHLen + n)).toNat :=
    bits_put _
  rw [hput, UInt16.toNat_ofNat']
  rfl

namespace RawMirror
variable {c : RawMirror} {raddr : IP} (body : List UInt8)

section ipv4
variable (hv4 : c.dst.to4.isSome) (hraddr : raddr.length = 16) (hdst : c.dst.length = 16)
include hv4 hraddr hdst

theorem packetOf_ipv4 :
    ∃ src dst : Octets 4, src.val = raddr.drop 12 ∧ dst.val = c.dst.drop 12 ∧
      c.packetOf raddr body =
        (wireIPv4 (c.ip.len (body.length + udpHLen)) src dst).encode .none ++
          (udpBytes c.port (UInt16.ofNat (udpHLen + body.length)) ++ body) := by
  have hip : c.ip = .ipv4 (newIPv4HeaderTpl udpProto) := if_pos hv4
  have hlen : ∀ a : IP, a.length = 16 → (a.drop 12).length = 4 := by
    intro a ha
    rw [List.length_drop, ha]
  refine ⟨⟨_, hlen _ hraddr⟩, ⟨_, hlen _ hdst⟩, rfl, rfl, ?_⟩
  rw [packetOf, hip, ← bytes_ipv4]
  rfl

theorem decoder_packetOf_ipv4 (hexporter : raddr.to4.isSome) :
    Packet.decoder (c.packetOf raddr body) Packet.headerProtocolIPv4 =
      .ok () {
        l3 := some (.ipv4 {
          version := 4
          tos := 0
          totalLen := (28 + body.length) % 65536
          id := 0
          flags := 0
          ttl := 64
          protocol := 17
          checksum := 0
          src := IP.string raddr
          dst := IP.string c.dst })
        l4 := some (.udp { srcPort := 55117, dstPort := (UInt16.ofInt c.port).toNat })
        data := body } := by
  obtain ⟨src, dst, hsrc, hdst', hpacket⟩ := packetOf_ipv4 body hv4 hraddr hdst
  have hip : c.ip = .ipv4 (newIPv4HeaderTpl udpProto) := if_pos hv4
  rw [hpacket, udpBytes]
  refine (decoder_bare .ipv4 _).trans ((decode_ipv4 _ .none (.udp _) body rfl {}).trans ?_)
  have hfields := (WireTransport.udp (wireUDP c.port (UInt16.ofNat (udpHLen + body.length)))).fields_encode body
  have hfrag : (wireIPv4 (c.ip.len (body.length + udpHLen)) src dst).fragOff.val = 0 := rfl
  rw [IPv4Options.none, List.nil_append, hfields, hfrag, ← string_drop hraddr hexporter, ← string_drop hdst hv4, ← hsrc,
    ← hdst', ← toNat_len_ipv4 (newIPv4HeaderTpl udpProto), ← hip]
  rfl

theorem udpLen_packetOf_ipv4 : bits16 (c.packetOf raddr body) 24 = (8 + body.length) % 65536 := by
  obtain ⟨src, dst, -, -, hpacket⟩ := packetOf_ipv4 body hv4 hraddr hdst
  rw [hpacket, bits16_append (show _ = 20 from WireIPv4.length_encode _ .none) 4, bits16_udpBytes]

end ipv4

section ipv6
variable (hv6 : ¬ c.dst.to4.isSome) (hraddr : raddr.length = 16) (hdst : c.dst.length = 16)
include hv6 hraddr hdst

theorem packetOf_ipv6 :
    c.packetOf raddr body =
      (wireIPv6 (c.ip.len (body.length + udpHLen)) ⟨raddr, hraddr⟩ ⟨c.dst, hdst⟩).encode ++
        (udpBytes c.port (UInt16.ofNat (udpHLen + body.length)) ++ body) := by
  have hip : c.ip = .ipv6 (newIPv6HeaderTpl udpProto) := if_neg hv6
  rw [packetOf, hip, ← bytes_ipv6]
  rfl

theorem decoder_packetOf_ipv6 :
    Packet.decoder (c.packetOf raddr body) Packet.headerProtocolIPv6 =
      .ok () {
        l3 := some (.ipv6 {
          version := 6
          trafficClass := 0
          flowLabel := 0
          payloadLen := (48 + body.length) % 65536
          nextHeader := 17
          hopLimit := 64
          src := IP.string raddr
          dst := IP.string c.dst })
        l4 := some (.udp { srcPort := 55117, dstPort := (UInt16.ofInt c.port).toNat })
        data := body } := by
  have hip : c.ip = .ipv6 (newIPv6HeaderTpl udpProto) := if_neg hv6
  rw [packetOf_ipv6 body hv6 hraddr hdst, udpBytes]
  refine (decoder_bare .ipv6 _).trans ((decode_ipv6 _ (.udp _) body rfl {}).trans ?_)
  rw [← toNat_len_ipv6 (newIPv6HeaderTpl udpProto), ← hip]
  rfl

theorem length_packetOf_ipv6 : (c.packetOf raddr body).length = 40 + (8 + body.length) := by
  rw [packetOf_ipv6 body hv6 hraddr hdst, List.length_append, WireIPv6.length_encode, List.length_append]
  rfl

theorem udpLen_packetOf_ipv6 : bits16 (c.packetOf raddr body) 44 = (8 + body.length) % 65536 := by
  rw [packetOf_ipv6 body hv6 hraddr hdst, bits16_append (WireIPv6.length_encode _) 4, bits16_udpBytes]

end ipv6

/-- Datagrams to an IPv4 destination are sent in packets that depend on the datagram alone, and these are read back
with its length, its exporter, the destination and the ports. The length fields have 16 bits, which is enough for
every datagram that UDP over IPv4 can carry. -/
theorem run_ipv4 (hv4 : c.dst.to4.isSome) (hdst : c.dst.length = 16) (port : UInt16) (hport : c.port = port.toNat)
    (msgs : List (RawDatagram c))
    (hmsgs : ∀ msg ∈ msgs, msg.raddr.length = 16 ∧ 28 + msg.len ≤ c.size ∧ msg.len ≤ 65507) :
    (∃ s, c.run c.start (msgs.map RawDatagram.toRawMsg) = some (msgs.map fun msg => c.packetOf msg.raddr msg.body, s)) ∧
      ∀ msg ∈ msgs,
        Packet.decoder (c.packetOf msg.raddr msg.body) Packet.headerProtocolIPv4 =
            .ok () {
              l3 := some (.ipv4 {
                version := 4
                tos := 0
                totalLen := 28 + msg.len
                id := 0
                flags := 0
                ttl := 64
                protocol := ianaProtoUDP
                checksum := 0
                src := IP.string msg.raddr
                dst := IP.string c.dst })
              l4 := some (.udp { srcPort := 55117, dstPort := port.toNat })
              data := msg.body } ∧
          bits16 (c.packetOf msg.raddr msg.body) 24 = 8 + msg.len := by
  have hhlen : c.ipHLen = 20 := if_pos hv4
  constructor
  · refine run_of_fits c.valid_start fun msg hmsg => ⟨fun _ => ⟨(hmsgs msg hmsg).1, hdst⟩, ?_⟩
    have hfits := (hmsgs msg hmsg).2.1
    omega
  · intro msg hmsg
    obtain ⟨hraddr, -, hlen⟩ := hmsgs msg hmsg
    have htotal : (28 + msg.len) % 65536 = 28 + msg.len := Nat.mod_eq_of_lt (by omega)
    have hudp : (8 + msg.len) % 65536 = 8 + msg.len := Nat.mod_eq_of_lt (by omega)
    rw [decoder_packetOf_ipv4 msg.body hv4 hraddr hdst (msg.family.trans hv4),
      udpLen_packetOf_ipv4 msg.body hv4 hraddr hdst, msg.length_body, htotal, hudp, hport, ofInt_toNat port]
    exact ⟨rfl, rfl⟩

theorem run_ipv4_collector :
    (∃ s, collector.run collector.start
        [(datagram exporter 1472 (by decide) (.inr rfl) rfl).toRawMsg,
          (datagram exporter 16 (by decide) (.inr rfl) rfl).toRawMsg] =
      some ([collector.packetOf exporter (datagram exporter 1472 (by decide) (.inr rfl) rfl).body,
        collector.packetOf exporter (datagram exporter 16 (by decide) (.inr rfl) rfl).body], s)) ∧
      bits16 (collector.packetOf exporter (datagram exporter 16 (by decide) (.inr rfl) rfl).body) 24 = 24 := by
  have hrun := run_ipv4 rfl rfl 10024 rfl
    [datagram exporter 1472 (by decide) (.inr rfl) rfl, datagram exporter 16 (by decide) (.inr rfl) rfl]
    (List.forall_mem_cons.mpr ⟨⟨rfl, by decide, by decide⟩, List.forall_mem_singleton.mpr ⟨rfl, by decide, by decide⟩⟩)
  exact ⟨hrun.1, (hrun.2 _ (List.mem_cons_of_mem _ List.mem_cons_self)).2⟩

/-- Datagrams to an IPv6 destination are sent, too, and the addresses, the next header and the UDP length are right.
The payload length is never the number of bytes behind the header. -/
theorem step_ipv6 {s : Buffers} (hs : c.Reachable s) (hv6 : ¬ c.dst.to4.isSome) (msg : RawDatagram c)
    (hfits : 48 + msg.len ≤ c.size) :
    ∃ sent s' p h, c.step s msg.toRawMsg = some (sent, s') ∧
      Packet.decoder sent Packet.headerProtocolIPv6 = .ok () p ∧ p.l3 = some (.ipv6 h) ∧
      h.nextHeader = ianaProtoUDP ∧ h.src = IP.string msg.raddr ∧ h.dst = IP.string c.dst ∧
      bits16 sent 44 = (8 + msg.len) % 65536 ∧ sent.length = 40 + (8 + msg.len) ∧
      h.payloadLen = (48 + msg.len) % 65536 ∧ h.payloadLen ≠ 8 + msg.len := by
  have hhlen : c.ipHLen = 40 := if_neg hv6
  have hraddr : msg.raddr.length = 16 := length_of_to4 msg.raddr_length (by rwa [msg.family])
  have hdst : c.dst.length = 16 := length_of_to4 c.dst_length hv6
  have hmsg : msg.Fits := by
    refine ⟨fun hv4 => absurd hv4 hv6, ?_⟩
    omega
  obtain ⟨s', hstep, -⟩ := hmsg.step hs.valid
  have hpayload : (48 + msg.body.length) % 65536 = (48 + msg.len) % 65536 := by rw [msg.length_body]
  refine ⟨_, s', _, _, hstep, decoder_packetOf_ipv6 msg.body hv6 hraddr hdst, rfl, rfl, rfl, rfl, ?_, ?_, hpayload, ?_⟩
  · rw [udpLen_packetOf_ipv6 msg.body hv6 hraddr hdst, msg.length_body]
  · rw [length_packetOf_ipv6 msg.body hv6 hraddr hdst, msg.length_body]
  · -- the length of the header is no multiple of `65536`
    show (48 + msg.body.length) % 65536 ≠ 8 + msg.len
    rw [msg.length_body]
    omega

def collector6 : RawMirror where
  size := 1500
  dst := [0x20, 0x01, 0x0d, 0xb8, 0, 0, 0, 0, 0, 0, 0, 0, 0, 0, 0, 2]
  port := 10024
  dst_length := .inr rfl

def datagram6 : RawDatagram collector6 where
  raddr := [0x20, 0x01, 0x0d, 0xb8, 0, 0, 0, 0, 0, 0, 0, 0, 0, 0, 0, 1]
  buffer := List.replicate 1500 0
  len := 100
  buffer_length := List.length_replicate
  len_le := by decide
  raddr_length := .inr rfl
  family := rfl

theorem step_ipv6_collector6 :
    ∃ sent s' p h, collector6.step collector6.start datagram6.toRawMsg = some (sent, s') ∧
      Packet.decoder sent Packet.headerProtocolIPv6 = .ok () p ∧ p.l3 = some (.ipv6 h) ∧
      h.nextHeader = ianaProtoUDP ∧ h.src = IP.string datagram6.raddr ∧ h.dst = IP.string collector6.dst ∧
      bits16 sent 44 = (8 + datagram6.len) % 65536 ∧ sent.length = 40 + (8 + datagram6.len) ∧
      h.payloadLen = (48 + datagram6.len) % 65536 ∧ h.payloadLen ≠ 8 + datagram6.len :=
  step_ipv6 ⟨[], [], rfl⟩ (by decide) datagram6 (by decide)

/-- A body of `100` bytes: `108` follow the header, which says `148`. -/
theorem payloadLen_collector6 :
    ∃ sent s' p h, collector6.step collector6.start datagram6.toRawMsg = some (sent, s') ∧
      sent.length = 40 + 108 ∧ Packet.decoder sent Packet.headerProtocolIPv6 = .ok () p ∧
      p.l3 = some (.ipv6 h) ∧ h.payloadLen = 148 := by
  have hfits : datagram6.Fits := ⟨fun _ => ⟨rfl, rfl⟩, by decide⟩
  obtain ⟨s', hstep, -⟩ := hfits.step collector6.valid_start
  refine ⟨_, s', _, _, hstep, ?_, decoder_packetOf_ipv6 datagram6.body (by decide) rfl rfl, rfl, ?_⟩
  · rw [length_packetOf_ipv6 datagram6.body (by decide) rfl rfl, datagram6.length_body]
    rfl
  · show (48 + datagram6.body.length) % 65536 = 148
    rw [datagram6.length_body]
    rfl

end RawMirror

end VFlow.Mirror
