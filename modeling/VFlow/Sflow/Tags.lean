import VFlow.Sflow.Bounds

/-!
# Tagged frames

A tag is cut out of a frame and the frame is decoded as if it had none (`decodeEthernet_tagged`). The layers
above do not look at the VLAN (`Blind`), so that the packet of the tagged frame is that of the frame, with a
VLAN. The VLAN is all sixteen bits of the tag, its priority included, where only the lower twelve are the
number of a VLAN.
-/

namespace VFlow

open BigEndian

def tagged (f : List UInt8) (tci : UInt16) : List UInt8 :=
  f.take 12 ++ (putUint16 etherTypeIEEE8021Q ++ putUint16 tci ++ f.drop 12)

def vlanID (tci : UInt16) : Nat := tci.toNat % 4096

def Packet.setVlan (v : Nat) (p : Packet) : Packet := { p with l2 := { p.l2 with vlan := v } }

theorem Packet.data_setVlan (v : Nat) (p : Packet) : (p.setVlan v).data = p.data := rfl

theorem Packet.l3_setVlan (v : Nat) (p : Packet) : (p.setVlan v).l3 = p.l3 := rfl

/-- The same result with another VLAN in the packet. -/
def mapPacket {α : Type} (g : Packet → Packet) :
    EStateM.Result PacketFailure Packet α → EStateM.Result PacketFailure Packet α
  | .ok x p => .ok x (g p)
  | .error e p => .error e (g p)

/-! ## Methods that do not look at the VLAN -/

def Blind {α : Type} (m : PacketM α) : Prop := ∀ v p, m (p.setVlan v) = mapPacket (Packet.setVlan v) (m p)

theorem Blind.bind {α β : Type} {m : PacketM α} {f : α → PacketM β} (hm : Blind m) (hf : ∀ x, Blind (f x)) :
    Blind (m >>= f) := by
  intro v p
  rw [packet_bind_apply, packet_bind_apply, hm v p]
  cases m p with
  | ok x q => exact hf x v q
  | error e q => rfl

theorem Blind.throw {α : Type} (e : PacketFailure) : Blind (throw e : PacketM α) := fun _ _ => rfl

theorem blind_decodeIPv4Header : Blind Packet.decodeIPv4Header := by
  intro v p
  unfold Packet.decodeIPv4Header
  rw [Packet.data_setVlan]
  split_ifs
  · rfl
  · rfl

theorem blind_decodeIPv6Header : Blind Packet.decodeIPv6Header := by
  intro v p
  unfold Packet.decodeIPv6Header
  rw [Packet.data_setVlan]
  split_ifs
  · rfl
  · rfl

theorem blind_transport {h : Type} (decode : List UInt8 → Except PacketError h) (header : h → TransportHeader)
    (len : Nat) : Blind (Packet.transport decode header len) := by
  intro v p
  unfold Packet.transport
  rw [Packet.data_setVlan]
  cases decode p.data <;> rfl

theorem blind_decodeNextLayer : Blind Packet.decodeNextLayer := by
  intro v p
  unfold Packet.decodeNextLayer
  rw [Packet.l3_setVlan]
  cases p.l3 with
  | none => rfl
  | some l3 =>
    dsimp only
    split_ifs
    · exact blind_transport _ _ _ v p
    · exact blind_transport _ _ _ v p
    · exact blind_transport _ _ _ v p
    · rfl

/-! ## The tag -/

theorem drop_tagged {f : List UInt8} (h : 12 ≤ f.length) (tci : UInt16) (k : Nat) :
    (tagged f tci).drop (12 + k) = (putUint16 etherTypeIEEE8021Q ++ putUint16 tci ++ f.drop 12).drop k := by
  have hlen : (f.take 12).length = 12 := by
    rw [List.length_take]
    omega
  unfold tagged
  nth_rewrite 1 [← hlen]
  rw [← List.drop_drop, List.drop_left]

theorem cut_tagged {f : List UInt8} (h : 12 ≤ f.length) (tci : UInt16) :
    (tagged f tci).take 12 ++ ((tagged f tci).drop 16).take 2 ++ (tagged f tci).drop 18 = f := by
  have hfront : (tagged f tci).take 12 = f.take 12 := by
    unfold tagged
    rw [List.take_append_of_le_length (by rw [List.length_take]; omega), List.take_take]
    rfl
  have h16 : (tagged f tci).drop 16 = f.drop 12 := drop_tagged h tci 4
  have h18 : (tagged f tci).drop 18 = (f.drop 12).drop 2 := drop_tagged h tci 6
  rw [hfront, h16, h18, List.append_assoc, List.take_append_drop, List.take_append_drop]

theorem getD_drop (b : List UInt8) (i k : Nat) : (b.drop i).getD k 0 = b.getD (i + k) 0 := by
  rw [List.getD_eq_getElem?_getD, List.getD_eq_getElem?_getD, List.getElem?_drop]

theorem bits16_eq (b : List UInt8) (i : Nat) : bits16 b i = (uint16 (b.drop i)).toNat := by
  have hhigh := (b.getD i 0).toNat_lt
  simp only [bits16, uint16, UInt16.toNat_or, UInt16.toNat_shiftLeft, UInt8.toNat_toUInt16, UInt16.reduceToNat,
    Nat.reduceMod, getD_drop, Nat.add_zero]
  rw [shiftLeft_mod hhigh (by decide), Nat.or_comm]

theorem bits16_tagged {f : List UInt8} (h : 12 ≤ f.length) (tci : UInt16) : bits16 (tagged f tci) 14 = tci.toNat := by
  have hdrop : (tagged f tci).drop 14 = putUint16 tci ++ f.drop 12 := drop_tagged h tci 2
  rw [bits16_eq, hdrop, uint16_put]

theorem decodeEthernet_tagged {f : List UInt8} (hlen : 14 ≤ f.length)
    (htype : uint16 (f.drop 12) ≠ etherTypeIEEE8021Q) (tci : UInt16) :
    Packet.decodeEthernet { data := tagged f tci } =
      mapPacket (Packet.setVlan tci.toNat) (Packet.decodeEthernet { data := f }) := by
  obtain ⟨d, hd, hdtype⟩ := decodeIEEE802_of_le hlen
  have hsize : (tagged f tci).length = f.length + 4 := by
    simp only [tagged, List.length_append, List.length_take, List.length_drop, length_putUint16]
    omega
  obtain ⟨d', hd', hdtype'⟩ := decodeIEEE802_of_le (show 14 ≤ (tagged f tci).length by omega)
  have htag : d'.etherType = etherTypeIEEE8021Q := by
    rw [hdtype', show (tagged f tci).drop 12 = _ from drop_tagged (by omega) tci 0, List.drop_zero, List.append_assoc,
      uint16_put]
  unfold Packet.decodeEthernet
  dsimp only
  rw [if_neg (by omega), hd', if_neg (by omega), hd]
  dsimp only
  rw [if_pos htag, if_neg (by omega), cut_tagged (by omega), bits16_tagged (by omega), hd,
    if_neg (by rw [hdtype]; exact htype)]
  rfl

theorem decoder_tagged {f : List UInt8} (hlen : 14 ≤ f.length) (htype : uint16 (f.drop 12) ≠ etherTypeIEEE8021Q)
    (tci : UInt16) :
    Packet.decoder (tagged f tci) Packet.headerProtocolEthernet =
      mapPacket (Packet.setVlan tci.toNat) (Packet.decoder f Packet.headerProtocolEthernet) := by
  unfold Packet.decoder
  dsimp only
  rw [if_pos rfl]
  unfold Packet.decodeEthernetHeader
  rw [packet_bind_apply, packet_bind_apply, decodeEthernet_tagged hlen htype]
  cases Packet.decodeEthernet { data := f } with
  | error e p => rfl
  | ok _ p =>
    show (get >>= _ : PacketM Unit) (p.setVlan tci.toNat) = mapPacket _ ((get >>= _ : PacketM Unit) p)
    have hsame : (p.setVlan tci.toNat).l2.etherType = p.l2.etherType := rfl
    rw [Checked.get_bind, Checked.get_bind, hsame]
    split_ifs
    · exact blind_decodeIPv4Header.bind (fun _ => blind_decodeNextLayer) _ p
    · exact blind_decodeIPv6Header.bind (fun _ => blind_decodeNextLayer) _ p
    · exact Blind.throw _ _ p

theorem mapPacket_setVlan_inj {α : Type} {r : EStateM.Result PacketFailure Packet α} {v w : Nat}
    (h : mapPacket (Packet.setVlan v) r = mapPacket (Packet.setVlan w) r) : v = w := by
  cases r with
  | ok x p =>
    have hp := EStateM.Result.ok.inj h
    exact congrArg (fun q : Packet => q.l2.vlan) hp.2
  | error e p =>
    have hp := EStateM.Result.error.inj h
    exact congrArg (fun q : Packet => q.l2.vlan) hp.2

/-- A tagged frame is decoded as the frame, with the same error if there is one, and with the VLAN of the tag
exactly when the priority bits of the tag are not set. -/
theorem decoder_tagged_iff (f : List UInt8) (hlen : 14 ≤ f.length) (htype : uint16 (f.drop 12) ≠ etherTypeIEEE8021Q)
    (tci : UInt16) :
    Packet.decoder (tagged f tci) Packet.headerProtocolEthernet =
      mapPacket (Packet.setVlan (vlanID tci)) (Packet.decoder f Packet.headerProtocolEthernet) ↔ tci < 4096 := by
  have hlt : tci < 4096 ↔ tci.toNat < 4096 := UInt16.lt_iff_toNat_lt
  rw [decoder_tagged hlen htype, hlt]
  unfold vlanID
  constructor
  · intro h
    have hv := mapPacket_setVlan_inj h
    omega
  · intro h
    rw [Nat.mod_eq_of_lt h]

def udpFrame : List UInt8 :=
  [0, 0, 0, 0, 0, 2, 0, 0, 0, 0, 0, 1, 8, 0, 0x45, 0, 0, 28, 0, 0, 0, 0, 64, 17, 0, 0, 192, 0, 2, 1, 192, 0, 2, 2,
    0, 53, 0, 53, 0, 8, 0, 0]

theorem decoder_tagged_iff_udp :
    Packet.decoder (tagged udpFrame 100) Packet.headerProtocolEthernet =
      mapPacket (Packet.setVlan 100) (Packet.decoder udpFrame Packet.headerProtocolEthernet) :=
  (decoder_tagged_iff udpFrame (by decide) (by decide) 100).mpr (by decide)

/-- The VLAN `100` with the priority `5` is decoded as the VLAN `41060`. -/
theorem decoder_priorityTag :
    ∃ p q, Packet.decoder udpFrame Packet.headerProtocolEthernet = .ok () q ∧
      Packet.decoder (tagged udpFrame 0xa064) Packet.headerProtocolEthernet = .ok () p ∧
      p.l2.vlan = 41060 ∧ vlanID 0xa064 = 100 :=
  ⟨_, _, rfl, rfl, rfl, rfl⟩

end VFlow
