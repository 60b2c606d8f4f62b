import VFlow.Sflow.Packet
import VFlow.Base.BigEndian

/-!
# Indices of the package `packet`

The decoders of `Packet` once more, statement by statement, with every index and every slice checked
against the length (`Checked`). They are the decoders of `Packet` (`Checked.decoder_eq`), whose reads are
unchecked save for the tag, so that no read in `Packet` ever goes beyond the input. What is left is the
branch of a tagged frame: `decodeEthernet` looks at fourteen bytes and then reads eighteen.
-/

namespace VFlow

namespace Checked

/-! ## Checked reads -/

def index (b : List UInt8) (i : Nat) : PacketM UInt8 :=
  if i < b.length then pure (b.getD i 0) else throw .indexOutOfRange

def assign (b : List UInt8) (i : Nat) (x : UInt8) : PacketM (List UInt8) :=
  if i < b.length then pure (b.set i x) else throw .indexOutOfRange

def slice (b : List UInt8) (low high : Nat) : PacketM (List UInt8) :=
  if low ≤ high ∧ high ≤ b.length then pure ((b.drop low).take (high - low)) else throw .indexOutOfRange

def sliceFrom (b : List UInt8) (low : Nat) : PacketM (List UInt8) :=
  if low ≤ b.length then pure (b.drop low) else throw .indexOutOfRange

def word (b : List UInt8) (i : Nat) : PacketM Nat := do
  let high ← index b i
  let low ← index b (i + 1)
  return high.toNat <<< 8 ||| low.toNat

section reads
variable {b : List UInt8} {i : Nat}

theorem index_of_lt (h : i < b.length) : index b i = pure (b.getD i 0) := if_pos h

theorem assign_of_lt (h : i < b.length) (x : UInt8) : assign b i x = pure (b.set i x) := if_pos h

theorem slice_of_le {low high : Nat} (hlow : low ≤ high) (hhigh : high ≤ b.length) :
    slice b low high = pure ((b.drop low).take (high - low)) := if_pos ⟨hlow, hhigh⟩

theorem sliceFrom_of_le (h : i ≤ b.length) : sliceFrom b i = pure (b.drop i) := if_pos h

theorem word_of_lt (h : i + 1 < b.length) : word b i = pure (bits16 b i) := by
  unfold word
  rw [index_of_lt (by omega), pure_bind, index_of_lt h, pure_bind]
  rfl

theorem mapM_index {k n : Nat} (h : k + n ≤ b.length) :
    (List.range' k n).mapM (index b) = pure ((b.drop k).take n) := by
  induction n generalizing k with
  | zero => rfl
  | succ n ih =>
    have hcons : (b.drop k).take (n + 1) = b.getD k 0 :: (b.drop (k + 1)).take n := by
      rw [List.drop_eq_getElem_cons (show k < b.length by omega), List.take_succ_cons,
        List.getD_eq_getElem _ _ (by omega)]
    rw [List.range'_succ, List.mapM_cons, index_of_lt (by omega), pure_bind, ih (by omega), pure_bind, hcons]

end reads

/-! ## The decoders -/

def decodeIEEE802 (b : List UInt8) : PacketM Datalink :=
  if b.length < 14 then throw (.err .errShortEthernetLength)
  else do
    let low ← index b 13
    let high ← index b 12
    let etherType := low.toUInt16 ||| high.toUInt16 <<< 8
    if etherType ≠ etherTypeIEEE8021Q then
      let dst ← (List.range' 0 6).mapM (index b)
      let src ← (List.range' 6 6).mapM (index b)
      return { dstMAC := hwAddrFmt dst, srcMAC := hwAddrFmt src, etherType }
    else return { etherType }

def decodeEthernet : PacketM Unit := do
  let p ← get
  if p.data.length < 14 then throw (.err .errShortEthernetHeaderLength)
  else
    let d ← decodeIEEE802 p.data
    if d.etherType = etherTypeIEEE8021Q then
      let vlan ← word p.data 14
      let type₀ ← index p.data 16
      let type₁ ← index p.data 17
      let data ← assign p.data 12 type₀
      let data ← assign data 13 type₁
      let front ← slice data 0 14
      let back ← sliceFrom data 18
      set { p with data := front ++ back }
      let d ← decodeIEEE802 (front ++ back)
      let data ← sliceFrom (front ++ back) 14
      set { p with l2 := { d with vlan }, data }
    else
      let data ← sliceFrom p.data 14
      set { p with l2 := d, data }

def decodeIPv4Header : PacketM Unit := do
  let p ← get
  if p.data.length < Packet.ipv4HLen then throw (.err .errShortIPv4HeaderLength)
  else
    let src ← slice p.data 12 16
    let dst ← slice p.data 16 20
    let version ← index p.data 0
    let tos ← index p.data 1
    let totalLen ← word p.data 2
    let id ← word p.data 4
    let flags ← index p.data 6
    let ttl ← index p.data 8
    let protocol ← index p.data 9
    let checksum ← word p.data 10
    let data ← sliceFrom p.data Packet.ipv4HLen
    set { p with
      l3 := some (.ipv4 {
        version := ((version &&& 0xf0) >>> 4).toNat
        tos := tos.toNat
        totalLen
        id
        flags := (flags &&& 0x07).toNat
        ttl := ttl.toNat
        protocol := protocol.toNat
        checksum
        src := IP.string src
        dst := IP.string dst })
      data }

def decodeIPv6Header : PacketM Unit := do
  let p ← get
  if p.data.length < Packet.ipv6HLen then throw (.err .errShortIPv6HeaderLength)
  else
    let src ← slice p.data 8 24
    let dst ← slice p.data 24 40
    let b₀ ← index p.data 0
    let b₁ ← index p.data 1
    let b₂ ← index p.data 2
    let b₃ ← index p.data 3
    let payloadLen ← word p.data 4
    let nextHeader ← index p.data 6
    let hopLimit ← index p.data 7
    let data ← sliceFrom p.data Packet.ipv6HLen
    set { p with
      l3 := some (.ipv6 {
        version := b₀.toNat >>> 4
        trafficClass := (b₀ &&& 0x0f).toNat <<< 4 ||| b₁.toNat >>> 4
        flowLabel := (b₁ &&& 0x0f).toNat <<< 16 ||| b₂.toNat <<< 8 ||| b₃.toNat
        payloadLen
        nextHeader := nextHeader.toNat
        hopLimit := hopLimit.toNat
        src := IP.string src
        dst := IP.string dst })
      data }

def decodeICMP (b : List UInt8) : PacketM ICMP :=
  if b.length < 5 then throw (.err .errICMPHLenTooSHort)
  else do
    let type ← index b 0
    let code ← index b 1
    let restHeader ← sliceFrom b 4
    return { type := type.toNat, code := code.toNat, restHeader }

def decodeTCP (b : List UInt8) : PacketM TCPHeader :=
  if b.length < 20 then throw (.err .errShortTCPHeaderLength)
  else do
    let srcPort ← word b 0
    let dstPort ← word b 2
    let offset ← index b 12
    let flags ← word b 12
    return { srcPort, dstPort, dataOffset := offset.toNat >>> 4, reserved := 0, flags := flags &&& 0x01ff }

def decodeUDP (b : List UInt8) : PacketM UDPHeader :=
  if b.length < 8 then throw (.err .errShortUDPHeaderLength)
  else do
    let srcPort ← word b 0
    let dstPort ← word b 2
    return { srcPort, dstPort }

/-- A transport header is kept and its length cut off. -/
def transport {h : Type} (decode : List UInt8 → PacketM h) (header : h → TransportHeader) (len : Nat) :
    PacketM Unit := do
  let p ← get
  let x ← decode p.data
  let data ← sliceFrom p.data len
  set { p with l4 := some (header x), data }

def decodeNextLayer : PacketM Unit := do
  let p ← get
  match p.l3 with
  | none => throw (.err .errUnknownL3Protocol)
  | some l3 =>
    let proto := match l3 with
      | .ipv4 h => h.protocol
      | .ipv6 h => h.nextHeader
    if proto = ianaProtoICMP then transport decodeICMP .icmp 4
    else if proto = ianaProtoTCP then transport decodeTCP .tcp 20
    else if proto = ianaProtoUDP then transport decodeUDP .udp 8
    else throw (.err .errUnknownTransportLayer)

def decodeEthernetHeader : PacketM Unit := do
  decodeEthernet
  let p ← get
  if p.l2.etherType = etherTypeIPv4 then
    decodeIPv4Header
    decodeNextLayer
  else if p.l2.etherType = etherTypeIPv6 then
    decodeIPv6Header
    decodeNextLayer
  else throw (.err .errUnknownEtherType)

def decoder (data : List UInt8) (protocol : UInt32) : EStateM.Result PacketFailure Packet Unit :=
  let decode : PacketM Unit :=
    if protocol = Packet.headerProtocolEthernet then decodeEthernetHeader
    else if protocol = Packet.headerProtocolIPv4 then do
      decodeIPv4Header
      decodeNextLayer
    else if protocol = Packet.headerProtocolIPv6 then do
      decodeIPv6Header
      decodeNextLayer
    else throw (.err .errUnknownHeaderProtocol)
  decode { data }

/-! ## The checks never fail, save for a tag -/

/-- A result of a decoder that does not look at the packet. -/
def ofExcept {α : Type} : Except PacketError α → PacketM α
  | .ok x => pure x
  | .error e => throw (.err e)

theorem get_bind {α : Type} (f : Packet → PacketM α) (p : Packet) : (get >>= f) p = f p p := rfl

theorem decodeIEEE802_eq (b : List UInt8) : decodeIEEE802 b = ofExcept (VFlow.decodeIEEE802 b) := by
  unfold decodeIEEE802 VFlow.decodeIEEE802
  by_cases hlen : b.length < 14
  · rw [if_pos hlen, if_pos hlen]
    rfl
  · rw [if_neg hlen, if_neg hlen, index_of_lt (by omega), pure_bind, index_of_lt (by omega), pure_bind]
    dsimp only
    split_ifs
    · rw [mapM_index (by omega), pure_bind, mapM_index (by omega), pure_bind]
      rfl
    · rfl

theorem decodeIPv4Header_eq : decodeIPv4Header = Packet.decodeIPv4Header := by
  funext p
  unfold decodeIPv4Header Packet.decodeIPv4Header Packet.ipv4HLen
  rw [get_bind]
  split_ifs with hlen
  · rfl
  · simp (disch := omega) only [sliceFrom_of_le, slice_of_le, index_of_lt, word_of_lt, pure_bind]
    rfl

theorem decodeIPv6Header_eq : decodeIPv6Header = Packet.decodeIPv6Header := by
  funext p
  unfold decodeIPv6Header Packet.decodeIPv6Header Packet.ipv6HLen
  rw [get_bind]
  split_ifs with hlen
  · rfl
  · simp (disch := omega) only [sliceFrom_of_le, slice_of_le, index_of_lt, word_of_lt, pure_bind]
    rfl

theorem decodeICMP_eq (b : List UInt8) : decodeICMP b = ofExcept (VFlow.decodeICMP b) := by
  unfold decodeICMP VFlow.decodeICMP
  split_ifs with hlen
  · rfl
  · simp (disch := omega) only [sliceFrom_of_le, index_of_lt, pure_bind]
    rfl

theorem decodeTCP_eq (b : List UInt8) : decodeTCP b = ofExcept (VFlow.decodeTCP b) := by
  unfold decodeTCP VFlow.decodeTCP
  split_ifs with hlen
  · rfl
  · simp (disch := omega) only [index_of_lt, word_of_lt, pure_bind]
    rfl

theorem decodeUDP_eq (b : List UInt8) : decodeUDP b = ofExcept (VFlow.decodeUDP b) := by
  unfold decodeUDP VFlow.decodeUDP
  split_ifs with hlen
  · rfl
  · simp (disch := omega) only [word_of_lt, pure_bind]
    rfl

theorem transport_eq {h : Type} {decode : List UInt8 → PacketM h} {decode' : List UInt8 → Except PacketError h}
    (hdecode : ∀ b, decode b = ofExcept (decode' b)) (len : Nat) (hlen : ∀ b x, decode' b = .ok x → len ≤ b.length)
    (header : h → TransportHeader) : transport decode header len = Packet.transport decode' header len := by
  funext p
  unfold transport Packet.transport
  rw [get_bind, hdecode]
  cases hx : decode' p.data with
  | error e => rfl
  | ok x =>
    show (sliceFrom p.data len >>= _) p = _
    rw [sliceFrom_of_le (hlen _ _ hx), pure_bind]
    rfl

theorem decodeNextLayer_eq : decodeNextLayer = Packet.decodeNextLayer := by
  have hicmp := transport_eq decodeICMP_eq 4 (fun b x hx => by
    unfold VFlow.decodeICMP at hx
    split_ifs at hx
    omega) .icmp
  have htcp := transport_eq decodeTCP_eq 20 (fun b x hx => by
    unfold VFlow.decodeTCP at hx
    split_ifs at hx
    omega) .tcp
  have hudp := transport_eq decodeUDP_eq 8 (fun b x hx => by
    unfold VFlow.decodeUDP at hx
    split_ifs at hx
    omega) .udp
  funext p
  unfold decodeNextLayer Packet.decodeNextLayer
  rw [get_bind, hicmp, htcp, hudp]
  cases p.l3 with
  | none => rfl
  | some l3 =>
    cases l3 with
    | ipv4 h =>
      dsimp only
      split_ifs <;> rfl
    | ipv6 h =>
      dsimp only
      split_ifs <;> rfl

theorem cut_eq {b : List UInt8} (h : 18 ≤ b.length) :
    (((b.set 12 (b.getD 16 0)).set 13 (b.getD 17 0)).drop 0).take (14 - 0) ++
        ((b.set 12 (b.getD 16 0)).set 13 (b.getD 17 0)).drop 18 =
      b.take 12 ++ (b.drop 16).take 2 ++ b.drop 18 := by
  obtain ⟨f, l, rfl, hf⟩ : ∃ f l, f ++ l = b ∧ f.length = 12 :=
    ⟨b.take 12, b.drop 12, List.take_append_drop 12 b, by rw [List.length_take]; omega⟩
  have hl : 6 ≤ l.length := by
    rw [List.length_append] at h
    omega
  match l, hl with
  | _ :: _ :: _ :: _ :: _ :: _ :: _, _ =>
    have htake : f.take 14 = f := List.take_of_length_le (by omega)
    have h16 : f.drop 16 = [] := List.drop_eq_nil_of_le (by omega)
    have h18 : f.drop 18 = [] := List.drop_eq_nil_of_le (by omega)
    simp [List.getElem?_append_right, List.set_append_right, List.take_append, List.drop_append, hf, htake, h16, h18]

theorem readTag_fails {α : Type} {p : Packet} (hlen : 14 ≤ p.data.length) (hshort : p.data.length < 18)
    (f : Nat → UInt8 → UInt8 → PacketM α) :
    (do
      let vlan ← word p.data 14
      let type₀ ← index p.data 16
      let type₁ ← index p.data 17
      f vlan type₀ type₁ : PacketM α) p = .error .indexOutOfRange p := by
  obtain h | h | h | h : p.data.length = 14 ∨ p.data.length = 15 ∨ p.data.length = 16 ∨ p.data.length = 17 := by
    omega
  · simp only [word, index, h]
    rfl
  · simp only [word, index, h]
    rfl
  · simp only [word, index, h]
    rfl
  · simp only [word, index, h]
    rfl

theorem decodeEthernet_eq : decodeEthernet = Packet.decodeEthernet := by
  funext p
  unfold decodeEthernet Packet.decodeEthernet
  rw [get_bind]
  by_cases hlen : p.data.length < 14
  · rw [if_pos hlen, if_pos hlen]
    rfl
  rw [if_neg hlen, if_neg hlen, decodeIEEE802_eq]
  cases VFlow.decodeIEEE802 p.data with
  | error e => rfl
  | ok d =>
    show (if d.etherType = etherTypeIEEE8021Q then _ else _ : PacketM Unit) p = _
    dsimp only
    by_cases htag : d.etherType = etherTypeIEEE8021Q
    · rw [if_pos htag, if_pos htag]
      by_cases hshort : p.data.length < 18
      · rw [if_pos hshort]
        exact readTag_fails (by omega) hshort _
      · have hset : ((p.data.set 12 (p.data.getD 16 0)).set 13 (p.data.getD 17 0)).length = p.data.length := by
          rw [List.length_set, List.length_set]
        have hcut : 14 ≤ (p.data.take 12 ++ (p.data.drop 16).take 2 ++ p.data.drop 18).length := by
          simp only [List.length_append, List.length_take, List.length_drop]
          omega
        rw [if_neg hshort, word_of_lt (by omega), pure_bind, index_of_lt (by omega), pure_bind,
          index_of_lt (by omega), pure_bind, assign_of_lt (by omega), pure_bind,
          assign_of_lt (by rw [List.length_set]; omega), pure_bind, slice_of_le (by omega) (by omega), pure_bind,
          sliceFrom_of_le (by omega), pure_bind, cut_eq (by omega), decodeIEEE802_eq, sliceFrom_of_le hcut]
        cases VFlow.decodeIEEE802 (p.data.take 12 ++ (p.data.drop 16).take 2 ++ p.data.drop 18) with
        | error e => rfl
        | ok d => rfl
    · rw [if_neg htag, if_neg htag, sliceFrom_of_le (by omega), pure_bind]
      rfl

theorem decoder_eq (data : List UInt8) (protocol : UInt32) : decoder data protocol = Packet.decoder data protocol := by
  unfold decoder Packet.decoder decodeEthernetHeader Packet.decodeEthernetHeader
  rw [decodeEthernet_eq, decodeIPv4Header_eq, decodeIPv6Header_eq, decodeNextLayer_eq]

end Checked

/-! ## Where an index is out of range -/

/-- The method never ends with an index out of range. -/
def InRange {α : Type} (m : PacketM α) : Prop := ∀ p q, m p ≠ .error .indexOutOfRange q

theorem packet_bind_apply {α β : Type} (m : PacketM α) (f : α → PacketM β) (p : Packet) :
    (m >>= f) p = match m p with
      | .ok x q => f x q
      | .error e q => .error e q := by
  show EStateM.bind m f p = _
  unfold EStateM.bind
  cases m p <;> rfl

theorem InRange.bind_iff {α β : Type} {m : PacketM α} {f : α → PacketM β} (hf : ∀ x, InRange (f x)) (p : Packet) :
    (∃ q, (m >>= f) p = .error .indexOutOfRange q) ↔ ∃ q, m p = .error .indexOutOfRange q := by
  rw [packet_bind_apply]
  cases m p with
  | ok x q => simp [hf x q]
  | error e q => simp

theorem InRange.bind {α β : Type} {m : PacketM α} {f : α → PacketM β} (hm : InRange m) (hf : ∀ x, InRange (f x)) :
    InRange (m >>= f) := by
  intro p q h
  obtain ⟨q', hq'⟩ := (InRange.bind_iff hf p).mp ⟨q, h⟩
  exact hm p q' hq'

theorem InRange.throw {α : Type} (e : PacketError) : InRange (throw (.err e) : PacketM α) := by
  intro p q h
  cases h

theorem inRange_decodeIPv4Header : InRange Packet.decodeIPv4Header := by
  intro p q h
  unfold Packet.decodeIPv4Header at h
  split_ifs at h
  cases h

theorem inRange_decodeIPv6Header : InRange Packet.decodeIPv6Header := by
  intro p q h
  unfold Packet.decodeIPv6Header at h
  split_ifs at h
  cases h

theorem inRange_transport {h : Type} (decode : List UInt8 → Except PacketError h) (header : h → TransportHeader)
    (len : Nat) : InRange (Packet.transport decode header len) := by
  intro p q heq
  unfold Packet.transport at heq
  split at heq <;> cases heq

theorem inRange_decodeNextLayer : InRange Packet.decodeNextLayer := by
  intro p q h
  unfold Packet.decodeNextLayer at h
  split at h
  · cases h
  · dsimp only at h
    split_ifs at h
    · exact inRange_transport _ _ _ p q h
    · exact inRange_transport _ _ _ p q h
    · exact inRange_transport _ _ _ p q h
    · cases h

theorem decodeIEEE802_of_le {b : List UInt8} (h : 14 ≤ b.length) :
    ∃ d, decodeIEEE802 b = .ok d ∧ d.etherType = BigEndian.uint16 (b.drop 12) := by
  have htype : BigEndian.uint16 (b.drop 12) = (b.getD 13 0).toUInt16 ||| (b.getD 12 0).toUInt16 <<< 8 := by
    simp [BigEndian.uint16]
  rw [htype]
  unfold decodeIEEE802
  rw [if_neg (by omega)]
  dsimp only
  split_ifs
  · exact ⟨_, rfl, rfl⟩
  · exact ⟨_, rfl, rfl⟩

theorem decodeEthernet_indexOutOfRange_iff (p : Packet) :
    (∃ q, Packet.decodeEthernet p = .error .indexOutOfRange q) ↔
      14 ≤ p.data.length ∧ p.data.length < 18 ∧ BigEndian.uint16 (p.data.drop 12) = etherTypeIEEE8021Q := by
  unfold Packet.decodeEthernet
  by_cases hlen : p.data.length < 14
  · rw [if_pos hlen]
    simp only [EStateM.Result.error.injEq, reduceCtorEq, false_and, exists_false, false_iff, not_and]
    omega
  · obtain ⟨d, hd, htype⟩ := decodeIEEE802_of_le (show 14 ≤ p.data.length by omega)
    rw [if_neg hlen, hd, ← htype]
    dsimp only
    by_cases htag : d.etherType = etherTypeIEEE8021Q
    · rw [if_pos htag]
      split_ifs with hshort
      · simp only [EStateM.Result.error.injEq, true_and, exists_eq', true_iff]
        exact ⟨by omega, hshort, htag⟩
      · split <;> simp [hshort]
    · rw [if_neg htag]
      simp [htag]

/-- `Decoder` returns for every input, save for an Ethernet frame with a tag that ends within the tag. -/
theorem decoder_inRange_iff (data : List UInt8) (protocol : UInt32) :
    (∀ p, Checked.decoder data protocol ≠ .error .indexOutOfRange p) ↔
      ¬(protocol = Packet.headerProtocolEthernet ∧ 14 ≤ data.length ∧ data.length < 18 ∧
        BigEndian.uint16 (data.drop 12) = etherTypeIEEE8021Q) := by
  rw [Checked.decoder_eq]
  unfold Packet.decoder
  dsimp only
  by_cases heth : protocol = Packet.headerProtocolEthernet
  · rw [if_pos heth, ← decodeEthernet_indexOutOfRange_iff { data }, ← not_exists]
    unfold Packet.decodeEthernetHeader
    rw [InRange.bind_iff]
    · simp [heth]
    · intro _ p q h
      change (if p.l2.etherType = etherTypeIPv4 then _ else _ : PacketM Unit) p = _ at h
      split_ifs at h
      · exact inRange_decodeIPv4Header.bind (fun _ => inRange_decodeNextLayer) p q h
      · exact inRange_decodeIPv6Header.bind (fun _ => inRange_decodeNextLayer) p q h
      · cases h
  · rw [if_neg heth]
    simp only [heth, false_and, not_false_eq_true, iff_true]
    intro q
    split_ifs
    · exact inRange_decodeIPv4Header.bind (fun _ => inRange_decodeNextLayer) _ q
    · exact inRange_decodeIPv6Header.bind (fun _ => inRange_decodeNextLayer) _ q
    · exact InRange.throw _ _ q

/-- The two addresses of a frame, and a tag without its value. -/
def cutFrame : List UInt8 := [1, 2, 3, 4, 5, 6, 7, 8, 9, 10, 11, 12, 0x81, 0]

theorem decoder_cutFrame :
    Checked.decoder cutFrame Packet.headerProtocolEthernet = .error .indexOutOfRange { data := cutFrame } := rfl

end VFlow
