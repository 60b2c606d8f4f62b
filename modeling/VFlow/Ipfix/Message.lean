import VFlow.Ipfix.Set

/-!
# One IPFIX message

`Decode` is an instance of the packet decoder: `Decodes` is its result for a large enough bound,
`Enters` are the states in which it calls `decodeSet`.
-/

namespace VFlow.Ipfix

open Scan Reader

variable {im : IANAInfoModel} {raddr : IP} {mem : MemCache TemplateRecord} {b : List UInt8} {s s' : DecodeState}
  {err : Option Error} {fuel : Nat} {out : Outcome} {header : MessageHeader} {r : Reader}

/-- `Decode` returns `out`. -/
def Decodes (im : IANAInfoModel) (raddr : IP) (mem : MemCache TemplateRecord) (b : List UInt8) (out : Outcome) : Prop :=
  ∃ fuel, decode im raddr mem b fuel = some out

/-- `Decode` comes to a call of `decodeSet` in the state `s`. -/
def Enters (im : IANAInfoModel) (raddr : IP) (mem : MemCache TemplateRecord) (b : List UInt8) (s : DecodeState) :
    Prop :=
  (packetDecoder im raddr mem).Enters b s

theorem packetDecoder_lawful : (packetDecoder im raddr mem).Lawful 16 where
  reads_unmarshal := reads_messageHeader
  reader_start _ _ := rfl
  family := decodeSet_family
  forward _ _ _ _ hlen hs := decodeSet_forward hlen hs

theorem decodes_iff : Decodes im raddr mem b out ↔ ∃ e, (packetDecoder im raddr mem).Returns b e ∧ out = finish mem e :=
  PacketDecoder.exists_map_decode_iff

theorem Decodes.unique {out' : Outcome} (h : Decodes im raddr mem b out) (h' : Decodes im raddr mem b out') :
    out = out' := by
  obtain ⟨e, he, rfl⟩ := decodes_iff.mp h
  obtain ⟨e', he', rfl⟩ := decodes_iff.mp h'
  rw [he.unique packetDecoder_lawful he']

theorem exists_decodes_iff :
    (∃ out, Decodes im raddr mem b out) ↔
      ∀ s, Enters im raddr mem b s → ∃ n out, decodeSet im raddr n s = some out := by
  refine Iff.trans ?_ (PacketDecoder.returns_iff packetDecoder_lawful)
  simp only [decodes_iff]
  exact ⟨fun ⟨_, e, he, _⟩ => ⟨e, he⟩, fun ⟨e, he⟩ => ⟨_, e, he, rfl⟩⟩

theorem Enters.within (h : Enters im raddr mem b s) :
    16 ≤ s.reader.count ∧ s.reader.count + s.reader.len = b.length ∧
      s.reader = (Reader.new b).advance s.reader.count := by
  have hw := PacketDecoder.Enters.within packetDecoder_lawful h
  exact ⟨hw.1, hw.len, hw.2.2⟩

theorem Enters.next (h : Enters im raddr mem b s) (hset : decodeSet im raddr fuel s = some (s', err))
    (hlen : 4 < s'.reader.len) : Enters im raddr mem b s' := PacketDecoder.Enters.next h hset hlen

theorem Enters.len (h : Enters im raddr mem b s) : 4 < s.reader.len := PacketDecoder.Enters.len h

/-! ## Packets without a header -/

/-- The packet is too short for a header, or of another version. -/
def Refused (b : List UInt8) : Prop := b.length < 16 ∨ BigEndian.uint16 b ≠ 10

theorem MessageHeader.version_of_unmarshal {header : MessageHeader} {r r' : Reader}
    (h : MessageHeader.unmarshal r = .ok header r') : header.version = BigEndian.uint16 r.data := by
  obtain ⟨version, r₁, hversion, h⟩ := Scan.bind_eq_ok.mp h
  obtain ⟨length, r₂, -, h⟩ := Scan.bind_eq_ok.mp h
  obtain ⟨exportTime, r₃, -, h⟩ := Scan.bind_eq_ok.mp h
  obtain ⟨sequenceNo, r₄, -, h⟩ := Scan.bind_eq_ok.mp h
  obtain ⟨domainID, r₅, -, h⟩ := Scan.bind_eq_ok.mp h
  cases h
  unfold Reader.uint16 at hversion
  split_ifs at hversion
  cases hversion
  rfl

theorem headerOk_iff : (∃ header r, (packetDecoder im raddr mem).HeaderOk b header r) ↔ ¬ Refused b := by
  constructor
  · rintro ⟨header, r, hread, hvalid⟩
    have hlen : 16 ≤ b.length := (reads_messageHeader.of_ok hread).1
    have hversion : header.version = BigEndian.uint16 b := MessageHeader.version_of_unmarshal hread
    have hten : header.version = 0x000a := by
      by_contra hne
      simp [packetDecoder, MessageHeader.validate, hne] at hvalid
    rintro (hshort | hother)
    · omega
    · exact hother (hversion.symm.trans hten)
  · intro h
    obtain ⟨hlen, hten⟩ := not_or.mp h
    obtain ⟨header, hread⟩ := (reads_messageHeader (Reader.new b)).1 (Nat.le_of_not_lt hlen)
    refine ⟨header, _, hread, ?_⟩
    have hversion : header.version = 0x000a :=
      (MessageHeader.version_of_unmarshal hread).trans (not_not.mp hten)
    simp [packetDecoder, MessageHeader.validate, hversion]

theorem not_enters_of_refused (h : Refused b) : ¬ Enters im raddr mem b s := by
  rintro ⟨header, r, hh, -⟩
  exact headerOk_iff.mp ⟨header, r, hh⟩ h

theorem decodes_of_refused (im : IANAInfoModel) (raddr : IP) (mem : MemCache TemplateRecord) (h : Refused b) :
    ∃ out, Decodes im raddr mem b out ∧ out.mem = mem := by
  have hno : ¬ ∃ header r, (packetDecoder im raddr mem).HeaderOk b header r := fun hh => headerOk_iff.mp hh h
  obtain ⟨err, herr⟩ := PacketDecoder.decode_of_not_headerOk hno
  exact ⟨_, decodes_iff.mpr ⟨.error err, ⟨0, herr 0⟩, rfl⟩, rfl⟩

end VFlow.Ipfix
