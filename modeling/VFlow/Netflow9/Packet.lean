import VFlow.Netflow9.Set

/-!
# One NetFlow v9 packet

`Decode` is an instance of the packet decoder: `Decodes` is its result for a large enough bound,
`Enters` are the states in which it calls `decodeSet`.
-/

namespace VFlow.Netflow9

open Scan Reader

variable {im : IANAInfoModel} {raddr : IP} {mem : MemCache TemplateRecord} {b : List UInt8} {s s' : DecodeState}
  {err : Option Error} {fuel : Nat} {out : Outcome} {header : PacketHeader} {r : Reader}

/-- `Decode` returns `out`. -/
def Decodes (im : IANAInfoModel) (raddr : IP) (mem : MemCache TemplateRecord) (b : List UInt8) (out : Outcome) : Prop :=
  ∃ fuel, decode im raddr mem b fuel = some out

/-- `Decode` comes to a call of `decodeSet` in the state `s`. -/
def Enters (im : IANAInfoModel) (raddr : IP) (mem : MemCache TemplateRecord) (b : List UInt8) (s : DecodeState) :
    Prop :=
  (packetDecoder im raddr mem).Enters b s

theorem packetDecoder_lawful : (packetDecoder im raddr mem).Lawful 20 where
  reads_unmarshal := reads_packetHeader
  reader_start _ _ := rfl
  family := decodeSet_family
  forward _ _ _ _ hlen hs := decodeSet_forward hlen hs

theorem decodes_iff : Decodes im raddr mem b out ↔ ∃ e, (packetDecoder im raddr mem).Returns b e ∧ out = finish mem e :=
  PacketDecoder.exists_map_decode_iff

theorem Decodes.unique {out' : Outcome} (h : Decodes im raddr mem b out) (h' : Decodes im raddr mem b out') :
    out = out' := by
  obtain ⟨e, he, rfl⟩ := decodes_iff.mp h
  obtain ⟨e', he', rfl⟩ := decodes_iff.mp h'
  rw [he.unique packetDecoder_lawful he']

theorem Decodes.invariant {P : DecodeState → Prop} {msg : Message} (hdec : Decodes im raddr mem b out)
    (hmsg : out.msg = some msg) (hstart : ∀ header r, header.validate = none → P (start raddr mem header r))
    (hset : ∀ n s s' err, P s → 4 < s.reader.len → decodeSet im raddr n s = some (s', err) → P s') :
    ∃ s, P s ∧ s.msg = msg ∧ s.mem = out.mem := by
  obtain ⟨e, he, rfl⟩ := decodes_iff.mp hdec
  rcases he.invariant (fun header r hh => hstart header r hh.2) hset with ⟨err, rfl⟩ | ⟨s, errs, hs, rfl⟩
  · cases hmsg
  · exact ⟨s, hs, Option.some.inj hmsg, rfl⟩

theorem exists_decodes_iff :
    (∃ out, Decodes im raddr mem b out) ↔
      ∀ s, Enters im raddr mem b s → ∃ n out, decodeSet im raddr n s = some out := by
  refine Iff.trans ?_ (PacketDecoder.returns_iff packetDecoder_lawful)
  simp only [decodes_iff]
  exact ⟨fun ⟨_, e, he, _⟩ => ⟨e, he⟩, fun ⟨e, he⟩ => ⟨_, e, he, rfl⟩⟩

theorem Enters.len (h : Enters im raddr mem b s) : 4 < s.reader.len := PacketDecoder.Enters.len h

end VFlow.Netflow9
