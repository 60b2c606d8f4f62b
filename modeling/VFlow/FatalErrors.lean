import VFlow.Ipfix.Walk
import VFlow.Netflow9.Framing

/-!
# Fatal errors

Both decoders mean to skip a set whose template or element is unknown, and to give the packet up at any
other error: only the former are converted to `nonfatalError`. But the type switch on `nonfatalError`
takes every error for one, so no error of a set ever ends `Decode`.
-/

namespace VFlow

/-- The set at the reader raises the error `e`, which is fatal, and leaves the cache `mem'`. -/
def Ipfix.RaisesFatal (im : IANAInfoModel) (raddr : IP) (s : Ipfix.DecodeState) (e : Error)
    (mem' : MemCache Ipfix.TemplateRecord) : Prop :=
  ∃ fuel s', Ipfix.decodeSet im raddr fuel s = some (s', some e) ∧ e.Fatal ∧ s'.mem = mem'

/-- `Decode` returns no message, the error `e`, and the cache `mem'`. -/
def Ipfix.StopsWith (im : IANAInfoModel) (raddr : IP) (mem : MemCache Ipfix.TemplateRecord) (b : List UInt8)
    (e : Error) (mem' : MemCache Ipfix.TemplateRecord) : Prop :=
  ∃ out, Ipfix.Decodes im raddr mem b out ∧ out.msg = none ∧ out.err = some e ∧ out.mem = mem'

/-- Every fatal error of a set stops `Decode`, with the cache as it was then. -/
def Ipfix.StopsAtFatal (im : IANAInfoModel) (raddr : IP) (mem : MemCache Ipfix.TemplateRecord) (b : List UInt8) :
    Prop :=
  ∀ s e mem', Ipfix.Enters im raddr mem b s → Ipfix.RaisesFatal im raddr s e mem' →
    Ipfix.StopsWith im raddr mem b e mem'

def Netflow9.RaisesFatal (im : IANAInfoModel) (raddr : IP) (s : Netflow9.DecodeState) (e : Error)
    (mem' : MemCache Netflow9.TemplateRecord) : Prop :=
  ∃ fuel s', Netflow9.decodeSet im raddr fuel s = some (s', some e) ∧ e.Fatal ∧ s'.mem = mem'

def Netflow9.StopsWith (im : IANAInfoModel) (raddr : IP) (mem : MemCache Netflow9.TemplateRecord) (b : List UInt8)
    (e : Error) (mem' : MemCache Netflow9.TemplateRecord) : Prop :=
  ∃ out, Netflow9.Decodes im raddr mem b out ∧ out.msg = none ∧ out.err = some e ∧ out.mem = mem'

def Netflow9.StopsAtFatal (im : IANAInfoModel) (raddr : IP) (mem : MemCache Netflow9.TemplateRecord)
    (b : List UInt8) : Prop :=
  ∀ s e mem', Netflow9.Enters im raddr mem b s → Netflow9.RaisesFatal im raddr s e mem' →
    Netflow9.StopsWith im raddr mem b e mem'

theorem Ipfix.Decodes.msg_ne_none {im : IANAInfoModel} {raddr : IP} {mem : MemCache Ipfix.TemplateRecord}
    {b : List UInt8} {s : Ipfix.DecodeState} {out : Ipfix.Outcome} (h : Ipfix.Decodes im raddr mem b out)
    (he : Ipfix.Enters im raddr mem b s) : out.msg ≠ none := by
  obtain ⟨e, hret, rfl⟩ := Ipfix.decodes_iff.mp h
  obtain ⟨t, errs, rfl⟩ := PacketDecoder.Enters.returns_all he hret
  exact Option.some_ne_none _

theorem Netflow9.Decodes.msg_ne_none {im : IANAInfoModel} {raddr : IP} {mem : MemCache Netflow9.TemplateRecord}
    {b : List UInt8} {s : Netflow9.DecodeState} {out : Netflow9.Outcome} (h : Netflow9.Decodes im raddr mem b out)
    (he : Netflow9.Enters im raddr mem b s) : out.msg ≠ none := by
  obtain ⟨e, hret, rfl⟩ := Netflow9.decodes_iff.mp h
  obtain ⟨t, errs, rfl⟩ := PacketDecoder.Enters.returns_all he hret
  exact Option.some_ne_none _

/-- **No fatal error stops decoding.** In both decoders, for every packet and cache and every fatal error
of a set: `Decode` does not stop with this error. -/
theorem fatal_never_stops (im : IANAInfoModel) (raddr : IP) (b : List UInt8) :
    (∀ mem s e mem', Ipfix.Enters im raddr mem b s → Ipfix.RaisesFatal im raddr s e mem' →
        ¬ Ipfix.StopsWith im raddr mem b e mem') ∧
      ∀ mem s e mem', Netflow9.Enters im raddr mem b s → Netflow9.RaisesFatal im raddr s e mem' →
        ¬ Netflow9.StopsWith im raddr mem b e mem' := by
  constructor
  · rintro mem s e mem' he - ⟨out, hout, hmsg, -⟩
    exact hout.msg_ne_none he hmsg
  · rintro mem s e mem' he - ⟨out, hout, hmsg, -⟩
    exact hout.msg_ne_none he hmsg

def Ipfix.lengthZeroPacket : List UInt8 := Ipfix.sampleHeader ++ [0, 5, 0, 0] ++ [0, 2, 0, 12, 1, 0, 0, 1, 0, 8, 0, 4]

def Netflow9.lengthZeroPacket : List UInt8 :=
  Netflow9.sampleHeader ++ [0, 5, 0, 0] ++ [0, 0, 0, 12, 1, 0, 0, 1, 0, 8, 0, 4]

/-- The set of length 0 raises a fatal error in both decoders, which does not stop them. -/
theorem fatal_never_stops_lengthZero :
    (∃ s, Ipfix.Enters infoModel [192, 0, 2, 1] .empty Ipfix.lengthZeroPacket s ∧
        Ipfix.RaisesFatal infoModel [192, 0, 2, 1] s .errUnexpectedEOF .empty ∧
        ¬ Ipfix.StopsWith infoModel [192, 0, 2, 1] .empty Ipfix.lengthZeroPacket .errUnexpectedEOF .empty) ∧
      ∃ s, Netflow9.Enters infoModel [192, 0, 2, 1] .empty Netflow9.lengthZeroPacket s ∧
        Netflow9.RaisesFatal infoModel [192, 0, 2, 1] s .errUnexpectedEOF .empty ∧
        ¬ Netflow9.StopsWith infoModel [192, 0, 2, 1] .empty Netflow9.lengthZeroPacket .errUnexpectedEOF .empty := by
  constructor
  · have he : Ipfix.Enters infoModel [192, 0, 2, 1] .empty Ipfix.lengthZeroPacket _ :=
      Ipfix.enters_start ⟨rfl, rfl⟩ (by decide)
    exact ⟨_, he, ⟨1, _, rfl, id, rfl⟩,
      (fatal_never_stops infoModel [192, 0, 2, 1] Ipfix.lengthZeroPacket).1 _ _ _ _ he ⟨1, _, rfl, id, rfl⟩⟩
  · have he : Netflow9.Enters infoModel [192, 0, 2, 1] .empty Netflow9.lengthZeroPacket _ :=
      Netflow9.enters_start ⟨rfl, rfl⟩ (by decide)
    exact ⟨_, he, ⟨1, _, rfl, id, rfl⟩,
      (fatal_never_stops infoModel [192, 0, 2, 1] Netflow9.lengthZeroPacket).2 _ _ _ _ he ⟨1, _, rfl, id, rfl⟩⟩

/-- In both decoders the set of length 0 raises a fatal error with the cache still empty, and `Decode`
carries on, stores the template that follows and returns a message. -/
theorem decode_carries_on :
    (¬ Ipfix.StopsAtFatal infoModel [192, 0, 2, 1] .empty Ipfix.lengthZeroPacket ∧
        ∃ out, Ipfix.Decodes infoModel [192, 0, 2, 1] .empty Ipfix.lengthZeroPacket out ∧ out.msg.isSome ∧
          (out.mem.retrieve 256 [192, 0, 2, 1]).isSome) ∧
      ¬ Netflow9.StopsAtFatal infoModel [192, 0, 2, 1] .empty Netflow9.lengthZeroPacket ∧
        ∃ out, Netflow9.Decodes infoModel [192, 0, 2, 1] .empty Netflow9.lengthZeroPacket out ∧ out.msg.isSome ∧
          (out.mem.retrieve 256 [192, 0, 2, 1]).isSome := by
  refine ⟨⟨fun hstops => ?_, _, ⟨5, rfl⟩, rfl, rfl⟩, fun hstops => ?_, _, ⟨5, rfl⟩, rfl, rfl⟩
  · have he : Ipfix.Enters infoModel [192, 0, 2, 1] .empty Ipfix.lengthZeroPacket _ :=
      Ipfix.enters_start ⟨rfl, rfl⟩ (by decide)
    obtain ⟨out, hout, hmsg, -⟩ := hstops _ .errUnexpectedEOF .empty he ⟨1, _, rfl, id, rfl⟩
    exact hout.msg_ne_none he hmsg
  · have he : Netflow9.Enters infoModel [192, 0, 2, 1] .empty Netflow9.lengthZeroPacket _ :=
      Netflow9.enters_start ⟨rfl, rfl⟩ (by decide)
    obtain ⟨out, hout, hmsg, -⟩ := hstops _ .errUnexpectedEOF .empty he ⟨1, _, rfl, id, rfl⟩
    exact hout.msg_ne_none he hmsg

end VFlow
