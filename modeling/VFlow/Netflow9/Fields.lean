import VFlow.Netflow9.Packet

/-!
# Which bytes the records of a message are read from

A data record is decoded field by field from bytes that stand one after the other in the packet
(`decodeData_wire`). No pass of a record loop leaves the packet or changes the records that are there, so that
every record of a message comes from a run of fields of the packet (`Decodes.exists_wire`).
-/

namespace VFlow.Netflow9

open Scan Reader

variable {im : IANAInfoModel} {raddr : IP} {mem : MemCache TemplateRecord} {b : List UInt8} {s s' : DecodeState}
  {err : Option Error} {fuel : Nat} {out : Outcome} {h : SetHeader} {startCount : Nat} {tr : TemplateRecord}

/-- A field of a data record as it stands in the packet. -/
structure WireField where
  id : UInt16
  bytes : List UInt8

/-- The field is decoded to `f`. -/
def WireField.Read (im : IANAInfoModel) (w : WireField) (f : DecodedField) : Prop :=
  ∃ m, im.lookup { enterpriseNo := 0, elementID := w.id } = some m ∧ f.id = w.id ∧ f.value = interpret w.bytes m.type

/-- The fields stand in the packet one after the other, and are decoded to the record. -/
def ReadRecord (im : IANAInfoModel) (b : List UInt8) (ws : List WireField) (record : List DecodedField) : Prop :=
  ws.flatMap WireField.bytes <:+: b ∧ List.Forall₂ (WireField.Read im) ws record

theorem decodeField_wire {scope : Bool} {spec : TemplateFieldSpecifier} {r r' : Reader} {f : DecodedField}
    (h : decodeField im scope spec r = .ok f r') :
    ∃ w : WireField, w.Read im f ∧ r.data = w.bytes ++ r'.data := by
  obtain ⟨bytes, r₁, hread, h⟩ := bind_eq_ok.mp h
  have hle : spec.length.toNat ≤ r.len := by
    by_contra hlt
    rw [read_of_lt (by omega)] at hread
    exact nomatch hread
  rw [read_of_le hle, EStateM.Result.ok.injEq] at hread
  obtain ⟨rfl, rfl⟩ := hread
  cases hm : im.lookup { enterpriseNo := 0, elementID := spec.elementID } with
  | none =>
    rw [hm] at h
    exact nomatch h
  | some m =>
    rw [hm] at h
    dsimp only at h
    rw [pure_apply, EStateM.Result.ok.injEq] at h
    obtain ⟨rfl, rfl⟩ := h
    refine ⟨⟨spec.elementID, r.data.take spec.length.toNat⟩, ⟨m, hm, im.fieldID_eq _ _ hm, rfl⟩, ?_⟩
    exact (List.take_append_drop _ _).symm

theorem each_wire {specs : List (Bool × TemplateFieldSpecifier)} {r r' : Reader} {data : List DecodedField}
    (h : Scan.each (fun p => decodeField im p.1 p.2) specs r = .ok data r') :
    ∃ ws, List.Forall₂ (WireField.Read im) ws data ∧ r.data = ws.flatMap WireField.bytes ++ r'.data := by
  induction specs generalizing r data with
  | nil =>
    rw [Scan.each, pure_apply, EStateM.Result.ok.injEq] at h
    obtain ⟨rfl, rfl⟩ := h
    exact ⟨[], .nil, rfl⟩
  | cons p specs ih =>
    rw [Scan.each, bind_eq_ok] at h
    obtain ⟨f, r₁, hf, h⟩ := h
    obtain ⟨fs, hfs, rfl⟩ := bind_pure_eq_ok.mp h
    obtain ⟨w, hw, hdata⟩ := decodeField_wire hf
    obtain ⟨ws, hws, hrest⟩ := ih hfs
    exact ⟨w :: ws, .cons hw hws, by rw [hdata, hrest, List.flatMap_cons, List.append_assoc]⟩

theorem decodeData_wire {r r' : Reader} {data : List DecodedField} (h : decodeData im tr r = .ok data r')
    (hr : r.data <:+ b) : ∃ ws, ReadRecord im b ws data := by
  rw [decodeData_eq] at h
  obtain ⟨ws, hws, hdata⟩ := each_wire h
  refine ⟨ws, ?_, hws⟩
  obtain ⟨front, rfl⟩ := hr
  rw [hdata, ← List.append_assoc]
  exact ⟨front, r'.data, rfl⟩

theorem recordPass_dataSets {x' : DecodeState × Option Error}
    (hp : recordPass im raddr h startCount tr (s, err) = .next x') :
    x'.1.msg.dataSets = s.msg.dataSets ∨ ∃ data r, decodeData im tr s.reader = .ok data r ∧
      x'.1.msg.dataSets = s.msg.dataSets ++ [data] := by
  obtain ⟨hg, hstep⟩ := recordPass_next hp
  cases hstep with
  | stored t _ _ => exact .inl rfl
  | cutOff k t _ _ => exact .inl rfl
  | failed k e _ _ _ => exact .inl rfl
  | record data hid _ _ =>
    rw [recordPass_of_guard hg, recordBody_data hid] at hp
    cases hdec : decodeData im tr s.reader with
    | error e r =>
      rw [hdec] at hp
      exact nomatch congrArg Prod.snd (LoopStep.next.inj hp)
    | ok data' r =>
      rw [hdec] at hp
      have hx := LoopStep.next.inj hp
      exact .inr ⟨data', r, rfl, congrArg (fun x => x.1.msg.dataSets) hx.symm⟩

/-- The reader stands in the packet, and the records of the message come from it. -/
def Sourced (im : IANAInfoModel) (b : List UInt8) (s : DecodeState) : Prop :=
  s.reader.data <:+ b ∧ ∃ wss, List.Forall₂ (ReadRecord im b) wss s.msg.dataSets

theorem Sourced.advance (hs : Sourced im b s) (k : Nat) : Sourced im b { s with reader := s.reader.advance k } :=
  ⟨(List.drop_suffix k s.reader.data).trans hs.1, hs.2⟩

theorem Sourced.recordPass {x' : DecodeState × Option Error} (hs : Sourced im b s)
    (hp : recordPass im raddr h startCount tr (s, err) = .next x') : Sourced im b x'.1 := by
  obtain ⟨k, -, hreader⟩ := (recordPass_next hp).2.forward
  constructor
  · rw [hreader]
    exact (hs.advance k).1
  · obtain ⟨wss, hwss⟩ := hs.2
    rcases recordPass_dataSets hp with hsame | ⟨data, r, hdec, happ⟩
    · exact ⟨wss, hsame ▸ hwss⟩
    · obtain ⟨ws, hws⟩ := decodeData_wire hdec hs.1
      exact ⟨wss ++ [ws], happ ▸ List.rel_append hwss (.cons hws .nil)⟩

theorem Sourced.decodeSet (hs : Sourced im b s) (hlen : 4 < s.reader.len)
    (hset : decodeSet im raddr fuel s = some (s', err)) : Sourced im b s' := by
  rcases (decodeSet_eq_some hlen.le).mp hset with ⟨-, hout⟩ | ⟨-, y, hy, hout⟩
  · obtain ⟨rfl, -⟩ := Prod.mk.inj hout
    exact hs.advance 4
  · have hy' : Sourced im b y.1 := recordLoop_invariant (P := fun x => Sourced im b x.1)
      (fun _ _ hp => recordPass_done hp) (fun _ _ hx hp => hx.recordPass hp) (hs.advance 4) hy
    obtain ⟨k, -, hskip⟩ := skipLeftover_forward (SetHeader.ofBytes s.reader.data) s.reader.count y
    rw [show s' = (s', err).1 from rfl, hout, hskip]
    exact hy'.advance k

theorem Decodes.exists_wire {msg : Message} (hdec : Decodes im raddr mem b out) (hmsg : out.msg = some msg) :
    ∃ wss, List.Forall₂ (ReadRecord im b) wss msg.dataSets := by
  obtain ⟨e, he, rfl⟩ := decodes_iff.mp hdec
  have hstart : ∀ header r, (packetDecoder im raddr mem).HeaderOk b header r →
      Sourced im b ((packetDecoder im raddr mem).start header r) := by
    intro header r hh
    obtain ⟨-, rfl⟩ := hh.reader_eq packetDecoder_lawful
    exact ⟨List.drop_suffix _ _, [], .nil⟩
  rcases he.invariant hstart (fun _ _ _ _ hs hlen hset => hs.decodeSet hlen hset) with ⟨err, rfl⟩ | ⟨s, errs, hs, rfl⟩
  · exact nomatch hmsg
  · obtain rfl := Option.some.inj hmsg
    exact hs.2

end VFlow.Netflow9
