import VFlow.Netflow9.Packet

/-!
# When the NetFlow v9 decoder terminates

The flowset ids 2 and 3 are taken for data flowsets of the zero template here, and a cached template
may have no fields, or fields of no bytes only. Such a flowset stalls (`Stalls`), and this is the only
way not to terminate: `decode_terminates_iff_not_stalls`.
-/

namespace VFlow.Netflow9

open Scan Reader

variable {im : IANAInfoModel} {raddr : IP} {s s' : DecodeState} {err : Option Error} {fuel : Nat}

/-- The flowset at the reader reads data records of no bytes for ever: more than 8 bytes are declared,
more than 4 bytes of the packet follow the header, and the template is the zero record of the ids 2
and 3, or a cached record of length 0 whose elements are all known. -/
def Stalls (im : IANAInfoModel) (raddr : IP) (s : DecodeState) : Prop :=
  8 < (SetHeader.ofBytes s.reader.data).length ∧ 8 < s.reader.len ∧
    ((SetHeader.ofBytes s.reader.data).flowSetID = 2 ∨ (SetHeader.ofBytes s.reader.data).flowSetID = 3 ∨
      255 < (SetHeader.ofBytes s.reader.data).flowSetID ∧
        ∃ tr, s.mem.retrieve (SetHeader.ofBytes s.reader.data).flowSetID raddr = some tr ∧ tr.Known im ∧
          tr.recordLength = 0)

def EmptyRecords (im : IANAInfoModel) (raddr : IP) (s : DecodeState) : Prop :=
  (SetHeader.ofBytes s.reader.data).IsData ∧ (loopTemplate raddr s).Known im ∧ (loopTemplate raddr s).recordLength = 0

theorem zeroTemplate_known : ({} : TemplateRecord).Known im := by
  intro p hp
  simp [TemplateRecord.specifiers] at hp

theorem recordGuard_loopStart :
    recordGuard (SetHeader.ofBytes s.reader.data) s.reader.count (loopStart raddr s) = true ↔
      (loopStart raddr s).2 = none ∧ 8 < (SetHeader.ofBytes s.reader.data).length ∧ 8 < s.reader.len := by
  rw [show loopStart raddr s = ((loopStart raddr s).1, (loopStart raddr s).2) from rfl, recordGuard_iff,
    leftover_loopStart, UInt16.lt_iff_toNat_lt]
  change _ ↔ _ ∧ 8 < (SetHeader.ofBytes s.reader.data).length.toNat ∧ _
  refine and_congr_right fun _ => and_congr (by omega) ?_
  change 4 < (s.reader.advance 4).len ↔ _
  rw [Cursor.len_advance]
  omega

theorem stalls_iff : Stalls im raddr s ↔ EmptyRecords im raddr s ∧
    recordGuard (SetHeader.ofBytes s.reader.data) s.reader.count (loopStart raddr s) = true := by
  rw [recordGuard_loopStart]
  unfold Stalls EmptyRecords SetHeader.IsData loopStart loopTemplate setTemplate
  constructor
  · rintro ⟨hl, hlen, hid | hid | ⟨hid, tr, htr, hknown, hzero⟩⟩
    · rw [if_neg (by rw [hid]; decide)]
      exact ⟨⟨Or.inl hid, zeroTemplate_known, rfl⟩, rfl, hl, hlen⟩
    · rw [if_neg (by rw [hid]; decide)]
      exact ⟨⟨Or.inr (Or.inl hid), zeroTemplate_known, rfl⟩, rfl, hl, hlen⟩
    · rw [if_pos hid]
      simp only [htr]
      exact ⟨⟨Or.inr (Or.inr hid), hknown, hzero⟩, trivial, hl, hlen⟩
  · rintro ⟨⟨hid, hknown, hzero⟩, hnone, hl, hlen⟩
    refine ⟨hl, hlen, hid.imp_right fun hid => hid.imp_right fun hid => ⟨hid, ?_⟩⟩
    rw [if_pos hid] at hknown hzero hnone
    dsimp only at hknown hzero hnone ⊢
    cases htr : s.mem.retrieve (SetHeader.ofBytes s.reader.data).flowSetID raddr with
    | none => simp [htr] at hnone
    | some tr =>
      simp only [htr] at hknown hzero
      exact ⟨tr, rfl, hknown, hzero⟩

theorem PassStep.progress {h : SetHeader} {tr : TemplateRecord} {x' : DecodeState × Option Error}
    (hp : PassStep im raddr h tr s x') (hrec : ¬ (h.IsData ∧ tr.Known im ∧ tr.recordLength = 0)) :
    x'.2 = none → ∃ k, 0 < k ∧ k ≤ s.reader.len ∧ x'.1.reader = s.reader.advance k := by
  intro hnone
  cases hp with
  | stored t _ hle => exact ⟨_, by have := four_le_recordSize h s.reader.data; omega, hle, rfl⟩
  | cutOff k t _ _ => cases hnone
  | record data hid hk hle =>
    exact ⟨_, Nat.pos_of_ne_zero fun hzero => hrec ⟨hid, hk, hzero⟩, hle, rfl⟩
  | failed k e _ _ _ => cases hnone

theorem setLoop_laws (im : IANAInfoModel) (raddr : IP) (s : DecodeState) :
    RecordLoopLaws DecodeState.reader
      (recordPass im raddr (SetHeader.ofBytes s.reader.data) s.reader.count (loopTemplate raddr s))
      (fun x => recordGuard (SetHeader.ofBytes s.reader.data) s.reader.count x = true) (EmptyRecords im raddr s) where
  done _ hg := recordPass_of_not_guard hg
  progress hrec := by
    rintro ⟨t, err⟩ x' hp
    obtain ⟨hg, hstep⟩ := recordPass_next hp
    exact ⟨(recordGuard_iff.mp hg).1, hstep.progress hrec⟩
  stall := by
    -- an empty record leaves the reader in place, and the loop goes round
    rintro ⟨hid, hknown, hzero⟩ ⟨t, err⟩ hgt
    obtain ⟨data, hdata⟩ := (reads_decodeData hknown t.reader).1 (by omega)
    rw [hzero, Cursor.advance_zero] at hdata
    obtain ⟨rfl, hleft, hlen⟩ := recordGuard_iff.mp hgt
    refine ⟨({ t with msg := { t.msg with
        dataSets := t.msg.dataSets ++ [data], setHeaders := t.msg.setHeaders ++ [SetHeader.ofBytes s.reader.data] } },
      none), ?_, recordGuard_iff.mpr ⟨rfl, hleft, hlen⟩⟩
    rw [recordPass_of_guard hgt, recordBody_data hid, hdata]

theorem decodeSet_returns_iff (hlen : 4 < s.reader.len) :
    (∃ n out, decodeSet im raddr n s = some out) ↔ ¬ Stalls im raddr s := by
  rw [stalls_iff]
  have hloop := (setLoop_laws im raddr s).returns_iff (loopStart raddr s)
  constructor
  · rintro ⟨n, out, hout⟩ hs
    rcases (decodeSet_eq_some hlen.le).mp hout with ⟨h4, -⟩ | ⟨-, y, hy, -⟩
    · exact absurd (UInt16.lt_trans h4 (UInt16.lt_trans (by decide) (stalls_iff.mpr hs).1)) (UInt16.lt_irrefl _)
    · exact hloop.mp ⟨n, y, hy⟩ hs
  · intro hs
    by_cases h4 : (SetHeader.ofBytes s.reader.data).length < 4
    · exact ⟨0, _, (decodeSet_eq_some hlen.le).mpr (Or.inl ⟨h4, rfl⟩)⟩
    · obtain ⟨n, y, hy⟩ := hloop.mpr hs
      exact ⟨n, _, (decodeSet_eq_some hlen.le).mpr (Or.inr ⟨h4, y, hy, rfl⟩)⟩

/-! ## Progress of every pass -/

def Progresses (im : IANAInfoModel) (raddr : IP) (s : DecodeState) : Prop :=
  ∀ x x', EntersPass im raddr s x →
    recordPass im raddr (SetHeader.ofBytes s.reader.data) s.reader.count (loopTemplate raddr s) x = .next x' →
    x'.2.isSome ∨ x.1.reader.count < x'.1.reader.count

theorem progresses_of_not_stalls (hs : ¬ Stalls im raddr s) : Progresses im raddr s :=
  fun _ _ hv hp => (setLoop_laws im raddr s).progresses (fun h => hs (stalls_iff.mpr h)) hv.2 hp

theorem not_decodes_of_stalls {mem : MemCache TemplateRecord} {b : List UInt8} (he : Enters im raddr mem b s)
    (hs : Stalls im raddr s) : ¬ ∃ out, Decodes im raddr mem b out := fun h =>
  (decodeSet_returns_iff he.len).mp (exists_decodes_iff.mp h s he) hs

theorem enters_start {mem : MemCache TemplateRecord} {b : List UInt8} {header : PacketHeader} {r : Reader}
    (hh : (packetDecoder im raddr mem).HeaderOk b header r) (hlen : 4 < r.len) :
    Enters im raddr mem b (start raddr mem header r) :=
  ⟨header, r, hh, [], .refl, hlen⟩

/-- `Decode` makes finitely many passes, each of which leaves its loop or reads a byte. -/
def Terminates (im : IANAInfoModel) (raddr : IP) (mem : MemCache TemplateRecord) (b : List UInt8) : Prop :=
  (∃ out, Decodes im raddr mem b out) ∧ ∀ s, Enters im raddr mem b s → Progresses im raddr s

/-- **Termination.** For every packet, exporter and cache, `Decode` terminates exactly if no flowset
that it enters stalls. -/
theorem decode_terminates_iff_not_stalls (im : IANAInfoModel) (raddr : IP) (mem : MemCache TemplateRecord)
    (b : List UInt8) :
    Terminates im raddr mem b ↔ ∀ s, Enters im raddr mem b s → ¬ Stalls im raddr s := by
  constructor
  · rintro ⟨hout, -⟩ s he hs
    exact not_decodes_of_stalls he hs hout
  · intro hns
    exact ⟨exists_decodes_iff.mpr fun s he => (decodeSet_returns_iff he.len).mpr (hns s he),
      fun s he => progresses_of_not_stalls (hns s he)⟩

def sampleHeader : List UInt8 := [0, 9, 0, 1, 0, 0, 0, 0, 0, 0, 0, 0, 0, 0, 0, 0, 0, 0, 0, 0]

def flowSetTwoPacket : List UInt8 := sampleHeader ++ [0, 2, 0, 9, 1, 2, 3, 4, 5]

def noBytesPacket : List UInt8 := sampleHeader ++ [0, 0, 0, 12, 1, 0, 0, 1, 0, 8, 0, 0]

def noBytesDataPacket : List UInt8 := sampleHeader ++ [1, 0, 0, 9, 1, 2, 3, 4, 5]

/-- Two packets that `Decode` never finishes: one after another packet has stored a template whose only
field has no bytes, one with the cache still empty. -/
theorem decode_stalls :
    (∃ out, Decodes infoModel [192, 0, 2, 1] .empty noBytesPacket out ∧ out.err = none ∧
      ¬ Terminates infoModel [192, 0, 2, 1] out.mem noBytesDataPacket) ∧
    ¬ Terminates infoModel [192, 0, 2, 1] .empty flowSetTwoPacket := by
  refine ⟨⟨_, ⟨4, rfl⟩, rfl, ?_⟩, ?_⟩
  · rintro ⟨hout, -⟩
    refine not_decodes_of_stalls (enters_start ⟨rfl, rfl⟩ (by decide)) ?_ hout
    exact ⟨by decide, by decide, Or.inr (Or.inr ⟨by decide,
      { templateID := 256, fieldCount := 1, fieldSpecifiers := [{ elementID := 8, length := 0 }] }, rfl,
      by decide, by decide⟩)⟩
  · rintro ⟨hout, -⟩
    refine not_decodes_of_stalls (enters_start ⟨rfl, rfl⟩ (by decide)) ?_ hout
    exact ⟨by decide, by decide, Or.inl (by decide)⟩

end VFlow.Netflow9
