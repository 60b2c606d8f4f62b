import VFlow.Ipfix.Message

/-!
# When the IPFIX decoder terminates

`Decode` does not terminate on every packet: a set of id 0 or 1 is taken for a data set of the zero
template, and a cached template may have no fields, or fields of no bytes only. Such a set stalls
(`Stalls`), and this is the only way not to terminate: `decode_terminates_iff`.
-/

namespace VFlow.Ipfix

open Scan Reader

variable {im : IANAInfoModel} {raddr : IP} {s s' : DecodeState} {err : Option Error} {fuel : Nat}

/-- The set at the reader reads data records of no bytes for ever: more than its header is declared,
more than 4 bytes of the packet follow the header, and the template is the zero record of the ids 0
and 1, or a cached record of length 0 whose elements are all known. -/
def Stalls (im : IANAInfoModel) (raddr : IP) (s : DecodeState) : Prop :=
  4 < (SetHeader.ofBytes s.reader.data).length ∧ 8 < s.reader.len ∧
    ((SetHeader.ofBytes s.reader.data).setID < 2 ∨
      255 < (SetHeader.ofBytes s.reader.data).setID ∧
        ∃ tr, s.mem.retrieve (SetHeader.ofBytes s.reader.data).setID raddr = some tr ∧ tr.Known im ∧
          tr.recordLength = 0)

/-- The record loop starts with a template of no bytes. -/
def EmptyRecords (im : IANAInfoModel) (raddr : IP) (s : DecodeState) : Prop :=
  (SetHeader.ofBytes s.reader.data).IsData ∧ (loopStart raddr s).1.Known im ∧ (loopStart raddr s).1.recordLength = 0

theorem zeroTemplate_known : ({} : TemplateRecord).Known im := by
  intro p hp
  simp [TemplateRecord.specifiers] at hp

theorem uint16_not_lt_of_lt {a : UInt16} (h : a < 2) : ¬ a > 255 := by
  rw [gt_iff_lt, UInt16.lt_iff_toNat_lt] at *
  change a.toNat < 2 at h
  change ¬ 255 < a.toNat
  omega

theorem recordGuard_loopStart :
    recordGuard (SetHeader.ofBytes s.reader.data) s.reader.count (loopStart raddr s).2 = true ↔
      (loopStart raddr s).2.2 = none ∧ 4 < (SetHeader.ofBytes s.reader.data).length ∧ 8 < s.reader.len := by
  rw [show (loopStart raddr s).2 = ((loopStart raddr s).2.1, (loopStart raddr s).2.2) from rfl, recordGuard_iff,
    loopStart_reader, Cursor.advance_count, Nat.add_sub_cancel_left, Cursor.len_advance]
  exact and_congr_right fun _ => and_congr_right fun _ => by omega

theorem stalls_iff : Stalls im raddr s ↔ EmptyRecords im raddr s ∧
    recordGuard (SetHeader.ofBytes s.reader.data) s.reader.count (loopStart raddr s).2 = true := by
  rw [recordGuard_loopStart]
  unfold Stalls EmptyRecords SetHeader.IsData loopStart setTemplate
  constructor
  · rintro ⟨hl, hlen, hid | ⟨hid, tr, htr, hknown, hzero⟩⟩
    · rw [if_neg (uint16_not_lt_of_lt hid)]
      exact ⟨⟨Or.inl hid, zeroTemplate_known, rfl⟩, rfl, hl, hlen⟩
    · rw [if_pos hid]
      simp only [htr]
      exact ⟨⟨Or.inr hid, hknown, hzero⟩, trivial, hl, hlen⟩
  · rintro ⟨⟨hid, hknown, hzero⟩, hnone, hl, hlen⟩
    refine ⟨hl, hlen, hid.imp_right fun hid => ⟨hid, ?_⟩⟩
    rw [if_pos hid] at hknown hzero hnone
    dsimp only at hknown hzero hnone ⊢
    cases htr : s.mem.retrieve (SetHeader.ofBytes s.reader.data).setID raddr with
    | none => simp [htr] at hnone
    | some tr =>
      simp only [htr] at hknown hzero
      exact ⟨tr, rfl, hknown, hzero⟩

theorem PassStep.progress {h : SetHeader} {tr : TemplateRecord} {x' : DecodeState × Option Error}
    (hp : PassStep im raddr h tr s x') (hrec : ¬ (h.IsData ∧ tr.Known im ∧ tr.recordLength = 0)) :
    x'.2 = none → ∃ k, 0 < k ∧ k ≤ s.reader.len ∧ x'.1.reader = s.reader.advance k := by
  intro hnone
  cases hp with
  | stored k t _ hk hle => exact ⟨k, by omega, hle, rfl⟩
  | dropped k _ hk hle => exact ⟨k, by omega, hle, rfl⟩
  | record data hid hk hle =>
    exact ⟨_, Nat.pos_of_ne_zero fun hzero => hrec ⟨hid, hk, hzero⟩, hle, rfl⟩
  | failed k e _ _ _ => cases hnone

theorem setLoop_laws (im : IANAInfoModel) (raddr : IP) (s : DecodeState) :
    RecordLoopLaws DecodeState.reader
      (recordPass im raddr (SetHeader.ofBytes s.reader.data) s.reader.count (loopStart raddr s).1)
      (fun x => recordGuard (SetHeader.ofBytes s.reader.data) s.reader.count x = true) (EmptyRecords im raddr s) where
  done _ hg := recordPass_of_not_guard hg
  progress hrec := by
    rintro ⟨t, err⟩ x' hp
    obtain ⟨hg, hstep⟩ := recordPass_next hp
    exact ⟨(recordGuard_iff.mp hg).1, hstep.progress hrec⟩
  stall := by
    -- an empty record leaves the reader in place, and the loop goes round
    rintro ⟨hid, hknown, hzero⟩ ⟨t, err⟩ hgt
    obtain ⟨data, hdata⟩ := (reads_decodeData hknown t.reader).1 (by omega)
    rw [hzero, Cursor.advance_zero] at hdata
    obtain ⟨rfl, hcount, hlen⟩ := recordGuard_iff.mp hgt
    refine ⟨({ t with msg := { t.msg with dataSets := t.msg.dataSets ++ [data] } }, none), ?_,
      recordGuard_iff.mpr ⟨rfl, hcount, hlen⟩⟩
    rw [recordPass_of_guard hgt, recordBody_data hid, hdata]

theorem decodeSet_returns_iff (hlen : 4 < s.reader.len) :
    (∃ n out, decodeSet im raddr n s = some out) ↔ ¬ Stalls im raddr s := by
  rw [stalls_iff]
  have hloop := (setLoop_laws im raddr s).returns_iff (loopStart raddr s).2
  constructor
  · rintro ⟨n, out, hout⟩ hs
    rcases (decodeSet_eq_some hlen.le).mp hout with ⟨h4, -⟩ | ⟨-, y, hy, -⟩
    · exact absurd (UInt16.lt_trans h4 (stalls_iff.mpr hs).1) (UInt16.lt_irrefl _)
    · exact hloop.mp ⟨n, y, hy⟩ hs
  · intro hs
    by_cases h4 : (SetHeader.ofBytes s.reader.data).length < 4
    · exact ⟨0, _, (decodeSet_eq_some hlen.le).mpr (Or.inl ⟨h4, rfl⟩)⟩
    · obtain ⟨n, y, hy⟩ := hloop.mpr hs
      exact ⟨n, _, (decodeSet_eq_some hlen.le).mpr (Or.inr ⟨h4, y, hy, rfl⟩)⟩

/-! ## Progress of every pass -/

/-- Every pass of the record loop leaves the loop, at once or by its error, or reads a byte. -/
def Progresses (im : IANAInfoModel) (raddr : IP) (s : DecodeState) : Prop :=
  ∀ x x', EntersPass im raddr s x →
    recordPass im raddr (SetHeader.ofBytes s.reader.data) s.reader.count (loopStart raddr s).1 x = .next x' →
    x'.2.isSome ∨ x.1.reader.count < x'.1.reader.count

theorem progresses_of_not_stalls (hs : ¬ Stalls im raddr s) : Progresses im raddr s :=
  fun _ _ hv hp => (setLoop_laws im raddr s).progresses (fun h => hs (stalls_iff.mpr h)) hv.2 hp

/-! ## The number of records -/

def RecordsBounded (s : DecodeState) : Prop := s.msg.dataSets.length ≤ s.reader.count

theorem PassStep.recordsBounded {h : SetHeader} {tr : TemplateRecord} {x' : DecodeState × Option Error}
    (hp : PassStep im raddr h tr s x') (hrec : ¬ (h.IsData ∧ tr.Known im ∧ tr.recordLength = 0))
    (hs : RecordsBounded s) : RecordsBounded x'.1 := by
  cases hp with
  | stored k t _ _ _ => exact le_trans hs (Nat.le_add_right _ k)
  | dropped k _ _ _ => exact le_trans hs (Nat.le_add_right _ k)
  | record data hid hk _ =>
    have hpos : 0 < tr.recordLength := Nat.pos_of_ne_zero fun hzero => hrec ⟨hid, hk, hzero⟩
    change (s.msg.dataSets ++ [data]).length ≤ s.reader.count + tr.recordLength
    have hs : s.msg.dataSets.length ≤ s.reader.count := hs
    rw [List.length_append, List.length_singleton]
    omega
  | failed k e _ _ _ => exact le_trans hs (Nat.le_add_right _ k)

theorem recordsBounded_of_le {t : DecodeState} {k : Nat} (ht : RecordsBounded t) :
    RecordsBounded { t with reader := t.reader.advance k } :=
  le_trans ht (Nat.le_add_right _ k)

theorem decodeSet_recordsBounded (hlen : 4 < s.reader.len) (hb : RecordsBounded s)
    (hset : decodeSet im raddr fuel s = some (s', err)) : RecordsBounded s' := by
  have hns := (decodeSet_returns_iff hlen).mp ⟨fuel, _, hset⟩
  rcases (decodeSet_eq_some hlen.le).mp hset with ⟨-, hout⟩ | ⟨-, y, hy, hout⟩
  · obtain ⟨rfl, -⟩ := Prod.mk.inj hout
    exact recordsBounded_of_le hb
  · have hentry : RecordsBounded (loopStart raddr s).2.1 := by
      obtain ⟨rpc, hrpc⟩ := loopStart_eq raddr s
      rw [hrpc]
      exact recordsBounded_of_le (k := 4) hb
    have hy : RecordsBounded y.1 := by
      by_cases hrec : EmptyRecords im raddr s
      · have hg := fun hg => hns (stalls_iff.mpr ⟨hrec, hg⟩)
        obtain ⟨m, -, hd | ⟨x', hn, -⟩⟩ := Loop.run_cases hy
        · rw [recordPass_done (Option.some.inj hd)]
          exact hentry
        · rw [setLoop, recordLoop, recordPass_of_not_guard hg] at hn
          cases hn
      · exact setLoop_invariant (P := fun z => RecordsBounded z.1)
          (fun t x' ht _ hstep => hstep.recordsBounded hrec ht) hentry hy
    obtain ⟨k, -, hk⟩ := skipLeftover_forward (SetHeader.ofBytes s.reader.data) s.reader.count y
    rw [show s' = (s', err).1 from rfl, hout, hk]
    exact recordsBounded_of_le hy

theorem Decodes.dataSets_le {mem : MemCache TemplateRecord} {b : List UInt8} {out : Outcome} {msg : Message}
    (h : Decodes im raddr mem b out) (hmsg : out.msg = some msg) : msg.dataSets.length ≤ b.length := by
  obtain ⟨e, he, rfl⟩ := decodes_iff.mp h
  have hinv := he.invariant (P := fun s => (packetDecoder im raddr mem).Within 16 b s ∧ RecordsBounded s)
    (fun header r hh => ⟨hh.within packetDecoder_lawful, Nat.zero_le _⟩)
    (fun n s s' err hs hlen hset =>
      ⟨hs.1.decodeSet packetDecoder_lawful hlen hset, decodeSet_recordsBounded hlen hs.2 hset⟩)
  rcases hinv with ⟨e, rfl⟩ | ⟨s, errs, ⟨hw, hb⟩, rfl⟩
  · cases hmsg
  · obtain rfl := Option.some.inj hmsg
    exact le_trans hb hw.2.1

/-! ## Packets that stall -/

theorem not_decodes_of_stalls {mem : MemCache TemplateRecord} {b : List UInt8} (he : Enters im raddr mem b s)
    (hs : Stalls im raddr s) : ¬ ∃ out, Decodes im raddr mem b out := fun h =>
  (decodeSet_returns_iff he.len).mp (exists_decodes_iff.mp h s he) hs

theorem enters_start {mem : MemCache TemplateRecord} {b : List UInt8} {header : MessageHeader} {r : Reader}
    (hh : (packetDecoder im raddr mem).HeaderOk b header r) (hlen : 4 < r.len) :
    Enters im raddr mem b (start raddr mem header r) := hh.enters hlen

/-- `Decode` makes finitely many passes, each of which leaves its loop or reads a byte, and returns
no more records than the packet has bytes. -/
def Terminates (im : IANAInfoModel) (raddr : IP) (mem : MemCache TemplateRecord) (b : List UInt8) : Prop :=
  (∃ out, Decodes im raddr mem b out ∧ ∀ msg, out.msg = some msg → msg.dataSets.length ≤ b.length) ∧
    ∀ s, Enters im raddr mem b s → Progresses im raddr s

/-- **Termination.** For every packet, exporter and cache, `Decode` terminates exactly if no set that
it enters stalls. -/
theorem decode_terminates_iff (im : IANAInfoModel) (raddr : IP) (mem : MemCache TemplateRecord) (b : List UInt8) :
    Terminates im raddr mem b ↔ ∀ s, Enters im raddr mem b s → ¬ Stalls im raddr s := by
  constructor
  · rintro ⟨⟨out, hout, -⟩, -⟩ s he hs
    exact not_decodes_of_stalls he hs ⟨out, hout⟩
  · intro hns
    obtain ⟨out, hout⟩ := exists_decodes_iff.mpr fun s he => (decodeSet_returns_iff he.len).mpr (hns s he)
    exact ⟨⟨out, hout, fun msg hmsg => hout.dataSets_le hmsg⟩, fun s he => progresses_of_not_stalls (hns s he)⟩

def sampleHeader : List UInt8 := [0, 10, 0, 0, 0, 0, 0, 0, 0, 0, 0, 0, 0, 0, 0, 0]

def noFieldsPacket : List UInt8 := sampleHeader ++ [0, 2, 0, 16, 1, 0, 0, 0, 1, 1, 0, 1, 0, 8, 0, 4]

def noFieldsDataPacket : List UInt8 := sampleHeader ++ [1, 0, 0, 9, 1, 2, 3, 4, 5]

def setZeroPacket : List UInt8 := sampleHeader ++ [0, 0, 0, 9, 1, 2, 3, 4, 5]

/-- Two packets that `Decode` never finishes: one after another packet has stored a template without
fields, one with the cache still empty. -/
theorem decode_not_terminates :
    (∃ out, Decodes infoModel [192, 0, 2, 1] .empty noFieldsPacket out ∧ out.err = none ∧
      ¬ Terminates infoModel [192, 0, 2, 1] out.mem noFieldsDataPacket) ∧
    ¬ Terminates infoModel [192, 0, 2, 1] .empty setZeroPacket := by
  refine ⟨⟨_, ⟨4, rfl⟩, rfl, ?_⟩, ?_⟩
  · rintro ⟨⟨out, hout, -⟩, -⟩
    refine not_decodes_of_stalls (enters_start ⟨rfl, rfl⟩ (by decide)) ?_ ⟨out, hout⟩
    exact ⟨by decide, by decide, Or.inr ⟨by decide, { templateID := 256 }, rfl, by decide, by decide⟩⟩
  · rintro ⟨⟨out, hout, -⟩, -⟩
    refine not_decodes_of_stalls (enters_start ⟨rfl, rfl⟩ (by decide)) ?_ ⟨out, hout⟩
    exact ⟨by decide, by decide, Or.inl (by decide)⟩

end VFlow.Ipfix
