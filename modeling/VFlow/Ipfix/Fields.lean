import VFlow.Ipfix.Message

/-!
# Which records a message has

A data record is decoded field by field from the specifiers of its template (`decodeData_fields`). A
set adds records to the message exactly when its first pass reads one (`AddsRecords`), and all of them
are of the template that was looked up for the set. So a property of records that depends on the
template only holds of all records of a message exactly when it holds of the templates of the sets that
add records (`Decodes.forall_records_iff`).
-/

namespace VFlow.Ipfix

open Scan Reader

variable {im : IANAInfoModel} {raddr : IP} {mem : MemCache TemplateRecord} {b : List UInt8} {s s' : DecodeState}
  {err : Option Error} {fuel : Nat} {out : Outcome} {h : SetHeader} {startCount : Nat} {tr : TemplateRecord}

/-! ## The fields of a record -/

/-- A field that was decoded by a specifier. -/
def FieldOf (im : IANAInfoModel) (p : Bool × TemplateFieldSpecifier) (f : DecodedField) : Prop :=
  ∃ m bytes, im.lookup p.2.key = some m ∧ bytes.length = p.2.length.toNat ∧ f.id = m.fieldID ∧
    f.value = interpret bytes m.type

theorem decodeField_fieldOf {p : Bool × TemplateFieldSpecifier} {r r' : Reader} {f : DecodedField}
    (h : decodeField im p.1 p.2 r = .ok f r') : FieldOf im p f := by
  obtain ⟨bytes, r₁, hread, h⟩ := bind_eq_ok.mp h
  have hle : p.2.length.toNat ≤ r.len := by
    by_contra hlt
    rw [read_of_lt (by omega)] at hread
    simp at hread
  rw [read_of_le hle, EStateM.Result.ok.injEq] at hread
  have hbytes : bytes.length = p.2.length.toNat := by
    rw [← hread.1, List.length_take]
    exact Nat.min_eq_left hle
  cases hm : im.lookup { enterpriseNo := p.2.enterpriseNo, elementID := p.2.elementID } with
  | none =>
    rw [hm] at h
    simp [throw_apply] at h
  | some m =>
    rw [hm] at h
    dsimp only at h
    rw [pure_apply, EStateM.Result.ok.injEq] at h
    exact ⟨m, bytes, hm, hbytes, by rw [← h.1], by rw [← h.1]⟩

theorem decodeData_fields {r r' : Reader} {data : List DecodedField} (h : decodeData im tr r = .ok data r') :
    List.Forall₂ (FieldOf im) tr.specifiers data := by
  rw [decodeData_eq] at h
  refine each_eq_ok ?_ h
  intro p c f c' hf
  exact decodeField_fieldOf hf

/-! ## The records of a set -/

theorem recordPass_msg {x' : DecodeState × Option Error}
    (hp : recordPass im raddr h startCount tr (s, err) = .next x') :
    x'.1.msg = s.msg ∨ h.IsData ∧ ∃ data r, decodeData im tr s.reader = .ok data r ∧
      x'.1.msg = { s.msg with dataSets := s.msg.dataSets ++ [data] } := by
  obtain ⟨hg, hstep⟩ := recordPass_next hp
  by_cases hd : h.IsData
  · rw [recordPass_of_guard hg, recordBody_data hd] at hp
    cases hdec : decodeData im tr s.reader with
    | ok data r =>
      rw [hdec] at hp
      rw [← LoopStep.next.inj hp]
      exact Or.inr ⟨hd, data, r, rfl, rfl⟩
    | error e r =>
      rw [hdec] at hp
      rw [← LoopStep.next.inj hp]
      exact Or.inl rfl
  · cases hstep with
    | stored | dropped => exact Or.inl rfl
    | record data hid => exact absurd hid hd
    | failed k e hid => exact absurd hid hd

/-- The set at the reader adds records to the message: its first pass reads one. -/
def AddsRecords (im : IANAInfoModel) (raddr : IP) (s : DecodeState) : Prop :=
  ¬(SetHeader.ofBytes s.reader.data).length < 4 ∧ (SetHeader.ofBytes s.reader.data).IsData ∧
    recordGuard (SetHeader.ofBytes s.reader.data) s.reader.count (loopStart raddr s).2 = true ∧
    (loopStart raddr s).1.Known im ∧ (loopStart raddr s).1.recordLength ≤ (s.reader.advance 4).len

theorem setLoop_keeps_record {n m : Nat} {x y : DecodeState × Option Error} {fs : List DecodedField}
    (hfs : fs ∈ x.1.msg.dataSets) (hrun : Loop.run (setLoop im raddr s n) m x = some y) : fs ∈ y.1.msg.dataSets := by
  refine recordLoop_invariant (P := fun z => fs ∈ z.1.msg.dataSets) (fun _ _ hp => recordPass_done hp) ?_ hfs hrun
  rintro ⟨t, e⟩ x' ht hp
  rcases recordPass_msg hp with hx | ⟨-, data, r, -, hx⟩
  · rw [hx]
    exact ht
  · rw [hx]
    exact List.mem_append_left _ ht

theorem loopStart_msg (raddr : IP) (s : DecodeState) : (loopStart raddr s).2.1.msg = s.msg := by
  obtain ⟨rpc, hrpc⟩ := loopStart_eq raddr s
  rw [hrpc]

theorem AddsRecords.exists_record {n m : Nat} {y : DecodeState × Option Error} (hadds : AddsRecords im raddr s)
    (hrun : Loop.run (setLoop im raddr s n) m (loopStart raddr s).2 = some y) :
    ∃ data r r', decodeData im (loopStart raddr s).1 r = .ok data r' ∧ data ∈ y.1.msg.dataSets := by
  obtain ⟨-, hd, hg, hknown, hle⟩ := hadds
  rw [← loopStart_reader raddr s] at hle
  obtain ⟨data, hdata⟩ := (reads_decodeData hknown (loopStart raddr s).2.1.reader).1 hle
  have hpass : recordPass im raddr (SetHeader.ofBytes s.reader.data) s.reader.count (loopStart raddr s).1
      (loopStart raddr s).2 = .next ({ (loopStart raddr s).2.1 with
        reader := (loopStart raddr s).2.1.reader.advance (loopStart raddr s).1.recordLength
        msg := { s.msg with dataSets := s.msg.dataSets ++ [data] } }, none) := by
    rw [recordPass_of_guard hg,
      show (loopStart raddr s).2 = ((loopStart raddr s).2.1, (loopStart raddr s).2.2) from rfl,
      recordBody_data hd, hdata, loopStart_msg]
  refine ⟨data, _, _, hdata, ?_⟩
  obtain ⟨k, -, hdone | ⟨x', hnext, hrest⟩⟩ := Loop.run_cases hrun
  · rw [setLoop, recordLoop, hpass] at hdone
    simp at hdone
  · rw [setLoop, recordLoop, hpass, Option.some.injEq, LoopStep.next.injEq] at hnext
    refine setLoop_keeps_record ?_ hrest
    rw [← hnext]
    exact List.mem_append_right _ (List.mem_singleton_self data)

theorem setLoop_record (h4 : ¬(SetHeader.ofBytes s.reader.data).length < 4) {n m : Nat}
    {y : DecodeState × Option Error} (hrun : Loop.run (setLoop im raddr s n) m (loopStart raddr s).2 = some y) :
    ∀ fs ∈ y.1.msg.dataSets, fs ∈ s.msg.dataSets ∨
      AddsRecords im raddr s ∧ ∃ r r', decodeData im (loopStart raddr s).1 r = .ok fs r' := by
  -- a pass that reads a record comes after a first one that did
  have hinv : ∀ x x' : DecodeState × Option Error,
      ((x = (loopStart raddr s).2 ∨
          recordGuard (SetHeader.ofBytes s.reader.data) s.reader.count (loopStart raddr s).2 = true) ∧
        x.1.reader.len ≤ (s.reader.advance 4).len ∧ ∀ fs ∈ x.1.msg.dataSets, fs ∈ s.msg.dataSets ∨
          AddsRecords im raddr s ∧ ∃ r r', decodeData im (loopStart raddr s).1 r = .ok fs r') →
      recordPass im raddr (SetHeader.ofBytes s.reader.data) s.reader.count (loopStart raddr s).1 x = .next x' →
      (x' = (loopStart raddr s).2 ∨
          recordGuard (SetHeader.ofBytes s.reader.data) s.reader.count (loopStart raddr s).2 = true) ∧
        x'.1.reader.len ≤ (s.reader.advance 4).len ∧ ∀ fs ∈ x'.1.msg.dataSets, fs ∈ s.msg.dataSets ∨
          AddsRecords im raddr s ∧ ∃ r r', decodeData im (loopStart raddr s).1 r = .ok fs r' := by
    rintro ⟨t, e⟩ x' ⟨hfirst, hle, hall⟩ hp
    obtain ⟨hg, hstep⟩ := recordPass_next hp
    have hguard : recordGuard (SetHeader.ofBytes s.reader.data) s.reader.count (loopStart raddr s).2 = true := by
      rcases hfirst with heq | hguard
      · rwa [← heq]
      · exact hguard
    obtain ⟨k, -, hk⟩ := hstep.forward
    refine ⟨Or.inr hguard, ?_, ?_⟩
    · rw [hk, Cursor.len_advance]
      exact le_trans (Nat.sub_le _ _) hle
    · rcases recordPass_msg hp with hx | ⟨hd, data, r, hdata, hx⟩
      · rw [hx]
        exact hall
      · obtain ⟨hknown, hlen, -⟩ := decodeData_ok hdata
        rw [hx]
        intro fs hfs
        rcases List.mem_append.mp hfs with hfs | hfs
        · exact hall fs hfs
        · rw [List.mem_singleton.mp hfs]
          exact Or.inr ⟨⟨h4, hd, hguard, hknown, le_trans hlen hle⟩, _, _, hdata⟩
  refine (recordLoop_invariant (fun _ _ hp => recordPass_done hp) hinv ⟨Or.inl rfl, ?_, ?_⟩ hrun).2.2
  · rw [loopStart_reader raddr s]
  · rw [loopStart_msg]
    exact fun fs hfs => Or.inl hfs

section templates

variable {Q : List DecodedField → Prop} {T : TemplateRecord → Prop}
  (hQ : ∀ tr r r' data, decodeData im tr r = .ok data r' → (Q data ↔ T tr))

include hQ

theorem setLoop_forall_records (h4 : ¬(SetHeader.ofBytes s.reader.data).length < 4) {n m : Nat}
    {y : DecodeState × Option Error} (hrun : Loop.run (setLoop im raddr s n) m (loopStart raddr s).2 = some y) :
    (∀ fs ∈ y.1.msg.dataSets, Q fs) ↔
      (∀ fs ∈ s.msg.dataSets, Q fs) ∧ (AddsRecords im raddr s → T (loopStart raddr s).1) := by
  constructor
  · intro hy
    refine ⟨fun fs hfs => hy fs (setLoop_keeps_record (by rwa [loopStart_msg]) hrun), fun hadds => ?_⟩
    obtain ⟨data, r, r', hdata, hmem⟩ := hadds.exists_record hrun
    exact (hQ _ _ _ data hdata).mp (hy data hmem)
  · rintro ⟨hs, hT⟩ fs hfs
    rcases setLoop_record h4 hrun fs hfs with hold | ⟨hadds, r, r', hdata⟩
    · exact hs fs hold
    · exact (hQ _ _ _ fs hdata).mpr (hT hadds)

theorem decodeSet_forall_records (hlen : 4 < s.reader.len) (hset : decodeSet im raddr fuel s = some (s', err)) :
    (∀ fs ∈ s'.msg.dataSets, Q fs) ↔
      (∀ fs ∈ s.msg.dataSets, Q fs) ∧ (AddsRecords im raddr s → T (loopStart raddr s).1) := by
  rcases (decodeSet_eq_some hlen.le).mp hset with ⟨h4, hout⟩ | ⟨h4, y, hy, hout⟩
  · obtain ⟨rfl, -⟩ := Prod.mk.inj hout
    exact ⟨fun h => ⟨h, fun ha => absurd h4 ha.1⟩, fun h => h.1⟩
  · obtain ⟨k, -, hk⟩ := skipLeftover_forward (SetHeader.ofBytes s.reader.data) s.reader.count y
    rw [show s' = (s', err).1 from rfl, hout, hk]
    exact setLoop_forall_records hQ h4 hy

/-- A property of records that depends on the template holds of all records of a message exactly when
it holds of the templates of the sets that add records. -/
theorem Decodes.forall_records_iff {msg : Message} (h : Decodes im raddr mem b out) (hmsg : out.msg = some msg) :
    (∀ fs ∈ msg.dataSets, Q fs) ↔
      ∀ s, Enters im raddr mem b s → AddsRecords im raddr s → T (loopStart raddr s).1 := by
  obtain ⟨e, he, rfl⟩ := decodes_iff.mp h
  constructor
  · intro hall s hs hadds
    obtain ⟨sf, errs, rfl⟩ := PacketDecoder.Enters.returns_all hs he
    obtain rfl := Option.some.inj hmsg
    by_contra hT
    -- from the set on there is a record that fails the property
    refine PacketDecoder.Enters.kept (P := fun t => ¬∀ fs ∈ t.msg.dataSets, Q fs) decodeSet_family hs he ?_ ?_ hall
    · intro n t err hset ht
      exact hT (((decodeSet_forall_records hQ hs.len hset).mp ht).2 hadds)
    · intro n t t' err ht hlen hset ht'
      exact ht ((decodeSet_forall_records hQ hlen hset).mp ht').1
  · intro hT
    have hinv := he.invariant (P := fun t => (∀ fs ∈ t.msg.dataSets, Q fs) ∧
      (4 < t.reader.len → Enters im raddr mem b t)) ?_ ?_
    · rcases hinv with ⟨err, rfl⟩ | ⟨t, errs, ht, rfl⟩
      · simp [finish] at hmsg
      · obtain rfl := Option.some.inj hmsg
        exact ht.1
    · intro header r hh
      refine ⟨?_, fun hlen => hh.enters hlen⟩
      intro fs hfs
      simp [packetDecoder, start] at hfs
    · rintro n t t' err ⟨hall, henters⟩ hlen hset
      refine ⟨?_, fun hlen' => (henters hlen).next hset hlen'⟩
      exact (decodeSet_forall_records hQ hlen hset).mpr ⟨hall, hT t (henters hlen)⟩

end templates

end VFlow.Ipfix
