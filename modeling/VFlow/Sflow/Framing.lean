import VFlow.Sflow.Panics

/-!
# Declared lengths

On the wire a datagram is a list of samples and a flow or counter sample a list of records. Samples and
records are units of one form: a format, a length, and as many bytes as the length says. The decoder
follows the length only for units that it passes over; a known unit is read field by field, however long
it says it is. So the next unit is read at the declared end exactly when every known unit declares the
size of the fields that the decoder knows (`framing_iff`).

That condition, `DatagramExact`, walks along the declared lengths and never along what the decoder took.
-/

namespace VFlow.Sflow

open Scan

/-- The length that a unit declares. -/
def declared (w : List UInt8) : Nat := (BigEndian.uint32 (w.drop 4)).toNat

/-- As many bytes are there as the unit declares. A `Seek` does not look for them. -/
def Present (w : List UInt8) : Prop := 8 + declared w ≤ w.length

instance (w : List UInt8) : Decidable (Present w) := inferInstanceAs (Decidable (_ ≤ _))

/-- The declared bytes of the unit are there, and the pass ends behind them. -/
def Framed (p : Reader × Reader) : Prop := Present p.1.data ∧ p.2 = p.1.advance (8 + declared p.1.data)

instance (p : Reader × Reader) : Decidable (Framed p) := inferInstanceAs (Decidable (_ ∧ _))

/-- `n` units in a row, as their lengths say, each of which satisfies `P`. -/
def Units (P : List UInt8 → Prop) : Nat → List UInt8 → Prop
  | 0, _ => True
  | n + 1, w => P w ∧ Units P n (w.drop (8 + declared w))

def unitsLength : Nat → List UInt8 → Nat
  | 0, _ => 0
  | n + 1, w => 8 + declared w + unitsLength n (w.drop (8 + declared w))

instance Units.decidable {P : List UInt8 → Prop} [DecidablePred P] : ∀ n w, Decidable (Units P n w)
  | 0, _ => .isTrue trivial
  | n + 1, w =>
    have := Units.decidable (P := P) n (w.drop (8 + declared w))
    inferInstanceAs (Decidable (_ ∧ _))

theorem framed_iff {r : Reader} {k : Nat} :
    Framed (r, r.advance k) ↔ Present r.data ∧ k = 8 + declared r.data := by
  refine and_congr_right fun _ => ⟨fun h => ?_, fun h => by rw [h]⟩
  have hcount := congrArg Cursor.count h
  simp only [Cursor.advance_count] at hcount
  omega

/-- A loop over units: what holds of every pass, where it implies that the pass is framed. -/
theorem passes_iff_units {β ε : Type} {m : Scan ε UInt8 β} {Q : Reader × Reader → Prop} {P : List UInt8 → Prop}
    (hpass : ∀ r x r', m r = .ok x r' → (Q (r, r') ↔ P r.data)) (hframed : ∀ p, Q p → Framed p) {n : Nat}
    {r : Reader} (hloop : (many m n r).2.1 = none) :
    ((∀ p ∈ passes m n r, Q p) ↔ Units P n r.data) ∧
      (Units P n r.data → (many m n r).2.2 = r.advance (unitsLength n r.data)) := by
  induction n generalizing r with
  | zero =>
    refine ⟨by simp [passes, Units], fun _ => ?_⟩
    rw [unitsLength, Cursor.advance_zero, many]
  | succ n ih =>
    cases hm : m r with
    | error e d =>
      rw [many_of_error hm] at hloop
      cases hloop
    | ok x d =>
      rw [many_of_ok hm] at hloop ⊢
      obtain ⟨hall, hend⟩ := ih hloop
      rw [passes_of_ok hm, List.forall_mem_cons, Units, hpass r x d hm]
      by_cases hP : P r.data
      · have hd : d = r.advance (8 + declared r.data) := (hframed _ ((hpass r x d hm).mpr hP)).2
        rw [hd, Cursor.advance_data] at hall hend
        rw [hd]
        refine ⟨and_congr_right fun _ => hall, fun h => ?_⟩
        rw [hend h.2, unitsLength, Cursor.advance_advance]
      · exact ⟨iff_of_false (fun h => hP h.1) (fun h => hP h.1), fun h => absurd h.1 hP⟩

/-! ## Records -/

/-- A record of a flow sample is there, and declares the size of what the decoder reads for it. A sampled header
is rounded up to a multiple of four, and there may be less of it. -/
def FlowRecordExact (w : List UInt8) : Prop :=
  Present w ∧
  if BigEndian.uint32 w = sfDataRawHeader then
    declared w = 16 + min (((BigEndian.uint32 (w.drop 20)).toNat + 3) / 4 * 4) (w.length - 24)
  else if BigEndian.uint32 w = sfDataExtSwitch then declared w = 16
  else if BigEndian.uint32 w = sfDataExtRouter then 8 ≤ declared w
  else True

def CounterRecordExact (w : List UInt8) : Prop :=
  Present w ∧
  if BigEndian.uint32 w = sfGenericInterfaceCounters then declared w = 88
  else if BigEndian.uint32 w = sfEthernetInterfaceCounters then declared w = 52
  else if BigEndian.uint32 w = sfTokenRingInterfaceCounters then declared w = 72
  else if BigEndian.uint32 w = sf100BaseVGInterfaceCounters then declared w = 80
  else if BigEndian.uint32 w = sfVLANCounters then declared w = 28
  else if BigEndian.uint32 w = sfProcessorCounters then declared w = 28
  else True

instance : DecidablePred FlowRecordExact := fun _ => inferInstanceAs (Decidable (_ ∧ ite _ _ _))

instance : DecidablePred CounterRecordExact := fun _ => inferInstanceAs (Decidable (_ ∧ ite _ _ _))

theorem decodeSampledHeader_end {r r' : Reader} {p : Packet} (h : decodeSampledHeader r = .ok p r') :
    r' = r.advance (16 + min (((BigEndian.uint32 (r.data.drop 12)).toNat + 3) / 4 * 4) (r.len - 16)) := by
  by_cases hbad : r.len ≤ 16 ∨ BigEndian.uint32 (r.data.drop 12) > 1500
  · obtain ⟨e, r₁, he⟩ := decodeSampledHeader_of_not hbad
    rw [he] at h
    cases h
  · rw [not_or] at hbad
    rw [decodeSampledHeader_of_lt (by omega) (UInt32.not_lt.mp hbad.2)] at h
    cases hd : decodeHeader (completed (BigEndian.uint32 (r.data.drop 12)).toNat (r.data.drop 16))
        (BigEndian.uint32 r.data) with
    | ok q =>
      rw [hd, EStateM.Result.ok.injEq] at h
      exact h.2.symm
    | error f =>
      rw [hd] at h
      cases h

theorem extRouterData_end {l : UInt32} {r r' : Reader} {x : ExtRouterData}
    (h : ExtRouterData.unmarshal l r = .ok x r') :
    r' = r.advance ((ExtRouterData.bufferSize l).toNat + 8) := by
  obtain ⟨buff, r₁, hbuff, h⟩ := bind_eq_ok.mp h
  obtain ⟨-, rfl⟩ := (takes_binaryRead _).of_ok hbuff
  obtain ⟨nextHop, r₂, hslice, h⟩ := bind_eq_ok.mp h
  have hr₂ : r₂ = r.advance (ExtRouterData.bufferSize l).toNat := by
    unfold sliceFrom at hslice
    split_ifs at hslice
    · rw [pure_apply, EStateM.Result.ok.injEq] at hslice
      exact hslice.2.symm
    · cases hslice
  have hmasks : Takes Returned (do
      let srcMask ← uint32
      let dstMask ← uint32
      return ({ nextHop, srcMask, dstMask } : ExtRouterData)) 8 :=
    takes_uint32.bind fun _ => takes_uint32.bind fun _ => Takes.pure _
  obtain ⟨-, rfl⟩ := hmasks.of_ok h
  rw [hr₂, Cursor.advance_advance]

theorem framed_of_takes {β γ : Type} {m : ReadM β} {f : β → γ} {k : Nat} (hm : Takes Returned m k) {r r' : Reader}
    {y : γ} (h : (do let x ← m; return f x) (r.advance 8) = .ok y r') :
    Framed (r, r') ↔ Present r.data ∧ declared r.data = k := by
  obtain ⟨x, hx, -⟩ := bind_pure_eq_ok.mp h
  obtain ⟨-, rfl⟩ := hm.of_ok hx
  rw [Cursor.advance_advance, framed_iff]
  refine and_congr_right fun _ => ?_
  omega

theorem framed_of_seek {β : Type} {x y : β} {r r' : Reader}
    (h : (do seek (BigEndian.uint32 (r.data.drop 4)).toNat; return x) (r.advance 8) = .ok y r') :
    Framed (r, r') ↔ Present r.data := by
  obtain ⟨u, hu, -⟩ := (bind_pure_eq_ok (f := fun _ => x)).mp h
  have hr' : r' = (r.advance 8).advance (BigEndian.uint32 (r.data.drop 4)).toNat := by
    rw [seek, EStateM.Result.ok.injEq] at hu
    exact hu.2.symm
  rw [hr', Cursor.advance_advance, framed_iff]
  exact and_iff_left rfl

theorem framed_flowRecord_iff (r : Reader) (x : FlowRecord) (r' : Reader) (h : recordPass flowRecord r = .ok x r') :
    Framed (r, r') ↔ FlowRecordExact r.data := by
  obtain ⟨hlen, h⟩ := recordPass_eq_ok.mp h
  unfold flowRecord at h
  unfold FlowRecordExact
  split_ifs at h ⊢ with hraw hswitch hrouter
  · obtain ⟨p, hp, -⟩ := bind_pure_eq_ok.mp h
    rw [decodeSampledHeader_end hp, Cursor.advance_data, List.drop_drop, show 8 + 12 = 20 from rfl,
      Cursor.len_advance, Cursor.advance_advance, framed_iff, show r.data.length = r.len from rfl]
    refine and_congr_right fun _ => ?_
    omega
  · exact framed_of_takes takes_extSwitchData h
  · obtain ⟨d, hd, -⟩ := bind_pure_eq_ok.mp h
    have hsize := bufferSize_extRouterData (BigEndian.uint32 (r.data.drop 4))
    rw [extRouterData_end hd, Cursor.advance_advance, framed_iff]
    unfold declared
    refine and_congr_right fun _ => ?_
    split_ifs at hsize <;> omega
  · rw [framed_of_seek h, and_true]

theorem framed_counterRecord_iff (r : Reader) (x : CounterRecord) (r' : Reader)
    (h : recordPass counterRecord r = .ok x r') : Framed (r, r') ↔ CounterRecordExact r.data := by
  obtain ⟨hlen, h⟩ := recordPass_eq_ok.mp h
  unfold counterRecord at h
  unfold CounterRecordExact
  split_ifs at h ⊢
  · exact framed_of_takes takes_genericInterfaceCounters h
  · exact framed_of_takes takes_ethernetInterfaceCounters h
  · exact framed_of_takes takes_tokenRingCounters h
  · exact framed_of_takes takes_vgCounters h
  · exact framed_of_takes takes_vlanCounters h
  · exact framed_of_takes takes_processorCounters h
  · rw [framed_of_seek h, and_true]

/-! ## Samples -/

/-- A sample of `k` bytes of fields, the last four of which are the number of its records, declares the length
of its fields and its records. -/
def RecordsExact (P : List UInt8 → Prop) (k : Nat) (w : List UInt8) : Prop :=
  let n := (BigEndian.uint32 (w.drop (8 + k - 4))).toNat
  declared w = k + unitsLength n (w.drop (8 + k)) ∧ Units P n (w.drop (8 + k))

def SampleExact (filter : List UInt32) (w : List UInt8) : Prop :=
  Present w ∧
  if isFilterMatch filter (BigEndian.uint32 w) then True
  else if BigEndian.uint32 w = dataFlowSample then RecordsExact FlowRecordExact 32 w
  else if BigEndian.uint32 w = dataCounterSample then RecordsExact CounterRecordExact 12 w
  else if BigEndian.uint32 w = dataExpandedFlowSample then RecordsExact FlowRecordExact 40 w
  else True

instance {P : List UInt8 → Prop} [DecidablePred P] (k : Nat) (w : List UInt8) : Decidable (RecordsExact P k w) :=
  inferInstanceAs (Decidable (_ ∧ _))

instance (filter : List UInt32) : DecidablePred (SampleExact filter) := fun _ =>
  inferInstanceAs (Decidable (_ ∧ ite _ _ _))

/-- The last four bytes of the fields are the number of records. -/
def ReadsRecordsNo {η ρ σ : Type} (d : SampleDecoder η ρ σ) (k : Nat) : Prop :=
  ∀ r h r', d.unmarshal r = .ok h r' → d.recordsNo h = BigEndian.uint32 (r.data.drop (k - 4)) ∧ r' = r.advance k

theorem recordsNo_flowDecoder : ReadsRecordsNo flowDecoder 32 := by
  intro r h r' hr
  have hr : FlowSample.unmarshal r = .ok h r' := hr
  obtain ⟨hlen, rfl⟩ := takes_flowSample.of_ok hr
  unfold FlowSample.unmarshal at hr
  rw [bind_uint32_of_le (by omega), bind_uint8_at (by omega), bind_seek_at, bind_uint32_at (by omega),
    bind_uint32_at (by omega), bind_uint32_at (by omega), bind_uint32_at (by omega), bind_uint32_at (by omega),
    bind_uint32_at (by omega), pure_apply, EStateM.Result.ok.injEq] at hr
  rw [← hr.1]
  exact ⟨rfl, rfl⟩

theorem recordsNo_expandedDecoder : ReadsRecordsNo expandedDecoder 40 := by
  intro r h r' hr
  have hr : ExpandedFlowSample.unmarshal r = .ok h r' := hr
  obtain ⟨hlen, rfl⟩ := takes_expandedFlowSample.of_ok hr
  unfold ExpandedFlowSample.unmarshal at hr
  rw [bind_uint32_of_le (by omega), bind_uint8_at (by omega), bind_seek_at, bind_uint32_at (by omega),
    bind_uint32_at (by omega), bind_uint32_at (by omega), bind_uint32_at (by omega), bind_uint32_at (by omega),
    bind_uint32_at (by omega), bind_uint32_at (by omega), bind_uint32_at (by omega), pure_apply,
    EStateM.Result.ok.injEq] at hr
  rw [← hr.1]
  exact ⟨rfl, rfl⟩

theorem recordsNo_counterDecoder : ReadsRecordsNo counterDecoder 12 := by
  intro r h r' hr
  have hr : CounterSample.unmarshal r = .ok h r' := hr
  obtain ⟨hlen, rfl⟩ := takes_counterSample.of_ok hr
  unfold CounterSample.unmarshal at hr
  rw [bind_uint32_of_le (by omega), bind_uint8_at (by omega), bind_binaryRead_at (by omega),
    bind_uint32_at (by omega), pure_apply, EStateM.Result.ok.injEq] at hr
  rw [← hr.1]
  exact ⟨rfl, rfl⟩

theorem SampleDecoder.framed_iff {η ρ σ : Type} {d : SampleDecoder η ρ σ} {k : Nat} {P : List UInt8 → Prop}
    (hk : 4 ≤ k) (hno : ReadsRecordsNo d k)
    (hrecord : ∀ r x r', recordPass d.record r = .ok x r' → (Framed (r, r') ↔ P r.data)) {wrap : σ → Item}
    {r r' : Reader} {item : Item} (h : d.item wrap (r.advance 8) = .ok item r') :
    (Framed (r, r') ∧ ∀ q ∈ d.passes (r.advance 8), Framed q) ↔ Present r.data ∧ RecordsExact P k r.data := by
  obtain ⟨s, hs, -⟩ := bind_pure_eq_ok.mp h
  rw [mapError_eq_ok] at hs
  obtain ⟨h, r₁, records, hhead, hloop, -⟩ := SampleDecoder.decode_eq_ok hs
  obtain ⟨hn, rfl⟩ := hno _ _ _ hhead
  obtain ⟨hall, hend⟩ := passes_iff_units hrecord (fun _ hq => hq) (by rw [hloop])
  rw [hloop] at hend
  dsimp only at hend
  have hdata : (r.advance 8).data.drop (k - 4) = r.data.drop (8 + k - 4) := by
    rw [Cursor.advance_data, List.drop_drop]
    congr 1
    omega
  rw [SampleDecoder.passes_of_ok hhead, hall]
  rw [hn, hdata, Cursor.advance_advance, Cursor.advance_data] at hend ⊢
  unfold RecordsExact
  dsimp only
  constructor
  · intro ⟨hframed, hunits⟩
    rw [hend hunits, Cursor.advance_advance, Sflow.framed_iff] at hframed
    exact ⟨hframed.1, by omega, hunits⟩
  · intro ⟨hpresent, hlength, hunits⟩
    refine ⟨?_, hunits⟩
    rw [hend hunits, Cursor.advance_advance, Sflow.framed_iff]
    exact ⟨hpresent, by omega⟩

theorem framed_sample_iff (filter : List UInt32) (r : Reader) (item : Item) (r' : Reader)
    (h : samplePass filter r = .ok item r') :
    (Framed (r, r') ∧ ∀ q ∈ recordPasses filter r, Framed q) ↔ SampleExact filter r.data := by
  cases hinfo : getSampleInfo r with
  | error f r₁ =>
    rw [samplePass_of_error hinfo] at h
    cases h
  | ok info r₁ =>
    obtain ⟨-, hent, rfl, rfl⟩ := getSampleInfo_eq_ok hinfo
    rw [samplePass_of_info hinfo, mapError_eq_ok] at h
    rw [recordPasses_of_info hinfo]
    dsimp only at h ⊢
    rw [and_of_shiftRight_eq_zero hent] at h ⊢
    unfold decodeItem at h
    unfold itemPasses SampleExact
    split_ifs at h ⊢
    · rw [framed_of_seek h]
      exact and_congr_right fun _ => iff_of_true (fun q hq => absurd hq List.not_mem_nil) trivial
    · exact SampleDecoder.framed_iff (by omega) recordsNo_flowDecoder framed_flowRecord_iff h
    · exact SampleDecoder.framed_iff (by omega) recordsNo_counterDecoder framed_counterRecord_iff h
    · exact SampleDecoder.framed_iff (by omega) recordsNo_expandedDecoder framed_flowRecord_iff h
    · rw [framed_of_seek h]
      exact and_congr_right fun _ => iff_of_true (fun q hq => absurd hq List.not_mem_nil) trivial

/-! ## Datagrams -/

/-- The length of the header of a datagram, by the version of the agent's address. -/
def headerLength (b : List UInt8) : Nat := if BigEndian.uint32 (b.drop 4) = 2 then 40 else 28

/-- All declared bytes are there, and every sample that is not filtered, and every record of it, declares the size
of what the decoder reads. -/
def DatagramExact (filter : List UInt32) (b : List UInt8) : Prop :=
  Units (SampleExact filter) (BigEndian.uint32 (b.drop (headerLength b - 4))).toNat (b.drop (headerLength b))

instance (filter : List UInt32) (b : List UInt8) : Decidable (DatagramExact filter b) :=
  inferInstanceAs (Decidable (Units _ _ _))

theorem sfHeaderDecode_end {now : Int} {r r' : Reader} {d : SFDatagram} (h : sfHeaderDecode now r = .ok d r') :
    headerLength r.data ≤ r.len ∧ d.samplesNo = BigEndian.uint32 (r.data.drop (headerLength r.data - 4)) ∧
      r' = r.advance (headerLength r.data) := by
  unfold sfHeaderDecode at h
  obtain ⟨version, r₁, hversion, h⟩ := bind_eq_ok.mp h
  obtain ⟨-, -, rfl⟩ := uint32_eq_ok hversion
  split_ifs at h
  · cases h
  · obtain ⟨ipVersion, r₂, hread, h⟩ := bind_eq_ok.mp h
    obtain ⟨-, hip, rfl⟩ := uint32_eq_ok hread
    obtain ⟨address, r₃, hraw, h⟩ := bind_eq_ok.mp h
    obtain ⟨-, rfl⟩ := rawRead_eq_ok hraw
    obtain ⟨_, r₄, h₄, h⟩ := bind_eq_ok.mp h
    obtain ⟨hlen, -, rfl⟩ := uint32_eq_ok h₄
    obtain ⟨_, r₅, h₅, h⟩ := bind_eq_ok.mp h
    obtain ⟨-, -, rfl⟩ := uint32_eq_ok h₅
    obtain ⟨_, r₆, h₆, h⟩ := bind_eq_ok.mp h
    obtain ⟨-, -, rfl⟩ := uint32_eq_ok h₆
    obtain ⟨samplesNo, r₇, h₇, h⟩ := bind_eq_ok.mp h
    obtain ⟨hlast, hno, rfl⟩ := uint32_eq_ok h₇
    rw [pure_apply, EStateM.Result.ok.injEq] at h
    obtain ⟨rfl, rfl⟩ := h
    -- what is read after the address shows that all of it was there
    simp only [Cursor.advance_advance, Cursor.advance_data, Cursor.len_advance] at hlen hlast hno hip ⊢
    rw [Nat.min_eq_left (by omega)] at hlast hno ⊢
    unfold headerLength
    rw [← hip]
    split_ifs at hlast hno ⊢
    · exact ⟨by omega, hno, rfl⟩
    · exact ⟨by omega, hno, rfl⟩

/-- Whenever `SFDecode` returns without an error: every sample and every record was read from as many bytes as it
declares, exactly when these are there and each declares the size of the fields that the decoder knows. -/
theorem framing_iff (filter : List UInt32) (now : Int) (b : List UInt8) (d : Option SFDatagram)
    (h : sfDecode filter now b = .returned d none) :
    (∀ p ∈ allPasses filter b, Framed p) ↔ DatagramExact filter b := by
  have hfailure : (sfDecode filter now b).failure = none := by rw [h, Outcome.failure, Option.map_none]
  cases hhead : sfHeaderDecode 0 ⟨b, 0⟩ with
  | error f r =>
    rw [failure_sfDecode_of_error hhead] at hfailure
    cases hfailure
  | ok datagram r =>
    obtain ⟨-, hno, rfl⟩ := sfHeaderDecode_end hhead
    rw [failure_sfDecode_of_ok hhead, Option.map_eq_none_iff] at hfailure
    obtain ⟨hall, -⟩ := passes_iff_units (Q := fun p => Framed p ∧ ∀ q ∈ recordPasses filter p.1, Framed q)
      (framed_sample_iff filter) (fun _ hp => hp.1) hfailure
    rw [hno, Cursor.advance_data] at hall
    unfold allPasses DatagramExact
    rw [← hall, samplePasses_of_ok hhead, hno]
    simp only [List.forall_mem_flatMap, List.forall_mem_cons]

/-- A flow sample with an extended switch record, one of a format that is passed over, and a filtered sample. -/
def switchDatagram : List UInt8 :=
  ([5, 1, 0xc0000201, 0, 1, 1000, 2] ++ [1, 68] ++ [1, 1, 512, 1000, 0, 1, 2, 2] ++ [1001, 16, 10, 1, 20, 2] ++
    [1004, 4, 7] ++ [2, 12, 1, 1, 0] : List UInt32).flatMap BigEndian.putUint32

def switchResult (samplesNo : UInt32) : SFDatagram where
  version := 5
  ipVersion := 1
  agentSubID := 0
  sequenceNo := 1
  sysUpTime := 1000
  samplesNo
  samples := [.flow {
    sequenceNo := 1
    sourceID := 0
    samplingRate := 512
    samplePool := 1000
    drops := 0
    input := 1
    output := 2
    recordsNo := 2
    records := { extSwitch := some { srcVlan := 10, srcPriority := 2, dstVlan := 20, dstPriority := 0 } } }]
  ipAddress := [192, 0, 2, 1]
  colTime := 0

theorem framing_iff_switch :
    sfDecode [2] 0 switchDatagram = .returned (some (switchResult 2)) none ∧
      (allPasses [2] switchDatagram).length = 4 ∧ ∀ p ∈ allPasses [2] switchDatagram, Framed p := by
  have hdecode : sfDecode [2] 0 switchDatagram = .returned (some (switchResult 2)) none := by decide +kernel
  exact ⟨hdecode, by decide +kernel, (framing_iff [2] 0 switchDatagram _ hdecode).mpr (by decide +kernel)⟩

/-- A flow sample with two extended switch records, the first of which has a field of four bytes that the decoder
does not know. -/
def longSwitchDatagram : List UInt8 :=
  ([5, 1, 0xc0000201, 0, 1, 1000, 1] ++ [1, 84] ++ [1, 1, 512, 1000, 0, 1, 2, 2] ++
    [1001, 20, 10, 1, 20, 2, 0] ++ [1001, 16, 30, 3, 40, 4] : List UInt32).flatMap BigEndian.putUint32

/-- The record after the unknown field is read four bytes too early, and is lost without an error: the first of the
two records is returned. -/
theorem framing_lost :
    sfDecode [] 0 longSwitchDatagram = .returned (some (switchResult 1)) none ∧
      ¬ ∀ p ∈ allPasses [] longSwitchDatagram, Framed p :=
  ⟨by decide +kernel, by decide +kernel⟩

end VFlow.Sflow
