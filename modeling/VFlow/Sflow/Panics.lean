import VFlow.Sflow.Decoder

/-!
# Panics of the record decoders

Two sizes computed from the wire are passed to `make`: the length of a sampled header rounded up to a
multiple of four, and the declared length of an extended router record less eight. The first is right for
every length that the decoder accepts, though its padding is computed by a subtraction that wraps. The
second wraps for a length below eight. For a length below twelve the buffer, if it can be filled, is too
short for the four bytes that `ExtRouterData.unmarshal` cuts off its front, and the slice panics.

Nothing else in the package can panic: every other size is a constant. So a run is free of such faults
exactly when every extended router record that it comes to declares at least twelve bytes, or more than
eight of which fewer are left.
-/

namespace VFlow.Sflow

open Scan

/-! ## Sizes passed to `make` -/

theorem bufferSize_sampledHeader {headerLength : UInt32} (h : headerLength ≤ 1500) :
    ((SampledHeader.bufferSize headerLength).toNat : Int) = headerLength.toNat + (4 - headerLength.toNat) % 4 := by
  rw [bufferSize_toNat h]
  omega

theorem bufferSize_extRouterData (l : UInt32) :
    (ExtRouterData.bufferSize l).toNat = if 8 ≤ l.toNat then l.toNat - 8 else 2 ^ 32 + l.toNat - 8 := by
  have hl := l.toNat_lt
  unfold ExtRouterData.bufferSize
  rw [UInt32.toNat_sub]
  show (2 ^ 32 - 8 + l.toNat) % 2 ^ 32 = _
  split_ifs <;> omega

/-- The size that the decoder of a record passes to `make`, as it is computed from the bytes of the record
and as the same expression over the integers. -/
def madeSize (w : List UInt8) : Option (UInt32 × Int) :=
  let format := BigEndian.uint32 w
  let length := BigEndian.uint32 (w.drop 4)
  let headerLength := BigEndian.uint32 (w.drop 20)
  if w.length < 8 then none
  else if format = sfDataRawHeader then
    if w.length < 24 ∨ headerLength > 1500 then none
    else some (SampledHeader.bufferSize headerLength, headerLength.toNat + (4 - headerLength.toNat) % 4)
  else if format = sfDataExtRouter then some (ExtRouterData.bufferSize length, length.toNat - 8)
  else none

/-- No size wraps around. -/
def SizeExact (w : List UInt8) : Prop := ∀ n k, madeSize w = some (n, k) → (n.toNat : Int) = k

theorem sizeExact_iff (w : List UInt8) :
    SizeExact w ↔
      (8 ≤ w.length → BigEndian.uint32 w = sfDataExtRouter → 8 ≤ (BigEndian.uint32 (w.drop 4)).toNat) := by
  unfold SizeExact madeSize
  dsimp only
  split_ifs with hlen hraw hshort hrouter
  · exact ⟨fun _ h => by omega, fun _ n k h => by cases h⟩
  · have hne : BigEndian.uint32 w ≠ sfDataExtRouter := by
      rw [hraw]
      decide
    exact ⟨fun _ _ h => absurd h hne, fun _ n k h => by cases h⟩
  · have hne : BigEndian.uint32 w ≠ sfDataExtRouter := by
      rw [hraw]
      decide
    refine ⟨fun _ _ h => absurd h hne, fun _ n k h => ?_⟩
    simp only [Option.some.injEq, Prod.mk.injEq] at h
    rw [← h.1, ← h.2]
    exact bufferSize_sampledHeader (UInt32.not_lt.mp fun hlt => hshort (Or.inr hlt))
  · have hsize := bufferSize_extRouterData (BigEndian.uint32 (w.drop 4))
    have hlt := (BigEndian.uint32 (w.drop 4)).toNat_lt
    constructor
    · intro h _ _
      have := h _ _ rfl
      split_ifs at hsize <;> omega
    · intro h n k hnk
      simp only [Option.some.injEq, Prod.mk.injEq] at hnk
      have := h (by omega) hrouter
      rw [← hnk.1, ← hnk.2, hsize, if_pos this]
      omega
  · exact ⟨fun _ _ h => absurd h hrouter, fun _ n k h => by cases h⟩

/-! ## Slices -/

/-- The scanner ends in a slice out of bounds. -/
def SliceFails {β : Type} (m : ReadM β) (r : Reader) : Prop := ∃ r', m r = .error (.panic .sliceBounds) r'

theorem sliceFails_bind {β γ : Type} {m : ReadM β} {f : β → ReadM γ} {r : Reader} :
    SliceFails (m >>= f) r ↔ SliceFails m r ∨ ∃ x r', m r = .ok x r' ∧ SliceFails (f x) r' := by
  unfold SliceFails
  simp only [bind_eq_error]
  constructor
  · intro ⟨r', h⟩
    obtain h | ⟨x, d, hx, h⟩ := h
    · exact Or.inl ⟨r', h⟩
    · exact Or.inr ⟨x, d, hx, r', h⟩
  · intro h
    obtain ⟨r', h⟩ | ⟨x, d, hx, r', h⟩ := h
    · exact ⟨r', Or.inl h⟩
    · exact ⟨r', Or.inr ⟨x, d, hx, h⟩⟩

theorem not_sliceFails_of_errs {β : Type} {m : ReadM β} (h : Errs m) (r : Reader) : ¬ SliceFails m r := by
  intro ⟨r', hr⟩
  obtain ⟨e, he⟩ := h r _ r' hr
  cases he

theorem not_sliceFails_of_takes {β : Type} {m : ReadM β} {k : Nat} (h : Takes Returned m k) (r : Reader) :
    ¬ SliceFails m r :=
  not_sliceFails_of_errs (errs_of_takes h) r

theorem not_sliceFails_bind {β γ : Type} {m : ReadM β} {f : β → ReadM γ} (hm : ∀ r, ¬ SliceFails m r)
    (hf : ∀ x r, ¬ SliceFails (f x) r) (r : Reader) : ¬ SliceFails (m >>= f) r := by
  rw [sliceFails_bind]
  intro h
  obtain h | ⟨x, r', -, h⟩ := h
  · exact hm r h
  · exact hf x r' h

theorem not_sliceFails_pure {β : Type} (x : β) (r : Reader) : ¬ SliceFails (pure x) r :=
  not_sliceFails_of_errs (errs_pure x) r

theorem not_sliceFails_sampledHeader (r : Reader) : ¬ SliceFails SampledHeader.unmarshal r := by
  refine not_sliceFails_bind (not_sliceFails_of_takes takes_uint32) (fun _ => ?_) r
  refine not_sliceFails_bind (not_sliceFails_of_takes takes_uint32) (fun _ => ?_)
  refine not_sliceFails_bind (not_sliceFails_of_takes takes_uint32) (fun _ => ?_)
  refine not_sliceFails_bind (not_sliceFails_of_takes takes_uint32) (fun headerLength => ?_)
  intro r
  split_ifs with hlong
  · exact not_sliceFails_of_errs (errs_throw _) r
  · rw [sliceFails_bind]
    intro h
    obtain h | ⟨buffer, r', hbuffer, h⟩ := h
    · exact not_sliceFails_of_errs (errs_rawRead _) r h
    · have hlen : headerLength.toNat ≤ buffer.length := by
        rw [(rawRead_eq_ok hbuffer).1, Cursor.len, length_take_append_replicate]
        exact le_bufferSize (UInt32.not_lt.mp hlong)
      rw [sliceTo_of_le hlen] at h
      exact not_sliceFails_bind (not_sliceFails_pure _) (fun _ => not_sliceFails_pure _) r' h

theorem not_sliceFails_decodeSampledHeader (r : Reader) : ¬ SliceFails decodeSampledHeader r := by
  refine not_sliceFails_bind not_sliceFails_sampledHeader (fun h r => ?_) r
  unfold decodeHeader
  match Packet.decoder h.header h.protocol with
  | .ok _ p => exact not_sliceFails_pure p r
  | .error (.err e) _ => exact not_sliceFails_of_errs (errs_throw _) r
  | .error .indexOutOfRange _ =>
    intro ⟨r', hr⟩
    cases hr

theorem sliceFails_extRouterData (l : UInt32) (r : Reader) :
    SliceFails (ExtRouterData.unmarshal l) r ↔
      (ExtRouterData.bufferSize l).toNat ≤ r.len ∧ (ExtRouterData.bufferSize l).toNat < 4 := by
  have hrest : ∀ (nextHop : IP) r', ¬ SliceFails (do
      let srcMask ← uint32
      let dstMask ← uint32
      return ({ nextHop, srcMask, dstMask } : ExtRouterData)) r' := fun _ =>
    not_sliceFails_bind (not_sliceFails_of_takes takes_uint32) fun _ =>
      not_sliceFails_bind (not_sliceFails_of_takes takes_uint32) fun _ => not_sliceFails_pure _
  unfold ExtRouterData.unmarshal
  rw [sliceFails_bind]
  constructor
  · intro h
    obtain h | ⟨buff, r', hbuff, h⟩ := h
    · exact absurd h (not_sliceFails_of_takes (takes_binaryRead _) r)
    · obtain ⟨hlen, rfl⟩ := (takes_binaryRead _).of_ok hbuff
      rw [binaryRead_of_le hlen, EStateM.Result.ok.injEq] at hbuff
      refine ⟨hlen, ?_⟩
      by_contra h4
      rw [sliceFrom_of_le (by rw [← hbuff.1, List.length_take]; unfold Cursor.len at hlen; omega)] at h
      exact not_sliceFails_bind (not_sliceFails_pure _) hrest _ h
  · intro ⟨hlen, h4⟩
    refine Or.inr ⟨_, _, binaryRead_of_le hlen, ?_⟩
    rw [sliceFails_bind]
    refine Or.inl ⟨r.advance (ExtRouterData.bufferSize l).toNat, ?_⟩
    unfold sliceFrom
    rw [if_neg (by rw [List.length_take]; omega)]
    rfl

/-- A record whose address is too short to be cut, although its bytes are there. -/
def RouterFails (r : Reader) : Prop :=
  8 ≤ r.len ∧ BigEndian.uint32 r.data = sfDataExtRouter ∧
    (ExtRouterData.bufferSize (BigEndian.uint32 (r.data.drop 4))).toNat ≤ r.len - 8 ∧
    (ExtRouterData.bufferSize (BigEndian.uint32 (r.data.drop 4))).toNat < 4

theorem sliceFails_flowRecord (format length : UInt32) (r : Reader) :
    SliceFails (flowRecord format length) r ↔
      format = sfDataExtRouter ∧ SliceFails (ExtRouterData.unmarshal length) r := by
  unfold flowRecord
  split_ifs with hraw hswitch hrouter
  · refine iff_of_false (not_sliceFails_bind not_sliceFails_decodeSampledHeader (fun _ => not_sliceFails_pure _) r) ?_
    intro h
    rw [hraw] at h
    exact absurd h.1 (by decide)
  · refine iff_of_false (not_sliceFails_bind (not_sliceFails_of_takes takes_extSwitchData)
      (fun _ => not_sliceFails_pure _) r) ?_
    intro h
    rw [hswitch] at h
    exact absurd h.1 (by decide)
  · rw [sliceFails_bind]
    constructor
    · intro h
      obtain h | ⟨x, r', -, h⟩ := h
      · exact ⟨hrouter, h⟩
      · exact absurd h (not_sliceFails_pure _ r')
    · exact fun h => Or.inl h.2
  · refine iff_of_false ?_ fun h => hrouter h.1
    refine not_sliceFails_bind (fun r => ?_) (fun _ => not_sliceFails_pure _) r
    intro ⟨r', hr⟩
    cases hr

theorem recordPass_fails_iff {ρ : Type} {record : UInt32 → UInt32 → ReadM ρ} {p : Reader × Reader}
    (hp : final (recordPass record p.1) = p.2) :
    (∃ g, recordPass record p.1 = .error g p.2 ∧ g.failure = .panic .sliceBounds) ↔
      8 ≤ p.1.len ∧
        SliceFails (record (BigEndian.uint32 p.1.data) (BigEndian.uint32 (p.1.data.drop 4))) (p.1.advance 8) := by
  by_cases hlen : 8 ≤ p.1.len
  · rw [recordPass_of_le hlen] at hp ⊢
    simp only [mapError_eq_error]
    constructor
    · intro ⟨g, ⟨f, hf, hg⟩, hpanic⟩
      rw [← hg] at hpanic
      refine ⟨hlen, p.2, ?_⟩
      rw [hf, show f = .panic .sliceBounds from hpanic]
    · intro ⟨_, r', hr'⟩
      rw [mapError_of_error hr', final_error] at hp
      exact ⟨_, ⟨_, by rw [hr', hp], rfl⟩, rfl⟩
  · obtain ⟨e, j, he⟩ := recordPass_of_lt record (show p.1.len < 8 by omega)
    refine iff_of_false ?_ fun h => hlen h.1
    intro ⟨g, hg, hpanic⟩
    rw [he, EStateM.Result.error.injEq] at hg
    rw [← hg.1] at hpanic
    cases hpanic

/-! ## Samples -/

theorem SampleDecoder.sliceFails_item {η ρ σ : Type} {d : SampleDecoder η ρ σ} {wrap : σ → Item} {k : Nat}
    (hhead : Takes Returned d.unmarshal k) (r : Reader) :
    SliceFails (d.item wrap) r ↔
      ∃ p ∈ d.passes r, 8 ≤ p.1.len ∧
        SliceFails (d.record (BigEndian.uint32 p.1.data) (BigEndian.uint32 (p.1.data.drop 4))) (p.1.advance 8) := by
  have hdecode : SliceFails (d.item wrap) r ↔ ∃ s r', d.decode r = .error ⟨s, .panic .sliceBounds⟩ r' := by
    unfold SampleDecoder.item
    rw [sliceFails_bind]
    constructor
    · intro h
      obtain ⟨r', h⟩ | ⟨x, r', -, h⟩ := h
      · obtain ⟨⟨s, f⟩, hs, rfl⟩ := mapError_eq_error.mp h
        exact ⟨s, r', hs⟩
      · exact absurd h (not_sliceFails_pure _ r')
    · intro ⟨s, r', h⟩
      exact Or.inl ⟨r', mapError_of_error h⟩
  rw [hdecode, SampleDecoder.decode_error_iff]
  constructor
  · intro h
    obtain h | ⟨p, hp, g, hg⟩ := h
    · exact absurd h (not_sliceFails_of_takes hhead r)
    · have hfinal : final (recordPass d.record p.1) = p.2 := by rw [hg.1, final_error]
      exact ⟨p, hp, (recordPass_fails_iff hfinal).mp ⟨g, hg⟩⟩
  · intro ⟨p, hp, h⟩
    have hfinal : final (recordPass d.record p.1) = p.2 := by
      cases hr : d.unmarshal r with
      | error f r' =>
        rw [SampleDecoder.passes_of_error hr] at hp
        exact absurd hp List.not_mem_nil
      | ok h r' =>
        rw [SampleDecoder.passes_of_ok hr] at hp
        exact final_of_mem_passes hp
    exact Or.inr ⟨p, hp, (recordPass_fails_iff hfinal).mpr h⟩

theorem sliceFails_record_iff (r : Reader) :
    8 ≤ r.len ∧ SliceFails (flowRecord (BigEndian.uint32 r.data) (BigEndian.uint32 (r.data.drop 4))) (r.advance 8) ↔
      RouterFails r := by
  unfold RouterFails
  rw [sliceFails_flowRecord, sliceFails_extRouterData, Cursor.len_advance]

theorem not_sliceFails_counterRecord (format length : UInt32) (r : Reader) :
    ¬ SliceFails (counterRecord format length) r := by
  unfold counterRecord
  split_ifs
  · exact not_sliceFails_bind (not_sliceFails_of_takes takes_genericInterfaceCounters)
      (fun _ => not_sliceFails_pure _) r
  · exact not_sliceFails_bind (not_sliceFails_of_takes takes_ethernetInterfaceCounters)
      (fun _ => not_sliceFails_pure _) r
  · exact not_sliceFails_bind (not_sliceFails_of_takes takes_tokenRingCounters) (fun _ => not_sliceFails_pure _) r
  · exact not_sliceFails_bind (not_sliceFails_of_takes takes_vgCounters) (fun _ => not_sliceFails_pure _) r
  · exact not_sliceFails_bind (not_sliceFails_of_takes takes_vlanCounters) (fun _ => not_sliceFails_pure _) r
  · exact not_sliceFails_bind (not_sliceFails_of_takes takes_processorCounters) (fun _ => not_sliceFails_pure _) r
  · refine not_sliceFails_bind (fun r => ?_) (fun _ => not_sliceFails_pure _) r
    intro ⟨r', hr⟩
    cases hr

theorem sliceFails_decodeItem (filter : List UInt32) (format length : UInt32) (r : Reader) :
    SliceFails (decodeItem filter format length) r ↔
      format ≠ dataCounterSample ∧ ∃ p ∈ itemPasses filter format r, RouterFails p.1 := by
  have hskip : ¬ SliceFails (do seek length.toNat; return Item.skipped) r := by
    refine not_sliceFails_bind (fun r => ?_) (fun _ => not_sliceFails_pure _) r
    intro ⟨r', hr⟩
    cases hr
  unfold decodeItem itemPasses
  split_ifs with hfilter hflow hcounter hexpanded
  · exact iff_of_false hskip (by simp)
  · rw [hflow]
    refine (SampleDecoder.sliceFails_item takes_flowSample r).trans ?_
    simp only [flowDecoder, sliceFails_record_iff, show dataFlowSample ≠ dataCounterSample by decide, ne_eq,
      not_false_eq_true, true_and]
  · refine iff_of_false (fun h => ?_) fun h => h.1 hcounter
    obtain ⟨p, -, -, hp⟩ := (SampleDecoder.sliceFails_item takes_counterSample r).mp h
    exact not_sliceFails_counterRecord _ _ _ hp
  · rw [hexpanded]
    refine (SampleDecoder.sliceFails_item takes_expandedFlowSample r).trans ?_
    simp only [expandedDecoder, sliceFails_record_iff, show dataExpandedFlowSample ≠ dataCounterSample by decide, ne_eq,
      not_false_eq_true, true_and]
  · exact iff_of_false hskip (by simp)

theorem samplePass_fails_iff {filter : List UInt32} {p : Reader × Reader}
    (hp : final (samplePass filter p.1) = p.2) :
    (∃ g, samplePass filter p.1 = .error g p.2 ∧ g.failure = .panic .sliceBounds) ↔
      BigEndian.uint32 p.1.data ≠ dataCounterSample ∧ ∃ q ∈ recordPasses filter p.1, RouterFails q.1 := by
  cases hinfo : getSampleInfo p.1 with
  | error f r =>
    obtain ⟨e, rfl⟩ := getSampleInfo_eq_error hinfo
    rw [samplePass_of_error hinfo, recordPasses_of_error hinfo]
    refine iff_of_false ?_ (by simp)
    intro ⟨g, hg, hpanic⟩
    rw [EStateM.Result.error.injEq] at hg
    rw [← hg.1] at hpanic
    cases hpanic
  | ok info r =>
    obtain ⟨-, hent, hinfo', -⟩ := getSampleInfo_eq_ok hinfo
    have hformat : info.1 = BigEndian.uint32 p.1.data := by rw [hinfo', and_of_shiftRight_eq_zero hent]
    rw [samplePass_of_info hinfo] at hp ⊢
    rw [recordPasses_of_info hinfo, ← hformat, ← sliceFails_decodeItem filter info.1 info.2]
    simp only [mapError_eq_error]
    constructor
    · intro ⟨g, ⟨f, hf, hg⟩, hpanic⟩
      rw [← hg] at hpanic
      exact ⟨p.2, by rw [hf, show f = .panic .sliceBounds from hpanic]⟩
    · intro ⟨r', hr'⟩
      rw [mapError_of_error hr', final_error] at hp
      exact ⟨_, ⟨_, by rw [hr', hp], rfl⟩, rfl⟩

/-! ## Datagrams -/

/-- A pass of the record loop of a flow sample or an expanded flow sample starts at `r`. -/
def FlowRecordAt (filter : List UInt32) (b : List UInt8) (r : Reader) : Prop :=
  ∃ p ∈ samplePasses filter b, BigEndian.uint32 p.1.data ≠ dataCounterSample ∧
    ∃ q ∈ recordPasses filter p.1, q.1 = r

/-- An extended router record declares at least twelve bytes, or more than eight of which fewer are left. -/
def RouterFits (r : Reader) : Prop :=
  8 ≤ r.len → BigEndian.uint32 r.data = sfDataExtRouter →
    12 ≤ (BigEndian.uint32 (r.data.drop 4)).toNat ∨
      8 < (BigEndian.uint32 (r.data.drop 4)).toNat ∧ r.len < (BigEndian.uint32 (r.data.drop 4)).toNat

theorem routerFits_iff (r : Reader) : RouterFits r ↔ ¬ RouterFails r ∧ SizeExact r.data := by
  have hsize := bufferSize_extRouterData (BigEndian.uint32 (r.data.drop 4))
  rw [sizeExact_iff]
  unfold RouterFits RouterFails
  rw [hsize]
  by_cases hlen : 8 ≤ r.len
  · by_cases hrouter : BigEndian.uint32 r.data = sfDataExtRouter
    · simp only [show 8 ≤ r.data.length from hlen, hlen, hrouter, true_and, forall_const]
      split_ifs <;> omega
    · simp [hrouter]
  · simp [hlen, show ¬ 8 ≤ r.data.length from hlen]

theorem sfDecode_sliceBounds_iff (filter : List UInt32) (now : Int) (b : List UInt8) :
    sfDecode filter now b = .panicked .sliceBounds ↔ ∃ r, FlowRecordAt filter b r ∧ RouterFails r := by
  have hfailure : sfDecode filter now b = .panicked .sliceBounds ↔
      (sfDecode filter now b).failure = some (.panic .sliceBounds) := by
    cases sfDecode filter now b with
    | returned d err => cases err <;> simp [Outcome.failure]
    | panicked p => simp [Outcome.failure]
  rw [hfailure, failure_sfDecode_iff]
  constructor
  · intro h
    obtain ⟨r, h⟩ | ⟨p, hp, g, hg⟩ := h
    · exact absurd ⟨r, h⟩ (not_sliceFails_of_errs (errs_sfHeaderDecode 0) _)
    · have hfinal : final (samplePass filter p.1) = p.2 := by rw [hg.1, final_error]
      obtain ⟨hformat, q, hq, hfails⟩ := (samplePass_fails_iff hfinal).mp ⟨g, hg⟩
      exact ⟨q.1, ⟨p, hp, hformat, q, hq, rfl⟩, hfails⟩
  · intro ⟨r, ⟨p, hp, hformat, q, hq, hr⟩, hfails⟩
    rw [← hr] at hfails
    have hfinal : final (samplePass filter p.1) = p.2 := final_of_mem_samplePasses hp
    exact Or.inr ⟨p, hp, (samplePass_fails_iff hfinal).mpr ⟨hformat, q, hq, hfails⟩⟩

/-- No slice is out of bounds and no size passed to `make` wraps around, exactly when every extended router
record that the decoder comes to declares a length that fits. -/
theorem sfDecode_safe_iff (filter : List UInt32) (now : Int) (b : List UInt8) :
    (sfDecode filter now b ≠ .panicked .sliceBounds ∧ ∀ r, FlowRecordAt filter b r → SizeExact r.data) ↔
      ∀ r, FlowRecordAt filter b r → RouterFits r := by
  rw [ne_eq, sfDecode_sliceBounds_iff]
  simp only [routerFits_iff]
  constructor
  · intro ⟨hfails, hsize⟩ r hr
    exact ⟨fun h => hfails ⟨r, hr, h⟩, hsize r hr⟩
  · intro h
    exact ⟨fun ⟨r, hr, hfails⟩ => (h r hr).1 hfails, fun r hr => (h r hr).2⟩

def shortRouterDatagram : List UInt8 :=
  ([5, 1, 0xc0000201, 0, 1, 1000, 1] ++ [1, 40] ++ [1, 1, 512, 1000, 0, 1, 2, 1] ++
    [1002, 8] : List UInt32).flatMap BigEndian.putUint32

/-- Nothing has to be read for the address, and the slice that cuts it panics. -/
theorem sfDecode_panics : sfDecode [] 0 shortRouterDatagram = .panicked .sliceBounds := by
  decide +kernel

end VFlow.Sflow
