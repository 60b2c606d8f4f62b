import VFlow.Sflow.Decoder

/-!
# The work done on a datagram

The counts of samples and records come from the wire and may be as large as `2 ^ 32 - 1`, but every pass
of a loop first reads the eight bytes of a format and a length, or ends the decoding. So all loops
together make at most one pass more than the datagram has groups of eight bytes, and what is returned has
at most one sample or counter for each group. A seek beyond the end only brings the next read to fail.
-/

namespace VFlow.Sflow

open Scan

variable {η ρ σ : Type}

theorem len_of_onward {β ε : Type} {m : Scan ε UInt8 β} (hm : Onward m) {r r' : Reader} {x : β} (h : m r = .ok x r') :
    r'.len ≤ r.len := by
  obtain ⟨k, rfl⟩ := hm.of_ok h
  rw [Cursor.len_advance]
  exact Nat.sub_le _ _

theorem recordPass_len {record : UInt32 → UInt32 → ReadM ρ} (hrecord : ∀ format length, Onward (record format length))
    (r : Reader) (x : ρ) (r' : Reader) (h : recordPass record r = .ok x r') : 8 + r'.len ≤ r.len := by
  obtain ⟨hlen, h⟩ := recordPass_eq_ok.mp h
  have hbody := len_of_onward (hrecord _ _) h
  rw [Cursor.len_advance] at hbody
  omega

/-- How many passes a record loop makes, by what it leaves of the input. -/
def WorkBounded (m : ReadM Item) (passes : Reader → List (Reader × Reader)) : Prop :=
  ∀ r, 8 * (passes r).length ≤ r.len + 8 ∧ ∀ x r', m r = .ok x r' → 8 * (passes r).length + r'.len ≤ r.len

theorem SampleDecoder.workBounded {d : SampleDecoder η ρ σ} {wrap : σ → Item} (hhead : Onward d.unmarshal)
    (hrecord : ∀ format length, Onward (d.record format length)) : WorkBounded (d.item wrap) d.passes := by
  intro r
  cases hr : d.unmarshal r with
  | error f r' =>
    rw [SampleDecoder.passes_of_error hr]
    refine ⟨by simp, fun x r'' h => ?_⟩
    obtain ⟨s, r₁, hs, -⟩ := bind_eq_ok.mp h
    rw [mapError_eq_ok, SampleDecoder.decode_of_error hr] at hs
    cases hs
  | ok h r' =>
    have hlen := len_of_onward hhead hr
    obtain ⟨hall, hend⟩ := length_passes (recordPass_len hrecord) (d.recordsNo h).toNat r'
    rw [SampleDecoder.passes_of_ok hr]
    refine ⟨by omega, fun x r'' hx => ?_⟩
    obtain ⟨s, hs, -⟩ := bind_pure_eq_ok.mp hx
    rw [mapError_eq_ok] at hs
    obtain ⟨h', r₂, records, hr', hloop, -⟩ := SampleDecoder.decode_eq_ok hs
    rw [hr, EStateM.Result.ok.injEq] at hr'
    obtain ⟨rfl, rfl⟩ := hr'
    rw [hloop] at hend
    have hdone : _ + r''.len ≤ r'.len := hend rfl
    omega

theorem decodeItem_workBounded (filter : List UInt32) (format length : UInt32) :
    WorkBounded (decodeItem filter format length) (itemPasses filter format) := by
  apply decodeItem_cases (motive := WorkBounded)
  · intro r
    refine ⟨by simp, fun x r' h => ?_⟩
    have := len_of_onward ((skips_seek length.toNat).onward.bind fun _ => (Forward.pure _).onward) h
    simpa using this
  · exact SampleDecoder.workBounded takes_flowSample.onward onward_flowRecord
  · exact SampleDecoder.workBounded takes_counterSample.onward onward_counterRecord
  · exact SampleDecoder.workBounded takes_expandedFlowSample.onward onward_flowRecord

theorem samplePass_ok_work {filter : List UInt32} (r : Reader) (x : Item) (r' : Reader)
    (h : samplePass filter r = .ok x r') : 8 + 8 * (recordPasses filter r).length + r'.len ≤ r.len := by
  cases hinfo : getSampleInfo r with
  | error f r₁ =>
    rw [samplePass_of_error hinfo] at h
    cases h
  | ok info r₁ =>
    obtain ⟨hlen, -, -, rfl⟩ := getSampleInfo_eq_ok hinfo
    rw [samplePass_of_info hinfo, mapError_eq_ok] at h
    have hitem := (decodeItem_workBounded filter info.1 info.2 _).2 x r' h
    rw [recordPasses_of_info hinfo]
    rw [Cursor.len_advance] at hitem
    omega

theorem samplePass_error_work {filter : List UInt32} (r : Reader) (f : SampleFailure) (r' : Reader)
    (_h : samplePass filter r = .error f r') : 8 * (recordPasses filter r).length ≤ r.len := by
  cases hinfo : getSampleInfo r with
  | error f r₁ =>
    rw [recordPasses_of_error hinfo]
    simp
  | ok info r₁ =>
    obtain ⟨hlen, -, -, rfl⟩ := getSampleInfo_eq_ok hinfo
    have hitem := (decodeItem_workBounded filter info.1 info.2 (r.advance 8)).1
    rw [recordPasses_of_info hinfo]
    rw [Cursor.len_advance] at hitem
    omega

theorem length_allPasses_le (filter : List UInt32) (b : List UInt8) :
    (allPasses filter b).length ≤ b.length / 8 + 1 := by
  unfold allPasses
  cases hhead : sfHeaderDecode 0 ⟨b, 0⟩ with
  | error f r =>
    rw [samplePasses_of_error hhead]
    simp
  | ok d r =>
    have hlen : r.len ≤ b.length := len_of_onward (onward_sfHeaderDecode 0) hhead
    have hwork := (passes_work (fun r => (recordPasses filter r).length) samplePass_ok_work samplePass_error_work
      d.samplesNo.toNat r).1
    have hsum : ((passes (samplePass filter) d.samplesNo.toNat r).flatMap
          fun p => p :: recordPasses filter p.1).length =
        ((passes (samplePass filter) d.samplesNo.toNat r).map fun p => 1 + (recordPasses filter p.1).length).sum := by
      rw [List.length_flatMap]
      congr 2
      funext p
      rw [List.length_cons, Nat.add_comm]
    rw [samplePasses_of_ok hhead, hsum]
    omega

/-! ## What is returned -/

def Outcome.size : Outcome → Nat
  | .returned (some d) _ => d.samples.length + d.counters.length
  | .returned none _ => 0
  | .panicked _ => 0

theorem length_filterMap_items (items : List Item) :
    (items.filterMap fun | .sample s => some s | _ => none).length +
      (items.filterMap fun | .counter s => some s | _ => none).length ≤ items.length := by
  induction items with
  | nil => simp
  | cons item items ih => cases item <;> simp <;> omega

theorem size_foldl_append {d : SFDatagram} (hs : d.samples = []) (hc : d.counters = []) (items : List Item) :
    (items.foldl SFDatagram.append d).samples.length + (items.foldl SFDatagram.append d).counters.length ≤
      items.length := by
  rw [foldl_append, hs, hc]
  exact length_filterMap_items items

theorem size_outcome_le {d : SFDatagram} {n : Nat} (f : Failure) (h : d.samples.length + d.counters.length ≤ n) :
    (f.outcome (some d)).size ≤ n := by
  cases f with
  | err e => exact h
  | panic p => exact Nat.zero_le n

theorem size_outcome_none (f : Failure) : (f.outcome none).size = 0 := by
  cases f <;> rfl

theorem size_sfDecode_le (filter : List UInt32) (now : Int) (b : List UInt8) :
    (sfDecode filter now b).size ≤ b.length / 8 := by
  unfold sfDecode
  cases hhead : sfHeaderDecode now ⟨b, 0⟩ with
  | error f r => exact (size_outcome_none f).trans_le (Nat.zero_le _)
  | ok d r =>
    obtain ⟨hs, hc⟩ := sfHeaderDecode_empty hhead
    have hlen : r.len ≤ b.length := len_of_onward (onward_sfHeaderDecode now) hhead
    have hitems := many_length (m := samplePass filter) 8
      (fun c x c' h => by have := samplePass_ok_work c x c' h; omega) d.samplesNo.toNat r
    obtain ⟨items, err, r', hloop⟩ :
        ∃ items err r', many (samplePass filter) d.samplesNo.toNat r = (items, err, r') := ⟨_, _, _, rfl⟩
    rw [hloop] at hitems
    have hsize : (items.foldl SFDatagram.append d).samples.length +
        (items.foldl SFDatagram.append d).counters.length ≤ b.length / 8 := by
      have := size_foldl_append hs hc items
      have : 8 * items.length ≤ r.len := hitems
      omega
    dsimp only
    rw [hloop]
    cases err with
    | none => exact hsize
    | some f =>
      cases f with
      | info f => exact (size_outcome_none f).trans_le (Nat.zero_le _)
      | sample f => exact size_outcome_le f hsize

/-! ## Positions -/

theorem count_of_mem_passes {β ε : Type} {m : Scan ε UInt8 β} (hm : Onward m) {n : Nat} {r : Reader}
    {p : Reader × Reader} (hp : p ∈ passes m n r) : p.1.count ≤ p.2.count := by
  obtain ⟨k, hk⟩ := hm p.1
  rw [← final_of_mem_passes hp, hk, Cursor.advance_count]
  exact Nat.le_add_right _ _

theorem SampleDecoder.count_of_mem_passes {d : SampleDecoder η ρ σ}
    (hrecord : ∀ format length, Onward (d.record format length)) {r : Reader} {p : Reader × Reader}
    (hp : p ∈ d.passes r) : p.1.count ≤ p.2.count := by
  cases hr : d.unmarshal r with
  | error f r' =>
    rw [SampleDecoder.passes_of_error hr] at hp
    exact absurd hp List.not_mem_nil
  | ok h r' =>
    rw [SampleDecoder.passes_of_ok hr] at hp
    exact Sflow.count_of_mem_passes (onward_recordPass hrecord) hp

theorem count_of_mem_recordPasses {filter : List UInt32} {r : Reader} {p : Reader × Reader}
    (hp : p ∈ recordPasses filter r) : p.1.count ≤ p.2.count := by
  cases hinfo : getSampleInfo r with
  | error f r' =>
    rw [recordPasses_of_error hinfo] at hp
    exact absurd hp List.not_mem_nil
  | ok info r' =>
    rw [recordPasses_of_info hinfo] at hp
    revert p
    apply decodeItem_cases (motive := fun _ passes => ∀ {p}, p ∈ passes r' → p.1.count ≤ p.2.count) filter info.1 info.2
    · exact fun hp => absurd hp List.not_mem_nil
    · exact SampleDecoder.count_of_mem_passes onward_flowRecord
    · exact SampleDecoder.count_of_mem_passes onward_counterRecord
    · exact SampleDecoder.count_of_mem_passes onward_flowRecord

theorem count_of_mem_allPasses {filter : List UInt32} {b : List UInt8} {p : Reader × Reader}
    (hp : p ∈ allPasses filter b) : p.1.count ≤ p.2.count := by
  obtain ⟨q, hq, hp⟩ := List.mem_flatMap.mp hp
  obtain rfl | hp := List.mem_cons.mp hp
  · cases hhead : sfHeaderDecode 0 ⟨b, 0⟩ with
    | error f r =>
      rw [samplePasses_of_error hhead] at hq
      exact absurd hq List.not_mem_nil
    | ok d r =>
      rw [samplePasses_of_ok hhead] at hq
      exact count_of_mem_passes (onward_samplePass filter) hq
  · exact count_of_mem_recordPasses hp

/-- All loops together make at most one pass for every eight bytes and one more, what is returned has at
most one sample or counter for every eight bytes, and no pass moves the reader backwards. -/
theorem work_bounded (filter : List UInt32) (now : Int) (b : List UInt8) :
    (allPasses filter b).length ≤ b.length / 8 + 1 ∧ (sfDecode filter now b).size ≤ b.length / 8 ∧
      ∀ p ∈ allPasses filter b, p.1.count ≤ p.2.count :=
  ⟨length_allPasses_le filter b, size_sfDecode_le filter now b, fun _ hp => count_of_mem_allPasses hp⟩

end VFlow.Sflow
