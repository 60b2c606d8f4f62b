import VFlow.Sflow.Reader

/-!
# Record loops

`decodeFlowSample`, `decodeExpandedFlowSample` and `decodeFlowCounter` have one shape: the fields of the
sample, then a loop over as many records as the sample says it has. Each record is a format, a length
and a body. An error of the format or the length makes the function return nil, an error of the body the
sample with the records before it. What the three differ in is a `SampleDecoder`.
-/

namespace VFlow.Sflow

open Scan

variable {η ρ σ : Type}

inductive RecordFailure where
  | header (f : Failure)
  | body (f : Failure)
  deriving DecidableEq, Repr

def RecordFailure.failure : RecordFailure → Failure
  | header f => f
  | body f => f

/-- A failure, and the sample that is returned with it. -/
structure Stop (σ : Type) where
  sample : Option σ
  failure : Failure

def recordPass (record : UInt32 → UInt32 → ReadM ρ) : Scan RecordFailure UInt8 ρ := do
  let rTypeFormat ← mapError .header uint32
  let rTypeLength ← mapError .header uint32
  mapError .body (record rTypeFormat rTypeLength)

structure SampleDecoder (η ρ σ : Type) where
  unmarshal : ReadM η
  recordsNo : η → UInt32
  /-- The body of a record with a format and a length. -/
  record : UInt32 → UInt32 → ReadM ρ
  sample : η → List ρ → σ

namespace SampleDecoder

variable (d : SampleDecoder η ρ σ)

def decode : Scan (Stop σ) UInt8 σ := fun r =>
  match d.unmarshal r with
  | .error f r' => .error ⟨none, f⟩ r'
  | .ok h r' =>
    match many (recordPass d.record) (d.recordsNo h).toNat r' with
    | (records, none, r'') => .ok (d.sample h records) r''
    | (_, some (.header f), r'') => .error ⟨none, f⟩ r''
    | (records, some (.body f), r'') => .error ⟨some (d.sample h records), f⟩ r''

/-- The passes of the record loop of a sample whose fields start at `r`. -/
def passes (r : Reader) : List (Reader × Reader) :=
  match d.unmarshal r with
  | .error _ _ => []
  | .ok h r' => Scan.passes (recordPass d.record) (d.recordsNo h).toNat r'

end SampleDecoder

/-! ## One pass -/

section recordPass
variable {record : UInt32 → UInt32 → ReadM ρ}

theorem takes_header : Takes (fun f => ∃ e, f = RecordFailure.header (.err e)) (mapError .header uint32) 4 := by
  refine takes_uint32.mapError fun f hf => ?_
  obtain ⟨e, he⟩ := hf
  exact ⟨e, by rw [he]⟩

theorem recordPass_of_le {r : Reader} (h : 8 ≤ r.len) :
    recordPass record r =
      mapError .body (record (BigEndian.uint32 r.data) (BigEndian.uint32 (r.data.drop 4))) (r.advance 8) := by
  have h4 : 4 ≤ (r.advance 4).len := by
    rw [Cursor.len_advance]
    omega
  unfold recordPass
  rw [bind_apply, mapError_of_ok (uint32_of_le (show 4 ≤ r.len by omega))]
  dsimp only
  rw [bind_apply, mapError_of_ok (uint32_of_le h4)]
  dsimp only
  rw [Cursor.advance_advance, Cursor.advance_data]

theorem recordPass_of_lt (record : UInt32 → UInt32 → ReadM ρ) {r : Reader} (h : r.len < 8) :
    ∃ e j, recordPass record r = .error (.header (.err e)) (r.advance j) := by
  unfold recordPass
  rw [bind_apply]
  by_cases h4 : 4 ≤ r.len
  · obtain ⟨_, j, he, e, rfl⟩ := (takes_header (r.advance 4)).2 (by rw [Cursor.len_advance]; omega)
    rw [mapError_of_ok (uint32_of_le h4)]
    dsimp only
    rw [bind_apply, he, Cursor.advance_advance]
    exact ⟨e, 4 + j, rfl⟩
  · obtain ⟨_, j, he, e, rfl⟩ := (takes_header r).2 (by omega)
    rw [he]
    exact ⟨e, j, rfl⟩

theorem recordPass_eq_ok {r r' : Reader} {x : ρ} : recordPass record r = .ok x r' ↔
    8 ≤ r.len ∧
      record (BigEndian.uint32 r.data) (BigEndian.uint32 (r.data.drop 4)) (r.advance 8) = .ok x r' := by
  by_cases h : 8 ≤ r.len
  · rw [recordPass_of_le h, mapError_eq_ok]
    exact ⟨fun hx => ⟨h, hx⟩, fun hx => hx.2⟩
  · obtain ⟨e, j, he⟩ := recordPass_of_lt record (show r.len < 8 by omega)
    rw [he]
    exact ⟨fun hx => (by cases hx), fun hx => absurd hx.1 h⟩

theorem onward_recordPass (hrecord : ∀ format length, Onward (record format length)) :
    Onward (recordPass record) :=
  takes_header.onward.bind fun _ => takes_header.onward.bind fun _ => (hrecord _ _).mapError

end recordPass

/-! ## The loop -/

namespace SampleDecoder

variable {d : SampleDecoder η ρ σ} {r : Reader}

theorem decode_of_error {f : Failure} {r' : Reader} (h : d.unmarshal r = .error f r') :
    d.decode r = .error ⟨none, f⟩ r' := by
  unfold decode
  rw [h]

theorem passes_of_ok {h : η} {r' : Reader} (hr : d.unmarshal r = .ok h r') :
    d.passes r = Scan.passes (recordPass d.record) (d.recordsNo h).toNat r' := by
  unfold passes
  rw [hr]

theorem passes_of_error {f : Failure} {r' : Reader} (h : d.unmarshal r = .error f r') : d.passes r = [] := by
  unfold passes
  rw [h]

theorem decode_of_none {h : η} {r' r'' : Reader} {records : List ρ} (hr : d.unmarshal r = .ok h r')
    (hloop : many (recordPass d.record) (d.recordsNo h).toNat r' = (records, none, r'')) :
    d.decode r = .ok (d.sample h records) r'' := by
  unfold decode
  simp only [hr, hloop]

theorem decode_of_some {h : η} {r' r'' : Reader} {records : List ρ} {f : RecordFailure}
    (hr : d.unmarshal r = .ok h r')
    (hloop : many (recordPass d.record) (d.recordsNo h).toNat r' = (records, some f, r'')) :
    ∃ s, d.decode r = .error ⟨s, f.failure⟩ r'' := by
  unfold decode
  simp only [hr, hloop]
  cases f with
  | header f => exact ⟨none, rfl⟩
  | body f => exact ⟨some (d.sample h records), rfl⟩

theorem decode_eq_ok {s : σ} {r'' : Reader} (hs : d.decode r = .ok s r'') :
    ∃ h r' records, d.unmarshal r = .ok h r' ∧
      many (recordPass d.record) (d.recordsNo h).toNat r' = (records, none, r'') ∧ s = d.sample h records := by
  cases hr : d.unmarshal r with
  | error f r' =>
    rw [decode_of_error hr] at hs
    cases hs
  | ok h r' =>
    obtain ⟨records, err, r₂, hloop⟩ :
        ∃ records err r₂, many (recordPass d.record) (d.recordsNo h).toNat r' = (records, err, r₂) :=
      ⟨_, _, _, rfl⟩
    cases err with
    | some f =>
      obtain ⟨s', hs'⟩ := decode_of_some hr hloop
      rw [hs'] at hs
      cases hs
    | none =>
      rw [decode_of_none hr hloop, EStateM.Result.ok.injEq] at hs
      obtain ⟨rfl, rfl⟩ := hs
      exact ⟨h, r', records, rfl, hloop, rfl⟩

theorem decode_error_iff {f : Failure} :
    (∃ s r', d.decode r = .error ⟨s, f⟩ r') ↔
      (∃ r', d.unmarshal r = .error f r') ∨
        ∃ p ∈ d.passes r, ∃ g, recordPass d.record p.1 = .error g p.2 ∧ g.failure = f := by
  cases hr : d.unmarshal r with
  | error f' r' =>
    rw [decode_of_error hr, passes_of_error hr]
    simp
  | ok h r' =>
    obtain ⟨records, err, r₂, hloop⟩ :
        ∃ records err r₂, many (recordPass d.record) (d.recordsNo h).toNat r' = (records, err, r₂) :=
      ⟨_, _, _, rfl⟩
    -- the error of the loop is the error of one of its passes
    have hpass : ∀ g, (∃ p ∈ d.passes r, recordPass d.record p.1 = .error g p.2) ↔ err = some g := by
      intro g
      rw [passes_of_ok hr, ← many_error_iff, hloop]
    simp only [reduceCtorEq, exists_false, false_or]
    cases err with
    | none =>
      rw [decode_of_none hr hloop]
      simp only [reduceCtorEq, exists_false, false_iff, not_exists, not_and]
      intro p hp g hg
      have := (hpass g).mp ⟨p, hp, hg⟩
      cases this
    | some g =>
      obtain ⟨s, hs⟩ := decode_of_some hr hloop
      rw [hs]
      simp only [EStateM.Result.error.injEq, Stop.mk.injEq]
      constructor
      · intro ⟨_, _, ⟨_, hf⟩, _⟩
        obtain ⟨p, hp, hg⟩ := (hpass g).mpr rfl
        exact ⟨p, hp, g, hg, hf⟩
      · intro ⟨p, hp, g', hg', hf⟩
        have hgg := Option.some.inj ((hpass g').mp ⟨p, hp, hg'⟩)
        rw [← hgg] at hf
        exact ⟨s, r₂, ⟨rfl, hf⟩, rfl⟩

theorem onward_decode (hhead : Onward d.unmarshal) (hrecord : ∀ format length, Onward (d.record format length)) :
    Onward d.decode := by
  intro r
  cases hr : d.unmarshal r with
  | error f r' =>
    rw [decode_of_error hr]
    exact hhead.of_error hr
  | ok h r' =>
    obtain ⟨j, hj⟩ := hhead.of_ok hr
    obtain ⟨k, hk⟩ := many_onward (onward_recordPass hrecord) (d.recordsNo h).toNat r'
    refine ⟨j + k, ?_⟩
    obtain ⟨records, err, r₂, hloop⟩ :
        ∃ records err r₂, many (recordPass d.record) (d.recordsNo h).toNat r' = (records, err, r₂) :=
      ⟨_, _, _, rfl⟩
    rw [hloop, hj, Cursor.advance_advance] at hk
    rw [← hk]
    cases err with
    | none => rw [decode_of_none hr hloop, final_ok]
    | some f =>
      obtain ⟨s, hs⟩ := decode_of_some hr hloop
      rw [hs, final_error]

end SampleDecoder

end VFlow.Sflow
