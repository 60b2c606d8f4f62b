import VFlow.Sflow.Counter
import VFlow.Sflow.Flow

/-!
# The sFlow decoder

`sflow/decoder.go`: the header of a datagram and the loop over its samples. A sample is a type, a length
and a body; the body is read by the decoder of its format, and passed over by its length when the format
is filtered or not known. An error of the type or the length makes `SFDecode` return nil, an error of the
body the datagram with the samples before it. The time of collection is a parameter.

The passes of the sample loop and of the record loops in it are what the statements about positions and
about the work done are made of; they are not part of the decoder.
-/

namespace VFlow.Sflow

open Scan

/-- What `Samples` of a datagram can hold. -/
inductive Sample where
  | flow (s : FlowSample)
  | expanded (s : ExpandedFlowSample)
  deriving DecidableEq, Repr

structure SFDatagram where
  version : UInt32
  ipVersion : UInt32
  agentSubID : UInt32
  sequenceNo : UInt32
  sysUpTime : UInt32
  samplesNo : UInt32
  samples : List Sample := []
  counters : List CounterSample := []
  ipAddress : IP
  colTime : Int
  deriving DecidableEq, Repr

def dataFlowSample : UInt32 := 1
def dataCounterSample : UInt32 := 2
def dataExpandedFlowSample : UInt32 := 3

/-! ## The functions -/

def sfHeaderDecode (now : Int) : ReadM SFDatagram := do
  let version ← uint32
  if version ≠ 5 then throw (.err .errSFVersionNotSupport)
  else
    let ipVersion ← uint32
    let ipAddress ← rawRead (if ipVersion = 2 then 16 else 4)
    let agentSubID ← uint32
    let sequenceNo ← uint32
    let sysUpTime ← uint32
    let samplesNo ← uint32
    return { version, ipVersion, agentSubID, sequenceNo, sysUpTime, samplesNo, ipAddress, colTime := now }

def getSampleInfo : ReadM (UInt32 × UInt32) := do
  let sfType ← uint32
  if sfType >>> 12 ≠ 0 then do
    -- the length is not read yet, so that nothing is passed over
    seek 0
    throw (.err .errNoneEnterpriseStandard)
  else do
    let sfDataLength ← mapError (fun _ => .err .errDataLengthUnknown) uint32
    return (sfType &&& 0xfff, sfDataLength)

def isFilterMatch (filter : List UInt32) (f : UInt32) : Bool := filter.any (· = f)

/-- What a pass of the sample loop appends to the datagram. -/
inductive Item where
  | sample (s : Sample)
  | counter (s : CounterSample)
  | skipped
  deriving DecidableEq, Repr

def SFDatagram.append (d : SFDatagram) : Item → SFDatagram
  | .sample s => { d with samples := d.samples ++ [s] }
  | .counter s => { d with counters := d.counters ++ [s] }
  | .skipped => d

inductive SampleFailure where
  | info (f : Failure)
  | sample (f : Failure)
  deriving DecidableEq, Repr

def SampleFailure.failure : SampleFailure → Failure
  | info f => f
  | sample f => f

def decodeItem (filter : List UInt32) (sfTypeFormat sfDataLength : UInt32) : ReadM Item :=
  if isFilterMatch filter sfTypeFormat then do
    seek sfDataLength.toNat
    return .skipped
  else if sfTypeFormat = dataFlowSample then do
    let d ← mapError Stop.failure decodeFlowSample
    return .sample (.flow d)
  else if sfTypeFormat = dataCounterSample then do
    let d ← mapError Stop.failure decodeFlowCounter
    return .counter d
  else if sfTypeFormat = dataExpandedFlowSample then do
    let d ← mapError Stop.failure decodeExpandedFlowSample
    return .sample (.expanded d)
  else do
    seek sfDataLength.toNat
    return .skipped

def samplePass (filter : List UInt32) : Scan SampleFailure UInt8 Item := do
  let info ← mapError .info getSampleInfo
  mapError .sample (decodeItem filter info.1 info.2)

/-- The values that `SFDecode` returns, unless it panics. -/
inductive Outcome where
  | returned (datagram : Option SFDatagram) (err : Option Error)
  | panicked (p : Panic)
  deriving DecidableEq, Repr

def Failure.outcome (d : Option SFDatagram) : Failure → Outcome
  | .err e => .returned d (some e)
  | .panic p => .panicked p

def Outcome.failure : Outcome → Option Failure
  | .returned _ err => err.map .err
  | .panicked p => some (.panic p)

def sfDecode (filter : List UInt32) (now : Int) (b : List UInt8) : Outcome :=
  match sfHeaderDecode now ⟨b, 0⟩ with
  | .error f _ => f.outcome none
  | .ok datagram r =>
    match many (samplePass filter) datagram.samplesNo.toNat r with
    | (items, none, _) => .returned (some (items.foldl SFDatagram.append datagram)) none
    | (_, some (.info f), _) => f.outcome none
    | (items, some (.sample f), _) => f.outcome (some (items.foldl SFDatagram.append datagram))

/-! ## The passes of the loops -/

def samplePasses (filter : List UInt32) (b : List UInt8) : List (Reader × Reader) :=
  match sfHeaderDecode 0 ⟨b, 0⟩ with
  | .error _ _ => []
  | .ok datagram r => passes (samplePass filter) datagram.samplesNo.toNat r

/-- The passes of the record loop in the body of a sample. -/
def itemPasses (filter : List UInt32) (sfTypeFormat : UInt32) (r : Reader) : List (Reader × Reader) :=
  if isFilterMatch filter sfTypeFormat then []
  else if sfTypeFormat = dataFlowSample then flowDecoder.passes r
  else if sfTypeFormat = dataCounterSample then counterDecoder.passes r
  else if sfTypeFormat = dataExpandedFlowSample then expandedDecoder.passes r
  else []

/-- The passes of the record loop of a sample that starts at `r`. -/
def recordPasses (filter : List UInt32) (r : Reader) : List (Reader × Reader) :=
  match getSampleInfo r with
  | .error _ _ => []
  | .ok info r' => itemPasses filter info.1 r'

/-- Every pass of every loop that `SFDecode` enters. -/
def allPasses (filter : List UInt32) (b : List UInt8) : List (Reader × Reader) :=
  (samplePasses filter b).flatMap fun p => p :: recordPasses filter p.1

/-! ## The header of a datagram -/

theorem sfHeaderDecode_eq (now : Int) :
    sfHeaderDecode now = (do
      let d ← sfHeaderDecode 0
      return { d with colTime := now }) := by
  unfold sfHeaderDecode
  simp only [bind_assoc]
  congr 1
  funext version
  split_ifs
  · rfl
  · simp only [bind_assoc, pure_bind]

theorem sfHeaderDecode_of_ok {now : Int} {r r' : Reader} {d : SFDatagram} (h : sfHeaderDecode 0 r = .ok d r') :
    sfHeaderDecode now r = .ok { d with colTime := now } r' := by
  rw [sfHeaderDecode_eq, bind_apply, h]
  rfl

theorem sfHeaderDecode_of_error {now : Int} {r r' : Reader} {f : Failure} (h : sfHeaderDecode 0 r = .error f r') :
    sfHeaderDecode now r = .error f r' := by
  rw [sfHeaderDecode_eq, bind_apply, h]

theorem sfHeaderDecode_empty {now : Int} {r r' : Reader} {d : SFDatagram} (h : sfHeaderDecode now r = .ok d r') :
    d.samples = [] ∧ d.counters = [] := by
  unfold sfHeaderDecode at h
  obtain ⟨version, r₁, -, h⟩ := bind_eq_ok.mp h
  split_ifs at h with hv
  · cases h
  · obtain ⟨_, _, -, h⟩ := bind_eq_ok.mp h
    obtain ⟨_, _, -, h⟩ := bind_eq_ok.mp h
    obtain ⟨_, _, -, h⟩ := bind_eq_ok.mp h
    obtain ⟨_, _, -, h⟩ := bind_eq_ok.mp h
    obtain ⟨_, _, -, h⟩ := bind_eq_ok.mp h
    obtain ⟨_, _, -, h⟩ := bind_eq_ok.mp h
    rw [pure_apply, EStateM.Result.ok.injEq] at h
    rw [← h.1]
    exact ⟨rfl, rfl⟩

theorem onward_sfHeaderDecode (now : Int) : Onward (sfHeaderDecode now) := by
  refine takes_uint32.onward.bind fun version => ?_
  split_ifs
  · exact (Forward.throw _).onward
  · exact takes_uint32.onward.bind fun _ => (onward_rawRead _).bind fun _ => takes_uint32.onward.bind fun _ =>
      takes_uint32.onward.bind fun _ => takes_uint32.onward.bind fun _ => takes_uint32.onward.bind fun _ =>
      (Forward.pure _).onward

theorem errs_sfHeaderDecode (now : Int) : Errs (sfHeaderDecode now) := by
  refine (errs_of_takes takes_uint32).bind fun version => ?_
  split_ifs
  · exact errs_throw _
  · exact (errs_of_takes takes_uint32).bind fun _ => (errs_rawRead _).bind fun _ =>
      (errs_of_takes takes_uint32).bind fun _ => (errs_of_takes takes_uint32).bind fun _ =>
      (errs_of_takes takes_uint32).bind fun _ => (errs_of_takes takes_uint32).bind fun _ => errs_pure _

/-! ## The header of a sample -/

theorem getSampleInfo_of_le {r : Reader} (h : 8 ≤ r.len) (hent : BigEndian.uint32 r.data >>> 12 = 0) :
    getSampleInfo r =
      .ok (BigEndian.uint32 r.data &&& 0xfff, BigEndian.uint32 (r.data.drop 4)) (r.advance 8) := by
  have h4 : 4 ≤ (r.advance 4).len := by
    rw [Cursor.len_advance]
    omega
  unfold getSampleInfo
  rw [bind_apply, uint32_of_le (show 4 ≤ r.len by omega)]
  dsimp only
  rw [if_neg (not_not.mpr hent), bind_apply, mapError_of_ok (uint32_of_le h4)]
  dsimp only
  rw [pure_apply, Cursor.advance_advance, Cursor.advance_data]

theorem getSampleInfo_of_enterprise {r : Reader} (h : 4 ≤ r.len) (hent : BigEndian.uint32 r.data >>> 12 ≠ 0) :
    getSampleInfo r = .error (.err .errNoneEnterpriseStandard) (r.advance 4) := by
  unfold getSampleInfo
  rw [bind_apply, uint32_of_le h]
  dsimp only
  rw [if_pos hent, bind_apply]
  show EStateM.Result.error _ ((r.advance 4).advance 0) = _
  rw [Cursor.advance_zero]

theorem getSampleInfo_of_lt {r : Reader} (h : r.len < 8) :
    ∃ e j, getSampleInfo r = .error (.err e) (r.advance j) := by
  by_cases h4 : 4 ≤ r.len
  · by_cases hent : BigEndian.uint32 r.data >>> 12 = 0
    · obtain ⟨f, j, he, -⟩ := (takes_uint32 (r.advance 4)).2 (by rw [Cursor.len_advance]; omega)
      refine ⟨.errDataLengthUnknown, 4 + j, ?_⟩
      unfold getSampleInfo
      rw [bind_apply, uint32_of_le h4]
      dsimp only
      rw [if_neg (not_not.mpr hent), bind_apply, mapError_of_error he, Cursor.advance_advance]
    · exact ⟨_, 4, getSampleInfo_of_enterprise h4 hent⟩
  · obtain ⟨f, j, he, e, rfl⟩ := (takes_uint32 r).2 (by omega)
    refine ⟨e, j, ?_⟩
    unfold getSampleInfo
    rw [bind_apply, he]

theorem getSampleInfo_eq_ok {r r' : Reader} {info : UInt32 × UInt32} (h : getSampleInfo r = .ok info r') :
    8 ≤ r.len ∧ BigEndian.uint32 r.data >>> 12 = 0 ∧
      info = (BigEndian.uint32 r.data &&& 0xfff, BigEndian.uint32 (r.data.drop 4)) ∧ r' = r.advance 8 := by
  by_cases hlen : 8 ≤ r.len
  · by_cases hent : BigEndian.uint32 r.data >>> 12 = 0
    · rw [getSampleInfo_of_le hlen hent, EStateM.Result.ok.injEq] at h
      exact ⟨hlen, hent, h.1.symm, h.2.symm⟩
    · rw [getSampleInfo_of_enterprise (by omega) hent] at h
      cases h
  · obtain ⟨e, j, he⟩ := getSampleInfo_of_lt (show r.len < 8 by omega)
    rw [he] at h
    cases h

theorem and_of_shiftRight_eq_zero {sfType : UInt32} (h : sfType >>> 12 = 0) : sfType &&& 0xfff = sfType := by
  have hdiv : sfType.toNat >>> 12 = 0 := by
    have := congrArg UInt32.toNat h
    rwa [UInt32.toNat_shiftRight] at this
  apply UInt32.toNat_inj.mp
  rw [UInt32.toNat_and, show (0xfff : UInt32).toNat = 2 ^ 12 - 1 from rfl, Nat.and_two_pow_sub_one_eq_mod]
  rw [Nat.shiftRight_eq_div_pow] at hdiv
  omega

theorem getSampleInfo_eq_error {r r' : Reader} {f : Failure} (h : getSampleInfo r = .error f r') : ∃ e, f = .err e := by
  by_cases hlen : 8 ≤ r.len
  · by_cases hent : BigEndian.uint32 r.data >>> 12 = 0
    · rw [getSampleInfo_of_le hlen hent] at h
      cases h
    · rw [getSampleInfo_of_enterprise (by omega) hent, EStateM.Result.error.injEq] at h
      exact ⟨_, h.1.symm⟩
  · obtain ⟨e, j, he⟩ := getSampleInfo_of_lt (show r.len < 8 by omega)
    rw [he, EStateM.Result.error.injEq] at h
    exact ⟨e, h.1.symm⟩

theorem onward_getSampleInfo : Onward getSampleInfo := by
  refine takes_uint32.onward.bind fun sfType => ?_
  split_ifs
  · exact (skips_seek 0).onward.bind fun _ => (Forward.throw _).onward
  · exact takes_uint32.onward.mapError.bind fun _ => (Forward.pure _).onward

/-! ## The body of a sample -/

def SampleDecoder.item {η ρ σ : Type} (d : SampleDecoder η ρ σ) (wrap : σ → Item) : ReadM Item := do
  let s ← mapError Stop.failure d.decode
  return wrap s

theorem decodeItem_cases {motive : ReadM Item → (Reader → List (Reader × Reader)) → Prop} (filter : List UInt32)
    (format length : UInt32)
    (skip : motive (do seek length.toNat; return .skipped) fun _ => [])
    (flow : motive (flowDecoder.item fun s => .sample (.flow s)) flowDecoder.passes)
    (counter : motive (counterDecoder.item .counter) counterDecoder.passes)
    (expanded : motive (expandedDecoder.item fun s => .sample (.expanded s)) expandedDecoder.passes) :
    motive (decodeItem filter format length) (itemPasses filter format) := by
  unfold decodeItem itemPasses
  split_ifs
  · exact skip
  · exact flow
  · exact counter
  · exact expanded
  · exact skip

theorem onward_decodeItem (filter : List UInt32) (format length : UInt32) :
    Onward (decodeItem filter format length) := by
  apply decodeItem_cases (motive := fun m _ => Onward m)
  · exact (skips_seek _).onward.bind fun _ => (Forward.pure _).onward
  · exact (SampleDecoder.onward_decode takes_flowSample.onward onward_flowRecord).mapError.bind fun _ =>
      (Forward.pure _).onward
  · exact (SampleDecoder.onward_decode takes_counterSample.onward onward_counterRecord).mapError.bind fun _ =>
      (Forward.pure _).onward
  · exact (SampleDecoder.onward_decode takes_expandedFlowSample.onward onward_flowRecord).mapError.bind fun _ =>
      (Forward.pure _).onward

/-! ## The sample loop -/

theorem samplePass_of_info {filter : List UInt32} {r r' : Reader} {info : UInt32 × UInt32}
    (h : getSampleInfo r = .ok info r') :
    samplePass filter r = mapError .sample (decodeItem filter info.1 info.2) r' := by
  unfold samplePass
  rw [bind_apply, mapError_of_ok h]

theorem samplePass_of_error {filter : List UInt32} {r r' : Reader} {f : Failure} (h : getSampleInfo r = .error f r') :
    samplePass filter r = .error (.info f) r' := by
  unfold samplePass
  rw [bind_apply, mapError_of_error h]

theorem recordPasses_of_info {filter : List UInt32} {r r' : Reader} {info : UInt32 × UInt32}
    (h : getSampleInfo r = .ok info r') : recordPasses filter r = itemPasses filter info.1 r' := by
  unfold recordPasses
  rw [h]

theorem recordPasses_of_error {filter : List UInt32} {r r' : Reader} {f : Failure}
    (h : getSampleInfo r = .error f r') : recordPasses filter r = [] := by
  unfold recordPasses
  rw [h]

theorem onward_samplePass (filter : List UInt32) : Onward (samplePass filter) :=
  onward_getSampleInfo.mapError.bind fun _ => (onward_decodeItem _ _ _).mapError

theorem samplePasses_of_ok {filter : List UInt32} {b : List UInt8} {d : SFDatagram} {r : Reader}
    (h : sfHeaderDecode 0 ⟨b, 0⟩ = .ok d r) :
    samplePasses filter b = passes (samplePass filter) d.samplesNo.toNat r := by
  unfold samplePasses
  rw [h]

theorem samplePasses_of_error {filter : List UInt32} {b : List UInt8} {f : Failure} {r : Reader}
    (h : sfHeaderDecode 0 ⟨b, 0⟩ = .error f r) : samplePasses filter b = [] := by
  unfold samplePasses
  rw [h]

theorem final_of_mem_samplePasses {filter : List UInt32} {b : List UInt8} {p : Reader × Reader}
    (hp : p ∈ samplePasses filter b) : final (samplePass filter p.1) = p.2 := by
  cases h : sfHeaderDecode 0 ⟨b, 0⟩ with
  | error f r =>
    rw [samplePasses_of_error h] at hp
    exact absurd hp List.not_mem_nil
  | ok d r =>
    rw [samplePasses_of_ok h] at hp
    exact final_of_mem_passes hp

theorem failure_outcome (d : Option SFDatagram) (f : Failure) : (f.outcome d).failure = some f := by
  cases f <;> rfl

theorem failure_sfDecode_of_error {filter : List UInt32} {now : Int} {b : List UInt8} {f : Failure} {r : Reader}
    (h : sfHeaderDecode 0 ⟨b, 0⟩ = .error f r) : (sfDecode filter now b).failure = some f := by
  unfold sfDecode
  rw [sfHeaderDecode_of_error h]
  exact failure_outcome none f

theorem failure_sfDecode_of_ok {filter : List UInt32} {now : Int} {b : List UInt8} {d : SFDatagram} {r : Reader}
    (h : sfHeaderDecode 0 ⟨b, 0⟩ = .ok d r) :
    (sfDecode filter now b).failure =
      (many (samplePass filter) d.samplesNo.toNat r).2.1.map SampleFailure.failure := by
  unfold sfDecode
  rw [sfHeaderDecode_of_ok h]
  dsimp only
  obtain ⟨items, err, r', hloop⟩ :
      ∃ items err r', many (samplePass filter) d.samplesNo.toNat r = (items, err, r') := ⟨_, _, _, rfl⟩
  rw [hloop]
  match err with
  | none => rfl
  | some (.info f) => exact failure_outcome _ f
  | some (.sample f) => exact failure_outcome _ f

theorem failure_sfDecode_iff {filter : List UInt32} {now : Int} {b : List UInt8} {f : Failure} :
    (sfDecode filter now b).failure = some f ↔
      (∃ r, sfHeaderDecode 0 ⟨b, 0⟩ = .error f r) ∨
        ∃ p ∈ samplePasses filter b, ∃ g, samplePass filter p.1 = .error g p.2 ∧ g.failure = f := by
  cases h : sfHeaderDecode 0 ⟨b, 0⟩ with
  | error f' r =>
    rw [failure_sfDecode_of_error h, samplePasses_of_error h]
    simp
  | ok d r =>
    rw [failure_sfDecode_of_ok h, samplePasses_of_ok h, Option.map_eq_some_iff]
    simp only [many_error_iff, reduceCtorEq, exists_false, false_or]
    constructor
    · intro ⟨g, ⟨p, hp, hg⟩, hf⟩
      exact ⟨p, hp, g, hg, hf⟩
    · intro ⟨p, hp, g, hg, hf⟩
      exact ⟨g, ⟨p, hp, hg⟩, hf⟩

theorem foldl_append (items : List Item) (d : SFDatagram) :
    items.foldl SFDatagram.append d =
      { d with
        samples := d.samples ++ items.filterMap fun | .sample s => some s | _ => none
        counters := d.counters ++ items.filterMap fun | .counter s => some s | _ => none } := by
  induction items generalizing d with
  | nil => simp
  | cons item items ih =>
    rw [List.foldl_cons, ih]
    cases item <;> simp [SFDatagram.append]

end VFlow.Sflow
