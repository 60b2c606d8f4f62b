import VFlow.Base.Cut
import VFlow.Sflow.Framing
import VFlow.Sflow.Values

/-!
# What the decoder makes of a datagram, whole or cut off

For every record, sample and datagram of the wire format: how the decoder ends on its first `k` bytes. A
known record is read field by field, so that a cut is noticed. An unknown record and a sample that is
filtered or not known are passed over by their length, so that a cut in them is not. A sampled header of
which at least one byte is there is completed with zeros and decoded; its verdict is that of the package
`packet` on the completed header.
-/

namespace VFlow.Sflow

open Scan BigEndian

/-- How a failure ends the decoding: with an error that is returned, or with a panic. -/
inductive Ending where
  | error
  | panic
  deriving DecidableEq, Repr

def Failure.ending : Failure → Ending
  | .err _ => .error
  | .panic _ => .panic

theorem ending_of_returned (f : Failure) (h : Returned f) : f.ending = .error := by
  obtain ⟨e, rfl⟩ := h
  rfl

/-- The verdict for a unit, by the verdict for its body. -/
def unitVerdict (v : Nat → Option Ending) (k : Nat) : Option Ending := if k < 8 then some .error else v (k - 8)

theorem judges_recordPass {ρ : Type} {record : UInt32 → UInt32 → ReadM ρ} {format : UInt32} {body : List UInt8}
    {v : Nat → Option Ending}
    (h : Judges Failure.ending (record format (UInt32.ofNat body.length)) body v) :
    Judges (fun g => g.failure.ending) (recordPass record) (unit format body) (unitVerdict v) := by
  have hshort : ∀ g, (∃ e, g = RecordFailure.header (.err e)) → g.failure.ending = .error := by
    intro g ⟨e, hg⟩
    rw [hg]
    rfl
  have hbody : Judges (fun g => g.failure.ending)
      (mapError RecordFailure.body (record format (UInt32.ofNat body.length))) body v :=
    h.mapError fun _ => rfl
  have hlength := Judges.bind (f := fun length => mapError .body (record format length))
    ((parses_uint32 (UInt32.ofNat body.length)).mapError .header) takes_header.needs hshort hbody
  have hformat := Judges.bind (f := fun format => do
      let length ← mapError .header uint32
      mapError .body (record format length))
    ((parses_uint32 format).mapError .header) takes_header.needs hshort hlength
  have hv : unitVerdict v = fun k => if k < 4 then some .error else
      if k - 4 < 4 then some .error else v (k - 4 - 4) := by
    funext k
    unfold unitVerdict
    rw [Nat.sub_sub]
    split_ifs <;> first | rfl | omega
  rw [unit, List.append_assoc, hv]
  exact hformat

/-! ## Flow records -/

/-- The verdict of the package `packet` on a sampled header. -/
def frameVerdict (protocol : UInt32) (header : List UInt8) : Option Ending :=
  match decodeHeader header protocol with
  | .ok _ => none
  | .error f => some f.ending

/-- The verdict for the first `k` bytes of a sampled header and the fields in front of it. -/
def headerVerdict (protocol : UInt32) (header padding : List UInt8) (k : Nat) : Option Ending :=
  if k ≤ 16 ∨ 1500 < header.length then some .error
  else frameVerdict protocol (completed header.length ((header ++ padding).take (k - 16)))

/-- The verdict for the first `k` bytes of a body of fixed length. -/
def fixedVerdict (length k : Nat) : Option Ending := if k < length then some .error else none

/-- The verdict for the first `k` bytes of the body of a flow record. -/
def WireFlowRecord.verdict : WireFlowRecord → Nat → Option Ending
  | rawHeader protocol _ _ header padding => headerVerdict protocol header padding
  | unknown _ _ => fun _ => none
  | r => fixedVerdict r.body.length

theorem decodeSampledHeader_ends (protocol frameLength stripped : UInt32) {len : Nat} (hlen : len < 2 ^ 32)
    (w : List UInt8) (n : Nat) :
    Ends Failure.ending (· = Cursor.advance ⟨w, n + 16⟩ (min ((len + 3) / 4 * 4) w.length))
      (if w = [] ∨ 1500 < len then some .error else frameVerdict protocol (completed len w))
      (decodeSampledHeader ⟨headerFields protocol frameLength stripped (UInt32.ofNat len) ++ w, n⟩) := by
  split_ifs with hbad
  · have hnot : Cursor.len ⟨headerFields protocol frameLength stripped (UInt32.ofNat len) ++ w, n⟩ ≤ 16 ∨
        BigEndian.uint32 ((headerFields protocol frameLength stripped (UInt32.ofNat len) ++ w).drop 12) > 1500 := by
      obtain hw | hlong := hbad
      · rw [hw]
        exact Or.inl (Nat.le_refl _)
      · refine Or.inr ?_
        rw [show BigEndian.uint32 ((headerFields protocol frameLength stripped (UInt32.ofNat len) ++ w).drop 12) =
          UInt32.ofNat len from uint32_put _ w, gt_iff_lt, UInt32.lt_iff_toNat_lt, toNat_ofNat_of_lt hlen]
        exact hlong
    obtain ⟨e, r', he⟩ := decodeSampledHeader_of_not hnot
    exact ⟨_, r', he, rfl⟩
  · rw [not_or, Nat.not_lt] at hbad
    rw [decodeSampledHeader_at hbad.1 hbad.2]
    unfold frameVerdict
    cases decodeHeader (completed len w) protocol with
    | ok p => exact ⟨p, _, rfl, rfl⟩
    | error f => exact ⟨f, _, rfl, rfl⟩

theorem frameVerdict_nil (protocol : UInt32) : frameVerdict protocol [] = some .error := by
  obtain ⟨e, he⟩ := decodeHeader_nil protocol
  unfold frameVerdict
  rw [he]
  rfl

theorem completed_whole (header padding : List UInt8) :
    completed header.length ((header ++ padding).take (16 + (header.length + padding.length) - 16)) = header := by
  rw [List.take_of_length_le (by simp), completed_of_le (by simp), List.take_left]

section rawHeader

variable {protocol frameLength stripped : UInt32} {header padding : List UInt8}

theorem rawHeader_body : (WireFlowRecord.rawHeader protocol frameLength stripped header padding).body =
    headerFields protocol frameLength stripped (UInt32.ofNat header.length) ++ (header ++ padding) := rfl

theorem length_rawHeader : (WireFlowRecord.rawHeader protocol frameLength stripped header padding).body.length =
    16 + (header.length + padding.length) := by
  rw [rawHeader_body, List.length_append, length_headerFields, List.length_append]

theorem decodeSampledHeader_whole (hlen : header.length < 2 ^ 32)
    (hpad : header.length + padding.length = (header.length + 3) / 4 * 4) (rest : List UInt8) (n : Nat) :
    Ends Failure.ending (· = ⟨rest, n + (16 + (header.length + padding.length))⟩)
      (headerVerdict protocol header padding (16 + (header.length + padding.length)))
      (decodeSampledHeader ⟨headerFields protocol frameLength stripped (UInt32.ofNat header.length) ++
        ((header ++ padding) ++ rest), n⟩) := by
  have hends := decodeSampledHeader_ends protocol frameLength stripped hlen ((header ++ padding) ++ rest) n
  have hfull : completed header.length ((header ++ padding) ++ rest) = header := by
    rw [completed_of_le (by simp), List.append_assoc, List.take_left]
  have hend : Cursor.advance ⟨(header ++ padding) ++ rest, n + 16⟩
      (min ((header.length + 3) / 4 * 4) ((header ++ padding) ++ rest).length) =
      ⟨rest, n + (16 + (header.length + padding.length))⟩ := by
    rw [← hpad, Nat.min_eq_left (by simp), ← List.length_append, Cursor.advance]
    simp [Nat.add_assoc]
  rw [hfull, hend] at hends
  unfold headerVerdict
  rw [completed_whole]
  by_cases hnil : header = []
  · have hpnil : padding = [] := by
      rw [hnil] at hpad
      exact List.length_eq_zero_iff.mp (by simpa using hpad)
    rw [hnil, hpnil] at hends ⊢
    rw [frameVerdict_nil] at hends
    simp only [List.length_nil, Nat.add_zero, Nat.le_refl, true_or, if_true]
    split_ifs at hends
    · exact hends
    · exact hends
  · have hpos : 0 < header.length := List.length_pos_iff.mpr hnil
    have hne : (header ++ padding) ++ rest ≠ [] := by simp [hnil]
    rw [if_congr (or_congr (iff_of_false (by omega) hne) Iff.rfl) rfl rfl]
    exact hends

theorem decodeSampledHeader_cut (hlen : header.length < 2 ^ 32)
    (hpad : header.length + padding.length = (header.length + 3) / 4 * 4) {k : Nat} (hfields : ¬ k ≤ 16)
    (hk : k < 16 + (header.length + padding.length)) (n : Nat) :
    Ends Failure.ending (fun c => c.data = []) (headerVerdict protocol header padding k)
      (decodeSampledHeader ⟨headerFields protocol frameLength stripped (UInt32.ofNat header.length) ++
        (header ++ padding).take (k - 16), n⟩) := by
  have hlength : ((header ++ padding).take (k - 16)).length = k - 16 := by
    rw [List.length_take, List.length_append]
    omega
  have hne : (header ++ padding).take (k - 16) ≠ [] := by
    intro h
    rw [h, List.length_nil] at hlength
    omega
  have hends := decodeSampledHeader_ends protocol frameLength stripped hlen ((header ++ padding).take (k - 16)) n
  unfold headerVerdict
  rw [if_congr (or_congr (iff_of_false hfields hne) Iff.rfl) rfl rfl]
  refine hends.imp fun c hc => ?_
  rw [hc, Cursor.advance_data, Nat.min_eq_right (by omega)]
  exact List.drop_eq_nil_of_le (Nat.le_refl _)

theorem judges_rawHeader (hok : (WireFlowRecord.rawHeader protocol frameLength stripped header padding).Ok) :
    Judges Failure.ending decodeSampledHeader
      (WireFlowRecord.rawHeader protocol frameLength stripped header padding).body
      (headerVerdict protocol header padding) := by
  obtain ⟨hlen, hpad⟩ := hok
  rw [length_rawHeader] at hlen
  dsimp only at hpad
  refine ⟨fun rest n => ?_, fun k hk n => ?_⟩
  · rw [length_rawHeader, rawHeader_body, List.append_assoc]
    exact decodeSampledHeader_whole (by omega) hpad rest n
  · rw [length_rawHeader] at hk
    by_cases hfields : k ≤ 16
    · rw [headerVerdict, if_pos (Or.inl hfields)]
      obtain ⟨e, r', he⟩ := decodeSampledHeader_of_not
        (r := ⟨(WireFlowRecord.rawHeader protocol frameLength stripped header padding).body.take k, n⟩)
        (Or.inl (by rw [Cursor.len_mk, List.length_take]; omega))
      exact ⟨_, r', he, rfl⟩
    · rw [rawHeader_body, List.take_append, List.take_of_length_le (by rw [length_headerFields]; omega),
        length_headerFields]
      exact decodeSampledHeader_cut (by omega) hpad hfields hk n

end rawHeader

theorem takes_extRouterData {l : UInt32} (h : 12 ≤ l.toNat) : Takes Returned (ExtRouterData.unmarshal l) l.toNat := by
  have hsize := bufferSize_extRouterData l
  rw [if_pos (by omega)] at hsize
  have htakes : Takes Returned (ExtRouterData.unmarshal l) ((ExtRouterData.bufferSize l).toNat + 8) := by
    refine (takes_binaryRead _).bind_of_ok fun r buff r' hbuff => ?_
    obtain ⟨hlen, rfl⟩ := (takes_binaryRead _).of_ok hbuff
    rw [binaryRead_of_le hlen, EStateM.Result.ok.injEq] at hbuff
    have hbuff4 : 4 ≤ buff.length := by
      rw [← hbuff.1, List.length_take, show r.data.length = r.len from rfl]
      omega
    rw [sliceFrom_of_le hbuff4, pure_bind]
    exact takes_uint32.bind fun _ => takes_uint32.bind fun _ => Takes.pure _
  rwa [hsize, Nat.sub_add_cancel (by omega)] at htakes

theorem judges_fixed {β : Type} {m : ReadM β} {w : List UInt8} {k : Nat} (h : Takes Returned m k) (hk : w.length = k) :
    Judges Failure.ending m w (fixedVerdict w.length) :=
  Takes.judges (by rw [hk]; exact h) ending_of_returned

theorem judges_flowRecord {r : WireFlowRecord} (hok : r.Ok) :
    Judges Failure.ending (flowRecord r.format (UInt32.ofNat r.body.length)) r.body r.verdict := by
  have hlen := hok.1
  match r with
  | .rawHeader protocol frameLength stripped header padding => exact (judges_rawHeader hok).bind_pure _
  | .extSwitch a b c d => exact (judges_fixed takes_extSwitchData rfl).bind_pure _
  | .extRouter addressType nextHop srcMask dstMask =>
    have hsize : 12 ≤ (WireFlowRecord.extRouter addressType nextHop srcMask dstMask).body.length := by
      simp only [WireFlowRecord.body, List.length_append, length_putUint32]
      omega
    have htakes := takes_extRouterData (l := UInt32.ofNat (WireFlowRecord.extRouter addressType nextHop srcMask
      dstMask).body.length) (by rw [toNat_ofNat_of_lt hlen]; exact hsize)
    rw [toNat_ofNat_of_lt hlen] at htakes
    exact (judges_fixed htakes rfl).bind_pure _
  | .unknown format content =>
    obtain ⟨-, hraw, hswitch, hrouter⟩ := hok
    show Judges _ (flowRecord format (UInt32.ofNat content.length)) content fun _ => none
    unfold flowRecord
    rw [if_neg hraw, if_neg hswitch, if_neg hrouter, toNat_ofNat_of_lt (show content.length < 2 ^ 32 from hlen)]
    exact ((skips_seek content.length).judges _).bind_pure _

/-! ## Counter records -/

/-- The verdict for the first `k` bytes of the body of a counter record. -/
def WireCounterRecord.verdict : WireCounterRecord → Nat → Option Ending
  | unknown _ _ => fun _ => none
  | r => fixedVerdict r.body.length

theorem judges_counterRecord {r : WireCounterRecord} (hok : r.Ok) :
    Judges Failure.ending (counterRecord r.format (UInt32.ofNat r.body.length)) r.body r.verdict := by
  match r with
  | .genInt d => exact (judges_fixed takes_genericInterfaceCounters d.length_encode).bind_pure _
  | .ethInt d => exact (judges_fixed takes_ethernetInterfaceCounters d.length_encode).bind_pure _
  | .trInt d => exact (judges_fixed takes_tokenRingCounters d.length_encode).bind_pure _
  | .vgInt d => exact (judges_fixed takes_vgCounters d.length_encode).bind_pure _
  | .vlan d => exact (judges_fixed takes_vlanCounters d.length_encode).bind_pure _
  | .proc d => exact (judges_fixed takes_processorCounters d.length_encode).bind_pure _
  | .unknown format content =>
    obtain ⟨hlen, hformat⟩ := hok
    simp only [List.mem_cons, List.not_mem_nil, or_false, not_or] at hformat
    obtain ⟨h₁, h₂, h₃, h₄, h₅, h₆⟩ := hformat
    show Judges _ (counterRecord format (UInt32.ofNat content.length)) content fun _ => none
    unfold counterRecord
    rw [if_neg h₁, if_neg h₂, if_neg h₃, if_neg h₄, if_neg h₅, if_neg h₆, toNat_ofNat_of_lt hlen]
    exact ((skips_seek content.length).judges _).bind_pure _

/-! ## Samples -/

/-- The verdict for the first `k` bytes of a body of `fields` bytes followed by records. -/
def recordsVerdict {τ : Type} (word : τ → List UInt8) (verdict : τ → Nat → Option Ending) (fields : Nat)
    (records : List τ) (k : Nat) : Option Ending :=
  if k < fields then some .error
  else cutVerdict word (fun t => unitVerdict (verdict t)) .error records (k - fields)

section SampleDecoder
variable {η ρ σ τ : Type} {d : SampleDecoder η ρ σ} {wrap : σ → Item}

/-- The reading of a sample, with the records kept as a list. -/
def SampleDecoder.scan (d : SampleDecoder η ρ σ) : ReadM (List ρ) := do
  let h ← d.unmarshal
  mapError RecordFailure.failure (times (recordPass d.record) (d.recordsNo h).toNat)

theorem SampleDecoder.item_ends {P : Reader → Prop} {v : Option Ending} {r : Reader}
    (h : Ends Failure.ending P v (d.scan r)) : Ends Failure.ending P v (d.item wrap r) := by
  apply Ends.bind_pure
  unfold SampleDecoder.scan at h
  rw [bind_apply] at h
  cases hr : d.unmarshal r with
  | error f r' =>
    rw [hr] at h
    rw [mapError_of_error (SampleDecoder.decode_of_error hr)]
    cases v with
    | none => exact absurd h (by intro ⟨x, c, hx, _⟩; cases hx)
    | some g =>
      obtain ⟨e, c, he, hg⟩ := h
      rw [EStateM.Result.error.injEq] at he
      exact ⟨f, r', rfl, by rw [he.1, hg]⟩
  | ok head r' =>
    rw [hr] at h
    dsimp only at h
    have hmany := many_eq_times (recordPass d.record) (d.recordsNo head).toNat r'
    cases ht : times (recordPass d.record) (d.recordsNo head).toNat r' with
    | ok xs c =>
      rw [ht] at hmany
      rw [mapError_of_ok ht] at h
      rw [mapError_of_ok (SampleDecoder.decode_of_none hr (Prod.ext rfl hmany))]
      cases v with
      | none =>
        obtain ⟨ys, c', hy, hP⟩ := h
        rw [EStateM.Result.ok.injEq] at hy
        exact ⟨_, c, rfl, by rw [hy.2]; exact hP⟩
      | some g => exact absurd h (by intro ⟨x, c, hx, _⟩; cases hx)
    | error f c =>
      rw [ht] at hmany
      rw [mapError_of_error ht] at h
      obtain ⟨s, hs⟩ := SampleDecoder.decode_of_some hr (Prod.ext rfl hmany)
      rw [mapError_of_error hs]
      cases v with
      | none => exact absurd h (by intro ⟨x, c, hx, _⟩; cases hx)
      | some g =>
        obtain ⟨e, c', he, hg⟩ := h
        rw [EStateM.Result.error.injEq] at he
        exact ⟨f.failure, c, rfl, by rw [he.1, hg]⟩

theorem recordPass_nil {record : UInt32 → UInt32 → ReadM ρ} (r : Reader) (h : r.data = []) :
    ∃ g r', recordPass record r = .error g r' ∧ g.failure.ending = .error := by
  obtain ⟨e, j, he⟩ := recordPass_of_lt record (show r.len < 8 by rw [Cursor.len, h]; decide)
  exact ⟨_, _, he, rfl⟩

theorem SampleDecoder.judges_item {u : List UInt8} {h : η} {records : List τ} {word : τ → List UInt8}
    {verdict : τ → Nat → Option Ending} (hhead : Parses d.unmarshal u h) (htakes : Takes Returned d.unmarshal u.length)
    (hno : (d.recordsNo h).toNat = records.length)
    (hrecords : ∀ t ∈ records, Judges (fun g => g.failure.ending) (recordPass d.record) (word t)
      (unitVerdict (verdict t))) :
    Judges Failure.ending (d.item wrap) (u ++ records.flatMap word) (recordsVerdict word verdict u.length records) := by
  have hloop : Judges Failure.ending (mapError RecordFailure.failure (times (recordPass d.record) records.length))
      (records.flatMap word) (cutVerdict word (fun t => unitVerdict (verdict t)) .error records) :=
    (Judges.times hrecords recordPass_nil).mapError fun _ => rfl
  rw [← hno] at hloop
  have hscan : Judges Failure.ending d.scan _ _ := Judges.bind hhead htakes.needs ending_of_returned hloop
  exact ⟨fun rest n => SampleDecoder.item_ends (hscan.whole rest n),
    fun k hk n => SampleDecoder.item_ends (hscan.cut k hk n)⟩

end SampleDecoder

/-- The verdict for the first `k` bytes of the body of a sample that is not filtered. -/
def WireSample.bodyVerdict : WireSample → Nat → Option Ending
  | flow s => recordsVerdict WireFlowRecord.encode WireFlowRecord.verdict 32 s.records
  | counter s => recordsVerdict WireCounterRecord.encode WireCounterRecord.verdict 12 s.records
  | other _ _ => fun _ => none

/-- The verdict for the first `k` bytes of a sample. One of another enterprise is refused before its length is
read, and so it cannot be filtered. -/
def WireSample.verdict (filter : List UInt32) (s : WireSample) : Nat → Option Ending :=
  if s.type >>> 12 ≠ 0 then fun _ => some .error
  else unitVerdict (if isFilterMatch filter s.type then fun _ => none else s.bodyVerdict)

theorem judges_decodeItem {filter : List UInt32} {s : WireSample} (hok : s.Ok)
    (hfilter : ¬ isFilterMatch filter s.type) :
    Judges Failure.ending (decodeItem filter s.type (UInt32.ofNat s.body.length)) s.body s.bodyVerdict := by
  unfold decodeItem
  rw [if_neg hfilter]
  match s with
  | .flow s =>
    obtain ⟨-, -, hno, hrecords⟩ := hok
    exact SampleDecoder.judges_item (parses_flowSample s) takes_flowSample (toNat_ofNat_of_lt hno)
      fun r hr => judges_recordPass (judges_flowRecord (hrecords r hr))
  | .counter s =>
    obtain ⟨-, hidx, hno, hrecords⟩ := hok
    exact SampleDecoder.judges_item (parses_counterSample hidx) takes_counterSample (toNat_ofNat_of_lt hno)
      fun r hr => judges_recordPass (judges_counterRecord (hrecords r hr))
  | .other type content =>
    obtain ⟨hlen, hflow, hcounter, hexpanded⟩ := hok
    have htype : (WireSample.other type content).type = type := rfl
    rw [htype, if_neg hflow, if_neg hcounter, if_neg hexpanded, toNat_ofNat_of_lt hlen]
    exact ((skips_seek content.length).judges _).bind_pure _

theorem needs_getSampleInfo : Needs Returned getSampleInfo 8 := by
  intro r hr
  obtain ⟨e, j, he⟩ := getSampleInfo_of_lt hr
  exact ⟨_, _, he, e, rfl⟩

theorem judges_samplePass_of_body {filter : List UInt32} {type : UInt32} {body : List UInt8} {v : Nat → Option Ending}
    (hent : type >>> 12 = 0)
    (h : Judges Failure.ending (decodeItem filter type (UInt32.ofNat body.length)) body v) :
    Judges (fun g => g.failure.ending) (samplePass filter) (unit type body) (unitVerdict v) := by
  have hbody : Judges (fun g => g.failure.ending)
      (mapError SampleFailure.sample (decodeItem filter type (UInt32.ofNat body.length))) body v :=
    h.mapError fun _ => rfl
  have hshort : ∀ g, Returned (SampleFailure.failure g) → g.failure.ending = .error :=
    fun g hg => ending_of_returned _ hg
  exact Judges.bind (f := fun info => mapError .sample (decodeItem filter info.1 info.2))
    ((parses_getSampleInfo hent (UInt32.ofNat body.length)).mapError .info)
    (needs_getSampleInfo.mapError fun f hf => hf) hshort hbody

theorem judges_filtered {filter : List UInt32} {type : UInt32} {body : List UInt8} (hlen : body.length < 2 ^ 32)
    (hfilter : isFilterMatch filter type) :
    Judges Failure.ending (decodeItem filter type (UInt32.ofNat body.length)) body fun _ => none := by
  unfold decodeItem
  rw [if_pos hfilter, toNat_ofNat_of_lt hlen]
  exact ((skips_seek body.length).judges _).bind_pure _

theorem samplePass_enterprise {filter : List UInt32} {r : Reader}
    (hent : 4 ≤ r.len → BigEndian.uint32 r.data >>> 12 ≠ 0) :
    ∃ g r', samplePass filter r = .error g r' ∧ g.failure.ending = .error := by
  by_cases hlen : 4 ≤ r.len
  · exact ⟨_, _, samplePass_of_error (getSampleInfo_of_enterprise hlen (hent hlen)), rfl⟩
  · obtain ⟨e, j, he⟩ := getSampleInfo_of_lt (show r.len < 8 by omega)
    exact ⟨_, _, samplePass_of_error he, rfl⟩

theorem judges_enterprise {filter : List UInt32} {type : UInt32} {body : List UInt8} (hent : type >>> 12 ≠ 0) :
    Judges (fun g => g.failure.ending) (samplePass filter) (unit type body) fun _ => some .error := by
  refine ⟨fun rest n => samplePass_enterprise fun _ => ?_, fun k hk n => samplePass_enterprise fun h4 => ?_⟩
  · rw [unit, List.append_assoc, List.append_assoc, uint32_put]
    exact hent
  · have hk4 : 4 ≤ k := by
      rw [Cursor.len_mk, List.length_take] at h4
      omega
    dsimp only
    rw [unit, List.append_assoc, List.take_append, List.take_of_length_le (by simpa using hk4), uint32_put]
    exact hent

theorem samplePass_nil {filter : List UInt32} (r : Reader) (h : r.data = []) :
    ∃ g r', samplePass filter r = .error g r' ∧ g.failure.ending = .error :=
  samplePass_enterprise fun h4 => absurd h4 (by rw [Cursor.len, h]; decide)

theorem judges_samplePass {filter : List UInt32} {s : WireSample} (hok : s.Ok) :
    Judges (fun g => g.failure.ending) (samplePass filter) s.encode (s.verdict filter) := by
  unfold WireSample.verdict
  split_ifs with hent hfilter
  · exact judges_enterprise hent
  · exact judges_samplePass_of_body (not_not.mp hent) (judges_filtered hok.1 hfilter)
  · exact judges_samplePass_of_body (not_not.mp hent) (judges_decodeItem hok hfilter)

/-! ## Datagrams -/

theorem WireHeader.Ok.length_encode {h : WireHeader} (hok : h.Ok) (n : Nat) :
    (h.encode n).length = if h.ipVersion = 2 then 40 else 28 := by
  unfold WireHeader.Ok at hok
  simp only [WireHeader.encode, List.length_append, length_putUint32, hok]
  split_ifs <;> rfl

theorem sfHeaderDecode_cut {h : WireHeader} (hok : h.Ok) {n k : Nat} (hk : k < (h.encode n).length) (m : Nat) :
    ∃ f r, sfHeaderDecode 0 ⟨(h.encode n).take k, m⟩ = .error f r ∧ f.ending = .error := by
  cases hr : sfHeaderDecode 0 ⟨(h.encode n).take k, m⟩ with
  | error f r => exact ⟨f, r, rfl, ending_of_returned f (errs_sfHeaderDecode 0 _ _ _ hr)⟩
  | ok d r =>
    obtain ⟨hlen, -, -⟩ := sfHeaderDecode_end hr
    rw [Cursor.len_mk, List.length_take, Nat.min_eq_left (Nat.le_of_lt hk)] at hlen
    have hlength : headerLength ((h.encode n).take k) = (h.encode n).length := by
      have h8 : 8 ≤ k := by
        unfold headerLength at hlen
        split_ifs at hlen <;> omega
      have htake : ((h.encode n).take k).drop 4 = putUint32 h.ipVersion ++ ((h.encode n).drop 8).take (k - 4 - 4) := by
        rw [List.drop_take, show (h.encode n).drop 4 = putUint32 h.ipVersion ++ (h.encode n).drop 8 from rfl,
          List.take_append, List.take_of_length_le (by rw [length_putUint32]; omega), length_putUint32]
      unfold headerLength
      rw [htake, uint32_put, hok.length_encode]
    rw [hlength] at hlen
    omega

/-- The reading of a datagram, with what its samples add kept as a list. -/
def scanDatagram (filter : List UInt32) : ReadM (List Item) := do
  let d ← sfHeaderDecode 0
  mapError SampleFailure.failure (times (samplePass filter) d.samplesNo.toNat)

theorem failure_eq_of_ends {filter : List UInt32} {now : Int} {b : List UInt8} {P : Reader → Prop} {v : Option Ending}
    (h : Ends Failure.ending P v (scanDatagram filter ⟨b, 0⟩)) :
    (sfDecode filter now b).failure.map Failure.ending = v := by
  unfold scanDatagram at h
  rw [bind_apply] at h
  cases hhead : sfHeaderDecode 0 ⟨b, 0⟩ with
  | error f r =>
    rw [hhead] at h
    rw [failure_sfDecode_of_error hhead, Option.map_some]
    cases v with
    | none => exact absurd h (by intro ⟨x, c, hx, _⟩; cases hx)
    | some g =>
      obtain ⟨e, c, he, hg⟩ := h
      rw [EStateM.Result.error.injEq] at he
      rw [he.1, hg]
  | ok d r =>
    rw [hhead] at h
    dsimp only at h
    rw [failure_sfDecode_of_ok hhead, many_eq_times]
    cases ht : times (samplePass filter) d.samplesNo.toNat r with
    | ok xs c =>
      rw [mapError_of_ok ht] at h
      cases v with
      | none => rfl
      | some g => exact absurd h (by intro ⟨x, c, hx, _⟩; cases hx)
    | error f c =>
      rw [mapError_of_error ht] at h
      cases v with
      | none => exact absurd h (by intro ⟨x, c, hx, _⟩; cases hx)
      | some g =>
        obtain ⟨e, c', he, hg⟩ := h
        rw [EStateM.Result.error.injEq] at he
        rw [Option.map_some, Option.map_some, he.1, hg]

/-- The verdict for the first `k` bytes of a datagram. -/
def WireDatagram.verdict (filter : List UInt32) (d : WireDatagram) (k : Nat) : Option Ending :=
  let fields := (d.header.encode d.samples.length).length
  if k < fields then some .error
  else cutVerdict WireSample.encode (WireSample.verdict filter) .error d.samples (k - fields)

theorem judges_scanDatagram (filter : List UInt32) (d : WireDatagram) :
    Judges Failure.ending (scanDatagram filter) d.encode (d.verdict filter) := by
  have hloop : Judges Failure.ending (mapError SampleFailure.failure (times (samplePass filter) d.samples.length))
      (d.samples.flatMap WireSample.encode)
      (cutVerdict WireSample.encode (WireSample.verdict filter) .error d.samples) :=
    (Judges.times (fun s hs => judges_samplePass (d.samples_ok s hs)) samplePass_nil).mapError fun _ => rfl
  rw [d.encode_eq]
  refine Judges.bind_of_cut (parses_sfHeaderDecode d.header_ok d.samples.length 0)
    (fun k hk m => sfHeaderDecode_cut d.header_ok hk m) ?_
  show Judges _ (mapError SampleFailure.failure
    (times (samplePass filter) (UInt32.ofNat d.samples.length).toNat)) _ _
  rw [toNat_ofNat_of_lt d.samples_lt]
  exact hloop

end VFlow.Sflow
