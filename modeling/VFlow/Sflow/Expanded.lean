import VFlow.Sflow.RoundTrip

/-!
# Expanded flow samples

In an expanded flow sample of sFlow version 5 the type and the index of the data source have a word each.
`ExpandedFlowSample.unmarshal` reads the data source from one word, as in a flow sample, so that it takes
ten words for the eleven there are: every field after the data source gets the value of the word in front
of it, the number of records is the output interface, and the records are read from the word that holds
their number on.

`AcceptedRecords` says which bytes the record loop accepts, and as what. With it the samples that come back
nevertheless are those in which all of these words are the number of records and the bytes from that number
on happen to be as many records again.
-/

namespace VFlow.Sflow

open Scan BigEndian

/-! ## What the record loop accepts -/

/-- The body of a record of a format and a declared length, with `following` after it, and what it is read as.
Only the length of an unknown record is believed, and that of the address of a router. A sampled header may
be cut off by the end of the input. -/
inductive AcceptedBody (following : List UInt8) : UInt32 → UInt32 → List UInt8 → FlowRecord → Prop
  | rawHeader {length : UInt32} {body : List UInt8} {p : Packet} (hlong : 16 < body.length)
      (hmax : BigEndian.uint32 (body.drop 12) ≤ 1500)
      (hfits : body.length = 16 + ((BigEndian.uint32 (body.drop 12)).toNat + 3) / 4 * 4 ∨
        body.length < 16 + ((BigEndian.uint32 (body.drop 12)).toNat + 3) / 4 * 4 ∧ following = [])
      (hp : decodeHeader (completed (BigEndian.uint32 (body.drop 12)).toNat (body.drop 16))
        (BigEndian.uint32 body) = .ok p) :
      AcceptedBody following sfDataRawHeader length body (.rawHeader p)
  | extSwitch {length : UInt32} {body : List UInt8} (hlen : body.length = 16) :
      AcceptedBody following sfDataExtSwitch length body (.extSwitch {
        srcVlan := BigEndian.uint32 body
        srcPriority := BigEndian.uint32 (body.drop 12)
        dstVlan := BigEndian.uint32 (body.drop 8)
        dstPriority := 0 })
  | extRouter {length : UInt32} {address masks : List UInt8} (hsize : address.length = (length - 8).toNat)
      (hmin : 4 ≤ address.length) (hmasks : masks.length = 8) :
      AcceptedBody following sfDataExtRouter length (address ++ masks) (.extRouter {
        nextHop := address.drop 4
        srcMask := BigEndian.uint32 masks
        dstMask := BigEndian.uint32 (masks.drop 4) })
  | unknown {format length : UInt32} {body : List UInt8} (hraw : format ≠ sfDataRawHeader)
      (hswitch : format ≠ sfDataExtSwitch) (hrouter : format ≠ sfDataExtRouter) (hlen : body.length = length.toNat) :
      AcceptedBody following format length body .skipped

/-- The bytes of records one after the other, with `rest` after them, and what they are read as. -/
inductive AcceptedRecords (rest : List UInt8) : List UInt8 → List FlowRecord → Prop
  | nil : AcceptedRecords rest [] []
  | cons {u w : List UInt8} {x : FlowRecord} {xs : List FlowRecord} (hlen : 8 ≤ u.length)
      (hbody : AcceptedBody (w ++ rest) (BigEndian.uint32 u) (BigEndian.uint32 (u.drop 4)) (u.drop 8) x)
      (hrecords : AcceptedRecords rest w xs) : AcceptedRecords rest (u ++ w) (x :: xs)

theorem completed_append {n : Nat} {w v : List UInt8} (h : n ≤ w.length ∨ v = []) :
    completed n (w ++ v) = completed n w := by
  obtain h | rfl := h
  · rw [completed_of_le (by rw [List.length_append]; omega), completed_of_le h, List.take_append_of_le_length h]
  · rw [List.append_nil]

section records
variable {body following : List UInt8} {n : Nat}

variable (body following) in
/-- What is read of a body with the fields in front of a sampled header is not changed by what follows. -/
theorem headerFields_append (h : 16 ≤ body.length) :
    BigEndian.uint32 ((body ++ following).drop 12) = BigEndian.uint32 (body.drop 12) ∧
      BigEndian.uint32 (body ++ following) = BigEndian.uint32 body ∧
      (body ++ following).drop 16 = body.drop 16 ++ following :=
  ⟨uint32_drop_append (by omega), uint32_append (by omega), List.drop_append_of_le_length h⟩

theorem completed_of_fits {size : Nat}
    (hfits : body.length = 16 + (size + 3) / 4 * 4 ∨ body.length < 16 + (size + 3) / 4 * 4 ∧ following = []) :
    completed size (body.drop 16 ++ following) = completed size (body.drop 16) := by
  refine completed_append ?_
  obtain hlen | ⟨-, hnil⟩ := hfits
  · left
    rw [List.length_drop]
    omega
  · exact Or.inr hnil

theorem decodeSampledHeader_eq_ok_iff {p : Packet} (length : UInt32) :
    decodeSampledHeader ⟨body ++ following, n⟩ = .ok p ⟨following, n + body.length⟩ ↔
      AcceptedBody following sfDataRawHeader length body (.rawHeader p) := by
  constructor
  · intro h
    have hstart : 16 < (Cursor.mk (body ++ following) n).len ∧
        BigEndian.uint32 ((body ++ following).drop 12) ≤ 1500 := by
      by_contra hnot
      obtain ⟨e, r', he⟩ := decodeSampledHeader_of_not (r := ⟨body ++ following, n⟩) (by
        rw [not_and_or, Nat.not_lt, UInt32.not_le] at hnot
        exact hnot)
      rw [he] at h
      cases h
    obtain ⟨hlong, hmax⟩ := hstart
    rw [decodeSampledHeader_of_lt hlong hmax] at h
    rw [Cursor.len_mk, List.length_append] at hlong h
    dsimp only at h
    split at h
    case h_2 => cases h
    case h_1 p' hp =>
      rw [EStateM.Result.ok.injEq, Cursor.advance_append_iff] at h
      obtain ⟨rfl, hadvance⟩ := h
      obtain ⟨h12, h0, hdrop⟩ := headerFields_append body following (by omega)
      rw [h12] at hmax hadvance hp
      have hfits : body.length = 16 + ((BigEndian.uint32 (body.drop 12)).toNat + 3) / 4 * 4 ∨
          body.length < 16 + ((BigEndian.uint32 (body.drop 12)).toNat + 3) / 4 * 4 ∧ following = [] := by
        rw [← List.length_eq_zero_iff]
        omega
      rw [h0, hdrop, completed_of_fits hfits] at hp
      refine .rawHeader ?_ hmax hfits hp
      -- without a byte of the header there is nothing to decode
      by_contra hle
      have hzero : (BigEndian.uint32 (body.drop 12)).toNat = 0 := by omega
      obtain ⟨e, he⟩ := decodeHeader_nil (BigEndian.uint32 body)
      rw [hzero, show completed 0 (body.drop 16) = [] from rfl, he] at hp
      cases hp
  · intro h
    cases h with
    | rawHeader hlong hmax hfits hp =>
      obtain ⟨h12, h0, hdrop⟩ := headerFields_append body following (by omega)
      rw [decodeSampledHeader_of_lt (by rw [Cursor.len_mk, List.length_append]; omega) (by rw [h12]; exact hmax)]
      simp only [h12, h0, hdrop, completed_of_fits hfits, hp]
      rw [EStateM.Result.ok.injEq, Cursor.advance_append_iff, Cursor.len_mk, List.length_append]
      refine ⟨rfl, ?_⟩
      obtain hfits | ⟨hlt, hnil⟩ := hfits
      · omega
      · rw [hnil, List.length_nil]
        omega

theorem extSwitchData_of_le {r : Reader} (h : 16 ≤ r.len) :
    ExtSwitchData.unmarshal r = .ok {
      srcVlan := BigEndian.uint32 r.data
      srcPriority := BigEndian.uint32 (r.data.drop 12)
      dstVlan := BigEndian.uint32 (r.data.drop 8)
      dstPriority := 0 } (r.advance 16) := by
  unfold ExtSwitchData.unmarshal
  rw [bind_uint32_of_le (by omega), bind_uint32_at (by omega), bind_uint32_at (by omega), bind_uint32_at (by omega)]
  rfl

theorem extSwitchData_eq_ok_iff {d : ExtSwitchData} (length : UInt32) :
    ExtSwitchData.unmarshal ⟨body ++ following, n⟩ = .ok d ⟨following, n + body.length⟩ ↔
      AcceptedBody following sfDataExtSwitch length body (.extSwitch d) := by
  constructor
  · intro h
    obtain ⟨hle, hadvance⟩ := takes_extSwitchData.of_ok h
    have hlen : 16 = body.length := Cursor.advance_append_iff.mp hadvance.symm
    rw [extSwitchData_of_le hle, EStateM.Result.ok.injEq] at h
    rw [← h.1, uint32_append (by omega), uint32_drop_append (by omega), uint32_drop_append (by omega)]
    exact .extSwitch hlen.symm
  · intro h
    cases h with
    | extSwitch hlen =>
      rw [extSwitchData_of_le (by rw [Cursor.len_mk, List.length_append]; omega), uint32_append (by omega),
        uint32_drop_append (by omega), uint32_drop_append (by omega), Cursor.advance_append_iff.mpr hlen.symm]

theorem extRouterData_of_le {length : UInt32} {r : Reader} (hmin : 4 ≤ (length - 8).toNat)
    (h : (length - 8).toNat + 8 ≤ r.len) :
    ExtRouterData.unmarshal length r = .ok {
      nextHop := (r.data.take (length - 8).toNat).drop 4
      srcMask := BigEndian.uint32 (r.data.drop (length - 8).toNat)
      dstMask := BigEndian.uint32 (r.data.drop ((length - 8).toNat + 4)) } (r.advance ((length - 8).toNat + 8)) := by
  unfold ExtRouterData.unmarshal ExtRouterData.bufferSize
  rw [bind_apply, binaryRead_of_le (by omega)]
  dsimp only
  rw [sliceFrom_of_le (by rw [List.length_take, ← Cursor.len]; omega), pure_bind, bind_uint32_at (by omega),
    bind_uint32_at (by omega)]
  rfl

theorem extRouterData_eq_ok {length : UInt32} {r r' : Reader} {d : ExtRouterData}
    (h : ExtRouterData.unmarshal length r = .ok d r') :
    4 ≤ (length - 8).toNat ∧ (length - 8).toNat + 8 ≤ r.len := by
  obtain ⟨buff, c, hbuff, h⟩ := bind_eq_ok.mp h
  obtain ⟨hle, rfl⟩ := (takes_binaryRead _).of_ok hbuff
  rw [binaryRead_of_le hle, EStateM.Result.ok.injEq] at hbuff
  obtain ⟨rfl, -⟩ := hbuff
  obtain ⟨nextHop, c', hslice, h⟩ := bind_eq_ok.mp h
  unfold sliceFrom at hslice
  split_ifs at hslice with hmin
  · rw [pure_apply, EStateM.Result.ok.injEq] at hslice
    obtain ⟨-, rfl⟩ := hslice
    have htakes : Takes Returned (do
        let srcMask ← uint32
        let dstMask ← uint32
        return ({ nextHop, srcMask, dstMask } : ExtRouterData)) 8 :=
      takes_uint32.bind fun _ => takes_uint32.bind fun _ => Takes.pure _
    have hrest := (htakes.of_ok h).1
    rw [List.length_take] at hmin
    rw [Cursor.len_advance] at hrest
    unfold ExtRouterData.bufferSize at hle hmin hrest
    exact ⟨by omega, by omega⟩
  · cases hslice

theorem extRouterData_eq_ok_iff {d : ExtRouterData} (length : UInt32) :
    ExtRouterData.unmarshal length ⟨body ++ following, n⟩ = .ok d ⟨following, n + body.length⟩ ↔
      AcceptedBody following sfDataExtRouter length body (.extRouter d) := by
  constructor
  · intro h
    obtain ⟨hmin, hle⟩ := extRouterData_eq_ok h
    rw [extRouterData_of_le hmin hle, EStateM.Result.ok.injEq, Cursor.advance_append_iff] at h
    obtain ⟨rfl, hlen⟩ := h
    rw [List.take_append_of_le_length (by omega), uint32_drop_append (by omega), uint32_drop_append (by omega),
      ← List.drop_drop]
    nth_rewrite 1 [← List.take_append_drop (length - 8).toNat body]
    exact .extRouter (by rw [List.length_take]; omega) (by rw [List.length_take]; omega)
      (by rw [List.length_drop]; omega)
  · intro h
    cases h with
    | @extRouter _ address masks hsize hmin hmasks =>
      rw [extRouterData_of_le (by omega) (by rw [Cursor.len_mk, List.length_append, List.length_append]; omega),
        ← hsize, List.append_assoc, List.take_left, List.drop_left, uint32_append (by omega), ← List.drop_drop,
        List.drop_left, uint32_drop_append (by omega), ← List.append_assoc, Cursor.advance_append_iff.mpr]
      rw [List.length_append, hmasks]

theorem flowRecord_eq_ok_iff {format length : UInt32} {x : FlowRecord} :
    flowRecord format length ⟨body ++ following, n⟩ = .ok x ⟨following, n + body.length⟩ ↔
      AcceptedBody following format length body x := by
  unfold flowRecord
  split_ifs with hraw hswitch hrouter
  · rw [hraw, bind_pure_eq_ok]
    constructor
    · rintro ⟨p, hp, rfl⟩
      exact (decodeSampledHeader_eq_ok_iff length).mp hp
    · intro h
      cases h with
      | rawHeader hlong hmax hfits hp =>
        exact ⟨_, (decodeSampledHeader_eq_ok_iff length).mpr (.rawHeader hlong hmax hfits hp), rfl⟩
      | unknown h => exact absurd rfl h
  · rw [hswitch, bind_pure_eq_ok]
    constructor
    · rintro ⟨d, hd, rfl⟩
      exact (extSwitchData_eq_ok_iff length).mp hd
    · intro h
      cases h with
      | extSwitch hlen => exact ⟨_, (extSwitchData_eq_ok_iff length).mpr (.extSwitch hlen), rfl⟩
      | unknown _ h => exact absurd rfl h
  · rw [hrouter, bind_pure_eq_ok]
    constructor
    · rintro ⟨d, hd, rfl⟩
      exact (extRouterData_eq_ok_iff length).mp hd
    · intro h
      cases h with
      | extRouter hsize hmin hmasks =>
        exact ⟨_, (extRouterData_eq_ok_iff length).mpr (.extRouter hsize hmin hmasks), rfl⟩
      | unknown _ _ h => exact absurd rfl h
  · rw [bind_pure_eq_ok (f := fun _ => FlowRecord.skipped)]
    unfold seek
    simp only [EStateM.Result.ok.injEq, Cursor.advance_append_iff]
    constructor
    · rintro ⟨_, ⟨-, hlen⟩, rfl⟩
      exact .unknown hraw hswitch hrouter hlen.symm
    · intro h
      cases h with
      | rawHeader => exact absurd rfl hraw
      | extSwitch => exact absurd rfl hswitch
      | extRouter => exact absurd rfl hrouter
      | unknown _ _ _ hlen => exact ⟨(), ⟨trivial, hlen.symm⟩, rfl⟩

end records

theorem recordPass_eq_ok_iff {u v : List UInt8} {n : Nat} {x : FlowRecord} :
    recordPass flowRecord ⟨u ++ v, n⟩ = .ok x ⟨v, n + u.length⟩ ↔
      8 ≤ u.length ∧ AcceptedBody v (BigEndian.uint32 u) (BigEndian.uint32 (u.drop 4)) (u.drop 8) x := by
  rw [recordPass_eq_ok]
  constructor
  · rintro ⟨hle, h⟩
    -- the body does not move the cursor backward
    have hlen : 8 ≤ u.length := by
      obtain ⟨k, hk⟩ := (onward_flowRecord _ _).of_ok h
      have hcount : n + u.length = n + 8 + k := congrArg Cursor.count hk
      omega
    refine ⟨hlen, (flowRecord_eq_ok_iff (n := n + 8)).mp ?_⟩
    rw [← uint32_append (v := v) (by omega), ← uint32_drop_append (v := v) (by omega),
      ← List.drop_append_of_le_length hlen, List.length_drop, show n + 8 + (u.length - 8) = n + u.length by omega]
    exact h
  · rintro ⟨hlen, h⟩
    refine ⟨by rw [Cursor.len_mk, List.length_append]; omega, ?_⟩
    have hbody := (flowRecord_eq_ok_iff (n := n + 8)).mpr h
    rw [← uint32_append (v := v) (by omega), ← uint32_drop_append (v := v) (by omega),
      ← List.drop_append_of_le_length hlen, List.length_drop] at hbody
    rw [show n + u.length = n + 8 + (u.length - 8) by omega]
    exact hbody

/-- The loop reads the records of `w` and nothing else exactly when `w` consists of records. -/
theorem many_recordPass_iff {rest w : List UInt8} {k n : Nat} {xs : List FlowRecord} :
    many (recordPass flowRecord) k ⟨w ++ rest, n⟩ = (xs, none, ⟨rest, n + w.length⟩) ↔
      xs.length = k ∧ AcceptedRecords rest w xs := by
  constructor
  · intro h
    induction k generalizing w n xs with
    | zero =>
      rw [many, Prod.mk.injEq, Prod.mk.injEq] at h
      obtain ⟨rfl, -, h⟩ := h
      have hcount : n = n + w.length := congrArg Cursor.count h
      obtain rfl : w = [] := List.length_eq_zero_iff.mp (by omega)
      exact ⟨rfl, .nil⟩
    | succ k ih =>
      cases hpass : recordPass flowRecord ⟨w ++ rest, n⟩ with
      | error e c =>
        rw [many_of_error hpass] at h
        cases h
      | ok x c =>
        rw [many_of_ok hpass, Prod.mk.injEq] at h
        obtain ⟨rfl, h⟩ := h
        -- the first record ends within `w`, because the other ones do not go back
        obtain ⟨i, rfl⟩ := (onward_recordPass onward_flowRecord).of_ok hpass
        obtain ⟨j, hj⟩ := many_onward (onward_recordPass onward_flowRecord) k (Cursor.advance ⟨w ++ rest, n⟩ i)
        rw [h] at hj
        have hcount : n + w.length = n + i + j := congrArg Cursor.count hj
        obtain ⟨u, v, rfl, rfl⟩ : ∃ u v, u ++ v = w ∧ u.length = i :=
          ⟨w.take i, w.drop i, List.take_append_drop i w, by rw [List.length_take]; omega⟩
        have hcursor : Cursor.advance ⟨u ++ v ++ rest, n⟩ u.length = ⟨v ++ rest, n + u.length⟩ := by
          rw [List.append_assoc]
          exact Cursor.advance_append_iff.mpr rfl
        rw [hcursor] at h hpass ⊢
        rw [List.length_append, ← Nat.add_assoc] at h
        rw [List.append_assoc] at hpass
        obtain ⟨hle, hbody⟩ := recordPass_eq_ok_iff.mp hpass
        obtain ⟨hlen, hrecords⟩ := ih (Prod.ext rfl h)
        exact ⟨by rw [List.length_cons, hlen], .cons hle hbody hrecords⟩
  · rintro ⟨rfl, h⟩
    induction h generalizing n with
    | nil => rfl
    | @cons u w x xs hlen hbody _ ih =>
      have hpass := (recordPass_eq_ok_iff (n := n)).mpr ⟨hlen, hbody⟩
      rw [← List.append_assoc] at hpass
      rw [List.length_cons, many_of_ok hpass, ih, List.length_append, Nat.add_assoc]

/-! ## The sample -/

structure ExpandedSample where
  sequenceNo : UInt32
  sourceIDType : UInt32
  sourceIDIndex : UInt32
  samplingRate : UInt32
  samplePool : UInt32
  drops : UInt32
  inputFormat : UInt32
  input : UInt32
  outputFormat : UInt32
  output : UInt32
  records : List WireFlowRecord
  deriving DecidableEq, Repr

namespace ExpandedSample

variable (s : ExpandedSample)

def recordsNo : UInt32 := UInt32.ofNat s.records.length

def counted : List UInt8 := putUint32 s.recordsNo ++ s.records.flatMap WireFlowRecord.encode

def fields : List UInt8 :=
  putUint32 s.sequenceNo ++ (putUint32 s.sourceIDType ++ (putUint32 s.sourceIDIndex ++ (putUint32 s.samplingRate ++
    (putUint32 s.samplePool ++ (putUint32 s.drops ++ (putUint32 s.inputFormat ++ (putUint32 s.input ++
      (putUint32 s.outputFormat ++ putUint32 s.output))))))))

def body : List UInt8 := s.fields ++ s.counted

/-- What `unmarshal` makes of the fields: each word is taken for the one after it. -/
def misread : ExpandedFlowSample where
  sequenceNo := s.sequenceNo
  sourceID := (s.sourceIDType >>> 24).toUInt8
  samplingRate := s.sourceIDIndex
  samplePool := s.samplingRate
  drops := s.samplePool
  inputFormat := s.drops
  input := s.inputFormat
  outputFormat := s.input
  output := s.outputFormat
  recordsNo := s.output

theorem parses_misread : Parses ExpandedFlowSample.unmarshal s.fields s.misread := by
  have hsource : putUint32 s.sourceIDType = [(s.sourceIDType >>> 24).toUInt8] ++
      [(s.sourceIDType >>> 16).toUInt8, (s.sourceIDType >>> 8).toUInt8, s.sourceIDType.toUInt8] := rfl
  rw [← List.append_nil s.fields]
  unfold fields ExpandedFlowSample.unmarshal
  rw [hsource]
  simp only [List.append_assoc]
  exact (parses_uint32 _).bind <| (parses_uint8 _).bind <| (parses_seek [_, _, _] rfl).bind <|
    (parses_uint32 _).bind <| (parses_uint32 _).bind <| (parses_uint32 _).bind <| (parses_uint32 _).bind <|
    (parses_uint32 _).bind <| (parses_uint32 _).bind <| (parses_uint32 _).bind <|
    (parses_uint32 _).bind (Parses.pure _)

/-- The fields and records of the sample are in what was decoded. -/
def SameAs (x : ExpandedFlowSample) : Prop :=
  x.samplingRate = s.samplingRate ∧ x.samplePool = s.samplePool ∧ x.drops = s.drops ∧
    x.inputFormat = s.inputFormat ∧ x.input = s.input ∧ x.outputFormat = s.outputFormat ∧ x.output = s.output ∧
    x.recordsNo = s.recordsNo ∧ x.records = lastRecords s.records

instance : DecidablePred s.SameAs := fun _ =>
  inferInstanceAs (Decidable (_ = _ ∧ _ = _ ∧ _ = _ ∧ _ = _ ∧ _ = _ ∧ _ = _ ∧ _ = _ ∧ _ = _ ∧ _ = _))

/-- The words that are read one place too early. -/
def words : List UInt32 :=
  [s.sourceIDIndex, s.samplingRate, s.samplePool, s.drops, s.inputFormat, s.input, s.outputFormat, s.output]

theorem sameAs_misread_iff (records : FlowRecords) :
    s.SameAs { s.misread with records } ↔ (∀ v ∈ s.words, v = s.recordsNo) ∧ records = lastRecords s.records := by
  simp only [SameAs, misread, words, List.forall_mem_cons, List.not_mem_nil, false_imp_iff, implies_true, and_true]
  constructor
  · rintro ⟨h₁, h₂, h₃, h₄, h₅, h₆, h₇, h₈, h⟩
    rw [h₁, h₂, h₃, h₄, h₅, h₆, h₇, h₈]
    exact ⟨⟨rfl, rfl, rfl, rfl, rfl, rfl, rfl, rfl⟩, h⟩
  · rintro ⟨⟨h₁, h₂, h₃, h₄, h₅, h₆, h₇, h₈⟩, h⟩
    rw [h₁, h₂, h₃, h₄, h₅, h₆, h₇, h₈]
    exact ⟨rfl, rfl, rfl, rfl, rfl, rfl, rfl, rfl, h⟩

theorem decode_eq_ok_iff (rest : List UInt8) (n : Nat) (x : ExpandedFlowSample) :
    decodeExpandedFlowSample ⟨s.body ++ rest, n⟩ = .ok x ⟨rest, n + s.body.length⟩ ↔
      ∃ xs, (xs.length = s.output.toNat ∧ AcceptedRecords rest s.counted xs) ∧
        x = { s.misread with records := xs.foldl FlowRecords.add {} } := by
  have hhead := s.parses_misread (s.counted ++ rest) n
  rw [← List.append_assoc] at hhead
  have hend : n + s.body.length = n + s.fields.length + s.counted.length := by
    rw [body, List.length_append, Nat.add_assoc]
  simp only [← many_recordPass_iff (n := n + s.fields.length), ← hend]
  constructor
  · intro h
    obtain ⟨head, r', xs, hhead', hloop, rfl⟩ := SampleDecoder.decode_eq_ok h
    have hsame := hhead.symm.trans hhead'
    rw [EStateM.Result.ok.injEq] at hsame
    obtain ⟨rfl, rfl⟩ := hsame
    exact ⟨xs, hloop, rfl⟩
  · rintro ⟨xs, hloop, rfl⟩
    exact SampleDecoder.decode_of_none hhead hloop

end ExpandedSample

/-- An expanded flow sample comes back, and nothing after it is read, exactly when all the words from the index of
the source to the output interface are the number of records, and the bytes from that number on are those of as
many records again, with the same last record of each kind. -/
theorem decodeExpandedFlowSample_roundTrip_iff (s : ExpandedSample) (rest : List UInt8) (n : Nat) :
    (∃ x, decodeExpandedFlowSample ⟨s.body ++ rest, n⟩ = .ok x ⟨rest, n + s.body.length⟩ ∧ s.SameAs x) ↔
      (∀ v ∈ s.words, v = s.recordsNo) ∧
        ∃ xs : List FlowRecord, xs.length = s.recordsNo.toNat ∧ AcceptedRecords rest s.counted xs ∧
          xs.foldl FlowRecords.add {} = lastRecords s.records := by
  simp only [s.decode_eq_ok_iff rest n]
  constructor
  · rintro ⟨_, ⟨xs, ⟨hlen, hrecords⟩, rfl⟩, hsame⟩
    obtain ⟨hwords, hlast⟩ := (s.sameAs_misread_iff _).mp hsame
    have hout : s.output = s.recordsNo := hwords _ (by simp [ExpandedSample.words])
    exact ⟨hwords, xs, hout ▸ hlen, hrecords, hlast⟩
  · rintro ⟨hwords, xs, hlen, hrecords, hlast⟩
    have hout : s.output = s.recordsNo := hwords _ (by simp [ExpandedSample.words])
    exact ⟨_, ⟨xs, ⟨hout ▸ hlen, hrecords⟩, rfl⟩, (s.sameAs_misread_iff _).mpr ⟨hwords, hlast⟩⟩

def emptySample : ExpandedSample where
  sequenceNo := 1
  sourceIDType := 0
  sourceIDIndex := 3
  samplingRate := 512
  samplePool := 1024
  drops := 0
  inputFormat := 0
  input := 3
  outputFormat := 0
  output := 0
  records := []

/-- The sampling rate is read as `3`, the sample pool as `512`, and the number of records is not read. -/
theorem decodeExpandedFlowSample_empty :
    ∃ x, decodeExpandedFlowSample ⟨emptySample.body, 0⟩ = .ok x ⟨putUint32 0, 40⟩ ∧ emptySample.body.length = 44 ∧
      x.samplingRate = 3 ∧ x.samplePool = 512 ∧ x.drops = 1024 ∧ x.outputFormat = 3 :=
  ⟨_, rfl, rfl, rfl, rfl, rfl, rfl⟩

/-- Two records of unknown formats that are two records also when they are read from their number on. -/
def doubleSample : ExpandedSample where
  sequenceNo := 1
  sourceIDType := 0
  sourceIDIndex := 2
  samplingRate := 2
  samplePool := 2
  drops := 2
  inputFormat := 2
  input := 2
  outputFormat := 2
  output := 2
  records := [.unknown 4 [0, 0, 0, 9, 0, 0, 0, 8], .unknown 9 []]

example : ∃ x, decodeExpandedFlowSample ⟨doubleSample.body, 0⟩ = .ok x ⟨[], doubleSample.body.length⟩ ∧
    doubleSample.SameAs x :=
  ⟨_, rfl, by decide⟩

end VFlow.Sflow
