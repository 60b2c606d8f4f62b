import VFlow.Ipfix.Collector
import VFlow.Ipfix.Grammar
import VFlow.Ipfix.Walk

/-!
# Which bytes the records of a set are read from

The record loop of `decodeSet` looks at the declared length of the set before each record, and never inside
one: a record is read against the whole rest of the packet. So a record that starts in its set may be
completed with bytes of the sets after it, and it is stored, or appended, before the overrun is noticed.

`recordSize` is the size of the record at the front of some bytes, as the format has it, and `Overruns` says
that, record after record, one is reached which starts in the set and ends past it. Up to the first such
record the loop reads exactly the records of `Overruns`, and behind an incomplete record it reads nothing, so
the records of a set come from the bytes of the set exactly if it does not overrun (`decode_contained_iff`).
-/

namespace VFlow.Ipfix

open Scan Reader

variable {im : IANAInfoModel} {raddr : IP} {h : SetHeader} {tr : TemplateRecord} {s t : DecodeState}
  {startCount k n : Nat} {b : List UInt8}

/-! ## The size of a record -/

/-- The bytes of a field specifier: 8 with an enterprise number. -/
def TemplateFieldSpecifier.size (b : List UInt8) : Option Nat :=
  if b.length < 4 then none
  else if BigEndian.uint16 b > 0x8000 then if b.length < 8 then none else some 8
  else some 4

def TemplateRecord.size (b : List UInt8) : Option Nat :=
  if b.length < 4 then none
  else (sizes TemplateFieldSpecifier.size (BigEndian.uint16 (b.drop 2)).toNat (b.drop 4)).map (4 + ·)

def TemplateRecord.sizeOpts (b : List UInt8) : Option Nat :=
  if b.length < 6 then none
  else
    let scopeFieldCount := BigEndian.uint16 (b.drop 4)
    (sizes TemplateFieldSpecifier.size scopeFieldCount.toNat (b.drop 6)).bind fun k =>
      (sizes TemplateFieldSpecifier.size (BigEndian.uint16 (b.drop 2) - scopeFieldCount).toNat (b.drop (6 + k))).map
        (6 + k + ·)

/-- The bytes of the record at the front of `b`, in a set with the header `h` and the template `tr`, if there is
a complete one: padding, an incomplete record and a record of unknown elements have no size. -/
def recordSize (im : IANAInfoModel) (h : SetHeader) (tr : TemplateRecord) (b : List UInt8) : Option Nat :=
  if h.setID = 2 ∨ h.setID = 3 then
    if BigEndian.uint16 b = 0 then none
    else if h.setID = 2 then TemplateRecord.size b else TemplateRecord.sizeOpts b
  else if h.setID ≥ 4 ∧ h.setID ≤ 255 then none
  else if tr.Known im ∧ tr.recordLength ≤ b.length then some tr.recordLength else none

theorem fieldSpecifier_size (b : List UInt8) :
    TemplateFieldSpecifier.size b =
      if b.length < width aboveBit (BigEndian.uint16 b) then none else some (width aboveBit (BigEndian.uint16 b)) := by
  unfold TemplateFieldSpecifier.size
  by_cases hbit : BigEndian.uint16 b > 0x8000
  · rw [width_of_true (decide_eq_true hbit), if_pos hbit]
    split_ifs with h4 h8
    · rfl
    · omega
    · rfl
    · rfl
  · rw [width_of_false (decide_eq_false hbit), if_neg hbit]

theorem measures_fieldSpecifier : Measures 3 TemplateFieldSpecifier.unmarshal TemplateFieldSpecifier.size := by
  intro r
  rw [fieldSpecifier_size]
  by_cases h : r.data.length < width aboveBit (BigEndian.uint16 r.data)
  · rw [if_pos h]
    obtain ⟨hle, e, r', he, hr⟩ := unmarshal_field_short h
    exact ⟨fun k hk => (nomatch hk), fun _ => ⟨e, r', he, hr.trans_le hle⟩⟩
  · rw [if_neg h]
    refine ⟨fun k hk => ?_, fun hnone => (nomatch hnone)⟩
    obtain rfl := Option.some.inj hk
    exact ⟨Nat.le_of_not_lt h, _, unmarshal_field (Nat.le_of_not_lt h)⟩

theorem unmarshal_size {r : Reader} (h4 : 4 < r.len) :
    (∀ k, TemplateRecord.size r.data = some k →
      k ≤ r.len ∧ ∃ tr, TemplateRecord.unmarshal r = (tr, none, r.advance k)) ∧
    (TemplateRecord.size r.data = none →
      ∃ tr e r', TemplateRecord.unmarshal r = (tr, some e, r') ∧ r'.len ≤ 4) := by
  have hth := templateHeader_ofBytes (show 4 ≤ r.len by omega)
  obtain ⟨hok, hshort⟩ := many_measures measures_fieldSpecifier
    (BigEndian.uint16 (r.data.drop 2)).toNat (r.advance 4)
  rw [Cursor.len_advance, Cursor.advance_data] at hok
  rw [Cursor.advance_data] at hshort
  rw [TemplateRecord.size, if_neg (show ¬ r.data.length < 4 from Nat.not_lt.mpr (Nat.le_of_lt h4))]
  simp only [Option.map_eq_some_iff, Option.map_eq_none_iff]
  rw [TemplateRecord.unmarshal, hth]
  dsimp only
  constructor
  · rintro k ⟨j, hj, rfl⟩
    obtain ⟨hle, specs, hspecs⟩ := hok j hj
    exact ⟨by omega, _, by rw [hspecs, Cursor.advance_advance]⟩
  · intro hnone
    obtain ⟨specs, e, r', he, hlen⟩ := hshort hnone
    exact ⟨_, e, r', by rw [he], by omega⟩

theorem templateHeaderOpts_of_le {r : Reader} (h : 6 ≤ r.len) :
    ∃ id, TemplateHeader.unmarshalOpts r =
      .ok { templateID := id, fieldCount := BigEndian.uint16 (r.data.drop 2),
            scopeFieldCount := BigEndian.uint16 (r.data.drop 4) } (r.advance 6) := by
  refine ⟨BigEndian.uint16 r.data, ?_⟩
  rw [TemplateHeader.unmarshalOpts, bind_apply, uint16_of_le (by omega)]
  dsimp only
  rw [bind_apply, uint16_of_le (by rw [Cursor.len_advance]; omega), Cursor.advance_advance]
  dsimp only
  rw [bind_apply, uint16_of_le (by rw [Cursor.len_advance]; omega), Cursor.advance_advance]
  rfl

theorem templateHeaderOpts_of_lt {r : Reader} (h4 : 4 < r.len) (h6 : r.len < 6) :
    TemplateHeader.unmarshalOpts r = .error .errReader (r.advance 4) := by
  rw [TemplateHeader.unmarshalOpts, bind_apply, uint16_of_le (by omega)]
  dsimp only
  rw [bind_apply, uint16_of_le (by rw [Cursor.len_advance]; omega), Cursor.advance_advance]
  dsimp only
  rw [bind_apply, uint16_of_lt (by rw [Cursor.len_advance]; omega)]

theorem unmarshalOpts_size {r : Reader} (h4 : 4 < r.len) :
    (∀ k, TemplateRecord.sizeOpts r.data = some k →
      k ≤ r.len ∧ ∃ tr, TemplateRecord.unmarshalOpts r = (tr, none, r.advance k)) ∧
    (TemplateRecord.sizeOpts r.data = none →
      ∃ tr e r', TemplateRecord.unmarshalOpts r = (tr, some e, r') ∧ r'.len ≤ 4) := by
  by_cases h6 : r.len < 6
  · -- the scope count is missing
    rw [TemplateRecord.sizeOpts, if_pos (show r.data.length < 6 from h6)]
    refine ⟨fun k hk => (by cases hk), fun _ => ⟨{}, .errReader, r.advance 4, ?_, ?_⟩⟩
    · rw [TemplateRecord.unmarshalOpts, templateHeaderOpts_of_lt h4 h6]
    · rw [Cursor.len_advance]
      omega
  obtain ⟨id, hth⟩ := templateHeaderOpts_of_le (show 6 ≤ r.len by omega)
  obtain ⟨hok, hshort⟩ := many_measures measures_fieldSpecifier
    (BigEndian.uint16 (r.data.drop 4)).toNat (r.advance 6)
  rw [Cursor.len_advance, Cursor.advance_data] at hok
  rw [Cursor.advance_data] at hshort
  rw [TemplateRecord.sizeOpts, if_neg (show ¬ r.data.length < 6 from h6)]
  simp only [Option.bind_eq_some_iff, Option.map_eq_some_iff, Option.bind_eq_none_iff, Option.map_eq_none_iff]
  rw [TemplateRecord.unmarshalOpts, hth]
  dsimp only
  cases hscope : sizes TemplateFieldSpecifier.size (BigEndian.uint16 (r.data.drop 4)).toNat (r.data.drop 6) with
  | none =>
    obtain ⟨specs, e, r', he, hlen⟩ := hshort hscope
    refine ⟨fun k hk => ?_, fun _ => ⟨_, e, r', by rw [he], by omega⟩⟩
    obtain ⟨j, hj, -⟩ := hk
    cases hj
  | some j =>
    obtain ⟨hj, scopes, hscopes⟩ := hok j hscope
    obtain ⟨hok', hshort'⟩ := many_measures measures_fieldSpecifier
      (BigEndian.uint16 (r.data.drop 2) - BigEndian.uint16 (r.data.drop 4)).toNat (r.advance (6 + j))
    rw [Cursor.len_advance, Cursor.advance_data] at hok'
    rw [Cursor.advance_data] at hshort'
    rw [hscopes, Cursor.advance_advance]
    dsimp only
    constructor
    · rintro k ⟨j', hj', i, hi, rfl⟩
      obtain rfl := Option.some.inj hj'
      obtain ⟨hle, specs, hspecs⟩ := hok' i hi
      exact ⟨by omega, _, by rw [hspecs, Cursor.advance_advance]⟩
    · intro hnone
      obtain ⟨specs, e, r', he, hlen⟩ := hshort' (hnone j rfl)
      exact ⟨_, e, r', by rw [he], by omega⟩

theorem readTemplate_size {r : Reader} (id : UInt16) (h4 : 4 < r.len) :
    (∀ k, (if id = 2 then TemplateRecord.size r.data else TemplateRecord.sizeOpts r.data) = some k →
      k ≤ r.len ∧ ∃ tr, readTemplate id r = (tr, none, r.advance k)) ∧
    ((if id = 2 then TemplateRecord.size r.data else TemplateRecord.sizeOpts r.data) = none →
      ∃ tr e r', readTemplate id r = (tr, some e, r') ∧ r'.len ≤ 4) := by
  unfold readTemplate
  split_ifs
  · exact unmarshal_size h4
  · exact unmarshalOpts_size h4

/-! ## One pass -/

/-- A pass in `t` takes a record and leaves `t'`: a template is stored, or a data record is appended. -/
inductive TakesRecord (im : IANAInfoModel) (raddr : IP) (h : SetHeader) (tr : TemplateRecord) (t : DecodeState) :
    DecodeState → Prop
  | insert {new : TemplateRecord} {r : Reader} (hid : h.setID = 2 ∨ h.setID = 3)
      (hread : readTemplate h.setID t.reader = (new, none, r)) :
      TakesRecord im raddr h tr t { t with reader := r, mem := t.mem.insert new.templateID raddr new }
  | append {data : List DecodedField} {r : Reader} (hid : h.IsData) (hread : decodeData im tr t.reader = .ok data r) :
      TakesRecord im raddr h tr t
        { t with reader := r, msg := { t.msg with dataSets := t.msg.dataSets ++ [data] } }

theorem recordBody_of_size (raddr : IP) (hlen : 4 < t.reader.len) (hsize : recordSize im h tr t.reader.data = some k) :
    k ≤ t.reader.len ∧ ∃ t', recordBody im raddr h tr (t, none) = .next (t', none) ∧
      t'.reader = t.reader.advance k ∧ TakesRecord im raddr h tr t t' := by
  unfold recordSize at hsize
  split_ifs at hsize with hid hpad h2 hres hdata
  · obtain ⟨hk, new, hread⟩ := (readTemplate_size h.setID hlen).1 k (by rwa [if_pos h2])
    exact ⟨hk, _, by rw [recordBody_templateSet hid hlen, if_neg hpad, hread], rfl, .insert hid hread⟩
  · obtain ⟨hk, new, hread⟩ := (readTemplate_size h.setID hlen).1 k (by rwa [if_neg h2])
    exact ⟨hk, _, by rw [recordBody_templateSet hid hlen, if_neg hpad, hread], rfl, .insert hid hread⟩
  · obtain rfl := Option.some.inj hsize
    have hd := isData_iff.mpr ⟨hid, hres⟩
    obtain ⟨data, hread⟩ := (reads_decodeData hdata.1 t.reader).1 hdata.2
    exact ⟨hdata.2, _, by rw [recordBody_data hd, hread], rfl, .append hd hread⟩

theorem recordBody_of_no_size {x' : DecodeState × Option Error} (hlen : 4 < t.reader.len)
    (hsize : recordSize im h tr t.reader.data = none) (hp : recordBody im raddr h tr (t, none) = .next x') :
    ¬ TakesRecord im raddr h tr t x'.1 ∧ (x'.2.isSome ∨ x'.1.reader.len ≤ 4) := by
  unfold recordSize at hsize
  by_cases hid : h.setID = 2 ∨ h.setID = 3
  · rw [if_pos hid] at hsize
    rw [recordBody_templateSet hid hlen] at hp
    split_ifs at hp with hpad
    rw [if_neg hpad] at hsize
    obtain ⟨new, e, r, hread, hr⟩ := (readTemplate_size h.setID hlen).2 hsize
    rw [hread] at hp
    obtain rfl := LoopStep.next.inj hp
    refine ⟨fun htakes => ?_, Or.inr hr⟩
    generalize hu : { t with reader := r } = u at htakes
    cases htakes with
    | insert _ hread' =>
      rw [hread] at hread'
      cases hread'
    | append hd _ => exact absurd hid (isData_iff.mp hd).1
  · rw [if_neg hid] at hsize
    by_cases hres : h.setID ≥ 4 ∧ h.setID ≤ 255
    · rw [recordBody_reserved hres] at hp
      cases hp
    rw [if_neg hres] at hsize
    have hd := isData_iff.mpr ⟨hid, hres⟩
    rw [recordBody_data hd] at hp
    cases hdec : decodeData im tr t.reader with
    | ok data r =>
      obtain ⟨hknown, hle, -⟩ := decodeData_ok hdec
      rw [if_pos ⟨hknown, hle⟩] at hsize
      cases hsize
    | error e r =>
      rw [hdec] at hp
      obtain rfl := LoopStep.next.inj hp
      refine ⟨fun htakes => ?_, Or.inl rfl⟩
      generalize hu : { t with reader := r } = u at htakes
      cases htakes with
      | insert hid' _ => exact absurd hid' hid
      | append _ hread =>
        rw [hdec] at hread
        cases hread

/-! ## The record loop -/

/-- In a set of which `n` bytes are left, at the bytes `b` of the packet, a record starts inside the set and
ends past it: it is the next one, or comes after whole records. The loop stops when 4 bytes are left. -/
inductive Overruns (size : List UInt8 → Option Nat) : Nat → List UInt8 → Prop
  | here {n k : Nat} {b : List UInt8} (hn : 0 < n) (hb : 4 < b.length) (hsize : size b = some k) (hk : n < k) :
      Overruns size n b
  | later {n k : Nat} {b : List UInt8} (hn : 0 < n) (hb : 4 < b.length) (hsize : size b = some k) (hk : k ≤ n)
      (h : Overruns size (n - k) (b.drop k)) : Overruns size n b

/-- The set at the front of `b` does not overrun. -/
def RecordsFit (im : IANAInfoModel) (raddr : IP) (mem : MemCache TemplateRecord) (b : List UInt8) : Prop :=
  ∀ tr, dataTemplate raddr mem (SetHeader.ofBytes b) = some tr →
    ¬ Overruns (recordSize im (SetHeader.ofBytes b) tr) ((SetHeader.ofBytes b).length.toNat - 4) (b.drop 4)

/-- Every template that is stored and every record that is appended for the set at the reader of `s` was read
from the bytes between the header of the set and its declared end. -/
def SetContained (im : IANAInfoModel) (raddr : IP) (s : DecodeState) : Prop :=
  ∀ t t', EntersPass im raddr s (t, none) →
    recordPass im raddr (SetHeader.ofBytes s.reader.data) s.reader.count (loopStart raddr s).1 (t, none) =
      .next (t', none) →
    TakesRecord im raddr (SetHeader.ofBytes s.reader.data) (loopStart raddr s).1 t t' →
    s.reader.count + 4 ≤ t.reader.count ∧
      t'.reader.count ≤ s.reader.count + (SetHeader.ofBytes s.reader.data).length.toNat

/-- What holds in the record loop of a set that does not overrun: the loop is at its end, or `j` bytes of the
set were read and the rest does not overrun. -/
def InSet (im : IANAInfoModel) (raddr : IP) (s : DecodeState) (x : DecodeState × Option Error) : Prop :=
  (x.2.isSome ∨ x.1.reader.len ≤ 4) ∨
    ∃ j, 4 ≤ j ∧ j ≤ (SetHeader.ofBytes s.reader.data).length.toNat ∧ x.1.reader = s.reader.advance j ∧
      ¬ Overruns (recordSize im (SetHeader.ofBytes s.reader.data) (loopStart raddr s).1)
        ((SetHeader.ofBytes s.reader.data).length.toNat - j) (s.reader.data.drop j)

theorem InSet.pass {x' : DecodeState × Option Error} (hin : InSet im raddr s (t, none))
    (hp : recordPass im raddr (SetHeader.ofBytes s.reader.data) s.reader.count (loopStart raddr s).1 (t, none) =
      .next x') :
    InSet im raddr s x' ∧
      (TakesRecord im raddr (SetHeader.ofBytes s.reader.data) (loopStart raddr s).1 t x'.1 →
        s.reader.count + 4 ≤ t.reader.count ∧
          x'.1.reader.count ≤ s.reader.count + (SetHeader.ofBytes s.reader.data).length.toNat) := by
  obtain ⟨hg, -⟩ := recordPass_next hp
  obtain ⟨-, -, hlen⟩ := recordGuard_iff.mp hg
  rw [recordPass_of_guard hg] at hp
  obtain ⟨j, hj4, hj, hread, hno⟩ := hin.resolve_left (by simp; omega)
  dsimp only at hread
  obtain ⟨-, hlt, -⟩ := (recordGuard_of_le hread rfl hj).mp hg
  have hdata : t.reader.data = s.reader.data.drop j := by rw [hread, Cursor.advance_data]
  have hb : 4 < (s.reader.data.drop j).length := by
    rw [← hdata]
    exact hlen
  cases hsize : recordSize im (SetHeader.ofBytes s.reader.data) (loopStart raddr s).1 t.reader.data with
  | none =>
    obtain ⟨hnot, hend⟩ := recordBody_of_no_size hlen hsize hp
    exact ⟨Or.inl hend, fun htakes => absurd htakes hnot⟩
  | some k =>
    obtain ⟨-, t', hnext, hread', -⟩ := recordBody_of_size raddr hlen hsize
    rw [hp] at hnext
    obtain rfl := LoopStep.next.inj hnext
    rw [hdata] at hsize
    have hk : k ≤ (SetHeader.ofBytes s.reader.data).length.toNat - j := by
      by_contra hgt
      exact hno (.here (by omega) hb hsize (by omega))
    refine ⟨Or.inr ⟨j + k, by omega, by omega, ?_, fun hover => hno (.later (by omega) hb hsize hk ?_)⟩, fun _ => ?_⟩
    · rw [hread', hread, Cursor.advance_advance]
    · rwa [List.drop_drop, Nat.sub_sub]
    · rw [hread', hread, Cursor.advance_advance, Cursor.advance_count, Cursor.advance_count]
      omega

theorem not_contained_of_overruns {size : List UInt8 → Option Nat} {j : Nat}
    (hsize : size = recordSize im (SetHeader.ofBytes s.reader.data) (loopStart raddr s).1)
    (hover : Overruns size n b) (hj : 4 ≤ j)
    (hn : j + n = (SetHeader.ofBytes s.reader.data).length.toNat) (hb : b = s.reader.data.drop j)
    (hread : t.reader = s.reader.advance j) (hv : EntersPass im raddr s (t, none)) : ¬ SetContained im raddr s := by
  subst hsize
  -- the pass at the next record, as long as one is left in the set
  have hpass : ∀ {t b n j k}, 0 < n → 4 < b.length → b = s.reader.data.drop j → t.reader = s.reader.advance j →
      j + n = (SetHeader.ofBytes s.reader.data).length.toNat →
      recordSize im (SetHeader.ofBytes s.reader.data) (loopStart raddr s).1 b = some k →
      ∃ t', recordPass im raddr (SetHeader.ofBytes s.reader.data) s.reader.count (loopStart raddr s).1 (t, none) =
          .next (t', none) ∧ t'.reader = s.reader.advance (j + k) ∧
        TakesRecord im raddr (SetHeader.ofBytes s.reader.data) (loopStart raddr s).1 t t' := by
    intro t b n j k hpos hlen hb hread hn hsize
    have hdata : t.reader.data = b := by rw [hread, Cursor.advance_data, hb]
    have hg : recordGuard (SetHeader.ofBytes s.reader.data) s.reader.count (t, none) = true := by
      rw [hb, List.length_drop] at hlen
      exact (recordGuard_of_le hread rfl (by omega)).mpr ⟨rfl, by omega, hlen⟩
    rw [← hdata] at hsize hlen
    obtain ⟨-, t', hnext, hread', htakes⟩ := recordBody_of_size raddr hlen hsize
    exact ⟨t', by rw [recordPass_of_guard hg, hnext], by rw [hread', hread, Cursor.advance_advance], htakes⟩
  induction hover generalizing j t with
  | @here n k b hpos hlen hsize hgt =>
    obtain ⟨t', hnext, hread', htakes⟩ := hpass hpos hlen hb hread hn hsize
    intro hcontained
    have hend := (hcontained t t' hv hnext htakes).2
    rw [hread', Cursor.advance_count] at hend
    omega
  | @later n k b hpos hlen hsize hle hrest ih =>
    obtain ⟨t', hnext, hread', -⟩ := hpass hpos hlen hb hread hn hsize
    refine ih (by omega) (by omega) ?_ hread' ⟨hv.1, hv.2.tail ⟨0, congrArg some hnext⟩⟩
    rw [hb, List.drop_drop]

theorem setContained_iff (im : IANAInfoModel) (raddr : IP) (s : DecodeState) :
    SetContained im raddr s ↔ RecordsFit im raddr s.mem s.reader.data := by
  constructor
  · intro hcontained tr htr hover
    obtain ⟨hnone, rfl⟩ := loopStart_of_dataTemplate htr
    have h4 : 4 < (SetHeader.ofBytes s.reader.data).length.toNat := by
      cases hover <;> omega
    refine not_contained_of_overruns (t := (loopStart raddr s).2.1) rfl hover (Nat.le_refl 4) (by omega) rfl
      (loopStart_reader raddr s) ⟨fun hlt => ?_, ?_⟩ hcontained
    · rw [UInt16.lt_iff_toNat_lt] at hlt
      change _ < 4 at hlt
      omega
    · rw [← hnone]
      exact .refl
  · intro hfit t t' hv hp htakes
    have hin : InSet im raddr s (t, none) := by
      refine hv.2.invariant (P := InSet im raddr s) ?_ ?_
      · rintro n ⟨u, err⟩ x' hin hnext
        obtain ⟨hg, -⟩ := recordPass_next (Option.some.inj hnext)
        obtain rfl := (recordGuard_iff.mp hg).1
        exact (hin.pass (Option.some.inj hnext)).1
      · cases hnone : (loopStart raddr s).2.2 with
        | some e => exact Or.inl (Or.inl (by simp [hnone]))
        | none =>
          have h4 : ¬ (SetHeader.ofBytes s.reader.data).length.toNat < 4 := fun hlt =>
            hv.1 (UInt16.lt_iff_toNat_lt.mpr hlt)
          exact Or.inr ⟨4, Nat.le_refl 4, by omega, loopStart_reader raddr s,
            hfit _ (dataTemplate_of_loopStart hnone)⟩
    exact (hin.pass hp).2 htakes

/-! ## Data sets -/

theorem recordSize_data (hd : h.IsData) (hknown : tr.Known im) :
    recordSize im h tr b = if tr.recordLength ≤ b.length then some tr.recordLength else none := by
  obtain ⟨hid, hres⟩ := isData_iff.mp hd
  simp only [recordSize, if_neg hid, if_neg hres, hknown, true_and]

theorem overruns_data_cons (hd : h.IsData) (hknown : tr.Known im) :
    Overruns (recordSize im h tr) n b ↔ 0 < n ∧ 4 < b.length ∧ tr.recordLength ≤ b.length ∧
      (n < tr.recordLength ∨ tr.recordLength ≤ n ∧
        Overruns (recordSize im h tr) (n - tr.recordLength) (b.drop tr.recordLength)) := by
  constructor
  · intro hover
    cases hover with
    | here hn hb hsize hk =>
      rw [recordSize_data hd hknown, Option.ite_none_right_eq_some, Option.some.injEq] at hsize
      obtain ⟨hle, rfl⟩ := hsize
      exact ⟨hn, hb, hle, Or.inl hk⟩
    | later hn hb hsize hk hrest =>
      rw [recordSize_data hd hknown, Option.ite_none_right_eq_some, Option.some.injEq] at hsize
      obtain ⟨hle, rfl⟩ := hsize
      exact ⟨hn, hb, hle, Or.inr ⟨hk, hrest⟩⟩
  · rintro ⟨hn, hb, hle, hrest⟩
    have hsize : recordSize im h tr b = some tr.recordLength := by rw [recordSize_data hd hknown, if_pos hle]
    rcases hrest with hk | ⟨hk, hrest⟩
    · exact .here hn hb hsize hk
    · exact .later hn hb hsize hk hrest

/-- The records of a data set have one length, so it is what is left of the set after whole records that
counts: a rest that is shorter than a record is completed, if the packet has more than 4 bytes, and a whole
record, from there on. -/
theorem overruns_data_iff (hd : h.IsData) (hknown : tr.Known im) (hpos : 0 < tr.recordLength) :
    Overruns (recordSize im h tr) n b ↔ n % tr.recordLength ≠ 0 ∧
      4 < b.length - (n - n % tr.recordLength) ∧ tr.recordLength ≤ b.length - (n - n % tr.recordLength) := by
  induction n using Nat.strong_induction_on generalizing b with
  | _ n ih =>
    rw [overruns_data_cons hd hknown]
    rcases Nat.lt_or_ge n tr.recordLength with hlt | hge
    · rw [Nat.mod_eq_of_lt hlt]
      omega
    · have hsub : (n - tr.recordLength) % tr.recordLength = n % tr.recordLength := (Nat.mod_eq_sub_mod hge).symm
      have hmod := Nat.mod_le (n - tr.recordLength) tr.recordLength
      rw [ih (n - tr.recordLength) (by omega), hsub, List.length_drop]
      omega

/-! ## The packet -/

/-- The templates and the records that `Decode` takes from the packet are contained in their sets. -/
def Contained (im : IANAInfoModel) (raddr : IP) (mem : MemCache TemplateRecord) (b : List UInt8) : Prop :=
  ∀ s, Enters im raddr mem b s → SetContained im raddr s

/-- **Containment.** For every packet, cache and exporter, what `Decode` takes from the packet is contained in the
sets exactly if no set that it enters overruns. -/
theorem decode_contained_iff (im : IANAInfoModel) (raddr : IP) (mem : MemCache TemplateRecord) (b : List UInt8) :
    Contained im raddr mem b ↔ ∀ s, Enters im raddr mem b s → RecordsFit im raddr s.mem s.reader.data :=
  forall_congr' fun s => forall_congr' fun _ => setContained_iff im raddr s

/-- The second record of the first set takes 2 bytes of padding and 8 bytes of the second set. -/
theorem decode_not_contained : ¬ Contained infoModel [192, 0, 2, 1] threeFieldsCache payloadPacket := by
  intro hcontained
  have hfit := (setContained_iff _ _ _).mp (hcontained _ (enters_start ⟨rfl, rfl⟩ (by decide)))
  exact hfit _ rfl ((overruns_data_iff (by decide) (by decide) (by decide)).mpr (by decide))

end VFlow.Ipfix
