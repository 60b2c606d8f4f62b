import VFlow.Netflow9.Records

/-!
# One NetFlow v9 flowset

What one pass of the record loop can do (`recordPass_next`, `recordPass_done`), and from it that a
call of `decodeSet` moves the reader forward by 4 bytes at least (`decodeSet_forward`).
-/

namespace VFlow.Netflow9

open Scan Reader

variable {im : IANAInfoModel} {raddr : IP} {h : SetHeader} {startCount : Nat} {tr : TemplateRecord}
  {s s' : DecodeState} {err : Option Error} {x x' : DecodeState × Option Error} {fuel : Nat}

/-! ## One pass -/

/-- The flowset ids of the data branch: the ids above 255, but also 2 and 3. -/
def SetHeader.IsData (h : SetHeader) : Prop := h.flowSetID = 2 ∨ h.flowSetID = 3 ∨ 255 < h.flowSetID

instance : Decidable h.IsData := inferInstanceAs (Decidable (_ ∨ _))

/-- The flowset ids of the two kinds of template records. -/
def SetHeader.IsTemplate (h : SetHeader) : Prop := h.flowSetID = 0 ∨ h.flowSetID = 1

instance : Decidable h.IsTemplate := inferInstanceAs (Decidable (_ ∨ _))

theorem isData_iff : h.IsData ↔ ¬ h.IsTemplate ∧ ¬ (h.flowSetID ≥ 4 ∧ h.flowSetID ≤ 255) := by
  simp only [SetHeader.IsData, SetHeader.IsTemplate, UInt16.lt_iff_toNat_lt, ← UInt16.toNat_inj, ge_iff_le,
    UInt16.le_iff_toNat_le]
  change _ ↔ ¬ (h.flowSetID.toNat = 0 ∨ h.flowSetID.toNat = 1) ∧ ¬ (4 ≤ h.flowSetID.toNat ∧ h.flowSetID.toNat ≤ 255)
  change h.flowSetID.toNat = 2 ∨ h.flowSetID.toNat = 3 ∨ 255 < h.flowSetID.toNat ↔ _
  omega

theorem not_isTemplate_of_le (hid : 4 ≤ h.flowSetID) : ¬ h.IsTemplate := by
  rintro (h0 | h1)
  · rw [h0] at hid
    exact absurd hid (by decide)
  · rw [h1] at hid
    exact absurd hid (by decide)

theorem recordGuard_iff : recordGuard h startCount (s, err) = true ↔
    err = none ∧ 4 < leftover h startCount s ∧ 4 < s.reader.len := by
  simp [recordGuard, and_assoc]

theorem recordPass_of_guard (hg : recordGuard h startCount x = true) :
    recordPass im raddr h startCount tr x = recordBody im raddr h tr x := by
  rw [recordPass, if_pos hg]

theorem recordPass_of_not_guard (hg : ¬ recordGuard h startCount x = true) :
    recordPass im raddr h startCount tr x = .done x := by
  rw [recordPass, if_neg hg]

def readTemplate (h : SetHeader) (r : Reader) : TemplateRecord × Option Error × Reader :=
  if h.flowSetID = 0 then TemplateRecord.unmarshal r else TemplateRecord.unmarshalOpts r

def recordSize (h : SetHeader) (b : List UInt8) : Nat :=
  if h.flowSetID = 0 then templateSize b else optionsSize b

theorem four_le_recordSize (h : SetHeader) (b : List UInt8) : 4 ≤ recordSize h b := by
  unfold recordSize templateSize optionsSize
  split_ifs <;> omega

theorem readTemplate_spec {r : Reader} (hlen : 4 ≤ r.len) :
    (recordSize h r.data ≤ r.len → ∃ t, readTemplate h r = (t, none, r.advance (recordSize h r.data))) ∧
      (r.len < recordSize h r.data →
        ∃ t k, 4 ≤ k ∧ k ≤ r.len ∧ readTemplate h r = (t, some .errReader, r.advance k)) := by
  unfold readTemplate recordSize
  split_ifs
  · exact unmarshal_spec hlen
  · exact unmarshalOpts_spec hlen

theorem recordBody_template (ht : h.IsTemplate) :
    recordBody im raddr h tr (s, err) =
      match readTemplate h s.reader with
      | (t, trErr, r) =>
        .next ({ reader := r, mem := if trErr.isNone then s.mem.insert t.templateID raddr t else s.mem,
                 msg := { s.msg with templaRecord := t } }, trErr) := by
  rw [recordBody, readTemplate]
  simp only [if_pos (show h.flowSetID = 0 ∨ h.flowSetID = 1 from ht)]

theorem recordBody_data (hd : h.IsData) :
    recordBody im raddr h tr (s, err) =
      match decodeData im tr s.reader with
      | .ok data r =>
        .next ({ s with reader := r, msg := { s.msg with dataSets := s.msg.dataSets ++ [data],
                                                         setHeaders := s.msg.setHeaders ++ [h] } }, none)
      | .error e r => .next ({ s with reader := r }, some e) := by
  obtain ⟨h1, h2⟩ := isData_iff.mp hd
  have h0 : ¬ (h.flowSetID = 0 ∨ h.flowSetID = 1) := h1
  cases hdec : decodeData im tr s.reader with
  | ok data r => simp only [recordBody, if_neg h0, if_neg h2, hdec]
  | error e r => simp only [recordBody, if_neg h0, if_neg h2, hdec]

theorem recordBody_reserved (ht : ¬ h.IsTemplate) (hd : ¬ h.IsData) :
    recordBody im raddr h tr (s, err) = .done (s, err) := by
  rw [recordBody]
  dsimp only
  rw [if_neg (show ¬ (h.flowSetID = 0 ∨ h.flowSetID = 1) from ht), if_pos (by
    by_contra hres
    exact hd (isData_iff.mpr ⟨ht, hres⟩))]

theorem recordPass_done {y : DecodeState × Option Error}
    (hp : recordPass im raddr h startCount tr x = .done y) : y = x := by
  obtain ⟨s, err⟩ := x
  by_cases hg : recordGuard h startCount (s, err) = true
  · rw [recordPass_of_guard hg] at hp
    by_cases ht : h.IsTemplate
    · rw [recordBody_template ht] at hp
      cases hp
    · by_cases hd : h.IsData
      · rw [recordBody_data hd] at hp
        split at hp <;> cases hp
      · rw [recordBody_reserved ht hd] at hp
        exact (LoopStep.done.inj hp).symm
  · rw [recordPass_of_not_guard hg] at hp
    exact (LoopStep.done.inj hp).symm

/-- What a pass that goes round can do: store a template record, or stop at one that is cut off;
append a data record, or stop at an error of one. -/
inductive PassStep (im : IANAInfoModel) (raddr : IP) (h : SetHeader) (tr : TemplateRecord) (s : DecodeState) :
    DecodeState × Option Error → Prop
  | stored (t : TemplateRecord) (hid : h.IsTemplate) (hle : recordSize h s.reader.data ≤ s.reader.len) :
      PassStep im raddr h tr s
        ({ reader := s.reader.advance (recordSize h s.reader.data), mem := s.mem.insert t.templateID raddr t,
           msg := { s.msg with templaRecord := t } }, none)
  | cutOff (k : Nat) (t : TemplateRecord) (hid : h.IsTemplate) (hle : k ≤ s.reader.len) :
      PassStep im raddr h tr s
        ({ s with reader := s.reader.advance k, msg := { s.msg with templaRecord := t } }, some .errReader)
  | record (data : List DecodedField) (hid : h.IsData) (hk : tr.Known im) (hle : tr.recordLength ≤ s.reader.len) :
      PassStep im raddr h tr s
        ({ s with reader := s.reader.advance tr.recordLength,
                  msg := { s.msg with dataSets := s.msg.dataSets ++ [data],
                                      setHeaders := s.msg.setHeaders ++ [h] } }, none)
  | failed (k : Nat) (e : Error) (hid : h.IsData) (hle : k ≤ s.reader.len)
      (he : decodeData im tr s.reader = .error e (s.reader.advance k)) :
      PassStep im raddr h tr s ({ s with reader := s.reader.advance k }, some e)

theorem recordPass_next (hp : recordPass im raddr h startCount tr (s, err) = .next x') :
    recordGuard h startCount (s, err) = true ∧ PassStep im raddr h tr s x' := by
  by_cases hg : recordGuard h startCount (s, err) = true
  swap
  · rw [recordPass_of_not_guard hg] at hp
    cases hp
  refine ⟨hg, ?_⟩
  obtain ⟨rfl, -, hlen⟩ := recordGuard_iff.mp hg
  rw [recordPass_of_guard hg] at hp
  by_cases ht : h.IsTemplate
  · rw [recordBody_template ht] at hp
    by_cases hle : recordSize h s.reader.data ≤ s.reader.len
    · obtain ⟨t, hread⟩ := (readTemplate_spec (show 4 ≤ s.reader.len by omega)).1 hle
      rw [hread] at hp
      obtain rfl := LoopStep.next.inj hp
      exact .stored t ht hle
    · obtain ⟨t, k, -, hk, hread⟩ := (readTemplate_spec (show 4 ≤ s.reader.len by omega)).2 (Nat.lt_of_not_le hle)
      rw [hread] at hp
      obtain rfl := LoopStep.next.inj hp
      exact .cutOff k t ht hk
  · by_cases hd : h.IsData
    · rw [recordBody_data hd] at hp
      obtain ⟨k, hk, hr⟩ := forward_decodeData im tr s.reader
      cases hdec : decodeData im tr s.reader with
      | ok data r =>
        rw [hdec] at hp
        obtain ⟨hknown, hle, rfl⟩ := decodeData_ok hdec
        obtain rfl := LoopStep.next.inj hp
        exact .record data hd hknown hle
      | error e r =>
        rw [hdec] at hp hr
        rw [final_error] at hr
        subst hr
        obtain rfl := LoopStep.next.inj hp
        exact .failed k e hd hk hdec
    · rw [recordBody_reserved ht hd] at hp
      cases hp

theorem PassStep.forward (hp : PassStep im raddr h tr s x') :
    ∃ k, k ≤ s.reader.len ∧ x'.1.reader = s.reader.advance k := by
  cases hp with
  | stored t _ hle => exact ⟨_, hle, rfl⟩
  | cutOff k t _ hle => exact ⟨k, hle, rfl⟩
  | record data _ _ hle => exact ⟨_, hle, rfl⟩
  | failed k e _ hle _ => exact ⟨k, hle, rfl⟩

/-! ## The record loop -/

def loopStart (raddr : IP) (s : DecodeState) : DecodeState × Option Error :=
  ({ s with reader := s.reader.advance 4 },
    (setTemplate raddr (SetHeader.ofBytes s.reader.data) { s with reader := s.reader.advance 4 }).2)

def loopTemplate (raddr : IP) (s : DecodeState) : TemplateRecord :=
  (setTemplate raddr (SetHeader.ofBytes s.reader.data) { s with reader := s.reader.advance 4 }).1

theorem leftover_loopStart {h : SetHeader} : leftover h s.reader.count (loopStart raddr s).1 = h.length.toNat - 4 := by
  simp only [leftover, loopStart, readCount, Cursor.advance_count]
  omega

abbrev setLoop (im : IANAInfoModel) (raddr : IP) (s : DecodeState) :
    Nat → DecodeState × Option Error → Option (LoopStep (DecodeState × Option Error) (DecodeState × Option Error)) :=
  recordLoop (recordPass im raddr (SetHeader.ofBytes s.reader.data) s.reader.count (loopTemplate raddr s))

theorem decodeSet_eq (hlen : 4 ≤ s.reader.len) :
    decodeSet im raddr fuel s =
      if (SetHeader.ofBytes s.reader.data).length < 4 then
        some ({ s with reader := s.reader.advance 4 }, some .errUnexpectedEOF)
      else
        (Loop.run (setLoop im raddr s fuel) fuel (loopStart raddr s)).map
          (skipLeftover (SetHeader.ofBytes s.reader.data) s.reader.count) := by
  rw [decodeSet, setHeader_of_le hlen]
  rfl

theorem decodeSet_eq_some (hlen : 4 ≤ s.reader.len) {out : DecodeState × Option Error} :
    decodeSet im raddr fuel s = some out ↔
      (SetHeader.ofBytes s.reader.data).length < 4 ∧
          out = ({ s with reader := s.reader.advance 4 }, some .errUnexpectedEOF) ∨
        ¬ (SetHeader.ofBytes s.reader.data).length < 4 ∧
          ∃ y, Loop.run (setLoop im raddr s fuel) fuel (loopStart raddr s) = some y ∧
            out = skipLeftover (SetHeader.ofBytes s.reader.data) s.reader.count y := by
  rw [decodeSet_eq hlen]
  split_ifs with h4
  · simp only [Option.some.injEq, h4, true_and, not_true_eq_false, false_and, or_false, eq_comm]
  · simp only [Option.map_eq_some_iff, h4, false_and, not_false_eq_true, true_and, false_or]
    exact exists_congr fun y => and_congr_right fun _ => eq_comm

theorem decodeSet_family : SetFamily (decodeSet im raddr) := by
  intro n m s out hnm hs
  cases hh : SetHeader.unmarshal s.reader with
  | error e r =>
    rw [decodeSet, hh] at hs ⊢
    exact hs
  | ok hd r =>
    rw [decodeSet, hh] at hs ⊢
    dsimp only at hs ⊢
    split_ifs at hs ⊢
    · exact hs
    · obtain ⟨y, hy, hout⟩ := Option.map_eq_some_iff.mp hs
      rw [Loop.run_mono (fun _ _ hx => hx) hnm hy]
      simp only [Option.map_some, hout]

def EntersPass (im : IANAInfoModel) (raddr : IP) (s : DecodeState) (x : DecodeState × Option Error) : Prop :=
  ¬ (SetHeader.ofBytes s.reader.data).length < 4 ∧ Loop.Visits (setLoop im raddr s) (loopStart raddr s) x

theorem setLoop_kept {P : DecodeState × Option Error → Prop} {n m : Nat} {y : DecodeState × Option Error}
    (hstep : ∀ t x', Loop.Visits (setLoop im raddr s) (loopStart raddr s) (t, none) → P (t, none) →
      recordPass im raddr (SetHeader.ofBytes s.reader.data) s.reader.count (loopTemplate raddr s) (t, none) = .next x' →
      P x')
    (hx : P (loopStart raddr s)) (hrun : Loop.run (setLoop im raddr s n) m (loopStart raddr s) = some y) : P y := by
  refine recordLoop_invariant_visited (fun _ _ hp => recordPass_done hp) ?_ hx hrun
  rintro ⟨t, err⟩ x' hv hinv hp
  obtain rfl := (recordGuard_iff.mp (recordPass_next hp).1).1
  exact hstep t x' hv hinv hp

theorem setLoop_invariant {P : DecodeState × Option Error → Prop} {n m : Nat} {y : DecodeState × Option Error}
    (hstep : ∀ t x', P (t, none) →
      recordGuard (SetHeader.ofBytes s.reader.data) s.reader.count (t, none) = true →
      PassStep im raddr (SetHeader.ofBytes s.reader.data) (loopTemplate raddr s) t x' → P x')
    (hx : P (loopStart raddr s)) (hrun : Loop.run (setLoop im raddr s n) m (loopStart raddr s) = some y) : P y :=
  setLoop_kept (fun t x' _ hinv hp => hstep t x' hinv (recordPass_next hp).1 (recordPass_next hp).2) hx hrun

/-! ## Progress -/

theorem skipLeftover_forward (h : SetHeader) (startCount : Nat) (x : DecodeState × Option Error) :
    ∃ k, k ≤ x.1.reader.len ∧ (skipLeftover h startCount x).1 = { x.1 with reader := x.1.reader.advance k } := by
  obtain ⟨s, err⟩ := x
  simp only [skipLeftover]
  split_ifs with hleft
  · by_cases hle : (leftover h startCount s).toNat ≤ s.reader.len
    · rw [read_of_le hle]
      exact ⟨_, hle, rfl⟩
    · rw [read_of_lt (by omega)]
      exact ⟨0, Nat.zero_le _, by simp⟩
  · exact ⟨0, Nat.zero_le _, by simp⟩

theorem setLoop_visits_past (hlen : 4 < s.reader.len)
    (hv : Loop.Visits (setLoop im raddr s) (loopStart raddr s) x) : s.reader.Past x.1.reader := by
  refine hv.invariant (P := fun z => s.reader.Past z.1.reader) ?_ (Past.header (by omega))
  rintro n ⟨t, err⟩ z ht hnext
  obtain ⟨k, hk, hz⟩ := (recordPass_next (Option.some.inj hnext)).2.forward
  rw [hz]
  exact ht.advance hk

theorem setLoop_past (hlen : 4 < s.reader.len) {n m : Nat} {y : DecodeState × Option Error}
    (hrun : Loop.run (setLoop im raddr s n) m (loopStart raddr s) = some y) : s.reader.Past y.1.reader := by
  obtain ⟨k, x, hv, hdone⟩ := Loop.VisitsIn.of_run hrun
  rw [recordPass_done (Option.some.inj hdone)]
  exact setLoop_visits_past hlen (Loop.visits_iff_visitsIn.mpr ⟨k, hv⟩)

theorem decodeSet_forward (hlen : 4 < s.reader.len) (hs : decodeSet im raddr fuel s = some (s', err)) :
    s.reader.Past s'.reader := by
  rcases (decodeSet_eq_some hlen.le).mp hs with ⟨-, hout⟩ | ⟨-, y, hy, hout⟩
  · obtain ⟨rfl, rfl⟩ := Prod.mk.inj hout
    exact Past.header (by omega)
  · obtain ⟨k, hk, hskip⟩ := skipLeftover_forward (SetHeader.ofBytes s.reader.data) s.reader.count y
    rw [show s' = (s', err).1 from rfl, hout, hskip]
    exact (setLoop_past hlen hy).advance hk

theorem decodeSet_kept {P : DecodeState → Prop} (hreader : ∀ t r, P t → P { t with reader := r })
    (hpass : ∀ t x', EntersPass im raddr s (t, none) → P t → recordPass im raddr (SetHeader.ofBytes s.reader.data)
      s.reader.count (loopTemplate raddr s) (t, none) = .next x' → P x'.1)
    (hlen : 4 < s.reader.len) (hP : P s) (hs : decodeSet im raddr fuel s = some (s', err)) : P s' := by
  rcases (decodeSet_eq_some hlen.le).mp hs with ⟨-, hout⟩ | ⟨h4, y, hy, hout⟩
  · obtain ⟨rfl, -⟩ := Prod.mk.inj hout
    exact hreader s _ hP
  · have hy' : P y.1 := setLoop_kept (P := fun x => P x.1) (fun t x' hv => hpass t x' ⟨h4, hv⟩) (hreader s _ hP) hy
    obtain ⟨k, -, hskip⟩ := skipLeftover_forward (SetHeader.ofBytes s.reader.data) s.reader.count y
    rw [show s' = (s', err).1 from rfl, hout, hskip]
    exact hreader _ _ hy'

theorem decodeSet_invariant {P : DecodeState → Prop} (hreader : ∀ t r, P t → P { t with reader := r })
    (hpass : ∀ t x', P t → PassStep im raddr (SetHeader.ofBytes s.reader.data) (loopTemplate raddr s) t x' → P x'.1)
    (hlen : 4 < s.reader.len) (hP : P s) (hs : decodeSet im raddr fuel s = some (s', err)) : P s' :=
  decodeSet_kept hreader (fun t x' _ ht hp => hpass t x' ht (recordPass_next hp).2) hlen hP hs

end VFlow.Netflow9
