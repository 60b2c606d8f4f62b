import VFlow.Ipfix.Records

/-!
# One IPFIX set

What one pass of the record loop can do (`recordPass_next`, `recordPass_done`), and from it what a
call of `decodeSet` can do: it moves the reader forward by 4 bytes at least (`decodeSet_forward`),
and it returns exactly if the set does not stall (`decodeSet_returns_iff`).

A set stalls when its data branch reads records of no bytes: the reader then stays where it is, the
condition of the loop stays true, and the loop appends the same empty record for ever.
-/

namespace VFlow.Ipfix

open Scan Reader

variable {im : IANAInfoModel} {raddr : IP} {h : SetHeader} {startCount : Nat} {tr : TemplateRecord}
  {s s' : DecodeState} {err err' : Option Error} {x x' : DecodeState × Option Error} {fuel : Nat}

/-! ## One pass -/

/-- The set ids of the data branch: the ids above 255, but also 0 and 1. -/
def SetHeader.IsData (h : SetHeader) : Prop := h.setID < 2 ∨ 255 < h.setID

instance : Decidable h.IsData := inferInstanceAs (Decidable (_ ∨ _))

theorem isData_iff : h.IsData ↔ ¬ (h.setID = 2 ∨ h.setID = 3) ∧ ¬ (h.setID ≥ 4 ∧ h.setID ≤ 255) := by
  simp only [SetHeader.IsData, UInt16.lt_iff_toNat_lt, ← UInt16.toNat_inj, ge_iff_le, UInt16.le_iff_toNat_le]
  change _ ↔ ¬ (h.setID.toNat = 2 ∨ h.setID.toNat = 3) ∧ ¬ (4 ≤ h.setID.toNat ∧ h.setID.toNat ≤ 255)
  change h.setID.toNat < 2 ∨ 255 < h.setID.toNat ↔ _
  omega

theorem recordGuard_iff : recordGuard h startCount (s, err) = true ↔
    err = none ∧ UInt16.ofNat (s.reader.count - startCount) < h.length ∧ 4 < s.reader.len := by
  simp [recordGuard, readCount, and_assoc]

theorem recordPass_of_guard (hg : recordGuard h startCount x = true) :
    recordPass im raddr h startCount tr x = recordBody im raddr h tr x := by
  rw [recordPass, if_pos hg]

theorem recordPass_of_not_guard (hg : ¬ recordGuard h startCount x = true) :
    recordPass im raddr h startCount tr x = .done x := by
  rw [recordPass, if_neg hg]

theorem recordBody_data (hd : h.IsData) :
    recordBody im raddr h tr (s, err) =
      match decodeData im tr s.reader with
      | .ok data r =>
        .next ({ s with reader := r, msg := { s.msg with dataSets := s.msg.dataSets ++ [data] } }, none)
      | .error e r => .next ({ s with reader := r }, some e) := by
  obtain ⟨h1, h2⟩ := isData_iff.mp hd
  cases hdec : decodeData im tr s.reader with
  | ok data r => simp only [recordBody, if_neg h1, if_neg h2, hdec]
  | error e r => simp only [recordBody, if_neg h1, if_neg h2, hdec]

theorem recordBody_reserved (hid : h.setID ≥ 4 ∧ h.setID ≤ 255) :
    recordBody im raddr h tr (s, err) = .done (s, err) := by
  have htemplate : ¬ (h.setID = 2 ∨ h.setID = 3) := by
    rintro (h2 | h3)
    · rw [h2] at hid
      exact absurd hid.1 (by decide)
    · rw [h3] at hid
      exact absurd hid.1 (by decide)
  rw [recordBody]
  dsimp only
  rw [if_neg htemplate, if_pos hid]

/-- The template record at the reader, as a set of either kind has it. -/
def readTemplate (id : UInt16) (r : Reader) : TemplateRecord × Option Error × Reader :=
  if id = 2 then TemplateRecord.unmarshal r else TemplateRecord.unmarshalOpts r

theorem peekUint16_eq_zero {r : Reader} (hlen : 4 < r.len) :
    r.peekUint16.toOption = some 0 ↔ BigEndian.uint16 r.data = 0 := by
  rw [peekUint16_of_le (by omega), BigEndian.uint16_take (by change 2 ≤ r.len; omega)]
  exact Option.some_inj

theorem recordBody_templateSet {t : DecodeState} (hid : h.setID = 2 ∨ h.setID = 3) (hlen : 4 < t.reader.len) :
    recordBody im raddr h tr (t, none) =
      if BigEndian.uint16 t.reader.data = 0 then .done (t, none)
      else
        match readTemplate h.setID t.reader with
        | (new, none, r) => .next ({ t with reader := r, mem := t.mem.insert new.templateID raddr new }, none)
        | (_, some _, r) => .next ({ t with reader := r }, none) := by
  rw [recordBody]
  unfold readTemplate
  simp only [if_pos hid, peekUint16_eq_zero hlen]
  generalize (if h.setID = 2 then TemplateRecord.unmarshal t.reader else TemplateRecord.unmarshalOpts t.reader) = q
  obtain ⟨new, err, r⟩ := q
  cases err <;> rfl

theorem recordPass_done {y : DecodeState × Option Error}
    (hp : recordPass im raddr h startCount tr x = .done y) : y = x := by
  obtain ⟨s, err⟩ := x
  by_cases hg : recordGuard h startCount (s, err) = true
  · rw [recordPass_of_guard hg, recordBody] at hp
    dsimp only at hp
    split_ifs at hp <;> (try split at hp) <;> simp_all
  · rw [recordPass_of_not_guard hg] at hp
    exact (LoopStep.done.inj hp).symm

/-- What a pass that goes round can do: read a template record, store it or drop it, and carry on;
append a data record; or stop at an error of a data record. -/
inductive PassStep (im : IANAInfoModel) (raddr : IP) (h : SetHeader) (tr : TemplateRecord) (s : DecodeState) :
    DecodeState × Option Error → Prop
  | stored (k : Nat) (t : TemplateRecord) (hid : h.setID = 2 ∨ h.setID = 3) (hk : 4 ≤ k) (hle : k ≤ s.reader.len) :
      PassStep im raddr h tr s
        ({ s with reader := s.reader.advance k, mem := s.mem.insert t.templateID raddr t }, none)
  | dropped (k : Nat) (hid : h.setID = 2 ∨ h.setID = 3) (hk : 4 ≤ k) (hle : k ≤ s.reader.len) :
      PassStep im raddr h tr s ({ s with reader := s.reader.advance k }, none)
  | record (data : List DecodedField) (hid : h.IsData) (hk : tr.Known im) (hle : tr.recordLength ≤ s.reader.len) :
      PassStep im raddr h tr s
        ({ s with reader := s.reader.advance tr.recordLength,
                  msg := { s.msg with dataSets := s.msg.dataSets ++ [data] } }, none)
  | failed (k : Nat) (e : Error) (hid : h.IsData) (hle : k ≤ s.reader.len)
      (he : decodeData im tr s.reader = .error e (s.reader.advance k)) :
      PassStep im raddr h tr s ({ s with reader := s.reader.advance k }, some e)

theorem recordPass_next (hp : recordPass im raddr h startCount tr (s, err) = .next x') :
    recordGuard h startCount (s, err) = true ∧ PassStep im raddr h tr s x' := by
  by_cases hg : recordGuard h startCount (s, err) = true
  swap
  · rw [recordPass_of_not_guard hg] at hp
    cases hp
  refine ⟨hg, ?_⟩
  obtain ⟨rfl, -, hlen⟩ := recordGuard_iff.mp hg
  rw [recordPass_of_guard hg] at hp
  by_cases hd : h.IsData
  · rw [recordBody_data hd] at hp
    obtain ⟨k, hk, hr⟩ := forward_decodeData im tr s.reader
    cases hdec : decodeData im tr s.reader with
    | ok data r =>
      rw [hdec] at hp
      obtain ⟨hknown, hle, rfl⟩ := decodeData_ok hdec
      obtain rfl := LoopStep.next.inj hp
      exact .record data hd hknown hle
    | error e r =>
      rw [hdec] at hp hr
      rw [final_error] at hr
      subst hr
      obtain rfl := LoopStep.next.inj hp
      exact .failed k e hd hk hdec
  · by_cases hid : h.setID = 2 ∨ h.setID = 3
    · rw [recordBody] at hp
      dsimp only at hp
      rw [if_pos hid] at hp
      split_ifs at hp with hpeek h2
      -- the two kinds of template records, each read completely or not
      · obtain ⟨k, hk4, hk, hr⟩ := unmarshal_forward (show 4 ≤ s.reader.len by omega)
        rw [hr] at hp
        split at hp
        · obtain rfl := LoopStep.next.inj hp
          exact .stored k _ hid hk4 hk
        · obtain rfl := LoopStep.next.inj hp
          exact .dropped k hid hk4 hk
      · obtain ⟨k, hk4, hk, hr⟩ := unmarshalOpts_forward (show 4 ≤ s.reader.len by omega)
        rw [hr] at hp
        split at hp
        · obtain rfl := LoopStep.next.inj hp
          exact .stored k _ hid hk4 hk
        · obtain rfl := LoopStep.next.inj hp
          exact .dropped k hid hk4 hk
    · rw [recordBody_reserved (by
        by_contra hres
        exact hd (isData_iff.mpr ⟨hid, hres⟩))] at hp
      cases hp

theorem PassStep.mem_eq (hp : PassStep im raddr h tr s x') (hd : h.IsData) : x'.1.mem = s.mem := by
  cases hp with
  | stored j u hid _ _ => exact absurd hid (isData_iff.mp hd).1
  | dropped j hid _ _ => rfl
  | record data _ _ _ => rfl
  | failed j e _ _ _ => rfl

theorem PassStep.isData (hp : PassStep im raddr h tr s x') (hid : ¬ (h.setID = 2 ∨ h.setID = 3)) : h.IsData := by
  cases hp with
  | stored j u hid' _ _ => exact absurd hid' hid
  | dropped j hid' _ _ => exact absurd hid' hid
  | record data hd _ _ => exact hd
  | failed j e hd _ _ => exact hd

theorem PassStep.forward (hp : PassStep im raddr h tr s x') :
    ∃ k, k ≤ s.reader.len ∧ x'.1.reader = s.reader.advance k := by
  cases hp with
  | stored k t _ _ hle => exact ⟨k, hle, rfl⟩
  | dropped k _ _ hle => exact ⟨k, hle, rfl⟩
  | record data _ _ hle => exact ⟨_, hle, rfl⟩
  | failed k e _ hle _ => exact ⟨k, hle, rfl⟩

/-! ## The record loop -/

/-- The template of the set at the reader, and the state in which its record loop starts. -/
def loopStart (raddr : IP) (s : DecodeState) : TemplateRecord × DecodeState × Option Error :=
  setTemplate raddr (SetHeader.ofBytes s.reader.data) { s with reader := s.reader.advance 4 }

theorem loopStart_eq (raddr : IP) (s : DecodeState) :
    ∃ rpc, (loopStart raddr s).2.1 = { s with reader := s.reader.advance 4, rpc } := by
  unfold loopStart setTemplate
  split_ifs
  · split <;> exact ⟨_, rfl⟩
  · exact ⟨_, rfl⟩

theorem loopStart_reader (raddr : IP) (s : DecodeState) : (loopStart raddr s).2.1.reader = s.reader.advance 4 := by
  obtain ⟨rpc, h⟩ := loopStart_eq raddr s
  rw [h]

/-- The record loop of the set at the reader. -/
abbrev setLoop (im : IANAInfoModel) (raddr : IP) (s : DecodeState) :
    Nat → DecodeState × Option Error → Option (LoopStep (DecodeState × Option Error) (DecodeState × Option Error)) :=
  recordLoop (recordPass im raddr (SetHeader.ofBytes s.reader.data) s.reader.count (loopStart raddr s).1)

theorem decodeSet_eq (hlen : 4 ≤ s.reader.len) :
    decodeSet im raddr fuel s =
      if (SetHeader.ofBytes s.reader.data).length < 4 then
        some ({ s with reader := s.reader.advance 4 }, some .errUnexpectedEOF)
      else
        (Loop.run (setLoop im raddr s fuel)
          fuel (loopStart raddr s).2).map (skipLeftover (SetHeader.ofBytes s.reader.data) s.reader.count) := by
  rw [decodeSet, setHeader_of_le hlen]
  rfl

/-- `decodeSet` returns: the set's length is below 4, or its record loop returns. -/
theorem decodeSet_eq_some (hlen : 4 ≤ s.reader.len) {out : DecodeState × Option Error} :
    decodeSet im raddr fuel s = some out ↔
      (SetHeader.ofBytes s.reader.data).length < 4 ∧
          out = ({ s with reader := s.reader.advance 4 }, some .errUnexpectedEOF) ∨
        ¬ (SetHeader.ofBytes s.reader.data).length < 4 ∧
          ∃ y, Loop.run (setLoop im raddr s fuel) fuel (loopStart raddr s).2 = some y ∧
            out = skipLeftover (SetHeader.ofBytes s.reader.data) s.reader.count y := by
  rw [decodeSet_eq hlen]
  split_ifs with h4
  · simp only [Option.some.injEq, h4, true_and, not_true_eq_false, false_and, or_false, eq_comm]
  · simp only [Option.map_eq_some_iff, h4, false_and, not_false_eq_true, true_and, false_or]
    exact exists_congr fun y => and_congr_right fun _ => eq_comm

theorem decodeSet_family : SetFamily (decodeSet im raddr) := by
  intro n m s out hnm hs
  cases hh : SetHeader.unmarshal s.reader with
  | error e r =>
    rw [decodeSet, hh] at hs ⊢
    exact hs
  | ok hd r =>
    rw [decodeSet, hh] at hs ⊢
    dsimp only at hs ⊢
    split_ifs at hs ⊢
    · exact hs
    · obtain ⟨y, hy, hout⟩ := Option.map_eq_some_iff.mp hs
      rw [Loop.run_mono (fun _ _ hx => hx) hnm hy]
      simp only [Option.map_some, hout]

/-- The record loop of the set at the reader of `s` comes to a pass in `x`. -/
def EntersPass (im : IANAInfoModel) (raddr : IP) (s : DecodeState) (x : DecodeState × Option Error) : Prop :=
  ¬ (SetHeader.ofBytes s.reader.data).length < 4 ∧
    Loop.Visits (setLoop im raddr s) (loopStart raddr s).2 x

theorem setLoop_kept {P : DecodeState × Option Error → Prop} {n m : Nat} {y : DecodeState × Option Error}
    (hstep : ∀ t x', Loop.Visits (setLoop im raddr s) (loopStart raddr s).2 (t, none) → P (t, none) →
      recordPass im raddr (SetHeader.ofBytes s.reader.data) s.reader.count (loopStart raddr s).1 (t, none) = .next x' →
      P x')
    (hx : P (loopStart raddr s).2) (hrun : Loop.run (setLoop im raddr s n) m (loopStart raddr s).2 = some y) :
    P y := by
  refine recordLoop_invariant_visited (fun _ _ hp => recordPass_done hp) ?_ hx hrun
  rintro ⟨t, err⟩ x' hv hinv hp
  obtain rfl := (recordGuard_iff.mp (recordPass_next hp).1).1
  exact hstep t x' hv hinv hp

theorem setLoop_invariant {P : DecodeState × Option Error → Prop} {n m : Nat} {y : DecodeState × Option Error}
    (hstep : ∀ t x', P (t, none) →
      recordGuard (SetHeader.ofBytes s.reader.data) s.reader.count (t, none) = true →
      PassStep im raddr (SetHeader.ofBytes s.reader.data) (loopStart raddr s).1 t x' → P x')
    (hx : P (loopStart raddr s).2) (hrun : Loop.run (setLoop im raddr s n) m (loopStart raddr s).2 = some y) :
    P y :=
  setLoop_kept (fun t x' _ hinv hp => hstep t x' hinv (recordPass_next hp).1 (recordPass_next hp).2) hx hrun

/-! ## Progress -/

theorem skipLeftover_forward (h : SetHeader) (startCount : Nat) (x : DecodeState × Option Error) :
    ∃ k, k ≤ x.1.reader.len ∧ (skipLeftover h startCount x).1 = { x.1 with reader := x.1.reader.advance k } := by
  obtain ⟨s, err⟩ := x
  simp only [skipLeftover]
  split_ifs with hleft
  · by_cases hle : (h.length - UInt16.ofNat (s.reader.readCount - startCount)).toNat ≤ s.reader.len
    · rw [read_of_le hle]
      exact ⟨_, hle, rfl⟩
    · rw [read_of_lt (by omega)]
      exact ⟨0, Nat.zero_le _, by simp⟩
  · exact ⟨0, Nat.zero_le _, by simp⟩

theorem setLoop_visits_past (hlen : 4 < s.reader.len)
    (hv : Loop.Visits (setLoop im raddr s) (loopStart raddr s).2 x) : s.reader.Past x.1.reader := by
  refine hv.invariant (P := fun z => s.reader.Past z.1.reader) ?_ ?_
  · rintro n ⟨t, err⟩ z ht hnext
    obtain ⟨k, hk, hz⟩ := (recordPass_next (Option.some.inj hnext)).2.forward
    rw [hz]
    exact ht.advance hk
  · rw [loopStart_reader]
    exact Past.header (by omega)

theorem setLoop_past (hlen : 4 < s.reader.len) {n m : Nat} {y : DecodeState × Option Error}
    (hrun : Loop.run (setLoop im raddr s n) m (loopStart raddr s).2 = some y) : s.reader.Past y.1.reader := by
  obtain ⟨k, x, hv, hdone⟩ := Loop.VisitsIn.of_run hrun
  rw [recordPass_done (Option.some.inj hdone)]
  exact setLoop_visits_past hlen (Loop.visits_iff_visitsIn.mpr ⟨k, hv⟩)

theorem decodeSet_forward (hlen : 4 < s.reader.len) (hs : decodeSet im raddr fuel s = some (s', err)) :
    s.reader.Past s'.reader := by
  rcases (decodeSet_eq_some hlen.le).mp hs with ⟨-, hout⟩ | ⟨-, y, hy, hout⟩
  · obtain ⟨rfl, rfl⟩ := Prod.mk.inj hout
    exact Past.header (by omega)
  · obtain ⟨k, hk, hskip⟩ := skipLeftover_forward (SetHeader.ofBytes s.reader.data) s.reader.count y
    rw [show s' = (s', err).1 from rfl, hout, hskip]
    exact (setLoop_past hlen hy).advance hk

theorem decodeSet_kept {P : DecodeState → Prop}
    (hadvance : ∀ t k rpc, P t → P { t with reader := t.reader.advance k, rpc := rpc })
    (hpass : ∀ t x', EntersPass im raddr s (t, none) → P t → recordPass im raddr (SetHeader.ofBytes s.reader.data)
      s.reader.count (loopStart raddr s).1 (t, none) = .next x' → P x'.1)
    (hlen : 4 < s.reader.len) (hP : P s) (hs : decodeSet im raddr fuel s = some (s', err)) : P s' := by
  rcases (decodeSet_eq_some hlen.le).mp hs with ⟨-, hout⟩ | ⟨h4, y, hy, hout⟩
  · obtain ⟨rfl, -⟩ := Prod.mk.inj hout
    exact hadvance s 4 s.rpc hP
  · have hy' : P y.1 := by
      refine setLoop_kept (P := fun x => P x.1) (fun t x' hv => hpass t x' ⟨h4, hv⟩) ?_ hy
      obtain ⟨rpc, hstart⟩ := loopStart_eq raddr s
      rw [hstart]
      exact hadvance s 4 rpc hP
    obtain ⟨k, -, hskip⟩ := skipLeftover_forward (SetHeader.ofBytes s.reader.data) s.reader.count y
    rw [show s' = (s', err).1 from rfl, hout, hskip]
    exact hadvance y.1 k y.1.rpc hy'

end VFlow.Ipfix
