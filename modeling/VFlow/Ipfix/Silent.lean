import VFlow.Ipfix.Containment

/-!
# The sets that are read without an error

A set which is not the last one of its packet raises no error exactly if it is `Silent`, which is said with its
bytes and the cache: it ends in the packet, its template is known and its data records are whole, and no template
record runs past its end (`decodeSet_eq_none_iff`). An incomplete template record raises no error either, but
nothing of the packet is left behind it.
-/

namespace VFlow.Ipfix

open Scan Reader

variable {im : IANAInfoModel} {raddr : IP} {h : SetHeader} {s s' t : DecodeState} {err : Option Error}
  {mem : MemCache TemplateRecord} {b : List UInt8} {fuel : Nat}

/-- The set at the front of `b` ends in the packet, with another set behind it. A data set has a cached template,
and consists of whole records of it, all of whose elements are known; the records of a template set end inside it. -/
def Silent (im : IANAInfoModel) (raddr : IP) (mem : MemCache TemplateRecord) (b : List UInt8) : Prop :=
  4 ≤ (SetHeader.ofBytes b).length.toNat ∧ (SetHeader.ofBytes b).length.toNat + 4 < b.length ∧
    ((SetHeader.ofBytes b).IsData → ∃ tr, dataTemplate raddr mem (SetHeader.ofBytes b) = some tr ∧
      ((SetHeader.ofBytes b).length.toNat = 4 ∨
        tr.Known im ∧ ((SetHeader.ofBytes b).length.toNat - 4) % tr.recordLength = 0)) ∧
    ((SetHeader.ofBytes b).setID = 2 ∨ (SetHeader.ofBytes b).setID = 3 →
      ¬ Overruns (recordSize im (SetHeader.ofBytes b) {}) ((SetHeader.ofBytes b).length.toNat - 4) (b.drop 4))

theorem Silent.fits (hs : Silent im raddr mem b) : Fits im raddr mem b := by
  obtain ⟨h4, hin, hdata, -⟩ := hs
  refine ⟨h4, by omega, fun hd tr htr => ?_⟩
  obtain ⟨tr', htr', hrest⟩ := hdata hd
  obtain rfl := Option.some.inj (htr.symm.trans htr')
  rcases hrest with hl | ⟨hk, hmod⟩
  · rw [hl]
    exact ⟨fun _ => Or.inl (Nat.zero_mod _), fun _ => Or.inl rfl⟩
  · exact ⟨fun _ => Or.inl hmod, fun hnk => absurd hk hnk⟩

theorem skipLeftover_err (h : SetHeader) (startCount : Nat) (x : DecodeState × Option Error) :
    (skipLeftover h startCount x).2 = x.2 ∨ (skipLeftover h startCount x).2 = some .errReader := by
  obtain ⟨t, err⟩ := x
  simp only [skipLeftover]
  split_ifs with hleft
  · by_cases hle : (h.length - UInt16.ofNat (t.reader.readCount - startCount)).toNat ≤ t.reader.len
    · rw [read_of_le hle]
      exact Or.inl rfl
    · rw [read_of_lt (by omega)]
      exact Or.inr rfl
  · exact Or.inl rfl

theorem loop_of_decodeSet_none (hlen : 4 < s.reader.len) (hset : decodeSet im raddr fuel s = some (s', none)) :
    ¬ (SetHeader.ofBytes s.reader.data).length < 4 ∧
      ∃ y, Loop.run (setLoop im raddr s fuel) fuel (loopStart raddr s).2 = some y ∧ y.2 = none ∧
        (s', none) = skipLeftover (SetHeader.ofBytes s.reader.data) s.reader.count y := by
  rcases (decodeSet_eq_some hlen.le).mp hset with ⟨-, hout⟩ | ⟨h4, y, hy, hout⟩
  · cases hout
  refine ⟨h4, y, hy, ?_, hout⟩
  rcases skipLeftover_err (SetHeader.ofBytes s.reader.data) s.reader.count y with herr | herr
  · rw [← herr, ← hout]
  · rw [← hout] at herr
    cases herr

/-! ## Sets without template records -/

theorem known_of_loop_none {y : DecodeState × Option Error} {n m : Nat}
    (hd : (SetHeader.ofBytes s.reader.data).IsData) (h4 : 4 < (SetHeader.ofBytes s.reader.data).length.toNat)
    (hlen : 8 < s.reader.len) (hy : Loop.run (setLoop im raddr s n) m (loopStart raddr s).2 = some y)
    (hnone : y.2 = none) : (loopStart raddr s).1.Known im := by
  have hinv : y.2 = none → (loopStart raddr s).1.Known im ∨ y.1.reader = s.reader.advance 4 := by
    refine setLoop_invariant (P := fun x => x.2 = none → (loopStart raddr s).1.Known im ∨
      x.1.reader = s.reader.advance 4) (fun t x' _ _ hp => ?_) (fun _ => Or.inr (loopStart_reader raddr s)) hy
    cases hp with
    | stored j u hid _ _ => exact absurd hid (isData_iff.mp hd).1
    | dropped j hid _ _ => exact absurd hid (isData_iff.mp hd).1
    | record data _ hk _ => exact fun _ => Or.inl hk
    | failed j e _ _ _ => exact fun hnone => (by cases hnone)
  refine (hinv hnone).resolve_right fun hread => ?_
  -- at the first record the loop goes round
  have hg : recordGuard (SetHeader.ofBytes s.reader.data) s.reader.count y = true :=
    (recordGuard_of_le hread rfl (by omega)).mpr ⟨hnone, h4, by omega⟩
  have hdone := recordLoop_end (fun _ _ hp => recordPass_done hp) hy
  rw [recordPass_of_guard hg, show y = (y.1, y.2) from rfl, recordBody_data hd] at hdone
  split at hdone <;> cases hdone

/-- What the record loop raises without need to stop the packet is an unknown template, or an unknown element. -/
theorem skippable_of_loop {y : DecodeState × Option Error} {n m : Nat} {e : Error}
    (hid : ¬ ((SetHeader.ofBytes s.reader.data).setID = 2 ∨ (SetHeader.ofBytes s.reader.data).setID = 3))
    (hy : Loop.run (setLoop im raddr s n) m (loopStart raddr s).2 = some y) (hsome : y.2 = some e)
    (he : e.Skippable) :
    (loopStart raddr s).2.2 = some e ∨
      (SetHeader.ofBytes s.reader.data).IsData ∧ ¬ (loopStart raddr s).1.Known im := by
  refine setLoop_invariant (P := fun x => x.2 = some e → (loopStart raddr s).2.2 = some e ∨
    (SetHeader.ofBytes s.reader.data).IsData ∧ ¬ (loopStart raddr s).1.Known im) (fun t x' _ _ hp => ?_)
    Or.inl hy hsome
  have hd := hp.isData hid
  cases hp with
  | stored j u hid' _ _ => exact absurd hid' hid
  | dropped j hid' _ _ => exact absurd hid' hid
  | record data _ _ _ => exact fun hsome => (by cases hsome)
  | failed j e' _ _ hdec =>
    intro hsome
    obtain rfl := Option.some.inj hsome
    exact Or.inr ⟨hd, (decodeData_skippable hdec he).1⟩

theorem loop_of_not_guard {y : DecodeState × Option Error} {n m : Nat}
    (hg : ¬ recordGuard (SetHeader.ofBytes s.reader.data) s.reader.count (loopStart raddr s).2 = true)
    (hy : Loop.run (setLoop im raddr s n) m (loopStart raddr s).2 = some y) : y = (loopStart raddr s).2 := by
  obtain ⟨_, -, hdone | ⟨x', hnext, -⟩⟩ := Loop.run_cases hy
  · exact recordPass_done (Option.some.inj hdone)
  · have hnext := Option.some.inj hnext
    rw [recordPass_of_not_guard hg] at hnext
    cases hnext

theorem loop_of_length_eq {y : DecodeState × Option Error} {n m : Nat}
    (h4 : (SetHeader.ofBytes s.reader.data).length.toNat = 4)
    (hy : Loop.run (setLoop im raddr s n) m (loopStart raddr s).2 = some y) : y = (loopStart raddr s).2 := by
  refine loop_of_not_guard (fun hg => ?_) hy
  have hlt := UInt16.lt_iff_toNat_lt.mp (recordGuard_loopStart.mp hg).2.1
  rw [h4] at hlt
  exact absurd hlt (Nat.lt_irrefl 4)

variable (raddr) in
theorem loopStart_of_not_data (hd : ¬ (SetHeader.ofBytes s.reader.data).IsData) :
    (loopStart raddr s).1 = {} ∧ (loopStart raddr s).2.2 = none := by
  have hid : ¬ (SetHeader.ofBytes s.reader.data).setID > 255 := fun hid => hd (Or.inr hid)
  rw [loopStart, setTemplate, if_neg hid]
  exact ⟨rfl, rfl⟩

theorem err_none_of_silent (hlen : 4 < s.reader.len)
    (hid : ¬ ((SetHeader.ofBytes s.reader.data).setID = 2 ∨ (SetHeader.ofBytes s.reader.data).setID = 3))
    (hs : Silent im raddr s.mem s.reader.data) (hset : decodeSet im raddr fuel s = some (s', err)) : err = none := by
  obtain ⟨hskip, -⟩ := decodeSet_of_fits hlen hid hs.fits hset
  obtain ⟨h4, -, hdata, -⟩ := hs
  rcases (decodeSet_eq_some hlen.le).mp hset with ⟨hlt, -⟩ | ⟨-, y, hy, hout⟩
  · exact absurd (UInt16.lt_iff_toNat_lt.mp hlt) (Nat.not_lt.mpr h4)
  have hout : err = (skipLeftover (SetHeader.ofBytes s.reader.data) s.reader.count y).2 := congrArg Prod.snd hout
  cases err with
  | none => rfl
  | some e =>
    have he : e.Skippable := hskip e rfl
    have hy2 : y.2 = some e := by
      rcases skipLeftover_err (SetHeader.ofBytes s.reader.data) s.reader.count y with herr | herr
      · rw [← herr, ← hout]
      · rw [← hout] at herr
        obtain rfl := Option.some.inj herr
        exact absurd he id
    -- the template is known, and so are its elements unless the set is empty
    by_cases hd : (SetHeader.ofBytes s.reader.data).IsData
    · obtain ⟨tr, htr, hrest⟩ := hdata hd
      obtain ⟨hnone, rfl⟩ := loopStart_of_dataTemplate htr
      rcases hrest with hempty | ⟨hknown, -⟩
      · rw [loop_of_length_eq hempty hy, hnone] at hy2
        cases hy2
      · rcases skippable_of_loop hid hy hy2 he with hstart | ⟨-, hunknown⟩
        · rw [hnone] at hstart
          cases hstart
        · exact absurd hknown hunknown
    · rcases skippable_of_loop hid hy hy2 he with hstart | ⟨hd', -⟩
      · rw [(loopStart_of_not_data raddr hd).2] at hstart
        cases hstart
      · exact absurd hd' hd

/-! ## Sets of template records -/

theorem loop_templates_none {y : DecodeState × Option Error} {n m : Nat}
    (hid : (SetHeader.ofBytes s.reader.data).setID = 2 ∨ (SetHeader.ofBytes s.reader.data).setID = 3)
    (hy : Loop.run (setLoop im raddr s n) m (loopStart raddr s).2 = some y) : y.2 = none := by
  have hd : ¬ (SetHeader.ofBytes s.reader.data).IsData := fun hd => (isData_iff.mp hd).1 hid
  refine setLoop_invariant (P := fun x => x.2 = none) (fun t x' _ _ hp => ?_) (loopStart_of_not_data raddr hd).2 hy
  cases hp with
  | stored j u _ _ _ => rfl
  | dropped j _ _ _ => rfl
  | record data hd' _ _ => exact absurd hd' hd
  | failed j e hd' _ _ => exact absurd hd' hd

/-- Where a set of template records leaves another set, and its records end inside it, no more than the set was
read. -/
theorem err_none_of_contained (hlen : 4 < s.reader.len) (hnext : 4 < s'.reader.len)
    (hid : (SetHeader.ofBytes s.reader.data).setID = 2 ∨ (SetHeader.ofBytes s.reader.data).setID = 3)
    (h4 : 4 ≤ (SetHeader.ofBytes s.reader.data).length.toNat)
    (hin : (SetHeader.ofBytes s.reader.data).length.toNat ≤ s.reader.len)
    (hover : ¬ Overruns (recordSize im (SetHeader.ofBytes s.reader.data) {})
      ((SetHeader.ofBytes s.reader.data).length.toNat - 4) (s.reader.data.drop 4))
    (hset : decodeSet im raddr fuel s = some (s', err)) : err = none := by
  rcases (decodeSet_eq_some hlen.le).mp hset with ⟨hlt, -⟩ | ⟨-, y, hy, hout⟩
  · exact absurd (UInt16.lt_iff_toNat_lt.mp hlt) (Nat.not_lt.mpr h4)
  have hd : ¬ (SetHeader.ofBytes s.reader.data).IsData := fun hd => (isData_iff.mp hd).1 hid
  have hy2 := loop_templates_none hid hy
  have hinset : InSet im raddr s y := by
    refine setLoop_kept (P := InSet im raddr s) (fun t x' _ ht hp => (ht.pass hp).1) ?_ hy
    rw [← (loopStart_of_not_data raddr hd).1] at hover
    exact Or.inr ⟨4, Nat.le_refl 4, h4, loopStart_reader raddr s, hover⟩
  rcases hinset with (herr | hshort) | ⟨j, -, hj, hread, -⟩
  · rw [hy2] at herr
    cases herr
  · -- the packet would end with this set
    obtain ⟨k, -, hskip⟩ := skipLeftover_forward (SetHeader.ofBytes s.reader.data) s.reader.count y
    rw [← hout] at hskip
    dsimp only at hskip
    rw [hskip, Cursor.len_advance] at hnext
    omega
  · rw [skipLeftover_of_le hread (le_trans hj hin) hj, if_pos hin, hy2] at hout
    exact (Prod.mk.inj hout).2

theorem not_overruns_of_err_none (hsmall : s.reader.len < 2 ^ 16) (hlen : 4 < s.reader.len)
    (hid : (SetHeader.ofBytes s.reader.data).setID = 2 ∨ (SetHeader.ofBytes s.reader.data).setID = 3)
    (hset : decodeSet im raddr fuel s = some (s', none)) :
    ¬ Overruns (recordSize im (SetHeader.ofBytes s.reader.data) {})
      ((SetHeader.ofBytes s.reader.data).length.toNat - 4) (s.reader.data.drop 4) := by
  obtain ⟨h4, y, hy, -, hout⟩ := loop_of_decodeSet_none hlen hset
  have hd : ¬ (SetHeader.ofBytes s.reader.data).IsData := fun hd => (isData_iff.mp hd).1 hid
  have hempty : dataTemplate raddr s.mem (SetHeader.ofBytes s.reader.data) = some {} := by
    rw [dataTemplate_of_loopStart (loopStart_of_not_data raddr hd).2, (loopStart_of_not_data raddr hd).1]
  refine (setContained_iff im raddr s).mp (fun t t' hv hp _ => ?_) {} hempty
  obtain ⟨k, hk4, hk, hread⟩ := setLoop_past hlen hy
  -- not more than the set was read in all, and so not by this pass
  have hle : k ≤ (SetHeader.ofBytes s.reader.data).length.toNat := by
    by_contra hgt
    rw [skipLeftover_of_lt hsmall hread hk (Nat.not_le.mp hgt)] at hout
    cases hout
  have hfam : Loop.Family (setLoop im raddr s) := fun _ _ _ _ _ hx => hx
  obtain ⟨m, hrest⟩ := (Loop.Returns.of_run hfam hy).of_visits hfam (hv.2.tail ⟨0, congrArg some hp⟩)
  have hlast : t'.reader.count ≤ y.1.reader.count := by
    refine recordLoop_invariant (P := fun x => t'.reader.count ≤ x.1.reader.count)
      (fun _ _ hp => recordPass_done hp) (fun x x' hx hp => ?_) (Nat.le_refl _) hrest
    obtain ⟨j, -, hj⟩ := (recordPass_next hp).2.forward
    rw [hj, Cursor.advance_count]
    omega
  obtain ⟨j, hj4, -, hj⟩ := setLoop_visits_past hlen hv.2
  dsimp only at hj
  rw [hread, Cursor.advance_count] at hlast
  rw [hj, Cursor.advance_count]
  omega

/-! ## Silent sets -/

/-- **Silent sets.** In a packet of at most 65535 bytes, a set with another set behind it is read without an error
exactly if it is silent. -/
theorem decodeSet_eq_none_iff (hb : b.length ≤ 65535) (he : Enters im raddr mem b s)
    (hset : decodeSet im raddr fuel s = some (s', err)) (hnext : 4 < s'.reader.len) :
    err = none ↔ Silent im raddr s.mem s.reader.data := by
  have hlen := he.len
  have hsmall : s.reader.len < 2 ^ 16 := by
    have := he.within.2.1
    omega
  constructor
  · rintro rfl
    have hend := (decodeSet_exact hb he hset).1 (by simp)
    have hfits : Fits im raddr s.mem s.reader.data := by
      by_contra hnot
      obtain ⟨e, he, -⟩ := decodeSet_of_not_fits hsmall hlen hnot hset
      cases he
    obtain ⟨h4, hin, hdata⟩ := hfits
    rw [hend, Cursor.len_advance] at hnext
    refine ⟨h4, Nat.lt_sub_iff_add_lt'.mp hnext, fun hd => ?_, fun hid =>
      not_overruns_of_err_none hsmall hlen hid hset⟩
    obtain ⟨-, y, hy, hy2, -⟩ := loop_of_decodeSet_none hlen hset
    have hnone : (loopStart raddr s).2.2 = none := by
      by_contra hsome
      rw [loop_of_not_guard (fun hg => hsome (recordGuard_loopStart.mp hg).1) hy] at hy2
      exact hsome hy2
    refine ⟨_, dataTemplate_of_loopStart hnone, or_iff_not_imp_left.mpr fun hne => ?_⟩
    have hknown := known_of_loop_none hd (by omega) (by omega) hy hy2
    refine ⟨hknown, ((hdata hd _ (dataTemplate_of_loopStart hnone)).1 hknown).resolve_right fun hle => ?_⟩
    change _ + (s.reader.len - _) ≤ 4 at hle
    omega
  · intro hs
    by_cases hid : (SetHeader.ofBytes s.reader.data).setID = 2 ∨ (SetHeader.ofBytes s.reader.data).setID = 3
    · exact err_none_of_contained hlen hnext hid hs.1 hs.fits.2.1 (hs.2.2.2 hid) hset
    · exact err_none_of_silent hlen hid hs hset

end VFlow.Ipfix
