import VFlow.Ipfix.Termination

/-!
# The framing of IPFIX sets

After the record loop `decodeSet` skips `Length - (ReadCount - startCount)` bytes, modulo `2 ^ 16`. When
the last record has run past the end of the set the difference wraps round, and the skip then asks for
more bytes than a packet of at most 65535 bytes has left (`skipLeftover_of_lt`). So where no error but an
unknown template or element is raised, the reader stands at the end of the set.

`Fits` says when this is the case for a set without template records.
-/

namespace VFlow.Ipfix

open Scan Reader

variable {im : IANAInfoModel} {raddr : IP} {h : SetHeader} {s s' : DecodeState} {err : Option Error}
  {y : DecodeState × Option Error} {fuel k : Nat}

/-! ## The end of a set -/

theorem leftover_toNat (hread : y.1.reader = s.reader.advance k) (hk : k < 2 ^ 16) :
    (h.length - UInt16.ofNat (y.1.reader.readCount - s.reader.count)).toNat =
      (2 ^ 16 - k + h.length.toNat) % 2 ^ 16 := by
  rw [readCount, hread, Cursor.advance_count, Nat.add_sub_cancel_left, UInt16.toNat_sub, UInt16.toNat_ofNat',
    Nat.mod_eq_of_lt hk]

theorem skipLeftover_of_le (hread : y.1.reader = s.reader.advance k) (hlen : k ≤ s.reader.len)
    (hk : k ≤ h.length.toNat) :
    skipLeftover h s.reader.count y =
      if h.length.toNat ≤ s.reader.len then
        ({ y.1 with reader := s.reader.advance h.length.toNat }, y.2)
      else (y.1, some .errReader) := by
  obtain ⟨t, e⟩ := y
  have hlt := h.length.toNat_lt
  have hleft := leftover_toNat (h := h) hread (by omega)
  have hmod : (2 ^ 16 - k + h.length.toNat) % 2 ^ 16 = h.length.toNat - k := by omega
  rw [hmod] at hleft
  dsimp only at hread hleft
  simp only [skipLeftover]
  by_cases heq : k = h.length.toNat
  · rw [if_neg (by rw [gt_iff_lt, UInt16.lt_iff_toNat_lt, hleft, heq]; simp), if_pos (by omega), ← heq, ← hread]
  · have hpos : h.length - UInt16.ofNat (t.reader.readCount - s.reader.count) > 0 := by
      rw [gt_iff_lt, UInt16.lt_iff_toNat_lt, hleft]
      change 0 < _
      omega
    rw [if_pos hpos, hleft]
    have hlen : t.reader.len = s.reader.len - k := by rw [hread, Cursor.len_advance]
    by_cases hle : h.length.toNat ≤ s.reader.len
    · rw [if_pos hle, read_of_le (by omega), hread, Cursor.advance_advance, Nat.add_sub_cancel' hk]
    · rw [if_neg (by omega), read_of_lt (by omega)]

/-- More than the set was read: the count wraps round, and the skip fails. -/
theorem skipLeftover_of_lt (hsmall : s.reader.len < 2 ^ 16) (hread : y.1.reader = s.reader.advance k)
    (hk : k ≤ s.reader.len) (hlt : h.length.toNat < k) :
    skipLeftover h s.reader.count y = (y.1, some .errReader) := by
  obtain ⟨t, e⟩ := y
  have hleft := leftover_toNat (h := h) hread (by omega)
  have hmod : (2 ^ 16 - k + h.length.toNat) % 2 ^ 16 = 2 ^ 16 - k + h.length.toNat := by omega
  rw [hmod] at hleft
  dsimp only at hread hleft
  have hpos : h.length - UInt16.ofNat (t.reader.readCount - s.reader.count) > 0 := by
    rw [gt_iff_lt, UInt16.lt_iff_toNat_lt, hleft]
    change 0 < _
    omega
  have hlen : t.reader.len = s.reader.len - k := by rw [hread, Cursor.len_advance]
  simp only [skipLeftover]
  rw [if_pos hpos, hleft, read_of_lt (by omega)]

/-- **Framing.** In a packet of at most 65535 bytes, where `decodeSet` raises no error but an unknown
template or element, the reader stands at the end of the set. When the records have run past that end,
the error is that of the skip. -/
theorem decodeSet_exact {mem : MemCache TemplateRecord} {b : List UInt8} (hb : b.length ≤ 65535)
    (he : Enters im raddr mem b s) (hset : decodeSet im raddr fuel s = some (s', err)) :
    ((∀ e ∈ err, e.Skippable) →
        s'.reader = s.reader.advance (SetHeader.ofBytes s.reader.data).length.toNat) ∧
      (4 ≤ (SetHeader.ofBytes s.reader.data).length → ∀ y,
        Loop.run (setLoop im raddr s fuel) fuel (loopStart raddr s).2 = some y →
          s.reader.count + (SetHeader.ofBytes s.reader.data).length.toNat < y.1.reader.count →
          err = some .errReader ∧ s'.reader = y.1.reader) := by
  have hsmall : s.reader.len < 2 ^ 16 := by
    have := he.within.2.1
    omega
  rcases (decodeSet_eq_some he.len.le).mp hset with ⟨h4, hout⟩ | ⟨h4, y, hy, hout⟩
  · obtain ⟨-, rfl⟩ := Prod.mk.inj hout
    refine ⟨fun herr => absurd (herr _ rfl) id, fun h4' => ?_⟩
    exact absurd (UInt16.lt_of_lt_of_le h4 h4') (UInt16.lt_irrefl _)
  obtain ⟨k, -, hk, hread⟩ := setLoop_past he.len hy
  rcases Nat.lt_or_ge (SetHeader.ofBytes s.reader.data).length.toNat k with hlt | hle
  · rw [skipLeftover_of_lt hsmall hread hk hlt] at hout
    obtain ⟨rfl, rfl⟩ := Prod.mk.inj hout
    refine ⟨fun herr => absurd (herr _ rfl) id, fun _ z hz _ => ⟨rfl, ?_⟩⟩
    rw [Option.some.inj (hy.symm.trans hz)]
  · rw [skipLeftover_of_le hread hk hle] at hout
    constructor
    · intro herr
      split_ifs at hout
      · obtain ⟨rfl, -⟩ := Prod.mk.inj hout
        rfl
      · obtain ⟨-, rfl⟩ := Prod.mk.inj hout
        exact absurd (herr _ rfl) id
    · intro _ z hz hover
      rw [← Option.some.inj (hy.symm.trans hz), hread, Cursor.advance_count] at hover
      omega

theorem decodeSet_exact_unknownTemplate :
    ∃ s s', Enters infoModel [192, 0, 2, 1] .empty noFieldsDataPacket s ∧
      decodeSet infoModel [192, 0, 2, 1] 1 s = some (s', some (.unknownTemplate .ipfix [192, 0, 2, 1] 256)) ∧
      s'.reader = s.reader.advance (SetHeader.ofBytes s.reader.data).length.toNat := by
  have he : Enters infoModel [192, 0, 2, 1] .empty noFieldsDataPacket _ := enters_start ⟨rfl, rfl⟩ (by decide)
  exact ⟨_, _, he, rfl, (@decodeSet_exact infoModel [192, 0, 2, 1] _ _
    (some (.unknownTemplate .ipfix [192, 0, 2, 1] 256)) 1 _ _ (by decide) he rfl).1 (by simp [Error.Skippable])⟩

/-! ## Sets that keep the frame -/

/-- The data records of a set of which `n` bytes are left, with `d` bytes of the packet after it, end
inside the set. They are read while the set has bytes left and the packet more than 4, so that after
whole records either nothing is left of the set, or at most 4 bytes of the packet; a record with an
unknown element is read up to that element. -/
def DataFits (im : IANAInfoModel) (tr : TemplateRecord) (n d : Nat) : Prop :=
  (tr.Known im → n % tr.recordLength = 0 ∨ n % tr.recordLength + d ≤ 4) ∧
    (¬ tr.Known im → n = 0 ∨ n + d ≤ 4 ∨ tr.refusedLength im ≤ n)

/-- The template with which the data records of a set are read: the cached one, and the zero record for
the ids that are not looked up. -/
def dataTemplate (raddr : IP) (mem : MemCache TemplateRecord) (h : SetHeader) : Option TemplateRecord :=
  if h.setID > 255 then mem.retrieve h.setID raddr else some {}

theorem dataTemplate_of_loopStart (hnone : (loopStart raddr s).2.2 = none) :
    dataTemplate raddr s.mem (SetHeader.ofBytes s.reader.data) = some (loopStart raddr s).1 := by
  unfold loopStart setTemplate at hnone ⊢
  unfold dataTemplate
  split_ifs at hnone ⊢
  · dsimp only at hnone ⊢
    split at hnone
    · assumption
    · cases hnone
  · rfl

theorem loopStart_of_dataTemplate {tr : TemplateRecord}
    (htr : dataTemplate raddr s.mem (SetHeader.ofBytes s.reader.data) = some tr) :
    (loopStart raddr s).2.2 = none ∧ (loopStart raddr s).1 = tr := by
  unfold dataTemplate at htr
  unfold loopStart setTemplate
  split_ifs at htr ⊢
  · simp only [htr]
    trivial
  · exact ⟨rfl, Option.some.inj htr⟩

/-- The set at the front of `b`, if it is not one of template records, is in the packet and its records
end inside it. -/
def Fits (im : IANAInfoModel) (raddr : IP) (mem : MemCache TemplateRecord) (b : List UInt8) : Prop :=
  4 ≤ (SetHeader.ofBytes b).length.toNat ∧ (SetHeader.ofBytes b).length.toNat ≤ b.length ∧
    ((SetHeader.ofBytes b).IsData → ∀ tr, dataTemplate raddr mem (SetHeader.ofBytes b) = some tr →
      DataFits im tr ((SetHeader.ofBytes b).length.toNat - 4) (b.length - (SetHeader.ofBytes b).length.toNat))

theorem mod_fits_iff {n d : Nat} (hn : 0 < n) (hd : 4 < n + d) :
    (n % k = 0 ∨ n % k + d ≤ 4) ↔ k ≤ n ∧ ((n - k) % k = 0 ∨ (n - k) % k + d ≤ 4) := by
  by_cases hk : k ≤ n
  · rw [← Nat.mod_eq_sub_mod hk]
    exact (and_iff_right hk).symm
  · have hmod : n % k = n := Nat.mod_eq_of_lt (by omega)
    omega

/-- While the records fit, the condition of the loop compares the true number of bytes read. -/
theorem recordGuard_of_le {startCount : Nat} {x : DecodeState × Option Error} {r : Reader}
    (hread : x.1.reader = r.advance k) (hstart : startCount = r.count) (hk : k ≤ h.length.toNat) :
    recordGuard h startCount x = true ↔ x.2 = none ∧ k < h.length.toNat ∧ 4 < r.len - k := by
  obtain ⟨t, e⟩ := x
  dsimp only at hread
  have hlt := h.length.toNat_lt
  rw [recordGuard_iff, hread, hstart, Cursor.advance_count, Nat.add_sub_cancel_left, Cursor.len_advance,
    UInt16.lt_iff_toNat_lt, UInt16.toNat_ofNat', Nat.mod_eq_of_lt (by omega)]

/-- What holds in the record loop of a set that fits, `k` bytes after the start of the set. -/
structure InFrame (im : IANAInfoModel) (raddr : IP) (s : DecodeState) (k : Nat) (x : DecodeState × Option Error) :
    Prop where
  reader : x.1.reader = s.reader.advance k
  mem : x.1.mem = s.mem
  le : k ≤ (SetHeader.ofBytes s.reader.data).length.toNat
  skippable : ∀ e ∈ x.2, e.Skippable
  fits : (SetHeader.ofBytes s.reader.data).IsData → x.2 = none →
    DataFits im (loopStart raddr s).1 ((SetHeader.ofBytes s.reader.data).length.toNat - k)
      (s.reader.len - (SetHeader.ofBytes s.reader.data).length.toNat)

theorem inFrame_loopStart (hfits : Fits im raddr s.mem s.reader.data) : InFrame im raddr s 4 (loopStart raddr s).2 := by
  obtain ⟨rpc, hstart⟩ := loopStart_eq raddr s
  refine ⟨loopStart_reader raddr s, by rw [hstart], hfits.1, fun e he => ?_, fun hd hnone =>
    hfits.2.2 hd _ (dataTemplate_of_loopStart hnone)⟩
  unfold loopStart setTemplate at he
  split_ifs at he
  · split at he
    · cases he
    · cases he
      trivial
  · cases he

theorem PassStep.fits {tr : TemplateRecord} {r : Reader} {t : DecodeState} {x' : DecodeState × Option Error}
    (hp : PassStep im raddr h tr t x') (hd : h.IsData) (hread : t.reader = r.advance k) (hlt : k < h.length.toNat)
    (hlen : 4 < r.len - k) (hle : h.length.toNat ≤ r.len)
    (hfits : DataFits im tr (h.length.toNat - k) (r.len - h.length.toNat)) :
    ∃ j, x'.1.reader = r.advance j ∧ j ≤ h.length.toNat ∧ (∀ e ∈ x'.2, e.Skippable) ∧
      (x'.2 = none → DataFits im tr (h.length.toNat - j) (r.len - h.length.toNat)) := by
  have htlen : t.reader.len = r.len - k := by rw [hread, Cursor.len_advance]
  cases hp with
  | stored j u hid _ _ => exact absurd hid (isData_iff.mp hd).1
  | dropped j hid _ _ => exact absurd hid (isData_iff.mp hd).1
  | record data _ hk hle' =>
    obtain ⟨hj, hrest⟩ := (mod_fits_iff (by omega) (by omega)).mp (hfits.1 hk)
    refine ⟨k + tr.recordLength, ?_, by omega, by simp, fun _ => ⟨fun _ => ?_, fun hnk => absurd hk hnk⟩⟩
    · rw [hread, Cursor.advance_advance]
    · rwa [Nat.sub_add_eq]
  | failed j e _ hj hdec =>
    by_cases hk : tr.Known im
    · -- the record is in the set, so there are bytes enough
      obtain ⟨hj', -⟩ := (mod_fits_iff (by omega) (by omega)).mp (hfits.1 hk)
      have := ((reads_decodeData hk).of_error hdec).2
      omega
    · obtain ⟨p, hp⟩ := TemplateRecord.exists_firstUnknown hk
      have hle' : tr.refusedLength im ≤ h.length.toNat - k := by
        have := hfits.2 hk
        omega
      rcases (rejects_decodeData hp).of_error hdec with ⟨-, rfl, hr⟩ | ⟨hshort, -⟩
      · refine ⟨k + tr.refusedLength im, ?_, by omega, ?_, fun hnone => ?_⟩
        · rw [hr, hread, Cursor.advance_advance]
        · rintro e ⟨⟩
          trivial
        · cases hnone
      · omega

theorem PassStep.inFrame {t : DecodeState} {x' : DecodeState × Option Error}
    (hid : ¬ ((SetHeader.ofBytes s.reader.data).setID = 2 ∨ (SetHeader.ofBytes s.reader.data).setID = 3))
    (hle : (SetHeader.ofBytes s.reader.data).length.toNat ≤ s.reader.len)
    (hp : PassStep im raddr (SetHeader.ofBytes s.reader.data) (loopStart raddr s).1 t x')
    (hg : recordGuard (SetHeader.ofBytes s.reader.data) s.reader.count (t, none) = true)
    (hframe : InFrame im raddr s k (t, none)) : ∃ j, InFrame im raddr s j x' := by
  obtain ⟨-, hlt, hlen⟩ := (recordGuard_of_le hframe.reader rfl hframe.le).mp hg
  have hd := hp.isData hid
  obtain ⟨j, hread, hj, hskip, hfits⟩ := hp.fits hd hframe.reader hlt hlen hle (hframe.fits hd rfl)
  exact ⟨j, hread, (hp.mem_eq hd).trans hframe.mem, hj, hskip, fun _ => hfits⟩

/-- A set without template records that fits is left at its end, with the cache as it was, and raises no
error but an unknown template or element. -/
theorem decodeSet_of_fits (hlen : 4 < s.reader.len)
    (hid : ¬ ((SetHeader.ofBytes s.reader.data).setID = 2 ∨ (SetHeader.ofBytes s.reader.data).setID = 3))
    (hfits : Fits im raddr s.mem s.reader.data) (hset : decodeSet im raddr fuel s = some (s', err)) :
    (∀ e ∈ err, e.Skippable) ∧ s'.mem = s.mem ∧
      s'.reader = s.reader.advance (SetHeader.ofBytes s.reader.data).length.toNat := by
  rcases (decodeSet_eq_some hlen.le).mp hset with ⟨h4, -⟩ | ⟨-, y, hy, hout⟩
  · exact absurd (UInt16.lt_iff_toNat_lt.mp h4) (Nat.not_lt.mpr hfits.1)
  obtain ⟨k, hframe⟩ : ∃ k, InFrame im raddr s k y := by
    refine setLoop_invariant (P := fun x => ∃ k, InFrame im raddr s k x) (fun t x' ht hg hstep => ?_)
      ⟨4, inFrame_loopStart hfits⟩ hy
    obtain ⟨k, hframe⟩ := ht
    exact hstep.inFrame hid hfits.2.1 hg hframe
  have hin : (SetHeader.ofBytes s.reader.data).length.toNat ≤ s.reader.len := hfits.2.1
  rw [skipLeftover_of_le hframe.reader (le_trans hframe.le hin) hframe.le, if_pos hin] at hout
  obtain ⟨rfl, rfl⟩ := Prod.mk.inj hout
  exact ⟨hframe.skippable, hframe.mem, rfl⟩

theorem not_stalls_of_fits (hfits : Fits im raddr s.mem s.reader.data) : ¬ Stalls im raddr s := by
  intro hs
  obtain ⟨⟨hd, hk, hzero⟩, hg⟩ := stalls_iff.mp hs
  obtain ⟨hnone, hl, hlen⟩ := recordGuard_loopStart.mp hg
  rw [UInt16.lt_iff_toNat_lt] at hl
  change 4 < _ at hl
  have hmod := (hfits.2.2 hd _ (dataTemplate_of_loopStart hnone)).1 hk
  rw [hzero, Nat.mod_zero] at hmod
  have hle : (SetHeader.ofBytes s.reader.data).length.toNat ≤ s.reader.len := hfits.2.1
  change _ - 4 = 0 ∨ _ - 4 + (s.reader.len - _) ≤ 4 at hmod
  omega

/-! ## Sets that lose the frame -/

/-- What holds in the record loop of a set whose records do not fit, `k` bytes after the start of the set:
more than the set was read, or the records from here on do not fit; an error met inside the set is fatal. -/
structure OffFrame (im : IANAInfoModel) (raddr : IP) (s : DecodeState) (k : Nat) (x : DecodeState × Option Error) :
    Prop where
  reader : x.1.reader = s.reader.advance k
  le : k ≤ s.reader.len
  fatal : ∀ e ∈ x.2, (SetHeader.ofBytes s.reader.data).length.toNat < k ∨ e.Fatal
  not_fits : x.2 = none → (SetHeader.ofBytes s.reader.data).length.toNat < k ∨
    ¬ DataFits im (loopStart raddr s).1 ((SetHeader.ofBytes s.reader.data).length.toNat - k)
      (s.reader.len - (SetHeader.ofBytes s.reader.data).length.toNat)

theorem PassStep.offFrame {t : DecodeState} {x' : DecodeState × Option Error}
    (hd : (SetHeader.ofBytes s.reader.data).IsData)
    (hle : (SetHeader.ofBytes s.reader.data).length.toNat ≤ s.reader.len)
    (hp : PassStep im raddr (SetHeader.ofBytes s.reader.data) (loopStart raddr s).1 t x')
    (hg : recordGuard (SetHeader.ofBytes s.reader.data) s.reader.count (t, none) = true)
    (hoff : OffFrame im raddr s k (t, none)) : ∃ j, OffFrame im raddr s j x' := by
  have htlen : t.reader.len = s.reader.len - k := by rw [hoff.reader, Cursor.len_advance]
  have hkle := hoff.le
  have hread : ∀ j, t.reader.advance j = s.reader.advance (k + j) := fun j => by
    rw [hoff.reader, Cursor.advance_advance]
  rcases Nat.lt_or_ge (SetHeader.ofBytes s.reader.data).length.toNat k with hpast | hin
  · -- past the set a pass only reads further
    obtain ⟨j, hj, hr⟩ := hp.forward
    rw [hread] at hr
    exact ⟨k + j, hr, by omega, fun e _ => Or.inl (by omega), fun _ => Or.inl (by omega)⟩
  have hnot := (hoff.not_fits rfl).resolve_left (by omega)
  obtain ⟨-, hlt, hlen⟩ := (recordGuard_of_le hoff.reader rfl hin).mp hg
  cases hp with
  | stored j u hid _ _ => exact absurd hid (isData_iff.mp hd).1
  | dropped j hid _ _ => exact absurd hid (isData_iff.mp hd).1
  | record data _ hk hle' =>
    refine ⟨k + (loopStart raddr s).1.recordLength, hread _, by omega, by simp, fun _ => ?_⟩
    by_contra hor
    obtain ⟨hj, hfits⟩ := not_or.mp hor
    refine hnot ⟨fun _ => (mod_fits_iff (by omega) (by omega)).mpr ⟨by omega, ?_⟩, fun hnk => absurd hk hnk⟩
    rw [Nat.sub_sub]
    exact (not_not.mp hfits).1 hk
  | failed j e _ hj hdec =>
    refine ⟨k + j, hread _, by omega, ?_, by simp⟩
    rintro e' ⟨⟩
    by_cases he : e.Skippable
    · -- the unknown element lies past the end of the set
      obtain ⟨hk, -, hr⟩ := decodeData_skippable hdec he
      have hcount := congrArg Cursor.count hr
      simp only [Cursor.advance_count] at hcount
      refine Or.inl ?_
      by_contra hle''
      exact hnot ⟨fun hk' => absurd hk' hk, fun _ => Or.inr (Or.inr (by omega))⟩
    · exact Or.inr he

theorem decodeSet_of_not_fits (hsmall : s.reader.len < 2 ^ 16) (hlen : 4 < s.reader.len)
    (hfits : ¬ Fits im raddr s.mem s.reader.data) (hset : decodeSet im raddr fuel s = some (s', err)) :
    ∃ e, err = some e ∧ e.Fatal := by
  rcases (decodeSet_eq_some hlen.le).mp hset with ⟨-, hout⟩ | ⟨h4, y, hy, hout⟩
  · obtain ⟨-, rfl⟩ := Prod.mk.inj hout
    exact ⟨_, rfl, id⟩
  rw [UInt16.lt_iff_toNat_lt] at h4
  change ¬ _ < 4 at h4
  obtain ⟨k, -, hk, hread⟩ := setLoop_past hlen hy
  by_cases hin : (SetHeader.ofBytes s.reader.data).length.toNat ≤ s.reader.len
  swap
  · -- the skip goes past the packet
    have hle : k ≤ (SetHeader.ofBytes s.reader.data).length.toNat := by omega
    rw [skipLeftover_of_le hread hk hle, if_neg hin] at hout
    obtain ⟨-, rfl⟩ := Prod.mk.inj hout
    exact ⟨_, rfl, id⟩
  have hnot : ¬ ((SetHeader.ofBytes s.reader.data).IsData →
      ∀ tr, dataTemplate raddr s.mem (SetHeader.ofBytes s.reader.data) = some tr →
        DataFits im tr ((SetHeader.ofBytes s.reader.data).length.toNat - 4)
          (s.reader.len - (SetHeader.ofBytes s.reader.data).length.toNat)) :=
    fun hdata => hfits ⟨by omega, hin, hdata⟩
  simp only [not_forall] at hnot
  obtain ⟨hd, tr, htr, hnot⟩ := hnot
  obtain ⟨hnone, rfl⟩ := loopStart_of_dataTemplate htr
  obtain ⟨j, hoff⟩ : ∃ j, OffFrame im raddr s j y := by
    refine setLoop_invariant (P := fun x => ∃ j, OffFrame im raddr s j x) (fun t x' ht hg hstep => ?_)
      ⟨4, loopStart_reader raddr s, by omega, by simp [hnone], fun _ => Or.inr hnot⟩ hy
    obtain ⟨j, hoff⟩ := ht
    exact hstep.offFrame hd hin hg hoff
  rcases Nat.lt_or_ge (SetHeader.ofBytes s.reader.data).length.toNat j with hpast | hle
  · rw [skipLeftover_of_lt hsmall hoff.reader hoff.le hpast] at hout
    obtain ⟨-, rfl⟩ := Prod.mk.inj hout
    exact ⟨_, rfl, id⟩
  rw [skipLeftover_of_le hoff.reader hoff.le hle, if_pos hin] at hout
  obtain ⟨-, rfl⟩ := Prod.mk.inj hout
  cases herr : y.2 with
  | some e => exact ⟨e, rfl, (hoff.fatal e herr).resolve_left (by omega)⟩
  | none =>
    -- the loop was left with nothing of the set, or at most 4 bytes of the packet left: what is left fits
    have hdone := recordLoop_end (fun _ _ hp => recordPass_done hp) hy
    have hg : ¬ recordGuard (SetHeader.ofBytes s.reader.data) s.reader.count y = true := by
      intro hg
      rw [recordPass_of_guard hg, show y = (y.1, y.2) from rfl, recordBody_data hd] at hdone
      split at hdone <;> cases hdone
    rw [recordGuard_of_le hoff.reader rfl hle] at hg
    refine absurd ?_ ((hoff.not_fits herr).resolve_left (by omega))
    constructor
    · intro _
      have := Nat.mod_le ((SetHeader.ofBytes s.reader.data).length.toNat - j) (loopStart raddr s).1.recordLength
      by_cases hz : (SetHeader.ofBytes s.reader.data).length.toNat - j = 0
      · exact Or.inl (by omega)
      · refine Or.inr ?_
        by_contra hmod
        exact hg ⟨herr, by omega, by omega⟩
    · intro _
      by_contra hmod
      exact hg ⟨herr, by omega, by omega⟩

end VFlow.Ipfix
