import VFlow.Netflow9.Termination

/-!
# The framing of NetFlow v9 flowsets

After the record loop `decodeSet` skips what is left of the flowset, if anything is. The count of
leftover bytes is signed, so when the last record has run past the end of the flowset nothing is
skipped and no error is raised: the reader then stands behind the flowset. The framing is exact if the
records end inside the flowset (`Fits`), and only then: `decodeSet_exact_iff`.

The proof carries the equivalence through the record loop (`FramingKept`): at each pass, the records
from here on end inside the flowset exactly if those of the whole flowset do.
-/

namespace VFlow.Netflow9

open Scan Reader

variable {im : IANAInfoModel} {raddr : IP} {h : SetHeader} {startCount : Nat} {tr : TemplateRecord}
  {s s' t : DecodeState} {err : Option Error} {x x' : DecodeState × Option Error} {fuel : Nat}

/-! ## Records inside a flowset -/

/-- The template records at the front of `b` end inside a flowset of which `n` bytes are left: up to 4
bytes are not read as a record. -/
inductive TemplatesFit (h : SetHeader) : Nat → List UInt8 → Prop
  | rest {n : Nat} {b : List UInt8} (hn : n ≤ 4) : TemplatesFit h n b
  | record {n : Nat} {b : List UInt8} (hn : 4 < n) (hle : recordSize h b ≤ n)
      (hrest : TemplatesFit h (n - recordSize h b) (b.drop (recordSize h b))) : TemplatesFit h n b

theorem templatesFit_iff {n : Nat} {b : List UInt8} (hn : 4 < n) :
    TemplatesFit h n b ↔ recordSize h b ≤ n ∧ TemplatesFit h (n - recordSize h b) (b.drop (recordSize h b)) := by
  constructor
  · intro hfit
    cases hfit with
    | rest hle => omega
    | record _ hle hrest => exact ⟨hle, hrest⟩
  · exact fun ⟨hle, hrest⟩ => .record hn hle hrest

/-- The records at the front of `b` end inside a flowset of which `n` bytes are left. Data records of
known elements are read while more than 4 bytes are left, so what remains of the flowset after whole
records must not be longer; one with an unknown element is read up to that element. -/
def RecordsFit (im : IANAInfoModel) (h : SetHeader) (tr : TemplateRecord) (n : Nat) (b : List UInt8) : Prop :=
  (h.IsTemplate → TemplatesFit h n b) ∧
    (h.IsData → tr.Known im → n % tr.recordLength ≤ 4) ∧
    (h.IsData → ¬ tr.Known im → n ≤ 4 ∨ tr.refusedLength im ≤ n)

/-- The records of the flowset at the reader end inside it. -/
def Fits (im : IANAInfoModel) (raddr : IP) (s : DecodeState) : Prop :=
  (loopStart raddr s).2 = none →
    RecordsFit im (SetHeader.ofBytes s.reader.data) (loopTemplate raddr s)
      ((SetHeader.ofBytes s.reader.data).length.toNat - 4) (s.reader.data.drop 4)

theorem not_isData_of_isTemplate (ht : h.IsTemplate) : ¬ h.IsData := fun hd => (isData_iff.mp hd).1 ht

theorem recordsFit_template {n : Nat} {b : List UInt8} (ht : h.IsTemplate) :
    RecordsFit im h tr n b ↔ TemplatesFit h n b :=
  ⟨fun hfit => hfit.1 ht, fun hfit => ⟨fun _ => hfit, fun hd => absurd hd (not_isData_of_isTemplate ht),
    fun hd => absurd hd (not_isData_of_isTemplate ht)⟩⟩

theorem recordsFit_data {n : Nat} {b : List UInt8} (hd : h.IsData) (hk : tr.Known im) :
    RecordsFit im h tr n b ↔ n % tr.recordLength ≤ 4 :=
  ⟨fun hfit => hfit.2.1 hd hk, fun hfit => ⟨fun ht => absurd hd (not_isData_of_isTemplate ht), fun _ _ => hfit,
    fun _ hnk => absurd hk hnk⟩⟩

theorem recordsFit_refused {n : Nat} {b : List UInt8} (hd : h.IsData) (hk : ¬ tr.Known im) :
    RecordsFit im h tr n b ↔ n ≤ 4 ∨ tr.refusedLength im ≤ n :=
  ⟨fun hfit => hfit.2.2 hd hk, fun hfit => ⟨fun ht => absurd hd (not_isData_of_isTemplate ht),
    fun _ hk' => absurd hk' hk, fun _ _ => hfit⟩⟩

theorem recordsFit_of_le {n : Nat} {b : List UInt8} (hn : n ≤ 4) : RecordsFit im h tr n b :=
  ⟨fun _ => .rest hn, fun _ _ => le_trans (Nat.mod_le _ _) hn, fun _ _ => Or.inl hn⟩

theorem recordsFit_reserved {n : Nat} {b : List UInt8} (ht : ¬ h.IsTemplate) (hd : ¬ h.IsData) :
    RecordsFit im h tr n b :=
  ⟨fun ht' => absurd ht' ht, fun hd' => absurd hd' hd, fun hd' => absurd hd' hd⟩

/-! ## The record loop -/

theorem leftover_of_reader {k : Nat} (hr : s'.reader = s.reader.advance k) :
    leftover h startCount s' = leftover h startCount s - k := by
  simp only [leftover, readCount, hr, Cursor.advance_count]
  omega

/-- What is left of the flowset in `s`, if it is not negative, and its records from there on. -/
def RestFits (im : IANAInfoModel) (h : SetHeader) (startCount : Nat) (tr : TemplateRecord) (s : DecodeState) : Prop :=
  0 ≤ leftover h startCount s ∧ RecordsFit im h tr (leftover h startCount s).toNat s.reader.data

theorem restFits_advance {k : Nat} (hleft : 0 ≤ leftover h startCount s) (hr : s'.reader = s.reader.advance k) :
    RestFits im h startCount tr s' ↔ k ≤ (leftover h startCount s).toNat ∧
      RecordsFit im h tr ((leftover h startCount s).toNat - k) (s.reader.data.drop k) := by
  rw [RestFits, leftover_of_reader hr, hr, Cursor.advance_data,
    show (leftover h startCount s - k).toNat = (leftover h startCount s).toNat - k by omega]
  exact and_congr_left fun _ => by omega

/-- `F`, that the records of the flowset fit, comes to the same for the records from here on. -/
def FramingKept (im : IANAInfoModel) (h : SetHeader) (startCount : Nat) (tr : TemplateRecord) (F : Prop)
    (x : DecodeState × Option Error) : Prop :=
  (x.2 = none → (RestFits im h startCount tr x.1 ↔ F)) ∧
    ∀ e, x.2 = some e → e.Skippable → (0 ≤ leftover h startCount x.1 ↔ F)

theorem mod_le_iff_sub {n k : Nat} (hn : 4 < n) : k ≤ n ∧ (n - k) % k ≤ 4 ↔ n % k ≤ 4 := by
  by_cases hk : k ≤ n
  · rw [← Nat.mod_eq_sub_mod hk]
    exact and_iff_right hk
  · have hmod : n % k = n := Nat.mod_eq_of_lt (by omega)
    omega

theorem PassStep.framingKept {F : Prop} (hp : PassStep im raddr h tr t x')
    (hg : recordGuard h startCount (t, none) = true) (hkept : FramingKept im h startCount tr F (t, none)) :
    FramingKept im h startCount tr F x' := by
  obtain ⟨-, hleft, hlen⟩ := recordGuard_iff.mp hg
  rw [FramingKept, ← hkept.1 rfl]
  have hpos : 0 ≤ leftover h startCount t := by omega
  have hn : 4 < (leftover h startCount t).toNat := by omega
  have hrest : RestFits im h startCount tr t ↔ RecordsFit im h tr (leftover h startCount t).toNat t.reader.data :=
    and_iff_right hpos
  rw [hrest]
  refine ⟨fun hnone => ?_, fun e he hskip => ?_⟩
  · cases hp with
    | stored u hid hle =>
      refine (restFits_advance (k := recordSize h t.reader.data) hpos rfl).trans ?_
      rw [recordsFit_template hid, recordsFit_template hid, templatesFit_iff hn]
    | cutOff k u _ _ => cases hnone
    | record data hid hk hle =>
      refine (restFits_advance (k := tr.recordLength) hpos rfl).trans ?_
      rw [recordsFit_data hid hk, recordsFit_data hid hk]
      exact mod_le_iff_sub hn
    | failed k e _ _ _ => cases hnone
  · cases hp with
    | stored u _ _ => cases he
    | cutOff k u _ _ =>
      cases he
      exact absurd hskip id
    | record data _ _ _ => cases he
    | failed k e' hid hle hdec =>
      cases he
      obtain ⟨hk, -, hr⟩ := decodeData_skippable hdec hskip
      rw [recordsFit_refused hid hk, leftover_of_reader hr]
      omega

theorem framingKept_loopStart (im : IANAInfoModel) (raddr : IP)
    (h4 : ¬ (SetHeader.ofBytes s.reader.data).length < 4) :
    FramingKept im (SetHeader.ofBytes s.reader.data) s.reader.count (loopTemplate raddr s) (Fits im raddr s)
      (loopStart raddr s) := by
  have hlen : 4 ≤ (SetHeader.ofBytes s.reader.data).length.toNat := by
    rw [UInt16.lt_iff_toNat_lt] at h4
    exact Nat.le_of_not_lt h4
  constructor
  · intro hnone
    rw [RestFits, leftover_loopStart, Fits]
    have hn : (((SetHeader.ofBytes s.reader.data).length.toNat : Int) - 4).toNat =
        (SetHeader.ofBytes s.reader.data).length.toNat - 4 := by omega
    rw [hn]
    exact ⟨fun hfit _ => hfit.2, fun hfit => ⟨by omega, hfit hnone⟩⟩
  · intro e he _
    rw [leftover_loopStart]
    refine ⟨fun _ hnone => ?_, fun _ => by omega⟩
    rw [he] at hnone
    cases hnone

/-! ## The end of a flowset -/

theorem skipLeftover_spec {y : DecodeState × Option Error} (hout : (s', err) = skipLeftover h startCount y)
    (herr : ∀ e ∈ err, e.Skippable) :
    err = y.2 ∧ leftover h startCount y.1 ≤ y.1.reader.len ∧
      s'.reader = y.1.reader.advance (leftover h startCount y.1).toNat := by
  obtain ⟨t, e⟩ := y
  rw [skipLeftover] at hout
  dsimp only at hout ⊢
  split_ifs at hout with hpos
  · by_cases hle : (leftover h startCount t).toNat ≤ t.reader.len
    · rw [read_of_le hle] at hout
      obtain ⟨rfl, rfl⟩ := Prod.mk.inj hout
      exact ⟨rfl, by omega, rfl⟩
    · rw [read_of_lt (by omega)] at hout
      obtain ⟨-, rfl⟩ := Prod.mk.inj hout
      exact absurd (herr _ rfl) id
  · obtain ⟨rfl, rfl⟩ := Prod.mk.inj hout
    refine ⟨rfl, by omega, ?_⟩
    rw [show (leftover h startCount s').toNat = 0 by omega, Cursor.advance_zero]

theorem recordsFit_of_done {y : DecodeState × Option Error}
    (hdone : recordPass im raddr h startCount tr y = .done y) (hnone : y.2 = none)
    (hle : leftover h startCount y.1 ≤ y.1.reader.len) :
    RecordsFit im h tr (leftover h startCount y.1).toNat y.1.reader.data := by
  obtain ⟨t, e⟩ := y
  dsimp only at hnone hle ⊢
  subst hnone
  by_cases hg : recordGuard h startCount (t, none) = true
  · by_cases ht : h.IsTemplate
    · rw [recordPass_of_guard hg, recordBody_template ht] at hdone
      cases hdone
    · by_cases hd : h.IsData
      · rw [recordPass_of_guard hg, recordBody_data hd] at hdone
        split at hdone <;> cases hdone
      · exact recordsFit_reserved ht hd
  · rw [recordGuard_iff] at hg
    refine recordsFit_of_le ?_
    by_contra hlt
    exact hg ⟨rfl, by omega, by omega⟩

theorem decodeSet_framed (hlen : 4 < s.reader.len) (hset : decodeSet im raddr fuel s = some (s', err))
    (herr : ∀ e ∈ err, e.Skippable) :
    s'.reader = s.reader.advance (SetHeader.ofBytes s.reader.data).length.toNat ↔ Fits im raddr s := by
  rcases (decodeSet_eq_some hlen.le).mp hset with ⟨-, hout⟩ | ⟨h4, y, hy, hout⟩
  · obtain ⟨-, rfl⟩ := Prod.mk.inj hout
    exact absurd (herr _ rfl) id
  obtain ⟨herr', hle, hreader⟩ := skipLeftover_spec hout herr
  have hkept := setLoop_invariant (fun t x' ht hg hstep => hstep.framingKept hg ht)
    (framingKept_loopStart im raddr h4) hy
  have hfits : 0 ≤ leftover (SetHeader.ofBytes s.reader.data) s.reader.count y.1 ↔ Fits im raddr s := by
    cases hy2 : y.2 with
    | none =>
      rw [← hkept.1 hy2]
      exact (and_iff_left (recordsFit_of_done (recordLoop_end (fun _ _ hp => recordPass_done hp) hy) hy2 hle)).symm
    | some e => exact hkept.2 e hy2 (herr e (by rw [herr', hy2]; rfl))
  rw [← hfits]
  -- the reader has moved by `k` bytes in the loop, so that `Length - k` bytes are left
  obtain ⟨k, -, hk, hyr⟩ := setLoop_past hlen hy
  have hleft : leftover (SetHeader.ofBytes s.reader.data) s.reader.count y.1 =
      (SetHeader.ofBytes s.reader.data).length.toNat - k := by
    simp only [leftover, readCount, hyr, Cursor.advance_count]
    omega
  rw [hreader, hyr, Cursor.advance_advance, hleft]
  constructor
  · intro heq
    have hcount := congrArg Cursor.count heq
    simp only [Cursor.advance_count] at hcount
    omega
  · intro hnonneg
    congr 1
    omega

/-- **Framing.** Where `decodeSet` raises no error but an unknown template or element, the reader stands
at the end of the flowset exactly if the records of the flowset end inside it. -/
theorem decodeSet_exact_iff {mem : MemCache TemplateRecord} {b : List UInt8} (he : Enters im raddr mem b s)
    (hset : decodeSet im raddr fuel s = some (s', err)) (herr : ∀ e ∈ err, e.Skippable) :
    s'.reader = s.reader.advance (SetHeader.ofBytes s.reader.data).length.toNat ↔ Fits im raddr s :=
  decodeSet_framed he.len hset herr

def twoFieldsPacket : List UInt8 := sampleHeader ++ [0, 0, 0, 16, 1, 0, 0, 2, 0, 8, 0, 4, 0, 7, 0, 2]

def twoFieldsCache : MemCache TemplateRecord :=
  MemCache.empty.insert 256 [192, 0, 2, 1]
    { templateID := 256, fieldCount := 2,
      fieldSpecifiers := [{ elementID := 8, length := 4 }, { elementID := 7, length := 2 }] }

def paddedPacket : List UInt8 := sampleHeader ++ [1, 0, 0, 13, 10, 0, 0, 1, 0, 80, 0, 0, 0]

/-- A data flowset of template 256 with 5 bytes of padding, and another flowset after it. -/
def overrunPacket : List UInt8 :=
  sampleHeader ++ [1, 0, 0, 15, 10, 0, 0, 1, 0, 80, 0, 0, 0, 0, 0] ++ [1, 0, 0, 10, 10, 0, 0, 2, 0, 81]

theorem decodeSet_exact_padded :
    ∃ s s', Enters infoModel [192, 0, 2, 1] twoFieldsCache paddedPacket s ∧
      decodeSet infoModel [192, 0, 2, 1] 3 s = some (s', none) ∧
      s'.reader = s.reader.advance (SetHeader.ofBytes s.reader.data).length.toNat := by
  have he : Enters infoModel [192, 0, 2, 1] twoFieldsCache paddedPacket _ := enters_start ⟨rfl, rfl⟩ (by decide)
  refine ⟨_, _, he, rfl, (@decodeSet_exact_iff infoModel [192, 0, 2, 1] _ _ none 3 _ _ he rfl (by simp)).mpr ?_⟩
  -- one record of six bytes, and three bytes that are too few for another
  exact fun _ => (recordsFit_data (by decide) (by decide)).mpr (by decide)

/-- After the first record 5 bytes are left; they are read as a record, with one byte of the next
flowset, and no error is raised. -/
theorem decodeSet_not_exact :
    ∃ out, Decodes infoModel [192, 0, 2, 1] .empty twoFieldsPacket out ∧ out.err = none ∧
      ∃ s s', Enters infoModel [192, 0, 2, 1] out.mem overrunPacket s ∧
        decodeSet infoModel [192, 0, 2, 1] 4 s = some (s', none) ∧
        s'.reader ≠ s.reader.advance (SetHeader.ofBytes s.reader.data).length.toNat := by
  refine ⟨_, ⟨4, rfl⟩, rfl, _, _, enters_start ⟨rfl, rfl⟩ (by decide), rfl, fun heq => ?_⟩
  exact absurd (congrArg Cursor.count heq) (by decide)

end VFlow.Netflow9
