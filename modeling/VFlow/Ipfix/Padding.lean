import VFlow.Ipfix.Collector

/-!
# Padding

A data set may be padded with zero bytes, fewer than a record has. The record loop of `decodeSet` does
not look at the record length: it goes on while the set has bytes left and the message more than 4. So
padding is passed over where it and all that follows have at most 4 bytes; anywhere else it is read as
the beginning of one more record, which takes the bytes of the next set, and then the skip to the end of
the set wraps round and fails.

A message is therefore decoded as without its padding exactly if only its last set is padded, with at
most 4 bytes (`decode_padding_iff`).
-/

namespace VFlow.Ipfix

open Scan Reader BigEndian

variable {im : IANAInfoModel} {raddr : IP} {mem : MemCache TemplateRecord} {set : WireSet} {sets : List WireSet}
  {c : Collected} {s : DecodeState} {n m : Nat}

/-! ## Padded messages -/

def WireSet.padding : WireSet → Nat
  | data _ _ pad => pad
  | template _ | options _ | reserved _ _ => 0

def WireSet.unpad : WireSet → WireSet
  | data id records _ => data id records 0
  | set => set

/-- The set is well formed, with the cache `mem`: template records are complete, a data set has whole
records of a known template, of 5 bytes at least and of known elements, and less padding than a record. -/
def WireSet.Legal (im : IANAInfoModel) (raddr : IP) (mem : MemCache TemplateRecord) : WireSet → Prop
  | template records => ∀ t ∈ records, t.Ok
  | options records => ∀ t ∈ records, t.Ok
  | data id records pad => 255 < id ∧ ∃ tr, mem.retrieve id raddr = some tr ∧ tr.Known im ∧
      5 ≤ tr.recordLength ∧ (∀ r ∈ records, tr.Matches r) ∧ pad < tr.recordLength
  | reserved id _ => 4 ≤ id ∧ id ≤ 255

def AllLegal (im : IANAInfoModel) (raddr : IP) (mem : MemCache TemplateRecord) : List WireSet → Prop
  | [] => True
  | set :: sets => set.Legal im raddr mem ∧ AllLegal im raddr (set.store raddr (setsBytes sets).length mem) sets

/-- Only the last set is padded, with at most 4 bytes. -/
def PaddedAtEnd : List WireSet → Prop
  | [] => True
  | set :: sets => (set.padding = 0 ∨ sets = [] ∧ set.padding ≤ 4) ∧ PaddedAtEnd sets

def PaddingIgnored (im : IANAInfoModel) (raddr : IP) (mem : MemCache TemplateRecord) (h : WireHeader)
    (sets : List WireSet) : Prop :=
  ∃ out out' msg msg', Decodes im raddr mem (messageBytes h sets) out ∧
    Decodes im raddr mem (messageBytes h (sets.map WireSet.unpad)) out' ∧
    out.msg = some msg ∧ out'.msg = some msg' ∧ msg.dataSets = msg'.dataSets ∧ out.mem = out'.mem ∧
    out.err = none ∧ out'.err = none

/-! ## The length of what follows -/

theorem setsBytes_length_eq_zero : (setsBytes sets).length = 0 ↔ sets = [] := by
  cases sets with
  | nil => exact ⟨fun _ => rfl, fun _ => rfl⟩
  | cons set sets =>
    have := four_le_bytes set
    rw [setsBytes_cons, List.length_append]
    constructor
    · intro h
      omega
    · intro h
      cases h

theorem padFits_iff {pad : Nat} :
    PadFits pad (setsBytes sets).length ↔ pad = 0 ∨ sets = [] ∧ pad ≤ 4 := by
  unfold PadFits
  cases sets with
  | nil =>
    change pad = 0 ∨ pad + 0 ≤ 4 ↔ _
    simp
  | cons set sets =>
    have := four_le_bytes set
    rw [setsBytes_cons, List.length_append]
    simp only [reduceCtorEq, false_and, or_false]
    omega

theorem readable_congr {ws : List (List UInt8 × TemplateRecord)} (hws : ∀ q ∈ ws, 4 ≤ q.1.length)
    (h : n = 0 ↔ m = 0) : readable n ws = readable m ws := by
  induction ws with
  | nil => rfl
  | cons q ws ih =>
    obtain ⟨w, tr⟩ := q
    have hw := hws (w, tr) List.mem_cons_self
    dsimp only at hw
    have hiff : 4 < w.length + (ws.map Prod.fst).flatten.length + n ↔
        4 < w.length + (ws.map Prod.fst).flatten.length + m := by omega
    simp only [readable, hiff, ih fun q hq => hws q (List.mem_cons_of_mem _ hq)]

theorem WireSet.Legal.four_le (h : set.Legal im raddr mem) : ∀ q ∈ set.words, 4 ≤ q.1.length := by
  cases set with
  | template records =>
    simp only [WireSet.words, List.mem_map]
    rintro q ⟨t, ht, rfl⟩
    exact (h t ht).word.four_le
  | options records =>
    simp only [WireSet.words, List.mem_map]
    rintro q ⟨t, ht, rfl⟩
    exact (h t ht).word.four_le
  | data id records pad => simp [WireSet.words]
  | reserved id body => simp [WireSet.words]

theorem words_unpad : set.unpad.words = set.words := by
  cases set <;> rfl

theorem WireSet.Legal.store_unpad (h : set.Legal im raddr mem) (hnm : n = 0 ↔ m = 0) :
    set.unpad.store raddr n mem = set.store raddr m mem := by
  rw [WireSet.store, WireSet.store, words_unpad, readable_congr h.four_le hnm]

theorem setsBytes_unpad_eq_zero :
    (setsBytes (sets.map WireSet.unpad)).length = 0 ↔ (setsBytes sets).length = 0 := by
  rw [setsBytes_length_eq_zero, setsBytes_length_eq_zero, List.map_eq_nil_iff]

theorem bytes_unpad_le (set : WireSet) : set.unpad.bytes.length ≤ set.bytes.length := by
  cases set with
  | template records => exact Nat.le_refl _
  | options records => exact Nat.le_refl _
  | data id records pad => simp [WireSet.unpad, WireSet.bytes]
  | reserved id body => exact Nat.le_refl _

theorem setsBytes_unpad_le (sets : List WireSet) :
    (setsBytes (sets.map WireSet.unpad)).length ≤ (setsBytes sets).length := by
  induction sets with
  | nil => exact Nat.le_refl _
  | cons set sets ih =>
    have := bytes_unpad_le set
    rw [List.map_cons, setsBytes_cons, setsBytes_cons, List.length_append, List.length_append]
    omega

/-! ## Padding at the end -/

theorem WireSet.Legal.ok (h : set.Legal im raddr mem) (hpad : PadFits set.padding n) : set.Ok im raddr mem n := by
  cases set with
  | template records => exact h
  | options records => exact h
  | data id records pad =>
    obtain ⟨hid, tr, hret, hk, hfive, hrs, -⟩ := h
    refine ⟨hid, fun tr' hret' => ?_, Or.inl ⟨tr, hret, hk⟩⟩
    obtain rfl := Option.some.inj (hret.symm.trans hret')
    exact ⟨hfive, hrs, hpad⟩
  | reserved id body => exact h

theorem WireSet.Legal.unpad (h : set.Legal im raddr mem) : set.unpad.Legal im raddr mem := by
  cases set with
  | template records => exact h
  | options records => exact h
  | data id records pad =>
    obtain ⟨hid, tr, hret, hk, hfive, hrs, -⟩ := h
    exact ⟨hid, tr, hret, hk, hfive, hrs, by omega⟩
  | reserved id body => exact h

theorem AllLegal.allOk (h : AllLegal im raddr mem sets) (hpad : PaddedAtEnd sets) : AllOk im raddr mem sets := by
  induction sets generalizing mem with
  | nil => trivial
  | cons set sets ih => exact ⟨h.1.ok (padFits_iff.mpr hpad.1), ih h.2 hpad.2⟩

theorem AllLegal.unpad (h : AllLegal im raddr mem sets) : AllLegal im raddr mem (sets.map WireSet.unpad) := by
  induction sets generalizing mem with
  | nil => trivial
  | cons set sets ih =>
    refine ⟨h.1.unpad, ?_⟩
    rw [h.1.store_unpad setsBytes_unpad_eq_zero]
    exact ih h.2

theorem paddedAtEnd_unpad (sets : List WireSet) : PaddedAtEnd (sets.map WireSet.unpad) := by
  induction sets with
  | nil => trivial
  | cons set sets ih =>
    refine ⟨Or.inl ?_, ih⟩
    cases set <;> rfl

theorem WireSet.Legal.collect_unpad (h : set.Legal im raddr c.mem) (hnm : n = 0 ↔ m = 0) :
    set.unpad.collect im raddr n c = set.collect im raddr m c := by
  cases set with
  | template records => simp only [WireSet.unpad, WireSet.collect, ← h.store_unpad hnm]
  | options records => simp only [WireSet.unpad, WireSet.collect, ← h.store_unpad hnm]
  | data id records pad => rfl
  | reserved id body => rfl

theorem WireSet.Legal.collect_err (h : set.Legal im raddr c.mem) : (set.collect im raddr n c).2 = none := by
  cases set with
  | template records => rfl
  | options records => rfl
  | data id records pad =>
    obtain ⟨-, tr, hret, hk, -⟩ := h
    simp only [WireSet.collect, hret, TemplateRecord.firstUnknown_eq_none.mpr hk]
  | reserved id body => rfl

theorem AllLegal.collectAll (h : AllLegal im raddr c.mem sets) :
    collectAll im raddr c (sets.map WireSet.unpad) = Ipfix.collectAll im raddr c sets ∧
      (Ipfix.collectAll im raddr c sets).2 = [] := by
  induction sets generalizing c with
  | nil => exact ⟨rfl, rfl⟩
  | cons set sets ih =>
    have htail : AllLegal im raddr (set.collect im raddr (setsBytes sets).length c).1.mem sets := by
      rw [collect_mem]
      exact h.2
    obtain ⟨hsame, hnone⟩ := ih htail
    constructor
    · simp only [List.map_cons, Ipfix.collectAll, h.1.collect_unpad setsBytes_unpad_eq_zero, hsame]
    · simp only [Ipfix.collectAll, h.1.collect_err, hnone]
      rfl

theorem paddingIgnored_of_paddedAtEnd {h : WireHeader} (hlegal : AllLegal im raddr mem sets)
    (hlen : (messageBytes h sets).length ≤ 65535) (hpad : PaddedAtEnd sets) :
    PaddingIgnored im raddr mem h sets := by
  have hlen' : (messageBytes h (sets.map WireSet.unpad)).length ≤ 65535 := by
    have := setsBytes_unpad_le sets
    rw [length_messageBytes] at hlen ⊢
    omega
  obtain ⟨hsame, hnone⟩ := AllLegal.collectAll (c := { mem }) hlegal
  refine ⟨_, _, _, _, decodes_messageBytes (hlegal.allOk hpad) hlen,
    decodes_messageBytes (hlegal.unpad.allOk (paddedAtEnd_unpad sets)) hlen', rfl, rfl, ?_, ?_, ?_, ?_⟩
  · dsimp only
    rw [hsame]
  · dsimp only
    rw [hsame]
  · rw [combineErrors_eq_none]
    exact hnone
  · rw [combineErrors_eq_none, hsame]
    exact hnone

/-! ## Padding that is read -/

theorem WireSet.padding_le (set : WireSet) : 4 + set.padding ≤ set.bytes.length := by
  cases set with
  | template records => exact four_le_bytes _
  | options records => exact four_le_bytes _
  | data id records pad =>
    rw [WireSet.bytes, length_setBytes, List.length_append, List.length_replicate, WireSet.padding]
    omega
  | reserved id body => exact four_le_bytes _

theorem WireSet.Legal.padFits (h : set.Legal im raddr s.mem) {rest : List UInt8}
    (hdata : s.reader.data = set.bytes ++ rest) (hsmall : set.bytes.length < 2 ^ 16)
    (hfits : Fits im raddr s.mem s.reader.data) : PadFits set.padding rest.length := by
  cases set with
  | template records => exact Or.inl rfl
  | options records => exact Or.inl rfl
  | reserved id body => exact Or.inl rfl
  | data id records pad =>
    obtain ⟨hid, tr, hret, hk, -, hrs, hlt⟩ := h
    rw [WireSet.bytes, length_setBytes] at hsmall
    have hs : AtSet s.reader id ((records.map List.flatten).flatten ++ List.replicate pad 0) rest := ⟨hdata, hsmall⟩
    have hmod := (hfits.2.2 (by rw [header_of_atSet hs]; exact Or.inr hid) tr (by
      rw [dataTemplate, header_of_atSet hs, if_pos hid, hret])).1 hk
    have hlen : s.reader.data.length = _ := hs.len
    rw [length_of_atSet hs, hlen, Nat.add_sub_cancel_left, Nat.add_sub_cancel_left, List.length_append,
      List.length_replicate, length_records fun r hr => (hrs r hr).length_flatten, Nat.mul_add_mod_of_lt hlt] at hmod
    exact hmod

theorem paddedAtEnd_of_returns (hlegal : AllLegal im raddr s.mem sets) (hdata : s.reader.data = setsBytes sets)
    (hsmall : (setsBytes sets).length < 2 ^ 16) {t : DecodeState}
    (hret : Loop.Returns (setPass DecodeState.reader (decodeSet im raddr)) (s, []) (.all t [])) :
    PaddedAtEnd sets := by
  have hfam : Loop.Family (setPass DecodeState.reader (decodeSet im raddr)) := setPass_family decodeSet_family
  induction sets generalizing s with
  | nil => trivial
  | cons set sets ih =>
    obtain ⟨hset, hsets⟩ := hlegal
    rw [setsBytes_cons] at hdata
    rw [setsBytes_cons, List.length_append] at hsmall
    by_cases hlen : 4 < s.reader.len
    · rcases hret.cases with ⟨n, hd⟩ | ⟨n, ⟨u, errs⟩, hnext, m, hrun⟩
      · exact absurd hlen (Nat.not_lt.mpr (setPass_eq_done.mp hd).1)
      obtain ⟨-, err, hdec, rfl⟩ := setPass_eq_next.mp hnext
      have htail := Loop.Returns.of_run hfam hrun
      have herr : err = none := by
        cases err with
        | none => rfl
        | some e => exact absurd (returns_errs_subset htail) (by simp)
      subst herr
      have hslen : s.reader.len = set.bytes.length + (setsBytes sets).length := by
        rw [Cursor.len, hdata, List.length_append]
      have hfits : Fits im raddr s.mem s.reader.data := by
        by_contra hnot
        obtain ⟨e, he, -⟩ := decodeSet_of_not_fits (by omega) hlen hnot hdec
        cases he
      have hpad := hset.padFits hdata (by omega) hfits
      -- the set is decoded as it should be, so the rest of the message is next
      obtain ⟨k, hk⟩ := decodeSet_collect (hset.ok hpad) hdata (by omega)
      have hu := hfam.unique hnext (setPass_of_decodeSet hlen hk)
      rw [LoopStep.next.injEq, Prod.mk.injEq] at hu
      obtain rfl := hu.1
      refine ⟨padFits_iff.mp hpad, ih ?_ ?_ (by omega) htail⟩
      · change AllLegal im raddr (set.collect im raddr (setsBytes sets).length s.collected).1.mem sets
        rw [collect_mem]
        exact hsets
      · change (s.reader.advance set.bytes.length).data = _
        rw [Cursor.advance_data, hdata, List.drop_left]
    · -- nothing is left but a header
      have hslen : (setsBytes (set :: sets)).length ≤ 4 := by
        rw [setsBytes_cons, ← hdata]
        exact Nat.not_lt.mp hlen
      obtain rfl := sets_eq_nil hslen
      have := set.padding_le
      rw [setsBytes_cons, List.length_append] at hslen
      exact ⟨Or.inl (by omega), trivial⟩

/-- **Padding.** A message of well-formed, padded sets is decoded as without the padding exactly if only
the last set is padded, with at most 4 bytes. -/
theorem decode_padding_iff (im : IANAInfoModel) (raddr : IP) (mem : MemCache TemplateRecord) (h : WireHeader)
    (sets : List WireSet) (hlegal : AllLegal im raddr mem sets) (hlen : (messageBytes h sets).length ≤ 65535) :
    PaddingIgnored im raddr mem h sets ↔ PaddedAtEnd sets := by
  refine ⟨?_, paddingIgnored_of_paddedAtEnd hlegal hlen⟩
  rintro ⟨out, -, msg, -, hdec, -, -, -, -, -, herr, -⟩
  rw [length_messageBytes] at hlen
  obtain ⟨e, he, rfl⟩ := decodes_iff.mp hdec
  obtain ⟨end_, rfl, hloop⟩ := (PacketDecoder.returns_iff_loop (headerOk_messageBytes mem h sets)).mp he
  obtain ⟨n, hn⟩ := hloop
  obtain ⟨t, errs, rfl⟩ := run_setPass_eq_all hn
  have hnil : errs = [] := (combineErrors_eq_none _).mp herr
  rw [hnil] at hn
  exact paddedAtEnd_of_returns (s := start raddr mem (h.header sets) ⟨setsBytes sets, 16⟩) hlegal rfl (by omega)
    ⟨n, hn⟩

def paddedSets (pad pad' : Nat) : List WireSet :=
  [.template [{ templateID := 256, fields := [{ elementID := 8, length := 4 }, { elementID := 7, length := 2 }] }],
   .data 256 [[[10, 0, 0, 1], [0, 80]]] pad, .data 256 [[[10, 0, 0, 2], [0, 22]]] pad']

theorem allLegal_paddedSets {pad pad' : Nat} (hpad : pad < 6) (hpad' : pad' < 6) :
    AllLegal infoModel [192, 0, 2, 1] .empty (paddedSets pad pad') := by
  refine ⟨fun t ht => ?_, ⟨by decide, _, rfl, by decide, by decide, fun r hr => ?_, hpad⟩,
    ⟨by decide, _, rfl, by decide, by decide, fun r hr => ?_, hpad'⟩, trivial⟩
  · rw [List.mem_singleton.mp ht]
    exact ⟨by decide, by decide, by decide⟩
  · rw [List.mem_singleton.mp hr]
    exact .cons rfl (.cons rfl .nil)
  · rw [List.mem_singleton.mp hr]
    exact .cons rfl (.cons rfl .nil)

theorem decode_padding_last : PaddingIgnored infoModel [192, 0, 2, 1] .empty ⟨0, 0, 0⟩ (paddedSets 0 2) := by
  refine (decode_padding_iff infoModel [192, 0, 2, 1] .empty ⟨0, 0, 0⟩ (paddedSets 0 2)
    (allLegal_paddedSets (by decide) (by decide)) (by decide)).mpr ?_
  exact ⟨Or.inl rfl, Or.inl rfl, Or.inr ⟨rfl, by decide⟩, trivial⟩

/-- With the first data set padded to a multiple of 4 bytes, the padding and the header of the second data
set are read as a record, and the second data set is lost. -/
theorem decode_reads_padding :
    AllLegal infoModel [192, 0, 2, 1] .empty (paddedSets 2 0) ∧
      (messageBytes ⟨0, 0, 0⟩ (paddedSets 2 0)).length ≤ 65535 ∧
      ¬ PaddingIgnored infoModel [192, 0, 2, 1] .empty ⟨0, 0, 0⟩ (paddedSets 2 0) := by
  refine ⟨allLegal_paddedSets (by decide) (by decide), by decide, ?_⟩
  rintro ⟨out, -, -, -, hdec, -, -, -, -, -, herr, -⟩
  have hrun : Decodes infoModel [192, 0, 2, 1] .empty (messageBytes ⟨0, 0, 0⟩ (paddedSets 2 0)) _ := ⟨5, rfl⟩
  rw [hdec.unique hrun] at herr
  exact absurd herr (by decide)

end VFlow.Ipfix
