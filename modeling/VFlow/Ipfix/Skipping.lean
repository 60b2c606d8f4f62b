import VFlow.Ipfix.Collector

/-!
# Sets that are skipped

In a message of unpadded, well-formed sets a data set of an unknown template, one whose template has an
element that is missing from the information model, and a set of a reserved id do not change what is
decoded from the other sets: `Decode` gives the same records and the same cache for the message without
them (`decode_skips`), and reports each of the data sets.
-/

namespace VFlow.Ipfix

open Scan Reader BigEndian

variable {im : IANAInfoModel} {raddr : IP} {mem : MemCache TemplateRecord} {set : WireSet} {sets : List WireSet}
  {c c' : Collected} {n m : Nat}

/-- The set is skipped, with the cache `mem`: its id is reserved, or the template of its id is unknown, or
has an unknown element. -/
def WireSet.Skipped (im : IANAInfoModel) (raddr : IP) (mem : MemCache TemplateRecord) : WireSet → Prop
  | template _ | options _ => False
  | data id _ _ => ∀ tr ∈ mem.retrieve id raddr, ¬ tr.Known im
  | reserved _ _ => True

instance : Decidable (set.Skipped im raddr mem) :=
  match set with
  | .template _ | .options _ => inferInstanceAs (Decidable False)
  | .data id _ _ => inferInstanceAs (Decidable (∀ tr ∈ mem.retrieve id raddr, ¬ tr.Known im))
  | .reserved _ _ => inferInstanceAs (Decidable True)

def kept (im : IANAInfoModel) (raddr : IP) (mem : MemCache TemplateRecord) : List WireSet → List WireSet
  | [] => []
  | set :: sets =>
    if set.Skipped im raddr mem then kept im raddr mem sets
    else set :: kept im raddr (storeAll raddr mem set.templates) sets

/-- The entry with which a skipped data set is reported. -/
def WireSet.report (im : IANAInfoModel) (raddr : IP) (mem : MemCache TemplateRecord) : WireSet → Option Error
  | data id _ _ =>
    match mem.retrieve id raddr with
    | none => some (.unknownTemplate .ipfix raddr id)
    | some tr => (tr.firstUnknown im).map fun p => .unknownElement .ipfix p.2.elementID p.1
  | template _ | options _ | reserved _ _ => none

def reports (im : IANAInfoModel) (raddr : IP) (mem : MemCache TemplateRecord) : List WireSet → List Error
  | [] => []
  | set :: sets => (set.report im raddr mem).toList ++ reports im raddr (storeAll raddr mem set.templates) sets

/-- The set is well formed, with the cache `mem`: template records are complete and have a field, a data
set is not empty and not padded, and where its template is known, it has records of 5 bytes at least and
the set consists of whole records. -/
def WireSet.WellFormed (raddr : IP) (mem : MemCache TemplateRecord) : WireSet → Prop
  | template records => ∀ t ∈ records, t.Ok ∧ t.fields ≠ []
  | options records => ∀ t ∈ records, t.Ok
  | data id records pad => 255 < id ∧ pad = 0 ∧ (records.map List.flatten).flatten ≠ [] ∧
      ∀ tr, mem.retrieve id raddr = some tr → 5 ≤ tr.recordLength ∧ ∀ r ∈ records, tr.Matches r
  | reserved id _ => 4 ≤ id ∧ id ≤ 255

def WellFormed (raddr : IP) (mem : MemCache TemplateRecord) : List WireSet → Prop
  | [] => True
  | set :: sets => set.WellFormed raddr mem ∧ WellFormed raddr (storeAll raddr mem set.templates) sets

theorem report_eq_none (h : ¬ set.Skipped im raddr mem) : set.report im raddr mem = none := by
  cases set with
  | template _ => rfl
  | options _ => rfl
  | data id _ _ =>
    simp only [WireSet.Skipped, not_forall, not_not] at h
    obtain ⟨tr, hret, hk⟩ := h
    simp only [WireSet.report, Option.mem_def.mp hret, TemplateRecord.firstUnknown_eq_none.mpr hk, Option.map_none]
  | reserved _ _ => rfl

theorem WireSet.WellFormed.readable (h : set.WellFormed raddr mem) :
    Ipfix.readable n set.words = set.templates := by
  refine readable_of_lt ?_
  cases set with
  | template records =>
    simp only [WireSet.words, List.mem_map]
    rintro q ⟨t, ht, rfl⟩
    exact four_lt_encode_template (h t ht).2
  | options records =>
    simp only [WireSet.words, List.mem_map]
    rintro q ⟨t, ht, rfl⟩
    exact four_lt_encode_options t
  | data id records pad => simp [WireSet.words]
  | reserved id body => simp [WireSet.words]

theorem WireSet.WellFormed.store (h : set.WellFormed raddr mem) :
    set.store raddr n mem = storeAll raddr mem set.templates := by
  rw [WireSet.store, h.readable]

theorem WireSet.WellFormed.ok (h : set.WellFormed raddr mem) : set.Ok im raddr mem n := by
  cases set with
  | template records => exact fun t ht => (h t ht).1
  | options records => exact h
  | data id records pad =>
    obtain ⟨hid, rfl, hne, htr⟩ := h
    exact ⟨hid, fun tr hret => ⟨(htr tr hret).1, (htr tr hret).2, Or.inl rfl⟩, Or.inr hne⟩
  | reserved id body => exact h

theorem WellFormed.allOk (h : WellFormed raddr mem sets) : AllOk im raddr mem sets := by
  induction sets generalizing mem with
  | nil => trivial
  | cons set sets ih =>
    refine ⟨h.1.ok, ?_⟩
    rw [h.1.store]
    exact ih h.2

theorem templates_of_skipped (h : set.Skipped im raddr mem) : set.templates = [] := by
  cases set with
  | template _ => exact absurd h id
  | options _ => exact absurd h id
  | data _ _ _ => rfl
  | reserved _ _ => rfl

theorem WellFormed.kept (h : WellFormed raddr mem sets) : WellFormed raddr mem (Ipfix.kept im raddr mem sets) := by
  induction sets generalizing mem with
  | nil => trivial
  | cons set sets ih =>
    rw [Ipfix.kept]
    split_ifs with hskip
    · have htail := h.2
      rw [templates_of_skipped hskip] at htail
      exact ih htail
    · exact ⟨h.1, ih h.2⟩

/-! ## Skipping -/

def Collected.Same (c c' : Collected) : Prop := c.mem = c'.mem ∧ c.dataSets = c'.dataSets

theorem collect_report : (set.collect im raddr n c).2 = set.report im raddr c.mem := by
  cases set with
  | template _ => rfl
  | options _ => rfl
  | data id _ _ =>
    simp only [WireSet.collect, WireSet.report]
    cases c.mem.retrieve id raddr with
    | none => rfl
    | some tr =>
      dsimp only
      cases tr.firstUnknown im <;> rfl
  | reserved _ _ => rfl

theorem collect_skipped (h : set.Skipped im raddr c.mem) : (set.collect im raddr n c).1.Same c := by
  cases set with
  | template _ => exact absurd h id
  | options _ => exact absurd h id
  | data id _ _ =>
    simp only [WireSet.collect]
    cases hret : c.mem.retrieve id raddr with
    | none => exact ⟨rfl, rfl⟩
    | some tr =>
      obtain ⟨p, hp⟩ := TemplateRecord.exists_firstUnknown (h tr hret)
      simp only [hp]
      exact ⟨rfl, rfl⟩
  | reserved _ _ => exact ⟨rfl, rfl⟩

theorem collect_same (im : IANAInfoModel) (hwf : set.WellFormed raddr c.mem) (h : c.Same c') :
    (set.collect im raddr n c).1.Same (set.collect im raddr m c').1 := by
  refine ⟨?_, ?_⟩
  · rw [collect_mem, collect_mem, ← h.1, hwf.store, hwf.store]
  · cases set with
    | template _ => exact h.2
    | options _ => exact h.2
    | data id _ _ =>
      simp only [WireSet.collect, ← h.1]
      cases c.mem.retrieve id raddr with
      | none => exact h.2
      | some tr =>
        dsimp only
        cases tr.firstUnknown im with
        | none => simp only [h.2]
        | some p => exact h.2
    | reserved _ _ => exact h.2

theorem collectAll_kept (im : IANAInfoModel) (hwf : WellFormed raddr c.mem sets) (h : c.Same c') :
    (collectAll im raddr c sets).1.Same (collectAll im raddr c' (kept im raddr c.mem sets)).1 ∧
      (collectAll im raddr c sets).2 = reports im raddr c.mem sets ∧
      (collectAll im raddr c' (kept im raddr c.mem sets)).2 = [] := by
  induction sets generalizing c c' with
  | nil => exact ⟨h, rfl, rfl⟩
  | cons set sets ih =>
    have hmem : (set.collect im raddr (setsBytes sets).length c).1.mem = storeAll raddr c.mem set.templates := by
      rw [collect_mem, hwf.1.store]
    have htail : WellFormed raddr (set.collect im raddr (setsBytes sets).length c).1.mem sets := by
      rw [hmem]
      exact hwf.2
    simp only [collectAll, kept, reports, collect_report]
    rw [← hmem]
    split_ifs with hskip
    · have hsame := collect_skipped (n := (setsBytes sets).length) hskip
      obtain ⟨hrec, herr, hnone⟩ := ih htail ⟨hsame.1.trans h.1, hsame.2.trans h.2⟩
      rw [hsame.1] at hrec hnone
      exact ⟨hrec, by rw [herr], hnone⟩
    · have hsame := collect_same im (n := (setsBytes sets).length)
        (m := (setsBytes (kept im raddr (set.collect im raddr (setsBytes sets).length c).1.mem sets)).length) hwf.1 h
      obtain ⟨hrec, herr, hnone⟩ := ih htail hsame
      refine ⟨hrec, by rw [herr], ?_⟩
      simp only [collectAll, collect_report]
      rw [hnone, ← h.1, report_eq_none hskip]
      rfl

theorem setsBytes_kept_le : (setsBytes (kept im raddr mem sets)).length ≤ (setsBytes sets).length := by
  induction sets generalizing mem with
  | nil => exact le_refl _
  | cons set sets ih =>
    rw [kept]
    split_ifs
    · have : (setsBytes (kept im raddr mem sets)).length ≤ (setsBytes sets).length := ih
      rw [setsBytes_cons, List.length_append]
      omega
    · have : (setsBytes (kept im raddr (storeAll raddr mem set.templates) sets)).length ≤
          (setsBytes sets).length := ih
      rw [setsBytes_cons, setsBytes_cons, List.length_append, List.length_append]
      omega

/-- **Skipping.** In a message of well-formed sets the sets of reserved ids, of unknown templates and of
templates with an unknown element are skipped without effect on the others: `Decode` returns a message
with the same records and the same cache as for the message without these sets, and reports exactly one
error for each of these data sets, in order. -/
theorem decode_skips (im : IANAInfoModel) (raddr : IP) (mem : MemCache TemplateRecord) (h : WireHeader)
    (sets : List WireSet) (hwf : WellFormed raddr mem sets) (hlen : (messageBytes h sets).length ≤ 65535) :
    ∃ out out' msg msg', Decodes im raddr mem (messageBytes h sets) out ∧
      Decodes im raddr mem (messageBytes h (kept im raddr mem sets)) out' ∧
      out.msg = some msg ∧ out'.msg = some msg' ∧ msg.dataSets = msg'.dataSets ∧ out.mem = out'.mem ∧
      out.err = combineErrors (reports im raddr mem sets) ∧ out'.err = none := by
  have hstart : Collected.Same { mem } { mem } := ⟨rfl, rfl⟩
  obtain ⟨hsame, herr, hnone⟩ := collectAll_kept im hwf hstart
  have hlen' : (messageBytes h (kept im raddr mem sets)).length ≤ 65535 := by
    have : (setsBytes (kept im raddr mem sets)).length ≤ (setsBytes sets).length := setsBytes_kept_le
    rw [length_messageBytes] at hlen ⊢
    omega
  refine ⟨_, _, _, _, decodes_messageBytes hwf.allOk hlen, decodes_messageBytes hwf.kept.allOk hlen', rfl, rfl,
    hsame.2, hsame.1, ?_, ?_⟩
  · rw [← herr]
  · rw [combineErrors_eq_none]
    exact hnone

def skippingSets : List WireSet :=
  [.reserved 7 [1, 2, 3], .data 300 [[[1, 2]]] 0,
   .template [{ templateID := 256, fields := [{ elementID := 8, length := 4 }, { elementID := 7, length := 2 }] }]]

theorem decode_skips_sample :
    WellFormed [192, 0, 2, 1] .empty skippingSets ∧
    ∃ out out' msg msg', Decodes infoModel [192, 0, 2, 1] .empty (messageBytes ⟨0, 0, 0⟩ skippingSets) out ∧
      Decodes infoModel [192, 0, 2, 1] .empty
        (messageBytes ⟨0, 0, 0⟩ (kept infoModel [192, 0, 2, 1] .empty skippingSets)) out' ∧
      out.msg = some msg ∧ out'.msg = some msg' ∧ msg.dataSets = msg'.dataSets ∧ out.mem = out'.mem ∧
      out.err = combineErrors (reports infoModel [192, 0, 2, 1] .empty skippingSets) ∧ out'.err = none := by
  have hwf : WellFormed [192, 0, 2, 1] .empty skippingSets := by
    refine ⟨⟨by decide, by decide⟩, ⟨by decide, rfl, by decide, fun tr htr => nomatch htr⟩, fun t ht => ?_, trivial⟩
    rw [List.mem_singleton.mp ht]
    exact ⟨⟨by decide, by decide, by decide⟩, by decide⟩
  exact ⟨hwf, decode_skips infoModel [192, 0, 2, 1] .empty ⟨0, 0, 0⟩ skippingSets hwf (by decide)⟩

end VFlow.Ipfix
