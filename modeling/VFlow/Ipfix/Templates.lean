import VFlow.Ipfix.Silent
import VFlow.Isolation

/-!
# Template records that are complete, and those that are not

A template record is stored only when it was read to its end, so a cached record has as many field specifiers as
its field counts say. For an options template this takes an argument about sizes: when the scope count is larger
than the field count their difference wraps round, and the loop asks for 65536 specifiers more than the field
count in all, of 4 bytes at least, which no packet of 65535 bytes has (`readTemplate_complete`). The cache keeps
complete records only (`cached_templates_complete`).

A template record that is not complete runs into the end of the packet, and nothing is decoded behind it. Its
error is assigned to a variable of the branch, and lost: what is left of it is the skip of the rest of the set,
which fails when the set ends past the packet or before the place where the reading stopped. So an error is
returned in these two cases, and when a set before it was not silent (`truncated_reported_iff`).
-/

namespace VFlow.Ipfix

open Scan Reader

variable {im : IANAInfoModel} {raddr : IP} {h : SetHeader} {tr : TemplateRecord} {s t : DecodeState}
  {mem : MemCache TemplateRecord} {b : List UInt8} {fuel : Nat}

/-! ## Complete records -/

/-- The record has the field specifiers that its counts announce. -/
def TemplateRecord.Complete (tr : TemplateRecord) : Prop :=
  tr.scopeFieldCount ≤ tr.fieldCount ∧
    tr.fieldSpecifiers.length = tr.fieldCount.toNat - tr.scopeFieldCount.toNat

theorem fieldSpecifier_len {c c' : Reader} {f : TemplateFieldSpecifier}
    (hf : TemplateFieldSpecifier.unmarshal c = .ok f c') : c'.len + 4 ≤ c.len := by
  obtain ⟨hok, hshort⟩ := measures_fieldSpecifier c
  cases hsize : TemplateFieldSpecifier.size c.data with
  | none =>
    obtain ⟨e, c₁, he, -⟩ := hshort hsize
    rw [hf] at he
    cases he
  | some k =>
    obtain ⟨hk, f', hf'⟩ := hok k hsize
    rw [hf] at hf'
    obtain ⟨-, rfl⟩ := EStateM.Result.ok.inj hf'
    have h4 : 4 ≤ k := by
      unfold TemplateFieldSpecifier.size at hsize
      split_ifs at hsize <;> cases hsize <;> decide
    rw [Cursor.len_advance]
    omega

theorem unmarshal_complete {r r' : Reader} (hr : TemplateRecord.unmarshal r = (tr, none, r')) : tr.Complete := by
  rw [TemplateRecord.unmarshal] at hr
  cases hth : TemplateHeader.unmarshal r with
  | error e r₁ =>
    rw [hth] at hr
    cases hr
  | ok th r₁ =>
    rw [hth] at hr
    obtain ⟨rfl, hrest⟩ := Prod.mk.inj hr
    have hlen := (many_complete (fun _ _ _ => fieldSpecifier_len) (Prod.ext rfl hrest)).1
    exact ⟨Nat.zero_le _, hlen⟩

theorem reads_templateHeaderOpts : Reads .errReader TemplateHeader.unmarshalOpts 6 :=
  reads_uint16.bind fun _ => reads_uint16.bind fun _ => reads_uint16.bind fun _ => Reads.pure _ _

theorem unmarshalOpts_complete {r r' : Reader} (hsmall : r.len ≤ 65535)
    (hr : TemplateRecord.unmarshalOpts r = (tr, none, r')) : tr.Complete := by
  rw [TemplateRecord.unmarshalOpts] at hr
  cases hth : TemplateHeader.unmarshalOpts r with
  | error e r₁ =>
    rw [hth] at hr
    cases hr
  | ok th r₁ =>
    rw [hth] at hr
    dsimp only at hr
    generalize hscopes : many TemplateFieldSpecifier.unmarshal th.scopeFieldCount.toNat r₁ = q at hr
    obtain ⟨scopes, err, r₂⟩ := q
    cases err with
    | some e => cases hr
    | none =>
      obtain ⟨rfl, hrest⟩ := Prod.mk.inj hr
      obtain ⟨-, hscopes⟩ := many_complete (fun _ _ _ => fieldSpecifier_len) hscopes
      obtain ⟨hlen, hspecs⟩ := many_complete (fun _ _ _ => fieldSpecifier_len) (Prod.ext rfl hrest)
      dsimp only at hspecs
      have hle : th.scopeFieldCount ≤ th.fieldCount := by
        by_contra hgt
        -- the two counts wrap round to 65536 and the field count together
        have hwrap : th.scopeFieldCount.toNat + (th.fieldCount - th.scopeFieldCount).toNat =
            65536 + th.fieldCount.toNat := by
          have hlt := th.scopeFieldCount.toNat_lt
          rw [UInt16.le_iff_toNat_le] at hgt
          rw [UInt16.toNat_sub]
          omega
        obtain ⟨-, rfl⟩ := reads_templateHeaderOpts.of_ok hth
        rw [Cursor.len_advance] at hscopes
        omega
      refine ⟨hle, hlen.trans ?_⟩
      rw [UInt16.toNat_sub_of_le _ _ hle]

theorem readTemplate_complete {id : UInt16} {r r' : Reader} (hsmall : r.len ≤ 65535)
    (hr : readTemplate id r = (tr, none, r')) : tr.Complete := by
  unfold readTemplate at hr
  split_ifs at hr
  · exact unmarshal_complete hr
  · exact unmarshalOpts_complete hsmall hr

/-! ## The cache -/

def AllComplete (mem : MemCache TemplateRecord) : Prop :=
  ∀ shard key tr, mem.shards shard key = some tr → tr.Complete

theorem AllComplete.insert (hmem : AllComplete mem) (id : UInt16) (addr : IP) (htr : tr.Complete) :
    AllComplete (mem.insert id addr tr) := by
  intro shard key tr' htr'
  simp only [MemCache.insert, Function.update_apply] at htr'
  split_ifs at htr' with hshard
  · rw [Function.update_apply] at htr'
    split_ifs at htr'
    · obtain rfl := Option.some.inj htr'
      exact htr
    · exact hmem _ _ _ htr'
  · exact hmem _ _ _ htr'

/-- What the cache and the reader satisfy while a packet of at most 65535 bytes is decoded. -/
def KeepsComplete (s : DecodeState) : Prop := s.reader.len ≤ 65535 ∧ AllComplete s.mem

theorem recordPass_keepsComplete {startCount : Nat} {x' : DecodeState × Option Error} (ht : KeepsComplete t)
    (hp : recordPass im raddr h startCount tr (t, none) = .next x') : KeepsComplete x'.1 := by
  obtain ⟨k, -, hread⟩ := (recordPass_next hp).2.forward
  refine ⟨?_, ?_⟩
  · rw [hread, Cursor.len_advance]
    exact le_trans (Nat.sub_le _ _) ht.1
  · rcases recordPass_stores hp with hmem | ⟨-, -, new, hnew, hmem⟩
    · rw [hmem]
      exact ht.2
    · rw [hmem]
      exact ht.2.insert _ _ (readTemplate_complete ht.1 hnew)

theorem decodeSet_keepsComplete {s' : DecodeState} {err : Option Error} (hlen : 4 < s.reader.len)
    (hs : KeepsComplete s) (hset : decodeSet im raddr fuel s = some (s', err)) : KeepsComplete s' := by
  refine decodeSet_kept (fun t k rpc ht => ?_) (fun t x' _ ht hp => recordPass_keepsComplete ht hp) hlen hs hset
  refine ⟨?_, ht.2⟩
  rw [Cursor.len_advance]
  exact le_trans (Nat.sub_le _ _) ht.1

theorem Decodes.allComplete {out : Outcome} (hb : b.length ≤ 65535) (hmem : AllComplete mem)
    (hdec : Decodes im raddr mem b out) : AllComplete out.mem := by
  obtain ⟨e, he, rfl⟩ := decodes_iff.mp hdec
  have hstart : ∀ header r, (packetDecoder im raddr mem).HeaderOk b header r →
      KeepsComplete ((packetDecoder im raddr mem).start header r) := by
    intro header r hh
    have hw := (hh.within packetDecoder_lawful).len
    refine ⟨?_, hmem⟩
    change ((packetDecoder im raddr mem).reader ((packetDecoder im raddr mem).start header r)).len ≤ _
    omega
  rcases he.invariant hstart (fun n s s' err hs hlen hset => decodeSet_keepsComplete hlen hs hset) with
    ⟨err, rfl⟩ | ⟨s, errs, hs, rfl⟩
  · exact hmem
  · exact hs.2

/-- **Complete templates.** After any packets of at most 65535 bytes, every cached template has no more scope fields
than fields, and the field specifiers that its counts announce. -/
theorem cached_templates_complete (im : IANAInfoModel) (es : List (Received Result)) (m : MemCache TemplateRecord)
    (hsize : ∀ e ∈ es, e.packet.length ≤ 65535) (hrun : Runs (Receives im) .empty es m) :
    ∀ shard key tr, m.shards shard key = some tr →
      tr.scopeFieldCount ≤ tr.fieldCount ∧
        tr.fieldSpecifiers.length = tr.fieldCount.toNat - tr.scopeFieldCount.toNat := by
  refine hrun.invariant (P := AllComplete) ?_ ?_
  · rintro e he m m' hm ⟨out, hdec, -, rfl⟩
    exact hdec.allComplete (hsize e he) hm
  · intro shard key tr htr
    cases htr

theorem cached_templates_complete_options :
    ∃ (e : Received Result) (m : MemCache TemplateRecord) (tr : TemplateRecord),
      e.packet = messageBytes ⟨0, 0, 0⟩ [.options [⟨256, [⟨10, 4, none⟩], [⟨41, 8, none⟩]⟩]] ∧
      Runs (Receives infoModel) .empty [e] m ∧ m.retrieve 256 [192, 0, 2, 1] = some tr ∧
      tr.scopeFieldCount ≤ tr.fieldCount ∧
        tr.fieldSpecifiers.length = tr.fieldCount.toNat - tr.scopeFieldCount.toNat := by
  have hdec : Decodes infoModel [192, 0, 2, 1] .empty
      (messageBytes ⟨0, 0, 0⟩ [.options [⟨256, [⟨10, 4, none⟩], [⟨41, 8, none⟩]⟩]])
      { msg := _, err := none, rpc := [],
        mem := MemCache.empty.insert 256 [192, 0, 2, 1]
          (WireOptions.record ⟨256, [⟨10, 4, none⟩], [⟨41, 8, none⟩]⟩) } := ⟨3, rfl⟩
  have hrun : Runs (Receives infoModel) .empty [⟨[192, 0, 2, 1], _, _⟩] _ := .cons ⟨_, hdec, rfl, rfl⟩ (.nil _)
  refine ⟨_, _, _, rfl, hrun, MemCache.retrieve_insert_self _ _ _ _, ?_⟩
  exact cached_templates_complete infoModel _ _ (by decide) hrun _ _ _ (MemCache.retrieve_insert_self _ _ _ _)

/-! ## Truncated records -/

/-- In the record loop of the set at the reader of `s`, a pass in the state `t` comes to a template record that
cannot be read to its end. -/
structure Truncated (im : IANAInfoModel) (raddr : IP) (s t : DecodeState) : Prop where
  isTemplate : (SetHeader.ofBytes s.reader.data).setID = 2 ∨ (SetHeader.ofBytes s.reader.data).setID = 3
  entered : EntersPass im raddr s (t, none)
  guard : recordGuard (SetHeader.ofBytes s.reader.data) s.reader.count (t, none) = true
  not_padding : t.reader.peekUint16.toOption ≠ some 0
  fails : (readTemplate (SetHeader.ofBytes s.reader.data).setID t.reader).2.1.isSome

/-- The bytes of `b` that are left when `n` field specifiers are read from it, as far as they can be read. -/
def specifiersLeft : Nat → List UInt8 → Nat
  | 0, b => b.length
  | n + 1, b =>
    match TemplateFieldSpecifier.size b with
    | some k => specifiersLeft n (b.drop k)
    | none => specifierLeft b

/-- The bytes of `b` that are left when the template record at its front is read, as far as it can be read. -/
def recordLeft (id : UInt16) (b : List UInt8) : Nat :=
  if id = 2 then specifiersLeft (BigEndian.uint16 (b.drop 2)).toNat (b.drop 4)
  else if b.length < 6 then b.length - 4
  else
    let scopeFieldCount := BigEndian.uint16 (b.drop 4)
    specifiersLeft (scopeFieldCount.toNat + (BigEndian.uint16 (b.drop 2) - scopeFieldCount).toNat) (b.drop 6)

theorem many_left (n : Nat) (r : Reader) :
    (many TemplateFieldSpecifier.unmarshal n r).2.2.len = specifiersLeft n r.data := by
  induction n generalizing r with
  | zero => rfl
  | succ n ih =>
    rw [specifiersLeft]
    cases hsize : TemplateFieldSpecifier.size r.data with
    | none =>
      rw [fieldSpecifier_size, ite_eq_left_iff] at hsize
      obtain ⟨-, e, r', he, hr⟩ := unmarshal_field_short (by_contra fun hnot => nomatch hsize hnot)
      simp only [many, he]
      exact hr
    | some k =>
      obtain ⟨-, f, hf⟩ := (measures_fieldSpecifier r).1 k hsize
      simp only [many, hf]
      rw [ih, Cursor.advance_data]

theorem readTemplate_left {id : UInt16} {r : Reader} (hlen : 4 < r.len) :
    (readTemplate id r).2.2.len = recordLeft id r.data := by
  unfold readTemplate recordLeft
  split_ifs with h2 h6
  · rw [TemplateRecord.unmarshal, templateHeader_ofBytes (Nat.le_of_lt hlen)]
    exact many_left _ _
  · -- the scope count is missing
    rw [TemplateRecord.unmarshalOpts, templateHeaderOpts_of_lt hlen h6]
    exact Cursor.len_advance _ _
  · obtain ⟨id, hth⟩ := templateHeaderOpts_of_le (Nat.not_lt.mp h6)
    dsimp only
    rw [← Cursor.advance_data r 6, ← many_left, many_add, TemplateRecord.unmarshalOpts, hth]
    dsimp only
    generalize many TemplateFieldSpecifier.unmarshal (BigEndian.uint16 (r.data.drop 4)).toNat (r.advance 6) = q
    obtain ⟨scopes, _ | e, r'⟩ := q <;> rfl

def stopped (s t : DecodeState) : Reader := (readTemplate (SetHeader.ofBytes s.reader.data).setID t.reader).2.2

theorem Truncated.pass (h : Truncated im raddr s t) :
    (stopped s t).len ≤ 4 ∧
      recordPass im raddr (SetHeader.ofBytes s.reader.data) s.reader.count (loopStart raddr s).1 (t, none) =
        .next ({ t with reader := stopped s t }, none) := by
  have hlen : 4 < t.reader.len := (recordGuard_iff.mp h.guard).2.2
  have hpad := h.not_padding
  rw [Ne, peekUint16_eq_zero hlen] at hpad
  obtain ⟨hok, hshort⟩ := readTemplate_size (SetHeader.ofBytes s.reader.data).setID hlen
  have hfails := h.fails
  have hnone : (if (SetHeader.ofBytes s.reader.data).setID = 2 then TemplateRecord.size t.reader.data
      else TemplateRecord.sizeOpts t.reader.data) = none := by
    by_contra hsome
    obtain ⟨k, hk⟩ := Option.ne_none_iff_exists'.mp hsome
    obtain ⟨-, tr, hread⟩ := hok k hk
    rw [hread] at hfails
    cases hfails
  obtain ⟨tr, e, r, hread, hr⟩ := hshort hnone
  have hstop : stopped s t = r := by rw [stopped, hread]
  refine ⟨hstop ▸ hr, ?_⟩
  rw [recordPass_of_guard h.guard, recordBody_templateSet h.isTemplate hlen, if_neg hpad, hread, hstop]

/-- The set of a truncated record is left where the reading stopped, but for the skip. -/
theorem Truncated.leaves (h : Truncated im raddr s t) (hlen : 4 < s.reader.len) :
    s.reader.Past (stopped s t) ∧ ∃ fuel, decodeSet im raddr fuel s = some
      (skipLeftover (SetHeader.ofBytes s.reader.data) s.reader.count ({ t with reader := stopped s t }, none)) := by
  obtain ⟨hstop, hpass⟩ := h.pass
  have hfam : Loop.Family (setLoop im raddr s) := fun _ _ _ _ _ hx => hx
  have hend : Loop.Returns (setLoop im raddr s) ({ t with reader := stopped s t }, none)
      ({ t with reader := stopped s t }, none) := by
    refine Loop.Returns.of_done hfam (n := 0) (congrArg some (recordPass_of_not_guard fun hg => ?_))
    exact absurd (recordGuard_iff.mp hg).2.2 (Nat.not_lt.mpr hstop)
  obtain ⟨fuel, hrun⟩ := h.entered.2.returns hfam (hend.of_next hfam (n := 0) (congrArg some hpass))
  exact ⟨setLoop_past hlen hrun, fuel, (decodeSet_eq_some hlen.le).mpr (Or.inr ⟨h.entered.1, _, hrun, rfl⟩)⟩

/-- `Decode` returns an error. -/
def Reported (im : IANAInfoModel) (raddr : IP) (mem : MemCache TemplateRecord) (b : List UInt8) : Prop :=
  ∃ out, Decodes im raddr mem b out ∧ out.err ≠ none

theorem Truncated.decodes {errs : List Error} {header : MessageHeader} {r : Reader} (h : Truncated im raddr s t)
    (hh : (packetDecoder im raddr mem).HeaderOk b header r)
    (hv : Loop.Visits (setPass DecodeState.reader (decodeSet im raddr)) (start raddr mem header r, []) (s, errs))
    (hlen : 4 < s.reader.len) :
    ∃ out, Decodes im raddr mem b out ∧ out.err = combineErrors (errs ++
      (skipLeftover (SetHeader.ofBytes s.reader.data) s.reader.count
        ({ t with reader := stopped s t }, none)).2.toList) := by
  obtain ⟨-, fuel, hset⟩ := h.leaves hlen
  generalize hskip : skipLeftover (SetHeader.ofBytes s.reader.data) s.reader.count
    ({ t with reader := stopped s t }, none) = y at hset ⊢
  have hshort : y.1.reader.len ≤ 4 := by
    obtain ⟨k, -, hk⟩ := skipLeftover_forward (SetHeader.ofBytes s.reader.data) s.reader.count
      ({ t with reader := stopped s t }, none)
    rw [← hskip, hk, Cursor.len_advance]
    exact le_trans (Nat.sub_le _ _) h.pass.1
  exact ⟨_, decodes_iff.mpr ⟨_, hh.returns_last decodeSet_family hv hlen hset hshort, rfl⟩, rfl⟩

/-- The skip fails exactly if the set ends past the packet, or before the place where the reading stopped. -/
theorem Truncated.skip (h : Truncated im raddr s t) (hlen : 4 < s.reader.len) (hsmall : s.reader.len < 2 ^ 16) :
    (skipLeftover (SetHeader.ofBytes s.reader.data) s.reader.count ({ t with reader := stopped s t }, none)).2 ≠ none ↔
      s.reader.len < (SetHeader.ofBytes s.reader.data).length.toNat ∨
        (SetHeader.ofBytes s.reader.data).length.toNat +
          recordLeft (SetHeader.ofBytes s.reader.data).setID t.reader.data < s.reader.len := by
  have hleft : (stopped s t).len = recordLeft (SetHeader.ofBytes s.reader.data).setID t.reader.data :=
    readTemplate_left (recordGuard_iff.mp h.guard).2.2
  obtain ⟨k, hk4, hk, hstop⟩ := (h.leaves hlen).1
  rw [← hleft, hstop, Cursor.len_advance]
  rcases Nat.lt_or_ge (SetHeader.ofBytes s.reader.data).length.toNat k with hlt | hle
  · rw [skipLeftover_of_lt hsmall rfl hk hlt]
    exact iff_of_true (by simp) (Or.inr (by omega))
  · rw [skipLeftover_of_le rfl hk hle]
    split_ifs with hin
    · exact iff_of_false (by simp) (by omega)
    · exact iff_of_true (by simp) (Or.inl (by omega))

/-- **Truncated templates.** When a template record of a packet of at most 65535 bytes cannot be read to its end,
`Decode` returns an error exactly if one of the sets before is not silent, or the set of the record ends past the
packet, or it ends before the place where the reading of the record stopped. -/
theorem truncated_reported_iff (im : IANAInfoModel) (raddr : IP) (mem : MemCache TemplateRecord) (b : List UInt8)
    (hb : b.length ≤ 65535) (s t : DecodeState) (he : Enters im raddr mem b s) (ht : Truncated im raddr s t) :
    Reported im raddr mem b ↔
      (∃ s₀, Enters im raddr mem b s₀ ∧ s₀.reader.count < s.reader.count ∧
        ¬ Silent im raddr s₀.mem s₀.reader.data) ∨
      s.reader.len < (SetHeader.ofBytes s.reader.data).length.toNat ∨
      (SetHeader.ofBytes s.reader.data).length.toNat +
        recordLeft (SetHeader.ofBytes s.reader.data).setID t.reader.data < s.reader.len := by
  have hwithin := he.within.2.1
  obtain ⟨header, r, hh, errs, hv, hlen⟩ := he
  have hbefore : errs = [] ↔ ∀ s₀, Enters im raddr mem b s₀ → s₀.reader.count < s.reader.count →
      Silent im raddr s₀.mem s₀.reader.data :=
    PacketDecoder.errs_eq_nil_iff packetDecoder_lawful (p := packetDecoder im raddr mem)
      (fun n s₀ s₁ err h₀ hset hnext => decodeSet_eq_none_iff hb h₀ hset hnext) hh hv hlen
  obtain ⟨out, hdec, hout⟩ := ht.decodes hh hv hlen
  have herr : Reported im raddr mem b ↔ out.err ≠ none := by
    refine ⟨?_, fun h => ⟨out, hdec, h⟩⟩
    rintro ⟨out', hdec', h⟩
    rwa [hdec.unique hdec']
  rw [herr, hout, Ne, combineErrors_eq_none, List.append_eq_nil_iff, Option.toList_eq_nil_iff, not_and_or,
    ← ht.skip hlen (by omega), hbefore]
  refine or_congr_left ?_
  simp only [not_forall, exists_prop]

def truncatedSet (length : UInt8) : List UInt8 := [0, 2, 0, length, 1, 0, 0, 2, 0, 8, 0, 4]

def atTruncated (length : UInt8) : DecodeState :=
  start [192, 0, 2, 1] .empty ⟨10, 0, 0, 0, 0⟩ ⟨truncatedSet length, 16⟩

def inTruncated (length : UInt8) : DecodeState :=
  { atTruncated length with reader := ⟨(truncatedSet length).drop 4, 20⟩ }

theorem truncated_reported_past :
    Reported infoModel [192, 0, 2, 1] .empty (sampleHeader ++ truncatedSet 16) := by
  have he : Enters infoModel [192, 0, 2, 1] .empty (sampleHeader ++ truncatedSet 16) (atTruncated 16) :=
    enters_start ⟨rfl, rfl⟩ (by decide)
  have ht : Truncated infoModel [192, 0, 2, 1] (atTruncated 16) (inTruncated 16) :=
    ⟨by decide, ⟨by decide, .refl⟩, by decide, by decide, rfl⟩
  exact (truncated_reported_iff _ _ _ _ (by decide) _ _ he ht).mpr (Or.inr (by decide))

/-- The set ends with the packet, and the missing field is not noticed: no error is returned. -/
theorem truncated_silent :
    ∃ s t, Enters infoModel [192, 0, 2, 1] .empty (sampleHeader ++ truncatedSet 12) s ∧
      Truncated infoModel [192, 0, 2, 1] s t ∧
      ¬ Reported infoModel [192, 0, 2, 1] .empty (sampleHeader ++ truncatedSet 12) := by
  refine ⟨atTruncated 12, inTruncated 12, enters_start ⟨rfl, rfl⟩ (by decide),
    ⟨by decide, ⟨by decide, .refl⟩, by decide, by decide, rfl⟩, ?_⟩
  rintro ⟨out, hdec, herr⟩
  have hrun : Decodes infoModel [192, 0, 2, 1] .empty (sampleHeader ++ truncatedSet 12)
      { msg := some ⟨"192.0.2.1", ⟨10, 0, 0, 0, 0⟩, []⟩, err := none, mem := .empty, rpc := [] } := ⟨3, rfl⟩
  rw [hdec.unique hrun] at herr
  exact herr rfl

end VFlow.Ipfix
