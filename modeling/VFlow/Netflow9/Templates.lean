import VFlow.Netflow9.Lookup
import VFlow.Netflow9.Termination

/-!
# The template record of a NetFlow v9 message

`decodeSet` stores a template record only when it was read to its end, but it puts the record into the message
either way. A record that is cut off runs into the end of the packet, so that it is the last thing `Decode` reads,
and the message carries it as far as it was filled in (`CutOff.message`). In all other packets the message carries
a record that was stored, or none.

A cut-off record of a template flowset has fewer fields than it announces, which no stored record has. Of an
options template the record does not keep the lengths it announced, nor any scope specifier but the last, so that a
cut-off one can look like the zero record, or like one that was stored before. Which of them do is read off their
bytes (`Blank`, `Repeats`), and so is whether the message carries a stored record (`templaRecord_accepted_iff`).
-/

namespace VFlow.Netflow9

open Scan Reader

variable {im : IANAInfoModel} {raddr : IP} {h : SetHeader} {tr : TemplateRecord} {s t : DecodeState}
  {mem : MemCache TemplateRecord} {b : List UInt8} {out : Outcome}

/-! ## The records of a packet -/

/-- In the flowset at the reader of `s`, `Decode` comes to a template record in the state `t`. -/
structure AtTemplate (im : IANAInfoModel) (raddr : IP) (mem : MemCache TemplateRecord) (b : List UInt8)
    (s t : DecodeState) : Prop where
  enters : Enters im raddr mem b s
  isTemplate : (SetHeader.ofBytes s.reader.data).IsTemplate
  entered : EntersPass im raddr s (t, none)
  guard : recordGuard (SetHeader.ofBytes s.reader.data) s.reader.count (t, none) = true

/-- The size of the record, as its counts announce it. -/
def announced (s t : DecodeState) : Nat := recordSize (SetHeader.ofBytes s.reader.data) t.reader.data

/-- The record as far as it was filled in. -/
def begun (s t : DecodeState) : TemplateRecord := (readTemplate (SetHeader.ofBytes s.reader.data) t.reader).1

theorem AtTemplate.len (h : AtTemplate im raddr mem b s t) : 4 < t.reader.len := (recordGuard_iff.mp h.guard).2.2

theorem accepts_iff :
    Accepts im raddr mem b tr ↔
      ∃ s t, AtTemplate im raddr mem b s t ∧ announced s t ≤ t.reader.len ∧ begun s t = tr := by
  constructor
  · rintro ⟨s, t, t', he, hv, hid, hread, hp, -⟩
    have hat : AtTemplate im raddr mem b s t := ⟨he, hid, hv, (recordPass_next hp).1⟩
    refine ⟨s, t, hat, ?_, by rw [begun, hread]⟩
    by_contra hshort
    obtain ⟨u, k, -, -, hfail⟩ := (readTemplate_spec (Nat.le_of_lt hat.len)).2 (Nat.not_le.mp hshort)
    rw [hread] at hfail
    cases (Prod.mk.inj (Prod.mk.inj hfail).2).1
  · rintro ⟨s, t, hat, hle, rfl⟩
    obtain ⟨u, hread⟩ := (readTemplate_spec (Nat.le_of_lt hat.len)).1 hle
    have hbegun : begun s t = u := by rw [begun, hread]
    rw [hbegun]
    refine ⟨s, t, { t with reader := _, mem := t.mem.insert u.templateID raddr u,
                           msg := { t.msg with templaRecord := u } },
      hat.enters, hat.entered, hat.isTemplate, hread, ?_, rfl⟩
    rw [recordPass_of_guard hat.guard, recordBody_template hat.isTemplate, hread]
    rfl

/-! ## Records that are cut off -/

/-- A record that cannot be read to its end leaves less than a field specifier, and, in a template flowset, has
fewer fields than it announces. -/
theorem unmarshal_short {r : Reader} (hlen : 4 < r.len) (hfails : (TemplateRecord.unmarshal r).2.1.isSome) :
    (TemplateRecord.unmarshal r).2.2.len ≤ 4 ∧
      (TemplateRecord.unmarshal r).1.fieldSpecifiers.length < (TemplateRecord.unmarshal r).1.fieldCount.toNat := by
  rw [TemplateRecord.unmarshal, templateHeader_of_le (by omega)] at hfails ⊢
  dsimp only at hfails ⊢
  obtain ⟨e, he⟩ := Option.isSome_iff_exists.mp hfails
  obtain ⟨hfields, hrest⟩ := many_short reads_fieldSpecifier (Prod.ext rfl (Prod.ext he rfl))
  exact ⟨Nat.le_of_lt hrest, hfields⟩

theorem unmarshalOpts_short {r : Reader} (hlen : 4 < r.len) (hfails : (TemplateRecord.unmarshalOpts r).2.1.isSome) :
    (TemplateRecord.unmarshalOpts r).2.2.len ≤ 4 := by
  rw [TemplateRecord.unmarshalOpts, templateHeaderOpts_of_le (by omega)] at hfails ⊢
  by_cases h6 : 6 ≤ r.len
  · rw [if_pos h6] at hfails ⊢
    dsimp only at hfails ⊢
    generalize hscopes : many TemplateFieldSpecifier.unmarshal (BigEndian.uint16 (r.data.drop 2) / 4).toNat
      (r.advance 6) = q at hfails ⊢
    obtain ⟨scopes, err, r'⟩ := q
    cases err with
    | some e =>
      have := (many_short reads_fieldSpecifier hscopes).2
      exact Nat.le_of_lt this
    | none =>
      obtain ⟨e, he⟩ := Option.isSome_iff_exists.mp hfails
      have := (many_short reads_fieldSpecifier (Prod.ext rfl (Prod.ext he rfl))).2
      exact Nat.le_of_lt this
  · rw [if_neg h6]
    change (r.advance 4).len ≤ 4
    rw [Cursor.len_advance]
    omega

theorem readTemplate_short {r : Reader} (hlen : 4 < r.len) (hfails : (readTemplate h r).2.1.isSome) :
    (readTemplate h r).2.2.len ≤ 4 := by
  unfold readTemplate at hfails ⊢
  split_ifs at hfails ⊢
  · exact (unmarshal_short hlen hfails).1
  · exact unmarshalOpts_short hlen hfails

/-- A record that was read to its end has no fewer fields than it announces; the field count of an options template
stays zero. -/
theorem readTemplate_counts {r r' : Reader} (hread : readTemplate h r = (tr, none, r')) :
    tr.fieldCount.toNat ≤ tr.fieldSpecifiers.length := by
  unfold readTemplate at hread
  split_ifs at hread
  · rw [TemplateRecord.unmarshal] at hread
    cases hth : TemplateHeader.unmarshal r with
    | error e r₁ =>
      rw [hth] at hread
      cases hread
    | ok th r₁ =>
      rw [hth] at hread
      obtain ⟨rfl, hrest⟩ := Prod.mk.inj hread
      have hall := many_complete (j := 0) (fun c f c' hf => by
        obtain ⟨-, rfl⟩ := reads_fieldSpecifier.of_ok hf
        rw [Cursor.len_advance]
        omega) (Prod.ext rfl hrest)
      exact hall.1.ge
  · rw [TemplateRecord.unmarshalOpts] at hread
    cases hth : TemplateHeader.unmarshalOpts r with
    | error e r₁ =>
      rw [hth] at hread
      cases hread
    | ok th r₁ =>
      rw [hth] at hread
      dsimp only at hread
      split at hread
      · cases hread
      · obtain ⟨rfl, -⟩ := Prod.mk.inj hread
        exact Nat.zero_le _

theorem AtTemplate.fails (h : AtTemplate im raddr mem b s t) (hcut : t.reader.len < announced s t) :
    (readTemplate (SetHeader.ofBytes s.reader.data) t.reader).2.1.isSome := by
  obtain ⟨u, k, -, -, hfail⟩ := (readTemplate_spec (Nat.le_of_lt h.len)).2 hcut
  rw [hfail]
  rfl

theorem AtTemplate.pass (h : AtTemplate im raddr mem b s t) (hcut : t.reader.len < announced s t) :
    ∃ r e, r.len ≤ 4 ∧
      recordPass im raddr (SetHeader.ofBytes s.reader.data) s.reader.count (loopTemplate raddr s) (t, none) =
        .next ({ t with reader := r, msg := { t.msg with templaRecord := begun s t } }, some e) := by
  have hshort := readTemplate_short h.len (h.fails hcut)
  obtain ⟨e, he⟩ := Option.isSome_iff_exists.mp (h.fails hcut)
  refine ⟨_, e, hshort, ?_⟩
  rw [recordPass_of_guard h.guard, recordBody_template h.isTemplate]
  simp only [he, begun, Option.isNone_some, Bool.false_eq_true, if_false]

/-- With a record that is cut off decoding ends, and the message carries what was read of it. -/
theorem AtTemplate.message (h : AtTemplate im raddr mem b s t) (hcut : t.reader.len < announced s t) :
    ∃ out msg, Decodes im raddr mem b out ∧ out.msg = some msg ∧ msg.templaRecord = begun s t := by
  obtain ⟨header, r₀, hh, errs, hv, hlen⟩ := h.enters
  obtain ⟨r, e, hr, hpass⟩ := h.pass hcut
  -- the record loop ends with the record
  have hfam : Loop.Family (setLoop im raddr s) := fun _ _ _ _ _ hx => hx
  have hend : Loop.Returns (setLoop im raddr s)
      ({ t with reader := r, msg := { t.msg with templaRecord := begun s t } }, some e) _ :=
    Loop.Returns.of_done hfam (n := 0) (congrArg some (recordPass_of_not_guard fun hg => by
      cases (recordGuard_iff.mp hg).1))
  obtain ⟨fuel, hrun⟩ := h.entered.2.returns hfam (hend.of_next hfam (n := 0) (congrArg some hpass))
  have hset := (decodeSet_eq_some hlen.le).mpr (Or.inr ⟨h.entered.1, _, hrun, rfl⟩)
  obtain ⟨k, -, hskip⟩ := skipLeftover_forward (SetHeader.ofBytes s.reader.data) s.reader.count
    ({ t with reader := r, msg := { t.msg with templaRecord := begun s t } }, some e)
  generalize skipLeftover (SetHeader.ofBytes s.reader.data) s.reader.count
    ({ t with reader := r, msg := { t.msg with templaRecord := begun s t } }, some e) = y at hset hskip
  obtain ⟨u, err⟩ := y
  dsimp only at hskip
  -- and the loop over the flowsets with the flowset
  have hshort : u.reader.len ≤ 4 := by
    rw [hskip, Cursor.len_advance]
    exact le_trans (Nat.sub_le _ _) hr
  have hret := hh.returns_last decodeSet_family hv hlen hset hshort
  refine ⟨_, u.msg, decodes_iff.mpr ⟨_, hret, rfl⟩, rfl, ?_⟩
  rw [hskip]

/-! ## The message -/

/-- The record of the message is the zero record, or one that was stored. -/
def Carries (im : IANAInfoModel) (raddr : IP) (mem : MemCache TemplateRecord) (b : List UInt8) (tr : TemplateRecord) :
    Prop :=
  tr = {} ∨ Accepts im raddr mem b tr

theorem recordPass_templaRecord {x' : DecodeState × Option Error} (he : Enters im raddr mem b s)
    (hv : EntersPass im raddr s (t, none))
    (hp : recordPass im raddr (SetHeader.ofBytes s.reader.data) s.reader.count (loopTemplate raddr s) (t, none) =
      .next x') :
    x'.1.msg.templaRecord = t.msg.templaRecord ∨
      AtTemplate im raddr mem b s t ∧ x'.1.msg.templaRecord = begun s t := by
  obtain ⟨hg, hstep⟩ := recordPass_next hp
  by_cases hid : (SetHeader.ofBytes s.reader.data).IsTemplate
  · rw [recordPass_of_guard hg, recordBody_template hid] at hp
    obtain rfl := LoopStep.next.inj hp
    exact Or.inr ⟨⟨he, hid, hv, hg⟩, rfl⟩
  · cases hstep with
    | stored u hid' _ => exact absurd hid' hid
    | cutOff k u hid' _ => exact absurd hid' hid
    | record data _ _ _ => exact Or.inl rfl
    | failed k e _ _ _ => exact Or.inl rfl

theorem Decodes.carries {msg : Message} (hdec : Decodes im raddr mem b out) (hmsg : out.msg = some msg)
    (hcut : ∀ s t, AtTemplate im raddr mem b s t → t.reader.len < announced s t →
      Carries im raddr mem b (begun s t)) :
    Carries im raddr mem b msg.templaRecord := by
  obtain ⟨e, hret, rfl⟩ := decodes_iff.mp hdec
  rcases hret.invariant_entered (P := fun s => Carries im raddr mem b s.msg.templaRecord) (fun _ _ _ => Or.inl rfl)
    (fun n s s' err he hs hset =>
      decodeSet_kept (P := fun t => Carries im raddr mem b t.msg.templaRecord) (fun _ _ ht => ht)
        (fun t x' hv ht hp => by
          rcases recordPass_templaRecord he hv hp with hsame | ⟨hat, hbegun⟩
          · rw [hsame]
            exact ht
          · rw [hbegun]
            by_cases hle : announced s t ≤ t.reader.len
            · exact Or.inr (accepts_iff.mpr ⟨s, t, hat, hle, rfl⟩)
            · exact hcut s t hat (Nat.not_le.mp hle)) (Enters.len he) hs hset) with ⟨err, rfl⟩ | ⟨s, errs, hs, rfl⟩
  · cases hmsg
  · obtain rfl := Option.some.inj hmsg
    exact hs

/-! ## What is kept of an options template record -/

/-- The field specifiers that the bytes spell, of four bytes each. -/
def specifiers : List UInt8 → List TemplateFieldSpecifier
  | a :: b :: c :: d :: w => ⟨BigEndian.uint16 [a, b], BigEndian.uint16 [c, d]⟩ :: specifiers w
  | _ => []

def whole (w : List UInt8) : List UInt8 := w.take (w.length / 4 * 4)

def lastSpecifier (w : List UInt8) : List UInt8 := (whole w).drop ((whole w).length - 4)

/-- The scope specifiers of an options template record, as far as they are there. -/
def scopeBytes (w : List UInt8) : List UInt8 := (w.drop 6).take ((BigEndian.uint16 (w.drop 2) / 4).toNat * 4)

/-- The option specifiers of an options template record, as far as they are there. -/
def optionBytes (w : List UInt8) : List UInt8 :=
  (w.drop (6 + (BigEndian.uint16 (w.drop 2) / 4).toNat * 4)).take ((BigEndian.uint16 (w.drop 4) / 4).toNat * 4)

theorem whole_of_lt {w : List UInt8} (h : w.length < 4) : whole w = [] := by
  rw [whole, Nat.div_eq_of_lt h, Nat.zero_mul, List.take_zero]

theorem whole_cons (a b c d : UInt8) (w : List UInt8) :
    whole (a :: b :: c :: d :: w) = a :: b :: c :: d :: whole w := by
  have hlen : (a :: b :: c :: d :: w).length / 4 * 4 = w.length / 4 * 4 + 4 := by
    simp only [List.length_cons]
    omega
  rw [whole, hlen]
  rfl

theorem specifiers_of_lt {w : List UInt8} (h : w.length < 4) : specifiers w = [] := by
  unfold specifiers
  split
  · simp only [List.length_cons] at h
    omega
  · rfl

theorem four_or_lt (w : List UInt8) : w.length < 4 ∨ ∃ a b c d v, w = a :: b :: c :: d :: v := by
  rcases w with _ | ⟨a, _ | ⟨b, _ | ⟨c, _ | ⟨d, v⟩⟩⟩⟩
  · exact .inl (by simp)
  · exact .inl (by simp)
  · exact .inl (by simp)
  · exact .inl (by simp)
  · exact .inr ⟨a, b, c, d, v, rfl⟩

theorem uint16_inj {a b c d : UInt8} : BigEndian.uint16 [a, b] = BigEndian.uint16 [c, d] ↔ a = c ∧ b = d := by
  constructor
  · intro h
    have hput := congrArg BigEndian.putUint16 h
    rw [BigEndian.put_uint16, BigEndian.put_uint16] at hput
    simpa using hput
  · rintro ⟨rfl, rfl⟩
    rfl

theorem specifiers_inj (u v : List UInt8) : specifiers u = specifiers v ↔ whole u = whole v := by
  induction hn : u.length using Nat.strong_induction_on generalizing u v with
  | _ n ih =>
    subst hn
    rcases four_or_lt u with hu | ⟨a, b, c, d, u, rfl⟩
    · rcases four_or_lt v with hv | ⟨a', b', c', d', v, rfl⟩
      · rw [specifiers_of_lt hu, specifiers_of_lt hv, whole_of_lt hu, whole_of_lt hv]
        exact Iff.intro (fun _ => rfl) fun _ => rfl
      · rw [specifiers_of_lt hu, whole_of_lt hu, whole_cons, specifiers]
        simp
    · rcases four_or_lt v with hv | ⟨a', b', c', d', v, rfl⟩
      · rw [specifiers_of_lt hv, whole_of_lt hv, whole_cons, specifiers]
        simp
      · rw [whole_cons, whole_cons, specifiers, specifiers, List.cons.injEq, TemplateFieldSpecifier.mk.injEq,
          ih u.length (by simp only [List.length_cons]; omega) u v rfl, uint16_inj, uint16_inj]
        simp only [List.cons.injEq, and_assoc]

theorem specifiers_eq_nil_iff (u : List UInt8) : specifiers u = [] ↔ whole u = [] := specifiers_inj u []

theorem lastSpecifier_of_lt {w : List UInt8} (h : w.length < 4) : lastSpecifier w = [] := by
  rw [lastSpecifier, whole_of_lt h]
  rfl

theorem lastSpecifier_cons (a b c d : UInt8) (w : List UInt8) :
    lastSpecifier (a :: b :: c :: d :: w) = if w.length < 4 then [a, b, c, d] else lastSpecifier w := by
  rw [lastSpecifier, whole_cons]
  split_ifs with hw
  · rw [whole_of_lt hw]
    rfl
  · have hle : 4 ≤ (whole w).length := by
      rw [whole, List.length_take]
      omega
    have hsub : (a :: b :: c :: d :: whole w).length - 4 = (whole w).length - 4 + 4 := by
      simp only [List.length_cons]
      omega
    rw [hsub]
    rfl

theorem whole_lastSpecifier (w : List UInt8) : whole (lastSpecifier w) = lastSpecifier w := by
  induction hn : w.length using Nat.strong_induction_on generalizing w with
  | _ n ih =>
    subst hn
    rcases four_or_lt w with hw | ⟨a, b, c, d, w, rfl⟩
    · rw [lastSpecifier_of_lt hw]
      rfl
    · rw [lastSpecifier_cons]
      split_ifs
      · rw [whole_cons, whole_of_lt (by simp)]
      · exact ih w.length (by simp only [List.length_cons]; omega) w rfl

theorem getLast?_specifiers (w : List UInt8) : (specifiers w).getLast?.toList = specifiers (lastSpecifier w) := by
  induction hn : w.length using Nat.strong_induction_on generalizing w with
  | _ n ih =>
    subst hn
    rcases four_or_lt w with hw | ⟨a, b, c, d, w, rfl⟩
    · rw [specifiers_of_lt hw, lastSpecifier_of_lt hw]
      rfl
    · rw [lastSpecifier_cons, specifiers, List.getLast?_cons]
      split_ifs with hlt
      · rw [specifiers_of_lt hlt]
        rfl
      · rw [← ih w.length (by simp only [List.length_cons]; omega) w rfl]
        cases hspecs : (specifiers w).getLast? with
        | none =>
          rw [List.getLast?_eq_none_iff, specifiers_eq_nil_iff] at hspecs
          have hzero := congrArg List.length hspecs
          rw [whole, List.length_take, List.length_nil] at hzero
          omega
        | some f => rfl

theorem many_specifiers (n : Nat) (r : Reader) :
    (many TemplateFieldSpecifier.unmarshal n r).1 = specifiers (r.data.take (n * 4)) := by
  induction n generalizing r with
  | zero => rw [Nat.zero_mul, List.take_zero, many, specifiers_of_lt (by simp)]
  | succ n ih =>
    obtain ⟨data, count⟩ := r
    rcases four_or_lt data with hlt | ⟨a, b, c, d, v, rfl⟩
    · obtain ⟨j, -, hj⟩ := (reads_fieldSpecifier ⟨data, count⟩).2 hlt
      simp only [many, hj]
      rw [specifiers_of_lt (lt_of_le_of_lt (List.length_take_le' _ _) hlt)]
    · have hread : TemplateFieldSpecifier.unmarshal ⟨a :: b :: c :: d :: v, count⟩ =
          .ok ⟨BigEndian.uint16 [a, b], BigEndian.uint16 [c, d]⟩ ⟨v, count + 4⟩ := rfl
      have htake : (a :: b :: c :: d :: v).take ((n + 1) * 4) = a :: b :: c :: d :: v.take (n * 4) := by
        rw [Nat.succ_mul]
        rfl
      simp only [many, hread, ih]
      rw [htake, specifiers]

theorem foldl_last {α : Type} (fs : List α) : fs.foldl (fun _ f => [] ++ [f]) [] = fs.getLast?.toList := by
  induction fs using List.reverseRecOn with
  | nil => rfl
  | append_singleton fs f _ => simp

/-- What is read of an options template record: its id, the last of the scope specifiers and the option
specifiers, as far as they are there. -/
theorem unmarshalOpts_record {r : Reader} (h6 : 6 ≤ r.len) :
    (TemplateRecord.unmarshalOpts r).1 =
      { templateID := BigEndian.uint16 r.data
        scopeFieldSpecifiers := specifiers (lastSpecifier (scopeBytes r.data))
        fieldSpecifiers := specifiers (optionBytes r.data) } := by
  rw [TemplateRecord.unmarshalOpts, templateHeaderOpts_of_le (by omega), if_pos h6]
  dsimp only
  have hscopes := many_specifiers (BigEndian.uint16 (r.data.drop 2) / 4).toNat (r.advance 6)
  rw [Cursor.advance_data] at hscopes
  have hmany := many_reads reads_fieldSpecifier (BigEndian.uint16 (r.data.drop 2) / 4).toNat (r.advance 6)
  rw [Cursor.len_advance] at hmany
  rw [foldl_last, hscopes, getLast?_specifiers]
  by_cases hle : (BigEndian.uint16 (r.data.drop 2) / 4).toNat * 4 ≤ r.len - 6
  · obtain ⟨scopes, -, hok⟩ := hmany.1 hle
    rw [hok, Cursor.advance_advance]
    dsimp only
    rw [many_specifiers, Cursor.advance_data]
    rfl
  · obtain ⟨scopes, j, -, hshort⟩ := hmany.2 (Nat.not_le.mp hle)
    have hend : r.data.length ≤ 6 + (BigEndian.uint16 (r.data.drop 2) / 4).toNat * 4 := by
      change r.len ≤ _
      omega
    have hnil : optionBytes r.data = [] := by rw [optionBytes, List.drop_of_length_le hend, List.take_nil]
    rw [hshort, hnil]
    rfl

theorem unmarshalOpts_of_lt {r : Reader} (h4 : 4 ≤ r.len) (h6 : r.len < 6) :
    (TemplateRecord.unmarshalOpts r).1 = {} := by
  rw [TemplateRecord.unmarshalOpts, templateHeaderOpts_of_le h4, if_neg (Nat.not_le.mpr h6)]

theorem unmarshal_record {r : Reader} (h4 : 4 ≤ r.len) :
    (TemplateRecord.unmarshal r).1 =
      { templateID := BigEndian.uint16 r.data
        fieldCount := BigEndian.uint16 (r.data.drop 2)
        fieldSpecifiers := specifiers ((r.data.drop 4).take ((BigEndian.uint16 (r.data.drop 2)).toNat * 4)) } := by
  rw [TemplateRecord.unmarshal, templateHeader_of_le h4]
  dsimp only
  rw [many_specifiers, Cursor.advance_data]

/-! ## Cut-off records that look like others -/

/-- The bytes of an options template record that is cut off: there is nothing that is kept but zeros. -/
def Blank (w : List UInt8) : Prop :=
  w.length < 6 ∨ BigEndian.uint16 w = 0 ∧ whole (scopeBytes w) = [] ∧ whole (optionBytes w) = []

/-- The bytes `w` of an options template record that is cut off, and the bytes `w'` of a record of a flowset with
the header `h`: they have the same id, and what is kept of the specifiers is the same. A template record keeps its
field count, so that it must have no fields. -/
def Repeats (h : SetHeader) (w' w : List UInt8) : Prop :=
  BigEndian.uint16 w' = BigEndian.uint16 w ∧
    if h.flowSetID = 0 then
      BigEndian.uint16 (w'.drop 2) = 0 ∧ whole (scopeBytes w) = [] ∧ whole (optionBytes w) = []
    else
      lastSpecifier (scopeBytes w') = lastSpecifier (scopeBytes w) ∧ whole (optionBytes w') = whole (optionBytes w)

theorem specifiers_lastSpecifier_eq_nil_iff (w : List UInt8) : specifiers (lastSpecifier w) = [] ↔ whole w = [] := by
  rw [specifiers_eq_nil_iff, whole_lastSpecifier, lastSpecifier, List.drop_eq_nil_iff, ← List.length_eq_zero_iff]
  have hfour : (whole w).length = w.length / 4 * 4 := by
    rw [whole, List.length_take]
    omega
  omega

theorem begun_options (h1 : (SetHeader.ofBytes s.reader.data).flowSetID = 1) :
    begun s t = (TemplateRecord.unmarshalOpts t.reader).1 := by
  rw [begun, readTemplate, if_neg (by rw [h1]; decide)]

theorem begun_eq_zero_iff (h1 : (SetHeader.ofBytes s.reader.data).flowSetID = 1) (h4 : 4 ≤ t.reader.len) :
    begun s t = {} ↔ Blank t.reader.data := by
  rw [begun_options h1, Blank, show t.reader.data.length = t.reader.len from rfl]
  by_cases h6 : t.reader.len < 6
  · exact iff_of_true (unmarshalOpts_of_lt h4 h6) (.inl h6)
  · rw [or_iff_right h6, unmarshalOpts_record (Nat.not_lt.mp h6), TemplateRecord.mk.injEq, specifiers_eq_nil_iff,
      specifiers_lastSpecifier_eq_nil_iff]
    simp only [true_and]
    exact and_congr_right fun _ => and_comm

theorem begun_eq_begun_iff {s' t' : DecodeState} (hat : AtTemplate im raddr mem b s' t')
    (hle : announced s' t' ≤ t'.reader.len) (h1 : (SetHeader.ofBytes s.reader.data).flowSetID = 1)
    (h6 : 6 ≤ t.reader.len) :
    begun s' t' = begun s t ↔ Repeats (SetHeader.ofBytes s'.reader.data) t'.reader.data t.reader.data := by
  rw [begun_options h1, unmarshalOpts_record h6, begun, readTemplate, Repeats]
  by_cases h0 : (SetHeader.ofBytes s'.reader.data).flowSetID = 0
  · rw [if_pos h0, if_pos h0, unmarshal_record (Nat.le_of_lt hat.len), TemplateRecord.mk.injEq]
    refine and_congr_right fun _ => ?_
    rw [← specifiers_lastSpecifier_eq_nil_iff, ← specifiers_eq_nil_iff (optionBytes _)]
    constructor
    · rintro ⟨hcount, hspecs, -, hscopes⟩
      refine ⟨hcount, hscopes.symm, ?_⟩
      rw [← hspecs, hcount]
      exact specifiers_of_lt (by simp)
    · rintro ⟨hcount, hscopes, hspecs⟩
      refine ⟨hcount, ?_, rfl, hscopes.symm⟩
      rw [hspecs, hcount]
      exact specifiers_of_lt (by simp)
  · have h6' : 6 ≤ t'.reader.len := by
      rw [announced, recordSize, if_neg h0, optionsSize] at hle
      omega
    rw [if_neg h0, if_neg h0, unmarshalOpts_record h6', TemplateRecord.mk.injEq, specifiers_inj, specifiers_inj,
      whole_lastSpecifier, whole_lastSpecifier]
    simp only [true_and]
    exact and_congr_right fun _ => and_comm

theorem carries_begun_iff (hat : AtTemplate im raddr mem b s t)
    (h1 : (SetHeader.ofBytes s.reader.data).flowSetID = 1) :
    Carries im raddr mem b (begun s t) ↔ Blank t.reader.data ∨ ∃ s' t', AtTemplate im raddr mem b s' t' ∧
      announced s' t' ≤ t'.reader.len ∧ Repeats (SetHeader.ofBytes s'.reader.data) t'.reader.data t.reader.data := by
  rw [Carries, begun_eq_zero_iff h1 (Nat.le_of_lt hat.len), accepts_iff]
  by_cases h6 : 6 ≤ t.reader.len
  · refine or_congr_right (exists₂_congr fun s' t' => and_congr_right fun hat' => and_congr_right fun hle => ?_)
    exact begun_eq_begun_iff hat' hle h1 h6
  · exact iff_of_true (.inl (.inl (Nat.not_le.mp h6))) (.inl (.inl (Nat.not_le.mp h6)))

/-- A record of a template flowset that is cut off has fewer fields than it announces, unlike those that are stored. -/
theorem AtTemplate.options_of_carries (hat : AtTemplate im raddr mem b s t) (hcut : t.reader.len < announced s t)
    (hcarries : Carries im raddr mem b (begun s t)) : (SetHeader.ofBytes s.reader.data).flowSetID = 1 := by
  by_contra hid
  have h0 := hat.isTemplate.resolve_right hid
  have hfails := hat.fails hcut
  have hread : begun s t = (TemplateRecord.unmarshal t.reader).1 := by rw [begun, readTemplate, if_pos h0]
  rw [readTemplate, if_pos h0] at hfails
  have hfew := (unmarshal_short hat.len hfails).2
  rw [← hread] at hfew
  rcases hcarries with hzero | ⟨_, _, _, _, _, _, hstored, _, _⟩
  · rw [hzero] at hfew
    exact absurd hfew (Nat.lt_irrefl 0)
  · exact absurd (readTemplate_counts hstored) (Nat.not_le.mpr hfew)

/-- **The template record of a message.** The message carries the zero record or a record that the call has read to
its end and stored, exactly if no template record is cut off by the end of the packet, unless it is one of an
options template whose bytes, as far as they are there, have nothing to keep, or repeat a complete record of the
packet. -/
theorem templaRecord_accepted_iff (im : IANAInfoModel) (raddr : IP) (mem : MemCache TemplateRecord) (b : List UInt8)
    (out : Outcome) (hdec : Decodes im raddr mem b out) :
    (∀ msg, out.msg = some msg → msg.templaRecord = {} ∨ Accepts im raddr mem b msg.templaRecord) ↔
      ∀ s t, AtTemplate im raddr mem b s t → t.reader.len < announced s t →
        (SetHeader.ofBytes s.reader.data).flowSetID = 1 ∧
          (Blank t.reader.data ∨ ∃ s' t', AtTemplate im raddr mem b s' t' ∧ announced s' t' ≤ t'.reader.len ∧
            Repeats (SetHeader.ofBytes s'.reader.data) t'.reader.data t.reader.data) := by
  constructor
  · intro haccepted s t hat hcut
    obtain ⟨out', msg, hdec', hmsg, hrecord⟩ := hat.message hcut
    rw [← hdec.unique hdec'] at hmsg
    have hbegun : Carries im raddr mem b (begun s t) := hrecord ▸ haccepted msg hmsg
    have h1 := hat.options_of_carries hcut hbegun
    exact ⟨h1, (carries_begun_iff hat h1).mp hbegun⟩
  · intro hcut msg hmsg
    refine hdec.carries hmsg fun s t hat hlt => ?_
    obtain ⟨h1, hbytes⟩ := hcut s t hat hlt
    exact (carries_begun_iff hat h1).mpr hbytes

def oneFieldSet (n : UInt8) : List UInt8 := [0, 0, 0, 12, 1, 0, 0, n, 0, 8, 0, 4]

def oneField (n : UInt16) : TemplateRecord := { templateID := 256, fieldCount := n, fieldSpecifiers := [⟨8, 4⟩] }

theorem templaRecord_accepted_oneField :
    ∃ out, Decodes infoModel [192, 0, 2, 1] .empty (sampleHeader ++ oneFieldSet 1) out ∧
      ∀ msg, out.msg = some msg → msg.templaRecord = {} ∨
        Accepts infoModel [192, 0, 2, 1] .empty (sampleHeader ++ oneFieldSet 1) msg.templaRecord := by
  have hdec : Decodes infoModel [192, 0, 2, 1] .empty (sampleHeader ++ oneFieldSet 1)
      { msg := some { agentID := "192.0.2.1", header := ⟨9, 1, 0, 0, 0, 0⟩, templaRecord := oneField 1 }, err := none,
        mem := MemCache.empty.insert 256 [192, 0, 2, 1] (oneField 1) } := ⟨3, rfl⟩
  refine ⟨_, hdec, (templaRecord_accepted_iff _ _ _ _ _ hdec).mpr fun s t hat hcut => ?_⟩
  -- the only record is the first one, and it is complete
  obtain rfl := PacketDecoder.Enters.eq_start packetDecoder_lawful ⟨rfl, rfl⟩
    (show decodeSet infoModel [192, 0, 2, 1] 3 _ = _ from rfl) (by decide) hat.enters
  rcases hat.entered.2.cases_head with heq | ⟨x, ⟨_, hx⟩, hrest⟩
  · rw [← (Prod.mk.inj heq).1] at hcut
    exact absurd hcut (by decide)
  · obtain rfl := LoopStep.next.inj (Option.some.inj hx)
    rcases hrest.cases_head with heq | ⟨_, ⟨_, hx'⟩, -⟩
    · have hguard := hat.guard
      rw [← (Prod.mk.inj heq).1] at hguard
      exact absurd hguard (by decide)
    · cases hx'

/-- With two fields announced, the message carries a template of one field that was not stored. -/
theorem templaRecord_not_accepted :
    ∃ out msg, Decodes infoModel [192, 0, 2, 1] .empty (sampleHeader ++ oneFieldSet 2) out ∧ out.msg = some msg ∧
      ¬ (msg.templaRecord = {} ∨ Accepts infoModel [192, 0, 2, 1] .empty (sampleHeader ++ oneFieldSet 2)
        msg.templaRecord) := by
  have hdec : Decodes infoModel [192, 0, 2, 1] .empty (sampleHeader ++ oneFieldSet 2)
      { msg := some { agentID := "192.0.2.1", header := ⟨9, 1, 0, 0, 0, 0⟩, templaRecord := oneField 2 },
        err := some .errReader, mem := .empty } := ⟨3, rfl⟩
  refine ⟨_, _, hdec, rfl, ?_⟩
  rintro (hzero | ⟨_, _, _, _, _, _, hstored, _, _⟩)
  · exact absurd hzero (by decide)
  · exact absurd (readTemplate_counts hstored) (by decide)

end VFlow.Netflow9
