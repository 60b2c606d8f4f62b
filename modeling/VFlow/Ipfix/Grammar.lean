import VFlow.Ipfix.Records

/-!
# The grammar of template records

A template record is a template id, a field count and as many field specifiers. A specifier has an enterprise number
exactly when the top bit of its first word is set (`Specifier`, `IsTemplate`). The decoder asks whether the word is
larger than `0x8000`, and so takes a specifier whose word is `0x8000` for one without an enterprise number.

Both ways to read are one function of the test, whose results are computed here: the bytes that `n` specifiers take
(`extent`) and the specifiers themselves (`fields`). With the test of the decoder a specifier is never longer than
with that of the grammar, and all sizes are multiples of four, so that the decoder never needs more bytes than the
grammar (`extent_mono`). What is left is that the word `0x8000` is reached in a record that the decoder can read.
-/

namespace VFlow.Ipfix

open BigEndian Scan Reader

/-! ## The grammar -/

def topBit (id : UInt16) : Bool := id &&& 0x8000 ≠ 0

inductive Specifier : List UInt8 → TemplateFieldSpecifier → Prop
  | iana (id length : UInt16) (h : topBit id = false) :
    Specifier (putUint16 id ++ putUint16 length) { elementID := id, length := length, enterpriseNo := 0 }
  | enterprise (id length : UInt16) (enterpriseNo : UInt32) (h : topBit id = true) :
    Specifier (putUint16 id ++ (putUint16 length ++ putUint32 enterpriseNo))
      { elementID := id &&& 0x7fff, length := length, enterpriseNo := enterpriseNo }

/-- The word is a template record, and `tr` what it says. -/
def IsTemplate (w : List UInt8) (tr : TemplateRecord) : Prop :=
  ∃ ws, List.Forall₂ Specifier ws tr.fieldSpecifiers ∧ tr.fieldSpecifiers.length = tr.fieldCount.toNat ∧
    w = putUint16 tr.templateID ++ (putUint16 tr.fieldCount ++ ws.flatten) ∧
    tr.scopeFieldCount = 0 ∧ tr.scopeFieldSpecifiers = []

/-! ## Reading with a test for the enterprise bit -/

section wide
variable (wide : UInt16 → Bool)

/-- The bytes of a specifier that starts with the word `id`. -/
def width (id : UInt16) : Nat := if wide id then 8 else 4

def field (b : List UInt8) : TemplateFieldSpecifier :=
  if wide (BigEndian.uint16 b) then
    { elementID := BigEndian.uint16 b &&& 0x7fff, length := BigEndian.uint16 (b.drop 2),
      enterpriseNo := BigEndian.uint32 (b.drop 4) }
  else { elementID := BigEndian.uint16 b, length := BigEndian.uint16 (b.drop 2), enterpriseNo := 0 }

def extent : Nat → List UInt8 → Nat
  | 0, _ => 0
  | n + 1, b => width wide (BigEndian.uint16 b) + extent n (b.drop (width wide (BigEndian.uint16 b)))

def ids : Nat → List UInt8 → List UInt16
  | 0, _ => []
  | n + 1, b => BigEndian.uint16 b :: ids n (b.drop (width wide (BigEndian.uint16 b)))

def fields : Nat → List UInt8 → List TemplateFieldSpecifier
  | 0, _ => []
  | n + 1, b => field wide b :: fields n (b.drop (width wide (BigEndian.uint16 b)))

theorem width_cases (id : UInt16) : width wide id = 4 ∨ width wide id = 8 := by
  unfold width
  split_ifs
  · exact .inr rfl
  · exact .inl rfl

variable {wide} {id : UInt16} {b : List UInt8}

theorem width_of_true (h : wide id = true) : width wide id = 8 := if_pos h

theorem width_of_false (h : wide id = false) : width wide id = 4 := if_neg (Bool.eq_false_iff.mp h)

theorem field_of_true (h : wide (BigEndian.uint16 b) = true) :
    field wide b =
      { elementID := BigEndian.uint16 b &&& 0x7fff, length := BigEndian.uint16 (b.drop 2),
        enterpriseNo := BigEndian.uint32 (b.drop 4) } := if_pos h

theorem field_of_false (h : wide (BigEndian.uint16 b) = false) :
    field wide b =
      { elementID := BigEndian.uint16 b, length := BigEndian.uint16 (b.drop 2), enterpriseNo := 0 } :=
  if_neg (Bool.eq_false_iff.mp h)

end wide

/-! ## What the decoder reads -/

def aboveBit (id : UInt16) : Bool := id > 0x8000

section decoder
variable {r : Reader}

theorem unmarshal_field (h : width aboveBit (BigEndian.uint16 r.data) ≤ r.len) :
    TemplateFieldSpecifier.unmarshal r =
      .ok (field aboveBit r.data) (r.advance (width aboveBit (BigEndian.uint16 r.data))) := by
  have hadv : ∀ k, (r.advance k).len = r.len - k := Cursor.len_advance r
  have h4 := width_cases aboveBit (BigEndian.uint16 r.data)
  rw [TemplateFieldSpecifier.unmarshal, bind_apply, uint16_of_le (by omega)]
  dsimp only
  rw [bind_apply, uint16_of_le (by rw [hadv]; omega), Cursor.advance_advance]
  dsimp only
  by_cases hbit : BigEndian.uint16 r.data > 0x8000
  · have hwide : aboveBit (BigEndian.uint16 r.data) = true := decide_eq_true hbit
    rw [width_of_true hwide] at h ⊢
    rw [if_pos hbit, bind_apply, uint32_of_le (by rw [hadv]; omega), Cursor.advance_advance, field_of_true hwide]
    rfl
  · have hwide : aboveBit (BigEndian.uint16 r.data) = false := decide_eq_false hbit
    rw [if_neg hbit, width_of_false hwide, field_of_false hwide]
    rfl

/-- The bytes that are left where a field specifier cannot be read: each of its numbers is read whole, or not at
all. -/
def specifierLeft (b : List UInt8) : Nat :=
  if b.length < 2 then b.length else if b.length < 4 then b.length - 2 else b.length - 4

theorem unmarshal_field_short (h : r.len < width aboveBit (BigEndian.uint16 r.data)) :
    specifierLeft r.data ≤ 3 ∧
      ∃ e r', TemplateFieldSpecifier.unmarshal r = .error e r' ∧ r'.len = specifierLeft r.data := by
  have hadv : ∀ k, (r.advance k).len = r.len - k := Cursor.len_advance r
  unfold specifierLeft
  rw [show r.data.length = r.len from rfl]
  rw [TemplateFieldSpecifier.unmarshal, bind_apply]
  by_cases h2 : r.len < 2
  · rw [uint16_of_lt h2, if_pos h2]
    exact ⟨by omega, _, _, rfl, rfl⟩
  rw [uint16_of_le (by omega), if_neg h2]
  dsimp only
  rw [bind_apply]
  by_cases h4 : r.len < 4
  · rw [uint16_of_lt (by rw [hadv]; omega), if_pos h4]
    exact ⟨by omega, _, _, rfl, hadv 2⟩
  rw [uint16_of_le (by rw [hadv]; omega), Cursor.advance_advance, if_neg h4]
  dsimp only
  -- four bytes are there, so that it is the enterprise number which is not
  have hbit : BigEndian.uint16 r.data > 0x8000 := by
    by_contra hnot
    rw [width_of_false (decide_eq_false hnot)] at h
    omega
  rw [width_of_true (decide_eq_true hbit)] at h
  rw [if_pos hbit, bind_apply, uint32_of_lt (by rw [hadv]; omega)]
  exact ⟨by omega, _, _, rfl, hadv 4⟩

theorem many_unmarshal (n : Nat) (h : extent aboveBit n r.data ≤ r.len) :
    many TemplateFieldSpecifier.unmarshal n r =
      (fields aboveBit n r.data, none, r.advance (extent aboveBit n r.data)) := by
  induction n generalizing r with
  | zero => rw [many, fields, extent, Cursor.advance_zero]
  | succ n ih =>
    rw [extent] at h ⊢
    have hrest : extent aboveBit n (r.advance (width aboveBit (BigEndian.uint16 r.data))).data ≤
        (r.advance (width aboveBit (BigEndian.uint16 r.data))).len := by
      rw [Cursor.len_advance, Cursor.advance_data]
      omega
    simp only [many, unmarshal_field (show width aboveBit (BigEndian.uint16 r.data) ≤ r.len by omega), ih hrest,
      Cursor.advance_advance, Cursor.advance_data, fields]

theorem many_unmarshal_short (n : Nat) (h : r.len < extent aboveBit n r.data) :
    ∃ xs e r', many TemplateFieldSpecifier.unmarshal n r = (xs, some e, r') := by
  induction n generalizing r with
  | zero => exact absurd h (Nat.not_lt_zero _)
  | succ n ih =>
    rw [extent] at h
    by_cases hfirst : r.len < width aboveBit (BigEndian.uint16 r.data)
    · obtain ⟨-, e, r', he, -⟩ := unmarshal_field_short hfirst
      exact ⟨[], e, r', by simp only [many, he]⟩
    · obtain ⟨xs, e, r', he⟩ := ih (r := r.advance (width aboveBit (BigEndian.uint16 r.data))) (by
        rw [Cursor.len_advance, Cursor.advance_data]
        omega)
      exact ⟨field aboveBit r.data :: xs, e, r', by simp only [many, unmarshal_field (Nat.le_of_not_lt hfirst), he]⟩

end decoder

/-! ## What the grammar reads -/

section grammar

theorem topBit_iff (id : UInt16) : topBit id = true ↔ 0x8000 ≤ id := by
  have hlt := id.toNat_lt
  have hand : (id &&& 0x8000).toNat = (id.toNat.testBit 15).toNat * 2 ^ 15 := by
    rw [UInt16.toNat_and]
    exact Nat.and_two_pow id.toNat 15
  rw [topBit, decide_eq_true_eq, UInt16.le_iff_toNat_le, ← UInt16.toNat_inj.ne, hand, Nat.testBit_eq_decide_div_mod_eq]
  show (decide (id.toNat / 2 ^ 15 % 2 = 1)).toNat * 2 ^ 15 ≠ 0 ↔ 32768 ≤ id.toNat
  by_cases hbit : id.toNat / 2 ^ 15 % 2 = 1
  · rw [decide_eq_true hbit, Bool.toNat_true]
    omega
  · rw [decide_eq_false hbit, Bool.toNat_false]
    omega

theorem Specifier.eq_field {w : List UInt8} {x : TemplateFieldSpecifier} (h : Specifier w x) (rest : List UInt8) :
    width topBit (BigEndian.uint16 (w ++ rest)) = w.length ∧ field topBit (w ++ rest) = x := by
  cases h with
  | iana id length hbit =>
    rw [List.append_assoc]
    have hid : BigEndian.uint16 (putUint16 id ++ (putUint16 length ++ rest)) = id := uint16_put _ _
    have hlength : BigEndian.uint16 ((putUint16 id ++ (putUint16 length ++ rest)).drop 2) = length := uint16_put _ _
    rw [field_of_false (hid.symm ▸ hbit), hid, hlength, width_of_false hbit]
    exact ⟨rfl, rfl⟩
  | enterprise id length enterpriseNo hbit =>
    rw [List.append_assoc, List.append_assoc]
    have hid : BigEndian.uint16 (putUint16 id ++ (putUint16 length ++ (putUint32 enterpriseNo ++ rest))) = id :=
      uint16_put _ _
    have hlength : BigEndian.uint16
        ((putUint16 id ++ (putUint16 length ++ (putUint32 enterpriseNo ++ rest))).drop 2) = length := uint16_put _ _
    have hno : BigEndian.uint32
        ((putUint16 id ++ (putUint16 length ++ (putUint32 enterpriseNo ++ rest))).drop 4) = enterpriseNo :=
      uint32_put _ _
    rw [field_of_true (hid.symm ▸ hbit), hid, hlength, hno, width_of_true hbit]
    exact ⟨rfl, rfl⟩

theorem take_four {b : List UInt8} (h : 4 ≤ b.length) :
    b.take 4 = putUint16 (BigEndian.uint16 b) ++ putUint16 (BigEndian.uint16 (b.drop 2)) := by
  have hlen : 2 ≤ (b.drop 2).length := by
    rw [List.length_drop]
    omega
  rw [show 4 = 2 + 2 from rfl, List.take_add, take_eq_putUint16 (by omega), take_eq_putUint16 hlen]

theorem specifier_field {b : List UInt8} (h : width topBit (BigEndian.uint16 b) ≤ b.length) :
    Specifier (b.take (width topBit (BigEndian.uint16 b))) (field topBit b) := by
  cases hbit : topBit (BigEndian.uint16 b) with
  | false =>
    rw [width_of_false hbit] at h ⊢
    rw [take_four h, field_of_false hbit]
    exact .iana _ _ hbit
  | true =>
    rw [width_of_true hbit] at h ⊢
    have hlen : 4 ≤ (b.drop 4).length := by
      rw [List.length_drop]
      omega
    rw [show 8 = 4 + 4 from rfl, List.take_add, take_four (by omega), take_eq_putUint32 hlen, List.append_assoc,
      field_of_true hbit]
    exact .enterprise _ _ _ hbit

theorem fields_flatten {ws : List (List UInt8)} {specs : List TemplateFieldSpecifier}
    (h : List.Forall₂ Specifier ws specs) (rest : List UInt8) :
    extent topBit specs.length (ws.flatten ++ rest) = ws.flatten.length ∧
      fields topBit specs.length (ws.flatten ++ rest) = specs := by
  induction h with
  | nil => exact ⟨rfl, rfl⟩
  | @cons w x ws specs hw _ ih =>
    obtain ⟨hwidth, hfield⟩ := hw.eq_field (ws.flatten ++ rest)
    rw [List.flatten_cons, List.append_assoc, List.length_cons, extent, fields, hwidth, hfield, List.drop_left, ih.1,
      ih.2, List.length_append]
    exact ⟨rfl, rfl⟩

theorem exists_specifiers (n : Nat) {b : List UInt8} (h : extent topBit n b ≤ b.length) :
    ∃ ws, List.Forall₂ Specifier ws (fields topBit n b) ∧ ws.flatten = b.take (extent topBit n b) := by
  induction n generalizing b with
  | zero => exact ⟨[], .nil, rfl⟩
  | succ n ih =>
    rw [extent] at h ⊢
    obtain ⟨ws, hws, hflat⟩ := ih (b := b.drop (width topBit (BigEndian.uint16 b))) (by
      rw [List.length_drop]
      omega)
    refine ⟨_ :: ws, .cons (specifier_field (by omega)) hws, ?_⟩
    rw [List.flatten_cons, hflat, List.take_add]

theorem length_fields (wide : UInt16 → Bool) (n : Nat) (b : List UInt8) : (fields wide n b).length = n := by
  induction n generalizing b with
  | zero => rfl
  | succ n ih => rw [fields, List.length_cons, ih]

end grammar

/-! ## The two tests -/

theorem aboveBit_eq {id : UInt16} (h : id ≠ 0x8000) : aboveBit id = topBit id := by
  rw [Bool.eq_iff_iff, topBit_iff, aboveBit, decide_eq_true_eq, gt_iff_lt, UInt16.lt_iff_le_and_ne]
  exact and_iff_left h.symm

theorem width_aboveBit {id : UInt16} (h : id ≠ 0x8000) : width aboveBit id = width topBit id := by
  rw [width, width, aboveBit_eq h]

theorem width_aboveBit_le (id : UInt16) : width aboveBit id ≤ width topBit id := by
  by_cases h : id = 0x8000
  · rw [h]
    decide
  · exact Nat.le_of_eq (width_aboveBit h)

/-- Started at or before a place, in steps of four bytes, the decoder ends at or before what the grammar takes. -/
theorem extent_mono (n : Nat) (b : List UInt8) {i j : Nat} (hij : i ≤ j) (hi : i % 4 = 0) (hj : j % 4 = 0) :
    i + extent aboveBit n (b.drop i) ≤ j + extent topBit n (b.drop j) := by
  induction n generalizing i j with
  | zero => exact hij
  | succ n ih =>
    rw [extent, extent, List.drop_drop, List.drop_drop, ← Nat.add_assoc, ← Nat.add_assoc]
    have hwi := width_cases aboveBit (BigEndian.uint16 (b.drop i))
    have hwj := width_cases topBit (BigEndian.uint16 (b.drop j))
    refine ih ?_ (by omega) (by omega)
    rcases Nat.lt_or_eq_of_le hij with hlt | rfl
    · omega
    · exact Nat.add_le_add_left (width_aboveBit_le _) i

theorem elementID_field (b : List UInt8) : (field topBit b).elementID ≠ 0x8000 := by
  cases hbit : topBit (BigEndian.uint16 b) with
  | false =>
    rw [field_of_false hbit]
    intro hid
    rw [show BigEndian.uint16 b = 0x8000 from hid] at hbit
    exact absurd hbit (by decide)
  | true =>
    rw [field_of_true hbit]
    intro hid
    have hmask : (BigEndian.uint16 b &&& 0x7fff).toNat = (BigEndian.uint16 b).toNat % 2 ^ 15 := by
      rw [UInt16.toNat_and]
      exact Nat.and_two_pow_sub_one_eq_mod _ 15
    have heq : (BigEndian.uint16 b &&& 0x7fff).toNat = 32768 := congrArg UInt16.toNat hid
    omega

theorem fields_eq (n : Nat) {b : List UInt8} (h : (0x8000 : UInt16) ∉ ids topBit n b) :
    extent aboveBit n b = extent topBit n b ∧ fields aboveBit n b = fields topBit n b := by
  induction n generalizing b with
  | zero => exact ⟨rfl, rfl⟩
  | succ n ih =>
    rw [ids, List.mem_cons, not_or] at h
    have hfield : field aboveBit b = field topBit b := by
      rw [field, field, aboveBit_eq (Ne.symm h.1)]
    obtain ⟨hextent, hfields⟩ := ih h.2
    rw [extent, extent, fields, fields, width_aboveBit (Ne.symm h.1), hextent, hfields, hfield]
    exact ⟨rfl, rfl⟩

theorem exists_elementID (n : Nat) {b : List UInt8} (h : (0x8000 : UInt16) ∈ ids topBit n b) :
    ∃ x ∈ fields aboveBit n b, x.elementID = 0x8000 := by
  induction n generalizing b with
  | zero => exact absurd h List.not_mem_nil
  | succ n ih =>
    rw [ids, List.mem_cons] at h
    rw [fields, List.exists_mem_cons_iff]
    by_cases hid : BigEndian.uint16 b = 0x8000
    · left
      rw [field_of_false (by rw [hid]; rfl)]
      exact hid
    · right
      rw [width_aboveBit hid]
      exact ih (h.resolve_left (Ne.symm hid))

theorem elementID_fields (n : Nat) (b : List UInt8) : ∀ x ∈ fields topBit n b, x.elementID ≠ 0x8000 := by
  induction n generalizing b with
  | zero => exact List.forall_mem_nil _
  | succ n ih => exact List.forall_mem_cons.mpr ⟨elementID_field b, ih _⟩

/-! ## Whole records -/

section record
variable (wide : UInt16 → Bool) (b : List UInt8)

def fieldCount : UInt16 := BigEndian.uint16 (b.drop 2)

def recordExtent : Nat := 4 + extent wide (fieldCount b).toNat (b.drop 4)

def record : TemplateRecord where
  templateID := BigEndian.uint16 b
  fieldCount := fieldCount b
  fieldSpecifiers := fields wide (fieldCount b).toNat (b.drop 4)

end record

variable {b : List UInt8} {k : Nat} {tr : TemplateRecord} {r : Reader}

theorem unmarshal_record (h : recordExtent aboveBit b ≤ b.length) :
    TemplateRecord.unmarshal ⟨b, k⟩ =
      (record aboveBit b, none, ⟨b.drop (recordExtent aboveBit b), k + recordExtent aboveBit b⟩) := by
  have hextent : recordExtent aboveBit b = 4 + extent aboveBit (fieldCount b).toNat (b.drop 4) := rfl
  have hheader := templateHeader_ofBytes (r := ⟨b, k⟩) (show 4 ≤ b.length by omega)
  have hmany := many_unmarshal (fieldCount b).toNat (r := Cursor.advance ⟨b, k⟩ 4) (by
    rw [Cursor.len_advance]
    show extent aboveBit (fieldCount b).toNat (b.drop 4) ≤ b.length - 4
    omega)
  rw [TemplateRecord.unmarshal, hheader]
  dsimp only
  rw [show BigEndian.uint16 (b.drop 2) = fieldCount b from rfl, hmany, Cursor.advance_advance]
  rfl

theorem unmarshal_record_short (h : b.length < recordExtent aboveBit b) :
    ∃ tr e r, TemplateRecord.unmarshal ⟨b, k⟩ = (tr, some e, r) := by
  by_cases h4 : b.length < 4
  · obtain ⟨j, -, he⟩ := (reads_templateHeader ⟨b, k⟩).2 h4
    rw [TemplateRecord.unmarshal, he]
    exact ⟨_, _, _, rfl⟩
  · have hextent : recordExtent aboveBit b = 4 + extent aboveBit (fieldCount b).toNat (b.drop 4) := rfl
    have hheader := templateHeader_ofBytes (r := ⟨b, k⟩) (show 4 ≤ b.length by omega)
    obtain ⟨xs, e, r, hmany⟩ := many_unmarshal_short (fieldCount b).toNat (r := Cursor.advance ⟨b, k⟩ 4) (by
      rw [Cursor.len_advance]
      show b.length - 4 < extent aboveBit (fieldCount b).toNat (b.drop 4)
      omega)
    rw [TemplateRecord.unmarshal, hheader]
    dsimp only
    rw [show BigEndian.uint16 (b.drop 2) = fieldCount b from rfl, hmany]
    exact ⟨_, _, _, rfl⟩

theorem recordExtent_put (wide : UInt16 → Bool) (id count : UInt16) (b : List UInt8) :
    recordExtent wide (putUint16 id ++ (putUint16 count ++ b)) = 4 + extent wide count.toNat b := by
  have hcount : fieldCount (putUint16 id ++ (putUint16 count ++ b)) = count := uint16_put _ _
  rw [recordExtent, hcount]
  rfl

theorem record_put (wide : UInt16 → Bool) (id count : UInt16) (b : List UInt8) :
    record wide (putUint16 id ++ (putUint16 count ++ b)) =
      { templateID := id, fieldCount := count, fieldSpecifiers := fields wide count.toNat b } := by
  have hcount : fieldCount (putUint16 id ++ (putUint16 count ++ b)) = count := uint16_put _ _
  rw [record, hcount, uint16_put]
  rfl

theorem isTemplate_iff {w rest : List UInt8} :
    IsTemplate w tr ∧ b = w ++ rest ↔
      recordExtent topBit b ≤ b.length ∧ tr = record topBit b ∧
        w = b.take (recordExtent topBit b) ∧ rest = b.drop (recordExtent topBit b) := by
  constructor
  · rintro ⟨⟨ws, hws, hlength, rfl, hscope, hscopes⟩, rfl⟩
    obtain ⟨id, count, specs, _, _⟩ := tr
    dsimp only at hws hlength hscope hscopes ⊢
    subst hscope hscopes
    obtain ⟨hextent, hfields⟩ := fields_flatten hws rest
    rw [List.append_assoc, List.append_assoc, recordExtent_put, record_put, ← hlength, hextent, hfields]
    refine ⟨?_, rfl, ?_, ?_⟩
    · simp only [List.length_append, length_putUint16]
      omega
    · rw [List.take_add]
      exact congrArg (putUint16 id ++ putUint16 count ++ ·) List.take_left.symm
    · rw [← List.drop_drop]
      exact List.drop_left.symm
  · rintro ⟨hle, rfl, rfl, rfl⟩
    have hextent : recordExtent topBit b = 4 + extent topBit (fieldCount b).toNat (b.drop 4) := rfl
    obtain ⟨ws, hws, hflat⟩ := exists_specifiers (fieldCount b).toNat (b := b.drop 4) (by
      rw [List.length_drop]
      omega)
    refine ⟨⟨ws, hws, length_fields _ _ _, ?_, rfl, rfl⟩, (List.take_append_drop _ b).symm⟩
    rw [hextent, List.take_add, take_four (by omega), hflat, List.append_assoc]
    rfl

/-- A template record is read as the grammar has it exactly if it cannot be read at all or none of its specifiers
starts with the word `0x8000`. -/
theorem unmarshal_grammar_iff (b : List UInt8) (k : Nat) :
    (∀ tr r, TemplateRecord.unmarshal ⟨b, k⟩ = (tr, none, r) ↔
      ∃ w rest, IsTemplate w tr ∧ b = w ++ rest ∧ r = ⟨rest, k + w.length⟩) ↔
    b.length < recordExtent aboveBit b ∨ (0x8000 : UInt16) ∉ ids topBit (fieldCount b).toNat (b.drop 4) := by
  have hmono : recordExtent aboveBit b ≤ recordExtent topBit b := extent_mono _ b (Nat.le_refl 4) rfl rfl
  constructor
  · intro h
    by_contra hnot
    rw [not_or, Nat.not_lt, not_not] at hnot
    obtain ⟨w, rest, hw, hb, -⟩ := (h _ _).mp (unmarshal_record hnot.1)
    obtain ⟨-, hrecord, -⟩ := isTemplate_iff.mp ⟨hw, hb⟩
    obtain ⟨x, hx, hid⟩ := exists_elementID _ hnot.2
    have hfields : fields aboveBit (fieldCount b).toNat (b.drop 4) = fields topBit (fieldCount b).toNat (b.drop 4) :=
      congrArg TemplateRecord.fieldSpecifiers hrecord
    exact elementID_fields _ _ x (hfields ▸ hx) hid
  · intro h tr r
    by_cases hshort : b.length < recordExtent aboveBit b
    · -- neither of them reads a record
      obtain ⟨tr', e, r', herr⟩ := unmarshal_record_short (k := k) hshort
      constructor
      · intro hok
        rw [herr] at hok
        exact nomatch hok
      · rintro ⟨w, rest, hw, hb, -⟩
        obtain ⟨hle, -⟩ := isTemplate_iff.mp ⟨hw, hb⟩
        omega
    · obtain ⟨hextent, hfields⟩ := fields_eq _ (h.resolve_left hshort)
      have hrecord : record aboveBit b = record topBit b := by
        rw [record, record, hfields]
      have hbytes : recordExtent aboveBit b = recordExtent topBit b := congrArg (4 + ·) hextent
      rw [unmarshal_record (Nat.le_of_not_lt hshort), hrecord, hbytes]
      constructor
      · rintro ⟨⟩
        have hle : recordExtent topBit b ≤ b.length := hbytes ▸ Nat.le_of_not_lt hshort
        obtain ⟨hw, hb⟩ := isTemplate_iff.mpr ⟨hle, rfl, rfl, rfl⟩
        refine ⟨_, _, hw, hb, ?_⟩
        rw [List.length_take, Nat.min_eq_left hle]
      · rintro ⟨w, rest, hw, hb, rfl⟩
        obtain ⟨hle, rfl, rfl, rfl⟩ := isTemplate_iff.mp ⟨hw, hb⟩
        rw [List.length_take, Nat.min_eq_left hle]

/-- An enterprise field whose element id is zero is kept as a field of element `0x8000`, and its enterprise number is
left to be read as the next specifier. -/
theorem unmarshal_zeroElement :
    IsTemplate [1, 0, 0, 1, 0x80, 0, 0, 4, 0, 0, 0, 9]
        { templateID := 256, fieldCount := 1,
          fieldSpecifiers := [{ elementID := 0, length := 4, enterpriseNo := 9 }] } ∧
      TemplateRecord.unmarshal ⟨[1, 0, 0, 1, 0x80, 0, 0, 4, 0, 0, 0, 9], 0⟩ =
        ({ templateID := 256, fieldCount := 1,
           fieldSpecifiers := [{ elementID := 0x8000, length := 4, enterpriseNo := 0 }] }, none, ⟨[0, 0, 0, 9], 8⟩) :=
  ⟨⟨[[0x80, 0, 0, 4, 0, 0, 0, 9]], .cons (.enterprise 0x8000 4 9 rfl) .nil, rfl, rfl, rfl, rfl⟩, by decide⟩

end VFlow.Ipfix
