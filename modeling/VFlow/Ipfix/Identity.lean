import VFlow.Ipfix.Wire
import VFlow.Marshal

/-!
# The element of a decoded field

An information element is known by its enterprise number and its id. `decodeData` looks an element up by both, and
of a scope field it keeps both, but of a field of the other list only the id. So the fields of a record can be told
apart by their elements, and `JSONMarshal` prints the member `E` for the right ones, exactly if all elements of the
field list are standard ones (`identity_kept_iff`).
-/

namespace VFlow.Ipfix

open Scan Reader

variable {im : IANAInfoModel} {tr : TemplateRecord} {r : Record}

def TemplateFieldSpecifier.identity (f : TemplateFieldSpecifier) : UInt32 × UInt16 := (f.enterpriseNo, f.elementID)

def DecodedField.identity (d : DecodedField) : UInt32 × UInt16 := (d.enterpriseNo, d.id)

/-- `JSONMarshal` prints the member `E` of the field. -/
def DecodedField.PrintsE (d : DecodedField) : Prop := DecodedField.shape.more d ≠ []

/-- The bytes of the record are decoded into fields which stand in this relation to the specifiers they were decoded
with, one by one. -/
def DecodesEach (R : TemplateFieldSpecifier → DecodedField → Prop) (im : IANAInfoModel) (tr : TemplateRecord)
    (r : Record) : Prop :=
  ∀ rest count, ∃ fields c, decodeData im tr ⟨r.flatten ++ rest, count⟩ = .ok fields c ∧
    List.Forall₂ (fun p d => R p.2 d) tr.specifiers fields

theorem forall₂_fieldValue {R : TemplateFieldSpecifier → DecodedField → Prop}
    {Q : Bool × TemplateFieldSpecifier → Prop} {specs : List (Bool × TemplateFieldSpecifier)}
    (hRQ : ∀ p ∈ specs, ∀ w, R p.2 (fieldValue im p w) ↔ Q p)
    (hr : List.Forall₂ (fun p w => w.length = p.2.length.toNat) specs r) :
    List.Forall₂ (fun p d => R p.2 d) specs ((specs.zip r).map fun q => fieldValue im q.1 q.2) ↔ ∀ p ∈ specs, Q p := by
  induction hr with
  | nil => simp
  | @cons p w specs r _ _ ih =>
    rw [List.zip_cons_cons, List.map_cons, List.forall₂_cons, List.forall_mem_cons,
      hRQ p List.mem_cons_self w, ih fun q hq => hRQ q (List.mem_cons_of_mem _ hq)]

theorem decodesEach_iff {R : TemplateFieldSpecifier → DecodedField → Prop} {Q : Bool × TemplateFieldSpecifier → Prop}
    (hk : tr.Known im) (hr : tr.Matches r) (hRQ : ∀ p ∈ tr.specifiers, ∀ w, R p.2 (fieldValue im p w) ↔ Q p) :
    DecodesEach R im tr r ↔ ∀ p ∈ tr.specifiers, Q p := by
  rw [← forall₂_fieldValue hRQ hr]
  have hparse := parses_decodeData hk hr
  constructor
  · intro h
    obtain ⟨fields, c, hread, hfields⟩ := h [] 0
    rw [hparse [] 0] at hread
    obtain ⟨rfl, -⟩ := EStateM.Result.ok.inj hread
    exact hfields
  · exact fun h rest count => ⟨_, _, hparse rest count, h⟩

theorem forall_specifiers_iff :
    (∀ p ∈ tr.specifiers, p.1 = true ∨ p.2.enterpriseNo = 0) ↔ ∀ f ∈ tr.fieldSpecifiers, f.enterpriseNo = 0 := by
  simp [TemplateRecord.specifiers, or_imp, forall_and]

theorem enterpriseNo_kept {p : Bool × TemplateFieldSpecifier} {w : List UInt8} :
    (fieldValue im p w).enterpriseNo = p.2.enterpriseNo ↔ p.1 = true ∨ p.2.enterpriseNo = 0 := by
  rw [fieldValue]
  cases p.1 with
  | true => simp
  | false => simp [eq_comm]

theorem printsE_iff {d : DecodedField} : d.PrintsE ↔ d.enterpriseNo ≠ 0 := by
  rw [DecodedField.PrintsE, DecodedField.shape]
  dsimp only
  split_ifs with hne
  · exact iff_of_true (by simp [Json.text]) hne
  · exact iff_of_false (fun h => h rfl) hne

/-- **Elements of decoded fields.** For every data record of a template with known elements: each decoded field
carries the enterprise number and the id of its specifier exactly if all elements of the field list are standard
ones, and exactly then `JSONMarshal` prints the member `E` for the enterprise-specific elements and no others. -/
theorem identity_kept_iff (im : IANAInfoModel) (tr : TemplateRecord) (r : Record) (hk : tr.Known im)
    (hr : tr.Matches r) :
    (DecodesEach (fun f d => d.identity = f.identity) im tr r ↔ ∀ f ∈ tr.fieldSpecifiers, f.enterpriseNo = 0) ∧
    (DecodesEach (fun f d => d.PrintsE ↔ f.enterpriseNo ≠ 0) im tr r ↔
      ∀ f ∈ tr.fieldSpecifiers, f.enterpriseNo = 0) := by
  rw [← forall_specifiers_iff]
  refine ⟨decodesEach_iff hk hr fun p hp w => ?_, decodesEach_iff hk hr fun p hp w => ?_⟩
  · rw [DecodedField.identity, TemplateFieldSpecifier.identity, Prod.mk.injEq,
      and_iff_left (show (fieldValue im p w).id = p.2.elementID from entry_fieldID p.2), enterpriseNo_kept]
  · rw [printsE_iff, fieldValue]
    cases p.1 with
    | true => simp
    | false => simp

/-- An information model in which enterprise 9 has an element 8 of its own. -/
def enterpriseModel : IANAInfoModel where
  lookup key := if key = ⟨9, 8⟩ then some ⟨8, .uint32⟩ else infoModel.lookup key
  fieldID_eq key entry hkey := by
    split_ifs at hkey with hext
    · rw [hext, ← Option.some.inj hkey]
    · exact infoModel.fieldID_eq key entry hkey

/-- An address, and the enterprise's element as a scope field. -/
def enterpriseScope : TemplateRecord :=
  { templateID := 256, fieldCount := 2, fieldSpecifiers := [⟨8, 4, 0⟩], scopeFieldCount := 1,
    scopeFieldSpecifiers := [⟨8, 4, 9⟩] }

theorem identity_kept_scope :
    DecodesEach (fun f d => d.identity = f.identity) enterpriseModel enterpriseScope
      [[10, 0, 0, 1], [0, 0, 0, 7]] := by
  have hr : enterpriseScope.Matches [[10, 0, 0, 1], [0, 0, 0, 7]] := .cons rfl (.cons rfl .nil)
  exact (identity_kept_iff enterpriseModel enterpriseScope _ (by decide) hr).1.mpr (by decide)

/-- The address and the enterprise's number in the field list are both decoded as element 8 of no enterprise. -/
theorem identity_lost :
    ∃ tr : TemplateRecord, tr.Known enterpriseModel ∧ tr.Matches [[10, 0, 0, 1], [0, 0, 0, 7]] ∧
      tr.fieldSpecifiers.map TemplateFieldSpecifier.identity = [(0, 8), (9, 8)] ∧
      (∃ fields c, decodeData enterpriseModel tr ⟨[10, 0, 0, 1, 0, 0, 0, 7], 0⟩ = .ok fields c ∧
        fields.map DecodedField.identity = [(0, 8), (0, 8)]) ∧
      ¬ DecodesEach (fun f d => d.identity = f.identity) enterpriseModel tr [[10, 0, 0, 1], [0, 0, 0, 7]] := by
  refine ⟨{ templateID := 256, fieldCount := 2, fieldSpecifiers := [⟨8, 4, 0⟩, ⟨8, 4, 9⟩] }, by decide,
    .cons rfl (.cons rfl .nil), rfl, ⟨_, _, rfl, rfl⟩, fun h => ?_⟩
  obtain ⟨fields, c, hread, hfields⟩ := h [] 0
  have hrun : decodeData enterpriseModel
      { templateID := 256, fieldCount := 2, fieldSpecifiers := [⟨8, 4, 0⟩, ⟨8, 4, 9⟩] }
      ⟨[10, 0, 0, 1, 0, 0, 0, 7], 0⟩ = .ok [⟨8, .ip [10, 0, 0, 1], 0⟩, ⟨8, .uint32 7, 0⟩] ⟨[], 8⟩ := rfl
  obtain ⟨rfl, -⟩ := EStateM.Result.ok.inj (hrun.symm.trans hread)
  cases hfields with
  | cons _ hrest =>
    cases hrest with
    | cons hid _ => exact absurd hid (by decide)

end VFlow.Ipfix
