import VFlow.Ipfix.Wire
import VFlow.Netflow9.Wire

/-!
# Options templates and options data

An options template has two lists of field specifiers, the scope fields and the option fields, and an options
data record holds the values of the scope fields followed by those of the option fields. Both decoders go wrong
in two ways, which are the same in the two packages.

`unmarshalOpts` appends each scope specifier to `FieldSpecifiers`, which is still empty, so that only the last
one is kept (`options_kept_iff`).

`decodeData` reads the option fields before the scope fields. The record is cut at the right lengths in the wrong
order, so the bytes of a field end up at another one as soon as both lists take bytes at all. To see this for
every template it is enough to look at the first byte of the first field that is not empty
(`values_ne_of_head`).
-/

namespace VFlow

open Scan Reader

/-! ## Two lists of fields -/

theorem foldl_singleton_eq_iff {α : Type} {l : List α} (h : 1 ≤ l.length) :
    l.foldl (fun _ a => [a]) [] = l ↔ l.length = 1 := by
  obtain rfl | ⟨l, a, rfl⟩ := List.eq_nil_or_concat l
  · cases h
  · rw [List.concat_eq_append, List.foldl_append, List.foldl_cons, List.foldl_nil, List.length_append,
      List.length_singleton, Nat.add_eq_right, List.length_eq_zero_iff, eq_comm, List.append_left_eq_self]

section

variable {σ β δ ε : Type} {k : σ → Nat} {x : σ → List UInt8 → β} {fs ss : List σ} {r r' vs vf : Record}

def values (x : σ → List UInt8 → β) (specs : List σ) (r : Record) : List β :=
  (specs.zip r).map fun q => x q.1 q.2

abbrev HasFields (k : σ → Nat) (specs : List σ) (r : Record) : Prop :=
  List.Forall₂ (fun f w => w.length = k f) specs r

/-- The value of a field tells a leading `0` from a leading `1`. -/
def SeesHead (x : σ → List UInt8 → β) : Prop :=
  ∀ f w w', w.length = w'.length → w.getD 0 0 = 0 → w'.getD 0 0 = 1 → x f w ≠ x f w'

theorem values_append (h : HasFields k fs vf) :
    values x (fs ++ ss) (vf ++ vs) = values x fs vf ++ values x ss vs := by
  rw [values, List.zip_append h.length_eq, List.map_append]
  rfl

theorem values_ne_of_head {specs : List σ} (hx : SeesHead x) (h : HasFields k specs r) (h' : HasFields k specs r')
    (hr : r.flatten.head? = some 0) (hr' : r'.flatten.head? = some 1) : values x specs r ≠ values x specs r' := by
  induction h generalizing r' with
  | nil => simp at hr
  | @cons f w specs r hw _ ih =>
    cases h' with
    | @cons _ w' _ r' hw' h' =>
      intro heq
      obtain ⟨hf, hfs⟩ := List.cons.inj heq
      cases w with
      | nil =>
        have hnil : w' = [] := List.eq_nil_of_length_eq_zero (hw'.trans hw.symm)
        subst hnil
        exact ih h' hr hr' hfs
      | cons a w =>
        cases w' with
        | nil => simp [← hw] at hw'
        | cons a' w' => exact hx f _ _ (hw.trans hw'.symm) (Option.some.inj hr) (Option.some.inj hr') hf

/-- What `m` makes of the fields of `ss` followed by those of `fs` are the values of these fields, those of `fs`
first. -/
def OwnBytes (m : Scan ε UInt8 δ) (view : δ → List β) (x : σ → List UInt8 → β) (fs ss : List σ) (vs vf : Record) :
    Prop :=
  ∀ rest count, ∃ d c, m ⟨vs.flatten ++ vf.flatten ++ rest, count⟩ = .ok d c ∧
    view d = values x fs vf ++ values x ss vs

variable {m : Scan ε UInt8 δ} {view : δ → List β}

theorem ownBytes_of_comm
    (hm : ∀ r, HasFields k (fs ++ ss) r → ∃ d, Parses m r.flatten d ∧ view d = values x (fs ++ ss) r)
    (hs : HasFields k ss vs) (hf : HasFields k fs vf) (hcomm : vs.flatten ++ vf.flatten = vf.flatten ++ vs.flatten) :
    OwnBytes m view x fs ss vs vf := by
  intro rest count
  obtain ⟨d, hd, hview⟩ := hm (vf ++ vs) (List.rel_append hf hs)
  have hread := hd rest count
  rw [List.flatten_append, ← hcomm] at hread
  exact ⟨d, _, hread, hview.trans (values_append hf)⟩

/-- A reader of the fields of `fs` followed by those of `ss` is right about all records with the fields of `ss`
first exactly if one of the two lists takes no bytes. -/
theorem ownBytes_iff (hx : SeesHead x)
    (hm : ∀ r, HasFields k (fs ++ ss) r → ∃ d, Parses m r.flatten d ∧ view d = values x (fs ++ ss) r) :
    (∀ vs vf, HasFields k ss vs → HasFields k fs vf → OwnBytes m view x fs ss vs vf) ↔
      (ss.map k).sum = 0 ∨ (fs.map k).sum = 0 := by
  constructor
  · intro hown
    by_contra hne
    rw [not_or] at hne
    obtain ⟨hs0, hf0⟩ := hne
    -- zeros in the first list, and a `1` at the start of the second
    obtain ⟨vs, hs, hvs⟩ := exists_record k ss (w := List.replicate _ 0) List.length_replicate
    obtain ⟨vf, hf, hvf⟩ := exists_record k fs (w := 1 :: List.replicate ((fs.map k).sum - 1) 0) (by
      rw [List.length_cons, List.length_replicate]
      omega)
    obtain ⟨r, hr, hflat⟩ := exists_record k (fs ++ ss) (w := vs.flatten ++ vf.flatten) (by
      rw [List.length_append, length_record hs, length_record hf, List.map_append, List.sum_append, Nat.add_comm])
    obtain ⟨d, c, hd, hview⟩ := hown vs vf hs hf [] 0
    obtain ⟨d', hparse, hview'⟩ := hm r hr
    have hd' := hparse [] 0
    rw [hflat, hd] at hd'
    obtain ⟨rfl, -⟩ := EStateM.Result.ok.inj hd'
    rw [hview', ← values_append hf] at hview
    refine values_ne_of_head hx hr (List.rel_append hf hs) ?_ ?_ hview
    · obtain ⟨n, hn⟩ := Nat.exists_eq_succ_of_ne_zero hs0
      rw [hflat, hvs, hn]
      rfl
    · rw [List.flatten_append, hvf]
      rfl
  · intro hzero vs vf hs hf
    refine ownBytes_of_comm hm hs hf ?_
    rw [← length_record hs, ← length_record hf] at hzero
    rcases hzero with hs0 | hf0
    · rw [List.eq_nil_of_length_eq_zero hs0, List.append_nil, List.nil_append]
    · rw [List.eq_nil_of_length_eq_zero hf0, List.append_nil, List.nil_append]

end

/-! ## A format with options -/

section

variable {T σ δ : Type}

/-- What an options template record comes to: it is read completely, and with all its specifiers. -/
def KeepsSpecifiers (unmarshalOpts : Reader → T × Option Error × Reader) (scopes fields : T → List σ)
    (w : List UInt8) (ss fs : List σ) : Prop :=
  ∀ rest count, ∃ tr, unmarshalOpts ⟨w ++ rest, count⟩ = (tr, none, ⟨rest, count + w.length⟩) ∧
    scopes tr = ss ∧ fields tr = fs

theorem keepsSpecifiers_iff {unmarshalOpts : Reader → T × Option Error × Reader} {scopes fields : T → List σ}
    {w : List UInt8} {tr : T} {ss : List σ}
    (hrun : ∀ rest count, unmarshalOpts ⟨w ++ rest, count⟩ = (tr, none, ⟨rest, count + w.length⟩))
    (hscopes : scopes tr = ss.foldl (fun _ a => [a]) []) (hn : 1 ≤ ss.length) :
    KeepsSpecifiers unmarshalOpts scopes fields w ss (fields tr) ↔ ss.length = 1 := by
  rw [← foldl_singleton_eq_iff hn, ← hscopes]
  constructor
  · intro hkept
    obtain ⟨tr', htr, hs, -⟩ := hkept [] 0
    rw [hrun] at htr
    obtain ⟨rfl, -⟩ := Prod.mk.inj htr
    exact hs
  · exact fun hs rest count => ⟨tr, hrun rest count, hs, rfl⟩

def elementValue (id : σ → UInt16) (type : σ → FieldType) (f : σ) (w : List UInt8) : UInt16 × Value :=
  (id f, interpret w (type f))

theorem seesHead_elementValue {id : σ → UInt16} {type : σ → FieldType} : SeesHead (elementValue id type) :=
  fun _ _ _ hlen hw hw' h => interpret_ne _ hlen hw hw' (congrArg Prod.snd h)

theorem map_zip_eq_values {β κ : Type} {x : σ → List UInt8 → β} {specs : List (κ × σ)} {r : Record}
    {field : (κ × σ) × List UInt8 → δ} {view : δ → β} (hfield : ∀ q, view (field q) = x q.1.2 q.2) :
    ((specs.zip r).map field).map view = values x (specs.map Prod.snd) r := by
  rw [values, List.zip_map_left, List.map_map, List.map_map]
  exact List.map_congr_left fun q _ => hfield q

/-- The bytes of an options data record: those of the scope fields, and those of the option fields. -/
structure OptionsData (k : σ → Nat) (scopes fields : List σ) (vs vf : Record) : Prop where
  scopes : HasFields k scopes vs
  fields : HasFields k fields vf

/-- How a format decodes options data. The fields are read in the order `fields`, `scopes`. -/
structure OptionsFormat (T σ δ : Type) where
  scopes : T → List σ
  fields : T → List σ
  length : σ → Nat
  id : σ → UInt16
  type : σ → FieldType
  Known : T → Prop
  decodeData : T → ReadM (List δ)
  view : δ → UInt16 × Value
  parses : ∀ {tr}, Known tr → ∀ r, HasFields length (fields tr ++ scopes tr) r →
    ∃ ds, Parses (decodeData tr) r.flatten ds ∧
      ds.map view = values (elementValue id type) (fields tr ++ scopes tr) r

namespace OptionsFormat

variable (fmt : OptionsFormat T σ δ)

/-- The decoder gives each element of an options data record the value of its own bytes: `vs` are the bytes of the
scope fields, which are sent first, and `vf` those of the option fields. -/
def AttributesOwnBytes (tr : T) (vs vf : Record) : Prop :=
  OwnBytes (fmt.decodeData tr) (List.map fmt.view) (elementValue fmt.id fmt.type) (fmt.fields tr) (fmt.scopes tr) vs vf

variable {tr : T}

theorem attributesOwnBytes_iff (hk : fmt.Known tr) :
    (∀ vs vf, OptionsData fmt.length (fmt.scopes tr) (fmt.fields tr) vs vf → fmt.AttributesOwnBytes tr vs vf) ↔
      ((fmt.scopes tr).map fmt.length).sum = 0 ∨ ((fmt.fields tr).map fmt.length).sum = 0 := by
  have hiff := ownBytes_iff seesHead_elementValue (fmt.parses hk)
  exact ⟨fun h => hiff.mp fun vs vf hs hf => h vs vf ⟨hs, hf⟩, fun h vs vf hd => hiff.mpr h vs vf hd.scopes hd.fields⟩

theorem attributesOwnBytes_of_comm {vs vf : Record} (hk : fmt.Known tr)
    (hd : OptionsData fmt.length (fmt.scopes tr) (fmt.fields tr) vs vf)
    (hcomm : vs.flatten ++ vf.flatten = vf.flatten ++ vs.flatten) : fmt.AttributesOwnBytes tr vs vf :=
  ownBytes_of_comm (fmt.parses hk) hd.scopes hd.fields hcomm

end OptionsFormat

end

/-! ## IPFIX -/

namespace Ipfix

/-- The record is read completely, and all its specifiers are kept. -/
def WireOptions.Kept (t : WireOptions) : Prop :=
  KeepsSpecifiers TemplateRecord.unmarshalOpts TemplateRecord.scopeFieldSpecifiers TemplateRecord.fieldSpecifiers
    t.encode (t.scopes.map WireField.spec) (t.fields.map WireField.spec)

theorem kept_iff {t : WireOptions} (hcount : t.scopes.length + t.fields.length < 2 ^ 16)
    (hscopes : ∀ f ∈ t.scopes, f.Ok) (hfields : ∀ f ∈ t.fields, f.Ok) (hn : 1 ≤ t.scopes.length) :
    t.Kept ↔ t.scopes.length = 1 := by
  have hiff : t.Kept ↔ (t.scopes.map WireField.spec).length = 1 :=
    keepsSpecifiers_iff (unmarshalOpts_encode hcount hscopes hfields) rfl (by rwa [List.length_map])
  rwa [List.length_map] at hiff

theorem map_snd_specifiers (tr : TemplateRecord) :
    tr.specifiers.map Prod.snd = tr.fieldSpecifiers ++ tr.scopeFieldSpecifiers := by
  simp [TemplateRecord.specifiers, Function.comp_def]

def optionsFormat (im : IANAInfoModel) : OptionsFormat TemplateRecord TemplateFieldSpecifier DecodedField where
  scopes := TemplateRecord.scopeFieldSpecifiers
  fields := TemplateRecord.fieldSpecifiers
  length f := f.length.toNat
  id f := f.elementID
  type f := (f.entry im).type
  Known := TemplateRecord.Known im
  decodeData := decodeData im
  view d := (d.id, d.value)
  parses := by
    intro tr hk r hr
    rw [← map_snd_specifiers] at hr ⊢
    have hmatches : tr.Matches r := List.forall₂_map_left_iff.mp hr
    exact ⟨recordValue im tr r, parses_decodeData hk hmatches,
      map_zip_eq_values fun q => Prod.ext (entry_fieldID q.1.2) rfl⟩

def TemplateRecord.scopeLength (tr : TemplateRecord) : Nat :=
  (tr.scopeFieldSpecifiers.map fun f => f.length.toNat).sum

def TemplateRecord.optionLength (tr : TemplateRecord) : Nat :=
  (tr.fieldSpecifiers.map fun f => f.length.toNat).sum

abbrev OptionsData (tr : TemplateRecord) (vs vf : Record) : Prop :=
  VFlow.OptionsData (fun f : TemplateFieldSpecifier => f.length.toNat) tr.scopeFieldSpecifiers tr.fieldSpecifiers vs vf

/-- The decoder gives each element of an options data record the value of its own bytes. -/
abbrev AttributesOwnBytes (im : IANAInfoModel) (tr : TemplateRecord) (vs vf : Record) : Prop :=
  (optionsFormat im).AttributesOwnBytes tr vs vf

end Ipfix

/-! ## NetFlow v9 -/

namespace Netflow9

def WireOptions.Kept (t : WireOptions) : Prop :=
  KeepsSpecifiers TemplateRecord.unmarshalOpts TemplateRecord.scopeFieldSpecifiers TemplateRecord.fieldSpecifiers
    t.encode t.scopes t.fields

theorem kept_iff {t : WireOptions} (hscopes : 4 * t.scopes.length < 2 ^ 16) (hfields : 4 * t.fields.length < 2 ^ 16)
    (hn : 1 ≤ t.scopes.length) : t.Kept ↔ t.scopes.length = 1 :=
  keepsSpecifiers_iff (unmarshalOpts_encode hscopes hfields) rfl hn

theorem map_snd_specifiers (tr : TemplateRecord) :
    tr.specifiers.map Prod.snd = tr.fieldSpecifiers ++ tr.scopeFieldSpecifiers := by
  simp [TemplateRecord.specifiers, Function.comp_def]

def optionsFormat (im : IANAInfoModel) : OptionsFormat TemplateRecord TemplateFieldSpecifier DecodedField where
  scopes := TemplateRecord.scopeFieldSpecifiers
  fields := TemplateRecord.fieldSpecifiers
  length f := f.length.toNat
  id f := f.elementID
  type f := (f.entry im).type
  Known := TemplateRecord.Known im
  decodeData := decodeData im
  view d := (d.id, d.value)
  parses := by
    intro tr hk r hr
    rw [← map_snd_specifiers] at hr ⊢
    have hmatches : tr.Matches r := List.forall₂_map_left_iff.mp hr
    exact ⟨recordValue im tr r, parses_decodeData hk hmatches,
      map_zip_eq_values fun q => Prod.ext (entry_fieldID q.1.2) rfl⟩

def TemplateRecord.scopeLength (tr : TemplateRecord) : Nat :=
  (tr.scopeFieldSpecifiers.map fun f => f.length.toNat).sum

def TemplateRecord.optionLength (tr : TemplateRecord) : Nat :=
  (tr.fieldSpecifiers.map fun f => f.length.toNat).sum

abbrev OptionsData (tr : TemplateRecord) (vs vf : Record) : Prop :=
  VFlow.OptionsData (fun f : TemplateFieldSpecifier => f.length.toNat) tr.scopeFieldSpecifiers tr.fieldSpecifiers vs vf

abbrev AttributesOwnBytes (im : IANAInfoModel) (tr : TemplateRecord) (vs vf : Record) : Prop :=
  (optionsFormat im).AttributesOwnBytes tr vs vf

end Netflow9

/-! ## Both formats -/

/-- **Options templates.** `unmarshalOpts` reads an options template record with its specifiers exactly if there is
a single scope field. -/
theorem options_kept_iff (t : Ipfix.WireOptions) (u : Netflow9.WireOptions) :
    (t.scopes.length + t.fields.length < 2 ^ 16 → (∀ f ∈ t.scopes, f.Ok) → (∀ f ∈ t.fields, f.Ok) →
      1 ≤ t.scopes.length → (t.Kept ↔ t.scopes.length = 1)) ∧
    (4 * u.scopes.length < 2 ^ 16 → 4 * u.fields.length < 2 ^ 16 → 1 ≤ u.scopes.length →
      (u.Kept ↔ u.scopes.length = 1)) :=
  ⟨Ipfix.kept_iff, Netflow9.kept_iff⟩

theorem options_kept_interface :
    Ipfix.WireOptions.Kept ⟨256, [⟨10, 4, none⟩], [⟨41, 8, none⟩, ⟨42, 8, some 9⟩]⟩ ∧
      Netflow9.WireOptions.Kept ⟨256, [⟨10, 4⟩], [⟨41, 8⟩, ⟨42, 8⟩]⟩ := by
  obtain ⟨hi, hn⟩ := options_kept_iff ⟨256, [⟨10, 4, none⟩], [⟨41, 8, none⟩, ⟨42, 8, some 9⟩]⟩
    ⟨256, [⟨10, 4⟩], [⟨41, 8⟩, ⟨42, 8⟩]⟩
  exact ⟨(hi (by decide) (by decide) (by decide) (by decide)).mpr rfl,
    (hn (by decide) (by decide) (by decide)).mpr rfl⟩

/-- Of the two scope fields the first is lost. -/
theorem options_scope_lost :
    ¬ Ipfix.WireOptions.Kept ⟨256, [⟨144, 4, none⟩, ⟨10, 4, none⟩], [⟨41, 8, none⟩]⟩ ∧
      ¬ Netflow9.WireOptions.Kept ⟨256, [⟨144, 4⟩, ⟨10, 4⟩], [⟨41, 8⟩]⟩ :=
  ⟨fun h => absurd ((Ipfix.kept_iff (by decide) (by decide) (by decide) (by decide)).mp h) (by decide),
    fun h => absurd ((Netflow9.kept_iff (by decide) (by decide) (by decide)).mp h) (by decide)⟩

/-- **Options data.** All options data records of a template are decoded with the right values exactly if the scope
fields or the option fields take no bytes; of the other templates, those records are whose bytes of scope fields
and bytes of option fields commute. -/
theorem options_attributed_iff (im : IANAInfoModel) :
    (∀ tr : Ipfix.TemplateRecord, tr.Known im →
      ((∀ vs vf, Ipfix.OptionsData tr vs vf → Ipfix.AttributesOwnBytes im tr vs vf) ↔
        tr.scopeLength = 0 ∨ tr.optionLength = 0) ∧
      (∀ vs vf, Ipfix.OptionsData tr vs vf → vs.flatten ++ vf.flatten = vf.flatten ++ vs.flatten →
        Ipfix.AttributesOwnBytes im tr vs vf)) ∧
    (∀ tr : Netflow9.TemplateRecord, tr.Known im →
      ((∀ vs vf, Netflow9.OptionsData tr vs vf → Netflow9.AttributesOwnBytes im tr vs vf) ↔
        tr.scopeLength = 0 ∨ tr.optionLength = 0) ∧
      (∀ vs vf, Netflow9.OptionsData tr vs vf → vs.flatten ++ vf.flatten = vf.flatten ++ vs.flatten →
        Netflow9.AttributesOwnBytes im tr vs vf)) :=
  ⟨fun _ hk => ⟨(Ipfix.optionsFormat im).attributesOwnBytes_iff hk,
      fun _ _ => (Ipfix.optionsFormat im).attributesOwnBytes_of_comm hk⟩,
    fun _ hk => ⟨(Netflow9.optionsFormat im).attributesOwnBytes_iff hk,
      fun _ _ => (Netflow9.optionsFormat im).attributesOwnBytes_of_comm hk⟩⟩

/-- An interface as the scope, and a counter. -/
def Ipfix.interfaceOptions : Ipfix.TemplateRecord :=
  { templateID := 256, fieldCount := 2, fieldSpecifiers := [⟨41, 8, 0⟩], scopeFieldCount := 1,
    scopeFieldSpecifiers := [⟨10, 4, 0⟩] }

def Netflow9.interfaceOptions : Netflow9.TemplateRecord :=
  { templateID := 256, fieldSpecifiers := [⟨41, 8⟩], scopeFieldSpecifiers := [⟨10, 4⟩] }

/-- A record of equal bytes is decoded with the right values, but not all records are. -/
theorem options_attributed_interface :
    (Ipfix.AttributesOwnBytes infoModel Ipfix.interfaceOptions [[7, 7, 7, 7]] [[7, 7, 7, 7, 7, 7, 7, 7]] ∧
      ¬ ∀ vs vf, Ipfix.OptionsData Ipfix.interfaceOptions vs vf →
        Ipfix.AttributesOwnBytes infoModel Ipfix.interfaceOptions vs vf) ∧
    (Netflow9.AttributesOwnBytes infoModel Netflow9.interfaceOptions [[7, 7, 7, 7]] [[7, 7, 7, 7, 7, 7, 7, 7]] ∧
      ¬ ∀ vs vf, Netflow9.OptionsData Netflow9.interfaceOptions vs vf →
        Netflow9.AttributesOwnBytes infoModel Netflow9.interfaceOptions vs vf) := by
  have hi := (options_attributed_iff infoModel).1 Ipfix.interfaceOptions (by decide)
  have hn := (options_attributed_iff infoModel).2 Netflow9.interfaceOptions (by decide)
  refine ⟨⟨hi.2 _ _ ⟨.cons rfl .nil, .cons rfl .nil⟩ rfl, fun h => ?_⟩,
    hn.2 _ _ ⟨.cons rfl .nil, .cons rfl .nil⟩ rfl, fun h => ?_⟩
  · exact absurd (hi.1.mp h) (by decide)
  · exact absurd (hn.1.mp h) (by decide)

/-- Of interface 5 and count 1 the decoders make the count `5 * 2 ^ 32` and the interface 1. -/
theorem options_swapped :
    (Ipfix.OptionsData Ipfix.interfaceOptions [[0, 0, 0, 5]] [[0, 0, 0, 0, 0, 0, 0, 1]] ∧
      ¬ Ipfix.AttributesOwnBytes infoModel Ipfix.interfaceOptions [[0, 0, 0, 5]] [[0, 0, 0, 0, 0, 0, 0, 1]]) ∧
    (Netflow9.OptionsData Netflow9.interfaceOptions [[0, 0, 0, 5]] [[0, 0, 0, 0, 0, 0, 0, 1]] ∧
      ¬ Netflow9.AttributesOwnBytes infoModel Netflow9.interfaceOptions [[0, 0, 0, 5]] [[0, 0, 0, 0, 0, 0, 0, 1]]) := by
  refine ⟨⟨⟨.cons rfl .nil, .cons rfl .nil⟩, fun h => ?_⟩, ⟨.cons rfl .nil, .cons rfl .nil⟩, fun h => ?_⟩
  · obtain ⟨fields, c, hrun, hvalues⟩ := h [] 0
    have hread : Ipfix.decodeData infoModel Ipfix.interfaceOptions ⟨[0, 0, 0, 5, 0, 0, 0, 0, 0, 0, 0, 1], 0⟩ =
        .ok [⟨41, .uint64 0x500000000, 0⟩, ⟨10, .uint32 1, 0⟩] ⟨[], 12⟩ := rfl
    obtain ⟨rfl, -⟩ := EStateM.Result.ok.inj (hread.symm.trans hrun)
    exact absurd hvalues (by decide)
  · obtain ⟨fields, c, hrun, hvalues⟩ := h [] 0
    have hread : Netflow9.decodeData infoModel Netflow9.interfaceOptions ⟨[0, 0, 0, 5, 0, 0, 0, 0, 0, 0, 0, 1], 0⟩ =
        .ok [⟨41, .uint64 0x500000000⟩, ⟨10, .uint32 1⟩] ⟨[], 12⟩ := rfl
    obtain ⟨rfl, -⟩ := EStateM.Result.ok.inj (hread.symm.trans hrun)
    exact absurd hvalues (by decide)

end VFlow
