import VFlow.Ipfix.Framing
import VFlow.Ipfix.Wire

/-!
# What the decoder makes of the sets of a message

The bytes of a set, wherever they stand in a message, make `decodeSet` do what the set says: a template
set stores its records, a data set appends its records, a set of an unknown template or element is
reported, a reserved set is ignored. In each case the reader is left at the end of the set.

The record loops are followed record by record (`template_loop`, `data_loop`); the invariant is that what
is left of the set is what the remaining records, and the padding, encode.
-/

namespace VFlow.Ipfix

open Scan Reader BigEndian

variable {im : IANAInfoModel} {raddr : IP} {h : SetHeader} {tr : TemplateRecord} {s t : DecodeState}
  {id : UInt16} {body rest : List UInt8} {k : Nat}

structure Collected where
  mem : MemCache TemplateRecord
  dataSets : List (List DecodedField) := []
  rpc : List RPCRequest := []

def DecodeState.collected (s : DecodeState) : Collected :=
  { mem := s.mem, dataSets := s.msg.dataSets, rpc := s.rpc }

def DecodeState.withCollected (s : DecodeState) (c : Collected) (r : Reader) : DecodeState :=
  { reader := r, mem := c.mem, msg := { s.msg with dataSets := c.dataSets }, rpc := c.rpc }

def storeAll (raddr : IP) (mem : MemCache TemplateRecord) (trs : List TemplateRecord) : MemCache TemplateRecord :=
  mem.insertAll TemplateRecord.templateID raddr trs

/-! ## A set at the reader -/

section atSet

variable (hs : AtSet s.reader id body rest)
include hs

theorem header_of_atSet :
    SetHeader.ofBytes s.reader.data = { setID := id, length := UInt16.ofNat (4 + body.length) } := by
  rw [hs.data, setHeader_setBytes]

theorem length_of_atSet : (SetHeader.ofBytes s.reader.data).length.toNat = 4 + body.length := by
  rw [header_of_atSet hs]
  exact toNat_ofNat_of_lt hs.small

/-- When the record loop has read no more than the set, `decodeSet` leaves the reader at its end. -/
theorem decodeSet_of_atSet {x y : DecodeState × Option Error}
    (hstart : loopStart raddr s = (tr, x))
    (hend : RecordsEnd (recordPass im raddr (SetHeader.ofBytes s.reader.data) s.reader.count tr) x y)
    (hread : y.1.reader = s.reader.advance k) (hk : k ≤ 4 + body.length) :
    ∃ fuel, decodeSet im raddr fuel s =
      some ({ y.1 with reader := s.reader.advance (4 + body.length) }, y.2) := by
  obtain ⟨n, hn⟩ := hend
  have h4 : ¬ (SetHeader.ofBytes s.reader.data).length < 4 := by
    rw [UInt16.lt_iff_toNat_lt, length_of_atSet hs]
    change ¬ _ < 4
    omega
  have hskip := skipLeftover_of_le (h := SetHeader.ofBytes s.reader.data) hread (by rw [hs.len]; omega)
    (by rw [length_of_atSet hs]; exact hk)
  rw [if_pos (by rw [length_of_atSet hs, hs.len]; omega), length_of_atSet hs] at hskip
  refine ⟨n, (decodeSet_eq_some (by rw [hs.len]; omega)).mpr (Or.inr ⟨h4, y, ?_, hskip.symm⟩)⟩
  rw [setLoop, hstart]
  exact hn

end atSet

/-! ## Template sets -/

/-- The bytes `w` are a complete template record, of a set of this id. -/
structure TemplateWord (id : UInt16) (w : List UInt8) (tr : TemplateRecord) : Prop where
  read : ∀ rest n, readTemplate id ⟨w ++ rest, n⟩ = (tr, none, ⟨rest, n + w.length⟩)
  four_le : 4 ≤ w.length
  not_padding : ∀ rest, uint16 ((w ++ rest).take 2) ≠ 0

theorem templateID_ne_zero {id : UInt16} (h : 255 < id) : id ≠ 0 := by
  rintro rfl
  exact absurd h (by decide)

theorem uint16_take_put (id : UInt16) (rest : List UInt8) : uint16 ((putUint16 id ++ rest).take 2) = id :=
  uint16_put id []

theorem WireTemplate.Ok.word {t : WireTemplate} (h : t.Ok) : TemplateWord 2 t.encode t.record where
  read rest n := by
    rw [readTemplate, if_pos rfl]
    exact unmarshal_encode h rest n
  four_le := by
    simp only [WireTemplate.encode, List.length_append, length_putUint16]
    omega
  not_padding rest := by
    rw [WireTemplate.encode, List.append_assoc, uint16_take_put]
    exact templateID_ne_zero h.id

theorem WireOptions.Ok.word {t : WireOptions} (h : t.Ok) : TemplateWord 3 t.encode t.record where
  read rest n := by
    rw [readTemplate, if_neg (by decide)]
    exact unmarshalOpts_encode h.count h.scopes h.fields rest n
  four_le := by
    simp only [WireOptions.encode, List.length_append, length_putUint16]
    omega
  not_padding rest := by
    rw [WireOptions.encode, List.append_assoc, uint16_take_put]
    exact templateID_ne_zero h.id

/-- The records that are read of those in a template set, with `n` bytes of the message after the set: the
loop stops when no more than 4 bytes are left. -/
def readable (n : Nat) : List (List UInt8 × TemplateRecord) → List TemplateRecord
  | [] => []
  | (w, tr) :: ws => if 4 < w.length + (ws.map Prod.fst).flatten.length + n then tr :: readable n ws else []

theorem readable_of_lt {ws : List (List UInt8 × TemplateRecord)} (h : ∀ q ∈ ws, 4 < q.1.length) :
    readable k ws = ws.map Prod.snd := by
  induction ws with
  | nil => rfl
  | cons q ws ih =>
    obtain ⟨w, tr⟩ := q
    have hw := h (w, tr) List.mem_cons_self
    dsimp only at hw
    rw [readable, if_pos (by omega), ih fun q hq => h q (List.mem_cons_of_mem _ hq), List.map_cons]

theorem four_lt_encode_template {t : WireTemplate} (h : t.fields ≠ []) : 4 < t.encode.length := by
  obtain ⟨f, fs, hf⟩ := List.exists_cons_of_ne_nil h
  have := four_le_encode f
  simp only [WireTemplate.encode, hf, List.length_append, length_putUint16, List.map_cons, List.flatten_cons]
  omega

theorem four_lt_encode_options (t : WireOptions) : 4 < t.encode.length := by
  simp only [WireOptions.encode, List.length_append, length_putUint16]
  omega

theorem recordBody_template {w : List UInt8} {u : TemplateRecord} {n : Nat} (hid : h.setID = 2 ∨ h.setID = 3)
    (hw : TemplateWord h.setID w u) (hr : t.reader = ⟨w ++ rest, n⟩) :
    recordBody im raddr h tr (t, none) =
      .next ({ t with reader := ⟨rest, n + w.length⟩, mem := t.mem.insert u.templateID raddr u }, none) := by
  have hpeek : t.reader.peekUint16.toOption ≠ some 0 := by
    have hlen : 2 ≤ t.reader.len := by
      have := hw.four_le
      rw [hr, Cursor.len_mk, List.length_append]
      omega
    rw [peekUint16_of_le hlen, hr]
    intro heq
    exact hw.not_padding rest (Option.some.inj heq)
  have hread := hw.read rest n
  rw [readTemplate, ← hr] at hread
  rw [recordBody]
  dsimp only
  rw [if_pos hid, if_neg hpeek, hread]

theorem template_loop (im : IANAInfoModel) (raddr : IP) (tr : TemplateRecord) (hid : h.setID = 2 ∨ h.setID = 3)
    {ws : List (List UInt8 × TemplateRecord)} (hws : ∀ q ∈ ws, TemplateWord h.setID q.1 q.2) {r : Reader}
    (hread : t.reader = r.advance k)
    (hdata : t.reader.data = (ws.map Prod.fst).flatten ++ rest)
    (hlen : k + (ws.map Prod.fst).flatten.length = h.length.toNat) :
    ∃ j, j ≤ h.length.toNat ∧ RecordsEnd (recordPass im raddr h r.count tr) (t, none)
      ({ t with reader := r.advance j, mem := storeAll raddr t.mem (readable rest.length ws) }, none) := by
  have htlen : r.len - k = (ws.map Prod.fst).flatten.length + rest.length := by
    rw [← Cursor.len_advance, ← hread, Cursor.len, hdata, List.length_append]
  induction ws generalizing t k with
  | nil =>
    refine ⟨k, by omega, RecordsEnd.of_done (y := _) ?_⟩
    rw [recordPass_of_not_guard, ← hread]
    · rfl
    · rw [recordGuard_of_le hread rfl (by omega)]
      simp only [List.map_nil, List.flatten_nil, List.length_nil] at hlen
      omega
  | cons q ws ih =>
    obtain ⟨w, u⟩ := q
    have hw : TemplateWord h.setID w u := hws (w, u) List.mem_cons_self
    have h4 := hw.four_le
    simp only [List.map_cons, List.flatten_cons, List.length_append, List.append_assoc] at hdata hlen htlen
    rw [readable]
    split_ifs with hgt
    · have hg : recordGuard h r.count (t, none) = true := by
        rw [recordGuard_of_le hread rfl (by omega)]
        exact ⟨rfl, by omega, by omega⟩
      have hpass : recordPass im raddr h r.count tr (t, none) = .next ({ t with
          reader := ⟨(ws.map Prod.fst).flatten ++ rest, t.reader.count + w.length⟩,
          mem := t.mem.insert u.templateID raddr u }, none) := by
        rw [recordPass_of_guard hg]
        exact recordBody_template hid hw (by rw [← hdata])
      have hnext : (⟨(ws.map Prod.fst).flatten ++ rest, t.reader.count + w.length⟩ : Reader) =
          r.advance (k + w.length) := by
        rw [← Cursor.advance_advance, ← hread, Cursor.advance, hdata, List.drop_left]
      obtain ⟨j, hj, hend⟩ := ih (fun q hq => hws q (List.mem_cons_of_mem _ hq))
        (t := { t with reader := ⟨(ws.map Prod.fst).flatten ++ rest, t.reader.count + w.length⟩,
                       mem := t.mem.insert u.templateID raddr u }) hnext rfl (by omega) (by omega)
      exact ⟨j, hj, RecordsEnd.of_next hpass hend⟩
    · refine ⟨k, by omega, RecordsEnd.of_done ?_⟩
      rw [recordPass_of_not_guard, ← hread]
      · rfl
      · rw [recordGuard_of_le hread rfl (by omega)]
        omega

theorem decodeSet_template (hid : id = 2 ∨ id = 3) {ws : List (List UInt8 × TemplateRecord)}
    (hws : ∀ q ∈ ws, TemplateWord id q.1 q.2) (hs : AtSet s.reader id (ws.map Prod.fst).flatten rest) :
    ∃ fuel, decodeSet im raddr fuel s =
      some (s.withCollected { s.collected with mem := storeAll raddr s.mem (readable rest.length ws) }
        (s.reader.advance (4 + (ws.map Prod.fst).flatten.length)), none) := by
  have hstart : loopStart raddr s = ({}, { s with reader := s.reader.advance 4 }, none) := by
    rw [loopStart, header_of_atSet hs, setTemplate, if_neg]
    rcases hid with rfl | rfl
    · exact (by decide : ¬ (2 : UInt16) > 255)
    · exact (by decide : ¬ (3 : UInt16) > 255)
  obtain ⟨j, hj, hend⟩ := template_loop im raddr {} (h := SetHeader.ofBytes s.reader.data)
    (t := { s with reader := s.reader.advance 4 }) (by rw [header_of_atSet hs]; exact hid)
    (by rw [header_of_atSet hs]; exact hws) rfl hs.data_advance (length_of_atSet hs).symm
  rw [length_of_atSet hs] at hj
  exact decodeSet_of_atSet hs hstart hend rfl hj

/-! ## Data sets -/

/-- The padding of a data set is not read as a record: there is none, or it and the rest of the message
have at most 4 bytes. -/
def PadFits (pad rest : Nat) : Prop := pad = 0 ∨ pad + rest ≤ 4

theorem data_loop (im : IANAInfoModel) (raddr : IP) (hd : h.IsData) (hk : tr.Known im)
    (hfive : 5 ≤ tr.recordLength) {rs : List Record} (hrs : ∀ r ∈ rs, tr.Matches r)
    {pad : List UInt8} (hpad : PadFits pad.length rest.length) {r : Reader}
    (hread : t.reader = r.advance k) (hdata : t.reader.data = (rs.map List.flatten).flatten ++ (pad ++ rest))
    (hlen : k + (rs.map List.flatten).flatten.length + pad.length = h.length.toNat) :
    RecordsEnd (recordPass im raddr h r.count tr) (t, none)
      ({ t with reader := r.advance (k + (rs.map List.flatten).flatten.length),
                msg := { t.msg with dataSets := t.msg.dataSets ++ rs.map (recordValue im tr) } }, none) := by
  have htlen : r.len - k = (rs.map List.flatten).flatten.length + (pad.length + rest.length) := by
    rw [← Cursor.len_advance, ← hread, Cursor.len, hdata, List.length_append, List.length_append]
  induction rs generalizing t k with
  | nil =>
    refine RecordsEnd.of_done ?_
    simp only [List.map_nil, List.flatten_nil, List.length_nil, Nat.add_zero, Nat.zero_add, List.append_nil]
      at hlen htlen ⊢
    rw [recordPass_of_not_guard, ← hread]
    rw [recordGuard_of_le hread rfl (by omega)]
    rcases hpad with hpad | hpad <;> omega
  | cons v vs ih =>
    have hv := hrs v List.mem_cons_self
    have hvlen := hv.length_flatten
    simp only [List.map_cons, List.flatten_cons, List.length_append, List.append_assoc] at hdata hlen htlen
    have hg : recordGuard h r.count (t, none) = true := by
      rw [recordGuard_of_le hread rfl (by omega)]
      exact ⟨rfl, by omega, by omega⟩
    have hdec := parses_decodeData hk hv ((vs.map List.flatten).flatten ++ (pad ++ rest)) t.reader.count
    rw [← hdata] at hdec
    have hpass : recordPass im raddr h r.count tr (t, none) = .next ({ t with
        reader := ⟨(vs.map List.flatten).flatten ++ (pad ++ rest), t.reader.count + v.flatten.length⟩,
        msg := { t.msg with dataSets := t.msg.dataSets ++ [recordValue im tr v] } }, none) := by
      rw [recordPass_of_guard hg, recordBody_data hd]
      rw [show decodeData im tr t.reader = _ from hdec]
    have hnext : (⟨(vs.map List.flatten).flatten ++ (pad ++ rest), t.reader.count + v.flatten.length⟩ : Reader) =
        r.advance (k + v.flatten.length) := by
      rw [← Cursor.advance_advance, ← hread, Cursor.advance, hdata, List.drop_left]
    have hend := ih (fun u hu => hrs u (List.mem_cons_of_mem _ hu))
      (t := { t with
        reader := ⟨(vs.map List.flatten).flatten ++ (pad ++ rest), t.reader.count + v.flatten.length⟩,
        msg := { t.msg with dataSets := t.msg.dataSets ++ [recordValue im tr v] } }) hnext rfl (by omega) (by omega)
    refine RecordsEnd.of_next hpass ?_
    simpa [Nat.add_assoc] using hend

theorem decodeSet_data (hid : 255 < id) (htr : s.mem.retrieve id raddr = some tr) (hk : tr.Known im)
    (hfive : 5 ≤ tr.recordLength) {rs : List Record} (hrs : ∀ r ∈ rs, tr.Matches r) {pad : List UInt8}
    (hpad : PadFits pad.length rest.length) (hs : AtSet s.reader id ((rs.map List.flatten).flatten ++ pad) rest) :
    ∃ fuel, decodeSet im raddr fuel s =
      some (s.withCollected { s.collected with dataSets := s.msg.dataSets ++ rs.map (recordValue im tr) }
        (s.reader.advance (4 + ((rs.map List.flatten).flatten ++ pad).length)), none) := by
  have hstart : loopStart raddr s = (tr, { s with reader := s.reader.advance 4 }, none) := by
    rw [loopStart, header_of_atSet hs, setTemplate, if_pos hid]
    simp only [htr]
  have hend := data_loop im raddr (h := SetHeader.ofBytes s.reader.data)
    (t := { s with reader := s.reader.advance 4 }) (by rw [header_of_atSet hs]; exact Or.inr hid) hk hfive hrs hpad rfl
    (by rw [hs.data_advance, List.append_assoc]) (by rw [length_of_atSet hs, List.length_append, Nat.add_assoc])
  exact decodeSet_of_atSet hs hstart hend rfl (by
    rw [List.length_append]
    omega)

/-! ## Sets that are not read -/

theorem decodeSet_unknownTemplate (hid : 255 < id) (htr : s.mem.retrieve id raddr = none)
    (hs : AtSet s.reader id body rest) :
    ∃ fuel, decodeSet im raddr fuel s =
      some (s.withCollected { s.collected with rpc := s.rpc ++ [{ id := id, ip := raddr }] }
        (s.reader.advance (4 + body.length)), some (.unknownTemplate .ipfix raddr id)) := by
  have hstart : loopStart raddr s = ({}, { s with reader := s.reader.advance 4,
                                                  rpc := s.rpc ++ [{ id := id, ip := raddr }] },
      some (.unknownTemplate .ipfix raddr id)) := by
    rw [loopStart, header_of_atSet hs, setTemplate, if_pos hid]
    simp only [htr]
  refine decodeSet_of_atSet hs hstart (RecordsEnd.of_done (recordPass_of_not_guard ?_)) rfl (by omega)
  simp [recordGuard_iff]

theorem decodeSet_unknownElement (hid : 255 < id) (htr : s.mem.retrieve id raddr = some tr)
    {p : Bool × TemplateFieldSpecifier} (hp : tr.firstUnknown im = some p) (hfive : 5 ≤ tr.recordLength)
    (hbody : tr.recordLength ≤ body.length) (hs : AtSet s.reader id body rest) :
    ∃ fuel, decodeSet im raddr fuel s =
      some (s.withCollected s.collected (s.reader.advance (4 + body.length)),
        some (.unknownElement .ipfix p.2.elementID p.1)) := by
  have hstart : loopStart raddr s = (tr, { s with reader := s.reader.advance 4 }, none) := by
    rw [loopStart, header_of_atSet hs, setTemplate, if_pos hid]
    simp only [htr]
  have hrefused : tr.refusedLength im ≤ tr.recordLength := sizeUpTo_le _
  have hg : recordGuard (SetHeader.ofBytes s.reader.data) s.reader.count
      ({ s with reader := s.reader.advance 4 }, none) = true := by
    rw [recordGuard_of_le rfl rfl (by rw [length_of_atSet hs]; omega), length_of_atSet hs, hs.len]
    exact ⟨rfl, by omega, by omega⟩
  have hdec := (rejects_decodeData hp (s.reader.advance 4)).1 (by
    rw [Cursor.len_advance, hs.len]
    omega)
  have hpass : recordPass im raddr (SetHeader.ofBytes s.reader.data) s.reader.count tr
      ({ s with reader := s.reader.advance 4 }, none) =
      .next ({ s with reader := s.reader.advance (4 + tr.refusedLength im) },
        some (.unknownElement .ipfix p.2.elementID p.1)) := by
    rw [recordPass_of_guard hg, recordBody_data (by rw [header_of_atSet hs]; exact Or.inr hid)]
    dsimp only
    rw [hdec, Cursor.advance_advance]
  refine decodeSet_of_atSet hs hstart
    (RecordsEnd.of_next hpass (RecordsEnd.of_done (recordPass_of_not_guard ?_))) rfl (by omega)
  simp [recordGuard_iff]

theorem decodeSet_reserved (hid : 4 ≤ id ∧ id ≤ 255) (hs : AtSet s.reader id body rest) :
    ∃ fuel, decodeSet im raddr fuel s =
      some (s.withCollected s.collected (s.reader.advance (4 + body.length)), none) := by
  have hstart : loopStart raddr s = ({}, { s with reader := s.reader.advance 4 }, none) := by
    rw [loopStart, header_of_atSet hs, setTemplate, if_neg]
    exact UInt16.not_lt.mpr hid.2
  have hpass : recordPass im raddr (SetHeader.ofBytes s.reader.data) s.reader.count {}
      ({ s with reader := s.reader.advance 4 }, none) = .done ({ s with reader := s.reader.advance 4 }, none) := by
    rw [recordPass, recordBody_reserved (by rw [header_of_atSet hs]; exact hid), ite_self]
  exact decodeSet_of_atSet hs (k := 4) hstart (RecordsEnd.of_done hpass) rfl (by omega)

/-! ## What a message says -/

def WireSet.words : WireSet → List (List UInt8 × TemplateRecord)
  | template records => records.map fun t => (t.encode, t.record)
  | options records => records.map fun t => (t.encode, t.record)
  | data _ _ _ | reserved _ _ => []

def WireSet.templates (set : WireSet) : List TemplateRecord := set.words.map Prod.snd

def WireSet.store (raddr : IP) (n : Nat) (mem : MemCache TemplateRecord) (set : WireSet) : MemCache TemplateRecord :=
  storeAll raddr mem (readable n set.words)

/-- What is collected from a set, with `n` bytes of the message after it, and the error it is reported
with. -/
def WireSet.collect (im : IANAInfoModel) (raddr : IP) (n : Nat) (c : Collected) (set : WireSet) :
    Collected × Option Error :=
  match set with
  | template _ | options _ => ({ c with mem := set.store raddr n c.mem }, none)
  | data id records _ =>
    match c.mem.retrieve id raddr with
    | none => ({ c with rpc := c.rpc ++ [{ id := id, ip := raddr }] }, some (.unknownTemplate .ipfix raddr id))
    | some tr =>
      match tr.firstUnknown im with
      | some p => (c, some (.unknownElement .ipfix p.2.elementID p.1))
      | none => ({ c with dataSets := c.dataSets ++ records.map (recordValue im tr) }, none)
  | reserved _ _ => (c, none)

/-- The set is well formed, given the cache and the `n` bytes of the message after it: template records
are complete, data records are those of the template, of 5 bytes at least, with padding that is not read
as a record, and a set that is to be skipped has a body. -/
def WireSet.Ok (im : IANAInfoModel) (raddr : IP) (mem : MemCache TemplateRecord) (n : Nat) : WireSet → Prop
  | template records => ∀ t ∈ records, t.Ok
  | options records => ∀ t ∈ records, t.Ok
  | data id records pad => 255 < id ∧
      (∀ tr, mem.retrieve id raddr = some tr →
        5 ≤ tr.recordLength ∧ (∀ r ∈ records, tr.Matches r) ∧ PadFits pad n) ∧
      ((∃ tr, mem.retrieve id raddr = some tr ∧ tr.Known im) ∨ (records.map List.flatten).flatten ≠ [])
  | reserved id _ => 4 ≤ id ∧ id ≤ 255

theorem collect_mem (n : Nat) (c : Collected) (set : WireSet) :
    (set.collect im raddr n c).1.mem = set.store raddr n c.mem := by
  unfold WireSet.collect
  split
  · rfl
  · rfl
  · split
    · rfl
    · split <;> rfl
  · rfl

theorem bytes_template (records : List WireTemplate) : (WireSet.template records).bytes =
    setBytes 2 ((WireSet.template records).words.map Prod.fst).flatten := by
  rw [WireSet.words, List.map_map]
  rfl

theorem bytes_options (records : List WireOptions) : (WireSet.options records).bytes =
    setBytes 3 ((WireSet.options records).words.map Prod.fst).flatten := by
  rw [WireSet.words, List.map_map]
  rfl

theorem recordLength_le {rs : List Record} (hrs : ∀ r ∈ rs, tr.Matches r) (hne : (rs.map List.flatten).flatten ≠ []) :
    tr.recordLength ≤ (rs.map List.flatten).flatten.length := by
  cases rs with
  | nil => exact absurd rfl hne
  | cons v vs =>
    rw [List.map_cons, List.flatten_cons, List.length_append, (hrs v List.mem_cons_self).length_flatten]
    omega

theorem decodeSet_collect {set : WireSet} (hok : set.Ok im raddr s.mem rest.length)
    (hdata : s.reader.data = set.bytes ++ rest) (hsmall : set.bytes.length < 2 ^ 16) :
    ∃ fuel, decodeSet im raddr fuel s =
      some (s.withCollected (set.collect im raddr rest.length s.collected).1 (s.reader.advance set.bytes.length),
        (set.collect im raddr rest.length s.collected).2) := by
  cases set with
  | template records =>
    rw [bytes_template] at hdata hsmall ⊢
    rw [length_setBytes] at hsmall ⊢
    refine decodeSet_template (Or.inl rfl) ?_ ⟨hdata, hsmall⟩
    simp only [WireSet.words, List.mem_map]
    rintro q ⟨t, ht, rfl⟩
    exact (hok t ht).word
  | options records =>
    rw [bytes_options] at hdata hsmall ⊢
    rw [length_setBytes] at hsmall ⊢
    refine decodeSet_template (Or.inr rfl) ?_ ⟨hdata, hsmall⟩
    simp only [WireSet.words, List.mem_map]
    rintro q ⟨t, ht, rfl⟩
    exact (hok t ht).word
  | data id records pad =>
    obtain ⟨hid, htr, hne⟩ := hok
    rw [WireSet.bytes, length_setBytes] at hsmall ⊢
    have hs : AtSet s.reader id ((records.map List.flatten).flatten ++ List.replicate pad 0) rest := ⟨hdata, hsmall⟩
    unfold WireSet.collect
    cases hret : s.mem.retrieve id raddr with
    | none =>
      simp only [DecodeState.collected, hret]
      exact decodeSet_unknownTemplate hid hret hs
    | some tr =>
      obtain ⟨hfive, hrs, hpad⟩ := htr tr hret
      cases hfirst : tr.firstUnknown im with
      | some p =>
        simp only [DecodeState.collected, hret, hfirst]
        refine decodeSet_unknownElement hid hret hfirst hfive ?_ hs
        rcases hne with ⟨tr', hret', hk⟩ | hne
        · rw [Option.some.inj (hret.symm.trans hret'), TemplateRecord.firstUnknown_eq_none.mpr hk] at hfirst
          cases hfirst
        · have := recordLength_le hrs hne
          rw [List.length_append]
          omega
      | none =>
        simp only [DecodeState.collected, hret, hfirst]
        exact decodeSet_data hid hret (TemplateRecord.firstUnknown_eq_none.mp hfirst) hfive hrs
          (by rwa [List.length_replicate]) hs
  | reserved id body =>
    rw [WireSet.bytes, length_setBytes] at hsmall ⊢
    exact decodeSet_reserved hok ⟨hdata, hsmall⟩

theorem collect_of_short {set : WireSet} {c : Collected} (hok : set.Ok im raddr c.mem 0)
    (hshort : set.bytes.length ≤ 4) :
    set.collect im raddr 0 c = (c, none) := by
  have hbody : ∀ {id : UInt16} {body : List UInt8}, (setBytes id body).length ≤ 4 → body = [] := by
    intro id body h
    rw [length_setBytes] at h
    exact List.length_eq_zero_iff.mp (by omega)
  have hwords : ∀ {ws : List (List UInt8 × TemplateRecord)}, (ws.map Prod.fst).flatten = [] → readable 0 ws = [] := by
    intro ws h
    cases ws with
    | nil => rfl
    | cons q ws =>
      simp only [List.map_cons, List.flatten_cons, List.append_eq_nil_iff] at h
      simp [readable, h.1, h.2]
  cases set with
  | template records =>
    rw [bytes_template] at hshort
    simp only [WireSet.collect, WireSet.store, hwords (hbody hshort)]
    rfl
  | options records =>
    rw [bytes_options] at hshort
    simp only [WireSet.collect, WireSet.store, hwords (hbody hshort)]
    rfl
  | data id records pad =>
    obtain ⟨-, htr, hne⟩ := hok
    have hnil := List.append_eq_nil_iff.mp (hbody hshort)
    obtain ⟨tr, hret, hk⟩ := hne.resolve_right (not_not.mpr hnil.1)
    obtain ⟨hfive, hrs, -⟩ := htr tr hret
    have hrecords : records = [] := by
      cases records with
      | nil => rfl
      | cons v vs =>
        have hv := (hrs v List.mem_cons_self).length_flatten
        simp only [List.map_cons, List.flatten_cons, List.append_eq_nil_iff] at hnil
        rw [hnil.1.1] at hv
        simp only [List.length_nil] at hv
        omega
    simp only [WireSet.collect, hret, TemplateRecord.firstUnknown_eq_none.mpr hk, hrecords, List.map_nil,
      List.append_nil]
  | reserved id body => rfl

def collectAll (im : IANAInfoModel) (raddr : IP) (c : Collected) : List WireSet → Collected × List Error
  | [] => (c, [])
  | set :: sets =>
    let (c', err) := set.collect im raddr (setsBytes sets).length c
    let (c'', errs) := collectAll im raddr c' sets
    (c'', err.toList ++ errs)

def AllOk (im : IANAInfoModel) (raddr : IP) (mem : MemCache TemplateRecord) : List WireSet → Prop
  | [] => True
  | set :: sets => set.Ok im raddr mem (setsBytes sets).length ∧
      AllOk im raddr (set.store raddr (setsBytes sets).length mem) sets

theorem returns_collectAll {sets : List WireSet} (hok : AllOk im raddr s.mem sets)
    (hdata : s.reader.data = setsBytes sets) (hsmall : (setsBytes sets).length < 2 ^ 16) (errs : List Error) :
    ∃ r, Loop.Returns (setPass DecodeState.reader (decodeSet im raddr)) (s, errs)
      (.all (s.withCollected (collectAll im raddr s.collected sets).1 r)
        (errs ++ (collectAll im raddr s.collected sets).2)) := by
  have hfam : Loop.Family (setPass DecodeState.reader (decodeSet im raddr)) := setPass_family decodeSet_family
  induction sets generalizing s errs with
  | nil =>
    refine ⟨s.reader, Loop.Returns.of_done hfam (n := 0) (setPass_eq_done.mpr ⟨?_, ?_⟩)⟩
    · rw [Cursor.len, hdata]
      exact Nat.zero_le _
    · rw [collectAll, List.append_nil]
      rfl
  | cons set sets ih =>
    obtain ⟨hset, hsets⟩ := hok
    rw [setsBytes_cons] at hdata hsmall
    rw [List.length_append] at hsmall
    by_cases hlen : 4 < s.reader.len
    · obtain ⟨fuel, hfuel⟩ := decodeSet_collect hset hdata (by omega)
      have hmem : (s.withCollected (set.collect im raddr (setsBytes sets).length s.collected).1
          (s.reader.advance set.bytes.length)).mem = set.store raddr (setsBytes sets).length s.mem :=
        collect_mem _ _ _
      have hnext : (s.withCollected (set.collect im raddr (setsBytes sets).length s.collected).1
          (s.reader.advance set.bytes.length)).reader.data = setsBytes sets := by
        change (s.reader.advance set.bytes.length).data = _
        rw [Cursor.advance_data, hdata, List.drop_left]
      obtain ⟨r, hr⟩ := ih (by rwa [hmem]) hnext (by omega)
        (errs ++ (set.collect im raddr (setsBytes sets).length s.collected).2.toList)
      refine ⟨r, Loop.Returns.of_next hfam (setPass_of_decodeSet hlen hfuel) ?_⟩
      rw [List.append_assoc] at hr
      exact hr
    · -- nothing is left but a header
      have hslen : (setsBytes (set :: sets)).length ≤ 4 := by
        rw [setsBytes_cons, ← hdata]
        exact Nat.not_lt.mp hlen
      obtain rfl := sets_eq_nil hslen
      rw [setsBytes_cons, List.length_append] at hslen
      have hcollect := collect_of_short (c := s.collected) hset (by omega)
      refine ⟨s.reader, Loop.Returns.of_done hfam (n := 0) (setPass_eq_done.mpr ⟨Nat.not_lt.mp hlen, ?_⟩)⟩
      rw [collectAll, show (setsBytes []).length = 0 from rfl, hcollect]
      simp only [collectAll, Option.toList_none, List.append_nil]
      rfl

theorem headerOk_messageBytes (mem : MemCache TemplateRecord) (h : WireHeader) (sets : List WireSet) :
    (packetDecoder im raddr mem).HeaderOk (messageBytes h sets) (h.header sets) ⟨setsBytes sets, 16⟩ :=
  ⟨unmarshal_messageBytes h sets, rfl⟩

/-- **`Decode` of a well-formed message** collects what its sets say. -/
theorem decodes_messageBytes {mem : MemCache TemplateRecord} {h : WireHeader} {sets : List WireSet}
    (hok : AllOk im raddr mem sets) (hlen : (messageBytes h sets).length ≤ 65535) :
    Decodes im raddr mem (messageBytes h sets)
      { msg := some { agentID := raddr.string, header := h.header sets,
                      dataSets := (collectAll im raddr { mem } sets).1.dataSets },
        err := combineErrors (collectAll im raddr { mem } sets).2,
        mem := (collectAll im raddr { mem } sets).1.mem, rpc := (collectAll im raddr { mem } sets).1.rpc } := by
  rw [length_messageBytes] at hlen
  obtain ⟨r, hr⟩ := returns_collectAll (s := start raddr mem (h.header sets) ⟨setsBytes sets, 16⟩) hok rfl
    (by omega) []
  exact decodes_iff.mpr ⟨_, (PacketDecoder.returns_iff_loop (headerOk_messageBytes mem h sets)).mpr ⟨_, rfl, hr⟩, rfl⟩

end VFlow.Ipfix
