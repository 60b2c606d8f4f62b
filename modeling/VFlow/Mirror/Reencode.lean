import VFlow.Mirror.Exchanger
import VFlow.Netflow9.RoundTrip

/-!
# What the mirror writes, decoded again

`toBytes` is no inverse of `Decode`. It takes one record for each set header of the message, and a message
has a set header for each of its records: unless the rule takes every record, the index runs out of range
(`toBytes_isSome_iff`). And it writes a packet header that is read back, but no flowsets behind it: the
template record has no flowset header, each value has its element id before it, and the place of a
flowset's length has the number of records.

The decoder takes the template id and the field count, and then whatever it comes to, for flowset headers,
and passes over flowsets of ids that it cannot use (`Passes`). Where it comes to no header of another id, the
records are lost; where it comes to words that are, as a whole, flowsets which define and hold the records,
they are found (`reencoded_spelled`). A template can be made for that.
-/

namespace VFlow.Mirror

open BigEndian Netflow9

variable {im : IANAInfoModel} {raddr raddr' : IP} {mem : MemCache TemplateRecord} {b : List UInt8} {out : Outcome}
  {msg : Message} {rule : ExchangeRule} {records : List (List DecodedField)}

/-! ## The messages of the decoder -/

theorem headers_of_decodes (hdec : Decodes im raddr mem b out) (hmsg : out.msg = some msg) :
    msg.header.version = 9 ∧ msg.setHeaders.length = msg.dataSets.length := by
  obtain ⟨s, hs, rfl, -⟩ := hdec.invariant
    (P := fun s => s.msg.header.version = 9 ∧ s.msg.setHeaders.length = s.msg.dataSets.length) hmsg
    (fun header r hv => ⟨by simpa [PacketHeader.validate, start] using hv, rfl⟩)
    (fun n s s' err hs hlen hset => by
      refine decodeSet_invariant
        (P := fun s => s.msg.header.version = 9 ∧ s.msg.setHeaders.length = s.msg.dataSets.length)
        (fun _ _ ht => ht) (fun t x' ht hstep => ?_) hlen hs hset
      cases hstep with
      | stored u _ _ => exact ht
      | cutOff k u _ _ => exact ht
      | record data _ _ _ => exact ⟨ht.1, by simp [ht.2]⟩
      | failed k e _ _ _ => exact ht)
  exact hs

/-! ## When the index is in range -/

theorem setBytes_isSome_iff (count : UInt16) (setHeaders : List SetHeader) (records : List (List DecodedField)) :
    (setBytes count setHeaders records).isSome ↔ setHeaders.length ≤ records.length := by
  fun_induction setBytes count setHeaders records with
  | case1 records => simp
  | case2 setHeader setHeaders => simp
  | case3 setHeader setHeaders record records ih => simpa using ih

theorem toBytes_isSome_iff (msg : Message) (seq : UInt32) (records : List (List DecodedField)) :
    (toBytes msg seq records).isSome ↔ msg.setHeaders.length ≤ records.length := by
  rw [toBytes, bodyBytes, Option.isSome_map, Option.isSome_map, setBytes_isSome_iff]

variable (rule) in
theorem toBytes_selection_isSome_iff (hlen : msg.setHeaders.length = msg.dataSets.length) (seq : UInt32) :
    (toBytes msg seq (selection rule msg)).isSome ↔ ∀ record ∈ msg.dataSets, rule.selects record := by
  rw [toBytes_isSome_iff, hlen, selection, ← List.length_filter_eq_length_iff]
  exact ⟨fun h => Nat.le_antisymm (List.length_filter_le _ _) h, fun h => h.ge⟩

/-- What is written behind the packet header, when there is a record for each set header: the template record, the
records, and the records once more, each behind its flowset id and the number of records. -/
def words (tr : TemplateRecord) (setHeaders : List SetHeader) (records : List (List DecodedField)) : List UInt8 :=
  templateBytes tr ++ ((records.map recordBytes).flatten ++
    (List.zipWith (fun setHeader record => putUint16 setHeader.flowSetID ++
      (putUint16 (UInt16.ofNat records.length) ++ recordBytes record)) setHeaders records).flatten)

theorem setBytes_eq_some {count : UInt16} {setHeaders : List SetHeader} {records : List (List DecodedField)}
    (h : setHeaders.length ≤ records.length) :
    setBytes count setHeaders records = some (List.zipWith (fun setHeader record =>
      putUint16 setHeader.flowSetID ++ (putUint16 count ++ recordBytes record)) setHeaders records).flatten := by
  fun_induction setBytes count setHeaders records with
  | case1 records => simp
  | case2 setHeader setHeaders => simp at h
  | case3 setHeader setHeaders record records ih =>
    rw [ih (Nat.le_of_succ_le_succ h)]
    simp only [Option.map_some, List.zipWith_cons_cons, List.flatten_cons, List.append_assoc]

theorem toBytes_eq_words (h : msg.setHeaders.length ≤ records.length) (seq : UInt32) :
    toBytes msg seq records = some (headerBytes msg seq ++ words msg.templaRecord msg.setHeaders records) := by
  rw [toBytes, bodyBytes, setBytes_eq_some h]
  rfl

theorem selection_of_all (h : ∀ record ∈ msg.dataSets, rule.selects record) : selection rule msg = msg.dataSets :=
  List.filter_eq_self.mpr h

/-! ## Reading it back -/

def writtenHeader (msg : Message) (seq : UInt32) : PacketHeader :=
  { msg.header with count := msg.templaRecord.fieldCount + UInt16.ofNat msg.setHeaders.length, seqNum := seq }

theorem headerOk_toBytes (hv : msg.header.version = 9) (seq : UInt32) (body : List UInt8) :
    (packetDecoder im raddr mem).HeaderOk (headerBytes msg seq ++ body) (writtenHeader msg seq) ⟨body, 20⟩ :=
  ⟨parses_packetHeader (writtenHeader msg seq) body 0, by
    change (writtenHeader msg seq).validate = none
    rw [PacketHeader.validate, writtenHeader, if_neg (by rw [hv]; decide)]⟩

/-- `toBytes` of these records of the message returns, and `Decode` of the result with an empty cache returns
the records, under the header of the message. -/
def Reencoded (im : IANAInfoModel) (raddr : IP) (msg : Message) (records : List (List DecodedField)) : Prop :=
  ∃ b out msg', toBytes msg 0 records = some b ∧ Decodes im raddr .empty b out ∧ out.msg = some msg' ∧
    msg'.dataSets = records ∧ msg'.header.version = msg.header.version ∧
    msg'.header.sysUpTime = msg.header.sysUpTime ∧ msg'.header.unixSecs = msg.header.unixSecs ∧
    msg'.header.srcID = msg.header.srcID

theorem header_of_returns {s s' : DecodeState} {errs : List Error}
    (h : Loop.Returns (setPass DecodeState.reader (decodeSet im raddr)) (s, []) (.all s' errs)) :
    s'.msg.header = s.msg.header := by
  obtain ⟨n, hn⟩ := h
  refine Loop.run_invariant (P := fun x : DecodeState × List Error => x.1.msg.header = s.msg.header)
    (Q := fun e => ∀ t errs, e = .all t errs → t.msg.header = s.msg.header) ?_ ?_ rfl hn s' errs rfl
  · rintro ⟨t, es⟩ ⟨t', es'⟩ ht hnext
    obtain ⟨hlen, err, hset, -⟩ := setPass_eq_next.mp hnext
    refine decodeSet_invariant (P := fun u => u.msg.header = s.msg.header) (fun _ _ hu => hu) (fun u x' hu hstep => ?_)
      hlen ht hset
    cases hstep with
    | stored v _ _ => exact hu
    | cutOff k v _ _ => exact hu
    | record data _ _ _ => exact hu
    | failed k e _ _ _ => exact hu
  · rintro ⟨t, es⟩ e ht hdone t' es' rfl
    obtain ⟨rfl, -⟩ := SetsEnd.all.inj (setPass_eq_done.mp hdone).2
    exact ht

theorem reencoded_iff_loop (hv : msg.header.version = 9) (hlen : msg.setHeaders.length ≤ records.length) :
    Reencoded im raddr msg records ↔ ∃ s errs, Loop.Returns (setPass DecodeState.reader (decodeSet im raddr))
      (start raddr .empty (writtenHeader msg 0) ⟨words msg.templaRecord msg.setHeaders records, 20⟩, [])
      (.all s errs) ∧ s.msg.dataSets = records := by
  have hb := toBytes_eq_words hlen 0
  have hh : (packetDecoder im raddr .empty).HeaderOk
      (headerBytes msg 0 ++ words msg.templaRecord msg.setHeaders records) (writtenHeader msg 0)
      ⟨words msg.templaRecord msg.setHeaders records, 20⟩ := headerOk_toBytes hv 0 _
  constructor
  · rintro ⟨b, out, msg', hb', hdec, hmsg, hdata, -⟩
    obtain rfl := Option.some.inj (hb.symm.trans hb')
    obtain ⟨e, he, rfl⟩ := decodes_iff.mp hdec
    obtain ⟨end_, rfl, hret⟩ := (PacketDecoder.returns_iff_loop hh).mp he
    cases end_ with
    | all s errs =>
      obtain rfl := Option.some.inj hmsg
      exact ⟨s, errs, hret, hdata⟩
    | fatal s err => cases hmsg
  · rintro ⟨s, errs, hret, hdata⟩
    have hhead := header_of_returns hret
    refine ⟨_, finish .empty (.ok (.all s errs)), s.msg, hb, decodes_iff.mpr ⟨_, ?_, rfl⟩, rfl, hdata, ?_⟩
    · exact (PacketDecoder.returns_iff_loop hh).mpr ⟨_, rfl, hret⟩
    · rw [hhead]
      exact ⟨rfl, rfl, rfl, rfl⟩

theorem not_reencoded {written : List UInt8} (hb : toBytes msg 0 records = some written)
    {others : List (List DecodedField)}
    (hdec : ∃ out, Decodes im raddr .empty written out ∧ out.msg.map Message.dataSets = some others)
    (hne : others ≠ records) : ¬ Reencoded im raddr msg records := by
  rintro ⟨b, out, msg', hb', hdec', hmsg, hdata, -⟩
  obtain rfl := Option.some.inj (hb.symm.trans hb')
  obtain ⟨out', hout, hothers⟩ := hdec
  rw [hout.unique hdec', hmsg, Option.map_some, hdata] at hothers
  exact hne (Option.some.inj hothers).symm

/-! ## Flowsets that are passed over -/

/-- The bytes that are passed over with a flowset that cannot be read: its header, when the length is too small or
goes past the packet, and else its length. -/
def passed (b : List UInt8) : Nat :=
  if (SetHeader.ofBytes b).length.toNat < 4 ∨ b.length < (SetHeader.ofBytes b).length.toNat then 4
  else (SetHeader.ofBytes b).length.toNat

/-- From `b` a decoder that knows no template comes to `w`, over flowsets that are neither of templates nor of the
ids 2 and 3. -/
inductive Passes : List UInt8 → List UInt8 → Prop
  | here (b : List UInt8) : Passes b b
  | skip {b w : List UInt8} (hlen : 4 < b.length) (hid : 4 ≤ (SetHeader.ofBytes b).flowSetID)
      (h : Passes (b.drop (passed b)) w) : Passes b w

theorem Passes.of_eq {b w : List UInt8} (h : b = w) : Passes b w := h ▸ .here b

theorem Passes.next {b w : List UInt8} (h : Passes b w) (hlen : 4 < w.length)
    (hid : 4 ≤ (SetHeader.ofBytes w).flowSetID) : Passes b (w.drop (passed w)) := by
  induction h with
  | here b => exact .skip hlen hid (.here _)
  | skip hlen' hid' _ ih => exact .skip hlen' hid' (ih hlen hid)

theorem recordPass_passed {s : DecodeState} (hmem : s.mem = .empty)
    (hid : 4 ≤ (SetHeader.ofBytes s.reader.data).flowSetID) :
    recordPass im raddr (SetHeader.ofBytes s.reader.data) s.reader.count (loopTemplate raddr s) (loopStart raddr s) =
      .done (loopStart raddr s) := by
  by_cases hg : recordGuard (SetHeader.ofBytes s.reader.data) s.reader.count (loopStart raddr s) = true
  swap
  · exact recordPass_of_not_guard hg
  have hknown : ¬ (SetHeader.ofBytes s.reader.data).flowSetID > 255 := by
    intro hbig
    have hnone := (recordGuard_iff.mp hg).1
    simp only [setTemplate, if_pos hbig, hmem] at hnone
    cases hnone
  rw [recordPass_of_guard hg]
  refine recordBody_reserved (not_isTemplate_of_le hid) fun hd => (isData_iff.mp hd).2 ⟨hid, ?_⟩
  exact UInt16.not_lt.mp hknown

variable (im raddr) in
theorem decodeSet_passed {s : DecodeState} (hlen : 4 < s.reader.len) (hmem : s.mem = .empty)
    (hid : 4 ≤ (SetHeader.ofBytes s.reader.data).flowSetID) (fuel : Nat) :
    ∃ err, decodeSet im raddr (fuel + 1) s =
      some ({ s with reader := s.reader.advance (passed s.reader.data) }, err) := by
  rw [decodeSet_eq hlen.le]
  by_cases h4 : (SetHeader.ofBytes s.reader.data).length < 4
  · have hpassed : passed s.reader.data = 4 := if_pos (Or.inl (UInt16.lt_iff_toNat_lt.mp h4))
    rw [if_pos h4, hpassed]
    exact ⟨_, rfl⟩
  have h4' : ¬ (SetHeader.ofBytes s.reader.data).length.toNat < 4 := fun h => h4 (UInt16.lt_iff_toNat_lt.mpr h)
  rw [if_neg h4, Loop.run_done (congrArg some (recordPass_passed hmem hid)), Option.map_some, loopStart, skipLeftover]
  have hleft : leftover (SetHeader.ofBytes s.reader.data) s.reader.count { s with reader := s.reader.advance 4 } =
      (SetHeader.ofBytes s.reader.data).length.toNat - 4 := by
    rw [leftover, Reader.readCount, Cursor.advance_count]
    omega
  have hlen' : (s.reader.advance 4).len = s.reader.len - 4 := Cursor.len_advance _ _
  dsimp only
  rw [hleft]
  rcases Nat.lt_or_ge s.reader.len (SetHeader.ofBytes s.reader.data).length.toNat with hpast | hle
  · have hpassed : passed s.reader.data = 4 := if_pos (Or.inr hpast)
    rw [if_pos (by omega), Reader.read_of_lt (by omega), hpassed]
    exact ⟨_, rfl⟩
  · have hpassed : passed s.reader.data = (SetHeader.ofBytes s.reader.data).length.toNat :=
      if_neg (not_or.mpr ⟨h4', Nat.not_lt.mpr hle⟩)
    rw [hpassed]
    split_ifs with hpos
    · rw [Reader.read_of_le (by omega), Cursor.advance_advance,
        show 4 + (((SetHeader.ofBytes s.reader.data).length.toNat : Int) - 4).toNat =
          (SetHeader.ofBytes s.reader.data).length.toNat by omega]
      exact ⟨_, rfl⟩
    · rw [show (SetHeader.ofBytes s.reader.data).length.toNat = 4 by omega]
      exact ⟨_, rfl⟩

variable (im raddr) in
theorem Passes.visits {b w : List UInt8} (h : Passes b w) {s : DecodeState} (hdata : s.reader.data = b)
    (hmem : s.mem = .empty) (errs : List Error) :
    ∃ r errs', r.data = w ∧ Loop.Visits (setPass DecodeState.reader (decodeSet im raddr)) (s, errs)
      ({ s with reader := r }, errs') := by
  induction h generalizing s errs with
  | here b => exact ⟨s.reader, errs, hdata, .refl⟩
  | @skip b w hlen hid _ ih =>
    subst hdata
    obtain ⟨err, hset⟩ := decodeSet_passed im raddr hlen hmem hid 0
    obtain ⟨r, errs', hr, hv⟩ := ih (s := { s with reader := s.reader.advance (passed s.reader.data) })
      (Cursor.advance_data _ _) hmem (errs ++ err.toList)
    exact ⟨r, errs', hr, hv.head ⟨1, setPass_of_decodeSet hlen hset⟩⟩

/-- Where nothing but flowsets of unknown templates and of reserved ids is met, no record is read. -/
theorem dataSets_of_passes {s s' : DecodeState} {errs : List Error}
    (hno : ∀ w, Passes s.reader.data w → 4 < w.length → 4 ≤ (SetHeader.ofBytes w).flowSetID) (hmem : s.mem = .empty)
    (hret : Loop.Returns (setPass DecodeState.reader (decodeSet im raddr)) (s, []) (.all s' errs)) :
    s'.msg.dataSets = s.msg.dataSets := by
  obtain ⟨n, hn⟩ := hret
  refine (Loop.run_invariant (P := fun x : DecodeState × List Error => Passes s.reader.data x.1.reader.data ∧
      x.1.mem = .empty ∧ x.1.msg.dataSets = s.msg.dataSets)
    (Q := fun e => ∀ t errs, e = .all t errs → t.msg.dataSets = s.msg.dataSets) ?_ ?_
    ⟨.here _, hmem, rfl⟩ hn) s' errs rfl
  · rintro ⟨t, es⟩ ⟨t', es'⟩ ⟨hp, ht, hdata⟩ hnext
    obtain ⟨hlen, err, hset, -⟩ := setPass_eq_next.mp hnext
    have hid := hno _ hp hlen
    obtain ⟨err', hset'⟩ := decodeSet_passed im raddr hlen ht hid 0
    obtain ⟨rfl, -⟩ := Prod.mk.inj (decodeSet_family.unique hset hset')
    exact ⟨hp.next hlen hid, ht, hdata⟩
  · rintro ⟨t, es⟩ e ⟨-, -, hdata⟩ hdone t' es' rfl
    obtain ⟨rfl, -⟩ := SetsEnd.all.inj (setPass_eq_done.mp hdone).2
    exact hdata

/-! ## Flowsets that are spelled -/

/-- What is written of the template and the records of a message is, from a place on that the decoder comes to,
flowsets that define the templates and hold the records. -/
def Spelled (im : IANAInfoModel) (msg : Message) : Prop :=
  ∃ sets, Passes (words msg.templaRecord msg.setHeaders msg.dataSets) (setsBytes sets) ∧
    (setsBytes sets).length < 2 ^ 16 ∧ PacketOk im [] sets ∧ (decodedSets im [] sets).map Prod.snd = msg.decoded

theorem dataSets_of_decoded {m m' : Message} (h : m.decoded = m'.decoded) : m.dataSets = m'.dataSets := by
  refine List.map_injective_iff.mpr (List.map_injective_iff.mpr fun f g hfg => ?_) h
  obtain ⟨id, value⟩ := f
  obtain ⟨rfl, rfl⟩ := Prod.mk.inj hfg
  rfl

theorem Spelled.reencoded (hs : Spelled im msg) (hv : msg.header.version = 9)
    (hlen : msg.setHeaders.length = msg.dataSets.length) : Reencoded im raddr msg msg.dataSets := by
  obtain ⟨sets, hp, hsmall, hok, hsent⟩ := hs
  obtain ⟨r, errs, hr, hvisits⟩ := hp.visits im raddr
    (s := start raddr .empty (writtenHeader msg 0) ⟨words msg.templaRecord msg.setHeaders msg.dataSets, 20⟩)
    rfl rfl []
  generalize hs : { start raddr .empty (writtenHeader msg 0)
    ⟨words msg.templaRecord msg.setHeaders msg.dataSets, 20⟩ with reader := r } = s at hvisits
  have hempty : s.msg.decoded = [] := by
    rw [← hs]
    rfl
  have hmem : s.collected.mem = stored raddr .empty [] := by
    rw [← hs]
    rfl
  obtain ⟨hall, -, hcol⟩ := hok.collectAll hmem
  obtain ⟨r', hret⟩ := returns_collectAll (s := s) errs hall (by rw [← hs]; exact hr) hsmall
  refine (reencoded_iff_loop hv hlen.le).mpr ⟨_, _, hvisits.returns (setPass_family decodeSet_family) hret, ?_⟩
  refine dataSets_of_decoded (m := (collectAll im raddr s.collected sets).msg) ?_
  rw [hcol.records, hsent]
  change s.msg.decoded ++ _ = _
  rw [hempty, List.nil_append]

/-! ## The template record -/

theorem recordBytes_ne_nil {record : List DecodedField} (h : rule.selects record = true) : recordBytes record ≠ [] := by
  cases record with
  | nil => cases h
  | cons field fields =>
    intro hnil
    simp [recordBytes, putUint16] at hnil

theorem templateBytes_eq {tr : TemplateRecord} (h : 0 < tr.fieldCount) :
    ∃ rest, templateBytes tr = putUint16 tr.templateID ++ (putUint16 tr.fieldCount ++ rest) :=
  ⟨_, by rw [templateBytes, if_pos h]⟩

theorem decodeSet_unknown {s s' : DecodeState} {err : Option Error} {fuel : Nat} (hlen : 4 < s.reader.len)
    (hid : 255 < (SetHeader.ofBytes s.reader.data).flowSetID)
    (hret : s.mem.retrieve (SetHeader.ofBytes s.reader.data).flowSetID raddr = none)
    (hset : decodeSet im raddr fuel s = some (s', err)) : err ≠ none := by
  rcases (decodeSet_eq_some hlen.le).mp hset with ⟨-, hout⟩ | ⟨-, y, hy, hout⟩
  · obtain ⟨-, rfl⟩ := Prod.mk.inj hout
    exact Option.some_ne_none _
  · have hstart : (loopStart raddr s).2 ≠ none := by
      simp only [loopStart, setTemplate, if_pos hid, hret]
      exact Option.some_ne_none _
    have hy' : y.2 ≠ none :=
      setLoop_invariant (P := fun x => x.2 ≠ none) (fun t x' ht _ _ => absurd rfl ht) hstart hy
    obtain ⟨t, e⟩ := y
    rw [show err = (s', err).2 from rfl, hout]
    simp only [skipLeftover]
    split_ifs
    · cases Reader.read (leftover (SetHeader.ofBytes s.reader.data) s.reader.count t).toNat t.reader with
      | ok w r => exact hy'
      | error e r => exact Option.some_ne_none _
    · exact hy'

/-- A template record that has fields is taken for a flowset of an unknown template. -/
theorem err_of_template (hv : msg.header.version = 9) (hcount : 0 < msg.templaRecord.fieldCount)
    (hid : 255 < msg.templaRecord.templateID) (hne : selection rule msg ≠ [])
    (hb : toBytes msg 0 (selection rule msg) = some b) (hdec : Decodes im raddr .empty b out) : out.err ≠ none := by
  obtain ⟨body, hbody, rfl⟩ := Option.map_eq_some_iff.mp hb
  obtain ⟨e, he, rfl⟩ := decodes_iff.mp hdec
  obtain ⟨end_, rfl, hret⟩ := (PacketDecoder.returns_iff_loop (headerOk_toBytes hv 0 body)).mp he
  -- the body starts with the template id and the field count, and goes on with a record
  obtain ⟨rest, htmpl⟩ := templateBytes_eq hcount
  obtain ⟨record, records, hsel⟩ := List.exists_cons_of_ne_nil hne
  have hrecord : rule.selects record = true :=
    List.of_mem_filter (show record ∈ selection rule msg by rw [hsel]; exact List.mem_cons_self)
  have hpos := List.length_pos_iff.mpr (recordBytes_ne_nil hrecord)
  obtain ⟨sets, -, rfl⟩ := Option.map_eq_some_iff.mp hbody
  have hdata : SetHeader.ofBytes (templateBytes msg.templaRecord ++
      (((selection rule msg).map recordBytes).flatten ++ sets)) =
        ⟨msg.templaRecord.templateID, msg.templaRecord.fieldCount⟩ := by
    rw [htmpl, List.append_assoc, List.append_assoc, SetHeader.ofBytes, uint16_put]
    exact congrArg _ (uint16_put _ _)
  have hlen : 4 < (start raddr .empty (writtenHeader msg 0) ⟨templateBytes msg.templaRecord ++
      (((selection rule msg).map recordBytes).flatten ++ sets), 20⟩).reader.len := by
    simp only [start, Cursor.len, htmpl, hsel, List.length_append, List.map_cons, List.flatten_cons, length_putUint16]
    omega
  cases end_ with
  | fatal s err => exact Option.some_ne_none _
  | all s errs =>
    have herrs : errs ≠ [] := by
      refine errs_ne_nil_of_first decodeSet_family hlen (fun n t err hset => ?_) hret
      refine decodeSet_unknown hlen ?_ ?_ hset
      · exact lt_of_lt_of_eq hid (congrArg SetHeader.flowSetID hdata).symm
      · rfl
    exact fun hnone => herrs ((combineErrors_eq_none errs).mp hnone)

/-! ## The result -/

/-- **What the mirror writes for a rule, decoded again.** It is written exactly if the rule takes every record of the
message. It is decoded to the records of the rule if its words spell them. It is not, if the decoder comes to no
header of a template flowset in these words (or of the ids 2 and 3, which it does not leave). And if the template
has fields and an id of a template, the decoder reports an error in any case. -/
theorem reencoded_spelled (im : IANAInfoModel) (raddr raddr' : IP) (mem : MemCache TemplateRecord) (b : List UInt8)
    (out : Outcome) (msg : Message) (rule : ExchangeRule) (hdec : Decodes im raddr mem b out)
    (hmsg : out.msg = some msg) (hne : selection rule msg ≠ []) :
    ((toBytes msg 0 (selection rule msg)).isSome ↔ ∀ record ∈ msg.dataSets, rule.selects record) ∧
      ((∀ record ∈ msg.dataSets, rule.selects record) → Spelled im msg →
        Reencoded im raddr' msg (selection rule msg)) ∧
      (Reencoded im raddr' msg (selection rule msg) → (∀ record ∈ msg.dataSets, rule.selects record) ∧
        ∃ w, Passes (words msg.templaRecord msg.setHeaders msg.dataSets) w ∧ 4 < w.length ∧
          (SetHeader.ofBytes w).flowSetID < 4) ∧
      (0 < msg.templaRecord.fieldCount → 255 < msg.templaRecord.templateID →
        ∀ b' out', toBytes msg 0 (selection rule msg) = some b' → Decodes im raddr' .empty b' out' →
          out'.err ≠ none) := by
  obtain ⟨hv, hheaders⟩ := headers_of_decodes hdec hmsg
  have hrange := toBytes_selection_isSome_iff rule hheaders 0
  refine ⟨hrange, fun hall hs => ?_, fun h => ?_, fun hcount hid b' out' hb' hdec' =>
    err_of_template hv hcount hid hne hb' hdec'⟩
  · rw [selection_of_all hall]
    exact hs.reencoded hv hheaders
  · have hall : ∀ record ∈ msg.dataSets, rule.selects record := by
      obtain ⟨b', -, -, hb', -⟩ := h
      exact hrange.mp (Option.isSome_of_eq_some hb')
    refine ⟨hall, ?_⟩
    rw [selection_of_all hall] at h hne
    by_contra hno
    obtain ⟨s, errs, hret, hdata⟩ := (reencoded_iff_loop hv hheaders.le).mp h
    refine hne (hdata.symm.trans (dataSets_of_passes (fun w hw hlen => ?_) rfl hret))
    by_contra hid
    exact hno ⟨w, hw, hlen, UInt16.not_le.mp hid⟩

/-! ## A template that spells flowsets, and ordinary ones -/

def anyPorts : ExchangeRule := { inPort := -1, outPort := -1, distAddress := "192.0.2.9:9995" }

def interfaces : WireTemplate := { templateID := 256, fields := [⟨10, 4⟩, ⟨14, 4⟩] }

def mirrorHeader : WireHeader := { count := 3, sysUpTime := 1000, unixSecs := 2000, seqNum := 3, srcID := 4 }

/-- A packet of one record. The specifiers of the second template are, as they are written by the mirror, a
template flowset, a data flowset with the record, and a reserved flowset that takes in the rest. -/
def spellingPacket : List UInt8 :=
  packetBytes mirrorHeader
    [.template [interfaces] [], .data 256 [[[0, 0, 0, 1], [0, 0, 0, 2]]] [],
      .template [{ templateID := 300, fields := [⟨0, 0⟩, ⟨0, 0⟩, ⟨0, 16⟩, ⟨256, 2⟩, ⟨10, 4⟩, ⟨14, 4⟩, ⟨256, 12⟩,
        ⟨0, 1⟩, ⟨0, 2⟩, ⟨4, 40⟩, ⟨0, 0⟩, ⟨0, 0⟩] }] []]

def interfacesPacket : List UInt8 :=
  packetBytes mirrorHeader [.template [interfaces] [], .data 256 [[[0, 0, 0, 5], [0, 0, 0, 6]]] []]

def mixedPacket : List UInt8 :=
  packetBytes mirrorHeader
    [.template [interfaces, { templateID := 257, fields := [⟨10, 4⟩, ⟨8, 4⟩] }] [],
      .data 256 [[[0, 0, 0, 5], [0, 0, 0, 6]]] [], .data 257 [[[0, 0, 0, 5], [192, 0, 2, 7]]] []]

def interfacesMessage (tr : TemplateRecord) (input output : UInt32) : Message where
  agentID := IP.string [192, 0, 2, 1]
  header := mirrorHeader.header
  templaRecord := tr
  setHeaders := [⟨256, 12⟩]
  dataSets := [[⟨10, .uint32 input⟩, ⟨14, .uint32 output⟩]]

def spellingTemplate : TemplateRecord where
  templateID := 300
  fieldCount := 12
  fieldSpecifiers := [⟨0, 0⟩, ⟨0, 0⟩, ⟨0, 16⟩, ⟨256, 2⟩, ⟨10, 4⟩, ⟨14, 4⟩, ⟨256, 12⟩, ⟨0, 1⟩, ⟨0, 2⟩, ⟨4, 40⟩, ⟨0, 0⟩,
    ⟨0, 0⟩]

theorem decodes_of_msg (fuel : Nat) (h : (decode im raddr mem b fuel).bind Outcome.msg = some msg) :
    ∃ out, Decodes im raddr mem b out ∧ out.msg = some msg := by
  obtain ⟨out, hout, hmsg⟩ := Option.bind_eq_some_iff.mp h
  exact ⟨out, ⟨fuel, hout⟩, hmsg⟩

variable (records) in
theorem decodes_of_dataSets (fuel : Nat)
    (h : (decode im raddr mem b fuel).bind (fun out => out.msg.map Message.dataSets) = some records) :
    ∃ out, Decodes im raddr mem b out ∧ out.msg.map Message.dataSets = some records := by
  obtain ⟨out, hout, hmsg⟩ := Option.bind_eq_some_iff.mp h
  exact ⟨out, ⟨fuel, hout⟩, hmsg⟩

theorem decodes_spellingPacket :
    ∃ out, Decodes infoModel [192, 0, 2, 1] .empty spellingPacket out ∧
      out.msg = some (interfacesMessage spellingTemplate 1 2) :=
  decodes_of_msg 64 (by decide +kernel)

/-- The flowsets that the template spells, from its third specifier on. -/
def spelledSets : List WireSet :=
  [.template [interfaces] [], .data 256 [[[0, 0, 0, 1], [0, 0, 0, 2]]] [],
    .reserved 4 ([0, 0, 0, 0, 0, 0, 0, 0] ++ ([0, 10, 0, 0, 0, 1, 0, 14, 0, 0, 0, 2] ++
      ([1, 0, 0, 1] ++ [0, 10, 0, 0, 0, 1, 0, 14, 0, 0, 0, 2])))]

theorem spelled_spellingTemplate : Spelled infoModel (interfacesMessage spellingTemplate 1 2) := by
  refine ⟨spelledSets, .skip (by decide) (by decide) (.of_eq (by decide +kernel)), by decide, ⟨?_, by decide,
    ⟨by decide, interfaces, rfl, by decide, by decide, ?_⟩, by decide, by decide, trivial⟩, by decide⟩
  · intro t ht
    rw [List.mem_singleton.mp ht]
    exact ⟨by decide, by decide⟩
  · intro r hr
    rw [List.mem_singleton.mp hr]
    exact .cons rfl (.cons rfl .nil)

theorem reencoded_spelled_template :
    Reencoded infoModel [192, 0, 2, 9] (interfacesMessage spellingTemplate 1 2)
      (selection anyPorts (interfacesMessage spellingTemplate 1 2)) := by
  obtain ⟨out, hdec, hmsg⟩ := decodes_spellingPacket
  exact (reencoded_spelled infoModel [192, 0, 2, 1] [192, 0, 2, 9] .empty spellingPacket out _ anyPorts hdec hmsg
    (by decide)).2.1 (by decide) spelled_spellingTemplate

def mixedMessage : Message where
  agentID := IP.string [192, 0, 2, 1]
  header := mirrorHeader.header
  templaRecord := { templateID := 257, fieldCount := 2, fieldSpecifiers := [⟨10, 4⟩, ⟨8, 4⟩] }
  setHeaders := [⟨256, 12⟩, ⟨257, 12⟩]
  dataSets := [[⟨10, .uint32 5⟩, ⟨14, .uint32 6⟩], [⟨10, .uint32 5⟩, ⟨8, .ip [192, 0, 2, 7]⟩]]

/-- Of the ordinary packet nothing is left, although the rule takes its record; of the mixed packet the rule
takes one record of two, and the index is out of range. -/
theorem reencoded_lost :
    ((∃ out, Decodes infoModel [192, 0, 2, 1] .empty interfacesPacket out ∧
        out.msg = some (interfacesMessage interfaces.record 5 6)) ∧
      ¬ Reencoded infoModel [192, 0, 2, 9] (interfacesMessage interfaces.record 5 6)
        (selection anyPorts (interfacesMessage interfaces.record 5 6))) ∧
      (∃ out, Decodes infoModel [192, 0, 2, 1] .empty mixedPacket out ∧ out.msg = some mixedMessage) ∧
        selection anyPorts mixedMessage ≠ [] ∧ toBytes mixedMessage 0 (selection anyPorts mixedMessage) = none :=
  ⟨⟨decodes_of_msg 64 (by decide +kernel),
      not_reencoded rfl (decodes_of_dataSets [] 64 (by decide +kernel)) (by decide)⟩,
    decodes_of_msg 64 (by decide +kernel), by decide, by decide⟩

end VFlow.Mirror
