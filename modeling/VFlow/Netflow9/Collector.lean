import VFlow.Netflow9.Framing
import VFlow.Netflow9.Wire

/-!
# What the decoder makes of the flowsets of a packet

The bytes of a flowset, wherever they stand in a packet, make `decodeSet` do what the flowset says: a
template flowset stores its records, a data flowset appends its records, a reserved flowset is ignored.
In each case the reader is left at the end of the flowset.

Template and data records go through the same loop, so it is followed once, over records of which only
the bytes and the effect are known (`RecordWord`, `record_loop`). The condition of the loop takes 4 bytes
or less for padding, and a record has more.
-/

namespace VFlow.Netflow9

open Scan Reader BigEndian

variable {im : IANAInfoModel} {raddr : IP} {h : SetHeader} {tr : TemplateRecord} {s t : DecodeState}
  {set : WireSet} {sets : List WireSet} {rest pad : List UInt8} {k : Nat}

structure Collected where
  mem : MemCache TemplateRecord
  msg : Message

def DecodeState.collected (s : DecodeState) : Collected := { mem := s.mem, msg := s.msg }

def Collected.state (c : Collected) (r : Reader) : DecodeState := { reader := r, mem := c.mem, msg := c.msg }

def Collected.store (raddr : IP) (c : Collected) (tr : TemplateRecord) : Collected :=
  { mem := c.mem.insert tr.templateID raddr tr, msg := { c.msg with templaRecord := tr } }

def Collected.append (h : SetHeader) (c : Collected) (data : List DecodedField) : Collected :=
  { c with msg := { c.msg with dataSets := c.msg.dataSets ++ [data], setHeaders := c.msg.setHeaders ++ [h] } }

/-! ## The record loop -/

/-- The bytes `w` are a record of the flowset, and reading it has the effect `f`. -/
structure RecordWord (im : IANAInfoModel) (raddr : IP) (h : SetHeader) (tr : TemplateRecord) (w : List UInt8)
    (f : Collected → Collected) : Prop where
  five_le : 5 ≤ w.length
  body : ∀ (t : DecodeState) (rest : List UInt8), t.reader.data = w ++ rest →
    recordBody im raddr h tr (t, none) = .next ((f t.collected).state (t.reader.advance w.length), none)

theorem recordGuard_of_reader {r : Reader} (hread : t.reader = r.advance k) :
    recordGuard h r.count (t, none) = true ↔ k + 4 < h.length.toNat ∧ 4 < r.len - k := by
  simp only [recordGuard_iff, leftover, readCount, hread, Cursor.advance_count, Cursor.len_advance, true_and]
  omega

theorem record_loop {ws : List (List UInt8 × (Collected → Collected))}
    (hws : ∀ q ∈ ws, RecordWord im raddr h tr q.1 q.2) (hpad : pad.length ≤ 4) {r : Reader}
    (hread : t.reader = r.advance k) (hdata : t.reader.data = (ws.map Prod.fst).flatten ++ (pad ++ rest))
    (hlen : k + (ws.map Prod.fst).flatten.length + pad.length = h.length.toNat) :
    RecordsEnd (recordPass im raddr h r.count tr) (t, none)
      ((ws.foldl (fun c q => q.2 c) t.collected).state (r.advance (k + (ws.map Prod.fst).flatten.length)), none) := by
  have htlen : r.len - k = (ws.map Prod.fst).flatten.length + (pad.length + rest.length) := by
    rw [← Cursor.len_advance, ← hread, Cursor.len, hdata, List.length_append, List.length_append]
  induction ws generalizing t k with
  | nil =>
    refine RecordsEnd.of_done ?_
    simp only [List.map_nil, List.flatten_nil, List.length_nil, Nat.add_zero, List.foldl_nil] at hlen ⊢
    rw [recordPass_of_not_guard, ← hread]
    · rfl
    · rw [recordGuard_of_reader hread]
      omega
  | cons q ws ih =>
    obtain ⟨w, f⟩ := q
    have hw : RecordWord im raddr h tr w f := hws (w, f) List.mem_cons_self
    have hfive := hw.five_le
    simp only [List.map_cons, List.flatten_cons, List.length_append, List.append_assoc] at hdata hlen htlen ⊢
    have hg : recordGuard h r.count (t, none) = true := by
      rw [recordGuard_of_reader hread]
      omega
    have hpass : recordPass im raddr h r.count tr (t, none) =
        .next ((f t.collected).state (t.reader.advance w.length), none) := by
      rw [recordPass_of_guard hg]
      exact hw.body t _ hdata
    have hnext : ((f t.collected).state (t.reader.advance w.length)).reader = r.advance (k + w.length) := by
      rw [← Cursor.advance_advance, ← hread]
      rfl
    have hdata' : ((f t.collected).state (t.reader.advance w.length)).reader.data =
        (ws.map Prod.fst).flatten ++ (pad ++ rest) := by
      change t.reader.data.drop w.length = _
      rw [hdata, List.drop_left]
    have hend := ih (fun q hq => hws q (List.mem_cons_of_mem _ hq)) hnext hdata' (by omega) (by omega)
    rw [Nat.add_assoc] at hend
    exact RecordsEnd.of_next hpass hend

/-! ## A flowset at the reader -/

structure AtWireSet (r : Reader) (set : WireSet) (rest : List UInt8) : Prop where
  data : r.data = set.bytes ++ rest
  small : set.bytes.length < 2 ^ 16

theorem AtWireSet.atSet {r : Reader} (hs : AtWireSet r set rest) : AtSet r set.id set.body rest :=
  ⟨hs.data, by rw [← length_bytes]; exact hs.small⟩

section atSet

variable (hs : AtWireSet s.reader set rest)
include hs

theorem header_of_atSet : SetHeader.ofBytes s.reader.data = set.header := by
  rw [hs.data, setHeader_bytes]

theorem length_of_atSet : set.header.length.toNat = set.bytes.length := by
  rw [WireSet.header, toNat_ofNat_of_lt hs.atSet.small, length_bytes]

theorem decodeSet_of_atSet {x y : DecodeState × Option Error}
    (htr : loopTemplate raddr s = tr) (hstart : loopStart raddr s = x)
    (hend : RecordsEnd (recordPass im raddr set.header s.reader.count tr) x y)
    (hread : y.1.reader = s.reader.advance k) (hk : k ≤ set.bytes.length) :
    ∃ fuel, decodeSet im raddr fuel s =
      some (y.1.collected.state (s.reader.advance set.bytes.length), y.2) := by
  obtain ⟨n, hn⟩ := hend
  obtain ⟨t, e⟩ := y
  have hl := length_of_atSet hs
  have hslen := hs.atSet.len
  rw [← length_bytes] at hslen
  have h4 : ¬ set.header.length < 4 := by
    rw [UInt16.lt_iff_toNat_lt, hl, length_bytes]
    change ¬ _ < 4
    omega
  refine ⟨n, (decodeSet_eq_some (by rw [hs.atSet.len]; omega)).mpr (Or.inr ?_)⟩
  rw [header_of_atSet hs]
  refine ⟨h4, (t, e), ?_, ?_⟩
  · rw [setLoop, header_of_atSet hs, htr, hstart]
    exact hn
  · dsimp only at hread ⊢
    have hleft : leftover set.header s.reader.count t = set.bytes.length - k := by
      simp only [leftover, readCount, hread, Cursor.advance_count, hl]
      omega
    simp only [skipLeftover, hleft]
    split_ifs with hpos
    · rw [read_of_le (by rw [hread, Cursor.len_advance]; omega)]
      dsimp only
      rw [hread, Cursor.advance_advance, show k + ((set.bytes.length : Int) - k).toNat = set.bytes.length by omega]
      rfl
    · rw [show set.bytes.length = k by omega, ← hread]
      rfl

theorem decodeSet_records
    (hstart : setTemplate raddr set.header { s with reader := s.reader.advance 4 } = (tr, none))
    {ws : List (List UInt8 × (Collected → Collected))}
    (hws : ∀ q ∈ ws, RecordWord im raddr set.header tr q.1 q.2) (hbody : set.body = (ws.map Prod.fst).flatten ++ pad)
    (hpad : pad.length ≤ 4) :
    ∃ fuel, decodeSet im raddr fuel s =
      some ((ws.foldl (fun c q => q.2 c) s.collected).state (s.reader.advance set.bytes.length), none) := by
  have htr : loopTemplate raddr s = tr := by rw [loopTemplate, header_of_atSet hs, hstart]
  have hstate : loopStart raddr s = ({ s with reader := s.reader.advance 4 }, none) := by
    rw [loopStart, header_of_atSet hs, hstart]
  have hend := record_loop (t := { s with reader := s.reader.advance 4 }) hws hpad rfl
    (by rw [hs.atSet.data_advance, hbody, List.append_assoc])
    (by rw [length_of_atSet hs, length_bytes, hbody, List.length_append, Nat.add_assoc])
  exact decodeSet_of_atSet hs htr hstate hend rfl (by
    rw [length_bytes, hbody, List.length_append]
    omega)

end atSet

/-! ## The kinds of flowsets -/

theorem WireTemplate.Ok.word {u : WireTemplate} (hok : u.Ok) (hid : h.flowSetID = 0) :
    RecordWord im raddr h tr u.encode fun c => c.store raddr u.record where
  five_le := Nat.le_trans (by decide) hok.eight_le
  body t rest hdata := by
    have hread : readTemplate h t.reader = (u.record, none, t.reader.advance u.encode.length) := by
      have := unmarshal_encode hok rest t.reader.count
      rw [readTemplate, if_pos hid, Cursor.advance, hdata, List.drop_left]
      rwa [← hdata] at this
    rw [recordBody_template (Or.inl hid), hread]
    rfl

theorem recordWord_data {r : Record} (hd : h.IsData) (hk : tr.Known im) (hfive : 5 ≤ tr.recordLength)
    (hm : tr.Matches r) : RecordWord im raddr h tr r.flatten fun c => c.append h (recordValue im tr r) where
  five_le := by rwa [hm.length_flatten]
  body t rest hdata := by
    have hdec := parses_decodeData hk hm rest t.reader.count
    rw [← hdata] at hdec
    rw [recordBody_data hd, show decodeData im tr t.reader = _ from hdec, Cursor.advance, hdata, List.drop_left]
    rfl

def WireSet.collect (im : IANAInfoModel) (raddr : IP) (c : Collected) (set : WireSet) : Collected :=
  match set with
  | template records _ => records.foldl (fun c t => c.store raddr t.record) c
  | data id records _ =>
    match c.mem.retrieve id raddr with
    | none => c
    | some tr => records.foldl (fun c r => c.append set.header (recordValue im tr r)) c
  | reserved _ _ => c

/-- The flowset is well formed, given the cache: template records have a field, data records are those of
a known template, of known elements and of 5 bytes at least, and the padding has at most 4 bytes. -/
def WireSet.Ok (im : IANAInfoModel) (raddr : IP) (mem : MemCache TemplateRecord) : WireSet → Prop
  | template records pad => (∀ t ∈ records, t.Ok) ∧ pad.length ≤ 4
  | data id records pad => 255 < id ∧ (∃ tr, mem.retrieve id raddr = some tr ∧ tr.Known im ∧
      5 ≤ tr.recordLength ∧ ∀ r ∈ records, tr.Matches r) ∧ pad.length ≤ 4
  | reserved id _ => 4 ≤ id ∧ id ≤ 255

theorem decodeSet_collect (hok : set.Ok im raddr s.mem) (hs : AtWireSet s.reader set rest) :
    ∃ fuel, decodeSet im raddr fuel s =
      some ((set.collect im raddr s.collected).state (s.reader.advance set.bytes.length), none) := by
  cases set with
  | template records pad =>
    have hws : ∀ q ∈ records.map fun t => (t.encode, fun c : Collected => c.store raddr t.record),
        RecordWord im raddr (WireSet.template records pad).header {} q.1 q.2 := by
      simp only [List.mem_map]
      rintro q ⟨t, ht, rfl⟩
      exact (hok.1 t ht).word rfl
    have hres := decodeSet_records hs rfl hws (by rw [List.map_map]; rfl) hok.2
    rw [List.foldl_map] at hres
    exact hres
  | data id records pad =>
    obtain ⟨hid, ⟨tr, hret, hk, hfive, hrs⟩, hpad⟩ := hok
    have hws : ∀ q ∈ records.map fun r => (r.flatten,
          fun c : Collected => c.append (WireSet.data id records pad).header (recordValue im tr r)),
        RecordWord im raddr (WireSet.data id records pad).header tr q.1 q.2 := by
      simp only [List.mem_map]
      rintro q ⟨r, hr, rfl⟩
      exact recordWord_data (Or.inr (Or.inr hid)) hk hfive (hrs r hr)
    have hstart : setTemplate raddr (WireSet.data id records pad).header
        { s with reader := s.reader.advance 4 } = (tr, none) := by
      have hid' : (WireSet.data id records pad).header.flowSetID > 255 := hid
      rw [setTemplate, if_pos hid']
      simp only [WireSet.header, WireSet.id, hret]
    have hres := decodeSet_records hs hstart hws (by rw [List.map_map]; rfl) hpad
    rw [List.foldl_map] at hres
    have hret' : s.collected.mem.retrieve id raddr = some tr := hret
    simp only [WireSet.collect, hret']
    exact hres
  | reserved id body =>
    have htr : ¬ id > 255 := UInt16.not_lt.mpr hok.2
    have hstart : loopStart raddr s = ({ s with reader := s.reader.advance 4 }, none) := by
      rw [loopStart, header_of_atSet hs, setTemplate, if_neg (by exact htr)]
    have hnt : ¬ (WireSet.reserved id body).header.IsTemplate := not_isTemplate_of_le hok.1
    have hnd : ¬ (WireSet.reserved id body).header.IsData := fun hd => (isData_iff.mp hd).2 hok
    have hpass : recordPass im raddr (WireSet.reserved id body).header s.reader.count (loopTemplate raddr s)
        ({ s with reader := s.reader.advance 4 }, none) = .done ({ s with reader := s.reader.advance 4 }, none) := by
      rw [recordPass, recordBody_reserved hnt hnd, ite_self]
    exact decodeSet_of_atSet hs rfl hstart (RecordsEnd.of_done hpass) rfl (by rw [length_bytes]; omega)

def collectAll (im : IANAInfoModel) (raddr : IP) (c : Collected) (sets : List WireSet) : Collected :=
  sets.foldl (WireSet.collect im raddr) c

def AllOk (im : IANAInfoModel) (raddr : IP) (c : Collected) : List WireSet → Prop
  | [] => True
  | set :: sets => set.Ok im raddr c.mem ∧ AllOk im raddr (set.collect im raddr c) sets

theorem collect_of_body_nil {c : Collected} (hok : set.Ok im raddr c.mem) (hbody : set.body = []) :
    set.collect im raddr c = c := by
  cases set with
  | template records pad =>
    cases records with
    | nil => rfl
    | cons t ts =>
      have := (hok.1 t List.mem_cons_self).eight_le
      simp only [WireSet.body, List.map_cons, List.flatten_cons, List.append_eq_nil_iff] at hbody
      simp [hbody.1.1] at this
  | data id records pad =>
    obtain ⟨-, ⟨tr, hret, -, hfive, hrs⟩, -⟩ := hok
    cases records with
    | nil => simp only [WireSet.collect, hret, List.foldl_nil]
    | cons r rs =>
      have hlen := (hrs r List.mem_cons_self).length_flatten
      simp only [WireSet.body, List.map_cons, List.flatten_cons, List.append_eq_nil_iff] at hbody
      rw [hbody.1.1, List.length_nil] at hlen
      omega
  | reserved id body => rfl

theorem returns_collectAll (errs : List Error) (hok : AllOk im raddr s.collected sets)
    (hdata : s.reader.data = setsBytes sets) (hsmall : (setsBytes sets).length < 2 ^ 16) :
    ∃ r, Loop.Returns (setPass DecodeState.reader (decodeSet im raddr)) (s, errs)
      (.all ((collectAll im raddr s.collected sets).state r) errs) := by
  have hfam : Loop.Family (setPass DecodeState.reader (decodeSet im raddr)) := setPass_family decodeSet_family
  induction sets generalizing s with
  | nil =>
    refine ⟨s.reader, Loop.Returns.of_done hfam (n := 0) (setPass_eq_done.mpr ⟨?_, rfl⟩)⟩
    rw [Cursor.len, hdata]
    exact Nat.zero_le _
  | cons set sets ih =>
    obtain ⟨hset, hsets⟩ := hok
    by_cases hlen : 4 < s.reader.len
    · rw [setsBytes_cons] at hdata
      rw [setsBytes_cons, List.length_append] at hsmall
      obtain ⟨fuel, hfuel⟩ := decodeSet_collect hset ⟨hdata, by omega⟩
      have hnext : ((set.collect im raddr s.collected).state (s.reader.advance set.bytes.length)).reader.data =
          setsBytes sets := by
        change s.reader.data.drop set.bytes.length = _
        rw [hdata, List.drop_left]
      obtain ⟨r, hr⟩ := ih (s := (set.collect im raddr s.collected).state (s.reader.advance set.bytes.length))
        hsets hnext (by omega)
      refine ⟨r, Loop.Returns.of_next hfam (setPass_of_decodeSet hlen hfuel) ?_⟩
      rwa [Option.toList_none, List.append_nil]
    · -- nothing is left but a header
      obtain ⟨rfl, hbody⟩ := sets_eq_nil (show (setsBytes (set :: sets)).length ≤ 4 by
        rw [← hdata]
        exact Nat.not_lt.mp hlen)
      refine ⟨s.reader, Loop.Returns.of_done hfam (n := 0) (setPass_eq_done.mpr ⟨Nat.not_lt.mp hlen, ?_⟩)⟩
      rw [collectAll, List.foldl_cons, List.foldl_nil, collect_of_body_nil hset hbody]
      rfl

theorem headerOk_packetBytes (mem : MemCache TemplateRecord) (h : WireHeader) (sets : List WireSet) :
    (packetDecoder im raddr mem).HeaderOk (packetBytes h sets) h.header ⟨setsBytes sets, 20⟩ :=
  ⟨unmarshal_packetBytes h sets, rfl⟩

def Collected.start (raddr : IP) (mem : MemCache TemplateRecord) (h : WireHeader) : Collected :=
  { mem, msg := { agentID := raddr.string, header := h.header } }

/-- **`Decode` of a well-formed packet** collects what its flowsets say. -/
theorem decodes_packetBytes {mem : MemCache TemplateRecord} {h : WireHeader}
    (hok : AllOk im raddr (.start raddr mem h) sets) (hlen : (packetBytes h sets).length ≤ 65535) :
    Decodes im raddr mem (packetBytes h sets)
      { msg := some (collectAll im raddr (.start raddr mem h) sets).msg, err := none,
        mem := (collectAll im raddr (.start raddr mem h) sets).mem } := by
  rw [length_packetBytes] at hlen
  obtain ⟨r, hr⟩ := returns_collectAll (s := start raddr mem h.header ⟨setsBytes sets, 20⟩) [] hok rfl (by omega)
  exact decodes_iff.mpr ⟨_, (PacketDecoder.returns_iff_loop (headerOk_packetBytes mem h sets)).mpr ⟨_, rfl, hr⟩, rfl⟩

end VFlow.Netflow9
