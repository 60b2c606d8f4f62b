import VFlow.Ipfix.Framing

/-!
# Which bytes of a packet are read as sets

`Walks` goes from set to set along the declared lengths, as the format prescribes. While the sets fit
(`Fits`) `Decode` enters exactly the sets of the walk, so without template sets on the walk the cache
stays as it is: `decode_keeps_cache`.

A set that does not fit takes `Decode` off the walk: after the error it carries on where the reader
happens to stand, and reads payload as set headers (`decode_poisoned`).
-/

namespace VFlow.Ipfix

open Scan Reader

variable {im : IANAInfoModel} {raddr : IP} {mem : MemCache TemplateRecord} {b r : List UInt8} {s : DecodeState}

/-- The walk over the packet `b` along the declared set lengths comes to the bytes `r`. It stops at a
length below 4, and at one that goes past the packet. -/
inductive Walks (b : List UInt8) : List UInt8 → Prop
  | start : Walks b (b.drop 16)
  | next {r : List UInt8} (h : Walks b r) (hheader : 4 ≤ r.length) (hlen : 4 ≤ (SetHeader.ofBytes r).length.toNat)
      (hin : (SetHeader.ofBytes r).length.toNat ≤ r.length) : Walks b (r.drop (SetHeader.ofBytes r).length.toNat)

/-- The walk meets no set of template records. -/
def NoTemplates (b : List UInt8) : Prop :=
  ∀ r, Walks b r → 4 ≤ r.length → ¬ ((SetHeader.ofBytes r).setID = 2 ∨ (SetHeader.ofBytes r).setID = 3)

/-- The sets on the walk fit. -/
def WalkFits (im : IANAInfoModel) (raddr : IP) (mem : MemCache TemplateRecord) (b : List UInt8) : Prop :=
  ∀ r, Walks b r → 4 < r.length → Fits im raddr mem r

/-- What holds while `Decode` keeps to the walk. -/
structure OnWalk (mem : MemCache TemplateRecord) (b : List UInt8) (s : DecodeState) : Prop where
  mem : s.mem = mem
  walks : Walks b s.reader.data

theorem onWalk_start {header : MessageHeader} {r : Reader}
    (hh : (packetDecoder im raddr mem).HeaderOk b header r) : OnWalk mem b (start raddr mem header r) := by
  obtain ⟨-, rfl⟩ := hh.reader_eq packetDecoder_lawful
  exact ⟨rfl, .start⟩

theorem OnWalk.decodeSet {s' : DecodeState} {err : Option Error} {fuel : Nat} (hs : OnWalk mem b s)
    (hnt : NoTemplates b) (hfits : WalkFits im raddr mem b) (hlen : 4 < s.reader.len)
    (hset : decodeSet im raddr fuel s = some (s', err)) : OnWalk mem b s' := by
  have hfit : Fits im raddr s.mem s.reader.data := hs.mem ▸ hfits _ hs.walks hlen
  obtain ⟨-, hmem, hreader⟩ := decodeSet_of_fits hlen (hnt _ hs.walks (Nat.le_of_lt hlen)) hfit hset
  refine ⟨hmem.trans hs.mem, ?_⟩
  rw [hreader, Cursor.advance_data]
  exact hs.walks.next (Nat.le_of_lt hlen) hfit.1 hfit.2.1

theorem Enters.onWalk (hnt : NoTemplates b) (hfits : WalkFits im raddr mem b) (he : Enters im raddr mem b s) :
    OnWalk mem b s :=
  he.invariant (fun _ _ hh => onWalk_start hh) fun _ _ _ _ hs hlen hset => hs.decodeSet hnt hfits hlen hset

/-- Every set that is entered is decoded, with no error but an unknown template or element. -/
def NoFatal (im : IANAInfoModel) (raddr : IP) (mem : MemCache TemplateRecord) (b : List UInt8) : Prop :=
  ∀ s, Enters im raddr mem b s →
    ∃ fuel s' err, decodeSet im raddr fuel s = some (s', err) ∧ ∀ e ∈ err, e.Skippable

theorem noFatal_of_walkFits (hnt : NoTemplates b) (hfits : WalkFits im raddr mem b) : NoFatal im raddr mem b := by
  intro s he
  have hs := he.onWalk hnt hfits
  have hfit : Fits im raddr s.mem s.reader.data := hs.mem ▸ hfits _ hs.walks he.len
  obtain ⟨fuel, ⟨s', err⟩, hset⟩ := (decodeSet_returns_iff he.len).mpr (not_stalls_of_fits hfit)
  exact ⟨fuel, s', err, hset, (decodeSet_of_fits he.len (hnt _ hs.walks (Nat.le_of_lt he.len)) hfit hset).1⟩

theorem NoFatal.fits (hno : NoFatal im raddr mem b) (hb : b.length ≤ 65535) (he : Enters im raddr mem b s) :
    Fits im raddr s.mem s.reader.data := by
  obtain ⟨fuel, s', err, hset, hskip⟩ := hno s he
  have hwithin := he.within.2.1
  by_contra hnot
  obtain ⟨e, rfl, hfatal⟩ := decodeSet_of_not_fits (by omega) he.len hnot hset
  exact hfatal (hskip e rfl)

theorem NoFatal.enters (hno : NoFatal im raddr mem b) (hb : b.length ≤ 65535) (hnt : NoTemplates b)
    {header : MessageHeader} {r₀ : Reader} (hh : (packetDecoder im raddr mem).HeaderOk b header r₀)
    (hr : Walks b r) (hlen : 4 < r.length) : ∃ s, Enters im raddr mem b s ∧ s.mem = mem ∧ s.reader.data = r := by
  induction hr with
  | start =>
    obtain ⟨-, rfl⟩ := hh.reader_eq packetDecoder_lawful
    exact ⟨_, enters_start hh hlen, rfl, rfl⟩
  | @next r hr hheader hlen4 hin ih =>
    rw [List.length_drop] at hlen
    obtain ⟨s, he, hmem, rfl⟩ := ih (by omega)
    obtain ⟨fuel, s', err, hset, -⟩ := hno s he
    obtain ⟨-, hmem', hreader⟩ := decodeSet_of_fits he.len (hnt _ hr hheader) (hno.fits hb he) hset
    have hdata : s'.reader.data = s.reader.data.drop (SetHeader.ofBytes s.reader.data).length.toNat := by
      rw [hreader, Cursor.advance_data]
    have hlen' : 4 < s'.reader.len := by
      rw [Cursor.len, hdata, List.length_drop]
      exact hlen
    exact ⟨s', he.next hset hlen', hmem'.trans hmem, hdata⟩

/-- **Payload does not change the cache** where the header is refused or the sets on the walk fit: `Decode` returns,
and leaves the cache as it was. This is so exactly if no set that is entered raises a fatal error. -/
theorem decode_keeps_cache (im : IANAInfoModel) (raddr : IP) (mem : MemCache TemplateRecord) (b : List UInt8)
    (hnt : NoTemplates b) :
    (Refused b ∨ WalkFits im raddr mem b → ∃ out, Decodes im raddr mem b out ∧ out.mem = mem) ∧
      (b.length ≤ 65535 → (Refused b ∨ WalkFits im raddr mem b ↔ NoFatal im raddr mem b)) := by
  refine ⟨?_, fun hb => ⟨?_, fun hno => ?_⟩⟩
  · rintro (hrefused | hfits)
    · exact decodes_of_refused im raddr mem hrefused
    obtain ⟨out, hout⟩ : ∃ out, Decodes im raddr mem b out := by
      refine exists_decodes_iff.mpr fun s he => ?_
      obtain ⟨fuel, s', err, hset, -⟩ := noFatal_of_walkFits hnt hfits s he
      exact ⟨fuel, (s', err), hset⟩
    refine ⟨out, hout, ?_⟩
    obtain ⟨e, he, rfl⟩ := decodes_iff.mp hout
    rcases he.invariant (fun _ _ hh => onWalk_start hh)
      (fun _ _ _ _ hs hlen hset => hs.decodeSet hnt hfits hlen hset) with ⟨err, rfl⟩ | ⟨s, errs, hs, rfl⟩
    · rfl
    · exact hs.mem
  · rintro (hrefused | hfits)
    · exact fun s he => absurd he (not_enters_of_refused hrefused)
    · exact noFatal_of_walkFits hnt hfits
  · by_cases hrefused : Refused b
    · exact .inl hrefused
    obtain ⟨header, r₀, hh⟩ := headerOk_iff.mpr hrefused
    refine .inr fun r hr hlen => ?_
    obtain ⟨s, he, hmem, hdata⟩ := hno.enters hb hnt hh hr hlen
    have hfit := hno.fits hb he
    rwa [hmem, hdata] at hfit

/-- A list of places that holds the first one and is closed under the steps of the walk holds them all. -/
theorem Walks.mem_of_closed {rs : List (List UInt8)} (hstart : b.drop 16 ∈ rs)
    (hnext : ∀ r ∈ rs, 4 ≤ (SetHeader.ofBytes r).length.toNat → (SetHeader.ofBytes r).length.toNat ≤ r.length →
      r.drop (SetHeader.ofBytes r).length.toNat ∈ rs) (h : Walks b r) : r ∈ rs := by
  induction h with
  | start => exact hstart
  | next _ _ hlen hin ih => exact hnext _ ih hlen hin

theorem noTemplates_of_closed {rs : List (List UInt8)} (hwalk : ∀ r, Walks b r → r ∈ rs)
    (hid : ∀ r ∈ rs, ¬ ((SetHeader.ofBytes r).setID = 2 ∨ (SetHeader.ofBytes r).setID = 3)) : NoTemplates b :=
  fun r hr _ => hid r (hwalk r hr)

theorem decode_keeps_cache_unknownTemplate :
    NoTemplates noFieldsDataPacket ∧ WalkFits infoModel [192, 0, 2, 1] .empty noFieldsDataPacket ∧
      ∃ out, Decodes infoModel [192, 0, 2, 1] .empty noFieldsDataPacket out ∧ out.mem = .empty := by
  have hwalk : ∀ r, Walks noFieldsDataPacket r → r ∈ [noFieldsDataPacket.drop 16, []] :=
    fun r hr => hr.mem_of_closed (by decide) (by decide)
  have hnt : NoTemplates noFieldsDataPacket := noTemplates_of_closed hwalk (by decide)
  have hfits : WalkFits infoModel [192, 0, 2, 1] .empty noFieldsDataPacket := by
    intro r hr hlen
    rcases List.mem_cons.mp (hwalk r hr) with rfl | hr
    · exact ⟨by decide, by decide, fun _ tr htr => nomatch htr⟩
    · rw [List.mem_singleton.mp hr] at hlen
      simp at hlen
  exact ⟨hnt, hfits, (decode_keeps_cache infoModel [192, 0, 2, 1] .empty noFieldsDataPacket hnt).1 (.inr hfits)⟩

def threeFieldsCache : MemCache TemplateRecord :=
  MemCache.empty.insert 256 [192, 0, 2, 1]
    { templateID := 256, fieldCount := 3,
      fieldSpecifiers := [{ elementID := 8, length := 4, enterpriseNo := 0 },
        { elementID := 12, length := 4, enterpriseNo := 0 }, { elementID := 7, length := 2, enterpriseNo := 0 }] }

/-- Two data sets of template 256, the first with one record and 2 bytes of padding, the second with two
records. From the fifth byte on these records look like a template set. -/
def payloadPacket : List UInt8 :=
  sampleHeader ++ [1, 0, 0, 16, 10, 0, 0, 1, 10, 0, 0, 2, 0, 80, 0, 0] ++
    [1, 0, 0, 24, 10, 0, 0, 1, 0, 2, 0, 12, 1, 44, 0, 1, 0, 8, 0, 4, 0, 0, 0, 0]

/-- After the first record the padding is read as another one, up to the fifth byte of the second set's
payload; the skip fails, and `Decode` carries on there and stores template 300. -/
theorem decode_poisoned :
    NoTemplates payloadPacket ∧ ∃ out, Decodes infoModel [192, 0, 2, 1] threeFieldsCache payloadPacket out ∧
      threeFieldsCache.retrieve 300 [192, 0, 2, 1] = none ∧ (out.mem.retrieve 300 [192, 0, 2, 1]).isSome ∧
      out.mem ≠ threeFieldsCache := by
  have hwalk : ∀ r, Walks payloadPacket r → r ∈ [payloadPacket.drop 16, payloadPacket.drop 32, []] :=
    fun r hr => hr.mem_of_closed (by decide) (by decide)
  refine ⟨noTemplates_of_closed hwalk (by decide), _, ⟨6, rfl⟩, rfl, rfl, fun heq => ?_⟩
  exact absurd (congrArg (fun mem => (mem.retrieve 300 [192, 0, 2, 1]).isSome) heq) (by decide)

end VFlow.Ipfix
