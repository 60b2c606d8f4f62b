import VFlow.Netflow9.Packet

/-!
# What decoding a NetFlow v9 packet takes from the cache

As for IPFIX, the cache reaches the result of `Decode` only through the template that a flowset with an id
above 255 finds (`Decodes.agree`).
-/

namespace VFlow.Netflow9

open Scan Reader

variable {im : IANAInfoModel} {raddr : IP} {mem mem' : MemCache TemplateRecord} {b : List UInt8}
  {h : SetHeader} {startCount : Nat} {tr : TemplateRecord} {P : UInt16 → Prop} {s s' t : DecodeState}
  {err err' : Option Error} {fuel : Nat} {out : Outcome}

structure Agree (raddr : IP) (P : UInt16 → Prop) (s t : DecodeState) : Prop where
  reader : t.reader = s.reader
  msg : t.msg = s.msg
  mem : ∀ id, P id → t.mem.retrieve id raddr = s.mem.retrieve id raddr

theorem Agree.with (hst : Agree raddr P s t) (r : Reader) (msg : Message) :
    Agree raddr P { s with reader := r, msg } { t with reader := r, msg } :=
  ⟨rfl, rfl, hst.mem⟩

theorem Agree.insert (hst : Agree raddr P s t) (r : Reader) (msg : Message) (tr : TemplateRecord) :
    Agree raddr P { reader := r, mem := s.mem.insert tr.templateID raddr tr, msg }
      { reader := r, mem := t.mem.insert tr.templateID raddr tr, msg } :=
  ⟨rfl, rfl, fun id hid => MemCache.retrieve_insert_congr tr (hst.mem id hid)⟩

/-! ## One pass -/

theorem recordBody_agree (hst : Agree raddr P s t) :
    StepRelated (Agree raddr P) (recordBody im raddr h tr (s, err)) (recordBody im raddr h tr (t, err)) := by
  obtain ⟨r, m, msg⟩ := s
  obtain ⟨r', m', msg'⟩ := t
  obtain rfl : r' = r := hst.reader
  obtain rfl : msg' = msg := hst.msg
  by_cases ht : h.IsTemplate
  · rw [recordBody_template ht, recordBody_template ht]
    dsimp only
    split
    · exact .next (hst.insert _ _ _)
    · exact .next (hst.with _ _)
  · by_cases hd : h.IsData
    · rw [recordBody_data hd, recordBody_data hd]
      dsimp only
      split
      · exact .next (hst.with _ _)
      · exact .next (hst.with _ _)
    · rw [recordBody_reserved ht hd, recordBody_reserved ht hd]
      exact .done hst

theorem leftover_agree (hst : Agree raddr P s t) : leftover h startCount t = leftover h startCount s := by
  rw [leftover, leftover, hst.reader]

theorem recordPass_agree (hst : Agree raddr P s t) :
    StepRelated (Agree raddr P) (recordPass im raddr h startCount tr (s, err))
      (recordPass im raddr h startCount tr (t, err)) := by
  have hguard : recordGuard h startCount (t, err) = recordGuard h startCount (s, err) := by
    rw [recordGuard, recordGuard, leftover_agree hst, hst.reader]
  unfold recordPass
  rw [hguard]
  split_ifs
  · exact recordBody_agree hst
  · exact .done hst

/-! ## One flowset -/

theorem skipLeftover_agree (h : SetHeader) (startCount : Nat) (err : Option Error) (hst : Agree raddr P s t) :
    (skipLeftover h startCount (t, err)).2 = (skipLeftover h startCount (s, err)).2 ∧
      Agree raddr P (skipLeftover h startCount (s, err)).1 (skipLeftover h startCount (t, err)).1 := by
  unfold skipLeftover
  dsimp only
  rw [leftover_agree hst, hst.reader]
  split_ifs
  · split
    · exact ⟨rfl, rfl, hst.msg, hst.mem⟩
    · exact ⟨rfl, rfl, hst.msg, hst.mem⟩
  · exact ⟨rfl, hst⟩

def LooksUp (s : DecodeState) (id : UInt16) : Prop :=
  (SetHeader.ofBytes s.reader.data).flowSetID = id ∧ 255 < id ∧ ¬ (SetHeader.ofBytes s.reader.data).length < 4

theorem setTemplate_agree
    (hlook : 255 < h.flowSetID → t.mem.retrieve h.flowSetID raddr = s.mem.retrieve h.flowSetID raddr) :
    setTemplate raddr h t = setTemplate raddr h s := by
  unfold setTemplate
  split_ifs with hid
  · rw [hlook hid]
  · rfl

theorem decodeSet_agree (hst : Agree raddr P s t) (hlen : 4 < s.reader.len)
    (hlook : ∀ id, LooksUp s id → t.mem.retrieve id raddr = s.mem.retrieve id raddr)
    (hset : decodeSet im raddr fuel s = some (s', err)) :
    ∃ t', decodeSet im raddr fuel t = some (t', err) ∧ Agree raddr P s' t' := by
  have hlen' : 4 < t.reader.len := by rwa [hst.reader]
  have hstart : Agree raddr P { s with reader := s.reader.advance 4 } { t with reader := s.reader.advance 4 } :=
    ⟨rfl, hst.msg, hst.mem⟩
  rcases (decodeSet_eq_some hlen.le).mp hset with ⟨h4, hout⟩ | ⟨h4, y, hy, hout⟩
  · obtain ⟨rfl, rfl⟩ := Prod.mk.inj hout
    refine ⟨_, (decodeSet_eq_some hlen'.le).mpr (Or.inl ?_), hstart⟩
    rw [hst.reader]
    exact ⟨h4, rfl⟩
  · have htr : setTemplate raddr (SetHeader.ofBytes s.reader.data) { t with reader := s.reader.advance 4 } =
        setTemplate raddr (SetHeader.ofBytes s.reader.data) { s with reader := s.reader.advance 4 } :=
      setTemplate_agree fun hid => hlook _ ⟨rfl, hid, h4⟩
    obtain ⟨u, hu, hyu⟩ := recordLoop_related (fun s t err hst => recordPass_agree hst) hstart hy
    obtain ⟨hskip, hagree⟩ := skipLeftover_agree (SetHeader.ofBytes s.reader.data) s.reader.count y.2 hyu
    rw [show (y.1, y.2) = y from rfl, ← hout] at hskip hagree
    refine ⟨_, (decodeSet_eq_some hlen'.le).mpr (Or.inr ?_), hagree⟩
    rw [hst.reader]
    refine ⟨h4, (u, y.2), ?_, ?_⟩
    · rw [setLoop, loopStart, loopTemplate, hst.reader, htr]
      exact hu
    · exact Prod.ext rfl hskip.symm

/-! ## One packet -/

theorem sameCode (im : IANAInfoModel) (raddr : IP) (mem mem' : MemCache TemplateRecord) :
    PacketDecoder.SameCode (packetDecoder im raddr mem) (packetDecoder im raddr mem') :=
  ⟨rfl, rfl, rfl, rfl⟩

def EntersBoth (im : IANAInfoModel) (raddr : IP) (mem mem' : MemCache TemplateRecord) (b : List UInt8)
    (s t : DecodeState) : Prop :=
  PacketDecoder.EntersBoth (packetDecoder im raddr mem) (packetDecoder im raddr mem') b s t

/-- Every flowset of the packet finds the same template in both decodings. -/
def SameTemplates (im : IANAInfoModel) (raddr : IP) (mem mem' : MemCache TemplateRecord) (b : List UInt8) : Prop :=
  ∀ s t, EntersBoth im raddr mem mem' b s t → ∀ id, LooksUp s id →
    t.mem.retrieve id raddr = s.mem.retrieve id raddr

theorem Decodes.agree (hsame : SameTemplates im raddr mem mem' b)
    (hmem : ∀ id, P id → mem'.retrieve id raddr = mem.retrieve id raddr) (hdec : Decodes im raddr mem b out) :
    ∃ out', Decodes im raddr mem' b out' ∧ out'.msg = out.msg ∧ out'.err = out.err ∧
      ∀ id, P id → out'.mem.retrieve id raddr = out.mem.retrieve id raddr := by
  obtain ⟨e, he, rfl⟩ := decodes_iff.mp hdec
  rcases he.related (R := Agree raddr P) (sameCode im raddr mem mem') (fun s t hst => hst.reader.symm)
    (fun header r => ⟨rfl, rfl, hmem⟩)
    (fun n s t s' err hboth hst hset =>
      decodeSet_agree hst (PacketDecoder.EntersBoth.len hboth) (hsame s t hboth) hset)
    with ⟨err, rfl, hq⟩ | ⟨s, t, errs, rfl, hq, hst⟩
  · exact ⟨_, decodes_iff.mpr ⟨_, hq, rfl⟩, rfl, rfl, hmem⟩
  · refine ⟨_, decodes_iff.mpr ⟨_, hq, rfl⟩, ?_, rfl, hst.mem⟩
    exact congrArg some hst.msg

def Asks (im : IANAInfoModel) (raddr : IP) (mem : MemCache TemplateRecord) (b : List UInt8) (id : UInt16) : Prop :=
  ∃ s, Enters im raddr mem b s ∧ LooksUp s id

theorem sameTemplates_of_asks (hasks : ∀ id, Asks im raddr mem b id → P id)
    (hmem : ∀ id, P id → mem'.retrieve id raddr = mem.retrieve id raddr) : SameTemplates im raddr mem mem' b := by
  intro s t hboth id hid
  obtain ⟨he, hst⟩ := PacketDecoder.EntersBoth.invariant (p := packetDecoder im raddr mem)
    (q := packetDecoder im raddr mem') (R := Agree raddr P) (fun header r => ⟨rfl, rfl, hmem⟩)
    (fun n s t s' t' err err' he hst hs ht => by
      obtain ⟨u, hu, hagree⟩ :=
        decodeSet_agree hst (Enters.len he) (fun id hid => hst.mem id (hasks id ⟨s, he, hid⟩)) hs
      obtain ⟨rfl, -⟩ := Prod.mk.inj (Option.some.inj (hu.symm.trans ht))
      exact hagree) hboth
  exact hst.mem id (hasks id ⟨s, he, hid⟩)

theorem sameTemplates_of_agree (hmem : ∀ id, mem'.retrieve id raddr = mem.retrieve id raddr) :
    SameTemplates im raddr mem mem' b :=
  sameTemplates_of_asks (P := fun _ => True) (fun _ _ => trivial) fun id _ => hmem id

/-! ## What decoding does to the cache -/

def Accepts (im : IANAInfoModel) (raddr : IP) (mem : MemCache TemplateRecord) (b : List UInt8) (tr : TemplateRecord) :
    Prop :=
  ∃ s t t', Enters im raddr mem b s ∧ EntersPass im raddr s (t, none) ∧
    (SetHeader.ofBytes s.reader.data).IsTemplate ∧
    readTemplate (SetHeader.ofBytes s.reader.data) t.reader = (tr, none, t'.reader) ∧
    recordPass im raddr (SetHeader.ofBytes s.reader.data) s.reader.count (loopTemplate raddr s) (t, none) =
      .next (t', none) ∧
    t'.mem = t.mem.insert tr.templateID raddr tr

def Stores (im : IANAInfoModel) (raddr : IP) (mem : MemCache TemplateRecord) (b : List UInt8) (id : UInt16) : Prop :=
  ∃ tr, Accepts im raddr mem b tr ∧ tr.templateID = id

theorem recordPass_stores {x' : DecodeState × Option Error}
    (hp : recordPass im raddr h startCount tr (t, none) = .next x') :
    x'.1.mem = t.mem ∨ h.IsTemplate ∧ x'.2 = none ∧ ∃ new, readTemplate h t.reader = (new, none, x'.1.reader) ∧
      x'.1.mem = t.mem.insert new.templateID raddr new ∧ x'.1.msg.templaRecord = new := by
  obtain ⟨hg, hstep⟩ := recordPass_next hp
  by_cases hid : h.IsTemplate
  · rw [recordPass_of_guard hg, recordBody_template hid] at hp
    generalize hread : readTemplate h t.reader = q at hp
    obtain ⟨new, err, r⟩ := q
    cases err with
    | none =>
      obtain rfl := LoopStep.next.inj hp
      exact Or.inr ⟨hid, rfl, new, rfl, rfl, rfl⟩
    | some e =>
      obtain rfl := LoopStep.next.inj hp
      exact Or.inl rfl
  · cases hstep with
    | stored u hid' _ => exact absurd hid' hid
    | cutOff k u hid' _ => exact absurd hid' hid
    | record data _ _ _ => exact Or.inl rfl
    | failed k e _ _ _ => exact Or.inl rfl

theorem Decodes.mem_invariant {Q : MemCache TemplateRecord → Prop}
    (hins : ∀ m tr, Accepts im raddr mem b tr → Q m → Q (m.insert tr.templateID raddr tr)) (hQ : Q mem)
    (hdec : Decodes im raddr mem b out) : Q out.mem := by
  obtain ⟨e, he, rfl⟩ := decodes_iff.mp hdec
  rcases he.invariant_entered (P := fun s => Q s.mem) (fun _ _ _ => hQ) (fun n s s' err he hs hset =>
    decodeSet_kept (P := fun t => Q t.mem) (fun _ _ ht => ht) (fun t x' hv ht hp => by
      rcases recordPass_stores hp with hmem | ⟨hid, hx2, new, hread, hmem, -⟩
      · rw [hmem]
        exact ht
      · rw [hmem]
        refine hins _ new ⟨s, t, x'.1, he, hv, hid, hread, ?_, hmem⟩ ht
        rw [hp, ← hx2]) (Enters.len he) hs hset) with ⟨err, rfl⟩ | ⟨s, errs, hs, rfl⟩
  · exact hQ
  · exact hs

end VFlow.Netflow9
