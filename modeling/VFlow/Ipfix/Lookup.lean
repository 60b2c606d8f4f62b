import VFlow.Ipfix.Message

/-!
# What decoding an IPFIX message takes from the cache

The cache reaches the result of `Decode` through one door only: the template that a set with an id above
255 finds under this id and the exporter's address. Two decodings of a packet that start with different
caches are followed side by side; while every set finds the same template in both, they read the same
bytes, collect the same records and errors, and store the same templates (`Decodes.agree`).
-/

namespace VFlow.Ipfix

open Scan Reader

variable {im : IANAInfoModel} {raddr : IP} {mem mem' : MemCache TemplateRecord} {b : List UInt8}
  {h : SetHeader} {startCount : Nat} {tr : TemplateRecord} {P : UInt16 → Prop} {s s' t : DecodeState}
  {err err' : Option Error} {fuel : Nat} {out : Outcome}

/-- The states differ in the cache at most, and there not in the exporter's entries for the ids of `P`. -/
structure Agree (raddr : IP) (P : UInt16 → Prop) (s t : DecodeState) : Prop where
  reader : t.reader = s.reader
  msg : t.msg = s.msg
  rpc : t.rpc = s.rpc
  mem : ∀ id, P id → t.mem.retrieve id raddr = s.mem.retrieve id raddr

theorem Agree.with (hst : Agree raddr P s t) (r : Reader) (msg : Message) (rpc : List RPCRequest) :
    Agree raddr P { s with reader := r, msg, rpc } { t with reader := r, msg, rpc } :=
  ⟨rfl, rfl, rfl, hst.mem⟩

theorem Agree.insert (hst : Agree raddr P s t) (r : Reader) (tr : TemplateRecord) :
    Agree raddr P { s with reader := r, mem := s.mem.insert tr.templateID raddr tr }
      { t with reader := r, mem := t.mem.insert tr.templateID raddr tr } :=
  ⟨rfl, hst.msg, hst.rpc, fun id hid => MemCache.retrieve_insert_congr tr (hst.mem id hid)⟩

/-! ## One pass -/

theorem recordBody_agree (hst : Agree raddr P s t) :
    StepRelated (Agree raddr P) (recordBody im raddr h tr (s, err)) (recordBody im raddr h tr (t, err)) := by
  obtain ⟨r, m, msg, rpc⟩ := s
  obtain ⟨r', m', msg', rpc'⟩ := t
  obtain rfl : r' = r := hst.reader
  obtain rfl : msg' = msg := hst.msg
  obtain rfl : rpc' = rpc := hst.rpc
  unfold recordBody
  dsimp only
  split_ifs with hid hpeek h2 hres
  · exact .done hst
  · -- the template record is read from the packet alone
    split
    · exact .next (hst.insert _ _)
    · exact .next (hst.with _ _ _)
  · split
    · exact .next (hst.insert _ _)
    · exact .next (hst.with _ _ _)
  · exact .done hst
  · split
    · exact .next (hst.with _ _ _)
    · exact .next (hst.with _ _ _)

theorem recordPass_agree (hst : Agree raddr P s t) :
    StepRelated (Agree raddr P) (recordPass im raddr h startCount tr (s, err))
      (recordPass im raddr h startCount tr (t, err)) := by
  have hguard : recordGuard h startCount (t, err) = recordGuard h startCount (s, err) := by
    rw [recordGuard, recordGuard, hst.reader]
  unfold recordPass
  rw [hguard]
  split_ifs
  · exact recordBody_agree hst
  · exact .done hst

/-! ## One set -/

theorem skipLeftover_agree (h : SetHeader) (startCount : Nat) (err : Option Error) (hst : Agree raddr P s t) :
    (skipLeftover h startCount (t, err)).2 = (skipLeftover h startCount (s, err)).2 ∧
      Agree raddr P (skipLeftover h startCount (s, err)).1 (skipLeftover h startCount (t, err)).1 := by
  obtain ⟨r, m, msg, rpc⟩ := s
  obtain ⟨r', m', msg', rpc'⟩ := t
  obtain rfl : r' = r := hst.reader
  obtain rfl : msg' = msg := hst.msg
  obtain rfl : rpc' = rpc := hst.rpc
  unfold skipLeftover
  dsimp only
  split_ifs
  · split
    · exact ⟨rfl, hst.with _ _ _⟩
    · exact ⟨rfl, hst.with _ _ _⟩
  · exact ⟨rfl, hst⟩

/-- The set at the reader looks up the template `id`. -/
def LooksUp (s : DecodeState) (id : UInt16) : Prop :=
  (SetHeader.ofBytes s.reader.data).setID = id ∧ 255 < id ∧ ¬ (SetHeader.ofBytes s.reader.data).length < 4

theorem loopStart_agree (hst : Agree raddr P s t)
    (hlook : 255 < (SetHeader.ofBytes s.reader.data).setID →
      t.mem.retrieve (SetHeader.ofBytes s.reader.data).setID raddr =
        s.mem.retrieve (SetHeader.ofBytes s.reader.data).setID raddr) :
    (loopStart raddr t).1 = (loopStart raddr s).1 ∧ (loopStart raddr t).2.2 = (loopStart raddr s).2.2 ∧
      Agree raddr P (loopStart raddr s).2.1 (loopStart raddr t).2.1 := by
  obtain ⟨r, m, msg, rpc⟩ := s
  obtain ⟨r', m', msg', rpc'⟩ := t
  obtain rfl : r' = r := hst.reader
  obtain rfl : msg' = msg := hst.msg
  obtain rfl : rpc' = rpc := hst.rpc
  unfold loopStart setTemplate
  dsimp only at hlook ⊢
  split_ifs with hid
  · rw [hlook hid]
    split
    · exact ⟨rfl, rfl, hst.with _ _ _⟩
    · exact ⟨rfl, rfl, hst.with _ _ _⟩
  · exact ⟨rfl, rfl, hst.with _ _ _⟩

theorem decodeSet_agree (hst : Agree raddr P s t) (hlen : 4 < s.reader.len)
    (hlook : ∀ id, LooksUp s id → t.mem.retrieve id raddr = s.mem.retrieve id raddr)
    (hset : decodeSet im raddr fuel s = some (s', err)) :
    ∃ t', decodeSet im raddr fuel t = some (t', err) ∧ Agree raddr P s' t' := by
  have hlen' : 4 < t.reader.len := by rwa [hst.reader]
  rcases (decodeSet_eq_some hlen.le).mp hset with ⟨h4, hout⟩ | ⟨h4, y, hy, hout⟩
  · obtain ⟨rfl, rfl⟩ := Prod.mk.inj hout
    refine ⟨{ t with reader := s.reader.advance 4 }, (decodeSet_eq_some hlen'.le).mpr (Or.inl ?_),
      rfl, hst.msg, hst.rpc, hst.mem⟩
    rw [hst.reader]
    exact ⟨h4, rfl⟩
  · obtain ⟨htr, herr, hstart⟩ := loopStart_agree hst fun hid => hlook _ ⟨rfl, hid, h4⟩
    obtain ⟨u, hu, hyu⟩ := recordLoop_related (fun s t err hst => recordPass_agree hst) hstart hy
    obtain ⟨hskip, hagree⟩ := skipLeftover_agree (SetHeader.ofBytes s.reader.data) s.reader.count y.2 hyu
    rw [show (y.1, y.2) = y from rfl, ← hout] at hskip hagree
    refine ⟨_, (decodeSet_eq_some hlen'.le).mpr (Or.inr ?_), hagree⟩
    rw [hst.reader]
    refine ⟨h4, (u, y.2), ?_, ?_⟩
    · rw [setLoop, hst.reader, htr, show (loopStart raddr t).2 = ((loopStart raddr t).2.1, (loopStart raddr t).2.2)
        from rfl, herr]
      exact hu
    · exact Prod.ext rfl hskip.symm

/-! ## One message -/

theorem sameCode (im : IANAInfoModel) (raddr : IP) (mem mem' : MemCache TemplateRecord) :
    PacketDecoder.SameCode (packetDecoder im raddr mem) (packetDecoder im raddr mem') :=
  ⟨rfl, rfl, rfl, rfl⟩

/-- Decoding with the cache `mem` and decoding with the cache `mem'` come to calls of `decodeSet` in `s`
and `t` after the same number of sets. -/
def EntersBoth (im : IANAInfoModel) (raddr : IP) (mem mem' : MemCache TemplateRecord) (b : List UInt8)
    (s t : DecodeState) : Prop :=
  PacketDecoder.EntersBoth (packetDecoder im raddr mem) (packetDecoder im raddr mem') b s t

def SameTemplates (im : IANAInfoModel) (raddr : IP) (mem mem' : MemCache TemplateRecord) (b : List UInt8) : Prop :=
  ∀ s t, EntersBoth im raddr mem mem' b s t → ∀ id, LooksUp s id →
    t.mem.retrieve id raddr = s.mem.retrieve id raddr

/-- A packet whose sets find the same templates is decoded in the same way, and leaves the caches as
different as they were. -/
theorem Decodes.agree (hsame : SameTemplates im raddr mem mem' b)
    (hmem : ∀ id, P id → mem'.retrieve id raddr = mem.retrieve id raddr) (hdec : Decodes im raddr mem b out) :
    ∃ out', Decodes im raddr mem' b out' ∧ out'.msg = out.msg ∧ out'.err = out.err ∧ out'.rpc = out.rpc ∧
      ∀ id, P id → out'.mem.retrieve id raddr = out.mem.retrieve id raddr := by
  obtain ⟨e, he, rfl⟩ := decodes_iff.mp hdec
  rcases he.related (R := Agree raddr P) (sameCode im raddr mem mem') (fun s t hst => hst.reader.symm)
    (fun header r => ⟨rfl, rfl, rfl, hmem⟩)
    (fun n s t s' err hboth hst hset => decodeSet_agree hst (PacketDecoder.EntersBoth.len hboth) (hsame s t hboth) hset)
    with ⟨err, rfl, hq⟩ | ⟨s, t, errs, rfl, hq, hst⟩
  · exact ⟨_, decodes_iff.mpr ⟨_, hq, rfl⟩, rfl, rfl, rfl, hmem⟩
  · refine ⟨_, decodes_iff.mpr ⟨_, hq, rfl⟩, ?_, rfl, hst.rpc, hst.mem⟩
    exact congrArg some hst.msg

/-- A set of the packet looks up the template `id`. -/
def Asks (im : IANAInfoModel) (raddr : IP) (mem : MemCache TemplateRecord) (b : List UInt8) (id : UInt16) : Prop :=
  ∃ s, Enters im raddr mem b s ∧ LooksUp s id

theorem sameTemplates_of_asks (hasks : ∀ id, Asks im raddr mem b id → P id)
    (hmem : ∀ id, P id → mem'.retrieve id raddr = mem.retrieve id raddr) : SameTemplates im raddr mem mem' b := by
  intro s t hboth id hid
  obtain ⟨he, hst⟩ := PacketDecoder.EntersBoth.invariant (p := packetDecoder im raddr mem)
    (q := packetDecoder im raddr mem') (R := Agree raddr P) (fun header r => ⟨rfl, rfl, rfl, hmem⟩)
    (fun n s t s' t' err err' he hst hs ht => by
      obtain ⟨u, hu, hagree⟩ :=
        decodeSet_agree hst (Enters.len he) (fun id hid => hst.mem id (hasks id ⟨s, he, hid⟩)) hs
      obtain ⟨rfl, -⟩ := Prod.mk.inj (Option.some.inj (hu.symm.trans ht))
      exact hagree) hboth
  exact hst.mem id (hasks id ⟨s, he, hid⟩)

theorem sameTemplates_of_agree (hmem : ∀ id, mem'.retrieve id raddr = mem.retrieve id raddr) :
    SameTemplates im raddr mem mem' b :=
  sameTemplates_of_asks (P := fun _ => True) (fun _ _ => trivial) fun id _ => hmem id

/-! ## What decoding does to the cache -/

/-- The record is read to its end by this call, and stored under its id. -/
def Accepts (im : IANAInfoModel) (raddr : IP) (mem : MemCache TemplateRecord) (b : List UInt8) (tr : TemplateRecord) :
    Prop :=
  ∃ s t t', Enters im raddr mem b s ∧ EntersPass im raddr s (t, none) ∧
    ((SetHeader.ofBytes s.reader.data).setID = 2 ∨ (SetHeader.ofBytes s.reader.data).setID = 3) ∧
    readTemplate (SetHeader.ofBytes s.reader.data).setID t.reader = (tr, none, t'.reader) ∧
    recordPass im raddr (SetHeader.ofBytes s.reader.data) s.reader.count (loopStart raddr s).1 (t, none) =
      .next (t', none) ∧
    t'.mem = t.mem.insert tr.templateID raddr tr

/-- The packet stores a template under `id`. -/
def Stores (im : IANAInfoModel) (raddr : IP) (mem : MemCache TemplateRecord) (b : List UInt8) (id : UInt16) : Prop :=
  ∃ tr, Accepts im raddr mem b tr ∧ tr.templateID = id

theorem recordPass_stores {x' : DecodeState × Option Error}
    (hp : recordPass im raddr h startCount tr (t, none) = .next x') :
    x'.1.mem = t.mem ∨ (h.setID = 2 ∨ h.setID = 3) ∧ x'.2 = none ∧ ∃ new,
      readTemplate h.setID t.reader = (new, none, x'.1.reader) ∧ x'.1.mem = t.mem.insert new.templateID raddr new := by
  obtain ⟨hg, hstep⟩ := recordPass_next hp
  by_cases hid : h.setID = 2 ∨ h.setID = 3
  · rw [recordPass_of_guard hg, recordBody_templateSet hid (recordGuard_iff.mp hg).2.2] at hp
    split_ifs at hp
    split at hp
    · rename_i new r hread
      obtain rfl := LoopStep.next.inj hp
      exact Or.inr ⟨hid, rfl, new, hread, rfl⟩
    · obtain rfl := LoopStep.next.inj hp
      exact Or.inl rfl
  · exact Or.inl (hstep.mem_eq (hstep.isData hid))

theorem Decodes.mem_invariant {Q : MemCache TemplateRecord → Prop}
    (hins : ∀ m tr, Accepts im raddr mem b tr → Q m → Q (m.insert tr.templateID raddr tr)) (hQ : Q mem)
    (hdec : Decodes im raddr mem b out) : Q out.mem := by
  obtain ⟨e, he, rfl⟩ := decodes_iff.mp hdec
  rcases he.invariant_entered (P := fun s => Q s.mem) (fun _ _ _ => hQ) (fun n s s' err he hs hset =>
    decodeSet_kept (P := fun t => Q t.mem) (fun _ _ _ ht => ht) (fun t x' hv ht hp => by
      rcases recordPass_stores hp with hmem | ⟨hid, hx2, new, hread, hmem⟩
      · rw [hmem]
        exact ht
      · rw [hmem]
        refine hins _ new ⟨s, t, x'.1, he, hv, hid, hread, ?_, hmem⟩ ht
        rw [hp, ← hx2]) (Enters.len he) hs hset) with ⟨err, rfl⟩ | ⟨s, errs, hs, rfl⟩
  · exact hQ
  · exact hs

end VFlow.Ipfix
