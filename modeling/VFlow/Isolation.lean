import VFlow.Ipfix.Lookup
import VFlow.Ipfix.Wire
import VFlow.Netflow9.Lookup

/-!
# Exporters that share a cache

The collector decodes the packets of all exporters with one cache, in the order in which they arrive. The
cache knows an entry by its 32-bit key only, so whether exporters can disturb each other is decided by their
keys: `exporters_isolated_iff`. When no two keys meet, the entries of an exporter are changed by its own
packets alone, and its packets see nothing but these entries; so by unwinding it is decoded as if it were
alone. When two keys meet, each of the two templates overwrites the other (`exporters_collide`).
-/

namespace VFlow

open MemCache

/-- A packet that was decoded: its sender, its bytes, and what `Decode` returned. -/
structure Received (O : Type) where
  raddr : IP
  packet : List UInt8
  outcome : O
  deriving DecidableEq

/-- No id of one exporter has the key of an id of the other. -/
def KeysDisjoint (addr addr' : IP) : Prop := ∀ id id' : UInt16, (getShard id addr).2 ≠ (getShard id' addr').2

theorem KeysDisjoint.symm {addr addr' : IP} (h : KeysDisjoint addr addr') : KeysDisjoint addr' addr :=
  fun id id' heq => h id' id heq.symm

theorem KeysDisjoint.retrieve_insert {T : Type} {addr other : IP} (h : KeysDisjoint addr other) (m : MemCache T)
    (id i : UInt16) (tr : T) : (m.insert id other tr).retrieve i addr = m.retrieve i addr :=
  retrieve_insert_of_key_ne m tr fun hkey => h i id (congrArg Prod.snd hkey)

section isolation

variable {T O : Type} {Receives : MemCache T → Received O → MemCache T → Prop} {addr other : IP}

/-- Templates and packets of `other` do not change the entries of `addr`, and in every sequence of packets of
the two the packets of `addr` are decoded as they are alone. -/
structure Isolated (Receives : MemCache T → Received O → MemCache T → Prop) (addr other : IP) : Prop where
  insert : ∀ (m : MemCache T) (id : UInt16) (tr : T) (i : UInt16),
    (m.insert id other tr).retrieve i addr = m.retrieve i addr
  decode : ∀ m e m', e.raddr = other → Receives m e m' → ∀ i, m'.retrieve i addr = m.retrieve i addr
  alone : ∀ m es m', Runs Receives m es m' → (∀ e ∈ es, e.raddr = addr ∨ e.raddr = other) →
    ∃ m'', Runs Receives m (es.filter fun e => e.raddr = addr) m'' ∧ ∀ i, m''.retrieve i addr = m'.retrieve i addr

/-- What a decoder has to do with the cache: its result and the entries of the sender after the packet depend
on the entries of the sender before it only, and all it does is to store templates of the sender. -/
structure ThroughEntries (Receives : MemCache T → Received O → MemCache T → Prop) : Prop where
  own : ∀ m x e m', (∀ id, x.retrieve id e.raddr = m.retrieve id e.raddr) → Receives m e m' →
    ∃ x', Receives x e x' ∧ ∀ id, x'.retrieve id e.raddr = m'.retrieve id e.raddr
  stores : ∀ m e m' (Q : MemCache T → Prop), (∀ m id tr, Q m → Q (m.insert id e.raddr tr)) → Receives m e m' →
    Q m → Q m'

theorem ThroughEntries.isolated (h : ThroughEntries Receives) (hkeys : KeysDisjoint addr other) :
    Isolated Receives addr other := by
  have hdecode : ∀ m e m', e.raddr = other → Receives m e m' → ∀ i, m'.retrieve i addr = m.retrieve i addr := by
    intro m e m' he hrec i
    refine h.stores m e m' (fun x => x.retrieve i addr = m.retrieve i addr) ?_ hrec rfl
    intro x id tr hx
    rw [he, hkeys.retrieve_insert, hx]
  refine ⟨fun m id tr i => hkeys.retrieve_insert m id i tr, hdecode, ?_⟩
  intro m es m' hrun hes
  refine Runs.unwind (E := fun m x => ∀ i, x.retrieve i addr = m.retrieve i addr) ?_ ?_ (fun _ => rfl) hrun
  · intro e _ hown s x s' hE hstep
    obtain rfl := of_decide_eq_true hown
    exact h.own s x e s' hE hstep
  · intro e he hother s x s' hE hstep i
    have hsender := (hes e he).resolve_left (of_decide_eq_false hother)
    rw [hE i, hdecode s e s' hsender hstep i]

theorem keysDisjoint_of_isolated [Nonempty T] (h : Isolated Receives addr other) : KeysDisjoint addr other := by
  intro id id' hkey
  obtain ⟨tr⟩ := ‹Nonempty T›
  have hins := h.insert (empty : MemCache T) id' tr id
  rw [retrieve_insert_of_key_eq _ tr (getShard_eq_iff.mpr hkey)] at hins
  cases hins

theorem ThroughEntries.isolated_iff [Nonempty T] (h : ThroughEntries Receives) :
    (Isolated Receives addr other ∧ Isolated Receives other addr) ↔ KeysDisjoint addr other :=
  ⟨fun hiso => keysDisjoint_of_isolated hiso.1, fun hkeys => ⟨h.isolated hkeys, h.isolated hkeys.symm⟩⟩

end isolation

/-! ## The two decoders -/

namespace Ipfix

structure Result where
  msg : Option Message
  err : Option Error
  rpc : List RPCRequest
  deriving DecidableEq

def Outcome.result (out : Outcome) : Result := { msg := out.msg, err := out.err, rpc := out.rpc }

def Receives (im : IANAInfoModel) (m : MemCache TemplateRecord) (e : Received Result)
    (m' : MemCache TemplateRecord) : Prop :=
  ∃ out, Decodes im e.raddr m e.packet out ∧ out.result = e.outcome ∧ out.mem = m'

theorem throughEntries (im : IANAInfoModel) : ThroughEntries (Receives im) where
  own := by
    rintro m x ⟨raddr, b, result⟩ _ hx ⟨out, hdec, rfl, rfl⟩
    obtain ⟨out', hdec', hmsg, herr, hrpc, hmem⟩ :=
      Decodes.agree (P := fun _ => True) (sameTemplates_of_agree hx) (fun id _ => hx id) hdec
    refine ⟨out'.mem, ⟨out', hdec', ?_, rfl⟩, fun id => hmem id trivial⟩
    simp only [Outcome.result, hmsg, herr, hrpc]
  stores := by
    rintro m ⟨raddr, b, result⟩ _ Q hins ⟨out, hdec, rfl, rfl⟩ hQ
    exact hdec.mem_invariant (fun m tr _ hm => hins m tr.templateID tr hm) hQ

end Ipfix

namespace Netflow9

structure Result where
  msg : Option Message
  err : Option Error
  deriving DecidableEq

def Outcome.result (out : Outcome) : Result := { msg := out.msg, err := out.err }

def Receives (im : IANAInfoModel) (m : MemCache TemplateRecord) (e : Received Result)
    (m' : MemCache TemplateRecord) : Prop :=
  ∃ out, Decodes im e.raddr m e.packet out ∧ out.result = e.outcome ∧ out.mem = m'

theorem throughEntries (im : IANAInfoModel) : ThroughEntries (Receives im) where
  own := by
    rintro m x ⟨raddr, b, result⟩ _ hx ⟨out, hdec, rfl, rfl⟩
    obtain ⟨out', hdec', hmsg, herr, hmem⟩ :=
      Decodes.agree (P := fun _ => True) (sameTemplates_of_agree hx) (fun id _ => hx id) hdec
    refine ⟨out'.mem, ⟨out', hdec', ?_, rfl⟩, fun id => hmem id trivial⟩
    simp only [Outcome.result, hmsg, herr]
  stores := by
    rintro m ⟨raddr, b, result⟩ _ Q hins ⟨out, hdec, rfl, rfl⟩ hQ
    exact hdec.mem_invariant (fun m tr _ hm => hins m tr.templateID tr hm) hQ

end Netflow9

/-- **Exporters are isolated exactly if their keys are disjoint**, in both packages. -/
theorem exporters_isolated_iff (im : IANAInfoModel) (addr other : IP) :
    ((Isolated (Ipfix.Receives im) addr other ∧ Isolated (Ipfix.Receives im) other addr) ∧
        Isolated (Netflow9.Receives im) addr other ∧ Isolated (Netflow9.Receives im) other addr) ↔
      KeysDisjoint addr other := by
  have : Nonempty Ipfix.TemplateRecord := ⟨{}⟩
  have : Nonempty Netflow9.TemplateRecord := ⟨{}⟩
  rw [(Ipfix.throughEntries im).isolated_iff, (Netflow9.throughEntries im).isolated_iff, and_self]

/-! ## Two exporters with a common key -/

def exporterA : IP := [10, 71, 56, 168]

def exporterB : IP := [10, 108, 65, 29]

def oneSet (set : Ipfix.WireSet) : List UInt8 := Ipfix.messageBytes ⟨0, 0, 0⟩ [set]

def templateA : Ipfix.WireTemplate :=
  { templateID := 256, fields := [{ elementID := 8, length := 4 }, { elementID := 7, length := 2 }] }

def templateB : Ipfix.WireTemplate :=
  { templateID := 273, fields := [{ elementID := 12, length := 4 }, { elementID := 11, length := 2 }] }

def dataA : Ipfix.WireSet := .data 256 [[[192, 0, 2, 7], [0, 80]]] 0

theorem keys_meet : (getShard 256 exporterA).2 = (getShard 273 exporterB).2 := by decide

def cacheA : MemCache Ipfix.TemplateRecord := MemCache.empty.insert 256 exporterA templateA.record

def cacheAB : MemCache Ipfix.TemplateRecord := cacheA.insert 273 exporterB templateB.record

def Received.elements (e : Received Ipfix.Result) : List (List UInt16) :=
  ((e.outcome.msg.map Ipfix.Message.dataSets).getD []).map (·.map Ipfix.DecodedField.id)

/-- The template of the second exporter takes the place of that of the first, and the record of the first is
then decoded with it: as a destination where, alone, it is a source. -/
theorem exporters_collide :
    exporterA ≠ exporterB ∧ exporterA.length = 4 ∧ exporterB.length = 4 ∧
      ∃ (eA eB eData eAlone : Received Ipfix.Result) (m₁ m₂ m₃ m' : MemCache Ipfix.TemplateRecord),
        eA.raddr = exporterA ∧ eB.raddr = exporterB ∧ eData.raddr = exporterA ∧ eAlone.raddr = exporterA ∧
        eData.packet = oneSet dataA ∧ eAlone.packet = oneSet dataA ∧
        Runs (Ipfix.Receives infoModel) .empty [eA] m₁ ∧ Runs (Ipfix.Receives infoModel) m₁ [eB] m₂ ∧
        Runs (Ipfix.Receives infoModel) m₂ [eData] m₃ ∧ Runs (Ipfix.Receives infoModel) .empty [eA, eAlone] m' ∧
        m₂.retrieve 256 exporterA ≠ m₁.retrieve 256 exporterA ∧
        eData.elements = [[12, 11]] ∧ eAlone.elements = [[8, 7]] := by
  have hA : Ipfix.Decodes infoModel exporterA .empty (oneSet (.template [templateA]))
      { msg := _, err := none, mem := cacheA, rpc := [] } := ⟨3, rfl⟩
  have hB : Ipfix.Decodes infoModel exporterB cacheA (oneSet (.template [templateB]))
      { msg := _, err := none, mem := cacheAB, rpc := [] } := ⟨3, rfl⟩
  have hData : Ipfix.Decodes infoModel exporterA cacheAB (oneSet dataA) _ := ⟨3, rfl⟩
  have hAlone : Ipfix.Decodes infoModel exporterA cacheA (oneSet dataA) _ := ⟨3, rfl⟩
  refine ⟨by decide, rfl, rfl, ⟨exporterA, _, _⟩, ⟨exporterB, _, _⟩, ⟨exporterA, oneSet dataA, _⟩,
    ⟨exporterA, oneSet dataA, _⟩, cacheA, cacheAB, _, _, rfl, rfl, rfl, rfl, rfl, rfl,
    .cons ⟨_, hA, rfl, rfl⟩ (.nil _), .cons ⟨_, hB, rfl, rfl⟩ (.nil _), .cons ⟨_, hData, rfl, rfl⟩ (.nil _),
    .cons ⟨_, hA, rfl, rfl⟩ (.cons ⟨_, hAlone, rfl, rfl⟩ (.nil _)), ?_, rfl, rfl⟩
  rw [cacheAB, retrieve_insert_of_key_eq _ _ (getShard_eq_iff.mpr keys_meet), cacheA, retrieve_insert_self]
  decide

end VFlow
