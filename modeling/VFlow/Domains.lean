import VFlow.Isolation
import VFlow.Netflow9.Wire

/-!
# Observation domains that share a cache

The header of a message names an observation domain (`DomainID`, in NetFlow v9 `SrcID`), and an exporter may
send several streams of messages, one for each domain. The domain is decoded and passed on, but the cache
does not know it: a template is found by the address and the template id alone. So a template of one domain
replaces the template of another with the same id (`domains_share_templates`).

This is the only way in which the streams meet. As long as no other packet stores a template under a key that
the packets of a domain look up, the caches of the shared run and of the domain alone agree on these keys, and
the domain is decoded as it is alone (`domain_decoded_alone`).
-/

namespace VFlow

open MemCache

section streams

variable {T O : Type} {Receives : MemCache T → Received O → MemCache T → Prop}
  {Asks Stores : MemCache T → Received O → UInt16 → Prop}

/-- What a decoder has to do with the cache: `Asks` are the ids it looks up, and its result depends on what is
found there only; `Stores` are the ids under which it stores a template. -/
structure ThroughLookups (Receives : MemCache T → Received O → MemCache T → Prop)
    (Asks Stores : MemCache T → Received O → UInt16 → Prop) : Prop where
  own : ∀ m x e m' (P : UInt16 → Prop), (∀ id, Asks m e id → P id) →
    (∀ id, P id → x.retrieve id e.raddr = m.retrieve id e.raddr) → Receives m e m' →
    ∃ x', Receives x e x' ∧ ∀ id, P id → x'.retrieve id e.raddr = m'.retrieve id e.raddr
  stores : ∀ m e m' (Q : MemCache T → Prop), (∀ y id tr, Stores m e id → Q y → Q (y.insert id e.raddr tr)) →
    Receives m e m' → Q m → Q m'

/-- In the run over these packets, no packet that is not of the stream stores a template under a key that a packet
of the stream looks up. -/
def Apart (Receives : MemCache T → Received O → MemCache T → Prop)
    (Asks Stores : MemCache T → Received O → UInt16 → Prop) (own : Received O → Bool) (m : MemCache T)
    (es : List (Received O)) : Prop :=
  ∀ e x id e' x' id', own e = true → own e' = false → Runs.At Receives m es e x → Runs.At Receives m es e' x' →
    Asks x e id → Stores x' e' id' → getShard id e.raddr ≠ getShard id' e'.raddr

theorem ThroughLookups.alone (h : ThroughLookups Receives Asks Stores) {own : Received O → Bool} {addr : IP}
    (hown : ∀ e, own e = true → e.raddr = addr) {m m' : MemCache T} {es : List (Received O)}
    (hapart : Apart Receives Asks Stores own m es) (hrun : Runs Receives m es m') :
    ∃ x, Runs Receives m (es.filter own) x := by
  -- the ids of the stream under whose keys no other packet stores
  let P : UInt16 → Prop := fun id => ∀ e' x' id', own e' = false → Runs.At Receives m es e' x' →
    Stores x' e' id' → getShard id addr ≠ getShard id' e'.raddr
  refine (Runs.unwind_at (E := fun r x => ∀ id, P id → x.retrieve id addr = r.retrieve id addr)
    (fun e r x r' (he : own e = true) => ?_) ?_ (fun _ _ => rfl) hrun).imp fun _ hx => hx.1
  · intro hat hE hrec
    obtain rfl := hown e he
    exact h.own r x e r' P (fun id hid e' x' id' he' hat' => hapart e r id e' x' id' he he' hat hat' hid) hE hrec
  · intro e r x r' he hat hE hrec id hid
    refine h.stores r e r' (fun y => x.retrieve id addr = y.retrieve id addr) (fun y id' tr hstores hy => ?_) hrec
      (hE id hid)
    rw [retrieve_insert_of_key_ne y tr (hid e r id' he hat hstores), hy]

end streams

/-! ## The two decoders -/

namespace Ipfix

def domainID (b : List UInt8) : Option UInt32 :=
  match MessageHeader.unmarshal (Reader.new b) with
  | .ok header _ => some header.domainID
  | .error _ _ => none

/-- The stream of an exporter's domain. -/
def inDomain (addr : IP) (domain : UInt32) (e : Received Result) : Bool :=
  e.raddr = addr ∧ domainID e.packet = some domain

/-- No packet outside the domain stores a template under a key that the domain looks up. -/
def DomainApart (im : IANAInfoModel) (addr : IP) (domain : UInt32) (m : MemCache TemplateRecord)
    (es : List (Received Result)) : Prop :=
  Apart (Receives im) (fun x e => Asks im e.raddr x e.packet) (fun x e => Stores im e.raddr x e.packet)
    (inDomain addr domain) m es

theorem throughLookups (im : IANAInfoModel) :
    ThroughLookups (Receives im) (fun x e => Asks im e.raddr x e.packet) (fun x e => Stores im e.raddr x e.packet) where
  own := by
    rintro m x ⟨raddr, b, result⟩ _ P hasks hx ⟨out, hdec, rfl, rfl⟩
    obtain ⟨out', hdec', hmsg, herr, hrpc, hmem⟩ := Decodes.agree (sameTemplates_of_asks hasks hx) hx hdec
    refine ⟨out'.mem, ⟨out', hdec', ?_, rfl⟩, hmem⟩
    simp only [Outcome.result, hmsg, herr, hrpc]
  stores := by
    rintro m ⟨raddr, b, result⟩ _ Q hins ⟨out, hdec, rfl, rfl⟩ hQ
    exact hdec.mem_invariant (fun y tr htr hy => hins y tr.templateID tr ⟨tr, htr, rfl⟩ hy) hQ

end Ipfix

namespace Netflow9

def srcID (b : List UInt8) : Option UInt32 :=
  match PacketHeader.unmarshal (Reader.new b) with
  | .ok header _ => some header.srcID
  | .error _ _ => none

def fromSource (addr : IP) (source : UInt32) (e : Received Result) : Bool :=
  e.raddr = addr ∧ srcID e.packet = some source

/-- No packet of another source stores a template under a key that the source looks up. -/
def SourceApart (im : IANAInfoModel) (addr : IP) (source : UInt32) (m : MemCache TemplateRecord)
    (es : List (Received Result)) : Prop :=
  Apart (Receives im) (fun x e => Asks im e.raddr x e.packet) (fun x e => Stores im e.raddr x e.packet)
    (fromSource addr source) m es

theorem throughLookups (im : IANAInfoModel) :
    ThroughLookups (Receives im) (fun x e => Asks im e.raddr x e.packet) (fun x e => Stores im e.raddr x e.packet) where
  own := by
    rintro m x ⟨raddr, b, result⟩ _ P hasks hx ⟨out, hdec, rfl, rfl⟩
    obtain ⟨out', hdec', hmsg, herr, hmem⟩ := Decodes.agree (sameTemplates_of_asks hasks hx) hx hdec
    refine ⟨out'.mem, ⟨out', hdec', ?_, rfl⟩, hmem⟩
    simp only [Outcome.result, hmsg, herr]
  stores := by
    rintro m ⟨raddr, b, result⟩ _ Q hins ⟨out, hdec, rfl, rfl⟩ hQ
    exact hdec.mem_invariant (fun y tr htr hy => hins y tr.templateID tr ⟨tr, htr, rfl⟩ hy) hQ

end Netflow9

/-- **A domain is decoded as it is alone** among any other packets, as long as none of them stores a template under
a key that the domain looks up: every message of the domain is decoded to the same records and errors. -/
theorem domain_decoded_alone (im : IANAInfoModel) (addr : IP) (domain : UInt32) :
    (∀ (m m' : MemCache Ipfix.TemplateRecord) (es : List (Received Ipfix.Result)),
      Runs (Ipfix.Receives im) m es m' → Ipfix.DomainApart im addr domain m es →
      ∃ x, Runs (Ipfix.Receives im) m (es.filter (Ipfix.inDomain addr domain)) x) ∧
    ∀ (m m' : MemCache Netflow9.TemplateRecord) (es : List (Received Netflow9.Result)),
      Runs (Netflow9.Receives im) m es m' → Netflow9.SourceApart im addr domain m es →
      ∃ x, Runs (Netflow9.Receives im) m (es.filter (Netflow9.fromSource addr domain)) x := by
  have hown : ∀ {p : Prop} [Decidable p] {raddr : IP}, decide (raddr = addr ∧ p) = true → raddr = addr :=
    fun h => (of_decide_eq_true h).1
  exact ⟨fun m m' es hrun hapart => (Ipfix.throughLookups im).alone (fun _ he => hown he) hapart hrun,
    fun m m' es hrun hapart => (Netflow9.throughLookups im).alone (fun _ he => hown he) hapart hrun⟩

/-! ## Two domains with the same template id -/

def exporter : IP := [192, 0, 2, 1]

namespace Ipfix

def domainMessage (domain : UInt32) (set : WireSet) : List UInt8 := messageBytes ⟨0, 0, domain⟩ [set]

def sourceTemplate : WireTemplate :=
  { templateID := 256, fields := [{ elementID := 8, length := 4 }, { elementID := 7, length := 2 }] }

def destinationTemplate (id : UInt16) : WireTemplate :=
  { templateID := id, fields := [{ elementID := 12, length := 4 }, { elementID := 11, length := 2 }] }

def sourceData : WireSet := .data 256 [[[192, 0, 2, 7], [0, 80]]] 0

def sourceCache : MemCache TemplateRecord := MemCache.empty.insert 256 exporter sourceTemplate.record

def bothCache (id : UInt16) : MemCache TemplateRecord := sourceCache.insert id exporter (destinationTemplate id).record

theorem domainID_domainMessage (domain : UInt32) (set : WireSet) :
    domainID (domainMessage domain set) = some domain := by
  rw [domainID, domainMessage, unmarshal_messageBytes]
  rfl

end Ipfix

namespace Netflow9

def sourcePacket (source : UInt32) (set : WireSet) : List UInt8 := packetBytes ⟨1, 0, 0, 0, source⟩ [set]

def sourceTemplate : WireTemplate :=
  { templateID := 256, fields := [{ elementID := 8, length := 4 }, { elementID := 7, length := 2 }] }

def destinationTemplate : WireTemplate :=
  { templateID := 256, fields := [{ elementID := 12, length := 4 }, { elementID := 11, length := 2 }] }

def sourceData : WireSet := .data 256 [[[192, 0, 2, 7], [0, 80]]] []

def sourceCache : MemCache TemplateRecord := MemCache.empty.insert 256 exporter sourceTemplate.record

def destinationCache : MemCache TemplateRecord := sourceCache.insert 256 exporter destinationTemplate.record

def elements (e : Received Result) : List (List UInt16) :=
  ((e.outcome.msg.map Message.dataSets).getD []).map (·.map DecodedField.id)

end Netflow9

namespace Ipfix

theorem mem_of_receives {im : IANAInfoModel} {m m' : MemCache TemplateRecord} {raddr : IP} {b : List UInt8}
    {result : Result} {out : Outcome} (hdec : Decodes im raddr m b out) (hrec : Receives im m ⟨raddr, b, result⟩ m') :
    m' = out.mem := by
  obtain ⟨out', hdec', -, rfl⟩ := hrec
  rw [hdec.unique hdec']

theorem not_asks_source (id : UInt16) :
    ¬ Asks infoModel exporter .empty (domainMessage 1 (.template [sourceTemplate])) id := by
  rintro ⟨s, he, hset, hid, -⟩
  obtain rfl := PacketDecoder.Enters.eq_start packetDecoder_lawful ⟨rfl, rfl⟩
    (show decodeSet infoModel exporter 3 _ = _ from rfl) (by decide) he
  rw [← hset] at hid
  exact absurd hid (by decide)

theorem eq_of_asks_sourceData {id : UInt16}
    (h : Asks infoModel exporter (bothCache 257) (domainMessage 1 sourceData) id) : id = 256 := by
  obtain ⟨s, he, hset, -, -⟩ := h
  obtain rfl := PacketDecoder.Enters.eq_start packetDecoder_lawful ⟨rfl, rfl⟩
    (show decodeSet infoModel exporter 3 _ = _ from rfl) (by decide) he
  exact hset.symm

theorem eq_of_stores_destination {id : UInt16}
    (h : Stores infoModel exporter sourceCache (domainMessage 2 (.template [destinationTemplate 257])) id) :
    id = 257 := by
  obtain ⟨tr, ⟨s, t, t', he, ⟨-, hv⟩, -, hread, hpass, -⟩, rfl⟩ := h
  obtain rfl := PacketDecoder.Enters.eq_start packetDecoder_lawful ⟨rfl, rfl⟩
    (show decodeSet infoModel exporter 3 _ = _ from rfl) (by decide) he
  -- the first pass reads the template, and the second leaves the loop
  rcases hv.cases_head with heq | ⟨x, ⟨_, hx⟩, hrest⟩
  · obtain ⟨rfl, -⟩ := Prod.mk.inj heq
    rw [← (Prod.mk.inj hread).1]
    rfl
  · obtain rfl := LoopStep.next.inj (Option.some.inj hx)
    rcases hrest.cases_head with heq | ⟨_, ⟨_, hx'⟩, -⟩
    · rw [← heq] at hpass
      cases hpass
    · cases hx'

end Ipfix

theorem domain_decoded_alone_disjoint :
    ∃ (e₁ e₂ e₃ : Received Ipfix.Result) (m : MemCache Ipfix.TemplateRecord),
      e₁.packet = Ipfix.domainMessage 1 (.template [Ipfix.sourceTemplate]) ∧
      e₂.packet = Ipfix.domainMessage 2 (.template [Ipfix.destinationTemplate 257]) ∧
      e₃.packet = Ipfix.domainMessage 1 Ipfix.sourceData ∧
      Runs (Ipfix.Receives infoModel) .empty [e₁, e₂, e₃] m ∧
      Ipfix.DomainApart infoModel exporter 1 .empty [e₁, e₂, e₃] ∧
      ∃ x, Runs (Ipfix.Receives infoModel) .empty ([e₁, e₂, e₃].filter (Ipfix.inDomain exporter 1)) x := by
  have h₁ : Ipfix.Decodes infoModel exporter .empty (Ipfix.domainMessage 1 (.template [Ipfix.sourceTemplate]))
      { msg := _, err := none, mem := Ipfix.sourceCache, rpc := [] } := ⟨3, rfl⟩
  have h₂ : Ipfix.Decodes infoModel exporter Ipfix.sourceCache
      (Ipfix.domainMessage 2 (.template [Ipfix.destinationTemplate 257]))
      { msg := _, err := none, mem := Ipfix.bothCache 257, rpc := [] } := ⟨3, rfl⟩
  have h₃ : Ipfix.Decodes infoModel exporter (Ipfix.bothCache 257) (Ipfix.domainMessage 1 Ipfix.sourceData) _ :=
    ⟨3, rfl⟩
  have hrun : Runs (Ipfix.Receives infoModel) .empty
      [⟨exporter, _, _⟩, ⟨exporter, _, _⟩, ⟨exporter, _, _⟩] _ :=
    .cons ⟨_, h₁, rfl, rfl⟩ (.cons ⟨_, h₂, rfl, rfl⟩ (.cons ⟨_, h₃, rfl, rfl⟩ (.nil _)))
  have hapart : ∀ r₁ r₂ r₃ : Ipfix.Result, Ipfix.DomainApart infoModel exporter 1 .empty
      [⟨exporter, Ipfix.domainMessage 1 (.template [Ipfix.sourceTemplate]), r₁⟩,
        ⟨exporter, Ipfix.domainMessage 2 (.template [Ipfix.destinationTemplate 257]), r₂⟩,
        ⟨exporter, Ipfix.domainMessage 1 Ipfix.sourceData, r₃⟩] := by
    intro r₁ r₂ r₃
    -- the packets with the caches that they come to
    have hat : ∀ e x, Runs.At (Ipfix.Receives infoModel) .empty
        [⟨exporter, Ipfix.domainMessage 1 (.template [Ipfix.sourceTemplate]), r₁⟩,
          ⟨exporter, Ipfix.domainMessage 2 (.template [Ipfix.destinationTemplate 257]), r₂⟩,
          ⟨exporter, Ipfix.domainMessage 1 Ipfix.sourceData, r₃⟩] e x →
        e = ⟨exporter, Ipfix.domainMessage 1 (.template [Ipfix.sourceTemplate]), r₁⟩ ∧ x = .empty ∨
        e = ⟨exporter, Ipfix.domainMessage 2 (.template [Ipfix.destinationTemplate 257]), r₂⟩ ∧
          x = Ipfix.sourceCache ∨
        e = ⟨exporter, Ipfix.domainMessage 1 Ipfix.sourceData, r₃⟩ ∧ x = Ipfix.bothCache 257 := by
      intro e x hat
      rcases Runs.at_cons_iff.mp hat with hfirst | ⟨x₁, hx₁, hat⟩
      · exact .inl hfirst
      obtain rfl := Ipfix.mem_of_receives h₁ hx₁
      rcases Runs.at_cons_iff.mp hat with hsecond | ⟨x₂, hx₂, hat⟩
      · exact .inr (.inl hsecond)
      obtain rfl := Ipfix.mem_of_receives h₂ hx₂
      rcases Runs.at_cons_iff.mp hat with hthird | ⟨_, _, hat⟩
      · exact .inr (.inr hthird)
      · exact absurd hat Runs.not_at_nil
    intro e x id e' x' id' hown hother hatE hatE' hasks hstores
    have hid' : e'.raddr = exporter ∧ id' = 257 := by
      rcases hat e' x' hatE' with ⟨rfl, -⟩ | ⟨rfl, rfl⟩ | ⟨rfl, -⟩
      · simp [Ipfix.inDomain, Ipfix.domainID_domainMessage] at hother
      · exact ⟨rfl, Ipfix.eq_of_stores_destination hstores⟩
      · simp [Ipfix.inDomain, Ipfix.domainID_domainMessage] at hother
    have hid : e.raddr = exporter ∧ id = 256 := by
      rcases hat e x hatE with ⟨rfl, rfl⟩ | ⟨rfl, -⟩ | ⟨rfl, rfl⟩
      · exact absurd hasks (Ipfix.not_asks_source id)
      · simp [Ipfix.inDomain, Ipfix.domainID_domainMessage] at hown
      · exact ⟨rfl, Ipfix.eq_of_asks_sourceData hasks⟩
    rw [hid.1, hid.2, hid'.1, hid'.2]
    decide
  exact ⟨_, _, _, _, rfl, rfl, rfl, hrun, hapart _ _ _,
    (domain_decoded_alone infoModel exporter 1).1 .empty _ _ hrun (hapart _ _ _)⟩

/-- Two domains of an exporter define template 256, and the record of the first is decoded with the template
of the second: as a destination where, alone, it is a source. In NetFlow v9 it is the same. -/
theorem domains_share_templates :
    (∃ (e₁ e₂ e₃ e₃' : Received Ipfix.Result) (m m' : MemCache Ipfix.TemplateRecord),
      e₁.packet = Ipfix.domainMessage 1 (.template [Ipfix.sourceTemplate]) ∧
      e₂.packet = Ipfix.domainMessage 2 (.template [Ipfix.destinationTemplate 256]) ∧
      e₃.packet = Ipfix.domainMessage 1 Ipfix.sourceData ∧ e₃'.packet = Ipfix.domainMessage 1 Ipfix.sourceData ∧
      Runs (Ipfix.Receives infoModel) .empty [e₁, e₂, e₃] m ∧
      [e₁, e₂, e₃].filter (Ipfix.inDomain exporter 1) = [e₁, e₃] ∧
      Runs (Ipfix.Receives infoModel) .empty [e₁, e₃'] m' ∧ e₃.elements = [[12, 11]] ∧ e₃'.elements = [[8, 7]]) ∧
    ∃ (e₁ e₂ e₃ e₃' : Received Netflow9.Result) (m m' : MemCache Netflow9.TemplateRecord),
      e₁.packet = Netflow9.sourcePacket 1 (.template [Netflow9.sourceTemplate] []) ∧
      e₂.packet = Netflow9.sourcePacket 2 (.template [Netflow9.destinationTemplate] []) ∧
      e₃.packet = Netflow9.sourcePacket 1 Netflow9.sourceData ∧
      e₃'.packet = Netflow9.sourcePacket 1 Netflow9.sourceData ∧
      Runs (Netflow9.Receives infoModel) .empty [e₁, e₂, e₃] m ∧
      [e₁, e₂, e₃].filter (Netflow9.fromSource exporter 1) = [e₁, e₃] ∧
      Runs (Netflow9.Receives infoModel) .empty [e₁, e₃'] m' ∧
      Netflow9.elements e₃ = [[12, 11]] ∧ Netflow9.elements e₃' = [[8, 7]] := by
  constructor
  · have h₁ : Ipfix.Decodes infoModel exporter .empty (Ipfix.domainMessage 1 (.template [Ipfix.sourceTemplate]))
        { msg := _, err := none, mem := Ipfix.sourceCache, rpc := [] } := ⟨3, rfl⟩
    have h₂ : Ipfix.Decodes infoModel exporter Ipfix.sourceCache
        (Ipfix.domainMessage 2 (.template [Ipfix.destinationTemplate 256]))
        { msg := _, err := none, mem := Ipfix.bothCache 256, rpc := [] } := ⟨3, rfl⟩
    have h₃ : Ipfix.Decodes infoModel exporter (Ipfix.bothCache 256) (Ipfix.domainMessage 1 Ipfix.sourceData) _ :=
      ⟨3, rfl⟩
    have h₃' : Ipfix.Decodes infoModel exporter Ipfix.sourceCache (Ipfix.domainMessage 1 Ipfix.sourceData) _ :=
      ⟨3, rfl⟩
    exact ⟨⟨exporter, _, _⟩, ⟨exporter, _, _⟩, ⟨exporter, _, _⟩, ⟨exporter, _, _⟩, _, _, rfl, rfl, rfl, rfl,
      .cons ⟨_, h₁, rfl, rfl⟩ (.cons ⟨_, h₂, rfl, rfl⟩ (.cons ⟨_, h₃, rfl, rfl⟩ (.nil _))), rfl,
      .cons ⟨_, h₁, rfl, rfl⟩ (.cons ⟨_, h₃', rfl, rfl⟩ (.nil _)), rfl, rfl⟩
  · have h₁ : Netflow9.Decodes infoModel exporter .empty
        (Netflow9.sourcePacket 1 (.template [Netflow9.sourceTemplate] []))
        { msg := _, err := none, mem := Netflow9.sourceCache } := ⟨3, rfl⟩
    have h₂ : Netflow9.Decodes infoModel exporter Netflow9.sourceCache
        (Netflow9.sourcePacket 2 (.template [Netflow9.destinationTemplate] []))
        { msg := _, err := none, mem := Netflow9.destinationCache } := ⟨3, rfl⟩
    have h₃ : Netflow9.Decodes infoModel exporter Netflow9.destinationCache
        (Netflow9.sourcePacket 1 Netflow9.sourceData) _ := ⟨3, rfl⟩
    have h₃' : Netflow9.Decodes infoModel exporter Netflow9.sourceCache
        (Netflow9.sourcePacket 1 Netflow9.sourceData) _ := ⟨3, rfl⟩
    exact ⟨⟨exporter, _, _⟩, ⟨exporter, _, _⟩, ⟨exporter, _, _⟩, ⟨exporter, _, _⟩, _, _, rfl, rfl, rfl, rfl,
      .cons ⟨_, h₁, rfl, rfl⟩ (.cons ⟨_, h₂, rfl, rfl⟩ (.cons ⟨_, h₃, rfl, rfl⟩ (.nil _))), rfl,
      .cons ⟨_, h₁, rfl, rfl⟩ (.cons ⟨_, h₃', rfl, rfl⟩ (.nil _)), rfl, rfl⟩

end VFlow
