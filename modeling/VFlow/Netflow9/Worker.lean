import VFlow.Isolation

/-!
# NetFlow v9 decoders that share a cache

The workers of the NetFlow v9 collector share one cache as those of IPFIX do, and `Worker` is again a `Decode` that
stands at its next operation on it: the lookup of a template before the records of a flowset, or the insert of a
template record. This package asks no other collector for a template that it does not have.

A worker that comes to its end undisturbed has the result of `Decode` (`decodes_of_ends`). Disturbed or not, it keeps
what the message has of the packet besides its records (`labelled_work`).
-/

namespace VFlow.Netflow9

open Scan Reader

/-- A worker: without a packet, before the next flowset, or in the record loop of a flowset. The cache in the state of
`Decode` is what the worker has last seen of it; each step takes the cache as it is then. -/
inductive Worker where
  | idle (last : Option Result)
  | sets (raddr : IP) (s : DecodeState) (decodeErrors : List Error)
  | records (raddr : IP) (h : SetHeader) (startCount : Nat) (tr : TemplateRecord) (s : DecodeState)
      (err : Option Error) (decodeErrors : List Error)

namespace Worker

def receive (raddr : IP) (mem : MemCache TemplateRecord) (b : List UInt8) : Worker :=
  match PacketHeader.unmarshal (Reader.new b) with
  | .error err _ => .idle (some (finish mem (.error err)).result)
  | .ok header r =>
    match header.validate with
    | some err => .idle (some (finish mem (.error err)).result)
    | none => .sets raddr (start raddr mem header r) []

theorem receive_cases (im : IANAInfoModel) (raddr : IP) (mem : MemCache TemplateRecord) (b : List UInt8) :
    (∃ err, (packetDecoder im raddr mem).Returns b (.error err) ∧
      receive raddr mem b = .idle (some (finish mem (.error err)).result)) ∨
    ∃ header r, (packetDecoder im raddr mem).HeaderOk b header r ∧
      receive raddr mem b = .sets raddr (start raddr mem header r) [] := by
  have hreceive : receive raddr mem b = (packetDecoder im raddr mem).receive
      (fun err => idle (some (finish mem (.error err)).result)) (fun s => sets raddr s []) b := by
    unfold receive PacketDecoder.receive packetDecoder
    dsimp only
    cases PacketHeader.unmarshal (Reader.new b) with
    | error err r => rfl
    | ok header r =>
      cases h : header.validate with
      | some err => simp only [h]
      | none => simp only [h]
  rw [hreceive]
  exact PacketDecoder.receive_cases _ _ _ b

def collect (raddr : IP) (decodeErrors : List Error) : DecodeState × Option Error → Worker
  | (s, none) => .sets raddr s decodeErrors
  | (s, some err) =>
    if err.isNonfatalError then .sets raddr s (decodeErrors ++ [err])
    else .idle (some (finish s.mem (.ok (.fatal s err))).result)

def nextSet (raddr : IP) (decodeErrors : List Error) (s : DecodeState) : Worker :=
  if s.reader.len > 4 then
    let startCount := s.reader.readCount
    match SetHeader.unmarshal s.reader with
    | .error err r => collect raddr decodeErrors ({ s with reader := r }, some err)
    | .ok h r =>
      if h.length < 4 then collect raddr decodeErrors ({ s with reader := r }, some .errUnexpectedEOF)
      else
        let s := { s with reader := r }
        let (tr, err) := setTemplate raddr h s
        .records raddr h startCount tr s err decodeErrors
  else .idle (some (finish s.mem (.ok (.all s decodeErrors))).result)

variable (im : IANAInfoModel)

def work (mem : MemCache TemplateRecord) : Worker → Option (Worker × MemCache TemplateRecord)
  | .idle _ => none
  | .sets raddr s decodeErrors => some (nextSet raddr decodeErrors { s with mem }, mem)
  | .records raddr h startCount tr s err decodeErrors =>
    match recordPass im raddr h startCount tr ({ s with mem }, err) with
    | .next (s, err) => some (.records raddr h startCount tr s err decodeErrors, s.mem)
    | .done x => some (collect raddr decodeErrors (skipLeftover h startCount x), mem)

/-! ## What is still to come -/

abbrev Gives (raddr : IP) (r : Result) (m : MemCache TemplateRecord) (errs : List Error) (s : DecodeState) : Prop :=
  SetsGive DecodeState.reader (decodeSet im raddr)
    (fun t errs' => (finish t.mem (.ok (.all t errs'))).result = r ∧ t.mem = m) errs s

def Ends (r : Result) (m : MemCache TemplateRecord) : Worker → MemCache TemplateRecord → Prop
  | .idle last, mem => last = some r ∧ mem = m
  | .sets raddr s errs, mem => Gives im raddr r m errs { s with mem }
  | .records raddr h startCount tr s err errs, mem =>
    RecordsGive DecodeState.reader (decodeSet im raddr)
      (fun t errs' => (finish t.mem (.ok (.all t errs'))).result = r ∧ t.mem = m)
      (recordPass im raddr h startCount tr) (skipLeftover h startCount) errs ({ s with mem }, err)

variable {im} {raddr : IP} {errs : List Error} {r : Result} {m mem mem' : MemCache TemplateRecord}
  {s : DecodeState} {w w' : Worker}

@[simp] theorem collect_eq (x : DecodeState × Option Error) :
    collect raddr errs x = .sets raddr x.1 (errs ++ x.2.toList) := by
  obtain ⟨s, _ | e⟩ := x
  · simp [collect]
  · simp [collect]

theorem gives_of_nextSet (h : Ends im r m (nextSet raddr errs s) s.mem) : Gives im raddr r m errs s := by
  by_cases hlen : 4 < s.reader.len
  · by_cases h4 : (SetHeader.ofBytes s.reader.data).length < 4
    · simp only [nextSet, if_pos hlen, setHeader_of_le (Nat.le_of_lt hlen), if_pos h4, collect_eq] at h
      have hset : decodeSet im raddr 0 s = some ({ s with reader := s.reader.advance 4 }, some .errUnexpectedEOF) :=
        (decodeSet_eq_some hlen.le).mpr (.inl ⟨h4, rfl⟩)
      exact h.of_set decodeSet_family hlen hset
    · simp only [nextSet, if_pos hlen, setHeader_of_le (Nat.le_of_lt hlen), if_neg h4] at h
      obtain ⟨y, ⟨n, hn⟩, hgive⟩ := h
      exact hgive.of_set decodeSet_family hlen ((decodeSet_eq_some hlen.le).mpr (.inr ⟨h4, y, hn, rfl⟩))
  · simp only [nextSet, if_neg hlen] at h
    exact .of_end decodeSet_family (Nat.not_lt.mp hlen) ⟨Option.some.inj h.1, h.2⟩

theorem skipLeftover_mem (hd : SetHeader) (startCount : Nat) (x : DecodeState × Option Error) :
    (skipLeftover hd startCount x).1.mem = x.1.mem := by
  obtain ⟨k, -, hk⟩ := skipLeftover_forward hd startCount x
  rw [hk]

theorem ends_of_work (h : work im mem w = some (w', mem')) (hends : Ends im r m w' mem') : Ends im r m w mem := by
  cases w with
  | idle last => cases h
  | sets raddr s errs =>
    cases h
    exact gives_of_nextSet (s := { s with mem := mem }) hends
  | records raddr hd startCount tr s err errs =>
    cases hp : recordPass im raddr hd startCount tr ({ s with mem }, err) with
    | next x =>
      simp only [work, hp] at h
      cases h
      obtain ⟨y, hy, hgive⟩ := hends
      exact ⟨y, hy.of_next hp, hgive⟩
    | done x =>
      simp only [work, hp] at h
      cases h
      have hmem : (skipLeftover hd startCount x).1.mem = mem := by
        rw [skipLeftover_mem hd startCount x, recordPass_done hp]
      refine ⟨x, .of_done hp, ?_⟩
      rw [collect_eq, ← hmem] at hends
      exact hends

theorem decodes_of_ends {b : List UInt8} (h : Ends im r m (receive raddr mem b) mem) :
    ∃ out, Decodes im raddr mem b out ∧ out.result = r ∧ out.mem = m := by
  rcases receive_cases im raddr mem b with ⟨err, hreturns, hreceive⟩ | ⟨header, rest, hheader, hreceive⟩
  · rw [hreceive] at h
    exact ⟨_, decodes_iff.mpr ⟨_, hreturns, rfl⟩, Option.some.inj h.1, h.2⟩
  · rw [hreceive] at h
    obtain ⟨t, errs, hreturns, hresult, hmem⟩ := h
    exact ⟨_, decodes_iff.mpr ⟨_, (PacketDecoder.returns_iff_loop hheader).mpr ⟨_, rfl, hreturns⟩, rfl⟩, hresult, hmem⟩

end Worker

/-! ## What a message has of its packet -/

abbrev Message.Labels (raddr : IP) (b : List UInt8) (m : Message) : Prop :=
  VFlow.Labels PacketHeader.unmarshal PacketHeader.validate raddr b m.agentID m.header

theorem recordPass_label {im : IANAInfoModel} {raddr : IP} {h : SetHeader} {startCount : Nat} {tr : TemplateRecord}
    {s s' : DecodeState} {err err' : Option Error}
    (hp : recordPass im raddr h startCount tr (s, err) = .next (s', err')) :
    s'.msg.agentID = s.msg.agentID ∧ s'.msg.header = s.msg.header := by
  cases (recordPass_next hp).2 with
  | stored t _ _ => exact ⟨rfl, rfl⟩
  | cutOff k t _ _ => exact ⟨rfl, rfl⟩
  | record data _ _ _ => exact ⟨rfl, rfl⟩
  | failed k e _ _ _ => exact ⟨rfl, rfl⟩

namespace Worker

variable {im : IANAInfoModel} {raddr addr : IP} {b : List UInt8} {errs : List Error}
  {mem mem' : MemCache TemplateRecord} {s : DecodeState} {w w' : Worker}

def Labelled (raddr : IP) (b : List UInt8) : Worker → Prop
  | .idle last => ∀ result ∈ last, ∀ m ∈ result.msg, m.Labels raddr b
  | .sets _ s _ => s.msg.Labels raddr b
  | .records _ _ _ _ s _ _ => s.msg.Labels raddr b

theorem labelled_receive (im : IANAInfoModel) (raddr : IP) (mem : MemCache TemplateRecord) (b : List UInt8) :
    Labelled raddr b (receive raddr mem b) := by
  rcases receive_cases im raddr mem b with ⟨err, -, hreceive⟩ | ⟨header, r, hheader, hreceive⟩
  · rw [hreceive]
    rintro _ ⟨⟩ m hm
    cases hm
  · rw [hreceive]
    exact ⟨rfl, hheader.2, r, hheader.1⟩

theorem labelled_nextSet (h : s.msg.Labels raddr b) : Labelled raddr b (nextSet addr errs s) := by
  unfold nextSet
  split_ifs with hlen
  · rw [setHeader_of_le (Nat.le_of_lt hlen)]
    dsimp only
    split_ifs
    · rw [collect_eq]
      exact h
    · exact h
  · rintro _ ⟨⟩ m ⟨⟩
    exact h

theorem labelled_work (h : work im mem w = some (w', mem')) (hw : Labelled raddr b w) : Labelled raddr b w' := by
  cases w with
  | idle last => cases h
  | sets addr s errs =>
    cases h
    exact labelled_nextSet (s := { s with mem := mem }) hw
  | records addr hd startCount tr s err errs =>
    cases hp : recordPass im addr hd startCount tr ({ s with mem }, err) with
    | next x =>
      simp only [work, hp] at h
      cases h
      obtain ⟨hagent, hheader⟩ := recordPass_label hp
      change Message.Labels raddr b _
      unfold Message.Labels
      rw [hagent, hheader]
      exact hw
    | done x =>
      simp only [work, hp] at h
      cases h
      obtain ⟨k, -, hk⟩ := skipLeftover_forward hd startCount x
      rw [collect_eq]
      change Message.Labels raddr b _
      rw [hk, recordPass_done hp]
      exact hw

/-! ## Packets that define nothing new -/

def stores : Worker → Option (IP × TemplateRecord)
  | .records raddr h startCount _ s err _ =>
    if recordGuard h startCount (s, err) ∧ h.IsTemplate then
      match readTemplate h s.reader with
      | (new, none, _) => some (raddr, new)
      | (_, some _, _) => none
    else none
  | _ => none

theorem mem_of_work (h : work im mem w = some (w', mem')) : mem' = mem.storeIn TemplateRecord.templateID w.stores := by
  cases w with
  | idle last => cases h
  | sets addr s errs =>
    cases h
    rfl
  | records addr hd startCount tr s err errs =>
    by_cases hg : recordGuard hd startCount (s, err) = true
    · by_cases ht : hd.IsTemplate
      · simp only [work, recordPass_of_guard (x := ({ s with mem := mem }, err)) hg, recordBody_template ht] at h
        simp only [stores, hg, ht, and_self, if_true]
        generalize readTemplate hd s.reader = q at h ⊢
        obtain ⟨new, _ | e, r⟩ := q
        · cases h
          rfl
        · cases h
          rfl
      · simp only [stores, ht, and_false, if_false, MemCache.storeIn]
        cases hp : recordPass im addr hd startCount tr ({ s with mem }, err) with
        | next x =>
          simp only [work, hp] at h
          cases h
          cases (recordPass_next hp).2 with
          | stored t hid _ => exact absurd hid ht
          | cutOff k t hid _ => exact absurd hid ht
          | record data _ _ _ => rfl
          | failed k e _ _ _ => rfl
        | done x =>
          simp only [work, hp] at h
          cases h
          rfl
    · have hp : recordPass im addr hd startCount tr ({ s with mem := mem }, err) = .done ({ s with mem := mem }, err) :=
        recordPass_of_not_guard hg
      simp only [work, hp] at h
      cases h
      simp [stores, hg, MemCache.storeIn]

abbrev Repeats (im : IANAInfoModel) (mem : MemCache TemplateRecord) (raddr : IP) (b : List UInt8) : Prop :=
  mem.Repeats (fun w w' => work im mem w = some (w', mem)) stores TemplateRecord.templateID (receive raddr mem b)

end Worker

end VFlow.Netflow9
