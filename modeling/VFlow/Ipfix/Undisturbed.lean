import VFlow.Ipfix.Worker

/-!
# A worker that comes to its end undisturbed

`alone_of_decodes` says that a worker alone does what `Decode` does, where `Decode` returns. Here is the other
direction: a worker that has come to its end, while nobody else changed the cache, has the result of `Decode`
(`decodes_of_alone`). What is still to come from a point of the worker (`Ends`) is said in terms of the loops of
`Decode`, and goes back over a step.

Disturbed or not, a worker keeps what the message has of the packet besides its records (`Works.labelled`).
-/

namespace VFlow.Ipfix

open Scan Reader

namespace Worker

abbrev Gives (im : IANAInfoModel) (raddr : IP) (r : Result) (m : MemCache TemplateRecord) (errs : List Error)
    (s : DecodeState) : Prop :=
  SetsGive DecodeState.reader (decodeSet im raddr)
    (fun t errs' => (finish t.mem (.ok (.all t errs'))).result = r ∧ t.mem = m) errs s

/-- So does the record loop of a set, with the sets after it. -/
abbrev LoopGives (im : IANAInfoModel) (raddr : IP) (r : Result) (m : MemCache TemplateRecord) (h : SetHeader)
    (startCount : Nat) (tr : TemplateRecord) (errs : List Error) (x : DecodeState × Option Error) : Prop :=
  RecordsGive DecodeState.reader (decodeSet im raddr)
    (fun t errs' => (finish t.mem (.ok (.all t errs'))).result = r ∧ t.mem = m)
    (recordPass im raddr h startCount tr) (skipLeftover h startCount) errs x

/-- What `Decode` comes to from this point, with this cache. -/
def Ends (im : IANAInfoModel) (r : Result) (m : MemCache TemplateRecord) : Worker → MemCache TemplateRecord → Prop
  | .idle last, mem => last = some r ∧ mem = m
  | .sets raddr s errs, mem => Gives im raddr r m errs { s with mem }
  | .missed raddr h startCount s errs, mem =>
    LoopGives im raddr r m h startCount {} errs
      ({ s with mem, rpc := s.rpc ++ [{ id := h.setID, ip := raddr }] }, some (.unknownTemplate .ipfix raddr h.setID))
  | .records raddr h startCount tr s err errs, mem => LoopGives im raddr r m h startCount tr errs ({ s with mem }, err)

variable {im : IANAInfoModel} {raddr : IP} {errs : List Error} {r : Result} {m mem mem' : MemCache TemplateRecord}
  {s : DecodeState} {w w' : Worker} {reqs : List RPCRequest}

theorem gives_of_nextSet (h : Ends im r m (nextSet raddr errs s) s.mem) : Gives im raddr r m errs s := by
  by_cases hlen : 4 < s.reader.len
  · by_cases h4 : (SetHeader.ofBytes s.reader.data).length < 4
    · simp only [nextSet, if_pos hlen, setHeader_of_le (Nat.le_of_lt hlen), if_pos h4, collect_eq] at h
      have hset : decodeSet im raddr 0 s = some ({ s with reader := s.reader.advance 4 }, some .errUnexpectedEOF) :=
        (decodeSet_eq_some hlen.le).mpr (.inl ⟨h4, rfl⟩)
      exact h.of_set decodeSet_family hlen hset
    · simp only [nextSet, if_pos hlen, setHeader_of_le (Nat.le_of_lt hlen), if_neg h4] at h
      suffices hloop : LoopGives im raddr r m (SetHeader.ofBytes s.reader.data) s.reader.count (loopStart raddr s).1
          errs (loopStart raddr s).2 by
        obtain ⟨y, ⟨n, hn⟩, hgive⟩ := hloop
        exact hgive.of_set decodeSet_family hlen ((decodeSet_eq_some hlen.le).mpr (.inr ⟨h4, y, hn, rfl⟩))
      unfold loopStart setTemplate
      split_ifs at h ⊢ with hid
      · cases hret : s.mem.retrieve (SetHeader.ofBytes s.reader.data).setID raddr with
        | some tr =>
          simp only [hret] at h ⊢
          exact h
        | none =>
          simp only [hret] at h ⊢
          exact h
      · exact h
  · simp only [nextSet, if_neg hlen] at h
    exact .of_end decodeSet_family (Nat.not_lt.mp hlen) ⟨Option.some.inj h.1, h.2⟩

theorem Works.ends (h : Works im mem w w' mem' reqs) (hends : Ends im r m w' mem') : Ends im r m w mem := by
  cases h with
  | set raddr s errs => exact gives_of_nextSet (s := { s with mem := mem }) hends
  | request raddr hd startCount s errs => exact hends
  | record errs hp =>
    obtain ⟨y, hy, hgive⟩ := hends
    exact ⟨y, hy.of_next hp, hgive⟩
  | @leave raddr hd startCount tr s err x errs hp =>
    have hx := recordPass_done hp
    rw [collect_eq] at hends
    have hmem : (skipLeftover hd startCount x).1.mem = mem := by
      rw [(skipLeftover_rest hd startCount x).1, hx]
    refine ⟨x, .of_done hp, ?_⟩
    rw [← hmem] at hends
    exact hends

theorem decodes_of_ends {b : List UInt8} (h : Ends im r m (receive raddr mem b) mem) :
    ∃ out, Decodes im raddr mem b out ∧ out.result = r ∧ out.mem = m := by
  rcases receive_cases im raddr mem b with ⟨err, hreturns, hreceive⟩ | ⟨header, rest, hheader, hreceive⟩
  · rw [hreceive] at h
    exact ⟨_, decodes_iff.mpr ⟨_, hreturns, rfl⟩, Option.some.inj h.1, h.2⟩
  · rw [hreceive] at h
    obtain ⟨t, errs, hreturns, hresult, hmem⟩ := h
    exact ⟨_, decodes_iff.mpr ⟨_, (PacketDecoder.returns_iff_loop hheader).mpr ⟨_, rfl, hreturns⟩, rfl⟩, hresult, hmem⟩

/-- **A worker that was not disturbed has the result of `Decode`.** -/
theorem decodes_of_alone {b : List UInt8} {rss : List (List RPCRequest)}
    (h : Runs (Alone im) (receive raddr mem b, mem) rss (.idle (some r), m)) :
    ∃ out, Decodes im raddr mem b out ∧ out.result = r ∧ out.mem = m := by
  refine decodes_of_ends ?_
  suffices hback : ∀ {x y} {rss}, Runs (Alone im) x rss y → Ends im r m y.1 y.2 → Ends im r m x.1 x.2 from
    hback h ⟨rfl, rfl⟩
  intro x y rss hruns hy
  induction hruns with
  | nil => exact hy
  | cons hstep _ ih => exact Works.ends hstep (ih hy)

end Worker

/-! ## What a message has of its packet -/

abbrev Message.Labels (raddr : IP) (b : List UInt8) (m : Message) : Prop :=
  VFlow.Labels MessageHeader.unmarshal MessageHeader.validate raddr b m.agentID m.header

theorem recordPass_label {im : IANAInfoModel} {raddr : IP} {h : SetHeader} {startCount : Nat} {tr : TemplateRecord}
    {s s' : DecodeState} {err err' : Option Error}
    (hp : recordPass im raddr h startCount tr (s, err) = .next (s', err')) :
    ∃ dataSets, s'.msg = { s.msg with dataSets } := by
  cases (recordPass_next hp).2 with
  | stored k t _ _ _ => exact ⟨_, rfl⟩
  | dropped k _ _ _ => exact ⟨_, rfl⟩
  | record data _ _ _ => exact ⟨_, rfl⟩
  | failed k e _ _ _ => exact ⟨_, rfl⟩

namespace Worker

variable {im : IANAInfoModel} {raddr addr : IP} {b : List UInt8} {errs : List Error}
  {mem mem' : MemCache TemplateRecord} {s : DecodeState} {w w' : Worker} {reqs : List RPCRequest}

def Labelled (raddr : IP) (b : List UInt8) : Worker → Prop
  | .idle last => ∀ result ∈ last, ∀ m ∈ result.msg, m.Labels raddr b
  | .sets _ s _ => s.msg.Labels raddr b
  | .missed _ _ _ s _ => s.msg.Labels raddr b
  | .records _ _ _ _ s _ _ => s.msg.Labels raddr b

theorem labelled_receive (im : IANAInfoModel) (raddr : IP) (mem : MemCache TemplateRecord) (b : List UInt8) :
    Labelled raddr b (receive raddr mem b) := by
  rcases receive_cases im raddr mem b with ⟨err, -, hreceive⟩ | ⟨header, r, hheader, hreceive⟩
  · rw [hreceive]
    rintro _ ⟨⟩ m hm
    cases hm
  · rw [hreceive]
    exact ⟨rfl, hheader.2, r, hheader.1⟩

theorem labelled_nextSet (h : s.msg.Labels raddr b) : Labelled raddr b (nextSet addr errs s) := by
  unfold nextSet
  split_ifs with hlen
  · rw [setHeader_of_le (Nat.le_of_lt hlen)]
    dsimp only
    split_ifs
    · rw [collect_eq]
      exact h
    · split
      · exact h
      · exact h
    · exact h
  · rintro _ ⟨⟩ m ⟨⟩
    exact h

theorem Works.labelled (h : Works im mem w w' mem' reqs) (hw : Labelled raddr b w) : Labelled raddr b w' := by
  cases h with
  | set addr s errs => exact labelled_nextSet (s := { s with mem := mem }) hw
  | request addr hd startCount s errs => exact hw
  | record errs hp =>
    obtain ⟨dataSets, hmsg⟩ := recordPass_label hp
    change Message.Labels raddr b _
    rw [hmsg]
    exact hw
  | @leave addr hd startCount tr s err x errs hp =>
    obtain ⟨k, -, hk⟩ := skipLeftover_forward hd startCount x
    rw [collect_eq]
    change Message.Labels raddr b _
    rw [hk, recordPass_done hp]
    exact hw

/-! ## Packets that define nothing new -/

/-- Every template that the packet defines is in the cache, as it is defined. -/
abbrev Repeats (im : IANAInfoModel) (mem : MemCache TemplateRecord) (raddr : IP) (b : List UInt8) : Prop :=
  mem.Repeats (fun w w' => ∃ reqs, work im mem w = some (w', mem, reqs)) stores TemplateRecord.templateID
    (receive raddr mem b)

/-- Runs a worker alone, and looks at each template that it would store. -/
def repeatsFrom (im : IANAInfoModel) (mem : MemCache TemplateRecord) : Nat → Worker → Bool
  | 0, _ => false
  | fuel + 1, w =>
    (match w.stores with
      | none => true
      | some p => decide (mem.retrieve p.2.templateID p.1 = some p.2)) &&
    match work im mem w with
    | none => true
    | some (w', _) => repeatsFrom im mem fuel w'

theorem repeats_of_repeatsFrom {fuel : Nat} (h : repeatsFrom im mem fuel (receive raddr mem b) = true) :
    Repeats im mem raddr b := by
  intro w hw
  have hfuel : ∃ fuel, repeatsFrom im mem fuel w = true := by
    induction hw with
    | refl => exact ⟨fuel, h⟩
    | tail _ hstep ih =>
      obtain ⟨fuel, hfuel⟩ := ih
      obtain ⟨reqs, hstep⟩ := hstep
      cases fuel with
      | zero => cases hfuel
      | succ fuel =>
        simp only [repeatsFrom, hstep, Bool.and_eq_true] at hfuel
        exact ⟨fuel, hfuel.2⟩
  obtain ⟨fuel, hfuel⟩ := hfuel
  cases fuel with
  | zero => cases hfuel
  | succ fuel =>
    intro p hp
    simp only [repeatsFrom, show w.stores = some p from hp, Bool.and_eq_true, decide_eq_true_eq] at hfuel
    exact hfuel.1

end Worker

end VFlow.Ipfix
