import VFlow.Ipfix.Containment
import VFlow.Isolation

/-!
# Decoder workers that share a cache

The workers of a collector run `Decode` at the same time, on one cache. Its operations lock a shard each, so
between two of them the other workers, and the RPC goroutine, may change the cache. `Worker` is a `Decode`
that stands at the next of these operations, and `Worker.work` is what it does up to the one after: one
lookup, one insert or one offer of a request at most (`Works`).

A worker that is not disturbed does what `Decode` does (`alone_of_decodes`).
-/

namespace VFlow.Ipfix

open Scan Reader

/-- A worker: without a packet, before the next set, at the request of a template that was not found, or in
the record loop of a set. The cache in the state of `Decode` is what the worker has last seen of it; each step
takes the cache as it is then. -/
inductive Worker where
  | idle (last : Option Result)
  | sets (raddr : IP) (s : DecodeState) (decodeErrors : List Error)
  | missed (raddr : IP) (h : SetHeader) (startCount : Nat) (s : DecodeState) (decodeErrors : List Error)
  | records (raddr : IP) (h : SetHeader) (startCount : Nat) (tr : TemplateRecord) (s : DecodeState)
      (err : Option Error) (decodeErrors : List Error)

namespace Worker

/-- `Decode` up to the loop over the sets. -/
def receive (raddr : IP) (mem : MemCache TemplateRecord) (b : List UInt8) : Worker :=
  match MessageHeader.unmarshal (Reader.new b) with
  | .error err _ => .idle (some (finish mem (.error err)).result)
  | .ok header r =>
    match header.validate with
    | some err => .idle (some (finish mem (.error err)).result)
    | none => .sets raddr (start raddr mem header r) []

theorem receive_cases (im : IANAInfoModel) (raddr : IP) (mem : MemCache TemplateRecord) (b : List UInt8) :
    (∃ err, (packetDecoder im raddr mem).Returns b (.error err) ∧
      receive raddr mem b = .idle (some (finish mem (.error err)).result)) ∨
    ∃ header r, (packetDecoder im raddr mem).HeaderOk b header r ∧
      receive raddr mem b = .sets raddr (start raddr mem header r) [] := by
  have hreceive : receive raddr mem b = (packetDecoder im raddr mem).receive
      (fun err => idle (some (finish mem (.error err)).result)) (fun s => sets raddr s []) b := by
    unfold receive PacketDecoder.receive packetDecoder
    dsimp only
    cases MessageHeader.unmarshal (Reader.new b) with
    | error err r => rfl
    | ok header r =>
      cases h : header.validate with
      | some err => simp only [h]
      | none => simp only [h]
  rw [hreceive]
  exact PacketDecoder.receive_cases _ _ _ b

/-- A set has been decoded: its error joins the others, or is returned at once. -/
def collect (raddr : IP) (decodeErrors : List Error) : DecodeState × Option Error → Worker
  | (s, none) => .sets raddr s decodeErrors
  | (s, some err) =>
    if err.isNonfatalError then .sets raddr s (decodeErrors ++ [err])
    else .idle (some (finish s.mem (.ok (.fatal s err))).result)

/-- The loop over the sets, up to the record loop of the next set: the end of the loop, the set header, and the
lookup of the template. -/
def nextSet (raddr : IP) (decodeErrors : List Error) (s : DecodeState) : Worker :=
  if s.reader.len > 4 then
    let startCount := s.reader.readCount
    match SetHeader.unmarshal s.reader with
    | .error err r => collect raddr decodeErrors ({ s with reader := r }, some err)
    | .ok h r =>
      if h.length < 4 then collect raddr decodeErrors ({ s with reader := r }, some .errUnexpectedEOF)
      else if h.setID > 255 then
        match s.mem.retrieve h.setID raddr with
        | some tr => .records raddr h startCount tr { s with reader := r } none decodeErrors
        | none => .missed raddr h startCount { s with reader := r } decodeErrors
      else .records raddr h startCount {} { s with reader := r } none decodeErrors
  else .idle (some (finish s.mem (.ok (.all s decodeErrors))).result)

variable (im : IANAInfoModel)

/-- The next step of a worker with the cache `mem`: the worker and the cache after it, and the requests that it
offers. -/
def work (mem : MemCache TemplateRecord) : Worker → Option (Worker × MemCache TemplateRecord × List RPCRequest)
  | .idle _ => none
  | .sets raddr s decodeErrors => some (nextSet raddr decodeErrors { s with mem }, mem, [])
  | .missed raddr h startCount s decodeErrors =>
    let req : RPCRequest := { id := h.setID, ip := raddr }
    some (.records raddr h startCount {} { s with mem, rpc := s.rpc ++ [req] }
      (some (.unknownTemplate .ipfix raddr h.setID)) decodeErrors, mem, [req])
  | .records raddr h startCount tr s err decodeErrors =>
    match recordPass im raddr h startCount tr ({ s with mem }, err) with
    | .next (s, err) => some (.records raddr h startCount tr s err decodeErrors, s.mem, [])
    | .done x => some (collect raddr decodeErrors (skipLeftover h startCount x), mem, [])

/-- The steps of a worker in cases. -/
inductive Works (mem : MemCache TemplateRecord) :
    Worker → Worker → MemCache TemplateRecord → List RPCRequest → Prop
  | set (raddr : IP) (s : DecodeState) (errs : List Error) :
      Works mem (.sets raddr s errs) (nextSet raddr errs { s with mem }) mem []
  | request (raddr : IP) (h : SetHeader) (startCount : Nat) (s : DecodeState) (errs : List Error) :
      Works mem (.missed raddr h startCount s errs)
        (.records raddr h startCount {} { s with mem, rpc := s.rpc ++ [{ id := h.setID, ip := raddr }] }
          (some (.unknownTemplate .ipfix raddr h.setID)) errs) mem [{ id := h.setID, ip := raddr }]
  | record {raddr : IP} {h : SetHeader} {startCount : Nat} {tr : TemplateRecord} {s s' : DecodeState}
      {err err' : Option Error} (errs : List Error)
      (hp : recordPass im raddr h startCount tr ({ s with mem }, err) = .next (s', err')) :
      Works mem (.records raddr h startCount tr s err errs) (.records raddr h startCount tr s' err' errs) s'.mem []
  | leave {raddr : IP} {h : SetHeader} {startCount : Nat} {tr : TemplateRecord} {s : DecodeState}
      {err : Option Error} {x : DecodeState × Option Error} (errs : List Error)
      (hp : recordPass im raddr h startCount tr ({ s with mem }, err) = .done x) :
      Works mem (.records raddr h startCount tr s err errs) (collect raddr errs (skipLeftover h startCount x)) mem []

variable {im} {mem mem' : MemCache TemplateRecord} {w w' : Worker} {reqs : List RPCRequest}

theorem work_eq_some : work im mem w = some (w', mem', reqs) ↔ Works im mem w w' mem' reqs := by
  constructor
  · intro h
    cases w with
    | idle last => cases h
    | sets raddr s errs =>
      cases h
      exact .set raddr s errs
    | missed raddr hd startCount s errs =>
      cases h
      exact .request raddr hd startCount s errs
    | records raddr hd startCount tr s err errs =>
      cases hp : recordPass im raddr hd startCount tr ({ s with mem }, err) with
      | next x =>
        simp only [work, hp] at h
        cases h
        exact .record errs hp
      | done x =>
        simp only [work, hp] at h
        cases h
        exact .leave errs hp
  · intro h
    cases h with
    | set raddr s errs => rfl
    | request raddr hd startCount s errs => rfl
    | record errs hp => simp only [work, hp]
    | leave errs hp => simp only [work, hp]

/-! ## What a step does to the rest of the collector -/

def stores : Worker → Option (IP × TemplateRecord)
  | .records raddr h startCount _ s err _ =>
    if recordGuard h startCount (s, err) ∧ (h.setID = 2 ∨ h.setID = 3) ∧ BigEndian.uint16 s.reader.data ≠ 0 then
      match readTemplate h.setID s.reader with
      | (new, none, _) => some (raddr, new)
      | (_, some _, _) => none
    else none
  | _ => none

def requests : Worker → List RPCRequest
  | .missed raddr h _ _ _ => [{ id := h.setID, ip := raddr }]
  | _ => []

theorem Works.requests_eq (h : Works im mem w w' mem' reqs) : reqs = w.requests := by
  cases h <;> rfl

section records

variable {raddr : IP} {hd : SetHeader} {startCount : Nat} {tr : TemplateRecord} {s s' : DecodeState}
  {err err' : Option Error} {errs : List Error}

theorem mem_of_next (hp : recordPass im raddr hd startCount tr ({ s with mem }, err) = .next (s', err')) :
    s'.mem = mem.storeIn TemplateRecord.templateID (stores (.records raddr hd startCount tr s err errs)) := by
  obtain ⟨hg, hstep⟩ := recordPass_next hp
  obtain ⟨rfl, -, hlen⟩ := recordGuard_iff.mp hg
  have hg' : recordGuard hd startCount (s, none) = true := hg
  by_cases hid : hd.setID = 2 ∨ hd.setID = 3
  · rw [recordPass_of_guard hg, recordBody_templateSet hid hlen] at hp
    split_ifs at hp with hpad
    simp only [stores, hg', hid, true_and, if_pos (show _ ≠ _ from hpad)]
    dsimp only at hp
    generalize readTemplate hd.setID s.reader = q at hp ⊢
    obtain ⟨new, _ | e, r⟩ := q
    · cases hp
      rfl
    · cases hp
      rfl
  · have hmem := hstep.mem_eq (hstep.isData hid)
    simp only [stores, hid, false_and, and_false, if_false, MemCache.storeIn]
    exact hmem

theorem stores_of_done {x : DecodeState × Option Error}
    (hp : recordPass im raddr hd startCount tr ({ s with mem }, err) = .done x) :
    stores (.records raddr hd startCount tr s err errs) = none := by
  dsimp only [stores]
  split_ifs with h
  swap
  · rfl
  obtain ⟨hg, hid, hpad⟩ := h
  obtain ⟨rfl, -, hlen⟩ := recordGuard_iff.mp hg
  rw [recordPass_of_guard (x := ({ s with mem }, none)) hg,
    recordBody_templateSet (t := { s with mem }) hid hlen, if_neg hpad] at hp
  dsimp only at hp
  generalize readTemplate hd.setID s.reader = q at hp ⊢
  obtain ⟨new, _ | e, r⟩ := q <;> cases hp

end records

theorem Works.mem_eq (h : Works im mem w w' mem' reqs) : mem' = mem.storeIn TemplateRecord.templateID w.stores := by
  cases h with
  | set raddr s errs => rfl
  | request raddr hd startCount s errs => rfl
  | record errs hp => exact mem_of_next hp
  | leave errs hp =>
    rw [stores_of_done hp]
    rfl

/-! ## A worker alone -/

/-- The steps of a worker that is the only one to use the cache, with the requests it offers. -/
def Alone (im : IANAInfoModel) (x : Worker × MemCache TemplateRecord) (reqs : List RPCRequest)
    (y : Worker × MemCache TemplateRecord) : Prop :=
  Works im x.2 x.1 y.1 y.2 reqs

theorem Works.alone (h : Works im mem w w' mem' reqs) : Alone im (w, mem) reqs (w', mem') := h

variable {raddr : IP} {s : DecodeState} {err : Option Error} {errs : List Error} {n m : Nat}

@[simp] theorem collect_eq (x : DecodeState × Option Error) :
    collect raddr errs x = .sets raddr x.1 (errs ++ x.2.toList) := by
  obtain ⟨s, _ | e⟩ := x
  · simp [collect]
  · simp [collect]

theorem alone_records (errs : List Error) {hd : SetHeader} {startCount : Nat} {tr : TemplateRecord}
    {y : DecodeState × Option Error}
    (hrun : Loop.run (recordLoop (recordPass im raddr hd startCount tr) n) m (s, err) = some y) :
    ∃ rss, rss.flatten = [] ∧
      Runs (Alone im) (.records raddr hd startCount tr s err errs, s.mem) rss
        (collect raddr errs (skipLeftover hd startCount y), y.1.mem) := by
  induction m generalizing s err with
  | zero => simp [Loop.run] at hrun
  | succ m ih =>
    obtain ⟨k, hk, hdone | ⟨⟨s', err'⟩, hnext, hrest⟩⟩ := Loop.run_cases hrun
    · have hp : recordPass im raddr hd startCount tr (s, err) = .done y := Option.some.inj hdone
      obtain rfl := recordPass_done hp
      exact ⟨[[]], rfl, .cons (Works.leave (s := s) errs hp).alone (.nil _)⟩
    · obtain rfl : m = k := by omega
      obtain ⟨rss, hnil, hruns⟩ := ih hrest
      exact ⟨[] :: rss, hnil, .cons (Works.record (s := s) errs (Option.some.inj hnext)).alone hruns⟩

end Worker

theorem skipLeftover_rest (hd : SetHeader) (startCount : Nat) (x : DecodeState × Option Error) :
    (skipLeftover hd startCount x).1.mem = x.1.mem ∧ (skipLeftover hd startCount x).1.rpc = x.1.rpc := by
  obtain ⟨k, -, hk⟩ := skipLeftover_forward hd startCount x
  rw [hk]
  exact ⟨rfl, rfl⟩

theorem setLoop_rpc {im : IANAInfoModel} {raddr : IP} {s : DecodeState} {y : DecodeState × Option Error} {n m : Nat}
    (hrun : Loop.run (setLoop im raddr s n) m (loopStart raddr s).2 = some y) :
    y.1.rpc = (loopStart raddr s).2.1.rpc := by
  refine setLoop_invariant (P := fun x => x.1.rpc = (loopStart raddr s).2.1.rpc) (fun t x' ht _ hstep => ?_) rfl hrun
  cases hstep with
  | stored k u _ _ _ => exact ht
  | dropped k _ _ _ => exact ht
  | record data _ _ _ => exact ht
  | failed k e _ _ _ => exact ht

namespace Worker

variable {im : IANAInfoModel} {mem : MemCache TemplateRecord} {raddr : IP} {s s' t : DecodeState} {err : Option Error}
  {errs errs' : List Error} {fuel n : Nat}

theorem alone_of_nextSet {w : Worker} (h : nextSet raddr errs s = w) :
    Alone im (.sets raddr s errs, s.mem) [] (w, s.mem) := by
  rw [← h]
  exact .set raddr s errs

theorem alone_loopStart (im : IANAInfoModel) (raddr : IP) (errs : List Error) (hlen : 4 < s.reader.len)
    (h4 : ¬ (SetHeader.ofBytes s.reader.data).length < 4) :
    ∃ rss, (loopStart raddr s).2.1.rpc = s.rpc ++ rss.flatten ∧
      Runs (Alone im) (.sets raddr s errs, s.mem) rss
        (.records raddr (SetHeader.ofBytes s.reader.data) s.reader.count (loopStart raddr s).1
          (loopStart raddr s).2.1 (loopStart raddr s).2.2 errs, s.mem) := by
  have hnext : nextSet raddr errs s =
      if (SetHeader.ofBytes s.reader.data).setID > 255 then
        match s.mem.retrieve (SetHeader.ofBytes s.reader.data).setID raddr with
        | some tr => .records raddr (SetHeader.ofBytes s.reader.data) s.reader.count tr
            { s with reader := s.reader.advance 4 } none errs
        | none => .missed raddr (SetHeader.ofBytes s.reader.data) s.reader.count
            { s with reader := s.reader.advance 4 } errs
      else .records raddr (SetHeader.ofBytes s.reader.data) s.reader.count {}
        { s with reader := s.reader.advance 4 } none errs := by
    simp only [nextSet, if_pos hlen, setHeader_of_le (Nat.le_of_lt hlen), if_neg h4]
    rfl
  unfold loopStart setTemplate
  by_cases hid : (SetHeader.ofBytes s.reader.data).setID > 255
  · rw [if_pos hid] at hnext ⊢
    cases hret : s.mem.retrieve (SetHeader.ofBytes s.reader.data).setID raddr with
    | some tr =>
      simp only [hret] at hnext ⊢
      exact ⟨[[]], (List.append_nil _).symm, .cons (alone_of_nextSet hnext) (.nil _)⟩
    | none =>
      simp only [hret] at hnext ⊢
      exact ⟨[[], [_]], rfl, .cons (alone_of_nextSet hnext) (.cons (Works.request raddr _ _ _ errs).alone (.nil _))⟩
  · rw [if_neg hid] at hnext ⊢
    exact ⟨[[]], (List.append_nil _).symm, .cons (alone_of_nextSet hnext) (.nil _)⟩

theorem alone_set (errs : List Error) (hlen : 4 < s.reader.len) (hset : decodeSet im raddr fuel s = some (s', err)) :
    ∃ rss, s'.rpc = s.rpc ++ rss.flatten ∧
      Runs (Alone im) (.sets raddr s errs, s.mem) rss (.sets raddr s' (errs ++ err.toList), s'.mem) := by
  rcases (decodeSet_eq_some hlen.le).mp hset with ⟨h4, hout⟩ | ⟨h4, y, hy, hout⟩
  · obtain ⟨rfl, rfl⟩ := Prod.mk.inj hout
    refine ⟨[[]], (List.append_nil _).symm, .cons (alone_of_nextSet ?_) (.nil _)⟩
    simp [nextSet, if_pos hlen, setHeader_of_le (Nat.le_of_lt hlen), if_pos h4]
  · obtain ⟨rss, hrpc, hstart⟩ := alone_loopStart im raddr errs hlen h4
    obtain ⟨rss', hnil, hloop⟩ := alone_records errs hy
    obtain ⟨hmem, hrpc'⟩ := skipLeftover_rest (SetHeader.ofBytes s.reader.data) s.reader.count y
    rw [← hout] at hmem hrpc'
    refine ⟨rss ++ rss', ?_, ?_⟩
    · rw [List.flatten_append, hnil, List.append_nil, ← hrpc, ← setLoop_rpc hy]
      exact hrpc'
    · rw [← hout, collect_eq, ← hmem] at hloop
      obtain ⟨rpc, hloopStart⟩ := loopStart_eq raddr s
      rw [hloopStart] at hloop hstart
      exact hstart.append hloop

theorem alone_sets (hrun : Loop.run (setPass DecodeState.reader (decodeSet im raddr) fuel) n (s, errs) =
    some (.all t errs')) :
    ∃ rss, t.rpc = s.rpc ++ rss.flatten ∧
      Runs (Alone im) (.sets raddr s errs, s.mem) rss
        (.idle (some (finish t.mem (.ok (.all t errs'))).result), t.mem) := by
  induction n generalizing s errs with
  | zero => simp [Loop.run] at hrun
  | succ n ih =>
    obtain ⟨k, hk, hdone | ⟨⟨s', errs₁⟩, hnext, hrest⟩⟩ := Loop.run_cases hrun
    · obtain ⟨hlen, hend⟩ := setPass_eq_done.mp hdone
      cases hend
      refine ⟨[[]], (List.append_nil _).symm, .cons (alone_of_nextSet ?_) (.nil _)⟩
      rw [nextSet, if_neg (Nat.not_lt.mpr hlen)]
    · obtain rfl : n = k := by omega
      obtain ⟨hlen, err, hset, rfl⟩ := setPass_eq_next.mp hnext
      obtain ⟨rss, hrpc, hfirst⟩ := alone_set errs hlen hset
      obtain ⟨rss', hrpc', hothers⟩ := ih hrest
      refine ⟨rss ++ rss', ?_, hfirst.append hothers⟩
      rw [hrpc', hrpc, List.flatten_append, List.append_assoc]

/-- **A worker alone does what `Decode` does**: from the packet to the result, the cache and the requests. -/
theorem alone_of_decodes {b : List UInt8} {out : Outcome} (h : Decodes im raddr mem b out) :
    ∃ rss, rss.flatten = out.rpc ∧
      Runs (Alone im) (receive raddr mem b, mem) rss (.idle (some out.result), out.mem) := by
  obtain ⟨e, he, rfl⟩ := decodes_iff.mp h
  -- a header that is refused is the result
  have hrefused : ∀ e', receive raddr mem b = .idle (some (finish mem (.error e')).result) →
      (∀ fuel, (packetDecoder im raddr mem).decode b fuel = some (.error e')) →
      ∃ rss, rss.flatten = (finish mem e).rpc ∧
        Runs (Alone im) (receive raddr mem b, mem) rss (.idle (some (finish mem e).result), (finish mem e).mem) := by
    intro e' hreceive hdec
    obtain ⟨n, hn⟩ := he
    rw [hdec] at hn
    cases hn
    rw [hreceive]
    exact ⟨[], rfl, .nil _⟩
  cases hh : MessageHeader.unmarshal (Reader.new b) with
  | error e' r => exact hrefused e' (by rw [receive, hh]) fun fuel => by simp [PacketDecoder.decode, packetDecoder, hh]
  | ok header r =>
    cases hv : header.validate with
    | some e' =>
      exact hrefused e' (by simp [receive, hh, hv]) fun fuel => by simp [PacketDecoder.decode, packetDecoder, hh, hv]
    | none =>
      obtain ⟨end_, rfl, n, hn⟩ := (PacketDecoder.returns_iff_loop ⟨hh, hv⟩).mp he
      obtain ⟨t, errs, rfl⟩ := run_setPass_eq_all hn
      obtain ⟨rss, hrpc, hrun⟩ := alone_sets hn
      refine ⟨rss, hrpc.symm, ?_⟩
      rw [receive, hh]
      simp only [hv]
      exact hrun

end Worker

end VFlow.Ipfix
