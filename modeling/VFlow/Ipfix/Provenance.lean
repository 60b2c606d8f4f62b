import Mathlib.Data.Set.Function
import VFlow.Ipfix.Cluster

/-!
# Where the templates of a cluster come from

Every exporter has one definition for each of its template ids, and sends it in well-formed template sets. The
nodes of the cluster read these sets, look each other's templates up, and store what they get. The invariant is
that of a template that travels: it is the exporter's definition in every cache, in every reply, and in the hands
of every worker (`Safe`). A step of a node keeps it, because all that is ever stored is a template that a worker
has read or a reply (`Step.mem`), and replies come from caches.

What a worker reads is a definition as long as it stays on the frame of the sets, which it does when the packets
conform (`Conforms`). Then the cluster is safe in every run: `cluster_safe`. A data set with padding does not
conform if another set follows: the padding is read as a record, the frame is lost, and what the decoder then takes
for a template is stored (`cluster_poisoned`).
-/

namespace VFlow.Ipfix

open Scan Reader MemCache

/-! ## Definitions -/

/-- A template or an options template, as the exporter defines it. -/
inductive Definition where
  | template (t : WireTemplate)
  | options (t : WireOptions)
  deriving DecidableEq

namespace Definition

def setID : Definition → UInt16
  | template _ => 2
  | options _ => 3

def templateID : Definition → UInt16
  | template t => t.templateID
  | options t => t.templateID

def encode : Definition → List UInt8
  | template t => t.encode
  | options t => t.encode

/-- What is to be stored for it: all its specifiers. -/
def record : Definition → TemplateRecord
  | template t => t.record
  | options t => { t.record with scopeFieldSpecifiers := t.scopes.map WireField.spec }

def Ok : Definition → Prop
  | template t => t.Ok
  | options t => t.Ok

/-- Not more than one scope field: the decoder keeps the last one only. -/
def OneScope : Definition → Prop
  | template _ => True
  | options t => t.scopes.length ≤ 1

theorem templateID_record (d : Definition) : d.record.templateID = d.templateID := by
  cases d <;> rfl

theorem Ok.word {d : Definition} (h : d.Ok) (hscope : d.OneScope) : TemplateWord d.setID d.encode d.record := by
  cases d with
  | template t => exact WireTemplate.Ok.word h
  | options t =>
    have hrecord : (options t).record = t.record := by
      obtain ⟨id, scopes, fields⟩ := t
      match scopes, hscope with
      | [], _ => rfl
      | [f], _ => rfl
    rw [hrecord]
    exact WireOptions.Ok.word h

end Definition

/-! ## Packets that conform -/

variable (im : IANAInfoModel) (K : Set (IP × UInt16)) (defs : IP → UInt16 → Option Definition)

structure Defines (raddr : IP) (id : UInt16) (d : Definition) : Prop where
  setID : d.setID = id
  ok : d.Ok
  oneScope : d.OneScope
  own : defs raddr d.templateID = some d
  key : (raddr, d.templateID) ∈ K

/-- The bytes `w` start with the last `n` bytes of a set of template records: whole definitions of the exporter, and
padding that is not taken for another one. -/
def TemplatesConform (raddr : IP) (id : UInt16) (n : Nat) (w : List UInt8) : Prop :=
  ∃ (ds : List Definition) (pad rest : List UInt8), w = (ds.map Definition.encode).flatten ++ (pad ++ rest) ∧
    (ds.map Definition.encode).flatten.length + pad.length = n ∧ (∀ d ∈ ds, Defines K defs raddr id d) ∧
    (pad = [] ∨ (pad ++ rest).length ≤ 4 ∨ BigEndian.uint16 (pad ++ rest) = 0)

/-- Data records keep to the frame: they fit, or they have no bytes and the loop never ends, or no set is entered
after them. -/
def Frames (tr : TemplateRecord) (n d : Nat) : Prop :=
  DataFits im tr n d ∨ (tr.Known im ∧ tr.recordLength = 0) ∨ d ≤ 4

/-- The set at the front of `r` conforms. -/
structure SetConforms (raddr : IP) (r : List UInt8) : Prop where
  header : 4 ≤ (SetHeader.ofBytes r).length.toNat
  within : (SetHeader.ofBytes r).length.toNat ≤ r.length
  templates : (SetHeader.ofBytes r).setID = 2 ∨ (SetHeader.ofBytes r).setID = 3 →
    TemplatesConform K defs raddr (SetHeader.ofBytes r).setID ((SetHeader.ofBytes r).length.toNat - 4) (r.drop 4)
  data : 255 < (SetHeader.ofBytes r).setID → (raddr, (SetHeader.ofBytes r).setID) ∈ K ∧
    ∀ d, defs raddr (SetHeader.ofBytes r).setID = some d →
      Frames im d.record ((SetHeader.ofBytes r).length.toNat - 4) (r.length - (SetHeader.ofBytes r).length.toNat)

/-- The sets of the packet conform. -/
def SetsConform (raddr : IP) (b : List UInt8) : Prop :=
  ∀ r, Walks b r → 4 < r.length → SetConforms im K defs raddr r

/-- The packet is refused at its header, or its sets conform. -/
def Conforms (raddr : IP) (b : List UInt8) : Prop := Refused b ∨ SetsConform im K defs raddr b

/-! ## The invariant -/

/-- The entries of the cache are the definitions of the exporters. -/
def MemSafe (mem : MemCache TemplateRecord) : Prop :=
  ∀ addr id tr, (addr, id) ∈ K → mem.retrieve id addr = some tr → ∃ d, defs addr id = some d ∧ d.record = tr

/-- A worker is in the record loop of a set that conforms, `j` bytes after the start of the set; from the last set of a
packet it may run over the end. -/
structure Framed (raddr : IP) (h : SetHeader) (startCount : Nat) (tr : TemplateRecord) (s : DecodeState)
    (err : Option Error) (b : List UInt8) (r : Reader) (j : Nat) : Prop where
  conforms : SetsConform im K defs raddr b
  walks : Walks b r.data
  len : 4 < r.len
  header : h = SetHeader.ofBytes r.data
  count : startCount = r.count
  within : h.length.toNat ≤ r.len
  le : j ≤ h.length.toNat ∨ r.len ≤ h.length.toNat + 4
  reader : s.reader = r.advance j
  templates : h.setID = 2 ∨ h.setID = 3 → TemplatesConform K defs raddr h.setID (h.length.toNat - j) s.reader.data
  data : h.IsData → err = none → Frames im tr (h.length.toNat - j) (r.len - h.length.toNat)

/-- The template with which a data set is decoded is the definition of the exporter, or the set is reported. -/
def OwnTemplate (raddr : IP) (h : SetHeader) (tr : TemplateRecord) (err : Option Error) : Prop :=
  255 < h.setID → (∃ d, defs raddr h.setID = some d ∧ d.record = tr) ∨
    err = some (.unknownTemplate .ipfix raddr h.setID)

/-- What holds of a worker. -/
def WorkerSafe : Worker → Prop
  | .idle _ => True
  | .sets raddr s _ => (∃ b, SetsConform im K defs raddr b ∧ Walks b s.reader.data) ∨ s.reader.len ≤ 4
  | .missed raddr h startCount s _ => (raddr, h.setID) ∈ K ∧
      ∃ b r j, Framed im K defs raddr h startCount {} s (some (.unknownTemplate .ipfix raddr h.setID)) b r j
  | .records raddr h startCount tr s err _ => OwnTemplate defs raddr h tr err ∧
      ∃ b r j, Framed im K defs raddr h startCount tr s err b r j

variable {im K defs} {raddr : IP} {mem : MemCache TemplateRecord} {b : List UInt8} {h : SetHeader} {startCount : Nat}
  {tr : TemplateRecord} {s s' : DecodeState} {err err' : Option Error} {errs : List Error} {r : Reader} {j : Nat}

theorem MemSafe.empty : MemSafe K defs .empty := by
  intro addr id tr _ hret
  cases hret

/-- A definition is stored under its own key, and the keys of the others are different. -/
theorem MemSafe.insert (hmem : MemSafe K defs mem) (hK : Set.InjOn (fun k : IP × UInt16 => getShard k.2 k.1) K)
    {addr : IP} {id : UInt16} {d : Definition} (hkey : (addr, id) ∈ K) (hd : defs addr id = some d) :
    MemSafe K defs (mem.insert id addr d.record) := by
  intro addr' id' tr hkey' hret
  by_cases heq : getShard id' addr' = getShard id addr
  · obtain ⟨rfl, rfl⟩ := Prod.mk.inj (hK hkey' hkey heq)
    rw [retrieve_insert_self] at hret
    exact ⟨d, hd, Option.some.inj hret⟩
  · rw [retrieve_insert_of_key_ne _ _ heq] at hret
    exact hmem addr' id' tr hkey' hret

/-! ## One step of a worker -/

theorem receive_safe (hb : Conforms im K defs raddr b) : WorkerSafe im K defs (Worker.receive raddr mem b) := by
  rcases Worker.receive_cases im raddr mem b with ⟨err, -, hreceive⟩ | ⟨header, r, hheader, hreceive⟩
  · rw [hreceive]
    trivial
  · rw [hreceive]
    have hsets := hb.resolve_left (headerOk_iff.mp ⟨header, r, hheader⟩)
    obtain ⟨-, rfl⟩ := reads_messageHeader.of_ok hheader.1
    exact .inl ⟨b, hsets, .start⟩

theorem framed_start (hb : SetsConform im K defs raddr b) (hw : Walks b s.reader.data) (hlen : 4 < s.reader.len)
    (hdata : (SetHeader.ofBytes s.reader.data).IsData → err = none →
      Frames im tr ((SetHeader.ofBytes s.reader.data).length.toNat - 4)
        (s.reader.len - (SetHeader.ofBytes s.reader.data).length.toNat)) :
    Framed im K defs raddr (SetHeader.ofBytes s.reader.data) s.reader.count tr
      { s with reader := s.reader.advance 4 } err b s.reader 4 where
  conforms := hb
  walks := hw
  len := hlen
  header := rfl
  count := rfl
  within := (hb _ hw hlen).within
  le := .inl (hb _ hw hlen).header
  reader := rfl
  templates := (hb _ hw hlen).templates
  data := hdata

theorem nextSet_safe (hmem : MemSafe K defs s.mem) (hs : WorkerSafe im K defs (.sets raddr s errs)) :
    WorkerSafe im K defs (Worker.nextSet raddr errs s) := by
  unfold Worker.nextSet
  split_ifs with hlen
  swap
  · trivial
  obtain ⟨b, hb, hw⟩ := hs.resolve_right (Nat.not_le.mpr hlen)
  have hset := hb _ hw hlen
  have h4 : ¬ (SetHeader.ofBytes s.reader.data).length < 4 := by
    rw [UInt16.lt_iff_toNat_lt]
    exact Nat.not_lt.mpr hset.header
  rw [setHeader_of_le (Nat.le_of_lt hlen)]
  dsimp only
  rw [if_neg h4]
  split_ifs with hid
  · obtain ⟨hkey, hframes⟩ := hset.data hid
    cases hret : s.mem.retrieve (SetHeader.ofBytes s.reader.data).setID raddr with
    | some tr =>
      obtain ⟨d, hd, rfl⟩ := hmem raddr _ tr hkey hret
      exact ⟨fun _ => Or.inl ⟨d, hd, rfl⟩, b, s.reader, 4, framed_start hb hw hlen fun _ _ => hframes d hd⟩
    | none => exact ⟨hkey, b, s.reader, 4, framed_start hb hw hlen fun _ hnone => by cases hnone⟩
  · exact ⟨fun hlt => absurd hlt hid, b, s.reader, 4,
      framed_start hb hw hlen fun _ _ => Or.inr (Or.inl ⟨zeroTemplate_known, rfl⟩)⟩

/-- While bytes that are not padding are left, they start with a definition of the exporter. -/
theorem TemplatesConform.read {id : UInt16} {n : Nat} (hc : TemplatesConform K defs raddr id n r.data) (hn : 0 < n)
    (hlen : 4 < r.len) (hpad : BigEndian.uint16 r.data ≠ 0) :
    ∃ d, Defines K defs raddr id d ∧ readTemplate id r = (d.record, none, r.advance d.encode.length) ∧
      d.encode.length ≤ n ∧
      TemplatesConform K defs raddr id (n - d.encode.length) (r.advance d.encode.length).data := by
  obtain ⟨ds, pad, rest, hdata, hcount, hds, hend⟩ := hc
  cases ds with
  | nil =>
    simp only [List.map_nil, List.flatten_nil, List.nil_append, List.length_nil, Nat.zero_add] at hdata hcount
    rw [hdata] at hpad
    have hshort : ¬ (pad ++ rest).length ≤ 4 := by
      rw [← hdata]
      exact Nat.not_le.mpr hlen
    rcases hend with rfl | hend | hend
    · rw [List.length_nil] at hcount
      omega
    · exact absurd hend hshort
    · exact absurd hend hpad
  | cons d ds =>
    have hd := hds d List.mem_cons_self
    rw [List.map_cons, List.flatten_cons, List.append_assoc] at hdata
    rw [List.map_cons, List.flatten_cons, List.length_append] at hcount
    have hread := (hd.ok.word hd.oneScope).read ((ds.map Definition.encode).flatten ++ (pad ++ rest)) r.count
    rw [hd.setID, ← hdata] at hread
    have hnext : (r.advance d.encode.length).data = (ds.map Definition.encode).flatten ++ (pad ++ rest) := by
      rw [Cursor.advance_data, hdata, List.drop_left]
    refine ⟨d, hd, ?_, by omega, ds, pad, rest, hnext, by omega, fun e he => hds e (List.mem_cons_of_mem _ he), hend⟩
    rw [Cursor.advance, hdata, List.drop_left]
    rw [hdata] at hread
    obtain ⟨data, count⟩ := r
    obtain rfl : data = _ := hdata
    exact hread

section framed

variable (hf : Framed im K defs raddr h startCount tr s err b r j)
include hf

theorem Framed.guard (hg : recordGuard h startCount (s, err) = true) :
    err = none ∧ j < h.length.toNat ∧ 4 < r.len - j := by
  have hlen := (recordGuard_iff.mp hg).2.2
  rw [hf.reader, Cursor.len_advance] at hlen
  have hle := hf.le
  exact (recordGuard_of_le (x := (s, err)) hf.reader hf.count (by omega)).mp hg

theorem Framed.stores {p : IP × TemplateRecord}
    (hstores : (Worker.records raddr h startCount tr s err errs).stores = some p) :
    ∃ d, Defines K defs raddr h.setID d ∧ p = (raddr, d.record) := by
  dsimp only [Worker.stores] at hstores
  split_ifs at hstores with hcond
  obtain ⟨hg, hid, hpad⟩ := hcond
  obtain ⟨-, hj, hlen⟩ := hf.guard hg
  obtain ⟨d, hd, hread, -⟩ := (hf.templates hid).read (by omega)
    (by rw [hf.reader, Cursor.len_advance]; exact hlen) hpad
  rw [hread] at hstores
  exact ⟨d, hd, (Option.some.inj hstores).symm⟩

theorem Framed.next (hp : recordPass im raddr h startCount tr ({ s with mem }, err) = .next (s', err')) :
    ∃ i, Framed im K defs raddr h startCount tr s' err' b r i := by
  obtain ⟨hg, hstep⟩ := recordPass_next hp
  obtain ⟨rfl, hj, hlen⟩ := hf.guard hg
  have hslen : 4 < s.reader.len := by rw [hf.reader, Cursor.len_advance]; exact hlen
  by_cases hid : h.setID = 2 ∨ h.setID = 3
  · rw [recordPass_of_guard hg, recordBody_templateSet (t := { s with mem }) hid hslen] at hp
    split_ifs at hp with hpad
    obtain ⟨d, hd, hread, hle, hrest⟩ := (hf.templates hid).read (by omega) hslen hpad
    simp only [hread] at hp
    obtain ⟨rfl, rfl⟩ := Prod.mk.inj (LoopStep.next.inj hp)
    refine ⟨j + d.encode.length, { hf with
      le := .inl (by omega)
      reader := by rw [hf.reader, Cursor.advance_advance]
      templates := fun _ => by rw [Nat.sub_add_eq]; exact hrest
      data := fun hdata => absurd hid (isData_iff.mp hdata).1 }⟩
  · have hdata := hstep.isData hid
    rcases hf.data hdata rfl with hfits | ⟨hknown, hzero⟩ | hlast
    · obtain ⟨i, hread, hi, -, hfits'⟩ := hstep.fits (t := { s with mem }) hdata hf.reader hj hlen hf.within hfits
      exact ⟨i, { hf with
        le := .inl hi
        reader := hread
        templates := fun htemplate => absurd htemplate hid
        data := fun _ hnone => Or.inl (hfits' hnone) }⟩
    · -- records of no bytes leave the reader where it is
      obtain ⟨data, hdec⟩ := (reads_decodeData hknown s.reader).1 (by omega)
      rw [hzero, Cursor.advance_zero] at hdec
      rw [recordPass_of_guard hg, recordBody_data hdata] at hp
      simp only [hdec] at hp
      obtain ⟨rfl, rfl⟩ := Prod.mk.inj (LoopStep.next.inj hp)
      exact ⟨j, { hf with
        templates := fun htemplate => absurd htemplate hid
        data := fun _ _ => Or.inr (Or.inl ⟨hknown, hzero⟩) }⟩
    · -- whatever is read of the last set, it does not go back
      obtain ⟨k, -, hread⟩ := hstep.forward
      exact ⟨j + k, { hf with
        le := .inr (by omega)
        reader := hread.trans (by rw [← Cursor.advance_advance, ← hf.reader])
        templates := fun htemplate => absurd htemplate hid
        data := fun _ _ => Or.inr (Or.inr hlast) }⟩

theorem Framed.leave : Walks b (skipLeftover h startCount ({ s with mem }, err)).1.reader.data ∨
    (skipLeftover h startCount ({ s with mem }, err)).1.reader.len ≤ 4 := by
  by_cases hle : j ≤ h.length.toNat
  · rw [hf.count, skipLeftover_of_le (s := { s with reader := r }) (y := ({ s with mem }, err)) hf.reader
      (le_trans hle hf.within) hle, if_pos hf.within]
    have hset := hf.conforms _ hf.walks hf.len
    have hnext := hf.walks.next (Nat.le_of_lt hf.len) hset.header hset.within
    rw [← hf.header] at hnext
    exact .inl hnext
  · have hlast := hf.le.resolve_left hle
    obtain ⟨k, -, hk⟩ := skipLeftover_forward h startCount ({ s with mem }, err)
    refine .inr ?_
    rw [hk]
    change (s.reader.advance k).len ≤ 4
    rw [hf.reader, Cursor.len_advance, Cursor.len_advance]
    omega

end framed

theorem work_safe {w w' : Worker} {mem' : MemCache TemplateRecord} {reqs : List RPCRequest}
    (hmem : MemSafe K defs mem) (hw : WorkerSafe im K defs w) (hstep : Worker.Works im mem w w' mem' reqs) :
    WorkerSafe im K defs w' := by
  cases hstep with
  | set raddr s errs =>
    exact nextSet_safe (s := { s with mem }) hmem hw
  | request raddr hd startCount s errs =>
    obtain ⟨-, b, r, j, hf⟩ := hw
    exact ⟨fun _ => Or.inr rfl, b, r, j, { hf with }⟩
  | record errs hp =>
    obtain ⟨hown, b, r, j, hf⟩ := hw
    obtain ⟨i, hf'⟩ := hf.next hp
    refine ⟨fun hid => Or.inl ?_, b, r, i, hf'⟩
    -- the loop only goes round without an error
    obtain ⟨rfl, -⟩ := recordGuard_iff.mp (recordPass_next hp).1
    exact (hown hid).resolve_right (by simp)
  | leave errs hp =>
    obtain ⟨-, b, r, j, hf⟩ := hw
    rw [recordPass_done hp, Worker.collect_eq]
    exact hf.leave.imp_left fun hwalks => ⟨b, hf.conforms, hwalks⟩

theorem stores_safe {w : Worker} (hw : WorkerSafe im K defs w) {p : IP × TemplateRecord} (hp : w.stores = some p) :
    (p.1, p.2.templateID) ∈ K ∧ ∃ d, defs p.1 p.2.templateID = some d ∧ d.record = p.2 := by
  cases w with
  | idle last => cases hp
  | sets raddr s errs => cases hp
  | missed raddr hd startCount s errs => cases hp
  | records raddr hd startCount tr s err errs =>
    obtain ⟨-, b, r, j, hf⟩ := hw
    obtain ⟨d, hd, rfl⟩ := hf.stores hp
    rw [Definition.templateID_record]
    exact ⟨hd.key, d, hd.own, rfl⟩

/-! ## The cluster -/

section cluster

variable {N W : Type}

/-- A request on the way, and its answer. -/
def RpcSafe (K : Set (IP × UInt16)) (defs : IP → UInt16 → Option Definition) : RPC N → Prop
  | .waiting => True
  | .asking req _ => (req.ip, req.id) ∈ K
  | .replied req _ reply => (req.ip, req.id) ∈ K ∧
      ∀ tr, reply = some tr → ∃ d, defs req.ip req.id = some d ∧ d.record = tr

structure NodeSafe (im : IANAInfoModel) (K : Set (IP × UInt16)) (defs : IP → UInt16 → Option Definition)
    (node : Node N W) : Prop where
  mem : MemSafe K defs node.mem
  rpcChan : ∀ req, node.rpcChan = some req → (req.ip, req.id) ∈ K
  rpc : RpcSafe K defs node.rpc
  workers : ∀ w, WorkerSafe im K defs (node.workers w)

/-- The templates of the cluster are definitions, wherever they are. -/
def Safe (im : IANAInfoModel) (K : Set (IP × UInt16)) (defs : IP → UInt16 → Option Definition) (c : Cluster N W) :
    Prop :=
  ∀ n, NodeSafe im K defs (c n)

theorem safe_start : Safe im K defs (fun _ => {} : Cluster N W) := by
  intro n
  exact ⟨MemSafe.empty, fun req hreq => (by cases hreq), trivial, fun _ => trivial⟩

theorem Safe.set [DecidableEq N] {c : Cluster N W} {n : N} {node : Node N W} (hc : Safe im K defs c)
    (hnode : NodeSafe im K defs node) : Safe im K defs (c.set n node) := by
  intro m
  by_cases hm : m = n
  · rw [hm, Cluster.set_self]
    exact hnode
  · rw [Cluster.set_of_ne c node hm]
    exact hc m

theorem offer_safe {chan : Option RPCRequest} {w : Worker} (hw : WorkerSafe im K defs w)
    (hchan : ∀ req, chan = some req → (req.ip, req.id) ∈ K) (req : RPCRequest)
    (hreq : w.requests.foldl offer chan = some req) : (req.ip, req.id) ∈ K := by
  cases w with
  | idle last => exact hchan req hreq
  | sets raddr s errs => exact hchan req hreq
  | records raddr hd startCount tr s err errs => exact hchan req hreq
  | missed raddr hd startCount s errs =>
    cases chan with
    | some old => exact hchan req hreq
    | none =>
      obtain rfl := Option.some.inj hreq
      exact hw.1

theorem after_safe [DecidableEq W] {node : Node N W} {w : W} {worker : Worker} {mem' : MemCache TemplateRecord}
    {reqs : List RPCRequest} (hnode : NodeSafe im K defs node) (hworker : WorkerSafe im K defs worker)
    (hmem : MemSafe K defs mem') (hreqs : ∀ req, reqs.foldl offer node.rpcChan = some req → (req.ip, req.id) ∈ K) :
    NodeSafe im K defs (node.after w (worker, mem') reqs) := by
  refine ⟨hmem, hreqs, hnode.rpc, fun v => ?_⟩
  by_cases hv : v = w
  · rw [hv, Node.after_workers]
    exact hworker
  · rw [Node.after_workers_of_ne node _ _ hv]
    exact hnode.workers v

variable [DecidableEq N] [DecidableEq W] {gob : TemplateRecord → TemplateRecord} {c c' : Cluster N W} {a : Action N W}

theorem Safe.step (hgob : ∀ tr, gob tr = tr) (hK : Set.InjOn (fun k : IP × UInt16 => getShard k.2 k.1) K)
    (hc : Safe im K defs c) (hconforms : ∀ n w raddr b, a = .receive n w raddr b → Conforms im K defs raddr b)
    (hstep : Step im gob c a c') : Safe im K defs c' := by
  cases hstep with
  | receive raddr b hidle =>
    exact hc.set (after_safe (hc _) (receive_safe (hconforms _ _ _ _ rfl)) (hc _).mem (hc _).rpcChan)
  | @work n w worker mem' reqs hworks =>
    have hsafe := (hc n).workers w
    refine hc.set (after_safe (hc n) (work_safe (hc n).mem hsafe hworks) ?_ ?_)
    · -- what is stored is a definition
      rw [hworks.mem_eq]
      cases hstores : ((c n).workers w).stores with
      | none => exact (hc n).mem
      | some p =>
        obtain ⟨hkey, d, hd, hrecord⟩ := stores_safe hsafe hstores
        have hmem := (hc n).mem.insert hK hkey hd
        rw [hrecord] at hmem
        exact hmem
    · rw [hworks.requests_eq]
      exact offer_safe hsafe (hc n).rpcChan
  | @takeRequest n req servers hrpc hchan =>
    exact hc.set { hc n with rpcChan := fun req hreq => (by cases hreq), rpc := (hc n).rpcChan req hchan }
  | @unreachable n server req servers hrpc =>
    have hkey := (hc n).rpc
    rw [hrpc] at hkey
    exact hc.set { hc n with rpc := hkey }
  | @get n server req servers hrpc =>
    have hkey := (hc n).rpc
    rw [hrpc] at hkey
    refine hc.set { hc n with rpc := ⟨hkey, fun tr hreply => ?_⟩ }
    obtain ⟨tr', hget, rfl⟩ := Option.map_eq_some_iff.mp hreply
    rw [hgob]
    exact (hc server).mem _ _ _ hkey hget
  | @insert n req servers tr hrpc =>
    have hsafe := (hc n).rpc
    rw [hrpc] at hsafe
    obtain ⟨hkey, hreply⟩ := hsafe
    obtain ⟨d, hd, rfl⟩ := hreply tr rfl
    exact hc.set { hc n with mem := (hc n).mem.insert hK hkey hd, rpc := trivial }
  | @notAvail n req servers hrpc =>
    have hsafe := (hc n).rpc
    rw [hrpc] at hsafe
    exact hc.set { hc n with rpc := hsafe.1 }
  | @giveUp n req hrpc => exact hc.set { hc n with rpc := trivial }

end cluster

/-- **Template safety of a cluster.** Any number of nodes and workers, any interleaving: if the packets conform, no two
of their keys collide and templates are transported faithfully, then in every state that is reached the entries of
the caches are the definitions of the exporters, and every data set is decoded with the definition of its exporter
or reported as one of an unknown template. -/
theorem cluster_safe {N W : Type} [DecidableEq N] [DecidableEq W] (im : IANAInfoModel)
    (gob : TemplateRecord → TemplateRecord) (hgob : ∀ tr, gob tr = tr) (K : Set (IP × UInt16))
    (hK : Set.InjOn (fun k : IP × UInt16 => getShard k.2 k.1) K) (defs : IP → UInt16 → Option Definition)
    (as : List (Action N W)) (c : Cluster N W) (hrun : Runs (Step im gob) (fun _ => {}) as c)
    (hconforms : ∀ n w raddr b, Action.receive n w raddr b ∈ as → Conforms im K defs raddr b) :
    (∀ n addr id tr, (addr, id) ∈ K → (c n).mem.retrieve id addr = some tr →
      ∃ d, defs addr id = some d ∧ d.record = tr) ∧
    ∀ n w raddr h startCount tr s err errs, (c n).workers w = .records raddr h startCount tr s err errs →
      OwnTemplate defs raddr h tr err := by
  have hsafe : Safe im K defs c := by
    refine Runs.invariant (P := Safe im K defs) (fun a ha c c' hc hstep => ?_) safe_start hrun
    refine hc.step hgob hK (fun n w raddr b hreceive => hconforms n w raddr b ?_) hstep
    rw [← hreceive]
    exact ha
  refine ⟨fun n => (hsafe n).mem, fun n w raddr h startCount tr s err errs hrecords => ?_⟩
  have hworker := (hsafe n).workers w
  rw [hrecords] at hworker
  exact hworker.1

/-! ## Two nodes -/

def threeFields : WireTemplate :=
  { templateID := 256, fields := [{ elementID := 8, length := 4 }, { elementID := 12, length := 4 },
      { elementID := 7, length := 2 }] }

def oneTemplate (addr : IP) (id : UInt16) : Option Definition :=
  if addr = [192, 0, 2, 1] ∧ id = 256 then some (.template threeFields) else none

def threeFieldsPacket : List UInt8 := messageBytes ⟨0, 0, 0⟩ [.template [threeFields]]

def recordPacket : List UInt8 := messageBytes ⟨0, 0, 0⟩ [.data 256 [[[10, 0, 0, 1], [10, 0, 0, 2], [0, 80]]] 0]

def exporterKeys : Set (IP × UInt16) := { k | k.1 = [192, 0, 2, 1] }

theorem injOn_exporterKeys : Set.InjOn (fun k : IP × UInt16 => getShard k.2 k.1) exporterKeys := by
  rintro ⟨addr, id⟩ rfl ⟨addr', id'⟩ rfl heq
  have hid : id = id' := getShard_snd_injective [192, 0, 2, 1] (congrArg Prod.snd heq)
  rw [hid]

theorem defines_threeFields : Defines exporterKeys oneTemplate [192, 0, 2, 1] 2 (.template threeFields) where
  setID := rfl
  ok := ⟨by decide, by decide, by decide⟩
  oneScope := trivial
  own := by decide
  key := rfl

theorem setsConform_threeFieldsPacket :
    SetsConform infoModel exporterKeys oneTemplate [192, 0, 2, 1] threeFieldsPacket := by
  intro r hr hlen
  have hwalk : r ∈ [threeFieldsPacket.drop 16, []] := hr.mem_of_closed (by decide) (by decide)
  rcases List.mem_cons.mp hwalk with rfl | hr
  · refine ⟨by decide, by decide, fun _ => ⟨[.template threeFields], [], [], by decide, by decide, ?_, Or.inl rfl⟩,
      fun hid => absurd hid (by decide)⟩
    intro d hd
    rw [List.mem_singleton.mp hd]
    exact defines_threeFields
  · rw [List.mem_singleton.mp hr] at hlen
    simp at hlen

theorem setsConform_recordPacket : SetsConform infoModel exporterKeys oneTemplate [192, 0, 2, 1] recordPacket := by
  intro r hr hlen
  have hwalk : r ∈ [recordPacket.drop 16, []] := hr.mem_of_closed (by decide) (by decide)
  rcases List.mem_cons.mp hwalk with rfl | hr
  · refine ⟨by decide, by decide, fun hid => absurd hid (by decide), fun _ => ⟨rfl, fun d hd => Or.inl ?_⟩⟩
    rw [show oneTemplate [192, 0, 2, 1] (SetHeader.ofBytes (recordPacket.drop 16)).setID =
      some (.template threeFields) by decide] at hd
    obtain rfl := Option.some.inj hd
    exact ⟨fun _ => Or.inl (by decide), fun hunknown => absurd (by decide) hunknown⟩
  · rw [List.mem_singleton.mp hr] at hlen
    simp at hlen

/-- One node has the template, the other one the data set: it asks, and stores the reply. -/
def askingRun : List (Action Bool Unit) :=
  [.receive true () [192, 0, 2, 1] threeFieldsPacket, .work true (), .work true (), .work true (), .work true (),
    .receive false () [192, 0, 2, 1] recordPacket, .work false (), .work false (), .takeRequest false [true],
    .get false, .handle false]

theorem cluster_safe_asking :
    ∃ c, Runs (Step infoModel id) (fun _ => {} : Cluster Bool Unit) askingRun c ∧
      ∃ tr, (c false).mem.retrieve 256 [192, 0, 2, 1] = some tr ∧
        ∃ d, oneTemplate [192, 0, 2, 1] 256 = some d ∧ d.record = tr := by
  obtain ⟨c, hc, hret⟩ : ∃ c, askingRun.foldlM (step infoModel id) (fun _ => {}) = some c ∧
      (c false).mem.retrieve 256 [192, 0, 2, 1] = some threeFields.record := ⟨_, rfl, rfl⟩
  have hrun := (Runs.foldlM_iff fun _ _ _ => step_eq_some).mp hc
  have hsafe := cluster_safe infoModel id (fun _ => rfl) exporterKeys injOn_exporterKeys oneTemplate askingRun c hrun
    (by
    intro n w raddr b hmem
    simp only [askingRun, List.mem_cons, Action.receive.injEq, reduceCtorEq, List.not_mem_nil, or_false, false_or]
      at hmem
    rcases hmem with ⟨-, -, rfl, rfl⟩ | ⟨-, -, rfl, rfl⟩
    · exact .inr setsConform_threeFieldsPacket
    · exact .inr setsConform_recordPacket)
  exact ⟨c, hrun, _, hret, hsafe.1 false _ _ _ rfl hret⟩

/-- The template sets of the packet conform, whatever the data sets do. -/
def TemplateSetsConform (K : Set (IP × UInt16)) (defs : IP → UInt16 → Option Definition) (raddr : IP)
    (b : List UInt8) : Prop :=
  ∀ r, Walks b r → 4 < r.length → (SetHeader.ofBytes r).setID = 2 ∨ (SetHeader.ofBytes r).setID = 3 →
    TemplatesConform K defs raddr (SetHeader.ofBytes r).setID ((SetHeader.ofBytes r).length.toNat - 4) (r.drop 4)

theorem templateSetsConform_payloadPacket :
    TemplateSetsConform exporterKeys oneTemplate [192, 0, 2, 1] payloadPacket := by
  intro r hr hlen hid
  have hwalk : r ∈ [payloadPacket.drop 16, payloadPacket.drop 32, []] := hr.mem_of_closed (by decide) (by decide)
  have hnone : ∀ r ∈ [payloadPacket.drop 16, payloadPacket.drop 32, []],
      ¬ ((SetHeader.ofBytes r).setID = 2 ∨ (SetHeader.ofBytes r).setID = 3) := by decide
  exact absurd hid (hnone r hwalk)

/-- A node gets the template, and then two data sets of it, the first one padded. Now it has a template 300, which
the exporter never defined. -/
theorem cluster_poisoned :
    ∃ (as : List (Action Bool Unit)) (c : Cluster Bool Unit),
      Set.InjOn (fun k : IP × UInt16 => getShard k.2 k.1) exporterKeys ∧ ([192, 0, 2, 1], 300) ∈ exporterKeys ∧
      (∀ n w raddr b, Action.receive n w raddr b ∈ as →
        raddr = [192, 0, 2, 1] ∧ TemplateSetsConform exporterKeys oneTemplate raddr b) ∧
      Runs (Step infoModel id) (fun _ => {}) as c ∧
      ((c true).mem.retrieve 300 [192, 0, 2, 1]).isSome ∧ oneTemplate [192, 0, 2, 1] 300 = none := by
  have hfirst : Decodes infoModel [192, 0, 2, 1] .empty threeFieldsPacket
      { msg := _, err := none, mem := threeFieldsCache, rpc := [] } := ⟨3, rfl⟩
  obtain ⟨out, hout, hpoisoned⟩ : ∃ out, Decodes infoModel [192, 0, 2, 1] threeFieldsCache payloadPacket out ∧
      (out.mem.retrieve 300 [192, 0, 2, 1]).isSome := ⟨_, ⟨6, rfl⟩, rfl⟩
  have hidle : (({} : Node Bool Unit).workers ()) = .idle none := rfl
  obtain ⟨as₁, has₁, hrun₁⟩ := runs_of_decodes id (c := fun _ => {}) (n := true) (w := ()) hidle hfirst
  obtain ⟨as₂, has₂, hrun₂⟩ := runs_of_decodes id (n := true) (w := ())
    (c := Cluster.set (fun _ => {}) true (Node.after {} () (.idle _, threeFieldsCache) []))
    (by rw [Cluster.set_self, Node.after_workers]) (by rw [Cluster.set_self]; exact hout)
  refine ⟨_, _, injOn_exporterKeys, rfl, ?_, hrun₁.append hrun₂, ?_, by decide⟩
  · intro n w raddr b hmem
    simp only [List.mem_append, List.mem_cons] at hmem
    rcases hmem with (heq | hmem) | heq | hmem
    · cases heq
      exact ⟨rfl, fun r hr hlen => (setsConform_threeFieldsPacket r hr hlen).templates⟩
    · cases has₁ _ hmem
    · cases heq
      exact ⟨rfl, templateSetsConform_payloadPacket⟩
    · cases has₂ _ hmem
  · rw [Cluster.set_self]
    exact hpoisoned

end VFlow.Ipfix
