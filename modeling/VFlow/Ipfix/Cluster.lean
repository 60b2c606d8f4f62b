import Mathlib.Data.Set.Function
import VFlow.Ipfix.Worker

/-!
# A cluster of collectors

A node has a cache, decoder workers, the channel `rpcChan` with room for one request, and the RPC goroutine,
which takes a request, asks the other nodes one after the other, and stores the first reply. `step` lets one of
these take its next step, on any node, so that a run of the cluster is an interleaving of all of them.

`Step` has the steps in cases. A step of a node leaves the other nodes alone, and what it can write into the
cache of its own node is a template that one of the workers has read, or a reply (`Step.mem`). Without
interference a worker does on its node what `Decode` does (`runs_of_decodes`).
-/

namespace VFlow.Ipfix

open Scan Reader MemCache

/-! ## The cluster -/

/-- The RPC goroutine of a node: waiting for a request, asking the servers in turn, or with the answer of one of
them (none when the template is not available there). -/
inductive RPC (N : Type) where
  | waiting
  | asking (req : RPCRequest) (servers : List N)
  | replied (req : RPCRequest) (servers : List N) (reply : Option TemplateRecord)

structure Node (N W : Type) where
  mem : MemCache TemplateRecord := .empty
  rpcChan : Option RPCRequest := none
  rpc : RPC N := .waiting
  workers : W → Worker := fun _ => .idle none

/-- `IRPC.Get`, on the node that is asked. -/
def Node.get {N W : Type} (node : Node N W) (req : RPCRequest) : Option TemplateRecord :=
  node.mem.retrieve req.id req.ip

/-- The send of a request, which does not block: the request is dropped when the channel is full. -/
def offer (rpcChan : Option RPCRequest) (req : RPCRequest) : Option RPCRequest :=
  match rpcChan with
  | none => some req
  | some old => some old

abbrev Cluster (N W : Type) := N → Node N W

inductive Action (N W : Type) where
  /-- A worker of the node gets a packet. -/
  | receive (n : N) (w : W) (raddr : IP) (b : List UInt8)
  /-- A worker of the node takes a step. -/
  | work (n : N) (w : W)
  /-- The RPC goroutine takes a request and the list of the other nodes it knows. -/
  | takeRequest (n : N) (servers : List N)
  /-- The next server is not reached, or the call fails. -/
  | unreachable (n : N)
  /-- The next server looks the template up and answers. -/
  | get (n : N)
  /-- The RPC goroutine handles the answer, or finds that there is no server left. -/
  | handle (n : N)

section set

variable {N W : Type} [DecidableEq N]

def Cluster.set (c : Cluster N W) (n : N) (node : Node N W) : Cluster N W := Function.update c n node

@[simp] theorem Cluster.set_self (c : Cluster N W) (n : N) (node : Node N W) : c.set n node n = node := by
  rw [Cluster.set, Function.update_self]

theorem Cluster.set_of_ne (c : Cluster N W) {n m : N} (node : Node N W) (h : m ≠ n) : c.set n node m = c m := by
  rw [Cluster.set, Function.update_of_ne h]

end set

section after

variable {N W : Type} [DecidableEq W]

/-- The node after steps of the worker `w`, which leave the worker and the cache `x` and offer requests. -/
def Node.after (node : Node N W) (w : W) (x : Worker × MemCache TemplateRecord) (reqs : List RPCRequest) : Node N W :=
  { node with mem := x.2, rpcChan := reqs.foldl offer node.rpcChan, workers := Function.update node.workers w x.1 }

@[simp] theorem Node.after_workers (node : Node N W) (w : W) (x : Worker × MemCache TemplateRecord)
    (reqs : List RPCRequest) : (node.after w x reqs).workers w = x.1 := by
  simp [Node.after]

theorem Node.after_workers_of_ne (node : Node N W) {w v : W} (x : Worker × MemCache TemplateRecord)
    (reqs : List RPCRequest) (h : v ≠ w) : (node.after w x reqs).workers v = node.workers v := by
  simp [Node.after, Function.update_of_ne h]

theorem Node.after_after (node : Node N W) (w : W) (x y : Worker × MemCache TemplateRecord)
    (reqs reqs' : List RPCRequest) : (node.after w x reqs).after w y reqs' = node.after w y (reqs ++ reqs') := by
  simp only [Node.after, Function.update_idem, List.foldl_append]

end after

variable {N W : Type} [DecidableEq N] [DecidableEq W]

/-- One step of the cluster; `gob` is what becomes of a template on the way between two nodes. -/
def step (im : IANAInfoModel) (gob : TemplateRecord → TemplateRecord) (c : Cluster N W) :
    Action N W → Option (Cluster N W)
  | .receive n w raddr b =>
    match (c n).workers w with
    | .idle _ => some (c.set n ((c n).after w (Worker.receive raddr (c n).mem b, (c n).mem) []))
    | _ => none
  | .work n w =>
    match Worker.work im (c n).mem ((c n).workers w) with
    | none => none
    | some (worker, mem, reqs) => some (c.set n ((c n).after w (worker, mem) reqs))
  | .takeRequest n servers =>
    match (c n).rpc, (c n).rpcChan with
    | .waiting, some req => some (c.set n { c n with rpcChan := none, rpc := .asking req servers })
    | _, _ => none
  | .unreachable n =>
    match (c n).rpc with
    | .asking req (_ :: servers) => some (c.set n { c n with rpc := .asking req servers })
    | _ => none
  | .get n =>
    match (c n).rpc with
    | .asking req (server :: servers) =>
      some (c.set n { c n with rpc := .replied req servers (((c server).get req).map gob) })
    | _ => none
  | .handle n =>
    match (c n).rpc with
    | .replied req _ (some tr) => some (c.set n { c n with mem := (c n).mem.insert req.id req.ip tr, rpc := .waiting })
    | .replied req servers none => some (c.set n { c n with rpc := .asking req servers })
    | .asking _ [] => some (c.set n { c n with rpc := .waiting })
    | _ => none

inductive Step (im : IANAInfoModel) (gob : TemplateRecord → TemplateRecord) (c : Cluster N W) :
    Action N W → Cluster N W → Prop
  | receive {n : N} {w : W} {last : Option Result} (raddr : IP) (b : List UInt8)
      (hidle : (c n).workers w = .idle last) :
      Step im gob c (.receive n w raddr b) (c.set n ((c n).after w (Worker.receive raddr (c n).mem b, (c n).mem) []))
  | work {n : N} {w : W} {worker : Worker} {mem : MemCache TemplateRecord} {reqs : List RPCRequest}
      (hworks : Worker.Works im (c n).mem ((c n).workers w) worker mem reqs) :
      Step im gob c (.work n w) (c.set n ((c n).after w (worker, mem) reqs))
  | takeRequest {n : N} {req : RPCRequest} (servers : List N) (hrpc : (c n).rpc = .waiting)
      (hchan : (c n).rpcChan = some req) :
      Step im gob c (.takeRequest n servers) (c.set n { c n with rpcChan := none, rpc := .asking req servers })
  | unreachable {n server : N} {req : RPCRequest} {servers : List N}
      (hrpc : (c n).rpc = .asking req (server :: servers)) :
      Step im gob c (.unreachable n) (c.set n { c n with rpc := .asking req servers })
  | get {n server : N} {req : RPCRequest} {servers : List N} (hrpc : (c n).rpc = .asking req (server :: servers)) :
      Step im gob c (.get n) (c.set n { c n with rpc := .replied req servers (((c server).get req).map gob) })
  | insert {n : N} {req : RPCRequest} {servers : List N} {tr : TemplateRecord}
      (hrpc : (c n).rpc = .replied req servers (some tr)) :
      Step im gob c (.handle n) (c.set n { c n with mem := (c n).mem.insert req.id req.ip tr, rpc := .waiting })
  | notAvail {n : N} {req : RPCRequest} {servers : List N} (hrpc : (c n).rpc = .replied req servers none) :
      Step im gob c (.handle n) (c.set n { c n with rpc := .asking req servers })
  | giveUp {n : N} {req : RPCRequest} (hrpc : (c n).rpc = .asking req []) :
      Step im gob c (.handle n) (c.set n { c n with rpc := .waiting })

variable {im : IANAInfoModel} {gob : TemplateRecord → TemplateRecord} {c c' : Cluster N W} {a : Action N W} {n : N}
  {w : W}

theorem step_eq_some : step im gob c a = some c' ↔ Step im gob c a c' := by
  constructor
  · intro h
    cases a with
    | receive n w raddr b =>
      simp only [step] at h
      split at h
      · cases h
        exact .receive raddr b (by assumption)
      · cases h
    | work n w =>
      simp only [step] at h
      split at h
      · cases h
      · cases h
        exact .work (Worker.work_eq_some.mp (by assumption))
    | takeRequest n servers =>
      simp only [step] at h
      split at h
      · cases h
        exact .takeRequest servers (by assumption) (by assumption)
      · cases h
    | unreachable n =>
      simp only [step] at h
      split at h
      · cases h
        exact .unreachable (by assumption)
      · cases h
    | get n =>
      simp only [step] at h
      split at h
      · cases h
        exact .get (by assumption)
      · cases h
    | handle n =>
      simp only [step] at h
      split at h
      · cases h
        exact .insert (by assumption)
      · cases h
        exact .notAvail (by assumption)
      · cases h
        exact .giveUp (by assumption)
      · cases h
  · intro h
    cases h with
    | receive raddr b hidle => simp only [step, hidle]
    | work hworks => simp only [step, Worker.work_eq_some.mpr hworks]
    | takeRequest servers hrpc hchan => simp only [step, hrpc, hchan]
    | unreachable hrpc => simp only [step, hrpc]
    | get hrpc => simp only [step, hrpc]
    | insert hrpc => simp only [step, hrpc]
    | notAvail hrpc => simp only [step, hrpc]
    | giveUp hrpc => simp only [step, hrpc]

/-! ## What a step writes -/

def Action.node : Action N W → N
  | .receive n _ _ _ | .work n _ | .takeRequest n _ | .unreachable n | .get n | .handle n => n

/-- The template that a step stores in the cache of its node, and the id and the exporter it is stored for. -/
def writes (c : Cluster N W) : Action N W → Option (RPCRequest × TemplateRecord)
  | .work n w => ((c n).workers w).stores.map fun p => ({ id := p.2.templateID, ip := p.1 }, p.2)
  | .handle n =>
    match (c n).rpc with
    | .replied req _ (some tr) => some (req, tr)
    | _ => none
  | _ => none

def written (mem : MemCache TemplateRecord) : Option (RPCRequest × TemplateRecord) → MemCache TemplateRecord
  | some (key, tr) => mem.insert key.id key.ip tr
  | none => mem

theorem Step.other (h : Step im gob c a c') (hn : n ≠ a.node) : c' n = c n := by
  cases h <;> exact Cluster.set_of_ne _ _ hn

theorem Step.mem (h : Step im gob c a c') : (c' a.node).mem = written (c a.node).mem (writes c a) := by
  cases h with
  | work hworks =>
    rw [Action.node, Cluster.set_self, Node.after, hworks.mem_eq, writes]
    generalize Worker.stores _ = q
    obtain _ | ⟨raddr, tr⟩ := q <;> rfl
  | insert hrpc =>
    rw [Action.node, Cluster.set_self, writes, hrpc]
    rfl
  | notAvail hrpc =>
    rw [Action.node, Cluster.set_self, writes, hrpc]
    rfl
  | giveUp hrpc =>
    rw [Action.node, Cluster.set_self, writes, hrpc]
    rfl
  | receive raddr b hidle =>
    rw [Action.node, Cluster.set_self]
    rfl
  | takeRequest servers hrpc hchan =>
    rw [Action.node, Cluster.set_self]
    rfl
  | unreachable hrpc =>
    rw [Action.node, Cluster.set_self]
    rfl
  | get hrpc =>
    rw [Action.node, Cluster.set_self]
    rfl

/-! ## A worker without interference -/

theorem runs_of_alone {x y : Worker × MemCache TemplateRecord} {rss : List (List RPCRequest)}
    (gob : TemplateRecord → TemplateRecord) (h : Runs (Worker.Alone im) x rss y) (hw : (c n).workers w = x.1)
    (hmem : (c n).mem = x.2) :
    Runs (Step im gob) c (rss.map fun _ => .work n w) (c.set n ((c n).after w y rss.flatten)) := by
  induction h generalizing c with
  | nil x =>
    have hsame : (c n).after w x [] = c n := by
      rw [Node.after, ← hw, ← hmem, Function.update_eq_self]
      rfl
    rw [List.flatten_nil, hsame, Cluster.set, Function.update_eq_self]
    exact .nil c
  | @cons x x' y reqs rss hstep _ ih =>
    have hworks : Worker.Works im (c n).mem ((c n).workers w) x'.1 x'.2 reqs := by
      rw [hw, hmem]
      exact hstep
    have hrest := ih (c := c.set n ((c n).after w x' reqs)) (by rw [Cluster.set_self, Node.after_workers])
      (by rw [Cluster.set_self, Node.after])
    rw [Cluster.set_self, Node.after_after, Cluster.set, Cluster.set, Function.update_idem] at hrest
    exact .cons (.work hworks) hrest

theorem runs_of_decodes (gob : TemplateRecord → TemplateRecord) {raddr : IP} {b : List UInt8} {out : Outcome}
    {last : Option Result} (hidle : (c n).workers w = .idle last) (h : Decodes im raddr (c n).mem b out) :
    ∃ as, (∀ a ∈ as, a = .work n w) ∧ Runs (Step im gob) c (.receive n w raddr b :: as)
      (c.set n ((c n).after w (.idle (some out.result), out.mem) out.rpc)) := by
  obtain ⟨rss, hrpc, hrun⟩ := Worker.alone_of_decodes h
  refine ⟨rss.map fun _ => .work n w, by simp, .cons (.receive raddr b hidle) ?_⟩
  have hrest := runs_of_alone gob hrun
    (c := c.set n ((c n).after w (Worker.receive raddr (c n).mem b, (c n).mem) []))
    (n := n) (w := w) (by rw [Cluster.set_self, Node.after_workers]) (by rw [Cluster.set_self, Node.after])
  rw [Cluster.set_self, Node.after_after, Cluster.set, Cluster.set, Function.update_idem, hrpc] at hrest
  exact hrest

end VFlow.Ipfix
