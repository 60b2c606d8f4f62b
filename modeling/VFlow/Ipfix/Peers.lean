import VFlow.Discovery
import VFlow.Ipfix.Cluster
import VFlow.Isolation

/-!
# A cluster that discovers its nodes

The RPC goroutine asks the nodes that the discovery of its own node has heard of, in the order in which it comes upon
them in a map. The nodes that are asked are those that were heard in the last 300 seconds, and never the node itself
(`asked_iff`). Templates stay in a cache, so that a node that has a template when the request is taken still has one
when it is asked; if one of the nodes that are asked has the template and all calls succeed, the goroutine comes back
with one (`template_found`).
-/

namespace VFlow.Ipfix

open Discovery (Interface)

/-- Who answers at which address, and what the nodes know of themselves. -/
structure Net (N H : Type) where
  owner : H → Option N
  enabled : N → Bool
  ifs : N → List (Interface H)

/-- The local addresses of a node that takes part: `RPC` returns at once where it is not enabled or the discovery does
not start. -/
def Net.rpc {N H : Type} (net : Net N H) (n : N) : Option (List H) :=
  if net.enabled n then Discovery.start (net.ifs n) else none

structure Peers (N W H : Type) where
  nodes : Cluster N W := fun _ => {}
  disc : N → Registry H := fun _ => .empty

inductive Peers.Action (N W H : Type) where
  /-- A packet comes to the discovery of the node. -/
  | hear (n : N) (host : Option H) (now : Int)
  | cluster (a : Ipfix.Action N W) (now : Int)

namespace Peers

variable {N W H : Type}

def Action.time : Action N W H → Int
  | hear _ _ now => now
  | cluster _ now => now

variable [DecidableEq N] [DecidableEq W] [DecidableEq H]

def step (net : Net N H) (im : IANAInfoModel) (gob : TemplateRecord → TemplateRecord) (s : Peers N W H) :
    Action N W H → Option (Peers N W H)
  | .hear n host now => (net.rpc n).map fun laddrs =>
    { s with disc := Function.update s.disc n (Discovery.hear laddrs host now (s.disc n)) }
  | .cluster (.takeRequest n servers) now =>
    let (hosts, d) := Discovery.rpcServers now (s.disc n)
    -- the order of a map is not determined, and a host without a node does not answer
    if (net.rpc n).isSome ∧ servers.Perm (hosts.filterMap net.owner) then
      (Ipfix.step im gob s.nodes (.takeRequest n servers)).map fun nodes =>
        { nodes, disc := Function.update s.disc n d }
    else none
  | .cluster (.get n) _ =>
    match (s.nodes n).rpc with
    | .asking _ (server :: _) =>
      if (net.rpc server).isSome then (Ipfix.step im gob s.nodes (.get n)).map fun nodes => { s with nodes } else none
    | _ => none
  | .cluster a _ => (Ipfix.step im gob s.nodes a).map fun nodes => { s with nodes }

def Step (net : Net N H) (im : IANAInfoModel) (gob : TemplateRecord → TemplateRecord) (s : Peers N W H)
    (a : Action N W H) (t : Peers N W H) : Prop := step net im gob s a = some t

variable {net : Net N H} {im : IANAInfoModel} {gob : TemplateRecord → TemplateRecord} {s t : Peers N W H}
  {n : N} {now : Int}

theorem step_hear {host : Option H} :
    Step net im gob s (.hear n host now) t ↔ ∃ laddrs, net.rpc n = some laddrs ∧
      t = { s with disc := Function.update s.disc n (Discovery.hear laddrs host now (s.disc n)) } := by
  rw [Step, step, Option.map_eq_some_iff]
  exact exists_congr fun laddrs => and_congr_right fun _ => eq_comm

theorem step_takeRequest {servers : List N} (h : Step net im gob s (.cluster (.takeRequest n servers) now) t) :
    (net.rpc n).isSome ∧ servers.Perm ((Discovery.rpcServers now (s.disc n)).1.filterMap net.owner) ∧
      Ipfix.Step im gob s.nodes (.takeRequest n servers) t.nodes ∧
      t.disc = Function.update s.disc n (Discovery.rpcServers now (s.disc n)).2 := by
  simp only [Step, step] at h
  split_ifs at h with hperm
  obtain ⟨nodes, hnodes, rfl⟩ := Option.map_eq_some_iff.mp h
  exact ⟨hperm.1, hperm.2, step_eq_some.mp hnodes, rfl⟩

theorem step_cluster {a : Ipfix.Action N W} (ha : ∀ n servers, a ≠ .takeRequest n servers)
    (h : Step net im gob s (.cluster a now) t) : Ipfix.Step im gob s.nodes a t.nodes ∧ t.disc = s.disc := by
  have hplain {b : Ipfix.Action N W} (hb : (Ipfix.step im gob s.nodes b).map (fun nodes => { s with nodes }) = some t) :
      Ipfix.Step im gob s.nodes b t.nodes ∧ t.disc = s.disc := by
    obtain ⟨nodes, hnodes, rfl⟩ := Option.map_eq_some_iff.mp hb
    exact ⟨step_eq_some.mp hnodes, rfl⟩
  cases a with
  | takeRequest n servers => exact absurd rfl (ha n servers)
  | get n =>
    simp only [Step, step] at h
    split at h
    · split_ifs at h
      exact hplain h
    · cases h
  | receive n w raddr b => exact hplain h
  | work n w => exact hplain h
  | unreachable n => exact hplain h
  | handle n => exact hplain h

theorem Step.nodes {a : Ipfix.Action N W} (h : Step net im gob s (.cluster a now) t) :
    Ipfix.Step im gob s.nodes a t.nodes := by
  by_cases ha : ∃ n servers, a = .takeRequest n servers
  · obtain ⟨n, servers, rfl⟩ := ha
    exact (step_takeRequest h).2.2.1
  · exact (step_cluster (fun n servers heq => ha ⟨n, servers, heq⟩) h).1

/-! ## Which nodes are asked -/

/-- What the discovery of a node has to do with an action. -/
def heard (n : N) : Action N W H → Option (Discovery.Event H)
  | .hear n' host now => if n' = n then some (.hear host now) else none
  | .cluster (.takeRequest n' _) now => if n' = n then some (.rpcServers now) else none
  | .cluster _ _ => none

theorem disc_of_step {laddrs : List H} (hlocal : net.rpc n = some laddrs) {a : Action N W H}
    (h : Step net im gob s a t) : t.disc n = ((heard n a).toList).foldl (Discovery.next laddrs) (s.disc n) := by
  cases a with
  | hear n' host now =>
    obtain ⟨laddrs', hlocal', rfl⟩ := step_hear.mp h
    rw [heard]
    split_ifs with hn
    · subst hn
      rw [hlocal] at hlocal'
      obtain rfl := Option.some.inj hlocal'
      simp [Discovery.next]
    · exact Function.update_of_ne (Ne.symm hn) _ _
  | cluster a now =>
    by_cases ha : ∃ n servers, a = .takeRequest n servers
    · obtain ⟨n', servers, rfl⟩ := ha
      rw [(step_takeRequest h).2.2.2, heard]
      split_ifs with hn
      · subst hn
        simp [Discovery.next]
      · exact Function.update_of_ne (Ne.symm hn) _ _
    · rw [(step_cluster (fun n servers heq => ha ⟨n, servers, heq⟩) h).2]
      cases a with
      | takeRequest n' servers => exact absurd ⟨n', servers, rfl⟩ ha
      | _ => rfl

theorem disc_of_runs {laddrs : List H} (hlocal : net.rpc n = some laddrs) {es : List (Action N W H)}
    (h : Runs (Step net im gob) {} es s) : s.disc n = Discovery.run laddrs (es.filterMap (heard n)) := by
  refine Runs.history (P := fun es s => s.disc n = Discovery.run laddrs (es.filterMap (heard n))) rfl ?_ h
  intro es s a t _ hs hstep
  rw [disc_of_step hlocal hstep, hs, Discovery.run, Discovery.run, ← List.foldl_append, List.filterMap_append]
  cases hheard : heard n a <;> simp [hheard]

omit [DecidableEq W] [DecidableEq H] in
theorem time_of_heard {a : Action N W H} {e : Discovery.Event H} (h : heard n a = some e) : e.time = a.time := by
  unfold heard at h
  split at h
  · split_ifs at h
    cases h
    rfl
  · split_ifs at h
    cases h
    rfl
  · cases h

omit [DecidableEq W] [DecidableEq H] in
theorem hear_mem_heard {es : List (Action N W H)} {host : Option H} {t : Int} :
    .hear host t ∈ es.filterMap (heard n) ↔ .hear n host t ∈ es := by
  rw [List.mem_filterMap]
  constructor
  · rintro ⟨a, ha, h⟩
    unfold heard at h
    split at h
    · split_ifs at h with hn
      cases h
      exact hn ▸ ha
    · split_ifs at h
      cases h
    · cases h
  · intro h
    exact ⟨_, h, if_pos rfl⟩

theorem mem_servers_iff {es : List (Action N W H)} {servers : List N} {laddrs : List H}
    (hlocal : net.rpc n = some laddrs) (hclock : (es.map Action.time).Pairwise (· ≤ ·)) (hnow : ∀ a ∈ es, a.time ≤ now)
    (h : Runs (Step net im gob) {} es s) (hstep : Step net im gob s (.cluster (.takeRequest n servers) now) t) {m : N} :
    m ∈ servers ↔ ∃ host time, net.owner host = some m ∧ host ∉ laddrs ∧ .hear n (some host) time ∈ es ∧
      now - time < 300 := by
  obtain ⟨-, hperm, -, -⟩ := step_takeRequest hstep
  have hclock' : ((es.filterMap (heard n)).map Discovery.Event.time).Pairwise (· ≤ ·) := by
    rw [List.pairwise_map] at hclock ⊢
    rw [List.pairwise_filterMap]
    refine hclock.imp fun hle e he e' he' => ?_
    rw [time_of_heard he, time_of_heard he']
    exact hle
  have hnow' : ∀ e ∈ es.filterMap (heard n), e.time ≤ now := by
    intro e he
    obtain ⟨a, ha, heq⟩ := List.mem_filterMap.mp he
    rw [time_of_heard heq]
    exact hnow a ha
  rw [hperm.mem_iff, List.mem_filterMap, disc_of_runs hlocal h]
  simp only [Discovery.mem_rpcServers_iff hclock' hnow', hear_mem_heard]
  constructor
  · rintro ⟨host, ⟨hout, time, htime, hlive⟩, howner⟩
    exact ⟨host, time, howner, hout, htime, hlive⟩
  · rintro ⟨host, time, howner, hout, htime, hlive⟩
    exact ⟨host, ⟨hout, time, htime, hlive⟩, howner⟩

/-! ## What becomes of a request -/

end Peers

section request

variable {N W : Type} [DecidableEq N] [DecidableEq W] {im : IANAInfoModel} {gob : TemplateRecord → TemplateRecord}
  {c c' : Cluster N W} {n m : N} {req : RPCRequest}

theorem isSome_written {mem : MemCache TemplateRecord} (x : Option (RPCRequest × TemplateRecord))
    (h : (mem.retrieve req.id req.ip).isSome) : ((written mem x).retrieve req.id req.ip).isSome := by
  cases x with
  | none => exact h
  | some p =>
    obtain ⟨key, tr⟩ := p
    by_cases hkey : MemCache.getShard req.id req.ip = MemCache.getShard key.id key.ip
    · rw [written, MemCache.retrieve_insert_of_key_eq _ _ hkey]
      rfl
    · rw [written, MemCache.retrieve_insert_of_key_ne _ _ hkey]
      exact h

theorem Step.get_isSome {a : Action N W} (h : Step im gob c a c') (hm : ((c m).get req).isSome) :
    ((c' m).get req).isSome := by
  by_cases hn : m = a.node
  · rw [Node.get, hn, h.mem]
    exact isSome_written _ (hn ▸ hm)
  · rw [h.other hn]
    exact hm

/-- The request of node `n` is answered, or will be: one of the nodes that are still to be asked has the template. -/
inductive Answered (c : Cluster N W) (n : N) (req : RPCRequest) : Prop
  | found (h : ((c n).get req).isSome)
  | replied (servers : List N) (tr : TemplateRecord) (hrpc : (c n).rpc = .replied req servers (some tr))
  | asking (servers : List N) (m : N) (hrpc : (c n).rpc = .asking req servers) (hm : m ∈ servers)
      (h : ((c m).get req).isSome)
  | notAvail (servers : List N) (m : N) (hrpc : (c n).rpc = .replied req servers none) (hm : m ∈ servers)
      (h : ((c m).get req).isSome)

omit [DecidableEq N] [DecidableEq W] in
theorem Answered.of_rpc (h : Answered c n req) (hkeep : ∀ m, ((c m).get req).isSome → ((c' m).get req).isSome)
    (hrpc : (c' n).rpc = (c n).rpc) : Answered c' n req := by
  cases h with
  | found h => exact .found (hkeep n h)
  | replied servers tr h => exact .replied servers tr (hrpc.trans h)
  | asking servers m h hm hhas => exact .asking servers m (hrpc.trans h) hm (hkeep m hhas)
  | notAvail servers m h hm hhas => exact .notAvail servers m (hrpc.trans h) hm (hkeep m hhas)

theorem Answered.step {a : Action N W} (h : Answered c n req) (hstep : Step im gob c a c') (ha : a ≠ .unreachable n) :
    Answered c' n req := by
  have hkeep (m : N) : ((c m).get req).isSome → ((c' m).get req).isSome := hstep.get_isSome
  by_cases hn : n = a.node
  swap
  · exact h.of_rpc hkeep (by rw [hstep.other hn])
  subst hn
  cases hstep with
  | receive raddr b hidle => exact h.of_rpc hkeep (by simp [Action.node, Node.after])
  | work hworks => exact h.of_rpc hkeep (by simp [Action.node, Node.after])
  | unreachable hrpc => exact absurd rfl ha
  | takeRequest servers hrpc hchan =>
    cases h with
    | found h => exact .found (hkeep _ h)
    | replied _ _ h => cases hrpc.symm.trans h
    | asking _ _ h hm hhas => cases hrpc.symm.trans h
    | notAvail _ _ h hm hhas => cases hrpc.symm.trans h
  | @get n server req' servers hrpc =>
    cases h with
    | found h => exact .found (hkeep _ h)
    | replied _ _ h => cases hrpc.symm.trans h
    | notAvail _ _ h hm hhas => cases hrpc.symm.trans h
    | asking _ m h hm hhas =>
      cases hrpc.symm.trans h
      by_cases hserver : ((c server).get req).isSome
      · obtain ⟨tr, htr⟩ := Option.isSome_iff_exists.mp hserver
        exact .replied servers (gob tr) (by simp [Action.node, htr])
      · have hmem : m ∈ servers := (List.mem_cons.mp hm).resolve_left fun heq => hserver (heq ▸ hhas)
        exact .notAvail servers m (by simp [Action.node, Option.not_isSome_iff_eq_none.mp hserver]) hmem (hkeep m hhas)
  | @insert n req' servers tr hrpc =>
    cases h with
    | found h => exact .found (hkeep _ h)
    | asking _ _ h hm hhas => cases hrpc.symm.trans h
    | notAvail _ _ h hm hhas => cases hrpc.symm.trans h
    | replied _ _ h =>
      cases hrpc.symm.trans h
      refine .found ?_
      simp [Action.node, Node.get]
  | @notAvail n req' servers hrpc =>
    cases h with
    | found h => exact .found (hkeep _ h)
    | asking _ _ h hm hhas => cases hrpc.symm.trans h
    | replied _ _ h => cases hrpc.symm.trans h
    | notAvail _ m h hm hhas =>
      cases hrpc.symm.trans h
      exact .asking servers m (by simp [Action.node]) hm (hkeep m hhas)
  | giveUp hrpc =>
    cases h with
    | found h => exact .found (hkeep _ h)
    | replied _ _ h => cases hrpc.symm.trans h
    | notAvail _ _ h hm hhas => cases hrpc.symm.trans h
    | asking _ _ h hm hhas =>
      cases hrpc.symm.trans h
      cases hm

omit [DecidableEq N] [DecidableEq W] in
theorem Answered.of_waiting (h : Answered c n req) (hrpc : (c n).rpc = .waiting) : ((c n).get req).isSome := by
  cases h with
  | found h => exact h
  | replied _ _ h => cases hrpc.symm.trans h
  | asking _ _ h hm hhas => cases hrpc.symm.trans h
  | notAvail _ _ h hm hhas => cases hrpc.symm.trans h

end request

namespace Peers

variable {N W H : Type} [DecidableEq N] [DecidableEq W] [DecidableEq H] {net : Net N H} {im : IANAInfoModel}
  {gob : TemplateRecord → TemplateRecord} {s s' t : Peers N W H} {n m : N} {now : Int} {req : RPCRequest}

theorem answered_of_runs {as : List (Action N W H)} (hcalls : ∀ now, .cluster (.unreachable n) now ∉ as)
    (hs : Answered s.nodes n req) (h : Runs (Step net im gob) s as t) : Answered t.nodes n req := by
  refine h.invariant (P := fun s => Answered s.nodes n req) (fun a ha s t hs hstep => ?_) hs
  cases a with
  | hear n' host now =>
    obtain ⟨laddrs, -, rfl⟩ := step_hear.mp hstep
    exact hs
  | cluster a now =>
    refine hs.step hstep.nodes ?_
    rintro rfl
    exact hcalls now ha

/-! ## Two nodes -/

def twoNodes : Net Bool Nat where
  owner host := if host = 1 then some false else if host = 2 then some true else none
  enabled _ := true
  ifs n := [⟨19, some [if n then 2 else 1]⟩]

/-- One node receives the template; the other one hears of it, and of itself, and misses the template. -/
def missed : List (Action Bool Unit Nat) :=
  [.cluster (.receive false () exporterA (oneSet (.template [templateA]))) 0, .cluster (.work false ()) 0,
    .cluster (.work false ()) 0, .cluster (.work false ()) 0, .hear true (some 1) 5, .hear true (some 2) 6,
    .cluster (.receive true () exporterA (oneSet dataA)) 10, .cluster (.work true ()) 10, .cluster (.work true ()) 10]

def asks : List (Action Bool Unit Nat) := [.cluster (.get true) 20, .cluster (.handle true) 20]

theorem runs_missed : ∃ s s' t : Peers Bool Unit Nat, Runs (Step twoNodes infoModel id) {} missed s ∧
    (s.nodes true).rpcChan = some ⟨256, exporterA⟩ ∧ ((s.nodes false).get ⟨256, exporterA⟩).isSome ∧
    Step twoNodes infoModel id s (.cluster (.takeRequest true [false]) 20) s' ∧
    Runs (Step twoNodes infoModel id) s' asks t ∧ (t.nodes true).rpc = .waiting := by
  obtain ⟨s, s', t, hs, hs', ht, hchan, hget, hwaiting⟩ : ∃ s s' t : Peers Bool Unit Nat,
      missed.foldlM (step twoNodes infoModel id) {} = some s ∧
      step twoNodes infoModel id s (.cluster (.takeRequest true [false]) 20) = some s' ∧
      asks.foldlM (step twoNodes infoModel id) s' = some t ∧ (s.nodes true).rpcChan = some ⟨256, exporterA⟩ ∧
      ((s.nodes false).get ⟨256, exporterA⟩).isSome ∧ (t.nodes true).rpc = .waiting :=
    ⟨_, _, _, rfl, rfl, rfl, rfl, rfl, rfl⟩
  exact ⟨s, s', t, (Runs.foldlM_iff fun _ _ _ => Iff.rfl).mp hs, hchan, hget, hs',
    (Runs.foldlM_iff fun _ _ _ => Iff.rfl).mp ht, hwaiting⟩

theorem twoNodes_rpc : twoNodes.rpc true = some [2] := rfl

theorem missed_clock : (missed.map Action.time).Pairwise (· ≤ ·) ∧ ∀ a ∈ missed, a.time ≤ 20 := by
  decide

/-! ## Runs -/

/-- **A template is found if a node that was heard lately has it**: when the request is taken, some node has an entry
for it that was heard in the last 300 seconds, and no call fails; then the node has an entry when its RPC goroutine
waits again, whatever the other goroutines and nodes do meanwhile. -/
theorem template_found {es as : List (Action N W H)} {servers : List N} {laddrs : List H} {host : H} {time : Int}
    (hlocal : net.rpc n = some laddrs) (hclock : (es.map Action.time).Pairwise (· ≤ ·)) (hnow : ∀ a ∈ es, a.time ≤ now)
    (h : Runs (Step net im gob) {} es s) (howner : net.owner host = some m) (hhost : host ∉ laddrs)
    (hheard : .hear n (some host) time ∈ es) (hlive : now - time < 300) (hhas : ((s.nodes m).get req).isSome)
    (hchan : (s.nodes n).rpcChan = some req) (hstep : Step net im gob s (.cluster (.takeRequest n servers) now) s')
    (hcalls : ∀ now, .cluster (.unreachable n) now ∉ as) (hrun : Runs (Step net im gob) s' as t)
    (hwaiting : (t.nodes n).rpc = .waiting) : ((t.nodes n).get req).isSome := by
  have hmem : m ∈ servers :=
    (mem_servers_iff hlocal hclock hnow h hstep).mpr ⟨host, time, howner, hhost, hheard, hlive⟩
  have hnodes := (step_takeRequest hstep).2.2.1
  have hasking : Answered s'.nodes n req := by
    have hhas' := hnodes.get_isSome hhas
    generalize hs' : s'.nodes = c at hnodes hhas'
    cases hnodes with
    | takeRequest _ hrpc hchan' =>
      obtain rfl := Option.some.inj (hchan.symm.trans hchan')
      exact .asking servers m (by simp) hmem hhas'
  exact (answered_of_runs hcalls hasking hrun).of_waiting hwaiting

theorem template_found_missed :
    ∃ s s' t : Peers Bool Unit Nat, Runs (Step twoNodes infoModel id) {} missed s ∧
      Step twoNodes infoModel id s (.cluster (.takeRequest true [false]) 20) s' ∧
      Runs (Step twoNodes infoModel id) s' asks t ∧ ((t.nodes true).get ⟨256, exporterA⟩).isSome := by
  obtain ⟨s, s', t, hs, hchan, hget, hs', ht, hwaiting⟩ := runs_missed
  have hheard : .hear true (some 1) 5 ∈ missed := by simp [missed]
  refine ⟨s, s', t, hs, hs', ht, template_found (m := false) twoNodes_rpc missed_clock.1 missed_clock.2 hs rfl
    (by decide) hheard (by decide) hget hchan hs' (fun now => ?_) ht hwaiting⟩
  simp [asks]

/-- **The nodes that are asked are those that were heard in the last 300 seconds at an address that is not one's own**;
a node whose addresses are all known to itself is never asked by itself. -/
theorem asked_iff {es : List (Action N W H)} {servers : List N} {laddrs : List H} (hlocal : net.rpc n = some laddrs)
    (hclock : (es.map Action.time).Pairwise (· ≤ ·)) (hnow : ∀ a ∈ es, a.time ≤ now)
    (h : Runs (Step net im gob) {} es s) (hstep : Step net im gob s (.cluster (.takeRequest n servers) now) t) :
    (∀ m, m ∈ servers ↔ ∃ host time, net.owner host = some m ∧ host ∉ laddrs ∧ .hear n (some host) time ∈ es ∧
        now - time < 300) ∧
      ((∀ host, net.owner host = some n → host ∈ laddrs) → n ∉ servers) := by
  refine ⟨fun m => mem_servers_iff hlocal hclock hnow h hstep, fun hown hself => ?_⟩
  obtain ⟨host, time, howner, hout, -, -⟩ := (mem_servers_iff hlocal hclock hnow h hstep).mp hself
  exact hout (hown host howner)

theorem asked_iff_missed :
    ∃ s s' : Peers Bool Unit Nat, Runs (Step twoNodes infoModel id) {} missed s ∧
      Step twoNodes infoModel id s (.cluster (.takeRequest true [false]) 20) s' ∧
      (∀ m, m ∈ [false] ↔ ∃ host time, twoNodes.owner host = some m ∧ host ∉ [2] ∧
        .hear true (some host) time ∈ missed ∧ 20 - time < 300) ∧ true ∉ [false] := by
  obtain ⟨s, s', t, hs, hchan, hget, hs', ht, hwaiting⟩ := runs_missed
  obtain ⟨hasked, hself⟩ := asked_iff twoNodes_rpc missed_clock.1 missed_clock.2 hs hs'
  refine ⟨s, s', hs, hs', hasked, hself fun host hown => ?_⟩
  by_cases h1 : host = 1
  · simp [twoNodes, h1] at hown
  · by_contra h2
    simp [twoNodes, h1, List.mem_singleton.not.mp h2] at hown

end Peers

end VFlow.Ipfix
