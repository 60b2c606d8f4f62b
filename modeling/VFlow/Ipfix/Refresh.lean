import VFlow.Ipfix.Provenance

/-!
# A template that is received while a reply is on its way

A miss raises a request, and while the RPC goroutine asks the other nodes, the exporter may send the template
after all (`Refreshed`). The goroutine does not look at the cache again: it stores the reply over what is there.
The template of the exporter is in the cache up to then (`Refreshed.retrieve`), and it is kept exactly if the
node that was asked had the same one: `reply_keeps_template_iff`.
-/

namespace VFlow.Ipfix

open MemCache

variable {N W : Type} [DecidableEq N] [DecidableEq W] {im : IANAInfoModel} {gob : TemplateRecord → TemplateRecord}
  {c c' : Cluster N W} {a : Action N W} {n : N} {req : RPCRequest} {tr reply : TemplateRecord} {servers : List N}
  {as : List (Action N W)}

/-- The step stores a template in the place of the one for `req`, on the node `n`. -/
def Overwrites (c : Cluster N W) (a : Action N W) (n : N) (req : RPCRequest) : Prop :=
  a.node = n ∧ ∃ key tr, writes c a = some (key, tr) ∧ getShard req.id req.ip = getShard key.id key.ip

/-- In a run of the cluster a worker of `n` has requested the template it missed, a worker of `n` has then received
the template `tr` from the exporter, and nothing has been stored in its place since. -/
inductive Refreshed (im : IANAInfoModel) (gob : TemplateRecord → TemplateRecord) (n : N) (req : RPCRequest)
    (tr : TemplateRecord) : Cluster N W → Prop
  | received {as bs : List (Action N W)} {c₁ c₂ c₃ c₄ : Cluster N W} {v w : W}
      (hstart : Runs (Step im gob) (fun _ => {}) as c₁) (hmiss : ((c₁ n).workers v).requests = [req])
      (hrequest : Step im gob c₁ (.work n v) c₂) (hbetween : Runs (Step im gob) c₂ bs c₃)
      (htemplate : ((c₃ n).workers w).stores = some (req.ip, tr)) (hid : tr.templateID = req.id)
      (hstore : Step im gob c₃ (.work n w) c₄) : Refreshed im gob n req tr c₄
  | step {c c' : Cluster N W} {a : Action N W} (h : Refreshed im gob n req tr c) (hstep : Step im gob c a c')
      (hkeep : ¬ Overwrites c a n req) : Refreshed im gob n req tr c'

theorem Refreshed.runs (h : Refreshed im gob n req tr c) : ∃ as, Runs (Step im gob) (fun _ => {}) as c := by
  induction h with
  | @received as bs _ _ _ _ v w hstart _ hrequest hbetween _ _ hstore =>
    exact ⟨as ++ .work n v :: (bs ++ [.work n w]), hstart.append (.cons hrequest (hbetween.snoc hstore))⟩
  | step _ hstep _ ih =>
    obtain ⟨as, has⟩ := ih
    exact ⟨_, has.snoc hstep⟩

theorem Step.retrieve_of_not_overwrites (h : Step im gob c a c') (hkeep : ¬ Overwrites c a n req) :
    (c' n).mem.retrieve req.id req.ip = (c n).mem.retrieve req.id req.ip := by
  by_cases hn : n = a.node
  · subst hn
    rw [h.mem]
    cases hw : writes c a with
    | none => rfl
    | some p => exact retrieve_insert_of_key_ne _ _ fun hkey => hkeep ⟨rfl, p.1, p.2, hw, hkey⟩
  · rw [h.other hn]

theorem Refreshed.retrieve (h : Refreshed im gob n req tr c) : (c n).mem.retrieve req.id req.ip = some tr := by
  induction h with
  | received _ _ _ _ htemplate hid hstore =>
    have hmem := hstore.mem
    simp only [Action.node, writes, htemplate, Option.map_some, written, hid] at hmem
    rw [hmem, retrieve_insert_self]
  | step _ hstep hkeep ih => rw [hstep.retrieve_of_not_overwrites hkeep, ih]

theorem Step.replied (h : Step im gob c a c') (hreply : (c' n).rpc = .replied req servers (some reply)) :
    (c n).rpc = .replied req servers (some reply) ∨
      a = .get n ∧ ∃ peer, ((c peer).get req).map gob = some reply := by
  by_cases hn : n = a.node
  · subst hn
    cases h with
    | receive raddr b hidle | work hworks =>
      rw [Action.node, Cluster.set_self] at hreply
      exact Or.inl hreply
    | @get _ server _ _ hrpc =>
      rw [Action.node, Cluster.set_self, RPC.replied.injEq] at hreply
      obtain ⟨rfl, rfl, hget⟩ := hreply
      exact Or.inr ⟨rfl, server, hget⟩
    | takeRequest servers hrpc hchan | unreachable hrpc | insert hrpc | notAvail hrpc | giveUp hrpc =>
      rw [Action.node, Cluster.set_self] at hreply
      cases hreply
  · rw [h.other hn] at hreply
    exact Or.inl hreply

theorem asked_of_replied (h : Runs (Step im gob) (fun _ => {}) as c)
    (hreply : (c n).rpc = .replied req servers (some reply)) :
    ∃ bs cs d peer, as = bs ++ .get n :: cs ∧ Runs (Step im gob) (fun _ => {}) bs d ∧
      ((d peer).get req).map gob = some reply := by
  revert hreply
  refine Runs.history
    (P := fun as c => (c n).rpc = .replied req servers (some reply) → ∃ bs cs d peer, as = bs ++ .get n :: cs ∧
      Runs (Step im gob) (fun _ => {}) bs d ∧ ((d peer).get req).map gob = some reply) ?_ ?_ h
  · intro hreply
    cases hreply
  · intro as c a c' hruns ih hstep hreply
    rcases hstep.replied hreply with hbefore | ⟨rfl, peer, hget⟩
    · obtain ⟨bs, cs, d, peer, rfl, hd, hget⟩ := ih hbefore
      exact ⟨bs, cs ++ [a], d, peer, by simp, hd, hget⟩
    · exact ⟨as, [], c, peer, rfl, hruns, hget⟩

theorem Step.retrieve_of_replied (h : Step im gob c (.handle n) c')
    (hreply : (c n).rpc = .replied req servers (some reply)) :
    (c' n).mem.retrieve req.id req.ip = some reply := by
  have hmem := h.mem
  simp only [Action.node, writes, hreply, written] at hmem
  rw [hmem, retrieve_insert_self]

/-- **A reply that comes late.** A template was received from the exporter after it was requested. When the reply
is handled, the cache keeps that template exactly if the node that was asked had the same one. -/
theorem reply_keeps_template_iff (h : Refreshed im gob n req tr c)
    (hreply : (c n).rpc = .replied req servers (some reply)) (hhandle : Step im gob c (.handle n) c') :
    (c n).mem.retrieve req.id req.ip = some tr ∧
    ∃ as bs d peer copy, Runs (Step im gob) (fun _ => {}) (as ++ .get n :: bs) c ∧
      Runs (Step im gob) (fun _ => {}) as d ∧ (d peer).get req = some copy ∧ gob copy = reply ∧
      ((c' n).mem.retrieve req.id req.ip = some tr ↔ gob copy = tr) := by
  obtain ⟨as, hruns⟩ := h.runs
  obtain ⟨bs, cs, d, peer, rfl, hd, hget⟩ := asked_of_replied hruns hreply
  obtain ⟨copy, hcopy, hgob⟩ := Option.map_eq_some_iff.mp hget
  refine ⟨h.retrieve, bs, cs, d, peer, copy, hruns, hd, hcopy, hgob, ?_⟩
  rw [hhandle.retrieve_of_replied hreply, hgob, Option.some.injEq]

/-! ## Two nodes -/

def twoFields : WireTemplate :=
  { templateID := 256, fields := [{ elementID := 8, length := 4 }, { elementID := 12, length := 4 }] }

/-- One node gets the template, and the other one a record, for which it has to ask. -/
def missRun : List (Action Bool Bool) :=
  [.receive true true [192, 0, 2, 1] threeFieldsPacket, .work true true, .work true true,
    .receive false true [192, 0, 2, 1] recordPacket, .work false true]

/-- The node is answered, and another one of its workers gets the template `late` from the exporter. -/
def lateRun (late : WireTemplate) : List (Action Bool Bool) :=
  [.takeRequest false [true], .get false,
    .receive false false [192, 0, 2, 1] (messageBytes ⟨0, 0, 0⟩ [.template [late]]), .work false false]

def lateRequest : RPCRequest := { id := 256, ip := [192, 0, 2, 1] }

theorem refreshed_late {late : WireTemplate} (hlate : late = threeFields ∨ late = twoFields) :
    ∃ c c' : Cluster Bool Bool, Refreshed infoModel id false lateRequest late.record c ∧
      (c false).rpc = .replied lateRequest [] (some threeFields.record) ∧ Step infoModel id c (.handle false) c' := by
  obtain ⟨c₁, h₁, hmiss, c₂, h₂, c₃, h₃, hstores, hid, c₄, h₄, hrpc, c', h'⟩ :
      ∃ c₁, missRun.foldlM (step infoModel id) (fun _ => {}) = some c₁ ∧
        ((c₁ false).workers true).requests = [lateRequest] ∧
      ∃ c₂, step infoModel id c₁ (.work false true) = some c₂ ∧
      ∃ c₃, (lateRun late).foldlM (step infoModel id) c₂ = some c₃ ∧
        ((c₃ false).workers false).stores = some (lateRequest.ip, late.record) ∧
        late.record.templateID = lateRequest.id ∧
      ∃ c₄, step infoModel id c₃ (.work false false) = some c₄ ∧
        (c₄ false).rpc = .replied lateRequest [] (some threeFields.record) ∧
      ∃ c', step infoModel id c₄ (.handle false) = some c' := by
    rcases hlate with rfl | rfl
    · exact ⟨_, rfl, rfl, _, rfl, _, rfl, rfl, rfl, _, rfl, rfl, _, rfl⟩
    · exact ⟨_, rfl, rfl, _, rfl, _, rfl, rfl, rfl, _, rfl, rfl, _, rfl⟩
  have hruns {as : List (Action Bool Bool)} {c c' : Cluster Bool Bool} :
      as.foldlM (step infoModel id) c = some c' → Runs (Step infoModel id) c as c' :=
    (Runs.foldlM_iff fun _ _ _ => step_eq_some).mp
  exact ⟨c₄, c', .received (hruns h₁) hmiss (step_eq_some.mp h₂) (hruns h₃) hstores hid (step_eq_some.mp h₄), hrpc,
    step_eq_some.mp h'⟩

theorem reply_keeps_template_threeFields :
    ∃ c c' : Cluster Bool Bool, Refreshed infoModel id false lateRequest threeFields.record c ∧
      (c false).rpc = .replied lateRequest [] (some threeFields.record) ∧ Step infoModel id c (.handle false) c' ∧
      (c' false).mem.retrieve 256 [192, 0, 2, 1] = some threeFields.record := by
  obtain ⟨c, c', h, hrpc, hhandle⟩ := refreshed_late (Or.inl rfl)
  obtain ⟨-, as, bs, d, peer, copy, -, -, -, hcopy, hkeeps⟩ := reply_keeps_template_iff h hrpc hhandle
  exact ⟨c, c', h, hrpc, hhandle, hkeeps.mpr hcopy⟩

/-- The exporter has changed its template. The node has received the new one, and stores the old one over it. -/
theorem reply_overwrites_template :
    ∃ c c' : Cluster Bool Bool, Refreshed infoModel id false lateRequest twoFields.record c ∧
      (c false).mem.retrieve 256 [192, 0, 2, 1] = some twoFields.record ∧ Step infoModel id c (.handle false) c' ∧
      (c' false).mem.retrieve 256 [192, 0, 2, 1] = some threeFields.record ∧ threeFields.record ≠ twoFields.record := by
  obtain ⟨c, c', h, hrpc, hhandle⟩ := refreshed_late (Or.inr rfl)
  exact ⟨c, c', h, h.retrieve, hhandle, hhandle.retrieve_of_replied hrpc, by decide⟩

end VFlow.Ipfix
