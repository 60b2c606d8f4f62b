import Mathlib.Data.List.Perm.Basic
import VFlow.Mirror.Reencode

/-!
# Where the datagrams of the mirror go

A configuration asks for one datagram for each rule of a matching entry that takes a record, sent to the
address of the rule (`expected`). The exchanger keeps only the last entry of a source (`initMap_apply`), and
under each source the client of the first rule listed for it (`initUdpClients_eq_some`), but it looks a client
up by the address of the rule. So a datagram only leaves if some entry has this address as its source, and
only goes to the right place if the first rule listed there leads to it (`delivers_iff`); and the connection has
to take it.
-/

namespace VFlow.Mirror

open Netflow9

variable {E : Type} {dial : String → Option E} {write : E → List UInt8 → Bool} {mirrorConfigs : List ExchangerConfig}
  {msg : Message} {rule : ExchangeRule} {rules : List ExchangeRule} {udpCliets : String → Option UdpMirror}

/-! ## The two maps -/

def entriesOf (mirrorConfigs : List ExchangerConfig) (source : String) : List ExchangerConfig :=
  mirrorConfigs.filter (·.source = source)

theorem initMap_apply (mirrorConfigs : List ExchangerConfig) (source : String) :
    initMap mirrorConfigs source = (entriesOf mirrorConfigs source).getLast? := by
  have hfold : ∀ m : String → Option ExchangerConfig,
      (mirrorConfigs.foldl (fun (mirrorMaps : String → Option ExchangerConfig) ec =>
        Function.update mirrorMaps ec.source (some ec)) m) source =
        (entriesOf mirrorConfigs source).getLast?.or (m source) := by
    induction mirrorConfigs with
    | nil => exact fun m => rfl
    | cons ec mirrorConfigs ih =>
      intro m
      rw [List.foldl_cons, ih, entriesOf, entriesOf]
      by_cases hs : ec.source = source
      · rw [List.filter_cons_of_pos (by simpa using hs), ← hs, Function.update_self, List.getLast?_cons]
        cases ((mirrorConfigs.filter (·.source = ec.source)).getLast?) with
        | none => rfl
        | some last => rfl
      · rw [List.filter_cons_of_neg (by simpa using hs), Function.update_of_ne (Ne.symm hs)]
  rw [initMap, hfold, Option.or_none]

/-- The rules in the order of the configuration, each under the source of its entry. -/
def listed (mirrorConfigs : List ExchangerConfig) : List (String × ExchangeRule) :=
  mirrorConfigs.flatMap fun ec => ec.rules.map (Prod.mk ec.source)

/-- The first rule listed for a source. -/
def firstRule (mirrorConfigs : List ExchangerConfig) (source : String) : Option ExchangeRule :=
  (listed mirrorConfigs).lookup source

theorem initUdpClients_eq_foldlM (mirrorConfigs : List ExchangerConfig) :
    initUdpClients mirrorConfigs =
      (listed mirrorConfigs).foldlM (fun udpCliets p => initClient p.1 udpCliets p.2) fun _ => none := by
  rw [initUdpClients, listed]
  generalize (fun _ => none : String → Option UdpMirror) = m
  induction mirrorConfigs generalizing m with
  | nil => rfl
  | cons ec mirrorConfigs ih =>
    rw [List.foldlM_cons, List.flatMap_cons, List.foldlM_append, List.foldlM_map]
    exact congrArg _ (funext fun m' => ih m')

theorem initClient_eq_some {source : String} {m m' : String → Option UdpMirror} :
    initClient source m rule = some m' ↔
      ((m source).isSome ∧ m' = m) ∨
        (m source = none ∧ ∃ c, rule.mirror = some c ∧ m' = Function.update m source (some c)) := by
  cases hs : m source with
  | some c => simp [initClient, hs, eq_comm]
  | none => simp [initClient, hs, Option.map_eq_some_iff, eq_comm]

theorem foldlM_initClient {ps : List (String × ExchangeRule)} {m m' : String → Option UdpMirror}
    (h : ps.foldlM (fun udpCliets p => initClient p.1 udpCliets p.2) m = some m') (source : String) :
    m' source = (m source).or ((ps.lookup source).bind ExchangeRule.mirror) := by
  induction ps generalizing m with
  | nil =>
    obtain rfl := Option.some.inj h
    simp
  | cons p ps ih =>
    obtain ⟨name, rule⟩ := p
    rw [List.foldlM_cons] at h
    obtain ⟨m₁, hm₁, hrest⟩ := Option.bind_eq_some_iff.mp h
    rw [ih hrest, List.lookup_cons]
    rcases initClient_eq_some.mp hm₁ with ⟨hsome, rfl⟩ | ⟨hnone, c, hc, rfl⟩
    · by_cases hs : source = name
      · obtain ⟨c, hc⟩ := Option.isSome_iff_exists.mp hsome
        rw [hs, hc]
        rfl
      · rw [beq_false_of_ne hs]
    · by_cases hs : source = name
      · rw [hs, Function.update_self, hnone, beq_self_eq_true]
        exact hc.symm
      · rw [Function.update_of_ne hs, beq_false_of_ne hs]

theorem foldlM_initClient_isSome {ps : List (String × ExchangeRule)} {m : String → Option UdpMirror} :
    (ps.foldlM (fun udpCliets p => initClient p.1 udpCliets p.2) m).isSome ↔
      ∀ source rule, m source = none → ps.lookup source = some rule → rule.mirror.isSome := by
  induction ps generalizing m with
  | nil => simp
  | cons p ps ih =>
    obtain ⟨name, rule⟩ := p
    rw [List.foldlM_cons, Option.bind_eq_bind]
    cases hname : m name with
    | some c =>
      rw [initClient_eq_some.mpr (Or.inl ⟨by rw [hname]; rfl, rfl⟩), Option.bind_some, ih]
      refine forall₂_congr fun source r => forall_congr' fun hsource => ?_
      have hs : source ≠ name := fun hs => by rw [hs, hname] at hsource; cases hsource
      rw [List.lookup_cons, beq_false_of_ne hs]
    | none =>
      cases hc : rule.mirror with
      | none =>
        rw [initClient, hname]
        simp only [hc, Option.map_none, Option.bind_none, Option.isSome_none, Bool.false_eq_true, false_iff]
        intro h
        have := h name rule hname (by rw [List.lookup_cons, beq_self_eq_true])
        rw [hc] at this
        cases this
      | some c =>
        rw [initClient_eq_some.mpr (Or.inr ⟨hname, c, hc, rfl⟩), Option.bind_some, ih]
        refine forall₂_congr fun source r => ?_
        by_cases hs : source = name
        · subst hs
          rw [Function.update_self, List.lookup_cons, beq_self_eq_true]
          refine ⟨fun _ _ hr => ?_, fun _ hsome => absurd hsome (Option.some_ne_none c)⟩
          obtain rfl := Option.some.inj hr
          rw [hc]
          rfl
        · rw [Function.update_of_ne hs, List.lookup_cons, beq_false_of_ne hs]

theorem initUdpClients_eq_some (h : initUdpClients mirrorConfigs = some udpCliets) (source : String) :
    udpCliets source = (firstRule mirrorConfigs source).bind ExchangeRule.mirror := by
  rw [initUdpClients_eq_foldlM] at h
  exact (foldlM_initClient h source).trans (Option.none_or ..)

theorem split_ne_nil (sep : Char) (cs : List Char) : split sep cs ≠ [] := by
  fun_induction split sep cs <;> simp

theorem split_second_iff (sep : Char) (cs : List Char) :
    (∃ a b rest, split sep cs = a :: b :: rest) ↔ sep ∈ cs := by
  induction cs with
  | nil => simp [split]
  | cons c cs ih =>
    by_cases hc : c = sep
    · obtain ⟨part, parts, hs⟩ := List.exists_cons_of_ne_nil (split_ne_nil sep cs)
      simp [split, hc, hs]
    · rw [List.mem_cons, or_iff_right (Ne.symm hc), ← ih, split, if_neg hc]
      cases hs : split sep cs with
      | nil => exact absurd hs (split_ne_nil sep cs)
      | cons part parts => simp

theorem mirror_isSome_iff : rule.mirror.isSome ↔ ':' ∈ rule.distAddress.toList := by
  rw [← split_second_iff, ExchangeRule.mirror]
  split
  · next a b rest hs => simp [hs]
  · next hs => simpa using hs

theorem initUdpClients_isSome :
    (initUdpClients mirrorConfigs).isSome ↔
      ∀ source rule, firstRule mirrorConfigs source = some rule → ':' ∈ rule.distAddress.toList := by
  rw [initUdpClients_eq_foldlM, foldlM_initClient_isSome]
  simp only [forall_const, mirror_isSome_iff]
  rfl

/-! ## The loop over the rules -/

/-- The rules that take a record of the message. -/
def taking (msg : Message) (rules : List ExchangeRule) : List ExchangeRule :=
  rules.filter fun rule => selection rule msg ≠ []

theorem taking_cons_of_nil (h : selection rule msg = []) : taking msg (rule :: rules) = taking msg rules :=
  List.filter_cons_of_neg (by simpa using h)

theorem taking_cons_of_ne (h : selection rule msg ≠ []) : taking msg (rule :: rules) = rule :: taking msg rules :=
  List.filter_cons_of_pos (by simpa using h)

theorem taking_eq_nil_iff : taking msg rules = [] ↔ ∀ rule ∈ rules, selection rule msg = [] := by
  simp [taking, List.filter_eq_nil_iff]

def target (dial : String → Option E) (udpCliets : String → Option UdpMirror) (rule : ExchangeRule) : Option E :=
  (udpCliets rule.distAddress).bind fun c => dial c.address

/-- The datagram of the rule can be made, has a client, and is taken by the connection. -/
def Sendable (dial : String → Option E) (write : E → List UInt8 → Bool) (udpCliets : String → Option UdpMirror)
    (msg : Message) (rule : ExchangeRule) : Prop :=
  msg.setHeaders.length ≤ (selection rule msg).length ∧
    ∃ e, target dial udpCliets rule = some e ∧ ∀ b ∈ toBytes msg 0 (selection rule msg), write e b

theorem deliver_of_nil (h : selection rule msg = []) : deliver dial write udpCliets msg rule = .ok [] := by
  rw [deliver, h, if_neg (by simp)]

theorem deliver_of_sendable (hne : selection rule msg ≠ []) (h : Sendable dial write udpCliets msg rule) :
    ∃ d : Datagram E, deliver dial write udpCliets msg rule = .ok [d] ∧ d.rule = rule ∧
      some d.endpoint = target dial udpCliets rule := by
  obtain ⟨b, hb⟩ := Option.isSome_iff_exists.mp ((toBytes_isSome_iff msg 0 (selection rule msg)).mpr h.1)
  obtain ⟨e, he, hwrite⟩ := h.2
  obtain ⟨c, hc, hdial⟩ := Option.bind_eq_some_iff.mp he
  rw [deliver, if_pos (List.length_pos_iff.mpr hne), hb, hc]
  simp only [hdial, hwrite b hb, if_true]
  exact ⟨_, rfl, rfl, he.symm⟩

theorem deliver_of_not_sendable (hne : selection rule msg ≠ []) (h : ¬ Sendable dial write udpCliets msg rule) :
    deliver dial write udpCliets msg rule = .ok [] ∨ ∃ p, deliver dial write udpCliets msg rule = .error p := by
  rw [deliver, if_pos (List.length_pos_iff.mpr hne)]
  cases hb : toBytes msg 0 (selection rule msg) with
  | none => exact .inr ⟨_, rfl⟩
  | some b =>
    have hlen : msg.setHeaders.length ≤ (selection rule msg).length :=
      (toBytes_isSome_iff msg 0 _).mp (Option.isSome_of_eq_some hb)
    cases hc : udpCliets rule.distAddress with
    | none => exact .inr ⟨_, rfl⟩
    | some c =>
      cases hdial : dial c.address with
      | none => exact .inr ⟨.nilConn, by simp only [hdial]⟩
      | some e =>
        have hwrite : write e b = false := by
          rw [← Bool.not_eq_true]
          refine fun hwrite => h ⟨hlen, e, by rw [target, hc, Option.bind_some, hdial], fun b' hb' => ?_⟩
          rwa [← Option.some.inj (hb.symm.trans hb')]
        exact .inl (by simp only [hdial, hwrite, Bool.false_eq_true, if_false])

theorem deliverAll_of_sendable (h : ∀ rule ∈ taking msg rules, Sendable dial write udpCliets msg rule) :
    (deliverAll dial write udpCliets msg rules).panic = none ∧
      (deliverAll dial write udpCliets msg rules).sent.map (fun d => (d.rule, some d.endpoint)) =
        (taking msg rules).map fun rule => (rule, target dial udpCliets rule) := by
  induction rules with
  | nil => exact ⟨rfl, rfl⟩
  | cons rule rules ih =>
    by_cases hne : selection rule msg = []
    · rw [taking_cons_of_nil hne] at h ⊢
      rw [deliverAll, deliver_of_nil hne]
      exact ih h
    · rw [taking_cons_of_ne hne] at h ⊢
      obtain ⟨hpanic, hsent⟩ := ih fun r hr => h r (List.mem_cons_of_mem _ hr)
      obtain ⟨d, hd, hrule, hend⟩ := deliver_of_sendable hne (h rule List.mem_cons_self)
      rw [deliverAll, hd]
      exact ⟨hpanic, by simp [hsent, hrule, hend]⟩

theorem length_deliverAll_le (rules : List ExchangeRule) :
    (deliverAll dial write udpCliets msg rules).sent.length ≤ (taking msg rules).length := by
  induction rules with
  | nil => exact le_rfl
  | cons rule rules ih =>
    by_cases hne : selection rule msg = []
    · rw [taking_cons_of_nil hne, deliverAll, deliver_of_nil hne]
      exact ih
    · rw [taking_cons_of_ne hne, deliverAll, List.length_cons]
      by_cases hsend : Sendable dial write udpCliets msg rule
      · obtain ⟨d, hd, -⟩ := deliver_of_sendable hne hsend
        rw [hd]
        simpa using ih
      · rcases deliver_of_not_sendable hne hsend with hd | ⟨p, hd⟩
        · rw [hd]
          exact le_trans ih (Nat.le_succ _)
        · rw [hd]
          exact Nat.zero_le _

theorem deliverAll_of_not_sendable (h : ∃ rule ∈ taking msg rules, ¬ Sendable dial write udpCliets msg rule) :
    (deliverAll dial write udpCliets msg rules).sent.length < (taking msg rules).length := by
  induction rules with
  | nil =>
    obtain ⟨rule, hmem, -⟩ := h
    cases hmem
  | cons rule rules ih =>
    by_cases hne : selection rule msg = []
    · rw [taking_cons_of_nil hne] at h ⊢
      rw [deliverAll, deliver_of_nil hne]
      exact ih h
    · rw [taking_cons_of_ne hne] at h ⊢
      by_cases hsend : Sendable dial write udpCliets msg rule
      · obtain ⟨d, hd, -⟩ := deliver_of_sendable hne hsend
        obtain ⟨r, hr, hnot⟩ := h
        have hr' : r ∈ taking msg rules := (List.mem_cons.mp hr).resolve_left fun he => hnot (he ▸ hsend)
        rw [deliverAll, hd]
        simpa using ih ⟨r, hr', hnot⟩
      · rw [deliverAll, List.length_cons]
        rcases deliver_of_not_sendable hne hsend with hd | ⟨p, hd⟩
        · rw [hd]
          exact Nat.lt_succ_of_le (length_deliverAll_le rules)
        · rw [hd]
          exact Nat.succ_pos _

/-! ## The result -/

/-- What the configuration asks for: for each entry of the message's exporter, a datagram for each rule that
takes a record, to the address of the rule. -/
def expected (dial : String → Option E) (mirrorConfigs : List ExchangerConfig) (msg : Message) :
    List (ExchangeRule × Option E) :=
  (entriesOf mirrorConfigs msg.agentID).flatMap fun ec =>
    (taking msg ec.rules).map fun rule => (rule, dial rule.distAddress)

/-- The datagrams that leave are those the configuration asks for, and no client was missing. -/
def Delivers (dial : String → Option E) (write : E → List UInt8 → Bool) (logger : Bool)
    (mirrorConfigs : List ExchangerConfig) (msg : Message) : Prop :=
  ((exchange dial write logger mirrorConfigs msg).sent.map fun d => (d.rule, some d.endpoint)).Perm
      (expected dial mirrorConfigs msg) ∧
    (exchange dial write logger mirrorConfigs msg).panic ≠ some .nilClient

/-- The first rule listed under this address leads where the address does. -/
def LeadsTo (dial : String → Option E) (mirrorConfigs : List ExchangerConfig) (distAddress : String) : Prop :=
  ∃ first c, firstRule mirrorConfigs distAddress = some first ∧ first.mirror = some c ∧
    dial c.address = dial distAddress ∧ (dial distAddress).isSome

/-- The rules of the entry the exchanger keeps for the message. -/
def keptRules (mirrorConfigs : List ExchangerConfig) (msg : Message) : List ExchangeRule :=
  (entriesOf mirrorConfigs msg.agentID).getLast?.elim [] ExchangerConfig.rules

theorem expected_eq (dial : String → Option E) (mirrorConfigs : List ExchangerConfig) (msg : Message) :
    expected dial mirrorConfigs msg =
      ((entriesOf mirrorConfigs msg.agentID).dropLast.flatMap fun ec =>
        (taking msg ec.rules).map fun rule => (rule, dial rule.distAddress)) ++
      (taking msg (keptRules mirrorConfigs msg)).map fun rule => (rule, dial rule.distAddress) := by
  rw [expected, keptRules]
  rcases List.eq_nil_or_concat (entriesOf mirrorConfigs msg.agentID) with hnil | ⟨init, last, hlast⟩
  · rw [hnil]
    rfl
  · rw [hlast]
    simp

theorem perm_tagged_iff {α β : Type} {l : List α} {f g : α → β} :
    (l.map fun a => (a, f a)).Perm (l.map fun a => (a, g a)) ↔ ∀ a ∈ l, f a = g a := by
  constructor
  · intro h a ha
    have hmem := h.subset (List.mem_map.mpr ⟨a, ha, rfl⟩)
    obtain ⟨a', -, heq⟩ := List.mem_map.mp hmem
    obtain ⟨rfl, hfg⟩ := Prod.mk.inj heq
    exact hfg.symm
  · intro h
    rw [List.map_congr_left fun a ha => by rw [h a ha]]

theorem delivers_started_iff (hc : initUdpClients mirrorConfigs = some udpCliets) :
    Delivers dial write true mirrorConfigs msg ↔
      (∀ ec ∈ (entriesOf mirrorConfigs msg.agentID).dropLast, taking msg ec.rules = []) ∧
        ∀ rule ∈ taking msg (keptRules mirrorConfigs msg),
          Sendable dial write udpCliets msg rule ∧ target dial udpCliets rule = dial rule.distAddress := by
  have hex : exchange dial write true mirrorConfigs msg =
      deliverAll dial write udpCliets msg (keptRules mirrorConfigs msg) := by
    rw [exchange, hc, initMap_apply]
    rfl
  have hearlier : ((entriesOf mirrorConfigs msg.agentID).dropLast.flatMap fun ec =>
      (taking msg ec.rules).map fun rule => (rule, dial rule.distAddress)) = [] ↔
        ∀ ec ∈ (entriesOf mirrorConfigs msg.agentID).dropLast, taking msg ec.rules = [] := by
    simp [List.flatMap_eq_nil_iff]
  rw [Delivers, hex, expected_eq, ← hearlier]
  by_cases hsend : ∀ rule ∈ taking msg (keptRules mirrorConfigs msg), Sendable dial write udpCliets msg rule
  · obtain ⟨hpanic, hsent⟩ := deliverAll_of_sendable hsend
    rw [hpanic, hsent]
    constructor
    · rintro ⟨hperm, -⟩
      have hlen := hperm.length_eq
      rw [List.length_append, List.length_map, List.length_map] at hlen
      have hnil := List.length_eq_zero_iff.mp (Nat.right_eq_add.mp hlen)
      rw [hnil, List.nil_append] at hperm
      exact ⟨hnil, fun rule hr => ⟨hsend rule hr, perm_tagged_iff.mp hperm rule hr⟩⟩
    · rintro ⟨hnil, hall⟩
      rw [hnil, List.nil_append]
      exact ⟨perm_tagged_iff.mpr fun rule hr => (hall rule hr).2, by simp⟩
  · refine iff_of_false ?_ fun h => hsend fun rule hr => (h.2 rule hr).1
    rintro ⟨hperm, -⟩
    push Not at hsend
    have hlt := deliverAll_of_not_sendable hsend
    have hlen := hperm.length_eq
    rw [List.length_append, List.length_map, List.length_map] at hlen
    omega

theorem delivers_not_started_iff {logger : Bool} (h : ¬ (logger = true ∧ (initUdpClients mirrorConfigs).isSome)) :
    Delivers dial write logger mirrorConfigs msg ↔
      ∀ ec ∈ entriesOf mirrorConfigs msg.agentID, ∀ rule ∈ ec.rules, selection rule msg = [] := by
  have hex : (exchange dial write logger mirrorConfigs msg).sent = [] ∧
      (exchange dial write logger mirrorConfigs msg).panic ≠ some .nilClient := by
    cases hc : initUdpClients mirrorConfigs with
    | none => simp [exchange, hc]
    | some udpCliets =>
      have hlog : logger = false := by simpa [hc] using h
      simp [exchange, hc, hlog]
  rw [Delivers, hex.1, List.map_nil, List.nil_perm, and_iff_left hex.2, expected, List.flatMap_eq_nil_iff]
  simp only [List.map_eq_nil_iff, taking_eq_nil_iff]

theorem leadsTo_iff (hc : initUdpClients mirrorConfigs = some udpCliets) (rule : ExchangeRule) :
    LeadsTo dial mirrorConfigs rule.distAddress ↔
      (target dial udpCliets rule).isSome ∧ target dial udpCliets rule = dial rule.distAddress := by
  rw [target, initUdpClients_eq_some hc]
  constructor
  · rintro ⟨first, c, hfirst, hmirror, hdial, hsome⟩
    rw [hfirst, Option.bind_some, hmirror, Option.bind_some, hdial]
    exact ⟨hsome, rfl⟩
  · rintro ⟨hsome, heq⟩
    obtain ⟨e, he⟩ := Option.isSome_iff_exists.mp hsome
    obtain ⟨c, hbind, hdial⟩ := Option.bind_eq_some_iff.mp he
    obtain ⟨first, hfirst, hmirror⟩ := Option.bind_eq_some_iff.mp hbind
    exact ⟨first, c, hfirst, hmirror, by rw [hdial, ← he, heq], by rw [← heq]; exact hsome⟩

/-- The connection to the address of the rule takes the datagram. -/
def Accepted (dial : String → Option E) (write : E → List UInt8 → Bool) (msg : Message) (rule : ExchangeRule) : Prop :=
  ∀ e ∈ dial rule.distAddress, ∀ b ∈ toBytes msg 0 (selection rule msg), write e b

theorem sendable_iff (hc : initUdpClients mirrorConfigs = some udpCliets) (rule : ExchangeRule) :
    Sendable dial write udpCliets msg rule ∧ target dial udpCliets rule = dial rule.distAddress ↔
      msg.setHeaders.length ≤ (selection rule msg).length ∧ LeadsTo dial mirrorConfigs rule.distAddress ∧
        Accepted dial write msg rule := by
  rw [leadsTo_iff hc, Sendable, Accepted, Option.isSome_iff_exists]
  constructor
  · rintro ⟨⟨hlen, e, he, hwrite⟩, hdial⟩
    refine ⟨hlen, ⟨⟨e, he⟩, hdial⟩, fun e' he' => ?_⟩
    rwa [← Option.some.inj ((he.symm.trans hdial).trans he')]
  · rintro ⟨hlen, ⟨⟨e, he⟩, hdial⟩, hwrite⟩
    exact ⟨⟨hlen, e, he, hwrite e (hdial.symm.trans he)⟩, hdial⟩

theorem kept_iff (hc : initUdpClients mirrorConfigs = some udpCliets) :
    (∀ rule ∈ taking msg (keptRules mirrorConfigs msg),
        Sendable dial write udpCliets msg rule ∧ target dial udpCliets rule = dial rule.distAddress) ↔
      ∀ ec ∈ (entriesOf mirrorConfigs msg.agentID).getLast?, ∀ rule ∈ ec.rules, selection rule msg ≠ [] →
        msg.setHeaders.length ≤ (selection rule msg).length ∧ LeadsTo dial mirrorConfigs rule.distAddress ∧
          Accepted dial write msg rule := by
  simp only [sendable_iff hc]
  rw [keptRules]
  cases (entriesOf mirrorConfigs msg.agentID).getLast? with
  | none => simp [taking]
  | some last =>
    simp only [Option.elim_some, taking, List.mem_filter, decide_eq_true_eq, Option.mem_some_iff, forall_eq', and_imp]

/-- **Each rule's records are delivered to the rule's destination** exactly if no rule of a matching entry takes
a record, or the exchanger runs (there is a logger, and the first rule of every source has a colon in its
address), only the last matching entry has rules that take a record, and for each of them the datagram can be
made, the first rule listed under its address, taken for a source, leads to it, and the connection takes it. -/
theorem delivers_iff (dial : String → Option E) (write : E → List UInt8 → Bool) (logger : Bool)
    (mirrorConfigs : List ExchangerConfig) (msg : Message) :
    Delivers dial write logger mirrorConfigs msg ↔
      (∀ ec ∈ entriesOf mirrorConfigs msg.agentID, ∀ rule ∈ ec.rules, selection rule msg = []) ∨
        (logger = true ∧
          (∀ source rule, firstRule mirrorConfigs source = some rule → ':' ∈ rule.distAddress.toList) ∧
          (∀ ec ∈ (entriesOf mirrorConfigs msg.agentID).dropLast, ∀ rule ∈ ec.rules, selection rule msg = []) ∧
          ∀ ec ∈ (entriesOf mirrorConfigs msg.agentID).getLast?, ∀ rule ∈ ec.rules, selection rule msg ≠ [] →
            msg.setHeaders.length ≤ (selection rule msg).length ∧ LeadsTo dial mirrorConfigs rule.distAddress ∧
              Accepted dial write msg rule) := by
  rw [← initUdpClients_isSome]
  by_cases hstart : logger = true ∧ (initUdpClients mirrorConfigs).isSome
  · obtain ⟨rfl, hsome⟩ := hstart
    obtain ⟨udpCliets, hc⟩ := Option.isSome_iff_exists.mp hsome
    rw [delivers_started_iff hc, kept_iff hc]
    simp only [taking_eq_nil_iff, true_and, hsome]
    refine (or_iff_right_of_imp fun h => ⟨fun ec hec => h ec ((List.dropLast_sublist _).subset hec), ?_⟩).symm
    intro ec hec rule hrule hne
    exact absurd (h ec (List.mem_of_getLast? hec) rule hrule) hne
  · rw [delivers_not_started_iff hstart]
    exact (or_iff_left fun h => hstart ⟨h.1, h.2.1⟩).symm

/-- The sample configuration, with a rule for all ports: the client is opened under the source and looked up
under the address, and there is none. -/
theorem delivers_missing_client :
    exchange some (fun _ _ => true) true [{ source := "192.0.2.1", rules := [anyPorts] }]
        (interfacesMessage interfaces.record 5 6) = { sent := [], panic := some .nilClient } ∧
      ¬ Delivers some (fun _ _ => true) true [{ source := "192.0.2.1", rules := [anyPorts] }]
        (interfacesMessage interfaces.record 5 6) := by
  have hrun : exchange some (fun _ _ => true) true [{ source := "192.0.2.1", rules := [anyPorts] }]
      (interfacesMessage interfaces.record 5 6) = { sent := [], panic := some .nilClient } := by decide +kernel
  exact ⟨hrun, fun h => h.2 (by rw [hrun])⟩

end VFlow.Mirror
