import VFlow.Daemon.Status
import VFlow.Monitor.Rates

/-!
# Watching the collectors

The monitor visits a vFlow whose three collectors go on receiving, decoding and publishing, also while their counters
are read for a response. In whatever order all this happens, no counter goes back between two responses, and none is
beyond what can be read: `lifetime_of_watched`. So what `Rates` proves of responses that grow is true of the system
(`watched_rates_add_up`): the rates that the database gets and the growth that it misses add up to what the collectors
counted.
-/

namespace VFlow.Monitor

open Daemon Daemon.Pipeline

variable {env : Env} {W V : Type} [Fintype W] [DecidableEq W] [DecidableEq V] {udpSize : Nat} {mirrorAddr : Option IP}

/-- The three collectors. -/
abbrev Collectors (env : Env) (W V : Type) := (c : Collector) → State (c.service env) W V

/-- One state of a collector is after another. -/
def Goes (udpSize : Nat) (mirrorAddr : Option IP) (c : Collector) (s t : State (c.service env) W V) : Prop :=
  ∃ es, Runs (Step (c.opts udpSize mirrorAddr)) s es t

def Started (udpSize : Nat) (mirrorAddr : Option IP) (σ : Collectors env W V) : Prop :=
  ∀ c, ∃ mem, Goes udpSize mirrorAddr c (start (c.service env) W V (c.opts udpSize mirrorAddr) mem) (σ c)

/-- The response has what `status` returned. -/
structure Stats.Has (s : Stats) (st : Status) : Prop where
  udpQueue : s.udpQueue.toInt = st.udpQueue
  messageQueue : s.messageQueue.toInt = st.messageQueue
  udpCount : s.udpCount = st.udpCount
  decodedCount : s.decodedCount = st.decodedCount
  mqErrorCount : s.mqErrorCount = st.mqErrorCount

/-- The response is made while the collectors go on from `σ` to `τ`. -/
def Answers (udpSize : Nat) (mirrorAddr : Option IP) (σ : Collectors env W V) (s : FlowStats) (τ : Collectors env W V) :
    Prop :=
  ∀ c, ∃ s₁ s₂ s₃ s₄, Goes udpSize mirrorAddr c (σ c) s₁ ∧ Goes udpSize mirrorAddr c s₁ s₂ ∧
    Goes udpSize mirrorAddr c s₂ s₃ ∧ Goes udpSize mirrorAddr c s₃ s₄ ∧ Goes udpSize mirrorAddr c s₄ (τ c) ∧
    (s.stats c).Has (status s₁ s₂ s₃ s₄ (τ c))

/-- The monitor visits the collectors, which go on from `σ` to `τ`, one time after the other. -/
def Watched (udpSize : Nat) (mirrorAddr : Option IP) (startTime : Int64) (σ : Collectors env W V) (t : Int64) :
    List Visit → Collectors env W V → Prop
  | [], τ => σ = τ
  | v :: vs, τ =>
    match v.stats with
    | none => Watched udpSize mirrorAddr startTime σ t vs τ
    | some s => s.startTime = startTime ∧ t.toInt < v.now.toInt ∧
        ∃ ρ, Answers udpSize mirrorAddr σ s ρ ∧ Watched udpSize mirrorAddr startTime ρ v.now vs τ

def Counter.at (σ : Collectors env W V) : Counter → Nat
  | .udp c => (σ c).udpCount.toNat
  | .decode c => (σ c).decodedCount.toNat
  | .mqError c => (σ c).mqErrorCount.toNat

section one

variable {c : Collector} {s t u : State (c.service env) W V}

omit [Fintype W] in
theorem Goes.trans (h : Goes udpSize mirrorAddr c s t) (h' : Goes udpSize mirrorAddr c t u) :
    Goes udpSize mirrorAddr c s u := by
  obtain ⟨es, hes⟩ := h
  obtain ⟨es', hes'⟩ := h'
  exact ⟨es ++ es', hes.append hes'⟩

/-- The collector counted less than `2 ^ 63` datagrams and errors. -/
structure Small (s : State (c.service env) W V) : Prop where
  received : s.received.length < 2 ^ 63
  errors : s.errors < 2 ^ 63

omit [Fintype W] in
theorem Goes.small (h : Goes udpSize mirrorAddr c s t) (ht : Small t) : Small s := by
  obtain ⟨es, hes⟩ := h
  have hgrows := received_grows hes
  have hreceived := ht.received
  exact ⟨by omega, Nat.lt_of_le_of_lt (errors_le hes) ht.errors⟩

theorem Goes.counters_le {mem : (c.service env).Mem}
    (hs : Goes udpSize mirrorAddr c (start (c.service env) W V (c.opts udpSize mirrorAddr) mem) s)
    (h : Goes udpSize mirrorAddr c s t) (ht : Small t) : CountersLe s t := by
  obtain ⟨es, hes⟩ := hs
  obtain ⟨es', hes'⟩ := h
  exact Pipeline.counters_le hes hes' (ht.received.trans (by decide))

theorem Goes.mqErrorCount_toNat {mem : (c.service env).Mem}
    (hs : Goes udpSize mirrorAddr c (start (c.service env) W V (c.opts udpSize mirrorAddr) mem) s) (hsmall : Small s) :
    s.mqErrorCount.toNat = s.errors := by
  obtain ⟨es, hes⟩ := hs
  exact Pipeline.mqErrorCount_toNat hes (hsmall.errors.trans (by decide))

end one

section answers

variable {σ ρ τ : Collectors env W V} {s : FlowStats}

omit [Fintype W] in
theorem Answers.goes (h : Answers udpSize mirrorAddr σ s ρ) (c : Collector) :
    Goes udpSize mirrorAddr c (σ c) (ρ c) := by
  obtain ⟨s₁, s₂, s₃, s₄, h₁, h₂, h₃, h₄, h₅, -⟩ := h c
  exact (((h₁.trans h₂).trans h₃).trans h₄).trans h₅

omit [Fintype W] in
theorem Started.answers (hσ : Started udpSize mirrorAddr σ) (h : Answers udpSize mirrorAddr σ s ρ) :
    Started udpSize mirrorAddr ρ := by
  intro c
  obtain ⟨mem, hmem⟩ := hσ c
  exact ⟨mem, hmem.trans (h.goes c)⟩

theorem Answers.between (hσ : Started udpSize mirrorAddr σ) (h : Answers udpSize mirrorAddr σ s ρ)
    (hsmall : ∀ c, Small (ρ c)) (k : Counter) : k.at σ ≤ k.count s ∧ k.count s ≤ k.at ρ := by
  have hle {c : Collector} {u : State (c.service env) W V} (hfrom : Goes udpSize mirrorAddr c (σ c) u)
      (hto : Goes udpSize mirrorAddr c u (ρ c)) : CountersLe (σ c) u ∧ CountersLe u (ρ c) := by
    obtain ⟨mem, hmem⟩ := hσ c
    exact ⟨hmem.counters_le hfrom (hto.small (hsmall c)), (hmem.trans hfrom).counters_le hto (hsmall c)⟩
  -- each counter was read in a state of its own
  cases k with
  | udp c =>
    obtain ⟨s₁, s₂, s₃, s₄, h₁, h₂, h₃, h₄, h₅, hhas⟩ := h c
    obtain ⟨hfrom, hto⟩ := hle ((h₁.trans h₂).trans h₃) (h₄.trans h₅)
    rw [Counter.count, hhas.udpCount]
    exact ⟨hfrom.udpCount, hto.udpCount⟩
  | decode c =>
    obtain ⟨s₁, s₂, s₃, s₄, h₁, h₂, h₃, h₄, h₅, hhas⟩ := h c
    obtain ⟨hfrom, hto⟩ := hle (((h₁.trans h₂).trans h₃).trans h₄) h₅
    rw [Counter.count, hhas.decodedCount]
    exact ⟨hfrom.decodedCount, hto.decodedCount⟩
  | mqError c =>
    obtain ⟨s₁, s₂, s₃, s₄, -, -, -, -, -, hhas⟩ := h c
    obtain ⟨mem, hmem⟩ := hσ c
    obtain ⟨es, hes⟩ := h.goes c
    rw [Counter.count, hhas.mqErrorCount]
    refine ⟨?_, Nat.le_refl _⟩
    change (σ c).mqErrorCount.toNat ≤ (ρ c).mqErrorCount.toNat
    rw [hmem.mqErrorCount_toNat ((h.goes c).small (hsmall c)),
      (hmem.trans (h.goes c)).mqErrorCount_toNat (hsmall c)]
    exact errors_le hes

theorem Counter.at_lt (hσ : Started udpSize mirrorAddr σ) (hsmall : ∀ c, Small (σ c)) (k : Counter) :
    k.at σ < 2 ^ 63 := by
  have hbounded (c : Collector) : (σ c).udpCount.toNat < 2 ^ 63 ∧ (σ c).decodedCount.toNat < 2 ^ 63 := by
    obtain ⟨mem, es, hes⟩ := hσ c
    have hreceived := (hsmall c).received
    have hb := (counts_of_runs hes).bounded (by omega)
    have hdecoded := hb.decoded
    have hudp := hb.received
    omega
  cases k with
  | udp c => exact (hbounded c).1
  | decode c => exact (hbounded c).2
  | mqError c =>
    obtain ⟨mem, hmem⟩ := hσ c
    exact (hmem.mqErrorCount_toNat (hsmall c)).trans_lt (hsmall c).errors

omit [Fintype W] in
theorem Watched.small {startTime t : Int64} {vs : List Visit} (h : Watched udpSize mirrorAddr startTime σ t vs τ)
    (hsmall : ∀ c, Small (τ c)) (c : Collector) : Small (σ c) := by
  induction vs generalizing σ t with
  | nil => exact h ▸ hsmall c
  | cons v vs ih =>
    obtain ⟨stats, now, post, sysBody, sysPost⟩ := v
    cases stats with
    | none => exact ih h
    | some s =>
      obtain ⟨-, -, ρ, hanswers, hrest⟩ := h
      exact (hanswers.goes c).small (ih hrest)

theorem lifetime_of_watched {x : Sample} {vs : List Visit} (hσ : Started udpSize mirrorAddr σ)
    (hx : ∀ k : Counter, k.count x.stats ≤ k.at σ)
    (h : Watched udpSize mirrorAddr x.stats.startTime σ x.time vs τ) (hsmall : ∀ c, Small (τ c)) :
    Lifetime x vs ∧ ∀ k : Counter, k.count (vs.foldl Sample.next x).stats ≤ k.at τ := by
  induction vs generalizing σ x with
  | nil =>
    obtain rfl : σ = τ := h
    exact ⟨trivial, hx⟩
  | cons v vs ih =>
    obtain ⟨stats, now, post, sysBody, sysPost⟩ := v
    cases stats with
    | none =>
      obtain ⟨hlife, hlast⟩ := ih hσ hx h
      exact ⟨⟨fun hne => absurd rfl hne, hlife⟩, hlast⟩
    | some s =>
      obtain ⟨hstart, hlater, ρ, hanswers, hrest⟩ := h
      have hsmallρ := hrest.small hsmall
      have hbetween := hanswers.between hσ hsmallρ
      have hstarted := hσ.answers hanswers
      obtain ⟨hlife, hlast⟩ := ih (x := ⟨s, now⟩) hstarted (fun k => (hbetween k).2) (hstart ▸ hrest)
      refine ⟨⟨fun _ => ⟨hstart, fun k => (hx k).trans (hbetween k).1, fun k => ?_, hlater⟩, hlife⟩, hlast⟩
      exact Nat.lt_of_le_of_lt (hbetween k).2 (k.at_lt hstarted hsmallρ)

end answers

/-- **The rates that the database gets, with what it misses, add up to what the collectors counted**, up to one event
in a second: to the growth of the counter between the first response and the last, which is no more than it grew in the
collectors. -/
theorem watched_rates_add_up (db : DBType) {k : Counter} (hk : k ∈ db.counters) {σ ρ τ : Collectors env W V}
    {x : Sample} {vs : List Visit} (hσ : Started udpSize mirrorAddr σ) (hx : Answers udpSize mirrorAddr σ x.stats ρ)
    (h : Watched udpSize mirrorAddr x.stats.startTime ρ x.time vs τ) (htime : 0 ≤ x.time.toInt)
    (hsmall : ∀ c, Small (τ c)) :
    area k x vs (mains db (some x.flow.text) (vs.map Visit.run)).2 + missed k x vs ≤ (k.at τ : Int) - k.at σ ∧
      (k.count (vs.foldl Sample.next x).stats : Int) - k.count x.stats ≤
        area k x vs (mains db (some x.flow.text) (vs.map Visit.run)).2 + missed k x vs +
          ((vs.foldl Sample.next x).time.toInt - x.time.toInt) ∧
      0 ≤ missed k x vs ∧ ((∀ v ∈ vs, v.post.stored = true) → missed k x vs = 0) := by
  have hsmallρ := h.small hsmall
  have hbetween := hx.between hσ hsmallρ
  have hstarted := hσ.answers hx
  have hfits : x.stats.Fits := fun k => Nat.lt_of_le_of_lt (hbetween k).2 (k.at_lt hstarted hsmallρ)
  obtain ⟨hlife, hlast⟩ := lifetime_of_watched hstarted (fun k => (hbetween k).2) h hsmall
  obtain ⟨hle, hge⟩ := rates_add_up db hk hfits htime hlife
  have hfirst := (hbetween k).1
  have hend := hlast k
  exact ⟨by omega, hge, missed_nonneg k hlife, missed_of_stored k⟩

/-! ## An example -/

section mirrored

def atStart : Collectors plainEnv Unit Unit
  | .ipfix => smallStart
  | .netflowV9 => start (netflowV9Service plainEnv) Unit Unit ⟨64, none⟩ .empty
  | .sFlow => start (sFlowService plainEnv) Unit Unit ⟨64, none⟩ ()

def atEnd (s : State (ipfixService plainEnv) Unit Unit) : Collectors plainEnv Unit Unit
  | .ipfix => s
  | .netflowV9 => atStart .netflowV9
  | .sFlow => atStart .sFlow

def decodedStats (n : UInt64) : FlowStats where
  startTime := 1
  ipfix := ⟨⟨0, 0, n, n, 0, 1⟩, 0⟩
  sFlow := ⟨0, 0, 0, 0, 0, 1⟩
  netflowV9 := ⟨0, 0, 0, 0, 0, 1⟩

theorem status_mirroredRun : ∃ s, Runs (Step smallOpts) smallStart mirroredRun s ∧
    (decodedStats 1).ipfix.toStats.Has (status s s s s s) ∧ Small (c := .ipfix) s := by
  have hrun : ((mirroredRun.foldlM (step smallOpts) smallStart).map fun s =>
      decide (((s.world.shared.chans .udp).buf.length = 0 ∧ s.mqCh.buf.length = 0 ∧ s.udpCount = 1 ∧
        s.decodedCount = 1 ∧ s.mqErrorCount = 0) ∧ s.received.length < 2 ^ 63 ∧ s.errors < 2 ^ 63)) = some true := by
    decide +kernel
  obtain ⟨s, hs, hdone⟩ := Option.map_eq_some_iff.mp hrun
  obtain ⟨⟨hudp, hmq, hudpCount, hdecoded, herror⟩, hreceived, herrors⟩ := of_decide_eq_true hdone
  have hstatus : status s s s s s = ⟨0, 0, 1, 1, 0⟩ := by
    rw [status, hudp, hmq, hudpCount, hdecoded, herror]
  exact ⟨s, (Runs.foldlM_iff fun _ _ _ => Iff.rfl).mp hs, hstatus ▸ ⟨rfl, rfl, rfl, rfl, rfl⟩, hreceived, herrors⟩

theorem started_atStart : Started 64 (some [198, 51, 100, 1]) atStart
  | .ipfix => ⟨cacheA, [], .nil _⟩
  | .netflowV9 => ⟨.empty, [], .nil _⟩
  | .sFlow => ⟨(), [], .nil _⟩

theorem answers_atStart : Answers 64 (some [198, 51, 100, 1]) atStart (decodedStats 0) atStart := by
  intro c
  have hsame : Goes 64 (some [198, 51, 100, 1]) c (atStart c) (atStart c) := ⟨[], .nil _⟩
  refine ⟨atStart c, atStart c, atStart c, atStart c, hsame, hsame, hsame, hsame, hsame, ?_⟩
  cases c <;> exact ⟨rfl, rfl, rfl, rfl, rfl⟩

/-- After a first visit at 100 the monitor cannot reach vFlow at 101. At 103, when a datagram was decoded, it cannot
reach the database, and the visit at 104 finds the counters as they were. -/
def threeVisits : List Visit :=
  [{ stats := none, now := 101 }, { stats := some (decodedStats 1), now := 103, post := ⟨.error "timeout", false⟩ },
    { stats := some (decodedStats 1), now := 104 }]

def firstSample : Sample := ⟨decodedStats 0, 100⟩

theorem watched_rates_add_up_mirroredRun :
    ∃ s, Runs (Step smallOpts) smallStart mirroredRun s ∧
      Watched 64 (some [198, 51, 100, 1]) 1 atStart 100 threeVisits (atEnd s) ∧
      missed (.udp .ipfix) firstSample threeVisits = 1 ∧
      area (.udp .ipfix) firstSample threeVisits
        (mains .influxdb (some firstSample.flow.text) (threeVisits.map Visit.run)).2 + 1 ≤ 1 ∧
      1 ≤ area (.udp .ipfix) firstSample threeVisits
        (mains .influxdb (some firstSample.flow.text) (threeVisits.map Visit.run)).2 + 1 + 4 := by
  obtain ⟨s, hrun, hhas, hsmall⟩ := status_mirroredRun
  have hsame : Goes 64 (some [198, 51, 100, 1]) .ipfix s s := ⟨[], .nil _⟩
  have hanswers : Answers 64 (some [198, 51, 100, 1]) atStart (decodedStats 1) (atEnd s) := by
    intro c
    cases c with
    | ipfix => exact ⟨s, s, s, s, ⟨mirroredRun, hrun⟩, hsame, hsame, hsame, hsame, hhas⟩
    | netflowV9 => exact answers_atStart .netflowV9
    | sFlow => exact answers_atStart .sFlow
  have hagain : Answers 64 (some [198, 51, 100, 1]) (atEnd s) (decodedStats 1) (atEnd s) := by
    intro c
    cases c with
    | ipfix => exact ⟨s, s, s, s, hsame, hsame, hsame, hsame, hsame, hhas⟩
    | netflowV9 => exact answers_atStart .netflowV9
    | sFlow => exact answers_atStart .sFlow
  have hwatched : Watched 64 (some [198, 51, 100, 1]) 1 atStart 100 threeVisits (atEnd s) :=
    ⟨rfl, by decide, atEnd s, hanswers, rfl, by decide, atEnd s, hagain, rfl⟩
  have hlt : ∀ c, Small (atEnd s c)
    | .ipfix => hsmall
    | .netflowV9 | .sFlow => ⟨Nat.two_pow_pos 63, Nat.two_pow_pos 63⟩
  have hmissed : missed (.udp .ipfix) firstSample threeVisits = 1 := by decide
  obtain ⟨hle, hge, -⟩ := watched_rates_add_up .influxdb (k := .udp .ipfix) List.mem_cons_self (x := firstSample)
    started_atStart answers_atStart hwatched (by decide) hlt
  rw [hmissed] at hle hge
  have hcount : Counter.at (atEnd s) (.udp .ipfix) = 1 := congrArg UInt64.toNat hhas.udpCount.symm
  exact ⟨s, hrun, hwatched, hmissed, hle.trans (by rw [hcount]; decide), hge⟩

end mirrored

end VFlow.Monitor
