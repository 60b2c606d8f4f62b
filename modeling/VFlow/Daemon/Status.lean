import Mathlib.Algebra.Order.BigOperators.Group.Finset
import VFlow.Daemon.Services

/-!
# What a collector reports of itself

`status` reads the lengths of the channels and the counters one after the other, while the collector goes on. In every
state the counters bound each other and the channels (`counters_bounded`): the receive loop counts a datagram before it
sends it on, and a worker counts a message before it offers it to the producer. Since the lengths are read before the
counters, the bounds hold of what `status` returns too, except that messages which are decoded after `UDPCount` was
read are in `DecodedCount` (`status_bounded`).
-/

namespace VFlow.Daemon.Pipeline

open Goroutines IPFIX

variable {svc : Service} {W V : Type}

theorem marshalling_add_uncounted_le (l : Local) : marshalling l + uncounted l ≤ held l := by
  cases l with
  | run r => cases r <;> simp [marshalling, uncounted, held]
  | worker x =>
    obtain ⟨pc, msg, mirror⟩ := x
    cases pc <;> simp [marshalling, uncounted, held]
  | _ => simp [marshalling, uncounted, held]

theorem total_marshalling_le [Fintype W] (w : IPFIX.State W V) :
    total marshalling w + uncounted (w.locals .run) ≤ total held w := by
  have hworkers : ∑ i, marshalling (w.locals (.worker i)) ≤ ∑ i, held (w.locals (.worker i)) :=
    Finset.sum_le_sum fun i _ => Nat.le_trans (Nat.le_add_right _ _) (marshalling_add_uncounted_le _)
  have hrun := marshalling_add_uncounted_le (w.locals .run)
  unfold total
  omega

/-- The datagrams that are not counted as decoded in the end. -/
def undecodable {Mem : Type} (c : Collector) (es : List (Event Mem W V)) : Nat :=
  tally noMessage es + if c.countsFirst then 0 else tally jsonError es

/-- The counters of a state, as numbers. -/
structure Bounded [Fintype W] (es : List (Event svc.Mem W V)) (s : State svc W V) : Prop where
  errors : s.mqErrorCount = UInt64.ofNat s.errors
  /-- The messages that were given up. -/
  failed : (s.published.countP fun p => !p.2.ok) ≤ s.errors
  texts : s.published.length + s.mqCh.buf.length ≤ s.decodedCount.toNat
  decoded : s.decodedCount.toNat + (s.world.shared.chans .udp).buf.length ≤ s.udpCount.toNat
  received : s.udpCount.toNat ≤ s.received.length ∧ s.received.length ≤ s.udpCount.toNat + 1
  /-- While no goroutine has a datagram, the others are in the channel or were decoded, or could not be. -/
  settled : total held s.world = 0 →
    s.udpCount.toNat = (s.world.shared.chans .udp).buf.length + s.decodedCount.toNat + undecodable svc.collector es

theorem countP_le_errors (s : State svc W V) : (s.published.countP fun p => !p.2.ok) ≤ s.errors := by
  unfold State.errors
  induction s.published with
  | nil => exact Nat.le_refl _
  | cons p ps ih =>
    have hp := p.2.pos_of_not_ok
    rw [List.countP_cons, List.map_cons, List.sum_cons]
    cases hok : p.2.ok with
    | true =>
      simp only [Bool.not_true, Bool.false_eq_true, if_false]
      omega
    | false =>
      have herrors := hp hok
      simp only [Bool.not_false, if_true]
      omega

section counts

variable [Fintype W] {es : List (Event svc.Mem W V)} {s : State svc W V}

theorem Counts.decodedBy_eq (h : Counts es s) :
    decodedBy svc.collector es = tally noDataSets es + tally json es +
      if svc.collector.countsFirst then total marshalling s.world + tally jsonError es else 0 := by
  have hmessages := h.messages
  unfold decodedBy
  split <;> omega

/-- A message is counted as long as a worker has it, and the loop counts its datagram before it sends it. -/
theorem Counts.decodedBy_le (h : Counts es s) :
    decodedBy svc.collector es + (s.world.shared.chans .udp).buf.length + uncounted (s.world.locals .run) ≤
      s.received.length := by
  have hdatagrams := h.datagrams
  have hle := total_marshalling_le s.world
  rw [h.decodedBy_eq]
  split <;> omega

theorem Counts.decodedCount_toNat (h : Counts es s) (hlt : s.received.length < 2 ^ 64) :
    s.decodedCount.toNat = decodedBy svc.collector es := by
  have hle := h.decodedBy_le
  rw [h.decodedCount, UInt64.toNat_ofNat_of_lt']
  exact Nat.lt_of_le_of_lt (by omega) hlt

theorem Counts.bounded (h : Counts es s) (hlt : s.received.length < 2 ^ 64) : Bounded es s := by
  obtain ⟨n, hudp, hn⟩ := h.udpCount
  have hle := h.decodedBy_le
  have hby := h.decodedBy_eq
  have htexts := h.texts
  have hdatagrams := h.datagrams
  have hdecoded := h.decodedCount_toNat hlt
  have hudpCount : s.udpCount.toNat = n := by
    rw [hudp, UInt64.toNat_ofNat_of_lt']
    exact Nat.lt_of_le_of_lt (by omega) hlt
  have huncounted : uncounted (s.world.locals .run) ≤ 1 := by
    unfold uncounted
    split <;> omega
  refine ⟨h.mqErrorCount, countP_le_errors s, ?_, ?_, ?_, fun hheld => ?_⟩
  · rw [hdecoded, hby]
    split <;> omega
  · rw [hdecoded, hudpCount]
    omega
  · rw [hudpCount]
    omega
  · have hmarshalling := total_marshalling_le s.world
    rw [hdecoded, hudpCount, hby, undecodable]
    split <;> omega

end counts

/-- What `status` returns of the counters and of two channels. Each field is read in a state of its own. -/
structure Status where
  udpQueue : Nat
  messageQueue : Nat
  udpCount : UInt64
  decodedCount : UInt64
  mqErrorCount : UInt64

def status (s₁ s₂ s₃ s₄ s₅ : State svc W V) : Status where
  udpQueue := (s₁.world.shared.chans .udp).buf.length
  messageQueue := s₂.mqCh.buf.length
  udpCount := s₃.udpCount
  decodedCount := s₄.decodedCount
  mqErrorCount := s₅.mqErrorCount

section runs

variable [Fintype W] [DecidableEq W] [DecidableEq V] {opts : Opts} {s t : State svc W V}
  {es es' : List (Event svc.Mem W V)}

omit [Fintype W] in
theorem received_grows (h : Runs (Step opts) s es t) :
    t.received.length = s.received.length + (es.flatMap (arrival opts)).length := by
  induction h with
  | nil => rfl
  | cons hstep _ ih =>
    rw [ih, received_of_step hstep, List.flatMap_cons, List.length_append, List.length_append]
    omega

omit [Fintype W] [DecidableEq W] [DecidableEq V] in
theorem uncounted_exec {op : Operation} {l l' : Local} (h : (code opts).exec l op = some l') :
    uncounted l' ≤ arrives op := by
  cases l with
  | run r =>
    obtain ⟨r', hr, rfl⟩ := Option.map_eq_some_iff.mp h
    unfold Run.exec at hr
    split at hr <;> first | (split at hr <;> cases hr <;> simp [uncounted]) | (cases hr; try simp [uncounted, arrives])
  | shutdown rest =>
    obtain ⟨rest', hr, rfl⟩ := Option.map_eq_some_iff.mp h
    exact Nat.zero_le _
  | worker x =>
    obtain ⟨x', hx, rfl⟩ := Option.map_eq_some_iff.mp h
    exact Nat.zero_le _
  | dispatcher d =>
    obtain ⟨d', hd, rfl⟩ := Option.map_eq_some_iff.mp h
    exact Nat.zero_le _
  | mirror m =>
    obtain ⟨m', hm, rfl⟩ := Option.map_eq_some_iff.mp h
    exact Nat.zero_le _

omit [Fintype W] in
theorem uncounted_of_step {e : Event svc.Mem W V} (h : Step opts s e t) :
    uncounted (t.world.locals .run) + s.received.length ≤ t.received.length + uncounted (s.world.locals .run) := by
  have hreceived := congrArg List.length (received_of_step h)
  rw [List.length_append] at hreceived
  by_cases he : ∀ a now, e ≠ .daemon a now
  · rw [(aside_of_step h he).world]
    omega
  · push Not at he
    obtain ⟨a, now, rfl⟩ := he
    obtain ⟨-, world, s', hworld, -, rfl⟩ := step_daemon.mp h
    cases hworld with
    | drop b =>
      dsimp only at hreceived ⊢
      omega
    | @run g op l shared hexec happly =>
      by_cases hg : g = .run
      · subst hg
        have harrives : arrives op ≤ (arrival opts (.daemon (.run .run op) now : Event svc.Mem W V)).length := by
          cases op with
          | input x => cases x <;> simp [arrives, arrival]
          | _ => exact Nat.zero_le _
        have huncounted := uncounted_exec hexec
        simp only [Function.update_self] at hreceived ⊢
        omega
      · simp only [Function.update_of_ne (Ne.symm hg)] at hreceived ⊢
        omega

omit [Fintype W] in
theorem uncounted_of_runs (h : Runs (Step opts) s es t) :
    uncounted (t.world.locals .run) + s.received.length ≤ t.received.length + uncounted (s.world.locals .run) := by
  induction h with
  | nil => omega
  | cons hstep _ ih =>
    have hfirst := uncounted_of_step hstep
    omega

theorem udpCount_le {es'' : List (Event svc.Mem W V)} (h : Runs (Step opts) s es' t) (hs : Counts es s)
    (ht : Counts es'' t) (hlt : t.received.length < 2 ^ 64) : s.udpCount.toNat ≤ t.udpCount.toNat := by
  obtain ⟨n, hn, hreceived⟩ := hs.udpCount
  obtain ⟨m, hm, hreceived'⟩ := ht.udpCount
  have hgrows := received_grows h
  have huncounted := uncounted_of_runs h
  rw [hn, hm, UInt64.toNat_ofNat_of_lt' (Nat.lt_of_le_of_lt (by omega) hlt),
    UInt64.toNat_ofNat_of_lt' (Nat.lt_of_le_of_lt (by omega) hlt)]
  omega

omit [Fintype W] [DecidableEq W] [DecidableEq V] in
theorem decodedBy_mono (c : Collector) {Mem : Type} (es es' : List (Event Mem W V)) :
    decodedBy c es ≤ decodedBy c (es ++ es') := by
  simp only [decodedBy, tally_append]
  split <;> omega

omit [Fintype W] in
theorem published_of_effect {now : Int} {a : IPFIX.Act W V} (h : effect opts s now a = some t) :
    t.published = s.published := by
  unfold effect at h
  split at h <;> grind [State.counted, State.offer]

omit [Fintype W] in
theorem published_of_step {e : Event svc.Mem W V} (h : Step opts s e t) : s.published <+: t.published := by
  have hrunning := running_of_step h
  cases e with
  | daemon a now =>
    obtain ⟨-, world, s', -, heff, rfl⟩ := step_daemon.mp h
    exact (published_of_effect heff).symm ▸ List.prefix_rfl
  | publish p =>
    simp only [Step, step, hrunning, Bool.false_eq_true, if_false] at h
    split at h <;> cases h
    exact List.prefix_append _ _
  | _ =>
    have hsame : t.published = s.published := by
      simp only [Step, step, hrunning, Bool.false_eq_true, if_false] at h
      grind
    exact hsame.symm ▸ List.prefix_rfl

omit [Fintype W] in
theorem published_of_runs (h : Runs (Step opts) s es t) : s.published <+: t.published := by
  induction h with
  | nil => exact List.prefix_rfl
  | cons hstep _ ih => exact (published_of_step hstep).trans ih

omit [Fintype W] in
theorem errors_le (h : Runs (Step opts) s es t) : s.errors ≤ t.errors := by
  obtain ⟨ps, hps⟩ := published_of_runs h
  rw [State.errors, State.errors, ← hps, List.map_append, List.sum_append]
  exact Nat.le_add_right _ _

structure CountersLe (s t : State svc W V) : Prop where
  udpCount : s.udpCount.toNat ≤ t.udpCount.toNat
  decodedCount : s.decodedCount.toNat ≤ t.decodedCount.toNat

theorem counters_le {mem : svc.Mem} (h : Runs (Step opts) (start svc W V opts mem) es s)
    (h' : Runs (Step opts) s es' t) (hlt : t.received.length < 2 ^ 64) : CountersLe s t := by
  have hgrows := received_grows h'
  have hs := counts_of_runs h
  have ht := counts_of_runs (h.append h')
  refine ⟨udpCount_le h' hs ht hlt, ?_⟩
  rw [hs.decodedCount_toNat (by omega), ht.decodedCount_toNat hlt]
  exact decodedBy_mono svc.collector es es'

theorem mqErrorCount_toNat {mem : svc.Mem} (h : Runs (Step opts) (start svc W V opts mem) es s)
    (hlt : s.errors < 2 ^ 64) : s.mqErrorCount.toNat = s.errors := by
  rw [(counts_of_runs h).mqErrorCount, UInt64.toNat_ofNat_of_lt' hlt]

end runs

end VFlow.Daemon.Pipeline

namespace VFlow.Daemon

open IPFIX Pipeline

section runs

variable {env : Env} {c : Collector} {W V : Type} [Fintype W] [DecidableEq W] [DecidableEq V] {udpSize : Nat}
  {mirrorAddr : Option IP} {mem : (c.service env).Mem}

/-- **The counters bound each other and the channels in every state**: what was published and what waits for it are
no more than `DecodedCount`, this and the datagrams in the channel no more than `UDPCount`, which is behind by one
datagram at most. Once no goroutine has a datagram, the datagrams in the channel, those that were decoded and those
that could not be are all. `MQErrorCount` has the errors of the producer, one at least for each message that it gave
up. -/
theorem counters_bounded {es : List (Event (c.service env).Mem W V)} {s : State (c.service env) W V}
    (h : Runs (Step (c.opts udpSize mirrorAddr)) (start (c.service env) W V (c.opts udpSize mirrorAddr) mem) es s)
    (hlt : s.received.length < 2 ^ 64) : Bounded es s :=
  (counts_of_runs h).bounded hlt

theorem counters_bounded_mirroredRun :
    ∃ s, Runs (Step smallOpts) smallStart mirroredRun s ∧ s.published.length = 1 ∧ Bounded mirroredRun s := by
  obtain ⟨s, hrun, hpublished, -, hreceived⟩ := runs_mirroredRun
  refine ⟨s, hrun, hpublished, counters_bounded (c := .ipfix) hrun ?_⟩
  rw [hreceived]
  decide

/-- **A status is coherent, though its fields are read one after the other.** -/
theorem status_bounded {es₁ es₂ es₃ es₄ es₅ : List (Event (c.service env).Mem W V)}
    {s₁ s₂ s₃ s₄ s₅ : State (c.service env) W V}
    (h₁ : Runs (Step (c.opts udpSize mirrorAddr)) (start (c.service env) W V (c.opts udpSize mirrorAddr) mem) es₁ s₁)
    (h₂ : Runs (Step (c.opts udpSize mirrorAddr)) s₁ es₂ s₂) (h₃ : Runs (Step (c.opts udpSize mirrorAddr)) s₂ es₃ s₃)
    (h₄ : Runs (Step (c.opts udpSize mirrorAddr)) s₃ es₄ s₄) (h₅ : Runs (Step (c.opts udpSize mirrorAddr)) s₄ es₅ s₅)
    (hlt : s₅.received.length < 2 ^ 64) :
    (status s₁ s₂ s₃ s₄ s₅).udpQueue ≤ (status s₁ s₂ s₃ s₄ s₅).udpCount.toNat ∧
      (status s₁ s₂ s₃ s₄ s₅).messageQueue ≤ (status s₁ s₂ s₃ s₄ s₅).decodedCount.toNat ∧
      (status s₁ s₂ s₃ s₄ s₅).decodedCount.toNat ≤ (status s₁ s₂ s₃ s₄ s₅).udpCount.toNat + 1 +
        (es₄.flatMap (arrival (c.opts udpSize mirrorAddr))).length := by
  have hrun₃ := (h₁.append h₂).append h₃
  have hrun₄ := hrun₃.append h₄
  have hgrows₂ := received_grows h₂
  have hgrows₃ := received_grows h₃
  have hgrows₄ := received_grows h₄
  have hgrows₅ := received_grows h₅
  have hcounts₁ := counts_of_runs h₁
  have hcounts₂ := counts_of_runs (h₁.append h₂)
  have hcounts₃ := counts_of_runs hrun₃
  have hcounts₄ := counts_of_runs hrun₄
  refine ⟨?_, ?_, ?_⟩
  · have hqueue := (hcounts₁.bounded (by omega)).decoded
    have hudpCount := (counters_le h₁ (h₂.append h₃) (by omega)).udpCount
    dsimp only [status]
    omega
  · have hqueue := (hcounts₂.bounded (by omega)).texts
    have hdecoded := (counters_le (h₁.append h₂) (h₃.append h₄) (by omega)).decodedCount
    dsimp only [status]
    omega
  · have hdecoded := (hcounts₄.bounded (by omega)).decoded
    have hudpCount₄ := (hcounts₄.bounded (by omega)).received
    have hudpCount₃ := (hcounts₃.bounded (by omega)).received
    dsimp only [status]
    omega

/-- The datagram is decoded after `UDPCount` was read. -/
theorem status_bounded_mirroredRun :
    ∃ s t, Runs (Step smallOpts) smallStart (mirroredRun.take 9) s ∧ Runs (Step smallOpts) s (mirroredRun.drop 9) t ∧
      (status s s s t t).udpQueue ≤ (status s s s t t).udpCount.toNat ∧
      (status s s s t t).messageQueue ≤ (status s s s t t).decodedCount.toNat ∧
      (status s s s t t).decodedCount.toNat ≤ (status s s s t t).udpCount.toNat + 1 := by
  obtain ⟨t, hrun, -, -, hreceived⟩ := runs_mirroredRun
  rw [← List.take_append_drop 9 mirroredRun] at hrun
  obtain ⟨s, hs, ht⟩ := hrun.of_append
  refine ⟨s, t, hs, ht, status_bounded (c := .ipfix) hs (.nil s) (.nil s) ht (.nil t) ?_⟩
  rw [hreceived]
  decide

end runs

end VFlow.Daemon
