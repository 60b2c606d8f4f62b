import Mathlib.Algebra.GroupWithZero.Nat
import VFlow.Daemon.Custody
import VFlow.Producer.Publication

/-!
# A collector from the socket to the message queue

The receive loop, the workers, the mirror and `shutdown` are those of `Daemon.IPFIX`, with their buffers and channels.
Here the workers decode what is in the buffers, marshal the messages and offer them to the channel of the producer,
which takes them one after the other and publishes them; and the loop, the workers and the producer count. A producer
counts its errors, and not the messages that it gives up: one that tries again can count several for one message, also
for one that it delivers in the end (`Publication`).

The three collectors share this structure. They differ in what decoding is (`Service`): in one piece for sFlow, and
in pieces for the others, between which the other workers use the cache too. The buffer handling of the three workers
is the same, up to the buffer that two of them get and put back before their first datagram.

What the socket has delivered and what has gone out is kept in the state.
-/

namespace VFlow.Daemon

/-- What becomes of a datagram: no message (its header cannot be decoded; for sFlow, there was an error, or there are
no samples), a message without data sets, a message with its JSON text if it could be marshalled, or a panic. -/
inductive Verdict where
  | noMessage
  | noDataSets
  | message (json : Option (List UInt8))
  | panicked
  deriving DecidableEq

/-- A collector and its decoder. A job is a decoder that stands at its next operation on the memory that the workers
share; `work` is the next piece, and `verdict` is there when it has finished. -/
structure Service where
  collector : Collector
  Mem : Type
  Job : Type
  receive (now : Int) (raddr : IP) (mem : Mem) (body : List UInt8) : Job
  work (mem : Mem) (job : Job) : Option (Job × Mem)
  verdict (job : Job) : Option Verdict

namespace Service

variable (svc : Service)

/-- A decoder of this datagram can come to this point, whatever the other workers do to the memory. -/
def Decodes (raddr : IP) (body : List UInt8) (job : svc.Job) : Prop :=
  ∃ now mem, Relation.ReflTransGen (fun job job' => ∃ mem mem', svc.work mem job = some (job', mem'))
    (svc.receive now raddr mem body) job

/-- The text is what a datagram can give. -/
def Yields (raddr : IP) (body text : List UInt8) : Prop :=
  ∃ job, svc.Decodes raddr body job ∧ svc.verdict job = some (.message (some text))

end Service

def Collector.countsFirst : Collector → Bool
  | .ipfix | .netflowV9 => true
  | .sFlow => false

def Collector.worker : Collector → IPFIX.Worker
  | .ipfix | .netflowV9 => {}
  | .sFlow => { pc := .select }

/-- Only the IPFIX collector has a mirror. -/
def Collector.opts (udpSize : Nat) (mirrorAddr : Option IP) : Collector → IPFIX.Opts
  | .ipfix => ⟨udpSize, mirrorAddr⟩
  | .netflowV9 | .sFlow => ⟨udpSize, none⟩

open IPFIX in
def Collector.locals {W V : Type} (c : Collector) : Goroutine W V → Local
  | .run => .run .test
  | .shutdown => .shutdown (c.shutdown true)
  | .worker _ => .worker c.worker
  | .dispatcher => .dispatcher {}
  | .mirror _ => .mirror {}

open Producer (Publication)

namespace Pipeline

open Goroutines IPFIX

/-! ## The system -/

structure State (svc : Service) (W V : Type) where
  world : IPFIX.State W V
  jobs : W → Option svc.Job := fun _ => none
  /-- What a mirror goroutine has copied into its packet. -/
  packets : V → Option Datagram := fun _ => none
  mem : svc.Mem
  mqCh : Chan (List UInt8) := .make _ 1000
  /-- The message that the producer is publishing. -/
  producer : Option (List UInt8) := none
  udpCount : UInt64 := 0
  decodedCount : UInt64 := 0
  mqErrorCount : UInt64 := 0
  crashed : Bool := false
  received : List Datagram := []
  mirrored : List Datagram := []
  /-- The messages that the producer was done with. -/
  published : List (List UInt8 × Publication) := []

inductive Event (Mem W V : Type) where
  /-- A step of the goroutines of the collector, at some time. -/
  | daemon (a : Act W V) (now : Int)
  /-- A worker decodes up to the next operation on the memory. -/
  | work (i : W)
  | panic (i : W)
  /-- Another goroutine changes the memory. -/
  | cache (mem : Mem)
  /-- The producer takes the next message. -/
  | take
  | publish (p : Publication)

variable {svc : Service} {W V : Type}

def State.errors (s : State svc W V) : Nat := (s.published.map fun p => p.2.errors).sum

def State.verdict (s : State svc W V) (i : W) : Option Verdict := (s.jobs i).bind svc.verdict

def State.counted (s : State svc W V) (now : Bool) : State svc W V :=
  if now then { s with decodedCount := s.decodedCount + 1 } else s

/-- The send to the producer, which does not block: the message is dropped when the channel is full. -/
def State.offer (s : State svc W V) (text : List UInt8) : State svc W V :=
  { s with mqCh := (s.mqCh.send text).getD s.mqCh }

section

variable [DecidableEq W] [DecidableEq V]

/-- What a step of the goroutines does besides, if it can be: the results of decoding and marshalling are those of
the job. -/
def effect (opts : Opts) (s : State svc W V) (now : Int) : Act W V → Option (State svc W V)
  | .run .run (.input (.datagram raddr data)) =>
    some { s with received := s.received ++ [(raddr, data.take opts.udpSize)] }
  | .run .run (.write _ _) => some { s with udpCount := s.udpCount + 1 }
  | .run (.worker i) (.read _ data) =>
    match s.world.locals (.worker i) with
    | .worker { pc := .decode, msg := some msg, .. } =>
      some { s with jobs := Function.update s.jobs i (some (svc.receive now msg.raddr s.mem data)) }
    | _ => some s
  | .run (.worker i) (.input .noMessage) => if s.verdict i = some .noMessage then some s else none
  | .run (.worker i) (.input .noDataSets) => if s.verdict i = some .noDataSets then some (s.counted true) else none
  | .run (.worker i) (.input .dataSets) =>
    match s.verdict i with
    | some (.message _) => some (s.counted svc.collector.countsFirst)
    | _ => none
  | .run (.worker i) (.input .jsonError) => if s.verdict i = some (.message none) then some s else none
  | .run (.worker i) (.input .json) =>
    match s.verdict i with
    | some (.message (some text)) => some ((s.counted (!svc.collector.countsFirst)).offer text)
    | _ => none
  | .run (.mirror v) (.read _ data) =>
    match s.world.locals (.mirror v) with
    | .mirror { msg := some msg, .. } =>
      some { s with packets := Function.update s.packets v (some (msg.raddr, data)) }
    | _ => some s
  | .run (.mirror v) (.input .sent) => some { s with mirrored := s.mirrored ++ (s.packets v).toList }
  | _ => some s

def step (opts : Opts) (s : State svc W V) (e : Event svc.Mem W V) : Option (State svc W V) :=
  -- a panic ends the process
  if s.crashed then none
  else
    match e with
    | .daemon a now =>
      match Goroutines.step (code opts) s.world a, effect opts s now a with
      | some world, some s' => some { s' with world }
      | _, _ => none
    | .work i =>
      match s.world.locals (.worker i), s.jobs i with
      | .worker { pc := .decoded, .. }, some job =>
        match svc.verdict job, svc.work s.mem job with
        | none, some (job', mem) => some { s with mem, jobs := Function.update s.jobs i (some job') }
        | _, _ => none
      | _, _ => none
    | .panic i => if s.verdict i = some .panicked then some { s with crashed := true } else none
    | .cache mem => some { s with mem }
    | .take =>
      match s.producer, s.mqCh.recv with
      | none, some (some text, mqCh) => some { s with producer := some text, mqCh }
      | _, _ => none
    | .publish p =>
      match s.producer with
      | some text =>
        some { s with producer := none
                      published := s.published ++ [(text, p)]
                      mqErrorCount := s.mqErrorCount + UInt64.ofNat p.errors }
      | none => none

abbrev Step (opts : Opts) (s : State svc W V) (e : Event svc.Mem W V) (t : State svc W V) : Prop :=
  step opts s e = some t

end

def start (svc : Service) (W V : Type) (opts : Opts) (mem : svc.Mem) : State svc W V where
  world := { IPFIX.start W V opts with locals := svc.collector.locals }
  mem := mem

/-! ## Steps -/

section

variable [DecidableEq W] [DecidableEq V] {opts : Opts} {s s' t : State svc W V} {now : Int} {a : Act W V}
  {e : Event svc.Mem W V}

theorem running_of_step (h : Step opts s e t) : s.crashed = false := by
  unfold Step step at h
  split_ifs at h with hc
  exact Bool.eq_false_iff.mpr hc

theorem step_daemon : Step opts s (.daemon a now) t ↔
    s.crashed = false ∧ ∃ world s', Goroutines.Step (code opts) s.world a world ∧ effect opts s now a = some s' ∧
      t = { s' with world } := by
  simp only [Step, step]
  cases hc : s.crashed with
  | true => simp
  | false =>
    simp only [Bool.false_eq_true, if_false, true_and, ← Goroutines.step_eq_some]
    constructor
    · intro h
      split at h
      · cases h
        exact ⟨_, _, by assumption, by assumption, rfl⟩
      · cases h
    · rintro ⟨world, s', hw, hs', rfl⟩
      rw [hw, hs']

theorem udp_of_effect {g : Goroutine W V} {op : Operation} (h : effect opts s now (.run g op) = some s')
    (hg : g ≠ .run) : s'.udpCount = s.udpCount ∧ s'.received = s.received := by
  cases g with
  | run => exact absurd rfl hg
  | shutdown | dispatcher =>
    cases h
    exact ⟨rfl, rfl⟩
  | worker i =>
    cases op with
    | read b data =>
      simp only [effect] at h
      split at h <;> cases h <;> exact ⟨rfl, rfl⟩
    | input x =>
      cases x with
      | noMessage | noDataSets | jsonError =>
        simp only [effect] at h
        split at h <;> cases h
        exact ⟨rfl, rfl⟩
      | dataSets | json =>
        simp only [effect] at h
        split at h <;> cases h
        cases hc : svc.collector <;> exact ⟨rfl, rfl⟩
      | _ =>
        cases h
        exact ⟨rfl, rfl⟩
    | _ =>
      cases h
      exact ⟨rfl, rfl⟩
  | mirror v =>
    cases op with
    | read b data =>
      simp only [effect] at h
      split at h <;> cases h <;> exact ⟨rfl, rfl⟩
    | input x => cases x <;> cases h <;> exact ⟨rfl, rfl⟩
    | _ =>
      cases h
      exact ⟨rfl, rfl⟩

/-- What only the goroutines of the collector change. -/
structure Aside (s t : State svc W V) : Prop where
  world : t.world = s.world
  received : t.received = s.received
  packets : t.packets = s.packets
  mirrored : t.mirrored = s.mirrored
  udpCount : t.udpCount = s.udpCount
  decodedCount : t.decodedCount = s.decodedCount

theorem aside_of_step (h : Step opts s e t) (he : ∀ a now, e ≠ .daemon a now) : Aside s t := by
  have hrunning := running_of_step h
  simp only [Step, step, hrunning, Bool.false_eq_true, if_false] at h
  cases e with
  | daemon a now => exact absurd rfl (he a now)
  | work i =>
    dsimp only at h
    split at h
    · split at h <;> cases h
      exact ⟨rfl, rfl, rfl, rfl, rfl, rfl⟩
    · cases h
  | panic i =>
    dsimp only at h
    split at h <;> cases h
    exact ⟨rfl, rfl, rfl, rfl, rfl, rfl⟩
  | cache mem =>
    cases h
    exact ⟨rfl, rfl, rfl, rfl, rfl, rfl⟩
  | take =>
    dsimp only at h
    split at h <;> cases h
    exact ⟨rfl, rfl, rfl, rfl, rfl, rfl⟩
  | publish p =>
    dsimp only at h
    split at h <;> cases h
    exact ⟨rfl, rfl, rfl, rfl, rfl, rfl⟩

/-- The datagram that the socket delivers, up to the size of the buffer. -/
def arrival {Mem : Type} (opts : Opts) : Event Mem W V → List Datagram
  | .daemon (.run .run (.input (.datagram raddr data))) _ => [(raddr, data.take opts.udpSize)]
  | _ => []

theorem received_of_step (h : Step opts s e t) : t.received = s.received ++ arrival opts e := by
  cases e with
  | daemon a now =>
    obtain ⟨-, world, s', -, heff, rfl⟩ := step_daemon.mp h
    cases a with
    | drop b =>
      cases heff
      exact (List.append_nil _).symm
    | run g op =>
      cases g with
      | run =>
        cases op with
        | input x =>
          cases x with
          | datagram raddr data =>
            cases heff
            rfl
          | _ =>
            cases heff
            exact (List.append_nil _).symm
        | _ =>
          cases heff
          exact (List.append_nil _).symm
      | _ => exact ((udp_of_effect heff (by simp)).2).trans (List.append_nil _).symm
  | _ => exact ((aside_of_step h (by simp)).received).trans (List.append_nil _).symm

theorem received_of_runs {mem : svc.Mem} {es : List (Event svc.Mem W V)}
    (h : Runs (Step opts) (start svc W V opts mem) es s) : s.received = es.flatMap (arrival opts) := by
  refine h.history (P := fun es s => s.received = es.flatMap (arrival opts)) rfl fun es s e t _ hs hstep => ?_
  rw [received_of_step hstep, hs, List.flatMap_append, List.flatMap_singleton]

end

theorem accounts_start {K : Type} {opts : Opts} (pl : Places opts) (mem : svc.Mem) :
    Accounts pl (fun _ : Nat ⊕ K => none) [] [] (start svc W V opts mem).world := by
  have hnone : ∀ g : Goroutine W V, (code opts).owned (svc.collector.locals g) = [] := by
    intro g
    cases g with
    | worker i => cases hc : svc.collector <;> simp [Collector.locals, Collector.worker, code, Worker.owned, bodies]
    | _ => rfl
  have hplaces : ∀ p, (start svc W V opts mem).world.places (code opts) p = [] := by
    intro p
    cases p with
    | held g => exact hnone g
    | _ => rfl
  refine ⟨⟨fun p => ?_, fun p q b hp => ?_, fun p b hp => ?_⟩, fun g => ?_, .empty, ⟨fun g m hm => ?_, ?_⟩, ?_⟩
  · rw [hplaces]
    exact List.nodup_nil
  · rw [hplaces] at hp
    cases hp
  · rw [hplaces] at hp
    cases hp
  · cases g <;> trivial
  · have hmem := pl.owned _ m hm
    rw [start, hnone g] at hmem
    cases hmem
  · intro c _ m hm
    cases hm
  · intro b raddr data hfill
    cases hfill

end Pipeline

end VFlow.Daemon
