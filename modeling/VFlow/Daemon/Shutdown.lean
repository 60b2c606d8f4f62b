import Mathlib.Logic.Function.Basic
import VFlow.Base.Chan
import VFlow.Base.Runs
import VFlow.Net

/-!
# Receiving and shutting down

A collector reads datagrams in a loop and sends them to its workers over a channel. `shutdown` sets the flag
`stop`, which the loop tests before each read, sleeps for a second, and closes the channel. The three collectors
differ in the statements of `shutdown` only, so there is one system for them, in which the loop, the workers and
`shutdown` take their steps in any order.

The flag stops the next read, and not the one that has begun, nor a send that waits for room in the channel. So the
channel can be closed under the loop. At the moment before `close` it is decided: all that can follow is safe
exactly if the loop is at its test or has ended (`shutdown_safe_iff`).
-/

namespace VFlow.Daemon

/-! ## The statements of `shutdown` -/

/-- The statements of the functions `shutdown`, without those that print. -/
inductive Statement where
  | stop
  | sleep
  /-- Writes the templates to their file. -/
  | dump
  | close
  deriving DecidableEq

def IPFIX.shutdown (enabled : Bool) : List Statement :=
  if enabled then [.stop, .sleep, .dump, .close] else []

def NetflowV9.shutdown (enabled : Bool) : List Statement :=
  if enabled then [.stop, .sleep, .dump, .close] else []

/-- This one does not ask if the collector is enabled. -/
def SFlow.shutdown : List Statement := [.stop, .sleep, .close]

inductive Collector where
  | ipfix
  | netflowV9
  | sFlow

def Collector.shutdown (enabled : Bool) : Collector → List Statement
  | .ipfix => IPFIX.shutdown enabled
  | .netflowV9 => NetflowV9.shutdown enabled
  | .sFlow => SFlow.shutdown

theorem Collector.nodup_shutdown (c : Collector) (enabled : Bool) : (c.shutdown enabled).Nodup := by
  cases c <;> cases enabled <;> decide

theorem Collector.stop_mem_shutdown (c : Collector) (enabled : Bool) :
    c.shutdown enabled = [] ∨ .stop ∈ c.shutdown enabled := by
  cases c <;> cases enabled <;> decide

/-- A datagram: the address of the exporter, and the first `len` bytes of a buffer. -/
structure UDPMsg (B : Type) where
  raddr : IP
  body : B
  len : Nat
  deriving DecidableEq

namespace Shutdown

/-! ## The system -/

/-- The loop at the end of `run`: at the test of `stop`, reading into a buffer, sending what it has read, after its
end, or after a send on a closed channel. -/
inductive Receive (B : Type) where
  | test
  | read (b : B)
  | send (msg : UDPMsg B)
  | exited
  | panicked

/-- A worker: on the way to its next select, in the select, or after its loop. -/
inductive Phase where
  | busy
  | select
  | exited

structure State (B W : Type) where
  stop : Bool := false
  loop : Receive B
  udpCh : Chan (UDPMsg B)
  workers : W → Phase := fun _ => .busy
  /-- What is left to do for `shutdown`. -/
  shutdown : List Statement

inductive Action (B W : Type) where
  /-- The loop tests the flag, and gets a buffer for the next read. -/
  | test (b : B)
  /-- The read ends, with an exporter and a length or with an error. -/
  | read (datagram : Option (IP × Nat))
  | send
  /-- A worker comes to its select. -/
  | ready (w : W)
  | receive (w : W)
  /-- A worker is told to quit. -/
  | quit (w : W)
  /-- `shutdown` executes its next statement. -/
  | shutdown

section

variable {B W : Type}

def start (c : Collector) (enabled : Bool) : State B W :=
  { loop := if enabled then .test else .exited, udpCh := .make _ 1000, shutdown := c.shutdown enabled }

/-- The statements are executed in order, each once, and the channel is open up to the last one. -/
structure Inv (s : State B W) : Prop where
  nodup : s.shutdown.Nodup
  stop : s.shutdown = [] ∨ .stop ∈ s.shutdown ∨ s.stop = true
  closed : s.udpCh.closed = true → .close ∉ s.shutdown
  panicked : s.loop = .panicked → s.udpCh.closed = true

theorem inv_start (c : Collector) (enabled : Bool) : Inv (start c enabled : State B W) where
  nodup := c.nodup_shutdown enabled
  stop := (c.stop_mem_shutdown enabled).imp_right Or.inl
  closed h := by cases h
  panicked h := by cases enabled <;> cases h

/-- Nothing is sent on the closed channel, and no send was waiting when it was closed. -/
def Safe (s : State B W) : Prop :=
  s.loop ≠ .panicked ∧ ∀ msg, s.loop = .send msg → s.udpCh.closed = false

def Quiet (s : State B W) : Prop := s.stop = true ∧ (s.loop = .test ∨ s.loop = .exited)

theorem Quiet.safe (h : Quiet s) : Safe s := by
  rcases h.2 with hloop | hloop
  · exact ⟨by simp [hloop], by simp [hloop]⟩
  · exact ⟨by simp [hloop], by simp [hloop]⟩

variable [DecidableEq W]

def step (s : State B W) : Action B W → Option (State B W)
  | .test b =>
    match s.loop, s.stop with
    | .test, true => some { s with loop := .exited }
    | .test, false => some { s with loop := .read b }
    | _, _ => none
  | .read datagram =>
    match s.loop, datagram with
    | .read body, some (raddr, len) => some { s with loop := .send { raddr, body, len } }
    | .read _, none => some { s with loop := .test }
    | _, _ => none
  | .send =>
    match s.loop with
    | .send msg =>
      if s.udpCh.closed then some { s with loop := .panicked }
      else (s.udpCh.send msg).map fun udpCh => { s with loop := .test, udpCh }
    | _ => none
  | .ready w =>
    match s.workers w with
    | .busy => some { s with workers := Function.update s.workers w .select }
    | _ => none
  | .receive w =>
    match s.workers w, s.udpCh.recv with
    | .select, some (some _, udpCh) => some { s with udpCh, workers := Function.update s.workers w .busy }
    | .select, some (none, udpCh) => some { s with udpCh, workers := Function.update s.workers w .exited }
    | _, _ => none
  | .quit w =>
    match s.workers w with
    | .select => some { s with workers := Function.update s.workers w .exited }
    | _ => none
  | .shutdown =>
    match s.shutdown with
    | .stop :: rest => some { s with stop := true, shutdown := rest }
    | .sleep :: rest | .dump :: rest => some { s with shutdown := rest }
    | .close :: rest => s.udpCh.close.map fun udpCh => { s with udpCh, shutdown := rest }
    | [] => none

inductive Step (s : State B W) : Action B W → State B W → Prop
  | stopped (b : B) (hloop : s.loop = .test) (hstop : s.stop = true) : Step s (.test b) { s with loop := .exited }
  | get (b : B) (hloop : s.loop = .test) (hstop : s.stop = false) : Step s (.test b) { s with loop := .read b }
  | datagram {body : B} (raddr : IP) (len : Nat) (hloop : s.loop = .read body) :
      Step s (.read (some (raddr, len))) { s with loop := .send { raddr, body, len } }
  | readError {b : B} (hloop : s.loop = .read b) : Step s (.read none) { s with loop := .test }
  | panic {msg : UDPMsg B} (hloop : s.loop = .send msg) (hclosed : s.udpCh.closed = true) :
      Step s .send { s with loop := .panicked }
  | send {msg : UDPMsg B} {udpCh : Chan (UDPMsg B)} (hloop : s.loop = .send msg)
      (hsend : s.udpCh.send msg = some udpCh) : Step s .send { s with loop := .test, udpCh }
  | ready {w : W} (hw : s.workers w = .busy) :
      Step s (.ready w) { s with workers := Function.update s.workers w .select }
  | receive {w : W} {msg : UDPMsg B} {udpCh : Chan (UDPMsg B)} (hw : s.workers w = .select)
      (hrecv : s.udpCh.recv = some (some msg, udpCh)) :
      Step s (.receive w) { s with udpCh, workers := Function.update s.workers w .busy }
  | drained {w : W} {udpCh : Chan (UDPMsg B)} (hw : s.workers w = .select) (hrecv : s.udpCh.recv = some (none, udpCh)) :
      Step s (.receive w) { s with udpCh, workers := Function.update s.workers w .exited }
  | quit {w : W} (hw : s.workers w = .select) :
      Step s (.quit w) { s with workers := Function.update s.workers w .exited }
  | stop {rest : List Statement} (hnext : s.shutdown = .stop :: rest) :
      Step s .shutdown { s with stop := true, shutdown := rest }
  | other {statement : Statement} {rest : List Statement} (hnext : s.shutdown = statement :: rest)
      (hother : statement = .sleep ∨ statement = .dump) : Step s .shutdown { s with shutdown := rest }
  | close {rest : List Statement} {udpCh : Chan (UDPMsg B)} (hnext : s.shutdown = .close :: rest)
      (hclose : s.udpCh.close = some udpCh) : Step s .shutdown { s with udpCh, shutdown := rest }

variable {s t : State B W} {a : Action B W}

theorem step_eq_some : step s a = some t ↔ Step s a t := by
  constructor
  · intro h
    cases a with
    | test b =>
      simp only [step] at h
      split at h
      · cases h
        exact .stopped b (by assumption) (by assumption)
      · cases h
        exact .get b (by assumption) (by assumption)
      · cases h
    | read datagram =>
      simp only [step] at h
      split at h
      · cases h
        exact .datagram _ _ (by assumption)
      · cases h
        exact .readError (by assumption)
      · cases h
    | send =>
      simp only [step] at h
      split at h
      · split at h
        · cases h
          exact .panic (by assumption) (by assumption)
        · obtain ⟨udpCh, hsend, rfl⟩ := Option.map_eq_some_iff.mp h
          exact .send (by assumption) hsend
      · cases h
    | ready w =>
      simp only [step] at h
      split at h
      · cases h
        exact .ready (by assumption)
      · cases h
    | receive w =>
      simp only [step] at h
      split at h
      · cases h
        exact .receive (by assumption) (by assumption)
      · cases h
        exact .drained (by assumption) (by assumption)
      · cases h
    | quit w =>
      simp only [step] at h
      split at h
      · cases h
        exact .quit (by assumption)
      · cases h
    | shutdown =>
      simp only [step] at h
      split at h
      · cases h
        exact .stop (by assumption)
      · cases h
        exact .other (by assumption) (Or.inl rfl)
      · cases h
        exact .other (by assumption) (Or.inr rfl)
      · obtain ⟨udpCh, hclose, rfl⟩ := Option.map_eq_some_iff.mp h
        exact .close (by assumption) hclose
      · cases h
  · intro h
    cases h with
    | stopped b hloop hstop => simp [step, hloop, hstop]
    | get b hloop hstop => simp [step, hloop, hstop]
    | datagram raddr len hloop => simp [step, hloop]
    | readError hloop => simp [step, hloop]
    | panic hloop hclosed => simp [step, hloop, hclosed]
    | send hloop hsend => simp [step, hloop, hsend, (Chan.send_eq_some.mp hsend).1]
    | ready hw => simp [step, hw]
    | receive hw hrecv => simp [step, hw, hrecv]
    | drained hw hrecv => simp [step, hw, hrecv]
    | quit hw => simp [step, hw]
    | stop hnext => simp [step, hnext]
    | other hnext hother => rcases hother with rfl | rfl <;> simp [step, hnext]
    | close hnext hclose => simp [step, hnext, hclose]

/-! ## What holds up to `close` -/

theorem Inv.step (h : Inv s) (hstep : Step s a t) : Inv t := by
  obtain ⟨hnodup, hstop, hclosed, hpanicked⟩ := h
  cases hstep with
  | stopped b hloop hflag => exact ⟨hnodup, hstop, hclosed, fun h => by cases h⟩
  | get b hloop hflag => exact ⟨hnodup, hstop, hclosed, fun h => by cases h⟩
  | datagram raddr len hloop => exact ⟨hnodup, hstop, hclosed, fun h => by cases h⟩
  | readError hloop => exact ⟨hnodup, hstop, hclosed, fun h => by cases h⟩
  | panic hloop hc => exact ⟨hnodup, hstop, hclosed, fun _ => hc⟩
  | send hloop hsend =>
    refine ⟨hnodup, hstop, fun h => ?_, fun h => by cases h⟩
    rw [(Chan.send_eq_some.mp hsend).2.2.2.2] at h
    cases h
  | ready hw => exact ⟨hnodup, hstop, hclosed, hpanicked⟩
  | receive hw hrecv =>
    have hsame := (Chan.recv_eq_value.mp hrecv).2.2
    exact ⟨hnodup, hstop, fun h => hclosed (hsame ▸ h), fun h => hsame.trans (hpanicked h)⟩
  | drained hw hrecv =>
    obtain ⟨-, -, rfl⟩ := Chan.recv_eq_closed.mp hrecv
    exact ⟨hnodup, hstop, hclosed, hpanicked⟩
  | quit hw => exact ⟨hnodup, hstop, hclosed, hpanicked⟩
  | stop hnext =>
    rw [hnext] at hnodup hclosed
    exact ⟨(List.nodup_cons.mp hnodup).2, Or.inr (Or.inr rfl), fun h hmem => hclosed h (List.mem_cons_of_mem _ hmem),
      hpanicked⟩
  | @other statement rest hnext hother =>
    rw [hnext] at hnodup hstop hclosed
    refine ⟨(List.nodup_cons.mp hnodup).2, ?_, fun h hmem => hclosed h (List.mem_cons_of_mem _ hmem), hpanicked⟩
    rcases hother with rfl | rfl <;> simpa using Or.inr hstop
  | @close rest udpCh hnext hclose =>
    rw [hnext] at hnodup hstop
    refine ⟨(List.nodup_cons.mp hnodup).2, ?_, fun _ => (List.nodup_cons.mp hnodup).1, fun _ => ?_⟩
    · simpa using Or.inr hstop
    · exact (Chan.close_eq_some.mp hclose).2.2.2

theorem Quiet.step (h : Quiet s) (hstep : Step s a t) : Quiet t := by
  obtain ⟨hstop, hloop⟩ := h
  cases hstep with
  | stopped b _ _ => exact ⟨hstop, Or.inr rfl⟩
  | get b _ hflag => simp [hstop] at hflag
  | datagram raddr len h | readError h | panic h | send h => simp [h] at hloop
  | ready | receive | drained | quit | other | close => exact ⟨hstop, hloop⟩
  | stop => exact ⟨rfl, hloop⟩

theorem inv_of_runs {c : Collector} {enabled : Bool} {as : List (Action B W)} (h : Runs Step (start c enabled) as s) :
    Inv s :=
  h.invariant (fun _ _ _ _ hs hstep => hs.step hstep) (inv_start c enabled)

/-- **Shutting down.** Up to `close` nothing is wrong. From the state before `close` on, all that can happen is safe
exactly if the loop is at its test or has ended. -/
theorem shutdown_safe_iff {c : Collector} {enabled : Bool} {as : List (Action B W)}
    (h : Runs Step (start c enabled) as s) :
    (s.udpCh.closed = false → Safe s) ∧
    (s.shutdown = [.close] →
      ((∀ bs t, Runs Step s bs t → Safe t) ↔ s.loop = .test ∨ s.loop = .exited)) := by
  have hinv := inv_of_runs h
  have hopen : s.udpCh.closed = false → Safe s := by
    intro hclosed
    refine ⟨fun hpanicked => ?_, fun _ _ => hclosed⟩
    simp [hinv.panicked hpanicked] at hclosed
  refine ⟨hopen, fun hnext => ⟨fun hsafe => ?_, fun hloop bs t hruns => ?_⟩⟩
  · obtain ⟨udpCh, hclose⟩ : ∃ udpCh, s.udpCh.close = some udpCh := by
      have hclosed : s.udpCh.closed = false := by
        have := mt hinv.closed (by simp [hnext])
        simpa using this
      exact ⟨_, by rw [Chan.close, hclosed]; rfl⟩
    have hclosed := (Chan.close_eq_some.mp hclose).2.2.2
    have hstep : Step s .shutdown { s with udpCh, shutdown := [] } := .close hnext hclose
    cases hloop : s.loop with
    | test => exact Or.inl rfl
    | exited => exact Or.inr rfl
    | read b =>
      -- the datagram comes after the channel was closed
      have hread := Step.datagram (s := { s with udpCh, shutdown := [] }) [] 0 hloop
      have hlate := (hsafe _ _ (.cons hstep (.cons hread (.nil _)))).2 _ rfl
      simp [hclosed] at hlate
    | send msg =>
      have hblocked := (hsafe _ _ (.cons hstep (.nil _))).2 msg hloop
      simp [hclosed] at hblocked
    | panicked => exact absurd hloop (hsafe _ _ (.nil s)).1
  · have hstop : s.stop = true := by simpa [hnext] using hinv.stop
    have hquiet : Quiet t := hruns.invariant (fun _ _ _ _ hs hstep => hs.step hstep) ⟨hstop, hloop⟩
    exact hquiet.safe

end

theorem shutdown_safe_exited :
    ∃ s : State Nat Unit, Runs Step (start .ipfix true)
        [.test 0, .shutdown, .read none, .test 0, .shutdown, .shutdown] s ∧ s.shutdown = [.close] ∧
      ∀ bs t, Runs Step s bs t → Safe t := by
  obtain ⟨s, hs, hnext, hloop⟩ : ∃ s : State Nat Unit,
      [.test 0, .shutdown, .read none, .test 0, .shutdown, .shutdown].foldlM step (start .ipfix true) = some s ∧
      s.shutdown = [.close] ∧ s.loop = .exited := ⟨_, rfl, rfl, rfl⟩
  have hrun := (Runs.foldlM_iff fun _ _ _ => step_eq_some).mp hs
  exact ⟨s, hrun, hnext, ((shutdown_safe_iff hrun).2 hnext).mpr (Or.inr hloop)⟩

/-- The loop is reading when `shutdown` is called, and gets a datagram at last. -/
def lateRun (c : Collector) : List (Action Nat Unit) :=
  .test 0 :: (c.shutdown true).map (fun _ => .shutdown) ++ [.read (some ([192, 0, 2, 1], 40)), .send]

theorem lateRun_panics (c : Collector) :
    ∃ s, Runs Step (start c true) (lateRun c) s ∧ s.udpCh.closed = true ∧ s.loop = .panicked := by
  obtain ⟨s, hs, hclosed, hloop⟩ : ∃ s, (lateRun c).foldlM step (start c true) = some s ∧ s.udpCh.closed = true ∧
      s.loop = .panicked := by
    cases c
    · exact ⟨_, rfl, rfl, rfl⟩
    · exact ⟨_, rfl, rfl, rfl⟩
    · exact ⟨_, rfl, rfl, rfl⟩
  exact ⟨s, (Runs.foldlM_iff fun _ _ _ => step_eq_some).mp hs, hclosed, hloop⟩

/-- Each of the collectors can send on its closed channel. -/
theorem shutdown_send_on_closed :
    (∃ s, Runs Step (start .ipfix true) (lateRun .ipfix) s ∧ s.udpCh.closed = true ∧ s.loop = .panicked) ∧
    (∃ s, Runs Step (start .netflowV9 true) (lateRun .netflowV9) s ∧ s.udpCh.closed = true ∧ s.loop = .panicked) ∧
    (∃ s, Runs Step (start .sFlow true) (lateRun .sFlow) s ∧ s.udpCh.closed = true ∧ s.loop = .panicked) :=
  ⟨lateRun_panics .ipfix, lateRun_panics .netflowV9, lateRun_panics .sFlow⟩

end Shutdown

end VFlow.Daemon
