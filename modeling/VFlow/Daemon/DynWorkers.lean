import Mathlib.Algebra.GroupWithZero.Nat
import Mathlib.Algebra.Ring.Int.Defs
import Mathlib.Data.List.Perm.Basic
import Mathlib.Tactic.Common
import VFlow.Base.Chan
import VFlow.Base.Runs

/-!
# The dynamic pool of workers

`dynWorkers` watches the queue of a collector. Under load it starts goroutines for new workers, and after a long
time without load it tells some workers to quit. A worker puts its quit channel into `pool` when it starts, and is
told to quit by taking a channel out of `pool` and closing it. The number of workers in the statistics is counted
up by the new goroutines, and down by `dynWorkers`. The three collectors have the same function.

In every interleaving the quit channels are in the pool, in the hand of `dynWorkers`, or closed (`Inv.channels`),
and the goroutines add up (`Inv.goroutines`). As channels are only taken while the pool has more than the
configured number, that many workers stay: `pool_invariant`.
-/

namespace VFlow.Daemon.DynWorkers

/-! ## The system -/

inductive Controller where
  | tick
  /-- In the loop that adds up the queue lengths. -/
  | sample (n load : Nat)
  | evaluate (load : Nat)
  /-- In the loop that starts goroutines. -/
  | spawn (left load : Nat)
  /-- At the test for no load. -/
  | idle (load : Nat)
  /-- In the loop that tells workers to quit. -/
  | shrink (n : Nat)
  /-- Before the receive from the pool. -/
  | take (n : Nat)
  | close (n wQuit : Nat)
  deriving DecidableEq

/-- The quit channels are numbered as they are put into the pool. -/
structure State where
  /-- `stats.Workers`. -/
  stats : Int32
  pool : Chan Nat
  next : Nat := 0
  /-- The first workers that are not in the pool yet. -/
  initial : Nat
  /-- The goroutines for new workers that have not run yet. -/
  spawned : Nat := 0
  /-- The new workers that have been counted and are not in the pool yet. -/
  starting : Nat := 0
  /-- The new workers that have been counted so far. -/
  started : Nat := 0
  /-- The quit channels that have been closed. -/
  closed : List Nat := []
  nSeq : Nat := 0
  loop : Controller := .tick

inductive Action where
  /-- One of the first workers puts its channel into the pool. -/
  | register
  /-- The goroutine of a new worker starts. -/
  | start
  /-- A new worker puts its channel into the pool. -/
  | registerNew
  /-- The queue has this length when `dynWorkers` looks. -/
  | sample (len : Nat)
  /-- The next step of `dynWorkers`. -/
  | dyn

def newWorkers (load : Nat) : Nat :=
  if load > 300 then 100 else if load > 200 then 60 else if load > 100 then 40 else 30

variable (workers maxWorkers : Nat)

/-- `run` has counted its workers, and has started their goroutines. -/
def start : State := { stats := .ofNat workers, pool := .make _ maxWorkers, initial := workers }

def dyn (s : State) : Option State :=
  match s.loop with
  | .tick => some { s with loop := .sample 0 0 }
  | .sample n load => if n < 30 then none else some { s with loop := .evaluate load }
  | .evaluate load =>
    if load > 15 then
      if s.stats.toInt + newWorkers load > maxWorkers then some { s with loop := .tick }
      else some { s with loop := .spawn (newWorkers load) load }
    else some { s with loop := .idle load }
  | .spawn (left + 1) load => some { s with spawned := s.spawned + 1, loop := .spawn left load }
  | .spawn 0 load => some { s with loop := .idle load }
  | .idle load =>
    if load = 0 then
      if s.nSeq + 1 > 15 then some { s with nSeq := s.nSeq + 1, loop := .shrink 0 }
      else some { s with nSeq := s.nSeq + 1, loop := .tick }
    else some { s with nSeq := 0, loop := .tick }
  | .shrink n =>
    if n < 10 then
      if s.pool.buf.length > workers then some { s with stats := s.stats - 1, loop := .take n }
      else some { s with loop := .shrink (n + 1) }
    else some { s with nSeq := 0, loop := .tick }
  | .take n =>
    match s.pool.recv with
    | some (some wQuit, pool) => some { s with pool, loop := .close n wQuit }
    | _ => none
  | .close n wQuit => some { s with closed := s.closed ++ [wQuit], loop := .shrink (n + 1) }

def step (s : State) : Action → Option State
  | .register =>
    if 0 < s.initial then
      (s.pool.send s.next).map fun pool => { s with pool, next := s.next + 1, initial := s.initial - 1 }
    else none
  | .start =>
    if 0 < s.spawned then
      some { s with stats := s.stats + 1, spawned := s.spawned - 1, starting := s.starting + 1,
                    started := s.started + 1 }
    else none
  | .registerNew =>
    if 0 < s.starting then
      (s.pool.send s.next).map fun pool => { s with pool, next := s.next + 1, starting := s.starting - 1 }
    else none
  | .sample len =>
    match s.loop with
    | .sample n load => if n < 30 then some { s with loop := .sample (n + 1) (load + len) } else none
    | _ => none
  | .dyn => dyn workers maxWorkers s

def Step (s : State) (a : Action) (t : State) : Prop := step workers maxWorkers s a = some t

/-! ## What a step does -/

namespace Controller

/-- The quit channel that was taken out of the pool and is not closed. -/
def inHand : Controller → List Nat
  | .close _ wQuit => [wQuit]
  | _ => []

/-- A worker has been counted down that is not told yet. -/
def leaving : Controller → Nat
  | .take _ | .close _ _ => 1
  | _ => 0

def toSpawn : Controller → Nat
  | .spawn left _ => left
  | _ => 0

theorem inHand_of_leaving {loop : Controller} (h : loop.leaving = 0) : loop.inHand = [] := by
  cases loop <;> first | rfl | cases h

end Controller

/-- The steps in cases. The steps of `dynWorkers` that touch neither the pool nor the number of workers are one
case, except those that have to do with new workers. -/
inductive Moves (s : State) : Action → State → Prop
  | register {pool : Chan Nat} (hpos : 0 < s.initial) (hsend : s.pool.send s.next = some pool) :
      Moves s .register { s with pool, next := s.next + 1, initial := s.initial - 1 }
  | start (hpos : 0 < s.spawned) :
      Moves s .start { s with stats := s.stats + 1, spawned := s.spawned - 1, starting := s.starting + 1,
                              started := s.started + 1 }
  | registerNew {pool : Chan Nat} (hpos : 0 < s.starting) (hsend : s.pool.send s.next = some pool) :
      Moves s .registerNew { s with pool, next := s.next + 1, starting := s.starting - 1 }
  | move (a : Action) (nSeq : Nat) (loop : Controller) (hleaving : s.loop.leaving = 0 ∧ loop.leaving = 0)
      (hspawn : s.loop.toSpawn = 0 ∧ loop.toSpawn = 0) : Moves s a { s with nSeq, loop }
  | scaleUp {load : Nat} (hloop : s.loop = .evaluate load)
      (hmax : s.stats.toInt + newWorkers load ≤ maxWorkers) :
      Moves s .dyn { s with loop := .spawn (newWorkers load) load }
  | spawn {left load : Nat} (hloop : s.loop = .spawn (left + 1) load) :
      Moves s .dyn { s with spawned := s.spawned + 1, loop := .spawn left load }
  | tell {n : Nat} (hloop : s.loop = .shrink n) (hlen : workers < s.pool.buf.length) :
      Moves s .dyn { s with stats := s.stats - 1, loop := .take n }
  | take {n wQuit : Nat} {pool : Chan Nat} (hloop : s.loop = .take n) (hrecv : s.pool.recv = some (some wQuit, pool)) :
      Moves s .dyn { s with pool, loop := .close n wQuit }
  | close {n wQuit : Nat} (hloop : s.loop = .close n wQuit) :
      Moves s .dyn { s with closed := s.closed ++ [wQuit], loop := .shrink (n + 1) }

variable {workers maxWorkers} {s t : State} {a : Action}

theorem Moves.of_loop {l loop : Controller} (hloop : s.loop = l) (a : Action) (nSeq : Nat)
    (hleaving : l.leaving = 0 ∧ loop.leaving = 0) (hspawn : l.toSpawn = 0 ∧ loop.toSpawn = 0) :
    Moves workers maxWorkers s a { s with nSeq, loop } := by
  subst hloop
  exact .move a nSeq loop hleaving hspawn

theorem moves_of_dyn (h : dyn workers maxWorkers s = some t) : Moves workers maxWorkers s .dyn t := by
  cases hloop : s.loop with
  | tick =>
    simp only [dyn, hloop] at h
    cases h
    exact .of_loop hloop .dyn s.nSeq ⟨rfl, rfl⟩ ⟨rfl, rfl⟩
  | sample n load =>
    simp only [dyn, hloop] at h
    split at h
    · cases h
    · cases h
      exact .of_loop hloop .dyn s.nSeq ⟨rfl, rfl⟩ ⟨rfl, rfl⟩
  | evaluate load =>
    simp only [dyn, hloop] at h
    split at h
    · split at h
      · cases h
        exact .of_loop hloop .dyn s.nSeq ⟨rfl, rfl⟩ ⟨rfl, rfl⟩
      · cases h
        exact .scaleUp hloop (by omega)
    · cases h
      exact .of_loop hloop .dyn s.nSeq ⟨rfl, rfl⟩ ⟨rfl, rfl⟩
  | spawn left load =>
    cases left with
    | zero =>
      simp only [dyn, hloop] at h
      cases h
      exact .of_loop hloop .dyn s.nSeq ⟨rfl, rfl⟩ ⟨rfl, rfl⟩
    | succ left =>
      simp only [dyn, hloop] at h
      cases h
      exact .spawn hloop
  | idle load =>
    simp only [dyn, hloop] at h
    split at h
    · split at h
      · cases h
        exact .of_loop hloop .dyn _ ⟨rfl, rfl⟩ ⟨rfl, rfl⟩
      · cases h
        exact .of_loop hloop .dyn _ ⟨rfl, rfl⟩ ⟨rfl, rfl⟩
    · cases h
      exact .of_loop hloop .dyn _ ⟨rfl, rfl⟩ ⟨rfl, rfl⟩
  | shrink n =>
    simp only [dyn, hloop] at h
    split at h
    · split at h
      · cases h
        exact .tell hloop (by assumption)
      · cases h
        exact .of_loop hloop .dyn s.nSeq ⟨rfl, rfl⟩ ⟨rfl, rfl⟩
    · cases h
      exact .of_loop hloop .dyn _ ⟨rfl, rfl⟩ ⟨rfl, rfl⟩
  | take n =>
    simp only [dyn, hloop] at h
    split at h
    · cases h
      exact .take hloop (by assumption)
    · cases h
  | close n wQuit =>
    simp only [dyn, hloop] at h
    cases h
    exact .close hloop

theorem Step.moves (h : Step workers maxWorkers s a t) : Moves workers maxWorkers s a t := by
  cases a with
  | register =>
    simp only [Step, step] at h
    split at h
    · obtain ⟨pool, hsend, rfl⟩ := Option.map_eq_some_iff.mp h
      exact .register (by assumption) hsend
    · cases h
  | start =>
    simp only [Step, step] at h
    split at h
    · cases h
      exact .start (by assumption)
    · cases h
  | registerNew =>
    simp only [Step, step] at h
    split at h
    · obtain ⟨pool, hsend, rfl⟩ := Option.map_eq_some_iff.mp h
      exact .registerNew (by assumption) hsend
    · cases h
  | sample len =>
    simp only [Step, step] at h
    split at h
    · split at h
      · cases h
        rename_i hloop _
        exact .of_loop hloop _ s.nSeq ⟨rfl, rfl⟩ ⟨rfl, rfl⟩
      · cases h
    · cases h
  | dyn => exact moves_of_dyn h

/-! ## The invariant -/

/-- What holds in every state. -/
structure Inv (workers : Nat) (s : State) : Prop where
  channels : (s.pool.buf ++ s.loop.inHand ++ s.closed).Perm (List.range s.next)
  goroutines : s.next + s.initial + s.starting = workers + s.started
  initial_le : s.initial ≤ workers
  starting_le : s.starting ≤ s.started
  stats : s.stats = .ofInt (workers + s.started - s.closed.length - s.loop.leaving)
  stay : s.closed.length + s.loop.leaving = 0 ∨ workers ≤ s.pool.buf.length
  take : ∀ n, s.loop = .take n → workers < s.pool.buf.length

theorem inv_start : Inv workers (start workers maxWorkers) where
  channels := by simp [start, Chan.make, Controller.inHand]
  goroutines := by simp [start]
  initial_le := Nat.le_refl _
  starting_le := Nat.le_refl _
  stats := by simp [start, Controller.leaving, Int32.ofInt_eq_ofNat]
  stay := Or.inl rfl
  take n h := by cases h

theorem perm_range_succ {xs ys zs : List Nat} {n : Nat} (h : (xs ++ ys ++ zs).Perm (List.range n)) :
    (xs ++ [n] ++ ys ++ zs).Perm (List.range (n + 1)) := by
  rw [List.range_succ]
  refine List.Perm.trans ?_ (h.append_right [n])
  have hlast : ([n] ++ (ys ++ zs)).Perm (ys ++ zs ++ [n]) := List.perm_append_comm
  simpa only [List.append_assoc] using hlast.append_left xs

/-- The invariant does not see which step `dynWorkers` takes next, as long as it is not telling a worker to quit. -/
theorem Inv.of_loop (h : Inv workers s) (hs : s.loop.leaving = 0) {loop : Controller} (hloop : loop.leaving = 0)
    (nSeq spawned : Nat) : Inv workers { s with nSeq, spawned, loop } where
  channels := by
    have hchannels := h.channels
    rw [Controller.inHand_of_leaving hs] at hchannels
    rw [Controller.inHand_of_leaving hloop]
    exact hchannels
  goroutines := h.goroutines
  initial_le := h.initial_le
  starting_le := h.starting_le
  stats := by
    have hstats := h.stats
    rw [hs] at hstats
    rw [hloop]
    exact hstats
  stay := by
    have hstay := h.stay
    rw [hs] at hstay
    rw [hloop]
    exact hstay
  take n htake := by
    rw [show loop = .take n from htake] at hloop
    cases hloop

theorem Inv.step (h : Inv workers s) (hstep : Step workers maxWorkers s a t) : Inv workers t := by
  obtain ⟨hchannels, hgoroutines, hinitial, hstarting, hstats, hstay, htake⟩ := id h
  cases hstep.moves with
  | register hpos hsend =>
    obtain ⟨-, -, hbuf, -, -⟩ := Chan.send_eq_some.mp hsend
    refine ⟨?_, by simp only; omega, by simp only; omega, hstarting, hstats, ?_, ?_⟩
    · simp only [hbuf]
      exact perm_range_succ hchannels
    · simp only [hbuf, List.length_append]
      omega
    · intro n hloop
      have := htake n hloop
      simp only [hbuf, List.length_append]
      omega
  | start hpos =>
    refine ⟨hchannels, by simp only; omega, hinitial, by simp only; omega, ?_, hstay, htake⟩
    rw [hstats, show (workers + ((s.started + 1 : Nat) : Int) - s.closed.length - s.loop.leaving) =
      (workers + s.started - s.closed.length - s.loop.leaving) + 1 by omega, Int32.ofInt_add]
    rfl
  | registerNew hpos hsend =>
    obtain ⟨-, -, hbuf, -, -⟩ := Chan.send_eq_some.mp hsend
    refine ⟨?_, by simp only; omega, hinitial, by simp only; omega, hstats, ?_, ?_⟩
    · simp only [hbuf]
      exact perm_range_succ hchannels
    · simp only [hbuf, List.length_append]
      omega
    · intro n hloop
      have := htake n hloop
      simp only [hbuf, List.length_append]
      omega
  | move a nSeq loop hleaving hspawn => exact h.of_loop hleaving.1 hleaving.2 nSeq s.spawned
  | scaleUp hloop hmax => exact h.of_loop (by rw [hloop]; rfl) rfl s.nSeq s.spawned
  | spawn hloop => exact h.of_loop (by rw [hloop]; rfl) rfl s.nSeq (s.spawned + 1)
  | tell hloop hlen =>
    simp only [hloop, Controller.inHand, Controller.leaving] at hchannels hstats hstay
    refine ⟨hchannels, hgoroutines, hinitial, hstarting, ?_, Or.inr (Nat.le_of_lt hlen), fun _ _ => hlen⟩
    rw [hstats, Controller.leaving, Int32.ofInt_sub]
    simp
  | @take n wQuit pool hloop hrecv =>
    obtain ⟨hbuf, -, -⟩ := Chan.recv_eq_value.mp hrecv
    have hlen := htake n hloop
    simp only [hloop, hbuf, Controller.inHand, Controller.leaving, List.length_cons] at hchannels hstats hlen
    refine ⟨?_, hgoroutines, hinitial, hstarting, hstats, Or.inr (by simp only; omega), fun _ h => by cases h⟩
    refine List.Perm.trans ?_ hchannels
    simp [Controller.inHand]
  | close hloop =>
    simp only [hloop, Controller.inHand, Controller.leaving] at hchannels hstats hstay
    refine ⟨?_, hgoroutines, hinitial, hstarting, ?_, ?_, fun _ h => by cases h⟩
    · refine List.Perm.trans ?_ hchannels
      simp only [Controller.inHand, List.append_nil, List.append_assoc]
      exact List.perm_append_comm.append_left _
    · rw [hstats]
      refine congrArg Int32.ofInt ?_
      simp only [List.length_append, List.length_singleton, Controller.leaving]
      omega
    · simp only [Controller.leaving]
      omega

theorem inv_of_runs {as : List Action} (h : Runs (Step workers maxWorkers) (start workers maxWorkers) as s) :
    Inv workers s :=
  h.invariant (fun _ _ _ _ hs hstep => hs.step hstep) inv_start

namespace Inv

variable (h : Inv workers s)
include h

theorem nodup_closed : s.closed.Nodup :=
  (List.nodup_append.mp (h.channels.nodup_iff.mpr List.nodup_range)).2.1

theorem length_channels : s.pool.buf.length + s.loop.inHand.length + s.closed.length = s.next := by
  simpa [Nat.add_assoc] using h.channels.length_eq

/-- The workers that are registered and were not told to quit are those in the pool, and the one whose channel was
taken last. -/
theorem untold_perm : ((List.range s.next).filter (· ∉ s.closed)).Perm (s.pool.buf ++ s.loop.inHand) := by
  refine (h.channels.symm.filter _).trans ?_
  have hdisjoint := (List.nodup_append.mp (h.channels.nodup_iff.mpr List.nodup_range)).2.2
  rw [List.filter_append, List.filter_eq_self.mpr, List.filter_eq_nil_iff.mpr, List.append_nil]
  · intro q hq
    simp [hq]
  · intro q hq
    simpa using fun hclosed => hdisjoint q hq q hclosed rfl

/-- When a worker was told to quit, the configured number was left, and the one that is next to be told is not
among them. -/
theorem stay_pool :
    s.closed.length + s.loop.leaving = 0 ∨
      workers + s.loop.leaving ≤ s.pool.buf.length + s.loop.inHand.length := by
  rcases h.stay with hnone | hstay
  · exact Or.inl hnone
  · refine Or.inr ?_
    cases hloop : s.loop with
    | take n =>
      have := h.take n hloop
      simp only [Controller.leaving, Controller.inHand, List.length_nil]
      omega
    | close n wQuit =>
      simp only [Controller.leaving, Controller.inHand, List.length_singleton]
      omega
    | _ => exact hstay

theorem stay_of_registered (hinitial : s.initial = 0) :
    workers ≤ ((List.range s.next).filter (· ∉ s.closed)).length := by
  rw [h.untold_perm.length_eq, List.length_append]
  have hlen := h.length_channels
  have hgoroutines := h.goroutines
  have hstarting := h.starting_le
  rcases h.stay_pool with hnone | hstay
  · omega
  · omega

theorem closed_le_started : s.closed.length + s.loop.leaving ≤ s.started := by
  have hlen := h.length_channels
  have hgoroutines := h.goroutines
  rcases h.stay_pool with hnone | hstay
  · omega
  · omega

theorem toInt_stats (hfits : (workers + s.started - s.closed.length : Int) < 2 ^ 31) :
    s.stats.toInt = workers + s.started - s.closed.length - s.loop.leaving := by
  have hle := h.closed_le_started
  rw [h.stats, Int32.toInt_ofInt_of_le]
  · omega
  · omega

end Inv

/-! ## The number of workers -/

/-- At every evaluation of the load, all goroutines that were started before have run. -/
def AllStarted (workers maxWorkers : Nat) (as : List Action) : Prop :=
  ∀ bs cs u load, as = bs ++ .dyn :: cs → Runs (Step workers maxWorkers) (start workers maxWorkers) bs u →
    u.loop = .evaluate load → u.spawned = 0

/-- With the goroutines that have not run there are not more workers than allowed. -/
def Bounded (workers maxWorkers : Nat) (s : State) : Prop :=
  workers + s.started + s.spawned + s.loop.toSpawn ≤ maxWorkers + s.closed.length

theorem Bounded.step (hfits : maxWorkers < 2 ^ 31) (hinv : Inv workers s) (h : Bounded workers maxWorkers s)
    (hstep : Step workers maxWorkers s a t)
    (hstarted : ∀ load, a = .dyn → s.loop = .evaluate load → s.spawned = 0) : Bounded workers maxWorkers t := by
  unfold Bounded at h ⊢
  cases hstep.moves with
  | register | registerNew => exact h
  | start hpos =>
    simp only
    omega
  | move a nSeq loop hleaving hspawn =>
    simp only [hspawn] at h ⊢
    exact h
  | @scaleUp load hloop hmax =>
    have hnone := hstarted load rfl hloop
    simp only [hloop, Controller.toSpawn] at h ⊢
    rw [hinv.toInt_stats (by omega), hloop] at hmax
    simp only [Controller.leaving] at hmax
    omega
  | spawn hloop =>
    simp only [hloop, Controller.toSpawn] at h ⊢
    omega
  | tell hloop hlen | take hloop hrecv =>
    simp only [hloop, Controller.toSpawn] at h ⊢
    exact h
  | close hloop =>
    simp only [hloop, Controller.toSpawn, List.length_append] at h ⊢
    omega

theorem bounded_of_runs {as : List Action} (hworkers : workers ≤ maxWorkers) (hfits : maxWorkers < 2 ^ 31)
    (h : Runs (Step workers maxWorkers) (start workers maxWorkers) as s)
    (hstarted : AllStarted workers maxWorkers as) : Bounded workers maxWorkers s := by
  revert hstarted
  refine Runs.history (P := fun as s => AllStarted workers maxWorkers as → Bounded workers maxWorkers s) ?_ ?_ h
  · intro _
    simpa [Bounded, start, Controller.toSpawn] using hworkers
  · intro as s a t hruns ih hstep hstarted
    have hbefore : AllStarted workers maxWorkers as := by
      rintro bs cs u load rfl
      exact hstarted bs (cs ++ [a]) u load (by simp)
    refine (ih hbefore).step hfits (inv_of_runs hruns) hstep ?_
    rintro load rfl
    exact hstarted as [] s load rfl hruns

/-- **The pool of workers.** In every run of a collector with so many workers: no quit channel is closed twice; once
the first workers are registered, that many registered workers are not told to quit; when workers have been told to
quit, the statistics have the number of workers, which is not below the configured one; and if goroutines start
before the load is evaluated again, the number is never above the maximum. -/
theorem pool_invariant {as : List Action} (hworkers : workers ≤ maxWorkers)
    (h : Runs (Step workers maxWorkers) (start workers maxWorkers) as s) :
    s.closed.Nodup ∧
    (s.initial = 0 → workers ≤ ((List.range s.next).filter (· ∉ s.closed)).length) ∧
    (∀ t, s.loop = .shrink 10 → Step workers maxWorkers s .dyn t →
      t.stats = .ofInt (workers + t.started - t.closed.length) ∧ t.closed.length ≤ t.started ∧
      ((workers + t.started - t.closed.length : Int) < 2 ^ 31 → workers ≤ t.stats.toInt)) ∧
    (AllStarted workers maxWorkers as → s.stats.toInt ≤ maxWorkers) := by
  have hinv := inv_of_runs h
  refine ⟨hinv.nodup_closed, hinv.stay_of_registered, ?_, ?_⟩
  · intro t hloop hstep
    have hinv' := hinv.step hstep
    have hle := hinv'.closed_le_started
    have hdone : t.loop = .tick := by
      simp only [Step, step, dyn, hloop] at hstep
      cases hstep
      rfl
    have hstats := hinv'.stats
    simp only [hdone, Controller.leaving] at hle hstats
    refine ⟨by simpa using hstats, hle, fun hfits => ?_⟩
    rw [hinv'.toInt_stats hfits, hdone]
    simp only [Controller.leaving]
    omega
  · intro hstarted
    by_cases hfits : maxWorkers < 2 ^ 31
    · have hbounded := bounded_of_runs hworkers hfits h hstarted
      have hle := hinv.closed_le_started
      unfold Bounded at hbounded
      rw [hinv.toInt_stats (by omega)]
      omega
    · have := s.stats.toInt_lt
      omega

/-- A pass of the loop up to the test for no load, with the same queue length at each look. -/
def pass (len : Nat) : List Action := .dyn :: List.replicate 30 (.sample len) ++ [.dyn, .dyn]

/-- The only worker registers and the queue has one datagram in it at each look, so that thirty goroutines are started,
of which two come to register. Then the queue is empty for sixteen passes, and the two are told to quit. -/
def loadedRun : List Action :=
  .register :: pass 1 ++ List.replicate 32 .dyn ++ [.start, .start, .registerNew, .registerNew] ++
    (List.replicate 16 (pass 0 ++ [.dyn])).flatten ++ List.replicate 14 .dyn

theorem pool_invariant_loaded :
    ∃ s t, Runs (Step 1 40) (start 1 40) loadedRun s ∧ Step 1 40 s .dyn t ∧ s.closed = [0, 1] ∧ t.pool.buf = [2] ∧
      s.closed.Nodup ∧ 1 ≤ ((List.range s.next).filter (· ∉ s.closed)).length ∧
      t.stats = .ofInt (1 + t.started - t.closed.length) := by
  have heval : (loadedRun.foldlM (step 1 40) (start 1 40)).map (fun s => (s.closed, s.pool.buf, s.initial, s.loop)) =
      some ([0, 1], [2], 0, .shrink 10) := by decide +kernel
  obtain ⟨s, hs, heq⟩ := Option.map_eq_some_iff.mp heval
  obtain ⟨hclosed, hpool, hinitial, hloop⟩ : s.closed = [0, 1] ∧ s.pool.buf = [2] ∧ s.initial = 0 ∧
      s.loop = .shrink 10 := by simpa using heq
  have hrun : Runs (Step 1 40) (start 1 40) loadedRun s := (Runs.foldlM_iff fun _ _ _ => Iff.rfl).mp hs
  have hstep : Step 1 40 s .dyn { s with nSeq := 0, loop := .tick } := by
    simp only [Step, step, dyn, hloop]
    rfl
  obtain ⟨hnodup, hstay, hshrunk, -⟩ := pool_invariant (by decide) hrun
  exact ⟨s, _, hrun, hstep, hclosed, hpool, hnodup, hstay hinitial, (hshrunk _ hloop hstep).1⟩

end VFlow.Daemon.DynWorkers
