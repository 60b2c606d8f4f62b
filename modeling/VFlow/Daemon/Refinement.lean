import VFlow.Daemon.IPFIX

/-!
# The two models of the IPFIX collector

The system of `Shutdown` has the receive loop, the workers and `shutdown`, and says nothing of buffers. The collector
of `IPFIX` has them, with more goroutines and smaller steps. When the buffers are forgotten, every run of the second
is a run of the first (`refines_shutdown`): a step is followed by one step, or is not seen at all.

So what holds in the small system holds in the collector: if the loop is at its test or has ended before the channel
is closed, it does not read or send again (`idle_of_runs`).
-/

namespace VFlow.Daemon.IPFIX

open Goroutines

variable {W V : Type} {opts : Opts} {op : Operation}

/-! ## What is seen of a state -/

/-- A datagram without its buffer. -/
def forget (msg : Msg) : UDPMsg Unit := { raddr := msg.raddr, body := (), len := msg.len }

/-- The loop. It has begun to read as soon as it has tested the flag. -/
def Run.receive : Run → Shutdown.Receive Unit
  | .test => .test
  | .get | .read _ => .read ()
  | .fill _ raddr data => .send { raddr, body := (), len := data.length }
  | .send msg => .send (forget msg)
  | .exited => .exited

def Worker.phase (x : Worker) : Shutdown.Phase :=
  match x.pc with
  | .select => .select
  | .exited => .exited
  | _ => .busy

/-- The local state of a goroutine looks as in `s`. -/
def Shows (s : Shutdown.State Unit W) : Goroutine W V → Local → Prop
  | .run, .run r => r.receive = s.loop
  | .shutdown, .shutdown rest => rest = s.shutdown
  | .worker i, .worker x => x.phase = s.workers i
  | .dispatcher, .dispatcher _ | .mirror _, .mirror _ => True
  | _, _ => False

structure Abstracts (w : State W V) (s : Shutdown.State Unit W) : Prop where
  stop : w.shared.flags .stop = s.stop
  udpCh : (w.shared.chans .udp).map forget = s.udpCh
  locals : ∀ g, Shows s g (w.locals g)

theorem abstracts_start (W V : Type) (opts : Opts) : Abstracts (start W V opts) (Shutdown.start .ipfix true) where
  stop := rfl
  udpCh := rfl
  locals g := by cases g <;> first | rfl | trivial

theorem Abstracts.shows {w : State W V} {s : Shutdown.State Unit W} {g : Goroutine W V} {l : Local}
    (h : Abstracts w s) (hl : w.locals g = l) : Shows s g l := hl ▸ h.locals g

theorem Shows.congr {s s' : Shutdown.State Unit W} {g : Goroutine W V} {l : Local} (h : Shows s g l)
    (hrun : g = .run → s'.loop = s.loop) (hshutdown : g = .shutdown → s'.shutdown = s.shutdown)
    (hworker : ∀ i, g = .worker i → s'.workers i = s.workers i) : Shows s' g l := by
  cases g with
  | run =>
    cases l with
    | run r => exact h.trans (hrun rfl).symm
    | _ => exact h.elim
  | shutdown =>
    cases l with
    | shutdown rest => exact h.trans (hshutdown rfl).symm
    | _ => exact h.elim
  | worker i =>
    cases l with
    | worker x => exact h.trans (hworker i rfl).symm
    | _ => exact h.elim
  | dispatcher =>
    cases l with
    | dispatcher d => trivial
    | _ => exact h.elim
  | mirror v =>
    cases l with
    | mirror m => trivial
    | _ => exact h.elim

/-- The loop is at its test, or has ended. -/
def Idle (w : State W V) : Prop := w.locals .run = .run .test ∨ w.locals .run = .run .exited

theorem Abstracts.idle_iff {w : State W V} {s : Shutdown.State Unit W} (h : Abstracts w s) :
    Idle w ↔ s.loop = .test ∨ s.loop = .exited := by
  unfold Idle
  cases hl : w.locals .run with
  | run r =>
    have hloop : r.receive = s.loop := h.shows hl
    rw [← hloop]
    cases r <;> simp [Run.receive]
  | _ => exact (h.shows hl).elim

theorem channelOf_ne_udp (ip : IP) : channelOf ip ≠ .udp := by
  unfold channelOf
  split <;> simp

/-! ## The steps of a goroutine -/

section steps

variable [DecidableEq W] [DecidableEq V] {w : State W V} {s s' : Shutdown.State Unit W}
  {shared : Shared Channel Flag Msg} {l : Local} {g : Goroutine W V}

theorem Abstracts.after (h : Abstracts w s) (hstop : shared.flags .stop = s'.stop)
    (hudpCh : (shared.chans .udp).map forget = s'.udpCh) (hl : Shows s' g l)
    (hothers : ∀ g', g' ≠ g → ∀ l', Shows s g' l' → Shows s' g' l') : Abstracts (w.after g shared l) s' where
  stop := hstop
  udpCh := hudpCh
  locals g' := by
    by_cases hg : g' = g
    · subst hg
      simpa only [Function.update_self] using hl
    · simpa only [Function.update_of_ne hg] using hothers g' hg _ (h.locals g')

theorem Abstracts.hidden (h : Abstracts w s) (happly : w.shared.apply op = some shared)
    (hchannel : op.channel ≠ some .udp) (hflag : op.flag ≠ some .stop) (hl : Shows s g l) :
    ∃ bs s', Runs Shutdown.Step s bs s' ∧ Abstracts (w.after g shared l) s' := by
  have happly := applies_of_apply happly
  refine ⟨[], s, .nil s, h.after ?_ ?_ hl fun _ _ _ h => h⟩
  · rw [happly.flags_eq hflag, h.stop]
  · rw [happly.chans_eq hchannel, h.udpCh]

theorem Abstracts.run {r r' : Run} (h : Abstracts w s) (hr : w.locals .run = .run r) (hexec : r.exec opts op = some r')
    (happly : w.shared.apply op = some shared) :
    ∃ bs s', Runs Shutdown.Step s bs s' ∧ Abstracts (w.after .run shared (.run r')) s' := by
  have hloop : r.receive = s.loop := h.shows hr
  have hothers : ∀ loop udpCh (g : Goroutine W V), g ≠ .run → ∀ l, Shows s g l → Shows { s with loop, udpCh } g l :=
    fun loop udpCh g hg l hl => hl.congr (fun heq => absurd heq hg) (fun _ => rfl) (fun _ _ => rfl)
  unfold Run.exec at hexec
  split at hexec
  · -- the flag is set
    cases hexec
    simp only [Shared.apply] at happly
    split at happly <;> cases happly
    rename_i hflag
    exact ⟨_, _, .cons (.stopped () hloop.symm (h.stop.symm.trans hflag)) (.nil _),
      h.after h.stop h.udpCh rfl (hothers _ _)⟩
  · cases hexec
    simp only [Shared.apply] at happly
    split at happly <;> cases happly
    rename_i hflag
    exact ⟨_, _, .cons (.get () hloop.symm (h.stop.symm.trans hflag)) (.nil _),
      h.after h.stop h.udpCh rfl (hothers _ _)⟩
  · cases hexec
    exact h.hidden happly (by simp [Op.channel]) (by simp [Op.flag]) hloop
  · cases hexec
    cases happly
    exact ⟨_, _, .cons (.readError hloop.symm) (.nil _), h.after h.stop h.udpCh rfl (hothers _ _)⟩
  · cases hexec
    cases happly
    exact ⟨_, _, .cons (.datagram _ _ hloop.symm) (.nil _), h.after h.stop h.udpCh rfl (hothers _ _)⟩
  · split at hexec <;> cases hexec
    exact h.hidden happly (by simp [Op.channel]) (by simp [Op.flag]) hloop
  · split at hexec <;> cases hexec
    rename_i msg msg' hmsg
    subst hmsg
    obtain ⟨ch, hsend, rfl⟩ := Option.map_eq_some_iff.mp happly
    refine ⟨_, _, .cons (.send hloop.symm (h.udpCh ▸ Chan.send_map hsend)) (.nil _),
      h.after h.stop ?_ rfl (hothers _ _)⟩
    simp only [Function.update_self]
  · cases hexec

theorem Abstracts.shutdown {rest rest' : List Statement} (h : Abstracts w s)
    (hrest : w.locals .shutdown = .shutdown rest) (hexec : execShutdown rest op = some rest')
    (happly : w.shared.apply op = some shared) :
    ∃ bs s', Runs Shutdown.Step s bs s' ∧ Abstracts (w.after .shutdown shared (.shutdown rest')) s' := by
  have hnext : rest = s.shutdown := h.shows hrest
  have hothers : ∀ stop udpCh shutdown (g : Goroutine W V), g ≠ .shutdown → ∀ l, Shows s g l →
      Shows { s with stop, udpCh, shutdown } g l :=
    fun _ _ _ g hg l hl => hl.congr (fun _ => rfl) (fun heq => absurd heq hg) (fun _ _ => rfl)
  unfold execShutdown at hexec
  split at hexec
  · cases hexec
    cases happly
    refine ⟨_, _, .cons (.stop hnext.symm) (.nil _), h.after ?_ h.udpCh rfl (hothers _ _ _)⟩
    simp only [Function.update_self]
  · cases hexec
    cases happly
    exact ⟨_, _, .cons (.other hnext.symm (Or.inl rfl)) (.nil _), h.after h.stop h.udpCh rfl (hothers _ _ _)⟩
  · cases hexec
    cases happly
    exact ⟨_, _, .cons (.other hnext.symm (Or.inr rfl)) (.nil _), h.after h.stop h.udpCh rfl (hothers _ _ _)⟩
  · cases hexec
    obtain ⟨ch, hclose, rfl⟩ := Option.map_eq_some_iff.mp happly
    refine ⟨_, _, .cons (.close hnext.symm (h.udpCh ▸ Chan.close_map hclose)) (.nil _),
      h.after h.stop ?_ rfl (hothers _ _ _)⟩
    simp only [Function.update_self]
  · cases hexec

theorem Abstracts.worker {i : W} {x x' : Worker} (h : Abstracts w s) (hx : w.locals (.worker i) = .worker x)
    (hexec : x.exec opts op = some x') (happly : w.shared.apply op = some shared) :
    ∃ bs s', Runs Shutdown.Step s bs s' ∧ Abstracts (w.after (.worker i) shared (.worker x')) s' := by
  have hphase : x.phase = s.workers i := h.shows hx
  have hself : ∀ phase udpCh, x'.phase = phase →
      Shows { s with udpCh, workers := Function.update s.workers i phase } (.worker i : Goroutine W V) (.worker x') :=
    fun phase udpCh heq => heq.trans (Function.update_self i phase s.workers).symm
  have hothers : ∀ phase udpCh (g : Goroutine W V), g ≠ .worker i → ∀ l, Shows s g l →
      Shows { s with udpCh, workers := Function.update s.workers i phase } g l := by
    intro phase udpCh g hg l hl
    refine hl.congr (fun _ => rfl) (fun _ => rfl) fun j hj => ?_
    exact Function.update_of_ne (fun heq => hg (hj.trans (congrArg _ heq))) _ _
  obtain ⟨pc, msg, mirror⟩ := x
  simp only [Worker.exec] at hexec
  split at hexec
  case h_2 b =>
    split at hexec <;> cases hexec
    cases happly
    exact ⟨_, _, .cons (.ready hphase.symm) (.nil _), h.after h.stop h.udpCh (hself _ _ rfl) (hothers _ _)⟩
  case h_3 =>
    cases hexec
    cases happly
    exact ⟨_, _, .cons (.quit hphase.symm) (.nil _), h.after h.stop h.udpCh (hself _ _ rfl) (hothers _ _)⟩
  case h_4 m =>
    cases hexec
    cases applies_of_apply happly with
    | @recv _ _ ch hrecv =>
      refine ⟨_, _, .cons (.receive hphase.symm (h.udpCh ▸ Chan.recv_map hrecv)) (.nil _),
        h.after h.stop ?_ (hself _ _ rfl) (hothers _ _)⟩
      simp only [Function.update_self]
    | observe hop => cases hop
  case h_5 =>
    cases hexec
    simp only [Shared.apply] at happly
    split at happly <;> cases happly
    rename_i hrecv
    have hdrained : s.udpCh.recv = some (none, s.udpCh) := by
      rw [← h.udpCh]
      exact Chan.recv_map_closed hrecv
    exact ⟨_, _, .cons (.drained hphase.symm hdrained) (.nil _),
      h.after h.stop h.udpCh (hself _ _ rfl) (hothers _ _)⟩
  case h_20 => cases hexec
  all_goals
    first
      | cases hexec
        exact h.hidden happly (by simp [Op.channel]) (by simp [Op.flag]) hphase
      | split at hexec <;> cases hexec
        exact h.hidden happly (by simp [Op.channel]) (by simp [Op.flag]) hphase

theorem Abstracts.dispatcher {d d' : Dispatcher} (h : Abstracts w s) (hexec : d.exec opts op = some d')
    (happly : w.shared.apply op = some shared) :
    ∃ bs s', Runs Shutdown.Step s bs s' ∧ Abstracts (w.after .dispatcher shared (.dispatcher d')) s' := by
  unfold Dispatcher.exec at hexec
  split at hexec
  · exact h.hidden happly (by simp [Op.channel]) (by simp [Op.flag]) trivial
  · exact h.hidden happly (by simp [Op.channel]) (by simp [Op.flag]) trivial
  · split at hexec <;> cases hexec
    rename_i hmsg
    refine h.hidden happly (fun heq => ?_) (by simp [Op.flag]) trivial
    exact channelOf_ne_udp _ (hmsg.2.symm.trans (Option.some.inj heq))
  · cases hexec

theorem Abstracts.mirror {v : V} {m m' : Mirror} (h : Abstracts w s) (hexec : m.exec opts op = some m')
    (happly : w.shared.apply op = some shared) :
    ∃ bs s', Runs Shutdown.Step s bs s' ∧ Abstracts (w.after (.mirror v) shared (.mirror m')) s' := by
  unfold Mirror.exec at hexec
  split at hexec
  case h_3 c msg hpc =>
    split at hexec <;> cases hexec
    rename_i hc
    refine h.hidden happly (fun heq => ?_) (by simp [Op.flag]) trivial
    obtain ⟨ip, -, rfl⟩ := Option.map_eq_some_iff.mp hc
    exact channelOf_ne_udp ip (Option.some.inj heq)
  case h_8 => cases hexec
  all_goals exact h.hidden happly (by simp [Op.channel]) (by simp [Op.flag]) trivial

end steps

/-! ## Refinement -/

variable [DecidableEq W] [DecidableEq V] {w w' : State W V} {s : Shutdown.State Unit W} {a : Act W V}
  {as bs : List (Act W V)}

theorem Abstracts.step (h : Abstracts w s) (hstep : Step (code opts) w a w') :
    ∃ bs s', Runs Shutdown.Step s bs s' ∧ Abstracts w' s' := by
  cases hstep with
  | drop b => exact ⟨[], s, .nil s, ⟨h.stop, h.udpCh, h.locals⟩⟩
  | @run g op l shared hexec happly =>
    have hg := h.locals g
    cases hl : w.locals g with
    | run r =>
      rw [hl] at hexec hg
      obtain ⟨r', hr, rfl⟩ := Option.map_eq_some_iff.mp hexec
      cases g with
      | run => exact h.run hl hr happly
      | _ => exact hg.elim
    | shutdown rest =>
      rw [hl] at hexec hg
      obtain ⟨rest', hrest, rfl⟩ := Option.map_eq_some_iff.mp hexec
      cases g with
      | shutdown => exact h.shutdown hl hrest happly
      | _ => exact hg.elim
    | worker x =>
      rw [hl] at hexec hg
      obtain ⟨x', hx, rfl⟩ := Option.map_eq_some_iff.mp hexec
      cases g with
      | worker i => exact h.worker hl hx happly
      | _ => exact hg.elim
    | dispatcher d =>
      rw [hl] at hexec hg
      obtain ⟨d', hd, rfl⟩ := Option.map_eq_some_iff.mp hexec
      cases g with
      | dispatcher => exact h.dispatcher hd happly
      | _ => exact hg.elim
    | mirror m =>
      rw [hl] at hexec hg
      obtain ⟨m', hm, rfl⟩ := Option.map_eq_some_iff.mp hexec
      cases g with
      | mirror v => exact h.mirror hm happly
      | _ => exact hg.elim

/-- **Refinement.** Without the buffers, a run of the collector is a run of the system of `Shutdown`. -/
theorem refines_shutdown (h : Runs (Step (code opts)) (start W V opts) as w) :
    ∃ bs s, Runs Shutdown.Step (Shutdown.start .ipfix true) bs s ∧ Abstracts w s :=
  h.refines (fun _ _ _ _ hR hstep => hR.step hstep) (abstracts_start W V opts)

/-- If the loop is idle before `shutdown` closes the channel, it stays so whatever happens then. -/
theorem idle_of_runs (h : Runs (Step (code opts)) (start W V opts) as w)
    (hclose : w.locals .shutdown = .shutdown [.close]) (hidle : Idle w) (h' : Runs (Step (code opts)) w bs w') :
    Idle w' := by
  obtain ⟨_, s, hs, hR⟩ := refines_shutdown h
  have hnext : [.close] = s.shutdown := hR.shows hclose
  have hstop : s.stop = true := by simpa [← hnext] using (Shutdown.inv_of_runs hs).stop
  obtain ⟨_, t, ht, hR'⟩ := h'.refines (fun _ _ _ _ hR hstep => hR.step hstep) hR
  have hquiet : Shutdown.Quiet t :=
    ht.invariant (fun _ _ _ _ hs hstep => hs.step hstep) ⟨hstop, hR.idle_iff.mp hidle⟩
  exact hR'.idle_iff.mpr hquiet.2

end VFlow.Daemon.IPFIX
