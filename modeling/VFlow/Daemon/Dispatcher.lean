import VFlow.Daemon.IPFIX

/-!
# The dispatcher of the IPFIX mirror

The mirror goroutines all receive from one channel, that of the family of the destination; the dispatcher chooses
the channel of the family of each exporter. So a datagram of the other family goes to a channel from which nobody
receives, and so does every datagram once the goroutines have returned, which they do at the first error of their
socket. Both are read off the events of a run: which message the dispatcher holds (`forwarding_iff`) and which
goroutines have returned (`returned_iff`).

The channel has room for 1000 messages. At the next one the dispatcher blocks and never moves again, whatever the
others do (`blocked_for_ever`), and it comes to that (`blocked_reachable`).
-/

namespace VFlow.Daemon.IPFIX

open Goroutines

variable {W V : Type} [DecidableEq W] [DecidableEq V] {opts : Opts} {w w' : State W V} {as : List (Act W V)}
  {msg : Msg} {v : V}

/-! ## What the events say -/

/-- The dispatcher is at the statement that forwards `msg`. -/
def Forwarding (w : State W V) (msg : Msg) : Prop :=
  w.locals .dispatcher = .dispatcher { pc := .forward, msg := some msg }

/-- A mirror goroutine that has not returned receives from the channel. -/
def Serves (opts : Opts) (w : State W V) (c : Channel) : Prop :=
  opts.mirrorAddr.map channelOf = some c ∧ ∃ v m, w.locals (.mirror v) = .mirror m ∧ m.pc ≠ .returned

/-- The last event of the dispatcher was to receive this message. -/
def Holds (as : List (Act W V)) (msg : Msg) : Prop :=
  ∃ xs ys, as = xs ++ .run .dispatcher (.recv .mirror msg) :: ys ∧ ∀ op, .run .dispatcher op ∉ ys

def Failed (as : List (Act W V)) (v : V) : Prop :=
  .run (.mirror v) (.input .noConn) ∈ as ∨ .run (.mirror v) (.input .sendError) ∈ as

omit [DecidableEq W] [DecidableEq V] in
theorem holds_snoc {a : Act W V} : Holds (as ++ [a]) msg ↔
    a = .run .dispatcher (.recv .mirror msg) ∨ (∀ op, a ≠ .run .dispatcher op) ∧ Holds as msg := by
  constructor
  · rintro ⟨xs, ys, heq, hys⟩
    rcases List.eq_nil_or_concat ys with rfl | ⟨ys, b, rfl⟩
    · exact Or.inl (List.singleton_inj.mp (List.append_inj' heq rfl).2)
    · rw [List.concat_eq_append] at heq hys
      have hinj := List.append_inj' (heq.trans (List.append_assoc xs (_ :: ys) [b]).symm) rfl
      obtain rfl := List.singleton_inj.mp hinj.2
      exact Or.inr ⟨fun op h => hys op (by simp [h]), xs, ys, hinj.1, fun op h => hys op (List.mem_append_left _ h)⟩
  · rintro (rfl | ⟨ha, xs, ys, rfl, hys⟩)
    · exact ⟨as, [], rfl, fun op => List.not_mem_nil⟩
    · refine ⟨xs, ys ++ [a], by simp, fun op h => ?_⟩
      rcases List.mem_append.mp h with h | h
      · exact hys op h
      · exact ha op (List.mem_singleton.mp h).symm

omit [DecidableEq W] [DecidableEq V] in
theorem failed_snoc {a : Act W V} : Failed (as ++ [a]) v ↔
    Failed as v ∨ a = .run (.mirror v) (.input .noConn) ∨ a = .run (.mirror v) (.input .sendError) := by
  simp only [Failed, List.mem_append, List.mem_singleton, eq_comm (b := a)]
  tauto

theorem Dispatcher.exec_forward {d d' : Dispatcher} {op : Operation} (h : d.exec opts op = some d') :
    d' = { pc := .forward, msg := some msg } ↔ op = .recv .mirror msg := by
  obtain ⟨pc, m⟩ := d
  simp only [Dispatcher.exec] at h
  split at h
  case h_1 =>
    split at h
    · cases h
      simp
    · cases h
  case h_2 m' =>
    cases h
    simp
  case h_3 c m' =>
    split at h
    · cases h
      simp
    · cases h
  case h_4 => cases h

theorem Dispatcher.exec_of_forward {d : Dispatcher} {op : Operation}
    (h : Dispatcher.exec opts { pc := .forward, msg := some msg } op = some d) :
    op = .send (channelOf msg.raddr) msg := by
  cases op with
  | send c m =>
    simp only [Dispatcher.exec] at h
    split at h
    case isTrue hmsg =>
      obtain ⟨hm, rfl⟩ := hmsg
      rw [Option.some.inj hm]
    case isFalse => cases h
  | _ => cases h

theorem Mirror.exec_returned {m m' : Mirror} {op : Operation} (h : m.exec opts op = some m') :
    m.pc ≠ .returned ∧ (m'.pc = .returned ↔ op = .input .noConn ∨ op = .input .sendError) := by
  obtain ⟨pc, x⟩ := m
  simp only [Mirror.exec] at h
  split at h
  case h_3 => split at h <;> cases h; simp
  case h_4 => split at h <;> cases h; simp
  case h_5 => split at h <;> cases h; simp
  case h_8 => cases h
  all_goals
    cases h
    simp

theorem forwarding_iff (h : Runs (Step (code opts)) (start W V opts) as w) : Forwarding w msg ↔ Holds as msg := by
  suffices hd : ∃ d, w.locals .dispatcher = .dispatcher d ∧ (d = { pc := .forward, msg := some msg } ↔ Holds as msg) by
    obtain ⟨d, hd, hiff⟩ := hd
    rw [← hiff, Forwarding, hd, Local.dispatcher.injEq]
  refine Runs.history (P := fun as w => ∃ d, w.locals .dispatcher = .dispatcher d ∧
    (d = { pc := .forward, msg := some msg } ↔ Holds as msg)) ?_ ?_ h
  · refine ⟨{}, rfl, iff_of_false (by simp) ?_⟩
    rintro ⟨xs, ys, heq, -⟩
    exact absurd heq (by simp)
  · rintro as t a u - ⟨d, hd, hiff⟩ hstep
    cases hstep with
    | drop b => exact ⟨d, hd, by simp [holds_snoc, hiff]⟩
    | @run g op l shared hexec happly =>
      by_cases hg : g = .dispatcher
      · subst hg
        rw [hd] at hexec
        obtain ⟨d', hd', rfl⟩ := Option.map_eq_some_iff.mp hexec
        exact ⟨d', by simp, by simp [holds_snoc, Dispatcher.exec_forward hd']⟩
      · exact ⟨d, by simpa [Function.update_of_ne (Ne.symm hg)] using hd, by simp [holds_snoc, hiff, hg]⟩

theorem returned_iff (h : Runs (Step (code opts)) (start W V opts) as w) (v : V) :
    ∃ m, w.locals (.mirror v) = .mirror m ∧ (m.pc = .returned ↔ Failed as v) := by
  refine Runs.history (P := fun as w => ∃ m, w.locals (.mirror v) = .mirror m ∧ (m.pc = .returned ↔ Failed as v))
    ?_ ?_ h
  · exact ⟨{}, rfl, by simp [Failed]⟩
  · rintro as t a u - ⟨m, hm, hiff⟩ hstep
    cases hstep with
    | drop b => exact ⟨m, hm, by simp [failed_snoc, hiff]⟩
    | @run g op l shared hexec happly =>
      by_cases hg : g = .mirror v
      · subst hg
        rw [hm] at hexec
        obtain ⟨m', hm', rfl⟩ := Option.map_eq_some_iff.mp hexec
        obtain ⟨hrunning, hret⟩ := Mirror.exec_returned hm'
        refine ⟨m', by simp, ?_⟩
        rw [failed_snoc, hret, ← hiff]
        simp [hrunning]
      · refine ⟨m, by simpa [Function.update_of_ne (Ne.symm hg)] using hm, ?_⟩
        rw [failed_snoc, hiff]
        simp [hg]

/-! ## Who receives what the dispatcher forwards -/

/-- Whenever the dispatcher is forwarding a message in this run, a running mirror goroutine receives from the channel
that it forwards to. -/
def ServedThroughout (opts : Opts) (as : List (Act W V)) : Prop :=
  ∀ xs ys w msg, as = xs ++ ys → Runs (Step (code opts)) (start W V opts) xs w → Forwarding w msg →
    Serves opts w (channelOf msg.raddr)

theorem serves_iff (h : Runs (Step (code opts)) (start W V opts) as w) {c : Channel} :
    Serves opts w c ↔ opts.mirrorAddr.map channelOf = some c ∧ ∃ v, ¬ Failed as v := by
  refine and_congr_right fun _ => ⟨fun ⟨v, m, hm, hpc⟩ => ⟨v, fun hfail => ?_⟩, fun ⟨v, hv⟩ => ?_⟩
  · obtain ⟨m', hm', hiff⟩ := returned_iff h v
    obtain rfl := Local.mirror.inj (hm.symm.trans hm')
    exact hpc (hiff.mpr hfail)
  · obtain ⟨m, hm, hiff⟩ := returned_iff h v
    exact ⟨v, m, hm, fun hpc => hv (hiff.mp hpc)⟩

/-- **The dispatcher forwards to a channel with a receiver** throughout a run exactly if every message that it receives
comes from an exporter of the family of the destination, and at all times until it takes the next step some mirror
goroutine has had no error of its socket. -/
theorem served_iff {W V : Type} [DecidableEq W] [DecidableEq V] (opts : Opts) {as : List (Act W V)} {w : State W V}
    (h : Runs (Step (code opts)) (start W V opts) as w) :
    ServedThroughout opts as ↔
      ∀ xs ys zs msg, as = xs ++ .run .dispatcher (.recv .mirror msg) :: (ys ++ zs) →
        (∀ op, .run .dispatcher op ∉ ys) →
        opts.mirrorAddr.map channelOf = some (channelOf msg.raddr) ∧
          ∃ v, ¬ Failed (xs ++ .run .dispatcher (.recv .mirror msg) :: ys) v := by
  constructor
  · intro hserved xs ys zs msg heq hys
    have heq' : as = (xs ++ .run .dispatcher (.recv .mirror msg) :: ys) ++ zs := by simp [heq]
    obtain ⟨u, hu, -⟩ := (heq' ▸ h).of_append
    exact (serves_iff hu).mp (hserved _ _ _ _ heq' hu ((forwarding_iff hu).mpr ⟨xs, ys, rfl, hys⟩))
  · intro hmatch xs ys w msg heq hxs hfwd
    obtain ⟨xs', ys', rfl, hys'⟩ := (forwarding_iff hxs).mp hfwd
    exact (serves_iff hxs).mpr (hmatch xs' ys' ys msg (by simp [heq]) hys')

theorem served_iff_mirrored :
    ∃ w, Runs (Step (code ⟨4, some [198, 51, 100, 1]⟩)) (start Unit Unit ⟨4, some [198, 51, 100, 1]⟩)
        (firstDatagram ++ .run (.worker ()) (.put 0) :: (betweenPuts ++ afterPuts)) w ∧
      ServedThroughout ⟨4, some [198, 51, 100, 1]⟩
        (firstDatagram ++ .run (.worker ()) (.put 0) :: (betweenPuts ++ afterPuts)) := by
  obtain ⟨w, hw⟩ : ∃ w, (firstDatagram ++ .run (.worker ()) (.put 0) :: (betweenPuts ++ afterPuts)).foldlM
      (step (code ⟨4, some [198, 51, 100, 1]⟩)) (start Unit Unit ⟨4, some [198, 51, 100, 1]⟩) = some w := ⟨_, rfl⟩
  have hrun := (Runs.foldlM_iff fun _ _ _ => step_eq_some).mp hw
  refine ⟨w, hrun, (served_iff _ hrun).mpr fun xs ys zs msg heq _ => ⟨?_, (), ?_⟩⟩
  · have hmem : .run .dispatcher (.recv .mirror msg) ∈
        firstDatagram ++ .run (.worker ()) (.put 0) :: (betweenPuts ++ afterPuts) := by simp [heq]
    simp only [firstDatagram, betweenPuts, afterPuts, List.cons_append, List.nil_append, List.mem_cons,
      Action.run.injEq, reduceCtorEq, Op.recv.injEq, false_and, and_false, true_and, false_or, or_false,
      List.not_mem_nil] at hmem
    rw [hmem]
    rfl
  · have hsub : ∀ a, a ∈ xs ++ .run .dispatcher (.recv .mirror msg) :: ys →
        a ∈ firstDatagram ++ .run (.worker ()) (.put 0) :: (betweenPuts ++ afterPuts) := by
      intro a ha
      rw [heq]
      simp only [List.mem_append, List.mem_cons] at ha ⊢
      tauto
    rintro (hfail | hfail)
    · exact absurd (hsub _ hfail) (by simp [firstDatagram, betweenPuts, afterPuts])
    · exact absurd (hsub _ hfail) (by simp [firstDatagram, betweenPuts, afterPuts])

/-! ## A channel without a receiver -/

omit [DecidableEq W] [DecidableEq V] in
theorem exec_recv {l l' : Local} {c : Channel} (h : (code opts).exec l (.recv c msg) = some l') :
    c = .udp ∨ c = .mirror ∨ opts.mirrorAddr.map channelOf = some c := by
  cases l with
  | run r => cases r <;> cases h
  | shutdown rest =>
    rcases rest with _ | ⟨_ | _ | _ | _, rest⟩ <;> cases h
  | worker x =>
    obtain ⟨pc, m, mirror⟩ := x
    cases pc with
    | select => cases c <;> first | exact Or.inl rfl | cases h
    | _ => cases h
  | dispatcher d =>
    obtain ⟨pc, m⟩ := d
    cases pc with
    | recv => cases c <;> first | exact Or.inr (Or.inl rfl) | cases h
    | _ => cases h
  | mirror m =>
    obtain ⟨pc, x⟩ := m
    cases pc with
    | recv =>
      obtain ⟨m', hm', -⟩ := Option.map_eq_some_iff.mp h
      simp only [Mirror.exec] at hm'
      split at hm'
      case isTrue hc => exact Or.inr (Or.inr hc)
      case isFalse => cases hm'
    | _ => cases h

omit [DecidableEq W] [DecidableEq V] in
theorem exec_close {l l' : Local} {c : Channel} (h : (code opts).exec l (.close c) = some l') : c = .udp := by
  cases l with
  | run r => cases r <;> cases h
  | shutdown rest =>
    rcases rest with _ | ⟨_ | _ | _ | _, rest⟩ <;> cases c <;> first | rfl | cases h
  | worker x =>
    obtain ⟨pc, m, mirror⟩ := x
    cases pc <;> cases h
  | dispatcher d =>
    obtain ⟨pc, m⟩ := d
    cases pc <;> cases h
  | mirror m =>
    obtain ⟨pc, x⟩ := m
    cases pc <;> cases h

def Blocked (w : State W V) (msg : Msg) : Prop :=
  Forwarding w msg ∧ (w.shared.chans (channelOf msg.raddr)).buf.length = (w.shared.chans (channelOf msg.raddr)).cap

theorem channelOf_eq (ip : IP) : channelOf ip = .ch4 ∨ channelOf ip = .ch6 := by
  unfold channelOf
  split <;> simp

omit [DecidableEq W] [DecidableEq V] in
theorem apply_unserved {l l' : Local} {op : Operation} {shared shared' : Shared Channel Flag Msg} {ip : IP}
    (hserved : opts.mirrorAddr.map channelOf ≠ some (channelOf ip)) (hexec : (code opts).exec l op = some l')
    (happly : shared.apply op = some shared')
    (hfull : (shared.chans (channelOf ip)).buf.length = (shared.chans (channelOf ip)).cap) :
    shared'.chans (channelOf ip) = shared.chans (channelOf ip) := by
  have happlies := applies_of_apply happly
  refine happlies.chans_eq fun hop => ?_
  cases op with
  | send c m =>
    obtain rfl := Option.some.inj hop
    obtain ⟨ch, hsend, -⟩ := Option.map_eq_some_iff.mp happly
    exact absurd (Chan.send_eq_some.mp hsend).2.1 (by omega)
  | recv c m =>
    obtain rfl := Option.some.inj hop
    rcases exec_recv hexec with hc | hc | hc
    · rcases channelOf_eq ip with h | h <;> rw [h] at hc <;> cases hc
    · rcases channelOf_eq ip with h | h <;> rw [h] at hc <;> cases hc
    · exact hserved hc
  | close c =>
    obtain rfl := Option.some.inj hop
    have hc := exec_close hexec
    rcases channelOf_eq ip with h | h <;> rw [h] at hc <;> cases hc
  | _ => cases hop

/-- **A blocked dispatcher stays blocked** if the destination is of the other family: whatever the goroutines do, it
takes no further step. -/
theorem blocked_for_ever (hserved : opts.mirrorAddr.map channelOf ≠ some (channelOf msg.raddr)) (hw : Blocked w msg)
    (h : Runs (Step (code opts)) w as w') : Blocked w' msg ∧ ∀ op, .run .dispatcher op ∉ as := by
  induction h with
  | nil => exact ⟨hw, fun op => List.not_mem_nil⟩
  | @cons w w₁ w' a as hstep _ ih =>
    have hnext : Blocked w₁ msg ∧ ∀ op, a ≠ .run .dispatcher op := by
      cases hstep with
      | drop b => exact ⟨hw, fun op => by simp⟩
      | @run g op l shared hexec happly =>
        have hchan := apply_unserved hserved hexec happly hw.2
        have hg : g ≠ .dispatcher := by
          rintro rfl
          rw [hw.1] at hexec
          obtain ⟨d, hd, -⟩ := Option.map_eq_some_iff.mp hexec
          obtain rfl := Dispatcher.exec_of_forward hd
          obtain ⟨ch, hsend, -⟩ := Option.map_eq_some_iff.mp happly
          exact absurd (Chan.send_eq_some.mp hsend).2.1 (by rw [hw.2]; exact Nat.lt_irrefl _)
        refine ⟨⟨?_, by rw [hchan]; exact hw.2⟩, fun op' heq => hg (Action.run.inj heq).1⟩
        exact (Function.update_of_ne (Ne.symm hg) _ _).trans hw.1
    obtain ⟨hblocked, hnot⟩ := ih hnext.1
    refine ⟨hblocked, fun op hmem => ?_⟩
    rcases List.mem_cons.mp hmem with heq | hmem
    · exact hnext.2 op heq.symm
    · exact hnot op hmem

/-! ## The way there -/

/-- Between two datagrams: the receive loop and the worker `i` are about to go round, their channels are empty, and
`n` messages wait in the channel for exporters like `raddr`. -/
structure Between (raddr : IP) (i : W) (n : Nat) (d : Dispatcher) (locals : Goroutine W V → Local)
    (chans : Channel → Chan Msg) : Prop where
  run : locals .run = .run .test
  worker : ∃ msg mirror, locals (.worker i) = .worker { pc := .put, msg := some msg, mirror }
  dispatcher : locals .dispatcher = .dispatcher d
  udp : chans .udp = .make Msg 1000
  mirror : chans .mirror = .make Msg 1000
  waiting : (chans (channelOf raddr)).closed = false ∧ (chans (channelOf raddr)).cap = 1000 ∧
    (chans (channelOf raddr)).buf.length = n

def mirroring : Flag → Bool := Function.update (fun _ => false) .mirrorEnabled true

omit [DecidableEq W] [DecidableEq V] in
theorem make_send_recv (msg : Msg) :
    ∃ ch, (Chan.make Msg 1000).send msg = some ch ∧ ch.recv = some (some msg, .make Msg 1000) :=
  ⟨⟨1000, [msg], false, by simp⟩, by simp [Chan.send, Chan.make], by simp [Chan.recv, Chan.pop, Chan.make]⟩

variable {locals : Goroutine W V → Local} {chans : Channel → Chan Msg} {raddr : IP} {i : W} {n : Nat} {m : Option Msg}

theorem Between.load (hb : Between raddr i n { pc := .recv, msg := m } locals chans)
    (h : Reaches (code opts) w locals chans mirroring) :
    ∃ locals' chans' b, Reaches (code opts) w locals' chans' mirroring ∧
      Between raddr i n { pc := .forward, msg := some ⟨raddr, b, 0⟩ } locals' chans' := by
  obtain ⟨old, mirror, hworker⟩ := hb.worker
  -- the receive loop
  have h := h.load (f := .stop) (l := .run .get) .run (by rw [hb.run]; rfl)
  obtain ⟨b, h⟩ := h.get (l := fun b => .run (.read b)) .run (fun b => by rw [Function.update_self]; rfl)
  have h := h.input (x := .datagram raddr []) (l := .run (.fill b raddr [])) .run
    (by simp only [Function.update_self, code, Run.exec, List.take_nil, Option.map_some])
  have h := h.write (b := b) (d := []) (l := .run (.send ⟨raddr, b, 0⟩)) .run
    (by simp only [Function.update_self, code, Run.exec, and_self, if_true, List.length_nil, Option.map_some])
  obtain ⟨ch, hsend, hrecv⟩ := make_send_recv ⟨raddr, b, 0⟩
  have h := h.send (c := .udp) (m := ⟨raddr, b, 0⟩) (l := .run .test) .run
    (by simp only [Function.update_self, code, Run.exec, if_true, Option.map_some]) (by rw [hb.udp]; exact hsend)
  -- the worker
  have h := h.put (b := old.body) (l := .worker ⟨.select, some old, mirror⟩) (.worker i)
    (by simp [hworker, code, Worker.exec, HasBody])
  have h := h.recv (c := .udp) (m := ⟨raddr, b, 0⟩) (l := .worker ⟨.ifMirror, some ⟨raddr, b, 0⟩, mirror⟩) (.worker i)
    (by rw [Function.update_self]; rfl) (by rw [Function.update_self]; exact hrecv)
  have h := h.load (f := .mirrorEnabled) (l := .worker ⟨.mirrorGet, some ⟨raddr, b, 0⟩, mirror⟩) (.worker i)
    (by rw [Function.update_self]; rfl)
  obtain ⟨b', h⟩ := h.get (l := fun b' => .worker ⟨.mirrorRead, some ⟨raddr, b, 0⟩, some ⟨raddr, b', opts.udpSize⟩⟩)
    (.worker i) (fun b' => by rw [Function.update_self]; rfl)
  have h := h.read_nil (b := b)
    (l := .worker ⟨.mirrorWrite [], some ⟨raddr, b, 0⟩, some ⟨raddr, b', opts.udpSize⟩⟩) (.worker i)
    (by simp [code, Worker.exec, HasSlice])
  have h := h.write (b := b') (d := []) (l := .worker ⟨.mirrorSend, some ⟨raddr, b, 0⟩, some ⟨raddr, b', 0⟩⟩)
    (.worker i) (by simp [code, Worker.exec, HasBody])
  obtain ⟨ch', hsend', hrecv'⟩ := make_send_recv ⟨raddr, b', 0⟩
  have h := h.send (c := .mirror) (m := ⟨raddr, b', 0⟩)
    (l := .worker ⟨.decode, some ⟨raddr, b, 0⟩, some ⟨raddr, b', 0⟩⟩) (.worker i)
    (by simp [code, Worker.exec]) (by simpa [hb.mirror] using hsend')
  have h := h.read_nil (b := b) (l := .worker ⟨.decoded, some ⟨raddr, b, 0⟩, some ⟨raddr, b', 0⟩⟩) (.worker i)
    (by simp [code, Worker.exec, HasSlice])
  have h := h.input (x := .noMessage) (l := .worker ⟨.put, some ⟨raddr, b, 0⟩, some ⟨raddr, b', 0⟩⟩) (.worker i)
    (by rw [Function.update_self]; rfl)
  -- the dispatcher
  have h := h.recv (c := .mirror) (m := ⟨raddr, b', 0⟩) (l := .dispatcher ⟨.forward, some ⟨raddr, b', 0⟩⟩)
    .dispatcher (by simp [hb.dispatcher, code, Dispatcher.exec]) (by rw [Function.update_self]; exact hrecv')
  refine ⟨_, _, b', h, ?_⟩
  have hc : channelOf raddr ≠ .udp ∧ channelOf raddr ≠ .mirror := by
    rcases channelOf_eq raddr with hc | hc <;> simp [hc]
  exact
    { run := by simp
      worker := ⟨⟨raddr, b, 0⟩, some ⟨raddr, b', 0⟩, by simp⟩
      dispatcher := by simp
      udp := by simp
      mirror := by simp
      waiting := by simpa [Function.update_of_ne hc.1, Function.update_of_ne hc.2] using hb.waiting }

theorem Between.forward {b : Nat} (hb : Between raddr i n { pc := .forward, msg := some ⟨raddr, b, 0⟩ } locals chans)
    (hroom : n < 1000) (h : Reaches (code opts) w locals chans mirroring) :
    ∃ locals' chans', Reaches (code opts) w locals' chans' mirroring ∧
      Between raddr i (n + 1) { pc := .recv, msg := some ⟨raddr, b, 0⟩ } locals' chans' := by
  obtain ⟨hopen, hcap, hlen⟩ := hb.waiting
  obtain ⟨ch, hch⟩ : ∃ ch, (chans (channelOf raddr)).send ⟨raddr, b, 0⟩ = some ch :=
    ⟨_, dif_pos ⟨hopen, by omega⟩⟩
  have hsent := Chan.send_eq_some.mp hch
  have h := h.send (c := channelOf raddr) (m := ⟨raddr, b, 0⟩)
    (l := .dispatcher { pc := .recv, msg := some ⟨raddr, b, 0⟩ }) .dispatcher
    (by simp [hb.dispatcher, code, Dispatcher.exec]) hch
  have hc : channelOf raddr ≠ .udp ∧ channelOf raddr ≠ .mirror := by
    rcases channelOf_eq raddr with hc | hc <;> simp [hc]
  exact ⟨_, _, h,
    { run := by simp [hb.run]
      worker := by simpa using hb.worker
      dispatcher := by simp
      udp := by simp [Function.update_of_ne (Ne.symm hc.1), hb.udp]
      mirror := by simp [Function.update_of_ne (Ne.symm hc.2), hb.mirror]
      waiting := by simp [hsent, hcap, hlen] }⟩

theorem reaches_between (hdst : opts.mirrorAddr.isSome) (raddr : IP) (i : W) (hn : n ≤ 1000) :
    ∃ locals chans m, Reaches (code opts) (start W V opts) locals chans mirroring ∧
      Between raddr i n { pc := .recv, msg := m } locals chans := by
  induction n with
  | zero =>
    have h := (Reaches.refl (code opts) (start W V opts)).store (f := .mirrorEnabled) (v := true)
      (l := .dispatcher { pc := .recv }) .dispatcher (by simp [start, code, Dispatcher.exec, hdst])
    obtain ⟨b, h⟩ := h.get (l := fun b => .worker { pc := .put, msg := some ⟨[], b, opts.udpSize⟩ }) (.worker i)
      (fun b => by simp [start, code, Worker.exec])
    exact ⟨_, _, none, h,
      { run := by simp [start]
        worker := ⟨_, none, Function.update_self ..⟩
        dispatcher := by simp
        udp := rfl
        mirror := rfl
        waiting := ⟨rfl, rfl, rfl⟩ }⟩
  | succ n ih =>
    obtain ⟨locals, chans, m, h, hb⟩ := ih (by omega)
    obtain ⟨locals', chans', b, h', hb'⟩ := hb.load h
    obtain ⟨locals'', chans'', h'', hb''⟩ := hb'.forward (by omega) h'
    exact ⟨locals'', chans'', _, h'', hb''⟩

/-- **The dispatcher can come to block**, whatever the address to mirror to: 1000 datagrams that nobody has taken
from the channel yet wait there, and it has the next one in its hands. -/
theorem blocked_reachable (opts : Opts) (hdst : opts.mirrorAddr.isSome) (raddr : IP) (i : W) :
    ∃ as w msg, Runs (Step (code opts)) (start W V opts) as w ∧ Blocked w msg ∧ msg.raddr = raddr := by
  obtain ⟨locals, chans, m, h, hb⟩ := reaches_between (V := V) hdst raddr i (Nat.le_refl 1000)
  obtain ⟨locals', chans', b, ⟨as, w, hruns, rfl, rfl, -⟩, hb'⟩ := hb.load h
  exact ⟨as, w, ⟨raddr, b, 0⟩, hruns, ⟨hb'.dispatcher, by rw [hb'.waiting.2.2, hb'.waiting.2.1]⟩, rfl⟩

/-- An IPv4 destination and an exporter with an IPv6 address: the dispatcher comes to block, with nobody to receive, and
takes no step any more. -/
theorem dispatcher_wedges :
    ∃ (as : List (Act Unit Unit)) (w : State Unit Unit) (msg : Msg),
      Runs (Step (code ⟨1500, some [198, 51, 100, 1]⟩)) (start Unit Unit ⟨1500, some [198, 51, 100, 1]⟩) as w ∧
      Blocked w msg ∧ ¬ Serves ⟨1500, some [198, 51, 100, 1]⟩ w (channelOf msg.raddr) ∧
      (∀ bs w', Runs (Step (code ⟨1500, some [198, 51, 100, 1]⟩)) w bs w' → ∀ op, .run .dispatcher op ∉ bs) ∧
      ¬ ServedThroughout ⟨1500, some [198, 51, 100, 1]⟩ as := by
  obtain ⟨as, w, msg, hruns, hblocked, hraddr⟩ := blocked_reachable (W := Unit) (V := Unit)
    ⟨1500, some [198, 51, 100, 1]⟩ rfl [32, 1, 13, 184, 0, 0, 0, 0, 0, 0, 0, 0, 0, 0, 0, 1] ()
  have hother : Option.map channelOf (some [198, 51, 100, 1]) ≠ some (channelOf msg.raddr) := by
    rw [hraddr]
    decide
  have hserves : ¬ Serves ⟨1500, some [198, 51, 100, 1]⟩ w (channelOf msg.raddr) := fun h => hother h.1
  refine ⟨as, w, msg, hruns, hblocked, hserves, fun bs w' h => (blocked_for_ever hother hblocked h).2, fun h => ?_⟩
  exact hserves (h as [] w msg (List.append_nil as).symm hruns hblocked.1)

end VFlow.Daemon.IPFIX
