import Mathlib.Algebra.BigOperators.Group.Finset.Basic
import Mathlib.Data.Fintype.Basic
import VFlow.Daemon.Texts

/-!
# Where the datagrams are

A datagram that was received is with the receive loop, in the channel, or with a worker, or a worker is done with it
for one of four reasons. Each operation moves at most one datagram from one of these places to the next
(`counts_exec`, `length_udp`), so that the numbers always add up, and the counters are what they should be
(`counts_of_runs`).
-/

namespace VFlow.Daemon.Pipeline

open Goroutines IPFIX

variable {svc : Service} {W V : Type}

/-! ## One operation -/

/-- The operation is a send to the workers. -/
def sends : Operation → Nat
  | .send .udp _ => 1
  | _ => 0

def receives : Operation → Nat
  | .recv .udp _ => 1
  | _ => 0

def arrives : Operation → Nat
  | .input (.datagram _ _) => 1
  | _ => 0

def noMessage : Operation → Nat
  | .input .noMessage => 1
  | _ => 0

def noDataSets : Operation → Nat
  | .input .noDataSets => 1
  | _ => 0

def dataSets : Operation → Nat
  | .input .dataSets => 1
  | _ => 0

def jsonError : Operation → Nat
  | .input .jsonError => 1
  | _ => 0

/-- A message has been marshalled, and is offered to the producer. -/
def json : Operation → Nat
  | .input .json => 1
  | _ => 0

def held : Local → Nat
  | .run (.fill _ _ _) | .run (.send _) => 1
  | .worker x =>
    match x.pc with
    | .start | .put | .select | .exited => 0
    | _ => 1
  | _ => 0

def marshalling : Local → Nat
  | .worker x =>
    match x.pc with
    | .marshal | .marshalled => 1
    | _ => 0
  | _ => 0

variable {opts : Opts} {op : Operation} {l l' : Local}

theorem sends_channelOf (ip : IP) (m : Msg) : sends (.send (channelOf ip) m) = 0 := by
  unfold channelOf
  split <;> rfl

theorem receives_channelOf (ip : IP) (m : Msg) : receives (.recv (channelOf ip) m) = 0 := by
  unfold channelOf
  split <;> rfl

/-- What a goroutine has after an operation, by what it had before and the datagrams and messages that come and go. -/
theorem counts_exec (h : (code opts).exec l op = some l') :
    held l' + sends op + (noMessage op + noDataSets op + jsonError op + json op) =
        held l + receives op + arrives op ∧
      marshalling l' + (jsonError op + json op) = marshalling l + dataSets op := by
  cases l with
  | run r =>
    obtain ⟨r', hr, rfl⟩ := Option.map_eq_some_iff.mp h
    unfold Run.exec at hr
    split at hr <;> first | (split at hr <;> cases hr <;> exact ⟨rfl, rfl⟩) | (cases hr; try exact ⟨rfl, rfl⟩)
  | shutdown rest =>
    obtain ⟨rest', hr, rfl⟩ := Option.map_eq_some_iff.mp h
    unfold execShutdown at hr
    split at hr <;> cases hr <;> exact ⟨rfl, rfl⟩
  | worker x =>
    obtain ⟨x', hx, rfl⟩ := Option.map_eq_some_iff.mp h
    obtain ⟨pc, msg, mirror⟩ := x
    simp only [Worker.exec] at hx
    split at hx <;> first | (split at hx <;> cases hx <;> exact ⟨rfl, rfl⟩) | (cases hx; try exact ⟨rfl, rfl⟩)
  | dispatcher d =>
    obtain ⟨d', hd, rfl⟩ := Option.map_eq_some_iff.mp h
    simp only [Dispatcher.exec] at hd
    split at hd
    case h_3 c m _ _ =>
      split at hd <;> cases hd
      case isTrue heq =>
        rw [heq.2, sends_channelOf]
        exact ⟨rfl, rfl⟩
    all_goals first | (split at hd <;> cases hd <;> exact ⟨rfl, rfl⟩) | (cases hd; try exact ⟨rfl, rfl⟩)
  | mirror m =>
    obtain ⟨m', hm, rfl⟩ := Option.map_eq_some_iff.mp h
    simp only [Mirror.exec] at hm
    split at hm
    case h_3 c x _ _ =>
      split at hm <;> cases hm
      case isTrue heq =>
        obtain ⟨ip, -, rfl⟩ := Option.map_eq_some_iff.mp heq
        rw [receives_channelOf]
        exact ⟨rfl, rfl⟩
    all_goals first | (split at hm <;> cases hm <;> exact ⟨rfl, rfl⟩) | (cases hm; try exact ⟨rfl, rfl⟩)

theorem length_udp {s s' : Shared Channel Flag Msg} (h : s.apply op = some s') :
    (s'.chans .udp).buf.length + receives op = (s.chans .udp).buf.length + sends op := by
  cases applies_of_apply h with
  | @send c m ch hsend =>
    by_cases hc : c = .udp
    · subst hc
      simp [sends, receives, (Chan.send_eq_some.mp hsend).2.2.1]
    · have hsends : sends (.send c m) = 0 := by cases c <;> first | rfl | exact absurd rfl hc
      simp [hsends, receives, Function.update_of_ne (Ne.symm hc)]
  | @recv c m ch hrecv =>
    by_cases hc : c = .udp
    · subst hc
      simp [sends, receives, (Chan.recv_eq_value.mp hrecv).1]
    · have hreceives : receives (.recv c m) = 0 := by cases c <;> first | rfl | exact absurd rfl hc
      simp [hreceives, sends, Function.update_of_ne (Ne.symm hc)]
  | @close c ch hclose =>
    by_cases hc : c = .udp
    · subst hc
      simp [sends, receives, (Chan.close_eq_some.mp hclose).2.1]
    · simp [sends, receives, Function.update_of_ne (Ne.symm hc)]
  | taken | made | put | store | write => rfl
  | observe hop => cases op <;> first | rfl | cases hop

/-! ## All goroutines -/

section total

variable [Fintype W] {w : IPFIX.State W V} {g : Goroutine W V} {f : Local → Nat}

def total (f : Local → Nat) (w : IPFIX.State W V) : Nat := f (w.locals .run) + ∑ i, f (w.locals (.worker i))

theorem total_congr {f : Local → Nat} {w w' : IPFIX.State W V} (h : w'.locals = w.locals) : total f w' = total f w := by
  simp only [total, h]

theorem total_after [DecidableEq W] [DecidableEq V] (shared : Shared Channel Flag Msg) (hfits : Fits g (w.locals g))
    (hfits' : Fits g l)
    (hf : ∀ l, (∀ r, l ≠ .run r) → (∀ x, l ≠ .worker x) → f l = 0) :
    total f (w.after g shared l) + f (w.locals g) = total f w + f l := by
  have haside (hrun : g ≠ .run) (hworker : ∀ i, g ≠ .worker i) :
      total f (w.after g shared l) + f (w.locals g) = total f w + f l := by
    obtain ⟨h1, h2⟩ := hfits.aside hrun hworker
    obtain ⟨h3, h4⟩ := hfits'.aside hrun hworker
    rw [hf _ h1 h2, hf _ h3 h4]
    simp only [total, Function.update_of_ne hrun.symm, Function.update_of_ne (hworker _).symm]
  cases g with
  | run =>
    simp only [total, Function.update_self, ne_eq, reduceCtorEq, not_false_eq_true, Function.update_of_ne]
    omega
  | worker i =>
    have hsum : ∑ j, f ((w.after (.worker i) shared l).locals (.worker j)) + f (w.locals (.worker i)) =
        ∑ j, f (w.locals (.worker j)) + f l := by
      rw [← Finset.add_sum_erase _ _ (Finset.mem_univ i), ← Finset.add_sum_erase _ _ (Finset.mem_univ i)]
      have hrest : ∑ j ∈ Finset.univ.erase i, f ((w.after (.worker i) shared l).locals (.worker j)) =
          ∑ j ∈ Finset.univ.erase i, f (w.locals (.worker j)) := by
        refine Finset.sum_congr rfl fun j hj => ?_
        have hji : (.worker j : Goroutine W V) ≠ .worker i := by simpa using Finset.ne_of_mem_erase hj
        simp only [Function.update_of_ne hji]
      rw [hrest]
      simp only [Function.update_self]
      omega
    have hrun : (w.after (.worker i) shared l).locals .run = w.locals .run := by
      simp only [ne_eq, reduceCtorEq, not_false_eq_true, Function.update_of_ne]
    rw [total, total, hrun]
    omega
  | shutdown => exact haside (by simp) (by simp)
  | dispatcher => exact haside (by simp) (by simp)
  | mirror v => exact haside (by simp) (by simp)

end total

/-! ## Runs -/

def weight {Mem : Type} (p : Operation → Nat) : Event Mem W V → Nat
  | .daemon (.run _ op) _ => p op
  | _ => 0

/-- How often an operation of this kind was done. -/
def tally {Mem : Type} (p : Operation → Nat) : List (Event Mem W V) → Nat
  | [] => 0
  | e :: es => weight p e + tally p es

theorem tally_append {Mem : Type} (p : Operation → Nat) (es es' : List (Event Mem W V)) :
    tally p (es ++ es') = tally p es + tally p es' := by
  induction es with
  | nil => simp [tally]
  | cons e es ih => simp [tally, ih, Nat.add_assoc]

theorem tally_snoc {Mem : Type} (p : Operation → Nat) (es : List (Event Mem W V)) (e : Event Mem W V) :
    tally p (es ++ [e]) = tally p es + weight p e := by
  rw [tally_append]
  rfl

def uncounted : Local → Nat
  | .run (.fill _ _ _) => 1
  | _ => 0

/-- How many datagrams are counted as decoded. -/
def decodedBy {Mem : Type} (c : Collector) (es : List (Event Mem W V)) : Nat :=
  tally noDataSets es + if c.countsFirst then tally dataSets es else tally json es

theorem decodedBy_snoc {Mem : Type} (c : Collector) (es : List (Event Mem W V)) (e : Event Mem W V) :
    decodedBy c (es ++ [e]) = decodedBy c es + (weight noDataSets e +
      if c.countsFirst then weight dataSets e else weight json e) := by
  simp only [decodedBy, tally_snoc]
  split <;> omega

/-- The numbers of datagrams and messages, and the counters. -/
structure Counts [Fintype W] (es : List (Event svc.Mem W V)) (s : State svc W V) : Prop where
  datagrams : total held s.world + (s.world.shared.chans .udp).buf.length + (tally noMessage es + tally noDataSets es +
    tally jsonError es + tally json es) = s.received.length
  messages : total marshalling s.world + (tally jsonError es + tally json es) = tally dataSets es
  texts : s.published.length + s.producer.toList.length + s.mqCh.buf.length ≤ tally json es
  udpCount : ∃ n, s.udpCount = UInt64.ofNat n ∧ n + uncounted (s.world.locals .run) = s.received.length
  decodedCount : s.decodedCount = UInt64.ofNat (decodedBy svc.collector es)
  mqErrorCount : s.mqErrorCount = UInt64.ofNat s.errors

section

variable {s s' : State svc W V} {op : Operation} {l : Local}

theorem held_aside (hrun : ∀ r, l ≠ .run r) (hworker : ∀ x, l ≠ .worker x) : held l = 0 := by
  cases l with
  | run r => exact absurd rfl (hrun r)
  | worker x => exact absurd rfl (hworker x)
  | _ => rfl

theorem marshalling_aside (hworker : ∀ x, l ≠ .worker x) : marshalling l = 0 := by
  cases l with
  | worker x => exact absurd rfl (hworker x)
  | _ => rfl

/-- What an operation does to the counters besides. -/
structure Effect (s s' : State svc W V) (op : Operation) : Prop where
  received : s'.received.length = s.received.length + arrives op
  mqErrorCount : s'.mqErrorCount = s.mqErrorCount
  published : s'.published = s.published
  producer : s'.producer = s.producer
  texts : s'.mqCh.buf.length ≤ s.mqCh.buf.length + json op
  decodedCount : s'.decodedCount = s.decodedCount + UInt64.ofNat (noDataSets op +
    if svc.collector.countsFirst then dataSets op else json op)

theorem counted_eq (s : State svc W V) (now : Bool) :
    s.counted now = { s with decodedCount := s.decodedCount + UInt64.ofNat (if now then 1 else 0) } := by
  cases now
  · simp [State.counted]
  · rfl

theorem length_offer (s : State svc W V) (text : List UInt8) :
    (s.offer text).mqCh.buf.length ≤ s.mqCh.buf.length + 1 := by
  simp only [State.offer]
  cases hsend : s.mqCh.send text with
  | none => simp
  | some mqCh => simp [(Chan.send_eq_some.mp hsend).2.2.1]

theorem Effect.same (hreceived : s'.received = s.received) (hmqError : s'.mqErrorCount = s.mqErrorCount)
    (hpublished : s'.published = s.published) (hproducer : s'.producer = s.producer) (hmqCh : s'.mqCh = s.mqCh)
    (hdecoded : s'.decodedCount = s.decodedCount) (harrives : arrives op = 0) (hjson : json op = 0)
    (hdataSets : dataSets op = 0) (hnoDataSets : noDataSets op = 0) : Effect s s' op := by
  refine ⟨by rw [hreceived, harrives, Nat.add_zero], hmqError, hpublished, hproducer, ?_, ?_⟩
  · rw [hmqCh, hjson, Nat.add_zero]
  · rw [hdecoded, hnoDataSets, hdataSets, hjson]
    simp

end

section counts

variable [DecidableEq W] [DecidableEq V] {opts : Opts} {s s' t : State svc W V}
  {es : List (Event svc.Mem W V)} {e : Event svc.Mem W V} {g : Goroutine W V} {op : Operation} {l : Local} {now : Int}
  {shared : Shared Channel Flag Msg}

theorem effect_of_exec (hfits : Fits g (s.world.locals g))
    (hexec : (code opts).exec (s.world.locals g) op = some l) (heff : effect opts s now (.run g op) = some s') :
    Effect s s' op := by
  cases hl : s.world.locals g with
  | run r =>
    rw [hl] at hfits hexec
    obtain ⟨r', hr, rfl⟩ := Option.map_eq_some_iff.mp hexec
    cases g with
    | run =>
      unfold Run.exec at hr
      split at hr
      case h_5 b raddr data =>
        cases heff
        exact ⟨by simp [arrives], rfl, rfl, rfl, Nat.le_refl _, by simp [noDataSets, dataSets, json]⟩
      case h_8 => cases hr
      all_goals
        cases heff
        exact .same rfl rfl rfl rfl rfl rfl rfl rfl rfl rfl
    | _ => exact hfits.elim
  | worker x =>
    rw [hl] at hfits hexec
    obtain ⟨x', hx, rfl⟩ := Option.map_eq_some_iff.mp hexec
    cases g with
    | worker i =>
      obtain ⟨pc, msg, mirror⟩ := x
      simp only [Worker.exec] at hx
      split at hx
      case h_9 b data | h_13 b data | h_17 b data =>
        simp only [effect] at heff
        split at heff <;> cases heff <;> exact .same rfl rfl rfl rfl rfl rfl rfl rfl rfl rfl
      case h_14 | h_18 =>
        simp only [effect] at heff
        split at heff <;> cases heff
        exact .same rfl rfl rfl rfl rfl rfl rfl rfl rfl rfl
      case h_15 =>
        simp only [effect] at heff
        split at heff <;> cases heff
        rw [counted_eq]
        exact ⟨rfl, rfl, rfl, rfl, Nat.le_refl _, by simp [noDataSets, dataSets, json]⟩
      case h_16 =>
        simp only [effect] at heff
        split at heff <;> cases heff
        rw [counted_eq]
        exact ⟨rfl, rfl, rfl, rfl, Nat.le_refl _, by simp [noDataSets, dataSets, json]⟩
      case h_19 =>
        simp only [effect] at heff
        split at heff
        case h_1 text hv =>
          cases heff
          rw [counted_eq]
          refine ⟨rfl, rfl, rfl, rfl, length_offer _ text, ?_⟩
          cases hc : svc.collector.countsFirst <;> simp [State.offer, noDataSets, dataSets, json]
        case h_2 => cases heff
      case h_20 => cases hx
      all_goals
        cases heff
        exact .same rfl rfl rfl rfl rfl rfl rfl rfl rfl rfl
    | _ => exact hfits.elim
  | shutdown rest =>
    rw [hl] at hfits hexec
    obtain ⟨rest', hr, rfl⟩ := Option.map_eq_some_iff.mp hexec
    cases g with
    | shutdown =>
      cases heff
      unfold execShutdown at hr
      split at hr <;> first | cases hr; done | exact .same rfl rfl rfl rfl rfl rfl rfl rfl rfl rfl
    | _ => exact hfits.elim
  | dispatcher d =>
    rw [hl] at hfits hexec
    obtain ⟨d', hd, rfl⟩ := Option.map_eq_some_iff.mp hexec
    cases g with
    | dispatcher =>
      cases heff
      simp only [Dispatcher.exec] at hd
      split at hd <;> first | cases hd; done | exact .same rfl rfl rfl rfl rfl rfl rfl rfl rfl rfl
    | _ => exact hfits.elim
  | mirror m =>
    rw [hl] at hfits hexec
    obtain ⟨m', hm, rfl⟩ := Option.map_eq_some_iff.mp hexec
    cases g with
    | mirror v =>
      simp only [Mirror.exec] at hm
      split at hm
      case h_4 b data _ _ =>
        simp only [effect] at heff
        split at heff <;> cases heff <;> exact .same rfl rfl rfl rfl rfl rfl rfl rfl rfl rfl
      case h_8 => cases hm
      all_goals
        cases heff
        exact .same rfl rfl rfl rfl rfl rfl rfl rfl rfl rfl
    | _ => exact hfits.elim

theorem udpCount_of_exec (shared : Shared Channel Flag Msg) (hfits : Fits g (s.world.locals g))
    (hexec : (code opts).exec (s.world.locals g) op = some l) (heff : effect opts s now (.run g op) = some s')
    (h : ∃ n, s.udpCount = UInt64.ofNat n ∧ n + uncounted (s.world.locals .run) = s.received.length) :
    ∃ n, s'.udpCount = UInt64.ofNat n ∧
      n + uncounted ((s.world.after g shared l).locals .run) = s'.received.length := by
  obtain ⟨n, hn, hsum⟩ := h
  by_cases hg : g = .run
  · subst hg
    cases hl : s.world.locals .run with
    | run r =>
      rw [hl] at hexec hsum
      obtain ⟨r', hr, rfl⟩ := Option.map_eq_some_iff.mp hexec
      simp only [Function.update_self]
      unfold Run.exec at hr
      split at hr
      case h_5 b raddr data =>
        cases hr
        cases heff
        refine ⟨n, hn, ?_⟩
        simp only [uncounted, Nat.add_zero] at hsum
        simp [uncounted, hsum]
      case h_6 b raddr data b' data' =>
        split at hr <;> cases hr
        cases heff
        refine ⟨n + 1, ?_, hsum⟩
        rw [hn, UInt64.ofNat_add]
        rfl
      case h_7 msg msg' =>
        split at hr <;> cases hr
        cases heff
        exact ⟨n, hn, hsum⟩
      case h_8 => cases hr
      all_goals
        cases hr
        cases heff
        exact ⟨n, hn, hsum⟩
    | _ =>
      rw [hl] at hfits
      exact hfits.elim
  · obtain ⟨hcount, hreceived⟩ := udp_of_effect heff hg
    simp only [Function.update_of_ne (Ne.symm hg), hcount, hreceived]
    exact ⟨n, hn, hsum⟩

variable [Fintype W]

theorem Counts.daemon (h : Counts es s) (hfits : ∀ g, Fits g (s.world.locals g))
    (hexec : (code opts).exec (s.world.locals g) op = some l) (happly : s.world.shared.apply op = some shared)
    (heff : effect opts s now (.run g op) = some s') :
    Counts (es ++ [.daemon (.run g op) now]) { s' with world := s.world.after g shared l } := by
  have hfits' := (hfits g).exec hexec
  obtain ⟨hreceived, hmqError, hpublished, hproducer, htexts, hdecoded⟩ := effect_of_exec (hfits g) hexec heff
  have hheld := total_after shared (hfits g) hfits' (f := held) fun _ => held_aside
  have hmarshalling := total_after shared (hfits g) hfits' (f := marshalling) fun _ _ => marshalling_aside
  obtain ⟨hexecHeld, hexecMarshalling⟩ := counts_exec hexec
  have hudp := length_udp happly
  have hudpCount := udpCount_of_exec shared (hfits g) hexec heff h.udpCount
  refine ⟨?_, ?_, ?_, hudpCount, ?_, ?_⟩
  · have hsum := h.datagrams
    simp only [tally_snoc, weight]
    omega
  · have hsum := h.messages
    simp only [tally_snoc, weight]
    omega
  · have hsum := h.texts
    simp only [tally_snoc, weight, hpublished, hproducer]
    omega
  · rw [decodedBy_snoc, UInt64.ofNat_add, ← h.decodedCount]
    exact hdecoded
  · simp only [State.errors, hmqError, hpublished]
    exact h.mqErrorCount

omit [DecidableEq W] [DecidableEq V] in
theorem Counts.quiet (h : Counts es s) (hweight : ∀ p, weight p e = 0) (hlocals : t.world.locals = s.world.locals)
    (hchans : t.world.shared.chans = s.world.shared.chans) (hreceived : t.received = s.received)
    (hudp : t.udpCount = s.udpCount) (hdecoded : t.decodedCount = s.decodedCount)
    (htexts : t.published.length + t.producer.toList.length + t.mqCh.buf.length ≤
      s.published.length + s.producer.toList.length + s.mqCh.buf.length)
    (hmqError : t.mqErrorCount = UInt64.ofNat t.errors) :
    Counts (es ++ [e]) t := by
  refine ⟨?_, ?_, ?_, ?_, ?_, hmqError⟩
  · rw [total_congr hlocals, hchans, hreceived]
    simp only [tally_snoc, hweight, Nat.add_zero]
    exact h.datagrams
  · rw [total_congr hlocals]
    simp only [tally_snoc, hweight, Nat.add_zero]
    exact h.messages
  · rw [tally_snoc, hweight, Nat.add_zero]
    exact htexts.trans h.texts
  · rw [hlocals, hreceived, hudp]
    exact h.udpCount
  · rw [decodedBy_snoc, hdecoded, hweight, hweight, hweight, ite_self]
    exact h.decodedCount

theorem Counts.step (h : Counts es s) (hfits : ∀ g, Fits g (s.world.locals g)) (hstep : Step opts s e t) :
    Counts (es ++ [e]) t := by
  by_cases he : ∃ a now, e = .daemon a now
  · obtain ⟨a, now, rfl⟩ := he
    obtain ⟨-, world, s', hworld, heff, rfl⟩ := step_daemon.mp hstep
    cases hworld with
    | run hexec happly => exact h.daemon hfits hexec happly heff
    | drop b =>
      cases heff
      exact h.quiet (fun p => rfl) rfl rfl rfl rfl rfl (Nat.le_refl _) h.mqErrorCount
  · have he' : ∀ a now, e ≠ .daemon a now := fun a now hea => he ⟨a, now, hea⟩
    obtain ⟨hworld, hreceived, -, -, hudp, hdecoded⟩ := aside_of_step hstep he'
    have hweight : ∀ p, weight p e = 0 := by
      intro p
      cases e with
      | daemon a now => exact absurd rfl (he' a now)
      | _ => rfl
    have hquiet := h.quiet hweight (congrArg _ hworld) (by rw [hworld]) hreceived hudp hdecoded
    have hrunning := running_of_step hstep
    simp only [Step, Pipeline.step, hrunning, Bool.false_eq_true, if_false] at hstep
    cases e with
    | daemon a now => exact absurd rfl (he' a now)
    | work i =>
      dsimp only at hstep
      split at hstep
      · split at hstep <;> cases hstep
        exact hquiet (Nat.le_refl _) h.mqErrorCount
      · cases hstep
    | panic i =>
      dsimp only at hstep
      split at hstep <;> cases hstep
      exact hquiet (Nat.le_refl _) h.mqErrorCount
    | cache mem =>
      cases hstep
      exact hquiet (Nat.le_refl _) h.mqErrorCount
    | take =>
      dsimp only at hstep
      split at hstep
      case h_1 text mqCh hproducer hrecv =>
        cases hstep
        refine hquiet ?_ h.mqErrorCount
        simp only [hproducer, (Chan.recv_eq_value.mp hrecv).1, Option.toList_some, Option.toList_none, List.length_cons,
          List.length_nil]
        omega
      case h_2 => cases hstep
    | publish p =>
      dsimp only at hstep
      split at hstep
      case h_1 text hproducer =>
        cases hstep
        refine hquiet ?_ ?_
        · simp only [hproducer, List.length_append, Option.toList_some, Option.toList_none, List.length_cons,
            List.length_nil]
          omega
        · simp [State.errors, h.mqErrorCount, UInt64.ofNat_add]
      case h_2 => cases hstep

theorem counts_of_runs {mem : svc.Mem} (h : Runs (Step opts) (start svc W V opts mem) es s) : Counts es s := by
  have hstart : Counts ([] : List (Event svc.Mem W V)) (start svc W V opts mem) := by
    have hzero : ∀ f : Local → Nat, f (.run .test) = 0 → f (.worker svc.collector.worker) = 0 →
        total f (start svc W V opts mem).world = 0 := by
      intro f hrun hworker
      simp [total, start, Collector.locals, hrun, hworker]
    refine ⟨?_, ?_, Nat.le_refl _, ⟨0, rfl, rfl⟩, ?_, rfl⟩
    · rw [hzero held rfl (by cases svc.collector <;> rfl)]
      rfl
    · rw [hzero marshalling rfl (by cases svc.collector <;> rfl)]
      rfl
    · simp [decodedBy, tally, start]
  have hboth : Counts es s ∧ ∀ g, Fits g (s.world.locals g) := by
    refine h.history (P := fun es s => Counts es s ∧ ∀ g, Fits g (s.world.locals g)) ?_ ?_
    · exact ⟨hstart, (accounts_start (K := W) (undecoded opts) mem).fits⟩
    · intro es s e t hrun hs hstep
      refine ⟨hs.1.step hs.2 hstep, ?_⟩
      obtain ⟨tok, used, texts, hinv⟩ := tracked_of_runs (R := .any svc) trivial (fun e _ => Rule.any_allows opts e)
        (hrun.snoc hstep)
      exact hinv.accounts.fits
  exact hboth.1

end counts

end VFlow.Daemon.Pipeline
