import VFlow.Base.Goroutines
import VFlow.Daemon.Shutdown

/-!
# The buffers of the IPFIX collector

The receive loop takes a buffer from the pool `ipfixBuffer` for every datagram and sends it to the workers. A worker
puts the buffer back when it comes for the next datagram; before that it may copy the datagram into another buffer
for the mirror, which goes over two channels to a goroutine that puts it back. What the goroutines do is written
down as code over the pool and the channels, with the variables as the source has them: a variable keeps its value
after the buffer was given away.

The code is linear (`code_linear`): each goroutine uses only the buffers that it owns at that point. So in all
interleavings a buffer has one owner (`buffers_one_owner`).
-/

namespace VFlow.Daemon.IPFIX

open Goroutines

/-! ## What the goroutines share -/

/-- `ipfixUDPCh`, `ipfixMCh` and the channels of the mirror dispatcher. -/
inductive Channel where
  | udp
  | mirror
  | ch4
  | ch6
  deriving DecidableEq

/-- The variables `stop` and `ipfixMirrorEnabled`. -/
inductive Flag where
  | stop
  | mirrorEnabled
  deriving DecidableEq

/-- What comes from outside: the network, the results of decoding and encoding, the clock, the file, the quit
channel. -/
inductive Input where
  | readError
  | datagram (raddr : IP) (data : List UInt8)
  | slept
  | dumped
  | quit
  | noMessage
  | noDataSets
  | dataSets
  | jsonError
  | json
  | noConn
  | conn
  | sent
  | sendError

abbrev Msg := UDPMsg Nat

abbrev Operation := Op Channel Flag Msg Input

/-- The options that matter here: `IPFIXUDPSize`, and the address to mirror to if there is one. -/
structure Opts where
  udpSize : Nat
  mirrorAddr : Option IP

/-! ## The receive loop and `shutdown` -/

inductive Run where
  | test
  | get
  | read (b : Nat)
  /-- A datagram has come and is written into the buffer. -/
  | fill (b : Nat) (raddr : IP) (data : List UInt8)
  | send (msg : Msg)
  | exited

def Run.exec (opts : Opts) : Run → Operation → Option Run
  | .test, .load .stop true => some .exited
  | .test, .load .stop false => some .get
  | .get, .get b => some (.read b)
  | .read _, .input .readError => some .test
  | .read b, .input (.datagram raddr data) => some (.fill b raddr (data.take opts.udpSize))
  | .fill b raddr data, .write b' data' =>
    if b' = b ∧ data' = data then some (.send { raddr, body := b, len := data.length }) else none
  | .send msg, .send .udp msg' => if msg' = msg then some .test else none
  | _, _ => none

def Run.owned : Run → List Nat
  | .read b | .fill b _ _ => [b]
  | .send msg => [msg.body]
  | _ => []

def execShutdown : List Statement → Operation → Option (List Statement)
  | .stop :: rest, .store .stop true => some rest
  | .sleep :: rest, .input .slept => some rest
  | .dump :: rest, .input .dumped => some rest
  | .close :: rest, .close .udp => some rest
  | _, _ => none

/-! ## A worker -/

inductive WorkerPC where
  | start
  | put
  | select
  /-- At the test of `ipfixMirrorEnabled`. -/
  | ifMirror
  | mirrorGet
  /-- Copying the datagram for the mirror. -/
  | mirrorRead
  | mirrorWrite (data : List UInt8)
  | mirrorSend
  | decode
  | decoded
  /-- The decoded values are slices of the datagram. -/
  | marshal
  | marshalled
  | exited

structure Worker where
  pc : WorkerPC := .start
  msg : Option Msg := none
  mirror : Option Msg := none

def HasBody (msg : Option Msg) (b : Nat) : Prop := ∃ m, msg = some m ∧ m.body = b

instance (msg : Option Msg) (b : Nat) : Decidable (HasBody msg b) :=
  decidable_of_iff (msg.map (·.body) = some b) (by simp [HasBody])

def HasSlice (msg : Option Msg) (b len : Nat) : Prop := ∃ m, msg = some m ∧ m.body = b ∧ m.len = len

instance (msg : Option Msg) (b len : Nat) : Decidable (HasSlice msg b len) :=
  decidable_of_iff (msg.map (fun m => (m.body, m.len)) = some (b, len)) (by simp [HasSlice])

def Worker.exec (opts : Opts) (w : Worker) (op : Operation) : Option Worker :=
  match w.pc, op with
  | .start, .get b => some { w with pc := .put, msg := some { raddr := [], body := b, len := opts.udpSize } }
  | .put, .put b => if HasBody w.msg b then some { w with pc := .select } else none
  | .select, .input .quit => some { w with pc := .exited }
  | .select, .recv .udp msg => some { w with pc := .ifMirror, msg := some msg }
  | .select, .closed .udp => some { w with pc := .exited, msg := none }
  | .ifMirror, .load .mirrorEnabled true => some { w with pc := .mirrorGet }
  | .ifMirror, .load .mirrorEnabled false => some { w with pc := .decode }
  | .mirrorGet, .get b =>
    some { w with pc := .mirrorRead
                  mirror := w.msg.map fun msg => { raddr := msg.raddr, body := b, len := opts.udpSize } }
  | .mirrorRead, .read b data => if HasSlice w.msg b data.length then some { w with pc := .mirrorWrite data } else none
  | .mirrorWrite data, .write b data' =>
    if HasBody w.mirror b ∧ data' = data then
      some { w with pc := .mirrorSend, mirror := w.mirror.map fun mirror => { mirror with len := data.length } }
    else none
  | .mirrorSend, .send .mirror msg => if w.mirror = some msg then some { w with pc := .decode } else none
  | .mirrorSend, .full .mirror => some { w with pc := .decode }
  | .decode, .read b data => if HasSlice w.msg b data.length then some { w with pc := .decoded } else none
  | .decoded, .input .noMessage => some { w with pc := .put }
  | .decoded, .input .noDataSets => some { w with pc := .put }
  | .decoded, .input .dataSets => some { w with pc := .marshal }
  | .marshal, .read b data => if HasSlice w.msg b data.length then some { w with pc := .marshalled } else none
  | .marshalled, .input .jsonError => some { w with pc := .put }
  | .marshalled, .input .json => some { w with pc := .put }
  | _, _ => none

def bodies (msg : Option Msg) : List Nat := (msg.map (·.body)).toList

def Worker.owned (w : Worker) : List Nat :=
  match w.pc with
  | .start | .select | .exited => []
  | .mirrorRead | .mirrorWrite _ | .mirrorSend => bodies w.msg ++ bodies w.mirror
  | _ => bodies w.msg

/-! ## The mirror -/

inductive DispatcherPC where
  | start
  | recv
  | forward

structure Dispatcher where
  pc : DispatcherPC := .start
  msg : Option Msg := none

def channelOf (ip : IP) : Channel := if ip.to4.isSome then .ch4 else .ch6

/-- `mirrorIPFIXDispatcher`. It returns at once when there is no address to mirror to. -/
def Dispatcher.exec (opts : Opts) (d : Dispatcher) (op : Operation) : Option Dispatcher :=
  match d.pc, op with
  | .start, .store .mirrorEnabled true => if opts.mirrorAddr.isSome then some { d with pc := .recv } else none
  | .recv, .recv .mirror msg => some { d with pc := .forward, msg := some msg }
  | .forward, .send c msg =>
    if d.msg = some msg ∧ c = channelOf msg.raddr then some { d with pc := .recv } else none
  | _, _ => none

def Dispatcher.owned (d : Dispatcher) : List Nat :=
  match d.pc with
  | .forward => bodies d.msg
  | _ => []

inductive MirrorPC where
  | start
  | recv
  | read
  | put
  | send
  | returned

structure Mirror where
  pc : MirrorPC := .start
  msg : Option Msg := none

/-- `mirrorIPFIX`. What it does to its own packet is left out. -/
def Mirror.exec (opts : Opts) (m : Mirror) (op : Operation) : Option Mirror :=
  match m.pc, op with
  | .start, .input .noConn => some { m with pc := .returned }
  | .start, .input .conn => some { m with pc := .recv }
  | .recv, .recv c msg =>
    if opts.mirrorAddr.map channelOf = some c then some { m with pc := .read, msg := some msg } else none
  | .read, .read b data => if HasSlice m.msg b data.length then some { m with pc := .put } else none
  | .put, .put b => if HasBody m.msg b then some { m with pc := .send } else none
  | .send, .input .sent => some { m with pc := .recv }
  | .send, .input .sendError => some { m with pc := .returned }
  | _, _ => none

def Mirror.owned (m : Mirror) : List Nat :=
  match m.pc with
  | .read | .put => bodies m.msg
  | _ => []

/-! ## The collector -/

/-- The goroutines of the collector, with any number of workers and mirror goroutines. -/
inductive Goroutine (W V : Type) where
  | run
  | shutdown
  | worker (w : W)
  | dispatcher
  | mirror (v : V)
  deriving DecidableEq

inductive Local where
  | run (r : Run)
  | shutdown (rest : List Statement)
  | worker (w : Worker)
  | dispatcher (d : Dispatcher)
  | mirror (m : Mirror)

def code (opts : Opts) : Code Channel Flag Msg Input Local where
  exec
    | .run r, op => (r.exec opts op).map .run
    | .shutdown rest, op => (execShutdown rest op).map .shutdown
    | .worker w, op => (w.exec opts op).map .worker
    | .dispatcher d, op => (d.exec opts op).map .dispatcher
    | .mirror m, op => (m.exec opts op).map .mirror
  body := UDPMsg.body
  owned
    | .run r => r.owned
    | .shutdown _ => []
    | .worker w => w.owned
    | .dispatcher d => d.owned
    | .mirror m => m.owned

/-! ## The code is linear -/

variable {opts : Opts} {op : Operation}

theorem bodies_of_hasBody {msg : Option Msg} {b : Nat} (h : HasBody msg b) : bodies msg = [b] := by
  obtain ⟨m, rfl, rfl⟩ := h
  rfl

theorem mem_bodies_of_hasSlice {msg : Option Msg} {b len : Nat} (h : HasSlice msg b len) : b ∈ bodies msg := by
  obtain ⟨m, rfl, rfl, -⟩ := h
  exact List.mem_singleton_self _

theorem Run.permits {r r' : Run} (h : r.exec opts op = some r') : op.Permits UDPMsg.body r.owned r'.owned := by
  unfold Run.exec at h
  split at h
  · cases h
    exact Op.permits_of_nil rfl rfl rfl (List.Subperm.refl _)
  · cases h
    exact Op.permits_of_nil rfl rfl rfl (List.Subperm.refl _)
  · cases h
    exact Op.permits_acquire rfl rfl rfl (List.Subperm.refl _)
  · cases h
    exact Op.permits_of_nil rfl rfl rfl List.nil_subperm
  · cases h
    exact Op.permits_of_nil rfl rfl rfl (List.Subperm.refl _)
  · split at h
    case isTrue heq =>
      cases h
      exact Op.permits_access rfl rfl rfl (by simp [Run.owned, heq.1])
    case isFalse => cases h
  · split at h
    case isTrue heq =>
      cases h
      subst heq
      exact Op.permits_release rfl rfl rfl (by simp [Run.owned]) (List.Perm.refl _)
    case isFalse => cases h
  · cases h

theorem permits_execShutdown {rest rest' : List Statement} (h : execShutdown rest op = some rest') :
    op.Permits UDPMsg.body [] [] := by
  unfold execShutdown at h
  split at h <;> first | exact Op.permits_of_nil rfl rfl rfl (List.Subperm.refl _) | cases h

theorem Worker.permits {w w' : Worker} (h : w.exec opts op = some w') (hnodup : w.owned.Nodup) :
    op.Permits UDPMsg.body w.owned w'.owned := by
  obtain ⟨pc, msg, mirror⟩ := w
  simp only [Worker.exec] at h
  split at h
  case h_1 b =>
    cases h
    exact Op.permits_acquire rfl rfl rfl (List.Subperm.refl _)
  case h_2 b =>
    -- `Put` at the top of the loop
    split at h
    case isTrue hb =>
      cases h
      exact Op.permits_release rfl rfl rfl hnodup (by simp [Worker.owned, bodies_of_hasBody hb])
    case isFalse => cases h
  case h_4 m =>
    cases h
    exact Op.permits_acquire rfl rfl rfl (List.Subperm.refl _)
  case h_8 b =>
    cases h
    refine Op.permits_acquire (b := b) rfl rfl rfl ?_
    cases msg with
    | none => exact List.nil_subperm
    | some m => exact (List.Perm.swap b m.body []).subperm
  case h_9 b data =>
    split at h
    case isTrue hb =>
      cases h
      exact Op.permits_access rfl rfl rfl (List.mem_append_left _ (mem_bodies_of_hasSlice hb))
    case isFalse => cases h
  case h_10 data b data' =>
    split at h
    case isTrue hb =>
      cases h
      obtain ⟨m, rfl, rfl⟩ := hb.1
      exact Op.permits_access rfl rfl rfl (by simp [Worker.owned, bodies])
    case isFalse => cases h
  case h_11 m =>
    split at h
    case isTrue hb =>
      cases h
      subst hb
      exact Op.permits_release rfl rfl rfl hnodup List.perm_append_comm
    case isFalse => cases h
  case h_12 =>
    -- the message is dropped, and its buffer with it
    cases h
    exact Op.permits_of_nil rfl rfl rfl (List.sublist_append_left _ _).subperm
  case h_13 b data =>
    split at h
    case isTrue hb =>
      cases h
      exact Op.permits_access rfl rfl rfl (mem_bodies_of_hasSlice hb)
    case isFalse => cases h
  case h_17 b data =>
    split at h
    case isTrue hb =>
      cases h
      exact Op.permits_access rfl rfl rfl (mem_bodies_of_hasSlice hb)
    case isFalse => cases h
  case h_20 => cases h
  all_goals
    cases h
    exact Op.permits_of_nil rfl rfl rfl (List.Subperm.refl _)

theorem Dispatcher.permits {d d' : Dispatcher} (h : d.exec opts op = some d') (hnodup : d.owned.Nodup) :
    op.Permits UDPMsg.body d.owned d'.owned := by
  obtain ⟨pc, msg⟩ := d
  simp only [Dispatcher.exec] at h
  split at h
  case h_1 =>
    split at h
    · cases h
      exact Op.permits_of_nil rfl rfl rfl (List.Subperm.refl _)
    · cases h
  case h_2 m =>
    cases h
    exact Op.permits_acquire rfl rfl rfl (List.Subperm.refl _)
  case h_3 c m =>
    split at h
    case isTrue hmsg =>
      cases h
      obtain ⟨rfl, -⟩ := hmsg
      exact Op.permits_release rfl rfl rfl hnodup (List.Perm.refl _)
    case isFalse => cases h
  case h_4 => cases h

theorem Mirror.permits {m m' : Mirror} (h : m.exec opts op = some m') (hnodup : m.owned.Nodup) :
    op.Permits UDPMsg.body m.owned m'.owned := by
  obtain ⟨pc, msg⟩ := m
  simp only [Mirror.exec] at h
  split at h
  case h_3 c msg' =>
    split at h
    · cases h
      exact Op.permits_acquire rfl rfl rfl (List.Subperm.refl _)
    · cases h
  case h_4 b data =>
    split at h
    case isTrue hb =>
      cases h
      exact Op.permits_access rfl rfl rfl (mem_bodies_of_hasSlice hb)
    case isFalse => cases h
  case h_5 b =>
    split at h
    case isTrue hb =>
      cases h
      exact Op.permits_release rfl rfl rfl hnodup (by simp [Mirror.owned, bodies_of_hasBody hb])
    case isFalse => cases h
  case h_8 => cases h
  all_goals
    cases h
    exact Op.permits_of_nil rfl rfl rfl (List.Subperm.refl _)

theorem code_linear : (code opts).Linear := by
  intro l op l' h hnodup
  cases l with
  | run r =>
    obtain ⟨r', hr, rfl⟩ := Option.map_eq_some_iff.mp h
    exact Run.permits hr
  | shutdown rest =>
    obtain ⟨rest', hrest, rfl⟩ := Option.map_eq_some_iff.mp h
    exact permits_execShutdown hrest
  | worker w =>
    obtain ⟨w', hw, rfl⟩ := Option.map_eq_some_iff.mp h
    exact Worker.permits hw hnodup
  | dispatcher d =>
    obtain ⟨d', hd, rfl⟩ := Option.map_eq_some_iff.mp h
    exact Dispatcher.permits hd hnodup
  | mirror m =>
    obtain ⟨m', hm, rfl⟩ := Option.map_eq_some_iff.mp h
    exact Mirror.permits hm hnodup

/-! ## One owner -/

abbrev State (W V : Type) := World Channel Flag Msg (Goroutine W V) Local

abbrev Act (W V : Type) := Action Channel Flag Msg Input (Goroutine W V)

def start (W V : Type) (opts : Opts) : State W V where
  shared :=
    { pool := [], next := 0, chans := fun _ => .make Msg 1000, flags := fun _ => false
      heap := fun _ => List.replicate opts.udpSize 0 }
  locals
    | .run => .run .test
    | .shutdown => .shutdown (shutdown true)
    | .worker _ => .worker {}
    | .dispatcher => .dispatcher {}
    | .mirror _ => .mirror {}

theorem exclusive_start (W V : Type) (opts : Opts) :
    Exclusive ((start W V opts).places (code opts)) (start W V opts).shared.next := by
  have hnone : ∀ p, (start W V opts).places (code opts) p = [] := by
    intro p
    cases p with
    | pool | channel c => rfl
    | held g => cases g <;> rfl
  refine ⟨fun p => ?_, fun p q b hp => ?_, fun p b hp => ?_⟩
  · rw [hnone]
    exact List.nodup_nil
  · rw [hnone] at hp
    cases hp
  · rw [hnone] at hp
    cases hp

/-- **Buffers have one owner.** In every interleaving of the receive loop, `shutdown`, the workers, the dispatcher and
the mirror goroutines, a buffer is not put into the pool twice without a `Get` in between, and a goroutine that has
put a buffer into the pool or sent it does not read or write it before it has got it again. -/
theorem buffers_one_owner {W V : Type} [DecidableEq W] [DecidableEq V] (opts : Opts)
    {as : List (Act W V)} {w : State W V}
    (h : Runs (Step (code opts)) (start W V opts) as w) :
    (∀ xs ys zs g g' b, as = xs ++ .run g (.put b) :: (ys ++ .run g' (.put b) :: zs) →
      ∃ g'', .run g'' (.get b) ∈ ys) ∧
    (∀ xs ys zs g op op' b, as = xs ++ .run g op :: (ys ++ .run g op' :: zs) →
      b ∈ op.releases UDPMsg.body → b ∈ op'.accesses →
      ∃ op'', .run g op'' ∈ ys ∧ b ∈ op''.acquires UDPMsg.body) := by
  constructor
  · rintro xs ys zs g g' b rfl
    exact get_between_puts code_linear (exclusive_start W V opts) h
  · rintro xs ys zs g op op' b rfl hb hb'
    exact acquired_before_use code_linear (exclusive_start W V opts) h hb (Or.inl hb')

/-- A worker starts with the buffer 0, which the loop then uses for a datagram. -/
def firstDatagram : List (Act Unit Unit) :=
  [.run .dispatcher (.store .mirrorEnabled true), .run (.worker ()) (.get 0)]

def betweenPuts : List (Act Unit Unit) :=
  [.run .run (.load .stop false), .run .run (.get 0), .run .run (.input (.datagram [192, 0, 2, 1] [0, 10])),
    .run .run (.write 0 [0, 10]), .run .run (.send .udp ⟨[192, 0, 2, 1], 0, 2⟩),
    .run (.worker ()) (.recv .udp ⟨[192, 0, 2, 1], 0, 2⟩), .run (.worker ()) (.load .mirrorEnabled true),
    .run (.worker ()) (.get 1), .run (.worker ()) (.read 0 [0, 10]), .run (.worker ()) (.write 1 [0, 10]),
    .run (.worker ()) (.send .mirror ⟨[192, 0, 2, 1], 1, 2⟩), .run (.worker ()) (.read 0 [0, 10]),
    .run (.worker ()) (.input .noMessage)]

/-- The datagram has no header: the worker puts its buffer back, and the mirror the copy. -/
def afterPuts : List (Act Unit Unit) :=
  [.run .dispatcher (.recv .mirror ⟨[192, 0, 2, 1], 1, 2⟩), .run .dispatcher (.send .ch4 ⟨[192, 0, 2, 1], 1, 2⟩),
    .run (.mirror ()) (.input .conn), .run (.mirror ()) (.recv .ch4 ⟨[192, 0, 2, 1], 1, 2⟩),
    .run (.mirror ()) (.read 1 [0, 10]), .run (.mirror ()) (.put 1)]

theorem buffers_one_owner_mirrored :
    ∃ w, Runs (Step (code ⟨4, some [198, 51, 100, 1]⟩)) (start Unit Unit ⟨4, some [198, 51, 100, 1]⟩)
        (firstDatagram ++ .run (.worker ()) (.put 0) :: (betweenPuts ++ .run (.worker ()) (.put 0) :: afterPuts)) w ∧
      w.shared.pool = [1, 0] ∧ ∃ g, .run g (.get 0) ∈ betweenPuts := by
  obtain ⟨w, hw, hpool⟩ : ∃ w, (firstDatagram ++ .run (.worker ()) (.put 0) ::
      (betweenPuts ++ .run (.worker ()) (.put 0) :: afterPuts)).foldlM (step (code ⟨4, some [198, 51, 100, 1]⟩))
      (start Unit Unit ⟨4, some [198, 51, 100, 1]⟩) = some w ∧ w.shared.pool = [1, 0] := ⟨_, rfl, rfl⟩
  have hrun := (Runs.foldlM_iff fun _ _ _ => step_eq_some).mp hw
  exact ⟨w, hrun, hpool, (buffers_one_owner _ hrun).1 _ _ _ _ _ _ rfl⟩

end VFlow.Daemon.IPFIX
