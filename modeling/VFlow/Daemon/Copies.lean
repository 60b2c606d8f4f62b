import VFlow.Daemon.Texts

/-!
# Every mirrored packet is a copy of one datagram

A worker copies a datagram into a second buffer, and the copy goes over two channels to a goroutine that sends it on.
The ledger for this way has the number of a datagram with its buffer until it is copied, then with the buffer of the
copy, and then with the mirror goroutine, until the packet is sent. So what is sent has the bytes and the exporter of
a datagram, and no datagram is sent twice (`mirrored_of_runs`).
-/

namespace VFlow.Daemon.Pipeline

open Goroutines IPFIX

variable {svc : Service} {W V : Type}

/-- The datagram that a worker has still to copy, or the copy that it has still to send. -/
def copying (x : Worker) : List Msg :=
  match x.pc with
  | .ifMirror | .mirrorGet | .mirrorRead | .mirrorWrite _ => x.msg.toList
  | .mirrorSend => x.mirror.toList
  | _ => []

theorem body_of_copying {x : Worker} {m : Msg} (hm : m ∈ copying x) : m.body ∈ x.owned := by
  obtain ⟨pc, msg, mirror⟩ := x
  cases pc <;> first
    | cases hm
    | (rw [copying, Option.mem_toList] at hm
       simp only at hm
       simp [Worker.owned, bodies, hm])

/-- The datagrams and the copies that are not sent yet. -/
def unsent (opts : Opts) : Places opts where
  carried
    | .run (.send msg) => [msg]
    | .worker x => copying x
    | .dispatcher { pc := .forward, msg } => msg.toList
    | .mirror { pc := .read, msg } => msg.toList
    | _ => []
  inChan _ := True
  owned l m hm := by
    cases l with
    | run r =>
      cases r with
      | send msg =>
        rw [List.mem_singleton.mp hm]
        exact List.mem_singleton_self _
      | _ => cases hm
    | worker x => exact body_of_copying hm
    | dispatcher d =>
      obtain ⟨pc, msg⟩ := d
      cases pc with
      | forward =>
        have hmsg : m ∈ msg.toList := hm
        rw [Option.mem_toList] at hmsg
        simp [code, Dispatcher.owned, bodies, hmsg]
      | _ => cases hm
    | mirror d =>
      obtain ⟨pc, msg⟩ := d
      cases pc with
      | read =>
        have hmsg : m ∈ msg.toList := hm
        rw [Option.mem_toList] at hmsg
        simp [code, Mirror.owned, bodies, hmsg]
      | _ => cases hm
    | shutdown rest => cases hm

/-- What a worker that is copying has: a second buffer for a message from the same exporter, and the bytes that it has
read. -/
structure Copies (tok : Nat ⊕ V → Option Nat) (items : List Datagram) (x : Worker) : Prop where
  raddr : x.pc = .mirrorRead ∨ (∃ data, x.pc = .mirrorWrite data) →
    x.mirror.map UDPMsg.raddr = x.msg.map UDPMsg.raddr
  data : ∀ data msg, x.pc = .mirrorWrite data → x.msg = some msg →
    ∃ k, tok (.inl msg.body) = some k ∧ items[k]? = some (msg.raddr, data)

def Packed (pc : MirrorPC) : Prop := pc = .put ∨ pc = .send

structure CopyInv (opts : Opts) (s : State svc W V) (tok : Nat ⊕ V → Option Nat) (used : List Nat) : Prop where
  accounts : Accounts (unsent opts) tok used s.received s.world
  copies : ∀ i x, s.world.locals (.worker i) = .worker x → Copies tok s.received x
  packets : ∀ v m, s.world.locals (.mirror v) = .mirror m → Packed m.pc →
    ∃ k d, s.packets v = some d ∧ tok (.inr v) = some k ∧ s.received[k]? = some d
  order : s.mirrored = used.filterMap fun k => s.received[k]?

section inv

variable [DecidableEq W] [DecidableEq V] {opts : Opts} {s s' t : State svc W V} {tok tok' : Nat ⊕ V → Option Nat}
  {used : List Nat} {g : Goroutine W V} {op : Operation} {l : Local} {now : Int}
  {shared : Shared Channel Flag Msg} {e : Event svc.Mem W V}

omit [DecidableEq W] [DecidableEq V] in
theorem Copies.congr {items items' : List Datagram} {x : Worker} (h : Copies tok items x) (hitems : items <+: items')
    (htok : ∀ b ∈ x.owned, tok' (.inl b) = tok (.inl b)) : Copies tok' items' x := by
  refine ⟨h.raddr, fun data msg hpc hmsg => ?_⟩
  obtain ⟨k, hk, hitem⟩ := h.data data msg hpc hmsg
  refine ⟨k, (htok _ ?_).trans hk, ?_⟩
  · simp [Worker.owned, hpc, bodies, hmsg]
  · obtain ⟨rest, rfl⟩ := hitems
    rw [List.getElem?_append_left (List.getElem?_eq_some_iff.mp hitem).1, hitem]

/-- What the invariant says of the state besides the goroutines is the same. -/
structure SameCopies (s s' : State svc W V) : Prop where
  received : s'.received = s.received
  packets : s'.packets = s.packets
  mirrored : s'.mirrored = s.mirrored

/-- A step of a goroutine other than the mirror ones. The numbers may change for its buffers. -/
theorem CopyInv.step (h : CopyInv opts s tok used) (hsame : SameCopies s s')
    (hexec : (code opts).exec (s.world.locals g) op = some l) (happly : s.world.shared.apply op = some shared)
    (hledger : Ledger tok' used s.received.length)
    (htok : ∀ b, b ∉ (code opts).owned (s.world.locals g) → tok' (.inl b) = tok (.inl b))
    (htok' : ∀ v, tok' (.inr v) = tok (.inr v))
    (hlocal : ∀ m ∈ (unsent opts).carried l, Carries tok' s.received shared.heap m)
    (hsend : ∀ c m, op = .send c m → Carries tok' s.received shared.heap m)
    (hfill : ∀ b raddr data, l ≠ .run (.fill b raddr data))
    (hcopies : ∀ x, l = .worker x → Copies tok' s.received x)
    (hmirror : ∀ v m, g = .mirror v → l = .mirror m → Packed m.pc →
      ∃ m₀, s.world.locals g = .mirror m₀ ∧ Packed m₀.pc) :
    CopyInv opts { s' with world := s.world.after g shared l } tok' used := by
  obtain ⟨hreceived, hpackets, hmirrored⟩ := hsame
  refine ⟨?_, fun i x hx => ?_, fun v m hm hpc => ?_, ?_⟩
  · rw [hreceived]
    exact h.accounts.step hexec happly hledger htok hlocal (fun c m _ => hsend c m) hfill
  · rw [hreceived]
    by_cases hg : g = .worker i
    · subst hg
      simp only [Function.update_self] at hx
      exact hcopies x hx
    · simp only [Function.update_of_ne (Ne.symm hg)] at hx
      refine (h.copies i x hx).congr (List.prefix_refl _) fun b hb => htok b fun hmine => hg ?_
      have howned : b ∈ s.world.places (code opts) (.held (.worker i)) := by
        rw [World.places, hx]
        exact hb
      exact Place.held.inj (h.accounts.exclusive.unique (.held g) _ b hmine howned)
  · rw [hreceived, hpackets, htok']
    by_cases hg : g = .mirror v
    · subst hg
      simp only [Function.update_self] at hm
      obtain ⟨m₀, hm₀, hpc₀⟩ := hmirror v m rfl hm hpc
      exact h.packets v m₀ hm₀ hpc₀
    · simp only [Function.update_of_ne (Ne.symm hg)] at hm
      exact h.packets v m hm hpc
  · rw [hmirrored, hreceived]
    exact h.order

theorem CopyInv.moves (h : CopyInv opts s tok used) (hsame : SameCopies s s')
    (hexec : (code opts).exec (s.world.locals g) op = some l) (happly : s.world.shared.apply op = some shared)
    (hlocal : ∀ m ∈ (unsent opts).carried l, Carries tok s.received shared.heap m)
    (hsend : ∀ c m, op = .send c m → m ∈ (unsent opts).carried (s.world.locals g))
    (hfill : ∀ b raddr data, l ≠ .run (.fill b raddr data))
    (hcopies : ∀ x, l = .worker x → Copies tok s.received x)
    (hmirror : ∀ v m, g = .mirror v → l = .mirror m → Packed m.pc →
      ∃ m₀, s.world.locals g = .mirror m₀ ∧ Packed m₀.pc) :
    CopyInv opts { s' with world := s.world.after g shared l } tok used := by
  refine h.step hsame hexec happly h.accounts.ledger (fun _ _ => rfl) (fun _ => rfl) hlocal (fun c m hop => ?_) hfill
    hcopies hmirror
  refine h.accounts.kept.still (hsend c m hop) happly (fun d hw => ?_) rfl (List.prefix_refl _)
  rw [hop] at hw
  cases hw

theorem CopyInv.receives (h : CopyInv opts s tok used) {b : Nat} {raddr : IP} {data : List UInt8}
    (hr : s.world.locals .run = .run (.read b))
    (hexec : (code opts).exec (s.world.locals .run) op = some (.run (.fill b raddr data)))
    (happly : s.world.shared.apply op = some shared) (hop : ∀ c m, op ≠ .send c m) :
    CopyInv opts { s with received := s.received ++ [(raddr, data)]
                          world := s.world.after .run shared (.run (.fill b raddr data)) }
      (Function.update tok (.inl b) (some s.received.length)) used := by
  refine ⟨h.accounts.receives hr hexec happly hop rfl, fun i x hx => ?_, fun v m hm hpc => ?_, ?_⟩
  · simp only [Function.update_of_ne (show Goroutine.worker i ≠ (.run : Goroutine W V) by simp)] at hx
    refine (h.copies i x hx).congr (List.prefix_append _ _) fun b' hb' => Function.update_of_ne ?_ _ _
    -- the buffer of the loop is not one of the worker
    intro heq
    have hrun : b ∈ s.world.places (code opts) (.held .run) := by simp [World.places, hr, code, Run.owned]
    have hworker : b ∈ s.world.places (code opts) (.held (.worker i)) := by
      rw [World.places, hx, ← Sum.inl.inj heq]
      exact hb'
    cases h.accounts.exclusive.unique _ _ _ hrun hworker
  · simp only [Function.update_of_ne (show Goroutine.mirror v ≠ (.run : Goroutine W V) by simp)] at hm
    obtain ⟨k, d, hpacket, hk, hd⟩ := h.packets v m hm hpc
    refine ⟨k, d, hpacket, by rw [Function.update_of_ne (by simp), hk], ?_⟩
    rw [List.getElem?_append_left (List.getElem?_eq_some_iff.mp hd).1, hd]
  · rw [h.order]
    refine List.filterMap_congr fun k hk => ?_
    rw [List.getElem?_append_left (h.accounts.ledger.used_lt k hk)]

theorem CopyInv.run (h : CopyInv opts s tok used) {r r' : Run} (hr : s.world.locals .run = .run r)
    (hexec : r.exec opts op = some r') (happly : s.world.shared.apply op = some shared)
    (heff : effect opts s now (.run .run op) = some s') :
    ∃ tok', CopyInv opts { s' with world := s.world.after .run shared (.run r') } tok' used := by
  have hcode : (code opts).exec (s.world.locals .run) op = some (.run r') := by
    rw [hr]
    exact congrArg (Option.map Local.run) hexec
  unfold Run.exec at hexec
  split at hexec
  case h_5 b raddr data =>
    cases hexec
    cases heff
    exact ⟨_, h.receives hr hcode happly (by simp)⟩
  case h_6 b raddr data b' data' =>
    split at hexec
    case isTrue heq =>
      obtain ⟨rfl, rfl⟩ := heq
      cases hexec
      cases heff
      refine ⟨tok, h.moves ⟨rfl, rfl, rfl⟩ hcode happly (fun m hm => ?_) (by simp) (by simp) (by simp) (by simp)⟩
      rw [List.mem_singleton.mp hm]
      exact h.accounts.filled hr happly
    case isFalse => cases hexec
  case h_7 msg msg' =>
    split at hexec
    case isTrue heq =>
      subst heq
      cases hexec
      cases heff
      refine ⟨tok, h.moves ⟨rfl, rfl, rfl⟩ hcode happly (fun m hm => absurd hm List.not_mem_nil) ?_ (by simp) (by simp)
        (by simp)⟩
      intro c m hm
      cases hm
      rw [hr]
      exact List.mem_singleton_self _
    case isFalse => cases hexec
  case h_8 => cases hexec
  all_goals
    cases hexec
    cases heff
    exact ⟨tok, h.moves ⟨rfl, rfl, rfl⟩ hcode happly (fun m hm => absurd hm List.not_mem_nil) (by simp) (by simp)
      (by simp) (by simp)⟩

theorem same_of_worker {i : W} (heff : effect opts s now (.run (.worker i) op) = some s') : SameCopies s s' := by
  cases op with
  | read b data =>
    simp only [effect] at heff
    split at heff <;> cases heff <;> exact ⟨rfl, rfl, rfl⟩
  | input x =>
    cases x with
    | noMessage | noDataSets | jsonError =>
      simp only [effect] at heff
      split at heff <;> cases heff
      exact ⟨rfl, rfl, rfl⟩
    | dataSets | json =>
      simp only [effect] at heff
      split at heff <;> cases heff
      cases hc : svc.collector <;> exact ⟨rfl, rfl, rfl⟩
    | _ =>
      cases heff
      exact ⟨rfl, rfl, rfl⟩
  | _ =>
    cases heff
    exact ⟨rfl, rfl, rfl⟩

theorem CopyInv.keeps (h : CopyInv opts s tok used) {i : W} {x x' : Worker} (hsame : SameCopies s s')
    (hx : s.world.locals (.worker i) = .worker x)
    (hcode : (code opts).exec (s.world.locals (.worker i)) op = some (.worker x'))
    (happly : s.world.shared.apply op = some shared) (hcopying : ∀ m ∈ copying x', m ∈ copying x)
    (hcopies : Copies tok s.received x') (hsend : ∀ c m, op = .send c m → m ∈ copying x)
    (hwrite : ∀ b d, op ≠ .write b d) :
    CopyInv opts { s' with world := s.world.after (.worker i) shared (.worker x') } tok used := by
  refine h.moves hsame hcode happly (fun m hm => ?_) (fun c m hop => ?_) (by simp) (fun y hy => ?_) (by simp)
  · refine h.accounts.kept.still (g := .worker i) (m := m) ?_ happly (hwrite m.body) rfl (List.prefix_refl _)
    rw [hx]
    exact hcopying m hm
  · rw [hx]
    exact hsend c m hop
  · cases hy
    exact hcopies

theorem CopyInv.copies_write (h : CopyInv opts s tok used) {i : W} {msg mir : Msg} {data : List UInt8} {x' : Worker}
    (hsame : SameCopies s s')
    (hx : s.world.locals (.worker i) = .worker { pc := .mirrorWrite data, msg := some msg, mirror := some mir })
    (hx' : x' = { pc := .mirrorSend, msg := some msg, mirror := some { mir with len := data.length } })
    (hcode : (code opts).exec (s.world.locals (.worker i)) (.write mir.body data) = some (.worker x'))
    (happly : s.world.shared.apply (.write mir.body data : Operation) = some shared) :
    ∃ tok', CopyInv opts { s' with world := s.world.after (.worker i) shared (.worker x') } tok' used := by
  subst hx'
  obtain ⟨k, hk, hitem⟩ := (h.copies i _ hx).data data msg rfl rfl
  have hraddr : mir.raddr = msg.raddr := by
    simpa using (h.copies i _ hx).raddr (Or.inr ⟨data, rfl⟩)
  refine ⟨_, h.step hsame hcode happly (h.accounts.ledger.pass hk (.inl mir.body)) (fun b hb => ?_) (fun v => ?_)
    (fun m hm => ?_) (by simp) (by simp) (fun y hy => ?_) (by simp)⟩
  · rw [hx] at hb
    simp only [code, Worker.owned, bodies, Option.map_some, Option.toList_some, List.singleton_append, List.mem_cons,
      List.not_mem_nil, or_false, not_or] at hb
    rw [Function.update_of_ne (by simpa using hb.2), Function.update_of_ne (by simpa using hb.1)]
  · rw [Function.update_of_ne (by simp), Function.update_of_ne (by simp)]
  · rw [show m = { mir with len := data.length } from List.mem_singleton.mp hm]
    refine ⟨k, Function.update_self _ _ _, ?_⟩
    cases happly
    simp [hraddr, hitem]
  · cases hy
    exact ⟨by simp, by simp⟩

theorem CopyInv.worker (h : CopyInv opts s tok used) {i : W} {x x' : Worker}
    (hx : s.world.locals (.worker i) = .worker x) (hexec : x.exec opts op = some x')
    (happly : s.world.shared.apply op = some shared)
    (heff : effect opts s now (.run (.worker i) op) = some s') :
    ∃ tok', CopyInv opts { s' with world := s.world.after (.worker i) shared (.worker x') } tok' used := by
  have hcode : (code opts).exec (s.world.locals (.worker i)) op = some (.worker x') := by
    rw [hx]
    exact congrArg (Option.map Local.worker) hexec
  have hsame := same_of_worker heff
  have hcopies := h.copies i x hx
  have hkeep : (∀ m ∈ copying x', m ∈ copying x) → Copies tok s.received x' →
      (∀ c m, op = .send c m → m ∈ copying x) → (∀ b d, op ≠ .write b d) →
      ∃ tok', CopyInv opts { s' with world := s.world.after (.worker i) shared (.worker x') } tok' used :=
    fun hcopying hcopies' hsend hwrite => ⟨tok, h.keeps hsame hx hcode happly hcopying hcopies' hsend hwrite⟩
  obtain ⟨pc, msg, mirror⟩ := x
  simp only [Worker.exec] at hexec
  split at hexec
  case h_2 b =>
    split at hexec <;> cases hexec
    exact hkeep (by simp [copying]) ⟨by simp, by simp⟩ (by simp) (by simp)
  case h_4 m =>
    cases hexec
    refine ⟨tok, h.moves hsame hcode happly (fun m' hm' => ?_) (by simp) (by simp) (fun y hy => ?_) (by simp)⟩
    · rw [List.mem_singleton.mp hm']
      cases applies_of_apply happly with
      | recv hrecv => exact h.accounts.kept.inChan .udp trivial m (by simp [(Chan.recv_eq_value.mp hrecv).1])
      | observe hop => cases hop
    · cases hy
      exact ⟨by simp, by simp⟩
  case h_8 b =>
    cases hexec
    refine hkeep (by simp [copying]) ⟨fun _ => ?_, by simp⟩ (by simp) (by simp)
    cases msg <;> rfl
  case h_9 b data =>
    split at hexec
    case isTrue hslice =>
      obtain ⟨m, rfl, rfl, hlen⟩ := hslice
      cases hexec
      refine hkeep (by simp [copying]) ⟨fun _ => hcopies.raddr (Or.inl rfl), fun data' msg' hpc hmsg => ?_⟩ (by simp)
        (by simp)
      cases hpc
      cases hmsg
      refine h.accounts.read (g := .worker i) ?_ hlen.symm happly
      rw [hx]
      exact List.mem_singleton_self _
    case isFalse => cases hexec
  case h_10 data b data' =>
    split at hexec
    case isTrue heq =>
      obtain ⟨⟨mir, rfl, rfl⟩, rfl⟩ := heq
      cases hexec
      cases msg with
      | none => simpa using hcopies.raddr (Or.inr ⟨_, rfl⟩)
      | some msg => exact h.copies_write hsame hx rfl hcode happly
    case isFalse => cases hexec
  case h_11 m =>
    split at hexec
    case isTrue heq =>
      subst heq
      cases hexec
      refine hkeep (by simp [copying]) ⟨by simp, by simp⟩ (fun c m' hop => ?_) (by simp)
      cases hop
      exact List.mem_singleton_self _
    case isFalse => cases hexec
  case h_13 b data =>
    split at hexec <;> cases hexec
    exact hkeep (by simp [copying]) ⟨by simp, by simp⟩ (by simp) (by simp)
  case h_17 b data =>
    split at hexec <;> cases hexec
    exact hkeep (by simp [copying]) ⟨by simp, by simp⟩ (by simp) (by simp)
  case h_20 => cases hexec
  all_goals
    cases hexec
    exact hkeep (by simp [copying]) ⟨by simp, by simp⟩ (by simp) (by simp)

theorem CopyInv.dispatcher (h : CopyInv opts s tok used) {d d' : Dispatcher}
    (hd : s.world.locals .dispatcher = .dispatcher d) (hexec : d.exec opts op = some d')
    (happly : s.world.shared.apply op = some shared) (heff : effect opts s now (.run .dispatcher op) = some s') :
    CopyInv opts { s' with world := s.world.after .dispatcher shared (.dispatcher d') } tok used := by
  have hcode : (code opts).exec (s.world.locals .dispatcher) op = some (.dispatcher d') := by
    rw [hd]
    exact congrArg (Option.map Local.dispatcher) hexec
  rw [effect_dispatcher heff]
  obtain ⟨pc, msg⟩ := d
  simp only [Dispatcher.exec] at hexec
  split at hexec
  case h_1 =>
    split at hexec <;> cases hexec
    exact h.moves ⟨rfl, rfl, rfl⟩ hcode happly (fun m hm => absurd hm List.not_mem_nil) (by simp) (by simp) (by simp)
      (by simp)
  case h_2 m =>
    cases hexec
    refine h.moves ⟨rfl, rfl, rfl⟩ hcode happly (fun m' hm' => ?_) (by simp) (by simp) (by simp) (by simp)
    rw [List.mem_singleton.mp hm']
    cases applies_of_apply happly with
    | recv hrecv => exact h.accounts.kept.inChan .mirror trivial m (by simp [(Chan.recv_eq_value.mp hrecv).1])
    | observe hop => cases hop
  case h_3 c m =>
    split at hexec
    case isTrue heq =>
      cases hexec
      refine h.moves ⟨rfl, rfl, rfl⟩ hcode happly (fun m hm => absurd hm List.not_mem_nil) (fun c' m' hop => ?_)
        (by simp) (by simp) (by simp)
      cases hop
      rw [hd, heq.1]
      exact List.mem_singleton_self _
    case isFalse => cases hexec
  case h_4 => cases hexec

theorem CopyInv.packs (h : CopyInv opts s tok used) {v : V} {msg : Msg} {data : List UInt8} {m' : Mirror}
    (hm : s.world.locals (.mirror v) = .mirror { pc := .read, msg := some msg }) (hlen : data.length = msg.len)
    (hm' : m' = { pc := .put, msg := some msg })
    (hcode : (code opts).exec (s.world.locals (.mirror v)) (.read msg.body data) = some (.mirror m'))
    (happly : s.world.shared.apply (.read msg.body data : Operation) = some shared) :
    ∃ tok', CopyInv opts { s with packets := Function.update s.packets v (some (msg.raddr, data))
                                  world := s.world.after (.mirror v) shared (.mirror m') } tok' used := by
  subst hm'
  have hmem : msg ∈ (unsent opts).carried (s.world.locals (.mirror v)) := by
    rw [hm]
    exact List.mem_singleton_self _
  obtain ⟨k, hk, hitem⟩ := h.accounts.read hmem hlen happly
  have htok : ∀ b, b ∉ (code opts).owned (s.world.locals (.mirror v)) →
      Function.update (Function.update tok (.inl msg.body) none) (.inr v) (some k) (.inl b) = tok (.inl b) := by
    intro b hb
    have hne : b ≠ msg.body := by
      rintro rfl
      exact hb ((unsent opts).owned _ msg hmem)
    rw [Function.update_of_ne (by simp), Function.update_of_ne (by simpa using hne)]
  refine ⟨_, h.accounts.step hcode happly (h.accounts.ledger.pass hk (.inr v)) htok
    (fun m hm => absurd hm List.not_mem_nil) (by simp) (by simp), fun i x hx => ?_, fun u m hu hpc => ?_, h.order⟩
  · simp only [Function.update_of_ne (show (.worker i : Goroutine W V) ≠ .mirror v by simp)] at hx
    refine (h.copies i x hx).congr (List.prefix_refl _) fun b hb => htok b fun hmine => ?_
    have hworker : b ∈ s.world.places (code opts) (.held (.worker i)) := by
      rw [World.places, hx]
      exact hb
    cases h.accounts.exclusive.unique (.held (.mirror v)) _ b hmine hworker
  · by_cases huv : u = v
    · subst huv
      exact ⟨k, (msg.raddr, data), Function.update_self _ _ _, Function.update_self _ _ _, hitem⟩
    · simp only [Function.update_of_ne (show (.mirror u : Goroutine W V) ≠ .mirror v by simpa using huv)] at hu
      obtain ⟨k', d, hpacket, hk', hd⟩ := h.packets u m hu hpc
      refine ⟨k', d, by simp only [Function.update_of_ne huv, hpacket], ?_, hd⟩
      rw [Function.update_of_ne (by simpa using huv), Function.update_of_ne (by simp), hk']

theorem CopyInv.sends (h : CopyInv opts s tok used) {v : V} {m m' : Mirror}
    (hm : s.world.locals (.mirror v) = .mirror m) (hpc : Packed m.pc) (hm' : m'.pc = .recv)
    (hcode : (code opts).exec (s.world.locals (.mirror v)) op = some (.mirror m'))
    (happly : s.world.shared.apply op = some shared) (hsend : ∀ c m, op ≠ .send c m) :
    ∃ tok' used', CopyInv opts { s with mirrored := s.mirrored ++ (s.packets v).toList
                                        world := s.world.after (.mirror v) shared (.mirror m') } tok' used' := by
  obtain ⟨k, d, hpacket, hk, hd⟩ := h.packets v m hm hpc
  have hnone : (unsent opts).carried (.mirror m') = [] := by
    obtain ⟨pc, msg⟩ := m'
    rw [show pc = .recv from hm']
    rfl
  have hmoves : CopyInv opts { s with world := s.world.after (.mirror v) shared (.mirror m') } tok used := by
    refine h.moves ⟨rfl, rfl, rfl⟩ hcode happly (fun x hx => ?_) (fun c x hop => absurd hop (hsend c x)) (by simp)
      (by simp) (fun u x hu hx hpc' => ?_)
    · rw [hnone] at hx
      cases hx
    · cases hx
      simp [Packed, hm'] at hpc'
  refine ⟨_, _, hmoves.accounts.spend hk, fun i x hx => ?_, fun u x hx hpc' => ?_, ?_⟩
  · exact (hmoves.copies i x hx).congr (List.prefix_refl _) fun b _ => Function.update_of_ne (by simp) _ _
  · have huv : u ≠ v := by
      rintro rfl
      simp only [Function.update_self] at hx
      cases hx
      simp [Packed, hm'] at hpc'
    obtain ⟨k', d', hpacket', hk', hd'⟩ := hmoves.packets u x hx hpc'
    exact ⟨k', d', hpacket', by rw [Function.update_of_ne (by simpa using huv), hk'], hd'⟩
  · rw [List.filterMap_append, ← h.order, hpacket]
    simp [hd]

theorem CopyInv.mirror (h : CopyInv opts s tok used) {v : V} {m m' : Mirror}
    (hm : s.world.locals (.mirror v) = .mirror m) (hexec : m.exec opts op = some m')
    (happly : s.world.shared.apply op = some shared) (heff : effect opts s now (.run (.mirror v) op) = some s') :
    ∃ tok' used', CopyInv opts { s' with world := s.world.after (.mirror v) shared (.mirror m') } tok' used' := by
  have hcode : (code opts).exec (s.world.locals (.mirror v)) op = some (.mirror m') := by
    rw [hm]
    exact congrArg (Option.map Local.mirror) hexec
  -- a step without a number
  have haside : s' = s → (unsent opts).carried (.mirror m') = [] → (∀ c x, op ≠ .send c x) → ¬ Packed m'.pc →
      ∃ tok' used', CopyInv opts { s' with world := s.world.after (.mirror v) shared (.mirror m') } tok' used' := by
    rintro rfl hnone hsend hpc
    refine ⟨tok, used, h.moves ⟨rfl, rfl, rfl⟩ hcode happly (fun x hx => ?_) (fun c x hop => absurd hop (hsend c x))
      (by simp) (by simp) (fun u x hu hx hpc' => ?_)⟩
    · rw [hnone] at hx
      cases hx
    · cases hx
      exact absurd hpc' hpc
  obtain ⟨pc, msg⟩ := m
  simp only [Mirror.exec] at hexec
  split at hexec
  case h_1 =>
    cases hexec
    cases heff
    exact haside rfl rfl (by simp) (by simp [Packed])
  case h_2 =>
    cases hexec
    cases heff
    exact haside rfl rfl (by simp) (by simp [Packed])
  case h_3 c x =>
    split at hexec <;> cases hexec
    cases heff
    refine ⟨tok, used, h.moves ⟨rfl, rfl, rfl⟩ hcode happly (fun x' hx' => ?_) (by simp) (by simp) (by simp) ?_⟩
    · rw [List.mem_singleton.mp hx']
      cases applies_of_apply happly with
      | recv hrecv => exact h.accounts.kept.inChan c trivial x (by simp [(Chan.recv_eq_value.mp hrecv).1])
      | observe hop => cases hop
    · intro u y hu hy hpc'
      cases hy
      simp [Packed] at hpc'
  case h_4 b data =>
    split at hexec
    case isTrue hslice =>
      obtain ⟨x, rfl, rfl, hlen⟩ := hslice
      cases hexec
      simp only [effect, hm] at heff
      cases heff
      obtain ⟨tok', htok'⟩ := h.packs hm hlen.symm rfl hcode happly
      exact ⟨tok', used, htok'⟩
    case isFalse => cases hexec
  case h_5 b =>
    split at hexec <;> cases hexec
    cases heff
    refine ⟨tok, used, h.moves ⟨rfl, rfl, rfl⟩ hcode happly (fun x hx => absurd hx List.not_mem_nil) (by simp) (by simp)
      (by simp) ?_⟩
    intro u y hu hy hpc'
    exact ⟨_, hm, Or.inl rfl⟩
  case h_6 =>
    cases hexec
    cases heff
    exact h.sends hm (Or.inr rfl) rfl hcode happly (by simp)
  case h_7 =>
    cases hexec
    cases heff
    exact haside rfl rfl (by simp) (by simp [Packed])
  case h_8 => cases hexec

def CopiesTracked (opts : Opts) (s : State svc W V) : Prop := ∃ tok used, CopyInv opts s tok used

theorem CopyInv.daemon (h : CopyInv opts s tok used) (hexec : (code opts).exec (s.world.locals g) op = some l)
    (happly : s.world.shared.apply op = some shared) (heff : effect opts s now (.run g op) = some s') :
    CopiesTracked opts { s' with world := s.world.after g shared l } := by
  have hfits := h.accounts.fits g
  cases hl : s.world.locals g with
  | run r =>
    rw [hl] at hexec hfits
    obtain ⟨r', hr', rfl⟩ := Option.map_eq_some_iff.mp hexec
    cases g with
    | run =>
      obtain ⟨tok', htok'⟩ := h.run hl hr' happly heff
      exact ⟨tok', used, htok'⟩
    | _ => exact hfits.elim
  | worker x =>
    rw [hl] at hexec hfits
    obtain ⟨x', hx', rfl⟩ := Option.map_eq_some_iff.mp hexec
    cases g with
    | worker i =>
      obtain ⟨tok', htok'⟩ := h.worker hl hx' happly heff
      exact ⟨tok', used, htok'⟩
    | _ => exact hfits.elim
  | dispatcher d =>
    rw [hl] at hexec hfits
    obtain ⟨d', hd', rfl⟩ := Option.map_eq_some_iff.mp hexec
    cases g with
    | dispatcher => exact ⟨tok, used, h.dispatcher hl hd' happly heff⟩
    | _ => exact hfits.elim
  | mirror m =>
    rw [hl] at hexec hfits
    obtain ⟨m', hm', rfl⟩ := Option.map_eq_some_iff.mp hexec
    cases g with
    | mirror v => exact h.mirror hl hm' happly heff
    | _ => exact hfits.elim
  | shutdown rest =>
    have hexec' := hexec
    rw [hl] at hexec' hfits
    obtain ⟨rest', hrest', rfl⟩ := Option.map_eq_some_iff.mp hexec'
    cases g with
    | shutdown =>
      rw [effect_shutdown heff]
      refine ⟨tok, used, h.moves ⟨rfl, rfl, rfl⟩ hexec happly (fun m hm => absurd hm List.not_mem_nil) ?_ (by simp)
        (by simp) (by simp)⟩
      rintro c m rfl
      simp [execShutdown] at hrest'
    | _ => exact hfits.elim

theorem CopiesTracked.step (h : CopiesTracked opts s) (hstep : Step opts s e t) : CopiesTracked opts t := by
  obtain ⟨tok, used, h⟩ := h
  by_cases he : ∃ a now, e = .daemon a now
  · obtain ⟨a, now, rfl⟩ := he
    obtain ⟨-, world, s', hworld, heff, rfl⟩ := step_daemon.mp hstep
    cases hworld with
    | run hexec happly => exact h.daemon hexec happly heff
    | drop b =>
      cases heff
      exact ⟨tok, used, h.accounts.drop b, h.copies, h.packets, h.order⟩
  · have haside := aside_of_step hstep fun a now hea => he ⟨a, now, hea⟩
    refine ⟨tok, used, ?_, ?_, ?_, ?_⟩
    · rw [haside.world, haside.received]
      exact h.accounts
    · rw [haside.world, haside.received]
      exact h.copies
    · rw [haside.world, haside.received, haside.packets]
      exact h.packets
    · rw [haside.mirrored, haside.received]
      exact h.order

theorem mirrored_of_runs {mem : svc.Mem} {es : List (Event svc.Mem W V)}
    (h : Runs (Step opts) (start svc W V opts mem) es s) : s.mirrored.Subperm s.received := by
  have htracked : CopiesTracked opts s := by
    refine h.invariant (fun _ _ _ _ hs hstep => hs.step hstep)
      ⟨fun _ => none, [], accounts_start _ mem, fun i x hx => ?_, fun v m hm hpc => ?_, rfl⟩
    · cases hx
      refine ⟨fun hpc => ?_, fun data msg hpc => ?_⟩
      · cases hc : svc.collector <;> simp [Collector.worker, hc] at hpc
      · cases hc : svc.collector <;> simp [Collector.worker, hc] at hpc
    · cases hm
      simp [Packed] at hpc
  obtain ⟨tok, used, hinv⟩ := htracked
  rw [hinv.order]
  exact hinv.accounts.ledger.subperm

end inv

end VFlow.Daemon.Pipeline
