import VFlow.Daemon.Pipeline
import VFlow.Daemon.Refinement

/-!
# Every text is that of one datagram

What the producer publishes are the JSON texts of datagrams that the socket has delivered, and no datagram is
published twice, in all interleavings (`texts_of_runs`). The ledger behind it numbers the datagrams as they come. A
number goes with the buffer of its datagram until a worker decodes it, then with the worker, and it is used up when
the channel of the producer takes the text.

If besides no decoder and no other goroutine changes the memory, each text is that of a decoder alone
(`texts_of_steady`).
-/

namespace VFlow.Daemon.Pipeline

open Goroutines IPFIX

variable {svc : Service} {W V : Type}

def pending (x : Worker) : List Msg :=
  match x.pc with
  | .ifMirror | .mirrorGet | .mirrorRead | .mirrorWrite _ | .mirrorSend | .decode => x.msg.toList
  | _ => []

theorem body_of_pending {x : Worker} {m : Msg} (hm : m ∈ pending x) : m.body ∈ x.owned := by
  obtain ⟨pc, msg, mirror⟩ := x
  cases msg with
  | none => cases pc <;> cases hm
  | some msg =>
    have hmsg : m = msg := by cases pc <;> first | exact List.mem_singleton.mp hm | cases hm
    subst hmsg
    cases pc <;> first | cases hm; done | simp [Worker.owned, bodies]

def undecoded (opts : Opts) : Places opts where
  carried
    | .run (.send msg) => [msg]
    | .worker x => pending x
    | _ => []
  inChan c := c = .udp
  owned l m hm := by
    cases l with
    | run r =>
      cases r with
      | send msg =>
        rw [List.mem_singleton.mp hm]
        exact List.mem_singleton_self _
      | _ => cases hm
    | worker x => exact body_of_pending hm
    | _ => cases hm

def Decoding (pc : WorkerPC) : Prop := pc = .decoded ∨ pc = .marshal ∨ pc = .marshalled

/-- What can be said of the jobs, as long as the memory is fine and the datagrams are good: it holds when a decoder
starts, and each of its steps keeps it. -/
structure Rule (svc : Service) where
  Good : Datagram → Prop
  Known : Datagram → svc.Job → Prop
  Fine : svc.Mem → Prop
  receive : ∀ now {d mem}, Good d → Fine mem → Known d (svc.receive now d.1 mem d.2)
  work : ∀ {d mem job job' mem'}, Fine mem → Known d job → svc.work mem job = some (job', mem') →
    Known d job' ∧ Fine mem'

def Rule.Yields (R : Rule svc) (d : Datagram) (text : List UInt8) : Prop :=
  ∃ job, R.Known d job ∧ svc.verdict job = some (.message (some text))

/-- The events that bring good datagrams, and leave the memory fine. -/
def Rule.Allows (R : Rule svc) (opts : Opts) : Event svc.Mem W V → Prop
  | .daemon (.run .run (.input (.datagram raddr data))) _ => R.Good (raddr, data.take opts.udpSize)
  | .cache mem => R.Fine mem
  | _ => True

/-- The ledger fits the state: the numbers of the jobs are with the workers, and those that are used up are the numbers
of the texts. -/
structure Inv (R : Rule svc) (opts : Opts) (s : State svc W V) (tok : Nat ⊕ W → Option Nat) (used : List Nat)
    (texts : List (List UInt8)) : Prop where
  good : ∀ d ∈ s.received, R.Good d
  fine : R.Fine s.mem
  accounts : Accounts (undecoded opts) tok used s.received s.world
  jobs : ∀ i x, s.world.locals (.worker i) = .worker x → Decoding x.pc →
    ∃ job k d, s.jobs i = some job ∧ tok (.inr i) = some k ∧ s.received[k]? = some d ∧ R.Known d job
  yields : List.Forall₂ (fun k text => ∃ d, s.received[k]? = some d ∧ R.Yields d text) used texts
  order : s.published.map Prod.fst ++ s.producer.toList ++ s.mqCh.buf = texts

/-- What the invariant says of the state besides the goroutines is the same. -/
structure Same (s s' : State svc W V) : Prop where
  received : s'.received = s.received
  mem : s'.mem = s.mem
  jobs : s'.jobs = s.jobs
  published : s'.published = s.published
  producer : s'.producer = s.producer
  mqCh : s'.mqCh = s.mqCh

theorem Same.refl (s : State svc W V) : Same s s := ⟨rfl, rfl, rfl, rfl, rfl, rfl⟩

theorem Same.counted (s : State svc W V) (now : Bool) : Same s (s.counted now) := by
  cases now <;> exact ⟨rfl, rfl, rfl, rfl, rfl, rfl⟩

section inv

variable [DecidableEq W] [DecidableEq V] {opts : Opts} {s s' t : State svc W V} {tok : Nat ⊕ W → Option Nat}
  {used : List Nat} {texts : List (List UInt8)} {R : Rule svc} {g : Goroutine W V} {op : Operation} {l : Local}
  {now : Int} {shared : Shared Channel Flag Msg} {e : Event svc.Mem W V}

theorem Inv.moves (h : Inv R opts s tok used texts) (hsame : Same s s')
    (hexec : (code opts).exec (s.world.locals g) op = some l) (happly : s.world.shared.apply op = some shared)
    (hlocal : ∀ m ∈ (undecoded opts).carried l, Carries tok s.received shared.heap m)
    (hsend : ∀ m, op = .send .udp m → m ∈ (undecoded opts).carried (s.world.locals g))
    (hfill : ∀ b raddr data, l ≠ .run (.fill b raddr data))
    (hjobs : ∀ x', l = .worker x' → Decoding x'.pc → ∃ x, s.world.locals g = .worker x ∧ Decoding x.pc) :
    Inv R opts { s' with world := s.world.after g shared l } tok used texts := by
  obtain ⟨hreceived, hmem, hjobs', hpublished, hproducer, hmqCh⟩ := hsame
  refine ⟨hreceived ▸ h.good, hmem ▸ h.fine, ?_, ?_, ?_, ?_⟩
  · rw [hreceived]
    refine h.accounts.step hexec happly h.accounts.ledger (fun _ _ => rfl) hlocal (fun c m hc hop => ?_) hfill
    rw [show c = .udp from hc] at hop
    refine h.accounts.kept.still (hsend m hop) happly (fun d hw => ?_) rfl (List.prefix_refl _)
    rw [hop] at hw
    cases hw
  · intro i x hx hpc
    rw [hreceived, hjobs']
    by_cases hg : g = .worker i
    · subst hg
      simp only [Function.update_self] at hx
      obtain ⟨x₀, hx₀, hpc₀⟩ := hjobs x hx hpc
      exact h.jobs i x₀ hx₀ hpc₀
    · simp only [Function.update_of_ne (Ne.symm hg)] at hx
      exact h.jobs i x hx hpc
  · rw [hreceived]
    exact h.yields
  · rw [hpublished, hproducer, hmqCh]
    exact h.order

theorem Inv.receives (h : Inv R opts s tok used texts) {b : Nat} {raddr : IP} {data : List UInt8}
    (hr : s.world.locals .run = .run (.read b))
    (hexec : (code opts).exec (s.world.locals .run) op = some (.run (.fill b raddr data)))
    (happly : s.world.shared.apply op = some shared) (hop : ∀ c m, op ≠ .send c m) (hgood : R.Good (raddr, data)) :
    Inv R opts { s with received := s.received ++ [(raddr, data)]
                        world := s.world.after .run shared (.run (.fill b raddr data)) }
      (Function.update tok (.inl b) (some s.received.length)) used texts := by
  have hold : ∀ {k : Nat} {d : Datagram}, s.received[k]? = some d → (s.received ++ [(raddr, data)])[k]? = some d := by
    intro k d hk
    rw [List.getElem?_append_left (List.getElem?_eq_some_iff.mp hk).1, hk]
  refine ⟨fun d hd => ?_, h.fine, h.accounts.receives hr hexec happly hop rfl, fun i x hx hpc => ?_, ?_, h.order⟩
  · rcases List.mem_append.mp hd with hd | hd
    · exact h.good d hd
    · rw [List.mem_singleton.mp hd]
      exact hgood
  · simp only [Function.update_of_ne (show Goroutine.worker i ≠ (.run : Goroutine W V) by simp)] at hx
    obtain ⟨job, k, d, hjob, hk, hd, hdec⟩ := h.jobs i x hx hpc
    exact ⟨job, k, d, hjob, by rw [Function.update_of_ne (by simp), hk], hold hd, hdec⟩
  · exact h.yields.imp fun k text ⟨d, hd, hy⟩ => ⟨d, hold hd, hy⟩

theorem Inv.run (h : Inv R opts s tok used texts) {r r' : Run} (hr : s.world.locals .run = .run r)
    (hexec : r.exec opts op = some r') (happly : s.world.shared.apply op = some shared)
    (heff : effect opts s now (.run .run op) = some s')
    (hallows : R.Allows opts (.daemon (.run .run op : Act W V) now)) :
    ∃ tok', Inv R opts { s' with world := s.world.after .run shared (.run r') } tok' used texts := by
  have hcode : (code opts).exec (s.world.locals .run) op = some (.run r') := by
    rw [hr]
    exact congrArg (Option.map Local.run) hexec
  unfold Run.exec at hexec
  split at hexec
  case h_5 b raddr data =>
    cases hexec
    cases heff
    exact ⟨_, h.receives hr hcode happly (by simp) hallows⟩
  case h_6 b raddr data b' data' =>
    split at hexec
    case isTrue heq =>
      obtain ⟨rfl, rfl⟩ := heq
      cases hexec
      cases heff
      refine ⟨tok, h.moves ⟨rfl, rfl, rfl, rfl, rfl, rfl⟩ hcode happly ?_ (by simp) (by simp) (by simp)⟩
      intro m hm
      rw [List.mem_singleton.mp hm]
      exact h.accounts.filled hr happly
    case isFalse => cases hexec
  case h_7 msg msg' =>
    split at hexec
    case isTrue heq =>
      subst heq
      cases hexec
      cases heff
      refine ⟨tok, h.moves (.refl s) hcode happly (fun m hm => absurd hm List.not_mem_nil) ?_ (by simp) (by simp)⟩
      intro m hm
      cases hm
      rw [hr]
      exact List.mem_singleton_self _
    case isFalse => cases hexec
  case h_8 => cases hexec
  all_goals
    cases hexec
    cases heff
    exact ⟨tok, h.moves (.refl s) hcode happly (fun m hm => absurd hm List.not_mem_nil) (by simp) (by simp) (by simp)⟩

theorem Inv.aside (h : Inv R opts s tok used texts) (hsame : Same s s')
    (hexec : (code opts).exec (s.world.locals g) op = some l) (happly : s.world.shared.apply op = some shared)
    (hl : ∀ r, l ≠ .run r) (hl' : ∀ x, l ≠ .worker x) (hop : ∀ m, op ≠ .send .udp m) :
    Inv R opts { s' with world := s.world.after g shared l } tok used texts := by
  refine h.moves hsame hexec happly (fun m hm => ?_) (fun m hm => absurd hm (hop m)) (fun b raddr data => hl _)
    (fun x hx => absurd hx (hl' x))
  cases l with
  | run r => exact absurd rfl (hl r)
  | worker x => exact absurd rfl (hl' x)
  | _ => cases hm

theorem Inv.keeps (h : Inv R opts s tok used texts) {i : W} {x x' : Worker} (hsame : Same s s')
    (hx : s.world.locals (.worker i) = .worker x)
    (hcode : (code opts).exec (s.world.locals (.worker i)) op = some (.worker x'))
    (happly : s.world.shared.apply op = some shared) (hpending : ∀ m ∈ pending x', m ∈ pending x)
    (hpc : Decoding x'.pc → Decoding x.pc) (hsend : ∀ m, op ≠ .send .udp m)
    (hwrite : ∀ m ∈ pending x, ∀ d, op ≠ .write m.body d) :
    Inv R opts { s' with world := s.world.after (.worker i) shared (.worker x') } tok used texts := by
  refine h.moves hsame hcode happly (fun m hm => ?_) (fun m hm => absurd hm (hsend m)) (by simp) ?_
  · refine h.accounts.kept.still (g := .worker i) (m := m) ?_ happly (hwrite m (hpending m hm)) rfl (List.prefix_refl _)
    rw [hx]
    exact hpending m hm
  · intro y hy hdec
    cases hy
    exact ⟨x, hx, hpc hdec⟩

theorem Inv.decodes (h : Inv R opts s tok used texts) {i : W} {x x' : Worker} {msg : Msg} {data : List UInt8}
    (hx : s.world.locals (.worker i) = .worker x) (hmsg : msg ∈ pending x) (hlen : data.length = msg.len)
    (hcode : (code opts).exec (s.world.locals (.worker i)) (.read msg.body data) = some (.worker x'))
    (happly : s.world.shared.apply (.read msg.body data : Operation) = some shared) (hpending : pending x' = [])
    (now : Int) :
    ∃ tok', Inv R opts { s with
      jobs := Function.update s.jobs i (some (svc.receive now msg.raddr s.mem data))
      world := s.world.after (.worker i) shared (.worker x') } tok' used texts := by
  have hmem : msg ∈ (undecoded opts).carried (s.world.locals (.worker i)) := by
    rw [hx]
    exact hmsg
  obtain ⟨k, hk, hitem⟩ := h.accounts.read hmem hlen happly
  refine ⟨_, h.good, h.fine, h.accounts.step hcode happly (h.accounts.ledger.pass hk (.inr i)) (fun b hb => ?_) ?_
    (by simp) (by simp), fun j y hy hdec => ?_, h.yields, h.order⟩
  · have hne : b ≠ msg.body := by
      rintro rfl
      exact hb ((undecoded opts).owned _ msg hmem)
    rw [Function.update_of_ne (by simp), Function.update_of_ne (by simpa using hne)]
  · intro m hm
    rw [show (undecoded opts).carried (.worker x') = [] from hpending] at hm
    cases hm
  · by_cases hj : j = i
    · subst hj
      exact ⟨_, k, (msg.raddr, data), Function.update_self _ _ _, Function.update_self _ _ _, hitem,
        R.receive now (h.good _ (List.mem_of_getElem? hitem)) h.fine⟩
    · simp only [Function.update_of_ne (show (.worker j : Goroutine W V) ≠ .worker i by simpa using hj)] at hy
      obtain ⟨job, k', d, hjob, hk', hd, hdec'⟩ := h.jobs j y hy hdec
      refine ⟨job, k', d, by simp only [Function.update_of_ne hj, hjob], ?_, hd, hdec'⟩
      rw [Function.update_of_ne (by simpa using hj), Function.update_of_ne (by simp), hk']

theorem Inv.offers (h : Inv R opts s tok used texts) {i : W} {x x' : Worker} {text : List UInt8} (hsame : Same s s')
    (hx : s.world.locals (.worker i) = .worker x) (hpc : Decoding x.pc)
    (hv : s.verdict i = some (.message (some text)))
    (hcode : (code opts).exec (s.world.locals (.worker i)) op = some (.worker x'))
    (happly : s.world.shared.apply op = some shared) (hpending : pending x' = []) (hdec : ¬ Decoding x'.pc)
    (hsend : ∀ c m, op ≠ .send c m) (hwrite : ∀ b d, op ≠ .write b d) :
    ∃ tok' used' texts', Inv R opts { s'.offer text with
      world := s.world.after (.worker i) shared (.worker x') } tok' used' texts' := by
  have hkeeps : Inv R opts { s' with world := s.world.after (.worker i) shared (.worker x') } tok used texts := by
    refine h.keeps hsame hx hcode happly (fun m hm => ?_) (fun hd => absurd hd hdec) (hsend _)
      (fun m _ => hwrite m.body)
    rw [hpending] at hm
    cases hm
  cases hmq : s'.mqCh.send text with
  | none =>
    refine ⟨tok, used, texts, ?_⟩
    rw [State.offer, hmq]
    exact hkeeps
  | some mqCh =>
    obtain ⟨job, k, d, hjob, hk, hd, hdecodes⟩ := h.jobs i x hx hpc
    have hverdict : svc.verdict job = some (.message (some text)) := by
      rw [State.verdict, hjob] at hv
      exact hv
    refine ⟨Function.update tok (.inr i) none, used ++ [k], texts ++ [text], ?_⟩
    rw [State.offer, hmq]
    refine ⟨hkeeps.good, hkeeps.fine, hkeeps.accounts.spend hk, ?_, ?_, ?_⟩
    · intro j y hy hpc'
      have hj : j ≠ i := by
        rintro rfl
        simp only [Function.update_self] at hy
        cases hy
        exact hdec hpc'
      obtain ⟨job', k', d', hjob', hk', hd', hdecodes'⟩ := hkeeps.jobs j y hy hpc'
      exact ⟨job', k', d', hjob', by rw [Function.update_of_ne (by simpa using hj), hk'], hd', hdecodes'⟩
    · exact List.rel_append hkeeps.yields (.cons ⟨d, hsame.received ▸ hd, job, hdecodes, hverdict⟩ .nil)
    · have horder : s'.published.map Prod.fst ++ s'.producer.toList ++ s'.mqCh.buf = texts := hkeeps.order
      show s'.published.map Prod.fst ++ s'.producer.toList ++ mqCh.buf = texts ++ [text]
      rw [← horder, (Chan.send_eq_some.mp hmq).2.2.1, ← List.append_assoc]

theorem Inv.worker (h : Inv R opts s tok used texts) {i : W} {x x' : Worker}
    (hx : s.world.locals (.worker i) = .worker x) (hexec : x.exec opts op = some x')
    (happly : s.world.shared.apply op = some shared)
    (heff : effect opts s now (.run (.worker i) op) = some s') :
    ∃ tok' used' texts',
      Inv R opts { s' with world := s.world.after (.worker i) shared (.worker x') } tok' used' texts' := by
  have hcode : (code opts).exec (s.world.locals (.worker i)) op = some (.worker x') := by
    rw [hx]
    exact congrArg (Option.map Local.worker) hexec
  -- most steps keep the datagram, or the worker has none
  have hkeep : Same s s' → (∀ m ∈ pending x', m ∈ pending x) → (Decoding x'.pc → Decoding x.pc) →
      (∀ m, op ≠ .send .udp m) → (∀ m ∈ pending x, ∀ d, op ≠ .write m.body d) →
      ∃ tok' used' texts',
        Inv R opts { s' with world := s.world.after (.worker i) shared (.worker x') } tok' used' texts' :=
    fun hsame hpending hpc hsend hwrite =>
      ⟨tok, used, texts, h.keeps hsame hx hcode happly hpending hpc hsend hwrite⟩
  obtain ⟨pc, msg, mirror⟩ := x
  simp only [Worker.exec] at hexec
  split at hexec
  case h_2 b =>
    split at hexec
    case isTrue =>
      cases hexec
      cases heff
      exact hkeep (.refl s) (by simp [pending]) (by simp [Decoding]) (by simp) (by simp)
    case isFalse => cases hexec
  case h_4 m =>
    -- the next datagram, out of the channel
    cases hexec
    cases heff
    refine ⟨tok, used, texts, h.moves (.refl s) hcode happly (fun m' hm' => ?_) (by simp) (by simp) ?_⟩
    · rw [List.mem_singleton.mp hm']
      cases applies_of_apply happly with
      | recv hrecv => exact h.accounts.kept.inChan .udp rfl m (by simp [(Chan.recv_eq_value.mp hrecv).1])
      | observe hop => cases hop
    · intro y hy hdec
      cases hy
      simp [Decoding] at hdec
  case h_9 b data =>
    split at hexec
    case isTrue =>
      cases hexec
      simp only [effect, hx] at heff
      cases heff
      exact hkeep (.refl s) (by simp [pending]) (by simp [Decoding]) (by simp) (by simp)
    case isFalse => cases hexec
  case h_10 data b data' =>
    split at hexec
    case isTrue heq =>
      -- the copy for the mirror is in another buffer
      obtain ⟨⟨mir, hmir, rfl⟩, rfl⟩ := heq
      cases hexec
      cases heff
      refine hkeep (.refl s) (by simp [pending]) (by simp [Decoding]) (by simp) (fun m hm d hop => ?_)
      have hnodup := h.accounts.exclusive.nodup (.held (.worker i))
      simp only [pending, Option.mem_toList] at hm
      simp only [World.places, hx, code, Worker.owned, hmir, hm, bodies, Option.map_some, Option.toList_some,
        List.singleton_append, List.nodup_cons, List.mem_singleton] at hnodup
      exact hnodup.1 (Op.write.inj hop).1.symm
    case isFalse => cases hexec
  case h_11 m =>
    split at hexec
    case isTrue =>
      cases hexec
      cases heff
      exact hkeep (.refl s) (by simp [pending]) (by simp [Decoding]) (by simp) (by simp)
    case isFalse => cases hexec
  case h_13 b data =>
    split at hexec
    case isTrue hslice =>
      obtain ⟨m, rfl, rfl, hlen⟩ := hslice
      cases hexec
      simp only [effect, hx] at heff
      cases heff
      obtain ⟨tok', htok'⟩ := h.decodes hx (by simp [pending]) hlen.symm hcode happly rfl now
      exact ⟨tok', used, texts, htok'⟩
    case isFalse => cases hexec
  case h_14 =>
    cases hexec
    simp only [effect] at heff
    split at heff <;> cases heff
    exact hkeep (.refl s) (by simp [pending]) (by simp [Decoding]) (by simp) (by simp)
  case h_15 =>
    cases hexec
    simp only [effect] at heff
    split at heff <;> cases heff
    exact hkeep (.counted s _) (by simp [pending]) (by simp [Decoding]) (by simp) (by simp)
  case h_16 =>
    cases hexec
    simp only [effect] at heff
    split at heff <;> cases heff
    exact hkeep (.counted s _) (by simp [pending]) (by simp [Decoding]) (by simp) (by simp)
  case h_17 b data =>
    split at hexec
    case isTrue =>
      cases hexec
      simp only [effect, hx] at heff
      cases heff
      exact hkeep (.refl s) (by simp [pending]) (by simp [Decoding]) (by simp) (by simp)
    case isFalse => cases hexec
  case h_18 =>
    cases hexec
    simp only [effect] at heff
    split at heff <;> cases heff
    exact hkeep (.refl s) (by simp [pending]) (by simp [Decoding]) (by simp) (by simp)
  case h_19 =>
    cases hexec
    simp only [effect] at heff
    split at heff
    case h_1 text hv =>
      cases heff
      exact h.offers (.counted s _) hx (Or.inr (Or.inr rfl)) hv hcode happly rfl (by simp [Decoding]) (by simp)
        (by simp)
    case h_2 => cases heff
  case h_20 => cases hexec
  all_goals
    cases hexec
    cases heff
    exact hkeep (.refl s) (by simp [pending]) (by simp [Decoding]) (by simp) (by simp)

def Tracked (R : Rule svc) (opts : Opts) (s : State svc W V) : Prop :=
  ∃ tok used texts, Inv R opts s tok used texts

theorem effect_dispatcher (heff : effect opts s now (.run .dispatcher op) = some s') : s' = s :=
  (Option.some.inj heff).symm

theorem effect_shutdown (heff : effect opts s now (.run .shutdown op) = some s') : s' = s :=
  (Option.some.inj heff).symm

theorem same_of_mirror {v : V} (heff : effect opts s now (.run (.mirror v) op) = some s') : Same s s' := by
  cases op with
  | read b data =>
    simp only [effect] at heff
    split at heff <;> cases heff <;> exact ⟨rfl, rfl, rfl, rfl, rfl, rfl⟩
  | input x => cases x <;> cases heff <;> exact ⟨rfl, rfl, rfl, rfl, rfl, rfl⟩
  | _ =>
    cases heff
    exact .refl s

theorem Inv.daemon (h : Inv R opts s tok used texts) (hexec : (code opts).exec (s.world.locals g) op = some l)
    (happly : s.world.shared.apply op = some shared) (heff : effect opts s now (.run g op) = some s')
    (hallows : R.Allows opts (.daemon (.run g op) now)) :
    Tracked R opts { s' with world := s.world.after g shared l } := by
  have hfits := h.accounts.fits g
  cases g with
  | run =>
    cases hl : s.world.locals .run with
    | run r =>
      rw [hl] at hexec
      obtain ⟨r', hr', rfl⟩ := Option.map_eq_some_iff.mp hexec
      obtain ⟨tok', htok'⟩ := h.run hl hr' happly heff hallows
      exact ⟨tok', used, texts, htok'⟩
    | _ =>
      rw [hl] at hfits
      exact hfits.elim
  | worker i =>
    cases hl : s.world.locals (.worker i) with
    | worker x =>
      rw [hl] at hexec
      obtain ⟨x', hx', rfl⟩ := Option.map_eq_some_iff.mp hexec
      exact h.worker hl hx' happly heff
    | _ =>
      rw [hl] at hfits
      exact hfits.elim
  | shutdown =>
    rw [effect_shutdown heff]
    cases hl : s.world.locals .shutdown with
    | shutdown rest =>
      have hexec' := hexec
      rw [hl] at hexec'
      obtain ⟨rest', hrest', rfl⟩ := Option.map_eq_some_iff.mp hexec'
      refine ⟨tok, used, texts, h.aside (.refl s) hexec happly (by simp) (by simp) ?_⟩
      rintro m rfl
      simp [execShutdown] at hrest'
    | _ =>
      rw [hl] at hfits
      exact hfits.elim
  | dispatcher =>
    rw [effect_dispatcher heff]
    cases hl : s.world.locals .dispatcher with
    | dispatcher d =>
      have hexec' := hexec
      rw [hl] at hexec'
      obtain ⟨d', hd', rfl⟩ := Option.map_eq_some_iff.mp hexec'
      refine ⟨tok, used, texts, h.aside (.refl s) hexec happly (by simp) (by simp) ?_⟩
      rintro m rfl
      cases hpc : d.pc with
      | forward =>
        simp only [Dispatcher.exec, hpc, Option.ite_none_right_eq_some] at hd'
        exact channelOf_ne_udp m.raddr hd'.1.2.symm
      | _ => simp [Dispatcher.exec, hpc] at hd'
    | _ =>
      rw [hl] at hfits
      exact hfits.elim
  | mirror v =>
    cases hl : s.world.locals (.mirror v) with
    | mirror m =>
      have hexec' := hexec
      rw [hl] at hexec'
      obtain ⟨m', hm', rfl⟩ := Option.map_eq_some_iff.mp hexec'
      refine ⟨tok, used, texts, h.aside (same_of_mirror heff) hexec happly (by simp) (by simp) ?_⟩
      rintro msg rfl
      cases hpc : m.pc <;> simp [Mirror.exec, hpc] at hm'
    | _ =>
      rw [hl] at hfits
      exact hfits.elim

theorem Tracked.step (h : Tracked R opts s) (hallows : R.Allows opts e) (hstep : Step opts s e t) :
    Tracked R opts t := by
  obtain ⟨tok, used, texts, h⟩ := h
  have hrunning := running_of_step hstep
  cases e with
  | daemon a now =>
    obtain ⟨-, world, s', hworld, heff, rfl⟩ := step_daemon.mp hstep
    cases hworld with
    | run hexec happly => exact h.daemon hexec happly heff hallows
    | drop b =>
      cases heff
      exact ⟨tok, used, texts, h.good, h.fine, h.accounts.drop b, h.jobs, h.yields, h.order⟩
  | work i =>
    simp only [Step, step, hrunning, Bool.false_eq_true, if_false] at hstep
    split at hstep
    case h_1 msg mirror job hx hjob =>
      split at hstep
      case h_1 job' mem hv hwork =>
        cases hstep
        obtain ⟨job₀, k, d, hjob₀, hk, hd, hknown⟩ := h.jobs i _ hx (Or.inl rfl)
        obtain rfl : job = job₀ := Option.some.inj (hjob.symm.trans hjob₀)
        obtain ⟨hknown', hfine'⟩ := R.work h.fine hknown hwork
        refine ⟨tok, used, texts, h.good, hfine', h.accounts, fun j y hy hpc => ?_, h.yields, h.order⟩
        by_cases hj : j = i
        · subst hj
          exact ⟨job', k, d, Function.update_self _ _ _, hk, hd, hknown'⟩
        · obtain ⟨job₁, k₁, d₁, hjob₁, hk₁, hd₁, hknown₁⟩ := h.jobs j y hy hpc
          exact ⟨job₁, k₁, d₁, by simp only [Function.update_of_ne hj, hjob₁], hk₁, hd₁, hknown₁⟩
      case h_2 => cases hstep
    case h_2 => cases hstep
  | panic i =>
    simp only [Step, step, hrunning, Bool.false_eq_true, if_false, Option.ite_none_right_eq_some] at hstep
    cases hstep.2
    exact ⟨tok, used, texts, h.good, h.fine, h.accounts, h.jobs, h.yields, h.order⟩
  | cache mem =>
    simp only [Step, step, hrunning, Bool.false_eq_true, if_false] at hstep
    cases hstep
    exact ⟨tok, used, texts, h.good, hallows, h.accounts, h.jobs, h.yields, h.order⟩
  | take =>
    simp only [Step, step, hrunning, Bool.false_eq_true, if_false] at hstep
    split at hstep
    case h_1 text mqCh hproducer hrecv =>
      cases hstep
      refine ⟨tok, used, texts, h.good, h.fine, h.accounts, h.jobs, h.yields, ?_⟩
      rw [← h.order, hproducer, (Chan.recv_eq_value.mp hrecv).1]
      simp
    case h_2 => cases hstep
  | publish p =>
    simp only [Step, step, hrunning, Bool.false_eq_true, if_false] at hstep
    split at hstep
    case h_1 text hproducer =>
      cases hstep
      refine ⟨tok, used, texts, h.good, h.fine, h.accounts, h.jobs, h.yields, ?_⟩
      rw [← h.order, hproducer]
      simp
    case h_2 => cases hstep

theorem tracked_of_runs {mem : svc.Mem} {es : List (Event svc.Mem W V)} (hmem : R.Fine mem)
    (hallows : ∀ e ∈ es, R.Allows opts e) (h : Runs (Step opts) (start svc W V opts mem) es s) : Tracked R opts s := by
  refine h.invariant (fun e he _ _ hs hstep => hs.step (hallows e he) hstep)
    ⟨fun _ => none, [], [], fun d hd => absurd hd List.not_mem_nil, hmem, accounts_start _ mem, fun i x hx hpc => ?_,
      .nil, rfl⟩
  cases hx
  cases hc : svc.collector <;> simp [Collector.worker, hc, Decoding] at hpc

omit [DecidableEq W] [DecidableEq V] in
theorem exists_texts {items : List Datagram}
    (h : List.Forall₂ (fun k text => ∃ d, items[k]? = some d ∧ R.Yields d text) used texts) :
    ∃ l : List (Datagram × List UInt8), l.map Prod.snd = texts ∧
      l.map Prod.fst = used.filterMap (fun k => items[k]?) ∧ ∀ p ∈ l, R.Yields p.1 p.2 := by
  induction h with
  | nil => exact ⟨[], rfl, rfl, by simp⟩
  | @cons k text used texts hd _ ih =>
    obtain ⟨d, hd, hy⟩ := hd
    obtain ⟨l, htexts, hused, hl⟩ := ih
    refine ⟨(d, text) :: l, by simp [htexts], by simp [hd, hused], fun p hp => ?_⟩
    rcases List.mem_cons.mp hp with rfl | hp
    · exact hy
    · exact hl p hp

/-- What the producer has published are texts of some of the datagrams that were received, each at most once. -/
theorem texts_of_runs {mem : svc.Mem} {es : List (Event svc.Mem W V)} (hmem : R.Fine mem)
    (hallows : ∀ e ∈ es, R.Allows opts e) (h : Runs (Step opts) (start svc W V opts mem) es s) :
    ∃ l : List (Datagram × List UInt8), l.map Prod.snd = s.published.map Prod.fst ∧
      (l.map Prod.fst).Subperm s.received ∧ ∀ p ∈ l, R.Yields p.1 p.2 := by
  obtain ⟨tok, used, texts, hinv⟩ := tracked_of_runs hmem hallows h
  obtain ⟨l, htexts, hused, hl⟩ := exists_texts hinv.yields
  refine ⟨l.take s.published.length, ?_, ?_, fun p hp => hl p (List.mem_of_mem_take hp)⟩
  · rw [List.map_take, htexts, ← hinv.order, List.append_assoc, List.take_left' (List.length_map _)]
  · refine (((List.take_sublist _ l).map Prod.fst).subperm).trans ?_
    rw [hused]
    exact hinv.accounts.ledger.subperm

end inv

/-! ## Any memory -/

/-- What holds of the jobs whatever happens to the memory. -/
def Rule.any (svc : Service) : Rule svc where
  Good _ := True
  Known d job := svc.Decodes d.1 d.2 job
  Fine _ := True
  receive now _ mem _ _ := ⟨now, mem, .refl⟩
  work _ hknown hwork := by
    obtain ⟨now, mem, hdec⟩ := hknown
    exact ⟨⟨now, mem, hdec.tail ⟨_, _, hwork⟩⟩, trivial⟩

theorem Rule.any_allows (opts : Opts) (e : Event svc.Mem W V) : (Rule.any svc).Allows opts e := by
  unfold Rule.Allows
  split <;> trivial

/-! ## A memory that does not change -/

/-- A decoder of the datagram that runs alone with this memory leaves it as it is, at each of its steps. -/
def Steady (svc : Service) (mem : svc.Mem) (d : Datagram) : Prop :=
  ∀ now job job' mem', Relation.ReflTransGen (fun job job' => svc.work mem job = some (job', mem))
    (svc.receive now d.1 mem d.2) job → svc.work mem job = some (job', mem') → mem' = mem

/-- What holds of the jobs while the memory does not change: they are what a decoder alone comes to. -/
def Rule.steady (svc : Service) (mem : svc.Mem) : Rule svc where
  Good := Steady svc mem
  Known d job := Steady svc mem d ∧ ∃ now, Relation.ReflTransGen (fun job job' => svc.work mem job = some (job', mem))
    (svc.receive now d.1 mem d.2) job
  Fine m := m = mem
  receive now d m hgood hm := by
    subst hm
    exact ⟨hgood, now, .refl⟩
  work hm hknown hwork := by
    subst hm
    obtain ⟨hgood, now, hjob⟩ := hknown
    obtain rfl := hgood now _ _ _ hjob hwork
    exact ⟨⟨hgood, now, hjob.tail hwork⟩, rfl⟩

theorem Rule.steady_allows {opts : Opts} {mem : svc.Mem} {e : Event svc.Mem W V}
    (hdatagram : ∀ d ∈ arrival opts e, Steady svc mem d) (hcache : ∀ m, e = .cache m → m = mem) :
    (Rule.steady svc mem).Allows opts e := by
  unfold Rule.Allows
  split
  · exact hdatagram _ (List.mem_singleton_self _)
  · exact hcache _ rfl
  · trivial

/-- While the memory does not change, the texts are those of decoders that run alone with it. -/
theorem texts_of_steady [DecidableEq W] [DecidableEq V] {opts : Opts} {mem : svc.Mem} {s : State svc W V}
    {es : List (Event svc.Mem W V)} (hsteady : ∀ d ∈ s.received, Steady svc mem d)
    (hcache : ∀ m, .cache m ∈ es → m = mem) (h : Runs (Step opts) (start svc W V opts mem) es s) :
    ∃ l : List (Datagram × List UInt8), l.map Prod.snd = s.published.map Prod.fst ∧
      (l.map Prod.fst).Subperm s.received ∧ ∀ p ∈ l, (Rule.steady svc mem).Yields p.1 p.2 := by
  refine texts_of_runs rfl (fun e he => Rule.steady_allows (fun d hd => ?_) ?_) h
  · refine hsteady d ?_
    rw [received_of_runs h]
    exact List.mem_flatMap.mpr ⟨e, he, hd⟩
  · rintro m rfl
    exact hcache m he

end VFlow.Daemon.Pipeline
