import VFlow.Base.Ledger
import VFlow.Daemon.IPFIX

/-!
# Datagrams in recycled buffers

A message on its way through the collector is a buffer and a length; the bytes are in the buffer, and the buffers are
used again and again. `Carries` says that the buffer of a message still has the bytes of the datagram with some number,
and `Kept` that this is so for all messages in certain places: in some channels, and in some local states of the
goroutines. Since every buffer has one owner, a step of one goroutine does not touch the messages of the others
(`Kept.step`), so that for each step only the messages of the goroutine itself are left to look at.
-/

namespace VFlow.Daemon.IPFIX

open Goroutines

abbrev Datagram := IP × List UInt8

section holds

variable {K : Type} {tok tok' : Nat ⊕ K → Option Nat} {items items' : List Datagram} {heap heap' : Nat → List UInt8}
  {m : Msg}

/-- The buffer of the message has the number of a datagram, from this exporter and with these bytes. -/
def Carries (tok : Nat ⊕ K → Option Nat) (items : List Datagram) (heap : Nat → List UInt8) (m : Msg) : Prop :=
  ∃ k, tok (.inl m.body) = some k ∧ items[k]? = some (m.raddr, (heap m.body).take m.len)

theorem Carries.congr (h : Carries tok items heap m) (htok : tok' (.inl m.body) = tok (.inl m.body))
    (hitems : items <+: items') (hheap : heap' m.body = heap m.body) : Carries tok' items' heap' m := by
  obtain ⟨k, hk, hitem⟩ := h
  refine ⟨k, htok.trans hk, ?_⟩
  obtain ⟨rest, rfl⟩ := hitems
  rw [hheap, List.getElem?_append_left (List.getElem?_eq_some_iff.mp hitem).1, hitem]

end holds

/-- Places where messages are: some channels, and some local states with the messages in them. -/
structure Places (opts : Opts) where
  carried : Local → List Msg
  inChan : Channel → Prop
  owned : ∀ l, ∀ m ∈ carried l, m.body ∈ (code opts).owned l

variable {W V K : Type} {opts : Opts} {pl : Places opts} {tok tok' : Nat ⊕ K → Option Nat}
  {items items' : List Datagram} {w : State W V} {g : Goroutine W V} {op : Operation} {l : Local}
  {shared : Shared Channel Flag Msg}

structure Kept (pl : Places opts) (tok : Nat ⊕ K → Option Nat) (items : List Datagram) (w : State W V) : Prop where
  carried : ∀ g, ∀ m ∈ pl.carried (w.locals g), Carries tok items w.shared.heap m
  inChan : ∀ c, pl.inChan c → ∀ m ∈ (w.shared.chans c).buf, Carries tok items w.shared.heap m

theorem Kept.congr (h : Kept pl tok items w) (htok : ∀ b, tok' (.inl b) = tok (.inl b)) : Kept pl tok' items w :=
  ⟨fun g m hm => (h.carried g m hm).congr (htok _) (List.prefix_refl _) rfl,
    fun c hc m hm => (h.inChan c hc m hm).congr (htok _) (List.prefix_refl _) rfl⟩

theorem mem_of_apply {c : Channel} {s s' : Shared Channel Flag Msg} (happly : s.apply op = some s')
    (hsend : ∀ m, op ≠ .send c m) {m : Msg} (hm : m ∈ (s'.chans c).buf) : m ∈ (s.chans c).buf :=
  ((applies_of_apply happly).chans hsend).subset hm

section step

variable [DecidableEq W] [DecidableEq V]

theorem Kept.step (h : Kept pl tok items w) (hexcl : Exclusive (w.places (code opts)) w.shared.next)
    (hexec : (code opts).exec (w.locals g) op = some l) (happly : w.shared.apply op = some shared)
    (htok : ∀ b, b ∉ (code opts).owned (w.locals g) → tok' (.inl b) = tok (.inl b)) (hitems : items <+: items')
    (hlocal : ∀ m ∈ pl.carried l, Carries tok' items' shared.heap m)
    (hchans : ∀ c, pl.inChan c → ∀ m ∈ (shared.chans c).buf, m ∈ (w.shared.chans c).buf ∨
      Carries tok' items' shared.heap m) :
    Kept pl tok' items' (w.after g shared l) := by
  have hstep : Step (code opts) w (.run g op) (w.after g shared l) := .run hexec happly
  -- a message in another place
  have hother : ∀ m p, m.body ∈ w.places (code opts) p → p ≠ .held g → Carries tok items w.shared.heap m →
      Carries tok' items' shared.heap m := by
    intro m p hm hp hold
    refine hold.congr (htok _ fun hmine => hp ?_) hitems (heap_eq_of_place code_linear hexcl hstep hm hp)
    exact hexcl.unique p (.held g) _ hm hmine
  refine ⟨fun g' m hm => ?_, fun c hc m hm => ?_⟩
  · by_cases hg : g' = g
    · subst hg
      simp only [Function.update_self] at hm
      exact hlocal m hm
    · simp only [Function.update_of_ne hg] at hm
      exact hother m (.held g') (pl.owned _ m hm) (by simpa using hg) (h.carried g' m hm)
  · rcases hchans c hc m hm with hm | hm
    · exact hother m (.channel c) (List.mem_map_of_mem hm) (by simp) (h.inChan c hc m hm)
    · exact hm

end step

theorem Kept.still (h : Kept pl tok items w) {m : Msg} (hm : m ∈ pl.carried (w.locals g))
    (happly : w.shared.apply op = some shared) (hwrite : ∀ d, op ≠ .write m.body d)
    (htok : tok' (.inl m.body) = tok (.inl m.body)) (hitems : items <+: items') :
    Carries tok' items' shared.heap m := by
  refine (h.carried g m hm).congr htok hitems ?_
  cases applies_of_apply happly with
  | write b d => exact Function.update_of_ne (fun hb => hwrite d (by rw [hb])) _ _
  | _ => rfl

/-! ## Local states and their goroutines -/

def Fits : Goroutine W V → Local → Prop
  | .run, .run _ | .shutdown, .shutdown _ | .worker _, .worker _ | .dispatcher, .dispatcher _ | .mirror _, .mirror _ =>
    True
  | _, _ => False

theorem Fits.aside (h : Fits g l) (hrun : g ≠ .run) (hworker : ∀ i, g ≠ .worker i) :
    (∀ r, l ≠ .run r) ∧ ∀ x, l ≠ .worker x := by
  cases g with
  | run => exact absurd rfl hrun
  | worker i => exact absurd rfl (hworker i)
  | _ => cases l <;> first | exact h.elim | simp

theorem Fits.exec {l' : Local} (h : Fits g l) (hexec : (code opts).exec l op = some l') : Fits g l' := by
  cases l with
  | run r =>
    obtain ⟨r', -, rfl⟩ := Option.map_eq_some_iff.mp hexec
    cases g <;> exact h
  | shutdown rest =>
    obtain ⟨rest', -, rfl⟩ := Option.map_eq_some_iff.mp hexec
    cases g <;> exact h
  | worker x =>
    obtain ⟨x', -, rfl⟩ := Option.map_eq_some_iff.mp hexec
    cases g <;> exact h
  | dispatcher d =>
    obtain ⟨d', -, rfl⟩ := Option.map_eq_some_iff.mp hexec
    cases g <;> exact h
  | mirror m =>
    obtain ⟨m', -, rfl⟩ := Option.map_eq_some_iff.mp hexec
    cases g <;> exact h

/-! ## Numbered datagrams -/

/-- The ledger fits the goroutines: every buffer has one owner, the messages in the given places have their datagrams,
and so has the buffer that a datagram is being read into. -/
structure Accounts (pl : Places opts) (tok : Nat ⊕ K → Option Nat) (used : List Nat) (items : List Datagram)
    (w : State W V) : Prop where
  exclusive : Exclusive (w.places (code opts)) w.shared.next
  fits : ∀ g, Fits g (w.locals g)
  ledger : Ledger tok used items.length
  kept : Kept pl tok items w
  fill : ∀ b raddr data, w.locals .run = .run (.fill b raddr data) →
    ∃ k, tok (.inl b) = some k ∧ items[k]? = some (raddr, data)

variable {used used' : List Nat}

theorem Accounts.filled (h : Accounts pl tok used items w) {b : Nat} {raddr : IP} {data : List UInt8}
    (hr : w.locals .run = .run (.fill b raddr data))
    (happly : w.shared.apply (.write b data : Operation) = some shared) :
    Carries tok items shared.heap { raddr, body := b, len := data.length } := by
  obtain ⟨k, hk, hitem⟩ := h.fill b raddr data hr
  refine ⟨k, hk, ?_⟩
  cases happly
  simp [hitem]

theorem Accounts.read (h : Accounts pl tok used items w) {m : Msg} {data : List UInt8}
    (hm : m ∈ pl.carried (w.locals g)) (hlen : data.length = m.len)
    (happly : w.shared.apply (.read m.body data : Operation) = some shared) :
    ∃ k, tok (.inl m.body) = some k ∧ items[k]? = some (m.raddr, data) := by
  obtain ⟨k, hk, hitem⟩ := h.kept.carried g m hm
  refine ⟨k, hk, ?_⟩
  simp only [Shared.apply] at happly
  split at happly
  case isTrue hread => rw [hitem, ← hlen, hread]
  case isFalse => cases happly

theorem Accounts.spend [DecidableEq K] (h : Accounts pl tok used items w) {x : K} {k : Nat}
    (hk : tok (.inr x) = some k) : Accounts pl (Function.update tok (.inr x) none) (used ++ [k]) items w := by
  refine ⟨h.exclusive, h.fits, h.ledger.spend hk, h.kept.congr fun b => Function.update_of_ne (by simp) _ _, ?_⟩
  intro b raddr data hfill
  obtain ⟨k', hk', hitem⟩ := h.fill b raddr data hfill
  exact ⟨k', by rw [Function.update_of_ne (by simp), hk'], hitem⟩

section accounts

variable [DecidableEq W] [DecidableEq V]

theorem Accounts.fits_after (h : Accounts pl tok used items w) (hexec : (code opts).exec (w.locals g) op = some l) :
    ∀ g', Fits g' ((w.after g shared l).locals g') := by
  intro g'
  by_cases hg : g' = g
  · subst hg
    simp only [Function.update_self]
    exact (h.fits g').exec hexec
  · simp only [Function.update_of_ne hg]
    exact h.fits g'

/-- A step of `g` after which its own messages have their datagrams. The numbers may change for its buffers. -/
theorem Accounts.step (h : Accounts pl tok used items w) (hexec : (code opts).exec (w.locals g) op = some l)
    (happly : w.shared.apply op = some shared) (hledger : Ledger tok' used' items.length)
    (htok : ∀ b, b ∉ (code opts).owned (w.locals g) → tok' (.inl b) = tok (.inl b))
    (hlocal : ∀ m ∈ pl.carried l, Carries tok' items shared.heap m)
    (hsend : ∀ c m, pl.inChan c → op = .send c m → Carries tok' items shared.heap m)
    (hfill : ∀ b raddr data, l ≠ .run (.fill b raddr data)) :
    Accounts pl tok' used' items (w.after g shared l) := by
  refine ⟨exclusive_step code_linear h.exclusive (.run hexec happly), h.fits_after hexec, hledger, ?_, ?_⟩
  · refine h.kept.step h.exclusive hexec happly htok (List.prefix_refl _) hlocal fun c hc m hm => ?_
    by_cases hop : ∃ m', op = .send c m'
    · obtain ⟨m', rfl⟩ := hop
      cases applies_of_apply happly with
      | send hsent =>
        simp only [Function.update_self, (Chan.send_eq_some.mp hsent).2.2.1, List.mem_append,
          List.mem_singleton] at hm
        rcases hm with hm | rfl
        · exact Or.inl hm
        · exact Or.inr (hsend c m hc rfl)
      | observe hobs => cases hobs
    · exact Or.inl (mem_of_apply happly (fun m' hm' => hop ⟨m', hm'⟩) hm)
  · intro b raddr data hrun
    by_cases hg : g = .run
    · subst hg
      simp only [Function.update_self] at hrun
      exact absurd hrun (hfill b raddr data)
    · simp only [Function.update_of_ne (Ne.symm hg)] at hrun
      obtain ⟨k, hk, hitem⟩ := h.fill b raddr data hrun
      refine ⟨k, (htok b fun hb => hg ?_).trans hk, hitem⟩
      have hmine : b ∈ w.places (code opts) (.held .run) := by simp [World.places, hrun, code, Run.owned]
      exact Place.held.inj (h.exclusive.unique (.held g) (.held .run) b hb hmine)

theorem Accounts.receives [DecidableEq K] (h : Accounts pl tok used items w) {b : Nat} {raddr : IP} {data : List UInt8}
    (hr : w.locals .run = .run (.read b))
    (hexec : (code opts).exec (w.locals .run) op = some (.run (.fill b raddr data)))
    (happly : w.shared.apply op = some shared) (hop : ∀ c m, op ≠ .send c m)
    (hcarried : pl.carried (.run (.fill b raddr data)) = []) :
    Accounts pl (Function.update tok (.inl b) (some items.length)) used (items ++ [(raddr, data)])
      (w.after .run shared (.run (.fill b raddr data))) := by
  refine ⟨exclusive_step code_linear h.exclusive (.run hexec happly), h.fits_after hexec, ?_, ?_, ?_⟩
  · rw [List.length_append, List.length_singleton]
    exact h.ledger.issue _
  · refine h.kept.step h.exclusive hexec happly (fun b' hb' => Function.update_of_ne ?_ _ _) (List.prefix_append _ _)
      ?_ ?_
    · rw [hr] at hb'
      simpa [code, Run.owned] using hb'
    · intro m hm
      rw [hcarried] at hm
      cases hm
    · exact fun c _ m hm => Or.inl (mem_of_apply happly (hop c) hm)
  · intro b' raddr' data' hlocal
    simp only [Function.update_self] at hlocal
    cases hlocal
    exact ⟨_, Function.update_self _ _ _, List.getElem?_concat_length⟩

theorem Accounts.drop (h : Accounts pl tok used items w) (b : Nat) :
    Accounts pl tok used items { w with shared := { w.shared with pool := w.shared.pool.erase b } } :=
  ⟨exclusive_step code_linear h.exclusive (.drop b), h.fits, h.ledger, ⟨h.kept.carried, h.kept.inChan⟩, h.fill⟩

end accounts

end VFlow.Daemon.IPFIX
