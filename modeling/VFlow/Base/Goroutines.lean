import Mathlib.Data.List.Perm.Subperm
import Mathlib.Logic.Function.Basic
import VFlow.Base.Chan
import VFlow.Base.Runs

/-!
# Goroutines that pass buffers around

Goroutines run code that works on what they share: a pool of buffers, channels whose messages each come with a
buffer, and flags. The code says which operation a goroutine in some local state can do next (`Code.exec`), and
`step` lets any goroutine do one, so that the runs are all interleavings.

`owned` says which buffers the code may use in a local state. The code is `Linear` if it uses, puts back and sends
only those, and does not keep what it gives away. This is a property of each goroutine alone. For linear code every
buffer is in one place at a time in all runs (`exclusive_of_runs`): nobody puts a buffer back that is in the pool
already (`get_between_puts`), and nobody uses a buffer that it has given away (`acquired_before_use`).
-/

namespace Goroutines

/-- An operation: on the pool, on a channel, on a flag or on the first bytes of a buffer. An `input` is what the
goroutine learns from elsewhere. `full` and `closed` are the other outcomes of a send that does not block and of a
receive. -/
inductive Op (C F M X : Type) where
  | get (b : Nat)
  | put (b : Nat)
  | send (c : C) (m : M)
  | full (c : C)
  | recv (c : C) (m : M)
  | closed (c : C)
  | close (c : C)
  | load (f : F) (v : Bool)
  | store (f : F) (v : Bool)
  | read (b : Nat) (d : List UInt8)
  | write (b : Nat) (d : List UInt8)
  | input (x : X)

/-- What the goroutines share. The buffers from `next` on have not been made yet. -/
structure Shared (C F M : Type) where
  pool : List Nat
  next : Nat
  chans : C → Chan M
  flags : F → Bool
  heap : Nat → List UInt8

section apply

variable {C F M X : Type} [DecidableEq C] [DecidableEq F] [DecidableEq M]

/-- The effect of an operation, where it is possible. -/
def Shared.apply (s : Shared C F M) : Op C F M X → Option (Shared C F M)
  | .get b =>
    if b ∈ s.pool then some { s with pool := s.pool.erase b }
    else if b = s.next then some { s with next := s.next + 1 }
    else none
  | .put b => some { s with pool := b :: s.pool }
  | .send c m => ((s.chans c).send m).map fun ch => { s with chans := Function.update s.chans c ch }
  | .full c => if (s.chans c).buf.length = (s.chans c).cap then some s else none
  | .recv c m =>
    match (s.chans c).recv with
    | some (some m', ch) => if m' = m then some { s with chans := Function.update s.chans c ch } else none
    | _ => none
  | .closed c =>
    match (s.chans c).recv with
    | some (none, _) => some s
    | _ => none
  | .close c => (s.chans c).close.map fun ch => { s with chans := Function.update s.chans c ch }
  | .load f v => if s.flags f = v then some s else none
  | .store f v => some { s with flags := Function.update s.flags f v }
  | .read b d => if (s.heap b).take d.length = d then some s else none
  | .write b d => some { s with heap := Function.update s.heap b (d ++ (s.heap b).drop d.length) }
  | .input _ => some s

end apply

/-- The code of the goroutines: what a local state becomes by an operation, if the code does it there; the buffer of
a message; and the buffers that may be used in a local state. -/
structure Code (C F M X L : Type) where
  exec : L → Op C F M X → Option L
  body : M → Nat
  owned : L → List Nat

variable {C F M X L G : Type}

namespace Op

def acquires (body : M → Nat) : Op C F M X → List Nat
  | .get b => [b]
  | .recv _ m => [body m]
  | _ => []

def releases (body : M → Nat) : Op C F M X → List Nat
  | .put b => [b]
  | .send _ m => [body m]
  | _ => []

def accesses : Op C F M X → List Nat
  | .read b _ | .write b _ => [b]
  | _ => []

end Op

/-- Who owns `owned` may do the operation and own `owned'` then: it accesses and gives away only what it owns, and
owns no more than what is left and what it gets. -/
def Op.Permits (body : M → Nat) (op : Op C F M X) (owned owned' : List Nat) : Prop :=
  (∀ b ∈ op.accesses, b ∈ owned) ∧ (∀ b ∈ op.releases body, b ∈ owned) ∧
  ∃ k, k.Sublist owned ∧ (∀ b ∈ op.releases body, b ∉ k) ∧ owned'.Subperm (op.acquires body ++ k)

/-- The code does only what its buffers permit. -/
def Code.Linear (code : Code C F M X L) : Prop :=
  ∀ l op l', code.exec l op = some l' → (code.owned l).Nodup → op.Permits code.body (code.owned l) (code.owned l')

namespace Op

variable {body : M → Nat} {owned owned' : List Nat} {op : Op C F M X}

theorem permits_of_nil (haccess : op.accesses = []) (hrelease : op.releases body = [])
    (hacquire : op.acquires body = []) (hsub : owned'.Subperm owned) : op.Permits body owned owned' := by
  refine ⟨?_, ?_, owned, List.Sublist.refl _, ?_, ?_⟩
  · simp [haccess]
  · simp [hrelease]
  · simp [hrelease]
  · simpa [hacquire] using hsub

theorem permits_acquire {b : Nat} (hop : op.acquires body = [b]) (haccess : op.accesses = [])
    (hrelease : op.releases body = []) (hsub : owned'.Subperm (b :: owned)) : op.Permits body owned owned' := by
  refine ⟨?_, ?_, owned, List.Sublist.refl _, ?_, ?_⟩
  · simp [haccess]
  · simp [hrelease]
  · simp [hrelease]
  · simpa [hop] using hsub

theorem permits_release {b : Nat} (hop : op.releases body = [b]) (haccess : op.accesses = [])
    (hacquire : op.acquires body = []) (hnodup : owned.Nodup) (hperm : owned.Perm (b :: owned')) :
    op.Permits body owned owned' := by
  refine ⟨?_, ?_, owned.erase b, List.erase_sublist, ?_, ?_⟩
  · simp [haccess]
  · simp [hop, hperm.mem_iff]
  · simpa [hop] using hnodup.not_mem_erase
  · simpa [hacquire] using (hperm.erase b).symm.subperm

theorem permits_access {b : Nat} (hop : op.accesses = [b]) (hrelease : op.releases body = [])
    (hacquire : op.acquires body = []) (hb : b ∈ owned) : op.Permits body owned owned := by
  refine ⟨?_, ?_, owned, List.Sublist.refl _, ?_, ?_⟩
  · simpa [hop] using hb
  · simp [hrelease]
  · simp [hrelease]
  · simpa [hacquire] using List.Subperm.refl owned

end Op

/-- The goroutines and what they share. -/
structure World (C F M G L : Type) where
  shared : Shared C F M
  locals : G → L

/-- A goroutine does an operation, or a buffer in the pool is dropped. -/
inductive Action (C F M X G : Type) where
  | run (g : G) (op : Op C F M X)
  | drop (b : Nat)

section step

variable [DecidableEq C] [DecidableEq F] [DecidableEq M] [DecidableEq G]

def step (code : Code C F M X L) (w : World C F M G L) : Action C F M X G → Option (World C F M G L)
  | .run g op =>
    match code.exec (w.locals g) op, w.shared.apply op with
    | some l, some shared => some { shared, locals := Function.update w.locals g l }
    | _, _ => none
  | .drop b => some { w with shared := { w.shared with pool := w.shared.pool.erase b } }

inductive Step (code : Code C F M X L) (w : World C F M G L) : Action C F M X G → World C F M G L → Prop
  | run {g : G} {op : Op C F M X} {l : L} {shared : Shared C F M} (hexec : code.exec (w.locals g) op = some l)
      (happly : w.shared.apply op = some shared) :
      Step code w (.run g op) { shared, locals := Function.update w.locals g l }
  | drop (b : Nat) : Step code w (.drop b) { w with shared := { w.shared with pool := w.shared.pool.erase b } }

theorem step_eq_some {code : Code C F M X L} {w w' : World C F M G L} {a : Action C F M X G} :
    step code w a = some w' ↔ Step code w a w' := by
  constructor
  · intro h
    cases a with
    | run g op =>
      simp only [step] at h
      split at h
      · cases h
        exact .run (by assumption) (by assumption)
      · cases h
    | drop b =>
      cases h
      exact .drop b
  · intro h
    cases h with
    | run hexec happly => simp only [step, hexec, happly]
    | drop b => rfl

end step

/-! ## Places -/

/-- Where a buffer can be. -/
inductive Place (C G : Type) where
  | pool
  | channel (c : C)
  | held (g : G)

def World.places (code : Code C F M X L) (w : World C F M G L) : Place C G → List Nat
  | .pool => w.shared.pool
  | .channel c => (w.shared.chans c).buf.map code.body
  | .held g => code.owned (w.locals g)

/-- The world after a goroutine has done an operation. -/
abbrev World.after [DecidableEq G] (w : World C F M G L) (g : G) (shared : Shared C F M) (l : L) : World C F M G L :=
  { shared, locals := Function.update w.locals g l }

theorem World.places_after_held [DecidableEq G] {code : Code C F M X L} (w : World C F M G L) (g : G)
    (shared : Shared C F M) (l : L) : (w.after g shared l).places code (.held g) = code.owned l := by
  simp only [World.places, Function.update_self]

def Op.target (g : G) : Op C F M X → Option (Place C G)
  | .get _ | .recv _ _ => some (.held g)
  | .put _ => some .pool
  | .send c _ => some (.channel c)
  | _ => none

def Op.channel : Op C F M X → Option C
  | .send c _ | .recv c _ | .close c => some c
  | _ => none

def Op.flag : Op C F M X → Option F
  | .store f _ => some f
  | _ => none

/-- The operations that change nothing. -/
def Op.observes : Op C F M X → Bool
  | .full _ | .closed _ | .load _ _ | .read _ _ | .input _ => true
  | _ => false

theorem Op.target_of_observes (g : G) {op : Op C F M X} (hop : op.observes = true) : op.target g = none := by
  cases op <;> first | rfl | cases hop

theorem Op.acquires_of_target {body : M → Nat} {g : G} {op : Op C F M X} (hop : op.target g ≠ some (.held g)) :
    op.acquires body = [] := by
  cases op <;> first | rfl | exact absurd rfl hop

/-- Every buffer is in one place, and there once; there are `next` buffers. -/
structure Exclusive {P : Type} (places : P → List Nat) (next : Nat) : Prop where
  nodup : ∀ p, (places p).Nodup
  unique : ∀ p q b, b ∈ places p → b ∈ places q → p = q
  lt : ∀ p, ∀ b ∈ places p, b < next

theorem nodup_of_subperm {l l' : List Nat} (h : l.Subperm l') (hl' : l'.Nodup) : l.Nodup := by
  obtain ⟨k, hperm, hsub⟩ := h
  exact hperm.nodup_iff.mp (hsub.nodup hl')

namespace Exclusive

variable {P : Type} {places places' : P → List Nat} {next next' : Nat}

theorem mono (h : Exclusive places next) (hnext : next ≤ next') (hsub : ∀ p, (places' p).Subperm (places p)) :
    Exclusive places' next' where
  nodup p := nodup_of_subperm (hsub p) (h.nodup p)
  unique p q b hp hq := h.unique p q b ((hsub p).subset hp) ((hsub q).subset hq)
  lt p b hb := Nat.lt_of_lt_of_le (h.lt p b ((hsub p).subset hb)) hnext

theorem move (h : Exclusive places next) (hnext : next ≤ next') {b : Nat} {p q : P} {k : List Nat} (hpq : p ≠ q)
    (hb : b < next') (honly : ∀ r, b ∈ places r → r = p) (hp : b ∉ places' p) (hk : k.Subperm (places q))
    (hq : (places' q).Subperm (b :: k)) (hsub : ∀ r, r ≠ q → (places' r).Subperm (places r)) :
    Exclusive places' next' where
  nodup r := by
    by_cases hr : r = q
    · subst hr
      refine nodup_of_subperm hq (List.nodup_cons.mpr ⟨fun hmem => ?_, nodup_of_subperm hk (h.nodup r)⟩)
      exact hpq (honly r (hk.subset hmem)).symm
    · exact nodup_of_subperm (hsub r hr) (h.nodup r)
  unique := by
    -- the buffer is at `q` only, and what else is at `q` was there before
    have hmem : ∀ r x, x ∈ places' r → x = b ∧ r = q ∨ x ≠ b ∧ x ∈ places r := by
      intro r x hx
      by_cases hr : r = q
      · subst hr
        rcases List.mem_cons.mp (hq.subset hx) with rfl | hx
        · exact Or.inl ⟨rfl, rfl⟩
        · refine Or.inr ⟨?_, hk.subset hx⟩
          rintro rfl
          exact hpq (honly r (hk.subset hx)).symm
      · have hx' := (hsub r hr).subset hx
        refine Or.inr ⟨?_, hx'⟩
        rintro rfl
        exact hp (honly r hx' ▸ hx)
    intro r r' x hx hx'
    rcases hmem r x hx with ⟨rfl, rfl⟩ | ⟨hne, hx⟩
    · rcases hmem r' x hx' with ⟨-, rfl⟩ | ⟨hne, -⟩
      · rfl
      · exact absurd rfl hne
    · rcases hmem r' x hx' with ⟨rfl, -⟩ | ⟨-, hx'⟩
      · exact absurd rfl hne
      · exact h.unique r r' x hx hx'
  lt r x hx := by
    by_cases hr : r = q
    · subst hr
      rcases List.mem_cons.mp (hq.subset hx) with rfl | hx
      · exact hb
      · exact Nat.lt_of_lt_of_le (h.lt r x (hk.subset hx)) hnext
    · exact Nat.lt_of_lt_of_le (h.lt r x ((hsub r hr).subset hx)) hnext

end Exclusive

/-! ## Linear code -/

section linear

variable [DecidableEq C] [DecidableEq F]

inductive Applies (s : Shared C F M) : Op C F M X → Shared C F M → Prop
  | taken {b : Nat} (hb : b ∈ s.pool) : Applies s (.get b) { s with pool := s.pool.erase b }
  | made (hb : s.next ∉ s.pool) : Applies s (.get s.next) { s with next := s.next + 1 }
  | put (b : Nat) : Applies s (.put b) { s with pool := b :: s.pool }
  | send {c : C} {m : M} {ch : Chan M} (hsend : (s.chans c).send m = some ch) :
      Applies s (.send c m) { s with chans := Function.update s.chans c ch }
  | recv {c : C} {m : M} {ch : Chan M} (hrecv : (s.chans c).recv = some (some m, ch)) :
      Applies s (.recv c m) { s with chans := Function.update s.chans c ch }
  | close {c : C} {ch : Chan M} (hclose : (s.chans c).close = some ch) :
      Applies s (.close c) { s with chans := Function.update s.chans c ch }
  | store (f : F) (v : Bool) : Applies s (.store f v) { s with flags := Function.update s.flags f v }
  | write (b : Nat) (d : List UInt8) :
      Applies s (.write b d) { s with heap := Function.update s.heap b (d ++ (s.heap b).drop d.length) }
  | observe {op : Op C F M X} (hop : op.observes = true) : Applies s op s

variable {s s' : Shared C F M} {op : Op C F M X}

theorem applies_of_apply [DecidableEq M] (h : s.apply op = some s') : Applies s op s' := by
  cases op with
  | get b =>
    simp only [Shared.apply] at h
    split at h
    case isTrue hb =>
      cases h
      exact .taken hb
    case isFalse hb =>
      split at h
      · cases h
        subst b
        exact .made hb
      · cases h
  | put b =>
    cases h
    exact .put b
  | send c m =>
    obtain ⟨ch, hsend, rfl⟩ := Option.map_eq_some_iff.mp h
    exact .send hsend
  | recv c m =>
    simp only [Shared.apply] at h
    split at h
    case h_1 m' ch hrecv =>
      split at h
      · cases h
        subst m'
        exact .recv hrecv
      · cases h
    case h_2 => cases h
  | close c =>
    obtain ⟨ch, hclose, rfl⟩ := Option.map_eq_some_iff.mp h
    exact .close hclose
  | store f v =>
    cases h
    exact .store f v
  | write b d =>
    cases h
    exact .write b d
  | full c | load f v | read b d | closed c =>
    simp only [Shared.apply] at h
    split at h <;> cases h
    exact .observe rfl
  | input x =>
    cases h
    exact .observe rfl

theorem Applies.next_le (h : Applies s op s') : s.next ≤ s'.next := by
  cases h <;> simp

theorem Applies.pool (h : Applies s op s') (hput : ∀ b, op ≠ .put b) : s'.pool.Subperm s.pool := by
  cases h with
  | taken hb => exact List.erase_subperm _ _
  | put b => exact absurd rfl (hput b)
  | _ => exact List.Subperm.refl _

theorem Applies.chans (h : Applies s op s') {c : C} (hsend : ∀ m, op ≠ .send c m) :
    (s'.chans c).buf.Sublist (s.chans c).buf := by
  cases h with
  | @send c' m ch h =>
    have hne : c ≠ c' := by
      rintro rfl
      exact hsend m rfl
    simp [Function.update_of_ne hne]
  | @recv c' m ch h =>
    by_cases hc : c = c'
    · subst hc
      simp [(Chan.recv_eq_value.mp h).1]
    · simp [Function.update_of_ne hc]
  | @close c' ch h =>
    by_cases hc : c = c'
    · subst hc
      simp [(Chan.close_eq_some.mp h).2.1]
    · simp [Function.update_of_ne hc]
  | _ => exact List.Sublist.refl _

theorem Applies.chans_eq (h : Applies s op s') {c : C} (hc : op.channel ≠ some c) : s'.chans c = s.chans c := by
  cases h with
  | send | recv | close => exact Function.update_of_ne (fun heq => hc (congrArg some heq.symm)) _ _
  | _ => rfl

theorem Applies.flags_eq (h : Applies s op s') {f : F} (hf : op.flag ≠ some f) : s'.flags f = s.flags f := by
  cases h with
  | store => exact Function.update_of_ne (fun heq => hf (congrArg some heq.symm)) _ _
  | _ => rfl

variable [DecidableEq G] {code : Code C F M X L} {w w' : World C F M G L} {a : Action C F M X G} {g : G}

section after

variable {l : L} {k : List Nat} {b : Nat}

theorem places_subperm (happly : Applies w.shared op s') (hk : k.Sublist (code.owned (w.locals g)))
    (howned : (code.owned l).Subperm (op.acquires code.body ++ k)) {r : Place C G} (hr : op.target g ≠ some r) :
    ((w.after g s' l).places code r).Subperm (w.places code r) := by
  cases r with
  | pool => exact happly.pool fun b hop => hr (by rw [hop, Op.target])
  | channel c => exact ((happly.chans fun m hop => hr (by rw [hop, Op.target])).map _).subperm
  | held g' =>
    by_cases hg : g' = g
    · subst hg
      rw [Op.acquires_of_target hr, List.nil_append] at howned
      rw [World.places_after_held]
      exact howned.trans hk.subperm
    · simp only [World.places, Function.update_of_ne hg]
      exact List.Subperm.refl _

theorem exclusive_acquire (h : Exclusive (w.places code) w.shared.next) (happly : Applies w.shared op s')
    (hk : k.Sublist (code.owned (w.locals g))) (howned : (code.owned l).Subperm (op.acquires code.body ++ k))
    (hop : op.acquires code.body = [b]) (htarget : op.target g = some (.held g)) {p : Place C G} (hp : p ≠ .held g)
    (hlt : b < s'.next) (honly : ∀ r, b ∈ w.places code r → r = p) (hgone : b ∉ (w.after g s' l).places code p) :
    Exclusive ((w.after g s' l).places code) s'.next := by
  refine h.move happly.next_le hp hlt honly hgone hk.subperm ?_ fun r hr => ?_
  · rw [World.places_after_held]
    rwa [hop] at howned
  · refine places_subperm happly hk howned ?_
    rw [htarget]
    exact fun heq => hr (Option.some.inj heq).symm

theorem exclusive_release (h : Exclusive (w.places code) w.shared.next) (happly : Applies w.shared op s')
    (hk : k.Sublist (code.owned (w.locals g))) (howned : (code.owned l).Subperm (op.acquires code.body ++ k))
    {q : Place C G} (htarget : op.target g = some q) (hq : q ≠ .held g) (hb : b ∈ code.owned (w.locals g))
    (hnot : b ∉ k) (hplace : ((w.after g s' l).places code q).Subperm (b :: w.places code q)) :
    Exclusive ((w.after g s' l).places code) s'.next := by
  have hnone : op.acquires code.body = [] :=
    Op.acquires_of_target (g := g) (by rw [htarget]; exact fun heq => hq (Option.some.inj heq))
  refine h.move (p := .held g) happly.next_le hq.symm ?_ ?_ ?_ (List.Subperm.refl _) hplace fun r hr => ?_
  · exact Nat.lt_of_lt_of_le (h.lt (.held g) b hb) happly.next_le
  · exact fun r hr => h.unique r (.held g) b hr hb
  · rw [World.places_after_held]
    rw [hnone] at howned
    exact fun hmem => hnot (howned.subset hmem)
  · refine places_subperm happly hk howned ?_
    rw [htarget]
    exact fun heq => hr (Option.some.inj heq).symm

end after

variable [DecidableEq M]

theorem exclusive_step (hlin : code.Linear) (h : Exclusive (w.places code) w.shared.next)
    (hstep : Step code w a w') : Exclusive (w'.places code) w'.shared.next := by
  cases hstep with
  | drop b =>
    refine h.mono (Nat.le_refl _) fun p => ?_
    cases p with
    | pool => exact List.erase_subperm b _
    | channel c | held g => exact List.Subperm.refl _
  | @run g op l shared hexec happly =>
    have heffect := applies_of_apply happly
    obtain ⟨-, hrelease, k, hk, hnot, howned⟩ := hlin _ _ _ hexec (h.nodup (.held g))
    cases applies_of_apply happly with
    | @taken b hb =>
      refine exclusive_acquire (p := .pool) h heffect hk howned rfl rfl (by simp) (h.lt .pool b hb) ?_ ?_
      · exact fun r hr => h.unique r .pool b hr hb
      · exact (h.nodup .pool).not_mem_erase
    | made hb =>
      refine exclusive_acquire (p := .pool) h heffect hk howned rfl rfl (by simp) (Nat.lt_succ_self _) ?_ hb
      exact fun r hr => absurd (h.lt r _ hr) (Nat.lt_irrefl _)
    | @recv c m ch hrecv =>
      have hbuf := (Chan.recv_eq_value.mp hrecv).1
      have hb : code.body m ∈ w.places code (.channel c) := by simp [World.places, hbuf]
      have hnodup := h.nodup (.channel c)
      simp only [World.places, hbuf, List.map_cons, List.nodup_cons] at hnodup
      refine exclusive_acquire (p := .channel c) h heffect hk howned rfl rfl (by simp) (h.lt _ _ hb) ?_ ?_
      · exact fun r hr => h.unique r _ _ hr hb
      · simpa [World.places] using hnodup.1
    | put b =>
      exact exclusive_release (q := .pool) h heffect hk howned rfl (by simp) (hrelease b (by simp [Op.releases]))
        (hnot b (by simp [Op.releases])) (List.Subperm.refl _)
    | @send c m ch hsend =>
      refine exclusive_release (q := .channel c) h heffect hk howned rfl (by simp)
        (hrelease _ (by simp [Op.releases])) (hnot (code.body m) (by simp [Op.releases])) ?_
      simp only [World.places, Function.update_self, (Chan.send_eq_some.mp hsend).2.2.1, List.map_append]
      exact List.perm_append_comm.subperm
    | close | store | write =>
      exact h.mono (Nat.le_refl _) fun r => places_subperm heffect hk howned (by simp [Op.target])
    | observe hop =>
      exact h.mono (Nat.le_refl _) fun r => places_subperm heffect hk howned (by simp [Op.target_of_observes g hop])

theorem exclusive_of_runs (hlin : code.Linear) (h : Exclusive (w.places code) w.shared.next)
    {as : List (Action C F M X G)} (hruns : Runs (Step code) w as w') :
    Exclusive (w'.places code) w'.shared.next :=
  hruns.invariant (P := fun w => Exclusive (w.places code) w.shared.next)
    (fun _ _ _ _ hs hstep => exclusive_step hlin hs hstep) h

/-! ## What goroutines do with buffers in a run -/

theorem owned_step (hlin : code.Linear) (h : Exclusive (w.places code) w.shared.next) (hstep : Step code w a w')
    {b : Nat} (hb : b ∈ code.owned (w'.locals g)) :
    b ∈ code.owned (w.locals g) ∨ ∃ op, a = .run g op ∧ b ∈ op.acquires code.body := by
  cases hstep with
  | drop => exact Or.inl hb
  | @run g' op l shared hexec happly =>
    by_cases hg : g = g'
    · subst hg
      obtain ⟨-, -, k, hk, -, howned⟩ := hlin _ _ _ hexec (h.nodup (.held g))
      simp only [Function.update_self] at hb
      rcases List.mem_append.mp (howned.subset hb) with hb | hb
      · exact Or.inr ⟨op, rfl, hb⟩
      · exact Or.inl (hk.subset hb)
    · simp only [Function.update_of_ne hg] at hb
      exact Or.inl hb

theorem not_owned_of_releases (hlin : code.Linear) (h : Exclusive (w.places code) w.shared.next)
    (hstep : Step code w (.run g op) w') {b : Nat} (hb : b ∈ op.releases code.body) :
    b ∈ code.owned (w.locals g) ∧ b ∉ code.owned (w'.locals g) := by
  cases hstep with
  | run hexec happly =>
    obtain ⟨-, hrelease, k, -, hnot, howned⟩ := hlin _ _ _ hexec (h.nodup (.held g))
    have hnone : op.acquires code.body = [] := by
      cases op <;> first | rfl | simp [Op.releases] at hb
    rw [hnone, List.nil_append] at howned
    simp only [Function.update_self]
    exact ⟨hrelease b hb, fun hmem => hnot b hb (howned.subset hmem)⟩

theorem acquired_before_use (hlin : code.Linear) (h : Exclusive (w.places code) w.shared.next)
    {xs ys zs : List (Action C F M X G)} {op' : Op C F M X} {b : Nat}
    (hruns : Runs (Step code) w (xs ++ .run g op :: (ys ++ .run g op' :: zs)) w')
    (hb : b ∈ op.releases code.body) (hb' : b ∈ op'.accesses ∨ b ∈ op'.releases code.body) :
    ∃ op'', .run g op'' ∈ ys ∧ b ∈ op''.acquires code.body := by
  obtain ⟨w₁, hxs, hrest⟩ := hruns.of_append
  cases hrest with
  | @cons _ w₂ _ _ _ hrelease hrest =>
    obtain ⟨w₃, hys, hrest⟩ := hrest.of_append
    cases hrest with
    | cons huse _ =>
      have h₁ := exclusive_of_runs hlin h hxs
      have h₂ := exclusive_step hlin h₁ hrelease
      have h₃ := exclusive_of_runs hlin h₂ hys
      by_contra hnone
      have hlost : b ∉ code.owned (w₃.locals g) := by
        have hinv := hys.invariant
          (P := fun w => Exclusive (w.places code) w.shared.next ∧ b ∉ code.owned (w.locals g)) ?_
          ⟨h₂, (not_owned_of_releases hlin h₁ hrelease hb).2⟩
        · exact hinv.2
        · intro a ha s t hs hstep
          refine ⟨exclusive_step hlin hs.1 hstep, fun hmem => ?_⟩
          rcases owned_step hlin hs.1 hstep hmem with hmem | ⟨op'', rfl, hacq⟩
          · exact hs.2 hmem
          · exact hnone ⟨op'', ha, hacq⟩
      cases huse with
      | run hexec _ =>
        obtain ⟨haccess, hrel, -⟩ := hlin _ _ _ hexec (h₃.nodup (.held g))
        exact hlost (hb'.elim (haccess b) (hrel b))

theorem channel_step (hstep : Step code w a w') {b : Nat} {c : C} (hb : b ∈ w'.places code (.channel c)) :
    b ∈ w.places code (.channel c) ∨ ∃ g op, a = .run g op ∧ b ∈ op.releases code.body := by
  cases hstep with
  | drop => exact Or.inl hb
  | @run g op l shared hexec happly =>
    have happly := applies_of_apply happly
    by_cases hsend : ∃ m, op = .send c m
    · obtain ⟨m, rfl⟩ := hsend
      cases happly with
      | send h =>
        simp only [World.places, Function.update_self, (Chan.send_eq_some.mp h).2.2.1, List.map_append,
          List.mem_append] at hb
        rcases hb with hb | hb
        · exact Or.inl hb
        · exact Or.inr ⟨g, _, rfl, hb⟩
      | observe hop => cases hop
    · exact Or.inl (((happly.chans fun m hop => hsend ⟨m, hop⟩).map _).subset hb)

theorem mem_channel_of_recv {c : C} {m : M} (hstep : Step code w (.run g (.recv c m)) w') :
    code.body m ∈ w.places code (.channel c) := by
  cases hstep with
  | run hexec happly =>
    cases applies_of_apply happly with
    | recv h => simp [World.places, (Chan.recv_eq_value.mp h).1]
    | observe hop => cases hop

theorem free_step (hlin : code.Linear) (h : Exclusive (w.places code) w.shared.next) (hstep : Step code w a w')
    {b : Nat} (hget : ∀ g, a ≠ .run g (.get b)) (hfree : ∀ r, b ∈ w.places code r → r = .pool) :
    ∀ r, b ∈ w'.places code r → r = .pool := by
  intro r hr
  cases r with
  | pool => rfl
  | held g =>
    rcases owned_step hlin h hstep hr with hmem | ⟨op, rfl, hacq⟩
    · exact hfree _ hmem
    · cases op with
      | get b' =>
        obtain rfl := List.mem_singleton.mp hacq
        exact absurd rfl (hget g)
      | recv c m =>
        obtain rfl := List.mem_singleton.mp hacq
        cases hfree _ (mem_channel_of_recv hstep)
      | _ => cases hacq
  | channel c =>
    rcases channel_step hstep hr with hmem | ⟨g, op, rfl, hrel⟩
    · exact hfree _ hmem
    · cases hfree (.held g) (not_owned_of_releases hlin h hstep hrel).1

theorem get_between_puts (hlin : code.Linear) (h : Exclusive (w.places code) w.shared.next)
    {xs ys zs : List (Action C F M X G)} {g' : G} {b : Nat}
    (hruns : Runs (Step code) w (xs ++ .run g (.put b) :: (ys ++ .run g' (.put b) :: zs)) w') :
    ∃ g'', .run g'' (.get b) ∈ ys := by
  obtain ⟨w₁, hxs, hrest⟩ := hruns.of_append
  cases hrest with
  | @cons _ w₂ _ _ _ hput hrest =>
    obtain ⟨w₃, hys, hrest⟩ := hrest.of_append
    cases hrest with
    | cons hput' _ =>
      have h₁ := exclusive_of_runs hlin h hxs
      have h₂ := exclusive_step hlin h₁ hput
      have hpool : b ∈ w₂.places code .pool := by
        cases hput with
        | run hexec happly =>
          cases happly
          simp [World.places]
      by_contra hnone
      have hinv := hys.invariant
        (P := fun w => Exclusive (w.places code) w.shared.next ∧ ∀ r, b ∈ w.places code r → r = .pool) ?_
        ⟨h₂, fun r hr => h₂.unique r .pool b hr hpool⟩
      · have hheld := not_owned_of_releases hlin hinv.1 hput' (b := b) (by simp [Op.releases])
        cases hinv.2 (.held g') hheld.1
      · intro a ha s t hs hstep
        refine ⟨exclusive_step hlin hs.1 hstep, free_step hlin hs.1 hstep ?_ hs.2⟩
        rintro g'' rfl
        exact hnone ⟨g'', ha⟩

/-- What a buffer holds does not change while it is in a channel, in the pool, or with another goroutine. -/
theorem heap_eq_of_place (hlin : code.Linear) (h : Exclusive (w.places code) w.shared.next)
    (hstep : Step code w (.run g op) w') {b : Nat} {p : Place C G} (hb : b ∈ w.places code p) (hp : p ≠ .held g) :
    w'.shared.heap b = w.shared.heap b := by
  cases hstep with
  | run hexec happly =>
    obtain ⟨haccess, -, -⟩ := hlin _ _ _ hexec (h.nodup (.held g))
    cases applies_of_apply happly with
    | write b' d =>
      have hne : b ≠ b' := by
        rintro rfl
        exact hp (h.unique p (.held g) b hb (haccess b List.mem_cons_self))
      exact Function.update_of_ne hne _ _
    | _ => rfl

end linear

/-! ## Building runs -/

section reaches

variable [DecidableEq C] [DecidableEq F] [DecidableEq M] [DecidableEq G] {code : Code C F M X L} {w : World C F M G L}
  {locals : G → L} {chans chans' : C → Chan M} {flags flags' : F → Bool} {l : L} {op : Op C F M X}

/-- A run leads to these local states, channels and flags. Where the buffers are is left open. -/
def Reaches (code : Code C F M X L) (w : World C F M G L) (locals : G → L) (chans : C → Chan M) (flags : F → Bool) :
    Prop :=
  ∃ as w', Runs (Step code) w as w' ∧ w'.locals = locals ∧ w'.shared.chans = chans ∧ w'.shared.flags = flags

namespace Reaches

theorem refl (code : Code C F M X L) (w : World C F M G L) : Reaches code w w.locals w.shared.chans w.shared.flags :=
  ⟨[], w, .nil w, rfl, rfl, rfl⟩

theorem step (h : Reaches code w locals chans flags) (g : G) (hexec : code.exec (locals g) op = some l)
    (happly : ∀ s : Shared C F M, s.chans = chans → s.flags = flags →
      ∃ s', s.apply op = some s' ∧ s'.chans = chans' ∧ s'.flags = flags') :
    Reaches code w (Function.update locals g l) chans' flags' := by
  obtain ⟨as, w', hruns, rfl, hchans, hflags⟩ := h
  obtain ⟨s', hs', hchans', hflags'⟩ := happly w'.shared hchans hflags
  exact ⟨_, _, hruns.snoc (.run hexec hs'), rfl, hchans', hflags'⟩

theorem get (h : Reaches code w locals chans flags) (g : G) {l : Nat → L}
    (hexec : ∀ b, code.exec (locals g) (.get b) = some (l b)) :
    ∃ b, Reaches code w (Function.update locals g (l b)) chans flags := by
  obtain ⟨as, w', hruns, rfl, hchans, hflags⟩ := h
  refine ⟨w'.shared.next, ?_⟩
  by_cases hb : w'.shared.next ∈ w'.shared.pool
  · exact ⟨_, _, hruns.snoc (.run (hexec _) (if_pos hb)), rfl, hchans, hflags⟩
  · exact ⟨_, _, hruns.snoc (.run (hexec _) ((if_neg hb).trans (if_pos rfl))), rfl, hchans, hflags⟩

theorem put (h : Reaches code w locals chans flags) (g : G) {b : Nat}
    (hexec : code.exec (locals g) (.put b) = some l) : Reaches code w (Function.update locals g l) chans flags :=
  h.step g hexec fun _ hchans hflags => ⟨_, rfl, hchans, hflags⟩

theorem write (h : Reaches code w locals chans flags) (g : G) {b : Nat} {d : List UInt8}
    (hexec : code.exec (locals g) (.write b d) = some l) : Reaches code w (Function.update locals g l) chans flags :=
  h.step g hexec fun _ hchans hflags => ⟨_, rfl, hchans, hflags⟩

theorem read_nil (h : Reaches code w locals chans flags) (g : G) {b : Nat}
    (hexec : code.exec (locals g) (.read b []) = some l) : Reaches code w (Function.update locals g l) chans flags :=
  h.step g hexec fun s hchans hflags => ⟨s, by simp [Shared.apply], hchans, hflags⟩

theorem input (h : Reaches code w locals chans flags) (g : G) {x : X}
    (hexec : code.exec (locals g) (.input x) = some l) : Reaches code w (Function.update locals g l) chans flags :=
  h.step g hexec fun _ hchans hflags => ⟨_, rfl, hchans, hflags⟩

theorem load (h : Reaches code w locals chans flags) (g : G) {f : F}
    (hexec : code.exec (locals g) (.load f (flags f)) = some l) :
    Reaches code w (Function.update locals g l) chans flags :=
  h.step g hexec fun s hchans hflags => ⟨s, by simp [Shared.apply, hflags], hchans, hflags⟩

theorem store (h : Reaches code w locals chans flags) (g : G) {f : F} {v : Bool}
    (hexec : code.exec (locals g) (.store f v) = some l) :
    Reaches code w (Function.update locals g l) chans (Function.update flags f v) :=
  h.step g hexec fun _ hchans hflags => ⟨_, rfl, hchans, by rw [hflags]⟩

theorem send (h : Reaches code w locals chans flags) (g : G) {c : C} {m : M} {ch : Chan M}
    (hexec : code.exec (locals g) (.send c m) = some l) (hsend : (chans c).send m = some ch) :
    Reaches code w (Function.update locals g l) (Function.update chans c ch) flags :=
  h.step g hexec fun s hchans hflags =>
    ⟨{ s with chans := Function.update s.chans c ch }, by simp [Shared.apply, hchans, hsend], by rw [hchans], hflags⟩

theorem recv (h : Reaches code w locals chans flags) (g : G) {c : C} {m : M} {ch : Chan M}
    (hexec : code.exec (locals g) (.recv c m) = some l) (hrecv : (chans c).recv = some (some m, ch)) :
    Reaches code w (Function.update locals g l) (Function.update chans c ch) flags :=
  h.step g hexec fun s hchans hflags =>
    ⟨{ s with chans := Function.update s.chans c ch }, by simp [Shared.apply, hchans, hrecv], by rw [hchans], hflags⟩

end Reaches

end reaches

end Goroutines
