import Mathlib.Data.List.Induction
import Mathlib.Tactic.Common

/-!
# Runs of a system

A system is a relation `Step s a t`: in the state `s` the event `a` can happen and leads to `t`. The
processes of a concurrent system interleave in its runs, so that what holds for every interleaving is
what holds for every run.

The rules are those of the rest of the development: what every step keeps holds along a run
(`Runs.invariant`, and `Runs.history` for invariants that speak of the events so far), related systems
have the same runs (`Runs.simulates`, and `Runs.refines` where one of them takes smaller steps), and where
the steps of others are not seen by a part of the system, its own events form a run of their own
(`Runs.unwind`, and `Runs.unwind_at` where the steps are known by the place of the run they are taken at).
-/

/-- The events `as` happen one after the other from `s` on, and lead to `t`. -/
inductive Runs {σ α : Type} (Step : σ → α → σ → Prop) : σ → List α → σ → Prop
  | nil (s : σ) : Runs Step s [] s
  | cons {s s' t : σ} {a : α} {as : List α} (h : Step s a s') (h' : Runs Step s' as t) : Runs Step s (a :: as) t

namespace Runs

variable {σ τ α : Type} {Step : σ → α → σ → Prop} {s s' t u : σ} {a : α} {as bs : List α}

theorem append (h : Runs Step s as t) (h' : Runs Step t bs u) : Runs Step s (as ++ bs) u := by
  induction h with
  | nil => exact h'
  | cons hstep _ ih => exact .cons hstep (ih h')

theorem snoc (h : Runs Step s as t) (hstep : Step t a u) : Runs Step s (as ++ [a]) u :=
  h.append (.cons hstep (.nil u))

theorem of_append (h : Runs Step s (as ++ bs) u) : ∃ t, Runs Step s as t ∧ Runs Step t bs u := by
  induction as generalizing s with
  | nil => exact ⟨s, .nil s, h⟩
  | cons a as ih =>
    cases h with
    | cons hstep h' =>
      obtain ⟨t, h1, h2⟩ := ih h'
      exact ⟨t, .cons hstep h1, h2⟩

theorem foldlM_iff {f : σ → α → Option σ} (hf : ∀ s a t, f s a = some t ↔ Step s a t) :
    as.foldlM f s = some t ↔ Runs Step s as t := by
  induction as generalizing s with
  | nil =>
    constructor
    · intro h
      obtain rfl := Option.some.inj h
      exact .nil s
    · intro h
      cases h
      rfl
  | cons a as ih =>
    rw [List.foldlM_cons]
    constructor
    · intro h
      obtain ⟨s', hs', h'⟩ := Option.bind_eq_some_iff.mp h
      exact .cons ((hf s a s').mp hs') (ih.mp h')
    · intro h
      cases h with
      | cons hstep h' => exact Option.bind_eq_some_iff.mpr ⟨_, (hf _ _ _).mpr hstep, ih.mpr h'⟩

theorem invariant {P : σ → Prop} (hstep : ∀ a ∈ as, ∀ s t, P s → Step s a t → P t) (hs : P s)
    (h : Runs Step s as t) : P t := by
  induction h with
  | nil => exact hs
  | @cons s s' t a as hfirst _ ih =>
    exact ih (fun b hb => hstep b (List.mem_cons_of_mem _ hb)) (hstep a List.mem_cons_self s s' hs hfirst)

theorem history {P : List α → σ → Prop} (hs : P [] s)
    (hstep : ∀ as t a u, Runs Step s as t → P as t → Step t a u → P (as ++ [a]) u)
    (h : Runs Step s as t) : P as t := by
  induction as using List.reverseRecOn generalizing t with
  | nil =>
    cases h
    exact hs
  | append_singleton as a ih =>
    obtain ⟨u, hu, hlast⟩ := h.of_append
    cases hlast with
    | cons hlast hnil =>
      cases hnil
      exact hstep as u a t hu (ih hu) hlast

/-- A run of one system is a run of another that can follow each of its steps. -/
theorem simulates {Step' : τ → α → τ → Prop} {R : σ → τ → Prop} {x : τ}
    (hstep : ∀ s x a s', R s x → Step s a s' → ∃ x', Step' x a x' ∧ R s' x')
    (hR : R s x) (h : Runs Step s as t) : ∃ y, Runs Step' x as y ∧ R t y := by
  induction h generalizing x with
  | nil => exact ⟨x, .nil x, hR⟩
  | cons hfirst _ ih =>
    obtain ⟨x', hx', hR'⟩ := hstep _ _ _ _ hR hfirst
    obtain ⟨y, hy, hRy⟩ := ih hR'
    exact ⟨y, .cons hx' hy, hRy⟩

/-- A run of one system is followed by another in which each step takes some steps, or none. -/
theorem refines {β : Type} {Step' : τ → β → τ → Prop} {R : σ → τ → Prop} {x : τ}
    (hstep : ∀ s x a s', R s x → Step s a s' → ∃ bs x', Runs Step' x bs x' ∧ R s' x')
    (hR : R s x) (h : Runs Step s as t) : ∃ bs y, Runs Step' x bs y ∧ R t y := by
  induction h generalizing x with
  | nil => exact ⟨[], x, .nil x, hR⟩
  | cons hfirst _ ih =>
    obtain ⟨bs, x', hx', hR'⟩ := hstep _ _ _ _ hR hfirst
    obtain ⟨cs, y, hy, hRy⟩ := ih hR'
    exact ⟨bs ++ cs, y, hx'.append hy, hRy⟩

/-- The run from `s` over `as` comes to the event `a` in the state `t`. -/
def At (Step : σ → α → σ → Prop) (s : σ) (as : List α) (a : α) (t : σ) : Prop :=
  ∃ bs cs, as = bs ++ a :: cs ∧ Runs Step s bs t

theorem at_cons_iff {b : α} :
    At Step s (a :: as) b t ↔ b = a ∧ t = s ∨ ∃ r, Step s a r ∧ At Step r as b t := by
  constructor
  · rintro ⟨bs, cs, heq, hrun⟩
    cases hrun with
    | nil =>
      obtain ⟨rfl, -⟩ := List.cons.inj heq
      exact .inl ⟨rfl, rfl⟩
    | @cons _ r _ _ bs hstep hrun =>
      obtain ⟨rfl, rfl⟩ := List.cons.inj heq
      exact .inr ⟨r, hstep, bs, cs, rfl, hrun⟩
  · rintro (⟨rfl, rfl⟩ | ⟨r, hstep, bs, cs, rfl, hrun⟩)
    · exact ⟨[], as, rfl, .nil t⟩
    · exact ⟨a :: bs, cs, rfl, .cons hstep hrun⟩

theorem not_at_nil {b : α} : ¬ At Step s [] b t := by
  rintro ⟨bs, cs, heq, -⟩
  cases bs <;> cases heq

/-- **Unwinding.** `E s x` says that `s` and `x` look the same to some part of the system. If the events
of this part only depend on how the state looks, and the other events do not change how it looks, then
what the part does in a run it can do alone. -/
theorem unwind_at {own : α → Bool} {E : σ → σ → Prop} {x : σ}
    (hown : ∀ a r x r', own a = true → At Step s as a r → E r x → Step r a r' → ∃ x', Step x a x' ∧ E r' x')
    (hother : ∀ a r x r', own a = false → At Step s as a r → E r x → Step r a r' → E r' x)
    (hE : E s x) (h : Runs Step s as t) : ∃ y, Runs Step x (as.filter own) y ∧ E t y := by
  -- the rest of the run, after the events `bs`
  suffices hrest : ∀ cs bs r x, as = bs ++ cs → Runs Step s bs r → Runs Step r cs t → E r x →
      ∃ y, Runs Step x (cs.filter own) y ∧ E t y from hrest as [] s x rfl (.nil s) h hE
  intro cs
  induction cs with
  | nil =>
    intro bs r x _ _ hnil hE
    cases hnil
    exact ⟨x, .nil x, hE⟩
  | cons a cs ih =>
    intro bs r x has hbs hcs hE
    cases hcs with
    | @cons _ r' _ _ _ hstep hcs =>
      have hat : At Step s as a r := ⟨bs, cs, has, hbs⟩
      have hih := ih (bs ++ [a]) r'
      rw [List.append_assoc, List.singleton_append] at hih
      cases ha : own a with
      | true =>
        obtain ⟨x', hx', hE'⟩ := hown a r x r' ha hat hE hstep
        obtain ⟨y, hy, hEy⟩ := hih x' has (hbs.snoc hstep) hcs hE'
        rw [List.filter_cons_of_pos ha]
        exact ⟨y, .cons hx' hy, hEy⟩
      | false =>
        rw [List.filter_cons_of_neg (by simp [ha])]
        exact hih x has (hbs.snoc hstep) hcs (hother a r x r' ha hat hE hstep)

theorem unwind {own : α → Bool} {E : σ → σ → Prop} {x : σ}
    (hown : ∀ a ∈ as, own a = true → ∀ s x s', E s x → Step s a s' → ∃ x', Step x a x' ∧ E s' x')
    (hother : ∀ a ∈ as, own a = false → ∀ s x s', E s x → Step s a s' → E s' x)
    (hE : E s x) (h : Runs Step s as t) : ∃ y, Runs Step x (as.filter own) y ∧ E t y := by
  have hmem : ∀ a r, At Step s as a r → a ∈ as := by
    rintro a r ⟨bs, cs, rfl, -⟩
    exact List.mem_append_right _ List.mem_cons_self
  exact unwind_at (fun a r x r' ha hat => hown a (hmem a r hat) ha r x r')
    (fun a r x r' ha hat => hother a (hmem a r hat) ha r x r') hE h

end Runs
