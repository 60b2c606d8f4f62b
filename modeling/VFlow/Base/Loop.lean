import Mathlib.Logic.Relation
import Mathlib.Order.Lattice
import Mathlib.Tactic.Common

/-!
# Loops that may not end

A `for` loop is a pass function: from a loop state it goes round again (`LoopStep.next`), leaves with a
result (`LoopStep.done`), or does not come back at all (`none`, when the pass runs a loop of its own
that is out of fuel). `run` repeats the pass with a bound on the number of passes, so that a loop
that never ends is one whose `run` is `none` for every bound.

A loop whose pass contains a loop is a family of passes indexed by the inner bound (`Family`). The
rules below are the only way the rest of the development reasons about iteration: an invariant rule
for what holds when the loop returns (`run_invariant`), a measure rule for that it returns
(`run_of_measure`), a rule for that it never does (`run_eq_none`), and, for families, the states a
run goes through (`Visits`), after how many passes it can (`VisitsIn.charge`) and when it returns
(`returns_iff`).
-/

/-- What one pass of a loop does. -/
inductive LoopStep (σ ρ : Type) where
  | next (state : σ)
  | done (result : ρ)
  deriving DecidableEq, Repr

namespace Loop

variable {σ ρ : Type}

/-- At most `fuel` passes from the state `s`. -/
def run (pass : σ → Option (LoopStep σ ρ)) : Nat → σ → Option ρ
  | 0, _ => none
  | fuel + 1, s =>
    match pass s with
    | none => none
    | some (.done r) => some r
    | some (.next s') => run pass fuel s'

section pass
variable {pass : σ → Option (LoopStep σ ρ)} {s s' : σ} {r : ρ}

theorem run_done (h : pass s = some (.done r)) (fuel : Nat) : run pass (fuel + 1) s = some r := by
  simp only [run, h]

theorem run_next (h : pass s = some (.next s')) (fuel : Nat) :
    run pass (fuel + 1) s = run pass fuel s' := by
  simp only [run, h]

theorem run_cases {fuel : Nat} (h : run pass fuel s = some r) :
    ∃ m, fuel = m + 1 ∧ (pass s = some (.done r) ∨ ∃ s', pass s = some (.next s') ∧ run pass m s' = some r) := by
  cases fuel with
  | zero => simp [run] at h
  | succ m =>
    refine ⟨m, rfl, ?_⟩
    cases hp : pass s with
    | none => simp [run, hp] at h
    | some flow =>
      cases flow with
      | done r' =>
        simp only [run, hp, Option.some.injEq] at h
        exact Or.inl (by rw [h])
      | next s' => exact Or.inr ⟨s', rfl, by simpa only [run, hp] using h⟩

theorem run_mono {pass' : σ → Option (LoopStep σ ρ)}
    (hpass : ∀ s x, pass s = some x → pass' s = some x) {n m : Nat} (hnm : n ≤ m)
    (h : run pass n s = some r) : run pass' m s = some r := by
  induction n generalizing s m with
  | zero => simp [run] at h
  | succ n ih =>
    obtain ⟨m, rfl⟩ : ∃ k, m = k + 1 := ⟨m - 1, by omega⟩
    obtain ⟨k, hk, hdone | ⟨s', hnext, hrun⟩⟩ := run_cases h
    · exact run_done (hpass _ _ hdone) m
    · obtain rfl : n = k := by omega
      rw [run_next (hpass _ _ hnext)]
      exact ih (by omega) hrun

/-- The invariant rule: what every pass keeps holds when the loop returns. -/
theorem run_invariant {P : σ → Prop} {Q : ρ → Prop}
    (hnext : ∀ s s', P s → pass s = some (.next s') → P s')
    (hdone : ∀ s r, P s → pass s = some (.done r) → Q r)
    {fuel : Nat} (hs : P s) (h : run pass fuel s = some r) : Q r := by
  induction fuel generalizing s with
  | zero => simp [run] at h
  | succ n ih =>
    obtain ⟨k, hk, hd | ⟨s', hn, hrun⟩⟩ := run_cases h
    · exact hdone s r hs hd
    · obtain rfl : n = k := by omega
      exact ih (hnext s s' hs hn) hrun

/-- The measure rule: a loop whose passes leave or decrease a measure returns. -/
theorem run_of_measure {P : σ → Prop} {Q : ρ → Prop} (μ : σ → Nat)
    (hpass : ∀ s, P s → (∃ r, pass s = some (.done r) ∧ Q r) ∨
      ∃ s', pass s = some (.next s') ∧ P s' ∧ μ s' < μ s)
    (hs : P s) : ∃ r, run pass (μ s + 1) s = some r ∧ Q r := by
  suffices hgen : ∀ n s, P s → μ s ≤ n → ∃ r, run pass (n + 1) s = some r ∧ Q r from
    hgen (μ s) s hs (le_refl _)
  intro n
  induction n with
  | zero =>
    intro s hs hle
    rcases hpass s hs with ⟨r, hr, hpost⟩ | ⟨s', -, -, hlt⟩
    · exact ⟨r, run_done hr 0, hpost⟩
    · omega
  | succ n ih =>
    intro s hs hle
    rcases hpass s hs with ⟨r, hr, hpost⟩ | ⟨s', hs', hinv, hlt⟩
    · exact ⟨r, run_done hr _, hpost⟩
    · rw [run_next hs']
      exact ih s' hinv (by omega)

theorem run_related {σ' ρ' : Type} (pass' : σ' → Option (LoopStep σ' ρ')) {R : σ → σ' → Prop} {Q : ρ → ρ' → Prop}
    (hnext : ∀ s t s', R s t → pass s = some (.next s') → ∃ t', pass' t = some (.next t') ∧ R s' t')
    (hdone : ∀ s t r, R s t → pass s = some (.done r) → ∃ r', pass' t = some (.done r') ∧ Q r r')
    {t : σ'} {fuel : Nat} (hR : R s t) (h : run pass fuel s = some r) :
    ∃ r', run pass' fuel t = some r' ∧ Q r r' := by
  induction fuel generalizing s t with
  | zero => simp [run] at h
  | succ n ih =>
    obtain ⟨k, hk, hd | ⟨s', hn, hrun⟩⟩ := run_cases h
    · obtain ⟨r', hr', hQ⟩ := hdone s t r hR hd
      exact ⟨r', run_done hr' n, hQ⟩
    · obtain rfl : n = k := by omega
      obtain ⟨t', ht', hR'⟩ := hnext s t s' hR hn
      rw [run_next ht']
      exact ih hR' hrun

theorem run_eq_none {P : σ → Prop} (hpass : ∀ s, P s → ∃ s', pass s = some (.next s') ∧ P s')
    (fuel : Nat) (hs : P s) : run pass fuel s = none := by
  induction fuel generalizing s with
  | zero => rfl
  | succ n ih =>
    obtain ⟨s', hn, hs'⟩ := hpass s hs
    rw [run_next hn]
    exact ih hs'

end pass

/-! ## Families of passes -/

/-- The family of passes is defined more often with a larger bound. -/
def Family (pass : Nat → σ → Option (LoopStep σ ρ)) : Prop :=
  ∀ n m s x, n ≤ m → pass n s = some x → pass m s = some x

/-- The loop returns `r` from `s`, for a large enough bound. -/
def Returns (pass : Nat → σ → Option (LoopStep σ ρ)) (s : σ) (r : ρ) : Prop :=
  ∃ n, run (pass n) n s = some r

/-- The loop started in `s` comes to a pass in `t`. -/
def Visits (pass : Nat → σ → Option (LoopStep σ ρ)) : σ → σ → Prop :=
  Relation.ReflTransGen fun a b => ∃ n, pass n a = some (.next b)

/-- The loop started in `s` comes, after `n` passes that went round, to a pass in `t`. -/
inductive VisitsIn (pass : Nat → σ → Option (LoopStep σ ρ)) (s : σ) : Nat → σ → Prop
  | zero : VisitsIn pass s 0 s
  | succ {n k : Nat} {t u : σ} (h : VisitsIn pass s n t) (hnext : pass k t = some (.next u)) :
    VisitsIn pass s (n + 1) u

section family
variable {pass : Nat → σ → Option (LoopStep σ ρ)} {s t : σ} {r : ρ}

theorem Visits.invariant {P : σ → Prop}
    (hnext : ∀ n s s', P s → pass n s = some (.next s') → P s')
    (hs : P s) (h : Visits pass s t) : P t := by
  induction h with
  | refl => exact hs
  | tail _ hlast ih =>
    obtain ⟨n, hn⟩ := hlast
    exact hnext n _ _ ih hn

theorem visits_iff_visitsIn : Visits pass s t ↔ ∃ n, VisitsIn pass s n t := by
  constructor
  · intro h
    induction h with
    | refl => exact ⟨0, .zero⟩
    | tail _ hlast ih =>
      obtain ⟨n, hn⟩ := ih
      obtain ⟨k, hk⟩ := hlast
      exact ⟨n + 1, hn.succ hk⟩
  · rintro ⟨n, hn⟩
    induction hn with
    | zero => exact .refl
    | succ _ hnext ih => exact ih.tail ⟨_, hnext⟩

/-- The charge rule: where every pass that goes round pays `c` out of a measure, the passes are paid by it. -/
theorem VisitsIn.charge {n c : Nat} {μ : σ → Nat} (hpay : ∀ k s t, pass k s = some (.next t) → μ t + c ≤ μ s)
    (h : VisitsIn pass s n t) : μ t + c * n ≤ μ s := by
  induction h with
  | zero => exact Nat.le_refl _
  | @succ n k t u _ hnext ih =>
    have hlast := hpay k t u hnext
    rw [Nat.mul_succ]
    omega

theorem VisitsIn.of_run {n m : Nat} (h : run (pass n) m s = some r) :
    ∃ k t, VisitsIn pass s k t ∧ pass n t = some (.done r) :=
  run_invariant (P := fun t => ∃ k, VisitsIn pass s k t)
    (Q := fun r => ∃ k t, VisitsIn pass s k t ∧ pass n t = some (.done r))
    (fun _ _ ⟨k, hk⟩ hnext => ⟨k + 1, hk.succ hnext⟩) (fun t _ ⟨k, hk⟩ hdone => ⟨k, t, hk, hdone⟩) ⟨0, .zero⟩ h

theorem Returns.of_run (hfam : Family pass) {n m : Nat} (h : run (pass n) m s = some r) : Returns pass s r :=
  ⟨max n m, run_mono (fun s x hx => hfam n _ s x (le_max_left _ _) hx) (le_max_right _ _) h⟩

theorem Returns.of_done (hfam : Family pass) {n : Nat} (h : pass n s = some (.done r)) : Returns pass s r :=
  Returns.of_run hfam (run_done h 0)

theorem Returns.of_next (hfam : Family pass) {n : Nat} (h : pass n s = some (.next t))
    (ht : Returns pass t r) : Returns pass s r := by
  obtain ⟨m, hm⟩ := ht
  refine Returns.of_run hfam (n := max n m) (m := m + 1) ?_
  rw [run_next (hfam n _ s _ (le_max_left _ _) h)]
  exact run_mono (fun s x hx => hfam m _ s x (le_max_right _ _) hx) (le_refl _) hm

theorem Returns.cases (h : Returns pass s r) :
    (∃ n, pass n s = some (.done r)) ∨ ∃ n t, pass n s = some (.next t) ∧ ∃ m, run (pass n) m t = some r := by
  obtain ⟨n, hn⟩ := h
  obtain ⟨m, -, hd | ⟨t, ht, hrun⟩⟩ := run_cases hn
  · exact Or.inl ⟨n, hd⟩
  · exact Or.inr ⟨n, t, ht, m, hrun⟩

theorem Family.unique (hfam : Family pass) {n m : Nat} {x y : LoopStep σ ρ} (hx : pass n s = some x)
    (hy : pass m s = some y) : x = y := by
  have hx' := hfam n _ s x (le_max_left n m) hx
  have hy' := hfam m _ s y (le_max_right n m) hy
  exact Option.some.inj (hx'.symm.trans hy')

theorem Returns.unique (hfam : Family pass) {r' : ρ} (h : Returns pass s r) (h' : Returns pass s r') :
    r = r' := by
  obtain ⟨n, hn⟩ := h
  obtain ⟨m, hm⟩ := h'
  have hn' := run_mono (fun s x hx => hfam n _ s x (le_max_left n m) hx) (le_max_left n m) hn
  have hm' := run_mono (fun s x hx => hfam m _ s x (le_max_right n m) hx) (le_max_right n m) hm
  exact Option.some.inj (hn'.symm.trans hm')

theorem Returns.of_visits (hfam : Family pass) (h : Returns pass s r) (hv : Visits pass s t) :
    Returns pass t r := by
  induction hv with
  | refl => exact h
  | @tail b c _ hlast ih =>
    obtain ⟨n, hn⟩ := hlast
    rcases ih.cases with ⟨m, hd⟩ | ⟨m, t', ht', k, hk⟩
    · exact absurd (hfam.unique hn hd) (by simp)
    · have hc : LoopStep.next c = LoopStep.next t' := hfam.unique hn ht'
      rw [LoopStep.next.injEq] at hc
      rw [hc]
      exact Returns.of_run hfam hk

theorem Visits.returns (hfam : Family pass) (hv : Visits pass s t) (h : Returns pass t r) : Returns pass s r := by
  induction hv using Relation.ReflTransGen.head_induction_on with
  | refl => exact h
  | head hfirst _ ih =>
    obtain ⟨n, hn⟩ := hfirst
    exact ih.of_next hfam hn

/-- Where every pass that goes round decreases a measure, the loop returns exactly if no state it
visits has a pass that does not come back. -/
theorem returns_iff (hfam : Family pass) (μ : σ → Nat)
    (hdec : ∀ n s s', pass n s = some (.next s') → μ s' < μ s) :
    (∃ r, Returns pass s r) ↔ ∀ t, Visits pass s t → ∃ n x, pass n t = some x := by
  constructor
  · rintro ⟨r, hr⟩ t ht
    rcases (hr.of_visits hfam ht).cases with ⟨n, hd⟩ | ⟨n, t', ht', -⟩
    · exact ⟨n, _, hd⟩
    · exact ⟨n, _, ht'⟩
  · intro hdef
    induction hμ : μ s using Nat.strong_induction_on generalizing s with
    | h k ih =>
      obtain ⟨n, x, hx⟩ := hdef s .refl
      cases x with
      | done r => exact ⟨r, Returns.of_done hfam hx⟩
      | next s' =>
        obtain ⟨r, hr⟩ := ih (μ s') (by rw [← hμ]; exact hdec n s s' hx)
          (fun t ht => hdef t (ht.head ⟨n, hx⟩)) rfl
        exact ⟨r, hr.of_next hfam hx⟩

end family

end Loop
