import VFlow.RecordLoop

/-!
# The loop over the sets of a packet

`Decode` of `ipfix` and of `netflow9` has the same loop: while more than 4 bytes are left, decode a
set; collect an error that the type switch takes for `nonfatalError`, return on any other. It is
written here once, over the state `S` that `decodeSet` works on and `reader`, the reader in it.

The type switch takes every error for `nonfatalError`, so the loop only ends when the packet is used
up (`setPass_eq_done`): each pass is a `decodeSet` whose error, if any, joins the list
(`setPass_eq_next`).
-/

namespace VFlow

/-- How the loop ends: with the packet used up, or at an error that is returned at once. -/
inductive SetsEnd (S : Type) where
  | all (s : S) (decodeErrors : List Error)
  | fatal (s : S) (err : Error)

variable {S : Type} (reader : S → Reader) (decodeSet : Nat → S → Option (S × Option Error))

/-- One pass; `fuel` bounds the passes of the loop inside `decodeSet`. -/
def setPass (fuel : Nat) (x : S × List Error) : Option (LoopStep (S × List Error) (SetsEnd S)) :=
  if (reader x.1).len > 4 then
    match decodeSet fuel x.1 with
    | none => none
    | some (s, none) => some (.next (s, x.2))
    | some (s, some err) =>
      if err.isNonfatalError then some (.next (s, x.2 ++ [err])) else some (.done (.fatal s err))
  else some (.done (.all x.1 x.2))

/-- The loop, started with no errors collected. -/
def decodeSets (fuel : Nat) (s : S) : Option (SetsEnd S) :=
  Loop.run (setPass reader decodeSet fuel) fuel (s, [])

/-- The loop started in `s₀` comes to a call of `decodeSet` in the state `s`. -/
def EntersSet (s₀ s : S) : Prop :=
  ∃ errs, Loop.Visits (setPass reader decodeSet) (s₀, []) (s, errs) ∧ 4 < (reader s).len

/-- `decodeSet` gives the same result with a larger bound. -/
def SetFamily : Prop :=
  ∀ n m s x, n ≤ m → decodeSet n s = some x → decodeSet m s = some x

variable {reader decodeSet} {s s' s₀ : S} {errs errs' : List Error} {err : Option Error} {fuel : Nat}

theorem SetFamily.unique (hfam : SetFamily decodeSet) {n m : Nat} {x y : S × Option Error}
    (hx : decodeSet n s = some x) (hy : decodeSet m s = some y) : x = y :=
  Option.some.inj ((hfam n (max n m) s x (Nat.le_max_left n m) hx).symm.trans
    (hfam m (max n m) s y (Nat.le_max_right n m) hy))

theorem setPass_of_decodeSet (hlen : 4 < (reader s).len) (h : decodeSet fuel s = some (s', err)) :
    setPass reader decodeSet fuel (s, errs) = some (.next (s', errs ++ err.toList)) := by
  cases err with
  | none => simp [setPass, hlen, h]
  | some e => simp [setPass, hlen, h]

theorem setPass_eq_next :
    setPass reader decodeSet fuel (s, errs) = some (.next (s', errs')) ↔
      4 < (reader s).len ∧ ∃ err, decodeSet fuel s = some (s', err) ∧ errs' = errs ++ err.toList := by
  constructor
  · intro h
    by_cases hlen : 4 < (reader s).len
    · refine ⟨hlen, ?_⟩
      cases hset : decodeSet fuel s with
      | none => simp [setPass, hlen, hset] at h
      | some out =>
        obtain ⟨t, err⟩ := out
        rw [setPass_of_decodeSet hlen hset] at h
        simp only [Option.some.injEq, LoopStep.next.injEq, Prod.mk.injEq] at h
        exact ⟨err, by rw [h.1], h.2.symm⟩
    · simp [setPass, hlen] at h
  · rintro ⟨hlen, err, hset, rfl⟩
    exact setPass_of_decodeSet hlen hset

theorem setPass_eq_done {r : SetsEnd S} :
    setPass reader decodeSet fuel (s, errs) = some (.done r) ↔ (reader s).len ≤ 4 ∧ r = .all s errs := by
  by_cases hlen : 4 < (reader s).len
  · cases hset : decodeSet fuel s with
    | none =>
      simp only [setPass, hlen, hset, if_true, reduceCtorEq, false_iff]
      omega
    | some out =>
      rw [setPass_of_decodeSet hlen (by rw [hset])]
      simp only [Option.some.injEq, reduceCtorEq, false_iff]
      omega
  · simp only [setPass, if_neg hlen, Option.some.injEq, LoopStep.done.injEq]
    constructor
    · rintro rfl
      exact ⟨by omega, rfl⟩
    · rintro ⟨-, rfl⟩
      rfl

theorem setPass_isSome (hset : 4 < (reader s).len → ∃ out, decodeSet fuel s = some out) :
    ∃ x, setPass reader decodeSet fuel (s, errs) = some x := by
  by_cases hlen : 4 < (reader s).len
  · obtain ⟨⟨t, err⟩, h⟩ := hset hlen
    exact ⟨_, setPass_of_decodeSet hlen h⟩
  · exact ⟨.done (.all s errs), setPass_eq_done.mpr ⟨by omega, rfl⟩⟩

theorem setPass_family (hfam : SetFamily decodeSet) : Loop.Family (setPass reader decodeSet) := by
  intro n m x flow hnm h
  obtain ⟨s, errs⟩ := x
  cases flow with
  | next y =>
    obtain ⟨hlen, err, hset, hy⟩ := setPass_eq_next.mp h
    exact setPass_eq_next.mpr ⟨hlen, err, hfam n m s _ hnm hset, hy⟩
  | done r => exact setPass_eq_done.mpr (setPass_eq_done.mp h)

theorem EntersSet.invariant {P : S → Prop}
    (hset : ∀ n s s' err, P s → 4 < (reader s).len → decodeSet n s = some (s', err) → P s')
    (hs : P s₀) (h : EntersSet reader decodeSet s₀ s) : P s := by
  obtain ⟨errs, hv, -⟩ := h
  refine hv.invariant (P := fun x => P x.1) ?_ hs
  rintro n ⟨s, errs⟩ ⟨s', errs'⟩ hinv hnext
  obtain ⟨hlen, err, hd, -⟩ := setPass_eq_next.mp hnext
  exact hset n s s' err hinv hlen hd

theorem EntersSet.next (h : EntersSet reader decodeSet s₀ s) (hset : decodeSet fuel s = some (s', err)) :
    ∃ errs, Loop.Visits (setPass reader decodeSet) (s₀, []) (s', errs ++ err.toList) := by
  obtain ⟨errs, hv, hlen⟩ := h
  exact ⟨errs, hv.tail ⟨fuel, setPass_of_decodeSet hlen hset⟩⟩

theorem visits_errs_subset {x y : S × List Error} (h : Loop.Visits (setPass reader decodeSet) x y) :
    x.2 <+: y.2 := by
  induction h with
  | refl => exact List.prefix_refl _
  | @tail y z _ hlast ih =>
    obtain ⟨n, hn⟩ := hlast
    obtain ⟨-, err, -, herr⟩ := setPass_eq_next.mp hn
    rw [herr]
    exact ih.trans (List.prefix_append _ _)

/-- Where every call of `decodeSet` that returns has read something, the loop returns exactly if
every call it makes does. -/
theorem decodeSets_returns_iff (s₀ : S) (hfam : SetFamily decodeSet)
    (hfwd : ∀ n s s' err, 4 < (reader s).len → decodeSet n s = some (s', err) → (reader s').len < (reader s).len) :
    (∃ n r, decodeSets reader decodeSet n s₀ = some r) ↔
      ∀ s, EntersSet reader decodeSet s₀ s → ∃ n out, decodeSet n s = some out := by
  have hiff := Loop.returns_iff (setPass_family hfam : Loop.Family (setPass reader decodeSet)) (s := (s₀, []))
    (fun x => (reader x.1).len) (by
      rintro n ⟨s, errs⟩ ⟨s', errs'⟩ hnext
      obtain ⟨hlen, err, hset, -⟩ := setPass_eq_next.mp hnext
      exact hfwd n s s' err hlen hset)
  rw [exists_comm]
  refine hiff.trans ⟨?_, ?_⟩
  · rintro hdef s ⟨errs, hv, hlen⟩
    obtain ⟨n, flow, hflow⟩ := hdef _ hv
    cases hset : decodeSet n s with
    | some out => exact ⟨n, out, hset⟩
    | none => simp [setPass, hlen, hset] at hflow
  · rintro hset ⟨s, errs⟩ hv
    by_cases hlen : 4 < (reader s).len
    · obtain ⟨n, out, hout⟩ := hset s ⟨errs, hv, hlen⟩
      exact ⟨n, setPass_isSome fun _ => ⟨out, hout⟩⟩
    · exact ⟨0, setPass_isSome fun h => absurd h hlen⟩

theorem run_setPass_eq_all {n m : Nat} {x : S × List Error} {r : SetsEnd S}
    (h : Loop.run (setPass reader decodeSet n) m x = some r) : ∃ s errs, r = .all s errs :=
  Loop.run_invariant (P := fun _ => True) (Q := fun r => ∃ s errs, r = .all s errs)
    (fun _ _ _ _ => trivial) (fun y _ _ hr => ⟨y.1, y.2, (setPass_eq_done.mp hr).2⟩) trivial h

theorem returns_errs_subset {s' : S} (h : Loop.Returns (setPass reader decodeSet) (s, errs) (.all s' errs')) :
    errs <+: errs' := by
  obtain ⟨n, hn⟩ := h
  refine Loop.run_invariant (P := fun x => errs <+: x.2) (Q := fun r => ∀ t errs', r = .all t errs' → errs <+: errs')
    ?_ ?_ (List.prefix_refl _) hn s' errs' rfl
  · rintro ⟨t, es⟩ ⟨t', es'⟩ hle hnext
    exact hle.trans (visits_errs_subset (.single ⟨n, hnext⟩))
  · rintro ⟨t, es⟩ r hle hdone t' es' rfl
    obtain ⟨-, heq⟩ := setPass_eq_done.mp hdone
    rw [SetsEnd.all.injEq] at heq
    rw [heq.2]
    exact hle

theorem errs_ne_nil_of_first (hfam : SetFamily decodeSet) (hlen : 4 < (reader s).len)
    (hfirst : ∀ n t err, decodeSet n s = some (t, err) → err ≠ none)
    (h : Loop.Returns (setPass reader decodeSet) (s, []) (.all s' errs')) : errs' ≠ [] := by
  rcases h.cases with ⟨n, hdone⟩ | ⟨n, ⟨t, es⟩, hnext, m, hrun⟩
  · exact absurd (setPass_eq_done.mp hdone).1 (Nat.not_le.mpr hlen)
  · obtain ⟨-, err, hset, rfl⟩ := setPass_eq_next.mp hnext
    obtain ⟨e, rfl⟩ := Option.ne_none_iff_exists'.mp (hfirst n t err hset)
    obtain ⟨rest, rfl⟩ := returns_errs_subset (Loop.Returns.of_run (setPass_family hfam) hrun)
    exact List.cons_ne_nil e rest

/-! ## Two loops side by side -/

/-- One set decoded in each of two states. -/
def BothSets (reader : S → Reader) (decodeSet : Nat → S → Option (S × Option Error)) (x y : S × S) : Prop :=
  4 < (reader x.1).len ∧ ∃ n err err', decodeSet n x.1 = some (y.1, err) ∧ decodeSet n x.2 = some (y.2, err')

/-- The loops started in `s₀` and in `t₀` come, after the same number of sets, to calls of `decodeSet` in
the states `s` and `t`. -/
def EntersBoth (reader : S → Reader) (decodeSet : Nat → S → Option (S × Option Error)) (s₀ t₀ s t : S) : Prop :=
  Relation.ReflTransGen (BothSets reader decodeSet) (s₀, t₀) (s, t) ∧ 4 < (reader s).len

/-- Where calls of `decodeSet` in related states have the same error and lead to related states, the two
loops end together, with the same errors. -/
theorem decodeSets_related {R : S → S → Prop} {t₀ : S} (hread : ∀ s t, R s t → reader s = reader t)
    (hset : ∀ n s t s' err, EntersBoth reader decodeSet s₀ t₀ s t → R s t → decodeSet n s = some (s', err) →
      ∃ t', decodeSet n t = some (t', err) ∧ R s' t')
    (h₀ : R s₀ t₀) (h : decodeSets reader decodeSet fuel s₀ = some (.all s errs)) :
    ∃ t, decodeSets reader decodeSet fuel t₀ = some (.all t errs) ∧ R s t := by
  have hrun := Loop.run_related (setPass reader decodeSet fuel)
    (R := fun x y => x.2 = y.2 ∧ R x.1 y.1 ∧
      Relation.ReflTransGen (BothSets reader decodeSet) (s₀, t₀) (x.1, y.1))
    (Q := fun r r' => ∀ s errs, r = .all s errs → ∃ t, r' = .all t errs ∧ R s t) (t := (t₀, [])) ?_ ?_
    ⟨rfl, h₀, .refl⟩ h
  · obtain ⟨r', hr', hQ⟩ := hrun
    obtain ⟨t, rfl, ht⟩ := hQ s errs rfl
    exact ⟨t, hr', ht⟩
  · rintro ⟨s, errs⟩ ⟨t, errs'⟩ ⟨s', es⟩ ⟨rfl, hR, hpair⟩ hnext
    obtain ⟨hlen, err, hs', rfl⟩ := setPass_eq_next.mp hnext
    obtain ⟨t', ht', hR'⟩ := hset fuel s t s' err ⟨hpair, hlen⟩ hR hs'
    have hlen' : 4 < (reader t).len := by rwa [← hread s t hR]
    exact ⟨_, setPass_of_decodeSet hlen' ht', rfl, hR', hpair.tail ⟨hlen, fuel, err, err, hs', ht'⟩⟩
  · rintro ⟨s, errs⟩ ⟨t, errs'⟩ r ⟨rfl, hR, -⟩ hdone
    obtain ⟨hlen, rfl⟩ := setPass_eq_done.mp hdone
    refine ⟨.all t errs, setPass_eq_done.mpr ⟨by rwa [← hread s t hR], rfl⟩, ?_⟩
    intro s' errs' heq
    rw [SetsEnd.all.injEq] at heq
    obtain ⟨rfl, rfl⟩ := heq
    exact ⟨t, rfl, hR⟩

/-! ## What is still to come -/

section give

variable (reader : S → Reader) (decodeSet : Nat → S → Option (S × Option Error)) (Q : S → List Error → Prop)

/-- From here the loop over the sets comes to an end of which `Q` holds. -/
def SetsGive (errs : List Error) (s : S) : Prop :=
  ∃ t errs', Loop.Returns (setPass reader decodeSet) (s, errs) (.all t errs') ∧ Q t errs'

/-- From here a record loop comes to its end; `skip` is what is done before the next set. -/
def RecordsGive (pass : S × Option Error → LoopStep (S × Option Error) (S × Option Error))
    (skip : S × Option Error → S × Option Error) (errs : List Error) (x : S × Option Error) : Prop :=
  ∃ y, RecordsEnd pass x y ∧ SetsGive reader decodeSet Q (errs ++ (skip y).2.toList) (skip y).1

variable {reader decodeSet Q}

theorem SetsGive.of_set (hfam : SetFamily decodeSet) (hlen : 4 < (reader s).len)
    (hset : decodeSet fuel s = some (s', err)) (h : SetsGive reader decodeSet Q (errs ++ err.toList) s') :
    SetsGive reader decodeSet Q errs s := by
  obtain ⟨t, errs', hreturns, hQ⟩ := h
  exact ⟨t, errs', .of_next (setPass_family hfam) (setPass_of_decodeSet hlen hset) hreturns, hQ⟩

theorem SetsGive.of_end (hfam : SetFamily decodeSet) (hlen : (reader s).len ≤ 4) (hQ : Q s errs) :
    SetsGive reader decodeSet Q errs s :=
  ⟨s, errs, .of_done (n := 0) (setPass_family hfam) (setPass_eq_done.mpr ⟨hlen, rfl⟩), hQ⟩

end give

end VFlow
