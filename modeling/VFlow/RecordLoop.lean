import VFlow.Base.Loop
import VFlow.Reader

/-!
# The loop over the records of a set

The record loops of the two decoders differ in their passes, but both work on a state and the error
of the last record, leave without a change, and go round only while there is no error.
-/

namespace VFlow

variable {S : Type} {pass : S × Option Error → LoopStep (S × Option Error) (S × Option Error)}
  {x y : S × Option Error} {n m : Nat}

/-- The record loop as a family of passes; the bound plays no part in a pass. -/
abbrev recordLoop (pass : S × Option Error → LoopStep (S × Option Error) (S × Option Error)) :
    Nat → S × Option Error → Option (LoopStep (S × Option Error) (S × Option Error)) :=
  fun _ x => some (pass x)

theorem recordLoop_invariant {P : S × Option Error → Prop} (hdone : ∀ x y, pass x = .done y → y = x)
    (hnext : ∀ x x', P x → pass x = .next x' → P x') (hx : P x)
    (hrun : Loop.run (recordLoop pass n) m x = some y) : P y := by
  refine Loop.run_invariant (Q := P) (fun x x' hinv hp => hnext x x' hinv (Option.some.inj hp)) ?_ hx hrun
  intro x y hinv hp
  rw [hdone x y (Option.some.inj hp)]
  exact hinv

/-- In the invariant rule a pass may be taken to be one that the loop comes to. -/
theorem recordLoop_invariant_visited {P : S × Option Error → Prop} (hdone : ∀ x y, pass x = .done y → y = x)
    (hnext : ∀ z z', Loop.Visits (recordLoop pass) x z → P z → pass z = .next z' → P z') (hx : P x)
    (hrun : Loop.run (recordLoop pass n) m x = some y) : P y := by
  refine (recordLoop_invariant (P := fun z => Loop.Visits (recordLoop pass) x z ∧ P z) hdone ?_ ⟨.refl, hx⟩ hrun).2
  rintro z z' ⟨hv, hz⟩ hp
  exact ⟨hv.tail ⟨0, congrArg some hp⟩, hnext z z' hv hz hp⟩

theorem recordLoop_end (hdone : ∀ x y, pass x = .done y → y = x)
    (hrun : Loop.run (recordLoop pass n) m x = some y) : pass y = .done y :=
  Loop.run_invariant (P := fun _ => True) (Q := fun y => pass y = .done y) (fun _ _ _ _ => trivial)
    (fun x y _ hp => by
      have hp := Option.some.inj hp
      rw [← hdone x y hp] at hp
      exact hp) trivial hrun

/-- The loop started in `x` ends in `y`. -/
def RecordsEnd (pass : S × Option Error → LoopStep (S × Option Error) (S × Option Error)) (x y : S × Option Error) :
    Prop :=
  ∃ n, Loop.run (recordLoop pass n) n x = some y

theorem RecordsEnd.of_done (h : pass x = .done y) : RecordsEnd pass x y :=
  ⟨1, Loop.run_done (congrArg some h) 0⟩

theorem RecordsEnd.of_next {x' : S × Option Error} (h : pass x = .next x') (h' : RecordsEnd pass x' y) :
    RecordsEnd pass x y := by
  obtain ⟨n, hn⟩ := h'
  exact ⟨n + 1, (Loop.run_next (congrArg some h) n).trans hn⟩

/-- A loop over records of `l` bytes that goes round while more than `m` bytes of them are left reads all but
the last `m / l`. -/
theorem RecordsEnd.all_but_last {α : Type} (app : S → α → S) (At : S → List α → Prop) {l m : Nat} (hl : 0 < l)
    (hnext : ∀ t v vs, At t (v :: vs) → m < (vs.length + 1) * l →
      pass (t, none) = .next (app t v, none) ∧ At (app t v) vs)
    (hdone : ∀ t vs, At t vs → vs.length * l ≤ m → pass (t, none) = .done (t, none)) {t : S} {vs : List α}
    (h : At t vs) : RecordsEnd pass (t, none) ((vs.take (vs.length - m / l)).foldl app t, none) := by
  induction vs generalizing t with
  | nil =>
    rw [List.take_nil]
    exact .of_done (hdone t [] h (by simp))
  | cons v vs ih =>
    by_cases hm : m < (vs.length + 1) * l
    · obtain ⟨hpass, hat⟩ := hnext t v vs h hm
      have hle : m / l ≤ vs.length := Nat.lt_succ_iff.mp ((Nat.div_lt_iff_lt_mul hl).mpr hm)
      rw [List.length_cons, Nat.succ_sub hle, List.take_succ_cons, List.foldl_cons]
      exact .of_next hpass (ih hat)
    · have hle : vs.length + 1 ≤ m / l := (Nat.le_div_iff_mul_le hl).mpr (Nat.not_lt.mp hm)
      rw [List.length_cons, Nat.sub_eq_zero_of_le hle, List.take_zero, List.foldl_nil]
      exact .of_done (hdone t (v :: vs) h (Nat.not_lt.mp hm))

/-! ## Two loops side by side -/

/-- What a pass makes of two related states: both go round or both leave, with the same error. -/
inductive StepRelated (R : S → S → Prop) :
    LoopStep (S × Option Error) (S × Option Error) → LoopStep (S × Option Error) (S × Option Error) → Prop
  | next {s t : S} {err : Option Error} (h : R s t) : StepRelated R (.next (s, err)) (.next (t, err))
  | done {s t : S} {err : Option Error} (h : R s t) : StepRelated R (.done (s, err)) (.done (t, err))

theorem recordLoop_related {R : S → S → Prop} {s t : S} {err : Option Error}
    (hpass : ∀ s t err, R s t → StepRelated R (pass (s, err)) (pass (t, err))) (hst : R s t)
    (hrun : Loop.run (recordLoop pass n) m (s, err) = some y) :
    ∃ u, Loop.run (recordLoop pass n) m (t, err) = some (u, y.2) ∧ R y.1 u := by
  obtain ⟨⟨u, err'⟩, hu, rfl, hyu⟩ := Loop.run_related (recordLoop pass n) (t := (t, err))
    (R := fun x z => x.2 = z.2 ∧ R x.1 z.1) (Q := fun x z => x.2 = z.2 ∧ R x.1 z.1)
    (fun ⟨s, err⟩ ⟨t, err'⟩ x' ⟨herr, hst⟩ hp => by
      obtain rfl : err = err' := herr
      have hstep := hpass s t err hst
      rw [Option.some.inj hp] at hstep
      generalize hq : pass (t, err) = q at hstep
      cases hstep with
      | next hst' => exact ⟨_, congrArg some hq, rfl, hst'⟩)
    (fun ⟨s, err⟩ ⟨t, err'⟩ x' ⟨herr, hst⟩ hp => by
      obtain rfl : err = err' := herr
      have hstep := hpass s t err hst
      rw [Option.some.inj hp] at hstep
      generalize hq : pass (t, err) = q at hstep
      cases hstep with
      | done hst' => exact ⟨_, congrArg some hq, rfl, hst'⟩)
    ⟨rfl, hst⟩ hrun
  exact ⟨u, hu, hyu⟩

/-! ## When the loop returns -/

/-- What the termination of a record loop rests on. A pass is made while `guard` holds. It reads a
byte or ends the loop by its error, unless the loop is one over `empty` records: then every pass goes
round and leaves `guard` as it is. -/
structure RecordLoopLaws (reader : S → Reader)
    (pass : S × Option Error → LoopStep (S × Option Error) (S × Option Error))
    (guard : S × Option Error → Prop) (empty : Prop) : Prop where
  done : ∀ x, ¬ guard x → pass x = .done x
  progress : ¬ empty → ∀ x x', pass x = .next x' → x.2 = none ∧ (x'.2 = none →
    ∃ k, 0 < k ∧ k ≤ (reader x.1).len ∧ reader x'.1 = (reader x.1).advance k)
  stall : empty → ∀ x, guard x → ∃ x', pass x = .next x' ∧ guard x'

namespace RecordLoopLaws

variable {reader : S → Reader} {guard : S × Option Error → Prop} {empty : Prop}

theorem returns (h : RecordLoopLaws reader pass guard empty) (hrec : ¬ empty) (x : S × Option Error) :
    ∃ m y, ∀ n, Loop.run (recordLoop pass n) m x = some y := by
  -- an error ends the loop at its next pass, so it counts less than any number of unread bytes
  let μ : S × Option Error → Nat := fun x => if x.2.isSome then 0 else (reader x.1).len + 1
  obtain ⟨y, hy, -⟩ : ∃ y, Loop.run (recordLoop pass 0) (μ x + 1) x = some y ∧ True :=
    Loop.run_of_measure (P := fun _ => True) (Q := fun _ => True) μ (fun x _ => by
      cases hp : pass x with
      | done y => exact Or.inl ⟨y, congrArg some hp, trivial⟩
      | next x' =>
        refine Or.inr ⟨x', congrArg some hp, trivial, ?_⟩
        obtain ⟨hnone, hread⟩ := h.progress hrec x x' hp
        cases herr : x'.2 with
        | some e => simp [μ, hnone, herr]
        | none =>
          obtain ⟨k, hk0, hk, hr⟩ := hread herr
          have hlen := congrArg Cursor.len hr
          rw [Cursor.len_advance] at hlen
          simp only [μ, hnone, herr, Option.isSome_none, Bool.false_eq_true, if_false]
          omega) trivial
  exact ⟨_, y, fun _ => hy⟩

/-- The loop returns unless it goes over empty records and is entered. -/
theorem returns_iff (h : RecordLoopLaws reader pass guard empty) (x : S × Option Error) :
    (∃ n y, Loop.run (recordLoop pass n) n x = some y) ↔ ¬ (empty ∧ guard x) := by
  constructor
  · rintro ⟨n, y, hy⟩ ⟨hrec, hg⟩
    rw [Loop.run_eq_none (P := guard) (fun x hx => ?_) n hg] at hy
    · cases hy
    · obtain ⟨x', hp, hg'⟩ := h.stall hrec x hx
      exact ⟨x', congrArg some hp, hg'⟩
  · intro hns
    by_cases hrec : empty
    · exact ⟨1, x, Loop.run_done (congrArg some (h.done x fun hg => hns ⟨hrec, hg⟩)) 0⟩
    · obtain ⟨m, y, hy⟩ := h.returns hrec x
      exact ⟨m, y, hy m⟩

theorem not_empty (h : RecordLoopLaws reader pass guard empty) {x₀ x x' : S × Option Error}
    (hns : ¬ (empty ∧ guard x₀)) (hv : Loop.Visits (recordLoop pass) x₀ x) (hp : pass x = .next x') : ¬ empty := by
  intro hrec
  -- the first pass ends the loop, so the only state visited is the first one
  have hdone := h.done x₀ fun hg => hns ⟨hrec, hg⟩
  rcases hv.cases_head with rfl | ⟨y, ⟨n, hy⟩, -⟩
  · rw [hdone] at hp
    cases hp
  · rw [recordLoop, hdone] at hy
    cases hy

/-- In a loop that does not stall every pass that goes round reads a byte, or ends the loop by its
error. -/
theorem progresses (h : RecordLoopLaws reader pass guard empty) {x₀ x x' : S × Option Error}
    (hns : ¬ (empty ∧ guard x₀)) (hv : Loop.Visits (recordLoop pass) x₀ x) (hp : pass x = .next x') :
    x'.2.isSome ∨ (reader x.1).count < (reader x'.1).count := by
  cases herr : x'.2 with
  | some e => exact Or.inl rfl
  | none =>
    obtain ⟨k, hk, -, hr⟩ := (h.progress (h.not_empty hns hv hp) x x' hp).2 herr
    rw [hr]
    exact Or.inr (Nat.lt_add_of_pos_right hk)

end RecordLoopLaws

end VFlow
