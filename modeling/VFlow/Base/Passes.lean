import VFlow.Base.Cursor

/-!
# Loops over a cursor that may leave the input behind

A seek moves a cursor without looking at the input, so a scanner that seeks may stand beyond the end
and the judgement `Forward` is not for it. Weaker ones are:

* `Onward m`: whatever happens, `m` moves the cursor forward;
* `Takes short m k`: `m` takes exactly `k` symbols, or there are fewer and it fails with an error of
  the class `short`;
* `Needs short m k`: with fewer than `k` symbols left, `m` fails with an error of the class `short`.

A loop runs one scanner a number of times (`many`). Its `passes` are where each run started and where
it left the cursor, the run that failed included; the loop fails exactly when one of its passes does
(`many_error_iff`). `passes_work` bounds the passes by the input: when every pass takes `unit` symbols,
and `unit` more for each piece of `work` done in it, there is at most one piece of work more than the
input has units.
-/

namespace Scan

variable {α β γ ε ε' : Type}

/-- The same scanner with its errors renamed. -/
def mapError (f : ε → ε') (m : Scan ε α β) : Scan ε' α β := fun c =>
  match m c with
  | .ok x c' => .ok x c'
  | .error e c' => .error (f e) c'

section mapError
variable {f : ε → ε'} {m : Scan ε α β} {c c' : Cursor α}

theorem mapError_of_ok {x : β} (h : m c = .ok x c') : mapError f m c = .ok x c' := by
  unfold mapError
  rw [h]

theorem mapError_of_error {e : ε} (h : m c = .error e c') : mapError f m c = .error (f e) c' := by
  unfold mapError
  rw [h]

theorem mapError_eq_ok {x : β} : mapError f m c = .ok x c' ↔ m c = .ok x c' := by
  unfold mapError
  cases m c <;> simp

theorem mapError_eq_error {e : ε'} : mapError f m c = .error e c' ↔ ∃ e₀, m c = .error e₀ c' ∧ f e₀ = e := by
  unfold mapError
  cases m c <;> simp [and_comm]

theorem Parses.mapError {w : List α} {x : β} (h : Parses m w x) (f : ε → ε') : Parses (Scan.mapError f m) w x :=
  fun rest n => mapError_of_ok (h rest n)

end mapError

theorem Parses.bind_pure {m : Scan ε α β} {w : List α} {x : β} (h : Parses m w x) (f : β → γ) :
    Parses (do let x ← m; return f x : Scan ε α γ) w (f x) := by
  rw [← List.append_nil w]
  exact h.bind (Parses.pure _)

theorem bind_eq_error {m : Scan ε α β} {f : β → Scan ε α γ} {c c' : Cursor α} {e : ε} :
    (m >>= f) c = .error e c' ↔ m c = .error e c' ∨ ∃ x d, m c = .ok x d ∧ f x d = .error e c' := by
  rw [bind_apply]
  cases m c with
  | ok x d => simp
  | error e d => simp

/-! ## Moving forward -/

/-- The cursor only moves forward. -/
def Onward (m : Scan ε α β) : Prop := ∀ c, ∃ k, final (m c) = c.advance k

section Onward

theorem Forward.onward {m : Scan ε α β} (h : Forward m) : Onward m := by
  intro c
  obtain ⟨k, -, hk⟩ := h c
  exact ⟨k, hk⟩

theorem Onward.bind {m : Scan ε α β} {f : β → Scan ε α γ} (hm : Onward m) (hf : ∀ x, Onward (f x)) :
    Onward (m >>= f) := by
  intro c
  obtain ⟨k, hk⟩ := hm c
  rw [bind_apply]
  cases h : m c with
  | error e d =>
    rw [h] at hk
    exact ⟨k, hk⟩
  | ok x d =>
    rw [h, final_ok] at hk
    obtain ⟨j, hj⟩ := hf x d
    refine ⟨k + j, ?_⟩
    rw [← Cursor.advance_advance, ← hk]
    exact hj

theorem Onward.mapError {f : ε → ε'} {m : Scan ε α β} (hm : Onward m) : Onward (Scan.mapError f m) := by
  intro c
  obtain ⟨k, hk⟩ := hm c
  refine ⟨k, ?_⟩
  rw [← hk]
  unfold Scan.mapError
  cases m c <;> rfl

theorem Onward.of_ok {m : Scan ε α β} (hm : Onward m) {c c' : Cursor α} {x : β} (h : m c = .ok x c') :
    ∃ k, c' = c.advance k := by
  have hc := hm c
  rwa [h] at hc

theorem Onward.of_error {m : Scan ε α β} (hm : Onward m) {c c' : Cursor α} {e : ε} (h : m c = .error e c') :
    ∃ k, c' = c.advance k := by
  have hc := hm c
  rwa [h] at hc

theorem many_onward {m : Scan ε α β} (hm : Onward m) (n : Nat) (c : Cursor α) :
    ∃ k, (many m n c).2.2 = c.advance k := by
  induction n generalizing c with
  | zero => exact ⟨0, by simp [many]⟩
  | succ n ih =>
    cases h : m c with
    | error e d =>
      obtain ⟨k, hk⟩ := hm.of_error h
      exact ⟨k, by simp only [many, h, hk]⟩
    | ok x d =>
      obtain ⟨j, hj⟩ := hm.of_ok h
      obtain ⟨k, hk⟩ := ih d
      refine ⟨j + k, ?_⟩
      simp only [many, h]
      rw [hk, hj, Cursor.advance_advance]

end Onward

/-! ## Taking a fixed number of symbols -/

/-- Exactly `k` symbols are taken, or there are fewer and the error is one of the class `short`. -/
def Takes (short : ε → Prop) (m : Scan ε α β) (k : Nat) : Prop :=
  ∀ c, (k ≤ c.len → ∃ x, m c = .ok x (c.advance k)) ∧
    (c.len < k → ∃ e j, m c = .error e (c.advance j) ∧ short e)

/-- The cursor is moved by `k` and the input is not looked at. -/
def Skips (m : Scan ε α β) (k : Nat) : Prop := ∀ c, ∃ x, m c = .ok x (c.advance k)

section Takes
variable {short : ε → Prop} {short' : ε' → Prop}

theorem Takes.onward {m : Scan ε α β} {k : Nat} (h : Takes short m k) : Onward m := by
  intro c
  by_cases hk : k ≤ c.len
  · obtain ⟨x, hx⟩ := (h c).1 hk
    exact ⟨k, by rw [hx, final_ok]⟩
  · obtain ⟨e, j, he, -⟩ := (h c).2 (by omega)
    exact ⟨j, by rw [he, final_error]⟩

theorem Takes.of_ok {m : Scan ε α β} {k : Nat} (h : Takes short m k) {c c' : Cursor α} {x : β}
    (hx : m c = .ok x c') : k ≤ c.len ∧ c' = c.advance k := by
  by_cases hk : k ≤ c.len
  · obtain ⟨y, hy⟩ := (h c).1 hk
    rw [hx, EStateM.Result.ok.injEq] at hy
    exact ⟨hk, hy.2⟩
  · obtain ⟨e, j, he, -⟩ := (h c).2 (by omega)
    rw [hx] at he
    cases he

theorem Takes.of_error {m : Scan ε α β} {k : Nat} (h : Takes short m k) {c c' : Cursor α} {e : ε}
    (he : m c = .error e c') : c.len < k ∧ short e := by
  by_cases hk : k ≤ c.len
  · obtain ⟨y, hy⟩ := (h c).1 hk
    rw [he] at hy
    cases hy
  · obtain ⟨e', j, he', hs⟩ := (h c).2 (by omega)
    rw [he, EStateM.Result.error.injEq] at he'
    rw [he'.1]
    exact ⟨by omega, hs⟩

theorem Takes.pure (x : β) : Takes short (Pure.pure x : Scan ε α β) 0 := by
  intro c
  refine ⟨fun _ => ⟨x, ?_⟩, fun h => by omega⟩
  rw [pure_apply, Cursor.advance_zero]

theorem Takes.bind_of_ok {m : Scan ε α β} {f : β → Scan ε α γ} {j k : Nat} (hm : Takes short m j)
    (hf : ∀ c x c', m c = .ok x c' → Takes short (f x) k) : Takes short (m >>= f) (j + k) := by
  intro c
  rw [bind_apply]
  by_cases hj : j ≤ c.len
  · obtain ⟨x, hx⟩ := (hm c).1 hj
    obtain ⟨hok, hshort⟩ := hf c x _ hx (c.advance j)
    simp only [hx, Cursor.len_advance, Cursor.advance_advance] at hok hshort ⊢
    refine ⟨fun h => hok (by omega), fun h => ?_⟩
    obtain ⟨e, i, he, hs⟩ := hshort (by omega)
    exact ⟨e, j + i, he, hs⟩
  · obtain ⟨e, i, he, hs⟩ := (hm c).2 (by omega)
    simp only [he]
    exact ⟨fun h => by omega, fun _ => ⟨e, i, rfl, hs⟩⟩

theorem Takes.bind {m : Scan ε α β} {f : β → Scan ε α γ} {j k : Nat} (hm : Takes short m j)
    (hf : ∀ x, Takes short (f x) k) : Takes short (m >>= f) (j + k) :=
  hm.bind_of_ok fun _ x _ _ => hf x

theorem Skips.bind_takes {m : Scan ε α β} {f : β → Scan ε α γ} {j k : Nat} (hm : Skips m j)
    (hf : ∀ x, Takes short (f x) k) (hk : 0 < k) : Takes short (m >>= f) (j + k) := by
  intro c
  rw [bind_apply]
  obtain ⟨x, hx⟩ := hm c
  obtain ⟨hok, hshort⟩ := hf x (c.advance j)
  simp only [hx, Cursor.len_advance, Cursor.advance_advance] at hok hshort ⊢
  refine ⟨fun h => hok (by omega), fun h => ?_⟩
  obtain ⟨e, i, he, hs⟩ := hshort (by omega)
  exact ⟨e, j + i, he, hs⟩

theorem Skips.onward {m : Scan ε α β} {k : Nat} (h : Skips m k) : Onward m := by
  intro c
  obtain ⟨x, hx⟩ := h c
  exact ⟨k, by rw [hx, final_ok]⟩

theorem Takes.mapError {m : Scan ε α β} {k : Nat} (h : Takes short m k) {f : ε → ε'}
    (hf : ∀ e, short e → short' (f e)) : Takes short' (Scan.mapError f m) k := by
  intro c
  refine ⟨fun hk => ?_, fun hk => ?_⟩
  · obtain ⟨x, hx⟩ := (h c).1 hk
    exact ⟨x, mapError_of_ok hx⟩
  · obtain ⟨e, j, he, hs⟩ := (h c).2 hk
    exact ⟨f e, j, mapError_of_error he, hf e hs⟩

/-- With fewer than `k` symbols left the error is one of the class `short`. -/
def Needs (short : ε → Prop) (m : Scan ε α β) (k : Nat) : Prop :=
  ∀ c, c.len < k → ∃ e c', m c = .error e c' ∧ short e

theorem Takes.needs {m : Scan ε α β} {k : Nat} (h : Takes short m k) : Needs short m k := by
  intro c hc
  obtain ⟨e, j, he, hs⟩ := (h c).2 hc
  exact ⟨e, c.advance j, he, hs⟩

theorem Needs.bind {m : Scan ε α β} {k : Nat} (h : Needs short m k) (f : β → Scan ε α γ) :
    Needs short (m >>= f) k := by
  intro c hc
  obtain ⟨e, c', he, hs⟩ := h c hc
  exact ⟨e, c', by rw [bind_apply, he], hs⟩

theorem Takes.bind_needs {m : Scan ε α β} {f : β → Scan ε α γ} {j k : Nat} (hm : Takes short m j)
    (hf : ∀ x, Needs short (f x) k) : Needs short (m >>= f) (j + k) := by
  intro c hc
  by_cases hj : j ≤ c.len
  · obtain ⟨x, hx⟩ := (hm c).1 hj
    obtain ⟨e, c', he, hs⟩ := hf x (c.advance j) (by rw [Cursor.len_advance]; omega)
    exact ⟨e, c', by rw [bind_apply, hx]; exact he, hs⟩
  · exact hm.needs.bind f c (by omega)

theorem Needs.mapError {m : Scan ε α β} {k : Nat} (h : Needs short m k) {f : ε → ε'}
    (hf : ∀ e, short e → short' (f e)) : Needs short' (Scan.mapError f m) k := by
  intro c hc
  obtain ⟨e, c', he, hs⟩ := h c hc
  exact ⟨f e, c', mapError_of_error he, hf e hs⟩

end Takes

/-! ## The passes of a loop -/

/-- Where each pass of `many` starts and where it leaves the cursor. -/
def passes (m : Scan ε α β) : Nat → Cursor α → List (Cursor α × Cursor α)
  | 0, _ => []
  | n + 1, c =>
    match m c with
    | .error _ c' => [(c, c')]
    | .ok _ c' => (c, c') :: passes m n c'

section passes
variable {m : Scan ε α β}

theorem passes_of_ok {n : Nat} {c c' : Cursor α} {x : β} (h : m c = .ok x c') :
    passes m (n + 1) c = (c, c') :: passes m n c' := by
  rw [passes, h]

theorem passes_of_error {n : Nat} {c c' : Cursor α} {e : ε} (h : m c = .error e c') :
    passes m (n + 1) c = [(c, c')] := by
  rw [passes, h]

theorem many_of_ok {n : Nat} {c c' : Cursor α} {x : β} (h : m c = .ok x c') :
    many m (n + 1) c = (x :: (many m n c').1, (many m n c').2) := by
  rw [many, h]

theorem many_of_error {n : Nat} {c c' : Cursor α} {e : ε} (h : m c = .error e c') :
    many m (n + 1) c = ([], some e, c') := by
  rw [many, h]

theorem final_of_mem_passes {n : Nat} {c : Cursor α} {p : Cursor α × Cursor α} (hp : p ∈ passes m n c) :
    final (m p.1) = p.2 := by
  induction n generalizing c with
  | zero => exact absurd hp List.not_mem_nil
  | succ n ih =>
    cases h : m c with
    | error e d =>
      rw [passes_of_error h, List.mem_singleton] at hp
      rw [hp, h, final_error]
    | ok x d =>
      rw [passes_of_ok h, List.mem_cons] at hp
      obtain rfl | hp := hp
      · rw [h, final_ok]
      · exact ih hp

theorem many_error_iff {n : Nat} {c : Cursor α} {e : ε} :
    (many m n c).2.1 = some e ↔ ∃ p ∈ passes m n c, m p.1 = .error e p.2 := by
  induction n generalizing c with
  | zero => simp [many, passes]
  | succ n ih =>
    cases h : m c with
    | error e' d =>
      rw [passes_of_error h, many_of_error h]
      simp only [List.mem_singleton, exists_eq_left, h]
      simp
    | ok x d =>
      rw [passes_of_ok h, many_of_ok h]
      simp only [List.exists_mem_cons_iff, h, reduceCtorEq, false_or]
      exact ih

theorem passes_work {unit : Nat} (work : Cursor α → Nat)
    (hok : ∀ c x c', m c = .ok x c' → unit + unit * work c + c'.len ≤ c.len)
    (herr : ∀ c e c', m c = .error e c' → unit * work c ≤ c.len) (n : Nat) (c : Cursor α) :
    unit * ((passes m n c).map fun p => 1 + work p.1).sum ≤ c.len + unit ∧
      ((many m n c).2.1 = none →
        unit * ((passes m n c).map fun p => 1 + work p.1).sum + (many m n c).2.2.len ≤ c.len) := by
  induction n generalizing c with
  | zero => simp [passes, many]
  | succ n ih =>
    cases h : m c with
    | error e d =>
      have hwork := herr c e d h
      rw [passes_of_error h, many_of_error h]
      simp only [List.map_cons, List.map_nil, List.sum_cons, List.sum_nil, Nat.mul_add, Nat.mul_one, Nat.mul_zero]
      exact ⟨by omega, fun hnone => by cases hnone⟩
    | ok x d =>
      have hpass := hok c x d h
      obtain ⟨hall, hend⟩ := ih d
      rw [passes_of_ok h, many_of_ok h]
      simp only [List.map_cons, List.sum_cons, Nat.mul_add, Nat.mul_one]
      exact ⟨by omega, fun hnone => by have := hend hnone; omega⟩

theorem length_passes {unit : Nat} (hok : ∀ c x c', m c = .ok x c' → unit + c'.len ≤ c.len) (n : Nat) (c : Cursor α) :
    unit * (passes m n c).length ≤ c.len + unit ∧
      ((many m n c).2.1 = none → unit * (passes m n c).length + (many m n c).2.2.len ≤ c.len) := by
  have hsum : ((passes m n c).map fun _ => 1 + 0).sum = (passes m n c).length := by simp
  rw [← hsum]
  exact passes_work (fun _ => 0) (fun c x c' h => by simpa using hok c x c' h) (fun c e c' _ => by simp) n c

theorem many_length (unit : Nat) (hok : ∀ c x c', m c = .ok x c' → unit + c'.len ≤ c.len) (n : Nat)
    (c : Cursor α) : unit * (many m n c).1.length ≤ c.len := by
  induction n generalizing c with
  | zero => simp [many]
  | succ n ih =>
    cases h : m c with
    | error e d =>
      rw [many_of_error h]
      simp
    | ok x d =>
      have hpass := hok c x d h
      have htail := ih d
      rw [many_of_ok h, List.length_cons, Nat.mul_add, Nat.mul_one]
      omega

end passes

end Scan
