import Mathlib.Algebra.GroupWithZero.Nat
import Mathlib.Data.List.Basic
import Mathlib.Tactic.Common

/-!
# Reading from a cursor

A cursor is the unread rest of an input together with the number of symbols read so far. A scanner
(`Scan`) moves a cursor and returns a value or an error; on an error the cursor stays where the
scanner left it, which matters to a caller that carries on reading.

Four judgements about scanners are closed under sequencing and are nearly all that callers need:

* `Forward m`: whatever happens, `m` moves the cursor forward and not past the end of the input;
* `Reads short m k`: `m` takes exactly `k` symbols, or fails with `short` when there are fewer;
* `Rejects short m k e`: `m` takes `k` symbols and then fails with `e`, or fails with `short` when
  there are fewer;
* `Parses m w x`: on an input that starts with the word `w`, `m` succeeds with `x` and takes
  exactly `w`.

A fifth, `Measures`, is for scanners that take more or fewer symbols as the input says.
-/

/-- The unread input and how many symbols were read before it. -/
structure Cursor (α : Type) where
  data : List α
  count : Nat
  deriving DecidableEq, Repr

/-- A scanner: an error leaves the cursor where it was noticed. -/
abbrev Scan (ε α β : Type) := EStateM ε (Cursor α) β

namespace Cursor

variable {α β γ ε : Type}

def len (c : Cursor α) : Nat := c.data.length

def advance (c : Cursor α) (num : Nat) : Cursor α := ⟨c.data.drop num, c.count + num⟩

@[simp] theorem len_mk (data : List α) (count : Nat) : (Cursor.mk data count).len = data.length := rfl

@[simp] theorem advance_zero (c : Cursor α) : c.advance 0 = c := by simp [advance]

@[simp] theorem advance_advance (c : Cursor α) (m n : Nat) :
    (c.advance m).advance n = c.advance (m + n) := by
  simp [advance, List.drop_drop, Nat.add_assoc]

@[simp] theorem advance_count (c : Cursor α) (n : Nat) : (c.advance n).count = c.count + n := rfl

@[simp] theorem advance_data (c : Cursor α) (n : Nat) : (c.advance n).data = c.data.drop n := rfl

@[simp] theorem len_advance (c : Cursor α) (n : Nat) : (c.advance n).len = c.len - n := by
  simp [advance, len]

theorem count_add_len_advance {c : Cursor α} {n : Nat} (h : n ≤ c.len) :
    (c.advance n).count + (c.advance n).len = c.count + c.len := by
  rw [advance_count, len_advance]
  omega

theorem advance_append_iff {u v : List α} {n k : Nat} :
    advance ⟨u ++ v, n⟩ k = ⟨v, n + u.length⟩ ↔ k = u.length := by
  constructor
  · intro h
    have hcount : n + k = n + u.length := congrArg count h
    omega
  · rintro rfl
    unfold advance
    rw [List.drop_left]

end Cursor

namespace Scan

variable {α β γ ε : Type}

def final : EStateM.Result ε (Cursor α) β → Cursor α
  | .ok _ c => c
  | .error _ c => c

@[simp] theorem final_ok (x : β) (c : Cursor α) : final (.ok x c : EStateM.Result ε _ _) = c := rfl
@[simp] theorem final_error (e : ε) (c : Cursor α) :
    final (.error e c : EStateM.Result ε (Cursor α) β) = c := rfl

/-- The next `n` symbols, or `short` when there are fewer. -/
def take (short : ε) (n : Nat) : Scan ε α (List α) := fun c =>
  if c.len < n then .error short c else .ok (c.data.take n) (c.advance n)

/-! ## Sequencing -/

theorem pure_apply (x : β) (c : Cursor α) : (pure x : Scan ε α β) c = .ok x c := rfl

theorem throw_apply (e : ε) (c : Cursor α) : (throw e : Scan ε α β) c = .error e c := rfl

theorem bind_apply (m : Scan ε α β) (f : β → Scan ε α γ) (c : Cursor α) :
    (m >>= f) c = match m c with
      | .ok x c' => f x c'
      | .error e c' => .error e c' := by
  change EStateM.bind m f c = _
  unfold EStateM.bind
  cases m c <;> rfl

theorem bind_eq_ok {m : Scan ε α β} {f : β → Scan ε α γ} {c c' : Cursor α} {y : γ} :
    (m >>= f) c = .ok y c' ↔ ∃ x d, m c = .ok x d ∧ f x d = .ok y c' := by
  rw [bind_apply]
  cases m c with
  | ok x d => simp
  | error e d => simp

theorem bind_pure_eq_ok {m : Scan ε α β} {f : β → γ} {c c' : Cursor α} {y : γ} :
    (do let x ← m; return f x) c = .ok y c' ↔ ∃ x, m c = .ok x c' ∧ f x = y := by
  rw [bind_apply]
  cases m c with
  | ok x d => simp [pure_apply, and_comm]
  | error e d => simp

/-! ## The judgements -/

/-- The cursor only moves forward, and not past the end. -/
def Forward (m : Scan ε α β) : Prop :=
  ∀ c, ∃ k, k ≤ c.len ∧ final (m c) = c.advance k

/-- Exactly `k` symbols are taken, or there are fewer. -/
def Reads (short : ε) (m : Scan ε α β) (k : Nat) : Prop :=
  ∀ c, (k ≤ c.len → ∃ x, m c = .ok x (c.advance k)) ∧
    (c.len < k → ∃ j, j ≤ c.len ∧ m c = .error short (c.advance j))

/-- Exactly `k` symbols are taken before the failure `e`, or there are fewer. -/
def Rejects (short : ε) (m : Scan ε α β) (k : Nat) (e : ε) : Prop :=
  ∀ c, (k ≤ c.len → m c = .error e (c.advance k)) ∧
    (c.len < k → ∃ j, j ≤ c.len ∧ m c = .error short (c.advance j))

/-- On an input that starts with `w` the scanner returns `x` and takes exactly `w`. -/
def Parses (m : Scan ε α β) (w : List α) (x : β) : Prop :=
  ∀ rest n, m ⟨w ++ rest, n⟩ = .ok x ⟨rest, n + w.length⟩

theorem Forward.count_add_len {m : Scan ε α β} (hm : Forward m) (c : Cursor α) :
    (final (m c)).count + (final (m c)).len = c.count + c.len := by
  obtain ⟨k, hk, hc⟩ := hm c
  rw [hc]
  exact Cursor.count_add_len_advance hk

theorem Forward.pure (x : β) : Forward (Pure.pure x : Scan ε α β) :=
  fun c => ⟨0, Nat.zero_le _, by simp [pure_apply]⟩

theorem Forward.throw (e : ε) : Forward (MonadExcept.throw e : Scan ε α β) :=
  fun c => ⟨0, Nat.zero_le _, by simp [throw_apply]⟩

theorem Forward.take (short : ε) (n : Nat) : Forward (Scan.take short n : Scan ε α _) := by
  intro c
  unfold Scan.take
  split_ifs with h
  · exact ⟨0, Nat.zero_le _, by simp⟩
  · exact ⟨n, by omega, rfl⟩

theorem Forward.bind {m : Scan ε α β} {f : β → Scan ε α γ} (hm : Forward m) (hf : ∀ x, Forward (f x)) :
    Forward (m >>= f) := by
  intro c
  obtain ⟨k, hk, hc⟩ := hm c
  rw [bind_apply]
  cases h : m c with
  | error e c' =>
    rw [h] at hc
    exact ⟨k, hk, hc⟩
  | ok x c' =>
    rw [h, final_ok] at hc
    obtain ⟨j, hj, hc'⟩ := hf x c'
    rw [hc, Cursor.len_advance] at hj
    exact ⟨k + j, by omega, by rw [hc', hc, Cursor.advance_advance]⟩

theorem Reads.forward {short : ε} {m : Scan ε α β} {k : Nat} (h : Reads short m k) : Forward m := by
  intro c
  by_cases hlen : k ≤ c.len
  · obtain ⟨x, hx⟩ := (h c).1 hlen
    exact ⟨k, hlen, by rw [hx, final_ok]⟩
  · obtain ⟨j, hj, he⟩ := (h c).2 (by omega)
    exact ⟨j, hj, by rw [he, final_error]⟩

theorem Reads.of_ok {short : ε} {m : Scan ε α β} {k : Nat} (h : Reads short m k) {c c' : Cursor α} {x : β}
    (hx : m c = .ok x c') : k ≤ c.len ∧ c' = c.advance k := by
  by_cases hlen : k ≤ c.len
  · obtain ⟨y, hy⟩ := (h c).1 hlen
    rw [hx, EStateM.Result.ok.injEq] at hy
    exact ⟨hlen, hy.2⟩
  · obtain ⟨j, -, he⟩ := (h c).2 (by omega)
    rw [hx] at he
    cases he

theorem Reads.of_error {short e : ε} {m : Scan ε α β} {k : Nat} (h : Reads short m k) {c c' : Cursor α}
    (he : m c = .error e c') : e = short ∧ c.len < k := by
  by_cases hlen : k ≤ c.len
  · obtain ⟨x, hx⟩ := (h c).1 hlen
    rw [he] at hx
    cases hx
  · obtain ⟨j, -, hj⟩ := (h c).2 (by omega)
    rw [he, EStateM.Result.error.injEq] at hj
    exact ⟨hj.1, by omega⟩

theorem Reads.pure (short : ε) (x : β) : Reads short (Pure.pure x : Scan ε α β) 0 :=
  fun c => ⟨fun _ => ⟨x, by rw [pure_apply, Cursor.advance_zero]⟩, fun h => by omega⟩

theorem Reads.take (short : ε) (n : Nat) : Reads short (Scan.take short n : Scan ε α _) n := by
  intro c
  refine ⟨fun h => ⟨c.data.take n, ?_⟩, fun h => ⟨0, Nat.zero_le _, ?_⟩⟩
  · rw [Scan.take, if_neg (by omega)]
  · rw [Scan.take, if_pos h, Cursor.advance_zero]

theorem Reads.bind {short : ε} {m : Scan ε α β} {f : β → Scan ε α γ} {j k : Nat} (hm : Reads short m j)
    (hf : ∀ x, Reads short (f x) k) : Reads short (m >>= f) (j + k) := by
  intro c
  rw [bind_apply]
  by_cases hj : j ≤ c.len
  · obtain ⟨x, hx⟩ := (hm c).1 hj
    obtain ⟨hok, hshort⟩ := hf x (c.advance j)
    simp only [hx, Cursor.len_advance, Cursor.advance_advance] at hok hshort ⊢
    refine ⟨fun h => hok (by omega), fun h => ?_⟩
    obtain ⟨i, hi, he⟩ := hshort (by omega)
    exact ⟨j + i, by omega, he⟩
  · obtain ⟨i, hi, he⟩ := (hm c).2 (by omega)
    simp only [he]
    exact ⟨fun h => by omega, fun _ => ⟨i, hi, rfl⟩⟩

theorem Rejects.throw (short e : ε) : Rejects short (MonadExcept.throw e : Scan ε α β) 0 e :=
  fun c => ⟨fun _ => by rw [throw_apply, Cursor.advance_zero], fun h => by omega⟩

theorem Rejects.not_ok {short e : ε} {m : Scan ε α β} {k : Nat} (h : Rejects short m k e) (c : Cursor α) (x : β)
    (c' : Cursor α) : m c ≠ .ok x c' := by
  by_cases hk : k ≤ c.len
  · rw [(h c).1 hk]
    simp
  · obtain ⟨j, -, he⟩ := (h c).2 (by omega)
    rw [he]
    simp

theorem Rejects.of_error {short e e' : ε} {m : Scan ε α β} {k : Nat} (h : Rejects short m k e) {c c' : Cursor α}
    (he : m c = .error e' c') : k ≤ c.len ∧ e' = e ∧ c' = c.advance k ∨ c.len < k ∧ e' = short := by
  by_cases hk : k ≤ c.len
  · rw [(h c).1 hk, EStateM.Result.error.injEq] at he
    exact Or.inl ⟨hk, he.1.symm, he.2.symm⟩
  · obtain ⟨j, -, hj⟩ := (h c).2 (by omega)
    rw [hj, EStateM.Result.error.injEq] at he
    exact Or.inr ⟨by omega, he.1.symm⟩

theorem Rejects.bind {short e : ε} {m : Scan ε α β} {k : Nat} (hm : Rejects short m k e)
    (f : β → Scan ε α γ) : Rejects short (m >>= f) k e := by
  intro c
  rw [bind_apply]
  refine ⟨fun h => by rw [(hm c).1 h], fun h => ?_⟩
  obtain ⟨j, hj, he⟩ := (hm c).2 h
  exact ⟨j, hj, by rw [he]⟩

theorem Reads.bind_rejects {short e : ε} {m : Scan ε α β} {f : β → Scan ε α γ} {j k : Nat}
    (hm : Reads short m j) (hf : ∀ x, Rejects short (f x) k e) : Rejects short (m >>= f) (j + k) e := by
  intro c
  rw [bind_apply]
  by_cases hj : j ≤ c.len
  · obtain ⟨x, hx⟩ := (hm c).1 hj
    obtain ⟨hrej, hshort⟩ := hf x (c.advance j)
    simp only [hx, Cursor.len_advance, Cursor.advance_advance] at hrej hshort ⊢
    refine ⟨fun h => hrej (by omega), fun h => ?_⟩
    obtain ⟨i, hi, he⟩ := hshort (by omega)
    exact ⟨j + i, by omega, he⟩
  · obtain ⟨i, hi, he⟩ := (hm c).2 (by omega)
    simp only [he]
    exact ⟨fun h => by omega, fun _ => ⟨i, hi, rfl⟩⟩

theorem Parses.pure (x : β) : Parses (Pure.pure x : Scan ε α β) [] x :=
  fun _ _ => rfl

theorem Parses.take (short : ε) (w : List α) : Parses (Scan.take short w.length : Scan ε α _) w w := by
  intro rest n
  simp [Scan.take, Cursor.advance]

theorem Parses.bind {m : Scan ε α β} {f : β → Scan ε α γ} {v w : List α} {x : β} {y : γ}
    (hm : Parses m v x) (hf : Parses (f x) w y) : Parses (m >>= f) (v ++ w) y := by
  intro rest n
  rw [bind_apply, List.append_assoc, hm]
  dsimp only
  rw [hf, List.length_append, Nat.add_assoc]

/-! ## Fields

A field is a number of symbols whose meaning is looked up apart from them; a field without a meaning
is rejected after it was read. -/

def field {μ : Type} (short : ε) (k : Nat) (meaning : Option μ) (e : ε) (value : μ → List α → β) : Scan ε α β := do
  let w ← take short k
  match meaning with
  | none => throw e
  | some m => return value m w

section field
variable {μ : Type} {short e : ε} {k : Nat} {meaning : Option μ} {value : μ → List α → β}

theorem Reads.field (h : meaning.isSome) : Reads short (Scan.field short k meaning e value) k := by
  obtain ⟨m, rfl⟩ := Option.isSome_iff_exists.mp h
  exact (Reads.take short k).bind fun w => Reads.pure short (value m w)

theorem Rejects.field (h : ¬ meaning.isSome) : Rejects short (Scan.field short k meaning e value) k e := by
  rw [Option.not_isSome_iff_eq_none] at h
  subst h
  exact (Reads.take short k).bind_rejects fun _ => Rejects.throw short e

theorem Forward.field : Forward (Scan.field short k meaning e value) := by
  refine (Forward.take short k).bind fun w => ?_
  cases meaning with
  | none => exact Forward.throw e
  | some m => exact Forward.pure _

theorem Parses.field {m : μ} {w : List α} (h : meaning = some m) :
    Parses (Scan.field short w.length meaning e value) w (value m w) := by
  subst h
  have hfield := (Parses.take short w).bind (f := fun w' => Pure.pure (value m w')) (Parses.pure (value m w))
  rwa [List.append_nil] at hfield

end field

/-! ## Reading a list of values -/

/-- One scanner for each item of a list, the first error ending the reading. -/
def each {τ : Type} (f : τ → Scan ε α β) : List τ → Scan ε α (List β)
  | [] => pure []
  | t :: ts => do
    let x ← f t
    let xs ← each f ts
    return x :: xs

section each
variable {τ : Type} {f : τ → Scan ε α β}

theorem Forward.each (hf : ∀ t, Forward (f t)) (ts : List τ) : Forward (Scan.each f ts) := by
  induction ts with
  | nil => exact Forward.pure _
  | cons t ts ih => exact (hf t).bind fun _ => ih.bind fun _ => Forward.pure _

theorem each_append (f : τ → Scan ε α β) (ts us : List τ) (c : Cursor α) :
    Scan.each f (ts ++ us) c = (do
      let xs ← Scan.each f ts
      let ys ← Scan.each f us
      return xs ++ ys) c := by
  induction ts generalizing c with
  | nil =>
    simp only [List.nil_append, Scan.each, pure_bind]
    rw [bind_apply]
    cases Scan.each f us c <;> rfl
  | cons t ts ih =>
    simp only [List.cons_append, Scan.each, bind_assoc, pure_bind]
    rw [bind_apply, bind_apply]
    cases f t c with
    | error e c' => rfl
    | ok x c' =>
      dsimp only
      rw [bind_apply, ih c', bind_apply, bind_apply]
      cases Scan.each f ts c' with
      | error e c'' => rfl
      | ok xs c'' =>
        dsimp only
        rw [bind_apply, bind_apply]
        cases Scan.each f us c'' <;> rfl

theorem each_map {σ : Type} (f : τ → Scan ε α β) (g : σ → τ) (ts : List σ) :
    Scan.each f (ts.map g) = Scan.each (fun t => f (g t)) ts := by
  induction ts with
  | nil => rfl
  | cons t ts ih => simp only [List.map_cons, Scan.each, ih]

theorem each_eq_ok {R : τ → β → Prop} (hf : ∀ t c x c', f t c = .ok x c' → R t x) {ts : List τ} {c c' : Cursor α}
    {xs : List β} (h : Scan.each f ts c = .ok xs c') : List.Forall₂ R ts xs := by
  induction ts generalizing c c' xs with
  | nil =>
    rw [Scan.each, pure_apply, EStateM.Result.ok.injEq] at h
    rw [← h.1]
    exact .nil
  | cons t ts ih =>
    rw [Scan.each, bind_eq_ok] at h
    obtain ⟨x, d, hx, h⟩ := h
    obtain ⟨ys, hys, rfl⟩ := bind_pure_eq_ok.mp h
    exact .cons (hf t c x d hx) (ih hys)

theorem Reads.each {short : ε} {k : τ → Nat} :
    ∀ {ts}, (∀ t ∈ ts, Reads short (f t) (k t)) → Reads short (Scan.each f ts) (ts.map k).sum
  | [], _ => Reads.pure short _
  | t :: ts, h => by
    have htail := Reads.each fun u hu => h u (List.mem_cons_of_mem _ hu)
    have hall := (h t List.mem_cons_self).bind fun x => htail.bind fun xs => Reads.pure short (x :: xs)
    simpa [Scan.each] using hall

/-- The size of the items of a list up to and with the first that fails the test `p`. -/
def sizeUpTo (p : τ → Prop) [DecidablePred p] (k : τ → Nat) : List τ → Nat
  | [] => 0
  | t :: ts => if p t then k t + sizeUpTo p k ts else k t

theorem sizeUpTo_le {p : τ → Prop} [DecidablePred p] {k : τ → Nat} : ∀ ts, sizeUpTo p k ts ≤ (ts.map k).sum
  | [] => Nat.le_refl _
  | t :: ts => by
    have := sizeUpTo_le (p := p) (k := k) ts
    rw [sizeUpTo, List.map_cons, List.sum_cons]
    split_ifs <;> omega

/-- Where a test decides which items are read and which are rejected, a list is read up to the first
item that fails the test. -/
theorem Rejects.each_find {short : ε} {k : τ → Nat} {e : τ → ε} {p : τ → Prop} [DecidablePred p]
    (hread : ∀ t, p t → Reads short (f t) (k t)) (hrej : ∀ t, ¬ p t → Rejects short (f t) (k t) (e t)) {t : τ} :
    ∀ {ts : List τ}, ts.find? (fun u => ¬ p u) = some t → Rejects short (Scan.each f ts) (sizeUpTo p k ts) (e t)
  | [], h => by cases h
  | u :: ts, h => by
    by_cases hu : p u
    · have htail := Rejects.each_find hread hrej (show ts.find? (fun u => ¬ p u) = some t by simpa [hu] using h)
      rw [sizeUpTo, if_pos hu]
      exact (hread u hu).bind_rejects fun x => htail.bind fun xs => Pure.pure (x :: xs)
    · have hut : u = t := by simpa [hu] using h
      rw [sizeUpTo, if_neg hu, ← hut]
      exact (hrej u hu).bind _

theorem Parses.each {items : List τ} {w : τ → List α} {x : τ → β} {σ : Type} {g : σ → Scan ε α β}
    {key : τ → σ} (h : ∀ t ∈ items, Parses (g (key t)) (w t) (x t)) :
    Parses (Scan.each g (items.map key)) (items.flatMap w) (items.map x) := by
  induction items with
  | nil => exact Parses.pure []
  | cons t ts ih =>
    have htail := ih fun u hu => h u (List.mem_cons_of_mem _ hu)
    have hall := (h t List.mem_cons_self).bind (f := fun y => do
      let ys ← Scan.each g (ts.map key)
      return y :: ys) (htail.bind (Parses.pure _))
    simpa [Scan.each] using hall

end each

/-- The same scanner `n` times: the values read, and the error that ended the reading, if any. -/
def many (m : Scan ε α β) : Nat → Cursor α → List β × Option ε × Cursor α
  | 0, c => ([], none, c)
  | n + 1, c =>
    match m c with
    | .error e c' => ([], some e, c')
    | .ok x c' =>
      let (xs, err, c'') := many m n c'
      (x :: xs, err, c'')

section many
variable {m : Scan ε α β}

theorem many_add (n k : Nat) (c : Cursor α) :
    (many m (n + k) c).2.2 =
      match many m n c with
      | (_, none, c') => (many m k c').2.2
      | (_, some _, c') => c' := by
  induction n generalizing c with
  | zero =>
    rw [Nat.zero_add]
    rfl
  | succ n ih =>
    rw [Nat.succ_add]
    cases hx : m c with
    | error e c' => simp only [many, hx]
    | ok x c' =>
      simp only [many, hx, ih]
      generalize many m n c' = q
      obtain ⟨xs, _ | e, c''⟩ := q <;> rfl

theorem many_forward (hm : Forward m) (n : Nat) (c : Cursor α) :
    ∃ k, k ≤ c.len ∧ (many m n c).2.2 = c.advance k := by
  induction n generalizing c with
  | zero => exact ⟨0, Nat.zero_le _, by simp [many]⟩
  | succ n ih =>
    obtain ⟨j, hj, hc⟩ := hm c
    cases h : m c with
    | error e c' =>
      rw [h, final_error] at hc
      exact ⟨j, hj, by simp only [many, h, hc]⟩
    | ok x c' =>
      rw [h, final_ok] at hc
      obtain ⟨k, hk, hc'⟩ := ih c'
      rw [hc, Cursor.len_advance] at hk
      refine ⟨j + k, by omega, ?_⟩
      simp only [many, h]
      rw [hc', hc, Cursor.advance_advance]

theorem many_reads {short : ε} {k : Nat} (hm : Reads short m k) (n : Nat) (c : Cursor α) :
    (n * k ≤ c.len → ∃ xs, xs.length = n ∧ many m n c = (xs, none, c.advance (n * k))) ∧
      (c.len < n * k → ∃ xs j, j ≤ c.len ∧ many m n c = (xs, some short, c.advance j)) := by
  induction n generalizing c with
  | zero => exact ⟨fun _ => ⟨[], rfl, by simp [many]⟩, fun h => by omega⟩
  | succ n ih =>
    rw [Nat.succ_mul]
    by_cases hk : k ≤ c.len
    · obtain ⟨x, hx⟩ := (hm c).1 hk
      obtain ⟨hok, hshort⟩ := ih (c.advance k)
      rw [Cursor.len_advance] at hok hshort
      simp only [many, hx]
      refine ⟨fun h => ?_, fun h => ?_⟩
      · obtain ⟨xs, hxs, he⟩ := hok (by omega)
        exact ⟨x :: xs, by simp [hxs], by rw [he, Cursor.advance_advance, Nat.add_comm]⟩
      · obtain ⟨xs, j, hj, he⟩ := hshort (by omega)
        exact ⟨x :: xs, k + j, by omega, by rw [he, Cursor.advance_advance]⟩
    · obtain ⟨j, hj, he⟩ := (hm c).2 (by omega)
      simp only [many, he]
      exact ⟨fun h => by omega, fun _ => ⟨[], j, hj, rfl⟩⟩

theorem many_complete {j : Nat} (hm : ∀ c x c', m c = .ok x c' → c'.len + j ≤ c.len) {n : Nat} {c c' : Cursor α}
    {xs : List β} (h : many m n c = (xs, none, c')) : xs.length = n ∧ c'.len + n * j ≤ c.len := by
  induction n generalizing c xs with
  | zero =>
    obtain ⟨rfl, hrest⟩ := Prod.mk.inj h
    obtain ⟨-, rfl⟩ := Prod.mk.inj hrest
    exact ⟨rfl, by omega⟩
  | succ n ih =>
    cases hc : m c with
    | error e c₁ => simp [many, hc] at h
    | ok x c₁ =>
      simp only [many, hc] at h
      obtain ⟨rfl, hrest⟩ := Prod.mk.inj h
      obtain ⟨hlen, hle⟩ := ih (Prod.ext rfl hrest)
      have := hm c x c₁ hc
      rw [List.length_cons, hlen, Nat.succ_mul]
      exact ⟨rfl, by omega⟩

theorem many_short {short e : ε} {k n : Nat} (hm : Reads short m k) {c c' : Cursor α} {xs : List β}
    (h : many m n c = (xs, some e, c')) : xs.length < n ∧ c'.len < k := by
  induction n generalizing c xs with
  | zero => cases h
  | succ n ih =>
    by_cases hk : k ≤ c.len
    · obtain ⟨x, hx⟩ := (hm c).1 hk
      simp only [many, hx] at h
      obtain ⟨rfl, hrest⟩ := Prod.mk.inj h
      obtain ⟨hlen, hle⟩ := ih (Prod.ext rfl hrest)
      exact ⟨Nat.succ_lt_succ hlen, hle⟩
    · obtain ⟨j, hj, he⟩ := (hm c).2 (Nat.lt_of_not_le hk)
      simp only [many, he] at h
      obtain ⟨rfl, hrest⟩ := Prod.mk.inj h
      obtain ⟨-, rfl⟩ := Prod.mk.inj hrest
      rw [Cursor.len_advance]
      exact ⟨Nat.succ_pos n, by omega⟩

theorem many_parses {ws : List (List α)} {xs : List β} (h : List.Forall₂ (Parses m) ws xs)
    (rest : List α) (n : Nat) :
    many m xs.length ⟨ws.flatten ++ rest, n⟩ = (xs, none, ⟨rest, n + ws.flatten.length⟩) := by
  induction h generalizing n with
  | nil => rfl
  | @cons w x ws xs hw _ ih =>
    simp only [List.flatten_cons, List.append_assoc, List.length_cons, many, hw (ws.flatten ++ rest) n, ih,
      List.length_append, Nat.add_assoc]

/-- The scanner takes the symbols that `size` finds in the input. When `size` finds none it fails, with at most
`slack` symbols left. -/
def Measures (slack : Nat) (m : Scan ε α β) (size : List α → Option Nat) : Prop :=
  ∀ c, (∀ k, size c.data = some k → k ≤ c.len ∧ ∃ x, m c = .ok x (c.advance k)) ∧
    (size c.data = none → ∃ e c', m c = .error e c' ∧ c'.len ≤ slack)

def sizes (size : List α → Option Nat) : Nat → List α → Option Nat
  | 0, _ => some 0
  | n + 1, w => (size w).bind fun k => (sizes size n (w.drop k)).map (k + ·)

theorem many_measures {slack : Nat} {size : List α → Option Nat} (hm : Measures slack m size) (n : Nat)
    (c : Cursor α) :
    (∀ k, sizes size n c.data = some k → k ≤ c.len ∧ ∃ xs, many m n c = (xs, none, c.advance k)) ∧
      (sizes size n c.data = none → ∃ xs e c', many m n c = (xs, some e, c') ∧ c'.len ≤ slack) := by
  induction n generalizing c with
  | zero =>
    refine ⟨fun k hk => ?_, fun h => by cases h⟩
    obtain rfl := Option.some.inj hk
    exact ⟨Nat.zero_le _, [], by simp [many]⟩
  | succ n ih =>
    cases hsize : size c.data with
    | none =>
      obtain ⟨e, c', he, hlen⟩ := (hm c).2 hsize
      refine ⟨fun k hk => ?_, fun _ => ⟨[], e, c', by simp only [many, he], hlen⟩⟩
      simp [sizes, hsize] at hk
    | some j =>
      obtain ⟨hj, x, hx⟩ := (hm c).1 j hsize
      obtain ⟨hok, hshort⟩ := ih (c.advance j)
      rw [Cursor.len_advance, Cursor.advance_data] at hok
      rw [Cursor.advance_data] at hshort
      simp only [sizes, hsize, Option.bind_some, Option.map_eq_some_iff, Option.map_eq_none_iff, many, hx]
      constructor
      · rintro k ⟨i, hi, rfl⟩
        obtain ⟨hle, xs, hxs⟩ := hok i hi
        exact ⟨by omega, x :: xs, by rw [hxs, Cursor.advance_advance]⟩
      · intro hnone
        obtain ⟨xs, e, c', he, hlen⟩ := hshort hnone
        exact ⟨x :: xs, e, c', by rw [he], hlen⟩

end many

end Scan
