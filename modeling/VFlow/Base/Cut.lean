import VFlow.Base.Passes

/-!
# Words that are cut off

What a scanner makes of a word of which only the first symbols are there. The outcome for each number of
symbols is a verdict: `none` when the scanner succeeds, the class of its error otherwise. `Judges m w v`
says that the verdicts `v` are right for the scanner `m` and the word `w`: for the whole word, whatever
follows it, and for every cut, after which nothing follows.

A scanner that takes a fixed number of symbols notices every cut; one that seeks notices none, and leaves
the cursor at or beyond the end. In a loop over several words a cut that is not noticed is noticed at the
next word, so that only the last word decides (`cutVerdict`, `Judges.times`).
-/

namespace Scan

variable {α β δ γ ε ε' : Type}

/-- The result agrees with a verdict: a success leaves the cursor at a place that satisfies `P`. -/
def Ends (cls : ε → γ) (P : Cursor α → Prop) : Option γ → EStateM.Result ε (Cursor α) β → Prop
  | none, res => ∃ x c, res = .ok x c ∧ P c
  | some g, res => ∃ e c, res = .error e c ∧ cls e = g

structure Judges (cls : ε → γ) (m : Scan ε α β) (w : List α) (v : Nat → Option γ) : Prop where
  whole : ∀ rest n, Ends cls (· = ⟨rest, n + w.length⟩) (v w.length) (m ⟨w ++ rest, n⟩)
  cut : ∀ k, k < w.length → ∀ n, Ends cls (·.data = []) (v k) (m ⟨w.take k, n⟩)

section Judges
variable {cls : ε → γ} {cls' : ε' → γ} {short : ε → Prop} {g : γ}

theorem Ends.mapError {P : Cursor α → Prop} {v : Option γ} {m : Scan ε α β} {c : Cursor α} {f : ε → ε'}
    (hf : ∀ e, cls' (f e) = cls e) (h : Ends cls P v (m c)) : Ends cls' P v (Scan.mapError f m c) := by
  cases v with
  | none =>
    obtain ⟨x, c', hx, hP⟩ := h
    exact ⟨x, c', mapError_of_ok hx, hP⟩
  | some g =>
    obtain ⟨e, c', he, hg⟩ := h
    exact ⟨f e, c', mapError_of_error he, by rw [hf, hg]⟩

theorem Ends.bind_pure {P : Cursor α → Prop} {v : Option γ} {m : Scan ε α β} {c : Cursor α} (f : β → δ)
    (h : Ends cls P v (m c)) : Ends cls P v ((do let x ← m; return f x : Scan ε α δ) c) := by
  cases v with
  | none =>
    obtain ⟨x, c', hx, hP⟩ := h
    exact ⟨f x, c', by rw [bind_apply, hx]; rfl, hP⟩
  | some g =>
    obtain ⟨e, c', he, hg⟩ := h
    exact ⟨e, c', by rw [bind_apply, he], hg⟩

variable {m : Scan ε α β} {w : List α} {v : Nat → Option γ}

theorem Judges.mapError {f : ε → ε'} (hf : ∀ e, cls' (f e) = cls e) (h : Judges cls m w v) :
    Judges cls' (Scan.mapError f m) w v :=
  ⟨fun rest n => (h.whole rest n).mapError hf, fun k hk n => (h.cut k hk n).mapError hf⟩

theorem Judges.bind_pure (h : Judges cls m w v) (f : β → δ) :
    Judges cls (do let x ← m; return f x : Scan ε α δ) w v :=
  ⟨fun rest n => (h.whole rest n).bind_pure f, fun k hk n => (h.cut k hk n).bind_pure f⟩

theorem Takes.judges (h : Takes short m w.length) (hg : ∀ e, short e → cls e = g) :
    Judges cls m w fun k => if k < w.length then some g else none := by
  refine ⟨fun rest n => ?_, fun k hk n => ?_⟩
  · obtain ⟨x, hx⟩ := (h ⟨w ++ rest, n⟩).1 (by simp)
    rw [if_neg (Nat.lt_irrefl _)]
    exact ⟨x, _, hx, by simp [Cursor.advance]⟩
  · obtain ⟨e, j, he, hs⟩ := (h ⟨w.take k, n⟩).2 (by simp; omega)
    rw [if_pos hk]
    exact ⟨e, _, he, hg e hs⟩

theorem Skips.judges (h : Skips m w.length) (cls : ε → γ) : Judges cls m w fun _ => none := by
  refine ⟨fun rest n => ?_, fun k hk n => ?_⟩
  · obtain ⟨x, hx⟩ := h ⟨w ++ rest, n⟩
    exact ⟨x, _, hx, by simp [Cursor.advance]⟩
  · obtain ⟨x, hx⟩ := h ⟨w.take k, n⟩
    exact ⟨x, _, hx, List.drop_eq_nil_of_le (List.length_take_le' k w)⟩

theorem Judges.bind_of_cut {p : Scan ε α δ} {f : δ → Scan ε α β} {u : List α} {x : δ} (hp : Parses p u x)
    (hcut : ∀ k, k < u.length → ∀ n, ∃ e c, p ⟨u.take k, n⟩ = .error e c ∧ cls e = g)
    (h : Judges cls (f x) w v) :
    Judges cls (p >>= f) (u ++ w) fun k => if k < u.length then some g else v (k - u.length) := by
  refine ⟨fun rest n => ?_, fun k hk n => ?_⟩
  · have hw := h.whole rest (n + u.length)
    rw [List.length_append, if_neg (by omega), Nat.add_sub_cancel_left, List.append_assoc, bind_apply, hp]
    rw [Nat.add_assoc] at hw
    exact hw
  · rw [List.take_append]
    by_cases hku : k < u.length
    · obtain ⟨e, c, he, hs⟩ := hcut k hku n
      rw [if_pos hku, Nat.sub_eq_zero_of_le (Nat.le_of_lt hku), List.take_zero, List.append_nil, bind_apply, he]
      exact ⟨e, c, rfl, hs⟩
    · rw [List.length_append] at hk
      rw [if_neg hku, List.take_of_length_le (by omega), bind_apply, hp]
      exact h.cut (k - u.length) (by omega) (n + u.length)

theorem Judges.bind {p : Scan ε α δ} {f : δ → Scan ε α β} {u : List α} {x : δ} (hp : Parses p u x)
    (hshort : Needs short p u.length) (hg : ∀ e, short e → cls e = g) (h : Judges cls (f x) w v) :
    Judges cls (p >>= f) (u ++ w) fun k => if k < u.length then some g else v (k - u.length) := by
  refine Judges.bind_of_cut hp (fun k hk n => ?_) h
  obtain ⟨e, c, he, hs⟩ := hshort ⟨u.take k, n⟩ (by rw [Cursor.len_mk, List.length_take]; omega)
  exact ⟨e, c, he, hg e hs⟩

end Judges

/-! ## Words that are refused -/

/-- The scanner fails at the word, whatever follows it. -/
def Refuses (m : Scan ε α β) (w : List α) : Prop := ∀ rest n, ∃ e c, m ⟨w ++ rest, n⟩ = .error e c

theorem Judges.refuses {cls : ε → γ} {m : Scan ε α β} {w : List α} {v : Nat → Option γ} (h : Judges cls m w v)
    (hv : v w.length ≠ none) : Refuses m w := by
  intro rest n
  obtain ⟨g, hg⟩ := Option.ne_none_iff_exists'.mp hv
  have hw := h.whole rest n
  rw [hg] at hw
  obtain ⟨e, c, he, -⟩ := hw
  exact ⟨e, c, he⟩

theorem Refuses.mapError {m : Scan ε α β} {w : List α} (h : Refuses m w) (f : ε → ε') :
    Refuses (Scan.mapError f m) w := by
  intro rest n
  obtain ⟨e, c, he⟩ := h rest n
  exact ⟨f e, c, mapError_of_error he⟩

theorem Parses.bind_refuses {p : Scan ε α δ} {f : δ → Scan ε α β} {u w : List α} {x : δ} (hp : Parses p u x)
    (h : Refuses (f x) w) : Refuses (p >>= f) (u ++ w) := by
  intro rest n
  obtain ⟨e, c, he⟩ := h rest (n + u.length)
  exact ⟨e, c, by rw [List.append_assoc, bind_apply, hp]; exact he⟩

theorem many_refuses {m : Scan ε α β} {ws : List (List α)} (hall : ∀ w ∈ ws, (∃ x, Parses m w x) ∨ Refuses m w)
    {w : List α} (hw : w ∈ ws) (hrefuses : Refuses m w) (rest : List α) (n : Nat) :
    (many m ws.length ⟨ws.flatten ++ rest, n⟩).2.1 ≠ none := by
  induction ws generalizing n with
  | nil => exact absurd hw List.not_mem_nil
  | cons v vs ih =>
    rw [List.flatten_cons, List.append_assoc, List.length_cons]
    have hfails : Refuses m v → (many m (vs.length + 1) ⟨v ++ (vs.flatten ++ rest), n⟩).2.1 ≠ none := by
      intro hv
      obtain ⟨e, c, he⟩ := hv (vs.flatten ++ rest) n
      rw [many_of_error he]
      exact Option.some_ne_none e
    obtain rfl | hvs := List.mem_cons.mp hw
    · exact hfails hrefuses
    · obtain ⟨x, hx⟩ | hv := hall v List.mem_cons_self
      · rw [many_of_ok (hx _ n)]
        exact ih (fun u hu => hall u (List.mem_cons_of_mem v hu)) hvs (n + v.length)
      · exact hfails hv

/-! ## Loops -/

def times (m : Scan ε α β) : Nat → Scan ε α (List β)
  | 0 => pure []
  | n + 1 => do
    let x ← m
    let xs ← times m n
    return x :: xs

theorem many_eq_times (m : Scan ε α β) (n : Nat) (c : Cursor α) :
    (many m n c).2 = match times m n c with
      | .ok _ c' => (none, c')
      | .error e c' => (some e, c') := by
  induction n generalizing c with
  | zero => rfl
  | succ n ih =>
    rw [times, bind_apply]
    cases h : m c with
    | error e c' => rw [many_of_error h]
    | ok x c' =>
      rw [many_of_ok h]
      dsimp only
      rw [ih, bind_apply]
      cases times m n c' <;> rfl

section times
variable {τ : Type} (word : τ → List α) (verdict : τ → Nat → Option γ) (short : γ)

/-- The verdict for the first `k` symbols of several words in a row. A cut that was not noticed leaves nothing
for the next word. -/
def cutVerdict : List τ → Nat → Option γ
  | [], _ => none
  | t :: ts, k =>
    (verdict t (min k (word t).length)).or
      (if k < (word t).length ∧ ts ≠ [] then some short else cutVerdict ts (k - (word t).length))

variable {word verdict short} {cls : ε → γ} {m : Scan ε α β}

theorem cutVerdict_cons_of_le {t : τ} {ts : List τ} {k : Nat} (hk : (word t).length ≤ k) :
    cutVerdict word verdict short (t :: ts) k =
      (verdict t (word t).length).or (cutVerdict word verdict short ts (k - (word t).length)) := by
  rw [cutVerdict, Nat.min_eq_right hk, if_neg fun h => absurd h.1 (by omega)]

theorem cutVerdict_cons_of_lt {t : τ} {ts : List τ} {k : Nat} (hk : k < (word t).length) :
    cutVerdict word verdict short (t :: ts) k = (verdict t k).or (if ts = [] then none else some short) := by
  rw [cutVerdict, Nat.min_eq_left (by omega)]
  by_cases hts : ts = []
  · rw [if_neg fun h => h.2 hts, if_pos hts, hts, cutVerdict]
  · rw [if_pos ⟨hk, hts⟩, if_neg hts]

theorem cutVerdict_ne_none {t : τ} {ts : List τ} (ht : t ∈ ts) (hv : verdict t (word t).length ≠ none) :
    cutVerdict word verdict short ts (ts.flatMap word).length ≠ none := by
  induction ts with
  | nil => exact absurd ht List.not_mem_nil
  | cons u us ih =>
    rw [List.flatMap_cons, List.length_append, cutVerdict_cons_of_le (Nat.le_add_right _ _), Nat.add_sub_cancel_left,
      Ne, Option.or_eq_none_iff]
    intro ⟨hu, hus⟩
    obtain rfl | htail := List.mem_cons.mp ht
    · exact hv hu
    · exact ih htail hus

theorem times_succ_ends {P : Cursor α → Prop} {t v : Option γ} {c : Cursor α} {n : Nat}
    (hpass : Ends cls (fun c' => Ends cls P v (times m n c')) t (m c)) :
    Ends cls P (t.or v) (times m (n + 1) c) := by
  rw [times, bind_apply]
  cases t with
  | some g =>
    obtain ⟨e, c', he, hg⟩ := hpass
    rw [he]
    exact ⟨e, c', rfl, hg⟩
  | none =>
    obtain ⟨x, c', hx, hrest⟩ := hpass
    rw [hx]
    exact hrest.bind_pure (x :: ·)

theorem Ends.imp {P Q : Cursor α → Prop} {v : Option γ} {res : EStateM.Result ε (Cursor α) β} (h : Ends cls P v res)
    (hPQ : ∀ c, P c → Q c) : Ends cls Q v res := by
  cases v with
  | none =>
    obtain ⟨x, c, hx, hP⟩ := h
    exact ⟨x, c, hx, hPQ c hP⟩
  | some g => exact h

theorem Judges.times {ts : List τ} (h : ∀ t ∈ ts, Judges cls m (word t) (verdict t))
    (hempty : ∀ c : Cursor α, c.data = [] → ∃ e c', m c = .error e c' ∧ cls e = short) :
    Judges cls (Scan.times m ts.length) (ts.flatMap word) (cutVerdict word verdict short ts) := by
  induction ts with
  | nil =>
    refine ⟨fun rest n => ⟨[], _, rfl, rfl⟩, fun k hk => ?_⟩
    exact absurd hk (Nat.not_lt_zero k)
  | cons t ts ih =>
    have hhead := h t List.mem_cons_self
    have htail := ih fun u hu => h u (List.mem_cons_of_mem _ hu)
    rw [List.flatMap_cons]
    refine ⟨fun rest n => ?_, fun k hk n => ?_⟩
    · rw [cutVerdict_cons_of_le (by rw [List.length_append]; omega), List.length_append, Nat.add_sub_cancel_left,
        List.append_assoc]
      apply times_succ_ends
      apply (hhead.whole (ts.flatMap word ++ rest) n).imp
      intro c hc
      rw [hc, ← Nat.add_assoc]
      exact htail.whole rest (n + (word t).length)
    · by_cases hkt : k < (word t).length
      · rw [cutVerdict_cons_of_lt hkt, List.take_append, Nat.sub_eq_zero_of_le (Nat.le_of_lt hkt), List.take_zero,
          List.append_nil]
        apply times_succ_ends
        apply (hhead.cut k hkt n).imp
        intro c hc
        cases ts with
        | nil => exact ⟨[], c, rfl, hc⟩
        | cons u us =>
          obtain ⟨e, c', he, hs⟩ := hempty c hc
          rw [if_neg (List.cons_ne_nil u us), List.length_cons, Scan.times, bind_apply, he]
          exact ⟨e, c', rfl, hs⟩
      · rw [List.length_append] at hk
        rw [cutVerdict_cons_of_le (by omega), List.take_append, List.take_of_length_le (by omega)]
        apply times_succ_ends
        apply (hhead.whole ((ts.flatMap word).take (k - (word t).length)) n).imp
        intro c hc
        rw [hc]
        exact htail.cut (k - (word t).length) (by omega) (n + (word t).length)

end times

end Scan
