import VFlow.Base.Json

/-!
# Texts put together piece by piece

`Reads f P o w` says that the parser `f` reads the text `w`, in front of anything that does not go on
a number, as `o` when `P` holds, and not as `o` when `P` does not hold. The judgement is closed under
arrays and objects, and `Spells` is the judgement for values with enough fuel. A string put between
quotes brings the condition that it is plain; the other pieces have none. So a whole text is read as
the value it was meant for exactly when all the strings in it are plain (`Spells.parse_eq_some`), and
then no piece can have changed what another one is read as. With the weaker condition that the strings are
the insides of literals the pieces are kept apart as well, and each string is read as what its literal
stands for (`StringReading`).

`o` is `none` for a piece that no JSON value can be read from; the whole text is then not JSON.
-/

namespace Json

@[simp] theorem skipWs_cons {c : UInt8} (h : isWs c = false) (w : List UInt8) : skipWs (c :: w) = c :: w := by
  simp [skipWs, h]

/-- What may follow an item: the end, a comma or a closing bracket. -/
def Stops (rest : List UInt8) : Prop := ∀ c ∈ rest.head?, c = comma ∨ c = 0x5d ∨ c = 0x7d

@[simp] theorem Stops.nil : Stops [] := by
  simp [Stops]

theorem Stops.cons {c : UInt8} (hc : c = comma ∨ c = 0x5d ∨ c = 0x7d) (rest : List UInt8) : Stops (c :: rest) := by
  simpa [Stops] using hc

/-- The text of an item in a list starts with neither white space nor a closing bracket. -/
def Starts (w : List UInt8) : Prop := ∃ c w', w = c :: w' ∧ isWs c = false ∧ c ≠ 0x5d ∧ c ≠ 0x7d

/-- The text `w` of an item is read by `f` as `o` when `P` holds, and not as `o` otherwise. -/
structure Reads {β : Type} (f : Parser β) (P : Prop) (o : Option β) (w : List UInt8) : Prop where
  read : P → ∀ rest, Stops rest → f (w ++ rest) = o.map (·, rest)
  misread : ¬P → ∀ rest, Stops rest → ∀ y rest', f (w ++ rest) = some (y, rest') → o ≠ some y

/-- `Reads` for values, with any fuel above the length of the text. -/
def Spells (i : Invalid) (P : Prop) (o : Option Json) (w : List UInt8) : Prop :=
  ∀ n, w.length < n → Reads (value i n) P o w

variable {i : Invalid}

theorem Spells.congr {P P' : Prop} {o o' : Option Json} {w : List UInt8} (h : Spells i P o w) (hP : P ↔ P')
    (ho : o = o') : Spells i P' o' w := by
  rw [← ho, ← propext hP]
  exact h

/-! ## Lists of items -/

def commas (ws : List (List UInt8)) : List UInt8 := [comma].intercalate ws

@[simp] theorem commas_nil : commas [] = [] := by
  simp [commas]

@[simp] theorem commas_singleton (w : List UInt8) : commas [w] = w := by
  simp [commas]

@[simp] theorem commas_cons_cons (w w' : List UInt8) (ws : List (List UInt8)) :
    commas (w :: w' :: ws) = w ++ comma :: commas (w' :: ws) := by
  simp [commas, List.intercalate_cons_cons]

theorem commas_cons (w : List UInt8) (ws : List (List UInt8)) :
    commas (w :: ws) = w ++ ws.flatMap fun v => comma :: v := by
  induction ws generalizing w with
  | nil => simp
  | cons v ws ih => rw [commas_cons_cons, ih, List.flatMap_cons, List.cons_append]

theorem length_le_commas {w : List UInt8} {ws : List (List UInt8)} (h : w ∈ ws) : w.length ≤ (commas ws).length := by
  induction ws with
  | nil => simp at h
  | cons v ws ih =>
    match ws with
    | [] => simp_all
    | v' :: ws =>
      rw [commas_cons_cons, List.length_append, List.length_cons]
      rcases List.mem_cons.mp h with rfl | h
      · omega
      · have := ih h
        omega

theorem length_le_commas_succ (ws : List (List UInt8)) : ws.length ≤ (commas ws).length + 1 := by
  induction ws with
  | nil => simp
  | cons v ws ih =>
    match ws with
    | [] => simp
    | v' :: ws =>
      simp only [commas_cons_cons, List.length_append, List.length_cons] at ih ⊢
      omega

section Items

variable {β α : Type} {f : Parser β} {close : UInt8} {P : α → Prop} {o : α → Option β} {w : α → List UInt8}

theorem commaSeparated_last (hclose : close = 0x5d ∨ close = 0x7d) {n : Nat} {x : β} {v rest : List UInt8}
    (h : f v = some (x, close :: rest)) : commaSeparated f close (n + 1) v = some ([x], rest) := by
  have hws : isWs close = false := by
    rcases hclose with rfl | rfl <;> rfl
  simp [commaSeparated, h, hws]

theorem commaSeparated_more (hclose : close = 0x5d ∨ close = 0x7d) {n : Nat} {x : β} {v rest : List UInt8}
    (h : f v = some (x, comma :: rest)) :
    commaSeparated f close (n + 1) v = (commaSeparated f close n rest).map fun p => (x :: p.1, p.2) := by
  have hws : isWs comma = false := rfl
  have hne : comma ≠ close := by
    rcases hclose with rfl | rfl <;> decide
  simp [commaSeparated, h, hws, hne]

theorem commaSeparated_none {n : Nat} {v : List UInt8} (h : f v = none) : commaSeparated f close (n + 1) v = none := by
  simp [commaSeparated, h]

theorem commaSeparated_eq_some {n : Nat} {v rest : List UInt8} {ys : List β}
    (h : commaSeparated f close (n + 1) v = some (ys, rest)) :
    ∃ y ys' rest', f v = some (y, rest') ∧ ys = y :: ys' := by
  unfold commaSeparated at h
  split at h
  · simp at h
  · next y w' hv =>
    refine ⟨y, ys.tail, w', hv, ?_⟩
    split at h
    · simp at h
    · split_ifs at h
      · simp only [Option.some.injEq, Prod.mk.injEq] at h
        rw [← h.1, List.tail_cons]
      · obtain ⟨p, -, hp⟩ := Option.map_eq_some_iff.mp h
        simp only [Prod.mk.injEq] at hp
        rw [← hp.1, List.tail_cons]

theorem mapM_cons_eq_some {x : α} {xs : List α} {ys : List β} (h : (x :: xs).mapM o = some ys) :
    ∃ y ys', o x = some y ∧ xs.mapM o = some ys' ∧ ys = y :: ys' := by
  simp only [List.mapM_cons, Option.bind_eq_bind, Option.bind_eq_some_iff] at h
  obtain ⟨y, hy, ys', hys, h⟩ := h
  exact ⟨y, ys', hy, hys, (Option.some.inj h).symm⟩

theorem mapM_ite (p : α → Bool) (g : α → β) (xs : List α) :
    (xs.mapM fun x => if p x then some (g x) else none) = if xs.all p then some (xs.map g) else none := by
  induction xs with
  | nil => rfl
  | cons x xs ih =>
    rw [List.mapM_cons, ih, List.all_cons]
    cases p x with
    | false => rfl
    | true => cases xs.all p <;> rfl

theorem commaSeparated_read (hclose : close = 0x5d ∨ close = 0x7d) {x : α} {xs : List α}
    (h : ∀ y ∈ x :: xs, Reads f (P y) (o y) (w y)) (hP : ∀ y ∈ x :: xs, P y) {n : Nat} (hn : xs.length < n)
    (rest : List UInt8) :
    commaSeparated f close n (commas ((x :: xs).map w) ++ close :: rest) = ((x :: xs).mapM o).map (·, rest) := by
  induction xs generalizing x n with
  | nil =>
    obtain ⟨n, rfl⟩ := Nat.exists_eq_succ_of_ne_zero (Nat.ne_zero_of_lt hn)
    have hx := (h x (by simp)).read (hP x (by simp)) (close :: rest) (.cons (Or.inr hclose) rest)
    rw [List.map_singleton, commas_singleton, List.mapM_cons, List.mapM_nil]
    cases ho : o x with
    | none => exact commaSeparated_none (by rw [hx, ho, Option.map_none])
    | some y => exact commaSeparated_last hclose (by rw [hx, ho, Option.map_some])
  | cons x' xs ih =>
    obtain ⟨n, rfl⟩ := Nat.exists_eq_succ_of_ne_zero (Nat.ne_zero_of_lt hn)
    have ih := ih (fun y hy => h y (List.mem_cons_of_mem _ hy)) (fun y hy => hP y (List.mem_cons_of_mem _ hy))
      (Nat.lt_of_succ_lt_succ hn)
    rw [List.map_cons] at ih
    have hx := (h x (by simp)).read (hP x (by simp)) (comma :: (commas (w x' :: xs.map w) ++ close :: rest))
      (.cons (Or.inl rfl) _)
    rw [List.map_cons, List.map_cons, commas_cons_cons, List.append_assoc, List.cons_append, List.mapM_cons]
    cases ho : o x with
    | none => exact commaSeparated_none (by rw [hx, ho, Option.map_none])
    | some y =>
      rw [commaSeparated_more hclose (by rw [hx, ho, Option.map_some]), ih]
      cases (x' :: xs).mapM o <;> rfl

theorem commaSeparated_misread (hclose : close = 0x5d ∨ close = 0x7d) {x : α} {xs : List α}
    (h : ∀ y ∈ x :: xs, Reads f (P y) (o y) (w y)) (hP : ¬∀ y ∈ x :: xs, P y) {n : Nat}
    {ys : List β} {rest rest' : List UInt8}
    (hys : commaSeparated f close n (commas ((x :: xs).map w) ++ close :: rest) = some (ys, rest')) :
    (x :: xs).mapM o ≠ some ys := by
  intro hmap
  induction xs generalizing x n ys with
  | nil =>
    obtain ⟨n, rfl⟩ : ∃ m, n = m + 1 := Nat.exists_eq_succ_of_ne_zero (by rintro rfl; simp [commaSeparated] at hys)
    obtain ⟨y, ys', rest'', hy, rfl⟩ := commaSeparated_eq_some hys
    obtain ⟨z, zs, hz, -, hzs⟩ := mapM_cons_eq_some hmap
    rw [List.map_singleton, commas_singleton] at hy
    have hx : ¬P x := by simpa using hP
    refine (h x (by simp)).misread hx _ (.cons (Or.inr hclose) rest) y rest'' hy ?_
    rw [hz, (List.cons.inj hzs).1]
  | cons x' xs ih =>
    obtain ⟨n, rfl⟩ : ∃ m, n = m + 1 := Nat.exists_eq_succ_of_ne_zero (by rintro rfl; simp [commaSeparated] at hys)
    obtain ⟨y, ys', rest'', hy, rfl⟩ := commaSeparated_eq_some hys
    obtain ⟨z, zs, hz, hzs', hzs⟩ := mapM_cons_eq_some hmap
    obtain ⟨rfl, rfl⟩ := List.cons.inj hzs
    rw [List.map_cons, List.map_cons, commas_cons_cons, List.append_assoc, List.cons_append] at hy hys
    have hstops : Stops (comma :: (commas (w x' :: xs.map w) ++ close :: rest)) := .cons (Or.inl rfl) _
    by_cases hx : P x
    · have hread := (h x (by simp)).read hx _ hstops
      rw [commaSeparated_more hclose (by rw [hread, hz, Option.map_some])] at hys
      obtain ⟨⟨zs, rest₁⟩, htail, heq⟩ := Option.map_eq_some_iff.mp hys
      simp only [Prod.mk.injEq, List.cons.injEq, true_and] at heq
      obtain ⟨rfl, rfl⟩ := heq
      refine ih (fun y hy => h y (List.mem_cons_of_mem _ hy)) ?_ htail hzs'
      intro hall
      exact hP (List.forall_mem_cons.mpr ⟨hx, hall⟩)
    · exact (h x (by simp)).misread hx _ hstops y rest'' hy hz

theorem enclosed_nil (hclose : close = 0x5d ∨ close = 0x7d) (n : Nat) (rest : List UInt8) :
    enclosed f close n (close :: rest) = some ([], rest) := by
  have hws : isWs close = false := by
    rcases hclose with rfl | rfl <;> rfl
  simp [enclosed, hws]

theorem enclosed_cons {n : Nat} {c : UInt8} {v : List UInt8} (hws : isWs c = false) (hc : c ≠ close) :
    enclosed f close n (c :: v) = commaSeparated f close n (c :: v) := by
  simp [enclosed, hws, hc]

theorem enclosed_commas (hclose : close = 0x5d ∨ close = 0x7d) {x : α} {xs : List α} (hx : Starts (w x)) (n : Nat)
    (rest : List UInt8) :
    enclosed f close n (commas ((x :: xs).map w) ++ rest) =
      commaSeparated f close n (commas ((x :: xs).map w) ++ rest) := by
  obtain ⟨c, v, hw, hws, hc⟩ := hx
  have hcons : ∃ v', commas ((x :: xs).map w) = c :: v' := by
    match xs with
    | [] => exact ⟨v, by simp [hw]⟩
    | y :: xs => exact ⟨v ++ comma :: commas ((y :: xs).map w), by simp [hw]⟩
  obtain ⟨v', hv'⟩ := hcons
  rw [hv', List.cons_append]
  apply enclosed_cons hws
  rcases hclose with rfl | rfl
  · exact hc.1
  · exact hc.2

theorem enclosed_read (hclose : close = 0x5d ∨ close = 0x7d) {xs : List α}
    (hw : ∀ x ∈ xs, Starts (w x)) (h : ∀ x ∈ xs, Reads f (P x) (o x) (w x)) (hP : ∀ x ∈ xs, P x) {n : Nat}
    (hn : xs.length ≤ n) (rest : List UInt8) :
    enclosed f close n (commas (xs.map w) ++ close :: rest) = (xs.mapM o).map (·, rest) := by
  match xs with
  | [] => exact enclosed_nil hclose n rest
  | x :: xs =>
    rw [enclosed_commas hclose (hw x (by simp))]
    exact commaSeparated_read hclose h hP hn rest

theorem enclosed_misread (hclose : close = 0x5d ∨ close = 0x7d) {xs : List α}
    (hw : ∀ x ∈ xs, Starts (w x)) (h : ∀ x ∈ xs, Reads f (P x) (o x) (w x)) (hP : ¬∀ x ∈ xs, P x) {n : Nat}
    {ys : List β} {rest rest' : List UInt8}
    (hys : enclosed f close n (commas (xs.map w) ++ close :: rest) = some (ys, rest')) : xs.mapM o ≠ some ys := by
  match xs with
  | [] => exact absurd (by simp) hP
  | x :: xs =>
    rw [enclosed_commas hclose (hw x (by simp))] at hys
    exact commaSeparated_misread hclose h hP hys

end Items

/-! ## Arrays and objects -/

@[simp] theorem value_arr (n : Nat) (w : List UInt8) :
    value i (n + 1) (0x5b :: w) = (enclosed (value i n) 0x5d n w).map fun p => (arr p.1, p.2) := by
  rw [value, skipWs_cons rfl]
  rfl

@[simp] theorem value_obj (n : Nat) (w : List UInt8) :
    value i (n + 1) (0x7b :: w) = (enclosed (member i (value i n)) 0x7d n w).map fun p => (obj p.1, p.2) := by
  rw [value, skipWs_cons rfl]
  rfl

@[simp] theorem value_str (n : Nat) (w : List UInt8) :
    value i (n + 1) (quote :: w) = (string i w).map fun p => (str p.1, p.2) := by
  rw [value, skipWs_cons rfl]
  rfl

theorem Reads.brackets {α β : Type} {f : Parser β} {g : Parser Json} {mk : List β → Json}
    (hmk : Function.Injective mk) {opening close : UInt8}
    (hclose : close = 0x5d ∨ close = 0x7d) {n : Nat}
    (hg : ∀ v, g (opening :: v) = (enclosed f close n v).map fun p => (mk p.1, p.2))
    {xs : List α} {P : α → Prop} {o : α → Option β} {w : α → List UInt8}
    (hw : ∀ x ∈ xs, Starts (w x)) (h : ∀ x ∈ xs, Reads f (P x) (o x) (w x)) (hn : xs.length ≤ n) :
    Reads g (∀ x ∈ xs, P x) ((xs.mapM o).map mk) (opening :: commas (xs.map w) ++ [close]) := by
  have htext (rest : List UInt8) : opening :: commas (xs.map w) ++ [close] ++ rest =
      opening :: (commas (xs.map w) ++ close :: rest) := by
    simp
  constructor
  · intro hP rest _
    rw [htext, hg, enclosed_read hclose hw h hP hn]
    cases xs.mapM o <;> rfl
  · intro hP rest _ y rest' hy heq
    rw [htext, hg] at hy
    obtain ⟨⟨ys, r⟩, hys, hp⟩ := Option.map_eq_some_iff.mp hy
    obtain ⟨zs, hzs, hz⟩ := Option.map_eq_some_iff.mp heq
    simp only [Prod.mk.injEq] at hp
    rw [← hp.1] at hz
    exact enclosed_misread hclose hw h hP hys (hzs.trans (congrArg some (hmk hz)))

def array (ws : List (List UInt8)) : List UInt8 := 0x5b :: commas ws ++ [0x5d]

theorem starts_array (ws : List (List UInt8)) : Starts (array ws) := ⟨_, _, rfl, rfl, by decide, by decide⟩

theorem Spells.arr {α : Type} {xs : List α} {P : α → Prop} {o : α → Option Json} {w : α → List UInt8}
    (hw : ∀ x ∈ xs, Starts (w x)) (h : ∀ x ∈ xs, Spells i (P x) (o x) (w x)) :
    Spells i (∀ x ∈ xs, P x) ((xs.mapM o).map Json.arr) (array (xs.map w)) := by
  intro n hn
  obtain ⟨n, rfl⟩ := Nat.exists_eq_succ_of_ne_zero (Nat.ne_zero_of_lt hn)
  have hlen : (commas (xs.map w)).length < n := by
    simp only [array, List.cons_append, List.length_cons, List.length_append, List.length_nil] at hn
    omega
  apply Reads.brackets (fun _ _ => arr.inj) (Or.inl rfl) (value_arr n) hw
  · intro x hx
    exact h x hx n (Nat.lt_of_le_of_lt (length_le_commas (List.mem_map_of_mem hx)) hlen)
  · have := length_le_commas_succ (xs.map w)
    rw [List.length_map] at this
    omega

/-- A member of an object: what its value is read as, when it is, and its text. -/
structure Member where
  name : List UInt8
  holds : Prop
  json : Option Json
  spelled : List UInt8

def Member.text (m : Member) : List UInt8 := quote :: m.name ++ quote :: 0x3a :: m.spelled

theorem Member.starts_text (m : Member) : Starts m.text := ⟨_, _, rfl, rfl, by decide, by decide⟩

def Member.pair (m : Member) : Option (List UInt8 × Json) := m.json.map (m.name, ·)

def object (ws : List (List UInt8)) : List UInt8 := 0x7b :: commas ws ++ [0x7d]

theorem starts_object (ws : List (List UInt8)) : Starts (object ws) := ⟨_, _, rfl, rfl, by decide, by decide⟩

theorem member_text {f : Parser Json} {m : Member} (hname : PlainText m.name) (rest : List UInt8) :
    member i f (m.text ++ rest) = (f (m.spelled ++ rest)).map fun p => ((m.name, p.1), p.2) := by
  have htext : m.text ++ rest = quote :: (m.name ++ quote :: 0x3a :: (m.spelled ++ rest)) := by
    simp [Member.text]
  have hcolon : skipWs (0x3a :: (m.spelled ++ rest)) = 0x3a :: (m.spelled ++ rest) := skipWs_cons rfl _
  rw [htext, member, skipWs_cons rfl]
  simp only [if_true, string_plain hname, Option.bind_eq_bind, Option.bind_some, hcolon]

theorem Reads.member {f : Parser Json} {m : Member} (hname : PlainText m.name)
    (h : Reads f m.holds m.json m.spelled) :
    Reads (Json.member i f) m.holds m.pair m.text := by
  constructor
  · intro hP rest hrest
    rw [member_text hname, h.read hP rest hrest, Member.pair, Option.map_map, Option.map_map]
    rfl
  · intro hP rest hrest y rest' hy heq
    rw [member_text hname] at hy
    obtain ⟨⟨j, r⟩, hj, hp⟩ := Option.map_eq_some_iff.mp hy
    obtain ⟨z, hz, hzy⟩ := Option.map_eq_some_iff.mp heq
    simp only [Prod.mk.injEq] at hp
    rw [← hp.1, Prod.mk.injEq] at hzy
    exact h.misread hP rest hrest j r hj (hz.trans (congrArg some hzy.2))

theorem Spells.obj {ms : List Member} (hname : ∀ m ∈ ms, PlainText m.name)
    (h : ∀ m ∈ ms, Spells i m.holds m.json m.spelled) :
    Spells i (∀ m ∈ ms, m.holds) ((ms.mapM Member.pair).map Json.obj) (object (ms.map Member.text)) := by
  intro n hn
  obtain ⟨n, rfl⟩ := Nat.exists_eq_succ_of_ne_zero (Nat.ne_zero_of_lt hn)
  have hlen : (commas (ms.map Member.text)).length < n := by
    simp only [object, List.cons_append, List.length_cons, List.length_append, List.length_nil] at hn
    omega
  apply Reads.brackets (fun _ _ => obj.inj) (Or.inr rfl) (value_obj n) (fun m _ => m.starts_text)
  · intro m hm
    apply Reads.member (hname m hm)
    have hm' := length_le_commas (List.mem_map_of_mem (f := Member.text) hm)
    simp only [Member.text, List.cons_append, List.length_cons, List.length_append] at hm'
    exact h m hm n (by omega)
  · have := length_le_commas_succ (ms.map Member.text)
    rw [List.length_map] at this
    omega

/-! ## Strings -/

theorem value_quoted (n : Nat) (s rest : List UInt8) :
    value i (n + 1) (quote :: s ++ [quote] ++ rest) =
      (string i (s ++ quote :: rest)).map fun p => (Json.str p.1, p.2) := by
  simp

theorem Spells.str (s : List UInt8) : Spells .refuse (PlainText s) (some (Json.str s)) (quote :: s ++ [quote]) := by
  intro n hn
  obtain ⟨n, rfl⟩ := Nat.exists_eq_succ_of_ne_zero (Nat.ne_zero_of_lt hn)
  constructor
  · intro hs rest _
    rw [value_quoted, string_plain hs]
    rfl
  · intro hs rest _ y rest' hy heq
    rw [value_quoted] at hy
    obtain ⟨⟨t, r⟩, ht, hp⟩ := Option.map_eq_some_iff.mp hy
    simp only [Prod.mk.injEq] at hp
    rw [← hp.1, Option.some.injEq, str.injEq] at heq
    rw [← heq] at ht
    exact hs (string_eq_self.mp ht).1

/-- What the bytes `s` stand for between quotes, if they are the inside of a literal. -/
def literal (i : Invalid) (s : List UInt8) : Option (List UInt8) :=
  match string i (s ++ [quote]) with
  | some (t, []) => some t
  | _ => none

theorem literal_eq_some {s t : List UInt8} : literal i s = some t ↔ string i (s ++ [quote]) = some (t, []) := by
  unfold literal
  cases hs : string i (s ++ [quote]) with
  | none => simp
  | some p =>
    obtain ⟨t', r⟩ := p
    cases r <;> simp

theorem literal_plain {s : List UInt8} (h : PlainText s) : literal i s = some s :=
  literal_eq_some.mpr (string_plain h [])

theorem prepend_append {s w v t r : List UInt8}
    (ih : ∀ {t r}, stringBody w = some (t, r) → stringBody (w ++ v) = some (t, r ++ v))
    (h : prepend s (stringBody w) = some (t, r)) : prepend s (stringBody (w ++ v)) = some (t, r ++ v) := by
  obtain ⟨t', hr, rfl⟩ := prepend_eq_some h
  rw [ih hr]
  rfl

/-- A surrogate that no other escape by number follows is read alone. -/
theorem stringBody_lone {h1 h2 h3 h4 : UInt8} {x : Nat} {w : List UInt8} (hx : hex4 h1 h2 h3 h4 = some x)
    (hs : ¬(x < 0xd800 ∨ 0xe000 ≤ x)) (hw : ∀ l1 l2 l3 l4 w', w ≠ backslash :: 0x75 :: l1 :: l2 :: l3 :: l4 :: w') :
    stringBody (backslash :: 0x75 :: h1 :: h2 :: h3 :: h4 :: w) = prepend (utf8Encode 0xfffd) (stringBody w) := by
  rw [stringBody.eq_def]
  simp only [show ¬backslash = quote by decide, show ¬backslash < 0x20 by decide, if_false, ne_eq, not_true_eq_false,
    hx, if_neg hs]
  split
  · next b u l1 l2 l3 l4 w' =>
    have hpair : surrogatePair x b u l1 l2 l3 l4 = none := by
      unfold surrogatePair
      cases hex4 l1 l2 l3 l4 with
      | none => rfl
      | some lo =>
        refine if_neg fun hbu => hw l1 l2 l3 l4 w' ?_
        rw [hbu.1, hbu.2.1]
    rw [hpair]
  · rfl

theorem stringBody_append {w t r : List UInt8} (h : stringBody w = some (t, r)) (v : List UInt8) :
    stringBody (w ++ v) = some (t, r ++ v) := by
  fun_induction stringBody w generalizing t r with
  | case1 | case3 | case5 | case6 | case8 | case13 => simp at h
  | case2 w =>
    obtain ⟨rfl, rfl⟩ := Prod.mk.inj (Option.some.inj h)
    rw [List.cons_append, stringBody.eq_def]
    exact if_pos rfl
  | case4 c w hq hc hb ih =>
    rw [List.cons_append, stringBody.eq_def]
    simp only [if_neg hq, if_neg hc, if_pos hb]
    exact prepend_append ih h
  | case7 c hq hc hb e w he x hx ih =>
    simp only [List.cons_append]
    rw [stringBody.eq_def]
    simp only [if_neg hq, if_neg hc, if_neg hb, if_pos he, hx]
    exact prepend_append ih h
  | case9 c hq hc hb u hu h1 h2 h3 h4 w x hx hs ih =>
    simp only [List.cons_append]
    rw [stringBody.eq_def]
    simp only [if_neg hq, if_neg hc, if_neg hb, if_neg hu, hx, if_pos hs]
    exact prepend_append ih h
  | case10 c hq hc hb u hu h1 h2 h3 h4 x hx hs b' u' l1 l2 l3 l4 w p hp ih =>
    simp only [List.cons_append]
    rw [stringBody.eq_def]
    simp only [if_neg hq, if_neg hc, if_neg hb, if_neg hu, hx, if_neg hs, hp]
    exact prepend_append ih h
  | case11 c hq hc hb u hu h1 h2 h3 h4 x hx hs b' u' l1 l2 l3 l4 w hp ih =>
    simp only [List.cons_append] at ih ⊢
    rw [stringBody.eq_def]
    simp only [if_neg hq, if_neg hc, if_neg hb, if_neg hu, hx, if_neg hs, hp]
    exact prepend_append ih h
  | case12 c hq hc hb u hu h1 h2 h3 h4 x hx hs w hw ih =>
    obtain rfl := not_not.mp hb
    obtain rfl := not_not.mp hu
    simp only [List.cons_append]
    rw [stringBody_lone hx hs fun l1 l2 l3 l4 w' heq => ?_]
    · exact prepend_append ih h
    · -- less than an escape by number follows, from which no string can be read
      obtain ⟨t', hbody, -⟩ := prepend_eq_some h
      rcases w with _ | ⟨b, _ | ⟨u, _ | ⟨a1, _ | ⟨a2, _ | ⟨a3, _ | ⟨a4, w⟩⟩⟩⟩⟩⟩
      · cases hbody
      all_goals simp only [List.cons_append, List.cons.injEq] at heq
      · rw [heq.1] at hbody
        cases hbody
      all_goals try
        rw [heq.1, heq.2.1] at hbody
        cases hbody
      exact hw _ _ _ _ _ _ _ rfl

theorem string_literal {s t : List UInt8} (h : literal i s = some t) (rest : List UInt8) :
    string i (s ++ quote :: rest) = some (t, rest) := by
  obtain ⟨⟨t', r⟩, hbody, ht⟩ := Option.bind_eq_some_iff.mp (literal_eq_some.mp h)
  obtain ⟨t'', happly, hp⟩ := Option.map_eq_some_iff.mp ht
  obtain ⟨rfl, rfl⟩ := Prod.mk.inj hp
  have hmore := stringBody_append hbody rest
  rw [List.append_assoc, List.cons_append, List.nil_append] at hmore
  rw [string, hmore, Option.bind_some, happly, Option.map_some]

/-- The value of a literal, and no string for bytes that are not the inside of one. -/
def literalJson (i : Invalid) (s : List UInt8) : Json :=
  match literal i s with
  | some t => .str t
  | none => .null

theorem Spells.literal (s : List UInt8) :
    Spells i (Json.literal i s).isSome (some (literalJson i s)) (quote :: s ++ [quote]) := by
  intro n hn
  obtain ⟨n, rfl⟩ := Nat.exists_eq_succ_of_ne_zero (Nat.ne_zero_of_lt hn)
  unfold literalJson
  cases hs : Json.literal i s with
  | some t =>
    refine ⟨fun _ rest _ => ?_, fun hP => absurd rfl hP⟩
    rw [value_quoted, string_literal hs]
    rfl
  | none =>
    refine ⟨fun hP => absurd hP (by simp), fun _ rest _ y rest' hy heq => ?_⟩
    rw [value_quoted] at hy
    obtain ⟨p, -, hp⟩ := Option.map_eq_some_iff.mp hy
    rw [← (Prod.mk.inj hp).1] at heq
    cases heq

/-- A way to read the strings of a text: when the bytes between two quotes are read as they are meant to be, and as
what. -/
structure StringReading where
  invalid : Invalid
  holds : List UInt8 → Prop
  json : List UInt8 → Json
  spells : ∀ s, Spells invalid (holds s) (some (json s)) (quote :: s ++ [quote])
  plain : ∀ s, PlainText s → holds s ∧ json s = .str s
  string : ∀ s, json s = .null ∨ ∃ t, json s = .str t

/-- Strings that stand for themselves. -/
def StringReading.asThemselves : StringReading where
  invalid := .refuse
  holds := PlainText
  json := .str
  spells := Spells.str
  plain _ hs := ⟨hs, rfl⟩
  string s := .inr ⟨s, rfl⟩

instance : DecidablePred StringReading.asThemselves.holds := inferInstanceAs (DecidablePred PlainText)

/-- Strings that are the insides of literals, as `json.Unmarshal` reads them. -/
def StringReading.asLiterals : StringReading where
  invalid := .replace
  holds s := (literal .replace s).isSome
  json := literalJson .replace
  spells := Spells.literal
  plain s hs := by
    rw [literalJson, literal_plain hs]
    exact ⟨rfl, rfl⟩
  string s := by
    unfold literalJson
    cases literal .replace s with
    | none => exact .inl rfl
    | some t => exact .inr ⟨t, rfl⟩

instance : DecidablePred StringReading.asLiterals.holds := fun s =>
  inferInstanceAs (Decidable ((literal .replace s).isSome = true))

/-! ## Whole texts -/

theorem Spells.parse {P : Prop} {o : Option Json} {w : List UInt8} (h : Spells i P o w) (hP : P) : parseAs i w = o := by
  have hread := (h (w.length + 1) (Nat.lt_succ_self _)).read hP [] .nil
  rw [List.append_nil] at hread
  rw [parseAs, hread]
  cases o with
  | none => rfl
  | some j => exact if_pos rfl

theorem Spells.holds_of_parse {P : Prop} {j : Json} {w : List UInt8} (h : Spells i P (some j) w)
    (hj : parseAs i w = some j) : P := by
  by_contra hP
  unfold parseAs at hj
  split at hj
  · next j' rest heq =>
    split_ifs at hj
    rw [← List.append_nil w] at heq
    refine (h _ (by simp)).misread hP [] .nil j' rest heq ?_
    exact hj.symm
  · simp at hj

theorem Spells.parse_eq_some {P : Prop} {j : Json} {w : List UInt8} (h : Spells i P (some j) w) :
    parseAs i w = some j ↔ P :=
  ⟨h.holds_of_parse, h.parse⟩

end Json
