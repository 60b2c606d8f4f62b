import VFlow.Base.JsonPrint

/-!
# Texts that are cut off

A text that was written only in part is not taken for another value: a parser that comes to the end of the part while
it reads an item has nothing left that could close the list around it (`Ends`). So no object is read from a proper
prefix of the text of an object (`parseAs_cut`). A number is the one kind of value that goes on being a number when it
is cut, and then it goes to the end.
-/

namespace Json

variable {i : Invalid}

theorem isPrefix_append_iff {α : Type} {p a b : List α} : p <+: a ++ b ↔ p <+: a ∨ ∃ q, p = a ++ q ∧ q <+: b := by
  constructor
  · intro h
    rcases List.prefix_or_prefix_of_prefix h (List.prefix_append a b) with h' | ⟨q, rfl⟩
    · exact .inl h'
    · exact .inr ⟨q, rfl, (List.prefix_append_right_inj a).mp h⟩
  · rintro (h | ⟨q, rfl, h⟩)
    · exact h.trans (List.prefix_append a b)
    · exact (List.prefix_append_right_inj a).mpr h

/-- From the parts of `w` with `k` bytes at most `f` reads to the end, if it reads anything. -/
def Ends {β : Type} (f : Parser β) (k : Nat) (w : List UInt8) : Prop :=
  ∀ p, p <+: w → p.length ≤ k → ∀ x rest, f p = some (x, rest) → rest = []

/-! ## Lists -/

section lists

variable {α β : Type} {f : Parser β} {close : UInt8} {o : α → β} {w : α → List UInt8} {k : Nat}

theorem commaSeparated_of_end {n : Nat} {v : List UInt8} (h : ∀ x rest, f v = some (x, rest) → rest = []) :
    commaSeparated f close n v = none := by
  cases n with
  | zero => rfl
  | succ n =>
    cases hv : f v with
    | none => exact commaSeparated_none hv
    | some y =>
      obtain ⟨x, rest⟩ := y
      obtain rfl := h x rest hv
      simp [commaSeparated, hv, skipWs]

theorem commaSeparated_cut (hclose : close = 0x5d ∨ close = 0x7d) {x : α} {xs : List α}
    (hread : ∀ y ∈ x :: xs, (w y).length ≤ k → Reads f True (some (o y)) (w y))
    (hends : ∀ y ∈ x :: xs, Ends f k (w y)) {p : List UInt8} (hp : p <+: commas ((x :: xs).map w) ++ [close])
    (hne : p ≠ commas ((x :: xs).map w) ++ [close]) (hk : p.length ≤ k) (n : Nat) :
    commaSeparated f close n p = none := by
  induction xs generalizing x p n with
  | nil =>
    refine commaSeparated_of_end (hends x (by simp) p ?_ hk)
    rw [List.map_singleton, commas_singleton] at hp hne
    exact (List.prefix_concat_iff.mp hp).resolve_left hne
  | cons x' xs ih =>
    have htext : commas ((x :: x' :: xs).map w) ++ [close] =
        w x ++ comma :: (commas ((x' :: xs).map w) ++ [close]) := by
      simp
    rw [htext] at hp hne
    rcases isPrefix_append_iff.mp hp with hp | ⟨q, rfl, hq⟩
    · exact commaSeparated_of_end (hends x (by simp) p hp hk)
    · rcases List.prefix_cons_iff.mp hq with rfl | ⟨q', rfl, hq'⟩
      · rw [List.append_nil] at hk ⊢
        exact commaSeparated_of_end (hends x (by simp) _ List.prefix_rfl hk)
      · rw [List.length_append, List.length_cons] at hk
        have hfirst := (hread x (by simp) (by omega)).read trivial (comma :: q') (.cons (.inl rfl) q')
        have hrest (m : Nat) : commaSeparated f close m q' = none :=
          ih (fun y hy => hread y (List.mem_cons_of_mem _ hy)) (fun y hy => hends y (List.mem_cons_of_mem _ hy)) hq'
            (fun heq => hne (by rw [heq])) (by omega) m
        cases n with
        | zero => rfl
        | succ n => rw [commaSeparated_more hclose hfirst, hrest, Option.map_none]

theorem enclosed_cut (hclose : close = 0x5d ∨ close = 0x7d) {xs : List α} (hstarts : ∀ x ∈ xs, Starts (w x))
    (hread : ∀ y ∈ xs, (w y).length ≤ k → Reads f True (some (o y)) (w y)) (hends : ∀ y ∈ xs, Ends f k (w y))
    {p : List UInt8} (hp : p <+: commas (xs.map w) ++ [close]) (hne : p ≠ commas (xs.map w) ++ [close])
    (hk : p.length ≤ k) (n : Nat) : enclosed f close n p = none := by
  match p, xs with
  | [], _ => rfl
  | c :: p, [] =>
    rw [List.map_nil, commas_nil, List.nil_append] at hp hne
    obtain ⟨rfl, hnil⟩ := List.cons_prefix_cons.mp hp
    obtain rfl := List.prefix_nil.mp hnil
    exact absurd rfl hne
  | c :: p, x :: xs =>
    obtain ⟨c', v, hw, hws, h5d, h7d⟩ := hstarts x (by simp)
    have hc : c = c' := by
      match xs with
      | [] =>
        rw [List.map_singleton, commas_singleton, hw, List.cons_append] at hp
        exact (List.cons_prefix_cons.mp hp).1
      | y :: xs =>
        rw [List.map_cons, List.map_cons, commas_cons_cons, hw, List.cons_append, List.cons_append] at hp
        exact (List.cons_prefix_cons.mp hp).1
    subst hc
    have hne' : c ≠ close := by
      rcases hclose with rfl | rfl
      · exact h5d
      · exact h7d
    rw [enclosed_cons hws hne']
    exact commaSeparated_cut hclose hread hends hp hne hk n

end lists

/-! ## Strings -/

/-- What stands for one character: no part of it is a string, and the rest is read after the whole of it. -/
structure Token (t : List UInt8) : Prop where
  cut : ∀ p, p <+: t → p ≠ t → stringBody p = none
  rest : ∀ w, ∃ x, stringBody (t ++ w) = prepend x (stringBody w)

theorem Token.unicode {a b c d : UInt8} {v : Nat} (h : hex4 a b c d = some v) (hv : v < 0xd800) :
    Token [backslash, 0x75, a, b, c, d] where
  cut p hp hne := by
    simp only [List.prefix_cons_iff, List.prefix_nil] at hp
    obtain rfl | ⟨_, rfl, rfl | ⟨_, rfl, rfl | ⟨_, rfl, rfl | ⟨_, rfl, rfl | ⟨_, rfl, rfl | ⟨_, rfl, rfl⟩⟩⟩⟩⟩⟩ := hp
    · rfl
    · rfl
    · rfl
    · rfl
    · rfl
    · rfl
    · exact absurd rfl hne
  rest w := ⟨_, stringBody_unicode h hv w⟩

theorem Token.escape {e x : UInt8} (he : e ≠ 0x75) (h : Json.escape e = some x) : Token [backslash, e] where
  cut p hp hne := by
    simp only [List.prefix_cons_iff, List.prefix_nil] at hp
    obtain rfl | ⟨_, rfl, rfl | ⟨_, rfl, rfl⟩⟩ := hp
    · rfl
    · rfl
    · exact absurd rfl hne
  rest w := ⟨_, stringBody_escape he h w⟩

theorem Token.plain {c : UInt8} (h : Plain c) : Token [c] where
  cut p hp hne := by
    simp only [List.prefix_cons_iff, List.prefix_nil] at hp
    obtain rfl | ⟨_, rfl, rfl⟩ := hp
    · rfl
    · exact absurd rfl hne
  rest w := ⟨_, stringBody_plain_cons h w⟩

theorem token_escapeByte (c : UInt8) : Token (escapeByte c) := by
  unfold escapeByte
  split_ifs with hq hn hr ht hu
  · rcases hq with rfl | rfl
    · exact .escape (by decide) rfl
    · exact .escape (by decide) rfl
  · exact .escape (by decide) rfl
  · exact .escape (by decide) rfl
  · exact .escape (by decide) rfl
  · obtain ⟨hhex, -⟩ := hex4_hexChar (lt_of_control hu)
    exact .unicode hhex (Nat.lt_trans c.toNat_lt (by decide))
  · rw [not_or] at hq hu
    exact .plain ⟨hq.1, hu.1, hq.2⟩

theorem Token.cut_append {t w p : List UInt8} (ht : Token t) (hw : ∀ p, p <+: w → stringBody p = none)
    (hp : p <+: t ++ w) : stringBody p = none := by
  have hrest (q : List UInt8) (hq : q <+: w) : stringBody (t ++ q) = none := by
    obtain ⟨x, hx⟩ := ht.rest q
    rw [hx, hw q hq]
    rfl
  rcases isPrefix_append_iff.mp hp with hp | ⟨q, rfl, hq⟩
  · by_cases hne : p = t
    · have h := hrest [] List.nil_prefix
      rwa [List.append_nil, ← hne] at h
    · exact ht.cut p hp hne
  · exact hrest q hq

theorem stringBody_cut {s p : List UInt8} (h : p <+: escaped s) : stringBody p = none := by
  fun_induction escaped s generalizing p with
  | case1 w ih => exact (Token.unicode (v := 0x2028) rfl (by decide)).cut_append (fun _ => ih) h
  | case2 w ih => exact (Token.unicode (v := 0x2029) rfl (by decide)).cut_append (fun _ => ih) h
  | case3 c w _ _ ih => exact (token_escapeByte c).cut_append (fun _ => ih) h
  | case4 =>
    rw [List.prefix_nil.mp h]
    rfl

theorem string_cut {s p : List UInt8} (h : p <+: escaped s) : string i p = none := by
  rw [string, stringBody_cut h]
  rfl

theorem value_cut_str {s p : List UInt8} (hp : p <+: quoted s) (hne : p ≠ quoted s) (n : Nat) : value i n p = none := by
  match n, p with
  | 0, _ => rfl
  | n + 1, [] => rfl
  | n + 1, c :: p =>
    rw [quoted, List.cons_append] at hp hne
    obtain ⟨rfl, hbody⟩ := List.cons_prefix_cons.mp hp
    rcases List.prefix_concat_iff.mp hbody with rfl | hcut
    · exact absurd rfl hne
    · rw [value_str, string_cut hcut, Option.map_none]

theorem ends_member {f : Parser Json} {k : Nat} {name w : List UInt8} (hname : utf8Valid name = true)
    (h : Ends f k w) : Ends (member i f) k (quoted name ++ 0x3a :: w) := by
  intro p hp hk x rest hx
  have htext : quoted name ++ 0x3a :: w = quote :: (escaped name ++ quote :: 0x3a :: w) := by simp [quoted]
  rw [htext] at hp
  cases p with
  | nil => cases hx
  | cons c p =>
    obtain ⟨rfl, hbody⟩ := List.cons_prefix_cons.mp hp
    simp only [member, skipWs_cons (show isWs quote = false from rfl), if_true] at hx
    rcases isPrefix_append_iff.mp hbody with hcut | ⟨q, rfl, hq⟩
    · simp [string_cut hcut] at hx
    · rcases List.prefix_cons_iff.mp hq with rfl | ⟨q', rfl, hq'⟩
      · simp [string_cut (List.prefix_rfl (l := escaped name))] at hx
      · rw [string_escaped hname] at hx
        rcases List.prefix_cons_iff.mp hq' with rfl | ⟨v, rfl, hv⟩
        · cases hx
        · simp only [Option.bind_eq_bind, Option.bind_some, skipWs_cons (show isWs 0x3a = false from rfl),
            if_true] at hx
          obtain ⟨⟨j, rest'⟩, hj, hp⟩ := Option.map_eq_some_iff.mp hx
          obtain ⟨-, rfl⟩ := Prod.mk.inj hp
          refine h v hv ?_ j rest' hj
          simp only [List.length_cons, List.length_append] at hk
          omega

/-! ## Numbers -/

theorem digits_eq_some {p ds rest : List UInt8} :
    digits p = some (ds, rest) ↔
      p = ds ++ rest ∧ ds ≠ [] ∧ (∀ c ∈ ds, isDigit c = true) ∧ ∀ c ∈ rest.head?, isDigit c = false := by
  constructor
  · intro h
    unfold digits at h
    split_ifs at h with hnil
    obtain ⟨rfl, rfl⟩ := Prod.mk.inj (Option.some.inj h)
    refine ⟨List.takeWhile_append_dropWhile.symm, hnil, fun c hc => ?_, fun c hc => ?_⟩
    · exact List.all_eq_true.mp List.all_takeWhile c hc
    · have hhead := List.head?_dropWhile_not isDigit p
      rw [Option.mem_def.mp hc] at hhead
      exact hhead
  · rintro ⟨rfl, hne, hds, hrest⟩
    exact digits_append hne hds hrest

theorem digits_extend {p ds rest : List UInt8} (q : List UInt8) (h : digits p = some (ds, rest)) (hrest : rest ≠ []) :
    digits (p ++ q) = some (ds, rest ++ q) := by
  obtain ⟨rfl, hne, hds, hstop⟩ := digits_eq_some.mp h
  obtain ⟨c, r, rfl⟩ := List.exists_cons_of_ne_nil hrest
  exact digits_eq_some.mpr ⟨List.append_assoc _ _ _, hne, hds, hstop⟩

theorem integer_extend {p ds rest : List UInt8} (q : List UInt8) (h : integer p = some (ds, rest)) (hrest : rest ≠ []) :
    integer (p ++ q) = some (ds, rest ++ q) := by
  rw [integer, Option.filter_eq_some_iff] at h ⊢
  exact ⟨digits_extend q h.1 hrest, h.2⟩

theorem fraction_extend {p ds rest : List UInt8} (q : List UInt8) (h : fraction p = some (ds, rest))
    (hrest : rest ≠ []) : fraction (p ++ q) = some (ds, rest ++ q) := by
  match p with
  | [] =>
    obtain ⟨-, rfl⟩ := Prod.mk.inj (Option.some.inj h)
    exact absurd rfl hrest
  | c :: p =>
    rw [fraction] at h
    rw [List.cons_append, fraction]
    split_ifs at h ⊢ with hc
    · exact digits_extend q h hrest
    · obtain ⟨rfl, rfl⟩ := Prod.mk.inj (Option.some.inj h)
      rfl

theorem sign_extend {p : List UInt8} (plus : Bool) (q : List UInt8) (h : p ≠ []) :
    sign plus (p ++ q) = ((sign plus p).1, (sign plus p).2 ++ q) := by
  match p with
  | [] => exact absurd rfl h
  | c :: p =>
    rw [List.cons_append, sign, sign]
    split_ifs <;> rfl

theorem exponent_extend {p rest : List UInt8} {e : Option Int} (q : List UInt8) (h : exponent p = some (e, rest))
    (hrest : rest ≠ []) : exponent (p ++ q) = some (e, rest ++ q) := by
  match p with
  | [] =>
    obtain ⟨-, rfl⟩ := Prod.mk.inj (Option.some.inj h)
    exact absurd rfl hrest
  | c :: p =>
    rw [exponent] at h
    rw [List.cons_append, exponent]
    split_ifs at h ⊢ with hc
    · obtain ⟨⟨ds, rest'⟩, hds, heq⟩ := Option.map_eq_some_iff.mp h
      obtain ⟨rfl, rfl⟩ := Prod.mk.inj heq
      have hp : p ≠ [] := by
        rintro rfl
        cases hds
      rw [sign_extend true q hp, digits_extend q hds hrest, Option.map_some]
    · obtain ⟨rfl, rfl⟩ := Prod.mk.inj (Option.some.inj h)
      rfl

theorem exponent_nil {p rest : List UInt8} {e : Option Int} (h : exponent p = some (e, rest)) (hrest : rest ≠ []) :
    p ≠ [] := by
  rintro rfl
  obtain ⟨-, rfl⟩ := Prod.mk.inj (Option.some.inj h)
  exact absurd rfl hrest

theorem fraction_nil {p ds rest : List UInt8} (h : fraction p = some (ds, rest)) (hrest : rest ≠ []) : p ≠ [] := by
  rintro rfl
  obtain ⟨-, rfl⟩ := Prod.mk.inj (Option.some.inj h)
  exact absurd rfl hrest

theorem number_extend {p rest : List UInt8} {y : Json} (q : List UInt8) (h : number p = some (y, rest))
    (hrest : rest ≠ []) : number (p ++ q) = some (y, rest ++ q) := by
  simp only [number, Option.bind_eq_bind, Option.bind_eq_some_iff] at h
  obtain ⟨⟨whole, w₁⟩, hwhole, ⟨frac, w₂⟩, hfrac, ⟨e, w₃⟩, he, heq⟩ := h
  obtain ⟨rfl, rfl⟩ := Prod.mk.inj (Option.some.inj heq)
  have hw₂ := exponent_nil he hrest
  have hw₁ := fraction_nil hfrac hw₂
  have hp : p ≠ [] := by
    rintro rfl
    cases hwhole
  rw [number, sign_extend false q hp]
  simp only [integer_extend q hwhole hw₁, fraction_extend q hfrac hw₂, exponent_extend q he hrest,
    Option.bind_eq_bind, Option.bind_some, Option.pure_def]

theorem value_of_sign {c : UInt8} (hc : c = 0x2d ∨ isDigit c = true) (n : Nat) (v : List UInt8) :
    value i (n + 1) (c :: v) = number (c :: v) := by
  have hbytes : ∀ k ∈ [0x20, 0x09, 0x0a, 0x0d, quote, 0x5b, 0x7b, 0x6e, 0x74, 0x66], c ≠ k := by
    rintro k hk rfl
    have hall : [0x20, 0x09, 0x0a, 0x0d, quote, 0x5b, 0x7b, 0x6e, 0x74, 0x66].all
        (fun k => k != 0x2d && !isDigit k) = true := by decide
    have hk := List.all_eq_true.mp hall c hk
    rcases hc with rfl | hc
    · simp at hk
    · simp [hc] at hk
  refine value_number ?_ fun hmem => hbytes c ?_ rfl
  · simp [isWs, hbytes]
  · exact List.mem_append_right [0x20, 0x09, 0x0a, 0x0d] hmem

theorem ends_numeral (x : Numeral) (n k : Nat) : Ends (value i n) k x.text := by
  intro p hp hk y rest hy
  by_contra hrest
  match n, p with
  | 0, _ => cases hy
  | n + 1, [] => cases hy
  | n + 1, c :: p =>
    obtain ⟨c', v, hx, hc⟩ := x.text_eq_cons
    obtain ⟨q, hq⟩ := hp
    have hcc : c = c' := by
      rw [hx, List.cons_append] at hq
      exact (List.cons.inj hq).1
    rw [value_of_sign (hcc ▸ hc)] at hy
    have hwhole := number_extend q hy hrest
    have htext := x.number_text .nil
    rw [List.append_nil, ← hq, hwhole] at htext
    have hnil := (Prod.mk.inj (Option.some.inj htext)).2
    exact hrest (List.append_eq_nil_iff.mp hnil).1

/-! ## Values -/

theorem brackets_cut {α β : Type} {f : Parser β} {g : Parser Json} {mk : List β → Json} {opening close : UInt8}
    (hclose : close = 0x5d ∨ close = 0x7d) {n k : Nat} (hnil : g [] = none)
    (hg : ∀ v, g (opening :: v) = (enclosed f close n v).map fun p => (mk p.1, p.2))
    {xs : List α} {o : α → β} {w : α → List UInt8} (hstarts : ∀ x ∈ xs, Starts (w x))
    (hread : ∀ y ∈ xs, (w y).length ≤ k → Reads f True (some (o y)) (w y)) (hends : ∀ y ∈ xs, Ends f k (w y))
    {p : List UInt8} (hp : p <+: opening :: commas (xs.map w) ++ [close])
    (hne : p ≠ opening :: commas (xs.map w) ++ [close]) (hk : p.length ≤ k + 1) : g p = none := by
  match p with
  | [] => exact hnil
  | c :: p =>
    rw [List.cons_append] at hp hne
    obtain ⟨rfl, hbody⟩ := List.cons_prefix_cons.mp hp
    rw [hg, enclosed_cut hclose hstarts hread hends hbody (fun h => hne (by rw [h])) (Nat.le_of_succ_le_succ hk),
      Option.map_none]

theorem value_nil (n : Nat) : value i n [] = none := by
  cases n <;> rfl

theorem array_cut {js : List Json} (hutf8 : ∀ j ∈ js, j.Utf8) (hends : ∀ j ∈ js, ∀ n, Ends (value i (n + 1)) n j.print)
    {p : List UInt8} (hp : p <+: (arr js).print) (hne : p ≠ (arr js).print) {n : Nat} (hk : p.length ≤ n) :
    value i (n + 1) p = none := by
  rw [print, printAll_eq] at hp hne
  cases n with
  | zero => rw [List.length_eq_zero_iff.mp (Nat.le_zero.mp hk), value_nil]
  | succ n =>
    exact brackets_cut (o := id) (.inl rfl) (value_nil _) (value_arr _) (fun j _ => starts_print j)
      (fun j hj hlen => spells_print (hutf8 j hj) _ (Nat.lt_succ_of_le hlen)) (fun j hj => hends j hj n) hp hne hk

theorem object_cut {ms : List (List UInt8 × Json)} (hname : ∀ m ∈ ms, utf8Valid m.1 = true)
    (hutf8 : ∀ m ∈ ms, m.2.Utf8) (hends : ∀ m ∈ ms, ∀ n, Ends (value i (n + 1)) n m.2.print)
    {p : List UInt8} (hp : p <+: (obj ms).print) (hne : p ≠ (obj ms).print) {n : Nat} (hk : p.length ≤ n) :
    value i (n + 1) p = none := by
  rw [print, printMembers_eq] at hp hne
  cases n with
  | zero => rw [List.length_eq_zero_iff.mp (Nat.le_zero.mp hk), value_nil]
  | succ n =>
    refine brackets_cut (o := id) (.inr rfl) (value_nil _) (value_obj _) (fun m _ => starts_printMember m)
      (fun m hm hlen => ?_) (fun m hm => ?_) hp hne hk
    · simp only [printMember_eq, List.length_append, List.length_cons] at hlen
      rw [printMember_eq]
      exact Reads.printMember (hname m hm) (spells_print (hutf8 m hm) _ (by omega))
    · rw [printMember_eq]
      exact ends_member (hname m hm) (hends m hm n)

theorem ends_of_cut {j : Json} (hj : j.Utf8) {n : Nat}
    (hcut : ∀ p, p <+: j.print → p ≠ j.print → p.length ≤ n → value i (n + 1) p = none) :
    Ends (value i (n + 1)) n j.print := by
  intro p hp hk x rest hx
  by_cases hne : p = j.print
  · have hread := (spells_print (i := i) hj (n + 1) (Nat.lt_succ_of_le (hne ▸ hk))).read trivial [] .nil
    rw [List.append_nil, ← hne, hx] at hread
    exact (Prod.mk.inj (Option.some.inj hread)).2
  · rw [hcut p hp hne hk] at hx
    cases hx

theorem word_cut {w p : List UInt8} {n : Nat} (hp : p <+: w) (hne : p ≠ w)
    (h : ∀ k < w.length, value i n (w.take k) = none) : value i n p = none := by
  rw [List.prefix_iff_eq_take.mp hp]
  exact h _ (Nat.lt_of_le_of_ne hp.length_le fun hlen => hne (hp.eq_of_length hlen))

theorem ends_print {j : Json} (h : j.Utf8) (n : Nat) : Ends (value i (n + 1)) n j.print := by
  induction h generalizing n with
  | int i => exact ends_numeral _ _ _
  | num m e => exact ends_numeral _ _ _
  | null => exact ends_of_cut .null fun p hp hne _ => word_cut hp hne fun
    | 0, _ | 1, _ | 2, _ | 3, _ => rfl
  | bool b =>
    cases b with
    | true => exact ends_of_cut (.bool true) fun p hp hne _ => word_cut hp hne fun
      | 0, _ | 1, _ | 2, _ | 3, _ => rfl
    | false => exact ends_of_cut (.bool false) fun p hp hne _ => word_cut hp hne fun
      | 0, _ | 1, _ | 2, _ | 3, _ | 4, _ => rfl
  | str hs => exact ends_of_cut (.str hs) fun p hp hne _ => value_cut_str hp hne _
  | arr hjs ih => exact ends_of_cut (.arr hjs) fun p hp hne hk => array_cut hjs ih hp hne hk
  | obj hname hms ih => exact ends_of_cut (.obj hname hms) fun p hp hne hk => object_cut hname hms ih hp hne hk

/-- **No value is read from a part of the text of an object.** -/
theorem parseAs_cut {ms : List (List UInt8 × Json)} (h : (obj ms).Utf8) {p : List UInt8} (hp : p <+: (obj ms).print)
    (hne : p ≠ (obj ms).print) : parseAs i p = none := by
  cases h with
  | obj hname hms =>
    rw [parseAs, object_cut hname hms (fun m hm => ends_print (hms m hm)) hp hne (Nat.le_refl _)]

end Json
