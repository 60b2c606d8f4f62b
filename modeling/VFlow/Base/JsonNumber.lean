import VFlow.Base.JsonText

/-!
# The texts of numbers

The decimal digits of a natural number are read back as the number, and so is a numeral with a sign,
a fraction and an exponent.
-/

namespace Json

theorem Stops.not_number {rest : List UInt8} (h : Stops rest) :
    ∀ c ∈ rest.head?, isDigit c = false ∧ c ≠ 0x2e ∧ c ≠ 0x65 ∧ c ≠ 0x45 := by
  intro c hc
  rcases h c hc with rfl | rfl | rfl
  · decide
  · decide
  · decide

/-- The decimal digits of `n`. -/
def decimal (n : Nat) : List UInt8 := text (Nat.repr n)

theorem text_digitChar {d : Nat} (h : d < 10) : String.utf8EncodeChar (Nat.digitChar d) = [(0x30 + d).toUInt8] := by
  decide +revert

theorem decimal_eq (n : Nat) :
    decimal n = if n < 10 then [(0x30 + n).toUInt8] else decimal (n / 10) ++ [(0x30 + n % 10).toUInt8] := by
  unfold decimal text
  rw [Nat.repr, String.toList_ofList, Nat.toDigits_eq_if (by decide)]
  split_ifs with hn
  · simp [text_digitChar hn]
  · simp [Nat.repr, text_digitChar (Nat.mod_lt n (show 10 > 0 by decide))]

theorem isDigit_digit {d : Nat} (h : d < 10) : isDigit (0x30 + d).toUInt8 = true := by
  decide +revert

theorem toNat_digit {d : Nat} (h : d < 10) : (0x30 + d).toUInt8.toNat - 0x30 = d := by
  decide +revert

theorem isDigit_of_mem_decimal (n : Nat) : ∀ c ∈ decimal n, isDigit c = true := by
  induction n using Nat.strongRecOn with
  | _ n ih =>
    rw [decimal_eq]
    split_ifs with hn
    · simpa using isDigit_digit hn
    · intro c hc
      rcases List.mem_append.mp hc with hc | hc
      · exact ih (n / 10) (by omega) c hc
      · rw [List.mem_singleton.mp hc]
        exact isDigit_digit (Nat.mod_lt n (by decide))

theorem digitsValue_concat (ds : List UInt8) (d : UInt8) :
    digitsValue (ds ++ [d]) = 10 * digitsValue ds + (d.toNat - 0x30) := by
  simp [digitsValue]

theorem digitsValue_decimal (n : Nat) : digitsValue (decimal n) = n := by
  induction n using Nat.strongRecOn with
  | _ n ih =>
    rw [decimal_eq]
    split_ifs with hn
    · simpa [digitsValue] using toNat_digit hn
    · rw [digitsValue_concat, ih (n / 10) (by omega), toNat_digit (Nat.mod_lt n (by decide))]
      omega

theorem decimal_ne_nil (n : Nat) : decimal n ≠ [] := by
  rw [decimal_eq]
  split_ifs <;> simp

theorem digit_ne_zero {d : Nat} (h : d < 10) (hd : d ≠ 0) : (0x30 + d).toUInt8 ≠ 0x30 := by
  decide +revert

theorem head_decimal {n : Nat} (hn : n ≠ 0) : (decimal n).head? ≠ some 0x30 := by
  induction n using Nat.strongRecOn with
  | _ n ih =>
    rw [decimal_eq]
    split_ifs with hlt
    · simpa using digit_ne_zero hlt hn
    · obtain ⟨c, ds, hds⟩ := List.exists_cons_of_ne_nil (decimal_ne_nil (n / 10))
      have hc := ih (n / 10) (by omega) (by omega)
      rw [hds] at hc ⊢
      exact hc

theorem decimal_integral (n : Nat) : (decimal n).length = 1 ∨ (decimal n).head? ≠ some 0x30 := by
  by_cases hn : n = 0
  · subst hn
    exact Or.inl rfl
  · exact Or.inr (head_decimal hn)

theorem takeWhile_isDigit {ds rest : List UInt8} (hds : ∀ c ∈ ds, isDigit c = true)
    (hrest : ∀ c ∈ rest.head?, isDigit c = false) : (ds ++ rest).takeWhile isDigit = ds := by
  rw [List.takeWhile_append_of_pos hds]
  match rest with
  | [] => simp
  | c :: rest => simp [hrest c (by simp)]

theorem dropWhile_isDigit {ds rest : List UInt8} (hds : ∀ c ∈ ds, isDigit c = true)
    (hrest : ∀ c ∈ rest.head?, isDigit c = false) : (ds ++ rest).dropWhile isDigit = rest := by
  have hsplit := List.takeWhile_append_dropWhile (p := isDigit) (l := ds ++ rest)
  rw [takeWhile_isDigit hds hrest] at hsplit
  exact List.append_cancel_left hsplit

theorem digits_append {ds rest : List UInt8} (hne : ds ≠ []) (hds : ∀ c ∈ ds, isDigit c = true)
    (hrest : ∀ c ∈ rest.head?, isDigit c = false) : digits (ds ++ rest) = some (ds, rest) := by
  rw [digits, takeWhile_isDigit hds hrest, dropWhile_isDigit hds hrest, if_neg hne]

/-- A number in the form `-d.dddE+dd`; the fraction and the exponent may be missing. -/
structure Numeral where
  negative : Bool
  int : Nat
  frac : List UInt8
  exp : Option (Bool × List UInt8)
  isDigit_frac : ∀ c ∈ frac, isDigit c = true
  isDigit_exp : ∀ e ∈ exp, e.2 ≠ [] ∧ ∀ c ∈ e.2, isDigit c = true

namespace Numeral

def fracText (x : Numeral) : List UInt8 := if x.frac = [] then [] else 0x2e :: x.frac

def expText (x : Numeral) : List UInt8 :=
  match x.exp with
  | none => []
  | some (negative, ds) => 0x45 :: (if negative then 0x2d else 0x2b) :: ds

def signText (x : Numeral) : List UInt8 := if x.negative then [0x2d] else []

def text (x : Numeral) : List UInt8 := x.signText ++ decimal x.int ++ x.fracText ++ x.expText

def expValue (x : Numeral) : Option Int :=
  x.exp.map fun e => (if e.1 then -1 else 1) * digitsValue e.2

def json (x : Numeral) : Json := ofDigits (if x.negative then -1 else 1) (decimal x.int) x.frac x.expValue

theorem head_expText (x : Numeral) {rest : List UInt8} (hrest : Stops rest) :
    ∀ c ∈ (x.expText ++ rest).head?, isDigit c = false ∧ c ≠ 0x2e := by
  unfold expText
  split
  · exact fun c hc => ⟨(hrest.not_number c hc).1, (hrest.not_number c hc).2.1⟩
  · simp
    decide

theorem head_fracText (x : Numeral) {v : List UInt8} (hv : ∀ c ∈ v.head?, isDigit c = false ∧ c ≠ 0x2e) :
    ∀ c ∈ (x.fracText ++ v).head?, isDigit c = false := by
  unfold fracText
  split_ifs
  · exact fun c hc => (hv c hc).1
  · simp
    decide

theorem integer_decimal {n : Nat} {v : List UInt8} (hv : ∀ c ∈ v.head?, isDigit c = false) :
    integer (decimal n ++ v) = some (decimal n, v) := by
  rw [integer, digits_append (decimal_ne_nil n) (isDigit_of_mem_decimal n) hv, Option.filter_some, if_pos]
  exact decide_eq_true (decimal_integral n)

theorem fraction_fracText (x : Numeral) {v : List UInt8} (hv : ∀ c ∈ v.head?, isDigit c = false ∧ c ≠ 0x2e) :
    fraction (x.fracText ++ v) = some (x.frac, v) := by
  unfold fracText
  split_ifs with hfrac
  · rw [hfrac, List.nil_append]
    match v with
    | [] => rfl
    | c :: v => exact if_neg (hv c (by simp)).2
  · rw [List.cons_append, fraction, if_pos rfl]
    exact digits_append hfrac x.isDigit_frac fun c hc => (hv c hc).1

theorem exponent_expText (x : Numeral) {rest : List UInt8} (hrest : Stops rest) :
    exponent (x.expText ++ rest) = some (x.expValue, rest) := by
  unfold expText expValue
  match hexp : x.exp with
  | none =>
    match rest with
    | [] => rfl
    | c :: rest =>
      have hc := (hrest.not_number c (by simp)).2.2
      exact if_neg (not_or.mpr hc)
  | some (negative, ds) =>
    obtain ⟨hne, hds⟩ := x.isDigit_exp (negative, ds) hexp
    have hdigits := digits_append hne hds fun c hc => (hrest.not_number c hc).1
    cases negative with
    | false => simp [exponent, sign, hdigits]
    | true => simp [exponent, sign, hdigits]

theorem text_eq_cons (x : Numeral) : ∃ c v, x.text = c :: v ∧ (c = 0x2d ∨ isDigit c = true) := by
  obtain ⟨c, ds, hds⟩ := List.exists_cons_of_ne_nil (decimal_ne_nil x.int)
  have hc := isDigit_of_mem_decimal x.int c (by simp [hds])
  unfold text signText
  split_ifs
  · exact ⟨0x2d, _, rfl, Or.inl rfl⟩
  · exact ⟨c, ds ++ x.fracText ++ x.expText, by simp [hds], Or.inr hc⟩

theorem sign_signText (x : Numeral) (v : List UInt8) :
    sign false (x.signText ++ (decimal x.int ++ v)) = (if x.negative then -1 else 1, decimal x.int ++ v) := by
  obtain ⟨c, ds, hds⟩ := List.exists_cons_of_ne_nil (decimal_ne_nil x.int)
  have hc : c ≠ 0x2d := by
    rintro rfl
    exact absurd (isDigit_of_mem_decimal x.int 0x2d (by simp [hds])) (by decide)
  unfold signText
  cases x.negative with
  | false => simp [hds, sign, hc]
  | true => simp [sign]

theorem number_text (x : Numeral) {rest : List UInt8} (hrest : Stops rest) :
    number (x.text ++ rest) = some (x.json, rest) := by
  have htext : x.text ++ rest = x.signText ++ (decimal x.int ++ (x.fracText ++ (x.expText ++ rest))) := by
    simp [text]
  have hexp := x.head_expText hrest
  rw [htext, number, sign_signText]
  simp only [integer_decimal (x.head_fracText hexp), x.fraction_fracText hexp, x.exponent_expText hrest,
    Option.bind_eq_bind, Option.bind_some, Option.pure_def]
  rfl

end Numeral

theorem isPrefixOf_of_ne {a c : UInt8} {l v : List UInt8} (h : c ≠ a) : (a :: l).isPrefixOf (c :: v) = false := by
  rw [List.isPrefixOf_cons_cons, beq_eq_false_iff_ne.mpr h.symm, Bool.false_and]

theorem value_number {i : Invalid} {n : Nat} {c : UInt8} {v : List UInt8} (hws : isWs c = false)
    (hc : c ∉ [quote, 0x5b, 0x7b, 0x6e, 0x74, 0x66]) : value i (n + 1) (c :: v) = number (c :: v) := by
  simp only [List.mem_cons, List.not_mem_nil, or_false, not_or] at hc
  obtain ⟨hq, hb, ho, hn, ht, hf⟩ := hc
  have hnull : (text "null").isPrefixOf (c :: v) = false := isPrefixOf_of_ne hn
  have htrue : (text "true").isPrefixOf (c :: v) = false := isPrefixOf_of_ne ht
  have hfalse : (text "false").isPrefixOf (c :: v) = false := isPrefixOf_of_ne hf
  rw [value, skipWs_cons hws]
  simp only [if_neg hq, if_neg hb, if_neg ho, hnull, htrue, hfalse]
  rfl

theorem Spells.number {i : Invalid} {c : UInt8} {v : List UInt8} {o : Option Json}
    (hc : c ∉ [0x20, 0x09, 0x0a, 0x0d, quote, 0x5b, 0x7b, 0x6e, 0x74, 0x66])
    (h : ∀ rest, Stops rest → Json.number (c :: v ++ rest) = o.map (·, rest)) : Spells i True o (c :: v) := by
  intro n hn
  obtain ⟨n, rfl⟩ := Nat.exists_eq_succ_of_ne_zero (Nat.ne_zero_of_lt hn)
  have hws : isWs c = false := by
    simp_all [isWs]
  constructor
  · intro _ rest hrest
    rw [← h rest hrest]
    exact value_number hws (by simp_all)
  · intro hP
    exact absurd trivial hP

theorem Spells.numeral {i : Invalid} (x : Numeral) : Spells i True (some x.json) x.text := by
  obtain ⟨c, v, hx, hc⟩ := x.text_eq_cons
  rw [hx]
  apply Spells.number
  · intro hmem
    rcases hc with rfl | hc
    · exact absurd hmem (by decide)
    · have hall : [0x20, 0x09, 0x0a, 0x0d, quote, 0x5b, 0x7b, 0x6e, 0x74, 0x66].all (fun k => !isDigit k) = true := by
        decide
      have hnot := List.all_eq_true.mp hall c hmem
      exact absurd hnot (by simp [hc])
  · intro rest hrest
    rw [← hx]
    exact x.number_text hrest

/-- An integer in decimal. -/
def Numeral.ofInt (i : Int) : Numeral where
  negative := decide (i < 0)
  int := i.natAbs
  frac := []
  exp := none
  isDigit_frac := by simp
  isDigit_exp := by simp

theorem Numeral.json_ofInt (i : Int) : (Numeral.ofInt i).json = .int i := by
  have hjson : (Numeral.ofInt i).json =
      .int ((if decide (i < 0) then -1 else 1) * digitsValue (decimal i.natAbs)) := rfl
  rw [hjson, digitsValue_decimal]
  congr 1
  rcases Int.lt_or_le i 0 with hi | hi
  · rw [decide_eq_true hi, if_pos rfl]
    omega
  · rw [decide_eq_false (Int.not_lt.mpr hi), if_neg Bool.false_ne_true]
    omega

theorem Spells.int {i : Invalid} (n : Int) : Spells i True (some (.int n)) (Numeral.ofInt n).text :=
  Numeral.json_ofInt n ▸ Spells.numeral (Numeral.ofInt n)

end Json
