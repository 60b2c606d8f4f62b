import Mathlib.Tactic.Common

/-!
# JSON texts

The values of JSON, a parser of JSON texts as RFC 8259 defines them, and what the parser makes of the
bytes between two quotes.

A text is a list of bytes. The control bytes have to be escaped in a string, and a number has no leading
zeros. A string that is not UTF-8 is refused by `parse`; `unmarshal` reads texts as `encoding/json` of Go
does, which puts `U+FFFD` in the place of such bytes and takes the same texts otherwise. The parser takes
fuel for the nesting, and a text needs no more than its own length of it.

A text put between quotes as it is stands for itself exactly when no byte of it needs an escape and it
is UTF-8 (`string_eq_self`): an escape makes the string shorter than its literal, and a quote ends it.
-/

/-- A JSON value. A number written with a fraction or an exponent is `mantissa * 10 ^ exponent`, a string
is its bytes. The members of an object are kept in their order, also when a name occurs twice. -/
inductive Json where
  | null
  | bool (b : Bool)
  | int (i : Int)
  | num (mantissa exponent : Int)
  | str (s : List UInt8)
  | arr (values : List Json)
  | obj (members : List (List UInt8 × Json))

namespace Json

def text (s : String) : List UInt8 := s.toList.flatMap String.utf8EncodeChar

@[simp] theorem text_append (s t : String) : text (s ++ t) = text s ++ text t := by
  simp [text]

/-- A parser gives what it read and the rest of the text. -/
abbrev Parser (β : Type) := List UInt8 → Option (β × List UInt8)

abbrev quote : UInt8 := 0x22

abbrev backslash : UInt8 := 0x5c

abbrev comma : UInt8 := 0x2c

def isWs (c : UInt8) : Bool := c = 0x20 || c = 0x09 || c = 0x0a || c = 0x0d

def skipWs (w : List UInt8) : List UInt8 := w.dropWhile isWs

/-! ## Strings -/

/-- A byte that continues a UTF-8 sequence. -/
def isTrail (c : UInt8) : Bool := 0x80 ≤ c && c ≤ 0xbf

/-- The second byte of a sequence of three or four bytes has a smaller range after some first bytes,
which leaves out the overlong forms, the surrogates and what lies above `10FFFF`. -/
def isSecond (a b : UInt8) : Bool :=
  isTrail b && (a ≠ 0xe0 || 0xa0 ≤ b) && (a ≠ 0xed || b ≤ 0x9f) && (a ≠ 0xf0 || 0x90 ≤ b) && (a ≠ 0xf4 || b ≤ 0x8f)

def utf8Valid : List UInt8 → Bool
  | [] => true
  | a :: rest =>
    if a < 0x80 then utf8Valid rest
    else match rest with
      | [] => false
      | b :: rest =>
        if 0xc2 ≤ a ∧ a ≤ 0xdf then isTrail b && utf8Valid rest
        else match rest with
          | [] => false
          | c :: rest =>
            if 0xe0 ≤ a ∧ a ≤ 0xef then isSecond a b && isTrail c && utf8Valid rest
            else match rest with
              | [] => false
              | d :: rest => 0xf0 ≤ a && a ≤ 0xf4 && isSecond a b && isTrail c && isTrail d && utf8Valid rest

/-- The UTF-8 bytes of a code point. -/
def utf8Encode (v : Nat) : List UInt8 :=
  if v < 0x80 then [v.toUInt8]
  else if v < 0x800 then [(0xc0 + v / 64).toUInt8, (0x80 + v % 64).toUInt8]
  else if v < 0x10000 then [(0xe0 + v / 4096).toUInt8, (0x80 + v / 64 % 64).toUInt8, (0x80 + v % 64).toUInt8]
  else [(0xf0 + v / 262144).toUInt8, (0x80 + v / 4096 % 64).toUInt8, (0x80 + v / 64 % 64).toUInt8,
    (0x80 + v % 64).toUInt8]

def hexDigit (c : UInt8) : Option Nat :=
  if 0x30 ≤ c ∧ c ≤ 0x39 then some (c.toNat - 0x30)
  else if 0x61 ≤ c ∧ c ≤ 0x66 then some (c.toNat - 0x61 + 10)
  else if 0x41 ≤ c ∧ c ≤ 0x46 then some (c.toNat - 0x41 + 10)
  else none

def hex4 (a b c d : UInt8) : Option Nat := do
  return (((← hexDigit a) * 16 + (← hexDigit b)) * 16 + (← hexDigit c)) * 16 + (← hexDigit d)

/-- The escapes of one letter. -/
def escape (c : UInt8) : Option UInt8 :=
  if c = quote ∨ c = backslash ∨ c = 0x2f then some c
  else if c = 0x62 then some 0x08
  else if c = 0x66 then some 0x0c
  else if c = 0x6e then some 0x0a
  else if c = 0x72 then some 0x0d
  else if c = 0x74 then some 0x09
  else none

/-- The code point of the high surrogate `v` and a low one whose escape is `b u l1 l2 l3 l4`. -/
def surrogatePair (v : Nat) (b u l1 l2 l3 l4 : UInt8) : Option Nat := do
  let lo ← hex4 l1 l2 l3 l4
  if b = backslash ∧ u = 0x75 ∧ v < 0xdc00 ∧ 0xdc00 ≤ lo ∧ lo < 0xe000 then
    some (0x10000 + (v - 0xd800) * 0x400 + (lo - 0xdc00))
  else none

def prepend (s : List UInt8) (r : Option (List UInt8 × List UInt8)) : Option (List UInt8 × List UInt8) :=
  r.map fun p => (s ++ p.1, p.2)

/-- The string whose opening quote has been read. A surrogate escape without its pair stands for
`U+FFFD`. -/
def stringBody : Parser (List UInt8)
  | [] => none
  | c :: w =>
    if c = quote then some ([], w)
    else if c < 0x20 then none
    else if c ≠ backslash then prepend [c] (stringBody w)
    else match w with
      | [] => none
      | e :: w =>
        if e ≠ 0x75 then
          match escape e with
          | none => none
          | some x => prepend [x] (stringBody w)
        else match w with
          | h1 :: h2 :: h3 :: h4 :: w =>
            match hex4 h1 h2 h3 h4 with
            | none => none
            | some v =>
              if v < 0xd800 ∨ 0xe000 ≤ v then prepend (utf8Encode v) (stringBody w)
              else match w with
                | b :: u :: l1 :: l2 :: l3 :: l4 :: w' =>
                  match surrogatePair v b u l1 l2 l3 l4 with
                  | some p => prepend (utf8Encode p) (stringBody w')
                  | none => prepend (utf8Encode 0xfffd) (stringBody (b :: u :: l1 :: l2 :: l3 :: l4 :: w'))
                | w => prepend (utf8Encode 0xfffd) (stringBody w)
          | _ => none

/-- The number of bytes of the code point at the front, and 0 if there is none. -/
def codePoint : List UInt8 → Nat
  | [] => 0
  | a :: rest =>
    if a < 0x80 then 1
    else match rest with
      | [] => 0
      | b :: rest =>
        if 0xc2 ≤ a ∧ a ≤ 0xdf then if isTrail b then 2 else 0
        else match rest with
          | [] => 0
          | c :: rest =>
            if 0xe0 ≤ a ∧ a ≤ 0xef then if isSecond a b && isTrail c then 3 else 0
            else match rest with
              | [] => 0
              | d :: _ => if 0xf0 ≤ a && a ≤ 0xf4 && isSecond a b && isTrail c && isTrail d then 4 else 0

/-- The text with `U+FFFD` for each byte that no code point begins with; `n` more bytes of a code point are still
to come. -/
def replacedFrom : Nat → List UInt8 → List UInt8
  | _, [] => []
  | n + 1, c :: w => c :: replacedFrom n w
  | 0, c :: w =>
    match codePoint (c :: w) with
    | 0 => utf8Encode 0xfffd ++ replacedFrom 0 w
    | n + 1 => c :: replacedFrom n w

/-- What becomes of a string that is not UTF-8. -/
inductive Invalid where
  | refuse
  | replace

def Invalid.apply : Invalid → List UInt8 → Option (List UInt8)
  | refuse, s => if utf8Valid s then some s else none
  | replace, s => some (replacedFrom 0 s)

def string (i : Invalid) : Parser (List UInt8) := fun w =>
  (stringBody w).bind fun p => (i.apply p.1).map (·, p.2)

/-! ## Numbers -/

def isDigit (c : UInt8) : Bool := 0x30 ≤ c && c ≤ 0x39

def digitsValue (ds : List UInt8) : Nat := ds.foldl (fun n d => 10 * n + (d.toNat - 0x30)) 0

def digits : Parser (List UInt8) := fun w =>
  if w.takeWhile isDigit = [] then none else some (w.takeWhile isDigit, w.dropWhile isDigit)

/-- The digits of the integer part: a zero stands alone. -/
def integer : Parser (List UInt8) := fun w =>
  (digits w).filter fun p => p.1.length = 1 ∨ p.1.head? ≠ some 0x30

def fraction : Parser (List UInt8)
  | [] => some ([], [])
  | c :: w => if c = 0x2e then digits w else some ([], c :: w)

/-- A minus sign, or a plus sign where one is allowed. -/
def sign (plus : Bool) : List UInt8 → Int × List UInt8
  | [] => (1, [])
  | c :: w => if c = 0x2d then (-1, w) else if plus ∧ c = 0x2b then (1, w) else (1, c :: w)

def exponent : Parser (Option Int)
  | [] => some (none, [])
  | c :: w =>
    if c = 0x65 ∨ c = 0x45 then
      (digits (sign true w).2).map fun p => (some ((sign true w).1 * digitsValue p.1), p.2)
    else some (none, c :: w)

/-- The number with the given sign, digits before and after the point and exponent. -/
def ofDigits (sign : Int) (whole frac : List UInt8) (exp : Option Int) : Json :=
  match frac, exp with
  | [], none => int (sign * digitsValue whole)
  | frac, exp => num (sign * digitsValue (whole ++ frac)) (exp.getD 0 - frac.length)

def number : Parser Json := fun w => do
  let (whole, w') ← integer (sign false w).2
  let (frac, w') ← fraction w'
  let (exp, w') ← exponent w'
  return (ofDigits (sign false w).1 whole frac exp, w')

/-! ## Values -/

/-- Items with commas between them up to `close`, at least one. -/
def commaSeparated {β : Type} (item : Parser β) (close : UInt8) : Nat → Parser (List β)
  | 0, _ => none
  | n + 1, w =>
    match item w with
    | none => none
    | some (x, w') =>
      match skipWs w' with
      | [] => none
      | c :: w' =>
        if c = close then some ([x], w')
        else if c = comma then (commaSeparated item close n w').map fun p => (x :: p.1, p.2)
        else none

def enclosed {β : Type} (item : Parser β) (close : UInt8) (n : Nat) : Parser (List β) := fun w =>
  match skipWs w with
  | [] => none
  | c :: w' => if c = close then some ([], w') else commaSeparated item close n w

def member (i : Invalid) (value : Parser Json) : Parser (List UInt8 × Json) := fun w =>
  match skipWs w with
  | [] => none
  | c :: w' =>
    if c = quote then do
      let (name, w') ← string i w'
      match skipWs w' with
      | [] => none
      | c :: w' =>
        if c = 0x3a then (value w').map fun p => ((name, p.1), p.2)
        else none
    else none

def value (i : Invalid) : Nat → Parser Json
  | 0, _ => none
  | n + 1, w =>
    match skipWs w with
    | [] => none
    | c :: w' =>
      if c = quote then (string i w').map fun p => (str p.1, p.2)
      else if c = 0x5b then (enclosed (value i n) 0x5d n w').map fun p => (arr p.1, p.2)
      else if c = 0x7b then (enclosed (member i (value i n)) 0x7d n w').map fun p => (obj p.1, p.2)
      else if (text "null").isPrefixOf (c :: w') then some (null, w'.drop 3)
      else if (text "true").isPrefixOf (c :: w') then some (bool true, w'.drop 3)
      else if (text "false").isPrefixOf (c :: w') then some (bool false, w'.drop 4)
      else number (c :: w')

/-- The value that `w` spells, with white space around it. -/
def parseAs (i : Invalid) (w : List UInt8) : Option Json :=
  match value i (w.length + 1) w with
  | some (j, rest) => if skipWs rest = [] then some j else none
  | none => none

/-- A text as RFC 8259 has it. -/
abbrev parse : List UInt8 → Option Json := parseAs .refuse

/-- A text as `json.Unmarshal` reads it. -/
abbrev unmarshal : List UInt8 → Option Json := parseAs .replace

/-! ## The literals of a string -/

/-- A byte that stands for itself in a string. -/
def Plain (c : UInt8) : Prop := c ≠ quote ∧ ¬c < 0x20 ∧ c ≠ backslash

instance : DecidablePred Plain := fun c => inferInstanceAs (Decidable (c ≠ quote ∧ ¬c < 0x20 ∧ c ≠ backslash))

/-- A text that is a string literal as it stands. -/
def PlainText (s : List UInt8) : Prop := (∀ c ∈ s, Plain c) ∧ utf8Valid s = true

instance : DecidablePred PlainText := fun s =>
  have : Decidable (∀ c ∈ s, Plain c) := List.decidableBAll Plain s
  inferInstanceAs (Decidable ((∀ c ∈ s, Plain c) ∧ utf8Valid s = true))

theorem stringBody_plain {s : List UInt8} (h : ∀ c ∈ s, Plain c) (rest : List UInt8) :
    stringBody (s ++ quote :: rest) = some (s, rest) := by
  induction s with
  | nil =>
    rw [List.nil_append, stringBody.eq_def]
    exact if_pos rfl
  | cons c s ih =>
    obtain ⟨hq, hc, hb⟩ := h c (by simp)
    have hs := ih fun c hc => h c (by simp [hc])
    rw [List.cons_append, stringBody.eq_def]
    simp only [if_neg hq, if_neg hc, if_pos hb, hs]
    rfl

/-- What is known of a literal `lit` and the string `t` it spells: a quote in the literal stands for
a quote, and the string is shorter where anything is escaped. -/
def Literal (lit t : List UInt8) : Prop :=
  lit.count quote ≤ t.count quote ∧ (t = lit ∧ (∀ c ∈ lit, Plain c) ∨ t.length < lit.length)

theorem Literal.nil : Literal [] [] := by
  simp [Literal]

theorem Literal.append {a b x y : List UInt8} (ha : Literal a x) (hb : Literal b y) : Literal (a ++ b) (x ++ y) := by
  obtain ⟨hqa, ha⟩ := ha
  obtain ⟨hqb, hb⟩ := hb
  refine ⟨by simp only [List.count_append]; omega, ?_⟩
  simp only [List.length_append, List.mem_append]
  grind

theorem Literal.plain {c : UInt8} (hc : Plain c) : Literal [c] [c] := by
  simpa [Literal] using hc

theorem escape_eq_quote {e x : UInt8} (h : escape e = some x) (he : e = quote) : x = quote := by
  subst he
  simpa [escape, eq_comm] using h

theorem Literal.escape {e x : UInt8} (h : Json.escape e = some x) : Literal [backslash, e] [x] := by
  refine ⟨?_, by simp⟩
  by_cases he : e = quote
  · rw [escape_eq_quote h he, he]
    decide
  · have hcount : [backslash, e].count quote = 0 := by
      apply List.count_eq_zero.mpr
      simp [Ne.symm he, show quote ≠ backslash by decide]
    omega

theorem hexDigit_ne_quote {c : UInt8} {v : Nat} (h : hexDigit c = some v) : c ≠ quote := by
  intro hc
  subst hc
  revert h
  decide +revert

theorem hex4_ne_quote {a b c d : UInt8} {v : Nat} (h : hex4 a b c d = some v) : quote ∉ [a, b, c, d] := by
  unfold hex4 at h
  simp only [Option.bind_eq_bind, Option.bind_eq_some_iff] at h
  obtain ⟨_, ha, _, hb, _, hc, _, hd, -⟩ := h
  simp [(hexDigit_ne_quote ha).symm, (hexDigit_ne_quote hb).symm, (hexDigit_ne_quote hc).symm,
    (hexDigit_ne_quote hd).symm]

theorem utf8Encode_length (v : Nat) : (utf8Encode v).length ≤ 4 := by
  unfold utf8Encode
  split_ifs <;> simp

theorem Literal.code {lit : List UInt8} (hq : quote ∉ lit) (hl : 4 < lit.length) (v : Nat) :
    Literal lit (utf8Encode v) := by
  refine ⟨by simp [List.count_eq_zero.mpr hq], Or.inr ?_⟩
  have := utf8Encode_length v
  omega

theorem prepend_eq_some {s t rest : List UInt8} {r : Option (List UInt8 × List UInt8)}
    (h : prepend s r = some (t, rest)) : ∃ t', r = some (t', rest) ∧ t = s ++ t' := by
  unfold prepend at h
  obtain ⟨⟨t', rest'⟩, hr, h⟩ := Option.map_eq_some_iff.mp h
  simp only [Prod.mk.injEq] at h
  obtain ⟨rfl, rfl⟩ := h
  exact ⟨t', hr, rfl⟩

theorem Literal.prepend {tok x w t rest : List UInt8} (htok : Literal tok x)
    (ih : ∀ {t rest}, stringBody w = some (t, rest) → ∃ lit, w = lit ++ quote :: rest ∧ Literal lit t)
    (h : Json.prepend x (stringBody w) = some (t, rest)) :
    ∃ lit, tok ++ w = lit ++ quote :: rest ∧ Literal lit t := by
  obtain ⟨t', hr, rfl⟩ := prepend_eq_some h
  obtain ⟨lit, rfl, hlit⟩ := ih hr
  exact ⟨tok ++ lit, by simp, htok.append hlit⟩

theorem quote_notMem_unicode {b u h1 h2 h3 h4 : UInt8} {v : Nat} (hb : ¬b ≠ backslash) (hu : ¬u ≠ 0x75)
    (h : hex4 h1 h2 h3 h4 = some v) : quote ∉ [b, u, h1, h2, h3, h4] := by
  rw [not_not.mp hb, not_not.mp hu, List.mem_cons, List.mem_cons]
  rintro (hq | hq | hq)
  · exact absurd hq (by decide)
  · exact absurd hq (by decide)
  · exact hex4_ne_quote h hq

theorem quote_notMem_pair {v p : Nat} {b u l1 l2 l3 l4 : UInt8} (h : surrogatePair v b u l1 l2 l3 l4 = some p) :
    quote ∉ [b, u, l1, l2, l3, l4] := by
  unfold surrogatePair at h
  simp only [Option.bind_eq_bind, Option.bind_eq_some_iff] at h
  obtain ⟨lo, hlo, h⟩ := h
  split_ifs at h with hbu
  exact quote_notMem_unicode (not_not.mpr hbu.1) (not_not.mpr hbu.2.1) hlo

theorem stringBody_literal {w t rest : List UInt8} (h : stringBody w = some (t, rest)) :
    ∃ lit, w = lit ++ quote :: rest ∧ Literal lit t := by
  fun_induction stringBody w generalizing t rest
  case case1 | case3 | case5 | case6 | case8 | case13 => simp at h
  case case2 w =>
    simp only [Option.some.injEq, Prod.mk.injEq] at h
    obtain ⟨rfl, rfl⟩ := h
    exact ⟨[], rfl, .nil⟩
  case case4 c w hq hc hb ih => exact (Literal.plain ⟨hq, hc, hb⟩).prepend ih h
  case case7 c _ _ hb e w _ x he ih =>
    rw [not_not.mp hb]
    exact (Literal.escape he).prepend ih h
  case case9 hb u hu h1 h2 h3 h4 w v hv _ ih =>
    exact (Literal.code (quote_notMem_unicode hb hu hv) (by simp) v).prepend ih h
  case case10 c _ _ hb u hu h1 h2 h3 h4 v hv _ b' u' l1 l2 l3 l4 w p hp ih =>
    have hq : quote ∉ [c, u, h1, h2, h3, h4] ++ [b', u', l1, l2, l3, l4] := by
      rw [List.mem_append, not_or]
      exact ⟨quote_notMem_unicode hb hu hv, quote_notMem_pair hp⟩
    exact (Literal.code hq (by simp) p).prepend ih h
  case case11 hb u hu h1 h2 h3 h4 v hv _ _ _ _ _ _ _ _ _ ih =>
    exact (Literal.code (quote_notMem_unicode hb hu hv) (by simp) _).prepend ih h
  case case12 hb u hu h1 h2 h3 h4 v hv _ _ _ ih =>
    exact (Literal.code (quote_notMem_unicode hb hu hv) (by simp) _).prepend ih h

/-- Bytes put in front of a quote are read as themselves exactly when each of them stands for itself:
an escape makes the string shorter than its literal, and a quote would end it too early. -/
theorem stringBody_eq_self {s rest rest' : List UInt8} :
    stringBody (s ++ quote :: rest) = some (s, rest') ↔ (∀ c ∈ s, Plain c) ∧ rest' = rest := by
  constructor
  · intro h
    obtain ⟨lit, heq, hcount, hlit⟩ := stringBody_literal h
    rcases hlit with ⟨rfl, hplain⟩ | hlt
    · exact ⟨hplain, by simpa [eq_comm] using heq⟩
    · -- the literal goes beyond the quote after `s`, which no quote of `s` can stand for
      have hself : s ++ [quote] <+: s ++ quote :: rest := ⟨rest, by simp⟩
      obtain ⟨more, hmore⟩ : s ++ [quote] <+: lit := by
        apply List.prefix_of_prefix_length_le hself ⟨quote :: rest', heq.symm⟩
        rw [List.length_append]
        exact hlt
      rw [← hmore] at hcount
      simp only [List.count_append, List.count_singleton_self] at hcount
      omega
  · rintro ⟨h, rfl⟩
    exact stringBody_plain h rest'

/-! ## Strings that are UTF-8 -/

theorem replacedFrom_of_codePoint {c : UInt8} {w : List UInt8} {n : Nat} (h : codePoint (c :: w) = n + 1) :
    replacedFrom 0 (c :: w) = c :: replacedFrom n w := by
  rw [replacedFrom, h]

theorem replacedFrom_of_valid {s : List UInt8} (h : utf8Valid s = true) : replacedFrom 0 s = s := by
  fun_induction utf8Valid s with
  | case1 => rfl
  | case2 a rest ha ih =>
    rw [replacedFrom_of_codePoint (n := 0) (by simp [codePoint, ha]), ih h]
  | case3 | case5 | case7 => cases h
  | case4 a ha b rest hab ih =>
    obtain ⟨hb, hrest⟩ := Bool.and_eq_true_iff.mp h
    rw [replacedFrom_of_codePoint (n := 1) (by simp [codePoint, ha, hab, hb]), replacedFrom, ih hrest]
  | case6 a ha b hab c rest hac ih =>
    obtain ⟨hbc, hrest⟩ := Bool.and_eq_true_iff.mp h
    rw [replacedFrom_of_codePoint (n := 2) (by simp only [codePoint, if_neg ha, if_neg hab, if_pos hac, if_pos hbc]),
      replacedFrom, replacedFrom, ih hrest]
  | case8 a ha b hab c hac d rest ih =>
    obtain ⟨hd, hrest⟩ := Bool.and_eq_true_iff.mp h
    rw [replacedFrom_of_codePoint (n := 3) (by simp only [codePoint, if_neg ha, if_neg hab, if_neg hac, if_pos hd]),
      replacedFrom, replacedFrom, replacedFrom, ih hrest]

theorem Invalid.apply_of_valid (i : Invalid) {s : List UInt8} (h : utf8Valid s = true) : i.apply s = some s := by
  cases i with
  | refuse => exact if_pos h
  | replace => exact congrArg some (replacedFrom_of_valid h)

theorem string_of_body {i : Invalid} {w s rest : List UInt8} (h : stringBody w = some (s, rest))
    (hs : utf8Valid s = true) : string i w = some (s, rest) := by
  rw [string, h, Option.bind_some, i.apply_of_valid hs, Option.map_some]

theorem string_plain {i : Invalid} {s : List UInt8} (h : PlainText s) (rest : List UInt8) :
    string i (s ++ quote :: rest) = some (s, rest) :=
  string_of_body (stringBody_plain h.1 rest) h.2

theorem string_eq_self {s rest rest' : List UInt8} :
    string .refuse (s ++ quote :: rest) = some (s, rest') ↔ PlainText s ∧ rest' = rest := by
  constructor
  · intro h
    obtain ⟨⟨t, r⟩, hbody, ht⟩ := Option.bind_eq_some_iff.mp h
    have hvalid : utf8Valid t = true := by
      by_contra hnot
      rw [Invalid.apply, if_neg hnot] at ht
      cases ht
    rw [Invalid.apply, if_pos hvalid] at ht
    obtain ⟨rfl, rfl⟩ := Prod.mk.inj (Option.some.inj ht)
    obtain ⟨hplain, rfl⟩ := stringBody_eq_self.mp hbody
    exact ⟨⟨hplain, hvalid⟩, rfl⟩
  · rintro ⟨h, rfl⟩
    exact string_plain h rest'

end Json
