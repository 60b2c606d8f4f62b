import VFlow.Base.JsonNumber

/-!
# JSON values as texts

`print` writes a value without white space, as `encoding/json` of Go does: in a string the quote, the backslash and the
control bytes are escaped, and also `<`, `>`, `&`, `U+2028` and `U+2029`; bytes are written in base64. A value whose
strings are UTF-8 is read back from its text (`parseAs_print`).
-/

namespace Json

variable {i : Invalid}

/-! ## Strings -/

def hexChar (n : UInt8) : UInt8 := if n < 10 then 0x30 + n else 0x57 + n

def escapeByte (c : UInt8) : List UInt8 :=
  if c = quote ∨ c = backslash then [backslash, c]
  else if c = 0x0a then [backslash, 0x6e]
  else if c = 0x0d then [backslash, 0x72]
  else if c = 0x09 then [backslash, 0x74]
  else if c < 0x20 ∨ c = 0x3c ∨ c = 0x3e ∨ c = 0x26 then
    [backslash, 0x75, 0x30, 0x30, hexChar (c / 16), hexChar (c % 16)]
  else [c]

def escaped : List UInt8 → List UInt8
  | 0xe2 :: 0x80 :: 0xa8 :: w => [backslash, 0x75, 0x32, 0x30, 0x32, 0x38] ++ escaped w
  | 0xe2 :: 0x80 :: 0xa9 :: w => [backslash, 0x75, 0x32, 0x30, 0x32, 0x39] ++ escaped w
  | c :: w => escapeByte c ++ escaped w
  | [] => []

theorem stringBody_plain_cons {c : UInt8} (h : Plain c) (w : List UInt8) :
    stringBody (c :: w) = prepend [c] (stringBody w) := by
  obtain ⟨hq, hc, hb⟩ := h
  rw [stringBody.eq_def]
  simp only [if_neg hq, if_neg hc, if_pos hb]

theorem stringBody_escape {e x : UInt8} (he : e ≠ 0x75) (h : escape e = some x) (w : List UInt8) :
    stringBody (backslash :: e :: w) = prepend [x] (stringBody w) := by
  rw [stringBody.eq_def]
  have hq : backslash ≠ quote := by decide
  have hc : ¬backslash < 0x20 := by decide
  simp [hq, hc, he, h]

theorem stringBody_unicode {a b c d : UInt8} {v : Nat} (h : hex4 a b c d = some v) (hv : v < 0xd800) (w : List UInt8) :
    stringBody (backslash :: 0x75 :: a :: b :: c :: d :: w) = prepend (utf8Encode v) (stringBody w) := by
  rw [stringBody.eq_def]
  have hq : backslash ≠ quote := by decide
  have hc : ¬backslash < 0x20 := by decide
  simp [hq, hc, h, hv]

theorem hex4_hexChar {c : UInt8} (hc : c < 0x40) :
    hex4 0x30 0x30 (hexChar (c / 16)) (hexChar (c % 16)) = some c.toNat ∧ utf8Encode c.toNat = [c] := by
  have hall : ∀ n < 0x40, hex4 0x30 0x30 (hexChar (UInt8.ofNat n / 16)) (hexChar (UInt8.ofNat n % 16)) = some n ∧
      utf8Encode n = [UInt8.ofNat n] := by
    decide
  have h := hall c.toNat (UInt8.lt_iff_toNat_lt.mp hc)
  rwa [UInt8.ofNat_toNat] at h

theorem lt_of_control {c : UInt8} (h : c < 0x20 ∨ c = 0x3c ∨ c = 0x3e ∨ c = 0x26) : c < 0x40 := by
  rcases h with h | rfl | rfl | rfl
  · exact UInt8.lt_trans h (by decide)
  all_goals decide

theorem stringBody_escapeByte (c : UInt8) (w : List UInt8) :
    stringBody (escapeByte c ++ w) = prepend [c] (stringBody w) := by
  unfold escapeByte
  split_ifs with hq hn hr ht hu
  · rcases hq with rfl | rfl
    · exact stringBody_escape (by decide) rfl w
    · exact stringBody_escape (by decide) rfl w
  · exact hn ▸ stringBody_escape (by decide) rfl w
  · exact hr ▸ stringBody_escape (by decide) rfl w
  · exact ht ▸ stringBody_escape (by decide) rfl w
  · obtain ⟨hhex, hutf8⟩ := hex4_hexChar (lt_of_control hu)
    have hlt : c.toNat < 0xd800 := Nat.lt_trans c.toNat_lt (by decide)
    rw [← hutf8]
    exact stringBody_unicode hhex hlt w
  · rw [not_or] at hq hu
    exact stringBody_plain_cons ⟨hq.1, hu.1, hq.2⟩ w

theorem stringBody_escaped (s rest : List UInt8) : stringBody (escaped s ++ quote :: rest) = some (s, rest) := by
  fun_induction escaped s with
  | case1 w ih =>
    refine (stringBody_unicode (v := 0x2028) (by decide) (by decide) (escaped w ++ quote :: rest)).trans ?_
    rw [ih]
    rfl
  | case2 w ih =>
    refine (stringBody_unicode (v := 0x2029) (by decide) (by decide) (escaped w ++ quote :: rest)).trans ?_
    rw [ih]
    rfl
  | case3 c w _ _ ih =>
    rw [List.append_assoc, stringBody_escapeByte, ih]
    rfl
  | case4 =>
    rw [List.nil_append, stringBody.eq_def]
    exact if_pos rfl

theorem string_escaped {s : List UInt8} (h : utf8Valid s = true) (rest : List UInt8) :
    string i (escaped s ++ quote :: rest) = some (s, rest) :=
  string_of_body (stringBody_escaped s rest) h

/-! ## UTF-8 -/

theorem utf8Valid_two {a b : UInt8} (ha : 0xc2 ≤ a ∧ a ≤ 0xdf) (hb : isTrail b = true) (w : List UInt8) :
    utf8Valid (a :: b :: w) = utf8Valid w := by
  have hone : ¬a < 0x80 := UInt8.not_lt.mpr (UInt8.le_trans (by decide) ha.1)
  rw [utf8Valid.eq_def]
  simp only [if_neg hone, if_pos ha, hb, Bool.true_and]

theorem utf8Valid_three {a b c : UInt8} (ha : 0xe0 ≤ a ∧ a ≤ 0xef) (hb : isSecond a b = true) (hc : isTrail c = true)
    (w : List UInt8) : utf8Valid (a :: b :: c :: w) = utf8Valid w := by
  have hone : ¬a < 0x80 := UInt8.not_lt.mpr (UInt8.le_trans (by decide) ha.1)
  have htwo : ¬(0xc2 ≤ a ∧ a ≤ 0xdf) := fun h => absurd (UInt8.le_trans ha.1 h.2) (by decide)
  rw [utf8Valid.eq_def]
  simp only [if_neg hone, if_neg htwo, if_pos ha, hb, hc, Bool.true_and]

theorem utf8Valid_four {a b c d : UInt8} (ha : 0xf0 ≤ a ∧ a ≤ 0xf4) (hb : isSecond a b = true) (hc : isTrail c = true)
    (hd : isTrail d = true) (w : List UInt8) : utf8Valid (a :: b :: c :: d :: w) = utf8Valid w := by
  have hone : ¬a < 0x80 := UInt8.not_lt.mpr (UInt8.le_trans (by decide) ha.1)
  have htwo : ¬(0xc2 ≤ a ∧ a ≤ 0xdf) := fun h => absurd (UInt8.le_trans ha.1 h.2) (by decide)
  have hthree : ¬(0xe0 ≤ a ∧ a ≤ 0xef) := fun h => absurd (UInt8.le_trans ha.1 h.2) (by decide)
  rw [utf8Valid.eq_def]
  simp only [if_neg hone, if_neg htwo, if_neg hthree, ha.1, ha.2, hb, hc, hd, decide_true, Bool.true_and]

theorem isTrail_ofNat (n : Nat) : isTrail (UInt8.ofNat (n % 64 + 128)) = true := by
  simp only [isTrail, UInt8.le_iff_toNat_le, UInt8.toNat_ofNat', Bool.and_eq_true, decide_eq_true_eq]
  change 128 ≤ _ ∧ _ ≤ 191
  omega

theorem isSecond_ofNat {a n : Nat} (ha : a < 256) (hlow : a = 0xe0 → 32 ≤ n % 64) (hsurrogate : a = 0xed → n % 64 < 32)
    (hlow' : a = 0xf0 → 16 ≤ n % 64) (hhigh : a = 0xf4 → n % 64 < 16) :
    isSecond (UInt8.ofNat a) (UInt8.ofNat (n % 64 + 128)) = true := by
  simp only [isSecond, isTrail_ofNat, Bool.true_and, Bool.and_eq_true, Bool.or_eq_true, decide_eq_true_eq, ne_eq,
    ← UInt8.toNat_inj, UInt8.le_iff_toNat_le, UInt8.toNat_ofNat']
  change (((¬ a % 256 = 224 ∨ 160 ≤ (n % 64 + 128) % 256) ∧ (¬ a % 256 = 237 ∨ (n % 64 + 128) % 256 ≤ 159)) ∧
    (¬ a % 256 = 240 ∨ 144 ≤ (n % 64 + 128) % 256)) ∧ (¬ a % 256 = 244 ∨ (n % 64 + 128) % 256 ≤ 143)
  omega

theorem ofNat_mem_range {n : Nat} {lo hi : UInt8} (hn : n < 256) (hlo : lo.toNat ≤ n) (hhi : n ≤ hi.toNat) :
    lo ≤ UInt8.ofNat n ∧ UInt8.ofNat n ≤ hi := by
  rw [UInt8.le_iff_toNat_le, UInt8.le_iff_toNat_le, UInt8.toNat_ofNat_of_lt' hn]
  exact ⟨hlo, hhi⟩

theorem utf8Valid_encodeChar (c : Char) (w : List UInt8) : utf8Valid (String.utf8EncodeChar c ++ w) = utf8Valid w := by
  have hvalid : c.val.toNat < 0xd800 ∨ 0xdfff < c.val.toNat ∧ c.val.toNat < 0x110000 := c.valid
  rw [String.utf8EncodeChar.eq_1]
  generalize c.val.toNat = v at hvalid
  split_ifs with h1 h2 h3
  · rw [List.cons_append, utf8Valid.eq_def]
    refine if_pos (UInt8.lt_iff_toNat_lt.mpr ?_)
    rw [UInt8.toNat_ofNat_of_lt' (by change v < 256; omega)]
    exact Nat.lt_succ_of_le h1
  · exact utf8Valid_two (ofNat_mem_range (by omega) (by change 194 ≤ _; omega) (by change _ ≤ 223; omega))
      (isTrail_ofNat _) w
  · refine utf8Valid_three (ofNat_mem_range (by omega) (by change 224 ≤ _; omega) (by change _ ≤ 239; omega))
      (isSecond_ofNat ?_ ?_ ?_ ?_ ?_) (isTrail_ofNat _) w
    all_goals omega
  · refine utf8Valid_four (ofNat_mem_range (by omega) (by change 240 ≤ _; omega) (by change _ ≤ 244; omega))
      (isSecond_ofNat ?_ ?_ ?_ ?_ ?_) (isTrail_ofNat _) (isTrail_ofNat _) w
    all_goals omega

theorem utf8Valid_text (s : String) : utf8Valid (text s) = true := by
  unfold text
  induction s.toList with
  | nil => rfl
  | cons c cs ih => rw [List.flatMap_cons, utf8Valid_encodeChar, ih]

theorem utf8Valid_of_ascii {s : List UInt8} (h : ∀ c ∈ s, c < 0x80) : utf8Valid s = true := by
  induction s with
  | nil => rfl
  | cons c s ih =>
    rw [utf8Valid.eq_def]
    simp only [if_pos (h c (by simp))]
    exact ih fun c hc => h c (by simp [hc])

/-! ## Bytes -/

def base64Char (n : UInt8) : UInt8 :=
  if n < 26 then 0x41 + n
  else if n < 52 then 0x61 + (n - 26)
  else if n < 62 then 0x30 + (n - 52)
  else if n = 62 then 0x2b
  else 0x2f

/-- Bytes are written in base64, with padding. -/
def base64 : List UInt8 → List UInt8
  | a :: b :: c :: w =>
    base64Char (a >>> 2) :: base64Char ((a &&& 3) <<< 4 ||| b >>> 4) :: base64Char ((b &&& 15) <<< 2 ||| c >>> 6) ::
      base64Char (c &&& 63) :: base64 w
  | [a, b] => [base64Char (a >>> 2), base64Char ((a &&& 3) <<< 4 ||| b >>> 4), base64Char ((b &&& 15) <<< 2), 0x3d]
  | [a] => [base64Char (a >>> 2), base64Char ((a &&& 3) <<< 4), 0x3d, 0x3d]
  | [] => []

theorem base64Char_lt (n : UInt8) : base64Char n < 0x80 := by
  unfold base64Char
  split_ifs with h1 h2 h3 h4
  · rw [UInt8.lt_iff_toNat_lt] at h1 ⊢
    rw [UInt8.toNat_add]
    change n.toNat < 26 at h1
    change (65 + n.toNat) % 256 < 128
    omega
  · rw [UInt8.lt_iff_toNat_lt] at h1 h2 ⊢
    rw [UInt8.toNat_add, UInt8.toNat_sub_of_le _ _ (UInt8.le_iff_toNat_le.mpr (Nat.not_lt.mp h1))]
    change ¬ n.toNat < 26 at h1
    change n.toNat < 52 at h2
    change (97 + (n.toNat - 26)) % 256 < 128
    omega
  · rw [UInt8.lt_iff_toNat_lt] at h2 h3 ⊢
    rw [UInt8.toNat_add, UInt8.toNat_sub_of_le _ _ (UInt8.le_iff_toNat_le.mpr (Nat.not_lt.mp h2))]
    change ¬ n.toNat < 52 at h2
    change n.toNat < 62 at h3
    change (48 + (n.toNat - 52)) % 256 < 128
    omega
  · decide
  · decide

theorem utf8Valid_base64 (b : List UInt8) : utf8Valid (base64 b) = true := by
  refine utf8Valid_of_ascii ?_
  fun_induction base64 b with
  | case1 a b c w ih => simpa [base64Char_lt] using ih
  | case2 a b => simp [base64Char_lt]
  | case3 a => simp [base64Char_lt]
  | case4 => simp

/-! ## Values -/

theorem Numeral.isDigit_nil : ∀ c ∈ ([] : List UInt8), isDigit c = true :=
  List.forall_mem_nil _

theorem Numeral.isDigit_exponent (e : Int) : ∀ x ∈ some (decide (e < 0), decimal e.natAbs),
    x.2 ≠ [] ∧ ∀ c ∈ x.2, isDigit c = true := by
  rintro _ ⟨⟩
  exact ⟨decimal_ne_nil _, isDigit_of_mem_decimal _⟩

/-- A number with an exponent. -/
def Numeral.ofNum (m e : Int) : Numeral where
  negative := decide (m < 0)
  int := m.natAbs
  frac := []
  exp := some (decide (e < 0), decimal e.natAbs)
  isDigit_frac := isDigit_nil
  isDigit_exp := isDigit_exponent e

def quoted (s : List UInt8) : List UInt8 := quote :: escaped s ++ [quote]

mutual

def print : Json → List UInt8
  | null => text "null"
  | bool true => text "true"
  | bool false => text "false"
  | int i => (Numeral.ofInt i).text
  | num m e => (Numeral.ofNum m e).text
  | str s => quoted s
  | arr js => array (printAll js)
  | obj ms => object (printMembers ms)

def printAll : List Json → List (List UInt8)
  | [] => []
  | j :: js => print j :: printAll js

def printMember : List UInt8 × Json → List UInt8
  | (name, j) => quoted name ++ 0x3a :: print j

def printMembers : List (List UInt8 × Json) → List (List UInt8)
  | [] => []
  | m :: ms => printMember m :: printMembers ms

end

theorem printAll_eq (js : List Json) : printAll js = js.map print := by
  induction js with
  | nil => rfl
  | cons j js ih => rw [printAll, ih, List.map_cons]

theorem printMembers_eq (ms : List (List UInt8 × Json)) : printMembers ms = ms.map printMember := by
  induction ms with
  | nil => rfl
  | cons m ms ih => rw [printMembers, ih, List.map_cons]

inductive Utf8 : Json → Prop
  | null : Utf8 null
  | bool (b : Bool) : Utf8 (bool b)
  | int (i : Int) : Utf8 (int i)
  | num (m e : Int) : Utf8 (num m e)
  | str {s : List UInt8} (h : utf8Valid s = true) : Utf8 (str s)
  | arr {js : List Json} (h : ∀ j ∈ js, Utf8 j) : Utf8 (arr js)
  | obj {ms : List (List UInt8 × Json)} (hname : ∀ m ∈ ms, utf8Valid m.1 = true) (h : ∀ m ∈ ms, Utf8 m.2) :
    Utf8 (obj ms)

def struct (ms : List (String × Json)) : Json := .obj (ms.map fun m => (text m.1, m.2))

@[simp] theorem utf8_null : Utf8 .null := .null

@[simp] theorem utf8_int (i : Int) : Utf8 (.int i) := .int i

@[simp] theorem utf8_text (s : String) : Utf8 (.str (text s)) := .str (utf8Valid_text s)

@[simp] theorem utf8_base64 (b : List UInt8) : Utf8 (.str (base64 b)) := .str (utf8Valid_base64 b)

@[simp] theorem utf8_arr {js : List Json} : Utf8 (.arr js) ↔ ∀ j ∈ js, Utf8 j := by
  constructor
  · rintro ⟨h⟩
    assumption
  · exact .arr

@[simp] theorem utf8_struct {ms : List (String × Json)} : Utf8 (struct ms) ↔ ∀ m ∈ ms, Utf8 m.2 := by
  constructor
  · rintro (_ | _ | _ | _ | _ | _ | ⟨-, h⟩) m hm
    exact h _ (List.mem_map_of_mem hm)
  · refine fun h => .obj (fun m hm => ?_) fun m hm => ?_
    · obtain ⟨f, -, rfl⟩ := List.mem_map.mp hm
      exact utf8Valid_text f.1
    · obtain ⟨f, hf, rfl⟩ := List.mem_map.mp hm
      exact h f hf

theorem sign_mul_natAbs (i : Int) : (if decide (i < 0) then -1 else 1) * (i.natAbs : Int) = i := by
  rcases Int.lt_or_le i 0 with hi | hi
  · rw [decide_eq_true hi, if_pos rfl]
    omega
  · rw [decide_eq_false (Int.not_lt.mpr hi), if_neg Bool.false_ne_true]
    omega

theorem Numeral.json_ofNum (m e : Int) : (Numeral.ofNum m e).json = .num m e := by
  have hjson : (Numeral.ofNum m e).json =
      .num ((if decide (m < 0) then -1 else 1) * digitsValue (decimal m.natAbs ++ []))
        ((if decide (e < 0) then -1 else 1) * digitsValue (decimal e.natAbs) - 0) := rfl
  rw [hjson, List.append_nil, digitsValue_decimal, digitsValue_decimal, sign_mul_natAbs, sign_mul_natAbs, Int.sub_zero]

theorem starts_numeral (x : Numeral) : Starts x.text := by
  obtain ⟨c, v, hx, hc⟩ := x.text_eq_cons
  have hbytes : ∀ k ∈ [(0x20 : UInt8), 0x09, 0x0a, 0x0d, 0x5d, 0x7d], c ≠ k := by
    rintro k hk rfl
    have hno : [(0x20 : UInt8), 0x09, 0x0a, 0x0d, 0x5d, 0x7d].all (fun k => k != 0x2d && !isDigit k) = true := by decide
    have hk := List.all_eq_true.mp hno c hk
    rcases hc with rfl | hc
    · simp at hk
    · simp [hc] at hk
  refine ⟨c, v, hx, ?_, hbytes _ (by simp), hbytes _ (by simp)⟩
  simp [isWs, hbytes]

theorem starts_print (j : Json) : Starts j.print := by
  cases j with
  | null => exact ⟨_, _, rfl, rfl, by decide, by decide⟩
  | bool b => cases b <;> exact ⟨_, _, rfl, rfl, by decide, by decide⟩
  | int i => exact starts_numeral _
  | num m e => exact starts_numeral _
  | str s => exact ⟨_, _, rfl, rfl, by decide, by decide⟩
  | arr js => exact starts_array _
  | obj ms => exact starts_object _

theorem printMember_eq (m : List UInt8 × Json) : printMember m = quoted m.1 ++ 0x3a :: m.2.print := by
  obtain ⟨name, j⟩ := m
  rw [printMember]

theorem starts_printMember (m : List UInt8 × Json) : Starts (printMember m) :=
  ⟨quote, _, printMember_eq m, rfl, by decide, by decide⟩

theorem Reads.printMember {f : Parser Json} {name w : List UInt8} {j : Json} (hname : utf8Valid name = true)
    (h : Reads f True (some j) w) :
    Reads (Json.member i f) True (some (name, j)) (quoted name ++ 0x3a :: w) := by
  refine ⟨fun _ rest hrest => ?_, fun hP => absurd trivial hP⟩
  have htext : quoted name ++ 0x3a :: w ++ rest = quote :: (escaped name ++ quote :: 0x3a :: (w ++ rest)) := by
    simp [quoted]
  have hread := h.read trivial rest hrest
  rw [htext]
  simp [Json.member, skipWs_cons (show isWs quote = false from rfl), string_escaped hname,
    skipWs_cons (show isWs 0x3a = false from rfl), hread]

theorem Spells.of_value {j : Json} {w : List UInt8}
    (h : ∀ n rest, Stops rest → value i (n + 1) (w ++ rest) = some (j, rest)) : Spells i True (some j) w := by
  intro n hn
  obtain ⟨n, rfl⟩ := Nat.exists_eq_succ_of_ne_zero (Nat.ne_zero_of_lt hn)
  exact ⟨fun _ rest hrest => h n rest hrest, fun hP => absurd trivial hP⟩

theorem mapM_some {α : Type} (xs : List α) : xs.mapM some = some xs := by
  induction xs with
  | nil => rfl
  | cons x xs ih => rw [List.mapM_cons, ih]; rfl

theorem spells_object {ms : List (List UInt8 × Json)} (hname : ∀ m ∈ ms, utf8Valid m.1 = true)
    (h : ∀ m ∈ ms, Spells i True (some m.2) m.2.print) :
    Spells i True (some (obj ms)) (object (ms.map printMember)) := by
  intro n hn
  obtain ⟨n, rfl⟩ := Nat.exists_eq_succ_of_ne_zero (Nat.ne_zero_of_lt hn)
  have hlen : (commas (ms.map printMember)).length < n := by
    simp only [object, List.cons_append, List.length_cons, List.length_append, List.length_nil] at hn
    omega
  have hread := Reads.brackets (fun _ _ => obj.inj) (Or.inr rfl) (value_obj (i := i) n) (P := fun _ => True) (o := some)
    (fun m (_ : m ∈ ms) => starts_printMember m) (fun m hm => ?_) ?_
  · rw [mapM_some] at hread
    exact ⟨fun _ => hread.read fun _ _ => trivial, fun hP => absurd trivial hP⟩
  · have hm' := length_le_commas (List.mem_map_of_mem (f := printMember) hm)
    simp only [printMember_eq, List.length_append, List.length_cons] at hm'
    rw [printMember_eq]
    exact Reads.printMember (hname m hm) (h m hm n (by omega))
  · have hcommas := length_le_commas_succ (ms.map printMember)
    rw [List.length_map] at hcommas
    omega

theorem spells_print {j : Json} (h : j.Utf8) : Spells i True (some j) j.print := by
  induction h with
  | null => exact .of_value fun n rest _ => rfl
  | bool b => cases b <;> exact .of_value fun n rest _ => rfl
  | int i => exact Spells.int i
  | num m e =>
    have h := Spells.numeral (i := i) (Numeral.ofNum m e)
    rw [Numeral.json_ofNum] at h
    exact h
  | @str s hs =>
    refine .of_value fun n rest _ => ?_
    rw [print, quoted, List.append_assoc, List.cons_append, value_str]
    simp [string_escaped hs]
  | @arr js _ ih =>
    rw [print, printAll_eq]
    have harr := Spells.arr (o := some) (fun j _ => starts_print j) ih
    rw [mapM_some] at harr
    exact harr.congr (by simp) rfl
  | @obj ms hname _ ih =>
    rw [print, printMembers_eq]
    exact spells_object hname ih

/-- **A value is read back from its text.** -/
theorem parseAs_print {j : Json} (h : j.Utf8) : parseAs i j.print = some j := (spells_print h).parse trivial

theorem parse_print {j : Json} (h : j.Utf8) : parse j.print = some j := parseAs_print h

theorem unmarshal_print {j : Json} (h : j.Utf8) : unmarshal j.print = some j := parseAs_print h

end Json
