import VFlow.Marshal

/-!
# Printed values are plain

What the encoders write for a number is a numeral, and the addresses and the byte strings they print
consist of characters that stand for themselves in a JSON string.
-/

namespace VFlow

open Json (text Numeral PlainText decimal)

/-! ## Numbers -/

theorem text_minus : text "-" = [0x2d] := rfl

theorem formatInt_eq (i : Int) : formatInt i = (Numeral.ofInt i).text := by
  unfold formatInt Numeral.text Numeral.signText Numeral.fracText Numeral.expText
  cases i with
  | ofNat n => simp [Int.repr, Numeral.ofInt, decimal]
  | negSucc n => simp [Int.repr, Numeral.ofInt, decimal, text_minus]

theorem isDigit_digit (d : Fin 10) : Json.isDigit (digit d) = true := Json.isDigit_digit d.isLt

theorem isDigit_exponentDigits (e : Nat) : ∀ c ∈ exponentDigits e, Json.isDigit c = true := by
  unfold exponentDigits
  split_ifs
  · exact List.forall_mem_cons.mpr ⟨rfl, Json.isDigit_of_mem_decimal e⟩
  · exact Json.isDigit_of_mem_decimal e

theorem exponentDigits_ne_nil (e : Nat) : exponentDigits e ≠ [] := by
  unfold exponentDigits
  split_ifs
  · simp
  · exact Json.decimal_ne_nil e

def Decimal.numeral (negative : Bool) (d : Decimal) : Numeral where
  negative
  int := d.lead.val
  frac := d.more.map digit
  exp := some (decide (d.exponent < 0), exponentDigits d.exponent.natAbs)
  isDigit_frac := by simp [isDigit_digit]
  isDigit_exp := by simpa using ⟨exponentDigits_ne_nil _, isDigit_exponentDigits _⟩

theorem formatE_eq (negative : Bool) (d : Decimal) : formatE negative d = (d.numeral negative).text := by
  have hlead : decimal d.lead.val = [digit d.lead] := by
    rw [Json.decimal_eq, if_pos d.lead.isLt]
    rfl
  have hpoint : text "." = [0x2e] := rfl
  have hE : text "E" = [0x45] := rfl
  have hplus : text "+" = [0x2b] := rfl
  unfold formatE Numeral.text Numeral.signText Numeral.fracText Numeral.expText
  simp only [Decimal.numeral, hlead, List.map_eq_nil_iff, decide_eq_true_eq, text_minus, hpoint, hE, hplus]
  by_cases hexp : d.exponent < 0
  · cases negative <;> simp [hexp]
  · cases negative <;> simp [hexp]

/-! ## Addresses and byte strings -/

/-- A printable ASCII character other than a quote and a backslash. -/
def PlainChar (c : Char) : Prop := 0x20 ≤ c.toNat ∧ c.toNat < 0x7f ∧ c ≠ '"' ∧ c ≠ '\\'

instance : DecidablePred PlainChar := fun c =>
  inferInstanceAs (Decidable (0x20 ≤ c.toNat ∧ c.toNat < 0x7f ∧ c ≠ '"' ∧ c ≠ '\\'))

def PlainString (s : String) : Prop := ∀ c ∈ s.toList, PlainChar c

instance : DecidablePred PlainString := fun s => List.decidableBAll PlainChar s.toList

theorem utf8EncodeChar_plain {c : Char} (h : PlainChar c) : String.utf8EncodeChar c = [c.toNat.toUInt8] := by
  have hc : c.val.toNat ≤ 0x7f := Nat.le_of_lt h.2.1
  simp only [String.utf8EncodeChar, if_pos hc]
  rfl

theorem plain_toUInt8 {c : Char} (h : PlainChar c) : Json.Plain c.toNat.toUInt8 ∧ c.toNat.toUInt8 < 0x80 := by
  have hbytes : ∀ n < 0x7f, 0x20 ≤ n → n ≠ '"'.toNat → n ≠ '\\'.toNat →
      Json.Plain n.toUInt8 ∧ n.toUInt8 < 0x80 := by decide
  obtain ⟨hlow, hhigh, hquote, hback⟩ := h
  refine hbytes c.toNat hhigh hlow ?_ ?_
  · exact fun heq => hquote (Char.toNat_inj.mp heq)
  · exact fun heq => hback (Char.toNat_inj.mp heq)

theorem PlainString.plainText {s : String} (h : PlainString s) : PlainText (text s) := by
  unfold PlainString at h
  unfold text
  generalize s.toList = cs at h
  induction cs with
  | nil => decide
  | cons c cs ih =>
    obtain ⟨hc, hcs⟩ := List.forall_mem_cons.mp h
    obtain ⟨hplain, hlt⟩ := plain_toUInt8 hc
    obtain ⟨hall, hutf8⟩ := ih hcs
    rw [List.flatMap_cons, utf8EncodeChar_plain hc, List.singleton_append]
    refine ⟨List.forall_mem_cons.mpr ⟨hplain, hall⟩, ?_⟩
    rw [Json.utf8Valid.eq_def]
    simpa [hlt] using hutf8

theorem PlainString.append {s t : String} (hs : PlainString s) (ht : PlainString t) : PlainString (s ++ t) := by
  intro c hc
  rw [String.toList_append, List.mem_append] at hc
  exact hc.elim (hs c) (ht c)

theorem PlainString.ofList {cs : List Char} (h : ∀ c ∈ cs, PlainChar c) : PlainString (String.ofList cs) := by
  unfold PlainString
  rwa [String.toList_ofList]

theorem PlainString.intercalate {sep : String} {ss : List String} (hsep : PlainString sep)
    (h : ∀ s ∈ ss, PlainString s) : PlainString (sep.intercalate ss) := by
  unfold PlainString
  rw [String.toList_intercalate]
  induction ss with
  | nil => simp
  | cons s ss ih =>
    obtain ⟨hs, hss⟩ := List.forall_mem_cons.mp h
    match ss with
    | [] =>
      rw [List.map_singleton, List.intercalate_singleton]
      exact hs
    | s' :: ss =>
      intro c hc
      rw [List.map_cons, List.map_cons, List.intercalate_cons_cons, List.mem_append, List.mem_append] at hc
      rcases hc with (hc | hc) | hc
      · exact hs c hc
      · exact hsep c hc
      · exact ih hss c hc

theorem PlainString.join {ss : List String} (h : ∀ s ∈ ss, PlainString s) : PlainString (String.join ss) := by
  intro c hc
  rw [String.toList_join, List.mem_flatMap] at hc
  obtain ⟨s, hs, hc⟩ := hc
  exact h s hs c hc

theorem plainChar_digitChar {d : Nat} (h : d < 16) : PlainChar (Nat.digitChar d) := by
  decide +revert

theorem plainChar_toDigits {b n : Nat} (hb : 1 < b) (hb' : b ≤ 16) : ∀ c ∈ Nat.toDigits b n, PlainChar c := by
  induction n using Nat.strongRecOn with
  | _ n ih =>
    rw [Nat.toDigits_eq_if hb]
    split_ifs with hn
    · simpa using plainChar_digitChar (by omega)
    · intro c hc
      rcases List.mem_append.mp hc with hc | hc
      · exact ih (n / b) (Nat.div_lt_self (by omega) hb) c hc
      · rw [List.mem_singleton.mp hc]
        exact plainChar_digitChar (Nat.lt_of_lt_of_le (Nat.mod_lt n (by omega)) hb')

theorem plainString_hexString (b : List UInt8) : PlainString (IP.hexString b) := by
  apply PlainString.join
  intro s hs
  obtain ⟨x, -, rfl⟩ := List.mem_map.mp hs
  apply PlainString.ofList
  have hx := x.toNat_lt
  simp only [List.forall_mem_cons, List.not_mem_nil, false_imp_iff, implies_true, and_true]
  exact ⟨plainChar_digitChar (by omega), plainChar_digitChar (by omega)⟩

theorem plainString_hardwareAddrString (b : List UInt8) : PlainString (hardwareAddrString b) := by
  apply PlainString.intercalate (by decide)
  intro s hs
  obtain ⟨x, -, rfl⟩ := List.mem_map.mp hs
  exact plainString_hexString [x]

theorem plainString_groups (gs : List Nat) : PlainString (":".intercalate (gs.map IP.hexDigits)) := by
  apply PlainString.intercalate (by decide)
  intro s hs
  obtain ⟨n, -, rfl⟩ := List.mem_map.mp hs
  exact PlainString.ofList (plainChar_toDigits (by decide) (by decide))

theorem plainString_ip (ip : IP) : PlainString ip.string := by
  unfold IP.string
  by_cases hnil : ip.length = 0
  · rw [if_pos hnil]
    decide
  · rw [if_neg hnil]
    split
    · apply PlainString.intercalate (by decide)
      intro s hs
      obtain ⟨x, -, rfl⟩ := List.mem_map.mp hs
      exact PlainString.ofList (plainChar_toDigits (by decide) (by decide))
    · split_ifs with hlen
      · exact PlainString.append (by decide) (plainString_hexString ip)
      · dsimp only
        split_ifs with hrun
        · exact plainString_groups _
        · exact ((plainString_groups _).append (by decide)).append (plainString_groups _)

end VFlow
