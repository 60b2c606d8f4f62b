import VFlow.Base.Json
import Mathlib.Data.List.TakeWhile

/-!
# Format strings without arguments

What `Fprintf` writes for a format string alone. A percent sign starts a directive: `%%` gives one percent sign, and
every other directive asks for an argument that is not there and gives an error text. So the format string is
written as it is exactly when it has no percent sign, which is all that is assumed of a `Printf`.

`bare` are the directives without flags, width and precision. That none of its outputs is its format string is not
a matter of lengths, since `%%` gets shorter and a verb longer: a format string that starts with a verb would have to
repeat the error text without end (`append_bare_ne`), and one that starts with `%%` would have to be percent signs
only (`bare_ne_percents`).
-/

namespace Format

open Json (text)

def percent : UInt8 := 0x25

/-- `Fprintf` with no arguments. -/
structure Printf where
  sprintf : List UInt8 → List UInt8
  verbatim : ∀ w, percent ∉ w → sprintf w = w
  replaces : ∀ w, percent ∈ w → sprintf w ≠ w

theorem Printf.sprintf_eq_self_iff (p : Printf) {w : List UInt8} : p.sprintf w = w ↔ percent ∉ w :=
  ⟨fun h hmem => p.replaces w hmem h, p.verbatim w⟩

/-! ## The directives of one byte -/

def noVerb : List UInt8 := text "%!(NOVERB)"

def missingArg (verb : UInt8) : List UInt8 := text "%!" ++ verb :: text "(MISSING)"

def bare : List UInt8 → List UInt8
  | [] => []
  | [c] => if c = percent then noVerb else [c]
  | c :: verb :: w =>
    if c = percent then
      if verb = percent then percent :: bare w else missingArg verb ++ bare w
    else c :: bare (verb :: w)

theorem missingArg_eq (verb : UInt8) :
    missingArg verb = percent :: 0x21 :: verb :: [0x28, 0x4d, 0x49, 0x53, 0x53, 0x49, 0x4e, 0x47, 0x29] := by
  rfl

theorem bare_verbatim {w : List UInt8} (h : percent ∉ w) : bare w = w := by
  fun_induction bare w <;> grind

theorem takeWhile_bare (w : List UInt8) : (bare w).takeWhile (· != percent) = w.takeWhile (· != percent) := by
  fun_induction bare w with
  | case1 => rfl
  | case2 => rfl
  | case3 => rfl
  | case4 => rfl
  | case5 => rfl
  | case6 c verb w hc ih => rw [List.takeWhile_cons (a := c), ih, List.takeWhile_cons (a := c)]

theorem append_bare_ne {a w : List UInt8} (ha : a ≠ []) (hpercent : percent ∉ a) : a ++ bare w ≠ w := by
  intro h
  have hprefix := congrArg (List.takeWhile (· != percent)) h
  have htext : ∀ c ∈ a, (c != percent) = true := by
    intro c hc
    exact bne_iff_ne.mpr (ne_of_mem_of_not_mem hc hpercent)
  rw [List.takeWhile_append_of_pos htext, takeWhile_bare] at hprefix
  exact ha (List.append_left_eq_self.mp hprefix)

theorem percents_cons (k : Nat) (w : List UInt8) :
    List.replicate k percent ++ percent :: w = percent :: (List.replicate k percent ++ w) := by
  rw [List.append_cons, ← List.replicate_succ', List.replicate_succ, List.cons_append]

theorem bare_ne_percents (k : Nat) (w : List UInt8) : bare w ≠ List.replicate (k + 1) percent ++ w := by
  intro h
  fun_induction bare w generalizing k with
  | case1 => cases h
  | case2 =>
    rw [percents_cons] at h
    cases h
  | case3 c hc => exact hc (List.cons.inj h).1
  | case4 w ih =>
    rw [percents_cons, percents_cons] at h
    exact ih (k + 1) (List.cons.inj h).2
  | case5 verb w hverb ih =>
    rw [percents_cons] at h
    cases h
  | case6 c verb w hc ih => exact hc (List.cons.inj h).1

theorem bare_replaces {w : List UInt8} (hmem : percent ∈ w) : bare w ≠ w := by
  intro h
  fun_induction bare w with
  | case1 => cases hmem
  | case2 => cases h
  | case3 c hc => exact hc (List.mem_singleton.mp hmem).symm
  | case4 w ih => exact bare_ne_percents 0 w (List.cons.inj h).2
  | case5 verb w hverb ih =>
    -- The verb is `!`, the second byte of the error text, and the rest of the error text follows.
    rw [missingArg_eq, List.cons_append, List.cons_append, List.cons.injEq, List.cons.injEq] at h
    refine append_bare_ne (List.cons_ne_nil _ _) ?_ h.2.2
    rw [← h.2.1]
    decide
  | case6 c verb w hc ih =>
    exact ih ((List.mem_cons.mp hmem).resolve_left (Ne.symm hc)) (List.cons.inj h).2

def barePrintf : Printf where
  sprintf := bare
  verbatim _ := bare_verbatim
  replaces _ := bare_replaces

end Format
