import Mathlib.Data.List.Perm.Subperm
import Mathlib.Logic.Function.Basic
import Mathlib.Tactic.Common

/-!
# Ledgers

Things that come into a system are numbered as they come. A ledger says who has which number now, and which
numbers have been used up, in order: nobody shares a number, and no number is used twice. `issue`, `pass`, `spend`
and `drop` are what can happen to one.

The ledger is not part of the system. An invariant says that there is one that fits the state, and at the end of a
run it shows that what came out are some of the things that came in, each at most once (`Ledger.subperm`).
-/

/-- `tok h` is the number that `h` has, `used` are the numbers that are used up, and `n` were issued. -/
structure Ledger {H : Type} (tok : H → Option Nat) (used : List Nat) (n : Nat) : Prop where
  lt : ∀ h k, tok h = some k → k < n
  used_lt : ∀ k ∈ used, k < n
  unique : ∀ h h' k, tok h = some k → tok h' = some k → h = h'
  unused : ∀ h k, tok h = some k → k ∉ used
  nodup : used.Nodup

namespace Ledger

variable {H α : Type} {tok : H → Option Nat} {used : List Nat} {n k : Nat} {h : H}

theorem empty : Ledger (fun _ : H => none) [] 0 where
  lt _ _ hk := nomatch hk
  used_lt _ hk := nomatch hk
  unique _ _ _ hk := nomatch hk
  unused _ _ hk := nomatch hk
  nodup := List.nodup_nil

section update

variable [DecidableEq H]

theorem update_eq_some {o : Option Nat} {x : H} : Function.update tok h o x = some k ↔
    x = h ∧ o = some k ∨ x ≠ h ∧ tok x = some k := by
  by_cases hx : x = h
  · subst hx
    simp
  · simp [hx]

theorem drop (hl : Ledger tok used n) (h : H) : Ledger (Function.update tok h none) used n := by
  have hold : ∀ x k, Function.update tok h none x = some k → tok x = some k := by
    intro x k hx
    rcases update_eq_some.mp hx with ⟨-, hk⟩ | ⟨-, hk⟩
    · cases hk
    · exact hk
  refine ⟨fun x k hx => hl.lt x k (hold x k hx), hl.used_lt, fun x y k hx hy => ?_, fun x k hx => ?_, hl.nodup⟩
  · exact hl.unique x y k (hold x k hx) (hold y k hy)
  · exact hl.unused x k (hold x k hx)

theorem issue (hl : Ledger tok used n) (h : H) : Ledger (Function.update tok h (some n)) used (n + 1) where
  lt x k hx := by
    rcases update_eq_some.mp hx with ⟨-, hk⟩ | ⟨-, hk⟩
    · cases hk
      exact Nat.lt_succ_self _
    · exact Nat.lt_succ_of_lt (hl.lt x k hk)
  used_lt k hk := Nat.lt_succ_of_lt (hl.used_lt k hk)
  unique x y k hx hy := by
    rcases update_eq_some.mp hx with ⟨rfl, hk⟩ | ⟨-, hk⟩
    · rcases update_eq_some.mp hy with ⟨rfl, -⟩ | ⟨-, hk'⟩
      · rfl
      · cases hk
        exact absurd (hl.lt y _ hk') (Nat.lt_irrefl _)
    · rcases update_eq_some.mp hy with ⟨rfl, hk'⟩ | ⟨-, hk'⟩
      · cases hk'
        exact absurd (hl.lt x _ hk) (Nat.lt_irrefl _)
      · exact hl.unique x y k hk hk'
  unused x k hx hmem := by
    rcases update_eq_some.mp hx with ⟨-, hk⟩ | ⟨-, hk⟩
    · cases hk
      exact Nat.lt_irrefl _ (hl.used_lt _ hmem)
    · exact hl.unused x k hk hmem
  nodup := hl.nodup

theorem pass (hl : Ledger tok used n) (hk : tok h = some k) (h' : H) :
    Ledger (Function.update (Function.update tok h none) h' (some k)) used n := by
  have hdrop := hl.drop h
  -- nobody but `h` had the number
  have hnobody : ∀ x, Function.update tok h none x ≠ some k := by
    intro x hx
    rcases update_eq_some.mp hx with ⟨-, hk'⟩ | ⟨hne, hk'⟩
    · cases hk'
    · exact hne (hl.unique x h k hk' hk)
  refine ⟨fun x j hx => ?_, hl.used_lt, fun x y j hx hy => ?_, fun x j hx => ?_, hl.nodup⟩
  · rcases update_eq_some.mp hx with ⟨-, hj⟩ | ⟨-, hj⟩
    · cases hj
      exact hl.lt h k hk
    · exact hdrop.lt x j hj
  · rcases update_eq_some.mp hx with ⟨rfl, hj⟩ | ⟨-, hj⟩
    · cases hj
      rcases update_eq_some.mp hy with ⟨rfl, -⟩ | ⟨-, hj'⟩
      · rfl
      · exact absurd hj' (hnobody y)
    · rcases update_eq_some.mp hy with ⟨rfl, hj'⟩ | ⟨-, hj'⟩
      · cases hj'
        exact absurd hj (hnobody x)
      · exact hdrop.unique x y j hj hj'
  · rcases update_eq_some.mp hx with ⟨-, hj⟩ | ⟨-, hj⟩
    · cases hj
      exact hl.unused h k hk
    · exact hdrop.unused x j hj

theorem spend (hl : Ledger tok used n) (hk : tok h = some k) :
    Ledger (Function.update tok h none) (used ++ [k]) n := by
  have hdrop := hl.drop h
  refine ⟨hdrop.lt, fun j hj => ?_, hdrop.unique, fun x j hx hmem => ?_, ?_⟩
  · rcases List.mem_append.mp hj with hj | hj
    · exact hl.used_lt j hj
    · rw [List.mem_singleton.mp hj]
      exact hl.lt h k hk
  · rcases update_eq_some.mp hx with ⟨-, hj⟩ | ⟨hne, hj⟩
    · cases hj
    · rcases List.mem_append.mp hmem with hmem | hmem
      · exact hl.unused x j hj hmem
      · rw [List.mem_singleton.mp hmem] at hj
        exact hne (hl.unique x h k hj hk)
  · rw [List.nodup_append]
    refine ⟨hl.nodup, by simp, fun a ha b hb => ?_⟩
    rw [List.mem_singleton.mp hb]
    rintro rfl
    exact hl.unused h a hk ha

end update

theorem subperm {items : List α} (hl : Ledger tok used items.length) :
    (used.filterMap fun k => items[k]?).Subperm items := by
  have hrange : used.Subperm (List.range items.length) :=
    List.subperm_of_subset hl.nodup fun k hk => List.mem_range.mpr (hl.used_lt k hk)
  have hitems : (List.range items.length).filterMap (fun k => items[k]?) = items := by
    have hmap : (List.range items.length).map (fun k => items[k]?) = items.map some := by
      refine List.ext_getElem (by simp) fun i _ hi => ?_
      rw [List.length_map] at hi
      simp [hi]
    calc (List.range items.length).filterMap (fun k => items[k]?)
        = ((List.range items.length).map fun k => items[k]?).filterMap id := by rw [List.filterMap_map]; rfl
      _ = items := by rw [hmap, List.filterMap_map, Function.id_comp, List.filterMap_some]
  obtain ⟨l, hperm, hsub⟩ := hrange
  have hout := hsub.filterMap fun k => items[k]?
  rw [hitems] at hout
  exact ⟨_, hperm.filterMap _, hout⟩

end Ledger
