import Mathlib.Data.List.Induction
import Mathlib.Data.List.Nodup

/-!
# Registries with expiry

A registry has the time at which each of its keys was touched last. A sweep at the time `now` gives the keys that were
touched less than `ttl` ago and forgets the others. What was forgotten need not be remembered as long as the clock does
not go back: a sweep gives exactly the keys that were touched at all less than `ttl` ago (`mem_live_iff`).
-/

structure Registry (K : Type) where
  entries : List (K × Int)
  nodup : (entries.map Prod.fst).Nodup

namespace Registry

variable {K : Type}

def empty : Registry K := ⟨[], .nil⟩

/-- The keys that were touched less than `ttl` ago. -/
def live (ttl now : Int) (r : Registry K) : List K := (r.entries.filter (now - ·.2 < ttl)).map Prod.fst

def sweep (ttl now : Int) (r : Registry K) : Registry K where
  entries := r.entries.filter (now - ·.2 < ttl)
  nodup := r.nodup.sublist (List.filter_sublist.map _)

theorem mem_live {ttl now : Int} {r : Registry K} {k : K} :
    k ∈ r.live ttl now ↔ ∃ t, (k, t) ∈ r.entries ∧ now - t < ttl := by
  simp [live]

theorem mem_sweep {ttl now t : Int} {r : Registry K} {k : K} :
    (k, t) ∈ (r.sweep ttl now).entries ↔ (k, t) ∈ r.entries ∧ now - t < ttl := by
  simp [sweep]

inductive Event (K : Type) where
  | touch (k : K) (t : Int)
  | sweep (now : Int)

def Event.time : Event K → Int
  | touch _ t => t
  | sweep now => now

section runs

variable [DecidableEq K] (ttl : Int)

def touch (r : Registry K) (k : K) (t : Int) : Registry K where
  entries := (k, t) :: r.entries.filter (·.1 ≠ k)
  nodup := by
    rw [List.map_cons, List.nodup_cons]
    refine ⟨fun hmem => ?_, r.nodup.sublist (List.filter_sublist.map _)⟩
    obtain ⟨e, he, rfl⟩ := List.mem_map.mp hmem
    exact absurd rfl (of_decide_eq_true (List.mem_filter.mp he).2)

def next (r : Registry K) : Event K → Registry K
  | .touch k t => r.touch k t
  | .sweep now => r.sweep ttl now

def run (es : List (Event K)) : Registry K := es.foldl (next ttl) empty

variable {ttl}

theorem run_snoc (es : List (Event K)) (e : Event K) : run ttl (es ++ [e]) = (run ttl es).next ttl e := by
  rw [run, List.foldl_append]
  rfl

theorem mem_touch {r : Registry K} {k k' : K} {t t' : Int} :
    (k', t') ∈ (r.touch k t).entries ↔ (k' = k ∧ t' = t) ∨ (k', t') ∈ r.entries ∧ k' ≠ k := by
  simp [touch]

theorem touched_of_mem {es : List (Event K)} {k : K} {t : Int} (h : (k, t) ∈ (run ttl es).entries) :
    .touch k t ∈ es := by
  induction es using List.reverseRecOn with
  | nil => cases h
  | append_singleton es e ih =>
    rw [run_snoc] at h
    cases e with
    | touch k' t' =>
      rcases mem_touch.mp h with ⟨rfl, rfl⟩ | ⟨hmem, -⟩
      · simp
      · exact List.mem_append_left _ (ih hmem)
    | sweep now => exact List.mem_append_left _ (ih (mem_sweep.mp h).1)

/-- Every touch is an entry, or was followed by a later one of the key, or has expired at a sweep. -/
theorem mem_of_touched {es : List (Event K)} (hclock : (es.map Event.time).Pairwise (· ≤ ·)) {k : K} {t : Int}
    (h : .touch k t ∈ es) :
    (∃ t', (k, t') ∈ (run ttl es).entries ∧ t ≤ t') ∨ ∃ now, .sweep now ∈ es ∧ ttl ≤ now - t := by
  induction es using List.reverseRecOn with
  | nil => cases h
  | append_singleton es e ih =>
    rw [List.map_append, List.pairwise_append] at hclock
    obtain ⟨hbefore, -, hlast⟩ := hclock
    have hle : ∀ e' ∈ es, e'.time ≤ e.time := fun e' he' => hlast _ (List.mem_map_of_mem he') _ (by simp)
    rw [run_snoc]
    rcases List.mem_append.mp h with hmem | hmem
    · rcases ih hbefore hmem with ⟨t', ht', htt'⟩ | ⟨now, hnow, hexp⟩
      · cases e with
        | touch k' t₁ =>
          by_cases hk : k = k'
          · exact .inl ⟨t₁, mem_touch.mpr (.inl ⟨hk, rfl⟩), hle _ hmem⟩
          · exact .inl ⟨t', mem_touch.mpr (.inr ⟨ht', hk⟩), htt'⟩
        | sweep now =>
          by_cases hlive : now - t' < ttl
          · exact .inl ⟨t', mem_sweep.mpr ⟨ht', hlive⟩, htt'⟩
          · exact .inr ⟨now, by simp, by omega⟩
      · exact .inr ⟨now, List.mem_append_left _ hnow, hexp⟩
    · obtain rfl := List.mem_singleton.mp hmem
      exact .inl ⟨t, mem_touch.mpr (.inl ⟨rfl, rfl⟩), Int.le_refl t⟩

/-- **A sweep gives the keys that were touched less than `ttl` ago.** -/
theorem mem_live_iff {es : List (Event K)} {now : Int} (hclock : (es.map Event.time).Pairwise (· ≤ ·))
    (hnow : ∀ e ∈ es, e.time ≤ now) {k : K} :
    k ∈ (run ttl es).live ttl now ↔ ∃ t, .touch k t ∈ es ∧ now - t < ttl := by
  rw [mem_live]
  constructor
  · rintro ⟨t, ht, hlive⟩
    exact ⟨t, touched_of_mem ht, hlive⟩
  · rintro ⟨t, ht, hlive⟩
    rcases mem_of_touched hclock ht with ⟨t', ht', htt'⟩ | ⟨now', hnow', hexp⟩
    · exact ⟨t', ht', by omega⟩
    · have hle : now' ≤ now := hnow _ hnow'
      omega

end runs

end Registry
