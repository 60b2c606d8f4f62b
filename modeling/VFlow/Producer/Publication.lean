import VFlow.Producer.Kafka
import VFlow.Producer.RawSocket

/-!
# What the producers count

Each producer takes a message, tries to hand it over, and increases `*ec` for every error that it meets meanwhile. NATS,
NSQ and Kafka go on with the next message after an error, whereas the raw socket tries again, so that a message can
have several errors, also one that is handed over in the end. A message that is given up has one at least.
-/

namespace VFlow.Producer

/-- How a producer was done with a message. -/
structure Publication where
  /-- The message was handed over. -/
  ok : Bool
  /-- By how much `*ec` was increased. -/
  errors : Nat
  pos_of_not_ok : ok = false → 0 < errors

/-- The message was handed over at once. -/
def Publication.done : Publication := ⟨true, 0, Bool.noConfusion⟩

/-- The message was given up after an error. -/
def Publication.refused : Publication := ⟨false, 1, fun _ => Nat.one_pos⟩

/-- A message of NATS or NSQ, with the error of `Publish`. -/
def publish : Option String → Publication
  | none => .done
  | some _ => .refused

namespace Kafka

/-- The case that the `select` takes. -/
def publication {E : Type} : Action E → Option Publication
  | .input => some .done
  | .error _ => some .refused
  | _ => none

theorem publication_of_step {E : Type} {topic : String} {s t : State E} {a : Action E} {p : Publication}
    (h : Step topic s a t) (hp : publication a = some p) :
    ∃ msg, s.phase = .select msg ∧ t.ec = s.ec + UInt64.ofNat p.errors ∧
      t.submitted = s.submitted ++ if p.ok then [{ topic, value := msg }] else [] := by
  cases h with
  | @input msg hphase =>
    cases hp
    exact ⟨msg, hphase, by simp [Publication.done], rfl⟩
  | @error msg err hphase =>
    cases hp
    exact ⟨msg, hphase, rfl, (List.append_nil _).symm⟩
  | _ => cases hp

end Kafka

namespace RawSocket

theorem failures_pos (write : Nat → Option String) (n k : Nat)
    (h : (attempts write (n + 1) k).any Option.isNone = false) : 0 < failures (attempts write (n + 1) k) := by
  cases hwrite : write k with
  | none => simp [attempts, hwrite] at h
  | some err => simp [attempts, hwrite, failures]

theorem any_isNone (l : List (Option String)) : l.any Option.isNone = true ↔ none ∈ l := by
  simp

/-- A message that is tried from the `k`-th write on. -/
def publication (write : Nat → Option String) (maxRetry k : Nat) : Publication where
  ok := (attempts write (maxRetry + 1) k).any Option.isNone
  errors := failures (attempts write (maxRetry + 1) k)
  pos_of_not_ok := failures_pos write maxRetry k

theorem publication_of_deliver (fmt : Format.Printf) (net : Network) {config : Config} {maxRetry : Nat}
    (hmax : config.maxRetry = maxRetry) (s : State) (msg : List UInt8) :
    ∃ s', (∀ fuel > maxRetry, deliver fmt net config fuel s msg = some s') ∧
      s'.ec = s.ec + UInt64.ofNat (publication net.write maxRetry s.writes).errors ∧
      s'.sent.map Prod.snd = s.sent.map Prod.snd ++
        if (publication net.write maxRetry s.writes).ok then [fmt.sprintf (msg ++ [newline])] else [] := by
  obtain ⟨s', hrun, hs'⟩ := run_attempt fmt net hmax msg (Nat.zero_add maxRetry) s
  refine ⟨s', hrun, hs'.ec, ?_⟩
  rw [hs'.sent]
  simp only [publication, any_isNone]

end RawSocket

end VFlow.Producer
