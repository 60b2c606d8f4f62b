import VFlow.Base.Chan
import VFlow.Base.Runs

/-!
# The Kafka producer

`inputMsg` takes a message from the channel of the collector, and waits in a `select` until the asynchronous
producer takes the message on its `Input` channel or has an event on its `Errors` channel. What the producer is
ready for is not known: both can happen in every select, so that the runs of `step` are all the interleavings.

The select is left after one event, also when it was an error. Then the message is gone: in every state the
messages that are done with are those submitted and one for each error (`Accounted`). So nothing is lost exactly in
the runs without an error event: `inputMsg_submits_all_iff`.
-/

namespace VFlow.Producer

/-- `sarama.ProducerMessage`, with the fields that are set here. -/
structure ProducerMessage where
  topic : String
  value : List UInt8
  deriving DecidableEq

namespace Kafka

inductive Phase where
  /-- At the receive from `mCh`. -/
  | receive
  | select (msg : List UInt8)
  /-- After the loop. -/
  | close
  | returned

/-- `inputMsg` with its channel and the counter `ec`; `taken`, `submitted` and `logged` are what it has received
from `mCh`, has sent to `Input`, and has received from `Errors` so far. -/
structure State (E : Type) where
  mCh : Chan (List UInt8)
  ec : UInt64
  phase : Phase := .receive
  taken : List (List UInt8) := []
  submitted : List ProducerMessage := []
  logged : List E := []

inductive Action (E : Type) where
  /-- A worker of the collector sends a message, which is dropped when the channel is full. -/
  | publish (msg : List UInt8)
  /-- `Producer.Shutdown`. -/
  | shutdown
  | receive
  /-- The select takes the case of `Input`. -/
  | input
  /-- The select takes the case of `Errors`. -/
  | error (err : E)
  | close

variable {E : Type}

def step (topic : String) (s : State E) : Action E → Option (State E)
  | .publish msg =>
    if s.mCh.closed then none
    else some { s with mCh := (s.mCh.send msg).getD s.mCh }
  | .shutdown => s.mCh.close.map fun mCh => { s with mCh }
  | .receive =>
    match s.phase, s.mCh.recv with
    | .receive, some (some msg, mCh) => some { s with mCh, phase := .select msg, taken := s.taken ++ [msg] }
    | .receive, some (none, mCh) => some { s with mCh, phase := .close }
    | _, _ => none
  | .input =>
    match s.phase with
    | .select msg => some { s with phase := .receive, submitted := s.submitted ++ [{ topic, value := msg }] }
    | _ => none
  | .error err =>
    match s.phase with
    | .select _ => some { s with phase := .receive, logged := s.logged ++ [err], ec := s.ec + 1 }
    | _ => none
  | .close =>
    match s.phase with
    | .close => some { s with phase := .returned }
    | _ => none

inductive Step (topic : String) (s : State E) : Action E → State E → Prop
  | publish (msg : List UInt8) (hopen : s.mCh.closed = false) :
      Step topic s (.publish msg) { s with mCh := (s.mCh.send msg).getD s.mCh }
  | shutdown {mCh : Chan (List UInt8)} (hclose : s.mCh.close = some mCh) : Step topic s .shutdown { s with mCh }
  | take {msg : List UInt8} {mCh : Chan (List UInt8)} (hphase : s.phase = .receive)
      (hrecv : s.mCh.recv = some (some msg, mCh)) :
      Step topic s .receive { s with mCh, phase := .select msg, taken := s.taken ++ [msg] }
  | drained {mCh : Chan (List UInt8)} (hphase : s.phase = .receive) (hrecv : s.mCh.recv = some (none, mCh)) :
      Step topic s .receive { s with mCh, phase := .close }
  | input {msg : List UInt8} (hphase : s.phase = .select msg) :
      Step topic s .input { s with phase := .receive, submitted := s.submitted ++ [{ topic, value := msg }] }
  | error {msg : List UInt8} (err : E) (hphase : s.phase = .select msg) :
      Step topic s (.error err) { s with phase := .receive, logged := s.logged ++ [err], ec := s.ec + 1 }
  | close (hphase : s.phase = .close) : Step topic s .close { s with phase := .returned }

variable {topic : String} {ec : UInt64} {as : List (Action E)} {s t : State E} {a : Action E}

theorem step_eq_some : step topic s a = some t ↔ Step topic s a t := by
  constructor
  · intro h
    cases a with
    | publish msg =>
      simp only [step] at h
      split at h
      · cases h
      · cases h
        exact .publish msg (by simpa using (by assumption : ¬ s.mCh.closed = true))
    | shutdown =>
      obtain ⟨mCh, hclose, rfl⟩ := Option.map_eq_some_iff.mp h
      exact .shutdown hclose
    | receive =>
      simp only [step] at h
      split at h
      · cases h
        exact .take (by assumption) (by assumption)
      · cases h
        exact .drained (by assumption) (by assumption)
      · cases h
    | input =>
      simp only [step] at h
      split at h
      · cases h
        exact .input (by assumption)
      · cases h
    | error err =>
      simp only [step] at h
      split at h
      · cases h
        exact .error err (by assumption)
      · cases h
    | close =>
      simp only [step] at h
      split at h
      · cases h
        exact .close (by assumption)
      · cases h
  · intro h
    cases h with
    | publish msg hopen => simp [step, hopen]
    | shutdown hclose => simp [step, hclose]
    | take hphase hrecv => simp only [step, hphase, hrecv]
    | drained hphase hrecv => simp only [step, hphase, hrecv]
    | input hphase => simp only [step, hphase]
    | error err hphase => simp only [step, hphase]
    | close hphase => simp only [step, hphase]

/-! ## Messages and errors -/

def Phase.pending : Phase → List (List UInt8)
  | .select msg => [msg]
  | _ => []

def Action.errors : Action E → List E
  | .error err => [err]
  | _ => []

/-- Of the messages that are done with, some have been submitted, in order, and there was an error event for each
of the others. -/
def Accounted (topic : String) (s : State E) : Prop :=
  ∃ done, s.taken = done ++ s.phase.pending ∧ s.submitted.Sublist (done.map fun value => { topic, value }) ∧
    done.length = s.submitted.length + s.logged.length

theorem Accounted.step (h : Accounted topic s) (hstep : Step topic s a t) : Accounted topic t := by
  obtain ⟨done, htaken, hsub, hlen⟩ := h
  cases hstep with
  | publish msg hopen => exact ⟨done, htaken, hsub, hlen⟩
  | shutdown hclose => exact ⟨done, htaken, hsub, hlen⟩
  | @take msg mCh hphase hrecv =>
    simp only [hphase, Phase.pending, List.append_nil] at htaken
    exact ⟨done, congrArg (· ++ [msg]) htaken, hsub, hlen⟩
  | drained hphase hrecv =>
    rw [hphase] at htaken
    exact ⟨done, htaken, hsub, hlen⟩
  | input hphase =>
    rw [hphase, Phase.pending] at htaken
    refine ⟨s.taken, (List.append_nil _).symm, ?_, ?_⟩
    · rw [htaken, List.map_append]
      exact hsub.append (List.Sublist.refl _)
    · simp only [htaken, List.length_append, List.length_singleton]
      omega
  | error err hphase =>
    rw [hphase, Phase.pending] at htaken
    refine ⟨s.taken, (List.append_nil _).symm, ?_, ?_⟩
    · rw [htaken, List.map_append]
      exact hsub.trans (List.sublist_append_left _ _)
    · simp only [htaken, List.length_append, List.length_singleton]
      omega
  | close hphase =>
    rw [hphase] at htaken
    exact ⟨done, htaken, hsub, hlen⟩

theorem Step.logged (h : Step topic s a t) : t.logged = s.logged ++ a.errors := by
  cases h <;> simp [Action.errors]

theorem Step.counted (h : Step topic s a t) : t.ec = s.ec + UInt64.ofNat a.errors.length := by
  cases h <;> simp [Action.errors]

theorem errors_of_runs {mCh : Chan (List UInt8)} (h : Runs (Step topic) ({ mCh, ec } : State E) as s) :
    s.logged = as.flatMap Action.errors ∧ s.ec = ec + UInt64.ofNat s.logged.length := by
  refine Runs.history (P := fun as s => s.logged = as.flatMap Action.errors ∧ s.ec = ec + UInt64.ofNat s.logged.length)
    ⟨rfl, by simp⟩ ?_ h
  rintro as s a t - ⟨hlogged, hec⟩ hstep
  rw [hstep.counted, hec, hstep.logged]
  refine ⟨by rw [hlogged, List.flatMap_append, List.flatMap_singleton], ?_⟩
  rw [List.length_append, UInt64.ofNat_add, UInt64.add_assoc]

/-- **Messages that are lost.** Whatever order the events come in, `inputMsg` has counted the error events when it
returns. It has submitted the messages that it has taken, each once and in order, exactly if there was no such
event; otherwise one message is missing for each. -/
theorem inputMsg_submits_all_iff {mCh : Chan (List UInt8)} (h : Runs (Step topic) ({ mCh, ec } : State E) as s)
    (hreturned : s.phase = .returned) :
    (s.submitted = s.taken.map (fun value => { topic, value }) ↔ ∀ err, Action.error err ∉ as) ∧
    s.taken.length = s.submitted.length + (as.flatMap Action.errors).length ∧
    s.ec = ec + UInt64.ofNat (as.flatMap Action.errors).length := by
  have hstart : Accounted topic ({ mCh, ec } : State E) := ⟨[], rfl, .slnil, rfl⟩
  obtain ⟨done, htaken, hsub, hlen⟩ := h.invariant (fun _ _ _ _ hs hstep => hs.step hstep) hstart
  obtain ⟨hlogged, hec⟩ := errors_of_runs h
  simp only [hreturned, Phase.pending, List.append_nil] at htaken
  subst htaken
  rw [← hlogged]
  refine ⟨?_, hlen, hec⟩
  have hnone : (∀ err, Action.error err ∉ as) ↔ s.logged = [] := by
    rw [hlogged, List.flatMap_eq_nil_iff]
    constructor
    · intro hno a ha
      cases a with
      | error err => exact absurd ha (hno err)
      | _ => rfl
    · intro hno err herr
      cases hno _ herr
  rw [hnone, ← List.length_eq_zero_iff]
  constructor
  · intro heq
    rw [heq, List.length_map] at hlen
    omega
  · intro hzero
    exact hsub.eq_of_length (by rw [List.length_map]; omega)

/-- Two messages are published. The first one is submitted, and refused by the brokers later. -/
def refusedRun : List (Action String) :=
  [.publish [1], .publish [2], .shutdown, .receive, .input, .receive, .error "message too large", .receive, .close]

theorem inputMsg_submits_all_published :
    ∃ s : State String, Runs (Step "vflow.ipfix") { mCh := .make _ 1000, ec := 0 }
        [.publish [1], .publish [2], .shutdown, .receive, .input, .receive, .input, .receive, .close] s ∧
      s.phase = .returned ∧ s.taken = [[1], [2]] ∧
      s.submitted = s.taken.map (fun value => { topic := "vflow.ipfix", value }) ∧ s.ec = 0 := by
  obtain ⟨s, hs, hphase, htaken⟩ : ∃ s : State String,
      [.publish [1], .publish [2], .shutdown, .receive, .input, .receive, .input, .receive, .close].foldlM
        (step "vflow.ipfix") { mCh := .make _ 1000, ec := 0 } = some s ∧
      s.phase = .returned ∧ s.taken = [[1], [2]] := ⟨_, rfl, rfl, rfl⟩
  have hrun := (Runs.foldlM_iff fun _ _ _ => step_eq_some).mp hs
  obtain ⟨hsubmitted, -, hec⟩ := inputMsg_submits_all_iff hrun hphase
  exact ⟨s, hrun, hphase, htaken, hsubmitted.mpr (by simp), hec⟩

/-- The error event of the first message takes the place of the second one, which is never submitted. -/
theorem inputMsg_drops_message :
    ∃ s : State String, Runs (Step "vflow.ipfix") { mCh := .make _ 1000, ec := 0 } refusedRun s ∧
      s.phase = .returned ∧ s.taken = [[1], [2]] ∧ s.submitted = [{ topic := "vflow.ipfix", value := [1] }] ∧
      s.ec = 1 := by
  obtain ⟨s, hs, hrest⟩ : ∃ s : State String,
      refusedRun.foldlM (step "vflow.ipfix") { mCh := .make _ 1000, ec := 0 } = some s ∧ s.phase = .returned ∧
      s.taken = [[1], [2]] ∧ s.submitted = [{ topic := "vflow.ipfix", value := [1] }] ∧ s.ec = 1 :=
    ⟨_, rfl, rfl, rfl, rfl, rfl⟩
  exact ⟨s, (Runs.foldlM_iff fun _ _ _ => step_eq_some).mp hs, hrest⟩

end Kafka

end VFlow.Producer
