import VFlow.Base.Format
import VFlow.Base.Loop

/-!
# The raw socket producer

`inputMsg` writes every message of its channel to the connection, with a newline behind it, and tries a write that
fails again until `MaxRetry` retries are used. What the network does is a given: the outcome of every write (a write
fails as a whole or not at all) and of every dial after a broken pipe. The outcomes of the writes that are made for
one message are its `attempts`, cut after the first that succeeds, and a run of `inputMsg` adds up what each message
does to the state (`Handled`), so that the error counter is right in every run.

The message is the format string of `Fprintf`. What is written is the message exactly if the message has no percent
sign: `inputMsg_verbatim_iff`.
-/

namespace VFlow.Producer.RawSocket

open Format (percent Printf)

def newline : UInt8 := 0x0a

structure Config where
  url : String := "localhost:9555"
  protocol : String := "tcp"
  maxRetry : Int := 2

/-- What comes of the writes and of the dials in `inputMsg`, in their order: the text of the error, if any. -/
structure Network where
  write : Nat → Option String
  dial : Nat → Option String

/-- The producer in `inputMsg`. The connections are numbered in the order they are made, and `sent` is what has been
written, with the connection it was written to; `writes` and `dials` count what has been tried. -/
structure State where
  connection : Nat := 0
  writes : Nat := 0
  dials : Nat := 0
  sent : List (Nat × List UInt8) := []
  ec : UInt64
  logged : List String := []
  deriving DecidableEq

def State.println (s : State) (line : String) : State := { s with logged := s.logged ++ [line] }

def State.write (s : State) (w : List UInt8) : State :=
  { s with writes := s.writes + 1, sent := s.sent ++ [(s.connection, w)] }

def brokenPipe (err : String) : Bool := "broken pipe".toList.isSuffixOf err.toList

section inputMsg
variable (fmt : Printf) (net : Network) (config : Config)

/-- The dial after a broken pipe. Its error has a variable of its own, so that `err` remains that of the write. -/
def reconnect (s : State) : State :=
  match net.dial s.dials with
  | some err => { s with dials := s.dials + 1 }.println ("Error when attempting to fix the broken pipe " ++ err)
  | none => { s with dials := s.dials + 1, connection := s.connection + 1 }.println "Successfully reconnected"

/-- A write that fails: the counter, and the dial. -/
def fail (s : State) (err : String) : State :=
  let s := { s with writes := s.writes + 1, ec := s.ec + 1 }
  if brokenPipe err then reconnect net s else s

/-- A pass of the loop over `i`. -/
def attempt (msg : List UInt8) : Nat × State → Option (LoopStep (Nat × State) State)
  | (i, s) =>
    match net.write s.writes with
    | none => some (.done (s.write (fmt.sprintf (msg ++ [newline]))))
    | some err =>
      if config.maxRetry ≤ i then
        some (.done ((fail net s err).println ("message failed after the configured retry limit: " ++ err)))
      else some (.next (i + 1, (fail net s err).println ("retrying after error: " ++ err)))

def deliver (fuel : Nat) (s : State) (msg : List UInt8) : Option State :=
  Loop.run (attempt fmt net config msg) fuel (0, s)

/-- `inputMsg` for the messages it receives until the channel is closed. -/
def inputMsg (fuel : Nat) (msgs : List (List UInt8)) (s : State) : Option State :=
  msgs.foldlM (deliver fmt net config fuel)
    (s.println ("start producer: RawSocket, server: " ++ config.url ++ ", Protocol: " ++ config.protocol))

end inputMsg

/-! ## The attempts -/

/-- The outcomes of the writes for a message that is tried at most `n` times, from the `k`-th write on. -/
def attempts (write : Nat → Option String) : Nat → Nat → List (Option String)
  | 0, _ => []
  | n + 1, k =>
    match write k with
    | none => [none]
    | some err => some err :: attempts write n (k + 1)

def failures (tried : List (Option String)) : Nat := tried.countP Option.isSome

/-- The messages with their attempts, of which each has at most `n`. -/
def history (write : Nat → Option String) (n : Nat) :
    Nat → List (List UInt8) → List (List UInt8 × List (Option String))
  | _, [] => []
  | k, msg :: msgs =>
    (msg, attempts write n k) :: history write n (k + (attempts write n k).length) msgs

def delivered (write : Nat → Option String) (n k : Nat) (msgs : List (List UInt8)) : List (List UInt8) :=
  ((history write n k msgs).filter (none ∈ ·.2)).map Prod.fst

theorem delivered_cons (write : Nat → Option String) (n k : Nat) (msg : List UInt8) (msgs : List (List UInt8)) :
    delivered write n k (msg :: msgs) =
      (if none ∈ attempts write n k then [msg] else []) ++
        delivered write n (k + (attempts write n k).length) msgs := by
  unfold delivered
  rw [history, List.filter_cons]
  by_cases h : none ∈ attempts write n k
  · simp [h]
  · simp [h]

def failed (write : Nat → Option String) (n k : Nat) (msgs : List (List UInt8)) : Nat :=
  failures ((history write n k msgs).flatMap Prod.snd)

theorem failed_cons (write : Nat → Option String) (n k : Nat) (msg : List UInt8) (msgs : List (List UInt8)) :
    failed write n k (msg :: msgs) =
      failures (attempts write n k) + failed write n (k + (attempts write n k).length) msgs := by
  unfold failed
  rw [history, List.flatMap_cons]
  exact List.countP_append

/-! ## What a message does to the state -/

/-- From `s` to `s'` there have been `tried` writes with `errors` failures among them, and `ws` has been written. -/
structure Handled (tried errors : Nat) (ws : List (List UInt8)) (s s' : State) : Prop where
  writes : s'.writes = s.writes + tried
  ec : s'.ec = s.ec + UInt64.ofNat errors
  sent : s'.sent.map Prod.snd = s.sent.map Prod.snd ++ ws

section handled
variable {fmt : Printf} {net : Network} {config : Config} {s s' s'' : State}

theorem Handled.refl (s : State) : Handled 0 0 [] s s where
  writes := rfl
  ec := by simp
  sent := by simp

theorem Handled.trans {m n e f : Nat} {ws vs : List (List UInt8)} (h : Handled m e ws s s')
    (h' : Handled n f vs s' s'') : Handled (m + n) (e + f) (ws ++ vs) s s'' where
  writes := by rw [h'.writes, h.writes, Nat.add_assoc]
  ec := by rw [h'.ec, h.ec, UInt64.ofNat_add, UInt64.add_assoc]
  sent := by rw [h'.sent, h.sent, List.append_assoc]

theorem Handled.println {m e : Nat} {ws : List (List UInt8)} (h : Handled m e ws s s') (line : String) :
    Handled m e ws s (s'.println line) :=
  ⟨h.writes, h.ec, h.sent⟩

theorem handled_write (s : State) (w : List UInt8) : Handled 1 0 [w] s (s.write w) where
  writes := rfl
  ec := by simp [State.write]
  sent := by simp [State.write]

theorem Handled.reconnect {m e : Nat} {ws : List (List UInt8)} (h : Handled m e ws s s') :
    Handled m e ws s (RawSocket.reconnect net s') := by
  unfold RawSocket.reconnect
  split
  · exact ⟨h.writes, h.ec, h.sent⟩
  · exact ⟨h.writes, h.ec, h.sent⟩

variable (net) in
theorem handled_fail (s : State) (err : String) : Handled 1 1 [] s (fail net s err) := by
  have hcount : Handled 1 1 [] s { s with writes := s.writes + 1, ec := s.ec + 1 } :=
    ⟨rfl, rfl, (List.append_nil _).symm⟩
  unfold fail
  dsimp only
  split_ifs
  · exact hcount.reconnect
  · exact hcount

/-- The effect of the attempts `tried` of a message. -/
abbrev Handles (fmt : Printf) (msg : List UInt8) (tried : List (Option String)) (s s' : State) : Prop :=
  Handled tried.length (failures tried) (if none ∈ tried then [fmt.sprintf (msg ++ [newline])] else []) s s'

theorem handles_write (s : State) (msg : List UInt8) :
    Handles fmt msg [none] s (s.write (fmt.sprintf (msg ++ [newline]))) := by
  simpa [Handles, failures] using handled_write s (fmt.sprintf (msg ++ [newline]))

theorem Handles.cons {msg : List UInt8} {tried : List (Option String)} {err line : String}
    (h : Handles fmt msg tried ((fail net s err).println line) s') : Handles fmt msg (some err :: tried) s s' := by
  have hboth := ((handled_fail net s err).println line).trans h
  rw [Nat.add_comm 1, Nat.add_comm 1, List.nil_append] at hboth
  simpa [Handles, failures] using hboth

theorem run_done {msg : List UInt8} {m i : Nat} (hpass : attempt fmt net config msg (i, s) = some (.done s')) :
    ∀ fuel > m, Loop.run (attempt fmt net config msg) fuel (i, s) = some s' := by
  intro fuel hfuel
  obtain ⟨k, rfl⟩ := Nat.exists_eq_add_of_lt hfuel
  exact Loop.run_done hpass _

variable (fmt net) in
theorem run_attempt {maxRetry : Nat} (hmax : config.maxRetry = maxRetry) (msg : List UInt8) {m i : Nat}
    (hi : i + m = maxRetry) (s : State) :
    ∃ s', (∀ fuel > m, Loop.run (attempt fmt net config msg) fuel (i, s) = some s') ∧
      Handles fmt msg (attempts net.write (m + 1) s.writes) s s' := by
  induction m generalizing i s with
  | zero =>
    cases hwrite : net.write s.writes with
    | none =>
      refine ⟨_, run_done (by simp only [attempt, hwrite]; rfl), ?_⟩
      rw [attempts, hwrite]
      exact handles_write s msg
    | some err =>
      have hlast : config.maxRetry ≤ i := by omega
      refine ⟨_, run_done (by simp only [attempt, hwrite, if_pos hlast]; rfl), ?_⟩
      rw [attempts, hwrite]
      exact Handles.cons (Handled.refl _)
  | succ m ih =>
    cases hwrite : net.write s.writes with
    | none =>
      refine ⟨_, run_done (by simp only [attempt, hwrite]; rfl), ?_⟩
      rw [attempts, hwrite]
      exact handles_write s msg
    | some err =>
      have hagain : ¬ config.maxRetry ≤ i := by omega
      have hpass : attempt fmt net config msg (i, s) =
          some (.next (i + 1, (fail net s err).println ("retrying after error: " ++ err))) := by
        simp only [attempt, hwrite, if_neg hagain]
      obtain ⟨s', hrun, hs'⟩ := ih (i := i + 1) (by omega) ((fail net s err).println ("retrying after error: " ++ err))
      refine ⟨s', fun fuel hfuel => ?_, ?_⟩
      · obtain ⟨k, rfl⟩ := Nat.exists_eq_add_of_lt hfuel
        rw [Loop.run_next hpass]
        exact hrun _ (by omega)
      · have hwrites : ((fail net s err).println ("retrying after error: " ++ err)).writes = s.writes + 1 :=
          (handled_fail net s err).writes
        rw [hwrites] at hs'
        rw [attempts, hwrite]
        exact Handles.cons hs'

variable (fmt net config) in
theorem foldlM_deliver {maxRetry : Nat} (hmax : config.maxRetry = maxRetry) (msgs : List (List UInt8)) (s : State) :
    ∃ s', (∀ fuel > maxRetry, msgs.foldlM (deliver fmt net config fuel) s = some s') ∧
      s'.ec = s.ec + UInt64.ofNat (failed net.write (maxRetry + 1) s.writes msgs) ∧
      s'.sent.map Prod.snd = s.sent.map Prod.snd ++
        (delivered net.write (maxRetry + 1) s.writes msgs).map fun msg => fmt.sprintf (msg ++ [newline]) := by
  induction msgs generalizing s with
  | nil => exact ⟨s, fun _ _ => rfl, by simp [failed, failures, history], by simp [delivered, history]⟩
  | cons msg msgs ih =>
    obtain ⟨s₁, hrun₁, hmsg⟩ := run_attempt fmt net hmax msg (Nat.zero_add maxRetry) s
    obtain ⟨s', hrun, hec, hsent⟩ := ih s₁
    rw [hmsg.writes] at hec hsent
    refine ⟨s', fun fuel hfuel => ?_, ?_, ?_⟩
    · rw [List.foldlM_cons, deliver, hrun₁ fuel hfuel]
      exact hrun fuel hfuel
    · rw [hec, hmsg.ec, UInt64.add_assoc, ← UInt64.ofNat_add, failed_cons]
    · rw [hsent, hmsg.sent, List.append_assoc]
      rw [delivered_cons, List.map_append]
      split_ifs
      · rfl
      · rfl

end handled

theorem sprintf_newline_iff (fmt : Printf) (msg : List UInt8) :
    fmt.sprintf (msg ++ [newline]) = msg ++ [newline] ↔ percent ∉ msg := by
  have hnewline : percent ∉ [newline] := by decide
  simp only [fmt.sprintf_eq_self_iff, List.mem_append, hnewline, or_false]

/-- In every run over every network the messages one of whose attempts succeeds are written in order, each with a
newline, nothing else is written, and the error counter is increased by the number of failed attempts, exactly when
there is no percent sign in the messages that are written. -/
theorem inputMsg_verbatim_iff (fmt : Printf) (net : Network) (url protocol : String) (maxRetry : Nat)
    (msgs : List (List UInt8)) (ec : UInt64) :
    (∃ s, (∀ fuel > maxRetry, inputMsg fmt net { url, protocol, maxRetry } fuel msgs { ec } = some s) ∧
      s.sent.map Prod.snd = (delivered net.write (maxRetry + 1) 0 msgs).map (· ++ [newline]) ∧
      s.ec = ec + UInt64.ofNat (failed net.write (maxRetry + 1) 0 msgs)) ↔
    ∀ msg ∈ delivered net.write (maxRetry + 1) 0 msgs, percent ∉ msg := by
  obtain ⟨s, hrun, hec, hsent⟩ := foldlM_deliver fmt net { url, protocol, maxRetry } rfl msgs
    (State.println { ec } ("start producer: RawSocket, server: " ++ url ++ ", Protocol: " ++ protocol))
  have hcopies : s.sent.map Prod.snd = (delivered net.write (maxRetry + 1) 0 msgs).map (· ++ [newline]) ↔
      ∀ msg ∈ delivered net.write (maxRetry + 1) 0 msgs, percent ∉ msg := by
    rw [hsent]
    simp only [← sprintf_newline_iff fmt]
    exact List.map_inj_left
  constructor
  · rintro ⟨s', hrun', hsent', -⟩
    have hsame : s' = s :=
      Option.some.inj ((hrun' (maxRetry + 1) (by omega)).symm.trans (hrun (maxRetry + 1) (by omega)))
    rw [hsame] at hsent'
    exact hcopies.mp hsent'
  · intro h
    exact ⟨s, hrun, hcopies.mpr h, hec⟩

def calm : Network where
  write _ := none
  dial _ := none

/-- The message `%d` is written as `%!d(MISSING)`. -/
theorem inputMsg_percent :
    delivered calm.write 3 0 [Json.text "%d"] = [Json.text "%d"] ∧
      ∃ s, inputMsg Format.barePrintf calm {} 3 [Json.text "%d"] { ec := 0 } = some s ∧
        s.sent = [(0, Json.text "%!d(MISSING)\n")] :=
  ⟨rfl, _, rfl, rfl⟩

/-- With one retry, the first message arrives on the connection after the broken pipe, and the second does not. -/
example :
    ∃ s, inputMsg Format.barePrintf
      { write := fun k => if k = 1 then none else some "write: broken pipe", dial := fun _ => none } { maxRetry := 1 } 2
      [Json.text "a", Json.text "b"] { ec := 0 } = some s ∧ s.sent = [(1, Json.text "a\n")] ∧ s.ec = 3 :=
  ⟨_, rfl, by decide +kernel, by decide +kernel⟩

end VFlow.Producer.RawSocket
