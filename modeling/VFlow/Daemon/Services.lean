import VFlow.Daemon.Accounting
import VFlow.Daemon.Copies
import VFlow.Ipfix.Undisturbed
import VFlow.Netflow9.Worker
import VFlow.Published
import VFlow.Sflow.Marshal

/-!
# The three collectors

`Collector.service` puts the decoders and the encoders into the collectors. What a collector publishes is then, in all
interleavings of its goroutines and whatever happens to its template cache, made of the datagrams that it has received:
each text reports one of them, no datagram is reported twice, and the mirror sends none twice
(`published_of_received`, `mirrored_of_received`).
-/

namespace VFlow.Daemon

/-- What the decoders and encoders take from elsewhere: the information model, the shortest digits of a float and the
filter of sFlow samples. -/
structure Env where
  im : IANAInfoModel
  shortest : Shortest
  filter : List UInt32

/-- What the worker makes of the result of `Decode`. -/
def ipfixVerdict (shortest : Shortest) (result : Ipfix.Result) : Verdict :=
  match result.msg with
  | none => .noMessage
  | some m => if m.dataSets.length > 0 then .message (m.jsonMarshal shortest []).toOption else .noDataSets

/-- Here the worker looks if the slice of data sets is nil, which it is until a record is appended. -/
def netflowV9Verdict (shortest : Shortest) (result : Netflow9.Result) : Verdict :=
  match result.msg with
  | none => .noMessage
  | some m => if m.dataSets ≠ [] then .message (m.jsonMarshal shortest []).toOption else .noDataSets

/-- A datagram that comes with an error is as good as none. -/
def sFlowVerdict : Sflow.Outcome → Verdict
  | .panicked _ => .panicked
  | .returned (some d) none => if d.samples.length < 1 then .noMessage else .message d.jsonMarshal
  | .returned _ _ => .noMessage

def ipfixService (env : Env) : Service where
  collector := .ipfix
  Mem := MemCache Ipfix.TemplateRecord
  Job := Ipfix.Worker
  receive _ raddr mem body := Ipfix.Worker.receive raddr mem body
  work mem w := (Ipfix.Worker.work env.im mem w).map fun x => (x.1, x.2.1)
  verdict
    | .idle (some result) => some (ipfixVerdict env.shortest result)
    | _ => none

def netflowV9Service (env : Env) : Service where
  collector := .netflowV9
  Mem := MemCache Netflow9.TemplateRecord
  Job := Netflow9.Worker
  receive _ raddr mem body := Netflow9.Worker.receive raddr mem body
  work mem w := Netflow9.Worker.work env.im mem w
  verdict
    | .idle (some result) => some (netflowV9Verdict env.shortest result)
    | _ => none

/-- The sFlow decoder has no memory, and decodes in one piece. -/
def sFlowService (env : Env) : Service where
  collector := .sFlow
  Mem := Unit
  Job := Sflow.Outcome
  receive now _ _ body := Sflow.sfDecode env.filter now body
  work _ _ := none
  verdict out := some (sFlowVerdict out)

def Collector.service (env : Env) : Collector → Service
  | .ipfix => ipfixService env
  | .netflowV9 => netflowV9Service env
  | .sFlow => sFlowService env

/-! ## What is published -/

open IPFIX Pipeline

/-- What the text shows of the datagram. For IPFIX and NetFlow v9 it is the text of a message of the exporter, with the
header of the datagram and at least one record; for sFlow, of what the datagram is decoded to at some time. -/
def Collector.Shows (env : Env) : Collector → Datagram → List UInt8 → Prop
  | .ipfix, d, text =>
    ∃ m : Ipfix.Message, m.Labels d.1 d.2 ∧ m.dataSets ≠ [] ∧ m.jsonMarshal env.shortest [] = .ok text
  | .netflowV9, d, text =>
    ∃ m : Netflow9.Message, m.Labels d.1 d.2 ∧ m.dataSets ≠ [] ∧ m.jsonMarshal env.shortest [] = .ok text
  | .sFlow, d, text =>
    ∃ now datagram, Sflow.sfDecode env.filter now d.2 = .returned (some datagram) none ∧ datagram.samples ≠ [] ∧
      datagram.jsonMarshal = some text

/-- The text reports this datagram: the decoder can come to it from the bytes of the datagram, with some contents of
the cache at each of its operations on it, and its header is that of the datagram. -/
def Collector.Reports (env : Env) (c : Collector) (d : Datagram) (text : List UInt8) : Prop :=
  (c.service env).Yields d.1 d.2 text ∧ c.Shows env d text

theorem toOption_eq_some {ε α : Type} {x : Except ε α} {a : α} : x.toOption = some a ↔ x = .ok a := by
  cases x <;> simp [Except.toOption]

theorem ipfixVerdict_eq_message {shortest : Shortest} {result : Ipfix.Result} {text : List UInt8} :
    ipfixVerdict shortest result = .message (some text) ↔
      ∃ m, result.msg = some m ∧ m.dataSets ≠ [] ∧ m.jsonMarshal shortest [] = .ok text := by
  unfold ipfixVerdict
  cases result.msg with
  | none => simp
  | some m =>
    by_cases hm : m.dataSets = []
    · simp [hm]
    · simp [hm, List.length_pos_iff, toOption_eq_some]

theorem netflowV9Verdict_eq_message {shortest : Shortest} {result : Netflow9.Result} {text : List UInt8} :
    netflowV9Verdict shortest result = .message (some text) ↔
      ∃ m, result.msg = some m ∧ m.dataSets ≠ [] ∧ m.jsonMarshal shortest [] = .ok text := by
  unfold netflowV9Verdict
  cases result.msg with
  | none => simp
  | some m =>
    by_cases hm : m.dataSets = []
    · simp [hm]
    · simp [hm, toOption_eq_some]

theorem sFlowVerdict_eq_message {out : Sflow.Outcome} {text : List UInt8} :
    sFlowVerdict out = .message (some text) ↔
      ∃ d, out = .returned (some d) none ∧ d.samples ≠ [] ∧ d.jsonMarshal = some text := by
  unfold sFlowVerdict
  split
  · simp
  · rename_i d
    by_cases hd : d.samples = []
    · simp [hd]
    · simp [hd]
  · rename_i d err h
    simp only [reduceCtorEq, false_iff]
    rintro ⟨d', heq, -⟩
    cases heq
    exact h d' rfl rfl

theorem ipfix_work {env : Env} {mem mem' : MemCache Ipfix.TemplateRecord} {w w' : Ipfix.Worker} :
    (ipfixService env).work mem w = some (w', mem') ↔
      ∃ reqs, Ipfix.Worker.work env.im mem w = some (w', mem', reqs) := by
  simp [ipfixService, Option.map_eq_some_iff, Prod.ext_iff]

theorem ipfix_idle {env : Env} {w : Ipfix.Worker} {v : Verdict} (h : (ipfixService env).verdict w = some v) :
    ∃ result, w = .idle (some result) ∧ ipfixVerdict env.shortest result = v := by
  simp only [ipfixService] at h
  split at h
  case h_1 result => exact ⟨result, rfl, Option.some.inj h⟩
  case h_2 => cases h

theorem netflowV9_idle {env : Env} {w : Netflow9.Worker} {v : Verdict}
    (h : (netflowV9Service env).verdict w = some v) :
    ∃ result, w = .idle (some result) ∧ netflowV9Verdict env.shortest result = v := by
  simp only [netflowV9Service] at h
  split at h
  case h_1 result => exact ⟨result, rfl, Option.some.inj h⟩
  case h_2 => cases h

theorem shows_of_yields {env : Env} {c : Collector} {d : Datagram} {text : List UInt8}
    (h : (c.service env).Yields d.1 d.2 text) : c.Shows env d text := by
  obtain ⟨job, ⟨now, mem, hjob⟩, hverdict⟩ := h
  cases c with
  | ipfix =>
    have hlabelled : Ipfix.Worker.Labelled d.1 d.2 job := by
      clear hverdict
      induction hjob with
      | refl => exact Ipfix.Worker.labelled_receive env.im d.1 mem d.2
      | tail _ hstep ih =>
        obtain ⟨_, _, hwork⟩ := hstep
        obtain ⟨reqs, hwork⟩ := ipfix_work.mp hwork
        exact (Ipfix.Worker.work_eq_some.mp hwork).labelled ih
    obtain ⟨result, rfl, hmessage⟩ := ipfix_idle hverdict
    obtain ⟨m, hmsg, hsets, htext⟩ := ipfixVerdict_eq_message.mp hmessage
    exact ⟨m, hlabelled result rfl m hmsg, hsets, htext⟩
  | netflowV9 =>
    have hlabelled : Netflow9.Worker.Labelled d.1 d.2 job := by
      clear hverdict
      induction hjob with
      | refl => exact Netflow9.Worker.labelled_receive env.im d.1 mem d.2
      | tail _ hstep ih =>
        obtain ⟨_, _, hwork⟩ := hstep
        exact Netflow9.Worker.labelled_work hwork ih
    obtain ⟨result, rfl, hmessage⟩ := netflowV9_idle hverdict
    obtain ⟨m, hmsg, hsets, htext⟩ := netflowV9Verdict_eq_message.mp hmessage
    exact ⟨m, hlabelled result rfl m hmsg, hsets, htext⟩
  | sFlow =>
    have hout : job = Sflow.sfDecode env.filter now d.2 := by
      induction hjob with
      | refl => rfl
      | tail _ hstep ih =>
        obtain ⟨_, _, hwork⟩ := hstep
        cases hwork
    obtain ⟨datagram, hdecoded, hsamples, htext⟩ := sFlowVerdict_eq_message.mp (Option.some.inj hverdict)
    exact ⟨now, datagram, hout ▸ hdecoded, hsamples, htext⟩

/-! ## With a cache that does not change -/

/-- The templates that the datagram defines are in the cache already. -/
def Collector.Repeats (env : Env) : (c : Collector) → (c.service env).Mem → Datagram → Prop
  | .ipfix, mem, d => Ipfix.Worker.Repeats env.im mem d.1 d.2
  | .netflowV9, mem, d => Netflow9.Worker.Repeats env.im mem d.1 d.2
  | .sFlow, _, _ => True

/-- The text is that of the message that the datagram is decoded to with this cache, which stays as it is. -/
def Collector.Decoded (env : Env) : (c : Collector) → (c.service env).Mem → Datagram → List UInt8 → Prop
  | .ipfix, mem, d, text => ∃ out m, Ipfix.Decodes env.im d.1 mem d.2 out ∧ out.mem = mem ∧ out.msg = some m ∧
    m.dataSets ≠ [] ∧ m.jsonMarshal env.shortest [] = .ok text
  | .netflowV9, mem, d, text => ∃ out m, Netflow9.Decodes env.im d.1 mem d.2 out ∧ out.mem = mem ∧ out.msg = some m ∧
    m.dataSets ≠ [] ∧ m.jsonMarshal env.shortest [] = .ok text
  | .sFlow, _, d, text => Collector.sFlow.Shows env d text

theorem steady_of_repeats {env : Env} {c : Collector} {mem : (c.service env).Mem} {d : Datagram}
    (h : c.Repeats env mem d) : Steady (c.service env) mem d := by
  intro now job job' mem' hjob hwork
  cases c with
  | ipfix =>
    obtain ⟨reqs, hwork⟩ := ipfix_work.mp hwork
    have hstores := h job (Relation.ReflTransGen.mono (fun _ _ hw => ipfix_work.mp hw) _ _ hjob)
    rw [(Ipfix.Worker.work_eq_some.mp hwork).mem_eq]
    exact MemCache.storeIn_of_retrieve hstores
  | netflowV9 =>
    have hstores := h job hjob
    rw [Netflow9.Worker.mem_of_work hwork]
    exact MemCache.storeIn_of_retrieve hstores
  | sFlow => cases hwork

theorem decoded_of_yields {env : Env} {c : Collector} {mem : (c.service env).Mem} {d : Datagram} {text : List UInt8}
    (h : (Rule.steady (c.service env) mem).Yields d text) : c.Decoded env mem d text := by
  obtain ⟨job, ⟨-, now, hjob⟩, hverdict⟩ := h
  cases c with
  | ipfix =>
    obtain ⟨result, rfl, hmessage⟩ := ipfix_idle hverdict
    obtain ⟨m, hmsg, hsets, htext⟩ := ipfixVerdict_eq_message.mp hmessage
    have hends : Ipfix.Worker.Ends env.im result mem (Ipfix.Worker.receive d.1 mem d.2) mem := by
      refine hjob.head_induction_on (motive := fun w _ => Ipfix.Worker.Ends env.im result mem w mem) ⟨rfl, rfl⟩
        fun hstep _ ih => ?_
      obtain ⟨reqs, hwork⟩ := ipfix_work.mp hstep
      exact (Ipfix.Worker.work_eq_some.mp hwork).ends ih
    obtain ⟨out, hdec, hresult, hmem⟩ := Ipfix.Worker.decodes_of_ends hends
    exact ⟨out, m, hdec, hmem, (congrArg Ipfix.Result.msg hresult).trans hmsg, hsets, htext⟩
  | netflowV9 =>
    obtain ⟨result, rfl, hmessage⟩ := netflowV9_idle hverdict
    obtain ⟨m, hmsg, hsets, htext⟩ := netflowV9Verdict_eq_message.mp hmessage
    have hends : Netflow9.Worker.Ends env.im result mem (Netflow9.Worker.receive d.1 mem d.2) mem := by
      refine hjob.head_induction_on (motive := fun w _ => Netflow9.Worker.Ends env.im result mem w mem) ⟨rfl, rfl⟩
        fun hstep _ ih => ?_
      exact Netflow9.Worker.ends_of_work hstep ih
    obtain ⟨out, hdec, hresult, hmem⟩ := Netflow9.Worker.decodes_of_ends hends
    exact ⟨out, m, hdec, hmem, (congrArg Netflow9.Result.msg hresult).trans hmsg, hsets, htext⟩
  | sFlow =>
    refine shows_of_yields (c := .sFlow) ⟨job, ⟨now, mem, ?_⟩, hverdict⟩
    exact Relation.ReflTransGen.mono (fun _ _ hw => ⟨_, _, hw⟩) _ _ hjob

/-! ## Runs -/

section mirrored

/-- The information model and no filter. The records of the run below have no floats. -/
def plainEnv : Env := ⟨infoModel, zeroDigits, []⟩

def msgA (body : Nat) : Msg := { raddr := exporterA, body := body, len := 26 }

/-- The datagram arrives, is copied for the mirror, decoded and published; then the copy is sent. -/
def mirroredRun : List (Event (ipfixService plainEnv).Mem Unit Unit) :=
  [.daemon (.run .dispatcher (.store .mirrorEnabled true)) 0, .daemon (.run (.mirror ()) (.input .conn)) 0,
    .daemon (.run (.worker ()) (.get 0)) 0, .daemon (.run (.worker ()) (.put 0)) 0,
    .daemon (.run .run (.load .stop false)) 0, .daemon (.run .run (.get 0)) 0,
    .daemon (.run .run (.input (.datagram exporterA (oneSet dataA)))) 0,
    .daemon (.run .run (.write 0 (oneSet dataA))) 0, .daemon (.run .run (.send .udp (msgA 0))) 0,
    .daemon (.run (.worker ()) (.recv .udp (msgA 0))) 0, .daemon (.run (.worker ()) (.load .mirrorEnabled true)) 0,
    .daemon (.run (.worker ()) (.get 1)) 0, .daemon (.run (.worker ()) (.read 0 (oneSet dataA))) 0,
    .daemon (.run (.worker ()) (.write 1 (oneSet dataA))) 0, .daemon (.run (.worker ()) (.send .mirror (msgA 1))) 0,
    .daemon (.run (.worker ()) (.read 0 (oneSet dataA))) 0, .work (), .work (), .work (), .work (),
    .daemon (.run (.worker ()) (.input .dataSets)) 0, .daemon (.run (.worker ()) (.read 0 (oneSet dataA))) 0,
    .daemon (.run (.worker ()) (.input .json)) 0, .daemon (.run (.worker ()) (.put 0)) 0, .take, .publish .done,
    .daemon (.run .dispatcher (.recv .mirror (msgA 1))) 0, .daemon (.run .dispatcher (.send .ch4 (msgA 1))) 0,
    .daemon (.run (.mirror ()) (.recv .ch4 (msgA 1))) 0, .daemon (.run (.mirror ()) (.read 1 (oneSet dataA))) 0,
    .daemon (.run (.mirror ()) (.put 1)) 0, .daemon (.run (.mirror ()) (.input .sent)) 0]

def smallOpts : Opts := ⟨64, some [198, 51, 100, 1]⟩

def smallStart : State (ipfixService plainEnv) Unit Unit := start (ipfixService plainEnv) Unit Unit smallOpts cacheA

theorem runs_mirroredRun : ∃ s, Runs (Step smallOpts) smallStart mirroredRun s ∧ s.published.length = 1 ∧
    s.mirrored = [(exporterA, oneSet dataA)] ∧ s.received = [(exporterA, oneSet dataA)] := by
  have hrun : ((mirroredRun.foldlM (step smallOpts) smallStart).map fun s =>
      decide (s.published.length = 1 ∧ s.mirrored = [(exporterA, oneSet dataA)] ∧
        s.received = [(exporterA, oneSet dataA)])) = some true := by decide +kernel
  obtain ⟨s, hs, hdone⟩ := Option.map_eq_some_iff.mp hrun
  exact ⟨s, (Runs.foldlM_iff fun _ _ _ => Iff.rfl).mp hs, of_decide_eq_true hdone⟩

theorem repeats_dataA : Ipfix.Worker.Repeats infoModel cacheA exporterA (oneSet dataA) :=
  have hsteps : Ipfix.Worker.repeatsFrom infoModel cacheA 6
      (Ipfix.Worker.receive exporterA cacheA (oneSet dataA)) = true := by decide +kernel
  Ipfix.Worker.repeats_of_repeatsFrom hsteps

theorem cache_not_mem_mirroredRun (m : (ipfixService plainEnv).Mem) : .cache m ∉ mirroredRun := by
  simp [mirroredRun]

theorem single_of_subperm {P : Datagram → List UInt8 → Prop} {l : List (Datagram × List UInt8)}
    {texts : List (List UInt8)} {d : Datagram} (htexts : l.map Prod.snd = texts) (hone : texts.length = 1)
    (hsub : (l.map Prod.fst).Subperm [d]) (hl : ∀ p ∈ l, P p.1 p.2) : ∃ text, texts = [text] ∧ P d text := by
  subst htexts
  rw [List.length_map] at hone
  obtain ⟨⟨d', text⟩, rfl⟩ := List.length_eq_one_iff.mp hone
  obtain rfl := List.mem_singleton.mp (hsub.subset (List.mem_singleton_self d'))
  exact ⟨text, rfl, hl _ (List.mem_singleton_self _)⟩

end mirrored

section runs

variable {env : Env} {c : Collector} {W V : Type} [DecidableEq W] [DecidableEq V] {udpSize : Nat}
  {mirrorAddr : Option IP}

/-- **Every text that is published reports a datagram that was received, and no datagram is reported twice**, in all
interleavings and whatever happens to the template cache. -/
theorem published_of_received {mem : (c.service env).Mem} {es : List (Event (c.service env).Mem W V)}
    {s : State (c.service env) W V}
    (h : Runs (Step (c.opts udpSize mirrorAddr)) (start (c.service env) W V (c.opts udpSize mirrorAddr) mem) es s) :
    ∃ l : List (Datagram × List UInt8), l.map Prod.snd = s.published.map Prod.fst ∧
      (l.map Prod.fst).Subperm s.received ∧ ∀ p ∈ l, c.Reports env p.1 p.2 := by
  obtain ⟨l, htexts, hreceived, hl⟩ := texts_of_runs (R := .any _) trivial (fun e _ => Rule.any_allows _ e) h
  exact ⟨l, htexts, hreceived, fun p hp => ⟨hl p hp, shows_of_yields (hl p hp)⟩⟩

theorem published_of_received_mirroredRun :
    ∃ s text, Runs (Step smallOpts) smallStart mirroredRun s ∧ s.published.map Prod.fst = [text] ∧
      Collector.ipfix.Reports plainEnv (exporterA, oneSet dataA) text := by
  obtain ⟨s, hrun, hpublished, -, hreceived⟩ := runs_mirroredRun
  obtain ⟨l, htexts, hsub, hl⟩ := published_of_received (c := .ipfix) hrun
  obtain ⟨text, htext, hp⟩ := single_of_subperm htexts ((List.length_map _).trans hpublished)
    (hreceived ▸ hsub) hl
  exact ⟨s, text, hrun, htext, hp⟩

/-- **Every datagram that the mirror sends was received, and is sent once at most.** -/
theorem mirrored_of_received {mem : (ipfixService env).Mem} {es : List (Event (ipfixService env).Mem W V)}
    {s : State (ipfixService env) W V}
    (h : Runs (Step ⟨udpSize, mirrorAddr⟩) (start (ipfixService env) W V ⟨udpSize, mirrorAddr⟩ mem) es s) :
    s.mirrored.Subperm s.received :=
  mirrored_of_runs h

theorem mirrored_of_received_mirroredRun :
    ∃ s, Runs (Step smallOpts) smallStart mirroredRun s ∧ s.mirrored.length = 1 ∧ s.mirrored.Subperm s.received := by
  obtain ⟨s, hrun, -, hmirrored, -⟩ := runs_mirroredRun
  exact ⟨s, hrun, congrArg List.length hmirrored, mirrored_of_received hrun⟩

/-- **Where the datagrams define no new templates, the texts are those of sequential decoding**: with a cache that
they and the other goroutines leave as it is, what is published are the texts of what `Decode` gives with this cache
for datagrams that were received, each at most once. -/
theorem published_of_repeats {mem : (c.service env).Mem} {es : List (Event (c.service env).Mem W V)}
    {s : State (c.service env) W V} (hrepeats : ∀ d ∈ s.received, c.Repeats env mem d)
    (hcache : ∀ m, .cache m ∈ es → m = mem)
    (h : Runs (Step (c.opts udpSize mirrorAddr)) (start (c.service env) W V (c.opts udpSize mirrorAddr) mem) es s) :
    ∃ l : List (Datagram × List UInt8), l.map Prod.snd = s.published.map Prod.fst ∧
      (l.map Prod.fst).Subperm s.received ∧ ∀ p ∈ l, c.Decoded env mem p.1 p.2 := by
  obtain ⟨l, htexts, hreceived, hl⟩ := texts_of_steady (fun d hd => steady_of_repeats (hrepeats d hd)) hcache h
  exact ⟨l, htexts, hreceived, fun p hp => decoded_of_yields (hl p hp)⟩

theorem published_of_repeats_mirroredRun :
    ∃ s text, Runs (Step smallOpts) smallStart mirroredRun s ∧ s.published.map Prod.fst = [text] ∧
      Collector.ipfix.Decoded plainEnv cacheA (exporterA, oneSet dataA) text := by
  obtain ⟨s, hrun, hpublished, -, hreceived⟩ := runs_mirroredRun
  have hrepeats : ∀ d ∈ s.received, Collector.ipfix.Repeats plainEnv cacheA d := by
    rw [hreceived]
    intro d hd
    obtain rfl := List.mem_singleton.mp hd
    exact repeats_dataA
  have hcache : ∀ m : (Collector.ipfix.service plainEnv).Mem, .cache m ∈ mirroredRun → m = cacheA :=
    fun m hm => absurd hm (cache_not_mem_mirroredRun m)
  obtain ⟨l, htexts, hsub, hl⟩ := published_of_repeats (c := .ipfix) hrepeats hcache hrun
  obtain ⟨text, htext, hp⟩ := single_of_subperm htexts ((List.length_map _).trans hpublished)
    (hreceived ▸ hsub) hl
  exact ⟨s, text, hrun, htext, hp⟩

end runs

end VFlow.Daemon
