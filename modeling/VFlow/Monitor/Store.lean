import VFlow.Codec
import VFlow.Daemon.Shutdown

/-!
# The monitor

`monitor` is started from time to time. It fetches the counters of vFlow, takes the difference to those of its last
run, which are in a file, and posts the rates to a database. The file is the only thing that one run leaves to the
next: it is written with `ioutil.WriteFile`, which truncates it first, and whose error is ignored.

A run is here a function of the file and of what the run meets: the responses of vFlow, the clock, what becomes of
the file when it is written, and the answers of the database. The file is written before the rates are posted, so that
the answer of the database has no influence on the next run. Over a whole history of runs the file stands for one of
three things (`Last`): it was never written, it has the counters of a run, or it has a part of a text. Since no part of
a text is JSON, every later run then fails before it writes the file again, and the monitor falls silent for good:
`silent_iff`.
-/

namespace VFlow.Monitor

open Json (text)

/-! ## Metrics -/

/-- `SFlow` and `NetflowV9`. -/
structure Metrics where
  udpQueue : Int64 := 0
  messageQueue : Int64 := 0
  udpCount : Int64 := 0
  decodedCount : Int64 := 0
  mqErrorCount : Int64 := 0
  workers : Int64 := 0
  deriving DecidableEq

structure IPFIX extends Metrics where
  udpMirrorQueue : Int64 := 0
  deriving DecidableEq

structure Flow where
  startTime : Int64 := 0
  timestamp : Int64 := 0
  ipfix : IPFIX := {}
  sFlow : Metrics := {}
  netflowV9 : Metrics := {}
  deriving DecidableEq

def Metrics.codec : Codec Metrics :=
  .struct {} [
    .mk "UDPQueue" .int64 (·.udpQueue) ({ · with udpQueue := · }),
    .mk "MessageQueue" .int64 (·.messageQueue) ({ · with messageQueue := · }),
    .mk "UDPCount" .int64 (·.udpCount) ({ · with udpCount := · }),
    .mk "DecodedCount" .int64 (·.decodedCount) ({ · with decodedCount := · }),
    .mk "MQErrorCount" .int64 (·.mqErrorCount) ({ · with mqErrorCount := · }),
    .mk "Workers" .int64 (·.workers) ({ · with workers := · })] (by decide +kernel) fun _ => rfl

def IPFIX.codec : Codec IPFIX :=
  .struct {} [
    .mk "UDPQueue" .int64 (·.udpQueue) ({ · with udpQueue := · }),
    .mk "UDPMirrorQueue" .int64 (·.udpMirrorQueue) ({ · with udpMirrorQueue := · }),
    .mk "MessageQueue" .int64 (·.messageQueue) ({ · with messageQueue := · }),
    .mk "UDPCount" .int64 (·.udpCount) ({ · with udpCount := · }),
    .mk "DecodedCount" .int64 (·.decodedCount) ({ · with decodedCount := · }),
    .mk "MQErrorCount" .int64 (·.mqErrorCount) ({ · with mqErrorCount := · }),
    .mk "Workers" .int64 (·.workers) ({ · with workers := · })] (by decide +kernel) fun _ => rfl

def startTimeField : Field Flow := .mk "StartTime" .int64 (·.startTime) ({ · with startTime := · })

def timestampField : Field Flow := .mk "Timestamp" .int64 (·.timestamp) ({ · with timestamp := · })

def ipfixField : Field Flow := .mk "IPFIX" IPFIX.codec (·.ipfix) ({ · with ipfix := · })

def sFlowField : Field Flow := .mk "SFlow" Metrics.codec (·.sFlow) ({ · with sFlow := · })

def netflowV9Field : Field Flow := .mk "NetflowV9" Metrics.codec (·.netflowV9) ({ · with netflowV9 := · })

def Flow.fields : List (Field Flow) := [startTimeField, timestampField, ipfixField, sFlowField, netflowV9Field]

theorem Flow.distinctNames : DistinctNames Flow.fields := by decide +kernel

def Flow.codec : Codec Flow := .struct {} Flow.fields Flow.distinctNames fun _ => rfl

def Flow.text (f : Flow) : List UInt8 := (Flow.codec.json f).print

/-- `json.Unmarshal` of a response into `flow`. -/
def unmarshalFlow (b : List UInt8) : Option Flow := (Json.unmarshal b).bind Flow.codec.decode

/-- `json.Unmarshal` of the file into the pointer `lastFlow`, which `null` makes nil. -/
def unmarshalLast (b : List UInt8) : Option (Option Flow) :=
  (Json.unmarshal b).bind fun
    | .null => some none
    | j => (Flow.codec.decode j).map some

structure Sys where
  memHeapAlloc : Int64 := 0
  memAlloc : Int64 := 0
  mCacheInuse : Int64 := 0
  gcNext : Int64 := 0
  memTotalAlloc : Int64 := 0
  gcSys : Int64 := 0
  memHeapSys : Int64 := 0
  numGoroutine : Int64 := 0
  numLogicalCPU : Int64 := 0
  memHeapReleased : Int64 := 0

def Sys.codec : Codec Sys :=
  .struct {} [
    .mk "MemHeapAlloc" .int64 (·.memHeapAlloc) ({ · with memHeapAlloc := · }),
    .mk "MemAlloc" .int64 (·.memAlloc) ({ · with memAlloc := · }),
    .mk "MCacheInuse" .int64 (·.mCacheInuse) ({ · with mCacheInuse := · }),
    .mk "GCNext" .int64 (·.gcNext) ({ · with gcNext := · }),
    .mk "MemTotalAlloc" .int64 (·.memTotalAlloc) ({ · with memTotalAlloc := · }),
    .mk "GCSys" .int64 (·.gcSys) ({ · with gcSys := · }),
    .mk "MemHeapSys" .int64 (·.memHeapSys) ({ · with memHeapSys := · }),
    .mk "NumGoroutine" .int64 (·.numGoroutine) ({ · with numGoroutine := · }),
    .mk "NumLogicalCPU" .int64 (·.numLogicalCPU) ({ · with numLogicalCPU := · }),
    .mk "MemHeapReleased" .int64 (·.memHeapReleased) ({ · with memHeapReleased := · })]
    (by decide +kernel) fun _ => rfl

/-! ## One run -/

/-- What becomes of the file when it is written. -/
inductive Write where
  | whole
  /-- Only `n` bytes can be written. -/
  | cut (n : Nat)
  /-- The file cannot be opened. -/
  | denied
  /-- The monitor is killed after `n` bytes. -/
  | killed (n : Nat)

/-- `ioutil.WriteFile`. -/
def Write.file (w : Write) (old : Option (List UInt8)) (b : List UInt8) : Option (List UInt8) :=
  match w with
  | .whole => some b
  | .cut n | .killed n => some (b.take n)
  | .denied => old

/-- What ends the monitor: `os.Exit(1)`, a panic, or a signal. -/
inductive Stop where
  | exit | panic | killed
  deriving DecidableEq

/-- The error of `ioutil.WriteFile` is ignored. -/
def Write.ignored {α : Type} (w : Write) (x : Except Stop α) : Except Stop α :=
  match w with
  | .killed _ => .error .killed
  | .whole | .cut _ | .denied => x

/-- `getFlow`, given the body of the response, if there is one: the file that it leaves, and what it returns, which is
`none` for an error. -/
def getFlow (body : Option (List UInt8)) (now : Int64) (w : Write) (file : Option (List UInt8)) :
    Option (List UInt8) × Except Stop (Option (Flow × Flow)) :=
  match body.bind unmarshalFlow with
  | none => (file, .ok none)
  | some flow =>
    let flow := { flow with timestamp := now }
    match file with
    | none => (w.file file flow.text, w.ignored (.ok none))
    | some b =>
      match unmarshalLast b with
      | none => (file, .ok none)
      -- `lastFlow.StartTime` of a nil pointer
      | some none => (w.file file flow.text, w.ignored (.error .panic))
      | some (some lastFlow) =>
        (w.file file flow.text,
          w.ignored (if flow.startTime ≠ lastFlow.startTime then .error .exit else .ok (some (flow, lastFlow))))

/-- A value that is posted. -/
structure Point where
  metric : String
  type : String
  value : Int64

/-- `abs` of the quotient; `abs` exits if it is negative. -/
def rate (new old delta : Int64) : Except Stop Int64 :=
  if delta = 0 then .error .panic
  else if (new - old) / delta < 0 then .error .exit
  else .ok ((new - old) / delta)

open Daemon (Collector)

inductive Counter where
  | udp (c : Collector)
  | decode (c : Collector)
  | mqError (c : Collector)

def typeTag : Collector → String
  | .ipfix => "ipfix"
  | .sFlow => "sflow"
  | .netflowV9 => "netflowv9"

def Flow.metrics (f : Flow) : Collector → Metrics
  | .ipfix => f.ipfix.toMetrics
  | .sFlow => f.sFlow
  | .netflowV9 => f.netflowV9

def Counter.read (f : Flow) : Counter → Int64
  | .udp c => (f.metrics c).udpCount
  | .decode c => (f.metrics c).decodedCount
  | .mqError c => (f.metrics c).mqErrorCount

def Counter.point (value : Int64) : Counter → Point
  | .udp c => ⟨"udp.rate", typeTag c, value⟩
  | .decode c => ⟨"decode.rate", typeTag c, value⟩
  | .mqError c => ⟨"mq.error.rate", typeTag c, value⟩

def InfluxDB.counters : List Counter :=
  [.udp .ipfix, .udp .sFlow, .udp .netflowV9, .decode .ipfix, .decode .sFlow, .decode .netflowV9,
    .mqError .ipfix, .mqError .sFlow, .mqError .netflowV9]

def InfluxDB.gauges (flow : Flow) : List Point :=
  [⟨"workers", "ipfix", flow.ipfix.workers⟩, ⟨"workers", "sflow", flow.sFlow.workers⟩,
    ⟨"workers", "netflowv9", flow.netflowV9.workers⟩, ⟨"udp.queue", "ipfix", flow.ipfix.udpQueue⟩,
    ⟨"udp.queue", "sflow", flow.sFlow.udpQueue⟩, ⟨"udp.queue", "netflowv9", flow.netflowV9.udpQueue⟩,
    ⟨"mq.queue", "ipfix", flow.ipfix.messageQueue⟩, ⟨"mq.queue", "sflow", flow.sFlow.messageQueue⟩,
    ⟨"mq.queue", "netflowv9", flow.netflowV9.messageQueue⟩, ⟨"udp.mirror.queue", "ipfix", flow.ipfix.udpMirrorQueue⟩]

def TSDB.counters : List Counter :=
  [.udp .ipfix, .udp .sFlow, .decode .ipfix, .decode .sFlow, .mqError .ipfix, .mqError .sFlow]

def TSDB.gauges (flow : Flow) : List Point :=
  [⟨"workers", "ipfix", flow.ipfix.workers⟩, ⟨"workers", "sflow", flow.sFlow.workers⟩]

inductive DBType where
  | influxdb | tsdb
  deriving DecidableEq

def DBType.counters : DBType → List Counter
  | .influxdb => InfluxDB.counters
  | .tsdb => TSDB.counters

def DBType.gauges (flow : Flow) : DBType → List Point
  | .influxdb => InfluxDB.gauges flow
  | .tsdb => TSDB.gauges flow

def rates (flow lastFlow : Flow) (cs : List Counter) : Except Stop (List Point) :=
  cs.mapM fun c => (rate (c.read flow) (c.read lastFlow) (flow.timestamp - lastFlow.timestamp)).map c.point

/-- What comes of a request to the database. -/
structure Post where
  /-- The body of the answer, or the error of the request. -/
  answer : Except String (List UInt8)
  /-- The database has the values, which it may have without an answer. -/
  stored : Bool

/-- The error that is returned after the request: that of the request, or the body of the answer. -/
inductive PostError where
  | request (err : String)
  | influxdb (body : List UInt8)

def DBType.postError (db : DBType) (post : Post) : Option PostError :=
  match db, post.answer with
  | _, .error err => some (.request err)
  | .influxdb, .ok body => if body.length > 0 then some (.influxdb body) else none
  -- `put` unmarshals into `resp` and not into a pointer to it, so that `resp.Failed` stays 0
  | .tsdb, .ok _ => none

/-- What becomes of the values of `Netflow` or `System`: there was an error before, or they are posted. -/
inductive Ingest where
  | failed
  | posted (points : List Point) (post : Post) (err : Option PostError)

def DBType.put (db : DBType) (post : Post) : Option (List Point) → Ingest
  | none => .failed
  | some points => .posted points post (db.postError post)

/-- `Netflow` after `getFlow`, up to the values that it posts. -/
def DBType.netflow (db : DBType) : Option (Flow × Flow) → Except Stop (Option (List Point))
  | none => .ok none
  | some (flow, lastFlow) => (rates flow lastFlow db.counters).map fun points => some (points ++ db.gauges flow)

/-- `System`, up to the values that it posts. -/
def system (body : Option (List UInt8)) : Option (List Point) :=
  ((body.bind Json.unmarshal).bind Sys.codec.decode).map fun sys =>
    [⟨"mem.heap.alloc", "", sys.memHeapAlloc⟩, ⟨"mem.alloc", "", sys.memAlloc⟩, ⟨"mcache.inuse", "", sys.mCacheInuse⟩,
      ⟨"mem.total.alloc", "", sys.memTotalAlloc⟩, ⟨"mem.heap.sys", "", sys.memHeapSys⟩,
      ⟨"num.goroutine", "", sys.numGoroutine⟩]

structure Run where
  flowBody : Option (List UInt8)
  sysBody : Option (List UInt8)
  now : Int64
  write : Write
  flowPost : Post
  sysPost : Post

inductive Outcome where
  | stopped (reason : Stop)
  | returned (netflow system : Ingest)

/-- `main`, which logs the errors. -/
def main (db : DBType) (file : Option (List UInt8)) (r : Run) : Option (List UInt8) × Outcome :=
  let got := getFlow r.flowBody r.now r.write file
  (got.1, match got.2.bind db.netflow with
    | .error reason => .stopped reason
    | .ok netflow => .returned (db.put r.flowPost netflow) (db.put r.sysPost (system r.sysBody)))

def mains (db : DBType) : Option (List UInt8) → List Run → Option (List UInt8) × List Outcome
  | file, [] => (file, [])
  | file, r :: rs =>
    let first := main db file r
    let rest := mains db first.1 rs
    (rest.1, first.2 :: rest.2)

theorem mains_cons (db : DBType) (file : Option (List UInt8)) (r : Run) (rs : List Run) :
    (mains db file (r :: rs)).2 = (main db file r).2 :: (mains db (main db file r).1 rs).2 := rfl

/-! ## The file -/

theorem unmarshalFlow_text (f : Flow) : unmarshalFlow f.text = some f := by
  rw [unmarshalFlow, Flow.text, Json.unmarshal_print (Flow.codec.utf8 f)]
  exact Flow.codec.decode_json f

theorem unmarshalLast_text (f : Flow) : unmarshalLast f.text = some (some f) := by
  rw [unmarshalLast, Flow.text, Json.unmarshal_print (Flow.codec.utf8 f)]
  exact congrArg (Option.map some) (Flow.codec.decode_json f)

theorem text_cut {f : Flow} {b : List UInt8} (h : b <+: f.text) (hne : b ≠ f.text) : Json.unmarshal b = none :=
  Json.parseAs_cut (Flow.codec.utf8 f) h hne

/-- What the file is after a history of runs. -/
inductive Last where
  | absent
  | saved (f : Flow)
  | broken

def Last.Is (file : Option (List UInt8)) : Last → Prop
  | .absent => file = none
  | .saved f => file = some f.text
  | .broken => ∃ b, file = some b ∧ Json.unmarshal b = none

def Last.write (l : Last) (w : Write) (f : Flow) : Last :=
  match w with
  | .whole => .saved f
  | .cut n | .killed n => if n < f.text.length then .broken else .saved f
  | .denied => l

/-- `getFlow` without the texts. -/
def Last.getFlow (body : Option (List UInt8)) (now : Int64) (w : Write) (l : Last) :
    Last × Except Stop (Option (Flow × Flow)) :=
  match body.bind unmarshalFlow with
  | none => (l, .ok none)
  | some flow =>
    let flow := { flow with timestamp := now }
    match l with
    | .absent => (l.write w flow, w.ignored (.ok none))
    | .broken => (l, .ok none)
    | .saved lastFlow =>
      (l.write w flow,
        w.ignored (if flow.startTime ≠ lastFlow.startTime then .error .exit else .ok (some (flow, lastFlow))))

theorem Last.Is.take {file : Option (List UInt8)} {f : Flow} {n : Nat} (h : file = some (f.text.take n)) :
    (if n < f.text.length then Last.broken else .saved f).Is file := by
  split_ifs with hn
  · refine ⟨_, h, text_cut (List.take_prefix n _) fun heq => ?_⟩
    have hlen := congrArg List.length heq
    rw [List.length_take] at hlen
    omega
  · rw [List.take_of_length_le (by omega)] at h
    exact h

theorem Last.Is.write {file : Option (List UInt8)} {l : Last} (h : l.Is file) (w : Write) (f : Flow) :
    (l.write w f).Is (w.file file f.text) := by
  cases w with
  | whole => rfl
  | cut n => exact .take rfl
  | denied => exact h
  | killed n => exact .take rfl

theorem Last.Is.getFlow {file : Option (List UInt8)} {l : Last} (h : l.Is file) (body : Option (List UInt8))
    (now : Int64) (w : Write) :
    (l.getFlow body now w).1.Is (Monitor.getFlow body now w file).1 ∧
      (Monitor.getFlow body now w file).2 = (l.getFlow body now w).2 := by
  unfold Monitor.getFlow Last.getFlow
  cases body.bind unmarshalFlow with
  | none => exact ⟨h, rfl⟩
  | some flow =>
    cases l with
    | absent =>
      have hwrite := h.write w { flow with timestamp := now }
      obtain rfl := h
      exact ⟨hwrite, rfl⟩
    | broken =>
      obtain ⟨b, rfl, hb⟩ := h
      have hlast : unmarshalLast b = none := by
        rw [unmarshalLast, hb]
        rfl
      simp only [hlast]
      exact ⟨⟨b, rfl, hb⟩, trivial⟩
    | saved lastFlow =>
      have hwrite := h.write w { flow with timestamp := now }
      obtain rfl := h
      simp only [unmarshalLast_text]
      exact ⟨hwrite, trivial⟩

/-! ## Histories -/

/-- What the file is after the run. -/
def Last.next (l : Last) (r : Run) : Last := (l.getFlow r.flowBody r.now r.write).1

section histories

variable {file : Option (List UInt8)} {l : Last} (db : DBType)

theorem Last.Is.main (h : l.Is file) (r : Run) : (l.next r).Is (main db file r).1 :=
  (h.getFlow r.flowBody r.now r.write).1

theorem Last.Is.mains (h : l.Is file) (rs : List Run) : (rs.foldl Last.next l).Is (mains db file rs).1 := by
  induction rs generalizing file l with
  | nil => exact h
  | cons r rs ih => exact ih (h.main db r)

/-- The run writes a part of the counters only. -/
def Run.Cuts (r : Run) : Prop :=
  ∃ flow n, r.flowBody.bind unmarshalFlow = some flow ∧ (r.write = .cut n ∨ r.write = .killed n) ∧
    n < ({ flow with timestamp := r.now } : Flow).text.length

theorem Last.write_eq_broken {w : Write} {f : Flow} :
    l.write w f = .broken ↔ (w = .denied ∧ l = .broken) ∨ ∃ n, (w = .cut n ∨ w = .killed n) ∧ n < f.text.length := by
  cases w with
  | whole => simp [Last.write]
  | cut n => simp [Last.write]
  | denied => simp [Last.write]
  | killed n => simp [Last.write]

theorem Last.next_eq_broken {r : Run} : l.next r = .broken ↔ l = .broken ∨ r.Cuts := by
  unfold Last.next Last.getFlow Run.Cuts
  cases r.flowBody.bind unmarshalFlow with
  | none => simp
  | some flow =>
    cases l with
    | absent => simp [Last.write_eq_broken]
    | broken => simp
    | saved f => simp [Last.write_eq_broken]

theorem Last.foldl_eq_broken (rs : List Run) : rs.foldl Last.next l = .broken ↔ l = .broken ∨ ∃ r ∈ rs, r.Cuts := by
  induction rs generalizing l with
  | nil => simp
  | cons r rs ih =>
    rw [List.foldl_cons, ih, Last.next_eq_broken]
    simp only [List.mem_cons, exists_eq_or_imp, or_assoc]

def Outcome.PostsFlow : Outcome → Prop
  | .returned (.posted _ _ _) _ => True
  | .returned .failed _ | .stopped _ => False

theorem mains_of_broken (h : Last.broken.Is file) (rs : List Run) :
    mains db file rs = (file, rs.map fun r => .returned .failed (db.put r.sysPost (system r.sysBody))) := by
  induction rs with
  | nil => rfl
  | cons r rs ih =>
    obtain ⟨b, rfl, hb⟩ := h
    have hlast : unmarshalLast b = none := by
      rw [unmarshalLast, hb]
      rfl
    have hgot : getFlow r.flowBody r.now r.write (some b) = (some b, .ok none) := by
      unfold getFlow
      simp only [hlast]
      split <;> rfl
    have hmain : main db (some b) r = (some b, .returned .failed (db.put r.sysPost (system r.sysBody))) := by
      rw [main, hgot]
      rfl
    simp only [mains, hmain, ih, List.map_cons]

theorem Counter.read_timestamp (c : Counter) (f : Flow) (now : Int64) :
    c.read { f with timestamp := now } = c.read f := by
  rcases c with c | c | c <;> cases c <;> rfl

def Post.taken : Post := ⟨.ok [], true⟩

def Run.of (f : Flow) (now : Int64) : Run := ⟨some f.text, none, now, .whole, .taken, .taken⟩

def again (f : Flow) : Run := .of f (f.timestamp + 1)

theorem rates_eq_ok {flow lastFlow : Flow} {cs : List Counter} {value : Counter → Int64}
    (h : ∀ c ∈ cs, rate (c.read flow) (c.read lastFlow) (flow.timestamp - lastFlow.timestamp) = .ok (value c)) :
    rates flow lastFlow cs = .ok (cs.map fun c => c.point (value c)) := by
  unfold rates
  induction cs with
  | nil => rfl
  | cons c cs ih =>
    obtain ⟨hc, hcs⟩ := List.forall_mem_cons.mp h
    rw [List.mapM_cons, hc, ih hcs]
    rfl

theorem rate_again (f : Flow) (c : Counter) :
    rate (c.read { f with timestamp := f.timestamp + 1 }) (c.read f) (f.timestamp + 1 - f.timestamp) = .ok 0 := by
  have hdelta : f.timestamp + 1 - f.timestamp = 1 := by rw [Int64.add_comm, Int64.add_sub_cancel]
  rw [c.read_timestamp, hdelta, rate, Int64.sub_self]
  rfl

theorem getFlow_saved {body : List UInt8} {flow lastFlow : Flow} (h : unmarshalFlow body = some flow)
    (hstart : flow.startTime = lastFlow.startTime) (now : Int64) :
    getFlow (some body) now .whole (some lastFlow.text) =
      (some ({ flow with timestamp := now } : Flow).text, .ok (some ({ flow with timestamp := now }, lastFlow))) := by
  simp only [getFlow, Option.bind_some, h, unmarshalLast_text]
  rw [if_neg (not_not.mpr hstart)]
  rfl

theorem postsFlow_again (f : Flow) : (main db (some f.text) (again f)).2.PostsFlow := by
  have hgot := getFlow_saved (unmarshalFlow_text f) rfl (f.timestamp + 1)
  have hrates := rates_eq_ok fun c (_ : c ∈ db.counters) => rate_again f c
  simp only [main, again, Run.of, hgot, Except.bind, DBType.netflow, hrates, Except.map]
  trivial

theorem main_first (f : Flow) : (main db none (.of f f.timestamp)).1 = some f.text := by
  simp only [main, Run.of, getFlow, Option.bind_some, unmarshalFlow_text]
  rfl

theorem exists_postsFlow (h : l.Is file) (hl : l ≠ .broken) : ∃ rs, ∃ o ∈ (mains db file rs).2, o.PostsFlow := by
  cases l with
  | absent =>
    obtain rfl : file = none := h
    generalize ({} : Flow) = f
    refine ⟨[.of f f.timestamp, again f], _, ?_, postsFlow_again db f⟩
    rw [mains_cons, mains_cons, main_first]
    exact List.mem_cons_of_mem _ List.mem_cons_self
  | saved f =>
    obtain rfl : file = some f.text := h
    refine ⟨[again f], _, ?_, postsFlow_again db f⟩
    rw [mains_cons]
    exact List.mem_cons_self
  | broken => exact absurd rfl hl

/-- **The monitor falls silent for good exactly if a write of its file was cut short.** -/
theorem silent_iff (rs : List Run) :
    (∀ rs', ∀ o ∈ (mains db (mains db none rs).1 rs').2, ¬o.PostsFlow) ↔ ∃ r ∈ rs, r.Cuts := by
  have hfile : (rs.foldl Last.next .absent).Is (mains db none rs).1 := Last.Is.mains (l := .absent) db rfl rs
  have hbroken : rs.foldl Last.next .absent = .broken ↔ ∃ r ∈ rs, r.Cuts := by
    simpa using Last.foldl_eq_broken (l := .absent) rs
  rw [← hbroken]
  constructor
  · intro hsilent
    by_contra hne
    obtain ⟨rs', o, ho, hposts⟩ := exists_postsFlow db hfile hne
    exact hsilent rs' o ho hposts
  · intro heq rs' o ho
    rw [mains_of_broken db (heq ▸ hfile)] at ho
    obtain ⟨r, -, rfl⟩ := List.mem_map.mp ho
    exact id

end histories

end VFlow.Monitor
