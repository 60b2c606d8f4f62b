import Mathlib.Algebra.GroupWithZero.Nat
import VFlow.Monitor.Store

/-!
# Rates

While vFlow runs, the monitor reads counters that only grow, and posts their rates: the difference to the last run,
divided by the seconds since, rounded down. What is rounded off is less than the number of the seconds. So the rates,
each over the time that it is for, add up to the growth of the counter but for one event in a second
(`rates_add_up`). Runs that cannot reach vFlow are made up for by the next one that can; runs that cannot reach the
database are not, since the file has the counters already.
-/

namespace VFlow.Monitor

open Daemon (Collector)

/-! ## What vFlow answers -/

/-- `SFlowStats` and `NetflowV9Stats`. -/
structure Stats where
  udpQueue : Int64
  messageQueue : Int64
  udpCount : UInt64
  decodedCount : UInt64
  mqErrorCount : UInt64
  workers : Int32

structure IPFIXStats extends Stats where
  udpMirrorQueue : Int64

/-- The data of `StatsFlowHandler`. -/
structure FlowStats where
  startTime : Int64
  ipfix : IPFIXStats
  sFlow : Stats
  netflowV9 : Stats

def Stats.json (s : Stats) : Json :=
  .struct [("UDPQueue", .int s.udpQueue.toInt), ("MessageQueue", .int s.messageQueue.toInt),
    ("UDPCount", .int s.udpCount.toNat), ("DecodedCount", .int s.decodedCount.toNat),
    ("MQErrorCount", .int s.mqErrorCount.toNat), ("Workers", .int s.workers.toInt)]

def IPFIXStats.json (s : IPFIXStats) : Json :=
  .struct [("UDPQueue", .int s.udpQueue.toInt), ("UDPMirrorQueue", .int s.udpMirrorQueue.toInt),
    ("MessageQueue", .int s.messageQueue.toInt), ("UDPCount", .int s.udpCount.toNat),
    ("DecodedCount", .int s.decodedCount.toNat), ("MQErrorCount", .int s.mqErrorCount.toNat),
    ("Workers", .int s.workers.toInt)]

def FlowStats.json (s : FlowStats) : Json :=
  .struct [("StartTime", .int s.startTime.toInt), ("IPFIX", s.ipfix.json), ("SFlow", s.sFlow.json),
    ("NetflowV9", s.netflowV9.json)]

def FlowStats.text (s : FlowStats) : List UInt8 := s.json.print

def FlowStats.stats (s : FlowStats) : Collector → Stats
  | .ipfix => s.ipfix.toStats
  | .sFlow => s.sFlow
  | .netflowV9 => s.netflowV9

def Counter.count (s : FlowStats) : Counter → Nat
  | .udp c => (s.stats c).udpCount.toNat
  | .decode c => (s.stats c).decodedCount.toNat
  | .mqError c => (s.stats c).mqErrorCount.toNat

def FlowStats.Fits (s : FlowStats) : Prop := ∀ c : Counter, c.count s < 2 ^ 63

def Stats.metrics (s : Stats) : Metrics where
  udpQueue := s.udpQueue
  messageQueue := s.messageQueue
  udpCount := .ofNat s.udpCount.toNat
  decodedCount := .ofNat s.decodedCount.toNat
  mqErrorCount := .ofNat s.mqErrorCount.toNat
  workers := s.workers.toInt64

def FlowStats.flow (s : FlowStats) (now : Int64) : Flow where
  startTime := s.startTime
  timestamp := now
  ipfix := { toMetrics := s.ipfix.metrics, udpMirrorQueue := s.ipfix.udpMirrorQueue }
  sFlow := s.sFlow.metrics
  netflowV9 := s.netflowV9.metrics

section response

variable {s : FlowStats}

theorem Counter.read_flow (h : s.Fits) (now : Int64) (c : Counter) : (c.read (s.flow now)).toInt = c.count s := by
  have hc := h c
  rcases c with c | c | c <;> cases c <;> exact Int64.toInt_ofNat_of_lt hc

def Stats.Fits (s : Stats) : Prop :=
  s.udpCount.toNat < 2 ^ 63 ∧ s.decodedCount.toNat < 2 ^ 63 ∧ s.mqErrorCount.toNat < 2 ^ 63

theorem FlowStats.Fits.stats (h : s.Fits) (c : Collector) : (s.stats c).Fits :=
  ⟨h (.udp c), h (.decode c), h (.mqError c)⟩

theorem Stats.json_eq {s : Stats} (h : s.Fits) : Metrics.codec.json s.metrics = s.json := by
  obtain ⟨hudp, hdecoded, herror⟩ := h
  rw [Stats.json, ← Int64.toInt_ofNat_of_lt hudp, ← Int64.toInt_ofNat_of_lt hdecoded, ← Int64.toInt_ofNat_of_lt herror,
    ← Int32.toInt_toInt64]
  rfl

theorem IPFIXStats.json_eq {s : IPFIXStats} (h : s.toStats.Fits) :
    IPFIX.codec.json { toMetrics := s.metrics, udpMirrorQueue := s.udpMirrorQueue } = s.json := by
  obtain ⟨hudp, hdecoded, herror⟩ := h
  rw [IPFIXStats.json, ← Int64.toInt_ofNat_of_lt hudp, ← Int64.toInt_ofNat_of_lt hdecoded,
    ← Int64.toInt_ofNat_of_lt herror, ← Int32.toInt_toInt64]
  rfl

def sentFields : List (Fin Flow.fields.length) := ([0, 2, 3, 4] : List (Fin 5))

theorem FlowStats.json_eq (h : s.Fits) (now : Int64) :
    s.json = .struct ((sentFields.map Flow.fields.get).map (Field.member (s.flow now))) := by
  have hsFlow : Metrics.codec.json s.sFlow.metrics = s.sFlow.json := Stats.json_eq (h.stats .sFlow)
  have hnetflowV9 : Metrics.codec.json s.netflowV9.metrics = s.netflowV9.json := Stats.json_eq (h.stats .netflowV9)
  rw [FlowStats.json, ← IPFIXStats.json_eq (h.stats .ipfix), ← hsFlow, ← hnetflowV9]
  rfl

theorem unmarshalFlow_stats (h : s.Fits) : unmarshalFlow s.text = some (s.flow 0) := by
  have hutf8 : s.json.Utf8 := by
    rw [FlowStats.json_eq h 0, Json.utf8_struct]
    intro m hm
    obtain ⟨f, -, rfl⟩ := List.mem_map.mp hm
    exact f.codec.utf8 _
  rw [unmarshalFlow, FlowStats.text, Json.unmarshal_print hutf8, FlowStats.json_eq h 0]
  refine Codec.decode_members Flow.distinctNames _ sentFields fun i hi => ?_
  have htimestamp : ∀ i : Fin 5, i ∉ ([0, 2, 3, 4] : List (Fin 5)) → i = 1 := by decide
  obtain rfl := htimestamp i hi
  rfl

end response

/-! ## One rate -/

theorem toInt_sub_of_le {a b : Int64} (hb : 0 ≤ b.toInt) (h : b.toInt ≤ a.toInt) :
    (a - b).toInt = a.toInt - b.toInt := by
  have hlt := a.toInt_lt
  rw [Int64.toInt_sub, Int.bmod_eq_of_le_mul_two (by omega) (by omega)]

theorem toInt_div_of_nonneg {a b : Int64} (ha : 0 ≤ a.toInt) (hb : 0 < b.toInt) :
    (a / b).toInt = a.toInt / b.toInt := by
  have hlt := a.toInt_lt
  have hnonneg := Int.ediv_nonneg ha hb.le
  have hle := Int.ediv_le_self b.toInt ha
  rw [Int64.toInt_div, Int.tdiv_eq_ediv_of_nonneg ha, Int.bmod_eq_of_le_mul_two (by omega) (by omega)]

theorem rate_of_le {new old delta : Int64} (hold : 0 ≤ old.toInt) (hle : old.toInt ≤ new.toInt)
    (hdelta : 0 < delta.toInt) :
    rate new old delta = .ok ((new - old) / delta) ∧
      ((new - old) / delta).toInt = (new.toInt - old.toInt) / delta.toInt := by
  have hsub := toInt_sub_of_le hold hle
  have hdiv : ((new - old) / delta).toInt = (new.toInt - old.toInt) / delta.toInt := by
    rw [toInt_div_of_nonneg (by omega) hdelta, hsub]
  have hnonneg : 0 ≤ (new.toInt - old.toInt) / delta.toInt := Int.ediv_nonneg (by omega) hdelta.le
  refine ⟨?_, hdiv⟩
  have hzero : delta ≠ 0 := by
    rintro rfl
    exact absurd hdelta (by decide)
  have hpos : ¬(new - old) / delta < 0 := by
    rw [Int64.lt_iff_toInt_lt, hdiv]
    exact not_lt.mpr hnonneg
  rw [rate, if_neg hzero, if_neg hpos]

/-! ## The points of a run -/

@[simp] theorem Counter.value_point (c : Counter) (v : Int64) : (c.point v).value = v := by
  cases c <;> rfl

/-- The point is the rate of this counter. -/
def Counter.names (c : Counter) (p : Point) : Bool := p.metric = (c.point 0).metric ∧ p.type = (c.point 0).type

theorem Counter.names_point_iff {c c' : Counter} {v : Int64} : c.names (c'.point v) = true ↔ c = c' := by
  rcases c with c | c | c <;> rcases c' with c' | c' | c' <;> cases c <;> cases c' <;>
    simp [Counter.names, Counter.point, typeTag]

theorem find?_names {c : Counter} {cs : List Counter} (hc : c ∈ cs) (value : Counter → Int64) (rest : List Point) :
    (cs.map (fun c => c.point (value c)) ++ rest).find? c.names = some (c.point (value c)) := by
  induction cs with
  | nil => cases hc
  | cons c' cs ih =>
    rw [List.map_cons, List.cons_append]
    by_cases h : c = c'
    · rw [List.find?_cons_of_pos (Counter.names_point_iff.mpr h), h]
    · rw [List.find?_cons_of_neg (mt Counter.names_point_iff.mp h)]
      exact ih ((List.mem_cons.mp hc).resolve_left h)

def Outcome.value (c : Counter) : Outcome → Option Int64
  | .returned (.posted points post _) _ => if post.stored then (points.find? c.names).map Point.value else none
  | .returned .failed _ | .stopped _ => none

/-! ## A lifetime of vFlow -/

/-- A run of the monitor that writes its file, with the response of vFlow if there is one. -/
structure Visit where
  stats : Option FlowStats
  now : Int64
  post : Post := .taken
  sysBody : Option (List UInt8) := none
  sysPost : Post := .taken

def Visit.run (v : Visit) : Run := ⟨v.stats.map FlowStats.text, v.sysBody, v.now, .whole, v.post, v.sysPost⟩

/-- A response, and when it was had. -/
structure Sample where
  stats : FlowStats
  time : Int64

def Sample.flow (x : Sample) : Flow := x.stats.flow x.time

def Sample.next (x : Sample) (v : Visit) : Sample :=
  match v.stats with
  | none => x
  | some stats => ⟨stats, v.now⟩

/-- A later response of the same vFlow. -/
structure Sample.Follows (x y : Sample) : Prop where
  startTime : y.stats.startTime = x.stats.startTime
  grows : ∀ c : Counter, c.count x.stats ≤ c.count y.stats
  fits : y.stats.Fits
  later : x.time.toInt < y.time.toInt

/-- Visits to one vFlow after the response `x`. -/
def Lifetime (x : Sample) : List Visit → Prop
  | [] => True
  | v :: vs => (v.stats ≠ none → x.Follows (x.next v)) ∧ Lifetime (x.next v) vs

theorem main_of_follows (db : DBType) {x y : Sample} (hfits : x.stats.Fits) (htime : 0 ≤ x.time.toInt)
    (h : x.Follows y) (post : Post) (sysBody : Option (List UInt8)) (sysPost : Post) :
    ∃ value : Counter → Int64,
      main db (some x.flow.text) (Visit.run ⟨some y.stats, y.time, post, sysBody, sysPost⟩) =
        (some y.flow.text, .returned
          (.posted (db.counters.map (fun c => c.point (value c)) ++ db.gauges y.flow) post (db.postError post))
          (db.put sysPost (system sysBody))) ∧
      ∀ c, (value c).toInt = ((c.count y.stats : Int) - c.count x.stats) / (y.time.toInt - x.time.toInt) := by
  have hdelta : (y.flow.timestamp - x.flow.timestamp).toInt = y.time.toInt - x.time.toInt :=
    toInt_sub_of_le htime h.later.le
  have hlater := h.later
  have hold (c : Counter) : 0 ≤ (c.read x.flow).toInt := by
    rw [Sample.flow, Counter.read_flow hfits]
    exact Int.natCast_nonneg _
  have hgrows (c : Counter) : (c.read x.flow).toInt ≤ (c.read y.flow).toInt := by
    rw [Sample.flow, Sample.flow, Counter.read_flow hfits, Counter.read_flow h.fits]
    exact_mod_cast h.grows c
  have hpos : 0 < (y.flow.timestamp - x.flow.timestamp).toInt := by omega
  have hrate (c : Counter) := rate_of_le (hold c) (hgrows c) hpos
  have hrates := rates_eq_ok fun c (_ : c ∈ db.counters) => (hrate c).1
  have hstart : (y.stats.flow 0).startTime = x.flow.startTime := h.startTime
  have hgot : getFlow (some y.stats.text) y.time .whole (some x.flow.text) =
      (some y.flow.text, .ok (some (y.flow, x.flow))) :=
    getFlow_saved (unmarshalFlow_stats h.fits) hstart y.time
  refine ⟨fun c => (c.read y.flow - c.read x.flow) / (y.flow.timestamp - x.flow.timestamp), ?_, fun c => ?_⟩
  · simp only [main, Visit.run, Option.map_some, hgot, Except.bind, DBType.netflow, hrates, Except.map, DBType.put]
  · rw [(hrate c).2, hdelta, Sample.flow, Sample.flow, Counter.read_flow hfits, Counter.read_flow h.fits]

/-- The rates of a counter that the database got, each over the time since the response before. -/
def area (c : Counter) : Sample → List Visit → List Outcome → Int
  | x, v :: vs, o :: os =>
    (match o.value c with
      | some value => value.toInt * (v.now.toInt - x.time.toInt)
      | none => 0) + area c (x.next v) vs os
  | _, _, _ => 0

/-- The growth of a counter up to the responses whose rates the database did not get. -/
def missed (c : Counter) : Sample → List Visit → Int
  | x, v :: vs =>
    (if v.post.stored then 0 else (c.count (x.next v).stats : Int) - c.count x.stats) + missed c (x.next v) vs
  | _, [] => 0

theorem missed_nonneg (c : Counter) {x : Sample} {vs : List Visit} (h : Lifetime x vs) : 0 ≤ missed c x vs := by
  induction vs generalizing x with
  | nil => exact Int.le_refl _
  | cons v vs ih =>
    have hrest := ih h.2
    have hgrows : (c.count x.stats : Int) ≤ c.count (x.next v).stats := by
      cases hv : v.stats with
      | none => rw [Sample.next, hv]
      | some stats => exact_mod_cast (h.1 (by simp [hv])).grows c
    rw [missed]
    split <;> omega

theorem missed_of_stored (c : Counter) {x : Sample} {vs : List Visit} (h : ∀ v ∈ vs, v.post.stored = true) :
    missed c x vs = 0 := by
  induction vs generalizing x with
  | nil => rfl
  | cons v vs ih =>
    obtain ⟨hv, hvs⟩ := List.forall_mem_cons.mp h
    rw [missed, if_pos hv, ih hvs, Int.add_zero]

/-- **The rates that the database got add up to the growth of the counter, less what it missed, but for one event in a
second.** -/
theorem rates_add_up (db : DBType) {c : Counter} (hc : c ∈ db.counters) {x : Sample} (hfits : x.stats.Fits)
    (htime : 0 ≤ x.time.toInt) {vs : List Visit} (h : Lifetime x vs) :
    area c x vs (mains db (some x.flow.text) (vs.map Visit.run)).2 + missed c x vs ≤
        (c.count (vs.foldl Sample.next x).stats : Int) - c.count x.stats ∧
      (c.count (vs.foldl Sample.next x).stats : Int) - c.count x.stats ≤
        area c x vs (mains db (some x.flow.text) (vs.map Visit.run)).2 + missed c x vs +
          ((vs.foldl Sample.next x).time.toInt - x.time.toInt) := by
  induction vs generalizing x with
  | nil => simp [area, missed]
  | cons v vs ih =>
    obtain ⟨stats, now, post, sysBody, sysPost⟩ := v
    cases stats with
    | none =>
      -- without a response nothing is posted, and the file stays as it is
      have hmain : main db (some x.flow.text) (Visit.run ⟨none, now, post, sysBody, sysPost⟩) =
          (some x.flow.text, .returned .failed (db.put sysPost (system sysBody))) := rfl
      obtain ⟨hle, hge⟩ := ih hfits htime h.2
      simp only [List.map_cons, mains, hmain, List.foldl_cons, area, missed, Outcome.value, Sample.next, Int.sub_self,
        ite_self] at hle hge ⊢
      omega
    | some stats =>
      have hfollows : x.Follows ⟨stats, now⟩ := h.1 (by simp)
      obtain ⟨value, hmain, hvalue⟩ := main_of_follows db hfits htime hfollows post sysBody sysPost
      have hlater : x.time.toInt < now.toInt := hfollows.later
      have hpos : 0 < now.toInt - x.time.toInt := Int.sub_pos_of_lt hlater
      obtain ⟨hle, hge⟩ := ih hfollows.fits (htime.trans hlater.le) h.2
      have hfind := find?_names hc value (db.gauges (Sample.flow ⟨stats, now⟩))
      -- the rate is rounded down
      have hdown := Int.ediv_mul_le ((c.count stats : Int) - c.count x.stats) hpos.ne'
      have hup := Int.lt_ediv_add_one_mul_self ((c.count stats : Int) - c.count x.stats) hpos
      rw [← hvalue c] at hdown hup
      rw [Int.add_mul, Int.one_mul] at hup
      cases hstored : post.stored with
      | true =>
        simp only [List.map_cons, mains, hmain, List.foldl_cons, area, missed, Outcome.value, hstored, if_true, hfind,
          Option.map_some, Counter.value_point, Sample.next] at hle hge ⊢
        omega
      | false =>
        simp only [List.map_cons, mains, hmain, List.foldl_cons, area, missed, Outcome.value, hstored,
          Bool.false_eq_true, if_false, Sample.next] at hle hge ⊢
        omega

end VFlow.Monitor
