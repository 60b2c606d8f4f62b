import VFlow.Sflow.Values

/-!
# The type filter

A filter drops from the datagram what the samples of its formats would have added, and nothing else
(`filter_agrees`): a sample that is passed over by its declared length ends where the decoder of its format
would have ended.
-/

namespace VFlow.Sflow

open Scan

/-- The datagram without the samples and counters of some formats. -/
def SFDatagram.without (filter : List UInt32) (d : SFDatagram) : SFDatagram :=
  { d with
    samples := d.samples.filter fun s => s.format ∉ filter
    counters := d.counters.filter fun _ => dataCounterSample ∉ filter }

theorem append_keep (filter : List UInt32) (d : SFDatagram) (item : Item) :
    (d.without filter).append (item.keep filter) = (d.append item).without filter := by
  match item with
  | .skipped => rfl
  | .sample s =>
    by_cases hs : s.format ∈ filter <;> simp [Item.keep, SFDatagram.append, SFDatagram.without, hs]
  | .counter s =>
    by_cases hs : dataCounterSample ∈ filter <;> simp [Item.keep, SFDatagram.append, SFDatagram.without, hs]

theorem foldl_append_keep (filter : List UInt32) (items : List Item) (d : SFDatagram) :
    (items.map (Item.keep filter)).foldl SFDatagram.append (d.without filter) =
      (items.foldl SFDatagram.append d).without filter := by
  induction items generalizing d with
  | nil => rfl
  | cons item items ih =>
    rw [List.map_cons, List.foldl_cons, List.foldl_cons, append_keep, ih]

theorem foldl_append_colTime (items : List Item) (d : SFDatagram) (now : Int) :
    items.foldl SFDatagram.append { d with colTime := now } =
      { items.foldl SFDatagram.append d with colTime := now } := by
  rw [foldl_append, foldl_append]

theorem filter_agrees (filter : List UInt32) (now now' : Int) (d : WireDatagram)
    (hread : ∀ s ∈ d.samples, s.Decodable) :
    ∃ D, sfDecode [] now d.encode = .returned (some D) none ∧
      sfDecode filter now' d.encode = .returned (some { D.without filter with colTime := now' }) none := by
  have hno : (d.samples.map WireSample.encode).length < 2 ^ 32 := by
    rw [List.length_map]
    exact d.samples_lt
  have hone : ∀ s ∈ d.samples, Parses (samplePass []) s.encode s.read :=
    fun s hs => parses_samplePass (d.samples_ok s hs) (hread s hs)
  have hkeep : List.Forall₂ (Parses (samplePass filter)) (d.samples.map WireSample.encode)
      ((d.samples.map WireSample.read).map (Item.keep filter)) := by
    rw [List.map_map]
    exact forall₂_map_of_mem fun s hs => parses_filter (d.samples_ok s hs).1 (hone s hs) filter
  refine ⟨_, sfDecode_of_parses d.header_ok hno (forall₂_map_of_mem hone) now, ?_⟩
  rw [WireDatagram.encode, sfDecode_of_parses d.header_ok hno hkeep now', ← foldl_append_keep, ← foldl_append_colTime]
  rfl

def mixedDatagram : WireDatagram where
  header := agentHeader
  samples := [
    .flow {
      sequenceNo := 1
      sourceIDType := 0
      sourceIDIdx := 1
      samplingRate := 512
      samplePool := 1000
      drops := 0
      input := 1
      output := 2
      records := [.extSwitch 10 1 20 2, .unknown 1003 [1, 2, 3, 4]] },
    .counter {
      sequenceNo := 2
      sourceIDType := 0
      sourceIDIdx := 1
      records := [.proc { cpu5s := 1, cpu1m := 2, cpu5m := 3, totalMemory := 4096, freeMemory := 1024 }] },
    .other 5 [0xff]]
  header_ok := agentHeader_ok
  samples_ok := by decide +kernel
  samples_lt := by decide

theorem filter_agrees_counters :
    ∃ D, sfDecode [] 0 mixedDatagram.encode = .returned (some D) none ∧
      sfDecode [2] 1 mixedDatagram.encode = .returned (some { D.without [2] with colTime := 1 }) none :=
  filter_agrees [2] 0 1 mixedDatagram (by decide +kernel)

end VFlow.Sflow
