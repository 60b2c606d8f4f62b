import Mathlib.Data.List.Sort
import VFlow.CacheFile
import VFlow.Codec
import VFlow.Ipfix.Decoder
import VFlow.Netflow9.Decoder

/-!
# The template cache through restarts

`Dump` writes the cache as JSON, and `GetCache` reads it when the collector starts again. `ioutil.WriteFile` truncates
the file and then writes, so that a collector that is stopped while it dumps leaves a part of the text.

The text of a cache is read as a cache with the same templates (`toMemCache_reloaded`), and no part of it is read
at all, so that the collector starts with an empty cache then (`getCache_cut`). Over any number of lifetimes the cache
and its file are therefore a map and its last snapshot, which an interrupted dump makes empty (`lifetimes_refine`).
-/

namespace VFlow

/-! ## Templates -/

def Ipfix.specifierCodec : Codec Ipfix.TemplateFieldSpecifier :=
  .struct ⟨0, 0, 0⟩ [
    .mk "ElementID" .uint16 (·.elementID) ({ · with elementID := · }),
    .mk "Length" .uint16 (·.length) ({ · with length := · }),
    .mk "EnterpriseNo" .uint32 (·.enterpriseNo) ({ · with enterpriseNo := · })] (by decide +kernel) fun _ => rfl

def Ipfix.templateCodec : Codec Ipfix.TemplateRecord :=
  .struct {} [
    .mk "TemplateID" .uint16 (·.templateID) ({ · with templateID := · }),
    .mk "FieldCount" .uint16 (·.fieldCount) ({ · with fieldCount := · }),
    .mk "FieldSpecifiers" specifierCodec.slice (·.fieldSpecifiers) ({ · with fieldSpecifiers := · }),
    .mk "ScopeFieldCount" .uint16 (·.scopeFieldCount) ({ · with scopeFieldCount := · }),
    .mk "ScopeFieldSpecifiers" specifierCodec.slice (·.scopeFieldSpecifiers) ({ · with scopeFieldSpecifiers := · })]
    (by decide +kernel) fun _ => rfl

def Netflow9.specifierCodec : Codec Netflow9.TemplateFieldSpecifier :=
  .struct ⟨0, 0⟩ [
    .mk "ElementID" .uint16 (·.elementID) ({ · with elementID := · }),
    .mk "Length" .uint16 (·.length) ({ · with length := · })] (by decide +kernel) fun _ => rfl

def Netflow9.templateCodec : Codec Netflow9.TemplateRecord :=
  .struct {} [
    .mk "TemplateID" .uint16 (·.templateID) ({ · with templateID := · }),
    .mk "FieldCount" .uint16 (·.fieldCount) ({ · with fieldCount := · }),
    .mk "FieldSpecifiers" specifierCodec.slice (·.fieldSpecifiers) ({ · with fieldSpecifiers := · }),
    .mk "ScopeFieldCount" .uint16 (·.scopeFieldCount) ({ · with scopeFieldCount := · }),
    .mk "ScopeFieldSpecifiers" specifierCodec.slice (·.scopeFieldSpecifiers) ({ · with scopeFieldSpecifiers := · })]
    (by decide +kernel) fun _ => rfl

namespace CacheFile

/-- What the cache has for a template: the record, and when it was stored. -/
structure Data (R : Type) where
  template : R
  timestamp : Int64

def Data.codec {R : Type} (k : Codec R) : Codec (Data R) :=
  .struct ⟨k.value k.zero, 0⟩ [
    .mk "Template" k (·.template) ({ · with template := · }),
    .mk "Timestamp" .int64 (·.timestamp) ({ · with timestamp := · })]
    (show (["Template", "Timestamp"] : List String).Pairwise _ by decide +kernel) fun _ => rfl

variable {T : Type}

/-! ## Maps -/

/-- The entries of a map: those that no other entry hides. -/
def entries : List (UInt32 × T) → List (UInt32 × T)
  | [] => []
  | e :: ts => e :: (entries ts).filter (·.1 ≠ e.1)

theorem lookup_filter_ne {key key' : UInt32} (h : key ≠ key') (ts : List (UInt32 × T)) :
    (ts.filter (·.1 ≠ key')).lookup key = ts.lookup key := by
  induction ts with
  | nil => rfl
  | cons e ts ih =>
    obtain ⟨key₁, t⟩ := e
    by_cases hkey : key₁ = key'
    · rw [List.filter_cons_of_neg (by simp [hkey]), ih, List.lookup_cons, beq_false_of_ne (hkey ▸ h)]
    · rw [List.filter_cons_of_pos (by simp [hkey]), List.lookup_cons, List.lookup_cons, ih]

theorem lookup_entries (key : UInt32) (ts : List (UInt32 × T)) : (entries ts).lookup key = ts.lookup key := by
  induction ts with
  | nil => rfl
  | cons e ts ih =>
    obtain ⟨key₁, t⟩ := e
    rw [entries, List.lookup_cons, List.lookup_cons]
    by_cases hkey : key = key₁
    · simp [hkey]
    · rw [beq_false_of_ne hkey]
      exact (lookup_filter_ne hkey _).trans ih

theorem nodup_entries (ts : List (UInt32 × T)) : ((entries ts).map Prod.fst).Nodup := by
  induction ts with
  | nil => exact .nil
  | cons e ts ih =>
    rw [entries, List.map_cons, List.nodup_cons]
    refine ⟨fun hmem => ?_, ih.sublist (List.filter_sublist.map _)⟩
    obtain ⟨e', he', heq⟩ := List.mem_map.mp hmem
    have hne := (List.mem_filter.mp he').2
    simp [heq] at hne

theorem lookup_eq_some_iff {ts : List (UInt32 × T)} (h : (ts.map Prod.fst).Nodup) {key : UInt32} {t : T} :
    ts.lookup key = some t ↔ (key, t) ∈ ts := by
  induction ts with
  | nil => simp
  | cons e ts ih =>
    obtain ⟨key₁, t₁⟩ := e
    rw [List.map_cons, List.nodup_cons] at h
    rw [List.lookup_cons, List.mem_cons, ← ih h.2]
    by_cases hkey : key = key₁
    · have hnot : ts.lookup key ≠ some t := by
        rw [Ne, ih h.2]
        exact fun hmem => h.1 (List.mem_map.mpr ⟨(key, t), hmem, hkey⟩)
      simp [hkey, eq_comm, hkey ▸ hnot]
    · simp [beq_false_of_ne hkey, hkey]

theorem lookup_perm {ts us : List (UInt32 × T)} (h : (ts.map Prod.fst).Nodup) (hperm : us.Perm ts) (key : UInt32) :
    us.lookup key = ts.lookup key := by
  have hus : (us.map Prod.fst).Nodup := (hperm.map _).nodup_iff.mpr h
  refine Option.ext fun t => ?_
  rw [lookup_eq_some_iff hus, lookup_eq_some_iff h, hperm.mem_iff]

/-! ## `Dump` -/

open Json (decimal text)

/-- The entries in the order in which they are written, which is that of the texts of their keys. -/
def sorted (ts : List (UInt32 × T)) : List (UInt32 × T) :=
  (entries ts).insertionSort fun e e' => decimal e.1.toNat ≤ decimal e'.1.toNat

def templatesJson (k : Codec T) : Option (List (UInt32 × T)) → Json
  | none => .null
  | some ts => .obj ((sorted ts).map fun e => (decimal e.1.toNat, k.json e.2))

/-- The lock of a shard has no members of its own. -/
def shardJson (k : Codec T) : Option (TemplatesShard T) → Json
  | none => .null
  | some shard => .struct [("Templates", templatesJson k shard.templates)]

def cacheJson (k : Codec T) (m : Shards T) : Json :=
  .struct [("Cache", .arr (m.map (shardJson k))), ("ShardNo", .int shardNo)]

/-- What `Dump` writes. -/
def dumpText (k : Codec T) (m : Shards T) : List UInt8 := (cacheJson k m).print

section utf8

variable (k : Codec T)

theorem utf8_templatesJson (ts : Option (List (UInt32 × T))) : (templatesJson k ts).Utf8 := by
  cases ts with
  | none => exact .null
  | some ts =>
    refine .obj (fun m hm => ?_) fun m hm => ?_
    · obtain ⟨e, -, rfl⟩ := List.mem_map.mp hm
      exact Json.utf8Valid_text _
    · obtain ⟨e, -, rfl⟩ := List.mem_map.mp hm
      exact k.utf8 e.2

theorem utf8_shardJson (shard : Option (TemplatesShard T)) : (shardJson k shard).Utf8 := by
  cases shard with
  | none => exact .null
  | some shard => simpa [shardJson] using utf8_templatesJson k shard.templates

theorem utf8_cacheJson (m : Shards T) : (cacheJson k m).Utf8 := by
  rw [cacheJson, Json.utf8_struct]
  simp [utf8_shardJson]

end utf8

/-! ## What was dumped is read -/

def reloaded (shard : TemplatesShard T) : TemplatesShard T where
  templates := shard.templates.map fun ts => (sorted ts).reverse

theorem readKey_decimal (key : UInt32) : readKey (decimal key.toNat) = some key := by
  have hdigits : (decimal key.toNat).all Json.isDigit = true :=
    List.all_eq_true.mpr (Json.isDigit_of_mem_decimal key.toNat)
  rw [readKey, Json.digitsValue_decimal, if_pos ⟨Json.decimal_ne_nil _, hdigits, key.toNat_lt⟩, UInt32.ofNat_toNat]

variable {k : Codec T}

theorem readTemplates_json (ts : Option (List (UInt32 × T))) :
    readTemplates k.decode none (templatesJson k ts) = some (ts.map fun ts => (sorted ts).reverse) := by
  cases ts with
  | none => rfl
  | some ts =>
    have hentry (e : UInt32 × T) : (do
        let key ← readKey (decimal e.1.toNat)
        let tr ← k.decode (k.json e.2)
        return (key, tr)) = some e := by
      rw [readKey_decimal, k.decode_json]
      rfl
    have hentries : ((sorted ts).map fun e => (decimal e.1.toNat, k.json e.2)).mapM (fun m => do
        let key ← readKey m.1
        let tr ← k.decode m.2
        return (key, tr)) = some (sorted ts) := by
      rw [List.mapM_map]
      exact (congrArg (fun f => (sorted ts).mapM f) (funext hentry)).trans (Json.mapM_some _)
    rw [templatesJson, readTemplates, Json.unmarshalPtr_obj, Json.unmarshalMap, hentries]
    simp

theorem readShard_json (shard : Option (TemplatesShard T)) :
    readShard k.decode none (shardJson k shard) = some (shard.map reloaded) := by
  cases shard with
  | none => rfl
  | some shard =>
    have hname : Json.named "Templates" (text "Templates") = true := Json.named_self _
    simp [shardJson, Json.struct, readShard, Json.unmarshalPtr_obj, Json.unmarshalStruct, Json.setMember,
      Json.Setter.of, hname, readTemplates_json, reloaded]

theorem readDocument_json (m : Shards T) :
    readDocument k.decode (cacheJson k m) = some (dump (m.map (Option.map reloaded))) := by
  have hcache : Json.named "Cache" (text "Cache") = true := Json.named_self _
  have hno : Json.named "Cache" (text "ShardNo") = false ∧ Json.named "ShardNo" (text "ShardNo") = true := by
    decide +kernel
  have hshards : readShards k.decode none (.arr (m.map (shardJson k))) =
      some (some { live := m.map (Option.map reloaded) }) := by
    rw [readShards, Json.unmarshalPtr_arr, Option.getD_none, Json.unmarshalSlice_empty readShard_json, Option.map_some]
  simp [cacheJson, Json.struct, readDocument, readMembers, Json.unmarshalStruct, Json.setMember, Json.Setter.of, hcache,
    hno, hshards, readNumber, Json.unmarshalInt, VFlow.shardNo, dump]

theorem getCache_dumpText (m : Shards T) :
    getCache (readFile k.decode) (some (dumpText k m)) = m.map (Option.map reloaded) := by
  refine getCache_dump ?_
  rw [readFile, dumpText, Json.unmarshal_print (utf8_cacheJson k m)]
  exact readDocument_json m

theorem lookup_sorted (ts : List (UInt32 × T)) (key : UInt32) : (sorted ts).reverse.lookup key = ts.lookup key := by
  have hperm : (sorted ts).reverse.Perm (entries ts) := (List.reverse_perm _).trans (List.perm_insertionSort _ _)
  rw [lookup_perm (nodup_entries ts) hperm, lookup_entries]

theorem toMemCache_reloaded (m : Shards T) : toMemCache (m.map (Option.map reloaded)) = toMemCache m := by
  refine MemCache.ext (funext fun i => funext fun key => ?_)
  dsimp only [toMemCache]
  rw [List.getElem?_map]
  obtain _ | _ | ⟨_ | ts⟩ := m[i.val]?
  · rfl
  · rfl
  · rfl
  · exact lookup_sorted ts key

theorem complete_reloaded {m : Shards T} (h : Complete m) : Complete (m.map (Option.map reloaded)) := by
  refine ⟨by rw [List.length_map, h.1], fun s hs => ?_⟩
  obtain ⟨s', hs', rfl⟩ := List.mem_map.mp hs
  obtain ⟨ts, rfl⟩ := h.2 s' hs'
  exact ⟨_, rfl⟩

/-- **A dump that was interrupted is not read.** -/
theorem getCache_cut {m : Shards T} {b : List UInt8} (hb : b <+: dumpText k m) (hne : b ≠ dumpText k m) :
    getCache (readFile k.decode) (some b) = fresh := by
  have hparse : Json.unmarshal b = none := Json.parseAs_cut (utf8_cacheJson k m) hb hne
  rw [getCache, readFile, hparse]
  rfl

/-! ## Lifetimes -/

/-- The cache of a collector and its file. -/
structure Store (T : Type) where
  cache : Shards T
  file : Option (List UInt8)

inductive Event (T : Type) where
  | use (op : Operation T)
  | dump
  /-- The collector is stopped after `n` bytes of the dump. -/
  | interrupt (n : Nat)
  | restart

def Store.next (k : Codec T) (s : Store T) : Event T → Option (Store T)
  | .use op => (step s.cache op).toOption.map fun cache => { s with cache }
  | .dump => some { s with file := some (dumpText k s.cache) }
  | .interrupt n =>
    if n < (dumpText k s.cache).length then some { s with file := some ((dumpText k s.cache).take n) } else none
  | .restart => some { s with cache := getCache (readFile k.decode) s.file }

def Store.Step (k : Codec T) (s : Store T) (e : Event T) (s' : Store T) : Prop := s.next k e = some s'

def Store.start : Store T := ⟨fresh, none⟩

/-- A map, and what is left of it when the collector starts again. -/
structure Snapshot (T : Type) where
  cache : MemCache T
  saved : MemCache T

def Snapshot.next (s : Snapshot T) : Event T → Snapshot T
  | .use op => { s with cache := mapStep s.cache op }
  | .dump => { s with saved := s.cache }
  | .interrupt _ => { s with saved := .empty }
  | .restart => { s with cache := s.saved }

def Snapshot.start : Snapshot T := ⟨.empty, .empty⟩

/-- The store has this map, can be used, and starts again with this snapshot. -/
structure Store.Has (k : Codec T) (s : Store T) (x : Snapshot T) : Prop where
  complete : Complete s.cache
  cache : toMemCache s.cache = x.cache
  again : Complete (getCache (readFile k.decode) s.file)
  saved : toMemCache (getCache (readFile k.decode) s.file) = x.saved

theorem Store.Has.next {s s' : Store T} {x : Snapshot T} {e : Event T} (h : s.Has k x) (hs : s.Step k e s') :
    s'.Has k (x.next e) := by
  unfold Store.Step at hs
  cases e with
  | use op =>
    obtain ⟨m, hm, rfl⟩ := Option.map_eq_some_iff.mp hs
    obtain ⟨m', hm', hcomplete, hmap⟩ := run_refines h.complete [op]
    have hstep : step s.cache op = .ok m' := by
      cases hop : step s.cache op with
      | error e => simp [run, hop] at hm'
      | ok m => simpa [run, hop] using hm'
    rw [hstep] at hm
    obtain rfl := Option.some.inj hm
    refine ⟨hcomplete, ?_, h.again, h.saved⟩
    rw [hmap, h.cache]
    rfl
  | dump =>
    cases hs
    refine ⟨h.complete, h.cache, ?_, ?_⟩
    · rw [getCache_dumpText]
      exact complete_reloaded h.complete
    · rw [getCache_dumpText, toMemCache_reloaded]
      exact h.cache
  | interrupt n =>
    rw [Store.next] at hs
    split_ifs at hs with hn
    cases hs
    have hcut : getCache (readFile k.decode) (some ((dumpText k s.cache).take n)) = fresh := by
      refine getCache_cut (List.take_prefix _ _) fun heq => ?_
      have hlen := congrArg List.length heq
      rw [List.length_take] at hlen
      omega
    refine ⟨h.complete, h.cache, ?_, ?_⟩
    · rw [hcut]
      exact complete_fresh
    · rw [hcut, toMemCache_fresh]
      rfl
  | restart =>
    cases hs
    exact ⟨h.again, h.saved, h.again, h.saved⟩

/-- **Over any number of lifetimes the cache and its file are a map and its last snapshot.** -/
theorem lifetimes_refine {es : List (Event T)} {s : Store T}
    (h : Runs (Store.Step k) .start es s) :
    Usable s.cache ∧ toMemCache s.cache = (es.foldl Snapshot.next .start).cache ∧
      toMemCache (getCache (readFile k.decode) s.file) = (es.foldl Snapshot.next .start).saved := by
  have hhas : s.Has k (es.foldl Snapshot.next .start) := by
    refine Runs.history (P := fun es s => s.Has k (es.foldl Snapshot.next .start)) ?_ ?_ h
    · exact ⟨complete_fresh, toMemCache_fresh, complete_fresh, toMemCache_fresh⟩
    · intro es s e s' _ hs hstep
      rw [List.foldl_append]
      exact hs.next hstep
  exact ⟨usable_iff.mpr hhas.complete, hhas.cache, hhas.saved⟩

/-- A template is dumped and survives a restart; then the collector is stopped while it dumps again. -/
def twoRestarts : List (Event (Data Ipfix.TemplateRecord)) :=
  [.use (.insert 256 [192, 0, 2, 1] ⟨{ templateID := 256, fieldCount := 1, fieldSpecifiers := [⟨8, 4, 0⟩] }, 0⟩),
    .dump, .restart, .interrupt 100, .restart]

theorem lifetimes_refine_twoRestarts :
    ∃ s t, Runs (Store.Step (Data.codec Ipfix.templateCodec)) .start (twoRestarts.take 3) s ∧
      Runs (Store.Step (Data.codec Ipfix.templateCodec)) .start twoRestarts t ∧
      ((toMemCache s.cache).retrieve 256 [192, 0, 2, 1]).isSome ∧
      (toMemCache t.cache).retrieve 256 [192, 0, 2, 1] = none := by
  have hlast : (twoRestarts.foldlM (Store.next (Data.codec Ipfix.templateCodec)) .start).isSome = true := by
    decide +kernel
  obtain ⟨t, ht⟩ := Option.isSome_iff_exists.mp hlast
  have hrun : Runs (Store.Step (Data.codec Ipfix.templateCodec)) .start twoRestarts t :=
    (Runs.foldlM_iff fun _ _ _ => Iff.rfl).mp ht
  have hsplit := hrun
  rw [← List.take_append_drop 3 twoRestarts] at hsplit
  obtain ⟨s, hs, -⟩ := hsplit.of_append
  refine ⟨s, t, hs, hrun, ?_, ?_⟩
  · rw [(lifetimes_refine hs).2.1]
    rfl
  · rw [(lifetimes_refine hrun).2.1]
    rfl

end CacheFile

end VFlow
