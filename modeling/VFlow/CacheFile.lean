import VFlow.Base.Unmarshal
import VFlow.MemCache

/-!
# The template cache from a file

`GetCache` and `Dump` of the packages `ipfix` and `netflow9`, which are the same code over two types of
template records. A cache that was read from a file may have any number of shards, and a shard and its map
may be nil, so that the operations can panic here.

`encoding/json` is a parameter: a text is either refused or read as a document, in which each member is there
or is absent or null. An absent or null member leaves the zero value (`unmarshal`). `GetCache` looks at the
member `ShardNo` alone.

A cache with all its shards and maps (`Complete`) is a `MemCache`, and stays one (`run_refines`).
-/

namespace VFlow.CacheFile

variable {T : Type}

/-! ## The cache in memory -/

/-- `TemplatesShard`, without the lock. The map is nil if there is none; an entry in front hides those of its key
after it. -/
structure TemplatesShard (T : Type) where
  templates : Option (List (UInt32 × T)) := none

/-- `MemCache`: a slice of pointers to shards. -/
abbrev Shards (T : Type) := List (Option (TemplatesShard T))

inductive Panic where
  | indexOutOfRange
  | nilPointer
  | nilMap
  deriving DecidableEq, Repr

/-- `getShard`: the pointer to the shard, its index, and the key. -/
def getShard (m : Shards T) (id : UInt16) (addr : IP) : Except Panic (Option (TemplatesShard T) × Nat × UInt32) :=
  let hSum32 := Fnv.sum32 (MemCache.keyBytes id addr)
  let i := hSum32.toNat % shardNo
  match m[i]? with
  | none => .error .indexOutOfRange
  | some shard => .ok (shard, i, hSum32)

/-- `insert`. The lock of a shard is taken before its map is written. -/
def insert (m : Shards T) (id : UInt16) (addr : IP) (tr : T) : Except Panic (Shards T) :=
  match getShard m id addr with
  | .error e => .error e
  | .ok (none, _, _) => .error .nilPointer
  | .ok (some shard, i, key) =>
    match shard.templates with
    | none => .error .nilMap
    | some ts => .ok (m.set i (some { shard with templates := some ((key, tr) :: ts) }))

/-- `retrieve`. A nil map can be read. -/
def retrieve (m : Shards T) (id : UInt16) (addr : IP) : Except Panic (Option T) :=
  match getShard m id addr with
  | .error e => .error e
  | .ok (none, _, _) => .error .nilPointer
  | .ok (some shard, _, key) =>
    match shard.templates with
    | none => .ok none
    | some ts => .ok (ts.lookup key)

inductive Operation (T : Type) where
  | insert (id : UInt16) (addr : IP) (tr : T)
  | retrieve (id : UInt16) (addr : IP)

def step (m : Shards T) : Operation T → Except Panic (Shards T)
  | .insert id addr tr => insert m id addr tr
  | .retrieve id addr => (retrieve m id addr).map fun _ => m

def run (m : Shards T) (ops : List (Operation T)) : Except Panic (Shards T) := ops.foldlM step m

def Complete (m : Shards T) : Prop := m.length = shardNo ∧ ∀ s ∈ m, ∃ ts, s = some { templates := some ts }

/-- The cache is complete, and no operation fails on it, whatever was done with it before. -/
structure Usable (m : Shards T) : Prop where
  complete : Complete m
  getShard_ok : ∀ id addr, ∃ x, getShard m id addr = .ok x
  run_ok : ∀ ops, ∃ m', run m ops = .ok m'

/-! ## Files -/

/-- What `encoding/json` finds in a cache file: a member is `none` if it is absent or null. -/
structure Document (T : Type) where
  cache : Option (Shards T) := none
  shardNo : Option Int := none

structure MemCacheDisk (T : Type) where
  cache : Shards T
  shardNo : Int

/-- A member that is not there leaves the zero value. -/
def unmarshal (d : Document T) : MemCacheDisk T where
  cache := d.cache.getD []
  shardNo := d.shardNo.getD 0

def fresh : Shards T := List.replicate shardNo (some { templates := some [] })

/-- `GetCache`, with what `ReadFile` returns. -/
def getCache (read : List UInt8 → Option (Document T)) (cacheFile : Option (List UInt8)) : Shards T :=
  match cacheFile with
  | none => fresh
  | some b =>
    match read b with
    | none => fresh
    | some d =>
      let mem := unmarshal d
      if mem.shardNo = shardNo then mem.cache else fresh

def dump (m : Shards T) : Document T where
  cache := some m
  shardNo := some shardNo

theorem getCache_dump {read : List UInt8 → Option (Document T)} {b : List UInt8} {m : Shards T}
    (h : read b = some (dump m)) : getCache read (some b) = m := by
  unfold getCache
  dsimp only
  rw [h]
  exact if_pos rfl

/-! ## Complete caches -/

def toMemCache (m : Shards T) : MemCache T where
  shards i key :=
    match m[i.val]? with
    | some (some { templates := some ts }) => ts.lookup key
    | _ => none

theorem complete_fresh : Complete (fresh : Shards T) := by
  refine ⟨List.length_replicate, fun s hs => ?_⟩
  exact ⟨[], List.eq_of_mem_replicate hs⟩

theorem toMemCache_fresh : toMemCache (fresh : Shards T) = .empty := by
  ext i key
  have hget : (fresh : Shards T)[i.val]? = some (some { templates := some [] }) := by
    unfold fresh
    rw [List.getElem?_replicate, if_pos i.isLt]
  simp [toMemCache, hget, MemCache.empty]

section complete
variable {m : Shards T} (h : Complete m) (id : UInt16) (addr : IP)
include h

theorem Complete.get (i : Fin shardNo) : ∃ ts, m[i.val]? = some (some { templates := some ts }) := by
  have hi : i.val < m.length := by
    rw [h.1]
    exact i.isLt
  obtain ⟨ts, hts⟩ := h.2 _ (List.getElem_mem hi)
  exact ⟨ts, by rw [List.getElem?_eq_getElem hi, hts]⟩

theorem Complete.getShard_eq : ∃ ts, m[(MemCache.getShard id addr).1.val]? = some (some { templates := some ts }) ∧
    getShard m id addr =
      .ok (some { templates := some ts }, (MemCache.getShard id addr).1.val, (MemCache.getShard id addr).2) := by
  obtain ⟨ts, hts⟩ := h.get (MemCache.getShard id addr).1
  refine ⟨ts, hts, ?_⟩
  have hts' : m[(Fnv.sum32 (MemCache.keyBytes id addr)).toNat % shardNo]? = some (some { templates := some ts }) := hts
  unfold getShard
  simp only [hts']
  rfl

theorem retrieve_refines : retrieve m id addr = .ok ((toMemCache m).retrieve id addr) := by
  obtain ⟨ts, hget, hshard⟩ := h.getShard_eq id addr
  unfold retrieve
  rw [hshard]
  simp only [MemCache.retrieve, toMemCache, hget]

theorem insert_refines (tr : T) :
    ∃ m', insert m id addr tr = .ok m' ∧ Complete m' ∧ toMemCache m' = (toMemCache m).insert id addr tr := by
  obtain ⟨ts, hget, hshard⟩ := h.getShard_eq id addr
  have hi : (MemCache.getShard id addr).1.val < m.length := by
    rw [h.1]
    exact (MemCache.getShard id addr).1.isLt
  refine ⟨m.set (MemCache.getShard id addr).1.val
    (some { templates := some (((MemCache.getShard id addr).2, tr) :: ts) }), ?_, ⟨?_, ?_⟩, ?_⟩
  · unfold insert
    rw [hshard]
  · rw [List.length_set]
    exact h.1
  · intro s hs
    obtain hs | rfl := List.mem_or_eq_of_mem_set hs
    · exact h.2 s hs
    · exact ⟨_, rfl⟩
  · ext i key
    unfold toMemCache MemCache.insert
    dsimp only
    by_cases hshard : i = (MemCache.getShard id addr).1
    · rw [hshard, Function.update_self, List.getElem?_set_self hi]
      by_cases hkey : key = (MemCache.getShard id addr).2
      · rw [hkey, Function.update_self]
        simp
      · rw [Function.update_of_ne hkey, hget]
        simp [List.lookup_cons, beq_false_of_ne hkey]
    · rw [Function.update_of_ne hshard, List.getElem?_set_ne]
      exact fun hval => hshard (Fin.ext hval.symm)

end complete

def mapStep (c : MemCache T) : Operation T → MemCache T
  | .insert id addr tr => c.insert id addr tr
  | .retrieve _ _ => c

theorem run_refines {m : Shards T} (h : Complete m) (ops : List (Operation T)) :
    ∃ m', run m ops = .ok m' ∧ Complete m' ∧ toMemCache m' = ops.foldl mapStep (toMemCache m) := by
  induction ops generalizing m with
  | nil => exact ⟨m, rfl, h, rfl⟩
  | cons op ops ih =>
    have hstep : ∃ m', step m op = .ok m' ∧ Complete m' ∧ toMemCache m' = mapStep (toMemCache m) op := by
      cases op with
      | insert id addr tr => exact insert_refines h id addr tr
      | retrieve id addr =>
        refine ⟨m, ?_, h, rfl⟩
        show (retrieve m id addr).map (fun _ => m) = _
        rw [retrieve_refines h]
        rfl
    obtain ⟨m₁, hm₁, hcomplete, hmap⟩ := hstep
    obtain ⟨m', hm', hcomplete', hmap'⟩ := ih hcomplete
    refine ⟨m', ?_, hcomplete', ?_⟩
    · unfold run
      rw [List.foldlM_cons, hm₁]
      exact hm'
    · rw [hmap', hmap, List.foldl_cons]

theorem usable_iff {m : Shards T} : Usable m ↔ Complete m := by
  refine ⟨Usable.complete, fun h => ⟨h, fun id addr => ?_, fun ops => ?_⟩⟩
  · obtain ⟨ts, -, hshard⟩ := h.getShard_eq id addr
    exact ⟨_, hshard⟩
  · obtain ⟨m', hm', -⟩ := run_refines h ops
    exact ⟨m', hm'⟩

/-- A document that gives every shard, and a map for each. -/
def Document.Full (d : Document T) : Prop :=
  ∃ shards, d.cache = some shards ∧ shards.length = VFlow.shardNo ∧
    ∀ s ∈ shards, ∃ shard ts, s = some shard ∧ shard.templates = some ts

theorem complete_unmarshal_iff (d : Document T) : Complete (unmarshal d).cache ↔ d.Full := by
  unfold unmarshal Document.Full Complete
  cases d.cache with
  | none => simp [VFlow.shardNo]
  | some shards =>
    simp only [Option.getD_some, Option.some.injEq, exists_eq_left']
    refine and_congr_right fun _ => forall_congr' fun s => forall_congr' fun _ => ?_
    constructor
    · rintro ⟨ts, rfl⟩
      exact ⟨_, ts, rfl, rfl⟩
    · rintro ⟨⟨templates⟩, ts, rfl, rfl⟩
      exact ⟨ts, rfl⟩

/-- Whatever the cache file contains, and however it is read, the cache that `GetCache` returns can be used exactly
when the file does not give the number of shards or gives every shard with a map. -/
theorem getCache_usable_iff (read : List UInt8 → Option (Document T)) (cacheFile : Option (List UInt8)) :
    Usable (getCache read cacheFile) ↔
      ∀ b ∈ cacheFile, ∀ d ∈ read b, d.shardNo = some (VFlow.shardNo : Int) → d.Full := by
  have hfresh : Usable (fresh : Shards T) := usable_iff.mpr complete_fresh
  cases cacheFile with
  | none => simp [getCache, hfresh]
  | some b =>
    simp only [Option.mem_some_iff, forall_eq']
    unfold getCache
    dsimp only
    cases read b with
    | none => simp [hfresh]
    | some d =>
      simp only [Option.mem_some_iff, forall_eq']
      by_cases hno : d.shardNo = some (VFlow.shardNo : Int)
      · rw [if_pos (by rw [unmarshal, hno]; rfl), usable_iff, complete_unmarshal_iff]
        simp [hno]
      · have hload : (unmarshal d).shardNo ≠ (VFlow.shardNo : Int) := by
          unfold unmarshal
          cases hd : d.shardNo with
          | none => simp [VFlow.shardNo]
          | some n =>
            intro hn
            exact hno (by rw [hd, show n = (VFlow.shardNo : Int) from hn])
        rw [if_neg hload]
        simp [hfresh, hno]

/-! ## Texts -/

section reading
open Json (Slice Unmarshal unmarshalMap unmarshalPtr unmarshalSlice unmarshalStruct)

variable (template : Json → Option T)

/-- A key of a map is a decimal number of 32 bits. -/
def readKey (w : List UInt8) : Option UInt32 :=
  if w ≠ [] ∧ w.all Json.isDigit ∧ Json.digitsValue w < 2 ^ 32 then some (UInt32.ofNat (Json.digitsValue w)) else none

def readTemplates : Unmarshal (Option (List (UInt32 × T))) := unmarshalPtr (unmarshalMap readKey template) []

def readShard : Unmarshal (Option (TemplatesShard T)) :=
  unmarshalPtr (unmarshalStruct [
    .of "Templates" (readTemplates template) (·.templates) ({ · with templates := · })]) {}

/-- The slice of shards, which `null` makes nil. -/
def readShards : Unmarshal (Option (Slice (Option (TemplatesShard T)))) :=
  unmarshalPtr (unmarshalSlice (readShard template) none) {}

/-- A null number leaves the number as it is. -/
def readNumber : Unmarshal (Option Int)
  | old, .null => some old
  | _, j => (Json.unmarshalInt 0 j).map some

structure Members (T : Type) where
  cache : Option (Slice (Option (TemplatesShard T))) := none
  shardNo : Option Int := none

def readMembers : Unmarshal (Members T) :=
  unmarshalStruct [
    .of "Cache" (readShards template) (·.cache) ({ · with cache := · }),
    .of "ShardNo" readNumber (·.shardNo) ({ · with shardNo := · })]

def readDocument (j : Json) : Option (Document T) :=
  (readMembers template {} j).map fun d => { cache := d.cache.map Slice.live, shardNo := d.shardNo }

/-- `json.Unmarshal`, with what it makes of an entry of a map. -/
def readFile (b : List UInt8) : Option (Document T) := (Json.unmarshal b).bind (readDocument template)

end reading

def numberOnly : List UInt8 := Json.text "\x7b\"ShardNo\":32\x7d"

/-- It is loaded as a cache without shards, and the first operation panics. -/
theorem getCache_numberOnly :
    getCache (readFile fun j => some j) (some numberOnly) = [] ∧
      insert (getCache (readFile fun j => some j) (some numberOnly)) 256 [192, 0, 2, 1] .null =
        .error .indexOutOfRange := by
  have hload : getCache (readFile fun j => some j) (some numberOnly) = [] :=
    List.isEmpty_iff.mp (by decide +kernel)
  rw [hload]
  exact ⟨rfl, rfl⟩

end VFlow.CacheFile
