import Mathlib.Logic.Function.Basic
import VFlow.Base.BigEndian
import VFlow.Base.Fnv
import VFlow.Base.Runs
import VFlow.Net

/-!
# The template cache

`MemCache` of the packages `ipfix` and `netflow9`, which are the same code over two types of
template records. A template is stored under the FNV-1 hash of the exporter's address followed by
the template id, in the shard the hash selects; the address and the id themselves are not stored.

For one exporter the cache behaves as a map from template ids (`retrieve_insert_self`,
`retrieve_insert_of_ne`), since the hash separates the two bytes of the id: whatever is inserted and
retrieved, the answers are those of a map that keeps the last template of each id
(`templates_never_collide`).
-/

namespace VFlow

def shardNo : Nat := 32

/-- The shards, each a map from hashes to templates. -/
@[ext] structure MemCache (T : Type) where
  shards : Fin shardNo → UInt32 → Option T

namespace MemCache

variable {T : Type}

/-- The cache `GetCache` makes when there is no cache file. -/
def empty : MemCache T := ⟨fun _ _ => none⟩

def keyBytes (id : UInt16) (addr : IP) : List UInt8 := addr ++ BigEndian.putUint16 id

/-- `getShard`: the index of the shard and the key in it. -/
def getShard (id : UInt16) (addr : IP) : Fin shardNo × UInt32 :=
  let hSum32 := Fnv.sum32 (keyBytes id addr)
  (⟨hSum32.toNat % shardNo, Nat.mod_lt _ (by decide)⟩, hSum32)

def insert (m : MemCache T) (id : UInt16) (addr : IP) (tr : T) : MemCache T :=
  let (shard, key) := getShard id addr
  ⟨Function.update m.shards shard (Function.update (m.shards shard) key (some tr))⟩

def retrieve (m : MemCache T) (id : UInt16) (addr : IP) : Option T :=
  let (shard, key) := getShard id addr
  m.shards shard key

theorem getShard_snd_injective (addr : IP) {id id' : UInt16}
    (h : (getShard id addr).2 = (getShard id' addr).2) : id = id' := by
  obtain ⟨hhi, hlo⟩ := Fnv.sum32_append_injective addr h
  have hput : BigEndian.putUint16 id = BigEndian.putUint16 id' := by
    simp only [BigEndian.putUint16, hhi, hlo]
  rw [← BigEndian.uint16_put id [], hput, BigEndian.uint16_put]

theorem getShard_eq_iff {id id' : UInt16} {addr addr' : IP} :
    getShard id addr = getShard id' addr' ↔ (getShard id addr).2 = (getShard id' addr').2 := by
  refine ⟨fun h => congrArg Prod.snd h, fun h => ?_⟩
  have hsum : Fnv.sum32 (keyBytes id addr) = Fnv.sum32 (keyBytes id' addr') := h
  simp only [getShard, hsum]

theorem retrieve_insert_of_key_eq (m : MemCache T) {id id' : UInt16} {addr addr' : IP} (tr : T)
    (h : getShard id' addr' = getShard id addr) : (m.insert id addr tr).retrieve id' addr' = some tr := by
  simp [insert, retrieve, h]

theorem retrieve_insert_of_key_ne (m : MemCache T) {id id' : UInt16} {addr addr' : IP} (tr : T)
    (h : getShard id' addr' ≠ getShard id addr) :
    (m.insert id addr tr).retrieve id' addr' = m.retrieve id' addr' := by
  have hkey : (getShard id' addr').2 ≠ (getShard id addr).2 := fun he => h (getShard_eq_iff.mpr he)
  simp only [insert, retrieve]
  by_cases hshard : (getShard id' addr').1 = (getShard id addr).1
  · rw [hshard, Function.update_self, Function.update_of_ne hkey]
  · rw [Function.update_of_ne hshard]

theorem insert_of_retrieve {m : MemCache T} {id : UInt16} {addr : IP} {tr : T} (h : m.retrieve id addr = some tr) :
    m.insert id addr tr = m := by
  simp only [retrieve] at h
  simp only [insert, ← h, Function.update_eq_self]

/-- The cache after a template of an exporter was stored in it. -/
def storeIn (m : MemCache T) (id : T → UInt16) : Option (IP × T) → MemCache T
  | some (addr, tr) => m.insert (id tr) addr tr
  | none => m

theorem storeIn_of_retrieve {id : T → UInt16} {m : MemCache T} {o : Option (IP × T)}
    (h : ∀ p ∈ o, m.retrieve (id p.2) p.1 = some p.2) : m.storeIn id o = m := by
  cases o with
  | none => rfl
  | some p => exact insert_of_retrieve (h p rfl)

/-- Every template that is stored on the way from `w` is in the cache, as it is. -/
def Repeats {W : Type} (step : W → W → Prop) (stores : W → Option (IP × T)) (m : MemCache T) (id : T → UInt16)
    (w : W) : Prop :=
  ∀ w', Relation.ReflTransGen step w w' → ∀ p ∈ stores w', m.retrieve (id p.2) p.1 = some p.2

@[simp] theorem retrieve_insert_self (m : MemCache T) (id : UInt16) (addr : IP) (tr : T) :
    (m.insert id addr tr).retrieve id addr = some tr :=
  retrieve_insert_of_key_eq m tr rfl

theorem retrieve_insert_of_ne (m : MemCache T) {id id' : UInt16} (addr : IP) (tr : T) (h : id' ≠ id) :
    (m.insert id addr tr).retrieve id' addr = m.retrieve id' addr :=
  retrieve_insert_of_key_ne m tr fun hkey => h (getShard_snd_injective addr (congrArg Prod.snd hkey))

theorem retrieve_insert_congr {m m' : MemCache T} {id id' : UInt16} {addr addr' : IP} (tr : T)
    (h : m'.retrieve id' addr' = m.retrieve id' addr') :
    (m'.insert id addr tr).retrieve id' addr' = (m.insert id addr tr).retrieve id' addr' := by
  by_cases hkey : getShard id' addr' = getShard id addr
  · rw [retrieve_insert_of_key_eq m tr hkey, retrieve_insert_of_key_eq m' tr hkey]
  · rw [retrieve_insert_of_key_ne m tr hkey, retrieve_insert_of_key_ne m' tr hkey, h]

def insertAll (m : MemCache T) (id : T → UInt16) (addr : IP) (trs : List T) : MemCache T :=
  trs.foldl (fun m tr => m.insert (id tr) addr tr) m

theorem insertAll_append (m : MemCache T) (id : T → UInt16) (addr : IP) (trs trs' : List T) :
    m.insertAll id addr (trs ++ trs') = (m.insertAll id addr trs).insertAll id addr trs' :=
  List.foldl_append

theorem retrieve_insertAll (m : MemCache T) (id : T → UInt16) (addr : IP) (trs : List T) (i : UInt16) :
    (m.insertAll id addr trs).retrieve i addr = (trs.reverse.find? fun tr => id tr = i).or (m.retrieve i addr) := by
  induction trs generalizing m with
  | nil => rfl
  | cons tr trs ih =>
    rw [insertAll, List.foldl_cons]
    refine (ih _).trans ?_
    rw [List.reverse_cons, List.find?_append, Option.or_assoc]
    by_cases hid : id tr = i
    · rw [← hid, retrieve_insert_self]
      simp
    · rw [retrieve_insert_of_ne m addr tr (Ne.symm hid)]
      simp [hid]

/-! ## The cache of one exporter as a map -/

/-- What is done with the cache of an exporter, with the answer to a retrieve. -/
inductive Event (T : Type) where
  | insert (id : UInt16) (tr : T)
  | retrieve (id : UInt16) (answer : Option T)

/-- The operations on the cache for the exporter `addr`. -/
inductive Step (addr : IP) : MemCache T → Event T → MemCache T → Prop
  | insert (m : MemCache T) (id : UInt16) (tr : T) : Step addr m (.insert id tr) (m.insert id addr tr)
  | retrieve (m : MemCache T) (id : UInt16) : Step addr m (.retrieve id (m.retrieve id addr)) m

/-- The operations on a map from template ids. -/
inductive MapStep : (UInt16 → Option T) → Event T → (UInt16 → Option T) → Prop
  | insert (f : UInt16 → Option T) (id : UInt16) (tr : T) : MapStep f (.insert id tr) (Function.update f id (some tr))
  | retrieve (f : UInt16 → Option T) (id : UInt16) : MapStep f (.retrieve id (f id)) f

def entries (m : MemCache T) (addr : IP) : UInt16 → Option T := fun id => m.retrieve id addr

theorem entries_insert (m : MemCache T) (id : UInt16) (addr : IP) (tr : T) :
    (m.insert id addr tr).entries addr = Function.update (m.entries addr) id (some tr) := by
  funext i
  by_cases hi : i = id
  · subst hi
    rw [Function.update_self]
    exact retrieve_insert_self m i addr tr
  · rw [Function.update_of_ne hi]
    exact retrieve_insert_of_ne m addr tr hi

theorem Step.mapStep {addr : IP} {m m' : MemCache T} {e : Event T} (h : Step addr m e m') :
    MapStep (m.entries addr) e (m'.entries addr) := by
  cases h with
  | insert id tr =>
    rw [entries_insert]
    exact .insert _ id tr
  | retrieve id => exact .retrieve _ id

theorem MapStep.step {addr : IP} {m : MemCache T} {f : UInt16 → Option T} {e : Event T}
    (h : MapStep (m.entries addr) e f) : ∃ m', Step addr m e m' ∧ m'.entries addr = f := by
  cases h with
  | insert id tr => exact ⟨_, .insert m id tr, entries_insert m id addr tr⟩
  | retrieve id => exact ⟨m, .retrieve m id, rfl⟩

def Event.stored (id : UInt16) : Event T → Option T
  | insert id' tr => if id' = id then some tr else none
  | retrieve _ _ => none

def lastInserted (id : UInt16) (es : List (Event T)) : Option T := es.reverse.findSome? (Event.stored id)

theorem lastInserted_snoc (id : UInt16) (es : List (Event T)) (e : Event T) :
    lastInserted id (es ++ [e]) = (e.stored id).or (lastInserted id es) := by
  rw [lastInserted, List.reverse_append, List.reverse_singleton, List.singleton_append, List.findSome?_cons]
  cases e.stored id <;> rfl

theorem lastInserted_eq_none (id : UInt16) (es : List (Event T)) :
    lastInserted id es = none ↔ ∀ tr, Event.insert id tr ∉ es := by
  simp only [lastInserted, List.findSome?_eq_none_iff, List.mem_reverse]
  constructor
  · intro h tr hmem
    have hnone := h _ hmem
    rw [Event.stored, if_pos rfl] at hnone
    cases hnone
  · intro h e he
    cases e with
    | retrieve id' answer => rfl
    | insert id' tr =>
      rw [Event.stored]
      split_ifs with hid
      · rw [hid] at he
        exact absurd he (h tr)
      · rfl

theorem entries_of_runs {addr : IP} {m₀ m : MemCache T} (h₀ : ∀ id, m₀.retrieve id addr = none) {es : List (Event T)}
    (h : Runs (Step addr) m₀ es m) (id : UInt16) : m.retrieve id addr = lastInserted id es := by
  refine Runs.history (P := fun es m => ∀ id, m.retrieve id addr = lastInserted id es) h₀ ?_ h id
  intro es m e m' _ hm hstep id
  rw [lastInserted_snoc]
  cases hstep with
  | retrieve id' => exact hm id
  | insert id' tr =>
    rw [Event.stored]
    split_ifs with hid
    · rw [hid, retrieve_insert_self]
      rfl
    · rw [retrieve_insert_of_ne m addr tr (Ne.symm hid)]
      exact hm id

/-- **Templates of one exporter never collide.** Distinct ids have distinct keys; so the cache admits
exactly the sequences of inserts, retrieves and answers that a map from ids admits, and an id has the
template that was inserted last under it, if any was. -/
theorem templates_never_collide (T : Type) (addr : IP) :
    (∀ id id' : UInt16, id ≠ id' → (getShard id addr).2 ≠ (getShard id' addr).2) ∧
      ∀ es : List (Event T),
        ((∃ m, Runs (Step addr) (empty : MemCache T) es m) ↔ ∃ f, Runs MapStep (fun _ => none) es f) ∧
        ∀ m, Runs (Step addr) (empty : MemCache T) es m → ∀ id,
          m.retrieve id addr = lastInserted id es ∧ (m.retrieve id addr = none ↔ ∀ tr, Event.insert id tr ∉ es) := by
  refine ⟨fun id id' hne hkey => hne (getShard_snd_injective addr hkey), fun es => ⟨⟨?_, ?_⟩, ?_⟩⟩
  · intro ⟨m, hm⟩
    obtain ⟨f, hf, -⟩ := Runs.simulates (R := fun m f => m.entries addr = f)
      (fun m f e m' hR hstep => ⟨_, hR ▸ hstep.mapStep, rfl⟩) rfl hm
    exact ⟨f, hf⟩
  · intro ⟨f, hf⟩
    have hstart : (empty : MemCache T).entries addr = fun _ => none := rfl
    obtain ⟨m, hm, -⟩ := Runs.simulates (R := fun f (m : MemCache T) => m.entries addr = f)
      (fun f m e f' hR hstep => (hR ▸ hstep : MapStep (m.entries addr) e f').step) hstart hf
    exact ⟨m, hm⟩
  · intro m hm id
    have hlast := entries_of_runs (fun _ => rfl) hm id
    exact ⟨hlast, by rw [hlast]; exact lastInserted_eq_none id es⟩

end MemCache

end VFlow
