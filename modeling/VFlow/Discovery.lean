import VFlow.Base.Registry

/-!
# Discovery of the other nodes

`disc.go`, and the same code in `memcache_rpc.go`. A node greets the others by multicast once a second. It notes when
it last heard a host that is not one of its own addresses, and takes a host for available for 300 seconds; who is not
available when the list is asked for is forgotten. So the list has exactly the hosts that were heard in the last 300
seconds (`mem_rpcServers_iff`).
-/

namespace VFlow.Discovery

variable {H : Type}

/-- `net.Interface`, with what `Addrs` returns. -/
structure Interface (H : Type) where
  flags : Nat
  addrs : Option (List H)

/-- Interfaces that are up and can broadcast and multicast, and nothing else. -/
def isMulticast (i : Interface H) : Bool := i.flags = 19

def getMulticastIfs (ifs : List (Interface H)) : Option (List (Interface H)) :=
  let out := ifs.filter isMulticast
  if out.length < 1 then none else some out

def getLocalIPs (ifs : List (Interface H)) : List H :=
  (ifs.filter isMulticast).flatMap fun i => i.addrs.getD []

def start (ifs : List (Interface H)) : Option (List H) := (getMulticastIfs ifs).map fun _ => getLocalIPs ifs

/-- How long a host is taken for available, in seconds. -/
def ttl : Int := 300

variable [DecidableEq H]

/-- The receiver gets a packet, from this host unless it cannot be read. -/
def hear (laddrs : List H) (host : Option H) (now : Int) (d : Registry H) : Registry H :=
  match host with
  | none => d
  | some host => if host ∈ laddrs then d else d.touch host now

def rpcServers (now : Int) (d : Registry H) : List H × Registry H := (d.live ttl now, d.sweep ttl now)

inductive Event (H : Type) where
  | hear (host : Option H) (now : Int)
  | rpcServers (now : Int)

def Event.time : Event H → Int
  | hear _ now => now
  | rpcServers now => now

def next (laddrs : List H) (d : Registry H) : Event H → Registry H
  | .hear host now => hear laddrs host now d
  | .rpcServers now => (rpcServers now d).2

def run (laddrs : List H) (es : List (Event H)) : Registry H := es.foldl (next laddrs) .empty

def Event.registered (laddrs : List H) : Event H → Option (Registry.Event H)
  | hear (some host) now => if host ∈ laddrs then none else some (.touch host now)
  | hear none _ => none
  | rpcServers now => some (.sweep now)

section runs

variable {laddrs : List H} {es : List (Event H)}

theorem run_eq (laddrs : List H) (es : List (Event H)) :
    run laddrs es = Registry.run ttl (es.filterMap (Event.registered laddrs)) := by
  unfold run Registry.run
  generalize Registry.empty = d
  induction es generalizing d with
  | nil => rfl
  | cons e es ih =>
    rw [List.foldl_cons, ih]
    cases e with
    | rpcServers now => rfl
    | hear host now =>
      cases host with
      | none => rfl
      | some host =>
        by_cases hlocal : host ∈ laddrs
        · simp [next, hear, Event.registered, hlocal]
        · simp [next, hear, Event.registered, hlocal, Registry.next]

theorem time_of_registered {e : Event H} {e' : Registry.Event H} (h : e.registered laddrs = some e') :
    e'.time = e.time := by
  cases e with
  | rpcServers now =>
    cases h
    rfl
  | hear host now =>
    cases host with
    | none => cases h
    | some host =>
      rw [Event.registered] at h
      split_ifs at h
      cases h
      rfl

theorem touch_mem_registered {host : H} {t : Int} :
    .touch host t ∈ es.filterMap (Event.registered laddrs) ↔ host ∉ laddrs ∧ .hear (some host) t ∈ es := by
  rw [List.mem_filterMap]
  constructor
  · rintro ⟨e, he, h⟩
    cases e with
    | rpcServers now => cases h
    | hear host' now =>
      cases host' with
      | none => cases h
      | some host' =>
        rw [Event.registered] at h
        split_ifs at h with hlocal
        cases h
        exact ⟨hlocal, he⟩
  · rintro ⟨hlocal, he⟩
    exact ⟨_, he, if_neg hlocal⟩

/-- **The list has the hosts that were heard in the last 300 seconds.** -/
theorem mem_rpcServers_iff {now : Int} (hclock : (es.map Event.time).Pairwise (· ≤ ·)) (hnow : ∀ e ∈ es, e.time ≤ now)
    {host : H} :
    host ∈ (rpcServers now (run laddrs es)).1 ↔ host ∉ laddrs ∧ ∃ t, .hear (some host) t ∈ es ∧ now - t < 300 := by
  have hclock' : ((es.filterMap (Event.registered laddrs)).map Registry.Event.time).Pairwise (· ≤ ·) := by
    rw [List.pairwise_map] at hclock ⊢
    rw [List.pairwise_filterMap]
    refine hclock.imp fun hle e he e' he' => ?_
    rw [time_of_registered he, time_of_registered he']
    exact hle
  have hnow' : ∀ e ∈ es.filterMap (Event.registered laddrs), e.time ≤ now := by
    intro e he
    obtain ⟨e', he', h⟩ := List.mem_filterMap.mp he
    rw [time_of_registered h]
    exact hnow e' he'
  rw [rpcServers, run_eq, Registry.mem_live_iff hclock' hnow']
  simp only [touch_mem_registered, and_assoc, exists_and_left]
  rfl

end runs

end VFlow.Discovery
