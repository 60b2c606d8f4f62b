import VFlow.SetLoop

/-!
# Decoding a packet

`Decode` of `ipfix` and of `netflow9` reads and validates a header and then loops over the sets
(`PacketDecoder.decode`). What both need to know about the loop is proved here once, from the facts
collected in `PacketDecoder.Lawful`: the result does not depend on the bound (`Returns.unique`), the
states in which sets are entered (`Enters`) keep what every call of `decodeSet` keeps and stand
inside the packet (`Enters.within`), and decoding ends exactly if every call of `decodeSet` does
(`returns_iff`).
-/

namespace VFlow

/-- The parts of `Decode` that differ between the packages: the header `H` and the state `S` that
`decodeSet` works on. -/
structure PacketDecoder (H S : Type) where
  unmarshal : ReadM H
  validate : H → Option Error
  /-- The state in which the loop over the sets starts. -/
  start : H → Reader → S
  reader : S → Reader
  /-- `decodeSet`, with a bound on the passes of its loop. -/
  decodeSet : Nat → S → Option (S × Option Error)

/-- A message with this agent and this header is from this exporter, and has the header of this packet. -/
def Labels {H : Type} (unmarshal : ReadM H) (validate : H → Option Error) (raddr : IP) (b : List UInt8)
    (agentID : String) (header : H) : Prop :=
  agentID = raddr.string ∧ validate header = none ∧ ∃ r, unmarshal (Reader.new b) = .ok header r

namespace PacketDecoder

variable {H S : Type} (p : PacketDecoder H S)

/-- `Decode`: the error of the header, or the end of the loop over the sets. -/
def decode (b : List UInt8) (fuel : Nat) : Option (Except Error (SetsEnd S)) :=
  match p.unmarshal (Reader.new b) with
  | .error err _ => some (.error err)
  | .ok header r =>
    match p.validate header with
    | some err => some (.error err)
    | none => (decodeSets p.reader p.decodeSet fuel (p.start header r)).map .ok

/-- `Decode` comes to this end for a large enough bound. -/
def Returns (b : List UInt8) (e : Except Error (SetsEnd S)) : Prop := ∃ fuel, p.decode b fuel = some e

/-- The header is accepted, and the loop over the sets starts at `r`. -/
def HeaderOk (b : List UInt8) (header : H) (r : Reader) : Prop :=
  p.unmarshal (Reader.new b) = .ok header r ∧ p.validate header = none

def Enters (b : List UInt8) (s : S) : Prop :=
  ∃ header r, p.HeaderOk b header r ∧ EntersSet p.reader p.decodeSet (p.start header r) s

/-- The reader stands in the packet, behind the header. -/
def Within (headerLen : Nat) (b : List UInt8) (s : S) : Prop :=
  headerLen ≤ (p.reader s).count ∧ (p.reader s).count ≤ b.length ∧
    p.reader s = (Reader.new b).advance (p.reader s).count

/-- What the loop over the sets needs to know of the parts. -/
structure Lawful (headerLen : Nat) : Prop where
  reads_unmarshal : Scan.Reads .errReader p.unmarshal headerLen
  reader_start : ∀ header r, p.reader (p.start header r) = r
  family : SetFamily p.decodeSet
  /-- A call of `decodeSet` that returns has read the set header at least. -/
  forward : ∀ n s s' err, 4 < (p.reader s).len → p.decodeSet n s = some (s', err) →
    (p.reader s).Past (p.reader s')

variable {p} {b : List UInt8} {s s' : S} {err : Option Error} {fuel headerLen : Nat} {header : H} {r : Reader}
  {e e' : Except Error (SetsEnd S)}

theorem decode_of_headerOk (h : p.HeaderOk b header r) :
    p.decode b fuel = (decodeSets p.reader p.decodeSet fuel (p.start header r)).map .ok := by
  rw [decode, h.1]
  simp only [h.2]

theorem decode_of_not_headerOk (h : ¬ ∃ header r, p.HeaderOk b header r) :
    ∃ err, ∀ fuel, p.decode b fuel = some (.error err) := by
  cases hh : p.unmarshal (Reader.new b) with
  | error err r => exact ⟨err, fun fuel => by rw [decode, hh]⟩
  | ok header r =>
    cases hv : p.validate header with
    | none => exact absurd ⟨header, r, hh, hv⟩ h
    | some err =>
      exact ⟨err, fun fuel => by
        rw [decode, hh]
        simp only [hv]⟩

/-- `Decode` up to the loop over the sets: what is made of a header that is refused, or of the state in which the loop
starts. -/
def receive {W : Type} (p : PacketDecoder H S) (refused : Error → W) (sets : S → W) (b : List UInt8) : W :=
  match p.unmarshal (Reader.new b) with
  | .error err _ => refused err
  | .ok header r =>
    match p.validate header with
    | some err => refused err
    | none => sets (p.start header r)

theorem receive_cases {W : Type} (p : PacketDecoder H S) (refused : Error → W) (sets : S → W) (b : List UInt8) :
    (∃ err, p.Returns b (.error err) ∧ p.receive refused sets b = refused err) ∨
      ∃ header r, p.HeaderOk b header r ∧ p.receive refused sets b = sets (p.start header r) := by
  cases hh : p.unmarshal (Reader.new b) with
  | error err r => exact .inl ⟨err, ⟨0, by rw [decode, hh]⟩, by rw [receive, hh]⟩
  | ok header r =>
    cases hv : p.validate header with
    | some err => exact .inl ⟨err, ⟨0, by simp [decode, hh, hv]⟩, by simp [receive, hh, hv]⟩
    | none => exact .inr ⟨header, r, ⟨hh, hv⟩, by simp [receive, hh, hv]⟩

theorem HeaderOk.unique {header' : H} {r' : Reader} (h : p.HeaderOk b header r) (h' : p.HeaderOk b header' r') :
    header = header' ∧ r = r' := by
  have := h.1.symm.trans h'.1
  rwa [EStateM.Result.ok.injEq] at this

theorem returns_iff_loop (h : p.HeaderOk b header r) :
    p.Returns b e ↔ ∃ end_, e = .ok end_ ∧
      Loop.Returns (setPass p.reader p.decodeSet) (p.start header r, []) end_ := by
  simp only [Returns, decode_of_headerOk h, Option.map_eq_some_iff]
  constructor
  · rintro ⟨n, end_, he, rfl⟩
    exact ⟨end_, rfl, n, he⟩
  · rintro ⟨end_, rfl, n, he⟩
    exact ⟨n, end_, he, rfl⟩

theorem exists_map_decode_iff {γ : Type} {f : Except Error (SetsEnd S) → γ} {out : γ} :
    (∃ fuel, (p.decode b fuel).map f = some out) ↔ ∃ e, p.Returns b e ∧ out = f e := by
  simp only [Option.map_eq_some_iff]
  constructor
  · rintro ⟨n, e, he, rfl⟩
    exact ⟨e, ⟨n, he⟩, rfl⟩
  · rintro ⟨e, ⟨n, he⟩, rfl⟩
    exact ⟨n, e, he, rfl⟩

theorem Returns.unique (hp : p.Lawful headerLen) (h : p.Returns b e) (h' : p.Returns b e') : e = e' := by
  by_cases hh : ∃ header r, p.HeaderOk b header r
  · obtain ⟨header, r, hh⟩ := hh
    obtain ⟨end_, rfl, he⟩ := (returns_iff_loop hh).mp h
    obtain ⟨end', rfl, he'⟩ := (returns_iff_loop hh).mp h'
    rw [he.unique (setPass_family hp.family) he']
  · obtain ⟨err, herr⟩ := decode_of_not_headerOk hh
    obtain ⟨n, hn⟩ := h
    obtain ⟨m, hm⟩ := h'
    rw [herr] at hn hm
    exact (Option.some.inj hn).symm.trans (Option.some.inj hm)

/-! ## The states in which sets are entered -/

theorem Enters.len (h : p.Enters b s) : 4 < (p.reader s).len := by
  obtain ⟨header, r, -, errs, -, hlen⟩ := h
  exact hlen

theorem Enters.invariant {P : S → Prop} (hstart : ∀ header r, p.HeaderOk b header r → P (p.start header r))
    (hset : ∀ n s s' err, P s → 4 < (p.reader s).len → p.decodeSet n s = some (s', err) → P s')
    (h : p.Enters b s) : P s := by
  obtain ⟨header, r, hh, he⟩ := h
  exact he.invariant hset (hstart header r hh)

theorem Returns.invariant {P : S → Prop} (hstart : ∀ header r, p.HeaderOk b header r → P (p.start header r))
    (hset : ∀ n s s' err, P s → 4 < (p.reader s).len → p.decodeSet n s = some (s', err) → P s')
    (h : p.Returns b e) : (∃ err, e = .error err) ∨ ∃ s errs, P s ∧ e = .ok (.all s errs) := by
  by_cases hh : ∃ header r, p.HeaderOk b header r
  · obtain ⟨header, r, hh⟩ := hh
    obtain ⟨end_, rfl, n, hn⟩ := (returns_iff_loop hh).mp h
    refine Or.inr (Loop.run_invariant (P := fun x => P x.1)
      (Q := fun end_ => ∃ s errs, P s ∧ Except.ok end_ = .ok (.all s errs)) ?_ ?_ (hstart header r hh) hn)
    · rintro ⟨s, errs⟩ ⟨s', errs'⟩ hinv hnext
      obtain ⟨hlen, err, hs, -⟩ := setPass_eq_next.mp hnext
      exact hset n s s' err hinv hlen hs
    · rintro ⟨s, errs⟩ end_ hinv hdone
      exact ⟨s, errs, hinv, by rw [(setPass_eq_done.mp hdone).2]⟩
  · obtain ⟨err, herr⟩ := decode_of_not_headerOk hh
    obtain ⟨n, hn⟩ := h
    rw [herr] at hn
    exact Or.inl ⟨err, (Option.some.inj hn).symm⟩

theorem Enters.next (h : p.Enters b s) (hset : p.decodeSet fuel s = some (s', err)) (hlen : 4 < (p.reader s').len) :
    p.Enters b s' := by
  obtain ⟨header, r, hh, he⟩ := h
  obtain ⟨errs, hv⟩ := he.next hset
  exact ⟨header, r, hh, _, hv, hlen⟩

theorem HeaderOk.enters (h : p.HeaderOk b header r) (hlen : 4 < (p.reader (p.start header r)).len) :
    p.Enters b (p.start header r) :=
  ⟨header, r, h, [], .refl, hlen⟩

/-- In the invariant rule a set may be taken to be one that is entered. -/
theorem Returns.invariant_entered {P : S → Prop}
    (hstart : ∀ header r, p.HeaderOk b header r → P (p.start header r))
    (hset : ∀ n s s' err, p.Enters b s → P s → p.decodeSet n s = some (s', err) → P s') (h : p.Returns b e) :
    (∃ err, e = .error err) ∨ ∃ s errs, P s ∧ e = .ok (.all s errs) := by
  rcases h.invariant (P := fun s => (4 < (p.reader s).len → p.Enters b s) ∧ P s)
    (fun header r hh => ⟨hh.enters, hstart header r hh⟩)
    (fun n s s' err hs hlen hdec => ⟨(hs.1 hlen).next hdec, hset n s s' err (hs.1 hlen) hs.2 hdec⟩) with
    herr | ⟨s, errs, hs, he⟩
  · exact .inl herr
  · exact .inr ⟨s, errs, hs.2, he⟩

theorem Enters.eq_start (hp : p.Lawful headerLen) (hh : p.HeaderOk b header r)
    (hs : p.decodeSet fuel (p.start header r) = some (s', err)) (hend : (p.reader s').len ≤ 4) (h : p.Enters b s) :
    s = p.start header r := by
  obtain ⟨header', r', hh', errs, hv, hlen⟩ := h
  obtain ⟨rfl, rfl⟩ := hh.unique hh'
  rcases hv.cases_head with heq | ⟨⟨u, _⟩, ⟨n, hu⟩, hrest⟩
  · exact (Prod.mk.inj heq).1.symm
  · obtain ⟨-, e, hu, -⟩ := setPass_eq_next.mp hu
    obtain ⟨rfl, -⟩ := Prod.mk.inj (hp.family.unique hs hu)
    rcases hrest.cases_head with heq | ⟨_, ⟨_, hnext⟩, -⟩
    · rw [← (Prod.mk.inj heq).1] at hlen
      omega
    · exact absurd hend (Nat.not_le.mpr (setPass_eq_next.mp hnext).1)

theorem HeaderOk.returns_last {errs : List Error} (hfam : SetFamily p.decodeSet) (h : p.HeaderOk b header r)
    (hv : Loop.Visits (setPass p.reader p.decodeSet) (p.start header r, []) (s, errs)) (hlen : 4 < (p.reader s).len)
    (hset : p.decodeSet fuel s = some (s', err)) (hend : (p.reader s').len ≤ 4) :
    p.Returns b (.ok (.all s' (errs ++ err.toList))) := by
  have hpass : Loop.Family (setPass p.reader p.decodeSet) := setPass_family hfam
  have hdone : Loop.Returns (setPass p.reader p.decodeSet) (s', errs ++ err.toList)
      (.all s' (errs ++ err.toList)) := Loop.Returns.of_done hpass (n := 0) (setPass_eq_done.mpr ⟨hend, rfl⟩)
  exact (returns_iff_loop h).mpr ⟨_, rfl, hv.returns hpass (hdone.of_next hpass (setPass_of_decodeSet hlen hset))⟩

/-- What a call of `decodeSet` brings about and all later calls keep holds of the state `Decode` ends
with. -/
theorem Enters.kept {P : S → Prop} (hfam : SetFamily p.decodeSet) (h : p.Enters b s) {errs : List Error}
    (he : p.Returns b (.ok (.all s' errs))) (hfirst : ∀ n t err, p.decodeSet n s = some (t, err) → P t)
    (hset : ∀ n t t' err, P t → 4 < (p.reader t).len → p.decodeSet n t = some (t', err) → P t') : P s' := by
  obtain ⟨header, r, hh, errs₀, hv, hlen⟩ := h
  obtain ⟨end_, hend, hret⟩ := (returns_iff_loop hh).mp he
  obtain rfl := Except.ok.inj hend
  obtain ⟨n, hn⟩ := hret.of_visits (setPass_family hfam) hv
  obtain ⟨m, -, hdone | ⟨⟨t, errs₁⟩, hnext, hrun⟩⟩ := Loop.run_cases hn
  · exact absurd hlen (Nat.not_lt.mpr (setPass_eq_done.mp hdone).1)
  · obtain ⟨-, err, hs, -⟩ := setPass_eq_next.mp hnext
    refine Loop.run_invariant (P := fun x => P x.1) (Q := fun e => ∀ t errs, e = .all t errs → P t) ?_ ?_
      (hfirst n t err hs) hrun s' errs rfl
    · rintro ⟨t, errs⟩ ⟨t', errs'⟩ hinv hnext
      obtain ⟨hlen, err, hs, -⟩ := setPass_eq_next.mp hnext
      exact hset n t t' err hinv hlen hs
    · rintro ⟨t, errs⟩ e hinv hdone t' errs' rfl
      obtain ⟨rfl, -⟩ := SetsEnd.all.inj (setPass_eq_done.mp hdone).2
      exact hinv

theorem Enters.returns_all (h : p.Enters b s) (he : p.Returns b e) : ∃ s errs, e = .ok (.all s errs) := by
  obtain ⟨header, r, hh, -⟩ := h
  obtain ⟨end_, rfl, n, hn⟩ := (returns_iff_loop hh).mp he
  obtain ⟨s, errs, rfl⟩ := run_setPass_eq_all hn
  exact ⟨s, errs, rfl⟩

theorem Within.len (h : p.Within headerLen b s) : (p.reader s).count + (p.reader s).len = b.length := by
  have hlen := congrArg Cursor.len h.2.2
  rw [Cursor.len_advance] at hlen
  have hnew : (Reader.new b).len = b.length := rfl
  have := h.2.1
  omega

theorem HeaderOk.reader_eq (hp : p.Lawful headerLen) (h : p.HeaderOk b header r) :
    headerLen ≤ b.length ∧ r = (Reader.new b).advance headerLen :=
  hp.reads_unmarshal.of_ok h.1

theorem HeaderOk.within (hp : p.Lawful headerLen) (h : p.HeaderOk b header r) :
    p.Within headerLen b (p.start header r) := by
  obtain ⟨hlen, rfl⟩ := h.reader_eq hp
  rw [Within, hp.reader_start]
  have hcount : ((Reader.new b).advance headerLen).count = headerLen := Nat.zero_add _
  exact ⟨by omega, by omega, by rw [hcount]⟩

theorem Within.decodeSet (hp : p.Lawful headerLen) (h : p.Within headerLen b s) (hlen : 4 < (p.reader s).len)
    (hs : p.decodeSet fuel s = some (s', err)) : p.Within headerLen b s' := by
  obtain ⟨k, -, hk, hr⟩ := hp.forward _ _ _ _ hlen hs
  have hl := h.len
  obtain ⟨hhead, hcount, hreader⟩ := h
  rw [Within, hr, Cursor.advance_count]
  refine ⟨by omega, by omega, ?_⟩
  rw [← Cursor.advance_advance, ← hreader]

theorem Enters.within (hp : p.Lawful headerLen) (h : p.Enters b s) : p.Within headerLen b s :=
  h.invariant (fun _ _ hh => hh.within hp) fun _ _ _ _ hs hlen hset => hs.decodeSet hp hlen hset

theorem returns_iff (hp : p.Lawful headerLen) :
    (∃ e, p.Returns b e) ↔ ∀ s, p.Enters b s → ∃ n out, p.decodeSet n s = some out := by
  by_cases hh : ∃ header r, p.HeaderOk b header r
  · obtain ⟨header, r, hh⟩ := hh
    have hloop := decodeSets_returns_iff (p.start header r) hp.family (by
      intro n s s' err hlen hset
      obtain ⟨k, hk4, hk, hr⟩ := hp.forward n s s' err hlen hset
      rw [hr, Cursor.len_advance]
      omega)
    constructor
    · rintro ⟨e, he⟩ s ⟨header', r', hh', hs⟩
      obtain ⟨rfl, rfl⟩ := hh.unique hh'
      obtain ⟨end_, -, n, hn⟩ := (returns_iff_loop hh).mp he
      exact hloop.mp ⟨n, end_, hn⟩ s hs
    · intro hset
      obtain ⟨n, end_, hn⟩ := hloop.mpr fun s hs => hset s ⟨header, r, hh, hs⟩
      exact ⟨.ok end_, (returns_iff_loop hh).mpr ⟨end_, rfl, n, hn⟩⟩
  · obtain ⟨err, herr⟩ := decode_of_not_headerOk hh
    exact ⟨fun _ s ⟨header, r, hs, _⟩ => absurd ⟨header, r, hs⟩ hh, fun _ => ⟨_, 0, herr 0⟩⟩

/-! ## The order of the sets -/

theorem count_le_of_visits (hp : p.Lawful headerLen) {x y : S × List Error}
    (hv : Loop.Visits (setPass p.reader p.decodeSet) x y) : (p.reader x.1).count ≤ (p.reader y.1).count := by
  refine hv.invariant (P := fun z => (p.reader x.1).count ≤ (p.reader z.1).count) ?_ (Nat.le_refl _)
  rintro n ⟨t, errs⟩ ⟨t', errs'⟩ ht hnext
  obtain ⟨hlen, err, hset, -⟩ := setPass_eq_next.mp hnext
  obtain ⟨k, -, -, hr⟩ := hp.forward n t t' err hlen hset
  rw [hr, Cursor.advance_count]
  dsimp only at ht
  omega

/-- The sets that are entered stand in the order of the packet: one that is entered at an earlier place than the
set behind `s` is `s`, or stands before it. -/
theorem Enters.before_next (hp : p.Lawful headerLen) {s₀ : S} {errs : List Error} (hh : p.HeaderOk b header r)
    (hv : Loop.Visits (setPass p.reader p.decodeSet) (p.start header r, []) (s, errs))
    (hset : p.decodeSet fuel s = some (s', err)) (h₀ : p.Enters b s₀)
    (hlt : (p.reader s₀).count < (p.reader s').count) : s₀ = s ∨ (p.reader s₀).count < (p.reader s).count := by
  obtain ⟨header', r', hh', errs₀, hv₀, hlen₀⟩ := h₀
  obtain ⟨rfl, rfl⟩ := hh.unique hh'
  have hfam : Loop.Family (setPass p.reader p.decodeSet) := setPass_family hp.family
  have hunique : Relator.RightUnique fun x y => ∃ n, setPass p.reader p.decodeSet n x = some (.next y) := by
    rintro x y z ⟨n, hn⟩ ⟨m, hm⟩
    exact LoopStep.next.inj (hfam.unique hn hm)
  rcases Relation.ReflTransGen.total_of_right_unique hunique hv₀ hv with hback | hon
  · rcases hback.cases_head with heq | ⟨⟨t, errs'⟩, ⟨n, hn⟩, hrest⟩
    · exact .inl (Prod.mk.inj heq).1
    · obtain ⟨-, err', ht, -⟩ := setPass_eq_next.mp hn
      obtain ⟨k, hk4, -, hr⟩ := hp.forward n s₀ t err' hlen₀ ht
      have hle := count_le_of_visits hp hrest
      dsimp only at hle
      rw [hr, Cursor.advance_count] at hle
      exact .inr (by omega)
  · rcases hon.cases_head with heq | ⟨⟨t, errs'⟩, ⟨n, hn⟩, hrest⟩
    · exact .inl (Prod.mk.inj heq).1.symm
    · obtain ⟨-, err', ht, -⟩ := setPass_eq_next.mp hn
      obtain ⟨rfl, -⟩ := Prod.mk.inj (hp.family.unique hset ht)
      have hle := count_le_of_visits hp hrest
      dsimp only at hle
      omega

/-- Where `Q` says which sets, of those that are not the last one, raise no error, there are no errors before a
set exactly if `Q` holds of all sets before it. -/
theorem errs_eq_nil_iff (hp : p.Lawful headerLen) {Q : S → Prop}
    (hQ : ∀ n s s' err, p.Enters b s → p.decodeSet n s = some (s', err) → 4 < (p.reader s').len → (err = none ↔ Q s))
    {errs : List Error} (hh : p.HeaderOk b header r)
    (hv : Loop.Visits (setPass p.reader p.decodeSet) (p.start header r, []) (s, errs)) (hlen : 4 < (p.reader s).len) :
    errs = [] ↔ ∀ s₀, p.Enters b s₀ → (p.reader s₀).count < (p.reader s).count → Q s₀ := by
  generalize hx : (s, errs) = x at hv
  induction hv generalizing s errs with
  | refl =>
    obtain ⟨rfl, rfl⟩ := Prod.mk.inj hx
    refine iff_of_true rfl fun s₀ h₀ hlt => ?_
    -- no set is entered before the first one
    obtain ⟨header', r', hh', errs₀, hv₀, -⟩ := h₀
    obtain ⟨rfl, rfl⟩ := hh.unique hh'
    exact absurd (count_le_of_visits hp hv₀) (Nat.not_le.mpr hlt)
  | @tail y z hv' hlast ih =>
    obtain rfl := hx
    obtain ⟨n, hn⟩ := hlast
    obtain ⟨t, errs'⟩ := y
    obtain ⟨hlen', err, hset, rfl⟩ := setPass_eq_next.mp hn
    have ht : p.Enters b t := ⟨header, r, hh, errs', hv', hlen'⟩
    obtain ⟨k, hk4, -, hr⟩ := hp.forward n t s err hlen' hset
    rw [List.append_eq_nil_iff, Option.toList_eq_nil_iff, ih hlen' rfl, hQ n t s err ht hset hlen]
    constructor
    · rintro ⟨hbefore, hQt⟩ s₀ h₀ hlt
      rcases h₀.before_next hp hh hv' hset hlt with rfl | hlt'
      · exact hQt
      · exact hbefore s₀ h₀ hlt'
    · intro hall
      rw [hr, Cursor.advance_count] at hall
      exact ⟨fun s₀ h₀ hlt => hall s₀ h₀ (by omega), hall t ht (by omega)⟩

/-! ## Decoding a packet from two starts -/

section related

variable {q : PacketDecoder H S} {t : S}

/-- Two decoders that differ in the state in which they start only, as they do for two caches. -/
structure SameCode (p q : PacketDecoder H S) : Prop where
  unmarshal : q.unmarshal = p.unmarshal
  validate : q.validate = p.validate
  reader : q.reader = p.reader
  decodeSet : q.decodeSet = p.decodeSet

/-- The two decoders come, after the same number of sets, to calls of `decodeSet` in the states `s` and `t`. -/
def EntersBoth (p q : PacketDecoder H S) (b : List UInt8) (s t : S) : Prop :=
  ∃ header r, p.HeaderOk b header r ∧
    VFlow.EntersBoth p.reader p.decodeSet (p.start header r) (q.start header r) s t

theorem EntersBoth.len (h : EntersBoth p q b s t) : 4 < (p.reader s).len := by
  obtain ⟨header, r, -, -, hlen⟩ := h
  exact hlen

theorem EntersBoth.invariant {R : S → S → Prop} (hstart : ∀ header r, R (p.start header r) (q.start header r))
    (hset : ∀ n s t s' t' err err', p.Enters b s → R s t → p.decodeSet n s = some (s', err) →
      p.decodeSet n t = some (t', err') → R s' t')
    (h : EntersBoth p q b s t) : p.Enters b s ∧ R s t := by
  obtain ⟨header, r, hh, hpair, hlen⟩ := h
  have hinv : ∀ x, Relation.ReflTransGen (BothSets p.reader p.decodeSet) (p.start header r, q.start header r) x →
      (4 < (p.reader x.1).len → p.Enters b x.1) ∧ R x.1 x.2 := by
    intro x hx
    induction hx with
    | refl => exact ⟨hh.enters, hstart header r⟩
    | tail _ hlast ih =>
      obtain ⟨hlen, n, err, err', hs, ht⟩ := hlast
      exact ⟨(ih.1 hlen).next hs, hset n _ _ _ _ err err' (ih.1 hlen) ih.2 hs ht⟩
  exact ⟨(hinv (s, t) hpair).1 hlen, (hinv (s, t) hpair).2⟩

theorem SameCode.headerOk_iff (hpq : SameCode p q) : q.HeaderOk b header r ↔ p.HeaderOk b header r := by
  rw [HeaderOk, HeaderOk, hpq.unmarshal, hpq.validate]

/-- Where calls of `decodeSet` in related states have the same error and lead to related states, the two
decoders end together: with the same error of the header, or with the same errors of the sets. -/
theorem Returns.related {R : S → S → Prop} (hpq : SameCode p q) (hread : ∀ s t, R s t → p.reader s = p.reader t)
    (hstart : ∀ header r, R (p.start header r) (q.start header r))
    (hset : ∀ n s t s' err, EntersBoth p q b s t → R s t → p.decodeSet n s = some (s', err) →
      ∃ t', p.decodeSet n t = some (t', err) ∧ R s' t')
    (h : p.Returns b e) :
    (∃ err, e = .error err ∧ q.Returns b (.error err)) ∨
      ∃ s t errs, e = .ok (.all s errs) ∧ q.Returns b (.ok (.all t errs)) ∧ R s t := by
  by_cases hh : ∃ header r, p.HeaderOk b header r
  · obtain ⟨header, r, hh⟩ := hh
    obtain ⟨end_, rfl, n, hn⟩ := (returns_iff_loop hh).mp h
    obtain ⟨s, errs, rfl⟩ := run_setPass_eq_all hn
    obtain ⟨t, ht, hR⟩ := decodeSets_related hread
      (fun n s t s' err hboth => hset n s t s' err ⟨header, r, hh, hboth⟩) (hstart header r) hn
    refine Or.inr ⟨s, t, errs, rfl, ?_, hR⟩
    rw [← hpq.reader, ← hpq.decodeSet] at ht
    exact (returns_iff_loop (hpq.headerOk_iff.mpr hh)).mpr ⟨_, rfl, n, ht⟩
  · obtain ⟨n, hn⟩ := h
    obtain ⟨err, herr⟩ := decode_of_not_headerOk hh
    rw [herr] at hn
    have hq : q.decode b 0 = p.decode b 0 := by
      rw [decode, decode, hpq.unmarshal, hpq.validate]
      cases hu : p.unmarshal (Reader.new b) with
      | error e r => rfl
      | ok header r =>
        cases hv : p.validate header with
        | some e => simp only [hv]
        | none => exact absurd ⟨header, r, hu, hv⟩ hh
    exact Or.inl ⟨err, (Option.some.inj hn).symm, 0, by rw [hq, herr]⟩

end related

end PacketDecoder

end VFlow
