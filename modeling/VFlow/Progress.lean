import VFlow.Ipfix.Termination
import VFlow.Netflow9.Termination

/-!
# Every set makes progress

`Decode` goes on after every error of `decodeSet`, so nothing but the bytes of the packet bounds the number of calls.
Each call that returns pays for itself: it has read the four bytes of a set header at least, whichever way it ended
(`Lawful.forward`). The charge rule of the loop library turns this into a bound on the calls, the one that may not
return included (`After.charge`).

What was read and what is left to read make up the packet at all times. The methods of the reader keep the sum
(`Reader.Made.count_add_len`), and nothing else can change a reader; the states of the loops are given explicitly.
-/

namespace VFlow

open Scan Reader

/-! ## The reader of a packet -/

/-- A reader that was made for the packet, after any calls of its methods. -/
inductive Reader.Made (b : List UInt8) : Reader → Prop
  | new : Made b (Reader.new b)
  | uint8 {r : Reader} (h : Made b r) : Made b (final (Reader.uint8 r))
  | uint16 {r : Reader} (h : Made b r) : Made b (final (Reader.uint16 r))
  | uint32 {r : Reader} (h : Made b r) : Made b (final (Reader.uint32 r))
  | uint64 {r : Reader} (h : Made b r) : Made b (final (Reader.uint64 r))
  | read {r : Reader} (n : Nat) (h : Made b r) : Made b (final (Reader.read n r))

theorem Reader.Made.count_add_len {b : List UInt8} {r : Reader} (h : Made b r) : r.count + r.len = b.length := by
  induction h with
  | new => exact Nat.zero_add _
  | uint8 _ ih => exact (forward_uint8.count_add_len _).trans ih
  | uint16 _ ih => exact (reads_uint16.forward.count_add_len _).trans ih
  | uint32 _ ih => exact (reads_uint32.forward.count_add_len _).trans ih
  | uint64 _ ih => exact (forward_uint64.count_add_len _).trans ih
  | read n _ ih => exact ((Forward.take _ n).count_add_len _).trans ih

/-! ## The calls of `decodeSet` -/

namespace PacketDecoder

variable {H S : Type} (p : PacketDecoder H S)

/-- `Decode` has made `n` calls of `decodeSet`, which returned, and is about to look whether there is another set. -/
def After (b : List UInt8) (n : Nat) (s : S) (decodeErrors : List Error) : Prop :=
  ∃ header r, p.HeaderOk b header r ∧
    Loop.VisitsIn (setPass p.reader p.decodeSet) (p.start header r, []) n (s, decodeErrors)

/-- After `n` calls `Decode` makes another one in the state `s`. -/
def Calls (b : List UInt8) (n : Nat) (s : S) : Prop := ∃ decodeErrors, p.After b n s decodeErrors ∧ 4 < (p.reader s).len

/-- What a decoder is to make of a packet, set by set. -/
structure Progress (b : List UInt8) : Prop where
  /-- The calls that are counted are those that `Decode` makes. -/
  enters : ∀ s, p.Enters b s ↔ ∃ n, p.Calls b n s
  /-- A call that returns, whatever its error, has read four bytes at least and not more than there were. -/
  consumes : ∀ n s fuel s' err, p.Calls b n s → p.decodeSet fuel s = some (s', err) →
    ∃ k, 4 ≤ k ∧ k ≤ (p.reader s).len ∧ p.reader s' = (p.reader s).advance k
  /-- The call after `n` others is one of at most `b.length / 4`, even if it should not return. -/
  calls : ∀ n s, p.Calls b n s → n + 1 ≤ b.length / 4
  /-- If `Decode` returns it has made as many calls. -/
  ends : ∀ s decodeErrors, p.Returns b (.ok (.all s decodeErrors)) →
    ∃ n, p.After b n s decodeErrors ∧ n ≤ b.length / 4
  counts : ∀ n s decodeErrors, p.After b n s decodeErrors → (p.reader s).count + (p.reader s).len = b.length

variable {p} {b : List UInt8} {n headerLen : Nat} {s : S} {decodeErrors : List Error}

theorem enters_iff_calls : p.Enters b s ↔ ∃ n, p.Calls b n s := by
  constructor
  · rintro ⟨header, r, hh, errs, hv, hlen⟩
    obtain ⟨n, hn⟩ := Loop.visits_iff_visitsIn.mp hv
    exact ⟨n, errs, ⟨header, r, hh, hn⟩, hlen⟩
  · rintro ⟨n, errs, ⟨header, r, hh, hn⟩, hlen⟩
    exact ⟨header, r, hh, errs, Loop.visits_iff_visitsIn.mpr ⟨n, hn⟩, hlen⟩

theorem After.within (hp : p.Lawful headerLen) (h : p.After b n s decodeErrors) : p.Within headerLen b s := by
  obtain ⟨header, r, hh, hn⟩ := h
  refine (Loop.visits_iff_visitsIn.mpr ⟨n, hn⟩).invariant (P := fun x => p.Within headerLen b x.1) ?_ (hh.within hp)
  rintro k ⟨s, errs⟩ ⟨s', errs'⟩ hs hnext
  obtain ⟨hlen, err, hset, -⟩ := setPass_eq_next.mp hnext
  exact hs.decodeSet hp hlen hset

theorem After.charge (hp : p.Lawful headerLen) (h : p.After b n s decodeErrors) :
    (p.reader s).len + 4 * n ≤ b.length := by
  obtain ⟨header, r, hh, hn⟩ := h
  have hstart := (hh.within hp).len
  have hcharge := hn.charge (c := 4) (μ := fun x => (p.reader x.1).len) (by
    rintro k ⟨s, errs⟩ ⟨s', errs'⟩ hnext
    obtain ⟨hlen, err, hset, -⟩ := setPass_eq_next.mp hnext
    obtain ⟨j, hj4, hj, hr⟩ := hp.forward k s s' err hlen hset
    dsimp only
    rw [hr, Cursor.len_advance]
    omega)
  exact hcharge.trans (hstart ▸ Nat.le_add_left _ _)

theorem Lawful.progress (hp : p.Lawful headerLen) (b : List UInt8) : p.Progress b where
  enters _ := enters_iff_calls
  consumes n s fuel s' err := by
    rintro ⟨errs, -, hlen⟩ hset
    exact hp.forward fuel s s' err hlen hset
  calls n s := by
    rintro ⟨errs, h, hlen⟩
    have hcharge := h.charge hp
    omega
  ends s errs h := by
    by_cases hh : ∃ header r, p.HeaderOk b header r
    · obtain ⟨header, r, hh⟩ := hh
      obtain ⟨end_, hend, m, hm⟩ := (returns_iff_loop hh).mp h
      obtain ⟨n, ⟨t, errs'⟩, hn, hdone⟩ := Loop.VisitsIn.of_run hm
      obtain ⟨-, rfl⟩ := setPass_eq_done.mp hdone
      obtain ⟨rfl, rfl⟩ := SetsEnd.all.inj (Except.ok.inj hend)
      have hafter : p.After b n s errs := ⟨header, r, hh, hn⟩
      have hcharge := hafter.charge hp
      exact ⟨n, hafter, by omega⟩
    · obtain ⟨err, herr⟩ := decode_of_not_headerOk hh
      obtain ⟨m, hm⟩ := h
      rw [herr] at hm
      exact nomatch hm
  counts n s errs h := (h.within hp).len

theorem Enters.count_add_len (hp : p.Lawful headerLen) (h : p.Enters b s) {r : Reader} (hr : (p.reader s).Past r) :
    r.count + r.len = b.length := by
  obtain ⟨k, -, hk, rfl⟩ := hr
  exact (Cursor.count_add_len_advance hk).trans (h.within hp).len

end PacketDecoder

/-! ## Both decoders -/

/-- In both decoders every call of `decodeSet` that returns has consumed between four bytes and all there are, there
are at most a quarter as many calls as bytes, and what was read and what is left make up the packet: between the calls,
at every pass of the loop in a call, and after any use of the reader. -/
theorem decode_progress (im : IANAInfoModel) (raddr : IP) (b : List UInt8) :
    (∀ mem, (Ipfix.packetDecoder im raddr mem).Progress b ∧
      ∀ s x, Ipfix.Enters im raddr mem b s → Ipfix.EntersPass im raddr s x →
        x.1.reader.count + x.1.reader.len = b.length) ∧
    (∀ mem, (Netflow9.packetDecoder im raddr mem).Progress b ∧
      ∀ s x, Netflow9.Enters im raddr mem b s → Netflow9.EntersPass im raddr s x →
        x.1.reader.count + x.1.reader.len = b.length) ∧
    ∀ r, Reader.Made b r → r.count + r.len = b.length := by
  refine ⟨fun mem => ⟨Ipfix.packetDecoder_lawful.progress b, fun s x hs hx => ?_⟩,
    fun mem => ⟨Netflow9.packetDecoder_lawful.progress b, fun s x hs hx => ?_⟩, fun r hr => hr.count_add_len⟩
  · exact PacketDecoder.Enters.count_add_len Ipfix.packetDecoder_lawful hs (Ipfix.setLoop_visits_past hs.len hx.2)
  · exact PacketDecoder.Enters.count_add_len Netflow9.packetDecoder_lawful hs (Netflow9.setLoop_visits_past hs.len hx.2)

/-- A message with two sets of length zero, and a byte. -/
def zeroLengthSets : List UInt8 :=
  [0, 10, 0, 25, 0, 0, 0, 0, 0, 0, 0, 0, 0, 0, 0, 0, 0, 2, 0, 0, 0, 2, 0, 0, 0]

theorem decode_progress_zeroLengthSets :
    ∃ s, (Ipfix.packetDecoder infoModel [192, 0, 2, 1] .empty).After zeroLengthSets 1 s [.errUnexpectedEOF] ∧
      (Ipfix.packetDecoder infoModel [192, 0, 2, 1] .empty).Calls zeroLengthSets 1 s ∧
      s.reader.count + s.reader.len = 25 ∧ 1 + 1 ≤ zeroLengthSets.length / 4 := by
  obtain ⟨hprogress, -⟩ := (decode_progress infoModel [192, 0, 2, 1] zeroLengthSets).1 .empty
  have hafter : (Ipfix.packetDecoder infoModel [192, 0, 2, 1] .empty).After zeroLengthSets 1 _ [.errUnexpectedEOF] :=
    ⟨_, _, ⟨rfl, rfl⟩, Loop.VisitsIn.zero.succ (k := 0) rfl⟩
  have hcalls : (Ipfix.packetDecoder infoModel [192, 0, 2, 1] .empty).Calls zeroLengthSets 1 _ :=
    ⟨_, hafter, by decide⟩
  exact ⟨_, hafter, hcalls, hprogress.counts _ _ _ hafter, hprogress.calls _ _ hcalls⟩

end VFlow
