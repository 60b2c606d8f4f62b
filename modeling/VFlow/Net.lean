import Mathlib.Tactic.Common

/-!
# Addresses

`net.IP` is a byte string of 4 or 16 bytes (other lengths are printed as an error form). Only the
printed form is needed by the decoders, as the agent id of a message and in error texts.
-/

namespace VFlow

abbrev IP := List UInt8

namespace IP

/-- `IP.To4`: the last four bytes of a 4-byte or IPv4-mapped address. -/
def to4 (ip : IP) : Option IP :=
  if ip.length = 4 then some ip
  else if ip.length = 16 ∧ ip.take 12 = List.replicate 10 0 ++ [0xff, 0xff] then some (ip.drop 12)
  else none

def hexDigits (n : Nat) : String := String.ofList (Nat.toDigits 16 n)

/-- Two hexadecimal digits for each byte. -/
def hexString (b : List UInt8) : String :=
  String.join (b.map fun x => String.ofList [Nat.digitChar (x.toNat / 16), Nat.digitChar (x.toNat % 16)])

/-- The 16-bit groups of an IPv6 address. -/
def groups : List UInt8 → List Nat
  | a :: b :: rest => (a.toNat * 256 + b.toNat) :: groups rest
  | _ => []

/-- The first longest run of zero groups, as its start and length. -/
def longestZeros (gs : List Nat) : Nat × Nat :=
  (List.range gs.length).foldl (fun best i =>
    let run := ((gs.drop i).takeWhile (· = 0)).length
    if best.2 < run then (i, run) else best) (0, 0)

/-- `IP.String`. A run of zero groups is written `::` when it is longer than one group. -/
def string (ip : IP) : String :=
  if ip.length = 0 then "<nil>"
  else match to4 ip with
    | some p => ".".intercalate (p.map fun x => toString x.toNat)
    | none =>
      if ip.length ≠ 16 then "?" ++ hexString ip
      else
        let gs := groups ip
        let (start, run) := longestZeros gs
        let text := fun l : List Nat => ":".intercalate (l.map hexDigits)
        if run ≤ 1 then text gs
        else text (gs.take start) ++ "::" ++ text (gs.drop (start + run))

end IP

end VFlow
