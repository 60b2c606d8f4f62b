import Mathlib.Algebra.GroupWithZero.Nat
import Mathlib.Algebra.Ring.Int.Defs
import VFlow.Base.Json

/-!
# JSON values into Go values

`json.Unmarshal` puts a value into a variable that may have one already. `null` leaves a number, a string and a struct
as they are, and a struct keeps the fields that have no member. The elements of an array go one after the other into
the elements that a slice has, also into those behind its end, which an earlier and longer array left there. So if a
member is named twice the second value is put over the first.

A value of the wrong type makes the whole call fail, here `none`.
-/

namespace Json

/-- The new value of a variable, for its old value and the JSON. -/
abbrev Unmarshal (T : Type) := T → Json → Option T

/-! ## Numbers and strings -/

def unmarshalInt : Unmarshal Int
  | _, .int i => if -9223372036854775808 ≤ i ∧ i ≤ 9223372036854775807 then some i else none
  | old, .null => some old
  | _, _ => none

/-- A number without a sign, of `size` bits. -/
def unmarshalUint (size : Nat) : Unmarshal Nat
  | _, .int i => if 0 ≤ i ∧ i < 2 ^ size then some i.toNat else none
  | old, .null => some old
  | _, _ => none

def unmarshalString : Unmarshal (List UInt8)
  | _, .str s => some s
  | old, .null => some old
  | _, _ => none

/-- An `interface{}`, which is nil or has the value that was given. -/
def unmarshalInterface : Json → Option Json
  | .null => none
  | j => some j

theorem unmarshalInt_int64 (old : Int) (n : Int64) :
    (unmarshalInt old (.int n.toInt)).map Int64.ofInt = some n := by
  have hlow := n.le_toInt
  have hhigh := n.toInt_lt
  rw [unmarshalInt, if_pos ⟨by omega, by omega⟩, Option.map_some, Int64.ofInt_toInt]

theorem unmarshalUint_int {size n : Nat} (old : Nat) (h : n < 2 ^ size) :
    unmarshalUint size old (.int n) = some n := by
  have hn : (n : Int) < 2 ^ size := by exact_mod_cast h
  rw [unmarshalUint, if_pos ⟨Int.natCast_nonneg n, hn⟩, Int.toNat_natCast]

/-! ## Slices -/

/-- A slice: its elements, and those that its array has behind its end. -/
structure Slice (α : Type) where
  live : List α := []
  stale : List α := []

section slice

variable {α β : Type} (item : Unmarshal α) (zero : α)

/-- The elements of an array into those of a slice, and what is left of these. -/
def unmarshalItems : List α → List Json → Option (List α × List α)
  | old, [] => some ([], old)
  | old, j :: js => do
    let x ← item (old.headD zero) j
    let (xs, stale) ← unmarshalItems old.tail js
    return (x :: xs, stale)

/-- An empty array is a slice of its own. -/
def unmarshalSlice : Unmarshal (Slice α)
  | _, .arr [] => some {}
  | old, .arr (j :: js) =>
    (unmarshalItems item zero (old.live ++ old.stale) (j :: js)).map fun p => ⟨p.1, p.2⟩
  | _, .null => some {}
  | _, _ => none

variable {item}

theorem unmarshalItems_map {f : β → Json} {value : α → β} (h : ∀ old x, ∃ c, item old (f x) = some c ∧ value c = x)
    (old : List α) (xs : List β) :
    ∃ cs stale, unmarshalItems item zero old (xs.map f) = some (cs, stale) ∧ cs.map value = xs := by
  induction xs generalizing old with
  | nil => exact ⟨[], old, rfl, rfl⟩
  | cons x xs ih =>
    obtain ⟨c, hc, hx⟩ := h (old.headD zero) x
    obtain ⟨cs, stale, hcs, hxs⟩ := ih old.tail
    refine ⟨c :: cs, stale, ?_, by rw [List.map_cons, hx, hxs]⟩
    rw [List.map_cons, unmarshalItems, hc, hcs]
    rfl

variable {zero}

theorem unmarshalSlice_map {f : β → Json} {value : α → β} (h : ∀ old x, ∃ c, item old (f x) = some c ∧ value c = x)
    (old : Slice α) (xs : List β) :
    ∃ s, unmarshalSlice item zero old (.arr (xs.map f)) = some s ∧ s.live.map value = xs := by
  cases xs with
  | nil => exact ⟨{}, rfl, rfl⟩
  | cons x xs =>
    obtain ⟨cs, stale, hcs, hxs⟩ := unmarshalItems_map zero h (old.live ++ old.stale) (x :: xs)
    refine ⟨⟨cs, stale⟩, ?_, hxs⟩
    rw [List.map_cons] at hcs ⊢
    rw [unmarshalSlice, hcs, Option.map_some]

theorem unmarshalItems_nil {f : β → Json} {g : β → α} (h : ∀ x, item zero (f x) = some (g x)) (xs : List β) :
    unmarshalItems item zero [] (xs.map f) = some (xs.map g, []) := by
  induction xs with
  | nil => rfl
  | cons x xs ih =>
    rw [List.map_cons, unmarshalItems, List.headD_nil, h x, List.tail_nil, ih]
    rfl

theorem unmarshalSlice_empty {f : β → Json} {g : β → α} (h : ∀ x, item zero (f x) = some (g x)) (xs : List β) :
    unmarshalSlice item zero {} (.arr (xs.map f)) = some { live := xs.map g } := by
  cases xs with
  | nil => rfl
  | cons x xs =>
    have hitems := unmarshalItems_nil h (x :: xs)
    rw [List.map_cons] at hitems ⊢
    rw [unmarshalSlice, List.append_nil, hitems, Option.map_some]

end slice

/-! ## Pointers and maps -/

/-- `null` makes a pointer nil; other values go into what it points to, which may have to be made. -/
def unmarshalPtr {α : Type} (pointee : Unmarshal α) (zero : α) : Unmarshal (Option α)
  | _, .null => some none
  | old, j => (pointee (old.getD zero) j).map some

section pointers

variable {α : Type} (pointee : Unmarshal α) (zero : α) (old : Option α)

theorem unmarshalPtr_obj (ms : List (List UInt8 × Json)) :
    unmarshalPtr pointee zero old (.obj ms) = (pointee (old.getD zero) (.obj ms)).map some := rfl

theorem unmarshalPtr_arr (js : List Json) :
    unmarshalPtr pointee zero old (.arr js) = (pointee (old.getD zero) (.arr js)).map some := rfl

end pointers

/-- The entries of an object are added to a map, in front of those that it has; the value of an entry is new. -/
def unmarshalMap {κ α : Type} (key : List UInt8 → Option κ) (item : Json → Option α) : Unmarshal (List (κ × α))
  | old, .obj ms => do
    let entries ← ms.mapM fun m => do
      let k ← key m.1
      let x ← item m.2
      return (k, x)
    return entries.reverse ++ old
  | _, _ => none

/-! ## Structs -/

/-- The name of a member up to case. Besides the letters of ASCII, `U+017F` is a lower-case `s` and
`U+212A` a lower-case `k`. -/
def foldName : List UInt8 → List UInt8
  | 0xc5 :: 0xbf :: w => 0x53 :: foldName w
  | 0xe2 :: 0x84 :: 0xaa :: w => 0x4b :: foldName w
  | c :: w => (if 0x61 ≤ c ∧ c ≤ 0x7a then c - 0x20 else c) :: foldName w
  | [] => []

def named (name : String) (key : List UInt8) : Bool := foldName key = foldName (text name)

theorem named_self (name : String) : named name (text name) = true := decide_eq_true rfl

section struct

variable {T : Type}

/-- A field of a struct: its name, and what is done with the struct when a member has this name. -/
abbrev Setter (T : Type) := String × Unmarshal T

/-- The field that `get` and `put` select. -/
def Setter.of {A : Type} (name : String) (f : Unmarshal A) (get : T → A) (put : T → A → T) : Setter T :=
  (name, fun t j => (f (get t) j).map (put t))

/-- The member of an object sets the field with its name, if there is one. -/
def setMember (fields : List (Setter T)) (t : T) (m : List UInt8 × Json) : Option T :=
  match fields.find? fun f => named f.1 m.1 with
  | some f => f.2 t m.2
  | none => some t

def unmarshalStruct (fields : List (Setter T)) : Unmarshal T
  | t, .obj ms => ms.foldlM (setMember fields) t
  | t, .null => some t
  | _, _ => none

end struct

end Json
