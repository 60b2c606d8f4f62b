import VFlow.Net

/-!
# Errors of the flow decoders

The error values that reach `Decode` of the `ipfix` and `netflow9` packages, with their texts.
-/

namespace VFlow

/-- The package that reports an error. -/
inductive Protocol where
  | ipfix
  | netflow9
  deriving DecidableEq, Repr

inductive Error where
  /-- `errReader` of package `reader`. -/
  | errReader
  /-- `io.ErrUnexpectedEOF`. -/
  | errUnexpectedEOF
  | invalidVersion (p : Protocol) (version : UInt16)
  | unknownTemplate (p : Protocol) (raddr : IP) (id : UInt16)
  /-- An element that is not in `InfoModel`, met in the scope fields or in the other fields. -/
  | unknownElement (p : Protocol) (id : UInt16) (scope : Bool)
  /-- `errors.New` of a text. -/
  | text (s : String)
  deriving DecidableEq, Repr

namespace Error

def error : Error → String
  | errReader => "can not read the data"
  | errUnexpectedEOF => "unexpected EOF"
  | invalidVersion .ipfix version => s!"invalid ipfix version ({version})"
  | invalidVersion .netflow9 version => s!"invalid netflow version ({version})"
  | unknownTemplate .ipfix raddr id => raddr.string ++ s!" unknown ipfix template id# {id}"
  | unknownTemplate .netflow9 raddr id => raddr.string ++ s!" unknown netflow template id# {id}"
  | unknownElement .ipfix id false => s!"IPFIX element key ({id}) not exist"
  | unknownElement .ipfix id true => s!"IPFIX element key ({id}) not exist (scope)"
  | unknownElement .netflow9 id false => s!"Netflow element key ({id}) not exist"
  | unknownElement .netflow9 id true => s!"Netflow element key ({id}) not exist (scope)"
  | text s => s

/-- The case `nonfatalError` of the type switch in `Decode`. Both packages declare `nonfatalError`
as an interface type with the method set of `error`, and an interface case is taken by every value
whose dynamic type has the methods of the interface, so by every error, also one that was never
converted to `nonfatalError`. -/
def isNonfatalError : Error → Bool
  | errReader | errUnexpectedEOF | invalidVersion .. | unknownTemplate .. | unknownElement .. | text _ => true

@[simp] theorem isNonfatalError_eq_true (e : Error) : e.isNonfatalError = true := by
  cases e <;> rfl

/-- The errors that the decoders convert to `nonfatalError`: an unknown template or element. -/
def Skippable : Error → Prop
  | unknownTemplate .. | unknownElement .. => True
  | _ => False

instance : DecidablePred Skippable := fun e => by
  cases e <;> simp only [Skippable] <;> infer_instance

/-- The errors that are not converted to `nonfatalError` where they are raised. -/
def Fatal (e : Error) : Prop := ¬ e.Skippable

end Error

/-- `combineErrors`, the same in both packages. -/
def combineErrors : List Error → Option Error
  | [] => none
  | [e] => some e
  | errs => some (.text (errs.foldl (fun msg e => msg ++ ("\n- " ++ e.error)) "Multiple errors:"))

@[simp] theorem combineErrors_eq_none (errs : List Error) : combineErrors errs = none ↔ errs = [] := by
  cases errs with
  | nil => simp [combineErrors]
  | cons e es => cases es <;> simp [combineErrors]

end VFlow
