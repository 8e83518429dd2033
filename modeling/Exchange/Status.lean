-- SUMMARY: Response statuses: classes, fixed codes, and the coercion of loosely typed values.
import Exchange.Data.Value
import Exchange.Data.Digits
import Exchange.Data.Blank

/-!
# Status

A status is a number of sixteen bits whose hundreds tell success from failure.
`Status.coerce` makes one of a number or of a text that spells a number: taken
as the nearest double, truncated toward zero, and only if it then lies in
`1 .. 65535`. What is infinite as a double is past that range.
-/

namespace Exchange

structure Status where
  code : UInt16
  deriving DecidableEq, Repr

namespace Status

/-! ## Codes -/

def ok : Status := ⟨200⟩
def created : Status := ⟨201⟩
def badRequest : Status := ⟨400⟩
def notFound : Status := ⟨404⟩
def internalError : Status := ⟨500⟩

/-- The status code of a successful `unsubscribe`. -/
def unsubscribedCode : String := "200.1"

/-- The status code of a request that lacks a parameter. -/
def missingParameterCode : String := "400.5"

def toNat (s : Status) : Nat :=
  s.code.toNat

def text (s : Status) : String :=
  toString s.toNat

/-! ## Classes -/

inductive Class where
  | success
  | clientError
  | serverError
  | other (hundreds : Nat)
  deriving DecidableEq, Repr

/-- The class that the hundreds of a status stand for. -/
def classOf (s : Status) : Class :=
  match s.toNat / 100 with
  | 2 => .success
  | 4 => .clientError
  | 5 => .serverError
  | n => .other n

def isError (s : Status) : Bool :=
  match s.classOf with
  | .clientError | .serverError => true
  | _ => false

/-- A missing status counts as 500. -/
def orInternal (s : Option Status) : Status :=
  s.getD internalError

/-! ## Coercion -/

/-- The status with a whole number from `1` to `65535`. -/
def ofInt? (n : Int) : Option Status :=
  if 1 ≤ n ∧ n ≤ 65535 then some ⟨UInt16.ofNat n.toNat⟩ else none

/-- The double that a value stands for, if it is a number, or a text that spells one between blanks. -/
def numeric? : Value → Option Double
  | .number n => n.toDouble?
  | .text s => do
    let (negative, d) ← Decimal.parse? (Blank.trim s.toList)
    Double.ofDecimal? negative d
  | _ => none

/-- The status that a double truncates to. -/
def ofDouble? (x : Double) : Option Status :=
  ofInt? x.trunc

/-- The status that a value stands for, if it is a number or a text. -/
def coerce (v : Value) : Option Status :=
  (numeric? v).bind ofDouble?

end Status

end Exchange
