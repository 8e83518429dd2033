-- SUMMARY: Structured values: null, booleans, integers and doubles, text, lists, and objects with ordered keys.
import Exchange.Data.Double

/-!
# Structured values

What requests and responses carry. Integers and doubles stay distinct. An
object is the list of its members; `Members` keeps such a list in the order of
its keys, one member a key, and `Value.Ordered` says that every object inside a
value is of that kind.
-/

namespace Exchange

/-- An integer that sixty-four bits hold, with or without a sign. -/
structure Integer where
  val : Int
  bounded : -2 ^ 63 ≤ val ∧ val < 2 ^ 64
  deriving DecidableEq, Repr

inductive Number where
  | int (n : Integer)
  | double (x : Double)
  deriving DecidableEq, Repr

/-- The double nearest to a number. -/
def Number.toDouble? : Number → Option Double
  | .int n => Double.ofInt? n.val
  | .double x => some x

inductive Value where
  | null
  | bool (b : Bool)
  | number (n : Number)
  | text (s : String)
  | list (items : List Value)
  | object (members : List (String × Value))
  deriving Repr

/-! ## Members by key -/

namespace Members

variable {α : Type}

/-- Puts `value` under `key`, in the place that the order of keys gives it. -/
def insert (key : String) (value : α) : List (String × α) → List (String × α)
  | [] => [(key, value)]
  | (k, v) :: rest =>
    if key < k then (key, value) :: (k, v) :: rest
    else if key = k then (key, value) :: rest
    else (k, v) :: insert key value rest

/-- The members in the order of their keys; of several with one key the last counts. -/
def ofList (members : List (String × α)) : List (String × α) :=
  members.foldl (fun sorted m => insert m.1 m.2 sorted) []

def get? (key : String) : List (String × α) → Option α
  | [] => none
  | (k, v) :: rest => if k = key then some v else get? key rest

def erase (key : String) (members : List (String × α)) : List (String × α) :=
  members.filter fun m => m.1 ≠ key

def keys (members : List (String × α)) : List String :=
  members.map (·.1)

/-- Keys in strictly increasing order. -/
def Sorted (members : List (String × α)) : Prop :=
  members.Pairwise fun a b => a.1 < b.1

end Members

/-! ## Constructors and views -/

namespace Value

/-- The integer `n`, or the double nearest to it where sixty-four bits do not hold it. -/
def ofInt (n : Int) : Value :=
  if h : -2 ^ 63 ≤ n ∧ n < 2 ^ 64 then .number (.int ⟨n, h⟩)
  else
    match Double.ofInt? n with
    | some x => .number (.double x)
    | none => .null

def ofNat (n : Nat) : Value :=
  ofInt n

/-- The object with the given members, in the order of their keys. -/
def ofMembers (members : List (String × Value)) : Value :=
  .object (Members.ofList members)

def asText? : Value → Option String
  | .text s => some s
  | _ => none

def asNat? : Value → Option Nat
  | .number (.int n) => if 0 ≤ n.val then some n.val.toNat else none
  | _ => none

def isObject : Value → Bool
  | .object _ => true
  | _ => false

/-- The member `key` of an object. -/
def get? (key : String) : Value → Option Value
  | .object members => Members.get? key members
  | _ => none

/-- What an absent value is written as. -/
def ofOption : Option Value → Value
  | some v => v
  | none => .null

/-- Every object inside the value has its keys in strictly increasing order. -/
inductive Ordered : Value → Prop where
  | null : Ordered .null
  | bool (b : Bool) : Ordered (.bool b)
  | number (n : Number) : Ordered (.number n)
  | text (s : String) : Ordered (.text s)
  | list {items : List Value} : (∀ v ∈ items, Ordered v) → Ordered (.list items)
  | object {members : List (String × Value)} :
      Members.Sorted members → (∀ m ∈ members, Ordered m.2) → Ordered (.object members)

end Value

end Exchange
