import Mathlib.Tactic.Common

/-!
# Values of JSON

A value as a parser leaves it, and the questions that a reader asks of it.
-/

namespace Json

inductive Number where
  | integer (value : Int)
  /-- Any other number, as it is written. -/
  | decimal (text : String)
  deriving DecidableEq

inductive Value where
  | null
  | bool (value : Bool)
  | number (value : Number)
  | string (value : String)
  | array (items : List Value)
  | object (members : List (String × Value))

namespace Value

/-- The member of an object. -/
def get (key : String) : Value → Option Value
  | object members => members.lookup key
  | _ => none

def asBool : Value → Option Bool
  | bool value => some value
  | _ => none

def asStr : Value → Option String
  | string value => some value
  | _ => none

def asArray : Value → Option (List Value)
  | array items => some items
  | _ => none

def asObject : Value → Option (List (String × Value))
  | object members => some members
  | _ => none

def isNull : Value → Bool
  | null => true
  | _ => false

/-- The text of an object's member, where it has one. -/
def text (key : String) (value : Value) : Option String := (value.get key).bind asStr

end Value

/-- An unsigned number of 64 bits. -/
def Number.asU64 : Number → Option Nat
  | integer value => if 0 ≤ value ∧ value < 0x10000000000000000 then some value.toNat else none
  | decimal _ => none

/-- A signed number of 32 bits. -/
def Number.asI32 : Number → Option Int
  | integer value => if -0x80000000 ≤ value ∧ value < 0x80000000 then some value else none
  | decimal _ => none

end Json
