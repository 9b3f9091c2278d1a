import Mathlib.Order.Compare
import Std.Data.ExtTreeMap

/-!
# Application identifiers

The checked identifier that keys every table of the supervisor, and the order
of the maps it keys.
-/

namespace Remagic

/-- The bytes `AppId::new` admits: lower-case ASCII letters, digits and the hyphen. -/
def idByte (c : Char) : Bool := c.isLower || c.isDigit || c == '-'

/-- The check of `AppId::new`. An accepted identifier is ASCII, so that the
    byte length that the source bounds is its number of characters. -/
def validId (value : String) : Bool :=
  !value.isEmpty && decide (value.utf8ByteSize ≤ 64) && value.toList.all idByte &&
    value.toList.head? != some '-' && value.toList.getLast? != some '-'

/-- An identifier that passed `AppId::new`. -/
structure AppId where
  value : String
  valid : validId value = true
deriving DecidableEq

namespace AppId

/-- `AppId::new`: the identifier, or the rejected text. -/
def new (value : String) : Except String AppId :=
  if valid : validId value = true then .ok ⟨value, valid⟩ else .error value

instance : Ord AppId := ⟨compareOn AppId.value⟩

instance : Std.TransOrd AppId := inferInstanceAs (Std.TransCmp (compareOn AppId.value))

instance : Std.LawfulEqOrd AppId where
  eq_of_compare {a b} same := by
    have values : a.value = b.value := Std.LawfulEqOrd.eq_of_compare (α := String) same
    cases a
    cases b
    cases values
    rfl

end AppId
end Remagic
