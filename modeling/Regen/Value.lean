import Regen.Text.Quoted

/-!
# Values

What variables of a function body stand for. Headers and bodies give integers and texts; a truth value only
comes from outside.
-/

namespace Regen

/-- A value of the directive language. -/
inductive Value where
  | int (n : Int)
  | text (chars : Text)
  | bool (b : Bool)
deriving DecidableEq, Repr

namespace Value

/-- The largest number of digits with which an integer is read or written. -/
def maxDigits : Nat := 4300

/-- Whether the value can be written: an integer must not have too many digits. -/
def isWritable : Value → Bool
  | int n => (Text.ofNat n.natAbs).length ≤ maxDigits
  | _ => true

/-- The text that inserting the value writes. -/
def written : Value → Text
  | int n => Text.ofInt n
  | text chars => chars
  | bool true => "True".toList
  | bool false => "False".toList

/-- How a message shows the value: a text between quotes, anything else as it is written. -/
def shown : Value → Text
  | text chars => chars.quoted
  | value => value.written

end Value

end Regen
